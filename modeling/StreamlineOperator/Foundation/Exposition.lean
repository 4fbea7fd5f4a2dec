/- source: general support, no source file
   digest: The text format of a metrics page: comments, samples, and the value of a series. -/

import StreamlineOperator.Foundation.Text

set_option autoImplicit false
set_option relaxedAutoImplicit false

namespace StreamlineOperator.Foundation.Exposition

/-- One sample. A series is written with its labels. -/
structure Sample where
  series : String
  value : Nat
  deriving DecidableEq, Repr

def isComment (line : List Char) : Bool := line.head? = some '#'

/-- The number some decimal digits stand for. -/
def decimal? (digits : List Char) : Option Nat :=
  if digits.isEmpty || !digits.all Char.isDigit then none
  else some (Nat.ofDigitChars 10 digits 0)

/-- What stands before the last space of a line. -/
def seriesPart (line : List Char) : List Char :=
  ((line.reverse.dropWhile (· ≠ ' ')).drop 1).reverse

/-- What stands after the last space of a line. -/
def valuePart (line : List Char) : List Char := (line.reverse.takeWhile (· ≠ ' ')).reverse

def sample? (line : List Char) : Option Sample :=
  if isComment line then none
  else (decimal? (valuePart line)).map fun value => ⟨String.ofList (seriesPart line), value⟩

/-- The samples of a page, line by line. -/
def samples (page : String) : List Sample := (page.toList.splitOn '\n').filterMap sample?

def lookup (all : List Sample) (series : String) : Option Nat :=
  (all.find? (fun sample => sample.series = series)).map Sample.value

/-- The value a page shows for a series. -/
def value? (page series : String) : Option Nat := lookup (samples page) series

def isSeriesText (text : List Char) : Bool :=
  text.all (· ≠ '\n') && text.head?.any (· ≠ '#')

/-- What may stand in front of the value: a part of one line that is no comment. -/
def IsSeries (series : String) : Prop := isSeriesText series.toList = true

/-- A comment with the end of its line. -/
def isCommentLine (text : List Char) : Bool :=
  isComment text.dropLast && text.dropLast.all (· ≠ '\n') && text.getLast? = some '\n'

/-! Series. -/

theorem isSeries_ofList {text : List Char} (h : isSeriesText text = true) :
    IsSeries (String.ofList text) := by
  rw [IsSeries, String.toList_ofList]
  exact h

section Series

variable {series : String} (h : IsSeries series)

include h

theorem IsSeries.newline_notMem : '\n' ∉ series.toList := by
  intro hmem
  simp only [IsSeries, isSeriesText, Bool.and_eq_true, List.all_eq_true] at h
  have hne := h.1 _ hmem
  simp at hne

theorem IsSeries.head?_ne : series.toList.head? ≠ some '#' := by
  intro hhead
  simp [IsSeries, isSeriesText, hhead] at h

theorem IsSeries.head?_append (rest : List Char) :
    (series.toList ++ rest).head? = series.toList.head? := by
  simp only [IsSeries, isSeriesText, Bool.and_eq_true] at h
  cases hchars : series.toList with
  | nil => simp [hchars] at h
  | cons c text => rfl

theorem IsSeries.append {labels : String} (hlabels : '\n' ∉ labels.toList) :
    IsSeries (series ++ labels) := by
  have hhead := h.head?_append labels.toList
  simp only [IsSeries, isSeriesText, Bool.and_eq_true] at h ⊢
  rw [String.toList_append, List.all_append, Bool.and_eq_true, hhead]
  refine ⟨⟨h.1, ?_⟩, h.2⟩
  rw [List.all_eq_true]
  intro c hc
  refine decide_eq_true ?_
  rintro rfl
  exact hlabels hc

end Series

/-! The parts of a line. -/

theorem isDigit_of_mem_repr {n : Nat} {c : Char} (hc : c ∈ n.repr.toList) : c.isDigit = true := by
  rw [Nat.toList_repr] at hc
  exact Nat.isDigit_of_mem_toDigits (by decide) (by decide) hc

theorem decimal?_repr (n : Nat) : decimal? n.repr.toList = some n := by
  have hdigits : n.repr.toList.all Char.isDigit = true := by
    rw [List.all_eq_true]
    intro c hc
    exact isDigit_of_mem_repr hc
  have hne : n.repr.toList.isEmpty = false := by
    rw [Nat.toList_repr]
    simp
  rw [decimal?, hdigits, hne, Bool.not_true, Bool.or_self, if_neg Bool.false_ne_true,
    Nat.toList_repr, Nat.ofDigitChars_toDigits (by decide) (by decide)]

theorem not_space_of_mem_repr {n : Nat} {c : Char} (hc : c ∈ n.repr.toList) : c ≠ ' ' := by
  rintro rfl
  exact absurd (isDigit_of_mem_repr hc) (by decide)

theorem valuePart_append (series : List Char) (n : Nat) :
    valuePart (series ++ ' ' :: n.repr.toList) = n.repr.toList := by
  have hall : ∀ c ∈ n.repr.toList.reverse, decide (c ≠ ' ') = true := by
    intro c hc
    exact decide_eq_true (not_space_of_mem_repr (List.mem_reverse.mp hc))
  have hreverse : (series ++ ' ' :: n.repr.toList).reverse =
      n.repr.toList.reverse ++ ' ' :: series.reverse := by simp
  rw [valuePart, hreverse, List.takeWhile_append_of_pos hall, List.takeWhile_cons_of_neg (by simp),
    List.append_nil, List.reverse_reverse]

theorem seriesPart_append (series : List Char) (n : Nat) :
    seriesPart (series ++ ' ' :: n.repr.toList) = series := by
  have hall : ∀ c ∈ n.repr.toList.reverse, decide (c ≠ ' ') = true := by
    intro c hc
    exact decide_eq_true (not_space_of_mem_repr (List.mem_reverse.mp hc))
  have hreverse : (series ++ ' ' :: n.repr.toList).reverse =
      n.repr.toList.reverse ++ ' ' :: series.reverse := by simp
  rw [seriesPart, hreverse, List.dropWhile_append_of_pos hall, List.dropWhile_cons_of_neg (by simp),
    List.drop_one, List.tail_cons, List.reverse_reverse]

theorem sample?_append {series : String} (h : IsSeries series) (n : Nat) :
    sample? (series.toList ++ ' ' :: n.repr.toList) = some ⟨series, n⟩ := by
  have hno : isComment (series.toList ++ ' ' :: n.repr.toList) = false := by
    rw [isComment, h.head?_append]
    exact decide_eq_false h.head?_ne
  rw [sample?, hno, if_neg Bool.false_ne_true, valuePart_append, seriesPart_append, decimal?_repr,
    Option.map_some, String.ofList_toList]

/-! A page, line by line. -/

/-- The first line of a text and what follows it. -/
theorem samples_of_toList {page rest : String} {line : List Char} (hline : '\n' ∉ line)
    (hpage : page.toList = line ++ '\n' :: rest.toList) :
    samples page = (sample? line).toList ++ samples rest := by
  rw [samples, samples, hpage, List.splitOn_append_cons_self, List.splitOn_eq_singleton hline,
    List.singleton_append, List.filterMap_cons]
  cases sample? line <;> rfl

@[simp] theorem samples_empty : samples "" = [] := by decide

theorem samples_comment {text : List Char} (h : isCommentLine text = true) (rest : String) :
    samples (String.ofList text ++ rest) = samples rest := by
  simp only [isCommentLine, Bool.and_eq_true, decide_eq_true_eq] at h
  obtain ⟨⟨hcomment, hline⟩, hlast⟩ := h
  have hend : '\n' ∉ text.dropLast := by
    intro hmem
    have hne := List.all_eq_true.mp hline _ hmem
    simp at hne
  have hpage : (String.ofList text ++ rest).toList = text.dropLast ++ '\n' :: rest.toList := by
    obtain ⟨front, hfront⟩ := List.getLast?_eq_some_iff.mp hlast
    rw [String.toList_append, String.toList_ofList, hfront, List.dropLast_concat,
      List.append_assoc, List.singleton_append]
  rw [samples_of_toList hend hpage, sample?, hcomment, if_pos rfl, Option.toList_none,
    List.nil_append]

theorem samples_sample {series : String} (h : IsSeries series) (n : Nat) (rest : String) :
    samples (series ++ (" " ++ (n.repr ++ ("\n" ++ rest)))) = ⟨series, n⟩ :: samples rest := by
  have hline : '\n' ∉ series.toList ++ ' ' :: n.repr.toList := by
    intro hmem
    rcases List.mem_append.mp hmem with hmem | hmem
    · exact h.newline_notMem hmem
    · rcases List.mem_cons.mp hmem with heq | hmem
      · exact absurd heq (by decide)
      · exact absurd (isDigit_of_mem_repr hmem) (by decide)
  have hpage : (series ++ (" " ++ (n.repr ++ ("\n" ++ rest)))).toList =
      (series.toList ++ ' ' :: n.repr.toList) ++ '\n' :: rest.toList := by
    simp [String.toList_append]
  rw [samples_of_toList hline hpage, sample?_append h]
  rfl

/-! Looking a series up. -/

section Lookup

variable {series : String} {rest : List Sample}

theorem lookup_cons_self (n : Nat) : lookup (⟨series, n⟩ :: rest) series = some n := by
  simp [lookup]

theorem lookup_cons_of_ne {first : Sample} (h : first.series ≠ series) :
    lookup (first :: rest) series = lookup rest series := by
  rw [lookup, List.find?_cons_of_neg (by simpa using h)]
  rfl

theorem lookup_append_of_ne {front : List Sample} (h : ∀ sample ∈ front, sample.series ≠ series) :
    lookup (front ++ rest) series = lookup rest series := by
  induction front with
  | nil => rfl
  | cons first front ih =>
    rw [List.cons_append, lookup_cons_of_ne (h first List.mem_cons_self)]
    exact ih fun sample hsample => h sample (List.mem_cons_of_mem _ hsample)

end Lookup

end StreamlineOperator.Foundation.Exposition
