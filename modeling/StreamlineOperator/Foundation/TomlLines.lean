/- source: general support, no source file
   digest: Comments, headers and simple members, as printed one to a line, are read back. -/

import Mathlib.Data.List.TakeDrop
import StreamlineOperator.Foundation.TomlText

set_option autoImplicit false
set_option relaxedAutoImplicit false

namespace StreamlineOperator.Foundation

namespace Toml

def isBareKey (name : String) : Bool := !name.toList.isEmpty && name.toList.all isBareKeyChar

/-- A line as a program prints it, one thing to a line. -/
inductive SimpleLine where
  | comment (text : String)
  | blank
  | header (name : String)
  | quoted (name text : String)
  | flag (name : String) (value : Bool)

namespace SimpleLine

def print : SimpleLine → String
  | comment text => "#" ++ text ++ "\n"
  | blank => "\n"
  | header name => "[" ++ name ++ "]\n"
  | quoted name text => name ++ " = \"" ++ text ++ "\"\n"
  | flag name value => name ++ " = " ++ toString value ++ "\n"

/-- What the line says, if it says anything. -/
def meaning : SimpleLine → Option Line
  | comment _ => none
  | blank => none
  | header name => some (.tableHeader [name])
  | quoted name text => some (.keyValue [name] (.string text))
  | flag name value => some (.keyValue [name] (.boolean value))

/-- Nothing on the line would need an escape. -/
def isPlain : SimpleLine → Bool
  | comment text => text.toList.all (fun c => !isControl c)
  | blank => true
  | header name => isBareKey name
  | quoted name text => isBareKey name && text.toList.all Toml.isPlain
  | flag name _ => isBareKey name

end SimpleLine

/-- The lines one after the other. -/
def printed (ps : List SimpleLine) : List Char := ps.flatMap (fun p => p.print.toList)

theorem printed_eq_toList (ps : List SimpleLine) :
    printed ps = (ps.foldr (fun p text => p.print ++ text) "").toList := by
  induction ps with
  | nil => rfl
  | cons p ps ih =>
    rw [List.foldr_cons, String.toList_append, ← ih]
    rfl

/-! Reading what stands at the front of a line. -/

section Front

variable {words fuel : Nat} {name : String} {rest : List Char}

private theorem bareKeyChar_ne {c d : Char} (hc : isBareKeyChar c = true)
    (hd : isBareKeyChar d = false) : c ≠ d := by
  rintro rfl
  rw [hc] at hd
  cases hd

private theorem exists_bareKeyChar (h : isBareKey name = true) :
    ∃ c cs, name.toList = c :: cs ∧ isBareKeyChar c = true := by
  rw [isBareKey, Bool.and_eq_true] at h
  cases hchars : name.toList with
  | nil => simp [hchars] at h
  | cons c cs =>
    rw [hchars] at h
    exact ⟨c, cs, rfl, List.all_eq_true.mp h.2 c (by simp)⟩

private theorem skipBlanks_of_head (rest : List Char) {c : Char} (h : isBlank c = false) :
    skipBlanks (c :: rest) = c :: rest := by
  simp [skipBlanks, h]

private theorem span_append (rest : List Char) {p : Char → Bool} {front : List Char}
    (hfront : front.all p = true) {c : Char} (hc : p c = false) :
    (front ++ c :: rest).span p = (front, c :: rest) := by
  have hall : ∀ d ∈ front, p d = true := List.all_eq_true.mp hfront
  rw [List.span_eq_takeWhile_dropWhile, List.takeWhile_append_of_pos hall,
    List.dropWhile_append_of_pos hall, List.takeWhile_cons_of_neg (by simp [hc]),
    List.dropWhile_cons_of_neg (by simp [hc]), List.append_nil]

theorem simpleKey_bare (h : isBareKey name = true) {c : Char} (hc : isBareKeyChar c = false) :
    simpleKey (name.toList ++ c :: rest) = some (name, c :: rest) := by
  obtain ⟨d, ds, hname, hd⟩ := exists_bareKeyChar h
  have hall : name.toList.all isBareKeyChar = true := (Bool.and_eq_true _ _ ▸ h).2
  have hspan := span_append rest hall hc
  unfold simpleKey
  split
  · rename_i tail hinput
    rw [hname] at hinput
    exact absurd (List.cons.inj hinput).1 (bareKeyChar_ne hd (by decide))
  · rename_i tail hinput
    rw [hname] at hinput
    exact absurd (List.cons.inj hinput).1 (bareKeyChar_ne hd (by decide))
  · rw [hspan, hname]
    simp [← hname]

theorem key_bare (fuel : Nat) (rest : List Char) (h : isBareKey name = true) {c : Char}
    (hc : isBareKeyChar c = false) (hdot : ∀ r, skipBlanks (c :: rest) ≠ '.' :: r) :
    key (fuel + 1) (name.toList ++ c :: rest) = some ([name], c :: rest) := by
  rw [key, simpleKey_bare h hc, Option.bind_eq_bind, Option.bind_some]
  dsimp only
  split
  · exact absurd ‹_› (hdot _)
  · rfl

private theorem skipBlanks_space (c : Char) (hc : isBlank c = false) :
    skipBlanks (' ' :: c :: rest) = c :: rest := by
  have hspace : skipBlanks (' ' :: c :: rest) = skipBlanks (c :: rest) := rfl
  rw [hspace, skipBlanks_of_head rest hc]

private theorem lines_of_line {c : Char} (hc : isBlank c = false)
    (hstart : (c = '#' || c = '\n' || c = '\r') = false) :
    lines words (fuel + 1) (c :: rest) =
      (line words (c :: rest)).bind (fun r => (lineEnd r.2).bind (fun behind =>
        (lines words fuel behind).map (r.1 :: ·))) := by
  rw [lines, skipBlanks_of_head rest hc]
  dsimp only
  rw [hstart, if_neg (by simp)]
  rfl

theorem lines_keyValue (h : isBareKey name = true) {c : Char} (hc : isBlank c = false) :
    lines (words + 1) (fuel + 1) (name.toList ++ ' ' :: '=' :: ' ' :: c :: rest) =
      (value (words + 1) (c :: rest)).bind (fun r => (lineEnd r.2).bind (fun behind =>
        (lines (words + 1) fuel behind).map (Line.keyValue [name] r.1 :: ·))) := by
  obtain ⟨d, ds, hname, hd⟩ := exists_bareKeyChar h
  have hne {other : Char} (hother : isBareKeyChar other = false) : d ≠ other :=
    bareKeyChar_ne hd hother
  have hline : line (words + 1) (name.toList ++ ' ' :: '=' :: ' ' :: c :: rest) =
      (value (words + 1) (c :: rest)).map (fun r => (Line.keyValue [name] r.1, r.2)) := by
    have hkey := key_bare words ('=' :: ' ' :: c :: rest) h (c := ' ') (by decide)
      (by simp [skipBlanks_space '=' (by decide)])
    unfold line
    split
    · rename_i hinput
      rw [hname] at hinput
      exact absurd (List.cons.inj hinput).1 (hne (by decide))
    · rename_i hinput
      rw [hname] at hinput
      exact absurd (List.cons.inj hinput).1 (hne (by decide))
    · rw [keyValue, hkey, Option.bind_eq_bind, Option.bind_some]
      dsimp only
      rw [skipBlanks_space '=' (by decide)]
      change Option.map _ (Option.map _ (value (words + 1) (skipBlanks (' ' :: c :: rest)))) = _
      rw [skipBlanks_space c hc, Option.map_map]
      rfl
  rw [hname, List.cons_append] at hline ⊢
  rw [lines_of_line (by simp [isBlank, hne (show isBareKeyChar ' ' = false by decide),
      hne (show isBareKeyChar '\t' = false by decide)])
    (by simp [hne (show isBareKeyChar '#' = false by decide),
      hne (show isBareKeyChar '\n' = false by decide),
      hne (show isBareKeyChar '\r' = false by decide)]), hline]
  cases value (words + 1) (c :: rest) <;> rfl

private theorem comment_append {text : List Char} (h : text.all (fun c => !isControl c) = true) :
    comment (text ++ '\n' :: rest) = some rest := by
  induction text with
  | nil => rfl
  | cons c text ih =>
    simp only [List.all_cons, Bool.and_eq_true, Bool.not_eq_true'] at h
    rw [List.cons_append]
    unfold comment
    split
    · simp_all
    · rename_i hinput
      obtain ⟨rfl, -⟩ := List.cons.inj hinput
      exact absurd h.1 (by decide)
    · rename_i hinput
      obtain ⟨rfl, -⟩ := List.cons.inj hinput
      exact absurd h.1 (by decide)
    · rename_i hinput
      obtain ⟨rfl, rfl⟩ := List.cons.inj hinput
      rw [h.1, if_neg (by simp), ih h.2]

theorem lines_comment {text : List Char} (h : text.all (fun c => !isControl c) = true) :
    lines words (fuel + 1) ('#' :: (text ++ '\n' :: rest)) = lines words fuel rest := by
  have hend : lineEnd ('#' :: (text ++ '\n' :: rest)) = some rest := by
    rw [lineEnd, skipBlanks_of_head _ (by decide)]
    exact comment_append h
  rw [lines, skipBlanks_of_head _ (by decide)]
  dsimp only
  rw [if_pos (by decide), hend, Option.bind_some]

theorem lines_blank (rest : List Char) :
    lines words (fuel + 1) ('\n' :: rest) = lines words fuel rest := rfl

theorem lines_header (h : isBareKey name = true) :
    lines (words + 1) (fuel + 1) ('[' :: (name.toList ++ ']' :: '\n' :: rest)) =
      (lines (words + 1) fuel rest).map (Line.tableHeader [name] :: ·) := by
  obtain ⟨d, ds, hname, hd⟩ := exists_bareKeyChar h
  have hne {other : Char} (hother : isBareKeyChar other = false) : d ≠ other :=
    bareKeyChar_ne hd hother
  have hskip : skipBlanks (name.toList ++ ']' :: '\n' :: rest) =
      name.toList ++ ']' :: '\n' :: rest := by
    rw [hname, List.cons_append]
    exact skipBlanks_of_head _ (by simp [isBlank, hne (show isBareKeyChar ' ' = false by decide),
      hne (show isBareKeyChar '\t' = false by decide)])
  have hkey := key_bare words ('\n' :: rest) h (c := ']') (by decide)
    (by simp [skipBlanks_of_head ('\n' :: rest) (c := ']') (by decide)])
  have hline : line (words + 1) ('[' :: (name.toList ++ ']' :: '\n' :: rest)) =
      some (Line.tableHeader [name], '\n' :: rest) := by
    unfold line
    split
    · rename_i hinput
      rw [hname] at hinput
      exact absurd (List.cons.inj (List.cons.inj hinput).2).1 (hne (by decide))
    · rename_i hinput
      obtain ⟨-, rfl⟩ := List.cons.inj hinput
      rw [hskip, hkey, Option.bind_eq_bind, Option.bind_some]
      rfl
    · rename_i hinput
      exact absurd rfl (hinput _)
  rw [lines_of_line (by decide) (by decide), hline]
  rfl

theorem lines_quoted (h : isBareKey name = true) {text : List Char}
    (htext : text.all isPlain = true) :
    lines (words + 1) (fuel + 1)
        (name.toList ++ ' ' :: '=' :: ' ' :: '"' :: (text ++ '"' :: '\n' :: rest)) =
      (lines (words + 1) fuel rest).map
        (Line.keyValue [name] (.string (String.ofList text)) :: ·) := by
  have hvalue : value (words + 1) ('"' :: (text ++ '"' :: '\n' :: rest)) =
      some (.string (String.ofList text), '\n' :: rest) := by
    rw [value, stringValue_plain htext]
    rfl
  rw [lines_keyValue h (by decide), hvalue]
  rfl

private theorem value_word {input : List Char}
    (h : ∀ c ∈ input.head?, c ≠ '"' ∧ c ≠ '\'' ∧ c ≠ '[' ∧ c ≠ '{') :
    value (words + 1) input = (wordValue (wordAt input).1).map (·, (wordAt input).2) := by
  rw [value]
  · rintro tail rfl
    exact (h _ rfl).1 rfl
  · rintro tail rfl
    exact (h _ rfl).2.1 rfl
  · rintro tail rfl
    exact (h _ rfl).2.2.1 rfl
  · rintro tail rfl
    exact (h _ rfl).2.2.2 rfl

theorem lines_flag (h : isBareKey name = true) (flag : Bool) :
    lines (words + 1) (fuel + 1)
        (name.toList ++ ' ' :: '=' :: ' ' :: ((toString flag).toList ++ '\n' :: rest)) =
      (lines (words + 1) fuel rest).map (Line.keyValue [name] (.boolean flag) :: ·) := by
  have hword : wordAt ((toString flag).toList ++ '\n' :: rest) =
      ((toString flag).toList, '\n' :: rest) := by
    rw [wordAt, span_append _ (by cases flag <;> decide) (by decide)]
    rfl
  have hvalue : value (words + 1) ((toString flag).toList ++ '\n' :: rest) =
      some (.boolean flag, '\n' :: rest) := by
    have hhead : ∀ c ∈ ((toString flag).toList ++ '\n' :: rest).head?,
        c ≠ '"' ∧ c ≠ '\'' ∧ c ≠ '[' ∧ c ≠ '{' := by
      intro c hc
      cases flag <;> obtain rfl := Option.some.inj hc <;> decide
    rw [value_word hhead, hword]
    cases flag <;> rfl
  obtain ⟨c, cs, hchars, hc⟩ : ∃ c cs, (toString flag).toList = c :: cs ∧ isBlank c = false := by
    cases flag
    · exact ⟨'f', ['a', 'l', 's', 'e'], rfl, rfl⟩
    · exact ⟨'t', ['r', 'u', 'e'], rfl, rfl⟩
  rw [hchars, List.cons_append] at hvalue ⊢
  rw [lines_keyValue h hc, hvalue]
  rfl

end Front

theorem lines_print {p : SimpleLine} (h : p.isPlain = true) (words fuel : Nat)
    (rest : List Char) :
    lines (words + 1) (fuel + 1) (p.print.toList ++ rest) =
      (lines (words + 1) fuel rest).map (p.meaning.toList ++ ·) := by
  have hid (o : Option (List Line)) : o = o.map ([] ++ ·) := by cases o <;> rfl
  cases p with
  | comment text =>
    have hprint : (SimpleLine.comment text).print.toList ++ rest =
        '#' :: (text.toList ++ '\n' :: rest) := by
      simp [SimpleLine.print]
    rw [hprint, lines_comment h]
    exact hid _
  | blank => exact (lines_blank rest).trans (hid _)
  | header name =>
    have hprint : (SimpleLine.header name).print.toList ++ rest =
        '[' :: (name.toList ++ ']' :: '\n' :: rest) := by
      simp [SimpleLine.print]
    rw [hprint, lines_header h]
    rfl
  | quoted name text =>
    have hprint : (SimpleLine.quoted name text).print.toList ++ rest =
        name.toList ++ ' ' :: '=' :: ' ' :: '"' :: (text.toList ++ '"' :: '\n' :: rest) := by
      simp [SimpleLine.print]
    simp only [SimpleLine.isPlain, Bool.and_eq_true] at h
    rw [hprint, lines_quoted h.1 h.2, String.ofList_toList]
    rfl
  | flag name value =>
    have hprint : (SimpleLine.flag name value).print.toList ++ rest =
        name.toList ++ ' ' :: '=' :: ' ' :: ((toString value).toList ++ '\n' :: rest) := by
      simp [SimpleLine.print]
    rw [hprint, lines_flag h]
    rfl

theorem lines_printed {ps : List SimpleLine} (h : ∀ p ∈ ps, p.isPlain = true) (words fuel : Nat)
    (rest : List Char) :
    lines (words + 1) (ps.length + fuel) (printed ps ++ rest) =
      (lines (words + 1) fuel rest).map (ps.filterMap SimpleLine.meaning ++ ·) := by
  induction ps with
  | nil =>
    simp only [printed, List.flatMap_nil, List.nil_append, List.length_nil, Nat.zero_add,
      List.filterMap_nil]
    cases lines (words + 1) fuel rest <;> rfl
  | cons p ps ih =>
    rw [List.forall_mem_cons] at h
    have hfuel : (p :: ps).length + fuel = ps.length + fuel + 1 := by
      rw [List.length_cons]
      omega
    have hprinted : printed (p :: ps) ++ rest = p.print.toList ++ (printed ps ++ rest) := by
      simp [printed]
    rw [hfuel, hprinted, lines_print h.1, ih h.2, Option.map_map]
    cases lines (words + 1) fuel rest <;> cases hp : p.meaning <;> simp [hp]

theorem length_le_printed (ps : List SimpleLine) : ps.length ≤ (printed ps).length := by
  induction ps with
  | nil => exact Nat.zero_le _
  | cons p ps ih =>
    have hprint : 1 ≤ p.print.toList.length := by
      cases p <;> simp [SimpleLine.print] <;> omega
    simp only [printed, List.flatMap_cons, List.length_append, List.length_cons] at ih ⊢
    omega

theorem no_three_quotes {ps : List SimpleLine} (h : ∀ p ∈ ps, p.print.toList.count '"' ≤ 2) :
    ¬ ['"', '"', '"'] <:+: '\n' :: printed ps := by
  induction ps with
  | nil => decide
  | cons p ps ih =>
    rw [List.forall_mem_cons] at h
    obtain ⟨body, hbody⟩ : ∃ body, p.print.toList = body ++ ['\n'] := by
      cases p with
      | comment text => exact ⟨'#' :: text.toList, by simp [SimpleLine.print]⟩
      | blank => exact ⟨[], rfl⟩
      | header name => exact ⟨'[' :: name.toList ++ [']'], by simp [SimpleLine.print]⟩
      | quoted name text =>
        exact ⟨name.toList ++ [' ', '=', ' ', '"'] ++ text.toList ++ ['"'],
          by simp [SimpleLine.print]⟩
      | flag name value =>
        exact ⟨name.toList ++ [' ', '=', ' '] ++ (toString value).toList,
          by simp [SimpleLine.print]⟩
    rintro ⟨front, rest, hquotes⟩
    have hline : front ++ ['"', '"', '"'] ++ rest = ('\n' :: body) ++ '\n' :: printed ps := by
      rw [hquotes, printed, List.flatMap_cons, hbody]
      simp [printed]
    rcases three_quotes_line _ _ _ hline with ⟨behind, hfront⟩ | hbehind
    · have hcount := congrArg (List.count '"') hfront
      have hprint := h.1
      rw [hbody] at hprint
      simp only [List.count_append, List.count_cons, List.count_nil] at hcount hprint
      simp only [beq_self_eq_true, if_true] at hcount
      have hbreak : ('\n' == '"') = false := by decide
      simp only [hbreak, Bool.false_eq_true, if_false] at hcount hprint
      omega
    · exact ih h.2 hbehind

/-- A document of plain lines says what they say, and nothing else. -/
theorem parse_printed {ps : List SimpleLine} (h : ∀ p ∈ ps, p.isPlain = true) {text : String}
    (htext : text.toList = printed ps) :
    parse text =
      ((ps.filterMap SimpleLine.meaning).foldlM State.step {}).map State.root := by
  have hlength := length_le_printed ps
  rw [← htext, String.length_toList] at hlength
  have hfuel : text.length + 1 = ps.length + (text.length - ps.length + 1) := by omega
  have hlines := lines_printed h (2 * text.length + 1) (text.length - ps.length + 1) []
  rw [List.append_nil, ← htext, ← hfuel] at hlines
  rw [parse, hlines]
  simp only [lines, skipBlanks, List.dropWhile_nil, Option.map_some, Option.bind_eq_bind,
    Option.bind_some, List.append_nil]
  cases (ps.filterMap SimpleLine.meaning).foldlM State.step {} <;> rfl

/-- A document that puts some text between quotes, behind plain lines and with no three
quotes further down: the key is set, and to the text itself only if that is plain. -/
theorem parse_quoted {ps : List SimpleLine} (h : ∀ p ∈ ps, p.isPlain = true) {name s : String}
    (hname : isBareKey name = true) {r : List Char} (hr : ¬ ['"', '"', '"'] <:+: '\n' :: r)
    {text : String}
    (htext : text.toList = printed ps ++ ((SimpleLine.quoted name s).print.toList ++ r))
    {document : Members} (hparse : parse text = some document) :
    ∃ v ls final,
      (ps.filterMap SimpleLine.meaning ++ Line.keyValue [name] (.string v) :: ls).foldlM
          State.step {} = some final ∧
        document = final.root ∧ (v = s → s.toList.all isPlain = true) := by
  obtain ⟨all, hall, hparse⟩ := Option.bind_eq_some_iff.mp hparse
  obtain ⟨final, hfinal, hdocument⟩ := Option.bind_eq_some_iff.mp hparse
  have hlength : ps.length ≤ text.length := by
    have hps := length_le_printed ps
    have htotal := congrArg List.length htext
    rw [String.length_toList, List.length_append] at htotal
    omega
  have hfuel : text.length + 1 = ps.length + (text.length - ps.length + 1) := by omega
  have hprint : (SimpleLine.quoted name s).print.toList ++ r =
      name.toList ++ ' ' :: '=' :: ' ' :: '"' :: (s.toList ++ '"' :: '\n' :: r) := by
    simp [SimpleLine.print]
  rw [htext, hfuel, lines_printed h, hprint, lines_keyValue hname (by decide)] at hall
  obtain ⟨own, hown, rfl⟩ := Option.map_eq_some_iff.mp hall
  obtain ⟨⟨v, behind⟩, hvalue, hown⟩ := Option.bind_eq_some_iff.mp hown
  obtain ⟨rest, -, hown⟩ := Option.bind_eq_some_iff.mp hown
  obtain ⟨ls, -, rfl⟩ := Option.map_eq_some_iff.mp hown
  rw [value] at hvalue
  obtain ⟨⟨chars, behind'⟩, hstring, hv⟩ := Option.map_eq_some_iff.mp hvalue
  obtain ⟨rfl, -⟩ := Prod.mk.inj hv
  refine ⟨String.ofList chars, ls, final, hfinal, (Option.some.inj hdocument).symm, ?_⟩
  rintro rfl
  rw [String.toList_ofList] at hstring ⊢
  rcases stringValue_quoted hr hstring with ⟨hplain, -⟩ | hshorter
  · exact hplain
  · exact absurd hshorter (Nat.lt_irrefl _)

end Toml

end StreamlineOperator.Foundation
