/- source: general support, no source file
   digest: Blank strings, DNS-1123 names, decimal numerals, characters, ordered string maps. -/

import Mathlib.Tactic.Common

set_option autoImplicit false
set_option relaxedAutoImplicit false

namespace StreamlineOperator.Foundation

/-- A `BTreeMap<String, String>`: ordered by key, equal when the entries are. -/
abbrev StringMap := Std.ExtTreeMap String String

/-- The Unicode `White_Space` property, which is what `str::trim` strips. -/
def isWhiteSpace (c : Char) : Bool :=
  let n := c.toNat
  (9 ≤ n && n ≤ 13) || n == 0x20 || n == 0x85 || n == 0xA0 || n == 0x1680 ||
    (0x2000 ≤ n && n ≤ 0x200A) || n == 0x2028 || n == 0x2029 || n == 0x202F ||
    n == 0x205F || n == 0x3000

/-- `s.trim().is_empty()`. -/
def isBlank (s : String) : Bool := s.toList.all isWhiteSpace

def isLowerAlphanumeric (c : Char) : Bool :=
  ('a' ≤ c && c ≤ 'z') || ('0' ≤ c && c ≤ '9')

/-- One label of a DNS-1123 subdomain: lower case alphanumerics and dashes, with
an alphanumeric at both ends. -/
def isDns1123Label (cs : List Char) : Bool :=
  cs.all (fun c => isLowerAlphanumeric c || c == '-') &&
    cs.head?.any isLowerAlphanumeric && cs.getLast?.any isLowerAlphanumeric

/-- The names the Kubernetes API accepts for most kinds of object. -/
def isDns1123Subdomain (s : String) : Bool :=
  s.length ≤ 253 && (s.toList.splitOn '.').all isDns1123Label

private theorem mem_of_mem_intercalate {sep c : Char} {parts : List (List Char)} (hne : c ≠ sep)
    (hc : c ∈ [sep].intercalate parts) : ∃ part ∈ parts, c ∈ part := by
  induction parts with
  | nil => simp at hc
  | cons part parts ih =>
    cases parts with
    | nil => exact ⟨part, by simp, by simpa using hc⟩
    | cons next parts =>
      rw [List.intercalate_cons_cons] at hc
      simp only [List.mem_append, List.mem_singleton] at hc
      rcases hc with (hc | hc) | hc
      · exact ⟨part, by simp, hc⟩
      · exact absurd hc hne
      · obtain ⟨p, hp, hcp⟩ := ih hc
        exact ⟨p, List.mem_cons_of_mem _ hp, hcp⟩

theorem dns1123_char {s : String} (h : isDns1123Subdomain s = true) {c : Char}
    (hc : c ∈ s.toList) : c = '.' ∨ c = '-' ∨ isLowerAlphanumeric c = true := by
  simp only [isDns1123Subdomain, Bool.and_eq_true, List.all_eq_true] at h
  by_cases hdot : c = '.'
  · exact .inl hdot
  obtain ⟨label, hlabel, hmem⟩ : ∃ label ∈ s.toList.splitOn '.', c ∈ label := by
    have hjoin : List.intercalate ['.'] (s.toList.splitOn '.') = s.toList :=
      List.intercalate_splitOn '.'
    rw [← hjoin] at hc
    exact mem_of_mem_intercalate hdot hc
  have hl := h.2 label hlabel
  simp only [isDns1123Label, Bool.and_eq_true, List.all_eq_true, Bool.or_eq_true] at hl
  rcases hl.1.1 c hmem with hal | hdash
  · exact .inr (.inr hal)
  · exact .inr (.inl (by simpa using hdash))

/-- The name of a stored object. The API server admits no other. -/
structure ResourceName where
  value : String
  valid : isDns1123Subdomain value = true
  deriving DecidableEq

theorem ResourceName.ext {a b : ResourceName} (h : a.value = b.value) : a = b := by
  cases a
  cases b
  subst h
  rfl

/-! Decimal numerals. -/

theorem char_of_mem_repr {n : Int} {c : Char} (hc : c ∈ n.repr.toList) :
    c = '-' ∨ c.isDigit = true := by
  have hnat : ∀ {m : Nat}, c ∈ m.repr.toList → c.isDigit = true := by
    intro m hm
    rw [Nat.toList_repr] at hm
    exact Nat.isDigit_of_mem_toDigits (by decide) (by decide) hm
  rw [Int.repr_eq_if] at hc
  split at hc
  · exact .inr (hnat hc)
  · simp only [String.toList_append, List.mem_append] at hc
    rcases hc with hc | hc
    · exact .inl (by simpa using hc)
    · exact .inr (hnat hc)

theorem natRepr_injective {m n : Nat} (h : m.repr = n.repr) : m = n := by
  have hdigits : Nat.toDigits 10 m = Nat.toDigits 10 n := by
    rw [← Nat.toList_repr, ← Nat.toList_repr, h]
  rw [← Nat.ofDigitChars_toDigits (b := 10) (n := m) (by decide) (by decide), hdigits,
    Nat.ofDigitChars_toDigits (by decide) (by decide)]

theorem intRepr_injective {m n : Int} (h : m.repr = n.repr) : m = n := by
  have hsign : ∀ {k l : Nat}, k.repr ≠ "-" ++ l.repr := by
    intro k l heq
    have hmem : '-' ∈ k.repr.toList := by simp [heq]
    rw [Nat.toList_repr] at hmem
    exact absurd (Nat.isDigit_of_mem_toDigits (by decide) (by decide) hmem) (by decide)
  rw [Int.repr_eq_if, Int.repr_eq_if] at h
  split at h <;> split at h
  · have := natRepr_injective h
    omega
  · exact absurd h hsign
  · exact absurd h.symm hsign
  · have := natRepr_injective ((String.append_right_inj _).mp h)
    omega

theorem toString_int32_injective {m n : Int32} (h : toString m = toString n) : m = n := by
  have hint : m.toInt.repr = n.toInt.repr := h
  exact Int32.toInt_inj.mp (intRepr_injective hint)

theorem char_of_mem_toString_int32 {n : Int32} {c : Char} (hc : c ∈ (toString n).toList) :
    c = '-' ∨ c.isDigit = true :=
  char_of_mem_repr (n := n.toInt) hc

theorem afterLast_unique {c : Char} {a b s t : List Char} (hs : c ∉ s) (ht : c ∉ t)
    (h : a ++ c :: s = b ++ c :: t) : s = t := by
  rcases List.append_eq_append_iff.mp h with ⟨mid, rfl, hmid⟩ | ⟨mid, rfl, hmid⟩
  · cases mid with
    | nil => exact (List.cons.inj hmid).2
    | cons m mid =>
      obtain ⟨rfl, rfl⟩ := List.cons.inj hmid
      exact absurd (by simp) hs
  · cases mid with
    | nil => exact (List.cons.inj hmid).2.symm
    | cons m mid =>
      obtain ⟨rfl, rfl⟩ := List.cons.inj hmid
      exact absurd (by simp) ht

/-! Reading characters. -/

/-- A parser takes what it reads off the front of its input. -/
abbrev Parser (α : Type) : Type := List Char → Option (α × List Char)

def isDigit (c : Char) : Bool := '0' ≤ c && c ≤ '9'

def hexValue (c : Char) : Option Nat :=
  if '0' ≤ c ∧ c ≤ '9' then some (c.toNat - '0'.toNat)
  else if 'a' ≤ c ∧ c ≤ 'f' then some (c.toNat - 'a'.toNat + 10)
  else if 'A' ≤ c ∧ c ≤ 'F' then some (c.toNat - 'A'.toNat + 10)
  else none

/-- The number some hexadecimal digits stand for. -/
def hexNumber (digits : List Char) : Option Nat :=
  digits.foldlM (fun n c => (hexValue c).map (16 * n + ·)) 0

/-- The character of a scalar value. -/
def scalar (n : Nat) : Option Char :=
  if h : n.isValidChar then some (Char.ofNatAux n h) else none

/-! Texts by their beginning. -/

/-- `str::starts_with`. -/
def startsWith (text front : String) : Bool := front.toList.isPrefixOf text.toList

theorem startsWith_self (text : String) : startsWith text text = true :=
  List.isPrefixOf_iff_prefix.mpr List.prefix_rfl

theorem startsWith_append {front head : String} (h : startsWith head front = true)
    (rest : String) : startsWith (head ++ rest) front = true := by
  rw [startsWith, List.isPrefixOf_iff_prefix] at *
  rw [String.toList_append]
  exact h.trans (List.prefix_append _ _)

theorem startsWith_ofList (text front : List Char) :
    startsWith (String.ofList text) (String.ofList front) = front.isPrefixOf text := by
  rw [startsWith, String.toList_ofList, String.toList_ofList]

theorem startsWith_append_left (s text front : String) :
    startsWith (s ++ text) (s ++ front) = startsWith text front := by
  rw [startsWith, startsWith, Bool.eq_iff_iff, List.isPrefixOf_iff_prefix,
    List.isPrefixOf_iff_prefix, String.toList_append, String.toList_append,
    List.prefix_append_right_inj]

theorem startsWith_eq_false {front head : String} (hfront : startsWith head front = false)
    (hhead : startsWith front head = false) (rest : String) :
    startsWith (head ++ rest) front = false := by
  rw [startsWith, Bool.eq_false_iff, ne_eq, List.isPrefixOf_iff_prefix] at *
  intro hbefore
  rw [String.toList_append] at hbefore
  rcases List.prefix_or_prefix_of_prefix hbefore (List.prefix_append _ _) with h | h
  · exact hfront h
  · exact hhead h

theorem startsWith_append_eq {front head : String}
    (h : startsWith front head = true → startsWith head front = true) (rest : String) :
    startsWith (head ++ rest) front = startsWith head front := by
  cases hhead : startsWith head front with
  | true => exact startsWith_append hhead rest
  | false =>
    refine startsWith_eq_false hhead ?_ rest
    cases hfront : startsWith front head with
    | true => exact absurd (h hfront) (by simp [hhead])
    | false => rfl

/-- The first two letters of a text. -/
def initials (text : String) : List Char := text.toList.take 2

theorem initials_ofList {a b : Char} {letters : List Char} :
    initials (String.ofList (a :: b :: letters)) = [a, b] := by
  rw [initials, String.toList_ofList, List.take_succ_cons, List.take_succ_cons, List.take_zero]

theorem initials_append {a b : Char} {letters : List Char} (rest : String) :
    initials (String.ofList (a :: b :: letters) ++ rest) = [a, b] := by
  rw [initials, String.toList_append, String.toList_ofList, List.cons_append, List.cons_append,
    List.take_succ_cons, List.take_succ_cons, List.take_zero]

theorem initials_of_startsWith {text front : String} {a b : Char}
    (hfront : initials front = [a, b]) (h : startsWith text front = true) :
    initials text = [a, b] := by
  rw [startsWith, List.isPrefixOf_iff_prefix] at h
  obtain ⟨rest, hrest⟩ := h
  have hlength : 2 ≤ front.toList.length := by
    have htwo := congrArg List.length hfront
    simp only [initials, List.length_take, List.length_cons, List.length_nil] at htwo
    omega
  rw [initials, ← hrest, List.take_append_of_le_length hlength]
  exact hfront

theorem not_startsWith_of_initials {text front : String} {letters : List Char} {a b : Char}
    (htext : initials text = letters) (hfront : initials front = [a, b])
    (hother : letters ≠ [a, b]) : startsWith text front = false := by
  rw [Bool.eq_false_iff]
  intro hstarts
  exact hother (htext.symm.trans (initials_of_startsWith hfront hstarts))

namespace StringMap

theorem getElem?_insert' (m : StringMap) (k name v : String) :
    (m.insert k v)[name]? = if k = name then some v else m[name]? := by
  rw [Std.ExtTreeMap.getElem?_insert]
  simp

end StringMap

theorem assoc_lookup_cons {β : Type} (entries : List (String × β)) (k name : String) (v : β) :
    List.lookup name ((k, v) :: entries) =
      if k = name then some v else List.lookup name entries := by
  by_cases h : name = k
  · subst h
    simp
  · have hbeq : (name == k) = false := by simpa using h
    simp [List.lookup_cons, hbeq, Ne.symm h]

/-! Accumulated messages. -/

/-- One message, if the condition holds. -/
def reject (condition : Bool) (message : String) : List String :=
  if condition then [message] else []

@[simp] theorem reject_eq_nil {condition : Bool} {message : String} :
    reject condition message = [] ↔ condition = false := by
  cases condition <;> simp [reject]

@[simp] theorem mem_reject {condition : Bool} {message m : String} :
    m ∈ reject condition message ↔ condition = true ∧ m = message := by
  cases condition <;> simp [reject]

end StreamlineOperator.Foundation
