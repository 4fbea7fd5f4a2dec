/- source: general support, no source file
   digest: Text between quotes is read back when it is plain, and comes out shorter when it is not. -/

import StreamlineOperator.Foundation.Toml

set_option autoImplicit false
set_option relaxedAutoImplicit false

namespace StreamlineOperator.Foundation

namespace Toml

/-- A character that stands for itself between double quotes. -/
def isPlain (c : Char) : Bool := c != '"' && c != '\\' && !isControl c

theorem basicTail_plain {s : List Char} (h : s.all isPlain = true) {fuel : Nat}
    (hfuel : s.length < fuel) (rest : List Char) :
    basicTail fuel (s ++ '"' :: rest) = some (s, rest) := by
  induction s generalizing fuel with
  | nil =>
    obtain ⟨fuel, rfl⟩ : ∃ n, fuel = n + 1 := ⟨fuel - 1, by omega⟩
    simp [basicTail]
  | cons c s ih =>
    obtain ⟨fuel, rfl⟩ : ∃ n, fuel = n + 1 := ⟨fuel - 1, by omega⟩
    simp only [List.all_cons, Bool.and_eq_true, isPlain, bne_iff_ne, ne_eq,
      Bool.not_eq_true'] at h
    rw [List.cons_append, basicTail, if_neg h.1.1.1, if_neg h.1.1.2, h.1.2, if_neg (by simp),
      ih h.2 (by simpa using hfuel)]
    rfl

/-! Escapes. -/

private theorem hexValue_of_hexNumber {digits : List Char} {m n : Nat}
    (h : digits.foldlM (fun n c => (hexValue c).map (16 * n + ·)) m = some n) :
    ∀ d ∈ digits, hexValue d ≠ none := by
  induction digits generalizing m with
  | nil => simp
  | cons d digits ih =>
    obtain ⟨k, hk, hrest⟩ := Option.bind_eq_some_iff.mp h
    obtain ⟨v, hv, -⟩ := Option.map_eq_some_iff.mp hk
    rw [List.forall_mem_cons]
    exact ⟨by simp [hv], ih hrest⟩

theorem escapeSequence_eq_some {input rest : List Char} {char : Char}
    (h : escapeSequence input = some (char, rest)) :
    ∃ c digits, input = c :: (digits ++ rest) ∧ (∀ d ∈ digits, hexValue d ≠ none) ∧
      (c = '"' → digits = []) := by
  cases input with
  | nil => cases h
  | cons c tail =>
    rw [escapeSequence] at h
    by_cases hwidth : escapeWidth c = 0
    · rw [if_pos hwidth] at h
      obtain ⟨c', -, hpair⟩ := Option.map_eq_some_iff.mp h
      obtain ⟨rfl, rfl⟩ := Prod.mk.inj hpair
      exact ⟨c, [], rfl, by simp, fun _ => rfl⟩
    · rw [if_neg hwidth] at h
      split at h
      · cases h
      · obtain ⟨c', hchar, hpair⟩ := Option.map_eq_some_iff.mp h
        obtain ⟨rfl, rfl⟩ := Prod.mk.inj hpair
        obtain ⟨n, hn, -⟩ := Option.bind_eq_some_iff.mp hchar
        refine ⟨c, tail.take (escapeWidth c), ?_, hexValue_of_hexNumber hn, ?_⟩
        · rw [List.take_append_drop]
        · rintro rfl
          exact absurd rfl hwidth

private theorem escapeSequence_quoted {s r rest : List Char} {char : Char}
    (h : escapeSequence (s ++ '"' :: r) = some (char, rest)) :
    (∃ front back, s = front ++ back ∧ front ≠ [] ∧ rest = back ++ '"' :: r) ∨
      s = [] ∧ rest = r := by
  obtain ⟨c, digits, hinput, hdigits, hquote⟩ := escapeSequence_eq_some h
  cases s with
  | nil =>
    obtain ⟨rfl, htail⟩ := List.cons.inj hinput
    rw [hquote rfl] at htail
    exact .inr ⟨rfl, htail.symm⟩
  | cons c' s =>
    obtain ⟨rfl, htail⟩ := List.cons.inj hinput
    rcases List.append_eq_append_iff.mp htail with ⟨mid, rfl, hmid⟩ | ⟨mid, rfl, hmid⟩
    · cases mid with
      | nil => exact .inl ⟨c' :: s, [], by simp, by simp, by simpa using hmid.symm⟩
      | cons d mid =>
        obtain ⟨rfl, -⟩ := List.cons.inj hmid
        exact absurd (by decide) (hdigits '"' (by simp))
    · exact .inl ⟨c' :: digits, mid, by simp, by simp, hmid⟩

theorem basicTail_quoted {fuel : Nat} {s r v rest : List Char}
    (h : basicTail fuel (s ++ '"' :: '\n' :: r) = some (v, rest)) :
    (s.all isPlain = true ∧ v = s) ∨ v.length < s.length := by
  induction fuel generalizing s v rest with
  | zero => cases h
  | succ fuel ih =>
    cases s with
    | nil =>
      obtain ⟨rfl, -⟩ : [] = v ∧ _ := by simpa [basicTail] using h
      exact .inl ⟨rfl, rfl⟩
    | cons c s =>
      rw [List.cons_append, basicTail] at h
      by_cases hquote : c = '"'
      · rw [if_pos hquote] at h
        obtain ⟨rfl, -⟩ := Prod.mk.inj (Option.some.inj h)
        exact .inr (by simp)
      rw [if_neg hquote] at h
      by_cases hescape : c = '\\'
      · rw [if_pos hescape] at h
        obtain ⟨⟨char, behind⟩, hsequence, h⟩ := Option.bind_eq_some_iff.mp h
        obtain ⟨⟨tail, rest'⟩, htail, hv⟩ := Option.bind_eq_some_iff.mp h
        obtain ⟨rfl, -⟩ := Prod.mk.inj (Option.some.inj hv)
        rcases escapeSequence_quoted hsequence with ⟨front, back, rfl, hfront, rfl⟩ | ⟨rfl, rfl⟩
        · have hlength : tail.length ≤ back.length := by
            rcases ih htail with ⟨-, rfl⟩ | hlt
            · exact Nat.le_refl _
            · exact Nat.le_of_lt hlt
          have := List.length_pos_iff.mpr hfront
          right
          simp only [List.length_cons, List.length_append]
          omega
        · -- the quote was escaped, and then the line ends inside the string
          cases fuel with
          | zero => cases htail
          | succ fuel =>
            rw [basicTail, if_neg (by decide), if_neg (by decide), if_pos (by decide)] at htail
            cases htail
      rw [if_neg hescape] at h
      by_cases hcontrol : isControl c = true
      · rw [if_pos hcontrol] at h
        cases h
      rw [if_neg hcontrol] at h
      obtain ⟨⟨tail, rest'⟩, htail, hv⟩ := Option.map_eq_some_iff.mp h
      obtain ⟨rfl, -⟩ := Prod.mk.inj hv
      rcases ih htail with ⟨hplain, rfl⟩ | hlt
      · exact .inl ⟨by simp [isPlain, hquote, hescape, hcontrol, hplain], rfl⟩
      · exact .inr (by simpa using hlt)

/-! Strings over several lines. -/

private theorem replicate_append_drop {quote : Char} {n : Nat} {input : List Char}
    (h : n ≤ quoteRun quote input) : List.replicate n quote ++ input.drop n = input := by
  induction n generalizing input with
  | zero => rfl
  | succ n ih =>
    cases input with
    | nil => simp [quoteRun] at h
    | cons c input =>
      by_cases hc : c = quote
      · subst hc
        rw [List.replicate_succ, List.drop_succ_cons, List.cons_append, ih]
        simpa [quoteRun] using h
      · simp [quoteRun, hc] at h

theorem closing_eq_some {quote : Char} {input v rest : List Char}
    (h : closing quote input = some (v, rest)) :
    input = v ++ [quote, quote, quote] ++ rest := by
  rw [closing] at h
  split at h
  · cases h
  · rename_i hrun
    obtain ⟨rfl, rfl⟩ := Prod.mk.inj (Option.some.inj h)
    have hthree : [quote, quote, quote] = List.replicate 3 quote := rfl
    rw [hthree, List.replicate_append_replicate, replicate_append_drop (by omega)]

theorem pieceAt_eq_some {input piece rest : List Char} (h : pieceAt input = some (piece, rest)) :
    input = piece ++ rest := by
  unfold pieceAt breakAt at h
  split at h
  · rename_i hbreak
    obtain rfl := Option.some.inj h
    split at hbreak
    · obtain ⟨rfl, rfl⟩ := Prod.mk.inj (Option.some.inj hbreak)
      rfl
    · obtain ⟨rfl, rfl⟩ := Prod.mk.inj (Option.some.inj hbreak)
      rfl
    · cases hbreak
  · cases h
  · split at h
    · cases h
    · obtain ⟨rfl, rfl⟩ := Prod.mk.inj (Option.some.inj h)
      rfl

theorem trimLines_suffix (input : List Char) : trimLines input <:+ input := by
  fun_induction trimLines input with
  | case1 => exact List.suffix_refl _
  | case2 rest ih => exact (ih.trans (List.suffix_cons _ _)).trans (List.suffix_cons _ _)
  | case3 c rest _ _ ih => exact ih.trans (List.suffix_cons _ _)
  | case4 => exact List.suffix_refl _

theorem multiTail_eq_some {fuel : Nat} {input v rest : List Char}
    (h : multiTail fuel input = some (v, rest)) :
    ∃ front, input = front ++ ['"', '"', '"'] ++ rest ∧ v.length ≤ front.length := by
  induction fuel generalizing input v rest with
  | zero => cases h
  | succ fuel ih =>
    rw [multiTail] at h
    split at h
    · rename_i r hclosing
      obtain rfl := Option.some.inj h
      exact ⟨v, closing_eq_some hclosing, Nat.le_refl _⟩
    split at h
    · rename_i hhead
      obtain ⟨input, rfl⟩ : ∃ tail, input = '\\' :: tail := by
        cases input with
        | nil => cases hhead
        | cons c tail => exact ⟨tail, by simpa using hhead⟩
      rw [List.tail_cons] at h
      split at h
      · obtain ⟨front, hfront, hlength⟩ := ih h
        obtain ⟨blanks, hblanks⟩ := trimLines_suffix input
        refine ⟨'\\' :: (blanks ++ front), ?_, ?_⟩
        · rw [← hblanks, hfront]
          simp
        · simp only [List.length_cons, List.length_append]
          omega
      · obtain ⟨⟨char, behind⟩, hsequence, h⟩ := Option.bind_eq_some_iff.mp h
        obtain ⟨⟨tail, rest'⟩, htail, hv⟩ := Option.bind_eq_some_iff.mp h
        obtain ⟨rfl, rfl⟩ := Prod.mk.inj (Option.some.inj hv)
        obtain ⟨c, digits, rfl, -, -⟩ := escapeSequence_eq_some hsequence
        obtain ⟨front, hfront, hlength⟩ := ih htail
        refine ⟨'\\' :: c :: (digits ++ front), ?_, ?_⟩
        · rw [hfront]
          simp
        · simp only [List.length_cons, List.length_append]
          omega
    · obtain ⟨⟨piece, behind⟩, hpiece, h⟩ := Option.bind_eq_some_iff.mp h
      obtain ⟨⟨tail, rest'⟩, htail, hv⟩ := Option.bind_eq_some_iff.mp h
      obtain ⟨rfl, rfl⟩ := Prod.mk.inj (Option.some.inj hv)
      obtain rfl := pieceAt_eq_some hpiece
      obtain ⟨front, hfront, hlength⟩ := ih htail
      refine ⟨piece ++ front, ?_, ?_⟩
      · rw [hfront]
        simp
      · simp only [List.length_append]
        omega

theorem three_quotes_line {r : List Char} (front rest line : List Char)
    (h : front ++ ['"', '"', '"'] ++ rest = line ++ '\n' :: r) :
    (∃ behind, line = front ++ ['"', '"', '"'] ++ behind) ∨ ['"', '"', '"'] <:+: '\n' :: r := by
  rcases List.append_eq_append_iff.mp h with ⟨mid, hmid, -⟩ | ⟨mid, hmid, hbehind⟩
  · exact .inl ⟨mid, hmid⟩
  · cases mid with
    | nil => exact .inl ⟨[], by simpa using hmid.symm⟩
    | cons c mid =>
      obtain ⟨rfl, -⟩ := List.cons.inj hbehind
      rcases List.append_eq_append_iff.mp hmid with ⟨low, -, hlow⟩ | ⟨low, -, hlow⟩
      · have hmem : '\n' ∈ ['"', '"', '"'] := by
          rw [hlow]
          simp
        exact absurd hmem (by decide)
      · exact .inr ⟨low, rest, by rw [← hlow, hbehind]⟩

private theorem dropBreak_suffix (input : List Char) : dropBreak input <:+ input := by
  unfold dropBreak
  split
  · rename_i piece rest hbreak
    unfold breakAt at hbreak
    split at hbreak
    · obtain ⟨-, rfl⟩ := Prod.mk.inj (Option.some.inj hbreak)
      exact List.suffix_cons _ _
    · obtain ⟨-, rfl⟩ := Prod.mk.inj (Option.some.inj hbreak)
      exact (List.suffix_cons _ _).trans (List.suffix_cons _ _)
    · cases hbreak
  · exact List.suffix_refl _

theorem stringValue_plain {s : List Char} (h : s.all isPlain = true) (r : List Char) :
    stringValue ('"' :: (s ++ '"' :: '\n' :: r)) = some (s, '\n' :: r) := by
  have hopens : opens '"' ('"' :: (s ++ '"' :: '\n' :: r)) = false := by
    cases s with
    | nil => simp [opens, List.isPrefixOf]
    | cons c s =>
      simp only [List.all_cons, Bool.and_eq_true, isPlain, bne_iff_ne, ne_eq] at h
      simp [opens, List.isPrefixOf, Ne.symm h.1.1.1]
  rw [stringValue, hopens, if_neg (by simp), if_neg (by simp [opens])]
  refine basicTail_plain h ?_ _
  simp only [List.length_cons, List.length_append]
  omega

/-- Text between quotes, at the end of its line and with no three quotes further down. -/
theorem stringValue_quoted {s r v rest : List Char} (hr : ¬ ['"', '"', '"'] <:+: '\n' :: r)
    (h : stringValue ('"' :: (s ++ '"' :: '\n' :: r)) = some (v, rest)) :
    (s.all isPlain = true ∧ v = s) ∨ v.length < s.length := by
  rw [stringValue] at h
  by_cases hopens : opens '"' ('"' :: (s ++ '"' :: '\n' :: r)) = true
  · rw [if_pos hopens] at h
    obtain ⟨front, hfront, hlength⟩ := multiTail_eq_some h
    obtain ⟨break', hbreak⟩ := dropBreak_suffix (('"' :: (s ++ '"' :: '\n' :: r)).drop 3)
    rw [hfront, List.drop_succ_cons] at hbreak
    match s, hopens with
    | [], hopens => simp [opens, List.isPrefixOf] at hopens
    | [c], _ =>
      exact absurd ⟨break' ++ front, rest, by simpa using hbreak⟩ hr
    | c :: d :: s, _ =>
      rcases three_quotes_line (break' ++ front) rest (s ++ ['"'])
        (by simpa using hbreak) with ⟨behind, hline⟩ | hbehind
      · have hbefore := congrArg List.length hline
        simp only [List.length_append, List.length_cons, List.length_nil] at hbefore
        right
        simp only [List.length_cons]
        omega
      · exact absurd hbehind hr
  · rw [if_neg hopens, if_neg (by simp [opens])] at h
    exact basicTail_quoted h

end Toml

end StreamlineOperator.Foundation
