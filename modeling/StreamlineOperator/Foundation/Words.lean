/- source: general support, no source file
   digest: Words given by what may stand first, inside and last, and words with something appended. -/

import Mathlib.Tactic.Common

set_option autoImplicit false
set_option relaxedAutoImplicit false

namespace StreamlineOperator.Foundation

/-- What the characters of a word may be: all of them, the first and the last. -/
structure WordShape (α : Type) where
  inner : α → Bool
  first : α → Bool
  last : α → Bool

namespace WordShape

variable {α : Type} (shape : WordShape α)

def accepts (word : List α) : Bool :=
  word.all shape.inner && word.head?.any shape.first && word.getLast?.any shape.last

/-- What a word begins with, whatever it ends with. -/
def opens (word : List α) : Bool := word.all shape.inner && word.head?.any shape.first

/-- What a word ends with, whatever it begins with. -/
def closes (word : List α) : Bool := word.all shape.inner && word.getLast?.any shape.last

variable {shape} {word ending : List α}

theorem opens_of_accepts (h : shape.accepts word = true) : shape.opens word = true :=
  (Bool.and_eq_true _ _ ▸ h).1

theorem accepts_iff :
    shape.accepts word = true ↔ shape.opens word = true ∧ shape.closes word = true := by
  simp only [accepts, opens, closes, Bool.and_eq_true]
  constructor
  · rintro ⟨⟨hinner, hfirst⟩, hlast⟩
    exact ⟨⟨hinner, hfirst⟩, hinner, hlast⟩
  · rintro ⟨⟨hinner, hfirst⟩, -, hlast⟩
    exact ⟨⟨hinner, hfirst⟩, hlast⟩

theorem inner_of_mem (h : shape.opens word = true) {c : α} (hc : c ∈ word) :
    shape.inner c = true := by
  rw [opens, Bool.and_eq_true, List.all_eq_true] at h
  exact h.1 c hc

theorem ne_nil_of_opens (h : shape.opens word = true) : word ≠ [] := by
  rintro rfl
  simp [opens] at h

theorem opens_append (hne : word ≠ []) (hending : shape.closes ending = true) :
    shape.opens (word ++ ending) = true ↔ shape.opens word = true := by
  rw [closes, Bool.and_eq_true] at hending
  cases word with
  | nil => exact absurd rfl hne
  | cons c word => simp [opens, hending.1]

theorem closes_append (hopens : shape.opens word = true) (hending : shape.closes ending = true) :
    shape.closes (word ++ ending) = true := by
  rw [opens, Bool.and_eq_true] at hopens
  rw [closes, Bool.and_eq_true] at hending ⊢
  refine ⟨?_, ?_⟩
  · rw [List.all_append, hopens.1, hending.1]
    rfl
  · obtain ⟨c, hc, hlast⟩ := (Option.any_eq_true _ _).mp hending.2
    rw [List.getLast?_append, Option.any_eq_true]
    exact ⟨c, by simp [hc], hlast⟩

/-- A beginning with an ending that closes it is a word. -/
theorem accepts_append (hopens : shape.opens word = true)
    (hending : shape.closes ending = true) : shape.accepts (word ++ ending) = true := by
  rw [accepts_iff, opens_append (ne_nil_of_opens hopens) hending]
  exact ⟨hopens, closes_append hopens hending⟩

theorem accepts_mono {wider : WordShape α} (hinner : ∀ c, shape.inner c = true → wider.inner c = true)
    (hfirst : ∀ c, shape.first c = true → wider.first c = true)
    (hlast : ∀ c, shape.last c = true → wider.last c = true) (h : shape.accepts word = true) :
    wider.accepts word = true := by
  simp only [accepts, Bool.and_eq_true, List.all_eq_true, Option.any_eq_true] at h ⊢
  obtain ⟨⟨hall, c, hc, hhead⟩, d, hd, htail⟩ := h
  exact ⟨⟨fun e he => hinner e (hall e he), c, hc, hfirst c hhead⟩, d, hd, hlast d htail⟩

end WordShape

end StreamlineOperator.Foundation
