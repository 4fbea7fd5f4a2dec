/- source: general support, no source file
   digest: Histories of events: what holds throughout, the steps that decide it, first and last. -/

import Mathlib.Tactic.Common

set_option autoImplicit false
set_option relaxedAutoImplicit false

namespace StreamlineOperator.Foundation

variable {σ ε : Type}

/-- Every state the history leads through satisfies `I`. -/
def Throughout (step : σ → ε → σ) (I : σ → Prop) (s : σ) (events : List ε) : Prop :=
  ∀ before after, events = before ++ after → I (before.foldl step s)

/-- Every event of the history satisfies `ok` in the state it finds. -/
def EachEvent (step : σ → ε → σ) (ok : σ → ε → Prop) (s : σ) (events : List ε) : Prop :=
  ∀ before e after, events = before ++ e :: after → ok (before.foldl step s) e

variable {step : σ → ε → σ} {I : σ → Prop} {ok : σ → ε → Prop} {s : σ}

theorem throughout_nil : Throughout step I s [] ↔ I s := by
  constructor
  · intro h
    exact h [] [] rfl
  · intro h before after heq
    rw [(List.append_eq_nil_iff.mp heq.symm).1]
    exact h

theorem throughout_cons {e : ε} {events : List ε} :
    Throughout step I s (e :: events) ↔ I s ∧ Throughout step I (step s e) events := by
  constructor
  · intro h
    refine ⟨h [] _ rfl, ?_⟩
    intro before after heq
    exact h (e :: before) after (by rw [heq, List.cons_append])
  · rintro ⟨hs, h⟩ before after heq
    cases before with
    | nil => exact hs
    | cons d before =>
      obtain ⟨rfl, hrest⟩ := List.cons.inj heq
      exact h before after hrest

theorem eachEvent_nil : EachEvent step ok s [] := by
  intro before e after heq
  exact absurd heq (by simp)

theorem eachEvent_cons {e : ε} {events : List ε} :
    EachEvent step ok s (e :: events) ↔ ok s e ∧ EachEvent step ok (step s e) events := by
  constructor
  · intro h
    refine ⟨h [] e _ rfl, ?_⟩
    intro before d after heq
    exact h (e :: before) d after (by rw [heq, List.cons_append])
  · rintro ⟨hs, h⟩ before d after heq
    cases before with
    | nil =>
      obtain ⟨rfl, -⟩ := List.cons.inj heq
      exact hs
    | cons c before =>
      obtain ⟨rfl, hrest⟩ := List.cons.inj heq
      exact h before d after hrest

/-- Where `ok` says exactly which events keep `I`, it says which histories do. -/
theorem throughout_iff_eachEvent (hstep : ∀ s e, I s → (I (step s e) ↔ ok s e)) (hs : I s)
    (events : List ε) : Throughout step I s events ↔ EachEvent step ok s events := by
  induction events generalizing s with
  | nil => simp only [throughout_nil, hs, eachEvent_nil]
  | cons e events ih =>
    rw [throughout_cons, eachEvent_cons]
    constructor
    · rintro ⟨-, h⟩
      have hnext : I (step s e) := h [] events rfl
      exact ⟨(hstep s e hs).mp hnext, (ih hnext).mp h⟩
    · rintro ⟨hok, h⟩
      exact ⟨hs, (ih ((hstep s e hs).mpr hok)).mpr h⟩

/-! The first and the last event of a kind. -/

section Ends

variable {P : ε → Prop} {history : List ε} {d e : ε}

/-- `e` is the first event of the history that satisfies `P`. -/
def FirstIn (P : ε → Prop) (history : List ε) (e : ε) : Prop :=
  ∃ before after, history = before ++ e :: after ∧ P e ∧ ∀ d ∈ before, ¬ P d

/-- `e` is the last event of the history that satisfies `P`. -/
def LastIn (P : ε → Prop) (history : List ε) (e : ε) : Prop :=
  ∃ before after, history = before ++ e :: after ∧ P e ∧ ∀ d ∈ after, ¬ P d

theorem firstIn_snoc (hnone : ∀ d ∈ history, ¬ P d) (he : P e) : FirstIn P (history ++ [e]) e :=
  ⟨history, [], rfl, he, hnone⟩

theorem FirstIn.snoc (h : FirstIn P history e) (d : ε) : FirstIn P (history ++ [d]) e := by
  obtain ⟨before, after, rfl, he, hnone⟩ := h
  exact ⟨before, after ++ [d], by simp, he, hnone⟩

theorem lastIn_snoc (he : P e) : LastIn P (history ++ [e]) e :=
  ⟨history, [], rfl, he, by simp⟩

theorem LastIn.snoc (h : LastIn P history e) (hd : ¬ P d) : LastIn P (history ++ [d]) e := by
  obtain ⟨before, after, rfl, he, hnone⟩ := h
  refine ⟨before, after ++ [d], by simp, he, ?_⟩
  intro c hc
  rcases List.mem_append.mp hc with hc | hc
  · exact hnone c hc
  · rwa [List.mem_singleton.mp hc]

end Ends

end StreamlineOperator.Foundation
