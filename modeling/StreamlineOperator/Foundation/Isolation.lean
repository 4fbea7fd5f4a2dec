/- source: general support, no source file
   digest: Tasks that keep to regions of their own: each runs in company as it runs alone. -/

import StreamlineOperator.Foundation.Interleaving
import StreamlineOperator.Foundation.TraceLogic
import StreamlineOperator.Foundation.Unreliable

set_option autoImplicit false
set_option relaxedAutoImplicit false

namespace StreamlineOperator.Foundation

variable {Req : Type} {Resp : Req → Type} {ε α ι σ : Type}

/-- `agree i s t`: the states look the same from the region of task `i`. The requests
`allowed` to a task depend on its region only, and leave the other regions alone. -/
structure Separation (serve : (r : Req) → σ → Resp r → σ → Prop) (allowed : ι → Req → Prop)
    (agree : ι → σ → σ → Prop) : Prop where
  refl : ∀ i s, agree i s s
  trans : ∀ {i a b c}, agree i a b → agree i b c → agree i a c
  symm : ∀ {i a b}, agree i a b → agree i b a
  own : ∀ {i r s x s' t}, allowed i r → serve r s x s' → agree i s t →
    ∃ t', serve r t x t' ∧ agree i s' t'
  other : ∀ {i j r s x s'}, i ≠ j → allowed j r → serve r s x s' → agree i s s'

section Lossy

variable {serve : (r : Req) → σ → Resp r → σ → Prop} {failure : (r : Req) → Resp r → Prop}
variable {allowed : ι → Req → Prop} {agree : ι → σ → σ → Prop}

theorem Separation.lossy (h : Separation serve allowed agree) :
    Separation (Lossy failure serve) allowed agree where
  refl := h.refl
  trans := h.trans
  symm := h.symm
  own hallowed hserve hagree := by
    cases hserve with
    | served hserve =>
      obtain ⟨t', ht', hagree'⟩ := h.own hallowed hserve hagree
      exact ⟨t', .served ht', hagree'⟩
    | requestLost hfail => exact ⟨_, .requestLost hfail, hagree⟩
    | answerLost hfail hserve =>
      obtain ⟨t', ht', hagree'⟩ := h.own hallowed hserve hagree
      exact ⟨t', .answerLost hfail ht', hagree'⟩
  other hne hallowed hserve := by
    cases hserve with
    | served hserve => exact h.other hne hallowed hserve
    | requestLost _ => exact h.refl _ _
    | answerLost _ hserve => exact h.other hne hallowed hserve

end Lossy

theorem Served.snoc {serve : (r : Req) → σ → Resp r → σ → Prop} {s s' s'' : σ}
    {tr : List (Exchange Req Resp)} {r : Req} {x : Resp r} (h : Served serve s tr s')
    (hserve : serve r s' x s'') : Served serve s (tr ++ [⟨r, x⟩]) s'' :=
  served_append.mpr ⟨s', h, .cons hserve (.nil s'')⟩

namespace Program

theorem exists_runs (hanswer : ∀ r, Nonempty (Resp r)) (p : Program Req Resp ε α) :
    ∃ tr res, Runs p tr res := by
  induction p with
  | ok a => exact ⟨[], .ok a, runs_ok.mpr ⟨rfl, rfl⟩⟩
  | err e => exact ⟨[], .error e, runs_err.mpr ⟨rfl, rfl⟩⟩
  | call r next ih =>
    obtain ⟨x⟩ := hanswer r
    obtain ⟨tr, res, hruns⟩ := ih x
    exact ⟨⟨r, x⟩ :: tr, res, runs_call.mpr ⟨x, tr, rfl, hruns⟩⟩

/-- What all complete runs show of the requests holds of every request in the program. -/
theorem everywhere_of_always {Q : Req → Prop} (hanswer : ∀ r, Nonempty (Resp r))
    {p : Program Req Resp ε α} (h : Always (fun e => Q e.request) p)
    (tr : List (Exchange Req Resp)) : p.Everywhere (fun _ r _ => Q r) tr := by
  induction p generalizing tr with
  | ok a => trivial
  | err e => trivial
  | call r next ih =>
    have hnext : ∀ x, Always (fun e => Q e.request) (next x) := by
      intro x tr' res hruns e he
      exact h _ res (runs_call.mpr ⟨x, tr', rfl, hruns⟩) e (List.mem_cons_of_mem _ he)
    refine ⟨?_, fun x => ih x (hnext x) _⟩
    obtain ⟨x⟩ := hanswer r
    obtain ⟨tr', res, hruns⟩ := exists_runs hanswer (next x)
    exact h _ res (runs_call.mpr ⟨x, tr', rfl, hruns⟩) ⟨r, x⟩ List.mem_cons_self

end Program

namespace World

variable [DecidableEq ι] {serve : (r : Req) → σ → Resp r → σ → Prop}
variable {allowed : ι → Req → Prop} {agree : ι → σ → σ → Prop}
variable {w₀ w w' : World Req Resp ε α ι σ} {e : Event Req Resp ι σ}
variable {h : List (Event Req Resp ι σ)}

theorem exchangesOf_concat_self (h : List (Event Req Resp ι σ)) (e : Event Req Resp ι σ) :
    exchangesOf (h ++ [e]) e.task = exchangesOf h e.task ++ [e.exchange] := by
  simp [exchangesOf]

theorem exchangesOf_concat_of_ne {i : ι} (h : List (Event Req Resp ι σ))
    {e : Event Req Resp ι σ} (hne : e.task ≠ i) : exchangesOf (h ++ [e]) i = exchangesOf h i := by
  simp [exchangesOf, hne]

/-- Tasks that keep to their regions: what one of them does and sees in company it could
have done and seen alone, and its region ends up the same. -/
theorem Run.isolated (hsep : Separation serve allowed agree) (hr : Run serve w₀ h w)
    (hallowed : ∀ i, (w₀.tasks i).Everywhere (fun _ r _ => allowed i r) []) (i : ι) :
    ∃ alone, Served serve w₀.state (exchangesOf h i) alone ∧ agree i w.state alone := by
  induction hr with
  | refl => exact ⟨w₀.state, .nil _, hsep.refl _ _⟩
  | @step h w w' e hr hs ih =>
    obtain ⟨alone, hserved, hagree⟩ := ih
    obtain ⟨next, hrequest, -⟩ := hr.everywhere_step hs (hallowed e.task)
    obtain ⟨hserve, hbefore, hafter⟩ := hs.served
    rw [hbefore, hafter] at hserve
    by_cases hi : e.task = i
    · subst hi
      obtain ⟨alone', hserve', hagree'⟩ := hsep.own hrequest hserve hagree
      refine ⟨alone', ?_, hagree'⟩
      rw [exchangesOf_concat_self]
      exact hserved.snoc hserve'
    · refine ⟨alone, ?_, ?_⟩
      · rw [exchangesOf_concat_of_ne h hi]
        exact hserved
      · have hkept := hsep.other (fun heq => hi heq.symm) hrequest hserve
        exact hsep.trans (hsep.symm hkept) hagree

theorem exists_run_alone {i : ι} {p q : Program Req Resp ε α} {tr : List (Exchange Req Resp)}
    {s' : σ} (hsteps : Program.Steps p tr q) (w : World Req Resp ε α ι σ) (hp : w.tasks i = p)
    (hserved : Served serve w.state tr s') :
    ∃ h, Run serve w h ⟨s', Function.update w.tasks i q⟩ ∧ ∀ e ∈ h, e.task = i := by
  induction hsteps generalizing w with
  | nil p =>
    obtain rfl := served_nil.mp hserved
    refine ⟨[], ?_, by simp⟩
    rw [← hp, Function.update_eq_self]
    exact .refl
  | @cons r next x tr q _ ih =>
    obtain ⟨mid, hserve, hrest⟩ := served_cons.mp hserved
    have hstep := @Step.mk Req Resp ε α ι σ _ serve _ _ _ _ _ _ hp hserve
    obtain ⟨h, hrun, htask⟩ := ih ⟨mid, Function.update w.tasks i (next x)⟩
      (Function.update_self i (next x) w.tasks) hrest
    rw [Function.update_idem] at hrun
    refine ⟨⟨i, r, x, w.state, mid⟩ :: h, (Run.refl.step hstep).append hrun, ?_⟩
    rw [List.forall_mem_cons]
    exact ⟨rfl, htask⟩

end World

end StreamlineOperator.Foundation
