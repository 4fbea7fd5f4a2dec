/- source: general support, no source file
   digest: Programs that end at the first failed request, and with that request's error. -/

import StreamlineOperator.Foundation.TraceLogic

set_option autoImplicit false
set_option relaxedAutoImplicit false

namespace StreamlineOperator.Foundation

variable {Req : Type} {Resp : Req → Type} {ε α β : Type}

namespace Program

/-- How a run ends when failures are not passed over: it returns with no failed exchange
and `S` holds of its trace, or its last exchange is the only failed one and the error is
that exchange's. -/
inductive Ended (failure : Exchange Req Resp → Option ε)
    (S : List (Exchange Req Resp) → α → Prop) : List (Exchange Req Resp) → Except ε α → Prop
  | returned {tr : List (Exchange Req Resp)} {a : α} (unfailed : ∀ d ∈ tr, failure d = none)
      (post : S tr a) : Ended failure S tr (.ok a)
  | stopped {before : List (Exchange Req Resp)} {last : Exchange Req Resp} {e : ε}
      (unfailed : ∀ d ∈ before, failure d = none) (failed : failure last = some e) :
      Ended failure S (before ++ [last]) (.error e)

/-- Every run ends at its first failure. -/
def FailsFast (failure : Exchange Req Resp → Option ε)
    (S : List (Exchange Req Resp) → α → Prop) (p : Program Req Resp ε α) : Prop :=
  ∀ tr res, Runs p tr res → Ended failure S tr res

variable {failure : Exchange Req Resp → Option ε}
variable {S : List (Exchange Req Resp) → α → Prop} {T : List (Exchange Req Resp) → β → Prop}
variable {p : Program Req Resp ε α} {f : α → Program Req Resp ε β}
variable {tr : List (Exchange Req Resp)}

/-- The first failure in the trace is the error of the run. -/
theorem Ended.findSome_failure {res : Except ε α} (h : Ended failure S tr res) :
    tr.findSome? failure = match res with
      | .ok _ => none
      | .error e => some e := by
  cases h with
  | returned unfailed _ => exact List.findSome?_eq_none_iff.mpr unfailed
  | stopped unfailed failed =>
    rw [List.findSome?_append, List.findSome?_eq_none_iff.mpr unfailed]
    simp [failed]

theorem Ended.post {a : α} (h : Ended failure S tr (.ok a)) : S tr a := by
  cases h with
  | returned _ post => exact post

theorem Ended.append {before : List (Exchange Req Resp)} {res : Except ε β}
    (hbefore : ∀ d ∈ before, failure d = none)
    (h : Ended failure (fun after b => T (before ++ after) b) tr res) :
    Ended failure T (before ++ tr) res := by
  cases h with
  | returned unfailed post =>
    exact .returned (List.forall_mem_append.mpr ⟨hbefore, unfailed⟩) post
  | stopped unfailed failed =>
    rw [← List.append_assoc]
    exact .stopped (List.forall_mem_append.mpr ⟨hbefore, unfailed⟩) failed

theorem failsFast_ok {a : α} (h : S [] a) :
    FailsFast failure S (.ok a : Program Req Resp ε α) := by
  intro tr res hruns
  obtain ⟨rfl, rfl⟩ := runs_ok.mp hruns
  exact .returned (by simp) h

theorem failsFast_call {r : Req} {next : Resp r → Program Req Resp ε α}
    (hgoes : ∀ x, failure ⟨r, x⟩ = none →
      FailsFast failure (fun after a => S (⟨r, x⟩ :: after) a) (next x))
    (hstops : ∀ x e, failure ⟨r, x⟩ = some e → next x = .err e) :
    FailsFast failure S (.call r next) := by
  intro tr res hruns
  obtain ⟨x, rest, rfl, hnext⟩ := runs_call.mp hruns
  cases hx : failure ⟨r, x⟩ with
  | none =>
    have hrest := hgoes x hx rest res hnext
    have hfirst : ∀ d ∈ [(⟨r, x⟩ : Exchange Req Resp)], failure d = none := by simpa using hx
    exact Ended.append hfirst hrest
  | some e =>
    rw [hstops x e hx] at hnext
    obtain ⟨rfl, rfl⟩ := runs_err.mp hnext
    exact @Ended.stopped _ _ _ _ failure S [] _ e (by simp) hx

theorem failsFast_last {r : Req} {next : Resp r → Program Req Resp ε α} (a : α)
    (hnext : ∀ x, next x = match failure ⟨r, x⟩ with
      | none => .ok a
      | some e => .err e)
    (hpost : ∀ x, S [⟨r, x⟩] a) : FailsFast failure S (.call r next) := by
  refine failsFast_call ?_ ?_
  · intro x hx
    rw [hnext x, hx]
    exact failsFast_ok (hpost x)
  · intro x e hx
    rw [hnext x, hx]

theorem failsFast_call_of_none {r : Req} {next : Resp r → Program Req Resp ε α}
    (hnone : ∀ x, failure ⟨r, x⟩ = none)
    (hnext : ∀ x, FailsFast failure (fun after a => S (⟨r, x⟩ :: after) a) (next x)) :
    FailsFast failure S (.call r next) := by
  refine failsFast_call (fun x _ => hnext x) ?_
  intro x e hx
  rw [hnone x] at hx
  cases hx

theorem failsFast_bind (hp : FailsFast failure S p)
    (hf : ∀ a before, S before a →
      FailsFast failure (fun after b => T (before ++ after) b) (f a)) :
    FailsFast failure T (p.bind f) := by
  intro tr res hruns
  rcases runs_bind.mp hruns with ⟨e, hfirst, rfl⟩ | ⟨a, before, after, rfl, hfirst, hafter⟩
  · cases hp tr _ hfirst with
    | stopped unfailed failed => exact .stopped unfailed failed
  · cases hp before _ hfirst with
    | returned unfailed post => exact Ended.append unfailed (hf a before post after res hafter)

theorem failsFast_then {T : β → Prop} (hp : FailsFast failure S p)
    (hf : ∀ a, FailsFast failure (fun _ => T) (f a)) :
    FailsFast failure (fun _ => T) (p.bind f) := by
  refine failsFast_bind hp ?_
  intro a _ _
  exact hf a

theorem failsFast_mono {S' : List (Exchange Req Resp) → α → Prop}
    (h : ∀ tr a, S tr a → S' tr a) (hp : FailsFast failure S p) : FailsFast failure S' p := by
  intro tr res hruns
  cases hp tr res hruns with
  | returned unfailed post => exact .returned unfailed (h _ _ post)
  | stopped unfailed failed => exact .stopped unfailed failed

theorem failsFast_always {Q : Exchange Req Resp → Prop} (hp : FailsFast failure S p)
    (hq : Always Q p) : FailsFast failure (fun tr a => S tr a ∧ ∀ d ∈ tr, Q d) p := by
  intro tr res hruns
  cases hp tr res hruns with
  | returned unfailed post => exact .returned unfailed ⟨post, hq _ _ hruns⟩
  | stopped unfailed failed => exact .stopped unfailed failed

theorem failsFast_forEach {xs : List β} {body : β → Program Req Resp ε Unit}
    (h : ∀ x ∈ xs, FailsFast failure (fun _ _ => True) (body x)) :
    FailsFast failure (fun _ _ => True) (forEach xs body) := by
  induction xs with
  | nil => exact failsFast_ok trivial
  | cons x xs ih =>
    rw [forEach]
    refine failsFast_bind (h x (by simp)) ?_
    intro _ _ _
    exact ih fun y hy => h y (List.mem_cons_of_mem _ hy)

theorem failsFast_attempt {δ : Type} {failure : Exchange Req Resp → Option δ}
    (hp : Always (fun d => failure d = none) p) :
    FailsFast failure (fun tr outcome => Runs p tr outcome)
      (p.attempt : Program Req Resp δ (Except ε α)) := by
  intro tr res hruns
  obtain ⟨outcome, hinner, rfl⟩ := runs_attempt.mp hruns
  exact .returned (hp tr outcome hinner) hinner

end Program

end StreamlineOperator.Foundation
