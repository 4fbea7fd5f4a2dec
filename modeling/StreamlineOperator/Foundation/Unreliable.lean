/- source: general support, no source file
   digest: Environments that lose requests and answers, and repeated attempts against them. -/

import StreamlineOperator.Foundation.ServedRuns
import Mathlib.Data.List.Chain

set_option autoImplicit false
set_option relaxedAutoImplicit false

namespace StreamlineOperator.Foundation

variable {Req : Type} {Resp : Req → Type} {ε α β σ : Type}

/-- What a caller may see of an environment behind a connection that breaks: the
answer, or a failure, whether the request was served before it was lost or not. -/
inductive Lossy (failure : (r : Req) → Resp r → Prop)
    (serve : (r : Req) → σ → Resp r → σ → Prop) : (r : Req) → σ → Resp r → σ → Prop
  | served {r : Req} {s s' : σ} {x : Resp r} : serve r s x s' → Lossy failure serve r s x s'
  | requestLost {r : Req} {s : σ} {x : Resp r} : failure r x → Lossy failure serve r s x s
  | answerLost {r : Req} {s s' : σ} {x y : Resp r} :
      failure r x → serve r s y s' → Lossy failure serve r s x s'

variable {failure : (r : Req) → Resp r → Prop} {serve : (r : Req) → σ → Resp r → σ → Prop}
variable {s s' : σ} {tr : List (Exchange Req Resp)}

theorem Served.lossy (h : Served serve s tr s') : Served (Lossy failure serve) s tr s' := by
  induction h with
  | nil s => exact .nil s
  | cons hserve _ ih => exact .cons (.served hserve) ih

/-- What serving keeps, losing keeps. -/
theorem Lossy.keeps {I : σ → Prop} {r : Req} {x : Resp r}
    (hkeeps : ∀ y s', serve r s y s' → I s → I s') (h : Lossy failure serve r s x s')
    (hs : I s) : I s' := by
  cases h with
  | served hserve => exact hkeeps _ _ hserve hs
  | requestLost _ => exact hs
  | answerLost _ hserve => exact hkeeps _ _ hserve hs

theorem Lossy.of_not_failure {r : Req} {x : Resp r} (h : Lossy failure serve r s x s')
    (hx : ¬ failure r x) : serve r s x s' := by
  cases h with
  | served hserve => exact hserve
  | requestLost hfail => exact absurd hfail hx
  | answerLost hfail _ => exact absurd hfail hx

/-- Attempts that follow on one another: what each of them keeps, all of them keep. -/
theorem linked_invariant {τ : Type} {before after : τ → σ} {I : σ → Prop} {first : τ}
    {rest : List τ} (hlinked : (first :: rest).IsChain (fun a b => before b = after a))
    (hkeeps : ∀ step ∈ rest, I (before step) → I (after step)) (hfirst : I (after first)) :
    ∀ step ∈ rest, I (before step) ∧ I (after step) := by
  induction rest generalizing first with
  | nil => simp
  | cons step rest ih =>
    rw [List.isChain_cons_cons] at hlinked
    rw [List.forall_mem_cons] at hkeeps ⊢
    have hbefore : I (before step) := by
      rw [hlinked.1]
      exact hfirst
    have hafter := hkeeps.1 hbefore
    exact ⟨⟨hbefore, hafter⟩, ih hlinked.2 hkeeps.2 hafter⟩

namespace Program

variable {p : Program Req Resp ε α} {f : α → Program Req Resp ε β}

/-- The postcondition of a run that may also fail: what the failure leaves is `inv`. -/
def Ending (inv : σ → Prop) (post : α → σ → Prop) (res : Except ε α) (s : σ) : Prop :=
  match res with
  | .ok a => post a s
  | .error _ => inv s

variable {pre inv : σ → Prop} {mid : α → σ → Prop} {post : β → σ → Prop}

theorem triple_bind_ending (hp : Triple serve pre p (Ending inv mid))
    (hf : ∀ a, Triple serve (mid a) (f a) (Ending inv post)) :
    Triple serve pre (p.bind f) (Ending inv post) := by
  intro s hs tr res s' hruns hserved
  rw [runs_bind] at hruns
  rcases hruns with ⟨e, hruns, rfl⟩ | ⟨a, tr₁, tr₂, rfl, hp', hf'⟩
  · exact hp s hs tr _ s' hruns hserved
  · obtain ⟨between, h₁, h₂⟩ := served_append.mp hserved
    have hmid : mid a between := hp s hs tr₁ _ between hp' h₁
    exact hf a between hmid tr₂ res s' hf' h₂

theorem triple_err {e : ε} {post : Except ε α → σ → Prop} (h : ∀ s, pre s → post (.error e) s) :
    Triple serve pre (.err e) post := by
  intro s hs tr res s' hruns hserved
  obtain ⟨rfl, rfl⟩ := runs_err.mp hruns
  obtain rfl := served_nil.mp hserved
  exact h _ hs

end Program

end StreamlineOperator.Foundation
