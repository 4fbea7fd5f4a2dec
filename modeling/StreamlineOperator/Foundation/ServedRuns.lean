/- source: general support, no source file
   digest: Runs against an environment that has a state: invariants, triples, and where a run ends. -/

import StreamlineOperator.Foundation.Program

set_option autoImplicit false
set_option relaxedAutoImplicit false

namespace StreamlineOperator.Foundation

variable {Req : Type} {Resp : Req → Type} {ε α β σ : Type}

/-- The exchanges of the trace were served one after the other: `serve r s x s'` is
what the environment may answer to `r` in the state `s`. -/
inductive Served (serve : (r : Req) → σ → Resp r → σ → Prop) :
    σ → List (Exchange Req Resp) → σ → Prop
  | nil (s : σ) : Served serve s [] s
  | cons {s s' s'' : σ} {r : Req} {x : Resp r} {tr : List (Exchange Req Resp)} :
      serve r s x s' → Served serve s' tr s'' → Served serve s (⟨r, x⟩ :: tr) s''

variable {serve : (r : Req) → σ → Resp r → σ → Prop} {s s' : σ}
variable {tr tr₁ tr₂ : List (Exchange Req Resp)}

theorem served_nil : Served serve s [] s' ↔ s' = s := by
  constructor
  · intro h
    cases h
    rfl
  · rintro rfl
    exact .nil _

theorem served_cons {r : Req} {x : Resp r} :
    Served serve s (⟨r, x⟩ :: tr) s' ↔ ∃ mid, serve r s x mid ∧ Served serve mid tr s' := by
  constructor
  · intro h
    cases h with
    | cons hserve hrest => exact ⟨_, hserve, hrest⟩
  · rintro ⟨mid, hserve, hrest⟩
    exact .cons hserve hrest

theorem served_append :
    Served serve s (tr₁ ++ tr₂) s' ↔ ∃ mid, Served serve s tr₁ mid ∧ Served serve mid tr₂ s' := by
  induction tr₁ generalizing s with
  | nil => simp [served_nil]
  | cons e tr₁ ih =>
    obtain ⟨r, x⟩ := e
    simp only [List.cons_append, served_cons, ih]
    constructor
    · rintro ⟨next, hserve, mid, h₁, h₂⟩
      exact ⟨mid, ⟨next, hserve, h₁⟩, h₂⟩
    · rintro ⟨mid, ⟨next, hserve, h₁⟩, h₂⟩
      exact ⟨next, hserve, mid, h₁, h₂⟩

/-- What every answer keeps, a whole run keeps. -/
theorem Served.invariant {I : σ → Prop} (step : ∀ r s x s', serve r s x s' → I s → I s')
    (h : Served serve s tr s') (hs : I s) : I s' := by
  induction h with
  | nil => exact hs
  | cons hserve _ ih => exact ih (step _ _ _ _ hserve hs)

namespace Program

variable {p : Program Req Resp ε α} {f : α → Program Req Resp ε β}

/-- An environment that answers everything lets every program run. -/
theorem exists_served (total : ∀ r s, ∃ x s', serve r s x s') (p : Program Req Resp ε α) (s : σ) :
    ∃ tr res s', Runs p tr res ∧ Served serve s tr s' := by
  induction p generalizing s with
  | ok a => exact ⟨[], .ok a, s, runs_ok.mpr ⟨rfl, rfl⟩, .nil s⟩
  | err e => exact ⟨[], .error e, s, runs_err.mpr ⟨rfl, rfl⟩, .nil s⟩
  | call r next ih =>
    obtain ⟨x, mid, hserve⟩ := total r s
    obtain ⟨tr, res, s', hruns, hserved⟩ := ih x mid
    exact ⟨⟨r, x⟩ :: tr, res, s', runs_call.mpr ⟨x, tr, rfl, hruns⟩, .cons hserve hserved⟩

/-- Every run of `p` that is served from a state with `pre` ends in `post`. -/
def Triple (serve : (r : Req) → σ → Resp r → σ → Prop) (pre : σ → Prop)
    (p : Program Req Resp ε α) (post : Except ε α → σ → Prop) : Prop :=
  ∀ s, pre s → ∀ tr res s', Runs p tr res → Served serve s tr s' → post res s'

/-- The postcondition of a run that returns. -/
def Returning (post : α → σ → Prop) (res : Except ε α) (s : σ) : Prop :=
  ∃ a, res = .ok a ∧ post a s

variable {pre pre' : σ → Prop} {mid : α → σ → Prop}

theorem triple_ok {a : α} {post : Except ε α → σ → Prop} (h : ∀ s, pre s → post (.ok a) s) :
    Triple serve pre (.ok a) post := by
  intro s hs tr res s' hruns hserved
  obtain ⟨rfl, rfl⟩ := runs_ok.mp hruns
  obtain rfl := served_nil.mp hserved
  exact h _ hs

theorem triple_call {r : Req} {next : Resp r → Program Req Resp ε α}
    {post : Except ε α → σ → Prop} (between : Resp r → σ → Prop)
    (hr : ∀ s x s', pre s → serve r s x s' → between x s')
    (hnext : ∀ x, Triple serve (between x) (next x) post) :
    Triple serve pre (.call r next) post := by
  intro s hs tr res s' hruns hserved
  obtain ⟨x, rest, rfl, hnexts⟩ := runs_call.mp hruns
  obtain ⟨after, hserve, hrest⟩ := served_cons.mp hserved
  exact hnext x after (hr s x after hs hserve) rest res s' hnexts hrest

theorem triple_send_bind {r : Req} {g : Resp r → Program Req Resp ε α}
    {post : Except ε α → σ → Prop} (between : Resp r → σ → Prop)
    (hr : ∀ s x s', pre s → serve r s x s' → between x s')
    (hg : ∀ x, Triple serve (between x) (g x) post) :
    Triple serve pre ((Program.send r).bind g) post :=
  triple_call between hr hg

theorem triple_bind {post : Except ε β → σ → Prop} (hp : Triple serve pre p (Returning mid))
    (hf : ∀ a, Triple serve (mid a) (f a) post) : Triple serve pre (p.bind f) post := by
  intro s hs tr res s' hruns hserved
  rw [runs_bind] at hruns
  rcases hruns with ⟨e, hruns, -⟩ | ⟨a, tr₁, tr₂, rfl, hp', hf'⟩
  · obtain ⟨a, ha, -⟩ := hp s hs tr _ s' hruns hserved
    cases ha
  · obtain ⟨between, h₁, h₂⟩ := served_append.mp hserved
    obtain ⟨b, hb, hmid⟩ := hp s hs tr₁ _ between hp' h₁
    cases hb
    exact hf a between hmid tr₂ res s' hf' h₂

theorem triple_weaken {post post' : Except ε α → σ → Prop} (hp : Triple serve pre p post)
    (hpre : ∀ s, pre' s → pre s) (hpost : ∀ res s, post res s → post' res s) :
    Triple serve pre' p post' := by
  intro s hs tr res s' hruns hserved
  exact hpost res s' (hp s (hpre s hs) tr res s' hruns hserved)

/-! An environment that has one answer to everything. -/

/-- The end of the run, and the state it leaves. -/
def eval (answer : (r : Req) → σ → Resp r × σ) : Program Req Resp ε α → σ → Except ε α × σ
  | .ok a, s => (.ok a, s)
  | .err e, s => (.error e, s)
  | .call r next, s => (next (answer r s).1).eval answer (answer r s).2

section Eval

variable {answer : (r : Req) → σ → Resp r × σ}

@[simp] theorem eval_ok (a : α) (s : σ) :
    (.ok a : Program Req Resp ε α).eval answer s = (.ok a, s) := rfl

@[simp] theorem eval_err (e : ε) (s : σ) :
    (.err e : Program Req Resp ε α).eval answer s = (.error e, s) := rfl

@[simp] theorem eval_call (r : Req) (next : Resp r → Program Req Resp ε α) (s : σ) :
    (Program.call r next).eval answer s =
      (next (answer r s).1).eval answer (answer r s).2 := rfl

theorem eval_eq_iff {s s' : σ} {res : Except ε α} :
    p.eval answer s = (res, s') ↔
      ∃ tr, Runs p tr res ∧ Served (fun r s x s' => answer r s = (x, s')) s tr s' := by
  induction p generalizing s with
  | ok a =>
    simp only [eval_ok, runs_ok, Prod.mk.injEq]
    constructor
    · rintro ⟨rfl, rfl⟩
      exact ⟨[], ⟨rfl, rfl⟩, .nil s⟩
    · rintro ⟨tr, ⟨rfl, rfl⟩, hserved⟩
      exact ⟨rfl, (served_nil.mp hserved).symm⟩
  | err e =>
    simp only [eval_err, runs_err, Prod.mk.injEq]
    constructor
    · rintro ⟨rfl, rfl⟩
      exact ⟨[], ⟨rfl, rfl⟩, .nil s⟩
    · rintro ⟨tr, ⟨rfl, rfl⟩, hserved⟩
      exact ⟨rfl, (served_nil.mp hserved).symm⟩
  | call r next ih =>
    rw [eval_call, ih]
    constructor
    · rintro ⟨tr, hruns, hserved⟩
      exact ⟨⟨r, (answer r s).1⟩ :: tr, runs_call.mpr ⟨_, tr, rfl, hruns⟩, .cons rfl hserved⟩
    · rintro ⟨tr, hruns, hserved⟩
      obtain ⟨x, rest, rfl, hnext⟩ := runs_call.mp hruns
      obtain ⟨mid, hanswer, hrest⟩ := served_cons.mp hserved
      rw [hanswer]
      exact ⟨rest, hnext, hrest⟩

end Eval

end Program

end StreamlineOperator.Foundation
