/- source: general support, no source file
   digest: Programs that act only through requests, and the traces their runs leave. -/

import Mathlib.Tactic.Common

set_option autoImplicit false
set_option relaxedAutoImplicit false

namespace StreamlineOperator.Foundation

/-- A program that reaches its environment only through requests: it finishes
with a value, fails with an error, or sends a request and waits for the
response. -/
inductive Program (Req : Type) (Resp : Req → Type) (ε α : Type) : Type
  | ok (value : α)
  | err (error : ε)
  | call (request : Req) (next : Resp request → Program Req Resp ε α)

/-- One request together with the response the environment gave to it. -/
structure Exchange (Req : Type) (Resp : Req → Type) where
  request : Req
  response : Resp request

variable {Req : Type} {Resp : Req → Type} {ε δ α β : Type}

namespace Program

/-- Sequencing. An error skips everything that follows it, as `?` does. -/
def bind : Program Req Resp ε α → (α → Program Req Resp ε β) → Program Req Resp ε β
  | .ok a, f => f a
  | .err e, _ => .err e
  | .call r next, f => .call r (fun x => (next x).bind f)

instance : Monad (Program Req Resp ε) where
  pure := .ok
  bind := bind

/-- Issue one request and return its response. -/
def send (r : Req) : Program Req Resp ε (Resp r) := .call r .ok

/-- The program that has already ended with `outcome`. -/
def ofExcept : Except ε α → Program Req Resp ε α
  | .ok a => .ok a
  | .error e => .err e

/-- Hand the outcome to the caller instead of propagating an error. -/
def attempt : Program Req Resp ε α → Program Req Resp δ (Except ε α)
  | .ok a => .ok (.ok a)
  | .err e => .ok (.error e)
  | .call r next => .call r (fun x => (next x).attempt)

/-- Run `body` on every element, in order. -/
def forEach (xs : List β) (body : β → Program Req Resp ε Unit) : Program Req Resp ε Unit :=
  match xs with
  | [] => .ok ()
  | x :: xs => (body x).bind (fun _ => forEach xs body)

@[simp] theorem pure_eq (a : α) : (pure a : Program Req Resp ε α) = .ok a := rfl

@[simp] theorem bind_eq (p : Program Req Resp ε α) (f : α → Program Req Resp ε β) :
    p >>= f = p.bind f := rfl

@[simp] theorem ok_bind (a : α) (f : α → Program Req Resp ε β) :
    (Program.ok a).bind f = f a := rfl

@[simp] theorem err_bind (e : ε) (f : α → Program Req Resp ε β) :
    (Program.err e : Program Req Resp ε α).bind f = .err e := rfl

@[simp] theorem call_bind (r : Req) (next : Resp r → Program Req Resp ε α)
    (f : α → Program Req Resp ε β) :
    (Program.call r next).bind f = .call r (fun x => (next x).bind f) := rfl

@[simp] theorem send_bind (r : Req) (f : Resp r → Program Req Resp ε β) :
    (send r).bind f = .call r f := rfl

theorem attempt_bind_ofExcept (p : Program Req Resp ε α) :
    (p.attempt : Program Req Resp ε (Except ε α)).bind ofExcept = p := by
  induction p with
  | ok a => rfl
  | err e => rfl
  | call r next ih => exact congrArg (Program.call r) (funext ih)

/-- `Steps p tr q`: from `p`, after the exchanges `tr`, the program still to be
run is `q`. -/
inductive Steps : Program Req Resp ε α → List (Exchange Req Resp) →
    Program Req Resp ε α → Prop
  | nil (p : Program Req Resp ε α) : Steps p [] p
  | cons {r : Req} {next : Resp r → Program Req Resp ε α} (x : Resp r)
      {tr : List (Exchange Req Resp)} {q : Program Req Resp ε α} :
      Steps (next x) tr q → Steps (.call r next) (⟨r, x⟩ :: tr) q

/-- `Runs p tr res`: a complete run of `p` leaves the trace `tr` and ends with
`res`. Nothing constrains the responses. -/
def Runs (p : Program Req Resp ε α) (tr : List (Exchange Req Resp)) (res : Except ε α) : Prop :=
  Steps p tr (ofExcept res)

theorem Steps.snoc {p : Program Req Resp ε α} {tr : List (Exchange Req Resp)} {r : Req}
    {next : Resp r → Program Req Resp ε α} (h : Steps p tr (.call r next)) (x : Resp r) :
    Steps p (tr ++ [⟨r, x⟩]) (next x) := by
  generalize hq : Program.call r next = q at h
  induction h with
  | nil p =>
    subst hq
    exact .cons x (.nil _)
  | cons y _ ih => exact .cons y (ih hq)

@[simp] theorem steps_ok {a : α} {tr : List (Exchange Req Resp)} {q : Program Req Resp ε α} :
    Steps (.ok a) tr q ↔ tr = [] ∧ q = .ok a := by
  constructor
  · intro h
    cases h
    exact ⟨rfl, rfl⟩
  · rintro ⟨rfl, rfl⟩
    exact .nil _

@[simp] theorem steps_err {e : ε} {tr : List (Exchange Req Resp)} {q : Program Req Resp ε α} :
    Steps (.err e) tr q ↔ tr = [] ∧ q = .err e := by
  constructor
  · intro h
    cases h
    exact ⟨rfl, rfl⟩
  · rintro ⟨rfl, rfl⟩
    exact .nil _

theorem steps_call {r : Req} {next : Resp r → Program Req Resp ε α}
    {tr : List (Exchange Req Resp)} {q : Program Req Resp ε α} :
    Steps (.call r next) tr q ↔
      (tr = [] ∧ q = .call r next) ∨ ∃ x tr', tr = ⟨r, x⟩ :: tr' ∧ Steps (next x) tr' q := by
  constructor
  · intro h
    cases h with
    | nil => exact .inl ⟨rfl, rfl⟩
    | cons x h => exact .inr ⟨x, _, rfl, h⟩
  · rintro (⟨rfl, rfl⟩ | ⟨x, tr', rfl, h⟩)
    · exact .nil _
    · exact .cons x h

@[simp] theorem runs_ok {a : α} {tr : List (Exchange Req Resp)} {res : Except ε α} :
    Runs (.ok a : Program Req Resp ε α) tr res ↔ tr = [] ∧ res = .ok a := by
  cases res <;> simp [Runs, ofExcept, eq_comm]

@[simp] theorem runs_err {e : ε} {tr : List (Exchange Req Resp)} {res : Except ε α} :
    Runs (.err e : Program Req Resp ε α) tr res ↔ tr = [] ∧ res = .error e := by
  cases res <;> simp [Runs, ofExcept, eq_comm]

@[simp] theorem runs_call {r : Req} {next : Resp r → Program Req Resp ε α}
    {tr : List (Exchange Req Resp)} {res : Except ε α} :
    Runs (.call r next) tr res ↔ ∃ x tr', tr = ⟨r, x⟩ :: tr' ∧ Runs (next x) tr' res := by
  cases res <;> simp [Runs, ofExcept, steps_call]

/-- The runs of a sequence: the first part fails and its error is the result, or
it returns a value and the second part runs from it. -/
theorem runs_bind {p : Program Req Resp ε α} {f : α → Program Req Resp ε β}
    {tr : List (Exchange Req Resp)} {res : Except ε β} :
    Runs (p.bind f) tr res ↔
      (∃ e, Runs p tr (.error e) ∧ res = .error e) ∨
      ∃ a tr₁ tr₂, tr = tr₁ ++ tr₂ ∧ Runs p tr₁ (.ok a) ∧ Runs (f a) tr₂ res := by
  induction p generalizing tr with
  | ok a => simp
  | err e => simp
  | call r next ih =>
    simp only [call_bind, runs_call, ih]
    constructor
    · rintro ⟨x, tr', rfl, ⟨e, h, rfl⟩ | ⟨a, tr₁, tr₂, rfl, h₁, h₂⟩⟩
      · exact .inl ⟨e, ⟨x, tr', rfl, h⟩, rfl⟩
      · exact .inr ⟨a, ⟨r, x⟩ :: tr₁, tr₂, rfl, ⟨x, tr₁, rfl, h₁⟩, h₂⟩
    · rintro (⟨e, ⟨x, tr', rfl, h⟩, rfl⟩ | ⟨a, _, tr₂, rfl, ⟨x, tr₁, rfl, h₁⟩, h₂⟩)
      · exact ⟨x, tr', rfl, .inl ⟨e, h, rfl⟩⟩
      · exact ⟨x, tr₁ ++ tr₂, rfl, .inr ⟨a, tr₁, tr₂, rfl, h₁, h₂⟩⟩

/-- The program has returned a value. -/
def isOk : Program Req Resp ε α → Bool
  | .ok _ => true
  | _ => false

/-- Every request still in the program satisfies `P` of the exchanges before it
(those of `tr` and those of the program itself) and of what follows it. -/
def Everywhere (P : List (Exchange Req Resp) → (r : Req) → (Resp r → Program Req Resp ε α) → Prop)
    (tr : List (Exchange Req Resp)) : Program Req Resp ε α → Prop
  | .ok _ => True
  | .err _ => True
  | .call r next => P tr r next ∧ ∀ x, (next x).Everywhere P (tr ++ [⟨r, x⟩])

theorem Everywhere.steps
    {P : List (Exchange Req Resp) → (r : Req) → (Resp r → Program Req Resp ε α) → Prop}
    {p q : Program Req Resp ε α} {tr₀ tr : List (Exchange Req Resp)} (h : Steps p tr q)
    (hp : p.Everywhere P tr₀) : q.Everywhere P (tr₀ ++ tr) := by
  induction h generalizing tr₀ with
  | nil p => simpa using hp
  | cons x _ ih => simpa using ih (hp.2 x)

theorem Everywhere.imp
    {P Q : List (Exchange Req Resp) → (r : Req) → (Resp r → Program Req Resp ε α) → Prop}
    (hPQ : ∀ tr r next, P tr r next → Q tr r next) {p : Program Req Resp ε α}
    {tr : List (Exchange Req Resp)} (hp : p.Everywhere P tr) : p.Everywhere Q tr := by
  induction p generalizing tr with
  | ok a => trivial
  | err e => trivial
  | call r next ih => exact ⟨hPQ tr r next hp.1, fun x => ih x (hp.2 x)⟩

/-- Every request still in the program is sent where `Q` holds of the exchanges
before it, those of `tr` included. -/
def Sends (Q : List (Exchange Req Resp) → Req → Prop) (tr : List (Exchange Req Resp))
    (p : Program Req Resp ε α) : Prop :=
  p.Everywhere (fun tr r _ => Q tr r) tr

section Sends

variable {Q : List (Exchange Req Resp) → Req → Prop} {tr : List (Exchange Req Resp)}

theorem sends_ok (a : α) : Sends Q tr (.ok a : Program Req Resp ε α) := trivial

theorem sends_err (e : ε) : Sends Q tr (.err e : Program Req Resp ε α) := trivial

theorem sends_call {r : Req} {next : Resp r → Program Req Resp ε α} (hr : Q tr r)
    (hnext : ∀ x, Sends Q (tr ++ [⟨r, x⟩]) (next x)) : Sends Q tr (.call r next) :=
  ⟨hr, hnext⟩

theorem sends_bind {p : Program Req Resp ε α} {f : α → Program Req Resp ε β} (hp : Sends Q tr p)
    (hf : ∀ tr a, Sends Q tr (f a)) : Sends Q tr (p.bind f) := by
  induction p generalizing tr with
  | ok a => exact hf tr a
  | err e => trivial
  | call r next ih => exact ⟨hp.1, fun x => ih x (hp.2 x)⟩

theorem sends_attempt {p : Program Req Resp ε α} (hp : Sends Q tr p) :
    Sends Q tr (p.attempt : Program Req Resp δ (Except ε α)) := by
  induction p generalizing tr with
  | ok a => trivial
  | err e => trivial
  | call r next ih => exact ⟨hp.1, fun x => ih x (hp.2 x)⟩

end Sends

theorem Steps.last {p : Program Req Resp ε α} {tr : List (Exchange Req Resp)} {a : α}
    (h : Steps p tr (.ok a)) (hp : p.isOk = false) :
    ∃ tr' r x next, tr = tr' ++ [⟨r, x⟩] ∧ Steps p tr' (.call r next) ∧ next x = .ok a := by
  generalize hq : Program.ok a = q at h
  induction h with
  | nil p =>
    subst hq
    cases hp
  | @cons r next x tr q h ih =>
    cases hnext : (next x).isOk with
    | false =>
      obtain ⟨tr', r', x', next', rfl, hsteps, hlast⟩ := ih hnext hq
      exact ⟨⟨r, x⟩ :: tr', r', x', next', rfl, .cons x hsteps, hlast⟩
    | true =>
      subst hq
      cases hx : next x with
      | ok b =>
        rw [hx] at h
        obtain ⟨rfl, hab⟩ := steps_ok.mp h
        exact ⟨[], r, x, next, rfl, .nil _, hx.trans hab.symm⟩
      | err e => simp [hx, isOk] at hnext
      | call r' next' => simp [hx, isOk] at hnext

end Program

/-- Every exchange of the trace that satisfies `late` comes after one that
satisfies `early`. -/
def Precedes (early late : Exchange Req Resp → Prop) (tr : List (Exchange Req Resp)) : Prop :=
  ∀ pre e post, tr = pre ++ e :: post → late e → ∃ d ∈ pre, early d

theorem precedes_of_forall_not {early late : Exchange Req Resp → Prop}
    {tr : List (Exchange Req Resp)} (h : ∀ e ∈ tr, ¬ late e) : Precedes early late tr := by
  rintro pre e post rfl he
  exact absurd he (h e (by simp))

theorem precedes_append {early late : Exchange Req Resp → Prop}
    {tr₁ tr₂ : List (Exchange Req Resp)} (h₁ : ∀ e ∈ tr₁, ¬ late e)
    (h₂ : Precedes early late tr₂) : Precedes early late (tr₁ ++ tr₂) := by
  intro pre e post heq he
  rcases List.append_eq_append_iff.mp heq with ⟨mid, rfl, hmid⟩ | ⟨mid, rfl, hmid⟩
  · obtain ⟨d, hd, hearly⟩ := h₂ mid e post hmid he
    exact ⟨d, List.mem_append_right _ hd, hearly⟩
  · cases mid with
    | nil =>
      obtain ⟨d, hd, _⟩ := h₂ [] e post hmid.symm he
      simp at hd
    | cons m mid =>
      obtain ⟨rfl, rfl⟩ := List.cons.inj hmid
      exact absurd he (h₁ e (by simp))

theorem precedes_append_of_mem {early late : Exchange Req Resp → Prop}
    {tr₁ tr₂ : List (Exchange Req Resp)} (h₁ : ∀ e ∈ tr₁, ¬ late e)
    (hearly : ∃ d ∈ tr₁, early d) : Precedes early late (tr₁ ++ tr₂) := by
  intro pre e post heq he
  rcases List.append_eq_append_iff.mp heq with ⟨mid, rfl, hmid⟩ | ⟨mid, rfl, hmid⟩
  · obtain ⟨d, hd, hd'⟩ := hearly
    exact ⟨d, List.mem_append_left _ hd, hd'⟩
  · cases mid with
    | nil =>
      obtain ⟨d, hd, hd'⟩ := hearly
      exact ⟨d, by simpa using hd, hd'⟩
    | cons m mid =>
      obtain ⟨rfl, rfl⟩ := List.cons.inj hmid
      exact absurd he (h₁ e (by simp))

end StreamlineOperator.Foundation
