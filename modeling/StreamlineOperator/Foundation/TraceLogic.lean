/- source: general support, no source file
   digest: Rules for what all runs of a program do: always, leaves behind, does in order. -/

import StreamlineOperator.Foundation.Program

set_option autoImplicit false
set_option relaxedAutoImplicit false

namespace StreamlineOperator.Foundation

variable {Req : Type} {Resp : Req → Type} {ε α β : Type}

namespace Program

/-- Run `p` if the condition holds. -/
def when (condition : Bool) (p : Program Req Resp ε Unit) : Program Req Resp ε Unit :=
  if condition then p else .ok ()

@[simp] theorem when_true (p : Program Req Resp ε Unit) : when true p = p := rfl

@[simp] theorem when_false (p : Program Req Resp ε Unit) : when false p = .ok () := rfl

/-- Every exchange of every run satisfies `P`. -/
def Always (P : Exchange Req Resp → Prop) (p : Program Req Resp ε α) : Prop :=
  ∀ tr res, Runs p tr res → ∀ e ∈ tr, P e

/-- Every run that returns a value leaves an exchange that satisfies `E`. -/
def Leaves (E : Exchange Req Resp → Prop) (p : Program Req Resp ε α) : Prop :=
  ∀ tr a, Runs p tr (.ok a) → ∃ e ∈ tr, E e

/-- Every run returns a value. -/
def Returns (p : Program Req Resp ε α) : Prop :=
  ∀ tr res, Runs p tr res → ∃ a, res = .ok a

/-- In every run, what satisfies `late` comes after something that satisfies `early`. -/
def Orders (early late : Exchange Req Resp → Prop) (p : Program Req Resp ε α) : Prop :=
  ∀ tr res, Runs p tr res → Precedes early late tr

variable {P Q E early late : Exchange Req Resp → Prop}
variable {p : Program Req Resp ε α} {f : α → Program Req Resp ε β}

theorem always_ok (a : α) : Always P (.ok a : Program Req Resp ε α) := by
  intro tr res h
  rw [runs_ok] at h
  simp [h.1]

theorem always_err (e : ε) : Always P (.err e : Program Req Resp ε α) := by
  intro tr res h
  rw [runs_err] at h
  simp [h.1]

theorem always_call {r : Req} {next : Resp r → Program Req Resp ε α} (hr : ∀ x, P ⟨r, x⟩)
    (hnext : ∀ x, Always P (next x)) : Always P (.call r next) := by
  intro tr res h
  rw [runs_call] at h
  obtain ⟨x, tr', rfl, h⟩ := h
  exact List.forall_mem_cons.mpr ⟨hr x, hnext x tr' res h⟩

theorem always_bind (hp : Always P p) (hf : ∀ a, Always P (f a)) : Always P (p.bind f) := by
  intro tr res h
  rw [runs_bind] at h
  rcases h with ⟨e, h, rfl⟩ | ⟨a, tr₁, tr₂, rfl, h₁, h₂⟩
  · exact hp tr _ h
  · exact List.forall_mem_append.mpr ⟨hp tr₁ _ h₁, hf a tr₂ res h₂⟩

theorem always_then {b : β} (hp : Always P p) : Always P (p.bind fun _ => .ok b) := by
  apply always_bind hp
  intro _
  exact always_ok b

theorem always_send_bind {r : Req} {g : Resp r → Program Req Resp ε β} (hr : ∀ x, P ⟨r, x⟩)
    (hg : ∀ x, Always P (g x)) : Always P ((Program.send r).bind g) :=
  always_call hr hg

/-- The runs of an attempt are those of the program, with the outcome handed over. -/
theorem runs_attempt {δ : Type} {tr : List (Exchange Req Resp)} {res : Except δ (Except ε α)} :
    Runs (p.attempt : Program Req Resp δ (Except ε α)) tr res ↔
      ∃ outcome, Runs p tr outcome ∧ res = .ok outcome := by
  induction p generalizing tr with
  | ok a => simp [attempt, and_assoc]
  | err e => simp [attempt, and_assoc]
  | call r next ih =>
    simp only [attempt, runs_call, ih]
    constructor
    · rintro ⟨x, tr', rfl, outcome, h, rfl⟩
      exact ⟨outcome, ⟨x, tr', rfl, h⟩, rfl⟩
    · rintro ⟨outcome, ⟨x, tr', rfl, h⟩, rfl⟩
      exact ⟨x, tr', rfl, outcome, h, rfl⟩

theorem always_attempt {δ : Type} (hp : Always P p) :
    Always P (p.attempt : Program Req Resp δ (Except ε α)) := by
  intro tr res h
  obtain ⟨outcome, h, -⟩ := runs_attempt.mp h
  exact hp tr outcome h

theorem always_forEach {xs : List β} {body : β → Program Req Resp ε Unit}
    (h : ∀ x ∈ xs, Always P (body x)) : Always P (forEach xs body) := by
  induction xs with
  | nil => exact always_ok ()
  | cons x xs ih =>
    rw [forEach]
    exact always_bind (h x (by simp)) (fun _ => ih (fun y hy => h y (List.mem_cons_of_mem _ hy)))

theorem leaves_bind_left (hp : Leaves E p) : Leaves E (p.bind f) := by
  intro tr b h
  rw [runs_bind] at h
  rcases h with ⟨e, -, he⟩ | ⟨a, tr₁, tr₂, rfl, h₁, -⟩
  · cases he
  · obtain ⟨e, he, hE⟩ := hp tr₁ a h₁
    exact ⟨e, List.mem_append_left _ he, hE⟩

theorem leaves_bind_right (hf : ∀ a, Leaves E (f a)) : Leaves E (p.bind f) := by
  intro tr b h
  rw [runs_bind] at h
  rcases h with ⟨e, -, he⟩ | ⟨a, tr₁, tr₂, rfl, -, h₂⟩
  · cases he
  · obtain ⟨e, he, hE⟩ := hf a tr₂ b h₂
    exact ⟨e, List.mem_append_right _ he, hE⟩

theorem returns_ok (a : α) : Returns (.ok a : Program Req Resp ε α) := by
  intro tr res h
  exact ⟨a, (runs_ok.mp h).2⟩

theorem returns_call {r : Req} {next : Resp r → Program Req Resp ε α}
    (hnext : ∀ x, Returns (next x)) : Returns (.call r next) := by
  intro tr res h
  rw [runs_call] at h
  obtain ⟨x, tr', -, h⟩ := h
  exact hnext x tr' res h

theorem returns_bind (hp : Returns p) (hf : ∀ a, Returns (f a)) : Returns (p.bind f) := by
  intro tr res h
  rw [runs_bind] at h
  rcases h with ⟨e, h, -⟩ | ⟨a, tr₁, tr₂, -, -, h⟩
  · obtain ⟨a, ha⟩ := hp tr _ h
    cases ha
  · exact hf a tr₂ res h

theorem returns_forEach {xs : List β} {body : β → Program Req Resp ε Unit}
    (h : ∀ x ∈ xs, Returns (body x)) : Returns (forEach xs body) := by
  induction xs with
  | nil => exact returns_ok ()
  | cons x xs ih =>
    rw [forEach]
    exact returns_bind (h x (by simp)) (fun _ => ih (fun y hy => h y (List.mem_cons_of_mem _ hy)))

theorem orders_of_never (hp : Always (fun e => ¬ late e) p) : Orders early late p :=
  fun tr res h => precedes_of_forall_not (hp tr res h)

theorem orders_bind (hp : Always (fun e => ¬ late e) p) (hf : ∀ a, Orders early late (f a)) :
    Orders early late (p.bind f) := by
  intro tr res h
  rw [runs_bind] at h
  rcases h with ⟨e, h, rfl⟩ | ⟨a, tr₁, tr₂, rfl, h₁, h₂⟩
  · exact precedes_of_forall_not (hp tr _ h)
  · exact precedes_append (hp tr₁ _ h₁) (hf a tr₂ res h₂)

/-- Whatever follows a part that leaves something early is in order. -/
theorem orders_bind_leaves (hp : Always (fun e => ¬ late e) p) (he : Leaves early p) :
    Orders early late (p.bind f) := by
  intro tr res h
  rw [runs_bind] at h
  rcases h with ⟨e, h, rfl⟩ | ⟨a, tr₁, tr₂, rfl, h₁, h₂⟩
  · exact precedes_of_forall_not (hp tr _ h)
  · exact precedes_append_of_mem (hp tr₁ _ h₁) (he tr₁ a h₁)

/-- The run in which every request is answered by `env`. -/
def answer (env : (r : Req) → Resp r) :
    Program Req Resp ε α → List (Exchange Req Resp) × Except ε α
  | .ok a => ([], .ok a)
  | .err e => ([], .error e)
  | .call r next =>
    let rest := (next (env r)).answer env
    (⟨r, env r⟩ :: rest.1, rest.2)

theorem runs_answer (env : (r : Req) → Resp r) (p : Program Req Resp ε α) :
    Runs p (p.answer env).1 (p.answer env).2 := by
  induction p with
  | ok a => exact runs_ok.mpr ⟨rfl, rfl⟩
  | err e => exact runs_err.mpr ⟨rfl, rfl⟩
  | call r next ih => exact runs_call.mpr ⟨env r, _, rfl, ih (env r)⟩

theorem response_of_mem_answer {env : (r : Req) → Resp r} {p : Program Req Resp ε α}
    {e : Exchange Req Resp} (h : e ∈ (p.answer env).1) : e = ⟨e.request, env e.request⟩ := by
  induction p with
  | ok a => simp [answer] at h
  | err e => simp [answer] at h
  | call r next ih =>
    rcases List.mem_cons.mp h with rfl | h
    · rfl
    · exact ih (env r) h

theorem mem_answer_bind_left {env : (r : Req) → Resp r} {p : Program Req Resp ε α}
    {f : α → Program Req Resp ε β} {e : Exchange Req Resp} (h : e ∈ (p.answer env).1) :
    e ∈ ((p.bind f).answer env).1 := by
  induction p with
  | ok a => simp [answer] at h
  | err e => simp [answer] at h
  | call r next ih =>
    rcases List.mem_cons.mp h with rfl | h
    · exact List.mem_cons_self
    · exact List.mem_cons_of_mem _ (ih (env r) h)

theorem mem_answer_bind_right {env : (r : Req) → Resp r} {p : Program Req Resp ε α}
    {f : α → Program Req Resp ε β} {e : Exchange Req Resp} {a : α}
    (hp : (p.answer env).2 = .ok a) (h : e ∈ ((f a).answer env).1) :
    e ∈ ((p.bind f).answer env).1 := by
  induction p with
  | ok b =>
    obtain rfl : b = a := Except.ok.inj hp
    exact h
  | err e => cases hp
  | call r next ih => exact List.mem_cons_of_mem _ (ih (env r) hp)

end Program

end StreamlineOperator.Foundation
