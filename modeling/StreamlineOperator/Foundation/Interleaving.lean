/- source: general support, no source file
   digest: Interleaved runs of many programs over one shared state, with their event history. -/

import StreamlineOperator.Foundation.Program
import Mathlib.Data.Fintype.Card

set_option autoImplicit false
set_option relaxedAutoImplicit false

namespace StreamlineOperator.Foundation

variable {Req : Type} {Resp : Req → Type} {ε α : Type} {ι σ : Type}

/-- One request served atomically: who sent it, what was answered, and the
shared state on both sides of it. -/
structure Event (Req : Type) (Resp : Req → Type) (ι σ : Type) where
  task : ι
  request : Req
  response : Resp request
  before : σ
  after : σ

/-- The exchange the sender saw. -/
def Event.exchange (e : Event Req Resp ι σ) : Exchange Req Resp := ⟨e.request, e.response⟩

/-- The shared state together with what every task has still to run. -/
structure World (Req : Type) (Resp : Req → Type) (ε α ι σ : Type) where
  state : σ
  tasks : ι → Program Req Resp ε α

namespace World

variable [DecidableEq ι] (serve : (r : Req) → σ → Resp r → σ → Prop)

/-- Any task whose next action is a request may have it served now. Between two
requests of one task every other task may run. -/
inductive Step : World Req Resp ε α ι σ → Event Req Resp ι σ → World Req Resp ε α ι σ → Prop
  | mk {w : World Req Resp ε α ι σ} {i : ι} {r : Req} {next : Resp r → Program Req Resp ε α}
      {x : Resp r} {s' : σ} :
      w.tasks i = .call r next → serve r w.state x s' →
      Step w ⟨i, r, x, w.state, s'⟩ ⟨s', Function.update w.tasks i (next x)⟩

/-- Finite runs, with the history of their events. -/
inductive Run (w₀ : World Req Resp ε α ι σ) :
    List (Event Req Resp ι σ) → World Req Resp ε α ι σ → Prop
  | refl : Run w₀ [] w₀
  | step {h : List (Event Req Resp ι σ)} {w w' : World Req Resp ε α ι σ}
      {e : Event Req Resp ι σ} : Run w₀ h w → Step serve w e w' → Run w₀ (h ++ [e]) w'

variable {serve} {w₀ w w' : World Req Resp ε α ι σ} {e : Event Req Resp ι σ}
variable {h h₁ h₂ : List (Event Req Resp ι σ)}

theorem Step.served (hs : Step serve w e w') :
    serve e.request e.before e.response e.after ∧ e.before = w.state ∧ e.after = w'.state := by
  cases hs with
  | mk _ hserve => exact ⟨hserve, rfl, rfl⟩

theorem Step.task_eq (hs : Step serve w e w') :
    ∃ next, w.tasks e.task = .call e.request next ∧
      w'.tasks = Function.update w.tasks e.task (next e.response) := by
  cases hs with
  | mk htask _ => exact ⟨_, htask, rfl⟩

theorem Run.append (hr₁ : Run serve w₀ h₁ w) (hr₂ : Run serve w h₂ w') :
    Run serve w₀ (h₁ ++ h₂) w' := by
  induction hr₂ with
  | refl => simpa using hr₁
  | step _ hs ih => simpa only [List.append_assoc] using ih.step hs

theorem Run.split (hr : Run serve w₀ (h₁ ++ h₂) w') :
    ∃ w, Run serve w₀ h₁ w ∧ Run serve w h₂ w' := by
  generalize hh : h₁ ++ h₂ = h at hr
  induction hr generalizing h₂ with
  | refl =>
    obtain ⟨rfl, rfl⟩ := List.append_eq_nil_iff.mp hh
    exact ⟨w₀, .refl, .refl⟩
  | @step h w w' e hr hs ih =>
    rcases List.eq_nil_or_concat h₂ with rfl | ⟨h₂', e', rfl⟩
    · rw [List.append_nil] at hh
      subst hh
      exact ⟨w', hr.step hs, .refl⟩
    · rw [List.concat_eq_append, ← List.append_assoc] at hh
      obtain ⟨rfl, he⟩ := List.append_inj' hh rfl
      obtain rfl := List.singleton_inj.mp he
      obtain ⟨v, hv₁, hv₂⟩ := ih rfl
      exact ⟨v, hv₁, by simpa only [List.concat_eq_append] using hv₂.step hs⟩

private theorem Run.eq_of_nil (hr : Run serve w₀ [] w) : w = w₀ := by
  generalize hh : ([] : List (Event Req Resp ι σ)) = h at hr
  cases hr with
  | refl => rfl
  | step => simp at hh

private theorem Run.step_of_singleton (hr : Run serve w₀ [e] w) : Step serve w₀ e w := by
  generalize hh : [e] = h at hr
  cases hr with
  | refl => simp at hh
  | step hr hs =>
    rw [← List.nil_append [e]] at hh
    obtain ⟨rfl, he⟩ := List.append_inj' hh rfl
    obtain rfl := List.singleton_inj.mp he
    rwa [hr.eq_of_nil] at hs

theorem Run.split_cons (hr : Run serve w₀ (h₁ ++ e :: h₂) w') :
    ∃ v v', Run serve w₀ h₁ v ∧ Step serve v e v' ∧ Run serve v' h₂ w' := by
  rw [show h₁ ++ e :: h₂ = (h₁ ++ [e]) ++ h₂ by simp] at hr
  obtain ⟨v', hr', hr₂⟩ := hr.split
  obtain ⟨v, hr₁, hre⟩ := hr'.split
  exact ⟨v, v', hr₁, hre.step_of_singleton, hr₂⟩

/-- The exchanges of one task, in order. -/
def exchangesOf (h : List (Event Req Resp ι σ)) (i : ι) : List (Exchange Req Resp) :=
  (h.filter (fun e => e.task = i)).map Event.exchange

/-- What one task saw is a run of its own program up to where it stands. -/
theorem Run.project (hr : Run serve w₀ h w) (i : ι) :
    Program.Steps (w₀.tasks i) (exchangesOf h i) (w.tasks i) := by
  unfold exchangesOf
  induction hr with
  | refl => exact .nil _
  | @step h w w' e hr hs ih =>
    obtain ⟨next, htask, htasks⟩ := hs.task_eq
    by_cases hi : e.task = i
    · subst hi
      have hstep := (htask ▸ ih).snoc e.response
      simpa [htasks, Event.exchange] using hstep
    · have hne : w'.tasks i = w.tasks i := by
        rw [htasks, Function.update_of_ne (Ne.symm hi)]
      rw [hne]
      simpa [hi] using ih

/-- The run with this history from `w₀` to `w` passes through `v`. -/
def Passes (serve : (r : Req) → σ → Resp r → σ → Prop) (w₀ : World Req Resp ε α ι σ)
    (h : List (Event Req Resp ι σ)) (w v : World Req Resp ε α ι σ) : Prop :=
  ∃ h₁ h₂, h = h₁ ++ h₂ ∧ Run serve w₀ h₁ v ∧ Run serve v h₂ w

theorem Run.passes_of_mem (hr : Run serve w₀ h w) (he : e ∈ h) :
    ∃ h₁ v v', Run serve w₀ h₁ v ∧ Step serve v e v' ∧ Passes serve w₀ h w v ∧
      Passes serve w₀ h w v' := by
  obtain ⟨h₁, h₂, rfl⟩ := List.append_of_mem he
  obtain ⟨v, v', hr₁, hs, hr₂⟩ := hr.split_cons
  have hstep : Run serve v [e] v' := Run.refl.step hs
  exact ⟨h₁, v, v', hr₁, hs, ⟨h₁, e :: h₂, rfl, hr₁, hstep.append hr₂⟩,
    ⟨h₁ ++ [e], h₂, by simp, hr₁.step hs, hr₂⟩⟩

/-- A reflexive and transitive relation that every served request respects
holds between the ends of a run. -/
theorem Run.state_rel {R : σ → σ → Prop} (refl : ∀ s, R s s)
    (trans : ∀ {a b c}, R a b → R b c → R a c)
    (hserve : ∀ {r s x s'}, serve r s x s' → R s s') (hr : Run serve w₀ h w) :
    R w₀.state w.state := by
  induction hr with
  | refl => exact refl _
  | step _ hs ih =>
    obtain ⟨hs, hb, ha⟩ := hs.served
    exact trans ih (hb ▸ ha ▸ hserve hs)

/-- The invariant rule: what the start satisfies and every step keeps holds at
the end of every run. -/
theorem Run.invariant {I : List (Event Req Resp ι σ) → World Req Resp ε α ι σ → Prop}
    (init : I [] w₀)
    (step : ∀ {h w e w'}, Run serve w₀ h w → I h w → Step serve w e w' → I (h ++ [e]) w')
    (hr : Run serve w₀ h w) : I h w := by
  induction hr with
  | refl => exact init
  | step hr hs ih => exact step hr ih hs

theorem Run.everywhere
    {P : List (Exchange Req Resp) → (r : Req) → (Resp r → Program Req Resp ε α) → Prop} {i : ι}
    (hr : Run serve w₀ h w) (hi : (w₀.tasks i).Everywhere P []) :
    (w.tasks i).Everywhere P (exchangesOf h i) :=
  hi.steps (hr.project i)

/-- So does what holds everywhere at the start: of the request a step serves. -/
theorem Run.everywhere_step
    {P : List (Exchange Req Resp) → (r : Req) → (Resp r → Program Req Resp ε α) → Prop}
    (hr : Run serve w₀ h w) (hs : Step serve w e w') (hi : (w₀.tasks e.task).Everywhere P []) :
    ∃ next, P (exchangesOf h e.task) e.request next ∧
      w'.tasks = Function.update w.tasks e.task (next e.response) := by
  obtain ⟨next, htask, htasks⟩ := hs.task_eq
  have hall := hr.everywhere hi
  rw [htask] at hall
  exact ⟨next, hall.1, htasks⟩

theorem exists_event_of_exchangesOf {i : ι} {x : Exchange Req Resp}
    {tr₁ tr₂ : List (Exchange Req Resp)} (hx : exchangesOf h i = tr₁ ++ x :: tr₂) :
    ∃ h₁ e h₂, h = h₁ ++ e :: h₂ ∧ e.task = i ∧ e.exchange = x ∧ exchangesOf h₁ i = tr₁ ∧
      exchangesOf h₂ i = tr₂ := by
  obtain ⟨f₁, f₂, hf, hf₁, hf₂⟩ := List.map_eq_append_iff.mp hx
  obtain ⟨e, f₂', rfl, he, hf₂'⟩ := List.map_eq_cons_iff.mp hf₂
  obtain ⟨h₁, h₂, rfl, hh₁, hh₂⟩ := List.filter_eq_append_iff.mp hf
  obtain ⟨k₁, k₂, rfl, hother, htask, hk₂⟩ := List.filter_eq_cons_iff.mp hh₂
  refine ⟨h₁ ++ k₁, e, k₂, by simp, by simpa using htask, he, ?_, ?_⟩
  · rw [exchangesOf, List.filter_append, hh₁, List.filter_eq_nil_iff.mpr hother, List.append_nil,
      hf₁]
  · rw [exchangesOf, hk₂, hf₂']

theorem mem_of_mem_exchangesOf {i : ι} {x : Exchange Req Resp} (hx : x ∈ exchangesOf h i) :
    ∃ e ∈ h, e.task = i ∧ e.exchange = x := by
  obtain ⟨e, he, rfl⟩ := List.mem_map.mp hx
  obtain ⟨he, htask⟩ := List.mem_filter.mp he
  exact ⟨e, he, by simpa using htask, rfl⟩

/-! What a run makes of a part of the state that only some events change. -/

section Marked

variable {β : Type} {f : σ → β} {marked : Event Req Resp ι σ → Prop}

/-- What all but marked events keep is in the end as it was at the start, or as
the last marked event left it. -/
theorem Run.last_marked
    (kept : ∀ {h v e v'}, Run serve w₀ h v → Step serve v e v' → ¬ marked e →
      f v'.state = f v.state)
    (hr : Run serve w₀ h w) :
    ((∀ e ∈ h, ¬ marked e) ∧ f w.state = f w₀.state) ∨
      ∃ h₁ e h₂, h = h₁ ++ e :: h₂ ∧ marked e ∧ (∀ d ∈ h₂, ¬ marked d) ∧ f w.state = f e.after := by
  induction hr with
  | refl => exact .inl ⟨by simp, rfl⟩
  | @step h v v' e hr hs ih =>
    by_cases he : marked e
    · exact .inr ⟨h, e, [], rfl, he, by simp, by rw [hs.served.2.2]⟩
    · have hsame := kept hr hs he
      rcases ih with ⟨hnone, hfirst⟩ | ⟨h₁, d, h₂, rfl, hd, hafter, hlast⟩
      · refine .inl ⟨fun d hd => ?_, hsame.trans hfirst⟩
        rcases List.mem_append.mp hd with hd | hd
        · exact hnone d hd
        · rwa [List.mem_singleton.mp hd]
      · refine .inr ⟨h₁, d, h₂ ++ [e], by simp, hd, fun c hc => ?_, hsame.trans hlast⟩
        rcases List.mem_append.mp hc with hc | hc
        · exact hafter c hc
        · rwa [List.mem_singleton.mp hc]

/-- What marked events move on, and no others, has been moved on once for each. -/
theorem Run.counted [DecidablePred marked] {next : β → β}
    (step : ∀ {h v e v'}, Run serve w₀ h v → Step serve v e v' →
      f v'.state = if marked e then next (f v.state) else f v.state)
    (hr : Run serve w₀ h w) : f w.state = next^[h.countP marked] (f w₀.state) := by
  induction hr with
  | refl => rfl
  | @step h v v' e hr hs ih =>
    rw [step hr hs, ih, List.countP_append]
    by_cases he : marked e
    · simp [he, Function.iterate_succ_apply']
    · simp [he]

end Marked

/-! Counting the tasks that have returned. -/

section Returned

variable [Fintype ι] {κ : Type} [DecidableEq κ]

/-- How many of the tasks labelled `c` have returned a value. -/
def returned (label : ι → κ) (w : World Req Resp ε α ι σ) (c : κ) : Nat :=
  (Finset.univ.filter (fun i => label i = c ∧ (w.tasks i).isOk)).card

theorem Step.returned_eq (label : ι → κ) (hs : Step serve w e w') (c : κ) :
    returned label w' c =
      returned label w c + if label e.task = c ∧ (w'.tasks e.task).isOk then 1 else 0 := by
  obtain ⟨next, htask, htasks⟩ := hs.task_eq
  have hother : ∀ i, i ≠ e.task → w'.tasks i = w.tasks i := fun i hi => by
    rw [htasks, Function.update_of_ne hi]
  have hnot : ∀ c, ¬ (label e.task = c ∧ (w.tasks e.task).isOk = true) := by
    rintro c ⟨-, hok⟩
    rw [htask] at hok
    cases hok
  unfold returned
  split
  · rename_i hreturns
    rw [← Finset.card_insert_of_notMem (a := e.task)
      (by simpa using fun hlabel => Bool.eq_false_iff.mpr fun hok => hnot c ⟨hlabel, hok⟩)]
    congr 1
    ext i
    by_cases hi : i = e.task
    · subst hi
      simp [hreturns.1, hreturns.2]
    · simp [hi, hother i hi]
  · rename_i hstays
    rw [Nat.add_zero]
    congr 1
    ext i
    by_cases hi : i = e.task
    · subst hi
      simp only [Finset.mem_filter, Finset.mem_univ, true_and]
      exact iff_of_false hstays (hnot c)
    · simp [hother i hi]

end Returned

/-! Runs that are computed from a schedule. -/

/-- Let the tasks of the schedule take their next requests in turn, each
answered by `answer`. -/
def execute (answer : (r : Req) → σ → Resp r × σ) :
    List ι → World Req Resp ε α ι σ → List (Event Req Resp ι σ) × World Req Resp ε α ι σ
  | [], w => ([], w)
  | i :: schedule, w =>
    match w.tasks i with
    | .call r next =>
      let (x, s') := answer r w.state
      let rest := execute answer schedule ⟨s', Function.update w.tasks i (next x)⟩
      (⟨i, r, x, w.state, s'⟩ :: rest.1, rest.2)
    | _ => execute answer schedule w

theorem run_execute {answer : (r : Req) → σ → Resp r × σ}
    (hanswer : ∀ r s, serve r s (answer r s).1 (answer r s).2) (schedule : List ι)
    (w : World Req Resp ε α ι σ) :
    Run serve w (execute answer schedule w).1 (execute answer schedule w).2 := by
  induction schedule generalizing w with
  | nil => exact .refl
  | cons i schedule ih =>
    unfold execute
    split
    · rename_i r next htask
      have hstep := Run.refl.step (Step.mk htask (hanswer r w.state))
      exact hstep.append (ih _)
    · exact ih w

end World

end StreamlineOperator.Foundation
