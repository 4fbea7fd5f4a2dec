/- source: general support, no source file
   digest: Interleaved runs that come to the same as their tasks run one after the other. -/

import StreamlineOperator.Foundation.Interleaving
import StreamlineOperator.Foundation.ServedRuns
import Mathlib.Data.List.Infix

set_option autoImplicit false
set_option relaxedAutoImplicit false

namespace StreamlineOperator.Foundation

variable {Req : Type} {Resp : Req → Type} {ε α ι σ : Type}

namespace Program

/-- The program has nothing left to request. -/
def ended : Program Req Resp ε α → Bool
  | .call .. => false
  | _ => true

/-- One run of the program from `s` to its end, with nobody in between. -/
def Atomically (serve : (r : Req) → σ → Resp r → σ → Prop) (p : Program Req Resp ε α) (s : σ)
    (q : Program Req Resp ε α) (s' : σ) : Prop :=
  ∃ tr, Steps p tr q ∧ q.ended = true ∧ Served serve s tr s'

theorem Steps.unique {p q q' : Program Req Resp ε α} {tr : List (Exchange Req Resp)}
    (h : Steps p tr q) (h' : Steps p tr q') : q = q' := by
  induction h with
  | nil p =>
    cases h' with
    | nil => rfl
  | cons x _ ih =>
    cases h' with
    | cons _ h' => exact ih h'

section Atomically

variable {serve : (r : Req) → σ → Resp r → σ → Prop} {q : Program Req Resp ε α} {s s' : σ}

theorem atomically_ok {a : α} : Atomically serve (.ok a) s q s' ↔ q = .ok a ∧ s' = s := by
  constructor
  · rintro ⟨tr, hsteps, -, hserved⟩
    obtain ⟨rfl, rfl⟩ := steps_ok.mp hsteps
    exact ⟨rfl, served_nil.mp hserved⟩
  · rintro ⟨rfl, rfl⟩
    exact ⟨[], .nil _, rfl, .nil _⟩

theorem atomically_err {e : ε} : Atomically serve (.err e) s q s' ↔ q = .err e ∧ s' = s := by
  constructor
  · rintro ⟨tr, hsteps, -, hserved⟩
    obtain ⟨rfl, rfl⟩ := steps_err.mp hsteps
    exact ⟨rfl, served_nil.mp hserved⟩
  · rintro ⟨rfl, rfl⟩
    exact ⟨[], .nil _, rfl, .nil _⟩

theorem atomically_call {r : Req} {next : Resp r → Program Req Resp ε α} :
    Atomically serve (.call r next) s q s' ↔
      ∃ x mid, serve r s x mid ∧ Atomically serve (next x) mid q s' := by
  constructor
  · rintro ⟨tr, hsteps, hended, hserved⟩
    rcases steps_call.mp hsteps with ⟨-, rfl⟩ | ⟨x, tr', rfl, hrest⟩
    · cases hended
    · obtain ⟨mid, hserve, hserved'⟩ := served_cons.mp hserved
      exact ⟨x, mid, hserve, tr', hrest, hended, hserved'⟩
  · rintro ⟨x, mid, hserve, tr, hsteps, hended, hserved⟩
    exact ⟨⟨r, x⟩ :: tr, .cons x hsteps, hended, .cons hserve hserved⟩

theorem atomically_ended (hq : q.ended = true) : Atomically serve q s q s :=
  ⟨[], .nil q, hq, .nil s⟩

end Atomically

end Program

open Program (Atomically)

/-- The tasks of the list, run to their ends one after the other: each ends as `done`
has it. -/
inductive Serially (serve : (r : Req) → σ → Resp r → σ → Prop)
    (tasks done : ι → Program Req Resp ε α) (s : σ) : List ι → σ → Prop
  | nil : Serially serve tasks done s [] s
  | snoc {order : List ι} {mid s' : σ} {i : ι} : Serially serve tasks done s order mid →
      Atomically serve (tasks i) mid (done i) s' → Serially serve tasks done s (order ++ [i]) s'

theorem Serially.congr {serve : (r : Req) → σ → Resp r → σ → Prop}
    {tasks done done' : ι → Program Req Resp ε α} {s s' : σ} {order : List ι}
    (h : Serially serve tasks done s order s') (hdone : ∀ i ∈ order, done' i = done i) :
    Serially serve tasks done' s order s' := by
  induction h with
  | nil => exact .nil
  | @snoc order mid s' i _ hlast ih =>
    rw [List.forall_mem_append, List.forall_mem_singleton] at hdone
    refine .snoc (ih hdone.1) ?_
    rw [hdone.2]
    exact hlast

theorem Serially.unique {serve : (r : Req) → σ → Resp r → σ → Prop}
    {tasks done : ι → Program Req Resp ε α} {s s₁ s₂ : σ} {order : List ι}
    (hunique : ∀ {i mid s₁ s₂}, Atomically serve (tasks i) mid (done i) s₁ →
      Atomically serve (tasks i) mid (done i) s₂ → s₁ = s₂)
    (h₁ : Serially serve tasks done s order s₁) (h₂ : Serially serve tasks done s order s₂) :
    s₁ = s₂ := by
  induction h₁ generalizing s₂ with
  | nil =>
    generalize hnil : ([] : List ι) = none at h₂
    cases h₂ with
    | nil => rfl
    | snoc => simp at hnil
  | @snoc order mid s₁ i _ hlast ih =>
    generalize hsnoc : order ++ [i] = whole at h₂
    cases h₂ with
    | nil => simp at hsnoc
    | snoc hrest hlast' =>
      obtain ⟨rfl, hi⟩ := List.append_inj' hsnoc rfl
      obtain rfl := List.singleton_inj.mp hi
      obtain rfl := ih hrest
      exact hunique hlast hlast'

theorem Serially.last {serve : (r : Req) → σ → Resp r → σ → Prop}
    {tasks done : ι → Program Req Resp ε α} {s s' : σ} {order : List ι} {i : ι}
    (h : Serially serve tasks done s (order ++ [i]) s') :
    ∃ mid, Serially serve tasks done s order mid ∧
      Atomically serve (tasks i) mid (done i) s' := by
  generalize hwhole : order ++ [i] = whole at h
  cases h with
  | nil => simp at hwhole
  | snoc hrest hlast =>
    obtain ⟨rfl, hi⟩ := List.append_inj' hwhole rfl
    obtain rfl := List.singleton_inj.mp hi
    exact ⟨_, hrest, hlast⟩

theorem prefix_concat {before after order : List ι} {i : ι} (hb : before <+: order)
    (ha : after <+: order) (hnodup : after.Nodup) (hi : i ∉ before)
    (hmem : ∀ j, j ∈ after ↔ j = i ∨ j ∈ before) : after = before ++ [i] := by
  rcases List.prefix_or_prefix_of_prefix hb ha with ⟨rest, rfl⟩ | hshorter
  · have hrest : ∀ j ∈ rest, j = i := by
      intro j hj
      have hmem' := (hmem j).mp (List.mem_append_right _ hj)
      exact hmem'.resolve_right fun hbefore => (List.nodup_append.mp hnodup).2.2 j hbefore j hj rfl
    have hin : i ∈ rest := by
      have hi' := (hmem i).mpr (.inl rfl)
      rw [List.mem_append] at hi'
      exact hi'.resolve_left hi
    rw [List.eq_replicate_of_mem hrest] at hin hnodup ⊢
    match hlength : rest.length with
    | 0 => simp [hlength] at hin
    | 1 => rfl
    | n + 2 => simp [hlength, List.replicate_succ, List.nodup_append] at hnodup
  · exact absurd (hshorter.subset ((hmem i).mpr (.inl rfl))) hi

namespace World

variable [DecidableEq ι] {serve : (r : Req) → σ → Resp r → σ → Prop}
variable {w₀ w w' v : World Req Resp ε α ι σ} {e : Event Req Resp ι σ}
variable {h : List (Event Req Resp ι σ)}

/-- The tasks that have ended in `w`, run from the start of `w₀` one after the other in
this order, leave the state of `w` and end as they do in `w`. -/
structure Linearized (serve : (r : Req) → σ → Resp r → σ → Prop)
    (w₀ w : World Req Resp ε α ι σ) (order : List ι) : Prop where
  nodup : order.Nodup
  mem_iff : ∀ i, i ∈ order ↔ (w.tasks i).ended = true
  serially : Serially serve w₀.tasks w.tasks w₀.state order w.state

/-- Each world the run passes through is linearized by a prefix of one order, so a task
that ended before another began comes before it. -/
def Linearizable (serve : (r : Req) → σ → Resp r → σ → Prop) (w₀ : World Req Resp ε α ι σ)
    (h : List (Event Req Resp ι σ)) (w : World Req Resp ε α ι σ) : Prop :=
  ∃ order, ∀ v, Passes serve w₀ h w v → ∃ before, before <+: order ∧ Linearized serve w₀ v before

theorem Run.unique (hr : Run serve w₀ h w) (hr' : Run serve w₀ h w') : w = w' := by
  have htasks : w.tasks = w'.tasks := funext fun i => (hr.project i).unique (hr'.project i)
  have hstate : w.state = w'.state := by
    rcases List.eq_nil_or_concat h with rfl | ⟨h', e, rfl⟩
    · have hstart : ∀ u, Run serve w₀ [] u → u.state = w₀.state := by
        intro u hu
        generalize hh : ([] : List (Event Req Resp ι σ)) = k at hu
        cases hu with
        | refl => rfl
        | step => simp at hh
      rw [hstart w hr, hstart w' hr']
    · rw [List.concat_eq_append] at hr hr'
      have hlast : ∀ u, Run serve w₀ (h' ++ [e]) u → u.state = e.after := by
        intro u hu
        generalize hh : h' ++ [e] = k at hu
        cases hu with
        | refl => simp at hh
        | step _ hs =>
          obtain ⟨-, he⟩ := List.append_inj' hh rfl
          obtain rfl := List.singleton_inj.mp he
          exact hs.served.2.2.symm
      rw [hlast w hr, hlast w' hr']
  cases w
  cases w'
  exact congrArg₂ World.mk hstate htasks

theorem Run.passes_concat (hr : Run serve w₀ h w) (hs : Step serve w e w')
    (hv : Passes serve w₀ (h ++ [e]) w' v) : v = w' ∨ Passes serve w₀ h w v := by
  obtain ⟨h₁, h₂, hsplit, hr₁, hr₂⟩ := hv
  rcases List.eq_nil_or_concat h₂ with rfl | ⟨h₂', e', rfl⟩
  · rw [List.append_nil] at hsplit
    exact .inl ((hsplit ▸ hr₁).unique (hr.step hs))
  · rw [List.concat_eq_append, ← List.append_assoc] at hsplit
    obtain ⟨rfl, he⟩ := List.append_inj' hsplit rfl
    rw [List.concat_eq_append] at hr₂
    obtain ⟨u, hu, -⟩ := hr₂.split
    refine .inr ⟨h₁, h₂', rfl, hr₁, ?_⟩
    rw [hr.unique (hr₁.append hu)]
    exact hu

/-- A run whose steps leave the state alone until a task ends, and whose ending steps have
the effect of the whole task at once, is linearizable. -/
theorem Run.linearizable (hr : Run serve w₀ h w) (hstart : ∀ i, (w₀.tasks i).ended = false)
    (hquiet : ∀ {h₁ v e v'}, Run serve w₀ h₁ v → Step serve v e v' → h₁ ++ [e] <+: h →
      (v'.tasks e.task).ended = false → v'.state = v.state)
    (hcommit : ∀ {h₁ v e v'}, Run serve w₀ h₁ v → Step serve v e v' → h₁ ++ [e] <+: h →
      (v'.tasks e.task).ended = true →
      Atomically serve (w₀.tasks e.task) v.state (v'.tasks e.task) v'.state) :
    Linearizable serve w₀ h w := by
  have hwhole : ∃ order, Linearized serve w₀ w order ∧ ∀ v, Passes serve w₀ h w v →
      ∃ before, before <+: order ∧ Linearized serve w₀ v before := by
    induction hr with
    | refl =>
      have hempty : Linearized serve w₀ w₀ [] :=
        ⟨List.nodup_nil, fun i => by simp [hstart i], .nil⟩
      refine ⟨[], hempty, ?_⟩
      rintro v ⟨h₁, h₂, hsplit, hr₁, -⟩
      obtain ⟨rfl, rfl⟩ := List.append_eq_nil_iff.mp hsplit.symm
      rw [hr₁.unique .refl]
      exact ⟨[], List.prefix_rfl, hempty⟩
    | @step h w w' e hr hs ih =>
      have hshorter : ∀ {k : List (Event Req Resp ι σ)}, k <+: h → k <+: h ++ [e] :=
        fun hk => hk.trans (List.prefix_append h [e])
      obtain ⟨order, hlin, hpassed⟩ := ih
        (fun hr₁ hs₁ hk => hquiet hr₁ hs₁ (hshorter hk))
        (fun hr₁ hs₁ hk => hcommit hr₁ hs₁ (hshorter hk))
      obtain ⟨next, htask, htasks⟩ := hs.task_eq
      have hother : ∀ i, i ≠ e.task → w'.tasks i = w.tasks i := fun i hi => by
        rw [htasks, Function.update_of_ne hi]
      have hpending : e.task ∉ order := by
        rw [hlin.mem_iff, htask]
        exact Bool.false_ne_true
      have hkept : ∀ i ∈ order, w'.tasks i = w.tasks i :=
        fun i hi => hother i fun heq => hpending (heq ▸ hi)
      have hserial := hlin.serially.congr hkept
      by_cases hended : (w'.tasks e.task).ended = true
      · -- the task ends here, and takes the last place in the order
        have hlin' : Linearized serve w₀ w' (order ++ [e.task]) := by
          refine ⟨?_, fun i => ?_, hserial.snoc (hcommit hr hs List.prefix_rfl hended)⟩
          · exact List.nodup_append.mpr ⟨hlin.nodup, List.nodup_singleton _, by
              rintro a ha b hb rfl
              exact hpending (List.mem_singleton.mp hb ▸ ha)⟩
          · rw [List.mem_append, List.mem_singleton]
            by_cases hi : i = e.task
            · subst hi
              simp [hended]
            · rw [hlin.mem_iff, hother i hi, or_iff_left hi]
        refine ⟨order ++ [e.task], hlin', fun v hv => ?_⟩
        rcases hr.passes_concat hs hv with rfl | hv
        · exact ⟨_, List.prefix_rfl, hlin'⟩
        · obtain ⟨before, hearlier, hbefore⟩ := hpassed v hv
          exact ⟨before, hearlier.trans (List.prefix_append _ _), hbefore⟩
      · rw [Bool.not_eq_true] at hended
        have hsame := hquiet hr hs List.prefix_rfl hended
        have hlin' : Linearized serve w₀ w' order := by
          refine ⟨hlin.nodup, fun i => ?_, hsame ▸ hserial⟩
          by_cases hi : i = e.task
          · subst hi
            simp [hended, hpending]
          · rw [hlin.mem_iff, hother i hi]
        refine ⟨order, hlin', fun v hv => ?_⟩
        rcases hr.passes_concat hs hv with rfl | hv
        · exact ⟨_, List.prefix_rfl, hlin'⟩
        · exact hpassed v hv
  obtain ⟨order, -, hpassed⟩ := hwhole
  exact ⟨order, hpassed⟩

/-- In a linearizable run, a step that ends a task has the effect of the whole task at
once, when the ends of the tasks tell what they did. -/
theorem Linearizable.atomically (hlin : Linearizable serve w₀ h w)
    (hunique : ∀ {i : ι} {q : Program Req Resp ε α} {mid s₁ s₂ : σ},
      Atomically serve (w₀.tasks i) mid q s₁ → Atomically serve (w₀.tasks i) mid q s₂ → s₁ = s₂)
    (hv : Passes serve w₀ h w v) (hw' : Passes serve w₀ h w w') (hs : Step serve v e w')
    (hended : (w'.tasks e.task).ended = true) :
    Atomically serve (w₀.tasks e.task) v.state (w'.tasks e.task) w'.state := by
  obtain ⟨order, hpassed⟩ := hlin
  obtain ⟨before, hbefore, hlinv⟩ := hpassed v hv
  obtain ⟨after, hafter, hlinw⟩ := hpassed w' hw'
  obtain ⟨next, htask, htasks⟩ := hs.task_eq
  have hother : ∀ i, i ≠ e.task → w'.tasks i = v.tasks i := fun i hi => by
    rw [htasks, Function.update_of_ne hi]
  have hpending : e.task ∉ before := by
    rw [hlinv.mem_iff, htask]
    exact Bool.false_ne_true
  have hlast : after = before ++ [e.task] := by
    refine prefix_concat hbefore hafter hlinw.nodup hpending fun j => ?_
    rw [hlinw.mem_iff, hlinv.mem_iff]
    by_cases hj : j = e.task
    · subst hj
      simp [hended]
    · rw [hother j hj, or_iff_right hj]
  obtain ⟨mid, hrest, hwhole⟩ := (hlast ▸ hlinw.serially).last
  have hsame := hrest.congr (fun j hj => (hother j fun heq => hpending (heq ▸ hj)).symm)
  rw [Serially.unique (fun h₁ h₂ => hunique h₁ h₂) hlinv.serially hsame]
  exact hwhole

end World

end StreamlineOperator.Foundation
