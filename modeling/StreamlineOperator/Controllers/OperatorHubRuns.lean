/- source: src/src/controllers/operator_hub.rs (install, uninstall, upgrade)
   digest: Interleaved calls keep the installed map right as long as installs write into room. -/

import StreamlineOperator.Controllers.OperatorHub

set_option autoImplicit false
set_option relaxedAutoImplicit false

namespace StreamlineOperator.Controllers

open Foundation
open Foundation.World (Step Run returned)

namespace OperatorHub

variable {ι : Type} [DecidableEq ι]

abbrev HubWorld (ι : Type) := World HubScope HubScope.Response String Unit ι OperatorHub

abbrev HubEvent (ι : Type) := Event HubScope HubScope.Response ι OperatorHub

/-- A hub with all its calls still to be made. -/
def start (hub : OperatorHub) (calls : ι → HubCall) : HubWorld ι :=
  ⟨hub, fun i => (calls i).program hub.config⟩

/-- Where the scopes of a call stand: an insert is an install's last, a remove
is all there is of an uninstall, and after any other scope neither has
returned. -/
def Placed (c : HubCall) (s : HubScope) (next : s.Response → HubProgram Unit) : Prop :=
  match s with
  | .insertInstalled name _ => c = .install name ∧ ∀ x, (next x).isOk = true
  | .removeInstalled name => c = .uninstall name ∧ ∀ x, (next x).isOk = x.isSome
  | _ => ∀ name, c = .install name ∨ c = .uninstall name → ∀ x, (next x).isOk = false

/-- The call has not returned, and its scopes are placed. -/
def Pending (c : HubCall) (p : HubProgram Unit) : Prop :=
  p.isOk = false ∧ ∀ tr, p.Everywhere (fun _ => Placed c) tr

theorem pending_err {c : HubCall} (e : String) : Pending c (.err e) := ⟨rfl, fun _ => trivial⟩

theorem pending_call {c : HubCall} {s : HubScope} {next : s.Response → HubProgram Unit}
    (hinsert : ∀ n operator, s ≠ .insertInstalled n operator)
    (hremove : ∀ n, s ≠ .removeInstalled n) (h : ∀ x, Pending c (next x)) :
    Pending c (.call s next) := by
  refine ⟨rfl, fun tr => ⟨?_, fun x => (h x).2 _⟩⟩
  cases s with
  | insertInstalled n operator => exact absurd rfl (hinsert n operator)
  | removeInstalled n => exact absurd rfl (hremove n)
  | _ =>
    intro name hc x
    exact (h x).1

theorem pending_insertInstalled (name : String) (operator : InstalledOperator) :
    Pending (.install name) (.call (.insertInstalled name operator) fun _ => .ok ()) := by
  refine ⟨rfl, fun tr => ⟨⟨rfl, ?_⟩, ?_⟩⟩
  · intro x
    rfl
  · intro x
    trivial

theorem pending_install (config : HubConfig) (name : String) :
    Pending (.install name) ((HubCall.install name).program config) := by
  refine pending_call nofun nofun (fun op => ?_)
  cases op with
  | none => exact pending_err _
  | some op =>
    simp only [Program.ok_bind, Program.bind_eq]
    by_cases hverified : (config.requireVerified && !op.verified) = true
    · rw [if_pos hverified]
      exact pending_err _
    rw [if_neg hverified]
    refine pending_call nofun nofun (fun x => ?_)
    simp only [Program.ok_bind]
    by_cases hfull : x.1 ≥ config.maxInstalled
    · rw [if_pos hfull]
      exact pending_err _
    by_cases hthere : x.2 = true
    · rw [if_neg hfull, if_pos hthere]
      exact pending_err _
    rw [if_neg hfull, if_neg hthere]
    refine pending_call nofun nofun (fun now => ?_)
    exact pending_insertInstalled name _

theorem program_placed (config : HubConfig) (c : HubCall) :
    (c.program config).Everywhere (fun _ => Placed c) [] := by
  cases c with
  | install name => exact (pending_install config name).2 []
  | uninstall name =>
    refine ⟨⟨rfl, fun x => ?_⟩, fun x => ?_⟩ <;> cases x <;> trivial
  | upgrade name =>
    refine ⟨fun n h => by simp at h, fun op => ?_⟩
    cases op with
    | none => trivial
    | some op =>
      refine ⟨fun n h => by simp at h, fun answer => ?_⟩
      cases answer <;> trivial

/-! What one step does to the map and to the counts. -/

variable [Fintype ι] {calls : ι → HubCall}

/-- The installs of a name that have returned, less its uninstalls that have. -/
def net (calls : ι → HubCall) (w : HubWorld ι) (name : String) : Int :=
  returned calls w (.install name) - returned calls w (.uninstall name)

/-- At most `maxInstalled` entries, and an entry for exactly the names with one
more install than uninstalls. -/
def Consistent (calls : ι → HubCall) (w : HubWorld ι) : Prop :=
  w.state.installed.size ≤ w.state.config.maxInstalled ∧
    ∀ name, net calls w name = if name ∈ w.state.installed then 1 else 0

/-- An install writes a new name into a map that is not full. -/
def WritesIntoRoom (e : HubEvent ι) : Prop :=
  ∀ name operator, e.request = .insertInstalled name operator →
    name ∉ e.before.installed ∧ e.before.installed.size < e.before.config.maxInstalled

/-! The names in the map. -/

section Names

variable {installed : InstalledMap} {name n : String} {operator : InstalledOperator}

theorem mem_insert_iff : n ∈ installed.insert name operator ↔ n = name ∨ n ∈ installed := by
  rw [Std.ExtTreeMap.mem_insert, Std.compare_eq_iff_eq, eq_comm]

theorem mem_erase_iff : n ∈ installed.erase name ↔ n ≠ name ∧ n ∈ installed := by
  rw [Std.ExtTreeMap.mem_erase, ne_eq, Std.compare_eq_iff_eq, ne_comm]

theorem size_insert_of_mem (h : name ∈ installed) :
    (installed.insert name operator).size = installed.size := by
  rw [Std.ExtTreeMap.size_insert, if_pos (Std.ExtTreeMap.contains_iff_mem.mpr h)]

theorem size_insert_of_not_mem (h : name ∉ installed) :
    (installed.insert name operator).size = installed.size + 1 := by
  rw [Std.ExtTreeMap.size_insert, if_neg (fun hc => h (Std.ExtTreeMap.contains_iff_mem.mp hc))]

theorem size_erase_of_not_mem (h : name ∉ installed) :
    (installed.erase name).size = installed.size := by
  rw [Std.ExtTreeMap.size_erase, if_neg (fun hc => h (Std.ExtTreeMap.contains_iff_mem.mp hc))]

end Names

theorem scope_keeps {s : HubScope} {now : String} {hub hub' : OperatorHub} {x : s.Response}
    (hrun : s.run now hub = (x, hub')) (hinsert : ∀ n operator, s ≠ .insertInstalled n operator)
    (hremove : ∀ n, s ≠ .removeInstalled n) :
    hub'.config = hub.config ∧ hub'.installed.size = hub.installed.size ∧
      ∀ n, n ∈ hub'.installed ↔ n ∈ hub.installed := by
  obtain rfl : (s.run now hub).2 = hub' := congrArg Prod.snd hrun
  cases s with
  | insertInstalled n operator => exact absurd rfl (hinsert n operator)
  | removeInstalled n => exact absurd rfl (hremove n)
  | upgradeInstalled name latestVersion =>
    cases hfound : hub.installed[name]? with
    | none => simp only [HubScope.run, hfound, true_and, implies_true]
    | some operator =>
      have hmem : name ∈ hub.installed := by
        rw [Std.ExtTreeMap.mem_iff_isSome_getElem?, hfound]
        rfl
      by_cases hlatest : operator.version = latestVersion
      · simp only [HubScope.run, hfound, if_pos hlatest, true_and, implies_true]
      · simp only [HubScope.run, hfound, if_neg hlatest, size_insert_of_mem hmem, mem_insert_iff,
          true_and]
        exact fun n => ⟨fun h => h.elim (fun h => h ▸ hmem) id, .inr⟩
  | _ => exact ⟨rfl, rfl, fun _ => Iff.rfl⟩

theorem placed_keeps {c : HubCall} {s : HubScope} {next : s.Response → HubProgram Unit}
    (hplaced : Placed c s next) (hinsert : ∀ n operator, s ≠ .insertInstalled n operator)
    (hremove : ∀ n, s ≠ .removeInstalled n) (name : String)
    (hc : c = .install name ∨ c = .uninstall name) (x : s.Response) : (next x).isOk = false := by
  cases s with
  | insertInstalled n operator => exact absurd rfl (hinsert n operator)
  | removeInstalled n => exact absurd rfl (hremove n)
  | _ => exact hplaced name hc x

/-! The counts. -/

section Counts

variable {w w' : HubWorld ι} {e : HubEvent ι} {name : String}

theorem net_of_install (hs : Step HubScope.serve w e w') (hcall : calls e.task = .install name)
    (hok : (w'.tasks e.task).isOk = true) (n : String) :
    net calls w' n = net calls w n + if n = name then 1 else 0 := by
  have hinstalls := hs.returned_eq calls (.install n)
  have huninstalls := hs.returned_eq calls (.uninstall n)
  simp only [hcall, hok, and_true, HubCall.install.injEq, reduceCtorEq, if_false,
    Nat.add_zero] at hinstalls huninstalls
  simp only [net, hinstalls, huninstalls, eq_comm (a := name)]
  split <;> omega

theorem net_of_uninstall (hs : Step HubScope.serve w e w')
    (hcall : calls e.task = .uninstall name) (hok : (w'.tasks e.task).isOk = true) (n : String) :
    net calls w' n = net calls w n - if n = name then 1 else 0 := by
  have hinstalls := hs.returned_eq calls (.install n)
  have huninstalls := hs.returned_eq calls (.uninstall n)
  simp only [hcall, hok, and_true, HubCall.uninstall.injEq, reduceCtorEq, if_false,
    Nat.add_zero] at hinstalls huninstalls
  simp only [net, hinstalls, huninstalls, eq_comm (a := name)]
  split <;> omega

theorem net_of_pending (hs : Step HubScope.serve w e w') {n : String}
    (hpending : calls e.task = .install n ∨ calls e.task = .uninstall n →
      (w'.tasks e.task).isOk = false) : net calls w' n = net calls w n := by
  have hinstall : ¬ (calls e.task = .install n ∧ (w'.tasks e.task).isOk = true) :=
    fun ⟨hc, hok⟩ => Bool.eq_false_iff.mp (hpending (.inl hc)) hok
  have huninstall : ¬ (calls e.task = .uninstall n ∧ (w'.tasks e.task).isOk = true) :=
    fun ⟨hc, hok⟩ => Bool.eq_false_iff.mp (hpending (.inr hc)) hok
  simp only [net, hs.returned_eq calls, if_neg hinstall, if_neg huninstall, Nat.add_zero]

end Counts

/-- What a step can do to the map and to the counts. -/
theorem step_cases {hub : OperatorHub} {h : List (HubEvent ι)} {w w' : HubWorld ι} {e : HubEvent ι}
    (hr : Run HubScope.serve (start hub calls) h w) (hs : Step HubScope.serve w e w') :
    (∃ name operator, e.request = .insertInstalled name operator ∧
      w'.state = { w.state with installed := w.state.installed.insert name operator } ∧
      ∀ n, net calls w' n = net calls w n + if n = name then 1 else 0) ∨
    (∃ name, (∀ n operator, e.request ≠ .insertInstalled n operator) ∧
      name ∈ w.state.installed ∧
      w'.state = { w.state with installed := w.state.installed.erase name } ∧
      ∀ n, net calls w' n = net calls w n - if n = name then 1 else 0) ∨
    ((∀ n operator, e.request ≠ .insertInstalled n operator) ∧
      w'.state.config = w.state.config ∧
      w'.state.installed.size = w.state.installed.size ∧
      (∀ n, n ∈ w'.state.installed ↔ n ∈ w.state.installed) ∧
      ∀ n, net calls w' n = net calls w n) := by
  have hstep := hs
  cases hs with
  | @mk i s next x hub' htask hserve =>
    have hplaced : Placed (calls i) s next := by
      have hall := hr.everywhere (program_placed hub.config (calls i))
      rw [htask] at hall
      exact hall.1
    have hanswered {b : Bool} (hok : (next x).isOk = b) :
        (Function.update w.tasks i (next x) i).isOk = b := by rwa [Function.update_self]
    obtain ⟨now, hrun⟩ := hserve
    cases s with
    | insertInstalled name operator =>
      obtain ⟨-, rfl⟩ := Prod.mk.inj hrun
      obtain ⟨hcall, hok⟩ := hplaced
      exact .inl ⟨name, operator, rfl, rfl, net_of_install hstep hcall (hanswered (hok x))⟩
    | removeInstalled name =>
      obtain ⟨rfl, rfl⟩ := Prod.mk.inj hrun
      obtain ⟨hcall, hok⟩ := hplaced
      by_cases hmem : name ∈ w.state.installed
      · have hsome := Std.ExtTreeMap.mem_iff_isSome_getElem?.mp hmem
        refine .inr (.inl ⟨name, nofun, hmem, rfl, ?_⟩)
        exact net_of_uninstall hstep hcall (hanswered ((hok _).trans hsome))
      · have hnone : w.state.installed[name]?.isSome = false := by
          rw [Std.ExtTreeMap.isSome_getElem?_eq_contains, Bool.eq_false_iff]
          exact fun hc => hmem (Std.ExtTreeMap.contains_iff_mem.mp hc)
        refine .inr (.inr ⟨nofun, rfl, ?_, fun n => ?_, fun n => ?_⟩)
        · exact size_erase_of_not_mem hmem
        · exact mem_erase_iff.trans
            (and_iff_right_of_imp (fun hn heq => hmem (heq ▸ hn)))
        · exact net_of_pending hstep fun _ => hanswered ((hok _).trans hnone)
    | _ =>
      obtain ⟨hconfig, hsize, hnames⟩ := scope_keeps hrun nofun nofun
      refine .inr (.inr ⟨nofun, hconfig, hsize, hnames, fun n => ?_⟩)
      exact net_of_pending hstep fun hc => hanswered (placed_keeps hplaced nofun nofun n hc x)

/-- From a consistent state, a step leads to a consistent state exactly when it
is not an install that writes where there is no room. -/
theorem consistent_step {hub : OperatorHub} {h : List (HubEvent ι)} {w w' : HubWorld ι}
    {e : HubEvent ι} (hr : Run HubScope.serve (start hub calls) h w)
    (hs : Step HubScope.serve w e w') (hc : Consistent calls w) :
    Consistent calls w' ↔ WritesIntoRoom e := by
  obtain ⟨hsize, hnet⟩ := hc
  have hbefore : e.before = w.state := hs.served.2.1
  rcases step_cases hr hs with ⟨name, operator, hrequest, hstate, hstep⟩ |
    ⟨name, hinsert, hmem, hstate, hstep⟩ | ⟨hinsert, hconfig, hsame, hnames, hstep⟩
  · have hroom : WritesIntoRoom e ↔
        name ∉ w.state.installed ∧ w.state.installed.size < w.state.config.maxInstalled := by
      simp only [WritesIntoRoom, hrequest, hbefore, HubScope.insertInstalled.injEq]
      exact ⟨fun h => h name operator ⟨rfl, rfl⟩, fun h n op hn => hn.1 ▸ h⟩
    rw [hroom]
    unfold Consistent
    simp only [hstate, mem_insert_iff, hstep, hnet]
    constructor
    · rintro ⟨hsize', hnet'⟩
      have hnew : name ∉ w.state.installed := by
        intro hmem
        simpa [hmem] using hnet' name
      rw [size_insert_of_not_mem hnew] at hsize'
      exact ⟨hnew, hsize'⟩
    · rintro ⟨hnew, hroom⟩
      refine ⟨by rw [size_insert_of_not_mem hnew]; exact hroom, fun n => ?_⟩
      by_cases hn : n = name
      · simp [hn, hnew]
      · simp [hn]
  · have hroom : WritesIntoRoom e := fun n operator h => absurd h (hinsert n operator)
    refine iff_of_true ⟨?_, fun n => ?_⟩ hroom
    · rw [hstate]
      exact Std.ExtTreeMap.size_erase_le.trans hsize
    · simp only [hstate, mem_erase_iff, hstep, hnet]
      by_cases hn : n = name
      · simp [hn, hmem]
      · simp [hn]
  · have hroom : WritesIntoRoom e := fun n operator h => absurd h (hinsert n operator)
    refine iff_of_true ⟨?_, fun n => ?_⟩ hroom
    · rw [hsame, hconfig]
      exact hsize
    · simp only [hstep, hnet, hnames]

omit [DecidableEq ι] in
theorem consistent_start {hub : OperatorHub} (hempty : hub.installed = ∅) :
    Consistent calls (start hub calls) := by
  have hpending : ∀ i, ((calls i).program hub.config).isOk = false := by
    intro i
    cases calls i <;> rfl
  refine ⟨?_, fun name => ?_⟩
  · simp [start, hempty]
  · simp [net, returned, hpending, start, hempty]

/-- A run stays consistent exactly as long as its installs write into room. -/
theorem consistent_iff (hub : OperatorHub) (calls : ι → HubCall) (hempty : hub.installed = ∅)
    {h : List (HubEvent ι)} {w : HubWorld ι} (hr : Run HubScope.serve (start hub calls) h w) :
    (∀ v, World.Passes HubScope.serve (start hub calls) h w v → Consistent calls v) ↔
      ∀ e ∈ h, WritesIntoRoom e := by
  constructor
  · intro hall e he
    obtain ⟨h₁, v, v', hr₁, hs, hv, hv'⟩ := hr.passes_of_mem he
    exact (consistent_step hr₁ hs (hall v hv)).mp (hall v' hv')
  · rintro hroom v ⟨h₁, h₂, rfl, hr₁, -⟩
    have hroom₁ : ∀ e ∈ h₁, WritesIntoRoom e :=
      fun e he => hroom e (List.mem_append_left _ he)
    refine hr₁.invariant (I := fun h v => (∀ e ∈ h, WritesIntoRoom e) → Consistent calls v)
      (fun _ => consistent_start hempty) (fun hr ih hs hwrites => ?_) hroom₁
    have hpast := ih (fun e he => hwrites e (List.mem_append_left _ he))
    exact (consistent_step hr hs hpast).mpr (hwrites _ (by simp))

/-! Runs at fixed inputs. -/

def epoch : String := "1970-01-01T00:00:00+00:00"

/-- Let the calls take their scopes in the order of the schedule. -/
def runSchedule (hub : OperatorHub) (calls : ι → HubCall) (schedule : List ι) :
    List (HubEvent ι) × HubWorld ι :=
  World.execute (fun s hub => s.run epoch hub) schedule (start hub calls)

omit [Fintype ι] in
theorem run_runSchedule (hub : OperatorHub) (calls : ι → HubCall) (schedule : List ι) :
    Run HubScope.serve (start hub calls) (runSchedule hub calls schedule).1
      (runSchedule hub calls schedule).2 :=
  World.run_execute (fun _ _ => ⟨epoch, rfl⟩) schedule (start hub calls)

/-- Two calls at once. -/
def both (first second : HubCall) (i : Bool) : HubCall := if i then second else first

/-- An install and an uninstall of one operator, one after the other. -/
theorem consistent_iff_redis :
    let calls := both (.install "redis") (.uninstall "redis")
    let run := runSchedule (new {}) calls [false, false, false, false, true]
    (∀ v, World.Passes HubScope.serve (start (new {}) calls) run.1 run.2 v → Consistent calls v) ↔
      ∀ e ∈ run.1, WritesIntoRoom e :=
  consistent_iff (new {}) (both (.install "redis") (.uninstall "redis")) rfl
    (run_runSchedule (new {}) _ [false, false, false, false, true])

/-- Two installs that both look before either writes overfill a hub of one. -/
theorem installs_overfill :
    ¬ ∀ (hub : OperatorHub) (calls : Bool → HubCall), hub.installed = ∅ →
      ∀ h w, Run HubScope.serve (start hub calls) h w → Consistent calls w := by
  intro hall
  have hfinal := hall (new { maxInstalled := 1 }) (both (.install "redis") (.install "minio")) rfl
    _ _ (run_runSchedule _ _ [false, true, false, true, false, true, false, true])
  exact absurd hfinal.1 (by decide)

end OperatorHub

end StreamlineOperator.Controllers
