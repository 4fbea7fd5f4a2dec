/- source: src/src/controllers/operator_hub.rs
   digest: What the calls of the hub answer, whatever else is called at the same time. -/

import StreamlineOperator.Controllers.HubLinearizability

set_option autoImplicit false
set_option relaxedAutoImplicit false

namespace StreamlineOperator.Controllers.OperatorHub

open Foundation
open Foundation.Program (Runs runs_call runs_ok runs_err)
open Foundation.World (Step Run)

/-- The entry is what an install makes of the offer of its name. -/
def IsCurrent (hub : OperatorHub) (name : String) (operator : InstalledOperator) : Prop :=
  ∃ available, hub.operators[name]? = some available ∧ InstalledFrom name available operator

/-- The hub offers what `hub` offers, and has nothing else installed. -/
def AllCurrent (hub s : OperatorHub) : Prop :=
  SameOffer hub s ∧ ∀ name operator, s.installed[name]? = some operator → IsCurrent hub name operator

/-- What a call may return. Nothing is ever out of date, so nothing is ever upgraded. -/
def Expected (toLowercase : String → String) (hub : OperatorHub) : HubRequest → HubReply → Prop
  | .listAvailable, .available operators => operators.Perm (hub.operators.toList.map Prod.snd)
  | .search query, .available operators =>
    operators.Perm ((hub.operators.toList.map Prod.snd).filter fun op =>
      containsText (toLowercase op.name) (toLowercase query) ||
        containsText (toLowercase op.description) (toLowercase query))
  | .getOperatorInfo name, .info operator => operator = hub.operators[name]?
  | .install name, .installed operator => IsCurrent hub name operator
  | .uninstall _, .uninstalled => True
  | .getInstalled, .installedList operators =>
    ∀ operator ∈ operators, IsCurrent hub operator.name operator
  | .checkUpdates, .updates updates => updates = []
  | .stats, .stats stats =>
    stats.availableCount = hub.operators.size ∧ stats.updatesAvailable = 0
  | _, _ => False

variable {toLowercase : String → String} {hub s s' : OperatorHub}

/-! Hubs that have nothing out of date. -/

section AllCurrent

variable {inst : List (String × InstalledOperator)}

theorem isCurrent_of_mem (hs : AllCurrent hub s) (hinst : inst.Perm s.installed.toList)
    {entry : String × InstalledOperator} (he : entry ∈ inst) : IsCurrent hub entry.1 entry.2 := by
  have hmem : (entry.1, entry.2) ∈ s.installed.toList := hinst.mem_iff.mp he
  exact hs.2 entry.1 entry.2 (Std.ExtTreeMap.mem_toList_iff_getElem?_eq_some.mp hmem)

theorem updatesOf_eq_nil (hs : AllCurrent hub s) (hinst : inst.Perm s.installed.toList) :
    updatesOf s.operators inst = [] := by
  refine List.filterMap_eq_nil_iff.mpr fun entry he => ?_
  obtain ⟨available, hoffer, hfrom⟩ := isCurrent_of_mem hs hinst he
  rw [← hs.1.1] at hoffer
  simp only [hoffer, hfrom.version_eq, ne_eq, not_true_eq_false, if_false]

theorem upgradeInstalled_fails {name : String} {available : HubOperator}
    {x : Except String InstalledOperator} (hs : AllCurrent hub s)
    (hoffer : hub.operators[name]? = some available)
    (h : (HubAccess.scope (.upgradeInstalled name available.version)).serve s x s') :
    (∃ error, x = .error error) ∧ s' = s := by
  obtain ⟨now, hrun⟩ := h
  cases hfound : s.installed[name]? with
  | none =>
    simp only [HubScope.run, hfound] at hrun
    obtain ⟨rfl, rfl⟩ := Prod.mk.inj hrun
    exact ⟨⟨_, rfl⟩, rfl⟩
  | some operator =>
    obtain ⟨available', hoffer', hfrom⟩ := hs.2 name operator hfound
    obtain rfl := Option.some.inj (hoffer.symm.trans hoffer')
    simp only [HubScope.run, hfound, hfrom.version_eq, if_true] at hrun
    obtain ⟨rfl, rfl⟩ := Prod.mk.inj hrun
    exact ⟨⟨_, rfl⟩, rfl⟩

theorem allCurrent_serve {a : HubAccess} {x : a.Response} (hs : AllCurrent hub s)
    (h : a.serve s x s')
    (hinsert : ∀ name operator, a = .scope (.insertInstalled name operator) →
      IsCurrent hub name operator)
    (hupgrade : ∀ name latestVersion, a = .scope (.upgradeInstalled name latestVersion) →
      ∃ available, hub.operators[name]? = some available ∧ latestVersion = available.version) :
    AllCurrent hub s' := by
  obtain ⟨hoperators, hconfig⟩ := HubAccess.serve_operators h
  refine ⟨⟨hoperators.trans hs.1.1, hconfig.trans hs.1.2⟩, ?_⟩
  cases hread : a.readOnly with
  | true =>
    rw [HubAccess.serve_readOnly hread h]
    exact hs.2
  | false =>
    match a, hread with
    | .scope (.insertInstalled name operator), _ =>
      rw [HubAccess.serve_insertInstalled.mp h]
      intro n entry hentry
      rw [Std.ExtTreeMap.getElem?_insert] at hentry
      split at hentry
      · rename_i hname
        obtain rfl := Std.compare_eq_iff_eq.mp hname
        obtain rfl := Option.some.inj hentry
        exact hinsert _ _ rfl
      · exact hs.2 n entry hentry
    | .scope (.removeInstalled name), _ =>
      rw [(HubAccess.serve_removeInstalled.mp h).2]
      intro n entry hentry
      rw [Std.ExtTreeMap.getElem?_erase] at hentry
      split at hentry
      · cases hentry
      · exact hs.2 n entry hentry
    | .scope (.upgradeInstalled name latestVersion), _ =>
      obtain ⟨available, hoffer, rfl⟩ := hupgrade name latestVersion rfl
      rw [(upgradeInstalled_fails hs hoffer h).2]
      exact hs.2

end AllCurrent

/-! The answers. -/

/-- The answer comes from a hub with nothing out of date. -/
def FromCurrent (hub : OperatorHub) (e : Exchange HubAccess HubAccess.Response) : Prop :=
  ∃ s s', AllCurrent hub s ∧ e.request.serve s e.response s'

theorem FromCurrent.truthful {e : Exchange HubAccess HubAccess.Response}
    (h : FromCurrent hub e) : Truthful hub e := by
  obtain ⟨s, s', hs, hserve⟩ := h
  exact truthful_of_serve hs.1 hserve

theorem expected_single {a : HubAccess} {reply : a.Response → HubReply} {c : HubRequest}
    (h : ∀ {s x s'}, AllCurrent hub s → a.serve s x s' → Expected toLowercase hub c (reply x))
    {tr : List (Exchange HubAccess HubAccess.Response)} {r : HubReply}
    (hruns : Runs (Program.call a fun x => (.ok (reply x) : HubService HubReply)) tr (.ok r))
    (htr : ∀ e ∈ tr, FromCurrent hub e) : Expected toLowercase hub c r := by
  obtain ⟨x, tr', rfl, hrest⟩ := runs_call.mp hruns
  obtain ⟨rfl, hr⟩ := runs_ok.mp hrest
  obtain ⟨s, s', hs, hserve⟩ := htr _ (List.mem_singleton_self _)
  obtain rfl := Except.ok.inj hr
  exact h hs hserve

theorem expected_install {name : String} {r : HubReply}
    {tr : List (Exchange HubAccess HubAccess.Response)}
    (hruns : Runs ((HubRequest.install name).program toLowercase hub.config) tr (.ok r))
    (htr : ∀ e ∈ tr, FromCurrent hub e) : Expected toLowercase hub (.install name) r := by
  obtain ⟨op, tr₁, rfl, hread⟩ := runs_call.mp hruns
  have hop : op = hub.operators[name]? := (htr _ List.mem_cons_self).truthful
  cases op with
  | none => cases (runs_err.mp hread).2
  | some op =>
    simp only [Program.ok_bind, Program.bind_eq] at hread
    split at hread
    · cases (runs_err.mp hread).2
    obtain ⟨x, tr₂, rfl, hlook⟩ := runs_call.mp hread
    simp only [Program.ok_bind] at hlook
    split at hlook
    · cases (runs_err.mp hlook).2
    split at hlook
    · cases (runs_err.mp hlook).2
    obtain ⟨now, tr₃, rfl, hclock⟩ := runs_call.mp hlook
    obtain ⟨y, tr₄, rfl, hwrite⟩ := runs_call.mp hclock
    obtain ⟨-, hr⟩ := runs_ok.mp hwrite
    obtain rfl := Except.ok.inj hr
    exact ⟨op, hop.symm, ⟨rfl, rfl, rfl, rfl, rfl⟩⟩

theorem expected_upgrade {name : String} {r : HubReply}
    {tr : List (Exchange HubAccess HubAccess.Response)}
    (hruns : Runs ((HubRequest.upgrade name).program toLowercase hub.config) tr (.ok r))
    (htr : ∀ e ∈ tr, FromCurrent hub e) : Expected toLowercase hub (.upgrade name) r := by
  obtain ⟨op, tr₁, rfl, hread⟩ := runs_call.mp hruns
  have hop : op = hub.operators[name]? := (htr _ List.mem_cons_self).truthful
  cases op with
  | none => cases (runs_err.mp hread).2
  | some op =>
    obtain ⟨x, tr₂, rfl, hwrite⟩ := runs_call.mp hread
    obtain ⟨s, s', hs, hserve⟩ := htr _ (List.mem_cons_of_mem _ List.mem_cons_self)
    obtain ⟨⟨error, rfl⟩, -⟩ := upgradeInstalled_fails hs hop.symm hserve
    cases (runs_err.mp hwrite).2

theorem expected_uninstall {config : HubConfig} {name : String} {r : HubReply}
    {tr : List (Exchange HubAccess HubAccess.Response)}
    (hruns : Runs ((HubRequest.uninstall name).program toLowercase config) tr (.ok r)) :
    Expected toLowercase hub (.uninstall name) r := by
  obtain ⟨x, tr₁, rfl, hremove⟩ := runs_call.mp hruns
  cases x with
  | none => cases (runs_err.mp hremove).2
  | some operator =>
    obtain ⟨-, hr⟩ := runs_ok.mp hremove
    obtain rfl := Except.ok.inj hr
    trivial

theorem expected_of_runs (c : HubRequest) {r : HubReply}
    {tr : List (Exchange HubAccess HubAccess.Response)}
    (hruns : Runs (c.program toLowercase hub.config) tr (.ok r))
    (htr : ∀ e ∈ tr, FromCurrent hub e) : Expected toLowercase hub c r := by
  cases c with
  | install name => exact expected_install hruns htr
  | upgrade name => exact expected_upgrade hruns htr
  | uninstall name => exact expected_uninstall hruns
  | listAvailable =>
    refine expected_single (fun {s x s'} hs h => ?_) hruns htr
    show List.Perm x _
    rw [← hs.1.1]
    exact h.1
  | search query =>
    refine expected_single (fun {s x s'} hs h => ?_) hruns htr
    show List.Perm (x.filter _) _
    rw [← hs.1.1]
    exact h.1.filter _
  | getOperatorInfo name =>
    refine expected_single (fun {s x s'} hs h => ?_) hruns htr
    obtain ⟨rfl, -⟩ := HubAccess.serve_readOperator.mp h
    exact congrArg (·[name]?) hs.1.1
  | getInstalled =>
    refine expected_single (fun {s x s'} hs h => ?_) hruns htr
    intro operator hoperator
    obtain ⟨entry, hentry, rfl⟩ := List.mem_map.mp (h.1.mem_iff.mp hoperator)
    have hcurrent := isCurrent_of_mem hs (.refl _) hentry
    obtain ⟨available, hoffer, hfrom⟩ := id hcurrent
    rw [hfrom.name_eq]
    exact hcurrent
  | checkUpdates =>
    refine expected_single (fun {s x s'} hs h => ?_) hruns htr
    obtain ⟨hops, hinst, -⟩ := h
    show updatesOf x.1 x.2 = []
    rw [hops]
    exact updatesOf_eq_nil hs hinst
  | stats =>
    refine expected_single (fun {s x s'} hs h => ?_) hruns htr
    obtain ⟨hops, hinst, -⟩ := h
    refine ⟨congrArg Std.ExtTreeMap.size (hops.trans hs.1.1), ?_⟩
    refine List.countP_eq_zero.mpr fun entry hentry => ?_
    obtain ⟨available, hoffer, hfrom⟩ := isCurrent_of_mem hs hinst hentry
    rw [← hs.1.1, ← hops] at hoffer
    simp [hoffer, hfrom.version_eq]

/-! All calls at once. -/

section Runs

variable {ι : Type} [DecidableEq ι] {calls : ι → HubRequest}
variable {h : List (ServiceEvent ι)} {w : ServiceWorld ι}

/-- Nothing is ever installed but what an install makes of the offer of that name. -/
theorem run_allCurrent (hempty : hub.installed = ∅)
    (hr : Run HubAccess.serve (serving toLowercase hub calls) h w) :
    AllCurrent hub w.state ∧ ∀ e ∈ h, FromCurrent hub e.exchange := by
  refine hr.invariant
    (I := fun h w => AllCurrent hub w.state ∧ ∀ e ∈ h, FromCurrent hub e.exchange) ⟨⟨⟨rfl, rfl⟩,
      fun name operator hfound => ?_⟩, fun e he => absurd he List.not_mem_nil⟩ ?_
  · simp [serving, hempty] at hfound
  · intro h v e v' hr₁ hv hs
    obtain ⟨hcurrent, hanswers⟩ := hv
    obtain ⟨hserve, hbefore, hafter⟩ := hs.served
    rw [hbefore, hafter] at hserve
    have htrue : ∀ x ∈ World.exchangesOf h e.task, Truthful hub x := fun x hx => by
      obtain ⟨e', he', -, rfl⟩ := World.mem_of_mem_exchangesOf hx
      exact (hanswers e' he').truthful
    obtain ⟨next, ⟨hinsert, hupgrade⟩, -⟩ :=
      hr₁.everywhere_step hs (program_writesLast hub.config (calls e.task))
    refine ⟨allCurrent_serve hcurrent hserve (fun name operator heq => ?_)
      (fun name latestVersion heq => ?_), fun e' he' => ?_⟩
    · obtain ⟨-, -, available, hread, hfrom⟩ := hinsert name operator heq
      exact ⟨available, (Truthful.readOperator htrue hread).symm, hfrom⟩
    · obtain ⟨available, hread, rfl⟩ := hupgrade name latestVersion heq
      exact ⟨available, (Truthful.readOperator htrue hread).symm, rfl⟩
    · rcases List.mem_append.mp he' with he' | he'
      · exact hanswers e' he'
      · obtain rfl := List.mem_singleton.mp he'
        exact ⟨v.state, v'.state, hcurrent, hserve⟩

/-- Whatever else is called at the same time, a call of a hub that began with nothing
installed returns what is expected of it: an installed operator has the version on offer,
no update is ever found, and no upgrade ever returns. -/
theorem answers_expected (toLowercase : String → String) (hub : OperatorHub)
    (calls : ι → HubRequest) (hempty : hub.installed = ∅) {h : List (ServiceEvent ι)}
    {w : ServiceWorld ι} (hr : Run HubAccess.serve (serving toLowercase hub calls) h w) :
    AllCurrent hub w.state ∧
      ∀ i reply, w.tasks i = .ok reply → Expected toLowercase hub (calls i) reply := by
  obtain ⟨hcurrent, hanswers⟩ := run_allCurrent hempty hr
  refine ⟨hcurrent, fun i reply hreply => ?_⟩
  have hruns : Runs ((calls i).program toLowercase hub.config) (World.exchangesOf h i)
      (.ok reply) := by
    have hsteps := hr.project i
    rw [hreply] at hsteps
    exact hsteps
  refine expected_of_runs (calls i) hruns fun x hx => ?_
  obtain ⟨e, he, -, rfl⟩ := World.mem_of_mem_exchangesOf hx
  exact hanswers e he

/-- A hub of the bundled operators, called as above. -/
theorem answers_expected_someCalls :
    let run := World.execute (answerInOrder epoch) [0, 1, 0, 2, 0, 0]
      (serving id (new {}) someCalls)
    AllCurrent (new {}) run.2.state ∧
      ∀ i reply, run.2.tasks i = .ok reply → Expected id (new {}) (someCalls i) reply :=
  answers_expected id (new {}) someCalls rfl
    (World.run_execute (serve_answerInOrder epoch) [0, 1, 0, 2, 0, 0] _)

end Runs

end StreamlineOperator.Controllers.OperatorHub
