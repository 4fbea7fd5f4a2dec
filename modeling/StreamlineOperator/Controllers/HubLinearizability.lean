/- source: src/src/controllers/operator_hub.rs
   digest: Concurrent calls of the hub come to some order of calls as long as installs have room. -/

import StreamlineOperator.Controllers.HubService
import StreamlineOperator.Controllers.OperatorHubRuns
import StreamlineOperator.Foundation.Linearization

set_option autoImplicit false
set_option relaxedAutoImplicit false

namespace StreamlineOperator.Controllers

open Foundation
open Foundation.Program (Atomically atomically_ok atomically_err atomically_call atomically_ended)
open Foundation.World (Step Run Linearizable Passes)

/-! What one scope answers and leaves. -/

namespace HubAccess

variable {s s' : OperatorHub} {name : String}

@[simp] theorem serve_readOperator {x : Option HubOperator} :
    (scope (.readOperator name)).serve s x s' ↔ x = s.operators[name]? ∧ s' = s := by
  simp only [serve, HubScope.serve, HubScope.run, Prod.mk.injEq, exists_const]
  exact and_congr eq_comm eq_comm

@[simp] theorem serve_readInstalled {x : Nat × Bool} :
    (scope (.readInstalled name)).serve s x s' ↔
      x = (s.installed.size, s.installed.contains name) ∧ s' = s := by
  simp only [serve, HubScope.serve, HubScope.run, Prod.mk.injEq, exists_const]
  constructor
  · rintro ⟨⟨rfl, rfl⟩, rfl⟩
    exact ⟨rfl, rfl⟩
  · rintro ⟨rfl, rfl⟩
    exact ⟨rfl, rfl⟩

@[simp] theorem serve_clock {x : String} : (scope .clock).serve s x s' ↔ s' = s := by
  simp only [serve, HubScope.serve, HubScope.run, Prod.mk.injEq]
  constructor
  · rintro ⟨now, -, rfl⟩
    rfl
  · rintro rfl
    exact ⟨x, rfl, rfl⟩

@[simp] theorem serve_insertInstalled {operator : InstalledOperator} {x : Unit} :
    (scope (.insertInstalled name operator)).serve s x s' ↔
      s' = { s with installed := s.installed.insert name operator } := by
  simp only [serve, HubScope.serve, HubScope.run, Prod.mk.injEq, exists_const, true_and]
  exact eq_comm

@[simp] theorem serve_removeInstalled {x : Option InstalledOperator} :
    (scope (.removeInstalled name)).serve s x s' ↔
      x = s.installed[name]? ∧ s' = { s with installed := s.installed.erase name } := by
  simp only [serve, HubScope.serve, HubScope.run, Prod.mk.injEq, exists_const]
  exact and_congr eq_comm eq_comm

theorem serve_upgradeInstalled {latestVersion : String} {x : Except String InstalledOperator}
    (h : (scope (.upgradeInstalled name latestVersion)).serve s x s') :
    (∃ operator, x = .ok operator ∧
      s' = { s with installed := s.installed.insert name operator }) ∨
    ∃ error, x = .error error ∧ s' = s := by
  obtain ⟨now, hrun⟩ := h
  cases hfound : s.installed[name]? with
  | none =>
    simp only [HubScope.run, hfound] at hrun
    obtain ⟨rfl, rfl⟩ := Prod.mk.inj hrun
    exact .inr ⟨_, rfl, rfl⟩
  | some operator =>
    simp only [HubScope.run, hfound] at hrun
    split at hrun
    · obtain ⟨rfl, rfl⟩ := Prod.mk.inj hrun
      exact .inr ⟨_, rfl, rfl⟩
    · obtain ⟨rfl, rfl⟩ := Prod.mk.inj hrun
      exact .inl ⟨_, rfl, rfl⟩

/-- The scopes that only look. -/
def readOnly : HubAccess → Bool
  | scope (.insertInstalled ..) | scope (.removeInstalled _) | scope (.upgradeInstalled ..) => false
  | _ => true

theorem serve_readOnly {a : HubAccess} {x : a.Response} (ha : a.readOnly = true)
    (h : a.serve s x s') : s' = s := by
  match a, ha with
  | scope (.readOperator _), _ => exact (serve_readOperator.mp h).2
  | scope (.readInstalled _), _ => exact (serve_readInstalled.mp h).2
  | scope .clock, _ => exact serve_clock.mp h
  | listOperators, _ => exact h.2
  | listInstalled, _ => exact h.2
  | listBoth, _ => exact h.2.2

theorem serve_operators {a : HubAccess} {x : a.Response} (h : a.serve s x s') :
    s'.operators = s.operators ∧ s'.config = s.config := by
  cases hread : a.readOnly with
  | true =>
    rw [serve_readOnly hread h]
    exact ⟨rfl, rfl⟩
  | false =>
    match a, hread with
    | scope (.insertInstalled ..), _ =>
      rw [serve_insertInstalled.mp h]
      exact ⟨rfl, rfl⟩
    | scope (.removeInstalled _), _ =>
      rw [(serve_removeInstalled.mp h).2]
      exact ⟨rfl, rfl⟩
    | scope (.upgradeInstalled ..), _ =>
      rcases serve_upgradeInstalled h with ⟨_, -, rfl⟩ | ⟨_, -, rfl⟩ <;> exact ⟨rfl, rfl⟩

end HubAccess

namespace OperatorHub

/-- What one scope reads of the operators on offer is what `hub` offers. -/
def Truthful (hub : OperatorHub) : Exchange HubAccess HubAccess.Response → Prop
  | ⟨.scope (.readOperator name), x⟩ => x = hub.operators[name]?
  | _ => True

theorem Truthful.readOperator {hub : OperatorHub} {name : String} {x : Option HubOperator}
    {tr : List (Exchange HubAccess HubAccess.Response)} (h : ∀ e ∈ tr, Truthful hub e)
    (hmem : ⟨.scope (.readOperator name), x⟩ ∈ tr) : x = hub.operators[name]? :=
  h _ hmem

/-- The hub offers what `hub` offers, under the same configuration. -/
def SameOffer (hub s : OperatorHub) : Prop := s.operators = hub.operators ∧ s.config = hub.config

/-- If the scope is the write of an install, its name is new and the map is not full. -/
def RoomFor (a : HubAccess) (s : OperatorHub) : Prop :=
  ∀ name operator, a = .scope (.insertInstalled name operator) →
    name ∉ s.installed ∧ s.installed.size < s.config.maxInstalled

theorem truthful_of_serve {hub s s' : OperatorHub} {a : HubAccess} {x : a.Response}
    (hs : SameOffer hub s) (h : a.serve s x s') : Truthful hub ⟨a, x⟩ := by
  cases a with
  | scope sc =>
    cases sc with
    | readOperator name =>
      obtain ⟨rfl, -⟩ := HubAccess.serve_readOperator.mp h
      exact congrArg (·[name]?) hs.1
    | _ => trivial
  | _ => trivial

/-- From every hub with `C`, the call gets to `rest` without changing it. -/
def Reaches (C : OperatorHub → Prop) (p rest : HubService HubReply) : Prop :=
  ∀ s q s', C s → Atomically HubAccess.serve rest s q s' → Atomically HubAccess.serve p s q s'

section Reaches

variable {C D : OperatorHub → Prop} {p : HubService HubReply} {a : HubAccess}
variable {next : a.Response → HubService HubReply}

theorem Reaches.refl : Reaches C p p := fun _ _ _ _ h => h

theorem Reaches.step {rest : HubService HubReply} (h : Reaches C p (.call a next))
    (hx : ∀ s, D s → C s ∧ ∃ x, a.serve s x s ∧ next x = rest) : Reaches D p rest := by
  intro s q s' hs hrest
  obtain ⟨hc, x, hserve, rfl⟩ := hx s hs
  exact h s q s' hc (atomically_call.mpr ⟨x, s, hserve, hrest⟩)

end Reaches

/-- As long as the call has not ended its scopes only look, and the one that ends it
does what the whole call does at once. -/
def Anchored (hub : OperatorHub) (p : HubService HubReply)
    (tr : List (Exchange HubAccess HubAccess.Response)) (a : HubAccess)
    (next : a.Response → HubService HubReply) : Prop :=
  (∀ e ∈ tr, Truthful hub e) → ∀ s x s', SameOffer hub s → a.serve s x s' →
    ((next x).ended = false → s' = s) ∧
    ((next x).ended = true → RoomFor a s → Atomically HubAccess.serve p s (next x) s')

section Anchored

variable {hub : OperatorHub} {p : HubService HubReply} {a : HubAccess}
variable {next : a.Response → HubService HubReply}
variable {tr : List (Exchange HubAccess HubAccess.Response)}

theorem anchored_of_reaches
    (h : (∀ e ∈ tr, Truthful hub e) →
      Reaches (fun s => SameOffer hub s ∧ RoomFor a s) p (.call a next))
    (ha : a.readOnly = true ∨ ∀ x, (next x).ended = true) : Anchored hub p tr a next := by
  intro htrue s x s' hs hserve
  constructor
  · intro hpending
    rcases ha with hread | hlast
    · exact HubAccess.serve_readOnly hread hserve
    · rw [hlast x] at hpending
      cases hpending
  · intro hended hroom
    have hwhole := atomically_call.mpr ⟨x, s', hserve, atomically_ended hended⟩
    exact h htrue s _ s' ⟨hs, hroom⟩ hwhole

theorem anchored_of_pending (hread : a.readOnly = true) (h : ∀ x, (next x).ended = false) :
    Anchored hub p tr a next := by
  intro _ s x s' _ hserve
  refine ⟨fun _ => HubAccess.serve_readOnly hread hserve, fun hended => ?_⟩
  rw [h x] at hended
  cases hended

end Anchored

variable {hub : OperatorHub} {toLowercase : String → String}

theorem anchored_single {a : HubAccess} {next : a.Response → HubService HubReply}
    (h : ∀ x, (next x).ended = true) :
    (Program.call a next).Everywhere (Anchored hub (.call a next)) [] := by
  refine ⟨anchored_of_reaches (fun _ => .refl) (.inr h), fun x => ?_⟩
  cases hx : next x with
  | call r rest =>
    have hended := h x
    rw [hx] at hended
    cases hended
  | ok => trivial
  | err => trivial

theorem anchored_install {name : String} {p : HubService HubReply}
    (hwhole : Reaches (SameOffer hub) p
      ((HubRequest.install name).program toLowercase hub.config)) :
    ((HubRequest.install name).program toLowercase hub.config).Everywhere (Anchored hub p) [] := by
  refine ⟨anchored_of_reaches (fun _ s q s' hs => hwhole s q s' hs.1) (.inl rfl), fun op => ?_⟩
  cases op with
  | none => trivial
  | some op =>
    have hlooked : some op = hub.operators[name]? → Reaches (SameOffer hub) p _ := fun hop =>
      hwhole.step fun s hs => ⟨hs, some op, HubAccess.serve_readOperator.mpr
        ⟨hop.trans (congrArg (·[name]?) hs.1.symm), rfl⟩, rfl⟩
    simp only [Program.ok_bind, Program.bind_eq] at hlooked ⊢
    by_cases hverified : (hub.config.requireVerified && !op.verified) = true
    · rw [if_pos hverified]
      trivial
    rw [if_neg hverified] at hlooked ⊢
    refine ⟨anchored_of_reaches (fun htrue s q s' hs =>
      hlooked (Truthful.readOperator htrue (by simp)) s q s' hs.1) (.inl rfl), fun x => ?_⟩
    by_cases hfull : x.1 ≥ hub.config.maxInstalled
    · simp only [Program.ok_bind, if_pos hfull]
      trivial
    by_cases hthere : x.2 = true
    · simp only [Program.ok_bind, if_neg hfull, if_pos hthere]
      trivial
    simp only [Program.ok_bind, if_neg hfull, if_neg hthere]
    refine ⟨anchored_of_pending rfl (fun _ => rfl), fun now => ?_⟩
    refine ⟨anchored_of_reaches (fun htrue => ?_) (.inr fun _ => rfl), fun _ => trivial⟩
    -- with room for the write, the whole call looks again and finds it
    rintro s q s' ⟨hs, hroom⟩ hrest
    obtain ⟨hnew, hsize⟩ := hroom name _ rfl
    have hfree : ¬ s.installed.size ≥ hub.config.maxInstalled := by
      rw [← hs.2]
      omega
    have habsent : ¬ s.installed.contains name = true := fun hc =>
      hnew (Std.ExtTreeMap.contains_iff_mem.mp hc)
    refine hlooked (Truthful.readOperator htrue (by simp)) s q s' hs (atomically_call.mpr
      ⟨(s.installed.size, s.installed.contains name), s,
        HubAccess.serve_readInstalled.mpr ⟨rfl, rfl⟩, ?_⟩)
    simp only [Program.ok_bind, if_neg hfree, if_neg habsent]
    exact atomically_call.mpr ⟨now, s, HubAccess.serve_clock.mpr rfl, hrest⟩

theorem anchored_upgrade {name : String} {p : HubService HubReply}
    (hwhole : Reaches (SameOffer hub) p
      ((HubRequest.upgrade name).program toLowercase hub.config)) :
    ((HubRequest.upgrade name).program toLowercase hub.config).Everywhere (Anchored hub p) [] := by
  refine ⟨anchored_of_reaches (fun _ s q s' hs => hwhole s q s' hs.1) (.inl rfl), fun op => ?_⟩
  cases op with
  | none => trivial
  | some op =>
    refine ⟨anchored_of_reaches (fun htrue => ?_) (.inr fun x => by cases x <;> rfl), fun x => ?_⟩
    · refine hwhole.step fun s hs => ⟨hs.1, some op, HubAccess.serve_readOperator.mpr
        ⟨?_, rfl⟩, rfl⟩
      have hop := Truthful.readOperator htrue (List.mem_singleton_self _)
      rw [hop, hs.1.1]
    · cases x <;> trivial

/-- Every call is anchored from its first scope on. -/
theorem program_anchored (c : HubRequest) :
    (c.program toLowercase hub.config).Everywhere
      (Anchored hub (c.program toLowercase hub.config)) [] := by
  cases c with
  | install name => exact anchored_install .refl
  | upgrade name => exact anchored_upgrade .refl
  | uninstall name => exact anchored_single fun x => by cases x <;> rfl
  | _ => exact anchored_single fun _ => rfl

/-- What an install makes of an operator on offer. -/
structure InstalledFrom (name : String) (available : HubOperator)
    (operator : InstalledOperator) : Prop where
  name_eq : operator.name = name
  version_eq : operator.version = available.version
  namespace_eq : operator.namespaceName = "streamline-system"
  status_eq : operator.status = .running
  lastReconcileAt_eq : operator.lastReconcileAt = none

/-- The write of an install is its last scope. It writes what it makes of the operator it
has read, and returns what it wrote. An upgrade is to the version it has read. -/
def WritesLast (c : HubRequest) (tr : List (Exchange HubAccess HubAccess.Response))
    (a : HubAccess) (next : a.Response → HubService HubReply) : Prop :=
  (∀ name operator, a = .scope (.insertInstalled name operator) →
    c = .install name ∧ (∀ x, next x = .ok (.installed operator)) ∧
      ∃ available, ⟨.scope (.readOperator name), some available⟩ ∈ tr ∧
        InstalledFrom name available operator) ∧
  ∀ name latestVersion, a = .scope (.upgradeInstalled name latestVersion) →
    ∃ available, ⟨.scope (.readOperator name), some available⟩ ∈ tr ∧
      latestVersion = available.version

theorem program_writesLast (config : HubConfig) (c : HubRequest) :
    (c.program toLowercase config).Everywhere (WritesLast c) [] := by
  cases c with
  | install name =>
    refine ⟨⟨nofun, nofun⟩, fun op => ?_⟩
    cases op with
    | none => trivial
    | some op =>
      simp only [Program.ok_bind, Program.bind_eq]
      by_cases hverified : (config.requireVerified && !op.verified) = true
      · rw [if_pos hverified]
        trivial
      rw [if_neg hverified]
      refine ⟨⟨nofun, nofun⟩, fun x => ?_⟩
      by_cases hfull : x.1 ≥ config.maxInstalled
      · simp only [Program.ok_bind, if_pos hfull]
        trivial
      by_cases hthere : x.2 = true
      · simp only [Program.ok_bind, if_neg hfull, if_pos hthere]
        trivial
      simp only [Program.ok_bind, if_neg hfull, if_neg hthere]
      refine ⟨⟨nofun, nofun⟩, fun now => ⟨⟨fun n operator heq => ?_, nofun⟩, fun _ => trivial⟩⟩
      obtain ⟨rfl, rfl⟩ := HubScope.insertInstalled.inj (HubAccess.scope.inj heq)
      exact ⟨rfl, fun _ => rfl, op, by simp, ⟨rfl, rfl, rfl, rfl, rfl⟩⟩
  | uninstall name => exact ⟨⟨nofun, nofun⟩, fun x => by cases x <;> trivial⟩
  | upgrade name =>
    refine ⟨⟨nofun, nofun⟩, fun op => ?_⟩
    cases op with
    | none => trivial
    | some op =>
      refine ⟨⟨nofun, fun n latestVersion heq => ?_⟩, fun x => by cases x <;> trivial⟩
      obtain ⟨rfl, rfl⟩ := HubScope.upgradeInstalled.inj (HubAccess.scope.inj heq)
      exact ⟨op, List.mem_singleton_self _, rfl⟩
  | _ => exact ⟨⟨nofun, nofun⟩, fun _ => trivial⟩

/-! What a call leaves when it runs alone. -/

theorem atomically_install {config : HubConfig} {name : String} {s s' : OperatorHub}
    {q : HubService HubReply}
    (h : Atomically HubAccess.serve ((HubRequest.install name).program toLowercase config) s q
      s') :
    (∃ operator, q = .ok (.installed operator) ∧ name ∉ s.installed ∧
      s.installed.size < config.maxInstalled ∧
      s' = { s with installed := s.installed.insert name operator }) ∨
    ∃ error, q = .err error ∧ s' = s := by
  obtain ⟨op, mid, hread, hread'⟩ := atomically_call.mp h
  obtain ⟨-, rfl⟩ := HubAccess.serve_readOperator.mp hread
  cases op with
  | none => exact .inr ⟨_, atomically_err.mp hread'⟩
  | some op =>
    simp only [Program.ok_bind, Program.bind_eq] at hread'
    by_cases hverified : (config.requireVerified && !op.verified) = true
    · rw [if_pos hverified] at hread'
      exact .inr ⟨_, atomically_err.mp hread'⟩
    rw [if_neg hverified] at hread'
    obtain ⟨x, mid, hlook, hlook'⟩ := atomically_call.mp hread'
    obtain ⟨rfl, rfl⟩ := HubAccess.serve_readInstalled.mp hlook
    by_cases hfull : mid.installed.size ≥ config.maxInstalled
    · simp only [Program.ok_bind, if_pos hfull] at hlook'
      exact .inr ⟨_, atomically_err.mp hlook'⟩
    by_cases hthere : mid.installed.contains name = true
    · simp only [Program.ok_bind, if_neg hfull, if_pos hthere] at hlook'
      exact .inr ⟨_, atomically_err.mp hlook'⟩
    simp only [Program.ok_bind, if_neg hfull, if_neg hthere] at hlook'
    obtain ⟨now, mid, hclock, hclock'⟩ := atomically_call.mp hlook'
    obtain rfl := HubAccess.serve_clock.mp hclock
    obtain ⟨x, mid', hwrite, hwrite'⟩ := atomically_call.mp hclock'
    obtain rfl := HubAccess.serve_insertInstalled.mp hwrite
    obtain ⟨rfl, rfl⟩ := atomically_ok.mp hwrite'
    refine .inl ⟨_, rfl, fun hmem => hthere (Std.ExtTreeMap.contains_iff_mem.mpr hmem), ?_, rfl⟩
    omega

theorem atomically_upgrade {config : HubConfig} {name : String} {s s' : OperatorHub}
    {q : HubService HubReply}
    (h : Atomically HubAccess.serve ((HubRequest.upgrade name).program toLowercase config) s q
      s') :
    (∃ operator, q = .ok (.upgraded operator) ∧
      s' = { s with installed := s.installed.insert name operator }) ∨
    ∃ error, q = .err error ∧ s' = s := by
  obtain ⟨op, mid, hread, hread'⟩ := atomically_call.mp h
  obtain ⟨-, rfl⟩ := HubAccess.serve_readOperator.mp hread
  cases op with
  | none => exact .inr ⟨_, atomically_err.mp hread'⟩
  | some op =>
    obtain ⟨x, mid', hwrite, hwrite'⟩ := atomically_call.mp hread'
    rcases HubAccess.serve_upgradeInstalled hwrite with ⟨operator, rfl, rfl⟩ | ⟨error, rfl, rfl⟩
    · obtain ⟨rfl, rfl⟩ := atomically_ok.mp hwrite'
      exact .inl ⟨operator, rfl, rfl⟩
    · obtain ⟨rfl, rfl⟩ := atomically_err.mp hwrite'
      exact .inr ⟨error, rfl, rfl⟩

theorem atomically_uninstall {config : HubConfig} {name : String} {s s' : OperatorHub}
    {q : HubService HubReply}
    (h : Atomically HubAccess.serve ((HubRequest.uninstall name).program toLowercase config) s q
      s') : s' = { s with installed := s.installed.erase name } := by
  obtain ⟨x, mid, hremove, hrest⟩ := atomically_call.mp h
  obtain ⟨-, rfl⟩ := HubAccess.serve_removeInstalled.mp hremove
  cases x with
  | none => exact (atomically_err.mp hrest).2
  | some operator => exact (atomically_ok.mp hrest).2

theorem atomically_readOnly {a : HubAccess} {next : a.Response → HubReply} {s s' : OperatorHub}
    {q : HubService HubReply} (ha : a.readOnly = true)
    (h : Atomically HubAccess.serve (.call a fun x => .ok (next x)) s q s') : s' = s := by
  obtain ⟨x, mid, hread, hrest⟩ := atomically_call.mp h
  obtain rfl := HubAccess.serve_readOnly ha hread
  exact (atomically_ok.mp hrest).2

theorem atomically_unique (c : HubRequest) {s s₁ s₂ : OperatorHub} {q : HubService HubReply}
    (h₁ : Atomically HubAccess.serve (c.program toLowercase hub.config) s q s₁)
    (h₂ : Atomically HubAccess.serve (c.program toLowercase hub.config) s q s₂) : s₁ = s₂ := by
  cases c with
  | install name =>
    rcases atomically_install h₁ with ⟨operator, rfl, -, -, rfl⟩ | ⟨error, rfl, rfl⟩
    · rcases atomically_install h₂ with ⟨operator', heq, -, -, rfl⟩ | ⟨error', heq, -⟩
      · obtain rfl := HubReply.installed.inj (Program.ok.inj heq)
        rfl
      · cases heq
    · rcases atomically_install h₂ with ⟨operator', heq, -⟩ | ⟨error', -, rfl⟩
      · cases heq
      · rfl
  | uninstall name => rw [atomically_uninstall h₁, atomically_uninstall h₂]
  | upgrade name =>
    rcases atomically_upgrade h₁ with ⟨operator, rfl, rfl⟩ | ⟨error, rfl, rfl⟩
    · rcases atomically_upgrade h₂ with ⟨operator', heq, rfl⟩ | ⟨error', heq, -⟩
      · obtain rfl := HubReply.upgraded.inj (Program.ok.inj heq)
        rfl
      · cases heq
    · rcases atomically_upgrade h₂ with ⟨operator', heq, -⟩ | ⟨error', -, rfl⟩
      · cases heq
      · rfl
  | _ => rw [atomically_readOnly rfl h₁, atomically_readOnly rfl h₂]

/-! All calls at once. -/

section Runs

variable {ι : Type} [DecidableEq ι]

abbrev ServiceWorld (ι : Type) := World HubAccess HubAccess.Response String HubReply ι OperatorHub

abbrev ServiceEvent (ι : Type) := Event HubAccess HubAccess.Response ι OperatorHub

/-- A hub with all its calls still to be made. -/
def serving (toLowercase : String → String) (hub : OperatorHub) (calls : ι → HubRequest) :
    ServiceWorld ι :=
  ⟨hub, fun i => (calls i).program toLowercase hub.config⟩

variable {calls : ι → HubRequest} {h : List (ServiceEvent ι)} {w : ServiceWorld ι}

/-- Nothing changes what is on offer, and every call reads just that. -/
theorem run_truthful (hr : Run HubAccess.serve (serving toLowercase hub calls) h w) :
    SameOffer hub w.state ∧ ∀ e ∈ h, Truthful hub e.exchange := by
  refine hr.invariant (I := fun h w => SameOffer hub w.state ∧ ∀ e ∈ h, Truthful hub e.exchange)
    ⟨⟨rfl, rfl⟩, fun e he => absurd he List.not_mem_nil⟩ ?_
  rintro h v ⟨i, a, x, s, s'⟩ v' - ⟨hoffer, htrue⟩ hs
  obtain ⟨hserve, rfl, rfl⟩ := hs.served
  obtain ⟨hoperators, hconfig⟩ := HubAccess.serve_operators hserve
  refine ⟨⟨hoperators.trans hoffer.1, hconfig.trans hoffer.2⟩, fun e he => ?_⟩
  rcases List.mem_append.mp he with he | he
  · exact htrue e he
  · obtain rfl := List.mem_singleton.mp he
    exact truthful_of_serve hoffer hserve

/-- A step changes nothing as long as its call has not ended. A step that ends its call
does what the whole call does at once, if it has room for what it writes. -/
theorem step_anchored {v v' : ServiceWorld ι} {e : ServiceEvent ι}
    (hr : Run HubAccess.serve (serving toLowercase hub calls) h v)
    (hs : Step HubAccess.serve v e v') :
    ((v'.tasks e.task).ended = false → v'.state = v.state) ∧
      ((v'.tasks e.task).ended = true → RoomFor e.request e.before →
        Atomically HubAccess.serve ((calls e.task).program toLowercase hub.config) v.state
          (v'.tasks e.task) v'.state) := by
  obtain ⟨hoffer, htrue⟩ := run_truthful hr
  obtain ⟨next, hanchored, htasks⟩ := hr.everywhere_step hs (program_anchored (calls e.task))
  obtain ⟨hserve, hbefore, hafter⟩ := hs.served
  rw [htasks, Function.update_self, hbefore, ← hafter]
  refine hanchored (fun x hx => ?_) v.state e.response e.after hoffer (hbefore ▸ hserve)
  obtain ⟨e', he', -, rfl⟩ := World.mem_of_mem_exchangesOf hx
  exact htrue e' he'

/-- Concurrent calls come to the same as some order of the calls, one at a time, that
agrees with real time, exactly when every install writes a new name into a map that is
not full. -/
theorem linearizable_iff (toLowercase : String → String) (hub : OperatorHub)
    (calls : ι → HubRequest) {h : List (ServiceEvent ι)} {w : ServiceWorld ι}
    (hr : Run HubAccess.serve (serving toLowercase hub calls) h w) :
    Linearizable HubAccess.serve (serving toLowercase hub calls) h w ↔
      ∀ e ∈ h, RoomFor e.request e.before := by
  constructor
  · intro hlin e he name operator hrequest
    obtain ⟨h₁, v, v', hr₁, hs, hv, hv'⟩ := hr.passes_of_mem he
    obtain ⟨next, hlast, htasks⟩ :=
      hr₁.everywhere_step hs (program_writesLast hub.config (calls e.task))
    obtain ⟨hcall, hreturns, -⟩ := hlast.1 name operator hrequest
    have hended : v'.tasks e.task = .ok (.installed operator) := by
      rw [htasks, Function.update_self, hreturns]
    have hwhole := hlin.atomically (fun h₁ h₂ => atomically_unique (calls _) h₁ h₂) hv hv' hs
      (by rw [hended]; rfl)
    rw [hended] at hwhole
    simp only [serving, hcall] at hwhole
    rw [hs.served.2.1, (run_truthful hr₁).1.2]
    rcases atomically_install hwhole with ⟨operator', -, hnew, hsize, -⟩ | ⟨error, heq, -⟩
    · exact ⟨hnew, hsize⟩
    · cases heq
  · intro hroom
    refine hr.linearizable (fun i => ?_) ?_ ?_
    · show ((calls i).program toLowercase hub.config).ended = false
      cases calls i <;> rfl
    · intro h₁ v e v' hr₁ hs _ hpending
      exact (step_anchored hr₁ hs).1 hpending
    · intro h₁ v e v' hr₁ hs hearlier hended
      exact (step_anchored hr₁ hs).2 hended (hroom e (hearlier.subset (by simp)))

/-! A run at fixed inputs. -/

/-- What a scope answers when the maps list their entries by name. -/
def answerInOrder (now : String) : (a : HubAccess) → OperatorHub → a.Response × OperatorHub
  | .scope s, hub => s.run now hub
  | .listOperators, hub => (hub.operators.toList.map Prod.snd, hub)
  | .listInstalled, hub => (hub.installed.toList.map Prod.snd, hub)
  | .listBoth, hub => ((hub.operators, hub.installed.toList), hub)

theorem serve_answerInOrder (now : String) (a : HubAccess) (hub : OperatorHub) :
    a.serve hub (answerInOrder now a hub).1 (answerInOrder now a hub).2 := by
  cases a with
  | scope s => exact ⟨now, rfl⟩
  | listOperators => exact ⟨.refl _, rfl⟩
  | listInstalled => exact ⟨.refl _, rfl⟩
  | listBoth => exact ⟨rfl, .refl _, rfl⟩

/-- An install among an uninstall of the same operator and a count. -/
def someCalls (i : Fin 3) : HubRequest :=
  if i = 0 then .install "redis" else if i = 1 then .uninstall "redis" else .stats

theorem linearizable_iff_someCalls :
    let w₀ := serving id (new {}) someCalls
    let run := World.execute (answerInOrder epoch) [0, 1, 0, 2, 0, 0] w₀
    Linearizable HubAccess.serve w₀ run.1 run.2 ↔ ∀ e ∈ run.1, RoomFor e.request e.before :=
  linearizable_iff id (new {}) someCalls
    (World.run_execute (serve_answerInOrder epoch) [0, 1, 0, 2, 0, 0] _)

end Runs

end OperatorHub

end StreamlineOperator.Controllers
