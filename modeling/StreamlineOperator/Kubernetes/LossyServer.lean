/- source: the get, create and apply calls of src/src/controllers/cluster.rs
   digest: The API server behind a connection that breaks, and the regions of its store. -/

import StreamlineOperator.Foundation.Isolation
import StreamlineOperator.Kubernetes.ServerSideApply

set_option autoImplicit false
set_option relaxedAutoImplicit false

namespace StreamlineOperator.Kubernetes

open Foundation
open Program (Triple Ending)

/-- The call failed, for the operator. -/
def Failure (request : Request) (response : request.Response) : Prop :=
  succeeded ⟨request, response⟩ = false

/-- The API server, with calls that may be lost on the way there or back. -/
abbrev lossyServes (requester : String) :
    (request : Request) → ObjectStore → request.Response → ObjectStore → Prop :=
  Lossy Failure (serves requester)

/-- The requests that can change a stored object of the workload. -/
def Request.writesObject : Request → Bool
  | .create .. => true
  | .apply .. => true
  | _ => false

section Rules

variable {requester : String} {kind : Kind} {namespaceName name : String}
variable {store after : ObjectStore}

theorem serves_keeps {request : Request} {r : request.Response}
    (h : serves requester request store r after) (hread : request.writesObject = false) :
    after = store := by
  cases request with
  | create | apply => cases hread
  | get | list | applyJson | mergePatch | patchStatus | delete =>
    simp only [serves] at h
    tauto
  | httpPost | httpGet | httpDelete | clock | metric => exact h

theorem triple_of_reads {α : Type} {pre : ObjectStore → Prop} {p : Operation α}
    (h : Program.Always (fun e => e.request.writesObject = false) p) :
    Triple (lossyServes requester) pre p (Ending pre fun _ => pre) := by
  intro store hstore tr res after hruns hserved
  have hsame : after = store := by
    have hreads := h tr res hruns
    clear hruns
    induction hserved with
    | nil => rfl
    | cons hserve _ ih =>
      rw [List.forall_mem_cons] at hreads
      have hkept := hserve.keeps (I := fun s => s = _)
        (fun y s' hy hs => (serves_keeps hy hreads.1).trans hs) rfl
      subst hkept
      exact ih hstore hreads.2
  subst hsame
  cases res with
  | ok a => exact hstore
  | error e => exact hstore

/-- A child object is written, or the call fails and whatever was lost leaves `inv`. -/
theorem triple_getThenWrite_lossy {object : kind.Object} {pre inv post : ObjectStore → Prop}
    (hname : kind.objectName object = name)
    (hfree : ∀ store, pre store → ∀ stored, store kind namespaceName name = some stored →
      ¬ stored.Conflicts operatorApply (kind.fields object))
    (hpost : ∀ store stored, pre store →
      Writes requester (kind.fields object) (store kind namespaceName name) stored →
      post (store.set kind namespaceName name stored))
    (hpre : ∀ store, pre store → inv store) (hinv : ∀ store, post store → inv store) :
    Triple (lossyServes requester) pre (getThenWrite kind namespaceName name object)
      (Ending inv fun _ => post) := by
  have hanswer : ∀ r : Except KubeError Unit, Triple (lossyServes requester)
      (fun after => (r = .ok () ∧ post after) ∨ r.isOk = false ∧ inv after) (orKubeApi r)
      (Ending inv fun _ => post) := by
    intro r
    cases r with
    | ok u =>
      refine Program.triple_ok ?_
      rintro after (⟨-, hafter⟩ | ⟨hfailed, -⟩)
      · exact hafter
      · cases hfailed
    | error e =>
      refine Program.triple_err ?_
      rintro after (⟨hok, -⟩ | ⟨-, hafter⟩)
      · cases hok
      · exact hafter
  refine Program.triple_call (fun found store => pre store ∧
    (found.isOk = true → (store kind namespaceName name).isSome = true)) ?_ ?_
  · intro store found after hstore hserve
    cases hserve with
    | served hserve =>
      obtain ⟨rfl, hfound⟩ := hserve
      refine ⟨hstore, fun hok => hfound.mp ?_⟩
      cases found with
      | ok object => exact ⟨object, rfl⟩
      | error e => cases hok
    | requestLost hfailed =>
      refine ⟨hstore, fun hok => ?_⟩
      rw [show found.isOk = false from hfailed] at hok
      cases hok
    | answerLost hfailed hserve =>
      obtain ⟨rfl, -⟩ := hserve
      refine ⟨hstore, fun hok => ?_⟩
      rw [show found.isOk = false from hfailed] at hok
      cases hok
  · intro found
    cases found with
    | ok existing =>
      refine Program.triple_call _ ?_ hanswer
      rintro store r after ⟨hstore, hthere⟩ hserve
      obtain ⟨stored, hstored⟩ := Option.isSome_iff_exists.mp (hthere rfl)
      have hunhindered := hfree store hstore stored hstored
      have hwritten : post (store.set kind namespaceName name
          (stored.applied operatorApply (kind.fields object))) := by
        refine hpost store _ hstore ?_
        rw [hstored]
        exact .applied hunhindered
      have hserved : ∀ r after, serves requester (.apply kind namespaceName name object) store r
          after → r = .ok () ∧ post after := by
        intro r after hserve
        simp only [serves, hstored, Option.getD_some] at hserve
        rcases hserve with ⟨hconflict, -, -⟩ | ⟨-, rfl, rfl⟩
        · exact absurd hconflict hunhindered
        · exact ⟨rfl, hwritten⟩
      cases hserve with
      | served hserve => exact .inl (hserved r after hserve)
      | requestLost hfailed => exact .inr ⟨hfailed, hpre store hstore⟩
      | answerLost hfailed hserve => exact .inr ⟨hfailed, hinv after (hserved _ after hserve).2⟩
    | error e =>
      refine Program.triple_call _ ?_ hanswer
      rintro store r after ⟨hstore, -⟩ hserve
      have hserved : ∀ r after, serves requester (.create kind namespaceName object) store r
          after → (r = .ok () ∧ post after) ∨ r.isOk = false ∧ inv after := by
        intro r after hserve
        simp only [serves, hname] at hserve
        split at hserve
        · rename_i hnone
          obtain ⟨rfl, rfl⟩ := hserve
          refine .inl ⟨rfl, hpost store _ hstore ?_⟩
          rw [hnone]
          exact .created
        · obtain ⟨⟨e, rfl, -⟩, rfl⟩ := hserve
          exact .inr ⟨rfl, hpre after hstore⟩
      cases hserve with
      | served hserve => exact hserved r after hserve
      | requestLost hfailed => exact .inr ⟨hfailed, hpre store hstore⟩
      | answerLost hfailed hserve =>
        refine .inr ⟨hfailed, ?_⟩
        rcases hserved _ after hserve with ⟨-, hafter⟩ | ⟨-, hafter⟩
        · exact hinv after hafter
        · exact hafter

end Rules

/-! Regions of the store. -/

/-- The stored object a request reads or writes. -/
def Request.storeKey : Request → Option (Kind × String × String)
  | .get kind namespaceName name => some (kind, namespaceName, name)
  | .create kind namespaceName object => some (kind, namespaceName, kind.objectName object)
  | .apply kind namespaceName name _ => some (kind, namespaceName, name)
  | _ => none

/-- A part of the store, by the keys in it. -/
abbrev Region : Type := Kind → String → String → Prop

/-- The request keeps to the region. -/
def Request.Within (region : Region) (request : Request) : Prop :=
  ∀ kind namespaceName name, request.storeKey = some (kind, namespaceName, name) →
    region kind namespaceName name

/-- The stores are the same in the region. -/
def AgreeOn (region : Region) (store other : ObjectStore) : Prop :=
  ∀ kind namespaceName name, region kind namespaceName name →
    store kind namespaceName name = other kind namespaceName name

section Regions

variable {requester : String}

theorem AgreeOn.set {region : Region} {store other : ObjectStore} (h : AgreeOn region store other)
    (kind : Kind) (namespaceName name : String) (object : Owned kind.Value) :
    AgreeOn region (store.set kind namespaceName name object)
      (other.set kind namespaceName name object) := by
  intro otherKind otherNamespace otherName hregion
  by_cases hkey : otherKind = kind ∧ otherNamespace = namespaceName ∧ otherName = name
  · obtain ⟨rfl, rfl, rfl⟩ := hkey
    rw [ObjectStore.set_same, ObjectStore.set_same]
  · rw [ObjectStore.set_other hkey, ObjectStore.set_other hkey]
    exact h otherKind otherNamespace otherName hregion

/-- What the server does with a request: it depends on the object under its key alone,
and stores at most that object. -/
theorem serves_cases {request : Request} {store after : ObjectStore} {r : request.Response}
    (h : serves requester request store r after) :
    (after = store ∧ ∀ other : ObjectStore,
      (∀ kind namespaceName name, request.storeKey = some (kind, namespaceName, name) →
        other kind namespaceName name = store kind namespaceName name) →
      serves requester request other r other) ∨
    ∃ kind namespaceName name, ∃ object : Owned kind.Value,
      request.storeKey = some (kind, namespaceName, name) ∧
      after = store.set kind namespaceName name object ∧ ∀ other : ObjectStore,
        other kind namespaceName name = store kind namespaceName name →
        serves requester request other r (other.set kind namespaceName name object) := by
  cases request with
  | get kind namespaceName name =>
    obtain ⟨rfl, hfound⟩ := h
    refine .inl ⟨rfl, fun other hother => ⟨rfl, ?_⟩⟩
    rw [hother kind namespaceName name rfl]
    exact hfound
  | create kind namespaceName object =>
    simp only [serves] at h
    split at h
    · rename_i hnone
      obtain ⟨rfl, rfl⟩ := h
      refine .inr ⟨kind, namespaceName, _, _, rfl, rfl, fun other hother => ?_⟩
      simp only [serves, hother, hnone, true_and]
    · rename_i stored hsome
      obtain ⟨hconflict, rfl⟩ := h
      refine .inl ⟨rfl, fun other hother => ?_⟩
      have hthere := (hother kind namespaceName (kind.objectName object) rfl).trans hsome
      simp only [serves, hthere]
      exact ⟨hconflict, trivial⟩
  | apply kind namespaceName name object =>
    rcases h with ⟨hconflict, hfailed, rfl⟩ | ⟨hfree, rfl, rfl⟩
    · refine .inl ⟨rfl, fun other hother => .inl ⟨?_, hfailed, rfl⟩⟩
      rw [hother kind namespaceName name rfl]
      exact hconflict
    · refine .inr ⟨kind, namespaceName, name, _, rfl, rfl, fun other hother => .inr ⟨?_, rfl, ?_⟩⟩
      · rw [hother]
        exact hfree
      · rw [hother]
  | list | applyJson | mergePatch | patchStatus | delete =>
    obtain ⟨hanswer, rfl⟩ := h
    exact .inl ⟨rfl, fun other _ => ⟨hanswer, rfl⟩⟩
  | httpPost | httpGet | httpDelete | clock | metric =>
    obtain rfl : after = store := h
    exact .inl ⟨rfl, fun other _ => rfl⟩

theorem serves_separation {ι : Type} {region : ι → Region}
    (hdisjoint : ∀ i j, i ≠ j → ∀ kind namespaceName name, region i kind namespaceName name →
      ¬ region j kind namespaceName name) :
    Separation (serves requester) (fun i request => request.Within (region i))
      (fun i => AgreeOn (region i)) where
  refl _ _ _ _ _ _ := rfl
  trans hab hbc kind namespaceName name hregion :=
    (hab kind namespaceName name hregion).trans (hbc kind namespaceName name hregion)
  symm hab kind namespaceName name hregion := (hab kind namespaceName name hregion).symm
  own := by
    intro i request store r after other hwithin hserves hagree
    rcases serves_cases hserves with ⟨rfl, hsame⟩ | ⟨kind, namespaceName, name, object, hkey, rfl,
      hsame⟩
    · refine ⟨other, hsame other fun kind namespaceName name hkey => ?_, hagree⟩
      exact (hagree kind namespaceName name (hwithin kind namespaceName name hkey)).symm
    · have hregion := hwithin kind namespaceName name hkey
      exact ⟨_, hsame other (hagree kind namespaceName name hregion).symm,
        hagree.set kind namespaceName name object⟩
  other := by
    intro i j request store r after hne hwithin hserves otherKind otherNamespace otherName hmine
    rcases serves_cases hserves with ⟨rfl, -⟩ | ⟨kind, namespaceName, name, object, hkey, rfl, -⟩
    · rfl
    · refine (ObjectStore.set_other ?_).symm
      rintro ⟨rfl, rfl, rfl⟩
      exact hdisjoint i j hne _ _ _ hmine (hwithin _ _ _ hkey)

theorem Request.nonempty_response (request : Request) : Nonempty request.Response := by
  obtain ⟨r, -, -⟩ := @serves_total "" request (fun _ _ _ => none)
  exact ⟨r⟩

end Regions

end StreamlineOperator.Kubernetes
