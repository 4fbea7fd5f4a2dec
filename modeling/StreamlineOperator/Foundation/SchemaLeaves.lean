/- source: general support, no source file
   digest: One leaf of a document: patches of it, patches elsewhere, and what completion makes of it. -/

import StreamlineOperator.Foundation.StructuralSchema

set_option autoImplicit false
set_option relaxedAutoImplicit false

namespace StreamlineOperator.Foundation

namespace Json

/-- What stands at the end of a path through objects. Null stands for nothing:
the member may then be missing, and so may the objects on the way. -/
def Holds : List String → Json → Json → Prop
  | [], x, v => v = x
  | name :: path, x, v => ∃ ms, v = .obj ms ∧
      match Members.lookup ms name with
      | none => x = .null
      | some inner => Holds path x inner

/-- The objects on the way are there, and the last one has no such member. -/
def Lacks : List String → Json → Prop
  | [], _ => False
  | [name], v => ∃ ms, v = .obj ms ∧ Members.lookup ms name = none
  | name :: path, v => ∃ ms inner, v = .obj ms ∧ Members.lookup ms name = some inner ∧
      Lacks path inner

/-- Two paths that part before one of them ends. -/
def apart : List String → List String → Bool
  | name :: path, other :: rest => name ≠ other || apart path rest
  | _, _ => false

variable {path other : List String} {leaf x y v target : Json}

theorem not_holds_null {name : String} : ¬ Holds (name :: path) x .null := by
  rintro ⟨ms, hms, -⟩
  cases hms

theorem holds_of_lookup {ms : Members} {name : String} {inner : Json}
    (hlookup : ms.lookup name = some inner) (h : Holds path x inner) :
    Holds (name :: path) x (.obj ms) := by
  refine ⟨ms, rfl, ?_⟩
  rw [hlookup]
  exact h

theorem holds_of_absent {ms : Members} {name : String} (hlookup : ms.lookup name = none) :
    Holds (name :: path) .null (.obj ms) := by
  refine ⟨ms, rfl, ?_⟩
  rw [hlookup]

theorem exists_mergePatch_leafPatch (name : String) (path : List String) (leaf target : Json) :
    ∃ ms, target.mergePatch (leafPatch (name :: path) leaf) = .obj ms ∧
      ∀ k, Members.lookup ms k =
        if name = k then mergedMember (target.members.lookup name) (some (leafPatch path leaf))
        else target.members.lookup k := by
  refine ⟨_, rfl, fun k => ?_⟩
  have hlookup := lookup_mergePatch_single target (leafPatch path leaf) name k
  by_cases hk : name = k
  · subst hk
    exact hlookup
  · rw [if_neg hk] at hlookup ⊢
    exact hlookup

theorem mergedMember_leafPatch_cons (old : Option Json) (name : String) (path : List String)
    (leaf : Json) :
    mergedMember old (some (leafPatch (name :: path) leaf)) =
      some ((old.getD .null).mergePatch (leafPatch (name :: path) leaf)) := rfl

theorem holds_mergePatch_leafPatch (hatomic : leaf.isAtomic = true) (path : List String)
    (target : Json) : Holds path leaf (target.mergePatch (leafPatch path leaf)) := by
  induction path generalizing target with
  | nil => exact mergePatch_of_isAtomic hatomic target
  | cons name path ih =>
    obtain ⟨ms, hms, hlookup⟩ := exists_mergePatch_leafPatch name path leaf target
    have hmember := hlookup name
    rw [if_pos rfl] at hmember
    rw [hms]
    cases path with
    | cons next rest =>
      rw [mergedMember_leafPatch_cons] at hmember
      exact holds_of_lookup hmember (ih _)
    | nil =>
      have hwritten := ih ((target.members.lookup name).getD .null)
      cases leaf with
      | null => exact holds_of_absent hmember
      | _ => exact holds_of_lookup hmember hwritten

theorem lacks_mergePatch_leafPatch (name : String) (path : List String) (target : Json) :
    Lacks (name :: path) (target.mergePatch (leafPatch (name :: path) .null)) := by
  induction path generalizing name target with
  | nil =>
    obtain ⟨ms, hms, hlookup⟩ := exists_mergePatch_leafPatch name [] .null target
    have hmember := hlookup name
    rw [if_pos rfl] at hmember
    exact ⟨ms, hms, hmember⟩
  | cons next rest ih =>
    obtain ⟨ms, hms, hlookup⟩ := exists_mergePatch_leafPatch name (next :: rest) .null target
    have hmember := hlookup name
    rw [if_pos rfl, mergedMember_leafPatch_cons] at hmember
    exact ⟨ms, _, hms, hmember, ih next _⟩

theorem Holds.mergePatch_apart (h : Holds path x v) (hapart : apart path other = true)
    (leaf : Json) : Holds path x (v.mergePatch (leafPatch other leaf)) := by
  induction path generalizing other v with
  | nil => cases hapart
  | cons name path ih =>
    cases other with
    | nil => cases hapart
    | cons k other =>
      obtain ⟨ms, rfl, hheld⟩ := h
      obtain ⟨merged, hmerged, hlookup⟩ := exists_mergePatch_leafPatch k other leaf (.obj ms)
      refine ⟨merged, hmerged, ?_⟩
      rw [hlookup name]
      by_cases hk : k = name
      · subst hk
        have hrest : apart path other = true := by simpa [apart] using hapart
        obtain ⟨next, rest, rfl⟩ : ∃ next rest, other = next :: rest := by
          cases other with
          | nil => cases path <;> cases hrest
          | cons next rest => exact ⟨next, rest, rfl⟩
        rw [if_pos rfl, mergedMember_leafPatch_cons]
        -- an absent object is as good as an empty one
        cases hold : Members.lookup ms k with
        | some inner =>
          rw [hold] at hheld
          simp only [members, hold]
          exact ih hheld hrest
        | none =>
          rw [hold] at hheld
          have hempty : Holds path .null (.obj []) := by
            cases path with
            | nil => cases hrest
            | cons p path => exact holds_of_absent rfl
          simp only [members, hold]
          subst hheld
          have hmerged := ih hempty hrest
          exact hmerged
      · rw [if_neg hk]
        exact hheld

end Json

namespace Schema

open Json (Holds Lacks)

variable {schema leaf : Schema} {path : List String} {name : String} {x v : Json} {ms : Members}

/-- The schema of a property. -/
def property (name : String) : Schema → Option Schema
  | object properties _ => properties.lookup name
  | default _ schema => schema.property name
  | _ => none

def isScalar : Schema → Bool
  | boolean | string | oneOf _ | integer _ => true
  | nullable schema | default _ schema => schema.isScalar
  | _ => false

/-- The schema of the scalar at the end of a path. -/
def leafSchema : List String → Schema → Option Schema
  | [], schema => if schema.isScalar then some schema else none
  | name :: path, schema => (schema.property name).bind (leafSchema path)

/-- Nothing on the path has a default that puts a value at its end. -/
def Unset : List String → Schema → Prop
  | [], schema => schema.isScalar = true
  | name :: path, schema => ∃ inner, schema.property name = some inner ∧
      (∀ value, inner.fallback = some value → Holds path .null value) ∧ Unset path inner

theorem complete_of_isScalar (h : schema.isScalar = true) (v : Json) : schema.complete v = v := by
  induction schema using Schema.ind with
  | nullable schema ih => exact ih h
  | default value schema ih => exact ih h
  | array => cases h
  | map => cases h
  | object => cases h
  | _ => rfl

theorem complete_property {inner : Schema} (hsound : schema.sound = true)
    (h : schema.property name = some inner) (ms : Members) :
    inner.sound = true ∧ ∃ ms', schema.complete (.obj ms) = .obj ms' ∧
      Members.lookup ms' name = (inner.supply (Members.lookup ms name)).map inner.complete := by
  induction schema using Schema.ind with
  | object properties required _ =>
    have hmem : (name, inner) ∈ properties := by
      obtain ⟨before, after, rfl, -⟩ := List.lookup_eq_some_iff.mp h
      exact List.mem_append_right before List.mem_cons_self
    obtain ⟨hdistinct, -, hparts⟩ := sound_object.mp hsound
    exact ⟨hparts _ hmem, _, rfl, lookup_completeMembers hdistinct hmem⟩
  | default value schema ih =>
    rw [sound, Bool.and_eq_true] at hsound
    exact ih hsound.2 h
  | _ => cases h

theorem supply_of_ne_null (h : v ≠ .null) : schema.supply (some v) = some v := by
  cases v with
  | null => exact absurd rfl h
  | _ => rfl

/-- Completion keeps a value at the end of the path. -/
theorem holds_complete (hsound : schema.sound = true) (h : leafSchema path schema = some leaf)
    (hx : x ≠ .null) (hv : Holds path x v) : Holds path x (schema.complete v) := by
  induction path generalizing schema v with
  | nil =>
    rw [leafSchema] at h
    split at h
    case isTrue hscalar => exact (complete_of_isScalar hscalar v).trans hv
    case isFalse => cases h
  | cons name path ih =>
    obtain ⟨inner, hinner, hleaf⟩ := Option.bind_eq_some_iff.mp h
    obtain ⟨ms, rfl, hheld⟩ := hv
    obtain ⟨hsound', ms', hcomplete, hlookup⟩ := complete_property hsound hinner ms
    rw [hcomplete]
    cases hmember : Members.lookup ms name with
    | none =>
      rw [hmember] at hheld
      exact absurd hheld hx
    | some w =>
      rw [hmember] at hheld hlookup
      have hw : w ≠ .null := by
        rintro rfl
        cases path with
        | nil => exact hx hheld.symm
        | cons next rest => exact Json.not_holds_null hheld
      rw [supply_of_ne_null hw] at hlookup
      exact Json.holds_of_lookup hlookup (ih hsound' hleaf hheld)

theorem holds_null_complete (hsound : schema.sound = true) (h : Unset path schema)
    (hv : Holds path .null v) : Holds path .null (schema.complete v) := by
  induction path generalizing schema v with
  | nil => exact (complete_of_isScalar h v).trans hv
  | cons name path ih =>
    obtain ⟨inner, hinner, hfallback, hunset⟩ := h
    obtain ⟨ms, rfl, hheld⟩ := hv
    obtain ⟨hsound', ms', hcomplete, hlookup⟩ := complete_property hsound hinner ms
    rw [hcomplete]
    have hsupplied : ∀ w, inner.supply (Members.lookup ms name) = some w →
        Holds path .null w := by
      intro w hw
      cases hmember : Members.lookup ms name with
      | none =>
        rw [hmember] at hw
        exact hfallback w hw
      | some old =>
        rw [hmember] at hw hheld
        cases old with
        | null =>
          simp only [supply] at hw
          split at hw
          · exact Option.some.inj hw ▸ hheld
          · exact hfallback w hw
        | _ => exact Option.some.inj hw ▸ hheld
    cases hsupply : inner.supply (Members.lookup ms name) with
    | none =>
      rw [hsupply] at hlookup
      exact Json.holds_of_absent hlookup
    | some w =>
      rw [hsupply] at hlookup
      exact Json.holds_of_lookup hlookup (ih hsound' hunset (hsupplied w hsupply))

theorem holds_fallback_complete (hsound : schema.sound = true)
    (h : leafSchema path schema = some leaf) (hx : leaf.fallback = some x) (hv : Lacks path v) :
    Holds path x (schema.complete v) := by
  induction path generalizing schema v with
  | nil => cases hv
  | cons name path ih =>
    obtain ⟨inner, hinner, hleaf⟩ := Option.bind_eq_some_iff.mp h
    cases path with
    | nil =>
      obtain ⟨ms, rfl, habsent⟩ := hv
      obtain ⟨-, ms', hcomplete, hlookup⟩ := complete_property hsound hinner ms
      rw [leafSchema] at hleaf
      split at hleaf
      case isFalse => cases hleaf
      case isTrue hscalar =>
        obtain rfl := Option.some.inj hleaf
        rw [habsent, supply, hx, Option.map_some, complete_of_isScalar hscalar] at hlookup
        rw [hcomplete]
        exact Json.holds_of_lookup hlookup rfl
    | cons next rest =>
      obtain ⟨ms, w, rfl, hmember, hlacks⟩ := hv
      obtain ⟨hsound', ms', hcomplete, hlookup⟩ := complete_property hsound hinner ms
      have hw : w ≠ .null := by
        rintro rfl
        cases rest with
        | nil =>
          obtain ⟨_, hnull, -⟩ := hlacks
          cases hnull
        | cons => 
          obtain ⟨_, _, hnull, -⟩ := hlacks
          cases hnull
      rw [hmember, supply_of_ne_null hw] at hlookup
      rw [hcomplete]
      exact Json.holds_of_lookup hlookup (ih hsound' hleaf hlacks)

end Schema

end StreamlineOperator.Foundation
