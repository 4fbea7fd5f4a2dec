/- source: general support, no source file
   digest: JSON values, RFC 7386 merge patches, and field-by-field decoding with defaults. -/

import StreamlineOperator.Foundation.Text

set_option autoImplicit false
set_option relaxedAutoImplicit false

namespace StreamlineOperator.Foundation

/-- A JSON number. Only integers are ever read as values here; any other
number is kept as its text. -/
inductive JsonNumber where
  | int (value : Int)
  | other (text : String)
  deriving DecidableEq, Repr

inductive Json where
  | null
  | bool (value : Bool)
  | num (value : JsonNumber)
  | str (value : String)
  | arr (items : List Json)
  | obj (members : List (String × Json))
  deriving Repr

abbrev Members := List (String × Json)

namespace Members

def lookup (ms : Members) (name : String) : Option Json := List.lookup name ms

def remove (ms : Members) (name : String) : Members := ms.filter (fun m => m.1 ≠ name)

def set (ms : Members) (name : String) (value : Json) : Members :=
  (name, value) :: ms.remove name

@[simp] theorem lookup_nil (name : String) : lookup [] name = none := rfl

theorem lookup_cons (ms : Members) (k name : String) (v : Json) :
    lookup ((k, v) :: ms) name = if k = name then some v else lookup ms name :=
  assoc_lookup_cons ms k name v

theorem lookup_remove (ms : Members) (k name : String) :
    lookup (ms.remove k) name = if k = name then none else lookup ms name := by
  induction ms with
  | nil => simp [remove]
  | cons m ms ih =>
    obtain ⟨k', v⟩ := m
    by_cases hk : k' = k
    · subst hk
      simp only [remove, lookup_cons] at ih ⊢
      by_cases hn : k' = name <;> simp_all
    · have hfilter : remove ((k', v) :: ms) k = (k', v) :: remove ms k := by
        simp [remove, hk]
      rw [hfilter, lookup_cons, lookup_cons, ih]
      by_cases hn : k = name
      · subst hn
        simp [hk]
      · simp [hn]

theorem lookup_set (ms : Members) (k name : String) (v : Json) :
    lookup (ms.set k v) name = if k = name then some v else lookup ms name := by
  rw [set, lookup_cons, lookup_remove]
  by_cases h : k = name <;> simp [h]

theorem lookup_eq_none_of_not_mem {ms : Members} {name : String}
    (h : name ∉ ms.map Prod.fst) : lookup ms name = none := by
  induction ms with
  | nil => rfl
  | cons m ms ih =>
    obtain ⟨k, v⟩ := m
    simp only [List.map_cons, List.mem_cons, not_or] at h
    rw [lookup_cons, if_neg (Ne.symm h.1), ih h.2]

end Members

namespace Json

/-- The members of an object; every other value counts as an empty object, as
RFC 7386 has it for the target of a merge. -/
def members : Json → Members
  | .obj ms => ms
  | _ => []

/-- What RFC 7386 does with one member of the patch, given the merged value: a
null removes the member of that name. -/
def storeMember (target : Members) (name : String) (value merged : Json) : Members :=
  match value with
  | .null => target.remove name
  | _ => target.set name merged

mutual
/-- RFC 7386 `MergePatch(Target, Patch)`. -/
def mergePatch (target : Json) : Json → Json
  | .obj patch => .obj (mergeMembers target.members patch)
  | .null => .null
  | .bool b => .bool b
  | .num n => .num n
  | .str s => .str s
  | .arr items => .arr items

/-- The members of the patch, applied in order. -/
def mergeMembers (target : Members) : Members → Members
  | [] => target
  | (name, value) :: rest =>
    mergeMembers
      (storeMember target name value (mergePatch ((target.lookup name).getD .null) value)) rest
end

/-- Not an object: the values a merge stores as they are. -/
def isAtomic : Json → Bool
  | .obj _ => false
  | _ => true

theorem mergePatch_of_isAtomic {patch : Json} (h : patch.isAtomic = true) (target : Json) :
    mergePatch target patch = patch := by
  cases patch <;> simp_all [mergePatch, isAtomic]

/-- What one member of the merged object holds. -/
def mergedMember (old : Option Json) : Option Json → Option Json
  | none => old
  | some .null => none
  | some value => some (mergePatch (old.getD .null) value)

private theorem lookup_storeMember (target : Members) (k name : String) (v : Json) :
    (storeMember target k v (mergePatch ((target.lookup k).getD .null) v)).lookup name =
      if k = name then mergedMember (target.lookup name) (some v) else target.lookup name := by
  cases v <;> by_cases h : k = name <;>
    simp [storeMember, mergedMember, Members.lookup_remove, Members.lookup_set, h]

/-- A merge treats every member on its own. -/
theorem lookup_mergeMembers (target patch : Members) (name : String)
    (distinct : (patch.map Prod.fst).Nodup) :
    (mergeMembers target patch).lookup name =
      mergedMember (target.lookup name) (patch.lookup name) := by
  induction patch generalizing target with
  | nil => simp [mergeMembers, mergedMember]
  | cons m rest ih =>
    obtain ⟨k, v⟩ := m
    simp only [List.map_cons, List.nodup_cons] at distinct
    rw [mergeMembers, ih _ distinct.2, lookup_storeMember, Members.lookup_cons]
    by_cases h : k = name
    · subst h
      simp [Members.lookup_eq_none_of_not_mem distinct.1, mergedMember]
    · simp [h]

theorem lookup_mergeMembers_self (ms : Members) (name : String) (v : Json) :
    (mergeMembers ms [(name, v)]).lookup name = mergedMember (ms.lookup name) (some v) := by
  rw [lookup_mergeMembers _ _ _ (by simp), Members.lookup_cons, if_pos rfl]

theorem lookup_mergeMembers_ne {k name : String} (h : k ≠ name) (ms : Members) (v : Json) :
    (mergeMembers ms [(k, v)]).lookup name = ms.lookup name := by
  rw [lookup_mergeMembers _ _ _ (by simp), Members.lookup_cons, if_neg h]
  rfl

theorem lookup_mergePatch_single (target value : Json) (k name : String) :
    (mergePatch target (.obj [(k, value)])).members.lookup name =
      if k = name then mergedMember (target.members.lookup name) (some value)
      else target.members.lookup name := by
  simp only [mergePatch, members]
  by_cases h : k = name
  · subst h
    rw [lookup_mergeMembers_self, if_pos rfl]
  · rw [lookup_mergeMembers_ne h, if_neg h]

/-- The patch that writes one value at the end of a path of member names. -/
def leafPatch (path : List String) (leaf : Json) : Json :=
  path.foldr (fun name inner => .obj [(name, inner)]) leaf

theorem leafPatch_cons (name : String) (path : List String) (leaf : Json) :
    leafPatch (name :: path) leaf = .obj [(name, leafPatch path leaf)] := rfl

/-- On its way to the end of the path, a leaf patch meets no array. -/
def MeetsNoArray : List String → Json → Prop
  | [], _ => True
  | name :: path, v => (∀ items, v ≠ .arr items) ∧
    ∀ inner, v.members.lookup name = some inner → MeetsNoArray path inner

theorem meetsNoArray_null (path : List String) : MeetsNoArray path .null := by
  cases path with
  | nil => trivial
  | cons name path => exact ⟨by simp, by simp [members]⟩

theorem MeetsNoArray.mergePatch {leaf : Json} (hatomic : leaf.isAtomic = true)
    (hleaf : ∀ items, leaf ≠ .arr items) {other path : List String} {target : Json}
    (h : MeetsNoArray other target) :
    MeetsNoArray other (Json.mergePatch target (leafPatch path leaf)) := by
  induction other generalizing target path with
  | nil => trivial
  | cons name other ih =>
    cases path with
    | nil =>
      rw [leafPatch, List.foldr_nil, mergePatch_of_isAtomic hatomic]
      refine ⟨hleaf, ?_⟩
      cases leaf with
      | obj ms => simp [isAtomic] at hatomic
      | _ => simp [members]
    | cons k path =>
      refine ⟨by simp [leafPatch_cons, Json.mergePatch], ?_⟩
      intro inner hinner
      rw [leafPatch_cons, lookup_mergePatch_single] at hinner
      split at hinner
      · have hold : MeetsNoArray other ((target.members.lookup name).getD .null) := by
          cases htarget : target.members.lookup name with
          | none => exact meetsNoArray_null other
          | some old => exact h.2 old htarget
        have hmerged : inner = Json.mergePatch ((target.members.lookup name).getD .null)
            (leafPatch path leaf) := by
          revert hinner
          cases leafPatch path leaf <;> simp +contextual [mergedMember]
        rw [hmerged]
        exact ih hold
      · exact h.2 inner hinner

end Json

/-! Decoders return `none` where deserialization reports an error. -/

abbrev Decoder (α : Type) := Json → Option α

namespace Decoder

variable {α : Type}

def string : Decoder String
  | .str s => some s
  | _ => none

def bool : Decoder Bool
  | .bool b => some b
  | _ => none

def int32 : Decoder Int32
  | .num (.int n) => if -2147483648 ≤ n ∧ n ≤ 2147483647 then some (Int32.ofInt n) else none
  | _ => none

def int64 : Decoder Int64
  | .num (.int n) =>
    if -9223372036854775808 ≤ n ∧ n ≤ 9223372036854775807 then some (Int64.ofInt n) else none
  | _ => none

/-- A null is an absent value. -/
def option (d : Decoder α) : Decoder (Option α)
  | .null => some none
  | v => (d v).map some

def list (d : Decoder α) : Decoder (List α)
  | .arr items => items.mapM d
  | _ => none

/-- A string map. Later members of one name overwrite earlier ones. -/
def stringMap : Decoder StringMap
  | .obj ms => ms.foldlM (fun acc m => (string m.2).map (acc.insert m.1)) ∅
  | _ => none

/-- A unit variant, by its name. An object that maps the name to null is read as well. -/
def variant (text : α → String) (variants : List α) : Decoder α
  | .str s => variants.find? (fun v => text v = s)
  | .obj [(s, .null)] => variants.find? (fun v => text v = s)
  | _ => none

/-- The members of an object. -/
def struct : Decoder Members
  | .obj ms => some ms
  | _ => none

/-- The members of a struct with these fields. A derived deserializer reads them from an
object, or from an array that lists the first of them in their order. -/
def derived (names : List String) : Decoder Members
  | .obj ms => some ms
  | .arr items => if items.length ≤ names.length then some (names.zip items) else none
  | _ => none

/-- A member that has to be present. -/
def field (d : Decoder α) (ms : Members) (name : String) : Option α :=
  (ms.lookup name).bind d

/-- A member with a default for the case that it is absent. A null is present. -/
def fieldOr (default : α) (d : Decoder α) (ms : Members) (name : String) : Option α :=
  match ms.lookup name with
  | none => some default
  | some v => d v

/-- An optional member: absent and null are the same. -/
def fieldOption (d : Decoder α) (ms : Members) (name : String) : Option (Option α) :=
  fieldOr none d.option ms name

theorem field_congr {ms ms' : Members} {name : String} (h : ms'.lookup name = ms.lookup name)
    (d : Decoder α) : field d ms' name = field d ms name := by
  rw [field, h, field]

theorem fieldOr_congr {ms ms' : Members} {name : String} (h : ms'.lookup name = ms.lookup name)
    (default : α) (d : Decoder α) : fieldOr default d ms' name = fieldOr default d ms name := by
  rw [fieldOr, h, fieldOr]

end Decoder

namespace Json

def ofInt32 (n : Int32) : Json := .num (.int n.toInt)

def ofInt64 (n : Int64) : Json := .num (.int n.toInt)

def ofOption {α : Type} (encode : α → Json) : Option α → Json
  | none => .null
  | some a => encode a

end Json

namespace Decoder

open Json

/-- `encode` writes values that `d` reads back and that a merge stores as they
are. -/
structure Inverts {α : Type} (d : Decoder α) (encode : α → Json) : Prop where
  decode : ∀ a, d (encode a) = some a
  isAtomic : ∀ a, (encode a).isAtomic = true
  ne_null : ∀ a, encode a ≠ .null

theorem string_inverts : Inverts string .str where
  decode _ := rfl
  isAtomic _ := rfl
  ne_null _ := by simp

theorem bool_inverts : Inverts bool .bool where
  decode _ := rfl
  isAtomic _ := rfl
  ne_null _ := by simp

theorem int32_inverts : Inverts int32 ofInt32 where
  decode n := by
    have hlo := n.le_toInt
    have hhi := n.toInt_lt
    simp only [ofInt32, int32]
    rw [if_pos (by omega), Int32.ofInt_toInt]
  isAtomic _ := rfl
  ne_null _ := by simp [ofInt32]

theorem int64_inverts : Inverts int64 ofInt64 where
  decode n := by
    have hlo := n.le_toInt
    have hhi := n.toInt_lt
    simp only [ofInt64, int64]
    rw [if_pos (by omega), Int64.ofInt_toInt]
  isAtomic _ := rfl
  ne_null _ := by simp [ofInt64]

theorem list_inverts {α : Type} {d : Decoder α} {encode : α → Json}
    (h : ∀ a, d (encode a) = some a) : Inverts (list d) (fun xs => .arr (xs.map encode)) where
  decode xs := by
    simp only [list]
    induction xs with
    | nil => rfl
    | cons x xs ih => simp [h, ih]
  isAtomic _ := rfl
  ne_null _ := by simp

section Merge

variable {α : Type} {d : Decoder α} {encode : α → Json} {patch : Members}

private theorem mergedMember_encode (hd : Inverts d encode) (old : Option Json) (a : α) :
    mergedMember old (some (encode a)) = some (encode a) := by
  have hm := mergePatch_of_isAtomic (hd.isAtomic a) (old.getD .null)
  have hn := hd.ne_null a
  revert hm hn
  cases encode a <;> simp [mergedMember]

private theorem option_encode (hd : Inverts d encode) (a : α) :
    d.option (encode a) = some (some a) := by
  have hn := hd.ne_null a
  have ha := hd.decode a
  revert hn ha
  cases encode a <;> simp +contextual [option]

theorem fieldOr_mergeMembers (hd : Inverts d encode) (distinct : (patch.map Prod.fst).Nodup)
    (target : Members) (name : String) (default a : α)
    (h : patch.lookup name = some (encode a)) :
    fieldOr default d (mergeMembers target patch) name = some a := by
  rw [fieldOr, lookup_mergeMembers _ _ _ distinct, h, mergedMember_encode hd]
  exact hd.decode a

theorem fieldOption_mergeMembers (hd : Inverts d encode)
    (distinct : (patch.map Prod.fst).Nodup) (target : Members) (name : String)
    (value : Option α) (h : patch.lookup name = some (ofOption encode value)) :
    fieldOption d (mergeMembers target patch) name = some value := by
  rw [fieldOption, fieldOr, lookup_mergeMembers _ _ _ distinct, h]
  cases value with
  | none => rfl
  | some a =>
    rw [ofOption, mergedMember_encode hd]
    exact option_encode hd a

theorem fieldOption_lookup (hd : Inverts d encode) (name : String) (value : Option α)
    (h : patch.lookup name = some (ofOption encode value)) :
    fieldOption d patch name = some value := by
  rw [fieldOption, fieldOr, h]
  cases value with
  | none => rfl
  | some a => exact option_encode hd a

end Merge

section Blocks

variable {α : Type} {d : Decoder α} {path : List String} {leaf : Json} {f : α → α}

theorem derived_eq_some {names : List String} {v : Json} {ms : Members}
    (h : derived names v = some ms) : v = .obj ms ∨ ∃ items, v = .arr items := by
  cases v with
  | obj ms' => exact .inl (congrArg Json.obj (Option.some.inj h))
  | arr items => exact .inr ⟨items, rfl⟩
  | _ => simp [derived] at h

theorem fieldOr_keeps {k name : String} (hne : k ≠ name) {default a : α} {ms : Members}
    (h : fieldOr default d ms name = some a) (v : Json) :
    fieldOr default d (mergeMembers ms [(k, v)]) name = some a := by
  rw [fieldOr_congr (lookup_mergeMembers_ne hne ms v), h]

theorem fieldOr_leaf {encode : α → Json} (hd : Inverts d encode) (ms : Members) (name : String)
    (default a : α) : fieldOr default d (mergeMembers ms [(name, encode a)]) name = some a :=
  fieldOr_mergeMembers hd (by simp) ms name default a (by rw [Members.lookup_cons, if_pos rfl])

theorem fieldOption_leaf (d : Decoder α) (ms : Members) (name : String) :
    fieldOption d (mergeMembers ms [(name, .null)]) name = some none := by
  rw [fieldOption, fieldOr, lookup_mergeMembers_self]
  rfl

/-- Merging the leaf patch turns what `d` reads by `f`. -/
def Updates (d : Decoder α) (path : List String) (leaf : Json) (f : α → α) : Prop :=
  ∀ v a, d v = some a → MeetsNoArray path v → d (v.mergePatch (leafPatch path leaf)) = some (f a)

private theorem mergedMember_leafPatch (hpath : path ≠ []) (old : Option Json) :
    mergedMember old (some (leafPatch path leaf)) =
      some (mergePatch (old.getD .null) (leafPatch path leaf)) := by
  cases path with
  | nil => exact absurd rfl hpath
  | cons name path => rfl

theorem Updates.congr {g : α → α} (h : Updates d path leaf f) (hg : ∀ a, g a = f a) :
    Updates d path leaf g := by
  intro v a hread hopen
  rw [hg]
  exact h v a hread hopen

theorem Updates.of_members {name : String}
    (hstruct : ∀ v a, d v = some a → ∃ names ms, derived names v = some ms)
    (h : ∀ ms a, d (.obj ms) = some a →
      (∀ inner, ms.lookup name = some inner → MeetsNoArray path inner) →
      d (.obj (mergeMembers ms [(name, leafPatch path leaf)])) = some (f a)) :
    Updates d (name :: path) leaf f := by
  intro v a hread hopen
  obtain ⟨names, ms, hms⟩ := hstruct v a hread
  rcases derived_eq_some hms with rfl | ⟨items, rfl⟩
  · exact h ms a hread hopen.2
  · exact absurd rfl (hopen.1 items)

theorem Updates.field (h : Updates d path leaf f) (hpath : path ≠ []) {ms : Members}
    {name : String} {a : α} (hread : Decoder.field d ms name = some a)
    (hopen : ∀ inner, ms.lookup name = some inner → MeetsNoArray path inner) :
    Decoder.field d (mergeMembers ms [(name, leafPatch path leaf)]) name = some (f a) := by
  obtain ⟨v, hv, hd⟩ := Option.bind_eq_some_iff.mp hread
  rw [Decoder.field, lookup_mergeMembers_self, mergedMember_leafPatch hpath, hv]
  exact h v a hd (hopen v hv)

theorem Updates.fieldOr (h : Updates d path leaf f) (hpath : path ≠ []) {default : α}
    (hdefault : d (.obj []) = some default) {ms : Members} {name : String} {a : α}
    (hread : Decoder.fieldOr default d ms name = some a)
    (hopen : ∀ inner, ms.lookup name = some inner → MeetsNoArray path inner) :
    Decoder.fieldOr default d (mergeMembers ms [(name, leafPatch path leaf)]) name =
      some (f a) := by
  rw [Decoder.fieldOr] at hread ⊢
  rw [lookup_mergeMembers_self, mergedMember_leafPatch hpath]
  cases hold : ms.lookup name with
  | none =>
    rw [hold] at hread
    obtain rfl := Option.some.inj hread
    have hempty : MeetsNoArray path (.obj []) := by
      cases path with
      | nil => trivial
      | cons name path => exact ⟨by simp, by simp [members]⟩
    have hmerge := h (.obj []) default hdefault hempty
    cases path with
    | nil => exact absurd rfl hpath
    | cons name path => exact hmerge
  | some v =>
    rw [hold] at hread
    exact h v a hread (hopen v hold)

end Blocks

end Decoder

end StreamlineOperator.Foundation
