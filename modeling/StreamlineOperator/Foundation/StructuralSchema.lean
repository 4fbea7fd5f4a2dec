/- source: general support, no source file
   digest: Structural schemas: what they admit, how they complete it, and decoders that fit them. -/

import StreamlineOperator.Foundation.Json

set_option autoImplicit false
set_option relaxedAutoImplicit false

namespace StreamlineOperator.Foundation

namespace Members

theorem lookup_filter (keep : String → Prop) [DecidablePred keep] (ms : Members) (name : String) :
    lookup (ms.filter (fun m => keep m.1)) name =
      if keep name then ms.lookup name else none := by
  induction ms with
  | nil => simp
  | cons m ms ih =>
    obtain ⟨k, v⟩ := m
    by_cases hk : keep k
    · rw [List.filter_cons_of_pos (by simpa using hk), lookup_cons, lookup_cons, ih]
      by_cases hname : k = name
      · subst hname
        rw [if_pos rfl, if_pos hk, if_pos rfl]
      · rw [if_neg hname, if_neg hname]
    · rw [List.filter_cons_of_neg (by simpa using hk), lookup_cons, ih]
      by_cases hname : k = name
      · subst hname
        rw [if_neg hk, if_neg hk]
      · rw [if_neg hname]

end Members

/-- The width an integer schema announces. A server need not enforce it. -/
inductive IntegerFormat where
  | int32
  | int64
  deriving DecidableEq, Repr

def IntegerFormat.holds : IntegerFormat → Int → Bool
  | int32, n => -2147483648 ≤ n && n ≤ 2147483647
  | int64, n => -9223372036854775808 ≤ n && n ≤ 9223372036854775807

/-- A structural schema. The two wrappers stand for the `nullable` and the
`default` of a property. -/
inductive Schema where
  | boolean
  | string
  | oneOf (values : List String)
  | integer (format : IntegerFormat)
  | array (items : Schema)
  | map (values : Schema)
  | object (properties : List (String × Schema)) (required : List String)
  | nullable (schema : Schema)
  | default (value : Json) (schema : Schema)

namespace Schema

/-- The value a missing property takes. -/
def fallback : Schema → Option Json
  | default value _ => some value
  | nullable schema => schema.fallback
  | _ => none

def isNullable : Schema → Bool
  | nullable _ => true
  | default _ schema => schema.isNullable
  | _ => false

/-- What a property holds before its own parts are completed: a null that is not
allowed counts as missing. -/
def supply (schema : Schema) : Option Json → Option Json
  | none => schema.fallback
  | some .null => if schema.isNullable then some .null else schema.fallback
  | some value => some value

mutual

/-- Validation. -/
def admits : Schema → Json → Bool
  | boolean, value => match value with
    | .bool _ => true
    | _ => false
  | string, value => match value with
    | .str _ => true
    | _ => false
  | oneOf values, value => match value with
    | .str s => s ∈ values
    | _ => false
  | integer _, value => match value with
    | .num (.int _) => true
    | _ => false
  | array items, value => match value with
    | .arr xs => xs.all (fun x => items.admits x)
    | _ => false
  | map values, value => match value with
    | .obj ms => ms.all (fun m => values.admits m.2)
    | _ => false
  | object properties required, value => match value with
    | .obj ms => required.all (fun name => (ms.lookup name).isSome) && admitsMembers properties ms
    | _ => false
  | nullable schema, value => match value with
    | .null => true
    | _ => schema.admits value
  | default _ schema, value => schema.admits value

def admitsMembers : List (String × Schema) → Members → Bool
  | [], _ => true
  | (name, schema) :: rest, ms =>
    (match ms.lookup name with
      | some value => schema.admits value
      | none => true) && admitsMembers rest ms

end

mutual

/-- Every integer is within the format its schema announces. -/
def inRange : Schema → Json → Bool
  | integer format, value => match value with
    | .num (.int n) => format.holds n
    | _ => true
  | array items, value => match value with
    | .arr xs => xs.all (fun x => items.inRange x)
    | _ => true
  | map values, value => match value with
    | .obj ms => ms.all (fun m => values.inRange m.2)
    | _ => true
  | object properties _, value => match value with
    | .obj ms => inRangeMembers properties ms
    | _ => true
  | nullable schema, value => schema.inRange value
  | default _ schema, value => schema.inRange value
  | _, _ => true

def inRangeMembers : List (String × Schema) → Members → Bool
  | [], _ => true
  | (name, schema) :: rest, ms =>
    (match ms.lookup name with
      | some value => schema.inRange value
      | none => true) && inRangeMembers rest ms

end

mutual

/-- Defaulting and pruning: missing properties take their defaults, and members
the schema does not know are dropped. -/
def complete : Schema → Json → Json
  | array items, value => match value with
    | .arr xs => .arr (xs.map (fun x => items.complete x))
    | _ => value
  | map values, value => match value with
    | .obj ms => .obj (ms.filterMap (fun m =>
        (values.supply (some m.2)).map (fun v => (m.1, values.complete v))))
    | _ => value
  | object properties _, value => match value with
    | .obj ms => .obj (completeMembers properties ms)
    | _ => value
  | nullable schema, value => schema.complete value
  | default _ schema, value => schema.complete value
  | _, value => value

def completeMembers : List (String × Schema) → Members → Members
  | [], _ => []
  | (name, schema) :: rest, ms =>
    match schema.supply (ms.lookup name) with
    | some value => (name, schema.complete value) :: completeMembers rest ms
    | none => completeMembers rest ms

end

@[elab_as_elim]
theorem ind {motive : Schema → Prop} (boolean : motive .boolean) (string : motive .string)
    (oneOf : ∀ values, motive (.oneOf values)) (integer : ∀ format, motive (.integer format))
    (array : ∀ items, motive items → motive (.array items))
    (map : ∀ values, motive values → motive (.map values))
    (object : ∀ properties required, (∀ p ∈ properties, motive p.2) →
      motive (.object properties required))
    (nullable : ∀ schema, motive schema → motive (.nullable schema))
    (default : ∀ value schema, motive schema → motive (.default value schema)) (schema : Schema) :
    motive schema :=
  @Schema.rec motive (fun ps => ∀ p ∈ ps, motive p.2) (fun p => motive p.2) boolean string oneOf
    integer array map object nullable default (fun _ h => absurd h List.not_mem_nil)
    (fun _ _ hp hps => List.forall_mem_cons.mpr ⟨hp, hps⟩) (fun _ _ h => h) schema

variable {schema : Schema} {properties : List (String × Schema)} {required : List String}
variable {ms : Members} {value : Json}

theorem admitsMembers_iff : admitsMembers properties ms = true ↔
    ∀ p ∈ properties, ∀ value, ms.lookup p.1 = some value → p.2.admits value = true := by
  induction properties with
  | nil => simp [admitsMembers]
  | cons p rest ih =>
    obtain ⟨name, schema⟩ := p
    rw [admitsMembers, Bool.and_eq_true, ih, List.forall_mem_cons]
    cases ms.lookup name <;> simp

theorem inRangeMembers_iff : inRangeMembers properties ms = true ↔
    ∀ p ∈ properties, ∀ value, ms.lookup p.1 = some value → p.2.inRange value = true := by
  induction properties with
  | nil => simp [inRangeMembers]
  | cons p rest ih =>
    obtain ⟨name, schema⟩ := p
    rw [inRangeMembers, Bool.and_eq_true, ih, List.forall_mem_cons]
    cases ms.lookup name <;> simp

/-- The members an object schema admits. -/
structure AdmitsAll (properties : List (String × Schema)) (required : List String)
    (ms : Members) : Prop where
  required : ∀ name ∈ required, (ms.lookup name).isSome = true
  admitted : ∀ p ∈ properties, ∀ value, ms.lookup p.1 = some value → p.2.admits value = true

theorem admits_object : (object properties required).admits (.obj ms) = true ↔
    AdmitsAll properties required ms := by
  rw [admits, Bool.and_eq_true, List.all_eq_true, admitsMembers_iff]
  exact ⟨fun h => ⟨h.1, h.2⟩, fun h => ⟨h.required, h.admitted⟩⟩

theorem exists_of_admits_object (h : (object properties required).admits value = true) :
    ∃ ms, value = .obj ms ∧ AdmitsAll properties required ms := by
  cases value with
  | obj ms => exact ⟨ms, rfl, admits_object.mp h⟩
  | _ => simp [admits] at h

theorem exists_of_admits_array {items : Schema} (h : (array items).admits value = true) :
    ∃ xs, value = .arr xs ∧ ∀ x ∈ xs, items.admits x = true := by
  cases value with
  | arr xs => exact ⟨xs, rfl, by simpa [admits] using h⟩
  | _ => simp [admits] at h

theorem exists_of_admits_map {values : Schema} (h : (map values).admits value = true) :
    ∃ ms, value = .obj ms ∧ ∀ m ∈ ms, values.admits m.2 = true := by
  cases value with
  | obj ms => exact ⟨ms, rfl, by simpa [admits] using h⟩
  | _ => simp [admits] at h

theorem isNullable_of_admits_null (h : schema.admits .null = true) : schema.isNullable = true := by
  induction schema using Schema.ind with
  | nullable schema _ => rfl
  | default value schema ih => exact ih h
  | _ => simp [admits] at h

theorem supply_of_admits (h : schema.admits value = true) :
    schema.supply (some value) = some value := by
  cases value with
  | null => simp only [supply, isNullable_of_admits_null h, if_true]
  | _ => rfl

theorem lookup_completeMembers_of_not_mem {name : String}
    (h : name ∉ properties.map Prod.fst) : (completeMembers properties ms).lookup name = none := by
  induction properties with
  | nil => rfl
  | cons p rest ih =>
    obtain ⟨name', schema⟩ := p
    rw [List.map_cons, List.mem_cons, not_or] at h
    rw [completeMembers]
    cases schema.supply (ms.lookup name') with
    | none => exact ih h.2
    | some value => rw [Members.lookup_cons, if_neg (Ne.symm h.1), ih h.2]

theorem mem_completeMembers {m : String × Json} (h : m ∈ completeMembers properties ms) :
    m.1 ∈ properties.map Prod.fst := by
  induction properties with
  | nil => cases h
  | cons p rest ih =>
    obtain ⟨name, schema⟩ := p
    rw [completeMembers] at h
    cases hsupply : schema.supply (ms.lookup name) with
    | none =>
      rw [hsupply] at h
      exact List.mem_cons_of_mem _ (ih h)
    | some value =>
      rw [hsupply] at h
      rcases List.mem_cons.mp h with rfl | h
      · exact List.mem_cons_self
      · exact List.mem_cons_of_mem _ (ih h)

theorem lookup_completeMembers {name : String} (hdistinct : (properties.map Prod.fst).Nodup)
    (h : (name, schema) ∈ properties) :
    (completeMembers properties ms).lookup name =
      (schema.supply (ms.lookup name)).map schema.complete := by
  induction properties with
  | nil => cases h
  | cons p rest ih =>
    obtain ⟨name', schema'⟩ := p
    rw [List.map_cons, List.nodup_cons] at hdistinct
    rw [completeMembers]
    rcases List.mem_cons.mp h with heq | hrest
    · obtain ⟨rfl, rfl⟩ := Prod.mk.inj heq
      cases schema.supply (ms.lookup name) with
      | none => exact lookup_completeMembers_of_not_mem hdistinct.1
      | some value => rw [Members.lookup_cons, if_pos rfl, Option.map_some]
    · have hmem : name ∈ rest.map Prod.fst := List.mem_map.mpr ⟨_, hrest, rfl⟩
      have hne : name' ≠ name := fun heq => hdistinct.1 (heq ▸ hmem)
      cases schema'.supply (ms.lookup name') with
      | none => exact ih hdistinct.2 hrest
      | some value => rw [Members.lookup_cons, if_neg hne, ih hdistinct.2 hrest]

theorem completeMembers_congr {ms' : Members}
    (h : ∀ p ∈ properties, (p.2.supply (ms'.lookup p.1)).map p.2.complete =
      (p.2.supply (ms.lookup p.1)).map p.2.complete) :
    completeMembers properties ms' = completeMembers properties ms := by
  induction properties with
  | nil => rfl
  | cons p rest ih =>
    obtain ⟨name, schema⟩ := p
    have hhead := h _ List.mem_cons_self
    have htail := ih (fun q hq => h q (List.mem_cons_of_mem _ hq))
    rw [completeMembers, completeMembers, htail]
    revert hhead
    cases schema.supply (ms'.lookup name) <;> cases schema.supply (ms.lookup name) <;>
      simp only [Option.map_none, Option.map_some, Option.some.injEq, reduceCtorEq, imp_self,
        false_implies]
    intro heq
    rw [heq]

mutual

/-- Defaults are admitted, properties are distinct, and what is required is a property. -/
def sound : Schema → Bool
  | array items => items.sound
  | map values => values.sound
  | object properties required =>
    decide (properties.map Prod.fst).Nodup &&
      required.all (fun name => name ∈ properties.map Prod.fst) && soundMembers properties
  | nullable schema => schema.sound
  | default value schema => schema.admits value && schema.sound
  | _ => true

def soundMembers : List (String × Schema) → Bool
  | [] => true
  | (_, schema) :: rest => schema.sound && soundMembers rest

end

theorem soundMembers_iff : soundMembers properties = true ↔
    ∀ p ∈ properties, p.2.sound = true := by
  induction properties with
  | nil => simp [soundMembers]
  | cons p rest ih => rw [soundMembers, Bool.and_eq_true, ih, List.forall_mem_cons]

/-- What makes an object schema sound. -/
structure SoundObject (properties : List (String × Schema)) (required : List String) : Prop where
  distinct : (properties.map Prod.fst).Nodup
  required : ∀ name ∈ required, ∃ schema, (name, schema) ∈ properties
  properties : ∀ p ∈ properties, p.2.sound = true

theorem sound_object : (object properties required).sound = true ↔
    SoundObject properties required := by
  rw [sound, Bool.and_eq_true, Bool.and_eq_true, decide_eq_true_eq, List.all_eq_true,
    soundMembers_iff]
  simp only [decide_eq_true_eq, List.mem_map, Prod.exists, exists_and_right, exists_eq_right]
  exact ⟨fun h => ⟨h.1.1, h.1.2, h.2⟩, fun h => ⟨⟨h.distinct, h.required⟩, h.properties⟩⟩

theorem admits_fallback (hs : schema.sound = true) (h : schema.fallback = some value) :
    schema.admits value = true := by
  induction schema using Schema.ind with
  | nullable schema ih =>
    have hinner := ih hs h
    cases value <;> first | rfl | exact hinner
  | default d schema _ =>
    rw [sound, Bool.and_eq_true] at hs
    obtain rfl := Option.some.inj h
    exact hs.1
  | _ => cases h

theorem admits_of_supply (hs : schema.sound = true) {held : Option Json}
    (hheld : ∀ v, held = some v → schema.admits v = true)
    (h : schema.supply held = some value) : schema.admits value = true := by
  cases held with
  | none => exact admits_fallback hs h
  | some v =>
    rw [supply_of_admits (hheld v rfl)] at h
    exact Option.some.inj h ▸ hheld v rfl

theorem fallback_of_supply_eq_none {held : Option Json} (h : schema.supply held = none) :
    schema.fallback = none := by
  unfold supply at h
  split at h
  · exact h
  · split at h
    · cases h
    · exact h
  · cases h

theorem complete_null (schema : Schema) : schema.complete .null = .null := by
  induction schema using Schema.ind with
  | nullable schema ih => exact ih
  | default value schema ih => exact ih
  | _ => rfl

theorem inRange_null (schema : Schema) : schema.inRange .null = true := by
  induction schema using Schema.ind with
  | nullable schema ih => exact ih
  | default value schema ih => exact ih
  | _ => rfl

theorem eq_null_of_complete (h : schema.complete value = .null) : value = .null := by
  induction schema using Schema.ind with
  | nullable schema ih => exact ih h
  | default d schema ih => exact ih h
  | array items _ => cases value <;> first | rfl | cases h
  | map values _ => cases value <;> first | rfl | cases h
  | object properties required _ => cases value <;> first | rfl | cases h
  | _ => exact h

theorem admits_of_admits_nullable (h : (nullable schema).admits value = true)
    (hnull : value ≠ .null) : schema.admits value = true := by
  cases value with
  | null => exact absurd rfl hnull
  | _ => exact h

theorem complete_map_of_admits {values : Schema} (h : ∀ m ∈ ms, values.admits m.2 = true) :
    (map values).complete (.obj ms) = .obj (ms.map (fun m => (m.1, values.complete m.2))) := by
  rw [complete]
  refine congrArg Json.obj ?_
  induction ms with
  | nil => rfl
  | cons m ms ih =>
    rw [List.forall_mem_cons] at h
    rw [List.filterMap_cons, supply_of_admits h.1, Option.map_some, List.map_cons, ih h.2]

theorem admits_complete (hs : schema.sound = true) (h : schema.admits value = true) :
    schema.admits (schema.complete value) = true := by
  induction schema using Schema.ind generalizing value with
  | array items ih =>
    obtain ⟨xs, rfl, hxs⟩ := exists_of_admits_array h
    simp only [complete, admits, List.all_map, List.all_eq_true, Function.comp_apply]
    exact fun x hx => ih hs (hxs x hx)
  | map values ih =>
    obtain ⟨ms, rfl, hms⟩ := exists_of_admits_map h
    rw [complete_map_of_admits hms]
    simp only [admits, List.all_map, List.all_eq_true, Function.comp_apply]
    exact fun m hm => ih hs (hms m hm)
  | object properties required ih =>
    obtain ⟨ms, rfl, hms⟩ := exists_of_admits_object h
    obtain ⟨hdistinct, hrequired, hproperties⟩ := sound_object.mp hs
    rw [complete, admits_object]
    refine ⟨fun name hname => ?_, fun p hp v hv => ?_⟩
    · obtain ⟨schema, hmem⟩ := hrequired name hname
      obtain ⟨v, hv⟩ := Option.isSome_iff_exists.mp (hms.required name hname)
      rw [lookup_completeMembers hdistinct hmem, hv,
        supply_of_admits (hms.admitted _ hmem v hv)]
      rfl
    · rw [lookup_completeMembers hdistinct hp, Option.map_eq_some_iff] at hv
      obtain ⟨v, hv, rfl⟩ := hv
      exact ih p hp (hproperties p hp)
        (admits_of_supply (hproperties p hp) (hms.admitted p hp) hv)
  | nullable schema ih =>
    have hinner : schema.admits value = true → (nullable schema).admits (schema.complete value) =
        true := by
      intro h
      have hcomplete := ih hs h
      revert hcomplete
      cases schema.complete value <;> first | exact fun _ => rfl | exact id
    cases value with
    | null =>
      rw [complete, complete_null]
      rfl
    | _ => exact hinner h
  | default d schema ih =>
    rw [sound, Bool.and_eq_true] at hs
    exact ih hs.2 h
  | _ => exact h

/-- To complete once more changes nothing, if the completed value is admitted. -/
theorem complete_complete (hs : schema.sound = true)
    (h : schema.admits (schema.complete value) = true) :
    schema.complete (schema.complete value) = schema.complete value := by
  induction schema using Schema.ind generalizing value with
  | array items ih =>
    cases value with
    | arr xs =>
      simp only [complete, admits, List.all_map, List.all_eq_true, Function.comp_apply] at h
      simp only [complete, List.map_map, Json.arr.injEq, List.map_inj_left, Function.comp_apply]
      exact fun x hx => ih hs (h x hx)
    | _ => rfl
  | map values ih =>
    cases value with
    | obj ms =>
      simp only [complete, admits, List.all_eq_true] at h
      have hms : ∀ m ∈ ms.filterMap (fun m =>
          (values.supply (some m.2)).map (fun v => (m.1, values.complete v))),
          (m.1, values.complete m.2) = m := by
        intro m hm
        have hadmits := h m hm
        obtain ⟨m', -, hm'⟩ := List.mem_filterMap.mp hm
        obtain ⟨v, -, rfl⟩ := Option.map_eq_some_iff.mp hm'
        rw [ih hs hadmits]
      rw [complete, complete_map_of_admits h]
      exact congrArg Json.obj ((List.map_congr_left hms).trans (List.map_id' _))
    | _ => rfl
  | object properties required ih =>
    cases value with
    | obj ms =>
      obtain ⟨hdistinct, -, hproperties⟩ := sound_object.mp hs
      rw [complete, admits_object] at h
      rw [complete, complete]
      refine congrArg Json.obj (completeMembers_congr fun p hp => ?_)
      have hlookup := @lookup_completeMembers p.2 properties ms p.1 hdistinct hp
      have hadmits := h.admitted p hp
      rw [hlookup] at hadmits ⊢
      cases hsupply : p.2.supply (Members.lookup ms p.1) with
      | none => rw [Option.map_none, supply, fallback_of_supply_eq_none hsupply, Option.map_none]
      | some v =>
        have hv := hadmits (p.2.complete v) (by rw [hsupply]; rfl)
        rw [Option.map_some, supply_of_admits hv, Option.map_some,
          ih p hp (hproperties p hp) hv]
    | _ => rfl
  | nullable schema ih =>
    by_cases hnull : schema.complete value = .null
    · simp only [complete, hnull, complete_null]
    · exact ih hs (admits_of_admits_nullable h hnull)
  | default d schema ih =>
    rw [sound, Bool.and_eq_true] at hs
    exact ih hs.2 h
  | _ => rfl

/-! Merge patches of admitted objects. -/

/-- A merge patch may set a member of this schema to the value: null removes it,
and anything else is stored as it is. -/
def Settable (schema : Schema) (value : Json) : Prop :=
  value = .null ∨ value ≠ .null ∧ value.isAtomic = true ∧ schema.admits value = true

theorem settable_of_inverts {α : Type} {d : Decoder α} {encode : α → Json}
    (hd : d.Inverts encode) (hadmits : ∀ a, schema.admits (encode a) = true) (a : α) :
    schema.Settable (encode a) :=
  .inr ⟨hd.ne_null a, hd.isAtomic a, hadmits a⟩

theorem settable_ofOption {α : Type} {d : Decoder α} {encode : α → Json} (hd : d.Inverts encode)
    (hadmits : ∀ a, schema.admits (encode a) = true) (value : Option α) :
    (nullable schema).Settable (.ofOption encode value) := by
  cases value with
  | none => exact .inl rfl
  | some a =>
    refine .inr ⟨hd.ne_null a, hd.isAtomic a, ?_⟩
    have hinner := hadmits a
    have hnull := hd.ne_null a
    revert hinner hnull
    simp only [Json.ofOption]
    cases encode a with
    | null => exact fun _ hnull => absurd rfl hnull
    | _ => exact fun hinner _ => hinner

/-- A patch that settles every property makes an admitted object of anything. -/
theorem admits_mergePatch {patch : Members} (hdistinct : (patch.map Prod.fst).Nodup)
    (h : ∀ p ∈ properties, ∃ v, patch.lookup p.1 = some v ∧ p.2.Settable v) (target : Json) :
    (object properties []).admits (target.mergePatch (.obj patch)) = true := by
  rw [Json.mergePatch, admits_object]
  refine ⟨by simp, fun p hp v hv => ?_⟩
  obtain ⟨new, hnew, hsettable⟩ := h p hp
  rw [Json.lookup_mergeMembers _ _ _ hdistinct, hnew] at hv
  rcases hsettable with rfl | ⟨hnull, hatomic, hadmits⟩
  · cases hv
  · have hstored : Json.mergedMember (target.members.lookup p.1) (some new) = some new := by
      have hmerge := Json.mergePatch_of_isAtomic hatomic
        ((target.members.lookup p.1).getD .null)
      revert hmerge hnull
      cases new <;> simp [Json.mergedMember]
    rw [hstored] at hv
    exact Option.some.inj hv ▸ hadmits

/-! Decoders that fit a schema. -/

section Describes

variable {α β : Type} {d : Decoder α}

/-- The decoder reads what is admitted exactly if every integer is in range, and
reads it the same before and after its completion. -/
structure Describes (schema : Schema) (d : Decoder α) : Prop where
  reads : ∀ value, schema.admits value = true →
    ((d value).isSome = true ↔ schema.inRange value = true)
  completes : ∀ value, schema.admits value = true → d (schema.complete value) = d value

theorem describes_bool : boolean.Describes Decoder.bool where
  reads value h := by
    cases value with
    | bool b => exact ⟨fun _ => rfl, fun _ => rfl⟩
    | _ => cases h
  completes _ _ := rfl

theorem describes_string : string.Describes Decoder.string where
  reads value h := by
    cases value with
    | str s => exact ⟨fun _ => rfl, fun _ => rfl⟩
    | _ => cases h
  completes _ _ := rfl

theorem describes_oneOf {values : List String} (h : ∀ s ∈ values, (d (.str s)).isSome = true) :
    (oneOf values).Describes d where
  reads value hadmits := by
    cases value with
    | str s =>
      rw [admits, decide_eq_true_eq] at hadmits
      exact ⟨fun _ => rfl, fun _ => h s hadmits⟩
    | _ => cases hadmits
  completes _ _ := rfl

theorem describes_int32 : (integer .int32).Describes Decoder.int32 where
  reads value h := by
    cases value with
    | num n =>
      cases n with
      | int n =>
        simp only [Decoder.int32, inRange, IntegerFormat.holds, Bool.and_eq_true,
          decide_eq_true_eq]
        split <;> simp_all
      | other text => cases h
    | _ => cases h
  completes _ _ := rfl

theorem describes_int64 : (integer .int64).Describes Decoder.int64 where
  reads value h := by
    cases value with
    | num n =>
      cases n with
      | int n =>
        simp only [Decoder.int64, inRange, IntegerFormat.holds, Bool.and_eq_true,
          decide_eq_true_eq]
        split <;> simp_all
      | other text => cases h
    | _ => cases h
  completes _ _ := rfl

private theorem isSome_mapM {xs : List Json} :
    (xs.mapM d).isSome = true ↔ ∀ x ∈ xs, (d x).isSome = true := by
  induction xs with
  | nil => simp
  | cons x xs ih =>
    rw [List.mapM_cons, List.forall_mem_cons, ← ih]
    cases d x with
    | none => simp
    | some a => cases xs.mapM d <;> simp

private theorem mapM_map {xs : List Json} {f : Json → Json} (h : ∀ x ∈ xs, d (f x) = d x) :
    (xs.map f).mapM d = xs.mapM d := by
  induction xs with
  | nil => rfl
  | cons x xs ih =>
    rw [List.forall_mem_cons] at h
    rw [List.map_cons, List.mapM_cons, List.mapM_cons, h.1, ih h.2]

theorem describes_list {items : Schema} (h : items.Describes d) :
    (array items).Describes (Decoder.list d) where
  reads value hadmits := by
    obtain ⟨xs, rfl, hxs⟩ := exists_of_admits_array hadmits
    rw [Decoder.list, isSome_mapM, inRange, List.all_eq_true]
    exact forall_congr' fun x => forall_congr' fun hx => h.reads x (hxs x hx)
  completes value hadmits := by
    obtain ⟨xs, rfl, hxs⟩ := exists_of_admits_array hadmits
    rw [complete, Decoder.list, Decoder.list]
    exact mapM_map fun x hx => h.completes x (hxs x hx)

theorem describes_stringMap : (map string).Describes Decoder.stringMap where
  reads value hadmits := by
    obtain ⟨ms, rfl, hms⟩ := exists_of_admits_map hadmits
    have hrange : (map string).inRange (.obj ms) = true := by simp [inRange]
    refine ⟨fun _ => hrange, fun hin => ?_⟩
    rw [Decoder.stringMap]
    generalize (∅ : StringMap) = acc
    clear hadmits hrange hin
    induction ms generalizing acc with
    | nil => rfl
    | cons m ms ih =>
      obtain ⟨name, v⟩ := m
      rw [List.forall_mem_cons] at hms
      cases v with
      | str s =>
        rw [List.foldlM_cons]
        exact ih hms.2 (acc.insert name s)
      | _ => cases hms.1
  completes value hadmits := by
    obtain ⟨ms, rfl, hms⟩ := exists_of_admits_map hadmits
    rw [complete_map_of_admits hms]
    simp [complete]

private theorem option_of_ne_null (h : value ≠ .null) : d.option value = (d value).map some := by
  cases value with
  | null => exact absurd rfl h
  | _ => rfl

/-- What a decoder of members reads of these properties, when they are admitted:
everything if they are in range, and the same once they are completed. -/
def Reads (required : List String) (properties : List (String × Schema))
    (f : Members → Option α) : Prop :=
  ∀ ms, AdmitsAll properties required ms →
    ((f ms).isSome = true ↔
      ∀ p ∈ properties, ∀ value, ms.lookup p.1 = some value → p.2.inRange value = true) ∧
    ∀ ms' : Members, (∀ p ∈ properties,
      ms'.lookup p.1 = (p.2.supply (ms.lookup p.1)).map p.2.complete) → f ms' = f ms

theorem reads_done (a : α) : Reads required [] (fun _ => some a) := by
  intro ms _
  exact ⟨by simp, fun _ _ => rfl⟩

theorem reads_bind {p : String × Schema} {g : Members → Option β} {k : β → Members → Option α}
    (hg : Reads required [p] g) (hk : ∀ b, Reads required properties (k b)) :
    Reads required (p :: properties) (fun ms => g ms >>= fun b => k b ms) := by
  intro ms hms
  have hhead : AdmitsAll [p] required ms :=
    ⟨hms.required, fun q hq => hms.admitted q (by rw [List.mem_singleton.mp hq]; simp)⟩
  have htail : AdmitsAll properties required ms :=
    ⟨hms.required, fun q hq => hms.admitted q (List.mem_cons_of_mem _ hq)⟩
  obtain ⟨hreads, hsame⟩ := hg ms hhead
  rw [List.forall_mem_singleton] at hreads
  refine ⟨?_, fun ms' hms' => ?_⟩
  · show (g ms >>= fun b => k b ms).isSome = true ↔ _
    rw [List.forall_mem_cons, ← hreads]
    cases g ms with
    | none => simp
    | some b => simpa using (hk b ms htail).1
  · rw [List.forall_mem_cons] at hms'
    have hhead' := hsame ms' (by simpa using hms'.1)
    show (g ms' >>= fun b => k b ms') = (g ms >>= fun b => k b ms)
    rw [hhead']
    cases g ms with
    | none => rfl
    | some b => exact (hk b ms htail).2 ms' hms'.2

variable {name : String}

theorem reads_field (hname : name ∈ required) (h : schema.Describes d) :
    Reads required [(name, schema)] (fun ms => Decoder.field d ms name) := by
  intro ms hms
  obtain ⟨v, hv⟩ := Option.isSome_iff_exists.mp (hms.required name hname)
  have hadmits := hms.admitted _ (List.mem_singleton_self _) v hv
  refine ⟨?_, fun ms' hms' => ?_⟩
  · simpa [Decoder.field, hv] using h.reads v hadmits
  · have hv' := hms' _ (List.mem_singleton_self _)
    simp only [hv, supply_of_admits hadmits, Option.map_some] at hv'
    simpa [Decoder.field, hv, hv'] using h.completes v hadmits

theorem reads_fieldOr {a : α} (h : schema.Describes d) (hadmits : schema.admits value = true)
    (hvalue : d value = some a) :
    Reads required [(name, .default value schema)] (fun ms => Decoder.fieldOr a d ms name) := by
  intro ms hms
  cases hv : ms.lookup name with
  | none =>
    refine ⟨by simp [Decoder.fieldOr, hv], fun ms' hms' => ?_⟩
    have hv' := hms' _ (List.mem_singleton_self _)
    simp only [hv, supply, fallback, Option.map_some, complete] at hv'
    simp only [Decoder.fieldOr, hv, hv', h.completes value hadmits, hvalue]
  | some v =>
    have hadmits := hms.admitted _ (List.mem_singleton_self _) v hv
    refine ⟨?_, fun ms' hms' => ?_⟩
    · simpa [Decoder.fieldOr, hv, inRange] using h.reads v hadmits
    · have hv' := hms' _ (List.mem_singleton_self _)
      simp only [hv, supply_of_admits hadmits, Option.map_some, complete] at hv'
      simpa [Decoder.fieldOr, hv, hv'] using h.completes v hadmits

theorem reads_fieldOption (h : schema.Describes d) (hfallback : schema.fallback = none) :
    Reads required [(name, .nullable schema)] (fun ms => Decoder.fieldOption d ms name) := by
  intro ms hms
  cases hv : ms.lookup name with
  | none =>
    refine ⟨by simp [Decoder.fieldOption, Decoder.fieldOr, hv], fun ms' hms' => ?_⟩
    have hv' := hms' _ (List.mem_singleton_self _)
    simp only [hv, supply, fallback, hfallback, Option.map_none] at hv'
    simp only [Decoder.fieldOption, Decoder.fieldOr, hv, hv']
  | some v =>
    have hadmits := hms.admitted _ (List.mem_singleton_self _) v hv
    have hoption : ((d.option v).isSome = true ↔ schema.inRange v = true) ∧
        d.option (schema.complete v) = d.option v := by
      by_cases hnull : v = .null
      · subst hnull
        rw [complete_null, inRange_null]
        exact ⟨⟨fun _ => rfl, fun _ => rfl⟩, rfl⟩
      · have hinner := admits_of_admits_nullable hadmits hnull
        rw [option_of_ne_null hnull, option_of_ne_null (mt eq_null_of_complete hnull),
          h.completes v hinner, Option.isSome_map]
        exact ⟨h.reads v hinner, rfl⟩
    refine ⟨?_, fun ms' hms' => ?_⟩
    · simpa [Decoder.fieldOption, Decoder.fieldOr, hv, inRange] using hoption.1
    · have hv' := hms' _ (List.mem_singleton_self _)
      simp only [hv, supply_of_admits hadmits, Option.map_some, complete] at hv'
      simpa [Decoder.fieldOption, Decoder.fieldOr, hv, hv'] using hoption.2

theorem describes_object {names : List String} {f : Members → Option α}
    (hdistinct : (properties.map Prod.fst).Nodup) (h : Reads required properties f) :
    (object properties required).Describes (fun value => Decoder.derived names value >>= f) where
  reads value hadmits := by
    obtain ⟨ms, rfl, hms⟩ := exists_of_admits_object hadmits
    rw [inRange, inRangeMembers_iff]
    exact (h ms hms).1
  completes value hadmits := by
    obtain ⟨ms, rfl, hms⟩ := exists_of_admits_object hadmits
    exact (h ms hms).2 _ (fun p hp => lookup_completeMembers hdistinct hp)

end Describes

end Schema

end StreamlineOperator.Foundation
