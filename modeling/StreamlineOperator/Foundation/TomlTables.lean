/- source: general support, no source file
   digest: No line of a TOML document changes a string that the lines before it have set. -/

import StreamlineOperator.Foundation.Toml

set_option autoImplicit false
set_option relaxedAutoImplicit false

namespace StreamlineOperator.Foundation

namespace Toml

/-! What the lines of a document leave alone. -/

theorem lookup_cons (ms : Members) (k name : String) (v : Toml) :
    lookup name ((k, v) :: ms) = if k = name then some v else lookup name ms :=
  assoc_lookup_cons ms k name v

theorem lookup_put (ms : Members) (k name : String) (v : Toml) :
    lookup name (put ms k v) = if k = name then some v else lookup name ms := by
  induction ms with
  | nil => rw [put, lookup_cons]
  | cons m ms ih =>
    obtain ⟨k', w⟩ := m
    rw [put]
    by_cases hk : k' = k
    · subst hk
      rw [if_pos rfl, lookup_cons, lookup_cons]
      by_cases hn : k' = name <;> simp [hn]
    · rw [if_neg hk, lookup_cons, ih, lookup_cons]
      by_cases hn : k = name
      · subst hn
        simp [hk]
      · simp [hn]

/-- The string at the end of a path of tables. -/
def stringAt : List String → Members → Option String
  | [], _ => none
  | [name], ms =>
    match lookup name ms with
    | some (.string s) => some s
    | _ => none
  | name :: path, ms =>
    match lookup name ms with
    | some (.table _ inner) => stringAt path inner
    | _ => none

/-- Every string is still where it was. -/
def Keeps (ms ms' : Members) : Prop :=
  ∀ path s, stringAt path ms = some s → stringAt path ms' = some s

theorem Keeps.refl (ms : Members) : Keeps ms ms := fun _ _ h => h

theorem Keeps.trans {a b c : Members} (hab : Keeps a b) (hbc : Keeps b c) : Keeps a c :=
  fun path s h => hbc path s (hab path s h)

theorem keeps_put {ms : Members} {name : String} {v : Toml}
    (hstring : ∀ s, lookup name ms = some (.string s) → v = .string s)
    (htable : ∀ origin inner, lookup name ms = some (.table origin inner) →
      ∃ origin' inner', v = .table origin' inner' ∧ Keeps inner inner') :
    Keeps ms (put ms name v) := by
  intro path s h
  match path with
  | [] => simp [stringAt] at h
  | [k] =>
    rw [stringAt] at h ⊢
    rw [lookup_put]
    by_cases hk : name = k
    · subst hk
      rw [if_pos rfl]
      cases hold : lookup name ms with
      | none => simp [hold] at h
      | some old =>
        cases old with
        | string t =>
          rw [hstring t hold]
          rw [hold] at h
          exact h
        | _ => simp [hold] at h
    · rw [if_neg hk]
      exact h
  | k :: k' :: path =>
    rw [stringAt] at h ⊢
    · rw [lookup_put]
      by_cases hk : name = k
      · subst hk
        rw [if_pos rfl]
        cases hold : lookup name ms with
        | none => simp [hold] at h
        | some old =>
          cases old with
          | table origin inner =>
            obtain ⟨origin', inner', rfl, hkeeps⟩ := htable origin inner hold
            rw [hold] at h
            exact hkeeps _ s h
          | _ => simp [hold] at h
      · rw [if_neg hk]
        exact h
    all_goals simp

theorem keeps_put_new {ms : Members} {name : String} (h : lookup name ms = none) (v : Toml) :
    Keeps ms (put ms name v) :=
  keeps_put (by simp [h]) (by simp [h])

theorem keeps_put_table {ms : Members} {name : String} {origin origin' : TomlOrigin}
    {inner inner' : Members} (h : lookup name ms = some (.table origin inner))
    (hkeeps : Keeps inner inner') : Keeps ms (put ms name (.table origin' inner')) := by
  refine keeps_put (by simp [h]) (fun o i hi => ⟨origin', inner', rfl, ?_⟩)
  obtain ⟨rfl, rfl⟩ : origin = o ∧ inner = i := by simpa [h] using hi
  exact hkeeps

theorem keeps_put_tables {ms : Members} {name : String} {latest : Members}
    {earlier : List Members} (h : lookup name ms = some (.tables latest earlier)) (v : Toml) :
    Keeps ms (put ms name v) :=
  keeps_put (by simp [h]) (by simp [h])

theorem addKey_keeps {v : Toml} {path : List String} {ms ms' : Members}
    (h : addKey v path ms = some ms') : Keeps ms ms' := by
  fun_induction addKey v path ms generalizing ms' with
  | case1 => cases h
  | case2 ms name hnone =>
    obtain rfl := Option.some.inj h
    exact keeps_put_new (by simpa using hnone) v
  | case3 => cases h
  | case4 ms name path hne hnone ih =>
    obtain ⟨inner, -, rfl⟩ := Option.map_eq_some_iff.mp h
    exact keeps_put_new hnone _
  | case5 ms name path hne inner htable ih =>
    obtain ⟨inner', hinner, rfl⟩ := Option.map_eq_some_iff.mp h
    exact keeps_put_table htable (ih hinner)
  | case6 ms name path hne inner htable ih =>
    obtain ⟨inner', hinner, rfl⟩ := Option.map_eq_some_iff.mp h
    exact keeps_put_table htable (ih hinner)
  | case7 => cases h

theorem openTable_keeps {name : String} {ms ms' : Members} (h : openTable name ms = some ms') :
    Keeps ms ms' := by
  unfold openTable at h
  split at h
  · obtain rfl := Option.some.inj h
    exact keeps_put_new ‹_› _
  · obtain rfl := Option.some.inj h
    exact keeps_put_table ‹_› (.refl _)
  · cases h

theorem openElement_keeps {name : String} {ms ms' : Members}
    (h : openElement name ms = some ms') : Keeps ms ms' := by
  unfold openElement at h
  split at h
  · obtain rfl := Option.some.inj h
    exact keeps_put_new ‹_› _
  · obtain rfl := Option.some.inj h
    exact keeps_put_tables ‹_› _
  · cases h

theorem alongHeader_keeps {last : String → Members → Option Members}
    (hlast : ∀ name ms ms', last name ms = some ms' → Keeps ms ms') {path : List String}
    {ms ms' : Members} (h : alongHeader last path ms = some ms') : Keeps ms ms' := by
  fun_induction alongHeader last path ms generalizing ms' with
  | case1 => cases h
  | case2 => exact hlast _ _ _ h
  | case3 ms name path hne hnone ih =>
    obtain ⟨inner, -, rfl⟩ := Option.map_eq_some_iff.mp h
    exact keeps_put_new hnone _
  | case4 => cases h
  | case5 ms name path hne origin inner hclosed htable ih =>
    obtain ⟨inner', hinner, rfl⟩ := Option.map_eq_some_iff.mp h
    exact keeps_put_table htable (ih hinner)
  | case6 ms name path hne latest earlier htables ih =>
    obtain ⟨latest', -, rfl⟩ := Option.map_eq_some_iff.mp h
    exact keeps_put_tables htables _
  | case7 => cases h

theorem inTable_keeps {change : Members → Option Members}
    (hchange : ∀ ms ms', change ms = some ms' → Keeps ms ms') {path : List String}
    {ms ms' : Members} (h : inTable change path ms = some ms') : Keeps ms ms' := by
  fun_induction inTable change path ms generalizing ms' with
  | case1 ms => exact hchange ms ms' h
  | case2 ms name path origin inner htable ih =>
    obtain ⟨inner', hinner, rfl⟩ := Option.map_eq_some_iff.mp h
    exact keeps_put_table htable (ih hinner)
  | case3 ms name path latest earlier htables ih =>
    obtain ⟨latest', -, rfl⟩ := Option.map_eq_some_iff.mp h
    exact keeps_put_tables htables _
  | case4 => cases h

theorem State.step_keeps {state state' : State} {l : Line} (h : state.step l = some state') :
    Keeps state.root state'.root := by
  cases l with
  | keyValue path v =>
    obtain ⟨root, hroot, rfl⟩ := Option.map_eq_some_iff.mp h
    exact inTable_keeps (fun _ _ => addKey_keeps) hroot
  | tableHeader path =>
    obtain ⟨root, hroot, rfl⟩ := Option.map_eq_some_iff.mp h
    exact alongHeader_keeps (fun _ _ _ => openTable_keeps) hroot
  | elementHeader path =>
    obtain ⟨root, hroot, rfl⟩ := Option.map_eq_some_iff.mp h
    exact alongHeader_keeps (fun _ _ _ => openElement_keeps) hroot

/-- Nor do any number of lines. -/
theorem State.run_keeps {ls : List Line} {state state' : State}
    (h : ls.foldlM State.step state = some state') : Keeps state.root state'.root := by
  induction ls generalizing state with
  | nil =>
    obtain rfl := Option.some.inj h
    exact .refl _
  | cons l ls ih =>
    obtain ⟨next, hstep, hrun⟩ := Option.bind_eq_some_iff.mp h
    exact (step_keeps hstep).trans (ih hrun)

end Toml

end StreamlineOperator.Foundation
