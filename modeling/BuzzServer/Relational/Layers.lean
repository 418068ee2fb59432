/-
This file adds to finite maps what it takes to build one from layers: a default
that gives way to a value that is there, and a map whose values are computed one
by one, where each computation may fail.
-/

import Mathlib.Data.Finmap

namespace Finmap

variable {Key Value Result : Type} [DecidableEq Key]

/-! ### Defaults -/

/-- The map with a value at a key, unless the key has one already. -/
def setDefault (map : Finmap fun _ : Key => Value) (key : Key) (value : Value) :
    Finmap fun _ : Key => Value :=
  if key ∈ map then map else map.insert key value

theorem lookup_setDefault_self (map : Finmap fun _ : Key => Value) (key : Key) (value : Value) :
    (map.setDefault key value).lookup key = some ((map.lookup key).getD value) := by
  unfold setDefault
  split
  · next present =>
    obtain ⟨found, looked⟩ := mem_iff.mp present
    rw [looked, Option.getD_some]
  · next absent => rw [lookup_insert, lookup_eq_none.mpr absent, Option.getD_none]

variable {map : Finmap fun _ : Key => Value} {key : Key}

theorem lookup_setDefault_of_ne (map : Finmap fun _ : Key => Value) {other : Key} (value : Value)
    (different : other ≠ key) : (map.setDefault key value).lookup other = map.lookup other := by
  unfold setDefault
  split
  · rfl
  · exact lookup_insert_of_ne map different

/-- A default leaves the values that are there. -/
theorem lookup_setDefault_of_some {value : Value} (found : map.lookup key = some value)
    (other : Key) (default : Value) : (map.setDefault other default).lookup key = some value := by
  by_cases same : key = other
  · subst same
    rw [lookup_setDefault_self, found, Option.getD_some]
  · rw [lookup_setDefault_of_ne map default same, found]

/-! ### Computed values -/

section

variable (compute : Value → Option Result)

/-- The computed value of an entry, under the entry's key. -/
def computeEntry (entry : Sigma fun _ : Key => Value) : Option (Sigma fun _ : Key => Result) :=
  (compute entry.2).map (Sigma.mk entry.1)

variable {compute}

omit [DecidableEq Key] in
theorem computeEntry_eq_some {entry : Sigma fun _ : Key => Value}
    {computed : Sigma fun _ : Key => Result}
    (succeeds : computeEntry compute entry = some computed) :
    computed.1 = entry.1 ∧ compute entry.2 = some computed.2 := by
  obtain ⟨value, found, rfl⟩ := Option.map_eq_some_iff.mp succeeds
  exact ⟨rfl, found⟩

omit [DecidableEq Key] in
theorem nodupKeys_filterMap {entries : List (Sigma fun _ : Key => Value)}
    (distinct : entries.NodupKeys) :
    (entries.filterMap (computeEntry compute)).NodupKeys := by
  rw [List.nodupKeys_iff_pairwise] at distinct ⊢
  refine distinct.filterMap _ ?_
  intro first second different computed one other two same
  rw [(computeEntry_eq_some one).1, (computeEntry_eq_some two).1] at same
  exact different same

theorem dlookup_filterMap (entries : List (Sigma fun _ : Key => Value)) (key : Key)
    (distinct : entries.NodupKeys) :
    (entries.filterMap (computeEntry compute)).dlookup key =
      (entries.dlookup key).bind compute := by
  induction entries with
  | nil => rfl
  | cons entry entries inductionHypothesis =>
    obtain ⟨absent, others⟩ := List.nodupKeys_cons.mp distinct
    rcases entry with ⟨name, value⟩
    cases computed : compute value with
    | none =>
      rw [List.filterMap_cons_none (by simp [computeEntry, computed]), inductionHypothesis others]
      by_cases same : name = key
      · subst same
        rw [List.dlookup_cons_eq, List.dlookup_eq_none.mpr absent, Option.bind_some, computed,
          Option.bind_none]
      · rw [List.dlookup_cons_ne _ _ (Ne.symm same)]
    | some result =>
      have kept : computeEntry compute (⟨name, value⟩ : Sigma fun _ : Key => Value) =
          some ⟨name, result⟩ := by simp [computeEntry, computed]
      rw [List.filterMap_cons_some kept]
      by_cases same : name = key
      · subst same
        rw [List.dlookup_cons_eq, List.dlookup_cons_eq, Option.bind_some, computed]
      · rw [List.dlookup_cons_ne _ _ (Ne.symm same), List.dlookup_cons_ne _ _ (Ne.symm same),
          inductionHypothesis others]

variable (compute)

/-- The values that could be computed. -/
def computable (map : Finmap fun _ : Key => Value) : Finmap fun _ : Key => Result where
  entries := map.entries.filterMap (computeEntry compute)
  nodupKeys := by
    induction map using Finmap.induction_on with
    | H entries => exact nodupKeys_filterMap entries.nodupKeys

/-- The map of the computed values, if every one of them could be computed. -/
def collect (map : Finmap fun _ : Key => Value) : Option (Finmap fun _ : Key => Result) :=
  if ∀ entry ∈ map.entries, (compute entry.2).isSome then some (map.computable compute) else none

theorem lookup_computable (map : Finmap fun _ : Key => Value) (key : Key) :
    (map.computable compute).lookup key = (map.lookup key).bind compute := by
  induction map using Finmap.induction_on with
  | H entries => exact dlookup_filterMap entries.entries key entries.nodupKeys

variable {compute} {collected : Finmap fun _ : Key => Result}

theorem lookup_collect (succeeds : map.collect compute = some collected) (key : Key) :
    collected.lookup key = (map.lookup key).bind compute := by
  unfold collect at succeeds
  split at succeeds <;> cases succeeds
  exact lookup_computable compute map key

theorem collect_isSome : (map.collect compute).isSome ↔
      ∀ key value, map.lookup key = some value → (compute value).isSome := by
  have entries : (∀ entry ∈ map.entries, (compute entry.2).isSome) ↔
      ∀ key value, map.lookup key = some value → (compute value).isSome :=
    ⟨fun all key value found => all ⟨key, value⟩ (lookup_eq_some_iff.mp found),
      fun all entry listed => all entry.1 entry.2 (lookup_eq_some_iff.mpr listed)⟩
  rw [← entries]
  unfold collect
  split <;> simp_all

theorem mem_collect
    (succeeds : map.collect compute = some collected) : key ∈ collected ↔ key ∈ map := by
  have all := collect_isSome.mp (Option.isSome_iff_exists.mpr ⟨_, succeeds⟩)
  rw [← lookup_isSome, ← lookup_isSome, lookup_collect succeeds]
  cases found : map.lookup key with
  | none => simp
  | some value => simpa using all key value found

end

end Finmap
