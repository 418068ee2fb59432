/-
This file develops keyed tables, the shape in which a relational store keeps
its rows.

A table is one of Mathlib's association lists: its entries carry the proof that
no key occurs twice, so a primary key is unique by construction and `lookup`
reads *the* row of a key. Inserting, erasing and looking up are Mathlib's. What
is added here is what a relational store does besides: rewriting every row in
place (a foreign key that is set to null), deleting rows by a condition, and
reading the rows back as a list, in table order or in the order of a key
expression.
-/

import Mathlib.Data.List.AList
import Mathlib.Data.List.Sort

namespace Relational

open AList

/-- A table: rows of one type under keys that occur at most once. -/
abbrev Table (Key Row : Type) : Type := AList fun _ : Key => Row

namespace Table

variable {Key Row : Type}

/-- The rows of a table, in table order. -/
def rows (table : Table Key Row) : List Row :=
  table.entries.map fun entry => entry.2

/-- Every row rewritten in place, under the key it had. -/
def mapRows (rewrite : Row → Row) (table : Table Key Row) : Table Key Row where
  entries := table.entries.map fun entry => ⟨entry.1, rewrite entry.2⟩
  nodupKeys := by
    have sameKeys : (table.entries.map
        fun entry => (⟨entry.1, rewrite entry.2⟩ : Sigma fun _ : Key => Row)).keys =
          table.entries.keys := by
      simp only [List.keys, List.map_map]
      rfl
    rw [List.NodupKeys, sameKeys]
    exact table.nodupKeys

/-- The rows that a deletion with a condition leaves. -/
def filterRows (keep : Row → Bool) (table : Table Key Row) : Table Key Row where
  entries := table.entries.filter fun entry => keep entry.2
  nodupKeys := table.nodupKeys.sublist List.filter_sublist

/-- The rows a query with a filter and a sort key returns. -/
def query (keep : Row → Bool) (before : Row → Row → Prop) [DecidableRel before]
    (table : Table Key Row) : List Row :=
  (table.rows.filter keep).insertionSort before

variable {key : Key} {row : Row} {keep : Row → Bool} {table : Table Key Row}

section

variable [DecidableEq Key]

@[simp] theorem lookup_mapRows (rewrite : Row → Row) (table : Table Key Row) (key : Key) :
    (table.mapRows rewrite).lookup key = (table.lookup key).map rewrite := by
  obtain ⟨entries, distinct⟩ := table
  show List.dlookup key (entries.map
      fun entry => (⟨entry.1, rewrite entry.2⟩ : Sigma fun _ : Key => Row)) =
    (List.dlookup key entries).map rewrite
  clear distinct
  induction entries with
  | nil => rfl
  | cons entry rest inductionHypothesis =>
    obtain ⟨head, row⟩ := entry
    by_cases same : key = head
    · subst same
      simp only [List.map_cons, List.dlookup_cons_eq, Option.map_some]
    · rw [List.map_cons, List.dlookup_cons_ne _ _ same, List.dlookup_cons_ne _ _ same]
      exact inductionHypothesis

theorem lookup_filterRows : (table.filterRows keep).lookup key = some row ↔
      table.lookup key = some row ∧ keep row = true := by
  rw [← Option.mem_def, ← Option.mem_def, mem_lookup_iff, mem_lookup_iff]
  exact List.mem_filter

theorem mem_rows : row ∈ table.rows ↔ ∃ key, table.lookup key = some row := by
  unfold rows
  rw [List.mem_map]
  constructor
  · rintro ⟨⟨key, found⟩, member, rfl⟩
    exact ⟨key, mem_lookup_iff.mpr member⟩
  · rintro ⟨key, found⟩
    exact ⟨⟨key, row⟩, mem_lookup_iff.mp found, rfl⟩

variable {before : Row → Row → Prop}

theorem mem_query [DecidableRel before] :
    row ∈ table.query keep before ↔ keep row = true ∧ ∃ key, table.lookup key = some row := by
  unfold query
  rw [List.mem_insertionSort, List.mem_filter, mem_rows, and_comm]

/-- Rows that carry their keys come out of a query with different keys. -/
theorem query_keys_nodup [DecidableRel before] {keyOf : Row → Key}
    (keyed : ∀ key row, table.lookup key = some row → keyOf row = key) :
    ((table.query keep before).map keyOf).Nodup := by
  have keys : table.rows.map keyOf = table.entries.keys := by
    unfold rows List.keys
    rw [List.map_map]
    refine List.map_congr_left fun entry member => keyed entry.1 entry.2 ?_
    exact mem_lookup_iff.mpr member
  have rows : (table.rows.map keyOf).Nodup := keys ▸ table.nodupKeys
  refine (((List.perm_insertionSort before _).map keyOf).nodup_iff).mpr ?_
  exact rows.sublist (List.filter_sublist.map keyOf)

theorem lookup_insert_eq (table : Table Key Row) (written key : Key) (row : Row) :
    (table.insert written row).lookup key =
      if key = written then some row else table.lookup key := by
  by_cases same : key = written
  · subst same
    rw [if_pos rfl, lookup_insert]
  · rw [if_neg same, lookup_insert_ne same]

theorem lookup_erase_eq (table : Table Key Row) (erased key : Key) :
    (table.erase erased).lookup key = if key = erased then none else table.lookup key := by
  by_cases same : key = erased
  · subst same
    rw [if_pos rfl, lookup_erase]
  · rw [if_neg same, lookup_erase_ne same]

theorem mem_of_lookup (found : table.lookup key = some row) : key ∈ table := by
  rw [← lookup_isSome, found]
  rfl

theorem exists_lookup_of_mem (member : key ∈ table) : ∃ row, table.lookup key = some row :=
  Option.isSome_iff_exists.mp (lookup_isSome.mpr member)

end

end Table

end Relational
