/-
This file treats a table whose rows are stored under pairwise distinct string keys: Mathlib's
association lists, with the rows as a list and an update of every row. Nothing here names the
repository.
-/

import Mathlib

namespace QuantAgent

/-- Rows under a primary key. -/
abbrev Table (Row : Type) := AList fun _ : String => Row

namespace Table

variable {Row Result : Type} {table : Table Row} {key other : String} {row : Row}

def rows (table : Table Row) : List Row := table.entries.map fun entry => entry.2

theorem mem_rows : row ∈ table.rows ↔ ∃ key, table.lookup key = some row := by
  unfold rows
  rw [List.mem_map]
  refine ⟨?_, fun ⟨key, found⟩ => ⟨⟨key, row⟩, AList.mem_lookup_iff.mp found, rfl⟩⟩
  rintro ⟨⟨key, stored⟩, member, rfl⟩
  exact ⟨key, AList.mem_lookup_iff.mpr member⟩

theorem mem_rows_of_lookup (found : table.lookup key = some row) : row ∈ table.rows :=
  mem_rows.mpr ⟨key, found⟩

theorem nodup_names {name : Row → String}
    (named : ∀ key row, table.lookup key = some row → name row = key) :
    (table.rows.map name).Nodup := by
  have keys : table.rows.map name = table.keys := by
    unfold rows
    rw [List.map_map]
    exact List.map_congr_left fun entry member =>
      named entry.1 entry.2 (AList.mem_lookup_iff.mpr member)
  rw [keys]
  exact table.nodupKeys

theorem filter_rows_eq_singleton {name : Row → String}
    (named : ∀ key row, table.lookup key = some row → name row = key) {query : Row → Bool}
    (found : table.lookup key = some row) (matching : query row = true)
    (only : ∀ other row, table.lookup other = some row → query row = true → other = key) :
    table.rows.filter query = [row] := by
  have nodup : (table.rows.filter query).Nodup :=
    (List.Nodup.of_map name (nodup_names named)).filter _
  have member : row ∈ table.rows.filter query :=
    List.mem_filter.mpr ⟨mem_rows_of_lookup found, matching⟩
  have same : ∀ other ∈ table.rows.filter query, other = row := by
    intro other kept
    obtain ⟨stored, satisfies⟩ := List.mem_filter.mp kept
    obtain ⟨place, lookup⟩ := mem_rows.mp stored
    rw [only place other lookup satisfies, found] at lookup
    exact (Option.some.inj lookup).symm
  have all := List.eq_replicate_of_mem same
  rw [all] at nodup member ⊢
  have length : (table.rows.filter query).length = 1 := by
    have atMost := List.nodup_replicate.mp nodup
    have atLeast := List.length_pos_of_mem member
    rw [List.length_replicate] at atLeast
    omega
  rw [length]
  rfl

def modify (table : Table Row) (key : String) (update : Row → Row) : Table Row :=
  match table.lookup key with
  | some row => table.insert key (update row)
  | none => table

theorem lookup_modify (update : Row → Row) :
    (table.modify key update).lookup other =
      if other = key then (table.lookup other).map update else table.lookup other := by
  unfold modify
  by_cases same : other = key
  · subst same
    rw [if_pos rfl]
    cases found : table.lookup other with
    | none => exact found
    | some row => exact AList.lookup_insert table
  · rw [if_neg same]
    cases table.lookup key with
    | none => rfl
    | some row => exact AList.lookup_insert_ne same

theorem lookup_modify_of_found {update : Row → Row} (found : table.lookup key = some row) :
    (table.modify key update).lookup other =
      if other = key then some (update row) else table.lookup other := by
  rw [lookup_modify]
  split
  · next same =>
    rw [same, found]
    rfl
  · rfl

theorem lookup_insert : (table.insert key row).lookup other =
    if other = key then some row else table.lookup other := by
  split
  · next same =>
    rw [same]
    exact AList.lookup_insert table
  · next different => exact AList.lookup_insert_ne different

theorem lookup_insert_eq_some {found : Row} :
    (table.insert key row).lookup other = some found ↔
      other = key ∧ found = row ∨ other ≠ key ∧ table.lookup other = some found := by
  by_cases same : other = key
  · subst same
    simp [eq_comm]
  · simp [AList.lookup_insert_ne same, same]

/-! ### One row replaced by another -/

/-- The second table is the first with another row under the key. -/
structure Replaced (table after : Table Row) (key : String) (row new : Row) : Prop where
  before : table.lookup key = some row
  self : after.lookup key = some new
  other : ∀ other, other ≠ key → after.lookup other = table.lookup other

theorem replaced_modify {update : Row → Row} (found : table.lookup key = some row) :
    Replaced table (table.modify key update) key row (update row) where
  before := found
  self := by rw [lookup_modify, if_pos rfl, found]; rfl
  other := fun other different => by rw [lookup_modify, if_neg different]

def total (weight : Row → ℕ) (table : Table Row) : ℕ :=
  ∑ key ∈ table.keys.toFinset, (table.lookup key).elim 0 weight

theorem mem_keys_iff_lookup : key ∈ table.keys.toFinset ↔ (table.lookup key).isSome := by
  rw [List.mem_toFinset, AList.lookup_isSome]
  exact AList.mem_keys

namespace Replaced

variable {after : Table Row} {new : Row} {weight : Row → ℕ}

theorem refl (found : table.lookup key = some row) : Replaced table table key row row :=
  ⟨found, found, fun _ _ => rfl⟩

section

variable (replaced : Replaced table after key row new)

include replaced

theorem lookup_eq_some {found : Row} (lookup : after.lookup other = some found) :
    other = key ∧ found = new ∨ other ≠ key ∧ table.lookup other = some found := by
  by_cases same : other = key
  · subst same
    exact .inl ⟨rfl, Option.some.inj (lookup.symm.trans replaced.self)⟩
  · exact .inr ⟨same, (replaced.other other same).symm.trans lookup⟩

theorem lookup_eq_none (lookup : after.lookup other = none) : table.lookup other = none := by
  have different : other ≠ key := fun same => by
    rw [same, replaced.self] at lookup
    cases lookup
  exact (replaced.other other different).symm.trans lookup

theorem keys_eq :
    after.keys.toFinset = table.keys.toFinset := by
  ext other
  rw [mem_keys_iff_lookup, mem_keys_iff_lookup]
  by_cases same : other = key
  · rw [same, replaced.self, replaced.before]
    rfl
  · rw [replaced.other other same]

theorem total_add :
    after.total weight + weight row = table.total weight + weight new := by
  have member : key ∈ table.keys.toFinset :=
    mem_keys_iff_lookup.mpr (by rw [replaced.before]; rfl)
  unfold total
  rw [replaced.keys_eq, ← Finset.add_sum_erase _ _ member, ← Finset.add_sum_erase _ _ member,
    replaced.self, replaced.before]
  have others : ∑ other ∈ table.keys.toFinset.erase key, (after.lookup other).elim 0 weight =
      ∑ other ∈ table.keys.toFinset.erase key, (table.lookup other).elim 0 weight :=
    Finset.sum_congr rfl fun other erased => by
      rw [replaced.other other (Finset.ne_of_mem_erase erased)]
  rw [others]
  show weight new + _ + weight row = weight row + _ + weight new
  omega

theorem total_le (smaller : weight new ≤ weight row) :
    after.total weight ≤ table.total weight := by
  have sum : after.total weight + weight row = table.total weight + weight new :=
    replaced.total_add
  omega

theorem total_lt (smaller : weight new < weight row) :
    after.total weight < table.total weight := by
  have sum : after.total weight + weight row = table.total weight + weight new :=
    replaced.total_add
  omega

end

end Replaced

end Table

end QuantAgent
