/-
This file treats dictionaries with string keys, in which nothing depends on the order of the
entries, and their form as JSON objects: what is written of a dictionary is read back as the
dictionary, when each row is. Nothing here names the repository.
-/

import QuantAgent.Library.Json

namespace QuantAgent

abbrev Dict (Row : Type) := Finmap fun _ : String => Row

namespace Dict

variable {Row Fault : Type} {dict larger : Dict Row} {key other : String} {row : Row}
  {encode : Row → Json} {decode : Json → Except Fault Row}

/-- Every entry of the first is one of the second. -/
def Within (dict larger : Dict Row) : Prop :=
  ∀ key row, dict.lookup key = some row → larger.lookup key = some row

theorem Within.refl (dict : Dict Row) : dict.Within dict := fun _ _ found => found

theorem Within.trans {largest : Dict Row} (first : dict.Within larger)
    (second : larger.Within largest) : dict.Within largest :=
  fun key row found => second key row (first key row found)

theorem lookup_insert_eq_some {found : Row} :
    (dict.insert key row).lookup other = some found ↔
      other = key ∧ found = row ∨ other ≠ key ∧ dict.lookup other = some found := by
  by_cases same : other = key
  · subst same
    simp [eq_comm]
  · simp [Finmap.lookup_insert_of_ne dict same, same]

/-- What is stored under a fresh key, or again under its own, disturbs nothing. -/
theorem within_insert (fresh : ∀ old, dict.lookup key = some old → old = row) :
    dict.Within (dict.insert key row) := by
  intro other found lookup
  rw [lookup_insert_eq_some]
  by_cases same : other = key
  · subst same
    exact .inl ⟨rfl, fresh found lookup⟩
  · exact .inr ⟨same, lookup⟩

/-! ### As a JSON object -/

def toMembers (encode : Row → Json) (dict : Dict Row) : List (String × Json) :=
  dict.keys.sort.map fun key => (key, (dict.lookup key).elim .null encode)

def addMembers (decode : Json → Except Fault Row) :
    Dict Row → List (String × Json) → Except Fault (Dict Row)
  | dict, [] => .ok dict
  | dict, (key, value) :: members => do
    let row ← decode value
    addMembers decode (dict.insert key row) members

theorem canonical_toMembers (encode : Row → Json) (dict : Dict Row) :
    Json.sortMembers (Json.canonicalMembers (dict.toMembers encode)) =
      dict.keys.sort.map fun key => (key, ((dict.lookup key).elim .null encode).canonical) := by
  unfold toMembers
  rw [Json.canonicalMembers_eq_map, List.map_map]
  refine Json.sortMembers_of_sorted (List.pairwise_map.mpr ?_)
  exact dict.keys.pairwise_sort (· ≤ ·)

theorem addMembers_of_keys
    (reads : ∀ key row, dict.lookup key = some row → decode (encode row).canonical = .ok row) :
    ∀ (keys : List String), (∀ key ∈ keys, key ∈ dict) → ∀ start : Dict Row,
      ∃ result, addMembers decode start
          (keys.map fun key => (key, ((dict.lookup key).elim .null encode).canonical)) =
            .ok result ∧
        ∀ key, result.lookup key = if key ∈ keys then dict.lookup key else start.lookup key := by
  intro keys
  induction keys with
  | nil => exact fun _ start => ⟨start, rfl, fun key => by simp⟩
  | cons name keys inductionHypothesis =>
    intro within start
    obtain ⟨row, found⟩ := Finmap.mem_iff.mp (within name List.mem_cons_self)
    obtain ⟨result, adds, lookups⟩ := inductionHypothesis
      (fun key member => within key (List.mem_cons_of_mem name member)) (start.insert name row)
    refine ⟨result, ?_, fun key => ?_⟩
    · rw [List.map_cons, addMembers, found]
      show (decode (encode row).canonical >>= _) = _
      rw [reads name row found]
      exact adds
    · rw [lookups]
      by_cases own : key = name
      · subst own
        simp [found]
      · simp [own, Finmap.lookup_insert_of_ne start own]

theorem addMembers_toMembers
    (reads : ∀ key row, dict.lookup key = some row → decode (encode row).canonical = .ok row) :
    addMembers decode ∅ (Json.sortMembers (Json.canonicalMembers (dict.toMembers encode))) =
      .ok dict := by
  obtain ⟨result, adds, lookups⟩ := addMembers_of_keys reads dict.keys.sort
    (fun key member => Finmap.mem_keys.mp ((Finset.mem_sort _).mp member)) ∅
  rw [canonical_toMembers, adds]
  congr 1
  refine Finmap.ext_lookup fun key => ?_
  rw [lookups]
  split_ifs with member
  · rfl
  · rw [Finset.mem_sort, Finmap.mem_keys] at member
    rw [Finmap.lookup_eq_none.mpr member, Finmap.lookup_empty]

end Dict

end QuantAgent
