/-
This file treats JSON values: their canonical form, in which the members of every object stand in
the order of their keys, and what is read back from it. Nothing here names the repository.

Two values with one canonical form differ only in the order of members, so a value stands for its
canonical text, and reading a canonical text gives the canonical form.
-/

import Mathlib

namespace QuantAgent

/-- A number with a fraction or an exponent. -/
inductive Double where
  | finite (value : ℚ)
  | infinite (negative : Bool)
  | notANumber
  deriving DecidableEq

namespace Double

/-- The order of numbers; nothing is less than what is not a number. -/
def Less : Double → Double → Prop
  | finite value, finite other => value < other
  | finite _, infinite negative => negative = false
  | infinite negative, finite _ => negative = true
  | infinite negative, infinite other => negative = true ∧ other = false
  | _, _ => False

instance : DecidableRel Less
  | finite value, finite other => inferInstanceAs (Decidable (value < other))
  | finite _, infinite negative => inferInstanceAs (Decidable (negative = false))
  | infinite negative, finite _ => inferInstanceAs (Decidable (negative = true))
  | infinite negative, infinite other =>
    inferInstanceAs (Decidable (negative = true ∧ other = false))
  | notANumber, _ => .isFalse id
  | finite _, notANumber => .isFalse id
  | infinite _, notANumber => .isFalse id

def isFinite : Double → Bool
  | finite _ => true
  | _ => false

end Double

inductive Json where
  | null
  | bool (value : Bool)
  | int (value : ℤ)
  | float (value : Double)
  | str (value : String)
  | arr (items : List Json)
  | obj (members : List (String × Json))

namespace Json

/-! ### Equality -/

mutual

def decEq : (value other : Json) → Decidable (value = other)
  | null, null => .isTrue rfl
  | bool value, bool other =>
    decidable_of_iff (value = other) (by simp)
  | int value, int other => decidable_of_iff (value = other) (by simp)
  | float value, float other => decidable_of_iff (value = other) (by simp)
  | str value, str other => decidable_of_iff (value = other) (by simp)
  | arr items, arr others =>
    have := decEqItems items others
    decidable_of_iff (items = others) (by simp)
  | obj members, obj others =>
    have := decEqMembers members others
    decidable_of_iff (members = others) (by simp)
  | null, bool _ | null, int _ | null, float _ | null, str _ | null, arr _ | null, obj _
  | bool _, null | bool _, int _ | bool _, float _ | bool _, str _ | bool _, arr _
  | bool _, obj _ | int _, null | int _, bool _ | int _, float _ | int _, str _ | int _, arr _
  | int _, obj _ | float _, null | float _, bool _ | float _, int _ | float _, str _
  | float _, arr _ | float _, obj _ | str _, null | str _, bool _ | str _, int _
  | str _, float _ | str _, arr _ | str _, obj _ | arr _, null | arr _, bool _ | arr _, int _
  | arr _, float _ | arr _, str _ | arr _, obj _ | obj _, null | obj _, bool _ | obj _, int _
  | obj _, float _ | obj _, str _ | obj _, arr _ => .isFalse nofun

def decEqItems : (items others : List Json) → Decidable (items = others)
  | [], [] => .isTrue rfl
  | [], _ :: _ => .isFalse nofun
  | _ :: _, [] => .isFalse nofun
  | item :: items, other :: others =>
    have := decEq item other
    have := decEqItems items others
    decidable_of_iff (item = other ∧ items = others) (by simp)

def decEqMembers : (members others : List (String × Json)) → Decidable (members = others)
  | [], [] => .isTrue rfl
  | [], _ :: _ => .isFalse nofun
  | _ :: _, [] => .isFalse nofun
  | (key, value) :: members, (other, found) :: others =>
    have := decEq value found
    have := decEqMembers members others
    decidable_of_iff (key = other ∧ value = found ∧ members = others) (by simp [and_assoc])

end

instance : DecidableEq Json := decEq

/-- Whether a test for truth takes the value. -/
def truthy : Json → Bool
  | null => false
  | bool value => value
  | int value => value ≠ 0
  | float value => value ≠ .finite 0
  | str text => text ≠ ""
  | arr items => ! items.isEmpty
  | obj members => ! members.isEmpty

/-! ### The canonical form -/

/-- The members in the order of their keys. -/
def sortMembers (members : List (String × Json)) : List (String × Json) :=
  members.insertionSort fun member other => member.1 ≤ other.1

mutual

def canonical : Json → Json
  | arr items => arr (canonicalItems items)
  | obj members => obj (sortMembers (canonicalMembers members))
  | null => null
  | bool value => bool value
  | int value => int value
  | float value => float value
  | str value => str value

def canonicalItems : List Json → List Json
  | [] => []
  | item :: items => canonical item :: canonicalItems items

def canonicalMembers : List (String × Json) → List (String × Json)
  | [] => []
  | (key, value) :: members => (key, canonical value) :: canonicalMembers members

end

mutual

/-- No number of the value is infinite or not a number. -/
def isFinite : Json → Bool
  | float value => value.isFinite
  | arr items => isFiniteItems items
  | obj members => isFiniteMembers members
  | null => true
  | bool _ => true
  | int _ => true
  | str _ => true

def isFiniteItems : List Json → Bool
  | [] => true
  | item :: items => isFinite item && isFiniteItems items

def isFiniteMembers : List (String × Json) → Bool
  | [] => true
  | (_, value) :: members => isFinite value && isFiniteMembers members

end

theorem canonicalItems_eq_map (items : List Json) : canonicalItems items = items.map canonical := by
  induction items with
  | nil => rfl
  | cons item items inductionHypothesis =>
    exact congrArg (canonical item :: ·) inductionHypothesis

variable (members : List (String × Json))

theorem canonicalMembers_eq_map :
    canonicalMembers members = members.map fun member => (member.1, canonical member.2) := by
  induction members with
  | nil => rfl
  | cons member members inductionHypothesis =>
    exact congrArg ((member.1, canonical member.2) :: ·) inductionHypothesis

theorem keys_canonicalMembers :
    (canonicalMembers members).map Prod.fst = members.map Prod.fst := by
  rw [canonicalMembers_eq_map, List.map_map]
  rfl

theorem sortMembers_perm : (sortMembers members).Perm members :=
  List.perm_insertionSort _ members

theorem sortMembers_sorted :
    (sortMembers members).Pairwise fun member other => member.1 ≤ other.1 :=
  have : Std.Total fun member other : String × Json => member.1 ≤ other.1 :=
    ⟨fun member other => le_total member.1 other.1⟩
  have : IsTrans (String × Json) fun member other => member.1 ≤ other.1 :=
    ⟨fun _ _ _ first second => le_trans first second⟩
  List.pairwise_insertionSort _ members

variable {members}

theorem sortMembers_of_sorted (sorted : members.Pairwise fun member other => member.1 ≤ other.1) :
    sortMembers members = members :=
  sorted.insertionSort_eq

theorem canonicalMembers_of_forall (each : ∀ member ∈ members, canonical member.2 = member.2) :
    canonicalMembers members = members := by
  rw [canonicalMembers_eq_map]
  conv_rhs => rw [← List.map_id members]
  exact List.map_congr_left fun member own => Prod.ext rfl (each member own)

mutual

theorem canonical_canonical : ∀ value : Json, canonical (canonical value) = canonical value
  | arr items => congrArg arr (canonicalItems_canonicalItems items)
  | obj members => by
    have each : ∀ member ∈ sortMembers (canonicalMembers members),
        canonical member.2 = member.2 := fun member own =>
      canonical_of_mem_canonicalMembers members member ((sortMembers_perm _).mem_iff.mp own)
    show obj (sortMembers (canonicalMembers (sortMembers (canonicalMembers members)))) = _
    rw [canonicalMembers_of_forall each, sortMembers_of_sorted (sortMembers_sorted _)]
    rfl
  | null => rfl
  | bool _ => rfl
  | int _ => rfl
  | float _ => rfl
  | str _ => rfl

theorem canonicalItems_canonicalItems : ∀ items : List Json,
    canonicalItems (canonicalItems items) = canonicalItems items
  | [] => rfl
  | item :: items =>
    congrArg₂ List.cons (canonical_canonical item) (canonicalItems_canonicalItems items)

theorem canonical_of_mem_canonicalMembers : ∀ (members : List (String × Json)),
    ∀ member ∈ canonicalMembers members, canonical member.2 = member.2
  | [] => nofun
  | (key, value) :: members => fun member own => by
    obtain rfl | rest := List.mem_cons.mp own
    · exact canonical_canonical value
    · exact canonical_of_mem_canonicalMembers members member rest

end

/-! ### What is read back -/

theorem lookup_cons_of_ne {key name : String} {value : Json} (other : key ≠ name) :
    ((name, value) :: members).lookup key = members.lookup key := by
  rw [List.lookup_cons, beq_false_of_ne other]

theorem lookup_eq_some_iff {key : String} {value : Json} (distinct : (members.map Prod.fst).Nodup) :
    members.lookup key = some value ↔ (key, value) ∈ members := by
  induction members with
  | nil => simp
  | cons member members inductionHypothesis =>
    obtain ⟨name, held⟩ := member
    obtain ⟨fresh, distinct⟩ := List.nodup_cons.mp distinct
    rw [List.lookup_cons]
    by_cases same : key = name
    · subst same
      have absent : (key, value) ∉ members := fun own =>
        fresh (List.mem_map.mpr ⟨(key, value), own, rfl⟩)
      simp [absent, eq_comm]
    · rw [beq_false_of_ne same]
      simp [same, inductionHypothesis distinct]

theorem lookup_of_perm {members others : List (String × Json)} {key : String}
    (perm : members.Perm others) (distinct : (others.map Prod.fst).Nodup) :
    members.lookup key = others.lookup key := by
  ext value
  rw [lookup_eq_some_iff ((perm.map Prod.fst).nodup_iff.mpr distinct),
    lookup_eq_some_iff distinct, perm.mem_iff]

theorem lookup_canonicalMembers (members : List (String × Json)) (key : String) :
    (canonicalMembers members).lookup key = (members.lookup key).map canonical := by
  induction members with
  | nil => rfl
  | cons member members inductionHypothesis =>
    obtain ⟨name, held⟩ := member
    rw [canonicalMembers, List.lookup_cons, List.lookup_cons, inductionHypothesis]
    split <;> rfl

theorem lookup_orderedInsert (member : String × Json) (members : List (String × Json))
    (key : String) :
    (members.orderedInsert (fun member other => member.1 ≤ other.1) member).lookup key =
      (member :: members).lookup key := by
  induction members with
  | nil => rfl
  | cons first members inductionHypothesis =>
    rw [List.orderedInsert_cons]
    split
    · rfl
    · next behind =>
      obtain ⟨name, held⟩ := member
      obtain ⟨other, value⟩ := first
      rw [List.lookup_cons, inductionHypothesis]
      by_cases same : key = other
      · subst same
        have distinct : key ≠ name := fun same => behind (same ▸ le_rfl)
        simp [lookup_cons_of_ne distinct]
      · simp [List.lookup_cons, beq_false_of_ne same]

theorem lookup_sortMembers (members : List (String × Json)) (key : String) :
    (sortMembers members).lookup key = members.lookup key := by
  induction members with
  | nil => rfl
  | cons member members inductionHypothesis =>
    have inserted := lookup_orderedInsert member (sortMembers members) key
    rw [List.lookup_cons, inductionHypothesis, ← List.lookup_cons] at inserted
    exact inserted

theorem lookup_canonical (key : String) (distinct : (members.map Prod.fst).Nodup) :
    (sortMembers (canonicalMembers members)).lookup key = (members.lookup key).map canonical := by
  rw [← lookup_canonicalMembers]
  exact lookup_of_perm (sortMembers_perm _) (by rwa [keys_canonicalMembers])

theorem keys_canonical (members : List (String × Json)) :
    ((sortMembers (canonicalMembers members)).map Prod.fst).Perm (members.map Prod.fst) :=
  ((sortMembers_perm _).map Prod.fst).trans (by rw [keys_canonicalMembers])

/-! ### Finite numbers -/

theorem isFiniteMembers_eq_all (members : List (String × Json)) :
    isFiniteMembers members = members.all fun member => isFinite member.2 := by
  induction members with
  | nil => rfl
  | cons member members inductionHypothesis =>
    rw [List.all_cons, ← inductionHypothesis]
    rfl

mutual

theorem isFinite_canonical : ∀ value : Json, isFinite (canonical value) = isFinite value
  | arr items => isFiniteItems_canonicalItems items
  | obj members => by
    show isFiniteMembers (sortMembers (canonicalMembers members)) = isFiniteMembers members
    rw [isFiniteMembers_eq_all, (sortMembers_perm _).all_eq, ← isFiniteMembers_eq_all]
    exact isFiniteMembers_canonicalMembers members
  | null => rfl
  | bool _ => rfl
  | int _ => rfl
  | float _ => rfl
  | str _ => rfl

theorem isFiniteItems_canonicalItems : ∀ items : List Json,
    isFiniteItems (canonicalItems items) = isFiniteItems items
  | [] => rfl
  | item :: items =>
    congrArg₂ and (isFinite_canonical item) (isFiniteItems_canonicalItems items)

theorem isFiniteMembers_canonicalMembers : ∀ members : List (String × Json),
    isFiniteMembers (canonicalMembers members) = isFiniteMembers members
  | [] => rfl
  | (_, value) :: members =>
    congrArg₂ and (isFinite_canonical value) (isFiniteMembers_canonicalMembers members)

end

end Json

end QuantAgent
