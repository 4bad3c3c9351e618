/-
This file orders lists by keys and takes the least and the last of them. Where the keys tell the
items apart, neither the order nor the least item depends on the order in which the items come,
and a fallible map of a permuted list gives a permuted result. Nothing here names the repository.
-/

import Mathlib.Data.List.Sort
import Mathlib.Data.List.Perm.Basic

namespace Ranking

/-! ### Ordered lists -/

section

variable {Item Rank : Type} [LinearOrder Rank] {key : Item → Rank} {items others : List Item}

def Before (key : Item → Rank) (first second : Item) : Prop := key first ≤ key second

instance (key : Item → Rank) : DecidableRel (Before key) := fun first second =>
  inferInstanceAs (Decidable (key first ≤ key second))

instance (key : Item → Rank) : Std.Total (Before key) :=
  ⟨fun first second => le_total (key first) (key second)⟩

instance (key : Item → Rank) : IsTrans Item (Before key) :=
  ⟨fun _ _ _ => le_trans⟩

def sortedBy (key : Item → Rank) (items : List Item) : List Item :=
  items.insertionSort (Before key)

def Apart (key : Item → Rank) (items : List Item) : Prop :=
  ∀ first ∈ items, ∀ second ∈ items, key first = key second → first = second

theorem sortedBy_perm (key : Item → Rank) (items : List Item) : (sortedBy key items).Perm items :=
  List.perm_insertionSort _ items

theorem sortedBy_pairwise (key : Item → Rank) (items : List Item) :
    (sortedBy key items).Pairwise (Before key) :=
  List.pairwise_insertionSort _ items

theorem sortedBy_eq_of_perm (apart : Apart key items) (same : items.Perm others) :
    sortedBy key items = sortedBy key others := by
  have ordered : (sortedBy key items).Perm (sortedBy key others) :=
    ((sortedBy_perm key items).trans same).trans (sortedBy_perm key others).symm
  refine List.Perm.eq_of_pairwise ?_ (sortedBy_pairwise key items) (sortedBy_pairwise key others)
    ordered
  intro first second inFirst inSecond below above
  exact apart first ((sortedBy_perm key items).mem_iff.mp inFirst) second
    (same.mem_iff.mpr ((sortedBy_perm key others).mem_iff.mp inSecond)) (le_antisymm below above)

/-! ### The least item -/

def leastBy (key : Item → Rank) (items : List Item) : Option Item := (sortedBy key items).head?

variable {least : Item}

theorem leastBy_mem (found : leastBy key items = some least) : least ∈ items :=
  (sortedBy_perm key items).mem_iff.mp (List.mem_of_head? found)

theorem leastBy_eq_of_perm (apart : Apart key items) (same : items.Perm others) :
    leastBy key items = leastBy key others :=
  congrArg List.head? (sortedBy_eq_of_perm apart same)

/-! ### The last item -/

def laterBy (key : Item → Rank) : Option Item → Option Item → Option Item
  | none, second => second
  | some first, none => some first
  | some first, some second => if key first ≤ key second then some second else some first

def lastBy (key : Item → Rank) : List Item → Option Item
  | [] => none
  | first :: rest => laterBy key (some first) (lastBy key rest)

theorem laterBy_none (key : Item → Rank) (first : Option Item) :
    laterBy key first none = first := by
  cases first <;> rfl

theorem laterBy_assoc (key : Item → Rank) (first second third : Option Item) :
    laterBy key (laterBy key first second) third =
      laterBy key first (laterBy key second third) := by
  cases first with
  | none => rfl
  | some first =>
    cases second with
    | none => rfl
    | some second =>
      cases third with
      | none => rw [laterBy_none, laterBy_none]
      | some third =>
        unfold laterBy
        grind

theorem lastBy_mem {last : Item} (found : lastBy key items = some last) : last ∈ items := by
  induction items generalizing last with
  | nil => cases found
  | cons item rest inductionHypothesis =>
    rw [lastBy] at found
    cases later : lastBy key rest with
    | none =>
      rw [later] at found
      cases found
      exact List.mem_cons_self
    | some other =>
      rw [later] at found
      unfold laterBy at found
      dsimp only at found
      split_ifs at found
      · cases found
        exact List.mem_cons_of_mem _ (inductionHypothesis later)
      · cases found
        exact List.mem_cons_self

theorem lastBy_append (key : Item → Rank) (items others : List Item) :
    lastBy key (items ++ others) = laterBy key (lastBy key items) (lastBy key others) := by
  induction items with
  | nil => rfl
  | cons item rest inductionHypothesis =>
    rw [List.cons_append, lastBy, inductionHypothesis, lastBy, laterBy_assoc]

theorem lastBy_map {Other : Type} (change : Other → Item) (items : List Other) :
    lastBy key (items.map change) = (lastBy (key ∘ change) items).map change := by
  induction items with
  | nil => rfl
  | cons item rest inductionHypothesis =>
    rw [List.map_cons, lastBy, inductionHypothesis, lastBy]
    cases lastBy (key ∘ change) rest with
    | none => rfl
    | some last =>
      unfold laterBy
      dsimp only [Option.map_some, Function.comp_apply]
      split_ifs <;> rfl

theorem lastBy_congr {Other : Type} [LinearOrder Other] {otherKey : Item → Other}
    (alike : ∀ first second, key first ≤ key second ↔ otherKey first ≤ otherKey second)
    (items : List Item) : lastBy key items = lastBy otherKey items := by
  induction items with
  | nil => rfl
  | cons item rest inductionHypothesis =>
    rw [lastBy, lastBy, inductionHypothesis]
    cases lastBy otherKey rest with
    | none => rfl
    | some last =>
      unfold laterBy
      simp only [alike]

theorem getLast?_orderedInsert (item : Item) (ordered : items.Pairwise (Before key)) :
    (items.orderedInsert (Before key) item).getLast? =
      laterBy key (some item) items.getLast? := by
  induction items with
  | nil => rfl
  | cons first rest inductionHypothesis =>
    obtain ⟨before, orderedRest⟩ := List.pairwise_cons.mp ordered
    rw [List.orderedInsert_cons]
    split_ifs with below
    · rw [List.getLast?_cons_cons]
      cases last : (first :: rest).getLast? with
      | none => cases (List.getLast?_eq_none_iff.mp last)
      | some final =>
        refine (if_pos ?_).symm
        rcases List.mem_cons.mp (List.mem_of_getLast? last) with rfl | later
        · exact below
        · exact le_trans below (before final later)
    · rw [List.getLast?_cons, inductionHypothesis orderedRest, List.getLast?_cons]
      cases last : rest.getLast? with
      | none => exact (if_neg below).symm
      | some final =>
        unfold laterBy
        dsimp only [Option.getD_some]
        split_ifs <;> rfl

theorem getLast?_sortedBy (key : Item → Rank) (items : List Item) :
    (sortedBy key items).getLast? = lastBy key items := by
  induction items with
  | nil => rfl
  | cons item rest inductionHypothesis =>
    rw [lastBy, ← inductionHypothesis]
    exact getLast?_orderedInsert item (sortedBy_pairwise key rest)

theorem filter_orderedInsert (keep : Item → Bool) (item : Item)
    (ordered : items.Pairwise (Before key)) :
    (items.orderedInsert (Before key) item).filter keep =
      if keep item then (items.filter keep).orderedInsert (Before key) item
      else items.filter keep := by
  induction items with
  | nil => cases kept : keep item <;> simp [kept]
  | cons first rest inductionHypothesis =>
    obtain ⟨before, orderedRest⟩ := List.pairwise_cons.mp ordered
    rw [List.orderedInsert_cons]
    split_ifs with below kept kept
    · -- Everything kept of the list is at or above the item.
      rw [List.filter_cons_of_pos kept]
      cases others : (first :: rest).filter keep with
      | nil => rfl
      | cons final later =>
        have held : final ∈ first :: rest :=
          List.mem_of_mem_filter (others ▸ List.mem_cons_self)
        have above : Before key item final := by
          rcases List.mem_cons.mp held with rfl | member
          · exact below
          · exact le_trans below (before final member)
        rw [List.orderedInsert_cons, if_pos above]
    · rw [List.filter_cons_of_neg (by simpa using kept)]
    · cases keptFirst : keep first with
      | false =>
        rw [List.filter_cons_of_neg (by simp [keptFirst]),
          List.filter_cons_of_neg (by simp [keptFirst]), inductionHypothesis orderedRest,
          if_pos kept]
      | true =>
        rw [List.filter_cons_of_pos keptFirst, List.filter_cons_of_pos keptFirst,
          inductionHypothesis orderedRest, if_pos kept, List.orderedInsert_cons, if_neg below]
    · cases keptFirst : keep first with
      | false =>
        rw [List.filter_cons_of_neg (by simp [keptFirst]),
          List.filter_cons_of_neg (by simp [keptFirst]), inductionHypothesis orderedRest,
          if_neg kept]
      | true =>
        rw [List.filter_cons_of_pos keptFirst, List.filter_cons_of_pos keptFirst,
          inductionHypothesis orderedRest, if_neg kept]

theorem filter_sortedBy (key : Item → Rank) (keep : Item → Bool) (items : List Item) :
    (sortedBy key items).filter keep = sortedBy key (items.filter keep) := by
  induction items with
  | nil => rfl
  | cons item rest inductionHypothesis =>
    have inserted := filter_orderedInsert keep item (sortedBy_pairwise key rest)
    rw [inductionHypothesis] at inserted
    refine inserted.trans ?_
    split_ifs with kept
    · rw [List.filter_cons_of_pos kept]
      rfl
    · rw [List.filter_cons_of_neg kept]

end

/-! ### Fallible maps -/

section

variable {Item Value Fault : Type} {call : Item → Except Fault Value} {items others : List Item}
  {values : List Value}

theorem mapM_eq_ok_iff :
    items.mapM call = .ok values ↔
      List.Forall₂ (fun item value => call item = .ok value) items values := by
  induction items generalizing values with
  | nil =>
    rw [List.mapM_nil, List.forall₂_nil_left_iff]
    exact ⟨fun done => (Except.ok.inj done).symm, fun empty => congrArg Except.ok empty.symm⟩
  | cons item rest inductionHypothesis =>
    rw [List.mapM_cons, List.forall₂_cons_left_iff]
    constructor
    · intro done
      cases own : call item with
      | error fault => rw [own] at done; cases done
      | ok value =>
        cases others : rest.mapM call with
        | error fault => rw [own, others] at done; cases done
        | ok found =>
          rw [own, others] at done
          cases done
          exact ⟨value, found, rfl, inductionHypothesis.mp others, rfl⟩
    · rintro ⟨value, found, own, others, rfl⟩
      rw [own, inductionHypothesis.mpr others]
      rfl

theorem exists_of_mem_mapM {value : Value} (done : items.mapM call = .ok values)
    (member : value ∈ values) : ∃ item ∈ items, call item = .ok value := by
  have each := mapM_eq_ok_iff.mp done
  obtain ⟨index, inside, rfl⟩ := List.getElem_of_mem member
  have held : index < items.length := each.length_eq ▸ inside
  exact ⟨items[index], List.getElem_mem held, each.get held inside⟩

theorem mapM_eq_map {value : Item → Value} (each : ∀ item ∈ items, call item = .ok (value item)) :
    items.mapM call = .ok (items.map value) := by
  rw [mapM_eq_ok_iff, List.forall₂_map_right_iff, List.forall₂_same]
  exact each

theorem mapM_succeeds (each : ∀ item ∈ items, ∃ value, call item = .ok value) :
    ∃ values, items.mapM call = .ok values := by
  simp only [mapM_eq_ok_iff]
  induction items with
  | nil => exact ⟨[], .nil⟩
  | cons item rest inductionHypothesis =>
    obtain ⟨value, own⟩ := each item List.mem_cons_self
    obtain ⟨values, others⟩ := inductionHypothesis fun other member =>
      each other (List.mem_cons_of_mem _ member)
    exact ⟨value :: values, .cons own others⟩

theorem getLast?_of_mapM {item : Item} (done : items.mapM call = .ok values)
    (last : items.getLast? = some item) :
    ∃ value, values.getLast? = some value ∧ call item = .ok value := by
  have each := mapM_eq_ok_iff.mp done
  rw [List.getLast?_eq_getElem?] at last
  obtain ⟨inside, rfl⟩ := List.getElem?_eq_some_iff.mp last
  have held : items.length - 1 < values.length := each.length_eq ▸ inside
  refine ⟨values[items.length - 1], ?_, each.get inside held⟩
  rw [List.getLast?_eq_getElem?, ← each.length_eq]
  exact List.getElem?_eq_getElem held

theorem mapM_eq_ok_iff_of {able : Item → Prop} {value : Item → Value}
    (spec : ∀ item found, call item = .ok found ↔ able item ∧ found = value item) :
    items.mapM call = .ok values ↔ (∀ item ∈ items, able item) ∧ values = items.map value := by
  rw [mapM_eq_ok_iff]
  simp only [spec]
  constructor
  · intro each
    refine ⟨?_, ?_⟩
    · intro item member
      obtain ⟨index, inside, rfl⟩ := List.getElem_of_mem member
      exact (each.get inside (each.length_eq ▸ inside)).1
    · rw [← List.forall₂_eq_eq_eq, List.forall₂_map_right_iff]
      exact (each.imp fun _ _ found => found.2).flip
  · rintro ⟨all, rfl⟩
    rw [List.forall₂_map_right_iff, List.forall₂_same]
    exact fun item member => ⟨all item member, rfl⟩

theorem mapM_perm (same : items.Perm others) (done : items.mapM call = .ok values) :
    ∃ found, others.mapM call = .ok found ∧ values.Perm found := by
  obtain ⟨found, each, permuted⟩ :=
    List.perm_comp_forall₂ same.symm (mapM_eq_ok_iff.mp done)
  exact ⟨found, mapM_eq_ok_iff.mpr each, permuted.symm⟩

end

end Ranking
