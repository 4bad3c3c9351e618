/-
This file treats lists of items that each fall due at a time: the stable sort by due time,
and how it goes together with keeping only the items due up to a moment.

Nothing here names the repository.
-/

import Mathlib

namespace QuantAgent.DueQueue

variable {Item : Type*} (due : Item → Int)

def sortByDue (items : List Item) : List Item :=
  items.insertionSort fun a b => due a ≤ due b

def InOrder (items : List Item) : Prop :=
  items.Pairwise fun a b => due a ≤ due b

variable {due}

theorem mem_sortByDue {items : List Item} {item : Item} :
    item ∈ sortByDue due items ↔ item ∈ items :=
  List.mem_insertionSort _

theorem sortByDue_perm (items : List Item) : (sortByDue due items).Perm items :=
  List.perm_insertionSort _ items

theorem sortByDue_inOrder (items : List Item) : InOrder due (sortByDue due items) := by
  have : Std.Total fun a b : Item => due a ≤ due b := ⟨fun a b => le_total (due a) (due b)⟩
  have : IsTrans Item fun a b => due a ≤ due b := ⟨fun _ _ _ => le_trans⟩
  exact List.pairwise_insertionSort _ items

theorem InOrder.head_le {head : Item} {tail : List Item} (ordered : InOrder due (head :: tail)) :
    ∀ item ∈ tail, due head ≤ due item :=
  (List.pairwise_cons.mp ordered).1

theorem InOrder.tail {head : Item} {tail : List Item} (ordered : InOrder due (head :: tail)) :
    InOrder due tail :=
  (List.pairwise_cons.mp ordered).2

theorem InOrder.forall_of_head {items : List Item} (ordered : InOrder due items)
    {holds : Int → Prop} (up : ∀ early late, early ≤ late → holds early → holds late)
    (head : ∀ item ∈ items.head?, holds (due item)) : ∀ item ∈ items, holds (due item) := by
  cases items with
  | nil => exact fun item member => nomatch member
  | cons first rest =>
    have start : holds (due first) := head first rfl
    intro item member
    rcases List.mem_cons.mp member with rfl | later
    · exact start
    · exact up _ _ (ordered.head_le item later) start

theorem filter_orderedInsert (keep : Item → Bool) (item : Item) {items : List Item}
    (ordered : InOrder due items) :
    (items.orderedInsert (fun a b => due a ≤ due b) item).filter keep =
      if keep item then (items.filter keep).orderedInsert (fun a b => due a ≤ due b) item
      else items.filter keep := by
  induction items with
  | nil =>
    rw [List.orderedInsert_nil, List.filter_cons]
    rfl
  | cons head tail inductionHypothesis =>
    have rest := inductionHypothesis ordered.tail
    by_cases before : due item ≤ due head
    · rw [List.orderedInsert_cons, if_pos before, List.filter_cons]
      by_cases kept : keep item = true
      · rw [if_pos kept, if_pos kept]
        -- every kept item is due no earlier than the old head
        cases remaining : (head :: tail).filter keep with
        | nil => rfl
        | cons next others =>
          have member : next ∈ head :: tail :=
            (List.mem_filter.mp (remaining ▸ List.mem_cons_self)).1
          have later : due item ≤ due next := by
            rcases List.mem_cons.mp member with rfl | inTail
            · exact before
            · exact le_trans before (ordered.head_le next inTail)
          rw [List.orderedInsert_cons, if_pos later]
      · rw [if_neg kept, if_neg kept]
    · rw [List.orderedInsert_cons, if_neg before, List.filter_cons, rest, List.filter_cons]
      by_cases keptHead : keep head = true
      · rw [if_pos keptHead, if_pos keptHead, List.orderedInsert_cons, if_neg before]
        by_cases kept : keep item = true
        · rw [if_pos kept, if_pos kept]
        · rw [if_neg kept, if_neg kept]
      · rw [if_neg keptHead, if_neg keptHead]

theorem filter_sortByDue (keep : Item → Bool) (items : List Item) :
    (sortByDue due items).filter keep = sortByDue due (items.filter keep) := by
  induction items with
  | nil => rfl
  | cons head tail inductionHypothesis =>
    have unfoldSort : sortByDue due (head :: tail) =
        (sortByDue due tail).orderedInsert (fun a b => due a ≤ due b) head :=
      List.insertionSort_cons _ head tail
    rw [unfoldSort, filter_orderedInsert keep head (sortByDue_inOrder tail), List.filter_cons,
      inductionHypothesis]
    by_cases kept : keep head = true
    · rw [if_pos kept, if_pos kept]
      exact (List.insertionSort_cons _ head _).symm
    · rw [if_neg kept, if_neg kept]

end QuantAgent.DueQueue
