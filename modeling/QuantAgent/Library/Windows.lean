/-
This file treats a list of time windows in which every window starts where the one before it
stops. Such a list is ordered, its windows meet only at their ends, and a time strictly
between the shared ends lies in exactly one of them. Nothing here names the repository.
-/

import Mathlib

namespace QuantAgent.Windows

variable {Window : Type*} (start stop : Window → Int)

def Chained (windows : List Window) : Prop :=
  windows.IsChain fun first second => start second = stop first

def Holds (window : Window) (time : Int) : Prop :=
  start window ≤ time ∧ time ≤ stop window

instance (window : Window) (time : Int) : Decidable (Holds start stop window time) :=
  inferInstanceAs (Decidable (_ ∧ _))

def holding (windows : List Window) (time : Int) : List Window :=
  windows.filter fun window => Holds start stop window time

variable {start stop}

variable {rest : List Window} {time : Int} {window : Window}

theorem holding_cons_of_holds (holds : Holds start stop window time) :
    holding start stop (window :: rest) time = window :: holding start stop rest time :=
  List.filter_cons_of_pos (decide_eq_true holds)

theorem holding_cons_of_not (outside : ¬ Holds start stop window time) :
    holding start stop (window :: rest) time = holding start stop rest time :=
  List.filter_cons_of_neg (by rwa [decide_eq_true_eq])

theorem holding_after {windows : List Window} (late : ∀ window ∈ windows, stop window < time) :
    holding start stop windows time = [] := by
  refine List.filter_eq_nil_iff.mpr fun other member => ?_
  rw [decide_eq_true_eq]
  exact fun holds => absurd holds.2 (not_le.mpr (late other member))

variable (proper : ∀ window, start window < stop window)

include proper

theorem Chained.stop_le_start (chained : Chained start stop (window :: rest)) :
    ∀ later ∈ rest, stop window ≤ start later := by
  induction rest generalizing window with
  | nil => exact fun later member => absurd member List.not_mem_nil
  | cons next rest inductionHypothesis =>
    obtain ⟨meets, tail⟩ := List.isChain_cons_cons.mp chained
    intro later member
    rcases List.mem_cons.mp member with rfl | deeper
    · exact meets.ge
    · have further := inductionHypothesis tail later deeper
      have width := proper next
      omega

theorem Chained.stop_lt_stop (chained : Chained start stop (window :: rest)) :
    ∀ later ∈ rest, stop window < stop later := fun later member =>
  (chained.stop_le_start proper later member).trans_lt (proper later)

theorem Chained.holding_before (chained : Chained start stop (window :: rest))
    (early : time < start window) : holding start stop (window :: rest) time = [] := by
  refine List.filter_eq_nil_iff.mpr fun other member => ?_
  have ordered : start window ≤ start other := by
    rcases List.mem_cons.mp member with rfl | later
    · exact le_rfl
    · exact (proper window).le.trans (chained.stop_le_start proper other later)
  rw [decide_eq_true_eq]
  exact fun holds => absurd holds.1 (not_le.mpr (early.trans_le ordered))

theorem Chained.holding_single (chained : Chained start stop (window :: rest))
    (started : start window ≤ time) (unfinished : ∃ other ∈ window :: rest, time ≤ stop other)
    (unshared : ∀ later ∈ rest, start later ≠ time) :
    ∃ holder ∈ window :: rest, holding start stop (window :: rest) time = [holder] := by
  induction rest generalizing window with
  | nil =>
    obtain ⟨other, member, unpassed⟩ := unfinished
    cases List.mem_singleton.mp member
    exact ⟨window, member, holding_cons_of_holds ⟨started, unpassed⟩⟩
  | cons next rest inductionHypothesis =>
    obtain ⟨meets, tail⟩ := List.isChain_cons_cons.mp chained
    by_cases within : time ≤ stop window
    · refine ⟨window, List.mem_cons_self, ?_⟩
      have beyond : time < start next := lt_of_le_of_ne (meets ▸ within)
        (Ne.symm (unshared next List.mem_cons_self))
      have none := Chained.holding_before proper tail beyond
      rw [holding_cons_of_holds ⟨started, within⟩, none]
    · have passed : ¬ Holds start stop window time := fun holds => within holds.2
      have reached : start next ≤ time := by omega
      obtain ⟨holder, member, single⟩ := inductionHypothesis tail reached
        (by
          obtain ⟨other, member, unpassed⟩ := unfinished
          rcases List.mem_cons.mp member with rfl | later
          · exact absurd unpassed within
          · exact ⟨other, later, unpassed⟩)
        fun later member => unshared later (List.mem_cons_of_mem _ member)
      refine ⟨holder, List.mem_cons_of_mem _ member, ?_⟩
      rw [holding_cons_of_not passed]
      exact single

end QuantAgent.Windows
