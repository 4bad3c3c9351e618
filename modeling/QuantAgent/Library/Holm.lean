/-
This file treats the step-down procedure of Holm over finitely many hypotheses. The adjusted values,
running maxima capped at one, are at most a level below one exactly for the hypotheses that the
procedure rejects at it, and they never rise when a raw value falls: both are read off the products
of a threshold and the number of raw values that reach it. Nothing here names the repository.
-/

import Mathlib.Data.Finset.Max
import QuantAgent.Library.Ranking
import Mathlib.Algebra.Order.Field.Basic
import Mathlib.Data.Prod.Lex
import Mathlib.Tactic.Linarith

namespace Holm

open Ranking

section

variable {Name K : Type} [Field K] [LinearOrder K]

def adjusted : ℕ → K → List (Name × K) → List (Name × K)
  | _, _, [] => []
  | remaining, running, (name, value) :: rest =>
    (name, min 1 (max running (remaining * value))) ::
      adjusted (remaining - 1) (max running (remaining * value)) rest

/-- The rejected hypotheses of some in the order of their values, down to the first that is above
the level divided by the number of those that remain. -/
def stepDown (alpha : K) : List (Name × K) → List Name
  | [] => []
  | (name, value) :: rest =>
    if value ≤ alpha / (rest.length + 1) then name :: stepDown alpha rest else []

/-- By the value, and by the name among equal values. -/
def rank (item : Name × K) : K ×ₗ Name := toLex (item.2, item.1)

variable [LinearOrder Name]

/-- The adjusted values of some hypotheses. -/
def holm (items : List (Name × K)) : List (Name × K) :=
  adjusted items.length 0 (sortedBy rank items)

/-- The hypotheses that are rejected at a level. -/
def rejected (alpha : K) (items : List (Name × K)) : List Name :=
  stepDown alpha (sortedBy rank items)

def reaching (items : List (Name × K)) (threshold : K) : ℕ :=
  items.countP fun item => threshold ≤ item.2

end

section

variable {Name K : Type} [Field K] [LinearOrder K] {items others : List (Name × K)}
  {name : Name} {value running alpha : K} {remaining : ℕ}

theorem adjusted_names (remaining : ℕ) (running : K) (items : List (Name × K)) :
    (adjusted remaining running items).map Prod.fst = items.map Prod.fst := by
  induction items generalizing remaining running with
  | nil => rfl
  | cons item rest inductionHypothesis =>
    unfold adjusted
    rw [List.map_cons, List.map_cons, inductionHypothesis]

/-- The values are no lower than the greatest so far, or the cap. -/
theorem lt_of_mem_adjusted (capped : alpha < 1) (above : alpha < running)
    (member : (name, value) ∈ adjusted remaining running items) : alpha < value := by
  induction items generalizing remaining running with
  | nil => cases member
  | cons item rest inductionHypothesis =>
    unfold adjusted at member
    have higher : alpha < max running (remaining * item.2) := lt_max_of_lt_left above
    rcases List.mem_cons.mp member with head | tail
    · obtain ⟨-, rfl⟩ := Prod.mk.inj head
      exact lt_min capped higher
    · exact inductionHypothesis higher tail

theorem le_one_of_mem_adjusted (member : (name, value) ∈ adjusted remaining running items) :
    value ≤ 1 := by
  induction items generalizing remaining running with
  | nil => cases member
  | cons item rest inductionHypothesis =>
    rcases List.mem_cons.mp member with head | tail
    · obtain ⟨-, rfl⟩ := Prod.mk.inj head
      exact min_le_left _ _
    · exact inductionHypothesis tail

variable [IsStrictOrderedRing K]

theorem le_div_remaining_iff (value alpha : K) (rest : List (Name × K)) :
    value ≤ alpha / (rest.length + 1) ↔ ((rest.length + 1 : ℕ) : K) * value ≤ alpha := by
  have positive : (0 : K) < rest.length + 1 := by positivity
  rw [le_div_iff₀ positive, Nat.cast_add_one, mul_comm]

theorem mem_stepDown_iff (capped : alpha < 1) (below : running ≤ alpha) (name : Name) :
    name ∈ stepDown alpha items ↔
      ∃ value, (name, value) ∈ adjusted items.length running items ∧ value ≤ alpha := by
  induction items generalizing running with
  | nil =>
    exact ⟨fun member => absurd member List.not_mem_nil, fun ⟨_, member, _⟩ => nomatch member⟩
  | cons item rest inductionHypothesis =>
    unfold stepDown adjusted
    rw [List.length_cons]
    split_ifs with rejects
    · rw [le_div_remaining_iff] at rejects
      have lower : max running ((rest.length + 1 : ℕ) * item.2) ≤ alpha := max_le below rejects
      rw [List.mem_cons, inductionHypothesis lower]
      constructor
      · rintro (rfl | ⟨value, member, small⟩)
        · exact ⟨_, List.mem_cons_self, (min_le_right _ _).trans lower⟩
        · exact ⟨value, List.mem_cons_of_mem _ member, small⟩
      · rintro ⟨value, member, small⟩
        rcases List.mem_cons.mp member with head | tail
        · exact .inl (Prod.ext_iff.mp head).1
        · exact .inr ⟨value, tail, small⟩
    · rw [le_div_remaining_iff, not_le] at rejects
      have higher : alpha < max running ((rest.length + 1 : ℕ) * item.2) :=
        lt_max_of_lt_right rejects
      refine ⟨fun member => absurd member List.not_mem_nil, ?_⟩
      rintro ⟨value, member, small⟩
      rcases List.mem_cons.mp member with head | tail
      · obtain ⟨-, rfl⟩ := Prod.mk.inj head
        exact absurd small (not_le.mpr (lt_min capped higher))
      · exact absurd small (not_le.mpr (lt_of_mem_adjusted capped higher tail))

/-! ### The rejected hypotheses by thresholds -/

omit [Field K] [IsStrictOrderedRing K] in
theorem reaching_eq_length {threshold : K} (all : ∀ item ∈ items, threshold ≤ item.2) :
    reaching items threshold = items.length :=
  List.countP_eq_length.mpr fun item member => decide_eq_true (all item member)

theorem mem_stepDown_iff_reaching (ordered : items.Pairwise fun first second => first.2 ≤ second.2)
    (distinct : (items.map Prod.fst).Nodup) (nonneg : ∀ item ∈ items, 0 ≤ item.2)
    (member : (name, value) ∈ items) :
    name ∈ stepDown alpha items ↔
      ∀ threshold, 0 ≤ threshold → threshold ≤ value →
        (reaching items threshold : K) * threshold ≤ alpha := by
  induction items with
  | nil => cases member
  | cons item rest inductionHypothesis =>
    obtain ⟨least, orderedRest⟩ := List.pairwise_cons.mp ordered
    obtain ⟨fresh, distinctRest⟩ := List.nodup_cons.mp distinct
    obtain ⟨nonnegItem, nonnegRest⟩ := List.forall_mem_cons.mp nonneg
    have all (threshold : K) (low : threshold ≤ item.2) :
        reaching (item :: rest) threshold = rest.length + 1 := by
      refine (reaching_eq_length ?_).trans List.length_cons
      exact List.forall_mem_cons.mpr ⟨low, fun other inRest => low.trans (least other inRest)⟩
    have beyond (threshold : K) (high : item.2 < threshold) :
        reaching (item :: rest) threshold = reaching rest threshold :=
      List.countP_cons_of_neg (by simpa using high)
    have within (threshold : K) (some_low : threshold ≤ item.2)
        (first : ((rest.length + 1 : ℕ) : K) * item.2 ≤ alpha) :
        (reaching (item :: rest) threshold : K) * threshold ≤ alpha := by
      rw [all threshold some_low]
      exact (mul_le_mul_of_nonneg_left some_low (Nat.cast_nonneg _)).trans first
    unfold stepDown
    rcases List.mem_cons.mp member with head | tail
    · -- The first item is rejected exactly with the greatest threshold up to its value.
      obtain ⟨rfl, rfl⟩ := Prod.mk.inj head
      split_ifs with rejects
      · rw [le_div_remaining_iff] at rejects
        refine iff_of_true List.mem_cons_self fun threshold _ low => within threshold low rejects
      · rw [le_div_remaining_iff, ← all item.2 le_rfl] at rejects
        exact iff_of_false List.not_mem_nil fun every => rejects (every item.2 nonnegItem le_rfl)
    · have above : item.2 ≤ value := least _ tail
      have other : name ≠ item.1 := fun same =>
        fresh (same ▸ List.mem_map.mpr ⟨(name, value), tail, rfl⟩)
      split_ifs with rejects
      · rw [le_div_remaining_iff] at rejects
        rw [List.mem_cons, or_iff_right other,
          inductionHypothesis orderedRest distinctRest nonnegRest tail]
        constructor
        · intro every threshold nonnegThreshold low
          rcases le_or_gt threshold item.2 with lower | higher
          · exact within threshold lower rejects
          · rw [beyond threshold higher]
            exact every threshold nonnegThreshold low
        · intro every threshold nonnegThreshold low
          have fewer : reaching rest threshold ≤ reaching (item :: rest) threshold :=
            (List.sublist_cons_self item rest).countP_le
          exact (mul_le_mul_of_nonneg_right (Nat.cast_le.mpr fewer) nonnegThreshold).trans
            (every threshold nonnegThreshold low)
      · rw [le_div_remaining_iff, ← all item.2 le_rfl] at rejects
        exact iff_of_false List.not_mem_nil fun every => rejects (every item.2 nonnegItem above)

end

/-! ### Adjusted values of any order -/

section

variable {Name K : Type}

theorem rank_apart (items : List (Name × K)) : Apart rank items := by
  intro first _ second _ same
  obtain ⟨values, names⟩ := Prod.mk.inj (toLex.injective same)
  exact Prod.ext names values

variable [LinearOrder Name] [Field K] [LinearOrder K] {items others : List (Name × K)}
  {name : Name} {value alpha : K}

/-- The order of the items makes no difference. -/
theorem holm_eq_of_perm (same : items.Perm others) : holm items = holm others := by
  unfold holm
  rw [sortedBy_eq_of_perm (rank_apart items) same, same.length_eq]

theorem holm_names (items : List (Name × K)) :
    ((holm items).map Prod.fst).Perm (items.map Prod.fst) := by
  unfold holm
  rw [adjusted_names]
  exact (sortedBy_perm rank items).map Prod.fst

variable [IsStrictOrderedRing K]

theorem mem_rejected_iff (capped : alpha < 1) (nonneg : ∀ item ∈ items, 0 ≤ item.2) (name : Name) :
    name ∈ rejected alpha items ↔ ∃ value, (name, value) ∈ holm items ∧ value ≤ alpha := by
  have same := sortedBy_perm (rank : Name × K → K ×ₗ Name) items
  unfold rejected holm
  rcases le_or_gt 0 alpha with level | negative
  · rw [mem_stepDown_iff capped level, same.length_eq]
  · refine iff_of_false (fun member => ?_) ?_
    · cases ordered : sortedBy rank items with
      | nil =>
        rw [ordered] at member
        cases member
      | cons item rest =>
        have first : 0 ≤ item.2 :=
          nonneg item (same.mem_iff.mp (ordered ▸ List.mem_cons_self))
        have above : ¬ item.2 ≤ alpha / (rest.length + 1) := by
          rw [le_div_remaining_iff, not_le]
          exact negative.trans_le (mul_nonneg (Nat.cast_nonneg _) first)
        rw [ordered] at member
        unfold stepDown at member
        rw [if_neg above] at member
        cases member
    · rintro ⟨value, member, small⟩
      exact absurd small (not_le.mpr (lt_of_mem_adjusted capped negative member))

theorem mem_rejected_iff_reaching (distinct : (items.map Prod.fst).Nodup)
    (nonneg : ∀ item ∈ items, 0 ≤ item.2) (member : (name, value) ∈ items) :
    name ∈ rejected alpha items ↔
      ∀ threshold, 0 ≤ threshold → threshold ≤ value →
        (reaching items threshold : K) * threshold ≤ alpha := by
  have same := sortedBy_perm (rank : Name × K → K ×ₗ Name) items
  have ordered : (sortedBy rank items).Pairwise fun first second => first.2 ≤ second.2 :=
    (sortedBy_pairwise rank items).imp fun {first second} before =>
      (Prod.Lex.toLex_le_toLex.mp before).elim le_of_lt fun ⟨values, _⟩ => values.le
  unfold rejected
  rw [mem_stepDown_iff_reaching ordered ((same.map Prod.fst).nodup_iff.mpr distinct)
    (fun item inItems => nonneg item (same.mem_iff.mp inItems)) (same.mem_iff.mpr member)]
  unfold reaching
  simp only [same.countP_eq]

/-! ### Lower raw values -/

variable {names : List Name} {lower raw : Name → K}

def values (names : List Name) (raw : Name → K) : List (Name × K) :=
  names.map fun name => (name, raw name)

omit [LinearOrder Name] [Field K] [LinearOrder K] [IsStrictOrderedRing K] in
theorem values_names (names : List Name) (raw : Name → K) :
    (values names raw).map Prod.fst = names := by
  unfold values
  rw [List.map_map]
  exact List.map_id names

/-- A rejection within a set takes a value of the set that, times its size, is within the level. -/
theorem exists_small_of_rejected {hypotheses : Finset Name} (distinct : names.Nodup)
    (nonneg : ∀ name ∈ names, 0 ≤ raw name) (inside : ∀ name ∈ hypotheses, name ∈ names)
    (member : name ∈ hypotheses) (taken : name ∈ rejected alpha (values names raw)) :
    ∃ least ∈ hypotheses, hypotheses.card * raw least ≤ alpha := by
  obtain ⟨least, inHypotheses, lowest⟩ := hypotheses.exists_min_image raw ⟨name, member⟩
  have level := (mem_rejected_iff_reaching ((values_names names raw).symm ▸ distinct)
    (List.forall_mem_map.mpr nonneg) (List.mem_map.mpr ⟨name, inside name member, rfl⟩)).mp taken
    (raw least) (nonneg least (inside least inHypotheses)) (lowest name member)
  refine ⟨least, inHypotheses, (mul_le_mul_of_nonneg_right (Nat.cast_le.mpr ?_)
    (nonneg least (inside least inHypotheses))).trans level⟩
  -- Every hypothesis of the set reaches the least value.
  unfold reaching values
  rw [List.countP_map, List.countP_eq_length_filter]
  refine le_trans (Finset.card_le_card fun other inOther => ?_) (List.toFinset_card_le _)
  exact List.mem_toFinset.mpr (List.mem_filter.mpr
    ⟨inside other inOther, decide_eq_true (lowest other inOther)⟩)

theorem holm_mono (distinct : names.Nodup) (nonneg : ∀ name ∈ names, 0 ≤ lower name)
    (fall : ∀ name ∈ names, lower name ≤ raw name) {below above : K}
    (adjustedLower : (name, below) ∈ holm (values names lower))
    (adjustedRaw : (name, above) ∈ holm (values names raw)) : below ≤ above := by
  rcases le_or_gt 1 above with capped | level
  · exact (le_one_of_mem_adjusted adjustedLower).trans capped
  have nonnegLower : ∀ item ∈ values names lower, 0 ≤ item.2 :=
    List.forall_mem_map.mpr nonneg
  have nonnegRaw : ∀ item ∈ values names raw, 0 ≤ item.2 :=
    List.forall_mem_map.mpr fun name member => (nonneg name member).trans (fall name member)
  have member : name ∈ names := by
    have held := (holm_names (values names raw)).mem_iff.mp
      (List.mem_map.mpr ⟨(name, above), adjustedRaw, rfl⟩)
    rwa [values_names] at held
  have rejectedRaw : name ∈ rejected above (values names raw) :=
    (mem_rejected_iff level nonnegRaw name).mpr ⟨above, adjustedRaw, le_rfl⟩
  rw [mem_rejected_iff_reaching ((values_names names raw).symm ▸ distinct) nonnegRaw
    (List.mem_map.mpr ⟨name, member, rfl⟩)] at rejectedRaw
  have rejectedLower : name ∈ rejected above (values names lower) := by
    rw [mem_rejected_iff_reaching ((values_names names lower).symm ▸ distinct) nonnegLower
      (List.mem_map.mpr ⟨name, member, rfl⟩)]
    intro threshold nonnegThreshold low
    have fewer : reaching (values names lower) threshold ≤
        reaching (values names raw) threshold := by
      unfold reaching values
      rw [List.countP_map, List.countP_map]
      exact List.countP_mono_left fun other inNames reached =>
        decide_eq_true ((of_decide_eq_true reached).trans (fall other inNames))
    exact (mul_le_mul_of_nonneg_right (Nat.cast_le.mpr fewer) nonnegThreshold).trans
      (rejectedRaw threshold nonnegThreshold (low.trans (fall name member)))
  obtain ⟨value, found, small⟩ := (mem_rejected_iff level nonnegLower name).mp rejectedLower
  have once : ((holm (values names lower)).map Prod.fst).Nodup := by
    rw [(holm_names _).nodup_iff, values_names]
    exact distinct
  have same : (name, below) = (name, value) :=
    List.inj_on_of_nodup_map once adjustedLower found rfl
  rw [(Prod.mk.inj same).2]
  exact small

end

end Holm
