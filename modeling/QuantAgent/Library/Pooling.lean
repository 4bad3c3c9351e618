/-
This file treats the pooling of adjacent items that carry a value and a weight. A pooled block has
no beginning whose mean is below that of the whole; two pooled blocks out of order make a pooled
block together. Among the nondecreasing answers to a pooled block its mean has the least square
loss, and an answer is worse by the weighted square of its distance. Nothing here names the
repository.
-/

import QuantAgent.Library.Numerals

namespace QuantAgent.Pooling

open Numerals

variable {Item K : Type} [Field K] [LinearOrder K] [IsStrictOrderedRing K]

def total (measure : Item → K) (items : List Item) : K := (items.map measure).sum

section

variable {measure other : Item → K} {items others : List Item}

omit [LinearOrder K] [IsStrictOrderedRing K]

@[simp] theorem total_nil : total measure [] = 0 := rfl

@[simp] theorem total_cons (item : Item) :
    total measure (item :: items) = measure item + total measure items := List.sum_cons

@[simp] theorem total_append :
    total measure (items ++ others) = total measure items + total measure others := by
  unfold total
  rw [List.map_append, List.sum_append]

theorem total_congr (same : ∀ item ∈ items, measure item = other item) :
    total measure items = total other items :=
  congrArg List.sum (List.map_congr_left same)

theorem total_perm (same : items.Perm others) : total measure items = total measure others :=
  (same.map measure).sum_eq

theorem total_add : total (fun item => measure item + other item) items =
    total measure items + total other items := List.sum_map_add

theorem total_sub : total (fun item => measure item - other item) items =
    total measure items - total other items := by
  induction items with
  | nil => simp
  | cons item rest inductionHypothesis =>
    rw [total_cons, total_cons, total_cons, inductionHypothesis]
    ring

theorem total_mul (factor : K) : total (fun item => factor * measure item) items =
    factor * total measure items := List.sum_map_mul_left _ _ _

end

section

variable {measure : Item → K} {items : List Item}

theorem total_nonneg (nonneg : ∀ item ∈ items, 0 ≤ measure item) : 0 ≤ total measure items :=
  List.sum_nonneg fun value member => by
    obtain ⟨item, held, rfl⟩ := List.mem_map.mp member
    exact nonneg item held

theorem total_pos (positive : ∀ item ∈ items, 0 < measure item) (nonempty : items ≠ []) :
    0 < total measure items := by
  refine List.sum_pos _ (fun value member => ?_) fun none => nonempty (List.map_eq_nil_iff.mp none)
  obtain ⟨item, held, rfl⟩ := List.mem_map.mp member
  exact positive item held

/-- Summation by parts: what never falls below nothing on a beginning weighs most at the end. -/
theorem total_mul_le {excess answer : Item → K} {items : List Item}
    (beginnings : ∀ front, front <+: items → 0 ≤ total excess front)
    (ordered : items.Pairwise fun first second => answer first ≤ answer second) {upper : K}
    (bounded : ∀ item ∈ items, answer item ≤ upper) :
    total (fun item => excess item * answer item) items ≤ total excess items * upper := by
  induction items using List.reverseRecOn generalizing upper with
  | nil => simp
  | append_singleton items last inductionHypothesis =>
    obtain ⟨earlier, -, below⟩ := List.pairwise_append.mp ordered
    have step := inductionHypothesis
      (fun front start => beginnings front (start.trans (List.prefix_append _ _))) earlier
      fun item member => below item member last (List.mem_singleton_self last)
    have whole : 0 ≤ total excess items + excess last := by
      simpa using beginnings _ (List.prefix_refl _)
    have least : answer last ≤ upper :=
      bounded last (List.mem_append_right _ (List.mem_singleton_self last))
    calc total (fun item => excess item * answer item) (items ++ [last])
        = total (fun item => excess item * answer item) items + excess last * answer last := by simp
      _ ≤ total excess items * answer last + excess last * answer last := by
        exact add_le_add_left step _
      _ = (total excess items + excess last) * answer last := by ring
      _ ≤ (total excess items + excess last) * upper := mul_le_mul_of_nonneg_left least whole
      _ = total excess (items ++ [last]) * upper := by simp

end

/-! ### Pooled blocks -/

section

variable (value weight : Item → K)

/-- Every beginning of the block has at least the mean of the block. -/
def Pooled (block : List Item) : Prop :=
  ∀ front, front <+: block → total value block * total weight front ≤
    total value front * total weight block

def mean (block : List Item) : K := total value block / total weight block

def loss (answer : Item → K) (items : List Item) : K :=
  total (fun item => weight item * answer item ^ 2 - 2 * (value item * answer item)) items

def distance (answer other : Item → K) (items : List Item) : K :=
  total (fun item => weight item * (answer item - other item) ^ 2) items

end

variable {value weight answer : Item → K} {block other : List Item}

omit [LinearOrder K] [IsStrictOrderedRing K] in
theorem loss_append : loss value weight answer (block ++ other) =
    loss value weight answer block + loss value weight answer other := total_append

omit [LinearOrder K] [IsStrictOrderedRing K] in
theorem distance_append {second : Item → K} : distance weight answer second (block ++ other) =
    distance weight answer second block + distance weight answer second other := total_append

omit [IsStrictOrderedRing K] in
theorem pooled_singleton (item : Item) : Pooled value weight [item] := by
  intro front start
  obtain rfl | ⟨rest, rfl, short⟩ := List.prefix_cons_iff.mp start
  · simp
  · obtain rfl := List.prefix_nil.mp short
    exact le_rfl

theorem Pooled.append (first : Pooled value weight block) (second : Pooled value weight other)
    (positive : ∀ item ∈ block ++ other, 0 < weight item) (nonempty : block ≠ [])
    (last : other ≠ [])
    (falls : total value other * total weight block ≤ total value block * total weight other) :
    Pooled value weight (block ++ other) := by
  obtain ⟨firstPositive, secondPositive⟩ := List.forall_mem_append.mp positive
  have weighs : 0 < total weight block := total_pos firstPositive nonempty
  have weighsOther : 0 < total weight other := total_pos secondPositive last
  intro front start
  rw [total_append, total_append]
  obtain ⟨rest, whole⟩ := start
  obtain ⟨left, same, -⟩ | ⟨inner, rfl, rfl⟩ := List.append_eq_append_iff.mp whole
  · -- a beginning of the first block
    have own := first front ⟨left, same.symm⟩
    have light : 0 ≤ total weight front := total_nonneg fun item member =>
      (firstPositive item (same ▸ List.mem_append_left _ member)).le
    have later : total value other * total weight front ≤
        total value front * total weight other := by
      refine le_of_mul_le_mul_right ?_ weighs
      calc total value other * total weight front * total weight block
          = total value other * total weight block * total weight front := by ring
        _ ≤ total value block * total weight other * total weight front :=
          mul_le_mul_of_nonneg_right falls light
        _ = total value block * total weight front * total weight other := by ring
        _ ≤ total value front * total weight block * total weight other :=
          mul_le_mul_of_nonneg_right own weighsOther.le
        _ = total value front * total weight other * total weight block := by ring
    linarith [own, later]
  · -- the first block and a beginning of the second: what is left has a low mean
    have own := second inner ⟨rest, rfl⟩
    have light : 0 ≤ total weight rest :=
      total_nonneg fun item member => (secondPositive item (List.mem_append_right _ member)).le
    have low : total value rest * total weight block ≤
        total value block * total weight rest := by
      refine le_of_mul_le_mul_right ?_ weighsOther
      have scaled := mul_le_mul_of_nonneg_right own weighs.le
      have fallen := mul_le_mul_of_nonneg_right falls light
      simp only [total_append] at scaled fallen ⊢
      linarith
    simp only [total_append] at own ⊢
    linarith [own, low]

theorem eq_of_distance_nonpos {second : Item → K} {items : List Item}
    (positive : ∀ item ∈ items, 0 < weight item) (near : distance weight answer second items ≤ 0) :
    ∀ item ∈ items, answer item = second item := by
  induction items with
  | nil => exact fun _ member => absurd member List.not_mem_nil
  | cons item rest inductionHypothesis =>
    obtain ⟨heavy, others⟩ := List.forall_mem_cons.mp positive
    have own : 0 ≤ weight item * (answer item - second item) ^ 2 :=
      mul_nonneg heavy.le (sq_nonneg _)
    have later : 0 ≤ distance weight answer second rest :=
      total_nonneg fun item member => mul_nonneg (others item member).le (sq_nonneg _)
    have both : weight item * (answer item - second item) ^ 2 +
        distance weight answer second rest ≤ 0 := near
    refine List.forall_mem_cons.mpr ⟨?_, inductionHypothesis others (by linarith)⟩
    have none : weight item * (answer item - second item) ^ 2 = 0 := by linarith
    exact sub_eq_zero.mp (pow_eq_zero_iff two_ne_zero |>.mp
      ((mul_eq_zero.mp none).resolve_left heavy.ne'))

theorem Pooled.loss_mean (pooled : Pooled value weight block)
    (positive : ∀ item ∈ block, 0 < weight item) (nonempty : block ≠ [])
    (ordered : block.Pairwise fun first second => answer first ≤ answer second) :
    loss value weight (fun _ => mean value weight block) block +
        distance weight answer (fun _ => mean value weight block) block ≤
      loss value weight answer block := by
  have weighs : 0 < total weight block := total_pos positive nonempty
  set middle := mean value weight block with level
  have whole : total value block = middle * total weight block :=
    (div_mul_cancel₀ _ weighs.ne').symm
  let excess (item : Item) : K := value item - middle * weight item
  have balance (items : List Item) :
      total excess items = total value items - middle * total weight items := by
    rw [← total_mul, ← total_sub]
  have beginnings : ∀ front, front <+: block → 0 ≤ total excess front := by
    intro front start
    have least := pooled front start
    rw [whole] at least
    have scaled : middle * total weight front * total weight block ≤
        total value front * total weight block := by linarith
    rw [balance]
    exact sub_nonneg.mpr (le_of_mul_le_mul_right scaled weighs)
  have none : total excess block = 0 := by rw [balance, whole, sub_self]
  obtain ⟨upper, bound⟩ := (block.map answer).toFinset.bddAbove
  have bounded : ∀ item ∈ block, answer item ≤ upper := fun item member =>
    bound (List.mem_toFinset.mpr (List.mem_map_of_mem member))
  have parts := total_mul_le beginnings ordered bounded
  rw [none, zero_mul] at parts
  have expanded : loss value weight answer block =
      loss value weight (fun _ => middle) block + distance weight answer (fun _ => middle) block +
        (2 * middle * total excess block -
          2 * total (fun item => excess item * answer item) block) := by
    unfold loss distance
    rw [← total_mul, ← total_mul, ← total_sub, ← total_add, ← total_add]
    exact total_congr fun item _ => by ring
  rw [expanded, none]
  linarith

end QuantAgent.Pooling
