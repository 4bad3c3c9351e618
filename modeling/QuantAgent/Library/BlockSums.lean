/-
This file treats sums over blocks of consecutive values by differences of partial sums, and the
concatenation of blocks of one length that is cut off inside the last block. Nothing here names the
repository.
-/

import Mathlib

namespace QuantAgent.BlockSums

section Sums

variable {K : Type*} [AddCommGroup K] {values : List K}

/-- The partial sums, from the empty one on. -/
def prefixSums (values : List K) : List K := values.scanl (· + ·) 0

def sumBefore (values : List K) (position : ℕ) : K := (prefixSums values).getD position 0

def valueAt (values : List K) (position : ℕ) : K := values.getD position 0

def blockSum (values : List K) (start length : ℕ) : K :=
  sumBefore values (start + length) - sumBefore values start

variable {position : ℕ}

theorem valueAt_of_le (outside : values.length ≤ position) :
    valueAt values position = 0 := List.getD_eq_default _ _ outside

theorem valueAt_mem (inside : position < values.length) :
    valueAt values position ∈ values := by
  unfold valueAt
  rw [List.getD_eq_getElem _ _ inside]
  exact List.getElem_mem inside

theorem valueAt_map_range {count position : ℕ} (value : ℕ → K) (inside : position < count) :
    valueAt ((List.range count).map value) position = value position := by
  unfold valueAt
  rw [List.getD_eq_getElem _ _ (by simpa using inside), List.getElem_map, List.getElem_range]

theorem sumBefore_eq (inside : position ≤ values.length) :
    sumBefore values position = (values.take position).sum := by
  unfold sumBefore prefixSums
  rw [List.getD_eq_getElem?_getD, List.getElem?_scanl, if_pos inside, Option.getD_some,
    List.sum_eq_foldl]

theorem sumBefore_succ (inside : position < values.length) :
    sumBefore values (position + 1) = sumBefore values position + valueAt values position := by
  unfold valueAt
  rw [sumBefore_eq inside, sumBefore_eq inside.le, List.take_succ_eq_append_getElem inside,
    List.sum_append, List.sum_singleton, List.getD_eq_getElem _ _ inside]

theorem blockSum_eq (start : ℕ) {length : ℕ} (inside : start + length ≤ values.length) :
    blockSum values start length = ((List.range' start length).map (valueAt values)).sum := by
  induction length with
  | zero => simp [blockSum]
  | succ length inductionHypothesis =>
    have shorter := inductionHypothesis (by omega)
    unfold blockSum at shorter ⊢
    rw [List.range'_concat, List.map_append, List.sum_append, ← shorter, ← add_assoc,
      sumBefore_succ (by omega), Nat.one_mul, List.map_singleton, List.sum_singleton]
    abel

end Sums

/-! ### Concatenated blocks -/

/-- The positions of the blocks one after the other, cut off after so many of them. -/
def concatenated (length count : ℕ) (starts : List ℕ) : List ℕ :=
  (starts.flatMap fun start => List.range' start length).take count

theorem length_flatMap_range' (length : ℕ) (starts : List ℕ) :
    (starts.flatMap fun start => List.range' start length).length = starts.length * length := by
  induction starts with
  | nil => simp
  | cons start rest inductionHypothesis =>
    rw [List.flatMap_cons, List.length_append, inductionHypothesis, List.length_range',
      List.length_cons]
    ring

theorem length_concatenated {length count : ℕ} {starts : List ℕ}
    (enough : count ≤ starts.length * length) :
    (concatenated length count starts).length = count := by
  unfold concatenated
  rw [List.length_take, length_flatMap_range', min_eq_left enough]

theorem concatenated_concat {length count : ℕ} (starts : List ℕ) (last : ℕ)
    (full : starts.length * length ≤ count) (cut : count ≤ (starts.length + 1) * length) :
    concatenated length count (starts ++ [last]) =
      (starts.flatMap fun start => List.range' start length) ++
        List.range' last (count - starts.length * length) := by
  have tail : count - starts.length * length ≤ length := by
    have widened : (starts.length + 1) * length = starts.length * length + length := by ring
    omega
  unfold concatenated
  rw [List.flatMap_append, List.take_append, length_flatMap_range', List.take_of_length_le
    ((length_flatMap_range' length starts).trans_le full), List.flatMap_singleton,
    List.take_range'_of_length_ge tail]

theorem mem_concatenated {length count position : ℕ} {starts : List ℕ}
    (member : position ∈ concatenated length count starts) :
    ∃ start ∈ starts, start ≤ position ∧ position < start + length := by
  obtain ⟨start, held, inside⟩ := List.mem_flatMap.mp (List.mem_of_mem_take member)
  exact ⟨start, held, List.mem_range'_1.mp inside⟩

/-! ### Chunks -/

theorem flatten_chunks {Item : Type*} (items : List Item) (size count : ℕ) :
    ((List.range' 0 count size).map fun first => (items.drop first).take size).flatten =
      items.take (count * size) := by
  induction count with
  | zero => simp
  | succ count inductionHypothesis =>
    rw [List.range'_concat, List.map_append, List.flatten_append, inductionHypothesis, Nat.succ_mul,
      List.take_add, zero_add, Nat.mul_comm size count, List.map_singleton, List.flatten_singleton]

end QuantAgent.BlockSums
