/-
This file treats the triangular weighting of the products of a series with its shifts. The series
runs over the integers and vanishes outside a finite set, so holes are zeros of it. The weighted sum
is a mean of squares of the sums over moving windows, hence it is nonnegative, and it vanishes only
with the series. Nothing here names the repository.
-/

import Mathlib

namespace QuantAgent.Bartlett

section Identity

variable {K : Type*} [Field K]

noncomputable def lagged (series : ℤ → K) (lag : ℤ) : K :=
  ∑ᶠ slot, series slot * series (slot - lag)

/-- The sum of the products up to the largest lag, weighted by a triangle. -/
noncomputable def neweyWest (maxLag : ℕ) (series : ℤ → K) : K :=
  lagged series 0 + ∑ lag ∈ Finset.range maxLag,
    2 * (1 - ((lag + 1 : ℕ) : K) / (maxLag + 1)) * lagged series (lag + 1 : ℕ)

def windowSum (maxLag : ℕ) (series : ℤ → K) (slot : ℤ) : K :=
  ∑ back ∈ Finset.range (maxLag + 1), series (slot - back)

theorem lagged_neg (series : ℤ → K) (lag : ℤ) : lagged series (-lag) = lagged series lag :=
  calc ∑ᶠ slot, series slot * series (slot - -lag)
      = ∑ᶠ slot, series (slot + lag) * series (slot + lag - lag) := by
        refine finsum_congr fun slot => ?_
        rw [sub_neg_eq_add, add_sub_cancel_right, mul_comm]
    _ = lagged series lag :=
      finsum_comp_equiv (f := fun slot => series slot * series (slot - lag)) (Equiv.addRight lag)

theorem finsum_shift_mul_shift (series : ℤ → K) (first second : ℤ) :
    ∑ᶠ slot, series (slot - first) * series (slot - second) = lagged series (second - first) :=
  calc ∑ᶠ slot, series (slot - first) * series (slot - second)
      = ∑ᶠ slot, series (slot - first) * series (slot - first - (second - first)) := by
        refine finsum_congr fun slot => ?_
        rw [sub_sub, add_sub_cancel]
    _ = lagged series (second - first) :=
      finsum_comp_equiv (f := fun slot => series slot * series (slot - (second - first)))
        (Equiv.subRight first)

/-- The differences of two positions of a window, counted by their size. -/
theorem sum_sum_differences (value : ℤ → K) (even : ∀ lag, value (-lag) = value lag) (maxLag : ℕ) :
    ∑ first ∈ Finset.range (maxLag + 1), ∑ second ∈ Finset.range (maxLag + 1),
        value ((second : ℤ) - first) =
      (maxLag + 1) * value 0 + ∑ lag ∈ Finset.range maxLag,
        2 * ((maxLag : K) + 1 - (lag + 1 : ℕ)) * value (lag + 1 : ℕ) := by
  induction maxLag with
  | zero => simp
  | succ last inductionHypothesis =>
    have edge : ∑ first ∈ Finset.range (last + 1), value ((last + 1 : ℕ) - (first : ℤ)) =
        ∑ lag ∈ Finset.range (last + 1), value (lag + 1 : ℕ) := by
      rw [← Finset.sum_range_reflect]
      refine Finset.sum_congr rfl fun lag inside => congrArg value ?_
      have below := Finset.mem_range.mp inside
      omega
    have mirrored : ∑ second ∈ Finset.range (last + 1), value ((second : ℤ) - (last + 1 : ℕ)) =
        ∑ lag ∈ Finset.range (last + 1), value (lag + 1 : ℕ) := by
      rw [← edge]
      refine Finset.sum_congr rfl fun second _ => ?_
      rw [← neg_sub, even]
    have widened : ∑ lag ∈ Finset.range (last + 1),
        2 * (((last + 1 : ℕ) : K) + 1 - (lag + 1 : ℕ)) * value (lag + 1 : ℕ) =
        (∑ lag ∈ Finset.range last, 2 * ((last : K) + 1 - (lag + 1 : ℕ)) * value (lag + 1 : ℕ)) +
          2 * ∑ lag ∈ Finset.range (last + 1), value (lag + 1 : ℕ) := by
      rw [Finset.mul_sum, Finset.sum_range_succ, Finset.sum_range_succ, ← add_assoc,
        ← Finset.sum_add_distrib]
      congr 1
      · refine Finset.sum_congr rfl fun lag _ => ?_
        push_cast
        ring
      · push_cast
        ring
    rw [Finset.sum_range_succ, widened]
    simp only [Finset.sum_range_succ _ (last + 1), Finset.sum_add_distrib]
    rw [edge, mirrored, inductionHypothesis, sub_self]
    push_cast
    ring

variable {series : ℤ → K}

theorem support_shift (finite : series.support.Finite) (back : ℤ) :
    (fun slot => series (slot - back)).support.Finite :=
  finite.preimage sub_left_injective.injOn

theorem support_windowSum (finite : series.support.Finite) (maxLag : ℕ) :
    (windowSum maxLag series).support.Finite := by
  refine (Set.Finite.biUnion (Finset.finite_toSet (Finset.range (maxLag + 1)))
    fun back _ => support_shift finite back).subset ?_
  exact Finset.support_sum _ _

theorem finsum_windowSum_sq (finite : series.support.Finite) (maxLag : ℕ) :
    ∑ᶠ slot, windowSum maxLag series slot ^ 2 =
      ∑ first ∈ Finset.range (maxLag + 1), ∑ second ∈ Finset.range (maxLag + 1),
        lagged series ((second : ℤ) - first) := by
  have products (first second : ℕ) :
      (fun slot => series (slot - first) * series (slot - second)).support.Finite :=
    (support_shift finite first).subset (Function.support_mul_subset_left _ _)
  have expanded (slot : ℤ) : windowSum maxLag series slot ^ 2 =
      ∑ first ∈ Finset.range (maxLag + 1), ∑ second ∈ Finset.range (maxLag + 1),
        series (slot - first) * series (slot - second) := by
    unfold windowSum
    rw [sq, Finset.sum_mul_sum]
  rw [finsum_congr expanded, finsum_sum_comm]
  · refine Finset.sum_congr rfl fun first _ => ?_
    rw [finsum_sum_comm _ _ fun second _ => products first second]
    exact Finset.sum_congr rfl fun second _ => finsum_shift_mul_shift series first second
  · intro first _
    refine (Set.Finite.biUnion (Finset.finite_toSet (Finset.range (maxLag + 1)))
      fun second _ => products first second).subset ?_
    exact Finset.support_sum _ _

theorem eq_zero_of_windowSum (finite : series.support.Finite) (maxLag : ℕ)
    (empty : ∀ slot, windowSum maxLag series slot = 0) : series = 0 := by
  by_contra nonzero
  obtain ⟨first, member, least⟩ := finite.exists_minimal
    (Function.support_nonempty_iff.mpr nonzero)
  have alone : windowSum maxLag series first = series first := by
    unfold windowSum
    rw [Finset.sum_range_succ', Finset.sum_eq_zero, zero_add, Nat.cast_zero, sub_zero]
    intro back _
    by_contra held
    have earlier := least held (by omega)
    omega
  exact member (alone.symm.trans (empty first))

end Identity

section Order

variable {K : Type*} [Field K] [LinearOrder K] [IsStrictOrderedRing K] {series : ℤ → K}

theorem neweyWest_eq (finite : series.support.Finite) (maxLag : ℕ) :
    neweyWest maxLag series =
      1 / (maxLag + 1) * ∑ᶠ slot, windowSum maxLag series slot ^ 2 := by
  have width : (maxLag : K) + 1 ≠ 0 := by positivity
  rw [finsum_windowSum_sq finite, sum_sum_differences _ (lagged_neg series), mul_add,
    ← mul_assoc, one_div_mul_cancel width, one_mul, Finset.mul_sum]
  unfold neweyWest
  refine congrArg₂ _ rfl (Finset.sum_congr rfl fun lag _ => ?_)
  field_simp

theorem neweyWest_nonneg (finite : series.support.Finite) (maxLag : ℕ) :
    0 ≤ neweyWest maxLag series := by
  rw [neweyWest_eq finite]
  exact mul_nonneg (by positivity) (finsum_nonneg fun slot => sq_nonneg _)

theorem neweyWest_eq_zero_iff (finite : series.support.Finite) (maxLag : ℕ) :
    neweyWest maxLag series = 0 ↔ series = 0 := by
  constructor
  · intro vanishes
    have width : (1 : K) / (maxLag + 1) ≠ 0 := by positivity
    rw [neweyWest_eq finite] at vanishes
    have squares := (mul_eq_zero.mp vanishes).resolve_left width
    have squaresFinite : (fun slot => windowSum maxLag series slot ^ 2).support.Finite :=
      (support_windowSum finite maxLag).subset fun slot nonzero empty =>
        nonzero ((pow_eq_zero_iff two_ne_zero).mpr empty)
    refine eq_zero_of_windowSum finite maxLag fun slot => ?_
    have bounded := single_le_finsum slot squaresFinite fun other => sq_nonneg _
    exact (pow_eq_zero_iff two_ne_zero).mp (le_antisymm (bounded.trans_eq squares) (sq_nonneg _))
  · rintro rfl
    unfold neweyWest lagged
    simp

end Order

end QuantAgent.Bartlett
