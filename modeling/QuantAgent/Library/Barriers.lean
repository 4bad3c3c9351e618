/-
This file treats a continuous path over the unit interval and the levels it meets: the first
time it enters a region, and a level that follows the best value the path has reached so far.

A level below the path at the start is not passed without being touched, so whatever else the
path meets first, it has not fallen below that level by then. Nothing here names the repository.
-/

import Mathlib

namespace QuantAgent.Barriers

/-- The first time in the unit interval at which something happens. -/
def FirstAt (happens : ℝ → Prop) (time : ℝ) : Prop :=
  IsLeast {moment | moment ∈ Set.Icc 0 1 ∧ happens moment} time

variable {path : ℝ → ℝ} {happens : ℝ → Prop} {time : ℝ}

theorem FirstAt.before (first : FirstAt happens time) {moment : ℝ} (inside : moment ∈ Set.Icc 0 1)
    (earlier : moment < time) : ¬ happens moment := fun occurs =>
  earlier.not_ge (first.2 ⟨inside, occurs⟩)

theorem firstAt_zero (start : happens 0) : FirstAt happens 0 :=
  ⟨⟨⟨le_rfl, zero_le_one⟩, start⟩, fun _ occurs => occurs.1.1⟩

theorem FirstAt.eq_zero (first : FirstAt happens time) (start : happens 0) : time = 0 :=
  first.unique (firstAt_zero start)

theorem exists_firstAt_of_closed {region : Set ℝ} (continuous : ContinuousOn path (Set.Icc 0 1))
    (closed : IsClosed region) (enters : ∃ moment ∈ Set.Icc 0 1, path moment ∈ region) :
    ∃ time, FirstAt (fun moment => path moment ∈ region) time := by
  have compact : IsCompact (Set.Icc 0 1 ∩ Set.preimage path region) :=
    isCompact_Icc.of_isClosed_subset
      (continuous.preimage_isClosed_of_isClosed isClosed_Icc closed) Set.inter_subset_left
  exact compact.exists_isLeast enters

theorem exists_earlier_below (continuous : ContinuousOn path (Set.Icc 0 1)) {level : ℝ}
    (inside : time ∈ Set.Icc 0 1) (positive : 0 < time) (below : path time < level) :
    ∃ moment ∈ Set.Icc 0 1, moment < time ∧ path moment < level := by
  have nearby : ∀ᶠ moment in nhdsWithin time (Set.Icc 0 1), path moment < level :=
    (continuous time inside).eventually (gt_mem_nhds below)
  have reduced : nhdsWithin time (Set.Ioo 0 time) ≤ nhdsWithin time (Set.Icc 0 1) :=
    nhdsWithin_mono time fun moment between =>
      ⟨between.1.le, (between.2.trans_le inside.2).le⟩
  have accumulates : (nhdsWithin time (Set.Ioo 0 time)).NeBot :=
    right_nhdsWithin_Ioo_neBot positive
  obtain ⟨moment, below, between⟩ :=
    ((nearby.filter_mono reduced).and self_mem_nhdsWithin).exists
  exact ⟨moment, ⟨between.1.le, (between.2.trans_le inside.2).le⟩, between.2, below⟩

/-! ### Following levels -/

/-- An extreme that starts from an earlier one and is otherwise reached by the path. -/
structure Trails (path : ℝ → ℝ) (prior : ℝ) (extreme : ℝ → ℝ) : Prop where
  ahead : ∀ time ∈ Set.Icc 0 1, prior ≤ extreme time
  reached : ∀ time ∈ Set.Icc 0 1,
    extreme time = prior ∨ ∃ moment ∈ Set.Icc 0 time, extreme time = path moment

theorem trails_const {prior : ℝ} : Trails path prior fun _ => prior :=
  ⟨fun _ _ => le_rfl, fun _ _ => .inl rfl⟩

theorem Trails.fixed_le {prior fixed : ℝ} {extreme lag : ℝ → ℝ} (trails : Trails path prior extreme)
    (continuous : ContinuousOn path (Set.Icc 0 1)) (inside : time ∈ Set.Icc 0 1)
    (untouched : ∀ moment ∈ Set.Icc 0 1, moment < time → fixed < path moment)
    (clear : lag prior < path 0)
    (behind : lag (extreme time) < fixed → lag (extreme time) < extreme time)
    (touched : path time ≤ lag (extreme time)) : fixed ≤ lag (extreme time) := by
  by_contra above
  rw [not_le] at above
  rcases inside.1.eq_or_lt with rfl | positive
  · -- at the start the extreme is the prior one or the path itself
    rcases trails.reached 0 inside with same | ⟨moment, between, same⟩
    · rw [same] at touched
      exact clear.not_ge touched
    · obtain rfl : moment = 0 := le_antisymm between.2 between.1
      rw [same] at touched above behind
      exact (behind above).not_ge touched
  · obtain ⟨moment, between, earlier, below⟩ :=
      exists_earlier_below continuous inside positive (touched.trans_lt above)
    exact (untouched moment between earlier).not_gt below

end QuantAgent.Barriers
