/-
This file treats the recursive smoothing of a series of vectors: every smoothed vector is the
one before it, moved a fixed share of the way to the next value. A convex set that holds the
values holds the smoothed ones, and smoothing commutes with linear maps. Nothing here names the
repository.
-/

import Mathlib

namespace Smoothing

variable {K V W : Type} [Field K] [AddCommGroup V] [Module K V] [AddCommGroup W] [Module K W]

def smoothAfter (share : K) (last : V) : List V → List V
  | [] => []
  | value :: rest =>
    (last + share • (value - last)) :: smoothAfter share (last + share • (value - last)) rest

/-- The smoothed series begins with its first value. -/
def smooth (share : K) : List V → List V
  | [] => []
  | first :: rest => first :: smoothAfter share first rest

theorem length_smoothAfter (share : K) (last : V) (values : List V) :
    (smoothAfter share last values).length = values.length := by
  induction values generalizing last with
  | nil => rfl
  | cons value rest inductionHypothesis =>
    rw [smoothAfter, List.length_cons, inductionHypothesis, List.length_cons]

@[simp] theorem length_smooth (share : K) (values : List V) :
    (smooth share values).length = values.length := by
  cases values with
  | nil => rfl
  | cons first rest => rw [smooth, List.length_cons, length_smoothAfter, List.length_cons]

/-! ### Convex sets -/

section

variable [LinearOrder K] [IsStrictOrderedRing K] {share : K} {held : Set V}

theorem step_mem (convex : Convex K held) (nonneg : 0 ≤ share) (atMostOne : share ≤ 1)
    {last value : V} (lastHeld : last ∈ held) (valueHeld : value ∈ held) :
    last + share • (value - last) ∈ held := by
  have between : last + share • (value - last) = (1 - share) • last + share • value := by
    rw [smul_sub, sub_smul, one_smul]
    abel
  rw [between]
  exact convex lastHeld valueHeld (sub_nonneg.mpr atMostOne) nonneg (sub_add_cancel 1 share)

theorem smoothAfter_mem (convex : Convex K held) (nonneg : 0 ≤ share) (atMostOne : share ≤ 1)
    {last : V} (lastHeld : last ∈ held) {values : List V}
    (valuesHeld : ∀ value ∈ values, value ∈ held) :
    ∀ smoothed ∈ smoothAfter share last values, smoothed ∈ held := by
  induction values generalizing last with
  | nil => exact fun _ member => nomatch member
  | cons value rest inductionHypothesis =>
    have next := step_mem convex nonneg atMostOne lastHeld (valuesHeld value List.mem_cons_self)
    intro smoothed member
    rcases List.mem_cons.mp member with rfl | later
    · exact next
    · exact inductionHypothesis next
        (fun other listed => valuesHeld other (List.mem_cons_of_mem _ listed)) smoothed later

theorem smooth_mem (convex : Convex K held) (nonneg : 0 ≤ share) (atMostOne : share ≤ 1)
    {values : List V} (valuesHeld : ∀ value ∈ values, value ∈ held) :
    ∀ smoothed ∈ smooth share values, smoothed ∈ held := by
  cases values with
  | nil => exact fun _ member => nomatch member
  | cons first rest =>
    have firstHeld := valuesHeld first List.mem_cons_self
    intro smoothed member
    rcases List.mem_cons.mp member with rfl | later
    · exact firstHeld
    · exact smoothAfter_mem convex nonneg atMostOne firstHeld
        (fun other listed => valuesHeld other (List.mem_cons_of_mem _ listed)) smoothed later

end

/-! ### Linear maps -/

theorem smoothAfter_map (share : K) (change : V →ₗ[K] W) (last : V) (values : List V) :
    smoothAfter share (change last) (values.map change) =
      (smoothAfter share last values).map change := by
  induction values generalizing last with
  | nil => rfl
  | cons value rest inductionHypothesis =>
    have step : change last + share • (change value - change last) =
        change (last + share • (value - last)) := by
      rw [map_add, map_smul, map_sub]
    rw [List.map_cons, smoothAfter, step, inductionHypothesis, smoothAfter, List.map_cons]

theorem smooth_map (share : K) (change : V →ₗ[K] W) (values : List V) :
    smooth share (values.map change) = (smooth share values).map change := by
  cases values with
  | nil => rfl
  | cons first rest => rw [List.map_cons, smooth, smoothAfter_map, smooth, List.map_cons]

end Smoothing
