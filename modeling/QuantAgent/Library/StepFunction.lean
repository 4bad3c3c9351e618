/-
This file integrates a step function. A list of points in the order of their times gives the
value from each point on; the area a walk along the points sums up is the integral of that value
over the interval the points lie in. Nothing here names the repository.
-/

import Mathlib.MeasureTheory.Integral.IntervalIntegral.Basic

namespace StepFunction

open MeasureTheory

noncomputable section

variable {Point : Type} (time value : Point → ℝ)

def valueAt (initial : ℝ) (points : List Point) (moment : ℝ) : ℝ :=
  ((points.filter fun point => time point ≤ moment).getLast?.map value).getD initial

def area (cursor current : ℝ) : List Point → ℝ → ℝ
  | [], stop => current * (stop - cursor)
  | point :: rest, stop =>
    current * (time point - cursor) + area (time point) (value point) rest stop

/-- No point is later than the next. -/
def Chronological (points : List Point) : Prop :=
  points.Pairwise fun first second => time first ≤ time second

variable {time value} {initial moment : ℝ} {points : List Point} {point : Point}

theorem valueAt_cons_of_lt (before : moment < time point)
    (later : ∀ other ∈ points, time point ≤ time other) :
    valueAt time value initial (point :: points) moment = initial := by
  have none : (point :: points).filter (fun other => time other ≤ moment) = [] := by
    rw [List.filter_eq_nil_iff]
    intro other member
    rcases List.mem_cons.mp member with rfl | member
    · simpa using before
    · simpa using before.trans_le (later other member)
  unfold valueAt
  rw [none]
  rfl

theorem valueAt_cons_of_le (reached : time point ≤ moment) :
    valueAt time value initial (point :: points) moment =
      valueAt time value (value point) points moment := by
  unfold valueAt
  rw [List.filter_cons_of_pos (by simpa using reached), List.getLast?_cons]
  cases (points.filter fun other => time other ≤ moment).getLast? <;> rfl

theorem intervalIntegrable_and_integral_valueAt {cursor stop : ℝ} (within : cursor ≤ stop)
    (ordered : Chronological time points)
    (inside : ∀ point ∈ points, cursor ≤ time point ∧ time point ≤ stop) :
    IntervalIntegrable (valueAt time value initial points) volume cursor stop ∧
      ∫ moment in cursor..stop, valueAt time value initial points moment =
        area time value cursor initial points stop := by
  induction points generalizing cursor initial with
  | nil =>
    have flat : valueAt time value initial [] = fun _ => initial := rfl
    refine ⟨flat ▸ intervalIntegrable_const, ?_⟩
    rw [flat, intervalIntegral.integral_const, area, smul_eq_mul, mul_comm]
  | cons point rest inductionHypothesis =>
    obtain ⟨later, orderedRest⟩ := List.pairwise_cons.mp ordered
    obtain ⟨after, upTo⟩ := inside point List.mem_cons_self
    obtain ⟨integrableRest, integralRest⟩ :
        IntervalIntegrable (valueAt time value (value point) rest) volume (time point) stop ∧
          ∫ moment in (time point)..stop, valueAt time value (value point) rest moment =
            area time value (time point) (value point) rest stop :=
      inductionHypothesis upTo orderedRest fun other member =>
        ⟨later other member, (inside other (List.mem_cons_of_mem _ member)).2⟩
    -- Up to the point the value is the initial one, from it on that of the others.
    have before : Set.EqOn (fun _ => initial)
        (valueAt time value initial (point :: rest)) (Set.uIoo cursor (time point)) := by
      intro moment bounds
      rw [Set.uIoo_of_le after] at bounds
      exact (valueAt_cons_of_lt bounds.2 later).symm
    have onwards : Set.EqOn (valueAt time value (value point) rest)
        (valueAt time value initial (point :: rest)) (Set.uIoo (time point) stop) := by
      intro moment bounds
      rw [Set.uIoo_of_le upTo] at bounds
      exact (valueAt_cons_of_le bounds.1.le).symm
    have first : IntervalIntegrable (valueAt time value initial (point :: rest)) volume cursor
        (time point) := intervalIntegrable_const.congr_uIoo before
    have second : IntervalIntegrable (valueAt time value initial (point :: rest)) volume
        (time point) stop := integrableRest.congr_uIoo onwards
    refine ⟨first.trans second, ?_⟩
    calc ∫ moment in cursor..stop, valueAt time value initial (point :: rest) moment
        = (∫ moment in cursor..time point, valueAt time value initial (point :: rest) moment) +
            ∫ moment in time point..stop, valueAt time value initial (point :: rest) moment :=
          (intervalIntegral.integral_add_adjacent_intervals first second).symm
      _ = (∫ _moment in cursor..time point, initial) +
            ∫ moment in time point..stop, valueAt time value (value point) rest moment := by
          rw [intervalIntegral.integral_congr_uIoo before,
            intervalIntegral.integral_congr_uIoo onwards]
      _ = area time value cursor initial (point :: rest) stop := by
          rw [integralRest, intervalIntegral.integral_const, smul_eq_mul, area, mul_comm]

theorem integral_valueAt {cursor stop : ℝ} (within : cursor ≤ stop)
    (ordered : Chronological time points)
    (inside : ∀ point ∈ points, cursor ≤ time point ∧ time point ≤ stop) :
    ∫ moment in cursor..stop, valueAt time value initial points moment =
      area time value cursor initial points stop :=
  (intervalIntegrable_and_integral_valueAt within ordered inside).2

end

end StepFunction
