/-
This file embeds the long-run sum of the conditional test: the products of the scores whose
timestamps lie a lag apart, weighted by a triangle. On a grid with holes it is the weighted sum of
the series that has a zero at every missing slot, so it is never negative.
-/

import QuantAgent.Library.Bartlett
import QuantAgent.Library.Numerals

namespace QuantAgent.Inference

open Numerals

/-! ### The loop over the lags -/

structure Score (K : Type*) where
  timestampMs : ℤ
  score : K

section

variable {K : Type*} [Field K] (cadenceMs : ℤ) (scores : List (Score K))

/-- The score that `timestamp_index` leads to; the last observation of a timestamp is kept. -/
def scoreAt (timestampMs : ℤ) : Option K :=
  (scores.reverse.find? fun sample => sample.timestampMs = timestampMs).map Score.score

def crossSum (deltaMs : ℤ) : K × ℕ :=
  scores.foldl (fun (crossSum, pairs) sample =>
    match scoreAt scores (sample.timestampMs - deltaMs) with
    | some prior => (crossSum + sample.score * prior, pairs + 1)
    | none => (crossSum, pairs)) (0, 0)

def lagStep (maxLag : ℕ) (sums : K × List ℕ) (lag : ℕ) : K × List ℕ :=
  let (crossSum, pairs) := crossSum scores (lag * cadenceMs)
  let weight : K := 1 - lag / (maxLag + 1)
  (sums.1 + 2 * weight * crossSum, sums.2 ++ [pairs])

def longRun (maxLag : ℕ) : K × List ℕ :=
  ((List.range maxLag).map (· + 1)).foldl (lagStep cadenceMs scores maxLag)
    ((scores.map fun sample => sample.score * sample.score).sum, [scores.length])

def originMs : ℤ := (scores.head?.map Score.timestampMs).getD 0

structure OnGrid : Prop where
  increasing : scores.Pairwise fun first second => first.timestampMs < second.timestampMs
  grid : ∀ sample ∈ scores, (sample.timestampMs - originMs scores) % cadenceMs = 0

/-- The scores by slot of the grid, zero where an observation is missing. -/
def slotSeries (slot : ℤ) : K := (scoreAt scores (originMs scores + slot * cadenceMs)).getD 0

def slotOf (sample : Score K) : ℤ := (sample.timestampMs - originMs scores) / cadenceMs

/-! ### Sums over slots -/

theorem crossSum_eq (deltaMs : ℤ) :
    (crossSum scores deltaMs).1 = (scores.map fun sample =>
      sample.score * (scoreAt scores (sample.timestampMs - deltaMs)).getD 0).sum := by
  have folded (rest : List (Score K)) (total : K × ℕ) :
      (rest.foldl (fun (crossSum, pairs) sample =>
        match scoreAt scores (sample.timestampMs - deltaMs) with
        | some prior => (crossSum + sample.score * prior, pairs + 1)
        | none => (crossSum, pairs)) total).1 = total.1 + (rest.map fun sample =>
          sample.score * (scoreAt scores (sample.timestampMs - deltaMs)).getD 0).sum := by
    induction rest generalizing total with
    | nil => simp
    | cons sample rest inductionHypothesis =>
      rw [List.foldl_cons, inductionHypothesis, List.map_cons, List.sum_cons, ← add_assoc]
      cases scoreAt scores (sample.timestampMs - deltaMs) with
      | none => rw [Option.getD_none, mul_zero, add_zero]
      | some prior => rfl
  exact (folded scores (0, 0)).trans (zero_add _)

theorem longRun_eq (maxLag : ℕ) :
    (longRun cadenceMs scores maxLag).1 =
      (scores.map fun sample => sample.score * sample.score).sum +
        ∑ lag ∈ Finset.range maxLag, 2 * (1 - ((lag + 1 : ℕ) : K) / (maxLag + 1)) *
          (crossSum scores ((lag + 1 : ℕ) * cadenceMs)).1 := by
  have folded (lags : List ℕ) (sums : K × List ℕ) :
      (lags.foldl (lagStep cadenceMs scores maxLag) sums).1 = sums.1 + (lags.map fun lag : ℕ =>
        2 * (1 - (lag : K) / (maxLag + 1)) * (crossSum scores (lag * cadenceMs)).1).sum := by
    induction lags generalizing sums with
    | nil => simp
    | cons lag rest inductionHypothesis =>
      rw [List.foldl_cons, inductionHypothesis, List.map_cons, List.sum_cons, ← add_assoc]
      rfl
  unfold longRun
  rw [folded, List.map_map]
  refine congrArg _ ?_
  show _ = ((Multiset.range maxLag).map _).sum
  rw [Multiset.range, Multiset.map_coe, Multiset.sum_coe]
  rfl

variable {cadenceMs scores}

omit [Field K] in
theorem OnGrid.scoreAt_self (onGrid : OnGrid cadenceMs scores) {sample : Score K}
    (member : sample ∈ scores) : scoreAt scores sample.timestampMs = some sample.score := by
  unfold scoreAt
  cases found : scores.reverse.find? fun other => other.timestampMs = sample.timestampMs with
  | none =>
    have missed := List.find?_eq_none.mp found sample (List.mem_reverse.mpr member)
    exact absurd (decide_eq_true rfl) missed
  | some other =>
    have held : other ∈ scores := List.mem_reverse.mp (List.mem_of_find?_eq_some found)
    have stamp := List.find?_some found
    rw [decide_eq_true_iff] at stamp
    have distinct : scores.Pairwise fun first second =>
        first.timestampMs ≠ second.timestampMs := onGrid.increasing.imp ne_of_lt
    have same := List.inj_on_of_nodup_map (List.pairwise_map.mpr distinct) held member stamp
    rw [same]
    rfl

omit [Field K] in
theorem OnGrid.slotOf_mul (onGrid : OnGrid cadenceMs scores) {sample : Score K}
    (member : sample ∈ scores) :
    originMs scores + slotOf cadenceMs scores sample * cadenceMs = sample.timestampMs := by
  have divides := Int.dvd_of_emod_eq_zero (onGrid.grid sample member)
  unfold slotOf
  rw [Int.ediv_mul_cancel divides, add_sub_cancel]

theorem OnGrid.slotSeries_slotOf (onGrid : OnGrid cadenceMs scores) {sample : Score K}
    (member : sample ∈ scores) :
    slotSeries cadenceMs scores (slotOf cadenceMs scores sample) = sample.score := by
  unfold slotSeries
  rw [onGrid.slotOf_mul member, onGrid.scoreAt_self member]
  rfl

variable (cadence : cadenceMs ≠ 0)

include cadence

theorem mem_slots_of_slotSeries {slot : ℤ} (nonzero : slotSeries cadenceMs scores slot ≠ 0) :
    slot ∈ scores.map (slotOf cadenceMs scores) := by
  unfold slotSeries scoreAt at nonzero
  cases found : scores.reverse.find? fun sample =>
      sample.timestampMs = originMs scores + slot * cadenceMs with
  | none =>
    rw [found] at nonzero
    exact absurd rfl nonzero
  | some sample =>
    have member : sample ∈ scores := List.mem_reverse.mp (List.mem_of_find?_eq_some found)
    have stamp := List.find?_some found
    rw [decide_eq_true_iff] at stamp
    refine List.mem_map.mpr ⟨sample, member, ?_⟩
    unfold slotOf
    rw [stamp, add_sub_cancel_left, Int.mul_ediv_cancel _ cadence]

/-- Nothing but the observations is in the series. -/
theorem slotSeries_finite : (slotSeries cadenceMs scores).support.Finite :=
  ((scores.map (slotOf cadenceMs scores)).toFinset.finite_toSet).subset fun _ nonzero =>
    List.mem_toFinset.mpr (mem_slots_of_slotSeries cadence nonzero)

omit [Field K] cadence in
theorem OnGrid.slots_nodup (onGrid : OnGrid cadenceMs scores) :
    (scores.map (slotOf cadenceMs scores)).Nodup := by
  refine List.pairwise_map.mpr (onGrid.increasing.imp_of_mem ?_)
  intro earlier later early late before same
  refine before.ne ?_
  rw [← onGrid.slotOf_mul early, ← onGrid.slotOf_mul late, same]

/-- The products of a lag are the products over the pairs that lie so far apart. -/
theorem OnGrid.lagged_eq (onGrid : OnGrid cadenceMs scores) (lag : ℤ) :
    Bartlett.lagged (slotSeries cadenceMs scores) lag =
      (crossSum scores (lag * cadenceMs)).1 := by
  have inside : (fun slot => slotSeries cadenceMs scores slot *
      slotSeries cadenceMs scores (slot - lag)).support ⊆
        ((scores.map (slotOf cadenceMs scores)).toFinset : Set ℤ) := fun _ nonzero =>
    List.mem_toFinset.mpr (mem_slots_of_slotSeries cadence (left_ne_zero_of_mul nonzero))
  unfold Bartlett.lagged
  rw [finsum_eq_sum_of_support_subset _ inside, List.sum_toFinset _ onGrid.slots_nodup,
    crossSum_eq, List.map_map]
  refine congrArg List.sum (List.map_congr_left fun sample member => ?_)
  have shifted : originMs scores + (slotOf cadenceMs scores sample - lag) * cadenceMs =
      sample.timestampMs - lag * cadenceMs := by
    rw [← onGrid.slotOf_mul member]
    ring
  have earlier : slotSeries cadenceMs scores (slotOf cadenceMs scores sample - lag) =
      (scoreAt scores (sample.timestampMs - lag * cadenceMs)).getD 0 := by
    unfold slotSeries
    rw [shifted]
  exact congrArg₂ _ (onGrid.slotSeries_slotOf member) earlier

theorem OnGrid.longRun_eq_neweyWest (onGrid : OnGrid cadenceMs scores) (maxLag : ℕ) :
    (longRun cadenceMs scores maxLag).1 =
      Bartlett.neweyWest maxLag (slotSeries cadenceMs scores) := by
  have squares : (scores.map fun sample => sample.score * sample.score).sum =
      Bartlett.lagged (slotSeries cadenceMs scores) 0 := by
    rw [onGrid.lagged_eq cadence, crossSum_eq]
    refine congrArg List.sum (List.map_congr_left fun sample member => ?_)
    rw [zero_mul, sub_zero, onGrid.scoreAt_self member]
    rfl
  rw [longRun_eq, squares]
  unfold Bartlett.neweyWest
  refine congrArg _ (Finset.sum_congr rfl fun lag _ => ?_)
  rw [onGrid.lagged_eq cadence]

end

/-! ### Scaled scores -/

section

variable {K : Type*} [Field K] {cadenceMs : ℤ} (factor : K) (scores : List (Score K))

def Score.scale (sample : Score K) : Score K := ⟨sample.timestampMs, factor * sample.score⟩

theorem scoreAt_scale (timestampMs : ℤ) :
    scoreAt (scores.map (Score.scale factor)) timestampMs =
      (scoreAt scores timestampMs).map (factor * ·) := by
  unfold scoreAt
  rw [← List.map_reverse, List.find?_map, Option.map_map, Option.map_map]
  rfl

theorem crossSum_scale (deltaMs : ℤ) :
    crossSum (scores.map (Score.scale factor)) deltaMs =
      (factor * factor * (crossSum scores deltaMs).1, (crossSum scores deltaMs).2) := by
  have folded (rest : List (Score K)) (total : K × ℕ) :
      (rest.map (Score.scale factor)).foldl (fun (crossSum, pairs) sample =>
          match scoreAt (scores.map (Score.scale factor)) (sample.timestampMs - deltaMs) with
          | some prior => (crossSum + sample.score * prior, pairs + 1)
          | none => (crossSum, pairs)) (factor * factor * total.1, total.2) =
        Prod.map (factor * factor * ·) id (rest.foldl (fun (crossSum, pairs) sample =>
          match scoreAt scores (sample.timestampMs - deltaMs) with
          | some prior => (crossSum + sample.score * prior, pairs + 1)
          | none => (crossSum, pairs)) total) := by
    induction rest generalizing total with
    | nil => rfl
    | cons sample rest inductionHypothesis =>
      rw [List.map_cons, List.foldl_cons, List.foldl_cons, ← inductionHypothesis, scoreAt_scale]
      unfold Score.scale
      dsimp only
      cases scoreAt scores (sample.timestampMs - deltaMs) with
      | none => rfl
      | some prior =>
        rw [Option.map_some]
        refine congrArg (fun sum => List.foldl _ (sum, total.2 + 1) _) ?_
        ring
  have whole := folded scores (0, 0)
  rw [mul_zero] at whole
  exact whole

theorem longRun_scale (maxLag : ℕ) :
    longRun cadenceMs (scores.map (Score.scale factor)) maxLag =
      (factor * factor * (longRun cadenceMs scores maxLag).1,
        (longRun cadenceMs scores maxLag).2) := by
  have folded (lags : List ℕ) (sums : K × List ℕ) :
      lags.foldl (lagStep cadenceMs (scores.map (Score.scale factor)) maxLag)
          (factor * factor * sums.1, sums.2) =
        Prod.map (factor * factor * ·) id (lags.foldl (lagStep cadenceMs scores maxLag) sums) := by
    induction lags generalizing sums with
    | nil => rfl
    | cons lag rest inductionHypothesis =>
      rw [List.foldl_cons, List.foldl_cons, ← inductionHypothesis]
      unfold lagStep
      rw [crossSum_scale]
      refine congrArg (fun sum => List.foldl _ (sum, _) _) ?_
      ring
  have squares : ((scores.map (Score.scale factor)).map fun sample =>
      sample.score * sample.score).sum =
        factor * factor * (scores.map fun sample => sample.score * sample.score).sum := by
    rw [List.map_map, ← List.sum_map_mul_left]
    exact congrArg List.sum (List.map_congr_left fun sample _ => mul_mul_mul_comm _ _ _ _)
  unfold longRun
  rw [squares, List.length_map]
  exact folded _ ((scores.map fun sample => sample.score * sample.score).sum, [scores.length])

end

/-! ### The sign of the sum -/

section

variable {K : Type*} [Field K] [LinearOrder K] [IsStrictOrderedRing K] {cadenceMs : ℤ}
  {scores : List (Score K)}

/-- On a grid with any holes the long-run sum is the weighted sum of the series that is zero at the
missing slots, the mean of the squares over its moving windows, and zero only without scores. -/
theorem longRun_sound (cadence : cadenceMs ≠ 0) (onGrid : OnGrid cadenceMs scores) (maxLag : ℕ) :
    (longRun cadenceMs scores maxLag).1 =
        Bartlett.neweyWest maxLag (slotSeries cadenceMs scores) ∧
      (longRun cadenceMs scores maxLag).1 = 1 / (maxLag + 1) *
        ∑ᶠ slot, Bartlett.windowSum maxLag (slotSeries cadenceMs scores) slot ^ 2 ∧
      0 ≤ (longRun cadenceMs scores maxLag).1 ∧
      ((longRun cadenceMs scores maxLag).1 = 0 → ∀ sample ∈ scores, sample.score = 0) := by
  have finite : (slotSeries cadenceMs scores).support.Finite := slotSeries_finite cadence
  have weighted := onGrid.longRun_eq_neweyWest cadence maxLag
  refine ⟨weighted, weighted.trans (Bartlett.neweyWest_eq finite maxLag), ?_, ?_⟩
  · rw [weighted]
    exact Bartlett.neweyWest_nonneg finite maxLag
  · intro vanishes sample member
    rw [weighted] at vanishes
    rw [← onGrid.slotSeries_slotOf member,
      (Bartlett.neweyWest_eq_zero_iff finite maxLag).mp vanishes]
    rfl

/-- Three scores with a hole before the last one. -/
def holedScores : List (Score ℚ) := [⟨0, 1⟩, ⟨900000, -1⟩, ⟨2700000, 2⟩]

theorem holedScores_nonneg : 0 ≤ (longRun 900000 holedScores 3).1 := by
  have onGrid : OnGrid 900000 holedScores := ⟨by decide, by decide⟩
  exact (longRun_sound (by decide) onGrid 3).2.2.1

end

end QuantAgent.Inference
