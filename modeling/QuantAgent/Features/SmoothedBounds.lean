/-
This file bounds the smoothed indicators. The true range of a bar is at least its two directional
movements together, whatever the gap to the previous bar. The triples with this property form a
convex set, so their smoothing keeps it; the strength indicators follow at each index, and none of
their divisions is by zero.
-/

import QuantAgent.Features.LatestValues

namespace QuantAgent.Indicators

structure PriceBar (K : Type) [LinearOrder K] where
  openPrice : K
  high : K
  low : K
  close : K
  lowBound : low ≤ min openPrice close
  highBound : max openPrice close ≤ high

namespace PriceBar

variable {K : Type} [LinearOrder K]

theorem low_le_close (bar : PriceBar K) : bar.low ≤ bar.close :=
  bar.lowBound.trans (min_le_right _ _)

theorem close_le_high (bar : PriceBar K) : bar.close ≤ bar.high :=
  (le_max_right _ _).trans bar.highBound

end PriceBar

theorem length_changesAfter {K : Type} [Field K] (part : K → K) (prior : K) (values : List K) :
    (changesAfter part prior values).length = values.length := by
  induction values generalizing prior with
  | nil => rfl
  | cons current rest inductionHypothesis =>
    rw [changesAfter, List.length_cons, inductionHypothesis, List.length_cons]

theorem length_changes {K : Type} [Field K] (part : K → K) {values : List K}
    (nonempty : values ≠ []) : (changes part values).length = values.length := by
  cases values with
  | nil => exact absurd rfl nonempty
  | cons first rest =>
    rw [changes, List.length_cons, length_changesAfter, List.length_cons]

section

variable {K : Type} [Field K] [LinearOrder K]

/-! ### The movement of a bar -/

/-- The true range and the two directional movements of a bar after another. -/
def movedFrom (previous bar : PriceBar K) : K × K × K :=
  (max (max (bar.high - bar.low) |bar.high - previous.close|) |bar.low - previous.close|,
    dominant (bar.high - previous.high) (previous.low - bar.low),
    dominant (previous.low - bar.low) (bar.high - previous.high))

def movedAfter : PriceBar K → List (PriceBar K) → List (K × K × K)
  | _, [] => []
  | previous, bar :: rest => movedFrom previous bar :: movedAfter bar rest

/-- The triples of a series: the first bar has a range and no movement. -/
def movedOf : List (PriceBar K) → List (K × K × K)
  | [] => []
  | first :: rest => (first.high - first.low, 0, 0) :: movedAfter first rest

section

variable (bars : List (PriceBar K))

def highsOf : List K := bars.map PriceBar.high

def lowsOf : List K := bars.map PriceBar.low

def closesOf : List K := bars.map PriceBar.close

theorem length_movedAfter (previous : PriceBar K) :
    (movedAfter previous bars).length = bars.length := by
  induction bars generalizing previous with
  | nil => rfl
  | cons bar rest inductionHypothesis =>
    rw [movedAfter, List.length_cons, inductionHypothesis, List.length_cons]

theorem length_movedOf : (movedOf bars).length = bars.length := by
  cases bars with
  | nil => rfl
  | cons first rest => rw [movedOf, List.length_cons, length_movedAfter, List.length_cons]

theorem rangesAfter_eq (previous : PriceBar K) :
    rangesAfter previous.close (highsOf bars) (lowsOf bars) (closesOf bars) =
      (movedAfter previous bars).map Prod.fst := by
  induction bars generalizing previous with
  | nil => rfl
  | cons bar rest inductionHypothesis =>
    exact congrArg (List.cons _) (inductionHypothesis bar)

theorem rangesOf_eq :
    rangesOf (highsOf bars) (lowsOf bars) (closesOf bars) = (movedOf bars).map Prod.fst := by
  cases bars with
  | nil => rfl
  | cons first rest => exact congrArg (List.cons _) (rangesAfter_eq rest first)

theorem movementsAfter_eq {movement : K → K → K} {part : K × K × K → K}
    (same : ∀ previous bar : PriceBar K,
      movement (bar.high - previous.high) (previous.low - bar.low) =
        part (movedFrom previous bar))
    (previous : PriceBar K) :
    movementsAfter movement previous.high previous.low (highsOf bars) (lowsOf bars) =
      (movedAfter previous bars).map part := by
  induction bars generalizing previous with
  | nil => rfl
  | cons bar rest inductionHypothesis =>
    show movement _ _ :: movementsAfter movement bar.high bar.low (highsOf rest) (lowsOf rest) = _
    rw [same, inductionHypothesis]
    rfl

theorem plusDm_eq (nonempty : bars ≠ []) :
    plusDm (highsOf bars) (lowsOf bars) = (movedOf bars).map fun moved => moved.2.1 := by
  cases bars with
  | nil => exact absurd rfl nonempty
  | cons first rest =>
    exact congrArg (List.cons _) (movementsAfter_eq rest (fun _ _ => rfl) first)

theorem minusDm_eq (nonempty : bars ≠ []) :
    minusDm (highsOf bars) (lowsOf bars) = (movedOf bars).map fun moved => moved.2.2 := by
  cases bars with
  | nil => exact absurd rfl nonempty
  | cons first rest =>
    exact congrArg (List.cons _) (movementsAfter_eq rest (fun _ _ => rfl) first)

end

def smoothedMoves (period : ℤ) (bars : List (PriceBar K)) : List (K × K × K) :=
  Smoothing.smooth (1 / (period : K)) (movedOf bars)

theorem length_smoothedMoves (period : ℤ) (bars : List (PriceBar K)) :
    (smoothedMoves period bars).length = bars.length := by
  rw [smoothedMoves, Smoothing.length_smooth, length_movedOf]

theorem trueRanges_eq {bars : List (PriceBar K)} (nonempty : bars ≠ []) :
    trueRanges (highsOf bars) (lowsOf bars) (closesOf bars) =
      .ok ((movedOf bars).map Prod.fst) := by
  have admitted : ¬ (¬ ((highsOf bars).length = (lowsOf bars).length ∧
      (lowsOf bars).length = (closesOf bars).length) ∨ closesOf bars = []) := by
    unfold highsOf lowsOf closesOf
    simpa using nonempty
  unfold trueRanges
  rw [refuse_of_not admitted, ok_bind, rangesOf_eq]
  rfl

/-! ### Gains and losses -/

theorem changesAfter_nonneg {part : K → K} (nonneg : ∀ change, 0 ≤ part change) (prior : K)
    (values : List K) : ∀ change ∈ changesAfter part prior values, 0 ≤ change := by
  induction values generalizing prior with
  | nil => exact fun _ member => nomatch member
  | cons current rest inductionHypothesis =>
    intro change member
    rcases List.mem_cons.mp member with rfl | later
    · exact nonneg _
    · exact inductionHypothesis current change later

theorem changes_nonneg {part : K → K} (nonneg : ∀ change, 0 ≤ part change) (values : List K) :
    ∀ change ∈ changes part values, change ∈ Set.Ici (0 : K) := by
  cases values with
  | nil =>
    intro change member
    rw [List.mem_singleton.mp member]
    exact le_refl _
  | cons first rest =>
    intro change member
    rcases List.mem_cons.mp member with rfl | later
    · exact le_refl _
    · exact changesAfter_nonneg nonneg first rest change later

/-! ### The range covers the movements -/

theorem directionalIndex_eq {tr movement : K} (range : 0 < tr) :
    directionalIndex movement tr = .ok (100 * movement / tr) :=
  divide_of_ne range.ne'

theorem dominant_nonneg (up down : K) : 0 ≤ dominant up down := by
  unfold dominant
  split_ifs with dominates
  · exact dominates.2.le
  · exact le_refl _

/-- Only the larger of two movements counts. -/
theorem dominant_add_le {up down bound : K} (nonneg : 0 ≤ bound) (upBound : up ≤ bound)
    (downBound : down ≤ bound) : dominant up down + dominant down up ≤ bound := by
  unfold dominant
  split_ifs with rises falls falls
  · exact absurd falls.1 (not_lt.mpr rises.1.le)
  · rw [add_zero]
    exact upBound
  · rw [zero_add]
    exact downBound
  · rw [add_zero]
    exact nonneg

variable [IsStrictOrderedRing K]

/-- The triples whose movements are not negative and together at most the range. -/
def Covered (K : Type) [Field K] [LinearOrder K] : Set (K × K × K) :=
  {moved | 0 ≤ moved.2.1 ∧ 0 ≤ moved.2.2 ∧ moved.2.1 + moved.2.2 ≤ moved.1}

theorem convex_covered : Convex K (Covered K) := by
  rintro first ⟨plus, minus, range⟩ second ⟨otherPlus, otherMinus, otherRange⟩ share rest
    nonneg restNonneg -
  refine ⟨?_, ?_, ?_⟩
  · exact add_nonneg (mul_nonneg nonneg plus) (mul_nonneg restNonneg otherPlus)
  · exact add_nonneg (mul_nonneg nonneg minus) (mul_nonneg restNonneg otherMinus)
  · have scaled := mul_le_mul_of_nonneg_left range nonneg
    have otherScaled := mul_le_mul_of_nonneg_left otherRange restNonneg
    show share * first.2.1 + rest * second.2.1 + (share * first.2.2 + rest * second.2.2) ≤
      share * first.1 + rest * second.1
    linarith

/-- Across any gap the true range covers the movements of a bar. -/
theorem movedFrom_covered (previous bar : PriceBar K) : movedFrom previous bar ∈ Covered K := by
  refine ⟨dominant_nonneg _ _, dominant_nonneg _ _, dominant_add_le ?_ ?_ ?_⟩
  · exact (abs_nonneg _).trans (le_max_right _ _)
  · calc bar.high - previous.high ≤ bar.high - previous.close :=
          sub_le_sub_left previous.close_le_high _
      _ ≤ |bar.high - previous.close| := le_abs_self _
      _ ≤ _ := (le_max_right _ _).trans (le_max_left _ _)
  · calc previous.low - bar.low ≤ previous.close - bar.low :=
          sub_le_sub_right previous.low_le_close _
      _ ≤ |bar.low - previous.close| := by
          rw [abs_sub_comm]
          exact le_abs_self _
      _ ≤ _ := le_max_right _ _

theorem movedAfter_covered (previous : PriceBar K) (bars : List (PriceBar K)) :
    ∀ moved ∈ movedAfter previous bars, moved ∈ Covered K := by
  induction bars generalizing previous with
  | nil => exact fun _ member => nomatch member
  | cons bar rest inductionHypothesis =>
    intro moved member
    rcases List.mem_cons.mp member with rfl | later
    · exact movedFrom_covered previous bar
    · exact inductionHypothesis bar moved later

theorem movedOf_covered (bars : List (PriceBar K)) :
    ∀ moved ∈ movedOf bars, moved ∈ Covered K := by
  cases bars with
  | nil => exact fun _ member => nomatch member
  | cons first rest =>
    intro moved member
    rcases List.mem_cons.mp member with rfl | later
    · refine ⟨le_refl _, le_refl _, ?_⟩
      rw [add_zero]
      exact sub_nonneg.mpr (first.low_le_close.trans first.close_le_high)
    · exact movedAfter_covered first rest moved later

/-! ### Smoothing -/

variable {period : ℤ}

theorem share_bounds (positive : 0 < period) : 0 ≤ 1 / (period : K) ∧ 1 / (period : K) ≤ 1 := by
  have atLeastOne : (1 : K) ≤ period := by exact_mod_cast positive
  exact ⟨div_nonneg zero_le_one (zero_le_one.trans atLeastOne),
    (div_le_one (zero_lt_one.trans_le atLeastOne)).mpr atLeastOne⟩

theorem wilder_eq (positive : 0 < period) {values : List K} (nonempty : values ≠ []) :
    wilder values period = .ok (Smoothing.smooth (1 / (period : K)) values) := by
  have passes : ¬ (period ≤ 0 ∨ values = []) := not_or.mpr ⟨not_le.mpr positive, nonempty⟩
  have divisor : (period : K) ≠ 0 := Int.cast_ne_zero.mpr positive.ne'
  unfold wilder
  rw [refuse_of_not passes, ok_bind, divide_of_ne divisor, ok_bind]
  rfl

theorem wilder_part (positive : 0 < period) {bars : List (PriceBar K)} (nonempty : bars ≠ [])
    (part : K × K × K →ₗ[K] K) :
    wilder ((movedOf bars).map part) period =
      .ok ((Smoothing.smooth (1 / (period : K)) (movedOf bars)).map part) := by
  have some : (movedOf bars).map part ≠ [] := by
    rw [← List.length_pos_iff, List.length_map, length_movedOf]
    exact List.length_pos_iff.mpr nonempty
  rw [wilder_eq positive some, Smoothing.smooth_map]

/-! ### The strength indicators -/

/-- The loop body of `adx` has a value between 0 and 100, and where the range is positive the
two directional indices are at most 100 together. -/
theorem dxOf_bounds (tr : K) {plus minus : K} (plusNonneg : 0 ≤ plus) (minusNonneg : 0 ≤ minus) :
    ∃ dx, dxOf tr plus minus = .ok dx ∧ 0 ≤ dx ∧ dx ≤ 100 := by
  unfold dxOf
  split_ifs with flat
  · exact ⟨0, rfl, le_refl _, by norm_num⟩
  have range : 0 < tr := not_le.mp flat
  have plusDi : 0 ≤ 100 * plus / tr := by positivity
  have minusDi : 0 ≤ 100 * minus / tr := by positivity
  unfold directionalIndex
  rw [divide_of_ne range.ne', ok_bind, divide_of_ne range.ne', ok_bind]
  dsimp only
  split_ifs with moves
  · have denom : 0 < 100 * plus / tr + 100 * minus / tr :=
      lt_of_le_of_ne (add_nonneg plusDi minusDi) moves.symm
    refine ⟨_, divide_of_ne moves, by positivity, ?_⟩
    rw [div_le_iff₀ denom]
    refine mul_le_mul_of_nonneg_left ?_ (by norm_num)
    rw [abs_le]
    constructor <;> linarith
  · exact ⟨0, rfl, le_refl _, by norm_num⟩

theorem rsiOf_bounds {gain loss : K} (gainNonneg : 0 ≤ gain) (lossNonneg : 0 ≤ loss) :
    ∃ strength, rsiOf gain loss = .ok strength ∧ 0 ≤ strength ∧ strength ≤ 100 := by
  unfold rsiOf
  by_cases still : loss = 0
  · rw [if_pos still]
    refine ⟨_, rfl, ?_⟩
    split_ifs <;> norm_num
  · have relative : 0 ≤ gain / loss := div_nonneg gainNonneg lossNonneg
    have whole : 0 < 1 + gain / loss := by linarith
    rw [if_neg still, divide_of_ne still, ok_bind, divide_of_ne whole.ne', ok_bind]
    refine ⟨_, rfl, ?_, ?_⟩
    · rw [sub_nonneg, div_le_iff₀ whole]
      linarith
    · rw [sub_le_self_iff]
      positivity

theorem wilder_bounds (positive : 0 < period) {values : List K} (nonempty : values ≠ [])
    {held : Set K} (convex : Convex K held) (bounds : ∀ value ∈ values, value ∈ held) :
    ∃ smoothed, wilder values period = .ok smoothed ∧ smoothed.length = values.length ∧
      ∀ value ∈ smoothed, value ∈ held := by
  obtain ⟨nonneg, atMostOne⟩ := share_bounds (K := K) positive
  exact ⟨_, wilder_eq positive nonempty, Smoothing.length_smooth _ _,
    Smoothing.smooth_mem convex nonneg atMostOne bounds⟩

/-- `rsi` of any series that is not empty lies between 0 and 100. -/
theorem rsi_bounds (positive : 0 < period) {values : List K} (nonempty : values ≠ []) :
    ∃ strengths, rsi values period = .ok strengths ∧ strengths.length = values.length ∧
      ∀ strength ∈ strengths, 0 ≤ strength ∧ strength ≤ 100 := by
  have passes : ¬ (period ≤ 0 ∨ values = []) := not_or.mpr ⟨not_le.mpr positive, nonempty⟩
  have some (part : K → K) : changes part values ≠ [] := by
    rw [← List.length_pos_iff, length_changes part nonempty]
    exact List.length_pos_iff.mpr nonempty
  obtain ⟨avgGain, gained, gainLength, gainNonneg⟩ := wilder_bounds positive (some _)
    (convex_Ici 0) (changes_nonneg (fun _ => le_max_right _ _) values)
  obtain ⟨avgLoss, lost, lossLength, lossNonneg⟩ := wilder_bounds positive (some _)
    (convex_Ici 0) (changes_nonneg (fun _ => le_max_right _ _) values)
  have each : ∀ averages ∈ avgGain.zip avgLoss, ∃ strength,
      rsiOf averages.1 averages.2 = .ok strength := by
    intro averages member
    obtain ⟨inGain, inLoss⟩ := List.of_mem_zip member
    obtain ⟨strength, done, -⟩ := rsiOf_bounds (gainNonneg _ inGain) (lossNonneg _ inLoss)
    exact ⟨strength, done⟩
  obtain ⟨strengths, done⟩ := Ranking.mapM_succeeds each
  refine ⟨strengths, ?_, ?_, ?_⟩
  · unfold rsi gains losses
    rw [refuse_of_not passes, ok_bind, gained, ok_bind, lost, ok_bind]
    exact done
  · rw [← (Ranking.mapM_eq_ok_iff.mp done).length_eq, List.length_zip, gainLength, lossLength,
      length_changes _ nonempty, length_changes _ nonempty, min_self]
  · intro strength member
    obtain ⟨averages, listed, own⟩ := Ranking.exists_of_mem_mapM done member
    obtain ⟨inGain, inLoss⟩ := List.of_mem_zip listed
    obtain ⟨found, same, bounds⟩ := rsiOf_bounds (gainNonneg _ inGain) (lossNonneg _ inLoss)
    rw [own] at same
    rw [Except.ok.inj same]
    exact bounds

/-! ### The smoothed triples -/

section Triples

variable {bars : List (PriceBar K)}

section

variable (positive : 0 < period)

include positive

theorem smoothedMoves_covered :
    ∀ moved ∈ smoothedMoves period bars, moved ∈ Covered K :=
  Smoothing.smooth_mem convex_covered (share_bounds positive).1 (share_bounds positive).2
    (movedOf_covered bars)

theorem wilder_ranges (nonempty : bars ≠ []) :
    wilder ((movedOf bars).map Prod.fst) period =
      .ok ((smoothedMoves period bars).map Prod.fst) :=
  wilder_part positive nonempty (LinearMap.fst K K (K × K))

theorem atr_eq (nonempty : bars ≠ []) :
    atr (highsOf bars) (lowsOf bars) (closesOf bars) period =
      .ok ((smoothedMoves period bars).map Prod.fst) := by
  unfold atr
  rw [trueRanges_eq nonempty, ok_bind, wilder_ranges positive nonempty]

theorem wilder_plusDm (nonempty : bars ≠ []) :
    wilder (plusDm (highsOf bars) (lowsOf bars)) period =
      .ok ((smoothedMoves period bars).map fun moved => moved.2.1) := by
  rw [plusDm_eq bars nonempty]
  exact wilder_part positive nonempty (LinearMap.fst K K K ∘ₗ LinearMap.snd K K (K × K))

theorem wilder_minusDm (nonempty : bars ≠ []) :
    wilder (minusDm (highsOf bars) (lowsOf bars)) period =
      .ok ((smoothedMoves period bars).map fun moved => moved.2.2) := by
  rw [minusDm_eq bars nonempty]
  exact wilder_part positive nonempty (LinearMap.snd K K K ∘ₗ LinearMap.snd K K (K × K))

/-- `adx` of any bars lies between 0 and 100. -/
theorem adx_bounds (nonempty : bars ≠ []) :
    ∃ strengths, adx (highsOf bars) (lowsOf bars) (closesOf bars) period = .ok strengths ∧
      strengths.length = bars.length ∧ ∀ strength ∈ strengths, 0 ≤ strength ∧ strength ≤ 100 := by
  have count : (closesOf bars).length = bars.length := List.length_map _
  unfold adx
  rw [count]
  split_ifs with short
  · refine ⟨_, rfl, List.length_replicate, fun strength member => ?_⟩
    rw [List.eq_of_mem_replicate member]
    exact ⟨le_refl _, by norm_num⟩
  have covered : ∀ moved ∈ smoothedMoves period bars, moved ∈ Covered K :=
    smoothedMoves_covered positive
  have zipped : ((smoothedMoves period bars).map Prod.fst).zip
      (((smoothedMoves period bars).map fun moved => moved.2.1).zip
        ((smoothedMoves period bars).map fun moved => moved.2.2)) = smoothedMoves period bars := by
    rw [List.zip_map', List.zip_map']
    exact List.map_id _
  have each : ∀ moved ∈ smoothedMoves period bars,
      ∃ dx, dxOf moved.1 moved.2.1 moved.2.2 = .ok dx := by
    intro moved member
    obtain ⟨plus, minus, -⟩ := covered moved member
    obtain ⟨dx, done, -⟩ := dxOf_bounds moved.1 plus minus
    exact ⟨dx, done⟩
  obtain ⟨dx, done⟩ := Ranking.mapM_succeeds each
  have length : dx.length = bars.length := by
    rw [← (Ranking.mapM_eq_ok_iff.mp done).length_eq, length_smoothedMoves]
  have bounds : ∀ value ∈ dx, value ∈ Set.Icc (0 : K) 100 := by
    intro value member
    obtain ⟨moved, listed, own⟩ := Ranking.exists_of_mem_mapM done member
    obtain ⟨plus, minus, -⟩ := covered moved listed
    obtain ⟨found, same, inside⟩ := dxOf_bounds moved.1 plus minus
    rw [own] at same
    rw [Except.ok.inj same]
    exact inside
  have some : dx ≠ [] := by
    rw [← List.length_pos_iff, length]
    exact List.length_pos_iff.mpr nonempty
  obtain ⟨strengths, smoothed, sameLength, held⟩ :=
    wilder_bounds positive some (convex_Icc 0 100) bounds
  refine ⟨strengths, ?_, sameLength.trans length, held⟩
  rw [trueRanges_eq nonempty, ok_bind, wilder_ranges positive nonempty, ok_bind,
    wilder_plusDm positive nonempty, ok_bind, wilder_minusDm positive nonempty,
    ok_bind, zipped, done, ok_bind]
  exact smoothed

end

end Triples

/-- For every series of bars that is not empty and every positive period no division raises. At
each index the average true range is at least the two smoothed movements together and these are
not negative, so each directional index and their sum lie between 0 and 100 where the range is
positive; the average directional index and the relative strength lie between 0 and 100. -/
theorem indicators_bounded {bars : List (PriceBar K)} (nonempty : bars ≠ [])
    (positive : 0 < period) :
    ∃ atrValues plusSmoothed minusSmoothed adxValues rsiValues,
      (atr (highsOf bars) (lowsOf bars) (closesOf bars) period = .ok atrValues ∧
        wilder (plusDm (highsOf bars) (lowsOf bars)) period = .ok plusSmoothed ∧
        wilder (minusDm (highsOf bars) (lowsOf bars)) period = .ok minusSmoothed ∧
        adx (highsOf bars) (lowsOf bars) (closesOf bars) period = .ok adxValues ∧
        rsi (closesOf bars) period = .ok rsiValues) ∧
      (atrValues.length = bars.length ∧ plusSmoothed.length = bars.length ∧
        minusSmoothed.length = bars.length ∧ adxValues.length = bars.length ∧
        rsiValues.length = bars.length) ∧
      (∀ (index : ℕ) (tr plus minus : K), atrValues[index]? = some tr →
        plusSmoothed[index]? = some plus → minusSmoothed[index]? = some minus →
        0 ≤ tr ∧ 0 ≤ plus ∧ 0 ≤ minus ∧ plus + minus ≤ tr ∧
          (0 < tr → ∃ plusDi minusDi, directionalIndex plus tr = .ok plusDi ∧
            directionalIndex minus tr = .ok minusDi ∧ 0 ≤ plusDi ∧ plusDi ≤ 100 ∧
            0 ≤ minusDi ∧ minusDi ≤ 100 ∧ plusDi + minusDi ≤ 100)) ∧
      (∀ value ∈ adxValues, 0 ≤ value ∧ value ≤ 100) ∧
      ∀ value ∈ rsiValues, 0 ≤ value ∧ value ≤ 100 := by
  have closes : closesOf bars ≠ [] := mt List.map_eq_nil_iff.mp nonempty
  obtain ⟨adxValues, directed, adxLength, adxInside⟩ := adx_bounds positive nonempty
  obtain ⟨rsiValues, relative, rsiLength, rsiInside⟩ := rsi_bounds positive closes
  refine ⟨_, _, _, adxValues, rsiValues, ⟨atr_eq positive nonempty,
    wilder_plusDm positive nonempty, wilder_minusDm positive nonempty, directed, relative⟩,
    ⟨?_, ?_, ?_, adxLength, rsiLength.trans (List.length_map _)⟩, ?_, adxInside, rsiInside⟩
  · rw [List.length_map, length_smoothedMoves]
  · rw [List.length_map, length_smoothedMoves]
  · rw [List.length_map, length_smoothedMoves]
  intro index tr plus minus hasRange hasPlus hasMinus
  rw [List.getElem?_map] at hasRange hasPlus hasMinus
  obtain ⟨moved, found, rfl⟩ := Option.map_eq_some_iff.mp hasRange
  rw [found] at hasPlus hasMinus
  obtain rfl := Option.some.inj hasPlus
  obtain rfl := Option.some.inj hasMinus
  obtain ⟨plusNonneg, minusNonneg, covers⟩ :=
    smoothedMoves_covered positive moved (List.mem_of_getElem? found)
  refine ⟨(add_nonneg plusNonneg minusNonneg).trans covers, plusNonneg, minusNonneg, covers, ?_⟩
  intro range
  have plusDi : 0 ≤ 100 * moved.2.1 / moved.1 := by positivity
  have minusDi : 0 ≤ 100 * moved.2.2 / moved.1 := by positivity
  have together : 100 * moved.2.1 / moved.1 + 100 * moved.2.2 / moved.1 ≤ 100 := by
    rw [← add_div, ← mul_add, div_le_iff₀ range]
    exact mul_le_mul_of_nonneg_left covers (by norm_num)
  exact ⟨_, _, directionalIndex_eq range, directionalIndex_eq range, plusDi, by linarith, minusDi,
    by linarith, together⟩

/-- A gap upwards after a flat bar. -/
def gappingBars : List (PriceBar ℚ) :=
  [⟨10, 10, 10, 10, by decide, by decide⟩, ⟨15, 16, 14, 15, by decide, by decide⟩]

theorem indicators_bounded_gapping :
    ∃ adxValues rsiValues,
      adx (highsOf gappingBars) (lowsOf gappingBars) (closesOf gappingBars) 14 = .ok adxValues ∧
        rsi (closesOf gappingBars) 14 = .ok rsiValues ∧
        (∀ value ∈ adxValues, 0 ≤ value ∧ value ≤ 100) ∧
        ∀ value ∈ rsiValues, 0 ≤ value ∧ value ≤ 100 := by
  have nonempty : gappingBars ≠ [] := by simp [gappingBars]
  obtain ⟨_, _, _, adxValues, rsiValues, ⟨-, -, -, directed, relative⟩, -, -, adxInside,
    rsiInside⟩ := indicators_bounded nonempty (by decide : (0 : ℤ) < 14)
  exact ⟨adxValues, rsiValues, directed, relative, adxInside, rsiInside⟩

end

end QuantAgent.Indicators
