/-
This file proves that the shortcuts for the latest percentile, score and band width agree with
the last entries of the rolling series. A window that is not positive is one the series refuse
and the shortcuts read as the whole series.
-/

import QuantAgent.Features.Indicators
import QuantAgent.Library.Ranking

namespace QuantAgent.Indicators

open Slices Numerals

section

variable {K : Type} [Field K] [LinearOrder K] {values sample : List K}

/-! ### What the entries are -/

theorem rankIn_nil (value : Except Fault K) : rankIn [] value = .error .zeroDivision :=
  if_pos Nat.cast_zero

theorem zscoreIn_nil (sqrt : K → K) (value : Except Fault K) :
    zscoreIn sqrt [] value = .error .zeroDivision := by
  have undefined : meanOf ([] : List K) = .error .zeroDivision := if_pos Nat.cast_zero
  unfold zscoreIn
  rw [undefined]
  rfl

theorem bollingerWidth_refused (sqrt : K → K) {period : ℤ} (refused : period ≤ 1)
    (values : List K) :
    bollingerWidth sqrt values period =
      .error (.valueError "Bollinger width requires values and period > 1") := by
  unfold bollingerWidth refuse
  rw [if_pos (.inl refused)]
  rfl

variable [IsStrictOrderedRing K]

theorem divide_length (value : K) (nonempty : sample ≠ []) :
    divide Fault.zeroDivision value (sample.length : K) = .ok (value / sample.length) :=
  divide_of_ne (Nat.cast_ne_zero.mpr (mt List.length_eq_zero_iff.mp nonempty))

theorem rankIn_succeeds (sample : List K) (value : K) (nonempty : sample ≠ []) :
    ∃ rank, rankIn sample (.ok value) = .ok rank := by
  have flags : (sample.mapM fun item : K => (do
      let reference ← (.ok value : Except Fault K)
      return decide (item ≤ reference) : Except Fault Bool)) =
        .ok (sample.map fun item => decide (item ≤ value)) :=
    Ranking.mapM_eq_map fun _ _ => rfl
  unfold rankIn
  rw [flags]
  exact ⟨_, divide_length _ nonempty⟩

variable (sqrt : K → K)

theorem zscoreIn_succeeds (sample : List K) (value : K) (nonempty : sample ≠ []) :
    ∃ score, zscoreIn sqrt sample (.ok value) = .ok score := by
  unfold zscoreIn meanOf varianceOf
  rw [divide_length _ nonempty, ok_bind, divide_length _ nonempty, ok_bind]
  dsimp only
  split_ifs with spread
  · exact ⟨_, divide_of_ne spread.ne'⟩
  · exact ⟨0, rfl⟩

def bandWidth (sample : List K) : K :=
  let mean := sample.sum / (sample.length : K)
  let variance := (sample.map fun value => (value - mean) ^ 2).sum / (sample.length : K)
  if mean ≠ 0 then 4 * sqrt variance / mean else 0

theorem widthOf_eq (nonempty : sample ≠ []) :
    widthOf sqrt sample = .ok (bandWidth sqrt sample) := by
  unfold widthOf meanOf varianceOf bandWidth
  rw [divide_length _ nonempty, ok_bind, divide_length _ nonempty, ok_bind]
  dsimp only
  split_ifs with level
  · exact divide_of_ne level
  · rfl

theorem bollingerWidth_eq {period : ℤ} (admitted : 1 < period) (nonempty : values ≠ []) :
    bollingerWidth sqrt values period =
      .ok ((windows period.toNat values).map (bandWidth sqrt)) := by
  have positive : 0 < period := by omega
  have passes : ¬ (period ≤ 1 ∨ values = []) := not_or.mpr ⟨not_le.mpr admitted, nonempty⟩
  unfold bollingerWidth windows
  rw [refuse_of_not passes, ok_bind, List.map_map]
  refine Ranking.mapM_eq_map fun index listed => ?_
  have inside := List.mem_range.mp listed
  rw [slice_window positive inside]
  refine widthOf_eq sqrt (rtake_ne_nil (by omega) ?_)
  rw [← List.length_pos_iff, List.length_take]
  omega

end

/-! ### The last entry of a rolling series -/

section

variable {K : Type} {values : List K} {statistic : List K → Except Fault K → Except Fault K}

def rolling (statistic : List K → Except Fault K → Except Fault K) (values : List K)
    (window : ℤ) : Except Fault (List K) :=
  values.zipIdx.mapM fun entry =>
    statistic (slice values (max 0 (entry.2 - window + 1)) (entry.2 + 1)) (.ok entry.1)

def Total (statistic : List K → Except Fault K → Except Fault K) : Prop :=
  ∀ sample value, sample ≠ [] → ∃ result, statistic sample (.ok value) = .ok result

theorem latest_rolling (total : Total statistic) (nonempty : values ≠ []) {window : ℤ}
    (positive : 0 < window) :
    ∃ result, (rolling statistic values window >>= latest) = .ok result ∧
      statistic (sliceFrom values (-window)) (latest values) = .ok result := by
  have each : ∀ entry ∈ values.zipIdx, ∃ result,
      statistic (slice values (max 0 (entry.2 - window + 1)) (entry.2 + 1)) (.ok entry.1) =
        .ok result := by
    intro entry member
    have inside : entry.2 < values.length := by
      have bounds := List.mem_zipIdx member
      omega
    rw [slice_window positive inside]
    refine total _ _ (rtake_ne_nil (by omega) ?_)
    rw [← List.length_pos_iff, List.length_take]
    omega
  obtain ⟨results, done⟩ := Ranking.mapM_succeeds each
  obtain ⟨value, final⟩ : ∃ value, values.getLast? = some value :=
    ⟨_, List.getLast?_eq_some_getLast nonempty⟩
  have length : 0 < values.length := List.length_pos_iff.mpr nonempty
  have entry : values.zipIdx.getLast? = some (value, values.length - 1) := by
    rw [List.getLast?_zipIdx, final, Nat.zero_add]
    rfl
  obtain ⟨result, found, own⟩ := Ranking.getLast?_of_mapM done entry
  refine ⟨result, ?_, ?_⟩
  · unfold rolling
    rw [done, ok_bind, latest, found]
    rfl
  · dsimp only at own
    rw [slice_window positive (by omega), Nat.sub_add_cancel length, List.take_length] at own
    rw [sliceFrom_neg positive, latest, final]
    exact own

/-- The series of a window that is not positive fails with its first entry. -/
theorem rolling_refused (undefined : ∀ value, statistic [] value = .error .zeroDivision)
    (nonempty : values ≠ []) {window : ℤ} (refused : window ≤ 0) :
    rolling statistic values window = .error .zeroDivision := by
  cases values with
  | nil => exact absurd rfl nonempty
  | cons first rest =>
    unfold rolling
    rw [List.zipIdx_cons, List.mapM_cons]
    dsimp only
    rw [slice_first_window refused, undefined]
    rfl

end

/-! ### The shortcuts -/

section

variable {K : Type} [Field K] [LinearOrder K] [IsStrictOrderedRing K] {values : List K}
  (sqrt : K → K)

/-- The shortcut for the band widths sees the last widths of the whole series. -/
theorem latestBbWidthPercentile_eq (closes : List K) (nonempty : closes ≠ []) (period : ℤ)
    {lookback : ℤ} (positive : 0 < lookback) :
    latestBbWidthPercentile sqrt closes period lookback =
      ((bollingerWidth sqrt closes period >>= fun widths => percentileRank widths lookback) >>=
        latest) := by
  by_cases refused : period ≤ 1
  · unfold latestBbWidthPercentile
    dsimp only
    rw [bollingerWidth_refused sqrt refused, bollingerWidth_refused sqrt refused]
    rfl
  have admitted : 1 < period := not_le.mp refused
  have count : 0 < closes.length := List.length_pos_iff.mpr nonempty
  have spans : 0 < lookback + period - 1 := by omega
  have sourced : closes.rtake (lookback + period - 1).toNat ≠ [] :=
    rtake_ne_nil (by omega) nonempty
  have least : 0 < min lookback (closes.length : ℤ) := lt_min positive (by omega)
  have sameSpan : (lookback + period - 1).toNat = lookback.toNat + period.toNat - 1 := by omega
  have sameLeast : (min lookback (closes.length : ℤ)).toNat =
      min lookback.toNat closes.length := by omega
  have series : (windows period.toNat closes).map (bandWidth sqrt) ≠ [] := by
    rw [← List.length_pos_iff, List.length_map, length_windows]
    exact count
  -- The entries that are kept have whole windows in the shortened source.
  have kept : sliceFrom ((windows period.toNat (closes.rtake (lookback + period - 1).toNat)).map
      (bandWidth sqrt)) (-(min lookback closes.length)) =
        ((windows period.toNat closes).map (bandWidth sqrt)).rtake lookback.toNat := by
    rw [sliceFrom_neg least, rtake_map, rtake_map, sameSpan, sameLeast,
      rtake_windows (by omega)]
  obtain ⟨rank, rolled, own⟩ := latest_rolling rankIn_succeeds series positive
  rw [bollingerWidth_eq sqrt admitted nonempty, ok_bind]
  refine Eq.trans ?_ rolled.symm
  unfold latestBbWidthPercentile
  dsimp only
  rw [sliceFrom_neg spans, bollingerWidth_eq sqrt admitted sourced, ok_bind]
  rw [kept, ← own]
  have trailing := rtake_ne_nil (by omega : 0 < lookback.toNat) series
  have length := List.length_pos_iff.mpr trailing
  unfold latestPercentile latest
  rw [sliceFrom_neg (by omega), Int.toNat_natCast, rtake_eq_self (le_refl _),
    getLast?_rtake (by omega), sliceFrom_neg positive]

/-- For every series that is not empty and every positive window the shortcuts for the latest
percentile and score have a value, the last entry of the series; the shortcut for the band widths
does what the last entry of the percentiles of the whole series does, and has a value for every
period above one. A window that is not positive is one for which the series themselves raise. -/
theorem latest_values_agree (nonempty : values ≠ []) :
    (∀ lookback : ℤ, 0 < lookback → ∃ rank, latestPercentile values lookback = .ok rank ∧
        (percentileRank values lookback >>= latest) = .ok rank) ∧
      (∀ window : ℤ, 0 < window → ∃ score, latestZscore sqrt values window = .ok score ∧
        (rollingZscore sqrt values window >>= latest) = .ok score) ∧
      (∀ period lookback : ℤ, 0 < lookback →
        latestBbWidthPercentile sqrt values period lookback =
            ((bollingerWidth sqrt values period >>= fun widths =>
              percentileRank widths lookback) >>= latest) ∧
          (1 < period → ∃ rank,
            latestBbWidthPercentile sqrt values period lookback = .ok rank)) ∧
      ∀ window : ℤ, window ≤ 0 →
        percentileRank values window = .error .zeroDivision ∧
          rollingZscore sqrt values window = .error .zeroDivision ∧
          ∀ period : ℤ, 1 < period →
            (bollingerWidth sqrt values period >>= fun widths =>
              percentileRank widths window) = .error .zeroDivision := by
  have widths {period : ℤ} : (windows period.toNat values).map (bandWidth sqrt) ≠ [] := by
    rw [← List.length_pos_iff, List.length_map, length_windows]
    exact List.length_pos_iff.mpr nonempty
  refine ⟨?_, ?_, ?_, ?_⟩
  · intro lookback positive
    obtain ⟨rank, rolled, own⟩ := latest_rolling rankIn_succeeds nonempty positive
    exact ⟨rank, own, rolled⟩
  · intro window positive
    obtain ⟨score, rolled, own⟩ := latest_rolling (zscoreIn_succeeds sqrt) nonempty positive
    exact ⟨score, own, rolled⟩
  · intro period lookback positive
    have same := latestBbWidthPercentile_eq sqrt values nonempty period positive
    refine ⟨same, fun admitted => ?_⟩
    rw [same, bollingerWidth_eq sqrt admitted nonempty, ok_bind]
    obtain ⟨rank, rolled, -⟩ := latest_rolling rankIn_succeeds widths positive
    exact ⟨rank, rolled⟩
  · intro window refused
    refine ⟨rolling_refused rankIn_nil nonempty refused,
      rolling_refused (zscoreIn_nil sqrt) nonempty refused, fun period admitted => ?_⟩
    rw [bollingerWidth_eq sqrt admitted nonempty, ok_bind]
    exact rolling_refused rankIn_nil widths refused

theorem latest_values_agree_three :
    (∃ rank, latestPercentile ([1, 2, 4] : List ℝ) 2 = .ok rank ∧
        (percentileRank ([1, 2, 4] : List ℝ) 2 >>= latest) = .ok rank) ∧
      ∃ score, latestZscore Real.sqrt ([1, 2, 4] : List ℝ) 30 = .ok score ∧
        (rollingZscore Real.sqrt ([1, 2, 4] : List ℝ) 30 >>= latest) = .ok score :=
  ⟨(latest_values_agree Real.sqrt (by simp)).1 2 (by decide),
    (latest_values_agree Real.sqrt (by simp)).2.1 30 (by decide)⟩

/-- For the window zero the shortcut reads the whole series and the series raises. -/
theorem zero_window_disagrees :
    latestPercentile ([1] : List ℝ) 0 = .ok 1 ∧
      percentileRank ([1] : List ℝ) 0 = .error .zeroDivision := by
  refine ⟨?_, rolling_refused rankIn_nil (by simp) (le_refl 0)⟩
  have whole : sliceFrom ([1] : List ℝ) (-0) = [1] := rfl
  have flags : ([1] : List ℝ).mapM (fun item => (do
      let reference ← latest [1]
      return decide (item ≤ reference) : Except Fault Bool)) = .ok [true] := by
    rw [Ranking.mapM_eq_ok_iff]
    exact .cons (congrArg Except.ok (decide_eq_true (le_refl _))) .nil
  unfold latestPercentile rankIn
  rw [whole, flags, ok_bind]
  exact (divide_of_ne (by norm_num)).trans (by norm_num)

end

end QuantAgent.Indicators
