/-
This file says when a directional plan is well ordered. Three playbooks build its prices from
different anchors: an average, a swing level, a broken level and the close. The target side and
the far end of the entry zone are always in order; the stop and the near end are so exactly when
the anchors are. Every price is then rounded to four decimals, whatever the scale of the prices,
which keeps the order and may lose its strictness.
-/

import QuantAgent.MarketWatch.DirectionalPolicy

namespace QuantAgent.MarketWatch

open PlaybookCandidate

/-! ### The order of the prices -/

namespace PlanPrices

variable (prices : PlanPrices)

/-- The stop, the entry zone and the targets follow one another in the direction of the trade,
all of them positive. -/
def WellOrdered : Direction → Prop
  | .long => 0 < prices.stopLoss ∧ prices.stopLoss < prices.entryLow ∧
      prices.entryLow ≤ prices.entryHigh ∧ prices.entryHigh < prices.takeProfit1 ∧
      prices.takeProfit1 < prices.takeProfit2
  | .short => 0 < prices.takeProfit2 ∧ prices.takeProfit2 < prices.takeProfit1 ∧
      prices.takeProfit1 < prices.entryLow ∧ prices.entryLow ≤ prices.entryHigh ∧
      prices.entryHigh < prices.stopLoss

/-- The same order, in which neighbours may agree and the lowest price may be zero. -/
def WeaklyOrdered : Direction → Prop
  | .long => 0 ≤ prices.stopLoss ∧ prices.stopLoss ≤ prices.entryLow ∧
      prices.entryLow ≤ prices.entryHigh ∧ prices.entryHigh ≤ prices.takeProfit1 ∧
      prices.takeProfit1 ≤ prices.takeProfit2
  | .short => 0 ≤ prices.takeProfit2 ∧ prices.takeProfit2 ≤ prices.takeProfit1 ∧
      prices.takeProfit1 ≤ prices.entryLow ∧ prices.entryLow ≤ prices.entryHigh ∧
      prices.entryHigh ≤ prices.stopLoss

/-- The part of the order that every playbook keeps: the end of the zone that the close sets lies
between the stop and the targets. -/
def Directed : Direction → Prop
  | .long => prices.stopLoss < prices.entryHigh ∧ prices.entryHigh < prices.takeProfit1 ∧
      prices.takeProfit1 < prices.takeProfit2
  | .short => prices.takeProfit2 < prices.takeProfit1 ∧ prices.takeProfit1 < prices.entryLow ∧
      prices.entryLow < prices.stopLoss

/-- The same part of the order, in which neighbours may agree. -/
def WeaklyDirected : Direction → Prop
  | .long => prices.stopLoss ≤ prices.entryHigh ∧ prices.entryHigh ≤ prices.takeProfit1 ∧
      prices.takeProfit1 ≤ prices.takeProfit2
  | .short => prices.takeProfit2 ≤ prices.takeProfit1 ∧ prices.takeProfit1 ≤ prices.entryLow ∧
      prices.entryLow ≤ prices.stopLoss

/-- The middle at which the gates measure risk and reward lies between a positive stop and a
positive first target. -/
def MiddleBetween (close : ℚ) : Direction → Prop
  | .long => 0 < prices.stopLoss ∧ prices.stopLoss < prices.entryMid close ∧
      prices.entryMid close < prices.takeProfit1
  | .short => 0 < prices.takeProfit1 ∧ prices.takeProfit1 < prices.entryMid close ∧
      prices.entryMid close < prices.stopLoss

/-- Every strict step of the order is more than one unit of the fourth decimal, and the lowest
price is more than half of it. -/
def Spaced : Direction → Prop
  | .long => 1 / 20000 < prices.stopLoss ∧ prices.stopLoss + 1 / 10000 < prices.entryLow ∧
      prices.entryHigh + 1 / 10000 < prices.takeProfit1 ∧
      prices.takeProfit1 + 1 / 10000 < prices.takeProfit2
  | .short => 1 / 20000 < prices.takeProfit2 ∧
      prices.takeProfit2 + 1 / 10000 < prices.takeProfit1 ∧
      prices.takeProfit1 + 1 / 10000 < prices.entryLow ∧
      prices.entryHigh + 1 / 10000 < prices.stopLoss

end PlanPrices

/-! ### Rounding to four decimals -/

theorem roundTo_zero (digits : ℕ) : roundTo digits 0 = 0 := by
  unfold roundTo
  rw [zero_mul]
  have none : roundHalfEven 0 = 0 := by decide +kernel
  rw [none, Int.cast_zero, zero_div]

theorem roundTo_nonneg (digits : ℕ) {value : ℚ} (nonneg : 0 ≤ value) :
    0 ≤ roundTo digits value :=
  roundTo_zero digits ▸ roundTo_mono digits nonneg

theorem lt_of_roundTo_lt {digits : ℕ} {first second : ℚ}
    (apart : roundTo digits first < roundTo digits second) : first < second :=
  lt_of_not_ge fun above => apart.not_ge (roundTo_mono digits above)

theorem roundTo_lt {first second : ℚ} (apart : first + 1 / 10000 < second) :
    roundTo 4 first < roundTo 4 second := by
  obtain ⟨-, above⟩ := abs_le.mp (abs_roundTo_sub_le 4 first)
  obtain ⟨below, -⟩ := abs_le.mp (abs_roundTo_sub_le 4 second)
  norm_num at above below
  linarith

/-- A number above half a unit is not rounded to zero. -/
theorem roundTo_pos {value : ℚ} (above : 1 / 20000 < value) : 0 < roundTo 4 value := by
  obtain ⟨below, -⟩ := abs_le.mp (abs_roundTo_sub_le 4 value)
  norm_num at below
  linarith

variable {prices : PlanPrices} {direction : Direction}

theorem PlanPrices.WellOrdered.rounded (ordered : prices.WellOrdered direction) :
    prices.rounded.WeaklyOrdered direction := by
  cases direction with
  | long =>
    obtain ⟨positive, stop, zone, target, second⟩ := ordered
    exact ⟨roundTo_nonneg 4 positive.le, roundTo_mono 4 stop.le, roundTo_mono 4 zone,
      roundTo_mono 4 target.le, roundTo_mono 4 second.le⟩
  | short =>
    obtain ⟨positive, second, target, zone, stop⟩ := ordered
    exact ⟨roundTo_nonneg 4 positive.le, roundTo_mono 4 second.le, roundTo_mono 4 target.le,
      roundTo_mono 4 zone, roundTo_mono 4 stop.le⟩

theorem PlanPrices.Spaced.rounded (spaced : prices.Spaced direction)
    (ordered : prices.WellOrdered direction) :
    prices.rounded.WellOrdered direction := by
  cases direction with
  | long =>
    obtain ⟨positive, stop, target, second⟩ := spaced
    exact ⟨roundTo_pos positive, roundTo_lt stop, roundTo_mono 4 ordered.2.2.1,
      roundTo_lt target, roundTo_lt second⟩
  | short =>
    obtain ⟨positive, second, target, stop⟩ := spaced
    exact ⟨roundTo_pos positive, roundTo_lt second, roundTo_lt target,
      roundTo_mono 4 ordered.2.2.2.1, roundTo_lt stop⟩

theorem PlanPrices.Directed.rounded (directed : prices.Directed direction) :
    prices.rounded.WeaklyDirected direction := by
  cases direction with
  | long =>
    obtain ⟨stop, target, second⟩ := directed
    exact ⟨roundTo_mono 4 stop.le, roundTo_mono 4 target.le, roundTo_mono 4 second.le⟩
  | short =>
    obtain ⟨second, target, stop⟩ := directed
    exact ⟨roundTo_mono 4 second.le, roundTo_mono 4 target.le, roundTo_mono 4 stop.le⟩

theorem PlanPrices.WellOrdered.of_rounded (ordered : prices.rounded.WellOrdered direction)
    (zone : prices.entryLow ≤ prices.entryHigh) : prices.WellOrdered direction := by
  have positive {price : ℚ} (above : 0 < roundTo 4 price) : 0 < price :=
    lt_of_roundTo_lt (roundTo_zero 4 ▸ above)
  cases direction with
  | long =>
    obtain ⟨lowest, stop, -, target, second⟩ := ordered
    exact ⟨positive lowest, lt_of_roundTo_lt stop, zone, lt_of_roundTo_lt target,
      lt_of_roundTo_lt second⟩
  | short =>
    obtain ⟨lowest, second, target, -, stop⟩ := ordered
    exact ⟨positive lowest, lt_of_roundTo_lt second, lt_of_roundTo_lt target, zone,
      lt_of_roundTo_lt stop⟩

/-! ### The anchors -/

section

variable (tf1h tf15m : TimeframeSnapshot) (memory : PlaybookMemory)

def pullbackFloor : ℚ := levelOr tf15m.recentSwingLow (tf15m.close - 3 / 2 * tf15m.usedAtr)

def pullbackCeiling : ℚ := levelOr tf15m.recentSwingHigh (tf15m.close + 3 / 2 * tf15m.usedAtr)

/-- The first target of a short pullback: the nearest support below, or a distance. -/
def nearestSupport : ℚ :=
  ((tf1h.supports.filter fun support => support < tf15m.close).max?).getD
    (tf15m.close - 2 * tf15m.usedAtr)

/-- The level that a long expansion leaves behind. -/
def expansionResistance : ℚ :=
  structureLevel tf15m.resistances tf1h.resistances tf15m.recentSwingHigh tf1h.recentSwingHigh
    (tf15m.emaFast + tf15m.usedAtr / 2)

def expansionSupport : ℚ :=
  structureLevel tf15m.supports tf1h.supports tf15m.recentSwingLow tf1h.recentSwingLow
    (tf15m.emaFast - tf15m.usedAtr / 2)

def AnchorsOrdered : Playbook → Direction → Prop
  | .trendPullback, .long => 2 / 10 * tf15m.usedAtr < pullbackFloor tf15m ∧
      pullbackFloor tf15m < tf15m.emaFast + 2 / 10 * tf15m.usedAtr
  | .trendPullback, .short => 3 / 2 * tf15m.usedAtr < nearestSupport tf1h tf15m ∧
      tf15m.emaFast < pullbackCeiling tf15m + 2 / 10 * tf15m.usedAtr
  | .breakoutRetest, .long => ∃ level ∈ memory.breakoutLevel, 3 / 10 * tf15m.usedAtr < level
  | .breakoutRetest, .short => 4 * tf15m.usedAtr < tf15m.close
  | .volatilityExpansion, .long => 3 / 2 * tf15m.usedAtr < tf15m.close ∧
      tf15m.emaFast ≤ tf15m.close ∧
      tf15m.close < max (expansionResistance tf1h tf15m) tf15m.emaFast + 3 / 2 * tf15m.usedAtr
  | .volatilityExpansion, .short => 4 * tf15m.usedAtr < tf15m.close ∧
      tf15m.close ≤ tf15m.emaFast ∧
      min (expansionSupport tf1h tf15m) tf15m.emaFast < tf15m.close + 3 / 2 * tf15m.usedAtr
  | _, _ => False

end

/-! ### The prices of a candidate -/

section

variable {tf4h tf1h tf15m : TimeframeSnapshot} {derivatives : DerivativesMetrics}
  {exhaustion : ExhaustionMetrics} {thresholds : Thresholds} {memory : PlaybookMemory}
  {dict : CandidateDict} {candidate : PlaybookCandidate} {fallback : ℤ}

theorem usedAtr_pos (timeframe : TimeframeSnapshot) : 0 < timeframe.usedAtr := by
  unfold TimeframeSnapshot.usedAtr
  exact lt_max_of_lt_right (by norm_num)

theorem lt_nearest (levels : List ℚ) (value : ℚ) {distance : ℚ} (positive : 0 < distance) :
    value < ((levels.filter fun level => value < level).min?).getD (value + distance) := by
  cases found : (levels.filter fun level => value < level).min? with
  | none => exact lt_add_of_pos_right value positive
  | some level => exact of_decide_eq_true (List.mem_filter.mp (List.min?_mem found)).2

theorem nearestSupport_lt : nearestSupport tf1h tf15m < tf15m.close := by
  unfold nearestSupport
  have positive := usedAtr_pos tf15m
  cases found : (tf1h.supports.filter fun support => support < tf15m.close).max? with
  | none => exact sub_lt_self _ (mul_pos two_pos positive)
  | some support => exact of_decide_eq_true (List.mem_filter.mp (List.max?_mem found)).2

/-- The prices that the candidate gives a direction: the end of the zone that the close sets is in
order, and the rest is so exactly when the anchors are. -/
structure PlaybookCandidate.Arranges (tf1h tf15m : TimeframeSnapshot) (memory : PlaybookMemory)
    (candidate : PlaybookCandidate) (direction : Direction) : Prop where
  directed : candidate.prices.Directed direction
  wellOrdered_iff : candidate.prices.WellOrdered direction ↔
    AnchorsOrdered tf1h tf15m memory candidate.playbook direction

def PlaybookCandidate.Arranged (tf1h tf15m : TimeframeSnapshot) (memory : PlaybookMemory)
    (candidate : PlaybookCandidate) : Prop :=
  ∀ direction, candidate.decision = .of direction →
    candidate.Arranges tf1h tf15m memory direction

theorem PlaybookCandidate.arranged_of (direction : Direction)
    (decided : candidate.decision = .of direction)
    (arranges : candidate.Arranges tf1h tf15m memory direction) :
    candidate.Arranged tf1h tf15m memory := by
  intro side decision
  obtain rfl := DirectionalDecision.of_injective (decided.symm.trans decision)
  exact arranges

theorem PlaybookCandidate.arranged_of_wait (waits : candidate.decision = .wait) :
    candidate.Arranged tf1h tf15m memory := by
  intro side decision
  rw [waits] at decision
  cases side <;> cases decision

theorem longPullback_arranged (found : longPullback tf1h tf15m derivatives thresholds = some dict) :
    (candidateDictToCandidate dict fallback).Arranged tf1h tf15m memory := by
  have positive := usedAtr_pos tf15m
  obtain ⟨⟨⟨-, floor⟩, -, average⟩, dict_eq⟩ := Option.ite_none_right_eq_some.mp found
  obtain rfl := Option.some.inj dict_eq
  have target := lt_nearest tf1h.resistances tf15m.close (mul_pos two_pos positive)
  have low : min tf15m.close tf15m.emaFast = tf15m.emaFast := min_eq_right average
  have high : max tf15m.close tf15m.emaFast = tf15m.close := max_eq_left average
  refine arranged_of .long rfl ⟨?_, ?_⟩
  · refine ⟨?_, ?_, ?_⟩ <;> simp only [PlaybookCandidate.prices, candidateDictToCandidate, high]
    · linarith
    · exact target
    · linarith
  · simp only [PlanPrices.WellOrdered, PlaybookCandidate.prices, candidateDictToCandidate, low,
      high, AnchorsOrdered, pullbackFloor]
    constructor
    · rintro ⟨stop, zone, -⟩
      exact ⟨by linarith, by linarith⟩
    · rintro ⟨stop, zone⟩
      exact ⟨by linarith, by linarith, average, target, by linarith⟩

theorem shortPullback_arranged
    (found : shortPullback tf1h tf15m derivatives thresholds = some dict) :
    (candidateDictToCandidate dict fallback).Arranged tf1h tf15m memory := by
  have positive := usedAtr_pos tf15m
  obtain ⟨⟨⟨-, ceiling⟩, -, average⟩, dict_eq⟩ := Option.ite_none_right_eq_some.mp found
  obtain rfl := Option.some.inj dict_eq
  have target : nearestSupport tf1h tf15m < tf15m.close := nearestSupport_lt
  have low : min tf15m.close tf15m.emaFast = tf15m.close := min_eq_left average
  have high : max tf15m.close tf15m.emaFast = tf15m.emaFast := max_eq_right average
  unfold nearestSupport at target
  refine arranged_of .short rfl ⟨?_, ?_⟩
  · refine ⟨?_, ?_, ?_⟩ <;> simp only [PlaybookCandidate.prices, candidateDictToCandidate, low]
    · linarith
    · exact target
    · linarith
  · simp only [PlanPrices.WellOrdered, PlaybookCandidate.prices, candidateDictToCandidate, low,
      high, AnchorsOrdered, pullbackCeiling, nearestSupport]
    constructor
    · rintro ⟨second, -, -, -, stop⟩
      exact ⟨by linarith, by linarith⟩
    · rintro ⟨second, stop⟩
      exact ⟨by linarith, by linarith, target, average, by linarith⟩

theorem evaluateTrendPullback_arranged
    (found : evaluateTrendPullback tf4h tf1h tf15m derivatives exhaustion thresholds =
      some dict) : (candidateDictToCandidate dict fallback).Arranged tf1h tf15m memory := by
  unfold evaluateTrendPullback at found
  split_ifs at found
  · exact longPullback_arranged found
  · exact shortPullback_arranged found

theorem evaluateRetest_arranged (closes : tf15m.close = tf15m.latestClosedBar.close)
    (found : evaluateRetest tf15m derivatives exhaustion thresholds memory = some dict) :
    (candidateDictToCandidate dict fallback).Arranged tf1h tf15m memory := by
  have positive := usedAtr_pos tf15m
  unfold evaluateRetest at found
  split at found
  · cases found
  · next pending held =>
    obtain ⟨⟨-, -, retests, -⟩, dict_eq⟩ := Option.ite_none_right_eq_some.mp found
    obtain rfl := Option.some.inj dict_eq
    have saved := PlaybookMemory.pending_eq_some.mp held
    obtain ⟨level, direction, barEndMs⟩ := pending
    refine arranged_of direction rfl ?_
    cases direction with
    | long =>
      have holds : level ≤ tf15m.close := closes ▸ retests.2
      refine ⟨⟨?_, ?_, ?_⟩, ?_⟩ <;>
        simp only [PlaybookCandidate.prices, candidateDictToCandidate, retestDict, Direction.ahead]
      · linarith
      · linarith
      · linarith
      · simp only [PlanPrices.WellOrdered, AnchorsOrdered, saved.2.1, Option.mem_some_iff,
          exists_eq_left']
        constructor
        · rintro ⟨stop, -⟩
          linarith
        · intro stop
          exact ⟨by linarith, by linarith, holds, by linarith, by linarith⟩
    | short =>
      have holds : tf15m.close ≤ level := closes ▸ retests.2
      refine ⟨⟨?_, ?_, ?_⟩, ?_⟩ <;>
        simp only [PlaybookCandidate.prices, candidateDictToCandidate, retestDict, Direction.ahead]
      · linarith
      · linarith
      · linarith
      · simp only [PlanPrices.WellOrdered, AnchorsOrdered]
        constructor
        · rintro ⟨second, -⟩
          linarith
        · intro second
          exact ⟨by linarith, by linarith, by linarith, holds, by linarith⟩

theorem evaluateNewBreakout_arranged
    (found : evaluateNewBreakout tf1h tf15m derivatives exhaustion thresholds memory direction =
      some dict) : (candidateDictToCandidate dict fallback).Arranged tf1h tf15m memory := by
  have spec : ∃ level, (candidateDictToCandidate dict fallback).Breaks
      ⟨level, direction, tf15m.closedBarEndTimeMs⟩ := evaluateNewBreakout_spec found
  obtain ⟨_, breaks⟩ := spec
  exact arranged_of_wait breaks.decision

theorem evaluateVolatilityExpansion_arranged (closes : tf15m.close = tf15m.latestClosedBar.close)
    (found : evaluateVolatilityExpansion tf1h tf15m exhaustion = some dict) :
    (candidateDictToCandidate dict fallback).Arranged tf1h tf15m memory := by
  have positive := usedAtr_pos tf15m
  simp only [evaluateVolatilityExpansion] at found
  split_ifs at found with _ _ _ long short
  · obtain rfl := Option.some.inj found
    have leaves := long.1
    rw [← closes] at leaves
    refine arranged_of .long rfl ⟨⟨?_, ?_, ?_⟩, ?_⟩ <;>
      simp only [PlaybookCandidate.prices, candidateDictToCandidate]
    · linarith
    · linarith
    · linarith
    · simp only [PlanPrices.WellOrdered, AnchorsOrdered, expansionResistance,
        max_le_iff]
      constructor
      · rintro ⟨stop, zone, ⟨-, average⟩, -⟩
        exact ⟨by linarith, average, by linarith⟩
      · rintro ⟨stop, average, zone⟩
        exact ⟨by linarith, by linarith, ⟨leaves.le, average⟩, by linarith, by linarith⟩
  · obtain rfl := Option.some.inj found
    have leaves := short.1
    rw [← closes] at leaves
    refine arranged_of .short rfl ⟨⟨?_, ?_, ?_⟩, ?_⟩ <;>
      simp only [PlaybookCandidate.prices, candidateDictToCandidate]
    · linarith
    · linarith
    · linarith
    · simp only [PlanPrices.WellOrdered, AnchorsOrdered, expansionSupport, le_min_iff]
      constructor
      · rintro ⟨second, -, -, ⟨-, average⟩, stop⟩
        exact ⟨by linarith, average, by linarith⟩
      · rintro ⟨second, average, stop⟩
        exact ⟨by linarith, by linarith, by linarith, ⟨leaves.le, average⟩, by linarith⟩

theorem candidate_arranged (closes : tf15m.close = tf15m.latestClosedBar.close)
    (member : candidate ∈ evaluateAllPlaybookCandidates tf4h tf1h tf15m derivatives exhaustion
      thresholds memory) : candidate.Arranged tf1h tf15m memory := by
  obtain ⟨dict, listed, rfl⟩ := List.mem_map.mp member
  obtain ⟨found, among, rfl⟩ := List.mem_filterMap.mp listed
  simp only [List.mem_cons, List.not_mem_nil, or_false] at among
  obtain pullback | breakout | failed | expansion := among
  · exact evaluateTrendPullback_arranged pullback.symm
  · obtain retest | ⟨-, new⟩ := Option.or_eq_some_iff.mp breakout.symm
    · exact evaluateRetest_arranged closes retest
    · obtain long | ⟨-, short⟩ := Option.or_eq_some_iff.mp new
      · exact evaluateNewBreakout_arranged long
      · exact evaluateNewBreakout_arranged short
  · exact arranged_of_wait (evaluateFailedBreakout_spec failed.symm).2
  · exact evaluateVolatilityExpansion_arranged closes expansion.symm

end

/-! ### The gates -/

section

variable {config : PolicyConfig} {decision : DirectionalDecision}

theorem decided_of_kept {after : DirectionalDecision} (kept : after = decision ∨ after = .wait)
    (final : after = .of direction) : decision = .of direction := by
  obtain same | waits := kept
  · exact same.symm.trans final
  · rw [waits] at final
    cases direction <;> cases final

theorem entryQualityGate_kept (config : PolicyConfig) (quality : EntryQuality)
    (decision : DirectionalDecision) : (entryQualityGate config quality decision).value = decision ∨
      (entryQualityGate config quality decision).value = .wait := by
  unfold entryQualityGate
  split_ifs
  · exact .inr rfl
  · exact .inl rfl

theorem applyBenchmarkContextGate_kept (config : PolicyConfig) (symbol : String)
    (context : BenchmarkContext) (relativePerf : Option RelativePerformance)
    (quality : EntryQuality) (netRr : ℚ) (decision : DirectionalDecision) :
    (applyBenchmarkContextGate config symbol context relativePerf quality netRr
        decision).value = decision ∨
      (applyBenchmarkContextGate config symbol context relativePerf quality netRr
        decision).value = .wait := by
  unfold applyBenchmarkContextGate
  split_ifs
  · exact .inl rfl
  · exact .inl rfl
  · exact .inr rfl
  · exact .inl rfl

variable {derivatives : DerivativesReading}

theorem applyDerivativesActionGate_kept {gates : GateThresholds} {coded : Coded DirectionalDecision}
    (gated : applyDerivativesActionGate gates derivatives decision = .ok coded) :
    coded.value = decision ∨ coded.value = .wait := by
  unfold applyDerivativesActionGate at gated
  cases decision with
  | wait =>
    obtain rfl := Except.ok.inj gated
    exact .inr rfl
  | long =>
    simp only at gated
    split_ifs at gated
    · obtain rfl := Except.ok.inj gated
      exact .inr rfl
    · obtain rfl := Except.ok.inj gated
      exact .inl rfl
  | short =>
    simp only at gated
    split_ifs at gated
    · obtain rfl := Except.ok.inj gated
      exact .inr rfl
    · obtain ⟨severe, -, passed⟩ := bind_eq_ok.mp gated
      split_ifs at passed
      · obtain rfl := Except.ok.inj passed
        exact .inr rfl
      · obtain rfl := Except.ok.inj passed
        exact .inl rfl

theorem fatalVetoGate_kept (vetoes : List String) (decision : DirectionalDecision) :
    fatalVetoGate vetoes decision = decision ∨ fatalVetoGate vetoes decision = .wait := by
  unfold fatalVetoGate
  split_ifs
  · exact .inl rfl
  · exact .inr rfl

theorem minNetRr_le {exhaustion : ExhaustionMetrics} {netRr : ℚ} {tf4h : TimeframeSnapshot}
    (final : fatalVetoGate (fatalVetoes config decision exhaustion netRr tf4h derivatives)
      decision = .of direction) : config.minNetRr ≤ netRr := by
  have decided := decided_of_kept (fatalVetoGate_kept _ _) final
  have directional : decision ≠ .wait := by
    rw [decided]
    cases direction <;> exact nofun
  by_contra below
  have vetoed : fatalVetoes config decision exhaustion netRr tf4h derivatives ≠ [] := by
    simp [fatalVetoes, riskIf, directional, lt_of_not_ge below]
  rw [fatalVetoGate, if_neg vetoed] at final
  cases direction <;> cases final

theorem gross_positive_of_netRr {entryPrice stopLoss takeProfit : ℚ} {fundingRate : Option ℚ}
    (positive : 0 < (calculateNetRiskReward config entryPrice stopLoss takeProfit decision
      fundingRate).2) :
    (0 < stopLoss ∧ 0 < takeProfit) ∧
      ∃ grossRisk grossReward, grossRiskReward entryPrice stopLoss takeProfit decision =
        some (grossRisk, grossReward) ∧ 0 < grossRisk ∧ 0 < grossReward := by
  unfold calculateNetRiskReward at positive
  split_ifs at positive with inputs
  · exact absurd positive (lt_irrefl 0)
  · push Not at inputs
    refine ⟨inputs.2, ?_⟩
    split at positive
    · exact absurd positive (lt_irrefl 0)
    · next grossRisk grossReward gross =>
      by_cases unordered : grossRisk ≤ 0 ∨ grossReward ≤ 0
      · rw [if_pos unordered] at positive
        exact absurd positive (lt_irrefl 0)
      · push Not at unordered
        exact ⟨grossRisk, grossReward, gross, unordered⟩

theorem middleBetween_of_netRr {prices : PlanPrices} {close : ℚ} {fundingRate : Option ℚ}
    (positive : 0 < (calculateNetRiskReward config (prices.entryMid close) prices.stopLoss
      prices.takeProfit1 (.of direction) fundingRate).2) :
    prices.MiddleBetween close direction := by
  obtain ⟨⟨stop, target⟩, grossRisk, grossReward, gross, risk, reward⟩ :=
    gross_positive_of_netRr positive
  cases direction with
  | long =>
    obtain ⟨rfl, rfl⟩ := Prod.mk.inj (Option.some.inj gross)
    exact ⟨stop, sub_pos.mp risk, sub_pos.mp reward⟩
  | short =>
    obtain ⟨rfl, rfl⟩ := Prod.mk.inj (Option.some.inj gross)
    exact ⟨target, sub_pos.mp reward, sub_pos.mp risk⟩

end

/-! ### The plan -/

section

variable {config : PolicyConfig} {snapshot : MarketSnapshot} {memory : PlaybookMemory}
  {btcSnapshot ethSnapshot : Option MarketSnapshot} {relativePerf : Option RelativePerformance}
  {plan : AssessedPlan}

theorem assessSymbol_spec
    (assessed : assessSymbol config snapshot memory btcSnapshot ethSnapshot relativePerf =
      .ok plan) (final : plan.decision = .of direction) :
    ∃ candidate, selectedCandidate config snapshot memory = some candidate ∧
      candidate.decision = .of direction ∧ plan.setup = candidate.playbook ∧
      plan.prices = candidate.prices.rounded ∧
      config.minNetRr ≤ (calculateNetRiskReward config
        (candidate.prices.entryMid snapshot.tf15m.close) candidate.prices.stopLoss
        candidate.prices.takeProfit1 (.of direction) snapshot.derivatives.fundingRate).2 := by
  unfold assessSymbol at assessed
  obtain ⟨gated, derivatives, assessed⟩ := bind_eq_ok.mp assessed
  obtain rfl := Except.ok.inj assessed
  have sufficient := minNetRr_le final
  have raw := decided_of_kept (entryQualityGate_kept _ _ _)
    (decided_of_kept (applyBenchmarkContextGate_kept _ _ _ _ _ _ _)
      (decided_of_kept (applyDerivativesActionGate_kept derivatives)
        (decided_of_kept (fatalVetoGate_kept _ _) final)))
  cases selected : selectedCandidate config snapshot memory with
  | none =>
    rw [selected] at raw
    cases direction <;> cases raw
  | some candidate =>
    have prices : rawPrices config snapshot memory = candidate.prices := by
      rw [rawPrices, selected, Option.elim_some]
    rw [raw, prices] at sufficient
    rw [selected] at raw
    exact ⟨candidate, rfl, raw, rfl, congrArg PlanPrices.rounded prices, sufficient⟩

/-- The barrier above the entry, the target of a long and the stop of a short, is not below the
lower bound of the zone. -/
theorem AssessedPlan.zoneLow_le_barrier
    (closes : snapshot.tf15m.close = snapshot.tf15m.latestClosedBar.close)
    (assessed : assessSymbol config snapshot memory btcSnapshot ethSnapshot relativePerf =
      .ok plan) (final : plan.decision = .of direction) :
    min plan.prices.entryLow plan.prices.entryHigh ≤
      if plan.decision = .long then plan.prices.takeProfit1 else plan.prices.stopLoss := by
  obtain ⟨candidate, selected, decided, -, rounded, -⟩ := assessSymbol_spec assessed final
  have directed : plan.prices.WeaklyDirected direction := by
    rw [rounded]
    exact (candidate_arranged closes (selected_mem selected) direction decided).1.rounded
  rw [final]
  cases direction with
  | long => exact (min_le_right _ _).trans directed.2.1
  | short => exact (min_le_left _ _).trans directed.2.2

structure AssessedPlan.Arranged (config : PolicyConfig) (snapshot : MarketSnapshot)
    (memory : PlaybookMemory) (plan : AssessedPlan) (direction : Direction) : Prop where
  prices : plan.prices = (rawPrices config snapshot memory).rounded
  directed : (rawPrices config snapshot memory).Directed direction
  weaklyDirected : plan.prices.WeaklyDirected direction
  wellOrdered_iff : (rawPrices config snapshot memory).WellOrdered direction ↔
    AnchorsOrdered snapshot.tf1h snapshot.tf15m memory plan.setup direction
  weaklyOrdered : AnchorsOrdered snapshot.tf1h snapshot.tf15m memory plan.setup direction →
    plan.prices.WeaklyOrdered direction
  wellOrdered : AnchorsOrdered snapshot.tf1h snapshot.tf15m memory plan.setup direction →
    (rawPrices config snapshot memory).Spaced direction → plan.prices.WellOrdered direction
  anchorsOrdered : plan.prices.WellOrdered direction →
    (rawPrices config snapshot memory).entryLow ≤ (rawPrices config snapshot memory).entryHigh →
    AnchorsOrdered snapshot.tf1h snapshot.tf15m memory plan.setup direction
  middleBetween : 0 < config.minNetRr →
    (rawPrices config snapshot memory).MiddleBetween snapshot.tf15m.close direction

/-- A plan that decides for a direction is in order as far as the anchors of its playbook are. -/
theorem directional_plans_arranged
    (closes : snapshot.tf15m.close = snapshot.tf15m.latestClosedBar.close)
    (assessed : assessSymbol config snapshot memory btcSnapshot ethSnapshot relativePerf =
      .ok plan) (final : plan.decision = .of direction) :
    plan.Arranged config snapshot memory direction := by
  obtain ⟨candidate, selected, decided, setup, rounded, sufficient⟩ :=
    assessSymbol_spec assessed final
  have prices : rawPrices config snapshot memory = candidate.prices := by
    rw [rawPrices, selected, Option.elim_some]
  obtain ⟨directed, wellOrdered_iff⟩ :=
    candidate_arranged closes (selected_mem selected) direction decided
  rw [← prices] at directed wellOrdered_iff rounded
  rw [← setup] at wellOrdered_iff
  refine ⟨rounded, directed, ?_, wellOrdered_iff, fun anchors => ?_, fun anchors spaced => ?_,
    fun ordered zone => ?_, fun positive => ?_⟩
  · rw [rounded]
    exact directed.rounded
  · rw [rounded]
    exact (wellOrdered_iff.mpr anchors).rounded
  · rw [rounded]
    exact spaced.rounded (wellOrdered_iff.mpr anchors)
  · rw [rounded] at ordered
    exact wellOrdered_iff.mp (ordered.of_rounded zone)
  · rw [prices]
    exact middleBetween_of_netRr (positive.trans_le sufficient)

end

/-! ### Anchors out of order -/

def MarketSnapshot.Consistent (snapshot : MarketSnapshot) : Prop :=
  ∀ timeframe ∈ [snapshot.tf15m, snapshot.tf1h, snapshot.tf4h],
    0 < timeframe.latestClosedBar.low ∧ timeframe.close = timeframe.latestClosedBar.close

instance (snapshot : MarketSnapshot) : Decidable snapshot.Consistent :=
  inferInstanceAs (Decidable (∀ _ ∈ _, _))

theorem anchored_volume : (0 : ℚ) ≤ min 10 1000 := by decide +kernel

def anchoredSnapshot (regime : Regime) (low close emaFast atr : ℚ) (swingLow : Option ℚ)
    (resistances : List ℚ) (rises : low ≤ close := by decide +kernel) : MarketSnapshot :=
  let timeframe : TimeframeSnapshot := {
    latestClosedBar := ⟨"SOLUSDT", "15m", 1699999200000, 1700000099999, low, close, low, close,
      10, 1000, by decide, le_min le_rfl rises, max_le rises le_rfl, anchored_volume⟩
    closedBarEndTimeMs := 1700000099999
    close := close
    emaFast := emaFast
    emaMid := emaFast
    atr := atr
    atrPercentile := 8 / 10
    adx := 20
    volumeZ := 1
    recentSwingLow := swingLow
    resistances := resistances
    regime := regime
    hasPriorCompressionWindow := true }
  { symbol := "SOLUSDT", tf15m := timeframe, tf1h := timeframe, tf4h := timeframe }

def longPlan (snapshot : MarketSnapshot) : Option (Playbook × PlanPrices) :=
  match assessSymbol {} snapshot {} none none none with
  | .ok plan => if plan.decision = .long then some (plan.setup, plan.prices) else none
  | .error _ => none

theorem exists_longPlan {snapshot : MarketSnapshot} {setup : Playbook}
    (found : longPlan snapshot = some (setup, prices)) :
    ∃ plan, assessSymbol {} snapshot {} none none none = .ok plan ∧ plan.decision = .long ∧
      plan.setup = setup ∧ plan.prices = prices := by
  unfold longPlan at found
  split at found
  · next plan assessed =>
    split_ifs at found with long
    obtain ⟨rfl, rfl⟩ := Prod.mk.inj (Option.some.inj found)
    exact ⟨plan, assessed, long, rfl, rfl⟩
  · cases found

/-- A pullback to the average, with its stop below the swing low. -/
theorem pullback_wellOrdered :
    ∃ plan, assessSymbol {} (anchoredSnapshot .trendUp 98 100 99 2 (some 98) [104]) {} none none
      none = .ok plan ∧ plan.prices.WellOrdered .long := by
  have found : longPlan (anchoredSnapshot .trendUp 98 100 99 2 (some 98) [104]) =
    some (.trendPullback, ⟨99, 100, 976 / 10, 104, 107, 98⟩) := by decide +kernel
  obtain ⟨plan, assessed, long, setup, -⟩ := exists_longPlan found
  refine ⟨plan, assessed, ?_⟩
  have final : plan.decision = .of .long := long
  have arranged := directional_plans_arranged (by decide +kernel) assessed final
  refine arranged.wellOrdered ?_ ?_
  · rw [setup]
    exact ⟨by decide +kernel, by decide +kernel⟩
  · exact ⟨by decide +kernel, by decide +kernel, by decide +kernel, by decide +kernel⟩

/-- An average above the close inverts the zone of an expansion, a swing low above the average puts
the stop of a pullback inside its zone, and prices of a small scale are all rounded to zero. -/
theorem directional_plans_out_of_order :
    (∃ plan, (anchoredSnapshot .range 97 100 (10005 / 100) 5 none [995 / 10]).Consistent ∧
      assessSymbol {} (anchoredSnapshot .range 97 100 (10005 / 100) 5 none [995 / 10]) {} none none
        none = .ok plan ∧
      plan.decision = .long ∧ plan.prices.entryHigh < plan.prices.entryLow) ∧
    (∃ plan, (anchoredSnapshot .trendUp 97 100 95 10 (some 98) []).Consistent ∧
      assessSymbol {} (anchoredSnapshot .trendUp 97 100 95 10 (some 98) []) {} none none
        none = .ok plan ∧
      plan.decision = .long ∧ plan.prices.entryLow < plan.prices.stopLoss) ∧
    ∃ plan, (anchoredSnapshot .trendUp (19 / 10 ^ 6) (2 / 10 ^ 5) (195 / 10 ^ 7) (1 / 10 ^ 6)
        (some (19 / 10 ^ 6)) []).Consistent ∧
      assessSymbol {} (anchoredSnapshot .trendUp (19 / 10 ^ 6) (2 / 10 ^ 5) (195 / 10 ^ 7)
        (1 / 10 ^ 6) (some (19 / 10 ^ 6)) []) {} none none none = .ok plan ∧
      plan.decision = .long ∧ plan.prices.stopLoss = 0 ∧ plan.prices.takeProfit2 = 0 := by
  refine ⟨?_, ?_, ?_⟩
  · have found : longPlan (anchoredSnapshot .range 97 100 (10005 / 100) 5 none [995 / 10]) =
      some (.volatilityExpansion, ⟨10005 / 100, 100, 925 / 10, 1125 / 10, 120, 985 / 10⟩) := by
      decide +kernel
    obtain ⟨plan, assessed, long, -, prices⟩ := exists_longPlan found
    refine ⟨plan, by decide +kernel, assessed, long, ?_⟩
    rw [prices]
    decide +kernel
  · have found : longPlan (anchoredSnapshot .trendUp 97 100 95 10 (some 98) []) =
      some (.trendPullback, ⟨95, 100, 96, 120, 135, 98⟩) := by decide +kernel
    obtain ⟨plan, assessed, long, -, prices⟩ := exists_longPlan found
    refine ⟨plan, by decide +kernel, assessed, long, ?_⟩
    rw [prices]
    decide +kernel
  · have found : longPlan (anchoredSnapshot .trendUp (19 / 10 ^ 6) (2 / 10 ^ 5) (195 / 10 ^ 7)
      (1 / 10 ^ 6) (some (19 / 10 ^ 6)) []) = some (.trendPullback, ⟨0, 0, 0, 0, 0, 0⟩) := by
      decide +kernel
    obtain ⟨plan, assessed, long, -, prices⟩ := exists_longPlan found
    refine ⟨plan, by decide +kernel, assessed, long, ?_⟩
    rw [prices]
    exact ⟨rfl, rfl⟩

end QuantAgent.MarketWatch
