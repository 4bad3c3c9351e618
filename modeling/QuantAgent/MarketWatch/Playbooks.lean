/-
This file embeds the playbooks of the market watch: what each of them makes of a snapshot, and
which of their candidates a scan selects.
-/

import QuantAgent.Candle
import QuantAgent.MarketWatch.SignalScans

namespace QuantAgent.MarketWatch

/-! ### What the playbooks read -/

inductive ExhaustionState where
  | normal
  | elevated
  | extreme
  deriving DecidableEq

/-- A timeframe of the snapshot, with what the playbooks read of it. -/
structure TimeframeSnapshot where
  latestClosedBar : Candle
  closedBarEndTimeMs : ℤ
  close : ℚ
  emaFast : ℚ
  emaMid : ℚ
  atr : ℚ
  atrPercentile : ℚ
  adx : ℚ
  volumeZ : ℚ := 0
  recentSwingHigh : Option ℚ := none
  recentSwingLow : Option ℚ := none
  supports : List ℚ := []
  resistances : List ℚ := []
  regime : Regime := .range
  hasPriorCompressionWindow : Bool := false

structure DerivativesMetrics where
  regime : DerivativesRegime := .neutral
  fundingRate : Option ℚ := none
  oi1hChange : Option ℚ := none

structure ExhaustionMetrics where
  state : ExhaustionState := .normal
  distanceFromEma20Atr : ℚ := 0

theorem default_thresholds : (0 : ℚ) ≤ 1 / 2 ∧ (0 : ℚ) ≤ 12 / 100 ∧ (0 : ℚ) ≤ 35 / 100 ∧
    (0 : ℚ) ≤ 3 / 2 ∧ (0 : ℚ) ≤ 8 / 10 := by decide +kernel

/-- The thresholds of the playbooks, with the checks of their constructor. -/
structure Thresholds where
  pullbackEmaToleranceAtr : ℚ := 1 / 2
  breakoutAtrThreshold : ℚ := 12 / 100
  retestAtrTolerance : ℚ := 35 / 100
  failedLevelTtlMs : ℤ := 24 * 3600 * 1000
  failedLevelBreakoutMult : ℚ := 3 / 2
  failedLevelMinVolumeZ : ℚ := 8 / 10
  maxRetestBars : ℤ := 12
  minVolumeZ : ℚ := -1 / 2
  maxSignalAgeBars : ℤ := 8
  counts_positive : 0 < failedLevelTtlMs ∧ 0 < maxRetestBars ∧ 0 < maxSignalAgeBars := by decide
  reals_nonneg : 0 ≤ pullbackEmaToleranceAtr ∧ 0 ≤ breakoutAtrThreshold ∧ 0 ≤ retestAtrTolerance ∧
    0 ≤ failedLevelBreakoutMult ∧ 0 ≤ failedLevelMinVolumeZ := by
    first | exact MarketWatch.default_thresholds | decide +kernel

/-- The columns of the saved state that the playbooks read. -/
structure PlaybookMemory where
  breakoutState : BreakoutState := .none
  breakoutLevel : Option ℚ := none
  breakoutDirection : Option Direction := none
  breakoutBarEndMs : Option ℤ := none
  recentFailedBreakout : Option ℚ := none
  recentFailedBreakoutMs : Option ℤ := none
  recentFailedBreakdown : Option ℚ := none
  recentFailedBreakdownMs : Option ℤ := none

/-! ### Candidates -/

inductive CandidateStatus where
  | absent
  | watch
  | actionable
  deriving DecidableEq

inductive ConfidenceBand where
  | high
  | medium
  | low
  deriving DecidableEq

/-- What an evaluator returns; a field with a default is a key that some of them leave out. -/
structure CandidateDict where
  decision : DirectionalDecision
  setup : Playbook
  entryLow : ℚ
  entryHigh : ℚ
  stopLoss : ℚ
  takeProfit1 : ℚ
  takeProfit2 : ℚ
  invalidation : ℚ
  confidence : ConfidenceBand
  reasons : List String
  risks : List String
  breakoutState : BreakoutState := .none
  breakoutLevel : Option ℚ := none
  breakoutDirection : Option Direction := none
  breakoutBarEndMs : Option ℤ := none
  failedLevel : Option ℚ := none

structure PlaybookCandidate where
  playbook : Playbook
  candidateStatus : CandidateStatus
  decision : DirectionalDecision
  entryLow : ℚ
  entryHigh : ℚ
  stopLoss : ℚ
  takeProfit1 : ℚ
  takeProfit2 : ℚ
  reasonCodes : List String
  riskCodes : List String
  setupCreationBarEndMs : ℤ
  invalidation : ℚ
  confidence : ConfidenceBand
  breakoutState : BreakoutState
  breakoutLevel : Option ℚ
  breakoutDirection : Option Direction
  breakoutBarEndMs : Option ℤ
  failedLevel : Option ℚ

/-- `candidate_dict_to_candidate`; no evaluator sets the bar in which the setup was created. -/
def candidateDictToCandidate (dict : CandidateDict) (fallbackBarEndMs : ℤ) :
    PlaybookCandidate where
  playbook := dict.setup
  candidateStatus := if dict.decision = .wait then .watch else .actionable
  decision := dict.decision
  entryLow := dict.entryLow
  entryHigh := dict.entryHigh
  stopLoss := dict.stopLoss
  takeProfit1 := dict.takeProfit1
  takeProfit2 := dict.takeProfit2
  reasonCodes := dict.reasons
  riskCodes := dict.risks
  setupCreationBarEndMs := dict.breakoutBarEndMs.elim fallbackBarEndMs
    fun barEndMs => barOr barEndMs fallbackBarEndMs
  invalidation := dict.invalidation
  confidence := dict.confidence
  breakoutState := dict.breakoutState
  breakoutLevel := dict.breakoutLevel
  breakoutDirection := dict.breakoutDirection
  breakoutBarEndMs := dict.breakoutBarEndMs
  failedLevel := dict.failedLevel

/-! ### The playbooks -/

/-- `level or other`, where the other is a number. -/
def levelOr (level : Option ℚ) (other : ℚ) : ℚ := (orElse level (some other)).getD other

/-- `max(tf_15m.atr, 1e-6)`. -/
def TimeframeSnapshot.usedAtr (timeframe : TimeframeSnapshot) : ℚ :=
  max timeframe.atr (1 / 10 ^ 6)

def DirectionalDecision.of : Direction → DirectionalDecision
  | .long => long
  | .short => short

def riskIf (condition : Prop) [Decidable condition] (code : String) : List String :=
  if condition then [code] else []

section

variable (tf4h tf1h tf15m : TimeframeSnapshot) (derivatives : DerivativesMetrics)
  (exhaustion : ExhaustionMetrics) (thresholds : Thresholds)

def NearAverages : Prop :=
  |(tf15m.close - tf15m.emaFast) / tf15m.usedAtr| ≤ thresholds.pullbackEmaToleranceAtr * (3 / 2) ∨
    |(tf15m.close - tf15m.emaMid) / tf15m.usedAtr| ≤ thresholds.pullbackEmaToleranceAtr * (3 / 2)

instance : Decidable (NearAverages tf15m thresholds) := inferInstanceAs (Decidable (_ ∨ _))

def pullbackConfidence : ConfidenceBand := if 25 ≤ tf1h.adx then .high else .medium

/-- The long half of `evaluate_trend_pullback`. -/
def longPullback : Option CandidateDict :=
  let atr := tf15m.usedAtr
  let floor := levelOr tf15m.recentSwingLow (tf15m.close - 3 / 2 * atr)
  if (NearAverages tf15m thresholds ∧ floor < tf15m.close) ∧
      tf15m.latestClosedBar.openPrice < tf15m.close ∧ tf15m.emaFast ≤ tf15m.close then
    let tp1 := ((tf1h.resistances.filter fun r => tf15m.close < r).min?).getD
      (tf15m.close + 2 * atr)
    some {
      decision := .long
      setup := .trendPullback
      entryLow := min tf15m.close tf15m.emaFast
      entryHigh := max tf15m.close tf15m.emaFast
      stopLoss := floor - 2 / 10 * atr
      takeProfit1 := tp1
      takeProfit2 := tp1 + 3 / 2 * atr
      invalidation := floor
      confidence := pullbackConfidence tf1h
      reasons := ["4H_1H_TREND_UP_ALIGNED", "15M_PULLBACK_CONFIRMED", "CLOSED_BAR_REACCELERATION"]
      risks := riskIf (derivatives.regime = .longCrowding) "LONG_CROWDING_PRESENT" }
  else none

/-- The short half of `evaluate_trend_pullback`. -/
def shortPullback : Option CandidateDict :=
  let atr := tf15m.usedAtr
  let ceiling := levelOr tf15m.recentSwingHigh (tf15m.close + 3 / 2 * atr)
  if (NearAverages tf15m thresholds ∧ tf15m.close < ceiling) ∧
      tf15m.close < tf15m.latestClosedBar.openPrice ∧ tf15m.close ≤ tf15m.emaFast then
    let tp1 := ((tf1h.supports.filter fun s => s < tf15m.close).max?).getD (tf15m.close - 2 * atr)
    some {
      decision := .short
      setup := .trendPullback
      entryLow := min tf15m.close tf15m.emaFast
      entryHigh := max tf15m.close tf15m.emaFast
      stopLoss := ceiling + 2 / 10 * atr
      takeProfit1 := tp1
      takeProfit2 := tp1 - 3 / 2 * atr
      invalidation := ceiling
      confidence := pullbackConfidence tf1h
      reasons :=
        ["4H_1H_TREND_DOWN_ALIGNED", "15M_PULLBACK_CONFIRMED", "CLOSED_BAR_REACCELERATION"]
      risks := riskIf (derivatives.regime = .shortCrowding) "SHORT_CROWDING_PRESENT" }
  else none

/-- `evaluate_trend_pullback`; the two halves exclude each other by their regimes. -/
def evaluateTrendPullback : Option CandidateDict :=
  if tf4h.regime = .trendUp ∧ tf1h.regime = .trendUp then
    if exhaustion.state = .extreme ∧ 0 < exhaustion.distanceFromEma20Atr then none
    else longPullback tf1h tf15m derivatives thresholds
  else if tf4h.regime = .trendDown ∧ tf1h.regime = .trendDown then
    if exhaustion.state = .extreme ∧ exhaustion.distanceFromEma20Atr < 0 then none
    else shortPullback tf1h tf15m derivatives thresholds
  else none

def Direction.breakWord : Direction → String
  | long => "BREAKOUT"
  | short => "BREAKDOWN"

/-- `value` moved by that much in the direction. -/
def Direction.ahead (direction : Direction) (value distance : ℚ) : ℚ :=
  match direction with
  | long => value + distance
  | short => value - distance

/-- The closed bar came back to the level and held it. -/
def Retests (direction : Direction) (level : ℚ) : Prop :=
  let bar := tf15m.latestClosedBar
  let tolerance := thresholds.retestAtrTolerance * tf15m.usedAtr
  match direction with
  | .long =>
    (bar.low ≤ level + tolerance ∧ level - tolerance * (3 / 2) ≤ bar.low) ∧ level ≤ bar.close
  | .short =>
    (level - tolerance ≤ bar.high ∧ bar.high ≤ level + tolerance * (3 / 2)) ∧ bar.close ≤ level

instance (direction : Direction) (level : ℚ) :
    Decidable (Retests tf15m thresholds direction level) := by
  cases direction <;> exact inferInstanceAs (Decidable (_ ∧ _))

/-- The open interest of the last hour did not grow. -/
def LowParticipation : Prop := ∃ change ∈ derivatives.oi1hChange, change ≤ 0

instance : Decidable (LowParticipation derivatives) := inferInstanceAs (Decidable (∃ _ ∈ _, _))

def retestDict (direction : Direction) (level : ℚ) (breakoutBarEndMs : ℤ) : CandidateDict :=
  let atr := tf15m.usedAtr
  { decision := .of direction
    setup := .breakoutRetest
    breakoutState := .retestConfirmed
    breakoutLevel := some level
    breakoutDirection := some direction
    breakoutBarEndMs := some breakoutBarEndMs
    entryLow := match direction with | .long => level | .short => tf15m.close
    entryHigh := match direction with | .long => tf15m.close | .short => level
    stopLoss := direction.ahead level (-(3 / 10 * atr))
    takeProfit1 := direction.ahead tf15m.close (5 / 2 * atr)
    takeProfit2 := direction.ahead tf15m.close (4 * atr)
    invalidation := direction.ahead level (-(thresholds.retestAtrTolerance * atr))
    confidence := .medium
    reasons := [direction.breakWord ++ "_CONFIRMED", "RETEST_CONFIRMED", match direction with
      | .long => "CLOSED_BAR_HOLDING_ABOVE_RESISTANCE"
      | .short => "CLOSED_BAR_HOLDING_BELOW_SUPPORT"]
    risks := riskIf (LowParticipation derivatives)
      (direction.breakWord ++ "_LOW_PARTICIPATION") }

structure PendingBreakout where
  level : ℚ
  direction : Direction
  barEndMs : ℤ

/-- The breakout that the saved columns hold. -/
def PlaybookMemory.pending (memory : PlaybookMemory) : Option PendingBreakout :=
  match memory.breakoutState, memory.breakoutLevel, memory.breakoutDirection,
      memory.breakoutBarEndMs with
  | .breakoutConfirmed, some level, some direction, some barEndMs =>
    some ⟨level, direction, barEndMs⟩
  | _, _, _, _ => none

/-- `bars_elapsed`, which is at least one. -/
def barsElapsed (current previous : ℤ) : ℤ := max 1 ((current - previous) / quarterMs)

/-- The part of `evaluate_breakout_retest` on the breakout that awaits its retest. -/
def evaluateRetest (memory : PlaybookMemory) : Option CandidateDict :=
  match memory.pending with
  | none => none
  | some pending =>
    if pending.barEndMs < tf15m.closedBarEndTimeMs ∧
        barsElapsed tf15m.closedBarEndTimeMs pending.barEndMs ≤ thresholds.maxRetestBars ∧
        Retests tf15m thresholds pending.direction pending.level ∧ exhaustion.state ≠ .extreme then
      some (retestDict tf15m derivatives thresholds pending.direction pending.level
        pending.barEndMs)
    else none

def breakoutLevelOf : Direction → Option ℚ
  | .long => tf1h.resistances.getLast?
  | .short => tf1h.supports.getLast?

def PlaybookMemory.failed (memory : PlaybookMemory) : Direction → Option ℚ × Option ℤ
  | .long => (memory.recentFailedBreakout, memory.recentFailedBreakoutMs)
  | .short => (memory.recentFailedBreakdown, memory.recentFailedBreakdownMs)

/-- `has_failed_memory`: a breakout near the level has failed not long ago. -/
def HasFailedMemory (memory : PlaybookMemory) (direction : Direction) (level : ℚ) : Prop :=
  ∃ failed ∈ (memory.failed direction).1, ∃ failedMs ∈ (memory.failed direction).2,
    |level - failed| / max level (1 / 10 ^ 4) ≤ 2 / 100 ∧
      tf15m.closedBarEndTimeMs - failedMs ≤ thresholds.failedLevelTtlMs

instance (memory : PlaybookMemory) (direction : Direction) (level : ℚ) :
    Decidable (HasFailedMemory tf15m thresholds memory direction level) :=
  inferInstanceAs (Decidable (∃ _ ∈ _, ∃ _ ∈ _, _))

/-- The closed bar left the level behind by that much, in the direction of its body. -/
def BreaksLevel (direction : Direction) (level minBreak : ℚ) : Prop :=
  let bar := tf15m.latestClosedBar
  match direction with
  | .long => level + minBreak ≤ bar.close ∧ bar.openPrice < bar.close
  | .short => bar.close ≤ level - minBreak ∧ bar.close < bar.openPrice

instance (direction : Direction) (level minBreak : ℚ) :
    Decidable (BreaksLevel tf15m direction level minBreak) := by
  cases direction <;> exact inferInstanceAs (Decidable (_ ∧ _))

/-- The part of `evaluate_breakout_retest` on a new breakout in the direction. -/
def evaluateNewBreakout (memory : PlaybookMemory) (direction : Direction) :
    Option CandidateDict :=
  match breakoutLevelOf tf1h direction with
  | none => none
  | some level =>
    let atr := tf15m.usedAtr
    let close := tf15m.latestClosedBar.close
    let hasFailedMemory := HasFailedMemory tf15m thresholds memory direction level
    let minBreak := thresholds.breakoutAtrThreshold * atr *
      if hasFailedMemory then thresholds.failedLevelBreakoutMult else 1
    let minVolZ := if hasFailedMemory then
      max thresholds.minVolumeZ thresholds.failedLevelMinVolumeZ else thresholds.minVolumeZ
    if BreaksLevel tf15m direction level minBreak ∧ minVolZ ≤ tf15m.volumeZ ∧
        exhaustion.state ≠ .extreme then
      some {
        decision := .wait
        setup := .breakoutRetest
        breakoutState := .breakoutConfirmed
        breakoutLevel := some level
        breakoutDirection := some direction
        breakoutBarEndMs := some tf15m.closedBarEndTimeMs
        entryLow := match direction with | .long => level | .short => close
        entryHigh := match direction with | .long => close | .short => level
        stopLoss := direction.ahead level (-(3 / 10 * atr))
        takeProfit1 := direction.ahead close (5 / 2 * atr)
        takeProfit2 := direction.ahead close (4 * atr)
        invalidation := direction.ahead level (-(thresholds.retestAtrTolerance * atr))
        confidence := .medium
        reasons := [direction.breakWord ++ "_CONFIRMED", "WAITING_FOR_RETEST_CONFIRMATION"] ++
          riskIf hasFailedMemory
            ("FAILED_" ++ direction.breakWord ++ "_MEMORY_HIGHER_CONFIRMATION_MET")
        risks := "AWAITING_CONFIRMED_RETEST" ::
          riskIf (LowParticipation derivatives) (direction.breakWord ++ "_LOW_PARTICIPATION") }
    else none

def evaluateBreakoutRetest (memory : PlaybookMemory) : Option CandidateDict :=
  (evaluateRetest tf15m derivatives exhaustion thresholds memory).or
    ((evaluateNewBreakout tf1h tf15m derivatives exhaustion thresholds memory .long).or
      (evaluateNewBreakout tf1h tf15m derivatives exhaustion thresholds memory .short))

def evaluateFailedBreakout : Option CandidateDict :=
  let bar := tf15m.latestClosedBar
  let atr := tf15m.usedAtr
  let oiExpanded : Prop := ∃ change ∈ derivatives.oi1hChange, 0 < change
  let bullish : Option CandidateDict := do
    let level ← tf1h.resistances.getLast?
    guard (level < bar.high ∧ bar.close < level)
    some {
      decision := .wait
      setup := .failedBreakout
      entryLow := 0
      entryHigh := 0
      stopLoss := bar.high + 2 / 10 * atr
      takeProfit1 := tf15m.close - 2 * atr
      takeProfit2 := tf15m.close - 7 / 2 * atr
      invalidation := bar.high
      failedLevel := some level
      confidence := .medium
      reasons := ["FAILED_BREAKOUT_DETECTED", "CLOSED_BACK_BELOW_RESISTANCE"] ++
        riskIf oiExpanded "OI_EXPANDED_ON_FAILURE_LONGS_TRAPPED" ++
        riskIf (∃ rate ∈ derivatives.fundingRate, 0 < rate) "FUNDING_POSITIVE_LONGS_TRAPPED" ++
        ["FAILED_BREAKOUT_BEARISH_WATCH"]
      risks := [] }
  let bearish : Option CandidateDict := do
    let level ← tf1h.supports.getLast?
    guard (bar.low < level ∧ level < bar.close)
    some {
      decision := .wait
      setup := .failedBreakdown
      entryLow := 0
      entryHigh := 0
      stopLoss := bar.low - 2 / 10 * atr
      takeProfit1 := tf15m.close + 2 * atr
      takeProfit2 := tf15m.close + 7 / 2 * atr
      invalidation := bar.low
      failedLevel := some level
      confidence := .medium
      reasons := ["FAILED_BREAKDOWN_DETECTED", "CLOSED_BACK_ABOVE_SUPPORT"] ++
        riskIf oiExpanded "OI_EXPANDED_ON_FAILURE_SHORTS_TRAPPED" ++
        ["FAILED_BREAKDOWN_BULLISH_WATCH"]
      risks := [] }
  bullish.or bearish

/-- The level that the structure of the chart sets on one side of the price. -/
def structureLevel (levels15m levels1h : List ℚ) (swing15m swing1h : Option ℚ) (other : ℚ) : ℚ :=
  levels15m.getLast?.getD
    (levelOr swing15m (levels1h.getLast?.getD (levelOr swing1h other)))

def evaluateVolatilityExpansion : Option CandidateDict :=
  let atr := tf15m.usedAtr
  let bar := tf15m.latestClosedBar
  let reasons := ["PRIOR_COMPRESSION_WINDOW_CONFIRMED", "STRUCTURE_BREAKOUT_CONFIRMED",
    "ATR_AND_VOLUME_SURGE"]
  let res := structureLevel tf15m.resistances tf1h.resistances tf15m.recentSwingHigh
    tf1h.recentSwingHigh (tf15m.emaFast + atr / 2)
  let sup := structureLevel tf15m.supports tf1h.supports tf15m.recentSwingLow
    tf1h.recentSwingLow (tf15m.emaFast - atr / 2)
  if ¬ (tf15m.hasPriorCompressionWindow = true ∨ tf1h.hasPriorCompressionWindow = true) then none
  else if ¬ (1 ≤ tf15m.volumeZ ∧ 7 / 10 ≤ tf15m.atrPercentile) then none
  else if exhaustion.state = .extreme then none
  else if res < bar.close ∧ bar.openPrice < bar.close then
    some {
      decision := .long
      setup := .volatilityExpansion
      entryLow := max res tf15m.emaFast
      entryHigh := tf15m.close
      stopLoss := tf15m.close - 3 / 2 * atr
      takeProfit1 := tf15m.close + 5 / 2 * atr
      takeProfit2 := tf15m.close + 4 * atr
      invalidation := res - 2 / 10 * atr
      confidence := .medium
      reasons := reasons
      risks := ["CHASE_RISK_IF_FAST_REVERSAL"] }
  else if bar.close < sup ∧ bar.close < bar.openPrice then
    some {
      decision := .short
      setup := .volatilityExpansion
      entryLow := tf15m.close
      entryHigh := min sup tf15m.emaFast
      stopLoss := tf15m.close + 3 / 2 * atr
      takeProfit1 := tf15m.close - 5 / 2 * atr
      takeProfit2 := tf15m.close - 4 * atr
      invalidation := sup + 2 / 10 * atr
      confidence := .medium
      reasons := reasons
      risks := ["CHASE_RISK_IF_FAST_REVERSAL"] }
  else none

def evaluateAllPlaybookCandidates (memory : PlaybookMemory) : List PlaybookCandidate :=
  let dicts := [evaluateTrendPullback tf4h tf1h tf15m derivatives exhaustion thresholds,
    evaluateBreakoutRetest tf1h tf15m derivatives exhaustion thresholds memory,
    evaluateFailedBreakout tf1h tf15m derivatives,
    evaluateVolatilityExpansion tf1h tf15m exhaustion]
  (dicts.filterMap id).map fun dict => candidateDictToCandidate dict tf15m.closedBarEndTimeMs

end

def playbookPrecedence : List Playbook :=
  [.trendPullback, .breakoutRetest, .failedBreakout, .failedBreakdown, .volatilityExpansion]

/-- What `select_playbook_candidate` returns; each playbook has one candidate at most. -/
structure Selection where
  selected : Option PlaybookCandidate
  eligible : List Playbook
  actionable : List Playbook

def selectPlaybookCandidate (candidates : List PlaybookCandidate) : Selection where
  selected := playbookPrecedence.findSome? fun playbook =>
    (candidates.filter fun candidate =>
      candidate.candidateStatus ≠ .absent ∧ candidate.playbook = playbook).getLast?
  eligible := (candidates.filter fun candidate => candidate.candidateStatus ≠ .absent).map
    fun candidate => candidate.playbook
  actionable := (candidates.filter fun candidate =>
    candidate.candidateStatus = .actionable).map fun candidate => candidate.playbook

end QuantAgent.MarketWatch
