/-
This file embeds how the market watch assesses a snapshot: the alignment of its timeframes, the
exhaustion filter, the benchmark context, the risk and reward of the selected candidate, and the
gates its decision passes before it becomes a directional plan.
-/

import QuantAgent.MarketWatch.BreakoutRetest

namespace QuantAgent.MarketWatch

/-! ### What the policy reads -/

/-- The thresholds of the filter and the gates, with the checks of their constructor. -/
structure GateThresholds where
  overextensionEma20Atr : ℚ := 22 / 10
  extremeOverextensionEma20Atr : ℚ := 32 / 10
  overextensionEma50Atr : ℚ := 38 / 10
  highVolAtrPercentile : ℚ := 85 / 100
  fundingCrowdingAbs : ℚ := 3 / 10000
  fundingExtremeAbs : ℚ := 8 / 10000
  globalLongCrowdingRatio : ℚ := 22 / 10
  globalShortCrowdingRatio : ℚ := 55 / 100
  topTraderCrowdingRatio : ℚ := 2
  maxSpreadBps : ℚ := 8
  reals_nonneg : 0 ≤ overextensionEma20Atr ∧ 0 ≤ extremeOverextensionEma20Atr ∧
    0 ≤ overextensionEma50Atr ∧ 0 ≤ highVolAtrPercentile ∧ 0 ≤ fundingCrowdingAbs ∧
    0 ≤ fundingExtremeAbs ∧ 0 ≤ globalLongCrowdingRatio ∧ 0 ≤ globalShortCrowdingRatio ∧
    0 ≤ topTraderCrowdingRatio ∧ 0 ≤ maxSpreadBps := by decide +kernel

structure PolicyConfig where
  thresholds : Thresholds := {}
  gates : GateThresholds := {}
  benchmarkSymbols : List String := ["BTCUSDT", "ETHUSDT"]
  minNetRr : ℚ := 3 / 2
  highQualityNetRr : ℚ := 2
  minActionEntryQuality : EntryQuality := .good
  takerFeeRate : ℚ := 5 / 10000
  slippageBpsPerSide : ℚ := 2
  fundingStressRate : ℚ := 5 / 10000
  reals_nonneg : 0 ≤ minNetRr ∧ 0 ≤ highQualityNetRr ∧ 0 ≤ takerFeeRate ∧
    0 ≤ slippageBpsPerSide ∧ 0 ≤ fundingStressRate := by decide +kernel

structure DerivativesReading extends DerivativesMetrics where
  spreadBps : Option ℚ := none
  globalAccountLongShortRatio : Option ℚ := none
  topTraderPositionRatio : Option ℚ := none

structure MarketSnapshot where
  symbol : String
  tf15m : TimeframeSnapshot
  tf1h : TimeframeSnapshot
  tf4h : TimeframeSnapshot
  derivatives : DerivativesReading := {}
  return1h : Option ℚ := none

structure RelativePerformance where
  relToBtc1h : Option ℚ := none

inductive BenchmarkContext where
  | marketRiskOn
  | marketRiskOff
  | benchmarkNeutral
  | btcVolatilityShock
  | ethVolatilityShock
  deriving DecidableEq

structure Coded (Value : Type) where
  value : Value
  reasons : List String := []
  risks : List String := []

/-! ### Alignment, exhaustion and benchmark -/

/-- The reasons of `evaluate_timeframe_alignment`; nothing reads its status. -/
def timeframeReasons (tf4h tf1h tf15m : TimeframeSnapshot) : List String :=
  let macroUp : Prop := tf4h.regime = .trendUp
  let macroDown : Prop := tf4h.regime = .trendDown
  let trendUp : Prop := tf1h.regime = .trendUp
  let trendDown : Prop := tf1h.regime = .trendDown
  if macroUp ∧ trendUp ∧ tf15m.emaFast < tf15m.close then
    ["HTF_LTF_ALIGNED", "FOUR_HOUR_TREND_DOMINANT"]
  else if macroDown ∧ trendDown ∧ tf15m.close < tf15m.emaFast then
    ["HTF_LTF_ALIGNED", "FOUR_HOUR_TREND_DOMINANT"]
  else if macroUp ∧ trendDown then ["HTF_LTF_CONFLICT", "ONE_HOUR_COUNTER_TREND"]
  else if macroDown ∧ trendUp then ["HTF_LTF_CONFLICT", "ONE_HOUR_TRANSITION"]
  else if ¬ macroUp ∧ ¬ macroDown ∧ (trendUp ∨ trendDown) then ["ONE_HOUR_TREND_DOMINANT"]
  else ["TIME_FRAMES_MIXED"]

def evaluateExhaustion (gates : GateThresholds) (timeframe : TimeframeSnapshot)
    (derivatives : DerivativesReading) : Coded ExhaustionMetrics :=
  let atr := timeframe.usedAtr
  let distEma20Atr := (timeframe.close - timeframe.emaFast) / atr
  let distEma50Atr := (timeframe.close - timeframe.emaMid) / atr
  let crowded := riskIf (derivatives.regime = .longCrowding ∨ derivatives.regime = .shortCrowding)
    "CROWDED_EXTENSION"
  if gates.extremeOverextensionEma20Atr ≤ |distEma20Atr| ∨
      gates.overextensionEma50Atr ≤ |distEma50Atr| then
    { value := ⟨.extreme, distEma20Atr⟩
      reasons := ["OVEREXTENDED_FROM_MEAN", "DO_NOT_CHASE", "WAIT_FOR_PULLBACK",
        "MOMENTUM_EXHAUSTION_RISK"] ++ crowded }
  else if gates.overextensionEma20Atr ≤ |distEma20Atr| then
    { value := ⟨.elevated, distEma20Atr⟩
      reasons := "ELEVATED_EXTENSION_FROM_EMA" :: crowded }
  else { value := ⟨.normal, distEma20Atr⟩ }

/-- The hour brought a fall beyond the limit in a volatile market. -/
def VolatilityShock (gates : GateThresholds) (snapshot : MarketSnapshot) (limit : ℚ) : Prop :=
  ∃ change ∈ snapshot.return1h,
    gates.highVolAtrPercentile ≤ snapshot.tf1h.atrPercentile ∧ change < limit

instance (gates : GateThresholds) (snapshot : MarketSnapshot) (limit : ℚ) :
    Decidable (VolatilityShock gates snapshot limit) := inferInstanceAs (Decidable (∃ _ ∈ _, _))

def evaluateBenchmarkContext (gates : GateThresholds) (btcSnapshot ethSnapshot :
    Option MarketSnapshot) : Coded BenchmarkContext :=
  match btcSnapshot with
  | none => { value := .benchmarkNeutral, reasons := ["BTC_SNAPSHOT_UNAVAILABLE"] }
  | some btc =>
    let btcReasons := riskIf (btc.return1h = none) "BTC_RETURN_1H_UNAVAILABLE"
    if VolatilityShock gates btc (-15 / 1000) then
      { value := .btcVolatilityShock
        reasons := btcReasons ++ ["BTC_DOWNSIDE_VOLATILITY_SHOCK"]
        risks := ["BTC_FLASH_DROP_RISK"] }
    else if ∃ eth ∈ ethSnapshot, VolatilityShock gates eth (-2 / 100) then
      { value := .ethVolatilityShock
        reasons := btcReasons ++ ["ETH_DOWNSIDE_VOLATILITY_SHOCK"]
        risks := ["ETH_FLASH_DROP_RISK"] }
    else
      let reasons := btcReasons ++
        riskIf (∃ eth ∈ ethSnapshot, eth.return1h = none) "ETH_RETURN_1H_UNAVAILABLE"
      if btc.tf1h.regime = .trendDown ∨ btc.tf4h.regime = .trendDown then
        { value := .marketRiskOff
          reasons := reasons ++ ["BTC_TREND_DOWN_DOMINANT"]
          risks := ["MARKET_HEADWINDS_FOR_LONGS"] }
      else if btc.tf1h.regime = .trendUp ∧ btc.tf4h.regime = .trendUp then
        { value := .marketRiskOn, reasons := reasons ++ ["BTC_TREND_UP_ALIGNED"] }
      else
        { value := .benchmarkNeutral, reasons := reasons ++ ["BENCHMARK_BALANCED_OR_RANGE"] }

/-! ### Risk and reward -/

/-- What the trade risks and earns per unit in the direction of its decision. -/
def grossRiskReward (entryPrice stopLoss takeProfit : ℚ) : DirectionalDecision → Option (ℚ × ℚ)
  | .long => some (entryPrice - stopLoss, takeProfit - entryPrice)
  | .short => some (stopLoss - entryPrice, entryPrice - takeProfit)
  | .wait => none

def frictionPct (config : PolicyConfig) (decision : DirectionalDecision)
    (fundingRate : Option ℚ) : ℚ :=
  let observed := fundingRate.getD 0
  let adverse := if decision = .long then max observed config.fundingStressRate
    else max (-observed) config.fundingStressRate
  2 * config.takerFeeRate + 2 * (config.slippageBpsPerSide / 10000) + adverse * 2

/-- `calculate_net_risk_reward`: the gross and the net ratio. -/
def calculateNetRiskReward (config : PolicyConfig) (entryPrice stopLoss takeProfit : ℚ)
    (decision : DirectionalDecision) (fundingRate : Option ℚ) : ℚ × ℚ :=
  if entryPrice ≤ 0 ∨ stopLoss ≤ 0 ∨ takeProfit ≤ 0 then (0, 0)
  else
    match grossRiskReward entryPrice stopLoss takeProfit decision with
    | none => (0, 0)
    | some (grossRisk, grossReward) =>
      if grossRisk ≤ 0 ∨ grossReward ≤ 0 then (0, 0)
      else
        let grossRr := grossReward / grossRisk
        let cost := frictionPct config decision fundingRate
        let totalLossCostPct := grossRisk / entryPrice + cost
        let netRewardPct := grossReward / entryPrice - cost
        if totalLossCostPct ≤ 0 ∨ netRewardPct ≤ 0 then (grossRr, 0)
        else (roundTo 2 grossRr, roundTo 2 (netRewardPct / totalLossCostPct))

/-! ### Entry quality -/

/-- A part of the score, with the code it comes with. -/
structure ScorePart where
  score : ℤ := 0
  reasons : List String := []
  risks : List String := []

def derivativesPart (decision : DirectionalDecision) (regime : DerivativesRegime) : ScorePart :=
  if decision = .long ∧ regime = .healthyLongBuild ∨
      decision = .short ∧ regime = .healthyShortBuild then
    { score := 2, reasons := ["DERIVATIVES_ALIGNED"] }
  else if decision = .long ∧ regime = .longCrowding ∨
      decision = .short ∧ regime = .shortCrowding then
    { score := -2, risks := ["DERIVATIVES_CROWDED_ADVERSE"] }
  else if regime = .deleveraging then
    { score := -2, risks := ["DELEVERAGING_ENVIRONMENT"] }
  else {}

def scoreParts (config : PolicyConfig) (decision : DirectionalDecision)
    (exhaustion : ExhaustionMetrics) (netRr : ℚ) (tf15m : TimeframeSnapshot)
    (derivatives : DerivativesReading) : List ScorePart :=
  let distEma := |exhaustion.distanceFromEma20Atr|
  [if distEma ≤ config.thresholds.pullbackEmaToleranceAtr then
      { score := 2, reasons := ["PRICE_CLOSE_TO_KEY_EMA"] }
    else if distEma ≤ config.gates.overextensionEma20Atr then
      { score := 1, reasons := ["MODERATE_DISTANCE_FROM_EMA"] }
    else { score := -1, risks := ["PRICE_STRETCHED_FROM_EMA"] },
    if config.thresholds.minVolumeZ ≤ tf15m.volumeZ then
      { score := 1, reasons := ["PARTICIPATION_HEALTHY"] }
    else { score := -1, risks := ["LOW_VOLUME_CONFIRMATION"] },
    if config.highQualityNetRr ≤ netRr then { score := 2, reasons := ["EXCELLENT_NET_RR"] }
    else if config.minNetRr ≤ netRr then { score := 1, reasons := ["ACCEPTABLE_NET_RR"] }
    else {},
    derivativesPart decision derivatives.regime]

def evaluateEntryQuality (config : PolicyConfig) (decision : DirectionalDecision)
    (exhaustion : Coded ExhaustionMetrics) (netRr : ℚ) (tf15m : TimeframeSnapshot)
    (derivatives : DerivativesReading) : Coded EntryQuality :=
  if decision = .wait then { value := .poor, reasons := ["NO_DIRECTIONAL_DECISION"] }
  else if exhaustion.value.state = .extreme then
    { value := .poor, reasons := exhaustion.reasons, risks := ["CHASE_INTO_EXTREME_EXTENSION"] }
  else if netRr < config.minNetRr then
    { value := .marginal
      reasons := ["INSUFFICIENT_NET_RR"]
      risks := ["NET_RR_" ++ fixed 2 netRr ++ "_BELOW_" ++ fixed 2 config.minNetRr] }
  else if ∃ spread ∈ derivatives.spreadBps, config.gates.maxSpreadBps < spread then
    { value := .marginal, risks := ["WIDE_SPREAD_FRICTION"] }
  else
    let parts := scoreParts config decision exhaustion.value netRr tf15m derivatives
    let score := (parts.map ScorePart.score).sum
    { value :=
        if 5 ≤ score ∧ exhaustion.value.state = .normal then .excellent
        else if 3 ≤ score then .good
        else if 1 ≤ score then .marginal
        else .poor
      reasons := parts.flatMap ScorePart.reasons
      risks := parts.flatMap ScorePart.risks }

/-! ### Gates -/

def entryQualityGate (config : PolicyConfig) (quality : EntryQuality)
    (decision : DirectionalDecision) : Coded DirectionalDecision :=
  if decision ≠ .wait ∧ quality.rank < config.minActionEntryQuality.rank then
    { value := .wait, reasons := ["ENTRY_QUALITY_BELOW_MINIMUM_WAIT"] }
  else { value := decision }

def applyBenchmarkContextGate (config : PolicyConfig) (symbol : String)
    (context : BenchmarkContext) (relativePerf : Option RelativePerformance)
    (quality : EntryQuality) (netRr : ℚ) (decision : DirectionalDecision) :
    Coded DirectionalDecision :=
  if symbol ∈ config.benchmarkSymbols ∨ decision ≠ .long then { value := decision }
  else if context = .marketRiskOff ∨ context = .btcVolatilityShock ∨
      context = .ethVolatilityShock then
    if (∃ performance ∈ relativePerf, ∃ relative ∈ performance.relToBtc1h,
        25 / 1000 ≤ relative) ∧
        (quality = .excellent ∨ quality = .good) ∧ config.highQualityNetRr ≤ netRr then
      { value := decision
        reasons := ["EXCEPTIONAL_RELATIVE_STRENGTH_AGAINST_BTC_SHOCK"]
        risks := ["BENCHMARK_RISK_OFF_CAUTION"] }
    else
      { value := .wait
        reasons := ["BTC_BENCHMARK_RISK_OFF_VETO", "WAIT_FOR_BENCHMARK_STABILIZATION"]
        risks := ["BTC_CORRELATION_DRAG_RISK"] }
  else { value := decision }

def IsSevereLongCrowding (gates : GateThresholds) (derivatives : DerivativesReading) : Prop :=
  (∃ funding ∈ derivatives.fundingRate, gates.fundingExtremeAbs ≤ funding ∨
      gates.fundingCrowdingAbs ≤ funding ∧
        ((∃ ratio ∈ derivatives.globalAccountLongShortRatio,
            gates.globalLongCrowdingRatio ≤ ratio) ∨
          ∃ ratio ∈ derivatives.topTraderPositionRatio, gates.topTraderCrowdingRatio ≤ ratio)) ∨
    (∃ ratio ∈ derivatives.globalAccountLongShortRatio,
      gates.globalLongCrowdingRatio * (12 / 10) ≤ ratio) ∨
    ∃ ratio ∈ derivatives.topTraderPositionRatio,
      gates.topTraderCrowdingRatio * (125 / 100) ≤ ratio

instance (gates : GateThresholds) (derivatives : DerivativesReading) :
    Decidable (IsSevereLongCrowding gates derivatives) := inferInstanceAs (Decidable (_ ∨ _))

/-- `is_severe_short_crowding`; a crowding ratio of zero, where it is used, divides by zero. -/
def isSevereShortCrowding (gates : GateThresholds) (derivatives : DerivativesReading) :
    Except String Bool := do
  if ∃ funding ∈ derivatives.fundingRate, funding ≤ -gates.fundingExtremeAbs then return true
  if (∃ funding ∈ derivatives.fundingRate, funding ≤ -gates.fundingCrowdingAbs) ∧
      ∃ ratio ∈ derivatives.globalAccountLongShortRatio,
        ratio ≤ gates.globalShortCrowdingRatio then return true
  if ∃ funding ∈ derivatives.fundingRate, funding ≤ -gates.fundingCrowdingAbs then
    if let some ratio := derivatives.topTraderPositionRatio then
      refuse (gates.topTraderCrowdingRatio = 0) "float division by zero"
      if ratio ≤ 1 / gates.topTraderCrowdingRatio then return true
  if ∃ ratio ∈ derivatives.globalAccountLongShortRatio,
      ratio ≤ gates.globalShortCrowdingRatio * (8 / 10) then return true
  match derivatives.topTraderPositionRatio with
  | none => return false
  | some ratio =>
    refuse (gates.topTraderCrowdingRatio * (125 / 100) = 0) "float division by zero"
    return decide (ratio ≤ 1 / (gates.topTraderCrowdingRatio * (125 / 100)))

def applyDerivativesActionGate (gates : GateThresholds) (derivatives : DerivativesReading)
    (decision : DirectionalDecision) : Except String (Coded DirectionalDecision) :=
  match decision with
  | .wait => .ok { value := .wait }
  | .long =>
    if IsSevereLongCrowding gates derivatives then
      .ok {
        value := .wait
        reasons := ["DERIVATIVES_VETO_SEVERE_LONG_CROWDING"]
        risks := ["LONG_CROWDING_RISK"] }
    else .ok { value := .long }
  | .short =>
    if derivatives.regime = .longLiquidation ∨ derivatives.regime = .deleveraging then
      .ok {
        value := .wait
        reasons := ["DERIVATIVES_VETO_SHORT_ON_LIQUIDATION_UNWIND"]
        risks := ["DO_NOT_CHASE_SHORT"] }
    else do
      if ← isSevereShortCrowding gates derivatives then
        return {
          value := .wait
          reasons := ["DERIVATIVES_VETO_SEVERE_SHORT_CROWDING"]
          risks := ["SHORT_CROWDING_RISK"] }
      else return { value := .short }

/-- The vetoes of `check_fatal_vetoes`. -/
def fatalVetoes (config : PolicyConfig) (decision : DirectionalDecision)
    (exhaustion : ExhaustionMetrics) (netRr : ℚ) (tf4h : TimeframeSnapshot)
    (derivatives : DerivativesReading) : List String :=
  riskIf (exhaustion.state = .extreme ∧
      (decision = .long ∧ 0 < exhaustion.distanceFromEma20Atr ∨
        decision = .short ∧ exhaustion.distanceFromEma20Atr < 0))
      "FATAL_VETO_EXTREME_OVEREXTENSION" ++
    riskIf (decision ≠ .wait ∧ netRr < config.minNetRr) "FATAL_VETO_INSUFFICIENT_NET_RR" ++
    riskIf (decision = .long ∧ tf4h.regime = .trendDown ∨
      decision = .short ∧ tf4h.regime = .trendUp) "FATAL_VETO_CONFIRMED_HTF_CONFLICT" ++
    riskIf (∃ spread ∈ derivatives.spreadBps, config.gates.maxSpreadBps * (3 / 2) < spread)
      "FATAL_VETO_EXCESSIVE_SPREAD"

def fatalVetoGate (vetoes : List String) (decision : DirectionalDecision) :
    DirectionalDecision :=
  if vetoes = [] then decision else .wait

/-! ### The plan -/

structure PlanPrices where
  entryLow : ℚ := 0
  entryHigh : ℚ := 0
  stopLoss : ℚ := 0
  takeProfit1 : ℚ := 0
  takeProfit2 : ℚ := 0
  invalidationLevel : ℚ := 0
  deriving DecidableEq

/-- The prices with four decimals. -/
def PlanPrices.rounded (prices : PlanPrices) : PlanPrices where
  entryLow := roundTo 4 prices.entryLow
  entryHigh := roundTo 4 prices.entryHigh
  stopLoss := roundTo 4 prices.stopLoss
  takeProfit1 := roundTo 4 prices.takeProfit1
  takeProfit2 := roundTo 4 prices.takeProfit2
  invalidationLevel := roundTo 4 prices.invalidationLevel

/-- `value or 0.0` leaves every number as it is. -/
def PlaybookCandidate.prices (candidate : PlaybookCandidate) : PlanPrices where
  entryLow := candidate.entryLow
  entryHigh := candidate.entryHigh
  stopLoss := candidate.stopLoss
  takeProfit1 := candidate.takeProfit1
  takeProfit2 := candidate.takeProfit2
  invalidationLevel := candidate.invalidation

/-- The middle of the entry zone, or the close when the zone is not positive. -/
def PlanPrices.entryMid (prices : PlanPrices) (close : ℚ) : ℚ :=
  if 0 < prices.entryLow ∧ 0 < prices.entryHigh then (prices.entryLow + prices.entryHigh) / 2
  else close

structure AssessedPlan where
  symbol : String
  decision : DirectionalDecision
  setup : Playbook
  regime : Regime
  entryQuality : EntryQuality
  prices : PlanPrices
  grossRr : ℚ
  netRr : ℚ
  confidenceBand : ConfidenceBand
  reasonCodes : List String
  riskCodes : List String
  derivativesRegime : DerivativesRegime
  benchmarkContext : BenchmarkContext
  breakoutState : BreakoutState
  breakoutLevel : Option ℚ
  breakoutDirection : Option Direction
  breakoutBarEndMs : Option ℤ

/-- `tuple(sorted(set(codes)))`. -/
def sortedCodes (codes : List String) : List String := codes.dedup.insertionSort (· ≤ ·)

section

variable (config : PolicyConfig) (snapshot : MarketSnapshot) (memory : PlaybookMemory)

/-- The candidate that `assess_symbol` selects. -/
def selectedCandidate : Option PlaybookCandidate :=
  let exhaustion := (evaluateExhaustion config.gates snapshot.tf15m snapshot.derivatives).value
  (selectPlaybookCandidate (evaluateAllPlaybookCandidates snapshot.tf4h snapshot.tf1h
    snapshot.tf15m snapshot.derivatives.toDerivativesMetrics exhaustion config.thresholds
    memory)).selected

def rawPrices : PlanPrices := (selectedCandidate config snapshot memory).elim {}
  PlaybookCandidate.prices

/-- `assess_symbol`, up to its directional plan; the rule score is left out. -/
def assessSymbol (btcSnapshot ethSnapshot : Option MarketSnapshot)
    (relativePerf : Option RelativePerformance) : Except String AssessedPlan := do
  let timeframes := timeframeReasons snapshot.tf4h snapshot.tf1h snapshot.tf15m
  let exhaustion := evaluateExhaustion config.gates snapshot.tf15m snapshot.derivatives
  let benchmark := evaluateBenchmarkContext config.gates btcSnapshot ethSnapshot
  let selected := selectedCandidate config snapshot memory
  let prices := rawPrices config snapshot memory
  let rawDecision := selected.elim .wait PlaybookCandidate.decision
  let (grossRr, netRr) := calculateNetRiskReward config (prices.entryMid snapshot.tf15m.close)
    prices.stopLoss prices.takeProfit1 rawDecision snapshot.derivatives.fundingRate
  let quality := evaluateEntryQuality config rawDecision exhaustion netRr snapshot.tf15m
    snapshot.derivatives
  let afterQuality := entryQualityGate config quality.value rawDecision
  let afterBenchmark := applyBenchmarkContextGate config snapshot.symbol benchmark.value
    relativePerf quality.value netRr afterQuality.value
  let afterDerivatives ← applyDerivativesActionGate config.gates snapshot.derivatives
    afterBenchmark.value
  let vetoes := fatalVetoes config afterDerivatives.value exhaustion.value netRr snapshot.tf4h
    snapshot.derivatives
  return {
    symbol := snapshot.symbol
    decision := fatalVetoGate vetoes afterDerivatives.value
    setup := selected.elim .noTrade PlaybookCandidate.playbook
    regime := snapshot.tf1h.regime
    entryQuality := quality.value
    prices := prices.rounded
    grossRr := grossRr
    netRr := netRr
    confidenceBand := selected.elim .low PlaybookCandidate.confidence
    reasonCodes := sortedCodes
      (selected.elim ("NO_CONFIRMED_PLAYBOOK_CANDIDATE" :: timeframes) (fun candidate =>
          candidate.reasonCodes ++ timeframes ++ benchmark.reasons) ++
        quality.reasons ++ afterQuality.reasons ++ afterBenchmark.reasons ++
        afterDerivatives.reasons ++ vetoes)
    riskCodes := sortedCodes
      (selected.elim [] PlaybookCandidate.riskCodes ++ benchmark.risks ++ quality.risks ++
        afterBenchmark.risks ++ afterDerivatives.risks)
    derivativesRegime := snapshot.derivatives.regime
    benchmarkContext := benchmark.value
    breakoutState := selected.elim .none PlaybookCandidate.breakoutState
    breakoutLevel := selected.bind PlaybookCandidate.breakoutLevel
    breakoutDirection := selected.bind PlaybookCandidate.breakoutDirection
    breakoutBarEndMs := selected.bind PlaybookCandidate.breakoutBarEndMs }

end

end QuantAgent.MarketWatch
