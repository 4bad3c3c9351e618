/-
This file embeds the risk compiler: cases, analyses, account snapshots and risk policies with the
checks of their models, the sizing of a proposal, and the faults that a compilation can raise.

A record carries the checks of its validator as fields, so `verify` of a record that exists passes.
Arithmetic is exact. Hashes are a type of their own, and the content hashes a parameter.
-/

import QuantAgent.Library.Refusal

namespace QuantAgent.Decision

inductive Fault where
  | valueError (message : String)
  | zeroDivision
  deriving DecidableEq

/-! ### Records -/

inductive Direction where
  | long
  | short
  | wait
  deriving DecidableEq

inductive Action where
  | noAction
  | openLong
  | openShort
  | hold
  | reduce
  | close
  | add
  | moveStop
  | takePartial
  | pauseGrid
  | gridReview
  deriving DecidableEq

inductive RiskModifier where
  | block
  | reduce
  | standard
  deriving DecidableEq

inductive DataQuality where
  | ok
  | degraded
  | failed
  deriving DecidableEq

/-- `AccountContextV1`. -/
structure AccountContext where
  equityUsdt : ℚ
  symbolExposureUsdt : ℚ
  portfolioExposureUsdt : ℚ
  marginUsedUsdt : ℚ
  simultaneousPositions : ℕ
  dailyLossUsdt : ℚ
  drawdownPct : ℚ
  observedAtMs : Int
  priorSignalIdentities : List String := []
  priorEvidenceIds : List String := []
  equityPositive : 0 < equityUsdt := by decide +kernel
  symbolExposureNonneg : 0 ≤ symbolExposureUsdt := by decide +kernel
  portfolioExposureNonneg : 0 ≤ portfolioExposureUsdt := by decide +kernel
  marginUsedNonneg : 0 ≤ marginUsedUsdt := by decide +kernel
  dailyLossNonneg : 0 ≤ dailyLossUsdt := by decide +kernel
  drawdownBounds : 0 ≤ drawdownPct ∧ drawdownPct ≤ 1 := by decide +kernel
  observedNonneg : 0 ≤ observedAtMs := by decide

/-- `CasePackageV1`, as far as the compiler and the intents read it. -/
structure CasePackage (Hash : Type) where
  caseId : String
  caseHash : Hash
  createdAtMs : Int
  observedAtMs : Int
  expiresAtMs : Int
  symbol : String
  direction : Direction
  evidenceId : String
  signalIdentity : String
  entryLow : ℚ
  entryHigh : ℚ
  stopLoss : ℚ
  takeProfit1 : ℚ
  takeProfit2 : ℚ
  fundingRate : Option ℚ := none
  spreadBps : Option ℚ := none
  liquidityUsdt : Option ℚ := none
  vetoReasons : List String := []
  account : Option AccountContext := none
  dataQuality : DataQuality
  sourceErrors : List String := []
  entryLowNonneg : 0 ≤ entryLow := by decide +kernel
  entryHighNonneg : 0 ≤ entryHigh := by decide +kernel
  stopLossNonneg : 0 ≤ stopLoss := by decide +kernel
  takeProfit1Nonneg : 0 ≤ takeProfit1 := by decide +kernel
  takeProfit2Nonneg : 0 ≤ takeProfit2 := by decide +kernel
  spreadNonneg : ∀ spread ∈ spreadBps, 0 ≤ spread := by decide +kernel
  liquidityNonneg : ∀ liquidity ∈ liquidityUsdt, 0 ≤ liquidity := by decide +kernel
  observedNonneg : 0 ≤ observedAtMs := by decide
  chronology : observedAtMs ≤ createdAtMs ∧ createdAtMs < expiresAtMs := by decide
  entryRange : entryLow ≤ entryHigh := by decide +kernel

/-- `AnalysisResultV1`: the advice of a model. -/
structure AnalysisResult (Hash : Type) where
  backend : String
  model : String
  providerRequestId : Option String
  caseId : String
  caseHash : Hash
  action : Action
  confidence : ℚ
  entryQuality : String
  thesisStrength : ℚ
  supportingFactors : List String
  riskFactors : List String
  invalidationFactors : List String
  riskModifier : RiskModifier
  requiresSecondaryReview : Bool
  requiresManualReview : Bool
  strategyDataDisagreement : Bool
  narrative : String
  confidenceBounds : 0 ≤ confidence ∧ confidence ≤ 1 := by decide +kernel
  thesisStrengthBounds : 0 ≤ thesisStrength ∧ thesisStrength ≤ 1 := by decide +kernel
  narrativeLength : narrative.length ≤ 6000 := by decide

/-- A fraction of a whole that is not nothing. -/
def IsFraction (value : ℚ) : Prop := 0 < value ∧ value ≤ 1

instance (value : ℚ) : Decidable (IsFraction value) :=
  inferInstanceAs (Decidable (0 < value ∧ value ≤ 1))

/-! The defaults of the policy pass its own checks. -/

theorem thousand_pos : (0 : ℚ) < 1000 := by decide +kernel

theorem ten_pos : (0 : ℚ) < 10 := by decide +kernel

theorem five_pos : (0 : ℚ) < 5 := by decide +kernel

theorem ten_thousand_pos : (0 : ℚ) < 10000 := by decide +kernel

theorem percent_fraction : IsFraction (1 / 100) := by decide +kernel

theorem fifth_fraction : IsFraction (1 / 5) := by decide +kernel

theorem half_fraction : IsFraction (1 / 2) := by decide +kernel

theorem three_percent_fraction : IsFraction (3 / 100) := by decide +kernel

theorem tenth_fraction : IsFraction (1 / 10) := by decide +kernel

theorem twenty_nonneg : (0 : ℚ) ≤ 20 := by decide +kernel

theorem eight_nonneg : (0 : ℚ) ≤ 8 := by decide +kernel

theorem four_nonneg : (0 : ℚ) ≤ 4 := by decide +kernel

theorem one_nonneg : (0 : ℚ) ≤ 1 := by decide +kernel

/-- `RiskPolicyV1`. -/
structure RiskPolicy where
  simulationEquityUsdt : ℚ := 1000
  maxTradeRiskUsdt : ℚ := 10
  maxTradeRiskPct : ℚ := 1 / 100
  maxSymbolExposurePct : ℚ := 1 / 5
  maxPortfolioExposurePct : ℚ := 1 / 2
  maxNotionalUsdt : ℚ := 1000
  maxLeverage : ℕ := 5
  configuredLeverage : ℕ := 2
  maxMarginUtilization : ℚ := 1 / 2
  maxSimultaneousPositions : ℕ := 5
  maxDailyLossPct : ℚ := 3 / 100
  drawdownKillPct : ℚ := 1 / 10
  maxStalenessMs : ℕ := 120000
  maxSpreadBps : ℚ := 5
  minLiquidityUsdt : ℚ := 10000
  maxLiquidityFraction : ℚ := 1 / 100
  proposalTtlMs : ℕ := 60000
  allowedPriceDriftBps : ℚ := 20
  roundTripFeeBps : ℚ := 8
  slippageBps : ℚ := 4
  fundingBufferBps : ℚ := 1
  reducedRiskFraction : ℚ := 1 / 2
  simulationEquityPositive : 0 < simulationEquityUsdt := by
    first | exact Decision.thousand_pos | decide +kernel
  maxTradeRiskPositive : 0 < maxTradeRiskUsdt := by first | exact Decision.ten_pos | decide +kernel
  maxTradeRiskFraction : IsFraction maxTradeRiskPct := by
    first | exact Decision.percent_fraction | decide +kernel
  maxSymbolExposureFraction : IsFraction maxSymbolExposurePct := by
    first | exact Decision.fifth_fraction | decide +kernel
  maxPortfolioExposureFraction : IsFraction maxPortfolioExposurePct := by
    first | exact Decision.half_fraction | decide +kernel
  maxNotionalPositive : 0 < maxNotionalUsdt := by
    first | exact Decision.thousand_pos | decide +kernel
  maxLeverageBounds : 1 ≤ maxLeverage ∧ maxLeverage ≤ 125 := by decide
  configuredLeverageBounds : 1 ≤ configuredLeverage ∧ configuredLeverage ≤ 125 := by decide
  maxMarginUtilizationFraction : IsFraction maxMarginUtilization := by
    first | exact Decision.half_fraction | decide +kernel
  maxSimultaneousPositionsPositive : 0 < maxSimultaneousPositions := by decide
  maxDailyLossFraction : IsFraction maxDailyLossPct := by
    first | exact Decision.three_percent_fraction | decide +kernel
  drawdownKillFraction : IsFraction drawdownKillPct := by
    first | exact Decision.tenth_fraction | decide +kernel
  maxStalenessPositive : 0 < maxStalenessMs := by decide
  maxSpreadPositive : 0 < maxSpreadBps := by first | exact Decision.five_pos | decide +kernel
  minLiquidityPositive : 0 < minLiquidityUsdt := by
    first | exact Decision.ten_thousand_pos | decide +kernel
  maxLiquidityIsFraction : IsFraction maxLiquidityFraction := by
    first | exact Decision.percent_fraction | decide +kernel
  proposalTtlPositive : 0 < proposalTtlMs := by decide
  allowedPriceDriftNonneg : 0 ≤ allowedPriceDriftBps := by
    first | exact Decision.twenty_nonneg | decide +kernel
  roundTripFeeNonneg : 0 ≤ roundTripFeeBps := by
    first | exact Decision.eight_nonneg | decide +kernel
  slippageNonneg : 0 ≤ slippageBps := by first | exact Decision.four_nonneg | decide +kernel
  fundingBufferNonneg : 0 ≤ fundingBufferBps := by
    first | exact Decision.one_nonneg | decide +kernel
  reducedRiskIsFraction : IsFraction reducedRiskFraction := by
    first | exact Decision.half_fraction | decide +kernel
  leverageWithinMaximum : configuredLeverage ≤ maxLeverage := by decide

inductive BlockReason where
  | dataQuality
  | spreadCap
  | liquidityMissing
  | liquidityCap
  | modelBlock
  | manualReview
  | nonEntryAction
  | addFreshEvidenceRequired
  | strategyDataDisagreement
  | staleAccount
  | dailyLossCap
  | drawdownKillSwitch
  | positionCap
  | invalidGeometry
  | exposureCap
  deriving DecidableEq

/-- `TradeProposalV1` without its own hash. -/
structure ProposalContent (Hash : Type) where
  proposalId : Hash
  caseId : String
  caseHash : Hash
  analysisResultHashes : List Hash
  riskPolicyHash : Hash
  symbol : String
  action : Action
  entryLow : ℚ
  entryHigh : ℚ
  stopLoss : ℚ
  takeProfit1 : ℚ
  takeProfit2 : ℚ
  riskBudgetUsdt : ℚ
  recommendedNotionalUsdt : ℚ
  marginUsdt : ℚ
  leverage : ℕ
  feeEstimateUsdt : ℚ
  slippageEstimateUsdt : ℚ
  fundingEstimateUsdt : ℚ
  maxLossUsdt : ℚ
  createdAtMs : Int
  expiresAtMs : Int
  allowedPriceDriftBps : ℚ
  requiresManualReview : Bool
  blockedReasons : List BlockReason
  deriving DecidableEq

structure TradeProposal (Hash : Type) extends ProposalContent Hash where
  proposalHash : Hash
  deriving DecidableEq

structure Digests (Hash : Type) where
  resultHash : AnalysisResult Hash → Hash
  policyHash : RiskPolicy → Hash
  /-- Of the case, the analyses, the policy and the time. -/
  proposalId : Hash → List Hash → Hash → Int → Hash
  proposalHash : ProposalContent Hash → Hash

variable {Hash : Type}

/-- The numbers that the validator of a proposal wants nonnegative. -/
def ProposalContent.amounts (content : ProposalContent Hash) : List ℚ :=
  [content.entryLow, content.entryHigh, content.stopLoss, content.takeProfit1,
    content.takeProfit2, content.riskBudgetUsdt, content.recommendedNotionalUsdt,
    content.marginUsdt, content.feeEstimateUsdt, content.slippageEstimateUsdt,
    content.fundingEstimateUsdt, content.maxLossUsdt, content.allowedPriceDriftBps]

/-- `TradeProposalV1.build`. -/
def TradeProposal.build (digests : Digests Hash) (content : ProposalContent Hash) :
    Except Fault (TradeProposal Hash) := do
  refuse (∃ amount ∈ content.amounts, amount < 0)
    (.valueError "Input should be greater than or equal to 0")
  refuse (content.leverage < 1) (.valueError "Input should be greater than or equal to 1")
  refuse (content.createdAtMs ≥ content.expiresAtMs) (.valueError "invalid proposal chronology")
  return ⟨content, digests.proposalHash content⟩

/-! ### Losses -/

/-- `remaining_loss_headroom`: current equity already includes losses. -/
def remainingLossHeadroom (equity peakEquity dailyLoss dailyCap drawdownCap : ℚ) :
    Except Fault (ℚ × ℚ) := do
  refuse (equity ≤ 0 ∨ peakEquity < equity ∨ dailyLoss < 0 ∨ ¬ (0 < drawdownCap ∧ drawdownCap ≤ 1))
    (.valueError "ACCOUNT_EQUITY_INCONSISTENT")
  return (max 0 (dailyCap - dailyLoss), max 0 (equity - peakEquity * (1 - drawdownCap)))

def fundingCost (policy : RiskPolicy) (fundingRate : Option ℚ) : ℚ :=
  max (policy.fundingBufferBps / 10000) |fundingRate.getD 0|

/-- What a position costs besides its distance to the stop, as a share of its notional. -/
def costRate (policy : RiskPolicy) (fundingRate : Option ℚ) : ℚ :=
  (policy.roundTripFeeBps + policy.slippageBps) / 10000 + fundingCost policy fundingRate

def worstCaseLossRate (entry stop : ℚ) (policy : RiskPolicy) (fundingRate : Option ℚ) :
    Except Fault ℚ := do
  let distance ← divide .zeroDivision |entry - stop| entry
  return distance + costRate policy fundingRate

/-! ### The compiler -/

namespace CasePackage

/-- The edge of the entry range that the sizing uses. -/
def entryEdge (case : CasePackage Hash) : ℚ :=
  if case.direction = .long then case.entryHigh else case.entryLow

/-- Stop, entries and targets stand in the order of the direction. -/
def Geometry (case : CasePackage Hash) : Prop :=
  if case.direction = .long then
    0 < case.stopLoss ∧ case.stopLoss < case.entryLow ∧ case.entryLow ≤ case.entryHigh ∧
      case.entryHigh < case.takeProfit1 ∧ case.takeProfit1 ≤ case.takeProfit2
  else
    0 < case.takeProfit2 ∧ case.takeProfit2 ≤ case.takeProfit1 ∧
      case.takeProfit1 < case.entryLow ∧ case.entryLow ≤ case.entryHigh ∧
      case.entryHigh < case.stopLoss

instance (case : CasePackage Hash) : Decidable case.Geometry := by
  unfold Geometry
  infer_instance

def equity (case : CasePackage Hash) (policy : RiskPolicy) : ℚ :=
  match case.account with
  | some account => account.equityUsdt
  | none => policy.simulationEquityUsdt

/-- The compilation comes before the case exists, after its end, or on old observations. -/
def Stale (case : CasePackage Hash) (policy : RiskPolicy) (nowMs : Int) : Prop :=
  nowMs < case.createdAtMs ∨ nowMs ≥ case.expiresAtMs ∨
    nowMs - case.observedAtMs > policy.maxStalenessMs

instance (case : CasePackage Hash) (policy : RiskPolicy) (nowMs : Int) :
    Decidable (case.Stale policy nowMs) := by
  unfold Stale
  infer_instance

end CasePackage

/-- `verify_case` would raise. -/
def AnalysisResult.Mismatch (analysis : AnalysisResult Hash) (case : CasePackage Hash) : Prop :=
  analysis.caseHash ≠ case.caseHash ∨ analysis.caseId ≠ case.caseId

instance [DecidableEq Hash] (analysis : AnalysisResult Hash) (case : CasePackage Hash) :
    Decidable (analysis.Mismatch case) := by
  unfold AnalysisResult.Mismatch
  infer_instance

/-- Append a reason when its condition holds. -/
def reasonIf (condition : Prop) [Decidable condition] (reason : BlockReason) : List BlockReason :=
  if condition then [reason] else []

def dataReasons (policy : RiskPolicy) (case : CasePackage Hash) : List BlockReason :=
  reasonIf (case.dataQuality ≠ .ok ∨ case.sourceErrors ≠ [] ∨ case.vetoReasons ≠ []) .dataQuality ++
    (match case.spreadBps with
      | none => [.spreadCap]
      | some spread => reasonIf (spread > policy.maxSpreadBps) .spreadCap) ++
    (match case.liquidityUsdt with
      | none => [.liquidityMissing]
      | some liquidity => reasonIf (liquidity < policy.minLiquidityUsdt) .liquidityCap)

/-- An addition needs a signal and evidence that the position has not used. -/
def lacksFreshEvidence (case : CasePackage Hash) : Prop :=
  match case.account with
  | none => True
  | some account =>
    account.priorSignalIdentities = [] ∨ account.priorEvidenceIds = [] ∨
      case.signalIdentity ∈ account.priorSignalIdentities ∨
      case.evidenceId ∈ account.priorEvidenceIds

instance (case : CasePackage Hash) : Decidable (lacksFreshEvidence case) := by
  unfold lacksFreshEvidence
  split <;> infer_instance

def expectedDirection (case : CasePackage Hash) : Action → Direction
  | .openShort => .short
  | .add => case.direction
  | _ => .long

def adviceReasons (case : CasePackage Hash) (analysis : AnalysisResult Hash)
    (requiresManualReview : Bool) : List BlockReason :=
  reasonIf (analysis.riskModifier = .block) .modelBlock ++
    reasonIf (analysis.requiresManualReview ∨ requiresManualReview) .manualReview ++
    reasonIf (analysis.action ∉ [Action.openLong, .openShort, .add]) .nonEntryAction ++
    reasonIf (analysis.action = .add ∧ lacksFreshEvidence case) .addFreshEvidenceRequired ++
    reasonIf (case.direction ≠ expectedDirection case analysis.action ∨
      analysis.strategyDataDisagreement) .strategyDataDisagreement

def accountReasons (policy : RiskPolicy) (case : CasePackage Hash)
    (analysis : AnalysisResult Hash) (nowMs : Int) : List BlockReason :=
  match case.account with
  | none => []
  | some account =>
    reasonIf (account.observedAtMs > nowMs ∨
        nowMs - account.observedAtMs > policy.maxStalenessMs) .staleAccount ++
      reasonIf (account.dailyLossUsdt ≥ case.equity policy * policy.maxDailyLossPct)
        .dailyLossCap ++
      reasonIf (account.drawdownPct ≥ policy.drawdownKillPct) .drawdownKillSwitch ++
      reasonIf (analysis.action ≠ .add ∧
        account.simultaneousPositions ≥ policy.maxSimultaneousPositions) .positionCap

/-- The reasons found before the sizing. -/
def reasonsBefore (policy : RiskPolicy) (case : CasePackage Hash)
    (analysis : AnalysisResult Hash) (nowMs : Int) (requiresManualReview : Bool) :
    List BlockReason :=
  dataReasons policy case ++ adviceReasons case analysis requiresManualReview ++
    accountReasons policy case analysis nowMs ++ reasonIf (¬ case.Geometry) .invalidGeometry

def riskAllowance (policy : RiskPolicy) (case : CasePackage Hash) : Except Fault ℚ := do
  let perTrade := min policy.maxTradeRiskUsdt (case.equity policy * policy.maxTradeRiskPct)
  match case.account with
  | none => return perTrade
  | some account =>
    let peakEquity ← divide .zeroDivision (case.equity policy) (1 - account.drawdownPct)
    let (remainingDaily, remainingDrawdown) ← remainingLossHeadroom (case.equity policy) peakEquity
      account.dailyLossUsdt (case.equity policy * policy.maxDailyLossPct) policy.drawdownKillPct
    return min (min perTrade remainingDaily) remainingDrawdown

def advisedRisk (policy : RiskPolicy) (analysis : AnalysisResult Hash) (allowance : ℚ) : ℚ :=
  if analysis.riskModifier = .reduce then allowance * policy.reducedRiskFraction else allowance

def floorCents (amount : ℚ) : ℚ := ⌊amount * 100⌋ / 100

/-- The notional that every cap admits. -/
def sizedNotional (policy : RiskPolicy) (case : CasePackage Hash) (affordable : ℚ) : ℚ :=
  let symbolUsed := (case.account.map AccountContext.symbolExposureUsdt).getD 0
  let portfolioUsed := (case.account.map AccountContext.portfolioExposureUsdt).getD 0
  let marginUsed := (case.account.map AccountContext.marginUsedUsdt).getD 0
  floorCents (max 0 (min (min (min (min (min affordable policy.maxNotionalUsdt)
    (case.equity policy * policy.maxSymbolExposurePct - symbolUsed))
    (case.equity policy * policy.maxPortfolioExposurePct - portfolioUsed))
    ((case.equity policy * policy.maxMarginUtilization - marginUsed) * policy.configuredLeverage))
    (case.liquidityUsdt.getD 0 * policy.maxLiquidityFraction)))

/-- The proposal that a compilation hands to the validator. -/
def proposalContent (digests : Digests Hash) (policy : RiskPolicy) (case : CasePackage Hash)
    (analysis : AnalysisResult Hash) (nowMs : Int) (hashes : List Hash)
    (requiresManualReview : Bool) (lossRate risk affordable : ℚ) : ProposalContent Hash :=
  let sized := sizedNotional policy case affordable
  let before := reasonsBefore policy case analysis nowMs requiresManualReview
  let reasons := before ++ reasonIf (sized = 0 ∧ before = []) .exposureCap
  let notional := if reasons = [] then sized else 0
  { proposalId := digests.proposalId case.caseHash hashes (digests.policyHash policy) nowMs
    caseId := case.caseId
    caseHash := case.caseHash
    analysisResultHashes := hashes
    riskPolicyHash := digests.policyHash policy
    symbol := case.symbol
    action := analysis.action
    entryLow := case.entryLow
    entryHigh := case.entryHigh
    stopLoss := case.stopLoss
    takeProfit1 := case.takeProfit1
    takeProfit2 := case.takeProfit2
    riskBudgetUsdt := if reasons = [] then risk else 0
    recommendedNotionalUsdt := notional
    marginUsdt := notional / policy.configuredLeverage
    leverage := policy.configuredLeverage
    feeEstimateUsdt := notional * policy.roundTripFeeBps / 10000
    slippageEstimateUsdt := notional * policy.slippageBps / 10000
    fundingEstimateUsdt := notional * fundingCost policy case.fundingRate
    maxLossUsdt := notional * lossRate
    createdAtMs := nowMs
    expiresAtMs := min case.expiresAtMs (nowMs + policy.proposalTtlMs)
    allowedPriceDriftBps := policy.allowedPriceDriftBps
    requiresManualReview := requiresManualReview || analysis.requiresManualReview ||
      analysis.action = .add || reasons ≠ []
    blockedReasons := reasons }

def namedHashes (digests : Digests Hash) (analysis : AnalysisResult Hash) :
    Option (List Hash) → List Hash
  | some (first :: rest) => first :: rest
  | _ => [digests.resultHash analysis]

/-- `RiskCompilerV1.compile`. -/
def compile [DecidableEq Hash] (digests : Digests Hash) (policy : RiskPolicy)
    (case : CasePackage Hash) (analysis : AnalysisResult Hash) (nowMs : Int)
    (analysisResultHashes : Option (List Hash)) (requiresManualReview : Bool) :
    Except Fault (TradeProposal Hash) := do
  refuse (analysis.Mismatch case) (.valueError "analysis case identity mismatch")
  refuse (case.Stale policy nowMs) (.valueError "STALE_CASE")
  let lossRate ← worstCaseLossRate case.entryEdge case.stopLoss policy case.fundingRate
  let allowance ← riskAllowance policy case
  let risk := advisedRisk policy analysis allowance
  let affordable ← divide .zeroDivision risk lossRate
  let hashes := namedHashes digests analysis analysisResultHashes
  refuse (digests.resultHash analysis ∉ hashes) (.valueError "selected analysis hash missing")
  TradeProposal.build digests (proposalContent digests policy case analysis nowMs hashes
    requiresManualReview lossRate risk affordable)

end QuantAgent.Decision
