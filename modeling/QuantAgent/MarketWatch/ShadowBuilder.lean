/-
This file embeds the sealed evaluation of a shadow record: the builder, and the two validators that
a sealed evaluation has to pass.

Texts are compared as they are; the source strips and upper-cases both sides of a comparison. The
attribution projection of the evidence is not embedded, and numbers are exact.
-/

import QuantAgent.Library.Checks
import QuantAgent.MarketWatch.ShadowEvaluations

namespace QuantAgent.MarketWatch.Shadow

/-! ### Evaluations -/

inductive TerminalStatus where
  | filled
  | noFill
  | pendingDataGap
  | ineligibleDataGap
  deriving DecidableEq

structure OutcomeCoverage where
  coverageStatus : CoverageMark
  entryCoverageComplete : Bool
  outcomeCoverageComplete : Bool
  startCoverageMs : ℤ
  endCoverageMs : ℤ

/-- The fields of an evaluation that depend on whether the trade was filled. -/
structure EvaluationOutcome where
  fillStatus : FillStatus
  evaluationStartMs : Option ℤ
  evaluationEndMs : Option ℤ
  terminalStatus : TerminalStatus
  terminalReason : Option RowReason
  exitTimeMs : Option ℤ
  exitPrice : Option ℚ
  tp1Hit : Bool
  tp2ExcursionHit : Bool
  slHit : Bool
  timeFromFillToTerminalMs : Option ℤ
  mfeR : Option ℚ
  maeR : Option ℚ
  priceGrossR : Option ℚ
  executionCostR : Option ℚ
  netRExFunding : Option ℚ
  fundingAccounting : FundingAccounting
  netRAfterFunding : Option ℚ
  coverage : OutcomeCoverage
  outcomeCheckpoints : List OutcomeCheckpoint
  exitIntervalStartMs : Option ℤ
  exitIntervalEndMs : Option ℤ
  exitTimeResolution : Option ExitTimeResolution

/-- `TacticalShadowEvaluationV2` without its identity. A direction that is not known is none. -/
structure ShadowEvaluation extends EvaluationOutcome where
  evaluationSchemaVersion : String
  featureEvidenceId : String
  shadowRecordId : ℤ
  symbol : String
  signalIdentity : SignalIdentity
  setupKey : SetupKey
  playbook : Playbook
  direction : Option DirectionalDecision
  signalTimeMs : ℤ
  entryWindowStartMs : ℤ
  entryWindowEndMs : ℤ
  fillTimeMs : Option ℤ
  fillPrice : Option ℚ
  fillIntervalStartMs : Option ℤ
  fillIntervalEndMs : Option ℤ
  fillTimeResolution : Option FillTimeResolution
  evaluationProfileVersion : String
  evaluationHorizonBars : ℤ
  evaluationHorizonMs : ℤ
  timeToFillMs : Option ℤ
  pathResolution : ShadowPathResolution
  featureEvidenceHash : String
  policyVersion : String
  configHash : String
  forwardEvidenceVersion : String

/-- An evaluation under its content-addressed identity. -/
structure SealedEvaluation where
  evaluationId : String
  content : ShadowEvaluation

inductive SealFault where
  | validation (message : String)
  | identity (message : String)
  | profileConflict (message : String)
  | attributionConflict (message : String)

def tacticalShadowEvaluationSchemaVersion : String := "TACTICAL_SHADOW_EVALUATION_V2"

/-! ### The cross-check -/

/-- `math.isclose`. -/
def IsClose (relTol absTol first second : ℚ) : Prop :=
  |first - second| ≤ max (relTol * max |first| |second|) absTol

instance (relTol absTol first second : ℚ) : Decidable (IsClose relTol absTol first second) :=
  inferInstanceAs (Decidable (_ ≤ _))

theorem IsClose.refl {relTol absTol : ℚ} (nonneg : 0 ≤ absTol) (value : ℚ) :
    IsClose relTol absTol value value := by
  unfold IsClose
  rw [sub_self, abs_zero]
  exact le_max_of_le_right nonneg

/-- The tolerance of the comparison with the risk plan. -/
def SamePrice (recorded planned : ℚ) : Prop := IsClose (1 / 10 ^ 12) (1 / 10 ^ 12) recorded planned

instance (recorded planned : ℚ) : Decidable (SamePrice recorded planned) :=
  inferInstanceAs (Decidable (IsClose _ _ _ _))

theorem SamePrice.refl (price : ℚ) : SamePrice price price := IsClose.refl (by norm_num) price

open Check in
def riskPlanChecks (row : ShadowRecord) : Option RiskPlanEvidence → List (Check SealFault)
  | none =>
    [require False (.attributionConflict "FeatureEvidenceV2 is missing directional_risk_plan")]
  | some plan =>
    [require (row.direction = plan.decision)
        (.attributionConflict "Direction conflict with risk plan"),
      require (SamePrice row.entryZoneLow plan.entryLow)
        (.attributionConflict "Entry zone low conflict"),
      require (SamePrice row.entryZoneHigh plan.entryHigh)
        (.attributionConflict "Entry zone high conflict"),
      require (SamePrice row.stopLoss plan.stopLoss)
        (.attributionConflict "Stop loss conflict"),
      require (SamePrice row.tp1 plan.takeProfit1) (.attributionConflict "TP1 conflict"),
      require (SamePrice row.tp2 plan.takeProfit2) (.attributionConflict "TP2 conflict")]

open Check in
def attributionChecks (evidence : FeatureEvidence) (row : ShadowRecord) :
    List (Check SealFault) :=
  [require (row.symbol = evidence.symbol) (.attributionConflict "Symbol conflict"),
    require (barOr row.signalTimeMs row.timestampMs = evidence.decisionTimeMs)
      (.attributionConflict "Signal time conflict"),
    require (row.featureEvidenceId.getD "" = evidence.evidenceId)
      (.attributionConflict "Feature evidence ID conflict"),
    require (some row.agentSetup = evidence.selectedPlaybook)
      (.attributionConflict "Playbook conflict"),
    require (some row.direction = evidence.finalDirectionalDecision)
      (.attributionConflict "Direction conflict"),
    require (some row.signalIdentity = evidence.signalIdentity)
      (.attributionConflict "Signal identity conflict"),
    require (some row.setupKey = evidence.setupKey) (.attributionConflict "Setup key conflict"),
    require (row.snapshotHash = evidence.snapshotHash)
      (.attributionConflict "Snapshot hash conflict"),
    require (row.policyVersion = evidence.policyVersion)
      (.attributionConflict "Policy version conflict"),
    require (row.configHash = evidence.configHash) (.attributionConflict "Config hash conflict")]

def validateAttributionCrosscheck (evidence : FeatureEvidence) (row : ShadowRecord) :
    Except SealFault Unit :=
  Check.run (attributionChecks evidence row ++ riskPlanChecks row evidence.directionalRiskPlan)

/-! ### The validator -/

/-- A comparison of two fields that are both present. -/
def Present (relation : ℤ → ℤ → Prop) (first second : Option ℤ) : Prop :=
  ∃ left ∈ first, ∃ right ∈ second, relation left right

instance (relation : ℤ → ℤ → Prop) [∀ left right, Decidable (relation left right)]
    (first second : Option ℤ) : Decidable (Present relation first second) :=
  inferInstanceAs (Decidable (∃ _ ∈ _, ∃ _ ∈ _, _))

section

open Check

variable (evaluation : ShadowEvaluation)

def versionChecks : List (Check SealFault) :=
  let profile := getPlaybookEvaluationProfile evaluation.playbook
  [require (evaluation.evaluationSchemaVersion = tacticalShadowEvaluationSchemaVersion)
      (.validation "Invalid evaluation schema version"),
    require (evaluation.featureEvidenceId ≠ "") (.validation "feature_evidence_id is mandatory"),
    require (evaluation.symbol ≠ "") (.validation "symbol is mandatory"),
    require (evaluation.direction = some .long ∨ evaluation.direction = some .short)
      (.validation "Invalid direction"),
    require (evaluation.forwardEvidenceVersion = marketWatchEvidenceVersion)
      (.validation "Invalid forward evidence version"),
    require (evaluation.fundingAccounting.accountingVersion = fundingAccountingVersion)
      (.validation "Invalid funding accounting version"),
    require (evaluation.evaluationProfileVersion = directionalOutcomeProfileVersion)
      (.validation "Invalid evaluation profile version"),
    require (0 < evaluation.evaluationHorizonBars)
      (.validation "evaluation_horizon_bars must be positive"),
    require (evaluation.evaluationHorizonMs = evaluation.evaluationHorizonBars * 900000)
      (.validation "Horizon invariant violated"),
    require (evaluation.evaluationHorizonBars = profile.horizonBars)
      (.validation "evaluation_horizon_bars does not match playbook profile"),
    require (evaluation.evaluationHorizonMs = profile.horizonMs)
      (.validation "evaluation_horizon_ms does not match playbook profile"),
    require (evaluation.signalTimeMs ≤ evaluation.entryWindowStartMs ∧
        evaluation.entryWindowStartMs ≤ evaluation.entryWindowEndMs)
      (.validation "Invalid entry window temporal ordering")]

def noFillChecks : List (Check SealFault) :=
  [require (evaluation.fillStatus = .noFill)
      (.validation "NO_FILL terminal_status requires fill_status='NO_FILL'"),
    require (evaluation.terminalReason = some .noFill)
      (.validation "NO_FILL terminal_status requires terminal_reason='NO_FILL'"),
    require (evaluation.fillTimeMs = none ∧ evaluation.fillPrice = none)
      (.validation "NO_FILL evaluation must have fill_time_ms and fill_price set to None"),
    require (evaluation.priceGrossR = none ∧ evaluation.executionCostR = none ∧
        evaluation.netRExFunding = none ∧ evaluation.netRAfterFunding = none)
      (.validation "NO_FILL evaluation must have all R metrics set to None"),
    require (evaluation.fundingAccounting.fundingStatus = .notApplicable)
      (.validation "NO_FILL evaluation requires funding_status='NOT_APPLICABLE'"),
    require (evaluation.fillIntervalStartMs = none ∧ evaluation.fillIntervalEndMs = none)
      (.validation "NO_FILL evaluation must not have fill_interval bounds"),
    require (evaluation.exitIntervalStartMs = none ∧ evaluation.exitIntervalEndMs = none ∧
        evaluation.exitTimeResolution = none)
      (.validation ("NO_FILL evaluation must have exit_interval_start_ms, exit_interval_end_ms, " ++
        "and exit_time_resolution set to None"))]

def filledChecks : List (Check SealFault) :=
  [require (evaluation.fillStatus = .filled)
      (.validation "FILLED terminal_status requires fill_status='FILLED'"),
    require (∃ price ∈ evaluation.fillPrice, 0 < price)
      (.validation "FILLED evaluation requires positive fill_price"),
    require (evaluation.fillTimeMs ≠ none) (.validation "FILLED evaluation requires fill_time_ms"),
    require (evaluation.fillIntervalStartMs ≠ none ∧ evaluation.fillIntervalEndMs ≠ none)
      (.validation "FILLED evaluation requires fill_interval bounds"),
    require (Present (· ≤ ·) evaluation.fillIntervalStartMs evaluation.fillTimeMs ∧
        Present (· ≤ ·) evaluation.fillTimeMs evaluation.fillIntervalEndMs)
      (.validation "fill_time_ms outside fill interval"),
    require (Present (· ≤ ·) (some evaluation.signalTimeMs) evaluation.fillIntervalStartMs)
      (.validation "Fill interval starts before signal_time"),
    require (evaluation.exitIntervalStartMs ≠ none ∧ evaluation.exitIntervalEndMs ≠ none)
      (.validation "FILLED evaluation requires exit_interval bounds"),
    require (evaluation.exitTimeResolution ≠ none)
      (.validation "FILLED evaluation requires exit_time_resolution"),
    require (Present (· ≤ ·) evaluation.exitIntervalStartMs evaluation.exitIntervalEndMs)
      (.validation "exit_interval_start_ms > exit_interval_end_ms"),
    require (Present (· ≤ ·) (some evaluation.signalTimeMs) evaluation.fillIntervalStartMs ∧
        Present (· ≤ ·) evaluation.fillIntervalStartMs evaluation.fillIntervalEndMs ∧
        Present (· ≤ ·) evaluation.fillIntervalEndMs evaluation.exitIntervalEndMs)
      (.validation "Temporal consistency violated"),
    require (evaluation.terminalReason ∈
        [some (.exit .tp1), some (.exit .stop), some (.exit .timeout)])
      (.validation "FILLED evaluation terminal_reason must be TP1, STOP, or TIMEOUT"),
    require (evaluation.exitTimeMs ≠ none) (.validation "FILLED evaluation requires exit_time_ms"),
    require (Present (· ≤ ·) evaluation.exitIntervalStartMs evaluation.exitTimeMs ∧
        Present (· ≤ ·) evaluation.exitTimeMs evaluation.exitIntervalEndMs)
      (.validation "exit_time_ms outside exit interval"),
    require (∃ price ∈ evaluation.exitPrice, 0 < price)
      (.validation "FILLED evaluation requires positive exit_price"),
    require (Present (· ≤ ·) evaluation.fillIntervalEndMs evaluation.exitTimeMs)
      (.validation "Exit time is before fill_interval_end_ms"),
    require (evaluation.evaluationStartMs ≠ none ∧
        evaluation.evaluationStartMs = evaluation.fillTimeMs)
      (.validation "evaluation_start_ms must equal fill_time_ms"),
    require (evaluation.evaluationEndMs ≠ none)
      (.validation "evaluation_end_ms is required for FILLED evaluation"),
    require (evaluation.evaluationEndMs =
        evaluation.evaluationStartMs.map fun start => start + evaluation.evaluationHorizonMs)
      (.validation "evaluation_end_ms != evaluation_start_ms + horizon_ms")]

def barrierChecks (name flags : String) (hit missed : Bool) : List (Check SealFault) :=
  [require (hit = true ∧ missed = false)
      (.validation (name ++ " terminal requires " ++ flags)),
    require (Present (fun exitTime planned => exitTime ≤ planned + 900000) evaluation.exitTimeMs
        evaluation.evaluationEndMs)
      (.validation (name ++ " exit cannot occur after planned evaluation end")),
    require (evaluation.exitTimeResolution = some .oneMinuteTerminalInterval ∨
        evaluation.exitTimeResolution = some .fifteenMinuteFallbackInterval)
      (.validation (name ++ " terminal requires 1m or 15m fallback resolution")),
    require (evaluation.exitTimeMs = evaluation.exitIntervalEndMs)
      (.validation (name ++ " exit_time_ms must equal exit_interval_end_ms"))]

def reasonChecks : List (Check SealFault) :=
  match evaluation.terminalReason with
  | some (.exit .timeout) =>
    [require (Present (fun exitTime planned => |exitTime - planned| ≤ 900000)
          evaluation.exitTimeMs evaluation.evaluationEndMs)
        (.validation "TIMEOUT exit_time_ms diverges from evaluation_end_ms"),
      require (evaluation.tp1Hit = false ∧ evaluation.slHit = false)
        (.validation "TIMEOUT terminal cannot have tp1_hit or sl_hit"),
      require (evaluation.exitTimeResolution = some .horizonTimeoutBoundary)
        (.validation "TIMEOUT terminal requires HORIZON_TIMEOUT_BOUNDARY resolution"),
      require (evaluation.exitIntervalStartMs = evaluation.evaluationEndMs ∧
          evaluation.exitIntervalEndMs = evaluation.evaluationEndMs)
        (.validation
          "TIMEOUT requires exit_interval_start_ms == exit_interval_end_ms == evaluation_end_ms")]
  | some (.exit .tp1) =>
    barrierChecks evaluation "TP1" "tp1_hit=True and sl_hit=False" evaluation.tp1Hit
      evaluation.slHit
  | some (.exit .stop) =>
    barrierChecks evaluation "STOP" "sl_hit=True and tp1_hit=False" evaluation.slHit
      evaluation.tp1Hit
  | _ => []

/-- `math.isclose` with the tolerances of the net R. -/
def SameR (stored expected : ℚ) : Prop := IsClose (1 / 10 ^ 5) (1 / 10 ^ 5) stored expected

instance (stored expected : ℚ) : Decidable (SameR stored expected) :=
  inferInstanceAs (Decidable (IsClose _ _ _ _))

theorem SameR.refl (value : ℚ) : SameR value value := IsClose.refl (by norm_num) value

def netRChecks : List (Check SealFault) :=
  let accounting := evaluation.fundingAccounting
  let expected := evaluation.priceGrossR.getD 0 - evaluation.executionCostR.getD 0
  [require (evaluation.priceGrossR ≠ none ∧ evaluation.executionCostR ≠ none ∧
        evaluation.netRExFunding ≠ none)
      (.validation "Missing R-multiple calculations on FILLED evaluation"),
    require (∃ net ∈ evaluation.netRExFunding, SameR net expected)
      (.validation "Net R ex-funding mismatch")] ++
  if accounting.fundingStatus = .complete then
    [require (accounting.fundingPnlR ≠ none)
        (.validation "COMPLETE funding requires funding_pnl_r"),
      require (evaluation.netRAfterFunding ≠ none)
        (.validation "COMPLETE funding requires net_r_after_funding"),
      require (∃ net ∈ evaluation.netRAfterFunding,
          SameR net (expected + accounting.fundingPnlR.getD 0))
        (.validation "Net R after funding mismatch")]
  else
    [require (evaluation.netRAfterFunding = none)
      (.validation "net_r_after_funding must be None when funding is not COMPLETE")]

def terminalChecks : List (Check SealFault) :=
  match evaluation.terminalStatus with
  | .noFill => noFillChecks evaluation
  | .filled => filledChecks evaluation ++ reasonChecks evaluation ++ netRChecks evaluation
  | _ => [require False (.validation "Invalid terminal_status")]

def checkpointChecks : List (Check SealFault) :=
  [require (evaluation.outcomeCheckpoints.length = 4)
      (.validation "outcome_checkpoints must contain exactly 4 checkpoints"),
    require (evaluation.outcomeCheckpoints.map OutcomeCheckpoint.checkpointHorizonHours =
        [4, 8, 12, 24])
      (.validation "Checkpoint has invalid horizon hours")]

end

def validateTacticalShadowEvaluation (computeEvaluationId : ShadowEvaluation → String)
    (evaluation : SealedEvaluation) : Except SealFault Unit :=
  let content := evaluation.content
  Check.run (versionChecks content ++ terminalChecks content ++ checkpointChecks content ++
    [.require (evaluation.evaluationId = computeEvaluationId content)
      (.identity "evaluation_id mismatch")])

/-! ### The builder -/

/-- `text or other`. -/
def textOr (text other : String) : String := if text = "" then other else text

section

variable (row : ShadowRecord) (evidence : FeatureEvidence)

/-- The signal time, the start and the end of the entry window that the builder reads. -/
def ShadowRecord.signalT : ℤ := barOr row.signalTimeMs row.timestampMs

def ShadowRecord.entryWindowStart : ℤ := barOr row.entryWindowStartMs row.signalT

def ShadowRecord.entryWindowEnd : ℤ :=
  barOr row.entryWindowEndMs (row.signalT + barOr row.entryWindowBars 4 * quarterMs)

def noFillOutcome (candles15m : List Candle) : EvaluationOutcome where
  fillStatus := .noFill
  evaluationStartMs := none
  evaluationEndMs := some row.entryWindowEnd
  terminalStatus := .noFill
  terminalReason := some .noFill
  exitTimeMs := some row.entryWindowEnd
  exitPrice := none
  tp1Hit := false
  tp2ExcursionHit := false
  slHit := false
  timeFromFillToTerminalMs := none
  mfeR := none
  maeR := none
  priceGrossR := none
  executionCostR := none
  netRExFunding := none
  fundingAccounting := { fundingStatus := .notApplicable, notes := "Position not filled" }
  netRAfterFunding := none
  coverage := ⟨row.coverageStatus.getD .complete, true, false, row.entryWindowStart,
    row.entryWindowEnd⟩
  outcomeCheckpoints := computeDiagnosticCheckpoints evidence.finalDirectionalDecision none 0 none
    none (some .noFill) candles15m
  exitIntervalStartMs := none
  exitIntervalEndMs := none
  exitTimeResolution := none

def ShadowRecord.exitTimes (exitTime evaluationEnd : ℤ) :
    ℤ × ℤ × ℤ × ExitTimeResolution :=
  match row.exitIntervalStartMs, row.exitIntervalEndMs, row.exitTimeResolution with
  | some start, some stop, some resolution => (exitTime, start, stop, resolution)
  | start, stop, resolution =>
    if row.terminalReason = some (.exit .timeout) then
      (evaluationEnd, evaluationEnd, evaluationEnd, .horizonTimeoutBoundary)
    else if row.pathResolution = some .oneMinuteChronological ∨
        row.pathResolution = some .oneMinuteFillBarStopFirst then
      (exitTime, start.getD (exitTime - 60000), stop.getD exitTime,
        resolution.getD .oneMinuteTerminalInterval)
    else
      (exitTime, start.getD (exitTime - quarterMs), stop.getD exitTime,
        resolution.getD .fifteenMinuteFallbackInterval)

def ShadowRecord.priceGrossR (direction : Option DirectionalDecision) : Option ℚ :=
  match row.exitPrice, row.fillPrice with
  | some exitPrice, some fillPrice =>
    let distance := if 0 < row.stopLoss then |fillPrice - row.stopLoss| else 1
    let risk := if distance ≤ 0 then 1 else distance
    some ((if direction = some .long then exitPrice - fillPrice else fillPrice - exitPrice) / risk)
  | _, _ => row.grossR

def filledOutcome (horizonMs : ℤ) (candles15m : List Candle)
    (fundingRecords : Option (List FundingRow)) (fundingFetchError : Bool) : EvaluationOutcome :=
  let direction := evidence.finalDirectionalDecision
  let evaluationStart := barOr (row.evaluationStartMs.getD 0) (barOr (row.fillTimeMs.getD 0)
    row.signalT)
  let evaluationEnd := barOr (row.evaluationEndMs.getD 0) (evaluationStart + horizonMs)
  let (exitTime, exitStart, exitStop, resolution) :=
    row.exitTimes (row.exitTimeMs.getD evaluationEnd) evaluationEnd
  let grossR := row.priceGrossR direction
  let costR := row.frictionR.getD 0
  let netR := grossR.map fun gross => gross - costR
  let accounting := evaluateFundingAccounting direction row.fillPrice row.stopLoss row.fillTimeMs
    (some exitTime) fundingRecords fundingFetchError row.fillIntervalStartMs row.fillIntervalEndMs
    (some exitStart) (some exitStop)
  let coverage := row.coverageStatus.getD .complete
  { fillStatus := row.fillStatus
    evaluationStartMs := some evaluationStart
    evaluationEndMs := some evaluationEnd
    terminalStatus := .filled
    terminalReason := row.terminalReason
    exitTimeMs := some exitTime
    exitPrice := row.exitPrice
    tp1Hit := row.tp1Hit
    tp2ExcursionHit := row.tp2Hit
    slHit := row.slHit
    timeFromFillToTerminalMs := row.fillTimeMs.bind fun fillTime =>
      if fillTime ≤ row.exitTimeMs.getD evaluationEnd then
        some (row.exitTimeMs.getD evaluationEnd - fillTime)
      else none
    mfeR := row.futureMfe
    maeR := row.futureMae
    priceGrossR := grossR
    executionCostR := some costR
    netRExFunding := netR
    fundingAccounting := accounting
    netRAfterFunding :=
      if accounting.fundingStatus = .complete then
        accounting.fundingPnlR.bind fun funding => netR.map fun net => net + funding
      else none
    coverage := ⟨coverage, true, coverage = .complete, row.entryWindowStart,
      barOr exitTime evaluationEnd⟩
    outcomeCheckpoints := computeDiagnosticCheckpoints direction row.fillPrice row.stopLoss
      row.fillTimeMs (some exitTime) row.terminalReason candles15m
    exitIntervalStartMs := some exitStart
    exitIntervalEndMs := some exitStop
    exitTimeResolution := some resolution }

def ShadowRecord.IsNoFill : Prop := row.fillStatus = .noFill ∨ row.terminalReason = some .noFill

instance : Decidable row.IsNoFill := inferInstanceAs (Decidable (_ ∨ _))

def evaluationContent (profileVersion : String) (horizonBars horizonMs : ℤ)
    (outcome : EvaluationOutcome) : ShadowEvaluation :=
  { outcome with
    evaluationSchemaVersion := tacticalShadowEvaluationSchemaVersion
    featureEvidenceId := evidence.evidenceId
    shadowRecordId := row.id
    symbol := row.symbol
    signalIdentity := row.signalIdentity
    setupKey := row.setupKey
    playbook := evidence.selectedPlaybook.getD .noTrade
    direction := evidence.finalDirectionalDecision
    signalTimeMs := row.signalT
    entryWindowStartMs := row.entryWindowStart
    entryWindowEndMs := row.entryWindowEnd
    fillTimeMs := row.fillTimeMs
    fillPrice := row.fillPrice
    fillIntervalStartMs := row.fillIntervalStartMs
    fillIntervalEndMs := row.fillIntervalEndMs
    fillTimeResolution := row.fillTimeResolution
    evaluationProfileVersion := profileVersion
    evaluationHorizonBars := horizonBars
    evaluationHorizonMs := horizonMs
    timeToFillMs := row.fillTimeMs.bind fun fillTime =>
      if row.signalT ≤ fillTime then some (fillTime - row.signalT) else none
    pathResolution := row.pathResolution.getD .fifteenMinuteStopFirst
    featureEvidenceHash := evidence.evidenceId
    policyVersion := textOr row.policyVersion evidence.policyVersion
    configHash := textOr row.configHash evidence.configHash
    forwardEvidenceVersion := marketWatchEvidenceVersion }

def buildTacticalShadowEvaluation (computeEvaluationId : ShadowEvaluation → String)
    (candles15m : List Candle) (fundingRecords : Option (List FundingRow))
    (fundingFetchError : Bool) : Except SealFault SealedEvaluation := do
  let profileVersion := row.evaluationProfileVersion.getD ""
  Check.run [.require (profileVersion = directionalOutcomeProfileVersion)
    (.validation "Record is ineligible for B2A materialization")]
  validateAttributionCrosscheck evidence row
  let profile := getPlaybookEvaluationProfile (evidence.selectedPlaybook.getD .noTrade)
  let horizonBars := row.evaluationHorizonBars.getD profile.horizonBars
  let horizonMs := row.evaluationHorizonMs.getD profile.horizonMs
  Check.run [
    .require (horizonBars = profile.horizonBars ∧ horizonMs = profile.horizonMs)
      (.profileConflict "Horizon conflict"),
    .require (horizonMs = horizonBars * 900000)
      (.profileConflict "Horizon invariant violated")]
  let outcome := if row.IsNoFill then noFillOutcome row evidence candles15m
    else filledOutcome row evidence horizonMs candles15m fundingRecords fundingFetchError
  let content := evaluationContent row evidence profileVersion horizonBars horizonMs outcome
  let evaluation : SealedEvaluation := ⟨computeEvaluationId content, content⟩
  validateTacticalShadowEvaluation computeEvaluationId evaluation
  return evaluation

end

end QuantAgent.MarketWatch.Shadow
