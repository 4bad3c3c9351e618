/-
This file embeds the records of the directional shadow trades: what the scanner records of an
actionable assessment, the feature evidence that the record links, and the two updates of a record.

The recorder puts the bounds of the entry zone in order and replaces a bound that is not positive
by the last price. The risk plan of the evidence keeps the bounds as they are.
-/

import QuantAgent.MarketWatch.ForwardOutcomes

namespace QuantAgent.MarketWatch.Shadow

/-! ### Profiles -/

structure EvaluationProfile where
  horizonHours : ℤ
  horizonBars : ℤ
  horizonMs : ℤ

def getPlaybookEvaluationProfile : Playbook → EvaluationProfile
  | .failedBreakout | .failedBreakdown | .volatilityExpansion => ⟨8, 32, 8 * 3600 * 1000⟩
  | _ => ⟨12, 48, 12 * 3600 * 1000⟩

theorem profile_horizonMs (playbook : Playbook) :
    (getPlaybookEvaluationProfile playbook).horizonMs =
      (getPlaybookEvaluationProfile playbook).horizonBars * 900000 := by
  cases playbook <;> rfl

theorem profile_horizonBars_pos (playbook : Playbook) :
    0 < (getPlaybookEvaluationProfile playbook).horizonBars := by
  cases playbook <;> decide

def directionalOutcomeProfileVersion : String := "DIRECTIONAL_OUTCOME_PROFILE_V1"

def marketWatchEvidenceVersion : String := "FORWARD_EVIDENCE_V1"

/-! ### Assessments and their evidence -/

/-- What the recorder and the evidence read of an assessment. The setup of the plan is the playbook
of the selected candidate, and without one the decision is to wait. -/
structure Assessment where
  symbol : String
  decisionTimeMs : ℤ
  snapshotHash : String
  policyVersion : String
  configHash : String
  lastPrice : ℚ
  plan : DirectionalPlan
  takeProfit2 : ℚ
  lifecycleState : LifecycleState
  signalIdentity : SignalIdentity
  setupKey : SetupKey
  selectedPlaybook : Option Playbook
  featureEvidenceId : String
  entryWindowBars : ℤ
  symbol_given : symbol ≠ "" := by decide
  evidence_given : featureEvidenceId ≠ "" := by decide
  decisionTime_positive : 0 < decisionTimeMs := by decide
  windowBars_positive : 0 < entryWindowBars := by decide
  setup_selected : plan.setup = selectedPlaybook.getD .noTrade := by rfl
  selected_real : selectedPlaybook ≠ some .noTrade := by decide
  decision_selected : plan.decision ≠ .wait → selectedPlaybook ≠ none := by decide

/-- The fields of `DirectionalPlanEvidence` that the cross-check reads. -/
structure RiskPlanEvidence where
  decision : DirectionalDecision
  entryLow : ℚ
  entryHigh : ℚ
  stopLoss : ℚ
  takeProfit1 : ℚ
  takeProfit2 : ℚ

/-- The fields of `TacticalFeatureEvidenceV2` that the builder and the cross-check read. Evidence
in the store has passed the checks with which the builder begins. -/
structure FeatureEvidence where
  evidenceId : String
  symbol : String
  decisionTimeMs : ℤ
  snapshotHash : String
  policyVersion : String
  configHash : String
  selectedPlaybook : Option Playbook
  finalDirectionalDecision : Option DirectionalDecision
  signalIdentity : Option SignalIdentity
  setupKey : Option SetupKey
  directionalRiskPlan : Option RiskPlanEvidence

/-- `build_tactical_feature_evidence`; the trace of the decision ends with that of the plan. -/
def Assessment.featureEvidence (assessment : Assessment) : FeatureEvidence where
  evidenceId := assessment.featureEvidenceId
  symbol := assessment.symbol
  decisionTimeMs := assessment.decisionTimeMs
  snapshotHash := assessment.snapshotHash
  policyVersion := assessment.policyVersion
  configHash := assessment.configHash
  selectedPlaybook :=
    if assessment.selectedPlaybook = some .noTrade then none else assessment.selectedPlaybook
  finalDirectionalDecision := some assessment.plan.decision
  signalIdentity := some assessment.signalIdentity
  setupKey := some assessment.setupKey
  directionalRiskPlan := some {
    decision := assessment.plan.decision
    entryLow := assessment.plan.entryLow
    entryHigh := assessment.plan.entryHigh
    stopLoss := assessment.plan.stopLoss
    takeProfit1 := assessment.plan.takeProfit1
    takeProfit2 := assessment.takeProfit2 }

/-! ### Rows -/

inductive FillStatus where
  | waitingForFill
  | filled
  | noFill
  | legacy
  | ineligible
  deriving DecidableEq

inductive FillTimeResolution where
  | oneMinuteTouchInterval
  | fifteenMinuteFallbackInterval
  deriving DecidableEq

inductive RowReason where
  | exit (reason : ShadowTerminalReason)
  | noFill
  | ineligible
  | legacyIneligible
  deriving DecidableEq

inductive RegimeAfter where
  | resolvedTerminal
  | resolvedMatured
  | noFill
  | pendingDataGap
  | ineligible
  | legacyIneligible
  deriving DecidableEq

inductive CoverageMark where
  | complete
  | incomplete
  deriving DecidableEq

inductive CoverageReason where
  | partialSignalBarDataGap
  | entryWindowDataGap
  | outcomeWindowDataGap
  deriving DecidableEq

/-- The columns of a row that are written once. -/
structure ShadowObservation where
  id : ℤ
  timestampMs : ℤ
  symbol : String
  snapshotHash : String
  policyVersion : String
  configHash : String
  agentSetup : Playbook
  direction : DirectionalDecision
  observationType : ObservationType
  signalIdentity : SignalIdentity
  setupKey : SetupKey
  evidenceVersion : String
  stopLoss : ℚ
  tp1 : ℚ
  tp2 : ℚ
  signalTimeMs : ℤ
  entryZoneLow : ℚ
  entryZoneHigh : ℚ
  entryWindowBars : ℤ
  entryWindowStartMs : ℤ
  entryWindowEndMs : ℤ
  evaluationProfileVersion : Option String
  evaluationHorizonBars : Option ℤ
  evaluationHorizonMs : Option ℤ
  featureEvidenceId : Option String

/-- A row of `market_watch_shadow_records`. -/
structure ShadowRecord extends ShadowObservation where
  entryPrice : ℚ
  evaluationEndMs : Option ℤ
  resolved : Bool := false
  fillStatus : FillStatus := .waitingForFill
  fillTimeMs : Option ℤ := none
  fillPrice : Option ℚ := none
  evaluationStartMs : Option ℤ := none
  pathResolution : Option ShadowPathResolution := none
  fillIntervalStartMs : Option ℤ := none
  fillIntervalEndMs : Option ℤ := none
  fillTimeResolution : Option FillTimeResolution := none
  futureMfe : Option ℚ := none
  futureMae : Option ℚ := none
  tp1Hit : Bool := false
  tp2Hit : Bool := false
  slHit : Bool := false
  timeToTargetMs : Option ℤ := none
  timeToStopMs : Option ℤ := none
  netR : Option ℚ := none
  grossR : Option ℚ := none
  frictionR : Option ℚ := none
  regimeAfter : Option RegimeAfter := none
  terminalReason : Option RowReason := none
  exitTimeMs : Option ℤ := none
  exitPrice : Option ℚ := none
  coverageStatus : Option CoverageMark := none
  coverageReason : Option CoverageReason := none
  exitIntervalStartMs : Option ℤ := none
  exitIntervalEndMs : Option ℤ := none
  exitTimeResolution : Option ExitTimeResolution := none

/-! ### Recording -/

def Assessment.entryZone (assessment : Assessment) : ℚ × ℚ :=
  let plan := assessment.plan
  let low := if 0 < plan.entryLow then plan.entryLow else assessment.lastPrice
  let high := if 0 < plan.entryHigh then plan.entryHigh else assessment.lastPrice
  if high < low then (high, low) else (low, high)

/-- `entry_p` of the recorder. -/
def Assessment.entryPrice (assessment : Assessment) : ℚ :=
  match assessment.plan.decision with
  | .long => assessment.entryZone.2
  | .short => assessment.entryZone.1
  | .wait => assessment.lastPrice

def storedBound (bound entryPrice : ℚ) : ℚ :=
  if bound ≤ 0 ∧ 0 < entryPrice then entryPrice else bound

/-- The row of an assessment, of either half of `_record_shadow_observations_if_needed`. -/
def recordedRow (assessment : Assessment) (id : ℤ) (observationType : ObservationType)
    (profileVersion : Option String) (horizonBars : ℤ) (profileHorizonMs : Option ℤ) :
    ShadowRecord where
  id := id
  timestampMs := assessment.decisionTimeMs
  symbol := assessment.symbol
  snapshotHash := assessment.snapshotHash
  policyVersion := assessment.policyVersion
  configHash := assessment.configHash
  agentSetup := assessment.plan.setup
  direction := assessment.plan.decision
  observationType := observationType
  signalIdentity := assessment.signalIdentity
  setupKey := assessment.setupKey
  evidenceVersion := marketWatchEvidenceVersion
  stopLoss := assessment.plan.stopLoss
  tp1 := assessment.plan.takeProfit1
  tp2 := assessment.takeProfit2
  signalTimeMs := assessment.decisionTimeMs
  entryZoneLow := storedBound assessment.entryZone.1 assessment.entryPrice
  entryZoneHigh := storedBound assessment.entryZone.2 assessment.entryPrice
  entryWindowBars := assessment.entryWindowBars
  entryWindowStartMs := assessment.decisionTimeMs
  entryWindowEndMs := assessment.decisionTimeMs + assessment.entryWindowBars * quarterMs
  evaluationProfileVersion := profileVersion
  evaluationHorizonBars := some horizonBars
  evaluationHorizonMs := profileHorizonMs
  featureEvidenceId := some assessment.featureEvidenceId
  entryPrice := assessment.entryPrice
  evaluationEndMs :=
    some (assessment.decisionTimeMs + profileHorizonMs.getD (horizonBars * 15 * 60 * 1000))

/-- The actionable half of `_record_shadow_observations_if_needed` for a new identity, with
`record_shadow_observation`, which refuses a horizon that is not that of the setup. -/
def recordTriggered (assessment : Assessment) (id : ℤ) : Option ShadowRecord :=
  let plan := assessment.plan
  let profile := getPlaybookEvaluationProfile (assessment.selectedPlaybook.getD plan.setup)
  let expected := getPlaybookEvaluationProfile plan.setup
  if assessment.lifecycleState = .triggered ∧ plan.decision ≠ .wait ∧
      profile.horizonBars = expected.horizonBars ∧ profile.horizonMs = expected.horizonMs ∧
      profile.horizonMs = profile.horizonBars * 15 * 60 * 1000 then
    some (recordedRow assessment id .actionableTriggered (some directionalOutcomeProfileVersion)
      profile.horizonBars (some profile.horizonMs))
  else none

/-! ### Updates -/

/-- The arguments of `update_shadow_fill`. -/
structure FillUpdate where
  fillStatus : FillStatus
  fillTimeMs : Option ℤ
  fillPrice : Option ℚ
  evaluationStartMs : Option ℤ := none
  evaluationEndMs : Option ℤ := none
  pathResolution : Option ShadowPathResolution := none
  fillIntervalStartMs : Option ℤ := none
  fillIntervalEndMs : Option ℤ := none
  fillTimeResolution : Option FillTimeResolution := none

/-- `update_shadow_fill`: what is given replaces what is stored. -/
def ShadowRecord.updateFill (row : ShadowRecord) (update : FillUpdate) : ShadowRecord :=
  { row with
    fillStatus := update.fillStatus
    fillTimeMs := update.fillTimeMs
    fillPrice := update.fillPrice
    entryPrice := update.fillPrice.getD row.entryPrice
    evaluationStartMs := update.evaluationStartMs.or row.evaluationStartMs
    evaluationEndMs := update.evaluationEndMs.or row.evaluationEndMs
    pathResolution := update.pathResolution.or row.pathResolution
    fillIntervalStartMs := update.fillIntervalStartMs.or row.fillIntervalStartMs
    fillIntervalEndMs := update.fillIntervalEndMs.or row.fillIntervalEndMs
    fillTimeResolution := update.fillTimeResolution.or row.fillTimeResolution }

/-- The arguments of `update_shadow_outcome` that the resolver passes, with their defaults. -/
structure OutcomeUpdate where
  futureMfe : Option ℚ := none
  futureMae : Option ℚ := none
  tp1Hit : Bool := false
  tp2Hit : Bool := false
  slHit : Bool := false
  timeToTargetMs : Option ℤ := none
  timeToStopMs : Option ℤ := none
  netR : Option ℚ := none
  regimeAfter : RegimeAfter
  grossR : Option ℚ := none
  frictionR : Option ℚ := none
  fillStatus : Option FillStatus := none
  pathResolution : Option ShadowPathResolution := none
  terminalReason : Option RowReason := none
  exitTimeMs : Option ℤ := none
  exitPrice : Option ℚ := none
  coverageStatus : Option CoverageMark := none
  coverageReason : Option CoverageReason := none
  fillIntervalStartMs : Option ℤ := none
  fillIntervalEndMs : Option ℤ := none
  fillTimeResolution : Option FillTimeResolution := none
  exitIntervalStartMs : Option ℤ := none
  exitIntervalEndMs : Option ℤ := none
  exitTimeResolution : Option ExitTimeResolution := none
  resolved : Bool := true

/-- `update_shadow_outcome`. -/
def ShadowRecord.updateOutcome (row : ShadowRecord) (update : OutcomeUpdate) : ShadowRecord :=
  { row with
    futureMfe := update.futureMfe
    futureMae := update.futureMae
    tp1Hit := update.tp1Hit
    tp2Hit := update.tp2Hit
    slHit := update.slHit
    timeToTargetMs := update.timeToTargetMs
    timeToStopMs := update.timeToStopMs
    netR := update.netR
    regimeAfter := some update.regimeAfter
    resolved := update.resolved
    grossR := update.grossR.or row.grossR
    frictionR := update.frictionR.or row.frictionR
    fillStatus := update.fillStatus.getD row.fillStatus
    pathResolution := update.pathResolution.or row.pathResolution
    terminalReason := update.terminalReason.or row.terminalReason
    exitTimeMs := update.exitTimeMs.or row.exitTimeMs
    exitPrice := update.exitPrice.or row.exitPrice
    coverageStatus := update.coverageStatus.or row.coverageStatus
    coverageReason := update.coverageReason.or row.coverageReason
    fillIntervalStartMs := update.fillIntervalStartMs.or row.fillIntervalStartMs
    fillIntervalEndMs := update.fillIntervalEndMs.or row.fillIntervalEndMs
    fillTimeResolution := update.fillTimeResolution.or row.fillTimeResolution
    exitIntervalStartMs := update.exitIntervalStartMs.or row.exitIntervalStartMs
    exitIntervalEndMs := update.exitIntervalEndMs.or row.exitIntervalEndMs
    exitTimeResolution := update.exitTimeResolution.or row.exitTimeResolution }

end QuantAgent.MarketWatch.Shadow
