/-
This file embeds the codec of the shadow evaluations: the record that the builder seals, its
canonical payload, the identity made of it, the checks of a sealed evaluation, and the reading of a
stored text.

A value of JSON stands for its text: a canonical value for the text that is written, any value for
a text that is read. What Python makes of texts and numbers is a parameter. Fields are declared as
the builder coerces them; where it takes a number as it comes, the number is whole or a float. The
messages of the checks stand without the values in them.
-/

import QuantAgent.Library.Json
import QuantAgent.MarketWatch.ShadowBuilder

namespace QuantAgent.MarketWatch.Shadow.Codec

inductive CodecFault where
  /-- What Python raises at a payload of another form. -/
  | malformed
  | validation (message : String)
  | identity (message : String)
  deriving DecidableEq

/-- What the codec uses of Python. -/
structure Forms where
  /-- The SHA-256 digest of the text of a canonical value, in lower-case hexadecimal. -/
  sha256 : Json → String
  /-- The double nearest to a number. -/
  round : ℚ → Double
  /-- `int` of a text. -/
  intOfText : String → Option ℤ
  /-- `float` of a text. -/
  floatOfText : String → Option Double
  /-- `str` of what is not a text. -/
  strOf : Json → String
  strip : String → String
  upper : String → String

/-! ### Numbers -/

/-- A number that is taken as it comes. -/
inductive Number where
  | int (value : ℤ)
  | float (value : Double)

namespace Number

def json : Number → Json
  | int value => .int value
  | float value => .float value

def IsFloat : Number → Prop
  | int _ => False
  | float _ => True

instance : DecidablePred IsFloat := fun number => by
  cases number <;> unfold IsFloat <;> infer_instance

def value : Number → Double
  | int whole => .finite whole
  | float double => double

end Number

/-- A value as Python compares it: the order of the members of an object does not matter. -/
def Plain : Type := {value : Json // value.canonical = value}

namespace Plain

instance : DecidableEq Plain := inferInstanceAs (DecidableEq (Subtype _))

def ofJson (value : Json) : Plain := ⟨value.canonical, Json.canonical_canonical value⟩

theorem ofJson_canonical (plain : Plain) : ofJson plain.val.canonical = plain := by
  apply Subtype.ext
  show plain.val.canonical.canonical = plain.val
  rw [plain.property, plain.property]

end Plain

/-! ### Records -/

structure FundingSettlementEvidence where
  fundingTimeMs : ℤ
  fundingRate : Double
  markPrice : Option Double
  fundingCash : Option Double
  fundingR : Option Double
  isSettlementOpen : Bool
  status : String

structure FundingAccountingEvidence where
  accountingVersion : String := fundingAccountingVersion
  fundingStatus : String := "NOT_APPLICABLE"
  settlementsCount : ℤ := 0
  settlements : List FundingSettlementEvidence := []
  fundingPnlR : Option Double := none
  fundingCashTotal : Option Double := none
  initialRisk : Option Double := none
  notes : String := ""

structure OutcomeCheckpointEvidence where
  checkpointHorizonHours : ℤ
  checkpointHorizonMs : ℤ
  targetTimeMs : ℤ
  status : String
  /-- The close of a candle, as it comes. -/
  markPrice : Option Number := none
  markToMarketGrossR : Option Double := none
  mfeRToCheckpoint : Option Double := none
  maeRToCheckpoint : Option Double := none
  barrierStatus : String := "ACTIVE"

structure OutcomeCoverageEvidence where
  coverageStatus : String
  entryCoverageComplete : Bool
  outcomeCoverageComplete : Bool
  startCoverageMs : ℤ
  endCoverageMs : ℤ
  expected15mBars : ℤ := 0
  observed15mBars : ℤ := 0
  expected1mBars : ℤ := 0
  observed1mBars : ℤ := 0
  notes : String := ""

structure AttributionProjectionEvidence where
  selectedPlaybook : String
  direction : String
  regime1h : String
  regime4h : String
  entryQuality : String
  derivativesRegime : String
  benchmarkContext : String
  referenceUniverseStatus : String
  /-- The rule score of the feature evidence, as it comes. -/
  ruleScore : Number
  ruleScoreBucket : String
  ruleScoreComponents : List (Plain × Plain) := []
  exhaustionState : String := "NEUTRAL"

structure TacticalShadowEvaluationV2 where
  evaluationSchemaVersion : String
  evaluationId : String
  featureEvidenceId : String
  shadowRecordId : ℤ
  symbol : String
  signalIdentity : String
  setupKey : String
  playbook : String
  direction : String
  signalTimeMs : ℤ
  entryWindowStartMs : ℤ
  entryWindowEndMs : ℤ
  fillStatus : String
  fillTimeMs : Option ℤ
  fillPrice : Option Double
  evaluationProfileVersion : String
  evaluationHorizonBars : ℤ
  evaluationHorizonMs : ℤ
  evaluationStartMs : Option ℤ
  evaluationEndMs : Option ℤ
  terminalStatus : String
  terminalReason : Option String
  exitTimeMs : Option ℤ
  exitPrice : Option Double
  tp1Hit : Bool
  tp2ExcursionHit : Bool
  slHit : Bool
  timeToFillMs : Option ℤ
  timeFromFillToTerminalMs : Option ℤ
  mfeR : Option Double
  maeR : Option Double
  priceGrossR : Option Double
  executionCostR : Option Double
  netRExFunding : Option Double
  fundingAccounting : FundingAccountingEvidence
  netRAfterFunding : Option Double
  coverage : OutcomeCoverageEvidence
  pathResolution : String
  executionPathModel : String
  outcomeCheckpoints : List OutcomeCheckpointEvidence := []
  attribution : Option AttributionProjectionEvidence := none
  fillIntervalStartMs : Option ℤ := none
  fillIntervalEndMs : Option ℤ := none
  fillTimeResolution : Option String := none
  exitIntervalStartMs : Option ℤ := none
  exitIntervalEndMs : Option ℤ := none
  exitTimeResolution : Option String := none
  featureEvidenceHash : String := ""
  policyVersion : String := ""
  configHash : String := ""
  forwardEvidenceVersion : String := marketWatchEvidenceVersion
  persistedAtMs : Option ℤ := none

/-! ### The projection of the feature evidence -/

structure RuleScoreBreakdown where
  adxScore : Number
  emaSlopeScore : Number
  trendQuality : Number
  structureQuality : Number
  entryQualityScore : Number
  derivativesConfirmationScore : Number
  volumeZScore : Number
  takerScore : Number
  relativeStrengthScore : Number
  netRrScore : Number
  totalPenalty : Number

/-- The fields of `TacticalFeatureEvidenceV2` that the projection reads; a part that is missing has
no fields. -/
structure ProjectedEvidence where
  selectedPlaybook : Option String
  finalDirectionalDecision : Option String
  regime1h : Option String
  regime4h : Option String
  entryQuality : Option String
  derivativesRegime : Option String
  benchmarkContext : Option String
  referenceUniverseStatus : Option String
  ruleScore : Number
  ruleScoreBreakdown : Option RuleScoreBreakdown
  exhaustionState : Option String

/-- `text or other`. -/
def orText (text : Option String) (other : String) : String :=
  (text.filter fun text => text ≠ "").getD other

def ruleScoreBuckets : List (String × ℚ × ℚ) :=
  [("0–39.999", 0, 40), ("40–59.999", 40, 60), ("60–74.999", 60, 75), ("75–89.999", 75, 90),
    ("90–100", 90, 1000001 / 10000)]

/-- `classify_rule_score_bucket` of a score that is present. -/
def classifyRuleScoreBucket (score : Number) : String :=
  match score.value with
  | .finite value =>
    match ruleScoreBuckets.find? fun bucket => bucket.2.1 ≤ value ∧ value < bucket.2.2 with
    | some bucket => bucket.1
    | none => if 100 ≤ value then "90–100" else "0–39.999"
  | .infinite false => "90–100"
  | .infinite true => "0–39.999"
  | .notANumber => "UNKNOWN"

/-- The components under their names, with the numbers as they come. -/
def RuleScoreBreakdown.components (breakdown : RuleScoreBreakdown) : List (Plain × Plain) :=
  [("adx_score", breakdown.adxScore), ("ema_slope_score", breakdown.emaSlopeScore),
    ("trend_quality", breakdown.trendQuality), ("structure_quality", breakdown.structureQuality),
    ("entry_quality_score", breakdown.entryQualityScore),
    ("derivatives_confirmation_score", breakdown.derivativesConfirmationScore),
    ("volume_z_score", breakdown.volumeZScore), ("taker_score", breakdown.takerScore),
    ("relative_strength_score", breakdown.relativeStrengthScore),
    ("net_rr_score", breakdown.netRrScore), ("total_penalty", breakdown.totalPenalty)].map
    fun component => (.ofJson (.str component.1), .ofJson component.2.json)

def extractAttributionProjection (evidence : ProjectedEvidence) :
    AttributionProjectionEvidence where
  selectedPlaybook := orText evidence.selectedPlaybook "NO_TRADE"
  direction := evidence.finalDirectionalDecision.getD "UNKNOWN"
  regime1h := evidence.regime1h.getD "UNKNOWN"
  regime4h := evidence.regime4h.getD "UNKNOWN"
  entryQuality := orText evidence.entryQuality "UNKNOWN"
  derivativesRegime := evidence.derivativesRegime.getD "UNKNOWN"
  benchmarkContext := evidence.benchmarkContext.getD "UNKNOWN"
  referenceUniverseStatus := evidence.referenceUniverseStatus.getD "UNKNOWN"
  ruleScore := evidence.ruleScore
  ruleScoreBucket := classifyRuleScoreBucket evidence.ruleScore
  ruleScoreComponents := (evidence.ruleScoreBreakdown.map RuleScoreBreakdown.components).getD []
  exhaustionState := evidence.exhaustionState.getD "NEUTRAL"

/-! ### The canonical payload -/

def optionalInt (value : Option ℤ) : Json := value.elim .null .int

def optionalFloat (value : Option Double) : Json := value.elim .null .float

def optionalText (value : Option String) : Json := value.elim .null .str

def FundingSettlementEvidence.toDict (settlement : FundingSettlementEvidence) :
    List (String × Json) :=
  [("funding_time_ms", .int settlement.fundingTimeMs),
    ("funding_rate", .float settlement.fundingRate),
    ("mark_price", optionalFloat settlement.markPrice),
    ("funding_cash", optionalFloat settlement.fundingCash),
    ("funding_r", optionalFloat settlement.fundingR),
    ("is_settlement_open", .bool settlement.isSettlementOpen),
    ("status", .str settlement.status)]

def FundingAccountingEvidence.toDict (accounting : FundingAccountingEvidence) :
    List (String × Json) :=
  [("accounting_version", .str accounting.accountingVersion),
    ("funding_status", .str accounting.fundingStatus),
    ("settlements_count", .int accounting.settlementsCount),
    ("settlements", .arr (accounting.settlements.map fun settlement => .obj settlement.toDict)),
    ("funding_pnl_r", optionalFloat accounting.fundingPnlR),
    ("funding_cash_total", optionalFloat accounting.fundingCashTotal),
    ("initial_risk", optionalFloat accounting.initialRisk),
    ("notes", .str accounting.notes)]

def OutcomeCheckpointEvidence.toDict (checkpoint : OutcomeCheckpointEvidence) :
    List (String × Json) :=
  [("checkpoint_horizon_hours", .int checkpoint.checkpointHorizonHours),
    ("checkpoint_horizon_ms", .int checkpoint.checkpointHorizonMs),
    ("target_time_ms", .int checkpoint.targetTimeMs),
    ("status", .str checkpoint.status),
    ("mark_price", checkpoint.markPrice.elim .null Number.json),
    ("mark_to_market_gross_r", optionalFloat checkpoint.markToMarketGrossR),
    ("mfe_r_to_checkpoint", optionalFloat checkpoint.mfeRToCheckpoint),
    ("mae_r_to_checkpoint", optionalFloat checkpoint.maeRToCheckpoint),
    ("barrier_status", .str checkpoint.barrierStatus)]

def OutcomeCoverageEvidence.toDict (coverage : OutcomeCoverageEvidence) : List (String × Json) :=
  [("coverage_status", .str coverage.coverageStatus),
    ("entry_coverage_complete", .bool coverage.entryCoverageComplete),
    ("outcome_coverage_complete", .bool coverage.outcomeCoverageComplete),
    ("start_coverage_ms", .int coverage.startCoverageMs),
    ("end_coverage_ms", .int coverage.endCoverageMs),
    ("expected_15m_bars", .int coverage.expected15mBars),
    ("observed_15m_bars", .int coverage.observed15mBars),
    ("expected_1m_bars", .int coverage.expected1mBars),
    ("observed_1m_bars", .int coverage.observed1mBars),
    ("notes", .str coverage.notes)]

/-- `[k, v]`. -/
def componentJson (component : Plain × Plain) : Json := .arr [component.1.val, component.2.val]

def AttributionProjectionEvidence.toDict (attribution : AttributionProjectionEvidence) :
    List (String × Json) :=
  [("selected_playbook", .str attribution.selectedPlaybook),
    ("direction", .str attribution.direction),
    ("regime_1h", .str attribution.regime1h),
    ("regime_4h", .str attribution.regime4h),
    ("entry_quality", .str attribution.entryQuality),
    ("derivatives_regime", .str attribution.derivativesRegime),
    ("benchmark_context", .str attribution.benchmarkContext),
    ("reference_universe_status", .str attribution.referenceUniverseStatus),
    ("rule_score", attribution.ruleScore.json),
    ("rule_score_bucket", .str attribution.ruleScoreBucket),
    ("rule_score_components", .arr (attribution.ruleScoreComponents.map componentJson)),
    ("exhaustion_state", .str attribution.exhaustionState)]

/-- The payload without `evaluation_id` and `persisted_at_ms`. -/
def TacticalShadowEvaluationV2.toCanonicalPayload (evaluation : TacticalShadowEvaluationV2) :
    List (String × Json) :=
  [("attribution", evaluation.attribution.elim .null fun attribution => .obj attribution.toDict),
    ("config_hash", .str evaluation.configHash),
    ("coverage", .obj evaluation.coverage.toDict),
    ("direction", .str evaluation.direction),
    ("entry_window_end_ms", .int evaluation.entryWindowEndMs),
    ("entry_window_start_ms", .int evaluation.entryWindowStartMs),
    ("evaluation_end_ms", optionalInt evaluation.evaluationEndMs),
    ("evaluation_horizon_bars", .int evaluation.evaluationHorizonBars),
    ("evaluation_horizon_ms", .int evaluation.evaluationHorizonMs),
    ("evaluation_profile_version", .str evaluation.evaluationProfileVersion),
    ("evaluation_schema_version", .str evaluation.evaluationSchemaVersion),
    ("evaluation_start_ms", optionalInt evaluation.evaluationStartMs),
    ("execution_cost_r", optionalFloat evaluation.executionCostR),
    ("execution_path_model", .str evaluation.executionPathModel),
    ("exit_interval_end_ms", optionalInt evaluation.exitIntervalEndMs),
    ("exit_interval_start_ms", optionalInt evaluation.exitIntervalStartMs),
    ("exit_price", optionalFloat evaluation.exitPrice),
    ("exit_time_ms", optionalInt evaluation.exitTimeMs),
    ("exit_time_resolution", optionalText evaluation.exitTimeResolution),
    ("feature_evidence_hash", .str evaluation.featureEvidenceHash),
    ("feature_evidence_id", .str evaluation.featureEvidenceId),
    ("fill_interval_end_ms", optionalInt evaluation.fillIntervalEndMs),
    ("fill_interval_start_ms", optionalInt evaluation.fillIntervalStartMs),
    ("fill_price", optionalFloat evaluation.fillPrice),
    ("fill_status", .str evaluation.fillStatus),
    ("fill_time_ms", optionalInt evaluation.fillTimeMs),
    ("fill_time_resolution", optionalText evaluation.fillTimeResolution),
    ("forward_evidence_version", .str evaluation.forwardEvidenceVersion),
    ("funding_accounting", .obj evaluation.fundingAccounting.toDict),
    ("mae_r", optionalFloat evaluation.maeR),
    ("mfe_r", optionalFloat evaluation.mfeR),
    ("net_r_after_funding", optionalFloat evaluation.netRAfterFunding),
    ("net_r_ex_funding", optionalFloat evaluation.netRExFunding),
    ("outcome_checkpoints",
      .arr (evaluation.outcomeCheckpoints.map fun checkpoint => .obj checkpoint.toDict)),
    ("path_resolution", .str evaluation.pathResolution),
    ("playbook", .str evaluation.playbook),
    ("policy_version", .str evaluation.policyVersion),
    ("price_gross_r", optionalFloat evaluation.priceGrossR),
    ("setup_key", .str evaluation.setupKey),
    ("shadow_record_id", .int evaluation.shadowRecordId),
    ("signal_identity", .str evaluation.signalIdentity),
    ("signal_time_ms", .int evaluation.signalTimeMs),
    ("sl_hit", .bool evaluation.slHit),
    ("symbol", .str evaluation.symbol),
    ("terminal_reason", optionalText evaluation.terminalReason),
    ("terminal_status", .str evaluation.terminalStatus),
    ("time_from_fill_to_terminal_ms", optionalInt evaluation.timeFromFillToTerminalMs),
    ("time_to_fill_ms", optionalInt evaluation.timeToFillMs),
    ("tp1_hit", .bool evaluation.tp1Hit),
    ("tp2_excursion_hit", .bool evaluation.tp2ExcursionHit)]

def TacticalShadowEvaluationV2.payload (evaluation : TacticalShadowEvaluationV2) : Json :=
  .obj evaluation.toCanonicalPayload

def TacticalShadowEvaluationV2.toDict (evaluation : TacticalShadowEvaluationV2) :
    List (String × Json) :=
  evaluation.toCanonicalPayload ++ [("evaluation_id", .str evaluation.evaluationId),
    ("persisted_at_ms", optionalInt evaluation.persistedAtMs)]

/-! ### The identity -/

def canonicalShadowEvaluationDump (payload : Json) : Except CodecFault Json :=
  if payload.isFinite then .ok payload.canonical
  else .error (.validation "Invalid non-finite number in shadow evaluation payload")

def TacticalShadowEvaluationV2.asCanonicalJson (evaluation : TacticalShadowEvaluationV2) :
    Except CodecFault Json :=
  canonicalShadowEvaluationDump (.obj evaluation.toDict)

section

variable (forms : Forms)

/-- The identity of a payload that has neither `evaluation_id` nor `persisted_at_ms`. -/
def payloadId (payload : Json) : Except CodecFault String :=
  (canonicalShadowEvaluationDump payload).map forms.sha256

/-- `compute_evaluation_id` of an evaluation. -/
def computeEvaluationId (evaluation : TacticalShadowEvaluationV2) : Except CodecFault String :=
  payloadId forms evaluation.payload

/-- The members that the identity covers. -/
def contentMembers (members : List (String × Json)) : List (String × Json) :=
  members.filter fun member => member.1 ≠ "evaluation_id" ∧ member.1 ≠ "persisted_at_ms"

/-- `compute_evaluation_id` of a dictionary. -/
def computeDictId (members : List (String × Json)) : Except CodecFault String :=
  payloadId forms (.obj (contentMembers members))

/-- A match of `^[0-9a-f]{64}$`, which leaves a last line feed aside. -/
def IsEvaluationId (text : String) : Prop :=
  let characters := text.toList
  (characters.length = 64 ∨ characters.length = 65 ∧ characters.getLast? = some '\n') ∧
    (characters.take 64).all fun character =>
      '0' ≤ character ∧ character ≤ '9' ∨ 'a' ≤ character ∧ character ≤ 'f'

instance (text : String) : Decidable (IsEvaluationId text) := by
  unfold IsEvaluationId
  infer_instance

def verifyShadowEvaluationIdentity (evaluation : TacticalShadowEvaluationV2) :
    Except CodecFault Unit := do
  refuse (¬ IsEvaluationId evaluation.evaluationId)
    (.identity "Invalid evaluation_id format (must be 64-char lowercase hex)")
  let expected ← computeEvaluationId forms evaluation
  refuse (evaluation.evaluationId ≠ expected) (.identity "evaluation_id mismatch")

/-! ### Arithmetic -/

def negate : Double → Double
  | .finite value => .finite (-value)
  | .infinite negative => .infinite (! negative)
  | .notANumber => .notANumber

def add : Double → Double → Double
  | .finite first, .finite second => forms.round (first + second)
  | .infinite first, .infinite second => if first = second then .infinite first else .notANumber
  | .notANumber, _ | _, .notANumber => .notANumber
  | .infinite negative, .finite _ | .finite _, .infinite negative => .infinite negative

def sub (first second : Double) : Double := add forms first (negate second)

def AtMost (first second : Double) : Prop :=
  first.Less second ∨ first = second ∧ first ≠ .notANumber

instance : DecidableRel AtMost := fun _ _ => inferInstanceAs (Decidable (_ ∨ _))

/-- The double of the literal `1e-5`. -/
def tolerance : ℚ := 5902958103587057 / 590295810358705651712

/-- `math.isclose(first, second, rel_tol=1e-5, abs_tol=1e-5)`. -/
def IsClose : Double → Double → Prop
  | .finite first, .finite second =>
    let difference := forms.round |second - first|
    first = second ∨ AtMost difference (forms.round |tolerance * second|) ∨
      AtMost difference (forms.round |tolerance * first|) ∨ AtMost difference (.finite tolerance)
  | .infinite first, .infinite second => first = second
  | _, _ => False

instance : DecidableRel (IsClose forms) := fun first second => by
  cases first <;> cases second <;> unfold IsClose <;> infer_instance

/-! ### The checks -/

def playbookEvaluationProfiles : List (String × EvaluationProfile) :=
  [("TREND_PULLBACK", ⟨12, 48, 12 * 3600 * 1000⟩), ("BREAKOUT_RETEST", ⟨12, 48, 12 * 3600 * 1000⟩),
    ("FAILED_BREAKOUT", ⟨8, 32, 8 * 3600 * 1000⟩), ("FAILED_BREAKDOWN", ⟨8, 32, 8 * 3600 * 1000⟩),
    ("VOLATILITY_EXPANSION", ⟨8, 32, 8 * 3600 * 1000⟩)]

def defaultPlaybookProfile : EvaluationProfile := ⟨12, 48, 12 * 3600 * 1000⟩

/-- `get_playbook_evaluation_profile` of a name, with or without the name of the enumeration. -/
def playbookProfile (playbook : String) : EvaluationProfile :=
  let cleaned := forms.upper (forms.strip playbook)
  let enumeration := "PLAYBOOKTYPE.".toList
  let name := if enumeration.isPrefixOf cleaned.toList then
      String.ofList (cleaned.toList.drop enumeration.length)
    else cleaned
  (playbookEvaluationProfiles.lookup name).getD defaultPlaybookProfile

section

open Check

variable (evaluation : TacticalShadowEvaluationV2)

def versionChecks : List (Check CodecFault) :=
  let profile := playbookProfile forms evaluation.playbook
  [require (evaluation.evaluationSchemaVersion = tacticalShadowEvaluationSchemaVersion)
      (.validation "Invalid evaluation schema version"),
    require (evaluation.featureEvidenceId ≠ "") (.validation "feature_evidence_id is mandatory"),
    require (evaluation.symbol ≠ "") (.validation "symbol is mandatory"),
    require (evaluation.direction = "LONG" ∨ evaluation.direction = "SHORT")
      (.validation "Invalid direction"),
    require (evaluation.forwardEvidenceVersion = marketWatchEvidenceVersion)
      (.validation "Invalid forward evidence version"),
    require (evaluation.fundingAccounting.accountingVersion = fundingAccountingVersion)
      (.validation "Invalid funding accounting version"),
    require (evaluation.evaluationProfileVersion = directionalOutcomeProfileVersion)
      (.validation "Invalid evaluation profile version"),
    require (0 < evaluation.evaluationHorizonBars)
      (.validation "evaluation_horizon_bars must be positive"),
    require (evaluation.evaluationHorizonMs = evaluation.evaluationHorizonBars * 900000)
      (.validation "Horizon invariant violated"),
    require (evaluation.evaluationHorizonBars = profile.horizonBars)
      (.validation "evaluation_horizon_bars does not match playbook profile"),
    require (evaluation.evaluationHorizonMs = profile.horizonMs)
      (.validation "evaluation_horizon_ms does not match playbook profile")]

def finiteCheck (name : String) (value : Option Double) : Check CodecFault :=
  require (∀ number ∈ value, number.isFinite = true) (.validation ("Non-finite float in " ++ name))

def numberChecks : List (Check CodecFault) :=
  [finiteCheck "fill_price" evaluation.fillPrice, finiteCheck "exit_price" evaluation.exitPrice,
    finiteCheck "mfe_r" evaluation.mfeR, finiteCheck "mae_r" evaluation.maeR,
    finiteCheck "price_gross_r" evaluation.priceGrossR,
    finiteCheck "execution_cost_r" evaluation.executionCostR,
    finiteCheck "net_r_ex_funding" evaluation.netRExFunding,
    finiteCheck "net_r_after_funding" evaluation.netRAfterFunding,
    require (evaluation.signalTimeMs ≤ evaluation.entryWindowStartMs ∧
        evaluation.entryWindowStartMs ≤ evaluation.entryWindowEndMs)
      (.validation "Invalid entry window temporal ordering")]

def noFillChecks : List (Check CodecFault) :=
  [require (evaluation.fillStatus = "NO_FILL")
      (.validation "NO_FILL terminal_status requires fill_status='NO_FILL'"),
    require (evaluation.terminalReason = some "NO_FILL")
      (.validation "NO_FILL terminal_status requires terminal_reason='NO_FILL'"),
    require (evaluation.fillTimeMs = none ∧ evaluation.fillPrice = none)
      (.validation "NO_FILL evaluation must have fill_time_ms and fill_price set to None"),
    require (evaluation.priceGrossR = none ∧ evaluation.executionCostR = none ∧
        evaluation.netRExFunding = none ∧ evaluation.netRAfterFunding = none)
      (.validation "NO_FILL evaluation must have all R metrics set to None"),
    require (evaluation.fundingAccounting.fundingStatus = "NOT_APPLICABLE")
      (.validation "NO_FILL evaluation requires funding_status='NOT_APPLICABLE'"),
    require (evaluation.fillIntervalStartMs = none ∧ evaluation.fillIntervalEndMs = none)
      (.validation "NO_FILL evaluation must not have fill_interval bounds"),
    require (evaluation.exitIntervalStartMs = none ∧ evaluation.exitIntervalEndMs = none ∧
        evaluation.exitTimeResolution = none)
      (.validation ("NO_FILL evaluation must have exit_interval_start_ms, exit_interval_end_ms, " ++
        "and exit_time_resolution set to None"))]

/-- A price that is present and not at most zero. -/
def Positive (price : Option Double) : Prop := ∃ number ∈ price, ¬ AtMost number (.finite 0)

instance (price : Option Double) : Decidable (Positive price) :=
  inferInstanceAs (Decidable (∃ _ ∈ _, _))

def filledChecks : List (Check CodecFault) :=
  [require (evaluation.fillStatus = "FILLED")
      (.validation "FILLED terminal_status requires fill_status='FILLED'"),
    require (Positive evaluation.fillPrice)
      (.validation "FILLED evaluation requires positive fill_price"),
    require (evaluation.fillTimeMs ≠ none) (.validation "FILLED evaluation requires fill_time_ms"),
    require (evaluation.fillIntervalStartMs ≠ none ∧ evaluation.fillIntervalEndMs ≠ none)
      (.validation "FILLED evaluation requires fill_interval bounds"),
    require (Present (· ≤ ·) evaluation.fillIntervalStartMs evaluation.fillTimeMs ∧
        Present (· ≤ ·) evaluation.fillTimeMs evaluation.fillIntervalEndMs)
      (.validation "fill_time_ms outside fill interval"),
    require (Present (· ≤ ·) (some evaluation.signalTimeMs) evaluation.fillIntervalStartMs)
      (.validation "Fill interval starts before signal_time"),
    require (evaluation.exitIntervalStartMs ≠ none ∧ evaluation.exitIntervalEndMs ≠ none)
      (.validation "FILLED evaluation requires exit_interval bounds"),
    require (evaluation.exitTimeResolution ≠ none)
      (.validation "FILLED evaluation requires exit_time_resolution"),
    require (evaluation.exitTimeResolution ∈ [some "ONE_MINUTE_TERMINAL_INTERVAL",
        some "FIFTEEN_MINUTE_FALLBACK_INTERVAL", some "HORIZON_TIMEOUT_BOUNDARY"])
      (.validation "Invalid exit_time_resolution"),
    require (Present (· ≤ ·) evaluation.exitIntervalStartMs evaluation.exitIntervalEndMs)
      (.validation "exit_interval_start_ms > exit_interval_end_ms"),
    require (Present (· ≤ ·) (some evaluation.signalTimeMs) evaluation.fillIntervalStartMs ∧
        Present (· ≤ ·) evaluation.fillIntervalStartMs evaluation.fillIntervalEndMs ∧
        Present (· ≤ ·) evaluation.fillIntervalEndMs evaluation.exitIntervalEndMs)
      (.validation "Temporal consistency violated"),
    require (evaluation.terminalReason ∈ [some "TP1", some "STOP", some "TIMEOUT"])
      (.validation "FILLED evaluation terminal_reason must be TP1, STOP, or TIMEOUT"),
    require (evaluation.exitTimeMs ≠ none) (.validation "FILLED evaluation requires exit_time_ms"),
    require (Present (· ≤ ·) evaluation.exitIntervalStartMs evaluation.exitTimeMs ∧
        Present (· ≤ ·) evaluation.exitTimeMs evaluation.exitIntervalEndMs)
      (.validation "exit_time_ms outside exit interval"),
    require (Positive evaluation.exitPrice)
      (.validation "FILLED evaluation requires positive exit_price"),
    require (Present (· ≤ ·) evaluation.fillIntervalEndMs evaluation.exitTimeMs)
      (.validation "Exit time is before fill_interval_end_ms"),
    require (evaluation.evaluationStartMs ≠ none ∧
        evaluation.evaluationStartMs = evaluation.fillTimeMs)
      (.validation "evaluation_start_ms must equal fill_time_ms"),
    require (evaluation.evaluationEndMs ≠ none)
      (.validation "evaluation_end_ms is required for FILLED evaluation"),
    require (evaluation.evaluationEndMs =
        evaluation.evaluationStartMs.map fun start => start + evaluation.evaluationHorizonMs)
      (.validation "evaluation_end_ms != evaluation_start_ms + horizon_ms")]

def barrierChecks (name flags : String) (hit missed : Bool) : List (Check CodecFault) :=
  [require (hit = true ∧ missed = false)
      (.validation (name ++ " terminal requires " ++ flags)),
    require (Present (fun exitTime planned => exitTime ≤ planned + 900000) evaluation.exitTimeMs
        evaluation.evaluationEndMs)
      (.validation (name ++ " exit cannot occur after planned evaluation end")),
    require (evaluation.exitTimeResolution = some "ONE_MINUTE_TERMINAL_INTERVAL" ∨
        evaluation.exitTimeResolution = some "FIFTEEN_MINUTE_FALLBACK_INTERVAL")
      (.validation (name ++ " terminal requires 1m or 15m fallback resolution")),
    require (evaluation.exitTimeMs = evaluation.exitIntervalEndMs)
      (.validation (name ++ " exit_time_ms must equal exit_interval_end_ms"))]

def reasonChecks : List (Check CodecFault) :=
  if evaluation.terminalReason = some "TIMEOUT" then
    [require (Present (fun exitTime planned => |exitTime - planned| ≤ 900000)
          evaluation.exitTimeMs evaluation.evaluationEndMs)
        (.validation "TIMEOUT exit_time_ms diverges from evaluation_end_ms"),
      require (evaluation.tp1Hit = false ∧ evaluation.slHit = false)
        (.validation "TIMEOUT terminal cannot have tp1_hit or sl_hit"),
      require (evaluation.exitTimeResolution = some "HORIZON_TIMEOUT_BOUNDARY")
        (.validation "TIMEOUT terminal requires HORIZON_TIMEOUT_BOUNDARY resolution"),
      require (evaluation.exitIntervalStartMs = evaluation.evaluationEndMs ∧
          evaluation.exitIntervalEndMs = evaluation.evaluationEndMs)
        (.validation
          "TIMEOUT requires exit_interval_start_ms == exit_interval_end_ms == evaluation_end_ms")]
  else if evaluation.terminalReason = some "TP1" then
    barrierChecks evaluation "TP1" "tp1_hit=True and sl_hit=False" evaluation.tp1Hit
      evaluation.slHit
  else if evaluation.terminalReason = some "STOP" then
    barrierChecks evaluation "STOP" "sl_hit=True and tp1_hit=False" evaluation.slHit
      evaluation.tp1Hit
  else []

def expectedNetEx : Option Double :=
  evaluation.priceGrossR.bind fun gross => evaluation.executionCostR.map fun cost =>
    sub forms gross cost

def netRChecks : List (Check CodecFault) :=
  let accounting := evaluation.fundingAccounting
  let expected := expectedNetEx forms evaluation
  [require (evaluation.priceGrossR ≠ none ∧ evaluation.executionCostR ≠ none ∧
        evaluation.netRExFunding ≠ none)
      (.validation "Missing R-multiple calculations on FILLED evaluation"),
    require (∃ net ∈ evaluation.netRExFunding, ∃ value ∈ expected, IsClose forms net value)
      (.validation "Net R ex-funding mismatch")] ++
  if accounting.fundingStatus = "COMPLETE" then
    [require (accounting.fundingPnlR ≠ none)
        (.validation "COMPLETE funding requires funding_pnl_r"),
      require (evaluation.netRAfterFunding ≠ none)
        (.validation "COMPLETE funding requires net_r_after_funding"),
      require (∃ net ∈ evaluation.netRAfterFunding, ∃ value ∈ expected,
          ∃ funding ∈ accounting.fundingPnlR, IsClose forms net (add forms value funding))
        (.validation "Net R after funding mismatch")]
  else
    [require (evaluation.netRAfterFunding = none)
      (.validation "net_r_after_funding must be None when funding is not COMPLETE")]

def terminalChecks : List (Check CodecFault) :=
  if evaluation.terminalStatus = "NO_FILL" then noFillChecks evaluation
  else if evaluation.terminalStatus = "FILLED" then
    filledChecks evaluation ++ reasonChecks evaluation ++ netRChecks forms evaluation
  else [require False (.validation "Invalid terminal_status")]

def presenceChecks : List (Check CodecFault) :=
  [require (evaluation.outcomeCheckpoints.length = 4)
      (.validation "outcome_checkpoints must contain exactly 4 checkpoints"),
    require (evaluation.outcomeCheckpoints.map OutcomeCheckpointEvidence.checkpointHorizonHours =
        [4, 8, 12, 24])
      (.validation "Checkpoint has invalid horizon hours"),
    require (evaluation.attribution ≠ none)
      (.validation "attribution projection is mandatory")]

/-- Validate all fields, non-finite values, and the identity of an evaluation. -/
def validateTacticalShadowEvaluation : Except CodecFault Unit := do
  Check.run (versionChecks forms evaluation ++ numberChecks evaluation ++
    terminalChecks forms evaluation ++ presenceChecks evaluation)
  verifyShadowEvaluationIdentity forms evaluation

/-- The end of `build_tactical_shadow_evaluation_v2`: an evaluation with the dummy identity gets the
identity of its content and is validated. -/
def sealEvaluation : Except CodecFault TacticalShadowEvaluationV2 := do
  let evaluationId ← computeEvaluationId forms evaluation
  let sealed := { evaluation with evaluationId := evaluationId }
  validateTacticalShadowEvaluation forms sealed
  return sealed

end

/-! ### Reading values -/

/-- `int(value)`. -/
def intOf : Json → Except CodecFault ℤ
  | .bool value => .ok value.toNat
  | .int value => .ok value
  | .float (.finite value) => .ok (value.num.tdiv value.den)
  | .str text => (forms.intOfText text).elim (.error .malformed) .ok
  | _ => .error .malformed

/-- `float(value)`; a whole number is rounded, and one that is too large is refused. -/
def floatOf : Json → Except CodecFault Double
  | .bool value => .ok (.finite value.toNat)
  | .int value =>
    match forms.round value with
    | .finite rounded => .ok (.finite rounded)
    | _ => .error .malformed
  | .float value => .ok value
  | .str text => (forms.floatOfText text).elim (.error .malformed) .ok
  | _ => .error .malformed

/-- `str(value)`. -/
def textOf : Json → String
  | .str text => text
  | value => forms.strOf value

def membersOf : Json → Except CodecFault (List (String × Json))
  | .obj members => .ok members
  | _ => .error .malformed

/-- What a loop over a value goes through. -/
def itemsOf : Json → Except CodecFault (List Json)
  | .arr items => .ok items
  | .obj members => .ok (members.map fun member => .str member.1)
  | .str text => .ok (text.toList.map fun character => .str (String.singleton character))
  | _ => .error .malformed

/-- `members[key]`. -/
def entry (members : List (String × Json)) (key : String) : Except CodecFault Json :=
  (members.lookup key).elim (.error .malformed) .ok

/-- `members.get(key, default)`. -/
def getOr (members : List (String × Json)) (key : String) (default : Json) : Json :=
  (members.lookup key).getD default

/-- `members[key] if members.get(key) is not None else None`. -/
def given (members : List (String × Json)) (key : String) : Option Json :=
  (members.lookup key).filter fun value => value ≠ .null

/-- `members.get(key)`, or an empty dictionary when that is false. -/
def objectOr (members : List (String × Json)) (key : String) :
    Except CodecFault (List (String × Json)) :=
  if Json.truthy (getOr members key .null) then membersOf (getOr members key .null) else .ok []

/-! ### Reading records -/

def FundingSettlementEvidence.read (value : Json) :
    Except CodecFault FundingSettlementEvidence := do
  let members ← membersOf value
  return {
    fundingTimeMs := ← intOf forms (← entry members "funding_time_ms")
    fundingRate := ← floatOf forms (← entry members "funding_rate")
    markPrice := ← (given members "mark_price").mapM (floatOf forms)
    fundingCash := ← (given members "funding_cash").mapM (floatOf forms)
    fundingR := ← (given members "funding_r").mapM (floatOf forms)
    isSettlementOpen := Json.truthy (getOr members "is_settlement_open" (.bool true))
    status := textOf forms (getOr members "status" (.str "SETTLED")) }

def FundingAccountingEvidence.read (members : List (String × Json)) :
    Except CodecFault FundingAccountingEvidence := do
  let items ← itemsOf (getOr members "settlements" (.arr []))
  let settlements ← items.mapM (FundingSettlementEvidence.read forms)
  return {
    accountingVersion :=
      textOf forms (getOr members "accounting_version" (.str fundingAccountingVersion))
    fundingStatus := textOf forms (getOr members "funding_status" (.str "NOT_APPLICABLE"))
    settlementsCount :=
      ← intOf forms (getOr members "settlements_count" (.int settlements.length))
    settlements := settlements
    fundingPnlR := ← (given members "funding_pnl_r").mapM (floatOf forms)
    fundingCashTotal := ← (given members "funding_cash_total").mapM (floatOf forms)
    initialRisk := ← (given members "initial_risk").mapM (floatOf forms)
    notes := textOf forms (getOr members "notes" (.str "")) }

def OutcomeCoverageEvidence.read (members : List (String × Json)) :
    Except CodecFault OutcomeCoverageEvidence := do
  return {
    coverageStatus := textOf forms (getOr members "coverage_status" (.str "COMPLETE"))
    entryCoverageComplete := Json.truthy (getOr members "entry_coverage_complete" (.bool true))
    outcomeCoverageComplete := Json.truthy (getOr members "outcome_coverage_complete" (.bool true))
    startCoverageMs := ← intOf forms (getOr members "start_coverage_ms" (.int 0))
    endCoverageMs := ← intOf forms (getOr members "end_coverage_ms" (.int 0))
    expected15mBars := ← intOf forms (getOr members "expected_15m_bars" (.int 0))
    observed15mBars := ← intOf forms (getOr members "observed_15m_bars" (.int 0))
    expected1mBars := ← intOf forms (getOr members "expected_1m_bars" (.int 0))
    observed1mBars := ← intOf forms (getOr members "observed_1m_bars" (.int 0))
    notes := textOf forms (getOr members "notes" (.str "")) }

def OutcomeCheckpointEvidence.read (value : Json) :
    Except CodecFault OutcomeCheckpointEvidence := do
  let members ← membersOf value
  let markPrice ← (given members "mark_price").mapM (floatOf forms)
  return {
    checkpointHorizonHours := ← intOf forms (← entry members "checkpoint_horizon_hours")
    checkpointHorizonMs := ← intOf forms (← entry members "checkpoint_horizon_ms")
    targetTimeMs := ← intOf forms (← entry members "target_time_ms")
    status := textOf forms (← entry members "status")
    markPrice := markPrice.map .float
    markToMarketGrossR := ← (given members "mark_to_market_gross_r").mapM (floatOf forms)
    mfeRToCheckpoint := ← (given members "mfe_r_to_checkpoint").mapM (floatOf forms)
    maeRToCheckpoint := ← (given members "mae_r_to_checkpoint").mapM (floatOf forms)
    barrierStatus := textOf forms (getOr members "barrier_status" (.str "ACTIVE")) }

/-- `tuple(item)`. An item that is no pair fails when the payload is made, and is refused here. -/
def readComponent (item : Json) : Except CodecFault (Plain × Plain) := do
  match ← itemsOf item with
  | [first, second] => return (.ofJson first, .ofJson second)
  | _ => .error .malformed

def AttributionProjectionEvidence.read (value : Json) :
    Except CodecFault AttributionProjectionEvidence := do
  let members ← membersOf value
  let items ← itemsOf (getOr members "rule_score_components" (.arr []))
  let components ← items.mapM readComponent
  let ruleScore ← floatOf forms (getOr members "rule_score" (.float (.finite 0)))
  return {
    selectedPlaybook := textOf forms (getOr members "selected_playbook" (.str ""))
    direction := textOf forms (getOr members "direction" (.str ""))
    regime1h := textOf forms (getOr members "regime_1h" (.str ""))
    regime4h := textOf forms (getOr members "regime_4h" (.str ""))
    entryQuality := textOf forms (getOr members "entry_quality" (.str ""))
    derivativesRegime := textOf forms (getOr members "derivatives_regime" (.str ""))
    benchmarkContext := textOf forms (getOr members "benchmark_context" (.str ""))
    referenceUniverseStatus :=
      textOf forms (getOr members "reference_universe_status" (.str ""))
    ruleScore := .float ruleScore
    ruleScoreBucket := textOf forms (getOr members "rule_score_bucket" (.str ""))
    ruleScoreComponents := components
    exhaustionState := textOf forms (getOr members "exhaustion_state" (.str "NEUTRAL")) }

/-- The evaluation that `deserialize_tactical_shadow_evaluation` makes of a dictionary. -/
def TacticalShadowEvaluationV2.read (evaluationId : String) (payload : List (String × Json)) :
    Except CodecFault TacticalShadowEvaluationV2 := do
  let fundingAccounting ←
    FundingAccountingEvidence.read forms (← objectOr payload "funding_accounting")
  let coverage ← OutcomeCoverageEvidence.read forms (← objectOr payload "coverage")
  let items ← itemsOf (getOr payload "outcome_checkpoints" (.arr []))
  let checkpoints ← items.mapM (OutcomeCheckpointEvidence.read forms)
  let attribution ← (given payload "attribution").mapM (AttributionProjectionEvidence.read forms)
  return {
    evaluationSchemaVersion := textOf forms (← entry payload "evaluation_schema_version")
    evaluationId := evaluationId
    featureEvidenceId := textOf forms (← entry payload "feature_evidence_id")
    shadowRecordId := ← intOf forms (← entry payload "shadow_record_id")
    symbol := textOf forms (← entry payload "symbol")
    signalIdentity := textOf forms (getOr payload "signal_identity" (.str ""))
    setupKey := textOf forms (getOr payload "setup_key" (.str ""))
    playbook := textOf forms (← entry payload "playbook")
    direction := textOf forms (← entry payload "direction")
    signalTimeMs := ← intOf forms (← entry payload "signal_time_ms")
    entryWindowStartMs := ← intOf forms (← entry payload "entry_window_start_ms")
    entryWindowEndMs := ← intOf forms (← entry payload "entry_window_end_ms")
    fillStatus := textOf forms (← entry payload "fill_status")
    fillTimeMs := ← (given payload "fill_time_ms").mapM (intOf forms)
    fillPrice := ← (given payload "fill_price").mapM (floatOf forms)
    fillIntervalStartMs := ← (given payload "fill_interval_start_ms").mapM (intOf forms)
    fillIntervalEndMs := ← (given payload "fill_interval_end_ms").mapM (intOf forms)
    fillTimeResolution := (given payload "fill_time_resolution").map (textOf forms)
    exitIntervalStartMs := ← (given payload "exit_interval_start_ms").mapM (intOf forms)
    exitIntervalEndMs := ← (given payload "exit_interval_end_ms").mapM (intOf forms)
    exitTimeResolution := (given payload "exit_time_resolution").map (textOf forms)
    evaluationProfileVersion := textOf forms (← entry payload "evaluation_profile_version")
    evaluationHorizonBars := ← intOf forms (getOr payload "evaluation_horizon_bars" (.int 0))
    evaluationHorizonMs := ← intOf forms (← entry payload "evaluation_horizon_ms")
    evaluationStartMs := ← (given payload "evaluation_start_ms").mapM (intOf forms)
    evaluationEndMs := ← (given payload "evaluation_end_ms").mapM (intOf forms)
    terminalStatus := textOf forms (← entry payload "terminal_status")
    terminalReason := (given payload "terminal_reason").map (textOf forms)
    exitTimeMs := ← (given payload "exit_time_ms").mapM (intOf forms)
    exitPrice := ← (given payload "exit_price").mapM (floatOf forms)
    tp1Hit := Json.truthy (getOr payload "tp1_hit" (.bool false))
    tp2ExcursionHit := Json.truthy (getOr payload "tp2_excursion_hit" (.bool false))
    slHit := Json.truthy (getOr payload "sl_hit" (.bool false))
    timeToFillMs := ← (given payload "time_to_fill_ms").mapM (intOf forms)
    timeFromFillToTerminalMs :=
      ← (given payload "time_from_fill_to_terminal_ms").mapM (intOf forms)
    mfeR := ← (given payload "mfe_r").mapM (floatOf forms)
    maeR := ← (given payload "mae_r").mapM (floatOf forms)
    priceGrossR := ← (given payload "price_gross_r").mapM (floatOf forms)
    executionCostR := ← (given payload "execution_cost_r").mapM (floatOf forms)
    netRExFunding := ← (given payload "net_r_ex_funding").mapM (floatOf forms)
    fundingAccounting := fundingAccounting
    netRAfterFunding := ← (given payload "net_r_after_funding").mapM (floatOf forms)
    coverage := coverage
    pathResolution := textOf forms (getOr payload "path_resolution" (.str ""))
    executionPathModel := textOf forms (getOr payload "execution_path_model" (.str ""))
    outcomeCheckpoints := checkpoints
    attribution := attribution
    featureEvidenceHash := textOf forms (getOr payload "feature_evidence_hash" (.str ""))
    policyVersion := textOf forms (getOr payload "policy_version" (.str ""))
    configHash := textOf forms (getOr payload "config_hash" (.str ""))
    forwardEvidenceVersion := textOf forms
      (getOr payload "forward_evidence_version" (.str marketWatchEvidenceVersion))
    persistedAtMs := ← (given payload "persisted_at_ms").mapM (intOf forms) }

/-- The identity under which a dictionary is read: the one it names, or that of its content. -/
def embeddedId (requireEmbeddedIdentity : Bool) (payload : List (String × Json)) :
    Except CodecFault String := do
  let raw := getOr payload "evaluation_id" .null
  refuse (requireEmbeddedIdentity = true ∧ (raw = .null ∨ forms.strip (textOf forms raw) = ""))
    (.identity "Stored shadow evaluation JSON missing mandatory embedded evaluation_id")
  if Json.truthy raw then return textOf forms raw else computeDictId forms payload

def deserializeTacticalShadowEvaluation (requireEmbeddedIdentity : Bool) (text : Json) :
    Except CodecFault TacticalShadowEvaluationV2 := do
  let payload ← membersOf text
  let evaluationId ← embeddedId forms requireEmbeddedIdentity payload
  let evaluation ← TacticalShadowEvaluationV2.read forms evaluationId payload
  validateTacticalShadowEvaluation forms evaluation
  return evaluation

end

end QuantAgent.MarketWatch.Shadow.Codec
