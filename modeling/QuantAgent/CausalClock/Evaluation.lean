/-
This file embeds the claimed causal clock: a calibration bounds the true UTC of every instant, and
the decision at a fixed origin is only eligible when its lower bound lies beyond the upper bounds of
everything that it claims to have known.

Integers are those of nanoseconds. A caller that passes values of another type is not modelled.
-/

import QuantAgent.Research.Models

namespace QuantAgent.CausalClock

def nanoseconds : ℤ := 1000000000

def maxCalibrationAgeNs : ℤ := 60 * nanoseconds

def maxReceiverErrorNs : ℤ := 10000000

def decisionGuardNs : ℤ := 1000000

inductive Role where
  | point
  | completedInterval
  | futureScheduleMetadata
  deriving DecidableEq

inductive Family where
  | bbo
  | oi
  | mark
  | funding
  | derived
  deriving DecidableEq

def familyReceiverAgeNs : Family → Option ℤ
  | .bbo => some (2 * nanoseconds)
  | .oi => some (10 * nanoseconds)
  | .mark => some (5 * nanoseconds)
  | .funding => some (5 * nanoseconds)
  | .derived => none

/-! ### Blocked evidence -/

def eligibleStatus : String := "CLAIMED_TIMING_ELIGIBLE"

/-- Why evidence is blocked; no reason reads like the status of an eligible decision. -/
structure EvidenceBlocked where
  code : String
  not_eligible : code ≠ eligibleStatus

def blocked (code : String) (not_eligible : code ≠ eligibleStatus := by decide) :
    EvidenceBlocked := ⟨code, not_eligible⟩

/-- `str.strip`. -/
def strip (text : String) : String :=
  String.ofList (((text.toList.dropWhile Research.isSpace).reverse.dropWhile
    Research.isSpace).reverse)

/-- `_integer`. The value is returned as it came. -/
abbrev integer (value : ℤ) (reason : EvidenceBlocked) (minimum : ℤ := 0) :
    Except EvidenceBlocked Unit :=
  refuse (value < minimum) reason

/-- `_identity`. The value is returned as it came. -/
abbrev identity (value : String) (reason : EvidenceBlocked) : Except EvidenceBlocked Unit :=
  refuse (value = "" ∨ strip value ≠ value) reason

/-! ### The predeclared sources -/

structure SourceRequirement where
  sourceId : String
  family : Family

structure PredeclaredSourceSet where
  contractId : String
  originUtcNs : ℤ
  required : List SourceRequirement

def identitiesFrom :
    List SourceRequirement → List (String × Family) →
      Except EvidenceBlocked (List (String × Family))
  | [], result => .ok result
  | requirement :: requirements, result => do
    identity requirement.sourceId (blocked "REQUIRED_SOURCE_ID_INVALID")
    refuse (requirement.sourceId ∈ result.map Prod.fst) (blocked "REQUIRED_SOURCE_DUPLICATE")
    identitiesFrom requirements (result ++ [(requirement.sourceId, requirement.family)])

/-- `PredeclaredSourceSet.identities`. -/
def PredeclaredSourceSet.identities (sources : PredeclaredSourceSet) (fixedOriginUtcNs : ℤ) :
    Except EvidenceBlocked (List (String × Family)) := do
  identity sources.contractId (blocked "REQUIRED_CONTRACT_ID_INVALID")
  integer sources.originUtcNs (blocked "REQUIRED_ORIGIN_INVALID")
  refuse (sources.originUtcNs ≠ fixedOriginUtcNs) (blocked "REQUIRED_ORIGIN_MISMATCH")
  refuse (sources.required = []) (blocked "REQUIRED_SOURCE_SET_INVALID")
  identitiesFrom sources.required []

/-! ### The clock -/

structure UtcBounds where
  lowerNs : ℤ
  upperNs : ℤ

structure ClockCalibration where
  bootId : String
  anchorMonoNs : ℤ
  anchorUtcNs : ℤ
  initialErrorNs : ℤ
  driftPpb : ℤ
  instrumentationErrorNs : ℤ := 0
  maxAgeNs : ℤ := maxCalibrationAgeNs

namespace ClockCalibration

variable (clock : ClockCalibration)

/-- The error of the calibration once that much time has elapsed. -/
def errorAfter (elapsed : ℤ) : ℤ :=
  clock.initialErrorNs + clock.instrumentationErrorNs +
    (elapsed * clock.driftPpb + nanoseconds - 1) / nanoseconds

/-- `ClockCalibration.bounds`. -/
def bounds (monoNs : ℤ) : Except EvidenceBlocked UtcBounds := do
  identity clock.bootId (blocked "CLOCK_BOOT_INVALID")
  integer clock.anchorMonoNs (blocked "CLOCK_ANCHOR_INVALID")
  integer clock.anchorUtcNs (blocked "CLOCK_ANCHOR_INVALID")
  integer clock.initialErrorNs (blocked "CLOCK_ERROR_UNKNOWN")
  integer clock.instrumentationErrorNs (blocked "CLOCK_ERROR_UNKNOWN")
  integer clock.driftPpb (blocked "CLOCK_DRIFT_UNKNOWN")
  integer monoNs (blocked "CLOCK_INSTANT_INVALID")
  integer clock.maxAgeNs (blocked "CLOCK_AGE_INVALID") 1
  refuse (maxCalibrationAgeNs < clock.maxAgeNs) (blocked "CLOCK_AGE_UNQUALIFIED")
  let elapsed := monoNs - clock.anchorMonoNs
  refuse (¬ (0 ≤ elapsed ∧ elapsed ≤ clock.maxAgeNs)) (blocked "CLOCK_CALIBRATION_EXPIRED")
  let error := clock.errorAfter elapsed
  refuse (maxReceiverErrorNs < error) (blocked "CLOCK_ERROR_EXCESS")
  let center := clock.anchorUtcNs + elapsed
  .ok ⟨center - error, center + error⟩

end ClockCalibration

/-! ### The policy of a source -/

inductive Continuity where
  | contiguous
  | gapped
  | recoveryRequired
  deriving DecidableEq

structure SourcePolicy where
  sourceId : String
  family : Family
  connectionId : String
  epochId : String
  epochStartMonoNs : ℤ
  receiverMaxAgeNs : ℤ
  continuity : Continuity := .contiguous
  epochEndMonoNs : Option ℤ := none
  sampleMaxAgeNs : Option ℤ := none

namespace SourcePolicy

variable (policy : SourcePolicy)

def checkEpochEnd (decisionMonoNs : ℤ) : Except EvidenceBlocked Unit :=
  match policy.epochEndMonoNs with
  | none => .ok ()
  | some epochEnd => do
    integer epochEnd (blocked "POLICY_EPOCH_END_INVALID")
    refuse (epochEnd < policy.epochStartMonoNs ∨ epochEnd < decisionMonoNs)
      (blocked "POLICY_EPOCH_ENDED")

def checkSampleCap : Except EvidenceBlocked Unit :=
  match policy.sampleMaxAgeNs with
  | none => refuse (policy.family = .oi) (blocked "POLICY_SAMPLE_CAP_MISSING")
  | some sampleCap => do
    integer sampleCap (blocked "POLICY_SAMPLE_CAP_INVALID") 1
    refuse (policy.family = .oi ∧ 10 * nanoseconds < sampleCap)
      (blocked "POLICY_SAMPLE_CAP_TOO_WEAK")

/-- `SourcePolicy.validate`. -/
def validate (expectedId : String) (decisionMonoNs : ℤ) : Except EvidenceBlocked Unit := do
  identity policy.sourceId (blocked "POLICY_SOURCE_ID_INVALID")
  refuse (policy.sourceId ≠ expectedId) (blocked "POLICY_SOURCE_MISMATCH")
  identity policy.connectionId (blocked "POLICY_CONNECTION_UNKNOWN")
  identity policy.epochId (blocked "POLICY_EPOCH_UNKNOWN")
  integer policy.epochStartMonoNs (blocked "POLICY_EPOCH_START_INVALID")
  policy.checkEpochEnd decisionMonoNs
  refuse (policy.continuity ≠ .contiguous) (blocked "POLICY_EPOCH_NOT_CONTIGUOUS")
  integer policy.receiverMaxAgeNs (blocked "POLICY_RECEIVER_CAP_MISSING") 1
  refuse (∃ limit ∈ familyReceiverAgeNs policy.family, limit < policy.receiverMaxAgeNs)
    (blocked "POLICY_RECEIVER_CAP_TOO_WEAK")
  policy.checkSampleCap

end SourcePolicy

/-! ### The evidence of a source -/

structure SourceEvidence where
  sourceId : String
  bootId : String
  connectionId : String
  epochId : String
  firstByteMonoNs : Option ℤ
  completeMonoNs : Option ℤ
  validatedMonoNs : Option ℤ
  rawAckMonoNs : Option ℤ
  manifestAckMonoNs : Option ℤ
  admissionMonoNs : Option ℤ
  role : Role := .point
  economicEndUpperUtcNs : Option ℤ := none
  scheduledFutureUtcNs : Option ℤ := none
  sampleLowerUtcNs : Option ℤ := none
  sampleUpperUtcNs : Option ℤ := none

namespace SourceEvidence

variable (evidence : SourceEvidence)

def intervalAvailability (availability : ℤ) : Except EvidenceBlocked ℤ :=
  match evidence.role, evidence.economicEndUpperUtcNs with
  | .completedInterval, none => .error (blocked "SOURCE_ECONOMIC_END_UNKNOWN")
  | .completedInterval, some economicEnd => do
    integer economicEnd (blocked "SOURCE_ECONOMIC_END_INVALID")
    .ok (max availability economicEnd)
  | _, some _ => .error (blocked "SOURCE_POINT_INTERVAL_CONFLICT")
  | _, none => .ok availability

def checkSchedule : Except EvidenceBlocked Unit :=
  match evidence.scheduledFutureUtcNs with
  | none => .ok ()
  | some scheduled => integer scheduled (blocked "SOURCE_FUNDING_SCHEDULE_INVALID")

def checkSample (policy : SourcePolicy) (complete decision : UtcBounds) :
    Except EvidenceBlocked Unit :=
  match policy.sampleMaxAgeNs, evidence.sampleLowerUtcNs, evidence.sampleUpperUtcNs with
  | none, none, none => .ok ()
  | cap, some lower, some upper => do
    integer lower (blocked "SOURCE_SAMPLE_CLOCK_INVALID")
    integer upper (blocked "SOURCE_SAMPLE_CLOCK_INVALID")
    refuse (upper < lower ∨ complete.upperNs < upper) (blocked "SOURCE_SAMPLE_TIME_INCOHERENT")
    match cap with
    | none => .error (blocked "POLICY_SAMPLE_CAP_MISSING")
    | some sampleMaxAgeNs =>
      refuse (sampleMaxAgeNs < decision.upperNs - lower) (blocked "SOURCE_SAMPLE_STALE")
  | _, _, _ => .error (blocked "SOURCE_SAMPLE_CLOCK_UNKNOWN")

/-- `SourceEvidence.latest_claimed_utc_ns`. -/
def latestClaimedUtcNs (clock : ClockCalibration) (policy : SourcePolicy) (decisionMonoNs : ℤ) :
    Except EvidenceBlocked ℤ := do
  identity evidence.sourceId (blocked "SOURCE_ID_INVALID")
  identity evidence.bootId (blocked "SOURCE_BOOT_INVALID")
  refuse (evidence.bootId ≠ clock.bootId) (blocked "SOURCE_BOOT_MISMATCH")
  identity evidence.connectionId (blocked "SOURCE_CONNECTION_INVALID")
  refuse (evidence.connectionId ≠ policy.connectionId) (blocked "SOURCE_EPOCH_MISMATCH")
  identity evidence.epochId (blocked "SOURCE_EPOCH_INVALID")
  refuse (evidence.epochId ≠ policy.epochId) (blocked "SOURCE_EPOCH_MISMATCH")
  policy.validate evidence.sourceId decisionMonoNs
  match evidence.firstByteMonoNs, evidence.completeMonoNs, evidence.validatedMonoNs,
      evidence.rawAckMonoNs, evidence.manifestAckMonoNs, evidence.admissionMonoNs with
  | some first, some complete, some valid, some raw, some manifest, some admitted => do
    for point in [first, complete, valid, raw, manifest, admitted] do
      integer point (blocked "SOURCE_BARRIER_INVALID")
    refuse (¬ (policy.epochStartMonoNs ≤ first ∧ first ≤ complete ∧ complete ≤ valid ∧
        valid ≤ raw ∧ raw ≤ manifest ∧ manifest < admitted))
      (blocked "SOURCE_BARRIER_OR_EPOCH_ORDER")
    refuse (∃ epochEnd ∈ policy.epochEndMonoNs, epochEnd < admitted) (blocked "SOURCE_EPOCH_ENDED")
    let firstBounds ← clock.bounds first
    let completeBounds ← clock.bounds complete
    let validBounds ← clock.bounds valid
    let rawBounds ← clock.bounds raw
    let manifestBounds ← clock.bounds manifest
    let admittedBounds ← clock.bounds admitted
    let availability := [completeBounds, validBounds, rawBounds, manifestBounds,
      admittedBounds].foldl (fun latest bounds => max latest bounds.upperNs) firstBounds.upperNs
    let decision ← clock.bounds decisionMonoNs
    refuse (policy.receiverMaxAgeNs < decision.upperNs - completeBounds.lowerNs)
      (blocked "SOURCE_RECEIVER_STALE")
    let availability ← evidence.intervalAvailability availability
    evidence.checkSchedule
    evidence.checkSample policy completeBounds decision
    .ok availability
  | _, _, _, _, _, _ => .error (blocked "SOURCE_FULL_CLOCK_OR_ACK_MISSING")

end SourceEvidence

/-! ### The decision -/

structure Decision where
  status : String
  fixedOriginUtcNs : ℤ
  fixedDecisionMonoNs : ℤ
  requiredUpperUtcNs : Option ℤ
  blockedSource : Option String := none

def Decision.claimedTimingEligible (decision : Decision) : Prop :=
  decision.status = eligibleStatus

/-- The ways out of the evaluation before its end: evidence is blocked, a record's source has no
declared family, or a decision is returned from within the loop. -/
inductive Halt where
  | blocked (reason : EvidenceBlocked)
  | key (sourceId : String)
  | returned (decision : Decision)

structure KeyError where
  sourceId : String

section

variable (clock : ClockCalibration) (sourcePolicies : List (String × SourcePolicy))
  (families : List (String × Family)) (fixedOriginUtcNs fixedDecisionMonoNs : ℤ)

def stop (reason : EvidenceBlocked) (source : Option String) : Decision where
  status := reason.code
  fixedOriginUtcNs := fixedOriginUtcNs
  fixedDecisionMonoNs := fixedDecisionMonoNs
  requiredUpperUtcNs := none
  blockedSource := source

/-- The body of the loop over the records. -/
def checkRecord (ready admitted required : ℤ) (record : SourceEvidence) : Except Halt ℤ :=
  match sourcePolicies.lookup record.sourceId with
  | none => .error (.blocked (blocked "SOURCE_POLICY_MISSING"))
  | some policy =>
    match families.lookup record.sourceId with
    | none => .error (.key record.sourceId)
    | some family => do
      refuse (policy.family ≠ family) (.blocked (blocked "SOURCE_FAMILY_CONTRACT_MISMATCH"))
      match record.validatedMonoNs, record.admissionMonoNs with
      | some _, some recordAdmitted => do
        refuse (ready < recordAdmitted ∨ admitted < ready)
          (.blocked (blocked "FEATURE_PRECEDES_SOURCE_ADMISSION"))
        let latest ← (record.latestClaimedUtcNs clock policy fixedDecisionMonoNs).mapError .blocked
        .ok (max required latest)
      | _, _ => .error (.blocked (blocked "SOURCE_ADMISSION_INVALID"))

def checkRecords (ready admitted : ℤ) : ℤ → List SourceEvidence → Except Halt ℤ
  | required, [] => .ok required
  | required, record :: records =>
    match checkRecord clock sourcePolicies families fixedDecisionMonoNs ready admitted required
        record with
    | .ok required => checkRecords ready admitted required records
    | .error (.blocked reason) => .error
        (.returned (stop fixedOriginUtcNs fixedDecisionMonoNs reason (some record.sourceId)))
    | .error halt => .error halt

def checkCoverage (records : List SourceEvidence) : Except EvidenceBlocked Unit := do
  let ids := records.map fun record => record.sourceId
  for sourceId in ids do
    identity sourceId (blocked "SOURCE_ID_INVALID")
  refuse (¬ ids.Nodup) (blocked "DUPLICATE_SOURCE_ID")
  refuse (¬ families.map Prod.fst ⊆ ids) (blocked "REQUIRED_SOURCE_MISSING")
  refuse (¬ ids ⊆ families.map Prod.fst) (blocked "UNDECLARED_SOURCE")
  for sourceId in sourcePolicies.map Prod.fst do
    identity sourceId (blocked "POLICY_ID_INVALID")
  refuse (¬ (families.map Prod.fst ⊆ sourcePolicies.map Prod.fst ∧
      sourcePolicies.map Prod.fst ⊆ families.map Prod.fst))
    (blocked "REQUIRED_POLICY_COVERAGE_MISMATCH")

end

/-- The body of the outer `try`. -/
def evaluate (clock : ClockCalibration) (records : List SourceEvidence)
    (sourcePolicies : List (String × SourcePolicy)) (predeclaredSources : PredeclaredSourceSet)
    (fixedOriginUtcNs fixedDecisionMonoNs : ℤ)
    (featureReadyMonoNs featureAdmissionMonoNs : Option ℤ) : Except Halt Decision := do
  (integer fixedOriginUtcNs (blocked "ORIGIN_INVALID")).mapError .blocked
  (integer fixedDecisionMonoNs (blocked "DECISION_INVALID")).mapError .blocked
  let families ← (predeclaredSources.identities fixedOriginUtcNs).mapError .blocked
  refuse (records = []) (.blocked (blocked "REQUIRED_SOURCE_MISSING"))
  match featureReadyMonoNs, featureAdmissionMonoNs with
  | some ready, some admitted => do
    (integer ready (blocked "FEATURE_READY_INVALID")).mapError .blocked
    (integer admitted (blocked "FEATURE_ADMISSION_INVALID")).mapError .blocked
    refuse (admitted < ready) (.blocked (blocked "FEATURE_ADMISSION_PRECEDES_READY"))
    let decision ← (clock.bounds fixedDecisionMonoNs).mapError .blocked
    refuse (decision.lowerNs < fixedOriginUtcNs)
      (.blocked (blocked "DECISION_PRECEDES_FIXED_ORIGIN"))
    (checkCoverage sourcePolicies families records).mapError .blocked
    let readyBounds ← (clock.bounds ready).mapError .blocked
    let admittedBounds ← (clock.bounds admitted).mapError .blocked
    let latest ← checkRecords clock sourcePolicies families fixedOriginUtcNs fixedDecisionMonoNs
      ready admitted (max readyBounds.upperNs admittedBounds.upperNs) records
    let required := latest + decisionGuardNs
    .ok {
      status := if decision.lowerNs < required then "NO_ACTION_LATE_INFORMATION"
        else eligibleStatus
      fixedOriginUtcNs := fixedOriginUtcNs
      fixedDecisionMonoNs := fixedDecisionMonoNs
      requiredUpperUtcNs := some required }
  | _, _ => .error (.blocked (blocked "FEATURE_ADMISSION_UNKNOWN"))

def evaluateFixedOrigin (clock : ClockCalibration) (records : List SourceEvidence)
    (sourcePolicies : List (String × SourcePolicy)) (predeclaredSources : PredeclaredSourceSet)
    (fixedOriginUtcNs fixedDecisionMonoNs : ℤ)
    (featureReadyMonoNs featureAdmissionMonoNs : Option ℤ) : Except KeyError Decision :=
  match evaluate clock records sourcePolicies predeclaredSources fixedOriginUtcNs
      fixedDecisionMonoNs featureReadyMonoNs featureAdmissionMonoNs with
  | .ok decision => .ok decision
  | .error (.returned decision) => .ok decision
  | .error (.blocked reason) => .ok (stop fixedOriginUtcNs fixedDecisionMonoNs reason none)
  | .error (.key sourceId) => .error ⟨sourceId⟩

end QuantAgent.CausalClock
