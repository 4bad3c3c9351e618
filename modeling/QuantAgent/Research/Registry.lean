/-
This file embeds the research registry of one instance: the validation of its contents, what each
public operation would commit, the envelope that is written, and the reading of it back.
-/

import QuantAgent.Library.Dict
import QuantAgent.Research.Reading

namespace QuantAgent.Research

variable [Platform]

/-! ### Contents -/

structure Contents where
  protocols : Dict ExperimentMetadata := ∅
  evidence : Dict EvidenceReference := ∅
  events : List DecisionEvent := []

def p6DecisionSource : String := "P6_FORMAL_ECONOMIC_QUALIFICATION"

def p6ResultEvidenceType : String := "P6_ECONOMIC_QUALIFICATION_RESULT"

def registrySchemaVersion : String := "1.0.0"

def legalTransitions : DecisionStatus → List DecisionStatus
  | .proposed => [.registered]
  | .registered => [.statisticallyQualified, .rejected, .frozenArchive]
  | .statisticallyQualified => [.economicallyQualified, .rejected, .frozenArchive]
  | .economicallyQualified => [.frozenArchive]
  | .rejected => [.frozenArchive]
  | .frozenArchive => []

def corruption (message : String) : Fault := ⟨.corruption, message⟩

/-- What `_validate_state` has found in the events so far. -/
structure Walk where
  statuses : String → DecisionStatus := fun _ => .proposed
  registrationCounts : String → ℕ := fun _ => 0
  priorHash : Option String := none
  read : ℕ := 0

namespace Contents

variable (contents : Contents)

def BindsEvidence (event : DecisionEvent) : Prop :=
  (∃ resultId ∈ event.economicResultId, ∃ reference ∈ contents.evidence.lookup resultId,
    reference.evidenceType = p6ResultEvidenceType ∧ reference.completeness = .complete) ∧
  ∃ protocol ∈ contents.protocols.lookup event.experimentRevisionId,
    protocol.benchmark ≠ .pending

instance (event : DecisionEvent) : Decidable (contents.BindsEvidence event) :=
  inferInstanceAs (Decidable ((∃ resultId ∈ event.economicResultId, ∃ reference ∈
    contents.evidence.lookup resultId, _) ∧ ∃ protocol ∈ _, _))

/-- One turn of the loop of `_validate_state`. -/
def checkEvent (walk : Walk) (event : DecisionEvent) : Except Fault Walk := do
  refuse (event.sequence ≠ walk.read + 1)
    (corruption "decision event sequence is not contiguous")
  refuse (event.previousEventHash ≠ walk.priorHash)
    (corruption "decision event hash chain is broken")
  refuse (event.experimentRevisionId ∉ contents.protocols)
    (corruption "decision event references unknown protocol")
  let current := walk.statuses event.experimentRevisionId
  refuse (event.previousStatus ≠ current)
    (corruption "decision event previous status is inconsistent")
  refuse (event.newStatus ∉ legalTransitions current)
    (corruption "decision event contains an illegal transition")
  refuse (event.newStatus = .economicallyQualified ∧ (event.source ≠ p6DecisionSource ∨
      event.previousStatus ≠ .statisticallyQualified ∨ event.economicResultId = none))
    (corruption "economic qualification lacks the dedicated P6 decision binding")
  refuse (event.newStatus = .economicallyQualified ∧ ¬ contents.BindsEvidence event)
    (corruption "economic qualification references invalid P6 evidence")
  refuse (event.newStatus = .registered ∧ event.evidenceIds ≠ [])
    (corruption "registration event cannot bind result evidence")
  refuse (event.newStatus ≠ .registered ∧ event.evidenceIds = [])
    (corruption "decision event is missing required evidence")
  refuse (¬ event.evidenceIds.Nodup)
    (corruption "decision event contains duplicate evidence")
  refuse (∃ evidenceId ∈ event.evidenceIds, evidenceId ∉ contents.evidence)
    (corruption "decision event references unknown evidence")
  refuse (∃ evidenceId ∈ event.evidenceIds, ∃ reference ∈ contents.evidence.lookup evidenceId,
      reference.completeness ≠ .complete)
    (corruption "decision event references incomplete evidence")
  refuse (∃ resultId ∈ event.statisticalResultId, resultId ∉ event.evidenceIds)
    (corruption "result reference is not bound to decision event")
  refuse (∃ resultId ∈ event.economicResultId, resultId ∉ event.evidenceIds)
    (corruption "result reference is not bound to decision event")
  .ok {
    statuses := Function.update walk.statuses event.experimentRevisionId event.newStatus
    registrationCounts := if event.newStatus = .registered then
        Function.update walk.registrationCounts event.experimentRevisionId
          (walk.registrationCounts event.experimentRevisionId + 1)
      else walk.registrationCounts
    priorHash := some event.eventHash
    read := walk.read + 1 }

/-- `_validate_state`: the status of each protocol. -/
def validateState : Except Fault (String → DecisionStatus) := do
  let walk ← contents.events.foldlM contents.checkEvent {}
  refuse (∃ key ∈ contents.protocols.keys, walk.registrationCounts key ≠ 1)
    (corruption "every protocol requires exactly one registration event")
  .ok walk.statuses

def payload : List (String × Json) :=
  [("protocols", .obj (contents.protocols.toMembers fun protocol => .obj protocol.toDict)),
    ("evidence", .obj (contents.evidence.toMembers fun evidence => .obj evidence.toDict)),
    ("decision_events", .arr (contents.events.map fun event => .obj event.toDict))]

end Contents

/-! ### The file -/

/-- What is read from the file. -/
structure Stored where
  contents : Contents
  generation : ℕ
  contentHash : String

def core (generation : ℕ) (payload : Json) : List (String × Json) :=
  [("schema_version", .str registrySchemaVersion), ("generation", .int generation),
    ("payload", payload)]

def envelope (generation : ℕ) (payload : Json) : Except Fault (List (String × Json) × String) := do
  let contentHash ← canonicalSha256 (.obj (core generation payload))
  .ok (core generation payload ++ [("content_hash", .str contentHash)], contentHash)

/-- What is wrong with the records of a registry makes it a corrupt one. -/
def asCorruption {Value : Type} : Except Fault Value → Except Fault Value
  | .ok value => .ok value
  | .error fault =>
    if fault.kind = .corruption ∨ fault.kind = .attribute then .error fault
    else .error (corruption ("invalid registry state: " ++ fault.message))

def envelopeFields : List String := ["schema_version", "generation", "payload", "content_hash"]

def payloadFields : List String := ["protocols", "evidence", "decision_events"]

def intact (expected : List String) (mismatch : String) :
    Json → Except Fault (List (String × Json))
  | .obj members =>
    if (members.map Prod.fst).toFinset = expected.toFinset then .ok members
    else .error (corruption mismatch)
  | _ => .error (corruption mismatch)

def generationOf : Json → Except Fault ℕ
  | .int generation =>
    if generation < 1 then .error (corruption "registry generation must be a positive integer")
    else .ok generation.toNat
  | _ => .error (corruption "registry generation must be a positive integer")

def objectOf : Json → Except Fault (List (String × Json))
  | .obj members => .ok members
  | _ => .error ⟨.type, "protocols and evidence must be objects"⟩

def listOf : Json → Except Fault (List Json)
  | .arr items => .ok items
  | _ => .error ⟨.type, "decision_events must be a list"⟩

def readContents (payload : List (String × Json)) : Except Fault Contents := do
  let protocolMembers ← objectOf (← entry payload "protocols")
  let evidenceMembers ← objectOf (← entry payload "evidence")
  let items ← listOf (← entry payload "decision_events")
  let protocols ← Dict.addMembers ExperimentMetadata.fromDict ∅ protocolMembers
  let evidence ← Dict.addMembers EvidenceReference.fromDict ∅ evidenceMembers
  let events ← items.mapM DecisionEvent.fromDict
  refuse (∃ key ∈ protocols.keys, ∃ protocol ∈ protocols.lookup key,
      key ≠ protocol.experimentRevisionId)
    (valueError "protocol map key does not match revision identity")
  refuse (∃ key ∈ evidence.keys, ∃ reference ∈ evidence.lookup key, key ≠ reference.identity)
    (valueError "evidence map key does not match evidence identity")
  let contents : Contents := ⟨protocols, evidence, events⟩
  let _ ← contents.validateState
  .ok contents

/-- `_read_state`, from the value that the file's text stands for. -/
def readState (raw : Json) : Except Fault Stored := do
  let members ← intact envelopeFields "registry envelope schema mismatch" raw
  refuse ((← entry members "schema_version") ≠ .str registrySchemaVersion)
    (corruption "unsupported registry schema")
  let generation ← generationOf (← entry members "generation")
  let payload ← entry members "payload"
  let payloadMembers ← intact payloadFields "registry payload schema mismatch" payload
  let contentHash ← canonicalSha256 (.obj (core generation payload))
  refuse ((← entry members "content_hash") ≠ .str contentHash)
    (corruption "registry content hash mismatch")
  let contents ← asCorruption (readContents payloadMembers)
  .ok ⟨contents, generation, contentHash⟩

/-! ### Operations -/

inductive Reference where
  | byId (evidenceId : String)
  | record (evidence : EvidenceReference)

/-- What an operation finds outside the registry: the time, the digests of local files, and the
check of an attestation against the artifacts it binds. -/
structure Surroundings where
  utcNow : String
  fileDigest : String → Option String
  validateEconomicAttestation : EconomicDecisionAttestation → ExperimentMetadata →
    Dict EvidenceReference → Except String Unit

inductive Operation where
  | registerExperiment (experiment : ExperimentMetadata) (allowUpdate : Bool)
      (actor source : String) (registeredAtUtc : Option String)
  | registerEvidence (evidence : EvidenceReference)
  | updateDecisionStatus (experimentRevisionId newStatus : String)
      (evidenceReferences : List Reference) (reason actor source : String)
      (decidedAtUtc statisticalResultId economicResultId : Option String)
  | recordEconomicQualification (attestation : EconomicDecisionAttestation)
      (evidenceReferences : List Reference) (reason actor : String)
      (decidedAtUtc : Option String)
  | save

/-- What an operation commits; nothing when the record is there already. -/
inductive Attempt where
  | unchanged
  | commit (contents : Contents)

/-- The time that was given, unless it is missing or empty. -/
def timeOr (given : Option String) (utcNow : String) : String :=
  match given with
  | some time => if time = "" then utcNow else time
  | none => utcNow

def validateEvidence (surroundings : Surroundings) (evidence : EvidenceReference)
    (verifyLocal requireComplete : Bool) : Except Fault Unit := do
  refuse (requireComplete = true ∧ evidence.completeness ≠ .complete)
    ⟨.evidence, "evidence " ++ evidence.logicalId ++ " is not complete: " ++
      evidence.completeness.text⟩
  if verifyLocal then
    match evidence.pathOrUri.bind localPath with
    | none => .ok ()
    | some path =>
      match surroundings.fileDigest path with
      | none => .error ⟨.evidence, "local evidence is unavailable: " ++
          evidence.pathOrUri.getD ""⟩
      | some digest =>
        if digest ≠ evidence.contentSha256 then
          .error ⟨.evidence, "local evidence hash mismatch: " ++ evidence.pathOrUri.getD ""⟩
        else .ok ()
  else .ok ()

def Reference.resolve (evidence : Dict EvidenceReference) :
    Reference → Except Fault EvidenceReference
  | .record item => .ok item
  | .byId evidenceId =>
    match evidence.lookup evidenceId with
    | some item => .ok item
    | none => .error ⟨.evidence, "unknown evidence reference: " ++ evidenceId⟩

def stageEvidence (surroundings : Surroundings) :
    Dict EvidenceReference → List Reference → Except Fault (Dict EvidenceReference × List String)
  | evidence, [] => .ok (evidence, [])
  | evidence, reference :: references => do
    let item ← reference.resolve evidence
    validateEvidence surroundings item true true
    let evidenceId ← item.evidenceId
    refuse (∃ previous ∈ evidence.lookup evidenceId, previous ≠ item)
      (corruption "evidence hash collision")
    let (staged, evidenceIds) ← stageEvidence surroundings (evidence.insert evidenceId item)
      references
    .ok (staged, evidenceId :: evidenceIds)

namespace Contents

variable (contents : Contents) (surroundings : Surroundings)

def getStatus (experimentRevisionId : String) : Except Fault DecisionStatus := do
  refuse (experimentRevisionId ∉ contents.protocols)
    ⟨.key, "Experiment revision " ++ experimentRevisionId ++ " not found"⟩
  let statuses ← contents.validateState
  .ok (statuses experimentRevisionId)

def nextSequence : ℤ := contents.events.length + 1

def lastEventHash : Option String := contents.events.getLast?.map DecisionEvent.eventHash

def registerExperiment (experiment : ExperimentMetadata) (allowUpdate : Bool)
    (actor source : String) (registeredAtUtc : Option String) : Except Fault Attempt := do
  refuse (allowUpdate = true) ⟨.contract,
    "allow_update semantic overwrite is forbidden; register a new revision"⟩
  let revisionId := experiment.experimentRevisionId
  match contents.protocols.lookup revisionId with
  | some existing =>
    if Json.obj existing.semanticPayload ≠ .obj experiment.semanticPayload then
      .error (corruption "protocol hash collision with different semantics")
    else .ok .unchanged
  | none => do
    let event ← DecisionEvent.create {
      sequence := contents.nextSequence
      experimentRevisionId := revisionId
      previousStatus := .proposed
      newStatus := .registered
      decidedAtUtc := timeOr registeredAtUtc surroundings.utcNow
      evidenceIds := []
      reason := "immutable protocol revision registered"
      actor := actor
      source := source
      previousEventHash := contents.lastEventHash }
    .ok (.commit { contents with
      protocols := contents.protocols.insert revisionId experiment
      events := contents.events ++ [event] })

def registerEvidence (evidence : EvidenceReference) : Except Fault Attempt := do
  validateEvidence surroundings evidence (evidence.completeness ≠ .prohibited) false
  let evidenceId ← evidence.evidenceId
  match contents.evidence.lookup evidenceId with
  | some existing =>
    if existing ≠ evidence then .error (corruption "evidence hash collision")
    else .ok .unchanged
  | none =>
    .ok (.commit { contents with evidence := contents.evidence.insert evidenceId evidence })

def updateDecisionStatus (experimentRevisionId newStatus : String)
    (evidenceReferences : List Reference) (reason actor source : String)
    (decidedAtUtc statisticalResultId economicResultId : Option String) :
    Except Fault Attempt := do
  refuse (experimentRevisionId ∉ contents.protocols)
    ⟨.key, "Experiment revision " ++ experimentRevisionId ++ " not found"⟩
  let target ← DecisionStatus.ofText newStatus
  let current ← contents.getStatus experimentRevisionId
  refuse (target ∉ legalTransitions current) ⟨.transition,
    "illegal decision transition " ++ current.text ++ " -> " ++ target.text⟩
  refuse (target = .economicallyQualified) ⟨.transition,
    "ECONOMICALLY_QUALIFIED is disabled until the P6 evidence contract exists"⟩
  refuse (evidenceReferences.isEmpty = true)
    ⟨.evidence, "decision transition requires immutable evidence"⟩
  refuse (¬ HasText reason ∨ ¬ HasText actor ∨ ¬ HasText source)
    ⟨.transition, "decision reason, actor, and source are required"⟩
  let (evidence, evidenceIds) ← stageEvidence surroundings contents.evidence evidenceReferences
  refuse (¬ evidenceIds.Nodup) ⟨.evidence, "duplicate evidence in decision transition"⟩
  refuse (∃ resultId ∈ statisticalResultId, resultId ∉ evidenceIds)
    ⟨.evidence, "statistical_result_id must be included in evidence_references"⟩
  refuse (∃ resultId ∈ economicResultId, resultId ∉ evidenceIds)
    ⟨.evidence, "economic_result_id must be included in evidence_references"⟩
  let event ← DecisionEvent.create {
    sequence := contents.nextSequence
    experimentRevisionId := experimentRevisionId
    previousStatus := current
    newStatus := target
    decidedAtUtc := timeOr decidedAtUtc surroundings.utcNow
    evidenceIds := evidenceIds
    reason := reason
    actor := actor
    source := source
    previousEventHash := contents.lastEventHash
    statisticalResultId := statisticalResultId
    economicResultId := economicResultId }
  .ok (.commit { contents with evidence := evidence, events := contents.events ++ [event] })

def recordEconomicQualification (attestation : EconomicDecisionAttestation)
    (evidenceReferences : List Reference) (reason actor : String)
    (decidedAtUtc : Option String) : Except Fault Attempt := do
  match contents.protocols.lookup attestation.experimentRevisionId with
  | none => .error ⟨.key, "Experiment revision " ++ attestation.experimentRevisionId ++
      " not found"⟩
  | some protocol => do
    let current ← contents.getStatus attestation.experimentRevisionId
    refuse (current ≠ .statisticallyQualified) ⟨.transition,
      "economic qualification requires STATISTICALLY_QUALIFIED status"⟩
    refuse (¬ HasText reason ∨ ¬ HasText actor)
      ⟨.transition, "economic decision reason and actor are required"⟩
    refuse (evidenceReferences.isEmpty = true)
      ⟨.evidence, "economic qualification requires immutable evidence"⟩
    let (evidence, evidenceIds) ← stageEvidence surroundings contents.evidence evidenceReferences
    refuse (¬ evidenceIds.Nodup) ⟨.evidence, "duplicate evidence in economic decision"⟩
    refuse (¬ ∀ expected ∈ attestation.resultEvidenceId :: attestation.requiredEvidenceIds,
        expected ∈ evidenceIds)
      ⟨.evidence, "economic decision must bind the result and every required evidence id"⟩
    (surroundings.validateEconomicAttestation attestation protocol evidence).mapError
      (Fault.mk .evidence)
    if attestation.verdict = "NOT_TESTABLE" then
      .ok (.commit { contents with evidence := evidence })
    else do
      let event ← DecisionEvent.create {
        sequence := contents.nextSequence
        experimentRevisionId := attestation.experimentRevisionId
        previousStatus := current
        newStatus := if attestation.verdict = "QUALIFIED" then .economicallyQualified
          else .rejected
        decidedAtUtc := timeOr decidedAtUtc surroundings.utcNow
        evidenceIds := evidenceIds
        reason := reason
        actor := actor
        source := p6DecisionSource
        previousEventHash := contents.lastEventHash
        economicResultId := some attestation.resultEvidenceId }
      .ok (.commit { contents with evidence := evidence, events := contents.events ++ [event] })

/-- What an operation finds of the contents in memory, up to `_commit`. -/
def attempt : Operation → Except Fault Attempt
  | .registerExperiment experiment allowUpdate actor source registeredAtUtc =>
    contents.registerExperiment surroundings experiment allowUpdate actor source registeredAtUtc
  | .registerEvidence evidence => contents.registerEvidence surroundings evidence
  | .updateDecisionStatus experimentRevisionId newStatus evidenceReferences reason actor source
      decidedAtUtc statisticalResultId economicResultId =>
    contents.updateDecisionStatus surroundings experimentRevisionId newStatus evidenceReferences
      reason actor source decidedAtUtc statisticalResultId economicResultId
  | .recordEconomicQualification attestation evidenceReferences reason actor decidedAtUtc =>
    contents.recordEconomicQualification surroundings attestation evidenceReferences reason actor
      decidedAtUtc
  | .save => .ok (.commit contents)

end Contents

/-- What `_commit` has ready before it takes the lock. -/
structure Prepared where
  contents : Contents
  encoded : Json
  generation : ℕ
  contentHash : String

/-- The part of `_commit` before the lock: the generation follows the one in memory. -/
def prepare (generation : ℕ) (contents : Contents) : Except Fault Prepared := do
  let _ ← contents.validateState
  let (members, contentHash) ← envelope (generation + 1) (.obj contents.payload)
  .ok ⟨contents, (Json.obj members).canonical, generation + 1, contentHash⟩

end QuantAgent.Research
