/-
This file embeds the records of the research registry: identities, definitions, protocols, evidence
and decision events, each with the checks of its construction, its JSON form and its hash. A record
carries the proofs of its checks.

What the records need of the platform (SHA-256, the reading of dates and of values of another type)
is a parameter.
-/

import QuantAgent.Library.Json
import QuantAgent.Library.Refusal

namespace QuantAgent.Research

/-! ### Errors and checks -/

inductive ErrorKind where
  | value
  | key
  | type
  | attribute
  | os
  | contract
  | corruption
  | stale
  | transition
  | evidence
  deriving DecidableEq

structure Fault where
  kind : ErrorKind
  message : String
  deriving DecidableEq

def valueError (message : String) : Fault := ⟨.value, message⟩

/-- `str.isspace` of one character. -/
def isSpace (character : Char) : Bool :=
  character.toNat ∈ [0x09, 0x0a, 0x0b, 0x0c, 0x0d, 0x1c, 0x1d, 0x1e, 0x1f, 0x20, 0x85, 0xa0,
    0x1680, 0x2000, 0x2001, 0x2002, 0x2003, 0x2004, 0x2005, 0x2006, 0x2007, 0x2008, 0x2009,
    0x200a, 0x2028, 0x2029, 0x202f, 0x205f, 0x3000]

/-- The text is not empty once it is stripped. -/
abbrev HasText (text : String) : Prop := text.toList.any (fun character => ! isSpace character)

/-- A match of `SHA256_PATTERN`. -/
abbrev IsSha256 (text : String) : Prop :=
  text.toList.length = 64 ∧ text.toList.all fun character =>
    ('0' ≤ character ∧ character ≤ '9') ∨ ('a' ≤ character ∧ character ≤ 'f')

/-- A check whose success is kept as a proof. -/
def demand (condition : Prop) [Decidable condition] (fault : Fault) :
    Except Fault (PLift condition) :=
  if holds : condition then .ok ⟨holds⟩ else .error fault

@[simp] theorem Except.bind_ok {Value Result : Type} (value : Value)
    (next : Value → Except Fault Result) : (Except.ok value >>= next) = next value := rfl

theorem demand_of {condition : Prop} [Decidable condition] {fault : Fault} (holds : condition) :
    demand condition fault = .ok ⟨holds⟩ :=
  dif_pos holds

theorem demand_bind_eq_ok {Result : Type} {condition : Prop} [Decidable condition]
    {fault : Fault} {next : PLift condition → Except Fault Result} {result : Result} :
    (demand condition fault >>= next) = .ok result ↔
      ∃ holds : condition, next ⟨holds⟩ = .ok result := by
  unfold demand
  by_cases holds : condition <;> simp [holds, bind, Except.bind]

def requireText (value fieldName : String) : Except Fault (PLift (HasText value)) :=
  demand _ (valueError (fieldName ++ " cannot be empty"))

def requireSha256 (value fieldName : String) : Except Fault (PLift (IsSha256 value)) :=
  demand _ (valueError (fieldName ++ " must be a lowercase SHA-256 hex digest"))

/-! ### Frozen objects -/

/-- A JSON object that does not change, with its members in the order of their keys. -/
structure FrozenDict where
  members : List (String × Json)
  sorted : Json.sortMembers (Json.canonicalMembers members) = members
  deriving DecidableEq

namespace FrozenDict

/-- `thaw_json`. -/
def thaw (dict : FrozenDict) : Json := .obj dict.members

def ofMembers (members : List (String × Json)) : FrozenDict where
  members := Json.sortMembers (Json.canonicalMembers members)
  sorted := Json.obj.inj (Json.canonical_canonical (.obj members))

/-- `FrozenDict(values)`; what is false in a condition gives the empty object. -/
def ofJson : Json → Except Fault FrozenDict
  | .obj members => .ok (ofMembers members)
  | .null | .bool false | .int 0 | .str "" | .arr [] | .float (.finite 0) => .ok (ofMembers [])
  | _ => .error ⟨.attribute, "object has no attribute 'items'"⟩

theorem canonical_thaw (dict : FrozenDict) : dict.thaw.canonical = dict.thaw :=
  congrArg Json.obj dict.sorted

theorem ofMembers_members (dict : FrozenDict) : ofMembers dict.members = dict := by
  obtain ⟨members, sorted⟩ := dict
  unfold ofMembers
  simp only [sorted]

theorem ofJson_thaw (dict : FrozenDict) : ofJson dict.thaw = .ok dict :=
  congrArg Except.ok dict.ofMembers_members

end FrozenDict

/-! ### Identities and definitions -/

structure VersionedIdentity where
  logicalId : String
  version : String
  contentSha256 : String
  logicalId_text : HasText logicalId
  version_text : HasText version
  contentSha256_digest : IsSha256 contentSha256
  deriving DecidableEq

namespace VersionedIdentity

def create (logicalId version contentSha256 : String) : Except Fault VersionedIdentity := do
  let logicalIdText ← requireText logicalId "logical_id"
  let versionText ← requireText version "version"
  let digest ← requireSha256 contentSha256 "content_sha256"
  .ok ⟨logicalId, version, contentSha256, logicalIdText.down, versionText.down, digest.down⟩

def toDict (identity : VersionedIdentity) : List (String × Json) :=
  [("logical_id", .str identity.logicalId), ("version", .str identity.version),
    ("content_sha256", .str identity.contentSha256)]

theorem create_self (identity : VersionedIdentity) :
    create identity.logicalId identity.version identity.contentSha256 = .ok identity := by
  unfold create requireText requireSha256
  rw [demand_of identity.logicalId_text, demand_of identity.version_text,
    demand_of identity.contentSha256_digest]
  rfl

end VersionedIdentity

structure FeatureDefinition where
  featureId : String
  name : String
  formula : String
  inputRequirements : List String
  parameters : FrozenDict
  bounds : Option (Double × Double)
  featureId_text : HasText featureId
  name_text : HasText name
  formula_text : HasText formula
  bounds_ordered : ∀ interval ∈ bounds, ¬ Double.Less interval.2 interval.1

namespace FeatureDefinition

def create (featureId name formula : String) (inputRequirements : List String)
    (parameters : FrozenDict) (bounds : Option (Double × Double)) :
    Except Fault FeatureDefinition := do
  let featureIdText ← requireText featureId "feature_id"
  let nameText ← requireText name "feature name"
  let formulaText ← requireText formula "feature formula"
  let ordered ← demand (∀ interval ∈ bounds, ¬ Double.Less interval.2 interval.1)
    (valueError "feature lower bound cannot exceed upper bound")
  .ok ⟨featureId, name, formula, inputRequirements, parameters, bounds, featureIdText.down,
    nameText.down, formulaText.down, ordered.down⟩

def toDict (definition : FeatureDefinition) : List (String × Json) :=
  [("feature_id", .str definition.featureId), ("name", .str definition.name),
    ("formula", .str definition.formula),
    ("input_requirements", .arr (definition.inputRequirements.map .str)),
    ("parameters", definition.parameters.thaw),
    ("bounds", definition.bounds.elim .null fun interval =>
      .arr [.float interval.1, .float interval.2])]

theorem create_self (definition : FeatureDefinition) :
    create definition.featureId definition.name definition.formula definition.inputRequirements
      definition.parameters definition.bounds = .ok definition := by
  unfold create requireText
  rw [demand_of definition.featureId_text, demand_of definition.name_text,
    demand_of definition.formula_text, demand_of definition.bounds_ordered]
  rfl

end FeatureDefinition

structure PredictionTarget where
  targetId : String
  name : String
  horizonMs : ℤ
  horizonDescription : String
  continuous : Bool
  calculationRule : String
  targetId_text : HasText targetId
  name_text : HasText name
  horizonMs_positive : 0 < horizonMs
  horizonDescription_text : HasText horizonDescription
  calculationRule_text : HasText calculationRule

namespace PredictionTarget

def create (targetId name : String) (horizonMs : ℤ) (horizonDescription : String)
    (continuous : Bool) (calculationRule : String) : Except Fault PredictionTarget := do
  let targetIdText ← requireText targetId "target_id"
  let nameText ← requireText name "target name"
  let positive ← demand (0 < horizonMs) (valueError "horizon_ms must be positive")
  let descriptionText ← requireText horizonDescription "horizon_description"
  let ruleText ← requireText calculationRule "calculation_rule"
  .ok ⟨targetId, name, horizonMs, horizonDescription, continuous, calculationRule,
    targetIdText.down, nameText.down, positive.down, descriptionText.down, ruleText.down⟩

def toDict (target : PredictionTarget) : List (String × Json) :=
  [("target_id", .str target.targetId), ("name", .str target.name),
    ("horizon_ms", .int target.horizonMs),
    ("horizon_description", .str target.horizonDescription),
    ("continuous", .bool target.continuous), ("calculation_rule", .str target.calculationRule)]

theorem create_self (target : PredictionTarget) :
    create target.targetId target.name target.horizonMs target.horizonDescription
      target.continuous target.calculationRule = .ok target := by
  unfold create requireText
  rw [demand_of target.targetId_text, demand_of target.name_text,
    demand_of target.horizonMs_positive, demand_of target.horizonDescription_text,
    demand_of target.calculationRule_text]
  rfl

end PredictionTarget

structure EvaluationMethod where
  methodName : String
  statisticalTest : String
  fwerControl : String
  significanceThreshold : Double
  parameters : FrozenDict
  methodName_text : HasText methodName
  statisticalTest_text : HasText statisticalTest
  fwerControl_text : HasText fwerControl
  significanceThreshold_inside : Double.Less (.finite 0) significanceThreshold ∧
    Double.Less significanceThreshold (.finite 1)

namespace EvaluationMethod

def create (methodName statisticalTest fwerControl : String) (significanceThreshold : Double)
    (parameters : FrozenDict) : Except Fault EvaluationMethod := do
  let methodNameText ← requireText methodName "method_name"
  let testText ← requireText statisticalTest "statistical_test"
  let controlText ← requireText fwerControl "fwer_control"
  let inside ← demand (Double.Less (.finite 0) significanceThreshold ∧
      Double.Less significanceThreshold (.finite 1))
    (valueError "significance_threshold must be between zero and one")
  .ok ⟨methodName, statisticalTest, fwerControl, significanceThreshold, parameters,
    methodNameText.down, testText.down, controlText.down, inside.down⟩

def toDict (method : EvaluationMethod) : List (String × Json) :=
  [("method_name", .str method.methodName), ("statistical_test", .str method.statisticalTest),
    ("fwer_control", .str method.fwerControl),
    ("significance_threshold", .float method.significanceThreshold),
    ("parameters", method.parameters.thaw)]

theorem create_self (method : EvaluationMethod) :
    create method.methodName method.statisticalTest method.fwerControl
      method.significanceThreshold method.parameters = .ok method := by
  unfold create requireText
  rw [demand_of method.methodName_text, demand_of method.statisticalTest_text,
    demand_of method.fwerControl_text, demand_of method.significanceThreshold_inside]
  rfl

end EvaluationMethod

/-! ### The platform -/

/-- What the records take from the platform. -/
class Platform where
  /-- The SHA-256 digest of the text of a canonical value, in lower-case hexadecimal. -/
  sha256 : Json → String
  /-- An ISO-8601 timestamp with a timezone. -/
  isTimestamp : String → Bool
  /-- The file that a path or URI names. -/
  localPath : String → Option String
  /-- `str` of a value that is not a string. -/
  repr : Json → String
  /-- `int` of a value that is not a number. -/
  parseInt : Json → Option ℤ
  /-- `float` of a value that is not a number. -/
  parseFloat : Json → Option Double

export Platform (sha256 isTimestamp localPath)

variable [Platform]

def canonicalSha256 (value : Json) : Except Fault String :=
  if value.isFinite then .ok (sha256 value.canonical)
  else .error (valueError "Out of range float values are not JSON compliant")

def validateTimestamp (value fieldName : String) :
    Except Fault (PLift (isTimestamp value = true)) :=
  demand _ (valueError (fieldName ++ " must be an ISO-8601 timestamp with a timezone"))

/-! ### Protocols -/

structure ContractFields where
  contractId : String
  version : String
  producerIdentity : String
  producerVersion : String
  rule : String
  parameters : FrozenDict

def ContractFields.semanticPayload (contract : ContractFields) : List (String × Json) :=
  [("contract_id", .str contract.contractId), ("version", .str contract.version),
    ("producer_identity", .str contract.producerIdentity),
    ("producer_version", .str contract.producerVersion), ("rule", .str contract.rule),
    ("parameters", contract.parameters.thaw)]

structure SignalProducerContract extends ContractFields where
  contractHash : String
  hashed : canonicalSha256 (.obj toContractFields.semanticPayload) = .ok contractHash

namespace SignalProducerContract

/-- The construction, with the hash left empty or declared. -/
def create (fields : ContractFields) (declared : String) :
    Except Fault SignalProducerContract :=
  match computed : canonicalSha256 (.obj fields.semanticPayload) with
  | .error fault => .error fault
  | .ok contractHash =>
    if declared = "" ∨ declared = contractHash then .ok ⟨fields, contractHash, computed⟩
    else .error (valueError ("contract_hash mismatch: declared " ++ declared ++
      ", computed " ++ contractHash))

def toDict (contract : SignalProducerContract) : List (String × Json) :=
  contract.semanticPayload ++ [("contract_hash", .str contract.contractHash)]

theorem create_self (contract : SignalProducerContract) :
    create contract.toContractFields contract.contractHash = .ok contract := by
  unfold create
  split
  · next fault failed => cases failed.symm.trans contract.hashed
  · next contractHash computed =>
    obtain rfl := Except.ok.inj (computed.symm.trans contract.hashed)
    exact if_pos (.inr rfl)

end SignalProducerContract

/-- `VersionedIdentity | SignalProducerContract`. -/
inductive ProducerContract where
  | identity (identity : VersionedIdentity)
  | contract (contract : SignalProducerContract)

def ProducerContract.toDict : ProducerContract → List (String × Json)
  | .identity versioned => versioned.toDict
  | .contract produced => produced.toDict

/-- A benchmark, or `P6_PENDING`. -/
inductive Benchmark where
  | identity (identity : VersionedIdentity)
  | pending
  deriving DecidableEq

def Benchmark.toJson : Benchmark → Json
  | .identity versioned => .obj versioned.toDict
  | .pending => .str "P6_PENDING"

structure ExperimentFields where
  experimentId : String
  name : String
  inputContract : VersionedIdentity
  featureDefinition : FeatureDefinition
  predictionTarget : PredictionTarget
  evaluationMethod : EvaluationMethod
  economicPolicy : VersionedIdentity
  costModel : VersionedIdentity
  executionModel : VersionedIdentity
  benchmark : Benchmark
  productScope : List String
  codeRevision : String
  terminalPolicy : String
  signalProducerContract : Option ProducerContract
  createdAtUtc : String
  metadata : FrozenDict

def ExperimentFields.semanticPayload (fields : ExperimentFields) : List (String × Json) :=
  [("experiment_family", .str fields.experimentId), ("name", .str fields.name),
    ("input_contract", .obj fields.inputContract.toDict),
    ("feature_definition", .obj fields.featureDefinition.toDict),
    ("prediction_target", .obj fields.predictionTarget.toDict),
    ("evaluation_method", .obj fields.evaluationMethod.toDict),
    ("economic_policy", .obj fields.economicPolicy.toDict),
    ("cost_model", .obj fields.costModel.toDict),
    ("execution_model", .obj fields.executionModel.toDict),
    ("benchmark", fields.benchmark.toJson),
    ("product_scope", .arr (fields.productScope.map .str)),
    ("code_revision", .str fields.codeRevision),
    ("terminal_policy", .str fields.terminalPolicy)] ++
  (fields.signalProducerContract.elim [] fun contract =>
    [("signal_producer_contract", .obj contract.toDict)])

def ExperimentFields.auditMembers (fields : ExperimentFields) : List (String × Json) :=
  [("created_at_utc", .str fields.createdAtUtc), ("metadata", fields.metadata.thaw)]

/-- A protocol that passed its construction. -/
structure ExperimentMetadata extends ExperimentFields where
  experimentId_text : HasText experimentId
  name_text : HasText name
  productScope_texts : productScope ≠ [] ∧ ∀ instrument ∈ productScope, HasText instrument
  codeRevision_text : HasText codeRevision
  terminalPolicy_text : HasText terminalPolicy
  createdAtUtc_timestamp : isTimestamp createdAtUtc = true
  finite : (Json.obj toExperimentFields.semanticPayload).isFinite = true

namespace ExperimentMetadata

def create (fields : ExperimentFields) : Except Fault ExperimentMetadata := do
  let experimentIdText ← requireText fields.experimentId "experiment_id"
  let nameText ← requireText fields.name "experiment name"
  let scopeTexts ← demand
    (fields.productScope ≠ [] ∧ ∀ instrument ∈ fields.productScope, HasText instrument)
    (valueError "product_scope must contain non-empty instruments")
  let codeRevisionText ← requireText fields.codeRevision "code_revision"
  let terminalPolicyText ← requireText fields.terminalPolicy "terminal_policy"
  let timestamp ← validateTimestamp fields.createdAtUtc "created_at_utc"
  let finite ← demand ((Json.obj fields.semanticPayload).isFinite = true)
    (valueError "Out of range float values are not JSON compliant")
  .ok ⟨fields, experimentIdText.down, nameText.down, scopeTexts.down, codeRevisionText.down,
    terminalPolicyText.down, timestamp.down, finite.down⟩

theorem create_self (experiment : ExperimentMetadata) :
    create experiment.toExperimentFields = .ok experiment := by
  unfold create requireText validateTimestamp
  rw [demand_of experiment.experimentId_text, demand_of experiment.name_text,
    demand_of experiment.productScope_texts, demand_of experiment.codeRevision_text,
    demand_of experiment.terminalPolicy_text, demand_of experiment.createdAtUtc_timestamp,
    demand_of experiment.finite]
  rfl

variable (experiment : ExperimentMetadata)

def protocolHash : String := sha256 (Json.obj experiment.semanticPayload).canonical

def experimentRevisionId : String := experiment.experimentId ++ "@" ++ experiment.protocolHash

def toDict : List (String × Json) :=
  [("schema_version", .str "1.0.0"),
    ("experiment_revision_id", .str experiment.experimentRevisionId),
    ("protocol_hash", .str experiment.protocolHash),
    ("semantic_payload", .obj experiment.semanticPayload),
    ("audit", .obj experiment.auditMembers)]

end ExperimentMetadata

/-! ### Evidence -/

inductive EvidenceCompleteness where
  | complete
  | partly
  | missing
  | prohibited
  deriving DecidableEq

namespace EvidenceCompleteness

def text : EvidenceCompleteness → String
  | complete => "COMPLETE"
  | partly => "PARTIAL"
  | missing => "MISSING"
  | prohibited => "PROHIBITED"

def ofText (text : String) : Except Fault EvidenceCompleteness :=
  if text = "COMPLETE" then .ok complete
  else if text = "PARTIAL" then .ok partly
  else if text = "MISSING" then .ok missing
  else if text = "PROHIBITED" then .ok prohibited
  else .error (valueError (text ++ " is not a valid EvidenceCompleteness"))

omit [Platform] in
theorem ofText_text (completeness : EvidenceCompleteness) :
    ofText completeness.text = .ok completeness := by
  cases completeness <;> rfl

end EvidenceCompleteness

structure EvidenceReference where
  evidenceType : String
  logicalId : String
  contentSha256 : String
  observedAtUtc : String
  producingRevisionId : String
  producingCodeRevision : String
  completeness : EvidenceCompleteness
  pathOrUri : Option String
  metadata : FrozenDict
  evidenceType_text : HasText evidenceType
  logicalId_text : HasText logicalId
  contentSha256_digest : IsSha256 contentSha256
  observedAtUtc_timestamp : isTimestamp observedAtUtc = true
  producingRevisionId_text : HasText producingRevisionId
  producingCodeRevision_text : HasText producingCodeRevision
  pathOrUri_text : ∀ path ∈ pathOrUri, HasText path
  deriving DecidableEq

/-- A text, or `None`. -/
def optionalText (text : Option String) : Json := text.elim .null .str

namespace EvidenceReference

def create (evidenceType logicalId contentSha256 observedAtUtc producingRevisionId
    producingCodeRevision : String) (completeness : EvidenceCompleteness)
    (pathOrUri : Option String) (metadata : FrozenDict) : Except Fault EvidenceReference := do
  let evidenceTypeText ← requireText evidenceType "evidence_type"
  let logicalIdText ← requireText logicalId "evidence logical_id"
  let digest ← requireSha256 contentSha256 "evidence content_sha256"
  let timestamp ← validateTimestamp observedAtUtc "observed_at_utc"
  let revisionText ← requireText producingRevisionId "producing_revision_id"
  let codeRevisionText ← requireText producingCodeRevision "producing_code_revision"
  let pathText ← demand (∀ path ∈ pathOrUri, HasText path)
    (valueError "path_or_uri cannot be empty")
  .ok ⟨evidenceType, logicalId, contentSha256, observedAtUtc, producingRevisionId,
    producingCodeRevision, completeness, pathOrUri, metadata, evidenceTypeText.down,
    logicalIdText.down, digest.down, timestamp.down, revisionText.down, codeRevisionText.down,
    pathText.down⟩

theorem create_self (evidence : EvidenceReference) :
    create evidence.evidenceType evidence.logicalId evidence.contentSha256
      evidence.observedAtUtc evidence.producingRevisionId evidence.producingCodeRevision
      evidence.completeness evidence.pathOrUri evidence.metadata = .ok evidence := by
  unfold create requireText requireSha256 validateTimestamp
  rw [demand_of evidence.evidenceType_text, demand_of evidence.logicalId_text,
    demand_of evidence.contentSha256_digest, demand_of evidence.observedAtUtc_timestamp,
    demand_of evidence.producingRevisionId_text, demand_of evidence.producingCodeRevision_text,
    demand_of evidence.pathOrUri_text]
  rfl

variable (evidence : EvidenceReference)

def identityPayload : List (String × Json) :=
  [("evidence_type", .str evidence.evidenceType), ("logical_id", .str evidence.logicalId),
    ("content_sha256", .str evidence.contentSha256),
    ("observed_at_utc", .str evidence.observedAtUtc),
    ("producing_revision_id", .str evidence.producingRevisionId),
    ("producing_code_revision", .str evidence.producingCodeRevision),
    ("completeness", .str evidence.completeness.text),
    ("path_or_uri", optionalText evidence.pathOrUri), ("metadata", evidence.metadata.thaw)]

/-- The id, once the numbers of the metadata are known to be finite. -/
def identity : String :=
  evidence.logicalId ++ "@" ++ sha256 (Json.obj evidence.identityPayload).canonical

def evidenceId : Except Fault String := do
  let digest ← canonicalSha256 (.obj evidence.identityPayload)
  .ok (evidence.logicalId ++ "@" ++ digest)

theorem identity_of_evidenceId {evidenceId : String}
    (named : evidence.evidenceId = .ok evidenceId) : evidenceId = evidence.identity := by
  unfold EvidenceReference.evidenceId canonicalSha256 at named
  split_ifs at named
  · exact (Except.ok.inj named).symm
  · cases named

def toDict : List (String × Json) :=
  ("evidence_id", .str evidence.identity) :: evidence.identityPayload

end EvidenceReference

structure EconomicDecisionAttestation where
  experimentRevisionId : String
  protocolHash : String
  resultEvidenceId : String
  resultArtifactSha256 : String
  resultId : String
  resultHash : String
  resultSchemaVersion : String
  verdict : String
  comparisonContractId : String
  comparisonContractHash : String
  runResultId : String
  benchmarkSuiteId : String
  benchmarkResultIds : List String
  requiredEvidenceIds : List String
  codeRevision : String
  productScope : List String
  terminalPolicy : String
  verdict_known : verdict ∈ ["QUALIFIED", "REJECTED", "NOT_TESTABLE"]

/-! ### Decision events -/

inductive DecisionStatus where
  | proposed
  | registered
  | statisticallyQualified
  | economicallyQualified
  | rejected
  | frozenArchive
  deriving DecidableEq

namespace DecisionStatus

def text : DecisionStatus → String
  | proposed => "PROPOSED"
  | registered => "REGISTERED"
  | statisticallyQualified => "STATISTICALLY_QUALIFIED"
  | economicallyQualified => "ECONOMICALLY_QUALIFIED"
  | rejected => "REJECTED"
  | frozenArchive => "FROZEN_ARCHIVE"

def ofText (text : String) : Except Fault DecisionStatus :=
  if text = "PROPOSED" then .ok proposed
  else if text = "REGISTERED" then .ok registered
  else if text = "STATISTICALLY_QUALIFIED" then .ok statisticallyQualified
  else if text = "ECONOMICALLY_QUALIFIED" then .ok economicallyQualified
  else if text = "REJECTED" then .ok rejected
  else if text = "FROZEN_ARCHIVE" then .ok frozenArchive
  else .error (valueError (text ++ " is not a valid DecisionStatus"))

omit [Platform] in
theorem ofText_text (status : DecisionStatus) : ofText status.text = .ok status := by
  cases status <;> rfl

end DecisionStatus

structure EventFields where
  sequence : ℤ
  experimentRevisionId : String
  previousStatus : DecisionStatus
  newStatus : DecisionStatus
  decidedAtUtc : String
  evidenceIds : List String
  reason : String
  actor : String
  source : String
  previousEventHash : Option String
  statisticalResultId : Option String := none
  economicResultId : Option String := none

structure DecisionEvent extends EventFields where
  sequence_positive : 0 < sequence
  experimentRevisionId_text : HasText experimentRevisionId
  decidedAtUtc_timestamp : isTimestamp decidedAtUtc = true
  reason_text : HasText reason
  actor_text : HasText actor
  source_text : HasText source
  previousEventHash_digest : ∀ hash ∈ previousEventHash, IsSha256 hash

namespace DecisionEvent

def create (fields : EventFields) : Except Fault DecisionEvent := do
  let positive ← demand (0 < fields.sequence) (valueError "decision sequence must be positive")
  let revisionText ← requireText fields.experimentRevisionId "experiment_revision_id"
  let timestamp ← validateTimestamp fields.decidedAtUtc "decided_at_utc"
  let reasonText ← requireText fields.reason "decision reason"
  let actorText ← requireText fields.actor "decision actor"
  let sourceText ← requireText fields.source "decision source"
  let digest ← demand (∀ hash ∈ fields.previousEventHash, IsSha256 hash)
    (valueError "previous_event_hash must be a lowercase SHA-256 hex digest")
  .ok ⟨fields, positive.down, revisionText.down, timestamp.down, reasonText.down, actorText.down,
    sourceText.down, digest.down⟩

theorem create_self (event : DecisionEvent) : create event.toEventFields = .ok event := by
  unfold create requireText validateTimestamp
  rw [demand_of event.sequence_positive, demand_of event.experimentRevisionId_text,
    demand_of event.decidedAtUtc_timestamp, demand_of event.reason_text,
    demand_of event.actor_text, demand_of event.source_text,
    demand_of event.previousEventHash_digest]
  rfl

theorem create_eq_ok {fields : EventFields} {event : DecisionEvent}
    (created : create fields = .ok event) : event.toEventFields = fields := by
  unfold create requireText validateTimestamp at created
  simp only [demand_bind_eq_ok] at created
  obtain ⟨_, _, _, _, _, _, _, made⟩ := created
  cases made
  rfl

variable (event : DecisionEvent)

def unsignedPayload : List (String × Json) :=
  [("sequence", .int event.sequence),
    ("experiment_revision_id", .str event.experimentRevisionId),
    ("previous_status", .str event.previousStatus.text),
    ("new_status", .str event.newStatus.text), ("decided_at_utc", .str event.decidedAtUtc),
    ("evidence_ids", .arr (event.evidenceIds.map .str)), ("reason", .str event.reason),
    ("actor", .str event.actor), ("source", .str event.source),
    ("previous_event_hash", optionalText event.previousEventHash),
    ("statistical_result_id", optionalText event.statisticalResultId),
    ("economic_result_id", optionalText event.economicResultId)]

def eventHash : String := sha256 (Json.obj event.unsignedPayload).canonical

def toDict : List (String × Json) :=
  event.unsignedPayload ++ [("event_hash", .str event.eventHash)]

end DecisionEvent

end QuantAgent.Research
