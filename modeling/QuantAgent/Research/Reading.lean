/-
This file embeds how the records of the registry are read back from JSON, and proves that each is
read back as it was written: the form of a record, brought into canonical order, is decoded to the
record.
-/

import QuantAgent.Research.Models

namespace QuantAgent.Research

/-! ### Reading objects -/

def schema (expected : List String) (mismatch : String) :
    Json → Except Fault (List (String × Json))
  | .obj members =>
    if (members.map Prod.fst).toFinset = expected.toFinset then .ok members
    else .error (valueError mismatch)
  | _ => .error ⟨.type, "object expected"⟩

/-- `members[key]`. -/
def entry (members : List (String × Json)) (key : String) : Except Fault Json :=
  match members.lookup key with
  | some value => .ok value
  | none => .error ⟨.key, key⟩

theorem schema_canonical {expected : List String} {mismatch : String}
    {members : List (String × Json)} (keys : members.map Prod.fst = expected) :
    schema expected mismatch (Json.obj members).canonical =
      .ok (Json.sortMembers (Json.canonicalMembers members)) := by
  have same := List.toFinset_eq_of_perm _ _ (Json.keys_canonical members)
  rw [keys] at same
  exact if_pos same

theorem entry_canonical {members : List (String × Json)} (key : String)
    (distinct : (members.map Prod.fst).Nodup) :
    entry (Json.sortMembers (Json.canonicalMembers members)) key =
      (members.lookup key).elim (.error ⟨.key, key⟩) fun value => .ok value.canonical := by
  unfold entry
  rw [Json.lookup_canonical key distinct]
  cases members.lookup key <;> rfl

variable [Platform]

/-! ### Reading values -/

/-- `str(value)`. -/
def textOf : Json → String
  | .str text => text
  | other => Platform.repr other

def optionalTextOf : Json → Option String
  | .null => none
  | other => some (textOf other)

/-- `int(value)`. -/
def intOf : Json → Except Fault ℤ
  | .int value => .ok value
  | .bool value => .ok (if value then 1 else 0)
  | .float (.finite value) => .ok (value.num.tdiv value.den)
  | other =>
    match Platform.parseInt other with
    | some value => .ok value
    | none => .error (valueError "invalid literal for int()")

/-- `float(value)`. -/
def floatOf : Json → Except Fault Double
  | .float value => .ok value
  | .int value => .ok (.finite value)
  | .bool value => .ok (.finite (if value then 1 else 0))
  | other =>
    match Platform.parseFloat other with
    | some value => .ok value
    | none => .error (valueError "could not convert to float")

/-- `tuple(str(item) for item in value)`. -/
def textsOf : Json → Except Fault (List String)
  | .arr items => .ok (items.map textOf)
  | .str text => .ok (text.toList.map String.singleton)
  | .obj members => .ok (members.map Prod.fst)
  | _ => .error ⟨.type, "object is not iterable"⟩

/-- `semantic` and `audit` must be objects. -/
def membersOf : Json → Except Fault (List (String × Json))
  | .obj members => .ok members
  | _ => .error ⟨.type, "protocol semantic_payload and audit must be objects"⟩

@[simp] theorem textOf_canonical (text : String) : textOf (Json.str text).canonical = text := rfl

@[simp] theorem intOf_canonical (value : ℤ) : intOf (Json.int value).canonical = .ok value := rfl

@[simp] theorem floatOf_canonical (value : Double) :
    floatOf (Json.float value).canonical = .ok value := rfl

omit [Platform] in
@[simp] theorem truthy_canonical (value : Bool) : (Json.bool value).canonical.truthy = value := rfl

@[simp] theorem textsOf_canonical (texts : List String) :
    textsOf (Json.arr (texts.map .str)).canonical = .ok texts := by
  have same : Json.canonicalItems (texts.map .str) = texts.map .str := by
    rw [Json.canonicalItems_eq_map, List.map_map]
    rfl
  show textsOf (.arr (Json.canonicalItems (texts.map .str))) = _
  rw [same]
  show Except.ok ((texts.map Json.str).map textOf) = _
  rw [List.map_map]
  exact congrArg Except.ok (List.map_id texts)

@[simp] theorem optionalTextOf_canonical (text : Option String) :
    optionalTextOf (optionalText text).canonical = text := by
  cases text <;> rfl

omit [Platform] in
@[simp] theorem ofJson_canonical (dict : FrozenDict) :
    FrozenDict.ofJson dict.thaw.canonical = .ok dict := by
  rw [dict.canonical_thaw, dict.ofJson_thaw]

/-! ### Identities and definitions -/

namespace VersionedIdentity

def fields : List String := ["logical_id", "version", "content_sha256"]

def fromDict (data : Json) : Except Fault VersionedIdentity := do
  let members ← schema fields "versioned identity schema mismatch" data
  create (textOf (← entry members "logical_id")) (textOf (← entry members "version"))
    (textOf (← entry members "content_sha256"))

theorem fromDict_toDict (identity : VersionedIdentity) :
    fromDict (Json.obj identity.toDict).canonical = .ok identity := by
  have keys : identity.toDict.map Prod.fst = fields := rfl
  have distinct : (identity.toDict.map Prod.fst).Nodup := by
    rw [keys]
    decide
  unfold fromDict
  rw [schema_canonical keys]
  simp only [Except.bind_ok, entry_canonical _ distinct]
  simpa [toDict, Json.lookup_cons_of_ne] using identity.create_self

end VersionedIdentity

namespace FeatureDefinition

def fields : List String :=
  ["feature_id", "name", "formula", "input_requirements", "parameters", "bounds"]

/-- The interval of a list of two numbers. -/
def boundsOf : Json → Except Fault (Option (Double × Double))
  | .arr [lower, upper] => do
    let lower ← floatOf lower
    let upper ← floatOf upper
    .ok (some (lower, upper))
  | _ => .ok none

def fromDict (data : Json) : Except Fault FeatureDefinition := do
  let members ← schema fields "feature definition schema mismatch" data
  let bounds ← boundsOf (← entry members "bounds")
  let inputRequirements ← textsOf (← entry members "input_requirements")
  let parameters ← FrozenDict.ofJson (← entry members "parameters")
  create (textOf (← entry members "feature_id")) (textOf (← entry members "name"))
    (textOf (← entry members "formula")) inputRequirements parameters bounds

theorem boundsOf_canonical (bounds : Option (Double × Double)) :
    boundsOf (Json.canonical (bounds.elim .null fun interval =>
      .arr [.float interval.1, .float interval.2])) = .ok bounds := by
  cases bounds <;> rfl

theorem fromDict_toDict (definition : FeatureDefinition) :
    fromDict (Json.obj definition.toDict).canonical = .ok definition := by
  have keys : definition.toDict.map Prod.fst = fields := rfl
  have distinct : (definition.toDict.map Prod.fst).Nodup := by
    rw [keys]
    decide
  unfold fromDict
  rw [schema_canonical keys]
  simp only [Except.bind_ok, entry_canonical _ distinct]
  simpa [toDict, Json.lookup_cons_of_ne, boundsOf_canonical] using definition.create_self

end FeatureDefinition

namespace PredictionTarget

def fields : List String :=
  ["target_id", "name", "horizon_ms", "horizon_description", "continuous", "calculation_rule"]

def fromDict (data : Json) : Except Fault PredictionTarget := do
  let members ← schema fields "prediction target schema mismatch" data
  let horizonMs ← intOf (← entry members "horizon_ms")
  create (textOf (← entry members "target_id")) (textOf (← entry members "name")) horizonMs
    (textOf (← entry members "horizon_description")) (← entry members "continuous").truthy
    (textOf (← entry members "calculation_rule"))

theorem fromDict_toDict (target : PredictionTarget) :
    fromDict (Json.obj target.toDict).canonical = .ok target := by
  have keys : target.toDict.map Prod.fst = fields := rfl
  have distinct : (target.toDict.map Prod.fst).Nodup := by
    rw [keys]
    decide
  unfold fromDict
  rw [schema_canonical keys]
  simp only [Except.bind_ok, entry_canonical _ distinct]
  simpa [toDict, Json.lookup_cons_of_ne] using target.create_self

end PredictionTarget

namespace EvaluationMethod

def fields : List String :=
  ["method_name", "statistical_test", "fwer_control", "significance_threshold", "parameters"]

def fromDict (data : Json) : Except Fault EvaluationMethod := do
  let members ← schema fields "evaluation method schema mismatch" data
  let significanceThreshold ← floatOf (← entry members "significance_threshold")
  let parameters ← FrozenDict.ofJson (← entry members "parameters")
  create (textOf (← entry members "method_name")) (textOf (← entry members "statistical_test"))
    (textOf (← entry members "fwer_control")) significanceThreshold parameters

theorem fromDict_toDict (method : EvaluationMethod) :
    fromDict (Json.obj method.toDict).canonical = .ok method := by
  have keys : method.toDict.map Prod.fst = fields := rfl
  have distinct : (method.toDict.map Prod.fst).Nodup := by
    rw [keys]
    decide
  unfold fromDict
  rw [schema_canonical keys]
  simp only [Except.bind_ok, entry_canonical _ distinct]
  simpa [toDict, Json.lookup_cons_of_ne] using method.create_self

end EvaluationMethod

/-! ### Protocols -/

namespace SignalProducerContract

def fields : List String :=
  ["contract_id", "version", "producer_identity", "producer_version", "rule", "parameters",
    "contract_hash"]

/-- `dict(value)`, whose members are frozen. -/
def parametersOf : Json → Except Fault FrozenDict
  | .obj members => .ok (FrozenDict.ofMembers members)
  | .arr [] => .ok (FrozenDict.ofMembers [])
  | .str "" => .ok (FrozenDict.ofMembers [])
  | _ => .error ⟨.type, "cannot convert to a dictionary"⟩

/-- Missing parameters are none, and a missing hash is computed. -/
def fromDict (members : List (String × Json)) : Except Fault SignalProducerContract := do
  let parameters ← parametersOf ((members.lookup "parameters").getD (.obj []))
  let fields : ContractFields := {
    contractId := textOf (← entry members "contract_id")
    version := textOf (← entry members "version")
    producerIdentity := textOf (← entry members "producer_identity")
    producerVersion := textOf (← entry members "producer_version")
    rule := textOf (← entry members "rule")
    parameters := parameters }
  create fields (textOf ((members.lookup "contract_hash").getD (.str "")))

omit [Platform] in
theorem parametersOf_canonical (dict : FrozenDict) :
    parametersOf dict.thaw.canonical = .ok dict := by
  rw [dict.canonical_thaw]
  exact congrArg Except.ok dict.ofMembers_members

theorem fields_toDict (contract : SignalProducerContract) :
    contract.toDict.map Prod.fst = fields := rfl

theorem fromDict_toDict (contract : SignalProducerContract) :
    fromDict (Json.sortMembers (Json.canonicalMembers contract.toDict)) = .ok contract := by
  have distinct : (contract.toDict.map Prod.fst).Nodup := by
    rw [fields_toDict]
    decide
  unfold fromDict
  simp only [entry_canonical _ distinct, Json.lookup_canonical _ distinct]
  simpa [toDict, ContractFields.semanticPayload, Json.lookup_cons_of_ne, parametersOf_canonical]
    using contract.create_self

end SignalProducerContract

namespace ProducerContract

def ofMembers (members : List (String × Json)) : Except Fault ProducerContract :=
  if (members.lookup "contract_id").isSome then do
    let contract ← SignalProducerContract.fromDict members
    .ok (.contract contract)
  else do
    let identity ← VersionedIdentity.fromDict (.obj members)
    .ok (.identity identity)

def fromDict : Json → Except Fault (Option ProducerContract)
  | .null => .ok none
  | .obj members => do
    let contract ← ofMembers members
    .ok (some contract)
  | _ => .error ⟨.type, "signal_producer_contract must be an object"⟩

theorem ofMembers_toDict (contract : ProducerContract) :
    ofMembers (Json.sortMembers (Json.canonicalMembers contract.toDict)) = .ok contract := by
  unfold ofMembers
  cases contract with
  | identity versioned =>
    have distinct : (versioned.toDict.map Prod.fst).Nodup := by
      rw [show versioned.toDict.map Prod.fst = VersionedIdentity.fields from rfl]
      decide
    have absent : (Json.sortMembers (Json.canonicalMembers versioned.toDict)).lookup
        "contract_id" = none := by
      rw [Json.lookup_canonical _ distinct]
      simp [VersionedIdentity.toDict, Json.lookup_cons_of_ne]
    show ite (Option.isSome (List.lookup _ (Json.sortMembers
      (Json.canonicalMembers versioned.toDict))) = true) _ _ = _
    rw [absent]
    show (VersionedIdentity.fromDict (Json.obj versioned.toDict).canonical >>= _) = _
    rw [versioned.fromDict_toDict]
    rfl
  | contract produced =>
    have distinct : (produced.toDict.map Prod.fst).Nodup := by
      rw [produced.fields_toDict]
      decide
    have present : ((Json.sortMembers (Json.canonicalMembers produced.toDict)).lookup
        "contract_id").isSome = true := by
      rw [Json.lookup_canonical _ distinct]
      rfl
    show ite (Option.isSome (List.lookup _ (Json.sortMembers
      (Json.canonicalMembers produced.toDict))) = true)
        (SignalProducerContract.fromDict (Json.sortMembers
          (Json.canonicalMembers produced.toDict)) >>= _) _ = _
    rw [if_pos present, produced.fromDict_toDict]
    rfl

theorem fromDict_toDict (contract : ProducerContract) :
    fromDict (Json.obj contract.toDict).canonical = .ok (some contract) := by
  show (ofMembers (Json.sortMembers (Json.canonicalMembers contract.toDict)) >>= _) = _
  rw [contract.ofMembers_toDict]
  rfl

end ProducerContract

/-- An identity, or `P6_PENDING`. -/
def Benchmark.fromJson : Json → Except Fault Benchmark
  | .obj members => do
    let identity ← VersionedIdentity.fromDict (.obj members)
    .ok (.identity identity)
  | other =>
    if textOf other = "P6_PENDING" then .ok .pending
    else .error (valueError "benchmark must be a VersionedIdentity or P6_PENDING")

theorem Benchmark.fromJson_toJson (benchmark : Benchmark) :
    fromJson benchmark.toJson.canonical = .ok benchmark := by
  cases benchmark with
  | pending => rfl
  | identity versioned =>
    show (VersionedIdentity.fromDict (Json.obj versioned.toDict).canonical >>= _) = _
    rw [versioned.fromDict_toDict]
    rfl

namespace ExperimentMetadata

def fields : List String :=
  ["schema_version", "experiment_revision_id", "protocol_hash", "semantic_payload", "audit"]

def semanticFields : List String :=
  ["experiment_family", "name", "input_contract", "feature_definition", "prediction_target",
    "evaluation_method", "economic_policy", "cost_model", "execution_model", "benchmark",
    "product_scope", "code_revision", "terminal_policy"]

def auditFields : List String := ["created_at_utc", "metadata"]

def readFields (semantic audit : List (String × Json)) : Except Fault ExperimentFields := do
  let signalProducerContract ←
    ProducerContract.fromDict ((semantic.lookup "signal_producer_contract").getD .null)
  refuse ((semantic.map Prod.fst).toFinset.erase "signal_producer_contract" ≠
      semanticFields.toFinset ∨ (audit.map Prod.fst).toFinset ≠ auditFields.toFinset)
    (valueError "protocol payload schema mismatch")
  let benchmark ← Benchmark.fromJson (← entry semantic "benchmark")
  let inputContract ← VersionedIdentity.fromDict (← entry semantic "input_contract")
  let featureDefinition ← FeatureDefinition.fromDict (← entry semantic "feature_definition")
  let predictionTarget ← PredictionTarget.fromDict (← entry semantic "prediction_target")
  let evaluationMethod ← EvaluationMethod.fromDict (← entry semantic "evaluation_method")
  let economicPolicy ← VersionedIdentity.fromDict (← entry semantic "economic_policy")
  let costModel ← VersionedIdentity.fromDict (← entry semantic "cost_model")
  let executionModel ← VersionedIdentity.fromDict (← entry semantic "execution_model")
  let productScope ← textsOf (← entry semantic "product_scope")
  let metadata ← FrozenDict.ofJson (← entry audit "metadata")
  .ok {
    experimentId := textOf (← entry semantic "experiment_family")
    name := textOf (← entry semantic "name")
    inputContract := inputContract
    featureDefinition := featureDefinition
    predictionTarget := predictionTarget
    evaluationMethod := evaluationMethod
    economicPolicy := economicPolicy
    costModel := costModel
    executionModel := executionModel
    benchmark := benchmark
    productScope := productScope
    codeRevision := textOf (← entry semantic "code_revision")
    terminalPolicy := textOf (← entry semantic "terminal_policy")
    signalProducerContract := signalProducerContract
    createdAtUtc := textOf (← entry audit "created_at_utc")
    metadata := metadata }

def fromDict (data : Json) : Except Fault ExperimentMetadata := do
  let members ← schema fields "protocol record schema mismatch" data
  refuse ((← entry members "schema_version") ≠ .str "1.0.0")
    (valueError "unsupported protocol record schema")
  let semantic ← membersOf (← entry members "semantic_payload")
  let audit ← membersOf (← entry members "audit")
  let experiment ← create (← readFields semantic audit)
  refuse (textOf (← entry members "protocol_hash") ≠ experiment.protocolHash)
    (valueError "protocol hash mismatch")
  refuse (textOf (← entry members "experiment_revision_id") ≠ experiment.experimentRevisionId)
    (valueError "experiment revision identity mismatch")
  .ok experiment

theorem semantic_keys (fields : ExperimentFields) :
    (fields.semanticPayload.map Prod.fst).Nodup ∧
      (fields.semanticPayload.map Prod.fst).toFinset.erase "signal_producer_contract" =
        semanticFields.toFinset := by
  obtain ⟨_, _, _, _, _, _, _, _, _, _, _, _, _, contract, _, _⟩ := fields
  cases contract with
  | none =>
    show semanticFields.Nodup ∧ semanticFields.toFinset.erase _ = _
    decide
  | some contract =>
    show (semanticFields ++ ["signal_producer_contract"]).Nodup ∧
      (semanticFields ++ ["signal_producer_contract"]).toFinset.erase _ = _
    decide

theorem contract_canonical (fields : ExperimentFields) :
    ProducerContract.fromDict (((fields.semanticPayload.lookup
      "signal_producer_contract").map Json.canonical).getD .null) =
        .ok fields.signalProducerContract := by
  obtain ⟨_, _, _, _, _, _, _, _, _, _, _, _, _, contract, _, _⟩ := fields
  cases contract with
  | none => simp [ExperimentFields.semanticPayload, Json.lookup_cons_of_ne,
      ProducerContract.fromDict]
  | some contract =>
    simpa [ExperimentFields.semanticPayload, Json.lookup_cons_of_ne]
      using contract.fromDict_toDict

theorem readFields_canonical (fields : ExperimentFields) :
    readFields (Json.sortMembers (Json.canonicalMembers fields.semanticPayload))
      (Json.sortMembers (Json.canonicalMembers fields.auditMembers)) = .ok fields := by
  obtain ⟨distinct, own⟩ := semantic_keys fields
  have auditKeys : fields.auditMembers.map Prod.fst = auditFields := rfl
  have auditDistinct : (fields.auditMembers.map Prod.fst).Nodup := by
    rw [auditKeys]
    decide
  have matching : ¬ (((Json.sortMembers (Json.canonicalMembers fields.semanticPayload)).map
      Prod.fst).toFinset.erase "signal_producer_contract" ≠ semanticFields.toFinset ∨
      ((Json.sortMembers (Json.canonicalMembers fields.auditMembers)).map Prod.fst).toFinset ≠
        auditFields.toFinset) := by
    rw [List.toFinset_eq_of_perm _ _ (Json.keys_canonical fields.semanticPayload),
      List.toFinset_eq_of_perm _ _ (Json.keys_canonical fields.auditMembers), own, auditKeys]
    simp
  unfold readFields
  rw [Json.lookup_canonical _ distinct, contract_canonical]
  rw [Except.bind_ok, refuse, if_neg matching]
  simp only [Except.bind_ok, entry_canonical _ distinct, entry_canonical _ auditDistinct]
  simp [ExperimentFields.semanticPayload, ExperimentFields.auditMembers, Json.lookup_cons_of_ne,
    Benchmark.fromJson_toJson, VersionedIdentity.fromDict_toDict,
    FeatureDefinition.fromDict_toDict, PredictionTarget.fromDict_toDict,
    EvaluationMethod.fromDict_toDict]

theorem fromDict_toDict (experiment : ExperimentMetadata) :
    fromDict (Json.obj experiment.toDict).canonical = .ok experiment := by
  have keys : experiment.toDict.map Prod.fst = fields := rfl
  have distinct : (experiment.toDict.map Prod.fst).Nodup := by
    rw [keys]
    decide
  have read := readFields_canonical experiment.toExperimentFields
  unfold fromDict
  rw [schema_canonical keys]
  simp only [Except.bind_ok, entry_canonical _ distinct]
  simp [toDict, Json.lookup_cons_of_ne, refuse, membersOf, Json.canonical, read,
    experiment.create_self, textOf]

end ExperimentMetadata

/-! ### Evidence and events -/

namespace EvidenceReference

def fields : List String :=
  ["evidence_id", "evidence_type", "logical_id", "content_sha256", "observed_at_utc",
    "producing_revision_id", "producing_code_revision", "completeness", "path_or_uri", "metadata"]

def fromDict (data : Json) : Except Fault EvidenceReference := do
  let members ← schema fields "evidence reference schema mismatch" data
  let completeness ← EvidenceCompleteness.ofText (textOf (← entry members "completeness"))
  let metadata ← FrozenDict.ofJson (← entry members "metadata")
  let evidence ← create (textOf (← entry members "evidence_type"))
    (textOf (← entry members "logical_id")) (textOf (← entry members "content_sha256"))
    (textOf (← entry members "observed_at_utc")) (textOf (← entry members "producing_revision_id"))
    (textOf (← entry members "producing_code_revision")) completeness
    (optionalTextOf (← entry members "path_or_uri")) metadata
  let evidenceId ← evidence.evidenceId
  refuse (textOf (← entry members "evidence_id") ≠ evidenceId)
    (valueError "evidence identity mismatch")
  .ok evidence

theorem evidenceId_of_finite {evidence : EvidenceReference}
    (finite : (Json.obj evidence.identityPayload).isFinite = true) :
    evidence.evidenceId = .ok evidence.identity := by
  unfold evidenceId canonicalSha256
  rw [if_pos finite]
  rfl

theorem fromDict_toDict (evidence : EvidenceReference)
    (finite : (Json.obj evidence.identityPayload).isFinite = true) :
    fromDict (Json.obj evidence.toDict).canonical = .ok evidence := by
  have keys : evidence.toDict.map Prod.fst = fields := rfl
  have distinct : (evidence.toDict.map Prod.fst).Nodup := by
    rw [keys]
    decide
  unfold fromDict
  rw [schema_canonical keys]
  simp only [Except.bind_ok, entry_canonical _ distinct]
  simp [toDict, identityPayload, Json.lookup_cons_of_ne, EvidenceCompleteness.ofText_text,
    evidence.create_self, evidenceId_of_finite finite, refuse]

end EvidenceReference

namespace DecisionEvent

def fields : List String :=
  ["sequence", "experiment_revision_id", "previous_status", "new_status", "decided_at_utc",
    "evidence_ids", "reason", "actor", "source", "previous_event_hash", "statistical_result_id",
    "economic_result_id", "event_hash"]

def fromDict (data : Json) : Except Fault DecisionEvent := do
  let members ← schema fields "decision event schema mismatch" data
  let sequence ← intOf (← entry members "sequence")
  let previousStatus ← DecisionStatus.ofText (textOf (← entry members "previous_status"))
  let newStatus ← DecisionStatus.ofText (textOf (← entry members "new_status"))
  let evidenceIds ← textsOf (← entry members "evidence_ids")
  let event ← create {
    sequence := sequence
    experimentRevisionId := textOf (← entry members "experiment_revision_id")
    previousStatus := previousStatus
    newStatus := newStatus
    decidedAtUtc := textOf (← entry members "decided_at_utc")
    evidenceIds := evidenceIds
    reason := textOf (← entry members "reason")
    actor := textOf (← entry members "actor")
    source := textOf (← entry members "source")
    previousEventHash := optionalTextOf (← entry members "previous_event_hash")
    statisticalResultId := optionalTextOf (← entry members "statistical_result_id")
    economicResultId := optionalTextOf (← entry members "economic_result_id") }
  refuse (textOf (← entry members "event_hash") ≠ event.eventHash)
    (valueError "decision event hash mismatch")
  .ok event

theorem fromDict_toDict (event : DecisionEvent) :
    fromDict (Json.obj event.toDict).canonical = .ok event := by
  have keys : event.toDict.map Prod.fst = fields := rfl
  have distinct : (event.toDict.map Prod.fst).Nodup := by
    rw [keys]
    decide
  unfold fromDict
  rw [schema_canonical keys]
  simp only [Except.bind_ok, entry_canonical _ distinct]
  simp [toDict, unsignedPayload, Json.lookup_cons_of_ne, DecisionStatus.ofText_text,
    event.create_self, refuse]

end DecisionEvent

end QuantAgent.Research
