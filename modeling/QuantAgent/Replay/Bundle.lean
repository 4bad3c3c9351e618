/-
This file embeds the verification of a replay input bundle. Every signal of the bundle is bound to
rows of the dataset and to a registered contract, and is replayed by the contract's producer.
-/

import QuantAgent.Replay.Producers

namespace QuantAgent.Replay

open Research

inductive Role where
  | candidate
  | randomBenchmark
  deriving DecidableEq

/-- `{c.open_time_ms: c for c in candles}`, where a later candle replaces an earlier one. -/
def candleByOpen (candles : List DatasetCandle) (openTimeMs : ℤ) : Option DatasetCandle :=
  candles.reverse.find? fun candle => candle.openTimeMs = openTimeMs

section

variable [Platform]

/-! ### Input references -/

def readReferences (signalId : String) (candles : List DatasetCandle) (timestampMs : ℤ) :
    ℤ → List Json → Except Fault (List DatasetCandle)
  | _, [] => .ok []
  | lastOpenTime, .obj reference :: references => do
    let openTime ← intOf (← entry reference "open_time_ms")
    refuse (openTime ≤ lastOpenTime) (valueError ("input references for " ++ signalId ++
      " must be strictly increasing"))
    match candleByOpen candles openTime with
    | none => .error (valueError ("referenced candle open_time_ms " ++ toString openTime ++
        " not found in dataset"))
    | some candle => do
      refuse (candle.closed ≠ true)
        (valueError ("referenced candle at " ++ toString openTime ++ " is not closed"))
      match candle.availableAtMs with
      | none => .error (valueError ("referenced candle at " ++ toString openTime ++
          " lacks availability timestamp"))
      | some availableMs => do
        refuse (timestampMs < availableMs) (valueError ("input candle at " ++ toString openTime ++
          " was not available by signal timestamp"))
        let asserted ← intOf (← entry reference "available_at_ms")
        refuse (asserted ≠ availableMs) (valueError
          ("asserted availability timestamp mismatch for candle at " ++ toString openTime))
        let rowSha256 ← canonicalSha256 candle.payload
        let declared ← entry reference "row_content_sha256"
        refuse (declared ≠ .str rowSha256)
          (valueError ("candle row content sha256 mismatch at " ++ toString openTime))
        let others ← readReferences signalId candles timestampMs openTime references
        .ok (candle :: others)
  | _, _ :: _ =>
    .error ⟨.type, "input reference for " ++ signalId ++ " must be a dictionary"⟩

def expectedInputRefs (datasetEvidenceId : String) :
    List DatasetCandle → Except Fault (List Json)
  | [] => .ok []
  | candle :: candles =>
    match candle.availableAtMs with
    | none => .error (valueError ("reconstructed required candle at " ++
        toString candle.openTimeMs ++ " lacks availability"))
    | some availableMs => do
      let rowSha256 ← canonicalSha256 candle.payload
      let others ← expectedInputRefs datasetEvidenceId candles
      .ok (.obj [("source_type", .str "CANONICAL_CANDLE"),
        ("dataset_evidence_id", .str datasetEvidenceId), ("open_time_ms", .int candle.openTimeMs),
        ("close_time_ms", .int candle.closeTimeMs), ("available_at_ms", .int availableMs),
        ("row_content_sha256", .str rowSha256)] :: others)

/-! ### The contract of an entry -/

def bindContract (registry : Registry) (role : Role) (protocol : Option ExperimentMetadata)
    (signalId : String) (item : List (String × Json)) : Except Fault SignalProducerContract := do
  let contractId := (item.lookup "producer_contract_id").getD .null
  let contractHash := (item.lookup "producer_contract_hash").getD .null
  refuse (contractId.truthy = false ∨ contractHash.truthy = false)
    (valueError ("decision input entry for " ++ signalId ++
      " lacks authoritative producer contract binding"))
  match registry.getContract (textOf contractId) none with
  | none => .error (valueError
      ("unregistered or non-authoritative signal producer contract: " ++ textOf contractId))
  | some contract => do
    refuse (contract.contractHash ≠ textOf contractHash)
      (valueError ("producer contract hash mismatch for " ++ textOf contractId ++ ": declared " ++
        textOf contractHash ++ ", expected " ++ contract.contractHash))
    match role, protocol with
    | .randomBenchmark, _ =>
      refuse (contract.contractId ≠ "CANONICAL_RANDOM_BENCHMARK_V1")
        (valueError ("benchmark role requires CANONICAL_RANDOM_BENCHMARK_V1 producer contract; " ++
          "received " ++ contract.contractId))
    | .candidate, none => .ok ()
    | .candidate, some protocol =>
      match registry.resolve protocol with
      | none => .error (valueError ("expected protocol " ++ protocol.experimentId ++
          " lacks required signal_producer_contract for non-empty decision inputs"))
      | some bound => do
        refuse (contract.contractId ≠ bound.contractId)
          (valueError ("bundle producer contract " ++ contract.contractId ++
            " does not match protocol-bound authoritative contract " ++ bound.contractId))
        refuse (contract.contractHash ≠ bound.contractHash)
          (valueError ("bundle producer contract hash " ++ contract.contractHash ++
            " does not match protocol-bound authoritative contract hash " ++ bound.contractHash))
    .ok contract

/-! ### The required window of an entry -/

def requireCount (generation : List (String × Json)) (name signalId : String) (required : ℤ) :
    Except Fault Unit := do
  let mismatch := valueError ("generation_contract " ++ name ++ " for " ++ signalId ++
    " must equal the exact required selector count " ++ toString required)
  match generation.lookup name with
  | none | some .null => .error mismatch
  | some raw => do
    let declared ← intOf raw
    refuse (declared ≠ required) mismatch

def DeclaresOpenTimes (generation : List (String × Json)) (window : List DatasetCandle) : Prop :=
  ∃ declared ∈ generation.lookup "material_input_open_times_ms",
    SameJson declared (.arr (openTimes window))

instance (generation : List (String × Json)) (window : List DatasetCandle) :
    Decidable (DeclaresOpenTimes generation window) :=
  inferInstanceAs (Decidable (∃ _ ∈ _, _))

def checkMaterialWindow (contract : SignalProducerContract) (candles : List DatasetCandle)
    (datasetEvidenceId signalId : String) (timestampMs : ℤ) (references : List Json)
    (generation : List (String × Json)) : Except Fault Unit := do
  let policy ← SelectorPolicy.resolve contract
  let window ← selectRequiredMaterialCandles contract candles timestampMs
  let expected ← expectedInputRefs datasetEvidenceId window
  refuse (¬ SameJson (.arr references) (.arr expected))
    (valueError ("persisted input references for " ++ signalId ++
      " do not exactly equal the independently reconstructed authoritative required input set"))
  refuse (¬ DeclaresOpenTimes generation window)
    (valueError ("generation_contract material_input_open_times_ms for " ++ signalId ++
      " does not equal the independently reconstructed required window"))
  let preimage ← preimageSha256 window
  refuse (generation.lookup "expected_preimage_sha256" ≠ some (.str preimage))
    (valueError ("generation_contract expected_preimage_sha256 for " ++ signalId ++
      " does not equal the independently reconstructed required window preimage"))
  requireCount generation "min_lookback_bars" signalId policy.requiredBars
  refuse (generation.lookup "material_input_selector_type" ≠ some (.str materialInputSelectorType))
    (valueError ("generation_contract material_input_selector_type for " ++ signalId ++
      " must equal " ++ materialInputSelectorType))
  requireCount generation "material_input_required_bars" signalId policy.requiredBars
  refuse (generation.lookup "material_input_selector_sha256" ≠ some (.str policy.selectorSha256))
    (valueError ("generation_contract material_input_selector_sha256 for " ++ signalId ++
      " does not equal the independently reconstructed selector policy"))

/-! ### The replay of an entry -/

def compareReplay (replayed formal : InformationSignal) : Except Fault Unit := do
  refuse (replayed.direction ≠ formal.direction)
    (valueError ("replayed signal direction mismatch for " ++ formal.signalId))
  refuse (¬ SameFloat replayed.strength formal.strength)
    (valueError ("replayed signal strength mismatch for " ++ formal.signalId))
  refuse (replayed.timestampMs ≠ formal.timestampMs)
    (valueError ("replayed signal timestamp mismatch for " ++ formal.signalId))
  refuse (replayed.asset ≠ formal.asset)
    (valueError ("replayed signal asset mismatch for " ++ formal.signalId))
  refuse (replayed.horizonMs ≠ formal.horizonMs)
    (valueError ("replayed signal horizon mismatch for " ++ formal.signalId))
  let replayedPayload ← replayed.semanticPayload
  let formalPayload ← formal.semanticPayload
  refuse (¬ SameJson (.obj replayedPayload) (.obj formalPayload))
    (valueError ("replayed signal semantic payload mismatch for " ++ formal.signalId))

/-- One turn of the loop over the decision inputs, for a signal id not seen before. -/
def verifyEntry (registry : Registry) (role : Role) (protocol : Option ExperimentMetadata)
    (candles : List DatasetCandle) (datasetEvidenceId signalId : String)
    (item : List (String × Json)) : Except Fault InformationSignal := do
  let timestampMs ← intOf (← entry item "signal_timestamp_ms")
  match ← entry item "signal_payload" with
  | .obj payload => do
    let payloadSha256 ← canonicalSha256 (.obj payload)
    refuse ((← entry item "signal_payload_sha256") ≠ .str payloadSha256)
      (valueError ("signal payload sha256 mismatch for " ++ signalId))
    let formal ← InformationSignal.fromDict payload
    refuse (formal.signalId ≠ signalId)
      (valueError ("signal id mismatch between entry and payload for " ++ signalId))
    refuse (formal.timestampMs ≠ timestampMs)
      (valueError ("timestamp mismatch between entry and payload for " ++ signalId))
    match ← entry item "input_references" with
    | .arr (reference :: references) => do
      let setSha256 ← canonicalSha256 (.arr (reference :: references))
      refuse ((← entry item "input_set_sha256") ≠ .str setSha256)
        (valueError ("input set sha256 mismatch for " ++ signalId))
      let inputs ← readReferences signalId candles timestampMs (-1) (reference :: references)
      let producerIdentity := textOf (← entry item "producer_identity")
      let producerVersion := textOf (← entry item "producer_version")
      match Producer.find producerIdentity producerVersion with
      | none => .error (valueError ("unregistered or non-replayable signal producer: " ++
          producerIdentity ++ " " ++ producerVersion ++ " (Mode B: NOT_TESTABLE)"))
      | some producer => do
        let contract ← bindContract registry role protocol signalId item
        refuse (producerIdentity ≠ contract.producerIdentity ∨
            producerVersion ≠ contract.producerVersion)
          (valueError ("producer contract identity mismatch for " ++ signalId ++
            ": contract specifies " ++ contract.producerIdentity ++ " " ++
            contract.producerVersion ++ ", entry declared " ++ producerIdentity ++ " " ++
            producerVersion))
        match ← entry item "generation_contract" with
        | .obj generation => do
          refuse (generation.lookup "rule" ≠ some (.str contract.rule))
            (valueError ("generation contract rule mismatch for " ++ signalId ++
              ": contract specifies " ++ contract.rule))
          refuse (producer = .canonicalRule ∧ contract.rule = "FIXED_DIRECTION") (valueError
            "FIXED_DIRECTION is forbidden for CanonicalRuleSignalProducer and candidate signals")
          if role = .candidate then
            checkMaterialWindow contract candles datasetEvidenceId signalId timestampMs
              (reference :: references) generation
          let replayed ← producer.replaySignal signalId timestampMs formal.experimentId inputs
            generation contract
          compareReplay replayed formal
          .ok formal
        | _ => .error ⟨.type, "generation contract for " ++ signalId ++ " must be a dictionary"⟩
    | _ => .error (valueError ("decision inputs for " ++ signalId ++
        " require non-empty input references"))
  | _ => .error ⟨.type, "signal payload for " ++ signalId ++ " must be a dictionary"⟩

def verifyEntries (registry : Registry) (role : Role) (protocol : Option ExperimentMetadata)
    (candles : List DatasetCandle) (datasetEvidenceId : String) :
    List String → List Json → Except Fault (List InformationSignal)
  | _, [] => .ok []
  | seen, .obj item :: items => do
    refuse (item.lookup "verified_scope" ≠ some (.str "VERIFIED_BY_REPLAY"))
      (valueError ("decision input entry " ++ toString seen.length ++ " is not verified by replay"))
    let signalId := textOf (← entry item "signal_id")
    refuse (signalId ∈ seen)
      (valueError ("duplicate signal " ++ signalId ++ " in replay input bundle"))
    let formal ← verifyEntry registry role protocol candles datasetEvidenceId signalId item
    let others ← verifyEntries registry role protocol candles datasetEvidenceId
      (signalId :: seen) items
    .ok (formal :: others)
  | seen, _ :: _ =>
    .error ⟨.type, "decision input entry " ++ toString seen.length ++ " must be a dictionary"⟩

/-! ### The bundle -/

def bundleKeys : List String :=
  ["schema_version", "experiment_revision_id", "protocol_hash", "dataset_evidence_id",
    "dataset_content_sha256", "input_contract_identity", "signal_set_sha256", "decision_inputs",
    "causal_execution_inputs", "funding_input_identity", "bundle_sha256"]

def checkProtocol (bundle : List (String × Json)) (protocol : ExperimentMetadata) :
    Except Fault Unit := do
  refuse ((← entry bundle "experiment_revision_id") ≠ .str protocol.experimentRevisionId)
    (valueError "replay input bundle experiment revision mismatch")
  refuse ((← entry bundle "protocol_hash") ≠ .str protocol.protocolHash)
    (valueError "replay input bundle protocol hash mismatch")
  refuse (¬ SameJson (← entry bundle "input_contract_identity")
      (.obj protocol.inputContract.toDict))
    (valueError "replay input bundle input contract mismatch")

def checkDataset (bundle : List (String × Json)) (evidence : EvidenceReference) :
    Except Fault Unit := do
  let evidenceId ← evidence.evidenceId
  refuse ((← entry bundle "dataset_evidence_id") ≠ .str evidenceId)
    (valueError "replay input bundle dataset evidence id mismatch")
  refuse ((← entry bundle "dataset_content_sha256") ≠ .str evidence.contentSha256)
    (valueError "replay input bundle dataset content hash mismatch")

/-- `e["signal_payload"]`. -/
def payloadOf : Json → Except Fault Json
  | .obj item => entry item "signal_payload"
  | _ => .error ⟨.type, "indices must be integers"⟩

def checkSignals (bundle : List (String × Json)) (inputs : List Json)
    (signals : List InformationSignal) : Except Fault Unit := do
  let sorted := signals.insertionSort fun signal other =>
    signal.timestampMs < other.timestampMs ∨
      signal.timestampMs = other.timestampMs ∧ signal.signalId ≤ other.signalId
  let expected := sorted.map fun signal => Json.obj signal.toDict
  let setSha256 ← canonicalSha256 (.arr expected)
  refuse ((← entry bundle "signal_set_sha256") ≠ .str setSha256)
    (valueError "replay input bundle signal_set_sha256 mismatch")
  let payloads ← inputs.mapM payloadOf
  refuse (¬ SameJson (.arr payloads) (.arr expected))
    (valueError "replay input bundle decision inputs do not exactly cover signals")

/-- What the caller of the verification expects. -/
structure Expected where
  protocol : Option ExperimentMetadata := none
  datasetEvidence : Option EvidenceReference := none
  signals : Option (List InformationSignal) := none
  bundleSha256 : Option String := none
  role : Role := .candidate

/-- `validate_formal_replay_input_bundle`. The bundle is returned as it came; here the signals that
were verified are. -/
def validateFormalReplayInputBundle (registry : Registry) (candles : List DatasetCandle)
    (expected : Expected) (data : Json) : Except Fault (List InformationSignal) := do
  let bundle ← schema bundleKeys "formal replay input bundle schema mismatch" data
  refuse ((← entry bundle "schema_version") ≠ .str "1.0.0")
    (valueError "unsupported replay input bundle schema version")
  let computed ← canonicalSha256
    (.obj (bundle.filter fun member => member.1 ≠ "bundle_sha256"))
  let declared ← entry bundle "bundle_sha256"
  refuse (declared ≠ .str computed) (valueError "replay input bundle sha256 checksum mismatch")
  refuse (∃ bundleSha256 ∈ expected.bundleSha256, declared ≠ .str bundleSha256)
    (valueError "replay input bundle sha256 differs from expected identity")
  expected.protocol.elim (.ok ()) (checkProtocol bundle)
  expected.datasetEvidence.elim (.ok ()) (checkDataset bundle)
  let datasetEvidenceId := textOf (← entry bundle "dataset_evidence_id")
  let inputs ← listOf (← entry bundle "decision_inputs")
  let verified ← verifyEntries registry expected.role expected.protocol candles datasetEvidenceId
    [] inputs
  expected.signals.elim (.ok ()) (checkSignals bundle inputs)
  .ok verified

end

end QuantAgent.Replay
