/-
This file embeds the one-shot unblinding of the validation: the freeze of a cutoff into a manifest,
the checks of a committed freeze, the registry of executions, and the execution that claims its key
before it loads the labels.

Every read of a file, every answer of git and every statement of the registry is a step of its own;
between any two of them other processes act, and a process may stop. Anybody may write any file.
-/

import QuantAgent.Library.Concurrent
import QuantAgent.Validation.BlindLedger

namespace QuantAgent.Validation

open Concurrent

/-! ### What is shared -/

/-- A row of a frozen ledger: its times, and whether it has every input of the formal test. -/
structure SnapshotRow where
  decisionCloseMs : ℤ
  referenceTimeMs : ℤ
  target240mMs : ℤ
  formalTestReady : Bool

/-- What a snapshot of the ledger holds. -/
structure Snapshot where
  intact : Bool
  rows : List SnapshotRow
  partitions : List (String × String)

inductive ExecutionState where
  | started
  | completed
  deriving DecidableEq

structure ExecutionRow where
  freezeManifestSha256 : String
  freezeCommitSha : String
  unblindCutoffMs : ℤ
  protocolHash : String
  clarificationHash : String
  startedAtUtc : String
  completedAtUtc : Option String := none
  state : ExecutionState := .started
  resultManifestSha256 : Option String := none
  executingGitSha : String

structure UnblindState where
  files : String → Option String := fun _ => none
  registry : Table ExecutionRow := ∅

inductive UnblindFault where
  | refused (code : String)
  | notFound (path : String)
  | invalid (what : String)
  | alreadyConsumed (key : String)
  | duplicateKey (key : String)
  | outside (reason : String)

inductive UnblindTransaction where
  | read (path : String)
  | write (path bytes : String)
  | select (key : String)
  | insert (key : String) (row : ExecutionRow)
  | complete (key completedAtUtc resultManifestSha256 : String)

abbrev UnblindTransaction.Value : UnblindTransaction → Type
  | read _ => Option String
  | select _ => Option ExecutionRow
  | _ => Unit

def UnblindTransaction.perform : (transaction : UnblindTransaction) → UnblindState →
    Except UnblindFault (UnblindState × transaction.Value)
  | read path, state => .ok (state, state.files path)
  | write path bytes, state =>
    .ok ({ state with files := Function.update state.files path (some bytes) }, ())
  | select key, state => .ok (state, state.registry.lookup key)
  | insert key row, state =>
    match state.registry.lookup key with
    | some _ => .error (.duplicateKey key)
    | none => .ok ({ state with registry := state.registry.insert key row }, ())
  | complete key completedAtUtc resultManifestSha256, state =>
    .ok ({ state with registry := state.registry.modify key fun row => { row with
      state := .completed
      completedAtUtc := some completedAtUtc
      resultManifestSha256 := some resultManifestSha256 } }, ())

/-- What a command of git prints and the code it exits with. -/
structure GitReply where
  code : ℤ
  output : String

/-- What a process asks of what lies outside: git, the clock, the readiness of the validation, a
backup of the live ledger, the candles with the labels, and the evaluation of what was loaded. -/
inductive UnblindRequest where
  | git (directory : String) (arguments : List String)
  | currentGitSha
  | now
  | readiness (asOfMs nowMs : Option ℤ)
  | backup
  | labels (startMs endMs : ℤ)
  | evaluate

abbrev UnblindRequest.Answer : UnblindRequest → Type
  | git _ _ => GitReply
  | currentGitSha => String
  | now => String
  | readiness _ _ => Json
  | backup => String
  | labels _ _ => Unit
  | evaluate => String

/-- A call of a process, or an edit of a file by anybody. -/
inductive UnblindCall where
  | createFreeze (outputPath readinessPath : String) (asOfMs nowMs : Option ℤ)
  | execute (freezeManifestPath outputDir : String)
  | edit (path bytes : String)

abbrev unblinding : Language where
  Shared := UnblindState
  Fault := UnblindFault
  Transaction := UnblindTransaction
  Value := UnblindTransaction.Value
  Request := UnblindRequest
  Answer := UnblindRequest.Answer
  Call := UnblindCall
  Result := Unit
  perform := UnblindTransaction.perform

/-! ### Reading -/

/-- What the processes have in common: the conversions of texts, the digest of a file, what SQLite
reads of a database, and the paths of the gatekeeper. -/
structure Gatekeeper where
  forms : Conversions
  sha256 : String → String
  database : String → Option Snapshot
  protocolPath : String
  clarificationPath : String
  clarification002Path : String
  clarification003Path : String
  clarification004Path : String
  ledgerPath : String
  snapshotDir : String
  repoRoot : Option String

def findFile (path : String) : Program unblinding (Option String) :=
  .run (L := unblinding) (.read path)

def readFile (path : String) : Program unblinding String := do
  match ← findFile path with
  | some bytes => pure bytes
  | none => .fail (.notFound path)

def writeFile (path bytes : String) : Program unblinding Unit :=
  .run (L := unblinding) (.write path bytes)

def demand {Value : Type} (value : Option Value) (fault : UnblindFault) :
    Program unblinding Value :=
  match value with
  | some value => pure value
  | none => .fail fault

def git (directory : String) (arguments : List String) : Program unblinding GitReply :=
  .request (L := unblinding) (.git directory arguments)

/-- `subprocess.run` with `check=True`. -/
def gitChecked (directory : String) (arguments : List String) : Program unblinding String := do
  let reply ← git directory arguments
  .refuse (reply.code ≠ 0) (.outside "CalledProcessError")
  pure reply.output

def Json.members : Json → Option (List (String × Json))
  | .obj members => some members
  | _ => none

def Json.text : Json → Option String
  | .str text => some text
  | _ => none

/-- A number that can be compared with another. -/
def Json.number : Json → Option Double
  | .bool value => some (.finite value.toNat)
  | .int value => some (.finite value)
  | .float value => some value
  | _ => none

/-- `text.strip()`. -/
def strip (text : String) : String :=
  String.ofList ((text.toList.dropWhile Char.isWhitespace).reverse.dropWhile
    Char.isWhitespace).reverse

/-- The letters with every `\r\n` replaced by `\n`. -/
def unixLines : List Char → List Char
  | '\r' :: '\n' :: rest => '\n' :: unixLines rest
  | letter :: rest => letter :: unixLines rest
  | [] => []

def relativeTo (path directory : String) : Option String :=
  let start := directory.toList ++ ['/']
  if start.isPrefixOf path.toList then some (String.ofList (path.toList.drop start.length))
  else none

/-! ### The frozen identities -/

def frozenClarification002Hash : String :=
  "94c938b65640252c85a9e320b6f7759729ffa00f793c93e17cca52726e73212e"

def frozenClarification003Hash : String :=
  "035b7528141c714fbe1aef310462d5aa5fd96d3d5fdec67ae8f70082531d7a92"

def frozenClarification004Hash : String :=
  "a2f5e79a666d973b7fb86d23b92e8763ad341c831e652001304c4840fa91bb07"

/-- The identities that a manifest must carry, in the order in which they enter the key. -/
def frozenIdentities : List (String × String) :=
  [("protocol_hash", frozenProtocolHash), ("clarification_hash", frozenClarificationHash),
    ("clarification_002_hash", frozenClarification002Hash),
    ("clarification_003_hash", frozenClarification003Hash),
    ("clarification_004_hash", frozenClarification004Hash),
    ("corrected_protocol_version", "v0.3.26"),
    ("corrected_evaluator_version", "H39_CONDITIONAL_OLS_HAC_V1"),
    ("input_contract_version", "H39_REQUIRED_INPUT_V1")]

def requiredKeys : List String :=
  ["artifact_name", "hypothesis_id", "validation_start_ms", "validation_start_utc",
    "unblind_cutoff_ms", "unblind_cutoff_utc", "expected_boundary_count",
    "observed_boundary_count", "eligible_boundary_count", "eligible_coverage",
    "distinct_days_count", "readiness_artifact_path", "readiness_sha256",
    "frozen_ledger_snapshot_path", "frozen_ledger_snapshot_sha256", "snapshot_eligible_row_count",
    "source_partitions", "protocol_hash", "clarification_hash", "clarification_002_hash",
    "clarification_003_hash", "clarification_004_hash", "corrected_protocol_version",
    "corrected_evaluator_version", "input_contract_version", "code_version_sha", "attestations"]

def minimumValidationDays : ℚ := 14

def minimumEligibleObservations : ℕ := 750

def minimumCoverageRatio : ℚ := 9 / 10

abbrev Manifest := List (String × Json)

section

variable (keeper : Gatekeeper)

def Gatekeeper.executionKey (manifestSha256 commitSha : String) (cutoffMs : ℤ) : String :=
  keeper.sha256 (manifestSha256 ++ commitSha ++ toString cutoffMs ++
    String.join (frozenIdentities.map Prod.snd))

def Gatekeeper.object (text : String) : Option Manifest :=
  (keeper.forms.loads text).bind Json.members

def openDatabase (path : String) : Program unblinding Snapshot := do
  let bytes ← readFile path
  demand (keeper.database bytes) (.outside "OperationalError")

def textField (manifest : Manifest) (key : String) : Program unblinding String :=
  demand ((manifest.lookup key).bind Json.text) (.invalid key)

def intField (manifest : Manifest) (key : String) : Program unblinding ℤ :=
  demand ((manifest.lookup key).bind (intOf keeper.forms)) (.invalid key)

def maturityGate (manifest : Manifest) (key : String) (bound : ℚ) : Program unblinding Unit := do
  let number ← demand ((manifest.lookup key).bind Json.number) (.invalid key)
  .refuse (number.Less (.finite bound)) (.refused "FREEZE_MANIFEST_MATURITY_GATES_UNMET")

/-- One of the frozen files has the frozen digest; some are looked for in the repository too. -/
def verifyFrozenFile (path : String) (fallback : Option String) (expected code : String) :
    Program unblinding Unit := do
  let here ← findFile path
  let bytes ← readFile (if here = none then fallback.getD path else path)
  .refuse (keeper.sha256 bytes ≠ expected) (.refused code)

/-- The file in the repository, if one is named. -/
def Gatekeeper.inRepository (file : String) : Option String :=
  keeper.repoRoot.map fun root => root ++ file

def verifyProtocolAndClarificationHashes : Program unblinding Unit := do
  verifyFrozenFile keeper keeper.protocolPath none frozenProtocolHash "PROTOCOL_HASH_DRIFT"
  verifyFrozenFile keeper keeper.clarificationPath none frozenClarificationHash
    "CLARIFICATION_HASH_DRIFT"
  verifyFrozenFile keeper keeper.clarification002Path
    (keeper.inRepository
      "/deliverables/v0.3.25/H39_PROTOCOL_CLARIFICATION_002_DEPENDENCE_ROBUST_INFERENCE.json")
    frozenClarification002Hash "CLARIFICATION_002_HASH_DRIFT"
  verifyFrozenFile keeper keeper.clarification003Path
    (keeper.inRepository
      "/deliverables/v0.3.25/H39_PROTOCOL_CLARIFICATION_003_ROBUST_NESTED_NULL.json")
    frozenClarification003Hash "CLARIFICATION_003_HASH_DRIFT"
  verifyFrozenFile keeper keeper.clarification004Path
    (keeper.inRepository
      "/deliverables/v0.3.26/H39_PROTOCOL_CLARIFICATION_004_CONDITIONAL_INPUT_CONTRACT.json")
    frozenClarification004Hash "CLARIFICATION_004_HASH_DRIFT"

def verifyReadiness (manifest : Manifest) : Program unblinding Unit := do
  let path ← textField manifest "readiness_artifact_path"
  let bytes ← readFile path
  .refuse (manifest.lookup "readiness_sha256" ≠ some (.str (keeper.sha256 bytes)))
    (.refused "READINESS_ARTIFACT_TAMPERED")
  let again ← readFile path
  let readiness ← demand (keeper.object again) (.invalid "readiness")
  .refuse (¬ Truthy ((readiness.lookup "ready_for_unblind").getD .null))
    (.refused "READINESS_ARTIFACT_INVALID")

def verifySnapshot (manifest : Manifest) : Program unblinding Unit := do
  let path ← textField manifest "frozen_ledger_snapshot_path"
  let bytes ← readFile path
  .refuse
    (manifest.lookup "frozen_ledger_snapshot_sha256" ≠ some (.str (keeper.sha256 bytes)))
    (.refused "FROZEN_SNAPSHOT_TAMPERED")
  let snapshot ← openDatabase keeper path
  .refuse (snapshot.intact = false) (.refused "FROZEN_SNAPSHOT_CORRUPT")

def verifyPartitions (manifest : Manifest) : Program unblinding Unit := do
  let path ← textField manifest "frozen_ledger_snapshot_path"
  let snapshot ← openDatabase keeper path
  let partitions ← demand ((manifest.lookup "source_partitions").bind Json.members)
    (.invalid "source_partitions")
  .refuse (∃ partition ∈ partitions,
      (snapshot.partitions.lookup partition.1).map Json.str ≠ some partition.2)
    (.refused "SOURCE_PARTITION_MUTATION")

def verifyFreezeManifest (path : String) : Program unblinding Manifest := do
  let text ← readFile path
  let manifest ← demand (keeper.object text) (.refused "FREEZE_MANIFEST_CORRUPT")
  .refuse (∃ key ∈ requiredKeys, manifest.lookup key = none)
    (.refused "FREEZE_MANIFEST_CORRUPT")
  verifyProtocolAndClarificationHashes keeper
  .refuse (∃ identity ∈ frozenIdentities,
    manifest.lookup identity.1 ≠ some (.str identity.2)) (.refused "FREEZE_MANIFEST_MISMATCH")
  verifyReadiness keeper manifest
  verifySnapshot keeper manifest
  maturityGate manifest "distinct_days_count" minimumValidationDays
  maturityGate manifest "eligible_boundary_count" minimumEligibleObservations
  maturityGate manifest "eligible_coverage" minimumCoverageRatio
  verifyPartitions keeper manifest
  pure manifest

/-- Where git is asked for its root: in the repository if one is named, else beside the file. -/
def Gatekeeper.workingDirectory (path : String) : String :=
  keeper.repoRoot.getD (String.intercalate "/" (path.splitOn "/").dropLast)

/-- `verify_committed_freeze_package`: the commit of the freeze. -/
def verifyCommittedFreezePackage (path : String) : Program unblinding String := do
  let failed : UnblindFault := .refused "COMMITTED_FREEZE_VERIFICATION_FAILED"
  let _ ← readFile path
  let top ← git (keeper.workingDirectory path) ["rev-parse", "--show-toplevel"]
  .refuse (top.code ≠ 0) failed
  let root := strip top.output
  let relative ← demand (relativeTo path root) failed
  let tracked ← git root ["ls-files", "--error-unmatch", relative]
  .refuse (tracked.code ≠ 0) failed
  let status ← gitChecked root ["status", "--porcelain", "--", relative]
  .refuse (strip status ≠ "") failed
  let log ← gitChecked root ["log", "-n", "1", "--format=%H", "--", relative]
  let commit := strip log
  .refuse (commit = "") failed
  let committed ← gitChecked root ["show", commit ++ ":" ++ relative]
  let disk ← readFile path
  .refuse (committed ≠ disk ∧ unixLines committed.toList ≠ unixLines disk.toList) failed
  let ancestor ← git root ["merge-base", "--is-ancestor", commit, "HEAD"]
  .refuse (ancestor.code ≠ 0) failed
  let time ← gitChecked root ["log", "-1", "--format=%ct", commit]
  .refuse (strip time ≠ "" ∧ keeper.forms.int (strip time) = none) (.invalid "time")
  pure commit

def Snapshot.eligible (snapshot : Snapshot) (cutoffMs : ℤ) : List SnapshotRow :=
  snapshot.rows.filter fun row => validationStartMs ≤ row.decisionCloseMs ∧
    row.decisionCloseMs ≤ cutoffMs ∧ row.formalTestReady = true

def blindPrecheck (manifest : Manifest) (cutoffMs : ℤ) :
    Program unblinding (List SnapshotRow) := do
  let path ← textField manifest "frozen_ledger_snapshot_path"
  let snapshot ← openDatabase keeper path
  let eligible := snapshot.eligible cutoffMs
  .refuse (eligible.length < minimumEligibleObservations) (.refused "BLIND_PRECHECK_FAILED")
  let counted ← intField keeper manifest "snapshot_eligible_row_count"
  .refuse (eligible.length ≠ counted) (.refused "BLIND_PRECHECK_FAILED")
  pure eligible

def findExecution (key : String) : Program unblinding (Option ExecutionRow) :=
  .run (L := unblinding) (.select key)

def reserveExecution (key : String) (row : ExecutionRow) : Program unblinding Unit := do
  let held ← findExecution key
  .refuse (held ≠ none) (.alreadyConsumed key)
  let started ← .request (L := unblinding) .now
  .run (L := unblinding) (.insert key { row with startedAtUtc := started })

/-- The part of `execute_one_shot_unblind` before the claim: the row that it will claim, under its
key, and the eligible rows. -/
def precheck (freezeManifestPath outputDir : String) :
    Program unblinding (String × ExecutionRow × List SnapshotRow) := do
  let receipt ← findFile (outputDir ++ "/H39_ONE_SHOT_EXECUTION_RECEIPT.json")
  .refuse (receipt ≠ none) (.alreadyConsumed outputDir)
  let manifest ← verifyFreezeManifest keeper freezeManifestPath
  let commit ← verifyCommittedFreezePackage keeper freezeManifestPath
  let bytes ← readFile freezeManifestPath
  let cutoffMs ← intField keeper manifest "unblind_cutoff_ms"
  let executing ← .request (L := unblinding) .currentGitSha
  let eligible ← blindPrecheck keeper manifest cutoffMs
  let started ← .request (L := unblinding) .now
  pure (keeper.executionKey (keeper.sha256 bytes) commit cutoffMs, {
    freezeManifestSha256 := keeper.sha256 bytes
    freezeCommitSha := commit
    unblindCutoffMs := cutoffMs
    protocolHash := frozenProtocolHash
    clarificationHash := frozenClarificationHash
    startedAtUtc := started
    executingGitSha := executing }, eligible)

/-- The least and the largest of some times. -/
def span (rows : List SnapshotRow) : Option (ℤ × ℤ) := do
  let first ← (rows.map SnapshotRow.referenceTimeMs).min?
  let last ← (rows.map SnapshotRow.target240mMs).max?
  some (first, last)

def executeOneShotUnblind (freezeManifestPath outputDir : String) : Program unblinding Unit := do
  let (key, row, eligible) ← precheck keeper freezeManifestPath outputDir
  reserveExecution key row
  let (startMs, endMs) ← demand (span eligible) (.invalid "span")
  .request (L := unblinding) (.labels startMs endMs)
  let receipt ← .request (L := unblinding) .evaluate
  writeFile (outputDir ++ "/H39_ONE_SHOT_EXECUTION_RECEIPT.json") receipt
  let written ← readFile (outputDir ++ "/H39_ONE_SHOT_EXECUTION_RECEIPT.json")
  let completed ← .request (L := unblinding) .now
  .run (L := unblinding) (.complete key completed (keeper.sha256 written))

/-- What a freeze writes down. -/
structure Freeze where
  readiness : Manifest
  summary : Manifest
  cutoffMs : ℤ
  cutoffUtc : Json
  readinessPath : String
  readinessBytes : String
  snapshotPath : String
  snapshot : Snapshot
  snapshotBytes : String
  liveBytes : String
  partitions : List (String × String)
  codeVersionSha : String
  createdAtUtc : String

def Gatekeeper.freezeManifest (freeze : Freeze) : Json :=
  let count (key : String) : Json := (freeze.summary.lookup key).getD (.int 0)
  let ready := freeze.snapshot.rows.countP fun row =>
    row.decisionCloseMs ≤ freeze.cutoffMs ∧ row.formalTestReady = true
  let identities := frozenIdentities.map fun identity => (identity.1, Json.str identity.2)
  .obj ([
    ("schema_version", .str "1.0.0"), ("artifact_name", .str "H39_ONE_SHOT_UNBLIND_FREEZE"),
    ("freeze_status", .str "FREEZE_CREATED_AWAITING_GIT_COMMIT"),
    ("hypothesis_id", .str "H39_MICROSTRUCTURE_DIRECTIONAL_INFORMATION"),
    ("validation_start_ms", .int validationStartMs),
    ("validation_start_utc", .str "2026-09-04T11:15:00Z"),
    ("unblind_cutoff_ms", .int freeze.cutoffMs), ("unblind_cutoff_utc", freeze.cutoffUtc),
    ("clock_source", (freeze.summary.lookup "clock_source").getD (.str "WALL_CLOCK")),
    ("expected_boundary_count", count "expected_boundary_count"),
    ("observed_boundary_count", count "observed_boundary_count"),
    ("eligible_boundary_count", count "eligible_boundary_count"),
    ("eligible_coverage",
      (freeze.summary.lookup "eligible_coverage").getD (.float (.finite 0))),
    ("distinct_days_count", count "distinct_days_count"),
    ("readiness_artifact_path", .str freeze.readinessPath),
    ("readiness_sha256", .str (keeper.sha256 freeze.readinessBytes)),
    ("readiness_status",
      (freeze.readiness.lookup "status").getD (.str "H39_READY_FOR_ONE_SHOT_UNBLIND")),
    ("ready_for_unblind", .bool true),
    ("frozen_ledger_snapshot_path", .str freeze.snapshotPath),
    ("frozen_ledger_snapshot_sha256", .str (keeper.sha256 freeze.snapshotBytes)),
    ("snapshot_total_row_count", .int freeze.snapshot.rows.length),
    ("snapshot_eligible_row_count", .int ready),
    ("live_ledger_path", .str keeper.ledgerPath),
    ("live_ledger_sha256", .str (keeper.sha256 freeze.liveBytes)),
    ("source_partitions",
      .obj (freeze.partitions.map fun partition => (partition.1, Json.str partition.2)))] ++
    identities ++ [
    ("code_version_sha", .str freeze.codeVersionSha),
    ("primary_covariance_method", .str "NEWEY_WEST_HAC"),
    ("primary_hac_max_lag", .int 3), ("secondary_hac_max_lag", .int 15),
    ("incremental_dependence_robust", .bool true),
    ("formal_nested_method", .str "H39_CONDITIONAL_OLS_HAC_V1"),
    ("nested_score_test_max_lag", .int 3),
    ("lr_calibration_method", .str "CHRONOLOGICAL_MOVING_BLOCK_BOOTSTRAP"),
    ("lr_bootstrap_status", .str "SUPERSEDED_DIAGNOSTIC_ONLY"),
    ("lr_bootstrap_block_length", .int 4), ("lr_bootstrap_replications", .int 5000),
    ("lr_bootstrap_seed", .int 390325), ("created_at_utc", .str freeze.createdAtUtc),
    ("attestations", .obj (["zero_source_mutation", "zero_protocol_drift",
      "zero_final_holdout_access", "zero_prior_validation_performance_inspection",
      "committed_git_freeze_required", "exactly_once_registry_required",
      "wal_safe_snapshot_bound"].map fun name => (name, .bool true)))])

def createFreezeManifest (outputPath readinessPath : String) (asOfMs nowMs : Option ℤ) :
    Program unblinding Unit := do
  let answer ← .request (L := unblinding) (.readiness asOfMs nowMs)
  let readiness ← demand (Json.members answer) (.invalid "readiness")
  .refuse (¬ Truthy ((readiness.lookup "ready_for_unblind").getD .null))
    (.refused "REFUSED_VALIDATION_NOT_MATURE")
  let summary ← demand ((readiness.lookup "summary").bind Json.members) (.invalid "summary")
  let cutoffMs ← intField keeper summary "clock_ceiling_ms"
  let cutoffUtc ← demand (summary.lookup "clock_ceiling_utc") (.invalid "clock_ceiling_utc")
  writeFile readinessPath (keeper.forms.dumps answer)
  let readinessBytes ← readFile readinessPath
  let backup ← .request (L := unblinding) .backup
  let snapshotPath := keeper.snapshotDir ++ "/H39_ONE_SHOT_LEDGER_SNAPSHOT_" ++
    toString cutoffMs ++ ".sqlite3"
  writeFile snapshotPath backup
  let snapshot ← openDatabase keeper snapshotPath
  .refuse (snapshot.intact = false) (.refused "FROZEN_SNAPSHOT_CORRUPT")
  let snapshotBytes ← readFile snapshotPath
  let liveBytes ← readFile keeper.ledgerPath
  let again ← openDatabase keeper snapshotPath
  let codeVersionSha ← .request (L := unblinding) .currentGitSha
  let createdAtUtc ← .request (L := unblinding) .now
  writeFile outputPath (keeper.forms.dumps (keeper.freezeManifest {
    readiness, summary, cutoffMs, cutoffUtc, readinessPath, readinessBytes, snapshotPath, snapshot
    snapshotBytes, liveBytes, partitions := again.partitions, codeVersionSha, createdAtUtc }))

/-- What a process does at a call. -/
def unblindMain : UnblindCall → Program unblinding Unit
  | .createFreeze outputPath readinessPath asOfMs nowMs =>
    createFreezeManifest keeper outputPath readinessPath asOfMs nowMs
  | .execute freezeManifestPath outputDir =>
    executeOneShotUnblind keeper freezeManifestPath outputDir
  | .edit path bytes => writeFile path bytes

end

end QuantAgent.Validation
