/-
This file embeds how evaluations of shadow grids are saved. Under its natural key an evaluation is
inserted, found again, replaced while it is provisional, or in conflict; the decision is taken on an
earlier read, and the write is a conditional update or an insert under unique keys.

Writers take one SQL statement at a time, in any order, and may stop at any of them. A terminal row
is never changed, because the update names the id of the provisional row that was read, and an id is
the hash of the content it stands for.
-/

import QuantAgent.Library.Refusal
import QuantAgent.Library.Runs
import QuantAgent.Library.Table

namespace QuantAgent.MarketWatch

/-! ### Evaluations -/

inductive GridDecision where
  | longBias
  | shortBias
  | neutral
  | pause
  deriving DecidableEq

/-- `GridEligibilityStatus`, or any other text. -/
inductive EligibilityStatus where
  | active
  | notActivePause
  | pendingHorizon
  | pendingDataGap
  | resolved
  | other (text : String)
  deriving DecidableEq

namespace EligibilityStatus

def text : EligibilityStatus → String
  | active => "ACTIVE"
  | notActivePause => "NOT_ACTIVE_PAUSE"
  | pendingHorizon => "PENDING_HORIZON"
  | pendingDataGap => "PENDING_DATA_GAP"
  | resolved => "RESOLVED"
  | other text => text

def terminal : List EligibilityStatus := [resolved, notActivePause]

def provisional : List EligibilityStatus := [pendingHorizon, pendingDataGap]

/-- What may take the place of a provisional evaluation. -/
def replacing : List EligibilityStatus := [pendingHorizon, pendingDataGap, resolved]

end EligibilityStatus

/-- What the hash of an evaluation covers; `details` are its other fields, rounded. -/
structure Payload where
  featureEvidenceId : String
  evaluationProfileVersion : String
  gridDecision : GridDecision
  eligibilityStatus : EligibilityStatus
  details : String
  deriving DecidableEq

/-- `TacticalGridShadowEvaluationV1`, with its other fields as `details`. -/
structure TacticalGridShadowEvaluationV1 where
  evaluationId : String
  featureEvidenceId : String
  evaluationProfileVersion : String
  gridDecision : GridDecision
  eligibilityStatus : EligibilityStatus
  details : String
  deriving DecidableEq

/-- The rounding of the other fields, the hash of a payload, and the checks on the other fields. -/
structure Encoding where
  rounded : String → String
  digest : Payload → String
  acceptsDetails : TacticalGridShadowEvaluationV1 → Bool

inductive ErrorKind where
  | evidenceLinkage
  | evidenceIdentity
  | validation
  | identity
  | conflict
  deriving DecidableEq

structure SaveError where
  kind : ErrorKind
  message : String

/-- A row: the columns of its keys, and the evaluation as `evaluation_json` holds it. -/
structure EvaluationRow where
  evaluationId : String
  featureEvidenceId : String
  evaluationProfileVersion : String
  embeddedId : String
  payload : Payload
  deriving DecidableEq

namespace TacticalGridShadowEvaluationV1

variable (encoding : Encoding) (evaluation : TacticalGridShadowEvaluationV1)

def toCanonicalPayload : Payload where
  featureEvidenceId := evaluation.featureEvidenceId
  evaluationProfileVersion := evaluation.evaluationProfileVersion
  gridDecision := evaluation.gridDecision
  eligibilityStatus := evaluation.eligibilityStatus
  details := encoding.rounded evaluation.details

/-- `(feature_evidence_id, evaluation_profile_version)`. -/
def naturalKey : String × String :=
  (evaluation.featureEvidenceId, evaluation.evaluationProfileVersion)

/-- `validate_tactical_grid_shadow_evaluation`. -/
def validate : Except SaveError Unit := do
  refuse (evaluation.evaluationProfileVersion ≠ "GRID_OUTCOME_PROFILE_V1") ⟨.validation,
    "Invalid profile version: expected GRID_OUTCOME_PROFILE_V1, got " ++
      evaluation.evaluationProfileVersion⟩
  refuse (evaluation.evaluationId ≠ encoding.digest (evaluation.toCanonicalPayload encoding))
    ⟨.identity, "B2B_EVALUATION_ID_MISMATCH: evaluation_id '" ++ evaluation.evaluationId ++
      "' does not match computed hash '" ++
      encoding.digest (evaluation.toCanonicalPayload encoding) ++ "'"⟩
  refuse (evaluation.featureEvidenceId = "") ⟨.validation, "Missing feature_evidence_id"⟩
  refuse (evaluation.gridDecision = .pause ∧ evaluation.eligibilityStatus ≠ .notActivePause)
    ⟨.validation, "PAUSE plan must have eligibility_status NOT_ACTIVE_PAUSE"⟩
  refuse (encoding.acceptsDetails evaluation = false) ⟨.validation, "invalid evaluation"⟩

def toRow : EvaluationRow where
  evaluationId := evaluation.evaluationId
  featureEvidenceId := evaluation.featureEvidenceId
  evaluationProfileVersion := evaluation.evaluationProfileVersion
  embeddedId := evaluation.evaluationId
  payload := evaluation.toCanonicalPayload encoding

end TacticalGridShadowEvaluationV1

namespace EvaluationRow

variable (row : EvaluationRow)

def naturalKey : String × String := (row.featureEvidenceId, row.evaluationProfileVersion)

/-- The evaluation that `evaluation_json` is read back as. -/
def embedded : TacticalGridShadowEvaluationV1 where
  evaluationId := row.embeddedId
  featureEvidenceId := row.payload.featureEvidenceId
  evaluationProfileVersion := row.payload.evaluationProfileVersion
  gridDecision := row.payload.gridDecision
  eligibilityStatus := row.payload.eligibilityStatus
  details := row.payload.details

def Terminal : Prop := row.payload.eligibilityStatus ∈ EligibilityStatus.terminal

end EvaluationRow

/-! ### Writers -/

/-- A key as the messages of its conflicts show it. -/
def keyText (key : String × String) : String := "(" ++ key.1 ++ ", " ++ key.2 ++ ")"

/-- Why a write changed no row: its update found none, or a unique key refused the statement. -/
inductive Lost where
  | unmatched (existingRowId : String)
  | refused (statement columns : String)

/-- What a conflict says of a lost write, once the row under its natural key was looked up. -/
def Lost.message (found : Option EvaluationRow) : Lost → String
  | unmatched existingRowId =>
    "Conditional update failed for evaluation natural key: expected prior evaluation_id " ++
      existingRowId ++ ", found " ++ found.elim "none" EvaluationRow.evaluationId
  | refused statement columns => "Concurrent or conflicting " ++ statement ++
      " for evaluation natural key: UNIQUE constraint failed: " ++ columns

/-- The statement a writer of `save_grid_shadow_evaluation` is about to run, or how it ended. -/
inductive Stage where
  | linking
  | findingPrimaryKey
  | findingRow
  | replacing (existingRowId : String)
  | inserting
  | racing (lost : Lost)
  | returned (evaluationId : String)
  | raised (error : SaveError)
  | crashed

structure Writer where
  evaluation : TacticalGridShadowEvaluationV1
  stage : Stage

/-- The tables and the writers; `evidence` says of each row of feature evidence whether its identity
verifies. -/
structure Store where
  evidence : Table Bool := ∅
  rows : List EvaluationRow := []
  writers : ℕ → Option Writer := fun _ => none

inductive Event where
  | recordEvidence (evidenceId : String) (verified : Bool)
  | start (writer : ℕ) (evaluation : TacticalGridShadowEvaluationV1)
  | advance (writer : ℕ)
  | crash (writer : ℕ)
  deriving DecidableEq

def conflict (message : String) : Stage :=
  .raised ⟨.conflict, "B2B_EVALUATION_CONFLICT: " ++ message⟩

namespace Store

variable (encoding : Encoding) (store : Store) (evaluation : TacticalGridShadowEvaluationV1)

def rowUnder (key : String × String) : Option EvaluationRow :=
  store.rows.find? fun row => row.naturalKey = key

/-- What follows from the row that was found under the natural key. -/
def decideOn (row : EvaluationRow) : Stage :=
  match row.embedded.validate encoding with
  | .error error => .raised error
  | .ok () =>
    if row.evaluationId ≠ row.embedded.evaluationId then
      .raised ⟨.identity, "Row evaluation_id mismatch: row=" ++ row.evaluationId ++
        ", embedded=" ++ row.embedded.evaluationId⟩
    else if row.evaluationId = evaluation.evaluationId then .returned row.evaluationId
    else if row.embedded.eligibilityStatus ∈ EligibilityStatus.terminal then
      conflict ("Authoritative terminal row (" ++ row.embedded.eligibilityStatus.text ++
        ") cannot be modified or replaced under natural key " ++ keyText evaluation.naturalKey ++
        ": existing=" ++ row.evaluationId ++ ", new=" ++ evaluation.evaluationId)
    else if row.embedded.eligibilityStatus ∈ EligibilityStatus.provisional then
      if evaluation.eligibilityStatus ∈ EligibilityStatus.replacing then
        .replacing row.evaluationId
      else conflict ("Forbidden transition from " ++ row.embedded.eligibilityStatus.text ++
        " to " ++ evaluation.eligibilityStatus.text ++ " under natural key " ++
        keyText evaluation.naturalKey)
    else conflict ("Existing evaluation has invalid status for update: " ++
      row.embedded.eligibilityStatus.text)

/-- The conditional update: its row, unless another one has the new id. -/
def replaceRow (existingRowId : String) : Except Lost (List EvaluationRow) :=
  if ¬ ∃ row ∈ store.rows, row.naturalKey = evaluation.naturalKey ∧
      row.evaluationId = existingRowId then
    .error (.unmatched existingRowId)
  else if ∃ row ∈ store.rows, row.evaluationId = evaluation.evaluationId ∧
      ¬ (row.naturalKey = evaluation.naturalKey ∧ row.evaluationId = existingRowId) then
    .error (.refused "update" "tactical_grid_shadow_evaluations_v1.evaluation_id")
  else
    .ok (store.rows.map fun row =>
      if row.naturalKey = evaluation.naturalKey ∧ row.evaluationId = existingRowId then
        evaluation.toRow encoding
      else row)

/-- The insert, unless one of the unique keys is taken. -/
def insertRow : Except Lost (List EvaluationRow) :=
  if ∃ row ∈ store.rows, row.naturalKey = evaluation.naturalKey then
    .error (.refused "insert" ("tactical_grid_shadow_evaluations_v1.feature_evidence_id, " ++
      "tactical_grid_shadow_evaluations_v1.evaluation_profile_version"))
  else if ∃ row ∈ store.rows, row.evaluationId = evaluation.evaluationId then
    .error (.refused "insert" "tactical_grid_shadow_evaluations_v1.evaluation_id")
  else .ok (store.rows ++ [evaluation.toRow encoding])

/-- A write that commits, or the look at the row that was in its way. -/
def written : Except Lost (List EvaluationRow) → List EvaluationRow × Stage
  | .ok rows => (rows, .returned evaluation.evaluationId)
  | .error lost => (store.rows, .racing lost)

/-- The rows after a writer's next statement, and how the writer goes on. -/
def statement : Stage → List EvaluationRow × Stage
  | .linking => (store.rows,
    match store.evidence.lookup evaluation.featureEvidenceId with
    | none => .raised ⟨.evidenceLinkage, "Linked feature_evidence_id does not exist in DB: " ++
        evaluation.featureEvidenceId⟩
    | some false => .raised ⟨.evidenceIdentity, "Linked B1 evidence identity mismatch: DB=" ++
        evaluation.featureEvidenceId ++ " vs " ++ evaluation.featureEvidenceId⟩
    | some true => .findingPrimaryKey)
  | .findingPrimaryKey => (store.rows,
    match store.rows.find? fun row => row.evaluationId = evaluation.evaluationId with
    | none => .findingRow
    | some row =>
      if row.naturalKey ≠ evaluation.naturalKey then
        conflict ("evaluation_id " ++ evaluation.evaluationId ++
          " already exists under different natural key " ++ keyText row.naturalKey)
      else .findingRow)
  | .findingRow => (store.rows,
    match store.rowUnder evaluation.naturalKey with
    | none => .inserting
    | some row => decideOn encoding evaluation row)
  | .replacing existingRowId =>
    store.written evaluation (store.replaceRow encoding evaluation existingRowId)
  | .inserting => store.written evaluation (store.insertRow encoding evaluation)
  | .racing lost => (store.rows,
    match store.rowUnder evaluation.naturalKey with
    | some row =>
      if row.evaluationId = evaluation.evaluationId then .returned evaluation.evaluationId
      else conflict (lost.message (some row))
    | none => conflict (lost.message none))
  | ended => (store.rows, ended)

def setWriter (writer : ℕ) (state : Writer) : Store :=
  { store with writers := Function.update store.writers writer (some state) }

def step (store : Store) : Event → Store
  | .recordEvidence evidenceId verified =>
    { store with evidence := store.evidence.insert evidenceId verified }
  | .start writer evaluation =>
    match store.writers writer with
    | some _ => store
    | none => store.setWriter writer ⟨evaluation,
        match evaluation.validate encoding with
        | .ok () => .linking
        | .error error => .raised error⟩
  | .advance writer =>
    match store.writers writer with
    | none => store
    | some state =>
      let (rows, stage) := store.statement encoding state.evaluation state.stage
      { store with rows := rows }.setWriter writer ⟨state.evaluation, stage⟩
  | .crash writer =>
    match store.writers writer with
    | none => store
    | some state => store.setWriter writer ⟨state.evaluation, .crashed⟩

@[simp] theorem setWriter_rows (writer : ℕ) (state : Writer) :
    (store.setWriter writer state).rows = store.rows := rfl

theorem setWriter_writers (writer : ℕ) (state : Writer) (other : ℕ) :
    (store.setWriter writer state).writers other =
      if other = writer then some state else store.writers other :=
  Function.update_apply store.writers writer (some state) other

def Returned (writer : ℕ) (evaluationId : String) : Prop :=
  store.writers writer = some ⟨evaluation, .returned evaluationId⟩

end Store

def submitted (encoding : Encoding) (events : List Event) : Set Payload :=
  {payload | ∃ writer evaluation, .start writer evaluation ∈ events ∧
    evaluation.toCanonicalPayload encoding = payload}

/-! ### One statement -/

namespace Store

variable {encoding : Encoding} {store : Store} {evaluation : TacticalGridShadowEvaluationV1}
  {row : EvaluationRow} {rows : List EvaluationRow} {stage : Stage} {id : String}

theorem mem_of_rowUnder {key : String × String} (found : store.rowUnder key = some row) :
    row ∈ store.rows ∧ row.naturalKey = key :=
  ⟨List.mem_of_find?_eq_some found, by simpa using List.find?_some found⟩

theorem decideOn_eq_returned (decided : decideOn encoding evaluation row = .returned id) :
    row.evaluationId = evaluation.evaluationId ∧ id = evaluation.evaluationId := by
  unfold decideOn conflict at decided
  split at decided
  · cases decided
  · split_ifs at decided with embedded same
    cases decided
    exact ⟨same, same⟩

theorem decideOn_eq_replacing (decided : decideOn encoding evaluation row = .replacing id) :
    id = row.evaluationId ∧ row.payload.eligibilityStatus ∈ EligibilityStatus.provisional := by
  unfold decideOn conflict at decided
  split at decided
  · cases decided
  · split_ifs at decided with embedded same terminal provisional
    cases decided
    exact ⟨rfl, provisional⟩

theorem written_cases (attempt : Except Lost (List EvaluationRow)) :
    (∃ rows, attempt = .ok rows ∧
        store.written evaluation attempt = (rows, .returned evaluation.evaluationId)) ∨
      ∃ lost, store.written evaluation attempt = (store.rows, .racing lost) := by
  cases attempt with
  | ok rows => exact .inl ⟨rows, rfl, rfl⟩
  | error lost => exact .inr ⟨lost, rfl⟩

inductive Writes (encoding : Encoding) (store : Store)
    (evaluation : TacticalGridShadowEvaluationV1) : Stage → List EvaluationRow → Prop
  | replace {existingRowId : String} {rows : List EvaluationRow}
      (replaced : store.replaceRow encoding evaluation existingRowId = .ok rows) :
      Writes encoding store evaluation (.replacing existingRowId) rows
  | insert {rows : List EvaluationRow}
      (inserted : store.insertRow encoding evaluation = .ok rows) :
      Writes encoding store evaluation .inserting rows

theorem statement_cases (encoding : Encoding) (store : Store)
    (evaluation : TacticalGridShadowEvaluationV1) (stage : Stage) :
    (∃ rows, store.Writes encoding evaluation stage rows ∧
        store.statement encoding evaluation stage =
          (rows, .returned evaluation.evaluationId)) ∨
      (∃ lost, store.statement encoding evaluation stage = (store.rows, .racing lost)) ∨
      (store.statement encoding evaluation stage).1 = store.rows ∧
        stage ≠ .inserting ∧ ∀ existingRowId, stage ≠ .replacing existingRowId := by
  cases stage with
  | replacing existingRowId =>
    obtain ⟨rows, replaced, returns⟩ | waits := store.written_cases
      (store.replaceRow encoding evaluation existingRowId)
    · exact .inl ⟨rows, .replace replaced, returns⟩
    · exact .inr (.inl waits)
  | inserting =>
    obtain ⟨rows, inserted, returns⟩ | waits := store.written_cases
      (store.insertRow encoding evaluation)
    · exact .inl ⟨rows, .insert inserted, returns⟩
    · exact .inr (.inl waits)
  | _ => exact .inr (.inr ⟨rfl, nofun, nofun⟩)

theorem statement_rows (encoding : Encoding) (store : Store)
    (evaluation : TacticalGridShadowEvaluationV1) (stage : Stage) :
    (∃ rows, store.Writes encoding evaluation stage rows ∧
        store.statement encoding evaluation stage =
          (rows, .returned evaluation.evaluationId)) ∨
      (store.statement encoding evaluation stage).1 = store.rows := by
  obtain writes | waits | reads := statement_cases encoding store evaluation stage
  · exact .inl writes
  · exact .inr (waits.elim fun _ => congrArg Prod.fst)
  · exact .inr reads.1

theorem statement_eq_replacing
    (goesOn : (store.statement encoding evaluation stage).2 = .replacing id) :
    ∃ row ∈ store.rows, decideOn encoding evaluation row = .replacing id := by
  obtain ⟨rows, -, returns⟩ | ⟨lost, waits⟩ | ⟨-, inserts, replaces⟩ :=
    statement_cases encoding store evaluation stage
  · cases (congrArg Prod.snd returns).symm.trans goesOn
  · cases (congrArg Prod.snd waits).symm.trans goesOn
  cases stage with
  | inserting => exact absurd rfl inserts
  | replacing existingRowId => exact absurd rfl (replaces existingRowId)
  | findingRow =>
    simp only [statement] at goesOn
    split at goesOn
    · cases goesOn
    · next row found => exact ⟨row, (mem_of_rowUnder found).1, goesOn⟩
  | linking =>
    simp only [statement] at goesOn
    split at goesOn <;> cases goesOn
  | findingPrimaryKey =>
    simp only [statement, conflict] at goesOn
    split at goesOn
    · cases goesOn
    · split at goesOn <;> cases goesOn
  | racing lost =>
    simp only [statement, conflict] at goesOn
    split at goesOn
    · split at goesOn <;> cases goesOn
    · cases goesOn
  | returned evaluationId => cases goesOn
  | raised error => cases goesOn
  | crashed => cases goesOn

/-- Only the row that the update names changes. -/
theorem replaceRow_eq_ok {existingRowId : String}
    (replaced : store.replaceRow encoding evaluation existingRowId = .ok rows) :
    (∃ row ∈ store.rows, row.naturalKey = evaluation.naturalKey ∧
        row.evaluationId = existingRowId) ∧
      store.rows.map (fun row =>
        if row.naturalKey = evaluation.naturalKey ∧ row.evaluationId = existingRowId then
          evaluation.toRow encoding
        else row) = rows := by
  unfold replaceRow at replaced
  split_ifs at replaced with unmatched taken
  exact ⟨unmatched, Except.ok.inj replaced⟩

theorem insertRow_eq_ok (inserted : store.insertRow encoding evaluation = .ok rows) :
    (∀ row ∈ store.rows, row.naturalKey ≠ evaluation.naturalKey) ∧
      store.rows ++ [evaluation.toRow encoding] = rows := by
  unfold insertRow at inserted
  split_ifs at inserted with taken known
  exact ⟨fun row member same => taken ⟨row, member, same⟩, Except.ok.inj inserted⟩

namespace Writes

section

variable (writes : store.Writes encoding evaluation stage rows)

include writes

theorem mem :
    evaluation.toRow encoding ∈ rows := by
  cases writes with
  | replace replaced =>
    obtain ⟨⟨row, member, named⟩, rfl⟩ := replaceRow_eq_ok replaced
    exact List.mem_map.mpr ⟨row, member, if_pos named⟩
  | insert inserted =>
    rw [← (insertRow_eq_ok inserted).2]
    exact List.mem_append_right _ (List.mem_singleton_self _)

theorem new_or_old (member : row ∈ rows) :
    row = evaluation.toRow encoding ∨ row ∈ store.rows := by
  cases writes with
  | replace replaced =>
    rw [← (replaceRow_eq_ok replaced).2, List.mem_map] at member
    obtain ⟨old, stored, rfl⟩ := member
    split
    · exact .inl rfl
    · exact .inr stored
  | insert inserted =>
    rw [← (insertRow_eq_ok inserted).2, List.mem_append, List.mem_singleton] at member
    exact member.symm

theorem naturalKeys (distinct : (store.rows.map EvaluationRow.naturalKey).Nodup) :
    (rows.map EvaluationRow.naturalKey).Nodup := by
  cases writes with
  | replace replaced =>
    rw [← (replaceRow_eq_ok replaced).2, List.map_map]
    convert distinct using 2
    funext row
    show EvaluationRow.naturalKey (ite _ _ _) = _
    split_ifs with named
    · exact named.1.symm
    · rfl
  | insert inserted =>
    obtain ⟨free, rfl⟩ := insertRow_eq_ok inserted
    rw [List.map_append, List.map_singleton, List.nodup_append]
    refine ⟨distinct, List.nodup_singleton _, ?_⟩
    rintro key stored new own same
    obtain ⟨row, member, rfl⟩ := List.mem_map.mp stored
    exact free row member (same.trans (List.mem_singleton.mp own))

theorem stays (member : row ∈ store.rows)
    (spared : stage ≠ .replacing row.evaluationId) : row ∈ rows := by
  cases writes with
  | replace replaced =>
    rw [← (replaceRow_eq_ok replaced).2, List.mem_map]
    exact ⟨row, member, if_neg fun named => spared (congrArg _ named.2.symm)⟩
  | insert inserted =>
    rw [← (insertRow_eq_ok inserted).2]
    exact List.mem_append_left _ member

end

end Writes

theorem statement_eq_returned
    (returns : (store.statement encoding evaluation stage).2 = .returned id)
    (before : stage ≠ .returned id) :
    id = evaluation.evaluationId ∧
      ∃ row ∈ (store.statement encoding evaluation stage).1,
        row.naturalKey = evaluation.naturalKey ∧ row.evaluationId = evaluation.evaluationId := by
  obtain ⟨rows, writes, result⟩ | ⟨lost, waits⟩ | ⟨same, inserts, replaces⟩ :=
    statement_cases encoding store evaluation stage
  · rw [result] at returns ⊢
    cases returns
    exact ⟨rfl, evaluation.toRow encoding, writes.mem, rfl, rfl⟩
  · cases (congrArg Prod.snd waits).symm.trans returns
  rw [same]
  cases stage with
  | inserting => exact absurd rfl inserts
  | replacing existingRowId => exact absurd rfl (replaces existingRowId)
  | findingRow =>
    simp only [statement] at returns
    split at returns
    · cases returns
    · next row found =>
      obtain ⟨stored, key⟩ := mem_of_rowUnder found
      obtain ⟨own, rfl⟩ := decideOn_eq_returned returns
      exact ⟨rfl, row, stored, key, own⟩
  | racing lost =>
    simp only [statement, conflict] at returns
    split at returns
    · next row found =>
      obtain ⟨stored, key⟩ := mem_of_rowUnder found
      split_ifs at returns with own
      cases returns
      exact ⟨rfl, row, stored, key, own⟩
    · cases returns
  | linking =>
    simp only [statement] at returns
    split at returns <;> cases returns
  | findingPrimaryKey =>
    simp only [statement, conflict] at returns
    split at returns
    · cases returns
    · split at returns <;> cases returns
  | returned evaluationId => exact absurd returns before
  | raised error => cases returns
  | crashed => cases returns

end Store

/-! ### What holds in every state of a run -/

structure EvaluationRow.Faithful (encoding : Encoding) (payloads : Set Payload)
    (row : EvaluationRow) : Prop where
  submitted : row.payload ∈ payloads
  evaluationId : row.evaluationId = encoding.digest row.payload
  embeddedId : row.embeddedId = row.evaluationId
  naturalKey : row.naturalKey =
    (row.payload.featureEvidenceId, row.payload.evaluationProfileVersion)

/-- A writer that passed the validation, or that ended. -/
structure Writer.Sound (encoding : Encoding) (payloads : Set Payload) (writer : Writer) :
    Prop where
  submitted : writer.evaluation.toCanonicalPayload encoding ∈ payloads
  evaluationId : (∃ error, writer.stage = .raised error) ∨ writer.stage = .crashed ∨
    writer.evaluation.evaluationId =
      encoding.digest (writer.evaluation.toCanonicalPayload encoding)
  replacing : ∀ existingRowId, writer.stage = .replacing existingRowId →
    ∃ payload ∈ payloads, encoding.digest payload = existingRowId ∧
      payload.eligibilityStatus ∈ EligibilityStatus.provisional

structure Store.Sound (encoding : Encoding) (payloads : Set Payload) (store : Store) : Prop where
  naturalKeys : (store.rows.map EvaluationRow.naturalKey).Nodup
  rows : ∀ row ∈ store.rows, row.Faithful encoding payloads
  writers : ∀ writer state, store.writers writer = some state → state.Sound encoding payloads

section

variable {encoding : Encoding} {payloads : Set Payload} {store : Store}
  {evaluation : TacticalGridShadowEvaluationV1} {row : EvaluationRow} {stage : Stage}
  {writer : ℕ} {state : Writer} {id : String}

theorem Store.Sound.empty : Store.Sound encoding payloads {} :=
  ⟨List.nodup_nil, nofun, nofun⟩

theorem TacticalGridShadowEvaluationV1.evaluationId_of_validate
    (valid : evaluation.validate encoding = .ok ()) :
    evaluation.evaluationId = encoding.digest (evaluation.toCanonicalPayload encoding) := by
  unfold TacticalGridShadowEvaluationV1.validate at valid
  simp only [refuse_bind_eq_ok, not_not] at valid
  exact valid.2.1

theorem TacticalGridShadowEvaluationV1.faithful_toRow
    (submitted : evaluation.toCanonicalPayload encoding ∈ payloads)
    (hashed : evaluation.evaluationId =
      encoding.digest (evaluation.toCanonicalPayload encoding)) :
    (evaluation.toRow encoding).Faithful encoding payloads :=
  ⟨submitted, hashed, rfl, rfl⟩

theorem EvaluationRow.Faithful.eq_toRow (faithful : row.Faithful encoding payloads)
    (collisionFree : Set.InjOn encoding.digest payloads)
    (submitted : evaluation.toCanonicalPayload encoding ∈ payloads)
    (hashed : evaluation.evaluationId =
      encoding.digest (evaluation.toCanonicalPayload encoding))
    (same : row.evaluationId = evaluation.evaluationId) : row = evaluation.toRow encoding := by
  have payload : row.payload = evaluation.toCanonicalPayload encoding :=
    collisionFree faithful.submitted submitted
      (faithful.evaluationId.symm.trans (same.trans hashed))
  have keys := faithful.naturalKey
  have embedded := faithful.embeddedId
  rw [payload] at keys
  obtain ⟨id, evidence, profile, embeddedId, content⟩ := row
  obtain rfl : content = _ := payload
  obtain ⟨rfl, rfl⟩ : evidence = evaluation.featureEvidenceId ∧
    profile = evaluation.evaluationProfileVersion := Prod.mk.inj keys
  obtain rfl : embeddedId = id := embedded
  obtain rfl : embeddedId = evaluation.evaluationId := same
  rfl

theorem Store.Sound.setWriter (sound : store.Sound encoding payloads)
    (own : state.Sound encoding payloads) :
    (store.setWriter writer state).Sound encoding payloads where
  naturalKeys := sound.naturalKeys
  rows := sound.rows
  writers other held found := by
    rw [Store.setWriter_writers] at found
    split_ifs at found with same
    · cases found
      exact own
    · exact sound.writers other held found

variable {rows : List EvaluationRow}

theorem Store.Sound.setRows (sound : store.Sound encoding payloads)
    (writes : store.Writes encoding evaluation stage rows)
    (faithful : (evaluation.toRow encoding).Faithful encoding payloads) :
    Store.Sound encoding payloads { store with rows := rows } where
  naturalKeys := writes.naturalKeys sound.naturalKeys
  rows row member := by
    obtain rfl | old := writes.new_or_old member
    · exact faithful
    · exact sound.rows row old
  writers := sound.writers

theorem Store.Sound.statement (sound : store.Sound encoding payloads)
    (held : store.writers writer = some state) :
    Writer.Sound encoding payloads
      ⟨state.evaluation, (store.statement encoding state.evaluation state.stage).2⟩ where
  submitted := (sound.writers writer state held).submitted
  evaluationId := by
    obtain ⟨error, raised⟩ | crashed | hashed := (sound.writers writer state held).evaluationId
    · exact .inl ⟨error, by rw [raised]; rfl⟩
    · exact .inr (.inl (by rw [crashed]; rfl))
    · exact .inr (.inr hashed)
  replacing existingRowId goesOn := by
    obtain ⟨row, member, decided⟩ := Store.statement_eq_replacing goesOn
    obtain ⟨rfl, provisional⟩ := Store.decideOn_eq_replacing decided
    have faithful := sound.rows row member
    exact ⟨row.payload, faithful.submitted, faithful.evaluationId.symm, provisional⟩

theorem Store.Sound.faithful_of_writes
    (sound : store.Sound encoding payloads) (held : store.writers writer = some state)
    (writes : store.Writes encoding state.evaluation state.stage rows) :
    (state.evaluation.toRow encoding).Faithful encoding payloads := by
  have own := sound.writers writer state held
  obtain ⟨error, raised⟩ | crashed | hashed := own.evaluationId
  · rw [raised] at writes
    cases writes
  · rw [crashed] at writes
    cases writes
  · exact TacticalGridShadowEvaluationV1.faithful_toRow own.submitted hashed

theorem Store.Sound.step (event : Event) (sound : store.Sound encoding payloads)
    (known : ∀ writer evaluation, event = .start writer evaluation →
      evaluation.toCanonicalPayload encoding ∈ payloads) :
    (store.step encoding event).Sound encoding payloads := by
  cases event with
  | recordEvidence evidenceId verified =>
    exact ⟨sound.naturalKeys, sound.rows, sound.writers⟩
  | start writer evaluation =>
    cases held : store.writers writer with
    | some state => simpa only [Store.step, held] using sound
    | none =>
      simp only [Store.step, held]
      cases valid : evaluation.validate encoding with
      | error error =>
        exact sound.setWriter ⟨known writer evaluation rfl, .inl ⟨error, rfl⟩, nofun⟩
      | ok =>
        have hashed := TacticalGridShadowEvaluationV1.evaluationId_of_validate valid
        exact sound.setWriter ⟨known writer evaluation rfl, .inr (.inr hashed), nofun⟩
  | advance writer =>
    cases held : store.writers writer with
    | none => simpa only [Store.step, held] using sound
    | some state =>
      simp only [Store.step, held]
      have next := sound.statement held
      obtain ⟨rows, writes, result⟩ | same :=
        Store.statement_rows encoding store state.evaluation state.stage
      · rw [result] at next ⊢
        exact (sound.setRows writes (sound.faithful_of_writes held writes)).setWriter next
      · rw [same]
        exact sound.setWriter next
  | crash writer =>
    cases held : store.writers writer with
    | none => simpa only [Store.step, held] using sound
    | some state =>
      simp only [Store.step, held]
      exact sound.setWriter ⟨(sound.writers writer state held).submitted, .inr (.inl rfl), nofun⟩

theorem Store.Sound.spares (sound : store.Sound encoding payloads)
    (collisionFree : Set.InjOn encoding.digest payloads)
    (held : store.writers writer = some state) (member : row ∈ store.rows)
    (terminal : row.Terminal) : state.stage ≠ .replacing row.evaluationId := by
  intro replacing
  have faithful := sound.rows row member
  obtain ⟨payload, submitted, hashed, provisional⟩ :=
    (sound.writers writer state held).replacing _ replacing
  have same : payload = row.payload :=
    collisionFree submitted faithful.submitted (hashed.trans faithful.evaluationId)
  subst same
  unfold EvaluationRow.Terminal EligibilityStatus.terminal at terminal
  unfold EligibilityStatus.provisional at provisional
  simp only [List.mem_cons, List.not_mem_nil, or_false] at terminal provisional
  obtain resolved | notActive := terminal
  · rw [resolved] at provisional
    simp at provisional
  · rw [notActive] at provisional
    simp at provisional

/-! ### One step -/

namespace Store

theorem step_rows (encoding : Encoding) (store : Store) (event : Event) :
    (∃ writer state rows, event = .advance writer ∧ store.writers writer = some state ∧
        store.Writes encoding state.evaluation state.stage rows ∧
        store.step encoding event = { store with rows := rows }.setWriter writer
          ⟨state.evaluation, .returned state.evaluation.evaluationId⟩) ∨
      (store.step encoding event).rows = store.rows := by
  cases event with
  | recordEvidence evidenceId verified => exact .inr rfl
  | start writer evaluation =>
    cases held : store.writers writer <;> simp [step, held]
  | crash writer =>
    cases held : store.writers writer <;> simp [step, held]
  | advance writer =>
    cases held : store.writers writer with
    | none => simp [step, held]
    | some state =>
      obtain ⟨rows, writes, result⟩ | same :=
        statement_rows encoding store state.evaluation state.stage
      · exact .inl ⟨writer, state, rows, rfl, held, writes, by simp only [step, held, result]⟩
      · refine .inr ?_
        simpa only [step, held, setWriter_rows] using same

theorem step_writers (event : Event) (held : store.writers writer = some state) :
    (store.step encoding event).writers writer = some state ∧ event ≠ .advance writer ∨
      (store.step encoding event).writers writer = some ⟨state.evaluation, .crashed⟩ ∧
        event ≠ .advance writer ∨
      (store.step encoding event).writers writer = some ⟨state.evaluation,
          (store.statement encoding state.evaluation state.stage).2⟩ ∧
        event = .advance writer ∧
        (store.step encoding event).rows =
          (store.statement encoding state.evaluation state.stage).1 := by
  cases event with
  | recordEvidence evidenceId verified => exact .inl ⟨held, nofun⟩
  | start other evaluation =>
    refine .inl ⟨?_, nofun⟩
    cases busy : store.writers other with
    | some state => simpa only [step, busy] using held
    | none =>
      simp only [step, busy]
      rw [setWriter_writers, if_neg, held]
      rintro rfl
      cases busy.symm.trans held
  | crash other =>
    by_cases own : writer = other
    · subst own
      simp [step, held, setWriter_writers]
    · refine .inl ⟨?_, nofun⟩
      cases busy : store.writers other with
      | none => simpa only [step, busy] using held
      | some state =>
        simp only [step, busy]
        rw [setWriter_writers, if_neg own, held]
  | advance other =>
    by_cases own : writer = other
    · subst own
      simp [step, held, setWriter_writers]
    · refine .inl ⟨?_, fun same => own (Event.advance.inj same).symm⟩
      cases busy : store.writers other with
      | none => simpa only [step, busy] using held
      | some state =>
        simp only [step, busy]
        rw [setWriter_writers, if_neg own, ← held]

variable {event : Event}

theorem not_returned_of_begins (free : store.writers writer = none) :
    ¬ (store.step encoding event).Returned evaluation writer id := by
  unfold Returned
  cases event with
  | recordEvidence evidenceId verified => simp [step, free]
  | start other started =>
    by_cases own : writer = other
    · subst own
      cases valid : started.validate encoding <;>
        simp [step, free, setWriter_writers, valid]
    · cases held : store.writers other <;> simp [step, held, free, setWriter_writers, own]
  | crash other =>
    by_cases own : writer = other
    · subst own
      simp [step, free]
    · cases held : store.writers other <;> simp [step, held, free, setWriter_writers, own]
  | advance other =>
    by_cases own : writer = other
    · subst own
      simp [step, free]
    · cases held : store.writers other <;> simp [step, held, free, setWriter_writers, own]

theorem Sound.returns (after : (store.step encoding event).Sound encoding payloads)
    (collisionFree : Set.InjOn encoding.digest payloads)
    (returns : (store.step encoding event).Returned evaluation writer id)
    (before : ¬ store.Returned evaluation writer id) :
    id = evaluation.evaluationId ∧
      evaluation.toRow encoding ∈ (store.step encoding event).rows := by
  cases held : store.writers writer with
  | none => exact absurd returns (not_returned_of_begins held)
  | some state =>
    obtain ⟨same, -⟩ | ⟨crashed, -⟩ | ⟨next, -, rows⟩ := step_writers event held
    · exact absurd (held.trans (same.symm.trans returns)) before
    · cases crashed.symm.trans returns
    · have goesOn := next.symm.trans returns
      obtain ⟨rfl, stage⟩ : state.evaluation = evaluation ∧
          (store.statement encoding state.evaluation state.stage).2 = .returned id := by
        simpa using goesOn
      have other : state.stage ≠ .returned id := by
        intro same
        exact before (held.trans (congrArg some (by rw [← same])))
      obtain ⟨rfl, row, member, -, named⟩ := statement_eq_returned stage other
      have own := after.writers writer _ returns
      obtain ⟨error, raised⟩ | crashed | hashed := own.evaluationId
      · cases raised
      · cases crashed
      · rw [← rows] at member
        have same := (after.rows row member).eq_toRow collisionFree own.submitted hashed named
        exact ⟨rfl, same ▸ member⟩

theorem step_changes (changed : (store.step encoding event).rows ≠ store.rows) :
    ∃ writer evaluation, event = .advance writer ∧
      (store.step encoding event).Returned evaluation writer evaluation.evaluationId ∧
      ¬ store.Returned evaluation writer evaluation.evaluationId := by
  obtain ⟨writer, state, rows, rfl, held, writes, result⟩ | same := step_rows encoding store event
  · refine ⟨writer, state.evaluation, rfl, ?_, fun before => ?_⟩
    · rw [result]
      exact (setWriter_writers ..).trans (if_pos rfl)
    · have stage := congrArg Writer.stage (Option.some.inj (held.symm.trans before))
      rw [stage] at writes
      cases writes
  · exact absurd same changed

theorem Sound.terminal_stays (event : Event) (sound : store.Sound encoding payloads)
    (collisionFree : Set.InjOn encoding.digest payloads) (terminal : row.Terminal)
    (member : row ∈ store.rows) : row ∈ (store.step encoding event).rows := by
  obtain ⟨writer, state, rows, rfl, held, writes, result⟩ | same := step_rows encoding store event
  · rw [result]
    exact writes.stays member (sound.spares collisionFree held member terminal)
  · rw [same]
    exact member

end Store

end

/-! ### How long a call takes -/

namespace Stage

/-- How many statements a call may still run. -/
def remaining : Stage → ℕ
  | linking => 5
  | findingPrimaryKey => 4
  | findingRow => 3
  | replacing _ => 2
  | inserting => 2
  | racing _ => 1
  | _ => 0

def Ended (stage : Stage) : Prop :=
  (∃ id, stage = returned id) ∨ (∃ error, stage = raised error) ∨ stage = crashed

theorem ended_of_remaining {stage : Stage} (none : stage.remaining = 0) : stage.Ended := by
  cases stage with
  | returned id => exact .inl ⟨id, rfl⟩
  | raised error => exact .inr (.inl ⟨error, rfl⟩)
  | crashed => exact .inr (.inr rfl)
  | _ => cases none

theorem remaining_le (stage : Stage) : stage.remaining ≤ 5 := by
  cases stage <;> simp [remaining]

end Stage

namespace Store

variable {encoding : Encoding} {store : Store} {writer : ℕ} {state : Writer}

theorem remaining_decideOn (evaluation : TacticalGridShadowEvaluationV1) (row : EvaluationRow) :
    (decideOn encoding evaluation row).remaining ≤ 2 := by
  unfold decideOn conflict
  split
  · exact Nat.zero_le 2
  · split_ifs <;> simp [Stage.remaining]

theorem remaining_written (evaluation : TacticalGridShadowEvaluationV1)
    (attempt : Except Lost (List EvaluationRow)) :
    (store.written evaluation attempt).2.remaining ≤ 1 := by
  cases attempt <;> simp [written, Stage.remaining]

theorem remaining_statement (evaluation : TacticalGridShadowEvaluationV1) (stage : Stage) :
    (store.statement encoding evaluation stage).2.remaining ≤ stage.remaining - 1 := by
  cases stage with
  | linking =>
    simp only [statement]
    split <;> simp [Stage.remaining]
  | findingPrimaryKey =>
    simp only [statement, conflict]
    split
    · simp [Stage.remaining]
    · split_ifs <;> simp [Stage.remaining]
  | findingRow =>
    simp only [statement]
    split
    · simp [Stage.remaining]
    · exact remaining_decideOn evaluation _
  | replacing existingRowId => exact remaining_written evaluation _
  | inserting => exact remaining_written evaluation _
  | racing lost =>
    simp only [statement, conflict]
    split
    · split_ifs <;> simp [Stage.remaining]
    · simp [Stage.remaining]
  | returned id => exact Nat.zero_le _
  | raised error => exact Nat.zero_le _
  | crashed => exact Nat.zero_le _

/-- A call has begun, and may still run so many statements. -/
def MayRun (writer : ℕ) (store : Store) (count : ℕ) : Prop :=
  ∃ state, store.writers writer = some state ∧ state.stage.remaining ≤ count

theorem MayRun.step (encoding : Encoding) {count : ℕ} (event : Event)
    (mayRun : store.MayRun writer count) :
    (store.step encoding event).MayRun writer
      (if event = .advance writer then count - 1 else count) := by
  obtain ⟨state, held, bound⟩ := mayRun
  obtain ⟨same, other⟩ | ⟨crashed, other⟩ | ⟨next, own, -⟩ := step_writers event held
  · exact ⟨state, same, by rwa [if_neg other]⟩
  · exact ⟨_, crashed, Nat.zero_le _⟩
  · refine ⟨_, next, ?_⟩
    rw [if_pos own]
    exact (remaining_statement state.evaluation state.stage).trans (Nat.sub_le_sub_right bound 1)

theorem MayRun.run (encoding : Encoding) {count : ℕ} (events : List Event)
    (mayRun : store.MayRun writer count) :
    (Runs.run (Store.step encoding) store events).MayRun writer
      (count - events.count (.advance writer)) := by
  induction events generalizing store count with
  | nil => exact mayRun
  | cons event rest inductionHypothesis =>
    have next := inductionHypothesis (mayRun.step encoding event)
    rw [List.count_cons]
    by_cases own : event = .advance writer
    · simpa [own, Runs.run, Nat.sub_sub, Nat.add_comm] using next
    · simpa [own, Runs.run] using next

end Store

/-! ### Every run -/

/-- Under each natural key there is at most one row, and a terminal row stays as it is; a call
returns its own id at a moment when its evaluation is in the table, it ends within five of its own
statements, and the rows change only in a statement after which a call returns. -/
theorem terminal_evaluations_immutable (encoding : Encoding) (events : List Event)
    (collisionFree : Set.InjOn encoding.digest (submitted encoding events)) :
    Runs.Throughout (Store.step encoding)
        (fun store => (store.rows.map EvaluationRow.naturalKey).Nodup) {} events ∧
      (∀ row : EvaluationRow, row.Terminal →
        Runs.Forever (Store.step encoding) (fun store => row ∈ store.rows) {} events) ∧
      Runs.Each (Store.step encoding) (fun store event => ∀ writer evaluation id,
        (store.step encoding event).Returned evaluation writer id →
          ¬ store.Returned evaluation writer id →
            id = evaluation.evaluationId ∧
              evaluation.toRow encoding ∈ (store.step encoding event).rows) {} events ∧
      Runs.Each (Store.step encoding) (fun store event =>
        (store.step encoding event).rows ≠ store.rows →
          ∃ writer evaluation, event = .advance writer ∧
            (store.step encoding event).Returned evaluation writer evaluation.evaluationId ∧
            ¬ store.Returned evaluation writer evaluation.evaluationId) {} events ∧
      ∀ before after writer, events = before ++ after →
        (Runs.run (Store.step encoding) {} before).writers writer ≠ none →
        5 ≤ after.count (.advance writer) →
          ∃ state, (Runs.run (Store.step encoding) {} events).writers writer = some state ∧
            state.stage.Ended := by
  have knows : ∀ event ∈ events, ∀ writer evaluation, event = .start writer evaluation →
      evaluation.toCanonicalPayload encoding ∈ submitted encoding events :=
    fun event member writer evaluation starts => ⟨writer, evaluation, starts ▸ member, rfl⟩
  have sound : Runs.Throughout (Store.step encoding)
      (Store.Sound encoding (submitted encoding events)) {} events :=
    Runs.throughout_of_each (fun store event now known => now.step event known) .empty
      (Runs.each_of_forall_mem fun event member _ => knows event member)
  refine ⟨sound.mono fun store now => now.naturalKeys, fun row terminal => ?_, ?_, ?_, ?_⟩
  · exact Runs.forever_iff_each.mpr (Runs.each_of_throughout sound
      fun store event now _ => now.terminal_stays event collisionFree terminal)
  · exact Runs.each_of_throughout sound
      fun store event _ after _ _ _ returns before => after.returns collisionFree returns before
  · exact Runs.each_of_throughout sound fun store event _ _ => store.step_changes
  · rintro before after writer rfl begun enough
    obtain ⟨state, held⟩ := Option.ne_none_iff_exists'.mp begun
    have mayRun : (Runs.run (Store.step encoding) {} before).MayRun writer 5 :=
      ⟨state, held, state.stage.remaining_le⟩
    obtain ⟨last, ended, none⟩ := mayRun.run encoding after
    rw [← Runs.run_append] at ended
    exact ⟨last, ended, Stage.ended_of_remaining (by omega)⟩

/-- An encoding that tells evaluations of one piece of evidence apart by their details. -/
def detailEncoding : Encoding where
  rounded := id
  digest payload := "sha256:" ++ payload.details
  acceptsDetails _ := true

def shadowEvaluation (status : EligibilityStatus) (details : String) :
    TacticalGridShadowEvaluationV1 where
  evaluationId := "sha256:" ++ details
  featureEvidenceId := "evidence"
  evaluationProfileVersion := "GRID_OUTCOME_PROFILE_V1"
  gridDecision := .neutral
  eligibilityStatus := status
  details := details

def resolvedFirst : List Event :=
  [.recordEvidence "evidence" true, .start 0 (shadowEvaluation .pendingHorizon "waits"),
    .advance 0, .advance 0, .advance 0, .advance 0,
    .start 1 (shadowEvaluation .resolved "ends"),
    .start 2 (shadowEvaluation .pendingDataGap "lacks"),
    .advance 1, .advance 1, .advance 1, .advance 2, .advance 2, .advance 2, .advance 1]

/-- Two writers decide to replace one provisional row, and the one that comes late raises. -/
def racingWriters : List Event := resolvedFirst ++ [.advance 2, .advance 2]

theorem racingWriters_collisionFree :
    Set.InjOn detailEncoding.digest (submitted detailEncoding racingWriters) := by
  rintro payload ⟨writer, evaluation, starts, rfl⟩ other ⟨late, rival, begins, rfl⟩ same
  simp only [racingWriters, resolvedFirst, List.cons_append, List.nil_append, List.mem_cons,
    List.not_mem_nil, reduceCtorEq, Event.start.injEq, or_false, false_or] at starts begins
  obtain ⟨-, rfl⟩ | ⟨-, rfl⟩ | ⟨-, rfl⟩ := starts <;>
    obtain ⟨-, rfl⟩ | ⟨-, rfl⟩ | ⟨-, rfl⟩ := begins <;>
    first | rfl | exact absurd same (by decide)

theorem terminal_evaluations_immutable_racing :
    ((shadowEvaluation .resolved "ends").toRow detailEncoding) ∈
      (Runs.run (Store.step detailEncoding) {} racingWriters).rows := by
  obtain ⟨-, stays, -⟩ := terminal_evaluations_immutable detailEncoding racingWriters
    racingWriters_collisionFree
  exact stays _ List.mem_cons_self resolvedFirst [.advance 2, .advance 2] [] rfl (by decide)

end QuantAgent.MarketWatch
