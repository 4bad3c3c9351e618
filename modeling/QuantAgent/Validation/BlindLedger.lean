/-
This file embeds the ledger of the blind validation: the rows of its decision slots, which are
written once and compared when they come again, and the source partitions, which are sealed once
they are final.

A row comes as a dictionary of any values. What Python and SQLite make of a text, or of a value as
a text, is a parameter.
-/

import QuantAgent.Library.Json
import QuantAgent.Library.Refusal
import QuantAgent.Library.Table

namespace QuantAgent.Validation

/-! ### Values -/

/-- The conversions between texts and values that the ledger uses. -/
structure Conversions where
  /-- Python's `int` of a text. -/
  int : String → Option ℤ
  /-- Python's `float` of a text. -/
  float : String → Option Double
  /-- Python's `str` of what is not a text. -/
  str : Json → String
  /-- What SQLite stores of a number in a column for texts. -/
  decimal : Json → String
  /-- The number that SQLite stores of a text in a column for numbers. -/
  numeral : String → Option Json
  /-- `json.loads`. -/
  loads : String → Option Json
  /-- `json.dumps`. -/
  dumps : Json → String
  /-- The text under which a value stands as a key of an object, if it can. -/
  keyText : Json → Option String
  /-- The dictionary with the pairs of a list, if they are pairs. -/
  dict : List Json → Option (List (String × Json))
  /-- The time of a slot in the format of ISO 8601, if there is one. -/
  isoformat : ℤ → Option String

section

variable (forms : Conversions)

/-- Python's `int`. -/
def intOf : Json → Option ℤ
  | .bool value => some value.toNat
  | .int value => some value
  | .float (.finite value) => some (value.num.tdiv value.den)
  | .str text => forms.int text
  | _ => none

/-- Python's `float`. -/
def floatOf : Json → Option Double
  | .bool value => some (.finite value.toNat)
  | .int value => some (.finite value)
  | .float value => some value
  | .str text => forms.float text
  | _ => none

/-- Python's `str`. -/
def textOf : Json → String
  | .str text => text
  | value => forms.str value

/-- Python's `bool`. -/
def Truthy : Json → Prop
  | .null => False
  | .bool value => value = true
  | .int value => value ≠ 0
  | .float value => value ≠ .finite 0
  | .str text => text ≠ ""
  | .arr items => items ≠ []
  | .obj members => members ≠ []

instance : DecidablePred Truthy := fun value => by
  cases value <;> unfold Truthy <;> infer_instance

/-- Python's `value or other`. -/
def orValue (value other : Json) : Json := if Truthy value then value else other

/-- `abs(first - second) <= tol`; what is not finite is near to nothing. -/
def Near : Double → Double → Prop
  | .finite first, .finite second => |first - second| ≤ 1 / 10 ^ 7
  | _, _ => False

instance : DecidableRel Near
  | .finite _, .finite _ => inferInstanceAs (Decidable (_ ≤ _))
  | .finite _, .infinite _ => inferInstanceAs (Decidable False)
  | .finite _, .notANumber => inferInstanceAs (Decidable False)
  | .infinite _, _ => inferInstanceAs (Decidable False)
  | .notANumber, _ => inferInstanceAs (Decidable False)

def CloseMatch (existing incoming : Json) : Prop :=
  if existing = .null ∧ incoming = .null then True
  else if existing = .null ∨ incoming = .null then False
  else match floatOf forms existing, floatOf forms incoming with
    | some first, some second => Near first second
    | _, _ => textOf forms existing = textOf forms incoming

instance : DecidableRel (CloseMatch forms) := fun existing incoming => by
  unfold CloseMatch
  split_ifs
  · infer_instance
  · infer_instance
  · split <;> infer_instance

/-! ### The columns -/

inductive Affinity where
  | text
  | real
  | integer
  deriving DecidableEq

def Affinity.stores : Affinity → Json → Json
  | text, .bool value => .str (forms.decimal (.int value.toNat))
  | text, .int value => .str (forms.decimal (.int value))
  | text, .float value => if value = .notANumber then .null else .str (forms.decimal (.float value))
  | real, .bool value => .float (.finite value.toNat)
  | real, .int value => .float (.finite value)
  | integer, .bool value => .int value.toNat
  | integer, .float (.finite value) =>
    if value.den = 1 then .int value.num else .float (.finite value)
  | real, .str written => (forms.numeral written).getD (.str written)
  | integer, .str written => (forms.numeral written).getD (.str written)
  | _, .float .notANumber => .null
  | _, value => value

/-- SQLite accepts the value as a parameter. -/
def Bindable : Json → Prop
  | .int value => -2 ^ 63 ≤ value ∧ value < 2 ^ 63
  | .arr _ => False
  | .obj _ => False
  | _ => True

instance : DecidablePred Bindable := fun value => by
  cases value <;> unfold Bindable <;> infer_instance

/-- The columns of the ledger beside its key. -/
inductive Column where
  | slotUtc
  | m1TradeImbalance5m
  | m2TradeImbalance15m
  | m3Ofi5m
  | m4Top5DepthImbalance5m
  | m5Top20DepthImbalance5m
  | m6MicropriceDeviation1m
  | m7PressureAgreement
  | m8PressureDivergence
  | trailingReturn15m
  | trailingReturn60m
  | trailingAtrRatio15m
  | trailingAtr15m
  | decisionClosePrice
  | eligible
  | rejectionReason
  | bookSampleCount15m
  | tradeCount15m
  | featureWindowStartMs
  | featureWindowEndMs
  | referenceTimeMs
  | target60mMs
  | target240mMs
  | sourcePartitions
  | sourcePartitionHashes
  | protocolHash
  | clarificationHash
  | inputContractVersion
  | codeVersionSha
  | ingestedAtUtc
  deriving DecidableEq

namespace Column

def name : Column → String
  | slotUtc => "slot_utc"
  | m1TradeImbalance5m => "m1_trade_imbalance_5m"
  | m2TradeImbalance15m => "m2_trade_imbalance_15m"
  | m3Ofi5m => "m3_ofi_5m"
  | m4Top5DepthImbalance5m => "m4_top5_depth_imbalance_5m"
  | m5Top20DepthImbalance5m => "m5_top20_depth_imbalance_5m"
  | m6MicropriceDeviation1m => "m6_microprice_deviation_1m"
  | m7PressureAgreement => "m7_pressure_agreement"
  | m8PressureDivergence => "m8_pressure_divergence"
  | trailingReturn15m => "trailing_return_15m"
  | trailingReturn60m => "trailing_return_60m"
  | trailingAtrRatio15m => "trailing_atr_ratio_15m"
  | trailingAtr15m => "trailing_atr_15m"
  | decisionClosePrice => "decision_close_price"
  | eligible => "eligible"
  | rejectionReason => "rejection_reason"
  | bookSampleCount15m => "book_sample_count_15m"
  | tradeCount15m => "trade_count_15m"
  | featureWindowStartMs => "feature_window_start_ms"
  | featureWindowEndMs => "feature_window_end_ms"
  | referenceTimeMs => "reference_time_ms"
  | target60mMs => "target_60m_ms"
  | target240mMs => "target_240m_ms"
  | sourcePartitions => "source_partitions"
  | sourcePartitionHashes => "source_partition_hashes"
  | protocolHash => "protocol_hash"
  | clarificationHash => "clarification_hash"
  | inputContractVersion => "input_contract_version"
  | codeVersionSha => "code_version_sha"
  | ingestedAtUtc => "ingested_at_utc"

def affinity : Column → Affinity
  | slotUtc | rejectionReason | sourcePartitions | sourcePartitionHashes | protocolHash
  | clarificationHash | inputContractVersion | codeVersionSha | ingestedAtUtc => .text
  | eligible | bookSampleCount15m | tradeCount15m | featureWindowStartMs | featureWindowEndMs
  | referenceTimeMs | target60mMs | target240mMs => .integer
  | _ => .real

def optional : List Column :=
  [m1TradeImbalance5m, m2TradeImbalance15m, m3Ofi5m, m4Top5DepthImbalance5m,
    m5Top20DepthImbalance5m, m6MicropriceDeviation1m, m7PressureAgreement, m8PressureDivergence,
    trailingReturn15m, trailingReturn60m, trailingAtrRatio15m, trailingAtr15m, decisionClosePrice,
    rejectionReason, bookSampleCount15m, tradeCount15m, inputContractVersion]

def required : List Column :=
  [slotUtc, eligible, featureWindowStartMs, featureWindowEndMs, referenceTimeMs, target60mMs,
    target240mMs, sourcePartitions, sourcePartitionHashes, protocolHash, clarificationHash,
    codeVersionSha, ingestedAtUtc]

/-- `fields_to_check`. -/
def checked : List Column :=
  [eligible, rejectionReason, m1TradeImbalance5m, m2TradeImbalance15m, m3Ofi5m,
    m4Top5DepthImbalance5m, m5Top20DepthImbalance5m, m6MicropriceDeviation1m, m7PressureAgreement,
    m8PressureDivergence, trailingReturn15m, trailingReturn60m, trailingAtrRatio15m,
    trailingAtr15m, decisionClosePrice, bookSampleCount15m, tradeCount15m, inputContractVersion]

end Column

/-! ### The ledger -/

/-- The values of a row, in the columns beside its key. -/
abbrev LedgerRow := Column → Json

structure SourcePartition where
  partitionPath : String
  partitionSha256 : String
  fileSizeBytes : ℕ
  minTimeMs : Option ℤ
  maxTimeMs : Option ℤ
  finalized : Bool
  firstSeenUtc : String
  lastVerifiedUtc : String

/-- The rows under their decision slots and the partitions under their names. -/
structure Ledger where
  rows : AList (fun _ : ℤ => LedgerRow) := ∅
  partitions : Table SourcePartition := ∅

inductive LedgerFault where
  | missing (key : String)
  | notAnInteger (key : String)
  | preStart (slotMs : ℤ)
  | protocolMismatch (got : Json)
  | clarificationMismatch (got : Json)
  | sourcePartitionMutation (name recorded : String) (incoming : Json)
  | referenceTiming (referenceMs slotMs : ℤ)
  | target60mTiming (targetMs referenceMs : ℤ)
  | target240mTiming (targetMs referenceMs : ℤ)
  | tooLarge (slotMs : ℤ)
  | conflictingDuplicate (slotMs : ℤ) (field : Column) (existing incoming : Json)
  | slotTime (slotMs : ℤ)
  | unhashable (value : Json)
  | refusedByTable (slotMs : ℤ)
  | partitionNotFound (path : String)
  | sourcePartitionFinalized
  deriving DecidableEq

/-! ### Ingestion -/

def validationStartMs : ℤ := 1788520500000

def frozenProtocolHash : String :=
  "1b7d61409078f779585675e9f657a60ea1ef5384a7707c33bbac07535feaa979"

def frozenClarificationHash : String :=
  "b2ba02df923950413c773e308e01d4ba893690948be9c258311d483ea753e284"

abbrev SlotRow := List (String × Json)

/-- `row.get(key, default)`. -/
def SlotRow.get (row : SlotRow) (key : String) (default : Json := .null) : Json :=
  (row.lookup key).getD default

/-- What a call finds outside the ledger: the commit of the code and the time. -/
structure CallContext where
  currentGitSha : String
  nowUtc : String

section

variable (row : SlotRow)

/-- `int(row.get(key, default))`. -/
def SlotRow.int (key : String) (default : ℤ) : Except LedgerFault ℤ :=
  match intOf forms (row.get key (.int default)) with
  | some value => .ok value
  | none => .error (.notAnInteger key)

/-- `int(row["decision_close_ms"])`. -/
def SlotRow.slotMs : Except LedgerFault ℤ :=
  if row.lookup "decision_close_ms" = none then .error (.missing "decision_close_ms")
  else row.int forms "decision_close_ms" 0

def SlotRow.sourceHashes : List (String × Json) :=
  match row.get "source_partition_hashes" with
  | .str "" => []
  | .str text => match forms.loads text with
    | some (.obj members) => members
    | _ => []
  | .obj members => members
  | .arr items => (forms.dict items).getD []
  | _ => []

/-- The partition is final and has another hash. -/
def SealedOtherwise (ledger : Ledger) (source : String × Json) : Prop :=
  ∃ partition ∈ ledger.partitions.lookup source.1, partition.finalized = true ∧
    Json.str partition.partitionSha256 ≠ source.2

instance (ledger : Ledger) : DecidablePred (SealedOtherwise ledger) :=
  fun _ => inferInstanceAs (Decidable (∃ _ ∈ _, _))

def guardSources (ledger : Ledger) : Except LedgerFault Unit :=
  match (row.sourceHashes forms).find? fun source => SealedOtherwise ledger source with
  | some (name, incoming) => .error (.sourcePartitionMutation name
      (((ledger.partitions.lookup name).map fun partition => partition.partitionSha256).getD "")
      incoming)
  | none => .ok ()

/-- The first field in which the row differs from the stored one. -/
def conflictingField (existing : LedgerRow) : Option Column :=
  Column.checked.find? fun field => ¬ CloseMatch forms (existing field) (row.get field.name)

def SlotRow.slotUtc (slotMs : ℤ) : Except LedgerFault Json :=
  let given := orValue (row.get "slot_utc") (row.get "decision_close_utc")
  if Truthy given then .ok given
  else match forms.isoformat slotMs with
    | some text => .ok (.str text)
    | none => .error (.slotTime slotMs)

def SlotRow.partitionHashes : Except LedgerFault Json :=
  let given := row.get "source_partition_hashes"
  if Truthy given then .ok given
  else if row.lookup "source_partition_sha256" = none then .ok (.str (forms.dumps (.obj [])))
  else match forms.keyText (row.get "source_partition" (.str "p")) with
    | some key => .ok (.str (forms.dumps (.obj [(key, row.get "source_partition_sha256")])))
    | none => .error (.unhashable (row.get "source_partition"))

def SlotRow.colsMap (context : CallContext) (slotMs referenceMs target60mMs target240mMs : ℤ) :
    Except LedgerFault LedgerRow := do
  let slotUtc ← row.slotUtc forms slotMs
  let sourcePartitions := orValue (row.get "source_partitions") (.str (forms.dumps (.arr
    ((row.lookup "source_partition").elim [] fun value => [value]))))
  let hashes ← row.partitionHashes forms
  let windowStart ← row.int forms "feature_window_start_ms" (slotMs - 15 * 60000)
  let windowEnd ← row.int forms "feature_window_end_ms" slotMs
  .ok fun
    | .slotUtc => slotUtc
    | .eligible => .int (if Truthy (row.get "eligible" (.bool true)) then 1 else 0)
    | .featureWindowStartMs => .int windowStart
    | .featureWindowEndMs => .int windowEnd
    | .referenceTimeMs => .int referenceMs
    | .target60mMs => .int target60mMs
    | .target240mMs => .int target240mMs
    | .sourcePartitions => sourcePartitions
    | .sourcePartitionHashes => hashes
    | .protocolHash => .str frozenProtocolHash
    | .clarificationHash => .str frozenClarificationHash
    | .codeVersionSha => orValue (row.get "code_version_sha")
        (orValue (row.get "code_git_sha") (.str context.currentGitSha))
    | .ingestedAtUtc => orValue (row.get "ingested_at_utc") (.str context.nowUtc)
    | column => row.get column.name

def storedRow (values : LedgerRow) : LedgerRow :=
  fun column => column.affinity.stores forms (values column)

/-- The table takes the values: each can be bound, and none is null that must not be. -/
def Takes (values : LedgerRow) : Prop :=
  (∀ column ∈ Column.optional, Bindable (values column)) ∧
    ∀ column ∈ Column.required,
      Bindable (values column) ∧ storedRow forms values column ≠ .null

instance (values : LedgerRow) : Decidable (Takes forms values) :=
  inferInstanceAs (Decidable (_ ∧ _))

/-- One row of a batch, with the number of rows that it inserts. -/
def ingestRow (context : CallContext) (ledger : Ledger) : Except LedgerFault (Ledger × ℕ) := do
  let slotMs ← row.slotMs forms
  refuse (slotMs < validationStartMs) (.preStart slotMs)
  refuse (row.get "protocol_hash" (.str "") ≠ .str frozenProtocolHash)
    (.protocolMismatch (row.get "protocol_hash" (.str "")))
  refuse (row.get "clarification_hash" (.str "") ≠ .str frozenClarificationHash)
    (.clarificationMismatch (row.get "clarification_hash" (.str "")))
  guardSources forms row ledger
  let referenceMs ← row.int forms "reference_time_ms" 0
  refuse (referenceMs ≠ slotMs + 60000) (.referenceTiming referenceMs slotMs)
  let target60mMs ← row.int forms "target_60m_ms" 0
  refuse (target60mMs ≠ referenceMs + 59 * 60000) (.target60mTiming target60mMs referenceMs)
  let target240mMs ← row.int forms "target_240m_ms" 0
  refuse (target240mMs ≠ referenceMs + 239 * 60000) (.target240mTiming target240mMs referenceMs)
  refuse (¬ Bindable (.int slotMs)) (.tooLarge slotMs)
  match ledger.rows.lookup slotMs with
  | some existing =>
    match conflictingField forms row existing with
    | some field =>
      .error (.conflictingDuplicate slotMs field (existing field) (row.get field.name))
    | none => .ok (ledger, 0)
  | none => do
    let values ← row.colsMap forms context slotMs referenceMs target60mMs target240mMs
    refuse (¬ Takes forms values) (.refusedByTable slotMs)
    .ok ({ ledger with rows := ledger.rows.insert slotMs (storedRow forms values) }, 1)

end

def ingestRows (context : CallContext) :
    Ledger → List SlotRow → Except LedgerFault (Ledger × ℕ)
  | ledger, [] => .ok (ledger, 0)
  | ledger, row :: rows => do
    let (ledger, inserted) ← ingestRow forms row context ledger
    let (ledger, more) ← ingestRows context ledger rows
    .ok (ledger, inserted + more)

/-- `ingest_slots`: one transaction, and what it returns or raises. -/
def ingestSlots (context : CallContext) (ledger : Ledger) (rows : List SlotRow) :
    Except LedgerFault ℕ × Ledger :=
  match ingestRows forms context ledger rows with
  | .ok (ledger, inserted) => (.ok inserted, ledger)
  | .error fault => (.error fault, ledger)

end

/-! ### Source partitions -/

/-- A call of `record_or_verify_source_partition`, with the file as it is found. -/
structure PartitionCall where
  path : String
  name : String
  /-- The hash and the size of the file, if it exists. -/
  file : Option (String × ℕ)
  finalized : Option Bool := none
  minTimeMs : Option ℤ := none
  maxTimeMs : Option ℤ := none
  nowUtc : String

/-- What `record_or_verify_source_partition` returns. -/
structure PartitionReport where
  partitionName : String
  partitionSha256 : String
  finalized : Bool
  status : String

def recordOrVerifySourcePartition (ledger : Ledger) (call : PartitionCall) :
    Except LedgerFault PartitionReport × Ledger :=
  match call.file with
  | none => (.error (.partitionNotFound call.path), ledger)
  | some (sha, size) =>
    match ledger.partitions.lookup call.name with
    | some row =>
      if row.finalized = true ∧ call.finalized = some false then
        (.error .sourcePartitionFinalized, ledger)
      else if row.finalized = true ∧ sha ≠ row.partitionSha256 then
        (.error (.sourcePartitionMutation call.name row.partitionSha256 (.str sha)), ledger)
      else
        let finalized := call.finalized.getD row.finalized
        (.ok ⟨call.name, sha, finalized, "VERIFIED"⟩,
          { ledger with partitions := ledger.partitions.insert call.name { row with
              partitionSha256 := sha
              fileSizeBytes := size
              finalized := finalized
              lastVerifiedUtc := call.nowUtc } })
    | none =>
      let finalized := call.finalized.getD false
      (.ok ⟨call.name, sha, finalized, "RECORDED"⟩,
        { ledger with partitions := ledger.partitions.insert call.name {
            partitionPath := call.path
            partitionSha256 := sha
            fileSizeBytes := size
            minTimeMs := call.minTimeMs
            maxTimeMs := call.maxTimeMs
            finalized := finalized
            firstSeenUtc := call.nowUtc
            lastVerifiedUtc := call.nowUtc } })

/-! ### Runs of calls -/

inductive LedgerCall where
  | ingest (context : CallContext) (rows : List SlotRow)
  | record (call : PartitionCall)

def Ledger.after (forms : Conversions) (ledger : Ledger) : LedgerCall → Ledger
  | .ingest context rows => (ingestSlots forms context ledger rows).2
  | .record call => (recordOrVerifySourcePartition ledger call).2

end QuantAgent.Validation
