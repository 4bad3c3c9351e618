/-
This file embeds the forward store of derivative snapshots: its records, the snapshots and the
ledger of collection runs.

An `append` is one transaction. A conflict is raised after its run was committed.
-/

import QuantAgent.Backtest.Derivatives
import QuantAgent.Library.Json
import QuantAgent.Library.Table

namespace QuantAgent.Forward

open Backtest (Snapshot)

/-! ### Collections and records -/

structure ForwardDerivativeRecord where
  symbol : String
  collectionId : String
  collectionStartedAtMs : ℤ
  observedAtMs : ℤ
  collectorVersion : String
  snapshot : Snapshot
  fieldAvailability : List (String × Bool)
  endpointErrors : List (String × String)
  attemptedFields : List String
  payloadHash : String
  triggerSource : String
  scheduledSlotMs : ℤ
  endpointTelemetry : List (String × Json)
  evidenceEpochId : Option String

/-! ### The store -/

/-- A row of `derivative_snapshots`. -/
structure SnapshotRow where
  collectionId : String
  collectionStartedAtMs : ℤ
  collectorVersion : String
  markPrice : Option ℚ
  indexPrice : Option ℚ
  premiumBps : Option ℚ
  fundingRate : Option ℚ
  fundingTimeMs : Option ℤ
  openInterest : Option ℚ
  openInterestTimeMs : Option ℤ
  openInterestChangePct : Option ℚ
  takerBuySellRatio : Option ℚ
  takerTimeMs : Option ℤ
  basisRate : Option ℚ
  basisTimeMs : Option ℤ
  longShortAccountRatio : Option ℚ
  longShortTimeMs : Option ℤ
  orderBookImbalance : Option ℚ
  spreadBps : Option ℚ
  orderBookTimeMs : Option ℤ
  fieldAvailability : List (String × Bool)
  endpointErrors : List (String × String)
  payloadHash : String

inductive RunStatus where
  | complete
  | partialRun
  | failed
  | duplicate
  | conflict
  deriving DecidableEq

/-- A row of `collection_runs`. -/
structure CollectionRun where
  startedAtMs : ℤ
  finishedAtMs : ℤ
  status : RunStatus
  attemptedFields : List String
  successfulFields : List String
  errorSummary : List (String × String)
  triggerSource : String
  scheduledSlotMs : ℤ
  endpointTelemetry : List (String × Json)
  evidenceEpochId : Option String

/-- The snapshots under their symbol and time, and the runs under their identities. -/
structure ForwardStore where
  snapshots : AList fun _ : String × ℤ => SnapshotRow := ∅
  runs : Table CollectionRun := ∅

inductive AppendError where
  | conflict
  deriving DecidableEq

namespace ForwardDerivativeRecord

variable (record : ForwardDerivativeRecord)

def successfulFields : List String :=
  ((record.fieldAvailability.filter fun field => field.2).map Prod.fst).insertionSort (· ≤ ·)

def run (status : RunStatus) : CollectionRun where
  startedAtMs := record.collectionStartedAtMs
  finishedAtMs := record.observedAtMs
  status := status
  attemptedFields := record.attemptedFields
  successfulFields := record.successfulFields
  errorSummary := record.endpointErrors
  triggerSource := record.triggerSource
  scheduledSlotMs := record.scheduledSlotMs
  endpointTelemetry := record.endpointTelemetry
  evidenceEpochId := record.evidenceEpochId

def key : String × ℤ := (record.symbol, record.observedAtMs)

def row : SnapshotRow where
  collectionId := record.collectionId
  collectionStartedAtMs := record.collectionStartedAtMs
  collectorVersion := record.collectorVersion
  markPrice := record.snapshot.markPrice
  indexPrice := record.snapshot.indexPrice
  premiumBps := record.snapshot.premiumBps
  fundingRate := record.snapshot.fundingRate
  fundingTimeMs := record.snapshot.fundingTimeMs
  openInterest := record.snapshot.openInterest
  openInterestTimeMs := record.snapshot.openInterestTimeMs
  openInterestChangePct := record.snapshot.openInterestChangePct
  takerBuySellRatio := record.snapshot.takerBuySellRatio
  takerTimeMs := record.snapshot.takerTimeMs
  basisRate := record.snapshot.basisRate
  basisTimeMs := record.snapshot.basisTimeMs
  longShortAccountRatio := record.snapshot.longShortAccountRatio
  longShortTimeMs := record.snapshot.longShortTimeMs
  orderBookImbalance := record.snapshot.orderBookImbalance
  spreadBps := record.snapshot.spreadBps
  orderBookTimeMs := record.snapshot.orderBookTimeMs
  fieldAvailability := record.fieldAvailability
  endpointErrors := record.endpointErrors
  payloadHash := record.payloadHash

end ForwardDerivativeRecord

namespace ForwardStore

variable (store : ForwardStore)

/-- `_insert_run`: a run is ignored when its identity is there already. -/
def insertRun (record : ForwardDerivativeRecord) (status : RunStatus) : ForwardStore :=
  match store.runs.lookup record.collectionId with
  | some _ => store
  | none => { store with runs := store.runs.insert record.collectionId (record.run status) }

/-- `append`: the store after it, and whether the snapshot is new. -/
def append (record : ForwardDerivativeRecord) : ForwardStore × Except AppendError Bool :=
  if record.fieldAvailability.any fun field => field.2 then
    match store.snapshots.lookup record.key with
    | some existing =>
      if existing.payloadHash = record.payloadHash then
        (store.insertRun record .duplicate, .ok false)
      else (store.insertRun record .conflict, .error .conflict)
    | none =>
      ({ store with snapshots := store.snapshots.insert record.key record.row }.insertRun record
        (if record.endpointErrors = [] then .complete else .partialRun), .ok true)
  else (store.insertRun record .failed, .ok false)

/-- The snapshots with their times, in the order of these. -/
def rows : List (ℤ × SnapshotRow) :=
  (store.snapshots.entries.map fun entry => (entry.1.2, entry.2)).insertionSort
    fun row other => row.1 ≤ other.1

end ForwardStore

end QuantAgent.Forward
