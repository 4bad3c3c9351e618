/-
This file embeds the capture store of the recorder: a partition file for each day, with the process
instances, sessions and gaps that were written into it, and a manifest of the days that are
finalized and take no writes any more.

A process holds the publication lock throughout an operation, so operations do not overlap; within
one, each partition is written in transactions of its own, and the process may die between any two.
-/

import QuantAgent.Library.Durable
import QuantAgent.Library.Refusal

namespace QuantAgent.Microstructure

structure ReliabilityProtocol where
  leaseTimeoutMs : ℤ
  finalizationGraceMs : ℤ

inductive InstanceStatus where
  | active
  | orphaned
  | closed
  deriving DecidableEq

structure ProcessInstance where
  instanceId : String
  startMs : ℤ
  lastHeartbeatMs : ℤ
  endMs : Option ℤ := none
  status : InstanceStatus := .active

structure CaptureSession where
  sessionId : String
  instanceId : String
  endMs : Option ℤ := none

inductive GapKind where
  | processOrHostGap
  | tradeDisconnect
  | restBootstrapFailure
  | depthBootstrapFailure
  | depthSequenceGap
  | depthReconnect
  deriving DecidableEq

structure Gap where
  startMs : ℤ
  endMs : ℤ
  kind : GapKind
  detail : String

/-- The UTC day that a partition is named by. -/
def dayOf (timestampMs : ℤ) : ℤ := timestampMs / 86400000

/-- The rows of every partition, each under the day of its partition. -/
structure CaptureStore where
  partitions : List ℤ := []
  finalized : List ℤ := []
  instances : List (ℤ × ProcessInstance) := []
  sessions : List (ℤ × CaptureSession) := []
  gaps : List (ℤ × Gap) := []
  ordered : partitions.Pairwise (· < ·) := by exact List.Pairwise.nil

inductive CaptureFault where
  | finalizedPartition (day : ℤ)
  | duplicateKey

def inPartition {Row : Type} (day : ℤ) (change : Row → Row) (rows : List (ℤ × Row)) :
    List (ℤ × Row) :=
  rows.map fun filed => if filed.1 = day then (day, change filed.2) else filed

theorem insert_ordered {days : List ℤ} {day : ℤ} (ordered : days.Pairwise (· < ·))
    (new : day ∉ days) : (days.orderedInsert (· ≤ ·) day).Pairwise (· < ·) := by
  have weak : (days.orderedInsert (· ≤ ·) day).Pairwise (· ≤ ·) :=
    (ordered.imp le_of_lt).orderedInsert day days
  have distinct : (days.orderedInsert (· ≤ ·) day).Pairwise (· ≠ ·) :=
    (days.perm_orderedInsert (· ≤ ·) day).nodup_iff.mpr
      (List.nodup_cons.mpr ⟨new, ordered.imp ne_of_lt⟩)
  exact (weak.and distinct).imp fun both => lt_of_le_of_ne both.1 both.2

namespace CaptureStore

/-- The mutable partitions, in the order of their days. -/
def openPartitions (store : CaptureStore) : List ℤ :=
  store.partitions.filter (· ∉ store.finalized)

/-- `_connect`: open the partition of a day, which is made if there is none. -/
def connect (store : CaptureStore) (timestampMs : ℤ) : Except CaptureFault CaptureStore := do
  refuse (dayOf timestampMs ∈ store.finalized) (.finalizedPartition (dayOf timestampMs))
  if new : dayOf timestampMs ∈ store.partitions then pure store
  else pure { store with
    partitions := store.partitions.orderedInsert (· ≤ ·) (dayOf timestampMs)
    ordered := insert_ordered store.ordered new }

def insertInstance (store : CaptureStore) (timestampMs : ℤ) (instanceId : String) :
    Except CaptureFault CaptureStore := do
  let connected ← store.connect timestampMs
  refuse (∃ filed ∈ connected.instances,
    filed.1 = dayOf timestampMs ∧ filed.2.instanceId = instanceId) .duplicateKey
  pure { connected with
    instances := connected.instances ++
      [(dayOf timestampMs,
        { instanceId, startMs := timestampMs, lastHeartbeatMs := timestampMs })] }

def insertSession (store : CaptureStore) (timestampMs : ℤ) (sessionId instanceId : String) :
    Except CaptureFault CaptureStore := do
  let connected ← store.connect timestampMs
  refuse (∃ filed ∈ connected.sessions,
    filed.1 = dayOf timestampMs ∧ filed.2.sessionId = sessionId) .duplicateKey
  pure { connected with
    sessions := connected.sessions ++ [(dayOf timestampMs, { sessionId, instanceId })] }

def insertGap (store : CaptureStore) (timestampMs : ℤ) (kind : GapKind) (detail : String)
    (endMs : Option ℤ) : Except CaptureFault CaptureStore := do
  let connected ← store.connect timestampMs
  pure { connected with
    gaps := connected.gaps ++ [(dayOf timestampMs,
      { startMs := timestampMs, endMs := max timestampMs (endMs.getD timestampMs), kind,
        detail })] }

end CaptureStore

/-! ### Orphans -/

/-- The instance has shown no sign of life since the cutoff. -/
def ProcessInstance.Expired (row : ProcessInstance) (cutoff : ℤ) (exclude : Option String) : Prop :=
  row.status = .active ∧ row.lastHeartbeatMs < cutoff ∧ row.instanceId ∉ exclude

instance (row : ProcessInstance) (cutoff : ℤ) (exclude : Option String) :
    Decidable (row.Expired cutoff exclude) := inferInstanceAs (Decidable (_ ∧ _ ∧ _))

structure Lease where
  leaseEnd : ℤ
  instanceId : String
  deriving DecidableEq

def ProcessInstance.lease (protocol : ReliabilityProtocol) (row : ProcessInstance) : Lease where
  leaseEnd := row.lastHeartbeatMs + protocol.leaseTimeoutMs
  instanceId := row.instanceId

def ProcessInstance.recovered (protocol : ReliabilityProtocol) (cutoff : ℤ)
    (exclude : Option String) (row : ProcessInstance) : ProcessInstance :=
  if row.Expired cutoff exclude
  then { row with endMs := some (row.lease protocol).leaseEnd, status := .orphaned } else row

def ProcessInstance.beat (timestampMs : ℤ) (instanceId : String) (row : ProcessInstance) :
    ProcessInstance :=
  if row.instanceId = instanceId ∧ row.status = .active
  then { row with lastHeartbeatMs := timestampMs } else row

def ProcessInstance.close (timestampMs : ℤ) (instanceId : String) (row : ProcessInstance) :
    ProcessInstance :=
  if row.instanceId = instanceId ∧ row.status = .active
  then { row with endMs := some timestampMs, status := .closed } else row

def orphanDetail (instanceId : String) : String :=
  "orphaned_instance=" ++ instanceId ++ ";lease_expired"

namespace CaptureStore

variable (protocol : ReliabilityProtocol)

def expired (store : CaptureStore) (cutoff : ℤ) (exclude : Option String) (days : List ℤ) :
    List Lease :=
  (store.instances.filter fun filed =>
    filed.1 ∈ days ∧ filed.2.Expired cutoff exclude).map fun filed => filed.2.lease protocol

def endSession (leases : List Lease) (session : CaptureSession) : CaptureSession :=
  match leases.find? (·.instanceId = session.instanceId) with
  | some lease =>
    if session.endMs = none then { session with endMs := some lease.leaseEnd } else session
  | none => session

def markOrphans (store : CaptureStore) (cutoff : ℤ) (exclude : Option String) (day : ℤ) :
    CaptureStore :=
  { store with
    instances := inPartition day (·.recovered protocol cutoff exclude) store.instances
    sessions := inPartition day (endSession (store.expired protocol cutoff exclude [day]))
      store.sessions }

def beat (timestampMs : ℤ) (instanceId : String) (day : ℤ) (store : CaptureStore) :
    CaptureStore :=
  { store with instances := inPartition day (·.beat timestampMs instanceId) store.instances }

def close (timestampMs : ℤ) (instanceId : String) (day : ℤ) (store : CaptureStore) :
    CaptureStore :=
  { store with
    instances := inPartition day (·.close timestampMs instanceId) store.instances
    sessions := inPartition day (fun session =>
      if session.instanceId = instanceId ∧ session.endMs = none
      then { session with endMs := some timestampMs } else session) store.sessions }

def closeSession (timestampMs : ℤ) (sessionId : String) (day : ℤ) (store : CaptureStore) :
    CaptureStore × Bool :=
  ({ store with
    sessions := inPartition day (fun session =>
      if session.sessionId = sessionId then { session with endMs := some timestampMs }
      else session) store.sessions },
    store.sessions.any fun filed => filed.1 = day ∧ filed.2.sessionId = sessionId)

def finalize (nowMs : ℤ) (integrityOk : Bool) (store : CaptureStore) : CaptureStore :=
  if integrityOk then
    { store with
      finalized := store.finalized ++ store.partitions.filter fun day =>
        day ∉ store.finalized ∧
        day * 86400000 + 86400000 + protocol.finalizationGraceMs ≤ nowMs ∧
        ∀ filed ∈ store.sessions, filed.1 = day → filed.2.endMs ≠ none }
  else store

end CaptureStore

/-! ### The operations -/

abbrev CaptureWork (Value : Type) := Durable CaptureStore CaptureFault Value

namespace CaptureWork

open Durable

variable (protocol : ReliabilityProtocol)

def eachPartition (change : ℤ → CaptureStore → CaptureStore) : List ℤ → CaptureWork Unit
  | [] => pure ()
  | day :: days => do
    commit (change day)
    eachPartition change days

def insert (transaction : CaptureStore → Except CaptureFault CaptureStore) : CaptureWork Unit :=
  transact fun store => (transaction store).map (·, ())

def markPartitions (cutoff : ℤ) (exclude : Option String) : List ℤ → CaptureWork (List Lease)
  | [] => pure []
  | day :: days => do
    let marked ← transact fun store =>
      .ok (store.markOrphans protocol cutoff exclude day,
        store.expired protocol cutoff exclude [day])
    let others ← markPartitions cutoff exclude days
    pure (marked ++ others)

def gap (timestampMs : ℤ) (kind : GapKind) (detail : String) (endMs : Option ℤ) :
    CaptureWork Unit :=
  insert (·.insertGap timestampMs kind detail endMs)

def recordGaps (nowMs : ℤ) : List Lease → CaptureWork Unit
  | [] => pure ()
  | lease :: leases => do
    gap lease.leaseEnd .processOrHostGap (orphanDetail lease.instanceId) (some nowMs)
    recordGaps nowMs leases

def recoverOrphanInstances (nowMs : ℤ) (exclude : Option String) : CaptureWork Unit := do
  let days ← look CaptureStore.openPartitions
  let recovered ← markPartitions protocol (nowMs - protocol.leaseTimeoutMs) exclude days
  recordGaps nowMs recovered

def instanceStart (timestampMs : ℤ) (instanceId : String) : CaptureWork Unit := do
  recoverOrphanInstances protocol timestampMs none
  insert (·.insertInstance timestampMs instanceId)

def heartbeat (timestampMs : ℤ) (instanceId : String) : CaptureWork Unit := do
  recoverOrphanInstances protocol timestampMs (some instanceId)
  let days ← look CaptureStore.openPartitions
  eachPartition (CaptureStore.beat timestampMs instanceId) days

def instanceEnd (timestampMs : ℤ) (instanceId : String) : CaptureWork Unit := do
  heartbeat protocol timestampMs instanceId
  let days ← look CaptureStore.openPartitions
  eachPartition (CaptureStore.close timestampMs instanceId) days

def sessionStart (timestampMs : ℤ) (sessionId instanceId : String) : CaptureWork Unit :=
  insert (·.insertSession timestampMs sessionId instanceId)

/-- Close the session in the first partition that holds it. -/
def closeIn (timestampMs : ℤ) (sessionId : String) : List ℤ → CaptureWork Unit
  | [] => pure ()
  | day :: days => do
    let closed ← transact fun store => .ok (store.closeSession timestampMs sessionId day)
    if closed then pure () else closeIn timestampMs sessionId days

def sessionEnd (timestampMs : ℤ) (sessionId : String) : CaptureWork Unit := do
  let days ← look CaptureStore.openPartitions
  closeIn timestampMs sessionId days

end CaptureWork

inductive CaptureCall where
  | instanceStart (timestampMs : ℤ) (instanceId : String)
  | heartbeat (timestampMs : ℤ) (instanceId : String)
  | instanceEnd (timestampMs : ℤ) (instanceId : String)
  | recoverOrphanInstances (nowMs : ℤ) (exclude : Option String)
  | sessionStart (timestampMs : ℤ) (sessionId instanceId : String)
  | sessionEnd (timestampMs : ℤ) (sessionId : String)
  | streamGap (timestampMs : ℤ) (kind : GapKind) (detail : String) (endMs : Option ℤ)
      (stream : kind ≠ .processOrHostGap)
  | append (timestampMs : ℤ)
  | finalizePartitions (nowMs : ℤ) (integrityOk : Bool)

def CaptureCall.program (protocol : ReliabilityProtocol) : CaptureCall → CaptureWork Unit
  | .instanceStart timestampMs instanceId =>
    CaptureWork.instanceStart protocol timestampMs instanceId
  | .heartbeat timestampMs instanceId => CaptureWork.heartbeat protocol timestampMs instanceId
  | .instanceEnd timestampMs instanceId => CaptureWork.instanceEnd protocol timestampMs instanceId
  | .recoverOrphanInstances nowMs exclude =>
    CaptureWork.recoverOrphanInstances protocol nowMs exclude
  | .sessionStart timestampMs sessionId instanceId =>
    CaptureWork.sessionStart timestampMs sessionId instanceId
  | .sessionEnd timestampMs sessionId => CaptureWork.sessionEnd timestampMs sessionId
  | .streamGap timestampMs kind detail endMs _ => CaptureWork.gap timestampMs kind detail endMs
  | .append timestampMs => CaptureWork.insert (·.connect timestampMs)
  | .finalizePartitions nowMs integrityOk =>
    Durable.commit (CaptureStore.finalize protocol nowMs integrityOk)

/-- A call by a process that lives for so many commits. -/
structure CaptureEvent where
  call : CaptureCall
  commits : ℕ

/-- The store after a call has returned, has raised, or its process has died. -/
def CaptureStore.after (protocol : ReliabilityProtocol) (store : CaptureStore)
    (event : CaptureEvent) : CaptureStore :=
  ((event.call.program protocol).start ⟨store, event.commits⟩).2.state

end QuantAgent.Microstructure
