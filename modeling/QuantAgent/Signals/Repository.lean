/-
This file embeds the signal table of the repository and the operations that change a stored
signal, run by several processes.

An operation reads the stored signals in one transaction, changes its copies in memory and
writes them back in another. A process therefore takes two steps, and other processes may act
in between. What the writes did is kept in a log that no operation reads.
-/

import QuantAgent.Library.Runs
import QuantAgent.Library.Table
import QuantAgent.Library.Refusal

namespace QuantAgent.Signals

/-! ### Signals -/

inductive SignalStatus where
  | active
  | expired
  | invalidated
  | resolvedWin
  | resolvedLoss
  | resolvedTimeout
  deriving DecidableEq

/-- A signal; the details are the fields that no operation of the repository looks at. -/
structure Signal (Details : Type) where
  signalId : String
  fingerprint : String
  status : SignalStatus
  createdAtMs : Int
  expiresAtMs : Int
  invalidationReason : Option String := none
  notifiedAtMs : Option Int := none
  details : Details

/-- A row of `signals`: its columns and the signal in `payload_json`. -/
structure SignalRow (Details : Type) where
  fingerprint : String
  status : SignalStatus
  createdAtMs : Int
  expiresAtMs : Int
  payload : Signal Details

abbrev SignalTable (Details : Type) := Table (SignalRow Details)

variable {Details : Type}

/-- `save_signal`: a signal whose fingerprint was seen within the cooldown is not stored, and a
second row under one id violates the primary key. -/
def saveSignal (signals : SignalTable Details) (signal : Signal Details)
    (cooldownMinutes : Int) : SignalTable Details :=
  let cutoff := signal.createdAtMs - cooldownMinutes * 60000
  let duplicate := signals.rows.any fun row =>
    row.fingerprint = signal.fingerprint && cutoff ≤ row.createdAtMs
  if duplicate ∨ (signals.lookup signal.signalId).isSome then signals
  else signals.insert signal.signalId {
    fingerprint := signal.fingerprint
    status := signal.status
    createdAtMs := signal.createdAtMs
    expiresAtMs := signal.expiresAtMs
    payload := signal }

def getSignal (signals : SignalTable Details) (signalId : String) : Option (Signal Details) :=
  (signals.lookup signalId).map SignalRow.payload

/-! ### Operations -/

/-- An operation that changes stored signals, with its arguments. -/
inductive Operation where
  | updateSignalStatus (signalId : String) (status : SignalStatus)
  | invalidateSignal (signalId reason : String)
  | markSignalNotified (signalId : String) (notifiedAtMs : Int)
  | expireSignals (nowMs : Int)

/-- A signal an operation has read, and the id its row will be written under. -/
abbrev Copy (Details : Type) := String × Signal Details

namespace Operation

def readOne (signals : SignalTable Details) (signalId : String) :
    Except String (List (Copy Details)) :=
  match getSignal signals signalId with
  | none => .error ("unknown signal: " ++ signalId)
  | some signal => .ok [(signal.signalId, signal)]

def read (signals : SignalTable Details) : Operation → Except String (List (Copy Details))
  | updateSignalStatus signalId _ =>
    match getSignal signals signalId with
    | none => .error ("unknown signal: " ++ signalId)
    | some signal => .ok [(signalId, signal)]
  | invalidateSignal signalId _ => readOne signals signalId
  | markSignalNotified signalId _ => readOne signals signalId
  | expireSignals nowMs =>
    .ok ((signals.entries.filter fun entry =>
      entry.2.status = .active && entry.2.expiresAtMs < nowMs).map fun entry =>
        (entry.1, entry.2.payload))

/-- The change the operation makes to its copy in memory. -/
def edit (signal : Signal Details) : Operation → Signal Details
  | updateSignalStatus _ status => { signal with status := status }
  | invalidateSignal _ reason =>
    { signal with status := .invalidated, invalidationReason := some reason }
  | markSignalNotified _ notifiedAtMs => { signal with notifiedAtMs := some notifiedAtMs }
  | expireSignals _ => { signal with status := .expired }

def sets : Operation → Option SignalStatus
  | updateSignalStatus _ status => some status
  | invalidateSignal _ _ => some .invalidated
  | markSignalNotified _ _ => none
  | expireSignals _ => some .expired

theorem status_edit (operation : Operation) (signal : Signal Details) :
    (operation.edit signal).status = operation.sets.getD signal.status := by
  cases operation <;> rfl

theorem signalId_edit (operation : Operation) (signal : Signal Details) :
    (operation.edit signal).signalId = signal.signalId := by
  cases operation <;> rfl

end Operation

/-- `UPDATE signals SET status = ?, payload_json = ? WHERE signal_id = ?`. -/
def writeRow (signals : SignalTable Details) (signalId : String) (signal : Signal Details) :
    SignalTable Details :=
  signals.modify signalId fun row => { row with status := signal.status, payload := signal }

/-! ### Processes -/

/-- An operation between its two transactions: what it read is still in memory. -/
structure Pending (Details : Type) where
  operation : Operation
  copies : List (Copy Details)

inductive StatusEntry where
  | saved (signalId : String) (status : SignalStatus)
  | changed (signalId : String) (found status : SignalStatus)

/-- The table, what each process has in memory, and the log, its newest entry first. -/
structure World (Details : Type) where
  signals : SignalTable Details := ∅
  pending : ℕ → Option (Pending Details) := fun _ => none
  log : List StatusEntry := []

/-- A step of some process: it stores a new signal, begins an operation, writes back what it
has in memory, or crashes. -/
inductive Event (Details : Type) where
  | save (signal : Signal Details) (cooldownMinutes : Int)
  | begin (process : ℕ) (operation : Operation)
  | commit (process : ℕ)
  | crash (process : ℕ)

namespace World

/-- The log after a signal is offered to `save_signal`. -/
def logSaved (world : World Details) (signals : SignalTable Details)
    (signal : Signal Details) : List StatusEntry :=
  if (world.signals.lookup signal.signalId).isNone ∧ (signals.lookup signal.signalId).isSome then
    .saved signal.signalId signal.status :: world.log
  else world.log

/-- One copy of the second transaction. -/
def writeCopy (operation : Operation) (world : World Details) (copy : Copy Details) :
    World Details :=
  { world with
    signals := writeRow world.signals copy.1 (operation.edit copy.2)
    log :=
      match operation.sets with
      | some status => .changed copy.1 copy.2.status status :: world.log
      | none => world.log }

def writeBack (world : World Details) (pending : Pending Details) : World Details :=
  pending.copies.foldl (writeCopy pending.operation) world

/-- A process runs one operation at a time; an operation that raises leaves nothing behind. -/
def step (world : World Details) : Event Details → World Details
  | .save signal cooldownMinutes =>
    let signals := saveSignal world.signals signal cooldownMinutes
    { world with signals := signals, log := world.logSaved signals signal }
  | .begin process operation =>
    match world.pending process, operation.read world.signals with
    | none, .ok copies =>
      { world with pending := Function.update world.pending process (some ⟨operation, copies⟩) }
    | _, _ => world
  | .commit process =>
    match world.pending process with
    | none => world
    | some pending =>
      { world.writeBack pending with pending := Function.update world.pending process none }
  | .crash process => { world with pending := Function.update world.pending process none }

end World

end QuantAgent.Signals
