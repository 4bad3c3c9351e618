/-
This file embeds how the position supervisor evaluates an observation of a position: it follows
whether the position is open, finds the triggers that the observation meets, and records an event
for each of them, unless one of the same trigger and account is too recent.

The transaction either commits all of its writes or, when anything is raised, none. Arithmetic is
exact.
-/

import QuantAgent.Library.KeyedList
import QuantAgent.Supervisor.Dispatch

namespace QuantAgent.Supervisor

/-! ### Policy and observations -/

/-- The fields of `SupervisorPolicyV1` that an evaluation reads. -/
structure SupervisorPolicy where
  stalePartialFillMs : Int := 30000
  stopNearPct : ℚ := 2 / 100
  tpNearPct : ℚ := 2 / 100
  oiShockPct : ℚ := 20 / 100
  fundingShockRate : ℚ := 15 / 10000
  volatilitySpikePercentile : ℚ := 90 / 100
  liquidityDeteriorationBps : ℚ := 10
  cooldownMs : Int := 60000

inductive LiveEnvironment where
  | dryRun
  | testnet
  deriving DecidableEq

def LiveEnvironment.text : LiveEnvironment → String
  | dryRun => "DRY_RUN"
  | testnet => "TESTNET"

/-- The only `position_side`. -/
inductive PositionSide where
  | both
  deriving DecidableEq

def PositionSide.text : PositionSide → String
  | both => "BOTH"

/-- The key of a lifecycle row. -/
structure Scope where
  environment : LiveEnvironment
  credentialNamespace : String
  accountId : String := "DEFAULT_ACCOUNT"
  symbol : String
  positionSide : PositionSide := .both
  deriving DecidableEq

structure PositionObservation extends Scope where
  accountSnapshotHash : String
  marketSourceHash : String
  observedAtMs : Int
  quantity : ℚ
  previousQuantity : ℚ
  entryPrice : ℚ
  markPrice : ℚ
  unrealizedPnlUsdt : ℚ
  realizedPnlUsdt : ℚ
  marginUsdt : ℚ
  stopPrice : ℚ
  takeProfitPrice : ℚ
  fundingRate : Option ℚ := none
  oiChangePct : Option ℚ := none
  volatilityPercentile : Option ℚ := none
  spreadBps : Option ℚ := none
  tacticalRegime : Option String := none
  gridBoundaryBreached : Bool := false
  orderStatus : String
  orderFilledQuantity : ℚ
  orderObservedAtMs : Int
  evidenceId : Option String := none
  signalIdentity : Option String := none
  priorEvidenceIds : List String := []
  priorSignalIdentities : List String := []
  addOpportunity : Bool := false
  observationHash : String := ""

/-- What an evaluation raises: a fault of its own, or that of an insert under a taken key. -/
inductive Raised where
  | fault (fault : Fault)
  | integrityError

structure ObservedContent (Context : Type) extends Content Context where
  observationHash : PositionObservation → String

variable {Context : Type} (content : ObservedContent Context)

/-- `PositionObservationV1.verify`. -/
def PositionObservation.verify (obs : PositionObservation) : Except Fault Unit := do
  refuse (obs.observedAtMs < 0 ∨ obs.orderObservedAtMs < 0 ∨ obs.credentialNamespace = "")
    (.valueError "invalid position observation")
  refuse (obs.environment = .dryRun ∧ obs.credentialNamespace ≠ "NONE" ∨
      obs.environment = .testnet ∧ obs.credentialNamespace = "NONE")
    (.valueError "position observation account authority mismatch")
  refuse (obs.observationHash ≠ content.observationHash obs)
    (.valueError "observation hash mismatch")

def Scope.authorityKey (scope : Scope) : Except Fault String :=
  positionAuthorityKey content.toContent scope.environment.text scope.credentialNamespace
    scope.accountId scope.symbol scope.positionSide.text

/-! ### Triggers -/

inductive Trigger where
  | positionOpened
  | positionClosed
  | partialFillStale
  | stopNear
  | tpNear
  | regimeReversal
  | oiShock
  | fundingShock
  | volatilitySpike
  | liquidityDeterioration
  | gridBoundaryBreach
  | addOpportunity
  deriving DecidableEq

namespace Trigger

def text : Trigger → String
  | positionOpened => "POSITION_OPENED"
  | positionClosed => "POSITION_CLOSED"
  | partialFillStale => "PARTIAL_FILL_STALE"
  | stopNear => "STOP_NEAR"
  | tpNear => "TP_NEAR"
  | regimeReversal => "REGIME_REVERSAL"
  | oiShock => "OI_SHOCK"
  | fundingShock => "FUNDING_SHOCK"
  | volatilitySpike => "VOLATILITY_SPIKE"
  | liquidityDeterioration => "LIQUIDITY_DETERIORATION"
  | gridBoundaryBreach => "GRID_BOUNDARY_BREACH"
  | addOpportunity => "ADD_OPPORTUNITY"

/-- The triggers that wait for the cooldown: all but the two of the lifecycle. -/
def governed : Trigger → Bool
  | positionOpened | positionClosed => false
  | _ => true

end Trigger

def Trigger.when (trigger : Trigger) (met : Bool) : List Trigger :=
  if met then [trigger] else []

/-- The triggers but for those of the lifecycle, in the order of the checks. -/
def marketTriggers (policy : SupervisorPolicy) (obs : PositionObservation) (nowMs : Int) :
    List Trigger :=
  List.flatten [
    Trigger.partialFillStale.when (obs.orderStatus = "PARTIALLY_FILLED" ∧
      policy.stalePartialFillMs ≤ nowMs - obs.orderObservedAtMs),
    Trigger.stopNear.when (0 < obs.stopPrice ∧ 0 < obs.entryPrice ∧
      |obs.markPrice - obs.stopPrice| / obs.entryPrice ≤ policy.stopNearPct),
    Trigger.tpNear.when (0 < obs.takeProfitPrice ∧ 0 < obs.entryPrice ∧
      |obs.takeProfitPrice - obs.markPrice| / obs.entryPrice ≤ policy.tpNearPct),
    Trigger.regimeReversal.when (0 < obs.quantity ∧ obs.tacticalRegime = some "BEARISH" ∨
      obs.quantity < 0 ∧ obs.tacticalRegime = some "BULLISH"),
    Trigger.oiShock.when (obs.oiChangePct.any fun change => policy.oiShockPct ≤ |change|),
    Trigger.fundingShock.when (obs.fundingRate.any fun rate => policy.fundingShockRate ≤ |rate|),
    Trigger.volatilitySpike.when (obs.volatilityPercentile.any fun percentile =>
      policy.volatilitySpikePercentile ≤ percentile),
    Trigger.liquidityDeterioration.when (obs.spreadBps.any fun spread =>
      policy.liquidityDeteriorationBps ≤ spread),
    Trigger.gridBoundaryBreach.when obs.gridBoundaryBreached,
    Trigger.addOpportunity.when (obs.addOpportunity &&
      (obs.evidenceId.any fun evidence => evidence ∉ obs.priorEvidenceIds) &&
      obs.signalIdentity.any fun signal => signal ∉ obs.priorSignalIdentities)]

/-! ### Tables -/

/-- A row of `live_position_lifecycle_v2`. -/
structure LifecycleRow where
  scope : Scope
  quantity : ℚ
  isOpen : Bool
  lastTransition : String
  lastTransitionAtMs : Int
  observedAtMs : Int
  sourceHash : String

/-- A row of `live_position_lifecycle`, as far as it is read. -/
structure LegacyLifecycle where
  accountId : String
  symbol : String
  positionSide : String

/-- A row of `live_position_active`. -/
structure LegacyActive where
  symbol : String
  isOpen : Int
  lastOpenedAtMs : Int

/-- What the payload of a stored account snapshot says of its account. -/
structure SnapshotIdentity where
  environment : String
  credentialNamespace : String
  accountId : String
  snapshotHash : String

/-- A row of `live_account_snapshots`; a payload that does not validate is `none`. -/
structure StoredSnapshot where
  accountId : String
  snapshotHash : String
  observedAtMs : Int
  payload : Option SnapshotIdentity

/-- The tables that an evaluation touches. -/
structure Book (Context : Type) where
  outbox : Store Context := {}
  lifecycle : List LifecycleRow := []
  observedSources : List String := []
  legacyLifecycle : List LegacyLifecycle := []
  legacyActive : List LegacyActive := []
  accountSnapshots : Option (List StoredSnapshot) := none

/-! ### Legacy rows -/

def Book.unboundLegacyLifecycle (book : Book Context) (scope : Scope) : Bool :=
  scope.environment = .dryRun ∧ scope.credentialNamespace = "NONE" ∧
    ∃ old ∈ book.legacyLifecycle, old.accountId = scope.accountId ∧ old.symbol = scope.symbol ∧
      old.positionSide = scope.positionSide.text ∧
      ∀ row ∈ book.lifecycle, row.scope ≠ scope

/-- `ORDER BY observed_at_ms DESC, rowid DESC LIMIT 1`. -/
def latestSnapshot (snapshots : List StoredSnapshot) (accountId : String) :
    Option StoredSnapshot :=
  (snapshots.filter fun row => row.accountId = accountId).foldl
    (fun latest row =>
      match latest with
      | some held => if held.observedAtMs ≤ row.observedAtMs then some row else some held
      | none => some row) none

def BindsLegacy (snapshots : List StoredSnapshot) (obs : PositionObservation)
    (row : LegacyActive) : Prop :=
  (snapshots.map fun stored => stored.accountId).dedup.length = 1 ∧
    ∃ latest ∈ latestSnapshot snapshots obs.accountId, ∃ snapshot ∈ latest.payload,
      snapshot.environment = "DRY_RUN" ∧ snapshot.credentialNamespace = "NONE" ∧
        snapshot.accountId = obs.accountId ∧ snapshot.snapshotHash = latest.snapshotHash ∧
        snapshot.snapshotHash = obs.accountSnapshotHash ∧ row.isOpen ∈ [(0 : Int), 1]

instance (snapshots : List StoredSnapshot) (obs : PositionObservation) (row : LegacyActive) :
    Decidable (BindsLegacy snapshots obs row) :=
  inferInstanceAs (Decidable (_ ∧ _))

def Book.legacyRow (book : Book Context) (active : Option LifecycleRow)
    (obs : PositionObservation) : Except Raised (Option LegacyActive) :=
  if active.isNone ∧ obs.environment = .dryRun ∧ obs.credentialNamespace = "NONE" then
    match book.legacyActive.find? fun row => row.symbol = obs.symbol with
    | none => pure none
    | some row => do
      refuse (¬ BindsLegacy (book.accountSnapshots.getD []) obs row)
        (.fault (.valueError "LEGACY_POSITION_ACCOUNT_BINDING_REQUIRED"))
      pure (some row)
  else pure none

/-! ### The lifecycle -/

def transitions (wasOpen : Bool) (previous : Option ℚ) (quantity : ℚ) : List Trigger :=
  if wasOpen ∧ quantity = 0 then [.positionClosed]
  else if ¬ wasOpen ∧ quantity ≠ 0 then [.positionOpened]
  else if ∃ held ∈ previous, held * quantity < 0 then [.positionClosed, .positionOpened]
  else []

def wasOpen (active : Option LifecycleRow) (legacy : Option LegacyActive) : Bool :=
  match active, legacy with
  | some row, _ => row.isOpen
  | none, some row => row.isOpen ≠ 0
  | none, none => false

def lifecycleRow (active : Option LifecycleRow) (legacy : Option LegacyActive)
    (obs : PositionObservation) (nowMs : Int) (met : List Trigger) : LifecycleRow where
  scope := obs.toScope
  quantity := obs.quantity
  isOpen := obs.quantity ≠ 0
  lastTransition :=
    match met.getLast?, active with
    | some trigger, _ => trigger.text
    | none, some row => row.lastTransition
    | none, none => if wasOpen active legacy then "POSITION_OPENED" else ""
  lastTransitionAtMs :=
    match met, active, legacy with
    | _ :: _, _, _ => nowMs
    | [], some row, _ => row.lastTransitionAtMs
    | [], none, some row => if wasOpen active legacy then row.lastOpenedAtMs else 0
    | [], none, none => 0
  observedAtMs := obs.observedAtMs
  sourceHash := obs.observationHash

/-! ### Events -/

def Store.onCooldown (outbox : Store Context) (authorityKey : String) (trigger : Trigger)
    (nowMs cooldownMs : Int) : Bool :=
  outbox.events.rows.any fun event => event.positionAuthorityKey = some authorityKey ∧
    event.trigger = trigger.text ∧ nowMs - event.observedAtMs < cooldownMs

/-- `PositionEventV1.build` for a trigger. -/
def buildEvent (obs : PositionObservation) (authorityKey : String) (nowMs : Int)
    (trigger : Trigger) (token : String) : Except Fault PositionEvent := do
  let event : PositionEvent := {
    eventId := "pe-" ++ token
    eventHash := ""
    trigger := trigger.text
    symbol := obs.symbol
    sourceHash := obs.observationHash
    environment := some obs.environment.text
    credentialNamespace := some obs.credentialNamespace
    accountId := some obs.accountId
    positionSide := some obs.positionSide.text
    positionAuthorityKey := some authorityKey
    observedAtMs := nowMs
    markPrice := obs.markPrice
    quantity := if trigger = .positionClosed then 0 else obs.quantity }
  refuse (authorityKey = "") (.valueError "position event authority incomplete")
  refuse (nowMs < 0) (.valueError "invalid position event")
  let expected ← obs.authorityKey content
  refuse (authorityKey ≠ expected) (.valueError "position event authority mismatch")
  pure { event with eventHash := content.eventHash event }

/-- The loop over the triggers; the tokens are those that `secrets` draws. -/
def emit (policy : SupervisorPolicy) (obs : PositionObservation) (authorityKey : String)
    (nowMs : Int) (tokens : ℕ → String) :
    List Trigger → Store Context → List PositionEvent →
      Except Raised (Store Context × List PositionEvent)
  | [], outbox, events => pure (outbox, events)
  | trigger :: rest, outbox, events =>
    if outbox.onCooldown authorityKey trigger nowMs policy.cooldownMs ∧ trigger.governed then
      emit policy obs authorityKey nowMs tokens rest outbox events
    else do
      let event ← (buildEvent content obs authorityKey nowMs trigger
        (tokens events.length)).mapError .fault
      refuse (outbox.Repeats event) .integrityError
      emit policy obs authorityKey nowMs tokens rest (outbox.insertEvent event nowMs)
        (events ++ [event])

/-! ### Evaluation -/

def evaluateNew (policy : SupervisorPolicy) (tokens : ℕ → String) (book : Book Context)
    (obs : PositionObservation) (authorityKey : String) (nowMs : Int) :
    Except Raised (Book Context × List PositionEvent) := do
  let active := KeyedList.lookup LifecycleRow.scope book.lifecycle obs.toScope
  refuse (active.isNone ∧ book.unboundLegacyLifecycle obs.toScope)
    (.fault (.valueError "LEGACY_POSITION_LIFECYCLE_AUTHORITY_UNBOUND"))
  refuse (∃ row ∈ active, obs.observedAtMs < row.observedAtMs)
    (.fault (.valueError "POSITION_OBSERVATION_OUT_OF_ORDER"))
  let legacy ← book.legacyRow active obs
  let met := transitions (wasOpen active legacy) (active.map LifecycleRow.quantity) obs.quantity
  let (outbox, events) ← emit content policy obs authorityKey nowMs tokens
    (met ++ marketTriggers policy obs nowMs) book.outbox []
  pure ({ book with
    outbox := outbox
    lifecycle := KeyedList.insert LifecycleRow.scope book.lifecycle
      (lifecycleRow active legacy obs nowMs met)
    observedSources := obs.observationHash :: book.observedSources
    legacyActive :=
      if legacy.isSome then book.legacyActive.filter fun row => row.symbol ≠ obs.symbol
      else book.legacyActive }, events)

/-- `evaluate`: the tables after the commit, and the events; an observation that was seen before
changes nothing. -/
def evaluate (policy : SupervisorPolicy) (tokens : ℕ → String) (book : Book Context)
    (obs : PositionObservation) (nowMs : Int) :
    Except Raised (Book Context × List PositionEvent) := do
  (obs.verify content).mapError .fault
  let authorityKey ← (obs.authorityKey content).mapError .fault
  if obs.observationHash ∈ book.observedSources then pure (book, [])
  else evaluateNew content policy tokens book obs authorityKey nowMs

end QuantAgent.Supervisor
