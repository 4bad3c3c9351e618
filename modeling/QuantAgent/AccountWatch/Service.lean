/-
This file embeds the account watch: its REST reconciliation, the handlers of the user stream,
disconnects, reconnects and restarts.

A reconciliation runs outside the state lock and takes several steps, between which the other
handlers may act; each of the handlers is one step. Beside the state stand the snapshots that
were published, each with the number of notices it takes into account; no operation reads them.
-/

import QuantAgent.AccountWatch.Snapshot

namespace QuantAgent.AccountWatch

/-! ### State -/

/-- What a reconciliation has parsed from the answers of the exchange. -/
structure Balances where
  equity : ℚ
  available : ℚ
  wallet : ℚ
  margin : ℚ
  dailyLoss : ℚ
  drawdown : ℚ
  positions : List Position
  orders : List Order

/-- How far a reconciliation has come. -/
inductive Stage where
  | begun
  | reading (account : AccountInformation)
  | parsed (balances : Balances)
  | marked (balances : Balances)
  | built (snapshot : Snapshot)

/-- A reconciliation in flight: the generation and the time it began with, and the generation at
which it read the first answer. -/
structure RestCall where
  generation : ℕ
  now : Int
  readAt : ℕ
  stage : Stage

/-- A published snapshot, the notices it takes into account, and those processed by then. -/
structure Publication where
  snapshot : Snapshot
  seen : ℕ
  generation : ℕ

/-- The attributes of the service object, with the number of notices that the latest snapshot
takes into account. -/
structure Watch where
  streamConnected : Bool := false
  reconciled : Bool := false
  conflictCount : ℕ := 0
  lastRestAtMs : Int := 0
  peakEquityUsdt : ℚ := 1000
  latest : Option Snapshot := none
  lastUserEventMs : Int := 0
  userEventSources : String → Option (Int × Payload) := fun _ => none
  stateGeneration : ℕ := 0
  rest : Option RestCall := none
  seen : ℕ := 0

/-- The rows of `live_account_snapshots` in the order they were inserted. -/
abbrev AccountStore := List Snapshot

namespace AccountStore

/-- `INSERT OR IGNORE` under the hash of the snapshot. -/
def save (rows : AccountStore) (snapshot : Snapshot) : AccountStore :=
  if snapshot ∈ rows then rows else rows ++ [snapshot]

/-- `ORDER BY observed_at_ms DESC, rowid DESC LIMIT 1`. -/
def latest (rows : AccountStore) : Option Snapshot :=
  rows.foldl (fun best row =>
    match best with
    | none => some row
    | some other => if other.observedAtMs ≤ row.observedAtMs then some row else some other) none

variable {rows : AccountStore}

theorem mem_of_latest {snapshot : Snapshot}
    (found : rows.latest = some snapshot) : snapshot ∈ rows := by
  have among : ∀ (later : AccountStore) (best : Option Snapshot),
      later.foldl (fun best row =>
        match best with
        | none => some row
        | some other => if other.observedAtMs ≤ row.observedAtMs then some row else some other)
        best = some snapshot → snapshot ∈ later ∨ best = some snapshot := by
    intro later
    induction later with
    | nil => exact fun best same => .inr same
    | cons row rest inductionHypothesis =>
      intro best same
      rcases inductionHypothesis _ same with member | kept
      · exact .inl (List.mem_cons_of_mem _ member)
      · cases best with
        | none =>
          cases kept
          exact .inl List.mem_cons_self
        | some other =>
          dsimp only at kept
          split_ifs at kept
          · cases kept
            exact .inl List.mem_cons_self
          · exact .inr kept
  rcases among rows none found with member | absurd
  · exact member
  · cases absurd

theorem eq_nil_of_latest (absent : rows.latest = none) : rows = [] := by
  have found : ∀ (later : AccountStore) (best : Option Snapshot), best.isSome →
      (later.foldl (fun best row =>
        match best with
        | none => some row
        | some other => if other.observedAtMs ≤ row.observedAtMs then some row else some other)
        best).isSome := by
    intro later
    induction later with
    | nil => exact fun best present => present
    | cons row rest inductionHypothesis =>
      intro best present
      refine inductionHypothesis _ ?_
      cases best with
      | none => cases present
      | some other =>
        dsimp only
        split_ifs <;> rfl
  cases rows with
  | nil => rfl
  | cons row rest =>
    have present := found rest (some row) rfl
    change (latest (row :: rest)).isSome at present
    rw [absent] at present
    cases present

theorem mem_save {snapshot row : Snapshot}
    (member : row ∈ rows.save snapshot) : row ∈ rows ∨ row = snapshot := by
  unfold save at member
  split_ifs at member
  · exact .inl member
  · rcases List.mem_append.mp member with before | single
    · exact .inl before
    · exact .inr (List.mem_singleton.mp single)

end AccountStore

structure Service where
  watch : Watch := {}
  store : AccountStore := []
  publications : List Publication := []

namespace Service

def publish (service : Service) (snapshot : Snapshot) (seen : ℕ) : Service where
  watch := { service.watch with latest := some snapshot, seen := seen }
  store := service.store.save snapshot
  publications :=
    ⟨snapshot, seen, service.watch.stateGeneration⟩ :: service.publications

/-! ### Disconnects -/

def unreconciled (watch : Watch) (nowMs : Int) (latest : Snapshot) : Snapshot :=
  { latest with
    observedAtMs := nowMs
    streamConnected := false
    reconciled := false
    conflictCount := watch.conflictCount
    quality := .stale }

/-- The flags a disconnect sets before it builds a snapshot. -/
def disconnected (watch : Watch) : Watch :=
  { watch with
    stateGeneration := watch.stateGeneration + 1
    streamConnected := false
    reconciled := false }

/-- `mark_stream_disconnected`; a snapshot that is not valid raises after the flags are set. -/
def markStreamDisconnected (service : Service) (nowMs : Int) : Service :=
  let flagged := { service with watch := disconnected service.watch }
  match flagged.watch.latest with
  | none => flagged
  | some latest =>
    match (unreconciled flagged.watch nowMs latest).build with
    | .ok snapshot => flagged.publish snapshot flagged.watch.stateGeneration
    | .error _ => flagged

/-! ### User events -/

def conflict (service : Service) : Service :=
  { service with watch := { service.watch with conflictCount := service.watch.conflictCount + 1 } }

def latestSnapshot (service : Service) : Option Snapshot :=
  service.watch.latest.or service.store.latest

def sourceOf (payload : Payload) : String :=
  payload.eventType ++ ":" ++ (payload.order.elim "ACCOUNT" fun order =>
    order.orderId.getD "None")

/-- The event does not continue a fresh baseline. -/
def Discontinuous (watch : Watch) (latest : Option Snapshot) (eventMs txMs : Int)
    (prior : Option (Int × Payload)) : Prop :=
  ¬ watch.reconciled ∨ (∀ snapshot ∈ latest, ¬ snapshot.reconciled) ∨
    eventMs < watch.lastUserEventMs ∨
    (∃ snapshot ∈ latest, eventMs ≤ snapshot.lastRestAtMs) ∨
    (∃ last ∈ prior, eventMs ≤ last.1) ∨ txMs < 0

instance (watch : Watch) (latest : Option Snapshot) (eventMs txMs : Int)
    (prior : Option (Int × Payload)) :
    Decidable (Discontinuous watch latest eventMs txMs prior) :=
  inferInstanceAs (Decidable (_ ∨ _))

def patch (payload : Payload) (eventMs : Int) (values : Snapshot) : Except String Snapshot :=
  if payload.eventType = "ACCOUNT_UPDATE" then
    match payload.account with
    | none => .error "invalid account update"
    | some account => account.apply eventMs values
  else
    match payload.order with
    | none => .error "invalid order update"
    | some order => order.apply eventMs values

def applyEvent (payload : Payload) (eventMs : Int) (latest : Snapshot) :
    Except String Snapshot := do
  let updated ← patch payload eventMs { latest with
    observedAtMs := max latest.observedAtMs eventMs
    streamConnected := true }
  updated.build

/-- An applied event is published; the notices it adds itself are then taken into account. -/
def publishEvent (service : Service) (payload : Payload) (eventMs : Int) (updated : Snapshot) :
    Service :=
  { service with watch := { service.watch with
      lastUserEventMs := max service.watch.lastUserEventMs eventMs
      userEventSources :=
        Function.update service.watch.userEventSources (sourceOf payload) (some (eventMs, payload))
      stateGeneration := service.watch.stateGeneration + 1 } }.publish updated
    (service.watch.seen + 1)

/-- `handle_user_event` after the times of the message are read. -/
def handleTimedEvent (service : Service) (payload : Payload) (nowMs eventMs txMs : Int) : Service :=
  let latest := service.latestSnapshot
  let prior := service.watch.userEventSources (sourceOf payload)
  if prior = some (eventMs, payload) then service
  else if Discontinuous service.watch latest eventMs txMs prior then
    service.conflict.markStreamDisconnected nowMs
  else
    match latest with
    | none => service.conflict.markStreamDisconnected nowMs
    | some snapshot =>
      match applyEvent payload eventMs snapshot with
      | .error _ => service.markStreamDisconnected nowMs
      | .ok updated => service.publishEvent payload eventMs updated

/-- `int(str(payload["E"]))` and `int(str(payload.get("T", event_ms)))`. -/
def timesOf (payload : Payload) : Except String (Int × Int) := do
  let eventMs ← payload.eventMs.required
  let txMs ← payload.txMs.getD eventMs
  pure (eventMs, txMs)

def handleUserEvent (environment : Environment) (service : Service) (payload : Payload)
    (nowMs : Int) : Service :=
  if environment ≠ .testnet then service.markStreamDisconnected nowMs
  else if payload.eventType = "listenKeyExpired" then service.markStreamDisconnected nowMs
  else if payload.eventType ∈ ["MARGIN_CALL", "ALGO_UPDATE"] then
    service.conflict.markStreamDisconnected nowMs
  else if payload.eventType ∉ ["ACCOUNT_UPDATE", "ORDER_TRADE_UPDATE"] then
    service.markStreamDisconnected nowMs
  else
    match timesOf payload with
    | .error _ => service.markStreamDisconnected nowMs
    | .ok (eventMs, txMs) => service.handleTimedEvent payload nowMs eventMs txMs

/-! ### Reconciliations -/

/-- The simulated state of a dry run. -/
structure Simulated where
  equity : ℚ := 1000
  available : ℚ := 1000
  wallet : ℚ := 1000
  margin : ℚ := 0
  dailyLoss : ℚ := 0
  positions : List Position := []
  orders : List Order := []

inductive Answers where
  | exchange (positions : List RawPosition) (orders : List RawOrder) (realizedPnl : ℚ)
  | simulated (state : Simulated)

/-- `drawdown` for a new peak. -/
def drawdownOf (peak equity : ℚ) : ℚ := if 0 < peak then max 0 ((peak - equity) / peak) else 0

def parseAccount (account : AccountInformation) : Except String (ℚ × ℚ × ℚ × ℚ) := do
  let wallet ← account.totalWalletBalance.getD 0
  let equity ← account.totalMarginBalance.getD wallet
  let available ← account.availableBalance.getD 0
  let margin ← account.totalInitialMargin.getD 0
  pure (wallet, equity, available, margin)

def parseRows (now : Int) (positions : List RawPosition) (orders : List RawOrder) :
    Except String (List Position × List Order) := do
  let parsedPositions ← positions.mapM (RawPosition.parse now)
  let parsedOrders ← orders.mapM (RawOrder.parse now)
  pure (parsedPositions.reduceOption, parsedOrders)

/-- The call goes on, or ends when there is none. -/
def withRest (service : Service) (rest : Option RestCall) : Service :=
  { service with watch := { service.watch with rest := rest } }

def withPeak (service : Service) (equity : ℚ) : Service :=
  { service with watch :=
    { service.watch with peakEquityUsdt := max service.watch.peakEquityUsdt equity } }

def receiveExchange (service : Service) (call : RestCall) (account : AccountInformation)
    (positions : List RawPosition) (orders : List RawOrder) (realizedPnl : ℚ) : Service :=
  match parseAccount account with
  | .error _ => service.withRest none
  | .ok (wallet, equity, available, margin) =>
    let raised := service.withPeak equity
    match parseRows call.now positions orders with
    | .error _ => raised.withRest none
    | .ok (parsedPositions, parsedOrders) =>
      raised.withRest (some { call with stage := .parsed {
        equity := equity
        available := available
        wallet := wallet
        margin := margin
        dailyLoss := |min 0 realizedPnl|
        drawdown := drawdownOf raised.watch.peakEquityUsdt equity
        positions := parsedPositions
        orders := parsedOrders } })

def receiveSimulated (service : Service) (call : RestCall) (state : Simulated) : Service :=
  let raised := service.withPeak state.equity
  raised.withRest (some { call with stage := .parsed {
    equity := state.equity
    available := state.available
    wallet := state.wallet
    margin := state.margin
    dailyLoss := state.dailyLoss
    drawdown := drawdownOf raised.watch.peakEquityUsdt state.equity
    positions := state.positions
    orders := state.orders } })

def restSnapshot (environment : Environment) (watch : Watch) (now : Int) (balances : Balances) :
    Snapshot where
  environment := environment
  observedAtMs := now
  lastRestAtMs := now
  streamConnected := watch.streamConnected
  reconciled := watch.reconciled
  conflictCount := watch.conflictCount
  equityUsdt := balances.equity
  availableBalanceUsdt := balances.available
  walletBalanceUsdt := balances.wallet
  marginUsedUsdt := balances.margin
  dailyLossUsdt := balances.dailyLoss
  drawdownPct := min 1 balances.drawdown
  peakEquityUsdt := watch.peakEquityUsdt
  positions := balances.positions
  orders := balances.orders
  quality :=
    match environment with
    | .testnet => .ok
    | .dryRun => if watch.reconciled then .ok else .stale

def conflicting (watch : Watch) (now : Int) (latest : Snapshot) : Snapshot :=
  { latest with
    reconciled := false
    quality := if latest.quality = .stale then .stale else .conflict
    conflictCount := watch.conflictCount
    observedAtMs := max latest.observedAtMs now
    lastRestAtMs := max latest.lastRestAtMs now }

def publishRest (service : Service) (call : RestCall) (snapshot : Snapshot) : Service :=
  if service.watch.stateGeneration = call.generation then service.publish snapshot call.readAt
  else
    match service.watch.latest with
    | none => service.publish snapshot call.readAt
    | some latest =>
      let conflicted := service.conflict
      let marked := { conflicted with watch := { conflicted.watch with reconciled := false } }
      match (conflicting marked.watch call.now latest).build with
      | .ok kept => marked.publish kept service.watch.seen
      | .error _ => marked

/-- The next step of the reconciliation in flight. -/
def advanceRest (environment : Environment) (service : Service) (call : RestCall) : Service :=
  match call.stage with
  | .parsed balances =>
    let marked := { service with watch :=
      { service.watch with lastRestAtMs := call.now, reconciled := true } }
    marked.withRest (some { call with stage := .marked balances })
  | .marked balances =>
    match (restSnapshot environment service.watch call.now balances).build with
    | .error _ => service.withRest none
    | .ok snapshot => service.withRest (some { call with stage := .built snapshot })
  | .built snapshot => (service.publishRest call snapshot).withRest none
  | _ => service

/-! ### Reconnects and restarts -/

def reconnect (service : Service) : Service :=
  let connected := { service with watch := { service.watch with streamConnected := true } }
  match connected.watch.latest with
  | none => connected
  | some latest =>
    match ({ latest with streamConnected := true } : Snapshot).build with
    | .ok snapshot => connected.publish snapshot service.watch.seen
    | .error _ => connected

/-- A new service object over the same store; its constructor raises when the restored snapshot
cannot be marked as disconnected. -/
def restart (service : Service) (nowMs : Int) : Service :=
  match service.store.latest with
  | none => { service with watch := {} }
  | some restored =>
    let fresh : Service := { service with watch := {
      latest := some restored
      peakEquityUsdt := restored.peakEquityUsdt
      conflictCount := restored.conflictCount
      lastRestAtMs := restored.lastRestAtMs } }
    if restored.environment = .testnet ∧ (restored.reconciled ∨ restored.streamConnected) then
      if (unreconciled (disconnected fresh.watch) nowMs restored).Valid then
        fresh.markStreamDisconnected nowMs
      else service
    else fresh

end Service

/-! ### Steps -/

inductive Event where
  | restBegin (nowMs : Int)
  | restRead (account : AccountInformation)
  | restAnswers (answers : Service.Answers)
  | restAdvance
  | restFail
  | userEvent (payload : Payload) (nowMs : Int)
  | disconnect (nowMs : Int)
  | reconnect
  | restart (nowMs : Int)

/-- One step of the service. The lock of the reconciliations admits one at a time. -/
def Service.step (environment : Environment) (service : Service) : Event → Service
  | .restBegin nowMs =>
    match service.watch.rest with
    | some _ => service
    | none => service.withRest (some ⟨service.watch.stateGeneration, nowMs,
        service.watch.stateGeneration, .begun⟩)
  | .restRead account =>
    match service.watch.rest with
    | some ⟨generation, now, _, .begun⟩ => service.withRest (some
        ⟨generation, now, service.watch.stateGeneration, .reading account⟩)
    | _ => service
  | .restAnswers answers =>
    match environment, answers, service.watch.rest with
    | .testnet, .exchange positions orders realizedPnl, some ⟨generation, now, readAt,
        .reading account⟩ =>
      service.receiveExchange ⟨generation, now, readAt, .reading account⟩ account positions orders
        realizedPnl
    | .dryRun, .simulated state, some ⟨generation, now, readAt, .reading account⟩ =>
      service.receiveSimulated ⟨generation, now, readAt, .reading account⟩ state
    | _, _, _ => service
  | .restAdvance =>
    match service.watch.rest with
    | some call => service.advanceRest environment call
    | none => service
  | .restFail => service.withRest none
  | .userEvent payload nowMs => service.handleUserEvent environment payload nowMs
  | .disconnect nowMs => service.markStreamDisconnected nowMs
  | .reconnect => service.reconnect
  | .restart nowMs => service.restart nowMs

/-! ### What the handlers do -/

namespace Service

structure Applies (environment : Environment) (service : Service) (payload : Payload)
    (eventMs txMs : Int) (latest updated : Snapshot) : Prop where
  testnet : environment = .testnet
  times : timesOf payload = .ok (eventMs, txMs)
  new : service.watch.userEventSources (sourceOf payload) ≠ some (eventMs, payload)
  continuous : ¬ Discontinuous service.watch service.latestSnapshot eventMs txMs
    (service.watch.userEventSources (sourceOf payload))
  found : service.latestSnapshot = some latest
  done : applyEvent payload eventMs latest = .ok updated

theorem markStreamDisconnected_cases (service : Service) (nowMs : Int) :
    (∃ latest, service.watch.latest = some latest ∧
      (unreconciled (disconnected service.watch) nowMs latest).Valid ∧
      service.markStreamDisconnected nowMs =
        ({ service with watch := disconnected service.watch } : Service).publish
          (unreconciled (disconnected service.watch) nowMs latest)
          (service.watch.stateGeneration + 1)) ∨
    (∀ latest ∈ service.watch.latest,
      ¬ (unreconciled (disconnected service.watch) nowMs latest).Valid) ∧
      service.markStreamDisconnected nowMs =
        { service with watch := disconnected service.watch } := by
  unfold markStreamDisconnected
  dsimp only
  cases found : (disconnected service.watch).latest with
  | none =>
    refine .inr ⟨fun latest member => ?_, rfl⟩
    change service.watch.latest = none at found
    rw [found] at member
    cases member
  | some latest =>
    change service.watch.latest = some latest at found
    cases built : (unreconciled (disconnected service.watch) nowMs latest).build with
    | ok snapshot =>
      obtain ⟨valid, rfl⟩ := Snapshot.build_eq_ok.mp built
      refine .inl ⟨latest, found, valid, ?_⟩
      dsimp only
      rw [built]
      rfl
    | error message =>
      refine .inr ⟨fun other member valid => ?_, by dsimp only; rw [built]⟩
      rw [found, Option.mem_some_iff] at member
      subst member
      rw [Snapshot.build_eq_ok.mpr ⟨valid, rfl⟩] at built
      cases built

theorem handleUserEvent_cases (environment : Environment) (service : Service) (payload : Payload)
    (nowMs : Int) :
    service.handleUserEvent environment payload nowMs = service ∨
    service.handleUserEvent environment payload nowMs = service.markStreamDisconnected nowMs ∨
    service.handleUserEvent environment payload nowMs =
      service.conflict.markStreamDisconnected nowMs ∨
    ∃ eventMs txMs latest updated,
      Applies environment service payload eventMs txMs latest updated ∧
      service.handleUserEvent environment payload nowMs =
        service.publishEvent payload eventMs updated := by
  generalize same : service.handleUserEvent environment payload nowMs = after
  unfold handleUserEvent at same
  split_ifs at same with elsewhere expired margin known
  · exact .inr (.inl same.symm)
  · exact .inr (.inl same.symm)
  · exact .inr (.inr (.inl same.symm))
  · split at same
    · exact .inr (.inl same.symm)
    rename_i eventMs txMs timed
    unfold handleTimedEvent at same
    dsimp only at same
    split_ifs at same with repeated discontinuous
    · exact .inl same.symm
    · exact .inr (.inr (.inl same.symm))
    split at same
    · exact .inr (.inr (.inl same.symm))
    rename_i latest found
    split at same
    · exact .inr (.inl same.symm)
    · rename_i updated done
      exact .inr (.inr (.inr ⟨eventMs, txMs, latest, updated,
        ⟨not_not.mp elsewhere, timed, repeated, discontinuous, found, done⟩, same.symm⟩))
  · exact .inr (.inl same.symm)

theorem handleUserEvent_of_applies {environment : Environment} {service : Service}
    {payload : Payload} {nowMs eventMs txMs : Int} {latest updated : Snapshot}
    (applies : Applies environment service payload eventMs txMs latest updated)
    (named : payload.eventType = "ACCOUNT_UPDATE") :
    service.handleUserEvent environment payload nowMs =
      service.publishEvent payload eventMs updated := by
  unfold handleUserEvent
  rw [if_neg (not_not.mpr applies.testnet), if_neg (by rw [named]; decide),
    if_neg (by rw [named]; decide), if_neg (by rw [named]; decide), applies.times]
  unfold handleTimedEvent
  dsimp only
  rw [if_neg applies.new, if_neg applies.continuous, applies.found]
  dsimp only
  rw [applies.done]

end Service

end QuantAgent.AccountWatch
