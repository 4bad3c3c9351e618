/-
This file embeds the simulated backend: a submission fills at once and places its protective stop,
and a reconciliation fits the stop to the open position. The table of orders keeps order ids and
client ids unique; a call that would break this fails and leaves the table as it was.

A stop is named by the first characters of the client id of its intent. Every filled intent has one
protective order, whatever the calls, and no call fails while those characters tell the intents
apart.
-/

import QuantAgent.Execution.Records
import QuantAgent.Library.Runs

namespace QuantAgent.Execution.DryRun

/-! ### Identities -/

/-- `text[:count]`. -/
def firstCharacters (count : ℕ) (text : String) : String := String.ofList (text.toList.take count)

/-- Hexadecimal digests of 64 digits. -/
structure Digest where
  hexdigest : String → String
  length : ∀ text, (hexdigest text).toList.length = 64

def canonicalExecutionIdentity (digest : Digest) (caseHash proposalHash approvalEventId : String) :
    String × String × String :=
  let authorityHash := digest.hexdigest (caseHash ++ ":" ++ proposalHash ++ ":" ++ approvalEventId)
  ("intent_" ++ firstCharacters 24 authorityHash, "idem_" ++ firstCharacters 24 authorityHash,
    "cuid_v1_" ++ firstCharacters 16 authorityHash)

structure ValidIntent (digest : Digest) extends TradeIntent where
  quantityPositive : 0 < quantity
  pricePositive : 0 < price
  stopLossPositive : 0 < stopLoss
  leveragePositive : 1 ≤ leverage
  chronology : 0 ≤ createdAtMs ∧ createdAtMs < expiresAtMs
  identity : (intentId, idempotencyKey, clientOrderId) =
    canonicalExecutionIdentity digest caseHash proposalHash approvalEventId
  deriving DecidableEq

/-! ### The table of orders -/

abbrev OrderTable := Table OrderRow

/-- `INSERT` with the two unique columns. -/
def OrderTable.insertOrder (orders : OrderTable) (row : OrderRow) : Except Fault OrderTable := do
  refuse (row.orderId ∈ orders)
    (.other "UNIQUE constraint failed: live_execution_orders.order_id")
  refuse (∃ stored ∈ orders.rows, stored.clientOrderId = row.clientOrderId)
    (.other "UNIQUE constraint failed: live_execution_orders.client_order_id")
  return orders.insert row.orderId row

/-- `UPDATE ... WHERE order_id=?` of a stop: its quantity, status, client id and receipt time. -/
def OrderTable.updateStop (orders : OrderTable) (orderId clientOrderId : String) (quantity : ℚ)
    (nowMs : Int) : Except Fault OrderTable := do
  refuse (∃ stored ∈ orders.rows, stored.orderId ≠ orderId ∧ stored.clientOrderId = clientOrderId)
    (.other "UNIQUE constraint failed: live_execution_orders.client_order_id")
  return orders.modify orderId fun row =>
    { row with
      requestedQty := quantity
      status := .new
      clientOrderId := clientOrderId
      receiptTimeMs := nowMs }

def OrderTable.cancelStop (orders : OrderTable) (orderId : String) : OrderTable :=
  orders.modify orderId fun row => { row with status := .canceled }

def OrderTable.byClientId (orders : OrderTable) (clientOrderId : String) : Option OrderRow :=
  orders.rows.find? fun row => row.clientOrderId = clientOrderId

def OrderTable.protectiveRows (orders : OrderTable) (intentId : String) : List OrderRow :=
  orders.rows.filter fun row => row.intentId = intentId ∧ row.isProtective = true

/-! ### Submission -/

def simOrderId (intent : TradeIntent) : String := "sim-" ++ intent.intentId

def simStopId (intent : TradeIntent) : String := "sim-stop-" ++ intent.intentId

def submittedStopClientId (intent : TradeIntent) : String :=
  "bqa-stop-" ++ firstCharacters 16 intent.clientOrderId

/-- `f"{int(quantity * 1000):04d}"`. -/
def scaledQuantity (quantity : ℚ) : String :=
  String.ofList ((Nat.toDigits 10 ⌊quantity * 1000⌋.toNat).leftpad 4 '0')

def reconciledStopClientId (intent : TradeIntent) (quantity : ℚ) : String :=
  "bqa-stop-" ++ firstCharacters 12 intent.clientOrderId ++ "-" ++ scaledQuantity quantity

def entryRow (intent : TradeIntent) (nowMs : Int) : OrderRow where
  orderId := simOrderId intent
  intentId := intent.intentId
  clientOrderId := intent.clientOrderId
  symbol := intent.symbol
  side := intent.side
  status := .filled
  requestedQty := intent.quantity
  filledQty := intent.quantity
  avgPrice := intent.price
  stopPrice := none
  isProtective := false
  reduceOnly := false
  exchangeTimeMs := nowMs
  receiptTimeMs := nowMs

def stopRow (intent : TradeIntent) (clientOrderId : String) (quantity : ℚ)
    (nowMs : Int) : OrderRow where
  orderId := simStopId intent
  intentId := intent.intentId
  clientOrderId := clientOrderId
  symbol := intent.symbol
  side := intent.side.exit
  status := .new
  requestedQty := quantity
  filledQty := 0
  avgPrice := 0
  stopPrice := some intent.stopLoss
  isProtective := true
  reduceOnly := true
  exchangeTimeMs := nowMs
  receiptTimeMs := nowMs

def reportOf (row : OrderRow) (intentId : String) (protectiveStopId : Option String)
    (reason : String) : ExecutionReport where
  intentId := intentId
  status := row.status
  orderId := row.orderId
  clientOrderId := row.clientOrderId
  requestedQty := row.requestedQty
  filledQty := row.filledQty
  avgPrice := row.avgPrice
  protectiveStopId := protectiveStopId
  reason := reason

def submitIntent (orders : OrderTable) (intent : TradeIntent) (nowMs : Int) :
    Except Fault (OrderTable × ExecutionReport) :=
  match orders.byClientId intent.clientOrderId with
  | some row =>
    pure (orders, reportOf row intent.intentId (some (simStopId intent)) "IDEMPOTENT_REPLAY")
  | none => do
    let entered ← orders.insertOrder (entryRow intent nowMs)
    let guarded ← entered.insertOrder
      (stopRow intent (submittedStopClientId intent) intent.quantity nowMs)
    return (guarded,
      reportOf (entryRow intent nowMs) intent.intentId (some (simStopId intent)) "FILLED")

/-! ### Reconciliation -/

def targetQuantity (intent : TradeIntent) (entry : OrderRow) (openPosition provided : Option ℚ) :
    ℚ :=
  min (min ((openPosition.or provided).getD entry.filledQty) entry.filledQty) intent.quantity

/-- The transaction of `reconcile_intent`: the table and the id of the stop that works. -/
def fitStop (orders : OrderTable) (intent : TradeIntent) (target : ℚ) (nowMs : Int) :
    Except Fault (OrderTable × Option String) :=
  let clientOrderId := reconciledStopClientId intent target
  match (orders.protectiveRows intent.intentId).head? with
  | none =>
    if target ≤ 0 then pure (orders, none)
    else do
      let guarded ← orders.insertOrder (stopRow intent clientOrderId target nowMs)
      return (guarded, some (simStopId intent))
  | some stop =>
    if target ≤ 0 then pure (orders.cancelStop stop.orderId, none)
    else if stop.requestedQty ≠ target ∨ stop.status = .canceled then do
      let fitted ← orders.updateStop stop.orderId clientOrderId target nowMs
      return (fitted, some stop.orderId)
    else pure (orders, some stop.orderId)

/-- `reconcile_intent`; a position that is not given is asked from the provider, if there is one. -/
def reconcileIntent (orders : OrderTable) (intent : TradeIntent) (nowMs : Int)
    (openPosition provided : Option ℚ) : Except Fault (OrderTable × ExecutionReport) :=
  match orders.byClientId intent.clientOrderId with
  | none =>
    pure (orders, {
      intentId := intent.intentId
      status := .notFound
      orderId := ""
      clientOrderId := intent.clientOrderId
      requestedQty := intent.quantity
      filledQty := 0
      avgPrice := 0
      protectiveStopId := none
      reason := "ORDER_NOT_FOUND" })
  | some entry => do
    let (fitted, stopId) ← fitStop orders intent
      (targetQuantity intent entry openPosition provided) nowMs
    return (fitted, reportOf entry intent.intentId stopId "RECONCILED")

/-! ### Calls -/

inductive Call (digest : Digest) where
  | submit (intent : ValidIntent digest) (nowMs : Int)
  | reconcile (intent : ValidIntent digest) (nowMs : Int) (openPosition provided : Option ℚ)

def Call.intent {digest : Digest} : Call digest → ValidIntent digest
  | submit intent _ => intent
  | reconcile intent _ _ _ => intent

def Call.execute {digest : Digest} (orders : OrderTable) :
    Call digest → Except Fault (OrderTable × ExecutionReport)
  | submit intent nowMs => submitIntent orders intent.toTradeIntent nowMs
  | reconcile intent nowMs openPosition provided =>
    reconcileIntent orders intent.toTradeIntent nowMs openPosition provided

/-- The quantity that a call leaves to protect: all of a new fill, or what a reconciliation finds
open. -/
def Call.target {digest : Digest} (orders : OrderTable) : Call digest → Option ℚ
  | submit intent _ =>
    match orders.byClientId intent.clientOrderId with
    | some _ => none
    | none => some intent.quantity
  | reconcile intent _ openPosition provided =>
    (orders.byClientId intent.clientOrderId).map fun entry =>
      targetQuantity intent.toTradeIntent entry openPosition provided

/-- The orders, beside what the completed calls left to protect, by intent, and the faults. -/
structure World where
  orders : OrderTable := ∅
  targets : Table ℚ := ∅
  faults : List Fault := []

variable {digest : Digest}

def World.step (world : World) (call : Call digest) : World :=
  match call.execute world.orders with
  | .error fault => { world with faults := fault :: world.faults }
  | .ok (orders, _) =>
    { world with
      orders := orders
      targets := match call.target world.orders with
        | some target => world.targets.insert call.intent.intentId target
        | none => world.targets }

end QuantAgent.Execution.DryRun
