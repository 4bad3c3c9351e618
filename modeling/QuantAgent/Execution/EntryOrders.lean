/-
This file embeds how the execution service submits, reconciles and cancels an entry plan: the
preflight of the environment, the guard, the stored receipts and the status of the plan.

Every statement on the two tables and every request to the outside is a step of its own, and between
any two of them other calls act. A signal, its market and the exchange may answer anything and may
fail at any time. Under the policy of the source the preflight lets the paper mode pass only.
-/

import QuantAgent.Execution.EntryPlans
import QuantAgent.Library.Concurrent

namespace QuantAgent.Execution.Entry

open Concurrent

/-! ### Plans and receipts -/

/-- Statuses of entry plans, `PROTECTED` among them. -/
inductive PlanStatus where
  | prepared
  | submitted
  | partiallyFilled
  | underProtection
  | cancelled
  | cancelledExpired
  | failsafeClosed
  deriving DecidableEq

def PlanStatus.text : PlanStatus → String
  | prepared => "PREPARED"
  | submitted => "SUBMITTED"
  | partiallyFilled => "PARTIALLY_FILLED"
  | underProtection => "PROTECTED"
  | cancelled => "CANCELLED"
  | cancelledExpired => "CANCELLED_EXPIRED"
  | failsafeClosed => "FAILSAFE_CLOSED"

inductive StoredPlan where
  | entry (plan : ExecutionPlan)
  | close

structure PlanRow where
  status : PlanStatus
  payload : StoredPlan

def PlanRow.entry (row : PlanRow) : Option (PlanStatus × ExecutionPlan) :=
  match row.payload with
  | .entry plan => some (row.status, plan)
  | .close => none

inductive OrderRole where
  | entry
  | stop
  | takeProfit
  deriving DecidableEq

/-- `OrderReceipt`, without the copy of the exchange's answer. -/
structure OrderReceipt where
  planId : String
  role : OrderRole
  orderId : String
  status : String
  planHash : String
  mode : ExecutionMode
  executionEnvironmentId : String
  credentialNamespaceId : String
  accountAuthorityId : String
  symbol : String
  submittedAtMs : Int
  clientOrderId : String

structure ReceiptRow where
  receipt : OrderReceipt
  createdAtMs : Int

structure Book where
  plans : Table PlanRow
  orders : List ReceiptRow := []

/-- `ORDER BY created_at_ms DESC, id DESC LIMIT 1`. -/
def latest (rows : List ReceiptRow) : Option ReceiptRow :=
  rows.foldl (fun best row =>
    match best with
    | some earlier => if earlier.createdAtMs ≤ row.createdAtMs then some row else some earlier
    | none => some row) none

namespace Book

variable (book : Book)

def latestExecutionOrder (planId : String) (role : OrderRole) : Option ReceiptRow :=
  latest (book.orders.filter fun row => row.receipt.planId = planId ∧ row.receipt.role = role)

def saveExecutionOrder (receipt : OrderReceipt) (createdAtMs : Int) : Book :=
  { book with orders := book.orders ++ [⟨receipt, createdAtMs⟩] }

def updateExecutionPlanStatus (planId : String) (status : PlanStatus) : Book :=
  { book with plans := book.plans.modify planId fun row => { row with status := status } }

end Book

/-! ### Transactions and requests -/

inductive BookTransaction where
  | getExecutionPlan (planId : String)
  | latestExecutionOrder (planId : String) (role : OrderRole)
  | saveExecutionOrder (receipt : OrderReceipt) (createdAtMs : Int)
  | updateExecutionPlanStatus (planId : String) (status : PlanStatus)

namespace BookTransaction

abbrev Value : BookTransaction → Type
  | getExecutionPlan _ => Option PlanRow
  | latestExecutionOrder _ _ => Option ReceiptRow
  | _ => Unit

def perform : (transaction : BookTransaction) → Book → Except Fault (Book × transaction.Value)
  | getExecutionPlan planId, book => .ok (book, book.plans.lookup planId)
  | latestExecutionOrder planId role, book => .ok (book, book.latestExecutionOrder planId role)
  | saveExecutionOrder receipt createdAtMs, book =>
    .ok (book.saveExecutionOrder receipt createdAtMs, ())
  | updateExecutionPlanStatus planId status, book =>
    .ok (book.updateExecutionPlanStatus planId status, ())

end BookTransaction

/-- The parameters of `place_order`. -/
structure OrderParameters where
  symbol : String
  side : Side
  type : String
  quantity : ℚ
  newClientOrderId : String
  price : Option ℚ := none
  reduceOnly : Bool := false

/-- The parameters of `place_protective_order` that vary. -/
structure ProtectiveParameters where
  symbol : String
  side : Side
  type : String
  triggerPrice : ℚ

/-- The fields of an answer of the exchange that the service reads. -/
structure OrderAnswer where
  orderId : Option String := none
  algoId : Option String := none
  clientOrderId : Option String := none
  status : Option String := none
  algoStatus : Option String := none

/-- What is asked of the clock, of tables that no step here writes, and of the exchange. -/
inductive DeskRequest where
  | clock
  | refreshSignalState (signalId : String) (current : Int)
  | dailyRealizedLossUsdt (nowMs : Int)
  | getSignal (signalId : String)
  | markPrice (symbol : String)
  | recordEvent (planId orderId : String)
  | positionMode
  | positions
  | realizedPnl (startMs : Int)
  | changeMarginType (symbol marginType : String)
  | changeLeverage (symbol : String) (leverage : Int)
  | placeOrder (parameters : OrderParameters)
  | queryOrder (symbol orderId : String)
  | cancelOrder (symbol orderId : String)
  | placeProtectiveOrder (parameters : ProtectiveParameters)
  | cancelProtectiveOrder (symbol orderId : String)

/-- What a request is answered with: `positionMode` whether positions are two-sided, `positions`
their amounts. -/
abbrev DeskRequest.Answer : DeskRequest → Type
  | clock => Int
  | dailyRealizedLossUsdt _ => ℚ
  | getSignal _ => Option Signal
  | markPrice _ => ℚ
  | positionMode => Bool
  | positions => List ℚ
  | realizedPnl _ => ℚ
  | placeOrder _ => OrderAnswer
  | queryOrder _ _ => OrderAnswer
  | placeProtectiveOrder _ => OrderAnswer
  | _ => Unit

/-- How the process of a service is set up: its configuration, the URL of its market data, and what
its environment variables say. -/
structure Desk where
  config : ExecutionConfig
  dataRestBaseUrl : String
  digests : Digests
  credentialsPresent : Bool
  liveConfirmed : Bool
  autoExecuteConfirmed : Bool

inductive DeskCommand where
  | submitEntry (planId confirmationHash : String) (automatic : Bool) (nowMs : Option Int)
  | reconcile (planId : String) (nowMs : Option Int)
  | cancelEntry (planId confirmationHash : String) (nowMs : Option Int)

structure DeskCall where
  desk : Desk
  command : DeskCommand

/-- What a call returns. -/
inductive DeskReply where
  | submitted (receipt : OrderReceipt)
  | reconciled (status : String) (orders : List OrderReceipt)
  | cancelled (orderId : String)

abbrev entries : Language where
  Shared := Book
  Fault := Fault
  Transaction := BookTransaction
  Value := BookTransaction.Value
  Request := DeskRequest
  Answer := DeskRequest.Answer
  Call := DeskCall
  Result := DeskReply
  perform := BookTransaction.perform

abbrev DeskWork (Value : Type) : Type := Program entries Value

def checked {Value : Type} (outcome : Except Fault Value) : DeskWork Value := .finish outcome

def denied (condition : Prop) [Decidable condition] (fault : Fault) : DeskWork Unit :=
  @Program.refuse entries condition _ fault

def required {Value : Type} (value : Option Value) (fault : Fault) : DeskWork Value :=
  match value with
  | some value => pure value
  | none => .fail fault

def took (transaction : BookTransaction) : DeskWork transaction.Value :=
  @Program.run entries transaction

def asked (request : DeskRequest) : DeskWork request.Answer :=
  @Program.request entries request

/-! ### The preflight of the environment -/

def currentExecutionPolicy : String := "RESEARCH_DISABLED_V1"

def acceptedExecutionWriteAuthority : Option String := none

inductive ActionClassification where
  | entrySubmit
  | reconcile
  | cancelEntry
  deriving DecidableEq

def ActionClassification.text : ActionClassification → String
  | entrySubmit => "ENTRY_SUBMIT"
  | reconcile => "RECONCILE"
  | cancelEntry => "CANCEL_ENTRY"

def OrderReceipt.preflight (receipt : OrderReceipt) (plan : ExecutionPlan)
    (authority : EnvironmentAuthority) : Except Fault Unit := do
  refuse (receipt.planHash ≠ plan.planHash)
    (.blocked "foreign plan receipt: receipt plan_hash does not match plan")
  refuse (receipt.executionEnvironmentId ≠ authority.environmentId)
    (.blocked ("foreign-environment order receipt: receipt '" ++ receipt.executionEnvironmentId ++
      "' != current '" ++ authority.environmentId ++ "'"))
  refuse (receipt.credentialNamespaceId ≠ authority.credentialNamespaceId)
    (.blocked ("receipt credential namespace mismatch: receipt '" ++
      receipt.credentialNamespaceId ++ "' != current '" ++ authority.credentialNamespaceId ++ "'"))
  refuse (receipt.accountAuthorityId ≠ authority.accountAuthorityId)
    (.blocked ("receipt account authority mismatch: receipt '" ++ receipt.accountAuthorityId ++
      "' != current '" ++ authority.accountAuthorityId ++ "'"))
  refuse (receipt.mode ≠ authority.mode)
    (.blocked ("receipt mode mismatch: receipt '" ++ receipt.mode.text ++ "' != current '" ++
      authority.mode.text ++ "'"))
  refuse (receipt.symbol ≠ "" ∧ receipt.symbol ≠ plan.symbol)
    (.blocked ("wrong symbol on receipt: '" ++ receipt.symbol ++ "' != '" ++ plan.symbol ++ "'"))

def receiptPreflight (plan : ExecutionPlan) (authority : EnvironmentAuthority) :
    Option OrderReceipt → Except Fault Unit
  | some receipt => receipt.preflight plan authority
  | none => .ok ()

/-- `validate_execution_environment_preflight`. -/
def Desk.preflight (desk : Desk) (plan : ExecutionPlan) (receipt : Option OrderReceipt)
    (action : ActionClassification) (nowMs : Int) : Except Fault EnvironmentAuthority := do
  refuse (desk.digests.calculatedHash plan ≠ plan.planHash)
    (.blocked "execution plan hash mismatch")
  refuse (action ≠ .reconcile ∧ plan.expiresAtMs < nowMs) (.blocked "execution plan expired")
  refuse (plan.mode ∈ [.testnet, .live] ∧ (plan.executionEnvironmentId = "" ∨
      plan.credentialNamespaceId = "" ∨ plan.accountAuthorityId = ""))
    (.blocked "old testnet/live plan without V1 environment authority fails closed")
  let authority ← EnvironmentAuthority.fromConfig desk.digests.normalizeRestBaseUrl desk.config
    desk.dataRestBaseUrl
  refuse (plan.mode ≠ authority.mode) (.blocked ("plan mode '" ++ plan.mode.text ++
    "' does not match current execution mode '" ++ authority.mode.text ++ "'"))
  refuse (plan.executionEnvironmentId ≠ authority.environmentId)
    (.blocked ("environment mismatch: plan '" ++ plan.executionEnvironmentId ++
      "' != configured '" ++ authority.environmentId ++ "'"))
  refuse (plan.credentialNamespaceId ≠ authority.credentialNamespaceId)
    (.blocked ("credential namespace mismatch: plan '" ++ plan.credentialNamespaceId ++
      "' != configured '" ++ authority.credentialNamespaceId ++ "'"))
  refuse (plan.accountAuthorityId ≠ authority.accountAuthorityId)
    (.blocked ("account authority mismatch: plan '" ++ plan.accountAuthorityId ++
      "' != configured '" ++ authority.accountAuthorityId ++ "'"))
  receiptPreflight plan authority receipt
  refuse (authority.positionModeAssumption ≠ "ONE_WAY")
    (.blocked ("position mode assumption mismatch: '" ++ authority.positionModeAssumption ++
      "' != 'ONE_WAY'"))
  refuse (authority.marginModeAssumption ≠ "ISOLATED")
    (.blocked ("margin mode assumption mismatch: '" ++ authority.marginModeAssumption ++
      "' != 'ISOLATED'"))
  refuse (authority.mode = .disabled) (.blocked "execution.mode=disabled")
  refuse (authority.mode ≠ .paper)
    (.blocked ("RESEARCH_DISABLED_V1: signed exchange execution is not authorized (policy=" ++
      currentExecutionPolicy ++ ", write_authority=" ++
      acceptedExecutionWriteAuthority.getD "None" ++ ", action=" ++ action.text ++ ")"))
  pure authority

/-! ### The guard -/

namespace Desk

variable (desk : Desk)

def BeginsWith (text name : String) : Prop := text.toList <+: name.toList

instance (text name : String) : Decidable (BeginsWith text name) :=
  inferInstanceAs (Decidable (_ <+: _))

/-- `risk_reducing_gate`, with which `_mode_gate` begins. -/
def riskReducingGate (mode : ExecutionMode) : Except Fault Unit := do
  refuse (desk.config.mode = .disabled) (.blocked "execution.mode=disabled")
  refuse (mode ≠ desk.config.mode) (.blocked "plan mode does not match current execution mode")
  refuse (desk.config.mode ∈ [.testnet, .live] ∧ desk.credentialsPresent = false)
    (.blocked "mode-specific Binance API credentials are missing")

def modeGate (mode : ExecutionMode) : Except Fault Unit := do
  desk.riskReducingGate mode
  refuse (desk.config.mode = .live ∧ desk.config.allowLive = false)
    (.blocked "execution.allow_live=false")
  refuse (desk.config.mode = .live ∧ desk.liveConfirmed = false)
    (.blocked "BTC_QUANT_LIVE_CONFIRM is not set to the required phrase")

def validateEntry (plan : ExecutionPlan) (confirmationHash : String) (nowMs : Int)
    (openPositions : ℕ) (dailyRealizedLossUsdt : ℚ) (automatic : Bool) : Except Fault Unit := do
  refuse (BeginsWith "PROVISIONAL" plan.validationStatus ∨
      plan.validationStatus ∈ ["NOT_FORWARD_VALIDATED", "NOT_RUNTIME_ACTIONABLE"])
    (.blocked "provisional or non-runtime signal cannot enter execution")
  desk.modeGate plan.mode
  refuse (desk.digests.calculatedHash plan ≠ plan.planHash ∨ confirmationHash ≠ plan.planHash)
    (.blocked "execution plan hash mismatch")
  refuse (plan.expiresAtMs < nowMs) (.blocked "execution plan expired")
  refuse (desk.config.maxNotionalUsdt < plan.notionalUsdt)
    (.blocked "plan exceeds max_notional_usdt")
  refuse (desk.config.maxLeverage < plan.leverage) (.blocked "plan exceeds max_leverage")
  refuse (plan.mode = .live ∧ plan.validationStatus ≠ "VALIDATED_FORWARD")
    (.blocked "live execution requires VALIDATED_FORWARD")
  refuse (desk.config.maxOpenPositions ≤ openPositions) (.blocked "max_open_positions reached")
  refuse (desk.config.maxDailyLossUsdt ≤ dailyRealizedLossUsdt)
    (.blocked "max_daily_loss_usdt reached")
  refuse (automatic ∧ desk.config.autoExecute = false) (.blocked "execution.auto_execute=false")
  refuse (automatic ∧ plan.validationStatus ≠ "VALIDATED_FORWARD")
    (.blocked "automatic execution requires VALIDATED_FORWARD")
  refuse (automatic ∧ desk.autoExecuteConfirmed = false)
    (.blocked "BTC_QUANT_AUTO_EXECUTE_CONFIRM is missing")

def validateCancel (plan : ExecutionPlan) (confirmationHash : String) : Except Fault Unit := do
  desk.riskReducingGate plan.mode
  refuse (desk.digests.calculatedHash plan ≠ plan.planHash ∨ confirmationHash ≠ plan.planHash)
    (.blocked "execution plan hash mismatch")

/-! ### Orders on the exchange -/

def signedClient : DeskWork Unit :=
  denied (currentExecutionPolicy = "RESEARCH_DISABLED_V1" ∧ acceptedExecutionWriteAuthority = none)
    (.blocked "RESEARCH_DISABLED_V1: signed Binance client is not authorized")

def signedExposure (current : Int) (dailyLoss : ℚ) : DeskWork (ℕ × ℚ) := do
  signedClient
  let dualSide ← asked .positionMode
  denied (dualSide = true)
    (.blocked "hedge mode is enabled; phase two requires ONE_WAY mode")
  let amounts ← asked .positions
  let exchangePnl ← asked (.realizedPnl (current - current % 86400000))
  pure ((amounts.filter fun amount => 0 < |amount|).length, max dailyLoss |min exchangePnl 0|)

/-- `"-4046" in str(exc)`. -/
def saysUnchanged : Fault → Bool
  | .blocked message | .keyError message | .client _ message | .other message =>
    decide ("-4046".toList <:+: message.toList)

def entrySide : Direction → Side
  | .long => .buy
  | .short => .sell

def signedEntry (plan : ExecutionPlan) : DeskWork OrderAnswer := do
  signedClient
  (asked (.changeMarginType plan.symbol desk.config.marginType)).rescue fun fault =>
    if saysUnchanged fault then pure () else .fail fault
  asked (.changeLeverage plan.symbol plan.leverage)
  asked (.placeOrder {
    symbol := plan.symbol
    side := entrySide plan.direction
    type := plan.orderType
    quantity := plan.quantity
    newClientOrderId := "bqa-" ++ plan.planId
    price := if plan.orderType = "LIMIT" then some plan.entryPrice else none })

/-- A receipt of the plan, stored under the present time. -/
def store (receipt : OrderReceipt) : DeskWork Unit := do
  let createdAtMs ← asked .clock
  took (.saveExecutionOrder receipt createdAtMs)

/-- `OrderReceipt(...)`, with the fields that all receipts of a plan share. -/
def receipt (plan : ExecutionPlan) (authority : EnvironmentAuthority) (current : Int)
    (role : OrderRole) (orderId status clientOrderId : String) : OrderReceipt where
  planId := plan.planId
  role := role
  orderId := orderId
  status := status
  planHash := plan.planHash
  mode := desk.config.mode
  executionEnvironmentId := authority.environmentId
  credentialNamespaceId := authority.credentialNamespaceId
  accountAuthorityId := authority.accountAuthorityId
  symbol := plan.symbol
  submittedAtMs := current
  clientOrderId := clientOrderId

/-- `now_ms`, or the time of the clock. -/
def current : Option Int → DeskWork Int
  | some nowMs => pure nowMs
  | none => asked .clock

def entryPlan (planId : String) : DeskWork (PlanStatus × ExecutionPlan) := do
  let row ← took (.getExecutionPlan planId)
  required (row.bind PlanRow.entry) (.keyError ("unknown entry plan: " ++ planId))

/-! ### Submitting an entry -/

/-- The open positions and the realized loss of the day. -/
def exposure (current : Int) : DeskWork (ℕ × ℚ) := do
  let recorded ← asked (.dailyRealizedLossUsdt current)
  if desk.config.mode ∈ [.testnet, .live] then signedExposure current recorded
  else pure (0, recorded)

def checkMark (plan : ExecutionPlan) : DeskWork Unit :=
  if plan.orderType = "MARKET" then do
    let stored ← asked (.getSignal plan.signalId)
    let signal ← required stored (.blocked "source signal no longer exists")
    let mark ← asked (.markPrice plan.symbol)
    denied (¬ (signal.entryLow ≤ mark ∧ mark ≤ signal.entryHigh))
      (.blocked "MARKET entry is outside the immutable signal entry range")
  else pure ()

def entryOrder (plan : ExecutionPlan) : DeskWork OrderAnswer :=
  if desk.config.mode = .paper then
    pure { orderId := some ("paper-" ++ plan.planId), status := some "FILLED" }
  else desk.signedEntry plan

def submitEntry (planId confirmationHash : String) (automatic : Bool) (nowMs : Option Int) :
    DeskWork DeskReply := do
  let (status, plan) ← entryPlan planId
  denied (status ≠ .prepared) (.blocked ("entry plan is already " ++ status.text))
  let current ← current nowMs
  let authority ← checked (desk.preflight plan none .entrySubmit current)
  asked (.refreshSignalState plan.signalId current)
  let (openPositions, dailyLoss) ← desk.exposure current
  checked (desk.validateEntry plan confirmationHash current openPositions dailyLoss automatic)
  checkMark plan
  let answer ← desk.entryOrder plan
  let receipt := desk.receipt plan authority current .entry
    (answer.orderId.getD (answer.clientOrderId.getD "unknown")) (answer.status.getD "NEW")
    (answer.clientOrderId.getD ("bqa-" ++ plan.planId))
  store receipt
  took (.updateExecutionPlanStatus plan.planId .submitted)
  pure (.submitted receipt)

/-! ### Reconciling an entry -/

def paperId (plan : ExecutionPlan) : OrderRole → String
  | .entry => "paper-entry-" ++ plan.planId
  | .stop => "paper-stop-" ++ plan.planId
  | .takeProfit => "paper-take_profit-" ++ plan.planId

def paperReceipt (plan : ExecutionPlan) (authority : EnvironmentAuthority) (current : Int)
    (role : OrderRole) : OrderReceipt :=
  desk.receipt plan authority current role (paperId plan role) "NEW" (paperId plan role)

def reconcilePaper (plan : ExecutionPlan) (authority : EnvironmentAuthority) (current : Int) :
    DeskWork DeskReply := do
  let stop := desk.paperReceipt plan authority current .stop
  let takeProfit := desk.paperReceipt plan authority current .takeProfit
  store stop
  store takeProfit
  took (.updateExecutionPlanStatus plan.planId .underProtection)
  pure (.reconciled "PROTECTED" [stop, takeProfit])

def protect (plan : ExecutionPlan) (authority : EnvironmentAuthority) (current : Int)
    (role : OrderRole) (orderType : String) (trigger : ℚ) (receipts : List OrderReceipt) :
    DeskWork (List OrderReceipt) := do
  let stored ← took (.latestExecutionOrder plan.planId role)
  match stored with
  | some _ => pure receipts
  | none =>
    let answer ← asked (.placeProtectiveOrder {
      symbol := plan.symbol
      side := (entrySide plan.direction).exit
      type := orderType
      triggerPrice := trigger })
    let receipt := desk.receipt plan authority current role
      (answer.algoId.getD (answer.orderId.getD "unknown"))
      (answer.algoStatus.getD (answer.status.getD "NEW")) (answer.clientOrderId.getD "")
    store receipt
    pure (receipts ++ [receipt])

def unprotect (plan : ExecutionPlan) : List OrderReceipt → DeskWork Unit
  | [] => pure ()
  | receipt :: rest => do
    (asked (.cancelProtectiveOrder plan.symbol receipt.orderId)).rescue fun _ =>
      asked (.recordEvent plan.planId receipt.orderId)
    unprotect plan rest

def failsafe {Value : Type} (plan : ExecutionPlan) (receipts : List OrderReceipt)
    (fault : Fault) : DeskWork Value := do
  if desk.config.requireProtectiveOrders then
    unprotect plan receipts
    let _ ← asked (.placeOrder {
      symbol := plan.symbol
      side := (entrySide plan.direction).exit
      type := "MARKET"
      quantity := plan.quantity
      newClientOrderId := "bqa-failsafe-" ++ plan.planId
      reduceOnly := true })
    took (.updateExecutionPlanStatus plan.planId .failsafeClosed)
  .fail fault

def protectFilled (plan : ExecutionPlan) (authority : EnvironmentAuthority) (current : Int) :
    DeskWork DeskReply := do
  let stop ← took (.latestExecutionOrder plan.planId .stop)
  let takeProfit ← took (.latestExecutionOrder plan.planId .takeProfit)
  if stop.isSome ∧ takeProfit.isSome then pure (.reconciled "PROTECTED" [])
  else do
    let stopped ← (desk.protect plan authority current .stop "STOP_MARKET" plan.stopPrice
      []).rescue (desk.failsafe plan [])
    let receipts ← (desk.protect plan authority current .takeProfit "TAKE_PROFIT_MARKET"
      plan.takeProfitPrice stopped).rescue (desk.failsafe plan stopped)
    took (.updateExecutionPlanStatus plan.planId .underProtection)
    pure (.reconciled "PROTECTED" receipts)

/-- Whether an entry that still waits is over its signal. -/
def overdue (plan : ExecutionPlan) (orderStatus : String) : DeskWork Bool :=
  if orderStatus ∈ ["NEW", "PENDING_NEW"] then do
    let now ← asked .clock
    pure (decide (plan.signalExpiresAtMs < now))
  else pure false

def reconcileSigned (plan : ExecutionPlan) (authority : EnvironmentAuthority) (orderId : String)
    (current : Int) : DeskWork DeskReply := do
  signedClient
  let answer ← asked (.queryOrder plan.symbol orderId)
  let orderStatus := answer.status.getD "UNKNOWN"
  let late ← overdue plan orderStatus
  if late then do
    asked (.cancelOrder plan.symbol orderId)
    took (.updateExecutionPlanStatus plan.planId .cancelledExpired)
    pure (.reconciled "CANCELLED_EXPIRED" [])
  else if orderStatus ∉ ["FILLED", "PARTIALLY_FILLED"] then pure (.reconciled orderStatus [])
  else do
    if orderStatus = "PARTIALLY_FILLED" then asked (.cancelOrder plan.symbol orderId) else pure ()
    desk.protectFilled plan authority current

def reconcile (planId : String) (nowMs : Option Int) : DeskWork DeskReply := do
  let (_, plan) ← entryPlan planId
  let current ← current nowMs
  let stored ← took (.latestExecutionOrder planId .entry)
  let authority ← checked (desk.preflight plan (stored.map ReceiptRow.receipt) .reconcile current)
  let entry ← required stored (.blocked "entry has not been submitted")
  denied (desk.config.mode = .disabled) (.blocked "execution.mode=disabled")
  if desk.config.mode = .paper then desk.reconcilePaper plan authority current
  else desk.reconcileSigned plan authority entry.receipt.orderId current

/-! ### Cancelling an entry -/

def cancelEntry (planId confirmationHash : String) (nowMs : Option Int) : DeskWork DeskReply := do
  let (_, plan) ← entryPlan planId
  let stored ← took (.latestExecutionOrder planId .entry)
  let entry ← required stored (.blocked "entry has not been submitted")
  let current ← current nowMs
  let _ ← checked (desk.preflight plan (some entry.receipt) .cancelEntry current)
  checked (desk.validateCancel plan confirmationHash)
  if plan.mode = .paper then do
    took (.updateExecutionPlanStatus plan.planId .cancelled)
    pure (.cancelled entry.receipt.orderId)
  else do
    signedClient
    asked (.cancelOrder plan.symbol entry.receipt.orderId)
    pure (.cancelled entry.receipt.orderId)

end Desk

def deskMain (call : DeskCall) : DeskWork DeskReply :=
  match call.command with
  | .submitEntry planId confirmationHash automatic nowMs =>
    call.desk.submitEntry planId confirmationHash automatic nowMs
  | .reconcile planId nowMs => call.desk.reconcile planId nowMs
  | .cancelEntry planId confirmationHash nowMs =>
    call.desk.cancelEntry planId confirmationHash nowMs

end QuantAgent.Execution.Entry
