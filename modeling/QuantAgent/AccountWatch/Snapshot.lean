/-
This file embeds account snapshots, the answers of the exchange and the events of the user
stream they are made from, and what the execution validator recomputes from a snapshot.

Amounts are exact rationals. A number the exchange sends may be missing or malformed. Fields of a
snapshot that are the same in all snapshots of a service (account, namespace, URL) are left out.
-/

import QuantAgent.Library.KeyedList
import QuantAgent.Library.Refusal

namespace QuantAgent.AccountWatch

/-! ### Numbers as received -/

/-- A number in a JSON object. -/
inductive Field (Value : Type) where
  | absent
  | malformed
  | value (value : Value)
  deriving DecidableEq

namespace Field

variable {Value : Type}

/-- `float(payload[key])`. -/
def required : Field Value → Except String Value
  | absent => .error "KeyError"
  | malformed => .error "ValueError"
  | value number => .ok number

/-- `float(payload.get(key, default))`. -/
def getD (default : Value) : Field Value → Except String Value
  | absent => .ok default
  | malformed => .error "ValueError"
  | value number => .ok number

end Field

/-- `str(payload[key])`. -/
def requiredText : Option String → Except String String
  | none => .error "KeyError"
  | some text => .ok text

/-! ### Snapshots -/

inductive Environment where
  | dryRun
  | testnet
  deriving DecidableEq

inductive Quality where
  | ok
  | stale
  | conflict
  deriving DecidableEq

inductive OrderSide where
  | buy
  | sell
  deriving DecidableEq

inductive OrderStatus where
  | new
  | partiallyFilled
  | filled
  | canceled
  | expired
  | rejected
  deriving DecidableEq

def OrderStatus.ofName : String → Option OrderStatus
  | "NEW" => some new
  | "PARTIALLY_FILLED" => some partiallyFilled
  | "FILLED" => some filled
  | "CANCELED" => some canceled
  | "EXPIRED" => some expired
  | "REJECTED" => some rejected
  | _ => none

/-- `"SELL" if str(side).upper() == "SELL" else "BUY"`. -/
def OrderSide.ofName (name : String) : OrderSide := if name.toUpper = "SELL" then sell else buy

structure Position where
  symbol : String
  quantity : ℚ
  entryPrice : ℚ
  markPrice : ℚ
  unrealizedPnlUsdt : ℚ
  leverage : Int
  liquidationPrice : Option ℚ
  marginType : String
  observedAtMs : Int
  deriving DecidableEq

structure Order where
  symbol : String
  orderId : String
  clientOrderId : String
  side : OrderSide
  status : OrderStatus
  orderType : String
  quantity : ℚ
  filledQuantity : ℚ
  price : ℚ
  averagePrice : ℚ
  reduceOnly : Bool
  stopPrice : Option ℚ
  observedAtMs : Int
  deriving DecidableEq

structure Snapshot where
  environment : Environment
  observedAtMs : Int
  lastRestAtMs : Int
  streamConnected : Bool
  reconciled : Bool
  conflictCount : ℕ
  equityUsdt : ℚ
  availableBalanceUsdt : ℚ
  walletBalanceUsdt : ℚ
  marginUsedUsdt : ℚ
  dailyLossUsdt : ℚ
  drawdownPct : ℚ
  peakEquityUsdt : ℚ
  positions : List Position
  orders : List Order
  quality : Quality
  deriving DecidableEq

/-- The field checks of `PositionV1`. -/
def Position.Valid (position : Position) : Prop :=
  0 ≤ position.entryPrice ∧ 0 ≤ position.markPrice ∧ 1 ≤ position.leverage ∧
    (∀ price ∈ position.liquidationPrice, 0 ≤ price) ∧ 0 ≤ position.observedAtMs

/-- The field checks of `OrderV1`. -/
def Order.Valid (order : Order) : Prop :=
  0 ≤ order.quantity ∧ 0 ≤ order.filledQuantity ∧ 0 ≤ order.price ∧ 0 ≤ order.averagePrice ∧
    (∀ price ∈ order.stopPrice, 0 ≤ price) ∧ 0 ≤ order.observedAtMs ∧
    order.filledQuantity ≤ order.quantity

/-- The field checks of `AccountSnapshotV1`. -/
structure Snapshot.Valid (snapshot : Snapshot) : Prop where
  observed : 0 ≤ snapshot.observedAtMs
  lastRest : 0 ≤ snapshot.lastRestAtMs
  equity : 0 ≤ snapshot.equityUsdt
  available : 0 ≤ snapshot.availableBalanceUsdt
  wallet : 0 ≤ snapshot.walletBalanceUsdt
  margin : 0 ≤ snapshot.marginUsedUsdt
  dailyLoss : 0 ≤ snapshot.dailyLossUsdt
  drawdown : 0 ≤ snapshot.drawdownPct ∧ snapshot.drawdownPct ≤ 1
  peak : 0 ≤ snapshot.peakEquityUsdt
  chronology : snapshot.lastRestAtMs ≤ snapshot.observedAtMs

instance (position : Position) : Decidable position.Valid := inferInstanceAs (Decidable (_ ∧ _))

instance (order : Order) : Decidable order.Valid := inferInstanceAs (Decidable (_ ∧ _))

instance (snapshot : Snapshot) : Decidable snapshot.Valid :=
  decidable_of_iff (0 ≤ snapshot.observedAtMs ∧ 0 ≤ snapshot.lastRestAtMs ∧
    0 ≤ snapshot.equityUsdt ∧ 0 ≤ snapshot.availableBalanceUsdt ∧
    0 ≤ snapshot.walletBalanceUsdt ∧ 0 ≤ snapshot.marginUsedUsdt ∧ 0 ≤ snapshot.dailyLossUsdt ∧
    (0 ≤ snapshot.drawdownPct ∧ snapshot.drawdownPct ≤ 1) ∧ 0 ≤ snapshot.peakEquityUsdt ∧
    snapshot.lastRestAtMs ≤ snapshot.observedAtMs)
    ⟨fun ⟨observed, lastRest, equity, available, wallet, margin, dailyLoss, drawdown, peak,
        chronology⟩ =>
      ⟨observed, lastRest, equity, available, wallet, margin, dailyLoss, drawdown, peak,
        chronology⟩,
    fun valid => ⟨valid.observed, valid.lastRest, valid.equity, valid.available, valid.wallet,
      valid.margin, valid.dailyLoss, valid.drawdown, valid.peak, valid.chronology⟩⟩

def Position.build (position : Position) : Except String Position := do
  refuse (¬ position.Valid) "invalid position"
  pure position

def Order.build (order : Order) : Except String Order := do
  refuse (¬ order.Valid) "invalid order"
  pure order

def Snapshot.build (snapshot : Snapshot) : Except String Snapshot := do
  refuse (¬ snapshot.Valid) "invalid snapshot"
  pure snapshot

theorem Snapshot.build_eq_ok {snapshot built : Snapshot} :
    snapshot.build = .ok built ↔ snapshot.Valid ∧ snapshot = built := by
  unfold build
  rw [refuse_bind_eq_ok, not_not, pure_eq_ok]

/-! ### Answers of the exchange -/

structure RawPosition where
  positionSide : String := "BOTH"
  symbol : Option String
  positionAmt : Field ℚ
  entryPrice : Field ℚ := .absent
  markPrice : Field ℚ := .absent
  liquidationPrice : Field ℚ := .absent
  unRealizedProfit : Field ℚ := .absent
  leverage : Field Int := .absent
  marginType : String := "ISOLATED"

structure RawOrder where
  symbol : Option String
  orderId : Option String
  clientOrderId : String := ""
  side : String := "BUY"
  status : String := "NEW"
  orderType : String := "LIMIT"
  origQty : Field ℚ := .absent
  executedQty : Field ℚ := .absent
  price : Field ℚ := .absent
  avgPrice : Field ℚ := .absent
  stopPrice : Field ℚ := .absent
  reduceOnly : Bool := false

structure AccountInformation where
  totalWalletBalance : Field ℚ := .absent
  totalMarginBalance : Field ℚ := .absent
  availableBalance : Field ℚ := .absent
  totalInitialMargin : Field ℚ := .absent

/-- A position of the answer; those with quantity zero are dropped. -/
def RawPosition.parse (now : Int) (raw : RawPosition) : Except String (Option Position) := do
  refuse (raw.positionSide ≠ "BOTH") "UNSUPPORTED_HEDGE_POSITION_AUTHORITY"
  let quantity ← raw.positionAmt.getD 0
  if quantity = 0 then pure none
  else
    let entry ← raw.entryPrice.getD 0
    let mark ← raw.markPrice.getD entry
    let liquidation ← raw.liquidationPrice.getD 0
    let symbol ← requiredText raw.symbol
    let unrealized ← raw.unRealizedProfit.getD 0
    let leverage ← raw.leverage.getD 1
    let position ← Position.build {
      symbol := symbol
      quantity := quantity
      entryPrice := entry
      markPrice := mark
      unrealizedPnlUsdt := unrealized
      leverage := max 1 leverage
      liquidationPrice := if 0 < liquidation then some liquidation else none
      marginType := raw.marginType
      observedAtMs := now }
    pure (some position)

def RawOrder.parse (now : Int) (raw : RawOrder) : Except String Order := do
  let quantity ← raw.origQty.getD 0
  let filled ← raw.executedQty.getD 0
  let price ← raw.price.getD 0
  let average ← raw.avgPrice.getD 0
  let stop ← raw.stopPrice.getD 0
  let symbol ← requiredText raw.symbol
  let orderId ← requiredText raw.orderId
  Order.build {
    symbol := symbol
    orderId := orderId
    clientOrderId := raw.clientOrderId
    side := OrderSide.ofName raw.side
    status := (OrderStatus.ofName raw.status).getD .new
    orderType := raw.orderType
    quantity := quantity
    filledQuantity := filled
    price := price
    averagePrice := average
    reduceOnly := raw.reduceOnly
    stopPrice := if 0 < stop then some stop else none
    observedAtMs := now }

/-! ### Events of the user stream -/

structure BalanceRow where
  asset : String := ""
  wb : Field ℚ := .absent
  deriving DecidableEq

structure PositionRow where
  s : Option String
  pa : Field ℚ
  ep : Field ℚ := .absent
  up : Field ℚ := .absent
  mt : Option String := none
  deriving DecidableEq

/-- `payload["a"]`; a list is missing when it is not a list, a row when it is not an object. -/
structure AccountPayload where
  balances : Option (List (Option BalanceRow)) := some []
  positions : Option (List (Option PositionRow)) := some []
  deriving DecidableEq

structure OrderPayload where
  status : Option String
  orderId : Option String
  symbol : Option String
  clientOrderId : String := ""
  side : Option String
  orderType : String := "UNKNOWN"
  quantity : Field ℚ
  filled : Field ℚ
  price : Field ℚ := .absent
  averagePrice : Field ℚ := .absent
  reduceOnly : Bool := false
  stopPrice : Field ℚ := .absent
  deriving DecidableEq

/-- A message of the stream; the rest of its text counts only when messages are compared. -/
structure Payload where
  eventType : String
  eventMs : Field Int
  txMs : Field Int := .absent
  account : Option AccountPayload := none
  order : Option OrderPayload := none
  rest : String := ""
  deriving DecidableEq

def walletAfter (wallet : ℚ) : List (Option BalanceRow) → Except String ℚ
  | [] => .ok wallet
  | none :: _ => .error "invalid balance row"
  | some row :: rest => do
    let next ← if row.asset = "USDT" then row.wb.required else pure wallet
    walletAfter next rest

def applyPositionRow (eventMs : Int) (current : List Position) (row : PositionRow) :
    Except String (List Position) := do
  let symbol ← requiredText row.s
  let quantity ← row.pa.required
  if quantity = 0 then pure (KeyedList.erase Position.symbol current symbol)
  else
    let old := KeyedList.lookup Position.symbol current symbol
    let entry ← row.ep.getD (old.elim 0 Position.entryPrice)
    let unrealized ← row.up.getD (old.elim 0 Position.unrealizedPnlUsdt)
    let position ← Position.build {
      symbol := symbol
      quantity := quantity
      entryPrice := entry
      markPrice := old.elim entry Position.markPrice
      unrealizedPnlUsdt := unrealized
      leverage := old.elim 1 Position.leverage
      liquidationPrice := old.bind Position.liquidationPrice
      marginType := (row.mt.getD (old.elim "ISOLATED" Position.marginType)).toUpper
      observedAtMs := eventMs }
    pure (KeyedList.insert Position.symbol current position)

def positionsAfter (eventMs : Int) (current : List Position) :
    List (Option PositionRow) → Except String (List Position)
  | [] => .ok current
  | none :: _ => .error "invalid position row"
  | some row :: rest => do
    let next ← applyPositionRow eventMs current row
    positionsAfter eventMs next rest

/-- `{p.symbol: p for p in positions}`. -/
def positionsBySymbol (positions : List Position) : List Position :=
  positions.foldl (KeyedList.insert Position.symbol) []

def AccountPayload.apply (account : AccountPayload) (eventMs : Int) (snapshot : Snapshot) :
    Except String Snapshot := do
  match account.balances, account.positions with
  | some balances, some positions =>
    let wallet ← walletAfter snapshot.walletBalanceUsdt balances
    let current ← positionsAfter eventMs (positionsBySymbol snapshot.positions) positions
    let sorted := current.insertionSort fun first second => first.symbol ≤ second.symbol
    pure { snapshot with
      walletBalanceUsdt := wallet
      equityUsdt := max 0 (wallet + (sorted.map Position.unrealizedPnlUsdt).sum)
      positions := sorted }
  | _, _ => throw "invalid account update rows"

def OrderPayload.apply (payload : OrderPayload) (eventMs : Int) (snapshot : Snapshot) :
    Except String Snapshot := do
  let name ← requiredText payload.status
  match OrderStatus.ofName (if name = "EXPIRED_IN_MATCH" then "EXPIRED" else name) with
  | none => throw "unsupported order status"
  | some status =>
    let orderId ← requiredText payload.orderId
    let orders := snapshot.orders.foldl (KeyedList.insert Order.orderId) []
    let quantity ← payload.quantity.required
    let filled ← payload.filled.required
    let old := KeyedList.lookup Order.orderId orders orderId
    let symbol ← requiredText payload.symbol
    let side ← requiredText payload.side
    let price ← payload.price.getD (old.elim 0 Order.price)
    let average ← payload.averagePrice.getD (old.elim 0 Order.averagePrice)
    let stop ← payload.stopPrice.getD 0
    let order ← Order.build {
      symbol := symbol
      orderId := orderId
      clientOrderId := payload.clientOrderId
      side := OrderSide.ofName side
      status := status
      orderType := payload.orderType
      quantity := quantity
      filledQuantity := filled
      price := price
      averagePrice := average
      reduceOnly := payload.reduceOnly
      stopPrice := if 0 < stop then some stop else none
      observedAtMs := eventMs }
    pure { snapshot with
      orders := (KeyedList.insert Order.orderId orders order).insertionSort
        fun first second => first.orderId ≤ second.orderId }

/-! ### What the validator recomputes -/

namespace Snapshot

/-- `expected_drawdown` of the execution validator. -/
def expectedDrawdown (snapshot : Snapshot) : ℚ :=
  1 - snapshot.equityUsdt / snapshot.peakEquityUsdt

structure Exposure where
  symbolExposureUsdt : ℚ
  portfolioExposureUsdt : ℚ
  positions : ℕ

/-- As `account_context` derives them when a proposal is compiled. -/
def accountContext (snapshot : Snapshot) (symbol : String) : Exposure where
  symbolExposureUsdt := ((snapshot.positions.filter fun position => position.symbol = symbol).map
    fun position => |position.quantity * position.markPrice|).sum
  portfolioExposureUsdt := (snapshot.positions.map fun position =>
    |position.quantity * position.markPrice|).sum
  positions := (snapshot.positions.map fun position =>
    if position.quantity ≠ 0 then 1 else 0).sum

/-- As the validator derives them again before an execution. -/
def revalidated (snapshot : Snapshot) (symbol : String) : Exposure where
  symbolExposureUsdt := ((snapshot.positions.filter fun position => position.symbol = symbol).map
    fun position => |position.quantity * position.markPrice|).sum
  portfolioExposureUsdt := (snapshot.positions.map fun position =>
    |position.quantity * position.markPrice|).sum
  positions := ((snapshot.positions.filter fun position => position.quantity ≠ 0).map
    fun _ => 1).sum

theorem revalidated_eq (snapshot : Snapshot) (symbol : String) :
    snapshot.revalidated symbol = snapshot.accountContext symbol := by
  unfold revalidated accountContext
  congr 1
  induction snapshot.positions with
  | nil => rfl
  | cons position rest inductionHypothesis =>
    by_cases open_ : position.quantity ≠ 0
    · rw [List.filter_cons_of_pos (by simpa using open_), List.map_cons, List.map_cons,
        List.sum_cons, List.sum_cons, inductionHypothesis, if_pos open_]
    · rw [List.filter_cons_of_neg (by simpa using open_), List.map_cons, List.sum_cons,
        inductionHypothesis, if_neg open_, zero_add]

end Snapshot

end QuantAgent.AccountWatch
