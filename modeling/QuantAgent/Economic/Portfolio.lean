/-
This file embeds the ledger of the economic simulator: trade events, positions, and the
portfolio that applies trades and funding settlements to them.

Every refusal is the message of the exception the source raises. A position carries the
checks of its constructor as fields. The portfolio keeps its positions by asset; the order in
which the dictionary holds them is not observable.
-/

import QuantAgent.Library.KeyedList
import QuantAgent.Library.Refusal

namespace QuantAgent.Economic

open KeyedList

/-! ### Text -/

/-- The characters `str.strip` removes. -/
def isSpace (character : Char) : Bool :=
  let code := character.toNat
  (9 ≤ code && code ≤ 13) || (28 ≤ code && code ≤ 32) || code = 133 || code = 160 ||
    code = 5760 || (8192 ≤ code && code ≤ 8202) || code = 8232 || code = 8233 ||
    code = 8239 || code = 8287 || code = 12288

/-- `not text.strip()`. -/
def blank (text : String) : Bool := text.toList.all isSpace

/-- The values the source puts into metadata dictionaries. -/
inductive MetadataValue where
  | number (value : ℚ)
  | integer (value : Int)
  | text (value : String)
  | flag (value : Bool)
  | null
  deriving DecidableEq

abbrev Metadata := List (String × MetadataValue)

/-! ### Trade events -/

inductive TradeAction where
  | openLong
  | closeLong
  | openShort
  | closeShort
  | fundingSettlement
  deriving DecidableEq

variable {action : TradeAction}

namespace TradeAction

/-- `action in (OPEN_LONG, OPEN_SHORT)`. -/
def opening : TradeAction → Bool
  | .openLong => true
  | .openShort => true
  | _ => false

/-- `action in (CLOSE_LONG, CLOSE_SHORT)`. -/
def closing : TradeAction → Bool
  | .closeLong => true
  | .closeShort => true
  | _ => false

/-- The sign of the position the action concerns. -/
def direction : TradeAction → ℚ
  | .openLong => 1
  | .closeLong => 1
  | _ => -1

theorem closing_of_not_opening (trade : action ≠ .fundingSettlement)
    (other : action.opening = false) : action.closing = true := by
  cases action
  · cases other
  · rfl
  · cases other
  · rfl
  · exact absurd rfl trade

theorem not_closing_of_opening (opens : action.opening = true) :
    action.closing = false := by
  cases action
  · rfl
  · cases opens
  · rfl
  · cases opens
  · rfl

theorem direction_sq (action : TradeAction) : action.direction * action.direction = 1 := by
  cases action <;> norm_num [direction]

end TradeAction

/-- Unified atomic economic transaction event. -/
structure TradeEvent where
  timestampMs : Int
  action : TradeAction
  price : ℚ
  quantity : ℚ
  feeUsdt : ℚ
  fundingUsdt : ℚ
  positionAfter : ℚ
  cashAfter : ℚ
  realizedPnlUsdt : ℚ := 0
  tradeId : String := ""
  signalId : String := ""
  observationTimestampMs : Option Int := none
  decisionTimestampMs : Option Int := none
  orderTimestampMs : Option Int := none
  settlementTimestampMs : Option Int := none
  metadata : Metadata := []
  deriving DecidableEq

namespace TradeEvent

/-- `later is None or earlier is None or earlier <= later`. -/
def ordered : Option Int → Option Int → Bool
  | some earlier, some later => earlier ≤ later
  | _, _ => true

def positiveStamp : Option Int → Bool
  | some stamp => 0 < stamp
  | none => true

/-- `TradeEvent.__post_init__`. -/
def validate (event : TradeEvent) : Except String TradeEvent := do
  refuse (event.timestampMs ≤ 0) "timestamp_ms must be a positive integer"
  refuse (event.price ≤ 0 ∨ event.quantity < 0 ∨ event.feeUsdt < 0)
    "Event requires positive price and nonnegative quantity/fee"
  refuse (event.action = .fundingSettlement ∧ (event.feeUsdt ≠ 0 ∨ event.realizedPnlUsdt ≠ 0))
    "Funding events cannot contain trading fees or realized PnL"
  refuse (event.action ≠ .fundingSettlement ∧ (event.quantity ≤ 0 ∨ event.fundingUsdt ≠ 0))
    "Trade events require positive quantity and zero funding"
  refuse (¬ positiveStamp event.observationTimestampMs)
    "observation_timestamp_ms must be a positive integer"
  refuse (¬ positiveStamp event.decisionTimestampMs)
    "decision_timestamp_ms must be a positive integer"
  refuse (¬ positiveStamp event.orderTimestampMs)
    "order_timestamp_ms must be a positive integer"
  refuse (¬ positiveStamp event.settlementTimestampMs)
    "settlement_timestamp_ms must be a positive integer"
  refuse (¬ ordered event.observationTimestampMs event.decisionTimestampMs)
    "decision_timestamp_ms cannot occur before observation_timestamp_ms"
  refuse (¬ ordered event.decisionTimestampMs event.orderTimestampMs)
    "order_timestamp_ms cannot occur before decision_timestamp_ms"
  refuse (¬ ordered event.orderTimestampMs (some event.timestampMs))
    "fill timestamp_ms cannot occur before order_timestamp_ms"
  refuse (¬ ordered (some event.timestampMs) event.settlementTimestampMs)
    "settlement_timestamp_ms cannot occur before fill timestamp_ms"
  return event

/-- What the constructor of an event checks. -/
structure Valid (event : TradeEvent) : Prop where
  time : 0 < event.timestampMs
  values : 0 < event.price ∧ 0 ≤ event.quantity ∧ 0 ≤ event.feeUsdt
  funding : event.action = .fundingSettlement → event.feeUsdt = 0 ∧ event.realizedPnlUsdt = 0
  trade : event.action ≠ .fundingSettlement → 0 < event.quantity ∧ event.fundingUsdt = 0
  stamps : positiveStamp event.observationTimestampMs ∧
    positiveStamp event.decisionTimestampMs ∧ positiveStamp event.orderTimestampMs ∧
    positiveStamp event.settlementTimestampMs
  order : ordered event.observationTimestampMs event.decisionTimestampMs ∧
    ordered event.decisionTimestampMs event.orderTimestampMs ∧
    ordered event.orderTimestampMs (some event.timestampMs) ∧
    ordered (some event.timestampMs) event.settlementTimestampMs

theorem validate_eq_ok {event result : TradeEvent} :
    event.validate = .ok result ↔ event.Valid ∧ event = result := by
  simp only [validate, refuse_bind_eq_ok, pure_eq_ok, not_or, not_le, not_lt, not_and,
    not_not, ne_eq]
  constructor
  · rintro ⟨time, values, funding, trade, s1, s2, s3, s4, o1, o2, o3, o4, same⟩
    exact ⟨⟨time, values, funding, trade, ⟨s1, s2, s3, s4⟩, ⟨o1, o2, o3, o4⟩⟩, same⟩
  · rintro ⟨⟨time, values, funding, trade, ⟨s1, s2, s3, s4⟩, ⟨o1, o2, o3, o4⟩⟩, same⟩
    exact ⟨time, values, funding, trade, s1, s2, s3, s4, o1, o2, o3, o4, same⟩

end TradeEvent

/-! ### Positions -/

/-- An open position, with the checks of its constructor. -/
structure Position where
  asset : String
  quantity : ℚ
  averageEntryPrice : ℚ
  entryTimestampMs : Int
  named : blank asset = false
  nonzero : quantity ≠ 0
  pricePositive : 0 < averageEntryPrice
  timePositive : 0 < entryTimestampMs
  deriving DecidableEq

variable {asset : String}

namespace Position

/-- `Position.__post_init__`. -/
def create (asset : String) (quantity averageEntryPrice : ℚ) (entryTimestampMs : Int) :
    Except String Position :=
  if valid : blank asset = false ∧ quantity ≠ 0 ∧ 0 < averageEntryPrice then
    if timed : 0 < entryTimestampMs then
      .ok ⟨asset, quantity, averageEntryPrice, entryTimestampMs, valid.1, valid.2.1,
        valid.2.2, timed⟩
    else .error "entry_timestamp_ms must be a positive integer"
  else .error "Position requires asset, nonzero quantity and positive entry price"

theorem create_ok {quantity averageEntryPrice : ℚ} {entryTimestampMs : Int} {position : Position}
    (created : create asset quantity averageEntryPrice entryTimestampMs = .ok position) :
    position.asset = asset ∧ position.quantity = quantity := by
  unfold create at created
  split_ifs at created
  cases created
  exact ⟨rfl, rfl⟩

def unrealizedPnl (position : Position) (currentPrice : ℚ) : Except String ℚ :=
  if currentPrice ≤ 0 then .error "current_price must be positive"
  else .ok (position.quantity * (currentPrice - position.averageEntryPrice))

end Position

/-! ### The portfolio -/

/-- Single-writer linear-contract cash ledger. -/
structure Portfolio where
  cash : ℚ
  positions : List Position := []
  tradeHistory : List TradeEvent := []
  deriving DecidableEq

/-- The arguments of `apply_trade`. -/
structure TradeRequest where
  timestampMs : Int
  action : TradeAction
  asset : String
  price : ℚ
  quantity : ℚ
  feeUsdt : ℚ
  signalId : String := ""
  tradeId : String := ""
  observationTimestampMs : Option Int := none
  decisionTimestampMs : Option Int := none
  orderTimestampMs : Option Int := none
  settlementTimestampMs : Option Int := none
  metadata : Metadata := []

variable {portfolio : Portfolio}

namespace Portfolio

def validateEventInput (portfolio : Portfolio) (timestampMs : Int) (asset : String) :
    Except String Unit := do
  refuse (timestampMs ≤ 0) "timestamp_ms must be a positive integer"
  refuse (∃ last ∈ portfolio.tradeHistory.getLast?, timestampMs < last.timestampMs)
    "Backwards ledger timestamp"
  refuse (blank asset) "asset cannot be empty"

def position (portfolio : Portfolio) (asset : String) : Option Position :=
  lookup Position.asset portfolio.positions asset

def getPositionQuantity (portfolio : Portfolio) (asset : String) : ℚ :=
  match portfolio.position asset with
  | some position => position.quantity
  | none => 0

/-- `total_equity` with a mark price for one asset. -/
def totalEquity (portfolio : Portfolio) (asset : String) (markPrice : ℚ) : Except String ℚ :=
  portfolio.positions.foldlM (fun equity position => do
    refuse (position.asset ≠ asset) ("Missing mark price for " ++ position.asset)
    let unrealized ← position.unrealizedPnl markPrice
    return equity + unrealized) portfolio.cash

def tradeOutcome (current : Option Position) (trade : TradeRequest) :
    Except String (ℚ × ℚ × ℚ) :=
  let currQty := (current.map Position.quantity).getD 0
  let currEntry := (current.map Position.averageEntryPrice).getD 0
  let direction := trade.action.direction
  if trade.action.opening then
    let size := |currQty| + trade.quantity
    if currQty * direction < 0 then .error "Close the opposite position before opening"
    else if size = |currQty| then
      .error "Quantity increment is below floating-point resolution"
    else
      .ok (direction * size,
        currEntry * (|currQty| / size) + trade.price * (trade.quantity / size), 0)
  else
    let newQty := direction * (|currQty| - trade.quantity)
    if currQty * direction ≤ 0 then .error "Close action does not match an open position"
    else if |currQty| < trade.quantity then .error "Close quantity exceeds the open position"
    else if newQty = currQty then
      .error "Close quantity is below floating-point resolution"
    else .ok (newQty, currEntry, direction * trade.quantity * (trade.price - currEntry))

def tradeEvent (portfolio : Portfolio) (trade : TradeRequest) (newQty realized : ℚ) :
    TradeEvent where
  timestampMs := trade.timestampMs
  action := trade.action
  price := trade.price
  quantity := trade.quantity
  feeUsdt := trade.feeUsdt
  fundingUsdt := 0
  positionAfter := newQty
  cashAfter := portfolio.cash + realized - trade.feeUsdt
  realizedPnlUsdt := realized
  tradeId := trade.tradeId
  signalId := trade.signalId
  observationTimestampMs := trade.observationTimestampMs
  decisionTimestampMs := trade.decisionTimestampMs
  orderTimestampMs := trade.orderTimestampMs
  settlementTimestampMs := trade.settlementTimestampMs
  metadata := KeyedList.insert Prod.fst trade.metadata ("asset", .text trade.asset)

def positionsAfter (portfolio : Portfolio) (trade : TradeRequest) (current : Option Position)
    (newQty newEntry : ℚ) : Except String (List Position) :=
  if newQty = 0 then .ok (erase Position.asset portfolio.positions trade.asset)
  else do
    let position ← Position.create trade.asset newQty newEntry
      ((current.map Position.entryTimestampMs).getD trade.timestampMs)
    return KeyedList.insert Position.asset portfolio.positions position

/-- `apply_trade`: everything is validated before the account changes. -/
def applyTrade (portfolio : Portfolio) (trade : TradeRequest) : Except String Portfolio := do
  portfolio.validateEventInput trade.timestampMs trade.asset
  refuse (trade.action = .fundingSettlement) "Use apply_funding for funding settlements"
  refuse (trade.quantity ≤ 0 ∨ trade.price ≤ 0 ∨ trade.feeUsdt < 0)
    "Trade requires positive quantity/price and nonnegative fee"
  let current := portfolio.position trade.asset
  let (newQty, newEntry, realized) ← tradeOutcome current trade
  let positions ← portfolio.positionsAfter trade current newQty newEntry
  let event ← (portfolio.tradeEvent trade newQty realized).validate
  return {
    cash := event.cashAfter
    positions := positions
    tradeHistory := portfolio.tradeHistory ++ [event] }

def fundingEvent (portfolio : Portfolio) (timestampMs : Int) (asset : String)
    (cashflowUsdt markPrice : ℚ) : TradeEvent where
  timestampMs := timestampMs
  action := .fundingSettlement
  price := markPrice
  quantity := |portfolio.getPositionQuantity asset|
  feeUsdt := 0
  fundingUsdt := cashflowUsdt
  positionAfter := portfolio.getPositionQuantity asset
  cashAfter := portfolio.cash + cashflowUsdt
  metadata := [("asset", .text asset), ("funding_cashflow", .number cashflowUsdt)]

def applyFunding (portfolio : Portfolio) (timestampMs : Int) (asset : String)
    (cashflowUsdt markPrice : ℚ) : Except String Portfolio := do
  portfolio.validateEventInput timestampMs asset
  refuse (portfolio.getPositionQuantity asset = 0 ∧ cashflowUsdt ≠ 0)
    "Nonzero funding requires an open position"
  let event ← (portfolio.fundingEvent timestampMs asset cashflowUsdt markPrice).validate
  return { portfolio with
    cash := event.cashAfter
    tradeHistory := portfolio.tradeHistory ++ [event] }

/-! ### What the ledger operations do -/

theorem validateEventInput_eq_ok {timestampMs : Int} :
    portfolio.validateEventInput timestampMs asset = .ok () ↔
      0 < timestampMs ∧
        (∀ last ∈ portfolio.tradeHistory.getLast?, last.timestampMs ≤ timestampMs) ∧
        blank asset = false := by
  simp only [validateEventInput, refuse_bind_eq_ok, refuse_eq_ok, not_le, not_exists, not_and,
    not_lt, Bool.not_eq_true]

theorem getPositionQuantity_eq (portfolio : Portfolio) (asset : String) :
    portfolio.getPositionQuantity asset =
      ((portfolio.position asset).map Position.quantity).getD 0 := by
  unfold getPositionQuantity
  cases portfolio.position asset <;> rfl

end Portfolio

/-- The change of the signed position a trade asks for. -/
def TradeRequest.signedQuantity (trade : TradeRequest) : ℚ :=
  if trade.action.opening then trade.action.direction * trade.quantity
  else -(trade.action.direction * trade.quantity)

namespace Portfolio

/-- The trade concerns the side the position is on: an opening does not oppose it, a closing
fits inside it. -/
def Admits (portfolio : Portfolio) (trade : TradeRequest) : Prop :=
  if trade.action.opening then
    0 ≤ portfolio.getPositionQuantity trade.asset * trade.action.direction
  else
    0 < portfolio.getPositionQuantity trade.asset * trade.action.direction ∧
      trade.quantity ≤ |portfolio.getPositionQuantity trade.asset|

theorem abs_eq_mul_direction {quantity : ℚ}
    (aligned : 0 ≤ quantity * action.direction) : |quantity| = quantity * action.direction := by
  have unit : |action.direction| = 1 := by cases action <;> norm_num [TradeAction.direction]
  rw [← abs_of_nonneg aligned, abs_mul, unit, mul_one]

variable {trade : TradeRequest}

theorem tradeOutcome_spec (portfolio : Portfolio) (positive : 0 < trade.quantity)
    (pricePositive : 0 < trade.price) :
    (∀ outcome, tradeOutcome (portfolio.position trade.asset) trade = .ok outcome →
        portfolio.Admits trade ∧
          outcome.1 = portfolio.getPositionQuantity trade.asset + trade.signedQuantity ∧
          (outcome.1 ≠ 0 → 0 < outcome.2.1)) ∧
      (portfolio.Admits trade →
        ∃ outcome, tradeOutcome (portfolio.position trade.asset) trade = .ok outcome) := by
  have square := trade.action.direction_sq
  have entry : portfolio.getPositionQuantity trade.asset ≠ 0 →
      0 < ((portfolio.position trade.asset).map Position.averageEntryPrice).getD 0 := by
    rw [getPositionQuantity_eq]
    cases portfolio.position trade.asset with
    | none => exact fun nonzero => absurd rfl nonzero
    | some position => exact fun _ => position.pricePositive
  have entryNonneg :
      0 ≤ ((portfolio.position trade.asset).map Position.averageEntryPrice).getD 0 := by
    cases portfolio.position trade.asset with
    | none => exact le_refl _
    | some position => exact position.pricePositive.le
  unfold tradeOutcome Admits TradeRequest.signedQuantity
  simp only [← getPositionQuantity_eq]
  set current := portfolio.getPositionQuantity trade.asset
  set price := ((portfolio.position trade.asset).map Position.averageEntryPrice).getD 0
  by_cases opening : trade.action.opening = true
  · simp only [if_pos opening]
    by_cases opposed : current * trade.action.direction < 0
    · rw [if_pos opposed]
      exact ⟨fun _ failed => (nomatch failed),
        fun aligned => absurd aligned (not_le.mpr opposed)⟩
    · have size : 0 < |current| + trade.quantity :=
        add_pos_of_nonneg_of_pos (abs_nonneg _) positive
      rw [if_neg opposed, if_neg (by linarith)]
      refine ⟨fun outcome done => ?_, fun _ => ⟨_, rfl⟩⟩
      cases done
      refine ⟨not_lt.mp opposed, ?_, fun _ => ?_⟩
      · show trade.action.direction * (|current| + trade.quantity) = _
        rw [abs_eq_mul_direction (not_lt.mp opposed), mul_add, ← mul_assoc,
          mul_comm trade.action.direction current, mul_assoc, square, mul_one]
      · show 0 < price * (|current| / (|current| + trade.quantity)) +
          trade.price * (trade.quantity / (|current| + trade.quantity))
        exact add_pos_of_nonneg_of_pos
          (mul_nonneg entryNonneg (div_nonneg (abs_nonneg _) size.le))
          (mul_pos pricePositive (div_pos positive size))
  · simp only [if_neg opening]
    by_cases mismatched : current * trade.action.direction ≤ 0
    · rw [if_pos mismatched]
      exact ⟨fun _ failed => (nomatch failed),
        fun admits => absurd admits.1 (not_lt.mpr mismatched)⟩
    · rw [if_neg mismatched]
      have aligned := not_le.mp mismatched
      by_cases exceeds : |current| < trade.quantity
      · rw [if_pos exceeds]
        exact ⟨fun _ failed => (nomatch failed),
          fun admits => absurd admits.2 (not_le.mpr exceeds)⟩
      · rw [if_neg exceeds]
        have moved : trade.action.direction * (|current| - trade.quantity) =
            current + -(trade.action.direction * trade.quantity) := by
          rw [abs_eq_mul_direction aligned.le, mul_sub, ← mul_assoc,
            mul_comm trade.action.direction current, mul_assoc, square, mul_one, sub_eq_add_neg]
        have changed : ¬ trade.action.direction * (|current| - trade.quantity) = current := by
          rw [moved]
          intro same
          have zero : trade.action.direction * trade.quantity = 0 := by linarith
          rcases mul_eq_zero.mp zero with directionZero | quantityZero
          · rw [directionZero] at square
            norm_num at square
          · exact positive.ne' quantityZero
        rw [if_neg changed]
        refine ⟨fun outcome done => ?_, fun _ => ⟨_, rfl⟩⟩
        cases done
        refine ⟨⟨aligned, not_lt.mp exceeds⟩, moved, fun _ => entry ?_⟩
        intro zero
        rw [zero, zero_mul] at aligned
        exact lt_irrefl _ aligned

variable {result : Portfolio}

theorem applyTrade_eq_ok :
    portfolio.applyTrade trade = .ok result ↔
      portfolio.validateEventInput trade.timestampMs trade.asset = .ok () ∧
      trade.action ≠ .fundingSettlement ∧
      (0 < trade.quantity ∧ 0 < trade.price ∧ 0 ≤ trade.feeUsdt) ∧
      ∃ newQty newEntry realized positions,
        tradeOutcome (portfolio.position trade.asset) trade = .ok (newQty, newEntry, realized) ∧
        portfolio.positionsAfter trade (portfolio.position trade.asset) newQty newEntry =
          .ok positions ∧
        (portfolio.tradeEvent trade newQty realized).Valid ∧
        result = {
          cash := (portfolio.tradeEvent trade newQty realized).cashAfter
          positions := positions
          tradeHistory :=
            portfolio.tradeHistory ++ [portfolio.tradeEvent trade newQty realized] } := by
  unfold applyTrade
  rw [bind_eq_ok]
  simp only [refuse_bind_eq_ok, not_or, not_le, not_lt]
  simp only [bind_eq_ok, pure_eq_ok, TradeEvent.validate_eq_ok, Prod.exists]
  constructor
  · rintro ⟨⟨⟩, input, tradeAction, values, newQty, newEntry, realized, outcome, positions,
      placed, event, ⟨valid, rfl⟩, rfl⟩
    exact ⟨input, tradeAction, values, newQty, newEntry, realized, positions, outcome, placed,
      valid, rfl⟩
  · rintro ⟨input, tradeAction, values, newQty, newEntry, realized, positions, outcome, placed,
      valid, rfl⟩
    exact ⟨(), input, tradeAction, values, newQty, newEntry, realized, outcome, positions,
      placed, _, ⟨valid, rfl⟩, rfl⟩

variable {positions : List Position}

theorem positionsAfter_quantity {newQty newEntry cash : ℚ} {history : List TradeEvent}
    (placed : portfolio.positionsAfter trade (portfolio.position trade.asset) newQty newEntry =
      .ok positions) :
    (Portfolio.mk cash positions history).getPositionQuantity trade.asset = newQty := by
  unfold positionsAfter at placed
  rw [getPositionQuantity_eq]
  by_cases flat : newQty = 0
  · rw [if_pos flat] at placed
    cases placed
    rw [position, lookup_erase_self, flat]
    rfl
  · rw [if_neg flat, bind_eq_ok] at placed
    obtain ⟨created, creation, inserted⟩ := placed
    cases inserted
    obtain ⟨sameAsset, sameQuantity⟩ := Position.create_ok creation
    have found : lookup Position.asset
        (KeyedList.insert Position.asset portfolio.positions created) created.asset =
          some created := lookup_insert_self _ _
    rw [position, ← sameAsset, found, ← sameQuantity]
    rfl

theorem applyTrade_ok (done : portfolio.applyTrade trade = .ok result) :
    portfolio.Admits trade ∧
      result.getPositionQuantity trade.asset =
        portfolio.getPositionQuantity trade.asset + trade.signedQuantity ∧
      portfolio.validateEventInput trade.timestampMs trade.asset = .ok () ∧
      ∃ event, result.tradeHistory = portfolio.tradeHistory ++ [event] ∧
        event.timestampMs = trade.timestampMs ∧ event.action = trade.action ∧
        event.quantity = trade.quantity ∧ trade.action ≠ .fundingSettlement ∧
        0 < trade.quantity := by
  obtain ⟨input, tradeAction, ⟨quantity, price, -⟩, newQty, newEntry, realized, positions,
    outcome, placed, -, rfl⟩ := applyTrade_eq_ok.mp done
  obtain ⟨admits, moved, -⟩ := (tradeOutcome_spec portfolio quantity price).1 _ outcome
  refine ⟨admits, ?_, input, _, rfl, rfl, rfl, rfl, tradeAction, quantity⟩
  rw [positionsAfter_quantity placed]
  exact moved

theorem applyTrade_succeeds
    (input : portfolio.validateEventInput trade.timestampMs trade.asset = .ok ())
    (tradeAction : trade.action ≠ .fundingSettlement)
    (values : 0 < trade.quantity ∧ 0 < trade.price ∧ 0 ≤ trade.feeUsdt)
    (admits : portfolio.Admits trade)
    (event : ∀ newQty realized, (portfolio.tradeEvent trade newQty realized).Valid) :
    ∃ result, portfolio.applyTrade trade = .ok result := by
  obtain ⟨outcomes, exists_outcome⟩ := tradeOutcome_spec portfolio values.1 values.2.1
  obtain ⟨⟨newQty, newEntry, realized⟩, outcome⟩ := exists_outcome admits
  obtain ⟨-, -, entryPositive⟩ := outcomes _ outcome
  obtain ⟨timePositive, -, named⟩ := validateEventInput_eq_ok.mp input
  have placed : ∃ positions, portfolio.positionsAfter trade (portfolio.position trade.asset)
      newQty newEntry = .ok positions := by
    unfold positionsAfter
    by_cases flat : newQty = 0
    · exact ⟨_, if_pos flat⟩
    · have timed : 0 < ((portfolio.position trade.asset).map
          Position.entryTimestampMs).getD trade.timestampMs := by
        cases portfolio.position trade.asset with
        | none => exact timePositive
        | some position => exact position.timePositive
      rw [if_neg flat, Position.create, dif_pos ⟨named, flat, entryPositive flat⟩,
        dif_pos timed]
      exact ⟨_, rfl⟩
  obtain ⟨positions, placed⟩ := placed
  exact ⟨_, applyTrade_eq_ok.mpr ⟨input, tradeAction, values, newQty, newEntry, realized,
    positions, outcome, placed, event newQty realized, rfl⟩⟩

theorem applyFunding_eq_ok {timestampMs : Int} {cashflowUsdt markPrice : ℚ} :
    portfolio.applyFunding timestampMs asset cashflowUsdt markPrice = .ok result ↔
      portfolio.validateEventInput timestampMs asset = .ok () ∧
      ¬ (portfolio.getPositionQuantity asset = 0 ∧ cashflowUsdt ≠ 0) ∧
      (portfolio.fundingEvent timestampMs asset cashflowUsdt markPrice).Valid ∧
      result = { portfolio with
        cash := portfolio.cash + cashflowUsdt
        tradeHistory := portfolio.tradeHistory ++
          [portfolio.fundingEvent timestampMs asset cashflowUsdt markPrice] } := by
  unfold applyFunding
  rw [bind_eq_ok]
  simp only [refuse_bind_eq_ok]
  simp only [bind_eq_ok, pure_eq_ok, TradeEvent.validate_eq_ok]
  constructor
  · rintro ⟨⟨⟩, input, held, event, ⟨valid, rfl⟩, rfl⟩
    exact ⟨input, held, valid, rfl⟩
  · rintro ⟨input, held, valid, rfl⟩
    exact ⟨(), input, held, _, ⟨valid, rfl⟩, rfl⟩

theorem applyFunding_succeeds {timestampMs : Int} {cashflowUsdt markPrice : ℚ}
    (input : portfolio.validateEventInput timestampMs asset = .ok ())
    (held : portfolio.getPositionQuantity asset ≠ 0) (mark : 0 < markPrice) :
    ∃ result, portfolio.applyFunding timestampMs asset cashflowUsdt markPrice = .ok result := by
  refine ⟨_, applyFunding_eq_ok.mpr ⟨input, fun flat => held flat.1, ?_, rfl⟩⟩
  exact ⟨(validateEventInput_eq_ok.mp input).1, ⟨mark, abs_nonneg _, le_refl _⟩,
    fun _ => ⟨rfl, rfl⟩, fun other => absurd rfl other, ⟨rfl, rfl, rfl, rfl⟩,
    ⟨rfl, rfl, rfl, rfl⟩⟩

theorem assets_of_totalEquity {markPrice equity : ℚ}
    (done : portfolio.totalEquity asset markPrice = .ok equity) :
    ∀ position ∈ portfolio.positions, position.asset = asset := by
  obtain ⟨cash, positions, tradeHistory⟩ := portfolio
  unfold totalEquity at done
  dsimp only at done ⊢
  induction positions generalizing cash with
  | nil => exact fun _ member => nomatch member
  | cons head rest inductionHypothesis =>
    rw [List.foldlM_cons, bind_eq_ok] at done
    obtain ⟨next, added, remaining⟩ := done
    obtain ⟨same, -⟩ := refuse_bind_eq_ok.mp added
    intro position member
    rcases List.mem_cons.mp member with rfl | later
    · exact not_not.mp same
    · exact inductionHypothesis next remaining position later

/-! ### Sums over the positions -/

def getEntryPrice (portfolio : Portfolio) (asset : String) : ℚ :=
  ((portfolio.position asset).map Position.averageEntryPrice).getD 0

theorem getEntryPrice_eq (portfolio : Portfolio) (asset : String) :
    portfolio.getEntryPrice asset =
      ((portfolio.position asset).map Position.averageEntryPrice).getD 0 := rfl

theorem distinct_positionsAfter {current : Option Position} {newQty newEntry : ℚ}
    (distinct : Distinct Position.asset portfolio.positions)
    (placed : portfolio.positionsAfter trade current newQty newEntry = .ok positions) :
    Distinct Position.asset positions := by
  unfold positionsAfter at placed
  split_ifs at placed
  · cases placed
    exact distinct.erase _
  · obtain ⟨position, -, inserted⟩ := bind_eq_ok.mp placed
    cases inserted
    exact distinct.insert position

section Sums

variable (value : String → ℚ → ℚ → ℚ)

def valued (position : Position) : ℚ :=
  value position.asset position.quantity position.averageEntryPrice

variable {value}

theorem sum_erase_position (flat : ∀ asset entry, value asset 0 entry = 0)
    (distinct : Distinct Position.asset portfolio.positions)
    (asset : String) :
    ((erase Position.asset portfolio.positions asset).map
        (valued value)).sum +
        value asset (portfolio.getPositionQuantity asset) (portfolio.getEntryPrice asset) =
      (portfolio.positions.map (valued value)).sum := by
  rw [getPositionQuantity_eq, getEntryPrice]
  cases found : portfolio.position asset with
  | some position =>
    have named : position.asset = asset := lookup_key found
    rw [← sum_erase_add (valued value) distinct found, valued, named]
    rfl
  | none =>
    rw [erase_of_absent (lookup_eq_none.mp found)]
    exact (congrArg _ (flat asset 0)).trans (add_zero _)

theorem sum_positionsAfter (flat : ∀ asset entry, value asset 0 entry = 0) {trade : TradeRequest}
    {current : Option Position}
    {newQty newEntry : ℚ}
    (distinct : Distinct Position.asset portfolio.positions)
    (placed : portfolio.positionsAfter trade current newQty newEntry = .ok positions) :
    (positions.map (valued value)).sum +
        value trade.asset (portfolio.getPositionQuantity trade.asset)
          (portfolio.getEntryPrice trade.asset) =
      (portfolio.positions.map (valued value)).sum +
        value trade.asset newQty newEntry := by
  have removed := sum_erase_position flat distinct trade.asset
  unfold positionsAfter at placed
  split_ifs at placed with zero
  · cases placed
    rw [removed, zero, flat, add_zero]
  · obtain ⟨position, creation, inserted⟩ := bind_eq_ok.mp placed
    cases inserted
    obtain ⟨sameAsset, sameQuantity⟩ := Position.create_ok creation
    have sameEntry : position.averageEntryPrice = newEntry := by
      unfold Position.create at creation
      split_ifs at creation
      cases creation
      rfl
    rw [KeyedList.insert, sameAsset, List.map_append, List.sum_append, ← removed]
    simp only [List.map_cons, List.map_nil, List.sum_cons, List.sum_nil, valued,
      sameAsset, sameQuantity, sameEntry]
    ring

end Sums

end Portfolio

end QuantAgent.Economic
