/-
This file reads a ledger: the position its trades form, the position formed strictly before a
moment, and the funding charges it contains. It says how each changes when an event is appended.
-/

import QuantAgent.Economic.Simulator

namespace QuantAgent.Economic

/-! ### Positions -/

namespace TradeEvent

/-- What an event adds to the position. -/
def signedQuantity (event : TradeEvent) : ℚ :=
  match event.action with
  | .openLong => event.quantity
  | .closeLong => -event.quantity
  | .openShort => -event.quantity
  | .closeShort => event.quantity
  | .fundingSettlement => 0

def isTrade (event : TradeEvent) : Bool := event.action ≠ .fundingSettlement

theorem signedQuantity_of_untraded {event : TradeEvent} (untraded : event.isTrade = false) :
    event.signedQuantity = 0 := by
  have settlement : event.action = .fundingSettlement := by simpa [isTrade] using untraded
  rw [signedQuantity, settlement]

end TradeEvent

def netPosition (history : List TradeEvent) : ℚ :=
  (history.map TradeEvent.signedQuantity).sum

/-- The position formed by the fills at timestamps strictly before a moment. -/
def positionBefore (history : List TradeEvent) (time : Int) : ℚ :=
  netPosition (history.filter fun event => event.timestampMs < time)

theorem netPosition_append (history : List TradeEvent) (event : TradeEvent) :
    netPosition (history ++ [event]) = netPosition history + event.signedQuantity := by
  rw [netPosition, List.map_append, List.sum_append, List.map_singleton, List.sum_singleton,
    netPosition]

variable {history : List TradeEvent} {event : TradeEvent} {time : Int}

theorem positionBefore_append (late : time ≤ event.timestampMs ∨ event.isTrade = false) :
    positionBefore (history ++ [event]) time = positionBefore history time := by
  unfold positionBefore
  rw [List.filter_append]
  by_cases early : event.timestampMs < time
  · have untraded : event.isTrade = false := late.resolve_left (not_le.mpr early)
    rw [List.filter_cons_of_pos (by simpa using early), List.filter_nil, netPosition_append,
      TradeEvent.signedQuantity_of_untraded untraded, add_zero]
  · rw [List.filter_cons_of_neg (by simpa using early), List.filter_nil, List.append_nil]

/-- When every fill so far lies strictly before a moment, the position before it is the whole
position. -/
theorem positionBefore_of_all
    (early : ∀ event ∈ history, event.isTrade = true → event.timestampMs < time) :
    positionBefore history time = netPosition history := by
  induction history with
  | nil => rfl
  | cons event rest inductionHypothesis =>
    have later := inductionHypothesis fun other member =>
      early other (List.mem_cons_of_mem _ member)
    unfold positionBefore at later ⊢
    by_cases before : event.timestampMs < time
    · rw [List.filter_cons_of_pos (by simpa using before), netPosition, List.map_cons,
        List.sum_cons, ← netPosition, later, netPosition, netPosition, List.map_cons,
        List.sum_cons]
    · have untraded : event.isTrade = false := by
        by_contra traded
        exact before (early event List.mem_cons_self (by simpa using traded))
      rw [List.filter_cons_of_neg (by simpa using before), later, netPosition, netPosition,
        List.map_cons, List.sum_cons, TradeEvent.signedQuantity_of_untraded untraded, zero_add]

/-! ### Funding -/

/-- A funding settlement as the ledger shows it: when, at what mark, for how much. -/
structure FundingCharge where
  timestampMs : Int
  markPrice : ℚ
  cashflowUsdt : ℚ
  deriving DecidableEq

def fundingCharges (history : List TradeEvent) : List FundingCharge :=
  (history.filter fun event => !event.isTrade).map fun event =>
    ⟨event.timestampMs, event.price, event.fundingUsdt⟩

def chargeOf (history : List TradeEvent) (event : FundingSettlement) : Option FundingCharge :=
  let quantity := positionBefore history event.timestampMs
  if dust < |quantity| then
    some ⟨event.timestampMs, event.markPrice, -(quantity * event.markPrice * event.fundingRate)⟩
  else none

theorem fundingCharges_append (history : List TradeEvent) (event : TradeEvent) :
    fundingCharges (history ++ [event]) =
      fundingCharges history ++
        if event.isTrade then [] else [⟨event.timestampMs, event.price, event.fundingUsdt⟩] := by
  unfold fundingCharges
  rw [List.filter_append, List.map_append]
  by_cases traded : event.isTrade = true
  · rw [if_pos traded, List.filter_cons_of_neg (by simpa using traded)]
    rfl
  · rw [if_neg traded, List.filter_cons_of_pos (by simpa using traded)]
    rfl

theorem chargeOf_append {settlement : FundingSettlement}
    (late : settlement.timestampMs ≤ event.timestampMs ∨ event.isTrade = false) :
    chargeOf (history ++ [event]) settlement = chargeOf history settlement := by
  unfold chargeOf
  rw [positionBefore_append late]

/-- Above the dust size the model's cash flow is the product. -/
theorem calculateCashflow_of_held {quantity markPrice fundingRate : ℚ} (held : dust < |quantity|) :
    calculateCashflow quantity markPrice fundingRate = -(quantity * markPrice * fundingRate) := by
  unfold calculateCashflow
  rw [if_neg (not_lt.mpr held.le)]
  ring

/-! ### What the two ledger operations append -/

theorem dust_pos : 0 < dust := by
  unfold dust
  norm_num

theorem signedQuantity_eq_request {trade : TradeRequest} (action : event.action = trade.action)
    (quantity : event.quantity = trade.quantity) (fill : trade.action ≠ .fundingSettlement) :
    event.signedQuantity = trade.signedQuantity := by
  unfold TradeEvent.signedQuantity TradeRequest.signedQuantity
  rw [action, quantity]
  cases kind : trade.action with
  | fundingSettlement => exact absurd kind fill
  | _ => simp [TradeAction.opening, TradeAction.direction]

theorem applyTrade_history {portfolio result : Portfolio} {fill : PendingFill} {symbol : String}
    (done : portfolio.applyTrade (fill.tradeRequest symbol) = .ok result) :
    ∃ event, result.tradeHistory = portfolio.tradeHistory ++ [event] ∧
      event.timestampMs = fill.fillTimestampMs ∧ event.isTrade = true ∧
      result.getPositionQuantity symbol =
        portfolio.getPositionQuantity symbol + event.signedQuantity := by
  obtain ⟨-, moved, -, event, appended, time, action, quantity, trade, -⟩ :=
    Portfolio.applyTrade_ok done
  have signed : event.signedQuantity = (fill.tradeRequest symbol).signedQuantity :=
    signedQuantity_eq_request action quantity trade
  refine ⟨event, appended, time, ?_, ?_⟩
  · unfold TradeEvent.isTrade
    rw [action]
    simpa using trade
  · rw [signed]
    exact moved

/-- A settlement appends its charge and moves no position. -/
theorem applyFunding_history {portfolio result : Portfolio} {symbol : String} {cashflow mark : ℚ}
    (done : portfolio.applyFunding time symbol cashflow mark = .ok result) :
    ∃ event, result.tradeHistory = portfolio.tradeHistory ++ [event] ∧
      event.timestampMs = time ∧ event.isTrade = false ∧ event.price = mark ∧
      event.fundingUsdt = cashflow ∧ event.signedQuantity = 0 ∧
      result.getPositionQuantity symbol = portfolio.getPositionQuantity symbol := by
  obtain ⟨-, -, -, rfl⟩ := Portfolio.applyFunding_eq_ok.mp done
  exact ⟨_, rfl, rfl, rfl, rfl, rfl, rfl, rfl⟩

end QuantAgent.Economic
