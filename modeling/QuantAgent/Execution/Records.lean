/-
This file embeds the records of live execution: trade intents with their statuses, the rows of their
orders, and the report of a submission.
-/

import QuantAgent.Library.Refusal
import QuantAgent.Library.Table

namespace QuantAgent.Execution

/-! ### Values -/

inductive Fault where
  | blocked (reason : String)
  | keyError (message : String)
  | client (code : Option Int) (message : String)
  | other (message : String)
  deriving DecidableEq

/-- Statuses of intents and of orders. -/
inductive Status where
  | pendingValidation
  | validated
  | authorized
  | submitting
  | unknown
  | new
  | partiallyFilled
  | filled
  | canceled
  | expired
  | rejected
  | aborted
  | notFound
  deriving DecidableEq

inductive Environment where
  | dryRun
  | testnet
  deriving DecidableEq

inductive Side where
  | buy
  | sell
  deriving DecidableEq

/-- The side that closes a position of this side. -/
def Side.exit : Side → Side
  | buy => sell
  | sell => buy

inductive OrderType where
  | limit
  | market
  deriving DecidableEq

structure TradeIntent where
  intentId : String
  intentHash : String
  caseId : String
  caseHash : String
  proposalHash : String
  approvalEventId : String
  approvalActor : String
  approvalHash : String
  riskPolicyHash : String
  environment : Environment
  symbol : String
  side : Side
  orderType : OrderType
  quantity : ℚ
  price : ℚ
  leverage : ℕ
  stopLoss : ℚ
  createdAtMs : Int
  expiresAtMs : Int
  idempotencyKey : String
  clientOrderId : String
  deriving DecidableEq

/-! ### Tables -/

/-- A row of `live_execution_orders`, without the copy of the exchange's answer. -/
structure OrderRow where
  orderId : String
  intentId : String
  clientOrderId : String
  symbol : String
  side : Side
  status : Status
  requestedQty : ℚ
  filledQty : ℚ
  avgPrice : ℚ
  stopPrice : Option ℚ
  isProtective : Bool
  reduceOnly : Bool
  exchangeTimeMs : Int
  receiptTimeMs : Int

/-- `ExecutionReport`, without the copy of the exchange's answer. -/
structure ExecutionReport where
  intentId : String
  status : Status
  orderId : String
  clientOrderId : String
  requestedQty : ℚ
  filledQty : ℚ
  avgPrice : ℚ
  protectiveStopId : Option String := none
  reason : String := ""

end QuantAgent.Execution
