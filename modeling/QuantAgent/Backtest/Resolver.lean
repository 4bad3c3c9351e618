/-
This file embeds the outcome of a signal: how a completed trade is valued, and the resolver that
finds the outcome of one signal from the minute bars after it.
-/

import QuantAgent.Backtest.Resample
import QuantAgent.Library.Refusal

namespace QuantAgent.Backtest

/-! ### Signals and outcomes -/

inductive Direction where
  | long
  | short
  deriving DecidableEq

inductive Setup where
  | trendPullback
  | breakoutRetest
  deriving DecidableEq

inductive Regime where
  | trendUp
  | trendDown
  | range
  | highVolatility
  | transition
  deriving DecidableEq

structure Signal where
  signalId : String
  fingerprint : String
  direction : Direction
  setup : Setup
  regime : Regime
  dataTimestampMs : ℤ
  createdAtMs : ℤ
  expiresAtMs : ℤ
  entryLow : ℚ
  entryHigh : ℚ
  stopLoss : ℚ
  invalidationLevel : ℚ
  takeProfit : ℚ
  rrGross : ℚ
  rrNet : ℚ
  recommendedNotional : ℚ
  maxLossUsdt : ℚ
  estimatedFeeUsdt : ℚ
  estimatedSlippageUsdt : ℚ
  deriving DecidableEq

structure FundingEvent where
  timestampMs : ℤ
  fundingRate : ℚ
  markPrice : Option ℚ := none

inductive OutcomeKind where
  | win
  | loss
  | timeout
  | unfilled
  | invalidated
  | pending
  | openAtEnd
  deriving DecidableEq

structure TradeOutcome where
  signalId : String
  outcome : OutcomeKind
  entryPrice : Option ℚ
  exitPrice : Option ℚ
  rMultiple : Option ℚ
  enteredAtMs : Option ℤ
  exitedAtMs : Option ℤ
  grossPnlUsdt : Option ℚ := none
  feesUsdt : ℚ := 0
  slippageUsdt : ℚ := 0
  fundingPnlUsdt : ℚ := 0
  netPnlUsdt : Option ℚ := none
  holdingMinutes : Option ℚ := none
  direction : Option Direction := none
  setup : Option Setup := none
  regime : Option Regime := none
  riskUsdt : Option ℚ := none
  entryLow : Option ℚ := none
  entryHigh : Option ℚ := none
  stopLoss : Option ℚ := none
  takeProfit : Option ℚ := none
  rrGross : Option ℚ := none
  rrNet : Option ℚ := none
  deriving DecidableEq

inductive RunFault where
  | invalidData (issues : List Issue)
  | zeroDivision
  | engine (message : String)
  deriving DecidableEq

/-- The outcome is that of a trade that was entered and left. -/
def TradeOutcome.IsCompleted (outcome : TradeOutcome) : Prop :=
  outcome.outcome ∈ [OutcomeKind.win, .loss, .timeout]

instance : DecidablePred TradeOutcome.IsCompleted := fun _ => inferInstanceAs (Decidable (_ ∈ _))

/-! ### Values -/

/-- `event.mark_price or entry_price`. -/
def FundingEvent.priceOr (event : FundingEvent) (entryPrice : ℚ) : ℚ :=
  match event.markPrice with
  | none => entryPrice
  | some markPrice => if markPrice = 0 then entryPrice else markPrice

def sideSign : Direction → ℚ
  | .long => -1
  | .short => 1

/-- The sum of `_funding_cashflow`. -/
def cashflow (signal : Signal) (entryPrice : ℚ) (events : List FundingEvent) : ℚ :=
  (events.map fun event => signal.recommendedNotional / entryPrice * event.priceOr entryPrice *
    event.fundingRate * sideSign signal.direction).sum

def fundingCashflow (signal : Signal) (entryPrice : ℚ) (events : List FundingEvent) :
    Except RunFault ℚ :=
  if entryPrice = 0 then .error .zeroDivision else .ok (cashflow signal entryPrice events)

def signedMove (direction : Direction) (entryPrice exitPrice : ℚ) : ℚ :=
  match direction with
  | .long => exitPrice - entryPrice
  | .short => entryPrice - exitPrice

def completedOutcome (signal : Signal) (outcome : OutcomeKind) (entryPrice exitPrice : ℚ)
    (enteredAtMs exitedAtMs : ℤ) (fundingPnlUsdt : ℚ) : Except RunFault TradeOutcome :=
  if entryPrice = 0 then .error .zeroDivision
  else
    let grossPnl := signal.recommendedNotional *
      signedMove signal.direction entryPrice exitPrice / entryPrice
    let fees := signal.estimatedFeeUsdt
    let slippage := signal.estimatedSlippageUsdt
    let netPnl := grossPnl - fees - slippage + fundingPnlUsdt
    .ok {
      signalId := signal.signalId
      outcome := outcome
      entryPrice := some entryPrice
      exitPrice := some exitPrice
      rMultiple := if signal.maxLossUsdt = 0 then none else some (netPnl / signal.maxLossUsdt)
      enteredAtMs := some enteredAtMs
      exitedAtMs := some exitedAtMs
      grossPnlUsdt := some grossPnl
      feesUsdt := fees
      slippageUsdt := slippage
      fundingPnlUsdt := fundingPnlUsdt
      netPnlUsdt := some netPnl
      holdingMinutes := some ((exitedAtMs - enteredAtMs + 1) / 60000)
      direction := some signal.direction
      setup := some signal.setup
      regime := some signal.regime
      riskUsdt := some signal.maxLossUsdt
      entryLow := some signal.entryLow
      entryHigh := some signal.entryHigh
      stopLoss := some signal.stopLoss
      takeProfit := some signal.takeProfit
      rrGross := some signal.rrGross
      rrNet := some signal.rrNet }

def unresolved (signalId : String) (outcome : OutcomeKind) (exitedAtMs : Option ℤ) :
    TradeOutcome where
  signalId := signalId
  outcome := outcome
  entryPrice := none
  exitPrice := none
  rMultiple := none
  enteredAtMs := none
  exitedAtMs := exitedAtMs

/-! ### The bars of a trade -/

namespace Signal

variable (signal : Signal) (bar : Bar)

/-- The bar reaches the range in which the signal enters. -/
def Touches : Prop := bar.low ≤ signal.entryHigh ∧ signal.entryLow ≤ bar.high

instance : Decidable (signal.Touches bar) := inferInstanceAs (Decidable (_ ∧ _))

def entryPrice : ℚ :=
  match signal.direction with
  | .long => signal.entryHigh
  | .short => signal.entryLow

/-- `stop_hit` and `target_hit`. -/
def stopHit : Bool :=
  match signal.direction with
  | .long => bar.low ≤ signal.stopLoss
  | .short => signal.stopLoss ≤ bar.high

def targetHit : Bool :=
  match signal.direction with
  | .long => signal.takeProfit ≤ bar.high
  | .short => bar.low ≤ signal.takeProfit

end Signal

def settlements (events : List FundingEvent) (enteredAtMs upToMs : ℤ) : List FundingEvent :=
  events.filter fun event => enteredAtMs < event.timestampMs ∧ event.timestampMs ≤ upToMs

/-! ### The resolver -/

/-- `entry_price`, `entered_at` and `holding_deadline` of a signal that has entered. -/
structure Entry where
  price : ℚ
  enteredAtMs : ℤ
  holdingDeadlineMs : ℤ

/-- What a bar does to a signal that waits for its entry: it ends the wait, leaves it or enters. -/
inductive Arrival where
  | expired
  | waits
  | enters (entry : Entry)

def arrivalOf (signal : Signal) (maxHoldingMinutes : ℤ) (bar : Bar) : Arrival :=
  if signal.expiresAtMs < bar.openTimeMs then .expired
  else if ¬ signal.Touches bar then .waits
  else .enters ⟨signal.entryPrice, bar.openTimeMs, bar.openTimeMs + maxHoldingMinutes * 60000⟩

variable (signal : Signal) (maxHoldingMinutes : ℤ) (asOfMs : Option ℤ)
  (fundingEvents : List FundingEvent)

/-- What is returned after the loop of `resolve_signal`. -/
def afterBars : Option Entry → Option Bar → Except RunFault TradeOutcome
  | none, _ =>
    .ok (unresolved signal.signalId
      (if ∃ asOf ∈ asOfMs, asOf ≤ signal.expiresAtMs then .pending else .unfilled) none)
  | some entry, lastBar =>
    if ∃ asOf ∈ asOfMs, asOf ≤ entry.holdingDeadlineMs then
      .ok { unresolved signal.signalId .pending none with
        entryPrice := some entry.price
        enteredAtMs := some entry.enteredAtMs }
    else
      match lastBar with
      | none => completedOutcome signal .timeout entry.price entry.price entry.enteredAtMs
          entry.enteredAtMs 0
      | some last => do
        let funding ← fundingCashflow signal entry.price
          (settlements fundingEvents entry.enteredAtMs last.closeTimeMs)
        completedOutcome signal .timeout entry.price last.close entry.enteredAtMs last.closeTimeMs
          funding

def hitOutcome (entry : Entry) (bar : Bar) (funding : ℚ) : Except RunFault TradeOutcome :=
  if signal.stopHit bar then
    completedOutcome signal .loss entry.price signal.stopLoss entry.enteredAtMs bar.closeTimeMs
      funding
  else
    completedOutcome signal .win entry.price signal.takeProfit entry.enteredAtMs bar.closeTimeMs
      funding

/-- The loop of `resolve_signal`, with the entry and the last bar that it carries. -/
def resolveFrom : Option Entry → Option Bar → List Bar → Except RunFault TradeOutcome
  | entered, lastBar, [] => afterBars signal asOfMs fundingEvents entered lastBar
  | entered, lastBar, bar :: bars =>
    if bar.openTimeMs ≤ signal.dataTimestampMs then resolveFrom entered lastBar bars
    else
      match entered.elim (arrivalOf signal maxHoldingMinutes bar) .enters with
      | .expired => afterBars signal asOfMs fundingEvents none lastBar
      | .waits => resolveFrom none lastBar bars
      | .enters entry =>
        if entry.holdingDeadlineMs < bar.closeTimeMs then
          afterBars signal asOfMs fundingEvents (some entry) lastBar
        else if signal.stopHit bar ∨ signal.targetHit bar then do
          let funding ← fundingCashflow signal entry.price
            (settlements fundingEvents entry.enteredAtMs bar.closeTimeMs)
          hitOutcome signal entry bar funding
        else resolveFrom (some entry) (some bar) bars

/-- `resolve_signal`, with an explicit holding limit. -/
def resolveSignal (childBars : List Bar) : Except RunFault TradeOutcome :=
  resolveFrom signal maxHoldingMinutes asOfMs fundingEvents none none childBars

end QuantAgent.Backtest
