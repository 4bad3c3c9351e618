/-
This file embeds the event-driven backtest: a loop over the minute bars that carries the pending
signals, at most one open trade and a bounded history of the longer intervals, and that asks the
strategy for new signals at the close of each decision bar.

A run logs the bars that arrive, what it asks the strategy, the signals that it admits and the
outcomes that it records.
-/

import QuantAgent.Backtest.Derivatives
import QuantAgent.Backtest.Resolver
import QuantAgent.Library.Dict
import QuantAgent.Library.Traced

namespace QuantAgent.Backtest

/-! ### The strategy and what a run logs -/

structure InvalidationArguments where
  signal : Signal
  candles4h : List Bar
  candles1h : List Bar
  candles15m : List Bar
  nowMs : ℤ
  deriving DecidableEq

structure ScanArguments where
  candles4h : List Bar
  candles1h : List Bar
  candles15m : List Bar
  derivatives : Option Snapshot
  nowMs : ℤ
  includeOrderBook : Bool
  deriving DecidableEq

/-- Any strategy, with what it remembers between its calls. -/
structure QuantEngine (Memory : Type) where
  scan : Memory → ScanArguments → Except RunFault (Memory × Option Signal)
  invalidationReason : Memory → InvalidationArguments → Except RunFault (Memory × Option String)

/-- The part of `AppConfig` that the backtest reads. -/
structure AppConfig where
  data : DataConfig := {}
  enableOrderBookFactor : Bool := false
  cooldownMinutes : ℤ
  trendPullbackHoldingMinutes : ℤ := 720
  breakoutRetestHoldingMinutes : ℤ := 480

namespace AppConfig

def historyLimit (config : AppConfig) : Interval → ℕ
  | .m15 => config.data.historyLimit15m
  | .h1 => config.data.historyLimit1h
  | .h4 => config.data.historyLimit4h

def holdingMinutes (config : AppConfig) (signal : Signal) : ℤ :=
  match signal.setup with
  | .trendPullback => config.trendPullbackHoldingMinutes
  | .breakoutRetest => config.breakoutRetestHoldingMinutes

end AppConfig

inductive Event where
  | arrival (bar : Bar)
  | invalidation (arguments : InvalidationArguments)
  | scan (arguments : ScanArguments)
  | admission (signal : Signal)
  | replacement (signal : Signal)
  | outcome (outcome : TradeOutcome)
  deriving DecidableEq

structure OpenTrade where
  signal : Signal
  entry : Entry
  fundingPnlUsdt : ℚ := 0
  lastBar : Option Bar := none

/-- The variables of the loop. -/
structure State (Memory : Type) where
  memory : Memory
  history : Interval → List Bar := fun _ => []
  outcomes : List TradeOutcome := []
  pending : List Signal := []
  lastFingerprintMs : Dict ℤ := ∅
  openTrade : Option OpenTrade := none

/-- `del pending[signal_id]`. -/
def remove (signalId : String) (pending : List Signal) : List Signal :=
  pending.filter fun signal => signal.signalId ≠ signalId

/-- `pending[signal_id] = signal`, which keeps the place of the signal that it replaces. -/
def assign (signal : Signal) (pending : List Signal) : List Signal :=
  if ∃ other ∈ pending, other.signalId = signal.signalId then
    pending.map fun other => if other.signalId = signal.signalId then signal else other
  else pending ++ [signal]

structure EventDrivenBacktestEngine (Memory : Type) where
  engine : QuantEngine Memory
  config : AppConfig
  derivatives : Option HistoricalDerivativeStore := none
  fundingEvents : List FundingEvent := []

namespace EventDrivenBacktestEngine

variable {Memory : Type} (backtest : EventDrivenBacktestEngine Memory)

/-- `tuple(sorted(funding_events, key=lambda event: event.timestamp_ms))`. -/
def sortedFunding : List FundingEvent :=
  backtest.fundingEvents.insertionSort fun event later => event.timestampMs ≤ later.timestampMs

/-! ### The open trade -/

def accrue (trade : OpenTrade) (lower upper : ℤ) : Except RunFault ℚ :=
  backtest.sortedFunding.foldlM (fun funding event =>
    if lower < event.timestampMs ∧ event.timestampMs ≤ upper then do
      let share ← fundingCashflow trade.signal trade.entry.price [event]
      .ok (funding + share)
    else .ok funding) trade.fundingPnlUsdt

/-- `_update_open`, with the trade that it leaves. -/
def updateOpen (trade : OpenTrade) (bar : Bar) :
    Except RunFault (OpenTrade × Option TradeOutcome) :=
  if trade.entry.holdingDeadlineMs < bar.closeTimeMs then do
    let outcome ← completedOutcome trade.signal .timeout trade.entry.price
      (trade.lastBar.elim trade.entry.price fun last => last.close) trade.entry.enteredAtMs
      (trade.lastBar.elim trade.entry.enteredAtMs fun last => last.closeTimeMs)
      trade.fundingPnlUsdt
    .ok (trade, some outcome)
  else do
    let lower := trade.lastBar.elim trade.entry.enteredAtMs fun last => last.closeTimeMs
    let funding ← backtest.accrue trade lower bar.closeTimeMs
    let updated := { trade with
      fundingPnlUsdt := funding
      lastBar := some bar }
    if trade.signal.stopHit bar ∨ trade.signal.targetHit bar then do
      let outcome ← hitOutcome trade.signal trade.entry bar funding
      .ok (updated, some outcome)
    else .ok (updated, none)

def opened (signal : Signal) (bar : Bar) : OpenTrade where
  signal := signal
  entry := ⟨signal.entryPrice, bar.openTimeMs,
    bar.openTimeMs + backtest.config.holdingMinutes signal * 60000⟩

/-! ### One bar -/

/-- `outcomes.append(outcome)`. -/
def record (state : State Memory) (outcome : TradeOutcome) :
    Traced Event RunFault (State Memory) := do
  Traced.note (.outcome outcome)
  pure { state with outcomes := state.outcomes ++ [outcome] }

def advance (state : State Memory) (trade : OpenTrade) (bar : Bar) :
    Traced Event RunFault (State Memory) := do
  let (updated, outcome) ← Traced.lift (backtest.updateOpen trade bar)
  match outcome with
  | none => pure { state with openTrade := some updated }
  | some outcome => record { state with openTrade := none } outcome

def fillPending (bar : Bar) : List Signal → State Memory → Traced Event RunFault (State Memory)
  | [], state => pure state
  | signal :: signals, state =>
    if signal.expiresAtMs < bar.openTimeMs then do
      let state ← record { state with pending := remove signal.signalId state.pending }
        (unresolved signal.signalId .unfilled none)
      fillPending bar signals state
    else if bar.openTimeMs ≤ signal.dataTimestampMs then fillPending bar signals state
    else if signal.Touches bar then
      backtest.advance { state with pending := remove signal.signalId state.pending }
        (backtest.opened signal bar) bar
    else fillPending bar signals state

def settle (state : State Memory) (bar : Bar) : Traced Event RunFault (State Memory) :=
  match state.openTrade with
  | some trade => backtest.advance state trade bar
  | none => backtest.fillPending bar state.pending state

/-- `deque.append` with a maximal length. -/
def appendBounded (limit : ℕ) (bars : List Bar) (bar : Bar) : List Bar :=
  (bars ++ [bar]).drop (bars.length + 1 - limit)

def deliver (completed : Interval → ℤ → Option Bar) (state : State Memory) (bar : Bar) :
    State Memory :=
  { state with history := fun interval =>
      match completed interval bar.closeTimeMs with
      | none => state.history interval
      | some closed => appendBounded (backtest.config.historyLimit interval)
          (state.history interval) closed }

/-- The pending signals are checked again at a decision bar. -/
def revalidate (nowMs : ℤ) : List Signal → State Memory → Traced Event RunFault (State Memory)
  | [], state => pure state
  | signal :: signals, state => do
    let arguments : InvalidationArguments :=
      ⟨signal, state.history .h4, state.history .h1, state.history .m15, nowMs⟩
    Traced.note (.invalidation arguments)
    let (memory, reason) ←
      Traced.lift (backtest.engine.invalidationReason state.memory arguments)
    match reason with
    | none => revalidate nowMs signals { state with memory := memory }
    | some reason => do
      let name := if reason = "TTL_EXPIRED" then .unfilled else .invalidated
      let state ← record { state with
        memory := memory
        pending := remove signal.signalId state.pending }
        (unresolved signal.signalId name (some nowMs))
      revalidate nowMs signals state

def admitSignal (state : State Memory) (signal : Signal) : Traced Event RunFault (State Memory) :=
  let cutoff := signal.createdAtMs - backtest.config.cooldownMinutes * 60000
  if ∃ previous ∈ state.lastFingerprintMs.lookup signal.fingerprint, cutoff ≤ previous then
    pure state
  else do
    match state.pending.find? fun other => other.signalId = signal.signalId with
    | none => pure ()
    | some other => Traced.note (.replacement other)
    Traced.note (.admission signal)
    pure { state with
      lastFingerprintMs := state.lastFingerprintMs.insert signal.fingerprint signal.createdAtMs
      pending := assign signal state.pending }

/-- The strategy is asked for a signal at a decision bar without an open trade. -/
def scan (nowMs : ℤ) (state : State Memory) : Traced Event RunFault (State Memory) := do
  let arguments : ScanArguments :=
    { candles4h := state.history .h4
      candles1h := state.history .h1
      candles15m := state.history .m15
      derivatives := derivativesAt backtest.derivatives nowMs backtest.config.data
        backtest.config.enableOrderBookFactor
      nowMs := nowMs
      includeOrderBook := backtest.config.enableOrderBookFactor }
  Traced.note (.scan arguments)
  let (memory, found) ← Traced.lift (backtest.engine.scan state.memory arguments)
  match found with
  | none => pure { state with memory := memory }
  | some signal => backtest.admitSignal { state with memory := memory } signal

/-- What happens at a decision bar. -/
def decision (nowMs : ℤ) (state : State Memory) : Traced Event RunFault (State Memory) := do
  let state ← backtest.revalidate nowMs state.pending state
  match state.openTrade with
  | some _ => pure state
  | none => backtest.scan nowMs state

/-- One turn of the loop. -/
def step (completed : Interval → ℤ → Option Bar) (state : State Memory) (bar : Bar) :
    Traced Event RunFault (State Memory) := do
  Traced.note (.arrival bar)
  let settled ← backtest.settle state bar
  let state := backtest.deliver completed settled bar
  match completed .m15 bar.closeTimeMs with
  | none => pure state
  | some _ => backtest.decision (bar.closeTimeMs + 1) state

/-! ### A run -/

def openAtEnd (trade : OpenTrade) : TradeOutcome :=
  { unresolved trade.signal.signalId .openAtEnd none with
    entryPrice := some trade.entry.price
    enteredAtMs := some trade.entry.enteredAtMs }

def leftOver (state : State Memory) : List TradeOutcome :=
  (state.openTrade.map openAtEnd).toList ++
    state.pending.map fun signal => unresolved signal.signalId .pending none

/-- `run`, from what the strategy remembers. -/
def run (memory : Memory) (oneMinute : List Bar) :
    Traced Event RunFault (List TradeOutcome) := do
  if validateCandles oneMinute = [] then
    let completed := fun interval => byClose (resampleMinutes oneMinute interval)
    let state ← oneMinute.foldlM (backtest.step completed) { memory := memory }
    let final ← (leftOver state).foldlM record state
    pure final.outcomes
  else Traced.fail (.invalidData (validateCandles oneMinute))

end EventDrivenBacktestEngine

end QuantAgent.Backtest
