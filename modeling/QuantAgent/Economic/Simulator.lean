/-
This file embeds the event loop of the economic simulator: the fills it applies and queues, the
signals it admits, the standing conditionals it triggers, the funding it settles, bar by bar.

The local variables of `simulate` are the fields of one state. A program of this file also
keeps a log of the moments at which the loop touches the ledger or looks at its queue; nothing
it computes reads the log. The summary over the finished ledger is left out.
-/

import QuantAgent.Economic.ExecutionModel
import QuantAgent.Library.DueQueue
import QuantAgent.Library.Traced

namespace QuantAgent.Economic

/-! ### State -/

/-- An exchange funding settlement event at a point in time. -/
structure FundingSettlement where
  timestampMs : Int
  fundingRate : ℚ
  markPrice : ℚ
  deriving DecidableEq

/-- The size up to which a position counts as none. -/
def dust : ℚ := 1 / 1000000000000

/-- `FundingModel.calculate_cashflow`. -/
def calculateCashflow (positionQuantity markPrice fundingRate : ℚ) : ℚ :=
  if |positionQuantity| < dust then 0
  else -1 * positionQuantity * markPrice * fundingRate

/-- A fill that has been computed and waits for its time. -/
structure PendingFill where
  fillTimestampMs : Int
  action : TradeAction
  asset : String
  price : ℚ
  quantity : ℚ
  feeUsdt : ℚ
  signalId : String
  tradeId : String
  observationTimestampMs : Int
  decisionTimestampMs : Int
  orderTimestampMs : Int
  settlementTimestampMs : Int
  reservationNotional : ℚ
  metadata : Metadata
  deriving DecidableEq

/-- The arguments `_apply_fill` passes to `apply_trade`. -/
def PendingFill.tradeRequest (fill : PendingFill) (symbol : String) : TradeRequest where
  timestampMs := fill.fillTimestampMs
  action := fill.action
  asset := symbol
  price := fill.price
  quantity := fill.quantity
  feeUsdt := fill.feeUsdt
  signalId := fill.signalId
  tradeId := fill.tradeId
  observationTimestampMs := some fill.observationTimestampMs
  decisionTimestampMs := some fill.decisionTimestampMs
  orderTimestampMs := some fill.orderTimestampMs
  settlementTimestampMs := some fill.settlementTimestampMs
  metadata := fill.metadata

def ExecutionResult.pendingFill (result : ExecutionResult) (action : TradeAction)
    (asset signalId tradeId : String) (reservationNotional : ℚ) (metadata : Metadata) :
    PendingFill where
  fillTimestampMs := result.fillTimestampMs
  action := action
  asset := asset
  price := result.fillPrice
  quantity := result.filledQuantity
  feeUsdt := result.feeUsdt
  signalId := signalId
  tradeId := tradeId
  observationTimestampMs := result.observationTimestampMs
  decisionTimestampMs := result.decisionTimestampMs
  orderTimestampMs := result.orderTimestampMs
  settlementTimestampMs := result.settlementTimestampMs
  reservationNotional := reservationNotional
  metadata := metadata

/-- What escapes from `simulate`: an exception of the ledger, one of the other checks, or one of
the rejections the engine raises itself. -/
inductive EngineError where
  | portfolio (message : String)
  | valueError (message : String)
  | causalLiquidityRejection (message : String)
  | ambiguousEntryRejection (message : String)
  | ambiguousExitRejection (message : String)
  deriving DecidableEq

/-- What a run notes: ledger steps, the queue at a check, and whether an entry order fills. -/
inductive EngineNote where
  | trade (portfolio : Portfolio) (fill : PendingFill) (symbol : String)
      (waiting : List PendingFill)
  | funding (portfolio : Portfolio) (symbol : String) (event : FundingSettlement)
  | exitCheck (waiting : List PendingFill)
  | trailingCheck (closeTimeMs : Int) (waiting : List PendingFill)
  | admission (waiting : List PendingFill)
  | entry (portfolio : Portfolio) (bar : Candle) (isFilled : Bool)

abbrev Run := Traced EngineNote EngineError

/-- The local variables of `simulate`; signals and funding are those not yet processed. -/
structure EngineState where
  portfolio : Portfolio
  pendingFills : List PendingFill := []
  activeTradeEntryTime : Option Int := none
  activeTradeEntryPrice : Option ℚ := none
  activeTradePeakPrice : Option ℚ := none
  activeTradeTroughPrice : Option ℚ := none
  activeTrailingArmedTime : Option Int := none
  activeSignalId : String := ""
  peakEquity : ℚ
  maxDdUsdt : ℚ := 0
  maxDdPct : ℚ := 0
  drawdownHalt : Bool := false
  signals : List InformationSignal := []
  funding : List FundingSettlement := []
  deriving DecidableEq

theorem default_cash : (0 : ℚ) < 100000 := by decide +kernel

structure EconomicSimulationEngine where
  policy : TradePolicy := {}
  executionModel : ExecutionModel := {}
  initialCash : ℚ := 100000
  cashPositive : 0 < initialCash := by first | exact Economic.default_cash | decide +kernel

/-- A check of a component other than the ledger. -/
def checked {Value : Type} (outcome : Except String Value) : Run Value :=
  Traced.lift (outcome.mapError .valueError)

def ledgerStep {Value : Type} (outcome : Except String Value) : Run Value :=
  Traced.lift (outcome.mapError .portfolio)

namespace EngineState

def quantity (state : EngineState) (symbol : String) : ℚ :=
  state.portfolio.getPositionQuantity symbol

def activate (state : EngineState) (fill : PendingFill) : EngineState :=
  { state with
    activeTradeEntryTime := some fill.fillTimestampMs
    activeTradeEntryPrice := some fill.price
    activeTradePeakPrice := some fill.price
    activeTradeTroughPrice := some fill.price
    activeTrailingArmedTime := some fill.fillTimestampMs
    activeSignalId := fill.signalId }

/-- The active trade variables after a closing fill. -/
def deactivate (state : EngineState) : EngineState :=
  { state with
    activeTradeEntryTime := none
    activeTradeEntryPrice := none
    activeTradePeakPrice := none
    activeTradeTroughPrice := none
    activeTrailingArmedTime := none
    activeSignalId := "" }

def updateDrawdown (state : EngineState) (engine : EconomicSimulationEngine)
    (currentEquity : ℚ) : EngineState :=
  let peakEquity := max state.peakEquity currentEquity
  let ddUsdt := peakEquity - currentEquity
  let ddPct := if 0 < peakEquity then ddUsdt / peakEquity else 0
  let maxDdPct := max state.maxDdPct ddPct
  { state with
    peakEquity := peakEquity
    maxDdUsdt := max state.maxDdUsdt ddUsdt
    maxDdPct := maxDdPct
    drawdownHalt :=
      state.drawdownHalt || engine.policy.riskBudget.maxDrawdownStopPct ≤ maxDdPct }

def enqueue (state : EngineState) (fill : PendingFill) : EngineState :=
  { state with pendingFills := state.pendingFills ++ [fill] }

end EngineState

def hasPendingExit (pendingFills : List PendingFill) (symbol : String) : Bool :=
  pendingFills.any fun fill => fill.action.closing && fill.asset = symbol

/-- `price or fallback`, for an optional price. -/
def priceOr (price : Option ℚ) (fallback : ℚ) : ℚ :=
  match price with
  | some value => if value = 0 then fallback else value
  | none => fallback

/-- `time or fallback`, for an optional time. -/
def timeOr (time : Option Int) (fallback : Int) : Int :=
  match time with
  | some value => if value = 0 then fallback else value
  | none => fallback

/-! ### Fills and funding -/

section Engine

variable (engine : EconomicSimulationEngine)

/-- `_apply_fill`. The fills that still wait go into the log. -/
def applyFill (fill : PendingFill) (symbol : String) (others : List PendingFill)
    (state : EngineState) : Run EngineState := do
  Traced.note (.trade state.portfolio fill symbol (state.pendingFills ++ others))
  let portfolio ← ledgerStep (state.portfolio.applyTrade (fill.tradeRequest symbol))
  let state := { state with portfolio := portfolio }
  let state := if fill.action.opening then state.activate fill else state.deactivate
  let equity ← checked (portfolio.totalEquity symbol fill.price)
  return state.updateDrawdown engine equity

def scheduleFill (fill : PendingFill) (symbol : String) (now : Int) (state : EngineState) :
    Run EngineState :=
  if fill.fillTimestampMs ≤ now then applyFill engine fill symbol [] state
  else pure (state.enqueue fill)

/-- Apply the due fills of a sorted queue in turn; the others stay. -/
def applyDue (due : Int → Bool) (symbol : String) :
    List PendingFill → EngineState → Run EngineState
  | [], state => pure state
  | fill :: rest, state =>
    if due fill.fillTimestampMs then do
      let state ← applyFill engine fill symbol rest state
      applyDue due symbol rest state
    else applyDue due symbol rest (state.enqueue fill)

/-- `pending_fills.sort(...)` and the loop over it. -/
def processPending (due : Int → Bool) (symbol : String) (state : EngineState) :
    Run EngineState :=
  applyDue engine due symbol
    (DueQueue.sortByDue PendingFill.fillTimestampMs state.pendingFills)
    { state with pendingFills := [] }

def settleOne (symbol : String) (tracked : Bool) (event : FundingSettlement)
    (state : EngineState) : Run EngineState :=
  let posQty := state.quantity symbol
  if dust < |posQty| then do
    let cashflow := calculateCashflow posQty event.markPrice event.fundingRate
    Traced.note (.funding state.portfolio symbol event)
    let portfolio ← ledgerStep
      (state.portfolio.applyFunding event.timestampMs symbol cashflow event.markPrice)
    let state := { state with portfolio := portfolio }
    if tracked then do
      let equity ← checked (portfolio.totalEquity symbol event.markPrice)
      return state.updateDrawdown engine equity
    else return state
  else pure state

def settleDue (symbol : String) (due : Int → Bool) (tracked : Bool) :
    List FundingSettlement → EngineState → Run EngineState
  | [], state => pure state
  | event :: rest, state =>
    if due event.timestampMs then do
      let state ← settleOne engine symbol tracked event { state with funding := rest }
      settleDue symbol due tracked rest state
    else pure state

def settleFunding (symbol : String) (due : Int → Bool) (tracked : Bool) (state : EngineState) :
    Run EngineState :=
  settleDue engine symbol due tracked state.funding state

/-! ### Exits -/

def raiseOnCausalLiquidityRejection (result : ExecutionResult) : Run Unit :=
  if result.rejectionReason = some .causalLiquidityUnavailable ∨
      result.rejectionReason = some .causalLiquidityNotYetAvailable then
    Traced.fail (.causalLiquidityRejection
      ("SPREAD_AND_IMPACT requires causal current_spread_bps and " ++
        "timestamped liquidity available by fill, or a declared adverse scenario"))
  else pure ()

def exitAction (posQty : ℚ) : TradeAction := if 0 < posQty then .closeLong else .closeShort

/-- The side of the order that closes a position. -/
def exitSide (posQty : ℚ) : Side := if 0 < posQty then .sell else .buy

/-- An exit: the position to close and the names it is recorded under. -/
structure ExitOrder where
  posQty : ℚ
  tradeId : String
  signalId : String

def ExitOrder.fill (order : ExitOrder) (result : ExecutionResult) (symbol : String) :
    PendingFill :=
  result.pendingFill (exitAction order.posQty) symbol order.signalId order.tradeId 0
    result.metadata

/-- `_execute_exit`, with the bars from the one at hand on. -/
def executeExit (order : ExitOrder) (triggerTimestampMs : Int) (bar : Candle)
    (rest : List Candle) (currentSpreadBps : Option Reading) (state : EngineState) :
    Run EngineState := do
  let result ← checked (engine.executionModel.simulateOrder {
    signalTimestampMs := triggerTimestampMs
    side := exitSide order.posQty
    desiredQuantity := |order.posQty|
    orderType := .market
    currentSpreadBps := currentSpreadBps
    observationTimestampMs := some triggerTimestampMs } (bar :: rest))
  raiseOnCausalLiquidityRejection result
  if result.isFilled then
    scheduleFill engine (order.fill result bar.symbol) bar.symbol triggerTimestampMs state
  else pure state

def executeConditionalExit (order : ExitOrder)
    (armedTimestampMs triggerObservationTimestampMs : Int)
    (referencePrice : ℚ) (triggerTime : ConditionalTriggerTime) (bar : Candle)
    (state : EngineState) : Run EngineState := do
  let result ← checked (engine.executionModel.simulateConditionalMarketFill {
    armedTimestampMs := armedTimestampMs
    triggerObservationTimestampMs := triggerObservationTimestampMs
    side := exitSide order.posQty
    desiredQuantity := |order.posQty|
    referencePrice := referencePrice
    triggerTime := triggerTime } bar)
  if result.isFilled then
    scheduleFill engine (order.fill result bar.symbol) bar.symbol bar.openTimeMs state
  else pure state

/-! ### Entries -/

def InformationSignal.spreadBps (signal : InformationSignal) : Option Reading :=
  signal.metadata.spreadBps.map MetadataNumber.reading

def entryVolume (previous : Option Candle) (bar : Candle) (signal : InformationSignal) :
    Option Reading :=
  match signal.metadata.volumeUsdt, previous with
  | some volume, _ => some volume.reading
  | none, some prevBar =>
    if prevBar.closeTimeMs ≤ bar.openTimeMs then
      if 0 < prevBar.quoteVolume then some (.finite prevBar.quoteVolume)
      else if 0 < prevBar.volume then some (.finite (prevBar.volume * prevBar.close))
      else some (.finite 0)
    else none
  | none, none => none

def Direction.entrySide : Direction → Side
  | .up => .buy
  | _ => .sell

def Side.openAction : Side → TradeAction
  | .buy => .openLong
  | .sell => .openShort

def pendingOpenings (pendingFills : List PendingFill) : List PendingFill :=
  pendingFills.filter fun fill => fill.action.opening

def admitsPosition (portfolio : Portfolio) (pendingFills : List PendingFill) (symbol : String) :
    Bool :=
  (if dust < |portfolio.getPositionQuantity symbol| then 1 else 0) +
    (pendingOpenings pendingFills).length < engine.policy.riskBudget.maxOpenPositions

def entryPrices (bar : Candle) (signal : InformationSignal) :
    Except String (Option ℚ × Option ℚ) :=
  match engine.policy.entryRule.orderType with
  | .limit => do
    let limPrice ← engine.policy.entryRule.calculateLimitPrice bar.openPrice
      signal.direction.entrySide
    return (some limPrice, some limPrice)
  | .market => do
    let bound ← engine.executionModel.feeModel.worstCasePriceBound bar.openPrice signal.spreadBps
    return (none, bound)

def entryRequest (signal : InformationSignal) (qty : ℚ) (limPrice : Option ℚ) (orderGross : ℚ) :
    OrderRequest where
  signalTimestampMs := signal.timestampMs
  side := signal.direction.entrySide
  desiredQuantity := qty
  orderType := engine.policy.entryRule.orderType
  limitPrice := limPrice
  timeInForceMs := engine.policy.entryRule.timeInForceMs
  currentSpreadBps := signal.spreadBps
  observationTimestampMs := some signal.timestampMs
  maxFillNotional := some orderGross
  causalLiquidityVolumeBase := signal.metadata.liquidityVolumeBase.map MetadataNumber.reading
  causalLiquidityAvailableAtMs := signal.metadata.liquidityAvailableAtMs

/-- Size an admitted entry, price it ex ante and check the gross exposure: the order and the
notional reserved for it, or nothing. -/
def entryOrder (bar : Candle) (signal : InformationSignal) (atr : Option Reading)
    (portfolio : Portfolio) (pendingFills : List PendingFill) :
    Except String (Option (OrderRequest × ℚ)) := do
  let currentEq ← portfolio.totalEquity bar.symbol bar.close
  if signal.metadata.atr = some .unparsable then return none
  match engine.policy.calculateQuantity bar.openPrice currentEq atr with
  | .error _ => return none
  | .ok qty =>
    if qty ≤ 0 then return none
    let (limPrice, exAntePrice) ← entryPrices engine bar signal
    match exAntePrice with
    | none => return none
    | some price =>
      if price ≤ 0 then return none
      let orderGross := qty * price
      let activeGross := |portfolio.getPositionQuantity bar.symbol| * bar.openPrice
      let pendingGross :=
        ((pendingOpenings pendingFills).map PendingFill.reservationNotional).sum
      if engine.policy.riskBudget.maxGrossExposureUsdt <
          activeGross + pendingGross + orderGross then
        return none
      return some (entryRequest engine signal qty limPrice orderGross, orderGross)

/-- `metadata.get(key)` as it is printed. -/
def printed (metadata : Metadata) (key : String) : String :=
  match metadata.find? fun item => item.1 = key with
  | some (_, .integer value) => toString value
  | _ => "None"

def submitEntry (bar : Candle) (rest : List Candle) (signal : InformationSignal)
    (request : OrderRequest) (orderGross : ℚ) (state : EngineState) : Run EngineState := do
  let result ← checked (engine.executionModel.simulateOrder request (bar :: rest))
  raiseOnCausalLiquidityRejection result
  Traced.note (.entry state.portfolio bar result.isFilled)
  if result.rejectionReason = some .limitIntrabarTouchAmbiguous then
    Traced.fail (.ambiguousEntryRejection
      ("Ambiguous LIMIT entry touch ordering for " ++ bar.symbol ++ " bar [" ++
        printed result.metadata "ambiguity_window_open_ms" ++ ", " ++
        printed result.metadata "ambiguity_window_close_ms" ++
        "]; OHLC extrema cannot timestamp the fill"))
  else if result.isFilled then
    scheduleFill engine (result.pendingFill request.side.openAction bar.symbol signal.signalId
      ("ORD_" ++ signal.signalId) orderGross
      (result.metadata ++ [("reservation_notional", .number orderGross)]))
      bar.symbol bar.openTimeMs state
  else pure state

/-- The entry part of a signal: halt, risk budget, market state, size and exposure. -/
def considerEntry (previous : Option Candle) (bar : Candle) (rest : List Candle)
    (signal : InformationSignal) (state : EngineState) : Run EngineState :=
  if state.drawdownHalt then pure state
  else do
    Traced.note (.admission state.pendingFills)
    if ¬ admitsPosition engine state.portfolio state.pendingFills bar.symbol then pure state
    else if ¬ engine.policy.shouldEnter signal signal.spreadBps
        (entryVolume previous bar signal) signal.metadata.regime then pure state
    else do
      let atr := signal.metadata.atr.map MetadataNumber.reading
      match ← checked (entryOrder engine bar signal atr state.portfolio state.pendingFills) with
      | none => pure state
      | some (request, orderGross) =>
        submitEntry engine bar rest signal request orderGross state

/-- The reversal rule: a forecast against an open position. -/
def reverses (posQty : ℚ) (direction : Direction) : Bool :=
  engine.policy.exitRule.decayExitOnSignalReversal &&
    match direction with
    | .down => 0 < posQty
    | .up => posQty < 0
    | .neutral => false

def processSignal (previous : Option Candle) (bar : Candle) (rest : List Candle)
    (signal : InformationSignal) (state : EngineState) : Run EngineState :=
  let currPosQty := state.quantity bar.symbol
  if signal.asset ≠ bar.symbol then pure state
  else if dust < |currPosQty| then do
    Traced.note (.exitCheck state.pendingFills)
    if hasPendingExit state.pendingFills bar.symbol then
      considerEntry engine previous bar rest signal state
    else if reverses engine currPosQty signal.direction then
      executeExit engine ⟨currPosQty, "EXIT_REV_" ++ signal.signalId, signal.signalId⟩
        bar.openTimeMs bar rest signal.spreadBps state
    else pure state
  else considerEntry engine previous bar rest signal state

def processArrived (previous : Option Candle) (bar : Candle) (rest : List Candle) :
    List InformationSignal → EngineState → Run EngineState
  | [], state => pure state
  | signal :: others, state =>
    if signal.timestampMs ≤ bar.openTimeMs then do
      let state ← processSignal engine previous bar rest signal { state with signals := others }
      processArrived previous bar rest others state
    else pure state

def processSignals (previous : Option Candle) (bar : Candle) (rest : List Candle)
    (state : EngineState) : Run EngineState :=
  processArrived engine previous bar rest state.signals state

/-! ### Standing conditionals -/

/-- The open position together with its active entry price and time. -/
structure ManagedTrade where
  posQty : ℚ
  entryPrice : ℚ
  entryTime : Int

/-- The position above the dust size, when its active trade variables are set. -/
def EngineState.managedTrade (state : EngineState) (symbol : String) : Option ManagedTrade :=
  match state.activeTradeEntryPrice, state.activeTradeEntryTime with
  | some entryPrice, some entryTime =>
    if dust < |state.quantity symbol| then some ⟨state.quantity symbol, entryPrice, entryTime⟩
    else none
  | _, _ => none

namespace ManagedTrade

def isLong (trade : ManagedTrade) : Bool := 0 < trade.posQty

def stopLevel (trade : ManagedTrade) (pct : ℚ) : ℚ :=
  if trade.isLong then trade.entryPrice * (1 - pct) else trade.entryPrice * (1 + pct)

def targetLevel (trade : ManagedTrade) (pct : ℚ) : ℚ :=
  if trade.isLong then trade.entryPrice * (1 + pct) else trade.entryPrice * (1 - pct)

def trailingLevel (trade : ManagedTrade) (state : EngineState) (pct : ℚ) : ℚ :=
  if trade.isLong then priceOr state.activeTradePeakPrice trade.entryPrice * (1 - pct)
  else priceOr state.activeTradeTroughPrice trade.entryPrice * (1 + pct)

def adverse (trade : ManagedTrade) (price level : ℚ) : Bool :=
  if trade.isLong then price ≤ level else level ≤ price

def favourable (trade : ManagedTrade) (price level : ℚ) : Bool :=
  if trade.isLong then level ≤ price else price ≤ level

def worstPrice (trade : ManagedTrade) (bar : Candle) : ℚ :=
  if trade.isLong then bar.low else bar.high

def bestPrice (trade : ManagedTrade) (bar : Candle) : ℚ :=
  if trade.isLong then bar.high else bar.low

end ManagedTrade

/-- A conditional that was touched: its name, its level and when it was armed. -/
structure Trigger where
  reason : String
  level : ℚ
  armedTime : Int

def stopTrigger (trade : ManagedTrade) (price : ℚ) : Option Trigger := do
  let pct ← engine.policy.exitRule.stopLossPct
  if trade.adverse price (trade.stopLevel pct) then
    return ⟨"STOP_LOSS", trade.stopLevel pct, trade.entryTime⟩
  else none

def trailingTrigger (trade : ManagedTrade) (state : EngineState) (price : ℚ) : Option Trigger := do
  let pct ← engine.policy.exitRule.trailingStopPct
  if trade.adverse price (trade.trailingLevel state pct) then
    return ⟨"TRAILING_STOP", trade.trailingLevel state pct,
      timeOr state.activeTrailingArmedTime trade.entryTime⟩
  else none

def targetTrigger (trade : ManagedTrade) (price : ℚ) : Option Trigger := do
  let pct ← engine.policy.exitRule.takeProfitPct
  if trade.favourable price (trade.targetLevel pct) then
    return ⟨"TAKE_PROFIT", trade.targetLevel pct, trade.entryTime⟩
  else none

def gapTrigger (trade : ManagedTrade) (state : EngineState) (bar : Candle) : Option Trigger :=
  (stopTrigger engine trade bar.openPrice).orElse fun _ =>
    (trailingTrigger engine trade state bar.openPrice).orElse fun _ =>
      targetTrigger engine trade bar.openPrice

/-- `active_signal_id or time`. -/
def exitName (activeSignalId : String) (time : Int) : String :=
  if activeSignalId = "" then toString time else activeSignalId

/-- Gap conditionals use observable opening-price evidence. -/
def gapExits (bar : Candle) (state : EngineState) : Run EngineState :=
  match state.managedTrade bar.symbol with
  | none => pure state
  | some trade => do
    Traced.note (.exitCheck state.pendingFills)
    if hasPendingExit state.pendingFills bar.symbol then pure state
    else
      match gapTrigger engine trade state bar with
      | none => pure state
      | some trigger =>
        executeConditionalExit engine
          ⟨trade.posQty, "EXIT_GAP_" ++ trigger.reason ++ "_" ++
            exitName state.activeSignalId bar.openTimeMs, state.activeSignalId⟩
          trigger.armedTime bar.openTimeMs bar.openPrice .barOpenKnown bar state

def adverseTrigger (trade : ManagedTrade) (state : EngineState) (bar : Candle) : Option Trigger :=
  match stopTrigger engine trade (trade.worstPrice bar),
      trailingTrigger engine trade state (trade.worstPrice bar) with
  | some stop, some trailing =>
    if trade.isLong then some (if trailing.level < stop.level then trailing else stop)
    else some (if stop.level < trailing.level then trailing else stop)
  | some stop, none => some stop
  | none, trailing => trailing

def standingTrigger (trade : ManagedTrade) (state : EngineState) (bar : Candle) :
    Except EngineError (Option Trigger) :=
  match adverseTrigger engine trade state bar,
      targetTrigger engine trade (trade.bestPrice bar) with
  | some stop, none => .ok (some stop)
  | none, target => .ok target
  | some stop, some _ =>
    if engine.policy.exitRule.ambiguousExitHandling = .rejectAmbiguous then
      .error (.ambiguousExitRejection
        ("Ambiguous exit collision at bar close_time_ms=" ++ toString bar.closeTimeMs ++
          ": both an adverse stop and Take Profit triggered in the same candle for " ++
          bar.symbol))
    else .ok (some { stop with reason := stop.reason ++ "_COLLISION" })

def ambiguousFunding (posQty : ℚ) (bar : Candle) (funding : List FundingSettlement) :
    Option FundingSettlement :=
  funding.find? fun event =>
    bar.openTimeMs < event.timestampMs && event.timestampMs ≤ bar.closeTimeMs &&
      calculateCashflow posQty event.markPrice event.fundingRate ≠ 0

def executeStanding (trade : ManagedTrade) (trigger : Trigger) (bar : Candle)
    (state : EngineState) : Run EngineState :=
  match ambiguousFunding trade.posQty bar state.funding with
  | some event =>
    Traced.fail (.ambiguousExitRejection
      ("Ambiguous trigger/funding ordering for standing exit in " ++ bar.symbol ++ " bar [" ++
        toString bar.openTimeMs ++ ", " ++ toString bar.closeTimeMs ++ "] with funding at " ++
        toString event.timestampMs))
  | none =>
    executeConditionalExit engine
      ⟨trade.posQty, "EXIT_" ++ trigger.reason ++ "_" ++
        exitName state.activeSignalId bar.closeTimeMs, state.activeSignalId⟩
      trigger.armedTime bar.closeTimeMs trigger.level .intrabarUnknown bar state

/-- Detect standing-order touches from the full bar; the flag says whether there was one. -/
def standingExits (bar : Candle) (state : EngineState) : Run (EngineState × Bool) :=
  match state.managedTrade bar.symbol with
  | none => pure (state, false)
  | some trade =>
    if trade.entryTime ≤ bar.openTimeMs then do
      Traced.note (.exitCheck state.pendingFills)
      if hasPendingExit state.pendingFills bar.symbol then pure (state, false)
      else
        match ← Traced.lift (standingTrigger engine trade state bar) with
        | none => pure (state, false)
        | some trigger => do
          let state ← executeStanding engine trade trigger bar state
          return (state, true)
    else pure (state, false)

/-! ### The close of a bar -/

def EngineState.trail (state : EngineState) (trade : ManagedTrade) (bar : Candle) : EngineState :=
  { state with
    activeTradePeakPrice :=
      some (max (priceOr state.activeTradePeakPrice trade.entryPrice) bar.high)
    activeTradeTroughPrice :=
      some (min (priceOr state.activeTradeTroughPrice trade.entryPrice) bar.low)
    activeTrailingArmedTime := some bar.closeTimeMs }

/-- Extend the trailing extremes of a trade that the whole bar has passed over. -/
def updateTrailing (bar : Candle) (standingTriggered : Bool) (state : EngineState) :
    Run EngineState :=
  if standingTriggered then pure state
  else
    match state.managedTrade bar.symbol with
    | none => pure state
    | some trade =>
      if trade.entryTime ≤ bar.openTimeMs then do
        Traced.note (.trailingCheck bar.closeTimeMs state.pendingFills)
        if hasPendingExit state.pendingFills bar.symbol then pure state
        else pure (state.trail trade bar)
      else pure state

def closeExpiry (bar : Candle) (rest : List Candle) (trade : ManagedTrade) (state : EngineState) :
    Run EngineState :=
  if engine.policy.exitRule.maxHoldingMs ≤ bar.closeTimeMs - trade.entryTime then
    executeExit engine
      ⟨trade.posQty, "EXIT_MAX_HOLDING_" ++ exitName state.activeSignalId bar.closeTimeMs,
        state.activeSignalId⟩
      bar.closeTimeMs bar rest none state
  else pure state

/-- The max-holding exit and the trailing extremes. -/
def closeTimeExits (bar : Candle) (rest : List Candle) (standingTriggered : Bool)
    (state : EngineState) : Run EngineState :=
  match state.managedTrade bar.symbol with
  | none => pure state
  | some trade => do
    Traced.note (.exitCheck state.pendingFills)
    if hasPendingExit state.pendingFills bar.symbol then pure state
    else do
      let state ← closeExpiry engine bar rest trade state
      updateTrailing bar standingTriggered state

def markToMarket (bar : Candle) (state : EngineState) : Run EngineState := do
  let currEquity ← checked (state.portfolio.totalEquity bar.symbol bar.close)
  return state.updateDrawdown engine currEquity

/-! ### The loop -/

def openPhase (previous : Option Candle) (bar : Candle) (rest : List Candle)
    (state : EngineState) : Run EngineState := do
  let state ← settleFunding engine bar.symbol (fun time => time ≤ bar.openTimeMs) true state
  let state ← processPending engine (fun time => time ≤ bar.openTimeMs) bar.symbol state
  let state ← processSignals engine previous bar rest state
  gapExits engine bar state

def intrabarPhase (bar : Candle) (state : EngineState) : Run EngineState := do
  let state ← settleFunding engine bar.symbol (fun time => time < bar.closeTimeMs) true state
  processPending engine (fun time => time < bar.closeTimeMs) bar.symbol state

def closePhase (bar : Candle) (rest : List Candle) (standingTriggered : Bool)
    (state : EngineState) : Run EngineState := do
  let state ← settleFunding engine bar.symbol (fun time => time = bar.closeTimeMs) false state
  let state ← closeTimeExits engine bar rest standingTriggered state
  let state ← processPending engine (fun time => time = bar.closeTimeMs) bar.symbol state
  markToMarket engine bar state

/-- One round of the loop. -/
def processBar (previous : Option Candle) (bar : Candle) (rest : List Candle)
    (state : EngineState) : Run EngineState := do
  let state ← openPhase engine previous bar rest state
  let (state, standingTriggered) ← standingExits engine bar state
  let state ← intrabarPhase engine bar state
  closePhase engine bar rest standingTriggered state

def runBars : Option Candle → List Candle → EngineState → Run EngineState
  | _, [], state => pure state
  | previous, bar :: rest, state => do
    let state ← processBar engine previous bar rest state
    runBars (some bar) rest state

def initialState (signals : List InformationSignal) (funding : List FundingSettlement) :
    EngineState where
  portfolio := { cash := engine.initialCash }
  peakEquity := engine.initialCash
  signals := DueQueue.sortByDue InformationSignal.timestampMs signals
  funding := DueQueue.sortByDue FundingSettlement.timestampMs funding

/-- `EconomicSimulationEngine.simulate`, up to the summary. -/
def simulate (candles : List Candle) (signals : List InformationSignal)
    (funding : List FundingSettlement) : Run EngineState :=
  runBars engine none candles (initialState engine signals funding)

def runFirst : ℕ → Option Candle → List Candle → EngineState → Run EngineState
  | count + 1, previous, bar :: rest, state => do
    let state ← processBar engine previous bar rest state
    runFirst count (some bar) rest state
  | _, _, _, state => pure state

end Engine

/-! ### Sample inputs -/

/-- A bar at one price, from which it dips. -/
def sampleBar (start : Int) (price low : ℚ) : Candle where
  symbol := "BTCUSDT"
  interval := "1m"
  openTimeMs := start
  closeTimeMs := start + 9
  openPrice := price
  high := price
  low := min low price
  close := price
  volume := 1
  closeAfterOpen := by omega
  lowBound := by
    rw [min_self]
    exact min_le_right low price
  highBound := by rw [max_self]

def sampleSignal (time : Int) (direction : Direction) (positive : 0 < time := by decide) :
    InformationSignal where
  signalId := "S"
  timestampMs := time
  asset := "BTCUSDT"
  direction := direction
  timePositive := positive

end QuantAgent.Economic
