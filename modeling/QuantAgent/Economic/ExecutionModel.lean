/-
This file embeds the execution model of the simulator: what happens to an order, given the
bars from the one at hand on, and to a standing conditional, given its trigger bar.

The simulator passes no quote of an opening for an order, and no spread for a conditional. An order
type or a side outside the two there are cannot be built, so the rejections for them are left out.
-/

import QuantAgent.Economic.Policy

namespace QuantAgent.Economic

/-! ### Results -/

inductive RejectionReason where
  | invalidQuantity
  | noMarketData
  | marketDataExhausted
  | insufficientLiquidity
  | causalLiquidityUnavailable
  | causalLiquidityNotYetAvailable
  | invalidLimitPrice
  | limitExpiredUnfilled
  | marketableLimitLiquidityInsufficient
  | limitIntrabarTouchAmbiguous
  deriving DecidableEq

/-- Disaggregated execution outcome. -/
structure ExecutionResult where
  signalTimestampMs : Int
  orderTimestampMs : Int
  fillTimestampMs : Int
  fillPrice : ℚ
  filledQuantity : ℚ
  isFilled : Bool
  side : Side
  observationTimestampMs : Int
  decisionTimestampMs : Int
  settlementTimestampMs : Int
  isMaker : Bool := false
  feeUsdt : ℚ := 0
  slippageUsdt : ℚ := 0
  rejectionReason : Option RejectionReason := none
  metadata : Metadata := []

namespace ExecutionResult

/-- `ExecutionResult.__post_init__`. -/
def validate (result : ExecutionResult) : Except String ExecutionResult := do
  let obs := result.observationTimestampMs
  let dec := result.decisionTimestampMs
  let order := result.orderTimestampMs
  let fill := result.fillTimestampMs
  let settle := result.settlementTimestampMs
  refuse (¬ (obs ≤ dec ∧ dec ≤ order))
    s!"Timestamp ordering violation: observation ({obs}) <= decision ({dec}) <= order ({order})"
  refuse (result.isFilled = true ∧ ¬ (order ≤ fill ∧ fill ≤ settle))
    s!"Timestamp ordering violation: order ({order}) <= fill ({fill}) <= settlement ({settle})"
  refuse (result.isFilled = true ∧ result.fillPrice ≤ 0)
    s!"fill_price must be positive; got {result.fillPrice}"
  refuse (result.isFilled = true ∧ result.filledQuantity ≤ 0)
    s!"filled_quantity must be positive; got {result.filledQuantity}"
  refuse (result.isFilled = false ∧ fill < order)
    s!"fill_timestamp_ms ({fill}) cannot be before order_timestamp_ms ({order})"
  return result

theorem validate_ok {candidate result : ExecutionResult} (done : candidate.validate = .ok result) :
    candidate = result ∧
      result.observationTimestampMs ≤ result.decisionTimestampMs ∧
      result.decisionTimestampMs ≤ result.orderTimestampMs ∧
      (result.isFilled = true →
        result.orderTimestampMs ≤ result.fillTimestampMs ∧
        0 < result.fillPrice ∧ 0 < result.filledQuantity) := by
  simp only [validate, refuse_bind_eq_ok, pure_eq_ok] at done
  obtain ⟨stamps, filled, price, quantity, -, rfl⟩ := done
  obtain ⟨decided, submitted⟩ := not_not.mp stamps
  refine ⟨rfl, decided, submitted, fun isFilled => ⟨?_, ?_, ?_⟩⟩
  · exact (not_not.mp fun unordered => filled ⟨isFilled, unordered⟩).1
  · exact not_le.mp fun nonpositive => price ⟨isFilled, nonpositive⟩
  · exact not_le.mp fun nonpositive => quantity ⟨isFilled, nonpositive⟩

end ExecutionResult

/-! ### The model and its orders -/

/-- Execution simulator modeling decision latency, exchange delays, slippage and queueing. -/
structure ExecutionModel where
  feeModel : FeeModel := {}
  decisionLatencyMs : Int := 500
  exchangeLatencyMs : Int := 150
  limitFillProbOnTouch : ℚ := 2 / 10
  orderSubmissionLatencyMs : ℕ := 0

/-- The arguments of `simulate_order`. -/
structure OrderRequest where
  signalTimestampMs : Int
  side : Side
  desiredQuantity : ℚ
  orderType : OrderType
  limitPrice : Option ℚ := none
  timeInForceMs : Int := 60000
  currentSpreadBps : Option Reading := none
  observationTimestampMs : Option Int := none
  maxFillNotional : Option ℚ := none
  causalLiquidityVolumeBase : Option Reading := none
  causalLiquidityAvailableAtMs : Option Int := none
  observableOpenExecutablePrice : Option Reading := none
  observableOpenExecutableTimestampMs : Option Int := none

/-- The moments of an order. -/
structure Timeline where
  obsTs : Int
  decTs : Int
  orderTimestampMs : Int
  earliestFillMs : Int
  expirationMs : Int

/-- Liquidity that carries the moment it became available. -/
structure CausalLiquidity where
  volumeBase : ℚ
  availableAtMs : Int

inductive LiquidityEvidence where
  | notUsed
  | notRequiredZeroImpact
  | futureLiquidityRejected
  | completedAtFill
  | declaredMaxSlippageScenario
  | missing
  | timestampedCausalLiquidity
  deriving DecidableEq

def LiquidityEvidence.text : LiquidityEvidence → String
  | .notUsed => "NOT_USED"
  | .notRequiredZeroImpact => "NOT_REQUIRED_ZERO_IMPACT"
  | .futureLiquidityRejected => "FUTURE_LIQUIDITY_REJECTED"
  | .completedAtFill => "COMPLETED_AT_FILL"
  | .declaredMaxSlippageScenario => "DECLARED_MAX_SLIPPAGE_SCENARIO"
  | .missing => "MISSING"
  | .timestampedCausalLiquidity => "TIMESTAMPED_CAUSAL_LIQUIDITY"

/-- What `_taker_fill_price` answers. -/
inductive TakerPrice where
  | priced (price : ℚ) (evidence : LiquidityEvidence)
  | refused (evidence : LiquidityEvidence) (reason : RejectionReason)

def MetadataValue.ofOption : Option ℚ → MetadataValue
  | some value => .number value
  | none => .null

/-- The only trigger-time claims supported by the OHLC execution contract. -/
inductive ConditionalTriggerTime where
  | barOpenKnown
  | intrabarUnknown
  deriving DecidableEq

def ConditionalTriggerTime.text : ConditionalTriggerTime → String
  | .barOpenKnown => "BAR_OPEN_KNOWN"
  | .intrabarUnknown => "INTRABAR_UNKNOWN"

/-- The arguments of `simulate_conditional_market_fill`. -/
structure ConditionalRequest where
  armedTimestampMs : Int
  triggerObservationTimestampMs : Int
  side : Side
  desiredQuantity : ℚ
  referencePrice : ℚ
  triggerTime : ConditionalTriggerTime
  currentSpreadBps : Option Reading := none

namespace OrderRequest

def causalLiquidity (request : OrderRequest) : Option CausalLiquidity :=
  match request.causalLiquidityVolumeBase, request.causalLiquidityAvailableAtMs with
  | some (.finite volume), some availableAt => some ⟨volume, availableAt⟩
  | _, _ => none

/-- The price of an opening, and where it comes from: a quote of that moment, or the bar. -/
def openingPrice (request : OrderRequest) (bar : Candle) : ℚ × String :=
  match request.observableOpenExecutablePrice, request.observableOpenExecutableTimestampMs with
  | some (.finite price), some timestampMs =>
    if timestampMs = bar.openTimeMs then (price, "TIMESTAMPED_EXECUTABLE_QUOTE")
    else (bar.openPrice, "OHLC_OPEN")
  | _, _ => (bar.openPrice, "OHLC_OPEN")

end OrderRequest

def ConditionalRequest.check (request : ConditionalRequest) (triggerBar : Candle) :
    Except String Unit := do
  refuse (request.armedTimestampMs ≤ 0) "armed_timestamp_ms must be a positive integer"
  refuse (request.triggerObservationTimestampMs ≤ 0)
    "trigger_observation_timestamp_ms must be a positive integer"
  refuse (triggerBar.openTimeMs < request.armedTimestampMs)
    "standing conditional must be armed no later than trigger bar open"
  refuse (request.referencePrice ≤ 0) "reference_price must be finite and positive"
  refuse (∃ spread ∈ request.currentSpreadBps, spread.invalid)
    "current_spread_bps must be finite and nonnegative when provided"
  refuse (request.triggerTime = .barOpenKnown ∧
      request.triggerObservationTimestampMs ≠ triggerBar.openTimeMs)
    "BAR_OPEN_KNOWN trigger must be observed at bar open"
  refuse (request.triggerTime = .barOpenKnown ∧
      1 / 1000000000000 < |request.referencePrice - triggerBar.openPrice|)
    "BAR_OPEN_KNOWN trigger must use the actual bar open"
  refuse (request.triggerTime = .intrabarUnknown ∧
      request.triggerObservationTimestampMs ≠ triggerBar.closeTimeMs)
    "INTRABAR_UNKNOWN trigger must be observed at bar close"

theorem ConditionalRequest.check_eq_ok {request : ConditionalRequest} {triggerBar : Candle}
    (checked : request.check triggerBar = .ok ()) :
    0 < request.armedTimestampMs ∧ 0 < request.referencePrice ∧
      (request.triggerTime = .barOpenKnown →
        request.triggerObservationTimestampMs = triggerBar.openTimeMs) ∧
      (request.triggerTime = .intrabarUnknown →
        request.triggerObservationTimestampMs = triggerBar.closeTimeMs) := by
  simp only [check, refuse_bind_eq_ok, refuse_eq_ok] at checked
  obtain ⟨armed, -, -, positive, -, atOpen, -, atClose⟩ := checked
  exact ⟨not_le.mp armed, not_le.mp positive,
    fun trigger => not_not.mp fun differs => atOpen ⟨trigger, differs⟩,
    fun trigger => not_not.mp fun differs => atClose ⟨trigger, differs⟩⟩

namespace ExecutionModel

variable (model : ExecutionModel)

def timeline (request : OrderRequest) : Timeline :=
  let decTs := request.signalTimestampMs + model.decisionLatencyMs
  let orderTimestampMs := decTs + model.orderSubmissionLatencyMs
  { obsTs := request.observationTimestampMs.getD request.signalTimestampMs
    decTs := decTs
    orderTimestampMs := orderTimestampMs
    earliestFillMs := orderTimestampMs + model.exchangeLatencyMs
    expirationMs := orderTimestampMs + request.timeInForceMs }

def takerFillPrice (referencePrice quantity : ℚ) (side : Side) (fillTimestampMs : Int)
    (currentSpreadBps : Option Reading) (liquidity : Option CausalLiquidity)
    (completedVolumeBase : Option ℚ) : Except String TakerPrice :=
  let fees := model.feeModel
  let price := fees.effectiveFillPrice referencePrice quantity side false
  if fees.slippageMode ≠ .spreadAndImpact then do
    return .priced (← price currentSpreadBps 0) .notUsed
  else if fees.impactCoefficient = 0 then do
    return .priced (← price currentSpreadBps 0) .notRequiredZeroImpact
  else
    match liquidity, completedVolumeBase, fees.maxSlippageBps with
    | some offered, _, _ =>
      if fillTimestampMs < offered.availableAtMs then
        .ok (.refused .futureLiquidityRejected .causalLiquidityNotYetAvailable)
      else do
        return .priced (← price currentSpreadBps offered.volumeBase) .timestampedCausalLiquidity
    | none, some volume, _ =>
      if volume ≤ 0 then .ok (.refused .completedAtFill .insufficientLiquidity)
      else do
        return .priced (← price currentSpreadBps volume) .completedAtFill
    | none, none, some _ => do
      return .priced (← price none 0) .declaredMaxSlippageScenario
    | none, none, none => .ok (.refused .missing .causalLiquidityUnavailable)

def liquidityCostMetadata (evidence : LiquidityEvidence) (liquidity : Option CausalLiquidity)
    (completedVolumeBase : Option ℚ) : Metadata :=
  ("liquidity_evidence", .text evidence.text) ::
    match evidence with
    | .timestampedCausalLiquidity =>
      [("causal_liquidity_volume_base",
          MetadataValue.ofOption (liquidity.map CausalLiquidity.volumeBase)),
        ("causal_liquidity_available_at_ms",
          (liquidity.map fun offered => .integer offered.availableAtMs).getD .null)]
    | .completedAtFill =>
      [("completed_liquidity_volume_base", MetadataValue.ofOption completedVolumeBase)]
    | .declaredMaxSlippageScenario =>
      [("declared_max_slippage_bps", MetadataValue.ofOption model.feeModel.maxSlippageBps)]
    | _ => []

def rejected (request : OrderRequest) (fillTimestampMs : Int) (reason : RejectionReason)
    (metadata : Metadata) : Except String ExecutionResult :=
  let line := model.timeline request
  ExecutionResult.validate {
    signalTimestampMs := request.signalTimestampMs
    orderTimestampMs := line.orderTimestampMs
    fillTimestampMs := fillTimestampMs
    fillPrice := 0
    filledQuantity := 0
    isFilled := false
    side := request.side
    observationTimestampMs := line.obsTs
    decisionTimestampMs := line.decTs
    settlementTimestampMs := fillTimestampMs
    rejectionReason := some reason
    metadata := metadata }

def filled (request : OrderRequest) (fillTimestampMs : Int) (fillPrice referencePrice : ℚ)
    (metadata : Metadata) : Except String ExecutionResult :=
  let line := model.timeline request
  let capped : Option ℚ := request.maxFillNotional.filter fun bound =>
    bound < fillPrice * request.desiredQuantity
  let filledQuantity :=
    match capped with
    | some bound => bound / fillPrice
    | none => request.desiredQuantity
  ExecutionResult.validate {
    signalTimestampMs := request.signalTimestampMs
    orderTimestampMs := line.orderTimestampMs
    fillTimestampMs := fillTimestampMs
    fillPrice := fillPrice
    filledQuantity := filledQuantity
    isFilled := true
    side := request.side
    observationTimestampMs := line.obsTs
    decisionTimestampMs := line.decTs
    settlementTimestampMs := fillTimestampMs
    feeUsdt := model.feeModel.calculateFee (fillPrice * filledQuantity) false
    slippageUsdt := |fillPrice - referencePrice| * filledQuantity
    metadata := metadata ++
      [("requested_quantity", .number request.desiredQuantity),
        ("max_fill_notional", MetadataValue.ofOption request.maxFillNotional),
        ("notional_cap_applied", .flag capped.isSome)] }

/-! ### Market orders -/

def spreadEvidence (evidence : LiquidityEvidence) (currentSpreadBps : Option Reading) : String :=
  if model.feeModel.slippageMode = .spreadAndImpact then
    if evidence = .declaredMaxSlippageScenario ∨ currentSpreadBps = none then
      "DECLARED_MAX_SLIPPAGE_SCENARIO"
    else "CAUSAL_SPREAD"
  else "NOT_USED"

def fillMarketAtBar (request : OrderRequest) (bar : Candle) (refPrice : ℚ) (fillTime : Int)
    (completedVolumeBase : Option ℚ) : Except String ExecutionResult :=
  if ∃ volume ∈ completedVolumeBase, volume ≤ 0 then
    model.rejected request fillTime .insufficientLiquidity []
  else do
    let liquidity := request.causalLiquidity
    match ← model.takerFillPrice refPrice request.desiredQuantity request.side fillTime
        request.currentSpreadBps liquidity completedVolumeBase with
    | .refused evidence reason =>
      model.rejected request fillTime reason
        (model.liquidityCostMetadata evidence liquidity completedVolumeBase)
    | .priced fillPrice evidence =>
      model.filled request fillTime fillPrice refPrice
        ([("ref_price", .number refPrice), ("candle_open_ms", .integer bar.openTimeMs),
          ("spread_evidence",
            .text (model.spreadEvidence evidence request.currentSpreadBps))] ++
          model.liquidityCostMetadata evidence liquidity completedVolumeBase)

def simulateMarket (request : OrderRequest) (futureCandles : List Candle) :
    Except String ExecutionResult :=
  let earliest := (model.timeline request).earliestFillMs
  match futureCandles.find? fun bar => earliest ≤ bar.closeTimeMs with
  | none => model.rejected request earliest .marketDataExhausted []
  | some bar =>
    if earliest ≤ bar.openTimeMs then
      model.fillMarketAtBar request bar bar.openPrice (max earliest bar.openTimeMs) none
    else
      model.fillMarketAtBar request bar bar.close (max earliest bar.closeTimeMs)
        (some bar.volume)

/-! ### Limit orders -/

def priceTolerance : ℚ := 1 / 100000000

/-- `price` is no worse than the limit, up to the tolerance. -/
def withinLimit (side : Side) (price limitPrice : ℚ) : Bool :=
  match side with
  | .buy => price ≤ limitPrice + priceTolerance
  | .sell => limitPrice - priceTolerance ≤ price

def observedExtreme (side : Side) (bar : Candle) : ℚ :=
  match side with
  | .buy => bar.low
  | .sell => bar.high

def tradedThrough (side : Side) (bar : Candle) (limitPrice : ℚ) : Bool :=
  match side with
  | .buy => bar.low < limitPrice - priceTolerance
  | .sell => limitPrice + priceTolerance < bar.high

def deterministicTouch (side : Side) (bar : Candle) (limitPrice : ℚ) : Bool :=
  |observedExtreme side bar - limitPrice| ≤ priceTolerance && 1 ≤ model.limitFillProbOnTouch

def fillLimitAtOpen (request : OrderRequest) (limitPrice : ℚ) (bar : Candle) :
    Except String ExecutionResult := do
  let fillTime := bar.openTimeMs
  let opening := request.openingPrice bar
  let liquidity := request.causalLiquidity
  match ← model.takerFillPrice opening.1 request.desiredQuantity request.side fillTime
      request.currentSpreadBps liquidity none with
  | .refused evidence reason =>
    model.rejected request fillTime reason
      (model.liquidityCostMetadata evidence liquidity none)
  | .priced fillPrice evidence =>
    let liquidityMetadata := model.liquidityCostMetadata evidence liquidity none
    if ¬ withinLimit request.side fillPrice limitPrice then
      model.rejected request fillTime .marketableLimitLiquidityInsufficient
        liquidityMetadata
    else
      model.filled request fillTime fillPrice opening.1
        ([("limit_price", .number limitPrice), ("observable_open", .number bar.openPrice),
          ("opening_executable_price", .number opening.1),
          ("opening_executable_timestamp_ms", .integer bar.openTimeMs),
          ("opening_price_evidence", .text opening.2)] ++ liquidityMetadata ++
          [("execution_time_semantics", .text "BAR_OPEN_MARKETABLE")])

def touchMetadata (request : OrderRequest) (limitPrice : ℚ) (bar : Candle) : Metadata :=
  [("limit_price", .number limitPrice),
    ("observed_extreme", .number (observedExtreme request.side bar)),
    ("ambiguity_window_open_ms", .integer bar.openTimeMs),
    ("ambiguity_window_close_ms", .integer bar.closeTimeMs),
    ("expiration_ms", .integer (model.timeline request).expirationMs),
    ("touch_kind",
      .text (if tradedThrough request.side bar limitPrice then "THROUGH" else "EXACT_TOUCH")),
    ("execution_time_semantics", .text "INTRABAR_UNKNOWN")]

def scanLimit (request : OrderRequest) (limitPrice : ℚ) :
    List Candle → Except String ExecutionResult
  | [] =>
    model.rejected request (model.timeline request).expirationMs
      .limitExpiredUnfilled []
  | bar :: rest =>
    let line := model.timeline request
    if line.expirationMs < bar.openTimeMs then
      model.rejected request line.expirationMs .limitExpiredUnfilled []
    else if bar.closeTimeMs < line.earliestFillMs then scanLimit request limitPrice rest
    else if bar.openTimeMs < line.earliestFillMs then scanLimit request limitPrice rest
    else if withinLimit request.side (request.openingPrice bar).1 limitPrice then
      model.fillLimitAtOpen request limitPrice bar
    else if bar.volume ≤ 0 then scanLimit request limitPrice rest
    else if tradedThrough request.side bar limitPrice ||
        model.deterministicTouch request.side bar limitPrice then
      model.rejected request (min line.expirationMs bar.closeTimeMs)
        .limitIntrabarTouchAmbiguous (model.touchMetadata request limitPrice bar)
    else scanLimit request limitPrice rest

def simulateLimit (request : OrderRequest) (futureCandles : List Candle) :
    Except String ExecutionResult :=
  let line := model.timeline request
  match request.limitPrice with
  | none => model.rejected request line.earliestFillMs .invalidLimitPrice []
  | some limitPrice =>
    if limitPrice ≤ 0 then
      model.rejected request line.earliestFillMs .invalidLimitPrice []
    else if line.expirationMs < line.earliestFillMs then
      model.rejected request line.expirationMs .limitExpiredUnfilled []
    else model.scanLimit request limitPrice futureCandles

/-! ### Orders and conditionals -/

def checkOrder (request : OrderRequest) : Except String Unit := do
  let line := model.timeline request
  refuse (request.signalTimestampMs < line.obsTs)
    (s!"observation_timestamp_ms ({line.obsTs}) cannot be after " ++
      s!"signal_timestamp_ms ({request.signalTimestampMs})")
  refuse (∃ notional ∈ request.maxFillNotional, notional ≤ 0)
    "max_fill_notional must be finite and positive when provided"
  refuse (request.observableOpenExecutablePrice.isNone ≠
      request.observableOpenExecutableTimestampMs.isNone)
    "observable opening executable price and timestamp must be provided together"
  refuse (∃ price ∈ request.observableOpenExecutablePrice, price.nonpositive)
    "observable opening executable price must be finite and positive"
  refuse (∃ timestampMs ∈ request.observableOpenExecutableTimestampMs, timestampMs ≤ 0)
    "observable opening executable timestamp must be a positive integer"
  refuse (request.causalLiquidityVolumeBase.isNone ≠ request.causalLiquidityAvailableAtMs.isNone)
    "causal liquidity value and availability timestamp are required together"
  refuse (∃ volume ∈ request.causalLiquidityVolumeBase, volume.nonpositive)
    "causal liquidity volume must be finite and positive"
  refuse (∃ availableAt ∈ request.causalLiquidityAvailableAtMs, availableAt ≤ 0)
    "causal liquidity availability timestamp must be a positive integer"

def simulateOrder (request : OrderRequest) (futureCandles : List Candle) :
    Except String ExecutionResult := do
  model.checkOrder request
  let line := model.timeline request
  if request.desiredQuantity ≤ 0 then
    model.rejected request line.earliestFillMs .invalidQuantity []
  else if futureCandles = [] then
    model.rejected request line.earliestFillMs .noMarketData []
  else
    match request.orderType with
    | .market => model.simulateMarket request futureCandles
    | .limit => model.simulateLimit request futureCandles

def conditionalResult (request : ConditionalRequest) : ExecutionResult where
  signalTimestampMs := request.armedTimestampMs
  orderTimestampMs := request.armedTimestampMs
  fillTimestampMs := request.triggerObservationTimestampMs
  fillPrice := 0
  filledQuantity := 0
  isFilled := false
  side := request.side
  observationTimestampMs := request.armedTimestampMs
  decisionTimestampMs := request.armedTimestampMs
  settlementTimestampMs := request.triggerObservationTimestampMs

def conditionalMetadata (request : ConditionalRequest) : Metadata :=
  [("ref_price", .number request.referencePrice),
    ("standing_order_armed_ms", .integer request.armedTimestampMs),
    ("trigger_observation_timestamp_ms", .integer request.triggerObservationTimestampMs),
    ("trigger_time_semantics", .text request.triggerTime.text),
    ("spread_evidence",
      .text (if model.feeModel.slippageMode = .spreadAndImpact
        then "DECLARED_MAX_SLIPPAGE_SCENARIO" else "NOT_USED")),
    ("causal_spread_bps",
      match request.currentSpreadBps with
      | some (.finite spread) => .number spread
      | _ => .null)]

/-- Fill a standing stop or target without converting it to a close-time order. Where impact is
modelled, the declared adverse scenario stands in for the spread. -/
def simulateConditionalMarketFill (request : ConditionalRequest) (triggerBar : Candle) :
    Except String ExecutionResult := do
  request.check triggerBar
  if request.desiredQuantity ≤ 0 then
    ExecutionResult.validate { conditionalResult request with
      rejectionReason := some .invalidQuantity }
  else if triggerBar.volume ≤ 0 then
    ExecutionResult.validate { conditionalResult request with
      rejectionReason := some .insufficientLiquidity }
  else do
    refuse (model.feeModel.slippageMode = .spreadAndImpact ∧ model.feeModel.maxSlippageBps = none)
      ("SPREAD_AND_IMPACT standing conditionals require a declared " ++
        "max_slippage_bps adverse scenario")
    let executionSpread :=
      if model.feeModel.slippageMode = .spreadAndImpact then none else request.currentSpreadBps
    let fillPrice ← model.feeModel.effectiveFillPrice request.referencePrice
      request.desiredQuantity request.side false executionSpread triggerBar.volume
    ExecutionResult.validate { conditionalResult request with
      fillPrice := fillPrice
      filledQuantity := request.desiredQuantity
      isFilled := true
      feeUsdt := model.feeModel.calculateFee (fillPrice * request.desiredQuantity) false
      slippageUsdt := |fillPrice - request.referencePrice| * request.desiredQuantity
      metadata := model.conditionalMetadata request }

/-! ### What a fill is -/

/-- A filled result: it happens at an open or a close of one of the bars, no earlier than the
observation; its values are positive; it stays within a notional cap, and without one it fills
the whole quantity. -/
structure Filled (observationTimestampMs : Int) (desiredQuantity : ℚ) (maxFillNotional : Option ℚ)
    (bars : List Candle) (result : ExecutionResult) : Prop where
  time : ∃ bar ∈ bars,
    result.fillTimestampMs = bar.openTimeMs ∨ result.fillTimestampMs = bar.closeTimeMs
  observed : result.observationTimestampMs = observationTimestampMs
  decided : result.observationTimestampMs ≤ result.decisionTimestampMs
  submitted : result.decisionTimestampMs ≤ result.orderTimestampMs
  executed : result.orderTimestampMs ≤ result.fillTimestampMs
  settled : result.settlementTimestampMs = result.fillTimestampMs
  pricePositive : 0 < result.fillPrice
  quantityPositive : 0 < result.filledQuantity
  feeNonneg : 0 ≤ result.feeUsdt
  whole : maxFillNotional = none → result.filledQuantity = desiredQuantity
  within : ∀ bound, maxFillNotional = some bound →
    result.fillPrice * result.filledQuantity ≤ bound

/-- An order of the request is filled from these bars. -/
abbrev FilledFor (request : OrderRequest) : List Candle → ExecutionResult → Prop :=
  Filled (model.timeline request).obsTs request.desiredQuantity request.maxFillNotional

variable {model} {request : OrderRequest} {result : ExecutionResult} {fillTimestampMs : Int}
  {metadata : Metadata}

theorem rejected_ok {reason : RejectionReason}
    (done : model.rejected request fillTimestampMs reason metadata = .ok result) :
    result.isFilled = false := by
  rw [← (ExecutionResult.validate_ok done).1]

theorem not_rejected {reason : RejectionReason} (isFilled : result.isFilled = true) :
    model.rejected request fillTimestampMs reason metadata ≠ .ok result := fun done => by
  rw [rejected_ok done] at isFilled
  cases isFilled

variable {bars : List Candle}

theorem filled_ok {fillPrice referencePrice : ℚ}
    (time : ∃ bar ∈ bars, fillTimestampMs = bar.openTimeMs ∨ fillTimestampMs = bar.closeTimeMs)
    (done : model.filled request fillTimestampMs fillPrice referencePrice metadata =
      .ok result) :
    result.fillTimestampMs = fillTimestampMs ∧
      model.FilledFor request bars result := by
  obtain ⟨same, decided, submitted, filled⟩ := ExecutionResult.validate_ok done
  subst same
  obtain ⟨executed, price, quantity⟩ := filled rfl
  refine ⟨rfl, time, rfl, decided, submitted, executed, rfl, price, quantity,
    model.feeModel.calculateFee_nonneg _ _, fun uncapped => ?_, fun bound capped => ?_⟩
  · simp [uncapped]
  · have pricePositive : 0 < fillPrice := price
    dsimp only
    rw [capped, Option.filter_some]
    by_cases exceeds : bound < fillPrice * request.desiredQuantity
    · rw [if_pos (decide_eq_true exceeds)]
      exact (mul_div_cancel₀ bound pricePositive.ne').le
    · rw [if_neg (by simpa using exceeds)]
      exact not_lt.mp exceeds

theorem fillMarketAtBar_ok {bar : Candle} {refPrice : ℚ} {fillTime : Int}
    {completedVolumeBase : Option ℚ}
    (time : ∃ other ∈ bars, fillTime = other.openTimeMs ∨ fillTime = other.closeTimeMs)
    (done : model.fillMarketAtBar request bar refPrice fillTime completedVolumeBase = .ok result)
    (isFilled : result.isFilled = true) :
    result.fillTimestampMs = fillTime ∧
      model.FilledFor request bars result := by
  unfold fillMarketAtBar at done
  split_ifs at done
  · exact absurd done (not_rejected isFilled)
  · obtain ⟨taker, -, answered⟩ := bind_eq_ok.mp done
    cases taker with
    | refused evidence reason =>
      exact absurd answered (not_rejected isFilled)
    | priced price evidence => exact filled_ok time answered

variable {futureCandles : List Candle}

theorem simulateMarket_ok (done : model.simulateMarket request futureCandles = .ok result)
    (isFilled : result.isFilled = true) :
    (∃ bar, (futureCandles.find? fun bar =>
        (model.timeline request).earliestFillMs ≤ bar.closeTimeMs) = some bar ∧
      (result.fillTimestampMs = bar.openTimeMs ∨ result.fillTimestampMs = bar.closeTimeMs)) ∧
    model.FilledFor request futureCandles result := by
  unfold simulateMarket at done
  dsimp only at done
  cases found : futureCandles.find? fun bar =>
      (model.timeline request).earliestFillMs ≤ bar.closeTimeMs with
  | none =>
    rw [found] at done
    exact absurd done (not_rejected isFilled)
  | some bar =>
    rw [found] at done
    dsimp only at done
    have member := List.mem_of_find?_eq_some found
    have closes : (model.timeline request).earliestFillMs ≤ bar.closeTimeMs := by
      simpa using List.find?_some found
    split_ifs at done with opens
    · rw [max_eq_right opens] at done
      obtain ⟨time, filled⟩ := fillMarketAtBar_ok ⟨bar, member, .inl rfl⟩ done isFilled
      exact ⟨⟨bar, rfl, .inl time⟩, filled⟩
    · rw [max_eq_right closes] at done
      obtain ⟨time, filled⟩ := fillMarketAtBar_ok ⟨bar, member, .inr rfl⟩ done isFilled
      exact ⟨⟨bar, rfl, .inr time⟩, filled⟩

theorem fillLimitAtOpen_ok {limitPrice : ℚ} {bar : Candle} (member : bar ∈ bars)
    (done : model.fillLimitAtOpen request limitPrice bar = .ok result)
    (isFilled : result.isFilled = true) :
    result.fillTimestampMs = bar.openTimeMs ∧
      model.FilledFor request bars result := by
  obtain ⟨taker, -, answered⟩ := bind_eq_ok.mp done
  cases taker with
  | refused evidence reason =>
    exact absurd answered (not_rejected isFilled)
  | priced price evidence =>
    dsimp only at answered
    split_ifs at answered
    · exact filled_ok ⟨bar, member, .inl rfl⟩ answered
    · exact absurd answered (not_rejected isFilled)

theorem scanLimit_ok {limitPrice : ℚ} {bars all : List Candle} (within : ∀ bar ∈ bars, bar ∈ all)
    (done : model.scanLimit request limitPrice bars = .ok result)
    (isFilled : result.isFilled = true) :
    (∃ bar ∈ bars, result.fillTimestampMs = bar.openTimeMs) ∧
      model.FilledFor request all result := by
  induction bars with
  | nil =>
    exact absurd done (not_rejected isFilled)
  | cons bar rest inductionHypothesis =>
    have later : model.scanLimit request limitPrice rest = .ok result →
        (∃ other ∈ bar :: rest, result.fillTimestampMs = other.openTimeMs) ∧
          model.FilledFor request all result := by
      intro scanned
      obtain ⟨⟨other, member, time⟩, filled⟩ := inductionHypothesis
        (fun other member => within other (List.mem_cons_of_mem _ member)) scanned
      exact ⟨⟨other, List.mem_cons_of_mem _ member, time⟩, filled⟩
    unfold scanLimit at done
    dsimp only at done
    split_ifs at done
    · exact absurd done (not_rejected isFilled)
    · exact later done
    · exact later done
    · obtain ⟨time, filled⟩ := fillLimitAtOpen_ok (within bar List.mem_cons_self) done isFilled
      exact ⟨⟨bar, List.mem_cons_self, time⟩, filled⟩
    · exact later done
    · exact absurd done (not_rejected isFilled)
    · exact later done

theorem simulateLimit_ok (done : model.simulateLimit request futureCandles = .ok result)
    (isFilled : result.isFilled = true) :
    model.FilledFor request futureCandles result := by
  unfold simulateLimit at done
  dsimp only at done
  cases limit : request.limitPrice with
  | none =>
    rw [limit] at done
    exact absurd done (not_rejected isFilled)
  | some limitPrice =>
    rw [limit] at done
    dsimp only at done
    split_ifs at done
    · exact absurd done (not_rejected isFilled)
    · exact absurd done (not_rejected isFilled)
    · exact (scanLimit_ok (fun _ member => member) done isFilled).2

theorem simulateOrder_ok (done : model.simulateOrder request futureCandles = .ok result)
    (isFilled : result.isFilled = true) :
    model.FilledFor request futureCandles result := by
  obtain ⟨-, -, answered⟩ := bind_eq_ok.mp done
  split_ifs at answered
  · exact absurd answered (not_rejected isFilled)
  · exact absurd answered (not_rejected isFilled)
  · cases orderType : request.orderType with
    | market =>
      rw [orderType] at answered
      exact (simulateMarket_ok answered isFilled).2
    | limit =>
      rw [orderType] at answered
      exact simulateLimit_ok answered isFilled

theorem simulateConditionalMarketFill_ok {conditional : ConditionalRequest} {triggerBar : Candle}
    (done : model.simulateConditionalMarketFill conditional triggerBar = .ok result)
    (isFilled : result.isFilled = true) :
    Filled conditional.armedTimestampMs conditional.desiredQuantity none [triggerBar] result ∧
      result.fillTimestampMs = conditional.triggerObservationTimestampMs ∧
      0 < conditional.armedTimestampMs ∧
      (conditional.triggerTime = .barOpenKnown →
        result.fillTimestampMs = triggerBar.openTimeMs) ∧
      (conditional.triggerTime = .intrabarUnknown →
        result.fillTimestampMs = triggerBar.closeTimeMs) := by
  obtain ⟨⟨⟩, checked, answered⟩ := bind_eq_ok.mp done
  obtain ⟨armed, -, known, unknown⟩ := conditional.check_eq_ok checked
  have unfilled : ∀ {reason}, ExecutionResult.validate
      { conditionalResult conditional with rejectionReason := reason } = .ok result → False := by
    intro reason rejection
    rw [← (ExecutionResult.validate_ok rejection).1] at isFilled
    cases isFilled
  by_cases quantity : conditional.desiredQuantity ≤ 0
  · rw [if_pos quantity] at answered
    exact (unfilled answered).elim
  by_cases volume : triggerBar.volume ≤ 0
  · rw [if_neg quantity, if_pos volume] at answered
    exact (unfilled answered).elim
  rw [if_neg quantity, if_neg volume, refuse_bind_eq_ok] at answered
  obtain ⟨price, -, validated⟩ := bind_eq_ok.mp answered.2
  obtain ⟨same, decided, submitted, filled⟩ := ExecutionResult.validate_ok validated
  subst same
  obtain ⟨executed, pricePositive, quantityPositive⟩ := filled rfl
  refine ⟨⟨⟨triggerBar, List.mem_singleton_self _, ?_⟩, rfl, decided, submitted, executed, rfl,
    pricePositive, quantityPositive, model.feeModel.calculateFee_nonneg _ _, fun _ => rfl,
    fun _ uncapped => nomatch uncapped⟩, rfl, armed, known, unknown⟩
  cases trigger : conditional.triggerTime with
  | barOpenKnown => exact .inl (known trigger)
  | intrabarUnknown => exact .inr (unknown trigger)

end ExecutionModel

end QuantAgent.Economic
