/-
This file embeds what the simulator reads besides the market: information signals with their
metadata, the trading policy with its entry, exit, sizing, risk and market rules, and the fee
model.

Each rule carries the checks of its constructor as fields, so every policy that can be built
is one the source admits. A number that arrives from outside may fail to be finite; inside,
arithmetic is exact.
-/

import QuantAgent.Candle
import QuantAgent.Economic.Portfolio

namespace QuantAgent.Economic

/-! ### Numbers from outside -/

/-- A float as the checks of the source see it. -/
inductive Reading where
  | finite (value : ℚ)
  | notFinite

/-- A metadata value that the source passes to `float`. -/
inductive MetadataNumber where
  | finite (value : ℚ)
  | notFinite
  | unparsable
  deriving DecidableEq

/-- `float(value)`, with `nan` for a value it refuses. -/
def MetadataNumber.reading : MetadataNumber → Reading
  | .finite value => .finite value
  | .notFinite => .notFinite
  | .unparsable => .notFinite

namespace Reading

/-- `not math.isfinite(value) or value < 0`. -/
def invalid : Reading → Bool
  | .finite value => value < 0
  | .notFinite => true

/-- `not math.isfinite(value) or value <= 0`. -/
def nonpositive : Reading → Bool
  | .finite value => value ≤ 0
  | .notFinite => true

/-- `not math.isfinite(value) or value < 0 or value > bound`. -/
def invalidOrAbove (bound : ℚ) : Reading → Bool
  | .finite value => value < 0 || bound < value
  | .notFinite => true

/-- `not math.isfinite(value) or value < bound`. -/
def notFiniteOrBelow (bound : ℚ) : Reading → Bool
  | .finite value => value < bound
  | .notFinite => true

end Reading

/-! ### Sides and signals -/

/-- `+1` buys, `-1` sells. -/
inductive Side where
  | buy
  | sell
  deriving DecidableEq

inductive Direction where
  | up
  | down
  | neutral
  deriving DecidableEq

/-- The metadata of a signal, as far as the simulator reads it. -/
structure SignalMetadata where
  spreadBps : Option MetadataNumber := none
  liquidityVolumeBase : Option MetadataNumber := none
  /-- Present only when the value is an integer. -/
  liquidityAvailableAtMs : Option Int := none
  volumeUsdt : Option MetadataNumber := none
  regime : Option String := none
  atr : Option MetadataNumber := none
  deriving DecidableEq

/-- Pure informational forecast resulting from statistical research. -/
structure InformationSignal where
  signalId : String
  timestampMs : Int
  asset : String
  direction : Direction
  strength : ℚ := 1
  metadata : SignalMetadata := {}
  timePositive : 0 < timestampMs := by decide

instance : DecidableEq InformationSignal := fun first second =>
  decidable_of_iff (first.signalId = second.signalId ∧ first.timestampMs = second.timestampMs ∧
    first.asset = second.asset ∧ first.direction = second.direction ∧
    first.strength = second.strength ∧ first.metadata = second.metadata) (by
      cases first
      cases second
      simp)

def InformationSignal.isActionable (signal : InformationSignal) : Bool :=
  signal.direction ≠ .neutral && signal.strength ≠ 0

/-! ### The policy -/

inductive OrderType where
  | market
  | limit
  deriving DecidableEq

inductive SizingType where
  | fixedNotional
  | volatilityScaled
  | riskFraction
  deriving DecidableEq

/-! The defaults pass their own checks. -/

theorem default_strength : (0 : ℚ) ≤ 0 := le_rfl

theorem default_directions : [Side.buy, Side.sell] ≠ [] := by decide

theorem no_fraction : ∀ pct ∈ (none : Option ℚ), 0 < pct ∧ pct ≤ 1 := by decide +kernel

theorem no_target : ∀ pct ∈ (none : Option ℚ), 0 < pct := by decide +kernel

theorem percent_fraction : ∀ pct ∈ some (1 / 100 : ℚ), 0 < pct ∧ pct ≤ 1 := by decide +kernel

theorem default_holding : (0 : Int) < 3600000 := by decide

theorem default_notional : (0 : ℚ) < 10000 := by decide +kernel

theorem default_risk : (0 : ℚ) < 2 / 100 ∧ (2 / 100 : ℚ) ≤ 1 := by decide +kernel

theorem default_leverage : (0 : ℚ) < 1 := by decide +kernel

theorem default_exposure : (0 : ℚ) < 50000 := by decide +kernel

theorem default_drawdown : (0 : ℚ) < 2 / 10 ∧ (2 / 10 : ℚ) ≤ 1 := by decide +kernel

theorem default_rates : (0 : ℚ) ≤ 2 / 10000 ∧ (0 : ℚ) ≤ 5 / 10000 ∧ (0 : ℚ) ≤ 1 / 100 := by
  decide +kernel

theorem default_slippage : (0 : ℚ) ≤ 1 ∧ (1 : ℚ) < 10000 := by decide +kernel

theorem no_slippage_bound : ∀ bps ∈ (none : Option ℚ), 0 ≤ bps ∧ bps < 10000 := by decide +kernel

structure EntryRule where
  minSignalStrength : ℚ := 0
  orderType : OrderType := .market
  limitOffsetBps : ℚ := 0
  timeInForceMs : Int := 60000
  allowedDirections : List Side := [.buy, .sell]
  strengthNonneg : 0 ≤ minSignalStrength := by
    first | exact Economic.default_strength | decide +kernel
  timePositive : 0 < timeInForceMs := by first | exact Candle.minute_positive | decide
  directed : allowedDirections ≠ [] := by first | exact Economic.default_directions | decide

/-- Calculate limit price applying `limit_offset_bps` (+ = passive, - = aggressive). -/
def EntryRule.calculateLimitPrice (rule : EntryRule) (referencePrice : ℚ) (side : Side) :
    Except String ℚ :=
  if referencePrice ≤ 0 then .error "reference_price must be positive"
  else
    let offsetFraction := rule.limitOffsetBps / 10000
    match side with
    | .buy => .ok (referencePrice * (1 - offsetFraction))
    | .sell => .ok (referencePrice * (1 + offsetFraction))

inductive AmbiguousExitHandling where
  | conservativeStopFirst
  | rejectAmbiguous
  deriving DecidableEq

structure ExitRule where
  stopLossPct : Option ℚ := none
  takeProfitPct : Option ℚ := none
  trailingStopPct : Option ℚ := none
  decayExitOnSignalReversal : Bool := true
  maxHoldingMs : Int := 3600000
  ambiguousExitHandling : AmbiguousExitHandling := .conservativeStopFirst
  stopRange : ∀ pct ∈ stopLossPct, 0 < pct ∧ pct ≤ 1 := by
    first | exact Economic.no_fraction | exact Economic.percent_fraction | decide +kernel
  targetRange : ∀ pct ∈ takeProfitPct, 0 < pct := by
    first | exact Economic.no_target | decide +kernel
  trailingRange : ∀ pct ∈ trailingStopPct, 0 < pct ∧ pct ≤ 1 := by
    first | exact Economic.no_fraction | exact Economic.percent_fraction | decide +kernel
  holdingPositive : 0 < maxHoldingMs := by first | exact Economic.default_holding | decide

structure PositionSizing where
  sizingType : SizingType := .fixedNotional
  targetNotional : ℚ := 10000
  riskFraction : ℚ := 2 / 100
  maxLeverage : ℚ := 1
  notionalPositive : 0 < targetNotional := by
    first | exact Economic.default_notional | decide +kernel
  riskRange : 0 < riskFraction ∧ riskFraction ≤ 1 := by
    first | exact Economic.default_risk | decide +kernel
  leveragePositive : 0 < maxLeverage := by first | exact Economic.default_leverage | decide +kernel

structure RiskBudget where
  maxGrossExposureUsdt : ℚ := 50000
  maxOpenPositions : ℕ := 1
  maxDrawdownStopPct : ℚ := 2 / 10
  exposurePositive : 0 < maxGrossExposureUsdt := by
    first | exact Economic.default_exposure | decide +kernel
  drawdownRange : 0 < maxDrawdownStopPct ∧ maxDrawdownStopPct ≤ 1 := by
    first | exact Economic.default_drawdown | decide +kernel

structure MarketStateFilter where
  minVolumeUsdt15m : ℚ := 0
  maxSpreadBps : Option ℚ := none
  allowedRegimes : List String := []
  volumeNonneg : 0 ≤ minVolumeUsdt15m := by first | exact Economic.default_strength | decide +kernel
  spreadNonneg : ∀ spread ∈ maxSpreadBps, 0 ≤ spread := by decide +kernel

theorem default_sizing :
    ({} : PositionSizing).sizingType = .riskFraction → ({} : ExitRule).stopLossPct ≠ none := by
  decide

/-- Explicit trading policy translating pure signals into economic execution. -/
structure TradePolicy where
  entryRule : EntryRule := {}
  exitRule : ExitRule := {}
  positionSizing : PositionSizing := {}
  riskBudget : RiskBudget := {}
  marketFilter : MarketStateFilter := {}
  riskSizing : positionSizing.sizingType = .riskFraction → exitRule.stopLossPct ≠ none := by
    first | exact Economic.default_sizing | decide

namespace TradePolicy

/-- `signal.direction in allowed_directions`. -/
def allows (policy : TradePolicy) : Direction → Bool
  | .up => policy.entryRule.allowedDirections.contains .buy
  | .down => policy.entryRule.allowedDirections.contains .sell
  | .neutral => false

/-- The spread constraint of `should_enter` refuses. -/
def spreadRefused (policy : TradePolicy) (currentSpreadBps : Option Reading) : Bool :=
  match policy.marketFilter.maxSpreadBps, currentSpreadBps with
  | some _, none => true
  | some bound, some spread => spread.invalidOrAbove bound
  | none, some spread => spread.invalid
  | none, none => false

/-- The volume constraint of `should_enter` refuses. -/
def volumeRefused (policy : TradePolicy) (currentVolumeUsdt : Option Reading) : Bool :=
  if 0 < policy.marketFilter.minVolumeUsdt15m then
    match currentVolumeUsdt with
    | none => true
    | some volume => volume.notFiniteOrBelow policy.marketFilter.minVolumeUsdt15m
  else
    match currentVolumeUsdt with
    | none => false
    | some volume => volume.invalid

/-- The regime constraint of `should_enter` refuses. -/
def regimeRefused (policy : TradePolicy) (currentRegime : Option String) : Bool :=
  match policy.marketFilter.allowedRegimes, currentRegime with
  | [], _ => false
  | _ :: _, none => true
  | first :: rest, some regime => ¬ (first :: rest).contains regime

def shouldEnter (policy : TradePolicy) (signal : InformationSignal)
    (currentSpreadBps currentVolumeUsdt : Option Reading) (currentRegime : Option String) :
    Bool :=
  signal.isActionable && policy.allows signal.direction &&
    policy.entryRule.minSignalStrength ≤ |signal.strength| &&
    !policy.spreadRefused currentSpreadBps && !policy.volumeRefused currentVolumeUsdt &&
    !policy.regimeRefused currentRegime

/-- The size of an entry; sizing without its inputs fails. -/
def calculateQuantity (policy : TradePolicy) (currentPrice portfolioEquity : ℚ)
    (currentAtr : Option Reading) : Except String ℚ :=
  let sizing := policy.positionSizing
  let leverageCap := portfolioEquity * sizing.maxLeverage
  if currentPrice ≤ 0 then .ok 0
  else if portfolioEquity ≤ 0 then .ok 0
  else
    match sizing.sizingType with
    | .fixedNotional => .ok (min sizing.targetNotional leverageCap / currentPrice)
    | .riskFraction =>
      match policy.exitRule.stopLossPct with
      | none => .error "RISK_FRACTION sizing requires explicit positive stop_loss_pct"
      | some stop =>
        let riskDollars := portfolioEquity * sizing.riskFraction
        .ok (min (riskDollars / stop) leverageCap / currentPrice)
    | .volatilityScaled =>
      match currentAtr with
      | some (.finite atr) =>
        if atr ≤ 0 then .error "VOLATILITY_SCALED sizing requires a finite positive current_atr"
        else
          let riskDollars := portfolioEquity * sizing.riskFraction
          let notional := riskDollars / max (5 / 1000) (atr / currentPrice)
          .ok (min notional leverageCap / currentPrice)
      | _ => .error "VOLATILITY_SCALED sizing requires a finite positive current_atr"

end TradePolicy

/-! ### Fees and slippage -/

inductive SlippageMode where
  | zero
  | fixedBps
  | spreadAndImpact
  deriving DecidableEq

/-- Configurable transaction cost model supporting maker/taker fees and slippage. -/
structure FeeModel where
  makerFeeRate : ℚ := 2 / 10000
  takerFeeRate : ℚ := 5 / 10000
  slippageMode : SlippageMode := .fixedBps
  fixedSlippageBps : ℚ := 1
  impactCoefficient : ℚ := 1 / 100
  maxSlippageBps : Option ℚ := none
  ratesNonneg : 0 ≤ makerFeeRate ∧ 0 ≤ takerFeeRate ∧ 0 ≤ impactCoefficient := by
    first | exact Economic.default_rates | decide +kernel
  fixedRange : 0 ≤ fixedSlippageBps ∧ fixedSlippageBps < 10000 := by
    first | exact Economic.default_slippage | decide +kernel
  maxRange : ∀ bps ∈ maxSlippageBps, 0 ≤ bps ∧ bps < 10000 := by
    first | exact Economic.no_slippage_bound | decide +kernel

namespace FeeModel

def worstCasePriceBound (model : FeeModel) (referencePrice : ℚ)
    (currentSpreadBps : Option Reading) : Except String (Option ℚ) := do
  refuse (referencePrice ≤ 0) "reference_price must be positive"
  refuse (∃ spread ∈ currentSpreadBps, spread.invalid)
    "current_spread_bps must be finite and nonnegative when provided"
  match model.slippageMode with
  | .zero => return some referencePrice
  | .fixedBps => return some (referencePrice * (1 + model.fixedSlippageBps / 10000))
  | .spreadAndImpact =>
    return model.maxSlippageBps.map fun bps => referencePrice * (1 + bps / 10000)

def calculateFee (model : FeeModel) (notional : ℚ) (isMaker : Bool) : ℚ :=
  |notional| * if isMaker then model.makerFeeRate else model.takerFeeRate

theorem calculateFee_nonneg (model : FeeModel) (notional : ℚ) (isMaker : Bool) :
    0 ≤ model.calculateFee notional isMaker := by
  unfold calculateFee
  cases isMaker
  · exact mul_nonneg (abs_nonneg _) model.ratesNonneg.2.1
  · exact mul_nonneg (abs_nonneg _) model.ratesNonneg.1

def calculateSlippageBps (model : FeeModel) (quantity price : ℚ)
    (currentSpreadBps : Option Reading) (barVolumeBase : ℚ) : Except String ℚ := do
  refuse (quantity < 0) "quantity must be nonnegative"
  refuse (price ≤ 0) "price must be positive"
  refuse (barVolumeBase < 0) "bar_volume_base must be nonnegative"
  match model.slippageMode with
  | .zero => return 0
  | .fixedBps => return model.fixedSlippageBps
  | .spreadAndImpact =>
    match currentSpreadBps with
    | none =>
      match model.maxSlippageBps with
      | none => throw ("SPREAD_AND_IMPACT requires causal current_spread_bps or " ++
          "a declared max_slippage_bps adverse scenario")
      | some bps => return bps
    | some .notFinite => throw "current_spread_bps must be finite and nonnegative"
    | some (.finite spread) =>
      refuse (spread < 0) "current_spread_bps must be finite and nonnegative"
      let impact :=
        if 0 < barVolumeBase ∧ 0 < quantity then
          model.impactCoefficient * (quantity / barVolumeBase) * 10000
        else 0
      let rawSlippageBps := spread / 2 + impact
      match model.maxSlippageBps with
      | some bps => return min rawSlippageBps bps
      | none => return rawSlippageBps

def effectiveFillPrice (model : FeeModel) (referencePrice quantity : ℚ) (side : Side)
    (isMaker : Bool) (currentSpreadBps : Option Reading) (barVolumeBase : ℚ) :
    Except String ℚ := do
  refuse (referencePrice ≤ 0) "reference_price must be positive"
  refuse (quantity ≤ 0) "quantity must be finite and positive"
  if isMaker then return referencePrice
  let bps ← model.calculateSlippageBps quantity referencePrice currentSpreadBps barVolumeBase
  let slippageFactor := bps / 10000
  let result :=
    match side with
    | .buy => referencePrice * (1 + slippageFactor)
    | .sell => referencePrice * (1 - slippageFactor)
  refuse (result ≤ 0) "configured slippage produces a nonpositive fill price"
  return result

end FeeModel

end QuantAgent.Economic
