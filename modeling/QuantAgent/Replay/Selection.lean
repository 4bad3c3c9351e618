/-
This file embeds how the candles that a signal may be made from are selected: the contract says how
many, and they are the latest closed ones that were available when the signal was made.
-/

import QuantAgent.Candle
import QuantAgent.Research.Reading

namespace QuantAgent.Replay

open Research

/-! ### Candles -/

structure DatasetCandle extends Candle where
  closed : Bool := true
  availableAtMs : Option Int := none
  available_positive : ∀ availableMs ∈ availableAtMs, 0 < availableMs := by decide +kernel
  deriving DecidableEq

namespace DatasetCandle

def number (value : ℚ) : Json := .float (.finite value)

/-- `_runtime_candle_payload`. -/
def payload (candle : DatasetCandle) : Json :=
  .obj [("symbol", .str candle.symbol), ("interval", .str candle.interval),
    ("open_time_ms", .int candle.openTimeMs), ("close_time_ms", .int candle.closeTimeMs),
    ("open", number candle.openPrice), ("high", number candle.high), ("low", number candle.low),
    ("close", number candle.close), ("volume", number candle.volume),
    ("quote_volume", number candle.quoteVolume), ("closed", .bool candle.closed),
    ("available_at_ms", candle.availableAtMs.elim .null .int)]

def Eligible (timestampMs : Int) (candle : DatasetCandle) : Prop :=
  candle.closed = true ∧ (∃ availableMs ∈ candle.availableAtMs, availableMs ≤ timestampMs) ∧
    candle.closeTimeMs ≤ timestampMs

instance (timestampMs : Int) : DecidablePred (Eligible timestampMs) :=
  fun _ => inferInstanceAs (Decidable (_ ∧ _ ∧ _))

def eligible (candles : List DatasetCandle) (timestampMs : Int) : List DatasetCandle :=
  (candles.filter fun candle => Eligible timestampMs candle).insertionSort fun candle other =>
    candle.openTimeMs ≤ other.openTimeMs

end DatasetCandle

/-! ### The selector policy -/

def materialInputSelectorType : String := "LATEST_N_CONTIGUOUS_AVAILABLE_CLOSED"

structure SelectorPolicy where
  rule : String
  requiredBars : ℤ
  selectorSha256 : String

section

variable [Platform]

namespace SelectorPolicy

def create (rule : String) (requiredBars : ℤ) : Except Fault SelectorPolicy := do
  let selectorSha256 ← canonicalSha256 (.obj [("rule", .str rule),
    ("selector_type", .str materialInputSelectorType), ("required_bars", .int requiredBars)])
  .ok ⟨rule, requiredBars, selectorSha256⟩

/-- `params.get(name)`; a null value counts as none. -/
def parameter (contract : SignalProducerContract) (name : String) : Option Json :=
  match contract.parameters.members.lookup name with
  | some .null => none
  | found => found

/-- `_int_parameter`. -/
def integer (contract : SignalProducerContract) (name : String) (raw : Json) :
    Except Fault ℤ :=
  match intOf raw with
  | .ok value => .ok value
  | .error _ => .error (valueError ("contract " ++ contract.contractId ++ " parameter " ++ name ++
      "=" ++ Platform.repr raw ++ " is not an integer"))

/-- The bars a momentum rule looks back. -/
def lookback (contract : SignalProducerContract) : Except Fault ℤ :=
  match parameter contract "lookback_bars", parameter contract "min_lookback_bars" with
  | some raw, least => do
    let requiredBars ← integer contract "lookback_bars" raw
    match least with
    | none => .ok requiredBars
    | some floor => do
      let minimum ← integer contract "min_lookback_bars" floor
      refuse (minimum ≠ requiredBars)
        (valueError ("contract " ++ contract.contractId ++
          " lookback semantics disagree: lookback_bars=" ++ toString requiredBars ++
          ", min_lookback_bars=" ++ textOf floor))
      .ok requiredBars
  | none, some _ => .error (valueError ("ambiguous material-input selector for " ++
      contract.contractId ++ ": min_lookback_bars alone is a floor, not a complete selector; " ++
      "declare exact lookback_bars"))
  | none, none => .ok 1

def single (contract : SignalProducerContract) (name : String) : Except Fault Unit :=
  match parameter contract name with
  | none => .ok ()
  | some raw => do
    let declared ← integer contract name raw
    refuse (declared ≠ 1) (valueError ("contract " ++ contract.contractId ++ " declares " ++ name ++
      "=" ++ textOf raw ++ "; " ++ contract.rule ++
        " requires exactly 1 latest eligible candle(s)"))

/-- `resolve_material_input_policy`. -/
def resolve (contract : SignalProducerContract) : Except Fault SelectorPolicy := do
  let requiredBars ←
    if contract.rule = "MOMENTUM_THRESHOLD" then lookback contract
    else if contract.rule ∈ ["RETURN_SIGN", "PRICE_BREAKOUT", "FIXED_DIRECTION"] then do
      single contract "lookback_bars"
      single contract "min_lookback_bars"
      .ok 1
    else .error (valueError ("unsupported material-input selector rule for " ++
      contract.contractId ++ ": " ++ contract.rule))
  refuse (requiredBars < 1) (valueError ("material-input selector for " ++ contract.contractId ++
    " requires at least 1 bar; declared " ++ toString requiredBars))
  create contract.rule requiredBars

end SelectorPolicy

/-! ### The required window -/

def checkContiguous (contractId : String) : List DatasetCandle → Except Fault Unit
  | previous :: candle :: rest => do
    refuse (candle.openTimeMs ≤ previous.openTimeMs)
      (valueError ("required material window for " ++ contractId ++
        " contains duplicate or non-increasing open times at " ++ toString candle.openTimeMs))
    refuse (candle.openTimeMs ≠ previous.closeTimeMs + 1)
      (valueError ("required material window for " ++ contractId ++ " has a cadence gap before " ++
        toString candle.openTimeMs ++
        "; the selector must not step backward around missing material rows"))
    checkContiguous contractId (candle :: rest)
  | _ => .ok ()

def selectRequiredMaterialCandles (contract : SignalProducerContract)
    (candles : List DatasetCandle) (timestampMs : Int) : Except Fault (List DatasetCandle) := do
  let policy ← SelectorPolicy.resolve contract
  let eligible := DatasetCandle.eligible candles timestampMs
  refuse ((eligible.length : ℤ) < policy.requiredBars)
    (valueError ("insufficient eligible material candles for " ++ contract.contractId ++
      ": required the latest " ++ toString policy.requiredBars ++ " eligible rows, found " ++
      toString eligible.length))
  let window := eligible.drop (eligible.length - policy.requiredBars.toNat)
  checkContiguous contract.contractId window
  refuse ((window.map fun candle => candle.symbol).dedup.length ≠ 1)
    (valueError ("required material window for " ++ contract.contractId ++
      " crosses symbol boundaries"))
  refuse ((window.map fun candle => candle.interval).dedup.length ≠ 1)
    (valueError ("required material window for " ++ contract.contractId ++
      " crosses interval boundaries"))
  .ok window

theorem selectRequiredMaterialCandles_congr {contract : SignalProducerContract}
    {candles others : List DatasetCandle} {timestampMs : Int}
    (agree : DatasetCandle.eligible candles timestampMs =
      DatasetCandle.eligible others timestampMs) :
    selectRequiredMaterialCandles contract candles timestampMs =
      selectRequiredMaterialCandles contract others timestampMs := by
  unfold selectRequiredMaterialCandles
  rw [agree]

end

end QuantAgent.Replay
