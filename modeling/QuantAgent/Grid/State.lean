/-
This file embeds the economic state of a shadowed grid: the open lots, the realised
totals, and the mark snapshots taken along a one-minute path.

A grid of `N` intervals has `N + 1` levels; a slot holds at most one lot. The source keeps
the lots in a dictionary keyed by slot, so the embedding keeps them in insertion order and
looks a slot up by its index. Every sum runs over that list.
-/

import QuantAgent.Candle
import QuantAgent.Library.KeyedList

namespace QuantAgent.Grid

/-! ### The taxonomy -/

inductive GridDecision where
  | pause
  | neutral
  | longBias
  | shortBias
  deriving DecidableEq

inductive LotSide where
  | long
  | short
  deriving DecidableEq

inductive GridTerminalReason where
  | stopLoss
  | takeProfit
  | horizon
  deriving DecidableEq

inductive GridEligibilityStatus where
  | notActivePause
  | pendingHorizon
  | pendingDataGap
  | resolved
  deriving DecidableEq

/-- Whether the accrued funding of an episode may be reported. -/
inductive FundingStatus where
  | complete
  | ambiguousFundingBoundary
  | incomplete
  | notApplicable
  deriving DecidableEq

inductive PathName where
  | pathA
  | pathB
  deriving DecidableEq

/-- The entries of `ambiguity_events`, with the fields each kind records. -/
inductive AmbiguityEvent where
  | twoPathDivergence (candleOpenMs : Int) (selectedPath : PathName)
  | ambiguousFundingBoundary (fundingTimeMs candleOpenMs : Int)
  deriving DecidableEq

/-! ### Lots -/

/-- An active lot filling a specific grid slot. -/
structure OpenLot where
  slotIndex : Int
  side : LotSide
  openPrice : ℚ
  openTimeMs : Int
  quantity : ℚ
  openingFee : ℚ
  deriving DecidableEq

namespace OpenLot

/-- The sign the source gives a side: `+1` long, `-1` short. -/
def sign (lot : OpenLot) : ℚ :=
  match lot.side with
  | .long => 1
  | .short => -1

def signedNotional (lot : OpenLot) (markPrice : ℚ) : ℚ :=
  lot.quantity * markPrice * lot.sign

def unrealizedPnl (lot : OpenLot) (markPrice : ℚ) : ℚ :=
  match lot.side with
  | .long => lot.quantity * (markPrice - lot.openPrice)
  | .short => lot.quantity * (lot.openPrice - markPrice)

end OpenLot

/-! ### The state -/

/-- `GridSimulationState`, with the defaults of its fields. -/
structure GridSimulationState where
  openLots : List OpenLot := []
  pairedCycleCount : ℕ := 0
  pairedGrossPnl : ℚ := 0
  pairedMakerFees : ℚ := 0
  terminalUnpairedGrossPnl : ℚ := 0
  terminalTakerFee : ℚ := 0
  terminalSlippageCost : ℚ := 0
  isTerminal : Bool := false
  terminalTimeMs : Option Int := none
  terminalReason : Option GridTerminalReason := none
  terminalExecutionPrice : Option ℚ := none
  lastMarkPrice : ℚ := 0
  lastMarkTimeMs : Int := 0
  accruedFundingPnl : ℚ := 0
  fundingStatus : FundingStatus := .complete
  fundingSettlementCount : ℕ := 0
  minMarkedEquity : ℚ := 0
  peakMarkedEquity : ℚ := 0
  maxDrawdownFromPriorPeak : ℚ := 0
  longInventoryPeak : ℚ := 0
  shortInventoryPeak : ℚ := 0
  maxAbsInventoryNotional : ℚ := 0
  maxOpenLotCount : ℕ := 0
  timeWeightedInventorySegments : List (Int × ℚ) := []
  equitySnapshots : List (Int × ℚ) := []
  lowerBoundaryBreached : Bool := false
  upperBoundaryBreached : Bool := false
  firstLowerBoundaryBreachMs : Option Int := none
  firstUpperBoundaryBreachMs : Option Int := none
  boundaryBreachCount : ℕ := 0
  ambiguityEvents : List AmbiguityEvent := []
  deriving DecidableEq

namespace GridSimulationState

/-- `slot in open_lots` and `open_lots[slot]`. -/
def lotAt (state : GridSimulationState) (slot : Int) : Option OpenLot :=
  KeyedList.lookup OpenLot.slotIndex state.openLots slot

/-- Compute signed marked inventory notional (`+1` long, `-1` short). -/
def computeSignedInventoryNotional (state : GridSimulationState) (markPrice : ℚ) : ℚ :=
  (state.openLots.map fun lot => lot.signedNotional markPrice).sum

def computeUnrealizedPnl (state : GridSimulationState) (markPrice : ℚ) : ℚ :=
  (state.openLots.map fun lot => lot.unrealizedPnl markPrice).sum

def computeCurrentMarkedEquity (state : GridSimulationState) (markPrice : ℚ) : ℚ :=
  let totalFees := state.pairedMakerFees + state.terminalTakerFee
  let totalSlippage := state.terminalSlippageCost
  let realizedPnl := state.pairedGrossPnl + state.terminalUnpairedGrossPnl
  let funding := if state.fundingStatus = .complete then state.accruedFundingPnl else 0
  realizedPnl - totalFees - totalSlippage + funding + state.computeUnrealizedPnl markPrice

def sideNotional (state : GridSimulationState) (side : LotSide) (markPrice : ℚ) : ℚ :=
  ((state.openLots.filter fun lot => lot.side = side).map fun lot =>
    lot.quantity * markPrice).sum

def recordMarkSnapshot (state : GridSimulationState) (timestampMs : Int) (markPrice : ℚ) :
    GridSimulationState :=
  -- The elapsed duration is weighted with the inventory held now, at the previous mark price.
  let segments :=
    if 0 < state.lastMarkTimeMs ∧ state.lastMarkTimeMs < timestampMs then
      state.timeWeightedInventorySegments ++
        [(timestampMs - state.lastMarkTimeMs,
          |state.computeSignedInventoryNotional state.lastMarkPrice|)]
    else state.timeWeightedInventorySegments
  let absNotional := |state.computeSignedInventoryNotional markPrice|
  let equity := state.computeCurrentMarkedEquity markPrice
  let peak := max state.peakMarkedEquity equity
  { state with
    timeWeightedInventorySegments := segments
    lastMarkPrice := markPrice
    lastMarkTimeMs := timestampMs
    maxAbsInventoryNotional := max state.maxAbsInventoryNotional absNotional
    maxOpenLotCount := max state.maxOpenLotCount state.openLots.length
    longInventoryPeak := max state.longInventoryPeak (state.sideNotional .long markPrice)
    shortInventoryPeak := max state.shortInventoryPeak (state.sideNotional .short markPrice)
    equitySnapshots := state.equitySnapshots ++ [(timestampMs, equity)]
    minMarkedEquity := min state.minMarkedEquity equity
    peakMarkedEquity := peak
    maxDrawdownFromPriorPeak := min state.maxDrawdownFromPriorPeak (equity - peak) }

section RecordMarkSnapshot

variable (state : GridSimulationState) (timestampMs : Int) (markPrice : ℚ)

@[simp] theorem recordMarkSnapshot_openLots :
    (state.recordMarkSnapshot timestampMs markPrice).openLots = state.openLots := rfl

@[simp] theorem recordMarkSnapshot_isTerminal :
    (state.recordMarkSnapshot timestampMs markPrice).isTerminal = state.isTerminal := rfl

@[simp] theorem recordMarkSnapshot_terminalTimeMs :
    (state.recordMarkSnapshot timestampMs markPrice).terminalTimeMs =
      state.terminalTimeMs := rfl

end RecordMarkSnapshot

/-- The lots that stay when the lot of a slot is taken (`open_lots.pop(slot)`). -/
def popLot (state : GridSimulationState) (slot : Int) : List OpenLot :=
  KeyedList.erase OpenLot.slotIndex state.openLots slot

end GridSimulationState

end QuantAgent.Grid
