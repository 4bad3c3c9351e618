/-
This file embeds the crossing engine of the grid shadow: one monotone price segment, the
forced close at a terminal price, a path of segments through the four prices of a bar, and
the conservative choice between the two paths a bar allows.

The source spells out the opening of a lot four times and the closing of a lot four times.
Here `ascendingAction` and `descendingAction` keep the source's case analysis, and one
`performAction` carries out what the case decides.
-/

import QuantAgent.Grid.State

namespace QuantAgent.Grid

/-- The keyword arguments `sim_params` every segment receives. -/
structure SimParams where
  gridDecision : GridDecision
  levels : List ℚ
  anchorIndex : ℕ
  unitNotional : ℚ
  makerFeeRate : ℚ
  takerFeeRate : ℚ
  slippageBpsPerSide : ℚ
  stopLoss : Option ℚ
  takeProfit : Option ℚ
  deriving DecidableEq

namespace SimParams

/-- `n_slots = n_levels - 1`. -/
def slotCount (params : SimParams) : ℕ := params.levels.length - 1

def slippageMult (params : SimParams) : ℚ := params.slippageBpsPerSide / 10000

end SimParams

/-! ### What a crossing does -/

/-- What crossing one level does to the lots. The two closings differ in the sign of the
realised gross: an upward crossing closes long, a downward crossing closes short. -/
inductive LotAction where
  | openLot (slot : Int) (side : LotSide)
  | closeLong (lot : OpenLot)
  | closeShort (lot : OpenLot)

/-- The ascending branch: which action the crossing of level `index` takes, if any. -/
def ascendingAction (params : SimParams) (state : GridSimulationState) (index : ℕ) :
    Option LotAction :=
  match params.gridDecision with
  | .longBias => (state.lotAt (index - 1)).map .closeLong
  | .shortBias =>
    if 1 ≤ index ∧ index ≤ params.slotCount ∧ state.lotAt index = none then
      some (.openLot index .short)
    else none
  | .neutral =>
    if index ≤ params.anchorIndex then (state.lotAt (index - 1)).map .closeLong
    else if state.lotAt index = none then some (.openLot index .short)
    else none
  | .pause => none

def descendingAction (params : SimParams) (state : GridSimulationState) (index : ℕ) :
    Option LotAction :=
  match params.gridDecision with
  | .longBias =>
    if index < params.slotCount ∧ state.lotAt index = none then some (.openLot index .long)
    else none
  | .shortBias => (state.lotAt (index + 1)).map .closeShort
  | .neutral =>
    if params.anchorIndex ≤ index then (state.lotAt (index + 1)).map .closeShort
    else if state.lotAt index = none then some (.openLot index .long)
    else none
  | .pause => none

namespace LotAction

def gross (level : ℚ) : LotAction → ℚ
  | .openLot _ _ => 0
  | .closeLong lot => lot.quantity * (level - lot.openPrice)
  | .closeShort lot => lot.quantity * (lot.openPrice - level)

def makerFee (params : SimParams) (level : ℚ) : LotAction → ℚ
  | .openLot _ _ => params.unitNotional * params.makerFeeRate
  | .closeLong lot => |lot.quantity * level| * params.makerFeeRate
  | .closeShort lot => |lot.quantity * level| * params.makerFeeRate

def lots (params : SimParams) (state : GridSimulationState) (level : ℚ)
    (timestampMs : Int) : LotAction → List OpenLot
  | .openLot slot side =>
    state.openLots ++ [{
      slotIndex := slot
      side := side
      openPrice := level
      openTimeMs := timestampMs
      quantity := params.unitNotional / level
      openingFee := params.unitNotional * params.makerFeeRate }]
  | .closeLong lot => state.popLot lot.slotIndex
  | .closeShort lot => state.popLot lot.slotIndex

def cycles : LotAction → ℕ
  | .openLot _ _ => 0
  | .closeLong _ => 1
  | .closeShort _ => 1

end LotAction

def performAction (params : SimParams) (timestampMs : Int) (level : ℚ)
    (state : GridSimulationState) (action : LotAction) : GridSimulationState :=
  { state with
    openLots := action.lots params state level timestampMs
    pairedCycleCount := state.pairedCycleCount + action.cycles
    pairedGrossPnl := state.pairedGrossPnl + action.gross level
    pairedMakerFees := state.pairedMakerFees + action.makerFee params level
    : GridSimulationState }.recordMarkSnapshot timestampMs level

/-- One crossed level of a segment; `actionOf` is the branch of the segment's direction. -/
def crossLevel (params : SimParams) (timestampMs : Int)
    (actionOf : SimParams → GridSimulationState → ℕ → Option LotAction)
    (state : GridSimulationState) (crossed : ℚ × ℕ) : GridSimulationState :=
  match actionOf params state crossed.2 with
  | none => state
  | some action => performAction params timestampMs crossed.1 state action

/-! ### The terminal trigger -/

/-- The guard the source repeats for the stop loss and the take profit: a strictly monotone
segment whose closed range contains the price. -/
def segmentTouches (p0 p1 price : ℚ) : Prop :=
  (p1 < p0 ∧ p1 ≤ price ∧ price ≤ p0) ∨ (p0 < p1 ∧ p0 ≤ price ∧ price ≤ p1)

instance (p0 p1 price : ℚ) : Decidable (segmentTouches p0 p1 price) :=
  inferInstanceAs (Decidable (_ ∨ _))

def terminalTrigger (params : SimParams) (p0 p1 : ℚ) : Option (GridTerminalReason × ℚ) :=
  let stopHit := params.stopLoss.filter fun price => segmentTouches p0 p1 price
  let targetHit := params.takeProfit.filter fun price => segmentTouches p0 p1 price
  match stopHit, targetHit with
  | none, none => none
  | some stop, none => some (.stopLoss, stop)
  | none, some target => some (.takeProfit, target)
  | some stop, some target =>
    if |target - p0| < |stop - p0| then some (.takeProfit, target)
    else some (.stopLoss, stop)

/-! ### The forced close -/

def terminalExecPrice (params : SimParams) (terminalPrice : ℚ) (lot : OpenLot) : ℚ :=
  match lot.side with
  | .long => terminalPrice * (1 - params.slippageMult)
  | .short => terminalPrice * (1 + params.slippageMult)

def terminalGross (params : SimParams) (terminalPrice : ℚ) (lot : OpenLot) : ℚ :=
  match lot.side with
  | .long => lot.quantity * (terminalExecPrice params terminalPrice lot - lot.openPrice)
  | .short => lot.quantity * (lot.openPrice - terminalExecPrice params terminalPrice lot)

def terminalSlip (params : SimParams) (terminalPrice : ℚ) (lot : OpenLot) : ℚ :=
  lot.quantity * terminalPrice * params.slippageMult

def terminalFee (params : SimParams) (terminalPrice : ℚ) (lot : OpenLot) : ℚ :=
  |lot.quantity * terminalExecPrice params terminalPrice lot| * params.takerFeeRate

def forceCloseAtTerminal (params : SimParams) (state : GridSimulationState)
    (terminalPrice : ℚ) (terminalTimeMs : Int) (reason : GridTerminalReason) :
    GridSimulationState :=
  { state with
    isTerminal := true
    terminalReason := some reason
    terminalTimeMs := some terminalTimeMs
    terminalExecutionPrice := some terminalPrice
    openLots := []
    terminalUnpairedGrossPnl := (state.openLots.map (terminalGross params terminalPrice)).sum
    terminalTakerFee := (state.openLots.map (terminalFee params terminalPrice)).sum
    terminalSlippageCost := (state.openLots.map (terminalSlip params terminalPrice)).sum
    : GridSimulationState }.recordMarkSnapshot terminalTimeMs terminalPrice

/-! ### Segments and paths -/

/-- The levels an ascending segment crosses, lowest first, with their indices. -/
def ascendingCrossed (params : SimParams) (p0 effectiveP1 : ℚ) : List (ℚ × ℕ) :=
  params.levels.zipIdx.filter fun crossed => p0 ≤ crossed.1 ∧ crossed.1 ≤ effectiveP1

def descendingCrossed (params : SimParams) (p0 effectiveP1 : ℚ) : List (ℚ × ℕ) :=
  (params.levels.zipIdx.filter fun crossed =>
    effectiveP1 ≤ crossed.1 ∧ crossed.1 ≤ p0).reverse

/-- The crossings of a segment up to `effectiveP1`; a flat segment crosses nothing. -/
def crossSegment (params : SimParams) (timestampMs : Int) (p0 p1 effectiveP1 : ℚ)
    (state : GridSimulationState) : GridSimulationState :=
  if p0 < p1 then
    (ascendingCrossed params p0 effectiveP1).foldl
      (crossLevel params timestampMs ascendingAction) state
  else if p1 < p0 then
    (descendingCrossed params p0 effectiveP1).foldl
      (crossLevel params timestampMs descendingAction) state
  else state

/-- Process a single monotonic price segment (`p0 -> p1`). The flag says whether a terminal
event was reached. -/
def processMonotonicSegment (params : SimParams) (timestampMs : Int)
    (state : GridSimulationState) (p0 p1 : ℚ) : GridSimulationState × Bool :=
  if state.isTerminal then (state, true)
  else
    match terminalTrigger params p0 p1 with
    | some (reason, target) =>
      -- Crossings beyond the trigger never happen.
      (forceCloseAtTerminal params (crossSegment params timestampMs p0 p1 target state)
        target timestampMs reason, true)
    | none =>
      ((crossSegment params timestampMs p0 p1 p1 state).recordMarkSnapshot timestampMs p1,
        false)

section Activity

variable (params : SimParams) (timestampMs : Int) (state : GridSimulationState)

theorem crossLevels_frame {Field : Type} (field : GridSimulationState → Field)
    (untouched : ∀ other level action,
      field (performAction params timestampMs level other action) = field other)
    (actionOf : SimParams → GridSimulationState → ℕ → Option LotAction)
    (crossings : List (ℚ × ℕ)) :
    field (crossings.foldl (crossLevel params timestampMs actionOf) state) = field state := by
  induction crossings generalizing state with
  | nil => rfl
  | cons crossed rest inductionHypothesis =>
    rw [List.foldl_cons, inductionHypothesis]
    unfold crossLevel
    cases actionOf params state crossed.2 with
    | none => rfl
    | some action => exact untouched state crossed.1 action

theorem crossSegment_frame {Field : Type} (field : GridSimulationState → Field)
    (untouched : ∀ other level action,
      field (performAction params timestampMs level other action) = field other)
    (p0 p1 effectiveP1 : ℚ) :
    field (crossSegment params timestampMs p0 p1 effectiveP1 state) = field state := by
  unfold crossSegment
  split_ifs
  · exact crossLevels_frame params timestampMs state field untouched _ _
  · exact crossLevels_frame params timestampMs state field untouched _ _
  · rfl

/-- Only the forced close ends an episode; crossings do not. -/
@[simp] theorem crossSegment_isTerminal (p0 p1 effectiveP1 : ℚ) :
    (crossSegment params timestampMs p0 p1 effectiveP1 state).isTerminal =
      state.isTerminal :=
  crossSegment_frame params timestampMs state GridSimulationState.isTerminal
    (fun _ _ _ => rfl) p0 p1 effectiveP1

@[simp] theorem crossSegment_terminalTimeMs (p0 p1 effectiveP1 : ℚ) :
    (crossSegment params timestampMs p0 p1 effectiveP1 state).terminalTimeMs =
      state.terminalTimeMs :=
  crossSegment_frame params timestampMs state GridSimulationState.terminalTimeMs
    (fun _ _ _ => rfl) p0 p1 effectiveP1

theorem processMonotonicSegment_flag (p0 p1 : ℚ) :
    (processMonotonicSegment params timestampMs state p0 p1).2 =
      (processMonotonicSegment params timestampMs state p0 p1).1.isTerminal := by
  unfold processMonotonicSegment
  by_cases ended : state.isTerminal
  · rw [if_pos ended]
    exact ended.symm
  · rw [if_neg ended]
    cases terminalTrigger params p0 p1 with
    | none => simpa using ended
    | some hit => rfl

end Activity

/-- Run simulation sequentially across segments defined by path points. -/
def simulatePath (params : SimParams) (timestampMs : Int) :
    GridSimulationState → List ℚ → GridSimulationState
  | state, p0 :: p1 :: rest =>
    let (next, terminated) := processMonotonicSegment params timestampMs state p0 p1
    if terminated then next else simulatePath params timestampMs next (p1 :: rest)
  | state, _ => state

theorem simulatePath_frame {Field : Type} (field : GridSimulationState → Field)
    (params : SimParams) (timestampMs : Int)
    (acts : ∀ other level action,
      field (performAction params timestampMs level other action) = field other)
    (marks : ∀ other price,
      field (other.recordMarkSnapshot timestampMs price) = field other)
    (closes : ∀ other price reason,
      field (forceCloseAtTerminal params other price timestampMs reason) = field other)
    (points : List ℚ) (state : GridSimulationState) :
    field (simulatePath params timestampMs state points) = field state := by
  have segment : ∀ other p0 p1,
      field (processMonotonicSegment params timestampMs other p0 p1).1 = field other := by
    intro other p0 p1
    have crossed : ∀ target,
        field (crossSegment params timestampMs p0 p1 target other) = field other :=
      fun target => crossSegment_frame params timestampMs other field acts p0 p1 target
    unfold processMonotonicSegment
    split_ifs
    · rfl
    · cases terminalTrigger params p0 p1 with
      | none => exact (marks _ p1).trans (crossed p1)
      | some hit => exact (closes _ hit.2 hit.1).trans (crossed hit.2)
  induction points generalizing state with
  | nil => rfl
  | cons p0 rest inductionHypothesis =>
    cases rest with
    | nil => rfl
    | cons p1 rest =>
      unfold simulatePath
      dsimp only
      split_ifs
      · exact segment state p0 p1
      · exact (inductionHypothesis _).trans (segment state p0 p1)

/-! ### The conservative choice -/

/-- `math.isclose(first, second, rel_tol=1e-8, abs_tol=1e-8)`. -/
def isClose (first second : ℚ) : Prop :=
  |first - second| ≤ max (1 / 10 ^ 8 * max |first| |second|) (1 / 10 ^ 8)

instance (first second : ℚ) : Decidable (isClose first second) :=
  inferInstanceAs (Decidable (_ ≤ _))

/-- Select between the two path states according to the deterministic conservative
hierarchy: lower marked equity, larger inventory, larger costs, `PATH_A`. -/
def selectConservativeState (stateA stateB : GridSimulationState) (closePrice : ℚ) :
    GridSimulationState × PathName × Bool :=
  let eqA := stateA.computeCurrentMarkedEquity closePrice
  let eqB := stateB.computeCurrentMarkedEquity closePrice
  let invA := |stateA.computeSignedInventoryNotional closePrice|
  let invB := |stateB.computeSignedInventoryNotional closePrice|
  let costsA := stateA.pairedMakerFees + stateA.terminalTakerFee + stateA.terminalSlippageCost
  let costsB := stateB.pairedMakerFees + stateB.terminalTakerFee + stateB.terminalSlippageCost
  let isDivergent : Bool := ¬ (isClose eqA eqB ∧ isClose invA invB ∧
    stateA.pairedCycleCount = stateB.pairedCycleCount ∧
    stateA.isTerminal = stateB.isTerminal)
  if ¬ isClose eqA eqB then
    if eqA < eqB then (stateA, .pathA, isDivergent) else (stateB, .pathB, isDivergent)
  else if ¬ isClose invA invB then
    if invB < invA then (stateA, .pathA, isDivergent) else (stateB, .pathB, isDivergent)
  else if ¬ isClose costsA costsB then
    if costsB < costsA then (stateA, .pathA, isDivergent) else (stateB, .pathB, isDivergent)
  else (stateA, .pathA, isDivergent)

/-- The choice returns one of the two states. -/
theorem selectConservativeState_cases (stateA stateB : GridSimulationState)
    (closePrice : ℚ) :
    (selectConservativeState stateA stateB closePrice).1 = stateA ∨
      (selectConservativeState stateA stateB closePrice).1 = stateB := by
  unfold selectConservativeState
  dsimp only
  split_ifs <;> simp

end QuantAgent.Grid
