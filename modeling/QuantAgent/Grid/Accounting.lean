/-
This file balances the books of a grid shadow episode.

The journal of a run lists what the simulation executed, in order: each crossing with its
level, and the forced close with the lots it liquidates. The cash flow, the fees and the
slippage of an entry are read off the entry alone, so the journal is the ledger the reported
totals have to agree with.

They agree up to one term. The gross of the forced close is taken at execution prices, which
already contain the slippage, and the report subtracts the slippage total again.
-/

import QuantAgent.Grid.Episode

namespace QuantAgent.Grid

/-! ### The journal of a run -/

/-- One executed step of the simulation. -/
inductive JournalEntry where
  | crossing (level : ℚ) (action : LotAction)
  | forcedClose (terminalPrice : ℚ) (lots : List OpenLot)

def crossingJournal (params : SimParams) (timestampMs : Int)
    (actionOf : SimParams → GridSimulationState → ℕ → Option LotAction) :
    GridSimulationState → List (ℚ × ℕ) → List JournalEntry
  | _, [] => []
  | state, crossed :: rest =>
    ((actionOf params state crossed.2).map (JournalEntry.crossing crossed.1)).toList ++
      crossingJournal params timestampMs actionOf
        (crossLevel params timestampMs actionOf state crossed) rest

def crossSegmentJournal (params : SimParams) (timestampMs : Int) (p0 p1 effectiveP1 : ℚ)
    (state : GridSimulationState) : List JournalEntry :=
  if p0 < p1 then
    crossingJournal params timestampMs ascendingAction state
      (ascendingCrossed params p0 effectiveP1)
  else if p1 < p0 then
    crossingJournal params timestampMs descendingAction state
      (descendingCrossed params p0 effectiveP1)
  else []

def segmentJournal (params : SimParams) (timestampMs : Int) (state : GridSimulationState)
    (p0 p1 : ℚ) : List JournalEntry :=
  if state.isTerminal then []
  else
    match terminalTrigger params p0 p1 with
    | some (_, target) =>
      crossSegmentJournal params timestampMs p0 p1 target state ++
        [.forcedClose target (crossSegment params timestampMs p0 p1 target state).openLots]
    | none => crossSegmentJournal params timestampMs p0 p1 p1 state

def pathJournal (params : SimParams) (timestampMs : Int) :
    GridSimulationState → List ℚ → List JournalEntry
  | state, p0 :: p1 :: rest =>
    let (next, terminated) := processMonotonicSegment params timestampMs state p0 p1
    segmentJournal params timestampMs state p0 p1 ++
      if terminated then [] else pathJournal params timestampMs next (p1 :: rest)
  | _, _ => []

def candleJournal (params : SimParams) (candle : Candle) (state : GridSimulationState) :
    List JournalEntry :=
  let stateA := simulatePath params candle.closeTimeMs state (pathAPoints candle)
  let stateB := simulatePath params candle.closeTimeMs state (pathBPoints candle)
  match (selectConservativeState stateA stateB candle.close).2.1 with
  | .pathA => pathJournal params candle.closeTimeMs state (pathAPoints candle)
  | .pathB => pathJournal params candle.closeTimeMs state (pathBPoints candle)

def candlesJournal (params : SimParams) (lowerBound upperBound : ℚ)
    (funding : List FundingRecord) : GridSimulationState → List Candle → List JournalEntry
  | _, [] => []
  | state, candle :: rest =>
    if state.isTerminal then []
    else
      candleJournal params candle (recordBreaches lowerBound upperBound candle state) ++
        candlesJournal params lowerBound upperBound funding
          (processCandle params lowerBound upperBound funding state candle) rest

def horizonJournal (horizonEndMs : Int) (candles : List Candle)
    (state : GridSimulationState) : List JournalEntry :=
  match candles.getLast? with
  | some final =>
    if ¬ state.isTerminal ∧ horizonEndMs ≤ final.closeTimeMs then
      [.forcedClose final.close state.openLots]
    else []
  | none => []

def runJournal (evidence : TacticalFeatureEvidence) (params : SimParams)
    (lowerBound upperBound referencePrice : ℚ) (candles1m : List Candle)
    (fundingRecords : List FundingRecord) : List JournalEntry :=
  let horizonEndMs := evidence.decisionTimeMs + gridHorizonMs
  let candles := validCandles evidence.decisionTimeMs horizonEndMs candles1m
  let start := initialState evidence referencePrice
  candlesJournal params lowerBound upperBound (sortedFunding fundingRecords) start candles ++
    horizonJournal horizonEndMs candles
      (simulateCandles params lowerBound upperBound (sortedFunding fundingRecords) start
        candles)

/-! ### The ledger of a journal -/

def JournalEntry.cash (params : SimParams) : JournalEntry → ℚ
  | .crossing level (.openLot _ .long) => -(params.unitNotional / level * level)
  | .crossing level (.openLot _ .short) => params.unitNotional / level * level
  | .crossing level (.closeLong lot) => lot.quantity * level
  | .crossing level (.closeShort lot) => -(lot.quantity * level)
  | .forcedClose terminalPrice lots =>
    (lots.map fun lot =>
      lot.sign * lot.quantity * terminalExecPrice params terminalPrice lot).sum

def JournalEntry.fee (params : SimParams) : JournalEntry → ℚ
  | .crossing level action => action.makerFee params level
  | .forcedClose terminalPrice lots => (lots.map (terminalFee params terminalPrice)).sum

/-- What the entry adds to the slippage total of the report. -/
def JournalEntry.slippage (params : SimParams) : JournalEntry → ℚ
  | .crossing _ _ => 0
  | .forcedClose terminalPrice lots => (lots.map (terminalSlip params terminalPrice)).sum

def journalCash (params : SimParams) (journal : List JournalEntry) : ℚ :=
  (journal.map (JournalEntry.cash params)).sum

def journalFees (params : SimParams) (journal : List JournalEntry) : ℚ :=
  (journal.map (JournalEntry.fee params)).sum

def journalSlippage (params : SimParams) (journal : List JournalEntry) : ℚ :=
  (journal.map (JournalEntry.slippage params)).sum

def JournalEntry.closes : JournalEntry → ℕ
  | .crossing _ _ => 0
  | .forcedClose _ _ => 1

/-- How many forced closes a journal holds. -/
def closeCount (journal : List JournalEntry) : ℕ :=
  (journal.map JournalEntry.closes).sum

namespace GridSimulationState

def costBasis (state : GridSimulationState) : ℚ :=
  (state.openLots.map fun lot => lot.sign * lot.quantity * lot.openPrice).sum

/-- `gross_before_costs` of the report. -/
def grossBeforeCosts (state : GridSimulationState) : ℚ :=
  state.pairedGrossPnl + state.terminalUnpairedGrossPnl

/-- `total_fees` of the report. -/
def totalFees (state : GridSimulationState) : ℚ :=
  state.pairedMakerFees + state.terminalTakerFee

end GridSimulationState

/-- The books balance across a part of the run: the gross less the cost of the open lots
moves by the cash flow of the journal, the fees and the slippage by its totals; and a forced
close, always of lots of positive size, is what ends the episode. -/
structure Balanced (params : SimParams) (before : GridSimulationState)
    (journal : List JournalEntry) (after : GridSimulationState) : Prop where
  gross : after.grossBeforeCosts - after.costBasis =
    before.grossBeforeCosts - before.costBasis + journalCash params journal
  fees : after.totalFees = before.totalFees + journalFees params journal
  slippage : after.terminalSlippageCost =
    before.terminalSlippageCost + journalSlippage params journal
  closes : after.isTerminal.toNat = before.isTerminal.toNat + closeCount journal
  closedPositive : ∀ price lots, .forcedClose price lots ∈ journal →
    ∀ lot ∈ lots, 0 < lot.quantity

variable {first second third : GridSimulationState}

namespace Balanced

variable {params : SimParams}

theorem refl (state : GridSimulationState) : Balanced params state [] state :=
  ⟨by simp [journalCash], by simp [journalFees], by simp [journalSlippage],
    by simp [closeCount], fun _ _ member => absurd member List.not_mem_nil⟩

theorem trans {early late : List JournalEntry}
    (head : Balanced params first early second) (tail : Balanced params second late third) :
    Balanced params first (early ++ late) third where
  gross := by
    rw [tail.gross, head.gross, journalCash, journalCash, journalCash, List.map_append,
      List.sum_append, add_assoc]
  fees := by
    rw [tail.fees, head.fees, journalFees, journalFees, journalFees, List.map_append,
      List.sum_append, add_assoc]
  slippage := by
    rw [tail.slippage, head.slippage, journalSlippage, journalSlippage, journalSlippage,
      List.map_append, List.sum_append, add_assoc]
  closes := by
    rw [tail.closes, head.closes, closeCount, closeCount, closeCount, List.map_append,
      List.sum_append, add_assoc]
  closedPositive := fun price lots member =>
    (List.mem_append.mp member).elim (head.closedPositive price lots)
      (tail.closedPositive price lots)

end Balanced

/-! ### What the lots of a run look like -/

def sideAllowed (params : SimParams) (slot : Int) (side : LotSide) : Prop :=
  match params.gridDecision, side with
  | .longBias, .long => True
  | .shortBias, .short => True
  | .neutral, .long => slot < params.anchorIndex
  | .neutral, .short => (params.anchorIndex : Int) < slot
  | _, _ => False

/-- The invariant of a run: one lot a slot, on the side of its slot, of positive size; the
terminal fields are still empty while the episode is active, the lots once it is not. -/
structure LotsSound (params : SimParams) (state : GridSimulationState) : Prop where
  distinct : KeyedList.Distinct OpenLot.slotIndex state.openLots
  sides : ∀ lot ∈ state.openLots, sideAllowed params lot.slotIndex lot.side
  positive : ∀ lot ∈ state.openLots, 0 < lot.quantity
  activeZero : state.isTerminal = false → state.terminalUnpairedGrossPnl = 0 ∧
    state.terminalTakerFee = 0 ∧ state.terminalSlippageCost = 0 ∧ state.terminalReason = none
  endedEmpty : state.isTerminal = true → state.openLots = []

/-- The geometry of an active plan: positive levels and a positive unit. -/
structure SimParams.Sound (params : SimParams) : Prop where
  levels : ∀ level ∈ params.levels, 0 < level
  unit : 0 < params.unitNotional

def LotAction.Permitted (params : SimParams) (state : GridSimulationState) :
    LotAction → Prop
  | .openLot slot side => state.lotAt slot = none ∧ sideAllowed params slot side
  | .closeLong lot => state.lotAt lot.slotIndex = some lot ∧ lot.side = .long
  | .closeShort lot => state.lotAt lot.slotIndex = some lot ∧ lot.side = .short

variable {action : LotAction}

section Permitted

variable {params : SimParams} {state : GridSimulationState}

theorem lotAt_permitted (sound : LotsSound params state) {slot : Int} {lot : OpenLot}
    (found : state.lotAt slot = some lot) {side : LotSide}
    (only : ∀ other, sideAllowed params slot other → other = side) :
    state.lotAt lot.slotIndex = some lot ∧ lot.side = side := by
  have slotSame : lot.slotIndex = slot := KeyedList.lookup_key found
  have allowed := sound.sides lot (KeyedList.lookup_mem found)
  rw [slotSame] at allowed ⊢
  exact ⟨found, only _ allowed⟩

variable {index : ℕ}

/-- A crossing upwards closes the long lot below the level, or opens a short lot at it. -/
theorem ascendingAction_cases (taken : ascendingAction params state index = some action) :
    (∃ lot, state.lotAt (index - 1) = some lot ∧ action = .closeLong lot ∧
        ∀ side, sideAllowed params (index - 1) side → side = .long) ∨
      (1 ≤ index ∧ action = .openLot index .short ∧ state.lotAt index = none ∧
        sideAllowed params index .short) := by
  unfold ascendingAction at taken
  cases decision : params.gridDecision with
  | pause => simp [decision] at taken
  | longBias =>
    simp only [decision, Option.map_eq_some_iff] at taken
    obtain ⟨lot, found, rfl⟩ := taken
    refine .inl ⟨lot, found, rfl, fun side allowed => ?_⟩
    cases side
    · rfl
    · simp [sideAllowed, decision] at allowed
  | shortBias =>
    simp only [decision, Option.ite_none_right_eq_some, Option.some.injEq] at taken
    obtain ⟨⟨above, -, empty⟩, rfl⟩ := taken
    exact .inr ⟨above, rfl, empty, by simp [sideAllowed, decision]⟩
  | neutral =>
    simp only [decision] at taken
    by_cases below : index ≤ params.anchorIndex
    · rw [if_pos below, Option.map_eq_some_iff] at taken
      obtain ⟨lot, found, rfl⟩ := taken
      refine .inl ⟨lot, found, rfl, fun side allowed => ?_⟩
      cases side
      · rfl
      · simp only [sideAllowed, decision] at allowed
        omega
    · rw [if_neg below, Option.ite_none_right_eq_some] at taken
      obtain ⟨empty, opened⟩ := taken
      cases opened
      refine .inr ⟨by omega, rfl, empty, ?_⟩
      simp only [sideAllowed, decision]
      omega

/-- A crossing downwards closes the short lot above the level, or opens a long lot at it. -/
theorem descendingAction_cases (taken : descendingAction params state index = some action) :
    (∃ lot, state.lotAt (index + 1) = some lot ∧ action = .closeShort lot ∧
        ∀ side, sideAllowed params (index + 1) side → side = .short) ∨
      ((index < params.slotCount ∨ index < params.anchorIndex) ∧
        action = .openLot index .long ∧ state.lotAt index = none ∧
        sideAllowed params index .long) := by
  unfold descendingAction at taken
  cases decision : params.gridDecision with
  | pause => simp [decision] at taken
  | longBias =>
    simp only [decision, Option.ite_none_right_eq_some, Option.some.injEq] at taken
    obtain ⟨⟨below, empty⟩, rfl⟩ := taken
    exact .inr ⟨.inl below, rfl, empty, by simp [sideAllowed, decision]⟩
  | shortBias =>
    simp only [decision, Option.map_eq_some_iff] at taken
    obtain ⟨lot, found, rfl⟩ := taken
    refine .inl ⟨lot, found, rfl, fun side allowed => ?_⟩
    cases side
    · simp [sideAllowed, decision] at allowed
    · rfl
  | neutral =>
    simp only [decision] at taken
    by_cases above : params.anchorIndex ≤ index
    · rw [if_pos above, Option.map_eq_some_iff] at taken
      obtain ⟨lot, found, rfl⟩ := taken
      refine .inl ⟨lot, found, rfl, fun side allowed => ?_⟩
      cases side
      · simp only [sideAllowed, decision] at allowed
        omega
      · rfl
    · rw [if_neg above, Option.ite_none_right_eq_some] at taken
      obtain ⟨empty, opened⟩ := taken
      cases opened
      refine .inr ⟨.inr (not_le.mp above), rfl, empty, ?_⟩
      simp only [sideAllowed, decision]
      omega

theorem ascendingAction_permitted (sound : LotsSound params state)
    (taken : ascendingAction params state index = some action) :
    action.Permitted params state := by
  obtain ⟨lot, found, rfl, only⟩ | ⟨-, rfl, empty, allowed⟩ := ascendingAction_cases taken
  · exact lotAt_permitted sound found only
  · exact ⟨empty, allowed⟩

theorem descendingAction_permitted (sound : LotsSound params state)
    (taken : descendingAction params state index = some action) :
    action.Permitted params state := by
  obtain ⟨lot, found, rfl, only⟩ | ⟨-, rfl, empty, allowed⟩ := descendingAction_cases taken
  · exact lotAt_permitted sound found only
  · exact ⟨empty, allowed⟩

end Permitted

/-! ### One crossing and the forced close -/

section Steps

variable {params : SimParams} {state : GridSimulationState} {timestampMs : Int} {level : ℚ}

/-- A snapshot touches neither the lots nor a total of the ledger. -/
theorem recordMarkSnapshot_balanced (params : SimParams) (state : GridSimulationState)
    (timestampMs : Int) (markPrice : ℚ) :
    Balanced params state [] (state.recordMarkSnapshot timestampMs markPrice) := by
  have same : Balanced params state [] state := Balanced.refl state
  exact ⟨same.gross, same.fees, same.slippage, same.closes, same.closedPositive⟩

theorem recordMarkSnapshot_sound (sound : LotsSound params state) (markPrice : ℚ) :
    LotsSound params (state.recordMarkSnapshot timestampMs markPrice) :=
  ⟨sound.distinct, sound.sides, sound.positive, sound.activeZero, sound.endedEmpty⟩

theorem performAction_sound (unit : 0 < params.unitNotional) (positive : 0 < level)
    (sound : LotsSound params state) (active : state.isTerminal = false)
    (permitted : action.Permitted params state) :
    LotsSound params (performAction params timestampMs level state action) := by
  -- A closing keeps a sublist of the lots, whichever formula it uses.
  have kept : ∀ slot : Int, ∀ lot ∈ state.popLot slot, lot ∈ state.openLots :=
    fun slot lot member => (KeyedList.mem_erase.mp member).1
  have unended : ∀ lots : List OpenLot, state.isTerminal = true → lots = [] :=
    fun _ ended => absurd (active.symm.trans ended) Bool.false_ne_true
  cases action with
  | openLot slot side =>
    obtain ⟨empty, allowed⟩ := permitted
    refine ⟨KeyedList.Distinct.append sound.distinct _ empty, ?_, ?_, sound.activeZero,
      unended _⟩
    · intro lot member
      rcases List.mem_append.mp member with old | new
      · exact sound.sides lot old
      · rw [List.mem_singleton.mp new]
        exact allowed
    · intro lot member
      rcases List.mem_append.mp member with old | new
      · exact sound.positive lot old
      · rw [List.mem_singleton.mp new]
        exact div_pos unit positive
  | closeLong closed =>
    exact ⟨sound.distinct.erase _, fun lot member => sound.sides lot (kept _ lot member),
      fun lot member => sound.positive lot (kept _ lot member), sound.activeZero, unended _⟩
  | closeShort closed =>
    exact ⟨sound.distinct.erase _, fun lot member => sound.sides lot (kept _ lot member),
      fun lot member => sound.positive lot (kept _ lot member), sound.activeZero, unended _⟩

theorem popLot_costBasis (sound : LotsSound params state) {lot : OpenLot}
    (found : state.lotAt lot.slotIndex = some lot) :
    ((state.popLot lot.slotIndex).map fun other =>
        other.sign * other.quantity * other.openPrice).sum +
      lot.sign * lot.quantity * lot.openPrice = state.costBasis :=
  KeyedList.sum_erase_add _ sound.distinct found

theorem performAction_balanced (sound : LotsSound params state)
    (permitted : action.Permitted params state) :
    Balanced params state [.crossing level action]
      (performAction params timestampMs level state action) := by
  refine ⟨?_, ?_, ?_, ?_, ?_⟩
  · -- The gross of a closing is its cash flow less the cost it releases.
    simp only [journalCash, List.map_cons, List.map_nil, List.sum_cons, List.sum_nil,
      add_zero]
    cases action with
    | openLot slot side =>
      show state.pairedGrossPnl + 0 + state.terminalUnpairedGrossPnl -
        ((state.openLots ++ [_]).map _).sum = _
      rw [List.map_append, List.sum_append]
      simp only [List.map_cons, List.map_nil, List.sum_cons, List.sum_nil,
        GridSimulationState.grossBeforeCosts, GridSimulationState.costBasis]
      cases side <;> simp only [JournalEntry.cash, OpenLot.sign] <;> ring
    | closeLong lot =>
      have released := popLot_costBasis sound permitted.1
      have signed : lot.sign = 1 := by rw [OpenLot.sign, permitted.2]
      rw [signed] at released
      show state.pairedGrossPnl + lot.quantity * (level - lot.openPrice) +
        state.terminalUnpairedGrossPnl - ((state.popLot lot.slotIndex).map _).sum = _
      rw [← released]
      simp only [JournalEntry.cash, GridSimulationState.grossBeforeCosts]
      ring
    | closeShort lot =>
      have released := popLot_costBasis sound permitted.1
      have signed : lot.sign = -1 := by rw [OpenLot.sign, permitted.2]
      rw [signed] at released
      show state.pairedGrossPnl + lot.quantity * (lot.openPrice - level) +
        state.terminalUnpairedGrossPnl - ((state.popLot lot.slotIndex).map _).sum = _
      rw [← released]
      simp only [JournalEntry.cash, GridSimulationState.grossBeforeCosts]
      ring
  · show state.pairedMakerFees + action.makerFee params level + state.terminalTakerFee = _
    simp only [journalFees, JournalEntry.fee, GridSimulationState.totalFees, List.map_cons,
      List.map_nil, List.sum_cons, List.sum_nil]
    ring
  · show state.terminalSlippageCost = _
    simp [journalSlippage, JournalEntry.slippage]
  · show state.isTerminal.toNat = _
    simp [closeCount, JournalEntry.closes]
  · intro price lots member
    simp at member

theorem forceCloseAtTerminal_sound (params : SimParams) (state : GridSimulationState)
    (terminalPrice : ℚ) (timestampMs : Int) (reason : GridTerminalReason) :
    LotsSound params
      (forceCloseAtTerminal params state terminalPrice timestampMs reason) :=
  ⟨KeyedList.distinct_nil, fun _ member => absurd member List.not_mem_nil,
    fun _ member => absurd member List.not_mem_nil, fun active => Bool.noConfusion active,
    fun _ => rfl⟩

theorem terminalGross_add_cost (params : SimParams) (terminalPrice : ℚ) (lot : OpenLot) :
    terminalGross params terminalPrice lot + lot.sign * lot.quantity * lot.openPrice =
      lot.sign * lot.quantity * terminalExecPrice params terminalPrice lot := by
  unfold terminalGross OpenLot.sign
  cases lot.side <;> simp only <;> ring

theorem forceCloseAtTerminal_balanced (sound : LotsSound params state)
    (active : state.isTerminal = false) (terminalPrice : ℚ) (reason : GridTerminalReason) :
    Balanced params state [.forcedClose terminalPrice state.openLots]
      (forceCloseAtTerminal params state terminalPrice timestampMs reason) := by
  obtain ⟨grossZero, feeZero, slipZero, -⟩ := sound.activeZero active
  have split : (state.openLots.map (terminalGross params terminalPrice)).sum +
      state.costBasis =
      (state.openLots.map fun lot =>
        lot.sign * lot.quantity * terminalExecPrice params terminalPrice lot).sum := by
    rw [GridSimulationState.costBasis, ← List.sum_map_add]
    exact congrArg List.sum
      (List.map_congr_left fun lot _ => terminalGross_add_cost params _ lot)
  refine ⟨?_, ?_, ?_, ?_, ?_⟩
  · show state.pairedGrossPnl +
      (state.openLots.map (terminalGross params terminalPrice)).sum - 0 = _
    rw [GridSimulationState.grossBeforeCosts, grossZero]
    simp only [journalCash, JournalEntry.cash, List.map_cons, List.map_nil, List.sum_cons,
      List.sum_nil]
    rw [← split]
    ring
  · show state.pairedMakerFees +
      (state.openLots.map (terminalFee params terminalPrice)).sum = _
    rw [GridSimulationState.totalFees, feeZero]
    simp only [journalFees, JournalEntry.fee, List.map_cons, List.map_nil, List.sum_cons,
      List.sum_nil]
    ring
  · show (state.openLots.map (terminalSlip params terminalPrice)).sum = _
    rw [slipZero]
    simp only [journalSlippage, JournalEntry.slippage, List.map_cons, List.map_nil,
      List.sum_cons, List.sum_nil]
    ring
  · show (1 : ℕ) = _
    simp [closeCount, JournalEntry.closes, active]
  · intro price lots member
    cases List.mem_singleton.mp member
    exact sound.positive

end Steps

/-! ### Steps that leave the books alone -/

/-- Two states that agree on everything the ledger and the crossings read. -/
structure SameBooks (before after : GridSimulationState) : Prop where
  openLots : after.openLots = before.openLots
  pairedCycleCount : after.pairedCycleCount = before.pairedCycleCount
  pairedGrossPnl : after.pairedGrossPnl = before.pairedGrossPnl
  pairedMakerFees : after.pairedMakerFees = before.pairedMakerFees
  terminalUnpairedGrossPnl : after.terminalUnpairedGrossPnl = before.terminalUnpairedGrossPnl
  terminalTakerFee : after.terminalTakerFee = before.terminalTakerFee
  terminalSlippageCost : after.terminalSlippageCost = before.terminalSlippageCost
  isTerminal : after.isTerminal = before.isTerminal
  terminalTimeMs : after.terminalTimeMs = before.terminalTimeMs
  terminalReason : after.terminalReason = before.terminalReason

namespace SameBooks

theorem refl (state : GridSimulationState) : SameBooks state state :=
  ⟨rfl, rfl, rfl, rfl, rfl, rfl, rfl, rfl, rfl, rfl⟩

theorem trans (early : SameBooks first second)
    (late : SameBooks second third) : SameBooks first third :=
  ⟨late.openLots.trans early.openLots, late.pairedCycleCount.trans early.pairedCycleCount,
    late.pairedGrossPnl.trans early.pairedGrossPnl,
    late.pairedMakerFees.trans early.pairedMakerFees,
    late.terminalUnpairedGrossPnl.trans early.terminalUnpairedGrossPnl,
    late.terminalTakerFee.trans early.terminalTakerFee,
    late.terminalSlippageCost.trans early.terminalSlippageCost,
    late.isTerminal.trans early.isTerminal, late.terminalTimeMs.trans early.terminalTimeMs,
    late.terminalReason.trans early.terminalReason⟩

variable {before after : GridSimulationState} (same : SameBooks before after)

include same

theorem sound {params : SimParams} (sound : LotsSound params before) :
    LotsSound params after where
  distinct := by rw [same.openLots]; exact sound.distinct
  sides := by rw [same.openLots]; exact sound.sides
  positive := by rw [same.openLots]; exact sound.positive
  activeZero := by
    rw [same.isTerminal, same.terminalUnpairedGrossPnl, same.terminalTakerFee,
      same.terminalSlippageCost, same.terminalReason]
    exact sound.activeZero
  endedEmpty := by
    rw [same.isTerminal, same.openLots]
    exact sound.endedEmpty

theorem balanced (params : SimParams) : Balanced params before [] after where
  gross := by
    simp [GridSimulationState.grossBeforeCosts, GridSimulationState.costBasis, journalCash,
      same.openLots, same.pairedGrossPnl, same.terminalUnpairedGrossPnl]
  fees := by
    simp [GridSimulationState.totalFees, journalFees, same.pairedMakerFees,
      same.terminalTakerFee]
  slippage := by simp [journalSlippage, same.terminalSlippageCost]
  closes := by simp [closeCount, same.isTerminal]
  closedPositive := fun _ _ member => absurd member List.not_mem_nil

end SameBooks

theorem recordBreaches_sameBooks (lowerBound upperBound : ℚ) (candle : Candle)
    (state : GridSimulationState) :
    SameBooks state (recordBreaches lowerBound upperBound candle state) := by
  unfold recordBreaches
  split_ifs <;> exact ⟨rfl, rfl, rfl, rfl, rfl, rfl, rfl, rfl, rfl, rfl⟩

theorem settleFunding_sameBooks (candle : Candle) (changed : Bool)
    (state : GridSimulationState) (record : FundingRecord) :
    SameBooks state (settleFunding candle changed state record) := by
  unfold settleFunding
  cases record.markPrice with
  | none => split_ifs <;> exact ⟨rfl, rfl, rfl, rfl, rfl, rfl, rfl, rfl, rfl, rfl⟩
  | some mark => split_ifs <;> exact ⟨rfl, rfl, rfl, rfl, rfl, rfl, rfl, rfl, rfl, rfl⟩

theorem settleFundings_sameBooks (candle : Candle) (changed : Bool)
    (funding : List FundingRecord) (state : GridSimulationState) :
    SameBooks state (funding.foldl (settleFunding candle changed) state) := by
  induction funding generalizing state with
  | nil => exact SameBooks.refl state
  | cons record rest inductionHypothesis =>
    exact (settleFunding_sameBooks candle changed state record).trans
      (inductionHypothesis _)

/-! ### Crossings and paths -/

/-- A relation between the states around a part of a run and the journal of that part, with an
invariant that lets every step enter it. -/
structure Journaled (params : SimParams) (invariant : GridSimulationState → Prop)
    (relation : GridSimulationState → List JournalEntry → GridSimulationState → Prop) : Prop where
  refl : ∀ {state}, invariant state → relation state [] state
  trans : ∀ {first second third early late}, relation first early second →
    relation second late third → relation first (early ++ late) third
  kept : ∀ {before journal after}, relation before journal after → invariant after
  crosses : ∀ {actionOf state} {crossed : ℚ × ℕ} {action} (timestampMs : Int),
    actionOf = ascendingAction ∨ actionOf = descendingAction → invariant state →
      state.isTerminal = false → params.levels[crossed.2]? = some crossed.1 →
        actionOf params state crossed.2 = some action →
          relation state [.crossing crossed.1 action]
            (performAction params timestampMs crossed.1 state action)
  marks : ∀ {state} (timestampMs : Int) (markPrice : ℚ), invariant state →
    relation state [] (state.recordMarkSnapshot timestampMs markPrice)
  closes : ∀ {state} (timestampMs : Int) (terminalPrice : ℚ) (reason : GridTerminalReason),
    invariant state → state.isTerminal = false →
      relation state [.forcedClose terminalPrice state.openLots]
        (forceCloseAtTerminal params state terminalPrice timestampMs reason)

namespace Journaled

variable {params : SimParams} {invariant : GridSimulationState → Prop}
  {relation : GridSimulationState → List JournalEntry → GridSimulationState → Prop}
  (journaled : Journaled params invariant relation) (timestampMs : Int)

include journaled

variable {state : GridSimulationState}

/-- Along a list of crossings, whichever direction decides them. -/
theorem crossings {actionOf : SimParams → GridSimulationState → ℕ → Option LotAction}
    (direction : actionOf = ascendingAction ∨ actionOf = descendingAction)
    (crossings : List (ℚ × ℕ))
    (inside : ∀ crossed ∈ crossings, params.levels[crossed.2]? = some crossed.1)
    (holds : invariant state) (active : state.isTerminal = false) :
    relation state (crossingJournal params timestampMs actionOf state crossings)
      (crossings.foldl (crossLevel params timestampMs actionOf) state) := by
  induction crossings generalizing state with
  | nil => exact journaled.refl holds
  | cons crossed rest inductionHypothesis =>
    have first : relation state
        ((actionOf params state crossed.2).map (JournalEntry.crossing crossed.1)).toList
        (crossLevel params timestampMs actionOf state crossed) := by
      unfold crossLevel
      cases taken : actionOf params state crossed.2 with
      | none => exact journaled.refl holds
      | some action =>
        exact journaled.crosses timestampMs direction holds active
          (inside crossed List.mem_cons_self) taken
    exact journaled.trans first (inductionHypothesis
      (fun other member => inside other (List.mem_cons_of_mem _ member)) (journaled.kept first)
      ((crossLevels_frame params timestampMs state GridSimulationState.isTerminal
        (fun _ _ _ => rfl) actionOf [crossed]).trans active))

theorem crossSegment (p0 p1 effectiveP1 : ℚ) (holds : invariant state)
    (active : state.isTerminal = false) :
    relation state (crossSegmentJournal params timestampMs p0 p1 effectiveP1 state)
      (crossSegment params timestampMs p0 p1 effectiveP1 state) := by
  have inside : ∀ crossed ∈ params.levels.zipIdx, params.levels[crossed.2]? = some crossed.1 :=
    fun crossed member => List.mem_zipIdx_iff_getElem?.mp member
  unfold Grid.crossSegment crossSegmentJournal
  by_cases ascending : p0 < p1
  · rw [if_pos ascending, if_pos ascending]
    exact journaled.crossings timestampMs (.inl rfl) _
      (fun crossed member => inside crossed (List.mem_of_mem_filter member)) holds active
  · rw [if_neg ascending, if_neg ascending]
    by_cases descending : p1 < p0
    · rw [if_pos descending, if_pos descending]
      exact journaled.crossings timestampMs (.inr rfl) _
        (fun crossed member =>
          inside crossed (List.mem_of_mem_filter (List.mem_reverse.mp member)))
        holds active
    · rw [if_neg descending, if_neg descending]
      exact journaled.refl holds

theorem segment (p0 p1 : ℚ) (holds : invariant state) :
    relation state (segmentJournal params timestampMs state p0 p1)
      (processMonotonicSegment params timestampMs state p0 p1).1 := by
  unfold processMonotonicSegment segmentJournal
  by_cases ended : state.isTerminal
  · rw [if_pos ended, if_pos ended]
    exact journaled.refl holds
  · rw [if_neg ended, if_neg ended]
    have unended : state.isTerminal = false := Bool.eq_false_iff.mpr ended
    cases terminalTrigger params p0 p1 with
    | none =>
      have crossed := journaled.crossSegment timestampMs p0 p1 p1 holds unended
      have marked := journaled.trans crossed
        (journaled.marks timestampMs p1 (journaled.kept crossed))
      rwa [List.append_nil] at marked
    | some hit =>
      obtain ⟨reason, target⟩ := hit
      have crossed := journaled.crossSegment timestampMs p0 p1 target holds unended
      have active := (crossSegment_isTerminal params timestampMs state p0 p1 target).trans unended
      exact journaled.trans crossed
        (journaled.closes timestampMs target reason (journaled.kept crossed) active)

theorem path (points : List ℚ) (holds : invariant state) :
    relation state (pathJournal params timestampMs state points)
      (simulatePath params timestampMs state points) := by
  induction points generalizing state with
  | nil => exact journaled.refl holds
  | cons p0 rest inductionHypothesis =>
    cases rest with
    | nil => exact journaled.refl holds
    | cons p1 rest =>
      have segment := journaled.segment timestampMs p0 p1 holds
      unfold simulatePath pathJournal
      by_cases terminated : (processMonotonicSegment params timestampMs state p0 p1).2
      · simp only [if_pos terminated, List.append_nil]
        exact segment
      · simp only [if_neg terminated]
        exact journaled.trans segment (inductionHypothesis (journaled.kept segment))

end Journaled

/-! ### Candles and episodes -/

/-- A part of the run carries the books: the lots stay sound and the journal balances. -/
structure Carried (params : SimParams) (before : GridSimulationState)
    (journal : List JournalEntry) (after : GridSimulationState) : Prop where
  sound : LotsSound params after
  balanced : Balanced params before journal after

theorem Carried.journaled {params : SimParams} (geometry : params.Sound) :
    Journaled params (LotsSound params) (Carried params) where
  refl sound := ⟨sound, Balanced.refl _⟩
  trans early late := ⟨late.sound, early.balanced.trans late.balanced⟩
  kept := Carried.sound
  crosses {_ state _ action} timestampMs direction sound active inside taken := by
    have permitted : action.Permitted params state := by
      obtain rfl | rfl := direction
      · exact ascendingAction_permitted sound taken
      · exact descendingAction_permitted sound taken
    exact ⟨performAction_sound geometry.unit
        (geometry.levels _ (List.mem_of_getElem? inside)) sound active permitted,
      performAction_balanced sound permitted⟩
  marks timestampMs markPrice sound :=
    ⟨recordMarkSnapshot_sound sound markPrice,
      recordMarkSnapshot_balanced params _ timestampMs markPrice⟩
  closes timestampMs terminalPrice reason sound active :=
    ⟨forceCloseAtTerminal_sound params _ terminalPrice timestampMs reason,
      forceCloseAtTerminal_balanced sound active terminalPrice reason⟩

section Runs

variable {params : SimParams} (geometry : params.Sound)

include geometry

variable {state : GridSimulationState}

omit geometry

theorem selectConservativeState_path (stateA stateB : GridSimulationState) (closePrice : ℚ) :
    (selectConservativeState stateA stateB closePrice).1 =
      match (selectConservativeState stateA stateB closePrice).2.1 with
      | .pathA => stateA
      | .pathB => stateB := by
  unfold selectConservativeState
  dsimp only
  split_ifs <;> rfl

include geometry

theorem simulateCandle_carried (candle : Candle) (sound : LotsSound params state) :
    Carried params state (candleJournal params candle state)
      (simulateCandle params candle state) := by
  unfold simulateCandle runTwoPaths candleJournal
  simp only [selectConservativeState_path]
  cases (selectConservativeState
    (simulatePath params candle.closeTimeMs state (pathAPoints candle))
    (simulatePath params candle.closeTimeMs state (pathBPoints candle)) candle.close).2.1 with
  | pathA => exact (Carried.journaled geometry).path candle.closeTimeMs _ sound
  | pathB => exact (Carried.journaled geometry).path candle.closeTimeMs _ sound

theorem processCandle_carried (lowerBound upperBound : ℚ) (funding : List FundingRecord)
    (candle : Candle) (sound : LotsSound params state) :
    Carried params state
      (candleJournal params candle (recordBreaches lowerBound upperBound candle state))
      (processCandle params lowerBound upperBound funding state candle) := by
  have marked := recordBreaches_sameBooks lowerBound upperBound candle state
  have simulated := simulateCandle_carried geometry candle (marked.sound sound)
  have settled := settleFundings_sameBooks candle
    (lotsChanged (recordBreaches lowerBound upperBound candle state)
      (simulateCandle params candle (recordBreaches lowerBound upperBound candle state)))
    funding (simulateCandle params candle (recordBreaches lowerBound upperBound candle state))
  have books := (marked.balanced params).trans
    (simulated.balanced.trans (settled.balanced params))
  rw [List.append_nil, List.nil_append] at books
  exact ⟨settled.sound simulated.sound, books⟩

theorem simulateCandles_carried (lowerBound upperBound : ℚ) (funding : List FundingRecord)
    (candles : List Candle) (sound : LotsSound params state) :
    Carried params state
      (candlesJournal params lowerBound upperBound funding state candles)
      (simulateCandles params lowerBound upperBound funding state candles) := by
  induction candles generalizing state with
  | nil => exact ⟨sound, Balanced.refl state⟩
  | cons candle rest inductionHypothesis =>
    unfold simulateCandles candlesJournal
    by_cases ended : state.isTerminal
    · rw [if_pos ended, if_pos ended]
      exact ⟨sound, Balanced.refl state⟩
    · rw [if_neg ended, if_neg ended]
      have first := processCandle_carried geometry lowerBound upperBound funding candle sound
      have later := inductionHypothesis first.sound
      exact ⟨later.sound, first.balanced.trans later.balanced⟩

omit geometry

theorem closeAtHorizon_carried (horizonEndMs : Int) (candles : List Candle)
    (sound : LotsSound params state) :
    Carried params state (horizonJournal horizonEndMs candles state)
      (closeAtHorizon params horizonEndMs candles state) := by
  unfold closeAtHorizon horizonJournal
  cases candles.getLast? with
  | none => exact ⟨sound, Balanced.refl state⟩
  | some final =>
    by_cases reached : ¬ state.isTerminal ∧ horizonEndMs ≤ final.closeTimeMs
    · simp only [if_pos reached]
      exact ⟨forceCloseAtTerminal_sound params state final.close horizonEndMs .horizon,
        forceCloseAtTerminal_balanced sound (Bool.eq_false_iff.mpr reached.1) final.close
          .horizon⟩
    · simp only [if_neg reached]
      exact ⟨sound, Balanced.refl state⟩

include geometry

theorem runEpisode_carried (evidence : TacticalFeatureEvidence)
    (lowerBound upperBound referencePrice : ℚ) (candles1m : List Candle)
    (fundingRecords : List FundingRecord) :
    Carried params (initialState evidence referencePrice)
      (runJournal evidence params lowerBound upperBound referencePrice candles1m
        fundingRecords)
      (runEpisode evidence params lowerBound upperBound referencePrice candles1m
        fundingRecords) := by
  have start : LotsSound params (initialState evidence referencePrice) :=
    ⟨KeyedList.distinct_nil, fun _ member => absurd member List.not_mem_nil,
      fun _ member => absurd member List.not_mem_nil, fun _ => ⟨rfl, rfl, rfl, rfl⟩,
      fun _ => rfl⟩
  have loop := simulateCandles_carried geometry lowerBound upperBound
    (sortedFunding fundingRecords)
    (validCandles evidence.decisionTimeMs (evidence.decisionTimeMs + gridHorizonMs) candles1m)
    start
  have horizon := closeAtHorizon_carried (evidence.decisionTimeMs + gridHorizonMs)
    (validCandles evidence.decisionTimeMs (evidence.decisionTimeMs + gridHorizonMs) candles1m)
    loop.sound
  exact ⟨horizon.sound, loop.balanced.trans horizon.balanced⟩

end Runs

/-! ### The geometry of an active plan -/

theorem constructGridLevels_positive {lowerBound upperBound : ℚ} {gridCount : ℕ}
    {levels : List ℚ} (built : constructGridLevels lowerBound upperBound gridCount = .ok levels) :
    ∀ level ∈ levels, 0 < level := by
  unfold constructGridLevels at built
  split_ifs at built with nonpositive inverted few
  cases built
  intro level member
  obtain ⟨index, -, rfl⟩ := List.mem_map.mp member
  have lower : 0 < lowerBound := not_le.mp nonpositive
  have step : 0 ≤ (upperBound - lowerBound) / gridCount :=
    div_nonneg (sub_nonneg.mpr (not_le.mp inverted).le) (Nat.cast_nonneg _)
  exact add_pos_of_pos_of_nonneg lower (mul_nonneg (Nat.cast_nonneg _) step)

variable {params : SimParams} {evidence : TacticalFeatureEvidence}

theorem episodeParams_built {plan : GridPlanEvidence}
    {bounds : ℚ × ℚ × ℚ} (geometry : episodeParams evidence plan = .ok (params, bounds)) :
    ∃ lower upper referencePrice,
      constructGridLevels lower upper plan.gridCount = .ok params.levels ∧
      computeAnchorIndex params.levels referencePrice = .ok params.anchorIndex ∧
      params.unitNotional = 1 / plan.gridCount ∧ params.gridDecision = plan.decision ∧
      3 ≤ plan.gridCount := by
  unfold episodeParams at geometry
  split at geometry
  · rename_i lower upper _ _
    by_cases few : plan.gridCount < 3
    · rw [if_pos few] at geometry
      cases geometry
    · rw [if_neg few] at geometry
      cases resolved : resolveReferencePrice plan evidence with
      | error message => rw [resolved] at geometry; cases geometry
      | ok referencePrice =>
        cases built : constructGridLevels lower upper plan.gridCount with
        | error message => rw [resolved, built] at geometry; cases geometry
        | ok levels =>
          cases anchored : computeAnchorIndex levels referencePrice with
          | error message =>
            rw [resolved, built] at geometry
            simp [anchored, bind, Except.bind] at geometry
          | ok anchorIndex =>
            rw [resolved, built] at geometry
            simp only [anchored, bind, Except.bind, pure, Except.pure, Except.ok.injEq,
              Prod.mk.injEq] at geometry
            obtain ⟨rfl, -⟩ := geometry
            exact ⟨lower, upper, referencePrice, built, anchored, rfl, rfl, not_lt.mp few⟩
  · cases geometry

theorem episodeParams_sound {plan : GridPlanEvidence}
    {bounds : ℚ × ℚ × ℚ} (geometry : episodeParams evidence plan = .ok (params, bounds)) :
    params.Sound := by
  obtain ⟨lower, upper, referencePrice, built, -, unit, -, enough⟩ :=
    episodeParams_built geometry
  have count : (0 : ℚ) < plan.gridCount := by exact_mod_cast (by omega : 0 < plan.gridCount)
  exact ⟨constructGridLevels_positive built, unit ▸ one_div_pos.mpr count⟩

/-! ### The reported net against the ledger -/

theorem terminalSlip_sum_eq_zero {terminalPrice : ℚ} {lots : List OpenLot}
    (positive : ∀ lot ∈ lots, 0 < lot.quantity) :
    (lots.map (terminalSlip params terminalPrice)).sum = 0 ↔
      params.slippageMult = 0 ∨ terminalPrice = 0 ∨ lots = [] := by
  have total : (lots.map (terminalSlip params terminalPrice)).sum =
      (lots.map OpenLot.quantity).sum * (terminalPrice * params.slippageMult) := by
    rw [← List.sum_map_mul_right]
    exact congrArg List.sum (List.map_congr_left fun lot _ => mul_assoc _ _ _)
  have size : (lots.map OpenLot.quantity).sum = 0 ↔ lots = [] := by
    cases lots with
    | nil => simp
    | cons first rest =>
      have later : 0 ≤ (rest.map OpenLot.quantity).sum := List.sum_nonneg fun quantity member => by
        obtain ⟨lot, lotMember, rfl⟩ := List.mem_map.mp member
        exact (positive lot (List.mem_cons_of_mem _ lotMember)).le
      have head := positive first List.mem_cons_self
      simp only [List.map_cons, List.sum_cons, reduceCtorEq, iff_false]
      linarith
  rw [total, mul_eq_zero, mul_eq_zero, size]
  tauto

theorem journalSlippage_eq_zero (params : SimParams) {journal : List JournalEntry}
    (single : closeCount journal ≤ 1)
    (positive : ∀ price lots, .forcedClose price lots ∈ journal →
      ∀ lot ∈ lots, 0 < lot.quantity) :
    journalSlippage params journal = 0 ↔ params.slippageMult = 0 ∨
      ∀ price lots, .forcedClose price lots ∈ journal → price = 0 ∨ lots = [] := by
  induction journal with
  | nil => simp [journalSlippage]
  | cons entry rest inductionHypothesis =>
    have restPositive : ∀ price lots, .forcedClose price lots ∈ rest →
        ∀ lot ∈ lots, 0 < lot.quantity :=
      fun price lots member => positive price lots (List.mem_cons_of_mem _ member)
    cases entry with
    | crossing level action =>
      have restSingle : closeCount rest ≤ 1 := by
        simpa [closeCount, JournalEntry.closes] using single
      have same : journalSlippage params (.crossing level action :: rest) =
          journalSlippage params rest := by
        simp [journalSlippage, JournalEntry.slippage]
      rw [same, inductionHypothesis restSingle restPositive]
      simp
    | forcedClose price lots =>
      have forcedCount : closeCount (.forcedClose price lots :: rest) = 1 + closeCount rest := by
        simp [closeCount, JournalEntry.closes]
      -- The rest holds no further forced close, hence no slippage.
      have none : ∀ otherPrice otherLots, .forcedClose otherPrice otherLots ∉ rest := by
        intro otherPrice otherLots member
        have counted : 1 ≤ closeCount rest :=
          List.single_le_sum (fun _ _ => Nat.zero_le _) _
            (List.mem_map.mpr ⟨.forcedClose otherPrice otherLots, member, rfl⟩)
        rw [forcedCount] at single
        omega
      have restZero : journalSlippage params rest = 0 :=
        (inductionHypothesis (by omega) restPositive).mpr
          (Or.inr fun otherPrice otherLots member => absurd member (none _ _))
      have whole : journalSlippage params (.forcedClose price lots :: rest) =
          (lots.map (terminalSlip params price)).sum := by
        rw [← add_zero (lots.map (terminalSlip params price)).sum, ← restZero]
        simp [journalSlippage, JournalEntry.slippage]
      rw [whole, terminalSlip_sum_eq_zero (positive price lots List.mem_cons_self)]
      refine or_congr Iff.rfl ⟨fun harmless otherPrice otherLots member => ?_,
        fun harmless => harmless price lots List.mem_cons_self⟩
      rcases List.mem_cons.mp member with same | later
      · cases same
        exact harmless
      · exact absurd later (none _ _)

/-- What the ledger of an episode comes to: the cash flow of every executed entry, minus each
fee once, with the lots that were never closed carried at cost. -/
def ledgerNet (evidence : TacticalFeatureEvidence) (candles1m : List Candle)
    (fundingRecords : List FundingRecord) : ℚ :=
  match activeEpisode evidence with
  | none => 0
  | some (params, lower, upper, referencePrice) =>
    let journal := runJournal evidence params lower upper referencePrice candles1m
      fundingRecords
    journalCash params journal - journalFees params journal +
      (runEpisode evidence params lower upper referencePrice candles1m
        fundingRecords).costBasis

def lotsLeftOpen (evidence : TacticalFeatureEvidence) (candles1m : List Candle)
    (fundingRecords : List FundingRecord) : List OpenLot :=
  match activeEpisode evidence with
  | none => []
  | some (params, lower, upper, referencePrice) =>
    (runEpisode evidence params lower upper referencePrice candles1m fundingRecords).openLots

/-- No slippage arises: the configured rate is zero, or every forced close finds no lot open
or executes at price zero. -/
def SlippageFree (evidence : TacticalFeatureEvidence) (candles1m : List Candle)
    (fundingRecords : List FundingRecord) : Prop :=
  match activeEpisode evidence with
  | none => True
  | some (params, lower, upper, referencePrice) =>
    params.slippageMult = 0 ∨
      ∀ price lots, .forcedClose price lots ∈ runJournal evidence params lower upper
        referencePrice candles1m fundingRecords → price = 0 ∨ lots = []

/-- The reported net is the ledger's exactly when the episode has no slippage; otherwise the
slippage is counted twice. A terminal episode carries no lot at cost, and funding is added on
top of the net when it is reported at all. -/
theorem netPnl_eq_ledgerNet_iff {evidence : TacticalFeatureEvidence}
    {candles1m : List Candle} {fundingRecords : List FundingRecord}
    {evaluation : TacticalGridShadowEvaluation}
    (completed : evaluateGridShadowEpisode evidence candles1m fundingRecords =
      .ok evaluation) :
    (evaluation.netPnlAfterFeesSlippage = ledgerNet evidence candles1m fundingRecords ↔
        SlippageFree evidence candles1m fundingRecords) ∧
      (evaluation.terminalReason ≠ none →
        lotsLeftOpen evidence candles1m fundingRecords = []) ∧
      evaluation.netPnlAfterFunding =
        evaluation.fundingPnl.map (evaluation.netPnlAfterFeesSlippage + ·) := by
  unfold ledgerNet SlippageFree lotsLeftOpen
  obtain ⟨inactive, rfl⟩ | ⟨plan, params, lower, upper, referencePrice, active, geometry, rfl⟩ :=
    evaluateGridShadowEpisode_cases completed
  · rw [inactive]
    exact ⟨by simp [buildPauseEvaluation], fun _ => rfl, rfl⟩
  · rw [active]
    have carried := runEpisode_carried (episodeParams_sound geometry) evidence lower upper
      referencePrice candles1m fundingRecords
    have gross := carried.balanced.gross
    have fees := carried.balanced.fees
    have slippage := carried.balanced.slippage
    have single := carried.balanced.closes
    -- Everything starts at zero.
    have grossStart : (initialState evidence referencePrice).grossBeforeCosts = 0 := add_zero _
    have basisStart : (initialState evidence referencePrice).costBasis = 0 := rfl
    have feesStart : (initialState evidence referencePrice).totalFees = 0 := add_zero _
    have slippageStart : (initialState evidence referencePrice).terminalSlippageCost = 0 := rfl
    have activeStart : (initialState evidence referencePrice).isTerminal = false := rfl
    rw [grossStart, basisStart, sub_zero, zero_add] at gross
    rw [feesStart, zero_add] at fees
    rw [slippageStart, zero_add] at slippage
    rw [activeStart, Bool.toNat_false, zero_add] at single
    refine ⟨?_, ?_, rfl⟩
    · have vanishes := journalSlippage_eq_zero params (single ▸ Bool.toNat_le _)
        carried.balanced.closedPositive
      refine Iff.trans ?_ vanishes
      rw [← slippage]
      set final := runEpisode evidence params lower upper referencePrice candles1m
        fundingRecords
      show final.grossBeforeCosts - final.totalFees - final.terminalSlippageCost =
        journalCash params _ - journalFees params _ + final.costBasis ↔ _
      rw [← gross, ← fees]
      constructor <;> intro equal <;> linarith
    · intro ended
      cases terminal : (runEpisode evidence params lower upper referencePrice candles1m
        fundingRecords).isTerminal with
      | true => exact carried.sound.endedEmpty terminal
      | false => exact absurd (carried.sound.activeZero terminal).2.2.2 ended

/-! ### An episode that its stop ends -/

/-- A long-biased grid of three intervals with its stop below the bounds, at the default fees
and two basis points of slippage. -/
def stoppedEvidence : TacticalFeatureEvidence where
  symbol := "BTCUSDT"
  decisionTimeMs := 0
  close15m := some 105
  gridAdvisoryPlan := some {
    decision := .longBias
    lowerBound := some 90
    upperBound := some 120
    gridCount := 3
    triggerPrice := none
    stopLoss := some 80
    takeProfit := some 130 }

/-- The price falls from inside the grid through the stop. -/
def stoppedCandle : Candle where
  symbol := "BTCUSDT"
  interval := "1m"
  openTimeMs := 0
  closeTimeMs := 60000
  openPrice := 105
  high := 105
  low := 75
  close := 75
  volume := 1

def stoppedEvaluation : TacticalGridShadowEvaluation :=
  (evaluateGridShadowEpisode stoppedEvidence [stoppedCandle] []).toOption.get
    (by decide +kernel)

theorem stopped_completed :
    evaluateGridShadowEpisode stoppedEvidence [stoppedCandle] [] = .ok stoppedEvaluation := by
  decide +kernel

theorem netPnl_eq_ledgerNet_iff_stopped :
    (stoppedEvaluation.netPnlAfterFeesSlippage = ledgerNet stoppedEvidence [stoppedCandle] [] ↔
        SlippageFree stoppedEvidence [stoppedCandle] []) ∧
      (stoppedEvaluation.terminalReason ≠ none →
        lotsLeftOpen stoppedEvidence [stoppedCandle] [] = []) ∧
      stoppedEvaluation.netPnlAfterFunding =
        stoppedEvaluation.fundingPnl.map (stoppedEvaluation.netPnlAfterFeesSlippage + ·) :=
  netPnl_eq_ledgerNet_iff stopped_completed

/-- The two lots of the stopped episode lose their slippage twice. -/
theorem stopped_netPnl_ne_ledgerNet :
    evaluateGridShadowEpisode stoppedEvidence [stoppedCandle] [] = .ok stoppedEvaluation ∧
      stoppedEvaluation.terminalReason = some .stopLoss ∧
      stoppedEvaluation.netPnlAfterFeesSlippage ≠
        ledgerNet stoppedEvidence [stoppedCandle] [] :=
  ⟨stopped_completed, by decide +kernel, by decide +kernel⟩

end QuantAgent.Grid
