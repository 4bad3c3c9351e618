/-
This file counts the lots of a grid under any sequence of calls of the crossing engine.

A call is a segment, a path, a forced close or a mark. The state is kept beside the journal of
what the calls executed, so that every lot ever opened can be followed to where it went: closed
by a crossing, liquidated by a forced close, or still open.
-/

import QuantAgent.Grid.Accounting
import QuantAgent.Library.Runs

namespace QuantAgent.Grid

/-! ### Calls of the engine -/

inductive EngineCall where
  | segment (timestampMs : Int) (p0 p1 : ℚ)
  | path (timestampMs : Int) (points : List ℚ)
  | forceClose (terminalPrice : ℚ) (terminalTimeMs : Int) (reason : GridTerminalReason)
  | mark (timestampMs : Int) (markPrice : ℚ)

/-- A state and the journal of the calls that led to it. -/
structure RecordedGrid where
  state : GridSimulationState
  journal : List JournalEntry

def RecordedGrid.fresh : RecordedGrid where
  state := {}
  journal := []

def performCall (params : SimParams) (grid : RecordedGrid) : EngineCall → RecordedGrid
  | .segment timestampMs p0 p1 => {
      state := (processMonotonicSegment params timestampMs grid.state p0 p1).1
      journal := grid.journal ++ segmentJournal params timestampMs grid.state p0 p1 }
  | .path timestampMs points => {
      state := simulatePath params timestampMs grid.state points
      journal := grid.journal ++ pathJournal params timestampMs grid.state points }
  | .forceClose terminalPrice terminalTimeMs reason => {
      state := forceCloseAtTerminal params grid.state terminalPrice terminalTimeMs reason
      journal := grid.journal ++ [.forcedClose terminalPrice grid.state.openLots] }
  | .mark timestampMs markPrice =>
    { grid with state := grid.state.recordMarkSnapshot timestampMs markPrice }

/-! ### What a journal says about the lots -/

namespace JournalEntry

def opened : JournalEntry → ℕ
  | .crossing _ (.openLot _ _) => 1
  | _ => 0

def paired : JournalEntry → ℕ
  | .crossing _ action => action.cycles
  | .forcedClose _ _ => 0

/-- The gross its cycles realise. -/
def pairedGross : JournalEntry → ℚ
  | .crossing level action => action.gross level
  | .forcedClose _ _ => 0

def liquidated : JournalEntry → ℕ
  | .crossing _ _ => 0
  | .forcedClose _ lots => lots.length

end JournalEntry

def openedCount (journal : List JournalEntry) : ℕ := (journal.map JournalEntry.opened).sum

def pairedCount (journal : List JournalEntry) : ℕ := (journal.map JournalEntry.paired).sum

def liquidatedCount (journal : List JournalEntry) : ℕ :=
  (journal.map JournalEntry.liquidated).sum

def pairedGrossOf (journal : List JournalEntry) : ℚ :=
  (journal.map JournalEntry.pairedGross).sum

/-- A lot fills an interval of the grid: a long one is opened at the lower level of its interval
and a short one at the upper level, each with the unit notional. -/
structure OpenLot.Placed (params : SimParams) (lot : OpenLot) : Prop where
  longSlot : lot.side = .long → 0 ≤ lot.slotIndex ∧ lot.slotIndex < params.slotCount
  shortSlot : lot.side = .short → 1 ≤ lot.slotIndex ∧ lot.slotIndex ≤ params.slotCount
  openPrice : params.levels[lot.slotIndex.toNat]? = some lot.openPrice
  notional : lot.quantity * lot.openPrice = params.unitNotional

structure InventorySound (params : SimParams) (grid : RecordedGrid) : Prop where
  onePerSlot : ∀ slot, (grid.state.openLots.filter fun lot => lot.slotIndex = slot).length ≤ 1
  placed : ∀ lot ∈ grid.state.openLots, lot.Placed params
  cycles : grid.state.pairedCycleCount = pairedCount grid.journal
  gross : grid.state.pairedGrossPnl = pairedGrossOf grid.journal
  profitable : ∀ entry ∈ grid.journal, 0 < entry.paired → 0 < entry.pairedGross
  budget : (grid.state.openLots.map fun lot => lot.quantity * lot.openPrice).sum ≤ 1
  conserved : openedCount grid.journal = grid.state.pairedCycleCount +
    liquidatedCount grid.journal + grid.state.openLots.length

/-! ### The levels -/

/-- What the construction of the levels and the anchor gives the engine. -/
structure SimParams.Laid (params : SimParams) : Prop extends params.Sound where
  increasing : params.levels.Pairwise (· < ·)
  anchor : params.anchorIndex < params.levels.length

theorem constructGridLevels_increasing {lowerBound upperBound : ℚ} {gridCount : ℕ} {levels : List ℚ}
    (built : constructGridLevels lowerBound upperBound gridCount = .ok levels) :
    levels.Pairwise (· < ·) ∧ levels.length = gridCount + 1 ∧ 3 ≤ gridCount := by
  unfold constructGridLevels at built
  split_ifs at built with nonpositive inverted few
  cases built
  have count : (0 : ℚ) < gridCount := by exact_mod_cast (by omega : 0 < gridCount)
  have step : 0 < (upperBound - lowerBound) / gridCount :=
    div_pos (sub_pos.mpr (not_le.mp inverted)) count
  refine ⟨?_, by simp, not_lt.mp few⟩
  rw [List.pairwise_map]
  refine List.pairwise_lt_range.imp fun {early late} before => ?_
  have wider : (early : ℚ) < late := by exact_mod_cast before
  exact add_lt_add_right (mul_lt_mul_of_pos_right wider step) lowerBound

theorem nearestIndex_mem (referencePrice : ℚ) (best : ℚ × ℕ) (candidates : List (ℚ × ℕ)) :
    nearestIndex referencePrice best candidates ∈ (best :: candidates).map Prod.snd := by
  induction candidates generalizing best with
  | nil => exact List.mem_singleton.mpr rfl
  | cons candidate rest inductionHypothesis =>
    unfold nearestIndex
    split_ifs
    · exact List.mem_cons_of_mem _ (inductionHypothesis candidate)
    · rcases List.mem_cons.mp (inductionHypothesis best) with same | later
      · exact List.mem_cons.mpr (Or.inl same)
      · exact List.mem_cons_of_mem _ (List.mem_cons_of_mem _ later)

theorem computeAnchorIndex_lt {levels : List ℚ} {referencePrice : ℚ} {anchorIndex : ℕ}
    (anchored : computeAnchorIndex levels referencePrice = .ok anchorIndex) :
    anchorIndex < levels.length := by
  unfold computeAnchorIndex at anchored
  cases indexed : levels.zipIdx with
  | nil => rw [indexed] at anchored; cases anchored
  | cons first rest =>
    rw [indexed] at anchored
    cases anchored
    have member := nearestIndex_mem referencePrice first rest
    rw [← indexed] at member
    obtain ⟨pair, inside, same⟩ := List.mem_map.mp member
    rw [← same]
    have bound := List.snd_lt_of_mem_zipIdx inside
    simpa using bound

variable {params : SimParams}

theorem laid_of_built {lowerBound upperBound referencePrice : ℚ} {gridCount : ℕ}
    (built : constructGridLevels lowerBound upperBound gridCount = .ok params.levels)
    (anchored : computeAnchorIndex params.levels referencePrice = .ok params.anchorIndex)
    (unit : params.unitNotional = 1 / gridCount) : params.Laid := by
  obtain ⟨increasing, -, enough⟩ := constructGridLevels_increasing built
  have count : (0 : ℚ) < gridCount := by exact_mod_cast (by omega : 0 < gridCount)
  exact ⟨⟨constructGridLevels_positive built, unit ▸ one_div_pos.mpr count⟩, increasing,
    computeAnchorIndex_lt anchored⟩

/-! ### One step of the inventory -/

structure Stocked (params : SimParams) (state : GridSimulationState) : Prop where
  sound : LotsSound params state
  placed : ∀ lot ∈ state.openLots, lot.Placed params

/-- A part of the run trades the lots: they stay in place, its closings are profitable, and its
journal tells where each lot came from and went. -/
structure Traded (params : SimParams) (before : GridSimulationState)
    (journal : List JournalEntry) (after : GridSimulationState) : Prop where
  stocked : Stocked params after
  profitable : ∀ entry ∈ journal, 0 < entry.paired → 0 < entry.pairedGross
  cycles : after.pairedCycleCount = before.pairedCycleCount + pairedCount journal
  gross : after.pairedGrossPnl = before.pairedGrossPnl + pairedGrossOf journal
  conserved : before.openLots.length + openedCount journal =
    pairedCount journal + liquidatedCount journal + after.openLots.length

namespace Traded

theorem refl {state : GridSimulationState} (stocked : Stocked params state) :
    Traded params state [] state :=
  ⟨stocked, fun _ member => absurd member List.not_mem_nil, rfl, by simp [pairedGrossOf],
    by simp [openedCount, pairedCount, liquidatedCount]⟩

theorem trans {first second third : GridSimulationState} {early late : List JournalEntry}
    (head : Traded params first early second) (tail : Traded params second late third) :
    Traded params first (early ++ late) third where
  stocked := tail.stocked
  profitable := fun entry member =>
    (List.mem_append.mp member).elim (head.profitable entry) (tail.profitable entry)
  cycles := by
    rw [tail.cycles, head.cycles, pairedCount, pairedCount, pairedCount, List.map_append,
      List.sum_append, add_assoc]
  gross := by
    rw [tail.gross, head.gross, pairedGrossOf, pairedGrossOf, pairedGrossOf, List.map_append,
      List.sum_append, add_assoc]
  conserved := by
    have early := head.conserved
    have late := tail.conserved
    simp only [openedCount, pairedCount, liquidatedCount, List.map_append,
      List.sum_append] at early late ⊢
    omega

end Traded

def RecordedGrid.Traces (params : SimParams) (grid : RecordedGrid) : Prop :=
  Traded params {} grid.journal grid.state

section Steps

variable {state : GridSimulationState} {timestampMs : Int} {level : ℚ} {index : ℕ}

theorem performAction_traded {action : LotAction} (laid : params.Laid)
    (stocked : Stocked params state) (active : state.isTerminal = false)
    (inside : params.levels[index]? = some level) (permitted : action.Permitted params state)
    (placed : ∀ lot ∈ action.lots params state level timestampMs, lot.Placed params)
    (profitable : 0 < action.cycles → 0 < action.gross level) :
    Traded params state [.crossing level action]
      (performAction params timestampMs level state action) := by
  have sound : LotsSound params (performAction params timestampMs level state action) :=
    performAction_sound laid.unit (laid.levels _ (List.mem_of_getElem? inside)) stocked.sound
      active permitted
  refine ⟨⟨sound, placed⟩, ?_, rfl, ?_, ?_⟩
  · intro entry member
    rw [List.mem_singleton.mp member]
    exact profitable
  · show state.pairedGrossPnl + action.gross level = _
    rw [pairedGrossOf, List.map_singleton, List.sum_singleton]
    rfl
  · have single : ∀ lot, state.lotAt lot.slotIndex = some lot →
        (state.popLot lot.slotIndex).length + 1 = state.openLots.length :=
      fun lot found => KeyedList.length_erase_add_one stocked.sound.distinct found
    show state.openLots.length + (_ + 0) =
      _ + 0 + (0 + 0) + (action.lots params state level timestampMs).length
    cases action with
    | openLot slot side => simp [JournalEntry.opened, JournalEntry.paired, LotAction.lots,
        LotAction.cycles]
    | closeLong lot =>
      have taken := single lot permitted.1
      simp only [JournalEntry.opened, JournalEntry.paired, LotAction.lots, LotAction.cycles]
      omega
    | closeShort lot =>
      have taken := single lot permitted.1
      simp only [JournalEntry.opened, JournalEntry.paired, LotAction.lots, LotAction.cycles]
      omega

theorem opened_placed (laid : params.Laid) (stocked : Stocked params state) {side : LotSide}
    (inside : params.levels[index]? = some level)
    (longSlot : side = .long → index < params.slotCount) (shortSlot : side = .short → 1 ≤ index) :
    ∀ lot ∈ (LotAction.openLot index side).lots params state level timestampMs,
      lot.Placed params := by
  intro lot member
  have positive : 0 < level := laid.levels level (List.mem_of_getElem? inside)
  have bound : index < params.levels.length := (List.getElem?_eq_some_iff.mp inside).1
  rcases List.mem_append.mp member with old | new
  · exact stocked.placed lot old
  · rw [List.mem_singleton.mp new]
    refine ⟨fun own => ⟨Int.natCast_nonneg index, ?_⟩, fun own => ⟨?_, ?_⟩, ?_, ?_⟩
    · exact Int.ofNat_lt.mpr (longSlot own)
    · exact Int.ofNat_le.mpr (shortSlot own)
    · unfold SimParams.slotCount
      show (index : Int) ≤ _
      omega
    · exact inside
    · exact div_mul_cancel₀ _ positive.ne'

theorem popped_placed (stocked : Stocked params state) (slot : Int) :
    ∀ lot ∈ state.popLot slot, lot.Placed params :=
  fun lot member => stocked.placed lot (KeyedList.mem_erase.mp member).1

theorem SimParams.Laid.level_lt (laid : params.Laid) {lower upper : ℕ} {low high : ℚ}
    (before : lower < upper) (first : params.levels[lower]? = some low)
    (second : params.levels[upper]? = some high) : low < high := by
  obtain ⟨lowerBound, rfl⟩ := List.getElem?_eq_some_iff.mp first
  obtain ⟨upperBound, rfl⟩ := List.getElem?_eq_some_iff.mp second
  exact List.pairwise_iff_getElem.mp laid.increasing _ _ lowerBound upperBound before

theorem closeLong_profitable (laid : params.Laid) (stocked : Stocked params state)
    (inside : params.levels[index]? = some level) {lot : OpenLot}
    (found : state.lotAt (index - 1) = some lot) (side : lot.side = .long) :
    0 < lot.quantity * (level - lot.openPrice) := by
  have member := KeyedList.lookup_mem found
  have slot : lot.slotIndex = index - 1 := KeyedList.lookup_key found
  have placed := stocked.placed lot member
  have nonnegative := (placed.longSlot side).1
  have before : lot.slotIndex.toNat < index := by omega
  exact mul_pos (stocked.sound.positive lot member)
    (sub_pos.mpr (laid.level_lt before placed.openPrice inside))

theorem closeShort_profitable (laid : params.Laid) (stocked : Stocked params state)
    (inside : params.levels[index]? = some level) {lot : OpenLot}
    (found : state.lotAt (index + 1) = some lot) :
    0 < lot.quantity * (lot.openPrice - level) := by
  have member := KeyedList.lookup_mem found
  have slot : lot.slotIndex = index + 1 := KeyedList.lookup_key found
  have after : index < lot.slotIndex.toNat := by omega
  exact mul_pos (stocked.sound.positive lot member)
    (sub_pos.mpr (laid.level_lt after inside (stocked.placed lot member).openPrice))

end Steps

/-! ### Crossings, segments and paths -/

section Runs

variable (laid : params.Laid) (timestampMs : Int)

include laid

variable {state : GridSimulationState}

theorem ascendingAction_traded (stocked : Stocked params state) (active : state.isTerminal = false)
    {crossed : ℚ × ℕ} (inside : params.levels[crossed.2]? = some crossed.1) {action : LotAction}
    (taken : ascendingAction params state crossed.2 = some action) :
    Traded params state [.crossing crossed.1 action]
      (performAction params timestampMs crossed.1 state action) := by
  have permitted := ascendingAction_permitted stocked.sound taken
  obtain ⟨lot, found, rfl, -⟩ | ⟨above, rfl, -⟩ := ascendingAction_cases taken
  · exact performAction_traded laid stocked active inside permitted (popped_placed stocked _)
      fun _ => closeLong_profitable laid stocked inside found permitted.2
  · exact performAction_traded laid stocked active inside permitted
      (opened_placed laid stocked inside (fun other => LotSide.noConfusion other) fun _ => above)
      fun closing => absurd closing (lt_irrefl 0)

theorem descendingAction_traded (stocked : Stocked params state) (active : state.isTerminal = false)
    {crossed : ℚ × ℕ} (inside : params.levels[crossed.2]? = some crossed.1) {action : LotAction}
    (taken : descendingAction params state crossed.2 = some action) :
    Traded params state [.crossing crossed.1 action]
      (performAction params timestampMs crossed.1 state action) := by
  have permitted := descendingAction_permitted stocked.sound taken
  obtain ⟨lot, found, rfl, -⟩ | ⟨below, rfl, -⟩ := descendingAction_cases taken
  · exact performAction_traded laid stocked active inside permitted (popped_placed stocked _)
      fun _ => closeShort_profitable laid stocked inside found
  · have anchor := laid.anchor
    have within : crossed.2 < params.slotCount := by
      unfold SimParams.slotCount at below ⊢
      omega
    exact performAction_traded laid stocked active inside permitted
      (opened_placed laid stocked inside (fun _ => within) fun other => LotSide.noConfusion other)
      fun closing => absurd closing (lt_irrefl 0)

omit laid in
theorem recordMarkSnapshot_traded (stocked : Stocked params state) (markPrice : ℚ) :
    Traded params state [] (state.recordMarkSnapshot timestampMs markPrice) := by
  have same := Traded.refl stocked
  exact ⟨⟨recordMarkSnapshot_sound stocked.sound markPrice, stocked.placed⟩, same.profitable,
    same.cycles, same.gross, same.conserved⟩

omit laid in
theorem forceCloseAtTerminal_traded (state : GridSimulationState) (terminalPrice : ℚ)
    (reason : GridTerminalReason) :
    Traded params state [.forcedClose terminalPrice state.openLots]
      (forceCloseAtTerminal params state terminalPrice timestampMs reason) := by
  refine ⟨⟨forceCloseAtTerminal_sound params state terminalPrice timestampMs reason,
    fun _ member => absurd member List.not_mem_nil⟩, ?_, rfl, ?_, ?_⟩
  · intro entry member
    rw [List.mem_singleton.mp member]
    exact fun closing => absurd closing (lt_irrefl 0)
  · show state.pairedGrossPnl = _
    simp [pairedGrossOf, JournalEntry.pairedGross]
  · show state.openLots.length + 0 = 0 + (state.openLots.length + 0) + 0
    omega

theorem traded_journaled : Journaled params (Stocked params) (Traded params) where
  refl := Traded.refl
  trans := Traded.trans
  kept := Traded.stocked
  crosses timestampMs direction stocked active inside taken := by
    obtain rfl | rfl := direction
    · exact ascendingAction_traded laid timestampMs stocked active inside taken
    · exact descendingAction_traded laid timestampMs stocked active inside taken
  marks timestampMs markPrice stocked := recordMarkSnapshot_traded timestampMs stocked markPrice
  closes timestampMs terminalPrice reason _ _ :=
    forceCloseAtTerminal_traded timestampMs _ terminalPrice reason

theorem performCall_traded {grid : RecordedGrid} (traded : grid.Traces params)
    (call : EngineCall) : (performCall params grid call).Traces params := by
  cases call with
  | segment timestampMs p0 p1 =>
    exact traded.trans ((traded_journaled laid).segment timestampMs p0 p1 traded.stocked)
  | path timestampMs points =>
    exact traded.trans ((traded_journaled laid).path timestampMs points traded.stocked)
  | forceClose terminalPrice terminalTimeMs reason =>
    exact traded.trans (forceCloseAtTerminal_traded terminalTimeMs _ terminalPrice reason)
  | mark timestampMs markPrice =>
    have marked := traded.trans (recordMarkSnapshot_traded timestampMs traded.stocked markPrice)
    rwa [List.append_nil] at marked

end Runs

/-! ### The budget -/

/-- The interval of the grid a lot fills, by its lower level. -/
def OpenLot.interval (lot : OpenLot) : Int :=
  match lot.side with
  | .long => lot.slotIndex
  | .short => lot.slotIndex - 1

theorem slot_of_interval {first second : OpenLot}
    (firstAllowed : sideAllowed params first.slotIndex first.side)
    (secondAllowed : sideAllowed params second.slotIndex second.side)
    (same : first.interval = second.interval) : first.slotIndex = second.slotIndex := by
  unfold OpenLot.interval at same
  unfold sideAllowed at firstAllowed secondAllowed
  cases decision : params.gridDecision <;> cases firstSide : first.side <;>
    cases secondSide : second.side <;>
    simp only [decision, firstSide, secondSide] at firstAllowed secondAllowed same <;> omega

theorem openLots_length_le {state : GridSimulationState} (stocked : Stocked params state) :
    state.openLots.length ≤ params.slotCount := by
  have distinct : (state.openLots.map OpenLot.interval).Nodup := by
    refine List.Nodup.map_on (fun first firstMember second secondMember same => ?_)
      stocked.sound.distinct.of_map
    exact List.inj_on_of_nodup_map stocked.sound.distinct firstMember secondMember
      (slot_of_interval (stocked.sound.sides first firstMember)
        (stocked.sound.sides second secondMember) same)
  have inside : (state.openLots.map OpenLot.interval).toFinset ⊆
      Finset.Ico 0 (params.slotCount : Int) := by
    intro interval member
    obtain ⟨lot, lotMember, rfl⟩ := List.mem_map.mp (List.mem_toFinset.mp member)
    have placed := stocked.placed lot lotMember
    unfold OpenLot.interval
    cases side : lot.side with
    | long =>
      have bounds := placed.longSlot side
      exact Finset.mem_Ico.mpr bounds
    | short =>
      have bounds := placed.shortSlot side
      exact Finset.mem_Ico.mpr ⟨by dsimp only; omega, by dsimp only; omega⟩
  have counted := Finset.card_le_card inside
  rw [List.toFinset_card_of_nodup distinct, List.length_map, Int.card_Ico, sub_zero,
    Int.toNat_natCast] at counted
  exact counted

theorem entryCost_eq {lots : List OpenLot} (placed : ∀ lot ∈ lots, lot.Placed params) :
    (lots.map fun lot => lot.quantity * lot.openPrice).sum =
      lots.length * params.unitNotional := by
  rw [List.map_congr_left fun lot member => (placed lot member).notional, List.map_const',
    List.sum_replicate, nsmul_eq_mul]

/-! ### The inventory of every run -/

section Inventory

variable {lowerBound upperBound referencePrice : ℚ} {gridCount : ℕ}

theorem inventorySound_of_traded
    (built : constructGridLevels lowerBound upperBound gridCount = .ok params.levels)
    (unit : params.unitNotional = 1 / gridCount) {grid : RecordedGrid}
    (traded : grid.Traces params) : InventorySound params grid := by
  obtain ⟨-, length, enough⟩ := constructGridLevels_increasing built
  refine ⟨fun slot => ?_, traded.stocked.placed, ?_, ?_, traded.profitable, ?_, ?_⟩
  · exact KeyedList.length_filter_key_le_one traded.stocked.sound.distinct slot
  · rw [traded.cycles]
    exact zero_add _
  · rw [traded.gross]
    exact zero_add _
  · have count : (0 : ℚ) < gridCount := by exact_mod_cast (by omega : 0 < gridCount)
    have few : (grid.state.openLots.length : ℚ) ≤ gridCount := by
      have bound := openLots_length_le traded.stocked
      rw [SimParams.slotCount, length, Nat.add_sub_cancel] at bound
      exact_mod_cast bound
    rw [entryCost_eq traded.stocked.placed, unit, mul_one_div]
    exact (div_le_one count).mpr few
  · have conserved := traded.conserved
    have cycles := traded.cycles
    simp only [List.length_nil, zero_add] at conserved cycles
    rw [conserved, cycles]

/-- Whatever the calls of the engine do to a fresh grid: in every state they lead through a slot has
at most one lot, which lies at its level; the closings are profitable, the totals are those of the
journal, the lots cost at most the budget, and every lot that was opened is open, paired or
liquidated. -/
theorem inventory_throughout
    (built : constructGridLevels lowerBound upperBound gridCount = .ok params.levels)
    (anchored : computeAnchorIndex params.levels referencePrice = .ok params.anchorIndex)
    (unit : params.unitNotional = 1 / gridCount) (calls : List EngineCall) :
    Runs.Throughout (performCall params) (InventorySound params) .fresh calls := by
  have laid := laid_of_built built anchored unit
  have start : RecordedGrid.fresh.Traces params :=
    Traded.refl ⟨⟨KeyedList.distinct_nil, fun _ member => absurd member List.not_mem_nil,
      fun _ member => absurd member List.not_mem_nil, fun _ => ⟨rfl, rfl, rfl, rfl⟩,
      fun _ => rfl⟩, fun _ member => absurd member List.not_mem_nil⟩
  have kept : Runs.Throughout (performCall params) (RecordedGrid.Traces params) .fresh calls :=
    Runs.throughout_of_keeps
      (fun grid call (traded : grid.Traces params) => performCall_traded laid traded call) start
      calls
  exact kept.mono fun _ traded => inventorySound_of_traded built unit traded

end Inventory

/-- A long-biased grid of three intervals. -/
def longGrid : SimParams where
  gridDecision := .longBias
  levels := [90, 100, 110, 120]
  anchorIndex := 1
  unitNotional := 1 / 3
  makerFeeRate := 2 / 10000
  takerFeeRate := 5 / 10000
  slippageBpsPerSide := 2
  stopLoss := some 80
  takeProfit := some 130

theorem inventory_throughout_longGrid :
    Runs.Throughout (performCall longGrid) (InventorySound longGrid) .fresh
      [.mark 0 105, .path 60000 [105, 112, 85, 104], .segment 120000 104 75] :=
  inventory_throughout
    (show constructGridLevels 90 120 3 = .ok longGrid.levels by decide +kernel)
    (show computeAnchorIndex longGrid.levels 105 = .ok longGrid.anchorIndex by decide +kernel)
    (show longGrid.unitNotional = 1 / (3 : ℕ) by decide +kernel) _

end QuantAgent.Grid
