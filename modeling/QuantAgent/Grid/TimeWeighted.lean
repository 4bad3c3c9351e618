/-
This file compares the time-weighted inventory of a grid shadow episode with the integral of
the inventory it holds.

Every change of the lots inside a candle carries the close time of the candle, so the lots held
when the candle starts are held for all of its elapsed time. The accumulator is advanced by the
first mark of the candle instead, and a crossing or a forced close marks after it has changed
the lots.
-/

import QuantAgent.Grid.Divergence

namespace QuantAgent.Grid

/-! ### The inventory held -/

def signedNotionalOf (lots : List OpenLot) (markPrice : ℚ) : ℚ :=
  (lots.map fun lot => lot.signedNotional markPrice).sum

namespace CandleStep

def held (step : CandleStep) : ℚ :=
  |step.before.computeSignedInventoryNotional step.before.lastMarkPrice|

noncomputable def instants (step : CandleStep) : Finset Int :=
  Finset.Ico step.before.lastMarkTimeMs step.candle.closeTimeMs

def elapsed (step : CandleStep) : ℕ :=
  (step.candle.closeTimeMs - step.before.lastMarkTimeMs).toNat

end CandleStep

/-- The integral of the held inventory over the evaluated interval, divided by its length. -/
noncomputable def heldMean (steps : List CandleStep) : ℚ :=
  (steps.map fun step => ∑ _instant ∈ step.instants, step.held).sum /
    (steps.map fun step => (step.instants.card : ℚ)).sum

theorem heldMean_eq (steps : List CandleStep) :
    heldMean steps = (steps.map fun step => (step.elapsed : ℚ) * step.held).sum /
      (steps.map fun step => (step.elapsed : ℚ)).sum := by
  simp [heldMean, CandleStep.instants, CandleStep.elapsed, nsmul_eq_mul]

/-! ### What the first mark of a candle sees -/

def firstAction (params : SimParams)
    (actionOf : SimParams → GridSimulationState → ℕ → Option LotAction)
    (state : GridSimulationState) (crossings : List (ℚ × ℕ)) : Option (ℚ × LotAction) :=
  crossings.findSome? fun crossed =>
    (actionOf params state crossed.2).map fun action => (crossed.1, action)

/-- The first action of the crossings of a segment up to `effectiveP1`. -/
def segmentAction (params : SimParams) (p0 p1 effectiveP1 : ℚ) (state : GridSimulationState) :
    Option (ℚ × LotAction) :=
  if p0 < p1 then
    firstAction params ascendingAction state (ascendingCrossed params p0 effectiveP1)
  else if p1 < p0 then
    firstAction params descendingAction state (descendingCrossed params p0 effectiveP1)
  else none

def firstMarkedLots (params : SimParams) (timestampMs : Int) (state : GridSimulationState)
    (p0 p1 : ℚ) : List OpenLot :=
  let trigger := terminalTrigger params p0 p1
  match segmentAction params p0 p1 ((trigger.map Prod.snd).getD p1) state with
  | some (level, action) => action.lots params state level timestampMs
  | none => if trigger.isSome then [] else state.openLots

def firstTurn (params : SimParams) (candle : Candle) (state : GridSimulationState) : ℚ :=
  match (selectConservativeState
    (simulatePath params candle.closeTimeMs state (pathAPoints candle))
    (simulatePath params candle.closeTimeMs state (pathBPoints candle)) candle.close).2.1 with
  | .pathA => candle.high
  | .pathB => candle.low

def markedInventory (params : SimParams) (step : CandleStep) : ℚ :=
  |signedNotionalOf (firstMarkedLots params step.candle.closeTimeMs step.before
    step.candle.openPrice (firstTurn params step.candle step.before)) step.before.lastMarkPrice|

def misattributed (params : SimParams) (step : CandleStep) : ℚ :=
  (step.elapsed : ℚ) * (markedInventory params step - step.held)

/-! ### The accumulator -/

def markedSegment (timestampMs : Int) (state : GridSimulationState) (lots : List OpenLot) :
    List (Int × ℚ) :=
  if 0 < state.lastMarkTimeMs ∧ state.lastMarkTimeMs < timestampMs then
    [(timestampMs - state.lastMarkTimeMs, |signedNotionalOf lots state.lastMarkPrice|)]
  else []

/-- The clock stands at the time and the accumulator holds the segments. -/
structure Settled (timestampMs : Int) (segments : List (Int × ℚ))
    (state : GridSimulationState) : Prop where
  clock : state.lastMarkTimeMs = timestampMs
  segments : state.timeWeightedInventorySegments = segments

section Accumulator

variable {params : SimParams} {timestampMs : Int} {segments : List (Int × ℚ)}
  {state : GridSimulationState}

theorem settled_recordMarkSnapshot (state : GridSimulationState) (timestampMs : Int)
    (markPrice : ℚ) :
    Settled timestampMs (state.timeWeightedInventorySegments ++
      markedSegment timestampMs state state.openLots)
      (state.recordMarkSnapshot timestampMs markPrice) := by
  refine ⟨rfl, ?_⟩
  unfold markedSegment
  by_cases advances : 0 < state.lastMarkTimeMs ∧ state.lastMarkTimeMs < timestampMs
  · rw [if_pos advances]
    exact if_pos advances
  · rw [if_neg advances, List.append_nil]
    exact if_neg advances

theorem settled_mark_of {changed : GridSimulationState} {lots : List OpenLot}
    (openLots : changed.openLots = lots)
    (clock : changed.lastMarkTimeMs = state.lastMarkTimeMs)
    (price : changed.lastMarkPrice = state.lastMarkPrice)
    (kept : changed.timeWeightedInventorySegments = state.timeWeightedInventorySegments)
    (markPrice : ℚ) :
    Settled timestampMs (state.timeWeightedInventorySegments ++
      markedSegment timestampMs state lots)
      (changed.recordMarkSnapshot timestampMs markPrice) := by
  have marked := settled_recordMarkSnapshot changed timestampMs markPrice
  unfold markedSegment at marked
  rw [openLots, clock, price, kept] at marked
  exact marked

section

variable (settled : Settled timestampMs segments state)

include settled

theorem Settled.mark (markPrice : ℚ) :
    Settled timestampMs segments (state.recordMarkSnapshot timestampMs markPrice) := by
  have again := settled_recordMarkSnapshot state timestampMs markPrice
  unfold markedSegment at again
  rw [if_neg (by rw [settled.clock]; exact fun advances => lt_irrefl _ advances.2),
    List.append_nil, settled.segments] at again
  exact again

theorem Settled.act (level : ℚ) (action : LotAction) :
    Settled timestampMs segments (performAction params timestampMs level state action) := by
  unfold performAction
  refine Settled.mark ?_ level
  exact ⟨settled.clock, settled.segments⟩

theorem Settled.close (terminalPrice : ℚ) (reason : GridTerminalReason) :
    Settled timestampMs segments
      (forceCloseAtTerminal params state terminalPrice timestampMs reason) := by
  unfold forceCloseAtTerminal
  refine Settled.mark ?_ terminalPrice
  exact ⟨settled.clock, settled.segments⟩

theorem Settled.crossings (actionOf : SimParams → GridSimulationState → ℕ → Option LotAction)
    (crossings : List (ℚ × ℕ)) :
    Settled timestampMs segments
      (crossings.foldl (crossLevel params timestampMs actionOf) state) := by
  induction crossings generalizing state with
  | nil => exact settled
  | cons crossed rest inductionHypothesis =>
    refine inductionHypothesis ?_
    unfold crossLevel
    cases actionOf params state crossed.2 with
    | none => exact settled
    | some action => exact settled.act crossed.1 action

theorem Settled.crossSegment (p0 p1 effectiveP1 : ℚ) :
    Settled timestampMs segments
      (crossSegment params timestampMs p0 p1 effectiveP1 state) := by
  unfold Grid.crossSegment
  split_ifs
  · exact settled.crossings _ _
  · exact settled.crossings _ _
  · exact settled

theorem Settled.segment (p0 p1 : ℚ) :
    Settled timestampMs segments
      (processMonotonicSegment params timestampMs state p0 p1).1 := by
  unfold processMonotonicSegment
  split_ifs
  · exact settled
  · cases terminalTrigger params p0 p1 with
    | none => exact (settled.crossSegment p0 p1 p1).mark p1
    | some hit => exact (settled.crossSegment p0 p1 hit.2).close hit.2 hit.1

theorem Settled.path (points : List ℚ) :
    Settled timestampMs segments (simulatePath params timestampMs state points) := by
  induction points generalizing state with
  | nil => exact settled
  | cons p0 rest inductionHypothesis =>
    cases rest with
    | nil => exact settled
    | cons p1 rest =>
      unfold simulatePath
      dsimp only
      split_ifs
      · exact settled.segment p0 p1
      · exact inductionHypothesis (settled.segment p0 p1)

end

/-! ### The first mark of a candle -/

variable (params timestampMs)

theorem settled_performAction (level : ℚ) (action : LotAction) :
    Settled timestampMs (state.timeWeightedInventorySegments ++
      markedSegment timestampMs state (action.lots params state level timestampMs))
      (performAction params timestampMs level state action) := by
  unfold performAction
  refine settled_mark_of ?_ ?_ ?_ ?_ level <;> rfl

theorem crossings_settled (actionOf : SimParams → GridSimulationState → ℕ → Option LotAction)
    (crossings : List (ℚ × ℕ)) (state : GridSimulationState) :
    match firstAction params actionOf state crossings with
    | none => crossings.foldl (crossLevel params timestampMs actionOf) state = state
    | some (level, action) =>
      Settled timestampMs (state.timeWeightedInventorySegments ++
        markedSegment timestampMs state (action.lots params state level timestampMs))
        (crossings.foldl (crossLevel params timestampMs actionOf) state) := by
  induction crossings with
  | nil => rfl
  | cons crossed rest inductionHypothesis =>
    unfold firstAction at inductionHypothesis ⊢
    rw [List.findSome?_cons, List.foldl_cons, crossLevel]
    cases taken : actionOf params state crossed.2 with
    | none => exact inductionHypothesis
    | some action =>
      exact (settled_performAction params timestampMs crossed.1 action).crossings actionOf rest

theorem crossSegment_settled (p0 p1 effectiveP1 : ℚ) (state : GridSimulationState) :
    match segmentAction params p0 p1 effectiveP1 state with
    | none => crossSegment params timestampMs p0 p1 effectiveP1 state = state
    | some (level, action) =>
      Settled timestampMs (state.timeWeightedInventorySegments ++
        markedSegment timestampMs state (action.lots params state level timestampMs))
        (crossSegment params timestampMs p0 p1 effectiveP1 state) := by
  unfold segmentAction crossSegment
  split_ifs
  · exact crossings_settled params timestampMs ascendingAction _ state
  · exact crossings_settled params timestampMs descendingAction _ state
  · rfl

theorem processMonotonicSegment_settled (p0 p1 : ℚ) (active : state.isTerminal = false) :
    Settled timestampMs (state.timeWeightedInventorySegments ++
      markedSegment timestampMs state (firstMarkedLots params timestampMs state p0 p1))
      (processMonotonicSegment params timestampMs state p0 p1).1 := by
  unfold processMonotonicSegment firstMarkedLots
  rw [if_neg (by rw [active]; exact Bool.false_ne_true)]
  cases trigger : terminalTrigger params p0 p1 with
  | none =>
    have first := crossSegment_settled params timestampMs p0 p1 p1 state
    simp only [Option.map_none, Option.getD_none]
    cases taken : segmentAction params p0 p1 p1 state with
    | none =>
      rw [taken] at first
      simp only at first ⊢
      rw [first]
      exact settled_recordMarkSnapshot state timestampMs p1
    | some hit =>
      rw [taken] at first
      exact first.mark p1
  | some hit =>
    obtain ⟨reason, target⟩ := hit
    have first := crossSegment_settled params timestampMs p0 p1 target state
    simp only [Option.map_some, Option.getD_some]
    cases taken : segmentAction params p0 p1 target state with
    | none =>
      rw [taken] at first
      simp only at first ⊢
      rw [first]
      unfold forceCloseAtTerminal
      refine settled_mark_of ?_ ?_ ?_ ?_ target <;> rfl
    | some action =>
      rw [taken] at first
      exact first.close target reason

theorem simulatePath_settled (p0 p1 : ℚ) (rest : List ℚ) (active : state.isTerminal = false) :
    Settled timestampMs (state.timeWeightedInventorySegments ++
      markedSegment timestampMs state (firstMarkedLots params timestampMs state p0 p1))
      (simulatePath params timestampMs state (p0 :: p1 :: rest)) := by
  have first := processMonotonicSegment_settled params timestampMs p0 p1 active
  unfold simulatePath
  dsimp only
  split_ifs
  · exact first
  · exact first.path _

end Accumulator

def recordedSegment (params : SimParams) (step : CandleStep) : List (Int × ℚ) :=
  markedSegment step.candle.closeTimeMs step.before
    (firstMarkedLots params step.candle.closeTimeMs step.before step.candle.openPrice
      (firstTurn params step.candle step.before))

variable {state : GridSimulationState}

theorem simulateCandle_settled (params : SimParams)
    (candle : Candle) (active : state.isTerminal = false) :
    Settled candle.closeTimeMs (state.timeWeightedInventorySegments ++
      recordedSegment params (.ofCandle params state candle))
      (simulateCandle params candle state) := by
  unfold recordedSegment firstTurn simulateCandle runTwoPaths
  simp only [CandleStep.ofCandle]
  rw [selectConservativeState_path]
  cases (selectConservativeState
    (simulatePath params candle.closeTimeMs state (pathAPoints candle))
    (simulatePath params candle.closeTimeMs state (pathBPoints candle)) candle.close).2.1 with
  | pathA => exact simulatePath_settled params candle.closeTimeMs _ _ _ active
  | pathB => exact simulatePath_settled params candle.closeTimeMs _ _ _ active

/-! ### The loop -/

def accumulatorOf (state : GridSimulationState) : Int × List (Int × ℚ) :=
  (state.lastMarkTimeMs, state.timeWeightedInventorySegments)

theorem settleFundings_accumulatorOf (candle : Candle) (changed : Bool)
    (funding : List FundingRecord) (state : GridSimulationState) :
    accumulatorOf (funding.foldl (settleFunding candle changed) state) =
      accumulatorOf state := by
  induction funding generalizing state with
  | nil => rfl
  | cons record rest inductionHypothesis =>
    rw [List.foldl_cons, inductionHypothesis]
    unfold settleFunding
    cases record.markPrice with
    | none => split_ifs <;> rfl
    | some mark => split_ifs <;> rfl

theorem recordBreaches_accumulatorOf (lowerBound upperBound : ℚ) (candle : Candle)
    (state : GridSimulationState) :
    accumulatorOf (recordBreaches lowerBound upperBound candle state) =
      accumulatorOf state := by
  unfold recordBreaches
  split_ifs <;> rfl

section Loop

variable (params : SimParams) (lowerBound upperBound : ℚ) (funding : List FundingRecord)

theorem processCandle_settled (candle : Candle) (active : state.isTerminal = false) :
    Settled candle.closeTimeMs (state.timeWeightedInventorySegments ++
      recordedSegment params
        (.ofCandle params (recordBreaches lowerBound upperBound candle state) candle))
      (processCandle params lowerBound upperBound funding state candle) := by
  have breached := recordBreaches_sameBooks lowerBound upperBound candle state
  have chosen := simulateCandle_settled params candle
    (breached.isTerminal.trans active)
  have settled := settleFundings_accumulatorOf candle
    (lotsChanged (recordBreaches lowerBound upperBound candle state)
      (simulateCandle params candle (recordBreaches lowerBound upperBound candle state)))
    funding (simulateCandle params candle (recordBreaches lowerBound upperBound candle state))
  have before := congrArg Prod.snd
    (recordBreaches_accumulatorOf lowerBound upperBound candle state)
  refine ⟨(congrArg Prod.fst settled).trans chosen.clock,
    ((congrArg Prod.snd settled).trans chosen.segments).trans ?_⟩
  exact congrArg (· ++ _) before

theorem simulateCandles_segments (candles : List Candle) (state : GridSimulationState) :
    (simulateCandles params lowerBound upperBound funding state
        candles).timeWeightedInventorySegments =
      state.timeWeightedInventorySegments ++
        (candleSteps params lowerBound upperBound funding state candles).flatMap
          (recordedSegment params) := by
  induction candles generalizing state with
  | nil => simp [simulateCandles, candleSteps]
  | cons candle rest inductionHypothesis =>
    unfold simulateCandles candleSteps
    by_cases ended : state.isTerminal
    · simp [ended]
    · have step := processCandle_settled params lowerBound upperBound funding candle
        (Bool.eq_false_iff.mpr ended)
      rw [if_neg ended, if_neg ended, inductionHypothesis, step.segments, List.append_assoc,
        List.flatMap_cons]

theorem candleSteps_clock {candles : List Candle}
    (started : 0 < state.lastMarkTimeMs) (later : ∀ candle ∈ candles, 0 < candle.closeTimeMs) :
    ∀ step ∈ candleSteps params lowerBound upperBound funding state candles,
      0 < step.before.lastMarkTimeMs := by
  induction candles generalizing state with
  | nil => exact fun _ member => absurd member List.not_mem_nil
  | cons candle rest inductionHypothesis =>
    unfold candleSteps
    by_cases ended : state.isTerminal
    · rw [if_pos ended]
      exact fun _ member => absurd member List.not_mem_nil
    · rw [if_neg ended]
      intro step member
      rcases List.mem_cons.mp member with rfl | other
      · have same := congrArg Prod.fst
          (recordBreaches_accumulatorOf lowerBound upperBound candle state)
        exact started.trans_eq same.symm
      · have settled := processCandle_settled params lowerBound upperBound funding candle
          (Bool.eq_false_iff.mpr ended)
        exact inductionHypothesis
          (settled.clock.symm ▸ later candle List.mem_cons_self)
          (fun other member => later other (List.mem_cons_of_mem _ member)) step other

theorem simulateCandles_clock {candles : List Candle} {final : Candle}
    (last : candles.getLast? = some final)
    (active : (simulateCandles params lowerBound upperBound funding state
      candles).isTerminal = false) :
    (simulateCandles params lowerBound upperBound funding state candles).lastMarkTimeMs =
      final.closeTimeMs := by
  induction candles generalizing state with
  | nil => cases last
  | cons candle rest inductionHypothesis =>
    unfold simulateCandles at active ⊢
    by_cases ended : state.isTerminal
    · rw [if_pos ended] at active
      exact absurd (active.symm.trans ended) Bool.false_ne_true
    · rw [if_neg ended] at active ⊢
      have settled := processCandle_settled params lowerBound upperBound funding candle
        (Bool.eq_false_iff.mpr ended)
      cases rest with
      | nil =>
        cases last
        exact settled.clock
      | cons next rest =>
        rw [List.getLast?_cons_cons] at last
        exact inductionHypothesis last active

theorem closeAtHorizon_segments (horizonEndMs : Int) (candles : List Candle)
    (state : GridSimulationState) :
    (closeAtHorizon params horizonEndMs candles
      (simulateCandles params lowerBound upperBound funding state
        candles)).timeWeightedInventorySegments =
      (simulateCandles params lowerBound upperBound funding state
        candles).timeWeightedInventorySegments := by
  unfold closeAtHorizon
  cases last : candles.getLast? with
  | none => rfl
  | some final =>
    dsimp only
    split_ifs with reached
    · have clock := simulateCandles_clock params lowerBound upperBound funding last
        (Bool.eq_false_iff.mpr reached.1)
      unfold forceCloseAtTerminal GridSimulationState.recordMarkSnapshot
      dsimp only
      rw [if_neg]
      rw [clock]
      exact fun advances => absurd reached.2 (not_le.mpr advances.2)
    · rfl

end Loop

/-! ### The reported mean -/

section Mean

variable {params : SimParams} {steps : List CandleStep}

theorem recordedSegment_total (params : SimParams) {step : CandleStep}
    (clock : 0 < step.before.lastMarkTimeMs) :
    ((recordedSegment params step).map Prod.fst).sum = (step.elapsed : Int) ∧
      ((recordedSegment params step).map fun segment => (segment.1 : ℚ) * segment.2).sum =
        (step.elapsed : ℚ) * markedInventory params step := by
  unfold recordedSegment markedSegment CandleStep.elapsed markedInventory
  by_cases advances : step.before.lastMarkTimeMs < step.candle.closeTimeMs
  · rw [if_pos ⟨clock, advances⟩]
    have natural : ((step.candle.closeTimeMs - step.before.lastMarkTimeMs).toNat : Int) =
        step.candle.closeTimeMs - step.before.lastMarkTimeMs := Int.toNat_of_nonneg (by omega)
    have rational : ((step.candle.closeTimeMs - step.before.lastMarkTimeMs).toNat : ℚ) =
        ((step.candle.closeTimeMs - step.before.lastMarkTimeMs : Int) : ℚ) := by
      exact_mod_cast congrArg (Int.cast : Int → ℚ) natural
    rw [natural, rational]
    simp
  · rw [if_neg (fun both => advances both.2), Int.toNat_of_nonpos (by omega)]
    simp

theorem recordedSegments_total (params : SimParams)
    (clocks : ∀ step ∈ steps, 0 < step.before.lastMarkTimeMs) :
    ((steps.flatMap (recordedSegment params)).map Prod.fst).sum =
        (steps.map fun step => (step.elapsed : Int)).sum ∧
      ((steps.flatMap (recordedSegment params)).map fun segment =>
          (segment.1 : ℚ) * segment.2).sum =
        (steps.map fun step => (step.elapsed : ℚ) * markedInventory params step).sum := by
  induction steps with
  | nil => exact ⟨rfl, rfl⟩
  | cons step rest inductionHypothesis =>
    obtain ⟨durations, weights⟩ :=
      inductionHypothesis fun other member => clocks other (List.mem_cons_of_mem _ member)
    obtain ⟨duration, weight⟩ :=
      recordedSegment_total params (clocks step List.mem_cons_self)
    simp only [List.flatMap_cons, List.map_append, List.sum_append, List.map_cons,
      List.sum_cons]
    exact ⟨by rw [duration, durations], by rw [weight, weights]⟩

theorem meanAbsInventory_eq_heldMean_iff (clocks : ∀ step ∈ steps, 0 < step.before.lastMarkTimeMs) :
    meanAbsInventory (steps.flatMap (recordedSegment params)) = heldMean steps ↔
      (steps.map (misattributed params)).sum = 0 := by
  obtain ⟨durations, weights⟩ := recordedSegments_total params clocks
  have split : (steps.map fun step => (step.elapsed : ℚ) * markedInventory params step).sum =
      (steps.map fun step => (step.elapsed : ℚ) * step.held).sum +
        (steps.map (misattributed params)).sum := by
    rw [← List.sum_map_add]
    refine congrArg List.sum (List.map_congr_left fun step _ => ?_)
    unfold misattributed
    ring
  have length : (((steps.map fun step => (step.elapsed : Int)).sum : Int) : ℚ) =
      (steps.map fun step => (step.elapsed : ℚ)).sum := by
    rw [Int.cast_list_sum, List.map_map]
    rfl
  unfold meanAbsInventory
  rw [heldMean_eq, durations, weights, split]
  dsimp only
  rw [length]
  by_cases some : 0 < (steps.map fun step => (step.elapsed : Int)).sum
  · have positive : (0 : ℚ) < (steps.map fun step => (step.elapsed : ℚ)).sum := by
      rw [← length]
      exact_mod_cast some
    rw [if_pos some, div_left_inj' positive.ne', add_eq_left]
  · -- Without elapsed time nothing is held and nothing misattributed.
    have none : ∀ step ∈ steps, step.elapsed = 0 := by
      intro step member
      have bound := List.single_le_sum (l := steps.map fun step => (step.elapsed : Int))
        (fun _ inside => by
          obtain ⟨other, -, rfl⟩ := List.mem_map.mp inside
          exact Int.natCast_nonneg _) _ (List.mem_map_of_mem member)
      omega
    have zero : (steps.map (misattributed params)).sum = 0 := by
      refine List.sum_eq_zero fun weight member => ?_
      obtain ⟨step, inside, rfl⟩ := List.mem_map.mp member
      rw [misattributed, none step inside, Nat.cast_zero, zero_mul]
    have empty : (steps.map fun step => (step.elapsed : ℚ)).sum = 0 := by
      refine List.sum_eq_zero fun duration member => ?_
      obtain ⟨step, inside, rfl⟩ := List.mem_map.mp member
      rw [none step inside, Nat.cast_zero]
    rw [if_neg some, zero, empty, div_zero]

end Mean

/-! ### The report -/

def misattributedTotal (evidence : TacticalFeatureEvidence) (candles1m : List Candle)
    (fundingRecords : List FundingRecord) : ℚ :=
  match activeEpisode evidence with
  | none => 0
  | some (params, _, _, _) =>
    ((evaluatedSteps evidence candles1m fundingRecords).map (misattributed params)).sum

/-- The reported time-weighted inventory is the mean of the inventory held over the evaluated
interval exactly when the time that the first marks of the candles give to changed lots
cancels. Decision times are positive: the accumulator takes a clock at zero for one that has
not started. -/
theorem timeWeightedInventory_iff {evidence : TacticalFeatureEvidence}
    {candles1m : List Candle} {fundingRecords : List FundingRecord}
    {evaluation : TacticalGridShadowEvaluation}
    (completed : evaluateGridShadowEpisode evidence candles1m fundingRecords =
      .ok evaluation) (positive : 0 < evidence.decisionTimeMs) :
    evaluation.meanAbsInventoryNotionalTimeWeighted =
        heldMean (evaluatedSteps evidence candles1m fundingRecords) ↔
      misattributedTotal evidence candles1m fundingRecords = 0 := by
  unfold misattributedTotal evaluatedSteps
  obtain ⟨inactive, rfl⟩ | ⟨plan, params, lower, upper, referencePrice, active, -, rfl⟩ :=
    evaluateGridShadowEpisode_cases completed
  · rw [inactive]
    simp [buildPauseEvaluation, heldMean]
  · rw [active]
    set candles := validCandles evidence.decisionTimeMs
      (evidence.decisionTimeMs + gridHorizonMs) candles1m with valid
    have later : ∀ candle ∈ candles, 0 < candle.closeTimeMs := by
      intro candle member
      rw [valid, validCandles, List.mem_insertionSort, List.mem_filter] at member
      have bounds := of_decide_eq_true member.2
      exact positive.trans bounds.1
    have clocks := candleSteps_clock params lower upper (sortedFunding fundingRecords)
      (show 0 < (initialState evidence referencePrice).lastMarkTimeMs from positive) later
    rw [← meanAbsInventory_eq_heldMean_iff clocks]
    show meanAbsInventory (runEpisode evidence params lower upper referencePrice candles1m
      fundingRecords).timeWeightedInventorySegments = _ ↔ _
    unfold runEpisode
    dsimp only
    rw [closeAtHorizon_segments, simulateCandles_segments]
    rfl

/-- A short-biased grid of three intervals. -/
def shortEvidence : TacticalFeatureEvidence where
  symbol := "BTCUSDT"
  decisionTimeMs := 1
  close15m := some 105
  gridAdvisoryPlan := some {
    decision := .shortBias
    lowerBound := some 90
    upperBound := some 120
    gridCount := 3
    triggerPrice := none
    stopLoss := some 130
    takeProfit := some 80 }

/-- The price rises through one level from the first trade of the minute on. -/
def risingCandle : Candle where
  symbol := "BTCUSDT"
  interval := "1m"
  openTimeMs := 1
  closeTimeMs := 60001
  openPrice := 105
  high := 115
  low := 105
  close := 115
  volume := 1

def risingEvaluation : TacticalGridShadowEvaluation :=
  (evaluateGridShadowEpisode shortEvidence [risingCandle] []).toOption.get (by decide +kernel)

theorem rising_completed :
    evaluateGridShadowEpisode shortEvidence [risingCandle] [] = .ok risingEvaluation := by
  decide +kernel

theorem timeWeightedInventory_iff_rising :
    risingEvaluation.meanAbsInventoryNotionalTimeWeighted =
        heldMean (evaluatedSteps shortEvidence [risingCandle] []) ↔
      misattributedTotal shortEvidence [risingCandle] [] = 0 :=
  timeWeightedInventory_iff rising_completed (by decide)

/-- Nothing is held before the close of the minute, and a lot is reported for all of it. -/
theorem rising_timeWeightedInventory :
    evaluateGridShadowEpisode shortEvidence [risingCandle] [] = .ok risingEvaluation ∧
      heldMean (evaluatedSteps shortEvidence [risingCandle] []) = 0 ∧
      risingEvaluation.meanAbsInventoryNotionalTimeWeighted ≠
        heldMean (evaluatedSteps shortEvidence [risingCandle] []) := by
  have held : heldMean (evaluatedSteps shortEvidence [risingCandle] []) = 0 := by
    rw [heldMean_eq]
    decide +kernel
  refine ⟨rising_completed, held, ?_⟩
  rw [held]
  decide +kernel

end QuantAgent.Grid
