/-
This file settles when a grid shadow episode ends at its stop loss or take profit.

A segment reacts to a price only when it moves across it, so a flat segment and a bar that
lies beyond a price as a whole end nothing. For a whole bar this comes down to one condition
on its low and high, the same for both intrabar paths: the range is not a single point and
contains one of the two prices.
-/

import QuantAgent.Grid.Accounting
import QuantAgent.Library.Windows

namespace QuantAgent.Grid

/-! ### What ends a segment -/

/-- The prices that end an episode. -/
def SimParams.triggers (params : SimParams) : List ℚ :=
  params.stopLoss.toList ++ params.takeProfit.toList

/-- The segment moves across one of the prices. -/
def Triggered (params : SimParams) (p0 p1 : ℚ) : Prop :=
  ∃ price ∈ params.triggers, segmentTouches p0 p1 price

theorem terminalTrigger_eq_none_iff {params : SimParams} {p0 p1 : ℚ} :
    terminalTrigger params p0 p1 = none ↔ ¬ Triggered params p0 p1 := by
  have untouched : ∀ price : Option ℚ,
      (price.filter fun value => segmentTouches p0 p1 value) = none ↔
        ∀ value ∈ price, ¬ segmentTouches p0 p1 value := by
    intro price
    rw [Option.filter_eq_none_iff]
    simp
  have both : terminalTrigger params p0 p1 = none ↔
      (params.stopLoss.filter fun value => segmentTouches p0 p1 value) = none ∧
      (params.takeProfit.filter fun value => segmentTouches p0 p1 value) = none := by
    unfold terminalTrigger
    cases params.stopLoss.filter fun value => segmentTouches p0 p1 value <;>
      cases params.takeProfit.filter fun value => segmentTouches p0 p1 value <;>
      simp only [reduceCtorEq, and_true, and_false]
    split_ifs <;> simp
  rw [both, untouched, untouched]
  simp only [Triggered, SimParams.triggers, List.mem_append, Option.mem_toList, not_exists,
    not_and]
  exact ⟨fun apart price member => member.elim (apart.1 price) (apart.2 price),
    fun apart => ⟨fun price member => apart price (Or.inl member),
      fun price member => apart price (Or.inr member)⟩⟩

/-! ### What ends a path -/

/-- The segments between neighbouring points of a path. -/
def segments : List ℚ → List (ℚ × ℚ)
  | p0 :: p1 :: rest => (p0, p1) :: segments (p1 :: rest)
  | _ => []

def PathTriggered (params : SimParams) (points : List ℚ) : Prop :=
  ∃ segment ∈ segments points, Triggered params segment.1 segment.2

/-- The episode ended at the given time. -/
def EndedAt (state : GridSimulationState) (timestampMs : Int) : Prop :=
  state.isTerminal = true ∧ state.terminalTimeMs = some timestampMs

/-- The episode is running and has recorded no end. -/
def Running (state : GridSimulationState) : Prop :=
  state.isTerminal = false ∧ state.terminalTimeMs = none

variable {state : GridSimulationState}

theorem Running.not_endedAt (running : Running state) (timestampMs : Int) :
    ¬ EndedAt state timestampMs := fun ended =>
  absurd (running.1.symm.trans ended.1) Bool.false_ne_true

section Paths

variable (params : SimParams) (timestampMs : Int)

theorem processMonotonicSegment_outcome (p0 p1 : ℚ) {state : GridSimulationState}
    (running : Running state) :
    (Triggered params p0 p1 →
        EndedAt (processMonotonicSegment params timestampMs state p0 p1).1 timestampMs) ∧
      (¬ Triggered params p0 p1 →
        Running (processMonotonicSegment params timestampMs state p0 p1).1) := by
  have active : ¬ state.isTerminal = true := by
    rw [running.1]
    exact Bool.false_ne_true
  unfold processMonotonicSegment
  rw [if_neg active]
  cases trigger : terminalTrigger params p0 p1 with
  | none =>
    have untriggered := terminalTrigger_eq_none_iff.mp trigger
    refine ⟨fun triggered => absurd triggered untriggered, fun _ => ⟨?_, ?_⟩⟩
    · simpa using running.1
    · simpa using running.2
  | some hit =>
    refine ⟨fun _ => ⟨rfl, rfl⟩, fun untriggered => ?_⟩
    have silent := terminalTrigger_eq_none_iff.mpr untriggered
    exact absurd (trigger.symm.trans silent) (Option.some_ne_none hit)

theorem simulatePath_outcome (points : List ℚ) {state : GridSimulationState}
    (running : Running state) :
    (PathTriggered params points →
        EndedAt (simulatePath params timestampMs state points) timestampMs) ∧
      (¬ PathTriggered params points →
        Running (simulatePath params timestampMs state points)) := by
  induction points generalizing state with
  | nil =>
    refine ⟨fun triggered => ?_, fun _ => running⟩
    obtain ⟨segment, member, -⟩ := triggered
    exact absurd member List.not_mem_nil
  | cons p0 rest inductionHypothesis =>
    cases rest with
    | nil =>
      refine ⟨fun triggered => ?_, fun _ => running⟩
      obtain ⟨segment, member, -⟩ := triggered
      exact absurd member List.not_mem_nil
    | cons p1 rest =>
      have outcome := processMonotonicSegment_outcome params timestampMs p0 p1 running
      have flag := processMonotonicSegment_flag params timestampMs state p0 p1
      have unfolded : PathTriggered params (p0 :: p1 :: rest) ↔
          Triggered params p0 p1 ∨ PathTriggered params (p1 :: rest) := by
        simp [PathTriggered, segments]
      rw [unfolded]
      unfold simulatePath
      by_cases triggered : Triggered params p0 p1
      · have ended := outcome.1 triggered
        simp only [flag, ended.1, if_true]
        exact ⟨fun _ => ended, fun untriggered => absurd (Or.inl triggered) untriggered⟩
      · have stillRunning := outcome.2 triggered
        simp only [flag, stillRunning.1, Bool.false_eq_true, if_false, triggered, false_or]
        exact inductionHypothesis stillRunning

end Paths

/-! ### What ends a candle -/

/-- The range of the candle is not a single point and contains a stop or target. -/
def Crossable (params : SimParams) (candle : Candle) : Prop :=
  candle.low < candle.high ∧ ∃ price ∈ params.triggers, candle.low ≤ price ∧ price ≤ candle.high

instance (params : SimParams) (candle : Candle) : Decidable (Crossable params candle) :=
  inferInstanceAs (Decidable (_ ∧ ∃ price ∈ params.triggers, _))

theorem Triggered.crossable {params : SimParams} {candle : Candle} {p0 p1 : ℚ}
    (triggered : Triggered params p0 p1)
    (first : candle.low ≤ p0 ∧ p0 ≤ candle.high)
    (second : candle.low ≤ p1 ∧ p1 ≤ candle.high) : Crossable params candle := by
  obtain ⟨price, member, ⟨falling, lower, upper⟩ | ⟨rising, lower, upper⟩⟩ := triggered
  · exact ⟨by linarith, price, member, by linarith, by linarith⟩
  · exact ⟨by linarith, price, member, by linarith, by linarith⟩

theorem pathTriggered_iff (params : SimParams) (candle : Candle) :
    (PathTriggered params (pathAPoints candle) ↔ Crossable params candle) ∧
      (PathTriggered params (pathBPoints candle) ↔ Crossable params candle) := by
  have openWithin := And.intro candle.low_le_open candle.open_le_high
  have closeWithin := And.intro candle.low_le_close candle.close_le_high
  have lowWithin := And.intro (le_refl candle.low) candle.low_le_high
  have highWithin := And.intro candle.low_le_high (le_refl candle.high)
  simp only [PathTriggered, pathAPoints, pathBPoints, segments, List.mem_cons,
    List.not_mem_nil, or_false, exists_eq_or_imp, exists_eq_left]
  refine ⟨⟨?_, ?_⟩, ⟨?_, ?_⟩⟩
  · rintro (triggered | triggered | triggered)
    · exact triggered.crossable openWithin highWithin
    · exact triggered.crossable highWithin lowWithin
    · exact triggered.crossable lowWithin closeWithin
  · rintro ⟨moving, price, member, lower, upper⟩
    exact Or.inr (Or.inl ⟨price, member, Or.inl ⟨moving, lower, upper⟩⟩)
  · rintro (triggered | triggered | triggered)
    · exact triggered.crossable openWithin lowWithin
    · exact triggered.crossable lowWithin highWithin
    · exact triggered.crossable highWithin closeWithin
  · rintro ⟨moving, price, member, lower, upper⟩
    exact Or.inr (Or.inl ⟨price, member, Or.inr ⟨moving, lower, upper⟩⟩)

section Loop

variable (params : SimParams) (lowerBound upperBound : ℚ) (funding : List FundingRecord)

theorem processCandle_outcome (candle : Candle) (running : Running state) :
    (Crossable params candle →
        EndedAt (processCandle params lowerBound upperBound funding state candle)
          candle.closeTimeMs) ∧
      (¬ Crossable params candle →
        Running (processCandle params lowerBound upperBound funding state candle)) := by
  set before := recordBreaches lowerBound upperBound candle state with beforeEq
  have marked := recordBreaches_sameBooks lowerBound upperBound candle state
  have entered : Running before :=
    ⟨marked.isTerminal.trans running.1, marked.terminalTimeMs.trans running.2⟩
  have pathA := simulatePath_outcome params candle.closeTimeMs (pathAPoints candle) entered
  have pathB := simulatePath_outcome params candle.closeTimeMs (pathBPoints candle) entered
  rw [(pathTriggered_iff params candle).1] at pathA
  rw [(pathTriggered_iff params candle).2] at pathB
  have settled := settleFundings_sameBooks candle
    (lotsChanged before (simulateCandle params candle before)) funding
    (simulateCandle params candle before)
  have terminal : (processCandle params lowerBound upperBound funding state candle).isTerminal =
      (simulateCandle params candle before).isTerminal := settled.isTerminal
  have time : (processCandle params lowerBound upperBound funding state candle).terminalTimeMs =
      (simulateCandle params candle before).terminalTimeMs := settled.terminalTimeMs
  unfold EndedAt Running
  rw [terminal, time]
  rcases simulateCandle_cases params candle before with keptA | keptB
  · rw [keptA]
    exact pathA
  · rw [keptB]
    exact pathB

theorem simulateCandles_ended (ended : state.isTerminal = true) (candles : List Candle) :
    simulateCandles params lowerBound upperBound funding state candles = state := by
  cases candles with
  | nil => rfl
  | cons candle rest => rw [simulateCandles, if_pos ended]

theorem simulateCandles_append (early late : List Candle) (state : GridSimulationState) :
    simulateCandles params lowerBound upperBound funding state (early ++ late) =
      simulateCandles params lowerBound upperBound funding
        (simulateCandles params lowerBound upperBound funding state early) late := by
  induction early generalizing state with
  | nil => rfl
  | cons candle rest inductionHypothesis =>
    rw [List.cons_append]
    by_cases ended : state.isTerminal
    · rw [simulateCandles_ended _ _ _ _ ended, simulateCandles_ended _ _ _ _ ended,
        simulateCandles_ended _ _ _ _ ended]
    · rw [simulateCandles, if_neg ended, inductionHypothesis]
      conv_rhs => rw [simulateCandles, if_neg ended]

theorem simulateCandles_outcome (candles : List Candle) (running : Running state) :
    Running (simulateCandles params lowerBound upperBound funding state candles) ∨
      ∃ candle ∈ candles,
        EndedAt (simulateCandles params lowerBound upperBound funding state candles)
          candle.closeTimeMs := by
  induction candles generalizing state with
  | nil => exact Or.inl running
  | cons candle rest inductionHypothesis =>
    have outcome := processCandle_outcome params lowerBound upperBound funding candle running
    rw [simulateCandles, if_neg (by rw [running.1]; exact Bool.false_ne_true)]
    by_cases crossable : Crossable params candle
    · have ended := outcome.1 crossable
      rw [simulateCandles_ended _ _ _ _ ended.1]
      exact Or.inr ⟨candle, List.mem_cons_self, ended⟩
    · rcases inductionHypothesis (outcome.2 crossable) with still | ⟨later, member, ended⟩
      · exact Or.inl still
      · exact Or.inr ⟨later, List.mem_cons_of_mem _ member, ended⟩

end Loop

/-! ### The close at the horizon -/

theorem closeAtHorizon_ended (params : SimParams) (horizonEndMs : Int) (candles : List Candle)
    (ended : state.isTerminal = true) :
    closeAtHorizon params horizonEndMs candles state = state := by
  unfold closeAtHorizon
  cases candles.getLast? with
  | none => rfl
  | some final => simp [ended]

theorem closeAtHorizon_running (params : SimParams) (horizonEndMs : Int) (candles : List Candle)
    (running : Running state) :
    (∃ final, candles.getLast? = some final ∧ horizonEndMs ≤ final.closeTimeMs) ∧
        EndedAt (closeAtHorizon params horizonEndMs candles state) horizonEndMs ∨
      (¬ ∃ final, candles.getLast? = some final ∧ horizonEndMs ≤ final.closeTimeMs) ∧
        Running (closeAtHorizon params horizonEndMs candles state) := by
  unfold closeAtHorizon
  cases last : candles.getLast? with
  | none => exact Or.inr ⟨by simp, running⟩
  | some final =>
    by_cases reached : horizonEndMs ≤ final.closeTimeMs
    · simp only [running.1, Bool.false_eq_true, not_false_eq_true, reached, and_self, if_true]
      exact Or.inl ⟨⟨final, rfl, reached⟩, rfl, rfl⟩
    · simp only [reached, and_false, if_false]
      exact Or.inr ⟨by simpa using reached, running⟩

/-! ### Candles that are due to end the episode -/

theorem contiguous_chained {candles : List Candle} (covered : contiguous candles = true) :
    Windows.Chained Candle.openTimeMs Candle.closeTimeMs candles := by
  induction candles with
  | nil => exact List.isChain_nil
  | cons first rest inductionHypothesis =>
    cases rest with
    | nil => exact List.isChain_singleton first
    | cons second rest =>
      rw [contiguous, Bool.and_eq_true, decide_eq_true_eq] at covered
      exact List.isChain_cons_cons.mpr ⟨covered.1, inductionHypothesis covered.2⟩

def TradesBeyond (params : SimParams) (previousClose : Option ℚ) (candle : Candle) : Prop :=
  (∃ stop ∈ params.stopLoss, candle.low ≤ stop ∨ ∃ close ∈ previousClose, close ≤ stop) ∨
    ∃ target ∈ params.takeProfit,
      target ≤ candle.high ∨ ∃ close ∈ previousClose, target ≤ close

section Completeness

variable (evidence : TacticalFeatureEvidence) (params : SimParams)
  (lowerBound upperBound referencePrice : ℚ) (candles1m : List Candle)
  (fundingRecords : List FundingRecord)

def episodeCandles : List Candle :=
  validCandles evidence.decisionTimeMs (evidence.decisionTimeMs + gridHorizonMs) candles1m

/-- The loop's state after some candles of the episode. -/
def stateAfter (before : List Candle) : GridSimulationState :=
  simulateCandles params lowerBound upperBound (sortedFunding fundingRecords)
    (initialState evidence referencePrice) before

/-- A candle of the episode that lies fully after the decision, is entered while the grid is
active, and trades at or beyond a stop or target. -/
structure DueCandle (before : List Candle) (candle : Candle) (after : List Candle) : Prop where
  position : episodeCandles evidence candles1m = before ++ candle :: after
  afterDecision : evidence.decisionTimeMs ≤ candle.openTimeMs
  active : (stateAfter evidence params lowerBound upperBound referencePrice fundingRecords
    before).isTerminal = false
  beyond : TradesBeyond params (before.getLast?.map Candle.close) candle

variable {evidence params lowerBound upperBound referencePrice candles1m fundingRecords}

theorem stateAfter_running {before : List Candle}
    (active : (stateAfter evidence params lowerBound upperBound referencePrice fundingRecords
      before).isTerminal = false) :
    Running (stateAfter evidence params lowerBound upperBound referencePrice fundingRecords
      before) := by
  have start : Running (initialState evidence referencePrice) := ⟨rfl, rfl⟩
  rcases simulateCandles_outcome params lowerBound upperBound (sortedFunding fundingRecords)
    before start with running | ⟨candle, -, ended⟩
  · exact running
  · exact absurd (active.symm.trans ended.1) Bool.false_ne_true

theorem runEpisode_split {before after : List Candle} {candle : Candle}
    (position : episodeCandles evidence candles1m = before ++ candle :: after)
    (active : (stateAfter evidence params lowerBound upperBound referencePrice fundingRecords
      before).isTerminal = false) :
    runEpisode evidence params lowerBound upperBound referencePrice candles1m fundingRecords =
      closeAtHorizon params (evidence.decisionTimeMs + gridHorizonMs)
        (before ++ candle :: after)
        (simulateCandles params lowerBound upperBound (sortedFunding fundingRecords)
          (processCandle params lowerBound upperBound (sortedFunding fundingRecords)
            (stateAfter evidence params lowerBound upperBound referencePrice fundingRecords
              before) candle) after) := by
  unfold episodeCandles at position
  unfold runEpisode
  simp only [position]
  rw [simulateCandles_append]
  conv_lhs => rw [simulateCandles]
  unfold stateAfter at active ⊢
  rw [if_neg (by rw [active]; exact Bool.false_ne_true)]

/-- Every candle due to end the episode does so by its own end exactly when each of them can
be crossed or closes the horizon. A flat candle, and one that lies beyond the price as a
whole after a gap, are due and end nothing. -/
theorem due_candles_end_episode_iff
    (covered : contiguous (episodeCandles evidence candles1m) = true) :
    (∀ before candle after,
        DueCandle evidence params lowerBound upperBound referencePrice candles1m
          fundingRecords before candle after →
        ∃ time ≤ candle.closeTimeMs,
          EndedAt (runEpisode evidence params lowerBound upperBound referencePrice candles1m
            fundingRecords) time) ↔
      ∀ before candle after,
        DueCandle evidence params lowerBound upperBound referencePrice candles1m
          fundingRecords before candle after →
        Crossable params candle ∨
          evidence.decisionTimeMs + gridHorizonMs ≤ candle.closeTimeMs := by
  have proper : ∀ candle : Candle, candle.openTimeMs < candle.closeTimeMs :=
    Candle.closeAfterOpen
  have chained := contiguous_chained covered
  refine forall_congr' fun before => forall_congr' fun candle => forall_congr' fun after =>
    forall_congr' fun due => ?_
  have running := stateAfter_running due.active
  have outcome := processCandle_outcome params lowerBound upperBound
    (sortedFunding fundingRecords) candle running
  have tail : Windows.Chained Candle.openTimeMs Candle.closeTimeMs (candle :: after) := by
    rw [due.position] at chained
    exact (List.isChain_append.mp chained).2.1
  rw [runEpisode_split due.position due.active]
  constructor
  · rintro ⟨time, early, ended⟩
    by_contra neither
    obtain ⟨uncrossable, unreached⟩ := not_or.mp neither
    -- The loop goes on after the candle, so whatever ends the episode ends it later.
    rcases simulateCandles_outcome params lowerBound upperBound (sortedFunding fundingRecords)
      after (outcome.2 uncrossable) with still | ⟨later, member, endedLater⟩
    · rcases closeAtHorizon_running params (evidence.decisionTimeMs + gridHorizonMs)
        (before ++ candle :: after) still with ⟨-, endedHorizon⟩ | ⟨-, never⟩
      · have same := Option.some.inj (ended.2.symm.trans endedHorizon.2)
        omega
      · exact never.not_endedAt time ended
    · rw [closeAtHorizon_ended _ _ _ endedLater.1] at ended
      have same := Option.some.inj (ended.2.symm.trans endedLater.2)
      have ordered := tail.stop_lt_stop proper later member
      omega
  · intro condition
    by_cases crossable : Crossable params candle
    · have ended := outcome.1 crossable
      rw [simulateCandles_ended _ _ _ _ ended.1, closeAtHorizon_ended _ _ _ ended.1]
      exact ⟨candle.closeTimeMs, le_rfl, ended⟩
    · -- Only the last candle reaches the horizon.
      have reached := condition.resolve_left crossable
      have last : after = [] := by
        cases after with
        | nil => rfl
        | cons next rest =>
          have meets := (List.isChain_cons_cons.mp tail).1
          have member : next ∈ episodeCandles evidence candles1m := by
            rw [due.position]
            simp
          have inside : next.openTimeMs < evidence.decisionTimeMs + gridHorizonMs := by
            rw [episodeCandles, validCandles, List.mem_insertionSort, List.mem_filter,
              decide_eq_true_eq] at member
            exact member.2.2
          omega
      subst last
      have stillRunning := outcome.2 crossable
      rcases closeAtHorizon_running params (evidence.decisionTimeMs + gridHorizonMs)
        (before ++ [candle]) stillRunning with ⟨-, endedHorizon⟩ | ⟨unreached, -⟩
      · exact ⟨_, reached, endedHorizon⟩
      · exact absurd ⟨candle, by simp, reached⟩ unreached

end Completeness

/-! ### A gap through the stop -/

def stoppedParams : SimParams where
  gridDecision := .longBias
  levels := [90, 100, 110, 120]
  anchorIndex := 1
  unitNotional := 1 / 3
  makerFeeRate := 2 / 10000
  takerFeeRate := 5 / 10000
  slippageBpsPerSide := 2
  stopLoss := some 80
  takeProfit := some 130

def quietCandle : Candle where
  symbol := "BTCUSDT"
  interval := "1m"
  openTimeMs := 0
  closeTimeMs := 60000
  openPrice := 105
  high := 105
  low := 95
  close := 95
  volume := 1

/-- The next candle, which opens below the stop and stays there. -/
def gappedCandle : Candle where
  symbol := "BTCUSDT"
  interval := "1m"
  openTimeMs := 60000
  closeTimeMs := 120000
  openPrice := 70
  high := 72
  low := 69
  close := 71
  volume := 1

theorem due_candles_end_episode_iff_gapped :
    (∀ before candle after,
        DueCandle stoppedEvidence stoppedParams 90 120 105 [quietCandle, gappedCandle] []
          before candle after →
        ∃ time ≤ candle.closeTimeMs,
          EndedAt (runEpisode stoppedEvidence stoppedParams 90 120 105
            [quietCandle, gappedCandle] []) time) ↔
      ∀ before candle after,
        DueCandle stoppedEvidence stoppedParams 90 120 105 [quietCandle, gappedCandle] []
          before candle after →
        Crossable stoppedParams candle ∨
          stoppedEvidence.decisionTimeMs + gridHorizonMs ≤ candle.closeTimeMs :=
  due_candles_end_episode_iff (by decide +kernel)

/-- The gapped candle trades below the stop with a lot open, and the episode never ends. -/
theorem gapped_candle_ends_nothing :
    activeEpisode stoppedEvidence = some (stoppedParams, 90, 120, 105) ∧
      DueCandle stoppedEvidence stoppedParams 90 120 105 [quietCandle, gappedCandle] []
        [quietCandle] gappedCandle [] ∧
      ∀ time, ¬ EndedAt (runEpisode stoppedEvidence stoppedParams 90 120 105
        [quietCandle, gappedCandle] []) time := by
  refine ⟨by decide +kernel, ⟨by decide +kernel, by decide +kernel, by decide +kernel, ?_⟩,
    fun time ended => ?_⟩
  · exact Or.inl ⟨80, rfl, Or.inl (by decide +kernel)⟩
  · have running : (runEpisode stoppedEvidence stoppedParams 90 120 105
        [quietCandle, gappedCandle] []).isTerminal = false := by decide +kernel
    exact absurd (running.symm.trans ended.1) Bool.false_ne_true

end QuantAgent.Grid
