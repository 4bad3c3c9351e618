/-
This file follows the ambiguity events of a grid shadow episode to the report.

The arbiter of a candle appends its divergence event to the state the two paths were cloned
from, and the loop goes on with one of the clones. The events of the funding loop are appended
to the clone that was chosen.
-/

import QuantAgent.Grid.Funding

namespace QuantAgent.Grid

/-! ### The steps of the loop and what they record -/

/-- One iteration of the candle loop: the state the two paths are cloned from, the candle, the
states the two hypotheses produce and the clone the loop goes on with. -/
structure CandleStep where
  before : GridSimulationState
  candle : Candle
  stateA : GridSimulationState
  stateB : GridSimulationState
  chosen : GridSimulationState

namespace CandleStep

def ofCandle (params : SimParams) (before : GridSimulationState) (candle : Candle) :
    CandleStep where
  before := before
  candle := candle
  stateA := simulatePath params candle.closeTimeMs before (pathAPoints candle)
  stateB := simulatePath params candle.closeTimeMs before (pathBPoints candle)
  chosen := simulateCandle params candle before

/-- The arbiter's own test. -/
def isDivergent (step : CandleStep) : Bool :=
  (selectConservativeState step.stateA step.stateB step.candle.close).2.2

end CandleStep

def candleSteps (params : SimParams) (lowerBound upperBound : ℚ)
    (funding : List FundingRecord) : GridSimulationState → List Candle → List CandleStep
  | _, [] => []
  | state, candle :: rest =>
    if state.isTerminal then []
    else
      .ofCandle params (recordBreaches lowerBound upperBound candle state) candle ::
        candleSteps params lowerBound upperBound funding
          (processCandle params lowerBound upperBound funding state candle) rest

def fundingEvents (candle : Candle) (changed : Bool) (funding : List FundingRecord) :
    List AmbiguityEvent :=
  if changed then
    (funding.filter fun record => inFundingWindow candle record).map fun record =>
      .ambiguousFundingBoundary record.fundingTimeMs candle.openTimeMs
  else []

def selectedEvents (funding : List FundingRecord) (step : CandleStep) : List AmbiguityEvent :=
  fundingEvents step.candle (lotsChanged step.before step.chosen) funding

namespace AmbiguityEvent

def isDivergence : AmbiguityEvent → Bool
  | .twoPathDivergence _ _ => true
  | .ambiguousFundingBoundary _ _ => false

def isDivergenceAt (openTimeMs : Int) : AmbiguityEvent → Bool
  | .twoPathDivergence candleOpenMs _ => candleOpenMs = openTimeMs
  | .ambiguousFundingBoundary _ _ => false

end AmbiguityEvent

/-! ### What survives -/

theorem settleFundings_events (candle : Candle) (changed : Bool) (funding : List FundingRecord)
    (state : GridSimulationState) :
    (funding.foldl (settleFunding candle changed) state).ambiguityEvents =
      state.ambiguityEvents ++ fundingEvents candle changed funding := by
  induction funding generalizing state with
  | nil => cases changed <;> simp [fundingEvents]
  | cons record rest inductionHypothesis =>
    rw [List.foldl_cons, inductionHypothesis]
    unfold settleFunding
    by_cases inside : inFundingWindow candle record
    · cases changed with
      | true => simp [fundingEvents, inside]
      | false =>
        cases record.markPrice with
        | none => simp [fundingEvents, inside]
        | some mark =>
          simp only [inside, if_true, Bool.false_eq_true, if_false]
          split_ifs <;> rfl
    · cases changed <;> simp [fundingEvents, inside]

theorem recordBreaches_events (lowerBound upperBound : ℚ) (candle : Candle)
    (state : GridSimulationState) :
    (recordBreaches lowerBound upperBound candle state).ambiguityEvents =
      state.ambiguityEvents := by
  unfold recordBreaches
  split_ifs <;> rfl

theorem closeAtHorizon_events (params : SimParams) (horizonEndMs : Int) (candles : List Candle)
    (state : GridSimulationState) :
    (closeAtHorizon params horizonEndMs candles state).ambiguityEvents =
      state.ambiguityEvents := by
  unfold closeAtHorizon
  cases candles.getLast? with
  | none => rfl
  | some final =>
    dsimp only
    split_ifs <;> rfl

theorem simulateCandle_events (params : SimParams) (candle : Candle) (state : GridSimulationState) :
    (simulateCandle params candle state).ambiguityEvents = state.ambiguityEvents :=
  simulateCandle_frame GridSimulationState.ambiguityEvents params (fun _ _ _ _ => rfl)
    (fun _ _ _ => rfl) (fun _ _ _ _ => rfl) candle state

/-- The event of a candle on which the paths diverge is appended to the state that they were cloned
from, and the clone that replaces this state does not have it. -/
theorem divergence_lost (params : SimParams) (candle : Candle) (state : GridSimulationState)
    (divergent : (CandleStep.ofCandle params state candle).isDivergent = true) :
    (∃ path, (runTwoPaths params candle state).1.ambiguityEvents =
      state.ambiguityEvents ++ [.twoPathDivergence candle.openTimeMs path]) ∧
    (runTwoPaths params candle state).2.ambiguityEvents = state.ambiguityEvents := by
  constructor
  · unfold CandleStep.isDivergent CandleStep.ofCandle at divergent
    unfold runTwoPaths
    dsimp only at divergent ⊢
    rw [if_pos divergent]
    exact ⟨_, rfl⟩
  · exact simulateCandle_events params candle state

/-- The loop keeps every event of its funding loops, in order, and no other. -/
theorem simulateCandles_events (params : SimParams) (lowerBound upperBound : ℚ)
    (funding : List FundingRecord) (candles : List Candle) (state : GridSimulationState) :
    (simulateCandles params lowerBound upperBound funding state candles).ambiguityEvents =
      state.ambiguityEvents ++
        (candleSteps params lowerBound upperBound funding state candles).flatMap
          (selectedEvents funding) := by
  induction candles generalizing state with
  | nil => simp [simulateCandles, candleSteps]
  | cons candle rest inductionHypothesis =>
    unfold simulateCandles candleSteps
    by_cases ended : state.isTerminal
    · simp [ended]
    · have step : (processCandle params lowerBound upperBound funding state
          candle).ambiguityEvents = state.ambiguityEvents ++ selectedEvents funding
            (.ofCandle params (recordBreaches lowerBound upperBound candle state) candle) := by
        unfold processCandle selectedEvents CandleStep.ofCandle
        dsimp only
        rw [settleFundings_events, simulateCandle_events, recordBreaches_events]
      rw [if_neg ended, if_neg ended, inductionHypothesis, step, List.append_assoc,
        List.flatMap_cons]

/-! ### The evidence of an episode -/

def evaluatedSteps (evidence : TacticalFeatureEvidence) (candles1m : List Candle)
    (fundingRecords : List FundingRecord) : List CandleStep :=
  match activeEpisode evidence with
  | none => []
  | some (params, lower, upper, referencePrice) =>
    candleSteps params lower upper (sortedFunding fundingRecords)
      (initialState evidence referencePrice)
      (validCandles evidence.decisionTimeMs (evidence.decisionTimeMs + gridHorizonMs) candles1m)

/-- The events of a report are complete, for a test that tells when the hypotheses of a step
differ: one divergence event for each candle on which they do and none for the others, and
besides exactly the events recorded on the selected path. -/
structure EvidenceComplete (funding : List FundingRecord) (differ : CandleStep → Bool)
    (steps : List CandleStep) (events : List AmbiguityEvent) : Prop where
  divergences : ∀ step ∈ steps,
    (events.filter (AmbiguityEvent.isDivergenceAt step.candle.openTimeMs)).length =
      if differ step then 1 else 0
  selected : (events.filter fun event => ¬ event.isDivergence) =
    steps.flatMap (selectedEvents funding)

theorem evaluation_events {evidence : TacticalFeatureEvidence} {candles1m : List Candle}
    {fundingRecords : List FundingRecord} {evaluation : TacticalGridShadowEvaluation}
    (completed : evaluateGridShadowEpisode evidence candles1m fundingRecords =
      .ok evaluation) :
    evaluation.ambiguityEvents = (evaluatedSteps evidence candles1m fundingRecords).flatMap
      (selectedEvents (sortedFunding fundingRecords)) := by
  unfold evaluatedSteps
  obtain ⟨inactive, rfl⟩ | ⟨plan, params, lower, upper, referencePrice, active, -, rfl⟩ :=
    evaluateGridShadowEpisode_cases completed
  · rw [inactive]
    rfl
  · rw [active]
    show (runEpisode evidence params lower upper referencePrice candles1m
      fundingRecords).ambiguityEvents = _
    unfold runEpisode
    dsimp only
    rw [closeAtHorizon_events, simulateCandles_events]
    rfl

theorem isDivergence_of_mem_selected {funding : List FundingRecord} {steps : List CandleStep}
    {event : AmbiguityEvent} (member : event ∈ steps.flatMap (selectedEvents funding)) :
    event.isDivergence = false := by
  obtain ⟨step, -, recorded⟩ := List.mem_flatMap.mp member
  unfold selectedEvents fundingEvents at recorded
  split_ifs at recorded
  · obtain ⟨record, -, rfl⟩ := List.mem_map.mp recorded
    rfl
  · cases recorded

/-- Whatever counts as a difference of the two hypotheses, the divergence evidence of a report
is complete exactly when no evaluated candle has one. -/
theorem divergence_evidence_iff {evidence : TacticalFeatureEvidence} {candles1m : List Candle}
    {fundingRecords : List FundingRecord} {evaluation : TacticalGridShadowEvaluation}
    (completed : evaluateGridShadowEpisode evidence candles1m fundingRecords =
      .ok evaluation) (differ : CandleStep → Bool) :
    EvidenceComplete (sortedFunding fundingRecords) differ
        (evaluatedSteps evidence candles1m fundingRecords) evaluation.ambiguityEvents ↔
      ∀ step ∈ evaluatedSteps evidence candles1m fundingRecords, differ step = false := by
  have events := evaluation_events completed
  have plain : ∀ event ∈ evaluation.ambiguityEvents, event.isDivergence = false := by
    intro event member
    rw [events] at member
    exact isDivergence_of_mem_selected member
  have undivided : ∀ openTimeMs,
      evaluation.ambiguityEvents.filter (AmbiguityEvent.isDivergenceAt openTimeMs) = [] := by
    intro openTimeMs
    refine List.filter_eq_nil_iff.mpr fun event member => ?_
    have other := plain event member
    cases event with
    | twoPathDivergence candleOpenMs path => exact absurd other Bool.noConfusion
    | ambiguousFundingBoundary fundingTimeMs candleOpenMs => exact Bool.false_ne_true
  constructor
  · intro complete step member
    have counted := complete.divergences step member
    rw [undivided, List.length_nil] at counted
    by_contra differs
    rw [if_pos (Bool.eq_true_of_not_eq_false differs)] at counted
    exact absurd counted zero_ne_one
  · intro agree
    refine ⟨fun step member => ?_, ?_⟩
    · rw [undivided, agree step member]
      rfl
    · rw [← events]
      exact List.filter_eq_self.mpr fun event member => by simp [plain event member]

theorem divergence_evidence_iff_stopped :
    EvidenceComplete (sortedFunding []) CandleStep.isDivergent
        (evaluatedSteps stoppedEvidence [stoppedCandle] []) stoppedEvaluation.ambiguityEvents ↔
      ∀ step ∈ evaluatedSteps stoppedEvidence [stoppedCandle] [], step.isDivergent = false :=
  divergence_evidence_iff stopped_completed CandleStep.isDivergent

def swingCandle : Candle where
  symbol := "BTCUSDT"
  interval := "1m"
  openTimeMs := 0
  closeTimeMs := 60000
  openPrice := 105
  high := 115
  low := 95
  close := 105
  volume := 1

def swingEvaluation : TacticalGridShadowEvaluation :=
  (evaluateGridShadowEpisode stoppedEvidence [swingCandle] []).toOption.get (by decide +kernel)

/-- The arbiter sees the swing diverge, and the report does not say so. -/
theorem swing_divergence_unrecorded :
    evaluateGridShadowEpisode stoppedEvidence [swingCandle] [] = .ok swingEvaluation ∧
      ¬ EvidenceComplete (sortedFunding []) CandleStep.isDivergent
        (evaluatedSteps stoppedEvidence [swingCandle] []) swingEvaluation.ambiguityEvents ∧
      ¬ EvidenceComplete (sortedFunding []) (fun step => step.stateA ≠ step.stateB)
        (evaluatedSteps stoppedEvidence [swingCandle] []) swingEvaluation.ambiguityEvents :=
  ⟨by decide +kernel, fun complete => absurd complete.divergences (by decide +kernel),
    fun complete => absurd complete.divergences (by decide +kernel)⟩

end QuantAgent.Grid
