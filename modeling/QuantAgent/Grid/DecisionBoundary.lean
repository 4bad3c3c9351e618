/-
This file compares two evaluations of one grid episode whose candles agree from the decision
on.

The filter of the episode keeps every candle that closes after the decision, so a candle the
decision falls into is simulated whole, with the open, the high and the low it made before.
Without such a candle the evaluations are the same; with one there is always a list that agrees
and crosses the grid differently.
-/

import QuantAgent.Grid.TimeWeighted
import QuantAgent.Grid.Inventory
import QuantAgent.Library.DueQueue

namespace QuantAgent.Grid

/-! ### Lists that agree from the decision on -/

def Straddles (decisionTimeMs : Int) (candle : Candle) : Prop :=
  candle.openTimeMs < decisionTimeMs ∧ decisionTimeMs < candle.closeTimeMs

structure AgreesAfter (decisionTimeMs : Int) (first second : Candle) : Prop where
  symbol : second.symbol = first.symbol
  interval : second.interval = first.interval
  openTimeMs : second.openTimeMs = first.openTimeMs
  closeTimeMs : second.closeTimeMs = first.closeTimeMs
  close : second.close = first.close
  volume : second.volume = first.volume
  quoteVolume : second.quoteVolume = first.quoteVolume
  prices : decisionTimeMs ≤ first.openTimeMs → second.openPrice = first.openPrice ∧
    second.high = first.high ∧ second.low = first.low

def ListsAgree (decisionTimeMs : Int) (first second : List Candle) : Prop :=
  List.Forall₂ (AgreesAfter decisionTimeMs)
    (first.filter fun candle => decisionTimeMs < candle.closeTimeMs)
    (second.filter fun candle => decisionTimeMs < candle.closeTimeMs)

theorem AgreesAfter.refl (decisionTimeMs : Int) (candle : Candle) :
    AgreesAfter decisionTimeMs candle candle :=
  ⟨rfl, rfl, rfl, rfl, rfl, rfl, rfl, fun _ => ⟨rfl, rfl, rfl⟩⟩

variable {decisionTimeMs : Int}

theorem AgreesAfter.eq_of_not_before {first second : Candle}
    (agrees : AgreesAfter decisionTimeMs first second) (after : decisionTimeMs ≤ first.openTimeMs) :
    first = second := by
  obtain ⟨openPrice, high, low⟩ := agrees.prices after
  have symbol := agrees.symbol
  have interval := agrees.interval
  have openTimeMs := agrees.openTimeMs
  have closeTimeMs := agrees.closeTimeMs
  have close := agrees.close
  have volume := agrees.volume
  have quoteVolume := agrees.quoteVolume
  cases first
  cases second
  simp only at *
  subst symbol interval openTimeMs closeTimeMs close volume quoteVolume openPrice high low
  rfl

variable {first second : List Candle}

theorem eq_of_listsAgree (agree : List.Forall₂ (AgreesAfter decisionTimeMs) first second)
    (after : ∀ candle ∈ first, decisionTimeMs ≤ candle.openTimeMs) : first = second := by
  induction agree with
  | nil => rfl
  | cons head tail inductionHypothesis =>
    rw [head.eq_of_not_before (after _ List.mem_cons_self),
      inductionHypothesis fun candle member => after candle (List.mem_cons_of_mem _ member)]

theorem validCandles_eq (decisionTimeMs horizonEndMs : Int) (candles : List Candle) :
    validCandles decisionTimeMs horizonEndMs candles =
      ((candles.filter fun candle => decisionTimeMs < candle.closeTimeMs).filter fun candle =>
        candle.openTimeMs < horizonEndMs).insertionSort
          fun first second => first.openTimeMs ≤ second.openTimeMs := by
  unfold validCandles
  rw [List.filter_filter]
  congr 2
  funext candle
  rw [Bool.decide_and, Bool.and_comm]

/-! ### What an evaluation returns -/

/-- The terminal state and the profit and loss of a report. -/
structure EpisodeOutcome where
  terminalTimeMs : Option Int
  terminalReason : Option GridTerminalReason
  eligibilityStatus : GridEligibilityStatus
  pairedCycleCount : ℕ
  pairedGrossPnl : ℚ
  pairedNetPnl : ℚ
  terminalUnpairedGrossPnl : ℚ
  grossPnlBeforeCosts : ℚ
  totalTradingFees : ℚ
  totalSlippageCost : ℚ
  fundingPnl : Option ℚ
  netPnlAfterFeesSlippage : ℚ
  netPnlAfterFunding : Option ℚ
  deriving DecidableEq

def TacticalGridShadowEvaluation.outcome (evaluation : TacticalGridShadowEvaluation) :
    EpisodeOutcome where
  terminalTimeMs := evaluation.terminalTimeMs
  terminalReason := evaluation.terminalReason
  eligibilityStatus := evaluation.eligibilityStatus
  pairedCycleCount := evaluation.pairedCycleCount
  pairedGrossPnl := evaluation.pairedGrossPnl
  pairedNetPnl := evaluation.pairedNetPnl
  terminalUnpairedGrossPnl := evaluation.terminalUnpairedGrossPnl
  grossPnlBeforeCosts := evaluation.grossPnlBeforeCosts
  totalTradingFees := evaluation.totalTradingFees
  totalSlippageCost := evaluation.totalSlippageCost
  fundingPnl := evaluation.fundingPnl
  netPnlAfterFeesSlippage := evaluation.netPnlAfterFeesSlippage
  netPnlAfterFunding := evaluation.netPnlAfterFunding

def candleCrossings (params : SimParams) (lowerBound upperBound : ℚ)
    (funding : List FundingRecord) :
    GridSimulationState → List Candle → List (List JournalEntry)
  | _, [] => []
  | state, candle :: rest =>
    if state.isTerminal then []
    else
      candleJournal params candle (recordBreaches lowerBound upperBound candle state) ::
        candleCrossings params lowerBound upperBound funding
          (processCandle params lowerBound upperBound funding state candle) rest

/-- The crossings of an episode; a plan that is absent, paused or refused crosses nothing. -/
def episodeCrossings (evidence : TacticalFeatureEvidence) (candles1m : List Candle)
    (fundingRecords : List FundingRecord) : List (List JournalEntry) :=
  match activeEpisode evidence with
  | none => []
  | some (params, lower, upper, referencePrice) =>
    candleCrossings params lower upper (sortedFunding fundingRecords)
      (initialState evidence referencePrice)
      (validCandles evidence.decisionTimeMs (evidence.decisionTimeMs + gridHorizonMs) candles1m)

/-- Two candle lists give the same crossings, terminal state and profit and loss. -/
structure SameOutcome (evidence : TacticalFeatureEvidence)
    (fundingRecords : List FundingRecord) (first second : List Candle) : Prop where
  crossings : episodeCrossings evidence first fundingRecords =
    episodeCrossings evidence second fundingRecords
  outcome : (evaluateGridShadowEpisode evidence first fundingRecords).map
      TacticalGridShadowEvaluation.outcome =
    (evaluateGridShadowEpisode evidence second fundingRecords).map
      TacticalGridShadowEvaluation.outcome

/-! ### Without a straddling candle -/

variable {evidence : TacticalFeatureEvidence}

theorem sameOutcome_of_sound (fundingRecords : List FundingRecord)
    (clear : ∀ candle ∈ first, ¬ Straddles evidence.decisionTimeMs candle)
    (agree : ListsAgree evidence.decisionTimeMs first second) :
    SameOutcome evidence fundingRecords first second := by
  have filtered := eq_of_listsAgree agree fun candle member => by
    obtain ⟨inside, closes⟩ := List.mem_filter.mp member
    exact not_lt.mp fun before => clear candle inside ⟨before, of_decide_eq_true closes⟩
  have same : validCandles evidence.decisionTimeMs (evidence.decisionTimeMs + gridHorizonMs)
      first = validCandles evidence.decisionTimeMs (evidence.decisionTimeMs + gridHorizonMs)
        second := by
    rw [validCandles_eq, validCandles_eq, filtered]
  refine ⟨?_, ?_⟩
  · unfold episodeCrossings
    rw [same]
  · unfold evaluateGridShadowEpisode runEpisode
    simp only [same]

theorem sameOutcome_of_inactive (inactive : activeEpisode evidence = none)
    (fundingRecords : List FundingRecord) (first second : List Candle) :
    SameOutcome evidence fundingRecords first second := by
  refine ⟨by unfold episodeCrossings; rw [inactive], ?_⟩
  unfold activeEpisode at inactive
  unfold evaluateGridShadowEpisode
  cases planned : evidence.gridAdvisoryPlan with
  | none => rfl
  | some plan =>
    simp only [planned] at inactive ⊢
    by_cases paused : plan.decision = .pause
    · rw [if_pos paused, if_pos paused]
    · rw [if_neg paused] at inactive ⊢
      cases geometry : episodeParams evidence plan with
      | error message => rw [if_neg paused]; rfl
      | ok bounds => rw [geometry] at inactive; cases inactive

/-! ### With a straddling candle -/

def repriced (candle : Candle) (openPrice high low : ℚ)
    (lowBound : low ≤ min openPrice candle.close)
    (highBound : max openPrice candle.close ≤ high) : Candle :=
  { candle with
    openPrice := openPrice
    high := high
    low := low
    lowBound := lowBound
    highBound := highBound }

theorem repriced_agreesAfter {candle : Candle} (before : candle.openTimeMs < decisionTimeMs)
    (openPrice high low : ℚ) (lowBound : low ≤ min openPrice candle.close)
    (highBound : max openPrice candle.close ≤ high) :
    AgreesAfter decisionTimeMs candle (repriced candle openPrice high low lowBound highBound) :=
  ⟨rfl, rfl, rfl, rfl, rfl, rfl, rfl, fun after => absurd before (not_lt.mpr after)⟩

/-- The minute trades at its close only. -/
def flatCandle (candle : Candle) : Candle :=
  repriced candle candle.close candle.close candle.close (le_min le_rfl le_rfl)
    (max_le le_rfl le_rfl)

section Sweeps

variable (params : SimParams) (candle : Candle)

def sweepLow : ℚ := (candle.close :: params.levels).min (List.cons_ne_nil _ _)

def sweepHigh : ℚ := (candle.close :: params.levels).max (List.cons_ne_nil _ _)

theorem sweepLow_le {price : ℚ} (member : price ∈ candle.close :: params.levels) :
    sweepLow params candle ≤ price := List.min_le_of_mem member

theorem le_sweepHigh {price : ℚ} (member : price ∈ candle.close :: params.levels) :
    price ≤ sweepHigh params candle := List.le_max_of_mem member

/-- The minute falls through every level before it closes. -/
def fallingCandle : Candle :=
  repriced candle (sweepHigh params candle) (sweepHigh params candle) (sweepLow params candle)
    (le_min ((sweepLow_le params candle List.mem_cons_self).trans
      (le_sweepHigh params candle List.mem_cons_self))
      (sweepLow_le params candle List.mem_cons_self))
    (max_le le_rfl (le_sweepHigh params candle List.mem_cons_self))

/-- The minute rises through every level before it closes. -/
def climbingCandle : Candle :=
  repriced candle (sweepLow params candle) (sweepHigh params candle) (sweepLow params candle)
    (le_min le_rfl (sweepLow_le params candle List.mem_cons_self))
    (max_le ((sweepLow_le params candle List.mem_cons_self).trans
      (le_sweepHigh params candle List.mem_cons_self))
      (le_sweepHigh params candle List.mem_cons_self))

end Sweeps

section Journals

variable {params : SimParams} {timestampMs : Int} {state : GridSimulationState}

variable {crossed : ℚ × ℕ}

theorem crossingJournal_ne_nil {actionOf : SimParams → GridSimulationState → ℕ → Option LotAction}
    {crossings : List (ℚ × ℕ)} (member : crossed ∈ crossings)
    (acts : actionOf params state crossed.2 ≠ none) :
    crossingJournal params timestampMs actionOf state crossings ≠ [] := by
  induction crossings with
  | nil => cases member
  | cons first rest inductionHypothesis =>
    unfold crossingJournal crossLevel
    cases taken : actionOf params state first.2 with
    | some action => exact List.cons_ne_nil _ _
    | none =>
      rcases List.mem_cons.mp member with rfl | later
      · exact absurd taken acts
      · exact inductionHypothesis later

variable {p0 p1 : ℚ}

theorem segmentJournal_ne_nil (active : state.isTerminal = false)
    (crosses : crossSegmentJournal params timestampMs p0 p1 p1 state ≠ []) :
    segmentJournal params timestampMs state p0 p1 ≠ [] := by
  unfold segmentJournal
  rw [if_neg (by rw [active]; exact Bool.false_ne_true)]
  cases terminalTrigger params p0 p1 with
  | none => exact crosses
  | some hit => exact List.append_ne_nil_of_right_ne_nil _ (List.cons_ne_nil _ _)

theorem falling_ne_nil (active : state.isTerminal = false) (falls : p1 < p0)
    (member : crossed ∈ params.levels.zipIdx) (above : p1 ≤ crossed.1) (below : crossed.1 ≤ p0)
    (acts : descendingAction params state crossed.2 ≠ none) :
    segmentJournal params timestampMs state p0 p1 ≠ [] := by
  refine segmentJournal_ne_nil active ?_
  unfold crossSegmentJournal
  rw [if_neg (not_lt.mpr falls.le), if_pos falls]
  refine crossingJournal_ne_nil ?_ acts
  exact List.mem_reverse.mpr (List.mem_filter.mpr ⟨member, decide_eq_true ⟨above, below⟩⟩)

theorem climbing_ne_nil (active : state.isTerminal = false) (climbs : p0 < p1)
    (member : crossed ∈ params.levels.zipIdx) (above : p0 ≤ crossed.1) (below : crossed.1 ≤ p1)
    (acts : ascendingAction params state crossed.2 ≠ none) :
    segmentJournal params timestampMs state p0 p1 ≠ [] := by
  refine segmentJournal_ne_nil active ?_
  unfold crossSegmentJournal
  rw [if_pos climbs]
  refine crossingJournal_ne_nil ?_ acts
  exact List.mem_filter.mpr ⟨member, decide_eq_true ⟨above, below⟩⟩

theorem flat_segment (params : SimParams) (timestampMs : Int)
    (active : state.isTerminal = false) (price : ℚ) :
    segmentJournal params timestampMs state price price = [] ∧
      processMonotonicSegment params timestampMs state price price =
        (state.recordMarkSnapshot timestampMs price, false) := by
  have quiet : terminalTrigger params price price = none := by
    refine terminalTrigger_eq_none_iff.mpr fun triggered => ?_
    obtain ⟨target, -, touches⟩ := triggered
    rcases touches with ⟨falls, -⟩ | ⟨climbs, -⟩
    · exact lt_irrefl _ falls
    · exact lt_irrefl _ climbs
  have running : ¬ state.isTerminal = true := by rw [active]; exact Bool.false_ne_true
  unfold segmentJournal processMonotonicSegment
  rw [if_neg running, if_neg running, quiet]
  simp [crossSegmentJournal, crossSegment]

theorem pathJournal_ne_nil (rest : List ℚ)
    (first : segmentJournal params timestampMs state p0 p1 ≠ []) :
    pathJournal params timestampMs state (p0 :: p1 :: rest) ≠ [] := by
  unfold pathJournal
  exact List.append_ne_nil_of_left_ne_nil first _

theorem pathJournal_flat (active : state.isTerminal = false) (price : ℚ) (rest : List ℚ) :
    pathJournal params timestampMs state (price :: price :: rest) =
      pathJournal params timestampMs (state.recordMarkSnapshot timestampMs price)
        (price :: rest) := by
  obtain ⟨silent, marked⟩ := flat_segment params timestampMs active price
  conv_lhs => unfold pathJournal
  rw [silent, marked]
  simp

end Journals

theorem exists_action {params : SimParams} (enough : 3 ≤ params.slotCount)
    (unpaused : params.gridDecision ≠ .pause) :
    (∃ crossed ∈ params.levels.zipIdx, ∀ state : GridSimulationState, state.openLots = [] →
        descendingAction params state crossed.2 ≠ none) ∨
      ∃ crossed ∈ params.levels.zipIdx, ∀ state : GridSimulationState, state.openLots = [] →
        ascendingAction params state crossed.2 ≠ none := by
  have length : 3 < params.levels.length := by unfold SimParams.slotCount at enough; omega
  have level : ∀ index (bound : index < params.levels.length),
      (params.levels.get ⟨index, bound⟩, index) ∈ params.levels.zipIdx := fun index bound =>
    List.mk_mem_zipIdx_iff_getElem?.mpr (List.getElem?_eq_getElem bound)
  have free : ∀ state : GridSimulationState, state.openLots = [] → ∀ slot,
      state.lotAt slot = none := fun state empty slot => by
    simp [GridSimulationState.lotAt, KeyedList.lookup, empty]
  cases decision : params.gridDecision with
  | pause => exact absurd decision unpaused
  | longBias =>
    refine Or.inl ⟨_, level 0 (by omega), fun state empty => ?_⟩
    simp only [descendingAction, decision, free state empty]
    rw [if_pos ⟨by omega, trivial⟩]
    exact Option.some_ne_none _
  | shortBias =>
    refine Or.inr ⟨_, level 1 (by omega), fun state empty => ?_⟩
    simp only [ascendingAction, decision, free state empty]
    rw [if_pos ⟨le_rfl, by omega, trivial⟩]
    exact Option.some_ne_none _
  | neutral =>
    by_cases anchored : params.anchorIndex = 0
    · refine Or.inr ⟨_, level 1 (by omega), fun state empty => ?_⟩
      simp only [ascendingAction, decision, free state empty]
      rw [if_neg (by omega), if_pos trivial]
      exact Option.some_ne_none _
    · refine Or.inl ⟨_, level 0 (by omega), fun state empty => ?_⟩
      simp only [descendingAction, decision, free state empty]
      rw [if_neg (by omega), if_pos trivial]
      exact Option.some_ne_none _

section Candles

variable {params : SimParams} {state : GridSimulationState}

theorem candleJournal_ne_nil {candle : Candle}
    (pathA : pathJournal params candle.closeTimeMs state (pathAPoints candle) ≠ [])
    (pathB : pathJournal params candle.closeTimeMs state (pathBPoints candle) ≠ []) :
    candleJournal params candle state ≠ [] := by
  unfold candleJournal
  dsimp only
  cases (selectConservativeState
    (simulatePath params candle.closeTimeMs state (pathAPoints candle))
    (simulatePath params candle.closeTimeMs state (pathBPoints candle)) candle.close).2.1 with
  | pathA => exact pathA
  | pathB => exact pathB

theorem candleJournal_flat (active : state.isTerminal = false) (candle : Candle) :
    candleJournal params (flatCandle candle) state = [] := by
  have silent : pathJournal params candle.closeTimeMs state
      [candle.close, candle.close, candle.close, candle.close] = [] := by
    rw [pathJournal_flat active, pathJournal_flat (by simpa using active),
      pathJournal_flat (by simpa using active)]
    rfl
  unfold candleJournal
  dsimp only
  cases (selectConservativeState
    (simulatePath params (flatCandle candle).closeTimeMs state (pathAPoints (flatCandle candle)))
    (simulatePath params (flatCandle candle).closeTimeMs state
      (pathBPoints (flatCandle candle))) (flatCandle candle).close).2.1 with
  | pathA => exact silent
  | pathB => exact silent

theorem sweepLow_lt_sweepHigh (laid : params.Laid) (enough : 3 ≤ params.slotCount)
    (candle : Candle) : sweepLow params candle < sweepHigh params candle := by
  have length : 3 < params.levels.length := by unfold SimParams.slotCount at enough; omega
  have first : params.levels[0] ∈ params.levels := List.getElem_mem _
  have second : params.levels[1] ∈ params.levels := List.getElem_mem _
  calc sweepLow params candle
      ≤ params.levels[0] := sweepLow_le params candle (List.mem_cons_of_mem _ first)
    _ < params.levels[1] :=
      List.pairwise_iff_getElem.mp laid.increasing 0 1 _ _ Nat.zero_lt_one
    _ ≤ sweepHigh params candle := le_sweepHigh params candle (List.mem_cons_of_mem _ second)

theorem exists_crossing (laid : params.Laid) (enough : 3 ≤ params.slotCount)
    (unpaused : params.gridDecision ≠ .pause) (candle : Candle) :
    (∀ state : GridSimulationState, state.isTerminal = false → state.openLots = [] →
        candleJournal params (fallingCandle params candle) state ≠ []) ∨
      ∀ state : GridSimulationState, state.isTerminal = false → state.openLots = [] →
        candleJournal params (climbingCandle params candle) state ≠ [] := by
  have wide := sweepLow_lt_sweepHigh laid enough candle
  have inside : ∀ crossed ∈ params.levels.zipIdx, crossed.1 ∈ candle.close :: params.levels :=
    fun crossed member => List.mem_cons_of_mem _ (List.fst_mem_of_mem_zipIdx member)
  rcases exists_action enough unpaused with ⟨crossed, member, acts⟩ | ⟨crossed, member, acts⟩
  · refine Or.inl fun state active empty => candleJournal_ne_nil ?_ ?_
    · show pathJournal params candle.closeTimeMs state [sweepHigh params candle,
        sweepHigh params candle, sweepLow params candle, candle.close] ≠ []
      rw [pathJournal_flat active]
      exact pathJournal_ne_nil _ (falling_ne_nil (by simpa using active) wide member
        (sweepLow_le params candle (inside crossed member))
        (le_sweepHigh params candle (inside crossed member)) (acts _ (by simpa using empty)))
    · exact pathJournal_ne_nil _ (falling_ne_nil active wide member
        (sweepLow_le params candle (inside crossed member))
        (le_sweepHigh params candle (inside crossed member)) (acts _ empty))
  · refine Or.inr fun state active empty => candleJournal_ne_nil ?_ ?_
    · exact pathJournal_ne_nil _ (climbing_ne_nil active wide member
        (sweepLow_le params candle (inside crossed member))
        (le_sweepHigh params candle (inside crossed member)) (acts _ empty))
    · show pathJournal params candle.closeTimeMs state [sweepLow params candle,
        sweepLow params candle, sweepHigh params candle, candle.close] ≠ []
      rw [pathJournal_flat active]
      exact pathJournal_ne_nil _ (climbing_ne_nil (by simpa using active) wide member
        (sweepLow_le params candle (inside crossed member))
        (le_sweepHigh params candle (inside crossed member)) (acts _ (by simpa using empty)))

end Candles

/-! ### Replacing the straddling candle -/

def replaceCandle (old new : Candle) (candles : List Candle) : List Candle :=
  candles.map fun candle => if candle = old then new else candle

section Replacing

variable {old new : Candle} (agrees : AgreesAfter decisionTimeMs old new)

include agrees

theorem replaced_times (candle : Candle) :
    (if candle = old then new else candle).openTimeMs = candle.openTimeMs ∧
      (if candle = old then new else candle).closeTimeMs = candle.closeTimeMs := by
  split_ifs with same
  · rw [same]
    exact ⟨agrees.openTimeMs, agrees.closeTimeMs⟩
  · exact ⟨rfl, rfl⟩

theorem listsAgree_replace (candles : List Candle) :
    ListsAgree decisionTimeMs candles (replaceCandle old new candles) := by
  unfold ListsAgree replaceCandle
  rw [List.filter_map, List.forall₂_map_right_iff]
  have kept : ((fun candle : Candle => decide (decisionTimeMs < candle.closeTimeMs)) ∘
      fun candle => if candle = old then new else candle) =
      fun candle => decide (decisionTimeMs < candle.closeTimeMs) := by
    funext candle
    simp only [Function.comp, (replaced_times agrees candle).2]
  rw [kept, List.forall₂_same]
  intro candle _
  split_ifs with same
  · rw [same]
    exact agrees
  · exact AgreesAfter.refl decisionTimeMs candle

theorem validCandles_replace (horizonEndMs : Int) (candles : List Candle) :
    validCandles decisionTimeMs horizonEndMs (replaceCandle old new candles) =
      replaceCandle old new (validCandles decisionTimeMs horizonEndMs candles) := by
  unfold validCandles replaceCandle
  have kept : ((fun candle : Candle =>
      decide (decisionTimeMs < candle.closeTimeMs ∧ candle.openTimeMs < horizonEndMs)) ∘
      fun candle => if candle = old then new else candle) =
      fun candle => decide (decisionTimeMs < candle.closeTimeMs ∧
        candle.openTimeMs < horizonEndMs) := by
    funext candle
    simp only [Function.comp, (replaced_times agrees candle).1, (replaced_times agrees candle).2]
  rw [List.filter_map, kept]
  refine (List.map_insertionSort _ (fun first second : Candle =>
    first.openTimeMs ≤ second.openTimeMs) _ _ fun first _ second _ => ?_).symm
  rw [(replaced_times agrees first).1, (replaced_times agrees second).1]

end Replacing

theorem head_straddles {candles : List Candle} {candle : Candle} (member : candle ∈ candles)
    (straddles : Straddles decisionTimeMs candle) :
    ∃ head rest, validCandles decisionTimeMs (decisionTimeMs + gridHorizonMs) candles =
      head :: rest ∧ head.openTimeMs < decisionTimeMs := by
  have valid : candle ∈ validCandles decisionTimeMs (decisionTimeMs + gridHorizonMs) candles := by
    unfold validCandles
    rw [List.mem_insertionSort, List.mem_filter]
    refine ⟨member, decide_eq_true ⟨straddles.2, straddles.1.trans ?_⟩⟩
    exact lt_add_of_pos_right _ (by decide)
  have sorted : DueQueue.InOrder Candle.openTimeMs
      (validCandles decisionTimeMs (decisionTimeMs + gridHorizonMs) candles) :=
    DueQueue.sortByDue_inOrder _
  cases order : validCandles decisionTimeMs (decisionTimeMs + gridHorizonMs) candles with
  | nil => rw [order] at valid; cases valid
  | cons head rest =>
    rw [order] at valid sorted
    refine ⟨head, rest, rfl, ?_⟩
    rcases List.mem_cons.mp valid with rfl | later
    · exact straddles.1
    · exact lt_of_le_of_lt (sorted.head_le candle later) straddles.1

/-! ### The decision boundary -/

theorem activeEpisode_eq_some {episode : SimParams × ℚ × ℚ × ℚ}
    (active : activeEpisode evidence = some episode) :
    ∃ plan, episodeParams evidence plan = .ok episode ∧ plan.decision ≠ .pause := by
  unfold activeEpisode at active
  cases planned : evidence.gridAdvisoryPlan with
  | none => rw [planned] at active; cases active
  | some plan =>
    rw [planned] at active
    by_cases paused : plan.decision = .pause
    · simp [paused] at active
    · simp only [paused, if_false] at active
      refine ⟨plan, ?_, paused⟩
      cases geometry : episodeParams evidence plan with
      | error message => rw [geometry] at active; cases active
      | ok built => rw [geometry] at active; exact congrArg Except.ok (Option.some.inj active)

theorem episodeCrossings_head {params : SimParams} {lower upper referencePrice : ℚ}
    (active : activeEpisode evidence = some (params, lower, upper, referencePrice))
    (fundingRecords : List FundingRecord) {candles1m : List Candle} {head : Candle}
    {rest : List Candle}
    (order : validCandles evidence.decisionTimeMs (evidence.decisionTimeMs + gridHorizonMs)
      candles1m = head :: rest) :
    (episodeCrossings evidence candles1m fundingRecords).head? =
      some (candleJournal params head
        (recordBreaches lower upper head (initialState evidence referencePrice))) := by
  unfold episodeCrossings
  rw [active]
  simp only [order]
  unfold candleCrossings
  rw [if_neg (show ¬ (initialState evidence referencePrice).isTerminal = true from
    Bool.false_ne_true)]
  rfl

/-- An episode is evaluated alike on every list that agrees from the decision on exactly when
its plan is not simulated or no candle straddles the decision. -/
theorem decision_boundary_iff (evidence : TacticalFeatureEvidence)
    (fundingRecords : List FundingRecord) (candles1m : List Candle) :
    (∀ others, ListsAgree evidence.decisionTimeMs candles1m others →
        SameOutcome evidence fundingRecords candles1m others) ↔
      activeEpisode evidence = none ∨
        ∀ candle ∈ candles1m, ¬ Straddles evidence.decisionTimeMs candle := by
  refine ⟨fun robust => ?_, fun clear others agree => clear.elim
    (fun inactive => sameOutcome_of_inactive inactive fundingRecords candles1m others)
    (fun unstraddled => sameOutcome_of_sound fundingRecords unstraddled agree)⟩
  cases active : activeEpisode evidence with
  | none => exact Or.inl rfl
  | some episode =>
    obtain ⟨params, lower, upper, referencePrice⟩ := episode
    refine Or.inr fun candle member straddles => ?_
    obtain ⟨head, rest, order, before⟩ := head_straddles member straddles
    obtain ⟨plan, geometry, unpaused⟩ := activeEpisode_eq_some active
    obtain ⟨lowerBound, upperBound, anchorPrice, built, anchored, unit, decision, -⟩ :=
      episodeParams_built geometry
    obtain ⟨-, length, enough⟩ := constructGridLevels_increasing built
    have laid := laid_of_built built anchored unit
    -- Whatever replaces the first candle leaves its crossings as they are.
    have fixed : ∀ new, AgreesAfter evidence.decisionTimeMs head new →
        candleJournal params new (recordBreaches lower upper new
          (initialState evidence referencePrice)) =
        candleJournal params head (recordBreaches lower upper head
          (initialState evidence referencePrice)) := by
      intro new agrees
      have replaced : validCandles evidence.decisionTimeMs
          (evidence.decisionTimeMs + gridHorizonMs) (replaceCandle head new candles1m) =
          new :: replaceCandle head new rest := by
        rw [validCandles_replace agrees, order]
        exact (List.map_cons ..).trans (by rw [if_pos rfl]; rfl)
      have same := congrArg List.head?
        (robust _ (listsAgree_replace agrees candles1m)).crossings
      rw [episodeCrossings_head active fundingRecords order,
        episodeCrossings_head active fundingRecords replaced] at same
      exact (Option.some.inj same).symm
    have start : ∀ new, (recordBreaches lower upper new
        (initialState evidence referencePrice)).isTerminal = false ∧
        (recordBreaches lower upper new (initialState evidence referencePrice)).openLots = [] :=
      fun new => ⟨(recordBreaches_sameBooks lower upper new _).isTerminal,
        (recordBreaches_sameBooks lower upper new _).openLots⟩
    have silent := fixed (flatCandle head) (repriced_agreesAfter before _ _ _ _ _)
    rw [candleJournal_flat (start _).1] at silent
    have slots : 3 ≤ params.slotCount := by
      rw [SimParams.slotCount, length, Nat.add_sub_cancel]
      exact enough
    rcases exists_crossing laid slots (decision ▸ unpaused) head with falling | climbing
    · exact falling _ (start _).1 (start _).2
        ((fixed _ (repriced_agreesAfter before _ _ _ _ _)).trans silent.symm)
    · exact climbing _ (start _).1 (start _).2
        ((fixed _ (repriced_agreesAfter before _ _ _ _ _)).trans silent.symm)

/-- The long-biased grid decided half a minute into a candle. -/
def midMinuteEvidence : TacticalFeatureEvidence :=
  { stoppedEvidence with decisionTimeMs := 30000 }

/-- The minute of the decision touched the stop before the decision and has recovered since. -/
def recoveredCandle : Candle :=
  repriced quietCandle 105 105 75 (by decide +kernel) (by decide +kernel)

/-- The touch of the stop before the decision ends the episode that started after it. -/
theorem recovered_candle_ends_episode :
    ListsAgree midMinuteEvidence.decisionTimeMs [quietCandle] [recoveredCandle] ∧
      ((evaluateGridShadowEpisode midMinuteEvidence [quietCandle] []).map
        TacticalGridShadowEvaluation.outcome).map EpisodeOutcome.terminalReason = .ok none ∧
      ((evaluateGridShadowEpisode midMinuteEvidence [recoveredCandle] []).map
        TacticalGridShadowEvaluation.outcome).map EpisodeOutcome.terminalReason =
        .ok (some .stopLoss) ∧
      ¬ SameOutcome midMinuteEvidence [] [quietCandle] [recoveredCandle] := by
  have agree : AgreesAfter 30000 quietCandle recoveredCandle :=
    repriced_agreesAfter (by decide) _ _ _ _ _
  refine ⟨List.Forall₂.cons agree .nil, by decide +kernel, by decide +kernel, fun same => ?_⟩
  exact absurd same.outcome (by decide +kernel)

end QuantAgent.Grid
