/-
This file follows the funding settlements of a grid shadow episode.

The log of a run lists the settlements the funding loop applies, each with the candle whose
window holds it and the lots held when that candle opens and closes. While the funding
status stays complete, every settlement in the window of an evaluated candle is applied, so a
settlement is applied as often as evaluated candles hold its time: once inside a window, not
at all outside the evaluated candles. A settlement on the end two windows share is held by
both.
-/

import QuantAgent.Grid.Terminal

namespace QuantAgent.Grid

/-! ### The log of a run -/

/-- A settlement as the funding loop applied it. -/
structure FundingApplication where
  record : FundingRecord
  candle : Candle
  heldAtOpen : List OpenLot
  heldAtClose : List OpenLot
  cash : ℚ

/-- What one settlement adds to the log; the guards are those of `settleFunding`. -/
def settleLogEntry (candle : Candle) (lotsChanged : Bool) (heldAtOpen : List OpenLot)
    (state : GridSimulationState) (record : FundingRecord) : List FundingApplication :=
  if inFundingWindow candle record ∧ lotsChanged = false ∧ state.fundingStatus = .complete then
    record.markPrice.toList.map fun mark => {
      record := record
      candle := candle
      heldAtOpen := heldAtOpen
      heldAtClose := state.openLots
      cash := -state.computeSignedInventoryNotional mark * record.fundingRate }
  else []

def settleLog (candle : Candle) (lotsChanged : Bool) (heldAtOpen : List OpenLot) :
    GridSimulationState → List FundingRecord → List FundingApplication
  | _, [] => []
  | state, record :: rest =>
    settleLogEntry candle lotsChanged heldAtOpen state record ++
      settleLog candle lotsChanged heldAtOpen
        (settleFunding candle lotsChanged state record) rest

def candlesLog (params : SimParams) (lowerBound upperBound : ℚ)
    (funding : List FundingRecord) :
    GridSimulationState → List Candle → List FundingApplication
  | _, [] => []
  | state, candle :: rest =>
    if state.isTerminal then []
    else
      let before := recordBreaches lowerBound upperBound candle state
      let chosen := simulateCandle params candle before
      settleLog candle (lotsChanged before chosen) before.openLots chosen funding ++
        candlesLog params lowerBound upperBound funding
          (processCandle params lowerBound upperBound funding state candle) rest

def processedCandles (params : SimParams) (lowerBound upperBound : ℚ)
    (funding : List FundingRecord) : GridSimulationState → List Candle → List Candle
  | _, [] => []
  | state, candle :: rest =>
    if state.isTerminal then []
    else
      candle :: processedCandles params lowerBound upperBound funding
        (processCandle params lowerBound upperBound funding state candle) rest

/-! ### The lots across a candle -/

/-- What crossings do to the lots: either no pair was completed, and then the lots are the
same or more, or the count of pairs grew. -/
def Grown (before after : GridSimulationState) : Prop :=
  before.pairedCycleCount < after.pairedCycleCount ∨
    before.pairedCycleCount = after.pairedCycleCount ∧
      (after.openLots = before.openLots ∨ before.openLots.length < after.openLots.length)

theorem Grown.refl (state : GridSimulationState) : Grown state state :=
  Or.inr ⟨rfl, Or.inl rfl⟩

theorem Grown.trans {first second third : GridSimulationState} (early : Grown first second)
    (late : Grown second third) : Grown first third := by
  rcases early with more | ⟨equal, lots⟩ <;> rcases late with later | ⟨laterEqual, laterLots⟩
  · exact Or.inl (more.trans later)
  · exact Or.inl (laterEqual ▸ more)
  · exact Or.inl (equal ▸ later)
  · refine Or.inr ⟨equal.trans laterEqual, ?_⟩
    rcases lots with same | longer <;> rcases laterLots with laterSame | laterLonger
    · exact Or.inl (laterSame.trans same)
    · exact Or.inr (same ▸ laterLonger)
    · exact Or.inr (laterSame ▸ longer)
    · exact Or.inr (longer.trans laterLonger)

section LotsAcrossCandle

variable (params : SimParams) (timestampMs : Int)

theorem performAction_grown (level : ℚ) (state : GridSimulationState) (action : LotAction) :
    Grown state (performAction params timestampMs level state action) := by
  cases action with
  | openLot slot side =>
    refine Or.inr ⟨rfl, Or.inr ?_⟩
    show state.openLots.length < (state.openLots ++ [_]).length
    simp
  | closeLong lot => exact Or.inl (Nat.lt_succ_self _)
  | closeShort lot => exact Or.inl (Nat.lt_succ_self _)

theorem crossLevels_grown (actionOf : SimParams → GridSimulationState → ℕ → Option LotAction)
    (crossings : List (ℚ × ℕ)) (state : GridSimulationState) :
    Grown state (crossings.foldl (crossLevel params timestampMs actionOf) state) := by
  induction crossings generalizing state with
  | nil => exact Grown.refl state
  | cons crossed rest inductionHypothesis =>
    refine Grown.trans ?_ (inductionHypothesis _)
    unfold crossLevel
    cases actionOf params state crossed.2 with
    | none => exact Grown.refl state
    | some action => exact performAction_grown params timestampMs crossed.1 state action

theorem crossSegment_grown (p0 p1 effectiveP1 : ℚ) (state : GridSimulationState) :
    Grown state (crossSegment params timestampMs p0 p1 effectiveP1 state) := by
  unfold crossSegment
  split_ifs
  · exact crossLevels_grown params timestampMs _ _ state
  · exact crossLevels_grown params timestampMs _ _ state
  · exact Grown.refl state

/-- A path only makes crossings, or closes everything at its end. -/
theorem simulatePath_lots (points : List ℚ) (state : GridSimulationState) :
    Grown state (simulatePath params timestampMs state points) ∨
      (simulatePath params timestampMs state points).openLots = [] ∧
        state.pairedCycleCount ≤
          (simulatePath params timestampMs state points).pairedCycleCount := by
  induction points generalizing state with
  | nil => exact Or.inl (Grown.refl state)
  | cons p0 rest inductionHypothesis =>
    cases rest with
    | nil => exact Or.inl (Grown.refl state)
    | cons p1 rest =>
      unfold simulatePath processMonotonicSegment
      by_cases ended : state.isTerminal
      · simp only [if_pos ended, if_true]
        exact Or.inl (Grown.refl state)
      · simp only [if_neg ended]
        cases terminalTrigger params p0 p1 with
        | none =>
          simp only [Bool.false_eq_true, if_false]
          have crossed := crossSegment_grown params timestampMs p0 p1 p1 state
          have marked : Grown state ((crossSegment params timestampMs p0 p1 p1
              state).recordMarkSnapshot timestampMs p1) := crossed
          rcases inductionHypothesis ((crossSegment params timestampMs p0 p1 p1
              state).recordMarkSnapshot timestampMs p1) with later | ⟨empty, cycles⟩
          · exact Or.inl (marked.trans later)
          · refine Or.inr ⟨empty, le_trans ?_ cycles⟩
            rcases marked with more | ⟨equal, -⟩
            · exact more.le
            · exact equal.le
        | some hit =>
          simp only [if_true]
          refine Or.inr ⟨rfl, ?_⟩
          rcases crossSegment_grown params timestampMs p0 p1 hit.2 state with
            more | ⟨equal, -⟩
          · exact more.le
          · exact equal.le

theorem simulateCandle_lots_of_unchanged (candle : Candle) (state : GridSimulationState)
    (unchanged : lotsChanged state (simulateCandle params candle state) = false) :
    (simulateCandle params candle state).openLots = state.openLots := by
  have lots : Grown state (simulateCandle params candle state) ∨
      (simulateCandle params candle state).openLots = [] ∧
        state.pairedCycleCount ≤ (simulateCandle params candle state).pairedCycleCount := by
    rcases simulateCandle_cases params candle state with keptA | keptB
    · rw [keptA]
      exact simulatePath_lots params candle.closeTimeMs _ state
    · rw [keptB]
      exact simulatePath_lots params candle.closeTimeMs _ state
  rw [lotsChanged, Bool.or_eq_false_iff, decide_eq_false_iff_not, decide_eq_false_iff_not,
    not_not, not_not] at unchanged
  obtain ⟨sameLength, sameCycles⟩ := unchanged
  rcases lots with (more | ⟨-, same | longer⟩) | ⟨empty, -⟩
  · omega
  · exact same
  · omega
  · rw [empty, List.length_nil] at sameLength
    rw [empty, List.length_eq_zero_iff.mp sameLength.symm]

end LotsAcrossCandle

/-! ### Steps that leave the funding alone -/

def fundingOf (state : GridSimulationState) : ℚ × FundingStatus :=
  (state.accruedFundingPnl, state.fundingStatus)

section FundingFrame

variable (params : SimParams)

theorem simulateCandle_fundingOf (candle : Candle) (state : GridSimulationState) :
    fundingOf (simulateCandle params candle state) = fundingOf state :=
  simulateCandle_frame fundingOf params (fun _ _ _ _ => rfl) (fun _ _ _ => rfl)
    (fun _ _ _ _ => rfl) candle state

theorem recordBreaches_fundingOf (lowerBound upperBound : ℚ) (candle : Candle)
    (state : GridSimulationState) :
    fundingOf (recordBreaches lowerBound upperBound candle state) = fundingOf state := by
  unfold recordBreaches
  split_ifs <;> rfl

theorem closeAtHorizon_fundingOf (horizonEndMs : Int) (candles : List Candle)
    (state : GridSimulationState) :
    fundingOf (closeAtHorizon params horizonEndMs candles state) = fundingOf state := by
  unfold closeAtHorizon
  cases candles.getLast? with
  | none => rfl
  | some final => dsimp only; split_ifs <;> rfl

end FundingFrame

/-! ### The funding loop of one candle -/

section Settlements

variable (candle : Candle) (changed : Bool) (heldAtOpen : List OpenLot)

theorem settleFunding_outcome (state : GridSimulationState) (record : FundingRecord) :
    (settleFunding candle changed state record).accruedFundingPnl =
        state.accruedFundingPnl +
          ((settleLogEntry candle changed heldAtOpen state record).map
            FundingApplication.cash).sum ∧
      ((settleFunding candle changed state record).fundingStatus = .complete →
        state.fundingStatus = .complete ∧
        (inFundingWindow candle record →
          changed = false ∧ ∃ mark, record.markPrice = some mark)) := by
  unfold settleFunding settleLogEntry
  by_cases inside : inFundingWindow candle record
  · cases changed with
    | true => simp [inside]
    | false =>
      cases record.markPrice with
      | none => simp [inside]
      | some mark =>
        by_cases complete : state.fundingStatus = .complete
        · simp [inside, complete]
        · simp [inside, complete]
  · simp [inside]

theorem settleFundings_outcome (funding : List FundingRecord) (state : GridSimulationState) :
    (funding.foldl (settleFunding candle changed) state).accruedFundingPnl =
        state.accruedFundingPnl +
          ((settleLog candle changed heldAtOpen state funding).map
            FundingApplication.cash).sum ∧
      ((funding.foldl (settleFunding candle changed) state).fundingStatus = .complete →
        state.fundingStatus = .complete) := by
  induction funding generalizing state with
  | nil => simp [settleLog]
  | cons record rest inductionHypothesis =>
    obtain ⟨total, status⟩ := inductionHypothesis (settleFunding candle changed state record)
    obtain ⟨stepTotal, stepStatus⟩ :=
      settleFunding_outcome candle changed heldAtOpen state record
    rw [List.foldl_cons, total, stepTotal, settleLog, List.map_append, List.sum_append,
      add_assoc]
    exact ⟨rfl, fun complete => (stepStatus (status complete)).1⟩

theorem settleLog_count (funding : List FundingRecord) (state : GridSimulationState)
    (complete : (funding.foldl (settleFunding candle changed) state).fundingStatus = .complete)
    (target : FundingRecord) :
    ((settleLog candle changed heldAtOpen state funding).filter
        fun application => application.record = target).length =
      if inFundingWindow candle target then funding.count target else 0 := by
  induction funding generalizing state with
  | nil => simp [settleLog]
  | cons record rest inductionHypothesis =>
    have later := inductionHypothesis _ complete
    have next := (settleFundings_outcome candle changed heldAtOpen rest
      (settleFunding candle changed state record)).2 complete
    obtain ⟨before, applied⟩ :=
      (settleFunding_outcome candle changed heldAtOpen state record).2 next
    rw [settleLog, List.filter_append, List.length_append, later]
    by_cases inside : inFundingWindow candle record
    · obtain ⟨unchanged, mark, marked⟩ := applied inside
      have entry : settleLogEntry candle changed heldAtOpen state record =
          [⟨record, candle, heldAtOpen, state.openLots,
            -state.computeSignedInventoryNotional mark * record.fundingRate⟩] := by
        rw [settleLogEntry, if_pos ⟨inside, unchanged, before⟩, marked]
        rfl
      rw [entry]
      by_cases same : record = target
      · subst same
        simp [inside, add_comm]
      · simp [same]
    · have entry : settleLogEntry candle changed heldAtOpen state record = [] := by
        rw [settleLogEntry, if_neg fun guard => inside guard.1]
      rw [entry]
      by_cases same : record = target
      · subst same
        simp [inside]
      · simp [same]

theorem settleLog_entries (funding : List FundingRecord) (state : GridSimulationState) :
    ∀ application ∈ settleLog candle changed heldAtOpen state funding,
      application.record ∈ funding ∧ application.candle = candle ∧
        inFundingWindow candle application.record ∧ changed = false ∧
        application.heldAtOpen = heldAtOpen ∧ application.heldAtClose = state.openLots ∧
        ∃ mark, application.record.markPrice = some mark ∧
          application.cash = -(application.heldAtClose.map fun lot =>
            lot.signedNotional mark).sum * application.record.fundingRate := by
  induction funding generalizing state with
  | nil => exact fun _ member => absurd member List.not_mem_nil
  | cons record rest inductionHypothesis =>
    intro application member
    rcases List.mem_append.mp member with here | later
    · unfold settleLogEntry at here
      split_ifs at here with guard
      · obtain ⟨mark, marked, rfl⟩ := List.mem_map.mp here
        exact ⟨List.mem_cons_self, rfl, guard.1, guard.2.1, rfl, rfl, mark,
          Option.mem_toList.mp marked, rfl⟩
      · exact absurd here List.not_mem_nil
    · obtain ⟨inList, sameCandle, inside, unchanged, opened, closed, priced⟩ :=
        inductionHypothesis _ application later
      have books := settleFunding_sameBooks candle changed state record
      exact ⟨List.mem_cons_of_mem _ inList, sameCandle, inside, unchanged, opened,
        closed.trans books.openLots, priced⟩

end Settlements

/-! ### The candle loop -/

section Loop

variable (params : SimParams) (lowerBound upperBound : ℚ) (funding : List FundingRecord)

/-- One iteration of the loop moves the total by its log; the status never returns. -/
theorem processCandle_funding (state : GridSimulationState) (candle : Candle) :
    (processCandle params lowerBound upperBound funding state candle).accruedFundingPnl =
        state.accruedFundingPnl +
          ((settleLog candle
            (lotsChanged (recordBreaches lowerBound upperBound candle state)
              (simulateCandle params candle (recordBreaches lowerBound upperBound candle state)))
            (recordBreaches lowerBound upperBound candle state).openLots
            (simulateCandle params candle (recordBreaches lowerBound upperBound candle state))
            funding).map FundingApplication.cash).sum ∧
      ((processCandle params lowerBound upperBound funding state candle).fundingStatus =
          .complete → state.fundingStatus = .complete) := by
  have kept : fundingOf (simulateCandle params candle
      (recordBreaches lowerBound upperBound candle state)) = fundingOf state :=
    (simulateCandle_fundingOf params candle _).trans
      (recordBreaches_fundingOf lowerBound upperBound candle state)
  obtain ⟨total, status⟩ := settleFundings_outcome candle
    (lotsChanged (recordBreaches lowerBound upperBound candle state)
      (simulateCandle params candle (recordBreaches lowerBound upperBound candle state)))
    (recordBreaches lowerBound upperBound candle state).openLots funding
    (simulateCandle params candle (recordBreaches lowerBound upperBound candle state))
  have keptTotal := congrArg Prod.fst kept
  have keptStatus := congrArg Prod.snd kept
  refine ⟨total.trans ?_, fun complete => keptStatus.symm.trans (status complete)⟩
  exact congrArg (· + _) keptTotal

theorem simulateCandles_funding (candles : List Candle) (state : GridSimulationState) :
    (simulateCandles params lowerBound upperBound funding state candles).accruedFundingPnl =
        state.accruedFundingPnl +
          ((candlesLog params lowerBound upperBound funding state candles).map
            FundingApplication.cash).sum ∧
      ((simulateCandles params lowerBound upperBound funding state candles).fundingStatus =
          .complete → state.fundingStatus = .complete) := by
  induction candles generalizing state with
  | nil => simp [simulateCandles, candlesLog]
  | cons candle rest inductionHypothesis =>
    unfold simulateCandles candlesLog
    by_cases ended : state.isTerminal
    · simp [ended]
    · rw [if_neg ended, if_neg ended]
      obtain ⟨total, status⟩ := inductionHypothesis
        (processCandle params lowerBound upperBound funding state candle)
      obtain ⟨stepTotal, stepStatus⟩ :=
        processCandle_funding params lowerBound upperBound funding state candle
      rw [total, stepTotal, List.map_append, List.sum_append, add_assoc]
      exact ⟨rfl, fun complete => stepStatus (status complete)⟩

theorem candlesLog_count (candles : List Candle) (state : GridSimulationState)
    (complete : (simulateCandles params lowerBound upperBound funding state
      candles).fundingStatus = .complete)
    (target : FundingRecord) (single : funding.count target = 1) :
    ((candlesLog params lowerBound upperBound funding state candles).filter
        fun application => application.record = target).length =
      (Windows.holding Candle.openTimeMs Candle.closeTimeMs
        (processedCandles params lowerBound upperBound funding state candles)
        target.fundingTimeMs).length := by
  induction candles generalizing state with
  | nil => rfl
  | cons candle rest inductionHypothesis =>
    unfold simulateCandles at complete
    unfold candlesLog processedCandles
    by_cases ended : state.isTerminal
    · simp [ended, Windows.holding]
    · rw [if_neg ended] at complete
      rw [if_neg ended, if_neg ended, List.filter_append, List.length_append,
        inductionHypothesis _ complete,
        settleLog_count candle _ _ funding _
          ((simulateCandles_funding params lowerBound upperBound funding rest _).2 complete)
          target, single]
      by_cases inside : inFundingWindow candle target
      · rw [if_pos inside, Windows.holding_cons_of_holds inside, List.length_cons, add_comm]
      · rw [if_neg inside, Windows.holding_cons_of_not inside, zero_add]

theorem processedCandles_initial (candles : List Candle) (state : GridSimulationState) :
    processedCandles params lowerBound upperBound funding state candles <+: candles := by
  induction candles generalizing state with
  | nil => exact List.nil_prefix
  | cons candle rest inductionHypothesis =>
    unfold processedCandles
    by_cases ended : state.isTerminal
    · rw [if_pos ended]
      exact List.nil_prefix
    · rw [if_neg ended]
      exact (List.prefix_cons_inj candle).mpr (inductionHypothesis _)

theorem candlesLog_entries (candles : List Candle) (state : GridSimulationState) :
    ∀ application ∈ candlesLog params lowerBound upperBound funding state candles,
      application.record ∈ funding ∧
        application.candle ∈
          processedCandles params lowerBound upperBound funding state candles ∧
        inFundingWindow application.candle application.record ∧
        application.heldAtClose = application.heldAtOpen ∧
        ∃ mark, application.record.markPrice = some mark ∧
          application.cash = -(application.heldAtClose.map fun lot =>
            lot.signedNotional mark).sum * application.record.fundingRate := by
  induction candles generalizing state with
  | nil => exact fun _ member => absurd member List.not_mem_nil
  | cons candle rest inductionHypothesis =>
    intro application member
    unfold candlesLog at member
    unfold processedCandles
    by_cases ended : state.isTerminal
    · rw [if_pos ended] at member
      exact absurd member List.not_mem_nil
    · rw [if_neg ended] at member ⊢
      rcases List.mem_append.mp member with here | later
      · obtain ⟨inList, same, inside, unchanged, opened, closed, priced⟩ :=
          settleLog_entries candle _ _ funding _ application here
        have lots := simulateCandle_lots_of_unchanged params candle _ unchanged
        refine ⟨inList, same ▸ List.mem_cons_self, same ▸ inside, ?_, priced⟩
        rw [closed, opened, lots]
      · obtain ⟨inList, processed, rest⟩ := inductionHypothesis _ application later
        exact ⟨inList, List.mem_cons_of_mem _ processed, rest⟩

end Loop

/-! ### Settlements of a reported episode -/

def fundingLog (evidence : TacticalFeatureEvidence) (candles1m : List Candle)
    (fundingRecords : List FundingRecord) : List FundingApplication :=
  match activeEpisode evidence with
  | none => []
  | some (params, lower, upper, referencePrice) =>
    candlesLog params lower upper (sortedFunding fundingRecords)
      (initialState evidence referencePrice) (episodeCandles evidence candles1m)

def evaluatedCandles (evidence : TacticalFeatureEvidence) (candles1m : List Candle)
    (fundingRecords : List FundingRecord) : List Candle :=
  match activeEpisode evidence with
  | none => []
  | some (params, lower, upper, referencePrice) =>
    processedCandles params lower upper (sortedFunding fundingRecords)
      (initialState evidence referencePrice) (episodeCandles evidence candles1m)

/-- How the log treats one settlement. -/
def applicationsOf (log : List FundingApplication) (record : FundingRecord) :
    List FundingApplication :=
  log.filter fun application => application.record = record

def InsideUnshared (candles : List Candle) (time : Int) : Prop :=
  ∃ first rest, candles = first :: rest ∧ first.openTimeMs ≤ time ∧
    (∃ last ∈ candles, time ≤ last.closeTimeMs) ∧ ∀ later ∈ rest, later.openTimeMs ≠ time

/-- The time lies before the first open or after the last close. -/
def Outside (candles : List Candle) (time : Int) : Prop :=
  (∀ candle ∈ candles, time < candle.openTimeMs) ∨
    ∀ candle ∈ candles, candle.closeTimeMs < time

/-- Where an episode reports a funding total, the total is the log's; every entry is applied
to lots held at both ends of its candle; and a settlement inside the evaluated candles is
applied once, one outside them never. -/
theorem reported_funding_applied_once {evidence : TacticalFeatureEvidence}
    {candles1m : List Candle} {fundingRecords : List FundingRecord}
    {evaluation : TacticalGridShadowEvaluation}
    (completed : evaluateGridShadowEpisode evidence candles1m fundingRecords =
      .ok evaluation)
    (covered : evaluation.marketPathComplete = some true)
    (distinct : (fundingRecords.map FundingRecord.fundingTimeMs).Nodup)
    {total : ℚ} (reported : evaluation.fundingPnl = some total) :
    total = ((fundingLog evidence candles1m fundingRecords).map FundingApplication.cash).sum ∧
      (∀ application ∈ fundingLog evidence candles1m fundingRecords,
        application.record ∈ fundingRecords ∧
          application.candle ∈ evaluatedCandles evidence candles1m fundingRecords ∧
          inFundingWindow application.candle application.record ∧
          application.heldAtClose = application.heldAtOpen ∧
          ∃ mark, application.record.markPrice = some mark ∧
            application.cash = -(application.heldAtClose.map fun lot =>
              lot.signedNotional mark).sum * application.record.fundingRate) ∧
      ∀ record ∈ fundingRecords,
        (InsideUnshared (evaluatedCandles evidence candles1m fundingRecords)
            record.fundingTimeMs →
          ∃ application, applicationsOf (fundingLog evidence candles1m fundingRecords) record =
            [application]) ∧
        (Outside (evaluatedCandles evidence candles1m fundingRecords) record.fundingTimeMs →
          applicationsOf (fundingLog evidence candles1m fundingRecords) record = []) := by
  obtain ⟨-, rfl⟩ | ⟨plan, params, lower, upper, referencePrice, active, geometry, rfl⟩ :=
    evaluateGridShadowEpisode_cases completed
  · cases reported
  unfold fundingLog evaluatedCandles
  simp only [active]
  have sorted : List.Perm (sortedFunding fundingRecords) fundingRecords :=
    List.perm_insertionSort _ _
  -- The close at the horizon keeps what the loop left.
  have closed := closeAtHorizon_fundingOf params (evidence.decisionTimeMs + gridHorizonMs)
    (episodeCandles evidence candles1m)
    (simulateCandles params lower upper (sortedFunding fundingRecords)
      (initialState evidence referencePrice) (episodeCandles evidence candles1m))
  have closedTotal : (runEpisode evidence params lower upper referencePrice candles1m
      fundingRecords).accruedFundingPnl = _ := congrArg Prod.fst closed
  have closedStatus : (runEpisode evidence params lower upper referencePrice candles1m
      fundingRecords).fundingStatus = _ := congrArg Prod.snd closed
  obtain ⟨complete, accrued⟩ : (runEpisode evidence params lower upper referencePrice candles1m
      fundingRecords).fundingStatus = .complete ∧
      (runEpisode evidence params lower upper referencePrice candles1m
        fundingRecords).accruedFundingPnl = total := by
    rw [reportEpisode, Option.ite_none_right_eq_some] at reported
    exact ⟨reported.1, Option.some.inj reported.2⟩
  have loopComplete := closedStatus.symm.trans complete
  have loopTotal := (simulateCandles_funding params lower upper (sortedFunding fundingRecords)
    (episodeCandles evidence candles1m) (initialState evidence referencePrice)).1
  refine ⟨?_, ?_, ?_⟩
  · rw [← accrued, closedTotal]
    exact loopTotal.trans (zero_add _)
  · intro application member
    obtain ⟨inList, rest⟩ := candlesLog_entries params lower upper
      (sortedFunding fundingRecords) _ _ application member
    exact ⟨sorted.mem_iff.mp inList, rest⟩
  · intro record member
    have single : (sortedFunding fundingRecords).count record = 1 := by
      rw [sorted.count_eq]
      exact List.count_eq_one_of_mem (List.Nodup.of_map _ distinct) member
    have count := candlesLog_count params lower upper (sortedFunding fundingRecords) _ _
      loopComplete record single
    have proper : ∀ candle : Candle, candle.openTimeMs < candle.closeTimeMs :=
      Candle.closeAfterOpen
    have contiguousAll : contiguous (episodeCandles evidence candles1m) = true := by
      have path : marketPathComplete evidence.decisionTimeMs
          (episodeCandles evidence candles1m) = true := Option.some.inj covered
      unfold marketPathComplete at path
      split at path
      · cases path
      · rename_i equal
        rw [equal]
        exact (Bool.and_eq_true_iff.mp path).2
    have chained : Windows.Chained Candle.openTimeMs Candle.closeTimeMs
        (processedCandles params lower upper (sortedFunding fundingRecords)
          (initialState evidence referencePrice) (episodeCandles evidence candles1m)) := by
      obtain ⟨unprocessed, split⟩ := processedCandles_initial params lower upper
        (sortedFunding fundingRecords) (episodeCandles evidence candles1m)
        (initialState evidence referencePrice)
      have whole := contiguous_chained contiguousAll
      rw [← split] at whole
      exact (List.isChain_append.mp whole).1
    refine ⟨fun inside => ?_, fun outside => ?_⟩
    · obtain ⟨first, rest, processed, started, unfinished, unshared⟩ := inside
      rw [processed] at count chained unfinished
      obtain ⟨holder, -, held⟩ := chained.holding_single proper started unfinished unshared
      rw [held] at count
      exact List.length_eq_one_iff.mp count
    · have none : Windows.holding Candle.openTimeMs Candle.closeTimeMs
          (processedCandles params lower upper (sortedFunding fundingRecords)
            (initialState evidence referencePrice) (episodeCandles evidence candles1m))
          record.fundingTimeMs = [] := by
        rcases outside with early | late
        · refine List.filter_eq_nil_iff.mpr fun candle processed => ?_
          rw [decide_eq_true_eq]
          exact fun holds => absurd holds.1 (not_le.mpr (early candle processed))
        · exact Windows.holding_after late
      rw [none] at count
      exact List.length_eq_zero_iff.mp count

/-! ### A settlement on a shared end -/

/-- A candle that keeps the price, so the lot of the quiet candle is held through it. -/
def restingCandle (openTimeMs : Int) : Candle where
  symbol := "BTCUSDT"
  interval := "1m"
  openTimeMs := openTimeMs
  closeTimeMs := openTimeMs + 60000
  openPrice := 95
  high := 95
  low := 95
  close := 95
  volume := 1
  closeAfterOpen := by omega

def restingCandles : List Candle :=
  [quietCandle, restingCandle 60000, restingCandle 120000]

def settlementAt (timeMs : Int) : FundingRecord where
  fundingTimeMs := timeMs
  fundingRate := 1 / 10000
  markPrice := some 95

def restingEvaluation (settlements : List FundingRecord) : TacticalGridShadowEvaluation :=
  match evaluateGridShadowEpisode stoppedEvidence restingCandles settlements with
  | .ok evaluation => evaluation
  | .error _ => buildPauseEvaluation stoppedEvidence

/-- A settlement inside one resting candle is applied once, to the lot opened before. -/
theorem reported_funding_applied_once_resting :
    ∃ application, applicationsOf (fundingLog stoppedEvidence restingCandles
        [settlementAt 90000]) (settlementAt 90000) = [application] := by
  have completed : evaluateGridShadowEpisode stoppedEvidence restingCandles
      [settlementAt 90000] = .ok (restingEvaluation [settlementAt 90000]) := by
    decide +kernel
  have reported : (restingEvaluation [settlementAt 90000]).fundingPnl =
      some (-19 / 600000) := by
    decide +kernel
  have applied := reported_funding_applied_once completed (by decide +kernel)
    (by decide +kernel) reported
  refine (applied.2.2 _ (List.mem_singleton_self _)).1
    ⟨quietCandle, [restingCandle 60000, restingCandle 120000], by decide +kernel, ?_, ?_, ?_⟩ <;>
    decide +kernel

/-- A settlement inside the candle that opens the lot is never applied, by the ambiguity
guard; one on the end two candles share is applied twice. -/
theorem settlement_not_applied_exactly_once :
    (evaluateGridShadowEpisode stoppedEvidence restingCandles [settlementAt 30000] =
        .ok (restingEvaluation [settlementAt 30000]) ∧
      applicationsOf (fundingLog stoppedEvidence restingCandles [settlementAt 30000])
        (settlementAt 30000) = []) ∧
    evaluateGridShadowEpisode stoppedEvidence restingCandles [settlementAt 120000] =
        .ok (restingEvaluation [settlementAt 120000]) ∧
      (applicationsOf (fundingLog stoppedEvidence restingCandles [settlementAt 120000])
        (settlementAt 120000)).length = 2 := by
  refine ⟨⟨?_, ?_⟩, ?_, ?_⟩ <;> decide +kernel

end QuantAgent.Grid
