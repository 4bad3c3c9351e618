/-
This file settles which resolved shadow rows are sealed. A poll that resolves a row as filled or as
not filled builds its evaluation at once, and over all polls the evaluation of a resolved row is
sealed exactly when the recorder kept the entry zone of the risk plan.

An armed row is recorded too, but the first poll excludes it, so it is never filled.
-/

import QuantAgent.MarketWatch.DirectionalPlans
import QuantAgent.MarketWatch.ShadowSealing

namespace QuantAgent.MarketWatch.Shadow

/-! ### Recorded rows -/

/-- The armed row of an assessment. It names no profile, and the store gives it 16 bars. -/
def recordArmed (assessment : Assessment) (id : ℤ) : ShadowRecord :=
  recordedRow assessment id .setupArmed none 16 none

theorem recordArmed_other (assessment : Assessment) (id : ℤ) :
    (recordArmed assessment id).observationType ≠ .actionableTriggered := by
  show ObservationType.setupArmed ≠ .actionableTriggered
  decide

/-- `_record_shadow_observations_if_needed` for a new identity. -/
def recordObservation (assessment : Assessment) (id : ℤ) : Option ShadowRecord :=
  if assessment.lifecycleState = .armed then some (recordArmed assessment id)
  else recordTriggered assessment id

def Assessment.barrierAbove (assessment : Assessment) : ℚ :=
  if assessment.plan.decision = .long then assessment.plan.takeProfit1
  else assessment.plan.stopLoss

/-- The assessment carries the decision and the prices of the plan. -/
structure Assessment.Carries (assessment : Assessment) (plan : AssessedPlan) : Prop where
  decision : assessment.plan.decision = plan.decision
  entryLow : assessment.plan.entryLow = plan.prices.entryLow
  entryHigh : assessment.plan.entryHigh = plan.prices.entryHigh
  stopLoss : assessment.plan.stopLoss = plan.prices.stopLoss
  takeProfit1 : assessment.plan.takeProfit1 = plan.prices.takeProfit1

/-- Every plan that the playbooks build puts the barrier above the lower bound of its zone. -/
theorem Assessment.barrier_of_assessed {assessment : Assessment} {plan : AssessedPlan}
    {config : PolicyConfig} {snapshot : MarketSnapshot} {memory : PlaybookMemory}
    {btcSnapshot ethSnapshot : Option MarketSnapshot} {relativePerf : Option RelativePerformance}
    {direction : Direction} (carries : assessment.Carries plan)
    (closes : snapshot.tf15m.close = snapshot.tf15m.latestClosedBar.close)
    (assessed : assessSymbol config snapshot memory btcSnapshot ethSnapshot relativePerf =
      .ok plan) (final : plan.decision = .of direction) :
    min assessment.plan.entryLow assessment.plan.entryHigh ≤ assessment.barrierAbove := by
  unfold Assessment.barrierAbove
  rw [carries.decision, carries.entryLow, carries.entryHigh, carries.stopLoss,
    carries.takeProfit1]
  exact AssessedPlan.zoneLow_le_barrier closes assessed final

def smallestPrice : ℚ := 1 / 10 ^ 8

section Zone

variable {assessment : Assessment}

theorem not_samePrice {recorded planned : ℚ} (priced : 1 / 10 ^ 12 < recorded)
    (absent : planned ≤ 0) : ¬ SamePrice recorded planned := by
  have positive : 0 < recorded := lt_trans (by norm_num) priced
  unfold SamePrice IsClose
  rw [abs_of_pos (sub_pos.mpr (absent.trans_lt positive)), abs_of_pos positive,
    abs_of_nonpos absent, not_le, max_lt_iff]
  constructor
  · have bound : max recorded (-planned) ≤ recorded - planned :=
      max_le (by linarith) (by linarith)
    linarith
  · linarith

/-- A price that agrees with one of the exchange is above the tolerance too. -/
theorem SamePrice.above {recorded planned : ℚ} (same : SamePrice recorded planned)
    (priced : smallestPrice ≤ recorded) (below : planned < recorded) (positive : 0 < planned) :
    1 / 10 ^ 12 < planned := by
  unfold SamePrice IsClose at same
  unfold smallestPrice at priced
  rw [abs_of_pos (sub_pos.mpr below), abs_of_pos (positive.trans below), abs_of_pos positive,
    max_eq_left below.le] at same
  rcases le_max_iff.mp same with relative | absolute <;> linarith

theorem Assessment.ZoneKept.bounds_pos (kept : assessment.ZoneKept)
    (priced : smallestPrice ≤ assessment.lastPrice) :
    0 < assessment.plan.entryLow ∧ 0 < assessment.plan.entryHigh := by
  have above : 1 / 10 ^ 12 < assessment.lastPrice :=
    lt_of_lt_of_le (by unfold smallestPrice; norm_num) priced
  obtain ⟨low, high⟩ := kept
  unfold Assessment.entryZone at low high
  dsimp only at low high
  by_cases lowPositive : 0 < assessment.plan.entryLow <;>
    by_cases highPositive : 0 < assessment.plan.entryHigh
  · exact ⟨lowPositive, highPositive⟩
  · rw [if_pos lowPositive, if_neg highPositive] at low high
    refine absurd high (not_samePrice ?_ (not_lt.mp highPositive))
    split_ifs with swapped
    · exact above.trans swapped
    · exact above
  · rw [if_neg lowPositive, if_pos highPositive] at low high
    split_ifs at low high with swapped
    · exact absurd low (not_samePrice (high.above priced swapped highPositive)
        (not_lt.mp lowPositive))
    · exact absurd low (not_samePrice above (not_lt.mp lowPositive))
  · rw [if_neg lowPositive, if_neg highPositive, if_neg (lt_irrefl _)] at low
    exact absurd low (not_samePrice above (not_lt.mp lowPositive))

theorem Records.barriersPositive {row : ShadowRecord}
    (records : Records assessment row.toShadowObservation) (kept : assessment.ZoneKept)
    (priced : smallestPrice ≤ assessment.lastPrice)
    (barrier : min assessment.plan.entryLow assessment.plan.entryHigh ≤ assessment.barrierAbove)
    (price : ℚ) : (row.position price).BarriersPositive := by
  obtain ⟨low, high⟩ := kept.bounds_pos priced
  have positive : 0 < assessment.barrierAbove := (lt_min low high).trans_le barrier
  unfold Assessment.barrierAbove at positive
  constructor
  · intro long
    have decision : assessment.plan.decision = .long := records.direction.symm.trans long
    rw [if_pos decision] at positive
    exact positive.trans_eq records.tp1.symm
  · intro short
    have decision : assessment.plan.decision ≠ .long := fun long =>
      short (records.direction.trans long)
    rw [if_neg decision] at positive
    exact positive.trans_eq records.stopLoss.symm

end Zone

/-! ### What a poll leaves alone -/

section Frames

variable (row : ShadowRecord) (poll : Poll)

/-- The columns that are written once stay as they are. -/
theorem resolveFilled_frame (raw : List Candle) (stage : FillStage) :
    (resolveFilled row poll raw stage).row.toShadowObservation = row.toShadowObservation := by
  unfold resolveFilled
  dsimp only
  split
  · rfl
  · split_ifs
    · rfl
    all_goals split <;> rfl

theorem resolvePending_frame :
    (resolvePending row poll).row.toShadowObservation = row.toShadowObservation := by
  unfold resolvePending
  split_ifs
  · rfl
  · rfl
  · unfold resolveWaiting
    dsimp only
    split
    · rfl
    · exact resolveFilled_frame _ _ _ _
    · split_ifs <;> rfl
  · exact resolveFilled_frame _ _ _ _

theorem resolvePending_armed (armed : row.observationType ≠ .actionableTriggered) :
    (resolvePending row poll).row.fillStatus ∈ [row.fillStatus, .legacy] := by
  unfold resolvePending
  rw [if_pos (Or.inr (Or.inl armed))]
  split_ifs
  · exact List.mem_cons_of_mem _ List.mem_cons_self
  · exact List.mem_cons_self

end Frames

/-! ### Evaluations -/

section Evaluations

variable (computeEvaluationId : ShadowEvaluation → String)
  {evidence : String → Option FeatureEvidence} {assessment : Assessment} {row : ShadowRecord}

theorem materialize_eq (records : Records assessment row.toShadowObservation)
    (linked : evidence assessment.featureEvidenceId = some assessment.featureEvidence)
    (feed : MarketFeed) (candles15m : List Candle) :
    ∃ fundingRecords fundingFetchError,
      materialize computeEvaluationId evidence feed row candles15m =
        some (buildTacticalShadowEvaluation row assessment.featureEvidence computeEvaluationId
          candles15m fundingRecords fundingFetchError) := by
  have eligible : ¬ (row.featureEvidenceId.getD "" = "" ∨
      row.observationType ≠ .actionableTriggered ∨
      row.evaluationProfileVersion ≠ some directionalOutcomeProfileVersion) := by
    rw [records.evidence]
    rintro (blank | other | version)
    · exact assessment.evidence_given blank
    · exact other records.actionable
    · exact version records.profileVersion
  have found : row.featureEvidenceId.bind evidence = some assessment.featureEvidence := by
    rw [records.evidence]
    exact linked
  unfold materialize
  rw [if_neg eligible, found]
  exact ⟨_, _, rfl⟩

variable {fundingRecords : Option (List FundingRow)}

theorem zoneKept_of_build (records : Records assessment row.toShadowObservation)
    {candles15m : List Candle}
    {fundingFetchError : Bool} {sealing : SealedEvaluation}
    (built : buildTacticalShadowEvaluation row assessment.featureEvidence computeEvaluationId
      candles15m fundingRecords fundingFetchError = .ok sealing) : assessment.ZoneKept := by
  rw [build_eq computeEvaluationId candles15m fundingRecords fundingFetchError records] at built
  cases checked : validateAttributionCrosscheck assessment.featureEvidence row with
  | ok passed => exact (crosscheck_iff records).mp checked
  | error fault =>
    rw [checked] at built
    cases built

theorem build_of_zoneKept (records : Records assessment row.toShadowObservation)
    (kept : assessment.ZoneKept) {candles15m : List Candle} {fundingFetchError : Bool}
    (terminal : Check.run (terminalChecks (builtContent assessment row candles15m fundingRecords
      fundingFetchError)) = .ok ()) :
    ∃ sealing, buildTacticalShadowEvaluation row assessment.featureEvidence computeEvaluationId
      candles15m fundingRecords fundingFetchError = .ok sealing := by
  have valid : validateTacticalShadowEvaluation computeEvaluationId
      ⟨computeEvaluationId (builtContent assessment row candles15m fundingRecords
        fundingFetchError), builtContent assessment row candles15m fundingRecords
        fundingFetchError⟩ = .ok () := by
    unfold validateTacticalShadowEvaluation
    dsimp only
    rw [Check.run_append_eq_ok_iff, Check.run_append_eq_ok_iff, Check.run_append_eq_ok_iff]
    exact ⟨⟨⟨versionChecks_built candles15m fundingRecords fundingFetchError records, terminal⟩,
      checkpointChecks_built candles15m fundingRecords fundingFetchError⟩,
      (Check.run_require_eq_ok_iff _ _ _).mpr ⟨rfl, rfl⟩⟩
  rw [build_eq computeEvaluationId candles15m fundingRecords fundingFetchError records,
    (crosscheck_iff records).mpr kept]
  dsimp only
  exact ⟨_, congrArg (fun checked => checked >>= fun _ => Except.ok _) valid⟩

theorem RowState.terminalChecks {slackMs : ℤ} (state : RowState slackMs row)
    (records : Records assessment row.toShadowObservation)
    (barriers : ∀ price, (row.position price).BarriersPositive) (resolved : row.resolved = true)
    (candles15m : List Candle) (fundingRecords : Option (List FundingRow))
    (fundingFetchError : Bool) :
    Check.run (Shadow.terminalChecks (builtContent assessment row candles15m fundingRecords
      fundingFetchError)) = .ok () := by
  cases state with
  | waiting waits => exact absurd (waits.unresolved.symm.trans resolved) nofun
  | holding fill valid holds pending =>
    exact absurd (pending.unresolved.symm.trans resolved) nofun
  | notFilled closed =>
    exact terminalChecks_notFilled candles15m fundingRecords fundingFetchError closed
  | ended fill valid holds exit =>
    obtain ⟨closing, closes, reason⟩ : ∃ closing, HoldsExit row fill closing ∧
        ExitReason row (fill.timeMs + row.evalHorizonMs) closing := by
      rcases exit with ⟨candle, exited⟩ | timedOut
      · exact exited.exit_of barriers
      · exact timedOut.exit_of records.evalHorizonMs_nonneg
    exact terminalChecks_closed candles15m fundingRecords fundingFetchError records holds valid
      closes reason

end Evaluations

/-! ### Runs -/

section Run

variable (computeEvaluationId : ShadowEvaluation → String)
  (evidence : String → Option FeatureEvidence) {assessment : Assessment} {start : ShadowRecord}

/-- A row of the run keeps its first columns, and its evaluation, if there is one, was made of a row
with these columns. -/
structure ShadowCase.Follows (start : ShadowRecord) (case : ShadowCase) : Prop where
  frame : case.row.toShadowObservation = start.toShadowObservation
  sealing : ∀ result ∈ case.sealing, ∃ feed row candles15m,
    row.toShadowObservation = start.toShadowObservation ∧
      materialize computeEvaluationId evidence feed row candles15m = some result

variable {computeEvaluationId evidence} in
theorem ShadowCase.Follows.poll {case : ShadowCase}
    (follows : case.Follows computeEvaluationId evidence start) (poll : Poll) :
    (case.poll computeEvaluationId evidence poll).Follows computeEvaluationId evidence start := by
  have frame := (resolvePending_frame case.row poll).trans follows.frame
  unfold ShadowCase.poll
  split_ifs
  · exact follows
  · dsimp only
    split
    · exact ⟨frame, follows.sealing⟩
    · exact ⟨frame, fun result made => ⟨poll.feed, _, _, frame, made⟩⟩

theorem runPolls_follows (polls : List Poll) :
    (runPolls computeEvaluationId evidence start polls).Follows computeEvaluationId evidence
      start := by
  have each : Runs.Each (ShadowCase.poll computeEvaluationId evidence) (fun _ _ => True)
      { row := start } polls := Runs.each_of_forall_mem fun _ _ _ => trivial
  have throughout : Runs.Throughout (ShadowCase.poll computeEvaluationId evidence)
      (ShadowCase.Follows computeEvaluationId evidence start) { row := start } polls :=
    Runs.throughout_of_each (fun _ poll follows _ => follows.poll poll)
      ⟨rfl, fun _ made => absurd made (Option.not_mem_none _)⟩ each
  exact throughout.last

structure ShadowCase.Sound (slackMs : ℤ) (start : ShadowRecord) (case : ShadowCase) : Prop where
  frame : case.row.toShadowObservation = start.toShadowObservation
  state : RowState slackMs case.row
  sealing : case.row.resolved = true → ∃ feed candles15m,
    case.sealing = materialize computeEvaluationId evidence feed case.row candles15m

variable {slackMs : ℤ}

/-- The barriers of a row are among the columns that are written once. -/
theorem position_of_frame {row other : ShadowRecord}
    (frame : row.toShadowObservation = other.toShadowObservation) (price : ℚ) :
    row.position price = other.position price := by
  unfold ShadowRecord.position
  rw [frame]

variable {computeEvaluationId evidence} in
theorem ShadowCase.Sound.poll {case : ShadowCase}
    (sound : case.Sound computeEvaluationId evidence slackMs start) (slack : 0 ≤ slackMs)
    (records : Records assessment start.toShadowObservation)
    (barriers : ∀ price, (start.position price).BarriersPositive) {poll : Poll}
    (documented : poll.feed.Documented slackMs) :
    (case.poll computeEvaluationId evidence poll).Sound computeEvaluationId evidence slackMs
      start := by
  unfold ShadowCase.poll
  split_ifs with resolved
  · exact sound
  · have recorded : Records assessment case.row.toShadowObservation := sound.frame ▸ records
    have reachable : ∀ price, (case.row.position price).BarriersPositive := fun price =>
      position_of_frame sound.frame price ▸ barriers price
    have keeps := resolvePending_keeps documented slack recorded reachable sound.state
      (Bool.eq_false_iff.mpr resolved)
    have evaluates := keeps.evaluates
    dsimp only
    split
    · rename_i none
      rw [none] at evaluates
      exact ⟨keeps.frame.trans sound.frame, keeps.state, fun closed =>
        absurd (evaluates.trans closed) nofun⟩
    · exact ⟨keeps.frame.trans sound.frame, keeps.state, fun _ => ⟨_, _, rfl⟩⟩

theorem runPolls_sound {polls : List Poll} (slack : 0 ≤ slackMs)
    (records : Records assessment start.toShadowObservation) (waits : Waiting start)
    (barriers : ∀ price, (start.position price).BarriersPositive)
    (documented : ∀ poll ∈ polls, poll.feed.Documented slackMs) :
    (runPolls computeEvaluationId evidence start polls).Sound computeEvaluationId evidence slackMs
      start := by
  have each : Runs.Each (ShadowCase.poll computeEvaluationId evidence)
      (fun _ poll => poll.feed.Documented slackMs) { row := start } polls :=
    Runs.each_of_forall_mem fun poll member _ => documented poll member
  have throughout : Runs.Throughout (ShadowCase.poll computeEvaluationId evidence)
      (ShadowCase.Sound computeEvaluationId evidence slackMs start) { row := start } polls :=
    Runs.throughout_of_each (fun _ _ sound answers => sound.poll slack records barriers answers)
      ⟨rfl, .waiting waits, fun closed => absurd (waits.unresolved.symm.trans closed) nofun⟩ each
  exact throughout.last

theorem runPolls_armed (armed : start.observationType ≠ .actionableTriggered)
    (waits : start.fillStatus = .waitingForFill) (polls : List Poll) :
    (runPolls computeEvaluationId evidence start polls).row.fillStatus ∈
      [.waitingForFill, .legacy] := by
  have throughout : Runs.Throughout (ShadowCase.poll computeEvaluationId evidence)
      (fun case => case.row.toShadowObservation = start.toShadowObservation ∧
        case.row.fillStatus ∈ [.waitingForFill, .legacy]) { row := start } polls := by
    have each : Runs.Each (ShadowCase.poll computeEvaluationId evidence) (fun _ _ => True)
        { row := start } polls := Runs.each_of_forall_mem fun _ _ _ => trivial
    refine Runs.throughout_of_each ?_ ⟨rfl, List.mem_cons.mpr (Or.inl waits)⟩ each
    rintro case poll ⟨frame, status⟩ -
    have other : case.row.observationType ≠ .actionableTriggered := by
      rw [frame]
      exact armed
    have polled : (case.poll computeEvaluationId evidence poll).row = case.row ∨
        (case.poll computeEvaluationId evidence poll).row = (resolvePending case.row poll).row := by
      unfold ShadowCase.poll
      split_ifs
      · exact Or.inl rfl
      · dsimp only
        split <;> exact Or.inr rfl
    rcases polled with same | resolution
    · rw [same]
      exact ⟨frame, status⟩
    · rw [resolution]
      refine ⟨(resolvePending_frame _ _).trans frame, ?_⟩
      have excluded := resolvePending_armed case.row poll other
      rcases List.mem_pair.mp excluded with kept | legacy
      · rw [kept]
        exact status
      · rw [legacy]
        decide
  exact throughout.last.2

theorem recordTriggered_waiting {id : ℤ} (recorded : recordTriggered assessment id = some start) :
    Waiting start := by
  unfold recordTriggered at recorded
  dsimp only at recorded
  split_ifs at recorded
  obtain rfl := Option.some.inj recorded
  exact ⟨⟨rfl, rfl, (Option.some_ne_none _).symm⟩, rfl, rfl, rfl, rfl, rfl⟩

/-- A row that was resolved as filled or as not filled is sealed exactly when the recorder kept the
entry zone of its risk plan. -/
theorem resolved_sealed_iff {id : ℤ} {polls : List Poll}
    (recorded : recordObservation assessment id = some start)
    (priced : smallestPrice ≤ assessment.lastPrice)
    (barrier : min assessment.plan.entryLow assessment.plan.entryHigh ≤ assessment.barrierAbove)
    (linked : evidence assessment.featureEvidenceId = some assessment.featureEvidence)
    (slack : 0 ≤ slackMs) (documented : ∀ poll ∈ polls, poll.feed.Documented slackMs)
    (resolved : (runPolls computeEvaluationId evidence start polls).row.resolved = true)
    (status : (runPolls computeEvaluationId evidence start polls).row.fillStatus ∈
      [.filled, .noFill]) :
    (∃ sealing, (runPolls computeEvaluationId evidence start polls).sealing = some (.ok sealing)) ↔
      assessment.ZoneKept := by
  have positive : 0 < assessment.lastPrice :=
    lt_of_lt_of_le (by unfold smallestPrice; norm_num) priced
  unfold recordObservation at recorded
  split_ifs at recorded with armed
  · obtain rfl := Option.some.inj recorded
    have unfilled := runPolls_armed computeEvaluationId evidence
      (recordArmed_other assessment id) rfl polls
    rcases List.mem_pair.mp unfilled with waits | legacy
    · rw [waits] at status
      exact absurd status (by decide)
    · rw [legacy] at status
      exact absurd status (by decide)
  · have records := recordTriggered_records positive recorded
    constructor
    · rintro ⟨sealing, made⟩
      obtain ⟨feed, row, candles15m, frame, materialized⟩ :=
        (runPolls_follows computeEvaluationId evidence polls).sealing _ made
      have recordedRow : Records assessment row.toShadowObservation := frame ▸ records
      obtain ⟨fundingRecords, fundingFetchError, built⟩ :=
        materialize_eq computeEvaluationId recordedRow linked feed
          candles15m
      exact zoneKept_of_build computeEvaluationId recordedRow
        (Option.some.inj (built.symm.trans materialized))
    · intro kept
      have barriers := records.barriersPositive kept priced barrier
      have sound := runPolls_sound computeEvaluationId evidence slack records
        (recordTriggered_waiting recorded) barriers documented
      obtain ⟨feed, candles15m, made⟩ := sound.sealing resolved
      have recordedRow := sound.frame ▸ records
      obtain ⟨fundingRecords, fundingFetchError, built⟩ :=
        materialize_eq computeEvaluationId recordedRow linked feed
          candles15m
      have reachable : ∀ price, ((runPolls computeEvaluationId evidence start
          polls).row.position price).BarriersPositive := fun price =>
        position_of_frame sound.frame price ▸ barriers price
      obtain ⟨sealing, done⟩ := build_of_zoneKept computeEvaluationId
        recordedRow kept (sound.state.terminalChecks recordedRow reachable resolved candles15m
          fundingRecords fundingFetchError)
      exact ⟨sealing, (made.trans built).trans (congrArg some done)⟩

end Run

/-! ### Two entry windows -/

/-- A breakout of the volatility with the bounds of its entry zone. -/
def expansion (entryLow entryHigh : ℚ) : Assessment where
  symbol := "BTCUSDT"
  decisionTimeMs := 1800000
  snapshotHash := "snapshot"
  policyVersion := "policy"
  configHash := "config"
  lastPrice := 100
  plan := {
    decision := .long
    setup := .volatilityExpansion
    entryQuality := .good
    entryLow := entryLow
    entryHigh := entryHigh
    stopLoss := 97
    takeProfit1 := 105 }
  takeProfit2 := 108
  lifecycleState := .triggered
  signalIdentity := ⟨⟨"BTCUSDT", .volatilityExpansion, some .long, "100.000"⟩, 1800000⟩
  setupKey := ⟨"BTCUSDT", .volatilityExpansion, some .long, "100.000"⟩
  selectedPlaybook := some .volatilityExpansion
  featureEvidenceId := "evidence"
  entryWindowBars := 4
  decision_selected := fun _ => Option.some_ne_none _

/-- A bar with that low. -/
def windowBar (openTimeMs : ℤ) (low : ℚ) : Candle where
  symbol := "BTCUSDT"
  interval := "15m"
  openTimeMs := openTimeMs
  closeTimeMs := openTimeMs + 899999
  openPrice := low + 1
  high := low + 3
  low := low
  close := low + 1
  volume := 1
  closeAfterOpen := lt_add_of_pos_right openTimeMs (by decide)
  lowBound := by simp
  highBound := by simp

/-- A poll at the end of the window, with the lows of its bars. -/
def windowPoll (first later : ℚ) : Poll where
  feed := ⟨[windowBar 1800000 first, windowBar 2700000 later, windowBar 3600000 later,
    windowBar 4500000 later], fun _ _ _ => [], fun _ _ => none⟩
  currentTimeMs := 5400000
  config := none

theorem windowPoll_documented {first later : ℚ} (positive : 0 < first) (priced : 0 < later) :
    ∀ poll ∈ [windowPoll first later], poll.feed.Documented 1 := by
  have listed {low : ℚ} (positive : 0 < low) (openTimeMs : ℤ) (opens : quarterMs ∣ openTimeMs) :
      Listed 1 quarterMs (windowBar openTimeMs low) :=
    ⟨opens, by unfold windowBar quarterMs; dsimp only; omega, positive⟩
  intro poll member
  obtain rfl := List.mem_singleton.mp member
  refine ⟨?_, fun _ _ _ row => absurd row List.not_mem_nil,
    fun _ _ _ row => absurd row List.not_mem_nil⟩
  intro candle inside
  unfold windowPoll at inside
  simp only [List.mem_cons, List.not_mem_nil, or_false] at inside
  rcases inside with rfl | rfl | rfl | rfl
  · exact listed positive _ (by decide)
  all_goals exact listed priced _ (by decide)

def windowRun (first later : ℚ) (assessment : Assessment) (row : ShadowRecord) : ShadowCase :=
  runPolls (fun _ => "evaluation") (fun _ => some assessment.featureEvidence) row
    [windowPoll first later]

/-- A zone in order is recorded as it is; the price comes down to it and then up to the first
target, and the row, which was filled, is sealed. -/
theorem ordered_zone_sealed : ∃ row, recordObservation (expansion 100 101) 1 = some row ∧
    (windowRun 100 103 (expansion 100 101) row).row.fillStatus = .filled ∧
    ∃ sealing, (windowRun 100 103 (expansion 100 101) row).sealing = some (.ok sealing) := by
  obtain ⟨row, recorded⟩ : ∃ row, recordObservation (expansion 100 101) 1 = some row := ⟨_, rfl⟩
  have closed : (recordObservation (expansion 100 101) 1).map (fun row =>
      ((windowRun 100 103 (expansion 100 101) row).row.resolved,
        (windowRun 100 103 (expansion 100 101) row).row.fillStatus)) = some (true, .filled) := by
    decide +kernel
  rw [recorded] at closed
  obtain ⟨resolved, status⟩ := Prod.mk.inj (Option.some.inj closed)
  have kept : (expansion 100 101).ZoneKept :=
    Assessment.zoneKept_of_ordered (by decide +kernel) (by decide +kernel)
  exact ⟨row, recorded, status, (resolved_sealed_iff _ _ recorded (by decide +kernel)
    (by decide +kernel) rfl (by decide) (windowPoll_documented (by decide) (by decide)) resolved
    (List.mem_pair.mpr (Or.inl status))).mpr kept⟩

/-- A zone that the recorder puts in order leaves the resolved row unsealed. -/
theorem swapped_zone_unsealed : ∃ row, recordObservation (expansion 101 100) 1 = some row ∧
    (∀ poll ∈ [windowPoll 109 109], poll.feed.Documented 1) ∧
    (windowRun 109 109 (expansion 101 100) row).row.resolved = true ∧
    (windowRun 109 109 (expansion 101 100) row).row.fillStatus = .noFill ∧
    ∀ sealing, (windowRun 109 109 (expansion 101 100) row).sealing ≠ some (.ok sealing) := by
  obtain ⟨row, recorded⟩ : ∃ row, recordObservation (expansion 101 100) 1 = some row := ⟨_, rfl⟩
  have closed : (recordObservation (expansion 101 100) 1).map (fun row =>
      ((windowRun 109 109 (expansion 101 100) row).row.resolved,
        (windowRun 109 109 (expansion 101 100) row).row.fillStatus,
        (windowRun 109 109 (expansion 101 100) row).sealing.map fun result =>
          result.toOption.isSome)) = some (true, .noFill, some false) := by
    decide +kernel
  rw [recorded] at closed
  have outcome := Option.some.inj closed
  rw [Prod.mk.injEq, Prod.mk.injEq] at outcome
  obtain ⟨resolved, status, unsealed⟩ := outcome
  refine ⟨row, recorded, windowPoll_documented (by decide) (by decide), resolved, status,
    fun sealing sealed => ?_⟩
  rw [sealed] at unsealed
  exact Bool.false_ne_true (Option.some.inj unsealed).symm

end QuantAgent.MarketWatch.Shadow
