/-
This file follows a recorded shadow row from poll to poll. A row waits for its fill, holds a fill,
or is resolved: not filled, ended in a candle that reaches a barrier, or timed out at its horizon.

What the validators demand of a resolved row is collected in these states.
-/

import QuantAgent.MarketWatch.ShadowFills

namespace QuantAgent.MarketWatch.Shadow

/-! ### The states of a row -/

/-- A row that a poll may still resolve. -/
structure Pending (row : ShadowRecord) : Prop where
  unresolved : row.resolved = false
  reason : row.terminalReason = none
  regime : row.regimeAfter ≠ some .legacyIneligible

structure Waiting (row : ShadowRecord) : Prop extends Pending row where
  status : row.fillStatus = .waitingForFill
  time : row.fillTimeMs = none
  price : row.fillPrice = none
  intervalStart : row.fillIntervalStartMs = none
  intervalEnd : row.fillIntervalEndMs = none

/-- The columns of a fill, with the horizon that it froze. -/
structure HoldsFill (row : ShadowRecord) (fill : Fill) : Prop where
  status : row.fillStatus = .filled
  time : row.fillTimeMs = some fill.timeMs
  price : row.fillPrice = some fill.price
  evaluationStart : row.evaluationStartMs = some fill.timeMs
  evaluationEnd : row.evaluationEndMs = some (fill.timeMs + row.evalHorizonMs)
  intervalStart : row.fillIntervalStartMs = some fill.startMs
  intervalEnd : row.fillIntervalEndMs = some fill.timeMs

structure NotFilled (row : ShadowRecord) : Prop where
  resolved : row.resolved = true
  status : row.fillStatus = .noFill
  time : row.fillTimeMs = none
  price : row.fillPrice = none
  intervalStart : row.fillIntervalStartMs = none
  intervalEnd : row.fillIntervalEndMs = none

structure ExitedIn (row : ShadowRecord) (fill : Fill) (candle : Candle) : Prop where
  resolved : row.resolved = true
  exit : ∃ reason price, row.terminalReason = some (.exit reason) ∧ row.exitPrice = some price ∧
    EndsAt (row.position fill.price) candle reason price row.tp1Hit row.slHit
  time : row.exitTimeMs = some candle.closeTimeMs
  intervalStart : row.exitIntervalStartMs = some candle.openTimeMs
  intervalEnd : row.exitIntervalEndMs = some candle.closeTimeMs
  resolution : row.exitTimeResolution = some .oneMinuteTerminalInterval ∨
    row.exitTimeResolution = some .fifteenMinuteFallbackInterval
  priced : 0 < candle.low
  afterFill : fill.timeMs ≤ candle.closeTimeMs
  inHorizon : candle.closeTimeMs ≤ fill.timeMs + row.evalHorizonMs + 900000

/-- A row whose trade reached its horizon. -/
structure TimedOut (row : ShadowRecord) (fill : Fill) : Prop where
  resolved : row.resolved = true
  reason : row.terminalReason = some (.exit .timeout)
  price : ∃ price, row.exitPrice = some price ∧ 0 < price
  tp1Hit : row.tp1Hit = false
  slHit : row.slHit = false
  time : row.exitTimeMs = some (fill.timeMs + row.evalHorizonMs)
  intervalStart : row.exitIntervalStartMs = some (fill.timeMs + row.evalHorizonMs)
  intervalEnd : row.exitIntervalEndMs = some (fill.timeMs + row.evalHorizonMs)
  resolution : row.exitTimeResolution = some .horizonTimeoutBoundary

/-- A row of the run. -/
inductive RowState (slackMs : ℤ) (row : ShadowRecord) : Prop where
  | waiting (waits : Waiting row)
  | holding (fill : Fill) (valid : fill.Valid row.signalT slackMs) (holds : HoldsFill row fill)
    (pending : Pending row)
  | notFilled (closed : NotFilled row)
  | ended (fill : Fill) (valid : fill.Valid row.signalT slackMs) (holds : HoldsFill row fill)
    (exit : (∃ candle, ExitedIn row fill candle) ∨ TimedOut row fill)

section Updates

variable {row : ShadowRecord} {fill : Fill}

theorem HoldsFill.updateOutcome (holds : HoldsFill row fill) {update : OutcomeUpdate}
    (status : update.fillStatus = none)
    (start : update.fillIntervalStartMs.or (some fill.startMs) = some fill.startMs)
    (stop : update.fillIntervalEndMs.or (some fill.timeMs) = some fill.timeMs) :
    HoldsFill (row.updateOutcome update) fill where
  status := by
    unfold ShadowRecord.updateOutcome
    rw [status]
    exact holds.status
  time := holds.time
  price := holds.price
  evaluationStart := holds.evaluationStart
  evaluationEnd := holds.evaluationEnd
  intervalStart := by
    unfold ShadowRecord.updateOutcome
    rw [holds.intervalStart]
    exact start
  intervalEnd := by
    unfold ShadowRecord.updateOutcome
    rw [holds.intervalEnd]
    exact stop

theorem fillWith_holds (found : FillFound) {slackMs : ℤ} (fits : found.Fits row slackMs) :
    HoldsFill (row.fillWith found)
      ⟨found.price, found.intervalStartMs, found.timeMs, found.touchBar.openTimeMs⟩ where
  status := rfl
  time := rfl
  price := rfl
  evaluationStart := rfl
  evaluationEnd := rfl
  intervalStart := rfl
  intervalEnd := congrArg some fits.intervalEnd

theorem gapAt_pending (pending : Pending row) (reason : CoverageReason) :
    Pending (row.gapAt reason).row where
  unresolved := rfl
  reason := pending.reason
  regime := nofun

theorem gapAt_waiting (waits : Waiting row) (reason : CoverageReason) :
    Waiting (row.gapAt reason).row :=
  { gapAt_pending waits.toPending reason with
    status := waits.status
    time := waits.time
    price := waits.price
    intervalStart := waits.intervalStart
    intervalEnd := waits.intervalEnd }

theorem noFillRow_notFilled (waits : Waiting row) : NotFilled row.noFillRow where
  resolved := rfl
  status := rfl
  time := waits.time
  price := waits.price
  intervalStart := waits.intervalStart
  intervalEnd := waits.intervalEnd

end Updates

/-! ### Stages -/

structure FillBarExit.EndedIn (exit : FillBarExit) (position : ShadowPosition)
    (candle : Candle) : Prop where
  ends : EndsAt position candle exit.reason exit.price exit.tp1Hit exit.slHit
  time : exit.timeMs = candle.closeTimeMs
  intervalStart : exit.intervalStartMs = some candle.openTimeMs
  intervalEnd : exit.intervalEndMs = some candle.closeTimeMs
  resolution : exit.timeResolution = some .oneMinuteTerminalInterval ∨
    exit.timeResolution = some .fifteenMinuteFallbackInterval

structure FillStage.Fits (stage : FillStage) (row : ShadowRecord) (fill : Fill)
    (raw : List Candle) : Prop where
  price : stage.price = fill.price
  time : stage.timeMs = fill.timeMs
  intervalStart : stage.intervalStartMs = fill.startMs
  intervalEnd : stage.intervalEndMs = fill.timeMs
  closes : fill.timeMs ≤ stage.fillBarCloseMs
  later : ∀ bar ∈ raw, stage.fillBarCloseMs < bar.closeTimeMs → fill.timeMs ≤ bar.openTimeMs
  exit : ∀ exit ∈ stage.exit, ∃ candle, exit.EndedIn (row.position fill.price) candle ∧
    0 < candle.low ∧ fill.timeMs ≤ candle.closeTimeMs ∧
    candle.closeTimeMs ≤ fill.timeMs + 900000

section Stages

variable {slackMs : ℤ} {assessment : Assessment} {row : ShadowRecord}

theorem Listed.opens_after {bar later : Candle}
    (listed : Listed slackMs quarterMs bar) (other : Listed slackMs quarterMs later)
    (closesLater : bar.closeTimeMs < later.closeTimeMs) :
    bar.openTimeMs + quarterMs ≤ later.openTimeMs := by
  obtain ⟨first, opens⟩ := listed.opens
  obtain ⟨second, opensLater⟩ := other.opens
  have length := listed.closes
  have otherLength := other.closes
  unfold quarterMs at *
  omega

theorem Fill.Valid.bar_eq {fill : Fill} {signalMs : ℤ} (slack : 0 ≤ slackMs)
    (valid : fill.Valid signalMs slackMs) {bar : Candle} (listed : Listed slackMs quarterMs bar)
    (opens : bar.openTimeMs < fill.timeMs) (closes : fill.timeMs ≤ bar.closeTimeMs) :
    bar.openTimeMs = fill.barOpenMs := by
  obtain ⟨first, grid⟩ := valid.onGrid
  obtain ⟨second, opensAt⟩ := listed.opens
  have length := listed.closes
  have inBar := valid.inBar
  have inOrder := valid.inOrder
  have endsInBar := valid.endsInBar
  unfold quarterMs at *
  omega

theorem minuteExit_endedIn {position : ShadowPosition} {fillPrice : ℚ} {fillTimeMs : ℤ}
    {intra : IntrabarPath} {minute : Candle} (ended : intra.EndedIn position minute)
    (barriers : position.BarriersPositive) (priced : 0 < minute.low)
    (positive : 0 < minute.closeTimeMs) :
    (minuteExit fillPrice fillTimeMs intra).EndedIn position minute := by
  obtain ⟨reason, price, hasReason, hasPrice, ends⟩ := ended.exit
  have pricePositive := ends.price_pos barriers priced
  refine ⟨?_, ?_, ended.intervalStart, ended.intervalEnd, Or.inl ?_⟩
  · unfold minuteExit priceOr
    rw [hasReason, hasPrice]
    dsimp only [Option.getD_some]
    rw [if_neg pricePositive.ne']
    exact ends
  · unfold minuteExit barOr
    rw [ended.time]
    exact if_neg positive.ne'
  · unfold minuteExit
    rw [ended.resolution]
    rfl

theorem foundStage_fits {found : FillFound} (slack : 0 ≤ slackMs)
    (records : Records assessment row.toShadowObservation)
    (barriers : ∀ price, (row.position price).BarriersPositive)
    (fits : found.Fits row slackMs) {raw : List Candle}
    (listed : ∀ bar ∈ raw, Listed slackMs quarterMs bar) :
    (foundStage row found).Fits (row.fillWith found)
      ⟨found.price, found.intervalStartMs, found.timeMs, found.touchBar.openTimeMs⟩ raw := by
  have closesAt := fits.listed.closes
  have inBar := fits.valid.inBar
  have inOrder := fits.valid.inOrder
  have endsInBar := fits.valid.endsInBar
  have afterSignal := fits.valid.afterSignal
  have signal : 0 < row.signalT := records.signalT ▸ assessment.decisionTime_positive
  have bars : ∀ bar ∈ raw, found.touchBar.closeTimeMs < bar.closeTimeMs →
      found.timeMs ≤ bar.openTimeMs := by
    intro bar member closesLater
    have begins := fits.listed.opens_after (listed bar member) closesLater
    dsimp only at endsInBar
    omega
  have closes : found.timeMs ≤ found.touchBar.closeTimeMs := by
    dsimp only at endsInBar
    omega
  unfold foundStage
  dsimp only
  split_ifs with stopped empty terminal
  · refine ⟨rfl, rfl, rfl, fits.intervalEnd, closes, bars, ?_⟩
    intro exit given
    obtain rfl := Option.some.inj given
    obtain ⟨atClose, reached⟩ := fits.stopped stopped
    refine ⟨found.touchBar, ⟨.ofStop reached rfl rfl, rfl, rfl, rfl, Or.inr rfl⟩,
      fits.listed.priced, closes, ?_⟩
    dsimp only
    omega
  · exact ⟨rfl, rfl, rfl, fits.intervalEnd, closes, bars,
      fun _ given => absurd given (Option.not_mem_none _)⟩
  · refine ⟨rfl, rfl, rfl, fits.intervalEnd, closes, bars, ?_⟩
    intro exit given
    obtain rfl := Option.some.inj given
    obtain ⟨minute, member, ended⟩ := evaluateIntrabarPath_ended terminal
    obtain ⟨part, after⟩ := fits.minutes minute member
    have inside := part.closes
    dsimp only at inBar inOrder afterSignal
    refine ⟨minute, minuteExit_endedIn ended (barriers _) part.listed.priced (by omega),
      part.listed.priced, after, ?_⟩
    dsimp only
    unfold quarterMs at *
    omega
  · exact ⟨rfl, rfl, rfl, fits.intervalEnd, closes, bars,
      fun _ given => absurd given (Option.not_mem_none _)⟩

theorem storedStage_fits {fill : Fill} (slack : 0 ≤ slackMs)
    (valid : fill.Valid row.signalT slackMs) (holds : HoldsFill row fill) {raw : List Candle}
    (listed : ∀ bar ∈ raw, Listed slackMs quarterMs bar) :
    (storedStage row raw).Fits row fill raw := by
  have endsInBar := valid.endsInBar
  unfold storedStage
  rw [holds.time, holds.price, holds.intervalStart, holds.intervalEnd]
  cases found : raw.find? fun candle =>
      decide (candle.openTimeMs < fill.timeMs ∧ fill.timeMs ≤ candle.closeTimeMs) with
  | none =>
    refine ⟨rfl, rfl, rfl, rfl, ?_, ?_, fun _ given => absurd given (Option.not_mem_none _)⟩
    · dsimp only [Option.getD_some]
      rw [found]
      exact le_rfl
    · intro bar member closesLater
      dsimp only [Option.getD_some] at closesLater
      rw [found] at closesLater
      have outside := of_decide_eq_false (Bool.eq_false_iff.mpr
        (List.find?_eq_none.mp found bar member))
      exact not_lt.mp fun opens => outside ⟨opens, le_of_lt closesLater⟩
  | some bar =>
    have inside := List.find?_some found
    rw [decide_eq_true_iff] at inside
    obtain ⟨opens, closes⟩ := inside
    have own := listed bar (List.mem_of_find?_eq_some found)
    refine ⟨rfl, rfl, rfl, rfl, ?_, ?_, fun _ given => absurd given (Option.not_mem_none _)⟩
    · dsimp only [Option.getD_some]
      rw [found]
      exact closes
    · intro later member closesLater
      dsimp only [Option.getD_some] at closesLater
      rw [found] at closesLater
      have begins := own.opens_after (listed later member) closesLater
      have same := valid.bar_eq slack own opens closes
      omega

end Stages

/-! ### Resolutions -/

/-- A resolution leaves a row of the run that records the same assessment, and it asks for an
evaluation exactly when it resolves the row. -/
structure Resolution.Keeps (resolution : Resolution) (slackMs : ℤ) (row : ShadowRecord) :
    Prop where
  state : RowState slackMs resolution.row
  frame : resolution.row.toShadowObservation = row.toShadowObservation
  evaluates : resolution.evaluate.isSome = resolution.row.resolved

section Resolutions

variable {slackMs : ℤ} {assessment : Assessment} {row : ShadowRecord} {poll : Poll}

theorem rawCandles_listed (documented : poll.feed.Documented slackMs) :
    ∀ bar ∈ row.rawCandles poll, Listed slackMs quarterMs bar := by
  intro bar member
  unfold ShadowRecord.rawCandles at member
  dsimp only at member
  split_ifs at member
  · exact (historicalKlines_quarter documented member).2
  · exact documented.klines bar member
  · exact (historicalKlines_quarter documented member).2
  · exact documented.klines bar member

variable {fill : Fill} {stage : FillStage} {raw : List Candle}

theorem forwardReport_bars (documented : poll.feed.Documented slackMs) (targetMs : ℤ)
    (fits : stage.Fits row fill raw) (listed : ∀ bar ∈ raw, Listed slackMs quarterMs bar) :
    ∃ bars, (forwardReport row poll stage raw targetMs = reportOn row poll stage bars ∨
        (forwardReport row poll stage raw targetMs).bars = []) ∧
      ∀ bar ∈ bars, Listed slackMs quarterMs bar ∧ fill.timeMs ≤ bar.openTimeMs ∧
        bar.closeTimeMs ≤ targetMs := by
  have first : ∀ bar ∈ laterBars raw stage.fillBarCloseMs targetMs,
      Listed slackMs quarterMs bar ∧ fill.timeMs ≤ bar.openTimeMs ∧
        bar.closeTimeMs ≤ targetMs := by
    intro bar member
    obtain ⟨given, inside⟩ := List.mem_filter.mp member
    obtain ⟨closesLater, inTarget⟩ := of_decide_eq_true inside
    exact ⟨listed bar given, fits.later bar given closesLater, inTarget⟩
  unfold forwardReport
  dsimp only
  split_ifs with fetches absent empty
  · exact ⟨_, Or.inl rfl, first⟩
  · exact ⟨[], Or.inr rfl, nofun⟩
  · refine ⟨_, Or.inl rfl, fun bar member => ?_⟩
    obtain ⟨given, inside⟩ := List.mem_filter.mp member
    obtain ⟨begins, listedBar⟩ := historicalKlines_quarter documented given
    exact ⟨listedBar, fits.closes.trans begins, (of_decide_eq_true inside).2⟩
  · exact ⟨_, Or.inl rfl, first⟩

/-- What the forward evaluation reads of a bar lies inside it. -/
theorem partOf_inside (documented : poll.feed.Documented slackMs) {bar candle : Candle}
    (listed : Listed slackMs quarterMs bar)
    (part : (row.minuteSource poll.feed).PartOf bar candle) :
    0 < candle.low ∧ bar.openTimeMs ≤ candle.openTimeMs ∧
      candle.closeTimeMs ≤ bar.closeTimeMs := by
  rcases part with rfl | ⟨ambiguous, member⟩
  · exact ⟨listed.priced, le_rfl, le_rfl⟩
  · have fetched : candle ∈ poll.feed.historicalKlines "1m" bar.openTimeMs bar.closeTimeMs := by
      unfold MinuteSource.spanOf ShadowRecord.minuteSource at member
      dsimp only [List.filter_nil] at member
      split_ifs at member
      · cases member
      · exact (List.mem_filter.mp member).1
      · cases member
    have minute := historicalKlines_minute documented fetched
    exact ⟨minute.listed.priced, minute.opens, minute.closes⟩

theorem fillBarRow_exited {exit : FillBarExit} {config : Option FrictionConfig}
    (horizon : 0 ≤ row.evalHorizonMs) (fits : stage.Fits row fill raw)
    (given : stage.exit = some exit) :
    ∃ candle, ExitedIn (fillBarRow row config stage exit) fill candle := by
  obtain ⟨candle, ended, priced, after, inBar⟩ := fits.exit exit given
  refine ⟨candle, rfl, ⟨exit.reason, exit.price, rfl, rfl, ended.ends⟩,
    congrArg some ended.time, ?_, ?_, ?_, priced, after, ?_⟩
  · show exit.intervalStartMs.or row.exitIntervalStartMs = _
    rw [ended.intervalStart]
    rfl
  · show exit.intervalEndMs.or row.exitIntervalEndMs = _
    rw [ended.intervalEnd]
    rfl
  · show exit.timeResolution.or row.exitTimeResolution = _ ∨
      exit.timeResolution.or row.exitTimeResolution = _
    exact ended.resolution.imp (fun found => by rw [found]; rfl) fun found => by rw [found]; rfl
  · have same : (fillBarRow row config stage exit).evalHorizonMs = row.evalHorizonMs := rfl
    omega

theorem terminalRow_exited (documented : poll.feed.Documented slackMs) {outcome : ForwardOutcome}
    {bars : List Candle} (price : stage.price = fill.price)
    (after : ∀ bar ∈ bars, Listed slackMs quarterMs bar ∧ fill.timeMs ≤ bar.openTimeMs ∧
      bar.closeTimeMs ≤ fill.timeMs + row.evalHorizonMs)
    (report : (reportOn row poll stage bars).outcome = some outcome)
    (terminal : outcome.isTerminal = true) :
    ∃ candle, ExitedIn (terminalRow row stage outcome) fill candle := by
  obtain ⟨bar, member, candle, part, ended⟩ := forwardOutcomes_ended report terminal
  obtain ⟨listed, opensAfter, closes⟩ := after bar member
  obtain ⟨priced, opens, inside⟩ := partOf_inside documented listed part
  have lasts := candle.closeAfterOpen
  refine ⟨candle, rfl, ⟨outcome.terminalReason, outcome.exitPrice, rfl, rfl, ?_⟩,
    congrArg some ended.time, ?_, ?_, ?_, priced, by omega, ?_⟩
  · rw [← price]
    exact ended.exit
  · show outcome.exitIntervalStartMs.or row.exitIntervalStartMs = _
    rw [ended.intervalStart]
    rfl
  · show outcome.exitIntervalEndMs.or row.exitIntervalEndMs = _
    rw [ended.intervalEnd]
    rfl
  · show outcome.exitTimeResolution.or row.exitTimeResolution = _ ∨
      outcome.exitTimeResolution.or row.exitTimeResolution = _
    exact ended.resolution.imp (fun found => by rw [found]; rfl) fun found => by rw [found]; rfl
  · have same : (terminalRow row stage outcome).evalHorizonMs = row.evalHorizonMs := rfl
    omega

theorem timeoutRow_timedOut {bars : List Candle} (priced : 0 < stage.price) (given : bars ≠ [])
    (listed : ∀ bar ∈ bars, 0 < bar.low)
    (running : ∀ outcome ∈ (reportOn row poll stage bars).outcome, outcome.isTerminal = false) :
    TimedOut (timeoutRow row stage (fill.timeMs + row.evalHorizonMs)
      (reportOn row poll stage bars).outcome) fill := by
  have entry : 0 < (row.position stage.price).entryPrice := priced
  obtain ⟨outcome, report, atClose⟩ := forwardOutcomes_running poll.config
    (row.minuteSource poll.feed) stage.mfe stage.mae given entry
  have found : (reportOn row poll stage bars).outcome = some outcome := report
  obtain ⟨last, member, exitPrice⟩ := atClose (running outcome found)
  rw [found]
  refine ⟨rfl, rfl, ⟨outcome.exitPrice, rfl, ?_⟩, rfl, rfl, rfl, rfl, rfl, rfl⟩
  rw [exitPrice]
  exact (listed last member).trans_le last.low_le_close

theorem resolveFilled_keeps (documented : poll.feed.Documented slackMs)
    (horizon : 0 ≤ row.evalHorizonMs) (listed : ∀ bar ∈ raw, Listed slackMs quarterMs bar)
    (valid : fill.Valid row.signalT slackMs) (holds : HoldsFill row fill) (pending : Pending row)
    (fits : stage.Fits row fill raw) : (resolveFilled row poll raw stage).Keeps slackMs row := by
  have frozen : barOr (row.evaluationEndMs.getD 0) (stage.timeMs + row.evalHorizonMs) =
      fill.timeMs + row.evalHorizonMs := by
    unfold barOr
    rw [holds.evaluationEnd, fits.time]
    exact ite_id _
  have start : (some stage.intervalStartMs).or (some fill.startMs) = some fill.startMs :=
    congrArg some fits.intervalStart
  have stop : (some stage.intervalEndMs).or (some fill.timeMs) = some fill.timeMs :=
    congrArg some fits.intervalEnd
  obtain ⟨bars, reported, inside⟩ := forwardReport_bars documented
    (min poll.currentTimeMs (fill.timeMs + row.evalHorizonMs)) fits listed
  have after : ∀ bar ∈ bars, Listed slackMs quarterMs bar ∧ fill.timeMs ≤ bar.openTimeMs ∧
      bar.closeTimeMs ≤ fill.timeMs + row.evalHorizonMs := fun bar member =>
    ⟨(inside bar member).1, (inside bar member).2.1,
      (inside bar member).2.2.trans (min_le_right _ _)⟩
  unfold resolveFilled
  rw [frozen]
  dsimp only
  split
  · rename_i exit given
    exact ⟨.ended fill valid (holds.updateOutcome rfl start stop)
      (Or.inl (fillBarRow_exited horizon fits given)), rfl, rfl⟩
  · have unchanged (status : PollStatus) :
        (Resolution.mk row status none).Keeps slackMs row :=
      ⟨.holding fill valid holds pending, rfl, pending.unresolved.symm⟩
    by_cases empty : (forwardReport row poll stage raw
        (min poll.currentTimeMs (fill.timeMs + row.evalHorizonMs))).bars.isEmpty = true
    · rw [if_pos empty]
      exact unchanged _
    rw [if_neg empty]
    have report := reported.resolve_right fun absent => empty (List.isEmpty_iff.mpr absent)
    have given : bars ≠ [] := fun absent => empty (by rw [report, absent]; rfl)
    rw [report]
    split
    · rename_i outcome found
      obtain ⟨member, terminal⟩ := Option.filter_eq_some_iff.mp found
      exact ⟨.ended fill valid (holds.updateOutcome rfl start stop)
        (Or.inl (terminalRow_exited documented fits.price after member terminal)), rfl, rfl⟩
    · rename_i found
      have running : ∀ outcome ∈ (reportOn row poll stage bars).outcome,
          outcome.isTerminal = false := fun outcome member =>
        Bool.eq_false_iff.mpr (Option.filter_eq_none_iff.mp found outcome member)
      split_ifs
      · exact unchanged _
      · exact ⟨.ended fill valid (holds.updateOutcome rfl start stop)
          (Or.inr (timeoutRow_timedOut (fits.price ▸ valid.priced) given
            (fun bar member => (after bar member).1.priced) running)), rfl, rfl⟩
      · exact ⟨.holding fill valid (holds.updateOutcome rfl rfl rfl) (gapAt_pending pending _),
          rfl, rfl⟩

theorem Records.evalHorizonMs_nonneg (records : Records assessment row.toShadowObservation) :
    0 ≤ row.evalHorizonMs := by
  rw [records.evalHorizonMs, profile_horizonMs]
  exact mul_nonneg (profile_horizonBars_pos _).le (by decide)

theorem resolveWaiting_keeps (documented : poll.feed.Documented slackMs) (slack : 0 ≤ slackMs)
    (records : Records assessment row.toShadowObservation)
    (barriers : ∀ price, (row.position price).BarriersPositive)
    (listed : ∀ bar ∈ raw, Listed slackMs quarterMs bar) (waits : Waiting row) :
    (resolveWaiting row poll raw).Keeps slackMs row := by
  have candidates : ∀ bar ∈ row.candForFill raw, Listed slackMs quarterMs bar :=
    fun bar member => listed bar (List.mem_filter.mp member).1
  unfold resolveWaiting
  dsimp only
  split
  · exact ⟨.waiting (gapAt_waiting waits _), rfl, rfl⟩
  · rename_i found filled
    have fits := scanForFill_fits records documented candidates filled
    have recorded : Records assessment (row.fillWith found).toShadowObservation := records
    have pending : Pending (row.fillWith found) :=
      ⟨waits.unresolved, waits.reason, waits.regime⟩
    have kept := resolveFilled_keeps documented recorded.evalHorizonMs_nonneg listed fits.valid
      (fillWith_holds found fits) pending (foundStage_fits slack records barriers fits listed)
    exact ⟨kept.state, kept.frame, kept.evaluates⟩
  · split_ifs
    · exact ⟨.waiting waits, rfl, waits.unresolved.symm⟩
    · exact ⟨.notFilled (noFillRow_notFilled waits), rfl, rfl⟩
    · exact ⟨.waiting (gapAt_waiting waits _), rfl, rfl⟩

theorem resolvePending_eq (records : Records assessment row.toShadowObservation)
    (pending : Pending row)
    (status : row.fillStatus = .waitingForFill ∨ row.fillStatus = .filled) :
    resolvePending row poll =
      if row.fillStatus = .waitingForFill then resolveWaiting row poll (row.rawCandles poll)
      else resolveFilled row poll (row.rawCandles poll)
        (storedStage row (row.rawCandles poll)) := by
  have directed : row.direction ≠ .wait := records.direction ▸ records.directed
  have modern : ¬ row.IsLegacy := by
    unfold ShadowRecord.IsLegacy
    rintro (regime | reason | legacy | ineligible | version | undirected)
    · exact pending.regime regime
    · exact absurd (pending.reason.symm.trans reason) nofun
    · rcases status with waits | filled
      · exact absurd (waits.symm.trans legacy) nofun
      · exact absurd (filled.symm.trans legacy) nofun
    · rcases status with waits | filled
      · exact absurd (waits.symm.trans ineligible) nofun
      · exact absurd (filled.symm.trans ineligible) nofun
    · exact version records.evidenceVersion
    · exact directed undirected.2
  have eligible : ¬ (row.direction = .wait ∨ row.observationType ≠ .actionableTriggered ∨
      (row.zoneBounds.low ≤ 0 ∧ row.zoneBounds.high ≤ 0)) := by
    rw [records.zoneBounds]
    rintro (undirected | other | ⟨low, -⟩)
    · exact directed undirected
    · exact other records.actionable
    · exact absurd records.zonePositive.1 (not_lt.mpr low)
  unfold resolvePending
  rw [if_neg modern, if_neg eligible]

theorem resolvePending_keeps (documented : poll.feed.Documented slackMs) (slack : 0 ≤ slackMs)
    (records : Records assessment row.toShadowObservation)
    (barriers : ∀ price, (row.position price).BarriersPositive) (state : RowState slackMs row)
    (unresolved : row.resolved = false) : (resolvePending row poll).Keeps slackMs row := by
  have listed : ∀ bar ∈ row.rawCandles poll, Listed slackMs quarterMs bar :=
    rawCandles_listed documented
  cases state with
  | waiting waits =>
    rw [resolvePending_eq records waits.toPending (Or.inl waits.status), if_pos waits.status]
    exact resolveWaiting_keeps documented slack records barriers listed waits
  | holding fill valid holds pending =>
    have filled : ¬ row.fillStatus = .waitingForFill := fun waits =>
      absurd (holds.status.symm.trans waits) nofun
    rw [resolvePending_eq records pending (Or.inr holds.status), if_neg filled]
    exact resolveFilled_keeps documented records.evalHorizonMs_nonneg listed valid holds pending
      (storedStage_fits slack valid holds listed)
  | notFilled closed => exact absurd (closed.resolved.symm.trans unresolved) nofun
  | ended fill valid holds exit =>
    refine absurd ?_ (Bool.eq_false_iff.mp unresolved)
    exact exit.elim (fun ⟨_, ended⟩ => ended.resolved) fun timedOut => timedOut.resolved

end Resolutions

end QuantAgent.MarketWatch.Shadow
