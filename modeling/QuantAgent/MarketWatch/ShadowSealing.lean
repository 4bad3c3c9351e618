/-
This file compares the resolver of shadow rows with the validators of their evaluations: what the
resolver leaves of a recorded row passes every check, except that the recorder puts the bounds of
the entry zone in order and the cross-check compares them with the bounds of the risk plan.
-/

import QuantAgent.MarketWatch.ShadowRuns

namespace QuantAgent.MarketWatch.Shadow

open Check

/-! ### The cross-check -/

def Assessment.ZoneKept (assessment : Assessment) : Prop :=
  SamePrice assessment.entryZone.1 assessment.plan.entryLow ∧
    SamePrice assessment.entryZone.2 assessment.plan.entryHigh

theorem Assessment.zoneKept_of_ordered {assessment : Assessment}
    (positive : 0 < assessment.plan.entryLow)
    (ordered : assessment.plan.entryLow ≤ assessment.plan.entryHigh) : assessment.ZoneKept := by
  have same : assessment.entryZone = (assessment.plan.entryLow, assessment.plan.entryHigh) := by
    unfold Assessment.entryZone
    dsimp only
    rw [if_pos positive, if_pos (positive.trans_le ordered), if_neg (not_lt.mpr ordered)]
  unfold Assessment.ZoneKept
  rw [same]
  exact ⟨SamePrice.refl _, SamePrice.refl _⟩

section

variable {assessment : Assessment} {row : ShadowRecord}

theorem crosscheck_iff (records : Records assessment row.toShadowObservation) :
    validateAttributionCrosscheck assessment.featureEvidence row = .ok () ↔
      assessment.ZoneKept := by
  have selected : some row.agentSetup = assessment.featureEvidence.selectedPlaybook := by
    obtain ⟨playbook, chosen⟩ := Option.ne_none_iff_exists'.mp
      (assessment.decision_selected records.directed)
    unfold Assessment.featureEvidence
    rw [if_neg assessment.selected_real, records.setup, assessment.setup_selected, chosen]
    rfl
  have signalTime : barOr row.signalTimeMs row.timestampMs = assessment.decisionTimeMs :=
    records.signalT
  unfold validateAttributionCrosscheck
  rw [run_append_eq_ok_iff]
  have attribution : Check.run (attributionChecks assessment.featureEvidence row) = .ok () := by
    unfold attributionChecks
    simp only [run_require_eq_ok_iff, run_nil, and_true]
    exact ⟨records.symbol, signalTime, by rw [records.evidence]; rfl, selected,
      congrArg some records.direction, congrArg some records.identity,
      congrArg some records.setupKey, records.snapshotHash, records.policyVersion,
      records.configHash⟩
  have riskPlan : Check.run (riskPlanChecks row assessment.featureEvidence.directionalRiskPlan) =
      .ok () ↔ assessment.ZoneKept := by
    unfold Assessment.featureEvidence riskPlanChecks
    simp only [run_require_eq_ok_iff, run_nil, and_true, records.direction,
      records.zoneLow, records.zoneHigh, records.stopLoss, records.tp1, records.tp2, true_and,
      SamePrice.refl]
    rfl
  rw [riskPlan]
  exact and_iff_right attribution

/-! ### The content of an evaluation -/

def builtContent (assessment : Assessment) (row : ShadowRecord) (candles15m : List Candle)
    (fundingRecords : Option (List FundingRow)) (fundingFetchError : Bool) : ShadowEvaluation :=
  let profile := getPlaybookEvaluationProfile assessment.plan.setup
  evaluationContent row assessment.featureEvidence directionalOutcomeProfileVersion
    profile.horizonBars profile.horizonMs
    (if row.IsNoFill then noFillOutcome row assessment.featureEvidence candles15m
      else filledOutcome row assessment.featureEvidence profile.horizonMs candles15m
        fundingRecords fundingFetchError)

variable (computeEvaluationId : ShadowEvaluation → String) (candles15m : List Candle)
  (fundingRecords : Option (List FundingRow)) (fundingFetchError : Bool)
  (records : Records assessment row.toShadowObservation)

theorem evidence_playbook (assessment : Assessment) :
    assessment.featureEvidence.selectedPlaybook.getD .noTrade = assessment.plan.setup := by
  unfold Assessment.featureEvidence
  rw [if_neg assessment.selected_real, assessment.setup_selected]

include records in
theorem build_eq :
    buildTacticalShadowEvaluation row assessment.featureEvidence computeEvaluationId candles15m
        fundingRecords fundingFetchError =
      let content := builtContent assessment row candles15m fundingRecords fundingFetchError
      validateAttributionCrosscheck assessment.featureEvidence row >>= fun _ =>
        validateTacticalShadowEvaluation computeEvaluationId
            ⟨computeEvaluationId content, content⟩ >>= fun _ =>
          .ok ⟨computeEvaluationId content, content⟩ := by
  have version : Check.run [require
      (directionalOutcomeProfileVersion = directionalOutcomeProfileVersion)
      (SealFault.validation "Record is ineligible for B2A materialization")] = .ok () :=
    (run_require_eq_ok_iff _ _ _).mpr ⟨rfl, rfl⟩
  have horizon (profile : EvaluationProfile) (length : profile.horizonMs =
      profile.horizonBars * 900000) : Check.run [
        require (profile.horizonBars = profile.horizonBars ∧
          profile.horizonMs = profile.horizonMs) (SealFault.profileConflict "Horizon conflict"),
        require (profile.horizonMs = profile.horizonBars * 900000)
          (SealFault.profileConflict "Horizon invariant violated")] = .ok () := by
    simp only [run_require_eq_ok_iff, run_nil, and_true, true_and]
    exact length
  unfold buildTacticalShadowEvaluation
  rw [evidence_playbook, records.profileVersion, records.horizonBars, records.horizonMs]
  dsimp only [Option.getD_some]
  rw [version, horizon _ (profile_horizonMs _)]
  rfl

/-! ### The checks that every row passes -/

include records in
theorem Records.entryWindowStart :
    row.entryWindowStart = assessment.decisionTimeMs := by
  unfold ShadowRecord.entryWindowStart barOr
  rw [records.windowStart, if_neg assessment.decisionTime_positive.ne']

include records in
theorem Records.entryWindowEnd :
    row.entryWindowEnd =
      assessment.decisionTimeMs + assessment.entryWindowBars * quarterMs := by
  unfold ShadowRecord.entryWindowEnd
  rw [records.windowEnd, records.signalT, records.windowBars]
  unfold barOr
  rw [if_neg assessment.windowBars_positive.ne']
  exact ite_id _

theorem accountSettlements_version (initialRisk : ℚ) (settlements : List FundingSettlement) :
    (accountSettlements initialRisk settlements).accountingVersion = fundingAccountingVersion := by
  unfold accountSettlements
  dsimp only
  split_ifs <;> rfl

theorem funding_version (direction : Option DirectionalDecision) (fillPrice : Option ℚ)
    (stopLoss : ℚ) (fillTimeMs exitTimeMs : Option ℤ) (records : Option (List FundingRow))
    (fetchError : Bool) (fillStart fillStop exitStart exitStop : Option ℤ) :
    (evaluateFundingAccounting direction fillPrice stopLoss fillTimeMs exitTimeMs records
      fetchError fillStart fillStop exitStart exitStop).accountingVersion =
        fundingAccountingVersion := by
  unfold evaluateFundingAccounting
  split
  · dsimp only
    split_ifs
    · rfl
    · rfl
    · cases records with
      | none => rfl
      | some given => exact accountSettlements_version _ _
  · rfl

theorem accountSettlements_complete {initialRisk : ℚ} {settlements : List FundingSettlement}
    (complete : (accountSettlements initialRisk settlements).fundingStatus = .complete) :
    (accountSettlements initialRisk settlements).fundingPnlR ≠ none := by
  unfold accountSettlements at complete ⊢
  dsimp only at complete ⊢
  split_ifs at complete ⊢ <;> exact Option.some_ne_none _

theorem funding_complete {direction : Option DirectionalDecision} {fillPrice : Option ℚ}
    {stopLoss : ℚ} {fillTimeMs exitTimeMs : Option ℤ} {records : Option (List FundingRow)}
    {fetchError : Bool} {fillStart fillStop exitStart exitStop : Option ℤ}
    (complete : (evaluateFundingAccounting direction fillPrice stopLoss fillTimeMs exitTimeMs
      records fetchError fillStart fillStop exitStart exitStop).fundingStatus = .complete) :
    (evaluateFundingAccounting direction fillPrice stopLoss fillTimeMs exitTimeMs records
      fetchError fillStart fillStop exitStart exitStop).fundingPnlR ≠ none := by
  unfold evaluateFundingAccounting at complete ⊢
  split at complete
  · dsimp only at complete ⊢
    split_ifs at complete ⊢
    cases records with
    | none => cases complete
    | some given => exact accountSettlements_complete complete
  · cases complete

theorem checkpoints_hours (direction : Option DirectionalDecision) (fillPrice : Option ℚ)
    (stopLoss : ℚ) (fillTimeMs exitTimeMs : Option ℤ) (reason : Option RowReason) :
    (computeDiagnosticCheckpoints direction fillPrice stopLoss fillTimeMs exitTimeMs reason
      candles15m).map OutcomeCheckpoint.checkpointHorizonHours = [4, 8, 12, 24] := by
  have hours (isLong : Bool) (price risk : ℚ) (fillTime horizon : ℤ) :
      (filledCheckpoint isLong price risk fillTime exitTimeMs reason candles15m
        horizon).checkpointHorizonHours = horizon := by
    unfold filledCheckpoint
    dsimp only
    split_ifs <;> rfl
  unfold computeDiagnosticCheckpoints
  cases fillTimeMs with
  | none => rfl
  | some fillTime =>
    cases fillPrice with
    | none => rfl
    | some price => simp only [List.map_cons, List.map_nil, hours]

include records in
theorem versionChecks_built :
    Check.run (versionChecks (builtContent assessment row candles15m fundingRecords
      fundingFetchError)) = .ok () := by
  have symbol : row.symbol ≠ "" := records.symbol ▸ assessment.symbol_given
  have direction : assessment.plan.decision = .long ∨ assessment.plan.decision = .short := by
    cases decision : assessment.plan.decision with
    | long => exact Or.inl rfl
    | short => exact Or.inr rfl
    | wait => exact absurd decision records.directed
  have accounting : (builtContent assessment row candles15m fundingRecords
      fundingFetchError).fundingAccounting.accountingVersion = fundingAccountingVersion := by
    unfold builtContent evaluationContent
    dsimp only
    split_ifs
    · rfl
    · exact funding_version _ _ _ _ _ _ _ _ _ _ _
  have playbook : (builtContent assessment row candles15m fundingRecords
      fundingFetchError).playbook = assessment.plan.setup := evidence_playbook assessment
  have window : row.signalT ≤ row.entryWindowStart ∧ row.entryWindowStart ≤ row.entryWindowEnd := by
    rw [records.signalT, records.entryWindowStart, records.entryWindowEnd]
    exact ⟨le_rfl, le_add_of_nonneg_right
      (mul_nonneg assessment.windowBars_positive.le (by decide))⟩
  unfold versionChecks
  simp only [run_require_eq_ok_iff, run_nil, and_true, playbook]
  exact ⟨rfl, assessment.evidence_given, symbol, direction.imp (congrArg some) (congrArg some), rfl,
    accounting, rfl, profile_horizonBars_pos _, profile_horizonMs _, rfl, rfl, window⟩

theorem checkpointChecks_built :
    Check.run (checkpointChecks (builtContent assessment row candles15m fundingRecords
      fundingFetchError)) = .ok () := by
  have hours : (builtContent assessment row candles15m fundingRecords
      fundingFetchError).outcomeCheckpoints.map OutcomeCheckpoint.checkpointHorizonHours =
        [4, 8, 12, 24] := by
    unfold builtContent evaluationContent
    dsimp only
    split_ifs
    · rfl
    · exact checkpoints_hours candles15m _ _ _ _ _ _
  have length := congrArg List.length hours
  rw [List.length_map] at length
  unfold checkpointChecks
  simp only [run_require_eq_ok_iff, run_nil, and_true]
  exact ⟨length, hours⟩

/-! ### A row that was not filled -/

theorem terminalChecks_notFilled (closed : NotFilled row) :
    Check.run (terminalChecks (builtContent assessment row candles15m fundingRecords
      fundingFetchError)) = .ok () := by
  have noFill : row.IsNoFill := Or.inl closed.status
  unfold builtContent
  dsimp only
  rw [if_pos noFill]
  show Check.run (noFillChecks _) = .ok ()
  unfold noFillChecks
  simp only [run_require_eq_ok_iff, run_nil, and_true]
  exact ⟨rfl, rfl, ⟨closed.time, closed.price⟩, ⟨rfl, rfl, rfl, rfl⟩, rfl,
    ⟨closed.intervalStart, closed.intervalEnd⟩, rfl, rfl, rfl⟩

/-! ### A row whose trade is closed -/

structure TradeExit where
  reason : ShadowTerminalReason
  price : ℚ
  timeMs : ℤ
  startMs : ℤ
  resolution : ExitTimeResolution

structure HoldsExit (row : ShadowRecord) (fill : Fill) (exit : TradeExit) : Prop where
  reason : row.terminalReason = some (.exit exit.reason)
  price : row.exitPrice = some exit.price
  time : row.exitTimeMs = some exit.timeMs
  intervalStart : row.exitIntervalStartMs = some exit.startMs
  intervalEnd : row.exitIntervalEndMs = some exit.timeMs
  resolution : row.exitTimeResolution = some exit.resolution
  priced : 0 < exit.price
  inOrder : exit.startMs ≤ exit.timeMs
  afterFill : fill.timeMs ≤ exit.timeMs

inductive ExitReason (row : ShadowRecord) (endMs : ℤ) (exit : TradeExit) : Prop where
  | tp1 (reason : exit.reason = .tp1) (hit : row.tp1Hit = true) (missed : row.slHit = false)
    (resolution : exit.resolution = .oneMinuteTerminalInterval ∨
      exit.resolution = .fifteenMinuteFallbackInterval)
    (inHorizon : exit.timeMs ≤ endMs + 900000)
  | stop (reason : exit.reason = .stop) (hit : row.slHit = true) (missed : row.tp1Hit = false)
    (resolution : exit.resolution = .oneMinuteTerminalInterval ∨
      exit.resolution = .fifteenMinuteFallbackInterval)
    (inHorizon : exit.timeMs ≤ endMs + 900000)
  | timeout (reason : exit.reason = .timeout) (missed : row.tp1Hit = false ∧ row.slHit = false)
    (time : exit.timeMs = endMs) (start : exit.startMs = endMs)
    (resolution : exit.resolution = .horizonTimeoutBoundary)

section Closed

variable {fill : Fill} {exit : TradeExit} {slackMs : ℤ}

theorem ExitedIn.exit_of {candle : Candle} (exited : ExitedIn row fill candle)
    (barriers : ∀ price, (row.position price).BarriersPositive) :
    ∃ exit, HoldsExit row fill exit ∧
      ExitReason row (fill.timeMs + row.evalHorizonMs) exit := by
  obtain ⟨reason, price, hasReason, hasPrice, ends⟩ := exited.exit
  obtain ⟨resolution, hasResolution, known⟩ : ∃ resolution,
      row.exitTimeResolution = some resolution ∧
        (resolution = .oneMinuteTerminalInterval ∨
          resolution = .fifteenMinuteFallbackInterval) := by
    rcases exited.resolution with found | found
    · exact ⟨_, found, Or.inl rfl⟩
    · exact ⟨_, found, Or.inr rfl⟩
  refine ⟨⟨reason, price, candle.closeTimeMs, candle.openTimeMs, resolution⟩,
    ⟨hasReason, hasPrice, exited.time, exited.intervalStart, exited.intervalEnd, hasResolution,
      ends.price_pos (barriers _) exited.priced, candle.closeAfterOpen.le, exited.afterFill⟩, ?_⟩
  generalize tp1Flag : row.tp1Hit = tp1Hit at ends
  generalize slFlag : row.slHit = slHit at ends
  cases ends with
  | stop reached => exact .stop rfl slFlag tp1Flag known exited.inHorizon
  | tp1 reached => exact .tp1 rfl tp1Flag slFlag known exited.inHorizon

theorem TimedOut.exit_of (timedOut : TimedOut row fill) (horizon : 0 ≤ row.evalHorizonMs) :
    ∃ exit, HoldsExit row fill exit ∧
      ExitReason row (fill.timeMs + row.evalHorizonMs) exit := by
  obtain ⟨price, hasPrice, priced⟩ := timedOut.price
  have endMs : fill.timeMs ≤ fill.timeMs + row.evalHorizonMs := le_add_of_nonneg_right horizon
  exact ⟨⟨.timeout, price, fill.timeMs + row.evalHorizonMs, fill.timeMs + row.evalHorizonMs,
      .horizonTimeoutBoundary⟩,
    ⟨timedOut.reason, hasPrice, timedOut.time, timedOut.intervalStart, timedOut.intervalEnd,
      timedOut.resolution, priced, le_rfl, endMs⟩,
    .timeout rfl ⟨timedOut.tp1Hit, timedOut.slHit⟩ rfl rfl rfl⟩

/-- The outcome that the builder makes of a closed trade has its times. -/
structure OutcomeTimes (outcome : EvaluationOutcome) (fill : Fill) (endMs : ℤ)
    (exit : TradeExit) : Prop where
  start : outcome.evaluationStartMs = some fill.timeMs
  stop : outcome.evaluationEndMs = some endMs
  exitTime : outcome.exitTimeMs = some exit.timeMs
  exitStart : outcome.exitIntervalStartMs = some exit.startMs
  exitStop : outcome.exitIntervalEndMs = some exit.timeMs
  resolution : outcome.exitTimeResolution = some exit.resolution

theorem filledOutcome_times (holds : HoldsFill row fill) (positive : 0 < fill.timeMs)
    (horizon : 0 ≤ row.evalHorizonMs) (closes : HoldsExit row fill exit)
    (evidence : FeatureEvidence) (horizonMs : ℤ) :
    OutcomeTimes (filledOutcome row evidence horizonMs candles15m fundingRecords
      fundingFetchError) fill (fill.timeMs + row.evalHorizonMs) exit := by
  have start : barOr (row.evaluationStartMs.getD 0) (barOr (row.fillTimeMs.getD 0) row.signalT) =
      fill.timeMs := by
    rw [holds.evaluationStart]
    exact if_neg positive.ne'
  have stop : barOr (row.evaluationEndMs.getD 0) (fill.timeMs + horizonMs) =
      fill.timeMs + row.evalHorizonMs := by
    rw [holds.evaluationEnd]
    exact if_neg (add_pos_of_pos_of_nonneg positive horizon).ne'
  have times (endMs : ℤ) : row.exitTimes (row.exitTimeMs.getD endMs) endMs =
      (exit.timeMs, exit.startMs, exit.timeMs, exit.resolution) := by
    unfold ShadowRecord.exitTimes
    rw [closes.intervalStart, closes.intervalEnd, closes.resolution, closes.time]
    rfl
  unfold filledOutcome
  simp only [start, stop, times]
  exact ⟨rfl, rfl, rfl, rfl, rfl, rfl⟩

theorem present_some {relation : ℤ → ℤ → Prop} {first second : Option ℤ} {left right : ℤ}
    (hasLeft : first = some left) (hasRight : second = some right) (related : relation left right) :
    Present relation first second :=
  ⟨left, hasLeft, right, hasRight, related⟩

theorem ne_none_of_eq_some {α : Type} {field : Option α} {value : α} (given : field = some value) :
    field ≠ none := given ▸ Option.some_ne_none value

variable {content : ShadowEvaluation}

structure FilledFields (content : ShadowEvaluation) (row : ShadowRecord) (fill : Fill)
    (exit : TradeExit) : Prop where
  times : OutcomeTimes content.toEvaluationOutcome fill (fill.timeMs + row.evalHorizonMs) exit
  fillStatus : content.fillStatus = .filled
  signalTime : content.signalTimeMs = row.signalT
  fillPrice : content.fillPrice = some fill.price
  fillTime : content.fillTimeMs = some fill.timeMs
  fillStart : content.fillIntervalStartMs = some fill.startMs
  fillStop : content.fillIntervalEndMs = some fill.timeMs
  horizon : content.evaluationHorizonMs = row.evalHorizonMs
  reason : content.terminalReason = some (.exit exit.reason)
  exitPrice : content.exitPrice = some exit.price
  tp1Hit : content.tp1Hit = row.tp1Hit
  slHit : content.slHit = row.slHit

theorem filledChecks_pass (fields : FilledFields content row fill exit)
    (valid : fill.Valid row.signalT slackMs) (closes : HoldsExit row fill exit) :
    Check.run (filledChecks content) = .ok () := by
  have fillInOrder := valid.inOrder.le
  have signal : Present (· ≤ ·) (some content.signalTimeMs) content.fillIntervalStartMs :=
    present_some (congrArg some fields.signalTime) fields.fillStart valid.afterSignal
  have known : content.terminalReason ∈
      [some (.exit .tp1), some (.exit .stop), some (.exit .timeout)] := by
    rw [fields.reason]
    cases exit.reason <;> decide
  have planned : content.evaluationEndMs =
      content.evaluationStartMs.map fun start => start + content.evaluationHorizonMs := by
    rw [fields.times.start, fields.times.stop, fields.horizon]
    rfl
  unfold filledChecks
  simp only [run_require_eq_ok_iff, run_nil, and_true]
  exact ⟨fields.fillStatus, ⟨_, fields.fillPrice, valid.priced⟩,
    ne_none_of_eq_some fields.fillTime,
    ⟨ne_none_of_eq_some fields.fillStart, ne_none_of_eq_some fields.fillStop⟩,
    ⟨present_some fields.fillStart fields.fillTime fillInOrder,
      present_some fields.fillTime fields.fillStop le_rfl⟩, signal,
    ⟨ne_none_of_eq_some fields.times.exitStart, ne_none_of_eq_some fields.times.exitStop⟩,
    ne_none_of_eq_some fields.times.resolution,
    present_some fields.times.exitStart fields.times.exitStop closes.inOrder,
    ⟨signal, present_some fields.fillStart fields.fillStop fillInOrder,
      present_some fields.fillStop fields.times.exitStop closes.afterFill⟩, known,
    ne_none_of_eq_some fields.times.exitTime,
    ⟨present_some fields.times.exitStart fields.times.exitTime closes.inOrder,
      present_some fields.times.exitTime fields.times.exitStop le_rfl⟩,
    ⟨_, fields.exitPrice, closes.priced⟩,
    present_some fields.fillStop fields.times.exitTime closes.afterFill,
    ⟨ne_none_of_eq_some fields.times.start, fields.times.start.trans fields.fillTime.symm⟩,
    ne_none_of_eq_some fields.times.stop, planned⟩

theorem barrierChecks_pass (fields : FilledFields content row fill exit)
    (name flags : String) {hit missed : Bool} (flagsHold : hit = true ∧ missed = false)
    (resolution : exit.resolution = .oneMinuteTerminalInterval ∨
      exit.resolution = .fifteenMinuteFallbackInterval)
    (inHorizon : exit.timeMs ≤ fill.timeMs + row.evalHorizonMs + 900000) :
    Check.run (barrierChecks content name flags hit missed) = .ok () := by
  unfold barrierChecks
  simp only [run_require_eq_ok_iff, run_nil, and_true]
  refine ⟨flagsHold, present_some fields.times.exitTime fields.times.stop inHorizon, ?_,
    fields.times.exitTime.trans fields.times.exitStop.symm⟩
  rw [fields.times.resolution]
  exact resolution.imp (congrArg some) (congrArg some)

theorem reasonChecks_pass (fields : FilledFields content row fill exit)
    (reason : ExitReason row (fill.timeMs + row.evalHorizonMs) exit) :
    Check.run (reasonChecks content) = .ok () := by
  unfold reasonChecks
  rw [fields.reason]
  cases reason with
  | tp1 reason hit missed resolution inHorizon =>
    rw [reason]
    exact barrierChecks_pass fields _ _ ⟨fields.tp1Hit.trans hit, fields.slHit.trans missed⟩
      resolution inHorizon
  | stop reason hit missed resolution inHorizon =>
    rw [reason]
    exact barrierChecks_pass fields _ _ ⟨fields.slHit.trans hit, fields.tp1Hit.trans missed⟩
      resolution inHorizon
  | timeout reason missed time start resolution =>
    have exitTime : content.exitTimeMs = content.evaluationEndMs := by
      rw [fields.times.exitTime, fields.times.stop, time]
    rw [reason]
    simp only [run_require_eq_ok_iff, run_nil, and_true]
    refine ⟨present_some fields.times.exitTime fields.times.stop ?_,
      ⟨fields.tp1Hit.trans missed.1, fields.slHit.trans missed.2⟩, ?_, ?_, ?_⟩
    · rw [time, sub_self, abs_zero]
      decide
    · rw [fields.times.resolution, resolution]
    · rw [fields.times.exitStart, fields.times.stop, start]
    · rw [fields.times.exitStop, fields.times.stop, time]

/-- The net R of an evaluation as the builder makes it. -/
structure NetR (content : ShadowEvaluation) (gross cost : ℚ) : Prop where
  priceGross : content.priceGrossR = some gross
  executionCost : content.executionCostR = some cost
  net : content.netRExFunding = some (gross - cost)
  complete : content.fundingAccounting.fundingStatus = .complete →
    ∃ funding, content.fundingAccounting.fundingPnlR = some funding ∧
      content.netRAfterFunding = some (gross - cost + funding)
  incomplete : content.fundingAccounting.fundingStatus ≠ .complete →
    content.netRAfterFunding = none

theorem netRChecks_pass {gross cost : ℚ} (netR : NetR content gross cost) :
    Check.run (netRChecks content) = .ok () := by
  unfold netRChecks
  dsimp only
  rw [run_append_eq_ok_iff, netR.priceGross, netR.executionCost]
  constructor
  · simp only [run_require_eq_ok_iff, run_nil, and_true]
    exact ⟨⟨Option.some_ne_none _, Option.some_ne_none _, ne_none_of_eq_some netR.net⟩,
      gross - cost, netR.net, SameR.refl _⟩
  · split_ifs with complete
    · obtain ⟨funding, pnl, after⟩ := netR.complete complete
      simp only [run_require_eq_ok_iff, run_nil, and_true]
      refine ⟨ne_none_of_eq_some pnl, ne_none_of_eq_some after, _, after, ?_⟩
      rw [pnl]
      exact SameR.refl _
    · simp only [run_require_eq_ok_iff, run_nil, and_true]
      exact netR.incomplete complete

theorem priceGrossR_given {fillPrice exitPrice : ℚ} (filled : row.fillPrice = some fillPrice)
    (exited : row.exitPrice = some exitPrice) (direction : Option DirectionalDecision) :
    ∃ gross, row.priceGrossR direction = some gross := by
  unfold ShadowRecord.priceGrossR
  rw [filled, exited]
  exact ⟨_, rfl⟩

def closedContent (assessment : Assessment) (row : ShadowRecord) (candles15m : List Candle)
    (fundingRecords : Option (List FundingRow)) (fundingFetchError : Bool) : ShadowEvaluation :=
  let profile := getPlaybookEvaluationProfile assessment.plan.setup
  evaluationContent row assessment.featureEvidence directionalOutcomeProfileVersion
    profile.horizonBars profile.horizonMs (filledOutcome row assessment.featureEvidence
      profile.horizonMs candles15m fundingRecords fundingFetchError)

theorem builtContent_closed (holds : HoldsFill row fill) (closes : HoldsExit row fill exit) :
    builtContent assessment row candles15m fundingRecords fundingFetchError =
      closedContent assessment row candles15m fundingRecords fundingFetchError := by
  have filled : ¬ row.IsNoFill := by
    rintro (status | terminal)
    · exact absurd (holds.status.symm.trans status) nofun
    · exact absurd (closes.reason.symm.trans terminal) nofun
  unfold builtContent closedContent
  dsimp only
  rw [if_neg filled]

include records in
theorem closedContent_fields (holds : HoldsFill row fill) (valid : fill.Valid row.signalT slackMs)
    (closes : HoldsExit row fill exit) :
    FilledFields (closedContent assessment row candles15m fundingRecords fundingFetchError) row
      fill exit := by
  have positive : 0 < fill.timeMs := by
    have signal : 0 < row.signalT := records.signalT ▸ assessment.decisionTime_positive
    have afterSignal := valid.afterSignal
    have inOrder := valid.inOrder
    omega
  exact ⟨filledOutcome_times candles15m fundingRecords fundingFetchError holds positive
      records.evalHorizonMs_nonneg closes _ _, holds.status, rfl, holds.price, holds.time,
    holds.intervalStart, holds.intervalEnd, records.evalHorizonMs.symm, closes.reason,
    closes.price, rfl, rfl⟩

theorem closedContent_netR (assessment : Assessment) (holds : HoldsFill row fill)
    (closes : HoldsExit row fill exit) :
    ∃ gross, NetR (closedContent assessment row candles15m fundingRecords fundingFetchError) gross
      (row.frictionR.getD 0) := by
  obtain ⟨gross, hasGross⟩ := priceGrossR_given holds.price closes.price
    assessment.featureEvidence.finalDirectionalDecision
  refine ⟨gross, hasGross, rfl, congrArg (Option.map _) hasGross, fun complete => ?_,
    fun incomplete => if_neg incomplete⟩
  obtain ⟨funding, pnl⟩ := Option.ne_none_iff_exists'.mp (funding_complete complete)
  refine ⟨funding, pnl, (if_pos complete).trans ?_⟩
  rw [pnl, hasGross]
  rfl

include records in
theorem terminalChecks_closed (holds : HoldsFill row fill) (valid : fill.Valid row.signalT slackMs)
    (closes : HoldsExit row fill exit)
    (reason : ExitReason row (fill.timeMs + row.evalHorizonMs) exit) :
    Check.run (terminalChecks (builtContent assessment row candles15m fundingRecords
      fundingFetchError)) = .ok () := by
  have fields := closedContent_fields candles15m fundingRecords fundingFetchError records holds
    valid closes
  obtain ⟨gross, netR⟩ := closedContent_netR candles15m fundingRecords fundingFetchError
    assessment holds closes
  rw [builtContent_closed candles15m fundingRecords fundingFetchError holds closes]
  show Check.run (filledChecks _ ++ reasonChecks _ ++ netRChecks _) = .ok ()
  rw [run_append_eq_ok_iff, run_append_eq_ok_iff]
  exact ⟨⟨filledChecks_pass fields valid closes, reasonChecks_pass fields reason⟩,
    netRChecks_pass netR⟩

end Closed

end

end QuantAgent.MarketWatch.Shadow
