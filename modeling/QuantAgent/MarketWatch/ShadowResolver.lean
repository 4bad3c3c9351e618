/-
This file embeds the resolution of a pending shadow record by one poll: the candles a client gives,
the search for the fill, the exit in the fill bar, and the bars after it up to the horizon.

A poll that resolves a record as filled or as not filled builds its evaluation at once; a resolved
record is never polled again.
-/

import QuantAgent.MarketWatch.ShadowBuilder

namespace QuantAgent.MarketWatch.Shadow

/-! ### The client -/

/-- The answers of the exchange in one poll: the closed candles of a quarter of an hour, the rows of
an interval between two times, and the funding records between two times, unless that fails. -/
structure MarketFeed where
  klines : List Candle
  rows : String → ℤ → ℤ → List Candle
  fundingRateHistory : ℤ → ℤ → Option (List FundingRow)

/-- `historical_klines`: one candle for an open time, in order, closed at the end of the range. A
failure gives no candles. -/
def MarketFeed.historicalKlines (feed : MarketFeed) (interval : String) (startMs endMs : ℤ) :
    List Candle :=
  if endMs ≤ startMs then []
  else
    let unique := (feed.rows interval startMs endMs).pwFilter
      fun first second => first.openTimeMs ≠ second.openTimeMs
    (byOpenTime unique).filterMap fun row =>
      if row.closeTimeMs < endMs + 1 then some { row with interval := interval } else none

def MarketFeed.minutesOf (feed : MarketFeed) (bar : Candle) : List Candle :=
  (feed.historicalKlines "1m" bar.openTimeMs bar.closeTimeMs).filter fun minute =>
    minute.interval = "1m"

structure Poll where
  feed : MarketFeed
  currentTimeMs : ℤ
  config : Option FrictionConfig

/-! ### What the resolver reads of a row -/

/-- `value or other` of a price. -/
def priceOr (value other : ℚ) : ℚ := if value = 0 then other else value

structure EntryZone where
  low : ℚ
  high : ℚ

namespace ShadowRecord

variable (row : ShadowRecord)

/-- `is_legacy_shadow_record`; keys and identities are never blank. -/
def IsLegacy : Prop :=
  row.regimeAfter = some .legacyIneligible ∨ row.terminalReason = some .legacyIneligible ∨
    row.fillStatus = .legacy ∨ row.fillStatus = .ineligible ∨
    row.evidenceVersion ≠ marketWatchEvidenceVersion ∨
    (row.observationType = .actionableTriggered ∧ row.direction = .wait)

instance : Decidable row.IsLegacy := inferInstanceAs (Decidable (_ ∨ _))

def zoneBounds : EntryZone where
  low := priceOr row.entryZoneLow (priceOr row.entryPrice 0)
  high := priceOr row.entryZoneHigh (priceOr row.entryPrice 0)

def zone : EntryZone :=
  let bounds := row.zoneBounds
  if bounds.high < bounds.low then ⟨bounds.high, bounds.low⟩ else bounds

def evalHorizonMs : ℤ :=
  if row.evaluationProfileVersion = some directionalOutcomeProfileVersion then
    (getPlaybookEvaluationProfile row.agentSetup).horizonMs
  else
    barOr (row.evaluationHorizonMs.getD 0)
      (barOr (row.evaluationHorizonBars.getD 0) 16 * quarterMs)

def position (fillPrice : ℚ) : ShadowPosition where
  direction := row.direction
  entryPrice := fillPrice
  stopLoss := row.stopLoss
  tp1 := row.tp1
  tp2 := row.tp2

def neededFetchEnd (nowMs : ℤ) : ℤ :=
  if row.fillStatus = .filled then
    min nowMs (barOr (row.evaluationEndMs.getD 0) (row.fillTimeMs.getD 0 + row.evalHorizonMs))
  else barOr (row.evaluationEndMs.getD 0) (row.signalT + row.evalHorizonMs)

def rawCandles (poll : Poll) : List Candle :=
  let historical := poll.feed.historicalKlines "15m" row.signalT
    (row.neededFetchEnd poll.currentTimeMs)
  let recent := poll.feed.klines
  if 100 * quarterMs ≤ poll.currentTimeMs - row.signalT then historical
  else if recent.head?.elim true fun first => row.signalT < first.openTimeMs then
    if historical.isEmpty then recent else historical
  else recent

end ShadowRecord

/-! ### The fill -/

/-- A fill and what the resolver keeps of it for the rest of the poll. -/
structure FillFound where
  price : ℚ
  timeMs : ℤ
  intervalStartMs : ℤ
  intervalEndMs : ℤ
  timeResolution : FillTimeResolution
  pathResolution : ShadowPathResolution
  touchBar : Candle
  minutes : List Candle := []
  fillMinuteOpenMs : Option ℤ := none
  stopped : Bool := false

inductive FillScan where
  | waiting
  | dataGap
  | filled (found : FillFound)

section

variable (row : ShadowRecord) (feed : MarketFeed)

def EntryZone.Touches (zone : EntryZone) (candle : Candle) : Prop :=
  candle.low ≤ zone.high ∧ zone.low ≤ candle.high

instance (zone : EntryZone) (candle : Candle) : Decidable (zone.Touches candle) :=
  inferInstanceAs (Decidable (_ ∧ _))

def ShadowRecord.fillPriceAt (openPrice : ℚ) : ℚ :=
  let zone := row.zone
  if row.direction = .long then
    if zone.high ≤ openPrice then zone.high else max zone.low openPrice
  else
    if openPrice ≤ zone.low then zone.low else min zone.high openPrice

def fillByMinute (bar : Candle) : List Candle → Option FillFound
  | [] => none
  | minute :: rest => some {
      price := row.fillPriceAt minute.openPrice
      timeMs := minute.closeTimeMs
      intervalStartMs := minute.openTimeMs
      intervalEndMs := minute.closeTimeMs
      timeResolution := .oneMinuteTouchInterval
      pathResolution := .oneMinuteChronological
      touchBar := bar
      minutes := minute :: rest
      fillMinuteOpenMs := some minute.openTimeMs }

def fillByBar (bar : Candle) : FillFound where
  price := row.fillPriceAt bar.openPrice
  timeMs := bar.closeTimeMs
  intervalStartMs := bar.openTimeMs
  intervalEndMs := bar.closeTimeMs
  timeResolution := .fifteenMinuteFallbackInterval
  pathResolution := .fifteenMinuteStopFirst
  touchBar := bar
  stopped := (row.position 0).touchesStop bar

def fillInPartialBar (bar : Candle) : FillScan :=
  let minutes := feed.minutesOf bar
  let covered (startMs : ℤ) : Bool :=
    (validateTimeCoverage minutes startMs bar.closeTimeMs 60000).complete
  if covered bar.openTimeMs || covered row.signalT then
    let after := minutes.filter fun minute => row.signalT < minute.closeTimeMs
    match fillByMinute row bar (after.dropWhile fun minute =>
      ¬ (row.signalT ≤ minute.openTimeMs ∧ row.zone.Touches minute)) with
    | some found => .filled found
    | none => .waiting
  else .dataGap

def fillInBar (bar : Candle) : FillFound :=
  if (row.position 0).touchesStop bar || (row.position 0).touchesTarget row.tp1 bar then
    let minutes := feed.minutesOf bar
    if (validateTimeCoverage minutes bar.openTimeMs bar.closeTimeMs 60000).complete ∧
        minutes ≠ [] then
      (fillByMinute row bar (minutes.dropWhile fun minute => ¬ row.zone.Touches minute)).getD
        (fillByBar row bar)
    else fillByBar row bar
  else fillByBar row bar

/-- The loop over the bars of the entry window. -/
def scanForFill : List Candle → FillScan
  | [] => .waiting
  | bar :: rest =>
    if bar.openTimeMs < row.signalT then
      match fillInPartialBar row feed bar with
      | .waiting => scanForFill rest
      | ended => ended
    else if row.zone.Touches bar then .filled (fillInBar row feed bar)
    else scanForFill rest

def ShadowRecord.candForFill (raw : List Candle) : List Candle :=
  raw.filter fun candle => row.signalT < candle.closeTimeMs ∧
    candle.openTimeMs < row.entryWindowEnd

def ShadowRecord.fillWith (found : FillFound) : ShadowRecord :=
  row.updateFill {
    fillStatus := .filled
    fillTimeMs := some found.timeMs
    fillPrice := some found.price
    evaluationStartMs := some found.timeMs
    evaluationEndMs := some (found.timeMs + row.evalHorizonMs)
    pathResolution := some found.pathResolution
    fillIntervalStartMs := some found.intervalStartMs
    fillIntervalEndMs := some found.intervalEndMs
    fillTimeResolution := some found.timeResolution }

end

/-! ### Resolutions -/

inductive PollStatus where
  | resolved
  | noFill
  | ineligible
  | legacyIneligible
  | pendingDataGap (reason : CoverageReason)
  | pendingWaitingForFill
  | pendingAwaitingFutureBars
  | pendingUnmatured

structure Resolution where
  row : ShadowRecord
  status : PollStatus
  evaluate : Option (List Candle) := none

def ShadowRecord.gapAt (row : ShadowRecord) (reason : CoverageReason) : Resolution where
  row := row.updateOutcome {
    coverageStatus := some .incomplete
    coverageReason := some reason
    regimeAfter := .pendingDataGap
    resolved := false }
  status := .pendingDataGap reason

def ShadowRecord.excluded (row : ShadowRecord) (reason : RowReason) (regime : RegimeAfter)
    (fillStatus : Option FillStatus) : ShadowRecord :=
  row.updateOutcome {
    futureMfe := some 0
    futureMae := some 0
    netR := some 0
    grossR := some 0
    frictionR := some 0
    terminalReason := some reason
    regimeAfter := regime
    fillStatus := fillStatus }

def ShadowRecord.noFillRow (row : ShadowRecord) : ShadowRecord :=
  row.updateOutcome {
    regimeAfter := .noFill
    terminalReason := some .noFill
    fillStatus := some .noFill
    coverageStatus := some .complete }

/-! ### The exit in the fill bar -/

structure FillBarExit where
  reason : ShadowTerminalReason
  price : ℚ
  timeMs : ℤ
  tp1Hit : Bool
  tp2Hit : Bool
  slHit : Bool
  pathResolution : ShadowPathResolution
  intervalStartMs : Option ℤ
  intervalEndMs : Option ℤ
  timeResolution : Option ExitTimeResolution

structure FillStage where
  price : ℚ
  timeMs : ℤ
  intervalStartMs : ℤ
  intervalEndMs : ℤ
  timeResolution : Option FillTimeResolution
  fillBarCloseMs : ℤ
  mfe : ℚ
  mae : ℚ
  exit : Option FillBarExit := none

section

variable (row : ShadowRecord)

def barStopExit (bar : Candle) : FillBarExit where
  reason := .stop
  price := row.stopLoss
  timeMs := bar.closeTimeMs
  tp1Hit := false
  tp2Hit := false
  slHit := true
  pathResolution := .fifteenMinuteStopFirst
  intervalStartMs := some bar.openTimeMs
  intervalEndMs := some bar.closeTimeMs
  timeResolution := some .fifteenMinuteFallbackInterval

def minuteExit (fillPrice : ℚ) (fillTimeMs : ℤ) (intra : IntrabarPath) : FillBarExit where
  reason := intra.terminalReason.getD .stop
  price := priceOr (intra.exitPrice.getD 0) fillPrice
  timeMs := barOr (intra.exitTimeMs.getD 0) fillTimeMs
  tp1Hit := intra.tp1Hit
  tp2Hit := intra.tp2Hit
  slHit := intra.slHit
  pathResolution := intra.pathResolution
  intervalStartMs := intra.exitIntervalStartMs
  intervalEndMs := intra.exitIntervalEndMs
  timeResolution := some (intra.exitTimeResolution.getD .oneMinuteTerminalInterval)

def foundStage (found : FillFound) : FillStage :=
  let stage : FillStage := {
    price := found.price
    timeMs := found.timeMs
    intervalStartMs := found.intervalStartMs
    intervalEndMs := found.intervalEndMs
    timeResolution := some found.timeResolution
    fillBarCloseMs := found.touchBar.closeTimeMs
    mfe := row.futureMfe.getD 0
    mae := row.futureMae.getD 0 }
  if found.stopped then { stage with exit := some (barStopExit row found.touchBar) }
  else if found.minutes.isEmpty then stage
  else
    let intra := evaluateIntrabarPath (row.position found.price) found.minutes
      { isFillBar := true, fillMinuteOpenMs := found.fillMinuteOpenMs } 0 0
    { stage with
      mfe := intra.mfe
      mae := intra.mae
      exit := if intra.isTerminal then some (minuteExit found.price found.timeMs intra) else none }

/-- The stage of a fill that an earlier poll found. -/
def storedStage (raw : List Candle) : FillStage :=
  let timeMs := row.fillTimeMs.getD 0
  let byMinute := decide (row.pathResolution = some .oneMinuteChronological)
  let stored := row.fillIntervalStartMs.isSome && row.fillIntervalEndMs.isSome
  { price := row.fillPrice.getD 0
    timeMs := timeMs
    intervalStartMs :=
      if stored then row.fillIntervalStartMs.getD 0
      else if byMinute then timeMs - 60000 else timeMs - quarterMs
    intervalEndMs := if stored then row.fillIntervalEndMs.getD 0 else timeMs
    timeResolution :=
      if stored then row.fillTimeResolution
      else if byMinute then some .oneMinuteTouchInterval
      else some .fifteenMinuteFallbackInterval
    fillBarCloseMs := ((raw.find? fun candle =>
      candle.openTimeMs < timeMs ∧ timeMs ≤ candle.closeTimeMs).map Candle.closeTimeMs).getD timeMs
    mfe := row.futureMfe.getD 0
    mae := row.futureMae.getD 0 }

def fillBarRow (config : Option FrictionConfig) (stage : FillStage) (exit : FillBarExit) :
    ShadowRecord :=
  let risk := (row.position stage.price).riskDist
  let grossR := (if row.direction = .long then exit.price - stage.price
    else stage.price - exit.price) / risk
  let frictionR := (computeTradeFrictionR stage.price exit.price risk config).2
  row.updateOutcome {
    futureMfe := some (roundTo 2 stage.mfe)
    futureMae := some (roundTo 2 stage.mae)
    tp1Hit := exit.tp1Hit
    tp2Hit := exit.tp2Hit
    slHit := exit.slHit
    timeToTargetMs := if exit.tp1Hit then some exit.timeMs else none
    timeToStopMs := if exit.slHit then some exit.timeMs else none
    grossR := some (roundTo 4 grossR)
    frictionR := some (roundTo 4 frictionR)
    netR := some (roundTo 4 (grossR - frictionR))
    pathResolution := some exit.pathResolution
    regimeAfter := .resolvedTerminal
    terminalReason := some (.exit exit.reason)
    exitPrice := some exit.price
    exitTimeMs := some exit.timeMs
    coverageStatus := some .complete
    fillIntervalStartMs := some stage.intervalStartMs
    fillIntervalEndMs := some stage.intervalEndMs
    fillTimeResolution := stage.timeResolution
    exitIntervalStartMs := exit.intervalStartMs
    exitIntervalEndMs := exit.intervalEndMs
    exitTimeResolution := exit.timeResolution }

/-! ### The bars after the fill -/

/-- The bars after the fill and what the forward evaluation makes of them. -/
structure ForwardReport where
  bars : List Candle
  outcome : Option ForwardOutcome

def ForwardReport.isTerminal (report : ForwardReport) : Bool :=
  report.outcome.elim false fun outcome => outcome.isTerminal

def laterBars (candles : List Candle) (fillBarCloseMs targetMs : ℤ) : List Candle :=
  candles.filter fun candle => fillBarCloseMs < candle.closeTimeMs ∧
    candle.closeTimeMs ≤ targetMs

def ShadowRecord.minuteSource (feed : MarketFeed) : MinuteSource where
  fetchHistorical := if row.symbol = "" then none else some (feed.historicalKlines "1m")

def reportOn (poll : Poll) (stage : FillStage) (bars : List Candle) : ForwardReport where
  bars := bars
  outcome := evaluateForwardOutcomes (row.position stage.price) bars poll.config
    (row.minuteSource poll.feed) stage.mfe stage.mae

/-- The report on the bars at hand, and on those fetched where these do not suffice. -/
def forwardReport (poll : Poll) (stage : FillStage) (raw : List Candle) (targetMs : ℤ) :
    ForwardReport :=
  let first := reportOn row poll stage (laterBars raw stage.fillBarCloseMs targetMs)
  if ¬ first.isTerminal ∧ (∀ last ∈ first.bars.getLast?, last.closeTimeMs < targetMs) ∧
      stage.fillBarCloseMs < targetMs then
    let more := poll.feed.historicalKlines "15m" stage.fillBarCloseMs targetMs
    let bars := laterBars more stage.fillBarCloseMs targetMs
    if more.isEmpty then first
    else if bars.isEmpty then ⟨[], first.outcome⟩
    else reportOn row poll stage bars
  else first

/-- The row of a trade that ended after its fill bar. -/
def terminalRow (stage : FillStage) (outcome : ForwardOutcome) : ShadowRecord :=
  row.updateOutcome {
    futureMfe := some outcome.futureMfe
    futureMae := some outcome.futureMae
    tp1Hit := outcome.tp1Hit
    tp2Hit := outcome.tp2Hit
    slHit := outcome.slHit
    timeToTargetMs := outcome.timeToTargetMs
    timeToStopMs := outcome.timeToStopMs
    grossR := some outcome.grossR
    frictionR := some outcome.frictionR
    netR := some outcome.netR
    pathResolution := some outcome.pathResolution
    regimeAfter := .resolvedTerminal
    terminalReason := some (.exit outcome.terminalReason)
    exitPrice := some outcome.exitPrice
    exitTimeMs := some outcome.exitTimeMs
    coverageStatus := some .complete
    fillIntervalStartMs := some stage.intervalStartMs
    fillIntervalEndMs := some stage.intervalEndMs
    fillTimeResolution := stage.timeResolution
    exitIntervalStartMs := outcome.exitIntervalStartMs
    exitIntervalEndMs := outcome.exitIntervalEndMs
    exitTimeResolution := outcome.exitTimeResolution }

/-- The row of a trade that reached its horizon. -/
def timeoutRow (stage : FillStage) (evalEndMs : ℤ) (outcome : Option ForwardOutcome) :
    ShadowRecord :=
  row.updateOutcome {
    futureMfe := outcome.map fun report => report.futureMfe
    futureMae := outcome.map fun report => report.futureMae
    tp2Hit := outcome.elim false fun report => report.tp2Hit
    grossR := outcome.map fun report => report.grossR
    frictionR := outcome.map fun report => report.frictionR
    netR := outcome.map fun report => report.netR
    pathResolution := outcome.map fun report => report.pathResolution
    regimeAfter := .resolvedMatured
    terminalReason := some (.exit .timeout)
    exitPrice := outcome.map fun report => report.exitPrice
    exitTimeMs := some evalEndMs
    coverageStatus := some .complete
    fillIntervalStartMs := some stage.intervalStartMs
    fillIntervalEndMs := some stage.intervalEndMs
    fillTimeResolution := stage.timeResolution
    exitIntervalStartMs := some evalEndMs
    exitIntervalEndMs := some evalEndMs
    exitTimeResolution := some .horizonTimeoutBoundary }

def resolveFilled (poll : Poll) (raw : List Candle) (stage : FillStage) : Resolution :=
  let evalEndMs := barOr (row.evaluationEndMs.getD 0) (stage.timeMs + row.evalHorizonMs)
  match stage.exit with
  | some exit => ⟨fillBarRow row poll.config stage exit, .resolved, some raw⟩
  | none =>
    let report := forwardReport row poll stage raw (min poll.currentTimeMs evalEndMs)
    if report.bars.isEmpty then { row := row, status := .pendingAwaitingFutureBars }
    else
      match report.outcome.filter fun outcome => outcome.isTerminal with
      | some outcome => ⟨terminalRow row stage outcome, .resolved, some raw⟩
      | none =>
        if poll.currentTimeMs < evalEndMs then { row := row, status := .pendingUnmatured }
        else if (validateTimeCoverage report.bars stage.fillBarCloseMs evalEndMs
            quarterMs).complete then
          ⟨timeoutRow row stage evalEndMs report.outcome, .resolved, some raw⟩
        else row.gapAt .outcomeWindowDataGap

def resolveWaiting (poll : Poll) (raw : List Candle) : Resolution :=
  let candidates := row.candForFill raw
  match scanForFill row poll.feed candidates with
  | .dataGap => row.gapAt .partialSignalBarDataGap
  | .filled found => resolveFilled (row.fillWith found) poll raw (foundStage row found)
  | .waiting =>
    if poll.currentTimeMs < row.entryWindowEnd then
      { row := row, status := .pendingWaitingForFill }
    else if (validateTimeCoverage candidates row.signalT row.entryWindowEnd quarterMs).complete then
      ⟨row.noFillRow, .noFill, some candidates⟩
    else row.gapAt .entryWindowDataGap

/-- One pass of the loop of `resolve_pending_observations`. -/
def resolvePending (poll : Poll) : Resolution :=
  if row.IsLegacy then
    { row := row.excluded .legacyIneligible .legacyIneligible (some .legacy)
      status := .legacyIneligible }
  else if row.direction = .wait ∨ row.observationType ≠ .actionableTriggered ∨
      (row.zoneBounds.low ≤ 0 ∧ row.zoneBounds.high ≤ 0) then
    { row := row.excluded .ineligible .ineligible none, status := .ineligible }
  else
    let raw := row.rawCandles poll
    if row.fillStatus = .waitingForFill then resolveWaiting row poll raw
    else resolveFilled row poll raw (storedStage row raw)

end

/-! ### Evaluations of resolved rows -/

section

variable (computeEvaluationId : ShadowEvaluation → String)
  (evidence : String → Option FeatureEvidence)

/-- `_materialize_and_save_shadow_evaluation`, up to the evaluation that is saved. -/
def materialize (feed : MarketFeed) (row : ShadowRecord) (candles15m : List Candle) :
    Option (Except SealFault SealedEvaluation) :=
  if row.featureEvidenceId.getD "" = "" ∨ row.observationType ≠ .actionableTriggered ∨
      row.evaluationProfileVersion ≠ some directionalOutcomeProfileVersion then none
  else
    match row.featureEvidenceId.bind evidence with
    | none => none
    | some found =>
      let fetched := if row.fillStatus = .filled then
          row.fillTimeMs.map fun fillTime =>
            feed.fundingRateHistory (fillTime - 8 * 3600 * 1000)
              (barOr (row.exitTimeMs.getD 0) (barOr (row.evaluationEndMs.getD 0) fillTime) +
                8 * 3600 * 1000)
        else none
      some (buildTacticalShadowEvaluation row found computeEvaluationId candles15m fetched.join
        (fetched = some none))

structure ShadowCase where
  row : ShadowRecord
  sealing : Option (Except SealFault SealedEvaluation) := none

def ShadowCase.poll (case : ShadowCase) (poll : Poll) : ShadowCase :=
  if case.row.resolved then case
  else
    let resolution := resolvePending case.row poll
    match resolution.evaluate with
    | none => { case with row := resolution.row }
    | some candles15m =>
      ⟨resolution.row, materialize computeEvaluationId evidence poll.feed resolution.row candles15m⟩

def runPolls (row : ShadowRecord) (polls : List Poll) : ShadowCase :=
  polls.foldl (ShadowCase.poll computeEvaluationId evidence) { row := row }

end

end QuantAgent.MarketWatch.Shadow
