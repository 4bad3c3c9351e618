/-
This file embeds the forward evaluation of a filled shadow trade: the walk through the one-minute
candles of a bar, and the scan of the fifteen-minute bars after the fill.

A bar that reaches the stop or the first target is resolved by its minutes as soon as there is
one, and only without any by the bar itself. Minutes that miss the touch leave the trade running.
-/

import QuantAgent.Candle
import QuantAgent.MarketWatch.SignalScans

namespace QuantAgent.MarketWatch

/-! ### The taxonomy -/

inductive ShadowPathResolution where
  | oneMinuteChronological
  | fifteenMinuteStopFirst
  | oneMinuteFillBarStopFirst
  deriving DecidableEq

inductive ShadowTerminalReason where
  | stop
  | tp1
  | timeout
  deriving DecidableEq

inductive ExitTimeResolution where
  | oneMinuteTerminalInterval
  | fifteenMinuteFallbackInterval
  | horizonTimeoutBoundary
  deriving DecidableEq

/-- The trade that is followed. -/
structure ShadowPosition where
  direction : DirectionalDecision
  entryPrice : ℚ
  stopLoss : ℚ
  tp1 : ℚ
  tp2 : ℚ

namespace ShadowPosition

def riskDist (position : ShadowPosition) : ℚ :=
  if 0 < position.stopLoss ∧ position.entryPrice ≠ position.stopLoss then
    |position.entryPrice - position.stopLoss|
  else 1

/-- The excursion in favour of the trade; every direction but long is read as short. -/
def favorable (position : ShadowPosition) (candle : Candle) : ℚ :=
  if position.direction = .long then candle.high - position.entryPrice
  else position.entryPrice - candle.low

def adverse (position : ShadowPosition) (candle : Candle) : ℚ :=
  if position.direction = .long then position.entryPrice - candle.low
  else candle.high - position.entryPrice

def touchesStop (position : ShadowPosition) (candle : Candle) : Bool :=
  if position.direction = .long then candle.low ≤ position.stopLoss
  else position.stopLoss ≤ candle.high

def touchesTarget (position : ShadowPosition) (target : ℚ) (candle : Candle) : Bool :=
  if position.direction = .long then target ≤ candle.high else candle.low ≤ target

def targetDist (position : ShadowPosition) : ℚ :=
  (if position.direction = .long then position.tp1 - position.entryPrice
    else position.entryPrice - position.tp1) / position.riskDist

end ShadowPosition

/-! ### The walk through the minutes of a bar -/

/-- The variables of `evaluate_intrabar_path`, and what it returns. -/
structure IntrabarPath where
  isTerminal : Bool := false
  terminalReason : Option ShadowTerminalReason := none
  exitPrice : Option ℚ := none
  exitTimeMs : Option Int := none
  exitIntervalStartMs : Option Int := none
  exitIntervalEndMs : Option Int := none
  exitTimeResolution : Option ExitTimeResolution := none
  tp1Hit : Bool := false
  tp2Hit : Bool := false
  slHit : Bool := false
  mfe : ℚ
  mae : ℚ
  pathResolution : ShadowPathResolution := .oneMinuteChronological

structure FillBar where
  isFillBar : Bool := false
  fillMinuteOpenMs : Option Int := none
  startAfterMs : Int := 0

def FillBar.isFillMinute (fill : FillBar) (minute : Candle) : Bool :=
  fill.isFillBar && match fill.fillMinuteOpenMs with
    | some openMs => minute.openTimeMs = openMs
    | none => fill.startAfterMs < minute.closeTimeMs

def IntrabarPath.exitAt (path : IntrabarPath) (minute : Candle)
    (reason : ShadowTerminalReason) (price : ℚ) : IntrabarPath :=
  { path with
    isTerminal := true
    terminalReason := some reason
    exitPrice := some price
    exitTimeMs := some minute.closeTimeMs
    exitIntervalStartMs := some minute.openTimeMs
    exitIntervalEndMs := some minute.closeTimeMs
    exitTimeResolution := some .oneMinuteTerminalInterval }

def laterMinute (position : ShadowPosition) (path : IntrabarPath) (minute : Candle) :
    IntrabarPath :=
  let stop := position.touchesStop minute
  let first := position.touchesTarget position.tp1 minute
  let second := position.touchesTarget position.tp2 minute
  let favorable := position.favorable minute / position.riskDist
  let adverse := position.adverse minute / position.riskDist
  if stop && (first || second) then
    { path.exitAt minute .stop position.stopLoss with
      slHit := true
      pathResolution := .fifteenMinuteStopFirst
      mae := max path.mae 1 }
  else if first && !stop then
    let mfe := max path.mfe position.targetDist
    { path.exitAt minute .tp1 position.tp1 with
      tp1Hit := true
      tp2Hit := path.tp2Hit || second
      pathResolution := .oneMinuteChronological
      mfe := if second then max mfe favorable else mfe
      mae := max path.mae adverse }
  else if stop && !first then
    { path.exitAt minute .stop position.stopLoss with
      slHit := true
      pathResolution := .oneMinuteChronological
      mae := max path.mae 1
      mfe := max path.mfe favorable }
  else
    { path with
      mfe := max path.mfe favorable
      mae := max path.mae adverse
      tp2Hit := path.tp2Hit || second }

def fillMinute (position : ShadowPosition) (path : IntrabarPath) (minute : Candle) :
    IntrabarPath :=
  if position.touchesStop minute then
    { path.exitAt minute .stop position.stopLoss with
      slHit := true
      pathResolution := .oneMinuteFillBarStopFirst
      mae := max path.mae 1 }
  else
    { path with
      mae := max path.mae (position.adverse minute / position.riskDist)
      mfe := max path.mfe (position.favorable minute / position.riskDist)
      tp2Hit := path.tp2Hit || position.touchesTarget position.tp2 minute }

/-- The loop over the minutes in order, up to the first terminal one. -/
def walkMinutes (position : ShadowPosition) (fill : FillBar) :
    IntrabarPath → List Candle → IntrabarPath
  | path, [] => path
  | path, minute :: rest =>
    if minute.closeTimeMs ≤ fill.startAfterMs then walkMinutes position fill path rest
    else
      let next :=
        if fill.isFillMinute minute then fillMinute position path minute
        else laterMinute position path minute
      if next.isTerminal then next else walkMinutes position fill next rest

/-- Chronologically evaluate intrabar 1m candles for target/stop/excursions. -/
def evaluateIntrabarPath (position : ShadowPosition) (minutes : List Candle) (fill : FillBar)
    (prevMfe prevMae : ℚ) : IntrabarPath :=
  let ordered := minutes.insertionSort fun first second => first.openTimeMs ≤ second.openTimeMs
  let path := walkMinutes position fill { mfe := prevMfe, mae := prevMae } ordered
  { path with mfe := roundTo 2 path.mfe, mae := roundTo 2 path.mae }

/-! ### The scan of the bars -/

/-- The two rates of the configuration. -/
structure FrictionConfig where
  takerFeeRate : ℚ := 5 / 10000
  slippageBpsPerSide : ℚ := 2

def computeTradeFrictionR (fillPrice exitPrice initialRisk : ℚ) (config : Option FrictionConfig) :
    ℚ × ℚ :=
  match config with
  | none => (0, 0)
  | some rates =>
    let risk := if initialRisk ≤ 0 then 1 else initialRisk
    let perSide := rates.takerFeeRate + rates.slippageBpsPerSide / 10000
    let dollars := fillPrice * perSide + exitPrice * perSide
    (roundTo 4 dollars, roundTo 4 (dollars / risk))

/-- Where the minutes of a bar come from: the candles passed in, and the exchange when a client
and a symbol are given. -/
structure MinuteSource where
  intrabar1mCandles : List Candle := []
  fetchHistorical : Option (Int → Int → List Candle) := none

/-- `span_1m` of a bar. -/
def MinuteSource.spanOf (source : MinuteSource) (bar : Candle) (ambiguous : Bool) :
    List Candle :=
  let span := source.intrabar1mCandles.filter fun minute =>
    bar.openTimeMs < minute.closeTimeMs ∧ minute.closeTimeMs ≤ bar.closeTimeMs
  if span.isEmpty && ambiguous then
    match source.fetchHistorical with
    | some fetch => (fetch bar.openTimeMs bar.closeTimeMs).filter fun minute =>
        minute.interval = "1m"
    | none => span
  else span

/-- The variables of `evaluate_forward_outcomes` that the bars update. -/
structure ForwardScan where
  isTerminal : Bool := false
  tp1Hit : Bool := false
  tp2Hit : Bool := false
  slHit : Bool := false
  timeToTargetMs : Option Int := none
  timeToStopMs : Option Int := none
  mfe : ℚ
  mae : ℚ
  pathResolution : ShadowPathResolution := .fifteenMinuteStopFirst
  terminalReason : ShadowTerminalReason := .timeout
  exitPrice : ℚ
  exitTimeMs : Int
  exitIntervalStartMs : Option Int := none
  exitIntervalEndMs : Option Int := none
  exitTimeResolution : Option ExitTimeResolution := none

/-- Whether the direction is traded; a wait touches nothing. -/
def ShadowPosition.isTraded (position : ShadowPosition) : Bool :=
  position.direction = .long ∨ position.direction = .short

def ShadowPosition.barStop (position : ShadowPosition) (bar : Candle) : Bool :=
  position.isTraded && position.touchesStop bar

def ShadowPosition.barTarget (position : ShadowPosition) (target : ℚ) (bar : Candle) : Bool :=
  position.isTraded && position.touchesTarget target bar

def ShadowPosition.barAmbiguous (position : ShadowPosition) (bar : Candle) : Bool :=
  position.barStop bar &&
    (position.barTarget position.tp1 bar || position.barTarget position.tp2 bar)

def scanMinutes (position : ShadowPosition) (scan : ForwardScan) (bar : Candle)
    (minutes : List Candle) : ForwardScan :=
  let intra := evaluateIntrabarPath position minutes {} scan.mfe scan.mae
  if intra.isTerminal then
    let exitTimeMs := intra.exitTimeMs.getD bar.closeTimeMs
    { isTerminal := true
      tp1Hit := intra.tp1Hit
      tp2Hit := intra.tp2Hit
      slHit := intra.slHit
      timeToTargetMs := if intra.tp1Hit then some exitTimeMs else scan.timeToTargetMs
      timeToStopMs := if intra.slHit then some exitTimeMs else scan.timeToStopMs
      mfe := intra.mfe
      mae := intra.mae
      pathResolution := intra.pathResolution
      terminalReason := intra.terminalReason.getD .timeout
      exitPrice := intra.exitPrice.getD (if intra.slHit then position.stopLoss else position.tp1)
      exitTimeMs := exitTimeMs
      exitIntervalStartMs := intra.exitIntervalStartMs
      exitIntervalEndMs := intra.exitIntervalEndMs
      exitTimeResolution :=
        some (intra.exitTimeResolution.getD .oneMinuteTerminalInterval) }
  else
    { scan with
      mfe := intra.mfe
      mae := intra.mae
      tp2Hit := scan.tp2Hit || intra.tp2Hit }

def scanFallback (position : ShadowPosition) (scan : ForwardScan) (bar : Candle) : ForwardScan :=
  if position.barStop bar then
    { scan with
      isTerminal := true
      slHit := true
      timeToStopMs := some bar.closeTimeMs
      exitPrice := position.stopLoss
      exitTimeMs := bar.closeTimeMs
      exitIntervalStartMs := some bar.openTimeMs
      exitIntervalEndMs := some bar.closeTimeMs
      exitTimeResolution := some .fifteenMinuteFallbackInterval
      terminalReason := .stop
      pathResolution := .fifteenMinuteStopFirst
      mae := max scan.mae 1 }
  else
    { scan with
      isTerminal := true
      tp1Hit := true
      tp2Hit := scan.tp2Hit || position.barTarget position.tp2 bar
      timeToTargetMs := some bar.closeTimeMs
      exitPrice := position.tp1
      exitTimeMs := bar.closeTimeMs
      exitIntervalStartMs := some bar.openTimeMs
      exitIntervalEndMs := some bar.closeTimeMs
      exitTimeResolution := some .fifteenMinuteFallbackInterval
      terminalReason := .tp1
      pathResolution := .fifteenMinuteStopFirst
      mfe := max scan.mfe position.targetDist
      mae := max scan.mae (position.adverse bar / position.riskDist) }

def scanBar (position : ShadowPosition) (source : MinuteSource) (scan : ForwardScan)
    (bar : Candle) : ForwardScan :=
  let stop := position.barStop bar
  let first := position.barTarget position.tp1 bar
  if stop || first then
    let minutes := source.spanOf bar (position.barAmbiguous bar)
    if minutes.isEmpty then scanFallback position scan bar
    else scanMinutes position scan bar minutes
  else if position.isTraded then
    { scan with
      mfe := max scan.mfe (position.favorable bar / position.riskDist)
      mae := max scan.mae (position.adverse bar / position.riskDist)
      tp2Hit := scan.tp2Hit || position.barTarget position.tp2 bar }
  else
    { scan with mfe := max scan.mfe 0, mae := max scan.mae 0 }

def scanBars (position : ShadowPosition) (source : MinuteSource) :
    ForwardScan → List Candle → ForwardScan
  | scan, [] => scan
  | scan, bar :: rest =>
    let next := scanBar position source scan bar
    if next.isTerminal then next else scanBars position source next rest

/-- What `evaluate_forward_outcomes` returns. -/
structure ForwardOutcome where
  futureMfe : ℚ
  futureMae : ℚ
  tp1Hit : Bool
  tp2Hit : Bool
  slHit : Bool
  timeToTargetMs : Option Int
  timeToStopMs : Option Int
  grossR : ℚ
  frictionR : ℚ
  netR : ℚ
  pathResolution : ShadowPathResolution
  terminalReason : ShadowTerminalReason
  exitPrice : ℚ
  exitTimeMs : Int
  exitIntervalStartMs : Option Int
  exitIntervalEndMs : Option Int
  exitTimeResolution : Option ExitTimeResolution
  isTerminal : Bool
  deriving DecidableEq

/-- The result of a finished scan whose last bar is given. -/
def forwardOutcome (position : ShadowPosition) (config : Option FrictionConfig)
    (scan : ForwardScan) (last : Candle) : ForwardOutcome :=
  let exitPrice := if scan.isTerminal then scan.exitPrice else last.close
  let grossR :=
    match position.direction with
    | .long => (exitPrice - position.entryPrice) / position.riskDist
    | .short => (position.entryPrice - exitPrice) / position.riskDist
    | .wait => 0
  let frictionR :=
    (computeTradeFrictionR position.entryPrice exitPrice position.riskDist config).2
  { futureMfe := roundTo 2 scan.mfe
    futureMae := roundTo 2 scan.mae
    tp1Hit := scan.tp1Hit
    tp2Hit := scan.tp2Hit
    slHit := scan.slHit
    timeToTargetMs := scan.timeToTargetMs
    timeToStopMs := scan.timeToStopMs
    grossR := roundTo 4 grossR
    frictionR := roundTo 4 frictionR
    netR := roundTo 4 (grossR - frictionR)
    pathResolution := scan.pathResolution
    terminalReason := if scan.isTerminal then scan.terminalReason else .timeout
    exitPrice := exitPrice
    exitTimeMs := if scan.isTerminal then scan.exitTimeMs else last.closeTimeMs
    exitIntervalStartMs :=
      if scan.isTerminal then scan.exitIntervalStartMs else some last.closeTimeMs
    exitIntervalEndMs := if scan.isTerminal then scan.exitIntervalEndMs else some last.closeTimeMs
    exitTimeResolution :=
      if scan.isTerminal then scan.exitTimeResolution else some .horizonTimeoutBoundary
    isTerminal := scan.isTerminal }

/-- Compute post-facto execution excursions strictly from subsequent candles; nothing without
candles or an entry price. -/
def evaluateForwardOutcomes (position : ShadowPosition) (futureCandles : List Candle)
    (config : Option FrictionConfig) (source : MinuteSource) (prevMfe prevMae : ℚ) :
    Option ForwardOutcome :=
  match futureCandles.getLast? with
  | none => none
  | some last =>
    if position.entryPrice ≤ 0 then none
    else
      let start : ForwardScan := {
        mfe := prevMfe
        mae := prevMae
        exitPrice := last.close
        exitTimeMs := last.closeTimeMs }
      some (forwardOutcome position config (scanBars position source start futureCandles) last)

/-! ### What ends a walk -/

section Walk

variable (position : ShadowPosition)

def ShadowPosition.minuteEnds (minute : Candle) : Bool :=
  position.touchesStop minute || position.touchesTarget position.tp1 minute

theorem laterMinute_isTerminal {path : IntrabarPath} (running : path.isTerminal = false)
    (minute : Candle) :
    (laterMinute position path minute).isTerminal = position.minuteEnds minute := by
  unfold laterMinute ShadowPosition.minuteEnds
  cases position.touchesStop minute <;>
    cases position.touchesTarget position.tp1 minute <;>
    cases position.touchesTarget position.tp2 minute <;> simp [IntrabarPath.exitAt, running]

theorem walkMinutes_isTerminal (minutes : List Candle) {path : IntrabarPath}
    (running : path.isTerminal = false) :
    (walkMinutes position {} path minutes).isTerminal = true ↔
      ∃ minute ∈ minutes, 0 < minute.closeTimeMs ∧ position.minuteEnds minute := by
  induction minutes generalizing path with
  | nil => simp [walkMinutes, running]
  | cons minute rest inductionHypothesis =>
    have ordinary : ({} : FillBar).isFillMinute minute = false := rfl
    unfold walkMinutes
    rw [List.exists_mem_cons_iff]
    by_cases early : minute.closeTimeMs ≤ 0
    · rw [if_pos early, inductionHypothesis running]
      exact ⟨Or.inr, fun found => found.resolve_left fun now => absurd now.1 (not_lt.mpr early)⟩
    · rw [if_neg early, ordinary]
      simp only [Bool.false_eq_true, if_false, laterMinute_isTerminal position running]
      by_cases ends : position.minuteEnds minute = true
      · rw [if_pos ends, laterMinute_isTerminal position running]
        exact ⟨fun _ => Or.inl ⟨not_le.mp early, ends⟩, fun _ => ends⟩
      · rw [if_neg ends, inductionHypothesis
          ((laterMinute_isTerminal position running minute).trans (Bool.eq_false_iff.mpr ends))]
        exact ⟨Or.inr, fun found => found.resolve_left fun now => ends now.2⟩

theorem evaluateIntrabarPath_isTerminal (minutes : List Candle) (prevMfe prevMae : ℚ) :
    (evaluateIntrabarPath position minutes {} prevMfe prevMae).isTerminal = true ↔
      ∃ minute ∈ minutes, 0 < minute.closeTimeMs ∧ position.minuteEnds minute := by
  unfold evaluateIntrabarPath
  dsimp only
  rw [walkMinutes_isTerminal position _ rfl]
  simp only [List.mem_insertionSort]

end Walk

/-! ### What ends a scan -/

section Scan

variable (position : ShadowPosition) (source : MinuteSource)

def BarEnds (bar : Candle) : Prop :=
  (position.barStop bar || position.barTarget position.tp1 bar) = true ∧
    let minutes := source.spanOf bar (position.barAmbiguous bar)
    minutes = [] ∨ ∃ minute ∈ minutes, 0 < minute.closeTimeMs ∧ position.minuteEnds minute

theorem scanFallback_isTerminal (scan : ForwardScan) (bar : Candle) :
    (scanFallback position scan bar).isTerminal = true := by
  unfold scanFallback
  split_ifs <;> rfl

variable {scan : ForwardScan}

theorem scanMinutes_isTerminal (running : scan.isTerminal = false) (bar : Candle)
    (minutes : List Candle) :
    (scanMinutes position scan bar minutes).isTerminal =
      (evaluateIntrabarPath position minutes {} scan.mfe scan.mae).isTerminal := by
  unfold scanMinutes
  dsimp only
  by_cases ended :
      (evaluateIntrabarPath position minutes {} scan.mfe scan.mae).isTerminal = true
  · rw [if_pos ended, ended]
  · rw [if_neg ended, Bool.eq_false_iff.mpr ended]
    exact running

theorem scanBar_isTerminal (running : scan.isTerminal = false) (bar : Candle) :
    (scanBar position source scan bar).isTerminal = true ↔ BarEnds position source bar := by
  unfold scanBar BarEnds
  dsimp only
  by_cases reached : (position.barStop bar || position.barTarget position.tp1 bar) = true
  · rw [if_pos reached]
    generalize source.spanOf bar (position.barAmbiguous bar) = minutes
    cases minutes with
    | nil =>
      rw [if_pos List.isEmpty_nil, scanFallback_isTerminal]
      exact ⟨fun _ => ⟨reached, Or.inl rfl⟩, fun _ => rfl⟩
    | cons first rest =>
      rw [if_neg (by simp), scanMinutes_isTerminal position running,
        evaluateIntrabarPath_isTerminal]
      exact ⟨fun found => ⟨reached, Or.inr found⟩,
        fun ends => ends.2.resolve_left (List.cons_ne_nil _ _)⟩
  · rw [if_neg reached]
    refine ⟨fun ended => ?_, fun ends => absurd ends.1 reached⟩
    split_ifs at ended <;> exact absurd (running.symm.trans ended) Bool.false_ne_true

theorem scanBars_append (before after : List Candle)
    (ended : (scanBars position source scan before).isTerminal = true)
    (running : scan.isTerminal = false) :
    scanBars position source scan (before ++ after) = scanBars position source scan before := by
  induction before generalizing scan with
  | nil => exact absurd (running.symm.trans ended) Bool.false_ne_true
  | cons bar rest inductionHypothesis =>
    rw [List.cons_append]
    unfold scanBars at ended ⊢
    dsimp only at ended ⊢
    split_ifs with stops
    · rfl
    · rw [if_neg stops] at ended
      exact inductionHypothesis ended (Bool.eq_false_iff.mpr stops)

theorem scanBars_isTerminal (bars : List Candle) (running : scan.isTerminal = false) :
    (scanBars position source scan bars).isTerminal = true ↔
      ∃ bar ∈ bars, BarEnds position source bar := by
  induction bars generalizing scan with
  | nil => simp [scanBars, running]
  | cons bar rest inductionHypothesis =>
    unfold scanBars
    dsimp only
    rw [List.exists_mem_cons_iff, ← scanBar_isTerminal position source running bar]
    by_cases stops : (scanBar position source scan bar).isTerminal = true
    · rw [if_pos stops]
      exact ⟨Or.inl, fun _ => stops⟩
    · rw [if_neg stops, inductionHypothesis (Bool.eq_false_iff.mpr stops)]
      exact ⟨Or.inr, fun found => found.resolve_left stops⟩

/-- The exit a scan starts with is replaced by the bar that ends it. -/
def ForwardScan.withExit (scan : ForwardScan) (exitPrice : ℚ) (exitTimeMs : Int) : ForwardScan :=
  { scan with exitPrice := exitPrice, exitTimeMs := exitTimeMs }

theorem scanBar_withExit (running : scan.isTerminal = false) (exitPrice : ℚ) (exitTimeMs : Int)
    (bar : Candle) :
    scanBar position source (scan.withExit exitPrice exitTimeMs) bar =
      if (scanBar position source scan bar).isTerminal then scanBar position source scan bar
      else (scanBar position source scan bar).withExit exitPrice exitTimeMs := by
  unfold scanBar scanFallback scanMinutes ForwardScan.withExit
  dsimp only
  split_ifs <;> first | rfl | simp_all

theorem scanBars_withExit {bars : List Candle} (running : scan.isTerminal = false)
    (ended : (scanBars position source scan bars).isTerminal = true) (exitPrice : ℚ)
    (exitTimeMs : Int) :
    scanBars position source (scan.withExit exitPrice exitTimeMs) bars =
      scanBars position source scan bars := by
  induction bars generalizing scan with
  | nil => exact absurd (running.symm.trans ended) Bool.false_ne_true
  | cons bar rest inductionHypothesis =>
    unfold scanBars at ended ⊢
    dsimp only at ended ⊢
    rw [scanBar_withExit position source running]
    by_cases stops : (scanBar position source scan bar).isTerminal = true
    · rw [if_pos stops, if_pos stops]
    · rw [if_neg stops] at ended
      rw [if_neg stops, if_neg stops]
      have flag : ((scanBar position source scan bar).withExit exitPrice exitTimeMs).isTerminal =
          (scanBar position source scan bar).isTerminal := rfl
      rw [flag, if_neg stops]
      exact inductionHypothesis (Bool.eq_false_iff.mpr stops) ended

end Scan

/-! ### Stops in forward outcomes -/

/-- The bar after `before` is where the trade has ended at the latest: the report is terminal,
and the bars up to it alone give the same report. -/
def TerminalBy (report : List Candle → Option ForwardOutcome) (before : List Candle)
    (bar : Candle) (after : List Candle) : Prop :=
  ∃ outcome, report (before ++ bar :: after) = some outcome ∧ outcome.isTerminal = true ∧
    report (before ++ [bar]) = some outcome

theorem report_isTerminal_iff (position : ShadowPosition) (config : Option FrictionConfig)
    (source : MinuteSource) (prevMfe prevMae : ℚ) (bars : List Candle) :
    (∃ outcome, evaluateForwardOutcomes position bars config source prevMfe prevMae =
        some outcome ∧ outcome.isTerminal = true) ↔
      0 < position.entryPrice ∧ ∃ bar ∈ bars, BarEnds position source bar := by
  unfold evaluateForwardOutcomes
  cases last : bars.getLast? with
  | none =>
    rw [List.getLast?_eq_none_iff.mp last]
    simp
  | some final =>
    by_cases priceless : position.entryPrice ≤ 0
    · simp [priceless]
    · simp only [priceless, if_false, Option.some.injEq, exists_eq_left', not_le.mp priceless,
        true_and]
      exact scanBars_isTerminal position source bars rfl

theorem report_append (position : ShadowPosition) (config : Option FrictionConfig)
    (source : MinuteSource) (prevMfe prevMae : ℚ) {before : List Candle} (after : List Candle)
    (ends : ∃ bar ∈ before, BarEnds position source bar) :
    evaluateForwardOutcomes position (before ++ after) config source prevMfe prevMae =
      evaluateForwardOutcomes position before config source prevMfe prevMae := by
  have given : before ≠ [] := fun empty => by simp [empty] at ends
  obtain ⟨final, last⟩ : ∃ final, before.getLast? = some final :=
    ⟨_, List.getLast?_eq_some_getLast given⟩
  obtain ⟨wholeFinal, wholeLast⟩ : ∃ final, (before ++ after).getLast? = some final :=
    ⟨_, List.getLast?_eq_some_getLast (List.append_ne_nil_of_left_ne_nil given after)⟩
  unfold evaluateForwardOutcomes
  rw [last, wholeLast]
  dsimp only
  split_ifs
  · rfl
  · set start : ForwardScan := {
      mfe := prevMfe
      mae := prevMae
      exitPrice := final.close
      exitTimeMs := final.closeTimeMs } with started
    have running : start.isTerminal = false := rfl
    have ended := (scanBars_isTerminal position source before running).mpr ends
    have whole : scanBars position source (start.withExit wholeFinal.close
        wholeFinal.closeTimeMs) (before ++ after) = scanBars position source start before := by
      rw [scanBars_withExit position source rfl
        ((scanBars_append position source before after ended rfl).symm ▸ ended)]
      exact scanBars_append position source before after ended rfl
    have same : forwardOutcome position config (scanBars position source start before)
        wholeFinal = forwardOutcome position config (scanBars position source start before)
          final := by
      unfold forwardOutcome
      simp only [ended, if_true]
    exact congrArg some ((congrArg (fun scan => forwardOutcome position config scan wholeFinal)
      whole).trans same)

/-- Every bar that touches the stop is where the trade has ended at the latest exactly when each
such bar, or one before it, reaches the stop or the first target and, if minutes are at hand for
it, in one of them. -/
theorem stops_never_skipped_iff (position : ShadowPosition) (bars : List Candle)
    (config : Option FrictionConfig) (source : MinuteSource) (prevMfe prevMae : ℚ) :
    (∀ before bar after, bars = before ++ bar :: after → position.barStop bar = true →
        TerminalBy (fun given => evaluateForwardOutcomes position given config source prevMfe
          prevMae) before bar after) ↔
      ∀ before bar after, bars = before ++ bar :: after → position.barStop bar = true →
        0 < position.entryPrice ∧ ∃ earlier ∈ before ++ [bar], BarEnds position source earlier := by
  refine forall_congr' fun before => forall_congr' fun bar => forall_congr' fun after =>
    imp_congr_right fun _ => imp_congr_right fun _ => ?_
  constructor
  · rintro ⟨outcome, -, terminal, decided⟩
    exact (report_isTerminal_iff position config source prevMfe prevMae _).mp
      ⟨outcome, decided, terminal⟩
  · rintro ⟨priced, ends⟩
    obtain ⟨outcome, decided, terminal⟩ :=
      (report_isTerminal_iff position config source prevMfe prevMae _).mpr ⟨priced, ends⟩
    refine ⟨outcome, ?_, terminal, decided⟩
    have whole := report_append position config source prevMfe prevMae after ends
    rw [List.append_assoc, List.singleton_append] at whole
    exact whole.trans decided

def longTrade : ShadowPosition where
  direction := .long
  entryPrice := 100
  stopLoss := 90
  tp1 := 110
  tp2 := 120

/-- A quarter of an hour that falls through the stop and recovers. -/
def dippingBar : Candle where
  symbol := "BTCUSDT"
  interval := "15m"
  openTimeMs := 900000
  closeTimeMs := 1800000
  openPrice := 100
  high := 101
  low := 85
  close := 100
  volume := 1

def firstMinute : Candle where
  symbol := "BTCUSDT"
  interval := "1m"
  openTimeMs := 900000
  closeTimeMs := 960000
  openPrice := 100
  high := 101
  low := 99
  close := 100
  volume := 1

/-- With one of fifteen minutes at hand the stop of the bar is skipped; with none it is not. -/
theorem dip_skipped_by_one_minute :
    longTrade.barStop dippingBar = true ∧
      (∀ outcome, evaluateForwardOutcomes longTrade [dippingBar] none
        { intrabar1mCandles := [firstMinute] } 0 0 = some outcome →
          outcome.isTerminal = false ∧ outcome.terminalReason = .timeout) ∧
      ¬ TerminalBy (fun given => evaluateForwardOutcomes longTrade given none
        { intrabar1mCandles := [firstMinute] } 0 0) [] dippingBar [] ∧
      TerminalBy (fun given => evaluateForwardOutcomes longTrade given none {} 0 0) []
        dippingBar [] := by
  have skipped : ((evaluateForwardOutcomes longTrade [dippingBar] none
      { intrabar1mCandles := [firstMinute] } 0 0).map fun outcome =>
        (outcome.isTerminal, outcome.terminalReason)) = some (false, .timeout) := by
    decide +kernel
  refine ⟨by decide +kernel, fun outcome report => ?_, fun ended => ?_, ?_⟩
  · rw [report] at skipped
    exact Prod.mk.inj (Option.some.inj skipped)
  · obtain ⟨outcome, report, terminal, -⟩ := ended
    dsimp only [List.nil_append] at report
    rw [report] at skipped
    exact absurd ((Prod.mk.inj (Option.some.inj skipped)).1.symm.trans terminal)
      Bool.false_ne_true
  · refine ⟨(evaluateForwardOutcomes longTrade [dippingBar] none {} 0 0).get ?_, ?_, ?_, ?_⟩ <;>
      decide +kernel

end QuantAgent.MarketWatch
