/-
This file compares the forward evaluation of a trade on fifteen-minute bars alone with the one on
all the minutes that the bars sum up. Both end at the same bar, and differ only there: a bar that
reaches the stop and the first target is a stop without minutes, and either of the two with them.

So the bars alone report no better result exactly when the stop nets no more than the first target.
-/

import QuantAgent.MarketWatch.ShadowExits

namespace QuantAgent.MarketWatch

/-! ### Minutes that a bar sums up -/

/-- Fifteen consecutive minutes that a bar sums up. -/
structure SumsUp (bar : Candle) (minutes : List Candle) : Prop where
  named : ∀ minute ∈ minutes, minute.symbol = bar.symbol ∧ minute.interval = "1m"
  opens : minutes.map Candle.openTimeMs =
    (List.range 15).map fun index : ℕ => bar.openTimeMs + 60000 * index
  closes : minutes.map Candle.closeTimeMs =
    (List.range 15).map fun index : ℕ => bar.closeTimeMs - 60000 * (14 - index)
  openPrice : minutes.head?.map Candle.openPrice = some bar.openPrice
  close : minutes.getLast?.map Candle.close = some bar.close
  high : IsGreatest {price | ∃ minute ∈ minutes, minute.high = price} bar.high
  low : IsLeast {price | ∃ minute ∈ minutes, minute.low = price} bar.low
  volume : (minutes.map Candle.volume).sum = bar.volume
  quoteVolume : (minutes.map Candle.quoteVolume).sum = bar.quoteVolume

/-- The minutes passed in, and no exchange to ask. -/
def minutesOnly (minutes : List Candle) : MinuteSource := { intrabar1mCandles := minutes }

/-- For every bar, the minutes that close within it are all there, in whichever order. Times count
from the epoch. -/
def CompleteMinutes (bars minutes : List Candle) : Prop :=
  ∀ bar ∈ bars, 0 ≤ bar.openTimeMs ∧ ∃ ordered : List Candle,
    ordered.Perm ((minutesOnly minutes).spanOf bar false) ∧ SumsUp bar ordered

theorem spanOf_minutesOnly (minutes : List Candle) (bar : Candle) (ambiguous : Bool) :
    (minutesOnly minutes).spanOf bar ambiguous = (minutesOnly minutes).spanOf bar false := by
  unfold MinuteSource.spanOf minutesOnly
  cases ambiguous
  · rfl
  · dsimp only
    split_ifs <;> rfl

section

variable {position : ShadowPosition} {bar : Candle} {minutes : List Candle}

theorem SumsUp.ne_nil (sums : SumsUp bar minutes) : minutes ≠ [] := by
  rintro rfl
  exact absurd sums.close (by simp)

theorem SumsUp.le_high_iff (sums : SumsUp bar minutes) {level : ℚ} :
    level ≤ bar.high ↔ ∃ minute ∈ minutes, level ≤ minute.high := by
  obtain ⟨⟨highest, member, highest_eq⟩, bound⟩ := sums.high
  refine ⟨fun reached => ⟨highest, member, reached.trans_eq highest_eq.symm⟩, ?_⟩
  rintro ⟨minute, member, reached⟩
  exact reached.trans (bound ⟨minute, member, rfl⟩)

theorem SumsUp.low_le_iff (sums : SumsUp bar minutes) {level : ℚ} :
    bar.low ≤ level ↔ ∃ minute ∈ minutes, minute.low ≤ level := by
  obtain ⟨⟨lowest, member, lowest_eq⟩, bound⟩ := sums.low
  refine ⟨fun reached => ⟨lowest, member, lowest_eq.trans_le reached⟩, ?_⟩
  rintro ⟨minute, member, reached⟩
  exact (bound ⟨minute, member, rfl⟩).trans reached

theorem SumsUp.touchesStop (sums : SumsUp bar minutes) :
    position.touchesStop bar = true ↔
      ∃ minute ∈ minutes, position.touchesStop minute = true := by
  unfold ShadowPosition.touchesStop
  split_ifs <;> simp only [decide_eq_true_eq]
  · exact sums.low_le_iff
  · exact sums.le_high_iff

theorem SumsUp.touchesTarget (sums : SumsUp bar minutes) (target : ℚ) :
    position.touchesTarget target bar = true ↔
      ∃ minute ∈ minutes, position.touchesTarget target minute = true := by
  unfold ShadowPosition.touchesTarget
  split_ifs <;> simp only [decide_eq_true_eq]
  · exact sums.le_high_iff
  · exact sums.low_le_iff

theorem SumsUp.exists_minuteEnds (sums : SumsUp bar minutes)
    (reached : (position.barStop bar || position.barTarget position.tp1 bar) = true) :
    ∃ minute ∈ minutes, position.minuteEnds minute = true := by
  rcases (Bool.or_eq_true _ _).mp reached with stop | target
  · obtain ⟨minute, member, hit⟩ := sums.touchesStop.mp (Bool.and_eq_true_iff.mp stop).2
    exact ⟨minute, member, (Bool.or_eq_true _ _).mpr (Or.inl hit)⟩
  · obtain ⟨minute, member, hit⟩ :=
      (sums.touchesTarget _).mp (Bool.and_eq_true_iff.mp target).2
    exact ⟨minute, member, (Bool.or_eq_true _ _).mpr (Or.inr hit)⟩

theorem closeTimeMs_pos_of_mem_spanOf (opens : 0 ≤ bar.openTimeMs) {minute : Candle}
    (member : minute ∈ (minutesOnly minutes).spanOf bar false) : 0 < minute.closeTimeMs := by
  unfold MinuteSource.spanOf minutesOnly at member
  simp only [Bool.and_false, Bool.false_eq_true, if_false, List.mem_filter,
    decide_eq_true_eq] at member
  exact opens.trans_lt member.2.1

end

/-! ### Two scans side by side -/

/-- The scan without minutes and the one with all of them: both run or both have ended, at one price
unless the stop of the first stands against the first target of the second. -/
structure SideBySide (position : ShadowPosition) (coarse fine : ForwardScan) : Prop where
  isTerminal : coarse.isTerminal = fine.isTerminal
  exit : coarse.isTerminal = true → coarse.exitPrice = fine.exitPrice ∨
    coarse.exitPrice = position.stopLoss ∧ fine.exitPrice = position.tp1 ∧
      position.isTraded = true

section

variable {position : ShadowPosition} {bar : Candle} {bars minutes : List Candle}
  {coarse fine : ForwardScan}

theorem spanOf_default (bar : Candle) (ambiguous : Bool) :
    ({} : MinuteSource).spanOf bar ambiguous = [] := by
  cases ambiguous <;> rfl

theorem scanFallback_exitPrice (position : ShadowPosition) (scan : ForwardScan) (bar : Candle) :
    (scanFallback position scan bar).exitPrice =
      if position.barStop bar then position.stopLoss else position.tp1 := by
  unfold scanFallback
  split_ifs <;> rfl

theorem EndsAt.price_eq {candle : Candle} {reason : ShadowTerminalReason} {price : ℚ}
    {tp1Hit slHit : Bool} (ends : EndsAt position candle reason price tp1Hit slHit) :
    price = position.stopLoss ∧ position.touchesStop candle = true ∨
      price = position.tp1 ∧ position.touchesTarget position.tp1 candle = true := by
  cases ends with
  | stop reached => exact Or.inl ⟨rfl, reached⟩
  | tp1 reached => exact Or.inr ⟨rfl, reached⟩

theorem scanFallback_sideBySide (opens : 0 ≤ bar.openTimeMs) {ordered : List Candle}
    (all : ordered.Perm ((minutesOnly minutes).spanOf bar false)) (sums : SumsUp bar ordered)
    (fineRunning : fine.Running)
    (reached : (position.barStop bar || position.barTarget position.tp1 bar) = true) :
    SideBySide position (scanFallback position coarse bar)
      (scanMinutes position fine bar ((minutesOnly minutes).spanOf bar false)) := by
  have traded : position.isTraded = true := by
    rcases (Bool.or_eq_true _ _).mp reached with stop | target
    · exact (Bool.and_eq_true_iff.mp stop).1
    · exact (Bool.and_eq_true_iff.mp target).1
  have ends : (scanMinutes position fine bar
      ((minutesOnly minutes).spanOf bar false)).isTerminal = true := by
    rw [scanMinutes_isTerminal position fineRunning.isTerminal, evaluateIntrabarPath_isTerminal]
    obtain ⟨minute, member, hit⟩ := sums.exists_minuteEnds reached
    have given := all.mem_iff.mp member
    exact ⟨minute, given, closeTimeMs_pos_of_mem_spanOf opens given, hit⟩
  refine ⟨(scanFallback_isTerminal position coarse bar).trans ends.symm, fun _ => ?_⟩
  obtain ⟨minute, member, exit⟩ := (scanMinutes_running_or_ended fineRunning bar _).resolve_left
    fun still => absurd (still.isTerminal.symm.trans ends) Bool.false_ne_true
  rw [scanFallback_exitPrice]
  rcases exit.exit.price_eq with ⟨price, hit⟩ | ⟨price, hit⟩
  · have stop : position.barStop bar = true := Bool.and_eq_true_iff.mpr
      ⟨traded, sums.touchesStop.mpr ⟨minute, all.mem_iff.mpr member, hit⟩⟩
    exact Or.inl ((if_pos stop).trans price.symm)
  · by_cases stop : position.barStop bar = true
    · exact Or.inr ⟨if_pos stop, price, traded⟩
    · exact Or.inl ((if_neg stop).trans price.symm)

theorem scanBar_sideBySide (opens : 0 ≤ bar.openTimeMs) {ordered : List Candle}
    (all : ordered.Perm ((minutesOnly minutes).spanOf bar false)) (sums : SumsUp bar ordered)
    (coarseRunning : coarse.Running) (fineRunning : fine.Running) :
    SideBySide position (scanBar position {} coarse bar)
      (scanBar position (minutesOnly minutes) fine bar) := by
  unfold scanBar
  dsimp only
  rw [spanOf_default, spanOf_minutesOnly]
  by_cases reached : (position.barStop bar || position.barTarget position.tp1 bar) = true
  · have given : ((minutesOnly minutes).spanOf bar false).isEmpty = false := by
      rw [List.isEmpty_eq_false_iff]
      exact fun empty => sums.ne_nil (all.trans (List.Perm.of_eq empty)).eq_nil
    rw [if_pos reached, if_pos List.isEmpty_nil, if_pos reached, given,
      if_neg Bool.false_ne_true]
    exact scanFallback_sideBySide opens all sums fineRunning reached
  · rw [if_neg reached, if_neg reached]
    split_ifs
    · exact ⟨coarseRunning.isTerminal.trans fineRunning.isTerminal.symm, fun ended =>
        absurd (coarseRunning.isTerminal.symm.trans ended) Bool.false_ne_true⟩
    · exact ⟨coarseRunning.isTerminal.trans fineRunning.isTerminal.symm, fun ended =>
        absurd (coarseRunning.isTerminal.symm.trans ended) Bool.false_ne_true⟩

theorem scanBars_sideBySide (complete : CompleteMinutes bars minutes)
    (coarseRunning : coarse.Running) (fineRunning : fine.Running) :
    SideBySide position (scanBars position {} coarse bars)
      (scanBars position (minutesOnly minutes) fine bars) := by
  induction bars generalizing coarse fine with
  | nil =>
    exact ⟨coarseRunning.isTerminal.trans fineRunning.isTerminal.symm, fun ended =>
      absurd (coarseRunning.isTerminal.symm.trans ended) Bool.false_ne_true⟩
  | cons bar rest inductionHypothesis =>
    obtain ⟨opens, ordered, all, sums⟩ := complete bar List.mem_cons_self
    have step : SideBySide position (scanBar position {} coarse bar)
        (scanBar position (minutesOnly minutes) fine bar) :=
      scanBar_sideBySide opens all sums coarseRunning fineRunning
    unfold scanBars
    dsimp only
    rw [← step.isTerminal]
    by_cases ended : (scanBar position {} coarse bar).isTerminal = true
    · rw [if_pos ended, if_pos ended]
      exact step
    · rw [if_neg ended, if_neg ended]
      have coarseStill : (scanBar position {} coarse bar).Running :=
        (scanBar_running_or_ended coarseRunning bar).resolve_right fun found =>
          ended found.choose_spec.2.isTerminal
      have fineStill : (scanBar position (minutesOnly minutes) fine bar).Running :=
        (scanBar_running_or_ended fineRunning bar).resolve_right fun found =>
          ended (step.isTerminal.trans found.choose_spec.2.isTerminal)
      exact inductionHypothesis (fun later member => complete later (List.mem_cons_of_mem _ member))
        coarseStill fineStill

end

/-! ### Results -/

def ShadowPosition.grossAt (position : ShadowPosition) (exitPrice : ℚ) : ℚ :=
  match position.direction with
  | .long => (exitPrice - position.entryPrice) / position.riskDist
  | .short => (position.entryPrice - exitPrice) / position.riskDist
  | .wait => 0

def ShadowPosition.netAt (position : ShadowPosition) (config : Option FrictionConfig)
    (exitPrice : ℚ) : ℚ :=
  roundTo 4 (position.grossAt exitPrice -
    (computeTradeFrictionR position.entryPrice exitPrice position.riskDist config).2)

theorem forwardOutcome_netR (position : ShadowPosition) (config : Option FrictionConfig)
    (scan : ForwardScan) (last : Candle) :
    (forwardOutcome position config scan last).netR =
      position.netAt config (if scan.isTerminal then scan.exitPrice else last.close) := rfl

/-- The bars alone report no better result than with complete minutes. -/
def Conservative (position : ShadowPosition) (config : Option FrictionConfig) : Prop :=
  ∀ (bars minutes : List Candle) (prevMfe prevMae : ℚ) (coarse fine : ForwardOutcome),
    CompleteMinutes bars minutes →
    evaluateForwardOutcomes position bars config {} prevMfe prevMae = some coarse →
    evaluateForwardOutcomes position bars config (minutesOnly minutes) prevMfe prevMae =
      some fine →
    coarse.netR ≤ fine.netR

variable {config : Option FrictionConfig}

theorem conservative_of_netAt_le {position : ShadowPosition}
    (stopFirst : 0 < position.entryPrice → position.isTraded = true →
      position.netAt config position.stopLoss ≤ position.netAt config position.tp1) :
    Conservative position config := by
  intro bars minutes prevMfe prevMae coarse fine complete coarseReport fineReport
  unfold evaluateForwardOutcomes at coarseReport fineReport
  cases last : bars.getLast? with
  | none =>
    rw [last] at coarseReport
    cases coarseReport
  | some final =>
    rw [last] at coarseReport fineReport
    dsimp only at coarseReport fineReport
    by_cases priceless : position.entryPrice ≤ 0
    · rw [if_pos priceless] at coarseReport
      cases coarseReport
    · rw [if_neg priceless, Option.some_inj] at coarseReport fineReport
      set start : ForwardScan := {
        mfe := prevMfe
        mae := prevMae
        exitPrice := final.close
        exitTimeMs := final.closeTimeMs }
      have running : start.Running := ⟨rfl, rfl, rfl⟩
      have sides : SideBySide position (scanBars position {} start bars)
          (scanBars position (minutesOnly minutes) start bars) :=
        scanBars_sideBySide complete running running
      rw [← coarseReport, ← fineReport, forwardOutcome_netR, forwardOutcome_netR,
        ← sides.isTerminal]
      split_ifs with ended
      · rcases sides.exit ended with same | ⟨stop, target, traded⟩
        · exact le_of_eq (congrArg _ same)
        · rw [stop, target]
          exact stopFirst (not_le.mp priceless) traded
      · exact le_rfl

/-! ### A bar that tells the two apart -/

def flatMinute (index : ℕ) (price : ℚ) : Candle where
  symbol := "BTCUSDT"
  interval := "1m"
  openTimeMs := 60000 * index
  closeTimeMs := 60000 * index + 60000
  openPrice := price
  high := price
  low := price
  close := price
  volume := 1
  closeAfterOpen := by omega
  lowBound := le_of_eq (min_self price).symm
  highBound := le_of_eq (max_self price)

/-- A quarter of an hour at one price for a minute and at another one from then on. -/
def turningBar (first second : ℚ) : Candle where
  symbol := "BTCUSDT"
  interval := "15m"
  openTimeMs := 0
  closeTimeMs := 900000
  openPrice := first
  high := max first second
  low := min first second
  close := second
  volume := 15
  lowBound := le_rfl
  highBound := le_rfl

def turningMinutes (first second : ℚ) : List Candle :=
  flatMinute 0 first :: (List.range 14).map fun index => flatMinute (index + 1) second

section

variable (first second : ℚ)

theorem mem_turningMinutes {minute : Candle} : minute ∈ turningMinutes first second ↔
    minute = flatMinute 0 first ∨ ∃ index < 14, flatMinute (index + 1) second = minute := by
  simp [turningMinutes]

theorem turningBar_sumsUp : SumsUp (turningBar first second) (turningMinutes first second) where
  named minute member := by
    obtain rfl | ⟨index, -, rfl⟩ := (mem_turningMinutes first second).mp member <;>
      exact ⟨rfl, rfl⟩
  opens := rfl
  closes := rfl
  openPrice := rfl
  close := rfl
  high := by
    constructor
    · rcases max_choice first second with high | high
      · exact ⟨flatMinute 0 first, List.mem_cons_self, high.symm⟩
      · exact ⟨flatMinute 1 second, (mem_turningMinutes first second).mpr
          (Or.inr ⟨0, by decide, rfl⟩), high.symm⟩
    · rintro price ⟨minute, member, rfl⟩
      obtain rfl | ⟨index, -, rfl⟩ := (mem_turningMinutes first second).mp member
      · exact le_max_left _ _
      · exact le_max_right _ _
  low := by
    constructor
    · rcases min_choice first second with low | low
      · exact ⟨flatMinute 0 first, List.mem_cons_self, low.symm⟩
      · exact ⟨flatMinute 1 second, (mem_turningMinutes first second).mpr
          (Or.inr ⟨0, by decide, rfl⟩), low.symm⟩
    · rintro price ⟨minute, member, rfl⟩
      obtain rfl | ⟨index, -, rfl⟩ := (mem_turningMinutes first second).mp member
      · exact min_le_left _ _
      · exact min_le_right _ _
  volume := by
    have volumes : (turningMinutes first second).map Candle.volume = List.replicate 15 1 := rfl
    rw [volumes, List.sum_replicate]
    norm_num [turningBar]
  quoteVolume := by
    have volumes : (turningMinutes first second).map Candle.quoteVolume = List.replicate 15 0 :=
      rfl
    rw [volumes, List.sum_replicate]
    exact smul_zero 15

theorem turningMinutes_ordered : (turningMinutes first second).Pairwise
    fun earlier later => earlier.openTimeMs ≤ later.openTimeMs := by
  have times : ((turningMinutes first second).map Candle.openTimeMs).Pairwise (· ≤ ·) := by
    have sums := (turningBar_sumsUp first second).opens
    rw [sums, List.pairwise_map]
    refine (List.pairwise_lt_range (n := 15)).imp fun earlier => ?_
    omega
  exact List.pairwise_map.mp times

theorem spanOf_turningMinutes : (minutesOnly (turningMinutes first second)).spanOf
    (turningBar first second) false = turningMinutes first second := by
  unfold MinuteSource.spanOf minutesOnly
  dsimp only
  rw [Bool.and_false, if_neg Bool.false_ne_true, List.filter_eq_self]
  intro minute member
  rw [decide_eq_true_iff]
  obtain rfl | ⟨index, bound, rfl⟩ := (mem_turningMinutes first second).mp member
  · constructor <;> exact of_decide_eq_true rfl
  · simp only [turningBar, flatMinute]
    omega

theorem turningMinutes_complete :
    CompleteMinutes [turningBar first second] (turningMinutes first second) := by
  intro bar member
  rw [List.mem_singleton.mp member]
  refine ⟨le_rfl, turningMinutes first second, ?_, turningBar_sumsUp first second⟩
  rw [spanOf_turningMinutes]

end

section

variable {position : ShadowPosition} {first second : ℚ}
  {bar : Candle} {minutes : List Candle}

theorem barStop_turningBar (traded : position.isTraded = true)
    (stop : position.touchesStop (flatMinute 1 second) = true) :
    position.barStop (turningBar first second) = true := by
  refine Bool.and_eq_true_iff.mpr ⟨traded, (turningBar_sumsUp first second).touchesStop.mpr ?_⟩
  exact ⟨_, (mem_turningMinutes first second).mpr (Or.inr ⟨0, by decide, rfl⟩), stop⟩

theorem scanBar_coarse (stopped : position.barStop bar = true) (scan : ForwardScan) :
    scanBar position {} scan bar = scanFallback position scan bar := by
  unfold scanBar
  dsimp only
  rw [if_pos ((Bool.or_eq_true _ _).mpr (Or.inl stopped)), spanOf_default,
    if_pos List.isEmpty_nil]

theorem scanBar_fine (stopped : position.barStop bar = true) (scan : ForwardScan)
    (given : (minutesOnly minutes).spanOf bar false ≠ []) :
    scanBar position (minutesOnly minutes) scan bar =
      scanMinutes position scan bar ((minutesOnly minutes).spanOf bar false) := by
  unfold scanBar
  dsimp only
  rw [if_pos ((Bool.or_eq_true _ _).mpr (Or.inl stopped)), spanOf_minutesOnly,
    if_neg fun empty => given (List.isEmpty_iff.mp empty)]

theorem exists_report_of_scanBar {source : MinuteSource} {price : ℚ}
    (priced : 0 < position.entryPrice)
    (ended : ∀ scan : ForwardScan, (scanBar position source scan bar).isTerminal = true)
    (exit : ∀ scan : ForwardScan, (scanBar position source scan bar).exitPrice = price) :
    ∃ outcome, evaluateForwardOutcomes position [bar] config source 0 0 = some outcome ∧
      outcome.netR = position.netAt config price := by
  refine ⟨_, if_neg (not_le.mpr priced), ?_⟩
  rw [forwardOutcome_netR]
  unfold scanBars
  dsimp only
  rw [if_pos (ended _), if_pos (ended _), exit]

theorem turningBar_coarse (priced : 0 < position.entryPrice) (traded : position.isTraded = true)
    (stop : position.touchesStop (flatMinute 1 second) = true) :
    ∃ coarse, evaluateForwardOutcomes position [turningBar first second] config {} 0 0 =
      some coarse ∧ coarse.netR = position.netAt config position.stopLoss := by
  have stopped : position.barStop (turningBar first second) = true :=
    barStop_turningBar traded stop
  refine exists_report_of_scanBar priced (fun scan => ?_) fun scan => ?_
  · rw [scanBar_coarse stopped, scanFallback_isTerminal]
  · rw [scanBar_coarse stopped, scanFallback_exitPrice, if_pos stopped]

theorem evaluateIntrabarPath_turningMinutes
    (target : position.touchesTarget position.tp1 (flatMinute 0 first) = true)
    (missed : position.touchesStop (flatMinute 0 first) = false) (prevMfe prevMae : ℚ) :
    let path := evaluateIntrabarPath position (turningMinutes first second) {} prevMfe prevMae
    path.isTerminal = true ∧ path.exitPrice = some position.tp1 := by
  have ended : ∀ path : IntrabarPath,
      (laterMinute position path (flatMinute 0 first)).isTerminal = true ∧
        (laterMinute position path (flatMinute 0 first)).exitPrice = some position.tp1 := by
    intro path
    unfold laterMinute
    rw [missed, target]
    exact ⟨rfl, rfl⟩
  have walked : ∀ path : IntrabarPath, walkMinutes position {} path (turningMinutes first second) =
      laterMinute position path (flatMinute 0 first) := by
    intro path
    have begun : ¬ (flatMinute 0 first).closeTimeMs ≤ 0 := of_decide_eq_false rfl
    have ordinary : ({} : FillBar).isFillMinute (flatMinute 0 first) = false := rfl
    unfold turningMinutes walkMinutes
    rw [if_neg begun, ordinary]
    simp only [Bool.false_eq_true, if_false]
    rw [if_pos (ended path).1]
  unfold evaluateIntrabarPath
  dsimp only
  rw [(turningMinutes_ordered first second).insertionSort_eq, walked]
  exact ended _

theorem turningBar_fine (priced : 0 < position.entryPrice) (traded : position.isTraded = true)
    (target : position.touchesTarget position.tp1 (flatMinute 0 first) = true)
    (missed : position.touchesStop (flatMinute 0 first) = false)
    (stop : position.touchesStop (flatMinute 1 second) = true) :
    ∃ fine, evaluateForwardOutcomes position [turningBar first second] config
        (minutesOnly (turningMinutes first second)) 0 0 = some fine ∧
      fine.netR = position.netAt config position.tp1 := by
  have stopped : position.barStop (turningBar first second) = true :=
    barStop_turningBar traded stop
  have given : (minutesOnly (turningMinutes first second)).spanOf (turningBar first second)
      false ≠ [] := by
    rw [spanOf_turningMinutes]
    exact List.cons_ne_nil _ _
  refine exists_report_of_scanBar priced (fun scan => ?_) fun scan => ?_
  · rw [scanBar_fine stopped scan given, spanOf_turningMinutes]
    unfold scanMinutes
    dsimp only
    rw [if_pos (evaluateIntrabarPath_turningMinutes target missed _ _).1]
  · rw [scanBar_fine stopped scan given, spanOf_turningMinutes]
    unfold scanMinutes
    dsimp only
    rw [if_pos (evaluateIntrabarPath_turningMinutes target missed _ _).1,
      (evaluateIntrabarPath_turningMinutes target missed _ _).2, Option.getD_some]

end

/-! ### Exactly when the bars alone are conservative -/

/-- A price at which the first target is reached and the stop is not. -/
def ShadowPosition.pastTarget (position : ShadowPosition) : ℚ :=
  if position.direction = .long then max position.tp1 (position.stopLoss + 1)
  else min position.tp1 (position.stopLoss - 1)

theorem netAt_le_of_conservative {position : ShadowPosition}
    (conservative : Conservative position config) (priced : 0 < position.entryPrice)
    (traded : position.isTraded = true) :
    position.netAt config position.stopLoss ≤ position.netAt config position.tp1 := by
  have stop : position.touchesStop (flatMinute 1 position.stopLoss) = true := by
    unfold ShadowPosition.touchesStop flatMinute
    split_ifs <;> exact decide_eq_true le_rfl
  have target : position.touchesTarget position.tp1
      (flatMinute 0 position.pastTarget) = true := by
    unfold ShadowPosition.touchesTarget ShadowPosition.pastTarget flatMinute
    split_ifs
    · exact decide_eq_true (le_max_left _ _)
    · exact decide_eq_true (min_le_left _ _)
  have missed : position.touchesStop (flatMinute 0 position.pastTarget) = false := by
    unfold ShadowPosition.touchesStop ShadowPosition.pastTarget flatMinute
    split_ifs
    · exact decide_eq_false (not_le.mpr ((lt_add_one _).trans_le (le_max_right _ _)))
    · exact decide_eq_false (not_le.mpr ((min_le_right _ _).trans_lt (sub_one_lt _)))
  obtain ⟨coarse, coarseReport, coarseNet⟩ :=
    @turningBar_coarse config position position.pastTarget position.stopLoss priced traded stop
  obtain ⟨fine, fineReport, fineNet⟩ :=
    @turningBar_fine config position _ _ priced traded target missed stop
  rw [← coarseNet, ← fineNet]
  exact conservative _ _ 0 0 coarse fine (turningMinutes_complete _ _) coarseReport fineReport

/-- The bars alone never report a better result than with complete minutes exactly when the stop of
the trade nets no more than its first target. -/
theorem coarse_conservative_iff (position : ShadowPosition) (config : Option FrictionConfig) :
    Conservative position config ↔ (0 < position.entryPrice → position.isTraded = true →
      position.netAt config position.stopLoss ≤ position.netAt config position.tp1) :=
  ⟨netAt_le_of_conservative, conservative_of_netAt_le⟩

/-- A long trade whose first target lies below its stop. -/
def invertedTrade : ShadowPosition where
  direction := .long
  entryPrice := 100
  stopLoss := 90
  tp1 := 85
  tp2 := 80

/-- Such a trade does better without minutes than with them. -/
theorem inverted_trade_not_conservative : ¬ Conservative invertedTrade none := fun conservative =>
  absurd (netAt_le_of_conservative conservative (by decide) (by decide)) (by decide +kernel)

end QuantAgent.MarketWatch
