/-
This file proves what an exit of the forward evaluation looks like: a trade ends in a candle that
reaches one of its barriers, at the price of the barrier, with the flag of that barrier alone, and
the exit interval is that of the candle.
-/

import QuantAgent.MarketWatch.ForwardOutcomes

namespace QuantAgent.MarketWatch

/-- The barrier that the trade ends at in the candle: its reason, its price, and the flags of the
first target and of the stop. -/
inductive EndsAt (position : ShadowPosition) (candle : Candle) :
    ShadowTerminalReason → ℚ → Bool → Bool → Prop where
  | stop (reached : position.touchesStop candle = true) :
    EndsAt position candle .stop position.stopLoss false true
  | tp1 (reached : position.touchesTarget position.tp1 candle = true) :
    EndsAt position candle .tp1 position.tp1 true false

/-- The barrier that a trade can reach with positive prices is positive. -/
def ShadowPosition.BarriersPositive (position : ShadowPosition) : Prop :=
  (position.direction = .long → 0 < position.tp1) ∧
    (position.direction ≠ .long → 0 < position.stopLoss)

variable {position : ShadowPosition} {candle : Candle} {tp1Hit slHit : Bool}

theorem EndsAt.ofStop (reached : position.touchesStop candle = true) (missed : tp1Hit = false)
    (hit : slHit = true) : EndsAt position candle .stop position.stopLoss tp1Hit slHit := by
  subst missed hit
  exact .stop reached

theorem EndsAt.ofTp1 (reached : position.touchesTarget position.tp1 candle = true)
    (hit : tp1Hit = true) (missed : slHit = false) :
    EndsAt position candle .tp1 position.tp1 tp1Hit slHit := by
  subst hit missed
  exact .tp1 reached

theorem EndsAt.price_pos {reason : ShadowTerminalReason} {price : ℚ}
    (ends : EndsAt position candle reason price tp1Hit slHit) (barriers : position.BarriersPositive)
    (priced : 0 < candle.low) : 0 < price := by
  cases ends with
  | stop reached =>
    by_cases long : position.direction = .long
    · unfold ShadowPosition.touchesStop at reached
      rw [if_pos long, decide_eq_true_iff] at reached
      exact priced.trans_le reached
    · exact barriers.2 long
  | tp1 reached =>
    by_cases long : position.direction = .long
    · exact barriers.1 long
    · unfold ShadowPosition.touchesTarget at reached
      rw [if_neg long, decide_eq_true_iff] at reached
      exact priced.trans_le reached

/-! ### The walk through the minutes -/

/-- A path that has not ended. -/
structure IntrabarPath.Running (path : IntrabarPath) : Prop where
  isTerminal : path.isTerminal = false
  tp1Hit : path.tp1Hit = false
  slHit : path.slHit = false

structure IntrabarPath.EndedIn (path : IntrabarPath) (position : ShadowPosition)
    (minute : Candle) : Prop where
  isTerminal : path.isTerminal = true
  exit : ∃ reason price, path.terminalReason = some reason ∧ path.exitPrice = some price ∧
    EndsAt position minute reason price path.tp1Hit path.slHit
  time : path.exitTimeMs = some minute.closeTimeMs
  intervalStart : path.exitIntervalStartMs = some minute.openTimeMs
  intervalEnd : path.exitIntervalEndMs = some minute.closeTimeMs
  resolution : path.exitTimeResolution = some .oneMinuteTerminalInterval

section Walk

variable {path : IntrabarPath}

theorem laterMinute_running_or_ended (running : path.Running) (minute : Candle) :
    (laterMinute position path minute).Running ∨
      (laterMinute position path minute).EndedIn position minute := by
  unfold laterMinute
  dsimp only
  split_ifs with both target second stop
  · have reached := (Bool.and_eq_true_iff.mp both).1
    exact Or.inr ⟨rfl, ⟨.stop, position.stopLoss, rfl, rfl, .ofStop reached running.tp1Hit rfl⟩,
      rfl, rfl, rfl, rfl⟩
  -- the second target in the same minute changes nothing here
  iterate 2
    · have reached := (Bool.and_eq_true_iff.mp target).1
      exact Or.inr ⟨rfl, ⟨.tp1, position.tp1, rfl, rfl, .ofTp1 reached rfl running.slHit⟩,
        rfl, rfl, rfl, rfl⟩
  · have reached := (Bool.and_eq_true_iff.mp stop).1
    exact Or.inr ⟨rfl, ⟨.stop, position.stopLoss, rfl, rfl, .ofStop reached running.tp1Hit rfl⟩,
      rfl, rfl, rfl, rfl⟩
  · exact Or.inl ⟨running.isTerminal, running.tp1Hit, running.slHit⟩

theorem fillMinute_running_or_ended (running : path.Running) (minute : Candle) :
    (fillMinute position path minute).Running ∨
      (fillMinute position path minute).EndedIn position minute := by
  unfold fillMinute
  split_ifs with reached
  · exact Or.inr ⟨rfl, ⟨.stop, position.stopLoss, rfl, rfl, .ofStop reached running.tp1Hit rfl⟩,
      rfl, rfl, rfl, rfl⟩
  · exact Or.inl ⟨running.isTerminal, running.tp1Hit, running.slHit⟩

theorem walkMinutes_ended {fill : FillBar} (minutes : List Candle) (running : path.Running)
    (ended : (walkMinutes position fill path minutes).isTerminal = true) :
    ∃ minute ∈ minutes, (walkMinutes position fill path minutes).EndedIn position minute := by
  induction minutes generalizing path with
  | nil => exact absurd (running.isTerminal.symm.trans ended) Bool.false_ne_true
  | cons minute rest inductionHypothesis =>
    unfold walkMinutes at ended ⊢
    dsimp only at ended ⊢
    by_cases early : minute.closeTimeMs ≤ fill.startAfterMs
    · rw [if_pos early] at ended ⊢
      obtain ⟨later, member, exit⟩ := inductionHypothesis running ended
      exact ⟨later, List.mem_cons_of_mem _ member, exit⟩
    · rw [if_neg early] at ended ⊢
      have step : (if fill.isFillMinute minute = true then fillMinute position path minute
            else laterMinute position path minute).Running ∨
          (if fill.isFillMinute minute = true then fillMinute position path minute
            else laterMinute position path minute).EndedIn position minute := by
        split_ifs
        · exact fillMinute_running_or_ended running minute
        · exact laterMinute_running_or_ended running minute
      by_cases terminal : (if fill.isFillMinute minute = true then fillMinute position path minute
          else laterMinute position path minute).isTerminal = true
      · rw [if_pos terminal] at ended ⊢
        refine ⟨minute, List.mem_cons_self, step.resolve_left fun still => ?_⟩
        exact absurd (still.isTerminal.symm.trans terminal) Bool.false_ne_true
      · rw [if_neg terminal] at ended ⊢
        rcases step with still | exit
        · obtain ⟨later, member, exit⟩ := inductionHypothesis still ended
          exact ⟨later, List.mem_cons_of_mem _ member, exit⟩
        · exact absurd exit.isTerminal terminal

theorem evaluateIntrabarPath_ended {fill : FillBar} {minutes : List Candle} {prevMfe prevMae : ℚ}
    (ended : (evaluateIntrabarPath position minutes fill prevMfe prevMae).isTerminal = true) :
    ∃ minute ∈ minutes,
      (evaluateIntrabarPath position minutes fill prevMfe prevMae).EndedIn position minute := by
  have start : ({ mfe := prevMfe, mae := prevMae } : IntrabarPath).Running := ⟨rfl, rfl, rfl⟩
  obtain ⟨minute, member, exit⟩ := walkMinutes_ended _ start ended
  exact ⟨minute, (List.mem_insertionSort _).mp member, exit.isTerminal, exit.exit, exit.time,
    exit.intervalStart, exit.intervalEnd, exit.resolution⟩

end Walk

/-! ### The scan of the bars -/

/-- A scan that has not ended. -/
structure ForwardScan.Running (scan : ForwardScan) : Prop where
  isTerminal : scan.isTerminal = false
  tp1Hit : scan.tp1Hit = false
  slHit : scan.slHit = false

structure ForwardScan.EndedIn (scan : ForwardScan) (position : ShadowPosition)
    (candle : Candle) : Prop where
  isTerminal : scan.isTerminal = true
  exit : EndsAt position candle scan.terminalReason scan.exitPrice scan.tp1Hit scan.slHit
  time : scan.exitTimeMs = candle.closeTimeMs
  intervalStart : scan.exitIntervalStartMs = some candle.openTimeMs
  intervalEnd : scan.exitIntervalEndMs = some candle.closeTimeMs
  resolution : scan.exitTimeResolution = some .oneMinuteTerminalInterval ∨
    scan.exitTimeResolution = some .fifteenMinuteFallbackInterval

section Scan

variable {source : MinuteSource}

def MinuteSource.PartOf (source : MinuteSource) (bar candle : Candle) : Prop :=
  candle = bar ∨ ∃ ambiguous, candle ∈ source.spanOf bar ambiguous

variable {scan : ForwardScan}

theorem scanMinutes_running_or_ended (running : scan.Running) (bar : Candle)
    (minutes : List Candle) :
    (scanMinutes position scan bar minutes).Running ∨
      ∃ minute ∈ minutes, (scanMinutes position scan bar minutes).EndedIn position minute := by
  unfold scanMinutes
  dsimp only
  by_cases ended :
      (evaluateIntrabarPath position minutes {} scan.mfe scan.mae).isTerminal = true
  · rw [if_pos ended]
    obtain ⟨minute, member, exit⟩ := evaluateIntrabarPath_ended ended
    obtain ⟨reason, price, hasReason, hasPrice, ends⟩ := exit.exit
    refine Or.inr ⟨minute, member, rfl, ?_, ?_, exit.intervalStart, exit.intervalEnd, ?_⟩
    · simpa only [hasReason, hasPrice, Option.getD_some] using ends
    · simp only [exit.time, Option.getD_some]
    · exact Or.inl (by simp only [exit.resolution, Option.getD_some])
  · rw [if_neg ended]
    exact Or.inl ⟨running.isTerminal, running.tp1Hit, running.slHit⟩

theorem scanFallback_ended (running : scan.Running) (bar : Candle)
    (reached : (position.barStop bar || position.barTarget position.tp1 bar) = true) :
    (scanFallback position scan bar).EndedIn position bar := by
  unfold scanFallback
  split_ifs with stop
  · have touched := (Bool.and_eq_true_iff.mp stop).2
    exact ⟨rfl, .ofStop touched running.tp1Hit rfl, rfl, rfl, rfl, Or.inr rfl⟩
  · have target := ((Bool.or_eq_true _ _).mp reached).resolve_left stop
    have touched := (Bool.and_eq_true_iff.mp target).2
    exact ⟨rfl, .ofTp1 touched rfl running.slHit, rfl, rfl, rfl, Or.inr rfl⟩

theorem scanBar_running_or_ended (running : scan.Running) (bar : Candle) :
    (scanBar position source scan bar).Running ∨ ∃ candle, source.PartOf bar candle ∧
      (scanBar position source scan bar).EndedIn position candle := by
  unfold scanBar
  dsimp only
  split_ifs with reached empty traded
  · exact Or.inr ⟨bar, Or.inl rfl, scanFallback_ended running bar reached⟩
  · refine (scanMinutes_running_or_ended running bar _).imp_right ?_
    rintro ⟨minute, member, exit⟩
    exact ⟨minute, Or.inr ⟨_, member⟩, exit⟩
  · exact Or.inl ⟨running.isTerminal, running.tp1Hit, running.slHit⟩
  · exact Or.inl ⟨running.isTerminal, running.tp1Hit, running.slHit⟩

theorem scanBars_ended (bars : List Candle) (running : scan.Running)
    (ended : (scanBars position source scan bars).isTerminal = true) :
    ∃ bar ∈ bars, ∃ candle, source.PartOf bar candle ∧
      (scanBars position source scan bars).EndedIn position candle := by
  induction bars generalizing scan with
  | nil => exact absurd (running.isTerminal.symm.trans ended) Bool.false_ne_true
  | cons bar rest inductionHypothesis =>
    unfold scanBars at ended ⊢
    dsimp only at ended ⊢
    have step : (scanBar position source scan bar).Running ∨ ∃ candle,
        source.PartOf bar candle ∧ (scanBar position source scan bar).EndedIn position candle :=
      scanBar_running_or_ended running bar
    by_cases terminal : (scanBar position source scan bar).isTerminal = true
    · rw [if_pos terminal]
      exact ⟨bar, List.mem_cons_self, step.resolve_left fun still =>
        absurd (still.isTerminal.symm.trans terminal) Bool.false_ne_true⟩
    · rw [if_neg terminal] at ended ⊢
      rcases step with still | ⟨candle, -, exit⟩
      · obtain ⟨later, member, found⟩ := inductionHypothesis still ended
        exact ⟨later, List.mem_cons_of_mem _ member, found⟩
      · exact absurd exit.isTerminal terminal

/-- A terminal report ends in one of the bars or in a minute of it. -/
structure ForwardOutcome.EndedIn (outcome : ForwardOutcome) (position : ShadowPosition)
    (candle : Candle) : Prop where
  exit : EndsAt position candle outcome.terminalReason outcome.exitPrice outcome.tp1Hit
    outcome.slHit
  time : outcome.exitTimeMs = candle.closeTimeMs
  intervalStart : outcome.exitIntervalStartMs = some candle.openTimeMs
  intervalEnd : outcome.exitIntervalEndMs = some candle.closeTimeMs
  resolution : outcome.exitTimeResolution = some .oneMinuteTerminalInterval ∨
    outcome.exitTimeResolution = some .fifteenMinuteFallbackInterval

theorem forwardOutcomes_ended {bars : List Candle} {config : Option FrictionConfig}
    {prevMfe prevMae : ℚ} {outcome : ForwardOutcome}
    (report : evaluateForwardOutcomes position bars config source prevMfe prevMae = some outcome)
    (ended : outcome.isTerminal = true) :
    ∃ bar ∈ bars, ∃ candle, source.PartOf bar candle ∧ outcome.EndedIn position candle := by
  unfold evaluateForwardOutcomes at report
  split at report
  · cases report
  · split_ifs at report
    cases report
    obtain ⟨bar, member, candle, part, exit⟩ := scanBars_ended bars ⟨rfl, rfl, rfl⟩ ended
    refine ⟨bar, member, candle, part, ?_, ?_, ?_, ?_, ?_⟩
    all_goals simp only [forwardOutcome, exit.isTerminal, if_true]
    · exact exit.exit
    · exact exit.time
    · exact exit.intervalStart
    · exact exit.intervalEnd
    · exact exit.resolution

theorem forwardOutcomes_running {bars : List Candle} (config : Option FrictionConfig)
    (source : MinuteSource) (prevMfe prevMae : ℚ) (given : bars ≠ [])
    (priced : 0 < position.entryPrice) :
    ∃ outcome, evaluateForwardOutcomes position bars config source prevMfe prevMae =
        some outcome ∧
      (outcome.isTerminal = false → ∃ last ∈ bars, outcome.exitPrice = last.close) := by
  obtain ⟨last, found⟩ : ∃ last, bars.getLast? = some last :=
    ⟨_, List.getLast?_eq_some_getLast given⟩
  unfold evaluateForwardOutcomes
  rw [found]
  dsimp only
  rw [if_neg (not_le.mpr priced)]
  refine ⟨_, rfl, fun open' => ⟨last, List.mem_of_getLast? found, ?_⟩⟩
  unfold forwardOutcome at open' ⊢
  dsimp only at open' ⊢
  rw [if_neg (Bool.eq_false_iff.mp open')]

end Scan

end QuantAgent.MarketWatch
