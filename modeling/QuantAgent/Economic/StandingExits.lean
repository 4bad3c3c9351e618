/-
This file proves how conservative the standing conditionals of the event loop are, over every
continuous price path that has the open, high, low and close of the bar.

A stop is filled no better than the first level such a path crosses, also when the trailing stop
follows the path inside the bar. A target is filled no better than the first level armed before
the bar. What the open has passed is filled at the open: for a stop this is no better than its
level, for a target it may be.
-/

import QuantAgent.Economic.Trailing
import QuantAgent.Library.Barriers
import QuantAgent.Library.Numerals

namespace QuantAgent.Economic

open Traced Barriers Numerals ManagedTrade

deriving instance DecidableEq for ManagedTrade, Trigger

/-! ### What the loop chooses -/

variable {later : EngineState}

section Choices

variable (engine : EconomicSimulationEngine)

/-- The gap conditional of a bar. Its reference price is the open. -/
def gapChoice (bar : Candle) (state : EngineState) : Option (ManagedTrade × Trigger) :=
  match state.managedTrade bar.symbol with
  | none => none
  | some trade =>
    if hasPendingExit state.pendingFills bar.symbol then none
    else (gapTrigger engine trade state bar).map fun trigger => (trade, trigger)

/-- The standing conditional of a bar. Its reference price is the level of the trigger. -/
def standingChoice (bar : Candle) (state : EngineState) : Option (ManagedTrade × Trigger) :=
  match state.managedTrade bar.symbol with
  | none => none
  | some trade =>
    if trade.entryTime ≤ bar.openTimeMs then
      if hasPendingExit state.pendingFills bar.symbol then none
      else
        match standingTrigger engine trade state bar with
        | .ok (some trigger) => some (trade, trigger)
        | _ => none
    else none

variable {engine} {bar : Candle} {state : EngineState} {trade : ManagedTrade} {trigger : Trigger}

theorem gapExits_of_choice (chosen : gapChoice engine bar state = some (trade, trigger)) :
    state.managedTrade bar.symbol = some trade ∧ gapTrigger engine trade state bar = some trigger ∧
      ∃ order, (gapExits engine bar state).outcome =
        (executeConditionalExit engine order trigger.armedTime bar.openTimeMs bar.openPrice
          .barOpenKnown bar state).outcome := by
  unfold gapChoice at chosen
  unfold gapExits
  cases managed : state.managedTrade bar.symbol with
  | none =>
    rw [managed] at chosen
    cases chosen
  | some other =>
    rw [managed] at chosen
    dsimp only at chosen ⊢
    split_ifs at chosen ⊢ with claimed
    obtain ⟨found, same, pair⟩ := Option.map_eq_some_iff.mp chosen
    cases pair
    rw [same]
    exact ⟨rfl, rfl, _, rfl⟩

theorem standingExits_of_choice (chosen : standingChoice engine bar state = some (trade, trigger)) :
    state.managedTrade bar.symbol = some trade ∧
      standingTrigger engine trade state bar = .ok (some trigger) ∧
      (standingExits engine bar state).outcome =
        (executeStanding engine trade trigger bar state).outcome.map (·, true) := by
  unfold standingChoice at chosen
  unfold standingExits
  cases managed : state.managedTrade bar.symbol with
  | none =>
    rw [managed] at chosen
    cases chosen
  | some other =>
    rw [managed] at chosen
    dsimp only at chosen ⊢
    split_ifs at chosen ⊢ with early claimed
    split at chosen
    · rename_i found triggered
      cases chosen
      rw [triggered]
      refine ⟨rfl, rfl, ?_⟩
      show (executeStanding engine trade trigger bar state >>= fun later =>
        (pure (later, true) : Run (EngineState × Bool))).outcome = _
      rw [outcome_bind]
      cases (executeStanding engine trade trigger bar state).outcome <;> rfl
    · cases chosen

theorem reference_pos {order : ExitOrder} {armed observed : Int} {reference : ℚ}
    {time : ConditionalTriggerTime}
    (done : (executeConditionalExit engine order armed observed reference time bar state).outcome =
      .ok later) : 0 < reference := by
  obtain ⟨result, accepted, -⟩ := Traced.bind_eq_ok.mp done
  unfold checked Traced.lift at accepted
  cases filled : engine.executionModel.simulateConditionalMarketFill
      { armedTimestampMs := armed
        triggerObservationTimestampMs := observed
        side := exitSide order.posQty
        desiredQuantity := |order.posQty|
        referencePrice := reference
        triggerTime := time } bar with
  | error message =>
    rw [filled] at accepted
    cases accepted
  | ok result =>
    obtain ⟨⟨⟩, checked, -⟩ := bind_eq_ok.mp filled
    exact (ConditionalRequest.check_eq_ok checked).2.1

theorem open_pos_of_gap (chosen : gapChoice engine bar state = some (trade, trigger))
    (done : (gapExits engine bar state).outcome = .ok later) : 0 < bar.openPrice := by
  obtain ⟨-, -, order, executed⟩ := gapExits_of_choice chosen
  exact reference_pos (executed.symm.trans done)

theorem level_pos_of_standing {later : EngineState × Bool}
    (chosen : standingChoice engine bar state = some (trade, trigger))
    (done : (standingExits engine bar state).outcome = .ok later) : 0 < trigger.level := by
  obtain ⟨-, -, executed⟩ := standingExits_of_choice chosen
  rw [executed] at done
  unfold executeStanding at done
  cases found : ambiguousFunding trade.posQty bar state.funding with
  | some event =>
    rw [found] at done
    cases done
  | none =>
    rw [found] at done
    dsimp only at done
    cases executing : (executeConditionalExit engine _ trigger.armedTime bar.closeTimeMs
        trigger.level .intrabarUnknown bar state).outcome with
    | error fault =>
      rw [executing] at done
      cases done
    | ok stood => exact reference_pos executing

end Choices

/-! ### Price paths and the levels they cross -/

structure PricePath (bar : Candle) where
  price : ℝ → ℝ
  continuous : ContinuousOn price (Set.Icc 0 1)
  opens : price 0 = bar.openPrice
  closes : price 1 = bar.close
  within : ∀ time ∈ Set.Icc 0 1, (bar.low : ℝ) ≤ price time ∧ price time ≤ bar.high
  reachesLow : ∃ time ∈ Set.Icc 0 1, price time = bar.low
  reachesHigh : ∃ time ∈ Set.Icc 0 1, price time = bar.high

/-- A price is at the level or, for the account, on the losing side of it. -/
def ManagedTrade.AtOrWorse (trade : ManagedTrade) (price level : ℝ) : Prop :=
  if trade.isLong then price ≤ level else level ≤ price

inductive Crosses (engine : EconomicSimulationEngine) (trade : ManagedTrade) (extreme price : ℝ) :
    ℝ → Prop
  | stop {pct : ℚ} (armed : engine.policy.exitRule.stopLossPct = some pct)
      (reached : trade.AtOrWorse price (trade.stopLevel pct)) :
      Crosses engine trade extreme price (trade.stopLevel pct)
  | trailing {pct : ℚ} (armed : engine.policy.exitRule.trailingStopPct = some pct)
      (reached : trade.AtOrWorse price (trade.trailed extreme pct)) :
      Crosses engine trade extreme price (trade.trailed extreme pct)
  | target {pct : ℚ} (armed : engine.policy.exitRule.takeProfitPct = some pct)
      (reached : trade.AtOrWorse (trade.targetLevel pct) price) :
      Crosses engine trade extreme price (trade.targetLevel pct)

/-- The first time at which the path meets an armed exit, when the trailing stop follows a
moving extreme. -/
def FirstCrossing (engine : EconomicSimulationEngine) (trade : ManagedTrade) {bar : Candle}
    (path : PricePath bar) (extreme : ℝ → ℝ) (time : ℝ) : Prop :=
  FirstAt (fun moment => ∃ level, Crosses engine trade (extreme moment) (path.price moment) level)
    time

def Conservative (engine : EconomicSimulationEngine) (trade : ManagedTrade) {bar : Candle}
    (path : PricePath bar) (extreme : ℝ → ℝ) (reference : ℝ) : Prop :=
  ∀ time level, FirstCrossing engine trade path extreme time →
    Crosses engine trade (extreme time) (path.price time) level → trade.AtOrWorse reference level

structure Running (trade : ManagedTrade) {bar : Candle} (path : PricePath bar) (prior : ℝ)
    (extreme : ℝ → ℝ) : Prop where
  ahead : ∀ time ∈ Set.Icc 0 1, trade.AtOrWorse prior (extreme time)
  passed : ∀ time ∈ Set.Icc 0 1, ∀ moment ∈ Set.Icc 0 time,
    trade.AtOrWorse (path.price moment) (extreme time)
  reached : ∀ time ∈ Set.Icc 0 1,
    extreme time = prior ∨ ∃ moment ∈ Set.Icc 0 time, extreme time = path.price moment

section Sides

variable {engine : EconomicSimulationEngine} {trade : ManagedTrade} {bar : Candle}

theorem atOrWorse_iff {price level : ℝ} :
    trade.AtOrWorse price level ↔ trade.signed price ≤ trade.signed level := by
  unfold AtOrWorse signed
  split_ifs
  · exact Iff.rfl
  · exact neg_le_neg_iff.symm

theorem signed_cast (price : ℚ) : trade.signed (price : ℝ) = (trade.signed price : ℚ) := by
  unfold signed
  split_ifs
  · rfl
  · exact (Rat.cast_neg price).symm

variable {price level : ℚ}

theorem signed_le_signed :
    trade.signed (price : ℝ) ≤ trade.signed (level : ℝ) ↔
      trade.signed price ≤ trade.signed level := by
  rw [signed_cast, signed_cast]
  exact Rat.cast_le

theorem signed_lt_signed :
    trade.signed (price : ℝ) < trade.signed (level : ℝ) ↔
      trade.signed price < trade.signed level := by
  rw [signed_cast, signed_cast]
  exact Rat.cast_lt

theorem atOrWorse_cast :
    trade.AtOrWorse price level ↔ trade.signed price ≤ trade.signed level :=
  atOrWorse_iff.trans signed_le_signed

theorem signed_signed (price : ℝ) : trade.signed (trade.signed price) = price := by
  unfold signed
  split_ifs
  · rfl
  · exact neg_neg price

theorem trailed_cast (extreme pct : ℚ) :
    ((trade.trailed extreme pct : ℚ) : ℝ) = trade.trailed (extreme : ℝ) (pct : ℝ) := by
  unfold trailed
  split_ifs
  · push_cast
    rfl
  · push_cast
    rfl

/-- A better extreme has a better level behind it. -/
theorem signed_trailed_mono {prior extreme pct : ℝ} (fraction : 0 ≤ pct ∧ pct ≤ 1)
    (ahead : trade.signed prior ≤ trade.signed extreme) :
    trade.signed (trade.trailed prior pct) ≤ trade.signed (trade.trailed extreme pct) := by
  unfold signed trailed at *
  split_ifs at *
  · exact mul_le_mul_of_nonneg_right ahead (sub_nonneg.mpr fraction.2)
  · exact neg_le_neg (mul_le_mul_of_nonneg_right (neg_le_neg_iff.mp ahead)
      (add_nonneg zero_le_one fraction.1))

theorem PricePath.worst_le (path : PricePath bar) {time : ℝ} (inside : time ∈ Set.Icc 0 1) :
    trade.signed (trade.worstPrice bar : ℝ) ≤ trade.signed (path.price time) := by
  unfold signed worstPrice
  split_ifs
  · exact (path.within time inside).1
  · exact neg_le_neg (path.within time inside).2

theorem PricePath.continuous_signed (path : PricePath bar) :
    ContinuousOn (fun time => trade.signed (path.price time)) (Set.Icc 0 1) := by
  unfold signed
  split_ifs
  · exact path.continuous
  · exact path.continuous.neg

theorem Running.trails {path : PricePath bar} {prior : ℝ} {extreme : ℝ → ℝ}
    (running : Running trade path prior extreme) :
    Trails (fun time => trade.signed (path.price time)) (trade.signed prior)
      fun time => trade.signed (extreme time) :=
  ⟨fun time inside => atOrWorse_iff.mp (running.ahead time inside), fun time inside =>
    (running.reached time inside).imp (congrArg trade.signed)
      fun ⟨moment, between, same⟩ => ⟨moment, between, congrArg trade.signed same⟩⟩

end Sides

/-! ### What a chosen stop is -/

variable {price level : ℚ}

section Stops

variable {engine : EconomicSimulationEngine} {trade : ManagedTrade} {bar : Candle}
  {state : EngineState} {trigger : Trigger}

/-- The price is at the armed stop or worse. -/
def StopTouched (engine : EconomicSimulationEngine) (trade : ManagedTrade) (price level : ℚ) :
    Prop :=
  ∃ pct, engine.policy.exitRule.stopLossPct = some pct ∧ level = trade.stopLevel pct ∧
    trade.signed price ≤ trade.signed level

def TrailingTouched (engine : EconomicSimulationEngine) (trade : ManagedTrade)
    (prior price level : ℚ) : Prop :=
  ∃ pct, engine.policy.exitRule.trailingStopPct = some pct ∧ level = trade.trailed prior pct ∧
    trade.signed price ≤ trade.signed level

theorem stopTrigger_some (found : stopTrigger engine trade price = some trigger) :
    StopTouched engine trade price trigger.level := by
  obtain ⟨pct, armed, touched, rfl⟩ := armed_eq_some.mp found
  exact ⟨pct, armed, rfl, adverse_iff.mp touched⟩

theorem stopTrigger_none (nothing : stopTrigger engine trade price = none) :
    ¬ StopTouched engine trade price level := by
  rintro ⟨pct, armed, rfl, touched⟩
  exact Bool.false_ne_true ((armed_eq_none.mp nothing pct armed).symm.trans
    (adverse_iff.mpr touched))

theorem trailingTrigger_some (found : trailingTrigger engine trade state price = some trigger) :
    TrailingTouched engine trade ((state.view bar.symbol).extreme trade) price trigger.level := by
  obtain ⟨pct, armed, touched, rfl⟩ := armed_eq_some.mp found
  exact ⟨pct, armed, trailingLevel_eq, adverse_iff.mp touched⟩

theorem trailingTrigger_none (nothing : trailingTrigger engine trade state price = none) :
    ¬ TrailingTouched engine trade ((state.view bar.symbol).extreme trade) price level := by
  rintro ⟨pct, armed, rfl, touched⟩
  rw [← trailingLevel_eq] at touched
  exact Bool.false_ne_true ((armed_eq_none.mp nothing pct armed).symm.trans
    (adverse_iff.mpr touched))

theorem targetTrigger_some (found : targetTrigger engine trade price = some trigger) :
    trigger.reason = "TAKE_PROFIT" ∧ ∃ pct, engine.policy.exitRule.takeProfitPct = some pct ∧
      trigger.level = trade.targetLevel pct ∧
      trade.signed (trade.targetLevel pct) ≤ trade.signed price := by
  obtain ⟨pct, armed, touched, rfl⟩ := armed_eq_some.mp found
  exact ⟨rfl, pct, armed, rfl, favourable_iff.mp touched⟩

structure WorstTouched (engine : EconomicSimulationEngine) (trade : ManagedTrade)
    (prior price level : ℚ) : Prop where
  touched : StopTouched engine trade price level ∨ TrailingTouched engine trade prior price level
  stop : ∀ other, StopTouched engine trade price other → trade.signed level ≤ trade.signed other
  trailing : ∀ other, TrailingTouched engine trade prior price other →
    trade.signed level ≤ trade.signed other

theorem StopTouched.unique {price level other : ℚ} (one : StopTouched engine trade price level)
    (two : StopTouched engine trade price other) : level = other := by
  obtain ⟨pct, armed, rfl, -⟩ := one
  obtain ⟨pct, again, rfl, -⟩ := two
  rw [Option.some.inj (armed.symm.trans again)]

theorem TrailingTouched.unique {prior price level other : ℚ}
    (one : TrailingTouched engine trade prior price level)
    (two : TrailingTouched engine trade prior price other) : level = other := by
  obtain ⟨pct, armed, rfl, -⟩ := one
  obtain ⟨pct, again, rfl, -⟩ := two
  rw [Option.some.inj (armed.symm.trans again)]

theorem adverseTrigger_some (found : adverseTrigger engine trade state bar = some trigger) :
    WorstTouched engine trade ((state.view bar.symbol).extreme trade) (trade.worstPrice bar)
      trigger.level := by
  unfold adverseTrigger at found
  split at found
  · rename_i stop trailing stopFound trailingFound
    have stopTouched := stopTrigger_some stopFound
    have trailingTouched := @trailingTrigger_some _ _ _ bar _ _ trailingFound
    -- the losing side of two levels is the lower one for a long and the higher one for a short
    have worse : (trigger = trailing ∧ trade.signed trailing.level ≤ trade.signed stop.level) ∨
        (trigger = stop ∧ trade.signed stop.level ≤ trade.signed trailing.level) := by
      unfold signed
      split_ifs at found ⊢ with long below above
      · exact .inl ⟨(Option.some.inj found).symm, below.le⟩
      · exact .inr ⟨(Option.some.inj found).symm, not_lt.mp below⟩
      · exact .inl ⟨(Option.some.inj found).symm, neg_le_neg above.le⟩
      · exact .inr ⟨(Option.some.inj found).symm, neg_le_neg (not_lt.mp above)⟩
    rcases worse with ⟨rfl, worse⟩ | ⟨rfl, worse⟩
    · refine ⟨.inr trailingTouched, fun other touched => ?_, fun other touched => ?_⟩
      · rwa [← stopTouched.unique touched]
      · rw [trailingTouched.unique touched]
    · refine ⟨.inl stopTouched, fun other touched => ?_, fun other touched => ?_⟩
      · rw [stopTouched.unique touched]
      · rwa [← trailingTouched.unique touched]
  · rename_i stop stopFound trailingFound
    cases found
    have stopTouched := stopTrigger_some stopFound
    refine ⟨.inl stopTouched, fun other touched => ?_, fun other touched => ?_⟩
    · rw [stopTouched.unique touched]
    · exact absurd touched (trailingTrigger_none trailingFound)
  · rename_i trailing stopFound
    have trailingTouched := @trailingTrigger_some _ _ _ bar _ _ found
    refine ⟨.inr trailingTouched, fun other touched => ?_, fun other touched => ?_⟩
    · exact absurd touched (stopTrigger_none stopFound)
    · rw [trailingTouched.unique touched]

theorem adverseTrigger_none (nothing : adverseTrigger engine trade state bar = none) :
    (∀ level, ¬ StopTouched engine trade (trade.worstPrice bar) level) ∧
      ∀ level, ¬ TrailingTouched engine trade ((state.view bar.symbol).extreme trade)
        (trade.worstPrice bar) level := by
  unfold adverseTrigger at nothing
  split at nothing
  · split_ifs at nothing
  · cases nothing
  · rename_i stopFound
    exact ⟨fun level => stopTrigger_none stopFound, fun level => trailingTrigger_none nothing⟩

end Stops

/-! ### Stops along a path -/

section Paths

variable {engine : EconomicSimulationEngine} {trade : ManagedTrade} {bar : Candle} {prior : ℚ}

theorem ExtremeAhead.extreme_pos (ahead : ExtremeAhead engine trade prior) {reference pct : ℚ}
    (armed : engine.policy.exitRule.takeProfitPct = some pct) (positive : 0 < reference)
    (beyond : trade.signed (trade.targetLevel pct) ≤ trade.signed reference) : 0 < prior := by
  have short := ahead.short pct armed
  have entry := ahead.fromEntry
  unfold signed at short entry beyond
  split_ifs at short entry beyond
  · exact ahead.positive.trans_le entry
  · exact positive.trans_le (neg_le_neg_iff.mp (short.le.trans beyond))

theorem ExtremeAhead.stop_short (ahead : ExtremeAhead engine trade prior) {reference pct : ℚ}
    (armed : engine.policy.exitRule.takeProfitPct = some pct) (positive : 0 < reference)
    (stopped : (∃ level, StopTouched engine trade reference level) ∨
      ∃ level, TrailingTouched engine trade prior reference level) :
    trade.signed reference < trade.signed (trade.targetLevel pct) := by
  by_contra beyond
  rw [not_lt] at beyond
  have extreme := ahead.extreme_pos armed positive beyond
  have short := ahead.short pct armed
  rcases stopped with ⟨_, fraction, stopArmed, rfl, touched⟩ | ⟨_, fraction, armed, rfl, touched⟩
  · have lost := mul_pos ahead.positive (engine.policy.exitRule.stopRange fraction stopArmed).1
    have entry := ahead.fromEntry
    rw [signed_stopLevel] at touched
    linarith
  · have lost := mul_pos extreme (engine.policy.exitRule.trailingRange fraction armed).1
    rw [signed_trailed] at touched
    linarith

theorem WorstTouched.stopped (worst : WorstTouched engine trade prior price level) :
    (∃ other, StopTouched engine trade level other) ∨
      ∃ other, TrailingTouched engine trade prior level other :=
  worst.touched.imp (fun ⟨pct, armed, same, _⟩ => ⟨level, pct, armed, same, le_rfl⟩)
    fun ⟨pct, armed, same, _⟩ => ⟨level, pct, armed, same, le_rfl⟩

variable {path : PricePath bar} {extreme : ℝ → ℝ}

theorem stop_le_trailing (ahead : ExtremeAhead engine trade prior) {time : ℝ} {fixed pct : ℚ}
    (trails : Trails (fun time => trade.signed (path.price time)) (trade.signed (prior : ℝ))
      fun time => trade.signed (extreme time))
    (first : FirstCrossing engine trade path extreme time)
    (fixedArmed : engine.policy.exitRule.stopLossPct = some fixed) (fraction : 0 < pct ∧ pct ≤ 1)
    (untouched : trade.signed (trade.trailed prior pct) < trade.signed (trade.worstPrice bar))
    (reached : trade.AtOrWorse (path.price time) (trade.trailed (extreme time) pct)) :
    trade.signed (trade.stopLevel fixed : ℝ) ≤
      trade.signed (trade.trailed (extreme time) (pct : ℝ)) := by
  have fixedFraction := engine.policy.exitRule.stopRange fixed fixedArmed
  let lag : ℝ → ℝ := fun extreme => trade.signed (trade.trailed (trade.signed extreme) (pct : ℝ))
  have lag_signed : ∀ extreme, lag (trade.signed extreme) =
      trade.signed (trade.trailed extreme (pct : ℝ)) := by
    intro extreme
    show trade.signed (trade.trailed (trade.signed (trade.signed extreme)) _) = _
    rw [signed_signed]
  have inside := first.1.1
  have before : ∀ moment ∈ Set.Icc 0 1, moment < time →
      trade.signed (trade.stopLevel fixed : ℝ) < trade.signed (path.price moment) := by
    refine fun moment between earlier => not_le.mp fun touched => ?_
    exact first.before between earlier ⟨_, .stop fixedArmed (atOrWorse_iff.mpr touched)⟩
  have clear : lag (trade.signed (prior : ℝ)) < trade.signed (path.price 0) := by
    rw [lag_signed, ← trailed_cast]
    exact (signed_lt_signed.mpr untouched).trans_le (path.worst_le ⟨le_rfl, zero_le_one⟩)
  have behind : lag (trade.signed (extreme time)) < trade.signed (trade.stopLevel fixed : ℝ) →
      lag (trade.signed (extreme time)) < trade.signed (extreme time) := by
    rw [lag_signed, signed_trailed]
    intro under
    refine sub_lt_self _ (mul_pos ?_ (Rat.cast_pos.mpr fraction.1))
    have entry := (signed_le_signed.mpr ahead.fromEntry).trans (trails.ahead time inside)
    have positive : (0 : ℝ) < trade.entryPrice := Rat.cast_pos.mpr ahead.positive
    have share : (0 : ℝ) < pct := Rat.cast_pos.mpr fraction.1
    have loss : (0 : ℝ) < fixed := Rat.cast_pos.mpr fixedFraction.1
    unfold signed stopLevel at *
    split_ifs at *
    · exact positive.trans_le entry
    · push_cast at under
      nlinarith
  have touched : trade.signed (path.price time) ≤ lag (trade.signed (extreme time)) := by
    rw [lag_signed]
    exact atOrWorse_iff.mp reached
  rw [← lag_signed]
  exact @Trails.fixed_le _ time _ _ _ lag trails path.continuous_signed inside before clear behind
    touched

theorem stop_conservative (ahead : ExtremeAhead engine trade prior) {level : ℚ}
    (worst : WorstTouched engine trade prior (trade.worstPrice bar) level) (positive : 0 < level)
    (trails : Trails (fun time => trade.signed (path.price time)) (trade.signed (prior : ℝ))
      fun time => trade.signed (extreme time)) :
    Conservative engine trade path extreme level := by
  intro time other first crosses
  have inside := first.1.1
  rw [atOrWorse_iff]
  cases crosses with
  | stop armed reached =>
    have below := (path.worst_le inside).trans (atOrWorse_iff.mp reached)
    exact signed_le_signed.mpr (worst.stop _ ⟨_, armed, rfl, signed_le_signed.mp below⟩)
  | target armed reached =>
    exact (signed_lt_signed.mpr (ahead.stop_short armed positive worst.stopped)).le
  | @trailing pct armed reached =>
    have fraction := engine.policy.exitRule.trailingRange pct armed
    rcases le_or_gt (trade.signed (trade.worstPrice bar)) (trade.signed (trade.trailed prior pct))
      with touched | untouched
    · have least := signed_le_signed.mpr (worst.trailing _ ⟨pct, armed, rfl, touched⟩)
      rw [trailed_cast] at least
      have share : (0 : ℝ) ≤ pct ∧ (pct : ℝ) ≤ 1 :=
        ⟨Rat.cast_nonneg.mpr fraction.1.le, by exact_mod_cast fraction.2⟩
      exact least.trans (signed_trailed_mono share (trails.ahead time inside))
    · rcases worst.touched with ⟨fixed, fixedArmed, rfl, -⟩ | ⟨share, again, rfl, touched⟩
      · exact stop_le_trailing ahead trails first fixedArmed fraction untouched reached
      · rw [Option.some.inj (again.symm.trans armed)] at touched
        exact absurd touched untouched.not_ge

theorem crosses_of_stopped {price : ℚ} {extreme : ℝ}
    (ahead : trade.signed (prior : ℝ) ≤ trade.signed extreme)
    (stopped : (∃ level, StopTouched engine trade price level) ∨
      ∃ level, TrailingTouched engine trade prior price level) :
    ∃ level, Crosses engine trade extreme price level := by
  rcases stopped with ⟨_, pct, armed, rfl, touched⟩ | ⟨_, pct, armed, rfl, touched⟩
  · exact ⟨_, .stop armed (atOrWorse_cast.mpr touched)⟩
  · have fraction := engine.policy.exitRule.trailingRange pct armed
    have share : (0 : ℝ) ≤ pct ∧ (pct : ℝ) ≤ 1 :=
      ⟨Rat.cast_nonneg.mpr fraction.1.le, by exact_mod_cast fraction.2⟩
    have below := signed_le_signed.mpr touched
    rw [trailed_cast] at below
    exact ⟨_, .trailing armed (atOrWorse_iff.mpr (below.trans (signed_trailed_mono share ahead)))⟩

theorem gap_conservative (ahead : ExtremeAhead engine trade prior) (positive : 0 < bar.openPrice)
    (stopped : (∃ level, StopTouched engine trade bar.openPrice level) ∨
      ∃ level, TrailingTouched engine trade prior bar.openPrice level)
    (trails : Trails (fun time => trade.signed (path.price time)) (trade.signed (prior : ℝ))
      fun time => trade.signed (extreme time)) :
    Conservative engine trade path extreme bar.openPrice := by
  have crossed : ∃ level, Crosses engine trade (extreme 0) (path.price 0) level := by
    rw [path.opens]
    exact crosses_of_stopped (trails.ahead 0 ⟨le_rfl, zero_le_one⟩) stopped
  intro time level first crosses
  obtain rfl := first.eq_zero crossed
  rw [path.opens] at crosses
  cases crosses with
  | stop armed reached => exact reached
  | trailing armed reached => exact reached
  | target armed reached =>
    exact absurd (atOrWorse_cast.mp reached) (ahead.stop_short armed positive stopped).not_ge

theorem target_conservative {level pct : ℚ}
    (noStop : ∀ other, ¬ StopTouched engine trade (trade.worstPrice bar) other)
    (noTrailing : ∀ other, ¬ TrailingTouched engine trade prior (trade.worstPrice bar) other)
    (armed : engine.policy.exitRule.takeProfitPct = some pct) (same : level = trade.targetLevel pct)
    : Conservative engine trade path (fun _ => prior) level := by
  intro time other first crosses
  have worst : trade.signed (trade.worstPrice bar : ℝ) ≤ trade.signed (path.price time) :=
    path.worst_le first.1.1
  cases crosses with
  | stop armed reached =>
    have below := worst.trans (atOrWorse_iff.mp reached)
    exact absurd ⟨_, armed, rfl, signed_le_signed.mp below⟩ (noStop _)
  | trailing armed reached =>
    have below := worst.trans (atOrWorse_iff.mp reached)
    rw [← trailed_cast] at below
    exact absurd ⟨_, armed, rfl, signed_le_signed.mp below⟩ (noTrailing _)
  | target again reached =>
    rw [same, Option.some.inj (armed.symm.trans again)]
    exact atOrWorse_iff.mpr le_rfl

/-- The prices at which a fixed set of exits is met form a closed set. -/
theorem isClosed_crosses (extreme : ℝ) :
    IsClosed {price | ∃ level, Crosses engine trade extreme price level} := by
  have below : ∀ level, IsClosed {price | trade.AtOrWorse price level} := by
    intro level
    unfold AtOrWorse
    split_ifs
    · exact isClosed_Iic
    · exact isClosed_Ici
  have above : ∀ level, IsClosed {price | trade.AtOrWorse level price} := by
    intro level
    unfold AtOrWorse
    split_ifs
    · exact isClosed_Ici
    · exact isClosed_Iic
  have optional : ∀ (armed : Option ℚ) (region : ℚ → Set ℝ), (∀ pct, IsClosed (region pct)) →
      IsClosed {price | ∃ pct, armed = some pct ∧ price ∈ region pct} := by
    intro armed region closed
    cases armed with
    | none => simp
    | some pct => simpa using closed pct
  have stops := optional engine.policy.exitRule.stopLossPct
    (fun pct => {price | trade.AtOrWorse price (trade.stopLevel pct)}) fun pct => below _
  have trails := optional engine.policy.exitRule.trailingStopPct
    (fun pct => {price | trade.AtOrWorse price (trade.trailed extreme pct)}) fun pct => below _
  have targets := optional engine.policy.exitRule.takeProfitPct
    (fun pct => {price | trade.AtOrWorse (trade.targetLevel pct) price}) fun pct => above _
  convert (stops.union trails).union targets using 1
  ext price
  constructor
  · rintro ⟨level, crosses⟩
    cases crosses with
    | stop armed reached => exact .inl (.inl ⟨_, armed, reached⟩)
    | trailing armed reached => exact .inl (.inr ⟨_, armed, reached⟩)
    | target armed reached => exact .inr ⟨_, armed, reached⟩
  · rintro ((⟨pct, armed, reached⟩ | ⟨pct, armed, reached⟩) | ⟨pct, armed, reached⟩)
    · exact ⟨_, .stop armed reached⟩
    · exact ⟨_, .trailing armed reached⟩
    · exact ⟨_, .target armed reached⟩

theorem exists_firstCrossing {extreme : ℝ}
    (meets : ∃ time ∈ Set.Icc 0 1, ∃ level, Crosses engine trade extreme (path.price time) level) :
    ∃ time, FirstCrossing engine trade path (fun _ => extreme) time :=
  exists_firstAt_of_closed path.continuous (isClosed_crosses extreme) meets

theorem PricePath.meets_worst (path : PricePath bar) :
    ∃ time ∈ Set.Icc 0 1, path.price time = trade.worstPrice bar := by
  unfold worstPrice
  split_ifs
  · exact path.reachesLow
  · exact path.reachesHigh

theorem PricePath.meets_best (path : PricePath bar) :
    ∃ time ∈ Set.Icc 0 1, path.price time = trade.bestPrice bar := by
  unfold bestPrice
  split_ifs
  · exact path.reachesHigh
  · exact path.reachesLow

end Paths

/-! ### The exits of a run -/

/-- A gap conditional is met at the open, and no path meets one before. At a stop the open is no
better than the levels crossed there, also when the trailing stop follows the path. -/
structure GapConservative (engine : EconomicSimulationEngine) (trade : ManagedTrade) (bar : Candle)
    (prior : ℚ) (trigger : Trigger) : Prop where
  atOpen : ∀ path : PricePath bar, FirstCrossing engine trade path (fun _ => prior) 0
  armed : trigger.reason ≠ "TAKE_PROFIT" → ∀ path : PricePath bar,
    Conservative engine trade path (fun _ => prior) bar.openPrice
  followed : trigger.reason ≠ "TAKE_PROFIT" → ∀ (path : PricePath bar) extreme,
    Running trade path prior extreme → Conservative engine trade path extreme bar.openPrice

/-- Every path meets a standing conditional, and its level is no better than the first crossing
of the levels armed before the bar. At a stop this remains so when the trailing stop follows the
path. -/
structure StandingConservative (engine : EconomicSimulationEngine) (trade : ManagedTrade)
    (bar : Candle) (prior : ℚ) (trigger : Trigger) : Prop where
  crossed : ∀ path : PricePath bar, ∃ time, FirstCrossing engine trade path (fun _ => prior) time
  armed : ∀ path : PricePath bar, Conservative engine trade path (fun _ => prior) trigger.level
  followed : trigger.reason ≠ "TAKE_PROFIT" → ∀ (path : PricePath bar) extreme,
    Running trade path prior extreme → Conservative engine trade path extreme trigger.level

section Runs

variable {engine : EconomicSimulationEngine} {bar : Candle} {state : EngineState}
  {trade : ManagedTrade} {trigger : Trigger}

theorem gapChoice_conservative (ahead : TargetAhead engine (state.view bar.symbol))
    (chosen : gapChoice engine bar state = some (trade, trigger))
    (done : (gapExits engine bar state).outcome = .ok later) :
    GapConservative engine trade bar ((state.view bar.symbol).extreme trade) trigger := by
  have positive := open_pos_of_gap chosen done
  obtain ⟨managed, found, -⟩ := gapExits_of_choice chosen
  have extreme := ahead trade (EngineState.managedTrade_of managed)
  have meets : ((∃ level, StopTouched engine trade bar.openPrice level) ∨
      ∃ level, TrailingTouched engine trade ((state.view bar.symbol).extreme trade) bar.openPrice
        level) ∨ targetTrigger engine trade bar.openPrice = some trigger := by
    unfold gapTrigger at found
    cases stopFound : stopTrigger engine trade bar.openPrice with
    | some stop => exact .inl (.inl ⟨_, stopTrigger_some stopFound⟩)
    | none =>
      rw [stopFound] at found
      cases trailingFound : trailingTrigger engine trade state bar.openPrice with
      | some trailing => exact .inl (.inr ⟨_, trailingTrigger_some trailingFound⟩)
      | none =>
        rw [trailingFound] at found
        exact .inr found
  have stopped : trigger.reason ≠ "TAKE_PROFIT" →
      (∃ level, StopTouched engine trade bar.openPrice level) ∨
        ∃ level, TrailingTouched engine trade ((state.view bar.symbol).extreme trade)
          bar.openPrice level := fun notTarget =>
    meets.resolve_right fun target => notTarget (targetTrigger_some target).1
  refine ⟨fun path => firstAt_zero ?_, fun notTarget path => ?_,
    fun notTarget path moving running => ?_⟩
  · rw [path.opens]
    rcases meets with stopped | target
    · exact crosses_of_stopped le_rfl stopped
    · obtain ⟨-, pct, armed, -, reached⟩ := targetTrigger_some target
      exact ⟨_, .target armed (atOrWorse_cast.mpr reached)⟩
  · exact gap_conservative extreme positive (stopped notTarget) trails_const
  · exact gap_conservative extreme positive (stopped notTarget) running.trails

theorem standingTrigger_cases
    (found : standingTrigger engine trade state bar = .ok (some trigger)) :
    (∃ stop, adverseTrigger engine trade state bar = some stop ∧ trigger.level = stop.level) ∨
      adverseTrigger engine trade state bar = none ∧
        targetTrigger engine trade (trade.bestPrice bar) = some trigger := by
  unfold standingTrigger at found
  split at found
  · rename_i stop adverse target
    cases found
    exact .inl ⟨_, adverse, rfl⟩
  · rename_i adverse
    exact .inr ⟨adverse, Except.ok.inj found⟩
  · rename_i stop _ adverse target
    split_ifs at found
    cases found
    exact .inl ⟨stop, adverse, rfl⟩

theorem standingChoice_conservative {later : EngineState × Bool}
    (ahead : TargetAhead engine (state.view bar.symbol))
    (chosen : standingChoice engine bar state = some (trade, trigger))
    (done : (standingExits engine bar state).outcome = .ok later) :
    StandingConservative engine trade bar ((state.view bar.symbol).extreme trade) trigger := by
  have positive := level_pos_of_standing chosen done
  obtain ⟨managed, found, -⟩ := standingExits_of_choice chosen
  have extreme := ahead trade (EngineState.managedTrade_of managed)
  rcases standingTrigger_cases found with ⟨stop, adverse, same⟩ | ⟨nothing, target⟩
  · have worst := adverseTrigger_some adverse
    rw [← same] at worst
    refine ⟨fun path => exists_firstCrossing ?_, fun path => ?_, fun _ path moving running => ?_⟩
    · obtain ⟨time, inside, meets⟩ := @PricePath.meets_worst trade bar path
      refine ⟨time, inside, ?_⟩
      rw [meets]
      exact crosses_of_stopped le_rfl
        (worst.touched.imp (fun touched => ⟨_, touched⟩) fun touched => ⟨_, touched⟩)
    · exact stop_conservative extreme worst positive trails_const
    · exact stop_conservative extreme worst positive running.trails
  · obtain ⟨reason, pct, armed, same, reached⟩ := targetTrigger_some target
    obtain ⟨noStop, noTrailing⟩ := adverseTrigger_none nothing
    refine ⟨fun path => exists_firstCrossing ?_, fun path => ?_, fun notTarget => ?_⟩
    · obtain ⟨time, inside, meets⟩ := @PricePath.meets_best trade bar path
      refine ⟨time, inside, ?_⟩
      rw [meets]
      exact ⟨_, .target armed (atOrWorse_cast.mpr reached)⟩
    · exact target_conservative noStop noTrailing armed same
    · exact absurd reason notTarget

/-- In every run the extreme of an open trade is short of its target at each bar boundary, and
before each check of the next bar; what a gap check chooses is conservative but for a target, and
so is what the check of the whole bar chooses, a target only as far as the levels armed before the
bar are concerned. -/
theorem exits_conservative {candles : List Candle} {signals : List InformationSignal}
    {funding : List FundingSettlement} {symbol : String}
    (oneSymbol : ∀ bar ∈ candles, bar.symbol = symbol) (count : ℕ)
    (reached : (runFirst engine count none candles
      (initialState engine signals funding)).outcome = .ok state) :
    TargetAhead engine (state.view symbol) ∧
      ∀ (previous : Option Candle) (bar : Candle) (rest : List Candle),
        candles.drop count = bar :: rest →
        (∀ before opened, (beforeGap engine previous bar rest state).outcome = .ok before →
          (gapExits engine bar before).outcome = .ok opened →
          TargetAhead engine (before.view symbol) ∧
            ∀ trade trigger, gapChoice engine bar before = some (trade, trigger) →
              GapConservative engine trade bar ((before.view symbol).extreme trade) trigger) ∧
        ∀ opened stood, (openPhase engine previous bar rest state).outcome = .ok opened →
          (standingExits engine bar opened).outcome = .ok stood →
          TargetAhead engine (opened.view symbol) ∧
            ∀ trade trigger, standingChoice engine bar opened = some (trade, trigger) →
              StandingConservative engine trade bar ((opened.view symbol).extreme trade)
                trigger := by
  have start := targetAhead_reached oneSymbol count reached
  refine ⟨start, fun previous bar rest next => ?_⟩
  obtain rfl : bar.symbol = symbol := by
    refine oneSymbol bar (List.mem_of_mem_drop (i := count) ?_)
    rw [next]
    exact List.mem_cons_self
  refine ⟨fun before opened begun passed => ?_, fun opened stood begun passed => ?_⟩
  · have ahead : TargetAhead engine (before.view bar.symbol) :=
      (beforeGap_ahead start).result (fun _ _ => trivial) begun
    exact ⟨ahead, fun trade trigger chosen => gapChoice_conservative ahead chosen passed⟩
  · have ahead : TargetAhead engine (opened.view bar.symbol) :=
      (openPhase_ahead start).result (fun _ _ => trivial) begun
    exact ⟨ahead, fun trade trigger chosen => standingChoice_conservative ahead chosen passed⟩

end Runs

/-! ### Sample bars -/

/-- A stop two percent below the entry, a trailing stop of one percent and a target five percent
above; orders take no time. -/
def guardedEngine : EconomicSimulationEngine where
  policy :=
    { exitRule :=
        { stopLossPct := some (2 / 100), trailingStopPct := some (1 / 100)
          takeProfitPct := some (5 / 100) } }
  executionModel :=
    { feeModel := { slippageMode := .zero }, decisionLatencyMs := 0, exchangeLatencyMs := 0 }

/-- The first bar, at whose open the sample signal is filled. -/
def entryBar : Candle := sampleBar 100 100 100

def fallingBar : Candle := sampleBar 110 100 90

/-- A bar that opens beyond the target. -/
def gapBar : Candle := sampleBar 110 110 110

/-- A bar that falls nowhere below its open and rises to the target. -/
def swingBar : Candle where
  symbol := "BTCUSDT"
  interval := "1m"
  openTimeMs := 110
  closeTimeMs := 119
  openPrice := 100
  high := 105
  low := 100
  close := 105
  volume := 1

/-- The position of the sample runs. -/
def sampleTrade : ManagedTrade := ⟨100, 100, 100⟩

def enteredRun (bar : Candle) : Run EngineState :=
  runFirst guardedEngine 1 none [entryBar, bar]
    (initialState guardedEngine [sampleSignal 100 .up] [])

theorem exists_ok_of_any {Fault Value : Type} {program : Except Fault Value} {check : Value → Prop}
    [DecidablePred check]
    (found : (program.toOption.any fun value => decide (check value)) = true) :
    ∃ value, program = .ok value ∧ check value := by
  cases program with
  | ok value => exact ⟨value, rfl, of_decide_eq_true found⟩
  | error fault => cases found

/-- The stop of a long position in a bar that falls through it and the trailing stop. -/
theorem falling_bar_conservative :
    ∃ state opened stood, (enteredRun fallingBar).outcome = .ok state ∧
      (openPhase guardedEngine (some entryBar) fallingBar [] state).outcome = .ok opened ∧
      (standingExits guardedEngine fallingBar opened).outcome = .ok stood ∧
      TargetAhead guardedEngine (state.view "BTCUSDT") ∧
      StandingConservative guardedEngine sampleTrade fallingBar
        ((opened.view "BTCUSDT").extreme sampleTrade) ⟨"STOP_LOSS", 98, 100⟩ := by
  obtain ⟨opened, done, ⟨chosen, passed⟩⟩ :
      ∃ opened, (enteredRun fallingBar >>=
          openPhase guardedEngine (some entryBar) fallingBar []).outcome = .ok opened ∧
        standingChoice guardedEngine fallingBar opened =
            some (sampleTrade, ⟨"STOP_LOSS", 98, 100⟩) ∧
          (standingExits guardedEngine fallingBar opened).outcome.isOk = true :=
    exists_ok_of_any (by decide +kernel)
  obtain ⟨state, reached, begun⟩ := Traced.bind_eq_ok.mp done
  obtain ⟨stood, passed⟩ := exists_ok_of_isOk passed
  have oneSymbol : ∀ bar ∈ [entryBar, fallingBar], bar.symbol = "BTCUSDT" := by decide +kernel
  obtain ⟨start, next⟩ := exits_conservative oneSymbol 1 reached
  have standing := (next (some entryBar) fallingBar [] rfl).2 opened stood begun passed
  exact ⟨state, opened, stood, reached, begun, passed, start, standing.2 _ _ chosen⟩

/-! ### Targets beyond the first crossing -/

def gapPath : PricePath gapBar where
  price _ := 110
  continuous := continuousOn_const
  opens := by norm_num [gapBar, sampleBar]
  closes := by norm_num [gapBar, sampleBar]
  within _ _ := by norm_num [gapBar, sampleBar]
  reachesLow := ⟨0, by norm_num, by norm_num [gapBar, sampleBar]⟩
  reachesHigh := ⟨0, by norm_num, by norm_num [gapBar, sampleBar]⟩

/-- Up to 104, back to 102 and up to the target. -/
noncomputable def swingPrice (time : ℝ) : ℝ :=
  max (min (100 + 16 * time) (106 - 8 * time)) (99 + 6 * time)

/-- The highest price of the swing so far. -/
noncomputable def swingPeak (time : ℝ) : ℝ :=
  max (min (100 + 16 * time) 104) (99 + 6 * time)

theorem swing_crest (time : ℝ) : min (100 + 16 * time) (106 - 8 * time) ≤ 104 := by
  rcases le_total time (1 / 4) with early | late
  · exact (min_le_left _ _).trans (by linarith)
  · exact (min_le_right _ _).trans (by linarith)

theorem swing_floor {time : ℝ} (inside : time ∈ Set.Icc 0 1) : 100 ≤ swingPrice time := by
  obtain ⟨start, stop⟩ := inside
  rcases le_total time (1 / 2) with early | late
  · exact le_max_of_le_left (le_min (by linarith) (by linarith))
  · exact le_max_of_le_right (by linarith)

noncomputable def swingPath : PricePath swingBar where
  price := swingPrice
  continuous := by
    unfold swingPrice
    fun_prop
  opens := by norm_num [swingPrice, swingBar]
  closes := by norm_num [swingPrice, swingBar]
  within time inside := by
    refine ⟨?_, max_le ((swing_crest time).trans ?_) ?_⟩
    · simpa [swingBar] using swing_floor inside
    · norm_num [swingBar]
    · have last := inside.2
      norm_num [swingBar]
      linarith
  reachesLow := ⟨0, by norm_num, by norm_num [swingPrice, swingBar]⟩
  reachesHigh := ⟨1, by norm_num, by norm_num [swingPrice, swingBar]⟩

theorem sampleTrade_atOrWorse {price level : ℝ} :
    sampleTrade.AtOrWorse price level ↔ price ≤ level :=
  iff_of_eq (if_pos (by decide +kernel))

theorem swing_running : Running sampleTrade swingPath 100 swingPeak := by
  refine ⟨fun time inside => ?_, fun time inside moment between => ?_, fun time inside => ?_⟩
  · rw [sampleTrade_atOrWorse]
    obtain ⟨start, stop⟩ := inside
    exact le_max_of_le_left (le_min (by linarith) (by norm_num))
  · rw [sampleTrade_atOrWorse]
    have later := between.2
    have crest := swing_crest moment
    refine max_le (le_max_of_le_left (le_min ?_ crest)) (le_max_of_le_right (by linarith))
    exact (min_le_left _ _).trans (by linarith)
  · right
    obtain ⟨start, stop⟩ := inside
    rcases le_total time (1 / 4) with early | late
    · refine ⟨time, ⟨start, le_rfl⟩, ?_⟩
      show swingPeak time = swingPrice time
      unfold swingPeak swingPrice
      rw [min_eq_left (by linarith), min_eq_left (by linarith)]
    · rcases le_total time (5 / 6) with middle | last
      · refine ⟨1 / 4, ⟨by norm_num, late⟩, ?_⟩
        show swingPeak time = swingPrice (1 / 4)
        unfold swingPeak swingPrice
        rw [min_eq_right (by linarith), max_eq_left (by linarith)]
        norm_num
      · refine ⟨time, ⟨start, le_rfl⟩, ?_⟩
        show swingPeak time = swingPrice time
        unfold swingPeak swingPrice
        rw [min_eq_right (by linarith), min_eq_right (by linarith), max_eq_right (by linarith),
          max_eq_right (by linarith)]

theorem sampleTrade_trailed (extreme pct : ℝ) :
    sampleTrade.trailed extreme pct = extreme * (1 - pct) := if_pos (by decide +kernel)

/-- Back from 104 the swing meets, at 102.96, the trailing stop that has followed it. -/
theorem swing_crosses :
    Crosses guardedEngine sampleTrade (swingPeak (19 / 50)) (swingPath.price (19 / 50))
      (sampleTrade.trailed (swingPeak (19 / 50)) ((1 / 100 : ℚ) : ℝ)) := by
  refine .trailing rfl ?_
  rw [sampleTrade_atOrWorse, sampleTrade_trailed]
  show swingPrice (19 / 50) ≤ swingPeak (19 / 50) * _
  norm_num [swingPrice, swingPeak]

/-- It has met nothing before. -/
theorem swing_first_crossing :
    FirstCrossing guardedEngine sampleTrade swingPath swingPeak (19 / 50) := by
  have long : sampleTrade.isLong = true := by decide +kernel
  refine ⟨⟨by norm_num, _, swing_crosses⟩, ?_⟩
  rintro moment ⟨inside, level, crosses⟩
  by_contra earlier
  rw [not_le] at earlier
  have floor := swing_floor inside
  have crest : swingPrice moment ≤ 104 :=
    max_le (swing_crest moment) (by linarith)
  cases crosses with
  | @stop pct armed reached =>
    cases Option.some.inj armed
    rw [sampleTrade_atOrWorse] at reached
    change swingPrice moment ≤ _ at reached
    unfold stopLevel at reached
    rw [if_pos long] at reached
    norm_num [sampleTrade] at reached
    linarith
  | @trailing pct armed reached =>
    cases Option.some.inj armed
    rw [sampleTrade_atOrWorse, sampleTrade_trailed] at reached
    change swingPrice moment ≤ _ at reached
    push_cast at reached
    have peak : swingPeak moment ≤ 104 := max_le (min_le_right _ _) (by linarith)
    rcases le_total moment (1 / 4) with early | late
    · have start := inside.1
      have same : swingPeak moment = swingPrice moment := by
        unfold swingPeak swingPrice
        rw [min_eq_left (by linarith), min_eq_left (by linarith)]
      rw [same] at reached
      linarith
    · have above : 106 - 8 * moment ≤ swingPrice moment :=
        le_max_of_le_left (le_min (by linarith) le_rfl)
      linarith
  | @target pct armed reached =>
    cases Option.some.inj armed
    rw [sampleTrade_atOrWorse] at reached
    change _ ≤ swingPrice moment at reached
    unfold targetLevel at reached
    rw [if_pos long] at reached
    norm_num [sampleTrade] at reached
    linarith

/-- Two targets that are filled at better prices than that of the first crossing: one that the
open has passed, and one that a path meets after a trailing stop that follows it. -/
theorem target_beyond_first_crossing :
    (∃ before, (enteredRun gapBar >>= beforeGap guardedEngine (some entryBar) gapBar []).outcome =
        .ok before ∧
      gapChoice guardedEngine gapBar before = some (sampleTrade, ⟨"TAKE_PROFIT", 105, 100⟩) ∧
      ¬ Conservative guardedEngine sampleTrade gapPath
        (fun _ => ((before.view "BTCUSDT").extreme sampleTrade : ℚ)) gapBar.openPrice) ∧
    ∃ opened, (enteredRun swingBar >>=
          openPhase guardedEngine (some entryBar) swingBar []).outcome = .ok opened ∧
      standingChoice guardedEngine swingBar opened =
        some (sampleTrade, ⟨"TAKE_PROFIT", 105, 100⟩) ∧
      ∃ extreme, Running sampleTrade swingPath ((opened.view "BTCUSDT").extreme sampleTrade : ℚ)
          extreme ∧
        ¬ Conservative guardedEngine sampleTrade swingPath extreme (105 : ℚ) := by
  constructor
  · obtain ⟨before, done, chosen⟩ :
        ∃ before, (enteredRun gapBar >>=
            beforeGap guardedEngine (some entryBar) gapBar []).outcome = .ok before ∧
          gapChoice guardedEngine gapBar before =
            some (sampleTrade, ⟨"TAKE_PROFIT", 105, 100⟩) :=
      exists_ok_of_any (by decide +kernel)
    refine ⟨before, done, chosen, fun conservative => ?_⟩
    have crosses : Crosses guardedEngine sampleTrade
        ((before.view "BTCUSDT").extreme sampleTrade : ℚ) (gapPath.price 0)
        (sampleTrade.targetLevel (5 / 100) : ℚ) := by
      refine .target rfl (sampleTrade_atOrWorse.mpr ?_)
      norm_num [gapPath, sampleTrade, targetLevel, isLong]
    have better := conservative 0 _ (firstAt_zero ⟨_, crosses⟩) crosses
    rw [sampleTrade_atOrWorse] at better
    norm_num [gapBar, sampleBar, sampleTrade, targetLevel, isLong]
      at better
  · obtain ⟨opened, done, chosen, prior⟩ :
        ∃ opened, (enteredRun swingBar >>=
            openPhase guardedEngine (some entryBar) swingBar []).outcome = .ok opened ∧
          standingChoice guardedEngine swingBar opened =
              some (sampleTrade, ⟨"TAKE_PROFIT", 105, 100⟩) ∧
            (opened.view "BTCUSDT").extreme sampleTrade = 100 :=
      exists_ok_of_any (by decide +kernel)
    refine ⟨opened, done, chosen, swingPeak, ?_, fun conservative => ?_⟩
    · rw [prior]
      exact_mod_cast swing_running
    · have better := conservative (19 / 50) _ swing_first_crossing swing_crosses
      rw [sampleTrade_atOrWorse, sampleTrade_trailed] at better
      norm_num [swingPeak] at better

end QuantAgent.Economic
