/-
This file proves that the extreme a trailing stop follows stays short of the take-profit level
for as long as the position is open.

A fill starts the extreme at the entry price or clears it. Only the close of a bar extends it,
and only of a bar that a trade was open over from its start: the target was then looked for in
the whole of that bar and not found.
-/

import QuantAgent.Economic.Rules

namespace QuantAgent.Economic

open Traced

/-! ### Levels by side -/

namespace ManagedTrade

/-- The price as the account sees it: more is better. -/
def signed {Scale : Type*} [Neg Scale] (trade : ManagedTrade) (price : Scale) : Scale :=
  if trade.isLong then price else -price

/-- The level that follows an extreme by a fraction of it. -/
def trailed {Scale : Type*} [Ring Scale] (trade : ManagedTrade) (extreme pct : Scale) : Scale :=
  if trade.isLong then extreme * (1 - pct) else extreme * (1 + pct)

variable {trade : ManagedTrade} {price level pct : ℚ}

theorem adverse_iff :
    trade.adverse price level = true ↔ trade.signed price ≤ trade.signed level := by
  unfold adverse signed
  split_ifs
  · exact decide_eq_true_iff
  · exact decide_eq_true_iff.trans neg_le_neg_iff.symm

theorem favourable_iff :
    trade.favourable price level = true ↔ trade.signed level ≤ trade.signed price := by
  unfold favourable signed
  split_ifs
  · exact decide_eq_true_iff
  · exact decide_eq_true_iff.trans neg_le_neg_iff.symm

theorem signed_stopLevel :
    trade.signed (trade.stopLevel pct) =
      trade.signed trade.entryPrice - trade.entryPrice * pct := by
  unfold signed stopLevel
  split_ifs <;> ring

theorem signed_targetLevel :
    trade.signed (trade.targetLevel pct) =
      trade.signed trade.entryPrice + trade.entryPrice * pct := by
  unfold signed targetLevel
  split_ifs <;> ring

theorem signed_trailed {Scale : Type*} [CommRing Scale] {extreme pct : Scale} :
    trade.signed (trade.trailed extreme pct) = trade.signed extreme - extreme * pct := by
  unfold signed trailed
  split_ifs <;> ring

end ManagedTrade

/-! ### The view of a trade -/

/-- The position and the active trade variables that the trailing stop reads. -/
structure TradeView where
  quantity : ℚ
  entryTime : Option Int
  entryPrice : Option ℚ
  peakPrice : Option ℚ
  troughPrice : Option ℚ

def EngineState.view (state : EngineState) (symbol : String) : TradeView :=
  ⟨state.quantity symbol, state.activeTradeEntryTime, state.activeTradeEntryPrice,
    state.activeTradePeakPrice, state.activeTradeTroughPrice⟩

/-- The trade is the position above the dust size with its active entry price and time. -/
structure ManagedTrade.Of (trade : ManagedTrade) (quantity : ℚ) (entryPrice : Option ℚ)
    (entryTime : Option Int) : Prop where
  quantity : trade.posQty = quantity
  held : dust < |trade.posQty|
  price : entryPrice = some trade.entryPrice
  time : entryTime = some trade.entryTime

variable {state : EngineState} {symbol : String} {trade : ManagedTrade}

theorem EngineState.managedTrade_of (managed : state.managedTrade symbol = some trade) :
    trade.Of (state.quantity symbol) state.activeTradeEntryPrice state.activeTradeEntryTime :=
  have facts := managedTrade_eq_some managed
  ⟨facts.1, facts.2.1, facts.2.2.1, facts.2.2.2⟩

theorem EngineState.managedTrade_eq
    (of : trade.Of (state.quantity symbol) state.activeTradeEntryPrice state.activeTradeEntryTime) :
    state.managedTrade symbol = some trade := by
  obtain ⟨posQty, entryPrice, entryTime⟩ := trade
  obtain ⟨rfl, held, price, time⟩ := of
  unfold EngineState.managedTrade
  rw [price, time]
  exact if_pos held

/-- The extreme that the trailing stop of a trade follows. -/
def TradeView.extreme (view : TradeView) (trade : ManagedTrade) : ℚ :=
  if trade.isLong then priceOr view.peakPrice trade.entryPrice
  else priceOr view.troughPrice trade.entryPrice

theorem trailingLevel_eq {pct : ℚ} :
    trade.trailingLevel state pct = trade.trailed ((state.view symbol).extreme trade) pct := by
  unfold ManagedTrade.trailingLevel ManagedTrade.trailed TradeView.extreme
  split_ifs <;> rfl

structure ExtremeAhead (engine : EconomicSimulationEngine) (trade : ManagedTrade) (extreme : ℚ) :
    Prop where
  positive : 0 < trade.entryPrice
  fromEntry : trade.signed trade.entryPrice ≤ trade.signed extreme
  short : ∀ pct, engine.policy.exitRule.takeProfitPct = some pct →
    trade.signed extreme < trade.signed (trade.targetLevel pct)

def TargetAhead (engine : EconomicSimulationEngine) (view : TradeView) : Prop :=
  ∀ trade : ManagedTrade, trade.Of view.quantity view.entryPrice view.entryTime →
    ExtremeAhead engine trade (view.extreme trade)

/-- What holds of a trade that was just opened or closed. -/
structure Renewed (inv : TradeView → Prop) : Prop where
  opened : ∀ quantity time price, 0 < price →
    inv ⟨quantity, some time, some price, some price, some price⟩
  closed : ∀ quantity, inv ⟨quantity, none, none, none, none⟩

theorem priceOr_self {price : ℚ} : priceOr (some price) price = price :=
  ite_eq_right_iff.mpr fun _ => rfl

theorem renewed_targetAhead {engine : EconomicSimulationEngine} : Renewed (TargetAhead engine) := by
  refine ⟨fun quantity time price positive trade of => ?_, fun quantity trade of => nomatch of.time⟩
  obtain rfl : price = trade.entryPrice := Option.some.inj of.price
  have extreme : TradeView.extreme ⟨quantity, some time, some trade.entryPrice,
      some trade.entryPrice, some trade.entryPrice⟩ trade = trade.entryPrice := by
    unfold TradeView.extreme
    rw [priceOr_self, ite_self]
  rw [extreme]
  refine ⟨positive, le_rfl, fun pct some => ?_⟩
  rw [ManagedTrade.signed_targetLevel]
  exact lt_add_of_pos_right _
    (mul_pos positive (engine.policy.exitRule.targetRange pct (Option.mem_def.mpr some)))

/-! ### What the loop does to the trade -/

variable {tracked : Bool}

section View

def Leaves (symbol : String) (inv : TradeView → Prop) (program : Run EngineState) : Prop :=
  Holds (fun _ => True) (fun _ => True) program fun later => inv (later.view symbol)

theorem holds_anything {Value : Type} {program : Run Value} :
    Holds (fun _ => True) (fun _ => True) program fun _ => True := by
  intro _
  cases program.outcome <;> trivial

theorem benign_anything : Benign fun _ => True := fun _ _ => trivial

/-- Only the end of a sequence matters. -/
theorem Leaves.after {Value : Type} {inv : TradeView → Prop}
    {program : Run Value} {next : Value → Run EngineState}
    (leaves : ∀ value, Leaves symbol inv (next value)) : Leaves symbol inv (program >>= next) :=
  .bind holds_anything fun value _ => leaves value

variable {inv : TradeView → Prop} {engine : EconomicSimulationEngine} {bar : Candle}
  {rest : List Candle}

theorem applyFill_leaves (renewed : Renewed inv) {fill : PendingFill} {others : List PendingFill} :
    Leaves symbol inv (applyFill engine fill symbol others state) := by
  refine Leaves.after fun _ => ?_
  refine .bind (ledgerStep_holds (fun _ _ => trivial) fun _ done => done)
    fun portfolio done => ?_
  obtain ⟨-, -, ⟨-, price, -⟩, -⟩ := Portfolio.applyTrade_eq_ok.mp done
  refine Leaves.after fun equity => .pure ?_
  split_ifs
  · exact renewed.opened _ _ _ price
  · exact renewed.closed _

theorem scheduleFill_leaves (renewed : Renewed inv) {fill : PendingFill} {now : Int}
    (start : inv (state.view symbol)) :
    Leaves symbol inv (scheduleFill engine fill symbol now state) :=
  .ite (fun _ => applyFill_leaves renewed) fun _ => .pure start

theorem processPending_leaves (renewed : Renewed inv) {due : Int → Bool}
    (start : inv (state.view symbol)) :
    Leaves symbol inv (processPending engine due symbol state) := by
  suffices loop : ∀ (fills : List PendingFill) (state : EngineState), inv (state.view symbol) →
      Leaves symbol inv (applyDue engine due symbol fills state) from
    loop _ { state with pendingFills := [] } start
  intro fills
  induction fills with
  | nil => exact fun state now => .pure now
  | cons fill rest inductionHypothesis =>
    intro state now
    refine .ite (fun _ => ?_) fun _ => inductionHypothesis (state.enqueue fill) now
    exact .bind (applyFill_leaves renewed) inductionHypothesis

theorem settleOne_leaves {event : FundingSettlement} (start : inv (state.view symbol)) :
    Leaves symbol inv (settleOne engine symbol tracked event state) := by
  refine .ite (fun _ => ?_) fun _ => .pure start
  refine Leaves.after fun _ => ?_
  refine .bind (ledgerStep_holds (fun _ _ => trivial) fun _ done => done)
    fun portfolio done => ?_
  obtain ⟨-, -, -, rfl⟩ := Portfolio.applyFunding_eq_ok.mp done
  exact .ite (fun _ => Leaves.after fun _ => .pure start) fun _ => .pure start

theorem settleFunding_leaves {due : Int → Bool} (start : inv (state.view symbol)) :
    Leaves symbol inv (settleFunding engine symbol due tracked state) := by
  suffices loop : ∀ (events : List FundingSettlement) (state : EngineState),
      inv (state.view symbol) →
      Leaves symbol inv (settleDue engine symbol due tracked events state) from
    loop state.funding state start
  intro events
  induction events with
  | nil => exact fun state now => .pure now
  | cons event rest inductionHypothesis =>
    intro state now
    refine .ite (fun _ => ?_) fun _ => .pure now
    have before : inv (EngineState.view { state with funding := rest } symbol) := now
    exact .bind (settleOne_leaves before) inductionHypothesis

section

variable (renewed : Renewed inv) (start : inv (state.view bar.symbol))

include renewed start

theorem executeExit_leaves {order : ExitOrder} {trigger : Int} {spread : Option Reading} :
    Leaves bar.symbol inv (executeExit engine order trigger bar rest spread state) := by
  refine Leaves.after fun result => Leaves.after fun _ => ?_
  exact .ite (fun _ => scheduleFill_leaves renewed start) fun _ => .pure start

theorem executeConditionalExit_leaves {order : ExitOrder}
    {armed trigger : Int} {reference : ℚ} {time : ConditionalTriggerTime} :
    Leaves bar.symbol inv
      (executeConditionalExit engine order armed trigger reference time bar state) :=
  Leaves.after fun _ =>
    .ite (fun _ => scheduleFill_leaves renewed start) fun _ => .pure start

theorem considerEntry_leaves {previous : Option Candle} {signal : InformationSignal} :
    Leaves bar.symbol inv (considerEntry engine previous bar rest signal state) := by
  refine .ite (fun _ => .pure start) fun _ => Leaves.after fun _ => ?_
  refine .ite (fun _ => .pure start) fun _ => ?_
  refine .ite (fun _ => .pure start) fun _ => Leaves.after fun order => ?_
  cases order with
  | none => exact .pure start
  | some order =>
    refine Leaves.after fun result => Leaves.after fun _ => Leaves.after fun _ => ?_
    refine .ite (fun _ => .fail trivial) fun _ => ?_
    exact .ite (fun _ => scheduleFill_leaves renewed start) fun _ => .pure start

theorem processSignals_leaves {previous : Option Candle} :
    Leaves bar.symbol inv (processSignals engine previous bar rest state) := by
  suffices loop : ∀ (signals : List InformationSignal) (state : EngineState),
      inv (state.view bar.symbol) →
      Leaves bar.symbol inv (processArrived engine previous bar rest signals state) from
    loop state.signals state start
  intro signals
  induction signals with
  | nil => exact fun state now => .pure now
  | cons signal others inductionHypothesis =>
    intro state now
    refine .ite (fun _ => ?_) fun _ => .pure now
    have before : inv (EngineState.view { state with signals := others } bar.symbol) := now
    refine .bind ?_ inductionHypothesis
    refine .ite (fun _ => .pure before) fun _ => ?_
    refine .ite (fun _ => ?_) fun _ => considerEntry_leaves renewed before
    refine Leaves.after fun _ => ?_
    refine .ite (fun _ => considerEntry_leaves renewed before) fun _ => ?_
    exact .ite (fun _ => executeExit_leaves renewed before) fun _ => .pure before

theorem gapExits_leaves :
    Leaves bar.symbol inv (gapExits engine bar state) := by
  unfold gapExits
  cases state.managedTrade bar.symbol with
  | none => exact .pure start
  | some trade =>
    refine Leaves.after fun _ => .ite (fun _ => .pure start) fun _ => ?_
    cases gapTrigger engine trade state bar with
    | none => exact .pure start
    | some trigger => exact executeConditionalExit_leaves renewed start

theorem standingExits_leaves :
    Holds (fun _ => True) (fun _ => True) (standingExits engine bar state) fun result =>
      inv (result.1.view bar.symbol) := by
  unfold standingExits
  cases state.managedTrade bar.symbol with
  | none => exact .pure start
  | some trade =>
    refine .ite (fun _ => ?_) fun _ => .pure start
    refine .bind holds_anything fun _ _ => .ite (fun _ => .pure start) fun _ => ?_
    refine .bind holds_anything fun trigger _ => ?_
    cases trigger with
    | none => exact .pure start
    | some trigger =>
      have executed : Leaves bar.symbol inv (executeStanding engine trade trigger bar state) := by
        unfold executeStanding
        cases ambiguousFunding trade.posQty bar state.funding with
        | some event => exact .fail trivial
        | none => exact executeConditionalExit_leaves renewed start
      exact .bind executed fun later kept => .pure kept

theorem closeExpiry_leaves {trade : ManagedTrade} :
    Leaves bar.symbol inv (closeExpiry engine bar rest trade state) :=
  .ite (fun _ => executeExit_leaves renewed start) fun _ => .pure start

end

theorem markToMarket_leaves (start : inv (state.view bar.symbol)) :
    Leaves bar.symbol inv (markToMarket engine bar state) :=
  Leaves.after fun _ => .pure start

end View

/-! ### A bar that leaves the target untouched -/

def Untouched (engine : EconomicSimulationEngine) (bar : Candle) (core : Core) : Prop :=
  ∀ trade : ManagedTrade,
    trade.Of (core.quantity bar.symbol) core.entryPrice core.entryTime →
    trade.entryTime ≤ bar.openTimeMs → hasPendingExit core.pendingFills bar.symbol = false →
    ∀ pct, engine.policy.exitRule.takeProfitPct = some pct →
      trade.signed (trade.bestPrice bar) < trade.signed (trade.targetLevel pct)

/-- Inside a bar: what waits comes after the open. -/
structure Passing (engine : EconomicSimulationEngine) (bar : Candle) (core : Core) : Prop where
  waiting : ∀ fill ∈ core.pendingFills, bar.openTimeMs < fill.fillTimestampMs
  untouched : Untouched engine bar core

namespace Passing

variable {engine : EconomicSimulationEngine} {bar : Candle} {core : Core} {fill : PendingFill}

theorem perm (passing : Passing engine bar core) {queue : List PendingFill}
    (reordered : queue.Perm core.pendingFills) :
    Passing engine bar { core with pendingFills := queue } := by
  refine ⟨fun fill member => passing.waiting fill (reordered.mem_iff.mp member), ?_⟩
  intro trade of early unclaimed
  refine passing.untouched trade of early ?_
  rw [← unclaimed]
  exact (List.Perm.any_eq reordered).symm

theorem traded
    (passing : Passing engine bar (core.scheduled fill))
    (portfolio : Portfolio) : Passing engine bar (core.traded fill portfolio) := by
  refine ⟨fun other member => passing.waiting other (List.mem_cons_of_mem _ member), ?_⟩
  intro trade of early
  have time := of.time
  unfold Core.traded at time
  dsimp only at time
  split_ifs at time with opening
  rw [← Option.some.inj time] at early
  exact absurd early (passing.waiting fill List.mem_cons_self).not_ge

theorem funded (passing : Passing engine bar core) {portfolio : Portfolio}
    (same : portfolio.positions = core.portfolio.positions) :
    Passing engine bar { core with portfolio := portfolio } := by
  refine ⟨passing.waiting, fun trade of early unclaimed => ?_⟩
  have quantity : portfolio.getPositionQuantity bar.symbol = core.quantity bar.symbol := by
    unfold Core.quantity Portfolio.getPositionQuantity Portfolio.position
    rw [same]
  refine passing.untouched trade ⟨?_, of.held, of.price, of.time⟩ early unclaimed
  rw [← quantity]
  exact of.quantity

end Passing

section Loop

variable {engine : EconomicSimulationEngine} {later : EngineState} {previous : Option Candle}
  {bar : Candle} {rest : List Candle}

def LeavesPassing (engine : EconomicSimulationEngine) (bar : Candle) (program : Run EngineState) :
    Prop :=
  Keeps (fun _ => True) (fun _ => True) program (Passing engine bar)

theorem settleFunding_passing {due : Int → Bool} (passing : Passing engine bar state.core) :
    LeavesPassing engine bar (settleFunding engine bar.symbol due tracked state) := by
  refine (settleFunding_holds benign_anything ?_ passing).mono fun _ kept => kept.1
  intro core event others before _
  have here : Passing engine bar { core with funding := others } :=
    ⟨before.waiting, before.untouched⟩
  refine ⟨fun _ => here, fun _ _ => ⟨fun _ _ => trivial, fun portfolio done => ?_⟩⟩
  obtain ⟨-, -, -, rfl⟩ := Portfolio.applyFunding_eq_ok.mp done
  exact here.funded rfl

theorem processPending_passing {due : Int → Bool} (passing : Passing engine bar state.core) :
    LeavesPassing engine bar (processPending engine due bar.symbol state) := by
  refine (processPending_holds benign_anything (fun _ _ reordered before => before.perm reordered)
    ?_ passing).mono fun _ kept => kept.1
  exact fun core fill before _ _ => ⟨fun _ _ => trivial, fun portfolio _ => before.traded portfolio⟩

theorem closeExpiry_passing (passing : Passing engine bar state.core) :
    LeavesPassing engine bar (closeExpiry engine bar rest trade state) := by
  refine .ite (fun _ => ?_) fun _ => .pure passing
  refine executeExit_keeps benign_anything passing fun fill exit => ⟨fun _ _ => ?_, fun later => ?_⟩
  · refine ⟨fun _ _ => trivial, fun portfolio _ => ⟨passing.waiting, fun trade of => ?_⟩⟩
    have closing : ¬ fill.action.opening = true := by
      rw [exit.action, exitAction_opening]
      exact Bool.false_ne_true
    have time := of.time
    rw [Core.traded, if_neg closing] at time
    cases time
  · refine ⟨fun other member => ?_, fun trade of early unclaimed => ?_⟩
    · rcases List.mem_append.mp member with before | same
      · exact passing.waiting other before
      · rw [List.mem_singleton.mp same]
        exact bar.closeAfterOpen.trans later
    · refine passing.untouched trade of early (Bool.eq_false_iff.mpr fun claimed => ?_)
      refine Bool.eq_false_iff.mp unclaimed ?_
      show (state.pendingFills ++ [fill]).any _ = true
      rw [List.any_append]
      exact Bool.or_eq_true_iff.mpr (.inl claimed)

theorem openPhase_waiting :
    Keeps (fun _ => True) (fun _ => True) (openPhase engine previous bar rest state) fun core =>
      ∀ fill ∈ core.pendingFills, bar.openTimeMs < fill.fillTimestampMs := by
  let inv : Core → Prop := fun core =>
    ∀ fill ∈ core.pendingFills, bar.openTimeMs < fill.fillTimestampMs
  have apply : ∀ (core : Core) fill, inv core →
      Applies (fun _ => True) (fun _ => True) bar.symbol core fill inv := fun core fill before _ =>
    ⟨fun _ _ => trivial, fun _ _ => before⟩
  have schedule : ∀ (core : Core) fill, inv core →
      Schedules (fun _ => True) (fun _ => True) bar.symbol bar.openTimeMs core fill inv := by
    refine fun core fill before => ⟨fun _ => apply core fill before, fun later other member => ?_⟩
    rcases List.mem_append.mp member with earlier | same
    · exact before other earlier
    · rw [List.mem_singleton.mp same]
      exact later
  refine .bind holds_anything fun funded _ => ?_
  have filled : Holds (fun _ => True) (fun _ => True)
      (processPending engine (fun time => time ≤ bar.openTimeMs) bar.symbol funded)
      fun later => inv later.core := by
    have none : Holds (fun _ => True) (fun _ => True)
        (processPending engine (fun time => time ≤ bar.openTimeMs) bar.symbol funded)
        fun later => True ∧
          ∀ fill ∈ later.pendingFills, decide (fill.fillTimestampMs ≤ bar.openTimeMs) = false :=
      @processPending_holds _ _ _ _ _ (fun _ => True) _ benign_anything (fun _ _ _ _ => trivial)
        (fun _ _ _ _ _ => ⟨fun _ _ => trivial, fun _ _ => trivial⟩) trivial
    exact none.mono fun later kept fill member =>
      not_le.mp (of_decide_eq_false (kept.2 fill member))
  refine .bind filled fun later kept => ?_
  refine .bind (processSignals_keeps benign_anything
    (fun core fill before _ => schedule core fill before)
    (fun core _ fill before _ _ => schedule core fill before) kept) fun entered kept => ?_
  exact gapExits_keeps benign_anything kept fun _ _ fill _ _ _ _ => apply _ fill kept

/-! ### The check of a bar and its trailing extremes -/

theorem standingTrigger_none (nothing : standingTrigger engine trade state bar = .ok none) :
    targetTrigger engine trade (trade.bestPrice bar) = none := by
  unfold standingTrigger at nothing
  split at nothing
  · cases nothing
  · exact Except.ok.inj nothing
  · split_ifs at nothing
    cases nothing

theorem armed_eq_some {armed : Option ℚ} {touched : ℚ → Bool} {made : ℚ → Trigger}
    {trigger : Trigger} :
    (do let pct ← armed; if touched pct then return made pct else none) = some trigger ↔
      ∃ pct, armed = some pct ∧ touched pct = true ∧ made pct = trigger := by
  cases armed with
  | none => exact ⟨nofun, nofun⟩
  | some pct => simp

theorem armed_eq_none {armed : Option ℚ} {touched : ℚ → Bool} {made : ℚ → Trigger} :
    (do let pct ← armed; if touched pct then return made pct else none) = none ↔
      ∀ pct, armed = some pct → touched pct = false := by
  cases armed with
  | none => exact ⟨nofun, fun _ => rfl⟩
  | some pct => simp

theorem targetTrigger_none {price pct : ℚ} (nothing : targetTrigger engine trade price = none)
    (armed : engine.policy.exitRule.takeProfitPct = some pct) :
    trade.signed price < trade.signed (trade.targetLevel pct) := by
  refine not_le.mp fun reached => ?_
  rw [← ManagedTrade.favourable_iff] at reached
  exact Bool.false_ne_true ((armed_eq_none.mp nothing pct armed).symm.trans reached)

/-- A bar whose check finds nothing is left as it was, its target untouched. -/
theorem standingExits_untouched :
    Holds (fun _ => True) (fun _ => True) (standingExits engine bar state) fun result =>
      result.2 = false → result.1 = state ∧ Untouched engine bar state.core := by
  unfold standingExits
  cases managed : state.managedTrade bar.symbol with
  | none =>
    refine .pure fun _ => ⟨rfl, fun trade of => ?_⟩
    exact nomatch managed.symm.trans (EngineState.managedTrade_eq of)
  | some trade =>
    have same : ∀ other : ManagedTrade,
        other.Of (state.core.quantity bar.symbol) state.core.entryPrice state.core.entryTime →
        trade = other := fun other of =>
      Option.some.inj (managed.symm.trans (EngineState.managedTrade_eq of))
    refine .ite (fun _ => ?_) fun late => .pure fun _ => ⟨rfl, fun other of early => ?_⟩
    · refine .bind holds_anything fun _ _ => ?_
      refine .ite (fun claimed => .pure fun _ => ⟨rfl, fun other of _ free => ?_⟩)
        fun _ => ?_
      · exact absurd claimed (Bool.eq_false_iff.mp free)
      · refine .bind (.lift (fun _ found => found) fun _ _ => trivial)
          fun trigger found => ?_
        cases trigger with
        | none =>
          refine .pure fun _ => ⟨rfl, fun other of _ _ pct some => ?_⟩
          rw [← same other of]
          exact targetTrigger_none (standingTrigger_none found) some
        | some trigger =>
          exact .bind holds_anything fun later _ => .pure fun found => nomatch found
    · rw [← same other of] at early
      exact absurd early late

theorem priceOr_some (price fallback : ℚ) :
    priceOr (some price) fallback = fallback ∨ priceOr (some price) fallback = price :=
  (ite_eq_or_eq _ _ _).elim .inl .inr

theorem signed_extreme_trail (trade : ManagedTrade) :
    let extreme := (((state.trail trade bar).view bar.symbol).extreme trade)
    trade.signed extreme = trade.signed trade.entryPrice ∨
      trade.signed extreme = max (trade.signed ((state.view bar.symbol).extreme trade))
        (trade.signed (trade.bestPrice bar)) := by
  unfold TradeView.extreme ManagedTrade.signed ManagedTrade.bestPrice
  split_ifs with long
  · exact priceOr_some _ _
  · refine (priceOr_some _ _).imp (congrArg (-·)) fun extended => ?_
    rw [max_neg_neg]
    exact congrArg (-·) extended

theorem trail_ahead (managed : state.managedTrade bar.symbol = some trade)
    (early : trade.entryTime ≤ bar.openTimeMs)
    (unclaimed : hasPendingExit state.pendingFills bar.symbol = false)
    (untouched : Untouched engine bar state.core)
    (ahead : TargetAhead engine (state.view bar.symbol)) :
    TargetAhead engine ((state.trail trade bar).view bar.symbol) := by
  have of := EngineState.managedTrade_of managed
  intro other again
  obtain rfl : trade = other :=
    Option.some.inj (managed.symm.trans (EngineState.managedTrade_eq again))
  obtain ⟨positive, below, short⟩ := ahead trade of
  have entry : ∀ pct, engine.policy.exitRule.takeProfitPct = some pct →
      trade.signed trade.entryPrice < trade.signed (trade.targetLevel pct) := fun pct some =>
    below.trans_lt (short pct some)
  refine ⟨positive, ?_, fun pct some => ?_⟩
  · rcases signed_extreme_trail trade with same | extended
    · exact same.ge
    · rw [extended]
      exact le_max_of_le_left below
  · rcases signed_extreme_trail trade with same | extended
    · rw [same]
      exact entry pct some
    · rw [extended]
      exact max_lt (short pct some) (untouched trade of early unclaimed pct some)

theorem closeTimeExits_ahead {standingTriggered : Bool}
    (ahead : TargetAhead engine (state.view bar.symbol))
    (passing : standingTriggered = false → Passing engine bar state.core) :
    Leaves bar.symbol (TargetAhead engine)
      (closeTimeExits engine bar rest standingTriggered state) := by
  unfold closeTimeExits
  cases state.managedTrade bar.symbol with
  | none => exact .pure ahead
  | some trade =>
    refine Leaves.after fun _ => .ite (fun _ => .pure ahead) fun _ => ?_
    have expired := @closeExpiry_leaves state (TargetAhead engine) engine bar rest
      renewed_targetAhead ahead trade
    cases standingTriggered with
    | true => exact .bind expired fun later kept => .pure kept
    | false =>
      refine .bind (.and expired (closeExpiry_passing (passing rfl))) fun later kept => ?_
      unfold updateTrailing
      refine .ite (fun triggered => nomatch triggered) fun _ => ?_
      cases managed : later.managedTrade bar.symbol with
      | none => exact .pure kept.1
      | some trade =>
        refine .ite (fun early => Leaves.after fun _ => ?_) fun _ => .pure kept.1
        refine .ite (fun _ => .pure kept.1) fun unclaimed => .pure ?_
        exact trail_ahead managed early (Bool.eq_false_iff.mpr unclaimed) kept.2.untouched kept.1

/-! ### Whole runs -/

def beforeGap (engine : EconomicSimulationEngine) (previous : Option Candle) (bar : Candle)
    (rest : List Candle) (state : EngineState) : Run EngineState := do
  let state ← settleFunding engine bar.symbol (fun time => time ≤ bar.openTimeMs) true state
  let state ← processPending engine (fun time => time ≤ bar.openTimeMs) bar.symbol state
  processSignals engine previous bar rest state

theorem openPhase_eq :
    openPhase engine previous bar rest state =
      beforeGap engine previous bar rest state >>= gapExits engine bar := by
  unfold openPhase beforeGap
  simp only [bind_assoc]

theorem beforeGap_ahead (ahead : TargetAhead engine (state.view bar.symbol)) :
    Leaves bar.symbol (TargetAhead engine) (beforeGap engine previous bar rest state) := by
  refine .bind (settleFunding_leaves ahead) fun funded kept => ?_
  refine .bind (processPending_leaves renewed_targetAhead kept) fun filled kept => ?_
  exact processSignals_leaves renewed_targetAhead kept

theorem openPhase_ahead (ahead : TargetAhead engine (state.view bar.symbol)) :
    Leaves bar.symbol (TargetAhead engine) (openPhase engine previous bar rest state) := by
  rw [openPhase_eq]
  exact .bind (beforeGap_ahead ahead) fun before kept =>
    gapExits_leaves renewed_targetAhead kept

theorem processBar_ahead (ahead : TargetAhead engine (state.view bar.symbol)) :
    Leaves bar.symbol (TargetAhead engine) (processBar engine previous bar rest state) := by
  refine .bind (.and (openPhase_ahead ahead) openPhase_waiting) fun opened kept => ?_
  refine .bind (.and (standingExits_leaves renewed_targetAhead kept.1)
    standingExits_untouched) fun stood found => ?_
  obtain ⟨stood, standingTriggered⟩ := stood
  obtain ⟨stoodAhead, found⟩ := found
  let inside : EngineState → Prop := fun later =>
    TargetAhead engine (later.view bar.symbol) ∧
      (standingTriggered = false → Passing engine bar later.core)
  have start : inside stood := by
    refine ⟨stoodAhead, fun untriggered => ?_⟩
    obtain ⟨same, untouched⟩ := found untriggered
    dsimp only at same
    rw [same]
    exact ⟨kept.2, untouched⟩
  have settle : ∀ (due : Int → Bool) (tracked : Bool) (later : EngineState), inside later →
      Holds (fun _ => True) (fun _ => True)
        (settleFunding engine bar.symbol due tracked later) inside := by
    rintro due tracked later ⟨ahead, passing⟩
    cases standingTriggered with
    | true => exact (settleFunding_leaves ahead).mono fun _ kept => ⟨kept, nofun⟩
    | false =>
      exact (Holds.and (settleFunding_leaves ahead) (settleFunding_passing (passing rfl))).mono
        fun _ kept => ⟨kept.1, fun _ => kept.2⟩
  have pending : ∀ (due : Int → Bool) (later : EngineState), inside later →
      Holds (fun _ => True) (fun _ => True)
        (processPending engine due bar.symbol later) inside := by
    rintro due later ⟨ahead, passing⟩
    have leaves := @processPending_leaves later bar.symbol _ engine renewed_targetAhead due ahead
    cases standingTriggered with
    | true => exact leaves.mono fun _ kept => ⟨kept, nofun⟩
    | false =>
      exact (Holds.and leaves (processPending_passing (passing rfl))).mono
        fun _ kept => ⟨kept.1, fun _ => kept.2⟩
  refine .bind (.bind (settle _ _ _ start) (pending _)) fun later kept => ?_
  refine .bind (settle _ _ _ kept) fun funded kept => ?_
  refine .bind (closeTimeExits_ahead kept.1 kept.2) fun expired kept => ?_
  exact .bind (processPending_leaves renewed_targetAhead kept) fun filled kept =>
    markToMarket_leaves kept

theorem runFirst_ahead {bars : List Candle} (count : ℕ)
    (oneSymbol : ∀ bar ∈ bars, bar.symbol = symbol)
    (ahead : TargetAhead engine (state.view symbol)) :
    Leaves symbol (TargetAhead engine) (runFirst engine count previous bars state) := by
  induction count generalizing previous bars state with
  | zero =>
    unfold runFirst
    exact .pure ahead
  | succ count inductionHypothesis =>
    cases bars with
    | nil =>
      unfold runFirst
      exact .pure ahead
    | cons bar rest =>
      obtain ⟨rfl, others⟩ := List.forall_mem_cons.mp oneSymbol
      exact .bind (processBar_ahead ahead) fun later kept => inductionHypothesis others kept

theorem targetAhead_reached {candles : List Candle} {signals : List InformationSignal}
    {funding : List FundingSettlement}
    (oneSymbol : ∀ bar ∈ candles, bar.symbol = symbol) (count : ℕ)
    (reached : (runFirst engine count none candles
      (initialState engine signals funding)).outcome = .ok state) :
    TargetAhead engine (state.view symbol) :=
  (runFirst_ahead count oneSymbol (renewed_targetAhead.closed _)).result
    (fun _ _ => trivial) reached

end Loop

end QuantAgent.Economic
