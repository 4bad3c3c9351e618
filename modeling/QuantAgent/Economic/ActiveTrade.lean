/-
This file proves when the position and the active trade variables agree at every bar boundary:
in every run in which no opening fill is applied while an exit is still waiting.

An exit fixes its quantity when it is triggered. As long as only the exit itself moves the
position until it fills, it closes the whole of it, and clearing the active trade is right. The
run at the end shows what an opening in between does.
-/

import QuantAgent.Economic.Rules

namespace QuantAgent.Economic

open Traced

/-- No opening fill is applied while an exit is still waiting. -/
def OpensUncontested : EngineNote → Prop
  | .trade _ fill _ waiting =>
    fill.action.opening = true → ∀ other ∈ waiting, other.action.closing = false
  | _ => True

instance : DecidablePred OpensUncontested := fun note =>
  match note with
  | .trade _ _ _ _ => inferInstanceAs (Decidable (_ → _))
  | .funding _ _ _ => .isTrue trivial
  | .exitCheck _ => .isTrue trivial
  | .trailingCheck _ _ => .isTrue trivial
  | .admission _ => .isTrue trivial
  | .entry _ _ _ => .isTrue trivial

/-- The active trade variables are set exactly when there is a position, and the waiting exit,
if there is one, closes the whole of it. -/
structure Managed (symbol : String) (core : Core) : Prop extends SingleExit symbol core where
  time : core.quantity symbol ≠ 0 ↔ core.entryTime ≠ none
  price : core.quantity symbol ≠ 0 ↔ core.entryPrice ≠ none
  whole : ∀ fill ∈ core.pendingFills, fill.action.closing = true →
    fill.quantity = |core.quantity symbol|

namespace Managed

variable {symbol : String} {core : Core} {fill : PendingFill}

theorem perm (managed : Managed symbol core) {queue : List PendingFill}
    (reordered : queue.Perm core.pendingFills) :
    Managed symbol { core with pendingFills := queue } :=
  ⟨managed.toSingleExit.perm reordered, managed.time, managed.price,
    fun fill member => managed.whole fill (reordered.mem_iff.mp member)⟩

theorem cons_opening (managed : Managed symbol core) (asset : fill.asset = symbol)
    (opening : fill.action.opening = true) :
    Managed symbol (core.scheduled fill) := by
  refine ⟨managed.toSingleExit.cons_opening asset opening, managed.time, managed.price, ?_⟩
  intro other member closing
  rcases List.mem_cons.mp member with rfl | before
  · rw [TradeAction.not_closing_of_opening opening] at closing
    cases closing
  · exact managed.whole other before closing

theorem cons_exit (managed : Managed symbol core) {posQty : ℚ} {observed : Int}
    {bars : List Candle} (exitable : core.Exitable symbol posQty)
    (exit : ExitFill bars symbol posQty observed fill) :
    Managed symbol (core.scheduled fill) := by
  refine ⟨managed.toSingleExit.cons_exit exitable exit, managed.time, managed.price, ?_⟩
  intro other member closing
  rcases List.mem_cons.mp member with rfl | before
  · show other.quantity = |core.quantity symbol|
    rw [exit.quantity, exitable.quantity]
  · rw [managed.toSingleExit.none_closing exitable.unclaimed other before] at closing
    cases closing

/-- Applying a waiting fill keeps the agreement: an opening sets both sides, an exit clears both
and is the only one. -/
theorem traded {portfolio : Portfolio}
    (managed : Managed symbol (core.scheduled fill))
    (uncontested : OpensUncontested (.trade core.portfolio fill symbol core.pendingFills))
    (done : core.portfolio.applyTrade (fill.tradeRequest symbol) = .ok portfolio) :
    Managed symbol (core.traded fill portfolio) := by
  have exits : SingleExit symbol (core.traded fill portfolio) :=
    ⟨managed.toSingleExit.tail.assets, managed.toSingleExit.tail.single⟩
  by_cases opening : fill.action.opening = true
  · have positive := (traded_opening done opening).2.2
    have nonzero : (core.traded fill portfolio).quantity symbol ≠ 0 := by
      intro zero
      change portfolio.getPositionQuantity symbol = 0 at zero
      rw [zero, zero_mul] at positive
      exact lt_irrefl 0 positive
    refine ⟨exits, ?_, ?_, ?_⟩
    · rw [Core.traded, if_pos opening]
      exact ⟨fun _ unset => (nomatch unset), fun _ => nonzero⟩
    · rw [Core.traded, if_pos opening, if_pos opening]
      exact ⟨fun _ unset => (nomatch unset), fun _ => nonzero⟩
    · intro other member closing
      rw [uncontested opening other member] at closing
      cases closing
  · obtain ⟨closing, -, -, size⟩ := traded_closing done opening
    have others := managed.toSingleExit.tail_opening closing
    have whole : fill.quantity = |core.quantity symbol| :=
      managed.whole fill List.mem_cons_self closing
    have zero : (core.traded fill portfolio).quantity symbol = 0 := by
      change portfolio.getPositionQuantity symbol = 0
      rw [size, whole, sub_self, mul_zero]
    refine ⟨exits, ?_, ?_, ?_⟩
    · rw [Core.traded, if_neg opening]
      exact ⟨fun nonzero => absurd zero nonzero, fun set => absurd rfl set⟩
    · rw [Core.traded, if_neg opening, if_neg opening]
      exact ⟨fun nonzero => absurd zero nonzero, fun set => absurd rfl set⟩
    · intro other member closes
      rw [others other member] at closes
      cases closes

theorem funded {portfolio : Portfolio} {time : Int} {cashflow mark : ℚ}
    (managed : Managed symbol core)
    (done : core.portfolio.applyFunding time symbol cashflow mark = .ok portfolio) :
    Managed symbol { core with portfolio := portfolio } := by
  obtain ⟨-, -, -, rfl⟩ := Portfolio.applyFunding_eq_ok.mp done
  exact ⟨⟨managed.assets, managed.single⟩, managed.time, managed.price, managed.whole⟩

end Managed

/-! ### The loop keeps the agreement -/

section Loop

variable {symbol : String} {engine : EconomicSimulationEngine} {state : EngineState}

theorem stable_managed {bar : Candle} {rest : List Candle} :
    Stable OpensUncontested (fun _ => True) engine bar rest (Managed bar.symbol) := by
  refine ⟨fun _ _ reordered managed => managed.perm reordered, ?_, ?_, ?_, ?_⟩
  · exact fun core fill managed uncontested =>
      ⟨fun _ _ => trivial, fun _ done => managed.traded uncontested done⟩
  · intro core event others before
    have kept : Managed bar.symbol { core with funding := others } :=
      ⟨⟨before.assets, before.single⟩, before.time, before.price, before.whole⟩
    exact ⟨fun _ => kept, fun _ _ => ⟨fun _ _ => trivial, fun _ done => kept.funded done⟩⟩
  · exact fun core fill managed entry => managed.cons_opening entry.asset entry.opening
  · exact fun core posQty observed fill managed exitable exit => managed.cons_exit exitable exit

/-- In every run whose openings meet no waiting exit, at every bar boundary it reaches, the
position is open exactly when the active entry price and time are set. -/
theorem position_iff_active {candles : List Candle} {signals : List InformationSignal}
    {funding : List FundingSettlement} (oneSymbol : ∀ bar ∈ candles, bar.symbol = symbol)
    (count : ℕ)
    (clean : ∀ note ∈ (runFirst engine count none candles
      (initialState engine signals funding)).log, OpensUncontested note)
    (reached : (runFirst engine count none candles
      (initialState engine signals funding)).outcome = .ok state) :
    state.quantity symbol ≠ 0 ↔
      state.activeTradeEntryPrice ≠ none ∧ state.activeTradeEntryTime ≠ none := by
  have start : Managed symbol (initialState engine signals funding).core := by
    refine ⟨⟨fun _ member => (nomatch member), Nat.zero_le 1⟩,
      ⟨fun nonzero => absurd rfl nonzero, fun set => absurd rfl set⟩,
      ⟨fun nonzero => absurd rfl nonzero, fun set => absurd rfl set⟩,
      fun _ member => (nomatch member)⟩
  let inv : List Candle → Core → Prop := fun bars core =>
    (∀ bar ∈ bars, bar.symbol = symbol) ∧ Managed symbol core
  have round : ∀ previous bar rest state, inv (bar :: rest) state.core →
      Keeps OpensUncontested (fun _ => True) (processBar engine previous bar rest state)
        (inv rest) := by
    rintro previous bar rest state ⟨same, managed⟩
    have sameBar := same bar List.mem_cons_self
    rw [← sameBar] at managed
    refine (stable_managed.processBar_keeps (fun _ _ => trivial) managed).mono fun later kept =>
      ⟨fun other member => same other (List.mem_cons_of_mem _ member), ?_⟩
    rwa [sameBar] at kept
  have kept := ((runFirst_keeps round count ⟨oneSymbol, start⟩).result clean reached).2
  exact ⟨fun nonzero => ⟨kept.price.mp nonzero, kept.time.mp nonzero⟩,
    fun set => kept.price.mpr set.1⟩

end Loop

/-! ### An opening in between -/

/-- Two positions are allowed, there is a one percent stop, and an order takes fifteen
milliseconds, one bar and a half. -/
def twoPositionEngine : EconomicSimulationEngine where
  policy :=
    { exitRule := { stopLossPct := some (1 / 100) }, riskBudget := { maxOpenPositions := 2 } }
  executionModel :=
    { feeModel := { slippageMode := .zero }, decisionLatencyMs := 15, exchangeLatencyMs := 0 }

def stoppedBars : List Candle :=
  [sampleBar 100 100 100, sampleBar 110 100 100, sampleBar 120 100 90]

/-- One long entry: it is open after the second bar. -/
theorem position_iff_active_entered :
    ∃ state, (runFirst twoPositionEngine 2 none stoppedBars
        (initialState twoPositionEngine [sampleSignal 100 .up] [])).outcome = .ok state ∧
      (state.quantity "BTCUSDT" ≠ 0 ↔
        state.activeTradeEntryPrice ≠ none ∧ state.activeTradeEntryTime ≠ none) := by
  have done : (runFirst twoPositionEngine 2 none stoppedBars
      (initialState twoPositionEngine [sampleSignal 100 .up] [])).outcome.isOk = true := by
    decide +kernel
  obtain ⟨state, reached⟩ := exists_ok_of_isOk done
  exact ⟨state, reached, position_iff_active (by decide +kernel) 2 (by decide +kernel) reached⟩

/-- Two long entries, the second of which fills together with the stop of the first: the stop
closes one of the two positions and clears the active trade. -/
theorem stopped_position_not_active :
    ((simulate twoPositionEngine stoppedBars [sampleSignal 100 .up, sampleSignal 110 .up]
        []).outcome.toOption.map fun state =>
      (state.quantity "BTCUSDT", state.activeTradeEntryPrice, state.activeTradeEntryTime)) =
      some (100, none, none) := by
  decide +kernel

end QuantAgent.Economic
