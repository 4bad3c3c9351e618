/-
This file bounds the gross exposure of the simulator: the notional, at the prices of the fills
that made it, of the open position and of every entry that waits for its fill.

An admission compares the cap with reservations, and a fill never exceeds its reservation, so
waiting entries are safe. The open position is compared at the bar's open instead of at its
entry, so the sum stays below the cap at every step of every round unless an entry is admitted
beside a position that was entered above the open. The run at the end does this: the price has
fallen while the exit of the position waits.
-/

import QuantAgent.Economic.Rules

namespace QuantAgent.Economic

open Traced Portfolio

/-! ### Exposure -/

def PendingFill.notional (fill : PendingFill) : ℚ := fill.price * fill.quantity

/-- The notional of a position at its average entry price. -/
def entryValue (_ : String) (quantity entry : ℚ) : ℚ := |quantity| * entry

def entryNotional (portfolio : Portfolio) (pendingFills : List PendingFill) : ℚ :=
  (portfolio.positions.map (valued entryValue)).sum +
    ((pendingOpenings pendingFills).map PendingFill.notional).sum

/-- No entry that fills is admitted beside a position whose average entry price lies above the
bar's open. -/
def EntersAtCost : EngineNote → Prop
  | .entry portfolio bar isFilled =>
    isFilled = true → portfolio.getEntryPrice bar.symbol ≤ bar.openPrice
  | _ => True

instance : DecidablePred EntersAtCost := fun note =>
  match note with
  | .trade _ _ _ _ => .isTrue trivial
  | .funding _ _ _ => .isTrue trivial
  | .exitCheck _ => .isTrue trivial
  | .trailingCheck _ _ => .isTrue trivial
  | .admission _ => .isTrue trivial
  | .entry _ _ _ => inferInstanceAs (Decidable (_ → _))

/-! ### What a trade does to the notional -/

theorem entryValue_flat (asset : String) (entry : ℚ) : entryValue asset 0 entry = 0 := by
  rw [entryValue, abs_zero, zero_mul]

/-- The notional an outcome adds to the position it finds: the fill's for an opening, none for
a closing. -/
theorem tradeOutcome_entryValue {portfolio : Portfolio} {trade : TradeRequest}
    {newQty newEntry realized : ℚ} (quantity : 0 < trade.quantity)
    (outcome : tradeOutcome (portfolio.position trade.asset) trade =
      .ok (newQty, newEntry, realized)) :
    |newQty| * newEntry ≤ |portfolio.getPositionQuantity trade.asset| *
        portfolio.getEntryPrice trade.asset +
      if trade.action.opening then trade.price * trade.quantity else 0 := by
  unfold tradeOutcome at outcome
  simp only [← getPositionQuantity_eq, ← getEntryPrice_eq] at outcome
  have entryNonneg : 0 ≤ portfolio.getEntryPrice trade.asset := by
    rw [getEntryPrice]
    cases portfolio.position trade.asset with
    | none => exact le_refl _
    | some position => exact position.pricePositive.le
  set current := portfolio.getPositionQuantity trade.asset
  set entry := portfolio.getEntryPrice trade.asset
  have unit : |trade.action.direction| = 1 := by
    cases trade.action <;> norm_num [TradeAction.direction]
  by_cases opening : trade.action.opening = true
  · simp only [if_pos opening] at outcome ⊢
    split_ifs at outcome
    simp only [Except.ok.injEq, Prod.mk.injEq] at outcome
    obtain ⟨rfl, rfl, -⟩ := outcome
    have size : 0 < |current| + trade.quantity :=
      add_pos_of_nonneg_of_pos (abs_nonneg _) quantity
    rw [abs_mul, unit, one_mul, abs_of_pos size]
    apply le_of_eq
    field_simp
  · simp only [if_neg opening] at outcome ⊢
    split_ifs at outcome with _ exceeds
    simp only [Except.ok.injEq, Prod.mk.injEq] at outcome
    obtain ⟨rfl, rfl, -⟩ := outcome
    rw [abs_mul, unit, one_mul, abs_of_nonneg (sub_nonneg.mpr (not_lt.mp exceeds)), add_zero]
    exact mul_le_mul_of_nonneg_right (by linarith) entryNonneg

/-! ### The invariant -/

/-- Waiting entries stay within their reservations, and with the positions within the cap. -/
structure Capped (engine : EconomicSimulationEngine) (core : Core) : Prop where
  distinct : KeyedList.Distinct Position.asset core.portfolio.positions
  within : ∀ fill ∈ core.pendingFills, fill.action.opening = true →
    fill.notional ≤ fill.reservationNotional
  bound : entryNotional core.portfolio core.pendingFills ≤
    engine.policy.riskBudget.maxGrossExposureUsdt

/-- A position held alone makes up the notional. -/
theorem sum_entryValue_sole {portfolio : Portfolio} {symbol : String}
    (distinct : KeyedList.Distinct Position.asset portfolio.positions)
    (sole : ∀ position ∈ portfolio.positions, position.asset = symbol) :
    (portfolio.positions.map (valued entryValue)).sum =
      |portfolio.getPositionQuantity symbol| * portfolio.getEntryPrice symbol := by
  rw [getPositionQuantity_eq, getEntryPrice_eq, Portfolio.position]
  cases held : portfolio.positions with
  | nil => exact (mul_comm _ _).trans (zero_mul _) |>.symm
  | cons position others =>
    rw [held] at distinct sole
    obtain ⟨fresh, -⟩ := List.nodup_cons.mp distinct
    have alone : others = [] := by
      refine List.eq_nil_iff_forall_not_mem.mpr fun other member => fresh ?_
      rw [sole _ List.mem_cons_self, ← sole _ (List.mem_cons_of_mem _ member)]
      exact List.mem_map_of_mem member
    have found : KeyedList.lookup Position.asset (position :: others) symbol = some position :=
      List.find?_cons_of_pos (by simpa using sole _ List.mem_cons_self)
    rw [found, alone, List.map_singleton, List.sum_singleton]
    rfl

theorem pendingOpenings_cons (fill : PendingFill) (pendingFills : List PendingFill) :
    ((pendingOpenings (fill :: pendingFills)).map PendingFill.notional).sum =
      (if fill.action.opening then fill.price * fill.quantity else 0) +
        ((pendingOpenings pendingFills).map PendingFill.notional).sum := by
  unfold pendingOpenings
  rw [List.filter_cons]
  split_ifs with opening
  · rw [List.map_cons, List.sum_cons]
    rfl
  · rw [zero_add]

namespace Capped

variable {engine : EconomicSimulationEngine} {core : Core} {fill : PendingFill}

theorem perm (capped : Capped engine core) {queue : List PendingFill}
    (reordered : queue.Perm core.pendingFills) :
    Capped engine { core with pendingFills := queue } := by
  refine ⟨capped.distinct,
    fun fill member => capped.within fill (reordered.mem_iff.mp member), ?_⟩
  have same : ((pendingOpenings queue).map PendingFill.notional).sum =
      ((pendingOpenings core.pendingFills).map PendingFill.notional).sum :=
    ((reordered.filter _).map _).sum_eq
  show _ + ((pendingOpenings queue).map PendingFill.notional).sum ≤ _
  rw [same]
  exact capped.bound

variable {portfolio : Portfolio} {symbol : String}

theorem traded (capped : Capped engine (core.scheduled fill))
    (done : core.portfolio.applyTrade (fill.tradeRequest symbol) = .ok portfolio) :
    Capped engine (core.traded fill portfolio) := by
  obtain ⟨-, -, ⟨quantity, -⟩, newQty, newEntry, realized, positions, outcome, placed,
    -, rfl⟩ := applyTrade_eq_ok.mp done
  refine ⟨distinct_positionsAfter capped.distinct placed,
    fun other member => capped.within other (List.mem_cons_of_mem _ member), ?_⟩
  have sums := sum_positionsAfter entryValue_flat capped.distinct placed
  have added := tradeOutcome_entryValue quantity outcome
  have bound := capped.bound
  rw [entryNotional, pendingOpenings_cons] at bound
  show (positions.map _).sum + ((pendingOpenings core.pendingFills).map _).sum ≤ _
  unfold entryValue at sums bound ⊢
  change _ ≤ _ + if fill.action.opening then fill.price * fill.quantity else 0 at added
  linarith

theorem funded {time : Int} {cashflow mark : ℚ} (capped : Capped engine core)
    (done : core.portfolio.applyFunding time symbol cashflow mark = .ok portfolio) :
    Capped engine { core with portfolio := portfolio } := by
  obtain ⟨-, -, -, rfl⟩ := applyFunding_eq_ok.mp done
  exact ⟨capped.distinct, capped.within, capped.bound⟩

variable {bar : Candle} {rest : List Candle}

theorem cons_entry (capped : Capped engine core)
    (entry : AdmittedFill EntersAtCost engine bar rest core fill) :
    Capped engine (core.scheduled fill) := by
  refine ⟨capped.distinct, ?_, ?_⟩
  · intro other member opening
    rcases List.mem_cons.mp member with rfl | before
    · exact entry.within
    · exact capped.within other before opening
  · have waiting : ((pendingOpenings core.pendingFills).map PendingFill.notional).sum ≤
        ((pendingOpenings core.pendingFills).map PendingFill.reservationNotional).sum := by
      refine List.sum_le_sum fun other member => ?_
      obtain ⟨queued, opening⟩ := List.mem_filter.mp member
      exact capped.within other queued opening
    have held : |core.portfolio.getPositionQuantity bar.symbol| *
        core.portfolio.getEntryPrice bar.symbol ≤ |core.quantity bar.symbol| * bar.openPrice :=
      mul_le_mul_of_nonneg_left (entry.entered rfl) (abs_nonneg _)
    have reserved := entry.reserved
    have within : fill.price * fill.quantity ≤ fill.reservationNotional := entry.within
    show (core.portfolio.positions.map _).sum + _ ≤ _
    rw [sum_entryValue_sole capped.distinct entry.sole, pendingOpenings_cons,
      if_pos entry.opening]
    linarith

theorem cons_exit {bars : List Candle} {posQty : ℚ} {observed : Int} (capped : Capped engine core)
    (exit : ExitFill bars symbol posQty observed fill) :
    Capped engine (core.scheduled fill) := by
  have notOpening : ¬ fill.action.opening = true := by
    rw [exit.action, exitAction_opening]
    exact Bool.false_ne_true
  refine ⟨capped.distinct, ?_, ?_⟩
  · intro other member opening
    rcases List.mem_cons.mp member with rfl | before
    · exact absurd opening notOpening
    · exact capped.within other before opening
  · show _ + ((pendingOpenings (fill :: core.pendingFills)).map _).sum ≤ _
    rw [pendingOpenings_cons, if_neg notOpening, zero_add]
    exact capped.bound

theorem stable :
    Stable EntersAtCost (fun _ => True) engine bar rest (Capped engine) := by
  refine ⟨fun _ _ reordered capped => capped.perm reordered, ?_, ?_, ?_, ?_⟩
  · exact fun core fill capped _ => ⟨fun _ _ => trivial, fun _ done => capped.traded done⟩
  · intro core event others before
    have kept : Capped engine { core with funding := others } :=
      ⟨before.distinct, before.within, before.bound⟩
    exact ⟨fun _ => kept, fun _ _ => ⟨fun _ _ => trivial, fun _ done => kept.funded done⟩⟩
  · exact fun core fill capped entry => capped.cons_entry entry
  · exact fun core posQty observed fill capped _ exit => capped.cons_exit exit

end Capped

/-! ### Every step of every round -/

section Steps

variable (engine : EconomicSimulationEngine)

/-- A step that leaves the flag of the standing trigger as it is. -/
def keepingFlag (step : EngineState → Run EngineState) (result : EngineState × Bool) :
    Run (EngineState × Bool) := do
  let state ← step result.1
  return (state, result.2)

def roundSteps (previous : Option Candle) (bar : Candle) (rest : List Candle) :
    List (EngineState × Bool → Run (EngineState × Bool)) :=
  [keepingFlag (settleFunding engine bar.symbol (fun time => time ≤ bar.openTimeMs) true),
    keepingFlag (processPending engine (fun time => time ≤ bar.openTimeMs) bar.symbol),
    keepingFlag (processSignals engine previous bar rest),
    keepingFlag (gapExits engine bar),
    fun result => standingExits engine bar result.1,
    keepingFlag (settleFunding engine bar.symbol (fun time => time < bar.closeTimeMs) true),
    keepingFlag (processPending engine (fun time => time < bar.closeTimeMs) bar.symbol),
    keepingFlag (settleFunding engine bar.symbol (fun time => time = bar.closeTimeMs) false),
    fun result => keepingFlag (closeTimeExits engine bar rest result.2) result,
    keepingFlag (processPending engine (fun time => time = bar.closeTimeMs) bar.symbol),
    keepingFlag (markToMarket engine bar)]

/-- Some steps of a round, one after the other. -/
def runSteps (steps : List (EngineState × Bool → Run (EngineState × Bool)))
    (state : EngineState) : Run EngineState :=
  Prod.fst <$> steps.foldlM (fun result step => step result) (state, false)

/-- The first rounds of the loop and the first steps of the next one. -/
def runTo : ℕ → ℕ → Option Candle → List Candle → EngineState → Run EngineState
  | count + 1, steps, previous, bar :: rest, state => do
    let state ← processBar engine previous bar rest state
    runTo count steps (some bar) rest state
  | 0, steps, previous, bar :: rest, state =>
    runSteps ((roundSteps engine previous bar rest).take steps) state
  | _, _, _, [], state => pure state

end Steps

section Loop

variable {engine : EconomicSimulationEngine} {state : EngineState}

theorem roundSteps_capped {previous : Option Candle} {bar : Candle} {rest : List Candle} :
    ∀ step ∈ roundSteps engine previous bar rest, ∀ result : EngineState × Bool,
      Capped engine result.1.core →
      Holds EntersAtCost (fun _ => True) (step result) fun later => Capped engine later.1.core := by
  have stable : Stable EntersAtCost (fun _ => True) engine bar rest (Capped engine) :=
    Capped.stable
  have benign : Benign fun _ : EngineError => True := fun _ _ => trivial
  have flagged : ∀ (step : EngineState → Run EngineState) (result : EngineState × Bool),
      Keeps EntersAtCost (fun _ => True) (step result.1) (Capped engine) →
      Holds EntersAtCost (fun _ => True) (keepingFlag step result) fun later =>
        Capped engine later.1.core := fun step result keeps =>
    Holds.bind keeps fun later kept => Holds.pure kept
  intro step member result now
  simp only [roundSteps, List.mem_cons, List.not_mem_nil, or_false] at member
  rcases member with rfl | rfl | rfl | rfl | rfl | rfl | rfl | rfl | rfl | rfl | rfl
  · exact flagged _ result (stable.settleFunding_keeps benign now)
  · exact flagged _ result (stable.processPending_keeps benign now)
  · exact flagged _ result (stable.processSignals_keeps benign now)
  · exact flagged _ result (stable.gapExits_keeps benign now)
  · exact stable.standingExits_keeps benign now
  · exact flagged _ result (stable.settleFunding_keeps benign now)
  · exact flagged _ result (stable.processPending_keeps benign now)
  · exact flagged _ result (stable.settleFunding_keeps benign now)
  · exact flagged _ result (stable.closeTimeExits_keeps benign now)
  · exact flagged _ result (stable.processPending_keeps benign now)
  · exact flagged _ result (markToMarket_keeps benign now)

theorem runTo_capped (count steps : ℕ) {previous : Option Candle} {candles : List Candle}
    (start : Capped engine state.core) :
    Keeps EntersAtCost (fun _ => True) (runTo engine count steps previous candles state)
      (Capped engine) := by
  induction count generalizing previous candles state with
  | zero =>
    cases candles with
    | nil => exact Holds.pure start
    | cons bar rest =>
      have some_steps : Holds EntersAtCost (fun _ => True)
          (((roundSteps engine previous bar rest).take steps).foldlM
            (fun result step => step result) (state, false))
          fun result : EngineState × Bool => Capped engine result.1.core :=
        Holds.foldlM (fun step member result now =>
          roundSteps_capped step (List.mem_of_mem_take member) result now) start
      show Holds _ _ (Prod.fst <$> _) _
      rw [map_eq_pure_bind]
      exact Holds.bind some_steps fun result kept => Holds.pure kept
  | succ count inductionHypothesis =>
    cases candles with
    | nil => exact Holds.pure start
    | cons bar rest =>
      exact Holds.bind (Capped.stable.processBar_keeps (fun _ _ => trivial) start)
        fun later kept => inductionHypothesis kept

/-- In every run in which no entry that fills is admitted beside a position entered above the bar's
open, at every step of every round, the notional at the fill prices of the open position and of
every waiting entry is at most the cap. -/
theorem gross_exposure_capped {candles : List Candle} {signals : List InformationSignal}
    {funding : List FundingSettlement} (count steps : ℕ)
    (clean : ∀ note ∈ (runTo engine count steps none candles
      (initialState engine signals funding)).log, EntersAtCost note)
    (reached : (runTo engine count steps none candles
      (initialState engine signals funding)).outcome = .ok state) :
    entryNotional state.portfolio state.pendingFills ≤
      engine.policy.riskBudget.maxGrossExposureUsdt := by
  have start : Capped engine (initialState engine signals funding).core := by
    refine ⟨KeyedList.distinct_nil, fun _ member => (nomatch member), ?_⟩
    have nothing : entryNotional (Portfolio.mk engine.initialCash [] []) [] = 0 := add_zero 0
    exact nothing.le.trans engine.policy.riskBudget.exposurePositive.le
  exact ((runTo_capped count steps start).result clean reached).bound

end Loop

/-! ### An entry beside a waiting exit -/

/-- Two positions are allowed and 15000 of exposure; an order takes twenty-five milliseconds,
two bars and a half. -/
def slowEngine : EconomicSimulationEngine where
  policy := { riskBudget := { maxOpenPositions := 2, maxGrossExposureUsdt := 15000 } }
  executionModel :=
    { feeModel := { slippageMode := .zero }, decisionLatencyMs := 25, exchangeLatencyMs := 0 }

def halvingBars : List Candle :=
  [sampleBar 100 100 100, sampleBar 110 100 100, sampleBar 120 100 100, sampleBar 130 100 100,
    sampleBar 140 50 50, sampleBar 150 50 50, sampleBar 160 50 50]

/-- The same with room for two orders of 10000. -/
def roomyEngine : EconomicSimulationEngine :=
  { slowEngine with
    policy := { riskBudget := { maxOpenPositions := 2, maxGrossExposureUsdt := 20000 } } }

def steadyBars : List Candle := halvingBars.map fun bar => sampleBar bar.openTimeMs 100 100

/-- A second entry is admitted while the exit of the first position waits, at an unchanged price:
both together reach the cap. -/
theorem gross_exposure_capped_entered :
    ∃ state, (runTo roomyEngine 5 0 none steadyBars (initialState roomyEngine
        [sampleSignal 100 .up, sampleSignal 130 .down, sampleSignal 140 .up]
        [])).outcome = .ok state ∧
      entryNotional state.portfolio state.pendingFills = 20000 ∧
      entryNotional state.portfolio state.pendingFills ≤
        roomyEngine.policy.riskBudget.maxGrossExposureUsdt := by
  have done : (runTo roomyEngine 5 0 none steadyBars (initialState roomyEngine
      [sampleSignal 100 .up, sampleSignal 130 .down, sampleSignal 140 .up]
      [])).outcome.isOk = true := by
    decide +kernel
  obtain ⟨state, reached⟩ := exists_ok_of_isOk done
  have value : (runTo roomyEngine 5 0 none steadyBars (initialState roomyEngine
      [sampleSignal 100 .up, sampleSignal 130 .down, sampleSignal 140 .up]
      [])).outcome.toOption.map (fun state =>
        entryNotional state.portfolio state.pendingFills) = some 20000 := by
    decide +kernel
  rw [reached] at value
  exact ⟨state, reached, Option.some.inj value,
    gross_exposure_capped 5 0 (by decide +kernel) reached⟩

/-- The reversal exit of the long waits while the price halves. The position then counts as
5000, the next entry of 10000 is admitted, and the fill prices add up to 20000. -/
theorem entry_beside_waiting_exit :
    (runTo slowEngine 5 0 none halvingBars (initialState slowEngine
        [sampleSignal 100 .up, sampleSignal 130 .down, sampleSignal 140 .up]
        [])).outcome.toOption.map (fun state =>
      entryNotional state.portfolio state.pendingFills) = some 20000 ∧
    slowEngine.policy.riskBudget.maxGrossExposureUsdt < 20000 := by
  decide +kernel

end QuantAgent.Economic
