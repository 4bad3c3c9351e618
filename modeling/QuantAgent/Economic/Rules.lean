/-
This file says once what each program of the event loop does to the ledger, the queue, the
active trade and the remaining funding, as rules of the one-program logic.

A rule asks for the effect of applying one fill, of queueing one fill and of settling one
funding event, and for nothing else: drawdown, trailing extremes and signals do not appear in
the part of the state that the invariants speak about.
-/

import QuantAgent.Economic.Simulator

namespace QuantAgent.Economic

open Traced

/-! ### What invariants speak about -/

structure Core where
  portfolio : Portfolio
  pendingFills : List PendingFill
  entryTime : Option Int
  entryPrice : Option ℚ
  funding : List FundingSettlement

def EngineState.core (state : EngineState) : Core :=
  ⟨state.portfolio, state.pendingFills, state.activeTradeEntryTime, state.activeTradeEntryPrice,
    state.funding⟩

namespace Core

/-- The same with one more fill that waits, at the head of the queue. -/
abbrev scheduled (core : Core) (fill : PendingFill) : Core :=
  { core with pendingFills := fill :: core.pendingFills }

def quantity (core : Core) (symbol : String) : ℚ := core.portfolio.getPositionQuantity symbol

def enqueue (core : Core) (fill : PendingFill) : Core :=
  { core with pendingFills := core.pendingFills ++ [fill] }

def traded (core : Core) (fill : PendingFill) (portfolio : Portfolio) : Core :=
  { core with
    portfolio := portfolio
    entryTime := if fill.action.opening then some fill.fillTimestampMs else none
    entryPrice := if fill.action.opening then some fill.price else none }

/-- A position above the dust size that no waiting exit closes. -/
structure Exitable (core : Core) (symbol : String) (posQty : ℚ) : Prop where
  quantity : core.quantity symbol = posQty
  held : dust < |posQty|
  unclaimed : hasPendingExit core.pendingFills symbol = false

end Core

/-! ### What fills are -/

variable {fill : PendingFill}

namespace PendingFill

/-- Ordered stamps and positive values. -/
structure Sound (fill : PendingFill) : Prop where
  decided : fill.observationTimestampMs ≤ fill.decisionTimestampMs
  submitted : fill.decisionTimestampMs ≤ fill.orderTimestampMs
  executed : fill.orderTimestampMs ≤ fill.fillTimestampMs
  settled : fill.settlementTimestampMs = fill.fillTimestampMs
  pricePositive : 0 < fill.price
  quantityPositive : 0 < fill.quantity
  feeNonneg : 0 ≤ fill.feeUsdt

theorem Sound.observed_le (sound : fill.Sound) :
    fill.observationTimestampMs ≤ fill.fillTimestampMs :=
  le_trans sound.decided (le_trans sound.submitted sound.executed)

def DueIn (fill : PendingFill) (bars : List Candle) : Prop :=
  ∃ bar ∈ bars, fill.fillTimestampMs = bar.openTimeMs ∨ fill.fillTimestampMs = bar.closeTimeMs

structure Waits (fill : PendingFill) (bars : List Candle) : Prop where
  due : fill.DueIn bars
  sound : fill.Sound
  observed : 0 < fill.observationTimestampMs
  trade : fill.action.opening = true ∨ fill.action.closing = true

end PendingFill

/-- A fill that closes the whole of a position. -/
structure ExitFill (bars : List Candle) (symbol : String) (posQty : ℚ) (observed : Int)
    (fill : PendingFill) : Prop where
  action : fill.action = exitAction posQty
  asset : fill.asset = symbol
  quantity : fill.quantity = |posQty|
  sound : fill.Sound
  observed : fill.observationTimestampMs = observed
  due : fill.DueIn bars

/-- A fill that opens a position on a signal. -/
structure EntryFill (bars : List Candle) (symbol : String) (fill : PendingFill) : Prop where
  opening : fill.action.opening = true
  asset : fill.asset = symbol
  sound : fill.Sound
  observed : 0 < fill.observationTimestampMs
  due : fill.DueIn bars

/-- An entry the loop has just admitted beside a ledger and a queue. Nothing but the bar's
symbol is held; either no position above the dust size is open or its exit waits; the fill
stays within its reservation; and with the position at the bar's open and the waiting
reservations this stays within the exposure cap. -/
structure AdmittedFill (allowed : EngineNote → Prop) (engine : EconomicSimulationEngine)
    (bar : Candle) (rest : List Candle) (core : Core) (fill : PendingFill) : Prop
    extends EntryFill (bar :: rest) bar.symbol fill where
  noted : allowed (.admission core.pendingFills)
  entered : allowed (.entry core.portfolio bar true)
  sole : ∀ position ∈ core.portfolio.positions, position.asset = bar.symbol
  unheld : |core.quantity bar.symbol| ≤ dust ∨
    hasPendingExit core.pendingFills bar.symbol = true
  within : fill.price * fill.quantity ≤ fill.reservationNotional
  reserved : |core.quantity bar.symbol| * bar.openPrice +
      ((pendingOpenings core.pendingFills).map PendingFill.reservationNotional).sum +
      fill.reservationNotional ≤ engine.policy.riskBudget.maxGrossExposureUsdt

theorem exitAction_closing (posQty : ℚ) : (exitAction posQty).closing = true := by
  unfold exitAction
  split_ifs <;> rfl

theorem exitAction_opening (posQty : ℚ) : (exitAction posQty).opening = false := by
  unfold exitAction
  split_ifs <;> rfl

variable {bars : List Candle} {symbol : String}

theorem EntryFill.waits (entry : EntryFill bars symbol fill) : fill.Waits bars :=
  ⟨entry.due, entry.sound, entry.observed, .inl entry.opening⟩

variable {observed : Int}

theorem ExitFill.waits {posQty : ℚ} (exit : ExitFill bars symbol posQty observed fill)
    (positive : 0 < observed) : fill.Waits bars := by
  refine ⟨exit.due, exit.sound, ?_, .inr ?_⟩
  · rw [exit.observed]
    exact positive
  · rw [exit.action]
    exact exitAction_closing posQty

variable {bar : Candle} {rest : List Candle}

theorem PendingFill.DueIn.of_first (due : fill.DueIn [bar]) : fill.DueIn (bar :: rest) := by
  obtain ⟨other, member, moment⟩ := due
  rw [List.mem_singleton] at member
  exact ⟨other, member ▸ List.mem_cons_self, moment⟩

theorem ExitFill.of_first {posQty : ℚ} (exit : ExitFill [bar] symbol posQty observed fill) :
    ExitFill (bar :: rest) symbol posQty observed fill :=
  ⟨exit.action, exit.asset, exit.quantity, exit.sound, exit.observed, exit.due.of_first⟩

theorem openAction_opening (side : Side) : side.openAction.opening = true := by
  cases side <;> rfl

variable {result : ExecutionResult}

theorem sound_of_filled {quantity : ℚ} {notional : Option ℚ}
    (filled : ExecutionModel.Filled observed quantity notional bars result)
    {action : TradeAction} {asset signalId tradeId : String} {reserved : ℚ}
    {metadata : Metadata} :
    (result.pendingFill action asset signalId tradeId reserved metadata).Sound :=
  ⟨filled.decided, filled.submitted, filled.executed, filled.settled, filled.pricePositive,
    filled.quantityPositive, filled.feeNonneg⟩

/-! ### What an applied fill does to the position -/

section Traded

variable {core : Core} {portfolio : Portfolio}

theorem traded_opening (done : core.portfolio.applyTrade (fill.tradeRequest symbol) = .ok portfolio)
    (opening : fill.action.opening = true) :
    0 ≤ core.quantity symbol * fill.action.direction ∧
      portfolio.getPositionQuantity symbol =
        core.quantity symbol + fill.action.direction * fill.quantity ∧
      0 < portfolio.getPositionQuantity symbol * fill.action.direction := by
  obtain ⟨admits, moved, -, -, -, -, -, -, -, positive⟩ := Portfolio.applyTrade_ok done
  have opens : (fill.tradeRequest symbol).action.opening = true := opening
  have aligned : 0 ≤ core.quantity symbol * fill.action.direction := by
    unfold Portfolio.Admits at admits
    rw [if_pos opens] at admits
    exact admits
  have size : portfolio.getPositionQuantity symbol =
      core.quantity symbol + fill.action.direction * fill.quantity := by
    unfold TradeRequest.signedQuantity at moved
    rw [if_pos opens] at moved
    exact moved
  have more : 0 < fill.quantity := positive
  refine ⟨aligned, size, ?_⟩
  rw [size, add_mul, mul_right_comm, TradeAction.direction_sq, one_mul]
  exact add_pos_of_nonneg_of_pos aligned more

theorem traded_closing (done : core.portfolio.applyTrade (fill.tradeRequest symbol) = .ok portfolio)
    (notOpening : ¬ fill.action.opening = true) :
    fill.action.closing = true ∧ 0 < core.quantity symbol * fill.action.direction ∧
      fill.quantity ≤ |core.quantity symbol| ∧
      portfolio.getPositionQuantity symbol =
        fill.action.direction * (|core.quantity symbol| - fill.quantity) := by
  obtain ⟨admits, moved, -, -, -, -, -, -, trade, -⟩ := Portfolio.applyTrade_ok done
  have closes : ¬ (fill.tradeRequest symbol).action.opening = true := notOpening
  unfold Portfolio.Admits at admits
  rw [if_neg closes] at admits
  unfold TradeRequest.signedQuantity at moved
  rw [if_neg closes] at moved
  have aligned : 0 < core.quantity symbol * fill.action.direction := admits.1
  refine ⟨TradeAction.closing_of_not_opening trade (by simpa using notOpening), aligned,
    admits.2, ?_⟩
  have square := fill.action.direction_sq
  have size : portfolio.getPositionQuantity symbol =
      core.quantity symbol + -(fill.action.direction * fill.quantity) := moved
  rw [size, Portfolio.abs_eq_mul_direction aligned.le]
  linear_combination -(core.quantity symbol) * square

end Traded

/-! ### At most one exit waits -/

structure SingleExit (symbol : String) (core : Core) : Prop where
  assets : ∀ fill ∈ core.pendingFills, fill.asset = symbol
  single : (core.pendingFills.filter fun fill => fill.action.closing).length ≤ 1

namespace SingleExit

variable {core : Core}

theorem perm (exits : SingleExit symbol core) {queue : List PendingFill}
    (reordered : queue.Perm core.pendingFills) :
    SingleExit symbol { core with pendingFills := queue } := by
  refine ⟨fun fill member => exits.assets fill (reordered.mem_iff.mp member), ?_⟩
  rw [(reordered.filter _).length_eq]
  exact exits.single

/-- The rest of a queue without its first fill. -/
theorem tail (exits : SingleExit symbol (core.scheduled fill)) :
    SingleExit symbol core := by
  refine ⟨fun other member => exits.assets other (List.mem_cons_of_mem _ member), ?_⟩
  refine le_trans ?_ exits.single
  exact ((List.sublist_cons_self fill core.pendingFills).filter _).length_le

theorem tail_opening
    (exits : SingleExit symbol (core.scheduled fill))
    (closing : fill.action.closing = true) :
    ∀ other ∈ core.pendingFills, other.action.closing = false := by
  have single := exits.single
  rw [List.filter_cons_of_pos (by simpa using closing), List.length_cons] at single
  have empty := List.length_eq_zero_iff.mp (Nat.le_zero.mp (Nat.le_of_succ_le_succ single))
  exact fun other member => by simpa using List.filter_eq_nil_iff.mp empty other member

theorem cons_opening (exits : SingleExit symbol core) (asset : fill.asset = symbol)
    (opening : fill.action.opening = true) :
    SingleExit symbol (core.scheduled fill) := by
  have notClosing := TradeAction.not_closing_of_opening opening
  refine ⟨?_, ?_⟩
  · intro other member
    rcases List.mem_cons.mp member with rfl | before
    · exact asset
    · exact exits.assets other before
  · rw [List.filter_cons_of_neg (by simpa using notClosing)]
    exact exits.single

theorem none_closing (exits : SingleExit symbol core)
    (unclaimed : hasPendingExit core.pendingFills symbol = false) :
    ∀ other ∈ core.pendingFills, other.action.closing = false := by
  intro other member
  have excluded := List.any_eq_false.mp unclaimed other member
  simpa [exits.assets other member] using excluded

theorem cons_exit (exits : SingleExit symbol core) {posQty : ℚ}
    (exitable : core.Exitable symbol posQty)
    (exit : ExitFill bars symbol posQty observed fill) :
    SingleExit symbol (core.scheduled fill) := by
  have others := exits.none_closing exitable.unclaimed
  have noneClosing : (core.pendingFills.filter fun fill => fill.action.closing) = [] :=
    List.filter_eq_nil_iff.mpr fun other member => by simpa using others other member
  refine ⟨?_, ?_⟩
  · intro other member
    rcases List.mem_cons.mp member with rfl | before
    · exact exit.asset
    · exact exits.assets other before
  · have closing : fill.action.closing = true := by
      rw [exit.action]
      exact exitAction_closing posQty
    rw [List.filter_cons_of_pos (by simpa using closing), noneClosing]
    exact le_refl _

end SingleExit

/-! ### Obligations -/

section Rules

variable (allowed : EngineNote → Prop) (faulty : EngineError → Prop)

def Applies (symbol : String) (core : Core) (fill : PendingFill) (post : Core → Prop) : Prop :=
  allowed (.trade core.portfolio fill symbol core.pendingFills) →
    (∀ message, core.portfolio.applyTrade (fill.tradeRequest symbol) = .error message →
      faulty (.portfolio message)) ∧
    ∀ portfolio, core.portfolio.applyTrade (fill.tradeRequest symbol) = .ok portfolio →
      post (core.traded fill portfolio)

/-- So does applying a fill that is due and queueing one that is not. -/
def Schedules (symbol : String) (now : Int) (core : Core) (fill : PendingFill)
    (post : Core → Prop) : Prop :=
  (fill.fillTimestampMs ≤ now → Applies allowed faulty symbol core fill post) ∧
    (now < fill.fillTimestampMs → post (core.enqueue fill))

def Settles (symbol : String) (core : Core) (event : FundingSettlement) (post : Core → Prop) :
    Prop :=
  (|core.quantity symbol| ≤ dust → post core) ∧
    (dust < |core.quantity symbol| → allowed (.funding core.portfolio symbol event) →
      (∀ message, core.portfolio.applyFunding event.timestampMs symbol
          (calculateCashflow (core.quantity symbol) event.markPrice event.fundingRate)
          event.markPrice = .error message → faulty (.portfolio message)) ∧
      ∀ portfolio, core.portfolio.applyFunding event.timestampMs symbol
          (calculateCashflow (core.quantity symbol) event.markPrice event.fundingRate)
          event.markPrice = .ok portfolio → post { core with portfolio := portfolio })

variable {allowed faulty} in
theorem Applies.mono {core : Core}
    {post weaker : Core → Prop} (applies : Applies allowed faulty symbol core fill post)
    (implies : ∀ portfolio, post (core.traded fill portfolio) →
      weaker (core.traded fill portfolio)) :
    Applies allowed faulty symbol core fill weaker := fun permitted =>
  ⟨(applies permitted).1, fun portfolio done => implies portfolio
    ((applies permitted).2 portfolio done)⟩

variable {allowed faulty} in
theorem Settles.mono {core : Core} {event : FundingSettlement}
    {post weaker : Core → Prop} (settles : Settles allowed faulty symbol core event post)
    (implies : ∀ portfolio, post { core with portfolio := portfolio } →
      weaker { core with portfolio := portfolio }) :
    Settles allowed faulty symbol core event weaker :=
  ⟨fun flat => implies core.portfolio (settles.1 flat), fun held permitted =>
    ⟨(settles.2 held permitted).1, fun portfolio done => implies portfolio
      ((settles.2 held permitted).2 portfolio done)⟩⟩

/-- A program of the loop leads to the postcondition. -/
def Keeps (program : Run EngineState) (post : Core → Prop) : Prop :=
  Holds allowed faulty program fun state => post state.core

/-- Faults that are not the ledger's are permitted. -/
def Benign : Prop := ∀ error, (∀ message, error ≠ .portfolio message) → faulty error

variable {allowed faulty}

theorem lift_mapError_holds {Value : Type} {outcome : Except String Value}
    {fault : String → EngineError} {post : Value → Prop}
    (failed : ∀ message, outcome = .error message → faulty (fault message))
    (done : ∀ value, outcome = .ok value → post value) :
    Holds allowed faulty (Traced.lift (outcome.mapError fault)) post := by
  refine .lift (fun value success => done value ?_) fun error failure => ?_
  · cases outcome with
    | ok result => rw [← Except.ok.inj success]
    | error message => cases success
  · cases outcome with
    | ok result => cases failure
    | error message =>
      rw [← Except.error.inj failure]
      exact failed message rfl

theorem checked_holds (benign : Benign faulty) {Value : Type} {outcome : Except String Value}
    {post : Value → Prop} (done : ∀ value, outcome = .ok value → post value) :
    Holds allowed faulty (checked outcome) post :=
  lift_mapError_holds (fun _ _ => benign _ nofun) done

theorem ledgerStep_holds {Value : Type} {outcome : Except String Value} {post : Value → Prop}
    (failed : ∀ message, outcome = .error message → faulty (.portfolio message))
    (done : ∀ value, outcome = .ok value → post value) :
    Holds allowed faulty (ledgerStep outcome) post := lift_mapError_holds failed done

/-! ### Fills and funding -/

variable {engine : EconomicSimulationEngine} {state : EngineState}
  {post inv : Core → Prop}

theorem applyFill_holds (benign : Benign faulty) {others : List PendingFill}
    (applies : Applies allowed faulty symbol
      { state.core with pendingFills := state.pendingFills ++ others } fill post) :
    Holds allowed faulty (applyFill engine fill symbol others state) fun result =>
      post { result.core with pendingFills := result.pendingFills ++ others } ∧
        result.pendingFills = state.pendingFills := by
  let waiting := state.pendingFills ++ others
  have logged : Holds allowed faulty
      (Traced.note (EngineNote.trade state.portfolio fill symbol waiting) : Run Unit) fun _ =>
        (∀ message, state.portfolio.applyTrade (fill.tradeRequest symbol) = .error message →
          faulty (.portfolio message)) ∧
        ∀ portfolio, state.portfolio.applyTrade (fill.tradeRequest symbol) = .ok portfolio →
          post ({ state.core with pendingFills := waiting }.traded fill portfolio) :=
    .note applies
  refine .bind logged fun _ effect => ?_
  refine .bind (ledgerStep_holds effect.1 effect.2) fun portfolio later => ?_
  refine .bind (checked_holds benign fun _ _ => trivial) fun equity _ => .pure ?_
  unfold Core.traded at later
  by_cases opening : fill.action.opening = true
  · simp only [if_pos opening] at later ⊢
    exact ⟨later, rfl⟩
  · simp only [if_neg opening] at later ⊢
    exact ⟨later, rfl⟩

theorem scheduleFill_keeps (benign : Benign faulty) {now : Int}
    (schedules : Schedules allowed faulty symbol now state.core fill post) :
    Keeps allowed faulty (scheduleFill engine fill symbol now state) post := by
  refine .ite (fun isDue => ?_) fun notDue => .pure (schedules.2 (not_le.mp notDue))
  have whole : ∀ pendingFills : List PendingFill, pendingFills ++ [] = pendingFills :=
    List.append_nil
  have applies : Applies allowed faulty symbol
      { state.core with pendingFills := state.pendingFills ++ [] } fill post := by
    rw [whole]
    exact schedules.1 isDue
  refine (applyFill_holds benign applies).mono fun result later => ?_
  have kept := later.1
  rwa [whole] at kept

variable {due : Int → Bool}

theorem applyDue_holds (benign : Benign faulty)
    (perm : ∀ core queue, queue.Perm core.pendingFills → inv core →
      inv { core with pendingFills := queue })
    (apply : ∀ core fill, inv (core.scheduled fill) →
      due fill.fillTimestampMs = true → Applies allowed faulty symbol core fill inv)
    (fills : List PendingFill) {state : EngineState}
    (start : inv { state.core with pendingFills := state.pendingFills ++ fills })
    (kept : ∀ fill ∈ state.pendingFills, due fill.fillTimestampMs = false) :
    Holds allowed faulty (applyDue engine due symbol fills state) fun result =>
      inv result.core ∧ ∀ fill ∈ result.pendingFills, due fill.fillTimestampMs = false := by
  induction fills generalizing state with
  | nil =>
    rw [List.append_nil] at start
    exact .pure ⟨start, kept⟩
  | cons fill rest inductionHypothesis =>
    unfold applyDue
    refine .ite (fun isDue => ?_) fun notDue => ?_
    · have front : inv { { state.core with pendingFills := state.pendingFills ++ rest } with
          pendingFills := fill :: (state.pendingFills ++ rest) } :=
        perm { state.core with pendingFills := state.pendingFills ++ fill :: rest } _
          List.perm_middle.symm start
      refine .bind (applyFill_holds benign (apply _ fill front isDue)) fun later after => ?_
      refine inductionHypothesis after.1 ?_
      rw [after.2]
      exact kept
    · refine inductionHypothesis ?_ ?_
      · show inv { state.core with pendingFills := (state.pendingFills ++ [fill]) ++ rest }
        rw [List.append_assoc]
        exact start
      · intro other member
        rcases List.mem_append.mp member with before | same
        · exact kept other before
        · rw [List.mem_singleton.mp same]
          simpa using notDue

theorem processPending_holds (benign : Benign faulty)
    (perm : ∀ core queue, queue.Perm core.pendingFills → inv core →
      inv { core with pendingFills := queue })
    (apply : ∀ core fill, inv (core.scheduled fill) →
      due fill.fillTimestampMs = true → Applies allowed faulty symbol core fill inv)
    (start : inv state.core) :
    Holds allowed faulty (processPending engine due symbol state) fun result =>
      inv result.core ∧ ∀ fill ∈ result.pendingFills, due fill.fillTimestampMs = false := by
  refine applyDue_holds benign perm apply _ ?_ fun fill member => nomatch member
  exact perm state.core _ (DueQueue.sortByDue_perm _) start

variable {tracked : Bool}

theorem settleOne_keeps (benign : Benign faulty) {event : FundingSettlement}
    (settles : Settles allowed faulty symbol state.core event post) :
    Holds allowed faulty (settleOne engine symbol tracked event state) fun result =>
      post result.core ∧ result.funding = state.funding := by
  refine .ite (fun held => ?_) fun flat => .pure ⟨settles.1 (not_lt.mp flat), rfl⟩
  have logged : Holds allowed faulty
      (Traced.note (EngineNote.funding state.portfolio symbol event) : Run Unit) fun _ =>
        allowed (.funding state.portfolio symbol event) := .note id
  refine .bind logged fun _ permitted => ?_
  obtain ⟨failed, done⟩ := settles.2 held permitted
  refine .bind (ledgerStep_holds failed done) fun portfolio later => ?_
  refine .ite (fun _ => ?_) fun _ => .pure ⟨later, rfl⟩
  exact .bind (checked_holds benign fun _ _ => trivial) fun equity _ =>
    .pure ⟨later, rfl⟩

theorem settleFunding_holds (benign : Benign faulty)
    (settle : ∀ (core : Core) event rest, inv { core with funding := event :: rest } →
      due event.timestampMs = true →
      Settles allowed faulty symbol { core with funding := rest } event inv)
    (start : inv state.core) :
    Holds allowed faulty (settleFunding engine symbol due tracked state) fun result =>
      inv result.core ∧ ∀ head ∈ result.funding.head?, due head.timestampMs = false := by
  suffices loop : ∀ (events : List FundingSettlement) (state : EngineState),
      state.funding = events → inv state.core →
      Holds allowed faulty (settleDue engine symbol due tracked events state) fun result =>
        inv result.core ∧ ∀ head ∈ result.funding.head?, due head.timestampMs = false from
    loop state.funding state rfl start
  intro events
  induction events with
  | nil =>
    intro state remaining now
    refine .pure ⟨now, ?_⟩
    rw [remaining]
    exact fun head member => nomatch member
  | cons event rest inductionHypothesis =>
    intro state remaining now
    unfold settleDue
    refine .ite (fun isDue => ?_) fun notDue => .pure ⟨now, ?_⟩
    · have front : inv { state.core with funding := event :: rest } := by
        rw [← remaining]
        exact now
      refine .bind (settleOne_keeps benign (settle state.core event rest front isDue))
        fun later after => inductionHypothesis later ?_ after.1
      rw [after.2]
    · rw [remaining]
      intro head member
      cases Option.some.inj member
      simpa using notDue

/-! ### Exits and entries -/

theorem raiseOnCausalLiquidityRejection_holds (benign : Benign faulty) :
    Holds allowed faulty (raiseOnCausalLiquidityRejection result) fun _ => True :=
  .ite (fun _ => .fail (benign _ fun _ same => nomatch same))
    fun _ => .pure trivial

variable {order : ExitOrder}

theorem exitFill_of_filled
    (filled : ExecutionModel.Filled observed |order.posQty| none bars result) :
    ExitFill bars symbol order.posQty observed (order.fill result symbol) :=
  ⟨rfl, rfl, filled.whole rfl, sound_of_filled filled, filled.observed, filled.time⟩

theorem executeExit_keeps (benign : Benign faulty) {trigger : Int} {spread : Option Reading}
    (unfilled : post state.core)
    (schedules : ∀ fill, ExitFill (bar :: rest) bar.symbol order.posQty trigger fill →
      Schedules allowed faulty bar.symbol trigger state.core fill post) :
    Keeps allowed faulty (executeExit engine order trigger bar rest spread state) post := by
  refine .bind (checked_holds benign fun result done => done) fun result done => ?_
  refine .bind (raiseOnCausalLiquidityRejection_holds benign) fun _ _ => ?_
  refine .ite (fun isFilled => ?_) fun _ => .pure unfilled
  exact scheduleFill_keeps benign
    (schedules _ (exitFill_of_filled (ExecutionModel.simulateOrder_ok done isFilled)))

theorem executeConditionalExit_keeps (benign : Benign faulty)
    {armed trigger : Int} {reference : ℚ} {time : ConditionalTriggerTime}
    (unfilled : post state.core)
    (schedules : ∀ fill, ExitFill [bar] bar.symbol order.posQty armed fill → 0 < armed →
      fill.fillTimestampMs = trigger →
      Schedules allowed faulty bar.symbol bar.openTimeMs state.core fill post) :
    Keeps allowed faulty
      (executeConditionalExit engine order armed trigger reference time bar state) post := by
  refine .bind (checked_holds benign fun result done => done) fun result done => ?_
  refine .ite (fun isFilled => ?_) fun _ => .pure unfilled
  obtain ⟨filled, atTrigger, armedPositive, -⟩ :=
    ExecutionModel.simulateConditionalMarketFill_ok done isFilled
  exact scheduleFill_keeps benign
    (schedules _ (exitFill_of_filled filled) armedPositive atTrigger)

variable {signal : InformationSignal}

theorem submitEntry_keeps (benign : Benign faulty) {qty : ℚ} {limPrice : Option ℚ} {orderGross : ℚ}
    (unfilled : post state.core)
    (schedules : ∀ fill, EntryFill (bar :: rest) bar.symbol fill →
      fill.reservationNotional = orderGross → fill.price * fill.quantity ≤ orderGross →
      allowed (.entry state.portfolio bar true) →
      Schedules allowed faulty bar.symbol bar.openTimeMs state.core fill post) :
    Keeps allowed faulty (submitEntry engine bar rest signal
      (entryRequest engine signal qty limPrice orderGross) orderGross state) post := by
  refine .bind (checked_holds benign fun result done => done) fun result done => ?_
  refine .bind (raiseOnCausalLiquidityRejection_holds benign) fun _ _ => ?_
  have logged : Holds allowed faulty
      (Traced.note (EngineNote.entry state.portfolio bar result.isFilled) : Run Unit) fun _ =>
        allowed (.entry state.portfolio bar result.isFilled) := .note id
  refine .bind logged fun _ noted => ?_
  refine .ite (fun _ => .fail (benign _ fun _ same => nomatch same)) fun _ => ?_
  refine .ite (fun isFilled => ?_) fun _ => .pure unfilled
  have filled := ExecutionModel.simulateOrder_ok done isFilled
  refine scheduleFill_keeps benign (schedules _ ⟨openAction_opening _, rfl,
    sound_of_filled filled, ?_, filled.time⟩ rfl (filled.within orderGross rfl)
    (isFilled ▸ noted))
  show 0 < result.observationTimestampMs
  rw [filled.observed]
  exact signal.timePositive

theorem entryOrder_ok {atr : Option Reading}
    {portfolio : Portfolio} {pendingFills : List PendingFill} {request : OrderRequest}
    {orderGross : ℚ}
    (done : entryOrder engine bar signal atr portfolio pendingFills =
      .ok (some (request, orderGross))) :
    (∃ qty limPrice, request = entryRequest engine signal qty limPrice orderGross) ∧
      (∀ position ∈ portfolio.positions, position.asset = bar.symbol) ∧
      |portfolio.getPositionQuantity bar.symbol| * bar.openPrice +
        ((pendingOpenings pendingFills).map PendingFill.reservationNotional).sum + orderGross ≤
          engine.policy.riskBudget.maxGrossExposureUsdt := by
  obtain ⟨equity, valued, sized⟩ := bind_eq_ok.mp done
  by_cases unparsable : signal.metadata.atr = some .unparsable
  · rw [if_pos unparsable] at sized
    cases sized
  rw [if_neg unparsable] at sized
  cases quantity : engine.policy.calculateQuantity bar.openPrice equity atr with
  | error message =>
    rw [quantity] at sized
    cases sized
  | ok qty =>
    rw [quantity] at sized
    dsimp only at sized
    split_ifs at sized
    · cases sized
    obtain ⟨⟨limPrice, exAntePrice⟩, -, priced⟩ := bind_eq_ok.mp sized
    cases exAntePrice with
    | none => cases priced
    | some price =>
      dsimp only at priced
      split_ifs at priced with nonpositive exceeds
      · cases priced
      · cases priced
      · cases priced
        exact ⟨⟨qty, limPrice, rfl⟩, Portfolio.assets_of_totalEquity valued, not_lt.mp exceeds⟩

variable {previous : Option Candle}

theorem considerEntry_keeps (benign : Benign faulty) (unfilled : post state.core)
    (unheld : |state.core.quantity bar.symbol| ≤ dust ∨
      hasPendingExit state.pendingFills bar.symbol = true)
    (schedules : ∀ fill, AdmittedFill allowed engine bar rest state.core fill →
      Schedules allowed faulty bar.symbol bar.openTimeMs state.core fill post) :
    Keeps allowed faulty (considerEntry engine previous bar rest signal state) post := by
  refine .ite (fun _ => .pure unfilled) fun _ => ?_
  have logged : Holds allowed faulty
      (Traced.note (EngineNote.admission state.pendingFills) : Run Unit) fun _ =>
        allowed (.admission state.pendingFills) := .note id
  refine .bind logged fun _ noted => ?_
  refine .ite (fun _ => .pure unfilled) fun _ => ?_
  refine .ite (fun _ => .pure unfilled) fun _ => ?_
  refine .bind (checked_holds benign fun order done => done) fun order done => ?_
  cases order with
  | none => exact .pure unfilled
  | some order =>
    obtain ⟨request, orderGross⟩ := order
    obtain ⟨⟨qty, limPrice, rfl⟩, sole, within⟩ := entryOrder_ok done
    refine submitEntry_keeps benign unfilled fun fill entry reservation notional entered => ?_
    refine schedules fill ⟨entry, noted, entered, sole, unheld, ?_, ?_⟩
    · rw [reservation]
      exact notional
    · rw [reservation]
      exact within

/-! ### The phases that make fills -/

theorem managedTrade_eq_some {trade : ManagedTrade}
    (managed : state.managedTrade symbol = some trade) :
    trade.posQty = state.core.quantity symbol ∧ dust < |trade.posQty| ∧
      state.core.entryPrice = some trade.entryPrice ∧
      state.core.entryTime = some trade.entryTime := by
  unfold EngineState.managedTrade at managed
  split at managed
  · rename_i entryPrice entryTime price time
    split_ifs at managed with held
    cases managed
    exact ⟨rfl, held, price, time⟩
  · cases managed

theorem exitable_of_managed {trade : ManagedTrade}
    (managed : state.managedTrade symbol = some trade)
    (unclaimed : ¬ hasPendingExit state.pendingFills symbol = true) :
    state.core.Exitable symbol trade.posQty :=
  ⟨(managedTrade_eq_some managed).1.symm, (managedTrade_eq_some managed).2.1,
    Bool.eq_false_iff.mpr unclaimed⟩

theorem exitCheck_holds {waiting : List PendingFill} :
    Holds allowed faulty (Traced.note (EngineNote.exitCheck waiting) : Run Unit)
      fun _ => True := .note fun _ => trivial

/-- A signal opens, closes a position that it reverses, or does nothing. -/
theorem processSignal_keeps (benign : Benign faulty) (unfilled : post state.core)
    (entry : ∀ fill, AdmittedFill allowed engine bar rest state.core fill →
      Schedules allowed faulty bar.symbol bar.openTimeMs state.core fill post)
    (exit : ∀ posQty fill, state.core.Exitable bar.symbol posQty →
      ExitFill (bar :: rest) bar.symbol posQty bar.openTimeMs fill →
      Schedules allowed faulty bar.symbol bar.openTimeMs state.core fill post) :
    Keeps allowed faulty (processSignal engine previous bar rest signal state) post := by
  refine .ite (fun _ => .pure unfilled) fun _ => ?_
  refine .ite (fun held => ?_) fun flat =>
    considerEntry_keeps benign unfilled (.inl (not_lt.mp flat)) entry
  refine .bind exitCheck_holds fun _ _ => ?_
  refine .ite (fun claimed => considerEntry_keeps benign unfilled (.inr claimed) entry)
    fun unclaimed => ?_
  refine .ite (fun _ => ?_) fun _ => .pure unfilled
  exact executeExit_keeps benign unfilled fun fill isExit =>
    exit _ fill ⟨rfl, held, Bool.eq_false_iff.mpr unclaimed⟩ isExit

theorem processSignals_keeps (benign : Benign faulty)
    (entry : ∀ core fill, inv core → AdmittedFill allowed engine bar rest core fill →
      Schedules allowed faulty bar.symbol bar.openTimeMs core fill inv)
    (exit : ∀ (core : Core) posQty fill, inv core → core.Exitable bar.symbol posQty →
      ExitFill (bar :: rest) bar.symbol posQty bar.openTimeMs fill →
      Schedules allowed faulty bar.symbol bar.openTimeMs core fill inv)
    (start : inv state.core) :
    Keeps allowed faulty (processSignals engine previous bar rest state) inv := by
  suffices loop : ∀ (signals : List InformationSignal) (state : EngineState), inv state.core →
      Keeps allowed faulty (processArrived engine previous bar rest signals state) inv from
    loop state.signals state start
  intro signals
  induction signals with
  | nil => exact fun state now => .pure now
  | cons signal others inductionHypothesis =>
    intro state now
    refine .ite (fun _ => ?_) fun _ => .pure now
    refine .bind ?_ inductionHypothesis
    exact processSignal_keeps benign now (fun fill isEntry => entry state.core fill now isEntry)
      fun posQty fill exitable isExit => exit state.core posQty fill now exitable isExit

theorem gapExits_keeps (benign : Benign faulty) (unfilled : post state.core)
    (exit : ∀ posQty observed fill, state.core.Exitable bar.symbol posQty →
      ExitFill [bar] bar.symbol posQty observed fill → 0 < observed →
      fill.fillTimestampMs = bar.openTimeMs →
      Applies allowed faulty bar.symbol state.core fill post) :
    Keeps allowed faulty (gapExits engine bar state) post := by
  unfold gapExits
  cases managed : state.managedTrade bar.symbol with
  | none => exact .pure unfilled
  | some trade =>
    refine .bind exitCheck_holds fun _ _ => ?_
    refine .ite (fun _ => .pure unfilled) fun unclaimed => ?_
    cases gapTrigger engine trade state bar with
    | none => exact .pure unfilled
    | some trigger =>
      refine executeConditionalExit_keeps benign unfilled fun fill isExit armed atOpen => ?_
      refine ⟨fun _ => exit trade.posQty _ fill (exitable_of_managed managed unclaimed) isExit
        armed atOpen, fun later => ?_⟩
      exact absurd later (not_lt.mpr (le_of_eq atOpen))

theorem standingExits_holds (benign : Benign faulty) (unfilled : post state.core)
    (exit : ∀ posQty observed fill, state.core.Exitable bar.symbol posQty →
      ExitFill [bar] bar.symbol posQty observed fill → 0 < observed →
      fill.fillTimestampMs = bar.closeTimeMs → post (state.core.enqueue fill)) :
    Holds allowed faulty (standingExits engine bar state) fun result => post result.1.core := by
  unfold standingExits
  cases managed : state.managedTrade bar.symbol with
  | none => exact .pure unfilled
  | some trade =>
    refine .ite (fun _ => ?_) fun _ => .pure unfilled
    refine .bind exitCheck_holds fun _ _ => ?_
    refine .ite (fun _ => .pure unfilled) fun unclaimed => ?_
    have triggered : Holds allowed faulty
        (Traced.lift (standingTrigger engine trade state bar) : Run (Option Trigger))
        fun _ => True := by
      refine .lift (fun _ _ => trivial) fun fault failed => benign fault ?_
      intro message same
      rw [same] at failed
      unfold standingTrigger at failed
      split at failed
      · cases failed
      · cases failed
      · split_ifs at failed
        cases failed
    refine .bind triggered fun trigger _ => ?_
    cases trigger with
    | none => exact .pure unfilled
    | some trigger =>
      have executed : Keeps allowed faulty (executeStanding engine trade trigger bar state) post →
          Holds allowed faulty (do
            let later ← executeStanding engine trade trigger bar state
            return (later, true)) fun result => post result.1.core := fun keeps =>
        .bind keeps fun later kept => .pure kept
      refine executed ?_
      unfold executeStanding
      cases ambiguousFunding trade.posQty bar state.funding with
      | some event => exact .fail (benign _ fun _ same => nomatch same)
      | none =>
        refine executeConditionalExit_keeps benign unfilled fun fill isExit armed atClose => ?_
        refine ⟨fun early => ?_, fun _ => exit trade.posQty _ fill
          (exitable_of_managed managed unclaimed) isExit armed atClose⟩
        rw [atClose] at early
        exact absurd early (not_le.mpr bar.closeAfterOpen)

variable {standingTriggered : Bool}

theorem updateTrailing_keeps (now : post state.core) :
    Keeps allowed faulty (updateTrailing bar standingTriggered state) post := by
  refine .ite (fun _ => .pure now) fun _ => ?_
  cases state.managedTrade bar.symbol with
  | none => exact .pure now
  | some trade =>
    refine .ite (fun _ => ?_) fun _ => .pure now
    have logged : Holds allowed faulty
        (Traced.note (EngineNote.trailingCheck bar.closeTimeMs state.pendingFills) : Run Unit)
        fun _ => True := .note fun _ => trivial
    refine .bind logged fun _ _ => ?_
    exact .ite (fun _ => .pure now) fun _ => .pure now

theorem closeTimeExits_keeps (benign : Benign faulty) (unfilled : post state.core)
    (exit : ∀ posQty fill, state.core.Exitable bar.symbol posQty →
      ExitFill (bar :: rest) bar.symbol posQty bar.closeTimeMs fill →
      Schedules allowed faulty bar.symbol bar.closeTimeMs state.core fill post) :
    Keeps allowed faulty (closeTimeExits engine bar rest standingTriggered state) post := by
  unfold closeTimeExits
  cases managed : state.managedTrade bar.symbol with
  | none => exact .pure unfilled
  | some trade =>
    refine .bind exitCheck_holds fun _ _ => ?_
    refine .ite (fun _ => .pure unfilled) fun unclaimed => ?_
    refine .bind ?_ fun later kept => updateTrailing_keeps kept
    refine .ite (fun _ => ?_) fun _ => .pure unfilled
    exact executeExit_keeps benign unfilled fun fill isExit =>
      exit trade.posQty fill (exitable_of_managed managed unclaimed) isExit

theorem markToMarket_keeps (benign : Benign faulty) (now : post state.core) :
    Keeps allowed faulty (markToMarket engine bar state) post :=
  .bind (checked_holds benign fun _ _ => trivial) fun _ _ => .pure now

/-! ### Invariants that no moment disturbs -/

variable (allowed faulty engine) in
/-- An invariant that holds through a whole round: every fill may be queued, and every queued
fill applied, at any time. -/
structure Stable (bar : Candle) (rest : List Candle) (inv : Core → Prop) : Prop where
  perm : ∀ core queue, queue.Perm core.pendingFills → inv core →
    inv { core with pendingFills := queue }
  apply : ∀ core fill, inv (core.scheduled fill) →
    Applies allowed faulty bar.symbol core fill inv
  settle : ∀ (core : Core) event others, inv { core with funding := event :: others } →
    Settles allowed faulty bar.symbol { core with funding := others } event inv
  entry : ∀ (core : Core) fill, inv core → AdmittedFill allowed engine bar rest core fill →
    inv (core.scheduled fill)
  exit : ∀ (core : Core) posQty observed fill, inv core → core.Exitable bar.symbol posQty →
    ExitFill (bar :: rest) bar.symbol posQty observed fill →
    inv (core.scheduled fill)

namespace Stable

variable {core : Core}

variable (stable : Stable allowed faulty engine bar rest inv)

include stable

theorem enqueue (joined : inv (core.scheduled fill)) :
    inv (core.enqueue fill) :=
  stable.perm (core.scheduled fill) _
    (List.perm_append_singleton _ _) joined

theorem schedules {now : Int}
    (joined : inv (core.scheduled fill)) :
    Schedules allowed faulty bar.symbol now core fill inv :=
  ⟨fun _ => stable.apply core fill joined, fun _ => stable.enqueue joined⟩

variable (benign : Benign faulty) (now : inv state.core)

include benign now

theorem processPending_keeps :
    Keeps allowed faulty (processPending engine due bar.symbol state) inv :=
  (processPending_holds benign stable.perm (fun core fill before _ => stable.apply core fill before)
    now).mono fun _ later => later.1

theorem settleFunding_keeps :
    Keeps allowed faulty (settleFunding engine bar.symbol due tracked state) inv :=
  (settleFunding_holds benign (fun core event others before _ =>
    stable.settle core event others before) now).mono fun _ later => later.1

theorem processSignals_keeps :
    Keeps allowed faulty (processSignals engine previous bar rest state) inv :=
  QuantAgent.Economic.processSignals_keeps benign
    (fun core fill before entry => stable.schedules (stable.entry core fill before entry))
    (fun core posQty fill before exitable exit =>
      stable.schedules (stable.exit core posQty _ fill before exitable exit)) now

theorem gapExits_keeps :
    Keeps allowed faulty (gapExits engine bar state) inv :=
  QuantAgent.Economic.gapExits_keeps benign now fun posQty observed fill exitable exit _ _ =>
    stable.apply _ fill (stable.exit _ posQty observed fill now exitable exit.of_first)

theorem standingExits_keeps :
    Holds allowed faulty (standingExits engine bar state) fun result => inv result.1.core :=
  standingExits_holds benign now fun posQty observed fill exitable exit _ _ =>
    stable.enqueue (stable.exit _ posQty observed fill now exitable exit.of_first)

theorem closeTimeExits_keeps :
    Keeps allowed faulty (closeTimeExits engine bar rest standingTriggered state) inv :=
  QuantAgent.Economic.closeTimeExits_keeps benign now fun posQty fill exitable exit =>
    stable.schedules (stable.exit _ posQty _ fill now exitable exit)

theorem openPhase_keeps :
    Keeps allowed faulty (openPhase engine previous bar rest state) inv := by
  refine .bind (stable.settleFunding_keeps benign now) fun funded kept => ?_
  refine .bind (stable.processPending_keeps benign kept) fun filled kept => ?_
  exact .bind (stable.processSignals_keeps benign kept) fun later kept =>
    stable.gapExits_keeps benign kept

theorem closePhase_keeps :
    Keeps allowed faulty (closePhase engine bar rest standingTriggered state) inv := by
  refine .bind (stable.settleFunding_keeps benign now) fun funded kept => ?_
  refine .bind (stable.closeTimeExits_keeps benign kept) fun later kept => ?_
  exact .bind (stable.processPending_keeps benign kept) fun _ kept =>
    markToMarket_keeps benign kept

/-- One round keeps such an invariant. -/
theorem processBar_keeps :
    Keeps allowed faulty (processBar engine previous bar rest state) inv := by
  refine .bind (stable.openPhase_keeps benign now) fun opened kept => ?_
  refine .bind (stable.standingExits_keeps benign kept) fun stood kept => ?_
  have intrabar : Keeps allowed faulty (intrabarPhase engine bar stood.1) inv :=
    .bind (stable.settleFunding_keeps benign kept) fun _ kept =>
      stable.processPending_keeps benign kept
  exact .bind intrabar fun _ kept => stable.closePhase_keeps benign kept

end Stable

/-! ### The loop -/

theorem runFirst_keeps {inv : List Candle → Core → Prop}
    (round : ∀ previous bar rest state, inv (bar :: rest) state.core →
      Keeps allowed faulty (processBar engine previous bar rest state) (inv rest))
    (count : ℕ) {state : EngineState}
    (start : inv bars state.core) :
    Keeps allowed faulty (runFirst engine count previous bars state)
      (inv (bars.drop count)) := by
  induction count generalizing previous bars state with
  | zero =>
    unfold runFirst
    exact .pure start
  | succ count inductionHypothesis =>
    cases bars with
    | nil =>
      unfold runFirst
      exact .pure start
    | cons bar rest =>
      refine .bind (round previous bar rest state start) fun later kept => ?_
      exact inductionHypothesis kept

end Rules

theorem runBars_eq_runFirst {engine : EconomicSimulationEngine} (previous : Option Candle)
    (bars : List Candle) (state : EngineState) :
    runBars engine previous bars state = runFirst engine bars.length previous bars state := by
  induction bars generalizing previous state with
  | nil => rfl
  | cons bar rest inductionHypothesis =>
    have rounds : runBars engine (some bar) rest =
        runFirst engine rest.length (some bar) rest := by
      funext later
      exact inductionHypothesis (some bar) later
    show (do
        let later ← processBar engine previous bar rest state
        runBars engine (some bar) rest later) = _
    rw [rounds]
    rfl

end QuantAgent.Economic
