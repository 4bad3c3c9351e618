/-
This file follows the clock of the event loop. Over ordered bars of one symbol the ledger never
runs ahead of the clock, waiting fills and remaining funding never fall behind it, and the
waiting exit fits the position it closes.

The clock stands still while fills are applied, since every fill is due at an open or a close,
and moves forward with each funding settlement and at the boundaries of a bar.
-/

import QuantAgent.Economic.Ledger
import QuantAgent.Economic.Rules

namespace QuantAgent.Economic

open Traced

/-! ### Bars -/

/-- Strictly ordered, non-overlapping bars. -/
def OrderedBars (bars : List Candle) : Prop :=
  bars.Pairwise fun earlier later => earlier.closeTimeMs ≤ later.openTimeMs

theorem OrderedBars.tail {bar : Candle} {rest : List Candle} (ordered : OrderedBars (bar :: rest)) :
    OrderedBars rest := (List.pairwise_cons.mp ordered).2

section DueIn

variable {fill : PendingFill} {bar : Candle} {rest : List Candle}

theorem due_cases (ordered : OrderedBars (bar :: rest)) (due : fill.DueIn (bar :: rest)) :
    fill.fillTimestampMs = bar.openTimeMs ∨ bar.closeTimeMs ≤ fill.fillTimestampMs := by
  obtain ⟨other, member, moment⟩ := due
  rcases List.mem_cons.mp member with rfl | later
  · omega
  · have after := (List.pairwise_cons.mp ordered).1 other later
    have otherWithin := other.closeAfterOpen
    omega

theorem open_le_due (ordered : OrderedBars (bar :: rest)) (due : fill.DueIn (bar :: rest)) :
    bar.openTimeMs ≤ fill.fillTimestampMs := by
  have within := bar.closeAfterOpen
  obtain opened | closed := due_cases ordered due <;> omega

theorem close_le_due (ordered : OrderedBars (bar :: rest)) (due : fill.DueIn (bar :: rest))
    (opened : bar.openTimeMs < fill.fillTimestampMs) : bar.closeTimeMs ≤ fill.fillTimestampMs :=
  (due_cases ordered due).resolve_left opened.ne'

theorem dueIn_rest (due : fill.DueIn (bar :: rest))
    (closed : bar.closeTimeMs < fill.fillTimestampMs) : fill.DueIn rest := by
  have within := bar.closeAfterOpen
  obtain ⟨other, member, moment⟩ := due
  rcases List.mem_cons.mp member with rfl | later
  · omega
  · exact ⟨other, later, moment⟩

end DueIn

/-! ### The waiting exit fits the position -/

/-- The waiting exit, if there is one, is on the side of the position and no larger. -/
structure Fitting (symbol : String) (core : Core) : Prop extends SingleExit symbol core where
  fits : ∀ fill ∈ core.pendingFills, fill.action.closing = true →
    0 < core.quantity symbol * fill.action.direction ∧ fill.quantity ≤ |core.quantity symbol|

variable {portfolio : Portfolio} {queue : List PendingFill}

namespace Fitting

variable {symbol : String} {core : Core} {fill : PendingFill}

theorem perm (fitting : Fitting symbol core) (reordered : queue.Perm core.pendingFills) :
    Fitting symbol { core with pendingFills := queue } :=
  ⟨fitting.toSingleExit.perm reordered,
    fun fill member => fitting.fits fill (reordered.mem_iff.mp member)⟩

theorem cons_opening (fitting : Fitting symbol core) (asset : fill.asset = symbol)
    (opening : fill.action.opening = true) :
    Fitting symbol (core.scheduled fill) := by
  refine ⟨fitting.toSingleExit.cons_opening asset opening, ?_⟩
  intro other member closing
  rcases List.mem_cons.mp member with rfl | before
  · rw [TradeAction.not_closing_of_opening opening] at closing
    cases closing
  · exact fitting.fits other before closing

theorem exitAction_aligned {posQty : ℚ} (nonzero : posQty ≠ 0) :
    0 < posQty * (exitAction posQty).direction := by
  unfold exitAction
  by_cases long : 0 < posQty
  · rw [if_pos long]
    simpa [TradeAction.direction] using long
  · have short : posQty < 0 := lt_of_le_of_ne (not_lt.mp long) nonzero
    rw [if_neg long]
    simpa [TradeAction.direction] using short

theorem cons_exit (fitting : Fitting symbol core) {posQty : ℚ} {observed : Int}
    {bars : List Candle} (exitable : core.Exitable symbol posQty)
    (exit : ExitFill bars symbol posQty observed fill) :
    Fitting symbol (core.scheduled fill) := by
  refine ⟨fitting.toSingleExit.cons_exit exitable exit, ?_⟩
  intro other member closing
  rcases List.mem_cons.mp member with rfl | before
  · change 0 < core.quantity symbol * other.action.direction ∧
      other.quantity ≤ |core.quantity symbol|
    rw [exit.action, exit.quantity, exitable.quantity]
    exact ⟨exitAction_aligned (abs_pos.mp (lt_trans dust_pos exitable.held)), le_refl _⟩
  · rw [fitting.toSingleExit.none_closing exitable.unclaimed other before] at closing
    cases closing

/-- An opening on the side of the position leaves room for the waiting exit. -/
theorem opening_grows {quantity size direction other : ℚ} (aligned : 0 ≤ quantity * direction)
    (fits : 0 < quantity * other) (sign : direction = 1 ∨ direction = -1)
    (otherSign : other = 1 ∨ other = -1) (positive : 0 < size) :
    0 < (quantity + direction * size) * other ∧
      |quantity| ≤ |quantity + direction * size| := by
  rcases sign with rfl | rfl <;> rcases otherSign with rfl | rfl
  · refine ⟨by linarith, ?_⟩
    rw [abs_of_nonneg (by linarith), abs_of_nonneg (by linarith)]
    linarith
  · linarith
  · linarith
  · refine ⟨by linarith, ?_⟩
    rw [abs_of_nonpos (by linarith), abs_of_nonpos (by linarith)]
    linarith

theorem direction_sign (action : TradeAction) : action.direction = 1 ∨ action.direction = -1 := by
  cases action <;> simp [TradeAction.direction]

theorem traded (sound : fill.Sound)
    (fitting : Fitting symbol (core.scheduled fill))
    (done : core.portfolio.applyTrade (fill.tradeRequest symbol) = .ok portfolio) :
    Fitting symbol (core.traded fill portfolio) := by
  have exits : SingleExit symbol (core.traded fill portfolio) :=
    ⟨fitting.toSingleExit.tail.assets, fitting.toSingleExit.tail.single⟩
  refine ⟨exits, ?_⟩
  intro other member closes
  by_cases opening : fill.action.opening = true
  · obtain ⟨aligned, size, -⟩ := traded_opening done opening
    obtain ⟨side, small⟩ := fitting.fits other (List.mem_cons_of_mem _ member) closes
    obtain ⟨grownSide, grown⟩ := opening_grows aligned side (direction_sign _) (direction_sign _)
      sound.quantityPositive
    change 0 < portfolio.getPositionQuantity symbol * other.action.direction ∧
      other.quantity ≤ |portfolio.getPositionQuantity symbol|
    rw [size]
    exact ⟨grownSide, le_trans small grown⟩
  · obtain ⟨closing, -⟩ := traded_closing done opening
    have opens := fitting.toSingleExit.tail_opening closing other member
    rw [opens] at closes
    cases closes

end Fitting

/-! ### The clock -/

/-- At a moment: the ledger lies in the past, in order; the waiting fills and the remaining
funding lie ahead; the position is what the ledger's fills form; and the funding processed so
far is charged as the ledger's fills strictly before it demand. -/
structure Timely (symbol : String) (first : Int) (all : List FundingSettlement)
    (bars : List Candle) (now : Int) (core : Core) : Prop where
  recorded : ∀ event ∈ core.portfolio.tradeHistory,
    first ≤ event.timestampMs ∧ 0 < event.timestampMs ∧ event.timestampMs ≤ now
  sorted : core.portfolio.tradeHistory.Pairwise fun a b => a.timestampMs ≤ b.timestampMs
  waiting : ∀ fill ∈ core.pendingFills, now ≤ fill.fillTimestampMs ∧ fill.Waits bars
  remaining : ∀ event ∈ core.funding, now ≤ event.timestampMs
  inOrder : DueQueue.InOrder FundingSettlement.timestampMs core.funding
  before : ∀ event ∈ core.portfolio.tradeHistory, event.isTrade = true →
    ∀ settlement ∈ core.funding, event.timestampMs < settlement.timestampMs
  net : core.quantity symbol = netPosition core.portfolio.tradeHistory
  settled : ∃ processed, processed ++ core.funding = all ∧
    (∀ settlement ∈ processed, settlement.timestampMs ≤ now) ∧
    fundingCharges core.portfolio.tradeHistory =
      processed.filterMap (chargeOf core.portfolio.tradeHistory)

namespace Timely

variable {symbol : String} {first now later : Int} {all : List FundingSettlement}
  {bars : List Candle} {core : Core} {fill : PendingFill}

section

variable (timely : Timely symbol first all bars now core)

include timely

theorem perm (reordered : queue.Perm core.pendingFills) :
    Timely symbol first all bars now { core with pendingFills := queue } :=
  ⟨timely.recorded, timely.sorted,
    fun fill member => timely.waiting fill (reordered.mem_iff.mp member), timely.remaining,
    timely.inOrder, timely.before, timely.net, timely.settled⟩

theorem cons (ahead : now ≤ fill.fillTimestampMs) (waits : fill.Waits bars) :
    Timely symbol first all bars now (core.scheduled fill) := by
  refine ⟨timely.recorded, timely.sorted, ?_, timely.remaining, timely.inOrder, timely.before,
    timely.net, timely.settled⟩
  intro other member
  rcases List.mem_cons.mp member with rfl | before
  · exact ⟨ahead, waits⟩
  · exact timely.waiting other before

/-- The clock may move up to whatever comes next. -/
theorem advance (forward : now ≤ later)
    (fills : ∀ fill ∈ core.pendingFills, later ≤ fill.fillTimestampMs)
    (funding : ∀ event ∈ core.funding, later ≤ event.timestampMs) :
    Timely symbol first all bars later core := by
  obtain ⟨processed, whole, past, charged⟩ := timely.settled
  refine ⟨?_, timely.sorted, ?_, funding, timely.inOrder, timely.before, timely.net,
    processed, whole, fun event member => le_trans (past event member) forward, charged⟩
  · intro event member
    obtain ⟨started, positive, recorded⟩ := timely.recorded event member
    exact ⟨started, positive, le_trans recorded forward⟩
  · intro fill member
    exact ⟨fills fill member, (timely.waiting fill member).2⟩

theorem held (exposed : core.quantity symbol ≠ 0) : first ≤ now ∧ 0 < now := by
  cases history : core.portfolio.tradeHistory with
  | nil =>
    have flat := timely.net
    rw [history] at flat
    exact absurd flat exposed
  | cons event rest =>
    obtain ⟨started, positive, recorded⟩ := timely.recorded event (by simp [history])
    exact ⟨le_trans started recorded, lt_of_lt_of_le positive recorded⟩

end

/-- Charges at moments that are past do not change with what is appended now. -/
theorem filterMap_chargeOf_append {processed : List FundingSettlement}
    {history : List TradeEvent} {event : TradeEvent}
    (late : ∀ settlement ∈ processed,
      settlement.timestampMs ≤ event.timestampMs ∨ event.isTrade = false) :
    processed.filterMap (chargeOf (history ++ [event])) =
      processed.filterMap (chargeOf history) :=
  List.filterMap_congr fun settlement member => chargeOf_append (late settlement member)

theorem traded
    (timely : Timely symbol first all bars now
      (core.scheduled fill))
    (due : fill.fillTimestampMs = now) (started : first ≤ now)
    (ahead : ∀ settlement ∈ core.funding, now < settlement.timestampMs)
    (done : core.portfolio.applyTrade (fill.tradeRequest symbol) = .ok portfolio) :
    Timely symbol first all bars now (core.traded fill portfolio) := by
  obtain ⟨event, appended, time, trade, moved⟩ := applyTrade_history done
  obtain ⟨processed, whole, past, charged⟩ := timely.settled
  obtain ⟨-, waits⟩ := timely.waiting fill List.mem_cons_self
  have positive : 0 < now := by
    rw [← due]
    exact lt_of_lt_of_le waits.observed waits.sound.observed_le
  rw [due] at time
  refine ⟨?_, ?_, ?_, timely.remaining, timely.inOrder, ?_, ?_, processed, whole, past, ?_⟩
  · intro other member
    change other ∈ portfolio.tradeHistory at member
    rw [appended] at member
    rcases List.mem_append.mp member with before | same
    · exact timely.recorded other before
    · rw [List.mem_singleton.mp same, time]
      exact ⟨started, positive, le_refl _⟩
  · change portfolio.tradeHistory.Pairwise _
    rw [appended]
    refine List.pairwise_append.mpr ⟨timely.sorted, List.pairwise_singleton _ _, ?_⟩
    intro other member last same
    rw [List.mem_singleton.mp same, time]
    exact (timely.recorded other member).2.2
  · exact fun other member => timely.waiting other (List.mem_cons_of_mem _ member)
  · intro other member isTrade settlement settling
    change other ∈ portfolio.tradeHistory at member
    rw [appended] at member
    rcases List.mem_append.mp member with before | same
    · exact timely.before other before isTrade settlement settling
    · rw [List.mem_singleton.mp same, time]
      exact ahead settlement settling
  · change portfolio.getPositionQuantity symbol = netPosition portfolio.tradeHistory
    have net : core.portfolio.getPositionQuantity symbol =
        netPosition core.portfolio.tradeHistory := timely.net
    rw [appended, netPosition_append, moved, net]
  · change fundingCharges portfolio.tradeHistory =
      processed.filterMap (chargeOf portfolio.tradeHistory)
    rw [appended, fundingCharges_append, if_pos trade, List.append_nil,
      filterMap_chargeOf_append fun settlement member => .inl (by
        rw [time]
        exact past settlement member)]
    exact charged

section

variable {event : FundingSettlement} {rest : List FundingSettlement}
  (timely : Timely symbol first all bars now { core with funding := event :: rest })

include timely

theorem chargeOf_next :
    chargeOf core.portfolio.tradeHistory event =
      if dust < |core.quantity symbol| then
        some ⟨event.timestampMs, event.markPrice,
          -(core.quantity symbol * event.markPrice * event.fundingRate)⟩
      else none := by
  have net : core.quantity symbol = netPosition core.portfolio.tradeHistory := timely.net
  unfold chargeOf
  rw [positionBefore_of_all fun other member isTrade =>
    timely.before other member isTrade event List.mem_cons_self, net]

theorem skipped (fills : ∀ fill ∈ core.pendingFills, event.timestampMs ≤ fill.fillTimestampMs)
    (flat : |core.quantity symbol| ≤ dust) :
    Timely symbol first all bars event.timestampMs { core with funding := rest } := by
  have forward : now ≤ event.timestampMs := timely.remaining event List.mem_cons_self
  obtain ⟨processed, whole, past, charged⟩ := timely.settled
  refine ⟨?_, timely.sorted, ?_, timely.inOrder.head_le, timely.inOrder.tail, ?_, timely.net,
    processed ++ [event], ?_, ?_, ?_⟩
  · intro other member
    obtain ⟨started, positive, recorded⟩ := timely.recorded other member
    exact ⟨started, positive, le_trans recorded forward⟩
  · exact fun fill member => ⟨fills fill member, (timely.waiting fill member).2⟩
  · exact fun other member isTrade settlement settling =>
      timely.before other member isTrade settlement (List.mem_cons_of_mem _ settling)
  · rw [List.append_assoc]
    exact whole
  · intro settlement member
    rcases List.mem_append.mp member with before | same
    · exact le_trans (past settlement before) forward
    · rw [List.mem_singleton.mp same]
  · have uncharged := timely.chargeOf_next
    rw [if_neg (not_lt.mpr flat)] at uncharged
    rw [List.filterMap_append, List.filterMap_cons_none uncharged, List.filterMap_nil,
      List.append_nil]
    exact charged

theorem charged (fills : ∀ fill ∈ core.pendingFills, event.timestampMs ≤ fill.fillTimestampMs)
    (held : dust < |core.quantity symbol|)
    (done : core.portfolio.applyFunding event.timestampMs symbol
      (calculateCashflow (core.quantity symbol) event.markPrice event.fundingRate)
      event.markPrice = .ok portfolio) :
    Timely symbol first all bars event.timestampMs
      { core with portfolio := portfolio, funding := rest } := by
  have forward : now ≤ event.timestampMs := timely.remaining event List.mem_cons_self
  obtain ⟨started, positive⟩ := timely.held (abs_pos.mp (lt_trans dust_pos held))
  obtain ⟨entry, appended, time, untraded, mark, cash, signed, same⟩ := applyFunding_history done
  obtain ⟨processed, whole, past, charged⟩ := timely.settled
  refine ⟨?_, ?_, ?_, timely.inOrder.head_le, timely.inOrder.tail, ?_, ?_,
    processed ++ [event], ?_, ?_, ?_⟩
  · intro other member
    change other ∈ portfolio.tradeHistory at member
    rw [appended] at member
    rcases List.mem_append.mp member with before | last
    · obtain ⟨begun, positive, recorded⟩ := timely.recorded other before
      exact ⟨begun, positive, le_trans recorded forward⟩
    · rw [List.mem_singleton.mp last, time]
      exact ⟨le_trans started forward, lt_of_lt_of_le positive forward, le_refl _⟩
  · change portfolio.tradeHistory.Pairwise _
    rw [appended]
    refine List.pairwise_append.mpr ⟨timely.sorted, List.pairwise_singleton _ _, ?_⟩
    intro other member last single
    rw [List.mem_singleton.mp single, time]
    exact le_trans (timely.recorded other member).2.2 forward
  · exact fun fill member => ⟨fills fill member, (timely.waiting fill member).2⟩
  · intro other member isTrade settlement settling
    change other ∈ portfolio.tradeHistory at member
    rw [appended] at member
    rcases List.mem_append.mp member with before | last
    · exact timely.before other before isTrade settlement (List.mem_cons_of_mem _ settling)
    · rw [List.mem_singleton.mp last, untraded] at isTrade
      cases isTrade
  · change portfolio.getPositionQuantity symbol = netPosition portfolio.tradeHistory
    have net : core.portfolio.getPositionQuantity symbol =
        netPosition core.portfolio.tradeHistory := timely.net
    rw [appended, netPosition_append, signed, add_zero, same, net]
  · rw [List.append_assoc]
    exact whole
  · intro settlement member
    rcases List.mem_append.mp member with before | last
    · exact le_trans (past settlement before) forward
    · rw [List.mem_singleton.mp last]
  · change fundingCharges portfolio.tradeHistory =
      (processed ++ [event]).filterMap (chargeOf portfolio.tradeHistory)
    have due := timely.chargeOf_next
    rw [if_pos held] at due
    rw [appended, fundingCharges_append, if_neg (by simp [untraded]), time, mark, cash,
      filterMap_chargeOf_append fun _ _ => .inr untraded, List.filterMap_append,
      List.filterMap_cons_some due, List.filterMap_nil, calculateCashflow_of_held held]
    rw [show fundingCharges core.portfolio.tradeHistory =
      processed.filterMap (chargeOf core.portfolio.tradeHistory) from charged]

end

end Timely

/-! ### No fault of the ledger -/

/-- What the ledger asks of the loop beyond its order: an opening does not meet an opposite
position, and funding comes with a positive mark price. -/
def Admissible : EngineNote → Prop
  | .trade portfolio fill symbol _ =>
    fill.action.opening = true →
      0 ≤ portfolio.getPositionQuantity symbol * fill.action.direction
  | .funding _ _ event => 0 < event.markPrice
  | _ => True

/-- Timely, with an exit that fits. -/
structure Orderly (symbol : String) (first : Int) (all : List FundingSettlement)
    (bars : List Candle) (now : Int) (core : Core) : Prop where
  timely : Timely symbol first all bars now core
  fitting : Fitting symbol core

section Faults

variable {symbol : String} {first now : Int} {all : List FundingSettlement}
  {bars : List Candle} {core : Core} {fill : PendingFill}

/-- Nothing recorded lies after a moment the clock has not passed. -/
theorem Timely.validInput (timely : Timely symbol first all bars now core)
    (named : blank symbol = false) {time : Int} (forward : now ≤ time) (positive : 0 < time) :
    core.portfolio.validateEventInput time symbol = .ok () := by
  refine Portfolio.validateEventInput_eq_ok.mpr ⟨positive, fun last found => ?_, named⟩
  exact le_trans (timely.recorded last (List.mem_of_getLast? found)).2.2 forward

theorem Orderly.accepted (named : blank symbol = false)
    (orderly : Orderly symbol first all bars now
      (core.scheduled fill))
    (due : fill.fillTimestampMs = now)
    (admissible : Admissible (.trade core.portfolio fill symbol core.pendingFills)) :
    ∃ portfolio, core.portfolio.applyTrade (fill.tradeRequest symbol) = .ok portfolio := by
  obtain ⟨-, -, sound, observed, trade⟩ := orderly.timely.waiting fill List.mem_cons_self
  have decided : 0 < fill.decisionTimestampMs := lt_of_lt_of_le observed sound.decided
  have submitted : 0 < fill.orderTimestampMs := lt_of_lt_of_le decided sound.submitted
  have executed : 0 < fill.fillTimestampMs := lt_of_lt_of_le submitted sound.executed
  have notFunding : fill.action ≠ .fundingSettlement := by
    intro same
    rw [same] at trade
    rcases trade with opens | closes
    · cases opens
    · cases closes
  have admits : core.portfolio.Admits (fill.tradeRequest symbol) := by
    unfold Portfolio.Admits
    by_cases opening : fill.action.opening = true
    · rw [if_pos (show (fill.tradeRequest symbol).action.opening = true from opening)]
      exact admissible opening
    · rw [if_neg (show ¬ (fill.tradeRequest symbol).action.opening = true from opening)]
      exact orderly.fitting.fits fill List.mem_cons_self (trade.resolve_left opening)
  refine Portfolio.applyTrade_succeeds ?_ notFunding
    ⟨sound.quantityPositive, sound.pricePositive, sound.feeNonneg⟩ admits ?_
  · exact orderly.timely.validInput named due.ge executed
  · intro newQty realized
    refine ⟨executed, ⟨sound.pricePositive, sound.quantityPositive.le, sound.feeNonneg⟩,
      fun same => absurd same notFunding, fun _ => ⟨sound.quantityPositive, rfl⟩, ?_, ?_⟩
    · have settled : 0 < fill.settlementTimestampMs := by rwa [sound.settled]
      exact ⟨decide_eq_true observed, decide_eq_true decided, decide_eq_true submitted,
        decide_eq_true settled⟩
    · exact ⟨decide_eq_true sound.decided, decide_eq_true sound.submitted,
        decide_eq_true sound.executed, decide_eq_true sound.settled.ge⟩

end Faults

/-! ### The loop keeps the clock -/

section Loop

variable {symbol : String} {first now : Int} {all : List FundingSettlement}
  {bars : List Candle} {core : Core} {fill : PendingFill} {engine : EconomicSimulationEngine}
  {allowed : EngineNote → Prop} {faulty : EngineError → Prop}

/-- Either the ledger's faults are permitted, or the log is held to what rules them out. -/
def Judged (symbol : String) (allowed : EngineNote → Prop) (faulty : EngineError → Prop) : Prop :=
  (∀ error, faulty error) ∨
    blank symbol = false ∧ ∀ note, allowed note → Admissible note

/-- Orderly, with the remaining funding strictly ahead. -/
structure Calm (symbol : String) (first : Int) (all : List FundingSettlement)
    (bars : List Candle) (now : Int) (core : Core) : Prop extends
    Orderly symbol first all bars now core where
  started : first ≤ now
  ahead : ∀ settlement ∈ core.funding, now < settlement.timestampMs

theorem Calm.perm (calm : Calm symbol first all bars now core)
    (reordered : queue.Perm core.pendingFills) :
    Calm symbol first all bars now { core with pendingFills := queue } :=
  ⟨⟨calm.timely.perm reordered, calm.fitting.perm reordered⟩, calm.started, calm.ahead⟩

theorem applies_calm (judged : Judged symbol allowed faulty)
    (calm : Calm symbol first all bars now (core.scheduled fill))
    (due : fill.fillTimestampMs = now) :
    Applies allowed faulty symbol core fill (Calm symbol first all bars now) := by
  intro permitted
  refine ⟨fun message failed => ?_, fun portfolio done => ?_⟩
  · rcases judged with anything | ⟨named, strict⟩
    · exact anything _
    · obtain ⟨portfolio, done⟩ := calm.toOrderly.accepted named due (strict _ permitted)
      rw [done] at failed
      cases failed
  · obtain ⟨-, waits⟩ := calm.timely.waiting fill List.mem_cons_self
    exact ⟨⟨calm.timely.traded due calm.started calm.ahead done,
      calm.fitting.traded waits.sound done⟩, calm.started, calm.ahead⟩

theorem schedules_calm (judged : Judged symbol allowed faulty)
    (calm : Calm symbol first all bars now core) (ahead : now ≤ fill.fillTimestampMs)
    (waits : fill.Waits bars)
    (fitting : Fitting symbol (core.scheduled fill)) :
    Schedules allowed faulty symbol now core fill (Calm symbol first all bars now) := by
  have queued : Calm symbol first all bars now
      (core.scheduled fill) :=
    ⟨⟨calm.timely.cons ahead waits, fitting⟩, calm.started, calm.ahead⟩
  exact ⟨fun due => applies_calm judged queued (le_antisymm due ahead),
    fun _ => queued.perm (List.perm_append_singleton _ _)⟩

/-- Calm, with the waiting fills strictly ahead as well. -/
structure Clear (symbol : String) (first : Int) (all : List FundingSettlement)
    (bars : List Candle) (now : Int) (core : Core) : Prop extends
    Calm symbol first all bars now core where
  clear : ∀ fill ∈ core.pendingFills, now < fill.fillTimestampMs

theorem schedules_clear (judged : Judged symbol allowed faulty)
    (clear : Clear symbol first all bars now core) (ahead : now ≤ fill.fillTimestampMs)
    (waits : fill.Waits bars)
    (fitting : Fitting symbol (core.scheduled fill)) :
    Schedules allowed faulty symbol now core fill (Clear symbol first all bars now) := by
  obtain ⟨applied, queued⟩ := schedules_calm judged clear.toCalm ahead waits fitting
  refine ⟨fun due => (applied due).mono fun portfolio calm => ⟨calm, clear.clear⟩,
    fun later => ⟨queued later, ?_⟩⟩
  intro other member
  rcases List.mem_append.mp member with before | same
  · exact clear.clear other before
  · rw [List.mem_singleton.mp same]
    exact later

theorem Timely.exitable_now (timely : Timely symbol first all bars now core) {posQty : ℚ}
    (exitable : core.Exitable symbol posQty) : 0 < now := by
  refine (timely.held ?_).2
  rw [exitable.quantity]
  exact abs_pos.mp (lt_trans dust_pos exitable.held)

/-! ### Funding -/

theorem Fitting.refunded {funding : List FundingSettlement} (fitting : Fitting symbol core)
    (same : portfolio.getPositionQuantity symbol = core.quantity symbol) :
    Fitting symbol { core with portfolio := portfolio, funding := funding } := by
  refine ⟨⟨fitting.assets, fitting.single⟩, ?_⟩
  intro fill member closing
  change 0 < portfolio.getPositionQuantity symbol * _ ∧ _ ≤ |portfolio.getPositionQuantity symbol|
  rw [same]
  exact fitting.fits fill member closing

theorem settles_orderly (judged : Judged symbol allowed faulty) {event : FundingSettlement}
    {rest : List FundingSettlement}
    (orderly : Orderly symbol first all bars now { core with funding := event :: rest })
    (fills : ∀ fill ∈ core.pendingFills, event.timestampMs ≤ fill.fillTimestampMs) :
    Settles allowed faulty symbol { core with funding := rest } event
      (Orderly symbol first all bars event.timestampMs) := by
  refine ⟨fun flat => ⟨orderly.timely.skipped fills flat, orderly.fitting.refunded rfl⟩,
    fun held permitted => ⟨fun message failed => ?_, fun portfolio done =>
      ⟨orderly.timely.charged fills held done, orderly.fitting.refunded ?_⟩⟩⟩
  · rcases judged with anything | ⟨named, strict⟩
    · exact anything _
    · have nonzero : core.quantity symbol ≠ 0 := abs_pos.mp (lt_trans dust_pos held)
      have forward : now ≤ event.timestampMs :=
        orderly.timely.remaining event List.mem_cons_self
      have positive : 0 < event.timestampMs :=
        lt_of_lt_of_le (orderly.timely.held nonzero).2 forward
      obtain ⟨portfolio, done⟩ := Portfolio.applyFunding_succeeds
        (orderly.timely.validInput named forward positive) nonzero (strict _ permitted)
      change core.portfolio.applyFunding _ _ _ _ = .ok portfolio at done
      change core.portfolio.applyFunding _ _ _ _ = .error message at failed
      rw [done] at failed
      cases failed
  · obtain ⟨-, -, -, -, -, -, -, same⟩ := applyFunding_history done
    exact same

end Loop

end QuantAgent.Economic
