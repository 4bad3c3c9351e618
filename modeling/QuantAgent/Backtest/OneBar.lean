/-
This file relates one bar of the event-driven loop to one bar of the resolver: a signal that waits,
a trade that goes on and a trade that is completed are so for both.
-/

import QuantAgent.Backtest.Accounts

namespace QuantAgent.Backtest.EventDrivenBacktestEngine

variable {Memory : Type} (backtest : EventDrivenBacktestEngine Memory)

def resolve (signal : Signal) : Option Entry → Option Bar → List Bar →
    Except RunFault TradeOutcome :=
  resolveFrom signal (backtest.config.holdingMinutes signal) none backtest.fundingEvents

section Resolver

variable {backtest} {signal : Signal} {bar : Bar} {entered : Option Entry} {entry : Entry}
  {lastBar : Option Bar} {later : List Bar}

theorem resolve_skips (old : bar.openTimeMs ≤ signal.dataTimestampMs) :
    backtest.resolve signal entered lastBar (bar :: later) =
      backtest.resolve signal entered lastBar later := by
  unfold resolve
  rw [resolveFrom, if_pos old]

theorem resolve_waits (inTime : bar.openTimeMs ≤ signal.expiresAtMs)
    (misses : ¬ signal.Touches bar) :
    backtest.resolve signal none lastBar (bar :: later) =
      backtest.resolve signal none lastBar later := by
  by_cases old : bar.openTimeMs ≤ signal.dataTimestampMs
  · exact resolve_skips old
  · have arrival : arrivalOf signal (backtest.config.holdingMinutes signal) bar = .waits := by
      unfold arrivalOf
      rw [if_neg (not_lt.mpr inTime), if_pos misses]
    unfold resolve
    rw [resolveFrom, if_neg old, Option.elim_none, arrival]

theorem resolve_enters (new : signal.dataTimestampMs < bar.openTimeMs)
    (inTime : bar.openTimeMs ≤ signal.expiresAtMs) (touches : signal.Touches bar) :
    backtest.resolve signal none lastBar (bar :: later) =
      backtest.resolve signal (some (backtest.opened signal bar).entry) lastBar (bar :: later) := by
  have arrival : arrivalOf signal (backtest.config.holdingMinutes signal) bar =
      .enters (backtest.opened signal bar).entry := by
    unfold arrivalOf
    rw [if_neg (not_lt.mpr inTime), if_neg (not_not.mpr touches)]
    rfl
  unfold resolve
  rw [resolveFrom, resolveFrom, if_neg (not_le.mpr new), if_neg (not_le.mpr new),
    Option.elim_none, Option.elim_some, arrival]

theorem resolve_entered (new : signal.dataTimestampMs < bar.openTimeMs) :
    backtest.resolve signal (some entry) lastBar (bar :: later) =
      if entry.holdingDeadlineMs < bar.closeTimeMs then
        afterBars signal none backtest.fundingEvents (some entry) lastBar
      else if signal.stopHit bar ∨ signal.targetHit bar then do
        let funding ← fundingCashflow signal entry.price
          (settlements backtest.fundingEvents entry.enteredAtMs bar.closeTimeMs)
        hitOutcome signal entry bar funding
      else backtest.resolve signal (some entry) (some bar) later := by
  unfold resolve
  rw [resolveFrom, if_neg (not_le.mpr new), Option.elim_some]

end Resolver

/-! ### Funding -/

def fundedUntil (trade : OpenTrade) : ℤ :=
  trade.lastBar.elim trade.entry.enteredAtMs fun last => last.closeTimeMs

def Funded (trade : OpenTrade) : Prop :=
  trade.fundingPnlUsdt = cashflow trade.signal trade.entry.price
    (settlements backtest.fundingEvents trade.entry.enteredAtMs (fundedUntil trade))

variable {backtest} {trade updated : OpenTrade} {bar : Bar}

theorem fundingCashflow_eq_ok {signal : Signal} {price : ℚ} (nonzero : price ≠ 0)
    (events : List FundingEvent) :
    fundingCashflow signal price events = .ok (cashflow signal price events) :=
  if_neg nonzero

theorem accrue_events (trade : OpenTrade) (lower upper : ℤ) (events : List FundingEvent)
    (start : ℚ) :
    (events.foldlM (fun funding event =>
      if lower < event.timestampMs ∧ event.timestampMs ≤ upper then do
        let share ← fundingCashflow trade.signal trade.entry.price [event]
        .ok (funding + share)
      else .ok funding) start : Except RunFault ℚ) =
      if trade.entry.price = 0 ∧ settlements events lower upper ≠ [] then .error .zeroDivision
      else .ok (start + cashflow trade.signal trade.entry.price
        (settlements events lower upper)) := by
  induction events generalizing start with
  | nil =>
    rw [if_neg fun both => both.2 rfl]
    exact congrArg Except.ok (add_zero start).symm
  | cons event events inductionHypothesis =>
    rw [List.foldlM_cons]
    by_cases inside : lower < event.timestampMs ∧ event.timestampMs ≤ upper
    · have settled : settlements (event :: events) lower upper =
          [event] ++ settlements events lower upper :=
        List.filter_cons_of_pos (by simpa using inside)
      rw [if_pos inside, settled, cashflow_append, ← add_assoc]
      by_cases zero : trade.entry.price = 0
      · rw [if_pos ⟨zero, List.cons_ne_nil _ _⟩, fundingCashflow, if_pos zero]
        rfl
      · rw [if_neg fun both => zero both.1, fundingCashflow_eq_ok zero, ok_bind,
          ok_bind, inductionHypothesis, if_neg fun both => zero both.1]
    · have settled : settlements (event :: events) lower upper = settlements events lower upper :=
        List.filter_cons_of_neg (by simpa using inside)
      rw [if_neg inside, ok_bind, inductionHypothesis, settled]

theorem accrue_eq (backtest : EventDrivenBacktestEngine Memory) (trade : OpenTrade)
    (lower upper : ℤ) :
    backtest.accrue trade lower upper =
      if trade.entry.price = 0 ∧ settlements backtest.fundingEvents lower upper ≠ [] then
        .error .zeroDivision
      else .ok (trade.fundingPnlUsdt + cashflow trade.signal trade.entry.price
        (settlements backtest.fundingEvents lower upper)) := by
  have sorted : (settlements backtest.sortedFunding lower upper).Perm
      (settlements backtest.fundingEvents lower upper) :=
    (List.perm_insertionSort _ _).filter _
  have empty : settlements backtest.sortedFunding lower upper ≠ [] ↔
      settlements backtest.fundingEvents lower upper ≠ [] := by
    rw [← List.length_pos_iff, ← List.length_pos_iff, sorted.length_eq]
  unfold accrue
  rw [accrue_events, cashflow_perm _ _ sorted]
  simp only [empty]

variable {funding : ℚ}

theorem accrue_spec {lower upper : ℤ} (done : backtest.accrue trade lower upper = .ok funding) :
    funding = trade.fundingPnlUsdt + cashflow trade.signal trade.entry.price
      (settlements backtest.fundingEvents lower upper) := by
  rw [accrue_eq] at done
  split_ifs at done
  exact (Except.ok.inj done).symm

theorem funded_until (funded : backtest.Funded trade)
    (first : trade.entry.enteredAtMs ≤ fundedUntil trade)
    (second : fundedUntil trade ≤ bar.closeTimeMs)
    (done : backtest.accrue trade (fundedUntil trade) bar.closeTimeMs = .ok funding) :
    funding = cashflow trade.signal trade.entry.price
      (settlements backtest.fundingEvents trade.entry.enteredAtMs bar.closeTimeMs) := by
  rw [accrue_spec done, funded, ← cashflow_append]
  exact cashflow_perm _ _ (settlements_split first second)

/-! ### The trade at a bar -/

/-- A trade that a bar is about to advance: the resolver, brought to this bar, goes on as it. -/
structure Running (backtest : EventDrivenBacktestEngine Memory) (trade : OpenTrade)
    (bars : List Bar)
    (bar : Bar) : Prop where
  new : trade.signal.dataTimestampMs < bar.openTimeMs
  started : trade.entry.enteredAtMs ≤ fundedUntil trade
  before : fundedUntil trade ≤ bar.openTimeMs
  funded : backtest.Funded trade
  resolves : ∀ later, backtest.resolve trade.signal none none (bars ++ later) =
    backtest.resolve trade.signal (some trade.entry) trade.lastBar (bar :: later)

structure Held (backtest : EventDrivenBacktestEngine Memory) (trade : OpenTrade) (bars : List Bar)
    (bar : Bar) : Prop where
  last : trade.lastBar = some bar
  new : trade.signal.dataTimestampMs < bar.openTimeMs
  started : trade.entry.enteredAtMs ≤ bar.openTimeMs
  funded : backtest.Funded trade
  resolves : ∀ later, backtest.resolve trade.signal none none (bars ++ later) =
    backtest.resolve trade.signal (some trade.entry) trade.lastBar later

theorem Held.running {bars : List Bar} {next : Bar} (held : Held backtest trade bars bar)
    (apart : bar.closeTimeMs < next.openTimeMs) :
    Running backtest trade (bars ++ [next]) next := by
  have until_ : fundedUntil trade = bar.closeTimeMs := by
    rw [fundedUntil, held.last]
    rfl
  have order := bar.closeAfterOpen
  refine ⟨by have := held.new; omega, by have := held.started; omega, by omega, held.funded, ?_⟩
  intro later
  rw [List.append_assoc]
  exact held.resolves (next :: later)

variable {outcome : TradeOutcome}

theorem nonzero_of_hit {signal : Signal} {entry : Entry}
    (hit : hitOutcome signal entry bar funding = .ok outcome) : entry.price ≠ 0 := by
  unfold hitOutcome at hit
  split_ifs at hit
  · exact price_ne_zero_of_completed hit
  · exact price_ne_zero_of_completed hit

theorem afterBars_of_timeout {completed : TradeOutcome} (funded : backtest.Funded trade)
    (valued : completedOutcome trade.signal .timeout trade.entry.price
      (trade.lastBar.elim trade.entry.price fun last => last.close) trade.entry.enteredAtMs
      (trade.lastBar.elim trade.entry.enteredAtMs fun last => last.closeTimeMs)
      trade.fundingPnlUsdt = .ok completed) :
    afterBars trade.signal none backtest.fundingEvents (some trade.entry) trade.lastBar =
      .ok completed := by
  have nonzero := price_ne_zero_of_completed valued
  unfold Funded fundedUntil at funded
  unfold afterBars
  rw [if_neg (by rintro ⟨_, ⟨⟩, _⟩)]
  rw [funded] at valued
  cases last : trade.lastBar with
  | none =>
    rw [last, Option.elim_none, Option.elim_none, settlements_self] at valued
    exact valued
  | some last =>
    rw [last, Option.elim_some, Option.elim_some] at valued
    dsimp only
    rw [fundingCashflow_eq_ok nonzero, ok_bind]
    exact valued

theorem updateOpen_spec {bars : List Bar} {outcome : Option TradeOutcome}
    (running : Running backtest trade bars bar)
    (done : backtest.updateOpen trade bar = .ok (updated, outcome)) :
    updated.signal = trade.signal ∧ updated.entry = trade.entry ∧
      match outcome with
      | none => Held backtest updated bars bar
      | some outcome => ∀ later,
          backtest.resolve trade.signal none none (bars ++ later) = .ok outcome := by
  have order := bar.closeAfterOpen
  have second : fundedUntil trade ≤ bar.closeTimeMs := running.before.trans order.le
  unfold updateOpen at done
  by_cases expired : trade.entry.holdingDeadlineMs < bar.closeTimeMs
  · rw [if_pos expired] at done
    obtain ⟨completed, valued, done⟩ := bind_eq_ok.mp done
    obtain ⟨rfl, rfl⟩ := Prod.mk.inj (Except.ok.inj done)
    refine ⟨rfl, rfl, fun later => ?_⟩
    rw [running.resolves, resolve_entered running.new, if_pos expired]
    exact afterBars_of_timeout running.funded valued
  · rw [if_neg expired] at done
    obtain ⟨funding, accrued, done⟩ := bind_eq_ok.mp done
    have whole := funded_until running.funded running.started second accrued
    by_cases hit : trade.signal.stopHit bar ∨ trade.signal.targetHit bar
    · rw [if_pos hit] at done
      obtain ⟨completed, valued, done⟩ := bind_eq_ok.mp done
      obtain ⟨rfl, rfl⟩ := Prod.mk.inj (Except.ok.inj done)
      refine ⟨rfl, rfl, fun later => ?_⟩
      rw [running.resolves, resolve_entered running.new, if_neg expired, if_pos hit,
        fundingCashflow_eq_ok (nonzero_of_hit valued), ok_bind, ← whole]
      exact valued
    · rw [if_neg hit] at done
      obtain ⟨rfl, rfl⟩ := Prod.mk.inj (Except.ok.inj done)
      refine ⟨rfl, rfl, rfl, running.new, running.started.trans running.before, whole, ?_⟩
      intro later
      rw [running.resolves, resolve_entered running.new, if_neg expired, if_neg hit]

structure Leaves (trade : OpenTrade) (bar : Bar) (outcome : TradeOutcome) (exitedAtMs : ℤ) :
    Prop where
  signalId : outcome.signalId = trade.signal.signalId
  completed : outcome.IsCompleted
  entered : outcome.enteredAtMs = some trade.entry.enteredAtMs
  exited : outcome.exitedAtMs = some exitedAtMs
  exit : exitedAtMs = bar.closeTimeMs ∨ outcome.outcome = .timeout ∧ exitedAtMs = fundedUntil trade

theorem leaves_of_hit (hit : hitOutcome trade.signal trade.entry bar funding = .ok outcome) :
    Leaves trade bar outcome bar.closeTimeMs := by
  unfold hitOutcome at hit
  split_ifs at hit
  · obtain ⟨signalId, kind, entered, exited⟩ := completedOutcome_spec hit
    refine ⟨signalId, ?_, entered, exited, .inl rfl⟩
    rw [TradeOutcome.IsCompleted, kind]
    decide
  · obtain ⟨signalId, kind, entered, exited⟩ := completedOutcome_spec hit
    refine ⟨signalId, ?_, entered, exited, .inl rfl⟩
    rw [TradeOutcome.IsCompleted, kind]
    decide

theorem updateOpen_leaves (done : backtest.updateOpen trade bar = .ok (updated, some outcome)) :
    ∃ exitedAtMs, Leaves trade bar outcome exitedAtMs := by
  unfold updateOpen at done
  by_cases expired : trade.entry.holdingDeadlineMs < bar.closeTimeMs
  · rw [if_pos expired] at done
    obtain ⟨completed, valued, done⟩ := bind_eq_ok.mp done
    obtain ⟨-, same⟩ := Prod.mk.inj (Except.ok.inj done)
    obtain rfl := Option.some.inj same
    obtain ⟨signalId, kind, entered, exited⟩ := completedOutcome_spec valued
    refine ⟨_, signalId, ?_, entered, exited, .inr ⟨kind, rfl⟩⟩
    rw [TradeOutcome.IsCompleted, kind]
    decide
  · rw [if_neg expired] at done
    obtain ⟨funding, -, done⟩ := bind_eq_ok.mp done
    by_cases hit : trade.signal.stopHit bar ∨ trade.signal.targetHit bar
    · rw [if_pos hit] at done
      obtain ⟨completed, valued, done⟩ := bind_eq_ok.mp done
      obtain ⟨-, same⟩ := Prod.mk.inj (Except.ok.inj done)
      obtain rfl := Option.some.inj same
      exact ⟨_, leaves_of_hit valued⟩
    · rw [if_neg hit] at done
      exact nomatch (Prod.mk.inj (Except.ok.inj done)).2

end QuantAgent.Backtest.EventDrivenBacktestEngine
