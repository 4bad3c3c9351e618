/-
This file proves that the event-driven backtest is causal: two runs whose bars, derivative snapshots
and funding events agree up to a time ask the strategy the same and record the same outcomes up to
that time, wherever the time falls in the buckets of the longer intervals.

A decision is taken a millisecond after its bar has closed, so the snapshots of that millisecond
belong to what is known; and a trade that times out at the time is recorded with the next bar.
-/

import QuantAgent.Backtest.PerSignal

namespace QuantAgent.Backtest.EventDrivenBacktestEngine

variable {Memory : Type}

/-- Two backtests of one strategy that know the same at the time. -/
structure Agree (first second : EventDrivenBacktestEngine Memory) (timeMs : ℤ) : Prop where
  engine : second.engine = first.engine
  config : second.config = first.config
  derivatives : visibleAt first.derivatives (timeMs + 1) = visibleAt second.derivatives (timeMs + 1)
  funding : (first.fundingEvents.filter fun event => event.timestampMs ≤ timeMs) =
    second.fundingEvents.filter fun event => event.timestampMs ≤ timeMs

variable {first second : EventDrivenBacktestEngine Memory} {timeMs : ℤ}

/-! ### One bar -/

theorem settlements_congr {events others : List FundingEvent} {lower upper : ℤ}
    (agree : (events.filter fun event => event.timestampMs ≤ timeMs) =
      others.filter fun event => event.timestampMs ≤ timeMs) (before : upper ≤ timeMs) :
    settlements events lower upper = settlements others lower upper := by
  have narrower : ∀ events : List FundingEvent, settlements events lower upper =
      settlements (events.filter fun event => event.timestampMs ≤ timeMs) lower upper := by
    intro events
    unfold settlements
    rw [List.filter_filter]
    refine List.filter_congr fun event _ => ?_
    rw [← Bool.decide_and, decide_eq_decide]
    omega
  rw [narrower events, narrower others, agree]

variable {bar : Bar}

section

variable (agree : Agree first second timeMs)

include agree

theorem updateOpen_congr (trade : OpenTrade) (before : bar.closeTimeMs ≤ timeMs) :
    first.updateOpen trade bar = second.updateOpen trade bar := by
  have accrued : ∀ lower, first.accrue trade lower bar.closeTimeMs =
      second.accrue trade lower bar.closeTimeMs := by
    intro lower
    rw [accrue_eq, accrue_eq, settlements_congr agree.funding before]
  unfold updateOpen
  simp only [accrued]

theorem advance_congr (state : State Memory) (trade : OpenTrade)
    (before : bar.closeTimeMs ≤ timeMs) :
    first.advance state trade bar = second.advance state trade bar := by
  unfold advance
  rw [updateOpen_congr agree trade before]

theorem opened_congr (signal : Signal) (bar : Bar) :
    first.opened signal bar = second.opened signal bar := by
  unfold opened
  rw [agree.config]

theorem fillPending_congr
    (before : bar.closeTimeMs ≤ timeMs) (signals : List Signal) (state : State Memory) :
    first.fillPending bar signals state = second.fillPending bar signals state := by
  induction signals generalizing state with
  | nil => rfl
  | cons signal signals inductionHypothesis =>
    unfold fillPending
    rw [opened_congr agree, advance_congr agree _ _ before, inductionHypothesis]
    simp only [inductionHypothesis]

theorem settle_congr (state : State Memory)
    (before : bar.closeTimeMs ≤ timeMs) : first.settle state bar = second.settle state bar := by
  unfold settle
  cases state.openTrade with
  | none => exact fillPending_congr agree before _ _
  | some trade => exact advance_congr agree state trade before

theorem revalidate_congr (nowMs : ℤ) (signals : List Signal) (state : State Memory) :
    first.revalidate nowMs signals state = second.revalidate nowMs signals state := by
  induction signals generalizing state with
  | nil => rfl
  | cons signal signals inductionHypothesis =>
    unfold revalidate
    rw [agree.engine]
    simp only [inductionHypothesis]

theorem decision_congr {nowMs : ℤ} (before : nowMs ≤ timeMs + 1)
    (state : State Memory) : first.decision nowMs state = second.decision nowMs state := by
  have offered : first.admitSignal = second.admitSignal := by
    unfold admitSignal
    rw [agree.config]
  have asked : first.scan nowMs = second.scan nowMs := by
    unfold scan
    rw [offered, agree.engine, agree.config, derivativesAt_congr before agree.derivatives]
  unfold decision
  rw [asked, revalidate_congr agree]

/-- What a turn of the loop does at a bar whose longer bars are the same. -/
theorem step_congr {completed others : Interval → ℤ → Option Bar}
    (before : bar.closeTimeMs ≤ timeMs)
    (same : ∀ interval, completed interval bar.closeTimeMs = others interval bar.closeTimeMs)
    (state : State Memory) : first.step completed state bar = second.step others state bar := by
  have settled := settle_congr agree state before
  have deliver : ∀ state, first.deliver completed state bar = second.deliver others state bar := by
    intro state
    unfold deliver
    rw [agree.config]
    simp only [same]
  have decided : first.decision (bar.closeTimeMs + 1) = second.decision (bar.closeTimeMs + 1) :=
    funext fun state => decision_congr agree (by omega) state
  unfold step
  rw [settled, decided, same]
  simp only [deliver]

end

/-! ### What is logged later -/

def Known (timeMs : ℤ) : Event → Prop
  | .arrival bar => bar.closeTimeMs ≤ timeMs
  | .invalidation arguments => arguments.nowMs ≤ timeMs + 1
  | .scan arguments => arguments.nowMs ≤ timeMs + 1
  | .outcome outcome => ∃ exitedAtMs ∈ outcome.exitedAtMs,
      exitedAtMs < timeMs ∨ exitedAtMs = timeMs ∧ outcome.outcome ≠ .timeout
  | _ => False

instance (timeMs : ℤ) : DecidablePred (Known timeMs)
  | .arrival _ => inferInstanceAs (Decidable (_ ≤ _))
  | .invalidation _ => inferInstanceAs (Decidable (_ ≤ _))
  | .scan _ => inferInstanceAs (Decidable (_ ≤ _))
  | .outcome _ => inferInstanceAs (Decidable (∃ _ ∈ _, _))
  | .admission _ => inferInstanceAs (Decidable False)
  | .replacement _ => inferInstanceAs (Decidable False)

def Open (timeMs : ℤ) (state : State Memory) : Prop :=
  ∀ trade, state.openTrade = some trade → timeMs ≤ fundedUntil trade

def Later (timeMs : ℤ) (_ : List Event) (event : Event) : Prop := ¬ Known timeMs event

variable {backtest : EventDrivenBacktestEngine Memory} {log : List Event} {state : State Memory}

theorem lastBar_of_updateOpen {trade updated : OpenTrade}
    (done : backtest.updateOpen trade bar = .ok (updated, none)) : updated.lastBar = some bar := by
  unfold updateOpen at done
  by_cases expired : trade.entry.holdingDeadlineMs < bar.closeTimeMs
  · rw [if_pos expired] at done
    obtain ⟨completed, -, done⟩ := bind_eq_ok.mp done
    exact nomatch (Prod.mk.inj (Except.ok.inj done)).2
  · rw [if_neg expired] at done
    obtain ⟨funding, -, done⟩ := bind_eq_ok.mp done
    by_cases hit : trade.signal.stopHit bar ∨ trade.signal.targetHit bar
    · rw [if_pos hit] at done
      obtain ⟨completed, -, done⟩ := bind_eq_ok.mp done
      exact nomatch (Prod.mk.inj (Except.ok.inj done)).2
    · rw [if_neg hit] at done
      rw [← (Prod.mk.inj (Except.ok.inj done)).1]

theorem advance_later {trade : OpenTrade} (funded : timeMs ≤ fundedUntil trade)
    (later : timeMs < bar.closeTimeMs) :
    Traced.Follows (Later timeMs) log (backtest.advance state trade bar)
      fun _ state => Open timeMs state := by
  refine .lift_bind ?_
  rintro ⟨updated, outcome⟩ done
  cases outcome with
  | none =>
    refine .pure ?_
    rintro _ ⟨⟩
    rw [fundedUntil, lastBar_of_updateOpen done]
    exact later.le
  | some outcome =>
    obtain ⟨exitedAtMs, leaves⟩ := updateOpen_leaves done
    refine record_spec ?_ fun _ open_ => by cases open_
    rintro ⟨exited, same, known⟩
    obtain rfl := Option.some.inj (leaves.exited.symm.trans same)
    obtain exit | ⟨kind, exit⟩ := leaves.exit
    · omega
    · obtain before | ⟨-, other⟩ := known
      · omega
      · exact other kind

theorem later_unresolved (log : List Event) (signalId : String) (kind : OutcomeKind)
    {exitedAtMs : Option ℤ} (late : ∀ exited ∈ exitedAtMs, timeMs < exited) :
    Later timeMs log (.outcome (unresolved signalId kind exitedAtMs)) := by
  rintro ⟨exited, same, known⟩
  have after := late exited same
  omega

theorem fillPending_later (later : timeMs < bar.openTimeMs) (signals : List Signal) :
    ∀ (log : List Event) (state : State Memory), state.openTrade = none →
      Traced.Follows (Later timeMs) log (backtest.fillPending bar signals state)
        fun _ state => Open timeMs state := by
  induction signals with
  | nil =>
    intro log state flat
    exact .pure fun _ open_ => by cases flat.symm.trans open_
  | cons signal signals inductionHypothesis =>
    intro log state flat
    unfold fillPending
    refine .ite (fun _ => ?_) fun _ => .ite
      (fun _ => inductionHypothesis log state flat) fun _ => .ite (fun _ => ?_)
        fun _ => inductionHypothesis log state flat
    · exact record_bind (later_unresolved log _ _ (by simp)) (inductionHypothesis _ _ flat)
    · exact advance_later later.le (later.trans bar.closeAfterOpen)

theorem revalidate_later {nowMs : ℤ} (later : timeMs + 1 < nowMs) (signals : List Signal) :
    ∀ (log : List Event) (state : State Memory), Open timeMs state →
      Traced.Follows (Later timeMs) log (backtest.revalidate nowMs signals state)
        fun _ state => Open timeMs state := by
  induction signals with
  | nil => exact fun _ _ open_ => .pure open_
  | cons signal signals inductionHypothesis =>
    intro log state open_
    refine .note_bind (not_le.mpr later) (.lift_bind ?_)
    rintro ⟨memory, reason⟩ -
    cases reason with
    | none => exact inductionHypothesis _ _ open_
    | some reason =>
      refine record_bind (later_unresolved _ _ _ ?_) (inductionHypothesis _ _ open_)
      rintro _ ⟨⟩
      omega

theorem decision_later {nowMs : ℤ} (later : timeMs + 1 < nowMs) (open_ : Open timeMs state) :
    Traced.Follows (Later timeMs) log (backtest.decision nowMs state)
      fun _ state => Open timeMs state := by
  refine .bind (revalidate_later later state.pending log state open_) ?_
  intro log state open_
  cases flat : state.openTrade with
  | some trade => exact .pure open_
  | none =>
    refine .note_bind (not_le.mpr later) (.lift_bind ?_)
    rintro ⟨memory, found⟩ -
    cases found with
    | none => exact .pure open_
    | some signal =>
      refine .ite (fun _ => .pure open_) fun _ => ?_
      cases { state with memory := memory }.pending.find? fun other : Signal =>
          other.signalId = signal.signalId with
      | none => exact .note_bind id (.pure open_)
      | some other =>
        exact .note_bind id (.note_bind id (.pure open_))

theorem settle_later (later : timeMs < bar.openTimeMs) (open_ : Open timeMs state) :
    Traced.Follows (Later timeMs) log (backtest.settle state bar)
      fun _ state => Open timeMs state := by
  unfold settle
  cases inTrade : state.openTrade with
  | some trade => exact advance_later (open_ trade inTrade) (later.trans bar.closeAfterOpen)
  | none => exact fillPending_later later _ _ _ inTrade

theorem step_later (completed : Interval → ℤ → Option Bar) (later : timeMs < bar.openTimeMs)
    (open_ : Open timeMs state) :
    Traced.Follows (Later timeMs) log (backtest.step completed state bar)
      fun _ state => Open timeMs state := by
  have closes : timeMs < bar.closeTimeMs := later.trans bar.closeAfterOpen
  refine .note_bind (not_le.mpr closes)
    (.bind (settle_later later open_) fun log settled open_ => ?_)
  cases completed .m15 bar.closeTimeMs with
  | none => exact .pure open_
  | some _ => exact decision_later (by omega) open_

theorem leftOver_later (outcomes : List TradeOutcome) :
    ∀ (log : List Event) (state : State Memory), (∀ outcome ∈ outcomes, outcome.exitedAtMs = none) →
      Traced.Follows (Later timeMs) log (outcomes.foldlM record state) fun _ _ => True := by
  induction outcomes with
  | nil => exact fun _ _ _ => .pure trivial
  | cons outcome outcomes inductionHypothesis =>
    intro log state never
    rw [List.foldlM_cons]
    refine record_bind ?_ (inductionHypothesis _ _ fun other member =>
      never other (List.mem_cons_of_mem outcome member))
    rintro ⟨exited, same, -⟩
    rw [never outcome List.mem_cons_self] at same
    exact nomatch same

theorem exitedAtMs_leftOver : ∀ outcome ∈ leftOver state, outcome.exitedAtMs = none := by
  intro outcome member
  obtain trade | pending := List.mem_append.mp member
  · obtain ⟨trade, -, rfl⟩ := Option.map_eq_some_iff.mp (Option.mem_toList.mp trade)
    rfl
  · obtain ⟨signal, -, rfl⟩ := List.mem_map.mp pending
    rfl

/-! ### Two runs -/

def remaining (backtest : EventDrivenBacktestEngine Memory) (completed : Interval → ℤ → Option Bar)
    (bars : List Bar) (state : State Memory) : Traced Event RunFault (List TradeOutcome) := do
  let state ← bars.foldlM (backtest.step completed) state
  let final ← (leftOver state).foldlM record state
  pure final.outcomes

theorem remaining_later (completed : Interval → ℤ → Option Bar) {bars : List Bar}
    (later : ∀ bar ∈ bars, timeMs < bar.openTimeMs) (open_ : Open timeMs state) :
    Traced.Follows (Later timeMs) log (backtest.remaining completed bars state) fun _ _ =>
      True := by
  have each : ∀ past bar future, bars = past ++ bar :: future → ∀ log state, Open timeMs state →
      Traced.Follows (Later timeMs) log (backtest.step completed state bar)
        fun _ state => Open timeMs state := by
    intro past bar future split log state open_
    refine step_later completed (later bar ?_) open_
    rw [split]
    exact List.mem_append_right _ List.mem_cons_self
  refine .bind (.foldlM each open_) fun log state _ => ?_
  exact .bind (leftOver_later _ log state exitedAtMs_leftOver) fun _ _ _ =>
    .pure trivial

theorem run_append (backtest : EventDrivenBacktestEngine Memory) (memory : Memory)
    {shared later : List Bar} (valid : validateCandles (shared ++ later) = []) :
    backtest.run memory (shared ++ later) =
      shared.foldlM (backtest.step fun interval =>
        byClose (resampleMinutes (shared ++ later) interval))
        { memory := memory } >>=
      backtest.remaining (fun interval => byClose (resampleMinutes (shared ++ later) interval))
        later := by
  unfold run
  rw [if_pos valid]
  dsimp only
  rw [List.foldlM_append, bind_assoc]
  rfl

theorem known_of_later {Value : Type} {program : Traced Event RunFault Value}
    {post : List Event → Value → Prop} (follows : Traced.Follows (Later timeMs) log program post) :
    (program.log.filter fun event => Known timeMs event) = [] := by
  refine List.filter_eq_nil_iff.mpr fun event member known => ?_
  obtain ⟨before, after, split⟩ := List.append_of_mem member
  exact follows.1 before event after split (of_decide_eq_true known)

theorem foldlM_congr {step other : State Memory → Bar → Traced Event RunFault (State Memory)}
    {bars : List Bar} (same : ∀ bar ∈ bars, ∀ state, step state bar = other state bar)
    (state : State Memory) : bars.foldlM step state = bars.foldlM other state := by
  induction bars generalizing state with
  | nil => rfl
  | cons bar bars inductionHypothesis =>
    rw [List.foldlM_cons, List.foldlM_cons, same bar List.mem_cons_self]
    exact congrArg _ (funext fun state => inductionHypothesis
      (fun other member => same other (List.mem_cons_of_mem bar member)) state)

theorem byClose_shared {shared later : List Bar} (apart : Consecutive (shared ++ later))
    (member : bar ∈ shared) (interval : Interval) :
    byClose (resampleMinutes (shared ++ later) interval) bar.closeTimeMs =
      byClose (resampleMinutes shared interval) bar.closeTimeMs :=
  byClose_append_later ((List.pairwise_append.mp apart).2.2 bar member)

theorem closeTimeMs_le {shared : List Bar} {last : Bar} (apart : Consecutive shared)
    (ends : shared.getLast? = some last) : ∀ bar ∈ shared, bar.closeTimeMs ≤ last.closeTimeMs := by
  intro bar member
  obtain ⟨front, rfl⟩ := List.getLast?_eq_some_iff.mp ends
  obtain before | own := List.mem_append.mp member
  · have order := (List.pairwise_append.mp apart).2.2 bar before last (List.mem_singleton_self last)
    exact (order.trans last.closeAfterOpen).le
  · rw [List.mem_singleton.mp own]

/-- Two runs over valid bars that share all bars up to a time, with the same snapshots up to a
millisecond later and the same funding up to it, have the same known entries of their logs. -/
theorem run_causal (agree : Agree first second timeMs) (memory : Memory) {shared : List Bar}
    {last : Bar} (ends : shared.getLast? = some last) (closes : last.closeTimeMs = timeMs)
    {later others : List Bar} (apart : Consecutive (shared ++ later))
    (apart' : Consecutive (shared ++ others)) (valid : validateCandles (shared ++ later) = [])
    (valid' : validateCandles (shared ++ others) = []) :
    ((first.run memory (shared ++ later)).log.filter fun event => Known timeMs event) =
      (second.run memory (shared ++ others)).log.filter fun event => Known timeMs event := by
  subst closes
  have whole := (List.pairwise_append.mp apart).1
  have before := closeTimeMs_le whole ends
  have same := foldlM_congr (fun bar member state => step_congr agree (before bar member)
    (fun interval => (byClose_shared apart member interval).trans
      (byClose_shared apart' member interval).symm) state) ({ memory := memory } : State Memory)
  rw [run_append first memory valid, run_append second memory valid', ← same]
  -- The trade that is open after the shared bars has the funding up to the last of them.
  have after : Traced.Follows (Along first) [] (shared.foldlM
      (first.step fun interval => byClose (resampleMinutes (shared ++ later) interval))
      { memory := memory }) (After first shared) := by
    refine .foldlM (fun past bar future split log state after => ?_)
      (after_start memory)
    refine step_spec _ after fun earlier member => ?_
    rw [split, List.pairwise_append] at whole
    exact whole.2.2 earlier member bar List.mem_cons_self
  generalize shared.foldlM
    (first.step fun interval => byClose (resampleMinutes (shared ++ later) interval))
    { memory := memory } = program at after ⊢
  cases done : program.outcome with
  | error fault => rw [Traced.bind_of_error done, Traced.bind_of_error done]
  | ok state =>
    have open_ : Open last.closeTimeMs state := by
      intro trade inTrade
      obtain ⟨bar, ends', trading⟩ := (after.2 state done).trading trade inTrade
      obtain rfl := Option.some.inj (ends.symm.trans ends')
      rw [fundedUntil, trading.held.last]
      exact le_refl _
    have member := List.mem_of_getLast? ends
    have first' := known_of_later (@remaining_later Memory last.closeTimeMs first [] state
      (fun interval => byClose (resampleMinutes (shared ++ later) interval)) later
      ((List.pairwise_append.mp apart).2.2 last member) open_)
    have second' := known_of_later (@remaining_later Memory last.closeTimeMs second [] state
      (fun interval => byClose (resampleMinutes (shared ++ others) interval)) others
      ((List.pairwise_append.mp apart').2.2 last member) open_)
    rw [Traced.bind_of_ok done, Traced.bind_of_ok done, List.filter_append, List.filter_append,
      first', second']

/-! ### What is not known at the close of a bar -/

def questions (timeMs : ℤ) (log : List Event) : List Event := log.filter fun
  | .invalidation arguments => arguments.nowMs ≤ timeMs + 1
  | .scan arguments => arguments.nowMs ≤ timeMs + 1
  | _ => false

def exits (timeMs : ℤ) (log : List Event) : List TradeOutcome :=
  (recorded log).filter fun outcome => ∃ exitedAtMs ∈ outcome.exitedAtMs, exitedAtMs ≤ timeMs

/-- A snapshot of the millisecond after the first decision bar has closed. -/
def snapshotOf (openInterest : ℚ) : Snapshot where
  observedAtMs := 900000
  openInterest := some openInterest
  openInterestTimeMs := some 900000

def observed (openInterest : ℚ) : EventDrivenBacktestEngine Unit :=
  { timedOut with
    derivatives := some ⟨[snapshotOf openInterest], List.pairwise_singleton _ _⟩ }

/-- A first bar that closes at the end of its bucket, and the bars of the bucket after it. -/
def earlyClose (reach : ℚ) : List Bar :=
  { barTo 0 100 with
    closeTimeMs := 899999
    closeAfterOpen := by decide } :: (List.range 14).map fun index => barTo (index + 1) reach

/-- A snapshot of the millisecond after the close is seen at it; a timeout at the close is recorded
only when another bar arrives; and a bar that closes late shows the bars that open before. -/
theorem knows_more :
    ((visibleAt (observed 1).derivatives 899999 = visibleAt (observed 2).derivatives 899999) ∧
      questions 899999 ((observed 1).run () (timedOutBars.take 15)).log ≠
        questions 899999 ((observed 2).run () (timedOutBars.take 15)).log) ∧
    exits 1859999 (timedOut.run () (timedOutBars.take 31)).log ≠
      exits 1859999 (timedOut.run () (timedOutBars.take 32)).log ∧
    (validateCandles (earlyClose 100) = [] ∧ validateCandles (earlyClose 200) = [] ∧
      (earlyClose 100).take 1 = (earlyClose 200).take 1 ∧
      questions 899999 (timedOut.run () (earlyClose 100)).log ≠
        questions 899999 (timedOut.run () (earlyClose 200)).log) := by
  decide +kernel

theorem timedOut_causal :
    ((timedOut.run () (timedOutBars.take 20 ++ [])).log.filter fun event => Known 1199999 event) =
      (timedOut.run () (timedOutBars.take 20 ++ timedOutBars.drop 20)).log.filter
        fun event => Known 1199999 event :=
  @run_causal Unit timedOut timedOut 1199999 ⟨rfl, rfl, rfl, rfl⟩ () (timedOutBars.take 20)
    (barTo 19 100) (by decide +kernel) rfl [] (timedOutBars.drop 20) (by decide +kernel)
    (by decide +kernel) (by decide +kernel) (by decide +kernel)

end QuantAgent.Backtest.EventDrivenBacktestEngine
