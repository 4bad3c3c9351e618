/-
This file proves what the ledger up to a bar's close owes to later bars: nothing, provided the
later bars open strictly after that close and no check of the earlier bars finds a waiting fill
that is due after it.

Entries are filled on future bars when they are submitted, so a waiting fill tells what is to
come. The runs at the end show a risk check that hears of it, and a bar that opens at the very
close before it.
-/

import QuantAgent.Economic.LedgerOrder
import QuantAgent.Economic.Mirror

namespace QuantAgent.Economic

open Traced

/-- The events of a ledger up to a moment. -/
def eventsBy (limit : Int) (history : List TradeEvent) : List TradeEvent :=
  history.filter fun event => event.timestampMs ≤ limit

section LookAhead

variable {engine : EconomicSimulationEngine} {limit : Int} {symbol : String}
  {shared far far' : List Candle} {signals : List InformationSignal}
  {funding : List FundingSettlement} {state state' result : EngineState}

/-! ### Over the shared bars -/

theorem runFirst_mirror {previous : Option Candle} (mirror : Mirror limit state state')
    (ordered : OrderedBars shared) (within : ∀ bar ∈ shared, bar.closeTimeMs ≤ limit)
    (late : OpenAfter limit far) (late' : OpenAfter limit far') :
    Relates (SeesNothingAfter limit)
      (runFirst engine shared.length previous (shared ++ far) state)
      (runFirst engine shared.length previous (shared ++ far') state') (SamePast limit) := by
  induction shared generalizing previous state state' with
  | nil =>
    cases far <;> cases far' <;> exact Relates.pure mirror.samePast
  | cons bar rest inductionHypothesis =>
    refine Relates.bind (processBar_mirror late late' mirror (within bar List.mem_cons_self))
      fun later later' states => ?_
    cases rest with
    | nil => cases far <;> cases far' <;> exact Relates.pure states.past
    | cons next others =>
      have opens := (List.pairwise_cons.mp ordered).1 next List.mem_cons_self
      have closes := within next (List.mem_cons_of_mem _ List.mem_cons_self)
      have lasts := next.closeAfterOpen
      exact inductionHypothesis (states.mirror (by omega)) ordered.tail
        fun other member => within other (List.mem_cons_of_mem _ member)

theorem runBars_append {previous : Option Candle}
    (done : (runBars engine previous (shared ++ far) state).outcome = .ok result) :
    ∃ last middle,
      (runFirst engine shared.length previous (shared ++ far) state).outcome = .ok middle ∧
        (runBars engine last far middle).outcome = .ok result := by
  induction shared generalizing previous state with
  | nil =>
    refine ⟨previous, state, ?_, done⟩
    cases far <;> rfl
  | cons bar rest inductionHypothesis =>
    obtain ⟨later, round, others⟩ := Traced.bind_eq_ok.mp done
    obtain ⟨last, middle, first, second⟩ := inductionHypothesis others
    exact ⟨last, middle, Traced.bind_eq_ok.mpr ⟨later, round, first⟩, second⟩

/-! ### Over the later bars -/

/-- The ledger up to the limit is settled, and everything to come lies beyond it. -/
structure Beyond (limit : Int) (history : List TradeEvent) (core : Core) : Prop where
  ledger : eventsBy limit core.portfolio.tradeHistory = history
  waiting : ∀ fill ∈ core.pendingFills, limit < fill.fillTimestampMs
  remaining : ∀ event ∈ core.funding, limit < event.timestampMs

variable {history : List TradeEvent}

theorem eventsBy_append {event : TradeEvent} (late : limit < event.timestampMs) :
    eventsBy limit (history ++ [event]) = eventsBy limit history := by
  unfold eventsBy
  rw [List.filter_append, List.filter_cons_of_neg (by simpa using late), List.filter_nil,
    List.append_nil]

theorem Beyond.cons {core : Core} {fill : PendingFill} (beyond : Beyond limit history core)
    (late : limit < fill.fillTimestampMs) :
    Beyond limit history (core.scheduled fill) := by
  refine ⟨beyond.ledger, ?_, beyond.remaining⟩
  intro other member
  rcases List.mem_cons.mp member with rfl | before
  · exact late
  · exact beyond.waiting other before

theorem late_of_dueIn {bars : List Candle} {fill : PendingFill}
    (late : OpenAfter limit bars) (due : fill.DueIn bars) :
    limit < fill.fillTimestampMs := by
  obtain ⟨bar, member, moment⟩ := due
  have opens := late bar member
  have closes := bar.closeAfterOpen
  omega

theorem stable_beyond {bar : Candle} {rest : List Candle}
    (late : ∀ other ∈ bar :: rest, limit < other.openTimeMs) :
    Stable (fun _ => True) (fun _ => True) engine bar rest (Beyond limit history) := by
  refine ⟨?_, ?_, ?_, ?_, ?_⟩
  · exact fun core queue reordered beyond => ⟨beyond.ledger,
      fun fill member => beyond.waiting fill (reordered.mem_iff.mp member), beyond.remaining⟩
  · refine fun core fill beyond _ => ⟨fun _ _ => trivial, fun portfolio done => ?_⟩
    obtain ⟨event, appended, time, -⟩ := applyTrade_history done
    refine ⟨?_, fun other member => beyond.waiting other (List.mem_cons_of_mem _ member),
      beyond.remaining⟩
    change eventsBy limit portfolio.tradeHistory = history
    rw [appended, eventsBy_append, ← beyond.ledger]
    rw [time]
    exact beyond.waiting fill List.mem_cons_self
  · intro core event others beyond
    have rest : ∀ other ∈ others, limit < other.timestampMs :=
      fun other member => beyond.remaining other (List.mem_cons_of_mem _ member)
    refine ⟨fun _ => ⟨beyond.ledger, beyond.waiting, rest⟩, fun _ _ =>
      ⟨fun _ _ => trivial, fun portfolio done => ⟨?_, beyond.waiting, rest⟩⟩⟩
    obtain ⟨entry, appended, time, -⟩ := applyFunding_history done
    change eventsBy limit portfolio.tradeHistory = history
    rw [appended, eventsBy_append, ← beyond.ledger]
    rw [time]
    exact beyond.remaining event List.mem_cons_self
  · exact fun core fill beyond entry => beyond.cons (late_of_dueIn late entry.due)
  · exact fun core posQty observed fill beyond exitable exit =>
      beyond.cons (late_of_dueIn late exit.due)

theorem runBars_beyond {last : Option Candle} (late : OpenAfter limit far)
    (beyond : Beyond limit history state.core)
    (done : (runBars engine last far state).outcome = .ok result) :
    eventsBy limit result.portfolio.tradeHistory = history := by
  let inv : List Candle → Core → Prop := fun bars core =>
    OpenAfter limit bars ∧ Beyond limit history core
  have round : ∀ previous bar rest state, inv (bar :: rest) state.core →
      Keeps (fun _ => True) (fun _ => True) (processBar engine previous bar rest state)
        (inv rest) := by
    rintro previous bar rest state ⟨late, beyond⟩
    refine ((stable_beyond late).processBar_keeps (fun _ _ => trivial) beyond).mono
      fun later kept => ⟨fun other member => late other (List.mem_cons_of_mem _ member), kept⟩
  rw [runBars_eq_runFirst] at done
  exact ((runFirst_keeps round far.length ⟨late, beyond⟩).result (fun _ _ => trivial) done).2.ledger

/-! ### Two futures -/

theorem simulate_eventsBy {lastShared : Candle} (last : lastShared ∈ shared.getLast?)
    (ordered : OrderedBars (shared ++ far)) (oneSymbol : ∀ bar ∈ shared ++ far, bar.symbol = symbol)
    (late : ∀ bar ∈ far, lastShared.closeTimeMs < bar.openTimeMs)
    (done : (simulate engine (shared ++ far) signals funding).outcome = .ok state) :
    ∃ middle, (runFirst engine shared.length none (shared ++ far)
        (initialState engine signals funding)).outcome = .ok middle ∧
      eventsBy lastShared.closeTimeMs state.portfolio.tradeHistory =
        eventsBy lastShared.closeTimeMs middle.portfolio.tradeHistory := by
  obtain ⟨previous, middle, first, second⟩ := runBars_append done
  obtain ⟨start, early, earlyFunding⟩ := exists_start (shared ++ far) funding
  have rounds : Keeps (fun _ => True) (fun _ => True) (runFirst engine shared.length none
      (shared ++ far) (initialState engine signals funding)) _ :=
    runFirst_between (fun _ _ => trivial) (.inl fun _ => trivial) ordered oneSymbol early early
      earlyFunding shared.length
  have between := rounds.result (fun _ _ => trivial) first
  rw [List.take_left, clockAfter, Option.mem_def.mp last] at between
  exact ⟨middle, first, runBars_beyond late ⟨rfl, between.clear, between.ahead⟩ second⟩

theorem late_of_head {lastShared : Candle} (ordered : OrderedBars (shared ++ far))
    (gap : ∀ bar ∈ far.head?, lastShared.closeTimeMs < bar.openTimeMs) :
    ∀ bar ∈ far, lastShared.closeTimeMs < bar.openTimeMs := by
  cases far with
  | nil => exact fun _ member => nomatch member
  | cons first rest =>
    have opens := gap first rfl
    have others := (List.pairwise_append.mp ordered).2.1
    intro bar member
    exact lt_of_lt_of_le opens (head_open_le others rfl bar member)

/-- The ledger up to the close of the last shared bar is the same in two completed runs that
share their first bars, when the other bars open strictly after it and no check over the shared
bars finds a fill that is due after it. -/
theorem simulate_no_lookahead {lastShared : Candle} (last : lastShared ∈ shared.getLast?)
    (ordered : OrderedBars (shared ++ far)) (ordered' : OrderedBars (shared ++ far'))
    (oneSymbol : ∀ bar ∈ shared ++ far, bar.symbol = symbol)
    (oneSymbol' : ∀ bar ∈ shared ++ far', bar.symbol = symbol)
    (gap : ∀ bar ∈ far.head?, lastShared.closeTimeMs < bar.openTimeMs)
    (gap' : ∀ bar ∈ far'.head?, lastShared.closeTimeMs < bar.openTimeMs)
    (clean : ∀ note ∈ (runFirst engine shared.length none (shared ++ far)
      (initialState engine signals funding)).log, SeesNothingAfter lastShared.closeTimeMs note)
    (clean' : ∀ note ∈ (runFirst engine shared.length none (shared ++ far')
      (initialState engine signals funding)).log, SeesNothingAfter lastShared.closeTimeMs note)
    (done : (simulate engine (shared ++ far) signals funding).outcome = .ok state)
    (done' : (simulate engine (shared ++ far') signals funding).outcome = .ok state') :
    eventsBy lastShared.closeTimeMs state.portfolio.tradeHistory =
      eventsBy lastShared.closeTimeMs state'.portfolio.tradeHistory := by
  have late := late_of_head ordered gap
  have late' := late_of_head ordered' gap'
  obtain ⟨middle, first, same⟩ := simulate_eventsBy last ordered oneSymbol late done
  obtain ⟨middle', first', same'⟩ := simulate_eventsBy last ordered' oneSymbol' late' done'
  have sharedOrdered : OrderedBars shared := (List.pairwise_append.mp ordered).1
  have within : ∀ bar ∈ shared, bar.closeTimeMs ≤ lastShared.closeTimeMs := by
    obtain ⟨earlier, rfl⟩ := List.getLast?_eq_some_iff.mp last
    intro bar member
    rcases List.mem_append.mp member with before | same
    · have opens := (List.pairwise_append.mp sharedOrdered).2.2 bar before lastShared
        (List.mem_singleton_self lastShared)
      exact le_trans opens lastShared.closeAfterOpen.le
    · rw [List.mem_singleton.mp same]
  have past := runFirst_mirror (Mirror.refl (initialState engine signals funding)) sharedOrdered
    within late late' clean clean' middle middle' first first'
  rw [same, same', past.portfolio]

end LookAhead

/-! ### Channels -/

instance {limit : Int} : DecidablePred (SeesNothingAfter limit) := fun note =>
  match note with
  | .trade _ _ _ _ => .isTrue trivial
  | .funding _ _ _ => .isTrue trivial
  | .exitCheck _ => inferInstanceAs (Decidable (∀ _ ∈ _, _ → _))
  | .trailingCheck _ _ => inferInstanceAs (Decidable (_ → ∀ _ ∈ _, _ → _))
  | .admission _ => inferInstanceAs (Decidable (∀ _ ∈ _, _ → _))
  | .entry _ _ _ => .isTrue trivial

def sharedBars : List Candle := [sampleBar 100 100 100, sampleBar 110 100 100]

/-- A long entry at the second close, before the price falls in one future and rises in the
other. -/
theorem simulate_no_lookahead_entered :
    ∃ state state',
      (simulate twoPositionEngine (sharedBars ++ [sampleBar 120 100 90]) [sampleSignal 100 .up]
        []).outcome = .ok state ∧
      (simulate twoPositionEngine (sharedBars ++ [sampleBar 120 110 110]) [sampleSignal 100 .up]
        []).outcome = .ok state' ∧
      eventsBy 119 state.portfolio.tradeHistory = eventsBy 119 state'.portfolio.tradeHistory := by
  have done : (simulate twoPositionEngine (sharedBars ++ [sampleBar 120 100 90])
      [sampleSignal 100 .up] []).outcome.isOk = true := by decide +kernel
  have done' : (simulate twoPositionEngine (sharedBars ++ [sampleBar 120 110 110])
      [sampleSignal 100 .up] []).outcome.isOk = true := by decide +kernel
  obtain ⟨state, reached⟩ := exists_ok_of_isOk done
  obtain ⟨state', reached'⟩ := exists_ok_of_isOk done'
  have last : sampleBar 110 100 100 ∈ sharedBars.getLast? := by decide +kernel
  have oneSymbol : ∀ bar ∈ sharedBars ++ [sampleBar 120 100 90], bar.symbol = "BTCUSDT" := by
    decide +kernel
  have oneSymbol' : ∀ bar ∈ sharedBars ++ [sampleBar 120 110 110], bar.symbol = "BTCUSDT" := by
    decide +kernel
  exact ⟨state, state', reached, reached', simulate_no_lookahead last (by decide +kernel)
    (by decide +kernel) oneSymbol oneSymbol' (by decide +kernel) (by decide +kernel)
    (by decide +kernel) (by decide +kernel) reached reached'⟩

/-- Orders take no time. -/
def instantEngine : EconomicSimulationEngine where
  executionModel :=
    { feeModel := { slippageMode := .zero }, decisionLatencyMs := 0, exchangeLatencyMs := 0 }

/-- Entries rest one percent below the open. -/
def limitEngine : EconomicSimulationEngine where
  policy := { entryRule := { orderType := .limit, limitOffsetBps := 100 } }
  executionModel := instantEngine.executionModel

/-- The third bar reaches the limit of an entry of the second, not that of one of the first. -/
def dippedBars : List Candle := [sampleBar 100 90 90, sampleBar 110 100 100, sampleBar 120 98 98]

def ledgerBy (limit : Int) (engine : EconomicSimulationEngine) (candles : List Candle)
    (signals : List InformationSignal) : Option (List (Int × ℚ)) :=
  (simulate engine candles signals []).outcome.toOption.map fun state =>
    (eventsBy limit state.portfolio.tradeHistory).map fun event =>
      (event.timestampMs, event.price)

/-- A first entry that is filled on the fourth bar keeps a second one from being filled on the
third, and a bar that opens at the close before it trades at that close. -/
theorem later_bars_change_ledger :
    (ledgerBy 129 limitEngine (dippedBars ++ [sampleBar 130 80 80])
        [sampleSignal 100 .up, sampleSignal 110 .up] = some [] ∧
      ledgerBy 129 limitEngine (dippedBars ++ [sampleBar 130 100 100])
        [sampleSignal 100 .up, sampleSignal 110 .up] = some [(120, 98)]) ∧
    ledgerBy 109 instantEngine ([sampleBar 100 100 100] ++ [sampleBar 109 100 100])
        [sampleSignal 109 .up] = some [(109, 100)] ∧
      ledgerBy 109 instantEngine ([sampleBar 100 100 100] ++ [sampleBar 109 101 101])
        [sampleSignal 109 .up] = some [(109, 101)] := by
  decide +kernel

end QuantAgent.Economic
