/-
This file says what the log of a backtest tells about its signals: which were admitted, replaced and
settled, and which bars have arrived since a signal could last enter; and it states the resolver as
the trade and the waiting signals of the loop see it, one bar at a time.
-/

import QuantAgent.Backtest.Engine

namespace QuantAgent.Backtest

/-! ### Reading a log -/

def arrivals (log : List Event) : List Bar := log.filterMap fun
  | .arrival bar => some bar
  | _ => none

def admitted (log : List Event) : List String := log.filterMap fun
  | .admission signal => some signal.signalId
  | _ => none

def replaced (log : List Event) : List String := log.filterMap fun
  | .replacement signal => some signal.signalId
  | _ => none

def recorded (log : List Event) : List TradeOutcome := log.filterMap fun
  | .outcome outcome => some outcome
  | _ => none

def latestAfter (signalId : String) (latest : Option Signal) : Event → Option Signal
  | .admission signal => if signal.signalId = signalId then some signal else latest
  | _ => latest

def latest (signalId : String) (log : List Event) : Option Signal :=
  log.foldl (latestAfter signalId) none

def eligibleAfter (signalId : String) (bars : List Bar) : Event → List Bar
  | .arrival bar => bars ++ [bar]
  | .admission signal => if signal.signalId = signalId then [] else bars
  | .outcome outcome => if outcome.IsCompleted then [] else bars
  | _ => bars

def eligible (signalId : String) (log : List Event) : List Bar :=
  log.foldl (eligibleAfter signalId) []

section

variable (signalId : String) (log later : List Event) (event : Event)

theorem arrivals_append : arrivals (log ++ later) = arrivals log ++ arrivals later :=
  List.filterMap_append

theorem admitted_append : admitted (log ++ later) = admitted log ++ admitted later :=
  List.filterMap_append

theorem replaced_append : replaced (log ++ later) = replaced log ++ replaced later :=
  List.filterMap_append

theorem recorded_append : recorded (log ++ later) = recorded log ++ recorded later :=
  List.filterMap_append

theorem latest_concat :
    latest signalId (log ++ [event]) = latestAfter signalId (latest signalId log) event :=
  List.foldl_concat ..

theorem eligible_concat :
    eligible signalId (log ++ [event]) = eligibleAfter signalId (eligible signalId log) event :=
  List.foldl_concat ..

end

/-! ### Values of completed trades -/

section

variable {signal : Signal} {kind : OutcomeKind} {price exitPrice funding : ℚ}
  {enteredAtMs exitedAtMs : ℤ} {outcome : TradeOutcome}

theorem price_ne_zero_of_completed (completed : completedOutcome signal kind price exitPrice
    enteredAtMs exitedAtMs funding = .ok outcome) : price ≠ 0 := by
  rintro rfl
  unfold completedOutcome at completed
  rw [if_pos rfl] at completed
  exact nomatch completed

theorem completedOutcome_spec (completed : completedOutcome signal kind price exitPrice
    enteredAtMs exitedAtMs funding = .ok outcome) :
    outcome.signalId = signal.signalId ∧ outcome.outcome = kind ∧
      outcome.enteredAtMs = some enteredAtMs ∧ outcome.exitedAtMs = some exitedAtMs := by
  have nonzero := price_ne_zero_of_completed completed
  unfold completedOutcome at completed
  rw [if_neg nonzero] at completed
  rw [← Except.ok.inj completed]
  exact ⟨rfl, rfl, rfl, rfl⟩

end

theorem cashflow_perm {events others : List FundingEvent} (signal : Signal) (price : ℚ)
    (perm : events.Perm others) : cashflow signal price events = cashflow signal price others :=
  (perm.map _).sum_eq

theorem cashflow_append (signal : Signal) (price : ℚ) (events later : List FundingEvent) :
    cashflow signal price (events ++ later) =
      cashflow signal price events + cashflow signal price later := by
  unfold cashflow
  rw [List.map_append, List.sum_append]

theorem settlements_self (events : List FundingEvent) (timeMs : ℤ) :
    settlements events timeMs timeMs = [] := by
  refine List.filter_eq_nil_iff.mpr fun event _ => ?_
  simp

theorem settlements_split {events : List FundingEvent} {enteredAtMs lower upper : ℤ}
    (first : enteredAtMs ≤ lower) (second : lower ≤ upper) :
    (settlements events enteredAtMs lower ++ settlements events lower upper).Perm
      (settlements events enteredAtMs upper) := by
  have parts := List.filter_append_perm (fun event : FundingEvent => event.timestampMs ≤ lower)
    (settlements events enteredAtMs upper)
  have early : (settlements events enteredAtMs upper).filter
      (fun event => event.timestampMs ≤ lower) = settlements events enteredAtMs lower := by
    unfold settlements
    rw [List.filter_filter]
    refine List.filter_congr fun event _ => ?_
    rw [← Bool.decide_and, decide_eq_decide]
    omega
  have late : (settlements events enteredAtMs upper).filter
      (fun event => ! decide (event.timestampMs ≤ lower)) = settlements events lower upper := by
    unfold settlements
    rw [List.filter_filter]
    refine List.filter_congr fun event _ => ?_
    rw [← decide_not, ← Bool.decide_and, decide_eq_decide]
    omega
  rwa [early, late] at parts

end QuantAgent.Backtest
