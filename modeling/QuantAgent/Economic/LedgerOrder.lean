/-
This file proves that over ordered bars of one symbol the ledger never refuses what the loop
applies to it, provided openings do not meet an opposite position and funding comes with a
positive mark price, and that the ledger is in order and inside the simulated interval.

The run at the end shows two admitted entries of different directions.
-/

import QuantAgent.Economic.ActiveTrade
import QuantAgent.Economic.ClockRun

namespace QuantAgent.Economic

open Traced

instance : DecidablePred Admissible := fun note =>
  match note with
  | .trade _ _ _ _ => inferInstanceAs (Decidable (_ → _))
  | .funding _ _ event => inferInstanceAs (Decidable (0 < event.markPrice))
  | .exitCheck _ => .isTrue trivial
  | .trailingCheck _ _ => .isTrue trivial
  | .admission _ => .isTrue trivial
  | .entry _ _ _ => .isTrue trivial

instance {bars : List Candle} : Decidable (OrderedBars bars) :=
  inferInstanceAs (Decidable (bars.Pairwise _))

variable {engine : EconomicSimulationEngine} {symbol : String} {candles : List Candle}
  {signals : List InformationSignal} {funding : List FundingSettlement}
  {allowed : EngineNote → Prop} {faulty : EngineError → Prop}

/-- The whole loop ends with the clock at the last close. -/
theorem simulate_between (benign : Benign faulty) (judged : Judged symbol allowed faulty)
    {first start : Int} (ordered : OrderedBars candles)
    (oneSymbol : ∀ bar ∈ candles, bar.symbol = symbol)
    (begun : ∀ bar ∈ candles, first ≤ bar.openTimeMs)
    (early : ∀ bar ∈ candles, start ≤ bar.openTimeMs)
    (earlyFunding : ∀ event ∈ funding, start < event.timestampMs) :
    Keeps allowed faulty (simulate engine candles signals funding)
      (Between symbol first (DueQueue.sortByDue FundingSettlement.timestampMs funding) []
        (clockAfter start candles)) := by
  have rounds : Keeps allowed faulty
      (runFirst engine candles.length none candles (initialState engine signals funding)) _ :=
    runFirst_between benign judged ordered oneSymbol begun early earlyFunding candles.length
  rw [List.drop_length, List.take_length] at rounds
  rw [simulate, runBars_eq_runFirst]
  exact rounds

theorem head_open_le (ordered : OrderedBars candles) {firstBar : Candle}
    (head : firstBar ∈ candles.head?) : ∀ bar ∈ candles, firstBar.openTimeMs ≤ bar.openTimeMs := by
  cases candles with
  | nil => cases head
  | cons bar rest =>
    cases Option.some.inj head
    intro other member
    rcases List.mem_cons.mp member with rfl | later
    · exact le_refl _
    · exact le_trans firstBar.closeAfterOpen.le ((List.pairwise_cons.mp ordered).1 other later)

/-- No exception of the ledger escapes, and the ledger of a completed run is sorted and lies
between the first open and the last close. -/
theorem simulate_ledger_in_order (ordered : OrderedBars candles)
    (oneSymbol : ∀ bar ∈ candles, bar.symbol = symbol) (named : blank symbol = false)
    (clean : ∀ note ∈ (simulate engine candles signals funding).log, Admissible note) :
    (∀ message, (simulate engine candles signals funding).outcome ≠ .error (.portfolio message)) ∧
      ∀ state, (simulate engine candles signals funding).outcome = .ok state →
        (state.portfolio.tradeHistory.Pairwise fun a b => a.timestampMs ≤ b.timestampMs) ∧
        ∀ firstBar ∈ candles.head?, ∀ lastBar ∈ candles.getLast?,
          ∀ event ∈ state.portfolio.tradeHistory,
            firstBar.openTimeMs ≤ event.timestampMs ∧ event.timestampMs ≤ lastBar.closeTimeMs := by
  have benign : Benign fun error => ∀ message, error ≠ .portfolio message := fun _ other => other
  have judged : Judged symbol Admissible fun error => ∀ message, error ≠ .portfolio message :=
    .inr ⟨named, fun _ admissible => admissible⟩
  obtain ⟨start, early, earlyFunding⟩ := exists_start candles funding
  have kept {first : Int} (begun : ∀ bar ∈ candles, first ≤ bar.openTimeMs) :
      Keeps Admissible (fun error => ∀ message, error ≠ .portfolio message)
        (simulate engine candles signals funding)
        (Between symbol first (DueQueue.sortByDue FundingSettlement.timestampMs funding) []
          (clockAfter start candles)) :=
    simulate_between benign judged ordered oneSymbol begun early earlyFunding
  refine ⟨fun message failed => (kept early).fault clean failed message rfl,
    fun state done => ⟨((kept early).result clean done).timely.sorted, ?_⟩⟩
  intro firstBar head lastBar last event member
  have recorded := ((kept (head_open_le ordered head)).result clean done).timely.recorded event
    member
  rw [clockAfter, Option.mem_def.mp last] at recorded
  exact ⟨recorded.1, recorded.2.2⟩

/-- A long entry that is stopped out, with a funding settlement in between. -/
theorem simulate_ledger_in_order_stopped :
    (∀ message, (simulate twoPositionEngine stoppedBars [sampleSignal 100 .up]
        [⟨120, 1 / 1000, 100⟩]).outcome ≠ .error (.portfolio message)) ∧
      ∀ state, (simulate twoPositionEngine stoppedBars [sampleSignal 100 .up]
          [⟨120, 1 / 1000, 100⟩]).outcome = .ok state →
        (state.portfolio.tradeHistory.Pairwise fun a b => a.timestampMs ≤ b.timestampMs) ∧
        ∀ firstBar ∈ stoppedBars.head?, ∀ lastBar ∈ stoppedBars.getLast?,
          ∀ event ∈ state.portfolio.tradeHistory,
            firstBar.openTimeMs ≤ event.timestampMs ∧
              event.timestampMs ≤ lastBar.closeTimeMs := by
  have oneSymbol : ∀ bar ∈ stoppedBars, bar.symbol = "BTCUSDT" := by decide +kernel
  exact simulate_ledger_in_order (by decide +kernel) oneSymbol (by decide +kernel)
    (by decide +kernel)

/-- Two entries of different directions are admitted while neither has filled; the second to
fill meets the first. -/
theorem opposite_entries_refused :
    (simulate twoPositionEngine stoppedBars [sampleSignal 100 .up, sampleSignal 110 .down]
      []).outcome = .error (.portfolio "Close the opposite position before opening") := by
  decide +kernel

end QuantAgent.Economic
