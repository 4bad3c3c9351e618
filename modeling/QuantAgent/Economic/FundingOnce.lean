/-
This file proves that a completed run charges each funding settlement up to its last close once,
in order, by the position that the ledger's fills strictly before it form, and charges nothing
when that position is no larger than the dust size.
-/

import QuantAgent.Economic.LedgerOrder

namespace QuantAgent.Economic

open Traced

variable {engine : EconomicSimulationEngine} {symbol : String} {candles : List Candle}
  {signals : List InformationSignal} {funding : List FundingSettlement} {state : EngineState}

theorem processed_eq_filter {processed remaining all : List FundingSettlement} {now : Int}
    (whole : processed ++ remaining = all) (past : ∀ event ∈ processed, event.timestampMs ≤ now)
    (ahead : ∀ event ∈ remaining, now < event.timestampMs) :
    processed = all.filter fun event => event.timestampMs ≤ now := by
  rw [← whole, List.filter_append, List.filter_eq_self.mpr, List.filter_eq_nil_iff.mpr,
    List.append_nil]
  · exact fun event member => by simpa using ahead event member
  · exact fun event member => by simpa using past event member

/-- The funding charges of the ledger are, in order, those of the settlements up to the last
close: one for each whose moment meets a position above the dust size, of minus that position
times mark price times rate. -/
theorem funding_charged_once (ordered : OrderedBars candles)
    (oneSymbol : ∀ bar ∈ candles, bar.symbol = symbol) {lastBar : Candle}
    (last : candles.getLast? = some lastBar)
    (done : (simulate engine candles signals funding).outcome = .ok state) :
    fundingCharges state.portfolio.tradeHistory =
      ((DueQueue.sortByDue FundingSettlement.timestampMs funding).filter fun event =>
        event.timestampMs ≤ lastBar.closeTimeMs).filterMap
          (chargeOf state.portfolio.tradeHistory) := by
  obtain ⟨start, early, earlyFunding⟩ := exists_start candles funding
  have benign : Benign fun _ => True := fun _ _ => trivial
  have judged : Judged symbol (fun _ => True) fun _ => True := .inl fun _ => trivial
  have between := (simulate_between benign judged ordered oneSymbol early early
    earlyFunding).result (fun _ _ => trivial) done
  obtain ⟨processed, whole, past, charged⟩ := between.timely.settled
  have clock : clockAfter start candles = lastBar.closeTimeMs := by rw [clockAfter, last]
  rw [clock] at past
  have ahead : ∀ event ∈ state.core.funding, lastBar.closeTimeMs < event.timestampMs := by
    rw [← clock]
    exact between.ahead
  rw [processed_eq_filter whole past ahead] at charged
  exact charged

def sampleFunding : List FundingSettlement := [⟨120, 1 / 1000, 100⟩, ⟨110, 1 / 1000, 100⟩]

/-- A long entry between the two settlements: only the later one is charged. -/
theorem funding_charged_once_entered :
    ∃ state, (simulate twoPositionEngine stoppedBars [sampleSignal 100 .up]
        sampleFunding).outcome = .ok state ∧
      fundingCharges state.portfolio.tradeHistory =
        ((DueQueue.sortByDue FundingSettlement.timestampMs sampleFunding).filter fun event =>
          event.timestampMs ≤ 129).filterMap (chargeOf state.portfolio.tradeHistory) := by
  have completed : (simulate twoPositionEngine stoppedBars [sampleSignal 100 .up]
      sampleFunding).outcome.isOk = true := by decide +kernel
  obtain ⟨state, done⟩ := exists_ok_of_isOk completed
  have oneSymbol : ∀ bar ∈ stoppedBars, bar.symbol = "BTCUSDT" := by decide +kernel
  have last : stoppedBars.getLast? = some (sampleBar 120 100 90) := rfl
  exact ⟨state, done, funding_charged_once (by decide +kernel) oneSymbol last done⟩

/-- The sample engine with a notional so small that a position stays below the dust size. -/
def dustEngine : EconomicSimulationEngine where
  policy := { positionSizing := { targetNotional := 1 / 100000000000 } }
  executionModel :=
    { feeModel := { slippageMode := .zero }, decisionLatencyMs := 15, exchangeLatencyMs := 0 }

/-- The position before the later settlement is not zero, and nothing is charged. -/
theorem dust_position_not_charged :
    ((simulate dustEngine stoppedBars [sampleSignal 100 .up] sampleFunding).outcome.toOption.map
      fun state => (positionBefore state.portfolio.tradeHistory 120,
        fundingCharges state.portfolio.tradeHistory)) = some (1 / 10000000000000, []) := by
  decide +kernel

end QuantAgent.Economic
