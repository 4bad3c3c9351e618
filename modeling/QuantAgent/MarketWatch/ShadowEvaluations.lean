/-
This file embeds the parts of a shadow evaluation: the coverage of a window by candles, the funding
of the holding interval, and the diagnostic checkpoints.
-/

import QuantAgent.MarketWatch.ShadowRecords

namespace QuantAgent.MarketWatch.Shadow

/-! ### Coverage -/

structure CoverageStatus where
  complete : Bool
  startCovered : Bool
  endCovered : Bool
  internalGapCount : ℕ
  firstAvailableMs : Option ℤ
  lastAvailableMs : Option ℤ

def byOpenTime (candles : List Candle) : List Candle :=
  candles.insertionSort fun first second => first.openTimeMs ≤ second.openTimeMs

/-- Validate chronological time coverage across a required window, with a tolerance of 1 ms. -/
def validateTimeCoverage (candles : List Candle) (startMs endMs intervalMs : ℤ) :
    CoverageStatus :=
  let ordered := byOpenTime candles
  match ordered.head?, ordered.getLast? with
  | some first, some last =>
    let startCovered := decide (first.openTimeMs ≤ startMs)
    let endCovered := if startMs < endMs then decide (endMs - 1 ≤ last.closeTimeMs)
      else decide (endMs ≤ last.closeTimeMs)
    let gaps := (ordered.zip ordered.tail).countP fun pair =>
      1 < |pair.2.openTimeMs - (pair.1.openTimeMs + intervalMs)|
    ⟨startCovered && endCovered && gaps == 0, startCovered, endCovered, gaps,
      some first.openTimeMs, some last.closeTimeMs⟩
  | _, _ => ⟨false, false, false, 0, none, none⟩

/-! ### Funding -/

inductive FundingStatus where
  | notApplicable
  | complete
  | ambiguousFillBoundary
  | ambiguousExitBoundary
  | incompleteHistory
  | incompleteMarkPrice
  | fetchError
  deriving DecidableEq

/-- A record of `funding_rate_history`. -/
structure FundingRow where
  fundingTimeMs : ℤ
  fundingRate : ℚ
  markPrice : Option ℚ
  deriving DecidableEq

inductive SettlementStatus where
  | settled
  | unsettled (status : FundingStatus)
  deriving DecidableEq

structure FundingSettlement where
  fundingTimeMs : ℤ
  fundingRate : ℚ
  markPrice : Option ℚ
  fundingCash : Option ℚ
  fundingR : Option ℚ
  isSettlementOpen : Bool
  status : SettlementStatus
  deriving DecidableEq

def fundingAccountingVersion : String := "TACTICAL_FUNDING_ACCOUNTING_V1"

structure FundingAccounting where
  accountingVersion : String := fundingAccountingVersion
  fundingStatus : FundingStatus
  settlementsCount : ℕ := 0
  settlements : List FundingSettlement := []
  fundingPnlR : Option ℚ := none
  fundingCashTotal : Option ℚ := none
  initialRisk : Option ℚ := none
  notes : String
  deriving DecidableEq

/-- The uncertainty intervals of the fill and of the exit. -/
structure FundingWindow where
  fillStart : ℤ
  fillEnd : ℤ
  exitStart : ℤ
  exitEnd : ℤ

def settlementOf (isLong : Bool) (initialRisk : ℚ) (window : FundingWindow) (record : FundingRow) :
    Option FundingSettlement :=
  let time := record.fundingTimeMs
  let unsettled (status : FundingStatus) (isOpen : Bool) (markPrice : Option ℚ) :
      FundingSettlement :=
    ⟨time, record.fundingRate, markPrice, none, none, isOpen, .unsettled status⟩
  if time < window.fillStart then none
  else if time ≤ window.fillEnd then
    some (unsettled .ambiguousFillBoundary false record.markPrice)
  else if time < window.exitStart then
    match record.markPrice with
    | some markPrice =>
      if markPrice ≤ 0 then some (unsettled .incompleteMarkPrice true none)
      else
        let cash := (if isLong then -markPrice else markPrice) * record.fundingRate
        some ⟨time, record.fundingRate, some markPrice, some cash, some (cash / initialRisk), true,
          .settled⟩
    | none => some (unsettled .incompleteMarkPrice true none)
  else if time ≤ window.exitEnd then
    some (unsettled .ambiguousExitBoundary false record.markPrice)
  else none

def accountSettlements (initialRisk : ℚ) (settlements : List FundingSettlement) :
    FundingAccounting :=
  let has (status : FundingStatus) : Bool :=
    settlements.any fun settlement => settlement.status = .unsettled status
  let unavailable (status : FundingStatus) (notes : String) : FundingAccounting :=
    { fundingStatus := status
      settlementsCount := settlements.length
      settlements := settlements
      initialRisk := some initialRisk
      notes := notes }
  if has .ambiguousFillBoundary then
    unavailable .ambiguousFillBoundary
      "Funding settlement timestamp falls within ambiguous fill boundary"
  else if has .ambiguousExitBoundary then
    unavailable .ambiguousExitBoundary
      "Funding settlement timestamp falls within ambiguous exit boundary"
  else if has .incompleteMarkPrice then
    unavailable .incompleteMarkPrice
      "Applicable funding settlement lacks authoritative mark price"
  else
    { fundingStatus := .complete
      settlementsCount := settlements.length
      settlements := settlements
      fundingPnlR := some (settlements.filterMap fun settlement => settlement.fundingR).sum
      fundingCashTotal := some (settlements.filterMap fun settlement => settlement.fundingCash).sum
      initialRisk := some initialRisk
      notes := if settlements.isEmpty then
          "No scheduled funding settlements within filled holding window"
        else "All applicable funding settlements causally verified and settled" }

def evaluateFundingAccounting (direction : Option DirectionalDecision) (fillPrice : Option ℚ)
    (stopLoss : ℚ) (fillTimeMs exitTimeMs : Option ℤ) (fundingRecords : Option (List FundingRow))
    (fetchError : Bool)
    (fillIntervalStartMs fillIntervalEndMs exitIntervalStartMs exitIntervalEndMs : Option ℤ) :
    FundingAccounting :=
  match fillTimeMs, exitTimeMs, fillPrice with
  | some fillTime, some exitTime, some price =>
    let initialRisk := |price - stopLoss|
    if initialRisk ≤ 0 then
      { fundingStatus := .notApplicable, notes := "Zero initial risk distance" }
    else if fetchError then
      { fundingStatus := .fetchError
        initialRisk := some initialRisk
        notes := "Funding history fetch error" }
    else
      match fundingRecords with
      | none =>
        { fundingStatus := .incompleteHistory
          initialRisk := some initialRisk
          notes := "Funding records not supplied" }
      | some records =>
        let window : FundingWindow := {
          fillStart := fillIntervalStartMs.getD (fillTime - 60000)
          fillEnd := fillIntervalEndMs.getD fillTime
          exitStart := exitIntervalStartMs.getD exitTime
          exitEnd := exitIntervalEndMs.getD exitTime }
        accountSettlements initialRisk
          (records.filterMap (settlementOf (direction = some .long) initialRisk window))
  | _, _, _ =>
    { fundingStatus := .notApplicable
      notes := "Position not filled or missing price boundaries" }

/-! ### Checkpoints -/

inductive CheckpointStatus where
  | notApplicable
  | terminatedBeforeCheckpoint
  | insufficientCoverage
  | observed
  deriving DecidableEq

inductive BarrierStatus where
  | notFilled
  | active
  | terminated (reason : Option RowReason)

structure OutcomeCheckpoint where
  checkpointHorizonHours : ℤ
  checkpointHorizonMs : ℤ
  targetTimeMs : ℤ
  status : CheckpointStatus
  markPrice : Option ℚ := none
  markToMarketGrossR : Option ℚ := none
  mfeRToCheckpoint : Option ℚ := none
  maeRToCheckpoint : Option ℚ := none
  barrierStatus : BarrierStatus

def observedCheckpoint (isLong : Bool) (fillPrice initialRisk : ℚ) (hours targetTimeMs : ℤ)
    (candles : List Candle) : OutcomeCheckpoint :=
  let highest := (candles.map Candle.high).max?
  let lowest := (candles.map Candle.low).min?
  let above := highest.map fun high => roundTo 4 ((high - fillPrice) / initialRisk)
  let below := lowest.map fun low => roundTo 4 ((fillPrice - low) / initialRisk)
  let mark := candles.getLast?.map Candle.close
  { checkpointHorizonHours := hours
    checkpointHorizonMs := hours * 3600 * 1000
    targetTimeMs := targetTimeMs
    status := .observed
    markPrice := mark
    markToMarketGrossR := mark.map fun price =>
      roundTo 4 ((if isLong then price - fillPrice else fillPrice - price) / initialRisk)
    mfeRToCheckpoint := if isLong then above else below
    maeRToCheckpoint := if isLong then below else above
    barrierStatus := .active }

def filledCheckpoint (isLong : Bool) (fillPrice initialRisk : ℚ) (fillTimeMs : ℤ)
    (exitTimeMs : Option ℤ) (terminalReason : Option RowReason) (candles15m : List Candle)
    (hours : ℤ) : OutcomeCheckpoint :=
  let horizonMs := hours * 3600 * 1000
  let target := fillTimeMs + horizonMs
  let eligible := candles15m.filter fun candle => ∀ exitTime ∈ exitTimeMs,
    candle.closeTimeMs ≤ exitTime
  let relevant := byOpenTime (eligible.filter fun candle =>
    fillTimeMs < candle.closeTimeMs ∧ candle.closeTimeMs ≤ target)
  if ∃ exitTime ∈ exitTimeMs, exitTime ≤ target then
    { checkpointHorizonHours := hours
      checkpointHorizonMs := horizonMs
      targetTimeMs := target
      status := .terminatedBeforeCheckpoint
      barrierStatus := .terminated terminalReason }
  else if (validateTimeCoverage relevant fillTimeMs target quarterMs).complete then
    observedCheckpoint isLong fillPrice initialRisk hours target relevant
  else
    { checkpointHorizonHours := hours
      checkpointHorizonMs := horizonMs
      targetTimeMs := target
      status := .insufficientCoverage
      barrierStatus := .active }

def computeDiagnosticCheckpoints (direction : Option DirectionalDecision) (fillPrice : Option ℚ)
    (stopLoss : ℚ) (fillTimeMs exitTimeMs : Option ℤ) (terminalReason : Option RowReason)
    (candles15m : List Candle) : List OutcomeCheckpoint :=
  ([4, 8, 12, 24] : List ℤ).map fun hours =>
    match fillTimeMs, fillPrice with
    | some fillTime, some price =>
      let risk := |price - stopLoss|
      filledCheckpoint (direction = some .long) price (if risk ≤ 0 then 1 else risk) fillTime
        exitTimeMs terminalReason candles15m hours
    | _, _ =>
      { checkpointHorizonHours := hours
        checkpointHorizonMs := hours * 3600 * 1000
        targetTimeMs := 0
        status := .notApplicable
        barrierStatus := .notFilled }

end QuantAgent.MarketWatch.Shadow
