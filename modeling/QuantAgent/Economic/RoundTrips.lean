/-
This file embeds the attribution of a ledger to round trips. Every opening fill becomes a lot; a
close takes the lots of its asset in the order they were opened, each with its share of the entry
fee and of the funding, and is itself shared out among the trips it ends.
-/

import QuantAgent.Economic.CashFlow

namespace QuantAgent.Economic

def accountingTolerance : ℚ := 1 / 100000000

/-! ### Round trips -/

inductive TripSide where
  | long
  | short
  deriving DecidableEq

structure RoundTripFields where
  entryEventId : String
  exitEventId : String
  entryTimestampMs : Int
  exitTimestampMs : Int
  side : TripSide
  quantity : ℚ
  entryNotionalUsdt : ℚ
  exitNotionalUsdt : ℚ
  grossRealizedPnlUsdt : ℚ
  entryFeeUsdt : ℚ
  exitFeeUsdt : ℚ
  fundingUsdt : ℚ
  netPnlUsdt : ℚ
  holdingDurationMs : Int

namespace RoundTripFields

variable (trip : RoundTripFields)

def Identified : Prop := blank trip.entryEventId = false ∧ blank trip.exitEventId = false

def Timed : Prop :=
  0 < trip.entryTimestampMs ∧ trip.entryTimestampMs ≤ trip.exitTimestampMs ∧
    trip.holdingDurationMs = trip.exitTimestampMs - trip.entryTimestampMs

def Valued : Prop :=
  0 < trip.quantity ∧ 0 < trip.entryNotionalUsdt ∧ 0 < trip.exitNotionalUsdt ∧
    0 ≤ trip.entryFeeUsdt ∧ 0 ≤ trip.exitFeeUsdt

def expectedNet : ℚ :=
  trip.grossRealizedPnlUsdt - trip.entryFeeUsdt - trip.exitFeeUsdt + trip.fundingUsdt

def Reconciled : Prop := |trip.netPnlUsdt - trip.expectedNet| ≤ accountingTolerance

instance : Decidable trip.Identified := inferInstanceAs (Decidable (_ ∧ _))

instance : Decidable trip.Timed := inferInstanceAs (Decidable (_ ∧ _ ∧ _))

instance : Decidable trip.Valued := inferInstanceAs (Decidable (_ ∧ _ ∧ _ ∧ _ ∧ _))

instance : Decidable trip.Reconciled := inferInstanceAs (Decidable (_ ≤ _))

end RoundTripFields

/-- A round trip, with the checks of its constructor. -/
structure RoundTripAttribution extends RoundTripFields where
  identified : toRoundTripFields.Identified
  timed : toRoundTripFields.Timed
  valued : toRoundTripFields.Valued
  reconciled : toRoundTripFields.Reconciled

/-- `RoundTripAttribution.__post_init__`. -/
def RoundTripAttribution.create (trip : RoundTripFields) : Except String RoundTripAttribution :=
  if identified : trip.Identified then
    if timed : trip.Timed then
      if valued : trip.Valued then
        if reconciled : trip.Reconciled then .ok ⟨trip, identified, timed, valued, reconciled⟩
        else .error "round-trip net PnL does not reconcile"
      else .error "round-trip quantity/notionals/fees are invalid"
    else .error "round-trip timestamps/holding duration do not reconcile"
  else .error "round-trip event identities are required"

/-! ### Open lots -/

/-- `_OpenLot`. The side is 1 for a long and -1 for a short. -/
structure OpenLot where
  eventId : String
  timestampMs : Int
  side : ℚ
  entryPrice : ℚ
  remainingQuantity : ℚ
  remainingEntryFee : ℚ
  remainingFunding : ℚ := 0

namespace OpenLot

def ofFill (eventId : String) (fill : TradeEvent) : OpenLot where
  eventId := eventId
  timestampMs := fill.timestampMs
  side := if fill.action = .openLong then 1 else -1
  entryPrice := fill.price
  remainingQuantity := fill.quantity
  remainingEntryFee := fill.feeUsdt

variable (lot : OpenLot)

def settle (funding total : ℚ) : OpenLot :=
  { lot with remainingFunding := lot.remainingFunding + funding * lot.remainingQuantity / total }

def trip (exitId : String) (exit : TradeEvent) (matched : ℚ) : RoundTripFields :=
  let fraction := matched / lot.remainingQuantity
  let entryFee := lot.remainingEntryFee * fraction
  let funding := lot.remainingFunding * fraction
  let exitFee := exit.feeUsdt * matched / exit.quantity
  let gross := lot.side * matched * (exit.price - lot.entryPrice)
  { entryEventId := lot.eventId
    exitEventId := exitId
    entryTimestampMs := lot.timestampMs
    exitTimestampMs := exit.timestampMs
    side := if 0 < lot.side then .long else .short
    quantity := matched
    entryNotionalUsdt := matched * lot.entryPrice
    exitNotionalUsdt := matched * exit.price
    grossRealizedPnlUsdt := gross
    entryFeeUsdt := entryFee
    exitFeeUsdt := exitFee
    fundingUsdt := funding
    netPnlUsdt := gross - entryFee - exitFee + funding
    holdingDurationMs := exit.timestampMs - lot.timestampMs }

def without (matched : ℚ) : OpenLot :=
  let fraction := matched / lot.remainingQuantity
  { lot with
    remainingQuantity := lot.remainingQuantity - matched
    remainingEntryFee := lot.remainingEntryFee - lot.remainingEntryFee * fraction
    remainingFunding := lot.remainingFunding - lot.remainingFunding * fraction }

end OpenLot

/-! ### The attribution -/

section

variable (tolerance : ℚ)

def closeLots (exitId : String) (exit : TradeEvent) :
    ℚ → List OpenLot → Except String (ℚ × List OpenLot × List RoundTripAttribution)
  | remainingClose, [] => .ok (remainingClose, [], [])
  | remainingClose, lot :: lots =>
    if remainingClose ≤ tolerance then .ok (remainingClose, lot :: lots, [])
    else do
      refuse (lot.side ≠ if exit.action = .closeLong then 1 else -1)
        "close event side disagrees with open-lot attribution"
      let matched := min lot.remainingQuantity remainingClose
      let trip ← RoundTripAttribution.create (lot.trip exitId exit matched)
      let (left, kept, trips) ← closeLots exitId exit (remainingClose - matched) lots
      .ok (left, if (lot.without matched).remainingQuantity ≤ tolerance then kept
        else lot.without matched :: kept, trip :: trips)

structure Attribution where
  lotsByAsset : List (String × List OpenLot) := []
  result : List RoundTripAttribution := []

namespace Attribution

variable (attribution : Attribution)

/-- `lots_by_asset.setdefault(asset, [])`. -/
def lots (asset : String) : List OpenLot :=
  ((KeyedList.lookup Prod.fst attribution.lotsByAsset asset).map Prod.snd).getD []

def put (asset : String) (lots : List OpenLot) (trips : List RoundTripAttribution) :
    Attribution where
  lotsByAsset := KeyedList.insert Prod.fst attribution.lotsByAsset (asset, lots)
  result := attribution.result ++ trips

variable (digest : ℕ → TradeEvent → String)

/-- `ledger_event_id`; the digest is that of the sequence number and the event. -/
def ledgerEventId (entry : TradeEvent × ℕ) : String :=
  "ledger-event@" ++ digest entry.2 entry.1

/-- One turn of the loop, for an event with a known asset. -/
def attributeEvent (asset : String) (entry : TradeEvent × ℕ) : Except String Attribution :=
  let event := entry.1
  let lots := attribution.lots asset
  match event.action with
  | .openLong | .openShort =>
    .ok (attribution.put asset (lots ++ [.ofFill (ledgerEventId digest entry) event]) [])
  | .fundingSettlement =>
    let total := (lots.map OpenLot.remainingQuantity).sum
    if total ≤ tolerance then do
      refuse (tolerance < |event.fundingUsdt|) "funding cannot be attributed without an open lot"
      .ok (attribution.put asset lots [])
    else .ok (attribution.put asset (lots.map (OpenLot.settle · event.fundingUsdt total)) [])
  | .closeLong | .closeShort => do
    let (remainingClose, kept, trips) ←
      closeLots tolerance (ledgerEventId digest entry) event event.quantity lots
    refuse (tolerance < remainingClose) "close quantity is not covered by open lots"
    .ok (attribution.put asset kept trips)

/-- One turn of the loop of `attribute_round_trips`. -/
def step (attribution : Attribution) (entry : TradeEvent × ℕ) : Except String Attribution :=
  match KeyedList.lookup Prod.fst entry.1.metadata "asset" with
  | some (_, .text asset) => do
    refuse (blank asset) "round-trip attribution requires event asset metadata"
    attribution.attributeEvent tolerance digest asset entry
  | _ => .error "round-trip attribution requires event asset metadata"

end Attribution

def attributeRoundTrips (digest : ℕ → TradeEvent → String) (events : List TradeEvent) :
    Except String (List RoundTripAttribution) := do
  let attribution ← (events.zipIdx 1).foldlM (Attribution.step tolerance digest) {}
  return attribution.result

end

end QuantAgent.Economic
