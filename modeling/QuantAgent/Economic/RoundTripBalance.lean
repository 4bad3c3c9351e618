/-
This file says that the attribution loses nothing. What events bring, a fee or a cash flow or a
quantity, is held by the lots until trips take it; once every position is closed the trips have it
all. The argument is made once for weights on trips, lots and events, and used for each of them.
-/

import QuantAgent.Economic.RoundTrips

namespace QuantAgent.Economic

open OpenLot AddSubgroup

/-! ### Weights -/

/-- Something that events bring, lots hold and trips take. -/
structure Weights where
  trip : RoundTripFields → ℚ
  lot : OpenLot → ℚ
  event : TradeEvent × ℕ → ℚ

/-- No lot and no trip has more or less of it than events brought. -/
structure Weights.Balanced (weights : Weights) (digest : ℕ → TradeEvent → String) : Prop where
  opened : ∀ entry : TradeEvent × ℕ, entry.1.Valid → entry.1.action.opening = true →
    weights.lot (.ofFill (Attribution.ledgerEventId digest entry) entry.1) = weights.event entry
  settled : ∀ (entry : TradeEvent × ℕ) (lot : OpenLot) (total : ℚ), entry.1.Valid →
    entry.1.action = .fundingSettlement →
    weights.lot (lot.settle entry.1.fundingUsdt total) =
      weights.lot lot + weights.event entry * (lot.remainingQuantity / total)
  skipped : ∀ entry : TradeEvent × ℕ, entry.1.Valid → entry.1.action = .fundingSettlement →
    entry.1.fundingUsdt = 0 → weights.event entry = 0
  matched : ∀ (entry : TradeEvent × ℕ) (lot : OpenLot) (matched : ℚ), entry.1.Valid →
    entry.1.action.closing = true → lot.side = entry.1.action.direction →
    weights.trip (lot.trip (Attribution.ledgerEventId digest entry) entry.1 matched) +
        weights.lot (lot.without matched) =
      weights.lot lot + weights.event entry * (matched / entry.1.quantity)
  spent : ∀ lot : OpenLot, lot.remainingQuantity = 0 → lot.remainingEntryFee = 0 →
    lot.remainingFunding = 0 → weights.lot lot = 0

namespace Weights

variable (weights : Weights)

def trips (trips : List RoundTripAttribution) : ℚ :=
  (trips.map fun trip => weights.trip trip.toRoundTripFields).sum

def lots (lots : List OpenLot) : ℚ := (lots.map weights.lot).sum

/-- What the trips took and the lots still hold. -/
def total (attribution : Attribution) : ℚ :=
  weights.trips attribution.result +
    (attribution.lotsByAsset.map fun entry => weights.lots entry.2).sum

@[simp] theorem trips_cons (trip : RoundTripAttribution) (trips : List RoundTripAttribution) :
    weights.trips (trip :: trips) = weights.trip trip.toRoundTripFields + weights.trips trips := by
  simp [Weights.trips]

@[simp] theorem trips_append (first second : List RoundTripAttribution) :
    weights.trips (first ++ second) = weights.trips first + weights.trips second := by
  simp [trips]

@[simp] theorem lots_cons (lot : OpenLot) (lots : List OpenLot) :
    weights.lots (lot :: lots) = weights.lot lot + weights.lots lots := by
  simp [Weights.lots]

end Weights

/-! ### The five weights -/

section

variable (digest : ℕ → TradeEvent → String)

def grossWeights : Weights where
  trip trip := trip.grossRealizedPnlUsdt
  lot lot := -(lot.side * lot.remainingQuantity * lot.entryPrice)
  event entry := if entry.1.action = .fundingSettlement then 0
    else if entry.1.action.opening then
      -(entry.1.action.direction * entry.1.quantity * entry.1.price)
    else entry.1.action.direction * entry.1.quantity * entry.1.price

def feeWeights : Weights where
  trip trip := trip.entryFeeUsdt + trip.exitFeeUsdt
  lot lot := lot.remainingEntryFee
  event entry := entry.1.feeUsdt

def fundingWeights : Weights where
  trip trip := trip.fundingUsdt
  lot lot := lot.remainingFunding
  event entry := entry.1.fundingUsdt

def entryWeights (id : String) : Weights where
  trip trip := if trip.entryEventId = id then trip.quantity else 0
  lot lot := if lot.eventId = id then lot.remainingQuantity else 0
  event entry := if entry.1.action.opening ∧ Attribution.ledgerEventId digest entry = id then
    entry.1.quantity else 0

def exitWeights (id : String) : Weights where
  trip trip := if trip.exitEventId = id then trip.quantity else 0
  lot _ := 0
  event entry := if entry.1.action.closing ∧ Attribution.ledgerEventId digest entry = id then
    entry.1.quantity else 0

variable {digest}

theorem quantity_ne_zero {event : TradeEvent} (valid : event.Valid)
    (closing : event.action.closing = true) : event.quantity ≠ 0 :=
  (valid.trade fun settlement => by rw [settlement] at closing; cases closing).1.ne'

variable {action : TradeAction}

theorem side_of_opening (opening : action.opening = true) :
    (if action = .openLong then (1 : ℚ) else -1) = action.direction := by
  cases action <;> simp_all [TradeAction.opening, TradeAction.direction]

theorem side_of_closing (closing : action.closing = true) :
    (if action = .closeLong then (1 : ℚ) else -1) = action.direction := by
  cases action <;> simp_all [TradeAction.closing, TradeAction.direction]

theorem not_settlement_of_closing (closing : action.closing = true) :
    action ≠ .fundingSettlement := fun settlement => by rw [settlement] at closing; cases closing

theorem not_settlement_of_opening (opening : action.opening = true) :
    action ≠ .fundingSettlement := fun settlement => by rw [settlement] at opening; cases opening

theorem not_opening_of_closing (closing : action.closing = true) :
    action.opening = false := by
  cases action <;> simp_all [TradeAction.closing, TradeAction.opening]

theorem grossWeights_balanced : grossWeights.Balanced digest where
  opened entry _ opening := by
    simp only [grossWeights, ofFill, side_of_opening opening,
      if_neg (not_settlement_of_opening opening), if_pos opening]
  settled entry lot total _ settlement := by
    simp only [grossWeights, settle, if_pos settlement]
    ring
  skipped entry _ settlement _ := if_pos settlement
  matched entry lot matched valid closing facing := by
    have quantity := quantity_ne_zero valid closing
    simp only [grossWeights, OpenLot.trip, OpenLot.without, facing,
      if_neg (not_settlement_of_closing closing), not_opening_of_closing closing,
      Bool.false_eq_true, if_false]
    field_simp
    ring
  spent lot quantity _ _ := by simp [grossWeights, quantity]

theorem feeWeights_balanced : feeWeights.Balanced digest where
  opened entry _ _ := rfl
  settled entry lot total valid settlement := by
    simp [feeWeights, settle, (valid.funding settlement).1]
  skipped entry valid settlement _ := (valid.funding settlement).1
  matched entry lot matched valid closing _ := by
    simp only [feeWeights, OpenLot.trip, OpenLot.without]
    ring
  spent lot _ fee _ := fee

theorem fundingWeights_balanced : fundingWeights.Balanced digest where
  opened entry valid opening := by
    simp [fundingWeights, ofFill, (valid.trade (not_settlement_of_opening opening)).2]
  settled entry lot total _ _ := by
    simp only [fundingWeights, settle]
    ring
  skipped entry _ _ nothing := nothing
  matched entry lot matched valid closing _ := by
    simp only [fundingWeights, OpenLot.trip, OpenLot.without,
      (valid.trade (not_settlement_of_closing closing)).2]
    ring
  spent lot _ _ funding := funding

theorem entryWeights_balanced (id : String) : (entryWeights digest id).Balanced digest where
  opened entry _ opening := by simp [entryWeights, ofFill, opening]
  settled entry lot total _ settlement := by
    simp [entryWeights, settle, settlement, TradeAction.opening]
  skipped entry _ settlement _ := by simp [entryWeights, settlement, TradeAction.opening]
  matched entry lot matched _ closing _ := by
    simp only [entryWeights, OpenLot.trip, OpenLot.without, not_opening_of_closing closing,
      Bool.false_eq_true, false_and, if_false, zero_mul, add_zero]
    split_ifs <;> ring
  spent lot quantity _ _ := by simp [entryWeights, quantity]

theorem exitWeights_balanced (id : String) : (exitWeights digest id).Balanced digest where
  opened entry _ opening := by
    simp [exitWeights, TradeAction.not_closing_of_opening opening]
  settled entry lot total _ settlement := by simp [exitWeights, settlement, TradeAction.closing]
  skipped entry _ settlement _ := by simp [exitWeights, settlement, TradeAction.closing]
  matched entry lot matched valid closing _ := by
    have quantity := quantity_ne_zero valid closing
    simp only [exitWeights, OpenLot.trip, closing, true_and]
    split_ifs
    · field_simp
      ring
    · ring
  spent lot _ _ _ := rfl

end

/-! ### Closing lots -/

/-- A lot that a fill up to the moment left open, with a positive number of steps. -/
structure OpenLot.Sound (step : ℚ) (untilMs : Int) (lot : OpenLot) : Prop where
  identified : blank lot.eventId = false
  timed : 0 < lot.timestampMs ∧ lot.timestampMs ≤ untilMs
  priced : 0 < lot.entryPrice
  held : 0 < lot.remainingQuantity
  stepped : lot.remainingQuantity ∈ zmultiples step
  paid : 0 ≤ lot.remainingEntryFee

theorem le_of_zmultiples {step quantity : ℚ} (positive : 0 < step)
    (stepped : quantity ∈ zmultiples step) (held : 0 < quantity) :
    step ≤ quantity := by
  obtain ⟨count, rfl⟩ := mem_zmultiples_iff.mp stepped
  rw [zsmul_eq_mul] at held ⊢
  have counted : 0 < count := by exact_mod_cast (mul_pos_iff_of_pos_right positive).mp held
  have one : (1 : ℚ) ≤ count := by exact_mod_cast counted
  exact le_mul_of_one_le_left positive.le one

theorem le_tolerance_iff {tolerance step quantity : ℚ} (nonnegative : 0 ≤ tolerance)
    (wide : tolerance < step) (stepped : quantity ∈ zmultiples step)
    (held : 0 ≤ quantity) : quantity ≤ tolerance ↔ quantity = 0 := by
  constructor
  · intro small
    by_contra nonzero
    have least := le_of_zmultiples (nonnegative.trans_lt wide) stepped
      (lt_of_le_of_ne held (Ne.symm nonzero))
    exact absurd (small.trans_lt wide) (not_lt.mpr least)
  · rintro rfl
    exact nonnegative

variable {lot : OpenLot}

theorem OpenLot.Sound.create {step : ℚ} {exitId : String} {exit : TradeEvent}
    (sound : lot.Sound step exit.timestampMs) (valid : exit.Valid)
    (closing : exit.action.closing = true) (named : blank exitId = false) {matched : ℚ}
    (some : 0 < matched) : ∃ trip, RoundTripAttribution.create (lot.trip exitId exit matched) =
      .ok trip ∧ trip.toRoundTripFields = lot.trip exitId exit matched := by
  have quantity := (valid.trade (not_settlement_of_closing closing)).1
  have identified : (lot.trip exitId exit matched).Identified := ⟨sound.identified, named⟩
  have timed : (lot.trip exitId exit matched).Timed := ⟨sound.timed.1, sound.timed.2, rfl⟩
  have valued : (lot.trip exitId exit matched).Valued :=
    ⟨some, mul_pos some sound.priced, mul_pos some valid.values.1,
      mul_nonneg sound.paid (div_nonneg some.le sound.held.le),
      div_nonneg (mul_nonneg valid.values.2.2 some.le) quantity.le⟩
  have reconciled : (lot.trip exitId exit matched).Reconciled := by
    show |_ - _| ≤ accountingTolerance
    rw [show (lot.trip exitId exit matched).netPnlUsdt =
      (lot.trip exitId exit matched).expectedNet from rfl, sub_self, abs_zero]
    norm_num [accountingTolerance]
  refine ⟨⟨_, identified, timed, valued, reconciled⟩, ?_, rfl⟩
  rw [RoundTripAttribution.create, dif_pos identified, dif_pos timed, dif_pos valued,
    dif_pos reconciled]

theorem OpenLot.Sound.without {step : ℚ} {untilMs : Int}
    (sound : lot.Sound step untilMs) {matched : ℚ}
    (stepped : matched ∈ zmultiples step) (less : matched < lot.remainingQuantity) :
    (lot.without matched).Sound step untilMs where
  identified := sound.identified
  timed := sound.timed
  priced := sound.priced
  held := sub_pos.mpr less
  stepped := sub_mem sound.stepped stepped
  paid := by
    have share : lot.remainingEntryFee * (matched / lot.remainingQuantity) ≤
        lot.remainingEntryFee :=
      mul_le_of_le_one_right sound.paid ((div_le_one sound.held).mpr less.le)
    exact sub_nonneg.mpr share

/-- What of a lot is left once all of it is matched weighs nothing. -/
theorem Weights.Balanced.without_all {weights : Weights} {digest : ℕ → TradeEvent → String}
    (balanced : weights.Balanced digest) (held : 0 < lot.remainingQuantity) :
    weights.lot (lot.without lot.remainingQuantity) = 0 := by
  refine balanced.spent _ ?_ ?_ ?_ <;> simp [OpenLot.without, div_self held.ne']

variable {trips : List RoundTripAttribution}

section

variable {tolerance step : ℚ} {digest : ℕ → TradeEvent → String} {entry : TradeEvent × ℕ}

theorem closeLots_cons {exitId : String} {exit : TradeEvent} {lots kept : List OpenLot}
    {remainingClose left : ℚ} {trip : RoundTripAttribution}
    (more : tolerance < remainingClose) (closing : exit.action.closing = true)
    (side : lot.side = exit.action.direction)
    (created : RoundTripAttribution.create
      (lot.trip exitId exit (min lot.remainingQuantity remainingClose)) = .ok trip)
    (closed : closeLots tolerance exitId exit
      (remainingClose - min lot.remainingQuantity remainingClose) lots = .ok (left, kept, trips)) :
    closeLots tolerance exitId exit remainingClose (lot :: lots) = .ok (left,
      if (lot.without (min lot.remainingQuantity remainingClose)).remainingQuantity ≤ tolerance
        then kept else lot.without (min lot.remainingQuantity remainingClose) :: kept,
      trip :: trips) := by
  rw [closeLots, if_neg (not_le.mpr more), side_of_closing closing,
    refuse_of_not (not_not.mpr side)]
  simp only [bind, Except.bind, created, closed]

theorem min_mem_zmultiples {first second : ℚ} (left : first ∈ zmultiples step)
    (right : second ∈ zmultiples step) :
    min first second ∈ zmultiples step := by
  obtain same | same := min_choice first second
  · rwa [same]
  · rwa [same]

theorem closeLots_covered (nonnegative : 0 ≤ tolerance) (wide : tolerance < step)
    (valid : entry.1.Valid) (closing : entry.1.action.closing = true)
    (named : blank (Attribution.ledgerEventId digest entry) = false) {lots : List OpenLot}
    (sound : ∀ lot ∈ lots, lot.Sound step entry.1.timestampMs)
    (facing : ∀ lot ∈ lots, lot.side = entry.1.action.direction) {remainingClose : ℚ}
    (stepped : remainingClose ∈ zmultiples step) (some : 0 ≤ remainingClose)
    (covered : remainingClose ≤ (lots.map remainingQuantity).sum) :
    ∃ kept trips, closeLots tolerance (Attribution.ledgerEventId digest entry) entry.1
        remainingClose lots = .ok (0, kept, trips) ∧
      (∀ lot ∈ kept, lot.Sound step entry.1.timestampMs ∧ lot.side = entry.1.action.direction) ∧
      (kept.map remainingQuantity).sum =
        (lots.map remainingQuantity).sum - remainingClose ∧
      ∀ weights : Weights, weights.Balanced digest → weights.trips trips + weights.lots kept =
        weights.lots lots + weights.event entry * (remainingClose / entry.1.quantity) := by
  induction lots generalizing remainingClose with
  | nil =>
    obtain rfl : remainingClose = 0 := le_antisymm covered some
    refine ⟨[], [], rfl, fun _ member => (List.not_mem_nil member).elim, (sub_zero _).symm,
      fun weights _ => ?_⟩
    simp [Weights.trips]
  | cons lot lots inductionHypothesis =>
    obtain ⟨own, others⟩ := List.forall_mem_cons.mp sound
    obtain ⟨side, sides⟩ := List.forall_mem_cons.mp facing
    by_cases done : remainingClose ≤ tolerance
    · obtain rfl := (le_tolerance_iff nonnegative wide stepped some).mp done
      refine ⟨lot :: lots, [], if_pos done, fun other member =>
        ⟨sound other member, facing other member⟩, (sub_zero _).symm, fun weights _ => ?_⟩
      simp [Weights.trips]
    · have more : 0 < remainingClose := nonnegative.trans_lt (not_le.mp done)
      have taken := min_mem_zmultiples own.stepped stepped
      have within : min lot.remainingQuantity remainingClose ≤ lot.remainingQuantity :=
        min_le_left _ _
      have rest : 0 ≤ (lots.map remainingQuantity).sum := List.sum_nonneg (by
        simpa using fun other member => (others other member).held.le)
      have covers : remainingClose - min lot.remainingQuantity remainingClose ≤
          (lots.map remainingQuantity).sum := by
        rw [List.map_cons, List.sum_cons] at covered
        obtain all | part := min_choice lot.remainingQuantity remainingClose <;> linarith
      obtain ⟨trip, created, fields⟩ := own.create valid closing named (lt_min own.held more)
      obtain ⟨kept, trips, closed, fine, left, weighed⟩ := inductionHypothesis others sides
        (sub_mem stepped taken) (sub_nonneg.mpr (min_le_right _ _)) covers
      have unfolded := closeLots_cons (not_le.mp done) closing side created closed
      have gone : (lot.without (min lot.remainingQuantity remainingClose)).remainingQuantity ≤
          tolerance ↔ lot.remainingQuantity - min lot.remainingQuantity remainingClose = 0 :=
        le_tolerance_iff nonnegative wide (sub_mem own.stepped taken) (sub_nonneg.mpr within)
      generalize min lot.remainingQuantity remainingClose = matched at *
      have shared (weights : Weights) (balanced : weights.Balanced digest) :=
        balanced.matched entry lot matched valid closing side
      refine ⟨_, _, unfolded, ?_⟩
      by_cases used : (lot.without matched).remainingQuantity ≤ tolerance
      · obtain rfl : lot.remainingQuantity = matched := sub_eq_zero.mp (gone.mp used)
        simp only [if_pos used]
        refine ⟨fine, ?_, fun weights balanced => ?_⟩
        · rw [left, List.map_cons, List.sum_cons]
          ring
        · have all := shared weights balanced
          rw [balanced.without_all own.held] at all
          simp only [Weights.trips_cons, Weights.lots_cons, fields]
          linear_combination all + weighed weights balanced
      · simp only [if_neg used]
        refine ⟨List.forall_mem_cons.mpr ⟨⟨own.without taken (lt_of_le_of_ne within fun all =>
          used (gone.mpr (sub_eq_zero.mpr all.symm))), side⟩, fine⟩, ?_, fun weights balanced => ?_⟩
        · rw [List.map_cons, List.sum_cons, left, List.map_cons, List.sum_cons]
          show lot.remainingQuantity - matched + _ = _
          ring
        · simp only [Weights.trips_cons, Weights.lots_cons, fields]
          linear_combination shared weights balanced + weighed weights balanced

end

/-! ### The lots of one asset -/

/-- The lots of an asset lie on one side and come to its position. -/
structure Mirrored (step : ℚ) (untilMs : Int) (lots : List OpenLot) (position : ℚ) : Prop where
  sound : ∀ lot ∈ lots, lot.Sound step untilMs
  sided : ∃ action : TradeAction, (∀ lot ∈ lots, lot.side = action.direction) ∧
    position = action.direction * (lots.map remainingQuantity).sum

namespace Mirrored

variable {step position : ℚ} {untilMs : Int} {lots : List OpenLot}

theorem later {laterMs : Int} (mirrored : Mirrored step untilMs lots position)
    (order : untilMs ≤ laterMs) : Mirrored step laterMs lots position where
  sound lot member :=
    have sound := mirrored.sound lot member
    { sound with timed := ⟨sound.timed.1, sound.timed.2.trans order⟩ }
  sided := mirrored.sided

theorem sum_pos (mirrored : Mirrored step untilMs lots position) (some : lots ≠ []) :
    0 < (lots.map remainingQuantity).sum := by
  refine List.sum_pos _ (fun quantity member => ?_) (by simpa using some)
  obtain ⟨lot, own, rfl⟩ := List.mem_map.mp member
  exact (mirrored.sound lot own).held

theorem sum_stepped (mirrored : Mirrored step untilMs lots position) :
    (lots.map remainingQuantity).sum ∈ zmultiples step := by
  refine list_sum_mem fun quantity member => ?_
  obtain ⟨lot, own, rfl⟩ := List.mem_map.mp member
  exact (mirrored.sound lot own).stepped

theorem flat (mirrored : Mirrored step untilMs lots 0) : lots = [] := by
  by_contra some
  obtain ⟨action, -, none⟩ := mirrored.sided
  have square := action.direction_sq
  obtain zero | zero := mul_eq_zero.mp none.symm
  · norm_num [zero] at square
  · exact (mirrored.sum_pos some).ne' zero

theorem facing (mirrored : Mirrored step untilMs lots position) {action : TradeAction}
    (aligned : 0 ≤ position * action.direction) :
    (∀ lot ∈ lots, lot.side = action.direction) ∧
      position = action.direction * (lots.map remainingQuantity).sum := by
  obtain ⟨own, facing, held⟩ := mirrored.sided
  by_cases none : lots = []
  · subst none
    exact ⟨fun _ member => (List.not_mem_nil member).elim, by simpa using held⟩
  · have positive := mirrored.sum_pos none
    have same : own.direction = action.direction := by
      rw [held] at aligned
      by_contra differ
      have opposed : own.direction * action.direction = -1 := by
        revert differ
        cases own <;> cases action <;> norm_num [TradeAction.direction]
      linarith [mul_right_comm own.direction (lots.map remainingQuantity).sum
        action.direction, show own.direction * action.direction *
          (lots.map remainingQuantity).sum =
            -(lots.map remainingQuantity).sum from by rw [opposed, neg_one_mul]]
    rw [← same]
    exact ⟨facing, held⟩

end Mirrored

/-! ### One event -/

namespace Attribution

variable {tolerance step : ℚ} {digest : ℕ → TradeEvent → String} {attribution : Attribution}
  {asset : String} {entry : TradeEvent × ℕ} {position : ℚ}

def Attributes (tolerance step : ℚ) (digest : ℕ → TradeEvent → String) (attribution : Attribution)
    (asset : String) (entry : TradeEvent × ℕ) (position : ℚ) : Prop :=
  ∃ kept trips, attribution.attributeEvent tolerance digest asset entry =
      .ok (attribution.put asset kept trips) ∧
    Mirrored step entry.1.timestampMs kept position ∧
    ∀ weights : Weights, weights.Balanced digest → weights.trips trips + weights.lots kept =
      weights.lots (attribution.lots asset) + weights.event entry

theorem named (entry : TradeEvent × ℕ) : blank (ledgerEventId digest entry) = false := by
  unfold blank ledgerEventId
  rw [String.toList_append, List.all_append, Bool.and_eq_false_iff]
  exact .inl (by decide)

theorem attributeEvent_opening (opening : entry.1.action.opening = true) :
    attribution.attributeEvent tolerance digest asset entry = .ok (attribution.put asset
      (attribution.lots asset ++ [.ofFill (ledgerEventId digest entry) entry.1]) []) := by
  cases action : entry.1.action with
  | openLong => simp only [attributeEvent, action]
  | openShort => simp only [attributeEvent, action]
  | _ => simp [action, TradeAction.opening] at opening

theorem attributeEvent_closing (closing : entry.1.action.closing = true)
    (nonnegative : 0 ≤ tolerance) {kept : List OpenLot}
    (closed : closeLots tolerance (ledgerEventId digest entry) entry.1 entry.1.quantity
      (attribution.lots asset) = .ok (0, kept, trips)) :
    attribution.attributeEvent tolerance digest asset entry =
      .ok (attribution.put asset kept trips) := by
  have covered : refuse (tolerance < 0) "close quantity is not covered by open lots" = .ok () :=
    refuse_of_not (not_lt.mpr nonnegative)
  cases action : entry.1.action with
  | closeLong => simp only [attributeEvent, action, closed, bind, Except.bind, covered]
  | closeShort => simp only [attributeEvent, action, closed, bind, Except.bind, covered]
  | _ => simp [action, TradeAction.closing] at closing

theorem attributes_opening (valid : entry.1.Valid) (opening : entry.1.action.opening = true)
    (mirrored : Mirrored step entry.1.timestampMs (attribution.lots asset) position)
    (aligned : 0 ≤ position * entry.1.action.direction)
    (stepped : entry.1.quantity ∈ zmultiples step) :
    attribution.Attributes tolerance step digest asset entry
      (position + entry.1.action.direction * entry.1.quantity) := by
  obtain ⟨facing, held⟩ := mirrored.facing aligned
  have quantity := (valid.trade (not_settlement_of_opening opening)).1
  refine ⟨_, _, attributeEvent_opening opening, ⟨?_, entry.1.action, ?_, ?_⟩,
    fun weights balanced => ?_⟩
  · rw [List.forall_mem_append, List.forall_mem_singleton]
    exact ⟨mirrored.sound, named entry, ⟨valid.time, le_refl _⟩, valid.values.1, quantity, stepped,
      valid.values.2.2⟩
  · rw [List.forall_mem_append, List.forall_mem_singleton]
    exact ⟨facing, side_of_opening opening⟩
  · rw [held, List.map_append, List.sum_append, List.map_singleton, List.sum_singleton, mul_add]
    rfl
  · have whole := balanced.opened entry valid opening
    simp [Weights.trips, Weights.lots, whole]

theorem attributes_closing (nonnegative : 0 ≤ tolerance) (wide : tolerance < step)
    (valid : entry.1.Valid) (closing : entry.1.action.closing = true)
    (mirrored : Mirrored step entry.1.timestampMs (attribution.lots asset) position)
    (aligned : 0 < position * entry.1.action.direction) (covered : entry.1.quantity ≤ |position|)
    (stepped : entry.1.quantity ∈ zmultiples step) :
    attribution.Attributes tolerance step digest asset entry
      (position - entry.1.action.direction * entry.1.quantity) := by
  obtain ⟨facing, held⟩ := mirrored.facing aligned.le
  have quantity := quantity_ne_zero valid closing
  have square := entry.1.action.direction_sq
  have size : |position| = ((attribution.lots asset).map remainingQuantity).sum := by
    rw [Portfolio.abs_eq_mul_direction aligned.le, held]
    linear_combination ((attribution.lots asset).map remainingQuantity).sum * square
  obtain ⟨kept, trips, closed, fine, left, weighed⟩ := closeLots_covered nonnegative wide valid
    closing (named entry) mirrored.sound facing stepped valid.values.2.1
    (size ▸ covered)
  refine ⟨kept, trips, attributeEvent_closing closing nonnegative closed,
    ⟨fun lot member => (fine lot member).1, entry.1.action,
      fun lot member => (fine lot member).2, ?_⟩, fun weights balanced => ?_⟩
  · rw [left, held]
    ring
  · rw [weighed weights balanced, div_self quantity, mul_one]

theorem sum_settle (weights : Weights) (balanced : weights.Balanced digest) (valid : entry.1.Valid)
    (settlement : entry.1.action = .fundingSettlement) (total : ℚ) (lots : List OpenLot) :
    weights.lots (lots.map (settle · entry.1.fundingUsdt total)) =
      weights.lots lots +
        weights.event entry * ((lots.map remainingQuantity).sum / total) := by
  induction lots with
  | nil => simp [Weights.lots]
  | cons lot lots inductionHypothesis =>
    rw [List.map_cons, Weights.lots_cons, inductionHypothesis, Weights.lots_cons, List.map_cons,
      List.sum_cons, balanced.settled entry lot total valid settlement]
    ring

theorem attributes_settlement (nonnegative : 0 ≤ tolerance) (wide : tolerance < step)
    (valid : entry.1.Valid) (settlement : entry.1.action = .fundingSettlement)
    (mirrored : Mirrored step entry.1.timestampMs (attribution.lots asset) position)
    (funded : position = 0 → entry.1.fundingUsdt = 0) :
    attribution.Attributes tolerance step digest asset entry position := by
  by_cases flat : position = 0
  · subst flat
    have none := mirrored.flat
    have nothing := funded rfl
    refine ⟨[], [], ?_, none ▸ mirrored, fun weights balanced => ?_⟩
    · have skips : refuse (tolerance < |entry.1.fundingUsdt|)
          "funding cannot be attributed without an open lot" = .ok () :=
        refuse_of_not (by rw [nothing, abs_zero]; exact not_lt.mpr nonnegative)
      simp only [attributeEvent, settlement, none, List.map_nil, List.sum_nil, if_pos nonnegative,
        skips, bind, Except.bind]
    · rw [none, balanced.skipped entry valid settlement nothing, add_zero]
      exact zero_add _
  · have some : attribution.lots asset ≠ [] := by
      intro none
      obtain ⟨action, -, held⟩ := mirrored.sided
      exact flat (by simpa [none] using held)
    have positive := mirrored.sum_pos some
    have more : ¬ ((attribution.lots asset).map remainingQuantity).sum ≤ tolerance :=
      fun small => positive.ne' ((le_tolerance_iff nonnegative wide mirrored.sum_stepped
        positive.le).mp small)
    have attributed : attribution.attributeEvent tolerance digest asset entry =
        .ok (attribution.put asset ((attribution.lots asset).map (settle ·
          entry.1.fundingUsdt ((attribution.lots asset).map remainingQuantity).sum)) []) := by
      simp only [attributeEvent, settlement, if_neg more]
    refine ⟨_, _, attributed, ⟨?_, ?_⟩, fun weights balanced => ?_⟩
    · rw [List.forall_mem_map]
      intro lot member
      have sound := mirrored.sound lot member
      exact ⟨sound.identified, sound.timed, sound.priced, sound.held, sound.stepped, sound.paid⟩
    · obtain ⟨action, facing, held⟩ := mirrored.sided
      refine ⟨action, List.forall_mem_map.mpr facing, ?_⟩
      rw [List.map_map]
      exact held
    · rw [sum_settle weights balanced valid settlement, div_self positive.ne', mul_one]
      exact zero_add _

/-! ### The attribution so far -/

theorem lots_put (kept : List OpenLot) (trips : List RoundTripAttribution) (other : String) :
    (attribution.put asset kept trips).lots other =
      if other = asset then kept else attribution.lots other := by
  unfold lots put
  by_cases same : other = asset
  · subst same
    rw [if_pos rfl, KeyedList.lookup_insert_self attribution.lotsByAsset (other, kept)]
    rfl
  · rw [if_neg same, KeyedList.lookup_insert_of_ne same]

theorem total_put (weights : Weights)
    (distinct : KeyedList.Distinct Prod.fst attribution.lotsByAsset) (kept : List OpenLot)
    (trips : List RoundTripAttribution) :
    weights.total (attribution.put asset kept trips) + weights.lots (attribution.lots asset) =
      weights.total attribution + (weights.trips trips + weights.lots kept) := by
  have moved := KeyedList.sum_insert_add (fun entry => weights.lots entry.2) distinct (asset, kept)
  have old : ((KeyedList.lookup Prod.fst attribution.lotsByAsset asset).map
      fun entry => weights.lots entry.2).getD 0 = weights.lots (attribution.lots asset) := by
    unfold lots
    cases KeyedList.lookup Prod.fst attribution.lotsByAsset asset <;> rfl
  rw [old] at moved
  unfold Weights.total put
  rw [Weights.trips_append]
  linear_combination moved

end Attribution

end QuantAgent.Economic
