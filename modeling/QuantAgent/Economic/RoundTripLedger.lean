/-
This file says that the round trips of a ledger account for it. The attribution accepts every
ledger of the portfolio whose quantities are multiples of a step above the tolerance, and once
every position is closed the trips have its realised result, its fees and its funding, and every
fill is matched once and in full.
-/

import QuantAgent.Economic.RoundTripBalance

namespace QuantAgent.Economic

open Attribution KeyedList

/-! ### What a call records -/

namespace Portfolio

variable {portfolio : Portfolio} {trade : TradeRequest}

theorem positionsAfter_other {current : Option Position} {newQty newEntry : ℚ}
    {positions : List Position}
    (placed : portfolio.positionsAfter trade current newQty newEntry = .ok positions)
    {other : String} (different : other ≠ trade.asset) :
    lookup Position.asset positions other = portfolio.position other := by
  unfold positionsAfter at placed
  split_ifs at placed
  · cases placed
    exact lookup_erase_of_ne different
  · obtain ⟨position, created, inserted⟩ := bind_eq_ok.mp placed
    cases inserted
    exact lookup_insert_of_ne ((Position.create_ok created).1 ▸ different)

/-- The value of the positions at a mark of zero, which is minus their cost. -/
def worth (portfolio : Portfolio) : ℚ :=
  (portfolio.positions.map (valued (worthAt []))).sum

def Moves (position later : ℚ) (event : TradeEvent) : Prop :=
  if event.action = .fundingSettlement then
    (position = 0 → event.fundingUsdt = 0) ∧ later = position
  else if event.action.opening then
    0 ≤ position * event.action.direction ∧
      later = position + event.action.direction * event.quantity
  else
    (0 < position * event.action.direction ∧ event.quantity ≤ |position|) ∧
      later = position - event.action.direction * event.quantity

structure Records (portfolio later : Portfolio) (asset : String) (event : TradeEvent) : Prop where
  history : later.tradeHistory = portfolio.tradeHistory ++ [event]
  valid : event.Valid
  recorded : lookup Prod.fst event.metadata "asset" = some ("asset", .text asset)
  named : blank asset = false
  late : ∀ last ∈ portfolio.tradeHistory.getLast?, last.timestampMs ≤ event.timestampMs
  moves : Moves (portfolio.getPositionQuantity asset) (later.getPositionQuantity asset) event
  others : ∀ other ≠ asset, later.getPositionQuantity other = portfolio.getPositionQuantity other
  realized : Distinct Position.asset portfolio.positions → ∀ sequence,
    event.realizedPnlUsdt + later.worth = portfolio.worth + grossWeights.event (event, sequence)

theorem moves_of_admits {event : TradeEvent} {later : ℚ} (admits : portfolio.Admits trade)
    (traded : trade.action ≠ .fundingSettlement) (action : event.action = trade.action)
    (quantity : event.quantity = trade.quantity)
    (moved : later = portfolio.getPositionQuantity trade.asset + trade.signedQuantity) :
    Moves (portfolio.getPositionQuantity trade.asset) later event := by
  unfold Moves
  unfold TradeRequest.signedQuantity at moved
  unfold Admits at admits
  rw [action, quantity, if_neg traded]
  by_cases opening : trade.action.opening = true
  · rw [if_pos opening] at admits moved ⊢
    exact ⟨admits, moved⟩
  · rw [if_neg opening] at admits moved ⊢
    exact ⟨admits, moved.trans (sub_eq_add_neg _ _).symm⟩

variable {later : Portfolio}

theorem records_applyTrade (applied : portfolio.applyTrade trade = .ok later) :
    ∃ event, portfolio.Records later trade.asset event := by
  obtain ⟨admits, moved, -⟩ := applyTrade_ok applied
  obtain ⟨input, tradeAction, values, newQty, newEntry, realized, positions, outcome, placed,
    valid, rfl⟩ := applyTrade_eq_ok.mp applied
  obtain ⟨-, late, named⟩ := validateEventInput_eq_ok.mp input
  refine ⟨portfolio.tradeEvent trade newQty realized, rfl, valid,
    lookup_insert_self _ _, named, late, ?_, fun other different => ?_,
    fun distinct sequence => ?_⟩
  · exact moves_of_admits admits tradeAction rfl rfl moved
  · rw [getPositionQuantity_eq, getPositionQuantity_eq]
    unfold position
    rw [positionsAfter_other placed different]
    rfl
  · have flat : ∀ asset entry, worthAt [] asset 0 entry = 0 := fun _ _ => zero_mul _
    have worths := sum_positionsAfter flat distinct placed
    have value := tradeOutcome_value 0 values.1 outcome
    have signed : grossWeights.event (portfolio.tradeEvent trade newQty realized, sequence) =
        trade.signedQuantity * (0 - trade.price) := by
      unfold grossWeights TradeRequest.signedQuantity tradeEvent
      simp only [if_neg tradeAction]
      split_ifs <;> ring
    rw [signed, worth, worth]
    change _ = _ at worths
    simp only [worthAt, MarkPrices.mark, lookup, List.find?_nil, Option.map_none,
      Option.getD_none] at worths
    show realized + _ = _
    linear_combination worths + value

theorem records_applyFunding {timestampMs : Int} {asset : String} {cashflowUsdt markPrice : ℚ}
    (applied : portfolio.applyFunding timestampMs asset cashflowUsdt markPrice = .ok later) :
    ∃ event, portfolio.Records later asset event := by
  obtain ⟨input, held, valid, rfl⟩ := applyFunding_eq_ok.mp applied
  obtain ⟨-, late, named⟩ := validateEventInput_eq_ok.mp input
  refine ⟨_, rfl, valid, rfl, named, late, ?_, fun _ _ => rfl, fun _ sequence => ?_⟩
  · exact ⟨fun flat => not_not.mp fun paid => held ⟨flat, paid⟩, rfl⟩
  · show 0 + worth _ = worth portfolio + 0
    rw [zero_add, add_zero]
    rfl

theorem records_apply {call : LedgerCall} (applied : call.apply portfolio = .ok later) :
    ∃ asset event, portfolio.Records later asset event := by
  cases call with
  | trade request => exact ⟨_, records_applyTrade applied⟩
  | funding => exact ⟨_, records_applyFunding applied⟩

end Portfolio

/-! ### A whole ledger -/

/-- The lots follow the positions, up to any moment that the ledger has reached. -/
structure Attribution.Follows (step : ℚ) (portfolio : Portfolio) (attribution : Attribution) :
    Prop where
  distinct : Distinct Prod.fst attribution.lotsByAsset
  mirrored : ∀ untilMs, (∀ last ∈ portfolio.tradeHistory.getLast?, last.timestampMs ≤ untilMs) →
    ∀ asset, Mirrored step untilMs (attribution.lots asset) (portfolio.getPositionQuantity asset)

/-- The fills of the ledger are multiples of the step. -/
def Portfolio.Stepped (step : ℚ) (portfolio : Portfolio) : Prop :=
  ∀ event ∈ portfolio.tradeHistory, event.action ≠ .fundingSettlement →
    event.quantity ∈ AddSubgroup.zmultiples step

section

variable {tolerance step : ℚ} {digest : ℕ → TradeEvent → String} {portfolio later : Portfolio}
  {attribution : Attribution} {asset : String} {event : TradeEvent}
  (nonnegative : 0 ≤ tolerance) (wide : tolerance < step)
  (follows : attribution.Follows step portfolio) (records : portfolio.Records later asset event)
  (stepped : event.action ≠ .fundingSettlement → event.quantity ∈ AddSubgroup.zmultiples step)

include nonnegative wide follows records stepped in
theorem attributes_of_records (sequence : ℕ) :
    attribution.Attributes tolerance step digest asset (event, sequence)
      (later.getPositionQuantity asset) := by
  have mirrored := follows.mirrored event.timestampMs records.late asset
  have moves := records.moves
  unfold Portfolio.Moves at moves
  split_ifs at moves with settlement opening
  · rw [moves.2]
    exact attributes_settlement nonnegative wide records.valid settlement mirrored
      moves.1
  · rw [moves.2]
    exact attributes_opening records.valid opening mirrored moves.1
      (stepped settlement)
  · have closing := TradeAction.closing_of_not_opening settlement (by simpa using opening)
    rw [moves.2]
    exact attributes_closing nonnegative wide records.valid closing mirrored
      moves.1.1 moves.1.2 (stepped settlement)

include nonnegative wide follows records stepped in
theorem Attribution.Follows.advance (sequence : ℕ) : ∃ next, attribution.step tolerance digest (event, sequence) = .ok next ∧
      next.Follows step later ∧ ∀ weights : Weights, weights.Balanced digest →
        weights.total next = weights.total attribution + weights.event (event, sequence) := by
  obtain ⟨kept, trips, attributed, mirrored, weighed⟩ : attribution.Attributes tolerance step
      digest asset (event, sequence) (later.getPositionQuantity asset) :=
    attributes_of_records nonnegative wide follows records stepped sequence
  refine ⟨attribution.put asset kept trips, ?_,
    ⟨follows.distinct.insert (asset, kept), fun untilMs reached other => ?_⟩,
    fun weights balanced => ?_⟩
  · unfold Attribution.step
    rw [records.recorded]
    simp only [refuse_of_not (Bool.eq_false_iff.mp records.named), attributed, bind, Except.bind]
  · have late : event.timestampMs ≤ untilMs := reached event (by rw [records.history]; simp)
    rw [lots_put]
    by_cases same : other = asset
    · rw [if_pos same, same]
      exact mirrored.later late
    · rw [if_neg same, records.others other same]
      exact follows.mirrored untilMs (fun last own => (records.late last own).trans late) other
  · have moved : weights.total (attribution.put asset kept trips) + _ = _ :=
      total_put weights follows.distinct kept trips
    linear_combination moved + weighed weights balanced

/-- A ledger of multiples of the step is attributed: the lots follow the positions, and lots and
trips have what the events brought. -/
def Portfolio.Attributed (tolerance step : ℚ) (digest : ℕ → TradeEvent → String)
    (portfolio : Portfolio) : Prop :=
  portfolio.Stepped step → ∃ attribution,
    (portfolio.tradeHistory.zipIdx 1).foldlM (Attribution.step tolerance digest) {} =
      .ok attribution ∧
    attribution.Follows step portfolio ∧ ∀ weights : Weights, weights.Balanced digest →
      weights.total attribution = ((portfolio.tradeHistory.zipIdx 1).map weights.event).sum

theorem Portfolio.Attributed.advance (nonnegative : 0 ≤ tolerance) (wide : tolerance < step)
    (attributed : portfolio.Attributed tolerance step digest)
    (records : portfolio.Records later asset event) :
    later.Attributed tolerance step digest := by
  intro stepped
  obtain ⟨attribution, folded, follows, weighed⟩ := attributed fun other member =>
    stepped other (records.history ▸ List.mem_append_left _ member)
  have last : event ∈ later.tradeHistory := by
    rw [records.history]
    exact List.mem_append_right _ (List.mem_singleton_self event)
  obtain ⟨next, turned, followed, moved⟩ : ∃ next, attribution.step tolerance digest (event, _) =
      .ok next ∧ _ := follows.advance nonnegative wide records (stepped event last)
        (1 + portfolio.tradeHistory.length)
  refine ⟨next, ?_, followed, fun weights balanced => ?_⟩
  · rw [records.history, List.zipIdx_append, List.foldlM_append, folded]
    exact (bind_pure _).trans turned
  · rw [records.history, List.zipIdx_append, List.map_append, List.sum_append,
      moved weights balanced, weighed weights balanced]
    simp

theorem Portfolio.attributed_new (initialCash : ℚ) :
    (Portfolio.mk initialCash [] []).Attributed tolerance step digest := by
  refine fun _ => ⟨{}, rfl, ⟨distinct_nil, fun untilMs _ asset =>
    ⟨fun _ member => (List.not_mem_nil member).elim, .openLong,
      fun _ member => (List.not_mem_nil member).elim, ?_⟩⟩, fun weights _ => ?_⟩
  · exact (mul_zero _).symm
  · exact add_zero _

theorem Portfolio.attributed_after (nonnegative : 0 ≤ tolerance) (wide : tolerance < step)
    (initialCash : ℚ) (calls : List LedgerCall) :
    ((Portfolio.mk initialCash [] []).after calls).Attributed tolerance step digest := by
  refine after_keeps (fun call portfolio later event earlier accepted => ?_)
    (attributed_new initialCash) calls
  obtain ⟨applied, -⟩ := LedgerCall.apply_of_accepted accepted
  obtain ⟨asset, recorded, records⟩ := records_apply applied
  exact earlier.advance nonnegative wide records

/-- What the fills of a ledger realised and what its positions are worth come to what its events
moved. -/
def Portfolio.Realizes (portfolio : Portfolio) : Prop :=
  Distinct Position.asset portfolio.positions ∧
    (portfolio.tradeHistory.map TradeEvent.realizedPnlUsdt).sum + portfolio.worth =
      ((portfolio.tradeHistory.zipIdx 1).map grossWeights.event).sum

theorem Portfolio.realizes_after (initialCash : ℚ) (calls : List LedgerCall) :
    ((Portfolio.mk initialCash [] []).after calls).Realizes := by
  refine after_keeps (fun call portfolio later event earlier accepted => ?_)
    ⟨distinct_nil, add_zero _⟩ calls
  obtain ⟨applied, -⟩ := LedgerCall.apply_of_accepted accepted
  obtain ⟨asset, recorded, records⟩ := records_apply applied
  refine ⟨LedgerCall.apply_distinct applied earlier.1, ?_⟩
  have moved := records.realized earlier.1 (1 + portfolio.tradeHistory.length)
  rw [records.history, List.zipIdx_append, List.map_append, List.sum_append, List.map_append,
    List.sum_append, ← earlier.2]
  simp only [List.map_singleton, List.sum_singleton, List.zipIdx_singleton]
  linear_combination moved

/-! ### A flat ledger -/

/-- No asset is held. -/
def Portfolio.Flat (portfolio : Portfolio) : Prop :=
  ∀ asset, portfolio.getPositionQuantity asset = 0

theorem Portfolio.Flat.worth (flat : portfolio.Flat) : portfolio.worth = 0 := by
  have none : portfolio.positions = [] := by
    refine List.eq_nil_iff_forall_not_mem.mpr fun position member => ?_
    have quantity := flat position.asset
    rw [getPositionQuantity_eq] at quantity
    cases found : portfolio.position position.asset with
    | none => exact lookup_eq_none.mp found position member rfl
    | some held =>
      rw [found] at quantity
      exact held.nonzero quantity
  rw [Portfolio.worth, none]
  rfl

theorem Attribution.Follows.total (follows : attribution.Follows step portfolio)
    (flat : portfolio.Flat) (weights : Weights) :
    weights.total attribution = weights.trips attribution.result := by
  have moment : ∃ untilMs, ∀ last ∈ portfolio.tradeHistory.getLast?,
      last.timestampMs ≤ untilMs := by
    cases portfolio.tradeHistory.getLast? with
    | none => exact ⟨0, fun _ member => by cases member⟩
    | some last => exact ⟨last.timestampMs, fun _ member => by cases member; exact le_refl _⟩
  obtain ⟨untilMs, reached⟩ := moment
  have empty : attribution.lotsByAsset.map (fun entry => weights.lots entry.2) =
      attribution.lotsByAsset.map fun _ => 0 := by
    refine List.map_congr_left fun entry member => ?_
    have mirrored := follows.mirrored untilMs reached entry.1
    rw [flat entry.1, lots, follows.distinct.lookup_of_mem member] at mirrored
    have none : entry.2 = [] := mirrored.flat
    rw [none]
    rfl
  rw [Weights.total, empty, List.sum_map_zero, add_zero]

structure Conserves (digest : ℕ → TradeEvent → String) (events : List TradeEvent)
    (trips : List RoundTripAttribution) : Prop where
  gross : (trips.map fun trip => trip.grossRealizedPnlUsdt).sum =
    (events.map TradeEvent.realizedPnlUsdt).sum
  fees : (trips.map fun trip => trip.entryFeeUsdt + trip.exitFeeUsdt).sum =
    (events.map TradeEvent.feeUsdt).sum
  funding : (trips.map fun trip => trip.fundingUsdt).sum = (events.map TradeEvent.fundingUsdt).sum
  opened : ∀ entry ∈ events.zipIdx 1, entry.1.action.opening = true →
    ((trips.filter fun trip => trip.entryEventId = ledgerEventId digest entry).map
      fun trip => trip.quantity).sum = entry.1.quantity
  closed : ∀ entry ∈ events.zipIdx 1, entry.1.action.closing = true →
    ((trips.filter fun trip => trip.exitEventId = ledgerEventId digest entry).map
      fun trip => trip.quantity).sum = entry.1.quantity
  fills : ∀ trip ∈ trips,
    (∃ entry ∈ events.zipIdx 1, entry.1.action.opening = true ∧
        trip.entryEventId = ledgerEventId digest entry) ∧
      ∃ entry ∈ events.zipIdx 1, entry.1.action.closing = true ∧
        trip.exitEventId = ledgerEventId digest entry

def TellsApart (digest : ℕ → TradeEvent → String) (events : List TradeEvent) : Prop :=
  Set.InjOn (fun entry : TradeEvent × ℕ => digest entry.2 entry.1)
    {entry | entry ∈ events.zipIdx 1}

variable {events : List TradeEvent}

theorem entryId_injOn (apart : TellsApart digest events) :
    Set.InjOn (ledgerEventId digest) {entry | entry ∈ events.zipIdx 1} :=
  fun _ own _ other same => apart own other ((String.append_right_inj _).mp same)

theorem sum_map_of_single {Entry : Type*} [DecidableEq Entry] {entries : List Entry}
    (distinct : entries.Nodup) {entry : Entry} (member : entry ∈ entries) (weight : Entry → ℚ)
    (others : ∀ other ≠ entry, other ∈ entries → weight other = 0) :
    (entries.map weight).sum = weight entry := by
  rw [List.sum_map_eq_nsmul_single entry weight others,
    List.count_eq_one_of_mem distinct member, one_nsmul]

theorem sum_of_id (apart : TellsApart digest events) {entry : TradeEvent × ℕ}
    (member : entry ∈ events.zipIdx 1) (kind : TradeAction → Bool)
    (own : kind entry.1.action = true) :
    ((events.zipIdx 1).map fun other => if kind other.1.action = true ∧
        ledgerEventId digest other = ledgerEventId digest entry
      then other.1.quantity else 0).sum = entry.1.quantity := by
  have distinct : (events.zipIdx 1).Nodup := List.Nodup.of_map Prod.snd (by
    rw [List.zipIdx_map_snd]
    exact List.nodup_range')
  exact (sum_map_of_single distinct member _ fun other different mine => if_neg fun same =>
    different (entryId_injOn apart mine member same.2)).trans (if_pos ⟨own, rfl⟩)

variable {trips : List RoundTripAttribution}

theorem exists_of_trip (weights : Weights)
    {events : List (TradeEvent × ℕ)} (nonnegative : ∀ trip : RoundTripAttribution,
      0 ≤ weights.trip trip.toRoundTripFields)
    (conserved : weights.trips trips = (events.map weights.event).sum)
    {trip : RoundTripAttribution} (member : trip ∈ trips)
    (some : 0 < weights.trip trip.toRoundTripFields) :
    ∃ entry ∈ events, weights.event entry ≠ 0 := by
  have most : weights.trip trip.toRoundTripFields ≤ weights.trips trips :=
    List.single_le_sum (by simpa using fun other _ => nonnegative other) _
      (List.mem_map_of_mem member)
  have brought : (events.map weights.event).sum ≠ 0 := by
    rw [← conserved]
    exact (some.trans_le most).ne'
  obtain ⟨value, own, nonzero⟩ := List.exists_mem_ne_zero_of_sum_ne_zero brought
  obtain ⟨entry, mine, rfl⟩ := List.mem_map.mp own
  exact ⟨entry, mine, nonzero⟩

theorem conserves_of_weights (apart : TellsApart digest events)
    (realized : (events.map TradeEvent.realizedPnlUsdt).sum =
      ((events.zipIdx 1).map grossWeights.event).sum)
    (conserved : ∀ weights : Weights, weights.Balanced digest →
      weights.trips trips = ((events.zipIdx 1).map weights.event).sum) :
    Conserves digest events trips := by
  have numbered (value : TradeEvent → ℚ) :
      ((events.zipIdx 1).map fun entry => value entry.1).sum = (events.map value).sum := by
    rw [← Function.comp_def, ← List.map_map, List.zipIdx_map_fst]
  have filtered (same : RoundTripAttribution → Prop) [DecidablePred same] :
      ((trips.filter same).map fun trip => trip.quantity).sum =
        (trips.map fun trip => if same trip then trip.quantity else 0).sum := by
    rw [List.sum_map_ite, List.sum_map_zero, add_zero]
  refine ⟨?_, ?_, ?_, fun entry member opening => ?_, fun entry member closing => ?_,
    fun trip member => ⟨?_, ?_⟩⟩
  · exact (conserved grossWeights grossWeights_balanced).trans realized.symm
  · exact (conserved feeWeights feeWeights_balanced).trans (numbered TradeEvent.feeUsdt)
  · exact (conserved fundingWeights fundingWeights_balanced).trans
      (numbered TradeEvent.fundingUsdt)
  · rw [filtered]
    exact (conserved _ (entryWeights_balanced (ledgerEventId digest entry))).trans
      (sum_of_id apart member TradeAction.opening opening)
  · rw [filtered]
    exact (conserved _ (exitWeights_balanced (ledgerEventId digest entry))).trans
      (sum_of_id apart member TradeAction.closing closing)
  · have some : 0 < (entryWeights digest trip.entryEventId).trip trip.toRoundTripFields := by
      simpa [entryWeights] using trip.valued.1
    obtain ⟨entry, mine, nonzero⟩ := exists_of_trip (entryWeights digest trip.entryEventId)
      (fun other => ite_nonneg other.valued.1.le le_rfl)
      (conserved _ (entryWeights_balanced trip.entryEventId)) member some
    have own := of_not_not fun other => nonzero (if_neg other)
    exact ⟨entry, mine, own.1, own.2.symm⟩
  · have some : 0 < (exitWeights digest trip.exitEventId).trip trip.toRoundTripFields := by
      simpa [exitWeights] using trip.valued.1
    obtain ⟨entry, mine, nonzero⟩ := exists_of_trip (exitWeights digest trip.exitEventId)
      (fun other => ite_nonneg other.valued.1.le le_rfl)
      (conserved _ (exitWeights_balanced trip.exitEventId)) member some
    have own := of_not_not fun other => nonzero (if_neg other)
    exact ⟨entry, mine, own.1, own.2.symm⟩

end

/-- Every ledger of a new portfolio that ends flat, with quantities that are multiples of a step
above the tolerance, is attributed to round trips that account for it. -/
theorem round_trips_conserve {digest : ℕ → TradeEvent → String}
    {tolerance step initialCash : ℚ} {opened : Portfolio}
    (created : Portfolio.create initialCash = .ok opened) (calls : List LedgerCall)
    (nonnegative : 0 ≤ tolerance) (wide : tolerance < step)
    (stepped : (opened.after calls).Stepped step) (flat : (opened.after calls).Flat)
    (apart : TellsApart digest (opened.after calls).tradeHistory) :
    ∃ trips, attributeRoundTrips tolerance digest (opened.after calls).tradeHistory = .ok trips ∧
      Conserves digest (opened.after calls).tradeHistory trips := by
  obtain ⟨-, fresh⟩ := refuse_bind_eq_ok.mp created
  cases fresh
  obtain ⟨attribution, folded, follows, weighed⟩ :=
    Portfolio.attributed_after nonnegative wide initialCash calls stepped
  have realized := (Portfolio.realizes_after initialCash calls).2
  rw [flat.worth, add_zero] at realized
  refine ⟨attribution.result, ?_, conserves_of_weights apart realized fun weights balanced => ?_⟩
  · unfold attributeRoundTrips
    rw [folded]
    rfl
  · rw [← follows.total flat weights]
    exact weighed weights balanced

/-- Two opened in two fills, a settlement, and two closes, the first across both lots. -/
def scaledOut : List LedgerCall :=
  [.trade ⟨1, .openLong, "BTC", 100, 1, 1, "", "", none, none, none, none, []⟩,
    .trade ⟨2, .openLong, "BTC", 130, 2, 2, "", "", none, none, none, none, []⟩,
    .funding 3 "BTC" (-3) 120,
    .trade ⟨4, .closeLong, "BTC", 140, 2, 1, "", "", none, none, none, none, []⟩,
    .trade ⟨5, .closeLong, "BTC", 90, 1, 1, "", "", none, none, none, none, []⟩]

theorem round_trips_conserve_scaledOut : ∃ trips,
    attributeRoundTrips accountingTolerance (fun sequence _ => toString sequence)
      ((Portfolio.mk 1000 [] []).after scaledOut).tradeHistory = .ok trips ∧
    Conserves (fun sequence _ => toString sequence)
      ((Portfolio.mk 1000 [] []).after scaledOut).tradeHistory trips := by
  have created : Portfolio.create 1000 = .ok (Portfolio.mk 1000 [] []) := by decide +kernel
  refine round_trips_conserve created scaledOut (by norm_num [accountingTolerance])
    (by norm_num [accountingTolerance] : accountingTolerance < 1) ?_ ?_ ?_
  · have whole : ∀ event ∈ ((Portfolio.mk 1000 [] []).after scaledOut).tradeHistory,
        ((event.quantity.num : ℚ) = event.quantity) := by decide +kernel
    intro event member _
    exact AddSubgroup.mem_zmultiples_iff.mpr ⟨event.quantity.num, by
      rw [zsmul_eq_mul, mul_one, whole event member]⟩
  · have none : ((Portfolio.mk 1000 [] []).after scaledOut).positions = [] := by decide +kernel
    intro asset
    rw [Portfolio.getPositionQuantity_eq, Portfolio.position, none]
    rfl
  · have apart : ∀ entry ∈ ((Portfolio.mk 1000 [] []).after scaledOut).tradeHistory.zipIdx 1,
        ∀ other ∈ ((Portfolio.mk 1000 [] []).after scaledOut).tradeHistory.zipIdx 1,
          toString entry.2 = toString other.2 → entry = other := by decide +kernel
    exact fun entry own other mine same => apart entry own other mine same

end QuantAgent.Economic
