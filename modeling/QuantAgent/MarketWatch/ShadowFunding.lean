/-
This file proves what it means that the funding of a shadow trade is complete. The fill and the exit
are known up to an interval each, which may overlap. Complete funding leaves nothing open: whatever
the true times are, the same records fall into the holding period, each with a mark price, and the
total is what they pay.

The accounting goes through the records as they come. It does not sort them, and a record that
stands twice pays twice.
-/

import QuantAgent.MarketWatch.ShadowEvaluations

namespace QuantAgent.MarketWatch.Shadow

/-! ### What a record pays -/

def cashOf (isLong : Bool) (record : FundingRow) : ℚ :=
  (if isLong then -record.markPrice.getD 0 else record.markPrice.getD 0) * record.fundingRate

/-- The record falls into the holding period. -/
def HeldBetween (fillTime exitTime : ℤ) (record : FundingRow) : Prop :=
  fillTime ≤ record.fundingTimeMs ∧ record.fundingTimeMs ≤ exitTime

instance (fillTime exitTime : ℤ) : DecidablePred (HeldBetween fillTime exitTime) := fun _ =>
  inferInstanceAs (Decidable (_ ∧ _))

/-- The record lies between the two intervals. -/
def FundingWindow.Proven (window : FundingWindow) (record : FundingRow) : Prop :=
  window.fillEnd < record.fundingTimeMs ∧ record.fundingTimeMs < window.exitStart

instance (window : FundingWindow) : DecidablePred window.Proven := fun _ =>
  inferInstanceAs (Decidable (_ ∧ _))

inductive FundingWindow.Certain (window : FundingWindow) (record : FundingRow) : Prop where
  | before (early : record.fundingTimeMs < window.fillStart)
  | held (proven : window.Proven record) (marked : ∃ mark ∈ record.markPrice, 0 < mark)
  | after (filled : window.fillEnd < record.fundingTimeMs)
      (late : window.exitEnd < record.fundingTimeMs)
      (exited : window.exitStart ≤ record.fundingTimeMs)

def FundingSettlement.Settles (settlement : FundingSettlement) : Prop :=
  settlement.status ≠ .unsettled .ambiguousFillBoundary ∧
    settlement.status ≠ .unsettled .ambiguousExitBoundary ∧
    settlement.status ≠ .unsettled .incompleteMarkPrice

section

variable {isLong : Bool} {initialRisk : ℚ} {window : FundingWindow} {record : FundingRow}

theorem not_certain_of_open (started : window.fillStart ≤ record.fundingTimeMs)
    (proven : ¬ (window.Proven record ∧ ∃ mark ∈ record.markPrice, 0 < mark))
    (remains : record.fundingTimeMs ≤ window.fillEnd ∨ record.fundingTimeMs < window.exitStart ∨
      record.fundingTimeMs ≤ window.exitEnd) : ¬ window.Certain record := by
  rintro (early | ⟨inside, marked⟩ | ⟨filled, late, exited⟩)
  · omega
  · exact proven ⟨inside, marked⟩
  · omega

theorem settles_iff_certain :
    (∀ settlement ∈ settlementOf isLong initialRisk window record, settlement.Settles) ↔
      window.Certain record := by
  have fails (status : FundingStatus) (isOpen : Bool) (markPrice : Option ℚ)
      (named : status = .ambiguousFillBoundary ∨ status = .ambiguousExitBoundary ∨
        status = .incompleteMarkPrice) :
      ¬ ∀ settlement ∈ some (⟨record.fundingTimeMs, record.fundingRate, markPrice, none, none,
        isOpen, .unsettled status⟩ : FundingSettlement), settlement.Settles := by
    intro all
    obtain ⟨fill, exit, mark⟩ := all _ rfl
    rcases named with rfl | rfl | rfl
    · exact fill rfl
    · exact exit rfl
    · exact mark rfl
  unfold settlementOf
  dsimp only
  by_cases early : record.fundingTimeMs < window.fillStart
  · rw [if_pos early]
    exact ⟨fun _ => .before early, fun _ => nofun⟩
  rw [if_neg early]
  by_cases filling : record.fundingTimeMs ≤ window.fillEnd
  · rw [if_pos filling]
    refine iff_of_false (fails _ _ _ (Or.inl rfl))
      (not_certain_of_open (by omega) ?_ (Or.inl filling))
    rintro ⟨⟨filled, -⟩, -⟩
    omega
  rw [if_neg filling]
  by_cases holding : record.fundingTimeMs < window.exitStart
  · rw [if_pos holding]
    have proven : window.Proven record := ⟨by omega, holding⟩
    cases marked : record.markPrice with
    | none =>
      refine iff_of_false (fails _ _ _ (by simp)) (not_certain_of_open (by omega) ?_ (by omega))
      rintro ⟨-, mark, own, -⟩
      rw [marked] at own
      cases own
    | some mark =>
      dsimp only
      by_cases worthless : mark ≤ 0
      · rw [if_pos worthless]
        refine iff_of_false (fails _ _ _ (by simp)) (not_certain_of_open (by omega) ?_ (by omega))
        rintro ⟨-, other, own, positive⟩
        rw [marked, Option.mem_some_iff] at own
        exact absurd (own ▸ positive) (not_lt.mpr worthless)
      · rw [if_neg worthless]
        refine iff_of_true ?_ (.held proven ⟨mark, marked, not_le.mp worthless⟩)
        intro settlement own
        obtain rfl := Option.some.inj own
        exact ⟨nofun, nofun, nofun⟩
  rw [if_neg holding]
  by_cases exiting : record.fundingTimeMs ≤ window.exitEnd
  · rw [if_pos exiting]
    refine iff_of_false (fails _ _ _ (by simp)) (not_certain_of_open (by omega) ?_ (by omega))
    rintro ⟨⟨-, before⟩, -⟩
    omega
  · rw [if_neg exiting]
    exact ⟨fun _ => .after (by omega) (by omega) (by omega), fun _ => nofun⟩

/-- A record about which nothing is open pays exactly when it is held. -/
theorem settlementOf_cash (ordered : window.fillStart ≤ window.fillEnd)
    (certain : window.Certain record) :
    (settlementOf isLong initialRisk window record).bind FundingSettlement.fundingCash =
      if window.Proven record then some (cashOf isLong record) else none := by
  unfold settlementOf
  dsimp only
  rcases certain with early | ⟨⟨filled, before⟩, mark, marked, positive⟩ | ⟨filled, late, exited⟩
  · have outside : ¬ window.Proven record := fun proven => by
      have := proven.1
      omega
    rw [if_pos early, if_neg outside]
    rfl
  · have own : record.markPrice = some mark := marked
    have cash : cashOf isLong record = (if isLong then -mark else mark) * record.fundingRate := by
      unfold cashOf
      rw [own]
      rfl
    rw [if_neg (by omega), if_neg (by omega), if_pos before, if_pos ⟨filled, before⟩, own]
    dsimp only
    rw [if_neg (not_le.mpr positive), cash]
    rfl
  · have outside : ¬ window.Proven record := fun proven => by
      have := proven.2
      omega
    rw [if_neg outside]
    rw [if_neg (by omega), if_neg (by omega), if_neg (by omega), if_neg (by omega)]
    rfl

end

/-! ### The accounting of the settlements -/

section

variable {initialRisk : ℚ} {settlements others : List FundingSettlement}

theorem accountSettlements_complete_iff :
    (accountSettlements initialRisk settlements).fundingStatus = .complete ↔
      ∀ settlement ∈ settlements, settlement.Settles := by
  have open_iff (status : FundingStatus) :
      (settlements.any fun settlement => settlement.status = .unsettled status) = true ↔
        ∃ settlement ∈ settlements, settlement.status = .unsettled status := by
    simp
  unfold accountSettlements
  dsimp only
  simp only [open_iff]
  by_cases fill : ∃ settlement ∈ settlements, settlement.status = .unsettled .ambiguousFillBoundary
  · rw [if_pos fill]
    obtain ⟨settlement, own, unsettled⟩ := fill
    exact iff_of_false nofun fun all => (all settlement own).1 unsettled
  rw [if_neg fill]
  by_cases exit : ∃ settlement ∈ settlements, settlement.status = .unsettled .ambiguousExitBoundary
  · rw [if_pos exit]
    obtain ⟨settlement, own, unsettled⟩ := exit
    exact iff_of_false nofun fun all => (all settlement own).2.1 unsettled
  rw [if_neg exit]
  by_cases mark : ∃ settlement ∈ settlements, settlement.status = .unsettled .incompleteMarkPrice
  · rw [if_pos mark]
    obtain ⟨settlement, own, unsettled⟩ := mark
    exact iff_of_false nofun fun all => (all settlement own).2.2 unsettled
  · rw [if_neg mark]
    exact iff_of_true rfl fun settlement own => ⟨fun same => fill ⟨_, own, same⟩,
      fun same => exit ⟨_, own, same⟩, fun same => mark ⟨_, own, same⟩⟩

theorem accountSettlements_total
    (complete : (accountSettlements initialRisk settlements).fundingStatus = .complete) :
    (accountSettlements initialRisk settlements).fundingCashTotal =
      some (settlements.filterMap FundingSettlement.fundingCash).sum := by
  unfold accountSettlements at complete ⊢
  dsimp only at complete ⊢
  split_ifs at complete ⊢ <;> rfl

theorem accountSettlements_settlements :
    (accountSettlements initialRisk settlements).settlements = settlements := by
  unfold accountSettlements
  dsimp only
  split_ifs <;> rfl

theorem accountSettlements_status_congr (same : ∀ settlement, settlement ∈ settlements ↔
    settlement ∈ others) :
    (accountSettlements initialRisk settlements).fundingStatus =
      (accountSettlements initialRisk others).fundingStatus := by
  have has (status : FundingStatus) :
      (settlements.any fun settlement => settlement.status = .unsettled status) =
        others.any fun settlement => settlement.status = .unsettled status := by
    rw [Bool.eq_iff_iff, List.any_eq_true, List.any_eq_true]
    simp only [same]
  unfold accountSettlements
  dsimp only
  simp only [has]
  split_ifs <;> rfl

/-- The order of the settlements changes their order alone. -/
theorem accountSettlements_perm (same : settlements.Perm others) :
    accountSettlements initialRisk settlements =
      { accountSettlements initialRisk others with settlements := settlements } := by
  have has (status : FundingStatus) :
      (settlements.any fun settlement => settlement.status = .unsettled status) =
        others.any fun settlement => settlement.status = .unsettled status :=
    same.any_eq
  have cash := (same.filterMap FundingSettlement.fundingCash).sum_eq
  have risk := (same.filterMap FundingSettlement.fundingR).sum_eq
  have empty : settlements.isEmpty = others.isEmpty := by
    rw [Bool.eq_iff_iff, List.isEmpty_iff, List.isEmpty_iff, ← List.length_eq_zero_iff,
      same.length_eq, List.length_eq_zero_iff]
  unfold accountSettlements
  dsimp only
  simp only [has, same.length_eq, cash, risk, empty]
  split_ifs <;> rfl

end

/-! ### The evaluation -/

section

variable {records others : List FundingRow} {window : FundingWindow} {isLong : Bool}

def fundingBetween (direction : Option DirectionalDecision) (fillPrice : Option ℚ) (stopLoss : ℚ)
    (fillTimeMs exitTimeMs : Option ℤ) (fetchError : Bool) (fillStart fillEnd exitStart exitEnd : ℤ)
    (records : List FundingRow) : FundingAccounting :=
  evaluateFundingAccounting direction fillPrice stopLoss fillTimeMs exitTimeMs (some records)
    fetchError (some fillStart) (some fillEnd) (some exitStart) (some exitEnd)

/-- An accounting settles every record by the window, or reads none and is not complete. -/
def FundingWindow.Accounts (window : FundingWindow) (isLong : Bool)
    (accounting : List FundingRow → FundingAccounting) : Prop :=
  (∃ initialRisk, ∀ records, accounting records =
    accountSettlements initialRisk
      (records.filterMap (settlementOf isLong initialRisk window))) ∨
  ∃ unread : FundingAccounting, unread.fundingStatus ≠ .complete ∧
    ∀ records, accounting records = unread

theorem fundingBetween_accounts (direction : Option DirectionalDecision) (fillPrice : Option ℚ)
    (stopLoss : ℚ) (fillTimeMs exitTimeMs : Option ℤ) (fetchError : Bool)
    (fillStart fillEnd exitStart exitEnd : ℤ) :
    FundingWindow.Accounts ⟨fillStart, fillEnd, exitStart, exitEnd⟩ (direction = some .long)
      (fundingBetween direction fillPrice stopLoss fillTimeMs exitTimeMs fetchError fillStart
        fillEnd exitStart exitEnd) := by
  unfold FundingWindow.Accounts fundingBetween evaluateFundingAccounting
  split
  · dsimp only
    split_ifs with risk failed
    · refine Or.inr ⟨_, ?_, fun _ => rfl⟩
      exact nofun
    · refine Or.inr ⟨_, ?_, fun _ => rfl⟩
      exact nofun
    · exact Or.inl ⟨_, fun _ => rfl⟩
  · refine Or.inr ⟨_, ?_, fun _ => rfl⟩
    exact nofun

theorem settles_iff_all_certain {initialRisk : ℚ} :
    (∀ settlement ∈ records.filterMap (settlementOf isLong initialRisk window),
        settlement.Settles) ↔ ∀ record ∈ records, window.Certain record := by
  constructor
  · intro all record own
    exact settles_iff_certain.mp fun settlement made =>
      all settlement (List.mem_filterMap.mpr ⟨record, own, made⟩)
  · intro all settlement own
    obtain ⟨record, inside, made⟩ := List.mem_filterMap.mp own
    exact settles_iff_certain.mpr (all record inside) settlement made

theorem filterMap_cash {initialRisk : ℚ}
    (ordered : window.fillStart ≤ window.fillEnd)
    (certain : ∀ record ∈ records, window.Certain record) :
    (records.filterMap (settlementOf isLong initialRisk window)).filterMap
        FundingSettlement.fundingCash =
      (records.filter fun record => window.Proven record).map (cashOf isLong) := by
  rw [List.filterMap_filterMap]
  induction records with
  | nil => rfl
  | cons record rest inductionHypothesis =>
    obtain ⟨own, others⟩ := List.forall_mem_cons.mp certain
    rw [List.filterMap_cons, settlementOf_cash ordered own, List.filter_cons,
      inductionHypothesis others]
    by_cases proven : window.Proven record
    · rw [if_pos proven, if_pos (decide_eq_true proven), List.map_cons]
    · rw [if_neg proven, if_neg (by simpa using proven)]

/-- Where nothing is open about a record, it is held under any true times exactly when it lies
between the intervals, and it stands at none of the true times. -/
theorem held_iff_proven {record : FundingRow} {fillTime exitTime : ℤ}
    (certain : window.Certain record) (fillFrom : window.fillStart ≤ fillTime)
    (fillTo : fillTime ≤ window.fillEnd) (exitFrom : window.exitStart ≤ exitTime)
    (exitTo : exitTime ≤ window.exitEnd) (chronological : fillTime ≤ exitTime) :
    (HeldBetween fillTime exitTime record ↔ window.Proven record) ∧
      record.fundingTimeMs ≠ fillTime ∧ record.fundingTimeMs ≠ exitTime := by
  unfold HeldBetween FundingWindow.Proven
  rcases certain with early | ⟨⟨filled, before⟩, -⟩ | ⟨filled, late, exited⟩ <;> omega

/-- Whatever the true times are, these records fall into the holding period, and none falls on one
of its ends. -/
def AlwaysHeld (fillStart fillEnd exitStart exitEnd : ℤ) (records held : List FundingRow) : Prop :=
  ∀ fillTime exitTime, fillStart ≤ fillTime → fillTime ≤ fillEnd → exitStart ≤ exitTime →
    exitTime ≤ exitEnd → fillTime ≤ exitTime →
      records.filter (fun record => HeldBetween fillTime exitTime record) = held ∧
        ∀ record ∈ records, record.fundingTimeMs ≠ fillTime ∧ record.fundingTimeMs ≠ exitTime

theorem alwaysHeld_of_certain (certain : ∀ record ∈ records, window.Certain record) :
    AlwaysHeld window.fillStart window.fillEnd window.exitStart window.exitEnd records
      (records.filter fun record => window.Proven record) := by
  intro fillTime exitTime fillFrom fillTo exitFrom exitTo chronological
  have each : ∀ record ∈ records, _ := fun record own =>
    held_iff_proven (certain record own) fillFrom fillTo exitFrom exitTo chronological
  exact ⟨List.filter_congr fun record own => decide_eq_decide.mpr (each record own).1,
    fun record own => (each record own).2⟩

variable {accounting : List FundingRow → FundingAccounting}

theorem complete_certain (accounts : window.Accounts isLong accounting)
    (ordered : window.fillStart ≤ window.fillEnd)
    (complete : (accounting records).fundingStatus = .complete) :
    ∃ held, AlwaysHeld window.fillStart window.fillEnd window.exitStart window.exitEnd records
        held ∧
      (∀ record ∈ held, ∃ mark ∈ record.markPrice, 0 < mark) ∧
      (accounting records).fundingCashTotal = some (held.map (cashOf isLong)).sum ∧
      (held.Nodup → (held.map (cashOf isLong)).sum =
        ∑ record ∈ held.toFinset, cashOf isLong record) := by
  obtain ⟨initialRisk, accounted⟩ | ⟨unread, incomplete, same⟩ := accounts
  · rw [accounted] at complete ⊢
    have certain := settles_iff_all_certain.mp (accountSettlements_complete_iff.mp complete)
    refine ⟨_, alwaysHeld_of_certain certain, ?_, ?_, ?_⟩
    · intro record own
      obtain ⟨inside, proven⟩ := List.mem_filter.mp own
      have between := of_decide_eq_true proven
      rcases certain record inside with early | ⟨-, marked⟩ | ⟨-, -, exited⟩
      · have := between.1
        omega
      · exact marked
      · have := between.2
        omega
    · rw [accountSettlements_total complete, filterMap_cash ordered certain]
    · intro distinct
      rw [List.sum_toFinset _ distinct]
  · rw [same] at complete
    exact absurd complete incomplete

theorem fundingStatus_congr (accounts : window.Accounts isLong accounting)
    (same : ∀ record, record ∈ others ↔ record ∈ records) :
    (accounting others).fundingStatus = (accounting records).fundingStatus := by
  obtain ⟨initialRisk, accounted⟩ | ⟨unread, -, unreads⟩ := accounts
  · rw [accounted, accounted]
    refine accountSettlements_status_congr fun settlement => ?_
    rw [List.mem_filterMap, List.mem_filterMap]
    simp only [same]
  · rw [unreads, unreads]

/-- The order of the records is that of the settlements, and changes nothing else. -/
theorem accounting_perm (accounts : window.Accounts isLong accounting)
    (same : others.Perm records) :
    ∃ settlements, settlements.Perm (accounting records).settlements ∧
      accounting others = { accounting records with settlements := settlements } := by
  obtain ⟨initialRisk, accounted⟩ | ⟨unread, -, unreads⟩ := accounts
  · rw [accounted, accounted, accountSettlements_settlements]
    exact ⟨_, same.filterMap _, accountSettlements_perm (same.filterMap _)⟩
  · rw [unreads, unreads]
    exact ⟨_, List.Perm.refl _, rfl⟩

end

/-- Complete funding is certain: under all true times the same records are held, each has a positive
mark price, and the total is what they pay, so that each settlement counts once when none of them
stands twice. The order and the repetition of records do not change the status, and the order
changes nothing but the order of the settlements. -/
theorem funding_settled_when_certain (direction : Option DirectionalDecision)
    (fillPrice : Option ℚ) (stopLoss : ℚ) (fillTimeMs exitTimeMs : Option ℤ) (fetchError : Bool)
    (fillStart fillEnd exitStart exitEnd : ℤ) (records : List FundingRow)
    (ordered : fillStart ≤ fillEnd) :
    let accounting := fundingBetween direction fillPrice stopLoss fillTimeMs exitTimeMs fetchError
      fillStart fillEnd exitStart exitEnd
    let cash := cashOf (direction = some .long)
    ((accounting records).fundingStatus = .complete →
      ∃ held, AlwaysHeld fillStart fillEnd exitStart exitEnd records held ∧
        (∀ record ∈ held, ∃ mark ∈ record.markPrice, 0 < mark) ∧
        (accounting records).fundingCashTotal = some (held.map cash).sum ∧
        (held.Nodup → (held.map cash).sum = ∑ record ∈ held.toFinset, cash record)) ∧
    (∀ others : List FundingRow, (∀ record, record ∈ others ↔ record ∈ records) →
      (accounting others).fundingStatus = (accounting records).fundingStatus) ∧
    ∀ others : List FundingRow, others.Perm records →
      ∃ settlements, settlements.Perm (accounting records).settlements ∧
        accounting others = { accounting records with settlements := settlements } :=
  have accounts := fundingBetween_accounts direction fillPrice stopLoss fillTimeMs exitTimeMs
    fetchError fillStart fillEnd exitStart exitEnd
  ⟨complete_certain accounts ordered, fun _ => fundingStatus_congr accounts,
    fun _ => accounting_perm accounts⟩

/-! ### A settlement that stands twice -/

def morningFunding : FundingRow := ⟨100, 1 / 10000, some 50000⟩

def noonFunding : FundingRow := ⟨150, 1 / 10000, some 50000⟩

/-- A long trade that is filled by 60 and ends from 200 on. -/
def longFunding : List FundingRow → FundingAccounting :=
  fundingBetween (some .long) (some 50000) 49000 (some 60) (some 260) false 0 60 200 260

/-- A settlement within the holding period is paid once. -/
theorem longFunding_settled :
    (longFunding [morningFunding]).fundingStatus = .complete ∧
      ∃ held, AlwaysHeld 0 60 200 260 [morningFunding] held ∧
        (∀ record ∈ held, ∃ mark ∈ record.markPrice, 0 < mark) ∧
        (longFunding [morningFunding]).fundingCashTotal = some (held.map (cashOf true)).sum ∧
        (held.Nodup →
          (held.map (cashOf true)).sum = ∑ record ∈ held.toFinset, cashOf true record) :=
  have complete : (longFunding [morningFunding]).fundingStatus = .complete := by decide +kernel
  ⟨complete, (funding_settled_when_certain (some .long) (some 50000) 49000 (some 60) (some 260)
    false 0 60 200 260 [morningFunding] (by decide)).1 complete⟩

/-- A settlement that stands twice is paid twice, and the settlements stand in the order of the
records. -/
theorem longFunding_repeated :
    (longFunding [morningFunding, morningFunding]).fundingStatus = .complete ∧
      (longFunding [morningFunding, morningFunding]).fundingCashTotal = some (-10) ∧
      ∑ record ∈ [morningFunding, morningFunding].toFinset, cashOf true record = -5 ∧
      longFunding [morningFunding, morningFunding] ≠ longFunding [morningFunding] ∧
      longFunding [morningFunding, noonFunding] ≠ longFunding [noonFunding, morningFunding] := by
  refine ⟨by decide +kernel, by decide +kernel, ?_, by decide +kernel, by decide +kernel⟩
  have single : [morningFunding, morningFunding].toFinset = {morningFunding} := by decide +kernel
  rw [single, Finset.sum_singleton]
  decide +kernel

end QuantAgent.MarketWatch.Shadow
