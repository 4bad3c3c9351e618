/-
This file shows that a compiled proposal keeps every cap of the policy: what it can lose from any
price of its entry range stays within the caps on a loss, its notional within those on exposure,
margin and liquidity, and no advice raises it.
-/

import QuantAgent.Decision.Totality

namespace QuantAgent.Decision

variable {Hash : Type}

/-! ### The edge of the entry range loses most -/

theorem abs_sub_div_of_le {price stop : ℚ} (positive : 0 < price) (below : stop ≤ price) :
    |price - stop| / price = 1 - stop / price := by
  rw [abs_of_nonneg (sub_nonneg.mpr below), sub_div, div_self positive.ne']

theorem abs_sub_div_of_ge {price stop : ℚ} (positive : 0 < price) (above : price ≤ stop) :
    |price - stop| / price = stop / price - 1 := by
  rw [abs_of_nonpos (sub_nonpos.mpr above), neg_sub, sub_div, div_self positive.ne']

variable {case : CasePackage Hash}

theorem CasePackage.Geometry.entryLow_pos (geometry : case.Geometry) :
    0 < case.entryLow := by
  unfold CasePackage.Geometry at geometry
  split_ifs at geometry with long
  · exact geometry.1.trans geometry.2.1
  · obtain ⟨positive, ordered, below, -⟩ := geometry
    exact (positive.trans_le ordered).trans below

theorem CasePackage.entryEdge_mem (case : CasePackage Hash) :
    case.entryLow ≤ case.entryEdge ∧ case.entryEdge ≤ case.entryHigh := by
  unfold CasePackage.entryEdge
  split
  · exact ⟨case.entryRange, le_rfl⟩
  · exact ⟨le_rfl, case.entryRange⟩

theorem CasePackage.Geometry.lossRateAt_le (geometry : case.Geometry) (policy : RiskPolicy)
    {price : ℚ} (low : case.entryLow ≤ price) (high : price ≤ case.entryHigh) :
    lossRateAt policy case.fundingRate price case.stopLoss ≤
      lossRateAt policy case.fundingRate case.entryEdge case.stopLoss := by
  have lowPositive : 0 < case.entryLow := geometry.entryLow_pos
  have positive : 0 < price := lowPositive.trans_le low
  have stopNonneg := case.stopLossNonneg
  unfold CasePackage.Geometry at geometry
  unfold lossRateAt CasePackage.entryEdge
  refine add_le_add ?_ le_rfl
  split_ifs at geometry ⊢ with long
  · obtain ⟨-, below, -⟩ := geometry
    have highPositive : 0 < case.entryHigh := positive.trans_le high
    have closer : case.stopLoss / case.entryHigh ≤ case.stopLoss / price :=
      div_le_div_of_nonneg_left stopNonneg positive high
    rw [abs_sub_div_of_le positive (below.le.trans low),
      abs_sub_div_of_le highPositive ((below.le.trans low).trans high)]
    linarith
  · obtain ⟨-, -, -, -, above⟩ := geometry
    have closer : case.stopLoss / price ≤ case.stopLoss / case.entryLow :=
      div_le_div_of_nonneg_left stopNonneg lowPositive low
    rw [abs_sub_div_of_ge positive (high.trans above.le),
      abs_sub_div_of_ge lowPositive ((low.trans high).trans above.le)]
    linarith

/-! ### The sizing -/

theorem floorCents_le (amount : ℚ) : floorCents amount ≤ amount := by
  have floor : (⌊amount * 100⌋ : ℚ) ≤ amount * 100 := Int.floor_le _
  unfold floorCents
  linarith

theorem floorCents_mono {smaller larger : ℚ} (le : smaller ≤ larger) :
    floorCents smaller ≤ floorCents larger := by
  have floors : ⌊smaller * 100⌋ ≤ ⌊larger * 100⌋ := Int.floor_mono (by linarith)
  have casts : (⌊smaller * 100⌋ : ℚ) ≤ ⌊larger * 100⌋ := by exact_mod_cast floors
  unfold floorCents
  linarith

structure WithinExposure (policy : RiskPolicy) (case : CasePackage Hash) (notional : ℚ) :
    Prop where
  cap : notional ≤ policy.maxNotionalUsdt
  symbol : notional + (case.account.map AccountContext.symbolExposureUsdt).getD 0 ≤
    case.equity policy * policy.maxSymbolExposurePct
  portfolio : notional + (case.account.map AccountContext.portfolioExposureUsdt).getD 0 ≤
    case.equity policy * policy.maxPortfolioExposurePct
  margin : notional / policy.configuredLeverage +
      (case.account.map AccountContext.marginUsedUsdt).getD 0 ≤
    case.equity policy * policy.maxMarginUtilization
  liquidity : notional ≤ case.liquidityUsdt.getD 0 * policy.maxLiquidityFraction

theorem sizedNotional_within (policy : RiskPolicy) (case : CasePackage Hash) {affordable : ℚ}
    (nonzero : sizedNotional policy case affordable ≠ 0) :
    sizedNotional policy case affordable ≤ affordable ∧
      WithinExposure policy case (sizedNotional policy case affordable) := by
  have positive : 0 < sizedNotional policy case affordable :=
    lt_of_le_of_ne (sizedNotional_nonneg policy case affordable) nonzero.symm
  have leverage : (0 : ℚ) < policy.configuredLeverage := by
    exact_mod_cast policy.configuredLeverageBounds.1
  have capped := floorCents_le (max 0 (min (min (min (min (min affordable policy.maxNotionalUsdt)
    (case.equity policy * policy.maxSymbolExposurePct -
      (case.account.map AccountContext.symbolExposureUsdt).getD 0))
    (case.equity policy * policy.maxPortfolioExposurePct -
      (case.account.map AccountContext.portfolioExposureUsdt).getD 0))
    ((case.equity policy * policy.maxMarginUtilization -
      (case.account.map AccountContext.marginUsedUsdt).getD 0) * policy.configuredLeverage))
    (case.liquidityUsdt.getD 0 * policy.maxLiquidityFraction)))
  change sizedNotional policy case affordable ≤ _ at capped
  -- a positive notional is not the zero of the maximum, so it is below every cap
  have below := (le_max_iff.mp capped).resolve_left (not_le.mpr positive)
  simp only [le_min_iff] at below
  obtain ⟨⟨⟨⟨⟨risk, notional⟩, symbol⟩, portfolio⟩, margin⟩, liquidity⟩ := below
  refine ⟨risk, notional, by linarith, by linarith, ?_, liquidity⟩
  have used := (div_le_iff₀ leverage).mpr margin
  linarith

theorem sizedNotional_mono (policy : RiskPolicy) (case : CasePackage Hash) {smaller larger : ℚ}
    (le : smaller ≤ larger) :
    sizedNotional policy case smaller ≤ sizedNotional policy case larger := by
  unfold sizedNotional
  refine floorCents_mono (max_le_max_left _ ?_)
  refine min_le_min_right _ (min_le_min_right _ (min_le_min_right _ (min_le_min_right _ ?_)))
  exact min_le_min_right _ le

theorem advisedRisk_le (policy : RiskPolicy) (analysis : AnalysisResult Hash) {allowance : ℚ}
    (nonneg : 0 ≤ allowance) : advisedRisk policy analysis allowance ≤ allowance := by
  unfold advisedRisk
  split
  · exact mul_le_of_le_one_right nonneg policy.reducedRiskIsFraction.2
  · exact le_rfl

/-! ### Compiled proposals -/

variable {analysisResultHashes : Option (List Hash)} {proposal : TradeProposal Hash}

section Compiled

variable (digests : Digests Hash) (policy : RiskPolicy) (case : CasePackage Hash)
  (nowMs : Int) {analysis : AnalysisResult Hash}

/-- A compilation that returns a proposal has divided by no zero and builds the proposal that the
sizing gives. -/
theorem compile_eq_ok [DecidableEq Hash] {requiresManualReview : Bool}
    (compiled : compile digests policy case analysis nowMs analysisResultHashes
      requiresManualReview = .ok proposal) :
    ¬ case.Stale policy nowMs ∧ Sizable policy case ∧
      proposal.toProposalContent = compiledContent digests policy case analysis nowMs
        (namedHashes digests analysis analysisResultHashes) requiresManualReview := by
  by_cases mismatch : analysis.Mismatch case
  · rw [compile_mismatch _ _ _ _ _ _ _ mismatch] at compiled
    cases compiled
  by_cases stale : case.Stale policy nowMs
  · rw [compile_stale _ _ _ _ _ _ _ mismatch stale] at compiled
    cases compiled
  by_cases sizable : Sizable policy case
  · rw [compile_sizable _ _ _ _ _ _ _ mismatch stale sizable] at compiled
    split_ifs at compiled
    rw [build_compiled _ _ _ _ _ _ _ stale] at compiled
    cases compiled
    exact ⟨stale, sizable, rfl⟩
  · rw [compile_zeroDivision _ _ _ _ _ _ _ mismatch stale sizable] at compiled
    cases compiled

def affordableNotional (analysis : AnalysisResult Hash) : ℚ :=
  advisedRisk policy analysis (lossCap policy case) /
    lossRateAt policy case.fundingRate case.entryEdge case.stopLoss

theorem compiledContent_unblocked {hashes : List Hash} {requiresManualReview : Bool}
    (unblocked : (compiledContent digests policy case analysis nowMs hashes
      requiresManualReview).blockedReasons = []) :
    reasonsBefore policy case analysis nowMs requiresManualReview = [] ∧ case.Geometry ∧
      (compiledContent digests policy case analysis nowMs hashes
        requiresManualReview).riskBudgetUsdt =
        advisedRisk policy analysis (lossCap policy case) ∧
      (compiledContent digests policy case analysis nowMs hashes
        requiresManualReview).recommendedNotionalUsdt =
        sizedNotional policy case (affordableNotional policy case analysis) ∧
      sizedNotional policy case (affordableNotional policy case analysis) ≠ 0 := by
  obtain ⟨before, after⟩ := List.append_eq_nil_iff.mp unblocked
  have geometry : case.Geometry := by
    by_contra invalid
    have reason := (List.append_eq_nil_iff.mp before).2
    rw [reasonIf, if_pos invalid] at reason
    exact List.cons_ne_nil _ _ reason
  refine ⟨before, geometry, if_pos unblocked, if_pos unblocked, fun nothing => ?_⟩
  rw [reasonIf, if_pos ⟨nothing, before⟩] at after
  exact List.cons_ne_nil _ _ after

end Compiled

variable {policy : RiskPolicy} {analysis : AnalysisResult Hash} {nowMs : Int}
  {requiresManualReview : Bool}

theorem budget_covers [DecidableEq Hash] {digests : Digests Hash}
    (compiled : compile digests policy case analysis nowMs analysisResultHashes
      requiresManualReview = .ok proposal) (unblocked : proposal.blockedReasons = []) {price : ℚ}
    (low : case.entryLow ≤ price) (high : price ≤ case.entryHigh) :
    proposal.recommendedNotionalUsdt * lossRateAt policy case.fundingRate price case.stopLoss ≤
      proposal.riskBudgetUsdt := by
  obtain ⟨-, sizable, content⟩ := compile_eq_ok digests policy case nowMs compiled
  rw [content] at unblocked ⊢
  obtain ⟨-, geometry, budget, notional, nonzero⟩ :=
    compiledContent_unblocked digests policy case nowMs unblocked
  have rate : lossRateAt policy case.fundingRate case.entryEdge case.stopLoss ≠ 0 :=
    ((sizable_iff policy case sizable.1).mp sizable).2
  have ratePositive : 0 < lossRateAt policy case.fundingRate case.entryEdge case.stopLoss :=
    lt_of_le_of_ne (lossRateAt_nonneg case.entryEdge_nonneg policy _ _) rate.symm
  have afforded := (sizedNotional_within policy case nonzero).1
  unfold affordableNotional at afforded
  rw [le_div_iff₀ ratePositive] at afforded
  rw [budget, notional]
  calc
    sizedNotional policy case (affordableNotional policy case analysis) *
        lossRateAt policy case.fundingRate price case.stopLoss
      ≤ sizedNotional policy case (affordableNotional policy case analysis) *
        lossRateAt policy case.fundingRate case.entryEdge case.stopLoss :=
      mul_le_mul_of_nonneg_left (geometry.lossRateAt_le policy low high)
        (sizedNotional_nonneg policy case _)
    _ ≤ advisedRisk policy analysis (lossCap policy case) := afforded

/-! ### The caps on a loss -/

structure WithinLoss (policy : RiskPolicy) (case : CasePackage Hash) (loss : ℚ) : Prop where
  perTrade : loss ≤ policy.maxTradeRiskUsdt
  share : loss ≤ case.equity policy * policy.maxTradeRiskPct
  daily : ∀ account ∈ case.account, loss ≤ account.dailyHeadroom policy
  drawdown : ∀ account ∈ case.account, loss ≤ account.drawdownHeadroom policy

theorem withinLoss_of_le {loss : ℚ} (le : loss ≤ lossCap policy case) :
    WithinLoss policy case loss := by
  unfold lossCap at le
  split at le
  · rename_i absent
    obtain ⟨perTrade, share⟩ := le_min_iff.mp le
    exact ⟨perTrade, share, by simp [absent], by simp [absent]⟩
  · rename_i account present
    obtain ⟨rest, drawdown⟩ := le_min_iff.mp le
    obtain ⟨trade, daily⟩ := le_min_iff.mp rest
    obtain ⟨perTrade, share⟩ := le_min_iff.mp trade
    refine ⟨perTrade, share, ?_, ?_⟩ <;> rw [present]
    · rintro other ⟨⟩
      exact daily
    · rintro other ⟨⟩
      exact drawdown

theorem budget_within [DecidableEq Hash] {digests : Digests Hash}
    (compiled : compile digests policy case analysis nowMs analysisResultHashes
      requiresManualReview = .ok proposal) (unblocked : proposal.blockedReasons = []) :
    proposal.riskBudgetUsdt ≤ lossCap policy case := by
  obtain ⟨-, -, content⟩ := compile_eq_ok digests policy case nowMs compiled
  rw [content] at unblocked ⊢
  rw [(compiledContent_unblocked digests policy case nowMs unblocked).2.2.1]
  exact advisedRisk_le policy analysis (lossCap_nonneg policy case)

/-! ### Advice -/

structure Unadvised (plain analysis : AnalysisResult Hash) : Prop where
  action : plain.action = analysis.action
  modifier : plain.riskModifier = .standard
  review : plain.requiresManualReview = false
  agreement : plain.strategyDataDisagreement = false

theorem reasonIf_eq_nil {condition : Prop} [Decidable condition] {reason : BlockReason} :
    reasonIf condition reason = [] ↔ ¬ condition := by
  unfold reasonIf
  split <;> simp_all

variable {plain : AnalysisResult Hash}

theorem accountReasons_action (action : plain.action = analysis.action) (nowMs : Int) :
    accountReasons policy case plain nowMs = accountReasons policy case analysis nowMs := by
  unfold accountReasons
  rw [action]

theorem reasonsBefore_unadvised (unadvised : Unadvised plain analysis)
    (clear : reasonsBefore policy case analysis nowMs requiresManualReview = []) :
    reasonsBefore policy case plain nowMs false = [] := by
  unfold reasonsBefore at clear ⊢
  rw [accountReasons_action unadvised.action]
  simp only [List.append_eq_nil_iff] at clear ⊢
  obtain ⟨⟨⟨data, advice⟩, account⟩, geometry⟩ := clear
  refine ⟨⟨⟨data, ?_⟩, account⟩, geometry⟩
  unfold adviceReasons at advice ⊢
  simp only [List.append_eq_nil_iff, reasonIf_eq_nil] at advice ⊢
  obtain ⟨⟨⟨⟨-, -⟩, entry⟩, fresh⟩, agrees⟩ := advice
  rw [unadvised.action, unadvised.modifier, unadvised.review, unadvised.agreement]
  refine ⟨⟨⟨⟨by decide, by simp⟩, entry⟩, fresh⟩, ?_⟩
  rintro (differs | disagrees)
  · exact agrees (.inl differs)
  · cases disagrees

theorem affordableNotional_le (policy : RiskPolicy) (case : CasePackage Hash)
    (analysis : AnalysisResult Hash) (standard : plain.riskModifier = .standard) :
    affordableNotional policy case analysis ≤ affordableNotional policy case plain := by
  have full : advisedRisk policy plain (lossCap policy case) = lossCap policy case := by
    unfold advisedRisk
    rw [standard]
    rfl
  unfold affordableNotional
  rw [full]
  exact div_le_div_of_nonneg_right (advisedRisk_le policy analysis (lossCap_nonneg policy case))
    (lossRateAt_nonneg case.entryEdge_nonneg policy _ _)

/-- Whatever the advice, the notional is at most that of the same action without advice, and at
most that of any unblocked proposal without a modifier. -/
theorem compiledContent_notional_le (digests : Digests Hash) {hashes plainHashes : List Hash}
    (standard : plain.riskModifier = .standard)
    (free : Unadvised plain analysis ∨ (compiledContent digests policy case plain nowMs
      plainHashes false).blockedReasons = []) :
    (compiledContent digests policy case analysis nowMs hashes
        requiresManualReview).recommendedNotionalUsdt ≤
      (compiledContent digests policy case plain nowMs plainHashes
        false).recommendedNotionalUsdt := by
  by_cases blocked : (compiledContent digests policy case analysis nowMs hashes
      requiresManualReview).blockedReasons ≠ []
  · rw [(compiledContent_blocked digests policy case analysis nowMs hashes
      requiresManualReview blocked).notional]
    exact compiledContent_notional_nonneg digests policy case plain nowMs plainHashes false
  · obtain ⟨clear, -, -, notional, nonzero⟩ :=
      compiledContent_unblocked digests policy case nowMs (not_not.mp blocked)
    have mono := sizedNotional_mono policy case
      (affordableNotional_le policy case analysis standard)
    have plainUnblocked : (compiledContent digests policy case plain nowMs plainHashes
        false).blockedReasons = [] := by
      refine free.elim (fun unadvised => ?_) id
      have plainClear := reasonsBefore_unadvised unadvised clear
      have plainNonzero : sizedNotional policy case (affordableNotional policy case plain) ≠ 0 := by
        have nonneg := sizedNotional_nonneg policy case (affordableNotional policy case analysis)
        exact ((lt_of_le_of_ne nonneg nonzero.symm).trans_le mono).ne'
      refine List.append_eq_nil_iff.mpr ⟨plainClear, reasonIf_eq_nil.mpr ?_⟩
      exact fun exposed => plainNonzero exposed.1
    rw [notional, (compiledContent_unblocked digests policy case nowMs plainUnblocked).2.2.2.1]
    exact mono

theorem compile_of_sizable [DecidableEq Hash] (digests : Digests Hash)
    (same : ¬ plain.Mismatch case) (fresh : ¬ case.Stale policy nowMs)
    (sizable : Sizable policy case) (requiresManualReview : Bool) :
    ∃ proposal, compile digests policy case plain nowMs none requiresManualReview =
        .ok proposal ∧
      proposal.toProposalContent = compiledContent digests policy case plain nowMs
        [digests.resultHash plain] requiresManualReview := by
  have named : ¬ digests.resultHash plain ∉ namedHashes digests plain none :=
    not_not.mpr (List.mem_singleton_self _)
  rw [compile_sizable _ _ _ _ _ _ _ same fresh sizable, if_neg named,
    build_compiled _ _ _ _ _ _ _ fresh]
  exact ⟨_, rfl, rfl⟩

end QuantAgent.Decision
