/-
This file says what a compilation can end in. It refuses, divides by zero, or returns a proposal
that passes its validator; a proposal for a case of invalid geometry is blocked and worth nothing.
Only a zero entry edge, an account that has lost everything, and a trade that can lose nothing
lead to a division by zero.
-/

import QuantAgent.Decision.Risk

namespace QuantAgent.Decision

variable {Hash : Type}

/-! ### Loss rates -/

def lossRateAt (policy : RiskPolicy) (fundingRate : Option ℚ) (price stop : ℚ) : ℚ :=
  |price - stop| / price + costRate policy fundingRate

theorem worstCaseLossRate_zero (stop : ℚ) (policy : RiskPolicy) (fundingRate : Option ℚ) :
    worstCaseLossRate 0 stop policy fundingRate = .error .zeroDivision := rfl

theorem worstCaseLossRate_of_ne {entry : ℚ} (nonzero : entry ≠ 0) (stop : ℚ)
    (policy : RiskPolicy) (fundingRate : Option ℚ) :
    worstCaseLossRate entry stop policy fundingRate =
      .ok (lossRateAt policy fundingRate entry stop) := by
  unfold worstCaseLossRate
  rw [divide_of_ne nonzero]
  rfl

section

variable (policy : RiskPolicy) (fundingRate : Option ℚ)

theorem fundingCost_nonneg : 0 ≤ fundingCost policy fundingRate :=
  le_max_of_le_right (abs_nonneg _)

theorem costRate_nonneg : 0 ≤ costRate policy fundingRate := by
  have fees : 0 ≤ (policy.roundTripFeeBps + policy.slippageBps) / 10000 := by
    have := policy.roundTripFeeNonneg
    have := policy.slippageNonneg
    positivity
  exact add_nonneg fees (fundingCost_nonneg policy fundingRate)

theorem costRate_eq_zero_iff :
    costRate policy fundingRate = 0 ↔
      policy.roundTripFeeBps = 0 ∧ policy.slippageBps = 0 ∧ policy.fundingBufferBps = 0 ∧
        fundingRate.getD 0 = 0 := by
  have feeNonneg := policy.roundTripFeeNonneg
  have slippageNonneg := policy.slippageNonneg
  have bufferNonneg := policy.fundingBufferNonneg
  have rateNonneg := abs_nonneg (fundingRate.getD 0)
  unfold costRate fundingCost
  constructor
  · intro nothing
    have buffer := le_max_left (policy.fundingBufferBps / 10000) |fundingRate.getD 0|
    have rate := le_max_right (policy.fundingBufferBps / 10000) |fundingRate.getD 0|
    refine ⟨by linarith, by linarith, by linarith, abs_eq_zero.mp (by linarith)⟩
  · rintro ⟨fee, slippage, buffer, rate⟩
    simp [fee, slippage, buffer, rate]

end

theorem lossRateAt_nonneg {price : ℚ} (nonneg : 0 ≤ price) (policy : RiskPolicy)
    (fundingRate : Option ℚ) (stop : ℚ) : 0 ≤ lossRateAt policy fundingRate price stop :=
  add_nonneg (div_nonneg (abs_nonneg _) nonneg) (costRate_nonneg policy fundingRate)

theorem lossRateAt_eq_zero_iff {price : ℚ} (positive : 0 < price) (policy : RiskPolicy)
    (fundingRate : Option ℚ) (stop : ℚ) :
    lossRateAt policy fundingRate price stop = 0 ↔
      price = stop ∧ costRate policy fundingRate = 0 := by
  have distance : 0 ≤ |price - stop| / price := div_nonneg (abs_nonneg _) positive.le
  unfold lossRateAt
  rw [add_eq_zero_iff_of_nonneg distance (costRate_nonneg policy fundingRate),
    div_eq_zero_iff, abs_eq_zero, sub_eq_zero, or_iff_left positive.ne']

/-! ### The allowance -/

theorem CasePackage.equity_pos (case : CasePackage Hash) (policy : RiskPolicy) :
    0 < case.equity policy := by
  unfold CasePackage.equity
  split
  · exact AccountContext.equityPositive _
  · exact policy.simulationEquityPositive

theorem CasePackage.entryEdge_nonneg (case : CasePackage Hash) : 0 ≤ case.entryEdge := by
  unfold CasePackage.entryEdge
  split
  · exact case.entryHighNonneg
  · exact case.entryLowNonneg

def AccountContext.peakEquity (account : AccountContext) : ℚ :=
  account.equityUsdt / (1 - account.drawdownPct)

def AccountContext.dailyHeadroom (account : AccountContext) (policy : RiskPolicy) : ℚ :=
  max 0 (account.equityUsdt * policy.maxDailyLossPct - account.dailyLossUsdt)

def AccountContext.drawdownHeadroom (account : AccountContext) (policy : RiskPolicy) : ℚ :=
  max 0 (account.equityUsdt - account.peakEquity * (1 - policy.drawdownKillPct))

def lossCap (policy : RiskPolicy) (case : CasePackage Hash) : ℚ :=
  let perTrade := min policy.maxTradeRiskUsdt (case.equity policy * policy.maxTradeRiskPct)
  match case.account with
  | none => perTrade
  | some account =>
    min (min perTrade (account.dailyHeadroom policy)) (account.drawdownHeadroom policy)

theorem lossCap_nonneg (policy : RiskPolicy) (case : CasePackage Hash) :
    0 ≤ lossCap policy case := by
  have perTrade : 0 ≤ min policy.maxTradeRiskUsdt
      (case.equity policy * policy.maxTradeRiskPct) :=
    le_min policy.maxTradeRiskPositive.le
      (mul_nonneg (case.equity_pos policy).le policy.maxTradeRiskFraction.1.le)
  unfold lossCap
  split
  · exact perTrade
  · exact le_min (le_min perTrade (le_max_left 0 _)) (le_max_left 0 _)

theorem remainingLossHeadroom_eq (account : AccountContext) (policy : RiskPolicy)
    (solvent : account.drawdownPct ≠ 1) :
    remainingLossHeadroom account.equityUsdt account.peakEquity account.dailyLossUsdt
        (account.equityUsdt * policy.maxDailyLossPct) policy.drawdownKillPct =
      .ok (account.dailyHeadroom policy, account.drawdownHeadroom policy) := by
  have positive := account.equityPositive
  have bounds := account.drawdownBounds
  have remaining : 0 < 1 - account.drawdownPct :=
    sub_pos.mpr (lt_of_le_of_ne bounds.2 solvent)
  have peak : account.equityUsdt ≤ account.peakEquity := by
    unfold AccountContext.peakEquity
    rw [le_div_iff₀ remaining]
    nlinarith [bounds.1]
  unfold remainingLossHeadroom
  rw [refuse_of_not]
  · rfl
  · rintro (broke | below | negative | notFraction)
    · exact absurd positive (not_lt.mpr broke)
    · exact absurd peak (not_le.mpr below)
    · exact absurd account.dailyLossNonneg (not_le.mpr negative)
    · exact notFraction policy.drawdownKillFraction

/-- The account has not lost everything. -/
def CasePackage.Solvent (case : CasePackage Hash) : Prop :=
  ∀ account ∈ case.account, account.drawdownPct ≠ 1

theorem riskAllowance_solvent (policy : RiskPolicy) (case : CasePackage Hash)
    (solvent : case.Solvent) : riskAllowance policy case = .ok (lossCap policy case) := by
  unfold riskAllowance lossCap CasePackage.equity
  cases present : case.account with
  | none => rfl
  | some account =>
    have stands : account.drawdownPct ≠ 1 := solvent account present
    have divided : divide Fault.zeroDivision account.equityUsdt (1 - account.drawdownPct) =
        .ok account.peakEquity :=
      divide_of_ne (sub_ne_zero.mpr stands.symm)
    simp only [divided]
    have headroom := remainingLossHeadroom_eq account policy stands
    simp only [bind, Except.bind] at headroom ⊢
    rw [headroom]
    rfl

theorem riskAllowance_insolvent (policy : RiskPolicy) (case : CasePackage Hash)
    (insolvent : ¬ case.Solvent) : riskAllowance policy case = .error .zeroDivision := by
  unfold CasePackage.Solvent at insolvent
  push Not at insolvent
  obtain ⟨account, present, lost⟩ := insolvent
  unfold riskAllowance CasePackage.equity
  rw [Option.mem_def.mp present]
  simp only [lost, sub_self, divide_zero]
  rfl

/-! ### What a compilation returns -/

/-- The proposal that a compilation builds once its divisions succeed. -/
def compiledContent (digests : Digests Hash) (policy : RiskPolicy) (case : CasePackage Hash)
    (analysis : AnalysisResult Hash) (nowMs : Int) (hashes : List Hash)
    (requiresManualReview : Bool) : ProposalContent Hash :=
  let lossRate := lossRateAt policy case.fundingRate case.entryEdge case.stopLoss
  let risk := advisedRisk policy analysis (lossCap policy case)
  proposalContent digests policy case analysis nowMs hashes requiresManualReview lossRate risk
    (risk / lossRate)

theorem advisedRisk_nonneg (policy : RiskPolicy) (analysis : AnalysisResult Hash)
    {allowance : ℚ} (nonneg : 0 ≤ allowance) : 0 ≤ advisedRisk policy analysis allowance := by
  unfold advisedRisk
  split
  · exact mul_nonneg nonneg policy.reducedRiskIsFraction.1.le
  · exact nonneg

theorem floorCents_nonneg {amount : ℚ} (nonneg : 0 ≤ amount) : 0 ≤ floorCents amount := by
  have floor : (0 : ℤ) ≤ ⌊amount * 100⌋ := Int.floor_nonneg.mpr (by positivity)
  have cast : (0 : ℚ) ≤ ⌊amount * 100⌋ := by exact_mod_cast floor
  exact div_nonneg cast (by norm_num)

theorem sizedNotional_nonneg (policy : RiskPolicy) (case : CasePackage Hash) (affordable : ℚ) :
    0 ≤ sizedNotional policy case affordable :=
  floorCents_nonneg (le_max_left 0 _)

section Content

variable (digests : Digests Hash) (policy : RiskPolicy) (case : CasePackage Hash)
  (analysis : AnalysisResult Hash) (nowMs : Int) (hashes : List Hash)
  (requiresManualReview : Bool)

theorem compiledContent_notional_nonneg :
    0 ≤ (compiledContent digests policy case analysis nowMs hashes
      requiresManualReview).recommendedNotionalUsdt := by
  unfold compiledContent proposalContent
  dsimp only
  split
  · exact sizedNotional_nonneg policy case _
  · exact le_rfl

theorem compiledContent_risk_nonneg :
    0 ≤ (compiledContent digests policy case analysis nowMs hashes
      requiresManualReview).riskBudgetUsdt := by
  unfold compiledContent proposalContent
  dsimp only
  split
  · exact advisedRisk_nonneg policy analysis (lossCap_nonneg policy case)
  · exact le_rfl

theorem compiledContent_amounts :
    ∀ amount ∈ (compiledContent digests policy case analysis nowMs hashes
      requiresManualReview).amounts, 0 ≤ amount := by
  have notional := compiledContent_notional_nonneg digests policy case analysis nowMs hashes
    requiresManualReview
  have risk := compiledContent_risk_nonneg digests policy case analysis nowMs hashes
    requiresManualReview
  have leverage : (0 : ℚ) ≤ policy.configuredLeverage := Nat.cast_nonneg _
  have lossRate : 0 ≤ lossRateAt policy case.fundingRate case.entryEdge case.stopLoss :=
    lossRateAt_nonneg case.entryEdge_nonneg policy _ _
  intro amount member
  unfold ProposalContent.amounts at member
  fin_cases member
  · exact case.entryLowNonneg
  · exact case.entryHighNonneg
  · exact case.stopLossNonneg
  · exact case.takeProfit1Nonneg
  · exact case.takeProfit2Nonneg
  · exact risk
  · exact notional
  · exact div_nonneg notional leverage
  · exact div_nonneg (mul_nonneg notional policy.roundTripFeeNonneg) (by norm_num)
  · exact div_nonneg (mul_nonneg notional policy.slippageNonneg) (by norm_num)
  · exact mul_nonneg notional (fundingCost_nonneg policy _)
  · exact mul_nonneg notional lossRate
  · exact policy.allowedPriceDriftNonneg

theorem build_of_valid (content : ProposalContent Hash)
    (amounts : ∀ amount ∈ content.amounts, 0 ≤ amount) (leverage : 1 ≤ content.leverage)
    (chronology : content.createdAtMs < content.expiresAtMs) :
    TradeProposal.build digests content = .ok ⟨content, digests.proposalHash content⟩ := by
  unfold TradeProposal.build
  rw [refuse_of_not (by simpa using amounts), refuse_of_not (not_lt.mpr leverage),
    refuse_of_not (not_le.mpr chronology)]
  rfl

theorem build_compiled (fresh : ¬ case.Stale policy nowMs) :
    TradeProposal.build digests (compiledContent digests policy case analysis nowMs hashes
        requiresManualReview) =
      .ok ⟨compiledContent digests policy case analysis nowMs hashes requiresManualReview,
        digests.proposalHash (compiledContent digests policy case analysis nowMs hashes
          requiresManualReview)⟩ := by
  have lives : (0 : Int) < policy.proposalTtlMs := by exact_mod_cast policy.proposalTtlPositive
  have chronology : nowMs < min case.expiresAtMs (nowMs + policy.proposalTtlMs) := by
    unfold CasePackage.Stale at fresh
    omega
  exact build_of_valid digests _
    (compiledContent_amounts digests policy case analysis nowMs hashes requiresManualReview)
    policy.configuredLeverageBounds.1 chronology

end Content

/-! ### What a compilation ends in -/

/-- No division of the sizing is by zero. -/
def Sizable (policy : RiskPolicy) (case : CasePackage Hash) : Prop :=
  case.entryEdge ≠ 0 ∧ case.Solvent ∧
    ¬ (case.entryEdge = case.stopLoss ∧ policy.roundTripFeeBps = 0 ∧ policy.slippageBps = 0 ∧
      policy.fundingBufferBps = 0 ∧ case.fundingRate.getD 0 = 0)

theorem sizable_iff (policy : RiskPolicy) (case : CasePackage Hash)
    (positive : case.entryEdge ≠ 0) :
    Sizable policy case ↔ case.Solvent ∧
      lossRateAt policy case.fundingRate case.entryEdge case.stopLoss ≠ 0 := by
  have edge : 0 < case.entryEdge := lt_of_le_of_ne case.entryEdge_nonneg positive.symm
  have zero := lossRateAt_eq_zero_iff edge policy case.fundingRate case.stopLoss
  rw [costRate_eq_zero_iff] at zero
  constructor
  · rintro ⟨-, solvent, losable⟩
    exact ⟨solvent, fun nothing => losable (zero.mp nothing)⟩
  · rintro ⟨solvent, losable⟩
    exact ⟨positive, solvent, fun nothing => losable (zero.mpr nothing)⟩

section Compile

variable [DecidableEq Hash] (digests : Digests Hash) (policy : RiskPolicy)
  (case : CasePackage Hash) (analysis : AnalysisResult Hash) (nowMs : Int)
  (analysisResultHashes : Option (List Hash)) (requiresManualReview : Bool)

theorem compile_mismatch (mismatch : analysis.Mismatch case) :
    compile digests policy case analysis nowMs analysisResultHashes requiresManualReview =
      .error (.valueError "analysis case identity mismatch") := by
  unfold compile refuse
  rw [if_pos mismatch]
  rfl

theorem compile_stale (same : ¬ analysis.Mismatch case) (stale : case.Stale policy nowMs) :
    compile digests policy case analysis nowMs analysisResultHashes requiresManualReview =
      .error (.valueError "STALE_CASE") := by
  unfold compile
  rw [refuse_of_not same]
  unfold refuse
  rw [if_pos stale]
  rfl

theorem compile_zeroDivision (same : ¬ analysis.Mismatch case)
    (fresh : ¬ case.Stale policy nowMs) (unsizable : ¬ Sizable policy case) :
    compile digests policy case analysis nowMs analysisResultHashes requiresManualReview =
      .error .zeroDivision := by
  unfold compile
  rw [refuse_of_not same, refuse_of_not fresh]
  by_cases edge : case.entryEdge = 0
  · rw [edge, worstCaseLossRate_zero]
    rfl
  · rw [worstCaseLossRate_of_ne edge]
    rw [sizable_iff policy case edge] at unsizable
    by_cases solvent : case.Solvent
    · have zero : lossRateAt policy case.fundingRate case.entryEdge case.stopLoss = 0 := by
        by_contra nonzero
        exact unsizable ⟨solvent, nonzero⟩
      rw [riskAllowance_solvent policy case solvent, zero]
      rfl
    · rw [riskAllowance_insolvent policy case solvent]
      rfl

theorem compile_sizable (same : ¬ analysis.Mismatch case)
    (fresh : ¬ case.Stale policy nowMs) (sizable : Sizable policy case) :
    compile digests policy case analysis nowMs analysisResultHashes requiresManualReview =
      if digests.resultHash analysis ∉ namedHashes digests analysis analysisResultHashes then
        .error (.valueError "selected analysis hash missing")
      else
        TradeProposal.build digests (compiledContent digests policy case analysis nowMs
          (namedHashes digests analysis analysisResultHashes) requiresManualReview) := by
  obtain ⟨solvent, rate⟩ := (sizable_iff policy case sizable.1).mp sizable
  unfold compile
  rw [refuse_of_not same, refuse_of_not fresh, worstCaseLossRate_of_ne sizable.1,
    riskAllowance_solvent policy case solvent]
  simp only [bind, Except.bind, divide_of_ne rate]
  unfold refuse compiledContent
  split_ifs <;> rfl

end Compile

/-! ### Graceful ends -/

def documentedErrors : List String :=
  ["analysis case identity mismatch", "STALE_CASE", "ACCOUNT_EQUITY_INCONSISTENT",
    "selected analysis hash missing"]

/-- A blocked proposal that commits nothing. -/
structure ProposalContent.Worthless (content : ProposalContent Hash) : Prop where
  blocked : content.blockedReasons ≠ []
  notional : content.recommendedNotionalUsdt = 0
  margin : content.marginUsdt = 0
  risk : content.riskBudgetUsdt = 0
  fee : content.feeEstimateUsdt = 0
  slippage : content.slippageEstimateUsdt = 0
  funding : content.fundingEstimateUsdt = 0
  loss : content.maxLossUsdt = 0

def Graceful (case : CasePackage Hash) : Except Fault (TradeProposal Hash) → Prop
  | .error (.valueError message) => message ∈ documentedErrors
  | .error .zeroDivision => False
  | .ok proposal => ¬ case.Geometry → proposal.Worthless

theorem compiledContent_blocked (digests : Digests Hash) (policy : RiskPolicy)
    (case : CasePackage Hash) (analysis : AnalysisResult Hash) (nowMs : Int)
    (hashes : List Hash) (requiresManualReview : Bool)
    (blocked : (compiledContent digests policy case analysis nowMs hashes
      requiresManualReview).blockedReasons ≠ []) :
    (compiledContent digests policy case analysis nowMs hashes
      requiresManualReview).Worthless := by
  have notional : (compiledContent digests policy case analysis nowMs hashes
      requiresManualReview).recommendedNotionalUsdt = 0 := if_neg blocked
  refine ⟨blocked, notional, ?_, if_neg blocked, ?_, ?_, ?_, ?_⟩
  · exact div_eq_zero_iff.mpr (.inl notional)
  · exact div_eq_zero_iff.mpr (.inl (mul_eq_zero.mpr (.inl notional)))
  · exact div_eq_zero_iff.mpr (.inl (mul_eq_zero.mpr (.inl notional)))
  · exact mul_eq_zero.mpr (.inl notional)
  · exact mul_eq_zero.mpr (.inl notional)

theorem compiledContent_geometry (digests : Digests Hash) (policy : RiskPolicy)
    (case : CasePackage Hash) (analysis : AnalysisResult Hash) (nowMs : Int)
    (hashes : List Hash) (requiresManualReview : Bool) (invalid : ¬ case.Geometry) :
    (compiledContent digests policy case analysis nowMs hashes
      requiresManualReview).Worthless := by
  refine compiledContent_blocked digests policy case analysis nowMs hashes requiresManualReview ?_
  intro unblocked
  have before : reasonsBefore policy case analysis nowMs requiresManualReview = [] :=
    (List.append_eq_nil_iff.mp unblocked).1
  have geometry := (List.append_eq_nil_iff.mp before).2
  rw [reasonIf, if_pos invalid] at geometry
  exact List.cons_ne_nil _ _ geometry

/-- A compilation ends gracefully exactly when it refuses the analysis or the age of the case, or
when none of its divisions is by zero. -/
theorem compile_graceful_iff [DecidableEq Hash] (digests : Digests Hash) (policy : RiskPolicy)
    (case : CasePackage Hash) (analysis : AnalysisResult Hash) (nowMs : Int)
    (analysisResultHashes : Option (List Hash)) (requiresManualReview : Bool) :
    Graceful case (compile digests policy case analysis nowMs analysisResultHashes
        requiresManualReview) ↔
      analysis.Mismatch case ∨ case.Stale policy nowMs ∨ Sizable policy case := by
  by_cases mismatch : analysis.Mismatch case
  · rw [compile_mismatch _ _ _ _ _ _ _ mismatch]
    have documented : "analysis case identity mismatch" ∈ documentedErrors := by decide
    exact ⟨fun _ => .inl mismatch, fun _ => documented⟩
  by_cases stale : case.Stale policy nowMs
  · rw [compile_stale _ _ _ _ _ _ _ mismatch stale]
    have documented : "STALE_CASE" ∈ documentedErrors := by decide
    exact ⟨fun _ => .inr (.inl stale), fun _ => documented⟩
  by_cases sizable : Sizable policy case
  · rw [compile_sizable _ _ _ _ _ _ _ mismatch stale sizable]
    refine ⟨fun _ => .inr (.inr sizable), fun _ => ?_⟩
    split_ifs
    · rw [build_compiled _ _ _ _ _ _ _ stale]
      exact compiledContent_geometry _ _ _ _ _ _ _
    · have documented : "selected analysis hash missing" ∈ documentedErrors := by decide
      exact documented
  · rw [compile_zeroDivision _ _ _ _ _ _ _ mismatch stale sizable]
    refine ⟨False.elim, ?_⟩
    rintro (same | late | sized)
    · exact mismatch same
    · exact stale late
    · exact sizable sized

/-- A long case on an account that has lost everything it ever had at its peak. -/
def lostCase : CasePackage ℕ where
  caseId := "case"
  caseHash := 7
  createdAtMs := 1000
  observedAtMs := 1000
  expiresAtMs := 61000
  symbol := "BTCUSDT"
  direction := .long
  evidenceId := "evidence"
  signalIdentity := "signal"
  entryLow := 100
  entryHigh := 101
  stopLoss := 98
  takeProfit1 := 105
  takeProfit2 := 110
  spreadBps := some 1
  liquidityUsdt := some 1000000
  dataQuality := .ok
  account := some {
    equityUsdt := 10
    symbolExposureUsdt := 0
    portfolioExposureUsdt := 0
    marginUsedUsdt := 0
    simultaneousPositions := 0
    dailyLossUsdt := 0
    drawdownPct := 1
    observedAtMs := 1000 }

def openLongAnalysis : AnalysisResult ℕ where
  backend := "primary"
  model := "model"
  providerRequestId := none
  caseId := "case"
  caseHash := 7
  action := .openLong
  confidence := 1 / 2
  entryQuality := "GOOD"
  thesisStrength := 1 / 2
  supportingFactors := []
  riskFactors := []
  invalidationFactors := []
  riskModifier := .standard
  requiresSecondaryReview := false
  requiresManualReview := false
  strategyDataDisagreement := false
  narrative := ""

/-- Hashes that tell the kinds of records apart. -/
def kindDigests : Digests ℕ where
  resultHash := fun _ => 1
  policyHash := fun _ => 2
  proposalId := fun _ _ _ _ => 3
  proposalHash := fun _ => 4

theorem lostCase_divides_by_zero :
    ¬ Graceful lostCase (compile kindDigests {} lostCase openLongAnalysis 1000 none false) := by
  have divided : compile kindDigests {} lostCase openLongAnalysis 1000 none false =
      .error .zeroDivision := by decide +kernel
  rw [divided]
  exact id

end QuantAgent.Decision
