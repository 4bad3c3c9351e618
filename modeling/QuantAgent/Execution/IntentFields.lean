/-
This file embeds the executable contract of an intent: the checks that bind a proposal to its case,
policy and account, and the price and quantity that the proposal turns into.

The price is the midpoint of the entry range at a tick, the quantity is cut off at a step, and the
position they open loses at most the risk budget of the proposal.
-/

import QuantAgent.Decision.RiskCaps
import QuantAgent.Execution.Records
import QuantAgent.MarketWatch.GridPolicy

namespace QuantAgent.Execution

open Decision (CasePackage TradeProposal RiskPolicy Digests AnalysisResult)
open MarketWatch (roundHalfEven)

variable {Hash : Type} [DecidableEq Hash]

/-! ### Ticks and steps -/

def roundToTick (tick price : ℚ) : ℚ := roundHalfEven (price / tick) * tick

/-- `quantize` with `ROUND_DOWN`: cut off towards zero at a step. -/
def truncateToStep (step quantity : ℚ) : ℚ :=
  if 0 ≤ quantity then ⌊quantity / step⌋ * step else ⌈quantity / step⌉ * step

theorem truncateToStep_le {step quantity : ℚ} (positive : 0 < step) (nonneg : 0 ≤ quantity) :
    truncateToStep step quantity ≤ quantity := by
  have floor : (⌊quantity / step⌋ : ℚ) ≤ quantity / step := Int.floor_le _
  unfold truncateToStep
  rw [if_pos nonneg]
  exact (le_div_iff₀ positive).mp floor

/-! ### The contract -/

/-- What the contract reads of an account snapshot. -/
structure AccountAuthority where
  environment : Environment
  credentialNamespace : String
  restBaseUrl : String
  accountId : String

/-- The fields of an intent that its proposal decides. -/
structure ExecutableFields (Hash : Type) where
  symbol : String
  side : Side
  orderType : OrderType
  price : ℚ
  quantity : ℚ
  leverage : ℕ
  stopLoss : ℚ
  takeProfit1 : ℚ
  takeProfit2 : Option ℚ
  riskPolicyHash : Hash
  environment : Environment
  accountAuthority : String
  deriving DecidableEq

/-- The credentials and the address that belong to an environment. -/
def AccountAuthority.Foreign (account : AccountAuthority) : Prop :=
  match account.environment with
  | .testnet =>
    account.credentialNamespace ≠ "BINANCE_TESTNET" ∨
      account.restBaseUrl ≠ "https://testnet.binancefuture.com"
  | .dryRun => account.credentialNamespace ≠ "NONE" ∨ account.restBaseUrl ≠ "local://paper"

instance (account : AccountAuthority) : Decidable account.Foreign := by
  unfold AccountAuthority.Foreign
  split <;> infer_instance

def entrySide (case : CasePackage Hash) : Side :=
  if case.direction = .short then .sell else .buy

/-- `compile_executable_intent_fields` for a market with this tick and step. -/
def compileExecutableFieldsAt (tick step : ℚ) (digests : Digests Hash) (case : CasePackage Hash)
    (proposal : TradeProposal Hash) (account : AccountAuthority)
    (riskPolicy : Option RiskPolicy) : Except Fault (ExecutableFields Hash) := do
  refuse (proposal.caseId ≠ case.caseId ∨ proposal.caseHash ≠ case.caseHash)
    (.blocked "EXECUTABLE_CASE_BINDING_MISMATCH")
  refuse (∃ policy ∈ riskPolicy, proposal.riskPolicyHash ≠ digests.policyHash policy)
    (.blocked "RISK_POLICY_HASH_MISMATCH")
  refuse (proposal.action ∉ [Decision.Action.openLong, .openShort, .add])
    (.blocked "UNSUPPORTED_EXECUTABLE_ACTION")
  refuse ((proposal.action = .openLong ∧ entrySide case ≠ .buy) ∨
      (proposal.action = .openShort ∧ entrySide case ≠ .sell))
    (.blocked "EXECUTABLE_DIRECTION_MISMATCH")
  refuse account.Foreign (.blocked "EXECUTABLE_ACCOUNT_AUTHORITY_MISMATCH")
  let price := roundToTick tick ((proposal.entryLow + proposal.entryHigh) / 2)
  refuse (price ≤ 0 ∨ ¬ (proposal.entryLow ≤ price ∧ price ≤ proposal.entryHigh))
    (.blocked "EXECUTABLE_PRICE_INVALID")
  let quantity := truncateToStep step (proposal.recommendedNotionalUsdt / price)
  refuse (quantity ≤ 0) (.blocked "computed order quantity must be positive")
  return {
    symbol := case.symbol
    side := entrySide case
    orderType := .limit
    price := price
    quantity := quantity
    leverage := proposal.leverage
    stopLoss := proposal.stopLoss
    takeProfit1 := proposal.takeProfit1
    takeProfit2 := if proposal.takeProfit2 > 0 then some proposal.takeProfit2 else none
    riskPolicyHash := proposal.riskPolicyHash
    environment := account.environment
    accountAuthority := account.accountId }

/-- `compile_executable_intent_fields`: two decimals of a price, four of a quantity. -/
def compileExecutableIntentFields (digests : Digests Hash) (case : CasePackage Hash)
    (proposal : TradeProposal Hash) (account : AccountAuthority)
    (riskPolicy : Option RiskPolicy) : Except Fault (ExecutableFields Hash) :=
  compileExecutableFieldsAt (1 / 100) (1 / 10000) digests case proposal account riskPolicy

variable {riskPolicy : Option RiskPolicy} {fields : ExecutableFields Hash}
  {proposal : TradeProposal Hash}

theorem compileExecutableFieldsAt_spec {tick step : ℚ} {digests : Digests Hash}
    {case : CasePackage Hash} {account : AccountAuthority}
    (compiled : compileExecutableFieldsAt tick step digests case proposal account riskPolicy =
      .ok fields) :
    0 < fields.price ∧ proposal.entryLow ≤ fields.price ∧ fields.price ≤ proposal.entryHigh ∧
      0 < fields.quantity ∧
      fields.quantity = truncateToStep step (proposal.recommendedNotionalUsdt / fields.price) ∧
      fields.stopLoss = proposal.stopLoss := by
  unfold compileExecutableFieldsAt at compiled
  simp only [refuse_bind_eq_ok] at compiled
  obtain ⟨-, -, -, -, -, priced, sized, built⟩ := compiled
  cases built
  push Not at priced sized
  exact ⟨priced.1, priced.2.1, priced.2.2, sized, rfl, rfl⟩

/-! ### The caps after both roundings -/

def worstCaseLoss (policy : RiskPolicy) (fundingRate : Option ℚ) (quantity price stop : ℚ) : ℚ :=
  quantity * (|price - stop| + price * Decision.costRate policy fundingRate)

theorem worstCaseLoss_eq {price : ℚ} (positive : 0 < price) (policy : RiskPolicy)
    (fundingRate : Option ℚ) (quantity stop : ℚ) :
    worstCaseLoss policy fundingRate quantity price stop =
      quantity * price * Decision.lossRateAt policy fundingRate price stop := by
  unfold worstCaseLoss Decision.lossRateAt
  field_simp

theorem contract_affordable {tick step : ℚ} {digests : Digests Hash} {case : CasePackage Hash}
    {account : AccountAuthority} (steps : 0 < step)
    (nonneg : 0 ≤ proposal.recommendedNotionalUsdt)
    (compiled : compileExecutableFieldsAt tick step digests case proposal account riskPolicy =
      .ok fields) :
    fields.quantity * fields.price ≤ proposal.recommendedNotionalUsdt := by
  obtain ⟨positive, -, -, -, quantity, -⟩ := compileExecutableFieldsAt_spec compiled
  rw [quantity, ← le_div_iff₀ positive]
  exact truncateToStep_le steps (div_nonneg nonneg positive.le)

/-- The caps of the policy survive the sizing and the rounding of the contract: an unblocked
proposal loses within the caps from every price of its entry range, keeps the caps on its notional,
has no more notional than without advice, and the contract loses at most the risk budget. -/
theorem risk_caps_survive {digests : Digests Hash} {policy : RiskPolicy}
    {case : CasePackage Hash} {analysis : AnalysisResult Hash} {nowMs : Int}
    {analysisResultHashes : Option (List Hash)} {requiresManualReview : Bool}
    {proposal : TradeProposal Hash}
    (compiled : Decision.compile digests policy case analysis nowMs analysisResultHashes
      requiresManualReview = .ok proposal)
    (unblocked : proposal.blockedReasons = []) :
    (∀ price, case.entryLow ≤ price → price ≤ case.entryHigh →
      Decision.WithinLoss policy case (proposal.recommendedNotionalUsdt *
        Decision.lossRateAt policy case.fundingRate price case.stopLoss)) ∧
    Decision.WithinLoss policy case proposal.maxLossUsdt ∧
    Decision.WithinExposure policy case proposal.recommendedNotionalUsdt ∧
    (∀ plain : AnalysisResult Hash, ¬ plain.Mismatch case → plain.riskModifier = .standard →
      ∃ unadvised, Decision.compile digests policy case plain nowMs none false = .ok unadvised ∧
        (Decision.Unadvised plain analysis ∨ unadvised.blockedReasons = [] →
          proposal.recommendedNotionalUsdt ≤ unadvised.recommendedNotionalUsdt)) ∧
    (∀ tick step account riskPolicy fields, 0 < step →
      compileExecutableFieldsAt tick step digests case proposal account riskPolicy = .ok fields →
        worstCaseLoss policy case.fundingRate fields.quantity fields.price fields.stopLoss ≤
          proposal.riskBudgetUsdt) := by
  obtain ⟨fresh, sizable, content⟩ := Decision.compile_eq_ok digests policy case nowMs compiled
  have covers := @Decision.budget_covers _ _ _ _ _ _ _ _ _ _ compiled unblocked
  have capped := Decision.budget_within compiled unblocked
  have unblockedContent := content ▸ unblocked
  obtain ⟨-, -, -, notional, nonzero⟩ :=
    Decision.compiledContent_unblocked digests policy case nowMs unblockedContent
  have amount : 0 ≤ proposal.recommendedNotionalUsdt := by
    rw [content]
    exact Decision.compiledContent_notional_nonneg digests policy case analysis nowMs _ _
  have maxLoss : proposal.maxLossUsdt = proposal.recommendedNotionalUsdt *
      Decision.lossRateAt policy case.fundingRate case.entryEdge case.stopLoss := by
    rw [content]
    rfl
  refine ⟨?_, ?_, ?_, ?_, ?_⟩
  · intro price low high
    exact Decision.withinLoss_of_le ((covers low high).trans capped)
  · rw [maxLoss]
    obtain ⟨low, high⟩ := case.entryEdge_mem
    exact Decision.withinLoss_of_le ((covers low high).trans capped)
  · rw [content, notional]
    exact (Decision.sizedNotional_within policy case nonzero).2
  · intro plain same standard
    obtain ⟨unadvised, built, plainContent⟩ :=
      Decision.compile_of_sizable digests same fresh sizable false
    refine ⟨unadvised, built, fun free => ?_⟩
    rw [plainContent] at free ⊢
    rw [content]
    exact Decision.compiledContent_notional_le digests standard free
  · intro tick step account riskPolicy fields steps contract
    obtain ⟨positive, low, high, -, -, stop⟩ := compileExecutableFieldsAt_spec contract
    rw [content] at low high stop
    have rate : 0 ≤ Decision.lossRateAt policy case.fundingRate fields.price case.stopLoss :=
      Decision.lossRateAt_nonneg positive.le policy _ _
    calc
      worstCaseLoss policy case.fundingRate fields.quantity fields.price fields.stopLoss
        = fields.quantity * fields.price *
          Decision.lossRateAt policy case.fundingRate fields.price case.stopLoss := by
        rw [stop]
        exact worstCaseLoss_eq positive policy _ _ _
      _ ≤ proposal.recommendedNotionalUsdt *
          Decision.lossRateAt policy case.fundingRate fields.price case.stopLoss :=
        mul_le_mul_of_nonneg_right (contract_affordable steps amount contract) rate
      _ ≤ proposal.riskBudgetUsdt := covers low high

/-- A short case on an account that has used nearly half of the exposure of its symbol. -/
def shortCase : CasePackage ℕ :=
  { Decision.lostCase with
    direction := .short
    stopLoss := 103
    takeProfit1 := 95
    takeProfit2 := 90
    account := some {
      equityUsdt := 1000
      symbolExposureUsdt := 99
      portfolioExposureUsdt := 300
      marginUsedUsdt := 50
      simultaneousPositions := 1
      dailyLossUsdt := 22
      drawdownPct := 1 / 20
      observedAtMs := 990 }
    stopLossNonneg := by decide +kernel
    takeProfit1Nonneg := by decide +kernel
    takeProfit2Nonneg := by decide +kernel }

def openShortAnalysis : AnalysisResult ℕ :=
  { Decision.openLongAnalysis with action := .openShort }

def shortProposal : TradeProposal ℕ where
  toProposalContent := Decision.compiledContent Decision.kindDigests {} shortCase
    openShortAnalysis 1000 [1] false
  proposalHash := 4

def paperAccount : AccountAuthority where
  environment := .dryRun
  credentialNamespace := "NONE"
  restBaseUrl := "local://paper"
  accountId := "paper"

def shortFields : ExecutableFields ℕ where
  symbol := "BTCUSDT"
  side := .sell
  orderType := .limit
  price := 201 / 2
  quantity := 10049 / 10000
  leverage := 2
  stopLoss := 103
  takeProfit1 := 95
  takeProfit2 := some 90
  riskPolicyHash := 2
  environment := .dryRun
  accountAuthority := "paper"

theorem risk_caps_survive_short :
    Decision.compile Decision.kindDigests {} shortCase openShortAnalysis 1000 none false =
      .ok shortProposal ∧
    compileExecutableIntentFields Decision.kindDigests shortCase shortProposal paperAccount none =
      .ok shortFields ∧
    Decision.WithinLoss {} shortCase shortProposal.maxLossUsdt ∧
    worstCaseLoss {} none (10049 / 10000) (201 / 2) 103 ≤ shortProposal.riskBudgetUsdt := by
  have compiled : Decision.compile Decision.kindDigests {} shortCase openShortAnalysis 1000 none
      false = .ok shortProposal := by decide +kernel
  have contract : compileExecutableIntentFields Decision.kindDigests shortCase shortProposal
      paperAccount none = .ok shortFields := by decide +kernel
  obtain ⟨-, loss, -, -, kept⟩ := risk_caps_survive compiled (by decide +kernel)
  exact ⟨compiled, contract, loss, kept _ _ _ _ _ (by norm_num) contract⟩

end QuantAgent.Execution
