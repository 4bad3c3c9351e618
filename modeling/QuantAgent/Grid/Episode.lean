/-
This file embeds the evaluation of one grid shadow episode: the geometry of a frozen plan,
the candle loop with its funding window, the close at the horizon, and the report.

`evaluateGridShadowEpisode` starts from evidence that already passed its identity check. The
policy diagnostics of the report (shifts, pauses and trend transitions read off later
assessments) and the hash identities are not embedded; no other field depends on them.
-/

import QuantAgent.Grid.Engine

namespace QuantAgent.Grid

/-! ### Inputs -/

structure GridPlanEvidence where
  decision : GridDecision
  lowerBound : Option ℚ
  upperBound : Option ℚ
  gridCount : ℕ
  triggerPrice : Option ℚ
  stopLoss : Option ℚ
  takeProfit : Option ℚ

/-- The fields of `TacticalFeatureEvidenceV2` the evaluation reads. The three rates come from
the decision configuration and are absent when the configuration does not name them. -/
structure TacticalFeatureEvidence where
  symbol : String
  decisionTimeMs : Int
  makerFeeRate : Option ℚ := none
  takerFeeRate : Option ℚ := none
  slippageBpsPerSide : Option ℚ := none
  close15m : Option ℚ := none
  gridAdvisoryPlan : Option GridPlanEvidence

/-- One funding settlement, with the defaults of `Mapping.get`. -/
structure FundingRecord where
  fundingTimeMs : Int := 0
  fundingRate : ℚ := 0
  markPrice : Option ℚ := none
  deriving DecidableEq

def gridHorizonMs : Int := 86400000

/-! ### Geometry -/

/-- Construct `N+1` deterministic monotonic arithmetic levels from bounds. -/
def constructGridLevels (lowerBound upperBound : ℚ) (gridCount : ℕ) :
    Except String (List ℚ) :=
  if lowerBound ≤ 0 then .error "lower_bound must be positive"
  else if upperBound ≤ lowerBound then .error "upper_bound must exceed lower_bound"
  else if gridCount < 3 then .error "grid_count must be at least 3"
  else
    let step := (upperBound - lowerBound) / gridCount
    .ok ((List.range (gridCount + 1)).map fun index : ℕ => lowerBound + index * step)

/-- The nearest level index to the reference price among `(level, index)` pairs; ties break to
the lower index because a later level replaces the best only when strictly nearer. -/
def nearestIndex (referencePrice : ℚ) (best : ℚ × ℕ) : List (ℚ × ℕ) → ℕ
  | [] => best.2
  | candidate :: rest =>
    if |candidate.1 - referencePrice| < |best.1 - referencePrice| then
      nearestIndex referencePrice candidate rest
    else nearestIndex referencePrice best rest

def computeAnchorIndex (levels : List ℚ) (referencePrice : ℚ) : Except String ℕ :=
  match levels.zipIdx with
  | [] => .error "Cannot anchor empty levels"
  | first :: rest => .ok (nearestIndex referencePrice first rest)

def resolveReferencePrice (plan : GridPlanEvidence) (evidence : TacticalFeatureEvidence) :
    Except String ℚ :=
  let fromClose : Except String ℚ :=
    match evidence.close15m with
    | some close => if 0 < close then .ok close else .error "MISSING_REFERENCE_PRICE"
    | none => .error "MISSING_REFERENCE_PRICE"
  match plan.triggerPrice, plan.lowerBound, plan.upperBound with
  | some trigger, some lower, some upper =>
    if 0 < trigger ∧ lower ≤ trigger ∧ trigger ≤ upper then .ok trigger else fromClose
  | _, _, _ => fromClose

/-! ### The candle loop -/

def validCandles (decisionTimeMs horizonEndMs : Int) (candles1m : List Candle) :
    List Candle :=
  (candles1m.filter fun candle =>
    decisionTimeMs < candle.closeTimeMs ∧ candle.openTimeMs < horizonEndMs).insertionSort
      fun first second => first.openTimeMs ≤ second.openTimeMs

def contiguous : List Candle → Bool
  | first :: second :: rest =>
    second.openTimeMs = first.closeTimeMs && contiguous (second :: rest)
  | _ => true

/-- Check 1m coverage: start coverage and continuity. -/
def marketPathComplete (decisionTimeMs : Int) : List Candle → Bool
  | [] => false
  | first :: rest =>
    first.openTimeMs ≤ decisionTimeMs + 60000 && contiguous (first :: rest)

def recordBreaches (lowerBound upperBound : ℚ) (candle : Candle)
    (state : GridSimulationState) : GridSimulationState :=
  let state :=
    if candle.low < lowerBound then
      { state with
        lowerBoundaryBreached := true
        firstLowerBoundaryBreachMs :=
          some (state.firstLowerBoundaryBreachMs.getD candle.openTimeMs)
        boundaryBreachCount := state.boundaryBreachCount + 1 }
    else state
  if upperBound < candle.high then
    { state with
      upperBoundaryBreached := true
      firstUpperBoundaryBreachMs :=
        some (state.firstUpperBoundaryBreachMs.getD candle.openTimeMs)
      boundaryBreachCount := state.boundaryBreachCount + 1 }
  else state

def pathAPoints (candle : Candle) : List ℚ :=
  [candle.openPrice, candle.high, candle.low, candle.close]

def pathBPoints (candle : Candle) : List ℚ :=
  [candle.openPrice, candle.low, candle.high, candle.close]

def recordDivergence (candle : Candle) (selectedPath : PathName) (state : GridSimulationState) :
    GridSimulationState :=
  { state with
    ambiguityEvents := state.ambiguityEvents ++
      [.twoPathDivergence candle.openTimeMs selectedPath] }

/-- Run Two-Path Intrabar Model: the state that the two paths were cloned from, to which the
divergence event is appended, and the chosen clone. -/
def runTwoPaths (params : SimParams) (candle : Candle) (state : GridSimulationState) :
    GridSimulationState × GridSimulationState :=
  let stateA := simulatePath params candle.closeTimeMs state (pathAPoints candle)
  let stateB := simulatePath params candle.closeTimeMs state (pathBPoints candle)
  let selected := selectConservativeState stateA stateB candle.close
  (if selected.2.2 then recordDivergence candle selected.2.1 state else state, selected.1)

/-- `state = chosen_state`: the loop goes on with the clone. -/
def simulateCandle (params : SimParams) (candle : Candle) (state : GridSimulationState) :
    GridSimulationState :=
  (runTwoPaths params candle state).2

theorem simulateCandle_cases (params : SimParams) (candle : Candle) (state : GridSimulationState) :
    simulateCandle params candle state =
        simulatePath params candle.closeTimeMs state (pathAPoints candle) ∨
      simulateCandle params candle state =
        simulatePath params candle.closeTimeMs state (pathBPoints candle) :=
  selectConservativeState_cases _ _ _

theorem simulateCandle_frame {Field : Type} (field : GridSimulationState → Field)
    (params : SimParams)
    (acts : ∀ timestampMs other level action,
      field (performAction params timestampMs level other action) = field other)
    (marks : ∀ timestampMs other price,
      field (other.recordMarkSnapshot timestampMs price) = field other)
    (closes : ∀ timestampMs other price reason,
      field (forceCloseAtTerminal params other price timestampMs reason) = field other)
    (candle : Candle) (state : GridSimulationState) :
    field (simulateCandle params candle state) = field state := by
  have path : ∀ points, field (simulatePath params candle.closeTimeMs state points) =
      field state := fun points => simulatePath_frame field params candle.closeTimeMs
    (acts _) (marks _) (closes _) points state
  rcases simulateCandle_cases params candle state with keptA | keptB
  · rw [keptA]
    exact path (pathAPoints candle)
  · rw [keptB]
    exact path (pathBPoints candle)

def inFundingWindow (candle : Candle) (record : FundingRecord) : Prop :=
  candle.openTimeMs ≤ record.fundingTimeMs ∧ record.fundingTimeMs ≤ candle.closeTimeMs

instance (candle : Candle) (record : FundingRecord) :
    Decidable (inFundingWindow candle record) :=
  inferInstanceAs (Decidable (_ ∧ _))

def settleFunding (candle : Candle) (lotsChanged : Bool) (state : GridSimulationState)
    (record : FundingRecord) : GridSimulationState :=
  if inFundingWindow candle record then
    if lotsChanged then
      { state with
        fundingStatus := .ambiguousFundingBoundary
        ambiguityEvents := state.ambiguityEvents ++
          [.ambiguousFundingBoundary record.fundingTimeMs candle.openTimeMs] }
    else
      match record.markPrice with
      | none => { state with fundingStatus := .incomplete }
      | some mark =>
        if state.fundingStatus = .complete then
          { state with
            accruedFundingPnl := state.accruedFundingPnl +
              -state.computeSignedInventoryNotional mark * record.fundingRate
            fundingSettlementCount := state.fundingSettlementCount + 1 }
        else state
  else state

/-- Whether the candle changed the inventory, as the funding loop measures it. -/
def lotsChanged (before after : GridSimulationState) : Bool :=
  after.openLots.length ≠ before.openLots.length ||
    after.pairedCycleCount ≠ before.pairedCycleCount

/-- One iteration of the candle loop. -/
def processCandle (params : SimParams) (lowerBound upperBound : ℚ)
    (funding : List FundingRecord) (state : GridSimulationState) (candle : Candle) :
    GridSimulationState :=
  let before := recordBreaches lowerBound upperBound candle state
  let chosen := simulateCandle params candle before
  funding.foldl (settleFunding candle (lotsChanged before chosen)) chosen

def simulateCandles (params : SimParams) (lowerBound upperBound : ℚ)
    (funding : List FundingRecord) : GridSimulationState → List Candle → GridSimulationState
  | state, [] => state
  | state, candle :: rest =>
    if state.isTerminal then state
    else
      simulateCandles params lowerBound upperBound funding
        (processCandle params lowerBound upperBound funding state candle) rest

def closeAtHorizon (params : SimParams) (horizonEndMs : Int) (candles : List Candle)
    (state : GridSimulationState) : GridSimulationState :=
  match candles.getLast? with
  | some final =>
    if ¬ state.isTerminal ∧ horizonEndMs ≤ final.closeTimeMs then
      forceCloseAtTerminal params state final.close horizonEndMs .horizon
    else state
  | none => state

/-! ### The report -/

/-- `TacticalGridShadowEvaluationV1`, without identities and policy diagnostics. -/
structure TacticalGridShadowEvaluation where
  symbol : String
  decisionTimeMs : Int
  gridDecision : GridDecision
  referencePrice : Option ℚ
  anchorIndex : Option ℕ
  gridLevels : List ℚ
  evaluationStartMs : Int
  evaluationEndMs : Int
  terminalTimeMs : Option Int
  terminalReason : Option GridTerminalReason
  eligibilityStatus : GridEligibilityStatus
  marketPathComplete : Option Bool
  fundingCoverage : FundingStatus
  ambiguityEvents : List AmbiguityEvent
  pairedCycleCount : ℕ
  pairedGrossPnl : ℚ
  pairedMakerFees : ℚ
  pairedNetPnl : ℚ
  terminalUnpairedGrossPnl : ℚ
  terminalTakerFee : ℚ
  terminalSlippageCost : ℚ
  grossPnlBeforeCosts : ℚ
  totalTradingFees : ℚ
  totalSlippageCost : ℚ
  fundingPnl : Option ℚ
  netPnlAfterFeesSlippage : ℚ
  netPnlAfterFunding : Option ℚ
  maxAbsInventoryNotional : ℚ
  meanAbsInventoryNotionalTimeWeighted : ℚ
  maxOpenLotCount : ℕ
  longInventoryPeak : ℚ
  shortInventoryPeak : ℚ
  peakCapitalUtilization : ℚ
  meanCapitalUtilization : ℚ
  minMarkedEquity : ℚ
  maximumUnderwater : ℚ
  maxDrawdownFromPriorPeak : ℚ
  lowerBoundaryBreached : Bool
  upperBoundaryBreached : Bool
  firstLowerBoundaryBreachMs : Option Int
  firstUpperBoundaryBreachMs : Option Int
  boundaryBreachCount : ℕ
  deriving DecidableEq

def meanAbsInventory (segments : List (Int × ℚ)) : ℚ :=
  let totalTimeMs := (segments.map Prod.fst).sum
  if 0 < totalTimeMs then
    (segments.map fun segment => (segment.1 : ℚ) * segment.2).sum / (totalTimeMs : ℚ)
  else 0

/-- The report of an active plan whose candle loop ended in `state`. -/
def reportEpisode (evidence : TacticalFeatureEvidence) (plan : GridPlanEvidence)
    (referencePrice : ℚ) (params : SimParams) (pathComplete : Bool)
    (state : GridSimulationState) : TacticalGridShadowEvaluation :=
  let grossBeforeCosts := state.pairedGrossPnl + state.terminalUnpairedGrossPnl
  let totalFees := state.pairedMakerFees + state.terminalTakerFee
  let totalSlippage := state.terminalSlippageCost
  let netPnl := grossBeforeCosts - totalFees - totalSlippage
  let fundingPnl :=
    if state.fundingStatus = .complete then some state.accruedFundingPnl else none
  { symbol := evidence.symbol
    decisionTimeMs := evidence.decisionTimeMs
    gridDecision := plan.decision
    referencePrice := some referencePrice
    anchorIndex := some params.anchorIndex
    gridLevels := params.levels
    evaluationStartMs := evidence.decisionTimeMs
    evaluationEndMs := evidence.decisionTimeMs + gridHorizonMs
    terminalTimeMs := state.terminalTimeMs
    terminalReason := state.terminalReason
    eligibilityStatus :=
      if ¬ pathComplete then .pendingDataGap
      else if ¬ state.isTerminal then .pendingHorizon
      else .resolved
    marketPathComplete := some pathComplete
    fundingCoverage := state.fundingStatus
    ambiguityEvents := state.ambiguityEvents
    pairedCycleCount := state.pairedCycleCount
    pairedGrossPnl := state.pairedGrossPnl
    pairedMakerFees := state.pairedMakerFees
    pairedNetPnl := state.pairedGrossPnl - state.pairedMakerFees
    terminalUnpairedGrossPnl := state.terminalUnpairedGrossPnl
    terminalTakerFee := state.terminalTakerFee
    terminalSlippageCost := state.terminalSlippageCost
    grossPnlBeforeCosts := grossBeforeCosts
    totalTradingFees := totalFees
    totalSlippageCost := totalSlippage
    fundingPnl := fundingPnl
    netPnlAfterFeesSlippage := netPnl
    netPnlAfterFunding := fundingPnl.map fun funding => netPnl + funding
    maxAbsInventoryNotional := state.maxAbsInventoryNotional
    meanAbsInventoryNotionalTimeWeighted :=
      meanAbsInventory state.timeWeightedInventorySegments
    maxOpenLotCount := state.maxOpenLotCount
    longInventoryPeak := state.longInventoryPeak
    shortInventoryPeak := state.shortInventoryPeak
    peakCapitalUtilization := state.maxAbsInventoryNotional / 1
    meanCapitalUtilization := meanAbsInventory state.timeWeightedInventorySegments / 1
    minMarkedEquity := state.minMarkedEquity
    maximumUnderwater := min 0 state.minMarkedEquity
    maxDrawdownFromPriorPeak := state.maxDrawdownFromPriorPeak
    lowerBoundaryBreached := state.lowerBoundaryBreached
    upperBoundaryBreached := state.upperBoundaryBreached
    firstLowerBoundaryBreachMs := state.firstLowerBoundaryBreachMs
    firstUpperBoundaryBreachMs := state.firstUpperBoundaryBreachMs
    boundaryBreachCount := state.boundaryBreachCount }

/-- Construct an auditable `NOT_ACTIVE_PAUSE` evaluation. -/
def buildPauseEvaluation (evidence : TacticalFeatureEvidence) :
    TacticalGridShadowEvaluation where
  symbol := evidence.symbol
  decisionTimeMs := evidence.decisionTimeMs
  gridDecision := .pause
  referencePrice := none
  anchorIndex := none
  gridLevels := []
  evaluationStartMs := evidence.decisionTimeMs
  evaluationEndMs := evidence.decisionTimeMs + gridHorizonMs
  terminalTimeMs := none
  terminalReason := none
  eligibilityStatus := .notActivePause
  marketPathComplete := none
  fundingCoverage := .notApplicable
  ambiguityEvents := []
  pairedCycleCount := 0
  pairedGrossPnl := 0
  pairedMakerFees := 0
  pairedNetPnl := 0
  terminalUnpairedGrossPnl := 0
  terminalTakerFee := 0
  terminalSlippageCost := 0
  grossPnlBeforeCosts := 0
  totalTradingFees := 0
  totalSlippageCost := 0
  fundingPnl := none
  netPnlAfterFeesSlippage := 0
  netPnlAfterFunding := none
  maxAbsInventoryNotional := 0
  meanAbsInventoryNotionalTimeWeighted := 0
  maxOpenLotCount := 0
  longInventoryPeak := 0
  shortInventoryPeak := 0
  peakCapitalUtilization := 0
  meanCapitalUtilization := 0
  minMarkedEquity := 0
  maximumUnderwater := 0
  maxDrawdownFromPriorPeak := 0
  lowerBoundaryBreached := false
  upperBoundaryBreached := false
  firstLowerBoundaryBreachMs := none
  firstUpperBoundaryBreachMs := none
  boundaryBreachCount := 0

def strictlyIncreasing : List ℚ → Bool
  | first :: second :: rest => first < second && strictlyIncreasing (second :: rest)
  | _ => true

/-- The checks of an active plan in `validate_tactical_grid_shadow_evaluation` that do not
concern identities; the PAUSE report passes all of them by construction. -/
def validateEvaluation (evaluation : TacticalGridShadowEvaluation) : Except String Unit := do
  if 1 / 10 ^ 6 < evaluation.maxDrawdownFromPriorPeak then
    throw "max_drawdown_from_prior_peak must be non-positive"
  if 1 + 1 / 10 ^ 5 < evaluation.peakCapitalUtilization then
    throw "peak_capital_utilization exceeds 1.0 normalized reference capital"
  if evaluation.gridLevels.length < 4 then
    throw "Grid levels count must be at least 4 (N+1 where N>=3)"
  if ¬ strictlyIncreasing evaluation.gridLevels then
    throw "Grid levels are not strictly monotonic"
  match evaluation.referencePrice with
  | some price =>
    if price ≤ 0 then throw "Active evaluation must have valid positive reference_price"
  | none => throw "Active evaluation must have valid positive reference_price"
  match evaluation.anchorIndex with
  | some anchor =>
    if evaluation.gridLevels.length ≤ anchor then
      throw "Active evaluation must have anchor_index within valid levels range"
  | none => throw "Active evaluation must have anchor_index within valid levels range"
  if evaluation.eligibilityStatus = .resolved then
    match evaluation.terminalReason with
    | some _ => pure ()
    | none => throw "Resolved active evaluation must have valid terminal_reason"
    match evaluation.terminalTimeMs with
    | some time =>
      if ¬ (evaluation.evaluationStartMs ≤ time ∧ time ≤ evaluation.evaluationEndMs) then
        throw "terminal_time_ms must lie within the evaluation window"
    | none => throw "terminal_time_ms must lie within the evaluation window"

def episodeParams (evidence : TacticalFeatureEvidence) (plan : GridPlanEvidence) :
    Except String (SimParams × ℚ × ℚ × ℚ) := do
  match plan.lowerBound, plan.upperBound with
  | some lower, some upper =>
    if plan.gridCount < 3 then throw "Active grid plan has invalid bounds/count"
    let referencePrice ← resolveReferencePrice plan evidence
    let levels ← constructGridLevels lower upper plan.gridCount
    let anchorIndex ← computeAnchorIndex levels referencePrice
    return ({
      gridDecision := plan.decision
      levels := levels
      anchorIndex := anchorIndex
      unitNotional := 1 / plan.gridCount
      makerFeeRate := evidence.makerFeeRate.getD (2 / 10000)
      takerFeeRate := evidence.takerFeeRate.getD (5 / 10000)
      slippageBpsPerSide := evidence.slippageBpsPerSide.getD 2
      stopLoss := plan.stopLoss
      takeProfit := plan.takeProfit }, lower, upper, referencePrice)
  | _, _ => throw "Active grid plan has invalid bounds/count"

/-- The state the candle loop starts from. -/
def initialState (evidence : TacticalFeatureEvidence) (referencePrice : ℚ) :
    GridSimulationState :=
  ({} : GridSimulationState).recordMarkSnapshot evidence.decisionTimeMs referencePrice

/-- `funding_events_sorted`. -/
def sortedFunding (fundingRecords : List FundingRecord) : List FundingRecord :=
  fundingRecords.insertionSort fun first second => first.fundingTimeMs ≤ second.fundingTimeMs

def runEpisode (evidence : TacticalFeatureEvidence) (params : SimParams)
    (lowerBound upperBound referencePrice : ℚ) (candles1m : List Candle)
    (fundingRecords : List FundingRecord) : GridSimulationState :=
  let horizonEndMs := evidence.decisionTimeMs + gridHorizonMs
  let candles := validCandles evidence.decisionTimeMs horizonEndMs candles1m
  closeAtHorizon params horizonEndMs candles
    (simulateCandles params lowerBound upperBound (sortedFunding fundingRecords)
      (initialState evidence referencePrice) candles)

/-- Evaluate realized forward outcome of a frozen grid plan. -/
def evaluateGridShadowEpisode (evidence : TacticalFeatureEvidence)
    (candles1m : List Candle) (fundingRecords : List FundingRecord) :
    Except String TacticalGridShadowEvaluation := do
  match evidence.gridAdvisoryPlan with
  | none => throw "feature evidence has null grid_advisory_plan"
  | some plan =>
    if plan.decision = .pause then return buildPauseEvaluation evidence
    let (params, lower, upper, referencePrice) ← episodeParams evidence plan
    let candles := validCandles evidence.decisionTimeMs
      (evidence.decisionTimeMs + gridHorizonMs) candles1m
    let evaluation := reportEpisode evidence plan referencePrice params
      (marketPathComplete evidence.decisionTimeMs candles)
      (runEpisode evidence params lower upper referencePrice candles1m fundingRecords)
    validateEvaluation evaluation
    return evaluation

def activeEpisode (evidence : TacticalFeatureEvidence) : Option (SimParams × ℚ × ℚ × ℚ) :=
  match evidence.gridAdvisoryPlan with
  | none => none
  | some plan => if plan.decision = .pause then none else (episodeParams evidence plan).toOption

theorem evaluateGridShadowEpisode_cases {evidence : TacticalFeatureEvidence}
    {candles1m : List Candle} {fundingRecords : List FundingRecord}
    {evaluation : TacticalGridShadowEvaluation}
    (completed : evaluateGridShadowEpisode evidence candles1m fundingRecords =
      .ok evaluation) :
    (activeEpisode evidence = none ∧ evaluation = buildPauseEvaluation evidence) ∨
      ∃ plan params lower upper referencePrice,
        activeEpisode evidence = some (params, lower, upper, referencePrice) ∧
        episodeParams evidence plan = .ok (params, lower, upper, referencePrice) ∧
        evaluation = reportEpisode evidence plan referencePrice params
          (marketPathComplete evidence.decisionTimeMs
            (validCandles evidence.decisionTimeMs (evidence.decisionTimeMs + gridHorizonMs)
              candles1m))
          (runEpisode evidence params lower upper referencePrice candles1m
            fundingRecords) := by
  unfold evaluateGridShadowEpisode at completed
  unfold activeEpisode
  cases planned : evidence.gridAdvisoryPlan with
  | none => rw [planned] at completed; cases completed
  | some plan =>
    simp only [planned] at completed
    by_cases paused : plan.decision = .pause
    · rw [if_pos paused] at completed
      cases completed
      exact Or.inl ⟨if_pos paused, rfl⟩
    · rw [if_neg paused] at completed
      cases geometry : episodeParams evidence plan with
      | error message => rw [geometry] at completed; cases completed
      | ok geometryParams =>
        obtain ⟨params, lower, upper, referencePrice⟩ := geometryParams
        rw [geometry] at completed
        refine Or.inr ⟨plan, params, lower, upper, referencePrice, ?_, geometry, ?_⟩
        · show (if plan.decision = .pause then none else _) = _
          rw [if_neg paused, geometry]
          rfl
        · simp only [bind, Except.bind, pure, Except.pure] at completed
          split at completed
          · cases completed
          · cases completed
            rfl

end QuantAgent.Grid
