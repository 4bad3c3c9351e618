/-
This file embeds the grid policy of the market watch and what it remembers from scan to scan. The
bound that must not be lowered is read back from the saved plan; a pause for a trend or for the
derivatives saves none, and a recent support stands in for it.

The saved row therefore holds the bound of the latest active plan, or the first support of the last
such pause since. As long as no such pause comes before a scan below the bound, or leaves a support
above its close, no later plan goes below the bound.
-/

import QuantAgent.MarketWatch.GridEvaluations

namespace QuantAgent.MarketWatch

/-! ### Rounding -/

/-- `round(value)`: a half goes to the even neighbour. -/
def roundHalfEven (value : ℚ) : ℤ :=
  let below := value.floor
  let rest := value - below
  if rest < 1 / 2 then below
  else if 1 / 2 < rest then below + 1
  else if below % 2 = 0 then below else below + 1

/-- `round(value, digits)`. -/
def roundTo (digits : ℕ) (value : ℚ) : ℚ := roundHalfEven (value * 10 ^ digits) / 10 ^ digits

theorem abs_roundHalfEven_sub_le (value : ℚ) : |(roundHalfEven value : ℚ) - value| ≤ 1 / 2 := by
  have below := Rat.floor_le value
  have above := Rat.lt_floor_add_one value
  push_cast at above
  unfold roundHalfEven
  dsimp only
  rw [abs_le]
  split_ifs <;> push_cast <;> constructor <;> linarith

theorem roundHalfEven_mono {first second : ℚ} (le : first ≤ second) :
    roundHalfEven first ≤ roundHalfEven second := by
  have floors : first.floor ≤ second.floor := Int.floor_mono le
  rcases floors.lt_or_eq with less | same
  · have low : roundHalfEven first ≤ first.floor + 1 := by
      unfold roundHalfEven
      dsimp only
      split_ifs <;> omega
    have high : second.floor ≤ roundHalfEven second := by
      unfold roundHalfEven
      dsimp only
      split_ifs <;> omega
    omega
  · have cast : (first.floor : ℚ) = second.floor := congrArg _ same
    unfold roundHalfEven
    dsimp only
    rw [same]
    split_ifs <;> first | omega | (exfalso; linarith)

theorem abs_roundTo_sub_le (digits : ℕ) (value : ℚ) :
    |roundTo digits value - value| ≤ 1 / 2 / 10 ^ digits := by
  have scale : (0 : ℚ) < 10 ^ digits := by positivity
  have near := abs_roundHalfEven_sub_le (value * 10 ^ digits)
  have scaled : roundTo digits value - value =
      (roundHalfEven (value * 10 ^ digits) - value * 10 ^ digits) / 10 ^ digits := by
    unfold roundTo
    field_simp
  rw [scaled, abs_div, abs_of_pos scale]
  exact div_le_div_of_nonneg_right near scale.le

theorem roundTo_mono (digits : ℕ) {first second : ℚ} (le : first ≤ second) :
    roundTo digits first ≤ roundTo digits second := by
  have scale : (0 : ℚ) < 10 ^ digits := by positivity
  have rounded : roundHalfEven (first * 10 ^ digits) ≤ roundHalfEven (second * 10 ^ digits) :=
    roundHalfEven_mono (mul_le_mul_of_nonneg_right le scale.le)
  exact div_le_div_of_nonneg_right (Int.cast_le.mpr rounded) scale.le

/-- The text of a number with that many decimals. -/
def fixed (digits : ℕ) (value : ℚ) : String :=
  let scaled := roundHalfEven (value * 10 ^ digits)
  let rest := Nat.toDigits 10 (scaled.natAbs % 10 ^ digits)
  (if scaled < 0 then "-" else "") ++ toString (scaled.natAbs / 10 ^ digits) ++ "." ++
    String.ofList (rest.leftpad digits '0')

/-! ### The policy -/

inductive Regime where
  | trendUp
  | trendDown
  | range
  | highVolatility
  | transition
  deriving DecidableEq

inductive DerivativesRegime where
  | healthyLongBuild
  | healthyShortBuild
  | shortCovering
  | longLiquidation
  | longCrowding
  | shortCrowding
  | leverageBuildNoDirection
  | deleveraging
  | neutral
  | unknown
  deriving DecidableEq

/-- What the policy reads of a timeframe. -/
structure Timeframe where
  close : ℚ
  emaMid : ℚ
  emaMidSlope : ℚ
  atr : ℚ
  adx : ℚ
  supports : List ℚ
  resistances : List ℚ
  regime : Regime

theorem default_limits : (0 : ℚ) ≤ 1 / 4 ∧ (0 : ℚ) ≤ 1 ∧ (0 : ℚ) ≤ 25 := by decide +kernel

structure GridConfig where
  defaultGridCount : ℕ := 10
  minGridProfitPct : ℚ := 1 / 4
  atrBufferMult : ℚ := 1
  maxTrendAdx : ℚ := 25
  defaultGridCount_positive : 0 < defaultGridCount := by decide
  limits_nonneg : 0 ≤ minGridProfitPct ∧ 0 ≤ atrBufferMult ∧ 0 ≤ maxTrendAdx := by
    first | exact MarketWatch.default_limits | decide +kernel

structure GridPlan where
  symbol : String
  decision : GridDecision
  lowerBound : Option ℚ := none
  upperBound : Option ℚ := none
  gridCount : ℕ := 0
  estimatedGridPct : Option ℚ := none
  stopLoss : Option ℚ := none
  takeProfit : Option ℚ := none
  reasonCodes : List String := []

/-- What one scan sees. -/
structure GridInput where
  tf1h : Timeframe
  tf15m : Timeframe
  derivatives : DerivativesRegime

section

variable (config : GridConfig) (symbol : String)

/-- The first check: a strong trend or a high volatility. -/
def GridInput.Unsuitable (input : GridInput) : Prop :=
  input.tf1h.regime ∈ [.trendUp, .trendDown, .highVolatility] ∨ config.maxTrendAdx ≤ input.tf1h.adx

/-- The second check: a severe imbalance of the derivatives. -/
def GridInput.Imbalanced (input : GridInput) : Prop :=
  input.derivatives ∈ [.deleveraging, .longLiquidation, .longCrowding, .shortCrowding]

/-- The third check: the close lies below the bound of the previous grid. -/
def GridInput.Breaches (input : GridInput) (previous : Option GridPlan) : Prop :=
  ∃ plan ∈ previous, ∃ bound ∈ plan.lowerBound, input.tf15m.close < bound

/-- One of the first two checks pauses the scan; such a pause saves no bounds. -/
def GridInput.Forgets (input : GridInput) : Prop := input.Unsuitable config ∨ input.Imbalanced

instance (input : GridInput) : Decidable (input.Unsuitable config) :=
  inferInstanceAs (Decidable (_ ∨ _))

instance (input : GridInput) : Decidable input.Imbalanced :=
  inferInstanceAs (Decidable (_ ∈ _))

instance (input : GridInput) : Decidable (input.Forgets config) :=
  inferInstanceAs (Decidable (_ ∨ _))

instance (input : GridInput) (previous : Option GridPlan) : Decidable (input.Breaches previous) :=
  inferInstanceAs (Decidable (∃ _ ∈ _, _))

def rangeGrid (input : GridInput) : GridPlan :=
  let tf1h := input.tf1h
  let close := input.tf15m.close
  let atr := max tf1h.atr (1 / 1000000)
  let buffer := config.atrBufferMult * (1 / 2) * atr
  let support := tf1h.supports.getLast?.getD (close - 5 / 2 * atr)
  let resistance := tf1h.resistances.getLast?.getD (close + 5 / 2 * atr)
  let lowerBound := roundTo 4 (max (1 / 10000) (support - buffer))
  let upperBound := roundTo 4 (resistance + buffer)
  let upperBound := if upperBound ≤ lowerBound then roundTo 4 (lowerBound + 3 * atr) else upperBound
  let totalRange := (upperBound - lowerBound) / lowerBound
  let step := totalRange / config.defaultGridCount * 100
  let gridCount := if step < config.minGridProfitPct
    then max 3 (totalRange * 100 / config.minGridProfitPct).floor.toNat
    else config.defaultGridCount
  let step := totalRange / gridCount * 100
  let (decision, reason) : GridDecision × String :=
    if tf1h.emaMid < tf1h.close ∧ 0 ≤ tf1h.emaMidSlope
      then (.longBias, "PRICE_ABOVE_MID_EMA_LONG_BIAS")
    else if tf1h.close < tf1h.emaMid ∧ tf1h.emaMidSlope ≤ 0
      then (.shortBias, "PRICE_BELOW_MID_EMA_SHORT_BIAS")
    else (.neutral, "RANGE_BALANCED_NEUTRAL_GRID")
  { symbol, decision, gridCount
    lowerBound := some lowerBound
    upperBound := some upperBound
    estimatedGridPct := some (roundTo 3 step)
    stopLoss := some (roundTo 4 (lowerBound - atr))
    takeProfit := some (roundTo 4 (upperBound + atr))
    reasonCodes := [reason, "GRID_SPAN_" ++ fixed 2 step ++ "%_PER_STEP"] }

def evaluateGridPolicy (input : GridInput) (previous : Option GridPlan) : GridPlan :=
  if input.Unsuitable config then
    { symbol, decision := .pause
      reasonCodes := ["HIGH_ADX_OR_TREND_DOMINANT", "GRID_UNSUITABLE_IN_TREND"] }
  else if input.Imbalanced then
    { symbol, decision := .pause
      reasonCodes := ["DERIVATIVES_IMBALANCE_ACTIVE", "GRID_PAUSED_FOR_SAFETY"] }
  else if input.Breaches previous then
    { symbol, decision := .pause
      lowerBound := previous.bind fun plan => plan.lowerBound
      upperBound := previous.bind fun plan => plan.upperBound
      reasonCodes := ["LOWER_BOUND_BREACHED", "AVOID_BLIND_LOWERING_KNIFE_ACCUMULATION",
        "GRID_TRANSITIONED_TO_PAUSE"] }
  else rangeGrid config symbol input

/-! ### From scan to scan -/

/-- The columns of the symbol's state that the next grid is made from. -/
structure SavedGrid where
  gridDecision : GridDecision
  gridLowerBound : Option ℚ
  gridUpperBound : Option ℚ
  recentSupport : Option ℚ
  recentResistance : Option ℚ

/-- The previous grid, as `assess_symbol` reconstructs it. -/
def SavedGrid.plan (saved : SavedGrid) : GridPlan where
  symbol := symbol
  decision := saved.gridDecision
  lowerBound := saved.gridLowerBound.or saved.recentSupport
  upperBound := saved.gridUpperBound.or saved.recentResistance

/-- What `save_symbol_state` saves of the plan and of the levels. -/
def saveGrid (input : GridInput) (plan : GridPlan) : SavedGrid where
  gridDecision := plan.decision
  gridLowerBound := plan.lowerBound
  gridUpperBound := plan.upperBound
  recentSupport := input.tf1h.supports.head?.map (roundTo 2)
  recentResistance := input.tf1h.resistances.head?.map (roundTo 2)

/-- What a scan saw and the plan that it issued. -/
structure GridScan where
  input : GridInput
  plan : GridPlan

/-- The saved state of a symbol, and the scans so far. -/
structure GridWatch where
  saved : Option SavedGrid := none
  scans : List GridScan := []

def GridWatch.scan (watch : GridWatch) (input : GridInput) : GridWatch :=
  let plan := evaluateGridPolicy config symbol input (watch.saved.map (SavedGrid.plan symbol))
  ⟨some (saveGrid input plan), watch.scans ++ [⟨input, plan⟩]⟩

end

/-! ### The bound that must not be lowered -/

/-- The scan at the index issued an active plan with that lower bound. -/
def ActiveAt (scans : List GridScan) (index : ℕ) (bound : ℚ) : Prop :=
  ∃ scan, scans[index]? = some scan ∧ scan.plan.decision ≠ .pause ∧
    scan.plan.lowerBound = some bound

/-- Once a close falls below the bound of the most recent active plan, no plan is issued below it
until a close lies at or above it. -/
def NeverLowers (scans : List GridScan) : Prop :=
  ∀ placed breached later bound lower, ActiveAt scans placed bound → placed < breached →
    (∀ index other, placed < index → index < breached → ¬ ActiveAt scans index other) →
    breached ≤ later →
    (∀ index scan, breached ≤ index → index ≤ later → scans[index]? = some scan →
      scan.input.tf15m.close < bound) →
    ActiveAt scans later lower → bound ≤ lower

/-- The lower bound of the latest active plan. -/
def latestBound (scans : List GridScan) : Option ℚ :=
  scans.foldl (fun latest scan =>
    if scan.plan.decision = .pause then latest else scan.plan.lowerBound) none

/-- The first support of the last scan that has forgotten the bound since the latest active plan,
if one has; that scan may have seen no support. -/
def forgotten (config : GridConfig) (scans : List GridScan) : Option (Option ℚ) :=
  scans.foldl (fun left scan =>
    if scan.input.Forgets config then some scan.input.tf1h.supports.head?
    else if scan.plan.decision = .pause then left else none) none

/-- A scan below the bound that the first two checks let pass comes after no pause that forgot the
bound, or the support that the last of these left lies above its close. -/
def GridWatch.Guarded (config : GridConfig) (watch : GridWatch) (input : GridInput) : Prop :=
  ∀ bound ∈ latestBound watch.scans, input.tf15m.close < bound → ¬ input.Forgets config →
    ∀ support ∈ forgotten config watch.scans, ∃ level ∈ support,
      input.tf15m.close < roundTo 2 level

/-- The next scan finds the bound of the latest active plan or, once that is forgotten, a support in
its place. -/
def GridWatch.Remembers (config : GridConfig) (symbol : String) (watch : GridWatch) : Prop :=
  (watch.saved.bind fun saved => (saved.plan symbol).lowerBound) =
    match forgotten config watch.scans with
    | none => latestBound watch.scans
    | some support => support.map (roundTo 2)

variable {config : GridConfig} {symbol : String} {watch : GridWatch} {input : GridInput}
  {scans : List GridScan} {previous : Option GridPlan}

/-! ### The three answers of the policy -/

theorem evaluateGridPolicy_forgets (forgets : input.Forgets config) :
    (evaluateGridPolicy config symbol input previous).decision = .pause ∧
      (evaluateGridPolicy config symbol input previous).lowerBound = none := by
  unfold evaluateGridPolicy
  by_cases unsuitable : input.Unsuitable config
  · rw [if_pos unsuitable]
    exact ⟨rfl, rfl⟩
  · rw [if_neg unsuitable, if_pos (forgets.resolve_left unsuitable)]
    exact ⟨rfl, rfl⟩

theorem evaluateGridPolicy_breaches (suitable : ¬ input.Forgets config)
    (breaches : input.Breaches previous) :
    (evaluateGridPolicy config symbol input previous).decision = .pause ∧
      (evaluateGridPolicy config symbol input previous).lowerBound =
        previous.bind GridPlan.lowerBound := by
  unfold evaluateGridPolicy
  rw [if_neg (suitable ∘ .inl), if_neg (suitable ∘ .inr), if_pos breaches]
  exact ⟨rfl, rfl⟩

theorem evaluateGridPolicy_ranges (suitable : ¬ input.Forgets config)
    (above : ¬ input.Breaches previous) :
    evaluateGridPolicy config symbol input previous = rangeGrid config symbol input := by
  unfold evaluateGridPolicy
  rw [if_neg (suitable ∘ .inl), if_neg (suitable ∘ .inr), if_neg above]

theorem rangeGrid_active : (rangeGrid config symbol input).decision ≠ .pause := by
  unfold rangeGrid
  dsimp only
  split_ifs <;> exact nofun

theorem evaluateGridPolicy_active
    (active : (evaluateGridPolicy config symbol input previous).decision ≠ .pause) :
    (evaluateGridPolicy config symbol input previous).lowerBound.isSome = true := by
  have suitable : ¬ input.Forgets config := fun forgets =>
    active (evaluateGridPolicy_forgets forgets).1
  rw [evaluateGridPolicy_ranges suitable fun breaches =>
    active (evaluateGridPolicy_breaches suitable breaches).1]
  rfl

/-! ### What the saved row remembers -/

theorem forgotten_append (scan : GridScan) :
    forgotten config (scans ++ [scan]) =
      if scan.input.Forgets config then some scan.input.tf1h.supports.head?
      else if scan.plan.decision = .pause then forgotten config scans else none := by
  unfold forgotten
  rw [List.foldl_append]
  rfl

theorem latestBound_append (scan : GridScan) :
    latestBound (scans ++ [scan]) =
      if scan.plan.decision = .pause then latestBound scans else scan.plan.lowerBound := by
  unfold latestBound
  rw [List.foldl_append]
  rfl

/-- One scan keeps the memory: a pause below the bound saves it again, and only the first two checks
lose it. -/
theorem GridWatch.Remembers.scan (remembers : watch.Remembers config symbol) :
    (watch.scan config symbol input).Remembers config symbol := by
  unfold GridWatch.Remembers GridWatch.scan at *
  rw [forgotten_append, latestBound_append]
  dsimp only [saveGrid, SavedGrid.plan, Option.bind_some]
  by_cases forgets : input.Forgets config
  · rw [if_pos forgets, (evaluateGridPolicy_forgets forgets).2]
    rfl
  rw [if_neg forgets]
  by_cases breaches : input.Breaches (watch.saved.map (SavedGrid.plan symbol))
  · obtain ⟨paused, kept⟩ := @evaluateGridPolicy_breaches config symbol _ _ forgets breaches
    obtain ⟨plan, found, bound, held, -⟩ := breaches
    rw [if_pos paused, if_pos paused, kept, ← remembers, Option.bind_map]
    obtain ⟨saved, isSaved, rfl⟩ := Option.map_eq_some_iff.mp found
    rw [isSaved]
    show Option.or (saved.plan symbol).lowerBound _ = (saved.plan symbol).lowerBound
    rw [held]
    rfl
  · rw [evaluateGridPolicy_ranges forgets breaches, if_neg rangeGrid_active,
      if_neg rangeGrid_active]
    rfl

variable {bound : ℚ}

/-- A guarded scan below the bound is paused. -/
theorem GridWatch.Remembers.pauses (remembers : watch.Remembers config symbol)
    (guarded : watch.Guarded config input) (latest : latestBound watch.scans = some bound)
    (below : input.tf15m.close < bound) :
    (evaluateGridPolicy config symbol input
      (watch.saved.map (SavedGrid.plan symbol))).decision = .pause := by
  by_cases forgets : input.Forgets config
  · exact (evaluateGridPolicy_forgets forgets).1
  refine (evaluateGridPolicy_breaches forgets ?_).1
  have held : ∃ bound, (watch.saved.bind fun saved => (saved.plan symbol).lowerBound) =
      some bound ∧ input.tf15m.close < bound := by
    unfold GridWatch.Remembers at remembers
    rw [remembers]
    cases left : forgotten config watch.scans with
    | none => exact ⟨bound, latest, below⟩
    | some support =>
      obtain ⟨level, rfl, above⟩ := guarded bound latest below forgets support left
      exact ⟨_, rfl, above⟩
  obtain ⟨bound, found, above⟩ := held
  obtain ⟨saved, isSaved, named⟩ := Option.bind_eq_some_iff.mp found
  exact ⟨_, Option.map_eq_some_iff.mpr ⟨saved, isSaved, rfl⟩, bound, named, above⟩

variable {index : ℕ}

theorem getElem?_concat_eq_some {scan found : GridScan} :
    (scans ++ [scan])[index]? = some found ↔
      scans[index]? = some found ∨ index = scans.length ∧ found = scan := by
  grind

theorem activeAt_append {scan : GridScan} :
    ActiveAt (scans ++ [scan]) index bound ↔ ActiveAt scans index bound ∨
      index = scans.length ∧ scan.plan.decision ≠ .pause ∧ scan.plan.lowerBound = some bound := by
  simp only [ActiveAt, getElem?_concat_eq_some, or_and_right, exists_or, and_assoc,
    exists_and_left, exists_eq_left]

theorem ActiveAt.unique {bound other : ℚ} (active : ActiveAt scans index bound)
    (again : ActiveAt scans index other) : bound = other := by
  obtain ⟨scan, held, -, bounded⟩ := active
  obtain ⟨same, heldAgain, -, boundedAgain⟩ := again
  obtain rfl := Option.some.inj (held.symm.trans heldAgain)
  exact Option.some.inj (bounded.symm.trans boundedAgain)

theorem ActiveAt.index_lt (active : ActiveAt scans index bound) :
    index < scans.length := by
  obtain ⟨scan, held, -⟩ := active
  exact (List.getElem?_eq_some_iff.mp held).1

theorem exists_latest (latest : latestBound scans = some bound) :
    ∃ index, ActiveAt scans index bound ∧
      ∀ later other, index < later → ¬ ActiveAt scans later other := by
  induction scans using List.reverseRecOn with
  | nil => cases latest
  | append_singleton scans scan inductionHypothesis =>
    rw [latestBound_append] at latest
    split at latest
    · next pause =>
      obtain ⟨index, active, last⟩ := inductionHypothesis latest
      refine ⟨index, activeAt_append.mpr (.inl active), fun later other after held => ?_⟩
      obtain old | ⟨-, running, -⟩ := activeAt_append.mp held
      · exact last later other after old
      · exact running pause
    · next running =>
      refine ⟨scans.length, activeAt_append.mpr (.inr ⟨rfl, running, latest⟩), ?_⟩
      intro later other after held
      have inside := held.index_lt
      rw [List.length_append, List.length_singleton] at inside
      omega

theorem isSome_latestBound (bounded : ∀ scan ∈ scans, scan.plan.decision ≠ .pause →
    scan.plan.lowerBound.isSome = true)
    (active : ActiveAt scans index bound) : (latestBound scans).isSome = true := by
  induction scans using List.reverseRecOn with
  | nil =>
    obtain ⟨scan, held, -⟩ := active
    cases held
  | append_singleton scans scan inductionHypothesis =>
    rw [latestBound_append]
    split
    · next pause =>
      obtain old | ⟨-, running, -⟩ := activeAt_append.mp active
      · exact inductionHypothesis (fun other own => bounded other (List.mem_append_left _ own)) old
      · exact absurd pause running
    · next running => exact bounded scan (by simp) running

/-! ### Runs -/

structure GridWatch.Kept (config : GridConfig) (symbol : String) (watch : GridWatch) : Prop where
  remembers : watch.Remembers config symbol
  bounded : ∀ scan ∈ watch.scans, scan.plan.decision ≠ .pause →
    scan.plan.lowerBound.isSome = true
  neverLowers : NeverLowers watch.scans

theorem GridWatch.Kept.scan (kept : watch.Kept config symbol)
    (guarded : watch.Guarded config input) :
    (watch.scan config symbol input).Kept config symbol := by
  refine ⟨kept.remembers.scan, fun scan member active => ?_, ?_⟩
  · obtain old | rfl := (List.mem_append.mp member).imp_right List.mem_singleton.mp
    · exact kept.bounded scan old active
    · exact evaluateGridPolicy_active active
  · intro placed breached later bound lower active after between reached below issued
    have within := issued.index_lt
    rw [GridWatch.scan, List.length_append, List.length_singleton] at within
    have placedBefore : ActiveAt watch.scans placed bound := by
      obtain old | ⟨rfl, -⟩ := activeAt_append.mp active
      · exact old
      · omega
    have belowBefore {last : ℕ} (reach : last ≤ later) : ∀ index scan, breached ≤ index →
        index ≤ last → watch.scans[index]? = some scan → scan.input.tf15m.close < bound :=
      fun index scan from_ upTo held =>
        below index scan from_ (upTo.trans reach) (getElem?_concat_eq_some.mpr (.inl held))
    have betweenBefore : ∀ index other, placed < index → index < breached →
        ¬ ActiveAt watch.scans index other := fun index other first last held =>
      between index other first last (activeAt_append.mpr (.inl held))
    obtain old | ⟨rfl, running, bounded⟩ := activeAt_append.mp issued
    · exact kept.neverLowers placed breached later bound lower placedBefore after betweenBefore
        reached (belowBefore le_rfl) old
    -- The plan is the new one; no earlier bound above it was left.
    · obtain ⟨latest, found⟩ := Option.isSome_iff_exists.mp
        (isSome_latestBound kept.bounded placedBefore)
      obtain ⟨index, activeIndex, last⟩ := exists_latest found
      have raised : bound ≤ latest := by
        obtain same | later' : index = placed ∨ placed < index := by
          by_contra none
          exact last placed bound (by omega) placedBefore
        · subst same
          exact (placedBefore.unique activeIndex).le
        · have past : breached ≤ index := by
            by_contra early
            exact betweenBefore index latest later' (by omega) activeIndex
          exact kept.neverLowers placed breached index bound latest placedBefore after
            betweenBefore past (belowBefore activeIndex.index_lt.le) activeIndex
      have close : input.tf15m.close < bound :=
        below _ _ reached le_rfl (getElem?_concat_eq_some.mpr (.inr ⟨rfl, rfl⟩))
      exact absurd (kept.remembers.pauses guarded found (close.trans_le raised)) running

/-- In a run whose scans are guarded, no plan is issued below the bound. -/
theorem grid_never_lowers (config : GridConfig) (symbol : String) (inputs : List GridInput)
    (guarded : Runs.Each (GridWatch.scan config symbol) (GridWatch.Guarded config) {} inputs) :
    Runs.Throughout (GridWatch.scan config symbol) (fun watch => NeverLowers watch.scans) {}
      inputs := by
  have initially : GridWatch.Kept config symbol {} := by
    refine ⟨rfl, List.forall_mem_nil _, ?_⟩
    rintro placed breached later bound lower ⟨scan, held, -⟩
    cases held
  exact (Runs.throughout_of_each (fun _ _ kept step => GridWatch.Kept.scan kept step) initially
    guarded).mono fun watch kept => kept.neverLowers

/-- A scan that is not guarded issues a plan, and where its grid lies below the bound the bound is
lowered. -/
theorem lowered_of_forgotten (remembers : watch.Remembers config symbol) {support : Option ℚ}
    {lower : ℚ} (latest : latestBound watch.scans = some bound)
    (below : input.tf15m.close < bound) (suitable : ¬ input.Forgets config)
    (left : forgotten config watch.scans = some support)
    (under : ∀ level ∈ support, roundTo 2 level ≤ input.tf15m.close)
    (laid : (rangeGrid config symbol input).lowerBound = some lower) (lowered : lower < bound) :
    ¬ NeverLowers (watch.scan config symbol input).scans := by
  intro never
  have above : ¬ input.Breaches (watch.saved.map (SavedGrid.plan symbol)) := by
    rintro ⟨plan, found, held, named, breached⟩
    obtain ⟨saved, isSaved, rfl⟩ := Option.map_eq_some_iff.mp found
    unfold GridWatch.Remembers at remembers
    rw [left, isSaved, Option.bind_some, named] at remembers
    obtain ⟨level, seen, rfl⟩ := Option.map_eq_some_iff.mp remembers.symm
    exact absurd breached (not_lt.mpr (under level seen))
  obtain ⟨index, active, last⟩ := exists_latest latest
  have issued : ActiveAt (watch.scan config symbol input).scans watch.scans.length lower := by
    refine activeAt_append.mpr (.inr ⟨rfl, ?_⟩)
    rw [evaluateGridPolicy_ranges suitable above]
    exact ⟨rangeGrid_active, laid⟩
  refine absurd (never index _ _ bound lower (activeAt_append.mpr (.inl active)) active.index_lt
    (fun later other after before held => ?_) le_rfl (fun later scan from_ upTo held => ?_) issued)
    (not_le.mpr lowered)
  · obtain old | ⟨rfl, -⟩ := activeAt_append.mp held
    · exact last later other after old
    · exact before.false
  · obtain old | ⟨-, rfl⟩ := getElem?_concat_eq_some.mp held
    · exact absurd (List.getElem?_eq_some_iff.mp old).1 (not_lt.mpr from_)
    · exact below

/-! ### What is remembered and what is forgotten -/

instance (config : GridConfig) (watch : GridWatch) :
    DecidablePred (GridWatch.Guarded config watch) :=
  fun _ => inferInstanceAs (Decidable (∀ _ ∈ _, _))

def scanAt (regime : Regime) (close support : ℚ) : GridInput where
  tf1h := ⟨close, close, 0, 1, 10, [support], [support + 10], regime⟩
  tf15m := ⟨close, close, 0, 1, 10, [], [], regime⟩
  derivatives := .neutral

/-- The close falls in a trend, whose pause forgets the bound. -/
def fallingKnife : List GridInput :=
  [scanAt .range 105 100, scanAt .trendDown 95 90, scanAt .range 95 90]

/-- The next plan lies ten below the bound. -/
theorem falling_knife_lowered : ¬ ∀ (config : GridConfig) (symbol : String)
    (inputs : List GridInput), Runs.Throughout (GridWatch.scan config symbol)
      (fun watch => NeverLowers watch.scans) {} inputs := by
  intro law
  have never := (law {} "BTCUSDT" fallingKnife).last
  have lowered := never 0 1 2 (199 / 2) (179 / 2)
    ⟨_, rfl, by decide +kernel, by decide +kernel⟩ (by omega) (fun index other => by omega)
    (by omega) ?_ ⟨_, rfl, by decide +kernel, by decide +kernel⟩
  · exact absurd lowered (by norm_num)
  · intro index scan first last held
    obtain rfl | rfl : index = 1 ∨ index = 2 := by omega
    · obtain rfl := Option.some.inj held
      decide +kernel
    · obtain rfl := Option.some.inj held
      decide +kernel

/-- A close that falls in a range leads into a pause that remembers the bound; after the trend the
support above the close keeps the grid paused. -/
theorem falling_close_paused :
    Runs.Throughout (GridWatch.scan {} "BTCUSDT") (fun watch => NeverLowers watch.scans) {}
      [scanAt .range 105 100, scanAt .range 95 90, scanAt .trendDown 95 97, scanAt .range 96 90] :=
  grid_never_lowers {} "BTCUSDT" _ (by decide +kernel)

end QuantAgent.MarketWatch
