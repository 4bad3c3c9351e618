/-
This file embeds how the execution service turns a signal into an entry plan: the signal is
revalidated, its levels are rounded to ticks, and its risk is turned into a quantity of whole steps.

Each rounding is forgiving by `10⁻¹²`, so that a level a hair beside a tick counts as on it. The
plan therefore keeps the entry range and the recommended notional up to that tolerance, while the
loss at the stop is checked after all roundings. Arithmetic is exact.
-/

import QuantAgent.Execution.Records

namespace QuantAgent.Execution.Entry

/-! ### Configuration -/

inductive Direction where
  | long
  | short
  deriving DecidableEq

inductive ExecutionMode where
  | disabled
  | paper
  | testnet
  | live
  deriving DecidableEq

def ExecutionMode.text : ExecutionMode → String
  | disabled => "disabled"
  | paper => "paper"
  | testnet => "testnet"
  | live => "live"

/-- The fields of `ExecutionConfig` that the service reads. -/
structure ExecutionConfig where
  mode : ExecutionMode := .disabled
  autoExecute : Bool := false
  allowLive : Bool := false
  maxLeverage : Int := 5
  maxNotionalUsdt : ℚ := 100
  maxDailyLossUsdt : ℚ := 2
  maxOpenPositions : Int := 1
  planTtlSeconds : Int := 120
  positionMode : String := "ONE_WAY"
  marginType : String := "ISOLATED"
  entryOrderType : String := "LIMIT"
  requireProtectiveOrders : Bool := true
  testnetBaseUrl : String := "https://testnet.binancefuture.com"

/-- `ExecutionEnvironmentAuthority`, but for its two constant fields. -/
structure EnvironmentAuthority where
  mode : ExecutionMode
  environmentId : String
  normalizedRestBaseUrl : String
  credentialNamespaceId : String
  accountAuthorityId : String
  positionModeAssumption : String
  marginModeAssumption : String

namespace ExecutionMode

/-- `CANONICAL_ENVIRONMENT_MAP`. -/
def environmentId : ExecutionMode → String
  | disabled => "disabled"
  | paper => "local_paper"
  | testnet => "binance_usdm_testnet"
  | live => "binance_usdm_live"

/-- `CANONICAL_CREDENTIAL_NAMESPACE_MAP`. -/
def credentialNamespaceId : ExecutionMode → String
  | disabled | paper => "NONE"
  | testnet => "BINANCE_TESTNET"
  | live => "BINANCE_LIVE"

/-- `CANONICAL_ACCOUNT_AUTHORITY_MAP`. -/
def accountAuthorityId : ExecutionMode → String
  | disabled => "DISABLED"
  | paper => "DEFAULT_PAPER_ACCOUNT"
  | testnet => "BINANCE_TESTNET_DEFAULT"
  | live => "BINANCE_LIVE_DEFAULT"

/-- `CANONICAL_URL_MAP`. -/
def canonicalUrl : ExecutionMode → String
  | disabled => ""
  | paper => "local://paper"
  | testnet => "https://testnet.binancefuture.com"
  | live => "https://fapi.binance.com"

end ExecutionMode

def ExecutionConfig.url (config : ExecutionConfig) (liveUrl : String) : String :=
  match config.mode with
  | .disabled => ""
  | .paper => "local://paper"
  | .testnet => config.testnetBaseUrl
  | .live => liveUrl

/-- `from_config`; the first argument is `normalize_rest_base_url`. -/
def EnvironmentAuthority.fromConfig (normalize : String → String) (config : ExecutionConfig)
    (liveUrl : String) : Except Fault EnvironmentAuthority := do
  let url := if config.mode ∈ [.testnet, .live] then normalize (config.url liveUrl)
    else config.url liveUrl
  refuse (config.mode ∈ [.testnet, .live] ∧ url ≠ normalize config.mode.canonicalUrl)
    (.blocked ("endpoint/environment mismatch: '" ++ url ++ "' is not allowlisted for '" ++
      config.mode.environmentId ++ "'"))
  pure {
    mode := config.mode
    environmentId := config.mode.environmentId
    normalizedRestBaseUrl := url
    credentialNamespaceId := config.mode.credentialNamespaceId
    accountAuthorityId := config.mode.accountAuthorityId
    positionModeAssumption := config.positionMode
    marginModeAssumption := config.marginType }

/-! ### Signals and plans -/

inductive SignalStatus where
  | active
  | expired
  | invalidated
  | resolvedWin
  | resolvedLoss
  | resolvedTimeout
  deriving DecidableEq

/-- The fields of a signal that the service reads. -/
structure Signal where
  signalId : String
  validationStatus : String
  symbol : String
  direction : Direction
  status : SignalStatus
  dataTimestampMs : Int
  expiresAtMs : Int
  entryLow : ℚ
  entryHigh : ℚ
  stopLoss : ℚ
  takeProfit : ℚ
  recommendedNotional : ℚ
  displayLeverage : ℚ
  maxLossUsdt : ℚ
  estimatedFeeUsdt : ℚ
  estimatedSlippageUsdt : ℚ
  estimatedFundingUsdt : ℚ
  dataHealth : String := "OK"

structure ExecutionPlan where
  planId : String
  signalId : String
  symbol : String
  direction : Direction
  mode : ExecutionMode
  orderType : String
  quantity : ℚ
  entryPrice : ℚ
  stopPrice : ℚ
  takeProfitPrice : ℚ
  notionalUsdt : ℚ
  leverage : Int
  validationStatus : String
  createdAtMs : Int
  expiresAtMs : Int
  signalExpiresAtMs : Int
  roundedRrNet : ℚ
  estimatedMaxLossUsdt : ℚ
  planHash : String
  executionEnvironmentId : String := "local_paper"
  credentialNamespaceId : String := "NONE"
  accountAuthorityId : String := "DEFAULT_PAPER_ACCOUNT"

structure SymbolFilters where
  stepSize : ℚ
  minQuantity : ℚ
  tickSize : ℚ
  minNotional : ℚ

structure Digests where
  planId : (signalId : String) → (createdAtMs : Int) → String
  calculatedHash : ExecutionPlan → String
  normalizeRestBaseUrl : String → String

/-! ### Revalidation -/

/-- What `load_registry` says. -/
structure Registry where
  activeActionable : Bool
  qualifiedDirectionEngineCount : Int

/-- `_assert_signal_registry_actionable`; a registry that cannot be loaded is `none`. -/
def assertSignalRegistryActionable (registry : Option Registry) : Except Fault Unit :=
  refuse (¬ ∃ loaded ∈ registry, loaded.activeActionable = true ∧
      loaded.qualifiedDirectionEngineCount ≠ 0)
    (.blocked "RESEARCH_REGISTRY_NOT_ACTIONABLE")

/-- What the revalidation of a signal reads: the stored signal, the candles or why there are none,
the close of the latest one, why the engine would give the signal up, and the signal read again. -/
structure Revalidation where
  stored : Option Signal
  candles : Except String (Option Int)
  invalidationReason : Option String
  refreshed : Option Signal

def Signal.assertStands (signal : Signal) (invalidationReason : Option String) :
    Option Int → Except Fault Unit
  | none => .error (.blocked "latest closed 15m market state is unavailable")
  | some closeTimeMs =>
    match invalidationReason with
    | some reason =>
      refuse (signal.dataTimestampMs < closeTimeMs)
        (.blocked ("signal failed execution revalidation: " ++ reason))
    | none => .ok ()

def refreshSignalState (signalId : String) (revalidation : Revalidation) (current : Int) :
    Except Fault Signal :=
  match revalidation.stored with
  | none => .error (.keyError ("unknown signal: " ++ signalId))
  | some signal => do
    refuse (signal.dataHealth ≠ "OK") (.blocked "signal data_health is not OK")
    refuse (signal.expiresAtMs < current)
      (.blocked "signal TTL expired during execution revalidation")
    let latest ← revalidation.candles.mapError fun failure =>
      .blocked ("failed to refresh market state: " ++ failure)
    signal.assertStands revalidation.invalidationReason latest
    match revalidation.refreshed with
    | none => throw (.other "AssertionError")
    | some refreshed =>
      refuse (refreshed.status ≠ .active) (.blocked "signal is no longer ACTIVE")
      pure refreshed

/-! ### Rounding -/

abbrev zeroDivision : Fault := .other "ZeroDivisionError"

/-- How far beside a multiple still counts as on it. -/
def tolerance : ℚ := 1 / 10 ^ 12

def floorTo (value increment : ℚ) : Except Fault ℚ := do
  refuse (increment ≤ 0) (.blocked "exchange filter increment is unavailable")
  pure (⌊(value + tolerance) / increment⌋ * increment)

def ceilTo (value increment : ℚ) : Except Fault ℚ := do
  refuse (increment ≤ 0) (.blocked "exchange filter increment is unavailable")
  pure (⌈(value - tolerance) / increment⌉ * increment)

def toTick (direction : Direction) (value tick : ℚ) : Except Fault ℚ :=
  match direction with
  | .long => floorTo value tick
  | .short => ceilTo value tick

/-! ### The plan of a signal -/

/-- The prices of a plan. -/
structure Levels where
  entry : ℚ
  stop : ℚ
  takeProfit : ℚ

namespace Levels

variable (levels : Levels)

def riskDistance : Direction → ℚ
  | .long => levels.entry - levels.stop
  | .short => levels.stop - levels.entry

def rewardDistance : Direction → ℚ
  | .long => levels.takeProfit - levels.entry
  | .short => levels.entry - levels.takeProfit

end Levels

def Signal.levels (signal : Signal) (tick : ℚ) : Except Fault Levels := do
  let legalLow ← ceilTo signal.entryLow tick
  let legalHigh ← floorTo signal.entryHigh tick
  refuse (legalHigh < legalLow) (.blocked "entry range contains no legal exchange tick")
  let midpoint ← toTick signal.direction ((signal.entryLow + signal.entryHigh) / 2) tick
  let stop ← toTick signal.direction signal.stopLoss tick
  let takeProfit ← toTick signal.direction signal.takeProfit tick
  let levels : Levels := {
    entry := min (max midpoint legalLow) legalHigh
    stop := stop
    takeProfit := takeProfit }
  refuse (levels.riskDistance signal.direction ≤ 0 ∨ levels.rewardDistance signal.direction ≤ 0)
    (.blocked "rounded SL/TP geometry is invalid")
  pure levels

/-- The costs of a unit of notional. -/
def Signal.frictionRate (signal : Signal) : Except Fault ℚ :=
  divide zeroDivision
    (signal.estimatedFeeUsdt + signal.estimatedSlippageUsdt + signal.estimatedFundingUsdt)
    signal.recommendedNotional

/-- The size of a plan and what comes of it. -/
structure Sizing where
  quantity : ℚ
  notional : ℚ
  estimatedMaxLoss : ℚ
  roundedRrNet : ℚ

def Signal.sizing (signal : Signal) (rrMin : ℚ) (filters : SymbolFilters) (levels : Levels) :
    Except Fault Sizing := do
  let riskDistance := levels.riskDistance signal.direction
  let rewardDistance := levels.rewardDistance signal.direction
  let frictionRate ← signal.frictionRate
  let riskRate ← divide zeroDivision riskDistance levels.entry
  let capped ← divide zeroDivision signal.maxLossUsdt (riskRate + frictionRate)
  let units ← divide zeroDivision (min signal.recommendedNotional capped) levels.entry
  let quantity ← floorTo units filters.stepSize
  let notional := quantity * levels.entry
  refuse (quantity < filters.minQuantity ∨ notional < filters.minNotional)
    (.blocked "risk-sized order is below exchange minimum filters")
  let costScale ← divide zeroDivision notional signal.recommendedNotional
  let friction := frictionRate * signal.recommendedNotional * costScale
  let estimatedMaxLoss := notional * riskDistance / levels.entry + friction
  let roundedReward := notional * rewardDistance / levels.entry - friction
  let roundedRrNet ← divide zeroDivision roundedReward estimatedMaxLoss
  refuse (signal.maxLossUsdt + 1 / 10 ^ 9 < estimatedMaxLoss)
    (.blocked "rounded plan exceeds immutable signal risk budget")
  refuse (roundedRrNet < rrMin) (.blocked "rounded plan RR is below strategy minimum")
  pure {
    quantity := quantity
    notional := notional
    estimatedMaxLoss := estimatedMaxLoss
    roundedRrNet := roundedRrNet }

/-- `int(value)`. -/
def truncate (value : ℚ) : Int := if 0 ≤ value then ⌊value⌋ else ⌈value⌉

def Signal.entryPlan (digests : Digests) (config : ExecutionConfig) (rrMin : ℚ) (signal : Signal)
    (filters : SymbolFilters) (current : Int) : Except Fault ExecutionPlan := do
  let levels ← signal.levels filters.tickSize
  let sizing ← signal.sizing rrMin filters levels
  let authority ← EnvironmentAuthority.fromConfig digests.normalizeRestBaseUrl config
    "https://fapi.binance.com"
  let unsigned : ExecutionPlan := {
    planId := digests.planId signal.signalId current
    signalId := signal.signalId
    symbol := signal.symbol
    direction := signal.direction
    mode := config.mode
    orderType := config.entryOrderType.toUpper
    quantity := sizing.quantity
    entryPrice := levels.entry
    stopPrice := levels.stop
    takeProfitPrice := levels.takeProfit
    notionalUsdt := sizing.notional
    leverage := min (truncate signal.displayLeverage) config.maxLeverage
    validationStatus := signal.validationStatus
    createdAtMs := current
    expiresAtMs := min signal.expiresAtMs (current + config.planTtlSeconds * 1000)
    signalExpiresAtMs := signal.expiresAtMs
    roundedRrNet := sizing.roundedRrNet
    estimatedMaxLossUsdt := sizing.estimatedMaxLoss
    planHash := ""
    executionEnvironmentId := authority.environmentId
    credentialNamespaceId := authority.credentialNamespaceId
    accountAuthorityId := authority.accountAuthorityId }
  pure { unsigned with planHash := digests.calculatedHash unsigned }

/-- `build_entry_plan`: the plan, unless anything is raised or its id is taken. -/
def buildEntryPlan (digests : Digests) (config : ExecutionConfig) (rrMin : ℚ)
    (registry : Option Registry) (signalId : String) (revalidation : Revalidation)
    (symbolFilters : Except Fault SymbolFilters) (planIds : List String) (current : Int) :
    Except Fault ExecutionPlan := do
  assertSignalRegistryActionable registry
  let signal ← refreshSignalState signalId revalidation current
  let filters ← symbolFilters
  let plan ← signal.entryPlan digests config rrMin filters current
  refuse (plan.planId ∈ planIds) (.other "IntegrityError")
  pure plan

/-! ### What the roundings keep -/

/-- The value is a whole number of increments. -/
def MultipleOf (increment value : ℚ) : Prop := ∃ count : ℤ, value = count * increment

section

variable {value increment rounded : ℚ}

theorem floorTo_ok (floored : floorTo value increment = .ok rounded) :
    0 < increment ∧ MultipleOf increment rounded ∧ rounded ≤ value + tolerance := by
  unfold floorTo at floored
  rw [refuse_bind_eq_ok] at floored
  obtain ⟨positive, rfl⟩ : ¬ increment ≤ 0 ∧ _ = rounded := by
    simpa [pure, Except.pure] using floored
  rw [not_le] at positive
  refine ⟨positive, ⟨_, rfl⟩, ?_⟩
  rw [← le_div_iff₀ positive]
  exact Int.floor_le _

theorem ceilTo_ok (raised : ceilTo value increment = .ok rounded) :
    0 < increment ∧ MultipleOf increment rounded ∧ value - tolerance ≤ rounded := by
  unfold ceilTo at raised
  rw [refuse_bind_eq_ok] at raised
  obtain ⟨positive, rfl⟩ : ¬ increment ≤ 0 ∧ _ = rounded := by
    simpa [pure, Except.pure] using raised
  rw [not_le] at positive
  refine ⟨positive, ⟨_, rfl⟩, ?_⟩
  rw [← div_le_iff₀ positive]
  exact Int.le_ceil _

theorem toTick_multipleOf {direction : Direction} (ticked : toTick direction value increment =
    .ok rounded) : MultipleOf increment rounded := by
  cases direction with
  | long => exact (floorTo_ok ticked).2.1
  | short => exact (ceilTo_ok ticked).2.1

theorem MultipleOf.min {first second : ℚ} (one : MultipleOf increment first)
    (two : MultipleOf increment second) : MultipleOf increment (min first second) := by
  rcases min_choice first second with same | same <;> rw [same] <;> assumption

theorem MultipleOf.max {first second : ℚ} (one : MultipleOf increment first)
    (two : MultipleOf increment second) : MultipleOf increment (max first second) := by
  rcases max_choice first second with same | same <;> rw [same] <;> assumption

end

section

variable {signal : Signal} {tick rrMin : ℚ} {filters : SymbolFilters} {levels : Levels}
  {sizing : Sizing}

theorem levels_ok (leveled : signal.levels tick = .ok levels) :
    MultipleOf tick levels.entry ∧ signal.entryLow - tolerance ≤ levels.entry ∧
      levels.entry ≤ signal.entryHigh + tolerance ∧ 0 < levels.riskDistance signal.direction := by
  unfold Signal.levels at leveled
  simp only [bind_eq_ok, pure, Except.pure, Except.ok.injEq] at leveled
  obtain ⟨legalLow, low, legalHigh, high, _, nonempty, midpoint, middle, stop, -, takeProfit, -, _,
    geometry, rfl⟩ := leveled
  have ordered := refuse_eq_ok.mp nonempty
  have sound := refuse_eq_ok.mp geometry
  obtain ⟨-, lowMultiple, lowBound⟩ := ceilTo_ok low
  obtain ⟨-, highMultiple, highBound⟩ := floorTo_ok high
  refine ⟨((toTick_multipleOf middle).max lowMultiple).min highMultiple, ?_, ?_, ?_⟩
  · exact lowBound.trans (le_min (le_max_right _ _) (not_lt.mp ordered))
  · exact (min_le_right _ _).trans highBound
  · exact not_le.mp fun flat => sound (Or.inl flat)

/-- The costs that the notional of a plan carries. -/
def Signal.friction (signal : Signal) (notional : ℚ) : ℚ :=
  (signal.estimatedFeeUsdt + signal.estimatedSlippageUsdt + signal.estimatedFundingUsdt) /
    signal.recommendedNotional * notional

theorem sizing_ok (minQuantity : 0 ≤ filters.minQuantity) (minNotional : 0 ≤ filters.minNotional)
    (sized : signal.sizing rrMin filters levels = .ok sizing) :
    MultipleOf filters.stepSize sizing.quantity ∧
      sizing.notional = sizing.quantity * levels.entry ∧
      sizing.notional ≤ signal.recommendedNotional + tolerance * levels.entry ∧
      sizing.estimatedMaxLoss =
        sizing.quantity * levels.riskDistance signal.direction +
          signal.friction sizing.notional ∧
      sizing.estimatedMaxLoss ≤ signal.maxLossUsdt + 1 / 10 ^ 9 := by
  unfold Signal.sizing Signal.frictionRate at sized
  simp only [bind_eq_ok, divide_eq_ok, pure, Except.pure, Except.ok.injEq] at sized
  obtain ⟨frictionRate, ⟨recommended, rfl⟩, riskRate, ⟨priced, rfl⟩, capped, ⟨-, rfl⟩, units,
    ⟨-, rfl⟩, quantity, floored, _, minimums, costScale, ⟨-, rfl⟩, ratio, ⟨lossy, rfl⟩, _, budget,
    _, -, rfl⟩ := sized
  obtain ⟨-, multiple, below⟩ := floorTo_ok floored
  obtain ⟨enough, worth⟩ := not_or.mp (refuse_eq_ok.mp minimums)
  have within := not_lt.mp (refuse_eq_ok.mp budget)
  rw [not_lt] at enough worth
  have friction : (signal.estimatedFeeUsdt + signal.estimatedSlippageUsdt +
        signal.estimatedFundingUsdt) / signal.recommendedNotional * signal.recommendedNotional *
        (quantity * levels.entry / signal.recommendedNotional) =
      signal.friction (quantity * levels.entry) := by
    unfold Signal.friction
    field_simp
  have loss : quantity * levels.entry * levels.riskDistance signal.direction / levels.entry =
      quantity * levels.riskDistance signal.direction := by
    field_simp
  refine ⟨multiple, rfl, ?_, ?_, within⟩
  · have positive : 0 < levels.entry := by
      -- a size with a price that is not positive is worth nothing, and its loss is zero
      by_contra negative
      have below_zero : levels.entry < 0 := lt_of_le_of_ne (not_lt.mp negative) priced
      have worthless : quantity * levels.entry = 0 :=
        le_antisymm (mul_nonpos_of_nonneg_of_nonpos (minQuantity.trans enough) below_zero.le)
          (minNotional.trans worth)
      refine lossy ?_
      rw [worthless]
      simp
    have paid := mul_le_mul_of_nonneg_right below positive.le
    rw [add_mul, div_mul_cancel₀ _ priced] at paid
    exact paid.trans (add_le_add_left (min_le_left _ _) _)
  · rw [friction, loss]

end

/-! ### Plans keep the risk of their signal -/

section

variable {digests : Digests} {config : ExecutionConfig} {rrMin : ℚ} {registry : Option Registry}
  {signalId : String} {revalidation : Revalidation} {symbolFilters : Except Fault SymbolFilters}
  {planIds : List String} {current : Int} {plan : ExecutionPlan}

/-- What the plan of a signal keeps: its entry range and its notional up to the tolerance of the
roundings, and its risk budget after all of them. -/
structure WithinRisk (signal : Signal) (filters : SymbolFilters) (plan : ExecutionPlan) : Prop where
  entryLow : signal.entryLow - tolerance ≤ plan.entryPrice
  entryHigh : plan.entryPrice ≤ signal.entryHigh + tolerance
  ticks : MultipleOf filters.tickSize plan.entryPrice
  steps : MultipleOf filters.stepSize plan.quantity
  worth : plan.notionalUsdt = plan.quantity * plan.entryPrice
  notional : plan.notionalUsdt ≤ signal.recommendedNotional + tolerance * plan.entryPrice
  loss : plan.quantity * |plan.entryPrice - plan.stopPrice| +
      signal.friction (plan.quantity * plan.entryPrice) ≤ signal.maxLossUsdt + 1 / 10 ^ 9
  estimate : plan.estimatedMaxLossUsdt = plan.quantity * |plan.entryPrice - plan.stopPrice| +
    signal.friction (plan.quantity * plan.entryPrice)

theorem refreshSignalState_ok {signal : Signal}
    (refreshed : refreshSignalState signalId revalidation current = .ok signal) :
    revalidation.refreshed = some signal := by
  unfold refreshSignalState at refreshed
  cases stored : revalidation.stored with
  | none =>
    rw [stored] at refreshed
    cases refreshed
  | some first =>
    rw [stored] at refreshed
    simp only [bind_eq_ok] at refreshed
    obtain ⟨_, -, _, -, latest, -, _, -, rest⟩ := refreshed
    cases again : revalidation.refreshed with
    | none =>
      rw [again] at rest
      cases rest
    | some second =>
      rw [again] at rest
      obtain ⟨_, same⟩ := refuse_bind_eq_ok.mp rest
      rw [pure_eq_ok.mp same]

theorem riskDistance_eq_abs {levels : Levels} {direction : Direction}
    (positive : 0 < levels.riskDistance direction) :
    levels.riskDistance direction = |levels.entry - levels.stop| := by
  cases direction with
  | long => exact (abs_of_pos positive).symm
  | short =>
    rw [abs_sub_comm]
    exact (abs_of_pos positive).symm

/-- Whatever signal, filters and market it is built from, a plan keeps the risk of its signal. -/
theorem entry_plan_within_risk
    (minimums : ∀ filters, symbolFilters = .ok filters →
      0 ≤ filters.minQuantity ∧ 0 ≤ filters.minNotional)
    (built : buildEntryPlan digests config rrMin registry signalId revalidation symbolFilters
      planIds current = .ok plan) :
    ∃ signal filters, revalidation.refreshed = some signal ∧ symbolFilters = .ok filters ∧
      WithinRisk signal filters plan := by
  unfold buildEntryPlan at built
  simp only [bind_eq_ok, pure, Except.pure, Except.ok.injEq] at built
  obtain ⟨_, -, signal, refreshed, filters, filtered, made, planned, _, -, rfl⟩ := built
  unfold Signal.entryPlan at planned
  simp only [bind_eq_ok, pure, Except.pure, Except.ok.injEq] at planned
  obtain ⟨levels, leveled, sizing, sized, authority, -, rfl⟩ := planned
  obtain ⟨ticks, low, high, risk⟩ := levels_ok leveled
  obtain ⟨minQuantity, minNotional⟩ := minimums filters filtered
  obtain ⟨steps, notional, paid, estimate, budget⟩ := sizing_ok minQuantity minNotional sized
  rw [notional, riskDistance_eq_abs risk] at estimate
  exact ⟨signal, filters, refreshSignalState_ok refreshed, filtered, low, high, ticks, steps,
    notional, paid, estimate ▸ budget, estimate⟩

end

/-! ### The tolerance at a range and a notional beside the grid -/

namespace Sample

def digests : Digests where
  planId := fun signalId _ => signalId
  calculatedHash := fun plan => plan.planId
  normalizeRestBaseUrl := id

def signal (entryLow recommendedNotional : ℚ) : Signal where
  signalId := "signal"
  validationStatus := "PASS"
  symbol := "BTCUSDT"
  direction := .long
  status := .active
  dataTimestampMs := 0
  expiresAtMs := 60000
  entryLow := entryLow
  entryHigh := 100 + 1 / 20
  stopLoss := 90
  takeProfit := 150
  recommendedNotional := recommendedNotional
  displayLeverage := 2
  maxLossUsdt := 200
  estimatedFeeUsdt := 1
  estimatedSlippageUsdt := 1
  estimatedFundingUsdt := 0

def filters : SymbolFilters := ⟨1 / 1000, 1 / 1000, 1 / 10, 5⟩

def plan (signal : Signal) : Except Fault ExecutionPlan :=
  buildEntryPlan digests { mode := .paper } (9 / 5) (some ⟨true, 1⟩) "signal"
    ⟨some signal, .ok (some 0), none, some signal⟩ (.ok filters) [] 0

end Sample

theorem exists_ok_of_any {Value : Type} (built : Except Fault Value) (check : Value → Bool)
    (checked : built.toOption.any check = true) :
    ∃ value, built = .ok value ∧ check value = true := by
  cases built with
  | ok value => exact ⟨value, rfl, checked⟩
  | error fault => cases checked

theorem sample_plan_within_risk :
    ∃ plan, Sample.plan (Sample.signal 100 1000) = .ok plan ∧
      ∃ signal filters, some (Sample.signal 100 1000) = some signal ∧
        (.ok Sample.filters : Except Fault SymbolFilters) = .ok filters ∧
        WithinRisk signal filters plan := by
  obtain ⟨plan, built, -⟩ := exists_ok_of_any (Sample.plan (Sample.signal 100 1000))
    (fun _ => true) (by decide +kernel)
  refine ⟨plan, built, entry_plan_within_risk ?_ built⟩
  rintro filters ⟨⟩
  constructor <;> decide +kernel

/-- A range that begins just above a tick and a notional just below a whole number of steps: the
plan enters below the range and is worth more than recommended. -/
theorem plan_beside_the_grid :
    ∃ plan, Sample.plan (Sample.signal (100 + 1 / 2 ^ 41) (1000 - 1 / 2 ^ 40)) = .ok plan ∧
      plan.entryPrice < 100 + 1 / 2 ^ 41 ∧ 1000 - 1 / 2 ^ 40 < plan.notionalUsdt := by
  obtain ⟨plan, built, beside⟩ := exists_ok_of_any
    (Sample.plan (Sample.signal (100 + 1 / 2 ^ 41) (1000 - 1 / 2 ^ 40)))
    (fun plan => decide (plan.entryPrice < 100 + 1 / 2 ^ 41 ∧
      1000 - 1 / 2 ^ 40 < plan.notionalUsdt)) (by decide +kernel)
  exact ⟨plan, built, of_decide_eq_true beside⟩

end QuantAgent.Execution.Entry
