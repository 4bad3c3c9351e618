/-
This file says when an active grid plan is well formed. Every price of the plan is a whole number of
ticks of four decimals, whatever the scale of the prices, so a volatility of half a tick leaves no
room for a stop below the range or a target above it; and the count of steps is never reduced below
three, although the range may be narrower than three steps of the least profit.
-/

import QuantAgent.MarketWatch.GridPolicy
import QuantAgent.Grid.Episode

namespace QuantAgent.MarketWatch

/-! ### Rounding to a whole number -/

variable {value : ℚ}

theorem roundHalfEven_even (half : |(roundHalfEven value : ℚ) - value| = 1 / 2) :
    roundHalfEven value % 2 = 0 := by
  have below := Rat.floor_le value
  have above := Rat.lt_floor_add_one value
  push_cast at above
  unfold roundHalfEven at half ⊢
  dsimp only at half ⊢
  split_ifs at half ⊢ with less more even
  · rw [abs_of_nonpos (by linarith)] at half
    linarith
  · push_cast at half
    rw [abs_of_nonneg (by linarith)] at half
    linarith
  · exact even
  · omega

variable {whole : ℤ}

theorem lt_roundHalfEven_iff :
    whole < roundHalfEven value ↔
      whole + 1 / 2 < value ∨ value = whole + 1 / 2 ∧ whole % 2 = 1 := by
  obtain ⟨lower, upper⟩ := abs_le.mp (abs_roundHalfEven_sub_le value)
  have even := @roundHalfEven_even value
  constructor
  · intro less
    have next : (whole : ℚ) + 1 ≤ roundHalfEven value := by exact_mod_cast less
    rcases lt_or_eq_of_le (show (whole : ℚ) + 1 / 2 ≤ value by linarith) with more | same
    · exact .inl more
    · have rounded : (roundHalfEven value : ℚ) = whole + 1 := by linarith
      have exactly : roundHalfEven value = whole + 1 := by exact_mod_cast rounded
      have half : |(roundHalfEven value : ℚ) - value| = 1 / 2 := by
        rw [rounded, ← same, abs_of_nonneg (by linarith)]
        ring
      have parity := even half
      exact .inr ⟨same.symm, by omega⟩
  · rintro (more | ⟨same, odd⟩)
    · exact_mod_cast (show (whole : ℚ) < roundHalfEven value by linarith)
    · have reached : whole ≤ roundHalfEven value := by
        exact_mod_cast (show (whole : ℚ) ≤ roundHalfEven value by linarith)
      refine lt_of_le_of_ne reached fun stayed => ?_
      have half : |(roundHalfEven value : ℚ) - value| = 1 / 2 := by
        rw [← stayed, same, abs_of_nonpos (by linarith)]
        ring
      have parity := even half
      omega

theorem roundHalfEven_lt_iff :
    roundHalfEven value < whole ↔
      value < whole - 1 / 2 ∨ value = whole - 1 / 2 ∧ whole % 2 = 1 := by
  have centre : ((whole - 1 : ℤ) : ℚ) + 1 / 2 = whole - 1 / 2 := by
    push_cast
    ring
  rw [← not_le, ← Int.sub_one_lt_iff, lt_roundHalfEven_iff, centre]
  constructor
  · intro outside
    obtain less | same | more := lt_trichotomy value (whole - 1 / 2)
    · exact .inl less
    · have odd : ¬ (whole - 1) % 2 = 1 := fun odd => outside (.inr ⟨same, odd⟩)
      exact .inr ⟨same, by omega⟩
    · exact absurd (.inl more) outside
  · rintro (less | ⟨same, odd⟩) (more | ⟨again, other⟩)
    · exact less.not_gt more
    · exact less.ne again
    · exact more.ne' same
    · omega

/-! ### Prices in ticks -/

/-- The tick of four decimals nearest to a price. -/
def ticks (price : ℚ) : ℤ := roundHalfEven (price * 10 ^ 4)

theorem roundTo_eq_ticks (price : ℚ) : roundTo 4 price = ticks price / 10 ^ 4 := rfl

/-- The moved price is rounded above the tick that it starts from. -/
theorem ticks_lt_add_iff {move : ℚ} :
    whole < ticks (whole / 10 ^ 4 + move) ↔
      1 / 20000 < move ∨ move = 1 / 20000 ∧ whole % 2 = 1 := by
  unfold ticks
  rw [lt_roundHalfEven_iff]
  refine or_congr ⟨fun more => ?_, fun more => ?_⟩ (and_congr_left fun _ =>
    ⟨fun same => ?_, fun same => ?_⟩) <;> linarith

theorem ticks_sub_lt_iff {move : ℚ} :
    ticks (whole / 10 ^ 4 - move) < whole ↔
      1 / 20000 < move ∨ move = 1 / 20000 ∧ whole % 2 = 1 := by
  unfold ticks
  rw [roundHalfEven_lt_iff]
  refine or_congr ⟨fun more => ?_, fun more => ?_⟩ (and_congr_left fun _ =>
    ⟨fun same => ?_, fun same => ?_⟩) <;> linarith

/-! ### Well-formed plans -/

/-- The bounds are in order, the stop lies below them and the target above, and every step of the
grid, whose levels can be constructed, earns the least profit. -/
def GridPlan.WellFormed (config : GridConfig) (plan : GridPlan) : Prop :=
  ∃ lower ∈ plan.lowerBound, ∃ upper ∈ plan.upperBound, ∃ stop ∈ plan.stopLoss,
    ∃ target ∈ plan.takeProfit, 0 < lower ∧ lower < upper ∧ stop < lower ∧ upper < target ∧
      3 ≤ plan.gridCount ∧
      (∃ levels, Grid.constructGridLevels lower upper plan.gridCount = .ok levels) ∧
      config.minGridProfitPct ≤ (upper - lower) / plan.gridCount / lower * 100

namespace GridInput

variable (config : GridConfig) (input : GridInput)

/-- The volatility with its floor. -/
def atr : ℚ := max input.tf1h.atr (1 / 1000000)

def supportTick : ℤ :=
  ticks (max (1 / 10000) (input.tf1h.supports.getLast?.getD
    (input.tf15m.close - 5 / 2 * input.atr) - config.atrBufferMult * (1 / 2) * input.atr))

def resistanceTick : ℤ :=
  ticks (input.tf1h.resistances.getLast?.getD (input.tf15m.close + 5 / 2 * input.atr) +
    config.atrBufferMult * (1 / 2) * input.atr)

/-- The tick that the range ends at: three volatilities up where the levels are inverted. -/
def endTick : ℤ :=
  if input.resistanceTick config ≤ input.supportTick config
  then ticks (input.supportTick config / 10 ^ 4 + 3 * input.atr)
  else input.resistanceTick config

/-- The volatility moves both ends of the range by a tick. -/
def Moves : Prop :=
  1 / 20000 < input.atr ∨ input.atr = 1 / 20000 ∧
    input.supportTick config < input.resistanceTick config ∧
    input.supportTick config % 2 = 1 ∧ input.resistanceTick config % 2 = 1

/-- The range is wide enough for three steps of the least profit. -/
def Roomy : Prop :=
  3 * config.minGridProfitPct * input.supportTick config ≤
    100 * (input.endTick config - input.supportTick config : ℤ)

end GridInput

variable {config : GridConfig} {symbol : String} {input : GridInput}

/-! ### The plan of a range, in ticks -/

/-- The count of steps of a range that is given in ticks. -/
def countOf (config : GridConfig) (support final : ℤ) : ℕ :=
  let totalRange : ℚ := (final - support) / support
  if totalRange / config.defaultGridCount * 100 < config.minGridProfitPct
  then max 3 (totalRange * 100 / config.minGridProfitPct).floor.toNat
  else config.defaultGridCount

theorem scaled_le_scaled {first second : ℤ} :
    (first : ℚ) / 10 ^ 4 ≤ second / 10 ^ 4 ↔ first ≤ second := by
  rw [div_le_div_iff_of_pos_right (by norm_num), Int.cast_le]

theorem scaled_lt_scaled {first second : ℤ} :
    (first : ℚ) / 10 ^ 4 < second / 10 ^ 4 ↔ first < second := by
  rw [div_lt_div_iff_of_pos_right (by norm_num), Int.cast_lt]

theorem rangeGrid_lowerBound :
    (rangeGrid config symbol input).lowerBound =
      some (input.supportTick config / 10 ^ 4 : ℚ) := rfl

theorem rangeGrid_stopLoss :
    (rangeGrid config symbol input).stopLoss =
      some (ticks (input.supportTick config / 10 ^ 4 - input.atr) / 10 ^ 4 : ℚ) := rfl

/-- The upper bound, repaired where the levels are inverted. -/
theorem repaired_eq :
    (if (input.resistanceTick config / 10 ^ 4 : ℚ) ≤ input.supportTick config / 10 ^ 4
      then roundTo 4 (input.supportTick config / 10 ^ 4 + 3 * input.atr)
      else (input.resistanceTick config / 10 ^ 4 : ℚ)) = input.endTick config / 10 ^ 4 := by
  unfold GridInput.endTick
  rw [roundTo_eq_ticks]
  simp only [scaled_le_scaled]
  split_ifs <;> rfl

theorem rangeGrid_upperBound :
    (rangeGrid config symbol input).upperBound = some (input.endTick config / 10 ^ 4 : ℚ) :=
  congrArg some repaired_eq

theorem rangeGrid_takeProfit :
    (rangeGrid config symbol input).takeProfit =
      some (ticks (input.endTick config / 10 ^ 4 + input.atr) / 10 ^ 4 : ℚ) :=
  congrArg (fun upper => some (roundTo 4 (upper + input.atr))) repaired_eq

theorem rangeGrid_gridCount :
    (rangeGrid config symbol input).gridCount =
      countOf config (input.supportTick config) (input.endTick config) := by
  have range : (input.endTick config / 10 ^ 4 - input.supportTick config / 10 ^ 4 : ℚ) /
      (input.supportTick config / 10 ^ 4) =
        (input.endTick config - input.supportTick config) / input.supportTick config := by
    rw [← sub_div, div_div_div_cancel_right₀ (by norm_num)]
  unfold countOf
  rw [← range, ← repaired_eq]
  rfl

/-! ### When a plan is well formed -/

theorem supportTick_pos : 0 < input.supportTick config := by
  refine lt_roundHalfEven_iff.mpr (.inl ?_)
  have floor := le_max_left (1 / 10000 : ℚ) (input.tf1h.supports.getLast?.getD
    (input.tf15m.close - 5 / 2 * input.atr) - config.atrBufferMult * (1 / 2) * input.atr)
  push_cast
  linarith

theorem steps_iff {support final : ℤ} (positive : 0 < support) (ordered : support < final) :
    3 ≤ countOf config support final ∧ config.minGridProfitPct ≤
        (final - support : ℚ) / countOf config support final / support * 100 ↔
      3 ≤ config.defaultGridCount ∧
        3 * config.minGridProfitPct * support ≤ 100 * (final - support : ℤ) := by
  have support_pos : (0 : ℚ) < support := by exact_mod_cast positive
  have width : (0 : ℚ) < final - support := sub_pos.mpr (by exact_mod_cast ordered)
  have least := config.limits_nonneg.1
  have default_pos : (0 : ℚ) < config.defaultGridCount := by
    exact_mod_cast config.defaultGridCount_positive
  -- The range in per cent of the lower bound.
  obtain ⟨range, range_eq⟩ : ∃ range : ℚ, (final - support : ℚ) / support * 100 = range := ⟨_, rfl⟩
  have wide : 3 * config.minGridProfitPct * support ≤ 100 * (final - support : ℤ) ↔
      3 * config.minGridProfitPct ≤ range := by
    rw [← range_eq, div_mul_eq_mul_div, le_div_iff₀ support_pos]
    push_cast
    rw [mul_comm (100 : ℚ)]
  have stepOf (count : ℕ) : (final - support : ℚ) / count / support * 100 = range / count := by
    rw [← range_eq]
    ring
  have defaultStep : (final - support : ℚ) / support / config.defaultGridCount * 100 =
      range / config.defaultGridCount := by
    rw [← range_eq]
    ring
  rw [wide, stepOf]
  unfold countOf
  dsimp only
  rw [defaultStep, range_eq]
  split_ifs with narrow
  · have least_pos : 0 < config.minGridProfitPct :=
      lt_of_le_of_lt (div_nonneg (range_eq ▸ by positivity) default_pos.le) narrow
    rw [div_lt_iff₀ default_pos] at narrow
    have count_pos : (0 : ℚ) < (max 3 (range / config.minGridProfitPct).floor.toNat : ℕ) := by
      exact_mod_cast lt_of_lt_of_le (by norm_num) (le_max_left 3 _)
    rw [and_iff_right (le_max_left 3 _), le_div_iff₀ count_pos]
    constructor
    · intro earned
      have three : (3 : ℚ) ≤ (max 3 (range / config.minGridProfitPct).floor.toNat : ℕ) := by
        exact_mod_cast le_max_left 3 _
      have enough := mul_le_mul_of_nonneg_left three least
      have fewer : config.minGridProfitPct * 3 <
        config.minGridProfitPct * config.defaultGridCount :=
        by linarith
      have above : (3 : ℚ) < config.defaultGridCount := lt_of_mul_lt_mul_left fewer least
      exact ⟨by exact_mod_cast above.le, by linarith⟩
    · rintro ⟨-, room⟩
      -- Three steps fit, so the reduced count is the whole number of steps that fit.
      have fits : (3 : ℚ) ≤ range / config.minGridProfitPct := (le_div_iff₀ least_pos).mpr room
      have floor_three : (3 : ℤ) ≤ (range / config.minGridProfitPct).floor :=
        Int.le_floor.mpr (by exact_mod_cast fits)
      have count_eq : ((max 3 (range / config.minGridProfitPct).floor.toNat : ℕ) : ℤ) =
          (range / config.minGridProfitPct).floor := by omega
      have count_le : ((max 3 (range / config.minGridProfitPct).floor.toNat : ℕ) : ℚ) ≤
          range / config.minGridProfitPct := by
        have cast : ((max 3 (range / config.minGridProfitPct).floor.toNat : ℕ) : ℚ) =
            (range / config.minGridProfitPct).floor := by exact_mod_cast count_eq
        rw [cast]
        exact Rat.floor_le _
      rw [mul_comm]
      exact (le_div_iff₀ least_pos).mp count_le
  · rw [not_lt] at narrow
    refine and_congr_right fun three => iff_of_true narrow ?_
    have three : (3 : ℚ) ≤ config.defaultGridCount := by exact_mod_cast three
    have fits := (le_div_iff₀ default_pos).mp narrow
    have fewer := mul_le_mul_of_nonneg_left three least
    linarith

theorem moves_iff :
    input.supportTick config < input.endTick config ∧
        ticks (input.supportTick config / 10 ^ 4 - input.atr) < input.supportTick config ∧
        input.endTick config < ticks (input.endTick config / 10 ^ 4 + input.atr) ↔
      input.Moves config := by
  rw [ticks_lt_add_iff, ticks_sub_lt_iff]
  unfold GridInput.Moves GridInput.endTick
  constructor
  · rintro ⟨ordered, below | ⟨half, odd⟩, above⟩
    · exact .inl below
    · refine .inr ⟨half, ?_⟩
      obtain ⟨-, oddEnd⟩ := above.resolve_left half.not_gt
      split_ifs at ordered oddEnd with inverted
      -- Three halves of a tick above an odd tick lies an even one.
      · have short : ticks (input.supportTick config / 10 ^ 4 + 3 * input.atr) <
            input.supportTick config + 2 := by
          refine roundHalfEven_lt_iff.mpr (.inr ⟨?_, by omega⟩)
          rw [half]
          push_cast
          ring
        omega
      · exact ⟨not_le.mp inverted, odd, oddEnd⟩
  · rintro (more | ⟨half, ordered, odd, oddEnd⟩)
    · refine ⟨?_, .inl more, .inl more⟩
      split_ifs with inverted
      · exact ticks_lt_add_iff.mpr (.inl (by linarith))
      · exact not_le.mp inverted
    · rw [if_neg (not_le.mpr ordered)]
      exact ⟨ordered, .inr ⟨half, odd⟩, .inr ⟨half, oddEnd⟩⟩

theorem rangeGrid_wellFormed_iff :
    (rangeGrid config symbol input).WellFormed config ↔
      3 ≤ config.defaultGridCount ∧ input.Moves config ∧ input.Roomy config := by
  have positive := @supportTick_pos config input
  have lower_pos : (0 : ℚ) < input.supportTick config / 10 ^ 4 := by positivity
  unfold GridPlan.WellFormed
  simp only [rangeGrid_lowerBound, rangeGrid_upperBound, rangeGrid_stopLoss, rangeGrid_takeProfit,
    rangeGrid_gridCount, Option.mem_some, exists_eq_left', scaled_lt_scaled, lower_pos, true_and]
  have step (count : ℕ) : (input.endTick config / 10 ^ 4 - input.supportTick config / 10 ^ 4 : ℚ) /
      count / (input.supportTick config / 10 ^ 4) * 100 =
        (input.endTick config - input.supportTick config) / count /
          input.supportTick config * 100 := by
    ring
  rw [step]
  constructor
  · rintro ⟨ordered, below, above, three, -, earned⟩
    obtain ⟨default, room⟩ := (steps_iff positive ordered).mp ⟨three, earned⟩
    exact ⟨default, moves_iff.mp ⟨ordered, below, above⟩, room⟩
  · rintro ⟨default, moves, room⟩
    obtain ⟨ordered, below, above⟩ := moves_iff.mpr moves
    obtain ⟨three, earned⟩ := (steps_iff positive ordered).mpr ⟨default, room⟩
    refine ⟨ordered, below, above, three, ?_, earned⟩
    unfold Grid.constructGridLevels
    rw [if_neg (not_le.mpr lower_pos), if_neg (not_le.mpr (scaled_lt_scaled.mpr ordered)),
      if_neg (not_lt.mpr three)]
    exact ⟨_, rfl⟩

/-- An active plan is well formed exactly when the volatility moves the ends of its range by a tick,
the range has room for three steps of the least profit, and the count by default is three or
more. -/
theorem evaluateGridPolicy_wellFormed_iff (config : GridConfig) (symbol : String)
    (input : GridInput) (previous : Option GridPlan)
    (active : (evaluateGridPolicy config symbol input previous).decision ≠ .pause) :
    (evaluateGridPolicy config symbol input previous).WellFormed config ↔
      3 ≤ config.defaultGridCount ∧ input.Moves config ∧ input.Roomy config := by
  unfold evaluateGridPolicy at active ⊢
  split_ifs at active ⊢ with unsuitable imbalanced breaches
  · exact absurd rfl active
  · exact absurd rfl active
  · exact absurd rfl active
  · exact rangeGrid_wellFormed_iff

/-- A range of ten between its support and its resistance has room for ten steps. -/
theorem wide_range_wellFormed :
    (evaluateGridPolicy {} "BTCUSDT" (scanAt .range 105 100) none).WellFormed {} :=
  (evaluateGridPolicy_wellFormed_iff {} "BTCUSDT" (scanAt .range 105 100) none
    (by decide +kernel)).mpr ⟨by decide, .inl (by decide +kernel), by
      unfold GridInput.Roomy; decide +kernel⟩

/-- The levels lie a tenth of a per cent apart. -/
def narrowRange : GridInput where
  tf1h := ⟨100, 100, 0, 1 / 50, 10, [100], [1001 / 10], .range⟩
  tf15m := ⟨100, 100, 0, 1 / 50, 10, [], [], .range⟩
  derivatives := .neutral

/-- The three steps of a narrow range earn less than the least profit. -/
theorem narrow_range_unprofitable : ¬ ∀ (config : GridConfig) (symbol : String)
    (input : GridInput) (previous : Option GridPlan), 0 < input.tf15m.close →
      (∀ level ∈ input.tf1h.supports ++ input.tf1h.resistances, 0 < level) →
      (evaluateGridPolicy config symbol input previous).decision ≠ .pause →
      (evaluateGridPolicy config symbol input previous).WellFormed config := by
  intro law
  have formed := law {} "BTCUSDT" narrowRange none (by decide +kernel) (by decide +kernel)
    (by decide +kernel)
  obtain ⟨lower, hasLower, upper, hasUpper, -, -, -, -, -, -, -, -, -, -, earned⟩ := formed
  obtain rfl : lower = 9999 / 100 := by
    rw [← Option.some_inj, ← hasLower]
    decide +kernel
  obtain rfl : upper = 10011 / 100 := by
    rw [← Option.some_inj, ← hasUpper]
    decide +kernel
  have three : (evaluateGridPolicy {} "BTCUSDT" narrowRange none).gridCount = 3 := by
    decide +kernel
  rw [three] at earned
  norm_num at earned

end QuantAgent.MarketWatch
