/-
This file embeds the conditional test of a candidate against baseline controls: standardization,
the projection on the baseline, and the gates and the statistic of the residual. Every result is
free of the scale of a column and of the candidate as long as the deviation that is rescaled stays
on its side of an absolute threshold, and free of the order of the columns.

What the numerical libraries compute is a parameter; `Lawful` says what is used of it.
-/

import QuantAgent.Inference.HacVariance
import QuantAgent.Library.LeastSquares
import QuantAgent.Library.Refusal

namespace QuantAgent.Inference.Conditional

open LeastSquares Numerals

/-! ### The numerical libraries -/

/-- `math.sqrt`, `math.erfc`, and `matrix_rank`, `cond` and `lstsq` of a matrix with some
columns. -/
structure Numerics (K : Type) where
  sqrt : K → K
  erfc : K → K
  matrixRank : ∀ {n : ℕ}, List (Fin n → K) → ℕ
  cond : ∀ {n : ℕ}, List (Fin n → K) → WithTop K
  lstsq : ∀ {n : ℕ}, List (Fin n → K) → (Fin n → K) → List K

/-- The square root is one, rank and condition number are those of a set of columns in any order,
and least squares leave a residual orthogonal to every column. -/
structure Numerics.Lawful {K : Type} [Field K] [LinearOrder K] (numerics : Numerics K) : Prop where
  sqrt_nonneg : ∀ value, 0 ≤ numerics.sqrt value
  sqrt_mul_self : ∀ value, 0 ≤ value → numerics.sqrt value * numerics.sqrt value = value
  matrixRank_perm : ∀ {n : ℕ} {columns others : List (Fin n → K)}, columns.Perm others →
    numerics.matrixRank columns = numerics.matrixRank others
  cond_perm : ∀ {n : ℕ} {columns others : List (Fin n → K)}, columns.Perm others →
    numerics.cond columns = numerics.cond others
  lstsq_normal : ∀ {n : ℕ} (columns : List (Fin n → K)) (target : Fin n → K),
    Normal columns target (combine (numerics.lstsq columns target) columns)

/-! ### Settings and results -/

inductive Reason
  | invalidOrInsufficientShapes
  | timestampsNotStrictlyIncreasing
  | timestampsOffCadenceGrid
  | constantCandidate
  | rankDeficientBaseline
  | candidateInBaselineSpan
  | nearCollinearCandidate
  | zeroVarianceCandidateResidual
  | nonPositiveHacVariance
  deriving DecidableEq

inductive Fault
  | expectedSign
  | zeroDivision
  deriving DecidableEq

structure Settings (K : Type) where
  expectedSign : ℤ
  cadenceMs : ℤ
  horizonMs : ℤ
  collinearTolerance : K
  maxConditionNumber : K

def Settings.maxLag {K : Type} (settings : Settings K) : ℤ :=
  -(-settings.horizonMs).fdiv settings.cadenceMs - 1

/-- The measures of the design that a result carries. -/
structure Design (K : Type) where
  candidateResidualFraction : K
  fullDesignConditionNumber : WithTop K
  baselineRank : ℕ
  fullRank : ℕ

/-- `ConditionalIncrementalResult`; without a reason it is testable. -/
structure ConditionalIncrementalResult (K : Type) where
  reason : Option Reason
  sampleSize : ℕ
  effectEstimate : K
  standardErrorHac : WithTop K
  tStatisticHac : K
  pValueOneSided : K
  ciLower95 : WithBot K
  ciUpper95 : WithTop K
  expectedSign : ℤ
  signCorrect : Bool
  ciExcludesZeroInCorrectDirection : Bool
  design : Design K
  hacMaxLag : ℤ
  observationCadenceMs : ℤ
  timestampPairCounts : List ℕ
  iidStandardError : WithTop K
  iidTStatistic : K

/-- `status == "TESTABLE"`. -/
def ConditionalIncrementalResult.Testable {K : Type} (result : ConditionalIncrementalResult K) :
    Prop := result.reason = none

/-- A two-dimensional array, by its columns. -/
structure Table (K : Type) where
  rows : ℕ
  columns : List (List K)
  shaped : ∀ column ∈ columns, column.length = rows

structure Sample (K : Type) where
  futureReturns : List K
  baselineControls : Table K
  candidate : List K
  timestampsMs : List ℤ

section

variable {K : Type} [Field K] [LinearOrder K]

/-- The measures where none was taken. -/
def Design.unknown : Design K := ⟨0, ⊤, 0, 0⟩

def notTestable (settings : Settings K) (n : ℕ) (reason : Reason) (design : Design K) :
    ConditionalIncrementalResult K where
  reason := some reason
  sampleSize := n
  effectEstimate := 0
  standardErrorHac := ⊤
  tStatisticHac := 0
  pValueOneSided := 1
  ciLower95 := ⊥
  ciUpper95 := ⊤
  expectedSign := settings.expectedSign
  signCorrect := false
  ciExcludesZeroInCorrectDirection := false
  design := design
  hacMaxLag := settings.maxLag
  observationCadenceMs := settings.cadenceMs
  timestampPairCounts := List.replicate (settings.maxLag + 1).toNat 0
  iidStandardError := ⊤
  iidTStatistic := 0

/-! ### The statistic -/

/-- `np.finfo(np.float64).eps`. -/
def eps : K := 1 / 2 ^ 52

variable (numerics : Numerics K)

def mean {n : ℕ} (values : Fin n → K) : K := (∑ index, values index) / n

/-- `np.std(..., ddof=0)`. -/
def std {n : ℕ} (values : Fin n → K) : K :=
  numerics.sqrt ((∑ index, (values index - mean values) ^ 2) / n)

def standardized {n : ℕ} (values : Fin n → K) : Fin n → K :=
  fun index => (values index - mean values) / std numerics values

/-- `np.linalg.norm`. -/
def norm {n : ℕ} (values : Fin n → K) : K := numerics.sqrt (values ⬝ᵥ values)

/-- What the columns leave of a vector. -/
def unexplained {n : ℕ} (columns : List (Fin n → K)) (target : Fin n → K) : Fin n → K :=
  target - combine (numerics.lstsq columns target) columns

def oneSidedNormalP (tStat : K) (expectedSign : ℤ) : K :=
  1 / 2 * numerics.erfc (expectedSign * tStat / numerics.sqrt 2)

/-- The coefficient of the standardized residual. -/
def beta {n : ℕ} (xr yResid : Fin n → K) : K := (xr ⬝ᵥ yResid) / (xr ⬝ᵥ xr)

/-- `scores`, at their timestamps. -/
def scores {n : ℕ} (timestamps : Fin n → ℤ) (xr yResid : Fin n → K) : List (Score K) :=
  List.ofFn fun index =>
    ⟨timestamps index, xr index * (yResid - beta xr yResid • xr) index⟩

def regress (settings : Settings K) {n : ℕ} (timestamps : Fin n → ℤ) (size : ℕ) (design : Design K)
    (xr yResid : Fin n → K) : ConditionalIncrementalResult K :=
  let xx := xr ⬝ᵥ xr
  let beta := beta xr yResid
  let residuals := yResid - beta • xr
  let sums := longRun settings.cadenceMs (scores timestamps xr yResid) settings.maxLag.toNat
  if sums.1 ≤ eps then notTestable settings n .nonPositiveHacVariance design
  else
    let seHac := numerics.sqrt (sums.1 / (xx * xx))
    let tHac := beta / seHac
    let ciLower := beta - 49 / 25 * seHac
    let ciUpper := beta + 49 / 25 * seHac
    let iidVar := (residuals ⬝ᵥ residuals) / (max 1 (n - size - 1 : ℤ) : ℤ) / xx
    let iidSe := numerics.sqrt (max iidVar 0)
    { reason := none
      sampleSize := n
      effectEstimate := beta
      standardErrorHac := seHac
      tStatisticHac := tHac
      pValueOneSided := oneSidedNormalP numerics tHac settings.expectedSign
      ciLower95 := ciLower
      ciUpper95 := ciUpper
      expectedSign := settings.expectedSign
      signCorrect := 0 < beta * settings.expectedSign
      ciExcludesZeroInCorrectDirection :=
        if settings.expectedSign = 1 then 0 < ciLower else ciUpper < 0
      design := design
      hacMaxLag := settings.maxLag
      observationCadenceMs := settings.cadenceMs
      timestampPairCounts := sums.2
      iidStandardError := iidSe
      iidTStatistic := if 0 < iidSe then beta / iidSe else 0 }

def evaluate (settings : Settings K) {n : ℕ} (timestamps : Fin n → ℤ) (y xZ : Fin n → K)
    (x0 : List (Fin n → K)) : ConditionalIncrementalResult K :=
  let baselineRank := numerics.matrixRank x0
  if baselineRank ≠ x0.length then
    notTestable settings n .rankDeficientBaseline { Design.unknown with baselineRank }
  else
    let xResid := unexplained numerics x0 xZ
    let design : Design K :=
      { candidateResidualFraction := norm numerics xResid / norm numerics xZ
        fullDesignConditionNumber := numerics.cond (x0 ++ [xZ])
        baselineRank
        fullRank := numerics.matrixRank (x0 ++ [xZ]) }
    if design.fullRank ≠ x0.length + 1 ∨
        design.candidateResidualFraction ≤ settings.collinearTolerance then
      notTestable settings n .candidateInBaselineSpan design
    else if design.fullDesignConditionNumber = ⊤ ∨
        (settings.maxConditionNumber : WithTop K) < design.fullDesignConditionNumber then
      notTestable settings n .nearCollinearCandidate design
    else
      let xrSd := std numerics xResid
      if xrSd ≤ eps * 100 then notTestable settings n .zeroVarianceCandidateResidual design
      else regress numerics settings timestamps x0.length design (fun index => xResid index / xrSd)
        (unexplained numerics x0 y)

/-! ### The function -/

def vector (n : ℕ) (values : List K) : Fin n → K := fun index => values.getD index 0

def baseZ {n : ℕ} (columns : List (Fin n → K)) : List (Fin n → K) :=
  (columns.filter fun column => eps * 100 < std numerics column).map (standardized numerics)

/-- `x0`: the intercept and the kept columns. -/
def designColumns (n : ℕ) (table : Table K) : List (Fin n → K) :=
  1 :: baseZ numerics (table.columns.map (vector n))

def inputGate (settings : Settings K) (sample : Sample K) : Except Fault (Option Reason) := do
  let n := sample.futureReturns.length
  refuse (settings.cadenceMs = 0) .zeroDivision
  refuse (settings.expectedSign ≠ -1 ∧ settings.expectedSign ≠ 1) .expectedSign
  if n < 8 ∨ sample.candidate.length ≠ n ∨ sample.timestampsMs.length ≠ n ∨
      sample.baselineControls.rows ≠ n then
    return some .invalidOrInsufficientShapes
  else if ∃ pair ∈ sample.timestampsMs.zip sample.timestampsMs.tail, pair.2 - pair.1 ≤ 0 then
    return some .timestampsNotStrictlyIncreasing
  else if ∃ stamp ∈ sample.timestampsMs,
      (stamp - sample.timestampsMs.headD 0) % settings.cadenceMs ≠ 0 then
    return some .timestampsOffCadenceGrid
  else return none

/-- `x_sd`. -/
def candidateSd (sample : Sample K) : K :=
  std numerics (vector sample.futureReturns.length sample.candidate)

/-- `conditional_incremental_ols_hac`; every number is finite. -/
def conditionalIncrementalOlsHac (settings : Settings K) (sample : Sample K) :
    Except Fault (ConditionalIncrementalResult K) := do
  let n := sample.futureReturns.length
  match ← inputGate settings sample with
  | some reason => return notTestable settings n reason Design.unknown
  | none =>
    if candidateSd numerics sample ≤ eps * 100 then
      return notTestable settings n .constantCandidate Design.unknown
    else
      return evaluate numerics settings (fun index => sample.timestampsMs.getD index 0)
        (vector n sample.futureReturns) (standardized numerics (vector n sample.candidate))
        (designColumns numerics n sample.baselineControls)

/-! ### Rescaling -/

def Table.scaleColumn (index : ℕ) (factor : K) (table : Table K) : Table K where
  rows := table.rows
  columns := table.columns.modify index (List.map (factor * ·))
  shaped := by
    intro column member
    obtain ⟨place, inside, rfl⟩ := List.getElem_of_mem member
    rw [List.getElem_modify]
    split_ifs
    · rw [List.length_map]
      exact table.shaped _ (List.getElem_mem _)
    · exact table.shaped _ (List.getElem_mem _)

def Sample.scaleColumn (index : ℕ) (factor : K) (sample : Sample K) : Sample K :=
  { sample with baselineControls := sample.baselineControls.scaleColumn index factor }

def Sample.scaleCandidate (factor : K) (sample : Sample K) : Sample K :=
  { sample with candidate := sample.candidate.map (factor * ·) }

def Sample.scaleReturns (factor : K) (sample : Sample K) : Sample K :=
  { sample with futureReturns := sample.futureReturns.map (factor * ·) }

omit [LinearOrder K] in
theorem vector_map (n : ℕ) (factor : K) (values : List K) :
    vector n (values.map (factor * ·)) = factor • vector n values := by
  funext index
  unfold vector
  rw [List.getD_eq_getElem?_getD, List.getElem?_map, Pi.smul_apply, smul_eq_mul,
    List.getD_eq_getElem?_getD]
  cases values[index.val]? with
  | none => exact (mul_zero factor).symm
  | some value => rfl

variable {first second : ConditionalIncrementalResult K}

section

variable [IsStrictOrderedRing K] {numerics} (lawful : numerics.Lawful) {n : ℕ} {factor : K}

include lawful

theorem sqrt_mul_mul {value : K} (nonneg : 0 ≤ factor) (some_square : 0 ≤ value) :
    numerics.sqrt (factor * factor * value) = factor * numerics.sqrt value := by
  have product : 0 ≤ factor * factor * value :=
    mul_nonneg (mul_self_nonneg factor) some_square
  refine (mul_self_inj_of_nonneg (lawful.sqrt_nonneg _)
    (mul_nonneg nonneg (lawful.sqrt_nonneg _))).mp ?_
  rw [lawful.sqrt_mul_self _ product, mul_mul_mul_comm, lawful.sqrt_mul_self _ some_square]

omit [LinearOrder K] [IsStrictOrderedRing K] lawful in
theorem mean_smul (factor : K) (values : Fin n → K) :
    mean (factor • values) = factor * mean values := by
  unfold mean
  rw [← mul_div_assoc, Finset.mul_sum]
  rfl

theorem std_smul (nonneg : 0 ≤ factor) (values : Fin n → K) :
    std numerics (factor • values) = factor * std numerics values := by
  unfold std
  rw [← sqrt_mul_mul lawful nonneg (by positivity), ← mul_div_assoc, Finset.mul_sum, mean_smul]
  refine congrArg (fun total => numerics.sqrt (total / n)) (Finset.sum_congr rfl fun index _ => ?_)
  rw [Pi.smul_apply, smul_eq_mul]
  ring

theorem standardized_smul (positive : 0 < factor) (values : Fin n → K) :
    standardized numerics (factor • values) = standardized numerics values := by
  funext index
  unfold standardized
  rw [std_smul lawful positive.le, mean_smul, Pi.smul_apply, smul_eq_mul, ← mul_sub,
    mul_div_mul_left _ _ positive.ne']

/-! ### The design under a factor -/

def Kept (numerics : Numerics K) (column : Fin n → K) : Prop := eps * 100 < std numerics column

instance (numerics : Numerics K) (column : Fin n → K) : Decidable (Kept numerics column) :=
  inferInstanceAs (Decidable (_ < _))

variable {columns : List (Fin n → K)}

/-- A rescaled column that stays on its side of the threshold changes nothing. -/
theorem baseZ_modify (positive : 0 < factor) {index : ℕ}
    (same : ∀ column, columns[index]? = some column →
      (Kept numerics (factor • column) ↔ Kept numerics column)) :
    baseZ numerics (columns.modify index (factor • ·)) = baseZ numerics columns := by
  induction columns generalizing index with
  | nil => rw [List.modify_nil]
  | cons column rest inductionHypothesis =>
    unfold baseZ at inductionHypothesis ⊢
    cases index with
    | zero =>
      have kept := same column rfl
      unfold Kept at kept
      rw [List.modify_zero_cons, List.filter_cons, List.filter_cons]
      simp only [decide_eq_true_eq, kept]
      split_ifs
      · rw [List.map_cons, List.map_cons, standardized_smul lawful positive]
      · rfl
    | succ place =>
      rw [List.modify_succ_cons, List.filter_cons, List.filter_cons]
      have others := inductionHypothesis fun other found => same other found
      split_ifs
      · rw [List.map_cons, List.map_cons, others]
      · exact others

omit [IsStrictOrderedRing K] lawful in
/-- A rescaled column that changes sides changes the number of columns. -/
theorem baseZ_length_modify {index : ℕ} {column : Fin n → K}
    (found : columns[index]? = some column) :
    (baseZ numerics (columns.modify index (factor • ·))).length +
        (if Kept numerics column then 1 else 0) =
      (baseZ numerics columns).length + if Kept numerics (factor • column) then 1 else 0 := by
  induction columns generalizing index with
  | nil => cases found
  | cons first rest inductionHypothesis =>
    unfold baseZ at inductionHypothesis ⊢
    rw [List.length_map, List.length_map, ← List.countP_eq_length_filter,
      ← List.countP_eq_length_filter]
    cases index with
    | zero =>
      cases found
      rw [List.modify_zero_cons, List.countP_cons, List.countP_cons]
      unfold Kept
      simp only [decide_eq_true_eq]
      exact Nat.add_right_comm _ _ _
    | succ place =>
      have others := inductionHypothesis found
      rw [List.length_map, List.length_map, ← List.countP_eq_length_filter,
        ← List.countP_eq_length_filter] at others
      rw [List.modify_succ_cons, List.countP_cons, List.countP_cons]
      omega

/-! ### The design in another order -/

variable {others : List (Fin n → K)}

theorem unexplained_perm (same : columns.Perm others) (target : Fin n → K) :
    unexplained numerics columns target = unexplained numerics others target :=
  congrArg (target - ·) (fitted_unique (fun _ => same.mem_iff)
    (lawful.lstsq_normal columns target) (lawful.lstsq_normal others target))

theorem unexplained_smul (columns : List (Fin n → K)) (target : Fin n → K) :
    unexplained numerics columns (factor • target) =
      factor • unexplained numerics columns target := by
  unfold unexplained
  rw [fitted_smul factor (lawful.lstsq_normal columns target)
    (lawful.lstsq_normal columns (factor • target)), smul_sub]

/-- Nothing depends on the order of the columns. -/
theorem evaluate_perm (settings : Settings K) (timestamps : Fin n → ℤ) (y xZ : Fin n → K)
    (same : columns.Perm others) :
    evaluate numerics settings timestamps y xZ columns =
      evaluate numerics settings timestamps y xZ others := by
  unfold evaluate
  simp only [lawful.matrixRank_perm same, same.length_eq, unexplained_perm lawful same,
    lawful.cond_perm (same.append_right [xZ]), lawful.matrixRank_perm (same.append_right [xZ])]

/-! ### Scaled returns -/

structure ScaledBy (factor : K) (first second : ConditionalIncrementalResult K) : Prop where
  effectEstimate : second.effectEstimate = factor * first.effectEstimate
  standardErrorHac : second.standardErrorHac = first.standardErrorHac.map (factor * ·)
  tStatisticHac : second.tStatisticHac = first.tStatisticHac
  pValueOneSided : second.pValueOneSided = first.pValueOneSided

variable {timestamps : Fin n → ℤ} {settings : Settings K}

omit [IsStrictOrderedRing K] lawful in
theorem regress_of_testable {size : ℕ}
    {design : Design K} {xr yResid : Fin n → K} {result : ConditionalIncrementalResult K}
    (done : regress numerics settings timestamps size design xr yResid = result)
    (testable : result.Testable) :
    ∃ sum, sum = (longRun settings.cadenceMs (scores timestamps xr yResid)
        settings.maxLag.toNat).1 ∧ eps < sum ∧ result.effectEstimate = beta xr yResid ∧
      result.standardErrorHac = (numerics.sqrt (sum / ((xr ⬝ᵥ xr) * (xr ⬝ᵥ xr))) : K) ∧
      result.tStatisticHac =
        beta xr yResid / numerics.sqrt (sum / ((xr ⬝ᵥ xr) * (xr ⬝ᵥ xr))) ∧
      result.pValueOneSided = oneSidedNormalP numerics result.tStatisticHac
        settings.expectedSign := by
  unfold regress at done
  dsimp only at done
  split at done
  · rw [← done] at testable
    cases testable
  · next above =>
      subst done
      exact ⟨_, rfl, not_le.mp above, rfl, rfl, rfl, rfl⟩

omit [LinearOrder K] [IsStrictOrderedRing K] lawful in
theorem beta_smul (factor : K) (xr yResid : Fin n → K) :
    beta xr (factor • yResid) = factor * beta xr yResid := by
  unfold beta
  rw [dotProduct_smul, smul_eq_mul, mul_div_assoc]

omit [LinearOrder K] [IsStrictOrderedRing K] lawful in
theorem scores_smul (factor : K) (timestamps : Fin n → ℤ) (xr yResid : Fin n → K) :
    scores timestamps xr (factor • yResid) =
      (scores timestamps xr yResid).map (Score.scale factor) := by
  unfold scores
  rw [List.map_ofFn]
  refine congrArg List.ofFn (funext fun index => (Score.mk.injEq ..).mpr ⟨rfl, ?_⟩)
  rw [beta_smul, mul_smul, ← smul_sub, Pi.smul_apply, smul_eq_mul]
  ring

theorem regress_smul (positive : 0 < factor) {size : ℕ} {design : Design K} {xr yResid : Fin n → K}
    (done : regress numerics settings timestamps size design xr yResid = first)
    (doneScaled : regress numerics settings timestamps size design xr (factor • yResid) = second)
    (testable : first.Testable) (testableScaled : second.Testable) :
    ScaledBy factor first second := by
  obtain ⟨sum, own, above, effect, error, statistic, value⟩ := regress_of_testable done testable
  obtain ⟨scaledSum, scaled, -, scaledEffect, scaledError, scaledStatistic, scaledValue⟩ :=
    regress_of_testable doneScaled testableScaled
  rw [scores_smul, longRun_scale, ← own] at scaled
  have level : (0 : K) < eps := by
    unfold eps
    positivity
  have root : numerics.sqrt (scaledSum / ((xr ⬝ᵥ xr) * (xr ⬝ᵥ xr))) =
      factor * numerics.sqrt (sum / ((xr ⬝ᵥ xr) * (xr ⬝ᵥ xr))) := by
    rw [scaled, mul_div_assoc]
    exact sqrt_mul_mul lawful positive.le
      (div_nonneg (level.trans above).le (mul_self_nonneg _))
  have same : second.tStatisticHac = first.tStatisticHac := by
    rw [scaledStatistic, statistic, root, beta_smul, mul_div_mul_left _ _ positive.ne']
  refine ⟨?_, ?_, same, ?_⟩
  · rw [scaledEffect, effect, beta_smul]
  · rw [scaledError, error, root]
    rfl
  · rw [scaledValue, value, same]

omit [IsStrictOrderedRing K] lawful

/-! ### What a result says of the design -/

theorem regress_design (settings : Settings K) (timestamps : Fin n → ℤ) (size : ℕ)
    (design : Design K) (xr yResid : Fin n → K) :
    (regress numerics settings timestamps size design xr yResid).design = design ∧
      ((regress numerics settings timestamps size design xr yResid).reason = none ∨
        (regress numerics settings timestamps size design xr yResid).reason =
          some .nonPositiveHacVariance) := by
  unfold regress
  dsimp only
  split
  · exact ⟨rfl, .inr rfl⟩
  · exact ⟨rfl, .inl rfl⟩

omit [LinearOrder K] in
theorem notTestable_reason (settings : Settings K) {reason other : Reason} (design : Design K)
    (different : reason ≠ other) : (notTestable settings n reason design).reason ≠ some other :=
  fun same => different (Option.some.inj same)

theorem evaluate_design (settings : Settings K) (timestamps : Fin n → ℤ) (y xZ : Fin n → K)
    (columns : List (Fin n → K)) :
    (evaluate numerics settings timestamps y xZ columns).design.baselineRank =
        numerics.matrixRank columns ∧
      ((evaluate numerics settings timestamps y xZ columns).reason = some .rankDeficientBaseline ↔
        numerics.matrixRank columns ≠ columns.length) ∧
      (evaluate numerics settings timestamps y xZ columns).reason ≠ some .constantCandidate := by
  unfold evaluate
  dsimp only
  split_ifs with deficient
  · exact ⟨rfl, iff_of_true rfl deficient, notTestable_reason settings _ (by decide)⟩
  · exact ⟨rfl, iff_of_false (notTestable_reason settings _ (by decide)) deficient,
      notTestable_reason settings _ (by decide)⟩
  · exact ⟨rfl, iff_of_false (notTestable_reason settings _ (by decide)) deficient,
      notTestable_reason settings _ (by decide)⟩
  · exact ⟨rfl, iff_of_false (notTestable_reason settings _ (by decide)) deficient,
      notTestable_reason settings _ (by decide)⟩
  · have regressed := @regress_design K _ _ numerics n settings timestamps columns.length
    refine ⟨congrArg Design.baselineRank (regressed _ _ _).1, iff_of_false ?_ deficient, ?_⟩
    · rcases (regressed _ _ _).2 with testable | vanishes
      · exact fun same => nomatch testable.symm.trans same
      · exact vanishes ▸ by decide
    · rcases (regressed _ _ _).2 with testable | vanishes
      · exact fun same => nomatch testable.symm.trans same
      · exact vanishes ▸ by decide

theorem evaluate_of_deficient (settings : Settings K) (timestamps : Fin n → ℤ) (y xZ : Fin n → K)
    (deficient : numerics.matrixRank columns ≠ columns.length) :
    evaluate numerics settings timestamps y xZ columns =
      notTestable settings n .rankDeficientBaseline
        { (Design.unknown : Design K) with baselineRank := numerics.matrixRank columns } :=
  if_pos deficient

theorem evaluate_eq_iff (settings : Settings K) (timestamps : Fin n → ℤ) (y xZ : Fin n → K)
    (sizes : columns.length ≠ others.length) :
    evaluate numerics settings timestamps y xZ columns =
        evaluate numerics settings timestamps y xZ others ↔
      numerics.matrixRank columns ≠ columns.length ∧ numerics.matrixRank others ≠ others.length ∧
        numerics.matrixRank columns = numerics.matrixRank others := by
  obtain ⟨rank, deficient, -⟩ :=
    @evaluate_design K _ _ numerics n settings timestamps y xZ columns
  obtain ⟨rankOther, deficientOther, -⟩ :=
    @evaluate_design K _ _ numerics n settings timestamps y xZ others
  constructor
  · intro same
    have ranks : numerics.matrixRank columns = numerics.matrixRank others := by
      rw [← rank, ← rankOther, same]
    have reasons : numerics.matrixRank columns ≠ columns.length ↔
        numerics.matrixRank others ≠ others.length := by
      rw [← deficient, ← deficientOther, same]
    by_cases full : numerics.matrixRank columns = columns.length
    · have fullOther : numerics.matrixRank others = others.length :=
        not_not.mp fun lacking => reasons.mpr lacking full
      exact absurd (full.symm.trans (ranks.trans fullOther)) sizes
    · exact ⟨full, reasons.mp full, ranks⟩
  · rintro ⟨lacking, lackingOther, ranks⟩
    rw [evaluate_of_deficient _ _ _ _ lacking, evaluate_of_deficient _ _ _ _ lackingOther, ranks]

/-- Whether the returns are tested at all does not depend on them. -/
theorem evaluate_of_testable {y xZ : Fin n → K}
    (testable : (evaluate numerics settings timestamps y xZ columns).Testable) :
    ∃ design xr, ∀ other, evaluate numerics settings timestamps other xZ columns =
      regress numerics settings timestamps columns.length design xr
        (unexplained numerics columns other) := by
  unfold evaluate at testable ⊢
  dsimp only at testable ⊢
  split_ifs at testable ⊢
  · cases testable
  · cases testable
  · cases testable
  · cases testable
  · exact ⟨_, _, fun other => rfl⟩

end

/-! ### Rescaled samples -/

section

variable {numerics} {settings : Settings K} {sample : Sample K}

theorem conditionalIncrementalOlsHac_of_gate (admitted : inputGate settings sample = .ok none) :
    conditionalIncrementalOlsHac numerics settings sample =
      .ok (if candidateSd numerics sample ≤ eps * 100 then
          notTestable settings sample.futureReturns.length .constantCandidate Design.unknown
        else evaluate numerics settings (fun index => sample.timestampsMs.getD index 0)
          (vector sample.futureReturns.length sample.futureReturns)
          (standardized numerics (vector sample.futureReturns.length sample.candidate))
          (designColumns numerics sample.futureReturns.length sample.baselineControls)) := by
  unfold conditionalIncrementalOlsHac
  rw [admitted]
  show (if _ then _ else _ : Except Fault (ConditionalIncrementalResult K)) = _
  split_ifs
  · rfl
  · rfl

/-- A sample of other numbers that the checks do not admit is refused alike. -/
theorem conditionalIncrementalOlsHac_of_refused {other : Sample K}
    (same : inputGate settings other = inputGate settings sample)
    (sizes : other.futureReturns.length = sample.futureReturns.length)
    (refused : inputGate settings sample ≠ .ok none) :
    conditionalIncrementalOlsHac numerics settings other =
      conditionalIncrementalOlsHac numerics settings sample := by
  unfold conditionalIncrementalOlsHac
  rw [same, sizes]
  cases gate : inputGate settings sample with
  | error fault => rfl
  | ok reason =>
    cases reason with
    | none => exact absurd gate refused
    | some reason => rfl

/-- The baseline is deficient in both designs, with one rank. -/
def BothDeficient (numerics : Numerics K) {n : ℕ} (columns others : List (Fin n → K)) : Prop :=
  numerics.matrixRank columns ≠ columns.length ∧ numerics.matrixRank others ≠ others.length ∧
    numerics.matrixRank columns = numerics.matrixRank others

/-- The sample is refused before its columns matter, or the deviation of the rescaled column stays
on its side of the threshold, or the baseline is deficient with and without the column. -/
def ColumnSafe (numerics : Numerics K) (settings : Settings K) (sample : Sample K) (index : ℕ)
    (factor : K) : Prop :=
  inputGate settings sample = .ok none → eps * 100 < candidateSd numerics sample →
    ∀ column, sample.baselineControls.columns[index]? = some column →
      (eps * 100 < factor * std numerics (vector sample.futureReturns.length column) ↔
        eps * 100 < std numerics (vector sample.futureReturns.length column)) ∨
      BothDeficient numerics
        (designColumns numerics sample.futureReturns.length
          (sample.baselineControls.scaleColumn index factor))
        (designColumns numerics sample.futureReturns.length sample.baselineControls)

/-- The sample is refused before its candidate matters, or the deviation of the candidate stays on
its side of the threshold. -/
def CandidateSafe (numerics : Numerics K) (settings : Settings K) (sample : Sample K)
    (factor : K) : Prop :=
  inputGate settings sample = .ok none →
    (eps * 100 < factor * candidateSd numerics sample ↔ eps * 100 < candidateSd numerics sample)

theorem evaluate_of_done {n : ℕ} (size : sample.futureReturns.length = n)
    {result : ConditionalIncrementalResult K}
    (done : conditionalIncrementalOlsHac numerics settings sample = .ok result)
    (testable : result.Testable) :
    evaluate numerics settings (fun index : Fin n => sample.timestampsMs.getD index 0)
      (vector n sample.futureReturns) (standardized numerics (vector n sample.candidate))
      (designColumns numerics n sample.baselineControls) = result := by
  subst size
  by_cases admitted : inputGate settings sample = .ok none
  · rw [conditionalIncrementalOlsHac_of_gate admitted] at done
    rw [← Except.ok.inj done] at testable ⊢
    split_ifs at testable ⊢ with constant
    · cases testable
    · rfl
  · unfold conditionalIncrementalOlsHac at done
    cases gate : inputGate settings sample with
    | error fault => rw [gate] at done; cases done
    | ok reason =>
      cases reason with
      | none => exact absurd gate admitted
      | some reason =>
        rw [gate] at done
        rw [← Except.ok.inj done] at testable
        cases testable

omit [LinearOrder K] in
theorem columns_scaleColumn (table : Table K) (n index : ℕ) (factor : K) :
    (table.scaleColumn index factor).columns.map (vector n) =
      (table.columns.map (vector n)).modify index (factor • ·) := by
  refine List.ext_getElem? fun place => ?_
  unfold Table.scaleColumn
  rw [List.getElem?_map, List.getElem?_modify, List.getElem?_modify, List.getElem?_map]
  cases table.columns[place]? with
  | none => rfl
  | some column =>
    show some (vector n (if index = place then column.map (factor * ·) else column)) =
      some (if index = place then factor • vector n column else vector n column)
    split_ifs
    · rw [vector_map]
    · rfl

variable [IsStrictOrderedRing K] (lawful : numerics.Lawful) {factor : K} (positive : 0 < factor)

include lawful positive

theorem scaleColumn_eq_iff (index : ℕ) :
    conditionalIncrementalOlsHac numerics settings (sample.scaleColumn index factor) =
        conditionalIncrementalOlsHac numerics settings sample ↔
      ColumnSafe numerics settings sample index factor := by
  have gates : inputGate settings (sample.scaleColumn index factor) = inputGate settings sample :=
    rfl
  by_cases admitted : inputGate settings sample = .ok none
  swap
  · exact iff_of_true (conditionalIncrementalOlsHac_of_refused gates rfl admitted)
      fun here => absurd here admitted
  rw [conditionalIncrementalOlsHac_of_gate admitted,
    conditionalIncrementalOlsHac_of_gate (gates.trans admitted), Except.ok.injEq]
  by_cases constant : candidateSd numerics sample ≤ eps * 100
  · refine iff_of_true ((if_pos constant).trans (if_pos constant).symm) ?_
    exact fun _ varies => absurd constant (not_le.mpr varies)
  rw [if_neg constant]
  refine (iff_of_eq (congrArg (· = _) (if_neg constant))).trans ?_
  unfold ColumnSafe
  simp only [admitted, not_le.mp constant, true_implies]
  have scaled : designColumns numerics sample.futureReturns.length
      (sample.baselineControls.scaleColumn index factor) =
        1 :: baseZ numerics ((sample.baselineControls.columns.map
          (vector sample.futureReturns.length)).modify index (factor • ·)) :=
    congrArg (fun columns => 1 :: baseZ numerics columns) (columns_scaleColumn _ _ _ _)
  have lookup : (sample.baselineControls.columns.map (vector sample.futureReturns.length))[index]? =
      sample.baselineControls.columns[index]?.map (vector sample.futureReturns.length) :=
    List.getElem?_map
  have unchanged (same : ∀ column, sample.baselineControls.columns[index]? = some column →
      (Kept numerics (factor • vector sample.futureReturns.length column) ↔
        Kept numerics (vector sample.futureReturns.length column))) :
      designColumns numerics sample.futureReturns.length
        (sample.baselineControls.scaleColumn index factor) =
          designColumns numerics sample.futureReturns.length sample.baselineControls := by
    rw [scaled]
    refine congrArg (1 :: ·) (baseZ_modify lawful positive fun values held => ?_)
    rw [lookup] at held
    obtain ⟨column, found, rfl⟩ := Option.map_eq_some_iff.mp held
    exact same column found
  cases found : sample.baselineControls.columns[index]? with
  | none =>
    refine iff_of_true ?_ fun column held => nomatch held
    exact congrArg (evaluate numerics settings _ _ _) (unchanged fun column held =>
      nomatch found.symm.trans held)
  | some column =>
    have side : Kept numerics (factor • vector sample.futureReturns.length column) ↔
        eps * 100 < factor * std numerics (vector sample.futureReturns.length column) := by
      unfold Kept
      rw [std_smul lawful positive.le]
    by_cases same : eps * 100 < factor * std numerics (vector sample.futureReturns.length column) ↔
        eps * 100 < std numerics (vector sample.futureReturns.length column)
    · refine iff_of_true ?_ fun other held => .inl (Option.some.inj held ▸ same)
      refine congrArg (evaluate numerics settings _ _ _) (unchanged fun other held => ?_)
      rw [Option.some.inj (held.symm.trans found)]
      exact side.trans same
    · have sizes : (designColumns numerics sample.futureReturns.length
          (sample.baselineControls.scaleColumn index factor)).length ≠
            (designColumns numerics sample.futureReturns.length
              sample.baselineControls).length := by
        intro equal
        have counted := @baseZ_length_modify K _ _ numerics _ factor _ index _
          (lookup.trans (congrArg (Option.map _) found))
        rw [scaled] at equal
        unfold designColumns at equal
        rw [List.length_cons, List.length_cons, Nat.add_right_cancel_iff] at equal
        rw [equal, Nat.add_left_cancel_iff] at counted
        refine same (side.symm.trans ?_)
        by_cases kept : Kept numerics (vector sample.futureReturns.length column)
        · rw [if_pos kept] at counted
          exact iff_of_true (by_contra fun lost => by rw [if_neg lost] at counted; cases counted)
            kept
        · rw [if_neg kept] at counted
          exact iff_of_false (fun held => by rw [if_pos held] at counted; cases counted) kept
      refine (evaluate_eq_iff settings _ _ _ sizes).trans ⟨fun both other held => .inr both, ?_⟩
      exact fun safe => (safe column rfl).resolve_left same

theorem scaleCandidate_eq_iff :
    conditionalIncrementalOlsHac numerics settings (sample.scaleCandidate factor) =
        conditionalIncrementalOlsHac numerics settings sample ↔
      CandidateSafe numerics settings sample factor := by
  have gates : inputGate settings (sample.scaleCandidate factor) = inputGate settings sample := by
    unfold inputGate Sample.scaleCandidate
    simp only [List.length_map]
  by_cases admitted : inputGate settings sample = .ok none
  swap
  · exact iff_of_true (conditionalIncrementalOlsHac_of_refused gates rfl admitted)
      fun here => absurd here admitted
  have scaled : vector sample.futureReturns.length (sample.scaleCandidate factor).candidate =
      factor • vector sample.futureReturns.length sample.candidate := vector_map _ _ _
  have deviation : candidateSd numerics (sample.scaleCandidate factor) =
      factor * candidateSd numerics sample := by
    unfold candidateSd
    rw [← std_smul lawful positive.le, ← scaled]
    rfl
  have shape : standardized numerics (vector sample.futureReturns.length
      (sample.scaleCandidate factor).candidate) =
        standardized numerics (vector sample.futureReturns.length sample.candidate) := by
    rw [scaled, standardized_smul lawful positive]
  have constant := @evaluate_design K _ _ numerics sample.futureReturns.length settings
    (fun index => sample.timestampsMs.getD index 0)
    (vector sample.futureReturns.length sample.futureReturns)
    (standardized numerics (vector sample.futureReturns.length sample.candidate))
    (designColumns numerics sample.futureReturns.length sample.baselineControls)
  rw [conditionalIncrementalOlsHac_of_gate admitted,
    conditionalIncrementalOlsHac_of_gate (gates.trans admitted), Except.ok.injEq, deviation]
  show (if _ then _ else evaluate numerics settings _ _ (standardized numerics (vector
    sample.futureReturns.length (sample.scaleCandidate factor).candidate)) _) = _ ↔ _
  rw [shape]
  unfold CandidateSafe
  simp only [admitted, true_implies, ← not_le, not_iff_not]
  split_ifs with small other other
  · exact iff_of_true rfl (iff_of_true small other)
  · refine iff_of_false (fun same => constant.2.2 ?_) fun sides => other (sides.mp small)
    exact (congrArg ConditionalIncrementalResult.reason same).symm
  · refine iff_of_false (fun same => constant.2.2 ?_) fun sides => small (sides.mpr other)
    exact congrArg ConditionalIncrementalResult.reason same
  · exact iff_of_true rfl (iff_of_false small other)

theorem scaleReturns_scaledBy
    (done : conditionalIncrementalOlsHac numerics settings sample = .ok first)
    (doneScaled : conditionalIncrementalOlsHac numerics settings (sample.scaleReturns factor) =
      .ok second) (testable : first.Testable) (testableScaled : second.Testable) :
    ScaledBy factor first second := by
  have own := evaluate_of_done rfl done testable
  have scaled := evaluate_of_done (List.length_map (factor * ·)) doneScaled testableScaled
  have returns : vector sample.futureReturns.length (sample.scaleReturns factor).futureReturns =
      factor • vector sample.futureReturns.length sample.futureReturns := vector_map _ _ _
  rw [returns] at scaled
  obtain ⟨design, xr, regressed⟩ := evaluate_of_testable (own ▸ testable)
  have scaledRegressed :=
    regressed (factor • vector sample.futureReturns.length sample.futureReturns)
  rw [unexplained_smul lawful] at scaledRegressed
  exact regress_smul lawful positive ((regressed _).symm.trans own)
    (scaledRegressed.symm.trans scaled) testable testableScaled

omit positive in
/-- Columns in another order give the same result. -/
theorem rearranged_eq {table : Table K} (rows : table.rows = sample.baselineControls.rows)
    (same : table.columns.Perm sample.baselineControls.columns) :
    conditionalIncrementalOlsHac numerics settings { sample with baselineControls := table } =
      conditionalIncrementalOlsHac numerics settings sample := by
  have gates : inputGate settings { sample with baselineControls := table } =
      inputGate settings sample := by
    unfold inputGate
    dsimp only
    rw [rows]
  have columns : (designColumns numerics sample.futureReturns.length table).Perm
      (designColumns numerics sample.futureReturns.length sample.baselineControls) :=
    (((same.map _).filter _).map _).cons _
  by_cases admitted : inputGate settings sample = .ok none
  · rw [conditionalIncrementalOlsHac_of_gate admitted,
      conditionalIncrementalOlsHac_of_gate (gates.trans admitted)]
    dsimp only
    rw [evaluate_perm lawful settings _ _ _ columns]
    rfl
  · exact conditionalIncrementalOlsHac_of_refused gates rfl admitted

end

/-- A rescaled column or candidate leaves every field of the result as it is exactly when it is
safe, columns in another order always do, and returns by a factor scale the effect and its error. -/
theorem rescaling_iff [IsStrictOrderedRing K] (numerics : Numerics K) (lawful : numerics.Lawful)
    (settings : Settings K) (sample : Sample K) :
    (∀ index factor, 0 < factor →
      (conditionalIncrementalOlsHac numerics settings (sample.scaleColumn index factor) =
          conditionalIncrementalOlsHac numerics settings sample ↔
        ColumnSafe numerics settings sample index factor)) ∧
      (∀ factor, 0 < factor →
        (conditionalIncrementalOlsHac numerics settings (sample.scaleCandidate factor) =
            conditionalIncrementalOlsHac numerics settings sample ↔
          CandidateSafe numerics settings sample factor)) ∧
      (∀ table : Table K, table.rows = sample.baselineControls.rows →
        table.columns.Perm sample.baselineControls.columns →
          conditionalIncrementalOlsHac numerics settings { sample with baselineControls := table } =
            conditionalIncrementalOlsHac numerics settings sample) ∧
      ∀ factor first second, 0 < factor →
        conditionalIncrementalOlsHac numerics settings sample = .ok first →
          conditionalIncrementalOlsHac numerics settings (sample.scaleReturns factor) =
            .ok second → first.Testable → second.Testable → ScaledBy factor first second := by
  refine ⟨?_, ?_, ?_, ?_⟩
  · exact fun index factor positive => scaleColumn_eq_iff lawful positive index
  · exact fun factor positive => scaleCandidate_eq_iff lawful positive
  · exact fun table rows same => rearranged_eq lawful rows same
  · exact fun factor first second positive => scaleReturns_scaledBy lawful positive

end

/-! ### At the reals -/

section

/-- The libraries at the reals, with the condition number of orthogonal columns of one length. -/
noncomputable def realNumerics : Numerics ℝ where
  sqrt := Real.sqrt
  erfc value := 2 / Real.sqrt Real.pi * ∫ point in Set.Ioi value, Real.exp (-point ^ 2)
  matrixRank columns := Module.finrank ℝ (Submodule.span ℝ {column | column ∈ columns})
  cond _ := 1
  lstsq := solve

theorem realNumerics_lawful : realNumerics.Lawful where
  sqrt_nonneg := Real.sqrt_nonneg
  sqrt_mul_self _ nonneg := Real.mul_self_sqrt nonneg
  matrixRank_perm {n columns others} same := by
    have alike : {column | column ∈ columns} = {column | column ∈ others} :=
      Set.ext fun column => same.mem_iff
    exact congrArg (fun these : Set (Fin n → ℝ) => Module.finrank ℝ (Submodule.span ℝ these)) alike
  cond_perm _ := rfl
  lstsq_normal := solve_normal

/-- Observations a quarter of an hour apart, without a control. -/
noncomputable def alternating : Sample ℝ where
  futureReturns := [1, 0, 0, 0, 0, 0, 0, 0]
  baselineControls := ⟨8, [], List.forall_mem_nil _⟩
  candidate := [1, -1, 1, -1, 1, -1, 1, -1]
  timestampsMs := (List.range 8).map fun slot => slot * 900000

noncomputable def defaults : Settings ℝ := ⟨1, 900000, 3600000, 1 / 10 ^ 6, 10 ^ 8⟩

theorem alternating_admitted : inputGate defaults alternating = .ok none := by
  rfl

theorem alternating_sd : candidateSd realNumerics alternating = 1 := by
  have average : mean (vector 8 alternating.candidate) = 0 := by
    unfold mean vector alternating
    norm_num [Fin.sum_univ_eight]
  show std realNumerics (vector 8 alternating.candidate) = 1
  unfold std
  rw [average]
  unfold vector alternating realNumerics
  norm_num [Fin.sum_univ_eight]

/-- A candidate of a small scale is taken for a constant. -/
theorem small_candidate_refused :
    conditionalIncrementalOlsHac realNumerics defaults
        (alternating.scaleCandidate (1 / 10 ^ 20)) ≠
      conditionalIncrementalOlsHac realNumerics defaults alternating := by
  intro same
  have safe := (scaleCandidate_eq_iff realNumerics_lawful (by norm_num)).mp same
    alternating_admitted
  rw [alternating_sd] at safe
  unfold eps at safe
  norm_num at safe

theorem doubled_candidate :
    conditionalIncrementalOlsHac realNumerics defaults (alternating.scaleCandidate 2) =
      conditionalIncrementalOlsHac realNumerics defaults alternating := by
  refine ((rescaling_iff realNumerics realNumerics_lawful defaults alternating).2.1 2
    (by norm_num)).mpr fun _ => ?_
  rw [alternating_sd]
  unfold eps
  norm_num

end

end QuantAgent.Inference.Conditional
