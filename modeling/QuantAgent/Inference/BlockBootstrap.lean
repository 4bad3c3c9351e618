/-
This file embeds the block bootstrap of the discovery metrics. Each replicate is computed from
partial sums of the source hours, with a last block that is cut to the hours that remain; it is the
ratio over the concatenation of the drawn blocks, cut off after the hours of the source.
-/

import QuantAgent.Library.BlockSums
import QuantAgent.Library.Checks

namespace QuantAgent.Inference

open BlockSums

/-! ### The bootstrap -/

/-- `_L`. -/
def blockHours : ℕ := 168

/-- `_M`. -/
def replicateCount : ℕ := 10000

inductive MetricId where
  | precision
  | netExpectancy
  deriving DecidableEq

def MetricId.numerator {K : Type} (hourlyCorrect hourlyNet : List K) : MetricId → List K
  | precision => hourlyCorrect
  | netExpectancy => hourlyNet

/-- `math.ceil(h / _L)`. -/
def blockCount (h : ℕ) : ℕ := (h + blockHours - 1) / blockHours

section

variable {K : Type} [Field K] [LinearOrder K]

section

open Check

/-- What `h40_bootstrap_metric` refuses. -/
def bootstrapChecks (starts : List (List ℤ)) (hourlyCount hourlyCorrect hourlyNet : List K) :
    List (Check String) :=
  let h := hourlyCount.length
  [require (blockHours ≤ h ∧ hourlyCorrect.length = h ∧ hourlyNet.length = h)
      "bootstrap source-hour arrays mismatch",
    require (starts.length = replicateCount ∧ ∀ row ∈ starts, row.length = blockCount h)
      "bootstrap start matrix shape or dtype mismatch",
    require (∀ row ∈ starts, ∀ start ∈ row, 0 ≤ start ∧ start ≤ h - blockHours)
      "bootstrap start outside non-circular universe",
    require ((∀ count ∈ hourlyCount, 0 ≤ count) ∧ (∀ correct ∈ hourlyCorrect, 0 ≤ correct) ∧
        (∀ pair ∈ hourlyCorrect.zip hourlyCount, pair.1 ≤ pair.2) ∧
        ∀ pair ∈ hourlyCount.zip hourlyNet, pair.1 = 0 → pair.2 = 0)
      "source-hour scientific aggregates are inconsistent"]

end

/-- `sampled_sum` for one row of starts: the last block is overwritten by one of the tail. -/
def sampledSum (h : ℕ) (values : List K) (row : List ℤ) : K :=
  let blocks := blockCount h
  let tailLength := h - (blocks - 1) * blockHours
  let full := row.map fun start => blockSum values start.toNat blockHours
  (full.set (blocks - 1) (blockSum values ((row.getLast?.getD 0).toNat) tailLength)).sum

def replicate (h : ℕ) (hourlyCount numerator : List K) (row : List ℤ) : K :=
  let counts := sampledSum h hourlyCount row
  if 0 < counts then sampledSum h numerator row / counts else 0

def h40BootstrapMetric (starts : List (List ℤ)) (hourlyCount hourlyCorrect hourlyNet : List K)
    (metricId : MetricId) : Except String (List K) := do
  Check.run (bootstrapChecks starts hourlyCount hourlyCorrect hourlyNet)
  let numerator := metricId.numerator hourlyCorrect hourlyNet
  return starts.map (replicate hourlyCount.length hourlyCount numerator)

/-! ### Direct resampling -/

def resampledHours (h : ℕ) (row : List ℤ) : List ℕ :=
  concatenated blockHours h (row.map Int.toNat)

def resampledSum (h : ℕ) (values : List K) (row : List ℤ) : K :=
  ((resampledHours h row).map (valueAt values)).sum

def resampledRatio (h : ℕ) (hourlyCount numerator : List K) (row : List ℤ) : K :=
  let counts := resampledSum h hourlyCount row
  if counts = 0 then 0 else resampledSum h numerator row / counts

end

/-! ### The two agree -/

theorem blockCount_bounds {h : ℕ} (long : blockHours ≤ h) :
    0 < blockCount h ∧ (blockCount h - 1) * blockHours ≤ h ∧ h ≤ blockCount h * blockHours := by
  unfold blockCount blockHours at *
  omega

/-- A row of starts that the metric accepts. -/
structure RowAdmissible (h : ℕ) (row : List ℤ) : Prop where
  long : blockHours ≤ h
  length : row.length = blockCount h
  inside : ∀ start ∈ row, 0 ≤ start ∧ start ≤ h - blockHours

section

variable {K : Type} [Field K] {h : ℕ} {row : List ℤ}

theorem sum_flatMap_blocks {values : List K} {starts : List ℕ}
    (inside : ∀ start ∈ starts, start + blockHours ≤ values.length) :
    (starts.map fun start => blockSum values start blockHours).sum =
      ((starts.flatMap fun start => List.range' start blockHours).map (valueAt values)).sum := by
  induction starts with
  | nil => rfl
  | cons start rest inductionHypothesis =>
    obtain ⟨first, others⟩ := List.forall_mem_cons.mp inside
    rw [List.map_cons, List.sum_cons, List.flatMap_cons, List.map_append, List.sum_append,
      blockSum_eq start first, inductionHypothesis others]

theorem RowAdmissible.sampledSum_eq (admissible : RowAdmissible h row) {values : List K}
    (length : values.length = h) : sampledSum h values row = resampledSum h values row := by
  obtain ⟨long, rowLength, inside⟩ := admissible
  obtain ⟨some, full, cut⟩ := blockCount_bounds long
  obtain rfl | ⟨starts, last, rfl⟩ := row.eq_nil_or_concat'
  · exact absurd (rowLength.symm.trans List.length_nil) some.ne'
  have count : starts.length = blockCount h - 1 := by
    rw [List.length_append, List.length_singleton] at rowLength
    omega
  have within : ∀ start ∈ starts.map Int.toNat, start + blockHours ≤ values.length := by
    intro start member
    obtain ⟨drawn, held, rfl⟩ := List.mem_map.mp member
    obtain ⟨low, high⟩ := inside drawn (List.mem_append_left _ held)
    omega
  have tail : last.toNat + (h - (blockCount h - 1) * blockHours) ≤ values.length := by
    obtain ⟨low, high⟩ := inside last (List.mem_append_right _ List.mem_cons_self)
    have split : blockCount h * blockHours = (blockCount h - 1) * blockHours + blockHours := by
      rw [← Nat.succ_mul, Nat.succ_eq_add_one, Nat.sub_add_cancel some]
    omega
  have overwritten (tailSum : K) :
      (((starts ++ [last]).map fun start => blockSum values start.toNat blockHours).set
        (blockCount h - 1) tailSum) =
      (starts.map fun start => blockSum values start.toNat blockHours) ++ [tailSum] := by
    rw [List.map_append, List.set_append_right _ _ (by rw [List.length_map, count]),
      List.length_map, count, Nat.sub_self]
    rfl
  have blocks := sum_flatMap_blocks within
  unfold sampledSum resampledSum resampledHours
  dsimp only
  have lastStart : (starts ++ [last]).getLast?.getD 0 = last := by
    rw [List.getLast?_concat, Option.getD_some]
  have hours : concatenated blockHours h ((starts ++ [last]).map Int.toNat) =
      ((starts.map Int.toNat).flatMap fun start => List.range' start blockHours) ++
        List.range' last.toNat (h - (blockCount h - 1) * blockHours) := by
    have mapped : (starts.map Int.toNat).length = blockCount h - 1 := by
      rw [List.length_map, count]
    rw [List.map_append, List.map_singleton, concatenated_concat, mapped]
    · rw [mapped]
      exact full
    · rw [mapped, Nat.sub_add_cancel some]
      exact cut
  rw [overwritten, lastStart, hours, List.sum_append, List.sum_singleton, List.map_append,
    List.sum_append, ← blocks, List.map_map, blockSum_eq _ tail]
  rfl

end

section

variable {K : Type} [Field K] [LinearOrder K] {starts : List (List ℤ)}
  {hourlyCount hourlyCorrect hourlyNet : List K}

structure MetricAccepted (starts : List (List ℤ)) (hourlyCount hourlyCorrect hourlyNet : List K) :
    Prop where
  rows : ∀ row ∈ starts, RowAdmissible hourlyCount.length row
  rowCount : starts.length = replicateCount
  correctLength : hourlyCorrect.length = hourlyCount.length
  netLength : hourlyNet.length = hourlyCount.length
  countNonneg : ∀ count ∈ hourlyCount, 0 ≤ count
  correctNonneg : ∀ correct ∈ hourlyCorrect, 0 ≤ correct
  correctLe : ∀ pair ∈ hourlyCorrect.zip hourlyCount, pair.1 ≤ pair.2

theorem accepted_of_metric {metricId : MetricId} {replicates : List K}
    (returned : h40BootstrapMetric starts hourlyCount hourlyCorrect hourlyNet metricId =
      .ok replicates) :
    MetricAccepted starts hourlyCount hourlyCorrect hourlyNet ∧
      replicates = starts.map (replicate hourlyCount.length hourlyCount
        (metricId.numerator hourlyCorrect hourlyNet)) := by
  unfold h40BootstrapMetric at returned
  cases checked : Check.run (bootstrapChecks starts hourlyCount hourlyCorrect hourlyNet) with
  | error message =>
    rw [checked] at returned
    cases returned
  | ok passed =>
    rw [checked] at returned
    have passes : Check.run (bootstrapChecks starts hourlyCount hourlyCorrect hourlyNet) =
        .ok () := checked
    unfold bootstrapChecks at passes
    simp only [Check.run_require_eq_ok_iff, Check.run_nil, and_true] at passes
    obtain ⟨⟨long, correctLength, netLength⟩, ⟨rowCount, lengths⟩, inside,
      countNonneg, correctNonneg, correctLe, -⟩ := passes
    exact ⟨⟨fun row member => ⟨long, lengths row member, inside row member⟩, rowCount,
      correctLength, netLength, countNonneg, correctNonneg, correctLe⟩,
      (Except.ok.inj returned).symm⟩

variable [IsStrictOrderedRing K] {row : List ℤ}

theorem RowAdmissible.mem_hours {h hour : ℕ} (admissible : RowAdmissible h row)
    (member : hour ∈ resampledHours h row) : hour < h := by
  obtain ⟨start, held, -, before⟩ := mem_concatenated member
  obtain ⟨drawn, drawnHeld, rfl⟩ := List.mem_map.mp held
  obtain ⟨low, high⟩ := admissible.inside drawn drawnHeld
  omega

theorem RowAdmissible.length_hours {h : ℕ} (admissible : RowAdmissible h row) :
    (resampledHours h row).length = h := by
  refine length_concatenated ?_
  rw [List.length_map, admissible.length]
  exact (blockCount_bounds admissible.long).2.2

omit [IsStrictOrderedRing K] in
theorem valueAt_nonneg {values : List K} (nonneg : ∀ value ∈ values, 0 ≤ value) (hour : ℕ) :
    0 ≤ valueAt values hour := by
  unfold valueAt
  rw [List.getD_eq_getElem?_getD]
  cases found : values[hour]? with
  | none => exact le_rfl
  | some value => exact nonneg value (List.mem_of_getElem? found)

theorem resampledSum_nonneg {values : List K} (nonneg : ∀ value ∈ values, 0 ≤ value) (h : ℕ)
    (row : List ℤ) : 0 ≤ resampledSum h values row := by
  refine List.sum_nonneg fun value member => ?_
  obtain ⟨hour, -, rfl⟩ := List.mem_map.mp member
  exact valueAt_nonneg nonneg hour

section

variable (accepted : MetricAccepted starts hourlyCount hourlyCorrect hourlyNet)

include accepted

theorem MetricAccepted.correct_le (member : row ∈ starts) :
    resampledSum hourlyCount.length hourlyCorrect row ≤
      resampledSum hourlyCount.length hourlyCount row := by
  refine List.sum_le_sum fun hour held => ?_
  have inside := (accepted.rows row member).mem_hours held
  have insideCorrect : hour < hourlyCorrect.length := accepted.correctLength ▸ inside
  unfold valueAt
  rw [List.getD_eq_getElem _ _ insideCorrect, List.getD_eq_getElem _ _ inside]
  refine accepted.correctLe (hourlyCorrect[hour], hourlyCount[hour]) ?_
  refine List.mem_iff_getElem.mpr ⟨hour, ?_, List.getElem_zip⟩
  rw [List.length_zip]
  exact lt_min insideCorrect inside

theorem MetricAccepted.replicate_eq
    (member : row ∈ starts) {numerator : List K} (length : numerator.length = hourlyCount.length) :
    replicate hourlyCount.length hourlyCount numerator row =
      resampledRatio hourlyCount.length hourlyCount numerator row := by
  have admissible := accepted.rows row member
  have nonneg := resampledSum_nonneg accepted.countNonneg hourlyCount.length row
  unfold replicate resampledRatio
  dsimp only
  rw [admissible.sampledSum_eq rfl, admissible.sampledSum_eq length]
  split_ifs with positive zero zero
  · exact absurd zero positive.ne'
  · rfl
  · rfl
  · exact absurd (lt_of_le_of_ne nonneg (Ne.symm zero)) positive

theorem MetricAccepted.precision_mem (member : row ∈ starts) :
    0 ≤ resampledRatio hourlyCount.length hourlyCount hourlyCorrect row ∧
      resampledRatio hourlyCount.length hourlyCount hourlyCorrect row ≤ 1 := by
  have count := resampledSum_nonneg accepted.countNonneg hourlyCount.length row
  have correct := resampledSum_nonneg accepted.correctNonneg hourlyCount.length row
  unfold resampledRatio
  dsimp only
  split_ifs
  · exact ⟨le_rfl, zero_le_one⟩
  · exact ⟨div_nonneg correct count, div_le_one_of_le₀ (accepted.correct_le member) count⟩

end

/-- The replicates by partial sums are those of the direct resampling, each over as many hours as
the source has, and a replicate of the precision is a share. -/
theorem h40BootstrapMetric_eq_resampled {metricId : MetricId} {replicates : List K}
    (returned : h40BootstrapMetric starts hourlyCount hourlyCorrect hourlyNet metricId =
      .ok replicates) :
    replicates = starts.map (resampledRatio hourlyCount.length hourlyCount
        (metricId.numerator hourlyCorrect hourlyNet)) ∧
      (∀ row ∈ starts, (resampledHours hourlyCount.length row).length = hourlyCount.length) ∧
      (metricId = .precision → ∀ value ∈ replicates, 0 ≤ value ∧ value ≤ 1) := by
  obtain ⟨accepted, rfl⟩ := accepted_of_metric returned
  have direct : starts.map (replicate hourlyCount.length hourlyCount
        (metricId.numerator hourlyCorrect hourlyNet)) =
      starts.map (resampledRatio hourlyCount.length hourlyCount
        (metricId.numerator hourlyCorrect hourlyNet)) := by
    refine List.map_congr_left fun row member => accepted.replicate_eq member ?_
    cases metricId with
    | precision => exact accepted.correctLength
    | netExpectancy => exact accepted.netLength
  refine ⟨direct, fun row member => (accepted.rows row member).length_hours, ?_⟩
  rintro rfl value member
  rw [direct] at member
  obtain ⟨row, held, rfl⟩ := List.mem_map.mp member
  exact accepted.precision_mem held

/-- Two hundred hours with two decisions each, one of them correct. -/
theorem even_hours_share : ∃ replicates : List ℚ,
    h40BootstrapMetric (List.replicate replicateCount [0, 32]) (List.replicate 200 2)
        (List.replicate 200 1) (List.replicate 200 0) .precision = .ok replicates ∧
      ∀ value ∈ replicates, 0 ≤ value ∧ value ≤ 1 := by
  have passes : Check.run (bootstrapChecks (List.replicate replicateCount [0, 32])
      (List.replicate 200 (2 : ℚ)) (List.replicate 200 1) (List.replicate 200 0)) = .ok () := by
    unfold bootstrapChecks
    simp only [Check.run_require_eq_ok_iff, Check.run_nil, and_true, List.length_replicate,
      List.mem_replicate, List.zip_replicate', and_imp, forall_eq_apply_imp_iff]
    refine ⟨by decide, ⟨trivial, fun _ => rfl⟩, fun _ => by decide, ?_, ?_, ?_, ?_⟩
    · exact fun _ => by norm_num
    · exact fun _ => by norm_num
    · exact fun _ => by norm_num
    · exact fun _ _ => trivial
  have returned : h40BootstrapMetric (List.replicate replicateCount [0, 32])
      (List.replicate 200 (2 : ℚ)) (List.replicate 200 1) (List.replicate 200 0) .precision =
        .ok _ := congrArg (fun checked => checked >>= fun _ => Except.ok _) passes
  exact ⟨_, returned, (h40BootstrapMetric_eq_resampled returned).2.2 rfl⟩

end

end QuantAgent.Inference
