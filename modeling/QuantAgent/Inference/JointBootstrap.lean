/-
This file embeds the joint bootstrap with its expanded quadratic terms, gathered in chunks from
differences of partial sums. Every Studentized ratio is the one over the concatenation of the drawn
blocks, with the squared residuals of the blocks summed directly, and a coordinate without enough
events has no bound and no part in those of the others.

The square root is a parameter; at the reals it is the real one.
-/

import QuantAgent.Library.BlockSums
import QuantAgent.Library.Numerals

namespace QuantAgent.Inference

open BlockSums Numerals

/-! ### The estimates -/

/-- A row of the two matrices: the outcomes of a candidate and its event mask. -/
structure Coordinate (K : Type) where
  outcomes : List K
  mask : List K

section

variable {K : Type} [Field K] [LinearOrder K]

def numBlocks (hours length : ℕ) : ℕ := (hours + length - 1) / length

/-- The number of block starts. -/
def startCount (hours length : ℕ) : ℕ := hours - length + 1

namespace Coordinate

/-- `denom`. -/
def events (coordinate : Coordinate K) : K := coordinate.mask.sum

def Testable (coordinate : Coordinate K) : Prop := 60 ≤ coordinate.events

instance (coordinate : Coordinate K) : Decidable coordinate.Testable :=
  inferInstanceAs (Decidable (_ ≤ _))

def muHat (coordinate : Coordinate K) : K := coordinate.outcomes.sum / coordinate.events

end Coordinate

def overlappingSums (hours length : ℕ) (values : List K) : List K :=
  (List.range (startCount hours length)).map fun start => blockSum values start length

def varianceFloor : K := 1 / 10 ^ 12

def seHat (sqrt : K → K) (hours length : ℕ) (coordinate : Coordinate K) : K :=
  let residuals := (overlappingSums hours length coordinate.outcomes).zipWith
    (fun z a => z - coordinate.muHat * a) (overlappingSums hours length coordinate.mask)
  let mean := residuals.sum / startCount hours length
  let variance := (hours : K) / (length * startCount hours length) *
    (residuals.map fun residual => (residual - mean) ^ 2).sum
  sqrt (max variance varianceFloor) / coordinate.events

/-! ### The replicates -/

/-- `np.sum(np.take(blocks, starts))`, a sum for every row of starts. -/
def takeSums (blocks : List K) (starts : List (List ℕ)) : List K :=
  starts.map fun draw => (draw.map (valueAt blocks)).sum

/-- The same, in chunks where there are more rows than one takes. -/
def gather (chunk : ℕ) (blocks : List K) (starts : List (List ℕ)) : List K :=
  if starts.length ≤ chunk then takeSums blocks starts
  else ((List.range' 0 ((starts.length + chunk - 1) / chunk) chunk).map fun first =>
    takeSums blocks ((starts.drop first).take chunk)).flatten

def expandedSquares (mu z2 za a2 : K) : K := z2 - 2 * mu * za + mu ^ 2 * a2

/-- `T_b` of one replicate, from its gathered sums. -/
def studentized (sqrt : K → K) (blocks : ℕ) (muHat center z a z2 a2 za : K) : K :=
  let denominator := max a varianceFloor
  let mu := if a = 0 then muHat else z / denominator
  let squares := max (expandedSquares mu z2 za a2) 0
  let variance := (blocks : K) / denominator ^ 2 * (squares / (max (blocks - 1) 1 : ℕ))
  (mu - center) / sqrt (max variance varianceFloor)

/-- `T_b`: a statistic for every row of starts. -/
def statistics (sqrt : K → K) (chunk hours length : ℕ) (starts : List (List ℕ))
    (coordinate : Coordinate K) : List K :=
  let zBlocks := overlappingSums hours length coordinate.outcomes
  let aBlocks := overlappingSums hours length coordinate.mask
  let z := gather chunk zBlocks starts
  let a := gather chunk aBlocks starts
  let z2 := gather chunk (zBlocks.map fun block => block ^ 2) starts
  let a2 := gather chunk (aBlocks.map fun block => block ^ 2) starts
  let za := gather chunk (zBlocks.zipWith (· * ·) aBlocks) starts
  let center := zBlocks.sum / max aBlocks.sum varianceFloor
  (List.range starts.length).map fun replicate =>
    studentized sqrt (numBlocks hours length) coordinate.muHat center (valueAt z replicate)
      (valueAt a replicate) (valueAt z2 replicate) (valueAt a2 replicate) (valueAt za replicate)

/-- `np.percentile(values, 95.0)`, between the two nearest of the ordered values. -/
def percentile95 (values : List K) : Option K :=
  let ordered := values.insertionSort (· ≤ ·)
  let place := 95 * (ordered.length - 1)
  match ordered[place / 100]? with
  | none => none
  | some below =>
    let above := ordered.getD (min (place / 100 + 1) (ordered.length - 1)) below
    some (below + (place % 100 : ℕ) / 100 * (above - below))

/-- `np.max`, over a first coordinate and the others. -/
def maximum (first : K) (rest : List K) : K := rest.foldl max first

/-- What the bootstrap returns: `none` stands for a number that is not one. -/
structure JointBootstrap (K : Type) where
  muHat : List K
  seHat : List (Option K)
  c95 : Option K
  lcb : List (WithBot K)

def returned (standardError : Coordinate K → K) (coordinates : List (Coordinate K))
    (c95 : Option K) : JointBootstrap K where
  muHat := coordinates.map fun coordinate => if coordinate.Testable then coordinate.muHat else 0
  seHat := coordinates.map fun coordinate =>
    if coordinate.Testable then some (standardError coordinate) else none
  c95 := c95
  lcb := coordinates.map fun coordinate =>
    match c95 with
    | some critical =>
      if coordinate.Testable then
        ((coordinate.muHat - critical * standardError coordinate : K) : WithBot K)
      else ⊥
    | none => ⊥

/-- `run_joint_bootstrap_studentized`, of the drawn starts; `none` when there is no replicate to
take a percentile of. -/
def runJointBootstrapStudentized (sqrt : K → K) (chunk hours length : ℕ)
    (coordinates : List (Coordinate K)) (starts : List (List ℕ)) : Option (JointBootstrap K) :=
  match coordinates.filter fun coordinate => coordinate.Testable with
  | [] => some (returned (seHat sqrt hours length) coordinates none)
  | first :: rest =>
    let maxima := (List.range starts.length).map fun replicate =>
      maximum (valueAt (statistics sqrt chunk hours length starts first) replicate)
        (rest.map fun coordinate =>
          valueAt (statistics sqrt chunk hours length starts coordinate) replicate)
    (percentile95 maxima).map fun critical =>
      returned (seHat sqrt hours length) coordinates (some critical)

/-! ### The direct definition -/

def directBlock (length : ℕ) (values : List K) (start : ℕ) : K :=
  ((List.range' start length).map (valueAt values)).sum

def concatenatedSum (length : ℕ) (values : List K) (draw : List ℕ) : K :=
  ((draw.flatMap fun start => List.range' start length).map (valueAt values)).sum

def blockResidual (length : ℕ) (coordinate : Coordinate K) (mu : K) (start : ℕ) : K :=
  ((List.range' start length).map fun hour =>
    valueAt coordinate.outcomes hour - mu * valueAt coordinate.mask hour).sum

def directStandardError (sqrt : K → K) (hours length : ℕ) (coordinate : Coordinate K) : K :=
  let residuals := (List.range (startCount hours length)).map
    (blockResidual length coordinate coordinate.muHat)
  let mean := residuals.sum / startCount hours length
  let variance := (hours : K) / (length * startCount hours length) *
    (residuals.map fun residual => (residual - mean) ^ 2).sum
  sqrt (max variance varianceFloor) / coordinate.events

def drawnRatio (length : ℕ) (coordinate : Coordinate K) (draw : List ℕ) : K :=
  if concatenatedSum length coordinate.mask draw = 0 then coordinate.muHat
  else concatenatedSum length coordinate.outcomes draw / concatenatedSum length coordinate.mask draw

def drawnVariance (length : ℕ) (coordinate : Coordinate K) (draw : List ℕ) : K :=
  let events := concatenatedSum length coordinate.mask draw
  if events = 0 then 0
  else (draw.length : K) / events ^ 2 *
    ((draw.map fun start =>
      blockResidual length coordinate (drawnRatio length coordinate draw) start ^ 2).sum /
        (max (draw.length - 1) 1 : ℕ))

/-- The ratio over all overlapping blocks. -/
def blockCenter (hours length : ℕ) (coordinate : Coordinate K) : K :=
  concatenatedSum length coordinate.outcomes (List.range (startCount hours length)) /
    concatenatedSum length coordinate.mask (List.range (startCount hours length))

def directStatistic (sqrt : K → K) (hours length : ℕ) (coordinate : Coordinate K)
    (draw : List ℕ) : K :=
  (drawnRatio length coordinate draw - blockCenter hours length coordinate) /
    sqrt (max (drawnVariance length coordinate draw) varianceFloor)

def directBootstrap (sqrt : K → K) (hours length : ℕ) (coordinates : List (Coordinate K))
    (starts : List (List ℕ)) : Option (JointBootstrap K) :=
  match coordinates.filter fun coordinate => coordinate.Testable with
  | [] => some (returned (directStandardError sqrt hours length) coordinates none)
  | first :: rest =>
    (percentile95 (starts.map fun draw => maximum (directStatistic sqrt hours length first draw)
      (rest.map fun coordinate => directStatistic sqrt hours length coordinate draw))).map
        fun critical => returned (directStandardError sqrt hours length) coordinates (some critical)

end

/-! ### Sums over blocks -/

section

variable {K : Type} [Field K] {hours length : ℕ}

theorem concatenatedSum_eq (values : List K) (draw : List ℕ) :
    concatenatedSum length values draw = (draw.map (directBlock length values)).sum := by
  unfold concatenatedSum directBlock
  induction draw with
  | nil => rfl
  | cons start rest inductionHypothesis =>
    rw [List.flatMap_cons, List.map_append, List.sum_append, inductionHypothesis, List.map_cons,
      List.sum_cons]

theorem blockResidual_eq (coordinate : Coordinate K) (mu : K) (start : ℕ) :
    blockResidual length coordinate mu start =
      directBlock length coordinate.outcomes start -
        mu * directBlock length coordinate.mask start := by
  unfold blockResidual directBlock
  induction List.range' start length with
  | nil => simp
  | cons hour rest inductionHypothesis =>
    rw [List.map_cons, List.sum_cons, inductionHypothesis, List.map_cons, List.sum_cons,
      List.map_cons, List.sum_cons]
    ring

theorem expandedSquares_eq (coordinate : Coordinate K) (mu : K) (draw : List ℕ) :
    expandedSquares mu (draw.map fun start => directBlock length coordinate.outcomes start ^ 2).sum
      (draw.map fun start => directBlock length coordinate.outcomes start *
        directBlock length coordinate.mask start).sum
      (draw.map fun start => directBlock length coordinate.mask start ^ 2).sum =
        (draw.map fun start => blockResidual length coordinate mu start ^ 2).sum := by
  simp only [blockResidual_eq]
  unfold expandedSquares
  induction draw with
  | nil => simp
  | cons start rest inductionHypothesis =>
    simp only [List.map_cons, List.sum_cons]
    rw [← inductionHypothesis]
    ring

theorem overlappingSums_eq (short : length ≤ hours) {values : List K}
    (whole : values.length = hours) :
    overlappingSums hours length values =
      (List.range (startCount hours length)).map (directBlock length values) := by
  unfold overlappingSums directBlock
  refine List.map_congr_left fun start member => blockSum_eq start ?_
  have inside := List.mem_range.mp member
  unfold startCount at inside
  omega

theorem gather_eq {chunk : ℕ} (positive : 0 < chunk) (blocks : List K) (starts : List (List ℕ)) :
    gather chunk blocks starts = takeSums blocks starts := by
  unfold gather
  split_ifs
  · rfl
  · have all : starts.take ((starts.length + chunk - 1) / chunk * chunk) = starts := by
      refine List.take_of_length_le ?_
      have whole := Nat.div_add_mod (starts.length + chunk - 1) chunk
      have rest := Nat.mod_lt (starts.length + chunk - 1) positive
      rw [Nat.mul_comm]
      omega
    conv_rhs => rw [← all, ← flatten_chunks]
    unfold takeSums
    rw [List.map_flatten, List.map_map]
    rfl

theorem valueAt_gather {chunk : ℕ} (positive : 0 < chunk) (block : ℕ → K)
    {starts : List (List ℕ)} {replicate : ℕ} (drawn : replicate < starts.length)
    (inside : ∀ start ∈ starts[replicate], start < startCount hours length) :
    valueAt (gather chunk ((List.range (startCount hours length)).map block) starts) replicate =
      (starts[replicate].map block).sum := by
  rw [gather_eq positive]
  unfold takeSums valueAt
  rw [List.getD_eq_getElem _ _ (by simpa using drawn), List.getElem_map]
  exact congrArg List.sum (List.map_congr_left fun start member =>
    valueAt_map_range block (inside start member))

end

/-! ### Admissible matrices -/

section

variable {K : Type} [Field K]

/-- A row of the shape of the clock, with a mask of zeros and ones and no outcome where it is
zero. -/
structure Coordinate.Admissible (hours : ℕ) (coordinate : Coordinate K) : Prop where
  outcomes_length : coordinate.outcomes.length = hours
  mask_length : coordinate.mask.length = hours
  binary : ∀ value ∈ coordinate.mask, value = 0 ∨ value = 1
  masked : ∀ pair ∈ coordinate.mask.zip coordinate.outcomes, pair.1 = 0 → pair.2 = 0

namespace Coordinate.Admissible

variable {hours : ℕ} {coordinate : Coordinate K} (admissible : coordinate.Admissible hours)

include admissible

theorem mask_at (hour : ℕ) :
    valueAt coordinate.mask hour = 0 ∨ valueAt coordinate.mask hour = 1 := by
  by_cases inside : hour < coordinate.mask.length
  · exact admissible.binary _ (valueAt_mem inside)
  · exact .inl (valueAt_of_le (not_lt.mp inside))

theorem outcome_at {hour : ℕ} (absent : valueAt coordinate.mask hour = 0) :
    valueAt coordinate.outcomes hour = 0 := by
  by_cases inside : hour < hours
  · have inMask : hour < coordinate.mask.length := admissible.mask_length ▸ inside
    have inOutcomes : hour < coordinate.outcomes.length := admissible.outcomes_length ▸ inside
    unfold valueAt at absent ⊢
    rw [List.getD_eq_getElem _ _ inMask] at absent
    rw [List.getD_eq_getElem _ _ inOutcomes]
    have pair : (coordinate.mask[hour], coordinate.outcomes[hour]) ∈
        coordinate.mask.zip coordinate.outcomes := by
      rw [← List.getElem_zip (h := by rw [List.length_zip]; omega)]
      exact List.getElem_mem _
    exact admissible.masked _ pair absent
  · exact valueAt_of_le (admissible.outcomes_length ▸ not_lt.mp inside)

end Coordinate.Admissible

variable [LinearOrder K] [IsStrictOrderedRing K]

theorem binary_sum {value : ℕ → K} (binary : ∀ hour, value hour = 0 ∨ value hour = 1)
    (hours : List ℕ) :
    ((hours.map value).sum = 0 ∧ ∀ hour ∈ hours, value hour = 0) ∨ 1 ≤ (hours.map value).sum := by
  induction hours with
  | nil => exact .inl ⟨rfl, List.forall_mem_nil _⟩
  | cons hour rest inductionHypothesis =>
    rw [List.map_cons, List.sum_cons, List.forall_mem_cons]
    rcases binary hour with zero | one
    · rw [zero, zero_add]
      exact inductionHypothesis.imp_left fun ⟨sum, all⟩ => ⟨sum, rfl, all⟩
    · right
      rw [one]
      have nonneg : 0 ≤ (rest.map value).sum := by
        rcases inductionHypothesis with ⟨sum, -⟩ | more
        · exact sum.ge
        · exact zero_le_one.trans more
      linarith

theorem max_varianceFloor {value : K} (more : 1 ≤ value) : max value varianceFloor = value := by
  refine max_eq_left (le_trans ?_ more)
  unfold varianceFloor
  rw [div_le_one (by positivity)]
  norm_num

namespace Coordinate.Admissible

variable {hours : ℕ} {coordinate : Coordinate K} (admissible : coordinate.Admissible hours)

include admissible

theorem events_of_draw (length : ℕ) (draw : List ℕ) :
    (concatenatedSum length coordinate.mask draw = 0 ∧
        ∀ start ∈ draw, directBlock length coordinate.mask start = 0 ∧
          directBlock length coordinate.outcomes start = 0) ∨
      1 ≤ concatenatedSum length coordinate.mask draw := by
  refine (binary_sum admissible.mask_at
    (draw.flatMap fun start => List.range' start length)).imp_left fun ⟨sum, all⟩ => ⟨sum, ?_⟩
  intro start member
  have absent : ∀ hour ∈ List.range' start length, valueAt coordinate.mask hour = 0 :=
    fun hour inBlock => all hour (List.mem_flatMap.mpr ⟨start, member, inBlock⟩)
  unfold directBlock
  constructor
  · rw [List.map_congr_left absent]
    simp
  · rw [List.map_congr_left fun hour inBlock => admissible.outcome_at (absent hour inBlock)]
    simp

/-- Every hour lies in an overlapping block, so these have events where the sample has. -/
theorem one_le_events {length : ℕ} (positive : 0 < length) (short : length ≤ hours)
    (some_event : coordinate.events ≠ 0) :
    1 ≤ concatenatedSum length coordinate.mask (List.range (startCount hours length)) := by
  refine (binary_sum admissible.mask_at _).resolve_left fun ⟨_, absent⟩ => some_event ?_
  refine List.sum_eq_zero fun value member => ?_
  obtain ⟨hour, inside, rfl⟩ := List.getElem_of_mem member
  have inClock : hour < hours := admissible.mask_length ▸ inside
  have here := absent hour (List.mem_flatMap.mpr ⟨min hour (hours - length), by
    rw [List.mem_range]
    unfold startCount
    omega, by
    rw [List.mem_range'_1]
    omega⟩)
  unfold valueAt at here
  rwa [List.getD_eq_getElem _ _ inside] at here

end Coordinate.Admissible

/-! ### The two agree -/

section

variable {sqrt : K → K} {chunk hours length : ℕ} {coordinate : Coordinate K}

/-- A draw of the shape and the range that the bootstrap asks for. -/
def DrawOf (hours length : ℕ) (draw : List ℕ) : Prop :=
  draw.length = numBlocks hours length ∧ ∀ start ∈ draw, start < startCount hours length

theorem expandedSquares_nonneg (coordinate : Coordinate K) (mu : K) (draw : List ℕ) :
    0 ≤ expandedSquares mu
      (draw.map fun start => directBlock length coordinate.outcomes start ^ 2).sum
      (draw.map fun start => directBlock length coordinate.outcomes start *
        directBlock length coordinate.mask start).sum
      (draw.map fun start => directBlock length coordinate.mask start ^ 2).sum := by
  rw [expandedSquares_eq]
  refine List.sum_nonneg fun value member => ?_
  obtain ⟨start, -, rfl⟩ := List.mem_map.mp member
  exact sq_nonneg _

variable (positive : 0 < length) (short : length ≤ hours)
  (admissible : coordinate.Admissible hours)

section

omit [IsStrictOrderedRing K]

include short admissible

theorem seHat_eq : seHat sqrt hours length coordinate =
    directStandardError sqrt hours length coordinate := by
  have residuals : (overlappingSums hours length coordinate.outcomes).zipWith
      (fun z a => z - coordinate.muHat * a) (overlappingSums hours length coordinate.mask) =
        (List.range (startCount hours length)).map
          (blockResidual length coordinate coordinate.muHat) := by
    rw [overlappingSums_eq short admissible.outcomes_length,
      overlappingSums_eq short admissible.mask_length, List.zipWith_map, List.zipWith_self]
    exact List.map_congr_left fun start _ => (blockResidual_eq coordinate _ start).symm
  unfold seHat directStandardError
  rw [residuals]

end

include short admissible

theorem gathered_squares_nonneg (chunked : 0 < chunk) {starts : List (List ℕ)}
    (draws : ∀ draw ∈ starts, DrawOf hours length draw) {replicate : ℕ}
    (inside : replicate < starts.length) (mu : K) :
    0 ≤ expandedSquares mu
      (valueAt (gather chunk ((overlappingSums hours length coordinate.outcomes).map
        fun block => block ^ 2) starts) replicate)
      (valueAt (gather chunk ((overlappingSums hours length coordinate.outcomes).zipWith (· * ·)
        (overlappingSums hours length coordinate.mask)) starts) replicate)
      (valueAt (gather chunk ((overlappingSums hours length coordinate.mask).map
        fun block => block ^ 2) starts) replicate) := by
  obtain ⟨-, ranged⟩ := draws _ (List.getElem_mem inside)
  have z := overlappingSums_eq short admissible.outcomes_length
  have a := overlappingSums_eq short admissible.mask_length
  rw [z, a, List.map_map, List.map_map, List.zipWith_map, List.zipWith_self,
    valueAt_gather chunked _ inside ranged, valueAt_gather chunked _ inside ranged,
    valueAt_gather chunked _ inside ranged]
  exact expandedSquares_nonneg coordinate mu starts[replicate]

include positive

/-- The expanded terms of a draw give its Studentized ratio. -/
theorem studentized_eq (testable : coordinate.Testable) {draw : List ℕ}
    (drawn : draw.length = numBlocks hours length) :
    studentized sqrt (numBlocks hours length) coordinate.muHat
      (((List.range (startCount hours length)).map (directBlock length coordinate.outcomes)).sum /
        max ((List.range (startCount hours length)).map (directBlock length coordinate.mask)).sum
          varianceFloor)
      (draw.map (directBlock length coordinate.outcomes)).sum
      (draw.map (directBlock length coordinate.mask)).sum
      (draw.map fun start => directBlock length coordinate.outcomes start ^ 2).sum
      (draw.map fun start => directBlock length coordinate.mask start ^ 2).sum
      (draw.map fun start => directBlock length coordinate.outcomes start *
        directBlock length coordinate.mask start).sum =
      directStatistic sqrt hours length coordinate draw := by
  have some_event : coordinate.events ≠ 0 := by
    have sixty : (60 : K) ≤ coordinate.events := testable
    have above : (0 : K) < 60 := by norm_num
    exact (above.trans_le sixty).ne'
  have covered := admissible.one_le_events positive short some_event
  have squares := @expandedSquares_nonneg K _ _ _ length coordinate
  unfold studentized directStatistic drawnVariance blockCenter
  simp only [← concatenatedSum_eq, max_varianceFloor covered, max_eq_left (squares _ draw)]
  simp only [expandedSquares_eq]
  rcases admissible.events_of_draw length draw with ⟨none, absent⟩ | more
  · -- Without an event every block sum is zero, and so is every residual.
    have residuals (mu : K) : (draw.map fun start =>
        blockResidual length coordinate mu start ^ 2).sum = 0 := by
      refine List.sum_eq_zero fun value member => ?_
      obtain ⟨start, inDraw, rfl⟩ := List.mem_map.mp member
      rw [blockResidual_eq, (absent start inDraw).1, (absent start inDraw).2]
      ring
    have ratio : drawnRatio length coordinate draw = coordinate.muHat := if_pos none
    rw [ratio, if_pos none, if_pos none, residuals, zero_div, mul_zero]
  · have some_drawn : concatenatedSum length coordinate.mask draw ≠ 0 :=
      (zero_lt_one.trans_le more).ne'
    have ratio : drawnRatio length coordinate draw =
        concatenatedSum length coordinate.outcomes draw /
          concatenatedSum length coordinate.mask draw := if_neg some_drawn
    rw [ratio, if_neg some_drawn, if_neg some_drawn, max_varianceFloor more, drawn]

theorem valueAt_statistics (chunked : 0 < chunk) (testable : coordinate.Testable)
    {starts : List (List ℕ)} (draws : ∀ draw ∈ starts, DrawOf hours length draw) {replicate : ℕ}
    (inside : replicate < starts.length) :
    valueAt (statistics sqrt chunk hours length starts coordinate) replicate =
      directStatistic sqrt hours length coordinate starts[replicate] := by
  obtain ⟨drawn, ranged⟩ := draws _ (List.getElem_mem inside)
  have z := overlappingSums_eq short admissible.outcomes_length
  have a := overlappingSums_eq short admissible.mask_length
  unfold statistics
  dsimp only
  rw [valueAt_map_range _ inside, z, a, List.map_map, List.map_map, List.zipWith_map,
    List.zipWith_self, valueAt_gather chunked _ inside ranged,
    valueAt_gather chunked _ inside ranged,
    valueAt_gather chunked _ inside ranged, valueAt_gather chunked _ inside ranged,
    valueAt_gather chunked _ inside ranged]
  exact studentized_eq positive short admissible testable drawn

theorem statistics_eq (chunked : 0 < chunk) (testable : coordinate.Testable)
    {starts : List (List ℕ)} (draws : ∀ draw ∈ starts, DrawOf hours length draw) :
    statistics sqrt chunk hours length starts coordinate =
      starts.map (directStatistic sqrt hours length coordinate) := by
  refine List.ext_getElem (by simp [statistics]) fun replicate held drawn => ?_
  have inside : replicate < starts.length := by simpa using drawn
  have value := @valueAt_statistics K _ _ _ sqrt chunk hours length coordinate positive short
    admissible chunked testable starts draws replicate inside
  unfold valueAt at value
  rw [List.getD_eq_getElem _ _ held] at value
  rw [value, List.getElem_map]

end

/-! ### The joint bootstrap -/

section

variable {sqrt : K → K} {chunk hours length : ℕ} {coordinates : List (Coordinate K)}
  {starts : List (List ℕ)}

/-- The bootstrap is the one over concatenated blocks, whatever the size of a chunk. -/
theorem runJointBootstrapStudentized_eq (positive : 0 < length) (short : length ≤ hours)
    (chunked : 0 < chunk) (admissible : ∀ coordinate ∈ coordinates, coordinate.Admissible hours)
    (draws : ∀ draw ∈ starts, DrawOf hours length draw) :
    runJointBootstrapStudentized sqrt chunk hours length coordinates starts =
      directBootstrap sqrt hours length coordinates starts := by
  have errors (c95 : Option K) : returned (seHat sqrt hours length) coordinates c95 =
      returned (directStandardError sqrt hours length) coordinates c95 := by
    have each : ∀ coordinate ∈ coordinates, seHat sqrt hours length coordinate =
        directStandardError sqrt hours length coordinate :=
      fun coordinate member => seHat_eq short (admissible coordinate member)
    unfold returned
    congr 1
    · exact List.map_congr_left fun coordinate member => by rw [each coordinate member]
    · exact List.map_congr_left fun coordinate member => by rw [each coordinate member]
  have statistic : ∀ coordinate ∈ coordinates.filter (fun coordinate => coordinate.Testable),
      ∀ replicate, ∀ inside : replicate < starts.length,
        valueAt (statistics sqrt chunk hours length starts coordinate) replicate =
          directStatistic sqrt hours length coordinate starts[replicate] := by
    intro coordinate member replicate inside
    obtain ⟨inMatrix, testable⟩ := List.mem_filter.mp member
    exact valueAt_statistics positive short (admissible coordinate inMatrix) chunked
      (of_decide_eq_true testable) draws inside
  unfold runJointBootstrapStudentized directBootstrap
  cases valid : coordinates.filter fun coordinate => coordinate.Testable with
  | nil => exact congrArg some (errors none)
  | cons first rest =>
    rw [valid] at statistic
    have maxima : (List.range starts.length).map (fun replicate =>
        maximum (valueAt (statistics sqrt chunk hours length starts first) replicate)
          (rest.map fun coordinate =>
            valueAt (statistics sqrt chunk hours length starts coordinate) replicate)) =
        starts.map fun draw => maximum (directStatistic sqrt hours length first draw)
          (rest.map fun coordinate => directStatistic sqrt hours length coordinate draw) := by
      refine List.ext_getElem (by simp) fun replicate _ drawn => ?_
      have inside : replicate < starts.length := by simpa using drawn
      rw [List.getElem_map, List.getElem_map, List.getElem_range,
        statistic first List.mem_cons_self replicate inside]
      exact congrArg (maximum _) (List.map_congr_left fun coordinate member =>
        statistic coordinate (List.mem_cons_of_mem first member) replicate inside)
    dsimp only
    rw [maxima]
    exact Option.map_congr fun critical _ => errors (some critical)

def testableBounds (coordinates : List (Coordinate K)) (bootstrap : JointBootstrap K) :
    List (WithBot K) :=
  ((coordinates.zip bootstrap.lcb).filter fun pair => pair.1.Testable).map Prod.snd

variable {bootstrap : JointBootstrap K}

omit [IsStrictOrderedRing K] in
theorem testableBounds_eq {bound : Coordinate K → WithBot K}
    (bounds : bootstrap.lcb = coordinates.map bound) :
    testableBounds coordinates bootstrap =
      (coordinates.filter fun coordinate => coordinate.Testable).map bound := by
  unfold testableBounds
  rw [bounds]
  clear bounds
  induction coordinates with
  | nil => rfl
  | cons coordinate rest inductionHypothesis =>
    rw [List.map_cons, List.zip_cons_cons]
    by_cases testable : coordinate.Testable
    · simp only [List.filter_cons, testable, decide_true, if_true, List.map_cons,
        inductionHypothesis]
    · simp only [List.filter_cons, testable, decide_false, Bool.false_eq_true, if_false,
        inductionHypothesis]

omit [IsStrictOrderedRing K] in
theorem testableBounds_returned (standardError : Coordinate K → K)
    (coordinates others : List (Coordinate K)) (c95 : Option K)
    (same : others.filter (fun coordinate => coordinate.Testable) =
      coordinates.filter fun coordinate => coordinate.Testable) :
    testableBounds others (returned standardError others c95) =
      testableBounds coordinates (returned standardError coordinates c95) := by
  rw [testableBounds_eq rfl, testableBounds_eq rfl, same]

omit [IsStrictOrderedRing K] in
/-- Coordinates without enough events have no part in the critical value and the bounds of the
others. -/
theorem bounds_of_testable {others : List (Coordinate K)}
    (same : others.filter (fun coordinate => coordinate.Testable) =
      coordinates.filter fun coordinate => coordinate.Testable) :
    (runJointBootstrapStudentized sqrt chunk hours length others starts).map (fun bootstrap =>
        (bootstrap.c95, testableBounds others bootstrap)) =
      (runJointBootstrapStudentized sqrt chunk hours length coordinates starts).map fun bootstrap =>
        (bootstrap.c95, testableBounds coordinates bootstrap) := by
  have bounds (c95 : Option K) := testableBounds_returned (seHat sqrt hours length) coordinates
    others c95 same
  unfold runJointBootstrapStudentized
  rw [same]
  split
  · exact congrArg (fun bounds => some (none, bounds)) (bounds none)
  · rw [Option.map_map, Option.map_map]
    exact Option.map_congr fun critical _ => congrArg (Prod.mk (some critical)) (bounds _)

omit [IsStrictOrderedRing K] in
theorem lcb_of_not_testable
    (ran : runJointBootstrapStudentized sqrt chunk hours length coordinates starts = some bootstrap)
    {index : ℕ} {coordinate : Coordinate K} (held : coordinates[index]? = some coordinate)
    (few : ¬ coordinate.Testable) : bootstrap.lcb[index]? = some ⊥ := by
  have bound (c95 : Option K) :
      (returned (seHat sqrt hours length) coordinates c95).lcb[index]? = some ⊥ := by
    unfold returned
    rw [List.getElem?_map, held]
    cases c95 with
    | none => rfl
    | some critical => exact congrArg some (if_neg few)
  unfold runJointBootstrapStudentized at ran
  split at ran
  · rw [← Option.some.inj ran]
    exact bound none
  · obtain ⟨critical, -, rfl⟩ := Option.map_eq_some_iff.mp ran
    exact bound (some critical)

/-- The bootstrap from expanded terms is the direct one: its clamp on the residual sum does nothing,
the size of a chunk makes no difference, and a coordinate with fewer than sixty events has no bound
and no part in those of the others. -/
theorem jointBootstrap_eq_direct (sqrt : K → K) (chunk hours length : ℕ) (positive : 0 < length)
    (short : length ≤ hours) (chunked : 0 < chunk) (coordinates : List (Coordinate K))
    (admissible : ∀ coordinate ∈ coordinates, coordinate.Admissible hours)
    (starts : List (List ℕ)) (draws : ∀ draw ∈ starts, DrawOf hours length draw) :
    runJointBootstrapStudentized sqrt chunk hours length coordinates starts =
        directBootstrap sqrt hours length coordinates starts ∧
      (∀ coordinate ∈ coordinates, coordinate.Testable →
        seHat sqrt hours length coordinate = directStandardError sqrt hours length coordinate ∧
          statistics sqrt chunk hours length starts coordinate =
            starts.map (directStatistic sqrt hours length coordinate)) ∧
      (∀ coordinate ∈ coordinates, ∀ replicate < starts.length, ∀ mu,
        0 ≤ expandedSquares mu
          (valueAt (gather chunk ((overlappingSums hours length coordinate.outcomes).map
            fun block => block ^ 2) starts) replicate)
          (valueAt (gather chunk ((overlappingSums hours length coordinate.outcomes).zipWith (· * ·)
            (overlappingSums hours length coordinate.mask)) starts) replicate)
          (valueAt (gather chunk ((overlappingSums hours length coordinate.mask).map
            fun block => block ^ 2) starts) replicate)) ∧
      (∀ other, 0 < other →
        runJointBootstrapStudentized sqrt other hours length coordinates starts =
        runJointBootstrapStudentized sqrt chunk hours length coordinates starts) ∧
      (∀ bootstrap, runJointBootstrapStudentized sqrt chunk hours length coordinates starts =
        some bootstrap → ∀ (index : ℕ) coordinate, coordinates[index]? = some coordinate →
          ¬ coordinate.Testable → bootstrap.lcb[index]? = some ⊥) ∧
      ∀ others : List (Coordinate K), others.filter (fun coordinate => coordinate.Testable) =
          coordinates.filter (fun coordinate => coordinate.Testable) →
        (runJointBootstrapStudentized sqrt chunk hours length others starts).map (fun bootstrap =>
            (bootstrap.c95, testableBounds others bootstrap)) =
          (runJointBootstrapStudentized sqrt chunk hours length coordinates starts).map
            fun bootstrap => (bootstrap.c95, testableBounds coordinates bootstrap) := by
  have direct := fun chunk (chunked : 0 < chunk) =>
    @runJointBootstrapStudentized_eq K _ _ _ sqrt chunk hours length coordinates starts positive
      short chunked admissible draws
  refine ⟨direct chunk chunked, ?_, ?_, ?_, ?_, ?_⟩
  · intro coordinate member testable
    exact ⟨seHat_eq short (admissible coordinate member),
      statistics_eq positive short (admissible coordinate member) chunked testable draws⟩
  · intro coordinate member replicate inside mu
    exact gathered_squares_nonneg short (admissible coordinate member) chunked draws inside mu
  · exact fun other otherChunked => (direct other otherChunked).trans (direct chunk chunked).symm
  · exact fun bootstrap ran index coordinate held few => lcb_of_not_testable ran held few
  · exact fun others same => bounds_of_testable same

end

end

/-- Eighty hours with an event in each from the first on. -/
noncomputable def eventsFrom (first : ℕ) (outcome : ℕ → ℝ) : Coordinate ℝ where
  outcomes := (List.range 80).map fun hour => if first ≤ hour then outcome hour else 0
  mask := (List.range 80).map fun hour => if first ≤ hour then 1 else 0

theorem eventsFrom_admissible (first : ℕ) (outcome : ℕ → ℝ) :
    (eventsFrom first outcome).Admissible 80 := by
  refine ⟨by simp [eventsFrom], by simp [eventsFrom], ?_, ?_⟩
  · intro value member
    obtain ⟨hour, -, rfl⟩ := List.mem_map.mp member
    split_ifs <;> simp
  · intro pair member absent
    unfold eventsFrom at member
    rw [List.zip_map', List.mem_map] at member
    obtain ⟨hour, -, rfl⟩ := member
    dsimp only at absent ⊢
    split_ifs at absent ⊢ with begun
    · exact absurd absent one_ne_zero
    · rfl

/-- A coordinate with sixty events, and one with too few. -/
noncomputable def someCoordinates : List (Coordinate ℝ) :=
  [eventsFrom 20 fun hour => if hour < 50 then 3 else -1, eventsFrom 40 fun _ => 2]

theorem someCoordinates_direct :
    runJointBootstrapStudentized Real.sqrt 2500 80 20 someCoordinates
        [[0, 20, 40, 60], [40, 40, 0, 7]] =
      directBootstrap Real.sqrt 80 20 someCoordinates [[0, 20, 40, 60], [40, 40, 0, 7]] := by
  refine (jointBootstrap_eq_direct Real.sqrt 2500 80 20 (by decide) (by decide) (by decide)
    someCoordinates ?_ [[0, 20, 40, 60], [40, 40, 0, 7]] ?_).1
  · simp only [someCoordinates, List.forall_mem_cons]
    exact ⟨eventsFrom_admissible _ _, eventsFrom_admissible _ _, nofun⟩
  · unfold DrawOf
    decide

end QuantAgent.Inference
