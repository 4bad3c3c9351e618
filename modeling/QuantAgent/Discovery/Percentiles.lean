/-
This file embeds the percentile index of the discovery evidence: one counting tree over all
observations, whose roots count the observations before each time. A query at a time comes to what
a plain count over the observations before that time does, so nothing later is seen through it.
-/

import QuantAgent.Library.CountingTree
import QuantAgent.Discovery.Scores

namespace QuantAgent.Discovery

variable {Number Finite : Type} [LinearOrder Finite]

/-! ### The index -/

section

variable {Value : Type} [LinearOrder Value]

/-- How many entries of an ordered list lie below the value. -/
def bisectLeft (ordered : List Value) (value : Value) : ℕ :=
  (ordered.takeWhile (· < value)).length

/-- How many entries of an ordered list do not lie above the value. -/
def bisectRight (ordered : List Value) (value : Value) : ℕ :=
  (ordered.takeWhile (· ≤ value)).length

end

structure CausalPercentileIndex (Finite : Type) where
  times : List ℤ
  values : List Finite
  nodes : CountingTree.Nodes
  roots : List ℕ

def orderedByTime (observations : List (ℤ × Finite)) : List (ℤ × Finite) :=
  observations.mergeSort fun first second => first.1 ≤ second.1

/-- The distinct values of the observations, ordered. -/
def coordinates (observations : List (ℤ × Finite)) : List Finite :=
  (observations.map Prod.snd).toFinset.sort (· ≤ ·)

def CausalPercentileIndex.make (observations : List (ℤ × Finite)) : CausalPercentileIndex Finite :=
  let ordered := orderedByTime observations
  let values := coordinates observations
  let built := CountingTree.build values.length (ordered.map fun entry => bisectLeft values entry.2)
  { times := ordered.map Prod.fst
    values := values
    nodes := built.1
    roots := built.2 }

section

variable [Arithmetic Number Finite]

open Arithmetic

/-- The rank of a value among so many, with half a place for a tie. -/
def percentile (less count : ℕ) (tie : Prop) [Decidable tie] : Number :=
  add (div (literal less) (literal count))
    (if tie then div (literal (1 / 2)) (literal count) else literal 0)

def CausalPercentileIndex.root (index : CausalPercentileIndex Finite) : Option ℤ → ℕ
  | none => index.roots.getLastD 0
  | some time => index.roots.getD (bisectLeft index.times time) 0

def CausalPercentileIndex.query (index : CausalPercentileIndex Finite) (time : Option ℤ)
    (value : Finite) : ℕ × Number :=
  let root := index.root time
  let count := (CountingTree.get index.nodes root).count
  if count = 0 then (0, literal 0)
  else
    let below (position : ℕ) := CountingTree.less index.nodes root 0 index.values.length 0 position
    let less := below (bisectLeft index.values value)
    (count, percentile less count (less < below (bisectRight index.values value)))

/-- `_empirical_percentile`: the plain count over a sample. -/
def empiricalPercentile (sample : List Finite) (value : Finite) : Number :=
  if sample.length = 0 then literal 0
  else percentile (sample.countP (· < value)) sample.length (∃ held ∈ sample, held = value)

end

/-! ### Bisection -/

section

variable {Entry Value : Type} {entries : List Entry} {condition : Entry → Bool}

theorem takeWhile_eq_filter
    (closed : entries.Pairwise fun first second => condition second → condition first) :
    entries.takeWhile condition = entries.filter condition := by
  induction entries with
  | nil => rfl
  | cons head tail inductionHypothesis =>
    obtain ⟨first, rest⟩ := List.pairwise_cons.mp closed
    by_cases holds : condition head = true
    · rw [List.takeWhile_cons_of_pos holds, List.filter_cons_of_pos holds, inductionHypothesis rest]
    · have none : tail.filter condition = [] :=
        List.filter_eq_nil_iff.mpr fun entry member later => holds (first entry member later)
      rw [List.takeWhile_cons_of_neg holds, List.filter_cons_of_neg holds, none]

theorem bisectLeft_lt_takeWhile [LinearOrder Value] {ordered : List Value} {value : Value}
    {condition : Value → Bool} (increasing : ordered.Pairwise (· < ·)) (member : value ∈ ordered)
    (closed : ∀ first second, first < second → condition second → condition first) :
    bisectLeft ordered value < (ordered.takeWhile condition).length ↔ condition value := by
  unfold bisectLeft
  induction ordered with
  | nil => exact absurd member List.not_mem_nil
  | cons head tail inductionHypothesis =>
    obtain ⟨first, rest⟩ := List.pairwise_cons.mp increasing
    obtain rfl | later := List.mem_cons.mp member
    · by_cases holds : condition value = true
      · simp [holds]
      · simp [holds]
    · have below := first value later
      by_cases holds : condition head = true
      · have step := inductionHypothesis rest later
        simpa [below, holds] using step
      · have fails : ¬ condition value = true := fun holds' => holds (closed _ _ below holds')
        simp [below, holds, fails]

end

/-! ### Queries -/

section

variable {observations : List (ℤ × Finite)} {value : Finite} {entry : ℤ × Finite}

theorem mem_coordinates (member : entry ∈ observations) :
    entry.2 ∈ coordinates observations := by
  unfold coordinates
  rw [Finset.mem_sort, List.mem_toFinset]
  exact List.mem_map_of_mem member

theorem coordinates_increasing : (coordinates observations).Pairwise (· < ·) :=
  (Finset.sortedLT_sort _).pairwise

theorem position_lt (member : entry ∈ observations) (other : Finite) :
    bisectLeft (coordinates observations) entry.2 < bisectLeft (coordinates observations) other ↔
      entry.2 < other := by
  refine (bisectLeft_lt_takeWhile coordinates_increasing (mem_coordinates member) ?_).trans
    decide_eq_true_iff
  exact fun first second below holds => decide_eq_true (below.trans (of_decide_eq_true holds))

theorem position_le (member : entry ∈ observations) (other : Finite) :
    bisectLeft (coordinates observations) entry.2 < bisectRight (coordinates observations) other ↔
      entry.2 ≤ other := by
  refine (bisectLeft_lt_takeWhile coordinates_increasing (mem_coordinates member) ?_).trans
    decide_eq_true_iff
  exact fun first second below holds => decide_eq_true (below.le.trans (of_decide_eq_true holds))

theorem bisectLeft_lt_length (member : entry ∈ observations) :
    bisectLeft (coordinates observations) entry.2 < (coordinates observations).length := by
  have below := (@bisectLeft_lt_takeWhile _ _ _ _ (fun _ => true) coordinates_increasing
    (mem_coordinates member) fun _ _ _ _ => rfl).mpr rfl
  rwa [List.takeWhile_eq_self_iff.mpr fun _ _ => rfl] at below

omit [LinearOrder Finite] in
theorem orderedByTime_perm (observations : List (ℤ × Finite)) :
    (orderedByTime observations).Perm observations := List.mergeSort_perm _ _

omit [LinearOrder Finite] in
theorem orderedByTime_pairwise (observations : List (ℤ × Finite)) :
    (orderedByTime observations).Pairwise fun first second => first.1 ≤ second.1 := by
  refine (List.pairwise_mergeSort ?_ ?_ observations).imp of_decide_eq_true
  · intro first second third earlier later
    exact decide_eq_true ((of_decide_eq_true earlier).trans (of_decide_eq_true later))
  · intro first second
    simpa using le_total first.1 second.1

omit [LinearOrder Finite] in
theorem take_bisectLeft (observations : List (ℤ × Finite)) (time : ℤ) :
    (orderedByTime observations).take
        (bisectLeft ((orderedByTime observations).map Prod.fst) time) =
      (orderedByTime observations).filter (·.1 < time) := by
  have closed : (orderedByTime observations).Pairwise fun first second =>
      decide (second.1 < time) → decide (first.1 < time) :=
    (orderedByTime_pairwise observations).imp fun earlier below =>
      decide_eq_true (earlier.trans_lt (of_decide_eq_true below))
  rw [← takeWhile_eq_filter closed, bisectLeft, List.takeWhile_map, List.length_map]
  exact (List.prefix_iff_eq_take.mp (List.takeWhile_prefix _)).symm

theorem countP_le_eq (sample : List Finite) :
    sample.countP (· ≤ value) = sample.countP (· < value) + sample.countP (· = value) := by
  induction sample with
  | nil => rfl
  | cons head tail inductionHypothesis =>
    rw [List.countP_cons, List.countP_cons, List.countP_cons, inductionHypothesis]
    obtain below | same | above := lt_trichotomy head value
    · simp [below, below.le, below.ne, Nat.add_right_comm]
    · simp [same, Nat.add_assoc]
    · simp [above.not_ge, above.not_gt, above.ne']

variable [Arithmetic Number Finite]

omit [LinearOrder Finite] in
theorem percentile_congr {less other count : ℕ} {tie same : Prop} [Decidable tie]
    [Decidable same] (equal : less = other) (ties : tie ↔ same) :
    (percentile less count tie : Number) = percentile other count same := by
  unfold percentile
  rw [equal]
  simp only [ties]

theorem empiricalPercentile_perm {sample other : List Finite} (same : sample.Perm other) :
    (empiricalPercentile sample value : Number) = empiricalPercentile other value := by
  unfold empiricalPercentile
  simp only [same.length_eq, same.countP_eq, same.mem_iff]

/-- The places of the observations among the distinct values, by time. -/
def positions (observations : List (ℤ × Finite)) : List ℕ :=
  (orderedByTime observations).map fun entry => bisectLeft (coordinates observations) entry.2

theorem positions_inside : ∀ position ∈ positions observations,
    position < (coordinates observations).length := by
  intro position member
  obtain ⟨entry, held, rfl⟩ := List.mem_map.mp member
  exact bisectLeft_lt_length ((orderedByTime_perm observations).mem_iff.mp held)

theorem countP_positions {count place : ℕ} {condition : Finite → Bool}
    (tells : ∀ entry ∈ observations,
      bisectLeft (coordinates observations) entry.2 < place ↔ condition entry.2) :
    ((positions observations).take count).countP (· < place) =
      (((orderedByTime observations).take count).map Prod.snd).countP condition := by
  rw [positions, ← List.map_take, List.countP_map, List.countP_map]
  refine List.countP_congr fun entry member => ?_
  have held := (orderedByTime_perm observations).mem_iff.mp (List.mem_of_mem_take member)
  simpa using tells entry held

theorem query_of_root {time : Option ℤ} {count : ℕ} (bound : count ≤ observations.length)
    (root : (CausalPercentileIndex.make observations).root time =
      (CausalPercentileIndex.make observations).roots.getD count 0) :
    ((CausalPercentileIndex.make observations).query time value : ℕ × Number) =
      (count, empiricalPercentile
        (((orderedByTime observations).take count).map Prod.snd) value) := by
  have fits : count ≤ (positions observations).length := by
    rw [positions, List.length_map, (orderedByTime_perm observations).length_eq]
    exact bound
  have length : (((orderedByTime observations).take count).map Prod.snd).length = count := by
    rw [List.length_map, List.length_take_of_le]
    rwa [(orderedByTime_perm observations).length_eq]
  have held : (CountingTree.get (CausalPercentileIndex.make observations).nodes
      ((CausalPercentileIndex.make observations).roots.getD count 0)).count = count :=
    CountingTree.count_build positions_inside fits
  have answers (place : ℕ) : CountingTree.less (CausalPercentileIndex.make observations).nodes
      ((CausalPercentileIndex.make observations).roots.getD count 0) 0
      (CausalPercentileIndex.make observations).values.length 0 place =
        ((positions observations).take count).countP (· < place) :=
    CountingTree.less_build positions_inside fits place
  have below := @countP_positions _ _ observations count
    (bisectLeft (coordinates observations) value) (fun other => other < value)
    fun entry member => (position_lt member value).trans decide_eq_true_iff.symm
  have upTo := @countP_positions _ _ observations count
    (bisectRight (coordinates observations) value) (fun other => other ≤ value)
    fun entry member => (position_le member value).trans decide_eq_true_iff.symm
  unfold CausalPercentileIndex.query empiricalPercentile
  simp only [root, length, held, answers]
  split_ifs with none
  · rw [none]
  · refine congrArg _ (percentile_congr below ?_)
    show (positions observations |>.take count).countP
        (· < bisectLeft (coordinates observations) value) <
      (positions observations |>.take count).countP
        (· < bisectRight (coordinates observations) value) ↔ _
    rw [below, upTo, countP_le_eq, Nat.lt_add_right_iff_pos, List.countP_pos_iff]
    simp only [decide_eq_true_eq]

theorem query_some (time : ℤ) :
    ((CausalPercentileIndex.make observations).query (some time) value : ℕ × Number) =
      ((observations.filter (·.1 < time)).length,
        empiricalPercentile ((observations.filter (·.1 < time)).map Prod.snd) value) := by
  have before := (orderedByTime_perm observations).filter (·.1 < time)
  have taken := take_bisectLeft observations time
  have bound : bisectLeft ((orderedByTime observations).map Prod.fst) time ≤
      (orderedByTime observations).length := by
    rw [← List.length_map (f := Prod.fst)]
    exact (List.takeWhile_prefix _).length_le
  have length := congrArg List.length taken
  rw [List.length_take_of_le bound, before.length_eq] at length
  rw [(orderedByTime_perm observations).length_eq] at bound
  rw [query_of_root bound rfl, taken, length, empiricalPercentile_perm (before.map _)]

theorem query_none :
    ((CausalPercentileIndex.make observations).query none value : ℕ × Number) =
      (observations.length, empiricalPercentile (observations.map Prod.snd) value) := by
  have length := (orderedByTime_perm observations).length_eq
  have last : (CausalPercentileIndex.make observations).root none =
      (CausalPercentileIndex.make observations).roots.getD observations.length 0 := by
    rw [← length, ← List.length_map (f := fun entry : ℤ × Finite =>
      bisectLeft (coordinates observations) entry.2)]
    exact CountingTree.getLastD_build positions_inside
  rw [query_of_root le_rfl last, List.take_of_length_le length.le,
    empiricalPercentile_perm ((orderedByTime_perm observations).map _)]

/-! ### Exactness -/

/-- The values that a query may count: of the observations before its time, or of all. -/
def causalSample (observations : List (ℤ × Finite)) : Option ℤ → List Finite
  | none => observations.map Prod.snd
  | some time => (observations.filter (·.1 < time)).map Prod.snd

def CausalPercentileIndex.answers (index : CausalPercentileIndex Finite)
    (queries : List (Option ℤ × Finite)) : List (ℕ × Number) :=
  queries.map fun asked => index.query asked.1 asked.2

theorem query_eq (time : Option ℤ) :
    ((CausalPercentileIndex.make observations).query time value : ℕ × Number) =
      ((causalSample observations time).length,
        empiricalPercentile (causalSample observations time) value) := by
  cases time with
  | none => rw [query_none, causalSample, List.length_map]
  | some time => rw [query_some, causalSample, List.length_map]

theorem empiricalPercentile_of_pos {sample : List Finite} (nonempty : 0 < sample.length) :
    (empiricalPercentile sample value : Number) =
      percentile (sample.countP (· < value)) sample.length (value ∈ sample) := by
  unfold empiricalPercentile
  rw [if_neg nonempty.ne']
  exact percentile_congr rfl exists_eq_right

/-- However the observations and the queries are ordered, an index answers each query with the
number of the observations before its time and the percentile that a plain count over them has. -/
theorem percentile_index_exact (observations : List (ℤ × Finite))
    (queries : List (Option ℤ × Finite)) :
    List.Forall₂ (fun asked answer =>
        answer.1 = (causalSample observations asked.1).length ∧
        answer.2 = empiricalPercentile (causalSample observations asked.1) asked.2 ∧
        (0 < answer.1 → answer.2 =
          percentile ((causalSample observations asked.1).countP (· < asked.2)) answer.1
            (asked.2 ∈ causalSample observations asked.1)))
      queries ((CausalPercentileIndex.make observations).answers queries : List (ℕ × Number)) := by
  unfold CausalPercentileIndex.answers
  rw [List.forall₂_map_right_iff, List.forall₂_same]
  intro asked _
  rw [query_eq]
  exact ⟨rfl, rfl, fun nonempty => empiricalPercentile_of_pos nonempty⟩

end

end QuantAgent.Discovery
