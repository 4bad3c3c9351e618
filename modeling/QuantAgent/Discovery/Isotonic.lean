/-
This file embeds the isotonic calibration of scores by labels and proves that it is the isotonic
regression: of all nondecreasing functions of the score the fitted one alone has the least sum of
squared label errors, in whatever order the population is given. Arithmetic is exact.

The two lists that the fit works on are kept as stacks, the latest entry first.
-/

import QuantAgent.Library.Pooling
import QuantAgent.Discovery.Percentiles

namespace QuantAgent.Discovery

/-! ### The fit -/

/-- The members of a population that share a score, and those of them with the label one. -/
structure ScoreGroup where
  score : ℚ
  successes : ℕ
  count : ℕ

def groupMember (groups : List ScoreGroup) (member : ℚ × Bool) : List ScoreGroup :=
  match groups with
  | [] => [⟨member.1, member.2.toNat, 1⟩]
  | last :: earlier =>
    if last.score = member.1 then
      ⟨last.score, last.successes + member.2.toNat, last.count + 1⟩ :: earlier
    else ⟨member.1, member.2.toNat, 1⟩ :: last :: earlier

/-- `grouped`: the groups in the order of their scores. -/
def grouped (population : List (ℚ × Bool)) : List ScoreGroup :=
  ((population.insertionSort fun first second => first.1 ≤ second.1).foldl groupMember []).reverse

/-- Adjacent groups that are fitted alike, from a place on. -/
structure FitBlock where
  start : ℕ
  successes : ℕ
  count : ℕ

def FitBlock.join (first second : FitBlock) : FitBlock :=
  ⟨first.start, first.successes + second.successes, first.count + second.count⟩

def FitBlock.value (block : FitBlock) : ℚ := block.successes / block.count

/-- The `while` loop: the last block joins the one before it as long as its mean is below. -/
def poolLast (second : FitBlock) : List FitBlock → List FitBlock
  | [] => [second]
  | first :: earlier =>
    if first.successes * second.count ≤ second.successes * first.count then
      second :: first :: earlier
    else poolLast (first.join second) earlier

/-- The loop over the groups, from a place on. -/
def poolGroups : ℕ → List FitBlock → List ScoreGroup → List FitBlock
  | _, blocks, [] => blocks
  | index, blocks, group :: rest =>
    poolGroups (index + 1) (poolLast ⟨index, group.successes, group.count⟩ blocks) rest

def expandBlocks (size : ℕ) : List FitBlock → List ℚ
  | [] => []
  | block :: rest =>
    List.replicate ((rest.head?.map FitBlock.start).getD size - block.start) block.value ++
      expandBlocks size rest

/-- `_isotonic_fit`: the support and the fitted values. -/
def isotonicFit (scores : List ℚ) (labels : List Bool) : Except String (List ℚ × List ℚ) :=
  let successes := labels.count true
  if scores.length ≠ labels.length ∨ scores.length < 200 ∨
      min successes (labels.length - successes) < 40 then
    .error "isotonic calibration population is ineligible"
  else
    let groups := grouped (scores.zip labels)
    let blocks := (poolGroups 0 [] groups).reverse
    .ok (groups.map ScoreGroup.score, expandBlocks groups.length blocks)

/-- What `h40_fit_calibrator` may have fitted. -/
inductive CalibratorFit where
  | platt (a b : ℚ)
  | isotonic (support values : List ℚ)

/-- `h40_predict_calibrated`, for a sigmoid. -/
def predictCalibrated (sigmoid : ℚ → ℚ) (fit : CalibratorFit) (score : ℚ) : Option ℚ :=
  match fit with
  | .platt a b => some (sigmoid (a * score + b))
  | .isotonic support values => values[bisectRight support score - 1]?

/-! ### Regressions -/

open Pooling

def labelValue (label : Bool) : ℚ := label.toNat

def squaredError (population : List (ℚ × Bool)) (answer : ℚ → ℚ) : ℚ :=
  total (fun member => (labelValue member.2 - answer member.1) ^ 2) population

structure IsotonicRegression (population : List (ℚ × Bool)) (support values : List ℚ) : Prop where
  increasing : support.Pairwise (· < ·)
  distinct : ∀ score, score ∈ support ↔ score ∈ population.map Prod.fst
  length_eq : values.length = support.length
  nondecreasing : values.Pairwise (· ≤ ·)
  bounded : ∀ value ∈ values, 0 ≤ value ∧ value ≤ 1
  least : ∀ fitted answer : ℚ → ℚ, support.map fitted = values →
    MonotoneOn answer {score | score ∈ support} →
    squaredError population fitted ≤ squaredError population answer
  unique : ∀ fitted answer : ℚ → ℚ, support.map fitted = values →
    MonotoneOn answer {score | score ∈ support} →
    squaredError population answer ≤ squaredError population fitted →
    support.map answer = values

variable {population others : List (ℚ × Bool)}

theorem squaredError_perm (same : population.Perm others)
    (answer : ℚ → ℚ) : squaredError population answer = squaredError others answer :=
  total_perm same

variable {support values : List ℚ}

theorem exists_values (increasing : support.Pairwise (· < ·))
    (length_eq : values.length = support.length) :
    ∃ answer : ℚ → ℚ, support.map answer = values := by
  induction support generalizing values with
  | nil => exact ⟨id, (List.length_eq_zero_iff.mp length_eq).symm⟩
  | cons score rest inductionHypothesis =>
    obtain ⟨value, others, rfl⟩ := List.exists_cons_of_length_eq_add_one length_eq
    obtain ⟨first, later⟩ := List.pairwise_cons.mp increasing
    obtain ⟨answer, same⟩ := inductionHypothesis later (Nat.succ.inj length_eq)
    refine ⟨Function.update answer score value, ?_⟩
    rw [List.map_cons, Function.update_self, ← same]
    refine congrArg _ (List.map_congr_left fun other member => ?_)
    exact Function.update_of_ne (first other member).ne' _ _

theorem monotoneOn_of_values {answer : ℚ → ℚ} (increasing : support.Pairwise (· < ·))
    (ordered : (support.map answer).Pairwise (· ≤ ·)) :
    MonotoneOn answer {score | score ∈ support} := by
  rw [List.pairwise_map, List.pairwise_iff_getElem] at ordered
  intro first firstMember second secondMember below
  obtain ⟨place, bound, rfl⟩ := List.mem_iff_getElem.mp firstMember
  obtain ⟨later, laterBound, rfl⟩ := List.mem_iff_getElem.mp secondMember
  obtain before | rfl | after := lt_trichotomy place later
  · exact ordered place later bound laterBound before
  · exact le_rfl
  · exact absurd below
      (List.pairwise_iff_getElem.mp increasing later place laterBound bound after).not_ge

theorem IsotonicRegression.eq {support values otherSupport otherValues : List ℚ}
    (first : IsotonicRegression population support values)
    (second : IsotonicRegression others otherSupport otherValues) (same : population.Perm others) :
    support = otherSupport ∧ values = otherValues := by
  obtain rfl : support = otherSupport := by
    refine first.increasing.eq_of_mem_iff second.increasing fun score => ?_
    rw [first.distinct, second.distinct, (same.map Prod.fst).mem_iff]
  obtain ⟨answer, known⟩ := exists_values first.increasing first.length_eq
  obtain ⟨other, knownOther⟩ := exists_values second.increasing second.length_eq
  have ordered := monotoneOn_of_values first.increasing (known ▸ first.nondecreasing)
  have orderedOther := monotoneOn_of_values second.increasing (knownOther ▸ second.nondecreasing)
  have near := second.least other answer knownOther ordered
  rw [← squaredError_perm same, ← squaredError_perm same] at near
  exact ⟨rfl, (first.unique answer other known orderedOther near).symm.trans knownOther⟩

/-! ### Groups -/

def ScoreGroup.value (group : ScoreGroup) : ℚ := group.successes

def ScoreGroup.weight (group : ScoreGroup) : ℚ := group.count

open ScoreGroup (weight)

/-- The groups, the latest first, stand for the members. -/
structure Gathers (population : List (ℚ × Bool)) (groups : List ScoreGroup) : Prop where
  error : ∀ answer, squaredError population answer =
    loss ScoreGroup.value weight (fun group => answer group.score) groups +
      total ScoreGroup.value groups
  scores : ∀ score, score ∈ groups.map ScoreGroup.score ↔ score ∈ population.map Prod.fst
  decreasing : groups.Pairwise fun later earlier => earlier.score < later.score
  bounded : ∀ group ∈ groups, group.successes ≤ group.count ∧ 0 < group.count

theorem squaredError_member (label : Bool) (answer : ℚ) :
    (labelValue label - answer) ^ 2 =
      1 * answer ^ 2 - 2 * (labelValue label * answer) + labelValue label := by
  cases label with
  | false => simp [labelValue]
  | true =>
    simp only [labelValue, Bool.toNat_true, Nat.cast_one]
    ring

theorem Gathers.member {groups : List ScoreGroup}
    (gathers : Gathers population groups) {member : ℚ × Bool}
    (latest : ∀ earlier ∈ population, earlier.1 ≤ member.1) :
    Gathers (population ++ [member]) (groupMember groups member) := by
  have small : member.2.toNat ≤ 1 := by cases member.2 <;> decide
  have before : ∀ group ∈ groups, group.score ≤ member.1 := by
    intro group held
    obtain ⟨earlier, found, same⟩ :=
      List.mem_map.mp ((gathers.scores _).mp (List.mem_map_of_mem held))
    exact same ▸ latest earlier found
  have alone (answer : ℚ → ℚ) : squaredError (population ++ [member]) answer =
      squaredError population answer + (1 * answer member.1 ^ 2 -
        2 * (labelValue member.2 * answer member.1) + labelValue member.2) := by
    unfold squaredError
    rw [total_append, total_cons, total_nil, add_zero, squaredError_member]
  have fresh (groups : List ScoreGroup) (known : Gathers population groups)
      (below : ∀ group ∈ groups, group.score < member.1) :
      Gathers (population ++ [member]) (⟨member.1, member.2.toNat, 1⟩ :: groups) := by
    refine ⟨fun answer => ?_, fun score => ?_, ?_, ?_⟩
    · rw [alone, known.error]
      simp only [loss, total_cons, ScoreGroup.value, weight, labelValue, Nat.cast_one]
      ring
    · rw [List.map_cons, List.mem_cons, known.scores, List.map_append, List.mem_append,
        List.map_singleton, List.mem_singleton, or_comm]
    · exact List.pairwise_cons.mpr ⟨below, known.decreasing⟩
    · exact List.forall_mem_cons.mpr ⟨⟨small, Nat.one_pos⟩, known.bounded⟩
  cases groups with
  | nil => exact fresh [] gathers fun _ held => absurd held List.not_mem_nil
  | cons last earlier =>
    unfold groupMember
    dsimp only
    obtain ⟨own, others⟩ := List.pairwise_cons.mp gathers.decreasing
    obtain ⟨lastBounded, rest⟩ := List.forall_mem_cons.mp gathers.bounded
    split
    · next same =>
      refine ⟨fun answer => ?_, fun score => ?_, ?_, ?_⟩
      · rw [alone, gathers.error]
        simp only [loss, total_cons, ScoreGroup.value, weight, labelValue, same]
        push_cast
        ring
      · have known := gathers.scores score
        rw [List.map_cons, List.mem_cons] at known ⊢
        rw [known, List.map_append, List.mem_append, List.map_singleton, List.mem_singleton,
          ← same, or_iff_left_of_imp]
        rintro rfl
        exact known.mp (.inl rfl)
      · exact List.pairwise_cons.mpr ⟨own, others⟩
      · exact List.forall_mem_cons.mpr ⟨by simp only; omega, rest⟩
    · next differs =>
      refine fresh _ gathers fun group held => ?_
      obtain rfl | later := List.mem_cons.mp held
      · exact lt_of_le_of_ne (before _ held) differs
      · exact (own group later).trans_le (before last List.mem_cons_self)

theorem gathers_sorted (sorted : population.Pairwise fun first second => first.1 ≤ second.1) :
    Gathers population (population.foldl groupMember []) := by
  induction population using List.reverseRecOn with
  | nil => exact ⟨fun _ => (zero_add 0).symm, fun _ => Iff.rfl, List.Pairwise.nil,
    List.forall_mem_nil _⟩
  | append_singleton population member inductionHypothesis =>
    obtain ⟨earlier, -, latest⟩ := List.pairwise_append.mp sorted
    rw [List.foldl_append]
    exact (inductionHypothesis earlier).member fun other held =>
      latest other held member (List.mem_singleton_self member)

structure Grouped (population : List (ℚ × Bool)) (groups : List ScoreGroup) : Prop where
  error : ∀ answer, squaredError population answer =
    loss ScoreGroup.value weight (fun group => answer group.score) groups +
      total ScoreGroup.value groups
  scores : ∀ score, score ∈ groups.map ScoreGroup.score ↔ score ∈ population.map Prod.fst
  increasing : (groups.map ScoreGroup.score).Pairwise (· < ·)
  bounded : ∀ group ∈ groups, group.successes ≤ group.count ∧ 0 < group.count

theorem grouped_spec (population : List (ℚ × Bool)) : Grouped population (grouped population) := by
  unfold grouped
  set ordered := population.insertionSort fun first second => first.1 ≤ second.1
  have same : ordered.Perm population := List.perm_insertionSort _ population
  have sorted : ordered.Pairwise fun first second => first.1 ≤ second.1 :=
    List.pairwise_insertionSort _ population
  have gathers := gathers_sorted sorted
  have turned := List.reverse_perm (ordered.foldl groupMember [])
  refine ⟨fun answer => ?_, fun score => ?_, ?_, ?_⟩
  · rw [← squaredError_perm same, gathers.error]
    unfold loss
    rw [total_perm turned, total_perm turned]
  · rw [(turned.map _).mem_iff, gathers.scores, (same.map _).mem_iff]
  · rw [List.map_reverse, List.pairwise_reverse, List.pairwise_map]
    exact gathers.decreasing
  · exact fun group held => gathers.bounded group (turned.mem_iff.mp held)

/-! ### Blocks -/

structure FitBlock.Spans (block : FitBlock) (start : ℕ) (part : List ScoreGroup) : Prop where
  start_eq : block.start = start
  successes_eq : (block.successes : ℚ) = total ScoreGroup.value part
  count_eq : (block.count : ℚ) = total weight part
  nonempty : part ≠ []
  pooled : Pooled ScoreGroup.value weight part

inductive Stands : List FitBlock → List ScoreGroup → Prop
  | nil : Stands [] []
  | push {blocks : List FitBlock} {groups : List ScoreGroup} {block : FitBlock}
      {part : List ScoreGroup} (earlier : Stands blocks groups)
      (spans : block.Spans groups.length part) : Stands (block :: blocks) (groups ++ part)

/-- The values do not fall; the latest block comes first. -/
def Rising (blocks : List FitBlock) : Prop :=
  blocks.Pairwise fun later earlier => earlier.value ≤ later.value

section

variable {block first second : FitBlock} {blocks : List FitBlock} {start : ℕ}
  {part rest groups : List ScoreGroup}

theorem FitBlock.Spans.value_eq (spans : block.Spans start part) :
    block.value = mean ScoreGroup.value weight part := by
  unfold FitBlock.value mean
  rw [spans.successes_eq, spans.count_eq]

theorem FitBlock.Spans.count_pos (spans : block.Spans start part)
    (positive : ∀ group ∈ part, 0 < group.weight) : (0 : ℚ) < block.count :=
  spans.count_eq ▸ total_pos positive spans.nonempty

theorem FitBlock.Spans.join (earlier : first.Spans start part)
    (later : second.Spans (start + part.length) rest)
    (positive : ∀ group ∈ part ++ rest, 0 < group.weight)
    (falls : second.successes * first.count < first.successes * second.count) :
    (first.join second).Spans start (part ++ rest) where
  start_eq := earlier.start_eq
  successes_eq := by
    rw [total_append, ← earlier.successes_eq, ← later.successes_eq]
    exact Nat.cast_add _ _
  count_eq := by
    rw [total_append, ← earlier.count_eq, ← later.count_eq]
    exact Nat.cast_add _ _
  nonempty := List.append_ne_nil_of_left_ne_nil earlier.nonempty rest
  pooled := by
    refine earlier.pooled.append later.pooled positive earlier.nonempty later.nonempty ?_
    rw [← earlier.successes_eq, ← earlier.count_eq, ← later.successes_eq, ← later.count_eq]
    exact_mod_cast falls.le

theorem Stands.poolLast (stands : Stands blocks groups) (spans : block.Spans groups.length part)
    (positive : ∀ group ∈ groups ++ part, 0 < group.weight) (rising : Rising blocks) :
    Stands (poolLast block blocks) (groups ++ part) ∧ Rising (poolLast block blocks) := by
  induction stands generalizing block part with
  | nil => exact ⟨.push .nil spans, List.pairwise_singleton _ _⟩
  | @push blocks groups first held earlier own inductionHypothesis =>
    obtain ⟨below, others⟩ := List.pairwise_cons.mp rising
    have heavy : ∀ group ∈ held ++ part, 0 < group.weight := fun group member =>
      positive group (by
        rw [List.append_assoc]
        exact List.mem_append_right _ member)
    obtain ⟨heavyHeld, heavyPart⟩ := List.forall_mem_append.mp heavy
    unfold Discovery.poolLast
    split
    · next keeps =>
      refine ⟨.push (.push earlier own) spans, List.pairwise_cons.mpr ⟨?_, rising⟩⟩
      have step : first.value ≤ block.value := by
        unfold FitBlock.value
        rw [div_le_div_iff₀ (own.count_pos heavyHeld) (spans.count_pos heavyPart)]
        exact_mod_cast keeps
      exact List.forall_mem_cons.mpr
        ⟨step, fun other member => (below other member).trans step⟩
    · next falls =>
      rw [List.length_append] at spans
      have joined := own.join spans heavy (not_le.mp falls)
      rw [List.append_assoc] at positive ⊢
      exact inductionHypothesis joined positive others

theorem Stands.poolGroups (stands : Stands blocks groups) (rising : Rising blocks)
    (positive : ∀ group ∈ groups ++ rest, 0 < group.weight) :
    Stands (poolGroups groups.length blocks rest) (groups ++ rest) ∧
      Rising (poolGroups groups.length blocks rest) := by
  induction rest generalizing groups blocks with
  | nil =>
    rw [List.append_nil]
    exact ⟨stands, rising⟩
  | cons group rest inductionHypothesis =>
    have spans : (⟨groups.length, group.successes, group.count⟩ : FitBlock).Spans groups.length
        [group] := ⟨rfl, by simp [ScoreGroup.value], by simp [weight],
          List.cons_ne_nil _ _, pooled_singleton group⟩
    rw [List.append_cons] at positive ⊢
    obtain ⟨next, climbs⟩ := stands.poolLast spans
      (fun other member => positive other (List.mem_append_left _ member)) rising
    have step := inductionHypothesis next climbs positive
    rw [List.length_append] at step
    exact step

end

/-! ### Values -/

section

variable {block : FitBlock} {blocks : List FitBlock} {groups part : List ScoreGroup} {size : ℕ}

theorem expandBlocks_concat : expandBlocks size (blocks ++ [block]) =
    expandBlocks block.start blocks ++ List.replicate (size - block.start) block.value := by
  induction blocks with
  | nil => exact List.append_nil _
  | cons first rest inductionHypothesis =>
    have stop : ((rest ++ [block]).head?.map FitBlock.start).getD size =
        (rest.head?.map FitBlock.start).getD block.start := by
      cases rest <;> rfl
    rw [List.cons_append]
    unfold expandBlocks
    rw [inductionHypothesis, stop, List.append_assoc]

theorem Stands.expand_push (spans : block.Spans groups.length part) :
    expandBlocks (groups ++ part).length (block :: blocks).reverse =
      expandBlocks groups.length blocks.reverse ++ List.replicate part.length block.value := by
  rw [List.reverse_cons, expandBlocks_concat, spans.start_eq, List.length_append,
    Nat.add_sub_cancel_left]

section

variable (stands : Stands blocks groups)

include stands

theorem Stands.length_expand :
    (expandBlocks groups.length blocks.reverse).length = groups.length := by
  induction stands with
  | nil => rfl
  | push earlier spans inductionHypothesis =>
    rw [expand_push spans, List.length_append, inductionHypothesis, List.length_replicate,
      List.length_append]

theorem Stands.mem_expand {value : ℚ} (member : value ∈ expandBlocks groups.length blocks.reverse) :
    ∃ block ∈ blocks, block.value = value := by
  induction stands with
  | nil => exact absurd member List.not_mem_nil
  | push earlier spans inductionHypothesis =>
    rw [expand_push spans, List.mem_append] at member
    obtain before | own := member
    · obtain ⟨block, held, same⟩ := inductionHypothesis before
      exact ⟨block, List.mem_cons_of_mem _ held, same⟩
    · exact ⟨_, List.mem_cons_self, (List.eq_of_mem_replicate own).symm⟩

theorem Stands.expand_nondecreasing (rising : Rising blocks) :
    (expandBlocks groups.length blocks.reverse).Pairwise (· ≤ ·) := by
  induction stands with
  | nil => exact List.Pairwise.nil
  | push earlier spans inductionHypothesis =>
    obtain ⟨below, others⟩ := List.pairwise_cons.mp rising
    rw [expand_push spans]
    refine List.pairwise_append.mpr ⟨inductionHypothesis others,
      List.pairwise_replicate.mpr (.inr le_rfl), fun value before other own => ?_⟩
    obtain ⟨block, held, rfl⟩ := earlier.mem_expand before
    rw [List.eq_of_mem_replicate own]
    exact below block held

theorem Stands.block_bounded
    (bounded : ∀ group ∈ groups, group.successes ≤ group.count ∧ 0 < group.count) :
    ∀ block ∈ blocks, 0 ≤ block.value ∧ block.value ≤ 1 := by
  induction stands with
  | nil => exact fun _ member => absurd member List.not_mem_nil
  | @push blocks groups block part earlier spans inductionHypothesis =>
    obtain ⟨before, own⟩ := List.forall_mem_append.mp bounded
    refine List.forall_mem_cons.mpr ⟨?_, inductionHypothesis before⟩
    have fewer : (block.successes : ℚ) ≤ block.count := by
      rw [spans.successes_eq, spans.count_eq, ← sub_nonneg, ← total_sub]
      exact total_nonneg fun group member => sub_nonneg.mpr (Nat.cast_le.mpr (own group member).1)
    exact ⟨by unfold FitBlock.value; positivity, div_le_one_of_le₀ fewer (Nat.cast_nonneg _)⟩

theorem Stands.loss_expand
    (positive : ∀ group ∈ groups, 0 < group.weight) {fitted answer : ScoreGroup → ℚ}
    (known : groups.map fitted = expandBlocks groups.length blocks.reverse)
    (ordered : groups.Pairwise fun first second => answer first ≤ answer second) :
    loss ScoreGroup.value weight fitted groups +
        distance weight answer fitted groups ≤
      loss ScoreGroup.value weight answer groups := by
  induction stands with
  | nil => exact (add_zero _).le
  | @push blocks groups block part earlier spans inductionHypothesis =>
    obtain ⟨heavy, heavyPart⟩ := List.forall_mem_append.mp positive
    obtain ⟨before, own, -⟩ := List.pairwise_append.mp ordered
    rw [expand_push spans, List.map_append] at known
    obtain ⟨knownBefore, knownOwn⟩ := List.append_inj known
      (by rw [List.length_map, earlier.length_expand])
    have level : ∀ group ∈ part, fitted group =
        mean ScoreGroup.value weight part := fun group member =>
      (List.eq_of_mem_replicate (knownOwn ▸ List.mem_map_of_mem member)).trans spans.value_eq
    have step := spans.pooled.loss_mean heavyPart spans.nonempty own
    have same : loss ScoreGroup.value weight fitted part =
        loss ScoreGroup.value weight
          (fun _ => mean ScoreGroup.value weight part) part :=
      total_congr fun group member => by rw [level group member]
    have far : distance weight answer fitted part =
        distance weight answer
          (fun _ => mean ScoreGroup.value weight part) part :=
      total_congr fun group member => by rw [level group member]
    have others := inductionHypothesis heavy knownBefore before
    rw [loss_append, loss_append, distance_append, same, far]
    linarith

end

end

/-! ### The regression -/

/-- `_isotonic_fit` takes a population of this kind. -/
structure Eligible (scores : List ℚ) (labels : List Bool) : Prop where
  paired : scores.length = labels.length
  many : 200 ≤ scores.length
  mixed : 40 ≤ min (labels.count true) (labels.length - labels.count true)

variable {scores : List ℚ} {labels : List Bool}

theorem isotonicFit_of_eligible (eligible : Eligible scores labels) : isotonicFit scores labels =
      .ok ((grouped (scores.zip labels)).map ScoreGroup.score,
        expandBlocks (grouped (scores.zip labels)).length
          (poolGroups 0 [] (grouped (scores.zip labels))).reverse) := by
  unfold isotonicFit
  refine if_neg ?_
  rintro (differs | few | uniform)
  · exact differs eligible.paired
  · exact few.not_ge eligible.many
  · exact uniform.not_ge eligible.mixed

section

variable (accepted : isotonicFit scores labels = .ok (support, values))

include accepted

theorem eligible_of_fit :
    Eligible scores labels := by
  unfold isotonicFit at accepted
  dsimp only at accepted
  split at accepted
  · cases accepted
  · next holds =>
    obtain ⟨paired, many, mixed⟩ := not_or.mp holds |>.imp_right not_or.mp
    exact ⟨not_not.mp paired, not_lt.mp many, not_lt.mp mixed⟩

theorem isotonicFit_eq_ok :
    (grouped (scores.zip labels)).map ScoreGroup.score = support ∧
      expandBlocks (grouped (scores.zip labels)).length
        (poolGroups 0 [] (grouped (scores.zip labels))).reverse = values := by
  rw [isotonicFit_of_eligible (eligible_of_fit accepted)] at accepted
  exact Prod.mk.inj (Except.ok.inj accepted)

theorem isotonicRegression_of_fit :
    IsotonicRegression (scores.zip labels) support values := by
  obtain ⟨rfl, rfl⟩ := isotonicFit_eq_ok accepted
  have groups := grouped_spec (scores.zip labels)
  set known := grouped (scores.zip labels)
  have positive : ∀ group ∈ known, 0 < group.weight := fun group member =>
    Nat.cast_pos.mpr (groups.bounded group member).2
  obtain ⟨stands, rising⟩ := Stands.nil.poolGroups List.Pairwise.nil positive
  have ordered {answer : ℚ → ℚ}
      (monotone : MonotoneOn answer {score | score ∈ known.map ScoreGroup.score}) :
      known.Pairwise fun first second => answer first.score ≤ answer second.score := by
    refine (List.pairwise_map.mp groups.increasing).imp_of_mem fun first second below => ?_
    exact monotone (List.mem_map_of_mem first) (List.mem_map_of_mem second) below.le
  have compare {fitted answer : ℚ → ℚ}
      (same : (known.map ScoreGroup.score).map fitted =
        expandBlocks known.length (poolGroups 0 [] known).reverse)
      (monotone : MonotoneOn answer {score | score ∈ known.map ScoreGroup.score}) :
      squaredError (scores.zip labels) fitted + distance weight
          (fun group => answer group.score) (fun group => fitted group.score) known ≤
        squaredError (scores.zip labels) answer := by
    have least : loss ScoreGroup.value weight (fun group => fitted group.score) known +
        distance weight (fun group => answer group.score)
          (fun group => fitted group.score) known ≤
        loss ScoreGroup.value weight (fun group => answer group.score) known :=
      stands.loss_expand positive (by rwa [List.map_map] at same) (ordered monotone)
    rw [groups.error, groups.error]
    linarith
  refine ⟨groups.increasing, groups.scores, ?_, stands.expand_nondecreasing rising, ?_, ?_, ?_⟩
  · rw [List.length_map]
    exact stands.length_expand
  · intro value member
    obtain ⟨block, held, rfl⟩ := stands.mem_expand member
    exact stands.block_bounded groups.bounded block held
  · intro fitted answer same monotone
    refine le_of_add_le_of_nonneg_left (compare same monotone) (total_nonneg fun group member => ?_)
    exact mul_nonneg (positive group member).le (sq_nonneg _)
  · intro fitted answer same monotone near
    have none := compare same monotone
    have equal := eq_of_distance_nonpos positive (by linarith)
    rw [← same]
    refine List.map_congr_left fun score member => ?_
    obtain ⟨group, held, rfl⟩ := List.mem_map.mp member
    exact equal group held

end

/-! ### Predictions -/

section

theorem bisectRight_le (support : List ℚ) (score : ℚ) :
    bisectRight support score ≤ support.length := (List.takeWhile_prefix _).length_le

theorem bisectRight_mono (support : List ℚ) : Monotone (bisectRight support) := by
  intro score later below
  unfold bisectRight
  induction support with
  | nil => exact le_rfl
  | cons head rest inductionHypothesis =>
    by_cases holds : head ≤ score
    · rw [List.takeWhile_cons_of_pos (by simpa using holds),
        List.takeWhile_cons_of_pos (by simpa using holds.trans below)]
      exact Nat.succ_le_succ inductionHypothesis
    · rw [List.takeWhile_cons_of_neg (by simpa using holds)]
      exact Nat.zero_le _

/-- A score of the support comes just before the end of those up to it. -/
theorem bisectRight_getElem (increasing : support.Pairwise (· < ·)) {place : ℕ}
    (bound : place < support.length) : bisectRight support support[place] = place + 1 := by
  unfold bisectRight
  induction support generalizing place with
  | nil => exact absurd bound (Nat.not_lt_zero _)
  | cons head rest inductionHypothesis =>
    obtain ⟨first, later⟩ := List.pairwise_cons.mp increasing
    cases place with
    | zero =>
      have none : rest.takeWhile (· ≤ head) = [] := by
        cases rest with
        | nil => rfl
        | cons next others =>
          exact List.takeWhile_cons_of_neg (by simpa using first next List.mem_cons_self)
      rw [List.getElem_cons_zero, List.takeWhile_cons_of_pos (by simp), none]
      rfl
    | succ place =>
      have inside : place < rest.length := Nat.lt_of_succ_lt_succ bound
      rw [List.getElem_cons_succ, List.takeWhile_cons_of_pos
        (by simpa using (first _ (List.getElem_mem inside)).le)]
      exact congrArg Nat.succ (inductionHypothesis later inside)

def predictedValue (support values : List ℚ) (score : ℚ) : ℚ :=
  values.getD (bisectRight support score - 1) 0

theorem predicted_bound (length_eq : values.length = support.length) (nonempty : support ≠ [])
    (score : ℚ) : bisectRight support score - 1 < values.length := by
  have bound := bisectRight_le support score
  have some := List.length_pos_iff.mpr nonempty
  omega

theorem predictCalibrated_isotonic (sigmoid : ℚ → ℚ) (length_eq : values.length = support.length)
    (nonempty : support ≠ []) (score : ℚ) :
    predictCalibrated sigmoid (.isotonic support values) score =
      some (predictedValue support values score) := by
  have bound := predicted_bound length_eq nonempty score
  unfold predictCalibrated predictedValue
  rw [List.getD_eq_getElem _ _ bound]
  exact List.getElem?_eq_getElem bound

theorem predictedValue_mono (length_eq : values.length = support.length) (nonempty : support ≠ [])
    (ordered : values.Pairwise (· ≤ ·)) : Monotone (predictedValue support values) := by
  intro score later below
  have bound := predicted_bound length_eq nonempty score
  have laterBound := predicted_bound length_eq nonempty later
  unfold predictedValue
  rw [List.getD_eq_getElem _ _ bound, List.getD_eq_getElem _ _ laterBound]
  obtain before | same :=
    (Nat.sub_le_sub_right (bisectRight_mono support below) 1).lt_or_eq
  · exact List.pairwise_iff_getElem.mp ordered _ _ bound laterBound before
  · simp only [same, le_refl]

theorem map_predictedValue (length_eq : values.length = support.length)
    (increasing : support.Pairwise (· < ·)) :
    support.map (predictedValue support values) = values := by
  refine List.ext_getElem (by rw [List.length_map, length_eq]) fun place bound inside => ?_
  rw [List.length_map] at bound
  rw [List.getElem_map, predictedValue, bisectRight_getElem increasing bound,
    Nat.add_sub_cancel, List.getD_eq_getElem _ _ inside]

end

/-! ### The whole fit -/

theorem isotonicFit_perm {scores others : List ℚ} {labels otherLabels : List Bool}
    (paired : others.length = otherLabels.length)
    (same : (others.zip otherLabels).Perm (scores.zip labels))
    (accepted : isotonicFit scores labels = .ok (support, values)) :
    isotonicFit others otherLabels = .ok (support, values) := by
  have eligible := eligible_of_fit accepted
  have scoresPerm : others.Perm scores := by
    simpa [List.map_fst_zip, paired.le, eligible.paired.le] using same.map Prod.fst
  have labelsPerm : otherLabels.Perm labels := by
    simpa [List.map_snd_zip, paired.ge, eligible.paired.ge] using same.map Prod.snd
  have eligibleToo : Eligible others otherLabels := by
    refine ⟨paired, scoresPerm.length_eq ▸ eligible.many, ?_⟩
    rw [labelsPerm.length_eq, labelsPerm.count_eq]
    exact eligible.mixed
  have fitted := isotonicFit_of_eligible eligibleToo
  obtain ⟨sameSupport, sameValues⟩ :=
    (isotonicRegression_of_fit fitted).eq (isotonicRegression_of_fit accepted) same
  rw [fitted, sameSupport, sameValues]

/-- The fit of an accepted population is its isotonic regression, whatever the order of the
population, and what is predicted from it does not fall with the score. -/
theorem isotonic_fit_is_regression {scores support values : List ℚ} {labels : List Bool}
    (accepted : isotonicFit scores labels = .ok (support, values)) :
    IsotonicRegression (scores.zip labels) support values ∧
      (∀ (others : List ℚ) (otherLabels : List Bool), others.length = otherLabels.length →
        (others.zip otherLabels).Perm (scores.zip labels) →
        isotonicFit others otherLabels = .ok (support, values)) ∧
      ∃ predicted : ℚ → ℚ, Monotone predicted ∧ support.map predicted = values ∧
        ∀ sigmoid score, predictCalibrated sigmoid (.isotonic support values) score =
          some (predicted score) := by
  have regression := isotonicRegression_of_fit accepted
  have eligible := eligible_of_fit accepted
  have nonempty : support ≠ [] := by
    rintro rfl
    have none : (scores.zip labels).map Prod.fst = [] :=
      List.eq_nil_iff_forall_not_mem.mpr fun score member =>
        absurd ((regression.distinct score).mpr member) List.not_mem_nil
    rw [List.map_fst_zip eligible.paired.le] at none
    have many := eligible.many
    rw [none] at many
    exact absurd many (by decide)
  refine ⟨regression, fun others otherLabels paired same => isotonicFit_perm paired same accepted,
    predictedValue support values, ?_, ?_, fun sigmoid score => ?_⟩
  · exact predictedValue_mono regression.length_eq nonempty regression.nondecreasing
  · exact map_predictedValue regression.length_eq regression.increasing
  · exact predictCalibrated_isotonic sigmoid regression.length_eq nonempty score

def fallingScores : List ℚ := List.replicate 100 0 ++ List.replicate 100 1

def fallingLabels : List Bool := List.replicate 100 true ++ List.replicate 100 false

/-- Its two scores are fitted alike. -/
theorem isotonic_fit_pools :
    IsotonicRegression (fallingScores.zip fallingLabels) [0, 1] [1 / 2, 1 / 2] :=
  (@isotonic_fit_is_regression fallingScores [0, 1] [1 / 2, 1 / 2] fallingLabels
    (by decide +kernel)).1

end QuantAgent.Discovery
