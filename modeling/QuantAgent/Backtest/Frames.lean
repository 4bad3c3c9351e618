/-
This file proves what the aggregation of bars of any interval of the table into bars of a longer
one yields: one bar for every bucket whose slots are all filled, folded from them. An aggregation
factors through every interval between, and it does not depend on the order of the bars.
-/

import QuantAgent.Backtest.Resample
import QuantAgent.Library.Slots

namespace QuantAgent.Backtest.Frames

open Slots

/-! ### Buckets and their slots -/

/-- The place of a bar on the grid. -/
abbrev openOf (bar : Bar) : ℤ := bar.openTimeMs

def slotsOf (frame child : Frame) (bucket : ℤ) : List ℤ :=
  slots child.ms (frame.ratio child) bucket

def wholeBucket (frame child : Frame) (candles : List Bar) (bucket : ℤ) : Option (List Bar) :=
  filled openOf candles (slotsOf frame child bucket)

variable {frame child : Frame}

theorem Frame.ratio_mul (divides : child.ms ∣ frame.ms) :
    (frame.ratio child : ℤ) * child.ms = frame.ms := by
  unfold Frame.ratio
  rw [Int.toNat_of_nonneg (Int.ediv_nonneg frame.ms_pos.le child.ms_pos.le),
    Int.ediv_mul_cancel divides]

theorem Frame.ratio_pos (divides : child.ms ∣ frame.ms) :
    0 < frame.ratio child := by
  have whole := Frame.ratio_mul divides
  have positive := frame.ms_pos
  refine Nat.pos_of_ne_zero fun zero => ?_
  rw [zero] at whole
  omega

theorem dvd_bucketOf (frame : Frame) (time : ℤ) : frame.ms ∣ bucketOf frame time :=
  Dvd.intro_left _ rfl

theorem bucketOf_eq_iff {time bucket : ℤ} (aligned : frame.ms ∣ bucket) :
    bucketOf frame time = bucket ↔ bucket ≤ time ∧ time < bucket + frame.ms := by
  obtain ⟨index, rfl⟩ := aligned
  unfold bucketOf
  have positive := frame.ms_pos
  have inside := Int.emod_lt_of_pos time positive
  have nonneg := Int.emod_nonneg time positive.ne'
  have whole := Int.mul_ediv_add_emod time frame.ms
  rw [mul_comm (time / frame.ms)]
  constructor
  · intro same
    omega
  · rintro ⟨lower, upper⟩
    have quotient : time / frame.ms = index := by
      refine ((Int.ediv_emod_unique (r := time - frame.ms * index) positive).mpr ?_).1
      exact ⟨by ring, by omega, by omega⟩
    rw [quotient]

variable {bucket : ℤ} {bar : Bar}

theorem mem_childrenOf {candles : List Bar} (aligned : frame.ms ∣ bucket) :
    bar ∈ childrenOf frame bucket candles ↔
      bar ∈ candles ∧ bucket ≤ bar.openTimeMs ∧ bar.openTimeMs < bucket + frame.ms := by
  unfold childrenOf
  rw [List.mem_filter, decide_eq_true_eq, bucketOf_eq_iff aligned]

theorem mem_slotsOf {bucket time : ℤ} :
    time ∈ slotsOf frame child bucket ↔
      ∃ index < frame.ratio child, time = bucket + (index : ℕ) * child.ms :=
  mem_slots

section Level

variable (divides : child.ms ∣ frame.ms) {candles : List Bar}
  (aligned : ∀ bar ∈ candles, child.ms ∣ bar.openTimeMs)

include divides

theorem bucketOf_slot {bucket time : ℤ} (start : frame.ms ∣ bucket)
    (slot : time ∈ slotsOf frame child bucket) : bucketOf frame time = bucket := by
  obtain ⟨index, bound, rfl⟩ := mem_slotsOf.mp slot
  have whole := Frame.ratio_mul divides
  have positive := child.ms_pos
  have early : ((index : ℤ) + 1) * child.ms ≤ frame.ratio child * child.ms :=
    mul_le_mul_of_nonneg_right (by exact_mod_cast bound) positive.le
  have nonneg : 0 ≤ (index : ℤ) * child.ms := by positivity
  refine (bucketOf_eq_iff start).mpr ⟨by omega, ?_⟩
  linarith

include aligned

theorem slot_of_child (start : frame.ms ∣ bucket) :
    ∀ bar ∈ childrenOf frame bucket candles,
      ∃ index < frame.ratio child, openOf bar = bucket + (index : ℕ) * child.ms := by
  intro bar member
  obtain ⟨inCandles, lower, upper⟩ := (mem_childrenOf start).mp member
  obtain ⟨index, distance⟩ := dvd_sub (aligned bar inCandles) (divides.trans start)
  have positive := child.ms_pos
  have whole := Frame.ratio_mul divides
  have nonneg : 0 ≤ index := by
    refine le_of_mul_le_mul_left ?_ positive
    rw [mul_zero, ← distance]
    omega
  have bound : index < frame.ratio child := by
    refine lt_of_mul_lt_mul_right (a := child.ms) ?_ positive.le
    rw [whole, mul_comm, ← distance]
    omega
  refine ⟨index.toNat, by omega, ?_⟩
  rw [Int.toNat_of_nonneg nonneg, mul_comm, ← distance]
  unfold openOf
  omega

theorem bucketOutput_eq (start : frame.ms ∣ bucket) :
    bucketOutput frame child bucket (childrenOf frame bucket candles) =
      (wholeBucket frame child candles bucket).bind (foldOf frame bucket) := by
  have inBucket : wholeBucket frame child candles bucket =
      filled openOf (childrenOf frame bucket candles) (slotsOf frame child bucket) := by
    refine filled_congr fun time slot => (sole_filter fun bar here => ?_).symm
    rw [decide_eq_true_eq, show bar.openTimeMs = time from here]
    exact bucketOf_slot divides start slot
  have sorted := filled_eq_ite child.ms_pos (slot_of_child divides aligned start)
    (List.perm_insertionSort _ _) (List.pairwise_insertionSort
      (fun bar other : Bar => bar.openTimeMs ≤ other.openTimeMs) (childrenOf frame bucket candles))
  rw [inBucket, slotsOf, sorted]
  unfold bucketOutput
  by_cases enough : (childrenOf frame bucket candles).length = frame.ratio child
  · by_cases spaced : (sortedByOpen (childrenOf frame bucket candles)).IsChain
        fun previous current => current.openTimeMs - previous.openTimeMs = child.ms
    · rw [if_neg (not_not.mpr enough), if_neg (not_not.mpr spaced), if_pos ⟨enough, spaced⟩]
      rfl
    · rw [if_neg (not_not.mpr enough), if_pos spaced, if_neg fun complete => spaced complete.2]
      rfl
  · rw [if_pos enough, if_neg fun complete => enough complete.1]
    rfl

end Level

/-! ### What an aggregation yields -/

def barAt (frame child : Frame) (candles : List Bar) (bucket : ℤ) : Option Bar :=
  (wholeBucket frame child candles bucket).bind (foldOf frame bucket)

def resampled (frame child : Frame) (candles : List Bar) : List Bar :=
  (bucketsOf frame candles).filterMap (barAt frame child candles)

theorem openOf_of_barAt {candles : List Bar} (built : barAt frame child candles bucket = some bar) :
    openOf bar = bucket ∧ bar.interval = frame.name := by
  obtain ⟨found, -, folded⟩ := Option.bind_eq_some_iff.mp built
  obtain ⟨first, rest, -, rfl⟩ := foldOf_eq_some_iff.mp folded
  exact ⟨rfl, rfl⟩

theorem mem_bucketsOf {candles : List Bar} :
    bucket ∈ bucketsOf frame candles ↔
      ∃ bar ∈ candles, bucketOf frame bar.openTimeMs = bucket := by
  unfold bucketsOf
  rw [List.mem_insertionSort, List.mem_dedup, List.mem_map]

theorem dvd_of_mem_bucketsOf {candles : List Bar}
    (member : bucket ∈ bucketsOf frame candles) : frame.ms ∣ bucket := by
  obtain ⟨bar, -, rfl⟩ := mem_bucketsOf.mp member
  exact dvd_bucketOf frame bar.openTimeMs

theorem bucketsOf_pairwise (frame : Frame) (candles : List Bar) :
    (bucketsOf frame candles).Pairwise (· < ·) := by
  unfold bucketsOf
  have ordered := List.pairwise_insertionSort (fun first second : ℤ => first ≤ second)
    (candles.map fun bar => bucketOf frame bar.openTimeMs).dedup
  have distinct := (List.perm_insertionSort (fun first second : ℤ => first ≤ second)
    (candles.map fun bar => bucketOf frame bar.openTimeMs).dedup).nodup_iff.mpr (List.nodup_dedup _)
  exact ordered.imp₂ (fun _ _ le ne => lt_of_le_of_ne le ne) distinct

section Level

variable (divides : child.ms ∣ frame.ms) {candles : List Bar}

theorem resample_eq (level : ∀ bar ∈ candles, bar.interval = child.name)
    (divides : child.ms ∣ frame.ms) (aligned : ∀ bar ∈ candles, child.ms ∣ bar.openTimeMs) :
    resample candles frame.name = some (resampled frame child candles) := by
  unfold resample bucketBars resampled
  rw [Frame.ofName?_name]
  cases candles with
  | nil => rfl
  | cons head rest =>
    have known : Frame.ofName? head.interval = some child := by
      rw [level head List.mem_cons_self, Frame.ofName?_name]
    simp only [known, Option.bind_eq_bind, Option.bind_some, Option.some.injEq]
    refine List.filterMap_congr fun bucket member => ?_
    exact bucketOutput_eq divides aligned (dvd_of_mem_bucketsOf member)

theorem resampled_pairwise (frame child : Frame) (candles : List Bar) :
    (resampled frame child candles).Pairwise fun first second => openOf first < openOf second := by
  unfold resampled
  refine (bucketsOf_pairwise frame candles).filterMap _ ?_
  intro first second earlier bar built other builtOther
  rw [(openOf_of_barAt built).1, (openOf_of_barAt builtOther).1]
  exact earlier

include divides

theorem mem_resampled :
    bar ∈ resampled frame child candles ↔
      ∃ bucket, frame.ms ∣ bucket ∧ barAt frame child candles bucket = some bar := by
  unfold resampled
  rw [List.mem_filterMap]
  constructor
  · rintro ⟨bucket, member, built⟩
    exact ⟨bucket, dvd_of_mem_bucketsOf member, built⟩
  · rintro ⟨bucket, start, built⟩
    refine ⟨bucket, ?_, built⟩
    -- The first child is one of the candles, and it opens in the bucket.
    obtain ⟨found, whole, folded⟩ := Option.bind_eq_some_iff.mp built
    obtain ⟨first, rest, rfl, -⟩ := foldOf_eq_some_iff.mp folded
    have placed := map_place_of_filled whole
    have slot : openOf first ∈ slotsOf frame child bucket := by
      rw [← placed]
      exact List.mem_map_of_mem List.mem_cons_self
    have inCandles := (place_of_sole
      (sole_of_filled whole first List.mem_cons_self)).1
    exact mem_bucketsOf.mpr ⟨first, inCandles, bucketOf_slot divides start slot⟩

theorem sole_resampled (start : frame.ms ∣ bucket) :
    sole openOf (resampled frame child candles) bucket =
      barAt frame child candles bucket := by
  have distinct : ((resampled frame child candles).map openOf).Nodup :=
    List.pairwise_map.mpr ((resampled_pairwise frame child candles).imp ne_of_lt)
  cases built : barAt frame child candles bucket with
  | some bar =>
    have member := (mem_resampled divides).mpr ⟨bucket, start, built⟩
    rw [← (openOf_of_barAt built).1]
    exact sole_of_nodup distinct member
  | none =>
    refine Option.eq_none_iff_forall_ne_some.mpr fun bar found => ?_
    obtain ⟨member, here⟩ := place_of_sole found
    obtain ⟨other, -, builtOther⟩ := (mem_resampled divides).mp member
    rw [← (openOf_of_barAt builtOther).1, here, built] at builtOther
    exact nomatch builtOther

theorem resampled_congr {other : Frame} {others : List Bar} (dividesOther : other.ms ∣ frame.ms)
    (same : ∀ bucket, frame.ms ∣ bucket →
      barAt frame child candles bucket = barAt frame other others bucket) :
    resampled frame child candles = resampled frame other others := by
  have members : ∀ bar, bar ∈ resampled frame child candles ↔
      bar ∈ resampled frame other others := by
    intro bar
    rw [mem_resampled divides, mem_resampled dividesOther]
    exact exists_congr fun bucket => and_congr_right fun start => by rw [same bucket start]
  have ordered := resampled_pairwise frame child candles
  have orderedOther := resampled_pairwise frame other others
  have permuted := (List.perm_ext_iff_of_nodup
    (ordered.imp fun earlier equal => absurd (congrArg openOf equal) earlier.ne)
    (orderedOther.imp fun earlier equal => absurd (congrArg openOf equal) earlier.ne)).mpr members
  exact permuted.eq_of_pairwise
    (fun first second _ _ earlier later => absurd earlier later.asymm) ordered orderedOther

end Level

/-! ### Folding in two steps -/

def Folded (middle : Frame) (bar : Bar) (group : List Bar) : Prop :=
  ∃ bucket first rest, group = first :: rest ∧ bar = foldBars middle bucket first rest

theorem highest_eq_iff {first : Bar} {rest : List Bar} {value : ℚ} :
    highest first rest = value ↔
      (∃ bar ∈ first :: rest, bar.high = value) ∧ ∀ bar ∈ first :: rest, bar.high ≤ value := by
  unfold highest
  rw [List.max_eq_iff, List.mem_map, List.forall_mem_map]

theorem lowest_eq_iff {first : Bar} {rest : List Bar} {value : ℚ} :
    lowest first rest = value ↔
      (∃ bar ∈ first :: rest, bar.low = value) ∧ ∀ bar ∈ first :: rest, value ≤ bar.low := by
  unfold lowest
  rw [List.min_eq_iff, List.mem_map, List.forall_mem_map]

theorem getLast?_cons_eq (first : Bar) (rest : List Bar) :
    (first :: rest).getLast? = some (lastBar first rest) := List.getLast?_cons

section Groups

variable {middle : Frame} {bars : List Bar} {groups : List (List Bar)}
  (folded : List.Forall₂ (Folded middle) bars groups)

include folded

theorem sum_folded {Amount : Type} [AddMonoid Amount] (amount : Bar → Amount)
    (additive : ∀ bucket first rest,
      amount (foldBars middle bucket first rest) = ((first :: rest).map amount).sum) :
    (bars.map amount).sum = (groups.flatten.map amount).sum := by
  induction folded with
  | nil => rfl
  | cons head _ inductionHypothesis =>
    obtain ⟨bucket, first, rest, rfl, rfl⟩ := head
    rw [List.map_cons, List.sum_cons, inductionHypothesis, additive, List.flatten_cons,
      List.map_append, List.sum_append]

theorem extremes_folded :
    (∀ bar ∈ bars, (∃ item ∈ groups.flatten, item.high = bar.high) ∧
      ∃ item ∈ groups.flatten, item.low = bar.low) ∧
    ∀ item ∈ groups.flatten, ∃ bar ∈ bars, item.high ≤ bar.high ∧ bar.low ≤ item.low := by
  induction folded with
  | nil => exact ⟨fun _ member => absurd member List.not_mem_nil, fun _ member =>
      absurd member List.not_mem_nil⟩
  | cons head _ inductionHypothesis =>
    obtain ⟨attained, bounded⟩ := inductionHypothesis
    obtain ⟨bucket, first, rest, rfl, rfl⟩ := head
    obtain ⟨⟨top, inTop, high⟩, -⟩ := highest_eq_iff.mp (rfl : highest first rest = _)
    obtain ⟨⟨bottom, inBottom, low⟩, -⟩ := lowest_eq_iff.mp (rfl : lowest first rest = _)
    rw [List.flatten_cons]
    constructor
    · intro bar member
      rcases List.mem_cons.mp member with rfl | inRest
      · exact ⟨⟨top, List.mem_append_left _ inTop, high⟩,
          ⟨bottom, List.mem_append_left _ inBottom, low⟩⟩
      · obtain ⟨⟨item, inItem, high⟩, ⟨other, inOther, low⟩⟩ := attained bar inRest
        exact ⟨⟨item, List.mem_append_right _ inItem, high⟩,
          ⟨other, List.mem_append_right _ inOther, low⟩⟩
    · intro item member
      rcases List.mem_append.mp member with inFirst | inRest
      · exact ⟨_, List.mem_cons_self, le_highest inFirst, lowest_le inFirst⟩
      · obtain ⟨bar, inBars, bounds⟩ := bounded item inRest
        exact ⟨bar, List.mem_cons_of_mem _ inBars, bounds⟩

theorem last_folded :
    bars.getLast?.map (fun bar => bar.close) =
      groups.flatten.getLast?.map fun bar => bar.close := by
  induction folded with
  | nil => rfl
  | @cons _ _ bars groups head _ inductionHypothesis =>
    obtain ⟨bucket, first, rest, rfl, rfl⟩ := head
    rw [List.flatten_cons, List.getLast?_cons, List.getLast?_append, getLast?_cons_eq]
    cases last : bars.getLast? with
    | none =>
      rw [last] at inductionHypothesis
      rw [Option.map_eq_none_iff.mp inductionHypothesis.symm]
      rfl
    | some bar =>
      rw [last] at inductionHypothesis
      obtain ⟨item, found, close⟩ := Option.map_eq_some_iff.mp inductionHypothesis.symm
      rw [found]
      exact congrArg some close.symm

theorem foldOf_flatten (frame : Frame) (bucket : ℤ) :
    foldOf frame bucket bars = foldOf frame bucket groups.flatten := by
  have trades := sum_folded folded (fun bar => bar.trades) fun _ _ _ => rfl
  have volume := sum_folded folded (fun bar => bar.volume) fun _ _ _ => rfl
  have quote := sum_folded folded (fun bar => bar.quoteVolume) fun _ _ _ => rfl
  have taker := sum_folded folded (fun bar => bar.takerBuyBaseVolume) fun _ _ _ => rfl
  have extremes := extremes_folded folded
  have last := last_folded folded
  cases folded with
  | nil => rfl
  | @cons _ _ bars groups head _ =>
    obtain ⟨start, first, rest, rfl, rfl⟩ := head
    rw [List.flatten_cons, List.cons_append] at *
    have high : highest (foldBars middle start first rest) bars =
        highest first (rest ++ groups.flatten) := by
      refine highest_eq_iff.mpr ?_
      obtain ⟨⟨top, inTop, equal⟩, bounded⟩ :=
        highest_eq_iff.mp (rfl : highest first (rest ++ groups.flatten) = _)
      obtain ⟨bar, inBars, above, -⟩ := extremes.2 top inTop
      have below : ∀ bar ∈ foldBars middle start first rest :: bars,
          bar.high ≤ highest first (rest ++ groups.flatten) := by
        intro bar member
        obtain ⟨⟨item, inItem, same⟩, -⟩ := extremes.1 bar member
        exact same ▸ bounded item inItem
      exact ⟨⟨bar, inBars, le_antisymm (below bar inBars) (equal ▸ above)⟩, below⟩
    have low : lowest (foldBars middle start first rest) bars =
        lowest first (rest ++ groups.flatten) := by
      refine lowest_eq_iff.mpr ?_
      obtain ⟨⟨bottom, inBottom, equal⟩, bounded⟩ :=
        lowest_eq_iff.mp (rfl : lowest first (rest ++ groups.flatten) = _)
      obtain ⟨bar, inBars, -, under⟩ := extremes.2 bottom inBottom
      have above : ∀ bar ∈ foldBars middle start first rest :: bars,
          lowest first (rest ++ groups.flatten) ≤ bar.low := by
        intro bar member
        obtain ⟨-, ⟨item, inItem, same⟩⟩ := extremes.1 bar member
        exact same ▸ bounded item inItem
      exact ⟨⟨bar, inBars, le_antisymm (equal ▸ under) (above bar inBars)⟩, above⟩
    rw [getLast?_cons_eq, getLast?_cons_eq] at last
    have close := Option.some.inj last
    unfold foldOf foldBars
    simp only [Option.some.injEq, Bar.mk.injEq, Candle.mk.injEq]
    exact ⟨⟨trivial, trivial, trivial, trivial, trivial, high, low, close, volume, quote⟩, taker,
      trades, trivial⟩

end Groups

/-! ### Aggregating through an interval between -/

section Levels

variable {middle : Frame} (inner : child.ms ∣ middle.ms) (outer : middle.ms ∣ frame.ms)

include inner outer

theorem Frame.ratio_trans : frame.ratio child = frame.ratio middle * middle.ratio child := by
  have whole := Frame.ratio_mul (inner.trans outer)
  have first := Frame.ratio_mul outer
  rw [← Frame.ratio_mul inner] at first
  have steps : (frame.ratio child : ℤ) * child.ms =
      ((frame.ratio middle : ℤ) * middle.ratio child) * child.ms := by
    rw [whole, ← first, mul_assoc]
  exact_mod_cast mul_right_cancel₀ child.ms_pos.ne' steps

theorem slotsOf_eq_flatMap (bucket : ℤ) :
    slotsOf frame child bucket = (slotsOf frame middle bucket).flatMap (slotsOf middle child) := by
  unfold slotsOf
  rw [Frame.ratio_trans inner outer, slots_mul, Frame.ratio_mul inner]

omit outer in
theorem mapM_barAt (candles : List Bar) (buckets : List ℤ) :
    (buckets.mapM (barAt middle child candles) = none ∧
        buckets.mapM (wholeBucket middle child candles) = none) ∨
      ∃ bars groups, buckets.mapM (barAt middle child candles) = some bars ∧
        buckets.mapM (wholeBucket middle child candles) = some groups ∧
        List.Forall₂ (Folded middle) bars groups := by
  induction buckets with
  | nil => exact .inr ⟨[], [], rfl, rfl, List.Forall₂.nil⟩
  | cons bucket buckets inductionHypothesis =>
    rw [List.mapM_cons, List.mapM_cons]
    cases whole : wholeBucket middle child candles bucket with
    | none =>
      left
      have absent : barAt middle child candles bucket = none := by
        unfold barAt
        rw [whole, Option.bind_none]
      rw [absent]
      exact ⟨rfl, rfl⟩
    | some found =>
      cases found with
      | nil =>
        have count := congrArg List.length (map_place_of_filled whole)
        have enough := Frame.ratio_pos inner
        rw [slotsOf, length_slots, List.map_nil, List.length_nil] at count
        omega
      | cons first rest =>
        have built : barAt middle child candles bucket =
            some (foldBars middle bucket first rest) := by
          unfold barAt
          rw [whole]
          rfl
        rw [built]
        rcases inductionHypothesis with ⟨noBars, noGroups⟩ | ⟨bars, groups, all, allGroups, folded⟩
        · rw [noBars, noGroups]
          exact .inl ⟨rfl, rfl⟩
        · rw [all, allGroups]
          exact .inr ⟨_, _, rfl, rfl, .cons ⟨bucket, first, rest, rfl, rfl⟩ folded⟩

theorem barAt_resampled (candles : List Bar) (start : frame.ms ∣ bucket) :
    barAt frame middle (resampled middle child candles) bucket =
      barAt frame child candles bucket := by
  have between : wholeBucket frame middle (resampled middle child candles) bucket =
      (slotsOf frame middle bucket).mapM (barAt middle child candles) := by
    unfold wholeBucket filled
    have same : ∀ slot ∈ slotsOf frame middle bucket,
        sole openOf (resampled middle child candles) slot =
          barAt middle child candles slot := by
      intro slot member
      obtain ⟨index, -, rfl⟩ := mem_slotsOf.mp member
      exact sole_resampled inner (dvd_add (outer.trans start) (Dvd.intro_left _ rfl))
    generalize slotsOf frame middle bucket = times at same
    induction times with
    | nil => rfl
    | cons slot times inductionHypothesis =>
      rw [List.mapM_cons, List.mapM_cons, same slot List.mem_cons_self,
        inductionHypothesis fun later member => same later (List.mem_cons_of_mem slot member)]
  have direct : wholeBucket frame child candles bucket =
      ((slotsOf frame middle bucket).mapM (wholeBucket middle child candles)).map List.flatten := by
    unfold wholeBucket
    rw [slotsOf_eq_flatMap inner outer, filled_flatMap]
  unfold barAt
  rw [between, direct]
  rcases mapM_barAt inner candles (slotsOf frame middle bucket) with
    ⟨noBars, noGroups⟩ | ⟨bars, groups, all, allGroups, folded⟩
  · rw [noBars, noGroups]
    rfl
  · rw [all, allGroups]
    exact foldOf_flatten folded frame bucket

/-- Aggregating in two steps is aggregating at once. -/
theorem resample_resample {candles : List Bar} (level : ∀ bar ∈ candles, bar.interval = child.name)
    (aligned : ∀ bar ∈ candles, child.ms ∣ bar.openTimeMs) :
    (resample candles middle.name >>= fun bars => resample bars frame.name) =
      resample candles frame.name := by
  rw [resample_eq level inner aligned, resample_eq level (inner.trans outer) aligned]
  have built : ∀ bar ∈ resampled middle child candles,
      bar.interval = middle.name ∧ middle.ms ∣ openOf bar := by
    intro bar member
    obtain ⟨bucket, start, found⟩ := (mem_resampled inner).mp member
    obtain ⟨here, named⟩ := openOf_of_barAt found
    exact ⟨named, here ▸ start⟩
  rw [Option.bind_eq_bind, Option.bind_some, resample_eq (fun bar member => (built bar member).1)
    outer fun bar member => (built bar member).2]
  exact congrArg some (resampled_congr outer (inner.trans outer) fun bucket start =>
    barAt_resampled inner outer candles start)

end Levels

/-! ### The order of the candles -/

theorem barAt_perm {candles others : List Bar} (same : others.Perm candles) (frame child : Frame)
    (bucket : ℤ) : barAt frame child others bucket = barAt frame child candles bucket := by
  unfold barAt wholeBucket
  rw [filled_congr fun time _ => sole_perm same time]

theorem resample_unknown {candles : List Bar} {interval : String}
    (unknown : Frame.ofName? interval = none) : resample candles interval = none := by
  unfold resample
  rw [unknown]
  rfl

theorem name_of_ofName? {interval : String}
    (known : Frame.ofName? interval = some frame) : frame.name = interval := by
  simpa using List.find?_some known

theorem resample_perm {candles others : List Bar} {child : Frame}
    (level : ∀ bar ∈ candles, bar.interval = child.name)
    (aligned : ∀ bar ∈ candles, child.ms ∣ bar.openTimeMs)
    (divides : ∀ frame : Frame, child.ms ∣ frame.ms) (same : others.Perm candles)
    (interval : String) : resample others interval = resample candles interval := by
  cases known : Frame.ofName? interval with
  | none => rw [resample_unknown known, resample_unknown known]
  | some frame =>
    rw [← name_of_ofName? known, resample_eq level (divides frame) aligned,
      resample_eq (fun bar member => level bar (same.subset member)) (divides frame)
        fun bar member => aligned bar (same.subset member)]
    exact congrArg some (resampled_congr (divides frame) (divides frame) fun bucket _ =>
      barAt_perm same frame child bucket)

/-! ### Minute candles -/

def MinutesOf (candles : List Bar) (frame : Frame) (bucket : ℤ) (minutes : List Bar) : Prop :=
  minutes.length = frame.ratio .m1 ∧
    ∀ index, ∀ inside : index < minutes.length,
      (candles.filter fun bar => bar.openTimeMs = bucket + (index : ℕ) * 60000) =
        [minutes.get ⟨index, inside⟩]

theorem wholeBucket_eq_some_iff {candles : List Bar} {minutes : List Bar} :
    wholeBucket frame .m1 candles bucket = some minutes ↔
      MinutesOf candles frame bucket minutes := by
  unfold wholeBucket MinutesOf
  rw [filled_eq_some_iff, List.forall₂_iff_get]
  have length := length_slots Frame.m1.ms (frame.ratio .m1) bucket
  unfold slotsOf
  constructor
  · rintro ⟨enough, placed⟩
    refine ⟨enough.symm.trans length, fun index inside => ?_⟩
    have here := sole_eq_some_iff.mp (placed index (enough ▸ inside) inside)
    rw [get_slots] at here
    exact here
  · rintro ⟨enough, placed⟩
    refine ⟨length.trans enough.symm, fun index _ inside => sole_eq_some_iff.mpr ?_⟩
    rw [get_slots]
    exact placed index inside

theorem m1_dvd (frame : Frame) : Frame.m1.ms ∣ frame.ms := by
  cases frame <;> decide

theorem mem_resampled_minutes {candles : List Bar} :
    bar ∈ resampled frame .m1 candles ↔
      ∃ bucket first rest, frame.ms ∣ bucket ∧ MinutesOf candles frame bucket (first :: rest) ∧
        bar = foldBars frame bucket first rest := by
  rw [mem_resampled (m1_dvd frame)]
  unfold barAt
  simp only [Option.bind_eq_some_iff, foldOf_eq_some_iff, wholeBucket_eq_some_iff]
  constructor
  · rintro ⟨bucket, start, _, minutes, first, rest, rfl, rfl⟩
    exact ⟨bucket, first, rest, start, minutes, rfl⟩
  · rintro ⟨bucket, first, rest, start, minutes, rfl⟩
    exact ⟨bucket, start, _, minutes, first, rest, rfl, rfl⟩

section Minutes

variable (candles : List Bar) (minutes : ∀ bar ∈ candles, bar.interval = "1m")
  (aligned : ∀ bar ∈ candles, 60000 ∣ bar.openTimeMs)

include minutes aligned

/-- Minute candles are aggregated into one bar for every bucket whose minutes are all there exactly
once, in order, whatever the order of the candles, and through every interval between. -/
theorem resample_sound :
    (∀ frame : Frame, ∃ bars, resample candles frame.name = some bars ∧
      (bars.Pairwise fun first second => first.openTimeMs < second.openTimeMs) ∧
      ∀ bar, bar ∈ bars ↔
        ∃ bucket first rest, frame.ms ∣ bucket ∧ MinutesOf candles frame bucket (first :: rest) ∧
          bar = foldBars frame bucket first rest) ∧
    (resample candles "15m" >>= fun bars => resample bars "1h") = resample candles "1h" ∧
    (resample candles "1h" >>= fun bars => resample bars "4h") = resample candles "4h" ∧
    ∀ others interval, others.Perm candles →
      resample others interval = resample candles interval := by
  refine ⟨fun frame => ?_, ?_, ?_, fun others interval same => ?_⟩
  · exact ⟨resampled frame .m1 candles, resample_eq minutes (m1_dvd frame) aligned,
      resampled_pairwise frame .m1 candles, fun bar => mem_resampled_minutes⟩
  · exact @resample_resample .h1 .m1 .m15 (by decide) (by decide) candles minutes aligned
  · exact @resample_resample .h4 .m1 .h1 (by decide) (by decide) candles minutes aligned
  · exact @resample_perm candles others .m1 minutes aligned m1_dvd same interval

end Minutes

theorem quarterHour_low : (99 : ℚ) ≤ min 100 100 := by decide +kernel

theorem quarterHour_high : max 100 100 ≤ (101 : ℚ) := by decide +kernel

def quarterHour : List Bar :=
  (List.range 15).map fun minute => {
    symbol := "BTCUSDT", interval := "1m", openTimeMs := 60000 * minute,
    closeTimeMs := 60000 * minute + 59999, openPrice := 100, high := 101, low := 99, close := 100,
    volume := 1, closeAfterOpen := by omega, lowBound := quarterHour_low,
    highBound := quarterHour_high }

theorem quarterHour_reversed :
    resample quarterHour.reverse "15m" = resample quarterHour "15m" :=
  (resample_sound quarterHour
    (fun bar member => by
      obtain ⟨minute, -, rfl⟩ := List.mem_map.mp member
      rfl)
    (fun bar member => by
      obtain ⟨minute, -, rfl⟩ := List.mem_map.mp member
      exact Dvd.intro _ rfl)).2.2.2 _ _ (List.reverse_perm quarterHour)

end QuantAgent.Backtest.Frames
