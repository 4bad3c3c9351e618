/-
This file embeds how the status of the capture store counts its buckets: a closed bucket is complete
when the streams cover enough of it and no gap lies in it. Gaps are merged within each partition and
then over all of them, and the buckets of a partition are taken in order, each search of the merged
lists starting from the place of the one before. For a finalized partition the counts of an earlier
call are taken over.

The merges drop gaps of no length, so the file then says exactly when a complete bucket holds no
part of any recorded gap. Arithmetic is exact.
-/

import QuantAgent.Library.Intervals
import QuantAgent.Microstructure.Trades

namespace QuantAgent.Microstructure

open Intervals

/-! ### Rows -/

structure GapRow where
  startMs : ℤ
  endMs : ℤ
  ordered : startMs ≤ endMs

inductive CaptureStream where
  | depth
  | trade
  deriving DecidableEq

structure CoverageSegment where
  stream : CaptureStream
  startMs : ℤ
  endMs : ℤ
  sequenceValid : Bool

structure PartitionRows where
  day : ℤ
  gaps : List GapRow := []
  coverage : List CoverageSegment := []

/-- `range(first, stop, step)`. -/
def stepRange (first stop step : ℤ) : List ℤ :=
  (List.range ((stop - first + step - 1) / step).toNat).map fun (index : ℕ) => first + index * step

namespace GapRow

/-- The row that `gap` inserts. -/
def recorded (timestampMs : ℤ) (endMs : Option ℤ) : GapRow where
  startMs := timestampMs
  endMs := max timestampMs (endMs.getD timestampMs)
  ordered := le_max_left _ _

variable (row : GapRow)

def interval : ℤ × ℤ := (row.startMs, row.endMs)

/-- A part of the gap lies in the range from the start up to, but not including, the stop. -/
def Meets (start stop : ℤ) : Prop := row.startMs < stop ∧ start ≤ row.endMs

end GapRow

/-! ### What a call reads -/

structure CoverageProtocol where
  minimumTradeCoverage : ℚ
  minimumDepthCoverage : ℚ
  minimumDepthValidCoverage : ℚ

/-- The rows of all partitions and the time of the call. -/
structure StatusReading where
  partitions : List PartitionRows
  nowMs : ℤ

namespace StatusReading

variable (reading : StatusReading)

def gaps : List GapRow := reading.partitions.flatMap PartitionRows.gaps

def coverage : List CoverageSegment := reading.partitions.flatMap PartitionRows.coverage

/-- The segments that satisfy the condition, up to the time of the call. -/
def segments (condition : CoverageSegment → Bool) : List (ℤ × ℤ) :=
  (reading.coverage.filter condition).map fun row => (row.startMs, min reading.nowMs row.endMs)

def evaluationStart : ℤ :=
  (reading.coverage.map CoverageSegment.startMs).min?.getD reading.nowMs

def mergedTrade : List (ℤ × ℤ) := merge (reading.segments fun row => row.stream = .trade)

def mergedDepth : List (ℤ × ℤ) := merge (reading.segments fun row => row.stream = .depth)

def mergedValid : List (ℤ × ℤ) :=
  merge (reading.segments fun row => row.stream = .depth ∧ row.sequenceValid = true)

def mergedGaps : List (ℤ × ℤ) :=
  merge (reading.partitions.flatMap fun partition => merge (partition.gaps.map GapRow.interval))

end StatusReading

/-! ### Searches from a hint -/

/-- The interval does not come after `(startMs, 10**18)`. -/
def reachedBy (startMs : ℤ) (interval : ℤ × ℤ) : Bool :=
  interval.1 < startMs ∨ interval.1 = startMs ∧ interval.2 ≤ 10 ^ 18

def overlapMs (startMs endMs : ℤ) (interval : ℤ × ℤ) : ℤ :=
  if max startMs interval.1 < min endMs interval.2
  then min endMs interval.2 - max startMs interval.1 else 0

def fastCovered (merged : List (ℤ × ℤ)) (startMs endMs : ℤ) (hintIdx : ℕ) : ℤ × ℕ :=
  if merged = [] ∨ endMs ≤ startMs then (0, hintIdx)
  else
    let idx := seek (reachedBy startMs) merged hintIdx
    (((window merged idx endMs).map (overlapMs startMs endMs)).sum, idx)

def fastHasGap (mergedGaps : List (ℤ × ℤ)) (startMs endMs : ℤ) (hintIdx : ℕ) : Bool × ℕ :=
  if mergedGaps = [] ∨ endMs ≤ startMs then (false, hintIdx)
  else
    let idx := seek (reachedBy startMs) mergedGaps hintIdx
    ((window mergedGaps idx endMs).any fun interval => startMs ≤ interval.2, idx)

/-! ### Buckets -/

/-- What is found of a closed bucket. -/
structure BucketVerdict where
  startMs : ℤ
  gapOverlap : Bool
  complete : Bool

structure BucketHints where
  gap : ℕ := 0
  trade : ℕ := 0
  depth : ℕ := 0
  valid : ℕ := 0

namespace StatusReading

variable (reading : StatusReading) (protocol : CoverageProtocol) (interval : ℤ)

/-- The covered parts of a bucket are large enough. -/
def Enough (trade depth valid : ℤ) : Prop :=
  protocol.minimumTradeCoverage ≤ (trade : ℚ) / interval ∧
    protocol.minimumDepthCoverage ≤ (depth : ℚ) / interval ∧
    protocol.minimumDepthValidCoverage ≤ (valid : ℚ) / interval

instance (trade depth valid : ℤ) : Decidable (Enough protocol interval trade depth valid) :=
  inferInstanceAs (Decidable (_ ∧ _ ∧ _))

def evaluate : List ℤ → BucketHints → List BucketVerdict
  | [], _ => []
  | start :: rest, hints =>
    let stop := start + interval
    let gap := fastHasGap reading.mergedGaps start stop hints.gap
    let trade := fastCovered reading.mergedTrade start stop hints.trade
    let depth := fastCovered reading.mergedDepth start stop hints.depth
    let valid := fastCovered reading.mergedValid start stop hints.valid
    { startMs := start
      gapOverlap := gap.1
      complete := Enough protocol interval trade.1 depth.1 valid.1 ∧ gap.1 = false } ::
      evaluate rest ⟨gap.2, trade.2, depth.2, valid.2⟩

end StatusReading

/-! ### Partitions -/

/-- A partition as a call finds it. A summary is what an earlier call computed from the rows that it
read. -/
structure FiledPartition extends PartitionRows where
  finalized : Bool := false
  bucketSummary : Option StatusReading := none

namespace FiledPartition

variable (filed : FiledPartition)

def dayStartMs : ℤ := filed.day * 86400000

def dayEndMs : ℤ := filed.dayStartMs + 86400000

/-- The summary of a finalized partition may be taken over. -/
def SummaryValid (summary current : StatusReading) : Prop :=
  filed.finalized = true ∧ (summary.evaluationStart = current.evaluationStart ∨
    summary.evaluationStart ≤ filed.dayStartMs ∧ current.evaluationStart ≤ filed.dayStartMs)

instance (summary current : StatusReading) : Decidable (filed.SummaryValid summary current) :=
  inferInstanceAs (Decidable (_ ∧ (_ ∨ _)))

/-- What the buckets of the partition are counted from. -/
def source (current : StatusReading) : StatusReading :=
  match filed.bucketSummary with
  | some summary => if filed.SummaryValid summary current then summary else current
  | none => current

def starts (source : StatusReading) (interval : ℤ) : List ℤ :=
  let first := max filed.dayStartMs (source.evaluationStart / interval * interval)
  if filed.finalized then stepRange first filed.dayEndMs interval
  else
    let latestClosed := min filed.dayEndMs source.nowMs / interval * interval - interval
    stepRange first (latestClosed + 1) interval

def verdicts (protocol : CoverageProtocol) (current : StatusReading) (interval : ℤ) :
    List BucketVerdict :=
  let source := filed.source current
  source.evaluate protocol interval (filed.starts source interval) {}

end FiledPartition

def readingOf (partitions : List FiledPartition) (nowMs : ℤ) : StatusReading where
  partitions := partitions.map FiledPartition.toPartitionRows
  nowMs := nowMs

def completeBuckets (protocol : CoverageProtocol) (partitions : List FiledPartition) (nowMs : ℤ) :
    List (ℤ × ℤ) :=
  partitions.flatMap fun filed => intervalsMs.flatMap fun interval =>
    ((filed.verdicts protocol (readingOf partitions nowMs) interval).filter
      BucketVerdict.complete).map fun verdict => (interval, verdict.startMs)

/-! ### Searches find what the whole list holds -/

section

variable {merged : List (ℤ × ℤ)} {startMs endMs : ℤ} {hint : ℕ}

theorem reachedBy_sound (interval : ℤ × ℤ) (reached : reachedBy startMs interval = true) :
    interval.1 ≤ startMs := by
  obtain before | ⟨same, -⟩ := of_decide_eq_true reached
  · exact before.le
  · exact same.le

theorem overlapMs_of_before {interval : ℤ × ℤ} (before : interval.2 < startMs) :
    overlapMs startMs endMs interval = 0 :=
  if_neg fun inside => (le_max_left startMs interval.1).not_gt
    ((inside.trans_le (min_le_right _ _)).trans before)

theorem overlapMs_of_after {interval : ℤ × ℤ} (after : endMs ≤ interval.1) :
    overlapMs startMs endMs interval = 0 :=
  if_neg fun inside => (le_max_right startMs interval.1).not_gt
    (inside.trans_le ((min_le_left _ _).trans after))

theorem sum_map_eq_zero {Entry : Type} {entries : List Entry} {value : Entry → ℤ}
    (none : ∀ entry ∈ entries, value entry = 0) : (entries.map value).sum = 0 := by
  rw [List.map_congr_left none]
  simp

theorem fastCovered_spec (separated : Separated merged) (proper : startMs < endMs)
    (behind : Behind merged hint startMs) :
    (fastCovered merged startMs endMs hint).1 = (merged.map (overlapMs startMs endMs)).sum ∧
      Behind merged (fastCovered merged startMs endMs hint).2 startMs := by
  unfold fastCovered
  split_ifs with empty
  · obtain rfl := empty.resolve_right proper.not_ge
    exact ⟨rfl, behind⟩
  · have found := behind_seek separated behind reachedBy_sound
    refine ⟨?_, found⟩
    obtain ⟨before, after, split, early, late⟩ :=
      @outside_window ℤ _ merged _ startMs endMs separated found
    have none_before : (before.map (overlapMs startMs endMs)).sum = 0 :=
      sum_map_eq_zero fun entry member => overlapMs_of_before (early entry member)
    have none_after : (after.map (overlapMs startMs endMs)).sum = 0 :=
      sum_map_eq_zero fun entry member => overlapMs_of_after (late entry member)
    conv_rhs => rw [split, List.map_append, List.map_append, List.sum_append, List.sum_append,
      none_before, none_after, zero_add, add_zero]

theorem fastHasGap_spec (separated : Separated merged) (proper : startMs < endMs)
    (behind : Behind merged hint startMs) :
    ((fastHasGap merged startMs endMs hint).1 = true ↔
        ∃ interval ∈ merged, Touches interval startMs endMs) ∧
      Behind merged (fastHasGap merged startMs endMs hint).2 startMs := by
  unfold fastHasGap
  split_ifs with empty
  · obtain rfl := empty.resolve_right proper.not_ge
    exact ⟨⟨nofun, fun ⟨_, nowhere, _⟩ => nomatch nowhere⟩, behind⟩
  · have found := behind_seek separated behind reachedBy_sound
    refine ⟨?_, found⟩
    obtain ⟨before, after, split, early, late⟩ :=
      @outside_window ℤ _ merged _ startMs endMs separated found
    rw [List.any_eq_true]
    constructor
    · rintro ⟨interval, member, reaches⟩
      have inside : interval ∈ merged := by
        rw [split]
        exact List.mem_append_left _ (List.mem_append_right _ member)
      exact ⟨interval, inside, separated.long interval inside,
        of_decide_eq_true (List.all_eq_true.mp List.all_takeWhile interval member),
        of_decide_eq_true reaches⟩
    · rintro ⟨interval, member, long, starts, reaches⟩
      rw [split, List.append_assoc] at member
      obtain first | member := List.mem_append.mp member
      · exact absurd (early interval first) reaches.not_gt
      · obtain held | last := List.mem_append.mp member
        · exact ⟨interval, held, decide_eq_true reaches⟩
        · exact absurd starts (late interval last).not_gt

end

/-! ### Verdicts without hints -/

namespace StatusReading

variable (reading : StatusReading) (protocol : CoverageProtocol) (interval : ℤ)

/-- How much of a bucket the merged segments cover. -/
def coveredMs (merged : List (ℤ × ℤ)) (start : ℤ) : ℤ :=
  (merged.map (overlapMs start (start + interval))).sum

/-- The streams cover enough of the bucket. -/
def CoveredEnough (start : ℤ) : Prop :=
  Enough protocol interval (coveredMs interval reading.mergedTrade start)
    (coveredMs interval reading.mergedDepth start) (coveredMs interval reading.mergedValid start)

/-- A gap that lasts has a part in the bucket. -/
def LastingGap (start : ℤ) : Prop :=
  ∃ row ∈ reading.gaps, row.startMs < row.endMs ∧ row.Meets start (start + interval)

variable {reading protocol interval} {start : ℤ} {starts : List ℤ} {hints : BucketHints}

theorem touches_mergedGaps (positive : 0 < interval) :
    (∃ gap ∈ reading.mergedGaps, Touches gap start (start + interval)) ↔
      reading.LastingGap interval start := by
  have proper : start < start + interval := lt_add_of_pos_right start positive
  have within (partition : PartitionRows) :
      (∃ gap ∈ merge (partition.gaps.map GapRow.interval), Touches gap start (start + interval)) ↔
        ∃ row ∈ partition.gaps, row.startMs < row.endMs ∧ row.Meets start (start + interval) := by
    rw [touches_merge proper]
    simp only [List.mem_map, exists_exists_and_eq_and]
    rfl
  unfold mergedGaps LastingGap gaps
  rw [touches_merge proper]
  simp only [List.mem_flatMap, ← exists_and_right, and_assoc]
  constructor
  · rintro ⟨gap, partition, stored, member, touches⟩
    obtain ⟨row, inside, facts⟩ := (within partition).mp ⟨gap, member, touches⟩
    exact ⟨row, partition, stored, inside, facts⟩
  · rintro ⟨row, partition, stored, inside, facts⟩
    obtain ⟨gap, member, touches⟩ := (within partition).mpr ⟨row, inside, facts⟩
    exact ⟨gap, partition, stored, member, touches⟩

structure HintsBehind (reading : StatusReading) (hints : BucketHints) (start : ℤ) : Prop where
  gap : Behind reading.mergedGaps hints.gap start
  trade : Behind reading.mergedTrade hints.trade start
  depth : Behind reading.mergedDepth hints.depth start
  valid : Behind reading.mergedValid hints.valid start

theorem HintsBehind.mono {later : ℤ} (behind : HintsBehind reading hints start)
    (after : start ≤ later) : HintsBehind reading hints later :=
  ⟨behind.gap.mono after, behind.trade.mono after, behind.depth.mono after,
    behind.valid.mono after⟩

theorem evaluate_spec (positive : 0 < interval) (ordered : starts.Pairwise (· ≤ ·))
    (behind : ∀ start ∈ starts, HintsBehind reading hints start) :
    (reading.evaluate protocol interval starts hints).map BucketVerdict.startMs = starts ∧
      ∀ verdict ∈ reading.evaluate protocol interval starts hints, verdict.complete = true ↔
        reading.CoveredEnough protocol interval verdict.startMs ∧
          ¬ reading.LastingGap interval verdict.startMs := by
  induction starts generalizing hints with
  | nil => exact ⟨rfl, nofun⟩
  | cons start rest inductionHypothesis =>
    obtain ⟨first, others⟩ := List.pairwise_cons.mp ordered
    have proper : start < start + interval := lt_add_of_pos_right start positive
    have here := behind start List.mem_cons_self
    have gaps : Separated reading.mergedGaps := merge_separated
    have trades : Separated reading.mergedTrade := merge_separated
    have depths : Separated reading.mergedDepth := merge_separated
    have valids : Separated reading.mergedValid := merge_separated
    obtain ⟨found, gap⟩ := fastHasGap_spec gaps proper here.gap
    obtain ⟨tradeMs, trade⟩ := fastCovered_spec trades proper here.trade
    obtain ⟨depthMs, depth⟩ := fastCovered_spec depths proper here.depth
    obtain ⟨validMs, valid⟩ := fastCovered_spec valids proper here.valid
    have advanced : HintsBehind reading ⟨_, _, _, _⟩ start := ⟨gap, trade, depth, valid⟩
    obtain ⟨startsEq, judged⟩ :=
      inductionHypothesis others fun later member => advanced.mono (first later member)
    refine ⟨congrArg (start :: ·) startsEq, ?_⟩
    rintro verdict (_ | ⟨_, member⟩)
    · refine decide_eq_true_iff.trans ?_
      show _ ↔ reading.CoveredEnough protocol interval start ∧ ¬ reading.LastingGap interval start
      rw [tradeMs, depthMs, validMs, ← Bool.not_eq_true, found, touches_mergedGaps positive]
      rfl
    · exact judged verdict member

end StatusReading

/-! ### Buckets of the aggregates -/

theorem stepRange_ordered {first stop step : ℤ} (positive : 0 < step) :
    (stepRange first stop step).Pairwise (· ≤ ·) := by
  unfold stepRange
  rw [List.pairwise_map]
  refine List.pairwise_lt_range.imp fun {earlier later} less => ?_
  have scaled := Int.mul_le_mul_of_nonneg_right (Int.ofNat_le.mpr less.le) positive.le
  omega

/-! ### Complete buckets and gaps -/

theorem intervalsMs_pos {interval : ℤ} (member : interval ∈ intervalsMs) : 0 < interval := by
  simp only [intervalsMs, List.mem_cons, List.not_mem_nil, or_false] at member
  omega

section

variable {protocol : CoverageProtocol} {partitions : List FiledPartition} {nowMs interval start : ℤ}

theorem FiledPartition.starts_ordered {filed : FiledPartition} {source : StatusReading}
    (positive : 0 < interval) : (filed.starts source interval).Pairwise (· ≤ ·) := by
  unfold FiledPartition.starts
  split_ifs <;> exact stepRange_ordered positive

theorem FiledPartition.verdicts_spec (protocol : CoverageProtocol) (filed : FiledPartition)
    {current : StatusReading} (positive : 0 < interval) :
    (filed.verdicts protocol current interval).map BucketVerdict.startMs =
        filed.starts (filed.source current) interval ∧
      ∀ verdict ∈ filed.verdicts protocol current interval, verdict.complete = true ↔
        (filed.source current).CoveredEnough protocol interval verdict.startMs ∧
          ¬ (filed.source current).LastingGap interval verdict.startMs :=
  StatusReading.evaluate_spec positive (starts_ordered positive)
    fun start _ => ⟨behind_zero start, behind_zero start, behind_zero start, behind_zero start⟩

/-- The bucket is one that a partition counts, from what its counts are taken from. -/
structure Counted (partitions : List FiledPartition) (nowMs interval start : ℤ)
    (source : StatusReading) : Prop where
  width : interval ∈ intervalsMs
  filed : ∃ filed ∈ partitions, filed.source (readingOf partitions nowMs) = source ∧
    start ∈ filed.starts source interval

theorem mem_completeBuckets :
    (interval, start) ∈ completeBuckets protocol partitions nowMs ↔
      ∃ source, Counted partitions nowMs interval start source ∧
        source.CoveredEnough protocol interval start ∧ ¬ source.LastingGap interval start := by
  unfold completeBuckets
  simp only [List.mem_flatMap, List.mem_map, List.mem_filter, Prod.mk.injEq]
  constructor
  · rintro ⟨filed, stored, _, inWidths, verdict, ⟨member, complete⟩, rfl, rfl⟩
    obtain ⟨starts, judged⟩ := filed.verdicts_spec protocol (intervalsMs_pos inWidths)
    have counted := starts ▸ List.mem_map.mpr ⟨verdict, member, rfl⟩
    exact ⟨_, ⟨inWidths, filed, stored, rfl, counted⟩, (judged verdict member).mp complete⟩
  · rintro ⟨source, ⟨width, filed, stored, rfl, counted⟩, judgement⟩
    obtain ⟨starts, judged⟩ := filed.verdicts_spec protocol (intervalsMs_pos width)
    rw [← starts] at counted
    obtain ⟨verdict, member, rfl⟩ := List.mem_map.mp counted
    exact ⟨filed, stored, interval, width, verdict, ⟨member, (judged verdict member).mpr judgement⟩,
      rfl, rfl⟩

/-- The count of a bucket leaves the row out: the gap is an instant, or it was recorded after the
summary that the count is taken from. -/
def LeftOut (source : StatusReading) (row : GapRow) : Prop :=
  row.startMs = row.endMs ∨ row ∉ source.gaps

/-- Complete buckets hold no part of any recorded gap exactly when no gap that the counts leave out
has a part in a bucket that is covered enough and free of lasting gaps. -/
theorem complete_buckets_gapless_iff (protocol : CoverageProtocol)
    (partitions : List FiledPartition) (nowMs : ℤ) :
    (∀ interval start, (interval, start) ∈ completeBuckets protocol partitions nowMs →
      ∀ row ∈ (readingOf partitions nowMs).gaps, ¬ row.Meets start (start + interval)) ↔
    ∀ interval start source, Counted partitions nowMs interval start source →
      source.CoveredEnough protocol interval start → ¬ source.LastingGap interval start →
      ∀ row ∈ (readingOf partitions nowMs).gaps, LeftOut source row →
        ¬ row.Meets start (start + interval) := by
  constructor
  · intro gapless interval start source counted enough lasting row member _
    exact gapless interval start (mem_completeBuckets.mpr ⟨source, counted, enough, lasting⟩) row
      member
  · intro free interval start complete row member meets
    obtain ⟨source, counted, enough, lasting⟩ := mem_completeBuckets.mp complete
    refine free interval start source counted enough lasting row member ?_ meets
    by_contra kept
    obtain ⟨long, known⟩ := not_or.mp kept
    exact lasting ⟨row, not_not.mp known, row.ordered.lt_of_ne long, meets⟩

end

def disconnectedPartition : FiledPartition where
  day := 0
  gaps := [.recorded 500 none]
  coverage := [⟨.depth, 0, 2000, true⟩, ⟨.trade, 0, 2000, true⟩]

theorem disconnected_bucket_complete :
    ¬ ∀ interval start,
      (interval, start) ∈ completeBuckets ⟨1, 1, 1⟩ [disconnectedPartition] 2000 →
        ∀ row ∈ (readingOf [disconnectedPartition] 2000).gaps,
          ¬ row.Meets start (start + interval) := by
  intro gapless
  have complete : ((1000, 0) : ℤ × ℤ) ∈ completeBuckets ⟨1, 1, 1⟩ [disconnectedPartition] 2000 := by
    decide +kernel
  exact gapless 1000 0 complete (.recorded 500 none) (List.mem_singleton_self _)
    ⟨by decide, by decide⟩

end QuantAgent.Microstructure
