/-
This file treats finite lists of intervals of a linear order: the merge of intervals that overlap or
touch, and a scan of merged intervals that starts from a hint.

The merge drops intervals of no length and covers the same points as the others. A scan for a range
may begin behind every interval that ends before the range, and where ranges come in order the place
of one scan is a hint for the next. Nothing here names the repository.
-/

import Mathlib

namespace QuantAgent.Intervals

variable {Point : Type*} [LinearOrder Point]

/-! ### Merging -/

/-- Add an interval that starts no earlier than those before; the latest one comes first. -/
def absorb (merged : List (Point × Point)) (interval : Point × Point) : List (Point × Point) :=
  if interval.2 ≤ interval.1 then merged
  else
    match merged with
    | [] => [interval]
    | last :: rest =>
      if interval.1 ≤ last.2 then (last.1, max last.2 interval.2) :: rest
      else interval :: last :: rest

def byStart (intervals : List (Point × Point)) : List (Point × Point) :=
  intervals.insertionSort fun first second => toLex first ≤ toLex second

def merge (intervals : List (Point × Point)) : List (Point × Point) :=
  ((byStart intervals).foldl absorb []).reverse

/-- The point lies in one of the intervals that have a length, ends included. -/
def Covers (intervals : List (Point × Point)) (point : Point) : Prop :=
  ∃ interval ∈ intervals, interval.1 < interval.2 ∧ interval.1 ≤ point ∧ point ≤ interval.2

/-- The intervals have lengths, and each ends before the next one starts. -/
structure Separated (intervals : List (Point × Point)) : Prop where
  long : ∀ interval ∈ intervals, interval.1 < interval.2
  apart : intervals.Pairwise fun earlier later => earlier.2 < later.1

variable {intervals merged : List (Point × Point)} {interval : Point × Point} {point : Point}

theorem mem_byStart : interval ∈ byStart intervals ↔ interval ∈ intervals :=
  List.mem_insertionSort _

theorem byStart_ordered :
    (byStart intervals).Pairwise fun earlier later => earlier.1 ≤ later.1 :=
  (List.pairwise_insertionSort _ _).imp fun below =>
    (Prod.Lex.toLex_le_toLex.mp below).elim le_of_lt fun same => same.1.le

theorem covers_absorb (before : ∀ earlier ∈ merged, earlier.1 ≤ interval.1)
    (long : ∀ earlier ∈ merged, earlier.1 < earlier.2) :
    Covers (absorb merged interval) point ↔ Covers (interval :: merged) point := by
  unfold absorb Covers
  rw [List.exists_mem_cons_iff]
  split_ifs with short
  · exact ⟨Or.inr, fun either => either.resolve_left fun here => short.not_gt here.1⟩
  · cases merged with
    | nil => rw [List.exists_mem_cons_iff]
    | cons last rest =>
      have start := before last List.mem_cons_self
      have length := long last List.mem_cons_self
      rw [not_le] at short
      dsimp only
      split_ifs with touching
      · rw [List.exists_mem_cons_iff, List.exists_mem_cons_iff, ← or_assoc]
        refine or_congr_left ⟨fun ⟨_, low, high⟩ => ?_, fun either => ?_⟩
        · -- a point of the joint interval lies before the end of the earlier one, or in the new one
          by_cases inside : point ≤ last.2
          · exact Or.inr ⟨length, low, inside⟩
          · rw [not_le] at inside
            exact Or.inl ⟨short, touching.trans inside.le,
              (le_max_iff.mp high).resolve_left inside.not_ge⟩
        · obtain ⟨-, low, high⟩ | ⟨-, low, high⟩ := either
          · exact ⟨length.trans_le (le_max_left _ _), start.trans low,
              high.trans (le_max_right _ _)⟩
          · exact ⟨length.trans_le (le_max_left _ _), low, high.trans (le_max_left _ _)⟩
      · rw [List.exists_mem_cons_iff]

/-- Merged intervals, the latest first, none of which starts after the bound. -/
structure Stacked (merged : List (Point × Point)) (bound : Point) : Prop where
  separated : Separated merged.reverse
  before : ∀ interval ∈ merged, interval.1 ≤ bound

theorem Stacked.absorb (stacked : Stacked merged interval.1) :
    Stacked (absorb merged interval) interval.1 := by
  obtain ⟨⟨long, apart⟩, before⟩ := stacked
  unfold Intervals.absorb
  split_ifs with short
  · exact ⟨⟨long, apart⟩, before⟩
  · rw [not_le] at short
    cases merged with
    | nil =>
      refine ⟨⟨?_, List.pairwise_singleton _ _⟩, ?_⟩
      · simpa using short
      · simp
    | cons last rest =>
      simp only [List.mem_reverse, List.pairwise_reverse, List.forall_mem_cons,
        List.pairwise_cons] at long apart before
      dsimp only
      split_ifs with touching
      · refine ⟨⟨?_, ?_⟩, ?_⟩
        · simp only [List.mem_reverse, List.forall_mem_cons]
          exact ⟨long.1.trans_le (le_max_left _ _), long.2⟩
        · simp only [List.pairwise_reverse, List.pairwise_cons]
          exact apart
        · simp only [List.forall_mem_cons]
          exact before
      · rw [not_le] at touching
        refine ⟨⟨?_, ?_⟩, ?_⟩
        · simp only [List.mem_reverse, List.forall_mem_cons]
          exact ⟨short, long⟩
        · simp only [List.pairwise_reverse, List.pairwise_cons, List.forall_mem_cons]
          refine ⟨⟨touching, fun other member => ?_⟩, apart⟩
          exact (apart.1 other member).trans (long.1.trans touching)
        · simp only [List.forall_mem_cons]
          exact ⟨le_rfl, before⟩

theorem stacked_foldl (ordered : intervals.Pairwise fun earlier later => earlier.1 ≤ later.1)
    {bound : Point} (stacked : Stacked merged bound)
    (after : ∀ interval ∈ intervals, bound ≤ interval.1) :
    Separated (intervals.foldl absorb merged).reverse ∧
      (Covers (intervals.foldl absorb merged) point ↔
        Covers intervals point ∨ Covers merged point) := by
  induction intervals generalizing merged bound with
  | nil =>
    refine ⟨stacked.separated, Iff.symm (or_iff_right ?_)⟩
    rintro ⟨_, nowhere, -⟩
    cases nowhere
  | cons interval rest inductionHypothesis =>
    obtain ⟨first, others⟩ := List.pairwise_cons.mp ordered
    have low := after interval List.mem_cons_self
    have before : Stacked merged interval.1 :=
      ⟨stacked.separated, fun earlier member => (stacked.before earlier member).trans low⟩
    obtain ⟨separated, covers⟩ := inductionHypothesis others before.absorb first
    refine ⟨separated, covers.trans ?_⟩
    rw [covers_absorb before.before
      fun earlier member => before.separated.long earlier (List.mem_reverse.mpr member)]
    unfold Covers
    rw [List.exists_mem_cons_iff, List.exists_mem_cons_iff, or_left_comm, or_assoc]

theorem stacked_nil (bound : Point) : Stacked ([] : List (Point × Point)) bound :=
  ⟨⟨nofun, List.Pairwise.nil⟩, nofun⟩

theorem merge_spec :
    Separated (merge intervals) ∧ (Covers (merge intervals) point ↔ Covers intervals point) := by
  have reversed (list : List (Point × Point)) : Covers list.reverse point ↔ Covers list point :=
    exists_congr fun _ => and_congr_left' List.mem_reverse
  have sorted : Covers (byStart intervals) point ↔ Covers intervals point :=
    exists_congr fun _ => and_congr_left' mem_byStart
  unfold merge
  rw [reversed, ← sorted]
  cases ordered : byStart intervals with
  | nil => exact ⟨⟨nofun, List.Pairwise.nil⟩, Iff.rfl⟩
  | cons first rest =>
    have increasing := ordered ▸ @byStart_ordered Point _ intervals
    have after : ∀ interval ∈ first :: rest, first.1 ≤ interval.1 := by
      rw [List.forall_mem_cons]
      exact ⟨le_rfl, (List.pairwise_cons.mp increasing).1⟩
    obtain ⟨separated, covers⟩ : Separated _ ∧
        (Covers _ point ↔ Covers (first :: rest) point ∨ Covers [] point) :=
      stacked_foldl increasing (stacked_nil first.1) after
    refine ⟨separated, covers.trans (or_iff_left ?_)⟩
    rintro ⟨_, nowhere, -⟩
    cases nowhere

theorem merge_separated : Separated (merge intervals) := by
  cases intervals with
  | nil => exact ⟨nofun, List.Pairwise.nil⟩
  | cons first rest => exact (@merge_spec Point _ (first :: rest) first.1).1

theorem covers_merge : Covers (merge intervals) point ↔ Covers intervals point := merge_spec.2

/-! ### Ranges that intervals touch -/

def Touches (interval : Point × Point) (start stop : Point) : Prop :=
  interval.1 < interval.2 ∧ interval.1 < stop ∧ start ≤ interval.2

theorem exists_touches_iff {start stop : Point} (proper : start < stop) :
    (∃ interval ∈ intervals, Touches interval start stop) ↔
      ∃ point, start ≤ point ∧ point < stop ∧ Covers intervals point := by
  constructor
  · rintro ⟨interval, member, long, before, reaches⟩
    exact ⟨max interval.1 start, le_max_right _ _, max_lt before proper, interval, member, long,
      le_max_left _ _, max_le long.le reaches⟩
  · rintro ⟨point, low, high, interval, member, long, before, reaches⟩
    exact ⟨interval, member, long, before.trans_lt high, low.trans reaches⟩

theorem touches_merge {start stop : Point} (proper : start < stop) :
    (∃ interval ∈ merge intervals, Touches interval start stop) ↔
      ∃ interval ∈ intervals, Touches interval start stop := by
  rw [exists_touches_iff proper, exists_touches_iff proper]
  simp only [covers_merge]

/-! ### Scans from a hint -/

def Behind (merged : List (Point × Point)) (place : ℕ) (start : Point) : Prop :=
  ∀ interval ∈ merged.take place, interval.2 < start

theorem Behind.mono {place : ℕ} {start later : Point} (behind : Behind merged place start)
    (after : start ≤ later) : Behind merged place later :=
  fun interval member => (behind interval member).trans_le after

theorem behind_zero (start : Point) : Behind merged 0 start := nofun

def seek (reached : Point × Point → Bool) (merged : List (Point × Point)) (hint : ℕ) : ℕ :=
  hint + ((merged.drop hint).takeWhile reached).length - 1

theorem behind_seek {reached : Point × Point → Bool} {hint : ℕ} {start : Point}
    (separated : Separated merged) (behind : Behind merged hint start)
    (sound : ∀ interval, reached interval = true → interval.1 ≤ start) :
    Behind merged (seek reached merged hint) start := by
  intro interval member
  obtain ⟨place, bound, rfl⟩ := List.getElem_of_mem member
  rw [List.length_take] at bound
  rw [List.getElem_take]
  have inside : place < merged.length := by omega
  by_cases early : place < hint
  · exact behind _ (List.mem_take_iff_getElem.mpr ⟨place, by omega, rfl⟩)
  · -- the next interval is reached, and starts after this one ends
    have next : place + 1 - hint < ((merged.drop hint).takeWhile reached).length := by
      unfold seek at bound
      omega
    have room : place + 1 < merged.length := by
      have shorter := (List.takeWhile_prefix reached (l := merged.drop hint)).length_le
      rw [List.length_drop] at shorter
      omega
    have held : reached merged[place + 1] = true := by
      have taken := List.all_takeWhile (p := reached) (l := merged.drop hint)
      have passes := List.all_eq_true.mp taken _ (List.getElem_mem next)
      rw [(List.takeWhile_prefix reached).getElem next, List.getElem_drop] at passes
      convert passes using 3
      omega
    exact (List.pairwise_iff_getElem.mp separated.apart place (place + 1) inside room
      (Nat.lt_succ_self _)).trans_le (sound _ held)

def window (merged : List (Point × Point)) (place : ℕ) (stop : Point) : List (Point × Point) :=
  (merged.drop place).takeWhile fun interval => interval.1 < stop

theorem Separated.ordered (separated : Separated merged) :
    merged.Pairwise fun earlier later => earlier.1 ≤ later.1 :=
  separated.apart.imp_of_mem fun first _ apart => ((separated.long _ first).trans apart).le

theorem outside_window {place : ℕ} {start stop : Point} (separated : Separated merged)
    (behind : Behind merged place start) :
    ∃ before after, merged = before ++ window merged place stop ++ after ∧
      (∀ interval ∈ before, interval.2 < start) ∧ ∀ interval ∈ after, stop ≤ interval.1 := by
  refine ⟨merged.take place, (merged.drop place).dropWhile fun interval => interval.1 < stop, ?_,
    behind, ?_⟩
  · unfold window
    rw [List.append_assoc, List.takeWhile_append_dropWhile, List.take_append_drop]
  · have ordered : (merged.drop place).Pairwise fun earlier later => earlier.1 ≤ later.1 :=
      separated.ordered.sublist (List.drop_sublist _ _)
    cases rest : (merged.drop place).dropWhile fun interval => interval.1 < stop with
    | nil => nofun
    | cons first others =>
      have stops : stop ≤ first.1 := by
        have failed := List.head?_dropWhile_not
          (fun interval : Point × Point => decide (interval.1 < stop)) (merged.drop place)
        rw [rest] at failed
        simpa using failed
      have tail : (first :: others).Pairwise fun earlier later => earlier.1 ≤ later.1 :=
        rest ▸ ordered.sublist (List.dropWhile_sublist _)
      rw [List.forall_mem_cons]
      exact ⟨stops, fun other member =>
        stops.trans ((List.pairwise_cons.mp tail).1 other member)⟩

end QuantAgent.Intervals
