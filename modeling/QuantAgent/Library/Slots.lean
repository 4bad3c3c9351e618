/-
This file reads a list of items at the slots of a regular grid. A slot is filled when exactly one
item has its place, and a run of slots is filled when each of them is. The items that lie in a run
fill it exactly when they are as many as its slots and, sorted by place, each lies a step behind the
one before it. A run of runs is filled exactly when every run is. Nothing here names the repository.
-/

import Mathlib

namespace QuantAgent.Slots

/-! ### The slots of a grid -/

def slots (step : ℤ) : ℕ → ℤ → List ℤ
  | 0, _ => []
  | count + 1, start => start :: slots step count (start + step)

theorem length_slots (step : ℤ) (count : ℕ) (start : ℤ) :
    (slots step count start).length = count := by
  induction count generalizing start with
  | zero => rfl
  | succ count inductionHypothesis =>
    unfold slots
    rw [List.length_cons, inductionHypothesis]

theorem get_slots (step : ℤ) {count : ℕ} {start : ℤ} (index : Fin (slots step count start).length) :
    (slots step count start).get index = start + (index : ℕ) * step := by
  induction count generalizing start with
  | zero => exact absurd index.isLt (Nat.not_lt_zero _)
  | succ count inductionHypothesis =>
    obtain ⟨index, inside⟩ := index
    cases index with
    | zero => simp [slots]
    | succ index =>
      have later := inductionHypothesis ⟨index, Nat.lt_of_succ_lt_succ inside⟩
      refine later.trans ?_
      push_cast
      ring

theorem mem_slots {step : ℤ} {count : ℕ} {start time : ℤ} :
    time ∈ slots step count start ↔ ∃ index < count, time = start + (index : ℕ) * step := by
  induction count generalizing start with
  | zero =>
    unfold slots
    simp
  | succ count inductionHypothesis =>
    unfold slots
    rw [List.mem_cons, inductionHypothesis]
    constructor
    · rintro (rfl | ⟨index, bound, rfl⟩)
      · exact ⟨0, Nat.succ_pos count, by simp⟩
      · exact ⟨index + 1, Nat.succ_lt_succ bound, by push_cast; ring⟩
    · rintro ⟨index, bound, rfl⟩
      cases index with
      | zero => exact .inl (by simp)
      | succ index => exact .inr ⟨index, Nat.lt_of_succ_lt_succ bound, by push_cast; ring⟩

theorem slots_eq_map (step : ℤ) (count : ℕ) (start : ℤ) :
    slots step count start = (List.range count).map fun index : ℕ => start + index * step := by
  refine List.ext_get ?_ fun index inside _ => ?_
  · rw [length_slots, List.length_map, List.length_range]
  · rw [get_slots]
    simp

theorem slots_pairwise {step : ℤ} (positive : 0 < step) (count : ℕ) (start : ℤ) :
    (slots step count start).Pairwise (· < ·) := by
  induction count generalizing start with
  | zero => exact List.Pairwise.nil
  | succ count inductionHypothesis =>
    refine List.Pairwise.cons (fun time member => ?_) (inductionHypothesis (start + step))
    obtain ⟨index, -, rfl⟩ := mem_slots.mp member
    have later : 0 ≤ (index : ℤ) * step := by positivity
    omega

theorem slots_nodup {step : ℤ} (positive : 0 < step) (count : ℕ) (start : ℤ) :
    (slots step count start).Nodup :=
  (slots_pairwise positive count start).imp ne_of_lt

theorem slots_add (step : ℤ) (first second : ℕ) (start : ℤ) :
    slots step (first + second) start =
      slots step first start ++ slots step second (start + first * step) := by
  induction first generalizing start with
  | zero => simp [slots]
  | succ first inductionHypothesis =>
    rw [Nat.succ_add]
    have shifted : start + step + first * step = start + ((first + 1 : ℕ) : ℤ) * step := by
      push_cast
      ring
    conv_rhs => rw [slots, List.cons_append, ← shifted, ← inductionHypothesis]
    rfl

theorem slots_mul (step : ℤ) (outer inner : ℕ) (start : ℤ) :
    slots step (outer * inner) start =
      (slots (inner * step) outer start).flatMap (slots step inner) := by
  induction outer generalizing start with
  | zero => simp [slots]
  | succ outer inductionHypothesis =>
    rw [Nat.succ_mul, Nat.add_comm, slots_add, inductionHypothesis]
    conv_rhs => unfold slots
    rw [List.flatMap_cons]

variable {rest : List ℤ}

/-- Of increasing times on the grid, the second is a step or more after the first, and the rest are
on the grid of the second. -/
theorem next_aligned {step first next : ℤ} (increasing : (first :: next :: rest).Pairwise (· < ·))
    (aligned : ∀ time ∈ next :: rest, step ∣ time - first) :
    step ≤ next - first ∧ ∀ time ∈ rest, step ∣ time - next := by
  have apart : step ∣ next - first := aligned next List.mem_cons_self
  refine ⟨Int.le_of_dvd (sub_pos.mpr (List.rel_of_pairwise_cons increasing List.mem_cons_self))
    apart, fun time member => ?_⟩
  have both := dvd_sub (aligned time (List.mem_cons_of_mem next member)) apart
  rwa [sub_sub_sub_cancel_right] at both

theorem span_le {step first : ℤ} (increasing : (first :: rest).Pairwise (· < ·))
    (aligned : ∀ time ∈ rest, step ∣ time - first) :
    first + rest.length * step ≤ rest.getLast?.getD first := by
  induction rest generalizing first with
  | nil => simp
  | cons next rest inductionHypothesis =>
    obtain ⟨ahead, alignedRest⟩ := next_aligned increasing aligned
    have tail := inductionHypothesis increasing.of_cons alignedRest
    rw [List.getLast?_cons, Option.getD_some, List.length_cons]
    refine le_trans ?_ tail
    push_cast
    linarith

theorem eq_slots_of_span {step first : ℤ} (increasing : (first :: rest).Pairwise (· < ·))
    (aligned : ∀ time ∈ rest, step ∣ time - first)
    (span : rest.getLast?.getD first ≤ first + rest.length * step) :
    first :: rest = slots step (rest.length + 1) first := by
  induction rest generalizing first with
  | nil => rfl
  | cons next rest inductionHypothesis =>
    obtain ⟨ahead, alignedRest⟩ := next_aligned increasing aligned
    have tail := span_le increasing.of_cons alignedRest
    rw [List.getLast?_cons, Option.getD_some, List.length_cons] at span
    push_cast at span
    obtain rfl : next = first + step := by linarith
    exact congrArg (List.cons first)
      (inductionHypothesis increasing.of_cons alignedRest (by linarith))

/-! ### Filled slots -/

variable {Item : Type} (place : Item → ℤ)

def sole (items : List Item) (time : ℤ) : Option Item :=
  match items.filter fun item => place item = time with
  | [item] => some item
  | _ => none

def filled (items : List Item) (times : List ℤ) : Option (List Item) :=
  times.mapM (sole place items)

variable {place} {items : List Item}

variable {time : ℤ} {item : Item}

theorem sole_eq_some_iff :
    sole place items time = some item ↔
      (items.filter fun other => place other = time) = [item] := by
  unfold sole
  split
  next found same => rw [same, Option.some.injEq, List.cons.injEq, and_iff_left rfl]
  next other => exact ⟨fun found => (nomatch found), fun same => absurd same (other item)⟩

theorem place_of_sole (found : sole place items time = some item) :
    item ∈ items ∧ place item = time := by
  have member : item ∈ items.filter fun other => place other = time := by
    rw [sole_eq_some_iff.mp found]
    exact List.mem_singleton_self item
  obtain ⟨inItems, here⟩ := List.mem_filter.mp member
  exact ⟨inItems, of_decide_eq_true here⟩

theorem sole_of_nodup (distinct : (items.map place).Nodup) (member : item ∈ items) :
    sole place items (place item) = some item := by
  rw [sole_eq_some_iff]
  induction items with
  | nil => exact absurd member List.not_mem_nil
  | cons head rest inductionHypothesis =>
    obtain ⟨absent, distinctRest⟩ := List.nodup_cons.mp distinct
    rcases List.mem_cons.mp member with rfl | inRest
    · rw [List.filter_cons, if_pos (decide_eq_true rfl), List.filter_eq_nil_iff.mpr]
      intro other inRest same
      exact absent ((of_decide_eq_true same) ▸ List.mem_map_of_mem inRest)
    · rw [List.filter_cons_of_neg, inductionHypothesis distinctRest inRest]
      intro same
      exact absent ((of_decide_eq_true same) ▸ List.mem_map_of_mem inRest)

theorem sole_perm {others : List Item} (same : items.Perm others) (time : ℤ) :
    sole place items time = sole place others time := by
  refine Option.ext fun item => ?_
  have filtered := same.filter fun other => decide (place other = time)
  rw [sole_eq_some_iff, sole_eq_some_iff]
  constructor
  · intro one
    rw [one] at filtered
    exact List.perm_singleton.mp filtered.symm
  · intro one
    rw [one] at filtered
    exact List.perm_singleton.mp filtered

/-- What is left out elsewhere does not change what has a place. -/
theorem sole_filter {kept : Item → Bool} (inside : ∀ item, place item = time → kept item = true) :
    sole place (items.filter kept) time = sole place items time := by
  unfold sole
  have same : (items.filter kept).filter (fun item => decide (place item = time)) =
      items.filter fun item => decide (place item = time) := by
    rw [List.filter_filter]
    refine List.filter_congr fun item _ => ?_
    by_cases here : place item = time
    · rw [inside item here, Bool.and_true]
    · rw [decide_eq_false here, Bool.false_and]
  rw [same]

variable {times : List ℤ} {found : List Item}

theorem filled_eq_some_iff :
    filled place items times = some found ↔
      List.Forall₂ (fun time item => sole place items time = some item) times found := by
  unfold filled
  induction times generalizing found with
  | nil =>
    rw [List.mapM_nil, List.forall₂_nil_left_iff]
    exact ⟨fun same => (Option.some.inj same).symm, fun same => congrArg some same.symm⟩
  | cons time times inductionHypothesis =>
    rw [List.mapM_cons, List.forall₂_cons_left_iff]
    simp only [Option.bind_eq_bind, Option.bind_eq_some_iff, Option.pure_def, Option.some.injEq,
      inductionHypothesis]
    constructor
    · rintro ⟨item, here, rest, later, rfl⟩
      exact ⟨item, rest, here, later, rfl⟩
    · rintro ⟨item, rest, here, later, rfl⟩
      exact ⟨item, here, rest, later, rfl⟩

theorem map_place_of_filled (filling : filled place items times = some found) :
    found.map place = times := by
  have placed := filled_eq_some_iff.mp filling
  induction placed with
  | nil => rfl
  | cons here _ inductionHypothesis =>
    rw [List.map_cons, (place_of_sole here).2, inductionHypothesis (filled_eq_some_iff.mpr ‹_›)]

theorem sole_of_filled (filling : filled place items times = some found) :
    ∀ item ∈ found, sole place items (place item) = some item := by
  have placed := filled_eq_some_iff.mp filling
  rw [← map_place_of_filled filling, List.forall₂_map_left_iff, List.forall₂_same] at placed
  exact placed

theorem filled_congr {others : List Item}
    (same : ∀ time ∈ times, sole place items time = sole place others time) :
    filled place items times = filled place others times := by
  unfold filled
  induction times with
  | nil => rfl
  | cons time times inductionHypothesis =>
    rw [List.mapM_cons, List.mapM_cons, same time List.mem_cons_self,
      inductionHypothesis fun later member => same later (List.mem_cons_of_mem time member)]

/-- A run of runs is filled exactly when every run is. -/
theorem filled_flatMap {Group : Type} (times : Group → List ℤ) (groups : List Group) :
    filled place items (groups.flatMap times) =
      (groups.mapM fun group => filled place items (times group)).map List.flatten := by
  unfold filled
  induction groups with
  | nil => rfl
  | cons group groups inductionHypothesis =>
    rw [List.flatMap_cons, List.mapM_append, inductionHypothesis, List.mapM_cons]
    cases (times group).mapM (sole place items) with
    | none => rfl
    | some found =>
      cases groups.mapM fun group => (times group).mapM (sole place items) with
      | none => rfl
      | some later => rfl

/-! ### The items of a run, sorted -/

variable {step : ℤ} {start : ℤ} {count : ℕ} {sorted : List Item}

theorem map_place_of_spaced {first : Item} {rest : List Item}
    (spaced : (first :: rest).IsChain fun previous current =>
      place current - place previous = step) :
    (first :: rest).map place = slots step (rest.length + 1) (place first) := by
  induction rest generalizing first with
  | nil => rfl
  | cons next rest inductionHypothesis =>
    obtain ⟨behind, tail⟩ := List.isChain_cons_cons.mp spaced
    have later : place first + step = place next := by omega
    rw [List.map_cons, inductionHypothesis tail, List.length_cons]
    conv_rhs => unfold slots
    rw [later]

theorem spaced_of_map_place {items : List Item}
    (placed : items.map place = slots step count start) :
    items.IsChain fun previous current => place current - place previous = step := by
  induction items generalizing count start with
  | nil => exact List.isChain_nil
  | cons first rest inductionHypothesis =>
    cases count with
    | zero => exact nomatch placed
    | succ count =>
      obtain ⟨here, placedRest⟩ := List.cons.inj placed
      have tail := inductionHypothesis placedRest
      cases rest with
      | nil => exact List.isChain_singleton first
      | cons next rest =>
        cases count with
        | zero => exact nomatch placedRest
        | succ count =>
          have after := (List.cons.inj placedRest).1
          exact List.isChain_cons_cons.mpr ⟨by omega, tail⟩

variable (positive : 0 < step)
  (inside : ∀ item ∈ items, ∃ index < count, place item = start + (index : ℕ) * step)

include positive inside

theorem map_place_eq_slots (same : sorted.Perm items) (enough : items.length = count)
    (spaced : sorted.IsChain fun previous current => place current - place previous = step) :
    sorted.map place = slots step count start := by
  cases sorted with
  | nil =>
    have none : count = 0 := by rw [← enough, ← same.length_eq, List.length_nil]
    rw [none]
    rfl
  | cons first rest =>
    have whole : count = rest.length + 1 := by rw [← enough, ← same.length_eq, List.length_cons]
    have placed := map_place_of_spaced spaced
    -- The last slot still lies in the run, so the first item is at its first slot.
    have last : place first + (rest.length : ℕ) * step ∈ (first :: rest).map place := by
      rw [placed]
      exact mem_slots.mpr ⟨rest.length, Nat.lt_succ_self _, rfl⟩
    obtain ⟨item, member, atLast⟩ := List.mem_map.mp last
    obtain ⟨index, bound, lastPlace⟩ := inside item (same.subset member)
    obtain ⟨offset, -, firstPlace⟩ := inside first (same.subset List.mem_cons_self)
    have shifted : ((offset : ℤ) + rest.length) * step = index * step := by
      rw [lastPlace, firstPlace] at atLast
      linarith
    have steps := mul_right_cancel₀ positive.ne' shifted
    obtain rfl : offset = 0 := by omega
    rw [placed, whole, firstPlace]
    simp

theorem filled_perm (filling : filled place items (slots step count start) = some found) :
    found.Perm items := by
  classical
  have placed := map_place_of_filled filling
  have inFound : ∀ item ∈ items, item ∈ found ∧
      (items.filter fun other => place other = place item) = [item] := by
    intro item member
    obtain ⟨index, bound, here⟩ := inside item member
    have slot : place item ∈ found.map place := by
      rw [placed]
      exact mem_slots.mpr ⟨index, bound, here⟩
    obtain ⟨only, inFound, samePlace⟩ := List.mem_map.mp slot
    have one := sole_eq_some_iff.mp (sole_of_filled filling only inFound)
    rw [samePlace] at one
    -- The slot is filled by one item, and this one is at it.
    have self : item ∈ items.filter fun other => place other = place item :=
      List.mem_filter.mpr ⟨member, decide_eq_true rfl⟩
    rw [one, List.mem_singleton] at self
    rw [self]
    exact ⟨inFound, samePlace ▸ one⟩
  have distinct : items.Nodup := by
    refine List.nodup_iff_count_le_one.mpr fun item => ?_
    by_cases member : item ∈ items
    · rw [← List.count_filter (p := fun other => place other = place item) (by simp),
        (inFound item member).2]
      simp
    · rw [List.count_eq_zero_of_not_mem member]
      exact Nat.zero_le 1
  have distinctFound : found.Nodup :=
    List.Nodup.of_map place (placed ▸ slots_nodup positive count start)
  refine (List.perm_ext_iff_of_nodup distinctFound distinct).mpr fun item => ⟨fun member => ?_,
    fun member => (inFound item member).1⟩
  exact (place_of_sole (sole_of_filled filling item member)).1

theorem filled_eq_some_sorted_iff (same : sorted.Perm items) :
    filled place items (slots step count start) = some sorted ↔
      items.length = count ∧
        sorted.IsChain fun previous current => place current - place previous = step := by
  constructor
  · intro filling
    have placed := map_place_of_filled filling
    refine ⟨?_, spaced_of_map_place placed⟩
    rw [← same.length_eq, ← List.length_map (f := place), placed, length_slots]
  · rintro ⟨enough, spaced⟩
    have placed := map_place_eq_slots positive inside same enough spaced
    have distinct : (sorted.map place).Nodup := placed ▸ slots_nodup positive count start
    rw [filled_eq_some_iff, ← placed, List.forall₂_map_left_iff, List.forall₂_same]
    intro item member
    rw [← sole_perm same]
    exact sole_of_nodup distinct member

theorem filled_eq_ite (same : sorted.Perm items)
    (ordered : sorted.Pairwise fun first second => place first ≤ place second) :
    filled place items (slots step count start) =
      if items.length = count ∧
          sorted.IsChain fun previous current => place current - place previous = step
      then some sorted else none := by
  split_ifs with complete
  · exact (filled_eq_some_sorted_iff positive inside same).mpr complete
  · refine Option.eq_none_iff_forall_ne_some.mpr fun found filling => complete ?_
    have permuted : found.Perm sorted := (filled_perm positive inside filling).trans same.symm
    have placed := map_place_of_filled filling
    have increasing : found.Pairwise fun first second => place first < place second := by
      rw [← List.pairwise_map, placed]
      exact slots_pairwise positive count start
    -- Both lists are ordered by place, and no two items of the one share a place.
    have distinct : (sorted.map place).Nodup :=
      (permuted.map place).nodup_iff.mp (placed ▸ slots_nodup positive count start)
    have equal : found = sorted := by
      refine permuted.eq_of_pairwise (fun first second inFound inSorted le ge => ?_)
        (increasing.imp le_of_lt) ordered
      exact List.inj_on_of_nodup_map distinct (permuted.subset inFound) inSorted (le_antisymm le ge)
    rw [equal] at filling
    exact (filled_eq_some_sorted_iff positive inside same).mp filling

end QuantAgent.Slots
