/-
This file embeds the local order book that a recorder keeps of an exchange: the book is built from
a REST snapshot and the buffered diff events that bridge it, and follows the events that come
after.

The exchange's own book is a sequence of level updates under increasing ids, and a diff event
reports the updates from its first id to its final id. Events may be lost, repeated and reordered
on the way; the local book is then either the exchange's book at its update id or empty.
-/

import Mathlib

namespace QuantAgent.Microstructure

inductive Side where
  | bid
  | ask
  deriving DecidableEq

/-- A price and its quantity. -/
abbrev Level := ℚ × ℚ

/-- Quantities under their prices. -/
abbrev Levels := AList fun _ : ℚ => ℚ

structure DepthEvent where
  firstUpdateId : Int
  finalUpdateId : Int
  previousFinalUpdateId : Int
  bids : List Level
  asks : List Level

structure Snapshot where
  lastUpdateId : Int
  bids : List Level
  asks : List Level

/-- The message of a `SequenceGap`. -/
abbrev SequenceGap := String

structure LocalOrderBook where
  bids : Levels := ∅
  asks : Levels := ∅
  updateId : Option Int := none

/-! ### The local book -/

/-- One entry of `_apply_levels`. -/
def writeLevel (levels : Levels) (level : Level) : Levels :=
  if level.2 = 0 then levels.erase level.1 else levels.insert level.1 level.2

def writeLevels (levels : Levels) (updates : List Level) : Levels := updates.foldl writeLevel levels

def snapshotLevels (entries : List Level) : Levels :=
  (entries.filter (·.2 ≠ 0)).foldl (fun levels level => levels.insert level.1 level.2) ∅

namespace LocalOrderBook

def applyLevels (book : LocalOrderBook) (event : DepthEvent) : LocalOrderBook where
  bids := writeLevels book.bids event.bids
  asks := writeLevels book.asks event.asks
  updateId := some event.finalUpdateId

def apply (book : LocalOrderBook) (event : DepthEvent) :
    LocalOrderBook × Except SequenceGap Bool :=
  match book.updateId with
  | none => (book, .error "book not bootstrapped")
  | some updateId =>
    if event.finalUpdateId ≤ updateId then (book, .ok false)
    else if event.previousFinalUpdateId ≠ updateId then ({}, .error "pu continuity failure")
    else (book.applyLevels event, .ok true)

/-- The loop over the buffered events after the first. -/
def applyAll : LocalOrderBook → List DepthEvent → ℕ → LocalOrderBook × Except SequenceGap ℕ
  | book, [], applied => (book, .ok applied)
  | book, event :: rest, applied =>
    match book.apply event with
    | (after, .ok done) => after.applyAll rest (applied + done.toNat)
    | (after, .error gap) => (after, .error gap)

def fromSnapshot (snapshot : Snapshot) : LocalOrderBook where
  bids := snapshotLevels snapshot.bids
  asks := snapshotLevels snapshot.asks
  updateId := some snapshot.lastUpdateId

def bootstrap (book : LocalOrderBook) (snapshot : Snapshot) (buffered : List DepthEvent) :
    LocalOrderBook × Except SequenceGap ℕ :=
  match buffered.filter (snapshot.lastUpdateId ≤ ·.finalUpdateId) with
  | [] => (book, .error "no diff event bridges REST snapshot")
  | first :: rest =>
    if first.firstUpdateId ≤ snapshot.lastUpdateId ∧
        snapshot.lastUpdateId ≤ first.finalUpdateId then
      ((fromSnapshot snapshot).applyLevels first).applyAll rest 1
    else (book, .error "no diff event bridges REST snapshot")

def levels (book : LocalOrderBook) : Side → Levels
  | .bid => book.bids
  | .ask => book.asks

end LocalOrderBook

def DepthEvent.levels (event : DepthEvent) : Side → List Level
  | .bid => event.bids
  | .ask => event.asks

def Snapshot.levels (snapshot : Snapshot) : Side → List Level
  | .bid => snapshot.bids
  | .ask => snapshot.asks

/-! ### The exchange -/

/-- An update of one level of the exchange's book. -/
structure LevelUpdate where
  id : Int
  side : Side
  price : ℚ
  quantity : ℚ

/-- The updates that one diff event reports. -/
structure Group where
  first : Int
  final : Int
  updates : List LevelUpdate

/-- Groups follow each other: each covers ids beyond those of the group before, and its updates
stand in the order of their ids. -/
def Chained : Int → List Group → Prop
  | _, [] => True
  | previous, group :: rest =>
    previous < group.first ∧ group.first ≤ group.final ∧
      (∀ update ∈ group.updates, group.first ≤ update.id ∧ update.id ≤ group.final) ∧
      (group.updates.map LevelUpdate.id).Pairwise (· < ·) ∧ Chained group.final rest

/-- The exchange: the quantity of each level at some id, and the groups of updates since. -/
structure Exchange where
  opening : Side → ℚ → ℚ
  openingId : Int
  groups : List Group
  chained : Chained openingId groups

def sideLevels (side : Side) (updates : List LevelUpdate) : List Level :=
  (updates.filter (·.side = side)).map fun update => (update.price, update.quantity)

def lastQuantity (levels : List Level) (price : ℚ) : Option ℚ :=
  (levels.reverse.find? (·.1 = price)).map Prod.snd

def listed (quantity : ℚ) : Option ℚ := if quantity = 0 then none else some quantity

def lastId (openingId : Int) (groups : List Group) : Int :=
  groups.foldl (fun _ group => group.final) openingId

namespace Exchange

variable (exchange : Exchange)

def updatesTo (id : Int) : List LevelUpdate :=
  (exchange.groups.flatMap Group.updates).filter (·.id ≤ id)

def quantityAt (id : Int) (side : Side) (price : ℚ) : ℚ :=
  (lastQuantity (sideLevels side (exchange.updatesTo id)) price).getD (exchange.opening side price)

end Exchange

structure DepthEvent.Reports (event : DepthEvent) (previous : Int) (group : Group) : Prop where
  first : event.firstUpdateId = group.first
  final : event.finalUpdateId = group.final
  previousFinal : event.previousFinalUpdateId = previous
  levels : ∀ side price,
    lastQuantity (event.levels side) price = lastQuantity (sideLevels side group.updates) price

namespace Exchange

variable (exchange : Exchange)

def Sends (event : DepthEvent) : Prop :=
  ∃ before group after, exchange.groups = before ++ group :: after ∧
    event.Reports (lastId exchange.openingId before) group

/-- The snapshot is the full book at its id. -/
def Shows (snapshot : Snapshot) : Prop :=
  ∀ side price quantity, quantity ≠ 0 → ((price, quantity) ∈ snapshot.levels side ↔
    exchange.quantityAt snapshot.lastUpdateId side price = quantity)

def Agrees (id : Int) (book : LocalOrderBook) : Prop :=
  ∀ side price, (book.levels side).lookup price = listed (exchange.quantityAt id side price)

end Exchange

/-! ### Levels -/

variable {side : Side} {price : ℚ}

theorem lookup_writeLevel (levels : Levels) (level : Level) :
    (writeLevel levels level).lookup price =
      if level.1 = price then listed level.2 else levels.lookup price := by
  unfold writeLevel listed
  by_cases same : level.1 = price
  · rw [if_pos same, ← same]
    split_ifs with zero
    · exact AList.lookup_erase level.1 levels
    · exact AList.lookup_insert levels
  · rw [if_neg same]
    split_ifs with zero
    · exact AList.lookup_erase_ne (Ne.symm same)
    · exact AList.lookup_insert_ne (Ne.symm same)

theorem lastQuantity_append (first second : List Level) :
    lastQuantity (first ++ second) price =
      (lastQuantity second price).or (lastQuantity first price) := by
  unfold lastQuantity
  rw [List.reverse_append, List.find?_append, Option.map_or]

theorem lastQuantity_single (level : Level) :
    lastQuantity [level] price = if level.1 = price then some level.2 else none := by
  unfold lastQuantity
  rw [List.reverse_singleton]
  by_cases same : level.1 = price
  · simp [same]
  · simp [same]

theorem lookup_writeLevels (levels : Levels) (updates : List Level) :
    (writeLevels levels updates).lookup price =
      ((lastQuantity updates price).map listed).getD (levels.lookup price) := by
  induction updates using List.reverseRecOn with
  | nil => rfl
  | append_singleton updates level inductionHypothesis =>
    unfold writeLevels at inductionHypothesis ⊢
    rw [List.foldl_append, List.foldl_cons, List.foldl_nil, lookup_writeLevel,
      inductionHypothesis, lastQuantity_append, lastQuantity_single]
    split_ifs with same
    · rfl
    · rfl

theorem lookup_snapshotLevels {entries : List Level} {quantity : ℚ}
    (full : ∀ other, other ≠ 0 → ((price, other) ∈ entries ↔ quantity = other)) :
    (snapshotLevels entries).lookup price = listed quantity := by
  have only : ∀ entry ∈ entries.filter (·.2 ≠ 0), entry.1 = price → entry.2 = quantity := by
    rintro ⟨_, other⟩ member rfl
    obtain ⟨member, positive⟩ := List.mem_filter.mp member
    exact ((full other (by simpa using positive)).mp member).symm
  have some : quantity ≠ 0 → ∃ entry ∈ entries.filter (·.2 ≠ 0), entry.1 = price := by
    intro positive
    refine ⟨(price, quantity), List.mem_filter.mpr ⟨(full quantity positive).mpr rfl, ?_⟩, rfl⟩
    simpa using positive
  have written : ∀ (kept : List Level) (levels : Levels),
      (∀ entry ∈ kept, entry.1 = price → entry.2 = quantity) →
      (kept.foldl (fun levels level => levels.insert level.1 level.2) levels).lookup price =
        if ∃ entry ∈ kept, entry.1 = price then .some quantity else levels.lookup price := by
    intro kept
    induction kept with
    | nil => intro levels _; simp
    | cons entry rest inductionHypothesis =>
      intro levels each
      rw [List.foldl_cons, inductionHypothesis _ fun other member => each other (.tail _ member)]
      by_cases later : ∃ other ∈ rest, other.1 = price
      · obtain ⟨other, member, same⟩ := later
        rw [if_pos ⟨other, member, same⟩, if_pos ⟨other, .tail _ member, same⟩]
      · rw [if_neg later]
        by_cases same : entry.1 = price
        · rw [if_pos ⟨entry, .head _, same⟩, ← same, AList.lookup_insert,
            each entry (.head _) same]
        · rw [AList.lookup_insert_ne (Ne.symm same), if_neg]
          rintro ⟨other, member, found⟩
          rcases List.mem_cons.mp member with rfl | member
          · exact same found
          · exact later ⟨other, member, found⟩
  unfold snapshotLevels listed
  rw [written _ _ only]
  split_ifs with found zero
  · obtain ⟨entry, member, same⟩ := found
    have positive := (List.mem_filter.mp member).2
    rw [only entry member same] at positive
    exact absurd zero (by simpa using positive)
  · rfl
  · rfl
  · exact absurd (some ‹_›) found

theorem levels_applyLevels (book : LocalOrderBook) (event : DepthEvent) :
    (book.applyLevels event).levels side = writeLevels (book.levels side) (event.levels side) := by
  cases side <;> rfl

theorem levels_fromSnapshot (snapshot : Snapshot) :
    (LocalOrderBook.fromSnapshot snapshot).levels side =
      snapshotLevels (snapshot.levels side) := by
  cases side <;> rfl

/-! ### Groups in the order of their ids -/

theorem sideLevels_append (first second : List LevelUpdate) :
    sideLevels side (first ++ second) = sideLevels side first ++ sideLevels side second := by
  unfold sideLevels
  rw [List.filter_append, List.map_append]

theorem Chained.append {openingId : Int} {before after : List Group}
    (chained : Chained openingId (before ++ after)) :
    Chained (lastId openingId before) after ∧
      ∀ group ∈ before, ∀ update ∈ group.updates, update.id ≤ lastId openingId before := by
  induction before generalizing openingId with
  | nil => exact ⟨chained, fun _ member => nomatch member⟩
  | cons head before inductionHypothesis =>
    obtain ⟨_, _, within, _, rest⟩ := chained
    obtain ⟨later, earlier⟩ := inductionHypothesis rest
    refine ⟨later, fun group member update inside => ?_⟩
    rcases List.mem_cons.mp member with rfl | member
    · exact (within update inside).2.trans (lastId_ge rest)
    · exact earlier group member update inside
where
  lastId_ge {openingId : Int} {before after : List Group}
      (chained : Chained openingId (before ++ after)) : openingId ≤ lastId openingId before := by
    induction before generalizing openingId with
    | nil => exact le_refl _
    | cons head before inductionHypothesis =>
      obtain ⟨first, final, _, _, rest⟩ := chained
      exact (first.le.trans final).trans (inductionHypothesis rest)

theorem Chained.beyond {openingId : Int} {groups : List Group}
    (chained : Chained openingId groups) :
    ∀ group ∈ groups, ∀ update ∈ group.updates, openingId < update.id := by
  induction groups generalizing openingId with
  | nil => exact fun _ member => nomatch member
  | cons head groups inductionHypothesis =>
    obtain ⟨first, final, within, _, rest⟩ := chained
    intro group member update inside
    rcases List.mem_cons.mp member with rfl | member
    · exact first.trans_le (within update inside).1
    · exact (first.trans_le final).trans (inductionHypothesis rest group member update inside)

theorem filter_le_append_filter_lt {updates : List LevelUpdate}
    (ordered : (updates.map LevelUpdate.id).Pairwise (· < ·)) (id : Int) :
    updates = updates.filter (·.id ≤ id) ++ updates.filter (id < ·.id) := by
  induction updates with
  | nil => rfl
  | cons head rest inductionHypothesis =>
    obtain ⟨first, others⟩ := List.pairwise_cons.mp ordered
    by_cases early : head.id ≤ id
    · rw [List.filter_cons_of_pos (by simpa using early),
        List.filter_cons_of_neg (by simpa using early), List.cons_append,
        ← inductionHypothesis others]
    · have late : ∀ update ∈ rest, id < update.id := fun update member =>
        (not_le.mp early).trans (first update.id (List.mem_map_of_mem member))
      rw [List.filter_eq_nil_iff.mpr fun update member => ?_, List.nil_append,
        List.filter_eq_self.mpr fun update member => ?_]
      · rcases List.mem_cons.mp member with rfl | member
        · simpa using early
        · simpa using late update member
      · rcases List.mem_cons.mp member with rfl | member
        · simpa using early
        · simpa using late update member

variable {snapshot : Snapshot}

namespace Exchange

variable {exchange : Exchange} {event : DepthEvent} {group : Group} {before after : List Group}
  {id : Int} {book : LocalOrderBook}

theorem updatesTo_eq (split : exchange.groups = before ++ group :: after)
    (low : lastId exchange.openingId before ≤ id) (high : id ≤ group.final) :
    exchange.updatesTo id =
      before.flatMap Group.updates ++ group.updates.filter (·.id ≤ id) := by
  have chained := exchange.chained
  rw [split] at chained
  obtain ⟨⟨_, _, _, _, rest⟩, earlier⟩ := chained.append
  have kept : (before.flatMap Group.updates).filter (·.id ≤ id) =
      before.flatMap Group.updates := by
    refine List.filter_eq_self.mpr fun update member => ?_
    obtain ⟨other, among, inside⟩ := List.mem_flatMap.mp member
    simpa using (earlier other among update inside).trans low
  have dropped : (after.flatMap Group.updates).filter (·.id ≤ id) = [] := by
    refine List.filter_eq_nil_iff.mpr fun update member => ?_
    obtain ⟨other, among, inside⟩ := List.mem_flatMap.mp member
    simpa using high.trans_lt (rest.beyond other among update inside)
  unfold updatesTo
  rw [split, List.flatMap_append, List.flatMap_cons, List.filter_append, List.filter_append, kept,
    dropped, List.append_nil]

/-- The updates of a group lead from the book at any id it covers to the book at its end: those
that the book has already are quantities, and name the same ones again. -/
theorem quantityAt_final (split : exchange.groups = before ++ group :: after)
    (low : lastId exchange.openingId before ≤ id) (high : id ≤ group.final) (side : Side)
    (price : ℚ) :
    exchange.quantityAt group.final side price =
      (lastQuantity (sideLevels side group.updates) price).getD
        (exchange.quantityAt id side price) := by
  have chained := exchange.chained
  rw [split] at chained
  obtain ⟨⟨_, _, within, ordered, _⟩, _⟩ := chained.append
  have whole : group.updates.filter (·.id ≤ group.final) = group.updates :=
    List.filter_eq_self.mpr fun update member => by simpa using (within update member).2
  have halves := filter_le_append_filter_lt ordered id
  have names : lastQuantity (sideLevels side group.updates) price =
      (lastQuantity (sideLevels side (group.updates.filter (id < ·.id))) price).or
        (lastQuantity (sideLevels side (group.updates.filter (·.id ≤ id))) price) := by
    rw [← lastQuantity_append, ← sideLevels_append, ← halves]
  unfold quantityAt
  rw [updatesTo_eq split (low.trans high) le_rfl, updatesTo_eq split low high, whole,
    sideLevels_append, sideLevels_append, lastQuantity_append, lastQuantity_append, names]
  generalize lastQuantity (sideLevels side (group.updates.filter (id < ·.id))) price = late
  generalize lastQuantity (sideLevels side (group.updates.filter (·.id ≤ id))) price = early
  cases late with
  | some quantity => rfl
  | none =>
    cases early with
    | some quantity => rfl
    | none => rfl

theorem Agrees.applyLevels (agrees : exchange.Agrees id book)
    (split : exchange.groups = before ++ group :: after)
    (reports : event.Reports (lastId exchange.openingId before) group)
    (low : lastId exchange.openingId before ≤ id) (high : id ≤ group.final) :
    exchange.Agrees event.finalUpdateId (book.applyLevels event) := by
  intro side price
  rw [reports.final, levels_applyLevels, lookup_writeLevels, reports.levels, agrees side price,
    quantityAt_final split low high]
  cases lastQuantity (sideLevels side group.updates) price with
  | some quantity => rfl
  | none => rfl

theorem agrees_fromSnapshot (shows : exchange.Shows snapshot) :
    exchange.Agrees snapshot.lastUpdateId (LocalOrderBook.fromSnapshot snapshot) := by
  intro side price
  rw [levels_fromSnapshot]
  exact lookup_snapshotLevels fun quantity positive => shows side price quantity positive

def Faithful (exchange : Exchange) (book : LocalOrderBook) : Prop :=
  match book.updateId with
  | none => book = {}
  | some id => exchange.Agrees id book

/-! ### What a call leaves -/

theorem faithful_apply (faithful : exchange.Faithful book) (sent : exchange.Sends event) :
    exchange.Faithful (book.apply event).1 := by
  unfold LocalOrderBook.apply
  unfold Faithful at faithful
  cases state : book.updateId with
  | none => simpa only [Faithful, state] using faithful
  | some current =>
    rw [state] at faithful
    obtain ⟨before, group, after, split, reports⟩ := sent
    dsimp only
    split_ifs with old broken
    · simpa only [Faithful, state] using faithful
    · rfl
    · have previous : lastId exchange.openingId before = current :=
        reports.previousFinal.symm.trans (not_not.mp broken)
      refine Agrees.applyLevels faithful split reports previous.le ?_
      rw [← reports.final]
      exact (not_le.mp old).le

theorem faithful_applyAll {events : List DepthEvent} {applied : ℕ}
    (faithful : exchange.Faithful book) (sent : ∀ event ∈ events, exchange.Sends event) :
    exchange.Faithful (book.applyAll events applied).1 := by
  induction events generalizing book applied with
  | nil => exact faithful
  | cons event rest inductionHypothesis =>
    have next := faithful_apply faithful (sent event (.head _))
    unfold LocalOrderBook.applyAll
    cases outcome : book.apply event with
    | mk later result =>
      rw [outcome] at next
      cases result with
      | ok done => exact inductionHypothesis next fun other member => sent other (.tail _ member)
      | error gap => exact next

theorem faithful_bootstrap {buffered : List DepthEvent}
    (faithful : exchange.Faithful book) (shows : exchange.Shows snapshot)
    (sent : ∀ event ∈ buffered, exchange.Sends event) :
    exchange.Faithful (book.bootstrap snapshot buffered).1 := by
  unfold LocalOrderBook.bootstrap
  split
  · exact faithful
  · rename_i first rest found
    have among : ∀ event ∈ first :: rest, exchange.Sends event := fun event member =>
      sent event (List.mem_of_mem_filter (by rw [found]; exact member))
    split_ifs with bridges
    · obtain ⟨before, group, after, split, reports⟩ := among first (.head _)
      have chained := exchange.chained
      rw [split] at chained
      obtain ⟨⟨begins, _⟩, _⟩ := chained.append
      have started : exchange.Faithful ((LocalOrderBook.fromSnapshot snapshot).applyLevels first) :=
        (agrees_fromSnapshot shows).applyLevels split reports
          (begins.le.trans (reports.first.symm.le.trans bridges.1))
          (bridges.2.trans reports.final.le)
      exact faithful_applyAll started fun event member => among event (.tail _ member)
    · exact faithful

end Exchange

/-! ### Gaps -/

namespace LocalOrderBook

variable {book : LocalOrderBook} {event : DepthEvent}

theorem apply_of_none (fresh : book.updateId = none) :
    book.apply event = (book, .error "book not bootstrapped") := by
  unfold apply
  rw [fresh]

/-- A bootstrapped book is emptied by an event that raises a gap, and stays bootstrapped by one
that does not. -/
theorem apply_cases {current : Int} (state : book.updateId = some current) :
    (∃ done, (book.apply event).2 = .ok done ∧ (book.apply event).1.updateId ≠ none) ∨
      book.apply event = ({}, .error "pu continuity failure") := by
  unfold apply
  rw [state]
  dsimp only
  split_ifs with old broken
  · exact .inl ⟨false, rfl, by rw [state]; exact Option.some_ne_none current⟩
  · exact .inr rfl
  · exact .inl ⟨true, rfl, Option.some_ne_none _⟩

theorem applyAll_cases {events : List DepthEvent} {applied : ℕ} (current : book.updateId ≠ none) :
    (∃ count, (book.applyAll events applied).2 = .ok count ∧
        (book.applyAll events applied).1.updateId ≠ none) ∨
      book.applyAll events applied = ({}, .error "pu continuity failure") := by
  induction events generalizing book applied with
  | nil => exact .inl ⟨applied, rfl, current⟩
  | cons event rest inductionHypothesis =>
    obtain ⟨id, state⟩ := Option.ne_none_iff_exists'.mp current
    unfold applyAll
    rcases apply_cases state with ⟨done, outcome, bootstrapped⟩ | gap
    · rw [show book.apply event = ((book.apply event).1, .ok done) from
        Prod.ext rfl outcome]
      exact inductionHypothesis bootstrapped
    · rw [gap]
      exact .inr rfl

/-- A bootstrap succeeds, finds no bridge and leaves the book, or finds a gap and empties it. -/
theorem bootstrap_cases {buffered : List DepthEvent} :
    (∃ count, (book.bootstrap snapshot buffered).2 = .ok count ∧
        (book.bootstrap snapshot buffered).1.updateId ≠ none) ∨
      book.bootstrap snapshot buffered =
        (book, .error "no diff event bridges REST snapshot") ∨
      book.bootstrap snapshot buffered = ({}, .error "pu continuity failure") := by
  unfold bootstrap
  split
  · exact .inr (.inl rfl)
  · split_ifs with bridges
    · have bootstrapped (first : DepthEvent) :
          ((fromSnapshot snapshot).applyLevels first).updateId ≠ none := Option.some_ne_none _
      rcases applyAll_cases (bootstrapped _) with started | gap
      · exact .inl started
      · exact .inr (.inr gap)
    · exact .inr (.inl rfl)

def applyEach (book : LocalOrderBook) (events : List DepthEvent) : LocalOrderBook :=
  events.foldl (fun book event => (book.apply event).1) book

theorem applyEach_empty (events : List DepthEvent) :
    ({} : LocalOrderBook).applyEach events = {} := by
  induction events with
  | nil => rfl
  | cons event rest inductionHypothesis => exact inductionHypothesis

end LocalOrderBook

/-! ### Runs of calls -/

inductive Call where
  | bootstrap (snapshot : Snapshot) (buffered : List DepthEvent)
  | apply (event : DepthEvent)

/-- The gap that an outcome raises. -/
def gapOf {Value : Type} : Except SequenceGap Value → Option SequenceGap
  | .ok _ => none
  | .error gap => some gap

namespace LocalOrderBook

def perform (book : LocalOrderBook) : Call → LocalOrderBook × Option SequenceGap
  | .bootstrap snapshot buffered =>
    ((book.bootstrap snapshot buffered).1, gapOf (book.bootstrap snapshot buffered).2)
  | .apply event => ((book.apply event).1, gapOf (book.apply event).2)

theorem perform_cases {book : LocalOrderBook} {call : Call}
    (fresh : book.updateId = none → book = {}) :
    ((book.perform call).2 = none ∧ (book.perform call).1.updateId ≠ none) ∨
      (∃ snapshot buffered, call = .bootstrap snapshot buffered ∧
        book.perform call = (book, some "no diff event bridges REST snapshot")) ∨
      ∃ gap, book.perform call = ({}, some gap) := by
  cases call with
  | bootstrap snapshot buffered =>
    rcases book.bootstrap_cases with ⟨count, outcome, current⟩ | kept | emptied
    · exact .inl ⟨congrArg gapOf outcome, current⟩
    · exact .inr (.inl ⟨snapshot, buffered, rfl,
        congrArg (fun result => (result.1, gapOf result.2)) kept⟩)
    · exact .inr (.inr ⟨_, congrArg (fun result => (result.1, gapOf result.2)) emptied⟩)
  | apply event =>
    cases state : book.updateId with
    | none =>
      have refused := congrArg (fun result => (result.1, gapOf result.2))
        (@apply_of_none book event state)
      exact .inr (.inr ⟨"book not bootstrapped", refused.trans (by rw [fresh state]; rfl)⟩)
    | some id =>
      rcases apply_cases state with ⟨done, outcome, current⟩ | emptied
      · exact .inl ⟨congrArg gapOf outcome, current⟩
      · exact .inr (.inr ⟨_, congrArg (fun result => (result.1, gapOf result.2)) emptied⟩)

def after (calls : List Call) : LocalOrderBook :=
  calls.foldl (fun book call => (book.perform call).1) {}

end LocalOrderBook

namespace Exchange

variable {exchange : Exchange} {book : LocalOrderBook} {call : Call}

/-- The call passes on what the exchange sends: diff events, in any order and number, and
snapshots of its book. -/
def Genuine (exchange : Exchange) : Call → Prop
  | .bootstrap snapshot buffered =>
    exchange.Shows snapshot ∧ ∀ event ∈ buffered, exchange.Sends event
  | .apply event => exchange.Sends event

theorem faithful_perform (faithful : exchange.Faithful book) (genuine : exchange.Genuine call) :
    exchange.Faithful (book.perform call).1 := by
  cases call with
  | bootstrap snapshot buffered => exact faithful_bootstrap faithful genuine.1 genuine.2
  | apply event => exact faithful_apply faithful genuine

theorem faithful_after {calls : List Call} (genuine : ∀ call ∈ calls, exchange.Genuine call) :
    exchange.Faithful (LocalOrderBook.after calls) := by
  induction calls using List.reverseRecOn with
  | nil => rfl
  | append_singleton calls call inductionHypothesis =>
    unfold LocalOrderBook.after at inductionHypothesis ⊢
    rw [List.foldl_append]
    exact faithful_perform
      (inductionHypothesis fun other member => genuine other (List.mem_append_left _ member))
      (genuine call (List.mem_append_right _ (.head _)))

theorem Faithful.empty (faithful : exchange.Faithful book) (fresh : book.updateId = none) :
    book = {} := by
  unfold Faithful at faithful
  rwa [fresh] at faithful

/-- After any genuine calls, a call that raises no gap leaves the exchange's book at the update
id. One that raises a gap leaves the book as it was when nothing bridges its snapshot, and else an
empty book, which refuses every event until the next bootstrap. -/
theorem local_book_faithful (exchange : Exchange) (calls : List Call) (call : Call)
    (genuine : ∀ other ∈ calls ++ [call], exchange.Genuine other) :
    let book := LocalOrderBook.after calls
    ((book.perform call).2 = none → ∃ id, (book.perform call).1.updateId = some id ∧
      exchange.Agrees id (book.perform call).1) ∧
    ∀ gap, (book.perform call).2 = some gap →
      (gap = "no diff event bridges REST snapshot" ∧ (book.perform call).1 = book ∧
        ∃ snapshot buffered, call = .bootstrap snapshot buffered) ∨
      (book.perform call).1 = {} ∧ ∀ events event,
        ((book.perform call).1.applyEach events).apply event =
          ({}, .error "book not bootstrapped") := by
  intro book
  have before : exchange.Faithful book :=
    faithful_after fun other member => genuine other (List.mem_append_left _ member)
  have after : exchange.Faithful (book.perform call).1 :=
    faithful_perform before (genuine call (List.mem_append_right _ (.head _)))
  rcases book.perform_cases before.empty with ⟨passed, current⟩ | unbridged | ⟨raised, emptied⟩
  · obtain ⟨id, state⟩ := Option.ne_none_iff_exists'.mp current
    unfold Faithful at after
    rw [state] at after
    refine ⟨fun _ => ⟨id, state, after⟩, fun gap failed => ?_⟩
    rw [passed] at failed
    cases failed
  · obtain ⟨snapshot, buffered, same, kept⟩ := unbridged
    rw [kept]
    refine ⟨nofun, fun gap failed => .inl ?_⟩
    exact ⟨(Option.some.inj failed).symm, rfl, snapshot, buffered, same⟩
  · rw [emptied]
    refine ⟨nofun, fun gap failed => .inr ⟨rfl, fun events event => ?_⟩⟩
    rw [LocalOrderBook.applyEach_empty]
    rfl

end Exchange

section Sample

def oneEventExchange : Exchange where
  opening := fun _ _ => 0
  openingId := 0
  groups := [⟨1, 2, [⟨1, .bid, 100, 5⟩, ⟨2, .ask, 101, 3⟩]⟩]
  chained := by
    refine ⟨by decide, by decide, ?_, by decide, trivial⟩
    intro update member
    fin_cases member <;> decide

def insideSnapshot : Snapshot := ⟨1, [(100, 5)], []⟩

def bridgingEvent : DepthEvent := ⟨1, 2, 0, [(100, 5)], [(101, 3)]⟩

theorem oneEventExchange_shows : oneEventExchange.Shows insideSnapshot := by
  intro side price quantity positive
  cases side with
  | bid =>
    have now : oneEventExchange.quantityAt 1 .bid price = if 100 = price then 5 else 0 := by
      show (lastQuantity [((100 : ℚ), (5 : ℚ))] price).getD 0 = _
      rw [lastQuantity_single]
      split_ifs <;> rfl
    show (price, quantity) ∈ [((100 : ℚ), (5 : ℚ))] ↔ oneEventExchange.quantityAt 1 .bid price = _
    rw [now, List.mem_singleton, Prod.mk.injEq]
    constructor
    · rintro ⟨rfl, rfl⟩
      exact if_pos rfl
    · intro same
      split_ifs at same with named
      · exact ⟨named.symm, same.symm⟩
      · exact absurd same.symm positive
  | ask =>
    show (price, quantity) ∈ [] ↔ (0 : ℚ) = quantity
    exact ⟨nofun, fun same => absurd same.symm positive⟩

theorem oneEventExchange_sends : oneEventExchange.Sends bridgingEvent := by
  refine ⟨[], _, [], rfl, rfl, rfl, rfl, fun side price => ?_⟩
  cases side <;> rfl

/-- The event that holds the snapshot's id completes the book. -/
theorem local_book_faithful_inside :
    ∃ id, (LocalOrderBook.perform {} (.bootstrap insideSnapshot [bridgingEvent])).1.updateId =
        some id ∧
      oneEventExchange.Agrees id
        (LocalOrderBook.perform {} (.bootstrap insideSnapshot [bridgingEvent])).1 :=
  (Exchange.local_book_faithful oneEventExchange []
    (.bootstrap insideSnapshot [bridgingEvent]) (by
      intro call member
      obtain rfl := List.mem_singleton.mp member
      refine ⟨oneEventExchange_shows, fun event among => ?_⟩
      obtain rfl := List.mem_singleton.mp among
      exact oneEventExchange_sends)).1 (by rfl)

end Sample

end QuantAgent.Microstructure
