/-
This file follows the orders of the simulated backend through any calls. Every row belongs to an
intent of the calls, as its entry or as its stop, and both stand or neither does; the stop protects
what the last completed call left to protect.
-/

import QuantAgent.Execution.DryRun

namespace QuantAgent.Execution.DryRun

open OrderTable Table

variable {digest : Digest}

/-! ### Names -/

theorem toList_firstCharacters (count : ℕ) (text : String) :
    (firstCharacters count text).toList = text.toList.take count := by
  unfold firstCharacters
  exact String.toList_ofList

theorem ValidIntent.intentId_eq (intent : ValidIntent digest) :
    ∃ digits, intent.intentId = "intent_" ++ digits :=
  ⟨_, congrArg Prod.fst intent.identity⟩

theorem ValidIntent.clientOrderId_eq (intent : ValidIntent digest) :
    ∃ digits : List Char, digits.length = 16 ∧
      intent.clientOrderId.toList = "cuid_v1_".toList ++ digits := by
  have named : intent.clientOrderId = _ := congrArg (fun names => names.2.2) intent.identity
  unfold canonicalExecutionIdentity at named
  rw [named, String.toList_append, toList_firstCharacters]
  refine ⟨_, ?_, rfl⟩
  rw [List.length_take, digest.length]
  rfl

theorem simOrderId_injective {intent other : TradeIntent}
    (same : simOrderId intent = simOrderId other) : intent.intentId = other.intentId := by
  have lists := congrArg String.toList same
  unfold simOrderId at lists
  rw [String.toList_append, String.toList_append] at lists
  exact String.toList_injective (List.append_cancel_left lists)

theorem simStopId_injective {intent other : TradeIntent}
    (same : simStopId intent = simStopId other) : intent.intentId = other.intentId := by
  have lists := congrArg String.toList same
  unfold simStopId at lists
  rw [String.toList_append, String.toList_append] at lists
  exact String.toList_injective (List.append_cancel_left lists)

theorem simOrderId_ne_simStopId (intent other : ValidIntent digest) :
    simOrderId intent.toTradeIntent ≠ simStopId other.toTradeIntent := by
  obtain ⟨digits, named⟩ := intent.intentId_eq
  intro same
  have fifth := congrArg (fun text : String => text.toList[4]?) same
  unfold simOrderId simStopId at fifth
  rw [named, String.toList_append, String.toList_append, String.toList_append] at fifth
  have entry : "sim-".toList = ['s', 'i', 'm', '-'] := rfl
  have named : "intent_".toList = ['i', 'n', 't', 'e', 'n', 't', '_'] := rfl
  have stop : "sim-stop-".toList = ['s', 'i', 'm', '-', 's', 't', 'o', 'p', '-'] := rfl
  rw [entry, named, stop] at fifth
  simp at fifth

/-! ### Rows -/

def NamesStop (intent : TradeIntent) (clientOrderId : String) : Prop :=
  ∃ rest, clientOrderId.toList =
    "bqa-stop-".toList ++ (intent.clientOrderId.toList.take 12 ++ rest)

theorem namesStop_submitted (intent : TradeIntent) :
    NamesStop intent (submittedStopClientId intent) := by
  refine ⟨(intent.clientOrderId.toList.take 16).drop 12, ?_⟩
  unfold submittedStopClientId
  rw [String.toList_append, toList_firstCharacters]
  have split := List.take_append_drop 12 (intent.clientOrderId.toList.take 16)
  rw [List.take_take] at split
  exact congrArg _ split.symm

theorem namesStop_reconciled (intent : TradeIntent) (quantity : ℚ) :
    NamesStop intent (reconciledStopClientId intent quantity) := by
  refine ⟨"-".toList ++ (scaledQuantity quantity).toList, ?_⟩
  unfold reconciledStopClientId
  rw [String.toList_append, String.toList_append, String.toList_append, toList_firstCharacters]
  simp only [List.append_assoc]

variable {intent : TradeIntent}

theorem namesStop_ne_clientOrderId {clientOrderId : String} (names : NamesStop intent clientOrderId)
    (other : ValidIntent digest) :
    clientOrderId ≠ other.clientOrderId := by
  obtain ⟨rest, list⟩ := names
  obtain ⟨digits, -, named⟩ := other.clientOrderId_eq
  rintro rfl
  have first := congrArg (fun characters => characters[0]?) (list.symm.trans named)
  have stop : "bqa-stop-".toList = ['b', 'q', 'a', '-', 's', 't', 'o', 'p', '-'] := rfl
  have entry : "cuid_v1_".toList = ['c', 'u', 'i', 'd', '_', 'v', '1', '_'] := rfl
  rw [stop, entry] at first
  simp at first

/-- Stops of one name belong to intents whose client ids agree in their first twelve characters. -/
theorem namesStop_prefix {intent other : ValidIntent digest} {clientOrderId : String}
    (names : NamesStop intent.toTradeIntent clientOrderId)
    (also : NamesStop other.toTradeIntent clientOrderId) :
    intent.clientOrderId.toList.take 12 = other.clientOrderId.toList.take 12 := by
  obtain ⟨rest, list⟩ := names
  obtain ⟨otherRest, otherList⟩ := also
  obtain ⟨digits, length, named⟩ := intent.clientOrderId_eq
  obtain ⟨otherDigits, otherLength, otherNamed⟩ := other.clientOrderId_eq
  have same := List.append_cancel_left (list.symm.trans otherList)
  refine (List.append_inj same ?_).1
  rw [named, otherNamed, List.length_take, List.length_take, List.length_append,
    List.length_append, length, otherLength]

structure IsEntry (intent : TradeIntent) (row : OrderRow) : Prop where
  orderId : row.orderId = simOrderId intent
  intentId : row.intentId = intent.intentId
  clientOrderId : row.clientOrderId = intent.clientOrderId
  unprotective : row.isProtective = false
  filled : row.status = .filled

structure IsStop (intent : TradeIntent) (row : OrderRow) : Prop where
  orderId : row.orderId = simStopId intent
  intentId : row.intentId = intent.intentId
  names : NamesStop intent row.clientOrderId
  protective : row.isProtective = true

/-- The stop works for the whole of a positive quantity, and not at all otherwise. -/
def Protects (stop : OrderRow) (target : ℚ) : Prop :=
  if 0 < target then stop.status = .new ∧ stop.requestedQty = target else stop.status = .canceled

/-- Intents are told apart by their ids, and by their client ids. -/
def DistinctIntents (intents : List (ValidIntent digest)) : Prop :=
  ∀ intent ∈ intents, ∀ other ∈ intents,
    intent.intentId = other.intentId ∨ intent.clientOrderId = other.clientOrderId → intent = other

instance (intents : List (ValidIntent digest)) : Decidable (DistinctIntents intents) := by
  unfold DistinctIntents
  infer_instance

structure Kept (intents : List (ValidIntent digest)) (world : World) : Prop where
  known : ∀ orderId row, world.orders.lookup orderId = some row → row.orderId = orderId ∧
    ∃ intent ∈ intents, IsEntry intent.toTradeIntent row ∨ IsStop intent.toTradeIntent row
  guarded : ∀ intent ∈ intents, ∀ entry,
    world.orders.lookup (simOrderId intent.toTradeIntent) = some entry →
      ∃ stop target, world.orders.lookup (simStopId intent.toTradeIntent) = some stop ∧
        world.targets.lookup intent.intentId = some target ∧ Protects stop target
  entered : ∀ intent ∈ intents, ∀ stop,
    world.orders.lookup (simStopId intent.toTradeIntent) = some stop →
      (world.orders.lookup (simOrderId intent.toTradeIntent)).isSome

theorem kept_empty (intents : List (ValidIntent digest)) : Kept intents {} where
  known := fun orderId row found => by cases found
  guarded := fun intent member entry found => by cases found
  entered := fun intent member stop found => by cases found

/-! ### Queries -/

variable {stop : OrderRow}

section Queries

variable {intents : List (ValidIntent digest)} {world : World} {intent : ValidIntent digest}

variable {row : OrderRow}

section

variable (kept : Kept intents world)
  (distinct : DistinctIntents intents)
  (member : intent ∈ intents)

include kept distinct member

theorem Kept.entry_of_lookup
    (found : world.orders.lookup (simOrderId intent.toTradeIntent) = some row) :
    IsEntry intent.toTradeIntent row := by
  obtain ⟨named, owner, owned, entry | stop⟩ := kept.known _ _ found
  · have same : simOrderId owner.toTradeIntent = simOrderId intent.toTradeIntent :=
      entry.orderId.symm.trans named
    rw [distinct intent member owner owned (.inl (simOrderId_injective same).symm)]
    exact entry
  · have same : simStopId owner.toTradeIntent = simOrderId intent.toTradeIntent :=
      stop.orderId.symm.trans named
    exact absurd same.symm (simOrderId_ne_simStopId intent owner)

theorem Kept.stop_of_lookup
    (found : world.orders.lookup (simStopId intent.toTradeIntent) = some row) :
    IsStop intent.toTradeIntent row := by
  obtain ⟨named, owner, owned, entry | stop⟩ := kept.known _ _ found
  · have same : simOrderId owner.toTradeIntent = simStopId intent.toTradeIntent :=
      entry.orderId.symm.trans named
    exact absurd same (simOrderId_ne_simStopId owner intent)
  · have same : simStopId owner.toTradeIntent = simStopId intent.toTradeIntent :=
      stop.orderId.symm.trans named
    rw [distinct intent member owner owned (.inl (simStopId_injective same).symm)]
    exact stop

theorem Kept.lookup_of_clientOrderId
    (stored : row ∈ world.orders.rows) (named : row.clientOrderId = intent.clientOrderId) :
    world.orders.lookup (simOrderId intent.toTradeIntent) = some row := by
  obtain ⟨orderId, found⟩ := mem_rows.mp stored
  obtain ⟨same, owner, owned, entry | stop⟩ := kept.known _ _ found
  · have owns := distinct intent member owner owned
      (.inr (named.symm.trans entry.clientOrderId))
    rw [owns, ← entry.orderId, same]
    exact found
  · exact absurd named (namesStop_ne_clientOrderId stop.names intent)

theorem Kept.byClientId_eq_some (found : byClientId world.orders intent.clientOrderId = some row) :
    world.orders.lookup (simOrderId intent.toTradeIntent) = some row := by
  have named : row.clientOrderId = intent.clientOrderId := by simpa using List.find?_some found
  exact kept.lookup_of_clientOrderId distinct member (List.mem_of_find?_eq_some found) named

theorem Kept.byClientId_eq_none (absent : byClientId world.orders intent.clientOrderId = none) :
    world.orders.lookup (simOrderId intent.toTradeIntent) = none ∧
      world.orders.lookup (simStopId intent.toTradeIntent) = none := by
  have noEntry : world.orders.lookup (simOrderId intent.toTradeIntent) = none := by
    by_contra present
    obtain ⟨row, found⟩ := Option.ne_none_iff_exists'.mp present
    have named := (kept.entry_of_lookup distinct member found).clientOrderId
    have misses := List.find?_eq_none.mp absent row (mem_rows_of_lookup found)
    exact misses (by simpa using named)
  refine ⟨noEntry, ?_⟩
  by_contra present
  obtain ⟨stop, found⟩ := Option.ne_none_iff_exists'.mp present
  have entered := kept.entered intent member stop found
  rw [noEntry] at entered
  cases entered

theorem Kept.protectiveRows_eq
    (found : world.orders.lookup (simStopId intent.toTradeIntent) = some stop) :
    protectiveRows world.orders intent.intentId = [stop] := by
  have shape := kept.stop_of_lookup distinct member found
  refine filter_rows_eq_singleton (fun key row stored => (kept.known key row stored).1)
    found (by simp [shape.intentId, shape.protective]) ?_
  intro key row stored protective
  have protects : row.intentId = intent.intentId ∧ row.isProtective = true := by
    simpa using protective
  obtain ⟨named, owner, owned, entry | other⟩ := kept.known key row stored
  · rw [entry.unprotective] at protects
    cases protects.2
  · have owns := distinct intent member owner owned
      (.inl (protects.1.symm.trans other.intentId))
    rw [← named, other.orderId, owns]

end

end Queries

/-! ### What a call does -/

variable {orders after : OrderTable}

theorem insertOrder_eq_ok {row : OrderRow} :
    insertOrder orders row = .ok after ↔ row.orderId ∉ orders ∧
      (∀ stored ∈ orders.rows, stored.clientOrderId ≠ row.clientOrderId) ∧
      after = orders.insert row.orderId row := by
  unfold insertOrder
  rw [refuse_bind_eq_ok, refuse_bind_eq_ok]
  push Not
  refine and_congr_right fun _ => and_congr_right fun _ => ?_
  exact ⟨fun same => (Except.ok.inj same).symm, fun same => congrArg Except.ok same.symm⟩

variable {nowMs : Int}

theorem submitIntent_eq_ok {report : ExecutionReport}
    (ran : submitIntent orders intent nowMs = .ok (after, report)) :
    ((byClientId orders intent.clientOrderId).isSome ∧ after = orders) ∨
    (byClientId orders intent.clientOrderId = none ∧
      after = (orders.insert (simOrderId intent) (entryRow intent nowMs)).insert (simStopId intent)
        (stopRow intent (submittedStopClientId intent) intent.quantity nowMs)) := by
  unfold submitIntent at ran
  cases found : byClientId orders intent.clientOrderId with
  | some row =>
    rw [found] at ran
    cases ran
    exact .inl ⟨rfl, rfl⟩
  | none =>
    rw [found] at ran
    dsimp only at ran
    rw [bind_eq_ok] at ran
    obtain ⟨entered, stored, ran⟩ := ran
    rw [bind_eq_ok] at ran
    obtain ⟨guarded, alsoStored, built⟩ := ran
    cases built
    obtain ⟨-, -, rfl⟩ := insertOrder_eq_ok.mp stored
    obtain ⟨-, -, rfl⟩ := insertOrder_eq_ok.mp alsoStored
    exact .inr ⟨rfl, rfl⟩

theorem fitStop_eq_ok {target : ℚ} {stopId : Option String}
    (only : protectiveRows orders intent.intentId = [stop])
    (found : orders.lookup stop.orderId = some stop) (shape : IsStop intent stop)
    (state : stop.status = .new ∨ stop.status = .canceled)
    (ran : fitStop orders intent target nowMs = .ok (after, stopId)) :
    ∃ fitted, Replaced orders after stop.orderId stop fitted ∧ IsStop intent fitted ∧
      Protects fitted target := by
  unfold fitStop at ran
  rw [only] at ran
  dsimp only [List.head?] at ran
  unfold Protects
  split_ifs at ran with flat differs
  · cases ran
    refine ⟨_, replaced_modify found, ⟨shape.orderId, shape.intentId, shape.names,
      shape.protective⟩, ?_⟩
    rw [if_neg (not_lt.mpr flat)]
  · rw [bind_eq_ok] at ran
    obtain ⟨updated, stored, built⟩ := ran
    cases built
    unfold updateStop at stored
    rw [refuse_bind_eq_ok] at stored
    cases stored.2
    refine ⟨_, replaced_modify found, ⟨shape.orderId, shape.intentId,
      namesStop_reconciled intent target, shape.protective⟩, ?_⟩
    rw [if_pos (not_le.mp flat)]
    exact ⟨rfl, rfl⟩
  · cases ran
    push Not at differs
    refine ⟨stop, Replaced.refl found, shape, ?_⟩
    rw [if_pos (not_le.mp flat)]
    exact ⟨state.resolve_right differs.2, differs.1⟩

theorem reconcileIntent_eq_ok {openPosition provided : Option ℚ} {report : ExecutionReport}
    (ran : reconcileIntent orders intent nowMs openPosition provided = .ok (after, report)) :
    (byClientId orders intent.clientOrderId = none ∧ after = orders) ∨
    ∃ entry stopId, byClientId orders intent.clientOrderId = some entry ∧
      fitStop orders intent (targetQuantity intent entry openPosition provided) nowMs =
        .ok (after, stopId) := by
  unfold reconcileIntent at ran
  cases found : byClientId orders intent.clientOrderId with
  | none =>
    rw [found] at ran
    cases ran
    exact .inl ⟨rfl, rfl⟩
  | some entry =>
    rw [found] at ran
    dsimp only at ran
    rw [bind_eq_ok] at ran
    obtain ⟨⟨fitted, stopId⟩, fits, built⟩ := ran
    cases built
    exact .inr ⟨entry, stopId, rfl, fits⟩

theorem Protects.status {target : ℚ} (protects : Protects stop target) :
    stop.status = .new ∨ stop.status = .canceled := by
  unfold Protects at protects
  split_ifs at protects
  · exact .inl protects.1
  · exact .inr protects

/-! ### Every call keeps the rows -/

section Steps

variable {intents : List (ValidIntent digest)} {world : World} {intent : ValidIntent digest}

theorem Kept.submitted (kept : Kept intents world) (distinct : DistinctIntents intents)
    (member : intent ∈ intents) (nowMs : Int) :
    Kept intents
      { world with
        orders := (world.orders.insert (simOrderId intent.toTradeIntent)
          (entryRow intent.toTradeIntent nowMs)).insert (simStopId intent.toTradeIntent)
          (stopRow intent.toTradeIntent (submittedStopClientId intent.toTradeIntent)
            intent.quantity nowMs)
        targets := world.targets.insert intent.intentId intent.quantity } where
  known := by
    intro orderId row found
    rcases lookup_insert_eq_some.mp found with ⟨rfl, rfl, -⟩ | ⟨-, found⟩
    · exact ⟨rfl, intent, member, .inr ⟨rfl, rfl, namesStop_submitted _, rfl⟩⟩
    rcases lookup_insert_eq_some.mp found with ⟨rfl, rfl, -⟩ | ⟨-, found⟩
    · exact ⟨rfl, intent, member, .inl ⟨rfl, rfl, rfl, rfl, rfl⟩⟩
    · exact kept.known orderId row found
  guarded := by
    intro other others entry found
    by_cases same : other = intent
    · subst same
      refine ⟨_, _, AList.lookup_insert _, AList.lookup_insert _, ?_⟩
      unfold Protects
      rw [if_pos other.quantityPositive]
      exact ⟨rfl, rfl⟩
    · have different : other.intentId ≠ intent.intentId := fun named =>
        same (distinct other others intent member (.inl named))
      rcases lookup_insert_eq_some.mp found with ⟨named, -⟩ | ⟨-, found⟩
      · exact absurd named (simOrderId_ne_simStopId other intent)
      rcases lookup_insert_eq_some.mp found with ⟨named, -⟩ | ⟨-, found⟩
      · exact absurd (simOrderId_injective named) different
      obtain ⟨stop, target, stored, aimed, protects⟩ := kept.guarded other others entry found
      refine ⟨stop, target, ?_, ?_, protects⟩
      · refine lookup_insert_eq_some.mpr (.inr ⟨fun named =>
          different (simStopId_injective named), ?_⟩)
        exact lookup_insert_eq_some.mpr (.inr
          ⟨fun named => simOrderId_ne_simStopId intent other named.symm, stored⟩)
      · exact lookup_insert_eq_some.mpr (.inr ⟨different, aimed⟩)
  entered := by
    intro other others stop found
    by_cases same : other = intent
    · subst same
      have entry := (simOrderId_ne_simStopId other other)
      rw [AList.lookup_insert_ne entry, AList.lookup_insert]
      rfl
    · have different : other.intentId ≠ intent.intentId := fun named =>
        same (distinct other others intent member (.inl named))
      rcases lookup_insert_eq_some.mp found with ⟨named, -⟩ | ⟨-, found⟩
      · exact absurd (simStopId_injective named) different
      rcases lookup_insert_eq_some.mp found with ⟨named, -⟩ | ⟨-, found⟩
      · exact absurd named.symm (simOrderId_ne_simStopId intent other)
      have entered := kept.entered other others stop found
      rw [AList.lookup_insert_ne (simOrderId_ne_simStopId other intent),
        AList.lookup_insert_ne (fun named => different (simOrderId_injective named))]
      exact entered

theorem Kept.fitted (kept : Kept intents world) (distinct : DistinctIntents intents)
    (member : intent ∈ intents) {after : OrderTable} {stop fitted : OrderRow} {target : ℚ}
    (replaced : Replaced world.orders after (simStopId intent.toTradeIntent) stop fitted)
    (shape : IsStop intent.toTradeIntent fitted) (protects : Protects fitted target) :
    Kept intents
      { world with
        orders := after
        targets := world.targets.insert intent.intentId target } where
  known := by
    intro orderId row found
    rcases replaced.lookup_eq_some found with ⟨rfl, rfl⟩ | ⟨-, found⟩
    · exact ⟨shape.orderId, intent, member, .inr shape⟩
    · exact kept.known orderId row found
  guarded := by
    intro other others entry found
    rw [replaced.other _ (simOrderId_ne_simStopId other intent)] at found
    by_cases same : other = intent
    · subst same
      exact ⟨fitted, target, replaced.self, AList.lookup_insert _, protects⟩
    · have different : other.intentId ≠ intent.intentId := fun named =>
        same (distinct other others intent member (.inl named))
      obtain ⟨otherStop, otherTarget, stored, aimed, guards⟩ :=
        kept.guarded other others entry found
      refine ⟨otherStop, otherTarget, ?_, ?_, guards⟩
      · exact (replaced.other _ fun named => different (simStopId_injective named)).trans stored
      · exact lookup_insert_eq_some.mpr (.inr ⟨different, aimed⟩)
  entered := by
    intro other others otherStop found
    rw [replaced.other _ (simOrderId_ne_simStopId other intent)]
    rcases replaced.lookup_eq_some found with ⟨named, -⟩ | ⟨-, found⟩
    · have same := distinct other others intent member (.inl (simStopId_injective named))
      rw [same]
      exact kept.entered intent member stop replaced.before
    · exact kept.entered other others otherStop found

theorem Kept.step (kept : Kept intents world) (distinct : DistinctIntents intents)
    (call : Call digest) (member : call.intent ∈ intents) : Kept intents (world.step call) := by
  unfold World.step
  cases ran : call.execute world.orders with
  | error fault => exact ⟨kept.known, kept.guarded, kept.entered⟩
  | ok outcome =>
    obtain ⟨after, report⟩ := outcome
    cases call with
    | submit intent nowMs =>
      rcases submitIntent_eq_ok ran with ⟨replayed, rfl⟩ | ⟨absent, rfl⟩
      · obtain ⟨row, found⟩ := Option.isSome_iff_exists.mp replayed
        simp only [Call.target, found]
        exact ⟨kept.known, kept.guarded, kept.entered⟩
      · simp only [Call.target, absent]
        exact kept.submitted distinct member nowMs
    | reconcile intent nowMs openPosition provided =>
      rcases reconcileIntent_eq_ok ran with ⟨absent, rfl⟩ | ⟨entry, stopId, found, fits⟩
      · simp only [Call.target, absent, Option.map_none]
        exact ⟨kept.known, kept.guarded, kept.entered⟩
      · have stored := kept.byClientId_eq_some distinct member found
        obtain ⟨stop, target, stands, -, protects⟩ := kept.guarded intent member entry stored
        have shape := kept.stop_of_lookup distinct member stands
        have only := kept.protectiveRows_eq distinct member stands
        obtain ⟨fitted, replaced, fittedShape, aims⟩ :=
          fitStop_eq_ok only (shape.orderId ▸ stands) shape protects.status fits
        simp only [Call.target, found, Option.map_some]
        exact kept.fitted distinct member (shape.orderId ▸ replaced) fittedShape aims

end Steps

/-! ### Every filled intent is protected -/

def Filled (orders : OrderTable) (intentId : String) : Prop :=
  ∃ row ∈ orders.rows, row.intentId = intentId ∧ row.isProtective = false ∧ row.status = .filled

instance (orders : OrderTable) (intentId : String) : Decidable (Filled orders intentId) :=
  inferInstanceAs (Decidable (∃ row ∈ _, _))

def World.Protected (world : World) (intentId : String) : Prop :=
  Filled world.orders intentId → ∃ stop target,
    protectiveRows world.orders intentId = [stop] ∧
      world.targets.lookup intentId = some target ∧ Protects stop target

theorem Kept.protected {intents : List (ValidIntent digest)} {world : World}
    (kept : Kept intents world) (distinct : DistinctIntents intents)
    {intent : ValidIntent digest} (member : intent ∈ intents) :
    world.Protected intent.intentId := by
  rintro ⟨row, stored, named, unprotective, -⟩
  obtain ⟨orderId, found⟩ := mem_rows.mp stored
  obtain ⟨same, owner, owned, entry | stop⟩ := kept.known _ _ found
  · have owns := distinct intent member owner owned (.inl (named.symm.trans entry.intentId))
    have place : orderId = simOrderId intent.toTradeIntent := by
      rw [← same, entry.orderId, owns]
    obtain ⟨stop, target, stands, aimed, protects⟩ :=
      kept.guarded intent member row (place ▸ found)
    exact ⟨stop, target, kept.protectiveRows_eq distinct member stands, aimed, protects⟩
  · rw [stop.protective] at unprotective
    cases unprotective

/-! ### Short names that tell the intents apart -/

/-- The characters that every stop is named by tell the intents apart. -/
def DistinctPrefixes (intents : List (ValidIntent digest)) : Prop :=
  ∀ intent ∈ intents, ∀ other ∈ intents,
    firstCharacters 12 intent.clientOrderId = firstCharacters 12 other.clientOrderId →
      intent = other

instance (intents : List (ValidIntent digest)) : Decidable (DistinctPrefixes intents) := by
  unfold DistinctPrefixes
  infer_instance

section Faultless

variable {intents : List (ValidIntent digest)} {world : World} {intent : ValidIntent digest}
  (kept : Kept intents world) (distinct : DistinctIntents intents)
  (prefixes : DistinctPrefixes intents)

theorem Kept.stop_of_name (kept : Kept intents world) (prefixes : DistinctPrefixes intents)
    (member : intent ∈ intents) {row : OrderRow} (stored : row ∈ world.orders.rows)
    (names : NamesStop intent.toTradeIntent row.clientOrderId) :
    row.orderId = simStopId intent.toTradeIntent ∧
      world.orders.lookup (simStopId intent.toTradeIntent) = some row := by
  obtain ⟨orderId, found⟩ := mem_rows.mp stored
  obtain ⟨same, owner, owned, entry | stop⟩ := kept.known _ _ found
  · exact absurd entry.clientOrderId (namesStop_ne_clientOrderId names owner)
  · have agree := namesStop_prefix names stop.names
    have owns : intent = owner := by
      refine prefixes intent member owner owned ?_
      unfold firstCharacters
      rw [agree]
    subst owns
    exact ⟨stop.orderId, by rw [← stop.orderId, same]; exact found⟩

include kept distinct prefixes in
theorem Kept.submit_succeeds (member : intent ∈ intents) (nowMs : Int) :
    ∃ outcome, submitIntent world.orders intent.toTradeIntent nowMs = .ok outcome := by
  unfold submitIntent
  cases found : byClientId world.orders intent.clientOrderId with
  | some row => exact ⟨_, rfl⟩
  | none =>
    obtain ⟨noEntry, noStop⟩ := kept.byClientId_eq_none distinct member found
    have entered : insertOrder world.orders (entryRow intent.toTradeIntent nowMs) =
        .ok (world.orders.insert (simOrderId intent.toTradeIntent)
          (entryRow intent.toTradeIntent nowMs)) := by
      refine insertOrder_eq_ok.mpr ⟨AList.lookup_eq_none.mp noEntry, ?_, rfl⟩
      intro stored row named
      have misses := List.find?_eq_none.mp found stored row
      exact misses (decide_eq_true named)
    obtain ⟨after, guarded⟩ : ∃ after, insertOrder
        (world.orders.insert (simOrderId intent.toTradeIntent)
          (entryRow intent.toTradeIntent nowMs))
        (stopRow intent.toTradeIntent (submittedStopClientId intent.toTradeIntent)
          intent.quantity nowMs) = .ok after := by
      refine ⟨_, insertOrder_eq_ok.mpr ⟨AList.lookup_eq_none.mp ?_, ?_, rfl⟩⟩
      · have different := (simOrderId_ne_simStopId intent intent).symm
        exact (AList.lookup_insert_ne different).trans noStop
      · intro stored row named
        obtain ⟨orderId, lookup⟩ := mem_rows.mp row
        have names : NamesStop intent.toTradeIntent stored.clientOrderId :=
          named ▸ namesStop_submitted intent.toTradeIntent
        rcases lookup_insert_eq_some.mp lookup with ⟨-, rfl, -⟩ | ⟨-, lookup⟩
        · exact namesStop_ne_clientOrderId names intent rfl
        · have taken := kept.stop_of_name prefixes member (mem_rows_of_lookup lookup) names
          rw [noStop] at taken
          cases taken.2
    dsimp only
    rw [entered]
    exact ⟨_, bind_eq_ok.mpr ⟨_, rfl, bind_eq_ok.mpr ⟨after, guarded, rfl⟩⟩⟩

include kept distinct prefixes in
theorem Kept.reconcile_succeeds (member : intent ∈ intents) (nowMs : Int)
    (openPosition provided : Option ℚ) :
    ∃ outcome, reconcileIntent world.orders intent.toTradeIntent nowMs openPosition provided =
      .ok outcome := by
  unfold reconcileIntent
  cases found : byClientId world.orders intent.clientOrderId with
  | none => exact ⟨_, rfl⟩
  | some entry =>
    have stored := kept.byClientId_eq_some distinct member found
    obtain ⟨stop, target, stands, -, -⟩ := kept.guarded intent member entry stored
    have shape := kept.stop_of_lookup distinct member stands
    have fits : ∃ outcome, fitStop world.orders intent.toTradeIntent
        (targetQuantity intent.toTradeIntent entry openPosition provided) nowMs = .ok outcome := by
      unfold fitStop
      rw [kept.protectiveRows_eq distinct member stands]
      dsimp only [List.head?]
      split_ifs
      · exact ⟨_, rfl⟩
      · unfold updateStop
        rw [refuse_of_not]
        · exact ⟨_, rfl⟩
        · rintro ⟨row, present, different, named⟩
          have names : NamesStop intent.toTradeIntent row.clientOrderId :=
            named ▸ namesStop_reconciled intent.toTradeIntent _
          have same := (kept.stop_of_name prefixes member present names).1
          exact different (same.trans shape.orderId.symm)
      · exact ⟨_, rfl⟩
    obtain ⟨outcome, fits⟩ := fits
    dsimp only
    rw [fits]
    exact ⟨_, rfl⟩

include kept distinct prefixes in
theorem Kept.step_faults (call : Call digest) (member : call.intent ∈ intents) :
    (world.step call).faults = world.faults := by
  have succeeds : ∃ outcome, call.execute world.orders = .ok outcome := by
    cases call with
    | submit intent nowMs => exact kept.submit_succeeds distinct prefixes member nowMs
    | reconcile intent nowMs openPosition provided =>
      exact kept.reconcile_succeeds distinct prefixes member nowMs openPosition provided
  obtain ⟨outcome, ran⟩ := succeeds
  unfold World.step
  rw [ran]

end Faultless

/-! ### Every run -/

def intentsOf (calls : List (Call digest)) : List (ValidIntent digest) := calls.map Call.intent

theorem calls_on_intents (calls : List (Call digest)) (world : World) :
    Runs.Each World.step (fun _ call => call.intent ∈ intentsOf calls) world calls :=
  Runs.each_of_forall_mem fun _ member _ => List.mem_map_of_mem member

theorem kept_run (calls : List (Call digest)) (distinct : DistinctIntents (intentsOf calls)) :
    Runs.Throughout World.step (Kept (intentsOf calls)) {} calls := by
  refine Runs.throughout_of_each ?_ (kept_empty _) (calls_on_intents calls _)
  exact fun world call kept member => kept.step distinct call member

/-- Throughout any calls on distinct intents every filled intent has one protective order. It works
for exactly what the last completed call on the intent found open, filled and intended, and is
canceled when that is nothing. While the first twelve characters of the client ids tell the intents
apart, no call fails. -/
theorem dry_run_ledger (calls : List (Call digest)) (distinct : DistinctIntents (intentsOf calls)) :
    Runs.Throughout World.step
        (fun world => ∀ intent ∈ intentsOf calls, world.Protected intent.intentId) {} calls ∧
      (DistinctPrefixes (intentsOf calls) →
        Runs.Throughout World.step (fun world => world.faults = []) {} calls) := by
  refine ⟨(kept_run calls distinct).mono fun world kept intent member =>
    kept.protected distinct member, fun prefixes => ?_⟩
  have both : Runs.Throughout World.step
      (fun world => Kept (intentsOf calls) world ∧ world.faults = []) {} calls := by
    refine Runs.throughout_of_each ?_ ⟨kept_empty _, rfl⟩ (calls_on_intents calls _)
    rintro world call ⟨kept, faultless⟩ member
    exact ⟨kept.step distinct call member,
      (kept.step_faults distinct prefixes call member).trans faultless⟩
  exact both.mono fun world holds => holds.2

/-! ### Flat positions and short names -/

def LedgerHolds (calls : List (Call digest)) : Prop :=
  Runs.Throughout World.step (fun world => world.faults = [] ∧
    ∀ intent ∈ intentsOf calls, Filled world.orders intent.intentId →
      ∃ stop, (protectiveRows world.orders intent.intentId).filter
          (fun row => row.status = .new) = [stop] ∧
        world.targets.lookup intent.intentId = some stop.requestedQty) {} calls

def approvalDigest : Digest where
  hexdigest := fun text =>
    let authority := String.ofList (List.replicate 64 'a') ++ ":" ++
      String.ofList (List.replicate 64 'b')
    if text = authority ++ ":approval_5338" then
      "1576e7c9027a1e216e5ed2bd854a805c5d4a41959ee5d16f8ce865d45db11c8d"
    else if text = authority ++ ":approval_1" then
      "328d316359e9ceb899b6e45bee8b923b5a36f55c776b73667d4755e7d2cdb2b7"
    else "1576e7c9020176132bde9a64442ce23859edbe3f515876a623685f6f18284b24"
  length := by
    intro text
    dsimp only
    split_ifs <;> rfl

def approvedIntent (approvalEventId : String) : ValidIntent approvalDigest where
  intentId := (canonicalExecutionIdentity approvalDigest (String.ofList (List.replicate 64 'a'))
    (String.ofList (List.replicate 64 'b')) approvalEventId).1
  intentHash := approvalEventId
  caseId := "case"
  caseHash := String.ofList (List.replicate 64 'a')
  proposalHash := String.ofList (List.replicate 64 'b')
  approvalEventId := approvalEventId
  approvalActor := "actor"
  approvalHash := "approval"
  riskPolicyHash := "policy"
  environment := .dryRun
  symbol := "BTCUSDT"
  side := .buy
  orderType := .limit
  quantity := 2
  price := 100
  leverage := 2
  stopLoss := 98
  createdAtMs := 1000
  expiresAtMs := 61000
  idempotencyKey := (canonicalExecutionIdentity approvalDigest
    (String.ofList (List.replicate 64 'a')) (String.ofList (List.replicate 64 'b'))
    approvalEventId).2.1
  clientOrderId := (canonicalExecutionIdentity approvalDigest
    (String.ofList (List.replicate 64 'a')) (String.ofList (List.replicate 64 'b'))
    approvalEventId).2.2
  quantityPositive := by norm_num
  pricePositive := by norm_num
  stopLossPositive := by norm_num
  leveragePositive := by norm_num
  chronology := by norm_num
  identity := rfl

/-- A fill whose position is then found closed. -/
def flatCalls : List (Call approvalDigest) :=
  [.submit (approvedIntent "approval_5338") 1000,
    .reconcile (approvedIntent "approval_5338") 2000 (some 0) none]

/-- Two fills whose client ids agree in their first sixteen characters. -/
def similarCalls : List (Call approvalDigest) :=
  [.submit (approvedIntent "approval_5338") 1000, .submit (approvedIntent "approval_44422") 2000]

theorem flat_and_similar_break_ledger :
    (DistinctIntents (intentsOf flatCalls) ∧ ¬ LedgerHolds flatCalls) ∧
      DistinctIntents (intentsOf similarCalls) ∧ ¬ LedgerHolds similarCalls := by
  refine ⟨⟨by decide +kernel, fun holds => ?_⟩, by decide +kernel, fun holds => ?_⟩
  · have filled : Filled (Runs.run World.step {} flatCalls).orders
        (approvedIntent "approval_5338").intentId := by decide +kernel
    obtain ⟨stop, working, -⟩ :=
      (Runs.Throughout.last holds).2 (approvedIntent "approval_5338") (by decide +kernel) filled
    have none : (protectiveRows (Runs.run World.step {} flatCalls).orders
        (approvedIntent "approval_5338").intentId).filter (fun row => row.status = .new) = [] := by
      decide +kernel
    rw [none] at working
    cases working
  · have failed : (Runs.run World.step {} similarCalls).faults ≠ [] := by decide +kernel
    exact failed (Runs.Throughout.last holds).1

/-- Two fills: the first position is found reduced and then closed, the second is found whole. -/
def reducedCalls : List (Call approvalDigest) :=
  [.submit (approvedIntent "approval_5338") 1000, .submit (approvedIntent "approval_1") 1500,
    .reconcile (approvedIntent "approval_5338") 2000 (some 1) none,
    .reconcile (approvedIntent "approval_1") 2500 none (some 2),
    .reconcile (approvedIntent "approval_5338") 3000 (some 0) none]

theorem dry_run_ledger_reduced :
    Runs.Throughout World.step
        (fun world => ∀ intent ∈ intentsOf reducedCalls, world.Protected intent.intentId) {}
        reducedCalls ∧
      Runs.Throughout World.step (fun world => world.faults = []) {} reducedCalls := by
  have ledger := dry_run_ledger reducedCalls (by decide +kernel)
  exact ⟨ledger.1, ledger.2 (by decide +kernel)⟩

end QuantAgent.Execution.DryRun
