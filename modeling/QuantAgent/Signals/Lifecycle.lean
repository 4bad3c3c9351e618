/-
This file says exactly when the lifecycle of stored signals is terminal under concurrent
processes: a run loses no status change and reopens no closed signal if and only if every
write finds the status its operation had read, and none makes a closed signal active.

The log decides what is lost: each change must start from the status in which the entry before
it left the signal, and the stored status must be that of the newest entry. The run at the end
marks a signal as notified while another process expires it.
-/

import QuantAgent.Signals.Repository

namespace QuantAgent.Signals

variable {Details : Type}

/-! ### What the property says -/

namespace StatusEntry

def signalId : StatusEntry → String
  | saved signalId _ => signalId
  | changed signalId _ _ => signalId

def status : StatusEntry → SignalStatus
  | saved _ status => status
  | changed _ _ status => status

end StatusEntry

def recorded : List StatusEntry → String → Option SignalStatus
  | [], _ => none
  | entry :: earlier, signalId =>
    if entry.signalId = signalId then some entry.status else recorded earlier signalId

def Unbroken : List StatusEntry → Prop
  | [] => True
  | .saved _ _ :: earlier => Unbroken earlier
  | .changed signalId found _ :: earlier =>
    recorded earlier signalId = some found ∧ Unbroken earlier

namespace World

def statusOf (world : World Details) (signalId : String) : Option SignalStatus :=
  (world.signals.lookup signalId).map SignalRow.status

structure NothingLost (world : World Details) : Prop where
  unbroken : Unbroken world.log
  stored : ∀ signalId, recorded world.log signalId = world.statusOf signalId

def Closed (signalId : String) (world : World Details) : Prop :=
  ∃ status, world.statusOf signalId = some status ∧ status ≠ .active

/-- A write finds the status its operation read, and makes only active signals active. -/
def WritesInOrder (world : World Details) : Event Details → Prop
  | .commit process => ∀ pending, world.pending process = some pending →
      ∀ copy ∈ pending.copies, world.statusOf copy.1 = some copy.2.status ∧
        (pending.operation.sets = some .active → copy.2.status = .active)
  | _ => True

/-! ### What processes have in memory -/

def Stored (signals : SignalTable Details) : Prop :=
  ∀ key row, signals.lookup key = some row → row.payload.signalId = key

/-- What an operation has read are signals of the table, each once. -/
structure Sound (world : World Details) : Prop where
  stored : Stored world.signals
  distinct : ∀ process pending, world.pending process = some pending →
    (pending.copies.map Prod.fst).Nodup
  named : ∀ process pending, world.pending process = some pending →
    ∀ copy ∈ pending.copies, copy.2.signalId = copy.1
  present : ∀ process pending, world.pending process = some pending →
    ∀ copy ∈ pending.copies, (world.signals.lookup copy.1).isSome

theorem read_ok {signals : SignalTable Details} (stored : Stored signals)
    {operation : Operation} {copies : List (Copy Details)}
    (done : operation.read signals = .ok copies) :
    (copies.map Prod.fst).Nodup ∧ ∀ copy ∈ copies, copy.2.signalId = copy.1 ∧
      (signals.lookup copy.1).isSome := by
  have single : ∀ {signalId : String} {signal : Signal Details},
      getSignal signals signalId = some signal →
      signal.signalId = signalId ∧ (signals.lookup signalId).isSome := by
    intro signalId signal found
    obtain ⟨row, rowFound, rfl⟩ := Option.map_eq_some_iff.mp found
    exact ⟨stored signalId row rowFound, by rw [rowFound]; rfl⟩
  have readOne : ∀ {signalId : String}, Operation.readOne signals signalId = .ok copies →
      (copies.map Prod.fst).Nodup ∧ ∀ copy ∈ copies, copy.2.signalId = copy.1 ∧
        (signals.lookup copy.1).isSome := by
    intro signalId answered
    unfold Operation.readOne at answered
    cases found : getSignal signals signalId with
    | none =>
      rw [found] at answered
      cases answered
    | some signal =>
      rw [found] at answered
      cases answered
      refine ⟨List.nodup_singleton _, fun copy member => ?_⟩
      rw [List.mem_singleton.mp member]
      obtain ⟨named, present⟩ := single found
      exact ⟨rfl, by rw [named]; exact present⟩
  cases operation with
  | updateSignalStatus signalId status =>
    simp only [Operation.read] at done
    cases found : getSignal signals signalId with
    | none =>
      rw [found] at done
      cases done
    | some signal =>
      rw [found] at done
      cases done
      refine ⟨List.nodup_singleton _, fun copy member => ?_⟩
      rw [List.mem_singleton.mp member]
      exact single found
  | invalidateSignal signalId reason => exact readOne done
  | markSignalNotified signalId notifiedAtMs => exact readOne done
  | expireSignals nowMs =>
    cases done
    refine ⟨?_, fun copy member => ?_⟩
    · rw [List.map_map]
      exact List.Nodup.sublist (List.filter_sublist.map _) signals.nodupKeys
    · obtain ⟨entry, kept, rfl⟩ := List.mem_map.mp member
      have found : signals.lookup entry.1 = some entry.2 :=
        AList.mem_lookup_iff.mpr (List.mem_filter.mp kept).1
      exact ⟨stored _ _ found, by rw [found]; rfl⟩

/-! ### Writing back -/

theorem lookup_writeRow (signals : SignalTable Details) (signalId other : String)
    (signal : Signal Details) :
    (writeRow signals signalId signal).lookup other =
      if other = signalId then
        (signals.lookup other).map fun row =>
          { row with status := signal.status, payload := signal }
      else signals.lookup other :=
  Table.lookup_modify _

theorem statusOf_writeCopy (operation : Operation) (world : World Details)
    (copy : Copy Details) (signalId : String) :
    (world.writeCopy operation copy).statusOf signalId =
      if signalId = copy.1 then
        (world.statusOf signalId).map fun _ => operation.sets.getD copy.2.status
      else world.statusOf signalId := by
  unfold statusOf writeCopy
  dsimp only
  rw [lookup_writeRow, operation.status_edit]
  split_ifs
  · rw [Option.map_map, Option.map_map]
    rfl
  · rfl

theorem isSome_writeBack (world : World Details) (pending : Pending Details) (signalId : String) :
    ((world.writeBack pending).signals.lookup signalId).isSome =
      (world.signals.lookup signalId).isSome := by
  obtain ⟨operation, copies⟩ := pending
  unfold writeBack
  dsimp only
  induction copies generalizing world with
  | nil => rfl
  | cons copy rest inductionHypothesis =>
    rw [List.foldl_cons, inductionHypothesis]
    show ((writeRow _ _ _).lookup _).isSome = _
    rw [lookup_writeRow]
    split_ifs
    · rw [Option.isSome_map]
    · rfl

variable {world : World Details} {pending : Pending Details}

theorem stored_writeBack (stored : Stored world.signals)
    (named : ∀ copy ∈ pending.copies, copy.2.signalId = copy.1) :
    Stored (world.writeBack pending).signals := by
  obtain ⟨operation, copies⟩ := pending
  unfold writeBack
  dsimp only at named ⊢
  induction copies generalizing world with
  | nil => exact stored
  | cons copy rest inductionHypothesis =>
    refine inductionHypothesis ?_ fun other member => named other (List.mem_cons_of_mem _ member)
    intro key row found
    change (writeRow _ _ _).lookup key = some row at found
    rw [lookup_writeRow] at found
    split_ifs at found with same
    · obtain ⟨before, -, rfl⟩ := Option.map_eq_some_iff.mp found
      rw [same, ← named copy List.mem_cons_self]
      exact operation.signalId_edit copy.2
    · exact stored key row found

theorem statusOf_writeBack (world : World Details)
    (distinct : (pending.copies.map Prod.fst).Nodup) (signalId : String) :
    (∀ copy ∈ pending.copies, copy.1 = signalId →
        (world.writeBack pending).statusOf signalId =
          (world.statusOf signalId).map fun _ => pending.operation.sets.getD copy.2.status) ∧
      ((∀ copy ∈ pending.copies, copy.1 ≠ signalId) →
        (world.writeBack pending).statusOf signalId = world.statusOf signalId) := by
  obtain ⟨operation, copies⟩ := pending
  unfold writeBack
  dsimp only at distinct ⊢
  induction copies generalizing world with
  | nil => exact ⟨fun _ member => (nomatch member), fun _ => rfl⟩
  | cons copy rest inductionHypothesis =>
    obtain ⟨fresh, restDistinct⟩ := List.nodup_cons.mp distinct
    obtain ⟨among, apart⟩ := inductionHypothesis (world.writeCopy operation copy) restDistinct
    refine ⟨fun other member same => ?_, fun others => ?_⟩
    · rcases List.mem_cons.mp member with rfl | later
      · have untouched : ∀ copy ∈ rest, copy.1 ≠ signalId := fun copy member equal =>
          fresh (by rw [same, ← equal]; exact List.mem_map_of_mem member)
        rw [List.foldl_cons, apart untouched, statusOf_writeCopy, if_pos same.symm]
      · have different : signalId ≠ copy.1 := fun equal =>
          fresh (by rw [← equal, ← same]; exact List.mem_map_of_mem later)
        rw [List.foldl_cons, among other later same, statusOf_writeCopy, if_neg different]
    · rw [List.foldl_cons, apart fun other member => others other (List.mem_cons_of_mem _ member),
        statusOf_writeCopy, if_neg (others copy List.mem_cons_self).symm]

/-! ### The log of a write -/

theorem recorded_writeCopy (operation : Operation) (world : World Details)
    (copy : Copy Details) (signalId : String) :
    recorded (world.writeCopy operation copy).log signalId =
      if copy.1 = signalId then operation.sets.or (recorded world.log signalId)
      else recorded world.log signalId := by
  unfold writeCopy
  cases operation.sets with
  | none => exact (ite_self _).symm
  | some status => rfl

theorem recorded_writeBack (world : World Details) (pending : Pending Details) (signalId : String) :
    recorded (world.writeBack pending).log signalId =
      if signalId ∈ pending.copies.map Prod.fst then
        pending.operation.sets.or (recorded world.log signalId)
      else recorded world.log signalId := by
  obtain ⟨operation, copies⟩ := pending
  unfold writeBack
  dsimp only
  induction copies generalizing world with
  | nil => rfl
  | cons copy rest inductionHypothesis =>
    have among : signalId ∈ (copy :: rest).map Prod.fst ↔
        copy.1 = signalId ∨ signalId ∈ rest.map Prod.fst := by
      rw [List.map_cons, List.mem_cons, eq_comm]
    rw [List.foldl_cons, inductionHypothesis, recorded_writeCopy]
    by_cases same : copy.1 = signalId
    · rw [if_pos same, if_pos (among.mpr (.inl same))]
      cases operation.sets with
      | none => rw [Option.none_or, ite_self]
      | some status => rw [Option.some_or, Option.some_or, ite_self]
    · rw [if_neg same]
      simp only [among, same, false_or]

theorem unbroken_writeBack (world : World Details)
    (distinct : (pending.copies.map Prod.fst).Nodup) :
    Unbroken (world.writeBack pending).log ↔ Unbroken world.log ∧
      (pending.operation.sets ≠ none →
        ∀ copy ∈ pending.copies, recorded world.log copy.1 = some copy.2.status) := by
  obtain ⟨operation, copies⟩ := pending
  unfold writeBack
  dsimp only at distinct ⊢
  induction copies generalizing world with
  | nil => exact ⟨fun unbroken => ⟨unbroken, fun _ _ member => (nomatch member)⟩, And.left⟩
  | cons copy rest inductionHypothesis =>
    obtain ⟨fresh, restDistinct⟩ := List.nodup_cons.mp distinct
    have others : ∀ other ∈ rest, recorded (world.writeCopy operation copy).log other.1 =
        recorded world.log other.1 := by
      intro other member
      have different : copy.1 ≠ other.1 := fun same =>
        fresh (by rw [same]; exact List.mem_map_of_mem member)
      rw [recorded_writeCopy, if_neg different]
    have first : Unbroken (world.writeCopy operation copy).log ↔ Unbroken world.log ∧
        (operation.sets ≠ none → recorded world.log copy.1 = some copy.2.status) := by
      unfold writeCopy
      cases operation.sets with
      | none => exact ⟨fun unbroken => ⟨unbroken, fun sets => absurd rfl sets⟩, And.left⟩
      | some status =>
        exact ⟨fun ⟨start, unbroken⟩ => ⟨unbroken, fun _ => start⟩,
          fun ⟨unbroken, start⟩ => ⟨start (Option.some_ne_none status), unbroken⟩⟩
    rw [List.foldl_cons, inductionHypothesis _ restDistinct, first]
    simp only [List.forall_mem_cons]
    constructor
    · rintro ⟨⟨unbroken, start⟩, starts⟩
      exact ⟨unbroken, fun sets => ⟨start sets, fun other member =>
        (others other member).symm.trans (starts sets other member)⟩⟩
    · rintro ⟨unbroken, starts⟩
      exact ⟨⟨unbroken, fun sets => (starts sets).1⟩, fun sets other member =>
        (others other member).trans ((starts sets).2 other member)⟩

theorem nothingLost_writeBack (before : world.NothingLost)
    (distinct : (pending.copies.map Prod.fst).Nodup)
    (present : ∀ copy ∈ pending.copies, (world.signals.lookup copy.1).isSome) :
    (world.writeBack pending).NothingLost ↔
      ∀ copy ∈ pending.copies, world.statusOf copy.1 = some copy.2.status := by
  constructor
  · rintro ⟨unbroken, stored⟩ copy member
    cases sets : pending.operation.sets with
    | some status =>
      have starts := ((unbroken_writeBack world distinct).mp unbroken).2
        (by rw [sets]; exact Option.some_ne_none status) copy member
      rw [← before.stored, starts]
    | none =>
      have shown := stored copy.1
      rw [(statusOf_writeBack world distinct copy.1).1 copy member rfl, recorded_writeBack, sets,
        Option.none_or, ite_self, before.stored] at shown
      obtain ⟨row, found⟩ := Option.isSome_iff_exists.mp (present copy member)
      rw [statusOf, found] at shown ⊢
      exact shown
  · intro fresh
    refine ⟨(unbroken_writeBack world distinct).mpr ⟨before.unbroken, fun _ copy member => ?_⟩,
      fun signalId => ?_⟩
    · rw [before.stored]
      exact fresh copy member
    · rw [recorded_writeBack, before.stored]
      split_ifs with among
      · obtain ⟨copy, member, rfl⟩ := List.mem_map.mp among
        rw [(statusOf_writeBack world distinct copy.1).1 copy member rfl, fresh copy member]
        cases pending.operation.sets <;> rfl
      · refine ((statusOf_writeBack world distinct signalId).2 fun copy member same => ?_).symm
        exact among (same ▸ List.mem_map_of_mem member)

theorem closed_writeBack (distinct : (pending.copies.map Prod.fst).Nodup)
    (fresh : ∀ copy ∈ pending.copies, world.statusOf copy.1 = some copy.2.status) :
    (∀ signalId, Closed signalId world → Closed signalId (world.writeBack pending)) ↔
      ∀ copy ∈ pending.copies, pending.operation.sets = some .active →
        copy.2.status = .active := by
  have after : ∀ copy ∈ pending.copies, (world.writeBack pending).statusOf copy.1 =
      some (pending.operation.sets.getD copy.2.status) := fun copy member => by
    rw [(statusOf_writeBack world distinct copy.1).1 copy member rfl, fresh copy member]
    rfl
  constructor
  · intro kept copy member reopens
    by_contra closed
    obtain ⟨status, shown, notActive⟩ := kept copy.1 ⟨_, fresh copy member, closed⟩
    rw [after copy member, reopens] at shown
    exact notActive (Option.some.inj shown).symm
  · rintro only signalId ⟨status, shown, notActive⟩
    by_cases among : signalId ∈ pending.copies.map Prod.fst
    · obtain ⟨copy, member, rfl⟩ := List.mem_map.mp among
      have same : copy.2.status = status := by
        rw [fresh copy member] at shown
        exact Option.some.inj shown
      refine ⟨_, after copy member, ?_⟩
      cases sets : pending.operation.sets with
      | none =>
        rw [Option.getD_none, same]
        exact notActive
      | some set =>
        rw [Option.getD_some]
        rintro rfl
        exact notActive (same.symm.trans (only copy member sets))
    · refine ⟨status, ?_, notActive⟩
      rw [(statusOf_writeBack world distinct signalId).2 fun copy member equal =>
        among (equal ▸ List.mem_map_of_mem member), shown]

/-! ### Steps -/

/-- A signal offered to the table is stored as it is, or nothing changes. -/
theorem saveSignal_cases (signals : SignalTable Details) (signal : Signal Details)
    (cooldownMinutes : Int) :
    saveSignal signals signal cooldownMinutes = signals ∨
      signals.lookup signal.signalId = none ∧ ∃ row : SignalRow Details,
        row.status = signal.status ∧ row.payload = signal ∧
        saveSignal signals signal cooldownMinutes = signals.insert signal.signalId row := by
  unfold saveSignal
  dsimp only
  split_ifs with refused
  · exact .inl rfl
  · refine .inr ⟨?_, _, rfl, rfl, rfl⟩
    rw [← Option.not_isSome_iff_eq_none]
    exact fun stored => refused (.inr stored)

/-- The steps, each with what it leaves behind. -/
theorem step_cases (world : World Details) (event : Event Details) :
    world.step event = world ∨
    (∃ signal row, world.signals.lookup signal.signalId = none ∧
      row.status = signal.status ∧ row.payload = signal ∧
      world.step event = { world with
        signals := world.signals.insert signal.signalId row
        log := .saved signal.signalId signal.status :: world.log }) ∨
    (∃ process operation copies, operation.read world.signals = .ok copies ∧
      world.step event = { world with
        pending := Function.update world.pending process (some ⟨operation, copies⟩) }) ∨
    (∃ process, event = .crash process ∧
      world.step event = { world with pending := Function.update world.pending process none }) ∨
    ∃ process pending, event = .commit process ∧ world.pending process = some pending ∧
      world.step event = { world.writeBack pending with
        pending := Function.update world.pending process none } := by
  cases event with
  | save signal cooldownMinutes =>
    rcases saveSignal_cases world.signals signal cooldownMinutes with
      same | ⟨fresh, row, status, payload, stored⟩
    · refine .inl ?_
      unfold step logSaved
      dsimp only
      rw [same, if_neg fun both => ?_]
      rw [Option.isNone_iff_eq_none] at both
      rw [both.1] at both
      exact Bool.false_ne_true both.2
    · refine .inr (.inl ⟨signal, row, fresh, status, payload, ?_⟩)
      unfold step logSaved
      dsimp only
      rw [stored, if_pos ⟨by rw [fresh]; rfl, by rw [AList.lookup_insert]; rfl⟩]
  | begin process operation =>
    cases idle : world.pending process with
    | some pending => exact .inl (by simp only [step, idle])
    | none =>
      cases done : operation.read world.signals with
      | error message => exact .inl (by simp only [step, idle, done])
      | ok copies =>
        exact .inr (.inr (.inl ⟨process, operation, copies, done,
          by simp only [step, idle, done]⟩))
  | commit process =>
    cases held : world.pending process with
    | none => exact .inl (by simp only [step, held])
    | some pending =>
      exact .inr (.inr (.inr (.inr ⟨process, pending, rfl, held, by simp only [step, held]⟩)))
  | crash process => exact .inr (.inr (.inr (.inl ⟨process, rfl, rfl⟩)))

theorem pending_of_stopped {pending : ℕ → Option (Pending Details)} {process other : ℕ}
    {held : Pending Details}
    (found : Function.update pending process none other = some held) :
    pending other = some held := by
  rcases eq_or_ne other process with rfl | different
  · rw [Function.update_self] at found
    cases found
  · rwa [Function.update_of_ne different] at found

theorem Sound.step (sound : world.Sound) (event : Event Details) :
    (world.step event).Sound := by
  rcases world.step_cases event with same | ⟨signal, row, fresh, -, payload, same⟩ |
    ⟨process, operation, copies, done, same⟩ | ⟨process, -, same⟩ |
    ⟨process, pending, -, held, same⟩ <;> rw [same]
  · exact sound
  · refine ⟨fun key stored found => ?_, sound.distinct, sound.named,
      fun other held waits copy member => ?_⟩
    · rcases Table.lookup_insert_eq_some.mp found with ⟨rfl, rfl⟩ | ⟨-, before⟩
      · rw [payload]
      · exact sound.stored key stored before
    · obtain ⟨stored, found⟩ :=
        Option.isSome_iff_exists.mp (sound.present other held waits copy member)
      have different : copy.1 ≠ signal.signalId := by
        intro equal
        rw [equal, fresh] at found
        cases found
      rw [AList.lookup_insert_ne different, found]
      rfl
  · have either : ∀ {other held},
        Function.update world.pending process (some ⟨operation, copies⟩) other = some held →
          held = ⟨operation, copies⟩ ∨ world.pending other = some held := by
      intro other held found
      rcases eq_or_ne other process with rfl | different
      · rw [Function.update_self] at found
        exact .inl (Option.some.inj found).symm
      · rw [Function.update_of_ne different] at found
        exact .inr found
    obtain ⟨distinct, read⟩ := read_ok sound.stored done
    refine ⟨sound.stored, fun other held found => ?_, fun other held found => ?_,
      fun other held found => ?_⟩
    · rcases either found with rfl | before
      · exact distinct
      · exact sound.distinct other held before
    · rcases either found with rfl | before
      · exact fun copy member => (read copy member).1
      · exact sound.named other held before
    · rcases either found with rfl | before
      · exact fun copy member => (read copy member).2
      · exact sound.present other held before
  · exact ⟨sound.stored,
      fun other held found => sound.distinct other held (pending_of_stopped found),
      fun other held found => sound.named other held (pending_of_stopped found),
      fun other held found => sound.present other held (pending_of_stopped found)⟩
  · refine ⟨stored_writeBack sound.stored (sound.named process pending held),
      fun other kept found => sound.distinct other kept (pending_of_stopped found),
      fun other kept found => sound.named other kept (pending_of_stopped found),
      fun other kept found copy member => ?_⟩
    show ((world.writeBack pending).signals.lookup copy.1).isSome
    rw [isSome_writeBack]
    exact sound.present other kept (pending_of_stopped found) copy member

theorem writesInOrder_iff (sound : world.Sound) (before : world.NothingLost)
    (event : Event Details) :
    world.WritesInOrder event ↔ (world.step event).NothingLost ∧
      ∀ signalId, Closed signalId world → Closed signalId (world.step event) := by
  have unread : (∀ process pending, event = .commit process →
      world.pending process ≠ some pending) → world.WritesInOrder event := by
    intro none
    cases event with
    | commit process => exact fun pending held => absurd held (none process pending rfl)
    | save signal cooldownMinutes => trivial
    | begin process operation => trivial
    | crash process => trivial
  by_cases writes : ∃ process pending, event = .commit process ∧
      world.pending process = some pending
  · obtain ⟨process, pending, rfl, held⟩ := writes
    have step : world.step (.commit process) = { world.writeBack pending with
        pending := Function.update world.pending process none } := by
      simp only [World.step, held]
    have lost := nothingLost_writeBack before (sound.distinct process pending held)
      (sound.present process pending held)
    have moved : (world.step (.commit process)).NothingLost ↔
        (world.writeBack pending).NothingLost := by
      rw [step]
      exact ⟨fun ⟨unbroken, stored⟩ => ⟨unbroken, stored⟩,
        fun ⟨unbroken, stored⟩ => ⟨unbroken, stored⟩⟩
    rw [moved, lost, step]
    constructor
    · intro ordered
      have fresh := fun copy member => (ordered pending held copy member).1
      exact ⟨fresh, (closed_writeBack (sound.distinct process pending held) fresh).mpr
        fun copy member => (ordered pending held copy member).2⟩
    · rintro ⟨fresh, kept⟩ other found copy member
      obtain rfl : pending = other := Option.some.inj (held.symm.trans found)
      exact ⟨fresh copy member,
        (closed_writeBack (sound.distinct process pending held) fresh).mp kept copy member⟩
  · push Not at writes
    refine ⟨fun _ => ?_, fun _ => unread fun process pending same => writes process pending same⟩
    rcases world.step_cases event with same | ⟨signal, row, fresh, status, -, same⟩ |
      ⟨process, operation, copies, -, same⟩ | ⟨process, -, same⟩ |
      ⟨process, pending, same, held, -⟩
    · rw [same]
      exact ⟨before, fun _ closed => closed⟩
    · rw [same]
      have found : ∀ signalId, signalId ≠ signal.signalId →
          (world.signals.insert signal.signalId row).lookup signalId =
            world.signals.lookup signalId :=
        fun signalId different => AList.lookup_insert_ne different
      refine ⟨⟨before.unbroken, fun signalId => ?_⟩, fun signalId closed => ?_⟩
      · change (if signal.signalId = signalId then some signal.status
          else recorded world.log signalId) =
            ((world.signals.insert signal.signalId row).lookup signalId).map SignalRow.status
        by_cases equal : signal.signalId = signalId
        · rw [if_pos equal, ← equal, AList.lookup_insert, Option.map_some, status]
        · rw [if_neg equal, found signalId (Ne.symm equal)]
          exact before.stored signalId
      · obtain ⟨kept, shown, notActive⟩ := closed
        refine ⟨kept, ?_, notActive⟩
        unfold statusOf at shown ⊢
        rw [found signalId fun equal => ?_]
        · exact shown
        · rw [equal, fresh] at shown
          cases shown
    · rw [same]
      exact ⟨⟨before.unbroken, before.stored⟩, fun _ closed => closed⟩
    · rw [same]
      exact ⟨⟨before.unbroken, before.stored⟩, fun _ closed => closed⟩
    · exact absurd held (writes process pending same)

end World

/-! ### The lifecycle -/

open World

/-- A run loses no status change and reopens no closed signal exactly when every write finds
the status its operation had read and only active signals are made active. -/
theorem signal_lifecycle_iff (events : List (Event Details)) :
    (Runs.Throughout World.step NothingLost ({} : World Details) events ∧
      ∀ signalId, Runs.Forever World.step (Closed signalId) ({} : World Details) events) ↔
    Runs.Each World.step WritesInOrder ({} : World Details) events := by
  have soundFirst : ({} : World Details).Sound :=
    ⟨fun _ _ found => (nomatch found), fun _ _ held => (nomatch held),
      fun _ _ held => (nomatch held), fun _ _ held => (nomatch held)⟩
  have nothingFirst : ({} : World Details).NothingLost := ⟨trivial, fun _ => rfl⟩
  have sound := Runs.throughout_of_keeps
    (fun (world : World Details) event (kept : world.Sound) => kept.step event) soundFirst events
  have alwaysSound : Runs.Each World.step (fun world _ => world.Sound) {} events :=
    Runs.each_of_throughout sound fun _ _ now _ => now
  simp only [Runs.forever_iff_each, ← Runs.each_forall]
  constructor
  · rintro ⟨nothing, closed⟩
    have kept : Runs.Each World.step
        (fun world event => world.NothingLost ∧ (world.step event).NothingLost) {} events :=
      Runs.each_of_throughout nothing fun _ _ now next => ⟨now, next⟩
    refine (Runs.each_and.mpr ⟨alwaysSound, Runs.each_and.mpr ⟨kept, closed⟩⟩).mono ?_
    rintro world event ⟨sound, ⟨now, next⟩, closed⟩
    exact (writesInOrder_iff sound now event).mpr ⟨next, closed⟩
  · intro ordered
    have both : Runs.Throughout World.step (fun world => world.Sound ∧ world.NothingLost) {}
        events :=
      Runs.throughout_of_each (fun world event now writes =>
        ⟨now.1.step event, ((writesInOrder_iff now.1 now.2 event).mp writes).1⟩)
        ⟨soundFirst, nothingFirst⟩ ordered
    have always : Runs.Each World.step
        (fun world _ => world.Sound ∧ world.NothingLost) {} events :=
      Runs.each_of_throughout both fun _ _ now _ => now
    refine ⟨both.mono fun _ => And.right, (Runs.each_and.mpr ⟨always, ordered⟩).mono ?_⟩
    rintro world event ⟨now, writes⟩
    exact ((writesInOrder_iff now.1 now.2 event).mp writes).2

def lateMark : List (Event Unit) :=
  [.save ⟨"S", "F", .active, 0, 10, none, none, ()⟩ 60, .begin 0 (.markSignalNotified "S" 15),
    .begin 1 (.expireSignals 20), .commit 1, .commit 0]

/-- The late write of the mark makes the expired signal active again. -/
theorem lateMark_reopens :
    ¬ (Runs.Throughout World.step NothingLost ({} : World Unit) lateMark ∧
      ∀ signalId, Runs.Forever World.step (Closed signalId) ({} : World Unit) lateMark) := by
  rintro ⟨-, forever⟩
  obtain ⟨status, shown, notActive⟩ :=
    forever "S" (lateMark.take 4) (lateMark.drop 4) [] rfl ⟨.expired, by decide, by decide⟩
  have active : (Runs.run World.step ({} : World Unit)
      (lateMark.take 4 ++ lateMark.drop 4)).statusOf "S" = some .active := by decide
  rw [active] at shown
  exact notActive (Option.some.inj shown).symm

end QuantAgent.Signals
