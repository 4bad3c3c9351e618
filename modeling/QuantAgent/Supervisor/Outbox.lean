/-
This file proves that the outbox of the position supervisor is safe under any interleaving of
drain workers with lease takeovers and crashes. The acts noted for an event are always the first
few of one story, told by one worker under one lease: minted, called, answered, completed.
-/

import QuantAgent.Supervisor.Outcomes

namespace QuantAgent.Supervisor

variable {Context : Type}

/-! ### Stories -/

/-- What the analysis of an event goes through, with one worker under one lease. -/
def story (worker : ℕ) (token : String) : List (ℕ × Act) :=
  [(worker, .minted token), (worker, .analyzed), (worker, .answered), (worker, .completed token)]

theorem story_take_inj {worker other : ℕ} {token otherToken : String} {count otherCount : ℕ}
    (begun : 0 < count) (short : count ≤ 4) (otherShort : otherCount ≤ 4)
    (same : (story worker token).take count = (story other otherToken).take otherCount) :
    worker = other ∧ token = otherToken ∧ count = otherCount := by
  have lengths : count = otherCount := by
    have lengths := congrArg List.length same
    rw [List.length_take, List.length_take] at lengths
    change min count 4 = min otherCount 4 at lengths
    omega
  subst lengths
  obtain ⟨rest, rfl⟩ : ∃ rest, count = rest + 1 := ⟨count - 1, by omega⟩
  obtain ⟨first, -⟩ := List.cons.inj same
  obtain ⟨sameWorker, minted⟩ := Prod.mk.inj first
  exact ⟨sameWorker, Act.minted.inj minted, rfl⟩

/-- What the row of an event says about the story told of it. -/
structure Told (row : Dispatch Context) (history : List (ℕ × Act)) (worker : ℕ) (token : String)
    (count : ℕ) : Prop where
  short : count ≤ 4
  told : history = (story worker token).take count
  admitted : row.analysisAdmissionHash = "" ↔ count = 0
  authority : count ≠ 0 → ∃ authority, row.dispatchAuthorityJson = some authority ∧
    authority.leaseToken = token
  done : row.state = .done ↔ count = 4

/-- What holds in every state of every run. -/
structure Inv (service : Service Context) : Prop where
  sound : AllSound service.store
  told : ∀ eventId row, service.store.dispatches.lookup eventId = some row →
    ∃ worker token count, Told row (service.history eventId) worker token count
  silent : ∀ eventId, service.store.dispatches.lookup eventId = none →
    service.history eventId = []
  owned : ∀ worker claim admission count,
    (service.calls worker).phase.stage = some (claim, admission, count) →
    admission.eventJson.eventId = claim.eventId ∧ 0 < count ∧ count < 4 ∧
      service.history claim.eventId = (story worker claim.leaseToken).take count

/-! ### Steps that leave the stories alone -/

variable {service after : Service Context} {eventId token : String} {worker count : ℕ}
  {row new : Dispatch Context} {act : Act}

theorem history_of_log (log : after.log = service.log) :
    after.history eventId = service.history eventId := by
  unfold Service.history
  rw [log]

theorem history_noted (log : after.log = service.log ++ [⟨eventId, worker, act⟩]) :
    after.history eventId = service.history eventId ++ [(worker, act)] := by
  unfold Service.history
  rw [log, List.filter_append, List.map_append]
  simp

theorem history_other {other : String} (different : other ≠ eventId)
    (log : after.log = service.log ++ [⟨eventId, worker, act⟩]) :
    after.history other = service.history other := by
  unfold Service.history
  rw [log, List.filter_append, List.map_append]
  simp [different.symm]

theorem Told.moves {history : List (ℕ × Act)} (told : Told row history worker token count)
    (moves : Moves row new) : Told new history worker token count where
  short := told.short
  told := told.told
  admitted := by rw [moves.admission]; exact told.admitted
  authority := by rw [moves.authority]; exact told.authority
  done := moves.done.trans told.done

/-- Nothing is noted, rows move, new ones are blank, and no call reaches another stage. -/
structure Quiet (service after : Service Context) : Prop where
  log : after.log = service.log
  rows : ∀ eventId new, after.store.dispatches.lookup eventId = some new →
    (∃ row, service.store.dispatches.lookup eventId = some row ∧ Moves row new) ∨
    service.store.dispatches.lookup eventId = none ∧ Sound eventId new ∧
      new.analysisAdmissionHash = "" ∧ new.state = .pending
  kept : ∀ eventId, after.store.dispatches.lookup eventId = none →
    service.store.dispatches.lookup eventId = none
  stages : ∀ worker, (after.calls worker).phase.stage = none ∨
    (after.calls worker).phase.stage = (service.calls worker).phase.stage

theorem Inv.quiet (inv : Inv service) (quiet : Quiet service after) : Inv after where
  sound := fun eventId new found => by
    rcases quiet.rows eventId new found with ⟨row, before, moves⟩ | ⟨-, sound, -⟩
    · exact moves.sound (inv.sound eventId row before)
    · exact sound
  told := fun eventId new found => by
    rw [history_of_log quiet.log]
    rcases quiet.rows eventId new found with ⟨row, before, moves⟩ | ⟨absent, -, blank, pending⟩
    · obtain ⟨worker, token, count, told⟩ := inv.told eventId row before
      exact ⟨worker, token, count, told.moves moves⟩
    · exact ⟨0, "", 0, by decide, inv.silent eventId absent, by simp [blank], fun begun =>
        absurd rfl begun, by simp [pending]⟩
  silent := fun eventId absent => by
    rw [history_of_log quiet.log]
    exact inv.silent eventId (quiet.kept eventId absent)
  owned := fun worker claim admission count stage => by
    rw [history_of_log quiet.log]
    rcases quiet.stages worker with none | same
    · cases none.symm.trans stage
    · exact inv.owned worker claim admission count (same.symm.trans stage)

/-! ### Steps that tell more of a story -/

theorem Inv.row_of_owner (inv : Inv service) (begun : 0 < count) (short : count < 4)
    (told : service.history eventId = (story worker token).take count) :
    ∃ row, service.store.dispatches.lookup eventId = some row ∧
      Told row (service.history eventId) worker token count := by
  cases found : service.store.dispatches.lookup eventId with
  | none =>
    have silent := inv.silent eventId found
    rw [told] at silent
    obtain ⟨rest, rfl⟩ : ∃ rest, count = rest + 1 := ⟨count - 1, by omega⟩
    cases silent
  | some row =>
    obtain ⟨other, otherToken, otherCount, rowTold⟩ := inv.told eventId row found
    obtain ⟨rfl, rfl, rfl⟩ :=
      story_take_inj begun short.le rowTold.short (told.symm.trans rowTold.told)
    exact ⟨row, rfl, rowTold⟩

structure Tells (service after : Service Context) (worker : ℕ) (eventId token : String)
    (count : ℕ) (row new : Dispatch Context) : Prop where
  told : service.history eventId = (story worker token).take count
  log : ∃ act, (story worker token)[count]? = some (worker, act) ∧
    after.log = service.log ++ [⟨eventId, worker, act⟩]
  replaced : Table.Replaced service.store.dispatches after.store.dispatches eventId row new
  sound : Sound eventId new
  admitted : new.analysisAdmissionHash ≠ ""
  authority : ∃ authority, new.dispatchAuthorityJson = some authority ∧
    authority.leaseToken = token
  done : new.state = .done ↔ count = 3
  others : ∀ other, other ≠ worker → after.calls other = service.calls other
  own : (after.calls worker).phase.stage = none ∨ ∃ claim admission,
    (after.calls worker).phase.stage = some (claim, admission, count + 1) ∧ count < 3 ∧
      claim.eventId = eventId ∧ claim.leaseToken = token ∧
      admission.eventJson.eventId = eventId

theorem Tells.count_lt (tells : Tells service after worker eventId token count row new) :
    count < 4 := by
  obtain ⟨act, next, -⟩ := tells.log
  exact (List.getElem?_eq_some_iff.mp next).1

theorem Tells.history (tells : Tells service after worker eventId token count row new) :
    after.history eventId = (story worker token).take (count + 1) := by
  obtain ⟨act, next, log⟩ := tells.log
  rw [history_noted log, tells.told, List.take_add_one, next]
  rfl

theorem Tells.history_other (tells : Tells service after worker eventId token count row new)
    {other : String} (different : other ≠ eventId) :
    after.history other = service.history other := by
  obtain ⟨act, -, log⟩ := tells.log
  exact Supervisor.history_other different log

theorem Inv.tells (inv : Inv service)
    (tells : Tells service after worker eventId token count row new) : Inv after where
  sound := fun other found lookup => by
    rcases tells.replaced.lookup_eq_some lookup with ⟨rfl, rfl⟩ | ⟨-, before⟩
    · exact tells.sound
    · exact inv.sound other found before
  told := fun other found lookup => by
    rcases tells.replaced.lookup_eq_some lookup with ⟨rfl, rfl⟩ | ⟨different, before⟩
    · refine ⟨worker, token, count + 1, tells.count_lt, tells.history, ?_, fun _ =>
        tells.authority, ?_⟩
      · exact iff_of_false tells.admitted (Nat.succ_ne_zero count)
      · exact tells.done.trans ⟨fun third => by omega, fun last => by omega⟩
    · rw [tells.history_other different]
      exact inv.told other found before
  silent := fun other absent => by
    have different : other ≠ eventId := fun same => by
      rw [same, tells.replaced.self] at absent
      cases absent
    rw [tells.history_other different]
    exact inv.silent other (tells.replaced.lookup_eq_none absent)
  owned := fun other claim admission stageCount stage => by
    by_cases mine : other = worker
    · subst mine
      rcases tells.own with none | ⟨ownClaim, ownAdmission, reached, more, rfl, rfl, event⟩
      · cases none.symm.trans stage
      · obtain ⟨rfl, rest⟩ := Prod.mk.inj (Option.some.inj (reached.symm.trans stage))
        obtain ⟨rfl, rfl⟩ := Prod.mk.inj rest
        exact ⟨event, Nat.succ_pos count, by omega, tells.history⟩
    · rw [tells.others other mine] at stage
      obtain ⟨event, begun, short, told⟩ := inv.owned other claim admission stageCount stage
      -- an event whose story this worker goes on with has no other worker
      have different : claim.eventId ≠ eventId := fun same => by
        rw [same, tells.told] at told
        exact mine (story_take_inj begun short.le tells.count_lt.le told.symm).1
      rw [tells.history_other different]
      exact ⟨event, begun, short, told⟩

/-! ### What rows keep -/

/-- Ended rows stay as they are, and frozen cases stay frozen. -/
structure Keeps (row new : Dispatch Context) : Prop where
  ended : row.Terminal → new = row
  frozen : ∀ case, row.Frozen case → new.Frozen case

theorem Keeps.refl (row : Dispatch Context) : Keeps row row := ⟨fun _ => rfl, fun _ => id⟩

theorem keeps_replaced {table other : Table (Dispatch Context)} {key : String}
    {found : Dispatch Context} (replaced : Table.Replaced table other key row new)
    (keeps : Keeps row new) (lookup : table.lookup eventId = some found) :
    ∃ next, other.lookup eventId = some next ∧ Keeps found next := by
  by_cases same : eventId = key
  · subst same
    obtain rfl := Option.some.inj (lookup.symm.trans replaced.before)
    exact ⟨new, replaced.self, keeps⟩
  · exact ⟨found, (replaced.other eventId same).trans lookup, .refl found⟩

theorem keeps_outcome {store : Store Context} {call : Call Context} {turn : Turn Context}
    (outcome : Outcome worker store call turn)
    (lookup : store.dispatches.lookup eventId = some row) :
    ∃ new, turn.store.dispatches.lookup eventId = some new ∧ Keeps row new := by
  cases outcome with
  | reads => exact ⟨row, lookup, .refl row⟩
  | moves _ _ _ _ _ replaced moves =>
    exact keeps_replaced replaced ⟨moves.ended, moves.frozen⟩ lookup
  | mints _ _ _ _ _ _ replaced mints =>
    exact keeps_replaced replaced ⟨fun ended =>
      absurd ended (not_terminal_of_dispatching mints.dispatching), fun case =>
      (mints.frozen case).mpr⟩ lookup
  | calls => exact ⟨row, lookup, .refl row⟩
  | answers => exact ⟨row, lookup, .refl row⟩
  | completes _ _ _ _ _ _ _ replaced dispatching =>
    exact keeps_replaced replaced ⟨fun ended =>
      absurd ended (not_terminal_of_dispatching dispatching), fun _ => id⟩ lookup

variable {events : List PositionEvent} {nowMs : Int}

theorem keeps_record {store recorded : Store Context}
    (done : Store.record nowMs events store = some recorded)
    (lookup : store.dispatches.lookup eventId = some row) :
    recorded.dispatches.lookup eventId = some row := by
  induction events generalizing store with
  | nil =>
    obtain rfl := Option.some.inj done
    exact lookup
  | cons event rest inductionHypothesis =>
    unfold Store.record at done
    split_ifs at done
    refine inductionHypothesis done ?_
    unfold Store.insertEvent
    dsimp only
    split_ifs with present
    · exact lookup
    · have different : eventId ≠ event.eventId := fun same => by
        subst same
        exact present (.inl (AList.lookup_isSome.mp (by rw [lookup]; rfl)))
      rw [AList.lookup_insert_ne different]
      exact lookup

/-! ### Every step -/

theorem quiet_insertEvent {event : PositionEvent} :
    Quiet service { service with store := service.store.insertEvent event nowMs } where
  log := rfl
  rows := fun other new found => by
    change (Store.insertEvent service.store event nowMs).dispatches.lookup other = _ at found
    unfold Store.insertEvent at found
    dsimp only at found
    split_ifs at found with present
    · exact .inl ⟨new, found, Moves.refl new⟩
    · rcases Table.lookup_insert_eq_some.mp found with ⟨rfl, rfl⟩ | ⟨-, before⟩
      · have absent := AList.lookup_eq_none.mpr fun member => present (.inl member)
        exact .inr ⟨absent, ⟨rfl, fun leased => absurd rfl leased, by simp [Store.blankDispatch],
          fun case stored => by cases stored⟩, rfl, rfl⟩
      · exact .inl ⟨new, before, Moves.refl new⟩
  kept := fun other absent => by
    change (Store.insertEvent service.store event nowMs).dispatches.lookup other = _ at absent
    unfold Store.insertEvent at absent
    dsimp only at absent
    split_ifs at absent with present
    · exact absent
    · rw [AList.lookup_eq_none, AList.mem_insert, not_or] at absent
      exact AList.lookup_eq_none.mpr absent.2
  stages := fun _ => .inr rfl

theorem quiet_of_store (same : after.store = service.store) (log : after.log = service.log)
    (stages : ∀ worker, (after.calls worker).phase.stage = none ∨
      (after.calls worker).phase.stage = (service.calls worker).phase.stage) :
    Quiet service after where
  log := log
  rows := fun eventId new found => .inl ⟨new, by rw [← same]; exact found, Moves.refl new⟩
  kept := fun eventId absent => by rw [← same]; exact absent
  stages := stages

theorem stage_update {call : Call Context} (left : call.phase.stage = none) (other : ℕ) :
    (Function.update service.calls worker call other).phase.stage = none ∨
      (Function.update service.calls worker call other).phase.stage =
        (service.calls other).phase.stage := by
  by_cases mine : other = worker
  · subst mine
    rw [Function.update_self]
    exact .inl left
  · rw [Function.update_of_ne mine]
    exact .inr rfl

/-- The row of a story that goes on without a write. -/
theorem Told.admitted_of (told : Told row (service.history eventId) worker token count)
    (begun : 0 < count) : row.analysisAdmissionHash ≠ "" := fun blank => by
  have zero := told.admitted.mp blank
  omega

theorem inv_initial : Inv ({} : Service Context) where
  sound := fun _ _ found => by cases found
  told := fun _ _ found => by cases found
  silent := fun _ _ => rfl
  owned := fun _ _ _ _ stage => by cases stage

theorem inv_start {nowMs leaseMs maxRetries : Int} (inv : Inv service) :
    Inv (service.start worker nowMs leaseMs maxRetries) := by
  unfold Service.start
  split
  · exact inv.quiet (quiet_of_store rfl rfl (stage_update rfl))
  · exact inv

theorem inv_crash (inv : Inv service) : Inv (service.crash worker) :=
  inv.quiet (quiet_of_store rfl rfl (stage_update rfl))

theorem inv_record {recorded : Store Context} (inv : Inv service)
    (done : Store.record nowMs events service.store = some recorded) :
    Inv { service with store := recorded } := by
  induction events generalizing service with
  | nil =>
    obtain rfl := Option.some.inj done
    exact inv
  | cons event rest inductionHypothesis =>
    unfold Store.record at done
    split_ifs at done
    exact @inductionHypothesis { service with store := service.store.insertEvent event nowMs }
      (inv.quiet quiet_insertEvent) done

theorem inv_evaluate (inv : Inv service) :
    Inv (service.evaluate events nowMs) := by
  unfold Service.evaluate Store.evaluate
  cases done : Store.record nowMs events service.store with
  | none => exact inv
  | some recorded => exact inv_record inv done

variable [DecidableEq Context] {content : Content Context} {input : Input Context}

theorem inv_advance (inv : Inv service) : Inv (service.advance content worker input) := by
  have outcome : Outcome worker service.store (service.calls worker)
      ((service.calls worker).advance content worker service.store input) :=
    Call.advance_outcome inv.sound
  unfold Service.advance
  generalize (service.calls worker).advance content worker service.store input = turn at outcome
  dsimp only
  have others (call : Call Context) (other : ℕ) (different : other ≠ worker) :
      Function.update service.calls worker call other = service.calls other :=
    Function.update_of_ne different _ _
  have own (call : Call Context) (stage) (reached : call.phase.stage = stage) :
      (Function.update service.calls worker call worker).phase.stage = stage := by
    rw [Function.update_self]
    exact reached
  cases outcome with
  | reads next left =>
    exact inv.quiet (quiet_of_store rfl (List.append_nil _) (stage_update left))
  | moves store next eventId row new replaced moves left =>
    refine inv.quiet ⟨List.append_nil _, fun other found lookup => ?_, fun other =>
      replaced.lookup_eq_none, stage_update left⟩
    rcases replaced.lookup_eq_some lookup with ⟨rfl, rfl⟩ | ⟨-, before⟩
    · exact .inl ⟨row, replaced.before, moves⟩
    · exact .inl ⟨found, before, Moves.refl found⟩
  | mints store next claim admission row new replaced mints event reached =>
    have sound := inv.sound claim.eventId row replaced.before
    obtain ⟨other, token, count, told⟩ := inv.told claim.eventId row replaced.before
    obtain rfl := told.admitted.mp mints.blank
    have silent : service.history claim.eventId = (story worker claim.leaseToken).take 0 :=
      told.told
    refine inv.tells ⟨silent, ⟨_, rfl, rfl⟩, replaced, mints.sound sound,
      mints.admission, mints.authority, ?_, others next,
      .inr ⟨claim, admission, ?_, by decide, rfl, rfl, event⟩⟩
    · rw [mints.state, mints.dispatching]
      decide
    · exact own next _ reached
  | calls next claim admission before reached
  | answers next claim admission before reached =>
    obtain ⟨event, begun, short, told⟩ := inv.owned worker claim admission _ before
    obtain ⟨row, found, rowTold⟩ := inv.row_of_owner begun short told
    refine inv.tells
      ⟨told, ⟨_, rfl, rfl⟩, .refl found, inv.sound _ row found, rowTold.admitted_of begun,
        rowTold.authority (by decide), ?_, others next,
        .inr ⟨claim, admission, ?_, by decide, rfl, rfl, event⟩⟩
    · exact rowTold.done.trans (by decide)
    · exact own next _ reached
  | completes store next claim admission row now before replaced dispatching left =>
    obtain ⟨event, begun, short, told⟩ := inv.owned worker claim admission 3 before
    rw [event] at replaced
    obtain ⟨found, lookup, rowTold⟩ := inv.row_of_owner begun short told
    obtain rfl := Option.some.inj (lookup.symm.trans replaced.before)
    refine inv.tells ⟨told, ⟨_, rfl, rfl⟩, replaced, sound_completed (inv.sound _ found lookup),
        rowTold.admitted_of begun, rowTold.authority (by decide), iff_of_true rfl rfl,
        others next, .inl ?_⟩
    exact own next _ left

/-- Every step keeps the invariant. -/
theorem inv_step (inv : Inv service) (event : Event Context) :
    Inv (service.step content event) := by
  cases event with
  | evaluate => exact inv_evaluate inv
  | start => exact inv_start inv
  | advance => exact inv_advance inv
  | crash => exact inv_crash inv

theorem keeps_step (inv : Inv service) (event : Event Context)
    (lookup : service.store.dispatches.lookup eventId = some row) :
    ∃ new, (service.step content event).store.dispatches.lookup eventId = some new ∧
      Keeps row new := by
  cases event with
  | evaluate events nowMs =>
    refine ⟨row, ?_, .refl row⟩
    show (Store.evaluate service.store events nowMs).dispatches.lookup eventId = some row
    unfold Store.evaluate
    cases done : Store.record nowMs events service.store with
    | none => exact lookup
    | some recorded => exact keeps_record done lookup
  | start other nowMs leaseMs maxRetries =>
    refine ⟨row, ?_, .refl row⟩
    show (service.start other nowMs leaseMs maxRetries).store.dispatches.lookup eventId = some row
    unfold Service.start
    split
    · exact lookup
    · exact lookup
  | advance => exact keeps_outcome (Call.advance_outcome inv.sound) lookup
  | crash => exact ⟨row, lookup, .refl row⟩

end QuantAgent.Supervisor
