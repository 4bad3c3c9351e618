/-
This file proves that every call of the drain loop ends once no new events arrive, and states what
the outbox guarantees. Each claim uses up a retry of a row or ends the row, and between two claims
a call takes a bounded number of steps.
-/

import QuantAgent.Supervisor.Outbox

namespace QuantAgent.Supervisor

open Dispatch

variable {Context : Type}

/-! ### Measures -/

namespace Phase

/-- How many steps are left to the next claim, counting it. -/
def rank : Phase Context → ℕ
  | idle | returned | crashed => 0
  | claiming => 1
  | failing _ | postponing _ _ | refusing _ | abandoning _ => 2
  | completing _ _ => 3
  | awaiting _ _ => 4
  | analyzing _ _ => 5
  | minting _ _ => 6
  | freezing _ _ => 7
  | confirming _ _ => 8
  | fetching _ _ => 9
  | requesting _ => 10
  | verifying _ => 11

/-- The call is over. -/
def Finished (phase : Phase Context) : Prop := phase = returned ∨ phase = crashed

theorem finished_of_rank {phase : Phase Context} (spent : phase.rank = 0)
    (started : phase ≠ idle) : phase.Finished := by
  cases phase with
  | idle => exact absurd rfl started
  | returned => exact .inl rfl
  | crashed => exact .inr rfl
  | _ => cases spent

end Phase

/-- How many more claims with this limit the row allows. -/
def Dispatch.allowance (maxRetries : Int) (row : Dispatch Context) : ℕ :=
  if row.Terminal then 0 else (maxRetries - row.retryCount).toNat + 1

/-- A bound on the steps that are left to a call. -/
def Call.fuel (store : Store Context) (call : Call Context) : ℕ :=
  if call.phase.rank = 0 then 0
  else 11 * store.dispatches.total (allowance call.maxRetries) + call.phase.rank

variable {row new : Dispatch Context} {maxRetries now leaseMs : Int} {token eventId : String}
  {store : Store Context} {worker : ℕ} {call : Call Context} {turn : Turn Context}

theorem allowance_moves (moves : Moves row new) :
    new.allowance maxRetries ≤ row.allowance maxRetries := by
  by_cases ended : row.Terminal
  · rw [moves.ended ended]
  · unfold allowance
    rw [if_neg ended]
    split_ifs
    · exact Nat.zero_le _
    · have retries := moves.retries
      omega

theorem terminal_failed : (row.failed now).Terminal := by
  simp [Terminal, Dispatch.failed]

theorem terminal_completed : (row.completed now).Terminal := by
  simp [Terminal, completed]

theorem allowance_failed (running : ¬ row.Terminal) :
    (row.failed now).allowance maxRetries < row.allowance maxRetries := by
  unfold allowance
  rw [if_neg running, if_pos terminal_failed]
  exact Nat.succ_pos _

theorem allowance_claimed (running : ¬ row.Terminal) (left : (row.retryCount : Int) < maxRetries) :
    (row.claimed token now leaseMs).allowance maxRetries < row.allowance maxRetries := by
  unfold allowance
  rw [if_neg running, if_neg (not_terminal_of_dispatching rfl)]
  show (maxRetries - ((row.retryCount + 1 : ℕ) : Int)).toNat + 1 < _
  omega

theorem allowance_mints (mints : Mints token row new) :
    new.allowance maxRetries = row.allowance maxRetries := by
  unfold allowance
  rw [if_neg (not_terminal_of_dispatching (mints.state.trans mints.dispatching)),
    if_neg (not_terminal_of_dispatching mints.dispatching), mints.retries]

theorem allowance_completed : (row.completed now).allowance maxRetries = 0 :=
  if_pos terminal_completed

/-- No step gives a row more claims. -/
theorem total_outcome (outcome : Outcome worker store call turn) :
    turn.store.dispatches.total (allowance maxRetries) ≤
      store.dispatches.total (allowance maxRetries) := by
  cases outcome with
  | reads => exact le_rfl
  | moves _ _ _ _ _ replaced moves => exact replaced.total_le (allowance_moves moves)
  | mints _ _ _ _ _ _ replaced mints => exact replaced.total_le (allowance_mints mints).le
  | calls => exact le_rfl
  | answers => exact le_rfl
  | completes _ _ _ _ _ _ _ replaced =>
    exact replaced.total_le (by rw [allowance_completed]; exact Nat.zero_le _)

/-! ### Steps of a call -/

namespace Call

variable {input : Input Context} {claim : Claim} {event : PositionEvent}
  {case : CasePackage Context} {admission : Admission Context}

theorem claimNext_lowers
    (sound : AllSound store) :
    (claimNext store call input).call.phase = .returned ∨
      (claimNext store call input).call.phase.rank ≤ 11 ∧
      (claimNext store call input).call.phase ≠ .idle ∧
      (claimNext store call input).store.dispatches.total (allowance call.maxRetries) <
        store.dispatches.total (allowance call.maxRetries) := by
  unfold claimNext
  split
  · exact .inl rfl
  · next row found =>
    obtain ⟨stored, claimable⟩ := candidate_found sound found
    have running := not_terminal_of_claimable claimable
    split
    · exact .inr ⟨Nat.le_add_left 1 10, by rintro ⟨⟩,
        (replaced_update_of stored trivial).total_lt (allowance_failed running)⟩
    · next fresh =>
      refine .inr ⟨le_rfl, by rintro ⟨⟩, (replaced_update_of stored claimable).total_lt ?_⟩
      exact allowance_claimed running (by omega)

theorem claimNext_maxRetries : (claimNext store call input).call.maxRetries = call.maxRetries := by
  unfold claimNext
  split
  · rfl
  · split
    · rfl
    · rfl

/-- A started phase from which less than a number of steps is left to the next claim. -/
def Below (bound : ℕ) (phase : Phase Context) : Prop := phase.rank < bound ∧ phase ≠ .idle

theorem below_afterFault (fault : Fault) : Below 3 (afterFault claim fault : Phase Context) := by
  cases fault with
  | keyError => exact ⟨Nat.succ_pos 2, nofun⟩
  | valueError => exact ⟨Nat.lt_add_one 2, nofun⟩

theorem Below.mono {bound larger : ℕ} {phase : Phase Context} (below : Below bound phase)
    (le : bound ≤ larger) : Below larger phase :=
  ⟨below.1.trans_le le, below.2⟩

theorem below_freeze : Below 7 (freeze store call input claim case).call.phase ∧
    (freeze store call input claim case).call.maxRetries = call.maxRetries := by
  unfold freeze
  split
  · exact ⟨⟨Nat.lt_add_one 6, by rintro ⟨⟩⟩, rfl⟩
  · exact ⟨⟨Nat.succ_pos 6, by rintro ⟨⟩⟩, rfl⟩

theorem below_receive : Below 4 (receive worker store call input claim admission).call.phase ∧
    (receive worker store call input claim admission).call.maxRetries = call.maxRetries := by
  unfold receive
  split
  · exact ⟨⟨Nat.lt_add_one 3, nofun⟩, rfl⟩
  · exact ⟨⟨Nat.succ_pos 3, nofun⟩, rfl⟩
  · exact ⟨⟨by show 2 < 4; decide, nofun⟩, rfl⟩

theorem fuel_of_working (working : call.phase.rank ≠ 0) : call.fuel store =
    11 * store.dispatches.total (allowance call.maxRetries) + call.phase.rank :=
  if_neg working

theorem rank_of_fuel (spent : call.fuel store = 0) : call.phase.rank = 0 := by
  by_contra working
  rw [fuel_of_working working] at spent
  omega

variable {content : Content Context}

theorem below_fetch : Below 9 (fetch content input claim event) := by
  unfold fetch
  split
  · exact ⟨Nat.lt_add_one 8, nofun⟩
  · exact ⟨by show 2 < 9; decide, nofun⟩

variable [DecidableEq Context]

theorem below_verify : Below 11 (verify content store claim) := by
  unfold verify
  split
  · exact (below_afterFault _).mono (by decide)
  · split
    · exact ⟨Nat.lt_add_one 10, nofun⟩
    · split
      · exact ⟨by show 6 < 11; decide, nofun⟩
      · exact ⟨by show 2 < 11; decide, nofun⟩

theorem below_request : Below 10 (request content store claim) := by
  unfold request
  split
  · exact (below_afterFault _).mono (by decide)
  · exact ⟨Nat.lt_add_one 9, nofun⟩

theorem below_confirm : Below 8 (confirm content store claim case) := by
  unfold confirm
  split
  · exact (below_afterFault _).mono (by decide)
  · exact ⟨Nat.lt_add_one 7, nofun⟩

theorem below_mint : Below 6 (mint content worker store call input claim case).call.phase ∧
    (mint content worker store call input claim case).call.maxRetries = call.maxRetries := by
  unfold mint
  split
  · exact ⟨⟨Nat.succ_pos 5, nofun⟩, rfl⟩
  · exact ⟨⟨by show 2 < 6; decide, nofun⟩, rfl⟩
  · split
    · exact ⟨⟨by show 3 < 6; decide, nofun⟩, rfl⟩
    · exact ⟨⟨Nat.lt_add_one 5, nofun⟩, rfl⟩

theorem below_complete :
    Below 3 (complete content worker store call input claim admission).call.phase ∧
      (complete content worker store call input claim admission).call.maxRetries =
        call.maxRetries := by
  unfold complete
  split
  · exact ⟨⟨Nat.succ_pos 2, nofun⟩, rfl⟩
  · exact ⟨⟨Nat.lt_add_one 2, nofun⟩, rfl⟩
  · exact ⟨⟨by show 1 < 3; decide, nofun⟩, rfl⟩

/-- Between claims each step comes closer to the next one. -/
theorem below_advance (working : call.phase.rank ≠ 0) (busy : call.phase ≠ .claiming) :
    Below call.phase.rank (call.advance content worker store input).call.phase ∧
      (call.advance content worker store input).call.maxRetries = call.maxRetries := by
  unfold advance
  split
  case h_1 now => exact absurd (by rw [now]; rfl) working
  case h_2 now => exact absurd (by rw [now]; rfl) working
  case h_3 now => exact absurd (by rw [now]; rfl) working
  case h_4 now => exact absurd now busy
  case h_5 now => rw [now]; exact ⟨below_verify, rfl⟩
  case h_6 now => rw [now]; exact ⟨below_request, rfl⟩
  case h_7 now => rw [now]; exact ⟨below_fetch, rfl⟩
  case h_8 now => rw [now]; exact ⟨below_confirm, rfl⟩
  case h_9 now => rw [now]; exact below_freeze
  case h_10 now => rw [now]; exact below_mint
  case h_11 now => rw [now]; exact ⟨⟨Nat.lt_add_one 4, nofun⟩, rfl⟩
  case h_12 now => rw [now]; exact below_receive
  case h_13 now => rw [now]; exact below_complete
  case h_14 now => rw [now]; exact ⟨⟨Nat.lt_add_one 1, nofun⟩, rfl⟩
  case h_15 now => rw [now]; exact ⟨⟨Nat.lt_add_one 1, nofun⟩, rfl⟩
  case h_16 now => rw [now]; exact ⟨⟨Nat.lt_add_one 1, nofun⟩, rfl⟩
  case h_17 now => rw [now]; exact ⟨⟨Nat.lt_add_one 1, nofun⟩, rfl⟩

theorem advance_idle (spent : call.phase.rank = 0) :
    call.advance content worker store input = ⟨store, call, []⟩ := by
  unfold advance
  split
  · rfl
  · rfl
  · rfl
  all_goals
    rename_i now
    rw [now] at spent
    cases spent

theorem fuel_advance
    (sound : AllSound store)
    (working : call.phase.rank ≠ 0) :
    (call.advance content worker store input).call.fuel
        (call.advance content worker store input).store < call.fuel store := by
  rw [fuel_of_working working]
  by_cases next : (call.advance content worker store input).call.phase.rank = 0
  · unfold fuel
    rw [if_pos next]
    omega
  · rw [fuel_of_working next]
    by_cases claims : call.phase = .claiming
    · have step : call.advance content worker store input = claimNext store call input := by
        unfold advance
        rw [claims]
      rw [step, claimNext_maxRetries]
      rw [step] at next
      rcases claimNext_lowers sound with ended | ⟨bounded, -, lower⟩
      · exact absurd (by rw [ended]; rfl) next
      · omega
    · obtain ⟨⟨lower, -⟩, same⟩ := below_advance working claims
      have total : (call.advance content worker store input).store.dispatches.total
          (allowance call.maxRetries) ≤ _ := total_outcome
        (advance_outcome sound : Outcome worker store call
          (call.advance content worker store input))
      rw [same]
      omega

theorem advance_started
    (sound : AllSound store)
    (started : call.phase ≠ .idle) :
    (call.advance content worker store input).call.phase ≠ .idle := by
  by_cases spent : call.phase.rank = 0
  · rw [advance_idle spent]
    exact started
  · by_cases claims : call.phase = .claiming
    · have step : call.advance content worker store input = claimNext store call input := by
        unfold advance
        rw [claims]
      rw [step]
      rcases claimNext_lowers sound with ended | ⟨-, started, -⟩
      · rw [ended]
        nofun
      · exact started
    · exact (below_advance spent claims).1.2

end Call

/-! ### What the outbox guarantees -/

namespace Service

variable {service : Service Context}

def AnalyzedOnce (service : Service Context) (eventId : String) : Prop :=
  (service.history eventId).countP (fun act => act.2 = .analyzed) ≤ 1

/-- A dispatch that is `DONE` was completed by the worker, and under the lease, that minted its
admission, after one call of the analysis was answered. -/
def DoneByOwner (service : Service Context) (eventId : String) : Prop :=
  ∀ row, service.store.dispatches.lookup eventId = some row → row.state = .done →
    ∃ worker authority, row.dispatchAuthorityJson = some authority ∧
      service.history eventId = story worker authority.leaseToken

/-- A dispatch that holds a case holds all of its columns. -/
def FrozenWhole (service : Service Context) (eventId : String) : Prop :=
  ∀ row case, service.store.dispatches.lookup eventId = some row →
    row.positionCaseJson = some case → row.Frozen case

def RowIs (eventId : String) (condition : Dispatch Context → Prop) (service : Service Context) :
    Prop :=
  ∃ row, service.store.dispatches.lookup eventId = some row ∧ condition row

theorem analyzedOnce (inv : Inv service) (eventId : String) :
    service.AnalyzedOnce eventId := by
  unfold AnalyzedOnce
  cases lookup : service.store.dispatches.lookup eventId with
  | none =>
    rw [inv.silent eventId lookup]
    exact Nat.zero_le 1
  | some row =>
    obtain ⟨worker, token, count, told⟩ := inv.told eventId row lookup
    rw [told.told]
    exact (List.take_sublist count (story worker token)).countP_le

theorem doneByOwner (inv : Inv service) (eventId : String) : service.DoneByOwner eventId := by
  intro row lookup done
  obtain ⟨worker, token, count, told⟩ := inv.told eventId row lookup
  obtain rfl := told.done.mp done
  obtain ⟨authority, stored, rfl⟩ := told.authority (by decide)
  exact ⟨worker, authority, stored, told.told⟩

end Service

/-! ### Runs -/

namespace Event

def records : Event Context → Bool
  | .evaluate .. => true
  | _ => false

def stepOf (worker : ℕ) : Event Context → Bool
  | .advance other _ => other = worker
  | _ => false

end Event

namespace Service

variable {service after : Service Context} {nowMs : Int} {other : ℕ}

/-- A bound on the steps that are left to a worker. -/
def fuel (service : Service Context) (worker : ℕ) : ℕ :=
  (service.calls worker).fuel service.store

/-- A started worker stays so and gets no more fuel. -/
structure Spends (worker : ℕ) (service after : Service Context) : Prop where
  started : (after.calls worker).phase ≠ .idle
  fuel_le : after.fuel worker ≤ service.fuel worker

theorem spends_of_same (running : (service.calls worker).phase ≠ .idle)
    (same : after.calls worker = service.calls worker)
    (total : after.store.dispatches.total
        (allowance (service.calls worker).maxRetries) ≤
      service.store.dispatches.total (allowance (service.calls worker).maxRetries)) :
    Spends worker service after where
  started := by rw [same]; exact running
  fuel_le := by
    unfold fuel
    rw [same]
    unfold Call.fuel
    split_ifs
    · exact le_rfl
    · omega

theorem spends_start (running : (service.calls worker).phase ≠ .idle) :
    Spends worker service (service.start other nowMs leaseMs maxRetries) := by
  unfold start
  split
  · next idle =>
    have different : worker ≠ other := fun same => running (by rw [same]; exact idle)
    exact spends_of_same running (Function.update_of_ne different _ _) le_rfl
  · exact spends_of_same running rfl le_rfl

theorem spends_crash (running : (service.calls worker).phase ≠ .idle) :
    Spends worker service (service.crash other) := by
  by_cases mine : worker = other
  · subst mine
    have crashed : (service.crash worker).calls worker =
        (service.calls worker).become .crashed := Function.update_self ..
    refine ⟨by rw [crashed]; nofun, ?_⟩
    unfold fuel
    rw [crashed]
    exact Nat.zero_le _
  · exact spends_of_same running (Function.update_of_ne mine _ _) le_rfl

variable [DecidableEq Context] {content : Content Context} {input : Input Context}

theorem calls_advance : (service.advance content worker input).calls worker =
    ((service.calls worker).advance content worker service.store input).call :=
  Function.update_self ..

theorem fuel_advance (inv : Inv service) (left : service.fuel worker ≠ 0) :
    (service.advance content worker input).fuel worker < service.fuel worker := by
  unfold fuel
  rw [calls_advance]
  exact Call.fuel_advance inv.sound fun spent => left (if_pos spent)

theorem spends_advance (inv : Inv service) (running : (service.calls worker).phase ≠ .idle) :
    Spends worker service (service.advance content other input) := by
  by_cases mine : worker = other
  · subst mine
    refine ⟨by rw [calls_advance]; exact Call.advance_started inv.sound running, ?_⟩
    by_cases spent : (service.calls worker).phase.rank = 0
    · unfold fuel advance
      rw [Call.advance_idle spent]
      have same : Function.update service.calls worker (service.calls worker) worker =
          service.calls worker := Function.update_self ..
      exact (congrArg (Call.fuel service.store) same).le
    · refine (fuel_advance inv fun none => spent ?_).le
      unfold fuel at none
      exact Call.rank_of_fuel none
  · exact spends_of_same running (Function.update_of_ne mine _ _)
      (total_outcome (Call.advance_outcome inv.sound))

theorem spends_step (inv : Inv service) (running : (service.calls worker).phase ≠ .idle)
    {event : Event Context} (old : event.records = false) :
    Spends worker service (service.step content event) := by
  cases event with
  | evaluate => cases old
  | start => exact spends_start running
  | advance => exact spends_advance inv running
  | crash => exact spends_crash running

variable {events : List (Event Context)}

theorem finished_of_steps (inv : Inv service) (running : (service.calls worker).phase ≠ .idle)
    (old : events.all fun event => !event.records)
    (enough : service.fuel worker ≤ events.countP (Event.stepOf worker)) :
    ((Runs.run (step content) service events).calls worker).phase.Finished := by
  obtain ⟨⟨-, started⟩, spent⟩ := Runs.potential_of_steps (step content)
    (fun service => Inv service ∧ (service.calls worker).phase ≠ .idle)
    (fun service => service.fuel worker) (fun event => !event.records) (Event.stepOf worker)
    (fun service event inv old => ⟨inv_step inv.1 event,
      (spends_step inv.1 inv.2 (by simpa using old)).started⟩)
    (fun service event inv old => (spends_step inv.1 inv.2 (by simpa using old)).fuel_le)
    (fun service event inv own left => by
      cases event with
      | advance other input =>
        obtain rfl := of_decide_eq_true own
        exact fuel_advance inv.1 left
      | _ => cases own)
    ⟨inv, running⟩ old enough
  exact Phase.finished_of_rank (Call.rank_of_fuel spent) started

theorem inv_throughout (events : List (Event Context)) :
    Runs.Throughout (step content) Inv ({} : Service Context) events := by
  refine Runs.throughout_of_keeps ?_ ?_ events
  · exact fun service event inv => inv_step inv event
  · exact inv_initial

theorem rowIs_forever {condition : Dispatch Context → Prop}
    (keeps : ∀ row new, Keeps row new → condition row → condition new) (eventId : String) :
    Runs.Forever (step content) (RowIs eventId condition) {} events := by
  rw [Runs.forever_iff_each]
  refine Runs.each_of_throughout (inv_throughout events) fun service event inv _ => ?_
  rintro ⟨row, lookup, holds⟩
  obtain ⟨new, found, kept⟩ := keeps_step inv event lookup
  exact ⟨new, found, keeps row new kept holds⟩

/-- In every run of drains, takeovers and crashes an event is analyzed at most once, done only by
the owner of its admission, and keeps its frozen case; the two final states are final; and without
new events every call that was started is over after a bounded number of its steps. -/
theorem outbox_guarantees (content : Content Context) (events : List (Event Context)) :
    Runs.Throughout (step content) (fun service => ∀ eventId, service.AnalyzedOnce eventId ∧
      service.DoneByOwner eventId ∧ service.FrozenWhole eventId) {} events ∧
    (∀ eventId case, Runs.Forever (step content) (RowIs eventId (Frozen case)) {}
      events) ∧
    (∀ eventId, Runs.Forever (step content) (RowIs eventId fun row => row.state = .done) {}
      events) ∧
    (∀ eventId, Runs.Forever (step content)
      (RowIs eventId fun row => row.state = .failedClosed) {} events) ∧
    ∀ worker later, ((Runs.run (step content) {} events).calls worker).phase ≠ .idle →
      (later.all fun event => !event.records) →
      (Runs.run (step content) {} events).fuel worker ≤ later.countP (Event.stepOf worker) →
      ((Runs.run (step content) {} (events ++ later)).calls worker).phase.Finished := by
  have throughout : Runs.Throughout (step content) Inv ({} : Service Context) events :=
    inv_throughout events
  refine ⟨throughout.mono fun service inv eventId => ?_, fun eventId case => ?_, fun eventId => ?_,
    fun eventId => ?_, fun worker later running old enough => ?_⟩
  · exact ⟨analyzedOnce inv eventId, doneByOwner inv eventId, fun row case lookup =>
      (inv.sound eventId row lookup).whole case⟩
  · exact rowIs_forever (fun row new keeps => keeps.frozen case) eventId
  · refine rowIs_forever (fun row new keeps done => ?_) eventId
    rw [keeps.ended (by unfold Terminal; rw [done]; decide)]
    exact done
  · refine rowIs_forever (fun row new keeps failed => ?_) eventId
    rw [keeps.ended (by unfold Terminal; rw [failed]; decide)]
    exact failed
  · rw [Runs.run_append]
    exact finished_of_steps throughout.last running old enough

end Service

end QuantAgent.Supervisor
