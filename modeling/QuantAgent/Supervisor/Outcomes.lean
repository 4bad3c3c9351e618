/-
This file says what one step of a drain worker can do. It reads, or it rewrites one dispatch row
in a way that leaves the admission alone, or it takes the analysis of an event one stage further:
minted, called, answered, completed. Each stage is noted, and a worker reaches the next one only
from the one before.
-/

import QuantAgent.Supervisor.Drain

namespace QuantAgent.Supervisor

variable {Context : Type}

/-! ### Rows -/

/-- What holds of every stored row. -/
structure Sound (eventId : String) (row : Dispatch Context) : Prop where
  keyed : row.eventId = eventId
  leased : row.leaseToken ≠ none → row.state = .dispatching
  completed : row.analysisCompleted = true ↔ row.state = .done
  whole : ∀ case, row.positionCaseJson = some case → row.Frozen case

/-- What the statements that neither mint nor complete do to a row. -/
structure Moves (row new : Dispatch Context) : Prop where
  keyed : new.eventId = row.eventId
  ended : row.Terminal → new = row
  leased : (row.leaseToken ≠ none → row.state = .dispatching) →
    new.leaseToken ≠ none → new.state = .dispatching
  frozen : ∀ case, row.Frozen case → new.Frozen case
  whole : ∀ case, new.positionCaseJson = some case →
    row.positionCaseJson = some case ∨ new.Frozen case
  authority : new.dispatchAuthorityJson = row.dispatchAuthorityJson
  admission : new.analysisAdmissionHash = row.analysisAdmissionHash
  completed : new.analysisCompleted = row.analysisCompleted
  done : new.state = .done ↔ row.state = .done
  retries : row.retryCount ≤ new.retryCount

/-- What the minting statement does to a row. -/
structure Mints (token : String) (row new : Dispatch Context) : Prop where
  keyed : new.eventId = row.eventId
  blank : row.analysisAdmissionHash = ""
  admission : new.analysisAdmissionHash ≠ ""
  authority : ∃ authority, new.dispatchAuthorityJson = some authority ∧
    authority.leaseToken = token
  dispatching : row.state = .dispatching
  state : new.state = row.state
  leaseToken : new.leaseToken = row.leaseToken
  completed : new.analysisCompleted = row.analysisCompleted
  caseJson : new.positionCaseJson = row.positionCaseJson
  frozen : ∀ case, new.Frozen case ↔ row.Frozen case
  retries : new.retryCount = row.retryCount

/-- Every row of the store is sound. -/
abbrev AllSound (store : Store Context) : Prop :=
  ∀ eventId row, store.dispatches.lookup eventId = some row → Sound eventId row

variable {row new : Dispatch Context} {eventId token : String} {now leaseMs : Int}
  {case : CasePackage Context}

theorem Moves.refl (row : Dispatch Context) : Moves row row where
  keyed := rfl
  ended := fun _ => rfl
  leased := id
  frozen := fun _ => id
  whole := fun _ => .inl
  authority := rfl
  admission := rfl
  completed := rfl
  done := Iff.rfl
  retries := le_rfl

theorem Moves.sound (moves : Moves row new) (sound : Sound eventId row) : Sound eventId new where
  keyed := moves.keyed.trans sound.keyed
  leased := moves.leased sound.leased
  completed := by rw [moves.completed, moves.done, sound.completed]
  whole := fun case stored => by
    rcases moves.whole case stored with before | whole
    · exact moves.frozen case (sound.whole case before)
    · exact whole

theorem Mints.sound (mints : Mints token row new) (sound : Sound eventId row) :
    Sound eventId new where
  keyed := mints.keyed.trans sound.keyed
  leased := by rw [mints.leaseToken, mints.state]; exact sound.leased
  completed := by rw [mints.completed, mints.state]; exact sound.completed
  whole := fun case stored =>
    (mints.frozen case).mpr (sound.whole case (mints.caseJson.symm.trans stored))

theorem sound_completed (sound : Sound eventId row) : Sound eventId (row.completed now) where
  keyed := sound.keyed
  leased := fun leased => absurd rfl leased
  completed := iff_of_true rfl rfl
  whole := sound.whole

theorem not_terminal_of_dispatching (dispatching : row.state = .dispatching) : ¬ row.Terminal := by
  unfold Dispatch.Terminal
  rw [dispatching]
  decide

theorem not_terminal_of_claimable (claimable : row.Claimable now) : ¬ row.Terminal := by
  rcases claimable with pending | dispatching
  · unfold Dispatch.Terminal
    rw [pending]
    decide
  · exact not_terminal_of_dispatching dispatching.1

theorem Sound.dispatching (sound : Sound eventId row) (leased : row.Leased token) :
    row.state = .dispatching :=
  sound.leased fun free => by cases free.symm.trans leased

section

variable (running : ¬ row.Terminal)

include running

theorem not_done : row.state ≠ .done := fun done =>
  running (by unfold Dispatch.Terminal; rw [done]; decide)

/-- A write to an open row that leaves it open or fails it, and keeps case and admission. -/
theorem moves_of_open (keyed : new.eventId = row.eventId)
    (leased : new.leaseToken ≠ none → new.state = .dispatching)
    (caseId : new.positionCaseId = row.positionCaseId)
    (positionCaseHash : new.positionCaseHash = row.positionCaseHash)
    (caseJson : new.positionCaseJson = row.positionCaseJson)
    (caseHash : new.caseHash = row.caseHash)
    (authority : new.dispatchAuthorityJson = row.dispatchAuthorityJson)
    (admission : new.analysisAdmissionHash = row.analysisAdmissionHash)
    (completed : new.analysisCompleted = row.analysisCompleted) (done : new.state ≠ .done)
    (retries : row.retryCount ≤ new.retryCount) : Moves row new where
  keyed := keyed
  ended := fun ended => absurd ended running
  leased := fun _ => leased
  frozen := fun case => by
    unfold Dispatch.Frozen
    rw [caseId, positionCaseHash, caseJson, caseHash]
    exact id
  whole := fun case stored => .inl (caseJson.symm.trans stored)
  authority := authority
  admission := admission
  completed := completed
  done := iff_of_false done (not_done running)
  retries := retries

theorem moves_failed : Moves row (row.failed now) :=
  moves_of_open running rfl (fun leased => absurd rfl leased) rfl rfl rfl rfl rfl rfl rfl
    (by simp [Dispatch.failed]) le_rfl

theorem moves_abandoned : Moves row (row.abandoned now) :=
  moves_of_open running rfl (fun leased => absurd rfl leased) rfl rfl rfl rfl rfl rfl rfl
    (by simp [Dispatch.abandoned, Dispatch.failed]) le_rfl

theorem moves_claimed : Moves row (row.claimed token now leaseMs) :=
  moves_of_open running rfl (fun _ => rfl) rfl rfl rfl rfl rfl rfl rfl
    (by simp [Dispatch.claimed]) (Nat.le_succ _)

theorem moves_postponed {mismatch : Bool} {maxRetries : Int} :
    Moves row (row.postponed mismatch maxRetries now) := by
  refine moves_of_open running rfl (fun leased => absurd rfl leased) rfl rfl rfl rfl rfl rfl rfl
    ?_ le_rfl
  show (if _ then DispatchState.failedClosed else .pending) ≠ .done
  split_ifs
  · decide
  · decide

end

theorem moves_frozen {claim : Claim} (freezable : Call.Freezable claim now row) :
    Moves row (row.frozen case now) where
  keyed := rfl
  ended := fun ended => absurd ended (not_terminal_of_dispatching freezable.2.2.1.1)
  leased := id
  frozen := fun other stored => by cases freezable.2.2.2.symm.trans stored.2.2.1
  whole := fun other stored => .inr (by cases stored; exact ⟨rfl, rfl, rfl, rfl⟩)
  authority := rfl
  admission := rfl
  completed := rfl
  done := Iff.rfl
  retries := le_rfl

theorem mints_admitted {content : Content Context} {authority : Authority}
    (mintable : Mintable case token now row) (minted : authority.leaseToken = token) :
    Mints token row (row.admitted content authority now leaseMs) where
  keyed := rfl
  blank := mintable.2.1
  admission := content.admissionHash_ne _
  authority := ⟨authority, rfl, minted⟩
  dispatching := mintable.1.1
  state := rfl
  leaseToken := rfl
  completed := rfl
  caseJson := rfl
  frozen := fun _ => Iff.rfl
  retries := rfl

/-! ### Updates -/

variable {store : Store Context} {write : Dispatch Context → Dispatch Context}
  {condition : Dispatch Context → Prop}

theorem replaced_update [DecidablePred condition]
    (found : store.dispatches.lookup eventId = some row) :
    Table.Replaced store.dispatches (store.update eventId condition write).dispatches eventId row
      (if condition row then write row else row) :=
  Table.replaced_modify found

theorem replaced_update_of [DecidablePred condition]
    (found : store.dispatches.lookup eventId = some row) (holds : condition row) :
    Table.Replaced store.dispatches (store.update eventId condition write).dispatches eventId row
      (write row) := by
  have replaced : Table.Replaced store.dispatches (store.update eventId condition write).dispatches
      eventId row (if condition row then write row else row) := replaced_update found
  rwa [if_pos holds] at replaced

/-! ### Steps -/

namespace Phase

/-- The claim, the admission and how many acts are noted, while an analysis is under way. -/
def stage : Phase Context → Option (Claim × Admission Context × ℕ)
  | analyzing claim admission => some (claim, admission, 1)
  | awaiting claim admission => some (claim, admission, 2)
  | completing claim admission => some (claim, admission, 3)
  | _ => none

end Phase

/-- What a step can come to. -/
inductive Outcome (worker : ℕ) (store : Store Context) (call : Call Context) : Turn Context → Prop
  | reads (next : Call Context) (left : next.phase.stage = none) :
      Outcome worker store call ⟨store, next, []⟩
  | moves (after : Store Context) (next : Call Context) (eventId : String)
      (row new : Dispatch Context)
      (replaced : Table.Replaced store.dispatches after.dispatches eventId row new)
      (moves : Moves row new) (left : next.phase.stage = none) :
      Outcome worker store call ⟨after, next, []⟩
  | mints (after : Store Context) (next : Call Context) (claim : Claim)
      (admission : Admission Context) (row new : Dispatch Context)
      (replaced : Table.Replaced store.dispatches after.dispatches claim.eventId row new)
      (mints : Mints claim.leaseToken row new)
      (event : admission.eventJson.eventId = claim.eventId)
      (reached : next.phase.stage = some (claim, admission, 1)) :
      Outcome worker store call
        ⟨after, next, [⟨claim.eventId, worker, .minted claim.leaseToken⟩]⟩
  | calls (next : Call Context) (claim : Claim) (admission : Admission Context)
      (before : call.phase.stage = some (claim, admission, 1))
      (reached : next.phase.stage = some (claim, admission, 2)) :
      Outcome worker store call ⟨store, next, [⟨claim.eventId, worker, .analyzed⟩]⟩
  | answers (next : Call Context) (claim : Claim) (admission : Admission Context)
      (before : call.phase.stage = some (claim, admission, 2))
      (reached : next.phase.stage = some (claim, admission, 3)) :
      Outcome worker store call ⟨store, next, [⟨claim.eventId, worker, .answered⟩]⟩
  | completes (after : Store Context) (next : Call Context) (claim : Claim)
      (admission : Admission Context) (row : Dispatch Context) (now : Int)
      (before : call.phase.stage = some (claim, admission, 3))
      (replaced : Table.Replaced store.dispatches after.dispatches admission.eventJson.eventId row
        (row.completed now))
      (dispatching : row.state = .dispatching) (left : next.phase.stage = none) :
      Outcome worker store call
        ⟨after, next, [⟨claim.eventId, worker, .completed claim.leaseToken⟩]⟩

namespace Call

variable {content : Content Context} {event : PositionEvent} {worker : ℕ}
  {call next : Call Context} {input : Input Context} {claim : Claim}
  {admission : Admission Context}

theorem outcome_update [DecidablePred condition]
    (moves : ∀ row, store.dispatches.lookup eventId = some row → condition row →
      Moves row (write row)) (left : next.phase.stage = none) :
    Outcome worker store call ⟨store.update eventId condition write, next, []⟩ := by
  cases found : store.dispatches.lookup eventId with
  | none =>
    have unchanged : store.update eventId condition write = store := by
      unfold Store.update Table.modify
      rw [found]
    rw [unchanged]
    exact .reads next left
  | some row =>
    refine .moves _ next eventId row _ (replaced_update found) ?_ left
    by_cases holds : condition row
    · rw [if_pos holds]
      exact moves row found holds
    · rw [if_neg holds]
      exact Moves.refl row

/-- The candidate is a claimable row of the table. -/
theorem candidate_mem {choice : ℕ} (found : candidate store now choice = some row) :
    row ∈ store.dispatches.rows ∧ row.Claimable now := by
  unfold candidate at found
  have member := List.mem_of_getElem? found
  obtain ⟨claimable, -⟩ := List.mem_filter.mp member
  obtain ⟨stored, claimable⟩ := List.mem_filter.mp claimable
  exact ⟨stored, of_decide_eq_true claimable⟩

theorem candidate_found {choice : ℕ}
    (sound : AllSound store)
    (found : candidate store now choice = some row) :
    store.dispatches.lookup row.eventId = some row ∧ row.Claimable now := by
  obtain ⟨member, claimable⟩ := candidate_mem found
  obtain ⟨key, stored⟩ := Table.mem_rows.mp member
  rw [(sound key row stored).keyed]
  exact ⟨stored, claimable⟩

theorem stage_afterFault (fault : Fault) :
    (afterFault claim fault : Phase Context).stage = none := by
  cases fault with
  | keyError => rfl
  | valueError => rfl

theorem stage_fetch : (fetch content input claim event).stage = none := by
  unfold fetch
  split
  · rfl
  · rfl

theorem claimNext_outcome
    (sound : AllSound store) :
    Outcome worker store call (claimNext store call input) := by
  unfold claimNext
  split
  · exact .reads _ rfl
  · next row found =>
    obtain ⟨stored, claimable⟩ := candidate_found sound found
    have running := not_terminal_of_claimable claimable
    split
    · refine outcome_update (fun other lookup _ => ?_) rfl
      obtain rfl := Option.some.inj (stored.symm.trans lookup)
      exact moves_failed running
    · refine outcome_update (fun other lookup _ => ?_) rfl
      obtain rfl := Option.some.inj (stored.symm.trans lookup)
      exact moves_claimed running

theorem freeze_outcome : Outcome worker store call (freeze store call input claim case) := by
  unfold freeze
  split
  · exact outcome_update (fun row _ freezable => moves_frozen freezable) rfl
  · exact .reads _ rfl

theorem receive_outcome (before : call.phase.stage = some (claim, admission, 2)) :
    Outcome worker store call (receive worker store call input claim admission) := by
  unfold receive
  split
  · exact .answers _ claim admission before rfl
  · exact .reads _ rfl
  · exact .reads _ rfl

end Call

/-! ### Transactions -/

variable [DecidableEq Context] {content : Content Context}
  {expectedEventHash expectedSymbol : String} {posCase : Option (CasePackage Context)}
  {checkLeaseNow : Option Int} {event : PositionEvent}

/-- What a checkpoint that passes has read. -/
theorem verified (passed : verifyDurableAuthority content store eventId token expectedEventHash
      expectedSymbol posCase checkLeaseNow = .ok (event, row)) :
    store.dispatches.lookup eventId = some row ∧ event.eventId = row.eventId ∧
      row.state = .dispatching := by
  unfold verifyDurableAuthority at passed
  simp only [bind_eq_ok, pure_eq_ok] at passed
  obtain ⟨⟨readEvent, readRow⟩, read, ⟨⟩, identity, _, -, ⟨⟩, lease, _, -, same⟩ := passed
  obtain ⟨rfl, rfl⟩ := Prod.mk.inj same
  refine ⟨?_, ?_, ?_⟩
  · unfold Store.readRows at read
    split at read
    · next foundEvent foundRow =>
      obtain ⟨rfl, rfl⟩ := Prod.mk.inj (Except.ok.inj read)
      exact foundRow
    · cases read
  · unfold checkIdentity at identity
    obtain ⟨_, -, checks⟩ := bind_eq_ok.mp identity
    simp only [refuse_bind_eq_ok, refuse_eq_ok, not_or] at checks
    exact Classical.not_not.mp checks.2.2.1
  · unfold checkLease at lease
    simp only [refuse_bind_eq_ok, refuse_eq_ok] at lease
    exact Classical.not_not.mp lease.2.1

/-- A mint that succeeds is a first one: the path for a completed admission is never taken. -/
theorem minted {after : Store Context} {admission : Admission Context}
    (sound : AllSound store)
    (done : mintAnalysisAdmission content store eventId token expectedEventHash expectedSymbol case
      now leaseMs = .ok (after, admission)) :
    admission.providerCompleted = false ∧ admission.eventJson.eventId = eventId ∧
      ∃ row new, Table.Replaced store.dispatches after.dispatches eventId row new ∧
        Mints token row new := by
  unfold mintAnalysisAdmission at done
  obtain ⟨⟨event, row⟩, read, rest⟩ := bind_eq_ok.mp done
  obtain ⟨found, same, dispatching⟩ := verified read
  have keyed : event.eventId = eventId := same.trans (sound eventId row found).keyed
  obtain ⟨-, rest⟩ := refuse_bind_eq_ok.mp rest
  split_ifs at rest with admitted
  · unfold readmit at rest
    obtain ⟨_, -, rest⟩ := bind_eq_ok.mp rest
    obtain ⟨recorded, -⟩ := refuse_bind_eq_ok.mp rest
    have done := (sound eventId row found).completed.mp (by simpa using recorded)
    cases dispatching.symm.trans done
  · unfold admitFresh at rest
    obtain ⟨-, rest⟩ := refuse_bind_eq_ok.mp rest
    obtain ⟨mintable, rest⟩ := refuse_bind_eq_ok.mp rest
    obtain ⟨rfl, rfl⟩ := Prod.mk.inj (Except.ok.inj rest)
    have mintable := Classical.not_not.mp mintable
    exact ⟨rfl, keyed, row, _, replaced_update_of found mintable, mints_admitted mintable rfl⟩

theorem recorded {after : Store Context} {admission : Admission Context}
    (done : completeAnalysis content store admission token now = .ok (after, event)) :
    ∃ row, Table.Replaced store.dispatches after.dispatches admission.eventJson.eventId row
      (row.completed now) ∧ row.state = .dispatching := by
  unfold completeAnalysis at done
  obtain ⟨⟨event, row⟩, read, rest⟩ := bind_eq_ok.mp done
  obtain ⟨found, -, dispatching⟩ := verified read
  obtain ⟨_, -, rest⟩ := bind_eq_ok.mp rest
  obtain ⟨same, rest⟩ := refuse_bind_eq_ok.mp rest
  obtain ⟨completable, rest⟩ := refuse_bind_eq_ok.mp rest
  obtain ⟨rfl, rfl⟩ := Prod.mk.inj (Except.ok.inj rest)
  have completable := Classical.not_not.mp completable
  have unchanged : event = admission.eventJson :=
    Classical.not_not.mp fun changed => same (.inr (.inl changed))
  refine ⟨row, ?_, dispatching⟩
  rw [unchanged]
  exact replaced_update_of found completable

namespace Call

variable {worker : ℕ} {call : Call Context} {input : Input Context} {claim : Claim}
  {admission : Admission Context}

theorem stage_verify : (verify content store claim).stage = none := by
  unfold verify
  split
  · exact stage_afterFault _
  · split
    · rfl
    · split
      · rfl
      · rfl

theorem stage_request : (request content store claim).stage = none := by
  unfold request
  split
  · exact stage_afterFault _
  · rfl

theorem stage_confirm : (confirm content store claim case).stage = none := by
  unfold confirm
  split
  · exact stage_afterFault _
  · rfl

theorem mint_outcome
    (sound : AllSound store) :
    Outcome worker store call (mint content worker store call input claim case) := by
  unfold mint
  split
  · exact .reads _ rfl
  · exact .reads _ rfl
  · next after admission done =>
    obtain ⟨fresh, event, row, new, replaced, mints⟩ := minted sound done
    rw [if_neg (by rw [fresh]; decide)]
    exact .mints after _ claim admission row new replaced mints event rfl

theorem complete_outcome (before : call.phase.stage = some (claim, admission, 3)) :
    Outcome worker store call (complete content worker store call input claim admission) := by
  unfold complete
  split
  · exact .reads _ rfl
  · exact .reads _ rfl
  · next after event done =>
    obtain ⟨row, replaced, dispatching⟩ := recorded done
    exact .completes after _ claim admission row _ before replaced dispatching rfl

/-- Everything a step of a worker can do to a database whose rows are sound. -/
theorem advance_outcome
    (sound : AllSound store) :
    Outcome worker store call (call.advance content worker store input) := by
  have running (claim : Claim) (row : Dispatch Context)
      (found : store.dispatches.lookup claim.eventId = some row)
      (leased : row.Leased claim.leaseToken) : ¬ row.Terminal :=
    not_terminal_of_dispatching ((sound _ row found).dispatching leased)
  unfold advance
  split
  case h_1 now => exact .reads _ (by rw [now]; rfl)
  case h_2 now => exact .reads _ (by rw [now]; rfl)
  case h_3 now => exact .reads _ (by rw [now]; rfl)
  case h_4 => exact claimNext_outcome sound
  case h_5 => exact .reads _ stage_verify
  case h_6 => exact .reads _ stage_request
  case h_7 => exact .reads _ stage_fetch
  case h_8 => exact .reads _ stage_confirm
  case h_9 => exact freeze_outcome
  case h_10 => exact mint_outcome sound
  case h_11 claim admission now => exact .calls _ claim admission (by rw [now]; rfl) rfl
  case h_12 now => exact receive_outcome (by rw [now]; rfl)
  case h_13 now => exact complete_outcome (by rw [now]; rfl)
  case h_14 claim now =>
    exact outcome_update (fun row found leased => moves_failed (running claim row found leased)) rfl
  case h_15 claim _ now =>
    exact outcome_update
      (fun row found leased => moves_postponed (running claim row found leased)) rfl
  case h_16 claim now =>
    exact outcome_update
      (fun row _ flying => moves_failed (not_terminal_of_dispatching flying.1)) rfl
  case h_17 claim now =>
    exact outcome_update
      (fun row _ flying => moves_abandoned (not_terminal_of_dispatching flying.1)) rfl

end Call

end QuantAgent.Supervisor
