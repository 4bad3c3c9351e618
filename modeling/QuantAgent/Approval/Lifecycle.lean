/-
This file proves the lifecycle of approval cases for every sequence of journal operations: the
events of a case form a chain along the edges and expiry, the terminal states are never left, a
case is decided at most once, an approval names the active proposal, unblocked and in time, and
a replayed callback changes nothing.
-/

import QuantAgent.Approval.Changes
import QuantAgent.Library.Runs

namespace QuantAgent.Approval

variable {Details : Type}

/-! ### What the property says -/

def reached : List StateEvent → String → Option LiveState
  | [], _ => none
  | event :: earlier, caseId =>
    if event.caseId = caseId then some event.toState else reached earlier caseId

/-- A case starts as triggered and moves along the edges or by expiry. -/
def Moves : Option LiveState → LiveState → Prop
  | none, new => new = .caseTriggered
  | some old, new => LiveState.Allowed old new

def Chained : List StateEvent → Prop
  | [] => True
  | event :: earlier =>
    reached earlier event.caseId = event.fromState ∧ Moves event.fromState event.toState ∧
      Chained earlier

namespace LiveStore

def Decides (store : LiveStore Details) (caseId : String) (record : ApprovalRecord) : Prop :=
  store.caseIdOf record = some caseId ∧ (record.action = .approve ∨ record.action = .reject)

instance (store : LiveStore Details) (caseId : String) (record : ApprovalRecord) :
    Decidable (store.Decides caseId record) := inferInstanceAs (Decidable (_ ∧ _))

def ApprovesActive (store : LiveStore Details) (record : ApprovalRecord) : Prop :=
  ∃ proposal row, store.proposals.lookup record.proposalHash = some proposal ∧
    store.cases.lookup proposal.caseId = some row ∧
    row.activeProposalHash = some record.proposalHash ∧ proposal.Unblocked ∧
    record.atMs < min row.payload.expiresAtMs proposal.expiresAtMs

/-- What holds of the cases, their events and their records. -/
structure Lifecycle (store : LiveStore Details) : Prop where
  chained : Chained store.stateEvents
  current : ∀ caseId, reached store.stateEvents caseId = store.stateOf caseId
  decidedOnce : ∀ caseId,
    (store.approvalRecords.countP fun record => store.Decides caseId record) ≤ 1
  approved : ∀ record ∈ store.approvalRecords, record.action = .approve →
    store.ApprovesActive record

/-- A callback that was processed before changes nothing. -/
def ReplayIsIdle [DecidableEq Details] (content : Content Details) (store : LiveStore Details)
    (request : Request Details) : Prop :=
  ∀ callback nowMs, request = .recordCallback callback nowMs →
    (∃ record ∈ store.approvalRecords, record.eventId = callback.eventId) →
    store.apply content request = store

/-! ### The states of cases -/

variable {store after : LiveStore Details} {caseId other : String}

theorem stateOf_insertCase (case : CasePackage Details) :
    (store.insertCase case).stateOf caseId =
      if caseId = case.caseId then some .caseTriggered else store.stateOf caseId := by
  unfold stateOf insertCase
  dsimp only
  split_ifs with same
  · rw [same, AList.lookup_insert]
    rfl
  · rw [AList.lookup_insert_ne same]

theorem stateOf_activateProposal (proposalHash : String) :
    (store.activateProposal other proposalHash).stateOf caseId = store.stateOf caseId := by
  unfold stateOf activateProposal
  dsimp only
  rw [Table.lookup_modify]
  split_ifs
  · rw [Option.map_map]
    rfl
  · rfl

theorem stateOf_moveCase {row : CaseRow Details} (found : store.cases.lookup other = some row)
    (records : List ApprovalRecord) (old new : LiveState) (nowMs : Int)
    (callback : Option String) :
    (moveCase { store with approvalRecords := records } other old new nowMs callback).stateOf
        caseId =
      if caseId = other then some new else store.stateOf caseId := by
  unfold stateOf moveCase
  dsimp only
  rw [Table.lookup_modify]
  split_ifs with same
  · rw [same, found]
    rfl
  · rfl

theorem allowed_of_decision {record : ApprovalRecord} {proposal : TradeProposal Details}
    {row : CaseRow Details} (decision : Decision store record proposal row) :
    LiveState.Allowed row.state record.action.state := by
  rw [decision.waiting]
  cases record.action <;> decide

theorem terminal_change {state : LiveState} (terminal : state.Terminal)
    (now : store.stateOf caseId = some state) (change : Change SameRequest store after) :
    after.stateOf caseId = some state := by
  have moved : ∀ {other : String} {row : CaseRow Details} {new : LiveState} {nowMs : Int}
      {callback : Option String} {records : List ApprovalRecord},
      store.cases.lookup other = some row → LiveState.Allowed row.state new →
      (moveCase { store with approvalRecords := records } other row.state new nowMs
        callback).stateOf caseId = some state := by
    intro other row new nowMs callback records found allowed
    rw [stateOf_moveCase found, if_neg]
    · exact now
    · rintro rfl
      rw [stateOf, found] at now
      cases now
      exact LiveState.not_terminal_of_allowed allowed terminal
  cases change with
  | insertCase case fresh =>
    rw [stateOf_insertCase, if_neg]
    · exact now
    · rintro rfl
      rw [stateOf, fresh] at now
      cases now
  | storeAnalysis row => exact now
  | insertProposal proposal fresh => exact now
  | activate caseId proposalHash row found live =>
    rw [stateOf_activateProposal]
    exact now
  | move caseId row new nowMs found allowed => exact moved found allowed
  | decide record proposal row decision => exact moved decision.found (allowed_of_decision decision)
  | review records each => exact now

/-! ### The events of cases -/

/-- The log of a store is a chain that ends in the states of its cases. -/
structure Logged (store : LiveStore Details) : Prop where
  chained : Chained store.stateEvents
  current : ∀ caseId, reached store.stateEvents caseId = store.stateOf caseId

theorem Logged.of_change (logged : Logged store) (change : Change SameRequest store after) :
    Logged after := by
  have moved : ∀ {other : String} {row : CaseRow Details} {new : LiveState} {nowMs : Int}
      {callback : Option String} {records : List ApprovalRecord},
      store.cases.lookup other = some row → LiveState.Allowed row.state new →
      Logged (moveCase { store with approvalRecords := records } other row.state new nowMs
        callback) := by
    intro other row new nowMs callback records found allowed
    refine ⟨⟨?_, allowed, logged.chained⟩, fun caseId => ?_⟩
    · rw [logged.current, stateOf, found]
      rfl
    · rw [stateOf_moveCase found]
      show (if other = caseId then some new else reached store.stateEvents caseId) = _
      rw [logged.current]
      simp only [eq_comm]
  cases change with
  | insertCase case fresh =>
    refine ⟨⟨?_, rfl, logged.chained⟩, fun caseId => ?_⟩
    · rw [logged.current, stateOf, fresh]
      rfl
    · rw [stateOf_insertCase]
      show (if case.caseId = caseId then _ else reached store.stateEvents caseId) = _
      rw [logged.current]
      simp only [eq_comm]
  | storeAnalysis row => exact ⟨logged.chained, logged.current⟩
  | insertProposal proposal fresh => exact ⟨logged.chained, logged.current⟩
  | activate caseId proposalHash row found live =>
    refine ⟨logged.chained, fun other => ?_⟩
    rw [stateOf_activateProposal]
    exact logged.current other
  | move caseId row new nowMs found allowed => exact moved found allowed
  | decide record proposal row decision => exact moved decision.found (allowed_of_decision decision)
  | review records each => exact ⟨logged.chained, logged.current⟩

/-! ### The records of cases -/

structure Settles (store : LiveStore Details) (record : ApprovalRecord)
    (proposal : TradeProposal Details) (row : CaseRow Details) : Prop where
  proposed : store.proposals.lookup record.proposalHash = some proposal
  found : store.cases.lookup proposal.caseId = some row
  terminal : row.state.Terminal
  approved : record.action = .approve → row.activeProposalHash = some record.proposalHash ∧
    proposal.Unblocked ∧ record.atMs < min row.payload.expiresAtMs proposal.expiresAtMs

structure Decided (store : LiveStore Details) : Prop where
  settled : ∀ record ∈ store.approvalRecords,
    record.action = .approve ∨ record.action = .reject →
      ∃ proposal row, Settles store record proposal row
  once : ∀ caseId, (store.approvalRecords.countP fun record => store.Decides caseId record) ≤ 1

theorem Decided.of_same (decided : Decided store) (records : after.approvalRecords =
      store.approvalRecords)
    (proposals : ∀ proposalHash proposal, store.proposals.lookup proposalHash = some proposal →
      after.proposals.lookup proposalHash = some proposal)
    (proposed : ∀ record ∈ store.approvalRecords,
      (store.proposals.lookup record.proposalHash).isSome)
    (cases : ∀ caseId row, store.cases.lookup caseId = some row → row.state.Terminal →
      after.cases.lookup caseId = some row) : Decided after := by
  refine ⟨fun record member decides => ?_, fun caseId => ?_⟩
  · rw [records] at member
    obtain ⟨proposal, row, settles⟩ := decided.settled record member decides
    exact ⟨proposal, row, proposals _ _ settles.proposed,
      cases _ _ settles.found settles.terminal, settles.terminal, settles.approved⟩
  · rw [records]
    refine le_trans (List.countP_mono_left fun record member decides => ?_) (decided.once caseId)
    rw [decide_eq_true_eq] at decides ⊢
    obtain ⟨proposal, found⟩ := Option.isSome_iff_exists.mp (proposed record member)
    have named : after.caseIdOf record = store.caseIdOf record := by
      unfold caseIdOf
      rw [proposals _ _ found, found]
    exact ⟨named ▸ decides.1, decides.2⟩

theorem Decided.of_change (sound : Sound store) (decided : Decided store)
    (change : Change SameRequest store after) : Decided after := by
  have kept : ∀ {other : String} {row : CaseRow Details}
      {update : CaseRow Details → CaseRow Details}, store.cases.lookup other = some row →
      ¬ row.state.Terminal → ∀ caseId settled, store.cases.lookup caseId = some settled →
      settled.state.Terminal →
      (store.cases.modify other update).lookup caseId = some settled := by
    intro other row update found live caseId settled stored terminal
    rw [Table.lookup_modify, if_neg]
    · exact stored
    · rintro rfl
      rw [found] at stored
      cases stored
      exact live terminal
  cases change with
  | insertCase case fresh =>
    refine decided.of_same rfl (fun _ _ found => found) sound.proposed
      fun caseId row found _ => ?_
    refine Table.lookup_insert_eq_some.mpr (.inr ⟨?_, found⟩)
    rintro rfl
    rw [fresh] at found
    cases found
  | storeAnalysis row =>
    exact decided.of_same rfl (fun _ _ found => found) sound.proposed fun _ _ found _ => found
  | insertProposal proposal fresh =>
    refine decided.of_same rfl (fun proposalHash stored found => ?_) sound.proposed
      fun _ _ found _ => found
    refine Table.lookup_insert_eq_some.mpr (.inr ⟨?_, found⟩)
    rintro rfl
    rw [fresh] at found
    cases found
  | activate caseId proposalHash row found live =>
    exact decided.of_same rfl (fun _ _ found => found) sound.proposed (kept found live)
  | move caseId row new nowMs found allowed =>
    exact decided.of_same rfl (fun _ _ found => found) sound.proposed
      (kept found (LiveState.not_terminal_of_allowed allowed))
  | decide record proposal row decision =>
    have live : ¬ row.state.Terminal := by
      rw [decision.waiting]
      decide
    refine ⟨fun other member decides => ?_, fun caseId => ?_⟩
    · rcases List.mem_append.mp member with before | single
      · obtain ⟨named, settled, settles⟩ := decided.settled other before decides
        exact ⟨named, settled, settles.proposed,
          kept decision.found live _ _ settles.found settles.terminal, settles.terminal,
          settles.approved⟩
      · obtain rfl := List.mem_singleton.mp single
        refine ⟨proposal, { row with state := other.action.state }, decision.proposed, ?_, ?_,
          fun approves => ⟨decision.active, decision.unblocked approves, decision.inTime⟩⟩
        · show (store.cases.modify _ _).lookup _ = _
          rw [Table.lookup_modify, if_pos rfl, decision.found]
          rfl
        · show LiveState.Terminal other.action.state
          rcases decides with approves | rejects
          · rw [approves]
            decide
          · rw [rejects]
            decide
    · show ((store.approvalRecords ++ [record]).countP fun other =>
        store.Decides caseId other) ≤ 1
      rw [List.countP_append, List.countP_singleton]
      split_ifs with decides
      · -- the case of the new record was still waiting, so no record had decided it
        rw [decide_eq_true_eq] at decides
        have named : proposal.caseId = caseId := by
          have found := decides.1
          rw [caseIdOf, decision.proposed] at found
          exact Option.some.inj found
        have none : (store.approvalRecords.countP fun other =>
            store.Decides caseId other) = 0 := by
          rw [List.countP_eq_zero]
          intro other member earlier
          rw [decide_eq_true_eq] at earlier
          obtain ⟨proposed, settled, settles⟩ := decided.settled other member earlier.2
          have same : proposed.caseId = proposal.caseId := by
            have found := earlier.1
            rw [caseIdOf, settles.proposed] at found
            exact (Option.some.inj found).trans named.symm
          have found := settles.found
          rw [same, decision.found] at found
          cases found
          exact live settles.terminal
        rw [none]
      · exact decided.once caseId
  | review records each =>
    refine ⟨fun record member decides => ?_, fun caseId => ?_⟩
    · obtain ⟨before, among, same⟩ := exists_of_forall₂ each member
      rw [same] at decides
      obtain ⟨proposal, row, settles⟩ := decided.settled before among decides
      refine ⟨proposal, row, ?_⟩
      rw [same]
      exact ⟨settles.proposed, settles.found, settles.terminal, settles.approved⟩
    · have counted : (records.countP fun record => store.Decides caseId record) =
          store.approvalRecords.countP fun record => store.Decides caseId record := by
        clear kept decided sound
        generalize store.approvalRecords = before at each
        induction each with
        | nil => rfl
        | cons same _ inductionHypothesis =>
          rw [List.countP_cons, List.countP_cons, inductionHypothesis, same]
          rfl
      exact counted.le.trans (decided.once caseId)

/-- The events and the records of a store are in order. -/
structure Journaled (store : LiveStore Details) : Prop extends Logged store, Decided store

theorem Journaled.of_change (sound : Sound store) (journaled : Journaled store)
    (change : Change SameRequest store after) : Journaled after :=
  ⟨journaled.toLogged.of_change change, journaled.toDecided.of_change sound change⟩

/-! ### Replayed callbacks -/

theorem replayIsIdle [DecidableEq Details] (content : Content Details)
    (store : LiveStore Details) (request : Request Details) :
    ReplayIsIdle content store request := by
  rintro callback nowMs rfl ⟨record, member, same⟩
  have found : (store.approvalRecords.find? fun record =>
      record.eventId = callback.eventId).isSome := by
    rw [List.find?_isSome]
    exact ⟨record, member, decide_eq_true same⟩
  obtain ⟨replay, found⟩ := Option.isSome_iff_exists.mp found
  unfold apply
  split
  · rename_i after answer done
    simp only [perform, recordCallback, refuse_bind_eq_ok] at done
    obtain ⟨-, done⟩ := done
    split at done
    · cases done
    · rw [found] at done
      unfold replayCallback at done
      rw [refuse_bind_eq_ok, pure_eq_ok] at done
      cases done.2
      rfl
  · rfl

end LiveStore

/-! ### The lifecycle -/

open LiveStore

/-- Every case of every run keeps its lifecycle. -/
theorem approval_lifecycle [DecidableEq Details] (content : Content Details)
    (requests : List (Request Details)) :
    Runs.Throughout (LiveStore.apply content) Lifecycle {} requests ∧
      (∀ caseId state, LiveState.Terminal state → Runs.Forever (LiveStore.apply content)
        (fun store => store.stateOf caseId = some state) {} requests) ∧
      Runs.Each (LiveStore.apply content) (ReplayIsIdle content) {} requests := by
  have sound : Sound ({} : LiveStore Details) :=
    ⟨fun _ _ found => (nomatch found), List.nodup_nil, fun _ member => (nomatch member)⟩
  have journaled : Journaled ({} : LiveStore Details) :=
    ⟨⟨trivial, fun _ => rfl⟩, ⟨fun _ member => (nomatch member), fun _ => Nat.zero_le 1⟩⟩
  have always : Runs.Throughout (LiveStore.apply content)
      (fun store => Sound store ∧ Journaled store) {} requests :=
    Runs.throughout_of_keeps
      (fun store request now => keeps_apply Journaled.of_change now.1 now.2 request)
      ⟨sound, journaled⟩ requests
  refine ⟨always.mono fun store ⟨_, now⟩ => ⟨now.chained, now.current, now.once,
    fun record member approves => ?_⟩, fun caseId state terminal => ?_, ?_⟩
  · obtain ⟨proposal, row, settles⟩ := now.settled record member (.inl approves)
    exact ⟨proposal, row, settles.proposed, settles.found, settles.approved approves⟩
  · rw [Runs.forever_iff_each]
    refine Runs.each_of_throughout always fun store request ⟨sound, _⟩ _ now => ?_
    exact (keeps_apply (fun _ now change => terminal_change terminal now change) sound now
      request).2
  · exact Runs.each_of_throughout always fun store request _ _ =>
      replayIsIdle content store request

end QuantAgent.Approval
