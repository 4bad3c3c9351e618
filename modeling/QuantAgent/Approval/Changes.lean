/-
This file breaks every operation of the approval journal into elementary changes of its tables.
What the elementary changes keep, every operation keeps.
-/

import QuantAgent.Approval.Store

namespace QuantAgent.Approval

variable {Details : Type}

theorem exists_of_forall₂ {First Second : Type} {relation : First → Second → Prop}
    {firsts : List First} {seconds : List Second} {second : Second}
    (each : List.Forall₂ relation firsts seconds) (member : second ∈ seconds) :
    ∃ first ∈ firsts, relation first second := by
  induction each with
  | nil => cases member
  | cons related _ inductionHypothesis =>
    rcases List.mem_cons.mp member with rfl | later
    · exact ⟨_, List.mem_cons_self, related⟩
    · obtain ⟨first, among, related⟩ := inductionHypothesis later
      exact ⟨first, List.mem_cons_of_mem _ among, related⟩

/-! ### Elementary changes -/

/-- The records differ at most in their claim columns. -/
def SameRequest (before after : ApprovalRecord) : Prop :=
  after = { before with
    reviewProcessed := after.reviewProcessed
    reviewClaimUntilMs := after.reviewClaimUntilMs
    reviewClaimToken := after.reviewClaimToken }

/-- The record keeps its claim, loses it, or is processed. -/
def Cleared (before after : ApprovalRecord) : Prop :=
  after = before ∨ after = before.unclaimed ∨ after = before.processed

theorem SameRequest.refl (record : ApprovalRecord) : SameRequest record record := rfl

theorem Cleared.sameRequest {before after : ApprovalRecord} (cleared : Cleared before after) :
    SameRequest before after := by
  rcases cleared with rfl | rfl | rfl <;> rfl

/-- What an accepted callback records about an active proposal of a waiting case. -/
structure Decision (store : LiveStore Details) (record : ApprovalRecord)
    (proposal : TradeProposal Details) (row : CaseRow Details) : Prop where
  fresh : ∀ other ∈ store.approvalRecords, other.eventId ≠ record.eventId
  proposed : store.proposals.lookup record.proposalHash = some proposal
  found : store.cases.lookup proposal.caseId = some row
  active : row.activeProposalHash = some record.proposalHash
  waiting : row.state = .waitingApproval
  inTime : record.atMs < min row.payload.expiresAtMs proposal.expiresAtMs
  unblocked : record.action = .approve → proposal.Unblocked
  unclaimed : record.reviewClaimToken = ""

open LiveStore in
/-- One change of the tables, the claim columns changing as the relation allows. -/
inductive Change (update : ApprovalRecord → ApprovalRecord → Prop) (store : LiveStore Details) :
    LiveStore Details → Prop
  | insertCase (case : CasePackage Details)
      (fresh : store.cases.lookup case.caseId = none) : Change update store (store.insertCase case)
  | storeAnalysis (row : AnalysisRow Details) :
      Change update store { store with analysisResults := row :: store.analysisResults }
  | insertProposal (proposal : TradeProposal Details)
      (fresh : store.proposals.lookup proposal.proposalHash = none) :
      Change update store
        { store with proposals := store.proposals.insert proposal.proposalHash proposal }
  | activate (caseId proposalHash : String) (row : CaseRow Details)
      (found : store.cases.lookup caseId = some row) (live : ¬ row.state.Terminal) :
      Change update store (store.activateProposal caseId proposalHash)
  | move (caseId : String) (row : CaseRow Details) (new : LiveState) (nowMs : Int)
      (found : store.cases.lookup caseId = some row) (allowed : LiveState.Allowed row.state new) :
      Change update store (store.moveCase caseId row.state new nowMs none)
  | decide (record : ApprovalRecord) (proposal : TradeProposal Details) (row : CaseRow Details)
      (decision : Decision store record proposal row) :
      Change update store (moveCase
        { store with approvalRecords := store.approvalRecords ++ [record] }
        proposal.caseId row.state record.action.state record.atMs (some record.eventId))
  | review (records : List ApprovalRecord)
      (each : List.Forall₂ update store.approvalRecords records) :
      Change update store { store with approvalRecords := records }

/-- Any number of changes. -/
abbrev Changes (update : ApprovalRecord → ApprovalRecord → Prop) :
    LiveStore Details → LiveStore Details → Prop :=
  Relation.ReflTransGen (Change update)

variable {store after : LiveStore Details}

theorem Change.mono {update weaker : ApprovalRecord → ApprovalRecord → Prop}
    (implies : ∀ before after, update before after → weaker before after)
    (change : Change update store after) :
    Change weaker store after := by
  cases change with
  | insertCase case fresh => exact .insertCase case fresh
  | storeAnalysis row => exact .storeAnalysis row
  | insertProposal proposal fresh => exact .insertProposal proposal fresh
  | activate caseId proposalHash row found live =>
    exact .activate caseId proposalHash row found live
  | move caseId row new nowMs found allowed => exact .move caseId row new nowMs found allowed
  | decide record proposal row decision => exact .decide record proposal row decision
  | review records each => exact .review records (each.imp implies)

/-! ### Sound tables -/

structure Sound (store : LiveStore Details) : Prop where
  stored : ∀ caseId row, store.cases.lookup caseId = some row → row.payload.caseId = caseId
  distinct : (store.approvalRecords.map ApprovalRecord.eventId).Nodup
  proposed : ∀ record ∈ store.approvalRecords,
    (store.proposals.lookup record.proposalHash).isSome

theorem lookup_modify_state {cases : Table (CaseRow Details)} {caseId other : String}
    {update : CaseRow Details → CaseRow Details} {row : CaseRow Details}
    (found : (cases.modify caseId update).lookup other = some row) :
    ∃ before, cases.lookup other = some before ∧
      row = if other = caseId then update before else before := by
  rw [Table.lookup_modify] at found
  split_ifs at found ⊢ with same
  · obtain ⟨before, stored, rfl⟩ := Option.map_eq_some_iff.mp found
    exact ⟨before, stored, rfl⟩
  · exact ⟨row, found, rfl⟩

theorem Sound.of_change (sound : Sound store)
    (change : Change SameRequest store after) : Sound after := by
  have modified : ∀ {caseId : String} {update : CaseRow Details → CaseRow Details},
      (∀ row, (update row).payload = row.payload) →
      ∀ other row, (store.cases.modify caseId update).lookup other = some row →
        row.payload.caseId = other := by
    intro caseId update keeps other row found
    obtain ⟨before, stored, rfl⟩ := lookup_modify_state found
    split_ifs
    · rw [keeps]
      exact sound.stored other before stored
    · exact sound.stored other before stored
  cases change with
  | insertCase case fresh =>
    refine ⟨fun caseId row found => ?_, sound.distinct, sound.proposed⟩
    rcases Table.lookup_insert_eq_some.mp found with ⟨rfl, rfl⟩ | ⟨-, before⟩
    · rfl
    · exact sound.stored caseId row before
  | storeAnalysis row => exact ⟨sound.stored, sound.distinct, sound.proposed⟩
  | insertProposal proposal fresh =>
    refine ⟨sound.stored, sound.distinct, fun record member => ?_⟩
    obtain ⟨stored, found⟩ := Option.isSome_iff_exists.mp (sound.proposed record member)
    have different : record.proposalHash ≠ proposal.proposalHash := by
      intro same
      rw [same, fresh] at found
      cases found
    show ((store.proposals.insert proposal.proposalHash proposal).lookup _).isSome
    rw [AList.lookup_insert_ne different, found]
    rfl
  | activate caseId proposalHash row found live =>
    exact ⟨modified fun _ => rfl, sound.distinct, sound.proposed⟩
  | move caseId row new nowMs found allowed =>
    exact ⟨modified fun _ => rfl, sound.distinct, sound.proposed⟩
  | decide record proposal row decision =>
    refine ⟨modified fun _ => rfl, ?_, fun other member => ?_⟩
    · show ((store.approvalRecords ++ [record]).map ApprovalRecord.eventId).Nodup
      rw [List.map_append, List.map_singleton, List.nodup_append]
      refine ⟨sound.distinct, List.nodup_singleton _, fun eventId member other single => ?_⟩
      obtain ⟨stored, among, rfl⟩ := List.mem_map.mp member
      rw [List.mem_singleton.mp single]
      exact decision.fresh stored among
    · rcases List.mem_append.mp member with before | single
      · exact sound.proposed other before
      · rw [List.mem_singleton.mp single]
        show (store.proposals.lookup record.proposalHash).isSome
        rw [decision.proposed]
        rfl
  | review records each =>
    have sameIds : records.map ApprovalRecord.eventId =
        store.approvalRecords.map ApprovalRecord.eventId := by
      clear sound modified
      generalize store.approvalRecords = before at each
      induction each with
      | nil => rfl
      | cons same _ inductionHypothesis =>
        rw [List.map_cons, List.map_cons, inductionHypothesis, same]
    refine ⟨sound.stored, ?_, fun record member => ?_⟩
    · show (records.map ApprovalRecord.eventId).Nodup
      rw [sameIds]
      exact sound.distinct
    · obtain ⟨before, among, same⟩ := exists_of_forall₂ each member
      rw [same]
      exact sound.proposed before among

/-! ### The changes of each operation -/

section Operations

open LiveStore

variable {content : Content Details}

theorem change_updateRecords {condition : ApprovalRecord → Prop} [DecidablePred condition]
    {edit : ApprovalRecord → ApprovalRecord} {update : ApprovalRecord → ApprovalRecord → Prop}
    (same : ∀ record, update record record) (edits : ∀ record, update record (edit record)) :
    Change update store (store.updateRecords condition edit) := by
  refine .review _ ?_
  rw [List.forall₂_map_right_iff, List.forall₂_same]
  intro record _
  split_ifs
  · exact edits record
  · exact same record

variable {caseId : String} {nowMs : Int}

theorem applyTransition_eq_ok {old new : LiveState} {callback : Option String} :
    store.applyTransition caseId old new nowMs callback = .ok after ↔
      LiveState.Allowed old new ∧ store.moveCase caseId old new nowMs callback = after := by
  unfold applyTransition
  rw [refuse_bind_eq_ok, not_not, pure_eq_ok]

theorem lookup_moveCase {caseId other : String} {old new : LiveState} {callback : Option String}
    (different : other ≠ caseId) :
    (store.moveCase caseId old new nowMs callback).cases.lookup other =
      store.cases.lookup other := by
  unfold moveCase
  dsimp only
  rw [Table.lookup_modify, if_neg different]

theorem changes_saveCase {case : CasePackage Details} {isNew : Bool}
    (done : store.saveCase content case = .ok (after, isNew)) :
    Changes Cleared store after := by
  unfold saveCase at done
  rw [refuse_bind_eq_ok] at done
  obtain ⟨-, done⟩ := done
  split at done
  · rw [refuse_bind_eq_ok, pure_eq_ok] at done
    cases done.2
    exact .refl
  · rename_i fresh
    rw [refuse_bind_eq_ok, pure_eq_ok] at done
    cases done.2
    exact .single (.insertCase case fresh)

theorem changes_saveAnalysis [DecidableEq Details] {result : AnalysisResult Details} {role : Role}
    (done : store.saveAnalysis content result role = .ok after) :
    Changes Cleared store after := by
  unfold saveAnalysis at done
  split at done
  · cases done
  · rw [refuse_bind_eq_ok, refuse_bind_eq_ok] at done
    obtain ⟨-, -, done⟩ := done
    dsimp only at done
    split at done
    · cases done
      exact .single (.storeAnalysis _)
    · rw [refuse_bind_eq_ok, pure_eq_ok] at done
      rw [← done.2]

theorem changes_saveProposal [DecidableEq Details] {proposal : TradeProposal Details}
    {token : Option String} {nowMs : Option Int}
    (done : store.saveProposal content proposal token nowMs = .ok after) :
    Changes Cleared store after := by
  unfold saveProposal at done
  rw [refuse_bind_eq_ok, bind_eq_ok] at done
  obtain ⟨-, _, -, done⟩ := done
  split at done
  · cases done
  · rename_i row found
    simp only [refuse_bind_eq_ok] at done
    simp only [bind_eq_ok, pure_eq_ok] at done
    obtain ⟨-, live, -, -, stored, inserted, rfl⟩ := done
    unfold insertProposal at inserted
    split at inserted
    · rw [refuse_bind_eq_ok, pure_eq_ok] at inserted
      obtain ⟨-, rfl⟩ := inserted
      exact .single (.activate _ _ row found live)
    · rw [refuse_bind_eq_ok, pure_eq_ok] at inserted
      obtain ⟨absent, rfl⟩ := inserted
      rw [Option.not_isSome_iff_eq_none] at absent
      exact .tail (.single (.insertProposal proposal absent)) (.activate _ _ row found live)

theorem changes_transition {state : LiveState} {token : Option String}
    (done : store.transition caseId state nowMs token = .ok after) :
    Changes Cleared store after := by
  unfold transition at done
  rw [bind_eq_ok] at done
  obtain ⟨_, -, done⟩ := done
  split at done
  · cases done
  · rename_i row found
    obtain ⟨allowed, rfl⟩ := applyTransition_eq_ok.mp done
    exact .single (.move caseId row state nowMs found allowed)

theorem changes_foldlM
    {visit : LiveStore Details → CaseRow Details → Except String (LiveStore Details)}
    (visited : ∀ {store row after}, store.cases.lookup row.payload.caseId = some row →
      visit store row = .ok after → Changes Cleared store after ∧
        ∀ other, other ≠ row.payload.caseId →
          after.cases.lookup other = store.cases.lookup other)
    {rows : List (CaseRow Details)} (distinct : (rows.map fun row => row.payload.caseId).Nodup)
    (found : ∀ row ∈ rows, store.cases.lookup row.payload.caseId = some row)
    (done : rows.foldlM visit store = .ok after) : Changes Cleared store after := by
  induction rows generalizing store with
  | nil =>
    cases done
    exact .refl
  | cons row rest inductionHypothesis =>
    rw [List.foldlM_cons, bind_eq_ok] at done
    obtain ⟨next, first, others⟩ := done
    obtain ⟨fresh, restDistinct⟩ := List.nodup_cons.mp distinct
    obtain ⟨changes, kept⟩ := visited (found row List.mem_cons_self) first
    refine changes.trans (inductionHypothesis restDistinct (fun other member => ?_) others)
    rw [kept]
    · exact found other (List.mem_cons_of_mem _ member)
    · intro same
      exact fresh (List.mem_map.mpr ⟨other, member, same⟩)

theorem distinct_rows (sound : Sound store) (condition : CaseRow Details → Bool) :
    ((store.cases.rows.filter condition).map fun row => row.payload.caseId).Nodup ∧
      ∀ row ∈ store.cases.rows.filter condition,
        store.cases.lookup row.payload.caseId = some row := by
  refine ⟨(Table.nodup_names sound.stored).sublist (List.filter_sublist.map _),
    fun row member => ?_⟩
  obtain ⟨caseId, found⟩ := Table.mem_rows.mp (List.mem_filter.mp member).1
  rw [sound.stored caseId row found]
  exact found

theorem changes_expireCases (sound : Sound store) (done : store.expireCases nowMs = .ok after) :
    Changes Cleared store after := by
  obtain ⟨distinct, found⟩ := distinct_rows sound fun row =>
    ¬ row.state.Terminal ∧ store.deadline row ≤ nowMs
  refine changes_foldlM ?_ distinct found done
  intro store row after found done
  unfold expireCase at done
  simp only [bind_eq_ok, pure_eq_ok, applyTransition_eq_ok] at done
  obtain ⟨_, ⟨allowed, rfl⟩, rfl⟩ := done
  refine ⟨.tail (.single (.move _ row _ nowMs found allowed)) (change_updateRecords
    (fun _ => .inl rfl) fun _ => .inr (.inr rfl)), fun other different => ?_⟩
  show (store.moveCase row.payload.caseId row.state .expired nowMs none).cases.lookup other = _
  exact lookup_moveCase different

theorem forall₂_reconcileRecords (records : List ApprovalRecord) :
    List.Forall₂ Cleared records (store.reconcileRecords records) := by
  induction records with
  | nil => exact .nil
  | cons record newer inductionHypothesis =>
    refine .cons ?_ inductionHypothesis
    split_ifs
    · exact .inr (.inr rfl)
    · exact .inl rfl

theorem changes_queuedCodexReviews (sound : Sound store) {caseIds : List String}
    (done : store.queuedCodexReviews nowMs = .ok (after, caseIds)) :
    Changes Cleared store after := by
  unfold queuedCodexReviews at done
  rw [bind_eq_ok] at done
  obtain ⟨resumed, done, answered⟩ := done
  cases answered
  have reconciled : Change Cleared store { store with
      approvalRecords := store.reconcileRecords store.approvalRecords } :=
    .review _ (forall₂_reconcileRecords _)
  obtain ⟨distinct, found⟩ := distinct_rows
    (sound.of_change (reconciled.mono fun _ _ => Cleared.sameRequest)) _
  refine .head reconciled (changes_foldlM ?_ distinct found done)
  intro store row after found done
  obtain ⟨allowed, rfl⟩ := applyTransition_eq_ok.mp done
  exact ⟨.single (.move _ row _ nowMs found allowed), fun other different =>
    lookup_moveCase different⟩

theorem changes_recordCallback (sound : Sound store) {callback : Callback} {answer : Answer}
    (done : store.recordCallback callback nowMs = .ok (after, answer)) :
    Changes Cleared store after := by
  unfold recordCallback at done
  rw [refuse_bind_eq_ok] at done
  obtain ⟨-, done⟩ := done
  split at done
  · cases done
  split at done
  · unfold replayCallback at done
    rw [refuse_bind_eq_ok, pure_eq_ok] at done
    cases done.2
    exact .refl
  rename_i action _ fresh
  split at done
  · cases done
  rename_i proposal proposed
  split at done
  · cases done
  rename_i row found
  have named := sound.stored _ _ found
  unfold applyCallback at done
  rw [refuse_bind_eq_ok, not_or, not_not, not_not] at done
  obtain ⟨⟨-, active⟩, done⟩ := done
  split_ifs at done with late closed
  · cases done
    exact .refl
  · simp only [bind_eq_ok, pure_eq_ok, applyTransition_eq_ok] at done
    obtain ⟨_, ⟨allowed, rfl⟩, equal⟩ := done
    cases equal
    rw [named]
    exact .single (.move _ row _ nowMs found allowed)
  · simp only [refuse_bind_eq_ok, not_not] at done
    simp only [bind_eq_ok, pure_eq_ok, applyTransition_eq_ok] at done
    obtain ⟨waiting, passes, _, ⟨-, rfl⟩, equal⟩ := done
    cases equal
    rw [named]
    refine .single (.decide _ proposal row ⟨fun other member same => ?_, proposed, found, active,
      waiting, not_le.mp late, fun approves => ?_, rfl⟩)
    · have := List.find?_eq_none.mp fresh other member
      simp only [decide_eq_true_eq] at this
      exact this same
    · by_contra blocked
      exact passes ⟨approves, blocked⟩

variable {token : String}

theorem claimCodexReview_cases {nowMs leaseMs : Int} {answer : Option String}
    (done : store.claimCodexReview caseId nowMs leaseMs token = .ok (after, answer)) :
    after = store ∧ answer = none ∨
      (∀ record ∈ store.approvalRecords, store.ReviewOf caseId record →
        record.reviewClaimUntilMs ≤ nowMs) ∧
      ∃ pending ∈ store.approvalRecords, store.ReviewOf caseId pending ∧
        after = store.updateRecords (Claimable pending nowMs) (fun record =>
          { record with reviewClaimUntilMs := nowMs + leaseMs, reviewClaimToken := token }) ∧
        answer = if (store.approvalRecords.countP fun record => Claimable pending nowMs record) = 1
          then some token else none := by
  unfold claimCodexReview at done
  rw [refuse_bind_eq_ok] at done
  obtain ⟨-, done⟩ := done
  split at done
  · cases done
    exact .inl ⟨rfl, rfl⟩
  split_ifs at done with elsewhere busy
  · cases done
    exact .inl ⟨rfl, rfl⟩
  · cases done
    exact .inl ⟨rfl, rfl⟩
  split at done
  · cases done
    exact .inl ⟨rfl, rfl⟩
  · rename_i pending found
    rw [pure_eq_ok] at done
    cases done
    obtain ⟨member, review⟩ := List.mem_filter.mp (mem_of_oldest found)
    rw [decide_eq_true_eq] at review
    refine .inr ⟨fun record among open_ => ?_, pending, member, review.1, rfl, rfl⟩
    by_contra later
    exact busy ⟨record, among, open_, not_le.mp later⟩

theorem renewCodexReview_eq_ok {nowMs leaseMs : Int} {kept : Bool}
    (done : store.renewCodexReview caseId token nowMs leaseMs = .ok (after, kept)) :
    token ≠ "" ∧
      after = store.updateRecords (store.Renewable caseId token nowMs) (fun record =>
        { record with reviewClaimUntilMs := nowMs + leaseMs }) ∧
      kept = decide ((store.approvalRecords.countP fun record =>
        store.Renewable caseId token nowMs record) = 1) := by
  unfold renewCodexReview at done
  rw [refuse_bind_eq_ok, pure_eq_ok, not_or] at done
  obtain ⟨⟨named, -⟩, done⟩ := done
  cases done
  exact ⟨named, rfl, rfl⟩

theorem releaseCodexReview_eq_ok :
    store.releaseCodexReview caseId token = .ok after ↔ token ≠ "" ∧
      store.updateRecords (store.Claimed caseId token) ApprovalRecord.unclaimed = after := by
  unfold releaseCodexReview
  rw [refuse_bind_eq_ok, pure_eq_ok]

theorem markCodexReviewProcessed_eq_ok :
    store.markCodexReviewProcessed caseId token = .ok after ↔ token ≠ "" ∧
      store.updateRecords (store.Claimed caseId token) ApprovalRecord.processed = after := by
  unfold markCodexReviewProcessed
  rw [refuse_bind_eq_ok, pure_eq_ok]

/-- The operations that give a claim or prolong one. -/
def Request.Leases : Request Details → Prop
  | .claimCodexReview _ _ _ _ | .renewCodexReview _ _ _ _ => True
  | _ => False

variable [DecidableEq Details]

theorem changes_perform (sound : Sound store) {request : Request Details}
    (others : ¬ request.Leases) {answer : Answer}
    (done : store.perform content request = .ok (after, answer)) :
    Changes Cleared store after := by
  unfold perform at done
  cases request with
  | saveCase case =>
    obtain ⟨⟨_, isNew⟩, saved, same⟩ := map_eq_ok.mp done
    cases same
    exact changes_saveCase saved
  | saveAnalysis result role =>
    obtain ⟨_, saved, same⟩ := map_eq_ok.mp done
    cases same
    exact changes_saveAnalysis saved
  | saveProposal proposal token nowMs =>
    obtain ⟨_, saved, same⟩ := map_eq_ok.mp done
    cases same
    exact changes_saveProposal saved
  | expireCases nowMs =>
    obtain ⟨_, expired, same⟩ := map_eq_ok.mp done
    cases same
    exact changes_expireCases sound expired
  | transition caseId state nowMs token =>
    obtain ⟨_, moved, same⟩ := map_eq_ok.mp done
    cases same
    exact changes_transition moved
  | recordCallback callback nowMs => exact changes_recordCallback sound done
  | queuedCodexReviews nowMs =>
    obtain ⟨⟨_, caseIds⟩, queued, same⟩ := map_eq_ok.mp done
    cases same
    exact changes_queuedCodexReviews sound queued
  | claimCodexReview caseId nowMs leaseMs token => exact absurd trivial others
  | renewCodexReview caseId token nowMs leaseMs => exact absurd trivial others
  | releaseCodexReview caseId token =>
    obtain ⟨_, released, same⟩ := map_eq_ok.mp done
    cases same
    obtain ⟨-, rfl⟩ := releaseCodexReview_eq_ok.mp released
    exact .single (change_updateRecords (fun _ => .inl rfl) fun _ => .inr (.inl rfl))
  | markCodexReviewProcessed caseId token =>
    obtain ⟨_, marked, same⟩ := map_eq_ok.mp done
    cases same
    obtain ⟨-, rfl⟩ := markCodexReviewProcessed_eq_ok.mp marked
    exact .single (change_updateRecords (fun _ => .inl rfl) fun _ => .inr (.inr rfl))

/-- Every operation is a sequence of changes. -/
theorem changes_apply (sound : Sound store) (request : Request Details) :
    Changes SameRequest store (store.apply content request) := by
  unfold apply
  split
  · rename_i after answer done
    by_cases leases : request.Leases
    · cases request with
      | claimCodexReview caseId nowMs leaseMs token =>
        obtain ⟨⟨_, granted⟩, claimed, same⟩ := map_eq_ok.mp done
        cases same
        rcases claimCodexReview_cases claimed with ⟨rfl, -⟩ | ⟨-, pending, -, -, rfl, -⟩
        · exact .refl
        · exact .single (change_updateRecords SameRequest.refl fun _ => rfl)
      | renewCodexReview caseId token nowMs leaseMs =>
        obtain ⟨⟨_, kept⟩, renewed, same⟩ := map_eq_ok.mp done
        cases same
        obtain ⟨-, rfl, -⟩ := renewCodexReview_eq_ok renewed
        exact .single (change_updateRecords SameRequest.refl fun _ => rfl)
      | _ => exact absurd leases id
    · exact Relation.ReflTransGen.mono
        (fun _ _ change => change.mono fun _ _ => Cleared.sameRequest) _ _
        (changes_perform sound leases done)
  · exact .refl

theorem keeps_apply {inv : LiveStore Details → Prop}
    (keeps : ∀ {store after}, Sound store → inv store → Change SameRequest store after → inv after)
    (sound : Sound store) (holds : inv store) (request : Request Details) :
    Sound (store.apply content request) ∧ inv (store.apply content request) := by
  have changes : Changes SameRequest store (store.apply content request) :=
    changes_apply sound request
  generalize store.apply content request = final at changes
  induction changes with
  | refl => exact ⟨sound, holds⟩
  | tail _ change inductionHypothesis =>
    obtain ⟨sound, holds⟩ := inductionHypothesis
    exact ⟨sound.of_change change, keeps sound holds change⟩

end Operations

end QuantAgent.Approval
