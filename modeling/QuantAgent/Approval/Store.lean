/-
This file embeds the approval journal: cases with their lifecycle state, analysis results, trade
proposals, approval records with their review claims, and the log of state changes.

Every operation is one immediate transaction. An operation that raises is rolled back, except
that a callback for an expired proposal commits the expiry before it raises.
-/

import QuantAgent.Library.Refusal
import QuantAgent.Library.Table

namespace QuantAgent.Approval

/-! ### States and actions -/

inductive LiveState where
  | caseTriggered
  | llmAnalyzing
  | planReady
  | notified
  | waitingApproval
  | approved
  | rejected
  | manual
  | expired
  deriving DecidableEq

namespace LiveState

def edges : LiveState → List LiveState
  | caseTriggered => [llmAnalyzing, manual]
  | llmAnalyzing => [planReady, manual]
  | planReady => [notified, manual]
  | notified => [waitingApproval, manual]
  | waitingApproval => [approved, rejected, manual]
  | manual => [planReady]
  | approved | rejected | expired => []

def Terminal (state : LiveState) : Prop := state ∈ [approved, rejected, expired]

/-- What `_transition` lets pass: the edges, and expiry of a state that is not terminal. -/
def Allowed (old new : LiveState) : Prop :=
  new ∈ edges old ∨ new = expired ∧ ¬ Terminal old

instance : DecidablePred Terminal := fun _ => inferInstanceAs (Decidable (_ ∈ _))

instance (old new : LiveState) : Decidable (Allowed old new) :=
  inferInstanceAs (Decidable (_ ∨ _))

theorem not_terminal_of_allowed {old new : LiveState} (allowed : Allowed old new) :
    ¬ Terminal old := by
  rcases allowed with edge | ⟨-, open_⟩
  · revert edge
    cases old <;> decide +revert
  · exact open_

end LiveState

inductive Action where
  | approve
  | reject
  | manual
  | requestCodexReview
  deriving DecidableEq

namespace Action

/-- The keys of `_ACTIONS`. -/
def ofName : String → Option Action
  | "APPROVE" => some approve
  | "REJECT" => some reject
  | "MANUAL" => some manual
  | "REQUEST_CODEX_REVIEW" => some requestCodexReview
  | _ => none

/-- The values of `_ACTIONS`. -/
def state : Action → LiveState
  | approve => .approved
  | reject => .rejected
  | manual | requestCodexReview => .manual

end Action

/-! ### Documents -/

/-- A case; the details are the fields that the journal does not look at. -/
structure CasePackage (Details : Type) where
  caseId : String
  caseHash : String
  createdAtMs : Int
  observedAtMs : Int
  expiresAtMs : Int
  source : String
  evidenceId : String
  signalIdentity : String
  trigger : String
  strategyVersion : String
  details : Details

structure AnalysisResult (Details : Type) where
  caseId : String
  caseHash : String
  details : Details
  deriving DecidableEq

structure TradeProposal (Details : Type) where
  proposalId : String
  proposalHash : String
  caseId : String
  caseHash : String
  analysisResultHashes : List String
  recommendedNotionalUsdt : ℚ
  createdAtMs : Int
  expiresAtMs : Int
  requiresManualReview : Bool
  blockedReasons : List String
  details : Details
  deriving DecidableEq

/-- `content_hash` of each kind of document, and the field checks of its details. -/
structure Content (Details : Type) where
  caseHash : CasePackage Details → String
  resultHash : AnalysisResult Details → String
  proposalHash : TradeProposal Details → String
  wellFormed : Details → Bool

variable {Details : Type}

/-- `CasePackageV1.verify`. -/
def CasePackage.Verified (content : Content Details) (case : CasePackage Details) : Prop :=
  case.observedAtMs ≤ case.createdAtMs ∧ case.createdAtMs < case.expiresAtMs ∧
    content.wellFormed case.details ∧ case.caseHash = content.caseHash case

/-- `TradeProposalV1.verify`. -/
def TradeProposal.Verified (content : Content Details) (proposal : TradeProposal Details) :
    Prop :=
  proposal.proposalHash = content.proposalHash proposal ∧
    content.wellFormed proposal.details ∧ proposal.createdAtMs < proposal.expiresAtMs

def TradeProposal.Unblocked (proposal : TradeProposal Details) : Prop :=
  proposal.requiresManualReview = false ∧ proposal.blockedReasons = [] ∧
    0 < proposal.recommendedNotionalUsdt

instance (content : Content Details) (case : CasePackage Details) :
    Decidable (case.Verified content) := inferInstanceAs (Decidable (_ ∧ _))

instance (content : Content Details) (proposal : TradeProposal Details) :
    Decidable (proposal.Verified content) := inferInstanceAs (Decidable (_ ∧ _))

instance (proposal : TradeProposal Details) : Decidable proposal.Unblocked :=
  inferInstanceAs (Decidable (_ ∧ _))

/-! ### Tables -/

/-- A row of `live_cases`; the columns that never change are those of the payload. -/
structure CaseRow (Details : Type) where
  payload : CasePackage Details
  state : LiveState := .caseTriggered
  activeProposalHash : Option String := none

inductive Role where
  | primary
  | secondary
  | fused
  deriving DecidableEq

structure AnalysisRow (Details : Type) where
  role : Role
  resultHash : String
  payload : AnalysisResult Details

structure ApprovalRecord where
  eventId : String
  action : Action
  actor : String
  proposalHash : String
  caseHash : String
  atMs : Int
  resultState : LiveState
  reviewProcessed : Bool := false
  reviewClaimUntilMs : Int := 0
  reviewClaimToken : String := ""
  deriving DecidableEq

structure StateEvent where
  caseId : String
  fromState : Option LiveState
  toState : LiveState
  atMs : Int
  callbackEventId : Option String := none

structure LiveStore (Details : Type) where
  cases : Table (CaseRow Details) := ∅
  analysisResults : List (AnalysisRow Details) := []
  proposals : Table (TradeProposal Details) := ∅
  approvalRecords : List ApprovalRecord := []
  stateEvents : List StateEvent := []

namespace ApprovalRecord

/-- A review request that no worker has finished. -/
def OpenReview (record : ApprovalRecord) : Prop :=
  record.action = .requestCodexReview ∧ record.reviewProcessed = false

instance (record : ApprovalRecord) : Decidable record.OpenReview :=
  inferInstanceAs (Decidable (_ ∧ _))

def unclaimed (record : ApprovalRecord) : ApprovalRecord :=
  { record with reviewClaimUntilMs := 0, reviewClaimToken := "" }

def processed (record : ApprovalRecord) : ApprovalRecord :=
  { record.unclaimed with reviewProcessed := true }

end ApprovalRecord

namespace LiveStore

def stateOf (store : LiveStore Details) (caseId : String) : Option LiveState :=
  (store.cases.lookup caseId).map CaseRow.state

def caseIdOf (store : LiveStore Details) (record : ApprovalRecord) : Option String :=
  (store.proposals.lookup record.proposalHash).map TradeProposal.caseId

def ReviewOf (store : LiveStore Details) (caseId : String) (record : ApprovalRecord) : Prop :=
  store.caseIdOf record = some caseId ∧ record.OpenReview

instance (store : LiveStore Details) (caseId : String) (record : ApprovalRecord) :
    Decidable (store.ReviewOf caseId record) := inferInstanceAs (Decidable (_ ∧ _))

def updateRecords (store : LiveStore Details) (condition : ApprovalRecord → Prop)
    [DecidablePred condition] (update : ApprovalRecord → ApprovalRecord) : LiveStore Details :=
  { store with
    approvalRecords := store.approvalRecords.map fun record =>
      if condition record then update record else record }

/-! ### Cases, results and proposals -/

def moveCase (store : LiveStore Details) (caseId : String) (old new : LiveState) (nowMs : Int)
    (callbackEventId : Option String) : LiveStore Details :=
  { store with
    cases := store.cases.modify caseId fun row => { row with state := new }
    stateEvents := ⟨caseId, some old, new, nowMs, callbackEventId⟩ :: store.stateEvents }

/-- `_transition`. -/
def applyTransition (store : LiveStore Details) (caseId : String) (old new : LiveState)
    (nowMs : Int) (callbackEventId : Option String := none) :
    Except String (LiveStore Details) := do
  refuse (¬ LiveState.Allowed old new) "invalid state transition"
  pure (store.moveCase caseId old new nowMs callbackEventId)

def insertCase (store : LiveStore Details) (case : CasePackage Details) : LiveStore Details :=
  { store with
    cases := store.cases.insert case.caseId { payload := case }
    stateEvents := { caseId := case.caseId, fromState := none, toState := .caseTriggered,
                     atMs := case.createdAtMs } :: store.stateEvents }

/-- The unique columns of `live_cases` besides the key. -/
def Collides (case other : CasePackage Details) : Prop :=
  other.caseHash = case.caseHash ∨
    (other.source, other.evidenceId, other.signalIdentity, other.trigger,
      other.strategyVersion) =
    (case.source, case.evidenceId, case.signalIdentity, case.trigger, case.strategyVersion)

instance (case other : CasePackage Details) : Decidable (Collides case other) :=
  inferInstanceAs (Decidable (_ ∨ _))

def saveCase (content : Content Details) (store : LiveStore Details)
    (case : CasePackage Details) : Except String (LiveStore Details × Bool) := do
  refuse (¬ case.Verified content) "invalid case"
  match store.cases.lookup case.caseId with
  | some row =>
    refuse (row.payload.caseHash ≠ case.caseHash) "case identity collision"
    pure (store, false)
  | none =>
    refuse (store.cases.rows.any fun row => Collides case row.payload)
      "case natural identity collision"
    pure (store.insertCase case, true)

def saveAnalysis [DecidableEq Details] (content : Content Details) (store : LiveStore Details)
    (result : AnalysisResult Details) (role : Role) : Except String (LiveStore Details) := do
  match store.cases.lookup result.caseId with
  | none => throw "unknown case"
  | some row =>
    refuse (¬ content.wellFormed result.details) "invalid analysis"
    refuse (result.caseHash ≠ row.payload.caseHash) "analysis case identity mismatch"
    let resultHash := content.resultHash result
    match store.analysisResults.find? fun stored => stored.payload.caseId = result.caseId ∧
        stored.role = role ∧ stored.resultHash = resultHash with
    | none =>
      pure { store with
        analysisResults := ⟨role, resultHash, result⟩ :: store.analysisResults }
    | some stored =>
      refuse (stored.payload ≠ result) "analysis identity collision"
      pure store

def requireReviewClaim (store : LiveStore Details) (caseId token : String) (nowMs : Int) :
    Except String Unit := do
  refuse (token = "") "review claim required"
  refuse (¬ ∃ record ∈ store.approvalRecords, store.ReviewOf caseId record ∧
    record.reviewClaimToken = token ∧ nowMs < record.reviewClaimUntilMs) "stale review claim"

def checkReviewClaim (store : LiveStore Details) (caseId : String) (nowMs : Option Int) :
    Option String → Except String Unit
  | none => pure ()
  | some token =>
    match nowMs with
    | none => throw "review claim time required"
    | some nowMs => store.requireReviewClaim caseId token nowMs

/-- The row of `trade_proposals`, unless it is already there. -/
def insertProposal [DecidableEq Details] (store : LiveStore Details)
    (proposal : TradeProposal Details) : Except String (LiveStore Details) :=
  match store.proposals.rows.find? fun stored => stored.proposalId = proposal.proposalId with
  | some stored => do
    refuse (stored ≠ proposal) "proposal identity collision"
    pure store
  | none => do
    refuse (store.proposals.lookup proposal.proposalHash).isSome
      "UNIQUE constraint failed: trade_proposals.proposal_hash"
    pure { store with proposals := store.proposals.insert proposal.proposalHash proposal }

def activateProposal (store : LiveStore Details) (caseId proposalHash : String) :
    LiveStore Details :=
  { store with
    cases := store.cases.modify caseId fun row =>
      { row with activeProposalHash := some proposalHash } }

def saveProposal [DecidableEq Details] (content : Content Details) (store : LiveStore Details)
    (proposal : TradeProposal Details) (reviewClaimToken : Option String)
    (nowMs : Option Int) : Except String (LiveStore Details) := do
  refuse (¬ proposal.Verified content) "invalid proposal"
  store.checkReviewClaim proposal.caseId nowMs reviewClaimToken
  match store.cases.lookup proposal.caseId with
  | none => throw "proposal case identity mismatch"
  | some row =>
    refuse (row.payload.caseHash ≠ proposal.caseHash) "proposal case identity mismatch"
    refuse row.state.Terminal "terminal case"
    refuse (proposal.analysisResultHashes = []) "missing analysis hashes"
    refuse (∃ resultHash ∈ proposal.analysisResultHashes, ¬ ∃ stored ∈ store.analysisResults,
      stored.payload.caseId = proposal.caseId ∧ stored.resultHash = resultHash)
      "unknown analysis hash"
    let stored ← store.insertProposal proposal
    pure (stored.activateProposal proposal.caseId proposal.proposalHash)

def transition (store : LiveStore Details) (caseId : String) (state : LiveState) (nowMs : Int)
    (reviewClaimToken : Option String) : Except String (LiveStore Details) := do
  store.checkReviewClaim caseId (some nowMs) reviewClaimToken
  match store.cases.lookup caseId with
  | none => throw caseId
  | some row => store.applyTransition caseId row.state state nowMs

/-! ### Expiry and callbacks -/

/-- The deadline `expire_cases` gives a case. -/
def deadline (store : LiveStore Details) (row : CaseRow Details) : Int :=
  match row.state, row.activeProposalHash.bind store.proposals.lookup with
  | .waitingApproval, some proposal => min row.payload.expiresAtMs proposal.expiresAtMs
  | _, _ => row.payload.expiresAtMs

/-- One row of `expire_cases`. -/
def expireCase (nowMs : Int) (store : LiveStore Details) (row : CaseRow Details) :
    Except String (LiveStore Details) := do
  let moved ← store.applyTransition row.payload.caseId row.state .expired nowMs
  pure (moved.updateRecords (fun record => record.action = .requestCodexReview ∧
    moved.caseIdOf record = some row.payload.caseId) ApprovalRecord.processed)

def expireCases (store : LiveStore Details) (nowMs : Int) :
    Except String (LiveStore Details) :=
  (store.cases.rows.filter fun row => ¬ row.state.Terminal ∧ store.deadline row ≤ nowMs).foldlM
    (expireCase nowMs) store

end LiveStore

/-- What an operation answers; the last answer is a raise after the commit. -/
inductive Answer where
  | done
  | saved (isNew : Bool)
  | callback (state : LiveState) (replay : Bool)
  | queued (caseIds : List String)
  | claimed (token : Option String)
  | renewed (kept : Bool)
  | proposalExpired

/-- The fields of a callback. -/
structure Callback where
  eventId : String
  action : String
  actor : String
  proposalHash : String
  caseHash : String

namespace LiveStore

def replayCallback (store : LiveStore Details) (callback : Callback) (action : Action)
    (replay : ApprovalRecord) : Except String (LiveStore Details × Answer) := do
  refuse ((replay.action, replay.actor, replay.proposalHash, replay.caseHash) ≠
    (action, callback.actor, callback.proposalHash, callback.caseHash)) "callback event collision"
  pure (store, .callback replay.resultState true)

def applyCallback (store : LiveStore Details) (callback : Callback) (action : Action)
    (nowMs : Int) (proposal : TradeProposal Details) (row : CaseRow Details) :
    Except String (LiveStore Details × Answer) := do
  refuse (row.payload.caseHash ≠ callback.caseHash ∨
    row.activeProposalHash ≠ some callback.proposalHash) "stale or mismatched callback identity"
  if min row.payload.expiresAtMs proposal.expiresAtMs ≤ nowMs then
    if row.state.Terminal then pure (store, .proposalExpired)
    else
      let moved ← store.applyTransition row.payload.caseId row.state .expired nowMs
      pure (moved, .proposalExpired)
  else
    refuse (row.state ≠ .waitingApproval) "callback not awaiting approval"
    refuse (action = .approve ∧ ¬ proposal.Unblocked) "proposal cannot be approved"
    let record : ApprovalRecord :=
      { eventId := callback.eventId, action := action, actor := callback.actor,
        proposalHash := callback.proposalHash, caseHash := callback.caseHash, atMs := nowMs,
        resultState := action.state }
    let moved ← { store with approvalRecords := store.approvalRecords ++ [record] }.applyTransition
      row.payload.caseId row.state action.state nowMs (some callback.eventId)
    pure (moved, .callback action.state false)

def recordCallback (store : LiveStore Details) (callback : Callback) (nowMs : Int) :
    Except String (LiveStore Details × Answer) := do
  refuse (callback.eventId = "" ∨ callback.actor = "") "invalid callback"
  match Action.ofName callback.action with
  | none => throw "invalid callback"
  | some action =>
    match store.approvalRecords.find? fun record => record.eventId = callback.eventId with
    | some replay => store.replayCallback callback action replay
    | none =>
      match store.proposals.lookup callback.proposalHash with
      | none => throw "stale or mismatched callback identity"
      | some proposal =>
        match store.cases.lookup proposal.caseId with
        | none => throw "stale or mismatched callback identity"
        | some row => store.applyCallback callback action nowMs proposal row

/-! ### Review claims -/

/-- A review request that a reviewed proposal or a newer request has made obsolete. -/
def Superseded (store : LiveStore Details) (record : ApprovalRecord)
    (newer : List ApprovalRecord) : Prop :=
  record.OpenReview ∧
    ∃ row ∈ (store.caseIdOf record).bind store.cases.lookup,
      ∃ active ∈ row.activeProposalHash, active ≠ record.proposalHash ∧
        (row.state ∈ [.waitingApproval, .approved, .rejected] ∨
          row.state = .manual ∧
            ∃ other ∈ newer, other.proposalHash = active ∧ other.OpenReview)

instance (store : LiveStore Details) (record : ApprovalRecord) (newer : List ApprovalRecord) :
    Decidable (store.Superseded record newer) := inferInstanceAs (Decidable (_ ∧ _))

/-- Obsolete requests are processed; each record is compared with the rows after it. -/
def reconcileRecords (store : LiveStore Details) : List ApprovalRecord → List ApprovalRecord
  | [] => []
  | record :: newer =>
    (if store.Superseded record newer then record.processed else record) ::
      reconcileRecords store newer

/-- Some request of the case waits and no worker holds a claim on one. -/
def Reviewable (store : LiveStore Details) (nowMs : Int) (caseId : String) : Prop :=
  (∃ record ∈ store.approvalRecords, store.ReviewOf caseId record ∧
    record.reviewClaimUntilMs ≤ nowMs) ∧
  ¬ ∃ record ∈ store.approvalRecords, store.ReviewOf caseId record ∧
    nowMs < record.reviewClaimUntilMs

instance (store : LiveStore Details) (nowMs : Int) (caseId : String) :
    Decidable (store.Reviewable nowMs caseId) := inferInstanceAs (Decidable (_ ∧ _))

/-- One interrupted case of `queued_codex_reviews`. -/
def resumeCase (nowMs : Int) (store : LiveStore Details) (row : CaseRow Details) :
    Except String (LiveStore Details) :=
  store.applyTransition row.payload.caseId row.state .manual nowMs

def queuedCodexReviews (store : LiveStore Details) (nowMs : Int) :
    Except String (LiveStore Details × List String) := do
  let reconciled := { store with
    approvalRecords := store.reconcileRecords store.approvalRecords }
  let interrupted := reconciled.cases.rows.filter fun row =>
    row.state ∈ [.planReady, .notified] ∧ reconciled.Reviewable nowMs row.payload.caseId
  let resumed ← interrupted.foldlM (resumeCase nowMs) reconciled
  let rows := resumed.cases.rows.filter fun row =>
    row.state = .manual ∧ resumed.Reviewable nowMs row.payload.caseId
  pure (resumed, (rows.map fun row => row.payload.caseId).mergeSort fun first second =>
    decide (first ≤ second))

/-- `ORDER BY a.at_ms, a.event_id`. -/
def olderRequest (first second : ApprovalRecord) : Bool :=
  first.atMs < second.atMs ∨ first.atMs = second.atMs ∧ first.eventId ≤ second.eventId

/-- The first request in that order. -/
def oldest : List ApprovalRecord → Option ApprovalRecord
  | [] => none
  | record :: rest =>
    match oldest rest with
    | none => some record
    | some other => if olderRequest record other then some record else some other

theorem mem_of_oldest {records : List ApprovalRecord} {record : ApprovalRecord}
    (found : oldest records = some record) : record ∈ records := by
  induction records with
  | nil => cases found
  | cons head rest inductionHypothesis =>
    unfold oldest at found
    cases later : oldest rest with
    | none =>
      rw [later] at found
      cases found
      exact List.mem_cons_self
    | some other =>
      rw [later] at found
      dsimp only at found
      split_ifs at found
      · cases found
        exact List.mem_cons_self
      · cases found
        exact List.mem_cons_of_mem _ (inductionHypothesis later)

def pendingReview (store : LiveStore Details) (caseId : String) (nowMs : Int) :
    Option ApprovalRecord :=
  oldest (store.approvalRecords.filter fun record =>
    store.ReviewOf caseId record ∧ record.reviewClaimUntilMs ≤ nowMs)

/-- The rows the update of a claim finds. -/
def Claimable (pending : ApprovalRecord) (nowMs : Int) (record : ApprovalRecord) : Prop :=
  record.eventId = pending.eventId ∧ record.reviewProcessed = false ∧
    record.reviewClaimUntilMs ≤ nowMs

instance (pending : ApprovalRecord) (nowMs : Int) : DecidablePred (Claimable pending nowMs) :=
  fun _ => inferInstanceAs (Decidable (_ ∧ _))

/-- The token is the one `secrets.token_hex` draws. -/
def claimCodexReview (store : LiveStore Details) (caseId : String) (nowMs leaseMs : Int)
    (token : String) : Except String (LiveStore Details × Option String) := do
  refuse (leaseMs ≤ 0) "review lease must be positive"
  match store.cases.lookup caseId with
  | none => pure (store, none)
  | some row =>
    if row.state ≠ .manual then pure (store, none)
    else if ∃ record ∈ store.approvalRecords, store.ReviewOf caseId record ∧
        nowMs < record.reviewClaimUntilMs then pure (store, none)
    else
      match store.pendingReview caseId nowMs with
      | none => pure (store, none)
      | some pending =>
        let claimed := store.updateRecords (Claimable pending nowMs) fun record =>
          { record with reviewClaimUntilMs := nowMs + leaseMs, reviewClaimToken := token }
        let rowcount := store.approvalRecords.countP fun record => Claimable pending nowMs record
        pure (claimed, if rowcount = 1 then some token else none)

/-- The rows a worker with this token finds. -/
def Claimed (store : LiveStore Details) (caseId token : String) (record : ApprovalRecord) :
    Prop :=
  store.ReviewOf caseId record ∧ record.reviewClaimToken = token

instance (store : LiveStore Details) (caseId token : String) :
    DecidablePred (store.Claimed caseId token) := fun _ => inferInstanceAs (Decidable (_ ∧ _))

/-- The rows a renewal finds: the claim must not have expired. -/
def Renewable (store : LiveStore Details) (caseId token : String) (nowMs : Int)
    (record : ApprovalRecord) : Prop :=
  store.Claimed caseId token record ∧ nowMs < record.reviewClaimUntilMs

instance (store : LiveStore Details) (caseId token : String) (nowMs : Int) :
    DecidablePred (store.Renewable caseId token nowMs) :=
  fun _ => inferInstanceAs (Decidable (_ ∧ _))

def renewCodexReview (store : LiveStore Details) (caseId token : String)
    (nowMs leaseMs : Int) : Except String (LiveStore Details × Bool) := do
  refuse (token = "" ∨ leaseMs ≤ 0) "invalid review lease"
  let renewed := store.updateRecords (store.Renewable caseId token nowMs) fun record =>
    { record with reviewClaimUntilMs := nowMs + leaseMs }
  let rowcount := store.approvalRecords.countP fun record =>
    store.Renewable caseId token nowMs record
  pure (renewed, rowcount = 1)

def releaseCodexReview (store : LiveStore Details) (caseId token : String) :
    Except String (LiveStore Details) := do
  refuse (token = "") "review claim required"
  pure (store.updateRecords (store.Claimed caseId token) ApprovalRecord.unclaimed)

/-- Nothing here compares the claim with the clock. -/
def markCodexReviewProcessed (store : LiveStore Details) (caseId token : String) :
    Except String (LiveStore Details) := do
  refuse (token = "") "review claim required"
  pure (store.updateRecords (store.Claimed caseId token) ApprovalRecord.processed)

end LiveStore

/-! ### Requests -/

/-- The operations of the journal that write, with their arguments. -/
inductive Request (Details : Type) where
  | saveCase (case : CasePackage Details)
  | saveAnalysis (result : AnalysisResult Details) (role : Role)
  | saveProposal (proposal : TradeProposal Details) (reviewClaimToken : Option String)
      (nowMs : Option Int)
  | expireCases (nowMs : Int)
  | transition (caseId : String) (state : LiveState) (nowMs : Int)
      (reviewClaimToken : Option String)
  | recordCallback (callback : Callback) (nowMs : Int)
  | queuedCodexReviews (nowMs : Int)
  | claimCodexReview (caseId : String) (nowMs leaseMs : Int) (token : String)
  | renewCodexReview (caseId token : String) (nowMs leaseMs : Int)
  | releaseCodexReview (caseId token : String)
  | markCodexReviewProcessed (caseId token : String)

namespace LiveStore

variable [DecidableEq Details] (content : Content Details)

def perform (store : LiveStore Details) :
    Request Details → Except String (LiveStore Details × Answer)
  | .saveCase case => (store.saveCase content case).map fun (store, isNew) => (store, .saved isNew)
  | .saveAnalysis result role =>
    (store.saveAnalysis content result role).map fun store => (store, .done)
  | .saveProposal proposal token nowMs =>
    (store.saveProposal content proposal token nowMs).map fun store => (store, .done)
  | .expireCases nowMs => (store.expireCases nowMs).map fun store => (store, .done)
  | .transition caseId state nowMs token =>
    (store.transition caseId state nowMs token).map fun store => (store, .done)
  | .recordCallback callback nowMs => store.recordCallback callback nowMs
  | .queuedCodexReviews nowMs =>
    (store.queuedCodexReviews nowMs).map fun (store, caseIds) => (store, .queued caseIds)
  | .claimCodexReview caseId nowMs leaseMs token =>
    (store.claimCodexReview caseId nowMs leaseMs token).map fun (store, token) =>
      (store, .claimed token)
  | .renewCodexReview caseId token nowMs leaseMs =>
    (store.renewCodexReview caseId token nowMs leaseMs).map fun (store, kept) =>
      (store, .renewed kept)
  | .releaseCodexReview caseId token =>
    (store.releaseCodexReview caseId token).map fun store => (store, .done)
  | .markCodexReviewProcessed caseId token =>
    (store.markCodexReviewProcessed caseId token).map fun store => (store, .done)

/-- The store after an operation; one that raises leaves it as it was. -/
def apply (store : LiveStore Details) (request : Request Details) : LiveStore Details :=
  match store.perform content request with
  | .ok (after, _) => after
  | .error _ => store

end LiveStore

end QuantAgent.Approval
