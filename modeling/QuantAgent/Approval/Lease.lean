/-
This file proves that at most one worker holds a running review claim on a case, and says
exactly when no worker acts on a claim that has expired or was given to another: when no request
is marked as processed through a claim that has expired.

All operations read one clock, which never runs backwards, and every claim draws a token that
was not drawn before. The newest claim on each case is kept beside the tables; no operation
reads it.
-/

import QuantAgent.Approval.Changes
import QuantAgent.Library.Runs

namespace QuantAgent.Approval

variable {Details : Type}

/-! ### Workers -/

/-- `secrets.token_hex`: every token is new. -/
structure TokenSource where
  draw : List String → String
  fresh : ∀ drawn, draw drawn ∉ drawn

namespace Request

/-- The request as it reaches the journal: with the time of the clock and a drawn token. -/
def timed (nowMs : Int) (token : String) : Request Details → Request Details
  | .saveCase case => .saveCase case
  | .saveAnalysis result role => .saveAnalysis result role
  | .saveProposal proposal claim given => .saveProposal proposal claim (given.map fun _ => nowMs)
  | .expireCases _ => .expireCases nowMs
  | .transition caseId state _ claim => .transition caseId state nowMs claim
  | .recordCallback callback _ => .recordCallback callback nowMs
  | .queuedCodexReviews _ => .queuedCodexReviews nowMs
  | .claimCodexReview caseId _ leaseMs _ => .claimCodexReview caseId nowMs leaseMs token
  | .renewCodexReview caseId claim _ leaseMs => .renewCodexReview caseId claim nowMs leaseMs
  | .releaseCodexReview caseId claim => .releaseCodexReview caseId claim
  | .markCodexReviewProcessed caseId claim => .markCodexReviewProcessed caseId claim

def drawn (token : String) : Request Details → List String
  | .claimCodexReview _ _ _ _ => [token]
  | _ => []

end Request

/-- A claim as its worker knows it. -/
structure Lease where
  token : String
  untilMs : Int
  deriving DecidableEq

def granted : Request Details → Answer → Option (String × Lease)
  | .claimCodexReview caseId nowMs leaseMs _, .claimed (some token) =>
    some (caseId, ⟨token, nowMs + leaseMs⟩)
  | .renewCodexReview caseId token nowMs leaseMs, .renewed true =>
    some (caseId, ⟨token, nowMs + leaseMs⟩)
  | _, _ => none

/-- The tables, the clock, the tokens drawn so far, and the newest claim on each case. -/
structure World (Details : Type) where
  store : LiveStore Details := {}
  clock : Int := 0
  drawn : List String := []
  leases : String → Option Lease := fun _ => none

/-- Some worker calls an operation after some time. -/
structure Event (Details : Type) where
  elapsedMs : ℕ
  request : Request Details

namespace World

variable [DecidableEq Details] (content : Content Details) (source : TokenSource)

def now (world : World Details) (event : Event Details) : Int := world.clock + event.elapsedMs

def request (world : World Details) (event : Event Details) : Request Details :=
  event.request.timed (world.now event) (source.draw world.drawn)

def grant (leases : String → Option Lease) : Option (String × Lease) → String → Option Lease
  | none => leases
  | some (caseId, lease) => Function.update leases caseId (some lease)

def step (world : World Details) (event : Event Details) : World Details where
  store := world.store.apply content (world.request source event)
  clock := world.now event
  drawn := event.request.drawn (source.draw world.drawn) ++ world.drawn
  leases :=
    match world.store.perform content (world.request source event) with
    | .ok (_, answer) => grant world.leases (granted (world.request source event) answer)
    | .error _ => world.leases

/-! ### What the property says -/

/-- A worker holds this request of the case. -/
def Holds (world : World Details) (caseId : String) (record : ApprovalRecord) : Prop :=
  world.store.ReviewOf caseId record ∧ record.reviewClaimToken ≠ "" ∧
    world.clock < record.reviewClaimUntilMs

/-- At most one request of a case is held. -/
def Exclusive (world : World Details) : Prop :=
  ∀ caseId, ∀ first ∈ world.store.approvalRecords, ∀ second ∈ world.store.approvalRecords,
    world.Holds caseId first → world.Holds caseId second → first = second

def UsesClaim (store : LiveStore Details) (caseId token : String) : Request Details → Prop
  | .saveProposal proposal claim nowMs => proposal.caseId = caseId ∧ claim = some token ∧
      (store.saveProposal content proposal claim nowMs).isOk
  | .transition moved state nowMs claim => moved = caseId ∧ claim = some token ∧
      (store.transition moved state nowMs claim).isOk
  | .renewCodexReview renewed claim nowMs leaseMs => renewed = caseId ∧ claim = token ∧
      ∃ after, store.renewCodexReview renewed claim nowMs leaseMs = .ok (after, true)
  | .markCodexReviewProcessed marked claim => marked = caseId ∧ claim = token ∧ claim ≠ "" ∧
      ∃ record ∈ store.approvalRecords, store.Claimed marked claim record
  | _ => False

/-- A claim is used only while it is the newest of its case and has not expired. -/
def Rightful (world : World Details) (event : Event Details) : Prop :=
  ∀ caseId token, UsesClaim content world.store caseId token (world.request source event) →
    ∃ lease, world.leases caseId = some lease ∧ lease.token = token ∧
      world.now event < lease.untilMs

def MarksInTime (world : World Details) (event : Event Details) : Prop :=
  ∀ caseId token, event.request = .markCodexReviewProcessed caseId token → token ≠ "" →
    ∀ record ∈ world.store.approvalRecords, world.store.Claimed caseId token record →
      world.now event < record.reviewClaimUntilMs

end World

/-! ### Requests that grant nothing -/

section Inheritance

open LiveStore

variable {store after : LiveStore Details}

def Inherits (store after : LiveStore Details) : Prop :=
  ∀ caseId, ∀ record ∈ after.approvalRecords, after.ReviewOf caseId record →
    record.reviewClaimToken ≠ "" →
      record ∈ store.approvalRecords ∧ store.ReviewOf caseId record

theorem inherits_change (sound : Sound store) (change : Change Cleared store after) :
    Inherits store after := by
  intro caseId record member review named
  cases change with
  | insertCase case fresh => exact ⟨member, review⟩
  | storeAnalysis row => exact ⟨member, review⟩
  | insertProposal proposal fresh =>
    refine ⟨member, ?_, review.2⟩
    obtain ⟨stored, found⟩ := Option.isSome_iff_exists.mp (sound.proposed record member)
    have different : record.proposalHash ≠ proposal.proposalHash := by
      intro same
      rw [same, fresh] at found
      cases found
    have owner := review.1
    unfold caseIdOf at owner ⊢
    rwa [AList.lookup_insert_ne different] at owner
  | activate caseId proposalHash row found live => exact ⟨member, review⟩
  | move caseId row new nowMs found allowed => exact ⟨member, review⟩
  | decide decided proposal row decision =>
    rcases List.mem_append.mp member with before | single
    · exact ⟨before, review⟩
    · rw [List.mem_singleton.mp single, decision.unclaimed] at named
      exact absurd rfl named
  | review records each =>
    obtain ⟨before, among, rfl | rfl | rfl⟩ := exists_of_forall₂ each member
    · exact ⟨among, review⟩
    · exact absurd rfl named
    · exact absurd rfl named

theorem inherits_changes (sound : Sound store) (changes : Changes Cleared store after) :
    Sound after ∧ Inherits store after := by
  induction changes with
  | refl => exact ⟨sound, fun _ _ member review _ => ⟨member, review⟩⟩
  | tail _ change inductionHypothesis =>
    obtain ⟨between, inherits⟩ := inductionHypothesis
    refine ⟨between.of_change (change.mono fun _ _ => Cleared.sameRequest),
      fun caseId record member review named => ?_⟩
    obtain ⟨before, owned⟩ := inherits_change between change caseId record member review named
    exact inherits caseId record before owned named

end Inheritance

/-! ### What every step keeps -/

structure Leased (world : World Details) : Prop where
  sound : Sound world.store
  exclusive : world.Exclusive
  known : ∀ caseId, ∀ record ∈ world.store.approvalRecords, world.store.ReviewOf caseId record →
    record.reviewClaimToken ≠ "" → record.reviewClaimToken ∈ world.drawn
  newest : ∀ caseId, ∀ record ∈ world.store.approvalRecords, world.Holds caseId record →
    ∃ lease, world.leases caseId = some lease ∧ lease.token = record.reviewClaimToken
  agree : ∀ caseId, ∀ record ∈ world.store.approvalRecords, world.store.ReviewOf caseId record →
    record.reviewClaimToken ≠ "" → ∀ lease, world.leases caseId = some lease →
      lease.token = record.reviewClaimToken → record.reviewClaimUntilMs = lease.untilMs

variable {record : ApprovalRecord}

theorem mem_updateRecords {store : LiveStore Details} {condition : ApprovalRecord → Prop}
    [DecidablePred condition] {edit : ApprovalRecord → ApprovalRecord}
    (member : record ∈ (store.updateRecords condition edit).approvalRecords) :
    ∃ before ∈ store.approvalRecords,
      condition before ∧ record = edit before ∨ ¬ condition before ∧ record = before := by
  obtain ⟨before, among, rfl⟩ := List.mem_map.mp member
  refine ⟨before, among, ?_⟩
  split_ifs with holds
  · exact .inl ⟨holds, rfl⟩
  · exact .inr ⟨holds, rfl⟩

variable {caseId token : String} {nowMs leaseMs : Int} {after : LiveStore Details}

namespace Leased

variable {world : World Details}

theorem lease_of_holds (leased : Leased world) {caseId : String}
    (member : record ∈ world.store.approvalRecords) (holds : world.Holds caseId record) :
    world.leases caseId = some ⟨record.reviewClaimToken, record.reviewClaimUntilMs⟩ := by
  obtain ⟨lease, found, same⟩ := leased.newest caseId record member holds
  rw [found, leased.agree caseId record member holds.1 holds.2.1 lease found same, ← same]

theorem of_inherits (leased : Leased world) (sound : Sound after)
    (inherits : Inherits world.store after) {clock : Int} (later : world.clock ≤ clock)
    {drawn : List String} (more : world.drawn ⊆ drawn) :
    Leased { world with store := after, clock := clock, drawn := drawn } := by
  have held : ∀ {caseId : String} {record : ApprovalRecord}, record ∈ after.approvalRecords →
      World.Holds { world with store := after, clock := clock, drawn := drawn } caseId record →
      record ∈ world.store.approvalRecords ∧ world.Holds caseId record := by
    intro caseId record member ⟨review, named, running⟩
    obtain ⟨before, owned⟩ := inherits caseId record member review named
    exact ⟨before, owned, named, later.trans_lt running⟩
  refine ⟨sound, fun caseId first memberFirst second memberSecond holdsFirst holdsSecond => ?_,
    fun caseId record member review named => ?_, fun caseId record member holds => ?_,
    fun caseId record member review named => ?_⟩
  · obtain ⟨beforeFirst, ownedFirst⟩ := held memberFirst holdsFirst
    obtain ⟨beforeSecond, ownedSecond⟩ := held memberSecond holdsSecond
    exact leased.exclusive caseId first beforeFirst second beforeSecond ownedFirst ownedSecond
  · obtain ⟨before, owned⟩ := inherits caseId record member review named
    exact more (leased.known caseId record before owned named)
  · obtain ⟨before, owned⟩ := held member holds
    exact leased.newest caseId record before owned
  · obtain ⟨before, owned⟩ := inherits caseId record member review named
    exact leased.agree caseId record before owned named

theorem of_claim (leased : Leased world) (later : world.clock ≤ nowMs) (fresh : token ∉ world.drawn)
    {pending : ApprovalRecord} (member : pending ∈ world.store.approvalRecords)
    (review : world.store.ReviewOf caseId pending)
    (free : ∀ record ∈ world.store.approvalRecords, world.store.ReviewOf caseId record →
      record.reviewClaimUntilMs ≤ nowMs) :
    Leased {
      store := world.store.updateRecords (LiveStore.Claimable pending nowMs) fun record =>
        { record with reviewClaimUntilMs := nowMs + leaseMs, reviewClaimToken := token }
      clock := nowMs
      drawn := token :: world.drawn
      leases := Function.update world.leases caseId (some ⟨token, nowMs + leaseMs⟩) } := by
  have only : ∀ before ∈ world.store.approvalRecords,
      LiveStore.Claimable pending nowMs before → before = pending := fun before among claimable =>
    List.inj_on_of_nodup_map leased.sound.distinct among member claimable.1
  have elsewhere : ∀ {other : String}, world.store.ReviewOf other pending → other = caseId :=
    fun owned => Option.some.inj (owned.1.symm.trans review.1)
  -- a request that is not claimed now is held on another case only
  have others : ∀ {other : String} {before : ApprovalRecord},
      before ∈ world.store.approvalRecords → world.store.ReviewOf other before →
      nowMs < before.reviewClaimUntilMs → other ≠ caseId := by
    rintro other before among owned running rfl
    exact absurd (free before among owned) (not_le.mpr running)
  refine ⟨leased.sound.of_change (change_updateRecords SameRequest.refl fun _ => rfl),
    fun other first memberFirst second memberSecond holdsFirst holdsSecond => ?_,
    fun other record memberRecord owned claimed => ?_, fun other record memberRecord holds => ?_,
    fun other record memberRecord owned claimed lease found same => ?_⟩
  · obtain ⟨beforeFirst, amongFirst, ⟨claimsFirst, rfl⟩ | ⟨-, rfl⟩⟩ :=
      mem_updateRecords memberFirst
    all_goals obtain ⟨beforeSecond, amongSecond, ⟨claimsSecond, rfl⟩ | ⟨-, rfl⟩⟩ :=
      mem_updateRecords memberSecond
    · rw [only _ amongFirst claimsFirst, only _ amongSecond claimsSecond]
    · obtain rfl := only _ amongFirst claimsFirst
      exact absurd (elsewhere holdsFirst.1)
        (others amongSecond holdsSecond.1 holdsSecond.2.2)
    · obtain rfl := only _ amongSecond claimsSecond
      exact absurd (elsewhere holdsSecond.1)
        (others amongFirst holdsFirst.1 holdsFirst.2.2)
    · exact leased.exclusive other _ amongFirst _ amongSecond
        ⟨holdsFirst.1, holdsFirst.2.1, later.trans_lt holdsFirst.2.2⟩
        ⟨holdsSecond.1, holdsSecond.2.1, later.trans_lt holdsSecond.2.2⟩
  · obtain ⟨before, among, ⟨claims, rfl⟩ | ⟨-, rfl⟩⟩ := mem_updateRecords memberRecord
    · exact List.mem_cons_self
    · exact List.mem_cons_of_mem _ (leased.known other _ among owned claimed)
  · obtain ⟨before, among, ⟨claims, rfl⟩ | ⟨-, rfl⟩⟩ := mem_updateRecords memberRecord
    · obtain rfl := only _ among claims
      rw [elsewhere holds.1]
      exact ⟨_, Function.update_self .., rfl⟩
    · have different := others among holds.1 holds.2.2
      show ∃ lease, Function.update world.leases caseId _ other = some lease ∧ _
      rw [Function.update_of_ne different]
      exact leased.newest other _ among
        ⟨holds.1, holds.2.1, later.trans_lt holds.2.2⟩
  · obtain ⟨before, among, ⟨claims, rfl⟩ | ⟨-, rfl⟩⟩ := mem_updateRecords memberRecord
    · obtain rfl := only _ among claims
      change Function.update world.leases caseId _ other = some lease at found
      rw [elsewhere owned, Function.update_self] at found
      cases found
      rfl
    · change Function.update world.leases caseId _ other = some lease at found
      rcases eq_or_ne other caseId with rfl | different
      · rw [Function.update_self] at found
        cases found
        have drawn := leased.known other _ among owned claimed
        rw [← same] at drawn
        exact absurd drawn fresh
      · rw [Function.update_of_ne different] at found
        exact leased.agree other _ among owned claimed lease found same

theorem of_renew (leased : Leased world) (later : world.clock ≤ nowMs) (named : token ≠ "")
    {held : ApprovalRecord} (member : held ∈ world.store.approvalRecords)
    (renewable : world.store.Renewable caseId token nowMs held) :
    Leased { world with
      store := world.store.updateRecords (world.store.Renewable caseId token nowMs) fun record =>
        { record with reviewClaimUntilMs := nowMs + leaseMs }
      clock := nowMs
      leases := Function.update world.leases caseId (some ⟨token, nowMs + leaseMs⟩) } := by
  obtain ⟨⟨review, claims⟩, running⟩ := renewable
  subst claims
  have holds : world.Holds caseId held := ⟨review, named, later.trans_lt running⟩
  have current := leased.lease_of_holds member holds
  -- before the renewal a request was held exactly when it is held after it
  have before : ∀ {other : String} {record : ApprovalRecord},
      record ∈ (world.store.updateRecords
        (world.store.Renewable caseId held.reviewClaimToken nowMs) fun record =>
        { record with reviewClaimUntilMs := nowMs + leaseMs }).approvalRecords →
      world.store.ReviewOf other record → record.reviewClaimToken ≠ "" →
      nowMs < record.reviewClaimUntilMs →
        other = caseId ∧ record = { held with reviewClaimUntilMs := nowMs + leaseMs } ∨
        other ≠ caseId ∧ record ∈ world.store.approvalRecords ∧ world.Holds other record := by
    intro other record memberRecord owned claimed runs
    obtain ⟨earlier, among, ⟨renews, rfl⟩ | ⟨stays, rfl⟩⟩ := mem_updateRecords memberRecord
    · have same : earlier = held := leased.exclusive caseId _ among _ member
        ⟨renews.1.1, claimed, later.trans_lt renews.2⟩ holds
      refine .inl ⟨Option.some.inj (owned.1.symm.trans renews.1.1.1), by rw [same]⟩
    · have earlierHolds : world.Holds other record := ⟨owned, claimed, later.trans_lt runs⟩
      refine .inr ⟨?_, among, earlierHolds⟩
      rintro rfl
      have same := leased.exclusive other _ among _ member earlierHolds holds
      exact stays ⟨⟨owned, by rw [same]⟩, runs⟩
  refine ⟨leased.sound.of_change (change_updateRecords SameRequest.refl fun _ => rfl),
    fun other first memberFirst second memberSecond holdsFirst holdsSecond => ?_,
    fun other record memberRecord owned claimed => ?_, fun other record memberRecord holds => ?_,
    fun other record memberRecord owned claimed lease found same => ?_⟩
  · rcases before memberFirst holdsFirst.1 holdsFirst.2.1 holdsFirst.2.2 with
      ⟨same, rfl⟩ | ⟨different, amongFirst, ownedFirst⟩
    all_goals rcases before memberSecond holdsSecond.1 holdsSecond.2.1 holdsSecond.2.2 with
      ⟨equal, rfl⟩ | ⟨differs, amongSecond, ownedSecond⟩
    · rfl
    · exact absurd same differs
    · exact absurd equal different
    · exact leased.exclusive other _ amongFirst _ amongSecond ownedFirst ownedSecond
  · obtain ⟨earlier, among, ⟨renews, rfl⟩ | ⟨-, rfl⟩⟩ := mem_updateRecords memberRecord
    · exact leased.known other earlier among owned claimed
    · exact leased.known other _ among owned claimed
  · rcases before memberRecord holds.1 holds.2.1 holds.2.2 with
      ⟨rfl, rfl⟩ | ⟨different, among, owned⟩
    · exact ⟨_, Function.update_self .., rfl⟩
    · show ∃ lease, Function.update world.leases caseId _ other = some lease ∧ _
      rw [Function.update_of_ne different]
      exact leased.newest other _ among owned
  · change Function.update world.leases caseId _ other = some lease at found
    obtain ⟨earlier, among, ⟨renews, rfl⟩ | ⟨stays, rfl⟩⟩ := mem_updateRecords memberRecord
    · obtain rfl : other = caseId := Option.some.inj (owned.1.symm.trans renews.1.1.1)
      rw [Function.update_self] at found
      cases found
      rfl
    · rcases eq_or_ne other caseId with rfl | different
      · rw [Function.update_self] at found
        cases found
        -- the newest claim had this token, so the row had its expiry and was renewed with it
        have expiry := leased.agree other _ among owned claimed _ current same
        exact absurd ⟨⟨owned, same.symm⟩, by rw [expiry]; exact running⟩ stays
      · rw [Function.update_of_ne different] at found
        exact leased.agree other _ among owned claimed lease found same

end Leased

/-! ### Steps -/

namespace World

variable {content : Content Details} {source : TokenSource} {world : World Details}

theorem later_now (world : World Details) (event : Event Details) :
    world.clock ≤ world.now event :=
  le_add_of_nonneg_right (Int.natCast_nonneg _)

/-- The rows that a worker's claim picks out are one row. -/
theorem rowcount_eq_one (sound : Sound world.store) {condition : ApprovalRecord → Prop}
    [DecidablePred condition]
    (member : record ∈ world.store.approvalRecords) (holds : condition record)
    (only : ∀ other ∈ world.store.approvalRecords, condition other → other = record) :
    (world.store.approvalRecords.countP fun other => condition other) = 1 := by
  have distinct : world.store.approvalRecords.Nodup := List.Nodup.of_map _ sound.distinct
  have counted := List.count_eq_one_of_mem distinct member
  rw [← counted, List.count]
  refine List.countP_congr fun other among => ?_
  rw [decide_eq_true_eq, beq_iff_eq]
  exact ⟨only other among, fun same => same ▸ holds⟩

theorem leased_claim (leased : Leased world)
    (later : world.clock ≤ nowMs) (fresh : token ∉ world.drawn)
    {answer : Option String}
    (done : world.store.claimCodexReview caseId nowMs leaseMs token = .ok (after, answer)) :
    Leased {
      store := after
      clock := nowMs
      drawn := token :: world.drawn
      leases := grant world.leases
        (granted (.claimCodexReview caseId nowMs leaseMs token : Request Details)
          (.claimed answer)) } := by
  rcases claimCodexReview_cases done with
    ⟨rfl, rfl⟩ | ⟨free, pending, member, review, rfl, rfl⟩
  · exact leased.of_inherits leased.sound (fun _ _ member review _ => ⟨member, review⟩) later
      (List.subset_cons_self _ _)
  · have one := rowcount_eq_one leased.sound member
      (show LiveStore.Claimable pending nowMs pending from
        ⟨rfl, review.2.2, free pending member review⟩)
      fun other among claimable =>
        List.inj_on_of_nodup_map leased.sound.distinct among member claimable.1
    rw [if_pos one]
    exact leased.of_claim later fresh member review free

theorem leased_renew (leased : Leased world) (later : world.clock ≤ nowMs) {kept : Bool}
    (done : world.store.renewCodexReview caseId token nowMs leaseMs = .ok (after, kept)) :
    Leased {
      store := after
      clock := nowMs
      drawn := world.drawn
      leases := grant world.leases
        (granted (.renewCodexReview caseId token nowMs leaseMs : Request Details)
          (.renewed kept)) } := by
  obtain ⟨named, rfl, rfl⟩ := renewCodexReview_eq_ok done
  by_cases found : ∃ held ∈ world.store.approvalRecords,
      world.store.Renewable caseId token nowMs held
  · obtain ⟨held, member, renewable⟩ := found
    have holds : ∀ {record : ApprovalRecord}, world.store.Renewable caseId token nowMs record →
        world.Holds caseId record := fun ⟨⟨review, claims⟩, running⟩ =>
      ⟨review, by rw [claims]; exact named, later.trans_lt running⟩
    have one := rowcount_eq_one leased.sound member renewable fun other among renews =>
      leased.exclusive caseId other among held member (holds renews) (holds renewable)
    rw [decide_eq_true one]
    exact leased.of_renew later named member renewable
  · have none : (world.store.approvalRecords.countP fun record =>
        world.store.Renewable caseId token nowMs record) = 0 := by
      rw [List.countP_eq_zero]
      intro record member renews
      exact found ⟨record, member, of_decide_eq_true renews⟩
    rw [none]
    have change : Change SameRequest world.store (world.store.updateRecords
        (world.store.Renewable caseId token nowMs) fun record =>
          { record with reviewClaimUntilMs := nowMs + leaseMs }) :=
      change_updateRecords SameRequest.refl fun _ => rfl
    refine leased.of_inherits (leased.sound.of_change change)
      (fun other record member review _ => ?_) later (List.Subset.refl _)
    obtain ⟨before, among, ⟨renews, -⟩ | ⟨-, rfl⟩⟩ := mem_updateRecords member
    · exact absurd ⟨before, among, renews⟩ found
    · exact ⟨among, review⟩

variable [DecidableEq Details]

theorem leased_step (leased : Leased world) (event : Event Details) :
    Leased (world.step content source event) := by
  have later := world.later_now event
  unfold step LiveStore.apply
  cases done : world.store.perform content (world.request source event) with
  | error message =>
    exact leased.of_inherits leased.sound (fun _ _ member review _ => ⟨member, review⟩) later
      (List.subset_append_right _ _)
  | ok result =>
    obtain ⟨after, answer⟩ := result
    dsimp only
    by_cases leases : (world.request source event).Leases
    · obtain ⟨elapsedMs, request⟩ := event
      cases request with
      | claimCodexReview caseId _ leaseMs _ =>
        obtain ⟨⟨_, answered⟩, claimed, same⟩ := map_eq_ok.mp done
        cases same
        exact leased_claim leased later (source.fresh world.drawn) claimed
      | renewCodexReview caseId token _ leaseMs =>
        obtain ⟨⟨_, kept⟩, renewed, same⟩ := map_eq_ok.mp done
        cases same
        exact leased_renew leased later renewed
      | _ => exact absurd leases id
    · have none : granted (world.request source event) answer = none := by
        generalize world.request source event = request at leases
        cases request <;> first | rfl | exact absurd trivial leases
      obtain ⟨sound, inherits⟩ := inherits_changes leased.sound
        (changes_perform leased.sound leases done)
      rw [none]
      exact leased.of_inherits sound inherits later (List.subset_append_right _ _)

end World

/-! ### Uses of claims -/

section Uses

open World

variable {content : Content Details} {source : TokenSource} {world : World Details}

/-- A request that passes the check of a claim finds it in the tables. -/
theorem claim_of_check {store : LiveStore Details} {nowMs : Option Int}
    (checked : store.checkReviewClaim caseId nowMs (some token) = .ok ()) :
    ∃ now, nowMs = some now ∧ token ≠ "" ∧ ∃ record ∈ store.approvalRecords,
      store.ReviewOf caseId record ∧ record.reviewClaimToken = token ∧
        now < record.reviewClaimUntilMs := by
  unfold LiveStore.checkReviewClaim LiveStore.requireReviewClaim at checked
  cases nowMs with
  | none => cases checked
  | some now =>
    dsimp only at checked
    rw [refuse_bind_eq_ok, refuse_eq_ok, not_not] at checked
    exact ⟨now, rfl, checked⟩

/-- A claim in the tables that still runs is the newest of its case. -/
theorem lease_of_claim (leased : Leased world) {nowMs : Int}
    (later : world.clock ≤ nowMs) (named : token ≠ "")
    (found : ∃ record ∈ world.store.approvalRecords, world.store.ReviewOf caseId record ∧
      record.reviewClaimToken = token ∧ nowMs < record.reviewClaimUntilMs) :
    ∃ lease, world.leases caseId = some lease ∧ lease.token = token ∧ nowMs < lease.untilMs := by
  obtain ⟨record, member, review, rfl, running⟩ := found
  exact ⟨_, leased.lease_of_holds member ⟨review, named, later.trans_lt running⟩, rfl, running⟩

variable [DecidableEq Details]

theorem rightful_iff (leased : Leased world) (event : Event Details) :
    world.Rightful content source event ↔ world.MarksInTime event := by
  have later := world.later_now event
  obtain ⟨elapsedMs, request⟩ := event
  unfold Rightful MarksInTime World.request
  cases request with
  | markCodexReviewProcessed marked claim =>
    constructor
    · rintro rightful caseId token same named record member claimed
      cases same
      obtain ⟨lease, found, same, running⟩ :=
        rightful marked claim ⟨rfl, rfl, named, record, member, claimed⟩
      rw [leased.agree marked record member claimed.1 (by rw [claimed.2]; exact named) lease found
        (same.trans claimed.2.symm)]
      exact running
    · rintro inTime caseId token ⟨rfl, rfl, named, record, member, claimed⟩
      exact lease_of_claim leased later named ⟨record, member, claimed.1, claimed.2,
        inTime marked claim rfl named record member claimed⟩
  | saveProposal proposal claim nowMs =>
    refine ⟨fun _ _ _ same => (nomatch same), fun _ caseId token uses => ?_⟩
    obtain ⟨rfl, rfl, done⟩ := uses
    obtain ⟨after, done⟩ := exists_ok_of_isOk done
    unfold LiveStore.saveProposal at done
    rw [refuse_bind_eq_ok, bind_eq_ok] at done
    obtain ⟨-, _, checked, -⟩ := done
    obtain ⟨now, given, named, found⟩ := claim_of_check checked
    obtain ⟨_, -, rfl⟩ := Option.map_eq_some_iff.mp given
    exact lease_of_claim leased later named found
  | transition moved state nowMs claim =>
    refine ⟨fun _ _ _ same => (nomatch same), fun _ caseId token uses => ?_⟩
    obtain ⟨rfl, rfl, done⟩ := uses
    obtain ⟨after, done⟩ := exists_ok_of_isOk done
    unfold LiveStore.transition at done
    rw [bind_eq_ok] at done
    obtain ⟨_, checked, -⟩ := done
    obtain ⟨now, given, named, found⟩ := claim_of_check checked
    cases given
    exact lease_of_claim leased later named found
  | renewCodexReview renewed claim nowMs leaseMs =>
    refine ⟨fun _ _ _ same => (nomatch same), fun _ caseId token uses => ?_⟩
    obtain ⟨rfl, rfl, after, done⟩ := uses
    obtain ⟨named, -, kept⟩ := renewCodexReview_eq_ok done
    have counted := of_decide_eq_true kept.symm
    obtain ⟨record, member, renewable⟩ :=
      List.countP_pos_iff.mp (counted ▸ Nat.one_pos : 0 < _)
    obtain ⟨⟨review, claims⟩, running⟩ := of_decide_eq_true renewable
    exact lease_of_claim leased later named ⟨record, member, review, claims, running⟩
  | _ => exact ⟨fun _ _ _ same => (nomatch same), fun _ _ _ uses => uses.elim⟩

end Uses

/-! ### The main result -/

/-- At most one worker holds a claim on a case, and no worker acts on a claim that has expired
or was given to another, exactly when no request is marked as processed through a claim that has
expired. -/
theorem review_lease_iff [DecidableEq Details] (content : Content Details)
    (source : TokenSource) (clock : Int) (events : List (Event Details)) :
    (Runs.Throughout (World.step content source) World.Exclusive { clock := clock } events ∧
      Runs.Each (World.step content source) (World.Rightful content source) { clock := clock }
        events) ↔
    Runs.Each (World.step content source) World.MarksInTime { clock := clock } events := by
  have first : Leased ({ clock := clock } : World Details) :=
    ⟨⟨fun _ _ found => (nomatch found), List.nodup_nil, fun _ member => (nomatch member)⟩,
      fun _ _ member => (nomatch member), fun _ _ member => (nomatch member),
      fun _ _ member => (nomatch member), fun _ _ member => (nomatch member)⟩
  have keeps : ∀ (world : World Details) event, Leased world →
      Leased (world.step content source event) :=
    fun _ event leased => World.leased_step leased event
  have always : Runs.Throughout (World.step content source) Leased { clock := clock } events :=
    Runs.throughout_of_keeps keeps first events
  have known : Runs.Each (World.step content source) (fun world _ => Leased world)
      { clock := clock } events :=
    Runs.each_of_throughout always fun _ _ now _ => now
  constructor
  · rintro ⟨-, rightful⟩
    refine (Runs.each_and.mpr ⟨known, rightful⟩).mono ?_
    rintro world event ⟨leased, rightful⟩
    exact (rightful_iff leased event).mp rightful
  · intro inTime
    refine ⟨always.mono fun _ leased => leased.exclusive,
      (Runs.each_and.mpr ⟨known, inTime⟩).mono ?_⟩
    rintro world event ⟨leased, inTime⟩
    exact (rightful_iff leased event).mpr inTime

def longerTokens : TokenSource where
  draw drawn := String.ofList (List.replicate ((drawn.map String.length).foldr max 31 + 1) '0')
  fresh := by
    intro drawn member
    have bound : ∀ token ∈ drawn, token.length ≤ (drawn.map String.length).foldr max 31 := by
      intro token among
      exact List.le_max_of_le' 31 (List.mem_map_of_mem among) le_rfl
    have longer := bound _ member
    rw [String.length_ofList, List.length_replicate] at longer
    omega

def reviewContent : Content Unit := ⟨fun _ => "C", fun _ => "R", fun _ => "P", fun _ => true⟩

def lateReview : List (Event Unit) :=
  [⟨0, .saveCase ⟨"case", "C", 0, 0, 10000, "s", "e", "i", "t", "v", ()⟩⟩,
    ⟨0, .saveAnalysis ⟨"case", "C", ()⟩ .primary⟩,
    ⟨0, .saveProposal ⟨"id", "P", "case", "C", ["R"], 1, 0, 9000, false, [], ()⟩ none none⟩,
    ⟨0, .transition "case" .llmAnalyzing 0 none⟩, ⟨0, .transition "case" .planReady 0 none⟩,
    ⟨0, .transition "case" .notified 0 none⟩, ⟨0, .transition "case" .waitingApproval 0 none⟩,
    ⟨0, .recordCallback ⟨"event", "REQUEST_CODEX_REVIEW", "actor", "P", "C"⟩ 0⟩,
    ⟨0, .claimCodexReview "case" 0 100 ""⟩]

theorem lateReview_marked :
    ¬ (Runs.Throughout (World.step reviewContent longerTokens) World.Exclusive { clock := 3000 }
        (lateReview ++ [⟨101, .markCodexReviewProcessed "case" (longerTokens.draw [])⟩]) ∧
      Runs.Each (World.step reviewContent longerTokens)
        (World.Rightful reviewContent longerTokens) { clock := 3000 }
        (lateReview ++ [⟨101, .markCodexReviewProcessed "case" (longerTokens.draw [])⟩])) := by
  rintro ⟨-, rightful⟩
  obtain ⟨-, late, -⟩ := Runs.each_append.mp rightful
  have claimed : ∃ record ∈ (Runs.run (World.step reviewContent longerTokens)
      { clock := 3000 } lateReview).store.approvalRecords,
      (Runs.run (World.step reviewContent longerTokens) { clock := 3000 }
        lateReview).store.Claimed "case" (longerTokens.draw []) record := by
    decide +kernel
  have newest : (Runs.run (World.step reviewContent longerTokens) { clock := 3000 }
      lateReview).leases "case" = some ⟨longerTokens.draw [], 3100⟩ := by
    decide +kernel
  obtain ⟨lease, found, -, running⟩ := late "case" (longerTokens.draw [])
    ⟨rfl, rfl, by decide +kernel, claimed⟩
  rw [newest] at found
  cases found
  have now : (Runs.run (World.step reviewContent longerTokens) { clock := 3000 }
      lateReview).now ⟨101, .markCodexReviewProcessed "case" (longerTokens.draw [])⟩ = 3101 := by
    decide +kernel
  rw [now] at running
  exact absurd running (by decide)

end QuantAgent.Approval
