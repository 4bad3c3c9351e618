/-
This file proves that the committed heads of a run form one path of accepted transitions, whatever
processes do at the same time and wherever they stop, and that the lineage of the committed head
can be walked back at every moment.

A receipt file never changes once it is there, and a head is only committed after its receipt has
been checked in its file and, in the transaction itself, against the head before it.
-/

import QuantAgent.Lifecycle.Store

namespace QuantAgent.Lifecycle

open Concurrent

variable {Hash : Type} {digests : Digests Hash} {store after : LifecycleStore Hash}
  {runAuthorityId hash : Hash} {head last : DurableRunHead Hash}
  {heads : List (DurableRunHead Hash)}
  {source : LifecycleState}

/-! ### Paths of heads -/

/-- The receipt of the head is in its file, and is one of an accepted transition to its state. -/
structure Published (store : LifecycleStore Hash) (runAuthorityId : Hash)
    (head : DurableRunHead Hash) (source : LifecycleState) (envelope : Envelope Hash) : Prop where
  file : store.receipts runAuthorityId head.headReceiptHash = some envelope
  run : envelope.receipt.runAuthorityId = runAuthorityId
  transition : envelope.receipt.transition = some (source, head.headState)
  accepted : (source, head.headState) ∈ LifecycleState.acceptedTransitions
  upstream : envelope.receipt.upstreamReceiptHash = head.headPredecessorReceiptHash
  headRun : head.runAuthorityId = runAuthorityId
  terminal : head.terminal = decide (head.headState ∈ LifecycleState.terminalStates)

/-- Heads of a run, each with its receipt published, from the discovery on. -/
inductive RunPath (store : LifecycleStore Hash) (runAuthorityId : Hash) :
    List (DurableRunHead Hash) → Prop where
  | empty : RunPath store runAuthorityId []
  | first (head : DurableRunHead Hash) (envelope : Envelope Hash)
      (published : Published store runAuthorityId head .p1Scaffolded envelope)
      (genesis : head.headPredecessorReceiptHash = none) (discovery : head.headState = .discovery)
      (sequence : head.transitionSequence = 0) : RunPath store runAuthorityId [head]
  | next (heads : List (DurableRunHead Hash)) (last head : DurableRunHead Hash)
      (envelope : Envelope Hash) (path : RunPath store runAuthorityId (heads ++ [last]))
      (published : Published store runAuthorityId head last.headState envelope)
      (predecessor : head.headPredecessorReceiptHash = some last.headReceiptHash)
      (sequence : head.transitionSequence = last.transitionSequence + 1) :
      RunPath store runAuthorityId (heads ++ [last] ++ [head])

/-- Receipt files stay as they are. -/
def KeepsFiles (store after : LifecycleStore Hash) : Prop :=
  ∀ runAuthorityId hash envelope, store.receipts runAuthorityId hash = some envelope →
    after.receipts runAuthorityId hash = some envelope

variable {envelope : Envelope Hash}

theorem Published.mono (keeps : KeepsFiles store after)
    (published : Published store runAuthorityId head source envelope) :
    Published after runAuthorityId head source envelope :=
  { published with file := keeps _ _ _ published.file }

namespace RunPath

theorem mono (keeps : KeepsFiles store after) (path : RunPath store runAuthorityId heads) :
    RunPath after runAuthorityId heads := by
  induction path with
  | empty => exact .empty
  | first head envelope published genesis discovery sequence =>
    exact .first head envelope (published.mono keeps) genesis discovery sequence
  | next heads last head envelope path published predecessor sequence inductionHypothesis =>
    exact .next heads last head envelope inductionHypothesis (published.mono keeps) predecessor
      sequence

/-- The last head is the first one, or follows another one. -/
theorem cases_last (path : RunPath store runAuthorityId (heads ++ [head])) :
    (heads = [] ∧ (∃ envelope, Published store runAuthorityId head .p1Scaffolded envelope) ∧
      head.headPredecessorReceiptHash = none ∧ head.headState = .discovery ∧
      head.transitionSequence = 0) ∨
    ∃ earlier last envelope, heads = earlier ++ [last] ∧
      RunPath store runAuthorityId (earlier ++ [last]) ∧
      Published store runAuthorityId head last.headState envelope ∧
      head.headPredecessorReceiptHash = some last.headReceiptHash ∧
      head.transitionSequence = last.transitionSequence + 1 := by
  generalize same : heads ++ [head] = all at path
  cases path with
  | empty => exact absurd same (by simp)
  | first only envelope published genesis discovery sequence =>
    obtain ⟨rfl, single⟩ := List.append_inj' (same.trans (List.nil_append [only]).symm) rfl
    obtain rfl := List.singleton_inj.mp single
    exact .inl ⟨rfl, ⟨envelope, published⟩, genesis, discovery, sequence⟩
  | next earlier last later envelope path published predecessor sequence =>
    obtain ⟨rfl, single⟩ := List.append_inj' same rfl
    obtain rfl := List.singleton_inj.mp single
    exact .inr ⟨earlier, last, envelope, rfl, path, published, predecessor, sequence⟩

section

variable (path : RunPath store runAuthorityId heads)

include path

theorem published :
    ∀ head ∈ heads, ∃ source envelope, Published store runAuthorityId head source envelope := by
  induction path with
  | empty => exact List.forall_mem_nil _
  | first head envelope published =>
    exact List.forall_mem_singleton.mpr ⟨_, envelope, published⟩
  | next heads last head envelope path published predecessor sequence inductionHypothesis =>
    intro other member
    obtain earlier | alone := List.mem_append.mp member
    · exact inductionHypothesis other earlier
    · rw [List.mem_singleton.mp alone]
      exact ⟨_, envelope, published⟩

/-- Every head is further along the pipeline than the ones before it. -/
theorem ranks :
    heads.Pairwise fun earlier later => earlier.headState.rank < later.headState.rank := by
  induction path with
  | empty => exact .nil
  | first head => exact List.pairwise_singleton _ _
  | next heads last head envelope path published predecessor sequence inductionHypothesis =>
    have further := LifecycleState.rank_lt_of_accepted _ published.accepted
    refine List.pairwise_append.mpr ⟨inductionHypothesis, List.pairwise_singleton _ _, ?_⟩
    intro earlier member later alone
    rw [List.mem_singleton.mp alone]
    obtain before | here := List.mem_append.mp member
    · exact ((List.pairwise_append.mp inductionHypothesis).2.2 earlier before last
        List.mem_cons_self).trans further
    · rw [List.mem_singleton.mp here]
      exact further

/-- No two heads have one receipt. -/
theorem distinct :
    (heads.map (·.headReceiptHash)).Nodup := by
  refine List.pairwise_map.mpr (path.ranks.imp_of_mem ?_)
  intro earlier later first second further same
  obtain ⟨_, envelope, published⟩ := path.published earlier first
  obtain ⟨_, other, otherPublished⟩ := path.published later second
  have one : some envelope = some other := by
    rw [← published.file, ← otherPublished.file, same]
  obtain rfl := Option.some.inj one
  have states := Option.some.inj (published.transition.symm.trans otherPublished.transition)
  rw [(Prod.mk.inj states).2] at further
  exact lt_irrefl _ further

theorem oneCandidate :
    heads.countP (fun head => head.headState = .candidateLocked) ≤ 1 := by
  rw [List.countP_eq_length_filter]
  have apart := path.ranks.filter fun head => decide (head.headState = .candidateLocked)
  have locked : ∀ head ∈ heads.filter fun head => decide (head.headState = .candidateLocked),
      head.headState = .candidateLocked := fun head member =>
    of_decide_eq_true (List.mem_filter.mp member).2
  generalize heads.filter (fun head => decide (head.headState = .candidateLocked)) = candidates
    at apart locked ⊢
  match candidates, apart, locked with
  | [], _, _ => exact Nat.zero_le 1
  | [_], _, _ => exact le_rfl
  | one :: other :: _, apart, locked =>
    have further := List.rel_of_pairwise_cons apart List.mem_cons_self
    rw [locked one List.mem_cons_self,
      locked other (List.mem_cons_of_mem _ List.mem_cons_self)] at further
    exact absurd further (lt_irrefl _)

end

end RunPath

variable [DecidableEq Hash]

/-! ### The lineage of a head -/

/-- Every receipt file is under the digest of its receipt. -/
def FilesNamed (digests : Digests Hash) (store : LifecycleStore Hash) : Prop :=
  ∀ runAuthorityId hash envelope, store.receipts runAuthorityId hash = some envelope →
    envelope.receiptSha256 = hash ∧ digests.receipt envelope.receipt = hash

omit [DecidableEq Hash] in
/-- A receipt starts a lineage exactly when it has no receipt before it. -/
theorem isDiscovery_of_transition {receipt : Receipt Hash} {source target : LifecycleState}
    (transition : receipt.transition = some (source, target))
    (matches_ : target = .discovery ↔ receipt.upstreamReceiptHash = none) :
    ¬ (receipt.isDiscovery = true ↔ receipt.upstreamReceiptHash ≠ none) := by
  cases receipt with
  | discoveryV2 receipt => cases transition
  | discovery receipt => simp [Receipt.isDiscovery, Receipt.upstreamReceiptHash]
  | candidateLock receipt => simp [Receipt.isDiscovery, Receipt.upstreamReceiptHash]
  | wfValidation receipt => simp [Receipt.isDiscovery, Receipt.upstreamReceiptHash]
  | confirmationReady receipt => simp [Receipt.isDiscovery, Receipt.upstreamReceiptHash]
  | termination receipt =>
    obtain ⟨-, rfl⟩ := Prod.mk.inj (Option.some.inj transition)
    have elsewhere : receipt.targetState ≠ .discovery := by
      intro discovery
      exact absurd (discovery ▸ receipt.terminal) (by decide)
    have follows := mt matches_.mpr elsewhere
    exact fun same => absurd (same.mpr follows) Bool.false_ne_true

variable {committed : DurableRunHead Hash}

/-- One step of the walk, at a published head. -/
theorem lineageFrom_published {lineage : List Hash}
    {successor : Option LifecycleState} (named : FilesNamed digests store)
    (published : Published store runAuthorityId head source envelope)
    (genesis : head.headState = .discovery ↔ head.headPredecessorReceiptHash = none)
    (fresh : head.headReceiptHash ∉ lineage) (starts : successor = none → committed = head)
    (adjacent : ∀ state ∈ successor, head.headState = state) (steps : ℕ) :
    store.lineageFrom digests runAuthorityId committed (steps + 1) (some head.headReceiptHash)
        lineage successor =
      store.lineageFrom digests runAuthorityId committed steps head.headPredecessorReceiptHash
        (lineage ++ [head.headReceiptHash]) (some source) := by
  obtain ⟨envelopeDigest, contentDigest⟩ := named _ _ _ published.file
  have started := isDiscovery_of_transition published.transition
    (genesis.trans (iff_of_eq (congrArg (· = none) published.upstream.symm)))
  rw [LifecycleStore.lineageFrom, refuse_of_not fresh]
  simp only [published.file]
  rw [refuse_of_not (not_not_intro envelopeDigest), refuse_of_not (not_not_intro contentDigest),
    refuse_of_not (not_not_intro published.run)]
  simp only [published.transition]
  rw [refuse_of_not (not_not_intro published.accepted), refuse_of_not started]
  cases successor with
  | none =>
    obtain rfl := starts rfl
    dsimp only
    rw [refuse_of_not (not_not_intro rfl), refuse_of_not (not_not_intro published.upstream),
      published.upstream]
    rfl
  | some state =>
    dsimp only
    rw [refuse_of_not (not_not_intro (adjacent state rfl)), published.upstream]
    rfl

/-- The walk from a head of the path goes back over the whole path. -/
theorem lineageFrom_path {lineage : List Hash}
    {successor : Option LifecycleState} {steps : ℕ} (named : FilesNamed digests store)
    (path : RunPath store runAuthorityId (heads ++ [head]))
    (fresh : ∀ node ∈ heads ++ [head], node.headReceiptHash ∉ lineage)
    (starts : successor = none → committed = head)
    (adjacent : ∀ state ∈ successor, head.headState = state)
    (depth : committed.transitionSequence = lineage.length + heads.length)
    (enough : heads.length < steps) :
    store.lineageFrom digests runAuthorityId committed steps (some head.headReceiptHash) lineage
        successor =
      .ok (lineage ++ ((heads ++ [head]).map (·.headReceiptHash)).reverse) := by
  induction heads using List.reverseRecOn generalizing head lineage successor steps with
  | nil =>
    obtain ⟨steps, rfl⟩ := Nat.exists_eq_add_of_le' (Nat.one_le_of_lt enough)
    obtain ⟨-, ⟨envelope, published⟩, genesis, discovery, sequence⟩
      | ⟨earlier, last, _, empty, _⟩ :=
      path.cases_last
    · rw [lineageFrom_published named published (iff_of_true discovery genesis)
        (fresh head List.mem_cons_self) starts adjacent, genesis, LifecycleStore.lineageFrom,
        refuse_of_not (not_not_intro rfl), refuse_of_not]
      · rfl
      · rw [depth, List.length_append]
        exact not_not_intro rfl
    · exact absurd empty (by simp)
  | append_singleton earlier last inductionHypothesis =>
    obtain ⟨steps, rfl⟩ := Nat.exists_eq_add_of_le' (Nat.one_le_of_lt enough)
    obtain ⟨empty, _⟩ | ⟨others, other, envelope, same, before, published, predecessor, sequence⟩ :=
      path.cases_last
    · exact absurd empty (by simp)
    obtain ⟨rfl, single⟩ := List.append_inj' same rfl
    obtain rfl := List.singleton_inj.mp single
    have genesis : head.headState = .discovery ↔ head.headPredecessorReceiptHash = none := by
      refine iff_of_false (fun discovery => ?_) (by simp [predecessor])
      obtain ⟨_, _, backed⟩ := before.published last (List.mem_append_right _ List.mem_cons_self)
      exact LifecycleState.notScaffolded_of_accepted _ backed.accepted
        (LifecycleState.scaffolded_of_discovery _ published.accepted discovery)
    have elsewhere := path.distinct
    rw [List.map_append, List.nodup_append] at elsewhere
    rw [lineageFrom_published named published genesis
      (fresh head (List.mem_append_right _ List.mem_cons_self)) starts adjacent, predecessor,
      @inductionHypothesis last (lineage ++ [head.headReceiptHash]) (some last.headState) steps
        before ?_ (fun none => nomatch none) ?_ ?_ ?_]
    · simp
    · intro node member old
      obtain old | here := List.mem_append.mp old
      · exact fresh node (List.mem_append_left _ member) old
      · exact elsewhere.2.2 _ (List.mem_map_of_mem member) _
          (List.mem_map_of_mem List.mem_cons_self) (List.mem_singleton.mp here)
    · exact fun state held => Option.some.inj held
    · rw [depth, List.length_append, List.length_append]
      simp
      omega
    · rw [List.length_append] at enough
      exact Nat.lt_of_succ_lt_succ enough

/-! ### What processes share -/

/-- The head that a step commits. -/
def committedBy (entry : Entry (lifecycle digests)) : Option (DurableRunHead Hash) :=
  match entry.action with
  | .transacted (.commitHead _) (.ok (.advanced head)) => some head
  | _ => none

/-- The committed heads of a run, oldest first. -/
def committedHeads (state : State (lifecycle digests)) (runAuthorityId : Hash) :
    List (DurableRunHead Hash) :=
  (state.log.filterMap committedBy).filter (·.runAuthorityId = runAuthorityId)

/-- The files are under their names, and the row of a run is the last one of a path. -/
structure Sound (state : State (lifecycle digests)) : Prop where
  named : FilesNamed digests state.shared
  path : ∀ runAuthorityId,
    RunPath state.shared runAuthorityId (committedHeads state runAuthorityId)
  row : ∀ runAuthorityId, state.shared.heads runAuthorityId =
    (committedHeads state runAuthorityId).getLast?.map (·.row digests)

variable {state now : State (lifecycle digests)} {worker : ℕ} {action : Action (lifecycle digests)}
  {authorization : Authorization Hash}

theorem keepsFiles_link (store : LifecycleStore Hash) (runAuthorityId hash : Hash)
    (envelope : Envelope Hash) :
    KeepsFiles store (store.linkReceipt runAuthorityId hash envelope).1 := by
  intro run name held found
  unfold LifecycleStore.linkReceipt
  split
  · exact found
  · next absent =>
    by_cases here : run = runAuthorityId
    · subst here
      show Function.update store.receipts run _ run name = _
      rw [Function.update_self]
      by_cases same : name = hash
      · subst same
        exact absurd (absent.symm.trans found) (by simp)
      · rw [Function.update_of_ne same]
        exact found
    · show Function.update store.receipts runAuthorityId _ run name = _
      rw [Function.update_of_ne here]
      exact found

theorem outcome_commitHead : state.outcome (.commitHead authorization) =
    authorization.commitHead digests (state.shared.heads authorization.runAuthorityId) := by
  show Except.map Prod.snd (Except.map _ _) = _
  cases authorization.commitHead digests (state.shared.heads authorization.runAuthorityId) with
  | error fault => rfl
  | ok committed => rfl

theorem shared_commitHead (outcome : Except LifecycleFault (HeadCommit Hash)) :
    state.sharedAfter (.transacted (.commitHead authorization) outcome) =
      match authorization.commitHead digests
        (state.shared.heads authorization.runAuthorityId) with
      | .ok committed =>
        state.shared.withCommitted digests authorization.runAuthorityId committed
      | .error _ => state.shared := by
  have performed : StoreTransaction.perform digests (.commitHead authorization) state.shared =
      (authorization.commitHead digests
        (state.shared.heads authorization.runAuthorityId)).map fun committed =>
          (state.shared.withCommitted digests authorization.runAuthorityId committed,
            committed) := rfl
  unfold State.sharedAfter
  dsimp only
  rw [performed]
  cases authorization.commitHead digests (state.shared.heads authorization.runAuthorityId) with
  | error fault => rfl
  | ok committed => rfl

theorem keepsFiles_commit (store : LifecycleStore Hash) (runAuthorityId : Hash)
    (committed : HeadCommit Hash) :
    KeepsFiles store (store.withCommitted digests runAuthorityId committed) := by
  intro run hash envelope found
  cases committed with
  | advanced head => exact found
  | retried head => exact found

/-- No step of any process changes a receipt file. -/
theorem keepsFiles_after (state : State (lifecycle digests)) (worker : ℕ)
    (action : Action (lifecycle digests)) :
    KeepsFiles state.shared (state.after worker action).shared := by
  intro run hash envelope found
  show (state.sharedAfter action).receipts run hash = _
  cases action with
  | transacted transaction outcome =>
    cases transaction with
    | linkReceipt other name held =>
      exact keepsFiles_link state.shared other name held run hash _ found
    | commitHead authorization =>
      rw [shared_commitHead]
      split
      · exact keepsFiles_commit _ _ _ _ _ _ found
      · exact found
    | _ => exact found
  | _ => exact found

theorem keepsFiles_interferes {rules : Rules (lifecycle digests)}
    (interferes : rules.Interferes worker state now) : KeepsFiles state.shared now.shared := by
  induction interferes with
  | refl => exact fun _ _ _ found => found
  | tail _ foreign inductionHypothesis =>
    obtain ⟨other, action, -, -, rfl, -⟩ := foreign
    exact fun run hash envelope found =>
      keepsFiles_after _ other action _ _ _ (inductionHypothesis _ _ _ found)

/-! ### Steps that commit no head -/

/-- A transaction that links receipts under their digest only and commits no head. -/
def Harmless (digests : Digests Hash) : StoreTransaction Hash → Prop
  | .linkReceipt _ hash envelope =>
    envelope.receiptSha256 = hash ∧ digests.receipt envelope.receipt = hash
  | .commitHead _ => False
  | _ => True

theorem Sound.of_quiet (sound : Sound state) (worker : ℕ)
    (keeps : KeepsFiles state.shared (state.sharedAfter action))
    (named : FilesNamed digests (state.sharedAfter action))
    (rows : (state.sharedAfter action).heads = state.shared.heads)
    (quiet : committedBy ⟨worker, action⟩ = none) : Sound (state.after worker action) := by
  have heads_eq : ∀ run, committedHeads (state.after worker action) run =
      committedHeads state run := by
    intro run
    unfold committedHeads State.after
    rw [List.filterMap_append, List.filterMap_cons_none quiet]
    simp
  refine ⟨named, fun run => ?_, fun run => ?_⟩
  · rw [heads_eq]
    exact (sound.path run).mono keeps
  · rw [heads_eq, ← sound.row run]
    exact congrFun rows run

theorem filesNamed_link (named : FilesNamed digests store) (digest : envelope.receiptSha256 = hash)
    (content : digests.receipt envelope.receipt = hash) :
    FilesNamed digests (store.linkReceipt runAuthorityId hash envelope).1 := by
  intro run name held found
  unfold LifecycleStore.linkReceipt at found
  split at found
  · exact named run name held found
  · replace found : Function.update store.receipts runAuthorityId
        (Function.update (store.receipts runAuthorityId) hash (some envelope)) run name =
      some held := found
    by_cases here : run = runAuthorityId
    · subst here
      rw [Function.update_self] at found
      by_cases same : name = hash
      · subst same
        rw [Function.update_self] at found
        rw [← Option.some.inj found]
        exact ⟨digest, content⟩
      · rw [Function.update_of_ne same] at found
        exact named run name held found
    · rw [Function.update_of_ne here] at found
      exact named run name held found

theorem Sound.harmless {transaction : StoreTransaction Hash} (sound : Sound state) (worker : ℕ)
    (harmless : Harmless digests transaction) :
    Sound (state.after worker (.transacted transaction (state.outcome transaction))) := by
  have keeps := keepsFiles_after state worker
    (.transacted transaction (state.outcome transaction))
  cases transaction with
  | linkReceipt run name held =>
    refine sound.of_quiet worker keeps (filesNamed_link sound.named harmless.1 harmless.2) ?_ rfl
    show (state.shared.linkReceipt run name held).1.heads = _
    unfold LifecycleStore.linkReceipt
    split <;> rfl
  | commitHead authorization => exact harmless.elim
  | _ => exact sound.of_quiet worker keeps sound.named rfl rfl

/-! ### The step that commits a head -/

/-- The published receipt is the one of the authorization. -/
structure Checked (authorization : Authorization Hash) (envelope : Envelope Hash) : Prop where
  run : envelope.receipt.runAuthorityId = authorization.runAuthorityId
  transition : envelope.receipt.transition =
    some (authorization.sourceState, authorization.targetState)
  accepted : (authorization.sourceState, authorization.targetState) ∈
    LifecycleState.acceptedTransitions
  upstream : envelope.receipt.upstreamReceiptHash = authorization.upstreamReceiptHash

theorem checked_of_checkPublished {published : Option (Envelope Hash)}
    (passes : authorization.checkPublished digests published = .ok ()) :
    ∃ envelope, published = some envelope ∧ Checked authorization envelope := by
  unfold Authorization.checkPublished at passes
  rw [refuse_bind_eq_ok] at passes
  obtain ⟨-, passes⟩ := passes
  cases published with
  | none => cases passes
  | some envelope =>
    dsimp only at passes
    rw [refuse_bind_eq_ok, refuse_bind_eq_ok, refuse_bind_eq_ok] at passes
    obtain ⟨-, -, run, passes⟩ := passes
    cases moved : envelope.receipt.transition with
    | none =>
      rw [moved] at passes
      cases passes
    | some transition =>
      rw [moved] at passes
      obtain ⟨receiptSource, receiptTarget⟩ := transition
      simp only [refuse_bind_eq_ok, refuse_eq_ok, not_not] at passes
      obtain ⟨target, -, upstream, -, source, accepted⟩ := passes
      exact ⟨envelope, rfl, not_not.mp run, by rw [moved, target, source], accepted, upstream⟩

theorem row_of_validate {row : HeadRow Hash} {current : DurableRunHead Hash}
    (valid : row.validate digests runAuthorityId = .ok current) : current = row.headJson := by
  simp only [HeadRow.validate, refuse_bind_eq_ok, pure_eq_ok] at valid
  exact valid.2.2.2.2.2.2.2.2.symm

theorem validate_row (run : head.runAuthorityId = runAuthorityId)
    (terminal : head.terminal = decide (head.headState ∈ LifecycleState.terminalStates)) :
    (head.row digests).validate digests runAuthorityId = .ok head := by
  simp only [HeadRow.validate, refuse_bind_eq_ok, pure_eq_ok, not_not]
  exact ⟨run, rfl, rfl, rfl, rfl, rfl, terminal, rfl, rfl⟩

/-- A head is committed as the first one of its run or after the current one. -/
theorem commitHead_advanced {row : Option (HeadRow Hash)}
    (advanced : authorization.commitHead digests row = .ok (.advanced head)) :
    (row = none ∧ authorization.upstreamReceiptHash = none ∧
      authorization.targetState = .discovery ∧ authorization.sourceState = .p1Scaffolded ∧
      head = authorization.head digests 0) ∨
    ∃ held current, row = some held ∧
      held.validate digests authorization.runAuthorityId = .ok current ∧
      authorization.upstreamReceiptHash = some current.headReceiptHash ∧
      authorization.sourceState = current.headState ∧
      head = authorization.head digests (current.transitionSequence + 1) := by
  cases row with
  | none =>
    simp only [Authorization.commitHead, refuse_bind_eq_ok, pure_eq_ok, not_not, not_or,
      HeadCommit.advanced.injEq] at advanced
    obtain ⟨upstream, ⟨target, source⟩, rfl⟩ := advanced
    exact .inl ⟨rfl, upstream, target, source, rfl⟩
  | some held =>
    rw [Authorization.commitHead, bind_eq_ok] at advanced
    obtain ⟨current, valid, advanced⟩ := advanced
    split at advanced
    · cases advanced
    · simp only [refuse_bind_eq_ok, pure_eq_ok, not_not,
        HeadCommit.advanced.injEq] at advanced
      obtain ⟨-, upstream, source, rfl⟩ := advanced
      exact .inr ⟨held, current, rfl, valid, upstream, source, rfl⟩

/-- The committed head extends the path of its run. -/
theorem Sound.extends (sound : Sound state)
    (found : state.shared.receipts authorization.runAuthorityId
      (authorization.receiptHash digests) = some envelope)
    (checked : Checked authorization envelope) (advanced : authorization.commitHead digests
      (state.shared.heads authorization.runAuthorityId) = .ok (.advanced head)) :
    head.runAuthorityId = authorization.runAuthorityId ∧
      RunPath state.shared authorization.runAuthorityId
        (committedHeads state authorization.runAuthorityId ++ [head]) := by
  have published : ∀ sequence, Published state.shared authorization.runAuthorityId
      (authorization.head digests sequence) authorization.sourceState envelope := fun _ =>
    ⟨found, checked.run, checked.transition, checked.accepted, checked.upstream, rfl, rfl⟩
  obtain ⟨absent, upstream, target, source, rfl⟩ |
      ⟨held, current, present, valid, upstream, source, rfl⟩ := commitHead_advanced advanced
  · refine ⟨rfl, ?_⟩
    rw [sound.row, Option.map_eq_none_iff, List.getLast?_eq_none_iff] at absent
    rw [absent, List.nil_append]
    exact .first _ envelope (source ▸ published 0) upstream target rfl
  · refine ⟨rfl, ?_⟩
    rw [sound.row, Option.map_eq_some_iff] at present
    obtain ⟨last, isLast, rfl⟩ := present
    obtain ⟨earlier, heads_eq⟩ := List.getLast?_eq_some_iff.mp isLast
    obtain rfl : current = last := row_of_validate valid
    have path := sound.path authorization.runAuthorityId
    rw [heads_eq] at path ⊢
    exact .next earlier current _ envelope path (source ▸ published _) upstream rfl

theorem Sound.commit (sound : Sound state)
    (found : state.shared.receipts authorization.runAuthorityId
      (authorization.receiptHash digests) = some envelope)
    (checked : Checked authorization envelope) (worker : ℕ) :
    Sound (state.after worker (.transacted (.commitHead authorization)
      (state.outcome (.commitHead authorization)))) := by
  have keeps := keepsFiles_after state worker
    (.transacted (.commitHead authorization) (state.outcome (.commitHead authorization)))
  have shared := @shared_commitHead _ digests _ state authorization
    (state.outcome (.commitHead authorization))
  have outcome := @outcome_commitHead _ digests _ state authorization
  cases result : authorization.commitHead digests
      (state.shared.heads authorization.runAuthorityId) with
  | error fault =>
    rw [result] at shared outcome
    refine sound.of_quiet worker keeps ?_ ?_ ?_
    · rw [shared]
      exact sound.named
    · rw [shared]
    · rw [outcome]
      rfl
  | ok committed =>
    rw [result] at shared outcome
    cases committed with
    | retried current =>
      refine sound.of_quiet worker keeps ?_ ?_ ?_
      · rw [shared]
        exact sound.named
      · rw [shared]
        rfl
      · rw [outcome]
        rfl
    | advanced head =>
      obtain ⟨run, path⟩ := sound.extends found checked result
      rw [outcome] at keeps shared ⊢
      have committed : ∀ other, committedHeads (state.after worker
          (.transacted (.commitHead authorization) (.ok (.advanced head)))) other =
          committedHeads state other ++ [head].filter (·.runAuthorityId = other) := by
        intro other
        unfold committedHeads State.after
        rw [List.filterMap_append, List.filter_append]
        rfl
      refine ⟨?_, fun other => ?_, fun other => ?_⟩
      · show FilesNamed digests (state.sharedAfter _)
        rw [shared]
        exact sound.named
      · rw [committed]
        refine RunPath.mono keeps ?_
        by_cases here : authorization.runAuthorityId = other
        · subst here
          rw [List.filter_cons_of_pos (by simpa using run)]
          exact path
        · rw [List.filter_cons_of_neg (by simpa [run] using here), List.filter_nil,
            List.append_nil]
          exact sound.path other
      · show (state.sharedAfter _).heads other = _
        rw [shared, committed]
        show Function.update state.shared.heads authorization.runAuthorityId _ other = _
        by_cases here : authorization.runAuthorityId = other
        · subst here
          rw [List.filter_cons_of_pos (by simpa using run), Function.update_self,
            List.filter_nil, List.getLast?_concat]
          rfl
        · rw [List.filter_cons_of_neg (by simpa [run] using here), List.filter_nil,
            List.append_nil, Function.update_of_ne (Ne.symm here)]
          exact sound.row other

end QuantAgent.Lifecycle
