/-
This file proves that the durable head of a run is linear. Whatever the processes do and wherever
they stop, the heads that were committed for a run follow one path of accepted transitions from the
discovery on, the row and the lineage of the run are the end and the receipts of that path, and at
most one candidate is locked in it.

Each step of `persist_authorization` is one that keeps what the processes share sound. The step
that commits a head relies on the receipt that was read before it, which no process can have
changed since.
-/

import QuantAgent.Lifecycle.RunHead

namespace QuantAgent.Lifecycle

open Concurrent

variable {Hash : Type} [DecidableEq Hash] {digests : Digests Hash}
  {state now : State (lifecycle digests)} {runAuthorityId hash : Hash} {Value Next : Type}

/-! ### Programs that keep the store sound -/

abbrev soundness (digests : Digests Hash) : Rules (lifecycle digests) where
  inv := Sound

def KeepsSound (program : StoreProgram digests Value) : Prop :=
  ∀ worker state, (soundness digests).Safe worker (fun _ _ => True) program state

namespace KeepsSound

theorem finish (outcome : Except LifecycleFault Value) :
    @KeepsSound _ _ digests _ (.finish outcome) := fun _ _ => trivial

theorem refuse (condition : Prop) [Decidable condition] (fault : LifecycleFault) :
    @KeepsSound _ _ digests _ (Program.refuse condition fault) := fun _ _ =>
  Rules.safe_refuse.mpr ⟨fun _ => trivial, fun _ => trivial⟩

theorem bind {program : StoreProgram digests Value} {next : Value → StoreProgram digests Next}
    (first : KeepsSound program) (rest : ∀ value, KeepsSound (next value)) :
    KeepsSound (program >>= next) := by
  intro worker state
  refine Rules.safe_bind.mpr ((first worker state).mono fun outcome after _ => ?_)
  cases outcome with
  | ok value => exact rest value worker after
  | error fault => trivial

theorem transact {transaction : StoreTransaction Hash} (harmless : Harmless digests transaction) :
    KeepsSound (Lifecycle.transact digests transaction) := fun worker _ =>
  Rules.safe_run.mpr fun _ _ sound _ => ⟨trivial, sound.harmless worker harmless, trivial⟩

theorem outside (request : Outside) : KeepsSound (Lifecycle.outside digests request) := by
  intro worker state
  refine Rules.safe_request.mpr fun now _ sound _ => ⟨trivial, ?_, fun outcome later _ kept _ =>
    ⟨trivial, ?_, trivial⟩⟩
  · exact sound.of_quiet worker (fun _ _ _ found => found) sound.named rfl rfl
  · exact kept.of_quiet worker (fun _ _ _ found => found) kept.named rfl rfl

end KeepsSound

/-! ### `persist_authorization` -/

variable (authorization : Authorization Hash)

theorem keepsSound_publishReceipt : KeepsSound (publishReceipt digests authorization) := by
  refine .bind (.transact trivial) fun existing => ?_
  cases existing with
  | some found => exact .refuse _ _
  | none =>
    refine .bind (.outside _) fun _ => .bind (.transact ⟨rfl, rfl⟩) fun linked => ?_
    split
    · exact .finish _
    · exact .bind (.transact trivial) fun found => .refuse _ _

theorem keepsSound_writeKeyFile (key : String) :
    KeepsSound (writeKeyFile digests authorization key) := by
  refine .bind (.transact trivial) fun known => ?_
  split
  · exact .bind (.transact trivial) fun found => .refuse _ _
  · exact .bind (.outside _) fun _ => .transact trivial

theorem keepsSound_commitRunHead : KeepsSound (commitRunHead digests authorization) := by
  intro worker state
  refine Rules.safe_bind.mpr (Rules.safe_run.mpr fun read _ sound _ =>
    ⟨trivial, sound.harmless worker trivial, ?_⟩)
  refine Rules.safe_bind.mpr ?_
  cases passes : authorization.checkPublished digests
      (read.shared.receipts authorization.runAuthorityId (authorization.receiptHash digests)) with
  | error fault => trivial
  | ok checked =>
    obtain ⟨envelope, found, checked⟩ := checked_of_checkPublished passes
    refine Rules.safe_bind.mpr (Rules.safe_request.mpr fun asked untilAsked kept _ => ⟨trivial,
      kept.of_quiet worker (fun _ _ _ held => held) kept.named rfl rfl,
      fun answer answered untilAnswered later _ => ⟨trivial,
        later.of_quiet worker (fun _ _ _ held => held) later.named rfl rfl, ?_⟩⟩)
    cases answer with
    | error fault => trivial
    | ok opened =>
      refine Rules.safe_bind.mpr (Rules.safe_run.mpr fun committing untilCommit last _ =>
        ⟨trivial, ?_, ?_⟩)
      · exact last.commit (keepsFiles_interferes untilCommit _ _ _
          (keepsFiles_interferes untilAnswered _ _ _
            (keepsFiles_interferes untilAsked _ _ _ found)))
          checked worker
      · dsimp only
        split
        · split
          · trivial
          · refine KeepsSound.bind (.outside _) (fun _ => ?_) worker _
            exact .transact trivial
        · trivial

theorem keepsSound_persistAuthorization (call : PersistCall Hash) :
    KeepsSound (persistAuthorization digests call) := by
  refine .bind (.outside _) fun _ => .bind (keepsSound_publishReceipt _) fun _ =>
    .bind (.outside _) fun _ => ?_
  cases call.transitionKey.fileName with
  | some key =>
    exact .bind (keepsSound_writeKeyFile _ _) fun _ =>
      .bind (keepsSound_commitRunHead _) fun _ => .finish _
  | none => exact .bind (keepsSound_commitRunHead _) fun _ => .finish _

/-- The store before any process has acted. -/
def emptyWorld (digests : Digests Hash) : World (lifecycle digests) where
  state := { shared := {} }

theorem sound_empty : Sound (emptyWorld digests).state where
  named := fun _ _ _ found => nomatch found
  path := fun _ => .empty
  row := fun _ => rfl

theorem sound_throughout (events : List (Event (lifecycle digests))) :
    Runs.Throughout (World.step (persistAuthorization digests)) (fun world => Sound world.state)
      (emptyWorld digests) events := by
  have obeyed : Rules.Obeyed (soundness digests) (persistAuthorization digests)
      fun _ _ _ => True := by
    intro worker call state sound _
    exact ⟨trivial, sound.of_quiet worker (fun _ _ _ found => found) sound.named rfl rfl,
      keepsSound_persistAuthorization call worker _⟩
  exact (Rules.worldSafe_run (fun _ _ _ _ _ _ => trivial) obeyed
    ⟨sound_empty, fun _ => trivial⟩
    (Runs.each_of_forall_mem fun _ _ _ _ _ _ _ => trivial)).mono fun world safe => safe.1

/-! ### The durable head is linear -/

structure Follows (earlier later : DurableRunHead Hash) : Prop where
  accepted : (earlier.headState, later.headState) ∈ LifecycleState.acceptedTransitions
  predecessor : later.headPredecessorReceiptHash = some earlier.headReceiptHash
  sequence : later.transitionSequence = earlier.transitionSequence + 1
  notTerminal : earlier.terminal = false

structure Starts (head : DurableRunHead Hash) : Prop where
  accepted : (.p1Scaffolded, head.headState) ∈ LifecycleState.acceptedTransitions
  discovery : head.headState = .discovery
  predecessor : head.headPredecessorReceiptHash = none
  sequence : head.transitionSequence = 0

structure LinearRun (state : State (lifecycle digests)) (runAuthorityId : Hash) : Prop where
  starts : ∀ head ∈ (committedHeads state runAuthorityId).head?, Starts head
  follows : (committedHeads state runAuthorityId).IsChain Follows
  oneCandidate :
    (committedHeads state runAuthorityId).countP (fun head => head.headState = .candidateLocked) ≤ 1
  head : state.shared.getCommittedRunHead digests runAuthorityId =
    .ok (committedHeads state runAuthorityId).getLast?
  lineage : ∀ head ∈ (committedHeads state runAuthorityId).getLast?,
    ∀ steps ≥ (committedHeads state runAuthorityId).length,
      state.shared.getCommittedLineage digests runAuthorityId head steps =
        .ok ((committedHeads state runAuthorityId).map (·.headReceiptHash)).reverse

namespace RunPath

variable {store : LifecycleStore Hash} {heads : List (DurableRunHead Hash)}

omit [DecidableEq Hash] in
theorem starts (path : RunPath store runAuthorityId heads) : ∀ head ∈ heads.head?, Starts head := by
  induction path with
  | empty => exact fun _ none => nomatch none
  | first head envelope published genesis discovery sequence =>
    rintro _ ⟨rfl⟩
    exact ⟨published.accepted, discovery, genesis, sequence⟩
  | next heads last head envelope path published predecessor sequence inductionHypothesis =>
    rw [List.head?_append_of_ne_nil _ (by simp)]
    exact inductionHypothesis

omit [DecidableEq Hash] in
theorem follows (path : RunPath store runAuthorityId heads) : heads.IsChain Follows := by
  induction path with
  | empty => exact .nil
  | first head => exact .singleton head
  | next heads last head envelope path published predecessor sequence inductionHypothesis =>
    refine List.IsChain.append inductionHypothesis (.singleton head) ?_
    intro earlier isLast later isHead
    rw [List.getLast?_concat] at isLast
    obtain rfl := Option.some.inj isLast
    obtain rfl := Option.some.inj isHead
    obtain ⟨_, _, backed⟩ := path.published last (List.mem_append_right _ List.mem_cons_self)
    exact ⟨published.accepted, predecessor, sequence, backed.terminal.trans
      (decide_eq_false (LifecycleState.not_terminal_of_accepted _ published.accepted))⟩

omit [DecidableEq Hash] in
theorem depth {last : DurableRunHead Hash}
    (path : RunPath store runAuthorityId (heads ++ [last])) :
    last.transitionSequence = heads.length := by
  induction heads using List.reverseRecOn generalizing last with
  | nil =>
    obtain ⟨-, -, -, -, sequence⟩ | ⟨_, _, _, empty, _⟩ := path.cases_last
    · exact sequence
    · exact absurd empty (by simp)
  | append_singleton earlier other inductionHypothesis =>
    obtain ⟨empty, _⟩ | ⟨_, _, _, same, before, _, _, sequence⟩ := path.cases_last
    · exact absurd empty (by simp)
    · obtain ⟨rfl, single⟩ := List.append_inj' same rfl
      obtain rfl := List.singleton_inj.mp single
      rw [sequence, inductionHypothesis before, List.length_append, List.length_singleton]

end RunPath

theorem Sound.linearRun (sound : Sound state) (runAuthorityId : Hash) :
    LinearRun state runAuthorityId where
  starts := (sound.path runAuthorityId).starts
  follows := (sound.path runAuthorityId).follows
  oneCandidate := (sound.path runAuthorityId).oneCandidate
  head := by
    have path := sound.path runAuthorityId
    rw [LifecycleStore.getCommittedRunHead, sound.row]
    cases isLast : (committedHeads state runAuthorityId).getLast? with
    | none => rfl
    | some last =>
      obtain ⟨_, _, published⟩ := path.published last (List.mem_of_getLast? isLast)
      show ((last.row digests).validate digests runAuthorityId).map some = _
      rw [validate_row published.headRun published.terminal]
      rfl
  lineage := by
    intro last isLast steps enough
    have path := sound.path runAuthorityId
    obtain ⟨earlier, heads_eq⟩ := List.getLast?_eq_some_iff.mp isLast
    rw [heads_eq] at path enough ⊢
    refine (lineageFrom_path sound.named path (fun _ _ => List.not_mem_nil) (fun _ => rfl)
      ?_ ?_ ?_).trans (congrArg Except.ok (List.nil_append _))
    · exact fun _ absent => nomatch absent
    · exact path.depth.trans (Nat.zero_add _).symm
    · rw [List.length_append] at enough
      exact enough

/-- The durable head of every run is linear at every moment, however the processes interleave and
wherever they crash. -/
theorem durable_head_linear (digests : Digests Hash) (events : List (Event (lifecycle digests))) :
    Runs.Throughout (World.step (persistAuthorization digests))
      (fun world => ∀ runAuthorityId, LinearRun world.state runAuthorityId)
      (emptyWorld digests) events :=
  (sound_throughout events).mono fun _ sound => sound.linearRun

end QuantAgent.Lifecycle
