/-
This file treats `persist_authorization` calls that raise or crash before they commit a head. Such a
call may leave the file of its key behind, and then another authorization cannot be persisted under
that key any more. In a run of careful steps a failed call changes no head, no later call can tell
that it was there, and every committed receipt is found by its key.
-/

import QuantAgent.Lifecycle.CarefulCalls

namespace QuantAgent.Lifecycle

open Concurrent

variable {Hash : Type} [DecidableEq Hash] {digests : Digests Hash} {issuer : Issuer digests}
  {state now : State (lifecycle digests)} {worker other : ℕ} {action : Action (lifecycle digests)}
  {call : PersistCall Hash} {Value Next : Type}

/-! ### Failed calls -/

/-- The call of the worker raised or crashed. -/
def Failed : Worker (lifecycle digests) → Prop
  | .crashed => True
  | .running (.finish (.error _)) => True
  | _ => False

structure FailuresHarmless (issuer : Issuer digests) (world : World (lifecycle digests)) :
    Prop where
  headKept : ∀ worker fault, world.workers worker = .running (.finish (.error fault)) →
    ∀ entry ∈ world.state.log, entry.worker = worker → committedBy entry = none
  noTrace : ∀ worker, Failed (world.workers worker) → ¬ HasCommitted world.state worker →
    ∀ call, issuer.issues call.authorization →
      Succeeds digests (State.without ({} : LifecycleStore Hash) world.state worker) call →
        Succeeds digests world.state.shared call
  restorable : ∀ worker call, Began world.state worker call → HasCommitted world.state worker →
    ∃ bound, ∀ steps ≥ bound,
      world.state.shared.restoreTarget digests call.authorization.runAuthorityId
        call.transitionKey steps = .ok (call.authorization.envelope digests)

/-! ### Runs of careful steps -/

theorem leads_commitRunHead (issued : issuer.issues call.authorization) :
    Leads issuer (Committing call) (commitRunHead digests call.authorization)
      fun _ _ _ => True := by
  refine .bind (leads_readReceipt lasting_committing _ _) fun published worker state holds => ?_
  obtain rfl := holds.2.symm.trans holds.1.receipt
  rw [issuer.consistent _ issued]
  have passed : Leads issuer (Committing call) (.finish (.ok ()) : StoreProgram digests Unit)
      fun _ => Committing call := fun _ _ holds => holds
  refine (show Leads issuer (Committing call) _ fun _ _ _ => True from .bind passed fun _ =>
    .bind (.outside lasting_committing _) fun _ => .bind leads_commitHead
      fun committed => ?_) worker state holds.1
  have lasting : @Lasting _ _ digests fun _ _ => True := fun _ _ _ _ _ => trivial
  cases committed with
  | retried current => exact .pure fun _ _ _ => trivial
  | advanced head =>
    exact .bind (.outside lasting _) fun _ => .transact lasting trivial
      (fun _ _ _ same => nomatch same) (fun now => ⟨_, rfl⟩) (fun _ _ _ kept => kept.receipts)
      fun _ _ _ _ _ _ _ => trivial

theorem leads_persistAuthorization (issued : issuer.issues call.authorization) :
    Leads issuer (Beginning call) (persistAuthorization digests call) fun _ _ _ => True := by
  refine .bind (.outside lasting_beginning _) fun _ => .bind leads_publishReceipt fun _ =>
    .bind (.outside lasting_publishing _) fun _ => ?_
  cases named : call.transitionKey.fileName with
  | some key =>
    exact .bind (leads_writeKeyFile named) fun _ => .bind (leads_commitRunHead issued) fun _ =>
      .pure fun _ _ _ => trivial
  | none =>
    refine .weaken (fun worker state holds => ?_) (.bind (leads_commitRunHead issued) fun _ =>
      .pure fun _ _ _ => trivial)
    exact ⟨holds.began, holds.quiet.2, holds.receipt, by simp [named]⟩

/-- What a call ends in: one that failed has done nothing. -/
abbrev endsQuiet (worker : ℕ) (outcome : Except LifecycleFault (PersistedPath Hash))
    (state : State (lifecycle digests)) : Prop :=
  match outcome with
  | .ok _ => True
  | .error _ => Quiet state worker

theorem endsQuiet_stable (worker : ℕ) (outcome : Except LifecycleFault (PersistedPath Hash)) :
    (carefulness issuer).Stable worker (endsQuiet worker outcome) := by
  intro state after quiet foreign
  cases outcome with
  | ok path => trivial
  | error fault => exact (stays_interferes (.single foreign)).quiet.mpr quiet

theorem carefulness_obeyed :
    Rules.Obeyed (carefulness issuer) (persistAuthorization digests) endsQuiet := by
  intro worker call state kept assumed
  have keeps : KeepsKeyFiles state.shared (state.after worker (.started call)).shared :=
    fun _ _ _ found => found
  have fresh := assumed.2 call rfl
  refine ⟨keeps, kept.step (fun _ _ same => nomatch same) keeps
    (kept.sound.of_quiet worker (fun _ _ _ found => found) kept.sound.named rfl rfl) kept.receipts
    (fun other same => ⟨assumed.1, fresh⟩) (fun done => nomatch done), ?_⟩
  refine (leads_persistAuthorization assumed.1.1 worker _
    ⟨began_after.mpr (.inr ⟨rfl, rfl⟩), ?_⟩).mono fun outcome after ended => ?_
  rotate_left
  · cases outcome <;> exact ended
  refine ⟨fun wrote => ?_, fun done => ?_⟩
  · obtain ⟨entry, member, mine, -⟩ | ⟨-, writes⟩ := wroteKeyFile_after.mp wrote
    · exact fresh entry member mine
    · exact nomatch writes
  · obtain ⟨entry, member, mine, -⟩ | ⟨-, commit⟩ := hasCommitted_after.mp done
    · exact fresh entry member mine
    · exact nomatch commit

def CrashedBetween (world : World (lifecycle digests)) : Prop :=
  ∀ worker, world.workers worker = .crashed → WroteKeyFile world.state worker →
    HasCommitted world.state worker

/-- What holds of the world throughout a run of careful steps. -/
structure CarefulWorld (issuer : Issuer digests) (world : World (lifecycle digests)) : Prop where
  safe : Rules.WorldSafe (carefulness issuer) endsQuiet world
  fresh : world.Fresh
  crashed : CrashedBetween world

theorem kept_empty : Kept issuer (emptyWorld digests).state where
  sound := sound_empty
  receipts := fun _ _ _ found => nomatch found
  calls := fun _ _ began => nomatch began
  once := fun _ _ _ began => nomatch began
  alike := fun _ _ => ⟨rfl, rfl⟩
  committed := fun _ _ began => nomatch began

theorem carefulWorld_empty : CarefulWorld issuer (emptyWorld digests) where
  safe := ⟨kept_empty, fun _ => trivial⟩
  fresh := fun _ _ _ member => nomatch member
  crashed := fun _ crashed => nomatch crashed

theorem carefulWorld_step {world : World (lifecycle digests)} {event : Event (lifecycle digests)}
    (careful : CarefulWorld issuer world) (meets : CarefulEvent issuer world event) :
    CarefulWorld issuer (world.step (persistAuthorization digests) event) where
  safe := by
    refine Rules.worldSafe_step endsQuiet_stable carefulness_obeyed careful.safe ?_
    intro worker action next turn
    unfold CarefulEvent at meets
    rw [turn] at meets
    refine ⟨meets, ?_⟩
    rintro call rfl
    exact careful.fresh worker (World.idle_of_turn turn)
  fresh := World.fresh_step careful.fresh
  crashed := by
    intro other down
    unfold CarefulEvent at meets
    cases turn : world.turn (persistAuthorization digests) event with
    | some move =>
      obtain ⟨worker, action, next⟩ := move
      obtain ⟨-, -, goesOn⟩ := World.holder_of_turn turn
      rw [World.step_of_turn turn] at down ⊢
      have apart : other ≠ worker := by
        rintro rfl
        exact goesOn (World.move_self.symm.trans down)
      have before := careful.crashed other ((World.move_of_ne apart).symm.trans down)
      intro wrote
      obtain earlier | ⟨same, -⟩ := wroteKeyFile_after.mp wrote
      · exact hasCommitted_after.mpr (.inl (before earlier))
      · exact absurd same.symm apart
    | none =>
      rw [turn] at meets
      unfold World.step at down ⊢
      rw [turn] at down ⊢
      cases event with
      | crash worker =>
        by_cases mine : other = worker
        · subst mine
          exact meets
        · exact careful.crashed other ((Function.update_of_ne mine _ world.workers).symm.trans down)
      | _ => exact careful.crashed other down

/-! ### Failed calls are harmless -/

theorem committedBy_of_not_commits {entry : Entry (lifecycle digests)}
    (not : ¬ commits entry.action = true) : committedBy entry = none := by
  unfold committedBy
  split
  · next same =>
    rw [same] at not
    exact absurd rfl not
  · rfl

theorem Kept.envelope_eq (kept : Kept issuer state) {authorization : Authorization Hash}
    (issued : issuer.issues authorization) {runAuthorityId : Hash} {envelope : Envelope Hash}
    (found : state.shared.receipts runAuthorityId (authorization.receiptHash digests) =
      some envelope) : envelope = authorization.envelope digests := by
  obtain ⟨publisher, published, sameHash, rfl⟩ := kept.receipts _ _ _ found
  exact issuer.oneEnvelope publisher authorization published issued sameHash

theorem Kept.succeeds_of_without (kept : Kept issuer state) (quiet : Quiet state worker)
    (issued : issuer.issues call.authorization)
    (succeeds : Succeeds digests (State.without ({} : LifecycleStore Hash) state worker) call) :
    Succeeds digests state.shared call := by
  obtain ⟨keyFiles, heads⟩ := kept.alike worker quiet
  have accepts := (succeeds_iff issuer issued).mp succeeds
  refine (succeeds_iff issuer issued).mpr
    ⟨fun found present => kept.envelope_eq issued present, ?_, ?_⟩
  · rw [← keyFiles]
    exact accepts.keyFile
  · rw [← heads]
    exact accepts.head

theorem Kept.restorable (kept : Kept issuer state) (began : Began state worker call)
    (done : HasCommitted state worker) :
    ∃ bound, ∀ steps ≥ bound,
      state.shared.restoreTarget digests call.authorization.runAuthorityId call.transitionKey
        steps = .ok (call.authorization.envelope digests) := by
  have found := kept.committed worker call began done
  obtain ⟨issued, findable⟩ := kept.calls worker call began
  obtain ⟨head, member, same⟩ := found.head
  have linear := kept.sound.linearRun call.authorization.runAuthorityId
  have path := kept.sound.path call.authorization.runAuthorityId
  obtain ⟨last, isLast⟩ : ∃ last, (committedHeads state
      call.authorization.runAuthorityId).getLast? = some last :=
    ⟨_, List.getLast?_eq_some_getLast (List.ne_nil_of_mem member)⟩
  have read : state.shared.findReceipt call.authorization.runAuthorityId call.transitionKey =
      some (call.authorization.envelope digests) := by
    obtain ⟨_, envelope, published⟩ := path.published head member
    have file := published.file
    rw [same] at file
    cases named : call.transitionKey with
    | text name =>
      rw [named] at findable
      obtain hasFile | digest := findable
      · have transitionKey : isTransitionKey name = true := by
          simpa [TransitionKey.fileName] using hasFile
        unfold LifecycleStore.findReceipt
        dsimp only
        rw [if_pos transitionKey]
        refine found.keyFile name ?_
        rw [named]
        exact if_pos transitionKey
      · cases digest
    | digest hash =>
      rw [named] at findable
      obtain hasFile | digest := findable
      · cases hasFile
      · obtain rfl := (TransitionKey.digest.injEq _ _).mp digest
        exact file.trans (congrArg some (kept.envelope_eq issued file))
  refine ⟨(committedHeads state call.authorization.runAuthorityId).length, fun steps enough => ?_⟩
  have listed : call.authorization.receiptHash digests ∈
      ((committedHeads state call.authorization.runAuthorityId).map
        (·.headReceiptHash)).reverse :=
    List.mem_reverse.mpr (List.mem_map.mpr ⟨head, member, same⟩)
  unfold LifecycleStore.restoreTarget
  rw [linear.head, isLast, ok_bind]
  dsimp only
  rw [linear.lineage last isLast steps enough, ok_bind, read]
  dsimp only
  rw [refuse_of_not]
  · rfl
  · rintro (other | missing)
    · exact other rfl
    · exact missing listed

theorem CarefulWorld.failuresHarmless {world : World (lifecycle digests)}
    (careful : CarefulWorld issuer world) : FailuresHarmless issuer world where
  headKept := by
    intro worker fault raised entry member mine
    have safe := careful.safe.2 worker
    rw [raised] at safe
    exact committedBy_of_not_commits fun done => safe.2 ⟨entry, member, mine, done⟩
  noTrace := by
    intro worker failed uncommitted call issued
    refine careful.safe.1.succeeds_of_without ?_ issued
    have safe := careful.safe.2 worker
    cases holder : world.workers worker with
    | crashed =>
      exact ⟨fun wrote => uncommitted (careful.crashed worker holder wrote), uncommitted⟩
    | running program =>
      rw [holder] at failed safe
      cases program with
      | finish outcome =>
        cases outcome with
        | error fault => exact safe
        | ok path => exact failed.elim
      | _ => exact failed.elim
    | _ =>
      rw [holder] at failed
      exact failed.elim
  restorable := fun worker call => careful.safe.1.restorable

/-- In a run of careful events a failed call changes no head, no later call can tell that it was
there, and every committed receipt is found by the key it was persisted under. -/
theorem careful_failures_harmless (issuer : Issuer digests)
    (events : List (Event (lifecycle digests)))
    (careful : Runs.Each (World.step (persistAuthorization digests)) (CarefulEvent issuer)
      (emptyWorld digests) events) :
    Runs.Throughout (World.step (persistAuthorization digests)) (FailuresHarmless issuer)
      (emptyWorld digests) events :=
  (Runs.throughout_of_each (fun _ _ safe meets => carefulWorld_step safe meets) carefulWorld_empty
    careful).mono fun _ safe => safe.failuresHarmless

/-! ### A candidate lock that crashes -/

namespace Sample

def sampleDigests : Digests ℕ where
  receipt
    | .discovery _ => 1
    | .candidateLock receipt => if receipt.lockedAtUtc = "01:00" then 2 else 3
    | _ => 0
  discoveryEvidence _ := 4
  wfEvidence _ := 5
  head head := head.transitionSequence

def context (predecessor : Option ℕ) : PersistenceContext ℕ where
  controllerAuthorityHash := 10
  discoveryRunGrantHash := 11
  implementationAuthorityHash := 12
  runAuthorityId := 13
  runtimeSealHash := 14
  predecessorReceiptHash := predecessor
  splitAuthorityHash := none

def discovery : Authorization ℕ where
  receipt := .discovery
    { authorizedAtUtc := "00:00"
      controllerAuthorityHash := 10
      discoveryRunGrantHash := 11
      lifecycleImplementationAuthorityHash := 12
      materializedRunAuthorityHash := 15
      notTestableSlotCount := 167
      registeredSlotCount := 1
      runAuthorityId := 13
      sealedRegisteredRosterHash := 16
      sourceManifestHash := 17
      splitAttestationHash := 18
      splitManifestHash := 19 }
  sourceState := .p1Scaffolded
  targetState := .discovery
  runAuthorityId := 13
  upstreamReceiptHash := none
  persistenceContext := context none
  boundEvidence := none

def lock (lockedAtUtc : String) : Authorization ℕ where
  receipt := .candidateLock
    { discoveryResultEvidenceHash := 4
      lockedAtUtc := lockedAtUtc
      materializedRunAuthorityHash := 15
      runAuthorityId := 13
      selectedSlotHash := 20
      selectedSlotIndex := 0
      selectedStructuralConfigurationHash := 21
      upstreamReceiptHash := 1
      verifiedAtUtc := "00:30" }
  sourceState := .discovery
  targetState := .candidateLocked
  runAuthorityId := 13
  upstreamReceiptHash := some 1
  persistenceContext := context (some 1)
  boundEvidence := some (.discovery
    { candidateResultEntries := []
      correctionInputEvidenceManifestHash := 22
      createdAtUtc := "00:20"
      discoveryAuthorizationReceiptHash := 1
      materializedRunAuthorityHash := 15
      runAuthorityId := 13
      sealedRegisteredRosterHash := 16 })

def authorizations : List (Authorization ℕ) := [discovery, lock "01:00", lock "02:00"]

def sampleIssuer : Issuer sampleDigests where
  issues authorization := authorization ∈ authorizations
  consistent := by decide
  oneEnvelope := by
    have each : ∀ one ∈ authorizations, ∀ other ∈ authorizations,
        one.receiptHash sampleDigests = other.receiptHash sampleDigests →
          one.envelope sampleDigests = other.envelope sampleDigests := by decide
    exact fun one other first second => each one first other second

def steps (worker : ℕ) (call : PersistCall ℕ) (count : ℕ) :
    List (Event (lifecycle sampleDigests)) :=
  .start worker call ::
    (List.replicate count [.advance worker, .answer worker fun _ => .ok ()]).flatten

/-- The discovery is persisted, and a candidate lock stops after its key file. -/
def crashedLock : List (Event (lifecycle sampleDigests)) :=
  steps 0 ⟨.text "01_discovery", discovery⟩ 14 ++
    steps 1 ⟨.text "02_candidate_lock", lock "01:00"⟩ 8 ++ [.crash 1]

instance : DecidablePred sampleIssuer.issues := fun authorization =>
  inferInstanceAs (Decidable (authorization ∈ authorizations))

/-- The discovery is persisted, the verification of one candidate lock fails, and another one is
persisted under the same key. -/
def carefulLock : List (Event (lifecycle sampleDigests)) :=
  steps 0 ⟨.text "01_discovery", discovery⟩ 14 ++
    [.start 1 ⟨.text "02_candidate_lock", lock "01:00"⟩, .advance 1,
      .answer 1 fun _ => .error (.outside "foreign verifier authority")] ++
    steps 2 ⟨.text "02_candidate_lock", lock "02:00"⟩ 14

end Sample

/-- The key file of a call that crashed before its commit stands in the way of another successor. -/
theorem crashed_lock_blocks :
    ¬ Runs.Throughout (World.step (persistAuthorization Sample.sampleDigests))
    (FailuresHarmless Sample.sampleIssuer) (emptyWorld Sample.sampleDigests)
    Sample.crashedLock := by
  intro harmless
  have blocked : ¬ Succeeds Sample.sampleDigests
      (Runs.run (World.step (persistAuthorization Sample.sampleDigests))
        (emptyWorld Sample.sampleDigests)
        Sample.crashedLock).state.shared
      ⟨.text "02_candidate_lock", Sample.lock "02:00"⟩ := by
    unfold Succeeds
    decide
  have issued : Sample.lock "02:00" ∈ Sample.authorizations := by decide
  exact blocked (harmless.last.noTrace 1 (by trivial) (by decide) _ issued
    (by unfold Succeeds; decide))

theorem careful_lock_harmless :
    Runs.Throughout (World.step (persistAuthorization Sample.sampleDigests))
      (FailuresHarmless Sample.sampleIssuer) (emptyWorld Sample.sampleDigests)
      Sample.carefulLock :=
  careful_failures_harmless Sample.sampleIssuer Sample.carefulLock (by decide)

end QuantAgent.Lifecycle
