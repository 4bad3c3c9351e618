/-
This file treats the steps of `persist_authorization` calls that keep clear of what may go wrong:
the key of a call can be found again, no key file is replaced by another one, and no call ends
between its key file and its commit or while it mirrors its head.

The store without a call is what the steps of the other calls alone make of an empty one. A call
that has written no key file and committed no head leaves the same key files and rows as if it had
not been there, and a receipt file that it leaves holds what any later call would publish there.
-/

import QuantAgent.Lifecycle.LinearHead
import QuantAgent.Lifecycle.LoneCall

namespace QuantAgent.Lifecycle

open Concurrent

variable {Hash : Type} [DecidableEq Hash] {digests : Digests Hash} {issuer : Issuer digests}
  {state now : State (lifecycle digests)} {worker other : ℕ} {action : Action (lifecycle digests)}
  {call : PersistCall Hash} {Value Next : Type}

/-! ### What a call has done -/

def writesKeyFile : Action (lifecycle digests) → Bool
  | .transacted (.replaceKeyFile _ _ _) _ => true
  | _ => false

def commits : Action (lifecycle digests) → Bool
  | .transacted (.commitHead _) (.ok _) => true
  | _ => false

def Began (state : State (lifecycle digests)) (worker : ℕ) (call : PersistCall Hash) : Prop :=
  ⟨worker, .started call⟩ ∈ state.log

def WroteKeyFile (state : State (lifecycle digests)) (worker : ℕ) : Prop :=
  ∃ entry ∈ state.log, entry.worker = worker ∧ writesKeyFile entry.action = true

def HasCommitted (state : State (lifecycle digests)) (worker : ℕ) : Prop :=
  ∃ entry ∈ state.log, entry.worker = worker ∧ commits entry.action = true

instance : Decidable (WroteKeyFile state worker) := inferInstanceAs (Decidable (∃ _ ∈ _, _))

instance : Decidable (HasCommitted state worker) := inferInstanceAs (Decidable (∃ _ ∈ _, _))

/-! ### Careful steps -/

def Careful (issuer : Issuer digests) (state : State (lifecycle digests)) (worker : ℕ) :
    Action (lifecycle digests) → Prop
  | .started call => issuer.issues call.authorization ∧
    (call.transitionKey.fileName.isSome = true ∨
      call.transitionKey = .digest (call.authorization.receiptHash digests))
  | .transacted (.replaceKeyFile runAuthorityId key envelope) _ =>
    ∀ found ∈ state.shared.keyFiles runAuthorityId key, found = envelope
  | .transacted (.commitHead _) (.error _) => ¬ WroteKeyFile state worker
  | .answered _ (.error _) => ¬ WroteKeyFile state worker ∧ ¬ HasCommitted state worker
  | _ => True

instance [DecidablePred issuer.issues] : Decidable (Careful issuer state worker action) :=
  match action with
  | .started _ => inferInstanceAs (Decidable (_ ∧ _))
  | .transacted (.replaceKeyFile _ _ _) _ => inferInstanceAs (Decidable (∀ _ ∈ _, _))
  | .transacted (.commitHead _) (.error _) => inferInstanceAs (Decidable (¬ _))
  | .transacted (.commitHead _) (.ok _) => inferInstanceAs (Decidable True)
  | .transacted (.readReceipt _ _) _ => inferInstanceAs (Decidable True)
  | .transacted (.linkReceipt _ _ _) _ => inferInstanceAs (Decidable True)
  | .transacted (.keyFileExists _ _) _ => inferInstanceAs (Decidable True)
  | .transacted (.readKeyFile _ _) _ => inferInstanceAs (Decidable True)
  | .transacted (.replaceMirror _) _ => inferInstanceAs (Decidable True)
  | .asked _ => inferInstanceAs (Decidable True)
  | .answered _ (.error _) => inferInstanceAs (Decidable (_ ∧ _))
  | .answered _ (.ok _) => inferInstanceAs (Decidable True)

def CarefulEvent (issuer : Issuer digests) (world : World (lifecycle digests))
    (event : Event (lifecycle digests)) : Prop :=
  match world.turn (persistAuthorization digests) event with
  | some (worker, action, _) => Careful issuer world.state worker action
  | none =>
    match event with
    | .crash worker => WroteKeyFile world.state worker → HasCommitted world.state worker
    | _ => True

instance [DecidablePred issuer.issues] {world : World (lifecycle digests)}
    {event : Event (lifecycle digests)} : Decidable (CarefulEvent issuer world event) :=
  match turn : world.turn (persistAuthorization digests) event with
  | some (worker, action, _) =>
    decidable_of_iff (Careful issuer world.state worker action)
      (by unfold CarefulEvent; rw [turn])
  | none =>
    match event with
    | .crash worker =>
      decidable_of_iff (WroteKeyFile world.state worker → HasCommitted world.state worker)
        (by unfold CarefulEvent; rw [turn])
    | .start _ _ => .isTrue (by unfold CarefulEvent; rw [turn]; trivial)
    | .advance _ => .isTrue (by unfold CarefulEvent; rw [turn]; trivial)
    | .answer _ _ => .isTrue (by unfold CarefulEvent; rw [turn]; trivial)

/-! ### What processes keep -/

def Quiet (state : State (lifecycle digests)) (worker : ℕ) : Prop :=
  ¬ WroteKeyFile state worker ∧ ¬ HasCommitted state worker

structure Found (state : State (lifecycle digests)) (call : PersistCall Hash) : Prop where
  keyFile : ∀ key ∈ call.transitionKey.fileName,
    state.shared.keyFiles call.authorization.runAuthorityId key =
      some (call.authorization.envelope digests)
  head : ∃ head ∈ committedHeads state call.authorization.runAuthorityId,
    head.headReceiptHash = call.authorization.receiptHash digests

structure Kept (issuer : Issuer digests) (state : State (lifecycle digests)) : Prop where
  sound : Sound state
  receipts : ∀ runAuthorityId hash envelope,
    state.shared.receipts runAuthorityId hash = some envelope →
      ∃ authorization, issuer.issues authorization ∧
        authorization.receiptHash digests = hash ∧ authorization.envelope digests = envelope
  calls : ∀ worker call, Began state worker call → issuer.issues call.authorization ∧
    (call.transitionKey.fileName.isSome = true ∨
      call.transitionKey = .digest (call.authorization.receiptHash digests))
  once : ∀ worker call other, Began state worker call → Began state worker other → call = other
  alike : ∀ worker, Quiet state worker →
    (State.without ({} : LifecycleStore Hash) state worker).keyFiles = state.shared.keyFiles ∧
      (State.without ({} : LifecycleStore Hash) state worker).heads = state.shared.heads
  committed : ∀ worker call, Began state worker call → HasCommitted state worker → Found state call

def KeepsKeyFiles (store after : LifecycleStore Hash) : Prop :=
  ∀ runAuthorityId key envelope, store.keyFiles runAuthorityId key = some envelope →
    after.keyFiles runAuthorityId key = some envelope

abbrev carefulness (issuer : Issuer digests) : Rules (lifecycle digests) where
  inv := Kept issuer
  assumes := fun state worker action => Careful issuer state worker action ∧
    ∀ call, action = .started call → ∀ entry ∈ state.log, entry.worker ≠ worker
  allows := fun state worker action => KeepsKeyFiles state.shared (state.after worker action).shared

/-! ### What a step changes -/

/-- What steps of other processes, and most of its own, leave as it is for a worker. -/
structure Stays (worker : ℕ) (state now : State (lifecycle digests)) : Prop where
  receipts : KeepsFiles state.shared now.shared
  keyFiles : KeepsKeyFiles state.shared now.shared
  began : ∀ call, Began now worker call ↔ Began state worker call
  wrote : WroteKeyFile now worker ↔ WroteKeyFile state worker
  committed : HasCommitted now worker ↔ HasCommitted state worker

namespace Stays

theorem refl (worker : ℕ) (state : State (lifecycle digests)) : Stays worker state state :=
  ⟨fun _ _ _ found => found, fun _ _ _ found => found, fun _ => Iff.rfl, Iff.rfl, Iff.rfl⟩

theorem trans {later : State (lifecycle digests)} (first : Stays worker state now)
    (second : Stays worker now later) : Stays worker state later where
  receipts := fun _ _ _ found => second.receipts _ _ _ (first.receipts _ _ _ found)
  keyFiles := fun _ _ _ found => second.keyFiles _ _ _ (first.keyFiles _ _ _ found)
  began := fun call => (second.began call).trans (first.began call)
  wrote := second.wrote.trans first.wrote
  committed := second.committed.trans first.committed

theorem quiet (stays : Stays worker state now) : Quiet now worker ↔ Quiet state worker :=
  and_congr (not_congr stays.wrote) (not_congr stays.committed)

end Stays

theorem did_after (does : Action (lifecycle digests) → Bool) :
    (∃ entry ∈ (state.after worker action).log, entry.worker = other ∧ does entry.action = true) ↔
      (∃ entry ∈ state.log, entry.worker = other ∧ does entry.action = true) ∨
        worker = other ∧ does action = true := by
  unfold State.after
  simp [List.mem_append, or_and_right, exists_or]

theorem wroteKeyFile_after : WroteKeyFile (state.after worker action) other ↔
    WroteKeyFile state other ∨ worker = other ∧ writesKeyFile action = true := did_after _

theorem hasCommitted_after : HasCommitted (state.after worker action) other ↔
    HasCommitted state other ∨ worker = other ∧ commits action = true := did_after _

theorem began_after : Began (state.after worker action) other call ↔
    Began state other call ∨ worker = other ∧ action = .started call := by
  unfold Began State.after
  rw [List.mem_append, List.mem_singleton, Entry.mk.injEq]
  exact or_congr_right ⟨fun ⟨mine, same⟩ => ⟨mine.symm, same.symm⟩,
    fun ⟨mine, same⟩ => ⟨mine.symm, same.symm⟩⟩

theorem stays_after (keeps : KeepsKeyFiles state.shared (state.after other action).shared)
    (calm : other = worker →
      writesKeyFile action = false ∧ commits action = false ∧ ∀ call, action ≠ .started call) :
    Stays worker state (state.after other action) where
  receipts := keepsFiles_after state other action
  keyFiles := keeps
  began := fun call => began_after.trans (or_iff_left fun own => (calm own.1).2.2 call own.2)
  wrote := wroteKeyFile_after.trans (or_iff_left fun own => by
    rw [(calm own.1).1] at own
    exact Bool.false_ne_true own.2)
  committed := hasCommitted_after.trans (or_iff_left fun own => by
    rw [(calm own.1).2.1] at own
    exact Bool.false_ne_true own.2)

theorem stays_interferes (interferes : (carefulness issuer).Interferes worker state now) :
    Stays worker state now := by
  induction interferes with
  | refl => exact .refl worker state
  | tail _ foreign inductionHypothesis =>
    obtain ⟨other, action, apart, keeps, rfl, -⟩ := foreign
    exact inductionHypothesis.trans (stays_after keeps fun same => absurd same apart)

theorem applied_congr {store after : LifecycleStore Hash} (action : Action (lifecycle digests))
    (keyFiles : store.keyFiles = after.keyFiles) (heads : store.heads = after.heads) :
    LifecycleStore.keyFiles (action.applied store) =
      LifecycleStore.keyFiles (action.applied after) ∧
      LifecycleStore.heads (action.applied store) =
        LifecycleStore.heads (action.applied after) := by
  cases action with
  | transacted transaction outcome =>
    cases transaction with
    | linkReceipt runAuthorityId hash envelope =>
      have linked : ∀ store : LifecycleStore Hash,
          (store.linkReceipt runAuthorityId hash envelope).1.keyFiles = store.keyFiles ∧
            (store.linkReceipt runAuthorityId hash envelope).1.heads = store.heads := by
        intro store
        unfold LifecycleStore.linkReceipt
        split <;> exact ⟨rfl, rfl⟩
      exact ⟨(linked store).1.trans (keyFiles.trans (linked after).1.symm),
        (linked store).2.trans (heads.trans (linked after).2.symm)⟩
    | replaceKeyFile runAuthorityId key envelope =>
      refine ⟨?_, heads⟩
      show Function.update store.keyFiles _ (Function.update (store.keyFiles _) _ _) =
        Function.update after.keyFiles _ (Function.update (after.keyFiles _) _ _)
      rw [keyFiles]
    | commitHead authorization =>
      have committed := fun store : LifecycleStore Hash =>
        @shared_commitHead _ digests _ ⟨store, []⟩ authorization outcome
      unfold Action.applied
      rw [committed, committed]
      dsimp only
      rw [heads]
      cases authorization.commitHead digests (after.heads authorization.runAuthorityId) with
      | error fault => exact ⟨keyFiles, heads⟩
      | ok committed =>
        cases committed with
        | retried current => exact ⟨keyFiles, heads⟩
        | advanced head =>
          refine ⟨keyFiles, ?_⟩
          show Function.update store.heads _ _ = Function.update after.heads _ _
          rw [heads]
    | _ => exact ⟨keyFiles, heads⟩
  | _ => exact ⟨keyFiles, heads⟩

def Coherent (state : State (lifecycle digests)) (action : Action (lifecycle digests)) : Prop :=
  ∀ transaction outcome, action = .transacted transaction outcome →
    outcome = state.outcome transaction

theorem calm_applied (coherent : Coherent state action) (noKeyFile : writesKeyFile action = false)
    (noCommit : commits action = false) :
    LifecycleStore.keyFiles (state.sharedAfter action) = state.shared.keyFiles ∧
      LifecycleStore.heads (state.sharedAfter action) = state.shared.heads := by
  cases action with
  | transacted transaction outcome =>
    cases transaction with
    | linkReceipt runAuthorityId hash envelope =>
      show (state.shared.linkReceipt runAuthorityId hash envelope).1.keyFiles = _ ∧
        (state.shared.linkReceipt runAuthorityId hash envelope).1.heads = _
      unfold LifecycleStore.linkReceipt
      split <;> exact ⟨rfl, rfl⟩
    | replaceKeyFile => exact nomatch noKeyFile
    | commitHead authorization =>
      have same := (coherent _ _ rfl).trans outcome_commitHead
      rw [shared_commitHead, ← same]
      cases outcome with
      | ok committed => exact nomatch noCommit
      | error fault => exact ⟨rfl, rfl⟩
    | _ => exact ⟨rfl, rfl⟩
  | _ => exact ⟨rfl, rfl⟩

theorem committedHeads_after (state : State (lifecycle digests)) (worker : ℕ)
    (action : Action (lifecycle digests)) (runAuthorityId : Hash) :
    committedHeads (state.after worker action) runAuthorityId =
      committedHeads state runAuthorityId ++
        ((committedBy ⟨worker, action⟩).toList.filter (·.runAuthorityId = runAuthorityId)) := by
  unfold committedHeads State.after
  rw [List.filterMap_append, List.filter_append]
  cases committed : committedBy ⟨worker, action⟩ <;> simp [committed]

theorem Found.after (found : Found state call)
    (keeps : KeepsKeyFiles state.shared (state.after worker action).shared) :
    Found (state.after worker action) call := by
  obtain ⟨head, member, same⟩ := found.head
  refine ⟨fun key named => keeps _ _ _ (found.keyFile key named), head, ?_, same⟩
  rw [committedHeads_after]
  exact List.mem_append_left _ member

theorem Kept.step (kept : Kept issuer state) (coherent : Coherent state action)
    (keeps : KeepsKeyFiles state.shared (state.after worker action).shared)
    (sound : Sound (state.after worker action))
    (receipts : ∀ runAuthorityId hash envelope,
      (state.after worker action).shared.receipts runAuthorityId hash = some envelope →
        ∃ authorization, issuer.issues authorization ∧
          authorization.receiptHash digests = hash ∧ authorization.envelope digests = envelope)
    (calls : ∀ call, action = .started call → Careful issuer state worker action ∧
      ∀ entry ∈ state.log, entry.worker ≠ worker)
    (found : commits action = true → ∀ call, Began state worker call →
      Found (state.after worker action) call) : Kept issuer (state.after worker action) where
  sound := sound
  receipts := receipts
  calls := by
    intro other call began
    obtain before | ⟨-, rfl⟩ := began_after.mp began
    · exact kept.calls other call before
    · exact (calls call rfl).1
  once := by
    intro other call again first second
    obtain before | ⟨rfl, rfl⟩ := began_after.mp first
    · obtain earlier | ⟨rfl, rfl⟩ := began_after.mp second
      · exact kept.once other call again before earlier
      · exact absurd rfl ((calls again rfl).2 _ before)
    · obtain earlier | ⟨-, same⟩ := began_after.mp second
      · exact absurd rfl ((calls call rfl).2 _ earlier)
      · exact (Action.started.injEq _ _).mp same
  alike := by
    intro other quiet
    have noKeyFile := fun before => quiet.1 (wroteKeyFile_after.mpr before)
    have noCommit := fun before => quiet.2 (hasCommitted_after.mpr before)
    obtain ⟨sameKeyFiles, sameHeads⟩ := kept.alike other
      ⟨fun before => noKeyFile (.inl before), fun before => noCommit (.inl before)⟩
    rw [State.without_after]
    show _ = LifecycleStore.keyFiles (state.sharedAfter action) ∧
      _ = LifecycleStore.heads (state.sharedAfter action)
    split_ifs with own
    · obtain ⟨keptKeyFiles, keptHeads⟩ := calm_applied coherent
        (Bool.eq_false_iff.mpr fun writes => noKeyFile (.inr ⟨own, writes⟩))
        (Bool.eq_false_iff.mpr fun done => noCommit (.inr ⟨own, done⟩))
      exact ⟨sameKeyFiles.trans keptKeyFiles.symm, sameHeads.trans keptHeads.symm⟩
    · rw [State.sharedAfter_eq]
      exact applied_congr action sameKeyFiles sameHeads
  committed := by
    intro other call began done
    obtain before | ⟨rfl, committing⟩ := hasCommitted_after.mp done
    · obtain earlier | ⟨rfl, rfl⟩ := began_after.mp began
      · exact (kept.committed other call earlier before).after keeps
      · obtain ⟨entry, member, mine, -⟩ := before
        exact absurd mine ((calls call rfl).2 entry member)
    · obtain earlier | ⟨-, rfl⟩ := began_after.mp began
      · exact found committing call earlier
      · exact nomatch committing

theorem Kept.calm (kept : Kept issuer state) (coherent : Coherent state action)
    (noKeyFile : writesKeyFile action = false) (noCommit : commits action = false)
    (noCall : ∀ call, action ≠ .started call) (sound : Sound (state.after worker action))
    (receipts : ∀ runAuthorityId hash envelope,
      (state.after worker action).shared.receipts runAuthorityId hash = some envelope →
        ∃ authorization, issuer.issues authorization ∧
          authorization.receiptHash digests = hash ∧
          authorization.envelope digests = envelope) :
    KeepsKeyFiles state.shared (state.after worker action).shared ∧
      Kept issuer (state.after worker action) ∧ Stays worker state (state.after worker action) := by
  have keeps : KeepsKeyFiles state.shared (state.after worker action).shared := by
    intro runAuthorityId key envelope found
    exact (congrFun (congrFun (calm_applied coherent noKeyFile noCommit).1 _) _).trans found
  refine ⟨keeps, kept.step coherent keeps sound receipts
    (fun call same => absurd same (noCall call))
    fun done => ?_, stays_after keeps fun _ => ⟨noKeyFile, noCommit, noCall⟩⟩
  rw [noCommit] at done
  exact absurd done Bool.false_ne_true

theorem coherent_transact (state : State (lifecycle digests))
    (transaction : StoreTransaction Hash) :
    Coherent state (.transacted transaction (state.outcome transaction)) := by
  intro other outcome same
  obtain ⟨rfl, rest⟩ := (Action.transacted.injEq _ _ _ _).mp same
  exact (eq_of_heq rest).symm

/-! ### What programs lead to -/

/-- From where the first assertion holds the program takes careful steps only; it ends where the
second one holds of its value, or fails and has done nothing. -/
def Leads (issuer : Issuer digests) (pre : ℕ → State (lifecycle digests) → Prop)
    (program : StoreProgram digests Value)
    (post : Value → ℕ → State (lifecycle digests) → Prop) : Prop :=
  ∀ worker state, pre worker state → (carefulness issuer).Safe worker (fun outcome after =>
    match outcome with
    | .ok value => post value worker after
    | .error _ => Quiet after worker) program state

/-- The assertion is about what stays. -/
def Lasting (pre : ℕ → State (lifecycle digests) → Prop) : Prop :=
  ∀ worker state now, Stays worker state now → pre worker state → pre worker now

section

variable {pre middle : ℕ → State (lifecycle digests) → Prop}
  {post : Value → ℕ → State (lifecycle digests) → Prop} {program : StoreProgram digests Value}

theorem Leads.bind {next : Value → StoreProgram digests Next}
    {final : Next → ℕ → State (lifecycle digests) → Prop} (first : Leads issuer pre program post)
    (rest : ∀ value, Leads issuer (post value) (next value) final) :
    Leads issuer pre (program >>= next) final := by
  intro worker state holds
  refine Rules.safe_bind.mpr ((first worker state holds).mono fun outcome after ended => ?_)
  cases outcome with
  | ok value => exact rest value worker after ended
  | error fault => exact ended

theorem Leads.weaken (implies : ∀ worker state, middle worker state → pre worker state)
    (leads : Leads issuer pre program post) : Leads issuer middle program post :=
  fun worker state holds => leads worker state (implies worker state holds)

theorem Leads.pure {value : Value} (implies : ∀ worker state, pre worker state →
    post value worker state) : Leads issuer pre (Pure.pure value) post :=
  fun worker state holds => implies worker state holds

theorem Leads.refuse {condition : Prop} [Decidable condition] {fault : LifecycleFault}
    {final : Unit → ℕ → State (lifecycle digests) → Prop}
    (quiet : ∀ worker state, pre worker state → condition → Quiet state worker)
    (passes : ∀ worker state, pre worker state → ¬ condition → final () worker state) :
    Leads issuer pre (Program.refuse condition fault) final := fun worker state holds =>
  Rules.safe_refuse.mpr ⟨quiet worker state holds, passes worker state holds⟩

theorem Leads.transact {transaction : StoreTransaction Hash}
    {final : transaction.Value → ℕ → State (lifecycle digests) → Prop} (lasting : Lasting pre)
    (harmless : Harmless digests transaction)
    (noKeyFile : ∀ runAuthorityId key envelope,
      transaction ≠ .replaceKeyFile runAuthorityId key envelope)
    (noFault : ∀ now : State (lifecycle digests), ∃ value, now.outcome transaction = .ok value)
    (receipts : ∀ worker now, pre worker now → Kept issuer now → ∀ runAuthorityId hash envelope,
      (now.after worker (.transacted transaction (now.outcome transaction))).shared.receipts
        runAuthorityId hash = some envelope →
        ∃ authorization, issuer.issues authorization ∧
          authorization.receiptHash digests = hash ∧ authorization.envelope digests = envelope)
    (value : ∀ worker now value, pre worker now → Kept issuer now →
      now.outcome transaction = .ok value →
      pre worker (now.after worker (.transacted transaction (now.outcome transaction))) →
      final value worker (now.after worker (.transacted transaction (now.outcome transaction)))) :
    Leads issuer pre (Lifecycle.transact digests transaction) final := by
  intro worker state holds
  refine Rules.safe_run.mpr fun now interferes kept _ => ?_
  have holdsNow := lasting worker state now (stays_interferes interferes) holds
  obtain ⟨reply, came⟩ := noFault now
  have plain : writesKeyFile (.transacted transaction (now.outcome transaction)) = false ∧
      commits (.transacted transaction (now.outcome transaction)) = false := by
    cases transaction with
    | commitHead authorization => exact harmless.elim
    | replaceKeyFile => exact absurd rfl (noKeyFile _ _ _)
    | _ => exact ⟨rfl, rfl⟩
  obtain ⟨keeps, after, stays⟩ := kept.calm (coherent_transact now transaction) plain.1 plain.2
    (fun _ same => nomatch same) (kept.sound.harmless worker harmless)
    (receipts worker now holdsNow kept)
  refine ⟨keeps, after, ?_⟩
  have ends := value worker now reply holdsNow kept came (lasting _ _ _ stays holdsNow)
  dsimp only
  rw [came] at ends ⊢
  exact ends

/-- What a process does outside fails only where it has done nothing. -/
theorem Leads.outside (lasting : Lasting pre) (request : Outside) :
    Leads issuer pre (Lifecycle.outside digests request) fun _ => pre := by
  intro worker state holds
  refine Rules.safe_request.mpr fun now interferes kept _ => ?_
  have calm : ∀ (now : State (lifecycle digests)) (action : Action (lifecycle digests)),
      Kept issuer now → action = .asked request ∨ (∃ outcome, action = .answered request outcome) →
      KeepsKeyFiles now.shared (now.after worker action).shared ∧
        Kept issuer (now.after worker action) ∧ Stays worker now (now.after worker action) := by
    rintro now _ kept (rfl | ⟨outcome, rfl⟩)
    · exact kept.calm (fun _ _ same => nomatch same) rfl rfl (fun _ same => nomatch same)
        (kept.sound.of_quiet worker (fun _ _ _ found => found) kept.sound.named rfl rfl)
        kept.receipts
    · exact kept.calm (fun _ _ same => nomatch same) rfl rfl (fun _ same => nomatch same)
        (kept.sound.of_quiet worker (fun _ _ _ found => found) kept.sound.named rfl rfl)
        kept.receipts
  obtain ⟨keeps, asked, stays⟩ := calm now _ kept (.inl rfl)
  refine ⟨keeps, asked, fun outcome later between keptLater assumed => ?_⟩
  obtain ⟨keepsLater, answered, staysLater⟩ := calm later _ keptLater (.inr ⟨outcome, rfl⟩)
  refine ⟨keepsLater, answered, ?_⟩
  cases outcome with
  | ok done =>
    exact lasting _ _ _ ((((stays_interferes interferes).trans stays).trans
      (stays_interferes between)).trans staysLater) holds
  | error fault => exact staysLater.quiet.mpr assumed.1

end

/-! ### The stages of a call -/

/-- The call has done nothing that others find by its key or its run. -/
structure Beginning (call : PersistCall Hash) (worker : ℕ) (state : State (lifecycle digests)) :
    Prop where
  began : Began state worker call
  quiet : Quiet state worker

structure Publishing (call : PersistCall Hash) (worker : ℕ) (state : State (lifecycle digests)) :
    Prop extends Beginning call worker state where
  receipt : state.shared.receipts call.authorization.runAuthorityId
    (call.authorization.receiptHash digests) = some (call.authorization.envelope digests)

structure Committing (call : PersistCall Hash) (worker : ℕ) (state : State (lifecycle digests)) :
    Prop where
  began : Began state worker call
  uncommitted : ¬ HasCommitted state worker
  receipt : state.shared.receipts call.authorization.runAuthorityId
    (call.authorization.receiptHash digests) = some (call.authorization.envelope digests)
  keyFile : ∀ key ∈ call.transitionKey.fileName,
    state.shared.keyFiles call.authorization.runAuthorityId key =
      some (call.authorization.envelope digests)

theorem lasting_beginning : Lasting (@Beginning _ _ digests call) :=
  fun _ _ _ stays holds => ⟨(stays.began call).mpr holds.began, stays.quiet.mpr holds.quiet⟩

theorem lasting_publishing : Lasting (@Publishing _ _ digests call) :=
  fun _ _ _ stays holds => ⟨lasting_beginning _ _ _ stays holds.toBeginning,
    stays.receipts _ _ _ holds.receipt⟩

theorem lasting_committing : Lasting (@Committing _ _ digests call) :=
  fun _ _ _ stays holds => ⟨(stays.began call).mpr holds.began,
    fun done => holds.uncommitted (stays.committed.mp done), stays.receipts _ _ _ holds.receipt,
    fun key named => stays.keyFiles _ _ _ (holds.keyFile key named)⟩

variable {pre : ℕ → State (lifecycle digests) → Prop}

theorem leads_readReceipt (lasting : Lasting pre) (runAuthorityId hash : Hash) :
    Leads issuer pre (transact digests (.readReceipt runAuthorityId hash))
      fun found worker state => pre worker state ∧
        state.shared.receipts runAuthorityId hash = found := by
  refine .transact lasting trivial (fun _ _ _ same => nomatch same) (fun now => ⟨_, rfl⟩)
    (fun _ _ _ kept => kept.receipts) fun worker now found _ _ came after => ⟨after, ?_⟩
  exact Except.ok.inj came

theorem leads_readKeyFile (lasting : Lasting pre) (runAuthorityId : Hash) (key : String) :
    Leads issuer pre (transact digests (.readKeyFile runAuthorityId key))
      fun found worker state => pre worker state ∧
        state.shared.keyFiles runAuthorityId key = found := by
  refine .transact lasting trivial (fun _ _ _ same => nomatch same) (fun now => ⟨_, rfl⟩)
    (fun _ _ _ kept => kept.receipts) fun worker now found _ _ came after => ⟨after, ?_⟩
  exact Except.ok.inj came

variable {store : LifecycleStore Hash}

theorem linkReceipt_receipts {runAuthorityId hash other name : Hash} {envelope held : Envelope Hash}
    (found : (store.linkReceipt runAuthorityId hash envelope).1.receipts other name = some held) :
    store.receipts other name = some held ∨
      other = runAuthorityId ∧ name = hash ∧ held = envelope := by
  unfold LifecycleStore.linkReceipt at found
  split at found
  · exact .inl found
  · replace found : Function.update store.receipts runAuthorityId
        (Function.update (store.receipts runAuthorityId) hash (some envelope)) other name =
      some held := found
    by_cases here : other = runAuthorityId
    · subst here
      rw [Function.update_self] at found
      by_cases same : name = hash
      · subst same
        rw [Function.update_self] at found
        exact .inr ⟨rfl, rfl, (Option.some.inj found).symm⟩
      · rw [Function.update_of_ne same] at found
        exact .inl found
    · rw [Function.update_of_ne here] at found
      exact .inl found

theorem linkReceipt_linked {runAuthorityId hash : Hash} {envelope : Envelope Hash}
    (linked : (store.linkReceipt runAuthorityId hash envelope).2 = true) :
    (store.linkReceipt runAuthorityId hash envelope).1.receipts runAuthorityId hash =
      some envelope := by
  unfold LifecycleStore.linkReceipt at linked ⊢
  split at linked
  · exact absurd linked Bool.false_ne_true
  · exact (congrFun (Function.update_self _ _ _) _).trans (Function.update_self _ _ _)

theorem leads_linkReceipt : Leads issuer (Beginning call)
    (transact digests (.linkReceipt call.authorization.runAuthorityId
      (call.authorization.receiptHash digests) (call.authorization.envelope digests)))
    fun linked worker state => Beginning call worker state ∧ (linked = true →
      state.shared.receipts call.authorization.runAuthorityId
        (call.authorization.receiptHash digests) =
          some (call.authorization.envelope digests)) := by
  refine .transact lasting_beginning ⟨rfl, rfl⟩ (fun _ _ _ same => nomatch same)
    (fun now => ⟨_, rfl⟩) ?_ ?_
  · intro worker now holds kept runAuthorityId hash envelope found
    obtain before | ⟨-, rfl, rfl⟩ := linkReceipt_receipts found
    · exact kept.receipts _ _ _ before
    · exact ⟨call.authorization, (kept.calls worker call holds.began).1, rfl, rfl⟩
  · intro worker now linked _ _ came after
    refine ⟨after, fun done => linkReceipt_linked ?_⟩
    exact (Except.ok.inj came).trans done

variable {key : String}

theorem keepsKeyFiles_replace {runAuthorityId : Hash} {envelope : Envelope Hash}
    (same : ∀ found ∈ store.keyFiles runAuthorityId key, found = envelope) :
    KeepsKeyFiles store (store.replaceKeyFile runAuthorityId key envelope) := by
  intro other name held found
  show Function.update store.keyFiles runAuthorityId _ other name = _
  by_cases here : other = runAuthorityId
  · subst here
    rw [Function.update_self]
    by_cases this : name = key
    · subst this
      rw [Function.update_self, same held found]
    · rw [Function.update_of_ne this]
      exact found
  · rw [Function.update_of_ne here]
    exact found

theorem leads_replaceKeyFile (named : call.transitionKey.fileName = some key) :
    Leads issuer (Publishing call)
      (transact digests (.replaceKeyFile call.authorization.runAuthorityId key
        (call.authorization.envelope digests))) fun _ => Committing call := by
  intro worker state holds
  refine Rules.safe_run.mpr fun now interferes kept assumed => ?_
  have holdsNow := lasting_publishing _ _ _ (stays_interferes interferes) holds
  have keeps := keepsKeyFiles_replace assumed.1
  refine ⟨keeps, kept.step (coherent_transact now _) keeps
    (kept.sound.harmless worker trivial) kept.receipts (fun _ same => nomatch same)
    (fun done => nomatch done), ?_⟩
  refine ⟨began_after.mpr (.inl holdsNow.began), fun done => ?_, holdsNow.receipt,
    fun other own => ?_⟩
  · obtain before | ⟨-, done⟩ := hasCommitted_after.mp done
    · exact holdsNow.quiet.2 before
    · exact nomatch done
  · obtain rfl := Option.some.inj (named.symm.trans own)
    exact (congrFun (Function.update_self _ _ _) _).trans (Function.update_self _ _ _)

theorem leads_publishReceipt : Leads issuer (Beginning call)
    (publishReceipt digests call.authorization) fun _ => Publishing call := by
  refine .bind (leads_readReceipt lasting_beginning _ _) fun existing => ?_
  cases existing with
  | some found =>
    refine .refuse (fun _ _ holds _ => holds.1.quiet) fun _ _ holds same => ⟨holds.1, ?_⟩
    rw [holds.2, not_not.mp same]
  | none =>
    refine .weaken (fun _ _ holds => holds.1) (.bind (.outside lasting_beginning _) fun _ =>
      .bind leads_linkReceipt fun linked => ?_)
    split
    · next published =>
      exact .pure fun _ _ holds => ⟨holds.1, holds.2 published⟩
    · refine .weaken (fun _ _ holds => holds.1)
        (.bind (leads_readReceipt lasting_beginning _ _) fun found => .refuse
          (fun _ _ holds _ => holds.1.quiet) fun _ _ holds same => ⟨holds.1, ?_⟩)
      rw [holds.2, not_not.mp same]

theorem leads_writeKeyFile (named : call.transitionKey.fileName = some key) :
    Leads issuer (Publishing call) (writeKeyFile digests call.authorization key)
      fun _ => Committing call := by
  refine .bind (.transact lasting_publishing trivial (fun _ _ _ same => nomatch same)
    (fun now => ⟨_, rfl⟩) (fun _ _ _ kept => kept.receipts)
    fun worker now found _ _ _ after => after) fun known => ?_
  split
  · refine .bind (leads_readKeyFile lasting_publishing _ _) fun found => .refuse
      (fun _ _ holds _ => holds.1.quiet) fun _ _ holds same => ?_
    refine ⟨holds.1.began, holds.1.quiet.2, holds.1.receipt, fun other own => ?_⟩
    obtain rfl := Option.some.inj (named.symm.trans own)
    rw [holds.2, not_not.mp same]
  · exact .bind (.outside lasting_publishing _) fun _ => leads_replaceKeyFile named

variable {authorization : Authorization Hash}

theorem commitHead_retried {row : Option (HeadRow Hash)} {current : DurableRunHead Hash}
    (retried : authorization.commitHead digests row = .ok (.retried current)) :
    ∃ held, row = some held ∧ held.validate digests authorization.runAuthorityId = .ok current ∧
      current.headReceiptHash = authorization.receiptHash digests := by
  cases row with
  | none =>
    simp only [Authorization.commitHead, refuse_bind_eq_ok, pure_eq_ok] at retried
    cases retried.2.2
  | some held =>
    rw [Authorization.commitHead, bind_eq_ok] at retried
    obtain ⟨found, valid, retried⟩ := retried
    split at retried
    · next same =>
      obtain rfl := (HeadCommit.retried.injEq _ _).mp (Except.ok.inj retried)
      exact ⟨held, rfl, valid, same⟩
    · simp only [refuse_bind_eq_ok, pure_eq_ok] at retried
      cases retried.2.2.2

theorem committed_of_commits (sound : Sound state)
    (done : @commits _ _ digests
      (.transacted (.commitHead authorization) (state.outcome (.commitHead authorization))) =
      true) :
    ∃ head ∈ committedHeads (state.after worker (.transacted (.commitHead authorization)
        (state.outcome (.commitHead authorization)))) authorization.runAuthorityId,
      head.headReceiptHash = authorization.receiptHash digests := by
  have outcome := @outcome_commitHead _ digests _ state authorization
  rw [committedHeads_after]
  cases result : authorization.commitHead digests
      (state.shared.heads authorization.runAuthorityId) with
  | error fault =>
    rw [outcome, result] at done
    exact nomatch done
  | ok committed =>
    rw [outcome, result]
    cases committed with
    | retried current =>
      obtain ⟨held, present, valid, same⟩ := commitHead_retried result
      rw [sound.row, Option.map_eq_some_iff] at present
      obtain ⟨last, isLast, rfl⟩ := present
      obtain rfl : current = last := row_of_validate valid
      exact ⟨current, List.mem_append_left _ (List.mem_of_getLast? isLast), same⟩
    | advanced head =>
      have named : head.runAuthorityId = authorization.runAuthorityId ∧
          head.headReceiptHash = authorization.receiptHash digests := by
        obtain ⟨-, -, -, -, rfl⟩ | ⟨_, _, -, -, -, -, rfl⟩ := commitHead_advanced result
        · exact ⟨rfl, rfl⟩
        · exact ⟨rfl, rfl⟩
      refine ⟨head, List.mem_append_right _ (List.mem_filter.mpr ⟨?_, ?_⟩), named.2⟩
      · exact List.mem_cons_self
      · exact decide_eq_true named.1

theorem leads_commitHead : Leads issuer (Committing call)
    (transact digests (.commitHead call.authorization)) fun _ _ _ => True := by
  intro worker state holds
  refine Rules.safe_run.mpr fun now interferes kept assumed => ?_
  have holdsNow := lasting_committing _ _ _ (stays_interferes interferes) holds
  have issued := (kept.calls worker call holdsNow.began).1
  obtain ⟨envelope, same, checked⟩ := checked_of_checkPublished (issuer.consistent _ issued)
  obtain rfl := Option.some.inj same
  have sound := kept.sound.commit holdsNow.receipt checked worker
  have keyFiles : LifecycleStore.keyFiles (now.after worker (.transacted (.commitHead
      call.authorization) (now.outcome (.commitHead call.authorization)))).shared =
      now.shared.keyFiles := by
    show LifecycleStore.keyFiles (now.sharedAfter _) = _
    rw [shared_commitHead]
    split
    · next committed _ => cases committed <;> rfl
    · rfl
  have receipts : LifecycleStore.receipts (now.after worker (.transacted (.commitHead
      call.authorization) (now.outcome (.commitHead call.authorization)))).shared =
      now.shared.receipts := by
    show LifecycleStore.receipts (now.sharedAfter _) = _
    rw [shared_commitHead]
    split
    · next committed _ => cases committed <;> rfl
    · rfl
  have keeps : KeepsKeyFiles now.shared (now.after worker (.transacted (.commitHead
      call.authorization) (now.outcome (.commitHead call.authorization)))).shared :=
    fun _ _ _ found => (congrFun (congrFun keyFiles _) _).trans found
  refine ⟨keeps, kept.step (coherent_transact now _) keeps sound ?_ (fun _ same => nomatch same) ?_,
    ?_⟩
  · intro runAuthorityId hash envelope found
    rw [receipts] at found
    exact kept.receipts _ _ _ found
  · intro done other began
    obtain rfl := kept.once worker call other holdsNow.began began
    exact ⟨fun key named => keeps _ _ _ (holdsNow.keyFile key named),
      committed_of_commits kept.sound done⟩
  · have careful := assumed.1
    dsimp only at careful ⊢
    cases came : now.outcome (.commitHead call.authorization) with
    | ok committed => trivial
    | error fault =>
      rw [came] at careful
      refine ⟨fun wrote => ?_, fun done => ?_⟩
      · obtain before | ⟨-, writes⟩ := wroteKeyFile_after.mp wrote
        · exact careful before
        · exact nomatch writes
      · obtain before | ⟨-, commit⟩ := hasCommitted_after.mp done
        · exact holdsNow.uncommitted before
        · exact nomatch commit

end QuantAgent.Lifecycle
