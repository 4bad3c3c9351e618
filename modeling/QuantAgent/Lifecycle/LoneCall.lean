/-
This file treats a call of `persist_authorization` that no other process interferes with and that
meets no fault outside. What it comes to depends on the receipt file, the file of its key and the
row of its run alone.
-/

import QuantAgent.Lifecycle.Store

namespace QuantAgent.Lifecycle

open Concurrent Program StoreTransaction

variable {Hash : Type} [DecidableEq Hash] {digests : Digests Hash}

/-! ### What an issued authorization is -/

/-- What `H40LifecycleAuthorityService` issues: authorizations that agree with their receipts, and
one context and one evidence for a receipt. -/
structure Issuer (digests : Digests Hash) where
  issues : Authorization Hash → Prop
  consistent : ∀ authorization, issues authorization →
    authorization.checkPublished digests (some (authorization.envelope digests)) = .ok ()
  oneEnvelope : ∀ one other, issues one → issues other →
    one.receiptHash digests = other.receiptHash digests →
      one.envelope digests = other.envelope digests

/-! ### Calls on their own -/

/-- The call succeeds when no other process acts and nothing outside fails. -/
def Succeeds (digests : Digests Hash) (store : LifecycleStore Hash) (call : PersistCall Hash) :
    Prop :=
  ((persistAuthorization digests call).alone (fun _ => .ok ()) store).2.isOk = true

/-- What a call finds decides whether it succeeds. -/
structure Accepts (digests : Digests Hash) (store : LifecycleStore Hash)
    (call : PersistCall Hash) : Prop where
  receipt : ∀ found ∈ store.receipts call.authorization.runAuthorityId
    (call.authorization.receiptHash digests), found = call.authorization.envelope digests
  keyFile : ∀ key ∈ call.transitionKey.fileName,
    ∀ found ∈ store.keyFiles call.authorization.runAuthorityId key,
      found = call.authorization.envelope digests
  head : (call.authorization.commitHead digests
    (store.heads call.authorization.runAuthorityId)).isOk = true

section

variable {store : LifecycleStore Hash} {authorization : Authorization Hash}

theorem alone_transact (transaction : StoreTransaction Hash) :
    (transact digests transaction).alone (fun _ => .ok ()) store =
      match transaction.perform digests store with
      | .ok (after, value) => (after, .ok value)
      | .error fault => (store, .error fault) := by
  unfold transact Program.run alone
  dsimp only
  cases transaction.perform digests store with
  | ok reply => rfl
  | error fault => rfl

theorem alone_outside (request : Outside) :
    (outside digests request).alone (fun _ => .ok ()) store = (store, .ok ()) := rfl

theorem alone_publishReceipt
    (free : ∀ found ∈ store.receipts authorization.runAuthorityId
      (authorization.receiptHash digests), found = authorization.envelope digests) :
    ∃ after : LifecycleStore Hash,
      (publishReceipt digests authorization).alone (fun _ => .ok ()) store = (after, .ok ()) ∧
      after.receipts authorization.runAuthorityId (authorization.receiptHash digests) =
        some (authorization.envelope digests) ∧
      after.keyFiles = store.keyFiles ∧ after.heads = store.heads := by
  unfold publishReceipt
  rw [alone_bind, alone_transact]
  cases existing : store.receipts authorization.runAuthorityId
      (authorization.receiptHash digests) with
  | some found =>
    obtain rfl := free found existing
    refine ⟨store, ?_, existing, rfl, rfl⟩
    simp only [perform, existing, alone_refuse]
    rw [if_neg (not_not_intro rfl)]
  | none =>
    refine ⟨(store.linkReceipt authorization.runAuthorityId (authorization.receiptHash digests)
      (authorization.envelope digests)).1, ?_, ?_, ?_, ?_⟩
    · simp only [perform, existing]
      rw [alone_bind, alone_outside]
      dsimp only
      rw [alone_bind, alone_transact]
      simp only [perform, LifecycleStore.linkReceipt, existing]
      rfl
    all_goals
      unfold LifecycleStore.linkReceipt
      rw [existing]
    · exact (congrFun (Function.update_self _ _ _) _).trans (Function.update_self _ _ _)

theorem alone_publishReceipt_taken {found : Envelope Hash}
    (existing : store.receipts authorization.runAuthorityId (authorization.receiptHash digests) =
      some found) (other : found ≠ authorization.envelope digests) :
    (publishReceipt digests authorization).alone (fun _ => .ok ()) store =
      (store, .error .differentReceipt) := by
  unfold publishReceipt
  rw [alone_bind, alone_transact]
  simp only [perform, existing, alone_refuse]
  rw [if_pos other]

theorem alone_writeKeyFile {key : String}
    (free : ∀ found ∈ store.keyFiles authorization.runAuthorityId key,
      found = authorization.envelope digests) :
    ∃ after : LifecycleStore Hash,
      (writeKeyFile digests authorization key).alone (fun _ => .ok ()) store = (after, .ok ()) ∧
      after.receipts = store.receipts ∧ after.heads = store.heads := by
  unfold writeKeyFile
  rw [alone_bind, alone_transact]
  cases existing : store.keyFiles authorization.runAuthorityId key with
  | some found =>
    obtain rfl := free found existing
    refine ⟨store, ?_, rfl, rfl⟩
    simp only [perform, existing, Option.isSome_some, if_true]
    rw [alone_bind, alone_transact]
    simp only [perform, existing, alone_refuse]
    rw [if_neg (not_not_intro rfl)]
  | none =>
    refine ⟨store.replaceKeyFile authorization.runAuthorityId key (authorization.envelope digests),
      ?_, rfl, rfl⟩
    simp only [perform, existing, Option.isSome_none, Bool.false_eq_true, if_false]
    rw [alone_bind, alone_outside]
    exact alone_transact _

theorem alone_writeKeyFile_taken {key : String} {found : Envelope Hash}
    (existing : store.keyFiles authorization.runAuthorityId key = some found)
    (other : found ≠ authorization.envelope digests) :
    (writeKeyFile digests authorization key).alone (fun _ => .ok ()) store =
      (store, .error .differentKeyFile) := by
  unfold writeKeyFile
  rw [alone_bind, alone_transact]
  simp only [perform, existing, Option.isSome_some, if_true]
  rw [alone_bind, alone_transact]
  simp only [perform, existing, alone_refuse]
  rw [if_pos (fun same => other (Option.some.inj same))]

theorem alone_commitRunHead
    (consistent : authorization.checkPublished digests (some (authorization.envelope digests)) =
      .ok ())
    (published : store.receipts authorization.runAuthorityId (authorization.receiptHash digests) =
      some (authorization.envelope digests)) :
    ((commitRunHead digests authorization).alone (fun _ => .ok ()) store).2.isOk =
      (authorization.commitHead digests (store.heads authorization.runAuthorityId)).isOk := by
  unfold commitRunHead
  rw [alone_bind, alone_transact]
  simp only [perform, published, consistent]
  rw [alone_bind]
  simp only [alone]
  rw [alone_bind, alone_outside]
  dsimp only
  rw [alone_bind, alone_transact]
  simp only [perform]
  cases authorization.commitHead digests (store.heads authorization.runAuthorityId) with
  | error fault => rfl
  | ok committed =>
    cases committed with
    | retried current => rfl
    | advanced head => rfl

theorem isOk_alone_then {Value : Type} (program : StoreProgram digests Unit) (value : Value) :
    ((program >>= fun _ => pure value).alone (fun _ => .ok ()) store).2.isOk =
      (program.alone (fun _ => .ok ()) store).2.isOk := by
  rw [alone_bind]
  cases came : program.alone (fun _ => .ok ()) store with
  | mk after outcome => cases outcome <;> rfl

end

theorem succeeds_iff {store : LifecycleStore Hash} {call : PersistCall Hash}
    (issuer : Issuer digests) (issued : issuer.issues call.authorization) :
    Succeeds digests store call ↔ Accepts digests store call := by
  have consistent := issuer.consistent call.authorization issued
  unfold Succeeds persistAuthorization
  dsimp only
  rw [alone_bind, alone_outside]
  dsimp only
  rw [alone_bind]
  by_cases free : ∀ found ∈ store.receipts call.authorization.runAuthorityId
      (call.authorization.receiptHash digests), found = call.authorization.envelope digests
  · obtain ⟨after, published, receipt, keyFiles, heads⟩ := alone_publishReceipt free
    rw [published]
    dsimp only
    rw [alone_bind, alone_outside]
    dsimp only
    have committed : ∀ store : LifecycleStore Hash, store.receipts = after.receipts →
        store.heads = after.heads → ((commitRunHead digests call.authorization).alone
          (fun _ => .ok ()) store).2.isOk = (call.authorization.commitHead digests
            (after.heads call.authorization.runAuthorityId)).isOk := by
      intro store sameReceipts sameHeads
      rw [alone_commitRunHead consistent (sameReceipts ▸ receipt), sameHeads]
    cases named : call.transitionKey.fileName with
    | none =>
      dsimp only
      rw [isOk_alone_then, committed after rfl rfl, heads]
      exact ⟨fun done => ⟨free, by simp [named], done⟩, Accepts.head⟩
    | some key =>
      dsimp only
      rw [alone_bind]
      by_cases open_ : ∀ found ∈ after.keyFiles call.authorization.runAuthorityId key,
          found = call.authorization.envelope digests
      · obtain ⟨later, written, sameReceipts, sameHeads⟩ := alone_writeKeyFile open_
        rw [written]
        dsimp only
        rw [isOk_alone_then, committed later sameReceipts sameHeads, heads]
        refine ⟨fun done => ⟨free, fun other own => ?_, done⟩, Accepts.head⟩
        obtain rfl := Option.some.inj (named.symm.trans own)
        exact keyFiles ▸ open_
      · have taken := open_
        push Not at taken
        obtain ⟨found, existing, other⟩ := taken
        rw [alone_writeKeyFile_taken existing other]
        exact iff_of_false Bool.false_ne_true fun accepts =>
          open_ (keyFiles ▸ accepts.keyFile key named)
  · have taken := free
    push Not at taken
    obtain ⟨found, existing, other⟩ := taken
    rw [alone_publishReceipt_taken existing other]
    exact iff_of_false Bool.false_ne_true fun accepts => free accepts.receipt

end QuantAgent.Lifecycle
