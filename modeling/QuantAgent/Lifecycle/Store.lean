/-
This file embeds the artifact store of H40 lifecycles: receipt files that are published once under
their digest, write-once files under the transition keys of callers, and one committed head for
each run, mirrored in a file.

A process publishes the receipt, writes the file of its key, commits the head in one transaction
and mirrors it; between any two of these steps other processes act, and it may stop. What it does
outside of the shared files and the database (the verification of the authorization, temporary
files, synchronisation, opening the database) may fail and changes nothing that others see.
-/

import QuantAgent.Library.Concurrent
import QuantAgent.Library.Refusal
import QuantAgent.Lifecycle.Receipts

namespace QuantAgent.Lifecycle

open Concurrent

variable {Hash : Type}

/-- `VerifiedLifecycleAuthorization`, with what its context puts into the envelope. -/
structure Authorization (Hash : Type) where
  receipt : Receipt Hash
  sourceState : LifecycleState
  targetState : LifecycleState
  runAuthorityId : Hash
  upstreamReceiptHash : Option Hash
  persistenceContext : PersistenceContext Hash
  boundEvidence : Option (ResultEvidence Hash)
  deriving DecidableEq

namespace Digests

variable (digests : Digests Hash)

def evidence : ResultEvidence Hash → Hash
  | .discovery evidence => digests.discoveryEvidence evidence
  | .wfValidation evidence => digests.wfEvidence evidence

end Digests

namespace Authorization

variable (digests : Digests Hash) (authorization : Authorization Hash)

def receiptHash : Hash := digests.receipt authorization.receipt

def envelope : Envelope Hash where
  authorityContext := authorization.persistenceContext
  boundEvidence := authorization.boundEvidence
  boundEvidenceSha256 := authorization.boundEvidence.map digests.evidence
  receipt := authorization.receipt
  receiptSha256 := authorization.receiptHash digests

end Authorization

/-! ### Refusals -/

inductive LifecycleFault where
  | invalidAuthority
  | outside (reason : String)
  | differentReceipt
  | differentKeyFile
  | sealedState
  | unpublished
  | envelopeDigest
  | contentDigest
  | foreignRun
  | unexpectedType
  | targetMismatch
  | notGenesis
  | upstreamMismatch
  | receiptMismatch
  | sourceMismatch
  | notAccepted
  | terminalRun
  | predecessorMismatch
  | headRun
  | headColumn
  | headTerminal
  | headDigest
  | cyclicLineage
  | headMismatch
  | brokenAdjacency
  | genesisUpstream
  | depthMismatch
  | outOfSteps
  | noHead
  | notFound
  | notInLineage
  deriving DecidableEq

/-! ### Keys -/

def isTransitionKey (key : String) : Bool :=
  match key.toList with
  | first :: second :: '_' :: name =>
    first.isDigit && second.isDigit && !name.isEmpty &&
      name.all fun letter => letter.isLower || letter.isDigit || letter = '_'
  | _ => false

inductive TransitionKey (Hash : Type) where
  | text (name : String)
  | digest (hash : Hash)
  deriving DecidableEq

def TransitionKey.fileName : TransitionKey Hash → Option String
  | text name => if isTransitionKey name then some name else none
  | digest _ => none

variable [DecidableEq Hash]

/-- `_validate_and_parse_head_row`. -/
def HeadRow.validate (digests : Digests Hash) (row : HeadRow Hash) (runAuthorityId : Hash) :
    Except LifecycleFault (DurableRunHead Hash) := do
  let head := row.headJson
  refuse (head.runAuthorityId ≠ runAuthorityId) .headRun
  refuse (head.headReceiptHash ≠ row.headReceiptHash) .headColumn
  refuse (head.headState ≠ row.headState) .headColumn
  refuse (head.headPredecessorReceiptHash ≠ row.headPredecessorReceiptHash) .headColumn
  refuse (head.transitionSequence ≠ row.transitionSequence) .headColumn
  refuse (head.terminal ≠ row.terminal) .headColumn
  refuse (head.terminal ≠ decide (head.headState ∈ LifecycleState.terminalStates)) .headTerminal
  refuse (row.headHash ≠ digests.head head) .headDigest
  pure head

/-! ### The shared files and the database -/

structure LifecycleStore (Hash : Type) where
  receipts : Hash → Hash → Option (Envelope Hash) := fun _ _ => none
  keyFiles : Hash → String → Option (Envelope Hash) := fun _ _ => none
  heads : Hash → Option (HeadRow Hash) := fun _ => none
  mirrors : Hash → Option (DurableRunHead Hash) := fun _ => none

namespace LifecycleStore

variable (digests : Digests Hash) (store : LifecycleStore Hash)

def getCommittedRunHead (runAuthorityId : Hash) :
    Except LifecycleFault (Option (DurableRunHead Hash)) :=
  match store.heads runAuthorityId with
  | none => .ok none
  | some row => (row.validate digests runAuthorityId).map some

/-- The hard link of a receipt, which fails when there is a file of that name. -/
def linkReceipt (runAuthorityId hash : Hash) (envelope : Envelope Hash) :
    LifecycleStore Hash × Bool :=
  match store.receipts runAuthorityId hash with
  | some _ => (store, false)
  | none => ({ store with
      receipts := Function.update store.receipts runAuthorityId
        (Function.update (store.receipts runAuthorityId) hash (some envelope)) }, true)

def replaceKeyFile (runAuthorityId : Hash) (key : String) (envelope : Envelope Hash) :
    LifecycleStore Hash :=
  { store with
    keyFiles := Function.update store.keyFiles runAuthorityId
      (Function.update (store.keyFiles runAuthorityId) key (some envelope)) }

/-- The loop of `_get_committed_lineage`, from the current receipt back to the first one. -/
def lineageFrom (runAuthorityId : Hash) (head : DurableRunHead Hash) :
    ℕ → Option Hash → List Hash → Option LifecycleState → Except LifecycleFault (List Hash)
  | _, none, lineage, sourceState => do
    refuse (sourceState ≠ some .p1Scaffolded) .notGenesis
    refuse (head.transitionSequence + 1 ≠ lineage.length) .depthMismatch
    pure lineage
  | 0, some _, _, _ => .error .outOfSteps
  | steps + 1, some hash, lineage, sourceState => do
    refuse (hash ∈ lineage) .cyclicLineage
    match store.receipts runAuthorityId hash with
    | none => .error .unpublished
    | some envelope =>
      refuse (envelope.receiptSha256 ≠ hash) .envelopeDigest
      refuse (digests.receipt envelope.receipt ≠ hash) .contentDigest
      refuse (envelope.receipt.runAuthorityId ≠ runAuthorityId) .foreignRun
      match envelope.receipt.transition with
      | none => .error .unexpectedType
      | some (nodeSource, nodeTarget) =>
        refuse ((nodeSource, nodeTarget) ∉ LifecycleState.acceptedTransitions) .notAccepted
        match sourceState with
        | none =>
          refuse (nodeTarget ≠ head.headState) .headMismatch
          refuse (envelope.receipt.upstreamReceiptHash ≠ head.headPredecessorReceiptHash)
            .headMismatch
        | some successor => refuse (nodeTarget ≠ successor) .brokenAdjacency
        refuse (envelope.receipt.isDiscovery = true ↔
          envelope.receipt.upstreamReceiptHash ≠ none) .genesisUpstream
        lineageFrom runAuthorityId head steps envelope.receipt.upstreamReceiptHash
          (lineage ++ [hash]) (some nodeSource)

/-- `_get_committed_lineage`, in at most so many steps. -/
def getCommittedLineage (runAuthorityId : Hash) (head : DurableRunHead Hash) (steps : ℕ) :
    Except LifecycleFault (List Hash) :=
  store.lineageFrom digests runAuthorityId head steps (some head.headReceiptHash) [] none

/-- `_find_receipt_path`. A digest without a receipt file is not looked for in the key files, since
no receipt of a lineage is without one. -/
def findReceipt (runAuthorityId : Hash) : TransitionKey Hash → Option (Envelope Hash)
  | .digest hash => store.receipts runAuthorityId hash
  | .text name => if isTransitionKey name then store.keyFiles runAuthorityId name else none

/-- What `restore_authorization` establishes before it issues the authorization again. -/
def restoreTarget (runAuthorityId : Hash) (key : TransitionKey Hash) (steps : ℕ) :
    Except LifecycleFault (Envelope Hash) := do
  match ← store.getCommittedRunHead digests runAuthorityId with
  | none => .error .noHead
  | some head =>
    let lineage ← store.getCommittedLineage digests runAuthorityId head steps
    match store.findReceipt runAuthorityId key with
    | none => .error .notFound
    | some envelope =>
      refuse (digests.receipt envelope.receipt ≠ envelope.receiptSha256 ∨
        envelope.receiptSha256 ∉ lineage) .notInLineage
      pure envelope

end LifecycleStore

/-! ### Committing a head -/

/-- What the head transaction comes to. -/
inductive HeadCommit (Hash : Type) where
  | advanced (head : DurableRunHead Hash)
  | retried (head : DurableRunHead Hash)

def LifecycleStore.withCommitted (digests : Digests Hash) (store : LifecycleStore Hash)
    (runAuthorityId : Hash) : HeadCommit Hash → LifecycleStore Hash
  | .advanced head => { store with
      heads := Function.update store.heads runAuthorityId (some (head.row digests)) }
  | .retried _ => store

namespace Authorization

variable (digests : Digests Hash) (authorization : Authorization Hash)

/-- What `_commit_run_head` checks of the published receipt before it opens the database. -/
def checkPublished (published : Option (Envelope Hash)) : Except LifecycleFault Unit := do
  refuse (authorization.targetState = .confirmationEvaluatedOnce) .sealedState
  match published with
  | none => .error .unpublished
  | some envelope =>
    refuse (envelope.receiptSha256 ≠ authorization.receiptHash digests) .envelopeDigest
    refuse (digests.receipt envelope.receipt ≠ authorization.receiptHash digests) .contentDigest
    refuse (envelope.receipt.runAuthorityId ≠ authorization.runAuthorityId) .foreignRun
    match envelope.receipt.transition with
    | none => .error .unexpectedType
    | some (receiptSource, receiptTarget) =>
      refuse (receiptTarget ≠ authorization.targetState) .targetMismatch
      refuse (authorization.upstreamReceiptHash = none ∧ authorization.targetState ≠ .discovery)
        .notGenesis
      refuse (envelope.receipt.upstreamReceiptHash ≠ authorization.upstreamReceiptHash)
        .upstreamMismatch
      refuse (authorization.receipt ≠ envelope.receipt) .receiptMismatch
      refuse (authorization.sourceState ≠ receiptSource) .sourceMismatch
      refuse ((authorization.sourceState, authorization.targetState) ∉
        LifecycleState.acceptedTransitions) .notAccepted

def head (transitionSequence : ℕ) : DurableRunHead Hash where
  headPredecessorReceiptHash := authorization.upstreamReceiptHash
  headReceiptHash := authorization.receiptHash digests
  headState := authorization.targetState
  runAuthorityId := authorization.runAuthorityId
  terminal := authorization.targetState ∈ LifecycleState.terminalStates
  transitionSequence := transitionSequence

/-- The transaction of `_commit_run_head` on the row of the run. -/
def commitHead : Option (HeadRow Hash) → Except LifecycleFault (HeadCommit Hash)
  | none => do
    refuse (authorization.upstreamReceiptHash ≠ none) .notGenesis
    refuse (authorization.targetState ≠ .discovery ∨ authorization.sourceState ≠ .p1Scaffolded)
      .notGenesis
    pure (.advanced (authorization.head digests 0))
  | some row => do
    let current ← row.validate digests authorization.runAuthorityId
    if current.headReceiptHash = authorization.receiptHash digests then
      pure (.retried current)
    else
      refuse (current.terminal = true) .terminalRun
      refuse (authorization.upstreamReceiptHash ≠ some current.headReceiptHash)
        .predecessorMismatch
      refuse (authorization.sourceState ≠ current.headState) .sourceMismatch
      pure (.advanced (authorization.head digests (current.transitionSequence + 1)))

end Authorization

/-! ### Transactions -/

inductive StoreTransaction (Hash : Type) where
  | readReceipt (runAuthorityId hash : Hash)
  | linkReceipt (runAuthorityId hash : Hash) (envelope : Envelope Hash)
  | keyFileExists (runAuthorityId : Hash) (key : String)
  | readKeyFile (runAuthorityId : Hash) (key : String)
  | replaceKeyFile (runAuthorityId : Hash) (key : String) (envelope : Envelope Hash)
  | commitHead (authorization : Authorization Hash)
  | replaceMirror (head : DurableRunHead Hash)

namespace StoreTransaction

abbrev Value : StoreTransaction Hash → Type
  | readReceipt _ _ => Option (Envelope Hash)
  | linkReceipt _ _ _ => Bool
  | keyFileExists _ _ => Bool
  | readKeyFile _ _ => Option (Envelope Hash)
  | replaceKeyFile _ _ _ => Unit
  | commitHead _ => HeadCommit Hash
  | replaceMirror _ => Unit

def perform (digests : Digests Hash) : (transaction : StoreTransaction Hash) →
    LifecycleStore Hash → Except LifecycleFault (LifecycleStore Hash × transaction.Value)
  | readReceipt runAuthorityId hash, store => .ok (store, store.receipts runAuthorityId hash)
  | linkReceipt runAuthorityId hash envelope, store =>
    .ok (store.linkReceipt runAuthorityId hash envelope)
  | keyFileExists runAuthorityId key, store =>
    .ok (store, (store.keyFiles runAuthorityId key).isSome)
  | readKeyFile runAuthorityId key, store => .ok (store, store.keyFiles runAuthorityId key)
  | replaceKeyFile runAuthorityId key envelope, store =>
    .ok (store.replaceKeyFile runAuthorityId key envelope, ())
  | commitHead authorization, store =>
    (authorization.commitHead digests (store.heads authorization.runAuthorityId)).map
      fun committed =>
        (store.withCommitted digests authorization.runAuthorityId committed, committed)
  | replaceMirror head, store =>
    .ok ({ store with
      mirrors := Function.update store.mirrors head.runAuthorityId (some head) }, ())

end StoreTransaction

/-- What a process does outside of the shared files and the database. -/
inductive Outside where
  | revalidate
  | writeTemporary
  | synchronise
  | openDatabase
  deriving DecidableEq

/-- A call of `persist_authorization`. -/
structure PersistCall (Hash : Type) where
  transitionKey : TransitionKey Hash
  authorization : Authorization Hash

/-- The path that a call returns. -/
inductive PersistedPath (Hash : Type) where
  | keyFile (key : String)
  | receiptFile (hash : Hash)

abbrev lifecycle (digests : Digests Hash) : Language where
  Shared := LifecycleStore Hash
  Fault := LifecycleFault
  Transaction := StoreTransaction Hash
  Value := StoreTransaction.Value
  Request := Outside
  Answer := fun _ => Unit
  Call := PersistCall Hash
  Result := PersistedPath Hash
  perform := StoreTransaction.perform digests

/-! ### `persist_authorization` -/

section

variable (digests : Digests Hash) (authorization : Authorization Hash)

abbrev StoreProgram (Value : Type) : Type := Program (lifecycle digests) Value

def transact (transaction : StoreTransaction Hash) : StoreProgram digests transaction.Value :=
  Program.run (L := lifecycle digests) transaction

def outside (request : Outside) : StoreProgram digests Unit :=
  Program.request (L := lifecycle digests) request

def publishReceipt : StoreProgram digests Unit := do
  let runAuthorityId := authorization.runAuthorityId
  let receiptHash := authorization.receiptHash digests
  let envelope := authorization.envelope digests
  let existing ← transact digests (.readReceipt runAuthorityId receiptHash)
  match existing with
  | some found => Program.refuse (found ≠ envelope) .differentReceipt
  | none => do
    outside digests .writeTemporary
    let linked ← transact digests (.linkReceipt runAuthorityId receiptHash envelope)
    if linked then pure ()
    else do
      let found ← transact digests (.readReceipt runAuthorityId receiptHash)
      Program.refuse (found ≠ some envelope) .differentReceipt

def writeKeyFile (key : String) : StoreProgram digests Unit := do
  let runAuthorityId := authorization.runAuthorityId
  let envelope := authorization.envelope digests
  let known ← transact digests (.keyFileExists runAuthorityId key)
  if known then do
    let found ← transact digests (.readKeyFile runAuthorityId key)
    Program.refuse (found ≠ some envelope) .differentKeyFile
  else do
    outside digests .writeTemporary
    transact digests (.replaceKeyFile runAuthorityId key envelope)

def commitRunHead : StoreProgram digests Unit := do
  let published ← transact digests
    (.readReceipt authorization.runAuthorityId (authorization.receiptHash digests))
  Program.finish (authorization.checkPublished digests published)
  outside digests .openDatabase
  let committed ← transact digests (.commitHead authorization)
  match committed with
  | .retried _ => pure ()
  | .advanced head => do
    outside digests .writeTemporary
    transact digests (.replaceMirror head)

def persistAuthorization (call : PersistCall Hash) :
    StoreProgram digests (PersistedPath Hash) := do
  let authorization := call.authorization
  outside digests .revalidate
  publishReceipt digests authorization
  outside digests .synchronise
  match call.transitionKey.fileName with
  | some key => do
    writeKeyFile digests authorization key
    commitRunHead digests authorization
    pure (.keyFile key)
  | none => do
    commitRunHead digests authorization
    pure (.receiptFile (authorization.receiptHash digests))

end

end QuantAgent.Lifecycle
