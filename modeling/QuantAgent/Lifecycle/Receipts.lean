/-
This file embeds the records of an H40 run: the lifecycle states with the accepted transitions, the
receipts of the transitions, the evidence that they bind, and the durable head of a run.

A receipt is named by the digest of its content and names the receipt before it. Fields that have
one accepted value are left out.
-/

import Mathlib

namespace QuantAgent.Lifecycle

inductive LifecycleState where
  | preregistered
  | p1Scaffolded
  | discovery
  | candidateLocked
  | walkForwardValidated
  | confirmationReady
  | confirmationEvaluatedOnce
  | noGo
  | notTestable
  deriving DecidableEq

namespace LifecycleState

def terminalStates : List LifecycleState := [noGo, notTestable]

def acceptedTransitions : List (LifecycleState × LifecycleState) :=
  [(p1Scaffolded, discovery),
    (discovery, candidateLocked),
    (candidateLocked, walkForwardValidated),
    (walkForwardValidated, confirmationReady),
    (p1Scaffolded, noGo),
    (discovery, noGo),
    (candidateLocked, noGo),
    (walkForwardValidated, noGo),
    (confirmationReady, noGo),
    (p1Scaffolded, notTestable),
    (discovery, notTestable)]

/-- How far along the pipeline a state is. -/
def rank : LifecycleState → ℕ
  | preregistered => 0
  | p1Scaffolded => 1
  | discovery => 2
  | candidateLocked => 3
  | walkForwardValidated => 4
  | confirmationReady => 5
  | confirmationEvaluatedOnce => 6
  | noGo => 7
  | notTestable => 7

theorem rank_lt_of_accepted : ∀ transition ∈ acceptedTransitions,
    transition.1.rank < transition.2.rank := by decide

theorem not_terminal_of_accepted : ∀ transition ∈ acceptedTransitions,
    transition.1 ∉ terminalStates := by decide

theorem scaffolded_of_discovery : ∀ transition ∈ acceptedTransitions,
    transition.2 = discovery → transition.1 = p1Scaffolded := by decide

theorem notScaffolded_of_accepted : ∀ transition ∈ acceptedTransitions,
    transition.2 ≠ p1Scaffolded := by decide

end LifecycleState

/-! ### Evidence -/

structure CandidateResultEntry (Hash : Type) where
  candidateResultInputEvidenceHash : Hash
  complexity : ℕ
  familyId : String
  hardGateInputEvidenceHashes : List (String × Hash)
  netExpectancyInputEvidenceHash : Hash
  precisionInputEvidenceHash : Hash
  slotHash : Hash
  slotIndex : ℕ
  structuralConfigurationHash : Hash
  deriving DecidableEq

structure DiscoveryResultEvidence (Hash : Type) where
  candidateResultEntries : List (CandidateResultEntry Hash)
  correctionInputEvidenceManifestHash : Hash
  createdAtUtc : String
  discoveryAuthorizationReceiptHash : Hash
  materializedRunAuthorityHash : Hash
  runAuthorityId : Hash
  sealedRegisteredRosterHash : Hash
  deriving DecidableEq

structure WFFoldResultEntry (Hash : Type) where
  acceptedGateInputEvidenceHashes : List (String × Hash)
  evaluationInputEvidenceHash : Hash
  foldIdentityHash : Hash
  foldId : String
  partitionId : String
  splitDefinitionHash : Hash
  deriving DecidableEq

structure WFValidationResultEvidence (Hash : Type) where
  acceptedValidationContractHashes : List (String × Hash)
  candidateLockReceiptHash : Hash
  createdAtUtc : String
  foldResultEntries : List (WFFoldResultEntry Hash)
  lockedSlotHash : Hash
  lockedSlotIndex : ℕ
  lockedStructuralConfigurationHash : Hash
  runAuthorityId : Hash
  splitAttestationHash : Hash
  splitManifestHash : Hash
  deriving DecidableEq

inductive ResultEvidence (Hash : Type) where
  | discovery (evidence : DiscoveryResultEvidence Hash)
  | wfValidation (evidence : WFValidationResultEvidence Hash)
  deriving DecidableEq

/-! ### Receipts -/

structure DiscoveryAuthorizationReceipt (Hash : Type) where
  authorizedAtUtc : String
  controllerAuthorityHash : Hash
  discoveryRunGrantHash : Hash
  lifecycleImplementationAuthorityHash : Hash
  materializedRunAuthorityHash : Hash
  notTestableSlotCount : ℕ
  registeredSlotCount : ℕ
  runAuthorityId : Hash
  sealedRegisteredRosterHash : Hash
  sourceManifestHash : Hash
  splitAttestationHash : Hash
  splitManifestHash : Hash
  deriving DecidableEq

structure DiscoveryAuthorizationReceiptV2 (Hash : Type) where
  authorizedAtUtc : String
  lifecycleImplementationAuthorityHash : Hash
  materializedRunAuthorityHash : Hash
  notTestableSlotCount : ℕ
  registeredSlotCount : ℕ
  runAuthorityId : Hash
  sealedRegisteredRosterHash : Hash
  sourceManifestHash : Hash
  splitAttestationHash : Hash
  splitManifestHash : Hash
  deriving DecidableEq

structure CandidateLockReceipt (Hash : Type) where
  discoveryResultEvidenceHash : Hash
  lockedAtUtc : String
  materializedRunAuthorityHash : Hash
  runAuthorityId : Hash
  selectedSlotHash : Hash
  selectedSlotIndex : ℕ
  selectedStructuralConfigurationHash : Hash
  upstreamReceiptHash : Hash
  verifiedAtUtc : String
  deriving DecidableEq

structure WFValidationReceipt (Hash : Type) where
  lockedSlotHash : Hash
  lockedSlotIndex : ℕ
  lockedStructuralConfigurationHash : Hash
  runAuthorityId : Hash
  upstreamReceiptHash : Hash
  validatedAtUtc : String
  verifiedAtUtc : String
  wfValidationResultEvidenceHash : Hash
  deriving DecidableEq

structure ConfirmationReadyReceipt (Hash : Type) where
  lockedSlotHash : Hash
  lockedSlotIndex : ℕ
  lockedStructuralConfigurationHash : Hash
  preparedAtUtc : String
  runAuthorityId : Hash
  splitAttestationHash : Hash
  splitManifestHash : Hash
  upstreamReceiptHash : Hash
  deriving DecidableEq

structure TerminationReceipt (Hash : Type) where
  detailMessage : String
  failureEvidenceHash : Option Hash
  reasonCode : String
  runAuthorityId : Hash
  sourceState : LifecycleState
  targetState : LifecycleState
  terminatedAtUtc : String
  upstreamReceiptHash : Option Hash
  terminal : targetState ∈ LifecycleState.terminalStates
  deriving DecidableEq

inductive Receipt (Hash : Type) where
  | discoveryV2 (receipt : DiscoveryAuthorizationReceiptV2 Hash)
  | discovery (receipt : DiscoveryAuthorizationReceipt Hash)
  | candidateLock (receipt : CandidateLockReceipt Hash)
  | wfValidation (receipt : WFValidationReceipt Hash)
  | confirmationReady (receipt : ConfirmationReadyReceipt Hash)
  | termination (receipt : TerminationReceipt Hash)
  deriving DecidableEq

namespace Receipt

variable {Hash : Type}

def runAuthorityId : Receipt Hash → Hash
  | discoveryV2 receipt => receipt.runAuthorityId
  | discovery receipt => receipt.runAuthorityId
  | candidateLock receipt => receipt.runAuthorityId
  | wfValidation receipt => receipt.runAuthorityId
  | confirmationReady receipt => receipt.runAuthorityId
  | termination receipt => receipt.runAuthorityId

def upstreamReceiptHash : Receipt Hash → Option Hash
  | discoveryV2 _ => none
  | discovery _ => none
  | candidateLock receipt => some receipt.upstreamReceiptHash
  | wfValidation receipt => some receipt.upstreamReceiptHash
  | confirmationReady receipt => some receipt.upstreamReceiptHash
  | termination receipt => receipt.upstreamReceiptHash

def transition : Receipt Hash → Option (LifecycleState × LifecycleState)
  | discoveryV2 _ => none
  | discovery _ => some (.p1Scaffolded, .discovery)
  | candidateLock _ => some (.discovery, .candidateLocked)
  | wfValidation _ => some (.candidateLocked, .walkForwardValidated)
  | confirmationReady _ => some (.walkForwardValidated, .confirmationReady)
  | termination receipt => some (receipt.sourceState, receipt.targetState)

/-- The receipt starts a lineage. -/
def isDiscovery : Receipt Hash → Bool
  | discovery _ => true
  | _ => false

end Receipt

/-! ### Envelopes and heads -/

structure PersistenceContext (Hash : Type) where
  controllerAuthorityHash : Hash
  discoveryRunGrantHash : Hash
  implementationAuthorityHash : Hash
  runAuthorityId : Hash
  runtimeSealHash : Hash
  predecessorReceiptHash : Option Hash
  splitAuthorityHash : Option Hash
  deriving DecidableEq

/-- What a receipt file holds. -/
structure Envelope (Hash : Type) where
  authorityContext : PersistenceContext Hash
  boundEvidence : Option (ResultEvidence Hash)
  boundEvidenceSha256 : Option Hash
  receipt : Receipt Hash
  receiptSha256 : Hash
  deriving DecidableEq

structure DurableRunHead (Hash : Type) where
  headPredecessorReceiptHash : Option Hash
  headReceiptHash : Hash
  headState : LifecycleState
  runAuthorityId : Hash
  terminal : Bool
  transitionSequence : ℕ

/-- A row of the head table: the columns, the digest of the head, and the head itself. -/
structure HeadRow (Hash : Type) where
  headReceiptHash : Hash
  headState : LifecycleState
  headPredecessorReceiptHash : Option Hash
  transitionSequence : ℕ
  terminal : Bool
  headHash : Hash
  headJson : DurableRunHead Hash

structure Digests (Hash : Type) where
  receipt : Receipt Hash → Hash
  discoveryEvidence : DiscoveryResultEvidence Hash → Hash
  wfEvidence : WFValidationResultEvidence Hash → Hash
  head : DurableRunHead Hash → Hash

def DurableRunHead.row {Hash : Type} (digests : Digests Hash) (head : DurableRunHead Hash) :
    HeadRow Hash where
  headReceiptHash := head.headReceiptHash
  headState := head.headState
  headPredecessorReceiptHash := head.headPredecessorReceiptHash
  transitionSequence := head.transitionSequence
  terminal := head.terminal
  headHash := digests.head head
  headJson := head

end QuantAgent.Lifecycle
