/-
This file embeds the store of pre-execution receipts and of the claims on them. Over any sequence of
its transactions, by any number of workers, an intent is claimed at most once, and the claim always
names a claimed receipt of the intent with the expiry of the one that won: a refresh replaces the
receipt but never extends its life. The intent store may write its own table at any time.
-/

import QuantAgent.Execution.Records
import QuantAgent.Library.Runs

namespace QuantAgent.Execution.Authorizations

open Runs

/-- `PRE_EXECUTION_VALIDATOR_R2` and `PRE_EXECUTION_VALIDATOR_R3`. -/
inductive ValidatorVersion where
  | r2
  | r3
  deriving DecidableEq

structure AuthorizationValues where
  intentId : String
  intentHash : String
  proposalHash : String
  caseHash : String
  approvalEventId : String
  approvalHash : String
  riskPolicyHash : String
  accountSnapshotHash : String
  marketObservationHash : String
  executionCompilationHash : String
  environment : Environment
  validatedAtMs : Int
  expiresAtMs : Int
  validatorVersion : ValidatorVersion := .r3
  deriving DecidableEq

/-- `PreExecutionAuthorizationV1`, whose hash is that of the other fields. -/
structure PreExecutionAuthorization extends AuthorizationValues where
  authorizationId : String
  chronology : 0 ≤ validatedAtMs ∧ validatedAtMs < expiresAtMs
  deriving DecidableEq

def PreExecutionAuthorization.build (authorizationId : String) (values : AuthorizationValues) :
    Except Fault PreExecutionAuthorization :=
  if chronology : 0 ≤ values.validatedAtMs ∧ values.validatedAtMs < values.expiresAtMs then
    .ok { values with authorizationId := authorizationId, chronology := chronology }
  else .error (.other "authorization chronology invalid")

/-- `content_hash` of a receipt, and the names it gives to issued and to refreshed values. -/
structure Hashing (Hash : Type) where
  digest : PreExecutionAuthorization → Hash
  issuedId : AuthorizationValues → String
  refreshedId : AuthorizationValues → String

/-! ### The store -/

inductive ReceiptStatus where
  | issued
  | claimed
  | superseded
  deriving DecidableEq

structure IntentRow where
  intentHash : String
  status : Status

/-- A receipt; the columns of its hash and of its intent are written with its payload. -/
structure ReceiptRow where
  status : ReceiptStatus
  payload : PreExecutionAuthorization

structure ClaimRow where
  authorizationId : String
  claimedAtMs : Int

/-- The tables, and the intents that have an entry order. -/
structure Store where
  intents : Table IntentRow := ∅
  receipts : Table ReceiptRow := ∅
  claims : Table ClaimRow := ∅
  ordered : List String := []

namespace Store

variable {Hash : Type} [DecidableEq Hash] (hashing : Hashing Hash) (store : Store)

def setStatus (intentId : String) (status : Status) : Store :=
  { store with intents := store.intents.modify intentId fun row => { row with status := status } }

/-- A new receipt under its name; its hash, which covers the name, is then new as well. -/
def insertReceipt (auth : PreExecutionAuthorization) (status : ReceiptStatus) : Store :=
  { store with receipts := store.receipts.insert auth.authorizationId ⟨status, auth⟩ }

def setReceipt (authorizationId : String) (status : ReceiptStatus) : Store :=
  { store with receipts :=
      store.receipts.modify authorizationId fun row => { row with status := status } }

/-- `issue`, of an account and an observation with these hashes. -/
def issue (intent : TradeIntent) (accountHash marketHash compilationHash : String)
    (nowMs expiresAtMs : Int) : Except Fault (PreExecutionAuthorization × Store) := do
  let values : AuthorizationValues :=
    { intentId := intent.intentId, intentHash := intent.intentHash,
      proposalHash := intent.proposalHash, caseHash := intent.caseHash,
      approvalEventId := intent.approvalEventId, approvalHash := intent.approvalHash,
      riskPolicyHash := intent.riskPolicyHash, accountSnapshotHash := accountHash,
      marketObservationHash := marketHash, executionCompilationHash := compilationHash,
      environment := .testnet, validatedAtMs := nowMs, expiresAtMs := expiresAtMs }
  let auth ← PreExecutionAuthorization.build (hashing.issuedId values) values
  match store.intents.lookup intent.intentId with
  | none => .error (.blocked "AUTHORIZATION_INTENT_NOT_PERSISTED")
  | some row =>
    refuse (row.intentHash ≠ intent.intentHash) (.blocked "AUTHORIZATION_INTENT_NOT_PERSISTED")
    refuse (row.status ∉ [.pendingValidation, .authorized, .validated])
      (.blocked "INTENT_NOT_ELIGIBLE_FOR_AUTHORIZATION")
    -- `INSERT OR IGNORE`
    let inserted := if (store.receipts.lookup auth.authorizationId).isSome then store
      else store.insertReceipt auth .issued
    pure (auth, inserted.setStatus intent.intentId .authorized)

def claim (auth : PreExecutionAuthorization) (nowMs : Int) : Except Fault (Bool × Store) :=
  match store.claims.lookup auth.intentId with
  | some _ => .ok (false, store)
  | none =>
    match store.intents.lookup auth.intentId, store.receipts.lookup auth.authorizationId with
    | some row, some receipt => do
      refuse (row.intentHash ≠ auth.intentHash ∨
        hashing.digest receipt.payload ≠ hashing.digest auth ∨ row.status ≠ .authorized ∨
        receipt.status ≠ .issued) (.blocked "AUTHORIZATION_NOT_VALIDATED")
      let claimed := (store.setReceipt auth.authorizationId .claimed).setStatus auth.intentId
        .submitting
      pure (true, { claimed with
        claims := store.claims.insert auth.intentId ⟨auth.authorizationId, nowMs⟩ })
    | _, _ => .error (.blocked "AUTHORIZATION_NOT_VALIDATED")

/-- The claim on the receipt is still held, and its intent has no entry order. -/
def Owns (previous : PreExecutionAuthorization) : Prop :=
  (∃ claim ∈ store.claims.lookup previous.intentId,
      claim.authorizationId = previous.authorizationId) ∧
    (∃ row ∈ store.intents.lookup previous.intentId,
      row.intentHash = previous.intentHash ∧ row.status = .submitting) ∧
    (∃ receipt ∈ store.receipts.lookup previous.authorizationId,
      hashing.digest receipt.payload = hashing.digest previous ∧ receipt.status = .claimed) ∧
    previous.intentId ∉ store.ordered

instance (previous : PreExecutionAuthorization) : Decidable (store.Owns hashing previous) :=
  inferInstanceAs (Decidable ((∃ _ ∈ _, _) ∧ (∃ _ ∈ _, _) ∧ (∃ _ ∈ _, _) ∧ _))

def refreshClaimed (previous : PreExecutionAuthorization)
    (accountHash marketHash compilationHash : String) (nowMs : Int) :
    Except Fault (PreExecutionAuthorization × Store) := do
  refuse (¬ (previous.validatedAtMs ≤ nowMs ∧ nowMs < previous.expiresAtMs))
    (.blocked "AUTHORIZATION_EXPIRED")
  let values := { previous.toAuthorizationValues with
    accountSnapshotHash := accountHash, marketObservationHash := marketHash,
    executionCompilationHash := compilationHash, validatedAtMs := nowMs, validatorVersion := .r3 }
  let auth ← PreExecutionAuthorization.build (hashing.refreshedId values) values
  refuse (¬ store.Owns hashing previous) (.blocked "AUTHORIZATION_CLAIM_OWNERSHIP_LOST")
  if auth.authorizationId = previous.authorizationId then pure (auth, store)
  else do
    refuse (store.receipts.lookup auth.authorizationId).isSome
      (.other "UNIQUE constraint failed")
    let replaced := (store.insertReceipt auth .claimed).setReceipt
      previous.authorizationId .superseded
    pure (auth, { replaced with
      claims := store.claims.modify previous.intentId
        fun claim => { claim with authorizationId := auth.authorizationId } })

end Store

/-- A call of some worker; the intent store writes its table, the backend records an entry order. -/
inductive Call where
  | writeIntents (intents : Table IntentRow)
  | recordOrder (intentId : String)
  | issue (intent : TradeIntent) (accountHash marketHash compilationHash : String)
      (nowMs expiresAtMs : Int)
  | claim (auth : PreExecutionAuthorization) (nowMs : Int)
  | refreshClaimed (previous : PreExecutionAuthorization)
      (accountHash marketHash compilationHash : String) (nowMs : Int)

variable {Hash Value : Type} [DecidableEq Hash] {hashing : Hashing Hash} {store later : Store}

/-- A call that raises leaves the tables as they are. -/
def Store.settled (store : Store) : Except Fault (Value × Store) → Store
  | .ok (_, later) => later
  | .error _ => store

variable (hashing) in
def Store.step (store : Store) : Call → Store
  | .writeIntents intents => { store with intents := intents }
  | .recordOrder intentId => { store with ordered := intentId :: store.ordered }
  | .issue intent accountHash marketHash compilationHash nowMs expiresAtMs => store.settled
    (store.issue hashing intent accountHash marketHash compilationHash nowMs expiresAtMs)
  | .claim auth nowMs => store.settled (store.claim hashing auth nowMs)
  | .refreshClaimed previous accountHash marketHash compilationHash nowMs => store.settled
    (store.refreshClaimed hashing previous accountHash marketHash compilationHash nowMs)

/-! ### What a call does -/

/-- What a call does to the claims and the receipts. -/
inductive Effect (store later : Store) : Prop
  | none (claims : later.claims = store.claims) (receipts : later.receipts = store.receipts)
  | issued (auth : PreExecutionAuthorization)
      (absent : store.receipts.lookup auth.authorizationId = .none)
      (claims : later.claims = store.claims)
      (receipts : ∀ name, later.receipts.lookup name =
        if name = auth.authorizationId then some ⟨.issued, auth⟩ else store.receipts.lookup name)
  | claimed (auth : PreExecutionAuthorization) (nowMs : Int)
      (free : store.claims.lookup auth.intentId = .none)
      (found : store.receipts.lookup auth.authorizationId = some ⟨.issued, auth⟩)
      (claims : ∀ intentId, later.claims.lookup intentId =
        if intentId = auth.intentId then some ⟨auth.authorizationId, nowMs⟩
        else store.claims.lookup intentId)
      (receipts : ∀ name, later.receipts.lookup name =
        if name = auth.authorizationId then some ⟨.claimed, auth⟩ else store.receipts.lookup name)
  | refreshed (previous auth : PreExecutionAuthorization) (claimedAtMs : Int)
      (intent : auth.intentId = previous.intentId)
      (expiry : auth.expiresAtMs = previous.expiresAtMs)
      (absent : store.receipts.lookup auth.authorizationId = .none)
      (held : store.claims.lookup previous.intentId = some ⟨previous.authorizationId, claimedAtMs⟩)
      (found : store.receipts.lookup previous.authorizationId = some ⟨.claimed, previous⟩)
      (claims : ∀ intentId, later.claims.lookup intentId =
        if intentId = previous.intentId then some ⟨auth.authorizationId, claimedAtMs⟩
        else store.claims.lookup intentId)
      (receipts : ∀ name, later.receipts.lookup name =
        if name = previous.authorizationId then some ⟨.superseded, previous⟩
        else if name = auth.authorizationId then some ⟨.claimed, auth⟩
        else store.receipts.lookup name)

/-- The claim of the intent names a claimed receipt of the intent that expires then. -/
def Holds (store : Store) (intentId : String) (expiresAtMs : Int) : Prop :=
  ∃ claim row, store.claims.lookup intentId = some claim ∧
    store.receipts.lookup claim.authorizationId = some row ∧ row.status = .claimed ∧
      row.payload.intentId = intentId ∧ row.payload.expiresAtMs = expiresAtMs

def Keeps (store later : Store) : Prop :=
  ∀ intentId expiresAtMs, Holds store intentId expiresAtMs → Holds later intentId expiresAtMs

theorem settled_effect {answer : Except Fault (Value × Store)}
    (effect : ∀ value later, answer = .ok (value, later) → Effect store later) :
    Effect store (store.settled answer) := by
  cases answer with
  | ok answered => exact effect answered.1 answered.2 rfl
  | error fault => exact .none rfl rfl

variable {accountHash marketHash compilationHash : String}

omit [DecidableEq Hash] in
theorem issue_effect {intent : TradeIntent}
    {nowMs expiresAtMs : Int} {auth : PreExecutionAuthorization}
    (done : store.issue hashing intent accountHash marketHash compilationHash nowMs expiresAtMs =
      .ok (auth, later)) : Effect store later := by
  obtain ⟨auth, -, done⟩ := bind_eq_ok.mp done
  split at done
  · cases done
  · obtain ⟨-, done⟩ := refuse_bind_eq_ok.mp done
    obtain ⟨-, done⟩ := refuse_bind_eq_ok.mp done
    cases done
    split
    · exact .none rfl rfl
    · next absent =>
      exact .issued auth (Option.not_isSome_iff_eq_none.mp absent) rfl fun _ => Table.lookup_insert

section

variable (collisionFree : Function.Injective hashing.digest)

include collisionFree

theorem claim_effect {auth : PreExecutionAuthorization} {nowMs : Int} {won : Bool}
    (done : store.claim hashing auth nowMs = .ok (won, later)) : Effect store later ∧
      (won = true → Holds later auth.intentId auth.expiresAtMs) := by
  unfold Store.claim at done
  split at done
  · cases done
    exact ⟨.none rfl rfl, fun impossible => nomatch impossible⟩
  · next free =>
    split at done
    · next row receipt _ found =>
      obtain ⟨valid, done⟩ := refuse_bind_eq_ok.mp done
      cases done
      simp only [not_or, not_not] at valid
      obtain ⟨status, payload⟩ := receipt
      obtain rfl : payload = auth := collisionFree valid.2.1
      obtain rfl : status = .issued := valid.2.2.2
      exact ⟨.claimed payload nowMs free found (fun _ => Table.lookup_insert)
          fun _ => Table.lookup_modify_of_found found,
        fun _ => ⟨_, _, AList.lookup_insert _,
          (Table.lookup_modify_of_found found).trans (if_pos rfl), rfl, rfl, rfl⟩⟩
    · cases done

theorem refreshClaimed_effect {previous auth : PreExecutionAuthorization} {nowMs : Int}
    (done : store.refreshClaimed hashing previous accountHash marketHash compilationHash nowMs =
      .ok (auth, later)) : Effect store later := by
  obtain ⟨-, done⟩ := refuse_bind_eq_ok.mp done
  obtain ⟨fresh, built, done⟩ := bind_eq_ok.mp done
  obtain ⟨owns, done⟩ := refuse_bind_eq_ok.mp done
  obtain ⟨⟨mine, held, names⟩, -, ⟨⟨status, payload⟩, found, same, isClaimed⟩, -⟩ := not_not.mp owns
  obtain rfl : payload = previous := collisionFree same
  obtain rfl : status = .claimed := isClaimed
  obtain ⟨authorizationId, claimedAtMs⟩ := mine
  obtain rfl : authorizationId = payload.authorizationId := names
  split at done
  · cases done
    exact .none rfl rfl
  · next renamed =>
    obtain ⟨used, done⟩ := refuse_bind_eq_ok.mp done
    cases done
    have content : auth.intentId = payload.intentId ∧ auth.expiresAtMs = payload.expiresAtMs := by
      unfold PreExecutionAuthorization.build at built
      split at built <;> cases built
      exact ⟨rfl, rfl⟩
    have kept : (store.insertReceipt auth .claimed).receipts.lookup payload.authorizationId =
        some ⟨.claimed, payload⟩ := (AList.lookup_insert_ne (Ne.symm renamed)).trans found
    refine .refreshed payload auth claimedAtMs content.1 content.2
      (Option.not_isSome_iff_eq_none.mp used) held found
      (fun _ => Table.lookup_modify_of_found held) fun name => ?_
    exact (Table.lookup_modify_of_found kept).trans (congrArg _ Table.lookup_insert)

theorem step_effect (call : Call) : Effect store (store.step hashing call) := by
  cases call with
  | writeIntents intents => exact .none rfl rfl
  | recordOrder intentId => exact .none rfl rfl
  | issue intent accountHash marketHash compilationHash nowMs expiresAtMs =>
    exact settled_effect fun _ _ done => issue_effect done
  | claim auth nowMs => exact settled_effect fun _ _ done => (claim_effect collisionFree done).1
  | refreshClaimed previous accountHash marketHash compilationHash nowMs =>
    exact settled_effect fun _ _ done => refreshClaimed_effect collisionFree done

end

/-! ### Claims over a run -/

theorem ne_of_absent {Row : Type} {table : Table Row} {key other : String} {row : Row}
    (absent : table.lookup key = none) (found : table.lookup other = some row) : other ≠ key := by
  rintro rfl
  rw [absent] at found
  cases found

/-- One call keeps the claims. -/
theorem Effect.keeps (effect : Effect store later) : Keeps store later := by
  rintro intentId expiresAtMs ⟨claim, row, named, stored, isClaimed, owner, expires⟩
  cases effect with
  | none claims receipts =>
    exact ⟨claim, row, claims ▸ named, receipts ▸ stored, isClaimed, owner, expires⟩
  | issued auth absent claims receipts =>
    exact ⟨claim, row, claims ▸ named,
      (receipts _).trans ((if_neg (ne_of_absent absent stored)).trans stored), isClaimed, owner,
      expires⟩
  | claimed auth nowMs free found claims receipts =>
    refine ⟨claim, row, (claims _).trans ((if_neg (ne_of_absent free named)).trans named),
      (receipts _).trans ((if_neg ?_).trans stored), isClaimed, owner, expires⟩
    intro only
    rw [only, found] at stored
    cases stored
    cases isClaimed
  | refreshed previous auth claimedAtMs intent expiry absent held found claims receipts =>
    by_cases whose : intentId = previous.intentId
    · -- The claim of the refreshed intent moves to the new receipt, which keeps the expiry.
      subst whose
      cases held.symm.trans named
      cases found.symm.trans stored
      refine ⟨_, ⟨.claimed, auth⟩, (claims _).trans (if_pos rfl), (receipts _).trans ?_, rfl,
        intent, expiry.trans expires⟩
      rw [if_neg (ne_of_absent absent found).symm, if_pos rfl]
    · refine ⟨claim, row, (claims _).trans ((if_neg whose).trans named), (receipts _).trans ?_,
        isClaimed, owner, expires⟩
      rw [if_neg ?_, if_neg (ne_of_absent absent stored), stored]
      intro only
      rw [only, found] at stored
      cases stored
      exact whose owner.symm

/-- The claimed receipts are those that the claims of their intents name. -/
def Exact (store : Store) : Prop :=
  ∀ intentId name, (∃ claim, store.claims.lookup intentId = some claim ∧
      claim.authorizationId = name) ↔
    ∃ row, store.receipts.lookup name = some row ∧ row.status = .claimed ∧
      row.payload.intentId = intentId

theorem Effect.exact (effect : Effect store later) (exact : Exact store) : Exact later := by
  intro intentId name
  have before := exact intentId name
  cases effect with
  | none claims receipts => rwa [claims, receipts]
  | issued auth absent claims receipts =>
    rw [claims, receipts, before]
    by_cases which : name = auth.authorizationId
    · subst which
      simp [absent]
    · rw [if_neg which]
  | claimed auth nowMs free found claims receipts =>
    rw [claims, receipts]
    by_cases whose : intentId = auth.intentId <;> by_cases which : name = auth.authorizationId
    · simp [whose, which]
    · subst whose
      simpa [free, which, Ne.symm which] using before
    · subst which
      simpa [found, whose, Ne.symm whose] using before
    · rwa [if_neg whose, if_neg which]
  | refreshed previous auth claimedAtMs intent expiry absent held found claims receipts =>
    have apart := ne_of_absent absent found
    rw [claims, receipts]
    by_cases whose : intentId = previous.intentId
    · -- The claim moves to the new receipt, and the old one is superseded.
      subst whose
      by_cases old : name = previous.authorizationId
      · simp [old, Ne.symm apart]
      · by_cases fresh : name = auth.authorizationId
        · simp [fresh, Ne.symm apart, intent]
        · simpa [held, old, fresh, Ne.symm old, Ne.symm fresh] using before
    · rw [if_neg whose, before]
      by_cases old : name = previous.authorizationId
      · subst old
        simp [found, Ne.symm whose]
      · by_cases fresh : name = auth.authorizationId
        · subst fresh
          simp [absent, Ne.symm apart, intent, Ne.symm whose]
        · rw [if_neg old, if_neg fresh]

section

variable (collisionFree : Function.Injective hashing.digest)

include collisionFree

theorem run_keeps (calls : List Call) : Keeps store (run (Store.step hashing) store calls) := by
  intro intentId expiresAtMs holds
  have keeps (state : Store) (call : Call) : Holds state intentId expiresAtMs →
      Holds (state.step hashing call) intentId expiresAtMs :=
    (step_effect collisionFree call).keeps _ _
  exact (throughout_of_keeps keeps holds calls).last

/-- From the empty store on, a receipt is claimed exactly when the claim of its intent names it, so
that no intent ever has two claimed receipts. -/
theorem exact_throughout (calls : List Call) : Exact (run (Store.step hashing) {} calls) := by
  have initially : Exact {} := fun _ _ => by simp
  have keeps (state : Store) (call : Call) : Exact state → Exact (state.step hashing call) :=
    (step_effect collisionFree call).exact
  exact (throughout_of_keeps keeps initially calls).last

/-- Once a worker has won the claim of an intent, the claim names in every later state a claimed
receipt of the intent with the expiry of the one that won, and every further claim of the intent is
lost and changes nothing. -/
theorem claimed_once {auth : PreExecutionAuthorization} {nowMs : Int}
    (won : store.claim hashing auth nowMs = .ok (true, later)) (calls : List Call) :
    Holds (run (Store.step hashing) later calls) auth.intentId auth.expiresAtMs ∧
      ∀ other laterMs, other.intentId = auth.intentId →
        (run (Store.step hashing) later calls).claim hashing other laterMs =
          .ok (false, run (Store.step hashing) later calls) := by
  have held := run_keeps collisionFree calls _ _ ((claim_effect collisionFree won).2 rfl)
  refine ⟨held, fun other laterMs same => ?_⟩
  obtain ⟨claim, -, present, -⟩ := held
  unfold Store.claim
  rw [same, present]

end

def issuedAuthorization : PreExecutionAuthorization where
  authorizationId := "auth_1"
  intentId := "intent_1"
  intentHash := "i"
  proposalHash := "p"
  caseHash := "c"
  approvalEventId := "event"
  approvalHash := "a"
  riskPolicyHash := "r"
  accountSnapshotHash := "s"
  marketObservationHash := "m"
  executionCompilationHash := "e"
  environment := .testnet
  validatedAtMs := 1000
  expiresAtMs := 6000
  chronology := by decide

def issuedStore : Store where
  intents := AList.singleton "intent_1" ⟨"i", .authorized⟩
  receipts := AList.singleton "auth_1" ⟨.issued, issuedAuthorization⟩

def issuedHashing : Hashing PreExecutionAuthorization := ⟨id, fun _ => "auth_1", fun _ => "auth_2"⟩

/-- A refresh after the claim keeps the expiry. -/
theorem claimed_once_refreshed : ∃ later,
    issuedStore.claim issuedHashing issuedAuthorization 1500 = .ok (true, later) ∧
      Holds (run (Store.step issuedHashing) later
        [.refreshClaimed issuedAuthorization "s" "m" "e" 2000]) "intent_1" 6000 :=
  ⟨_, rfl, (@claimed_once _ _ issuedHashing issuedStore _ Function.injective_id
    issuedAuthorization 1500 rfl _).1⟩

def refreshedCalls : List Call :=
  [.writeIntents (AList.singleton "intent_1" ⟨"i", .pendingValidation⟩),
    .issue ⟨"intent_1", "i", "case", "c", "p", "event", "actor", "a", "r", .testnet, "BTCUSDT",
      .buy, .limit, 1, 1, 1, 1, 0, 6000, "key", "client"⟩ "s" "m" "e" 1000 6000,
    .claim issuedAuthorization 1500, .refreshClaimed issuedAuthorization "s" "m" "e" 2000]

/-- In the end the claim names the refreshed receipt, the only claimed one. -/
theorem exact_refreshed :
    Exact (run (Store.step issuedHashing) {} refreshedCalls) ∧
      (run (Store.step issuedHashing) {} refreshedCalls).claims.lookup "intent_1" =
        some ⟨"auth_2", 1500⟩ :=
  ⟨exact_throughout Function.injective_id _, rfl⟩

end QuantAgent.Execution.Authorizations
