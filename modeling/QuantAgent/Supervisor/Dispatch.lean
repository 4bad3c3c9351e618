/-
This file embeds the position supervisor's outbox: position events, the cases built for them, the
dispatch row of each event, and the checks and writes of its transactions.

A column that holds canonical JSON is the document itself, and a blank one is `none`. The triggers
of the tables only refuse writes that no statement here makes.
-/

import QuantAgent.Library.Refusal
import QuantAgent.Library.Table

namespace QuantAgent.Supervisor

/-! ### Documents -/

inductive Fault where
  | keyError (message : String)
  | valueError (message : String)
  deriving DecidableEq

/-- The message that turns a failed market case into a failed dispatch. -/
def symbolMismatch : Fault := .valueError "FRESH_MARKET_CASE_SYMBOL_MISMATCH"

structure PositionEvent where
  eventId : String
  eventHash : String
  trigger : String
  symbol : String
  sourceHash : String
  environment : Option String
  credentialNamespace : Option String
  accountId : Option String
  positionSide : Option String
  positionAuthorityKey : Option String
  observedAtMs : Int
  markPrice : ℚ
  quantity : ℚ
  deriving DecidableEq

/-- The fields that `position_case_from_event` copies from the market case. -/
structure Market where
  strategy : String
  strategyVersion : String
  direction : String
  evidenceId : String
  snapshotHash : String
  signalIdentity : String
  price : ℚ
  entryLow : ℚ
  entryHigh : ℚ
  stopLoss : ℚ
  takeProfit1 : ℚ
  takeProfit2 : ℚ
  atr : ℚ
  dataQuality : String
  spreadBps : Option ℚ
  liquidityUsdt : Option ℚ
  deriving DecidableEq

structure CasePackage (Context : Type) where
  caseId : String
  caseHash : String
  createdAtMs : Int
  observedAtMs : Int
  expiresAtMs : Int
  symbol : String
  trigger : String
  source : String
  baseCaseHash : Option String
  positionEventHash : Option String
  market : Market
  context : Context
  deriving DecidableEq

/-- `_dispatch_authority`. -/
structure Authority where
  eventId : String
  eventHash : String
  symbol : String
  environment : Option String
  credentialNamespace : Option String
  accountId : Option String
  positionSide : Option String
  positionAuthorityKey : Option String
  positionCaseId : String
  positionCaseHash : String
  leaseToken : String
  deriving DecidableEq

/-- `content_hash` of each kind of document, the field checks of a case, and the defaults of a
case's context. A hash is never blank. -/
structure Content (Context : Type) where
  eventHash : PositionEvent → String
  caseHash : CasePackage Context → String
  authorityKey : (environment credentialNamespace accountId symbol positionSide : String) → String
  authorityHash : Authority → String
  admissionHash : String → String
  wellFormed : CasePackage Context → Bool
  defaults : Context
  authorityHash_ne : ∀ authority, authorityHash authority ≠ ""
  admissionHash_ne : ∀ hash, admissionHash hash ≠ ""

variable {Context : Type} (content : Content Context)

def positionAuthorityKey (environment credentialNamespace accountId symbol positionSide : String) :
    Except Fault String := do
  refuse ("" ∈ [environment, credentialNamespace, accountId, symbol, positionSide])
    (.valueError "position authority incomplete")
  pure (content.authorityKey environment credentialNamespace accountId symbol positionSide)

/-- `PositionEventV1.verify`. -/
def PositionEvent.verify (event : PositionEvent) : Except Fault Unit := do
  refuse (event.observedAtMs < 0) (.valueError "invalid position event")
  match event.environment, event.credentialNamespace, event.accountId, event.positionSide,
    event.positionAuthorityKey with
  | some environment, some credentialNamespace, some accountId, some positionSide, some key =>
    let expected ← Supervisor.positionAuthorityKey content environment credentialNamespace
      accountId event.symbol positionSide
    refuse (key ≠ expected) (.valueError "position event authority mismatch")
  | none, none, none, none, none => pure ()
  | _, _, _, _, _ => throw (.valueError "position event authority incomplete")
  refuse (event.eventHash ≠ content.eventHash event) (.valueError "event hash mismatch")

/-- `CasePackageV1.verify`. -/
def CasePackage.verify (case : CasePackage Context) : Except Fault Unit := do
  refuse (¬ content.wellFormed case) (.valueError "invalid case")
  refuse (¬ (case.observedAtMs ≤ case.createdAtMs ∧ case.createdAtMs < case.expiresAtMs))
    (.valueError "invalid case chronology")
  refuse (case.market.entryHigh < case.market.entryLow) (.valueError "invalid entry range")
  refuse (case.caseHash ≠ content.caseHash case) (.valueError "case hash mismatch")

/-- `CasePackageV1.build`: the hash is filled in and the case is checked. -/
def CasePackage.build (case : CasePackage Context) : Except Fault (CasePackage Context) := do
  let built := { case with caseHash := content.caseHash case }
  built.verify content
  pure built

def positionCaseFromEvent (base : CasePackage Context) (event : PositionEvent) :
    Except Fault (CasePackage Context) :=
  let ttl := max 60000 (base.expiresAtMs - base.createdAtMs)
  CasePackage.build content
    { caseId := "pos-" ++ event.eventId
      caseHash := ""
      createdAtMs := event.observedAtMs
      observedAtMs := event.observedAtMs
      expiresAtMs := event.observedAtMs + ttl
      symbol := base.symbol
      trigger := event.trigger
      source := "POSITION_SUPERVISOR"
      baseCaseHash := some base.caseHash
      positionEventHash := some event.eventHash
      market := base.market
      context := content.defaults }

/-- The position case of what `fresh_market_case` returned or raised. -/
def materialize (market : Except Fault (CasePackage Context)) (event : PositionEvent) :
    Except Fault (CasePackage Context) := do
  let base ← market
  base.verify content
  refuse (base.symbol ≠ event.symbol) symbolMismatch
  let case ← positionCaseFromEvent content base event
  case.verify content
  pure case

def dispatchAuthority (event : PositionEvent) (case : CasePackage Context) (leaseToken : String) :
    Authority where
  eventId := event.eventId
  eventHash := event.eventHash
  symbol := event.symbol
  environment := event.environment
  credentialNamespace := event.credentialNamespace
  accountId := event.accountId
  positionSide := event.positionSide
  positionAuthorityKey := event.positionAuthorityKey
  positionCaseId := case.caseId
  positionCaseHash := case.caseHash
  leaseToken := leaseToken

/-! ### Tables -/

inductive DispatchState where
  | pending
  | dispatching
  | done
  | failedClosed
  deriving DecidableEq

/-- A row of `live_position_case_dispatches`. -/
structure Dispatch (Context : Type) where
  eventId : String
  eventHash : String
  symbol : String
  positionCaseId : String := ""
  positionCaseHash : String := ""
  positionCaseJson : Option (CasePackage Context) := none
  caseHash : String := ""
  dispatchAuthorityJson : Option Authority := none
  dispatchAuthorityHash : String := ""
  analysisAdmissionHash : String := ""
  analysisCompleted : Bool := false
  state : DispatchState := .pending
  retryCount : ℕ := 0
  leaseToken : Option String := none
  leaseExpiresAtMs : Int := 0
  createdAtMs : Int
  updatedAtMs : Int

structure Store (Context : Type) where
  events : Table PositionEvent := ∅
  dispatches : Table (Dispatch Context) := ∅

variable {content} [DecidableEq Context]

namespace Dispatch

/-- `DONE` and `FAILED_CLOSED`. -/
def Terminal (row : Dispatch Context) : Prop := row.state ∈ [.done, .failedClosed]

def Uncertain (row : Dispatch Context) : Prop :=
  row.analysisAdmissionHash ≠ "" ∧ row.analysisCompleted = false

/-- The rows that the candidate query selects from. -/
def Claimable (claimNow : Int) (row : Dispatch Context) : Prop :=
  row.state = .pending ∨ row.state = .dispatching ∧ row.leaseExpiresAtMs ≤ claimNow

/-- The worker's lease, as `WHERE` clauses ask for it. -/
def Leased (token : String) (row : Dispatch Context) : Prop := row.leaseToken = some token

/-- The worker's live lease. -/
def Held (token : String) (now : Int) (row : Dispatch Context) : Prop :=
  row.state = .dispatching ∧ row.Leased token ∧ now < row.leaseExpiresAtMs

/-- The row holds exactly this case. -/
def Frozen (case : CasePackage Context) (row : Dispatch Context) : Prop :=
  row.positionCaseId = case.caseId ∧ row.positionCaseHash = case.caseHash ∧
    row.positionCaseJson = some case ∧ row.caseHash = case.caseHash

instance (row : Dispatch Context) : Decidable row.Terminal := inferInstanceAs (Decidable (_ ∈ _))

instance (row : Dispatch Context) : Decidable row.Uncertain := inferInstanceAs (Decidable (_ ∧ _))

instance (claimNow : Int) : DecidablePred (Claimable claimNow : Dispatch Context → Prop) :=
  fun _ => inferInstanceAs (Decidable (_ ∨ _))

instance (token : String) (row : Dispatch Context) : Decidable (row.Leased token) :=
  inferInstanceAs (Decidable (_ = _))

instance (token : String) (now : Int) (row : Dispatch Context) : Decidable (row.Held token now) :=
  inferInstanceAs (Decidable (_ ∧ _))

instance (case : CasePackage Context) (row : Dispatch Context) : Decidable (row.Frozen case) :=
  inferInstanceAs (Decidable (_ ∧ _))

/-! ### What the statements write to a row -/

def claimed (token : String) (claimNow leaseMs : Int) (row : Dispatch Context) :
    Dispatch Context :=
  { row with
    state := .dispatching
    leaseToken := some token
    leaseExpiresAtMs := claimNow + leaseMs
    retryCount := row.retryCount + 1
    updatedAtMs := claimNow }

def failed (now : Int) (row : Dispatch Context) : Dispatch Context :=
  { row with state := .failedClosed, leaseToken := none, updatedAtMs := now }

/-- After an answer that could not be recorded, which also clears the expiry. -/
def abandoned (now : Int) (row : Dispatch Context) : Dispatch Context :=
  { row.failed now with leaseExpiresAtMs := 0 }

/-- After a market case that could not be had: `PENDING` again, or failed. -/
def postponed (mismatch : Bool) (maxRetries now : Int) (row : Dispatch Context) :
    Dispatch Context :=
  { row with
    state := if mismatch ∨ maxRetries ≤ row.retryCount then .failedClosed else .pending
    leaseToken := none
    leaseExpiresAtMs := 0
    updatedAtMs := now }

def frozen (case : CasePackage Context) (now : Int) (row : Dispatch Context) : Dispatch Context :=
  { row with
    positionCaseId := case.caseId
    positionCaseHash := case.caseHash
    positionCaseJson := some case
    caseHash := case.caseHash
    updatedAtMs := now }

def admitted (content : Content Context) (authority : Authority) (now leaseMs : Int)
    (row : Dispatch Context) : Dispatch Context :=
  { row with
    dispatchAuthorityJson := some authority
    dispatchAuthorityHash := content.authorityHash authority
    analysisAdmissionHash := content.admissionHash (content.authorityHash authority)
    leaseExpiresAtMs := now + leaseMs
    updatedAtMs := now }

def completed (now : Int) (row : Dispatch Context) : Dispatch Context :=
  { row with
    state := .done
    analysisCompleted := true
    leaseToken := none
    leaseExpiresAtMs := 0
    updatedAtMs := now }

end Dispatch

/-! ### Recording events -/

namespace Store

variable (store : Store Context)

def blankDispatch (event : PositionEvent) (nowMs : Int) : Dispatch Context where
  eventId := event.eventId
  eventHash := event.eventHash
  symbol := event.symbol
  createdAtMs := nowMs
  updatedAtMs := nowMs

def insertEvent (event : PositionEvent) (nowMs : Int) : Store Context where
  events := store.events.insert event.eventId event
  dispatches :=
    if event.eventId ∈ store.dispatches ∨
        store.dispatches.rows.any fun row => row.eventHash = event.eventHash then
      store.dispatches
    else store.dispatches.insert event.eventId (blankDispatch event nowMs)

/-- The event repeats a key of a recorded one. -/
def Repeats (event : PositionEvent) : Prop :=
  event.eventId ∈ store.events ∨
    store.events.rows.any fun stored => stored.eventHash = event.eventHash

instance (event : PositionEvent) : Decidable (store.Repeats event) :=
  inferInstanceAs (Decidable (_ ∨ _))

/-- The events that `evaluate` records; a repeated key rolls all of them back. -/
def record (nowMs : Int) : List PositionEvent → Store Context → Option (Store Context)
  | [], store => some store
  | event :: rest, store =>
    if store.Repeats event then none else record nowMs rest (store.insertEvent event nowMs)

def evaluate (events : List PositionEvent) (nowMs : Int) : Store Context :=
  (record nowMs events store).getD store

/-! ### Verification -/

/-- `UPDATE … WHERE event_id = ? AND condition`. -/
def update (eventId : String) (condition : Dispatch Context → Prop) [DecidablePred condition]
    (write : Dispatch Context → Dispatch Context) : Store Context :=
  { store with
    dispatches := store.dispatches.modify eventId fun row =>
      if condition row then write row else row }

def readRows (eventId : String) : Except Fault (PositionEvent × Dispatch Context) :=
  match store.events.lookup eventId, store.dispatches.lookup eventId with
  | some event, some row => .ok (event, row)
  | _, _ => .error (.valueError "position event or dispatch missing")

end Store

/-- The event, as read, against its dispatch and what the worker claimed. -/
def checkIdentity (content : Content Context) (event : PositionEvent) (row : Dispatch Context)
    (expectedEventHash expectedSymbol : String) : Except Fault Unit := do
  event.verify content
  refuse (event.eventHash ≠ expectedEventHash) (.valueError "position event hash mismatch")
  refuse (event.symbol ≠ expectedSymbol) (.valueError "position event symbol mismatch")
  refuse (event.eventId ≠ row.eventId ∨ event.eventHash ≠ row.eventHash ∨
    event.symbol ≠ row.symbol) (.valueError "event and dispatch identity mismatch")

def checkAuthorityKey (content : Content Context) (event : PositionEvent) : Except Fault Unit :=
  match event.environment, event.credentialNamespace, event.accountId, event.positionSide with
  | some environment, some credentialNamespace, some accountId, some positionSide => do
    let expected ← positionAuthorityKey content environment credentialNamespace accountId
      event.symbol positionSide
    refuse (event.positionAuthorityKey ≠ some expected)
      (.valueError "position authority key mismatch")
  | _, _, _, _ =>
    refuse (event.positionAuthorityKey ≠ none) (.valueError "position authority key mismatch")

def checkLease (row : Dispatch Context) (leaseToken : String) (checkLeaseNow : Option Int) :
    Except Fault Unit := do
  refuse (row.leaseToken ≠ some leaseToken) (.keyError "lease token mismatch")
  refuse (row.state ≠ .dispatching) (.keyError "dispatch state not DISPATCHING")
  refuse (∃ now ∈ checkLeaseNow, row.leaseExpiresAtMs ≤ now) (.keyError "lease expired")

def checkCase (content : Content Context) (event : PositionEvent) (row : Dispatch Context)
    (case : CasePackage Context) : Except Fault Unit := do
  case.verify content
  refuse (case.positionEventHash ≠ some event.eventHash)
    (.valueError "case event_hash linkage mismatch")
  refuse (case.caseId ≠ "pos-" ++ event.eventId) (.valueError "case_id linkage mismatch")
  refuse (case.symbol ≠ event.symbol) (.valueError "case symbol mismatch")
  refuse (row.positionCaseHash ≠ "" ∧ case.caseHash ≠ row.positionCaseHash)
    (.valueError "frozen case hash mismatch")
  refuse (∃ stored ∈ row.positionCaseJson, case ≠ stored) (.valueError "frozen case json mismatch")

def verifyDurableAuthority (content : Content Context) (store : Store Context)
    (eventId leaseToken expectedEventHash expectedSymbol : String)
    (posCase : Option (CasePackage Context)) (checkLeaseNow : Option Int) :
    Except Fault (PositionEvent × Dispatch Context) := do
  let (event, row) ← store.readRows eventId
  checkIdentity content event row expectedEventHash expectedSymbol
  checkAuthorityKey content event
  checkLease row leaseToken checkLeaseNow
  posCase.forM (checkCase content event row)
  pure (event, row)

def checkStoredCase (content : Content Context) (event : PositionEvent) (row : Dispatch Context)
    (case : CasePackage Context) : Except Fault Unit := do
  case.verify content
  refuse (row.positionCaseHash ≠ "" ∧ case.caseHash ≠ row.positionCaseHash ∨
    row.caseHash ≠ "" ∧ case.caseHash ≠ row.caseHash) (.valueError "stored case hash mismatch")
  refuse (row.positionCaseId ≠ "" ∧ case.caseId ≠ row.positionCaseId)
    (.valueError ("stored case id mismatch: " ++ case.caseId ++ " != " ++ row.positionCaseId))
  refuse (case.positionEventHash ≠ some event.eventHash)
    (.valueError ("event hash linkage mismatch: " ++ case.positionEventHash.getD "None" ++ " != "
      ++ event.eventHash))
  refuse (case.caseId ≠ "pos-" ++ event.eventId)
    (.valueError ("case_id linkage mismatch: " ++ case.caseId ++ " != pos-" ++ event.eventId))
  refuse (case.symbol ≠ event.symbol) (.valueError "position case symbol mismatch")

/-! ### Admissions -/

/-- `_AnalysisAdmission`. -/
structure Admission (Context : Type) where
  authorityJson : Authority
  authorityHash : String
  admissionHash : String
  caseJson : CasePackage Context
  eventJson : PositionEvent
  providerCompleted : Bool

/-- `_verify_admission`; returns the stored authority and the two hashes. -/
def verifyAdmission (content : Content Context) (row : Dispatch Context) (event : PositionEvent)
    (case : CasePackage Context) : Except Fault (Authority × String × String) := do
  match row.dispatchAuthorityJson with
  | none => throw (.valueError "invalid dispatch capsule")
  | some capsule =>
    refuse (capsule.leaseToken = "") (.valueError "missing admitting lease")
    let expected := dispatchAuthority event case capsule.leaseToken
    let authorityHash := content.authorityHash expected
    let admissionHash := content.admissionHash authorityHash
    refuse (capsule ≠ expected ∨ row.dispatchAuthorityHash ≠ authorityHash ∨
      row.analysisAdmissionHash ≠ admissionHash)
      (.valueError "analysis admission authority mismatch")
    pure (expected, authorityHash, admissionHash)

def readmit (content : Content Context) (store : Store Context) (event : PositionEvent)
    (row : Dispatch Context) (case : CasePackage Context) :
    Except Fault (Store Context × Admission Context) := do
  let (authority, authorityHash, admissionHash) ← verifyAdmission content row event case
  refuse (row.analysisCompleted = false)
    (.valueError "uncertain admitted analysis requires manual recovery")
  pure (store, ⟨authority, authorityHash, admissionHash, case, event, true⟩)

/-- The columns that the minting statement asks for. -/
def Mintable (case : CasePackage Context) (leaseToken : String) (now : Int)
    (row : Dispatch Context) : Prop :=
  row.Held leaseToken now ∧ row.analysisAdmissionHash = "" ∧ row.dispatchAuthorityHash = "" ∧
    row.dispatchAuthorityJson = none ∧ row.Frozen case

instance (case : CasePackage Context) (leaseToken : String) (now : Int) :
    DecidablePred (Mintable case leaseToken now) := fun _ => inferInstanceAs (Decidable (_ ∧ _))

def admitFresh (content : Content Context) (store : Store Context) (eventId : String)
    (event : PositionEvent) (row : Dispatch Context) (case : CasePackage Context)
    (leaseToken : String) (now leaseMs : Int) :
    Except Fault (Store Context × Admission Context) := do
  refuse (row.dispatchAuthorityJson ≠ none ∨ row.dispatchAuthorityHash ≠ "" ∨
    row.analysisCompleted = true) (.valueError "partial analysis admission")
  let authority := dispatchAuthority event case leaseToken
  let authorityHash := content.authorityHash authority
  refuse (¬ Mintable case leaseToken now row) (.keyError "analysis admission lease lost")
  pure (store.update eventId (Mintable case leaseToken now)
      (Dispatch.admitted content authority now leaseMs),
    ⟨authority, authorityHash, content.admissionHash authorityHash, case, event, false⟩)

def mintAnalysisAdmission (content : Content Context) (store : Store Context)
    (eventId leaseToken expectedEventHash expectedSymbol : String) (case : CasePackage Context)
    (now leaseMs : Int) : Except Fault (Store Context × Admission Context) := do
  let (event, row) ← verifyDurableAuthority content store eventId leaseToken expectedEventHash
    expectedSymbol (some case) (some now)
  refuse (¬ row.Frozen case) (.valueError "incomplete frozen case authority")
  if row.analysisAdmissionHash ≠ "" then readmit content store event row case
  else admitFresh content store eventId event row case leaseToken now leaseMs

/-- The columns that the completing statement asks for. -/
def Completable (admission : Admission Context) (leaseToken : String) (now : Int)
    (row : Dispatch Context) : Prop :=
  row.Held leaseToken now ∧ row.Frozen admission.caseJson ∧
    row.dispatchAuthorityJson = some admission.authorityJson ∧
    row.dispatchAuthorityHash = admission.authorityHash ∧
    row.analysisAdmissionHash = admission.admissionHash

instance (admission : Admission Context) (leaseToken : String) (now : Int) :
    DecidablePred (Completable admission leaseToken now) :=
  fun _ => inferInstanceAs (Decidable (_ ∧ _))

def completeAnalysis (content : Content Context) (store : Store Context)
    (admission : Admission Context) (leaseToken : String) (now : Int) :
    Except Fault (Store Context × PositionEvent) := do
  let (event, row) ← verifyDurableAuthority content store admission.eventJson.eventId leaseToken
    admission.eventJson.eventHash admission.eventJson.symbol (some admission.caseJson) (some now)
  let current ← verifyAdmission content row event admission.caseJson
  refuse (current ≠ (admission.authorityJson, admission.authorityHash, admission.admissionHash) ∨
    event ≠ admission.eventJson ∨ row.caseHash ≠ admission.caseJson.caseHash)
    (.valueError "admitted analysis authority changed")
  refuse (¬ Completable admission leaseToken now row) (.keyError "analysis completion lease lost")
  pure (store.update event.eventId (Completable admission leaseToken now)
    (Dispatch.completed now), event)

end QuantAgent.Supervisor
