/-
This file embeds `drain_pending_dispatches` as the steps of a worker, one for each transaction and
each call that leaves the process, and the system of any number of such workers over one database.

A worker may crash between any two of its steps, and the clock, the lease tokens, the market case
and the answer of the analysis are whatever the step is given.
-/

import QuantAgent.Library.Runs
import QuantAgent.Supervisor.Dispatch

namespace QuantAgent.Supervisor

variable {Context : Type} [DecidableEq Context]

/-! ### A worker -/

/-- What a worker remembers of the row it claimed. -/
structure Claim where
  eventId : String
  eventHash : String
  symbol : String
  leaseToken : String

/-- Where a call of the drain loop is, named by its next step. -/
inductive Phase (Context : Type) where
  | idle
  | claiming
  | verifying (claim : Claim)
  | requesting (claim : Claim)
  | fetching (claim : Claim) (event : PositionEvent)
  | confirming (claim : Claim) (case : CasePackage Context)
  | freezing (claim : Claim) (case : CasePackage Context)
  | minting (claim : Claim) (case : CasePackage Context)
  | analyzing (claim : Claim) (admission : Admission Context)
  | awaiting (claim : Claim) (admission : Admission Context)
  | completing (claim : Claim) (admission : Admission Context)
  | failing (claim : Claim)
  | postponing (claim : Claim) (mismatch : Bool)
  | refusing (claim : Claim)
  | abandoning (claim : Claim)
  | returned
  | crashed

structure Call (Context : Type) where
  nowMs : Int := 0
  leaseMs : Int := 0
  maxRetries : Int := 0
  dispatchedEvents : List PositionEvent := []
  phase : Phase Context := .idle

/-- What a step reads from outside the database. -/
structure Input (Context : Type) where
  clock : Int
  token : String
  choice : ℕ
  market : Except Fault (CasePackage Context)
  analysis : Except Fault Unit

/-- What a worker did with the analysis of an event. -/
inductive Act where
  | minted (token : String)
  | analyzed
  | answered
  | completed (token : String)
  deriving DecidableEq

structure Note where
  eventId : String
  worker : ℕ
  act : Act

/-- Outcome of a step. -/
structure Turn (Context : Type) where
  store : Store Context
  call : Call Context
  notes : List Note := []

namespace Call

variable (content : Content Context) (worker : ℕ) (store : Store Context) (call : Call Context)
  (input : Input Context)

/-- Go on in another phase. -/
def become (phase : Phase Context) : Call Context := { call with phase := phase }

def candidate (claimNow : Int) (choice : ℕ) : Option (Dispatch Context) :=
  let claimable := store.dispatches.rows.filter fun row => row.Claimable claimNow
  let oldest := claimable.filter fun row =>
    ∀ other ∈ claimable, row.createdAtMs ≤ other.createdAtMs
  oldest[choice % oldest.length]?

def claimNext : Turn Context :=
  match candidate store input.clock input.choice with
  | none => ⟨store, call.become .returned, []⟩
  | some row =>
    if row.Uncertain ∨ call.maxRetries ≤ row.retryCount then
      ⟨store.update row.eventId (fun _ => True) (Dispatch.failed input.clock),
        call.become .claiming, []⟩
    else
      ⟨store.update row.eventId (Dispatch.Claimable input.clock)
          (Dispatch.claimed input.token input.clock call.leaseMs),
        call.become (.verifying ⟨row.eventId, row.eventHash, row.symbol, input.token⟩), []⟩

/-- After a failed checkpoint: a lost lease ends the call, anything else fails the dispatch. -/
def afterFault (claim : Claim) : Fault → Phase Context
  | .keyError _ => .returned
  | .valueError _ => .failing claim

def checkpoint (claim : Claim) (posCase : Option (CasePackage Context)) :
    Except Fault (PositionEvent × Dispatch Context) :=
  verifyDurableAuthority content store claim.eventId claim.leaseToken claim.eventHash claim.symbol
    posCase none

def verify (claim : Claim) : Phase Context :=
  match checkpoint content store claim none with
  | .error fault => afterFault claim fault
  | .ok (event, row) =>
    match row.positionCaseJson with
    | none => .requesting claim
    | some case =>
      match checkStoredCase content event row case with
      | .ok () => .minting claim case
      | .error _ => .failing claim

def request (claim : Claim) : Phase Context :=
  match checkpoint content store claim none with
  | .error fault => afterFault claim fault
  | .ok (event, _) => .fetching claim event

/-- The call of `fresh_market_case` and the case that is made of it. -/
def fetch (claim : Claim) (event : PositionEvent) : Phase Context :=
  match materialize content input.market event with
  | .ok case => .confirming claim case
  | .error fault => .postponing claim (fault = symbolMismatch)

def confirm (claim : Claim) (case : CasePackage Context) : Phase Context :=
  match checkpoint content store claim (some case) with
  | .error fault => afterFault claim fault
  | .ok _ => .freezing claim case

/-- What the freezing statement asks of the row. -/
def Freezable (claim : Claim) (now : Int) (row : Dispatch Context) : Prop :=
  row.eventHash = claim.eventHash ∧ row.symbol = claim.symbol ∧ row.Held claim.leaseToken now ∧
    row.positionCaseJson = none

instance (claim : Claim) (now : Int) :
    DecidablePred (Freezable claim now : Dispatch Context → Prop) :=
  fun _ => inferInstanceAs (Decidable (_ ∧ _))

def freeze (claim : Claim) (case : CasePackage Context) : Turn Context :=
  if ∃ row ∈ store.dispatches.lookup claim.eventId, Freezable claim input.clock row then
    ⟨store.update claim.eventId (Freezable claim input.clock)
        (Dispatch.frozen case input.clock), call.become (.minting claim case), []⟩
  else ⟨store, call.become .returned, []⟩

def mint (claim : Claim) (case : CasePackage Context) : Turn Context :=
  match mintAnalysisAdmission content store claim.eventId claim.leaseToken claim.eventHash
    claim.symbol case input.clock call.leaseMs with
  | .error (.keyError _) => ⟨store, call.become .returned, []⟩
  | .error (.valueError _) => ⟨store, call.become (.refusing claim), []⟩
  | .ok (store, admission) =>
    if admission.providerCompleted then ⟨store, call.become (.completing claim admission), []⟩
    else ⟨store, call.become (.analyzing claim admission),
      [⟨claim.eventId, worker, .minted claim.leaseToken⟩]⟩

/-- The call of `analyze_case`. -/
def analyze (claim : Claim) (admission : Admission Context) : Turn Context :=
  ⟨store, call.become (.awaiting claim admission), [⟨claim.eventId, worker, .analyzed⟩]⟩

/-- The return of `analyze_case`. -/
def receive (claim : Claim) (admission : Admission Context) : Turn Context :=
  match input.analysis with
  | .ok () => ⟨store, call.become (.completing claim admission),
      [⟨claim.eventId, worker, .answered⟩]⟩
  | .error (.keyError _) => ⟨store, call.become .returned, []⟩
  | .error (.valueError _) => ⟨store, call.become (.abandoning claim), []⟩

def complete (claim : Claim) (admission : Admission Context) : Turn Context :=
  match completeAnalysis content store admission claim.leaseToken input.clock with
  | .error (.keyError _) => ⟨store, call.become .returned, []⟩
  | .error (.valueError _) => ⟨store, call.become (.abandoning claim), []⟩
  | .ok (store, event) =>
    ⟨store, { call with dispatchedEvents := call.dispatchedEvents ++ [event], phase := .claiming },
      [⟨claim.eventId, worker, .completed claim.leaseToken⟩]⟩

/-- What the last two failing statements ask of the row. -/
def InFlight (claim : Claim) (row : Dispatch Context) : Prop :=
  row.state = .dispatching ∧ row.Leased claim.leaseToken

instance (claim : Claim) : DecidablePred (InFlight claim : Dispatch Context → Prop) :=
  fun _ => inferInstanceAs (Decidable (_ ∧ _))

/-- One step of `drain_pending_dispatches`. -/
def advance : Turn Context :=
  match call.phase with
  | .idle | .returned | .crashed => ⟨store, call, []⟩
  | .claiming => claimNext store call input
  | .verifying claim => ⟨store, call.become (verify content store claim), []⟩
  | .requesting claim => ⟨store, call.become (request content store claim), []⟩
  | .fetching claim event => ⟨store, call.become (fetch content input claim event), []⟩
  | .confirming claim case => ⟨store, call.become (confirm content store claim case), []⟩
  | .freezing claim case => freeze store call input claim case
  | .minting claim case => mint content worker store call input claim case
  | .analyzing claim admission => analyze worker store call claim admission
  | .awaiting claim admission => receive worker store call input claim admission
  | .completing claim admission => complete content worker store call input claim admission
  | .failing claim =>
    ⟨store.update claim.eventId (Dispatch.Leased claim.leaseToken) (Dispatch.failed call.nowMs),
      call.become .claiming, []⟩
  | .postponing claim mismatch =>
    ⟨store.update claim.eventId (Dispatch.Leased claim.leaseToken)
        (Dispatch.postponed mismatch call.maxRetries call.nowMs), call.become .claiming, []⟩
  | .refusing claim =>
    ⟨store.update claim.eventId (InFlight claim) (Dispatch.failed call.nowMs),
      call.become .claiming, []⟩
  | .abandoning claim =>
    ⟨store.update claim.eventId (InFlight claim) (Dispatch.abandoned call.nowMs),
      call.become .claiming, []⟩

end Call

/-! ### The system -/

/-- The database, the calls by number, and what was done with the analyses, oldest first. -/
structure Service (Context : Type) where
  store : Store Context := {}
  calls : ℕ → Call Context := fun _ => {}
  log : List Note := []

inductive Event (Context : Type) where
  | evaluate (events : List PositionEvent) (nowMs : Int)
  | start (worker : ℕ) (nowMs leaseMs maxRetries : Int)
  | advance (worker : ℕ) (input : Input Context)
  | crash (worker : ℕ)

namespace Service

variable (content : Content Context)

def evaluate (service : Service Context) (events : List PositionEvent) (nowMs : Int) :
    Service Context :=
  { service with store := service.store.evaluate events nowMs }

/-- A new call of `drain_pending_dispatches`, under a number that is not in use. -/
def start (service : Service Context) (worker : ℕ) (nowMs leaseMs maxRetries : Int) :
    Service Context :=
  match (service.calls worker).phase with
  | .idle =>
    { service with
      calls := Function.update service.calls worker
        { nowMs := nowMs, leaseMs := leaseMs, maxRetries := maxRetries, phase := .claiming } }
  | _ => service

def advance (service : Service Context) (worker : ℕ) (input : Input Context) : Service Context :=
  let turn := (service.calls worker).advance content worker service.store input
  { store := turn.store
    calls := Function.update service.calls worker turn.call
    log := service.log ++ turn.notes }

def crash (service : Service Context) (worker : ℕ) : Service Context :=
  { service with
    calls := Function.update service.calls worker ((service.calls worker).become .crashed) }

def step (service : Service Context) : Event Context → Service Context
  | .evaluate events nowMs => service.evaluate events nowMs
  | .start worker nowMs leaseMs maxRetries => service.start worker nowMs leaseMs maxRetries
  | .advance worker input => service.advance content worker input
  | .crash worker => service.crash worker

/-- What was done with the analysis of the event, oldest first. -/
def history (service : Service Context) (eventId : String) : List (ℕ × Act) :=
  (service.log.filter fun note => note.eventId = eventId).map fun note => (note.worker, note.act)

end Service

end QuantAgent.Supervisor
