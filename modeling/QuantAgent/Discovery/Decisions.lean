/-
This file embeds the reconstruction of a decision together with its outcome, and proves that the
caches of a process do not show: a call returns or raises what would be worked out anew from the
same bars. Outside of a session only the part before the fit is cached; a session also keeps the
outcomes and the decisions. Times are decision hours; a source is named by the hash of its evidence.
-/

import QuantAgent.Discovery.Causality

namespace QuantAgent.Discovery

variable {Number Finite : Type} [LinearOrder Finite] [Arithmetic Number Finite]

open Arithmetic

/-! ### Outcomes -/

def Partition.supportEnd : Partition → ℤ
  | wf1Train => 463128
  | wf1Calibration => 465336

inductive DecisionFault where
  | prefit (fault : Fault)
  /-- `missing source-bound entry or unauthorized support endpoint`. -/
  | unsupportedEntry
  /-- `missing source-local outcome-support hour`. -/
  | missingSupportHour
  /-- The last bar of an empty path. -/
  | emptyPath

/-- What `state.outcomes` holds: the return, the two prices and the path between them. -/
structure Outcome (Number : Type) where
  rH : Number
  p0 : Number
  ch : Number
  path : List (Bar Number)

structure Decision (Number : Type) where
  timestamp : ℤ
  product : String
  regimeState : RegimeState
  opportunityState : OpportunityState
  rawScore : Number
  secondaryFilterState : String
  suppliedPUp : Option Number := none
  suppliedAction : Option String := none
  rH : Number
  suppliedRNet : Option Number := none
  p0 : Number
  ch : Number
  path : List (Bar Number)

/-- A decision to derive: the query of its prefit, and the hours until its exit. -/
structure Request extends Query where
  horizonHours : ℤ

def Request.decision (request : Request) (prefit : Prefit Number) (outcome : Outcome Number) :
    Decision Number where
  timestamp := request.t
  product := request.product
  regimeState := prefit.regimeState
  opportunityState := prefit.opportunityState
  rawScore := prefit.score
  secondaryFilterState := prefit.secondaryFilterState
  rH := outcome.rH
  p0 := outcome.p0
  ch := outcome.ch
  path := outcome.path

def outcomeOf (bars : BarTable Number) (partition : Partition) (t : ℤ) (product : String)
    (horizonHours : ℤ) : Except DecisionFault (Outcome Number) :=
  match bars.lookup (t, product) with
  | none => .error .unsupportedEntry
  | some first =>
    if partition.supportEnd ≤ t + (horizonHours - 1) then .error .unsupportedEntry
    else
      match (List.range horizonHours.toNat).mapM fun index : ℕ =>
          bars.lookup (t + index, product) with
      | none => .error .missingSupportHour
      | some path =>
        match path.getLast? with
        | none => .error .emptyPath
        | some last => do
          let rH ← (logarithm (div last.close first.openPrice)).mapError .prefit
          .ok { rH, p0 := first.openPrice, ch := last.close, path }

/-! ### Caches -/

structure DecisionKey where
  sourceEvidenceHash : String
  contract : String
  partition : Partition
  timestamp : ℤ
  product : String
  horizonHours : ℤ
  deriving DecidableEq

structure OutcomeKey where
  sourceEvidenceHash : String
  partition : Partition
  timestamp : ℤ
  product : String
  horizonHours : ℤ
  deriving DecidableEq

/-- `raw_key`. -/
def Request.key (request : Request) : DecisionKey :=
  ⟨request.sourceEvidenceHash, request.directionContract ++ ":" ++ request.horizon,
    request.partition, request.t, request.product, request.horizonHours⟩

def Request.outcomeKey (request : Request) : OutcomeKey :=
  ⟨request.sourceEvidenceHash, request.partition, request.t, request.product,
    request.horizonHours⟩

/-- The caches of a session. -/
structure ReconstructionState (Number Finite : Type) where
  caches : Caches Number Finite := {}
  decisions : Memo DecisionKey (Decision Number) := []
  outcomes : Memo OutcomeKey (Outcome Number) := []

section

variable (bars : BarTable Number) (fallback : Memo PrefitKey (Prefit Number))

/-- `_derive_source_decision` outside of all sessions; the fallback is what is cached there. -/
def deriveOutside (request : Request) :
    Work (Caches Number Finite) DecisionFault (Decision Number) := do
  let prefit ← Work.within id (fun caches _ => caches) .prefit
    (reconstructPrefitCached fallbackLimits bars fallback request.toQuery)
  let outcome ← Work.of
    (outcomeOf bars request.partition request.t request.product request.horizonHours)
  pure (request.decision prefit outcome)

/-- `state.decisions[raw_key] = result`. -/
def keepDecision (request : Request) (decision : Decision Number) :
    Work (ReconstructionState Number Finite) DecisionFault (Decision Number) := do
  modify fun state => { state with
    decisions := (state.decisions.trim (some 524288)).remember request.key decision }
  pure decision

/-- `_derive_source_decision` in a session. -/
def deriveInSession (request : Request) :
    Work (ReconstructionState Number Finite) DecisionFault (Decision Number) := do
  let prefit ← Work.within ReconstructionState.caches
    (fun caches state => { state with caches }) .prefit
    (reconstructPrefitCached sessionLimits bars fallback request.toQuery)
  Work.findOr (fun state => state.decisions.answer request.key) do
    let outcome ← Work.findOr (fun state => state.outcomes.answer request.outcomeKey) do
      let outcome ← Work.of
        (outcomeOf bars request.partition request.t request.product request.horizonHours)
      modify fun state => { state with
        outcomes := (state.outcomes.trim (some 131072)).remember request.outcomeKey outcome }
      pure outcome
    keepDecision request (request.decision prefit outcome)

end

/-! ### Processes -/

/-- The caches of a process: outside of all sessions, and of the sessions, the innermost first. -/
structure DecisionProcess (Number Finite : Type) where
  fallback : Caches Number Finite := {}
  sessions : List (ReconstructionState Number Finite) := []

inductive DecisionCall where
  | openSession
  | closeSession
  | clearPrefitCaches
  | deriveSourceDecision (request : Request)

namespace DecisionProcess

variable (tables : String → BarTable Number) (process : DecisionProcess Number Finite)

/-- What a call returns or raises, and the process after it. -/
def deriveSourceDecision (request : Request) :
    Except DecisionFault (Decision Number) × DecisionProcess Number Finite :=
  let bars := tables request.sourceEvidenceHash
  match process.sessions with
  | [] =>
    let (outcome, caches) := (deriveOutside bars process.fallback.prefit request).start
      process.fallback
    (outcome, { process with fallback := caches })
  | current :: others =>
    let (outcome, state) :=
      (deriveInSession bars process.fallback.prefit request).start current
    (outcome, { process with sessions := state :: others })

def step : DecisionCall → DecisionProcess Number Finite
  | .openSession => { process with sessions := {} :: process.sessions }
  | .closeSession => { process with sessions := process.sessions.tail }
  | .clearPrefitCaches => { fallback := {}, sessions := process.sessions.modifyHead fun _ => {} }
  | .deriveSourceDecision request => (process.deriveSourceDecision tables request).2

def after (calls : List DecisionCall) : DecisionProcess Number Finite :=
  Runs.run (step tables) {} calls

end DecisionProcess

/-! ### Without caches -/

def decisionOf (bars : BarTable Number) (request : Request) :
    Except DecisionFault (Decision Number) := do
  let prefit ← (uncached bars request.toQuery).mapError .prefit
  let outcome ← outcomeOf bars request.partition request.t request.product request.horizonHours
  .ok (request.decision prefit outcome)

section

variable {bars : BarTable Number} {request : Request} {prefit : Prefit Number}
  {outcome : Outcome Number}

theorem decisionOf_of_prefit_error {fault : Fault}
    (failed : uncached bars request.toQuery = .error fault) :
    decisionOf bars request = .error (.prefit fault) := by
  unfold decisionOf
  rw [failed]
  rfl

theorem decisionOf_of_outcome_error {fault : DecisionFault}
    (known : uncached bars request.toQuery = .ok prefit)
    (failed : outcomeOf bars request.partition request.t request.product request.horizonHours =
      .error fault) : decisionOf bars request = .error fault := by
  unfold decisionOf
  rw [known, failed]
  rfl

theorem decisionOf_of_outcome (known : uncached bars request.toQuery = .ok prefit)
    (came : outcomeOf bars request.partition request.t request.product request.horizonHours =
      .ok outcome) : decisionOf bars request = .ok (request.decision prefit outcome) := by
  unfold decisionOf
  rw [known, came]
  rfl

theorem uncached_eq_ok (known : uncached bars request.toQuery = .ok prefit) :
    prefitOf bars request.directionContract request.partition request.t request.product =
      .ok prefit := by
  unfold uncached at known
  split at known
  · cases known
  · exact known

end

/-! ### The caches hold what would be worked out anew -/

variable (tables : String → BarTable Number)

def RightOutcome (key : OutcomeKey) (outcome : Outcome Number) : Prop :=
  outcomeOf (tables key.sourceEvidenceHash) key.partition key.timestamp key.product
    key.horizonHours = .ok outcome

def RightDecision (key : DecisionKey) (decision : Decision Number) : Prop :=
  ∃ contract horizon prefit outcome, ':' ∉ horizon.toList ∧
    key.contract = contract ++ ":" ++ horizon ∧
    prefitOf (tables key.sourceEvidenceHash) contract key.partition key.timestamp key.product =
      .ok prefit ∧
    outcomeOf (tables key.sourceEvidenceHash) key.partition key.timestamp key.product
      key.horizonHours = .ok outcome ∧
    ∀ request : Request, request.key = key → decision = request.decision prefit outcome

structure RightState (state : ReconstructionState Number Finite) : Prop where
  caches : RightCaches tables state.caches
  decisions : state.decisions.Faithful (RightDecision tables)
  outcomes : state.outcomes.Faithful (RightOutcome tables)

variable {tables}

theorem RightState.empty : RightState tables {} :=
  ⟨.empty, Memo.Faithful.nil, Memo.Faithful.nil⟩

variable {request : Request}

theorem RightState.decision_of_key {state : ReconstructionState Number Finite}
    {prefit : Prefit Number} {decision : Decision Number} (right : RightState tables state)
    (known : uncached (tables request.sourceEvidenceHash) request.toQuery = .ok prefit)
    (found : state.decisions.answer request.key = some decision) :
    decisionOf (tables request.sourceEvidenceHash) request = .ok decision := by
  obtain ⟨contract, horizon, other, outcome, absent, same, worked, came, kept⟩ :=
    right.decisions.answer found
  obtain rfl := contract_of_key (horizon_no_colon request.toQuery) absent same
  obtain rfl : prefit = other := Except.ok.inj ((uncached_eq_ok known).symm.trans worked)
  rw [decisionOf_of_outcome known came, kept request rfl]

theorem rightDecision_of_outcome {prefit : Prefit Number} {outcome : Outcome Number}
    (known : uncached (tables request.sourceEvidenceHash) request.toQuery = .ok prefit)
    (came : outcomeOf (tables request.sourceEvidenceHash) request.partition request.t
      request.product request.horizonHours = .ok outcome) :
    RightDecision tables request.key (request.decision prefit outcome) := by
  refine ⟨request.directionContract, request.horizon, prefit, outcome,
    horizon_no_colon request.toQuery, rfl, uncached_eq_ok known, came, fun other same => ?_⟩
  -- of a request only the hour and the product go into its decision
  have hour : other.t = request.t := congrArg DecisionKey.timestamp same
  have product : other.product = request.product := congrArg DecisionKey.product same
  unfold Request.decision
  rw [hour, product]

open Work

variable {fallback : Memo PrefitKey (Prefit Number)}

abbrev prefitOutcome (tables : String → BarTable Number) (request : Request) :
    Except DecisionFault (Prefit Number) :=
  (uncached (tables request.sourceEvidenceHash) request.toQuery).mapError .prefit

theorem decisionOf_of_prefitOutcome_error {fault : DecisionFault}
    (failed : Except.error fault = prefitOutcome tables request) :
    .error fault = decisionOf (tables request.sourceEvidenceHash) request := by
  obtain ⟨cause, raised, rfl⟩ := mapError_eq_error.mp failed.symm
  exact (decisionOf_of_prefit_error raised).symm

theorem deriveOutside_comes (others : fallback.Faithful (RightPrefit tables)) (request : Request) :
    Comes (RightCaches tables)
      (deriveOutside (tables request.sourceEvidenceHash) fallback request)
      (· = decisionOf (tables request.sourceEvidenceHash) request) := by
  have prefits : Comes (RightCaches tables) _ (· = prefitOutcome tables request) :=
    (reconstructPrefitCached_comes fallbackLimits others request.toQuery).within
      (fun caches _ => caches) (fun _ right => right) (fun _ _ right _ => right)
      fun outcome came => congrArg (Except.mapError DecisionFault.prefit) came
  refine prefits.bind (fun prefit came => ?_) fun _ => decisionOf_of_prefitOutcome_error
  have known := mapError_eq_ok.mp came.symm
  refine (comes_of rfl).bind (fun outcome worked => ?_) fun fault failed =>
    (decisionOf_of_outcome_error known failed).symm
  exact comes_pure (decisionOf_of_outcome known worked).symm

theorem outcome_comes (request : Request) :
    Comes (RightState tables)
      (Work.findOr (fun state => state.outcomes.answer request.outcomeKey) do
        let outcome ← Work.of (outcomeOf (tables request.sourceEvidenceHash) request.partition
          request.t request.product request.horizonHours)
        modify fun state : ReconstructionState Number Finite => { state with
          outcomes := (state.outcomes.trim (some 131072)).remember request.outcomeKey outcome }
        pure outcome)
      (· = outcomeOf (tables request.sourceEvidenceHash) request.partition request.t
        request.product request.horizonHours) := by
  refine comes_findOr (fun state outcome right found =>
    (right.outcomes.answer found).symm) ?_
  refine (comes_of rfl).bind (fun outcome worked => ?_) fun _ failed => failed.symm
  refine comes_modify_bind (fun state right => ?_) (comes_pure worked.symm)
  exact { right with outcomes := (right.outcomes.trim _).remember worked }

theorem deriveInSession_comes (others : fallback.Faithful (RightPrefit tables))
    (request : Request) :
    Comes (RightState tables)
      (deriveInSession (tables request.sourceEvidenceHash) fallback request)
      (· = decisionOf (tables request.sourceEvidenceHash) request) := by
  have prefits : Comes (RightState tables) _ (· = prefitOutcome tables request) :=
    (reconstructPrefitCached_comes sessionLimits others request.toQuery).within
      (fun caches state => { state with caches }) (fun _ right => right.caches)
      (fun _ _ caches right => { right with caches })
      fun outcome came => congrArg (Except.mapError DecisionFault.prefit) came
  refine prefits.bind (fun prefit came => ?_) fun _ => decisionOf_of_prefitOutcome_error
  have known := mapError_eq_ok.mp came.symm
  refine comes_findOr (fun state decision right found =>
    (right.decision_of_key known found).symm) ?_
  refine (outcome_comes request).bind (fun outcome worked => ?_) fun fault failed =>
    (decisionOf_of_outcome_error known failed.symm).symm
  refine comes_modify_bind (fun state right => ?_)
    (comes_pure (decisionOf_of_outcome known worked.symm).symm)
  exact { right with
    decisions := (right.decisions.trim _).remember (rightDecision_of_outcome known worked.symm) }

/-! ### Processes -/

structure DecisionProcess.Right (tables : String → BarTable Number)
    (process : DecisionProcess Number Finite) : Prop where
  fallback : RightCaches tables process.fallback
  sessions : ∀ state ∈ process.sessions, RightState tables state

namespace DecisionProcess

variable {process : DecisionProcess Number Finite}

theorem Right.derived (right : process.Right tables) (request : Request) :
    (process.deriveSourceDecision tables request).1 =
        decisionOf (tables request.sourceEvidenceHash) request ∧
      (process.deriveSourceDecision tables request).2.Right tables := by
  unfold deriveSourceDecision
  cases sessions : process.sessions with
  | nil =>
    obtain ⟨comes, kept⟩ :=
      deriveOutside_comes right.fallback.prefit request process.fallback right.fallback
    exact ⟨comes, kept, fun _ member => absurd member List.not_mem_nil⟩
  | cons current others =>
    have each := right.sessions
    rw [sessions] at each
    obtain ⟨first, rest⟩ := List.forall_mem_cons.mp each
    obtain ⟨comes, kept⟩ :=
      deriveInSession_comes right.fallback.prefit request current first
    exact ⟨comes, right.fallback, List.forall_mem_cons.mpr ⟨kept, rest⟩⟩

theorem Right.step (right : process.Right tables) (call : DecisionCall) :
    (process.step tables call).Right tables := by
  cases call with
  | openSession => exact ⟨right.fallback, List.forall_mem_cons.mpr ⟨.empty, right.sessions⟩⟩
  | closeSession =>
    exact ⟨right.fallback, fun state member => right.sessions state (List.mem_of_mem_tail member)⟩
  | clearPrefitCaches =>
    refine ⟨.empty, ?_⟩
    show ∀ state ∈ process.sessions.modifyHead _, _
    have each := right.sessions
    cases sessions : process.sessions with
    | nil => exact fun _ member => absurd member List.not_mem_nil
    | cons current others =>
      rw [sessions] at each
      exact List.forall_mem_cons.mpr ⟨.empty, (List.forall_mem_cons.mp each).2⟩
  | deriveSourceDecision request => exact (right.derived request).2

end DecisionProcess

theorem decisionProcess_right (tables : String → BarTable Number) (calls : List DecisionCall) :
    (DecisionProcess.after tables calls : DecisionProcess Number Finite).Right tables :=
  have start : (({} : DecisionProcess Number Finite)).Right tables :=
    ⟨.empty, fun _ member => absurd member List.not_mem_nil⟩
  (Runs.throughout_of_keeps (fun _ call right => right.step call) start calls).last

/-- After any calls, in or outside of any sessions, a call returns or raises what an uncached
computation from the bars of its source does. -/
theorem caches_transparent (tables : String → BarTable Number) (calls : List DecisionCall)
    (request : Request) :
    ((DecisionProcess.after tables calls : DecisionProcess Number Finite).deriveSourceDecision
      tables request).1 = decisionOf (tables request.sourceEvidenceHash) request :=
  ((decisionProcess_right tables calls).derived request).1

end QuantAgent.Discovery
