/-
This file embeds the reconstruction of a discovery decision before any fit: its score, regime state
and opportunity state, with the caches of a process that work them out once. A source is named by
the hash of its evidence, and the bars given for a hash are always the same.
-/

import QuantAgent.Library.Memo
import QuantAgent.Library.Runs
import QuantAgent.Discovery.Percentiles

namespace QuantAgent.Discovery

/-! ### Decisions -/

inductive Partition where
  | wf1Train
  | wf1Calibration
  deriving DecidableEq

inductive PrimaryHorizon where
  | fourHours
  | eightHours
  | twelveHours
  deriving DecidableEq

def PrimaryHorizon.text : PrimaryHorizon → String
  | fourHours => "4h"
  | eightHours => "8h"
  | twelveHours => "12h"

/-- The part of a configuration slot that is read here. -/
structure Slot where
  directionContractId : String
  directionVariant : String
  primaryHorizon : PrimaryHorizon
  secondaryFilterContractId : String := "NONE"

/-- A candidate is named by a digest, in hexadecimal. -/
structure Candidate where
  id : String
  digest : ':' ∉ id.toList

/-- A decision to reconstruct; times are hours. -/
structure Query where
  candidate : Candidate
  slot : Option Slot
  partition : Partition
  t : ℤ
  product : String
  sourceEvidenceHash : String

namespace Query

variable (query : Query)

def directionContract : String :=
  query.slot.elim "D1_V1_RETURN_4H" fun slot =>
    if slot.directionContractId = "" then slot.directionVariant else slot.directionContractId

def horizon : String := query.slot.elim "4h" fun slot => slot.primaryHorizon.text

def secondaryFilter : String :=
  query.slot.elim "NONE" fun slot =>
    if slot.secondaryFilterContractId = "" then "NONE" else slot.secondaryFilterContractId

end Query

inductive RegimeState where
  | unavailable
  | volLow
  | volMid
  | volHigh
  deriving DecidableEq

inductive OpportunityState where
  | none
  | watch
  | eligible
  deriving DecidableEq

structure Prefit (Number : Type) where
  score : Number
  regimeState : RegimeState
  opportunityState : OpportunityState
  secondaryFilterState : String := "PASS"

variable {Number Finite : Type} [LinearOrder Finite] [Arithmetic Number Finite]

open Arithmetic

/-! ### What is worked out -/

section

variable (bars : BarTable Number) (t : ℤ) (product : String)

/-- `part in text`. -/
def contains (part text : String) : Bool := part.toList <:+: text.toList

def scoreOf (contract : String) : Except Fault Number :=
  if contains "D1_V1" contract then computeD1 bars t product 4
  else if contains "D1_V2" contract then computeD1 bars t product 12
  else if contains "D2_V1" contract then .ok (computeD2 bars t product 24)
  else if contains "D2_V2" contract then .ok (computeD2 bars t product 72)
  else if contains "D3_V1" contract then .ok (computeD3 bars t product 24)
  else if contains "D3_V2" contract then .ok (computeD3 bars t product 72)
  else .error (.unsupportedContract contract)

/-- The hour 2022-10-31T00:00:00Z. -/
def trainEnd : ℤ := 463104

def productTimes : List ℤ :=
  ((bars.keys.filter fun key => key.2 = product).image Prod.fst).sort (· ≤ ·)

def trainingTimes : List ℤ := (productTimes bars product).takeWhile (· < trainEnd)

structure References (Finite : Type) where
  rVol : List (ℤ × Finite)
  oRange : List (ℤ × Finite)

def trainingReferences : Except Fault (References Finite) := do
  let times := trainingTimes bars product
  let rVol ← times.mapM fun time => (computeRVolScalar bars time product).map fun scalar =>
    scalar.map fun value => (time, value)
  .ok { rVol := rVol.reduceOption
        oRange := times.filterMap fun time =>
          (computeORangeScalar bars time product).map fun value => (time, value) }

end

def regimeOf (percentile : Option (ℕ × Number)) : RegimeState :=
  match percentile with
  | none => .unavailable
  | some (count, rank) =>
    if count < 60 then .unavailable
    else if less rank (literal (40 / 100)) then .volLow
    else if less rank (literal (60 / 100)) then .volMid
    else .volHigh

def opportunityOf (percentile : Option (ℕ × Number)) : OpportunityState :=
  match percentile with
  | none => .none
  | some (count, rank) =>
    if count < 60 then .none
    else if less rank (literal (60 / 100)) then .none
    else if less rank (literal (80 / 100)) then .watch
    else .eligible

/-- The states of a decision; in training only the observations before it count. -/
def statesOf (bars : BarTable Number) (product : String)
    (rVol oRange : CausalPercentileIndex Finite) (partition : Partition) (t : ℤ) :
    Except Fault (RegimeState × OpportunityState) := do
  let time := if partition = .wf1Train then some t else none
  let rVolScalar ← computeRVolScalar bars t product
  let oRangeScalar := computeORangeScalar bars t product
  .ok (regimeOf (rVolScalar.map fun value => (rVol.query time value : ℕ × Number)),
    opportunityOf (oRangeScalar.map fun value => (oRange.query time value : ℕ × Number)))

/-! ### Caches -/

structure PrefitKey where
  sourceEvidenceHash : String
  contract : String
  partition : Partition
  t : ℤ
  product : String
  deriving DecidableEq

def Query.keyOf (query : Query) (contract : String) : PrefitKey :=
  ⟨query.sourceEvidenceHash, contract, query.partition, query.t, query.product⟩

def Query.key (query : Query) : PrefitKey :=
  query.keyOf (query.directionContract ++ ":" ++ query.horizon)

def Query.legacyKey (query : Query) : PrefitKey := query.keyOf query.candidate.id

structure SourcePercentiles (Finite : Type) where
  rVol : CausalPercentileIndex Finite
  oRange : CausalPercentileIndex Finite
  states : Memo (Partition × ℤ) (RegimeState × OpportunityState) := []

structure Caches (Number Finite : Type) where
  prefit : Memo PrefitKey (Prefit Number) := []
  trainingReferences : Memo (String × String) (References Finite) := []
  indices : Memo (String × String) (SourcePercentiles Finite) := []

/-- How many entries the caches hold. -/
structure Limits where
  prefit : ℕ
  states : ℕ
  trainingReferences : Option ℕ
  indices : Option ℕ

def fallbackLimits : Limits := ⟨8192, 8192, some 2, some 2⟩

def sessionLimits : Limits := ⟨524288, 131072, none, none⟩

section

variable (limits : Limits) (bars : BarTable Number)

/-- `_get_training_refs`. -/
def getTrainingReferences (key : String × String) :
    Work (Caches Number Finite) Fault (References Finite) :=
  Work.findOr (fun caches => caches.trainingReferences.answer key) do
    let references ← Work.of (trainingReferences bars key.2)
    modify fun caches => { caches with
      trainingReferences :=
        (caches.trainingReferences.trim limits.trainingReferences).remember key references }
    pure references

def getSourcePercentiles (key : String × String) :
    Work (Caches Number Finite) Fault (SourcePercentiles Finite) :=
  Work.findOr (fun caches => caches.indices.answer key) do
    modify fun caches => { caches with indices := caches.indices.trim limits.indices }
    let references ← getTrainingReferences limits bars key
    let indexed : SourcePercentiles Finite := ⟨.make references.rVol, .make references.oRange, []⟩
    modify fun caches => { caches with indices := caches.indices.remember key indexed }
    pure indexed

def getStates (key : String × String) (indexed : SourcePercentiles Finite) (partition : Partition)
    (t : ℤ) : Work (Caches Number Finite) Fault (RegimeState × OpportunityState) :=
  Work.findOr (fun _ => indexed.states.answer (partition, t)) do
    let states ← Work.of (statesOf bars key.2 indexed.rVol indexed.oRange partition t)
    modify fun caches => { caches with
      indices := caches.indices.modify key fun indexed => { indexed with
        states := (indexed.states.trim limits.states).remember (partition, t) states } }
    pure states

def cachedPrefit (fallback : Memo PrefitKey (Prefit Number)) (query : Query)
    (caches : Caches Number Finite) : Option (Prefit Number) :=
  ((caches.prefit.answer query.key).or (caches.prefit.answer query.legacyKey)).or
    ((fallback.answer query.key).or (fallback.answer query.legacyKey))

/-- `_reconstruct_prefit_cached`; the fallback is what is cached outside of all sessions. -/
def reconstructPrefitCached (fallback : Memo PrefitKey (Prefit Number)) (query : Query) :
    Work (Caches Number Finite) Fault (Prefit Number) :=
  if query.secondaryFilter ≠ "NONE" then
    Work.of (.error (.unsupportedFilter query.secondaryFilter))
  else Work.findOr (cachedPrefit fallback query) do
    let key := (query.sourceEvidenceHash, query.product)
    let score ← Work.of (scoreOf bars query.t query.product query.directionContract)
    let indexed ← getSourcePercentiles limits bars key
    let states ← getStates limits bars key indexed query.partition query.t
    let result : Prefit Number := { score, regimeState := states.1, opportunityState := states.2 }
    modify fun caches => { caches with
      prefit := (caches.prefit.trim limits.prefit).remember query.key result }
    pure result

end

/-! ### Processes -/

/-- The caches of a process: outside of all sessions, and of the sessions, the innermost first. -/
structure Process (Number Finite : Type) where
  fallback : Caches Number Finite := {}
  sessions : List (Caches Number Finite) := []

inductive Operation where
  | openSession
  | closeSession
  | clearPrefitCaches
  | reconstruct (query : Query)

namespace Process

variable (tables : String → BarTable Number) (process : Process Number Finite)

def reconstruct (query : Query) : Except Fault (Prefit Number) × Process Number Finite :=
  let bars := tables query.sourceEvidenceHash
  match process.sessions with
  | [] =>
    let (outcome, caches) := (reconstructPrefitCached fallbackLimits bars process.fallback.prefit
      query).start process.fallback
    (outcome, { process with fallback := caches })
  | current :: others =>
    let (outcome, caches) := (reconstructPrefitCached sessionLimits bars process.fallback.prefit
      query).start current
    (outcome, { process with sessions := caches :: others })

def step : Operation → Process Number Finite
  | .openSession => { process with sessions := {} :: process.sessions }
  | .closeSession => { process with sessions := process.sessions.tail }
  | .clearPrefitCaches => { fallback := {}, sessions := process.sessions.modifyHead fun _ => {} }
  | .reconstruct query => (process.reconstruct tables query).2

def after (operations : List Operation) : Process Number Finite :=
  Runs.run (step tables) {} operations

end Process

end QuantAgent.Discovery
