/-
This file embeds how the market watch follows a directional signal from scan to scan: the key of the
setup, the identity of a signal, its lifecycle, what is saved of it, and the shadow observations
that are recorded for it.

A scan starts from what the playbooks and the gates decided of its snapshot.
-/

import QuantAgent.MarketWatch.GridPolicy

namespace QuantAgent.MarketWatch

/-! ### The plan of a scan -/

inductive DirectionalDecision where
  | long
  | short
  | wait
  deriving DecidableEq

inductive EntryQuality where
  | excellent
  | good
  | marginal
  | poor
  deriving DecidableEq

inductive BreakoutState where
  | none
  | breakoutConfirmed
  | retestConfirmed
  deriving DecidableEq

inductive Playbook where
  | trendPullback
  | breakoutRetest
  | failedBreakout
  | failedBreakdown
  | volatilityExpansion
  | rangeMeanReversion
  | noTrade
  deriving DecidableEq

inductive Direction where
  | long
  | short
  deriving DecidableEq

def DirectionalDecision.direction : DirectionalDecision → Option Direction
  | long => some .long
  | short => some .short
  | wait => none

structure DirectionalPlan where
  decision : DirectionalDecision
  setup : Playbook
  entryQuality : EntryQuality
  entryLow : ℚ
  entryHigh : ℚ
  stopLoss : ℚ
  takeProfit1 : ℚ
  breakoutState : BreakoutState := .none
  breakoutLevel : Option ℚ := none
  breakoutDirection : Option Direction := none

/-- What a scan sees; the raw decision is the one before the gates, after the entry quality. -/
structure SignalInput where
  barEndMs : ℤ
  plan : DirectionalPlan
  rawDecision : DirectionalDecision
  swingHigh1h : Option ℚ := none
  swingLow1h : Option ℚ := none
  swingHigh4h : Option ℚ := none
  swingLow4h : Option ℚ := none
  barEnd_positive : 0 < barEndMs := by decide

/-! ### Keys and identities -/

/-- The parts of a setup key, in the order of its text. -/
structure SetupKey where
  symbol : String
  playbook : Playbook
  direction : Option Direction
  anchor : String
  deriving DecidableEq

structure SignalIdentity where
  setupKey : SetupKey
  createdBarEndMs : ℤ
  deriving DecidableEq

/-- `normalize_price_level` without a tick size. -/
def normalizePriceLevel : Option ℚ → String
  | none => "0"
  | some price =>
    if price ≤ 0 then "0"
    else if 1000 ≤ price then fixed 2 price
    else if 10 ≤ price then fixed 3 price
    else if 1 / 10 ≤ price then fixed 6 price
    else if 1 / 1000 ≤ price then fixed 7 price
    else fixed 8 price

/-- `level or other`, where zero counts as none. -/
def orElse (level other : Option ℚ) : Option ℚ :=
  if level = some 0 then other else level.or other

namespace SignalInput

variable (input : SignalInput)

def intendedDirection : Option Direction :=
  let plan := input.plan
  match plan.decision.direction, plan.breakoutDirection with
  | some direction, _ => some direction
  | none, some direction => some direction
  | none, none =>
    if plan.setup = .failedBreakout then some .short
    else if plan.setup = .failedBreakdown then some .long
    else if 0 < plan.takeProfit1 ∧ 0 < plan.stopLoss then
      if plan.stopLoss < plan.takeProfit1 then some .long else some .short
    else if 0 < plan.takeProfit1 ∧ 0 < plan.entryLow then
      if plan.entryLow < plan.takeProfit1 then some .long else some .short
    else none

def anchor : String :=
  let plan := input.plan
  let intended := input.intendedDirection
  let entry := if intended = some .long then plan.entryLow else plan.entryHigh
  match plan.setup with
  | .breakoutRetest => "BO_" ++ normalizePriceLevel plan.breakoutLevel
  | .failedBreakout => "FBO_" ++ normalizePriceLevel (orElse input.swingHigh1h plan.entryHigh)
  | .failedBreakdown => "FBD_" ++ normalizePriceLevel (orElse input.swingLow1h plan.entryLow)
  | .trendPullback =>
    if intended = some .long then "SWL_" ++ normalizePriceLevel
      (orElse input.swingLow1h (orElse input.swingLow4h plan.entryLow))
    else "SWH_" ++ normalizePriceLevel
      (orElse input.swingHigh1h (orElse input.swingHigh4h plan.entryHigh))
  | .volatilityExpansion | .rangeMeanReversion => "VE_" ++ normalizePriceLevel
      (orElse (if intended = some .short then input.swingHigh1h else none)
        (orElse (if intended = some .long then input.swingLow1h else none)
          (orElse plan.breakoutLevel entry)))
  | .noTrade => "LVL_" ++ normalizePriceLevel
      (orElse plan.breakoutLevel (orElse entry plan.stopLoss))

/-- `extract_setup_key`. -/
def setupKey (symbol : String) : SetupKey :=
  ⟨symbol, input.plan.setup, input.intendedDirection, input.anchor⟩

end SignalInput

/-! ### The lifecycle -/

inductive LifecycleState where
  | candidate
  | armed
  | triggered
  | invalidated
  | expired
  deriving DecidableEq

def LifecycleState.ended : List LifecycleState := [invalidated, expired]

def advanceLifecycleState (previous : Option LifecycleState) (decision : DirectionalDecision)
    (entryQuality : EntryQuality) (isInvalidated hasSetup isNearReady : Prop)
    [Decidable isInvalidated] [Decidable hasSetup] [Decidable isNearReady]
    (ageBars maxAgeBars : ℤ) : LifecycleState :=
  if isInvalidated then .invalidated
  else if maxAgeBars ≤ ageBars ∧ (previous = some .armed ∨ previous = some .triggered) then .expired
  else if decision ≠ .wait then
    if entryQuality = .excellent ∨ entryQuality = .good then .triggered else .armed
  else if isNearReady ∨ (hasSetup ∧ entryQuality = .marginal) ∨
      (previous = some .armed ∧ hasSetup) then .armed
  else if previous = some .triggered then .expired
  else .candidate

/-! ### The saved state -/

/-- The columns of the symbol's state that follow its signal. An empty shadow id counts as none. -/
structure SignalState where
  setup : Playbook
  lifecycleState : LifecycleState
  breakoutLevel : Option ℚ
  breakoutDirection : Option Direction
  createdBarEndMs : ℤ
  signalIdentity : SignalIdentity
  setupKey : SetupKey
  setupInstanceStartedBarEndMs : ℤ
  lastShadowArmedSignalId : Option SignalIdentity
  lastShadowTriggeredSignalId : Option SignalIdentity

def quarterMs : ℤ := 15 * 60 * 1000

section

variable (symbol : String) (saved : Option SignalState) (input : SignalInput)

/-- `is_same_setup`: the saved setup has not ended and is the one of the scan. -/
def SameSetup : Prop :=
  ∃ row ∈ saved, row.setupKey = input.setupKey symbol ∧ input.plan.setup ≠ .noTrade ∧
    row.lifecycleState ∉ LifecycleState.ended

instance : Decidable (SameSetup symbol saved input) := inferInstanceAs (Decidable (∃ _ ∈ _, _))

/-- `value or other` of a bar end. -/
def barOr (value other : ℤ) : ℤ := if value = 0 then other else value

def instanceStartedMs : ℤ :=
  if SameSetup symbol saved input then
    saved.elim input.barEndMs fun row => barOr row.setupInstanceStartedBarEndMs input.barEndMs
  else input.barEndMs

/-- `extract_signal_identity`. -/
def signalIdentity : SignalIdentity :=
  ⟨input.setupKey symbol, instanceStartedMs symbol saved input⟩

def BreakoutLevelChanged : Prop :=
  ∃ row ∈ saved, ∃ level ∈ input.plan.breakoutLevel, ∃ previous ∈ row.breakoutLevel,
    roundTo 2 level ≠ roundTo 2 previous

def DirectionChanged : Prop :=
  ∃ row ∈ saved, ∃ previous ∈ row.breakoutDirection, ∃ intended ∈ input.intendedDirection,
    previous ≠ intended

instance : Decidable (BreakoutLevelChanged saved input) :=
  inferInstanceAs (Decidable (∃ _ ∈ _, _))

instance : Decidable (DirectionChanged saved input) := inferInstanceAs (Decidable (∃ _ ∈ _, _))

/-- `is_same_signal`. -/
def SameSignal : Prop :=
  (∃ row ∈ saved, row.signalIdentity = signalIdentity symbol saved input) ∧
    ¬ BreakoutLevelChanged saved input ∧ ¬ DirectionChanged saved input ∧
    input.plan.setup ≠ .noTrade

instance : Decidable (SameSignal symbol saved input) := inferInstanceAs (Decidable (_ ∧ _))

def barsSince (createdBarEndMs barEndMs : ℤ) : ℤ :=
  if createdBarEndMs ≤ barEndMs then (barEndMs - createdBarEndMs) / quarterMs else 0

def ageBars : ℤ :=
  if SameSignal symbol saved input then
    saved.elim 0 fun row =>
      if row.createdBarEndMs = 0 then 0 else barsSince row.createdBarEndMs input.barEndMs
  else 0

/-! ### One scan -/

structure SignalAssessment where
  setupKey : SetupKey
  signalIdentity : SignalIdentity
  lifecycleState : LifecycleState
  ageBars : ℤ

def IsNearReady : Prop :=
  input.plan.breakoutState = .breakoutConfirmed ∨
    input.plan.setup ≠ .noTrade ∧ input.rawDecision ≠ .wait

instance : Decidable (IsNearReady input) := inferInstanceAs (Decidable (_ ∨ _))

def IsInvalid : Prop :=
  (∃ row ∈ saved, row.lifecycleState = .armed ∨ row.lifecycleState = .triggered) ∧
    SameSignal symbol saved input ∧ input.plan.decision = .wait ∧ ¬ IsNearReady input

instance : Decidable (IsInvalid symbol saved input) := inferInstanceAs (Decidable (_ ∧ _))

/-- The part of `assess_symbol` that follows the signal. -/
def assessSignal (maxSignalAgeBars : ℤ) : SignalAssessment where
  setupKey := input.setupKey symbol
  signalIdentity := signalIdentity symbol saved input
  ageBars := ageBars symbol saved input
  lifecycleState := advanceLifecycleState
    (if SameSignal symbol saved input then saved.map fun row => row.lifecycleState else none)
    input.plan.decision input.plan.entryQuality (IsInvalid symbol saved input)
    (input.plan.setup ≠ .noTrade) (IsNearReady input) (ageBars symbol saved input)
    maxSignalAgeBars

variable (assessment : SignalAssessment)

/-- What makes `save_symbol_state` start anew. -/
def IsReset : Prop :=
  (∃ row ∈ saved, row.setup ≠ input.plan.setup) ∨ BreakoutLevelChanged saved input ∨
    DirectionChanged saved input ∨
    (∃ row ∈ saved, row.signalIdentity ≠ assessment.signalIdentity) ∨
    input.plan.setup = .noTrade ∨ assessment.lifecycleState ∈ LifecycleState.ended

instance : Decidable (IsReset saved input assessment) := inferInstanceAs (Decidable (_ ∨ _))

/-- The signal part of `save_symbol_state`. -/
def saveSignal : SignalState where
  setup := input.plan.setup
  lifecycleState := assessment.lifecycleState
  breakoutLevel := input.plan.breakoutLevel.or (saved.bind fun row => row.breakoutLevel)
  breakoutDirection := (input.plan.breakoutDirection.or input.plan.decision.direction).or
    (saved.bind fun row => row.breakoutDirection)
  createdBarEndMs := if IsReset saved input assessment then input.barEndMs
    else saved.elim input.barEndMs fun row => barOr row.createdBarEndMs input.barEndMs
  signalIdentity := assessment.signalIdentity
  setupKey := assessment.setupKey
  setupInstanceStartedBarEndMs := instanceStartedMs symbol saved input
  lastShadowArmedSignalId := (saved.bind fun row => row.lastShadowArmedSignalId).filter
    fun held => ¬ IsReset saved input assessment ∨ held = assessment.signalIdentity
  lastShadowTriggeredSignalId := (saved.bind fun row => row.lastShadowTriggeredSignalId).filter
    fun held => ¬ IsReset saved input assessment ∨ held = assessment.signalIdentity

end

/-! ### Shadow observations -/

inductive ObservationType where
  | setupArmed
  | actionableTriggered
  deriving DecidableEq

structure ShadowRow where
  observationType : ObservationType
  signalIdentity : SignalIdentity
  decision : DirectionalDecision

/-- `record_shadow_observation`: an identity has one actionable row at most. -/
def recordShadowObservation (rows : List ShadowRow) (row : ShadowRow) : List ShadowRow :=
  if row.observationType = .actionableTriggered ∧ ∃ other ∈ rows,
      other.observationType = .actionableTriggered ∧ other.signalIdentity = row.signalIdentity
  then rows
  else rows ++ [row]

/-- `_record_shadow_observations_if_needed`, on the row that has just been saved. -/
def recordShadowObservationsIfNeeded (row : SignalState) (rows : List ShadowRow)
    (input : SignalInput) (assessment : SignalAssessment) : SignalState × List ShadowRow :=
  let identity := assessment.signalIdentity
  let decision := input.plan.decision
  if assessment.lifecycleState = .armed then
    if row.lastShadowArmedSignalId = some identity then (row, rows)
    else ({ row with lastShadowArmedSignalId := some identity },
      recordShadowObservation rows ⟨.setupArmed, identity, decision⟩)
  else if assessment.lifecycleState = .triggered ∧ decision ≠ .wait then
    if row.lastShadowTriggeredSignalId = some identity then (row, rows)
    else ({ row with lastShadowTriggeredSignalId := some identity },
      recordShadowObservation rows ⟨.actionableTriggered, identity, decision⟩)
  else if assessment.lifecycleState ∈ [.candidate, .invalidated, .expired] ∧
      input.plan.setup = .noTrade ∧ (row.lastShadowArmedSignalId.isSome = true ∨
        row.lastShadowTriggeredSignalId.isSome = true) then
    ({ row with lastShadowArmedSignalId := none, lastShadowTriggeredSignalId := none }, rows)
  else (row, rows)

/-! ### Runs of scans -/

structure SignalScan where
  signalIdentity : SignalIdentity
  lifecycleState : LifecycleState
  ageBars : ℤ
  decision : DirectionalDecision

structure SignalWatch where
  saved : Option SignalState := none
  rows : List ShadowRow := []
  scans : List SignalScan := []

def SignalWatch.scan (symbol : String) (maxSignalAgeBars : ℤ) (watch : SignalWatch)
    (input : SignalInput) : SignalWatch :=
  let assessment := assessSignal symbol watch.saved input maxSignalAgeBars
  let row := saveSignal symbol watch.saved input assessment
  let (row, rows) := recordShadowObservationsIfNeeded row watch.rows input assessment
  ⟨some row, rows, watch.scans ++ [⟨assessment.signalIdentity, assessment.lifecycleState,
    assessment.ageBars, input.plan.decision⟩]⟩

end QuantAgent.MarketWatch
