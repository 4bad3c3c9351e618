/-
This file embeds any number of registries over one file. Each works on its own copy and commits
under a lock: it reads the generation of the file, compares it with its own, and replaces the file.
A commit may fail before the file is replaced, or in doubt after it, and an instance may stop at any
point.

The commits that took place are kept as history, with what each was made from.
-/

import QuantAgent.Library.Runs
import QuantAgent.Research.Attempts

namespace QuantAgent.Research

variable [Platform]

/-! ### Instances -/

/-- The copy of an instance. -/
structure Memory where
  contents : Contents := {}
  generation : ℕ := 0
  contentHash : Option String := none

def Stored.memory (stored : Stored) : Memory :=
  ⟨stored.contents, stored.generation, some stored.contentHash⟩

/-- An operation with what it found, what it was made from and what it commits. -/
structure Commit where
  surroundings : Surroundings
  operation : Operation
  before : Contents
  prepared : Prepared

/-- The copy of the instance that committed. -/
def Commit.memory (commit : Commit) : Memory :=
  ⟨commit.prepared.contents, commit.prepared.generation, some commit.prepared.contentHash⟩

/-- How far `_commit` is. -/
inductive Phase where
  | idle
  | ready (commit : Commit)
  | locked (commit : Commit)
  | fresh (commit : Commit)
  | replaced (commit : Commit)
  | uncertain

/-- How an operation ended; `publicationUncertain` is raised when the file may not be durable. -/
inductive Outcome where
  | returned
  | raised (fault : Fault)
  | publicationUncertain

/-- An instance; `began` is the memory that its last operation began with, and `wrote` says whether
that operation replaced the file. -/
structure Instance where
  memory : Memory
  phase : Phase := .idle
  outcome : Option Outcome := none
  began : Memory := memory
  wrote : Bool := false

/-- What the instances share; `holder` has the lock. -/
structure Shared where
  file : Option Json := none
  holder : Option ℕ := none
  commits : List Commit := []

namespace Shared

variable (shared : Shared)

def release : Shared := { shared with holder := none }

def actualGeneration : Except Fault ℕ :=
  match shared.file with
  | none => .ok 0
  | some raw => (readState raw).map Stored.generation

/-- What `load` puts in the memory. -/
def load : Except Fault Memory :=
  match shared.file with
  | none => .error (corruption "registry file is missing")
  | some raw => (readState raw).map Stored.memory

end Shared

namespace Instance

variable (own : Instance)

/-- A new operation. -/
def anew : Instance := { own with outcome := none, began := own.memory, wrote := false }

def raise (fault : Fault) : Instance :=
  { own with phase := .idle, outcome := some (.raised fault) }

def finish : Instance := { own with phase := .idle, outcome := some .returned }

def enter (surroundings : Surroundings) (operation : Operation) : Instance :=
  match own.memory.contents.attempt surroundings operation with
  | .error fault => own.anew.raise fault
  | .ok .unchanged => own.anew.finish
  | .ok (.commit contents) =>
    match prepare own.memory.generation contents with
    | .error fault => own.anew.raise fault
    | .ok prepared => { own.anew with
        phase := .ready ⟨surroundings, operation, own.memory.contents, prepared⟩ }

def stale (generation actual : ℕ) : Fault :=
  ⟨.stale, "stale registry generation " ++ toString generation ++ "; committed generation is " ++
    toString actual⟩

def reload (shared : Shared) (after : Outcome) : Instance :=
  match shared.load with
  | .error fault => own.raise fault
  | .ok memory => { own with memory := memory, phase := .idle, outcome := some after }

end Instance

def Shared.construct (shared : Shared) : Option Instance :=
  match shared.file with
  | none => some { memory := {} }
  | some _ =>
    match shared.load with
    | .error _ => none
    | .ok memory => some { memory := memory }

/-- What an instance does next. -/
inductive Turn where
  | enter (surroundings : Surroundings) (operation : Operation)
  | load
  | acquire
  | compare
  /-- The temporary file cannot be written, or the hook before the replacement raises. -/
  | fail (fault : Fault)
  /-- The hook raises `PublicationUncertain`. -/
  | failUncertain
  | replace
  | confirm
  /-- The directory cannot be synchronised. -/
  | doubt
  | reconcile

def Instance.take (number : ℕ) (shared : Shared) (own : Instance) : Turn → Shared × Instance
  | .enter surroundings operation =>
    match own.phase with
    | .idle => (shared, own.enter surroundings operation)
    | _ => (shared, own)
  | .load =>
    match own.phase with
    | .idle => (shared, own.anew.reload shared .returned)
    | _ => (shared, own)
  | .acquire =>
    match own.phase, shared.holder with
    | .ready commit, none =>
      ({ shared with holder := some number }, { own with phase := .locked commit })
    | _, _ => (shared, own)
  | .compare =>
    match own.phase with
    | .locked commit =>
      match shared.actualGeneration with
      | .error fault => (shared.release, own.raise fault)
      | .ok actual =>
        if actual ≠ own.memory.generation then
          (shared.release, own.raise (stale own.memory.generation actual))
        else (shared, { own with phase := .fresh commit })
    | _ => (shared, own)
  | .fail fault =>
    match own.phase with
    | .fresh _ => (shared.release, own.raise fault)
    | _ => (shared, own)
  | .failUncertain =>
    match own.phase with
    | .fresh _ => (shared, { own with phase := .uncertain })
    | _ => (shared, own)
  | .replace =>
    match own.phase with
    | .fresh commit =>
      ({ shared with
          file := some commit.prepared.encoded
          commits := shared.commits ++ [commit] },
        { own with phase := .replaced commit, wrote := true })
    | _ => (shared, own)
  | .confirm =>
    match own.phase with
    | .replaced commit => (shared.release, { own.finish with memory := commit.memory })
    | _ => (shared, own)
  | .doubt =>
    match own.phase with
    | .replaced _ => (shared, { own with phase := .uncertain })
    | _ => (shared, own)
  | .reconcile =>
    match own.phase with
    | .uncertain =>
      (shared.release, own.reload shared .publicationUncertain)
    | _ => (shared, own)

/-! ### The system -/

structure System where
  shared : Shared := {}
  instances : ℕ → Option Instance := fun _ => none

inductive Event where
  | create (number : ℕ)
  | turn (number : ℕ) (turn : Turn)
  | crash (number : ℕ)

namespace System

variable (system : System)

def put (number : ℕ) (shared : Shared) (own : Option Instance) : System where
  shared := shared
  instances := Function.update system.instances number own

theorem put_instances (number : ℕ) (shared : Shared) (own : Option Instance) (other : ℕ) :
    (system.put number shared own).instances other =
      if other = number then own else system.instances other :=
  Function.update_apply system.instances number own other

/-- The lock of an instance that stops is free again. -/
def freed (number : ℕ) : Shared :=
  if system.shared.holder = some number then system.shared.release else system.shared

def step (system : System) : Event → System
  | .create number =>
    match system.instances number with
    | none => system.put number system.shared system.shared.construct
    | some _ => system
  | .turn number turn =>
    match system.instances number with
    | none => system
    | some own =>
      let (shared, next) := own.take number system.shared turn
      system.put number shared (some next)
  | .crash number => system.put number (system.freed number) none

end System

end QuantAgent.Research
