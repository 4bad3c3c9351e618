/-
This file treats programs that keep what they have worked out. A memo is a table with entries in the
order of their age, which may drop the oldest; whatever it has dropped, a program over memos whose
entries are right comes to the same as without them. Nothing here names the repository.
-/

import Mathlib

namespace QuantAgent

/-- A table of results, oldest first. -/
abbrev Memo (Key Value : Type) := List (Key × Value)

namespace Memo

variable {Key Value : Type} {memo : Memo Key Value} {key : Key} {value : Value}
  {right : Key → Value → Prop}

def answer [DecidableEq Key] (memo : Memo Key Value) (key : Key) : Option Value :=
  (memo.find? fun entry => entry.1 = key).map Prod.snd

/-- Drop the oldest entry of a table that has reached its limit. -/
def trim (limit : Option ℕ) (memo : Memo Key Value) : Memo Key Value :=
  if limit.any (· ≤ memo.length) then memo.tail else memo

def remember (memo : Memo Key Value) (key : Key) (value : Value) : Memo Key Value :=
  memo ++ [(key, value)]

def modify [DecidableEq Key] (memo : Memo Key Value) (key : Key) (change : Value → Value) :
    Memo Key Value :=
  memo.map fun entry => if entry.1 = key then (entry.1, change entry.2) else entry

def Faithful (right : Key → Value → Prop) (memo : Memo Key Value) : Prop :=
  ∀ entry ∈ memo, right entry.1 entry.2

theorem Faithful.nil : Faithful right [] := List.forall_mem_nil _

theorem Faithful.answer [DecidableEq Key] (faithful : Faithful right memo)
    (found : memo.answer key = some value) : right key value := by
  obtain ⟨entry, first, rfl⟩ := Option.map_eq_some_iff.mp found
  have same := List.find?_some first
  rw [decide_eq_true_eq] at same
  rw [← same]
  exact faithful entry (List.mem_of_find?_eq_some first)

theorem Faithful.trim (faithful : Faithful right memo) (limit : Option ℕ) :
    Faithful right (memo.trim limit) := by
  unfold Memo.trim
  split
  · exact fun entry member => faithful entry (List.mem_of_mem_tail member)
  · exact faithful

theorem Faithful.remember (faithful : Faithful right memo) (holds : right key value) :
    Faithful right (memo.remember key value) := by
  intro entry member
  obtain old | new := List.mem_append.mp member
  · exact faithful entry old
  · rw [List.mem_singleton.mp new]
    exact holds

theorem Faithful.modify [DecidableEq Key] (faithful : Faithful right memo) {change : Value → Value}
    (holds : ∀ value, right key value → right key (change value)) :
    Faithful right (memo.modify key change) := by
  intro entry member
  obtain ⟨old, held, rfl⟩ := List.mem_map.mp member
  split
  · next same =>
    rw [same]
    exact holds old.2 (same ▸ faithful old held)
  · exact faithful old held

end Memo

/-! ### Programs over a state of memos -/

/-- A program with a state, which keeps what it has changed also when it fails. -/
abbrev Work (State Fault Value : Type) := ExceptT Fault (StateM State) Value

namespace Work

variable {State Fault Value Next : Type} {inv : State → Prop}

def start (program : Work State Fault Value) (state : State) : Except Fault Value × State :=
  program.run.run state

/-- Come to a result that needs no state. -/
def of (outcome : Except Fault Value) : Work State Fault Value := ExceptT.mk (pure outcome)

def findOr (find : State → Option Value) (program : Work State Fault Value) :
    Work State Fault Value := do
  match find (← get) with
  | some value => pure value
  | none => program

def within {Part Inner : Type} (part : State → Part) (put : Part → State → State)
    (fault : Inner → Fault) (program : Work Part Inner Value) : Work State Fault Value :=
  ExceptT.mk do
    let state ← get
    let (outcome, changed) := program.start (part state)
    set (put changed state)
    pure (outcome.mapError fault)

/-- From every state of the invariant the program comes to such an outcome and keeps the
invariant. -/
def Comes (inv : State → Prop) (program : Work State Fault Value)
    (post : Except Fault Value → Prop) : Prop :=
  ∀ state, inv state → post (program.start state).1 ∧ inv (program.start state).2

theorem start_bind (program : Work State Fault Value) (next : Value → Work State Fault Next)
    (state : State) : (program >>= next).start state =
      match (program.start state).1 with
      | .ok value => (next value).start (program.start state).2
      | .error fault => (.error fault, (program.start state).2) := by
  show ((program.run >>= fun outcome => match outcome with
    | .ok value => (next value).run
    | .error fault => pure (.error fault)).run state : Except Fault Next × State) = _
  rw [StateT.run_bind]
  show (match (program.start state).1 with
    | .ok value => (next value).run
    | .error fault => pure (.error fault)).run (program.start state).2 = _
  cases (program.start state).1 <;> rfl

variable {program : Work State Fault Value} {next : Value → Work State Fault Next}
  {post : Except Fault Value → Prop} {later : Except Fault Next → Prop}

theorem comes_of {outcome : Except Fault Value} (holds : post outcome) :
    Comes inv (of outcome) post := fun _ kept => ⟨holds, kept⟩

theorem comes_pure {value : Value} (holds : post (.ok value)) :
    Comes inv (pure value : Work State Fault Value) post := fun _ kept => ⟨holds, kept⟩

theorem Comes.bind (first : Comes inv program post)
    (second : ∀ value, post (.ok value) → Comes inv (next value) later)
    (failed : ∀ fault, post (.error fault) → later (.error fault)) :
    Comes inv (program >>= next) later := by
  intro state holds
  obtain ⟨comes, kept⟩ := first state holds
  rw [start_bind]
  cases outcome : (program.start state).1 with
  | ok value => exact second value (outcome ▸ comes) _ kept
  | error fault => exact ⟨failed fault (outcome ▸ comes), kept⟩

theorem comes_modify_bind {change : State → State} {rest : PUnit → Work State Fault Next}
    (keeps : ∀ state, inv state → inv (change state)) (goes : Comes inv (rest ()) later) :
    Comes inv (modify change >>= rest) later :=
  fun state holds => goes (change state) (keeps state holds)

theorem comes_findOr {find : State → Option Value}
    (known : ∀ state value, inv state → find state = some value → post (.ok value))
    (worked : Comes inv program post) : Comes inv (findOr find program) post := by
  intro state holds
  show (fun run : Except Fault Value × State => post run.1 ∧ inv run.2)
    (Work.start (match find state with
      | some value => pure value
      | none => program) state)
  cases found : find state with
  | some value => exact ⟨known state value holds found, holds⟩
  | none => exact worked state holds

theorem Comes.within {Part Inner : Type} {part : State → Part} (put : Part → State → State)
    {fault : Inner → Fault} {inner : Part → Prop} {program : Work Part Inner Value}
    {first : Except Inner Value → Prop} (comes : Comes inner program first)
    (holds : ∀ state, inv state → inner (part state))
    (keeps : ∀ changed state, inner changed → inv state → inv (put changed state))
    (reads : ∀ outcome, first outcome → post (outcome.mapError fault)) :
    Comes inv (Work.within part put fault program) post := by
  intro state kept
  obtain ⟨came, inside⟩ := comes (part state) (holds state kept)
  exact ⟨reads _ came, keeps _ _ inside kept⟩

end Work

end QuantAgent
