/-
This file treats programs of transactions that a process runs until it dies. A transaction is
committed as a whole or not at all. A process lives for so many commits, and dies when it goes for
the next one; what it has committed stays. Nothing here names the repository.
-/

import QuantAgent.Library.Memo

namespace QuantAgent

/-- What is stored, and the commits that the process still lives for. -/
structure Living (State : Type) where
  state : State
  commits : ℕ

/-- Why a program came to no result. -/
inductive Halt (Fault : Type) where
  | died
  | raised (fault : Fault)

abbrev Durable (State Fault Value : Type) := Work (Living State) (Halt Fault) Value

namespace Durable

variable {State Fault Value Next : Type} {inv : State → Prop} {living : Living State}

/-- One transaction; one that fails is rolled back. -/
def attempt (transaction : State → Except Fault (State × Value)) (living : Living State) :
    Except (Halt Fault) Value × Living State :=
  match living.commits with
  | 0 => (.error .died, living)
  | commits + 1 =>
    match transaction living.state with
    | .ok (state, value) => (.ok value, ⟨state, commits⟩)
    | .error fault => (.error (.raised fault), living)

def transact (transaction : State → Except Fault (State × Value)) : Durable State Fault Value :=
  ExceptT.mk fun living => attempt transaction living

/-- A transaction that cannot fail and comes to nothing. -/
def commit (change : State → State) : Durable State Fault Unit :=
  transact fun state => .ok (change state, ())

def look (value : State → Value) : Durable State Fault Value :=
  ExceptT.mk fun living => (.ok (value living.state), living)

theorem start_transact (transaction : State → Except Fault (State × Value)) :
    (transact transaction).start living = attempt transaction living := rfl

theorem start_look_bind (value : State → Value) (next : Value → Durable State Fault Next) :
    (look value >>= next).start living = (next (value living.state)).start living :=
  Work.start_bind _ _ _

variable {transaction : State → Except Fault (State × Value)}

theorem start_transact_bind {state : State} {commits : ℕ} {after : State} {value : Value}
    (next : Value → Durable State Fault Next) (committed : transaction state = .ok (after, value)) :
    (transact transaction >>= next).start ⟨state, commits + 1⟩ =
      (next value).start ⟨after, commits⟩ := by
  rw [Work.start_bind, start_transact]
  simp only [attempt, committed]

theorem start_transact_bind_died {state : State} (next : Value → Durable State Fault Next) :
    (transact transaction >>= next).start ⟨state, 0⟩ = (.error .died, ⟨state, 0⟩) :=
  Work.start_bind _ _ _

/-- From every state of the invariant the program ends in one, wherever the process dies. -/
def Keeps (inv : State → Prop) (program : Durable State Fault Value) : Prop :=
  Work.Comes (fun living => inv living.state) program fun _ => True

theorem keeps_pure (value : Value) : Keeps inv (pure value : Durable State Fault Value) :=
  Work.comes_pure trivial

variable {next : Value → Durable State Fault Next} {program : Durable State Fault Value}

theorem Keeps.bind (first : Keeps inv program) (second : ∀ value, Keeps inv (next value)) :
    Keeps inv (program >>= next) :=
  Work.Comes.bind first (fun value _ => second value) fun _ => id

theorem keeps_look (value : State → Value) :
    Keeps inv (look value : Durable State Fault Value) := fun _ holds => ⟨trivial, holds⟩

theorem keeps_transact
    (keeps : ∀ state after value, inv state → transaction state = .ok (after, value) →
      inv after) : Keeps inv (transact transaction) := by
  rintro ⟨state, commits⟩ holds
  refine ⟨trivial, ?_⟩
  rw [start_transact]
  unfold attempt
  split
  · exact holds
  · split
    · next after value committed => exact keeps state after value holds committed
    · exact holds

theorem keeps_commit {change : State → State} (keeps : ∀ state, inv state → inv (change state)) :
    Keeps inv (commit change : Durable State Fault Unit) :=
  keeps_transact fun state after value holds committed => by
    obtain ⟨rfl, -⟩ := Prod.mk.inj (Except.ok.inj committed)
    exact keeps state holds

theorem bind_ends
    (first : inv (program.start living).2.state) (second : ∀ value, Keeps inv (next value)) :
    inv ((program >>= next).start living).2.state := by
  rw [Work.start_bind]
  cases (program.start living).1 with
  | ok value => exact (second value _ first).2
  | error halt => exact first

end Durable

end QuantAgent
