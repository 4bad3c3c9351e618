/-
This file treats workers that share a state. A worker runs a program: transactions on the shared
state, requests to the outside that take two steps (sent and answered), and faults that a program
may catch. In a world any number of workers take steps in any order and may stop anywhere.

A program is safe when each of its steps, taken after any interference by other workers, is one
that the rules allow and keeps their invariant. Safety of a program follows its structure, and safe
programs keep the invariant throughout every run. Nothing here names the repository.
-/

import QuantAgent.Library.Runs

namespace QuantAgent.Concurrent

/-! ### Programs -/

/-- What workers are made of: a shared state with its transactions, requests to the outside, the
faults of both, the calls that start a worker and what they return. -/
structure Language where
  Shared : Type
  Fault : Type
  Transaction : Type
  Value : Transaction → Type
  Request : Type
  Answer : Request → Type
  Call : Type
  Result : Type
  perform : (transaction : Transaction) → Shared → Except Fault (Shared × Value transaction)

variable {L : Language} {Value Next : Type}

/-- The steps of a worker, each depending on what the one before came to. -/
inductive Program (L : Language) (Value : Type) where
  | finish (outcome : Except L.Fault Value)
  | transact (transaction : L.Transaction)
      (next : Except L.Fault (L.Value transaction) → Program L Value)
  | ask (request : L.Request) (next : Except L.Fault (L.Answer request) → Program L Value)

variable {fault : L.Fault} {next : Value → Program L Next}

namespace Program

def bind : Program L Value → (Value → Program L Next) → Program L Next
  | finish (.ok value), next => next value
  | finish (.error fault), _ => finish (.error fault)
  | transact transaction rest, next => transact transaction fun reply => (rest reply).bind next
  | ask request rest, next => ask request fun reply => (rest reply).bind next

/-- `try … except`. -/
def rescue : Program L Value → (L.Fault → Program L Value) → Program L Value
  | finish (.ok value), _ => finish (.ok value)
  | finish (.error fault), handler => handler fault
  | transact transaction rest, handler =>
    transact transaction fun reply => (rest reply).rescue handler
  | ask request rest, handler => ask request fun reply => (rest reply).rescue handler

instance : Monad (Program L) where
  pure value := finish (.ok value)
  bind := bind

def fail (fault : L.Fault) : Program L Value := finish (.error fault)

def refuse (condition : Prop) [Decidable condition] (fault : L.Fault) : Program L Unit :=
  if condition then fail fault else finish (.ok ())

def run (transaction : L.Transaction) : Program L (L.Value transaction) :=
  transact transaction finish

def request (request : L.Request) : Program L (L.Answer request) := ask request finish

/-- What the program makes of the shared state, and what it comes to, when no other worker acts. -/
def alone (answer : (request : L.Request) → Except L.Fault (L.Answer request)) :
    Program L Value → L.Shared → L.Shared × Except L.Fault Value
  | finish outcome, shared => (shared, outcome)
  | transact transaction next, shared =>
    match L.perform transaction shared with
    | .ok (after, value) => (next (.ok value)).alone answer after
    | .error fault => (next (.error fault)).alone answer shared
  | ask request next, shared => (next (answer request)).alone answer shared

variable {answer : (request : L.Request) → Except L.Fault (L.Answer request)} {shared : L.Shared}

theorem alone_bind {program : Program L Value} :
    (program >>= next).alone answer shared =
      match program.alone answer shared with
      | (after, .ok value) => (next value).alone answer after
      | (after, .error fault) => (after, .error fault) := by
  show (program.bind next).alone answer shared = _
  induction program generalizing shared with
  | finish outcome =>
    cases outcome with
    | ok value => rfl
    | error fault => rfl
  | transact transaction rest inductionHypothesis =>
    simp only [bind, alone]
    cases L.perform transaction shared with
    | ok reply => exact inductionHypothesis _
    | error fault => exact inductionHypothesis _
  | ask request rest inductionHypothesis => exact inductionHypothesis _

theorem alone_refuse {condition : Prop} [Decidable condition] :
    (refuse condition fault).alone answer shared =
      (shared, if condition then .error fault else .ok ()) := by
  unfold refuse
  split_ifs <;> rfl

end Program

/-! ### Worlds -/

/-- What a worker does in one step. -/
inductive Action (L : Language) where
  | started (call : L.Call)
  | transacted (transaction : L.Transaction) (outcome : Except L.Fault (L.Value transaction))
  | asked (request : L.Request)
  | answered (request : L.Request) (outcome : Except L.Fault (L.Answer request))

structure Entry (L : Language) where
  worker : ℕ
  action : Action L

/-- The shared state and everything that was done, oldest first. -/
structure State (L : Language) where
  shared : L.Shared
  log : List (Entry L) := []

namespace State

def outcome (state : State L) (transaction : L.Transaction) :
    Except L.Fault (L.Value transaction) :=
  (L.perform transaction state.shared).map Prod.snd

def sharedAfter (state : State L) : Action L → L.Shared
  | .transacted transaction _ =>
    match L.perform transaction state.shared with
    | .ok (shared, _) => shared
    | .error _ => state.shared
  | _ => state.shared

def after (state : State L) (worker : ℕ) (action : Action L) : State L where
  shared := state.sharedAfter action
  log := state.log ++ [⟨worker, action⟩]

end State

inductive Worker (L : Language) where
  | idle
  | running (program : Program L L.Result)
  | waiting (request : L.Request)
      (next : Except L.Fault (L.Answer request) → Program L L.Result)
  | crashed

structure World (L : Language) where
  state : State L
  workers : ℕ → Worker L := fun _ => .idle

inductive Event (L : Language) where
  | start (worker : ℕ) (call : L.Call)
  | advance (worker : ℕ)
  | answer (worker : ℕ) (reply : (request : L.Request) → Except L.Fault (L.Answer request))
  | crash (worker : ℕ)

namespace World

variable (main : L.Call → Program L L.Result)

def move (world : World L) (worker : ℕ) (action : Action L) (next : Worker L) : World L where
  state := world.state.after worker action
  workers := Function.update world.workers worker next

def turn (world : World L) : Event L → Option (ℕ × Action L × Worker L)
  | .start worker call =>
    match world.workers worker with
    | .idle => some (worker, .started call, .running (main call))
    | _ => none
  | .advance worker =>
    match world.workers worker with
    | .running (.transact transaction next) =>
      let outcome := world.state.outcome transaction
      some (worker, .transacted transaction outcome, .running (next outcome))
    | .running (.ask request next) => some (worker, .asked request, .waiting request next)
    | _ => none
  | .answer worker reply =>
    match world.workers worker with
    | .waiting request next =>
      some (worker, .answered request (reply request), .running (next (reply request)))
    | _ => none
  | .crash _ => none

def step (world : World L) (event : Event L) : World L :=
  match world.turn main event with
  | some (worker, action, next) => world.move worker action next
  | none =>
    match event with
    | .crash worker =>
      { world with workers := Function.update world.workers worker .crashed }
    | _ => world

end World

/-! ### Workers that have not started, and workers that are left out -/

namespace World

variable {main : L.Call → Program L L.Result} {world : World L} {event : Event L} {worker : ℕ}
  {action : Action L} {next : Worker L}

/-- Workers that have not started have done nothing. -/
def Fresh (world : World L) : Prop :=
  ∀ worker, world.workers worker = .idle → ∀ entry ∈ world.state.log, entry.worker ≠ worker

/-- Everything that a worker can do in a step. -/
theorem turn_cases (turn : world.turn main event = some (worker, action, next)) :
    (∃ call, world.workers worker = .idle ∧ action = .started call ∧ next = .running (main call)) ∨
    (∃ transaction rest, world.workers worker = .running (.transact transaction rest) ∧
      action = .transacted transaction (world.state.outcome transaction) ∧
      next = .running (rest (world.state.outcome transaction))) ∨
    (∃ request rest, world.workers worker = .running (.ask request rest) ∧
      action = .asked request ∧ next = .waiting request rest) ∨
    ∃ request rest outcome, world.workers worker = .waiting request rest ∧
      action = .answered request outcome ∧ next = .running (rest outcome) := by
  cases event with
  | start started call =>
    simp only [World.turn] at turn
    split at turn
    · rename_i idle
      cases turn
      exact .inl ⟨call, idle, rfl, rfl⟩
    · cases turn
  | advance moved =>
    simp only [World.turn] at turn
    split at turn
    · rename_i transaction rest now
      cases turn
      exact .inr (.inl ⟨transaction, rest, now, rfl, rfl⟩)
    · rename_i request rest now
      cases turn
      exact .inr (.inr (.inl ⟨request, rest, now, rfl, rfl⟩))
    · cases turn
  | answer answered reply =>
    simp only [World.turn] at turn
    split at turn
    · rename_i request rest now
      cases turn
      exact .inr (.inr (.inr ⟨request, rest, reply request, now, rfl, rfl⟩))
    · cases turn
  | crash => cases turn

theorem move_self : (world.move worker action next).workers worker = next :=
  Function.update_self _ _ _

theorem move_of_ne {other : ℕ} (apart : other ≠ worker) :
    (world.move worker action next).workers other = world.workers other :=
  Function.update_of_ne apart _ _

theorem step_of_turn (turn : world.turn main event = some (worker, action, next)) :
    world.step main event = world.move worker action next := by
  unfold World.step
  rw [turn]

theorem holder_of_turn (turn : world.turn main event = some (worker, action, next)) :
    world.workers worker ≠ .crashed ∧ next ≠ .idle ∧ next ≠ .crashed := by
  obtain ⟨_, held, -, rfl⟩ | ⟨_, _, held, -, rfl⟩ | ⟨_, _, held, -, rfl⟩
    | ⟨_, _, _, held, -, rfl⟩ :=
    turn_cases turn <;> simp [held]

theorem idle_of_turn {call : L.Call}
    (turn : world.turn main event = some (worker, .started call, next)) :
    world.workers worker = .idle := by
  obtain ⟨_, idle, -⟩ | ⟨_, _, -, other, -⟩ | ⟨_, _, -, other, -⟩ | ⟨_, _, _, -, other, -⟩ :=
    turn_cases turn
  · exact idle
  all_goals cases other

theorem fresh_step (fresh : world.Fresh) : (world.step main event).Fresh := by
  cases turn : world.turn main event with
  | some move =>
    obtain ⟨worker, action, next⟩ := move
    obtain ⟨-, started, -⟩ := holder_of_turn turn
    rw [step_of_turn turn]
    intro other idle entry member
    by_cases mine : other = worker
    · subst mine
      exact absurd (move_self.symm.trans idle) started
    · replace idle : world.workers other = .idle := (move_of_ne mine).symm.trans idle
      obtain earlier | last := List.mem_append.mp member
      · exact fresh other idle entry earlier
      · rw [List.mem_singleton.mp last]
        exact Ne.symm mine
  | none =>
    unfold World.step
    rw [turn]
    cases event with
    | crash crashed =>
      intro other idle
      by_cases mine : other = crashed
      · subst mine
        exact nomatch (Function.update_self other Worker.crashed world.workers).symm.trans idle
      · exact fresh other ((Function.update_of_ne mine _ world.workers).symm.trans idle)
    | _ => exact fresh

end World

def Action.applied (action : Action L) (shared : L.Shared) : L.Shared :=
  (State.mk shared []).sharedAfter action

theorem State.sharedAfter_eq (state : State L) (action : Action L) :
    state.sharedAfter action = action.applied state.shared := by
  cases action <;> rfl

def State.without (start : L.Shared) (state : State L) (worker : ℕ) : L.Shared :=
  (state.log.filter fun entry => entry.worker ≠ worker).foldl
    (fun shared entry => entry.action.applied shared) start

theorem State.without_after (start : L.Shared) (state : State L) (worker other : ℕ)
    (action : Action L) :
    (state.after other action).without start worker =
      if other = worker then state.without start worker
      else action.applied (state.without start worker) := by
  unfold State.without State.after
  rw [List.filter_append, List.foldl_append]
  split_ifs with own
  · rw [List.filter_cons_of_neg (by simpa using own)]
    rfl
  · rw [List.filter_cons_of_pos (by simpa using own)]
    rfl

/-! ### Rules -/

/-- What is kept by all steps, what a step may be assumed to meet, and what workers promise each
other of their steps. -/
structure Rules (L : Language) where
  inv : State L → Prop
  assumes : State L → ℕ → Action L → Prop := fun _ _ _ => True
  allows : State L → ℕ → Action L → Prop := fun _ _ _ => True

namespace Rules

variable (rules : Rules L) (worker : ℕ)

/-- A step of another worker. -/
def Foreign (state after : State L) : Prop :=
  ∃ other action, other ≠ worker ∧ rules.allows state other action ∧
    after = state.after other action ∧ rules.inv after

/-- Any number of steps of other workers. -/
def Interferes : State L → State L → Prop := Relation.ReflTransGen (rules.Foreign worker)

def Steps (state : State L) (action : State L → Action L) (leads : State L → State L → Prop) :
    Prop :=
  ∀ now, rules.Interferes worker state now → rules.inv now →
    rules.assumes now worker (action now) →
    rules.allows now worker (action now) ∧ rules.inv (now.after worker (action now)) ∧
      leads now (now.after worker (action now))

/-- The program takes only such steps, and what it comes to satisfies the postcondition. -/
def Safe (post : Except L.Fault Value → State L → Prop) : Program L Value → State L → Prop
  | .finish outcome, state => post outcome state
  | .transact transaction next, state =>
    rules.Steps worker state (fun now => .transacted transaction (now.outcome transaction))
      fun now after => Safe post (next (now.outcome transaction)) after
  | .ask request next, state =>
    rules.Steps worker state (fun _ => .asked request) fun _ after => ∀ outcome,
      rules.Steps worker after (fun _ => .answered request outcome)
        fun _ later => Safe post (next outcome) later

variable {rules worker} {state after : State L}
  {post weaker : Except L.Fault Value → State L → Prop}

theorem Steps.interferes {action : State L → Action L} {leads : State L → State L → Prop}
    (steps : rules.Steps worker state action leads)
    (interferes : rules.Interferes worker state after) :
    rules.Steps worker after action leads :=
  fun now later => steps now (interferes.trans later)

theorem Steps.mono {action : State L → Action L} {leads other : State L → State L → Prop}
    (steps : rules.Steps worker state action leads)
    (implies : ∀ now after, leads now after → other now after) :
    rules.Steps worker state action other := fun now interferes inv assumes =>
  let ⟨allows, kept, leads⟩ := steps now interferes inv assumes
  ⟨allows, kept, implies _ _ leads⟩

/-! ### Safety follows the structure of programs -/

@[simp] theorem safe_finish {outcome : Except L.Fault Value} :
    rules.Safe worker post (.finish outcome) state ↔ post outcome state := Iff.rfl

@[simp] theorem safe_pure {value : Value} :
    rules.Safe worker post (pure value) state ↔ post (.ok value) state := Iff.rfl

@[simp] theorem safe_fail :
    rules.Safe worker post (Program.fail fault) state ↔ post (.error fault) state := Iff.rfl

variable {program : Program L Value}

theorem Safe.mono (safe : rules.Safe worker post program state)
    (implies : ∀ outcome state, post outcome state → weaker outcome state) :
    rules.Safe worker weaker program state := by
  induction program generalizing state with
  | finish outcome => exact implies outcome state safe
  | transact transaction next inductionHypothesis =>
    exact Steps.mono safe fun now after leads => inductionHypothesis _ leads
  | ask request next inductionHypothesis =>
    exact Steps.mono safe fun now after leads outcome =>
      Steps.mono (leads outcome) fun now later leads => inductionHypothesis _ leads

theorem safe_bind {post : Except L.Fault Next → State L → Prop} :
    rules.Safe worker post (program >>= next) state ↔
      rules.Safe worker (fun outcome state =>
        match outcome with
        | .ok value => rules.Safe worker post (next value) state
        | .error fault => post (.error fault) state) program state := by
  induction program generalizing state with
  | finish outcome =>
    cases outcome with
    | ok value => exact Iff.rfl
    | error fault => exact Iff.rfl
  | transact transaction rest inductionHypothesis =>
    exact ⟨fun safe => Steps.mono safe fun _ _ => (inductionHypothesis _).mp,
      fun safe => Steps.mono safe fun _ _ => (inductionHypothesis _).mpr⟩
  | ask request rest inductionHypothesis =>
    exact ⟨fun safe => Steps.mono safe fun _ _ leads outcome =>
        Steps.mono (leads outcome) fun _ _ => (inductionHypothesis _).mp,
      fun safe => Steps.mono safe fun _ _ leads outcome =>
        Steps.mono (leads outcome) fun _ _ => (inductionHypothesis _).mpr⟩

theorem safe_refuse {condition : Prop} [Decidable condition]
    {post : Except L.Fault Unit → State L → Prop} :
    rules.Safe worker post (Program.refuse condition fault) state ↔
      (condition → post (.error fault) state) ∧ (¬ condition → post (.ok ()) state) := by
  unfold Program.refuse
  split_ifs with holds
  · exact ⟨fun failed => ⟨fun _ => failed, fun fails => absurd holds fails⟩,
      fun both => both.1 holds⟩
  · exact ⟨fun passed => ⟨fun met => absurd met holds, fun _ => passed⟩, fun both => both.2 holds⟩

theorem safe_run {transaction : L.Transaction}
    {post : Except L.Fault (L.Value transaction) → State L → Prop} :
    rules.Safe worker post (Program.run transaction) state ↔
      rules.Steps worker state (fun now => .transacted transaction (now.outcome transaction))
        fun now after => post (now.outcome transaction) after := Iff.rfl

theorem safe_request {request : L.Request}
    {post : Except L.Fault (L.Answer request) → State L → Prop} :
    rules.Safe worker post (Program.request request) state ↔
      rules.Steps worker state (fun _ => .asked request) fun _ after => ∀ outcome,
        rules.Steps worker after (fun _ => .answered request outcome)
          fun _ later => post outcome later := Iff.rfl

/-! ### Safe programs keep the invariant -/

def WorkerSafe (rules : Rules L) (worker : ℕ)
    (post : Except L.Fault L.Result → State L → Prop) (state : State L) : Worker L → Prop
  | .running program => rules.Safe worker post program state
  | .waiting request next => ∀ outcome,
    rules.Steps worker state (fun _ => .answered request outcome)
      fun _ later => rules.Safe worker post (next outcome) later
  | _ => True

/-- What holds at the end of a program still holds after interference. -/
def Stable (rules : Rules L) (worker : ℕ) (condition : State L → Prop) : Prop :=
  ∀ state after, condition state → rules.Foreign worker state after → condition after

theorem Stable.interferes {condition : State L → Prop} (stable : rules.Stable worker condition)
    (holds : condition state) (interferes : rules.Interferes worker state after) :
    condition after := by
  induction interferes with
  | refl => exact holds
  | tail _ foreign inductionHypothesis => exact stable _ _ inductionHypothesis foreign

theorem Safe.interferes (stable : ∀ outcome, rules.Stable worker (post outcome))
    (safe : rules.Safe worker post program state) (interferes : rules.Interferes worker state after)
    : rules.Safe worker post program after := by
  cases program with
  | finish outcome => exact (stable outcome).interferes safe interferes
  | transact => exact Steps.interferes safe interferes
  | ask => exact Steps.interferes safe interferes

theorem WorkerSafe.interferes {post : Except L.Fault L.Result → State L → Prop}
    {holder : Worker L} (stable : ∀ outcome, rules.Stable worker (post outcome))
    (safe : WorkerSafe rules worker post state holder)
    (interferes : rules.Interferes worker state after) :
    WorkerSafe rules worker post after holder := by
  cases holder with
  | idle => trivial
  | running program => exact Safe.interferes stable safe interferes
  | waiting request next => exact fun outcome => (safe outcome).interferes interferes
  | crashed => trivial

def Obeyed (rules : Rules L) (main : L.Call → Program L L.Result)
    (post : ℕ → Except L.Fault L.Result → State L → Prop) : Prop :=
  ∀ worker call state, rules.inv state → rules.assumes state worker (.started call) →
    rules.allows state worker (.started call) ∧ rules.inv (state.after worker (.started call)) ∧
      rules.Safe worker (post worker) (main call) (state.after worker (.started call))

def Meets (rules : Rules L) (main : L.Call → Program L L.Result) (world : World L)
    (event : Event L) : Prop :=
  ∀ worker action next, world.turn main event = some (worker, action, next) →
    rules.assumes world.state worker action

/-- The invariant holds and every worker is safe. -/
def WorldSafe (rules : Rules L) (post : ℕ → Except L.Fault L.Result → State L → Prop)
    (world : World L) : Prop :=
  rules.inv world.state ∧
    ∀ worker, WorkerSafe rules worker (post worker) world.state (world.workers worker)

variable {main : L.Call → Program L L.Result} {world : World L} {event : Event L}
  {posts : ℕ → Except L.Fault L.Result → State L → Prop}

theorem turn_safe {action : Action L} {next : Worker L} (obeyed : Obeyed rules main posts)
    (safe : WorldSafe rules posts world) (meets : Meets rules main world event)
    (turn : world.turn main event = some (worker, action, next)) :
    rules.allows world.state worker action ∧ rules.inv (world.state.after worker action) ∧
      WorkerSafe rules worker (posts worker) (world.state.after worker action) next := by
  have assumes := meets worker action next turn
  have holder := safe.2 worker
  obtain ⟨call, -, rfl, rfl⟩ | ⟨transaction, rest, now, rfl, rfl⟩ | ⟨request, rest, now, rfl, rfl⟩ |
      ⟨request, rest, outcome, now, rfl, rfl⟩ := World.turn_cases turn
  · exact obeyed worker call world.state safe.1 assumes
  · rw [now] at holder
    exact holder world.state .refl safe.1 assumes
  · rw [now] at holder
    exact holder world.state .refl safe.1 assumes
  · rw [now] at holder
    exact holder outcome world.state .refl safe.1 assumes

theorem worldSafe_step (stable : ∀ worker outcome, rules.Stable worker (posts worker outcome))
    (obeyed : Obeyed rules main posts) (safe : WorldSafe rules posts world)
    (meets : Meets rules main world event) : WorldSafe rules posts (world.step main event) := by
  unfold World.step
  cases turn : world.turn main event with
  | some move =>
    obtain ⟨worker, action, next⟩ := move
    obtain ⟨allowed, kept, holder⟩ := turn_safe obeyed safe meets turn
    refine ⟨kept, fun other => ?_⟩
    by_cases mine : other = worker
    · subst mine
      show WorkerSafe rules other _ _ (Function.update world.workers other next other)
      rw [Function.update_self]
      exact holder
    · show WorkerSafe rules other _ _ (Function.update world.workers worker next other)
      rw [Function.update_of_ne mine]
      exact (safe.2 other).interferes (stable other)
        (.single ⟨worker, action, fun same => mine same.symm, allowed, rfl, kept⟩)
  | none =>
    cases event with
    | crash crashed =>
      refine ⟨safe.1, fun other => ?_⟩
      by_cases mine : other = crashed
      · subst mine
        show WorkerSafe rules other _ _ (Function.update world.workers other .crashed other)
        rw [Function.update_self]
        trivial
      · show WorkerSafe rules other _ _ (Function.update world.workers crashed .crashed other)
        rw [Function.update_of_ne mine]
        exact safe.2 other
    | _ => exact safe

theorem worldSafe_run {events : List (Event L)}
    (stable : ∀ worker outcome, rules.Stable worker (posts worker outcome))
    (obeyed : Obeyed rules main posts) (safe : WorldSafe rules posts world)
    (meets : Runs.Each (World.step main) (Meets rules main) world events) :
    Runs.Throughout (World.step main) (WorldSafe rules posts) world events :=
  Runs.throughout_of_each (fun _ _ safe meets => worldSafe_step stable obeyed safe meets) safe meets

/-! ### What a worker learns -/

/-- The log only grows under the steps of others. -/
theorem Interferes.log (interferes : rules.Interferes worker state after) :
    ∃ more, after.log = state.log ++ more := by
  induction interferes with
  | refl => exact ⟨[], (List.append_nil _).symm⟩
  | tail _ foreign inductionHypothesis =>
    obtain ⟨more, log⟩ := inductionHypothesis
    obtain ⟨other, action, -, -, rfl, -⟩ := foreign
    exact ⟨more ++ [⟨other, action⟩], by rw [State.after, log, List.append_assoc]⟩

class Lasting (known : List (Entry L) → Prop) : Prop where
  append : ∀ log more, known log → known (log ++ more)

instance {entry : Entry L} : Lasting fun log => entry ∈ log :=
  ⟨fun _ _ => List.mem_append_left _⟩

instance {fact : Prop} : Lasting fun _ : List (Entry L) => fact := ⟨fun _ _ => id⟩

instance {first second : List (Entry L) → Prop} [Lasting first] [Lasting second] :
    Lasting fun log => first log ∧ second log :=
  ⟨fun log more both => ⟨Lasting.append log more both.1, Lasting.append log more both.2⟩⟩

instance {Index : Sort*} {known : Index → List (Entry L) → Prop} [∀ value, Lasting (known value)] :
    Lasting fun log => ∃ value, known value log :=
  ⟨fun log more ⟨value, holds⟩ => ⟨value, Lasting.append log more holds⟩⟩

/-- From where the first assertion holds of the log the program is safe, and when it comes to a
value the other assertion holds of it. -/
def Learns (rules : Rules L) (worker : ℕ) (known : List (Entry L) → Prop)
    (program : Program L Value) (learned : Value → List (Entry L) → Prop) : Prop :=
  ∀ state : State L, known state.log → rules.Safe worker (fun outcome after =>
    (∃ more, after.log = state.log ++ more) ∧
      ∀ value, outcome = .ok value → learned value after.log) program state

section

variable {known : List (Entry L) → Prop} {learned final : Value → List (Entry L) → Prop}

theorem Lasting.interferes [Lasting known] (holds : known state.log)
    (interferes : rules.Interferes worker state after) : known after.log := by
  obtain ⟨more, log⟩ := interferes.log
  rw [log]
  exact Lasting.append _ _ holds

theorem Learns.bind {last : Next → List (Entry L) → Prop}
    [Lasting known] (first : Learns rules worker known program learned)
    (rest : ∀ value, Learns rules worker (fun log => known log ∧ learned value log) (next value)
      last) : Learns rules worker known (program >>= next) last := by
  intro state holds
  refine safe_bind.mpr ((first state holds).mono fun outcome after ended => ?_)
  obtain ⟨⟨more, log⟩, ended⟩ := ended
  cases outcome with
  | ok value =>
    have kept : known after.log := log ▸ Lasting.append _ more holds
    refine (rest value after ⟨kept, ended value rfl⟩).mono fun outcome later final => ?_
    obtain ⟨⟨further, logLater⟩, final⟩ := final
    exact ⟨⟨more ++ further, by rw [logLater, log, List.append_assoc]⟩, final⟩
  | error fault => exact ⟨⟨more, log⟩, nofun⟩

theorem Learns.mono {other : List (Entry L) → Prop}
    (learns : Learns rules worker known program learned) (weaker : ∀ log, other log → known log)
    (implies : ∀ value log, learned value log → final value log) :
    Learns rules worker other program final := fun state holds =>
  (learns state (weaker _ holds)).mono fun _ after ended =>
    ⟨ended.1, fun value came => implies value after.log (ended.2 value came)⟩

theorem Learns.keep [Lasting known] (learns : Learns rules worker known program learned) :
    Learns rules worker known program fun value log => known log ∧ learned value log :=
  fun state holds => (learns state holds).mono fun _ after ended => by
    obtain ⟨⟨more, log⟩, ended⟩ := ended
    exact ⟨⟨more, log⟩, fun value came => ⟨log ▸ Lasting.append _ more holds, ended value came⟩⟩

theorem Learns.pure {value : Value} (implies : ∀ log, known log → learned value log) :
    Learns rules worker known (Pure.pure value) learned := fun state holds =>
  ⟨⟨[], (List.append_nil _).symm⟩, fun other same => by
    obtain rfl := Except.ok.inj same
    exact implies _ holds⟩

theorem Learns.fail :
    Learns rules worker known (Program.fail fault) learned := fun _ _ =>
  ⟨⟨[], (List.append_nil _).symm⟩, nofun⟩

theorem Learns.refuse {condition : Prop} [Decidable condition] :
    Learns rules worker known (Program.refuse condition fault) fun _ _ => ¬ condition := by
  intro state _
  refine safe_refuse.mpr ⟨fun _ => ⟨⟨[], (List.append_nil _).symm⟩, nofun⟩, fun passes => ?_⟩
  exact ⟨⟨[], (List.append_nil _).symm⟩, fun _ _ => passes⟩

theorem Learns.run {transaction : L.Transaction} [Lasting known]
    (keeps : ∀ now : State L, rules.inv now → known now.log →
      rules.assumes now worker (.transacted transaction (now.outcome transaction)) →
        rules.allows now worker (.transacted transaction (now.outcome transaction)) ∧
          rules.inv (now.after worker (.transacted transaction (now.outcome transaction)))) :
    Learns rules worker known (Program.run transaction) fun value log =>
      ⟨worker, .transacted transaction (.ok value)⟩ ∈ log := by
  intro state holds
  refine safe_run.mpr fun now interferes inv assumes => ?_
  obtain ⟨more, log⟩ := interferes.log
  obtain ⟨allowed, kept⟩ := keeps now inv (Lasting.interferes holds interferes) assumes
  refine ⟨allowed, kept, ⟨more ++ [_], by rw [State.after, log, List.append_assoc]⟩, ?_⟩
  intro value came
  show _ ∈ now.log ++ [⟨worker, .transacted transaction (now.outcome transaction)⟩]
  rw [came]
  exact List.mem_append_right _ (List.mem_singleton_self _)

theorem Learns.request {request : L.Request} [Lasting known]
    (asked : ∀ now : State L, rules.inv now → known now.log →
      rules.assumes now worker (.asked request) →
        rules.allows now worker (.asked request) ∧ rules.inv (now.after worker (.asked request)))
    (answered : ∀ (now : State L) outcome, rules.inv now → known now.log →
      rules.assumes now worker (.answered request outcome) →
        rules.allows now worker (.answered request outcome) ∧
          rules.inv (now.after worker (.answered request outcome))) :
    Learns rules worker known (Program.request request) fun value log =>
      ⟨worker, .answered request (.ok value)⟩ ∈ log := by
  intro state holds
  refine safe_request.mpr fun now interferes inv assumes => ?_
  obtain ⟨more, log⟩ := interferes.log
  have knownNow : known now.log := Lasting.interferes holds interferes
  obtain ⟨allowed, kept⟩ := asked now inv knownNow assumes
  refine ⟨allowed, kept, fun outcome later interferesLater invLater assumesLater => ?_⟩
  obtain ⟨further, logLater⟩ := interferesLater.log
  have knownLater : known later.log := Lasting.interferes
    (Lasting.append now.log [⟨worker, .asked request⟩] knownNow) interferesLater
  obtain ⟨allowedLater, keptLater⟩ := answered later outcome invLater knownLater assumesLater
  refine ⟨allowedLater, keptLater, ⟨more ++ [⟨worker, .asked request⟩] ++ further ++
    [⟨worker, .answered request outcome⟩], ?_⟩, ?_⟩
  · simp only [State.after, logLater, log, List.append_assoc]
  · rintro value rfl
    exact List.mem_append_right _ (List.mem_singleton_self _)

end

end Rules

end QuantAgent.Concurrent
