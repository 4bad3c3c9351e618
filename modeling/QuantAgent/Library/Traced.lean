/-
This file treats programs that may fail and that keep a log of what they did, and gives three
logics for them: one about one program, one about a program after a log, in which each entry is
judged by the entries before it, and one about two programs side by side.

The first and the last are relative to a condition on log entries. A program meets its
specification when, provided every entry of its log is allowed, its result satisfies the
postcondition and its fault the fault condition. Two programs are related when, provided both logs
are allowed and both programs succeed, their results are. Nothing here names the repository.
-/

import Mathlib

namespace QuantAgent

structure Traced (Entry Fault Value : Type*) where
  log : List Entry
  outcome : Except Fault Value

namespace Traced

variable {Entry Fault Value Result : Type*}

/-- Run a program and go on with its result; a fault stops the sequence. -/
def andThen (program : Traced Entry Fault Value) (next : Value → Traced Entry Fault Result) :
    Traced Entry Fault Result :=
  match program.outcome with
  | .ok value => ⟨program.log ++ (next value).log, (next value).outcome⟩
  | .error fault => ⟨program.log, .error fault⟩

instance : Monad (Traced Entry Fault) where
  pure value := ⟨[], .ok value⟩
  bind := andThen

def note (entry : Entry) : Traced Entry Fault Unit := ⟨[entry], .ok ()⟩

def fail (fault : Fault) : Traced Entry Fault Value := ⟨[], .error fault⟩

/-- A computation that logs nothing. -/
def lift (outcome : Except Fault Value) : Traced Entry Fault Value := ⟨[], outcome⟩

@[simp] theorem pure_log (value : Value) : (pure value : Traced Entry Fault Value).log = [] :=
  rfl

@[simp] theorem pure_outcome (value : Value) :
    (pure value : Traced Entry Fault Value).outcome = .ok value := rfl

section Bind

variable {Value Result : Type} {program : Traced Entry Fault Value}
  {next : Value → Traced Entry Fault Result}

theorem bind_of_ok {value : Value} (done : program.outcome = .ok value) :
    program >>= next = ⟨program.log ++ (next value).log, (next value).outcome⟩ := by
  show andThen program next = _
  rw [andThen, done]

theorem bind_of_error {fault : Fault} (failed : program.outcome = .error fault) :
    program >>= next = ⟨program.log, .error fault⟩ := by
  show andThen program next = _
  rw [andThen, failed]

/-- A sequence succeeds through an intermediate value. -/
theorem bind_eq_ok {result : Result} :
    (program >>= next).outcome = .ok result ↔
      ∃ value, program.outcome = .ok value ∧ (next value).outcome = .ok result := by
  cases done : program.outcome with
  | ok value => simp [bind_of_ok done]
  | error fault => simp [bind_of_error done]

/-- Outcomes follow one another as fallible computations do. -/
theorem outcome_bind :
    (program >>= next).outcome = program.outcome >>= fun value => (next value).outcome := by
  cases done : program.outcome with
  | ok value =>
    rw [bind_of_ok done]
    rfl
  | error fault =>
    rw [bind_of_error done]
    rfl

end Bind

theorem andThen_pure (program : Traced Entry Fault Value) :
    andThen program (fun value => ⟨[], .ok value⟩) = program := by
  obtain ⟨log, outcome⟩ := program
  cases outcome with
  | ok value =>
    show Traced.mk (log ++ []) (.ok value) = _
    rw [List.append_nil]
  | error fault => rfl

theorem andThen_assoc {Final : Type*} (program : Traced Entry Fault Value)
    (next : Value → Traced Entry Fault Result) (last : Result → Traced Entry Fault Final) :
    andThen (andThen program next) last =
      andThen program fun value => andThen (next value) last := by
  obtain ⟨log, outcome⟩ := program
  cases outcome with
  | error fault => rfl
  | ok value =>
    unfold andThen
    dsimp only
    cases (next value).outcome with
    | error fault => rfl
    | ok result =>
      dsimp only
      rw [List.append_assoc]

instance : LawfulMonad (Traced Entry Fault) :=
  LawfulMonad.mk' _ andThen_pure (fun _ _ => rfl) andThen_assoc

/-! ### One program -/

def Holds (allowed : Entry → Prop) (faulty : Fault → Prop) (program : Traced Entry Fault Value)
    (post : Value → Prop) : Prop :=
  (∀ entry ∈ program.log, allowed entry) →
    match program.outcome with
    | .ok value => post value
    | .error fault => faulty fault

section Holds

variable {Value Result : Type} {allowed : Entry → Prop} {faulty : Fault → Prop}
  {program : Traced Entry Fault Value} {next : Value → Traced Entry Fault Result}
  {mid : Value → Prop} {post : Result → Prop}

theorem Holds.pure {value : Value} (holds : mid value) :
    Holds allowed faulty (pure value) mid := fun _ => holds

theorem Holds.fail {fault : Fault} (holds : faulty fault) :
    Holds allowed faulty (Traced.fail fault) mid := fun _ => holds

theorem Holds.note {entry : Entry} {post : Unit → Prop} (holds : allowed entry → post ()) :
    Holds allowed faulty (Traced.note entry) post := fun clean =>
  holds (clean entry (List.mem_singleton_self entry))

theorem Holds.lift {outcome : Except Fault Value} (done : ∀ value, outcome = .ok value → mid value)
    (failed : ∀ fault, outcome = .error fault → faulty fault) :
    Holds allowed faulty (Traced.lift outcome) mid := by
  intro _
  cases outcome with
  | ok value => exact done value rfl
  | error fault => exact failed fault rfl

theorem Holds.bind (first : Holds allowed faulty program mid)
    (rest : ∀ value, mid value → Holds allowed faulty (next value) post) :
    Holds allowed faulty (program >>= next) post := by
  intro clean
  cases done : program.outcome with
  | ok value =>
    rw [bind_of_ok done] at clean ⊢
    have early := first fun entry member => clean entry (List.mem_append_left _ member)
    rw [done] at early
    exact rest value early fun entry member => clean entry (List.mem_append_right _ member)
  | error fault =>
    rw [bind_of_error done] at clean ⊢
    have early := first clean
    rwa [done] at early

theorem Holds.mono {weaker : Value → Prop} (holds : Holds allowed faulty program mid)
    (implies : ∀ value, mid value → weaker value) : Holds allowed faulty program weaker := by
  intro clean
  have strong := holds clean
  cases done : program.outcome with
  | ok value =>
    rw [done] at strong
    exact implies value strong
  | error fault => rwa [done] at strong

theorem Holds.and {other : Value → Prop} (first : Holds allowed faulty program mid)
    (second : Holds allowed faulty program other) :
    Holds allowed faulty program fun value => mid value ∧ other value := by
  intro clean
  have early := first clean
  have late := second clean
  cases done : program.outcome with
  | ok value =>
    rw [done] at early late
    exact ⟨early, late⟩
  | error fault => rwa [done] at early

theorem Holds.ite {condition : Prop} [Decidable condition] {other : Traced Entry Fault Value}
    (onTrue : condition → Holds allowed faulty program mid)
    (onFalse : ¬ condition → Holds allowed faulty other mid) :
    Holds allowed faulty (if condition then program else other) mid := by
  by_cases holds : condition
  · rw [if_pos holds]
    exact onTrue holds
  · rw [if_neg holds]
    exact onFalse holds

theorem Holds.foldlM {Item : Type} {invariant : Value → Prop}
    {step : Value → Item → Traced Entry Fault Value} {items : List Item}
    (keeps : ∀ item ∈ items, ∀ value, invariant value →
      Holds allowed faulty (step value item) invariant)
    {value : Value} (start : invariant value) :
    Holds allowed faulty (items.foldlM step value) invariant := by
  induction items generalizing value with
  | nil => exact .pure start
  | cons item rest inductionHypothesis =>
    rw [List.foldlM_cons]
    exact .bind (keeps item List.mem_cons_self value start) fun next later =>
      inductionHypothesis (fun other member => keeps other (List.mem_cons_of_mem _ member)) later

/-- What an allowed successful run yields. -/
theorem Holds.result (holds : Holds allowed faulty program mid)
    (clean : ∀ entry ∈ program.log, allowed entry) {value : Value}
    (done : program.outcome = .ok value) : mid value := by
  have claim := holds clean
  rwa [done] at claim

theorem Holds.fault (holds : Holds allowed faulty program mid)
    (clean : ∀ entry ∈ program.log, allowed entry) {fault : Fault}
    (failed : program.outcome = .error fault) : faulty fault := by
  have claim := holds clean
  rwa [failed] at claim

end Holds

/-! ### One program after a log -/

def Follows (along : List Entry → Entry → Prop) (prior : List Entry)
    (program : Traced Entry Fault Value) (post : List Entry → Value → Prop) : Prop :=
  (∀ before entry after, program.log = before ++ entry :: after →
      along (prior ++ before) entry) ∧
    ∀ value, program.outcome = .ok value → post (prior ++ program.log) value

section Follows

variable {Value Result : Type} {along : List Entry → Entry → Prop} {prior : List Entry}
  {program : Traced Entry Fault Value} {next : Value → Traced Entry Fault Result}
  {mid : List Entry → Value → Prop} {post : List Entry → Result → Prop}

theorem Follows.pure {value : Value} (holds : mid prior value) :
    Follows along prior (pure value : Traced Entry Fault Value) mid := by
  refine ⟨fun before entry after split => ?_, ?_⟩
  · exact absurd split.symm (List.append_ne_nil_of_right_ne_nil _ (List.cons_ne_nil _ _))
  · rintro _ ⟨⟩
    show mid (prior ++ []) _
    rwa [List.append_nil]

theorem Follows.lift {outcome : Except Fault Value}
    (done : ∀ value, outcome = .ok value → mid prior value) :
    Follows along prior (Traced.lift outcome : Traced Entry Fault Value) mid := by
  refine ⟨fun before entry after split => ?_, fun value same => ?_⟩
  · exact absurd split.symm (List.append_ne_nil_of_right_ne_nil _ (List.cons_ne_nil _ _))
  · show mid (prior ++ []) _
    rw [List.append_nil]
    exact done value same

theorem Follows.fail {fault : Fault} :
    Follows along prior (Traced.fail fault : Traced Entry Fault Value) mid :=
  @Follows.lift _ _ _ _ _ _ (.error fault) fun _ failed => nomatch failed

theorem Follows.note {entry : Entry} {post : List Entry → Unit → Prop}
    (logged : along prior entry) (holds : post (prior ++ [entry]) ()) :
    Follows along prior (Traced.note entry : Traced Entry Fault Unit) post := by
  refine ⟨fun before other after split => ?_, fun _ _ => holds⟩
  obtain ⟨rfl, same⟩ | ⟨rfl, same⟩ := List.singleton_eq_append_iff.mp split
  · obtain ⟨rfl, -⟩ := List.cons.inj same
    rwa [List.append_nil]
  · exact nomatch same

theorem Follows.bind (first : Follows along prior program mid)
    (rest : ∀ log value, mid log value → Follows along log (next value) post) :
    Follows along prior (program >>= next) post := by
  cases done : program.outcome with
  | error fault =>
    rw [bind_of_error done]
    exact ⟨first.1, fun _ same => nomatch same⟩
  | ok value =>
    rw [bind_of_ok done]
    obtain ⟨logged, holds⟩ := rest _ value (first.2 value done)
    refine ⟨fun before entry after split => ?_, fun result same => ?_⟩
    · obtain ⟨later, early, split⟩ | ⟨later, early, split⟩ := List.append_eq_append_iff.mp split
      · rw [early, ← List.append_assoc]
        exact logged later entry after split
      · cases later with
        | nil =>
          rw [List.append_nil] at early
          rw [← early]
          have := logged [] entry after split.symm
          rwa [List.append_nil] at this
        | cons head later =>
          obtain ⟨rfl, -⟩ := List.cons.inj split
          exact first.1 before entry later early
    · rw [← List.append_assoc]
      exact holds result same

theorem Follows.note_bind {entry : Entry} {next : Unit → Traced Entry Fault Result}
    (logged : along prior entry) (rest : Follows along (prior ++ [entry]) (next ()) post) :
    Follows along prior (Traced.note entry >>= next) post := by
  refine .bind (@Follows.note Entry Fault along prior entry (fun log _ => log = prior ++ [entry])
    logged rfl) ?_
  rintro _ _ rfl
  exact rest

theorem Follows.lift_bind {outcome : Except Fault Value}
    (rest : ∀ value, outcome = .ok value → Follows along prior (next value) post) :
    Follows along prior (Traced.lift outcome >>= next) post := by
  refine .bind (@Follows.lift Entry Fault Value along prior
    (fun log value => log = prior ∧ outcome = .ok value) outcome fun _ done => ⟨rfl, done⟩) ?_
  rintro _ value ⟨rfl, done⟩
  exact rest value done

theorem Follows.ite {condition : Prop} [Decidable condition] {other : Traced Entry Fault Value}
    (onTrue : condition → Follows along prior program mid)
    (onFalse : ¬ condition → Follows along prior other mid) :
    Follows along prior (if condition then program else other) mid := by
  by_cases holds : condition
  · rw [if_pos holds]
    exact onTrue holds
  · rw [if_neg holds]
    exact onFalse holds

theorem Follows.foldlM {Item : Type} {invariant : List Item → List Entry → Value → Prop}
    {step : Value → Item → Traced Entry Fault Value} {items : List Item}
    (keeps : ∀ past item future, items = past ++ item :: future → ∀ log value,
      invariant past log value →
        Follows along log (step value item) (invariant (past ++ [item])))
    {value : Value} (start : invariant [] prior value) :
    Follows along prior (items.foldlM step value) (invariant items) := by
  suffices general : ∀ past future, items = past ++ future → ∀ log value,
      invariant past log value → Follows along log (future.foldlM step value) (invariant items) from
    general [] items rfl prior value start
  intro past future split
  induction future generalizing past with
  | nil =>
    intro log value holds
    rw [split, List.append_nil]
    exact .pure holds
  | cons item future inductionHypothesis =>
    intro log value holds
    rw [List.foldlM_cons]
    refine .bind (keeps past item future split log value holds) fun log value later => ?_
    exact inductionHypothesis (past ++ [item]) (by rw [split, List.append_assoc]; rfl)
      log value later

end Follows

/-! ### Two programs -/

def Relates (allowed : Entry → Prop) (left : Traced Entry Fault Value)
    (right : Traced Entry Fault Result) (post : Value → Result → Prop) : Prop :=
  (∀ entry ∈ left.log, allowed entry) → (∀ entry ∈ right.log, allowed entry) →
    ∀ first second, left.outcome = .ok first → right.outcome = .ok second → post first second

section Relates

variable {Value Result Value' Result' : Type} {allowed : Entry → Prop}
  {left : Traced Entry Fault Value} {right : Traced Entry Fault Result}
  {nextLeft : Value → Traced Entry Fault Value'} {nextRight : Result → Traced Entry Fault Result'}
  {mid : Value → Result → Prop} {post : Value' → Result' → Prop}

theorem Relates.pure {first : Value} {second : Result} (holds : mid first second) :
    Relates allowed (pure first : Traced Entry Fault Value) (pure second) mid := by
  intro _ _ first' second' doneLeft doneRight
  cases doneLeft
  cases doneRight
  exact holds

theorem Relates.bind (first : Relates allowed left right mid)
    (rest : ∀ a b, mid a b → Relates allowed (nextLeft a) (nextRight b) post) :
    Relates allowed (left >>= nextLeft) (right >>= nextRight) post := by
  intro cleanLeft cleanRight result result' doneLeft doneRight
  obtain ⟨a, leftDone, nextDone⟩ := bind_eq_ok.mp doneLeft
  obtain ⟨b, rightDone, nextDone'⟩ := bind_eq_ok.mp doneRight
  rw [bind_of_ok leftDone] at cleanLeft
  rw [bind_of_ok rightDone] at cleanRight
  have related := first (fun entry member => cleanLeft entry (List.mem_append_left _ member))
    (fun entry member => cleanRight entry (List.mem_append_left _ member)) a b leftDone rightDone
  exact rest a b related
    (fun entry member => cleanLeft entry (List.mem_append_right _ member))
    (fun entry member => cleanRight entry (List.mem_append_right _ member)) result result'
    nextDone nextDone'

theorem Relates.note {entry entry' : Entry} {post : Unit → Unit → Prop}
    (holds : allowed entry → allowed entry' → post () ()) :
    Relates allowed (Traced.note entry : Traced Entry Fault Unit) (Traced.note entry') post :=
  fun clean clean' _ _ _ _ => holds (clean entry (List.mem_singleton_self entry))
    (clean' entry' (List.mem_singleton_self entry'))

theorem Relates.lift {outcome : Except Fault Value} {outcome' : Except Fault Result}
    (holds : ∀ first second, outcome = .ok first → outcome' = .ok second → mid first second) :
    Relates allowed (Traced.lift outcome : Traced Entry Fault Value) (Traced.lift outcome') mid :=
  fun _ _ first second done done' => holds first second done done'

theorem Relates.fail_left {fault : Fault} :
    Relates allowed (Traced.fail fault) right mid := fun _ _ _ _ failed _ => nomatch failed

theorem Relates.fail_right {fault : Fault} :
    Relates allowed left (Traced.fail fault) mid := fun _ _ _ _ _ failed => nomatch failed

/-- Two programs that decide alike are compared branch by branch. -/
theorem Relates.ite {condition condition' : Prop} [Decidable condition] [Decidable condition']
    {left' : Traced Entry Fault Value} {right' : Traced Entry Fault Result}
    (same : condition ↔ condition')
    (onTrue : condition → Relates allowed left right mid)
    (onFalse : ¬ condition → Relates allowed left' right' mid) :
    Relates allowed (if condition then left else left')
      (if condition' then right else right') mid := by
  by_cases holds : condition
  · rw [if_pos holds, if_pos (same.mp holds)]
    exact onTrue holds
  · rw [if_neg holds, if_neg fun other => holds (same.mpr other)]
    exact onFalse holds

theorem Relates.mono {weaker : Value → Result → Prop} (relates : Relates allowed left right mid)
    (implies : ∀ first second, mid first second → weaker first second) :
    Relates allowed left right weaker := fun clean clean' first second done done' =>
  implies first second (relates clean clean' first second done done')

end Relates

end Traced

end QuantAgent
