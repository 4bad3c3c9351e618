/-
This file gives guards of fallible computations a name and the one lemma they need: a guarded
computation succeeds exactly when the guard lets it pass and the rest succeeds.
-/

import Mathlib

namespace QuantAgent

variable {Fault Value Result : Type}

/-- Refuse with a message when the condition holds. -/
def refuse (condition : Prop) [Decidable condition] (fault : Fault) : Except Fault Unit :=
  if condition then .error fault else .ok ()

variable {condition : Prop} {fault : Fault} {result : Result}

@[simp] theorem refuse_bind_eq_ok [Decidable condition] {next : Unit → Except Fault Result} :
    (refuse condition fault >>= next) = .ok result ↔ ¬ condition ∧ next () = .ok result := by
  unfold refuse
  by_cases holds : condition
  · simp [holds, bind, Except.bind]
  · simp [holds, bind, Except.bind]

@[simp] theorem refuse_eq_ok [Decidable condition] :
    refuse condition fault = .ok () ↔ ¬ condition := by
  unfold refuse
  by_cases holds : condition <;> simp [holds]

theorem refuse_of_not [Decidable condition] (passes : ¬ condition) :
    refuse condition fault = .ok () :=
  if_neg passes

section

variable {K : Type} [DivisionRing K] [DecidableEq K] {fault : Fault} {value divisor quotient : K}

/-- A quotient, unless the divisor is zero. -/
def divide (fault : Fault) (value divisor : K) : Except Fault K :=
  if divisor = 0 then .error fault else .ok (value / divisor)

theorem divide_of_ne (nonzero : divisor ≠ 0) :
    divide fault value divisor = .ok (value / divisor) := if_neg nonzero

theorem divide_zero : divide fault value 0 = .error fault := if_pos rfl

theorem divide_eq_ok :
    divide fault value divisor = .ok quotient ↔ divisor ≠ 0 ∧ value / divisor = quotient := by
  unfold divide
  by_cases zero : divisor = 0 <;> simp [zero]

end

variable {program : Except Fault Value} {next : Value → Except Fault Result}

/-- A sequence of fallible computations succeeds through an intermediate value. -/
theorem bind_eq_ok :
    (program >>= next) = .ok result ↔
      ∃ value, program = .ok value ∧ next value = .ok result := by
  cases program with
  | ok value => simp [bind, Except.bind]
  | error fault => simp [bind, Except.bind]

theorem map_eq_ok {wrap : Value → Result} :
    program.map wrap = .ok result ↔ ∃ value, program = .ok value ∧ wrap value = result := by
  cases program with
  | ok value => simp [Except.map]
  | error fault => simp [Except.map]

theorem mapError_eq_ok {Other : Type} {wrap : Fault → Other} {result : Value} :
    program.mapError wrap = .ok result ↔ program = .ok result := by
  cases program with
  | ok value => simp [Except.mapError]
  | error fault => simp [Except.mapError]

/-- A sequence of fallible computations fails in the first or in the second one. -/
theorem bind_eq_error :
    (program >>= next) = .error fault ↔
      program = .error fault ∨ ∃ value, program = .ok value ∧ next value = .error fault := by
  cases program with
  | ok value => simp [bind, Except.bind]
  | error other => simp [bind, Except.bind]

theorem refuse_bind_eq_error [Decidable condition] {fault other : Fault}
    {next : Unit → Except Fault Result} :
    (refuse condition fault >>= next) = .error other ↔
      condition ∧ fault = other ∨ ¬ condition ∧ next () = .error other := by
  unfold refuse
  by_cases holds : condition <;> simp [holds, bind, Except.bind]

theorem mapError_eq_error {Other : Type} {wrap : Fault → Other} {other : Other} :
    program.mapError wrap = .error other ↔
      ∃ fault, program = .error fault ∧ wrap fault = other := by
  cases program with
  | ok value => simp [Except.mapError]
  | error fault => simp [Except.mapError]

theorem exists_ok_of_isOk (done : program.isOk = true) :
    ∃ value, program = .ok value := by
  cases program with
  | ok value => exact ⟨value, rfl⟩
  | error fault => cases done

theorem ok_bind (value : Value) (next : Value → Except Fault Result) :
    (Except.ok value >>= next) = next value := rfl

@[simp] theorem pure_eq_ok {value result : Value} :
    (pure value : Except Fault Value) = .ok result ↔ value = result := by
  show Except.ok value = .ok result ↔ _
  rw [Except.ok.injEq]

end QuantAgent
