/-
This file treats a list of checks: conditions with the faults of their failures, tried in order
until one fails. Nothing here names the repository.
-/

import Mathlib

namespace QuantAgent

/-- A condition and the fault of its failure. -/
structure Check (Fault : Type) where
  holds : Bool
  fault : Fault

namespace Check

variable {Fault : Type}

def require (condition : Prop) [Decidable condition] (fault : Fault) : Check Fault :=
  ⟨condition, fault⟩

/-- Try the checks in order. -/
def run : List (Check Fault) → Except Fault Unit
  | [] => .ok ()
  | check :: rest => if check.holds then run rest else .error check.fault

theorem run_nil : run ([] : List (Check Fault)) = .ok () := rfl

theorem run_cons (check : Check Fault) (rest : List (Check Fault)) :
    run (check :: rest) = if check.holds then run rest else .error check.fault := rfl

theorem run_eq_ok_iff (checks : List (Check Fault)) :
    run checks = .ok () ↔ ∀ check ∈ checks, check.holds = true := by
  induction checks with
  | nil => simp [run]
  | cons check rest inductionHypothesis =>
    rw [List.forall_mem_cons, ← inductionHypothesis, run_cons]
    cases check.holds <;> simp

theorem run_require_eq_ok_iff (condition : Prop) [Decidable condition] (fault : Fault)
    (rest : List (Check Fault)) :
    run (require condition fault :: rest) = .ok () ↔ condition ∧ run rest = .ok () := by
  rw [run_eq_ok_iff, run_eq_ok_iff, List.forall_mem_cons]
  exact and_congr_left' decide_eq_true_iff

theorem run_append_eq_ok_iff (first second : List (Check Fault)) :
    run (first ++ second) = .ok () ↔ run first = .ok () ∧ run second = .ok () := by
  rw [run_eq_ok_iff, run_eq_ok_iff, run_eq_ok_iff, List.forall_mem_append]

end Check

end QuantAgent
