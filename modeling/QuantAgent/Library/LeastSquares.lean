/-
This file treats the fit of a vector by a combination of some columns whose residual is orthogonal
to all of them. The fit depends on nothing but the span of the columns, it is linear in the vector,
and elimination of one column after another finds one. Nothing here names the repository.
-/

import Mathlib.LinearAlgebra.Matrix.DotProduct
import Mathlib.Data.List.Perm.Basic
import Mathlib.Algebra.Order.Field.Basic
import Mathlib.Tactic.Abel

namespace LeastSquares

section

variable {K : Type} [Field K] {n : ℕ}

def combine : List K → List (Fin n → K) → Fin n → K
  | coefficient :: coefficients, column :: columns =>
    coefficient • column + combine coefficients columns
  | _, _ => 0

/-- The residual of a fit is orthogonal to every column. -/
def Normal (columns : List (Fin n → K)) (target fitted : Fin n → K) : Prop :=
  ∀ column ∈ columns, column ⬝ᵥ (target - fitted) = 0

theorem combine_nil (coefficients : List K) :
    combine coefficients ([] : List (Fin n → K)) = 0 := by
  cases coefficients <;> rfl

variable {columns : List (Fin n → K)}

theorem combine_dotProduct {vector : Fin n → K}
    (orthogonal : ∀ column ∈ columns, column ⬝ᵥ vector = 0) (coefficients : List K) :
    combine coefficients columns ⬝ᵥ vector = 0 := by
  induction columns generalizing coefficients with
  | nil => rw [combine_nil, zero_dotProduct]
  | cons column rest inductionHypothesis =>
    obtain ⟨first, others⟩ := List.forall_mem_cons.mp orthogonal
    cases coefficients with
    | nil => exact zero_dotProduct vector
    | cons coefficient coefficients =>
      unfold combine
      rw [add_dotProduct, smul_dotProduct, first, smul_zero, zero_add]
      exact inductionHypothesis others coefficients

theorem combine_map_mul (factor : K) (coefficients : List K) (columns : List (Fin n → K)) :
    combine (coefficients.map (factor * ·)) columns = factor • combine coefficients columns := by
  induction columns generalizing coefficients with
  | nil => rw [combine_nil, combine_nil, smul_zero]
  | cons column rest inductionHypothesis =>
    cases coefficients with
    | nil => exact (smul_zero factor).symm
    | cons coefficient coefficients =>
      rw [List.map_cons]
      unfold combine
      rw [inductionHypothesis, smul_add, mul_smul]

variable {first second : List K}

theorem combine_sub_mul (factor : K) (ofFirst : first.length = columns.length)
    (ofSecond : second.length = columns.length) :
    combine (first.zipWith (fun one other => one - factor * other) second) columns =
      combine first columns - factor • combine second columns := by
  induction columns generalizing first second with
  | nil => rw [combine_nil, combine_nil, combine_nil, smul_zero, sub_zero]
  | cons column rest inductionHypothesis =>
    obtain ⟨one, first, rfl⟩ := List.exists_cons_of_length_eq_add_one ofFirst
    obtain ⟨other, second, rfl⟩ := List.exists_cons_of_length_eq_add_one ofSecond
    rw [List.zipWith_cons_cons]
    unfold combine
    rw [inductionHypothesis (Nat.succ.inj ofFirst) (Nat.succ.inj ofSecond), sub_smul, smul_add,
      mul_smul]
    abel

variable [LinearOrder K] [IsStrictOrderedRing K]

/-- Two fits of a vector by the same columns are equal, whatever their order. -/
theorem fitted_unique {columns others : List (Fin n → K)}
    (same : ∀ column, column ∈ columns ↔ column ∈ others) {target : Fin n → K}
    (normal : Normal columns target (combine first columns))
    (normalOther : Normal others target (combine second others)) :
    combine first columns = combine second others := by
  have orthogonal : ∀ column ∈ columns,
      column ⬝ᵥ (combine first columns - combine second others) = 0 := by
    intro column member
    have apart : combine first columns - combine second others =
        (target - combine second others) - (target - combine first columns) := by abel
    rw [apart, dotProduct_sub, normal column member,
      normalOther column ((same column).mp member), sub_zero]
  have square : (combine first columns - combine second others) ⬝ᵥ
      (combine first columns - combine second others) = 0 := by
    rw [sub_dotProduct, combine_dotProduct orthogonal, combine_dotProduct fun column member =>
      orthogonal column ((same column).mpr member), sub_zero]
  exact sub_eq_zero.mp (dotProduct_self_eq_zero.mp square)

/-- The fit of a multiple is the multiple of the fit. -/
theorem fitted_smul (factor : K) {target : Fin n → K}
    (normal : Normal columns target (combine first columns))
    (normalScaled : Normal columns (factor • target) (combine second columns)) :
    combine second columns = factor • combine first columns := by
  rw [← combine_map_mul]
  refine fitted_unique (fun _ => Iff.rfl) normalScaled fun column member => ?_
  rw [combine_map_mul, ← smul_sub, dotProduct_smul, normal column member, smul_zero]

/-! ### Elimination -/

/-- The coefficients of a fit, from the part of every column that those after it do not fit. -/
def solve : List (Fin n → K) → (Fin n → K) → List K
  | [], _ => []
  | column :: columns, target =>
    let inner := solve columns column
    let residual := column - combine inner columns
    if residual ⬝ᵥ residual = 0 then 0 :: solve columns target
    else
      let factor := (residual ⬝ᵥ target) / (residual ⬝ᵥ residual)
      factor :: (solve columns target).zipWith (fun one other => one - factor * other) inner

omit [IsStrictOrderedRing K] in
theorem solve_length (columns : List (Fin n → K)) (target : Fin n → K) :
    (solve columns target).length = columns.length := by
  induction columns generalizing target with
  | nil => rfl
  | cons column rest inductionHypothesis =>
    unfold solve
    dsimp only
    split_ifs
    · rw [List.length_cons, List.length_cons, inductionHypothesis]
    · rw [List.length_cons, List.length_cons, List.length_zipWith, inductionHypothesis,
        inductionHypothesis, Nat.min_self]

/-- Elimination finds a fit. -/
theorem solve_normal (columns : List (Fin n → K)) (target : Fin n → K) :
    Normal columns target (combine (solve columns target) columns) := by
  induction columns generalizing target with
  | nil => exact fun column member => absurd member List.not_mem_nil
  | cons column rest inductionHypothesis =>
    have inner := inductionHypothesis column
    have outer := inductionHypothesis target
    -- The column is the sum of its fit by the others and what they do not fit.
    have split (vector : Fin n → K) (orthogonal : ∀ other ∈ rest, other ⬝ᵥ vector = 0) :
        column ⬝ᵥ vector = (column - combine (solve rest column) rest) ⬝ᵥ vector := by
      rw [sub_dotProduct, combine_dotProduct orthogonal, sub_zero]
    unfold solve
    dsimp only
    split_ifs with fitted
    · have within := sub_eq_zero.mp (dotProduct_self_eq_zero.mp fitted)
      unfold combine
      rw [zero_smul, zero_add]
      refine List.forall_mem_cons.mpr ⟨?_, outer⟩
      rw [split _ outer, sub_eq_zero.mpr within, zero_dotProduct]
    · set residual := column - combine (solve rest column) rest with own
      have fit : combine ((residual ⬝ᵥ target) / (residual ⬝ᵥ residual) ::
          (solve rest target).zipWith (fun one other =>
            one - (residual ⬝ᵥ target) / (residual ⬝ᵥ residual) * other) (solve rest column))
              (column :: rest) = combine (solve rest target) rest +
                ((residual ⬝ᵥ target) / (residual ⬝ᵥ residual)) • residual := by
        rw [combine, combine_sub_mul _ (solve_length rest target) (solve_length rest column), own,
          smul_sub]
        abel
      have others : ∀ other ∈ rest, other ⬝ᵥ (target - (combine (solve rest target) rest +
          ((residual ⬝ᵥ target) / (residual ⬝ᵥ residual)) • residual)) = 0 := by
        intro other member
        rw [← sub_sub, dotProduct_sub, outer other member, dotProduct_smul, inner other member,
          smul_zero, sub_zero]
      rw [fit]
      refine List.forall_mem_cons.mpr ⟨?_, others⟩
      rw [split _ others, ← sub_sub, dotProduct_sub, dotProduct_sub,
        dotProduct_comm residual (combine _ _), combine_dotProduct inner, sub_zero,
        dotProduct_smul, smul_eq_mul, div_mul_cancel₀ _ fitted, sub_self]

end

end LeastSquares
