/-
This file treats slices of a list whose bounds are integers, a negative bound counting from the
end, and the trailing windows of the prefixes of a list. The last windows of a list are those of
a long enough suffix of it. Nothing here names the repository.
-/

import Mathlib

namespace Slices

variable {Value : Type} {values : List Value} {width index count : ℕ}

/-! ### Slices -/

/-- The place a bound stands for: a negative one counts from the end, and none leaves the list. -/
def place (length : ℕ) (bound : ℤ) : ℕ :=
  if bound < 0 then (length + bound).toNat else min bound.toNat length

/-- `values[lower:upper]`. -/
def slice (values : List Value) (lower upper : ℤ) : List Value :=
  (values.take (place values.length upper)).drop (place values.length lower)

/-- `values[lower:]`. -/
def sliceFrom (values : List Value) (lower : ℤ) : List Value :=
  values.drop (place values.length lower)

theorem place_of_nonneg {length : ℕ} {bound : ℤ} (nonneg : 0 ≤ bound) :
    place length bound = min bound.toNat length :=
  if_neg (not_lt.mpr nonneg)

theorem sliceFrom_neg {bound : ℤ} (positive : 0 < bound) :
    sliceFrom values (-bound) = values.rtake bound.toNat := by
  unfold sliceFrom place List.rtake
  rw [if_pos (by omega)]
  congr 1
  omega

theorem slice_window {bound : ℤ} (positive : 0 < bound) (inside : index < values.length) :
    slice values (max 0 (index - bound + 1)) (index + 1) =
      (values.take (index + 1)).rtake bound.toNat := by
  unfold slice List.rtake
  rw [place_of_nonneg (le_max_left _ _), place_of_nonneg (by omega), List.length_take]
  congr 1
  · omega
  · congr 1
    omega

/-- Without a positive width the window of the first index is empty. -/
theorem slice_first_window {bound : ℤ} (nonpositive : bound ≤ 0) :
    slice values (max 0 ((0 : ℕ) - bound + 1)) ((0 : ℕ) + 1) = [] := by
  unfold slice
  rw [place_of_nonneg (le_max_left _ _), place_of_nonneg (by omega), List.drop_eq_nil_iff,
    List.length_take]
  omega

/-! ### Trailing parts -/

theorem rtake_eq_self (short : values.length ≤ count) : values.rtake count = values := by
  unfold List.rtake
  rw [Nat.sub_eq_zero_of_le short, List.drop_zero]

theorem length_rtake (values : List Value) (count : ℕ) :
    (values.rtake count).length = min count values.length := by
  unfold List.rtake
  rw [List.length_drop]
  omega

theorem rtake_ne_nil (positive : 0 < count) (nonempty : values ≠ []) :
    values.rtake count ≠ [] := by
  rw [← List.length_pos_iff, length_rtake]
  exact lt_min positive (List.length_pos_iff.mpr nonempty)

theorem rtake_map {Result : Type} (change : Value → Result) (values : List Value) (count : ℕ) :
    (values.map change).rtake count = (values.rtake count).map change := by
  unfold List.rtake
  rw [List.length_map, List.map_drop]

theorem getLast?_rtake (positive : 0 < count) (values : List Value) :
    (values.rtake count).getLast? = values.getLast? := by
  unfold List.rtake
  rw [List.getLast?_drop]
  split_ifs with whole
  · cases values with
    | nil => rfl
    | cons value rest =>
      rw [List.length_cons] at whole
      omega
  · rfl

/-! ### The windows of the prefixes -/

/-- The trailing window of every prefix but the empty one. -/
def windows (width : ℕ) (values : List Value) : List (List Value) :=
  (List.range values.length).map fun index => (values.take (index + 1)).rtake width

theorem length_windows (width : ℕ) (values : List Value) :
    (windows width values).length = values.length := by
  unfold windows
  rw [List.length_map, List.length_range]

theorem getElem_windows (inside : index < (windows width values).length) :
    (windows width values)[index] = (values.take (index + 1)).rtake width := by
  simp [windows]

theorem getElem_rtake {position : ℕ} (inside : position < (values.rtake count).length)
    (shifted : values.length - count + position < values.length) :
    (values.rtake count)[position] = values[values.length - count + position] := by
  simp [List.rtake]

/-- A window does not see what is dropped before it. -/
theorem rtake_drop (fits : count + index ≤ values.length ∨ index = 0) :
    (values.drop index).rtake count = values.rtake count := by
  unfold List.rtake
  rw [List.drop_drop, List.length_drop]
  congr 1
  omega

/-- The windows of the last items of a list need that many items and a window less one. -/
theorem rtake_windows (positive : 0 < width) (values : List Value) (count : ℕ) :
    (windows width (values.rtake (count + width - 1))).rtake (min count values.length) =
      (windows width values).rtake count := by
  have suffix : values.rtake (count + width - 1) =
      values.drop (values.length - (count + width - 1)) := rfl
  rw [suffix]
  refine List.ext_getElem ?_ ?_
  · rw [length_rtake, length_rtake, length_windows, length_windows, List.length_drop]
    omega
  · intro position inSuffix inWhole
    rw [length_rtake, length_windows, List.length_drop] at inSuffix
    rw [length_rtake, length_windows] at inWhole
    have shiftedSuffix :
        (windows width (values.drop (values.length - (count + width - 1)))).length -
        min count values.length + position <
          (windows width (values.drop (values.length - (count + width - 1)))).length := by
      rw [length_windows, List.length_drop]
      omega
    have shiftedWhole : (windows width values).length - count + position <
        (windows width values).length := by
      rw [length_windows]
      omega
    rw [getElem_rtake _ shiftedSuffix, getElem_rtake _ shiftedWhole, getElem_windows,
      getElem_windows, List.take_drop, rtake_drop]
    · congr 2
      rw [length_windows, length_windows, List.length_drop]
      omega
    · rw [List.length_take, length_windows, List.length_drop]
      omega

end Slices
