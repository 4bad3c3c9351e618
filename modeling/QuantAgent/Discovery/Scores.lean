/-
This file embeds the hourly bars of the discovery evidence and what is computed from them at a
decision hour: the scores of the direction contracts and the scalars of volatility and range.

Nothing here depends on how floats are calculated with, so their arithmetic is left open.
-/

import Mathlib

namespace QuantAgent.Discovery

/-! ### Floats -/

/-- The operations on floats that are used; `Finite` are the finite ones, in their order. -/
class Arithmetic (Number : Type) (Finite : outParam Type) where
  literal : ℚ → Number
  add : Number → Number → Number
  sub : Number → Number → Number
  mul : Number → Number → Number
  div : Number → Number → Number
  abs : Number → Number
  square : Number → Number
  sqrt : Number → Number
  sum : List Number → Number
  /-- `math.log`, which may raise. -/
  log : Number → Option Number
  less : Number → Number → Bool
  lessEqual : Number → Number → Bool
  equal : Number → Number → Bool
  /-- The float itself if `math.isfinite`. -/
  finite : Number → Option Finite

/-- What a reconstruction may raise. -/
inductive Fault where
  | mathDomain
  | unsupportedFilter (contract : String)
  | unsupportedContract (contract : String)

section

variable {Number Finite : Type} [Arithmetic Number Finite]

open Arithmetic

def logarithm (value : Number) : Except Fault Number := (log value).elim (.error .mathDomain) .ok

/-- `max` and `min` of a first value and others. -/
def maximum (first : Number) (others : List Number) : Number :=
  others.foldl (fun best value => if less best value then value else best) first

def minimum (first : Number) (others : List Number) : Number :=
  others.foldl (fun best value => if less value best then value else best) first

end

/-! ### Bars -/

/-- An hourly bar; times are hours, but the time of the close is in milliseconds. -/
structure Bar (Number : Type) where
  timestamp : ℤ
  openPrice : Number
  high : Number
  low : Number
  close : Number
  closeTime : Option ℤ := none

def hourMs : ℤ := 60 * 60 * 1000

def Bar.effectiveCloseTime {Number : Type} (bar : Bar Number) : ℤ :=
  bar.closeTime.getD (bar.timestamp * hourMs + hourMs - 1)

/-- Bars by the hour they open in and their product. -/
abbrev BarTable (Number : Type) := Finmap fun _ : ℤ × String => Bar Number

section

variable {Number Finite : Type} [Arithmetic Number Finite] (bars : BarTable Number) (t : ℤ)
  (product : String)

open Arithmetic

def closedBar (hour : ℤ) : Option (Bar Number) :=
  (bars.lookup (hour, product)).filter fun bar => bar.effectiveCloseTime < t * hourMs

/-! ### Scores -/

def computeD1 (lookbackHours : ℕ) : Except Fault Number :=
  match closedBar bars t product (t - 1), closedBar bars t product (t - lookbackHours) with
  | some last, some previous => logarithm (div last.close previous.close)
  | _, _ => .ok (literal 0)

def referenceRange (rangeHours : ℕ) : List (Bar Number) → Option (Number × Number)
  | [] => none
  | first :: others =>
    let upper := maximum first.high (others.map Bar.high)
    let lower := minimum first.low (others.map Bar.low)
    if others.length + 1 < rangeHours * 6 / 24 then none
    else if equal lower upper then none
    else some (upper, lower)

def computeD2 (rangeHours : ℕ) : Number :=
  match closedBar bars t product (t - 1) with
  | none => literal 0
  | some test =>
    let references := ((List.range' 2 (rangeHours - 2)).filterMap fun hours : ℕ =>
      closedBar bars t product (t - hours)).filter fun bar =>
        t - rangeHours < bar.timestamp ∧ bar.timestamp < t ∧ bar.timestamp ≠ test.timestamp
    match referenceRange rangeHours references with
    | none => literal 0
    | some (upper, lower) =>
      if less upper test.close then literal 1
      else if less test.close lower then literal (-1)
      else literal 0

def computeD3 (rangeHours : ℕ) : Number :=
  match closedBar bars t product (t - 1), closedBar bars t product (t - 2) with
  | some second, some first =>
    let references := ((List.range' 3 (rangeHours - 2)).filterMap fun hours : ℕ =>
      closedBar bars (t - 1) product (t - hours)).filter fun bar =>
        t - 1 - rangeHours < bar.timestamp ∧ bar.timestamp < t - 1 ∧
          bar.timestamp ≠ first.timestamp
    match referenceRange rangeHours references with
    | none => literal 0
    | some (upper, lower) =>
      if less upper first.close ∧ less second.close upper then literal (-1)
      else if less first.close lower ∧ less lower second.close then literal 1
      else literal 0
  | _, _ => literal 0

/-! ### Scalars -/

/-- The closed bars of the last hours, oldest first, if none is missing. -/
def closedBars (hours : ℕ) : Option (List (Bar Number)) :=
  (List.range' 1 hours).reverse.mapM fun hour : ℕ => closedBar bars t product (t - hour)

def computeRVolScalar : Except Fault (Option Finite) :=
  match closedBars bars t product 24 with
  | none => .ok none
  | some window => do
    let closes := window.map Bar.close
    let returns ← (closes.zip closes.tail).mapM fun pair => logarithm (div pair.2 pair.1)
    let mean := div (sum returns) (literal 23)
    let variance := div (sum (returns.map fun value => square (sub value mean))) (literal 22)
    .ok (if less variance (literal 0) then none else finite (sqrt variance))

def computeORangeScalar : Option Finite := do
  let window ← closedBars bars t product 25
  let prior ← closedBar bars t product (t - 26)
  if (finite prior.close).isNone ∨ lessEqual prior.close (literal 0) then none
  else
    let trueRanges := (window.zip (prior.close :: window.map Bar.close)).map fun (bar, previous) =>
      maximum (sub bar.high bar.low) [abs (sub bar.high previous), abs (sub bar.low previous)]
    let mean := div (sum (trueRanges.take 24)) (literal 24)
    if lessEqual mean (literal 0) then none
    else finite (div (trueRanges.getD 24 (literal 0)) mean)

end

end QuantAgent.Discovery
