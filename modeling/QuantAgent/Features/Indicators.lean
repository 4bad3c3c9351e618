/-
This file embeds the indicator functions and the shortcuts for their latest values.

They are read over any ordered field in place of floats. A division raises when its divisor is
zero, and the square root, taken of a mean of squares, is a parameter.
-/

import QuantAgent.Library.Numerals
import QuantAgent.Library.Refusal
import QuantAgent.Library.Slices
import QuantAgent.Library.Smoothing

namespace QuantAgent.Indicators

open Numerals

/-- What an indicator may raise. -/
inductive Fault where
  | valueError (message : String)
  | zeroDivision
  | indexError

section

variable {K : Type} [Field K] [LinearOrder K]

/-- `values[-1]`. -/
def latest (values : List K) : Except Fault K := values.getLast?.elim (.error .indexError) .ok

/-! ### True range and smoothing -/

def rangesAfter : K → List K → List K → List K → List K
  | previous, high :: highs, low :: lows, close :: closes =>
    max (max (high - low) |high - previous|) |low - previous| ::
      rangesAfter close highs lows closes
  | _, _, _, _ => []

/-- The range of the first bar and those of the bars after it. -/
def rangesOf : List K → List K → List K → List K
  | high :: highs, low :: lows, close :: closes =>
    (high - low) :: rangesAfter close highs lows closes
  | _, _, _ => []

def trueRanges (highs lows closes : List K) : Except Fault (List K) := do
  refuse (¬ (highs.length = lows.length ∧ lows.length = closes.length) ∨ closes = [])
    (.valueError "OHLC lengths must match and be non-empty")
  return rangesOf highs lows closes

def wilder (values : List K) (period : ℤ) : Except Fault (List K) := do
  refuse (period ≤ 0 ∨ values = [])
    (.valueError "Wilder smoothing requires values and period > 0")
  let alpha ← divide .zeroDivision 1 (period : K)
  return Smoothing.smooth alpha values

def atr (highs lows closes : List K) (period : ℤ) : Except Fault (List K) := do
  wilder (← trueRanges highs lows closes) period

/-! ### Directional movement -/

/-- `up if up > down and up > 0 else 0.0`. -/
def dominant (up down : K) : K := if down < up ∧ 0 < up then up else 0

def movementsAfter (movement : K → K → K) : K → K → List K → List K → List K
  | previousHigh, previousLow, high :: highs, low :: lows =>
    movement (high - previousHigh) (previousLow - low) ::
      movementsAfter movement high low highs lows
  | _, _, _, _ => []

/-- The movements begin with a zero for the first bar. -/
def movements (movement : K → K → K) : List K → List K → List K
  | high :: highs, low :: lows => 0 :: movementsAfter movement high low highs lows
  | _, _ => [0]

def plusDm (highs lows : List K) : List K := movements (fun up down => dominant up down) highs lows

def minusDm (highs lows : List K) : List K := movements (fun up down => dominant down up) highs lows

def directionalIndex (movement tr : K) : Except Fault K := divide .zeroDivision (100 * movement) tr

/-- One turn of the loop of `adx`. -/
def dxOf (tr plus minus : K) : Except Fault K :=
  if tr ≤ 0 then .ok 0
  else do
    let plusDi ← directionalIndex plus tr
    let minusDi ← directionalIndex minus tr
    let denom := plusDi + minusDi
    if denom ≠ 0 then divide .zeroDivision (100 * |plusDi - minusDi|) denom else return 0

/-- `adx`. The three smoothed lists have one length, so the strict `zip` does not raise. -/
def adx (highs lows closes : List K) (period : ℤ) : Except Fault (List K) :=
  if closes.length < 2 then .ok (List.replicate closes.length 0)
  else do
    let trs ← trueRanges highs lows closes
    let atrValues ← wilder trs period
    let plusSmoothed ← wilder (plusDm highs lows) period
    let minusSmoothed ← wilder (minusDm highs lows) period
    let dx ← (atrValues.zip (plusSmoothed.zip minusSmoothed)).mapM fun smoothed =>
      dxOf smoothed.1 smoothed.2.1 smoothed.2.2
    wilder dx period

/-! ### Relative strength -/

/-- The gains and losses after a value. -/
def changesAfter (part : K → K) : K → List K → List K
  | _, [] => []
  | prior, current :: rest => part (current - prior) :: changesAfter part current rest

/-- The gains or losses begin with a zero for the first value. -/
def changes (part : K → K) : List K → List K
  | [] => [0]
  | first :: rest => 0 :: changesAfter part first rest

def gains (values : List K) : List K := changes (fun change => max change 0) values

def losses (values : List K) : List K := changes (fun change => max (-change) 0) values

/-- One turn of the loop of `rsi`. -/
def rsiOf (gain loss : K) : Except Fault K :=
  if loss = 0 then .ok (if 0 < gain then 100 else 50)
  else do
    let relativeStrength ← divide .zeroDivision gain loss
    let share ← divide .zeroDivision 100 (1 + relativeStrength)
    return 100 - share

/-- `rsi`. The two averages have one length, so the strict `zip` does not raise. -/
def rsi (values : List K) (period : ℤ) : Except Fault (List K) := do
  refuse (period ≤ 0 ∨ values = []) (.valueError "RSI requires values and period > 0")
  let avgGain ← wilder (gains values) period
  let avgLoss ← wilder (losses values) period
  (avgGain.zip avgLoss).mapM fun averages => rsiOf averages.1 averages.2

/-! ### Rolling series -/

def rankIn (sample : List K) (value : Except Fault K) : Except Fault K := do
  let flags ← sample.mapM fun item => do
    let reference ← value
    return decide (item ≤ reference)
  divide .zeroDivision (flags.count true) sample.length

def percentileRank (values : List K) (lookback : ℤ) : Except Fault (List K) :=
  values.zipIdx.mapM fun entry =>
    rankIn (Slices.slice values (max 0 (entry.2 - lookback + 1)) (entry.2 + 1)) (.ok entry.1)

def latestPercentile (values : List K) (lookback : ℤ) : Except Fault K :=
  rankIn (Slices.sliceFrom values (-lookback)) (latest values)

def meanOf (sample : List K) : Except Fault K := divide .zeroDivision sample.sum sample.length

def varianceOf (sample : List K) (mean : K) : Except Fault K :=
  divide .zeroDivision (sample.map fun value => (value - mean) ^ 2).sum sample.length

variable (sqrt : K → K)

def zscoreIn (sample : List K) (value : Except Fault K) : Except Fault K := do
  let mean ← meanOf sample
  let variance ← varianceOf sample mean
  let std := sqrt variance
  if 0 < std then do
    let reference ← value
    divide .zeroDivision (reference - mean) std
  else return 0

def rollingZscore (values : List K) (window : ℤ) : Except Fault (List K) :=
  values.zipIdx.mapM fun entry =>
    zscoreIn sqrt (Slices.slice values (max 0 (entry.2 - window + 1)) (entry.2 + 1)) (.ok entry.1)

def latestZscore (values : List K) (window : ℤ) : Except Fault K :=
  zscoreIn sqrt (Slices.sliceFrom values (-window)) (latest values)

def widthOf (sample : List K) : Except Fault K := do
  let mean ← meanOf sample
  let variance ← varianceOf sample mean
  let std := sqrt variance
  if mean ≠ 0 then divide .zeroDivision (4 * std) mean else return 0

def bollingerWidth (values : List K) (period : ℤ) : Except Fault (List K) := do
  refuse (period ≤ 1 ∨ values = [])
    (.valueError "Bollinger width requires values and period > 1")
  (List.range values.length).mapM fun index : ℕ =>
    widthOf sqrt (Slices.slice values (max 0 (index - period + 1)) (index + 1))

def latestBbWidthPercentile (closes : List K) (period lookback : ℤ) : Except Fault K := do
  let source := Slices.sliceFrom closes (-(lookback + period - 1))
  let all ← bollingerWidth sqrt source period
  let widths := Slices.sliceFrom all (-(min lookback closes.length))
  latestPercentile widths widths.length

end

end QuantAgent.Indicators
