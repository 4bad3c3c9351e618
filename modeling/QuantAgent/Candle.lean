/-
This file embeds the OHLC bar that every engine of the repository reads.

`Candle.__post_init__` refuses a bar whose close does not lie after its open, whose low or
high does not bound its open and close, or whose volumes are negative. The embedding carries
these checks as fields, so a bar that the constructor would refuse cannot be built. Prices
and volumes are rationals: the engines are read in exact arithmetic.
-/

import Mathlib

namespace QuantAgent

theorem Candle.minute_positive : (0 : Int) < 60000 := by decide

theorem Candle.unit_volume : (0 : ℚ) ≤ min 1 0 := by decide +kernel

/-- A bar of one symbol (`domain.Candle`), with the checks of its constructor. -/
structure Candle where
  symbol : String
  interval : String
  openTimeMs : Int
  closeTimeMs : Int
  openPrice : ℚ
  high : ℚ
  low : ℚ
  close : ℚ
  volume : ℚ
  quoteVolume : ℚ := 0
  closeAfterOpen : openTimeMs < closeTimeMs := by
    first | exact Candle.minute_positive | decide +kernel
  lowBound : low ≤ min openPrice close := by decide +kernel
  highBound : max openPrice close ≤ high := by decide +kernel
  volumesNonneg : 0 ≤ min volume quoteVolume := by
    first | exact Candle.unit_volume | decide +kernel
  deriving DecidableEq

namespace Candle

theorem low_le_open (candle : Candle) : candle.low ≤ candle.openPrice :=
  le_trans candle.lowBound (min_le_left _ _)

theorem low_le_close (candle : Candle) : candle.low ≤ candle.close :=
  le_trans candle.lowBound (min_le_right _ _)

theorem open_le_high (candle : Candle) : candle.openPrice ≤ candle.high :=
  le_trans (le_max_left _ _) candle.highBound

theorem close_le_high (candle : Candle) : candle.close ≤ candle.high :=
  le_trans (le_max_right _ _) candle.highBound

theorem low_le_high (candle : Candle) : candle.low ≤ candle.high :=
  le_trans candle.low_le_open candle.open_le_high

theorem volume_nonneg (candle : Candle) : 0 ≤ candle.volume :=
  le_trans candle.volumesNonneg (min_le_left _ _)

end Candle

end QuantAgent
