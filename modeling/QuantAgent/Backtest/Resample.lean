/-
This file embeds the minute bars of the backtest, the check that they pass, and their aggregation
into bars of longer intervals, and proves that the bar that an interval closes with is the one of
the minute bars that open in it.
-/

import QuantAgent.Candle

namespace QuantAgent.Backtest

/-! ### Bars -/

theorem no_taker_volume : (0 : ℚ) ≤ 0 := le_rfl

/-- A bar with everything that an aggregation sums up. -/
structure Bar extends Candle where
  takerBuyBaseVolume : ℚ := 0
  trades : ℤ := 0
  closed : Bool := true
  takerNonneg : 0 ≤ takerBuyBaseVolume := by
    first | exact Backtest.no_taker_volume | decide +kernel
  deriving DecidableEq

/-! ### The table of intervals -/

/-- The keys of `INTERVAL_MS`. -/
inductive Frame where
  | m1
  | m15
  | h1
  | h4
  deriving DecidableEq

namespace Frame

def name : Frame → String
  | m1 => "1m"
  | m15 => "15m"
  | h1 => "1h"
  | h4 => "4h"

/-- `INTERVAL_MS`. -/
def ms : Frame → ℤ
  | m1 => 60000
  | m15 => 900000
  | h1 => 3600000
  | h4 => 14400000

/-- The key that an interval's name is, if it is one. -/
def ofName? (name : String) : Option Frame :=
  [m1, m15, h1, h4].find? fun frame => frame.name = name

/-- How many bars of the one interval a bar of the other holds. -/
def ratio (frame child : Frame) : ℕ := (frame.ms / child.ms).toNat

end Frame

/-- The intervals that the backtest aggregates its minutes into. -/
inductive Interval where
  | m15
  | h1
  | h4
  deriving DecidableEq

def Interval.frame : Interval → Frame
  | m15 => .m15
  | h1 => .h1
  | h4 => .h4

/-! ### The check of the minute bars -/

inductive Issue where
  | noCandles
  | timestampDisorder
  | duplicateCandle
  | missingCandle (before : ℤ)
  | openCandle
  | intervalMismatch
  deriving DecidableEq

def firstGap : List Bar → Option ℤ
  | previous :: current :: bars =>
    if current.openTimeMs - previous.openTimeMs ≠ 60000 then some current.openTimeMs
    else firstGap (current :: bars)
  | _ => none

/-- `validate_candles(candles, "1m")`. -/
def validateCandles (candles : List Bar) : List Issue :=
  let opens := candles.map fun bar => bar.openTimeMs
  if candles = [] then [.noCandles]
  else
    (if opens.insertionSort (· ≤ ·) ≠ opens then [.timestampDisorder] else []) ++
    (if ¬ opens.Nodup then [.duplicateCandle] else []) ++
    (firstGap candles).toList.map .missingCandle ++
    (if ∃ bar ∈ candles, bar.closed = false then [.openCandle] else []) ++
    (if ∃ bar ∈ candles, bar.interval ≠ "1m" then [.intervalMismatch] else [])

/-! ### Aggregation -/

theorem Frame.one_lt_ms (frame : Frame) : 1 < frame.ms := by
  cases frame <;> decide

theorem Frame.ms_pos (frame : Frame) : 0 < frame.ms := zero_lt_one.trans frame.one_lt_ms

def bucketOf (frame : Frame) (time : ℤ) : ℤ := time / frame.ms * frame.ms

def childrenOf (frame : Frame) (bucket : ℤ) (candles : List Bar) : List Bar :=
  candles.filter fun bar => bucketOf frame bar.openTimeMs = bucket

def lastBar (first : Bar) (rest : List Bar) : Bar := rest.getLast?.getD first

/-- `max(item.high for item in children)` and `min(item.low for item in children)`. -/
def highest (first : Bar) (rest : List Bar) : ℚ :=
  ((first :: rest).map fun bar => bar.high).max (List.cons_ne_nil _ _)

def lowest (first : Bar) (rest : List Bar) : ℚ :=
  ((first :: rest).map fun bar => bar.low).min (List.cons_ne_nil _ _)

theorem lastBar_mem (first : Bar) (rest : List Bar) : lastBar first rest ∈ first :: rest := by
  unfold lastBar
  cases last : rest.getLast? with
  | none => exact List.mem_cons_self
  | some bar => exact List.mem_cons_of_mem first (List.mem_of_getLast? last)

theorem le_highest {first bar : Bar} {rest : List Bar} (member : bar ∈ first :: rest) :
    bar.high ≤ highest first rest := by
  have held : bar.high ∈ (first :: rest).map fun bar => bar.high := List.mem_map_of_mem member
  exact List.le_max_of_mem held

theorem lowest_le {first bar : Bar} {rest : List Bar} (member : bar ∈ first :: rest) :
    lowest first rest ≤ bar.low := by
  have held : bar.low ∈ (first :: rest).map fun bar => bar.low := List.mem_map_of_mem member
  exact List.min_le_of_mem held

theorem sum_nonneg_of {amount : Bar → ℚ} (bars : List Bar) (nonneg : ∀ bar, 0 ≤ amount bar) :
    0 ≤ (bars.map amount).sum := by
  refine List.sum_nonneg fun value member => ?_
  obtain ⟨bar, -, rfl⟩ := List.mem_map.mp member
  exact nonneg bar

theorem fold_lowBound (first : Bar) (rest : List Bar) :
    lowest first rest ≤ min first.openPrice (lastBar first rest).close :=
  le_min ((lowest_le List.mem_cons_self).trans first.low_le_open)
    ((lowest_le (lastBar_mem first rest)).trans (lastBar first rest).low_le_close)

theorem fold_highBound (first : Bar) (rest : List Bar) :
    max first.openPrice (lastBar first rest).close ≤ highest first rest :=
  max_le (first.open_le_high.trans (le_highest List.mem_cons_self))
    ((lastBar first rest).close_le_high.trans (le_highest (lastBar_mem first rest)))

theorem fold_volumesNonneg (first : Bar) (rest : List Bar) :
    0 ≤ min ((first :: rest).map fun bar => bar.volume).sum
      ((first :: rest).map fun bar => bar.quoteVolume).sum :=
  le_min (sum_nonneg_of _ fun bar => bar.volume_nonneg)
    (sum_nonneg_of _ fun bar => bar.volumesNonneg.trans (min_le_right _ _))

/-- The bar that `resample` appends for some children. -/
def foldBars (frame : Frame) (bucket : ℤ) (first : Bar) (rest : List Bar) : Bar where
  symbol := first.symbol
  interval := frame.name
  openTimeMs := bucket
  closeTimeMs := bucket + frame.ms - 1
  openPrice := first.openPrice
  high := highest first rest
  low := lowest first rest
  close := (lastBar first rest).close
  volume := ((first :: rest).map fun bar => bar.volume).sum
  quoteVolume := ((first :: rest).map fun bar => bar.quoteVolume).sum
  takerBuyBaseVolume := ((first :: rest).map fun bar => bar.takerBuyBaseVolume).sum
  trades := ((first :: rest).map fun bar => bar.trades).sum
  closed := true
  closeAfterOpen := by linarith [frame.one_lt_ms]
  lowBound := fold_lowBound first rest
  highBound := fold_highBound first rest
  volumesNonneg := by exact fold_volumesNonneg first rest
  takerNonneg := by exact sum_nonneg_of (first :: rest) fun bar => bar.takerNonneg

def foldOf (frame : Frame) (bucket : ℤ) : List Bar → Option Bar
  | [] => none
  | first :: rest => some (foldBars frame bucket first rest)

def sortedByOpen (bars : List Bar) : List Bar :=
  bars.insertionSort fun bar other => bar.openTimeMs ≤ other.openTimeMs

/-- One turn of the loop over the buckets, with the interval of the first candle. -/
def bucketOutput (frame child : Frame) (bucket : ℤ) (children : List Bar) : Option Bar :=
  if children.length ≠ frame.ratio child then none
  else if ¬ (sortedByOpen children).IsChain
      fun previous current => current.openTimeMs - previous.openTimeMs = child.ms then none
  else foldOf frame bucket (sortedByOpen children)

def bucketsOf (frame : Frame) (candles : List Bar) : List ℤ :=
  (candles.map fun bar => bucketOf frame bar.openTimeMs).dedup.insertionSort (· ≤ ·)

/-- The loop over the buckets. -/
def bucketBars (frame child : Frame) (candles : List Bar) : List Bar :=
  (bucketsOf frame candles).filterMap fun bucket =>
    bucketOutput frame child bucket (childrenOf frame bucket candles)

/-- `resample`; `none` for an interval that the table does not have. -/
def resample (candles : List Bar) (interval : String) : Option (List Bar) := do
  let frame ← Frame.ofName? interval
  match candles with
  | [] => some []
  | head :: _ =>
    let child ← Frame.ofName? head.interval
    some (bucketBars frame child candles)

/-- `resample(one_minute, interval)`, of minutes that pass the check. -/
def resampleMinutes (candles : List Bar) (interval : Interval) : List Bar :=
  bucketBars interval.frame .m1 candles

/-- `{bar.close_time_ms: bar for bar in bars}`. -/
def byClose (bars : List Bar) (closeTimeMs : ℤ) : Option Bar :=
  bars.reverse.find? fun bar => bar.closeTimeMs = closeTimeMs

/-! ### What an interval closes with -/

theorem Frame.ofName?_name (frame : Frame) : Frame.ofName? frame.name = some frame := by
  cases frame <;> rfl

theorem interval_of_valid {candles : List Bar} (valid : validateCandles candles = []) :
    ∀ bar ∈ candles, bar.interval = "1m" := by
  unfold validateCandles at valid
  split_ifs at valid with empty <;> simp_all

theorem resample_minutes {candles : List Bar} (valid : validateCandles candles = [])
    (interval : Interval) :
    resample candles interval.frame.name = some (resampleMinutes candles interval) := by
  have minutes := interval_of_valid valid
  unfold resample resampleMinutes
  rw [Frame.ofName?_name]
  cases candles with
  | nil => rfl
  | cons head rest =>
    have known : Frame.ofName? head.interval = some .m1 := by
      rw [minutes head List.mem_cons_self]
      rfl
    simp only [known, Option.bind_eq_bind, Option.bind_some]

variable {interval : Interval} {frame child : Frame} {bucket : ℤ}

theorem foldOf_eq_some_iff {found : List Bar} {bar : Bar} :
    foldOf frame bucket found = some bar ↔
      ∃ first rest, found = first :: rest ∧ bar = foldBars frame bucket first rest := by
  unfold foldOf
  cases found with
  | nil => exact ⟨fun folded => (nomatch folded), fun ⟨_, _, same, _⟩ => (nomatch same)⟩
  | cons first rest =>
    constructor
    · intro folded
      exact ⟨first, rest, rfl, (Option.some.inj folded).symm⟩
    · rintro ⟨_, _, same, rfl⟩
      obtain ⟨rfl, rfl⟩ := List.cons.inj same
      rfl

theorem closeTimeMs_of_bucketOutput {children : List Bar} {bar : Bar}
    (built : bucketOutput frame child bucket children = some bar) :
    bar.closeTimeMs = bucket + frame.ms - 1 := by
  unfold bucketOutput at built
  split_ifs at built
  obtain ⟨first, rest, -, rfl⟩ := foldOf_eq_some_iff.mp built
  rfl

theorem bucketOutput_nil (frame child : Frame) (bucket : ℤ) :
    bucketOutput frame child bucket [] = none := by
  unfold bucketOutput
  split_ifs <;> rfl

theorem childrenOf_eq_nil {candles : List Bar} (absent : bucket ∉ bucketsOf frame candles) :
    childrenOf frame bucket candles = [] := by
  refine List.filter_eq_nil_iff.mpr fun bar member same => absent ?_
  unfold bucketsOf
  rw [List.mem_insertionSort, List.mem_dedup, ← of_decide_eq_true same]
  exact List.mem_map_of_mem member

theorem byClose_bucketBars (candles : List Bar) (closeTimeMs : ℤ) :
    byClose (bucketBars frame child candles) closeTimeMs =
      bucketOutput frame child (closeTimeMs + 1 - frame.ms)
        (childrenOf frame (closeTimeMs + 1 - frame.ms) candles) := by
  cases found : byClose (bucketBars frame child candles) closeTimeMs with
  | some bar =>
    unfold byClose at found
    have closes : bar.closeTimeMs = closeTimeMs := by simpa using List.find?_some found
    obtain ⟨bucket, -, built⟩ := List.mem_filterMap.mp
      (List.mem_reverse.mp (List.mem_of_find?_eq_some found))
    have place := closeTimeMs_of_bucketOutput built
    obtain rfl : bucket = closeTimeMs + 1 - frame.ms := by omega
    exact built.symm
  | none =>
    -- A bar of the bucket would close at the time, and one that closes then would be found.
    cases built : bucketOutput frame child (closeTimeMs + 1 - frame.ms)
        (childrenOf frame (closeTimeMs + 1 - frame.ms) candles) with
    | none => rfl
    | some bar =>
      have place := closeTimeMs_of_bucketOutput built
      have member : bar ∈ bucketBars frame child candles := by
        refine List.mem_filterMap.mpr ⟨closeTimeMs + 1 - frame.ms, ?_, built⟩
        by_contra absent
        rw [childrenOf_eq_nil absent, bucketOutput_nil] at built
        exact nomatch built
      have other := List.find?_eq_none.mp found bar (List.mem_reverse.mpr member)
      exact absurd (decide_eq_true (by omega)) other

theorem childrenOf_append_later {candles later : List Bar}
    (after : ∀ bar ∈ later, bucket + frame.ms ≤ bar.openTimeMs) :
    childrenOf frame bucket (candles ++ later) = childrenOf frame bucket candles := by
  suffices outside : childrenOf frame bucket later = [] by
    unfold childrenOf at outside ⊢
    rw [List.filter_append, outside, List.append_nil]
  refine List.filter_eq_nil_iff.mpr fun bar member same => ?_
  have opens := after bar member
  have inside := Int.emod_lt_of_pos bar.openTimeMs frame.ms_pos
  have whole := Int.mul_ediv_add_emod bar.openTimeMs frame.ms
  have start : bar.openTimeMs / frame.ms * frame.ms = bucket := of_decide_eq_true same
  rw [mul_comm] at start
  omega

theorem byClose_append_later {closeTimeMs : ℤ} {candles later : List Bar}
    (after : ∀ bar ∈ later, closeTimeMs < bar.openTimeMs) :
    byClose (resampleMinutes (candles ++ later) interval) closeTimeMs =
      byClose (resampleMinutes candles interval) closeTimeMs := by
  unfold resampleMinutes
  rw [byClose_bucketBars, byClose_bucketBars, childrenOf_append_later]
  intro bar member
  have opens := after bar member
  omega

end QuantAgent.Backtest
