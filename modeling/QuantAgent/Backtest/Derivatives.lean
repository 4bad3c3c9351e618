/-
This file embeds the store of historical derivative snapshots and proves that what it shows at a
decision time depends only on the snapshots that were observed by then.
-/

import QuantAgent.Library.Refusal

namespace QuantAgent.Backtest

/-- `DerivativesSnapshot`. -/
structure Snapshot where
  observedAtMs : ℤ
  markPrice : Option ℚ := none
  fundingRate : Option ℚ := none
  fundingTimeMs : Option ℤ := none
  premiumIndexTimeMs : Option ℤ := none
  nextFundingTimeMs : Option ℤ := none
  openInterest : Option ℚ := none
  openInterestTimeMs : Option ℤ := none
  takerBuySellRatio : Option ℚ := none
  takerTimeMs : Option ℤ := none
  indexPrice : Option ℚ := none
  premiumBps : Option ℚ := none
  basisRate : Option ℚ := none
  basisTimeMs : Option ℤ := none
  openInterestChangePct : Option ℚ := none
  longShortAccountRatio : Option ℚ := none
  longShortTimeMs : Option ℤ := none
  orderBookImbalance : Option ℚ := none
  spreadBps : Option ℚ := none
  orderBookTimeMs : Option ℤ := none
  deriving DecidableEq

/-- The part of `DataConfig` that the backtest reads. -/
structure DataConfig where
  historyLimit15m : ℕ := 500
  historyLimit1h : ℕ := 500
  historyLimit4h : ℕ := 500
  oiStaleSeconds : ℕ := 900
  fundingStaleSeconds : ℕ := 900
  derivativesStaleSeconds : ℕ := 900

/-- `_available`, with the checks of `validate_availability`. -/
def available (timestampMs : Option ℤ) (decisionTimeMs : ℤ) (maxAgeSeconds : ℕ) : Bool :=
  match timestampMs with
  | none => false
  | some availableAtMs => decide (0 ≤ availableAtMs ∧ 0 ≤ decisionTimeMs ∧
      availableAtMs ≤ decisionTimeMs ∧ decisionTimeMs - availableAtMs ≤ maxAgeSeconds * 1000)

structure FieldGroup where
  name : String
  timestampMs : Snapshot → Option ℤ
  maxAge : DataConfig → ℕ
  remove : Snapshot → Snapshot

def fieldGroups : List FieldGroup :=
  [⟨"open_interest", fun snapshot => snapshot.openInterestTimeMs,
      fun config => config.oiStaleSeconds, fun snapshot => { snapshot with
        openInterest := none
        openInterestChangePct := none }⟩,
    ⟨"funding", fun snapshot => snapshot.fundingTimeMs, fun config => config.fundingStaleSeconds,
      fun snapshot => { snapshot with fundingRate := none }⟩,
    ⟨"taker", fun snapshot => snapshot.takerTimeMs,
      fun config => config.derivativesStaleSeconds,
      fun snapshot => { snapshot with takerBuySellRatio := none }⟩,
    ⟨"basis", fun snapshot => snapshot.basisTimeMs,
      fun config => config.derivativesStaleSeconds,
      fun snapshot => { snapshot with basisRate := none }⟩,
    ⟨"long_short", fun snapshot => snapshot.longShortTimeMs,
      fun config => config.derivativesStaleSeconds,
      fun snapshot => { snapshot with longShortAccountRatio := none }⟩,
    ⟨"snapshot", fun snapshot => some snapshot.observedAtMs,
      fun config => config.derivativesStaleSeconds, fun snapshot => { snapshot with
        markPrice := none
        indexPrice := none
        premiumBps := none }⟩]

def sanitizeDerivatives (snapshot : Option Snapshot) (decisionTimeMs : ℤ) (config : DataConfig)
    (includeOrderBook : Bool) : Option Snapshot × List String :=
  match snapshot with
  | none => (none, ["snapshot"])
  | some snapshot =>
    if decisionTimeMs < snapshot.observedAtMs then (none, ["snapshot"])
    else
      let stale := fieldGroups.filter fun group =>
        ! available (group.timestampMs snapshot) decisionTimeMs (group.maxAge config)
      let cleared := stale.foldl (fun snapshot group => group.remove snapshot) snapshot
      let names := stale.map fun group => group.name
      if includeOrderBook ∧
          available snapshot.orderBookTimeMs decisionTimeMs config.derivativesStaleSeconds then
        (some cleared, names)
      else
        (some { cleared with
          orderBookImbalance := none
          spreadBps := none }, if includeOrderBook then names ++ ["order_book"] else names)

/-! ### The store -/

/-- `HistoricalDerivativeStore`: snapshots of different times, in their order. -/
structure HistoricalDerivativeStore where
  snapshots : List Snapshot
  ordered : snapshots.Pairwise fun snapshot later => snapshot.observedAtMs < later.observedAtMs

namespace HistoricalDerivativeStore

def create (snapshots : List Snapshot) : Except String HistoricalDerivativeStore :=
  let sorted := snapshots.insertionSort fun snapshot later =>
    snapshot.observedAtMs ≤ later.observedAtMs
  if ordered : sorted.Pairwise fun snapshot later => snapshot.observedAtMs < later.observedAtMs then
    .ok ⟨sorted, ordered⟩
  else .error "duplicate derivative observed_at_ms"

def visible (store : HistoricalDerivativeStore) (timeMs : ℤ) : List Snapshot :=
  store.snapshots.filter fun snapshot => snapshot.observedAtMs ≤ timeMs

/-- `self._snapshots[bisect_right(self._timestamps, decision_time_ms) - 1]`, when there is one. -/
def selected (store : HistoricalDerivativeStore) (decisionTimeMs : ℤ) : Option Snapshot :=
  (store.snapshots.takeWhile fun snapshot => snapshot.observedAtMs ≤ decisionTimeMs).getLast?

def snapshotAt (store : HistoricalDerivativeStore) (decisionTimeMs : ℤ) (config : DataConfig)
    (includeOrderBook : Bool) : Option Snapshot :=
  (sanitizeDerivatives (store.selected decisionTimeMs) decisionTimeMs config includeOrderBook).1

theorem takeWhile_eq_filter {snapshots : List Snapshot} (timeMs : ℤ)
    (ordered : snapshots.Pairwise fun snapshot later =>
      snapshot.observedAtMs < later.observedAtMs) :
    (snapshots.takeWhile fun snapshot => snapshot.observedAtMs ≤ timeMs) =
      snapshots.filter fun snapshot => snapshot.observedAtMs ≤ timeMs := by
  induction snapshots with
  | nil => rfl
  | cons snapshot later inductionHypothesis =>
    obtain ⟨before, rest⟩ := List.pairwise_cons.mp ordered
    by_cases seen : snapshot.observedAtMs ≤ timeMs
    · rw [List.takeWhile_cons_of_pos (by simpa using seen),
        List.filter_cons_of_pos (by simpa using seen), inductionHypothesis rest]
    · rw [List.takeWhile_cons_of_neg (by simpa using seen),
        List.filter_cons_of_neg (by simpa using seen)]
      refine (List.filter_eq_nil_iff.mpr fun other member => ?_).symm
      have follows := before other member
      simp only [decide_eq_true_eq]
      omega

theorem selected_eq (store : HistoricalDerivativeStore) (decisionTimeMs : ℤ) :
    store.selected decisionTimeMs = (store.visible decisionTimeMs).getLast? :=
  congrArg List.getLast? (takeWhile_eq_filter decisionTimeMs store.ordered)

end HistoricalDerivativeStore

/-- What a backtest sees of its store, which it may do without. -/
def visibleAt (store : Option HistoricalDerivativeStore) (timeMs : ℤ) : List Snapshot :=
  match store with
  | none => []
  | some store => store.visible timeMs

/-- `self.derivatives.snapshot_at(...) if self.derivatives else None`. -/
def derivativesAt (store : Option HistoricalDerivativeStore) (decisionTimeMs : ℤ)
    (config : DataConfig) (includeOrderBook : Bool) : Option Snapshot :=
  match store with
  | none => none
  | some store => store.snapshotAt decisionTimeMs config includeOrderBook

theorem derivativesAt_eq (store : Option HistoricalDerivativeStore) (decisionTimeMs : ℤ)
    (config : DataConfig) (includeOrderBook : Bool) :
    derivativesAt store decisionTimeMs config includeOrderBook =
      (sanitizeDerivatives (visibleAt store decisionTimeMs).getLast? decisionTimeMs config
        includeOrderBook).1 := by
  cases store with
  | none => rfl
  | some store =>
    show (sanitizeDerivatives (store.selected decisionTimeMs) _ _ _).1 = _
    rw [store.selected_eq]
    rfl

variable {store other : Option HistoricalDerivativeStore}

theorem visibleAt_visibleAt {timeMs later : ℤ}
    (before : timeMs ≤ later) (agree : visibleAt store later = visibleAt other later) :
    visibleAt store timeMs = visibleAt other timeMs := by
  have narrower : ∀ store : Option HistoricalDerivativeStore, visibleAt store timeMs =
      (visibleAt store later).filter fun snapshot => snapshot.observedAtMs ≤ timeMs := by
    intro store
    cases store with
    | none => rfl
    | some store =>
      unfold visibleAt HistoricalDerivativeStore.visible
      rw [List.filter_filter]
      refine List.filter_congr fun snapshot _ => ?_
      by_cases seen : snapshot.observedAtMs ≤ timeMs
      · have wider : snapshot.observedAtMs ≤ later := seen.trans before
        simp [seen, wider]
      · simp [seen]
  rw [narrower store, narrower other, agree]

theorem derivativesAt_congr {decisionTimeMs later : ℤ} (before : decisionTimeMs ≤ later)
    (agree : visibleAt store later = visibleAt other later) (config : DataConfig)
    (includeOrderBook : Bool) :
    derivativesAt store decisionTimeMs config includeOrderBook =
      derivativesAt other decisionTimeMs config includeOrderBook := by
  rw [derivativesAt_eq, derivativesAt_eq, visibleAt_visibleAt before agree]

end QuantAgent.Backtest
