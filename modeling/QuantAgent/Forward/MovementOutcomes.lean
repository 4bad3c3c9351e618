/-
This file embeds the movement labels of the opportunity campaign: the paginated download of minute
candles, the label of a window, and the resolution of the observations whose window has ended.

A download keeps one row for an open time and gives its candles in order, so a window that starts
and ends where it should with as many candles as it has minutes leaves none of them out.
-/

import QuantAgent.Backtest.Resample
import QuantAgent.Library.Slots

namespace QuantAgent.Forward

open Backtest (Bar)

/-! ### The client -/

/-- What a resolution can raise, with the texts of the messages. -/
inductive Failure where
  | valueError (message : String)
  | binanceDataError (message : String)
  | opportunityForwardConflict
  | typeError
  | indexError

/-- `type(exc).__name__`. -/
def Failure.typeName : Failure → String
  | valueError _ => "ValueError"
  | binanceDataError _ => "BinanceDataError"
  | opportunityForwardConflict => "OpportunityForwardConflict"
  | typeError => "TypeError"
  | indexError => "IndexError"

/-- The columns of a row that the client parses. -/
structure KlineRow where
  openTimeMs : ℤ
  openPrice : ℚ
  high : ℚ
  low : ℚ
  close : ℚ
  volume : ℚ
  closeTimeMs : ℤ
  quoteVolume : ℚ
  trades : ℤ
  takerBuyBaseVolume : ℚ

/-- The exchange in one download: the answer to the request of that number from a start time. -/
abbrev Exchange := ℕ → ℤ → Except Failure (List KlineRow)

/-- `INTERVAL_MS` of the client. -/
def intervalMs (interval : String) : Option ℤ :=
  [("1m", 60000), ("5m", 300000), ("15m", 900000), ("1h", 3600000), ("4h", 14400000)].lookup
    interval

def collectPages (exchange : Exchange) (stepMs endTimeMs : ℤ) (request : ℕ) (cursor : ℤ)
    (rows : List KlineRow) : Except Failure (List KlineRow) :=
  if endTimeMs < cursor then .ok rows
  else
    match exchange request cursor with
    | .error failure => .error failure
    | .ok page =>
      match page.getLast? with
      | none => .ok rows
      | some last =>
        if last.openTimeMs + stepMs ≤ cursor then
          .error (.binanceDataError "historical pagination did not advance")
        else if page.length < 1500 then .ok (rows ++ page)
        else collectPages exchange stepMs endTimeMs (request + 1) (last.openTimeMs + stepMs)
          (rows ++ page)
termination_by (endTimeMs + 1 - cursor).toNat

def uniqueRows (rows : List KlineRow) : List KlineRow :=
  ((rows.map fun row => row.openTimeMs).dedup.insertionSort (· ≤ ·)).filterMap fun key =>
    rows.reverse.find? fun row => row.openTimeMs = key

/-- The candle of a row, unless the constructor refuses it. -/
def candleOf (symbol interval : String) (row : KlineRow) : Except Failure Bar :=
  if order : row.openTimeMs < row.closeTimeMs then
    if bounds : row.low ≤ min row.openPrice row.close ∧ max row.openPrice row.close ≤ row.high then
      if volumes : 0 ≤ min row.volume row.quoteVolume ∧ 0 ≤ row.takerBuyBaseVolume then
        .ok {
          symbol := symbol.toUpper
          interval
          openTimeMs := row.openTimeMs
          closeTimeMs := row.closeTimeMs
          openPrice := row.openPrice
          high := row.high
          low := row.low
          close := row.close
          volume := row.volume
          quoteVolume := row.quoteVolume
          trades := row.trades
          takerBuyBaseVolume := row.takerBuyBaseVolume
          closeAfterOpen := order
          lowBound := bounds.1
          highBound := bounds.2
          volumesNonneg := volumes.1
          takerNonneg := volumes.2 }
      else .error (.valueError "invalid candle")
    else .error (.valueError "invalid OHLC bounds")
  else .error (.valueError "close_time_ms must be after open_time_ms")

/-- `_parse_klines`: the candles that close before the time. -/
def parseKlines (rows : List KlineRow) (symbol interval : String) (latestCloseMs : ℤ) :
    Except Failure (List Bar) :=
  (rows.filter fun row => row.closeTimeMs < latestCloseMs).mapM (candleOf symbol interval)

def historicalKlines (exchange : Exchange) (symbol interval : String) (startTimeMs endTimeMs : ℤ) :
    Except Failure (List Bar) :=
  match intervalMs interval with
  | none => .error (.valueError ("unsupported interval: " ++ interval))
  | some stepMs =>
    if endTimeMs ≤ startTimeMs then
      .error (.valueError "end_time_ms must be after start_time_ms")
    else
      match collectPages exchange stepMs endTimeMs 0 startTimeMs [] with
      | .error failure => .error failure
      | .ok rows => parseKlines (uniqueRows rows) symbol interval (endTimeMs + 1)

/-! ### The label of a window -/

inductive ObservationStatus where
  | successfulScan
  | missedDecisionSlot
  deriving DecidableEq

/-- The columns of an observation that the resolution reads. -/
structure Observation where
  observationId : String
  campaignId : String
  scheduledSlotMs : ℤ
  status : ObservationStatus
  decisionCloseMs : Option ℤ
  atr15m : Option ℚ

structure MovementOutcome where
  observationId : String
  horizonMinutes : ℕ
  referenceTimeMs : ℤ
  referencePrice : ℚ
  futureHigh : ℚ
  futureLow : ℚ
  futureClose : ℚ
  futureRangeAtr : ℚ
  maxUpExcursionAtr : ℚ
  maxDownExcursionAtr : ℚ
  maxAbsExcursionAtr : ℚ
  resolvedAtMs : ℤ
  resolutionSource : String

def movementOutcome (observation : Observation) (horizon : ℕ) (candles : List Bar)
    (resolvedAtMs : ℤ) : Except Failure MovementOutcome :=
  match observation.decisionCloseMs, candles with
  | none, _ => .error .typeError
  | _, [] =>
    if horizon = 0 then .error .indexError
    else .error (.valueError "outcome window is incomplete or not the strict next-open window")
  | some decisionClose, first :: rest =>
    let last := Backtest.lastBar first rest
    if (first :: rest).length ≠ horizon ∨ first.openTimeMs ≠ decisionClose + 1 ∨
        last.openTimeMs - first.openTimeMs ≠ ((horizon : ℤ) - 1) * 60000 then
      .error (.valueError "outcome window is incomplete or not the strict next-open window")
    else
      match observation.atr15m with
      | none => .error .typeError
      | some atr =>
        if atr ≤ 0 then .error (.valueError "frozen forward ATR must be positive")
        else
          let reference := first.openPrice
          let high := Backtest.highest first rest
          let low := Backtest.lowest first rest
          let up := max 0 (high - reference) / atr
          let down := max 0 (reference - low) / atr
          .ok {
            observationId := observation.observationId
            horizonMinutes := horizon
            referenceTimeMs := first.openTimeMs
            referencePrice := reference
            futureHigh := high
            futureLow := low
            futureClose := last.close
            futureRangeAtr := (high - low) / atr
            maxUpExcursionAtr := up
            maxDownExcursionAtr := down
            maxAbsExcursionAtr := max up down
            resolvedAtMs
            resolutionSource := "Binance USD-M public REST 1m deterministic post-event label" }

/-! ### The store -/

/-- A row of `outcomes`, with the hash of its payload. -/
structure StoredOutcome where
  outcome : MovementOutcome
  payloadHash : String

structure OpportunityStore where
  observations : List Observation
  outcomes : List StoredOutcome

def horizons : List ℕ := [240, 480]

structure OpportunityCampaign where
  campaignId : String
  symbol : String
  hasDataQualityGate : Bool

def OpportunityStore.existing (store : OpportunityStore) (observationId : String) (horizon : ℕ) :
    Option StoredOutcome :=
  store.outcomes.find? fun row =>
    row.outcome.observationId = observationId ∧ row.outcome.horizonMinutes = horizon

def appendOutcome (digest : MovementOutcome → String) (store : OpportunityStore)
    (outcome : MovementOutcome) : Except Failure OpportunityStore :=
  match store.existing outcome.observationId outcome.horizonMinutes with
  | some row =>
    if row.payloadHash ≠ digest outcome then .error .opportunityForwardConflict else .ok store
  | none => .ok { store with outcomes := store.outcomes ++ [⟨outcome, digest outcome⟩] }

/-- `unresolved`: the windows of successful scans that have ended and have no outcome. -/
def OpportunityStore.unresolved (store : OpportunityStore) (campaignId : String) (nowMs : ℤ) :
    List (Observation × ℕ) :=
  ((store.observations.filter fun row => row.campaignId = campaignId).insertionSort
      fun row other => row.scheduledSlotMs ≤ other.scheduledSlotMs).flatMap fun row =>
    match row.status, row.decisionCloseMs with
    | .successfulScan, some decisionClose =>
      (horizons.filter fun horizon =>
        store.existing row.observationId horizon = none ∧
          decisionClose + 1 + horizon * 60000 ≤ nowMs).map fun horizon => (row, horizon)
    | _, _ => []

/-! ### The resolution -/

/-- What a resolution reports, and what it leaves in the store. -/
structure Resolution where
  store : OpportunityStore
  resolved : ℕ := 0
  failed : ℕ := 0
  errors : List String := []

section

variable (client : Observation → ℕ → Exchange) (digest : MovementOutcome → String)
  (campaign : OpportunityCampaign) (nowMs : ℤ)

def windowOf (observation : Observation) (horizon : ℕ) : Except Failure (List Bar) :=
  match observation.decisionCloseMs with
  | none => .error .typeError
  | some decisionClose =>
    historicalKlines (client observation horizon) campaign.symbol "1m" (decisionClose + 1)
      (decisionClose + 1 + horizon * 60000 - 1)

def resolveWindow (store : OpportunityStore) (observation : Observation) (horizon : ℕ) :
    Except Failure OpportunityStore := do
  let candles ← windowOf client campaign observation horizon
  let outcome ← movementOutcome observation horizon candles nowMs
  appendOutcome digest store outcome

/-- One turn of the loop; a failure is counted and leaves the store as it is. -/
def resolveStep (resolution : Resolution) (window : Observation × ℕ) : Resolution :=
  match resolveWindow client digest campaign nowMs resolution.store window.1 window.2 with
  | .ok store => { resolution with store, resolved := resolution.resolved + 1 }
  | .error failure =>
    { resolution with
      failed := resolution.failed + 1
      errors := resolution.errors ++
        [window.1.observationId ++ ":" ++ toString window.2 ++ ":" ++ failure.typeName] }

/-- `resolve_opportunity_outcomes`; the second argument is the verdict of the data quality gate. -/
def resolveOpportunityOutcomes (terminalFailure : OpportunityStore → Bool)
    (store : OpportunityStore) : Except Failure Resolution :=
  if campaign.hasDataQualityGate ∧ terminalFailure store then
    .error (.valueError ("cannot resolve outcomes for terminal campaign " ++ campaign.campaignId ++
      ": data quality gate breached"))
  else
    .ok ((store.unresolved campaign.campaignId nowMs).foldl
      (resolveStep client digest campaign nowMs) { store })

end

/-! ### What a download gives -/

theorem forall_mem_collectPages {exchange : Exchange} {stepMs endTimeMs : ℤ}
    {property : KlineRow → Prop}
    (pages : ∀ request cursor page, exchange request cursor = .ok page → ∀ row ∈ page, property row)
    {request : ℕ} {cursor : ℤ} {rows found : List KlineRow} (before : ∀ row ∈ rows, property row)
    (collected : collectPages exchange stepMs endTimeMs request cursor rows = .ok found) :
    ∀ row ∈ found, property row := by
  induction request, cursor, rows using collectPages.induct exchange stepMs endTimeMs with
  | case1 request cursor rows ended =>
    rw [collectPages, if_pos ended] at collected
    obtain rfl := Except.ok.inj collected
    exact before
  | case2 request cursor rows running failure failed =>
    rw [collectPages, if_neg running, failed] at collected
    exact nomatch collected
  | case3 request cursor rows running page answered empty =>
    rw [collectPages, if_neg running, answered] at collected
    simp only [empty] at collected
    obtain rfl := Except.ok.inj collected
    exact before
  | case4 request cursor rows running page answered last isLast stuck =>
    rw [collectPages, if_neg running, answered] at collected
    simp only [isLast, if_pos stuck] at collected
    exact nomatch collected
  | case5 request cursor rows running page answered last isLast advances short =>
    rw [collectPages, if_neg running, answered] at collected
    simp only [isLast, if_neg advances, if_pos short] at collected
    obtain rfl := Except.ok.inj collected
    exact List.forall_mem_append.mpr ⟨before, pages request cursor page answered⟩
  | case6 request cursor rows running page answered last isLast advances full inductionHypothesis =>
    rw [collectPages, if_neg running, answered] at collected
    simp only [isLast, if_neg advances, if_neg full] at collected
    exact inductionHypothesis
      (List.forall_mem_append.mpr ⟨before, pages request cursor page answered⟩) collected

theorem mem_of_mem_uniqueRows {rows : List KlineRow} {row : KlineRow}
    (member : row ∈ uniqueRows rows) : row ∈ rows := by
  obtain ⟨key, -, found⟩ := List.mem_filterMap.mp member
  exact List.mem_reverse.mp (List.mem_of_find?_eq_some found)

theorem uniqueRows_pairwise (rows : List KlineRow) :
    (uniqueRows rows).Pairwise fun first second => first.openTimeMs < second.openTimeMs := by
  have ordered := List.pairwise_insertionSort (fun first second : ℤ => first ≤ second)
    (rows.map fun row => row.openTimeMs).dedup
  have distinct := (List.perm_insertionSort (fun first second : ℤ => first ≤ second)
    (rows.map fun row => row.openTimeMs).dedup).nodup_iff.mpr (List.nodup_dedup _)
  have increasing := ordered.imp₂ (fun _ _ le ne => lt_of_le_of_ne le ne) distinct
  unfold uniqueRows
  refine increasing.filterMap _ fun first second earlier row found other foundOther => ?_
  have opens : row.openTimeMs = first := by simpa using List.find?_some found
  have opensOther : other.openTimeMs = second := by simpa using List.find?_some foundOther
  omega

theorem candleOf_openTimeMs {symbol interval : String} {row : KlineRow} {candle : Bar}
    (parsed : candleOf symbol interval row = .ok candle) : candle.openTimeMs = row.openTimeMs := by
  unfold candleOf at parsed
  split_ifs at parsed
  rw [← Except.ok.inj parsed]

variable {candles : List Bar}

theorem mapM_candleOf {symbol interval : String} {rows : List KlineRow}
    (parsed : rows.mapM (candleOf symbol interval) = .ok candles) :
    candles.map (fun bar => bar.openTimeMs) = rows.map fun row => row.openTimeMs := by
  induction rows generalizing candles with
  | nil =>
    obtain rfl := Except.ok.inj parsed
    rfl
  | cons row rows inductionHypothesis =>
    rw [List.mapM_cons] at parsed
    cases first : candleOf symbol interval row with
    | error failure => rw [first] at parsed; exact nomatch parsed
    | ok candle =>
      cases rest : rows.mapM (candleOf symbol interval) with
      | error failure => rw [first, rest] at parsed; exact nomatch parsed
      | ok later =>
        rw [first, rest] at parsed
        obtain rfl := Except.ok.inj parsed
        rw [List.map_cons, List.map_cons, inductionHypothesis rest, candleOf_openTimeMs first]

def Exchange.OnMinutes (exchange : Exchange) : Prop :=
  ∀ request cursor page, exchange request cursor = .ok page → ∀ row ∈ page, 60000 ∣ row.openTimeMs

theorem historicalKlines_minutes {exchange : Exchange} (onMinutes : exchange.OnMinutes)
    {symbol : String} {startTimeMs endTimeMs : ℤ}
    (downloaded : historicalKlines exchange symbol "1m" startTimeMs endTimeMs = .ok candles) :
    (candles.map fun bar => bar.openTimeMs).Pairwise (· < ·) ∧
      ∀ time ∈ candles.map fun bar => bar.openTimeMs, 60000 ∣ time := by
  have known : intervalMs "1m" = some 60000 := rfl
  unfold historicalKlines at downloaded
  rw [known] at downloaded
  dsimp only at downloaded
  split_ifs at downloaded
  cases collected : collectPages exchange 60000 endTimeMs 0 startTimeMs [] with
  | error failure => rw [collected] at downloaded; exact nomatch downloaded
  | ok rows =>
    rw [collected] at downloaded
    rw [mapM_candleOf downloaded]
    have aligned := forall_mem_collectPages onMinutes (List.forall_mem_nil _) collected
    refine ⟨List.pairwise_map.mpr ((uniqueRows_pairwise rows).filter _), ?_⟩
    rintro _ member
    obtain ⟨row, inRows, rfl⟩ := List.mem_map.mp member
    exact aligned row (mem_of_mem_uniqueRows (List.mem_filter.mp inRows).1)

/-! ### What a label says -/

/-- The candles are the minutes of the window, and the outcome measures them around the first open
in units of the frozen volatility. -/
structure Labels (observation : Observation) (horizon : ℕ) (candles : List Bar)
    (outcome : MovementOutcome) : Prop where
  names : outcome.observationId = observation.observationId ∧ outcome.horizonMinutes = horizon
  minutes : ∃ decisionClose, observation.decisionCloseMs = some decisionClose ∧
    (candles.map fun bar => bar.openTimeMs) =
      (List.range horizon).map fun minute : ℕ => decisionClose + 1 + minute * 60000
  measures : ∃ atr first high low, observation.atr15m = some atr ∧ 0 < atr ∧
    candles.head? = some first ∧ IsGreatest {price | ∃ bar ∈ candles, bar.high = price} high ∧
    IsLeast {price | ∃ bar ∈ candles, bar.low = price} low ∧
    outcome.futureRangeAtr = (high - low) / atr ∧
    outcome.maxUpExcursionAtr = max 0 (high - first.openPrice) / atr ∧
    outcome.maxDownExcursionAtr = max 0 (first.openPrice - low) / atr ∧
    outcome.maxAbsExcursionAtr = max outcome.maxUpExcursionAtr outcome.maxDownExcursionAtr
  splits : outcome.maxUpExcursionAtr + outcome.maxDownExcursionAtr = outcome.futureRangeAtr

theorem isGreatest_highest (first : Bar) (rest : List Bar) :
    IsGreatest {price | ∃ bar ∈ first :: rest, bar.high = price} (Backtest.highest first rest) := by
  refine ⟨List.mem_map.mp (List.max_mem _), ?_⟩
  rintro _ ⟨bar, member, rfl⟩
  exact Backtest.le_highest member

theorem isLeast_lowest (first : Bar) (rest : List Bar) :
    IsLeast {price | ∃ bar ∈ first :: rest, bar.low = price} (Backtest.lowest first rest) := by
  refine ⟨List.mem_map.mp (List.min_mem _), ?_⟩
  rintro _ ⟨bar, member, rfl⟩
  exact Backtest.lowest_le member

theorem minutes_of_window {first : Bar} {rest : List Bar}
    (increasing : ((first :: rest).map fun bar => bar.openTimeMs).Pairwise (· < ·))
    (aligned : ∀ time ∈ (first :: rest).map fun bar => bar.openTimeMs, 60000 ∣ time)
    (span : (Backtest.lastBar first rest).openTimeMs - first.openTimeMs =
      (((first :: rest).length : ℤ) - 1) * 60000) :
    ((first :: rest).map fun bar => bar.openTimeMs) =
      (List.range (first :: rest).length).map fun minute : ℕ =>
        first.openTimeMs + minute * 60000 := by
  have last : (rest.map fun bar => bar.openTimeMs).getLast?.getD first.openTimeMs =
      (Backtest.lastBar first rest).openTimeMs := by
    unfold Backtest.lastBar
    rw [List.getLast?_map]
    cases rest.getLast? <;> rfl
  rw [List.map_cons] at increasing aligned ⊢
  rw [@Slots.eq_slots_of_span _ 60000 _ increasing, Slots.slots_eq_map, List.length_map,
    List.length_cons]
  · intro time member
    exact dvd_sub (aligned time (List.mem_cons_of_mem _ member)) (aligned _ List.mem_cons_self)
  · rw [last, List.length_map]
    rw [List.length_cons] at span
    push_cast at span
    linarith

theorem labels_of_movementOutcome {observation : Observation} {horizon : ℕ}
    {resolvedAtMs : ℤ} {outcome : MovementOutcome}
    (increasing : (candles.map fun bar => bar.openTimeMs).Pairwise (· < ·))
    (aligned : ∀ time ∈ candles.map fun bar => bar.openTimeMs, 60000 ∣ time)
    (labelled : movementOutcome observation horizon candles resolvedAtMs = .ok outcome) :
    Labels observation horizon candles outcome := by
  unfold movementOutcome at labelled
  split at labelled
  · exact nomatch labelled
  · split_ifs at labelled
  next decisionClose first rest closed =>
    dsimp only at labelled
    split_ifs at labelled with incomplete
    simp only [ne_eq, not_or, not_not] at incomplete
    obtain ⟨enough, begins, span⟩ := incomplete
    split at labelled
    · exact nomatch labelled
    next atr frozen =>
      split_ifs at labelled with nonpositive
      have positive := not_le.mp nonpositive
      obtain rfl := Except.ok.inj labelled
      refine ⟨⟨rfl, rfl⟩, ⟨decisionClose, closed, ?_⟩, ?_, ?_⟩
      · rw [← enough, ← begins]
        exact minutes_of_window increasing aligned (enough ▸ span)
      · exact ⟨atr, first, _, _, frozen, positive, rfl, isGreatest_highest first rest,
          isLeast_lowest first rest, rfl, rfl, rfl, rfl⟩
      · have top : first.high ≤ Backtest.highest first rest :=
          Backtest.le_highest List.mem_cons_self
        have bottom : Backtest.lowest first rest ≤ first.low :=
          Backtest.lowest_le List.mem_cons_self
        have above := first.open_le_high.trans top
        have below := bottom.trans first.low_le_open
        dsimp only
        rw [max_eq_right (sub_nonneg.mpr above), max_eq_right (sub_nonneg.mpr below), ← add_div]
        congr 1
        ring

/-! ### What a resolution stores -/

section

variable {client : Observation → ℕ → Exchange} {digest : MovementOutcome → String}
  {campaign : OpportunityCampaign} {nowMs : ℤ}

theorem mem_unresolved {store : OpportunityStore} {campaignId : String} {window : Observation × ℕ}
    (member : window ∈ store.unresolved campaignId nowMs) :
    window.1 ∈ store.observations ∧ window.2 ∈ horizons := by
  obtain ⟨row, inRows, inWindows⟩ := List.mem_flatMap.mp member
  have inStore := (List.mem_filter.mp ((List.mem_insertionSort _).mp inRows)).1
  split at inWindows
  · obtain ⟨horizon, kept, rfl⟩ := List.mem_map.mp inWindows
    exact ⟨inStore, (List.mem_filter.mp kept).1⟩
  · exact absurd inWindows List.not_mem_nil

variable {store after : OpportunityStore}

theorem appendOutcome_cases {outcome : MovementOutcome}
    (appended : appendOutcome digest store outcome = .ok after) :
    after = store ∨
      after = { store with outcomes := store.outcomes ++ [⟨outcome, digest outcome⟩] } := by
  unfold appendOutcome at appended
  split at appended
  · split_ifs at appended
    exact .inl (Except.ok.inj appended).symm
  · exact .inr (Except.ok.inj appended).symm

def Resolved (client : Observation → ℕ → Exchange) (campaign : OpportunityCampaign)
    (store : OpportunityStore) (row : StoredOutcome) : Prop :=
  ∃ observation ∈ store.observations, ∃ horizon ∈ horizons, ∃ candles,
    windowOf client campaign observation horizon = .ok candles ∧
      Labels observation horizon candles row.outcome

theorem resolveWindow_adds (onMinutes : ∀ observation horizon,
    (client observation horizon).OnMinutes)
    {observation : Observation} {horizon : ℕ}
    (done : resolveWindow client digest campaign nowMs store observation horizon = .ok after) :
    after.observations = store.observations ∧ ∀ row ∈ after.outcomes, row ∈ store.outcomes ∨
      ∃ candles, windowOf client campaign observation horizon = .ok candles ∧
        Labels observation horizon candles row.outcome := by
  unfold resolveWindow at done
  cases fetched : windowOf client campaign observation horizon with
  | error failure => rw [fetched] at done; exact nomatch done
  | ok candles =>
    rw [fetched] at done
    cases labelled : movementOutcome observation horizon candles nowMs with
    | error failure =>
      simp only [bind, Except.bind, labelled] at done
      exact nomatch done
    | ok outcome =>
      simp only [bind, Except.bind, labelled] at done
      have downloaded := fetched
      unfold windowOf at downloaded
      split at downloaded
      · exact nomatch downloaded
      obtain ⟨increasing, aligned⟩ :=
        historicalKlines_minutes (onMinutes observation horizon) downloaded
      have labels := labels_of_movementOutcome increasing aligned labelled
      obtain rfl | rfl := appendOutcome_cases done
      · exact ⟨rfl, fun row member => .inl member⟩
      · refine ⟨rfl, fun row member => ?_⟩
        rcases List.mem_append.mp member with old | new
        · exact .inl old
        · rw [List.mem_singleton.mp new]
          exact .inr ⟨candles, rfl, labels⟩

theorem resolveStep_keeps (onMinutes : ∀ observation horizon,
    (client observation horizon).OnMinutes) {store : OpportunityStore} {resolution : Resolution}
    {window : Observation × ℕ} (held : window.1 ∈ store.observations ∧ window.2 ∈ horizons)
    (kept : ∀ row ∈ resolution.store.outcomes,
      row ∈ store.outcomes ∨ Resolved client campaign store row) :
    ∀ row ∈ (resolveStep client digest campaign nowMs resolution window).store.outcomes,
      row ∈ store.outcomes ∨ Resolved client campaign store row := by
  unfold resolveStep
  split
  next after done =>
    obtain ⟨-, added⟩ := resolveWindow_adds onMinutes done
    intro row member
    obtain old | ⟨candles, fetched, labels⟩ := added row member
    · exact kept row old
    · exact .inr ⟨window.1, held.1, window.2, held.2, candles, fetched, labels⟩
  · exact kept

/-- Every outcome that a resolution stores is the label of a window of the store, and the candles
that the client returned for it are exactly the minutes of the window. -/
theorem resolved_outcomes (client : Observation → ℕ → Exchange)
    (onMinutes : ∀ observation horizon, (client observation horizon).OnMinutes)
    (digest : MovementOutcome → String) (campaign : OpportunityCampaign) (nowMs : ℤ)
    (terminalFailure : OpportunityStore → Bool) (store : OpportunityStore) (resolution : Resolution)
    (done : resolveOpportunityOutcomes client digest campaign nowMs terminalFailure store =
      .ok resolution) :
    ∀ row ∈ resolution.store.outcomes,
      row ∈ store.outcomes ∨ Resolved client campaign store row := by
  unfold resolveOpportunityOutcomes at done
  split_ifs at done
  obtain rfl := Except.ok.inj done
  have windows := fun window member => @mem_unresolved nowMs store campaign.campaignId window member
  refine List.foldlRecOn
    (motive := fun resolution : Resolution => ∀ row ∈ resolution.store.outcomes,
    row ∈ store.outcomes ∨ Resolved client campaign store row) _ _ (fun row old => .inl old) ?_
  intro resolution kept window member
  exact resolveStep_keeps onMinutes (windows window member) kept

end

def flatExchange (horizon : ℕ) : Exchange := fun _ cursor =>
  .ok ((List.range horizon).map fun minute => {
    openTimeMs := (-(-cursor / 60000) + minute) * 60000, openPrice := 100, high := 101, low := 99,
    close := 100, volume := 1, closeTimeMs := (-(-cursor / 60000) + minute) * 60000 + 59999,
    quoteVolume := 100, trades := 1, takerBuyBaseVolume := 0 })

def scanned : OpportunityStore where
  observations := [⟨"o1", "c1", 900000, .successfulScan, some 899999, some 2⟩]
  outcomes := []

theorem scanned_resolved : ∃ resolution,
    resolveOpportunityOutcomes (fun _ => flatExchange) (fun outcome => outcome.observationId)
      ⟨"c1", "BTCUSDT", false⟩ 90000000 (fun _ => false) scanned = .ok resolution ∧
    ∀ row ∈ resolution.store.outcomes, row ∈ scanned.outcomes ∨
      Resolved (fun _ => flatExchange) ⟨"c1", "BTCUSDT", false⟩ scanned row :=
  ⟨_, rfl, resolved_outcomes _ (fun _ _ request cursor page answered row member => by
    obtain rfl := Except.ok.inj answered
    obtain ⟨minute, -, rfl⟩ := List.mem_map.mp member
    exact Dvd.intro_left _ rfl) _ _ _ (fun _ => false) _ _ rfl⟩

end QuantAgent.Forward
