/-
This file proves where a shadow trade is filled. The fill lies after the signal, inside one bar of
the grid, and its price is a price of the entry zone; the bars that the resolver reads later begin
after it.

The exchange lists candles on the grid of their size, with one length for each size and positive
prices.
-/

import QuantAgent.MarketWatch.ShadowExits
import QuantAgent.MarketWatch.ShadowResolver

namespace QuantAgent.MarketWatch.Shadow

/-! ### Documented candles -/

/-- A candle of the exchange: it opens at a multiple of its size, it lasts that long except for the
slack at its end, and its prices are positive. -/
structure Listed (slackMs sizeMs : ℤ) (candle : Candle) : Prop where
  opens : sizeMs ∣ candle.openTimeMs
  closes : candle.closeTimeMs = candle.openTimeMs + sizeMs - slackMs
  priced : 0 < candle.low

/-- What the exchange documents of its answers. -/
structure MarketFeed.Documented (slackMs : ℤ) (feed : MarketFeed) : Prop where
  klines : ∀ candle ∈ feed.klines, Listed slackMs quarterMs candle
  quarters : ∀ startMs endMs, ∀ row ∈ feed.rows "15m" startMs endMs,
    startMs ≤ row.openTimeMs ∧ Listed slackMs quarterMs row
  minutes : ∀ startMs endMs, ∀ row ∈ feed.rows "1m" startMs endMs,
    startMs ≤ row.openTimeMs ∧ Listed slackMs 60000 row

structure MinuteOf (slackMs : ℤ) (bar minute : Candle) : Prop where
  listed : Listed slackMs 60000 minute
  opens : bar.openTimeMs ≤ minute.openTimeMs
  closes : minute.closeTimeMs ≤ bar.closeTimeMs

section Feed

variable {slackMs : ℤ} {feed : MarketFeed}

theorem mem_historicalKlines {interval : String} {startMs endMs : ℤ} {candle : Candle}
    (member : candle ∈ feed.historicalKlines interval startMs endMs) :
    candle.closeTimeMs ≤ endMs ∧ ∃ row ∈ feed.rows interval startMs endMs,
      candle = { row with interval := interval } := by
  unfold MarketFeed.historicalKlines at member
  split_ifs at member
  · cases member
  · obtain ⟨row, ordered, kept⟩ := List.mem_filterMap.mp member
    split_ifs at kept with inside
    obtain rfl := Option.some.inj kept
    exact ⟨Int.lt_add_one_iff.mp inside, row,
      (List.pwFilter_sublist _).subset ((List.mem_insertionSort _).mp ordered), rfl⟩

theorem historicalKlines_quarter (documented : feed.Documented slackMs) {startMs endMs : ℤ}
    {candle : Candle} (member : candle ∈ feed.historicalKlines "15m" startMs endMs) :
    startMs ≤ candle.openTimeMs ∧ Listed slackMs quarterMs candle := by
  obtain ⟨-, row, listed, rfl⟩ := mem_historicalKlines member
  obtain ⟨begins, opens, closes, priced⟩ := documented.quarters startMs endMs row listed
  exact ⟨begins, opens, closes, priced⟩

theorem historicalKlines_minute (documented : feed.Documented slackMs) {bar minute : Candle}
    (member : minute ∈ feed.historicalKlines "1m" bar.openTimeMs bar.closeTimeMs) :
    MinuteOf slackMs bar minute := by
  obtain ⟨ends, row, listed, rfl⟩ := mem_historicalKlines member
  obtain ⟨begins, opens, closes, priced⟩ :=
    documented.minutes bar.openTimeMs bar.closeTimeMs row listed
  exact ⟨⟨opens, closes, priced⟩, begins, ends⟩

theorem historicalKlines_sorted (interval : String) (startMs endMs : ℤ) :
    (feed.historicalKlines interval startMs endMs).Pairwise fun first second =>
      first.openTimeMs ≤ second.openTimeMs := by
  unfold MarketFeed.historicalKlines
  split_ifs
  · exact List.Pairwise.nil
  · refine List.Pairwise.filterMap _ ?_ (List.pairwise_insertionSort _ _)
    intro first second ordered before keptBefore after keptAfter
    split_ifs at keptBefore keptAfter
    obtain rfl := Option.some.inj keptBefore
    obtain rfl := Option.some.inj keptAfter
    exact ordered

theorem minutesOf_minute (documented : feed.Documented slackMs) {bar minute : Candle}
    (member : minute ∈ feed.minutesOf bar) : MinuteOf slackMs bar minute :=
  historicalKlines_minute documented (List.mem_filter.mp member).1

theorem minutesOf_sorted (bar : Candle) :
    (feed.minutesOf bar).Pairwise fun first second => first.openTimeMs ≤ second.openTimeMs :=
  (historicalKlines_sorted _ _ _).filter _

end Feed

/-! ### Recorded rows -/

structure Records (assessment : Assessment) (observation : ShadowObservation) : Prop where
  symbol : observation.symbol = assessment.symbol
  timestamp : observation.timestampMs = assessment.decisionTimeMs
  signalTime : observation.signalTimeMs = assessment.decisionTimeMs
  snapshotHash : observation.snapshotHash = assessment.snapshotHash
  policyVersion : observation.policyVersion = assessment.policyVersion
  configHash : observation.configHash = assessment.configHash
  setup : observation.agentSetup = assessment.plan.setup
  direction : observation.direction = assessment.plan.decision
  directed : assessment.plan.decision ≠ .wait
  actionable : observation.observationType = .actionableTriggered
  identity : observation.signalIdentity = assessment.signalIdentity
  setupKey : observation.setupKey = assessment.setupKey
  evidenceVersion : observation.evidenceVersion = marketWatchEvidenceVersion
  stopLoss : observation.stopLoss = assessment.plan.stopLoss
  tp1 : observation.tp1 = assessment.plan.takeProfit1
  tp2 : observation.tp2 = assessment.takeProfit2
  zoneLow : observation.entryZoneLow = assessment.entryZone.1
  zoneHigh : observation.entryZoneHigh = assessment.entryZone.2
  zonePositive : 0 < assessment.entryZone.1 ∧ 0 < assessment.entryZone.2
  windowStart : observation.entryWindowStartMs = assessment.decisionTimeMs
  windowEnd : observation.entryWindowEndMs =
    assessment.decisionTimeMs + assessment.entryWindowBars * quarterMs
  windowBars : observation.entryWindowBars = assessment.entryWindowBars
  profileVersion : observation.evaluationProfileVersion = some directionalOutcomeProfileVersion
  horizonBars : observation.evaluationHorizonBars =
    some (getPlaybookEvaluationProfile assessment.plan.setup).horizonBars
  horizonMs : observation.evaluationHorizonMs =
    some (getPlaybookEvaluationProfile assessment.plan.setup).horizonMs
  evidence : observation.featureEvidenceId = some assessment.featureEvidenceId

theorem Assessment.entryZone_pos {assessment : Assessment} (priced : 0 < assessment.lastPrice) :
    0 < assessment.entryZone.1 ∧ 0 < assessment.entryZone.2 := by
  have bound : ∀ price : ℚ, 0 < (if 0 < price then price else assessment.lastPrice) := by
    intro price
    split_ifs with positive
    · exact positive
    · exact priced
  unfold Assessment.entryZone
  dsimp only
  by_cases swapped : (if 0 < assessment.plan.entryHigh then assessment.plan.entryHigh
      else assessment.lastPrice) <
    if 0 < assessment.plan.entryLow then assessment.plan.entryLow else assessment.lastPrice
  · rw [if_pos swapped]
    exact ⟨bound _, bound _⟩
  · rw [if_neg swapped]
    exact ⟨bound _, bound _⟩

theorem recordTriggered_records {assessment : Assessment} {id : ℤ} {row : ShadowRecord}
    (priced : 0 < assessment.lastPrice) (recorded : recordTriggered assessment id = some row) :
    Records assessment row.toShadowObservation := by
  obtain ⟨low, high⟩ := Assessment.entryZone_pos priced
  unfold recordTriggered at recorded
  dsimp only at recorded
  split_ifs at recorded with accepted
  obtain rfl := Option.some.inj recorded
  obtain ⟨-, directed, bars, ms, -⟩ := accepted
  have stored : ∀ bound, 0 < bound → storedBound bound assessment.entryPrice = bound :=
    fun bound positive => if_neg fun failed => absurd positive (not_lt.mpr failed.1)
  exact ⟨rfl, rfl, rfl, rfl, rfl, rfl, rfl, rfl, directed, rfl, rfl, rfl, rfl, rfl, rfl, rfl,
    stored _ low, stored _ high, ⟨low, high⟩, rfl, rfl, rfl, rfl, congrArg some bars,
    congrArg some ms, rfl⟩

section Recorded

variable {assessment : Assessment} {row : ShadowRecord}

section

variable (records : Records assessment row.toShadowObservation)

include records

theorem Records.zoneBounds :
    row.zoneBounds = ⟨assessment.entryZone.1, assessment.entryZone.2⟩ := by
  unfold ShadowRecord.zoneBounds priceOr
  rw [records.zoneLow, records.zoneHigh, if_neg records.zonePositive.1.ne',
    if_neg records.zonePositive.2.ne']

theorem Records.fillPriceAt_pos (openPrice : ℚ) : 0 < row.fillPriceAt openPrice := by
  obtain ⟨low, high⟩ : 0 < row.zone.low ∧ 0 < row.zone.high := by
    unfold ShadowRecord.zone
    rw [records.zoneBounds]
    dsimp only
    split_ifs
    · exact records.zonePositive.symm
    · exact records.zonePositive
  unfold ShadowRecord.fillPriceAt
  dsimp only
  split_ifs with long above below
  · exact high
  · exact lt_max_of_lt_left low
  · exact low
  · exact lt_min high (low.trans (not_le.mp below))

theorem Records.signalT :
    row.signalT = assessment.decisionTimeMs := by
  unfold ShadowRecord.signalT barOr
  rw [records.signalTime, if_neg assessment.decisionTime_positive.ne']

theorem Records.evalHorizonMs :
    row.evalHorizonMs = (getPlaybookEvaluationProfile assessment.plan.setup).horizonMs := by
  unfold ShadowRecord.evalHorizonMs
  rw [if_pos records.profileVersion, records.setup]

end

end Recorded

/-! ### Fills -/

structure Fill where
  price : ℚ
  startMs : ℤ
  timeMs : ℤ
  barOpenMs : ℤ

structure Fill.Valid (fill : Fill) (signalMs slackMs : ℤ) : Prop where
  priced : 0 < fill.price
  afterSignal : signalMs ≤ fill.startMs
  inOrder : fill.startMs < fill.timeMs
  onGrid : quarterMs ∣ fill.barOpenMs
  inBar : fill.barOpenMs ≤ fill.startMs
  endsInBar : fill.timeMs ≤ fill.barOpenMs + quarterMs - slackMs

structure FillFound.Fits (found : FillFound) (row : ShadowRecord) (slackMs : ℤ) : Prop where
  valid : (Fill.mk found.price found.intervalStartMs found.timeMs
    found.touchBar.openTimeMs).Valid row.signalT slackMs
  listed : Listed slackMs quarterMs found.touchBar
  intervalEnd : found.intervalEndMs = found.timeMs
  minutes : ∀ minute ∈ found.minutes, MinuteOf slackMs found.touchBar minute ∧
    found.timeMs ≤ minute.closeTimeMs
  stopped : found.stopped = true → found.timeMs = found.touchBar.closeTimeMs ∧
    (row.position 0).touchesStop found.touchBar = true

section Search

variable {slackMs : ℤ} {feed : MarketFeed} {assessment : Assessment} {row : ShadowRecord}
  {found : FillFound} {bar : Candle}

theorem fillByMinute_fits (records : Records assessment row.toShadowObservation)
    (listed : Listed slackMs quarterMs bar) {minutes : List Candle}
    (inside : ∀ minute ∈ minutes, MinuteOf slackMs bar minute)
    (sorted : minutes.Pairwise fun first second => first.openTimeMs ≤ second.openTimeMs)
    (later : ∀ minute ∈ minutes.head?, row.signalT ≤ minute.openTimeMs)
    (filled : fillByMinute row bar minutes = some found) : found.Fits row slackMs := by
  cases minutes with
  | nil => cases filled
  | cons minute rest =>
    obtain rfl := Option.some.inj filled
    have first := inside minute List.mem_cons_self
    have length := first.listed.closes
    refine ⟨⟨records.fillPriceAt_pos _, later minute rfl, minute.closeAfterOpen, listed.opens,
      first.opens, ?_⟩, listed, rfl, fun other member => ⟨inside other member, ?_⟩, nofun⟩
    · exact first.closes.trans listed.closes.le
    · have begins : minute.openTimeMs ≤ other.openTimeMs := by
        rcases List.mem_cons.mp member with rfl | member
        · exact le_rfl
        · exact (List.pairwise_cons.mp sorted).1 other member
      have otherLength := (inside other member).listed.closes
      dsimp only
      omega

theorem fillByBar_fits (records : Records assessment row.toShadowObservation)
    (listed : Listed slackMs quarterMs bar) (later : row.signalT ≤ bar.openTimeMs) :
    (fillByBar row bar).Fits row slackMs :=
  ⟨⟨records.fillPriceAt_pos _, later, bar.closeAfterOpen, listed.opens, le_rfl,
    listed.closes.le⟩, listed, rfl, nofun, fun stop => ⟨rfl, stop⟩⟩

/-- What `dropWhile` keeps begins with a minute that ends the dropping. -/
theorem dropWhile_head? {condition : Candle → Bool} {minutes : List Candle} {minute : Candle}
    (head : minute ∈ (minutes.dropWhile condition).head?) : condition minute = false := by
  have ends := List.head?_dropWhile_not condition minutes
  rwa [show (minutes.dropWhile condition).head? = some minute from head] at ends

section

variable (records : Records assessment row.toShadowObservation)

include records

theorem fillInPartialBar_fits
    (documented : feed.Documented slackMs) (listed : Listed slackMs quarterMs bar)
    (filled : fillInPartialBar row feed bar = .filled found) : found.Fits row slackMs := by
  unfold fillInPartialBar at filled
  dsimp only at filled
  split_ifs at filled with covered
  split at filled
  · rename_i filledBy
    cases filled
    have kept := List.dropWhile_sublist (l := (feed.minutesOf bar).filter fun minute =>
      row.signalT < minute.closeTimeMs) fun minute => decide
        (¬ (row.signalT ≤ minute.openTimeMs ∧ row.zone.Touches minute))
    refine fillByMinute_fits records listed (fun minute member => ?_) ?_ (fun minute head => ?_)
      filledBy
    · exact minutesOf_minute documented (List.mem_filter.mp (kept.subset member)).1
    · exact ((minutesOf_sorted bar).filter _).sublist kept
    · exact (not_not.mp (of_decide_eq_false (dropWhile_head? head))).1
  · cases filled

theorem fillInBar_fits
    (documented : feed.Documented slackMs) (listed : Listed slackMs quarterMs bar)
    (later : row.signalT ≤ bar.openTimeMs) : (fillInBar row feed bar).Fits row slackMs := by
  have byBar := fillByBar_fits records listed later
  unfold fillInBar
  dsimp only
  split_ifs
  · generalize filledBy : fillByMinute row bar _ = byMinute
    cases byMinute with
    | none => exact byBar
    | some found =>
      have kept := List.dropWhile_sublist (l := feed.minutesOf bar) fun minute =>
        decide (¬ row.zone.Touches minute)
      refine fillByMinute_fits records listed (fun minute member => ?_) ?_ (fun minute head => ?_)
        filledBy
      · exact minutesOf_minute documented (kept.subset member)
      · exact (minutesOf_sorted bar).sublist kept
      · have member := kept.subset (List.mem_of_mem_head? head)
        exact later.trans (minutesOf_minute documented member).opens
  · exact byBar
  · exact byBar

/-- What the loop over the entry window finds is a fill after the signal. -/
theorem scanForFill_fits (documented : feed.Documented slackMs) {bars : List Candle}
    (listed : ∀ bar ∈ bars, Listed slackMs quarterMs bar)
    (filled : scanForFill row feed bars = .filled found) : found.Fits row slackMs := by
  induction bars with
  | nil => cases filled
  | cons bar rest inductionHypothesis =>
    obtain ⟨first, others⟩ := List.forall_mem_cons.mp listed
    unfold scanForFill at filled
    split_ifs at filled with early touches
    · split at filled
      · exact inductionHypothesis others filled
      · exact fillInPartialBar_fits records documented first filled
    · cases filled
      exact fillInBar_fits records documented first (not_lt.mp early)
    · exact inductionHypothesis others filled

end

end Search

end QuantAgent.MarketWatch.Shadow
