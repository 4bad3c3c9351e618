/-
This file asks what a fill knows of the bars: whether the time, the price, the quantity or the fee
of a filled order changes with data that nobody can observe at the moment of the fill.

Orders learn nothing of the future. A conditional that triggers at the open of its bar does: it is
refused when the completed bar has no volume.
-/

import QuantAgent.Economic.Clock

namespace QuantAgent.Economic

/-! ### What can be seen of a bar -/

def SeenAlike (momentMs : Int) (bar bar' : Candle) : Prop :=
  if momentMs = bar.openTimeMs then
    bar'.openTimeMs = bar.openTimeMs ∧ bar'.openPrice = bar.openPrice
  else bar' = bar

variable {momentMs : Int}

theorem SeenAlike.of_open {bar bar' : Candle} (seen : SeenAlike momentMs bar bar')
    (moment : momentMs = bar.openTimeMs) :
    bar'.openTimeMs = bar.openTimeMs ∧ bar'.openPrice = bar.openPrice := by
  rw [SeenAlike, if_pos moment] at seen
  exact seen

theorem SeenAlike.of_close {bar bar' : Candle}
    (seen : SeenAlike momentMs bar bar') (moment : momentMs = bar.closeTimeMs) : bar' = bar := by
  have closes := bar.closeAfterOpen
  rw [SeenAlike, if_neg (by omega)] at seen
  exact seen

/-- A fill learns nothing of what cannot be seen at its moment: it comes from one bar, and neither
the bars after that one nor the unseen part of it matter. -/
structure LearnsNothing (simulation : List Candle → Except String ExecutionResult)
    (result : ExecutionResult) (before : List Candle) (bar : Candle) : Prop where
  moment : result.fillTimestampMs = bar.openTimeMs ∨ result.fillTimestampMs = bar.closeTimeMs
  notBefore : ∀ earlier, simulation before = .ok earlier → earlier.isFilled = false
  same : ∀ bar' later', SeenAlike result.fillTimestampMs bar bar' →
    simulation (before ++ bar' :: later') = .ok result

namespace ExecutionModel

variable (model : ExecutionModel)

/-! ### A limit order over its bars -/

section Limit

variable {model} {request : OrderRequest} {limitPrice : ℚ} {bar : Candle} {rest : List Candle}
  {result : ExecutionResult}

def MarketableAtOpen (model : ExecutionModel) (request : OrderRequest) (limitPrice : ℚ)
    (bar : Candle) : Prop :=
  bar.openTimeMs ≤ (model.timeline request).expirationMs ∧
    (model.timeline request).earliestFillMs ≤ bar.openTimeMs ∧
    withinLimit request.side (request.openingPrice bar).1 limitPrice = true

theorem scanLimit_cons (model : ExecutionModel) (request : OrderRequest) (limitPrice : ℚ)
    (bar : Candle) :
    (∀ rest, model.scanLimit request limitPrice (bar :: rest) =
      model.scanLimit request limitPrice rest) ∨
    (MarketableAtOpen model request limitPrice bar ∧
      ∀ rest, model.scanLimit request limitPrice (bar :: rest) =
        model.fillLimitAtOpen request limitPrice bar) ∨
    ∃ time reason metadata, ∀ rest, model.scanLimit request limitPrice (bar :: rest) =
      model.rejected request time reason metadata := by
  by_cases expired : (model.timeline request).expirationMs < bar.openTimeMs
  · exact .inr (.inr ⟨_, _, _, fun rest => by rw [scanLimit, if_pos expired]⟩)
  by_cases closed : bar.closeTimeMs < (model.timeline request).earliestFillMs
  · exact .inl fun rest => by rw [scanLimit, if_neg expired, if_pos closed]
  by_cases begun : bar.openTimeMs < (model.timeline request).earliestFillMs
  · exact .inl fun rest => by rw [scanLimit, if_neg expired, if_neg closed, if_pos begun]
  by_cases marketable : withinLimit request.side (request.openingPrice bar).1 limitPrice = true
  · refine .inr (.inl ⟨⟨not_lt.mp expired, not_lt.mp begun, marketable⟩, fun rest => ?_⟩)
    rw [scanLimit, if_neg expired, if_neg closed, if_neg begun, if_pos marketable]
  by_cases still : bar.volume ≤ 0
  · refine .inl fun rest => ?_
    rw [scanLimit, if_neg expired, if_neg closed, if_neg begun, if_neg marketable, if_pos still]
  by_cases touched : (tradedThrough request.side bar limitPrice ||
      model.deterministicTouch request.side bar limitPrice) = true
  · exact .inr (.inr ⟨_, _, _, fun rest => by
      rw [scanLimit, if_neg expired, if_neg closed, if_neg begun, if_neg marketable,
        if_neg still, if_pos touched]⟩)
  · refine .inl fun rest => ?_
    rw [scanLimit, if_neg expired, if_neg closed, if_neg begun, if_neg marketable, if_neg still,
      if_neg touched]

theorem scanLimit_of_marketable (marketable : MarketableAtOpen model request limitPrice bar) :
    model.scanLimit request limitPrice (bar :: rest) =
      model.fillLimitAtOpen request limitPrice bar := by
  obtain ⟨lives, arrived, within⟩ := marketable
  have closes := bar.closeAfterOpen
  rw [scanLimit, if_neg (not_lt.mpr lives), if_neg (by omega), if_neg (not_lt.mpr arrived),
    if_pos within]

theorem fillLimitAtOpen_time (done : model.fillLimitAtOpen request limitPrice bar = .ok result)
    (isFilled : result.isFilled = true) : result.fillTimestampMs = bar.openTimeMs := by
  obtain ⟨taker, -, answered⟩ := bind_eq_ok.mp done
  cases taker with
  | refused evidence reason =>
    exact absurd answered (not_rejected isFilled)
  | priced price evidence =>
    dsimp only at answered
    split_ifs at answered
    · have atOpen : ∃ other ∈ [bar], bar.openTimeMs = other.openTimeMs ∨
          bar.openTimeMs = other.closeTimeMs := ⟨bar, List.mem_singleton_self _, .inl rfl⟩
      exact (filled_ok atOpen answered).1
    · exact absurd answered (not_rejected isFilled)

theorem fillLimitAtOpen_congr {bar' : Candle} (time : bar'.openTimeMs = bar.openTimeMs)
    (price : bar'.openPrice = bar.openPrice) :
    model.fillLimitAtOpen request limitPrice bar' =
      model.fillLimitAtOpen request limitPrice bar := by
  have opening : request.openingPrice bar' = request.openingPrice bar := by
    unfold OrderRequest.openingPrice
    rw [time, price]
  unfold fillLimitAtOpen
  rw [opening, time, price]

end Limit

/-! ### Orders learn nothing -/

section Orders

variable {model} {request : OrderRequest} {limitPrice : ℚ} {candles : List Candle}
  {result : ExecutionResult}

theorem scanLimit_learnsNothing (done : model.scanLimit request limitPrice candles = .ok result)
    (isFilled : result.isFilled = true) :
    ∃ before bar later, candles = before ++ bar :: later ∧
      LearnsNothing (model.scanLimit request limitPrice) result before bar := by
  induction candles with
  | nil =>
    exact absurd done (not_rejected isFilled)
  | cons bar rest inductionHypothesis =>
    rcases model.scanLimit_cons request limitPrice bar with
      waits | ⟨marketable, fills⟩ | ⟨time, reason, metadata, refuses⟩
    · rw [waits] at done
      obtain ⟨before, fillBar, later, rfl, learns⟩ := inductionHypothesis done
      refine ⟨bar :: before, fillBar, later, rfl, learns.moment, ?_, ?_⟩
      · intro earlier scanned
        rw [waits] at scanned
        exact learns.notBefore earlier scanned
      · intro bar' later' seen
        rw [List.cons_append, waits]
        exact learns.same bar' later' seen
    · rw [fills] at done
      have moment := fillLimitAtOpen_time done isFilled
      refine ⟨[], bar, rest, rfl, .inl moment, fun earlier scanned => rejected_ok scanned, ?_⟩
      intro bar' later' seen
      obtain ⟨time, price⟩ := seen.of_open moment
      have marketable' : MarketableAtOpen model request limitPrice bar' := by
        unfold MarketableAtOpen OrderRequest.openingPrice at marketable ⊢
        rw [time, price]
        exact marketable
      rw [List.nil_append, scanLimit_of_marketable marketable', fillLimitAtOpen_congr time price]
      exact done
    · rw [refuses] at done
      exact absurd done (not_rejected isFilled)

theorem simulateLimit_learnsNothing
    (done : model.simulateLimit request candles = .ok result)
    (isFilled : result.isFilled = true) :
    ∃ before bar later, candles = before ++ bar :: later ∧
      LearnsNothing (model.simulateLimit request) result before bar := by
  cases limit : request.limitPrice with
  | none =>
    unfold simulateLimit at done
    rw [limit] at done
    exact absurd done (not_rejected isFilled)
  | some limitPrice =>
    by_cases invalid : limitPrice ≤ 0
    · unfold simulateLimit at done
      rw [limit] at done
      dsimp only at done
      rw [if_pos invalid] at done
      exact absurd done (not_rejected isFilled)
    by_cases expired : (model.timeline request).expirationMs <
        (model.timeline request).earliestFillMs
    · unfold simulateLimit at done
      rw [limit] at done
      dsimp only at done
      rw [if_neg invalid, if_pos expired] at done
      exact absurd done (not_rejected isFilled)
    have scans : model.simulateLimit request = model.scanLimit request limitPrice := by
      funext bars
      unfold simulateLimit
      rw [limit]
      dsimp only
      rw [if_neg invalid, if_neg expired]
    rw [scans] at done ⊢
    exact scanLimit_learnsNothing done isFilled

section Market

variable {request : OrderRequest} {bar : Candle}

def InTime (model : ExecutionModel) (request : OrderRequest) (bar : Candle) : Bool :=
  (model.timeline request).earliestFillMs ≤ bar.closeTimeMs

theorem simulateMarket_of_none (none : candles.find? (InTime model request) = none) :
    model.simulateMarket request candles =
      model.rejected request (model.timeline request).earliestFillMs .marketDataExhausted [] := by
  unfold InTime at none
  unfold simulateMarket
  dsimp only
  rw [none]

theorem simulateMarket_of_some (found : candles.find? (InTime model request) = some bar) :
    model.simulateMarket request candles =
      if (model.timeline request).earliestFillMs ≤ bar.openTimeMs then
        model.fillMarketAtBar request bar bar.openPrice
          (max (model.timeline request).earliestFillMs bar.openTimeMs) none
      else
        model.fillMarketAtBar request bar bar.close
          (max (model.timeline request).earliestFillMs bar.closeTimeMs) (some bar.volume) := by
  unfold InTime at found
  unfold simulateMarket
  dsimp only
  rw [found]

theorem find?_inTime {before later : List Candle}
    (early : ∀ earlier ∈ before, InTime model request earlier = false)
    (inTime : InTime model request bar = true) :
    (before ++ bar :: later).find? (InTime model request) = some bar := by
  refine List.find?_eq_some_iff_append.mpr ⟨inTime, before, later, rfl, fun earlier member => ?_⟩
  rw [early earlier member]
  rfl

theorem fillMarketAtBar_congr {bar' : Candle} {refPrice : ℚ} {fillTime : Int}
    {completedVolumeBase : Option ℚ} (time : bar'.openTimeMs = bar.openTimeMs) :
    model.fillMarketAtBar request bar' refPrice fillTime completedVolumeBase =
      model.fillMarketAtBar request bar refPrice fillTime completedVolumeBase := by
  unfold fillMarketAtBar
  rw [time]

/-- A market order reads the time and the price of the open of its bar, or waits for its close. -/
theorem simulateMarket_learnsNothing (done : model.simulateMarket request candles = .ok result)
    (isFilled : result.isFilled = true) :
    ∃ before bar later, candles = before ++ bar :: later ∧
      LearnsNothing (model.simulateMarket request) result before bar := by
  cases found : candles.find? (InTime model request) with
  | none =>
    rw [simulateMarket_of_none found] at done
    exact absurd done (not_rejected isFilled)
  | some bar =>
    obtain ⟨inTime, before, later, rfl, earlier⟩ := List.find?_eq_some_iff_append.mp found
    have early : ∀ earlier ∈ before, InTime model request earlier = false := by
      intro other member
      simpa using earlier other member
    have notBefore : ∀ earlier, model.simulateMarket request before = .ok earlier →
        earlier.isFilled = false := by
      intro other scanned
      have none : before.find? (InTime model request) = none :=
        List.find?_eq_none.mpr fun bar member => by simp [early bar member]
      rw [simulateMarket_of_none none] at scanned
      exact rejected_ok scanned
    have closes : (model.timeline request).earliestFillMs ≤ bar.closeTimeMs := by
      simpa [InTime] using inTime
    rw [simulateMarket_of_some found] at done
    refine ⟨before, bar, later, rfl, ?_⟩
    split_ifs at done with opens
    · rw [max_eq_right opens] at done
      have atOpen : ∃ other ∈ [bar], bar.openTimeMs = other.openTimeMs ∨
          bar.openTimeMs = other.closeTimeMs := ⟨bar, List.mem_singleton_self _, .inl rfl⟩
      have moment := (fillMarketAtBar_ok atOpen done isFilled).1
      refine ⟨.inl moment, notBefore, fun bar' later' seen => ?_⟩
      obtain ⟨time, price⟩ := seen.of_open moment
      have opens' : (model.timeline request).earliestFillMs ≤ bar'.openTimeMs := by
        rw [time]
        exact opens
      have inTime' : InTime model request bar' = true :=
        decide_eq_true (opens'.trans bar'.closeAfterOpen.le)
      rw [simulateMarket_of_some (find?_inTime early inTime'), if_pos opens',
        max_eq_right opens', fillMarketAtBar_congr time, time, price]
      exact done
    · rw [max_eq_right closes] at done
      have atClose : ∃ other ∈ [bar], bar.closeTimeMs = other.openTimeMs ∨
          bar.closeTimeMs = other.closeTimeMs := ⟨bar, List.mem_singleton_self _, .inr rfl⟩
      have moment := (fillMarketAtBar_ok atClose done isFilled).1
      refine ⟨.inr moment, notBefore, fun bar' later' seen => ?_⟩
      rw [seen.of_close moment, simulateMarket_of_some (find?_inTime early inTime),
        if_neg opens, max_eq_right closes]
      exact done

end Market

theorem simulateOrder_eq (done : model.simulateOrder request candles = .ok result)
    (isFilled : result.isFilled = true) (bars : List Candle) :
    model.simulateOrder request bars =
      if bars = [] then
        model.rejected request
          (model.timeline request).earliestFillMs .noMarketData []
      else
        match request.orderType with
        | .market => model.simulateMarket request bars
        | .limit => model.simulateLimit request bars := by
  obtain ⟨⟨⟩, checked, answered⟩ := bind_eq_ok.mp done
  unfold simulateOrder
  rw [checked]
  dsimp only [bind, Except.bind] at answered ⊢
  split_ifs at answered with invalid
  · exact absurd answered (not_rejected isFilled)
  · exact absurd answered (not_rejected isFilled)
  · exact if_neg invalid

theorem simulateOrder_learnsNothing
    (done : model.simulateOrder request candles = .ok result)
    (isFilled : result.isFilled = true) :
    ∃ before bar later, candles = before ++ bar :: later ∧
      LearnsNothing (model.simulateOrder request) result before bar := by
  have core : ∃ simulation : List Candle → Except String ExecutionResult,
      (∀ bars, bars ≠ [] → model.simulateOrder request bars = simulation bars) ∧
      (simulation candles = .ok result → ∃ before bar later, candles = before ++ bar :: later ∧
        LearnsNothing simulation result before bar) := by
    cases orderType : request.orderType with
    | market =>
      refine ⟨model.simulateMarket request, fun bars nonempty => ?_,
        fun answered => simulateMarket_learnsNothing answered isFilled⟩
      rw [simulateOrder_eq done isFilled, if_neg nonempty, orderType]
    | limit =>
      refine ⟨model.simulateLimit request, fun bars nonempty => ?_,
        fun answered => simulateLimit_learnsNothing answered isFilled⟩
      rw [simulateOrder_eq done isFilled, if_neg nonempty, orderType]
  obtain ⟨simulation, agrees, learns⟩ := core
  have unfilledEmpty : ∀ earlier, model.simulateOrder request [] = .ok earlier →
      earlier.isFilled = false := by
    intro earlier scanned
    rw [simulateOrder_eq done isFilled, if_pos rfl] at scanned
    exact rejected_ok scanned
  have nonempty : candles ≠ [] := by
    rintro rfl
    rw [unfilledEmpty result done] at isFilled
    cases isFilled
  obtain ⟨before, bar, later, split, learns⟩ := learns ((agrees _ nonempty).symm.trans done)
  refine ⟨before, bar, later, split, learns.moment, fun earlier scanned => ?_, ?_⟩
  · by_cases first : before = []
    · exact unfilledEmpty earlier (first ▸ scanned)
    · exact learns.notBefore earlier ((agrees _ first).symm.trans scanned)
  · intro bar' later' seen
    rw [agrees _ (List.append_ne_nil_of_right_ne_nil _ (List.cons_ne_nil _ _))]
    exact learns.same bar' later' seen

end Orders

/-! ### Conditionals -/

section Conditional

variable {model} {request : ConditionalRequest} {triggerBar : Candle} {result : ExecutionResult}

def emptied (bar : Candle) : Candle :=
  { bar with
    volume := 0
    volumesNonneg := le_min le_rfl (le_trans bar.volumesNonneg (min_le_right _ _)) }

theorem emptied_unfilled (positive : 0 < request.desiredQuantity)
    (done : model.simulateConditionalMarketFill request (emptied triggerBar) = .ok result) :
    result.isFilled = false := by
  obtain ⟨⟨⟩, -, answered⟩ := bind_eq_ok.mp done
  rw [if_neg (not_le.mpr positive), if_pos (show (emptied triggerBar).volume ≤ 0 from le_rfl)]
    at answered
  rw [← (ExecutionResult.validate_ok answered).1]
  rfl

end Conditional

end ExecutionModel

/-! ### Causal fills -/

/-- An order over the bars from its signal on, or a conditional over its trigger bar. -/
inductive Order where
  | placed (request : OrderRequest)
  | conditional (request : ConditionalRequest)

structure SameFill (result other : ExecutionResult) : Prop where
  filled : other.isFilled = true
  time : other.fillTimestampMs = result.fillTimestampMs
  price : other.fillPrice = result.fillPrice
  quantity : other.filledQuantity = result.filledQuantity
  fee : other.feeUsdt = result.feeUsdt

namespace Order

def simulate (model : ExecutionModel) : Order → List Candle → Except String ExecutionResult
  | placed request, candles => model.simulateOrder request candles
  | conditional request, triggerBar :: _ => model.simulateConditionalMarketFill request triggerBar
  | conditional _, [] => .error "trigger_bar is required"

structure MadeAt (model : ExecutionModel) (order : Order) (result : ExecutionResult)
    (before : List Candle) (bar : Candle) : Prop where
  moment : result.fillTimestampMs = bar.openTimeMs ∨ result.fillTimestampMs = bar.closeTimeMs
  notBefore : ∀ earlier, order.simulate model before = .ok earlier → earlier.isFilled = false
  past : OrderedBars (before ++ [bar]) →
    ∀ earlier ∈ before, earlier.closeTimeMs ≤ result.fillTimestampMs
  unchanged : ∀ bar' later', SeenAlike result.fillTimestampMs bar bar' →
    ∃ other, order.simulate model (before ++ bar' :: later') = .ok other ∧ SameFill result other

/-- The fill does not change with data that cannot be observed at its moment. -/
def Causal (model : ExecutionModel) (order : Order) (candles : List Candle)
    (result : ExecutionResult) : Prop :=
  ∃ before bar later, candles = before ++ bar :: later ∧ order.MadeAt model result before bar

def TriggersAtOpen : Order → Prop
  | placed _ => False
  | conditional request => request.triggerTime = .barOpenKnown

theorem past_of_ordered {before : List Candle} {bar : Candle}
    (moment : momentMs = bar.openTimeMs ∨ momentMs = bar.closeTimeMs)
    (ordered : OrderedBars (before ++ [bar])) :
    ∀ earlier ∈ before, earlier.closeTimeMs ≤ momentMs := by
  intro earlier member
  have opens := (List.pairwise_append.mp ordered).2.2 earlier member bar
    (List.mem_singleton_self bar)
  have closes := bar.closeAfterOpen
  omega

section

variable {model : ExecutionModel} {candles : List Candle} {result : ExecutionResult}

theorem causal_placed {request : OrderRequest}
    (done : model.simulateOrder request candles = .ok result)
    (isFilled : result.isFilled = true) : (placed request).Causal model candles result := by
  obtain ⟨before, bar, later, split, learns⟩ :=
    ExecutionModel.simulateOrder_learnsNothing done isFilled
  refine ⟨before, bar, later, split, learns.moment, learns.notBefore,
    past_of_ordered learns.moment, fun bar' later' seen => ?_⟩
  exact ⟨result, learns.same bar' later' seen, isFilled, rfl, rfl, rfl, rfl⟩

variable {request : ConditionalRequest}

theorem causal_conditional (done : (conditional request).simulate model candles = .ok result)
    (isFilled : result.isFilled = true) (trigger : request.triggerTime = .intrabarUnknown) :
    (conditional request).Causal model candles result := by
  cases candles with
  | nil => cases done
  | cons bar later =>
    obtain ⟨-, -, -, -, atClose⟩ :=
      ExecutionModel.simulateConditionalMarketFill_ok done isFilled
    have moment := atClose trigger
    refine ⟨[], bar, later, rfl, .inr moment, ?_, ?_, ?_⟩
    · intro earlier scanned
      cases scanned
    · exact fun ordered => past_of_ordered (.inr moment) ordered
    · intro bar' later' seen
      rw [seen.of_close moment]
      exact ⟨result, done, isFilled, rfl, rfl, rfl, rfl⟩

theorem not_causal_conditional (done : (conditional request).simulate model candles = .ok result)
    (isFilled : result.isFilled = true) (trigger : request.triggerTime = .barOpenKnown) :
    ¬ (conditional request).Causal model candles result := by
  rintro ⟨before, bar, later, rfl, made⟩
  cases before with
  | cons first rest =>
    have early := made.notBefore result done
    rw [early] at isFilled
    cases isFilled
  | nil =>
    obtain ⟨filled, -, -, atOpen, -⟩ :=
      ExecutionModel.simulateConditionalMarketFill_ok done isFilled
    have moment := atOpen trigger
    have positive : 0 < request.desiredQuantity := filled.whole rfl ▸ filled.quantityPositive
    have seen : SeenAlike result.fillTimestampMs bar (ExecutionModel.emptied bar) := by
      unfold SeenAlike
      rw [if_pos moment]
      exact ⟨rfl, rfl⟩
    obtain ⟨other, answered, same⟩ := made.unchanged _ [] seen
    have unfilled := ExecutionModel.emptied_unfilled positive answered
    rw [same.filled] at unfilled
    cases unfilled

/-- A fill is causal exactly when it is not that of a conditional at the open of its bar. -/
theorem order_causal_iff {order : Order} (done : order.simulate model candles = .ok result)
    (isFilled : result.isFilled = true) :
    order.Causal model candles result ↔ ¬ order.TriggersAtOpen := by
  cases order with
  | placed request => exact ⟨fun _ triggers => triggers, fun _ => causal_placed done isFilled⟩
  | conditional request =>
    refine ⟨fun causal trigger => not_causal_conditional done isFilled trigger causal, ?_⟩
    intro intrabar
    refine causal_conditional done isFilled ?_
    cases trigger : request.triggerTime with
    | barOpenKnown => exact absurd trigger intrabar
    | intrabarUnknown => rfl

end

/-- Orders take no time and cost nothing. -/
def freeModel : ExecutionModel :=
  { feeModel := { slippageMode := .zero }, decisionLatencyMs := 0, exchangeLatencyMs := 0 }

def gapStop : ConditionalRequest where
  armedTimestampMs := 110
  triggerObservationTimestampMs := 120
  side := .sell
  desiredQuantity := 1
  referencePrice := 90
  triggerTime := .barOpenKnown

/-- The stop is filled at the open of the bar, and not if the bar then has no volume. -/
theorem gapStop_reads_volume :
    ∃ result, (conditional gapStop).simulate freeModel [sampleBar 120 90 90] = .ok result ∧
      result.isFilled = true ∧ result.fillTimestampMs = 120 ∧
      ¬ (conditional gapStop).Causal freeModel [sampleBar 120 90 90] result := by
  have done : ((conditional gapStop).simulate freeModel [sampleBar 120 90 90]).isOk = true := by
    decide +kernel
  obtain ⟨result, reached⟩ := exists_ok_of_isOk done
  have fill : ((conditional gapStop).simulate freeModel [sampleBar 120 90 90]).toOption.map
      (fun result => (result.isFilled, result.fillTimestampMs)) = some (true, 120) := by
    decide +kernel
  rw [reached] at fill
  obtain ⟨isFilled, time⟩ := Prod.mk.inj (Option.some.inj fill)
  exact ⟨result, reached, isFilled, time, not_causal_conditional reached isFilled rfl⟩

/-- A limit order below the open of its first bar, at the open of the second. -/
def restingOrder : OrderRequest where
  signalTimestampMs := 100
  side := .buy
  desiredQuantity := 1
  orderType := .limit
  limitPrice := some 95

theorem order_causal_resting :
    ∃ result, (placed restingOrder).simulate freeModel
        [sampleBar 100 100 98, sampleBar 110 94 90] = .ok result ∧ result.isFilled = true ∧
      (placed restingOrder).Causal freeModel [sampleBar 100 100 98, sampleBar 110 94 90]
        result := by
  have done : ((placed restingOrder).simulate freeModel
      [sampleBar 100 100 98, sampleBar 110 94 90]).isOk = true := by decide +kernel
  obtain ⟨result, reached⟩ := exists_ok_of_isOk done
  have fill : ((placed restingOrder).simulate freeModel
      [sampleBar 100 100 98, sampleBar 110 94 90]).toOption.map ExecutionResult.isFilled =
        some true := by decide +kernel
  rw [reached] at fill
  have isFilled : result.isFilled = true := Option.some.inj fill
  exact ⟨result, reached, isFilled, (order_causal_iff reached isFilled).mpr id⟩

end Order

end QuantAgent.Economic
