/-
This file compares the two ways to account for the portfolio. The methods are embedded as
the source runs them, on an object that keeps every change made before an exception. A
rejected call changes nothing; the equity at any marks is the initial cash plus what every
accepted call moves at those marks; and a replay of the history rebuilds the account.
-/

import QuantAgent.Economic.Portfolio

namespace QuantAgent.Economic

open Portfolio KeyedList

/-! ### The methods on the object -/

/-- A method of the portfolio: the changes made before an exception stay. -/
abbrev Account (Value : Type) := ExceptT String (StateM Portfolio) Value

namespace Account

variable {Value Result : Type}

/-- A computation that may raise and changes nothing. -/
def checked (program : Except String Value) : Account Value := ExceptT.mk (pure program)

/-- The outcome of a method on an object. -/
def perform (method : Account Value) (portfolio : Portfolio) :
    Except String Value × Portfolio :=
  method.run portfolio

/-- `Position(...) if new_qty != 0 else None`. -/
def newPosition (trade : TradeRequest) (current : Option Position) (newQty newEntry : ℚ) :
    Except String (Option Position) :=
  if newQty = 0 then .ok none
  else some <$> Position.create trade.asset newQty newEntry
    ((current.map Position.entryTimestampMs).getD trade.timestampMs)

/-- `self.positions.pop(asset, None)` or `self.positions[asset] = new_position`. -/
def place (asset : String) (positions : List Position) : Option Position → List Position
  | none => erase Position.asset positions asset
  | some position => KeyedList.insert Position.asset positions position

/-- `apply_trade`, statement by statement. -/
def applyTrade (trade : TradeRequest) : Account TradeEvent := do
  let self ← get
  checked (self.validateEventInput trade.timestampMs trade.asset)
  checked (refuse (trade.action = .fundingSettlement)
    "Use apply_funding for funding settlements")
  checked (refuse (trade.quantity ≤ 0 ∨ trade.price ≤ 0 ∨ trade.feeUsdt < 0)
    "Trade requires positive quantity/price and nonnegative fee")
  let current := self.position trade.asset
  let (newQty, newEntry, realized) ← checked (tradeOutcome current trade)
  let newPosition ← checked (newPosition trade current newQty newEntry)
  let event ← checked (self.tradeEvent trade newQty realized).validate
  modify fun self => { self with
    positions := place trade.asset self.positions newPosition }
  modify fun self => { self with cash := event.cashAfter }
  modify fun self => { self with tradeHistory := self.tradeHistory ++ [event] }
  return event

/-- `apply_funding`, statement by statement. -/
def applyFunding (timestampMs : Int) (asset : String) (cashflowUsdt markPrice : ℚ) :
    Account TradeEvent := do
  let self ← get
  checked (self.validateEventInput timestampMs asset)
  checked (refuse (self.getPositionQuantity asset = 0 ∧ cashflowUsdt ≠ 0)
    "Nonzero funding requires an open position")
  let event ← checked (self.fundingEvent timestampMs asset cashflowUsdt markPrice).validate
  modify fun self => { self with cash := event.cashAfter }
  modify fun self => { self with tradeHistory := self.tradeHistory ++ [event] }
  return event

theorem perform_get_bind (next : Portfolio → Account Result) (portfolio : Portfolio) :
    (get >>= next : Account Result).perform portfolio = (next portfolio).perform portfolio :=
  (rfl)

theorem perform_checked_bind (program : Except String Value) (next : Value → Account Result)
    (portfolio : Portfolio) :
    (checked program >>= next).perform portfolio =
      match program with
      | .ok value => (next value).perform portfolio
      | .error fault => (.error fault, portfolio) := by
  cases program <;> rfl

theorem perform_modify_bind (change : Portfolio → Portfolio) (next : Unit → Account Result)
    (portfolio : Portfolio) :
    (modify change >>= next : Account Result).perform portfolio =
      (next ()).perform (change portfolio) :=
  (rfl)

theorem perform_pure (value : Value) (portfolio : Portfolio) :
    (pure value : Account Value).perform portfolio = (.ok value, portfolio) :=
  (rfl)

theorem newPosition_map_place (portfolio : Portfolio) (trade : TradeRequest)
    (current : Option Position) (newQty newEntry : ℚ) :
    portfolio.positionsAfter trade current newQty newEntry =
      place trade.asset portfolio.positions <$> newPosition trade current newQty newEntry := by
  unfold positionsAfter newPosition
  by_cases flat : newQty = 0
  · rw [if_pos flat, if_pos flat]
    rfl
  · rw [if_neg flat, if_neg flat]
    cases Position.create trade.asset newQty newEntry
      ((current.map Position.entryTimestampMs).getD trade.timestampMs) <;> rfl

/-- The method answers like the functional ledger: on success with the event it appended, on
an exception with the object as it was. -/
theorem perform_applyTrade (trade : TradeRequest) (portfolio : Portfolio) :
    match portfolio.applyTrade trade with
    | .ok later => ∃ event, (applyTrade trade).perform portfolio = (.ok event, later) ∧
        later.tradeHistory = portfolio.tradeHistory ++ [event]
    | .error fault => (applyTrade trade).perform portfolio = (.error fault, portfolio) := by
  unfold applyTrade Portfolio.applyTrade
  simp only [perform_get_bind, perform_checked_bind, perform_modify_bind, perform_pure,
    newPosition_map_place]
  cases portfolio.validateEventInput trade.timestampMs trade.asset with
  | error fault => rfl
  | ok =>
    simp only [refuse]
    by_cases funding : trade.action = .fundingSettlement
    · simp [funding, bind, Except.bind]
    by_cases values : trade.quantity ≤ 0 ∨ trade.price ≤ 0 ∨ trade.feeUsdt < 0
    · simp [funding, values, bind, Except.bind]
    simp only [funding, values, if_false]
    cases tradeOutcome (portfolio.position trade.asset) trade with
    | error fault => rfl
    | ok outcome =>
      obtain ⟨newQty, newEntry, realized⟩ := outcome
      simp only [bind, Except.bind]
      cases newPosition trade (portfolio.position trade.asset) newQty newEntry with
      | error fault => rfl
      | ok placed =>
        simp only [Functor.map, Except.map]
        cases (portfolio.tradeEvent trade newQty realized).validate with
        | error fault => rfl
        | ok event => exact ⟨event, rfl, rfl⟩

theorem perform_applyFunding (timestampMs : Int) (asset : String)
    (cashflowUsdt markPrice : ℚ) (portfolio : Portfolio) :
    match portfolio.applyFunding timestampMs asset cashflowUsdt markPrice with
    | .ok later => ∃ event,
        (applyFunding timestampMs asset cashflowUsdt markPrice).perform portfolio =
          (.ok event, later) ∧
        later.tradeHistory = portfolio.tradeHistory ++ [event]
    | .error fault =>
        (applyFunding timestampMs asset cashflowUsdt markPrice).perform portfolio =
          (.error fault, portfolio) := by
  unfold applyFunding Portfolio.applyFunding
  simp only [perform_get_bind, perform_checked_bind, perform_modify_bind, perform_pure]
  cases portfolio.validateEventInput timestampMs asset with
  | error fault => rfl
  | ok =>
    simp only [refuse]
    by_cases flat : portfolio.getPositionQuantity asset = 0 ∧ cashflowUsdt ≠ 0
    · simp [flat, bind, Except.bind]
    simp only [flat, if_false]
    cases (portfolio.fundingEvent timestampMs asset cashflowUsdt markPrice).validate with
    | error fault => rfl
    | ok event => exact ⟨event, rfl, rfl⟩

end Account

/-! ### Runs of calls -/

inductive LedgerCall where
  | trade (request : TradeRequest)
  | funding (timestampMs : Int) (asset : String) (cashflowUsdt markPrice : ℚ)

variable {portfolio later : Portfolio} {call : LedgerCall} {event : TradeEvent}

namespace LedgerCall

def method : LedgerCall → Account TradeEvent
  | trade request => Account.applyTrade request
  | funding timestampMs asset cashflowUsdt markPrice =>
      Account.applyFunding timestampMs asset cashflowUsdt markPrice

def apply (portfolio : Portfolio) : LedgerCall → Except String Portfolio
  | trade request => portfolio.applyTrade request
  | funding timestampMs asset cashflowUsdt markPrice =>
      portfolio.applyFunding timestampMs asset cashflowUsdt markPrice

theorem perform_method (call : LedgerCall) (portfolio : Portfolio) :
    match call.apply portfolio with
    | .ok later => ∃ event, call.method.perform portfolio = (.ok event, later) ∧
        later.tradeHistory = portfolio.tradeHistory ++ [event]
    | .error fault => call.method.perform portfolio = (.error fault, portfolio) := by
  cases call with
  | trade request => exact Account.perform_applyTrade request portfolio
  | funding timestampMs asset cashflowUsdt markPrice =>
    exact Account.perform_applyFunding timestampMs asset cashflowUsdt markPrice portfolio

theorem apply_of_accepted (accepted : call.method.perform portfolio = (.ok event, later)) :
    call.apply portfolio = .ok later ∧
      later.tradeHistory = portfolio.tradeHistory ++ [event] := by
  have answer := perform_method call portfolio
  cases applied : call.apply portfolio with
  | error fault =>
    rw [applied] at answer
    rw [answer] at accepted
    cases accepted
  | ok result =>
    rw [applied] at answer
    obtain ⟨recorded, performed, history⟩ := answer
    rw [performed] at accepted
    cases accepted
    exact ⟨rfl, history⟩

theorem unchanged_of_rejected
    {fault : String} (rejected : call.method.perform portfolio = (.error fault, later)) :
    later = portfolio := by
  have answer := perform_method call portfolio
  cases applied : call.apply portfolio with
  | error other =>
    rw [applied] at answer
    rw [answer] at rejected
    cases rejected
    rfl
  | ok result =>
    rw [applied] at answer
    obtain ⟨recorded, performed, -⟩ := answer
    rw [performed] at rejected
    cases rejected

end LedgerCall

namespace Portfolio

/-- `Portfolio(initial_cash)`. -/
def create (initialCash : ℚ) : Except String Portfolio := do
  refuse (initialCash ≤ 0) "initial_cash must be positive"
  return { cash := initialCash }

/-- The portfolio after a sequence of calls, accepted and rejected. -/
def after (portfolio : Portfolio) (calls : List LedgerCall) : Portfolio :=
  calls.foldl (fun portfolio call => (call.method.perform portfolio).2) portfolio

def accepted (portfolio : Portfolio) : List LedgerCall → List LedgerCall
  | [] => []
  | call :: rest =>
      match call.method.perform portfolio with
      | (.ok _, later) => call :: later.accepted rest
      | (.error _, later) => later.accepted rest

/-- What holds of a portfolio and survives every accepted call holds after any sequence. -/
theorem after_keeps {keeps : Portfolio → Prop}
    (step : ∀ (call : LedgerCall) (portfolio later : Portfolio) (event : TradeEvent),
      keeps portfolio → call.method.perform portfolio = (.ok event, later) → keeps later)
    (start : keeps portfolio) (calls : List LedgerCall) :
    keeps (portfolio.after calls) := by
  induction calls generalizing portfolio with
  | nil => exact start
  | cons call rest inductionHypothesis =>
    apply inductionHypothesis
    show keeps (call.method.perform portfolio).2
    cases performed : call.method.perform portfolio with
    | mk outcome later =>
      cases outcome with
      | ok event => exact step call portfolio later event start performed
      | error fault =>
        rw [LedgerCall.unchanged_of_rejected performed]
        exact start

/-! ### Equity at marks -/

abbrev MarkPrices := List (String × ℚ)

/-- `mark_prices.get(asset)`. -/
def MarkPrices.mark (markPrices : MarkPrices) (asset : String) : Option ℚ :=
  (lookup Prod.fst markPrices asset).map Prod.snd

/-- One turn of the loop of `total_equity`. -/
def addUnrealized (markPrices : MarkPrices) (equity : ℚ) (position : Position) :
    Except String ℚ :=
  match markPrices.mark position.asset with
  | none => .error ("Missing mark price for " ++ position.asset)
  | some markPrice => do
    let unrealized ← position.unrealizedPnl markPrice
    return equity + unrealized

/-- `total_equity`. -/
def totalEquityAt (portfolio : Portfolio) (markPrices : MarkPrices) : Except String ℚ :=
  portfolio.positions.foldlM (addUnrealized markPrices) portfolio.cash

variable (markPrices : MarkPrices)

def worthAt (asset : String) (quantity entry : ℚ) : ℚ :=
  quantity * ((markPrices.mark asset).getD 0 - entry)

def equityAt (portfolio : Portfolio) : ℚ :=
  portfolio.cash + (portfolio.positions.map (valued (worthAt markPrices))).sum

def Marked (position : Position) : Prop :=
  ∃ markPrice, markPrices.mark position.asset = some markPrice ∧ 0 < markPrice

theorem addUnrealized_eq_ok (equity result : ℚ) (position : Position) :
    addUnrealized markPrices equity position = .ok result ↔
      Marked markPrices position ∧ result = equity + valued (worthAt markPrices) position := by
  unfold addUnrealized Marked valued worthAt Position.unrealizedPnl
  cases markPrices.mark position.asset with
  | none => simp
  | some markPrice =>
    by_cases positive : markPrice ≤ 0
    · simp [positive, bind, Except.bind]
    · simp [positive, not_le.mp positive, bind, Except.bind, pure, Except.pure, eq_comm]

theorem totalEquityAt_eq_ok (portfolio : Portfolio) (equity : ℚ) :
    portfolio.totalEquityAt markPrices = .ok equity ↔
      (∀ position ∈ portfolio.positions, Marked markPrices position) ∧
        equity = portfolio.equityAt markPrices := by
  obtain ⟨cash, positions, tradeHistory⟩ := portfolio
  unfold totalEquityAt equityAt
  dsimp only
  induction positions generalizing cash with
  | nil => simp [pure, Except.pure, eq_comm]
  | cons position rest inductionHypothesis =>
    rw [List.foldlM_cons, bind_eq_ok]
    simp only [addUnrealized_eq_ok, inductionHypothesis, List.forall_mem_cons, List.map_cons,
      List.sum_cons]
    constructor
    · rintro ⟨_, ⟨marked, rfl⟩, restMarked, rfl⟩
      exact ⟨⟨marked, restMarked⟩, add_assoc _ _ _⟩
    · rintro ⟨⟨marked, restMarked⟩, rfl⟩
      exact ⟨_, ⟨marked, rfl⟩, restMarked, (add_assoc _ _ _).symm⟩

/-! ### What a call moves -/

theorem tradeOutcome_value {trade : TradeRequest} (mark : ℚ)
    {newQty newEntry realized : ℚ} (quantity : 0 < trade.quantity)
    (outcome : tradeOutcome (portfolio.position trade.asset) trade =
      .ok (newQty, newEntry, realized)) :
    realized + newQty * (mark - newEntry) =
      portfolio.getPositionQuantity trade.asset *
          (mark - portfolio.getEntryPrice trade.asset) +
        trade.signedQuantity * (mark - trade.price) := by
  unfold tradeOutcome at outcome
  simp only [← getPositionQuantity_eq, ← getEntryPrice_eq] at outcome
  unfold TradeRequest.signedQuantity
  set current := portfolio.getPositionQuantity trade.asset
  set entry := portfolio.getEntryPrice trade.asset
  have square := trade.action.direction_sq
  by_cases opening : trade.action.opening = true
  · simp only [if_pos opening] at outcome ⊢
    split_ifs at outcome with opposed
    cases outcome
    have size : |current| + trade.quantity ≠ 0 :=
      (add_pos_of_nonneg_of_pos (abs_nonneg _) quantity).ne'
    have aligned : |current| = current * trade.action.direction :=
      abs_eq_mul_direction (not_lt.mp opposed)
    have entryCost : (|current| + trade.quantity) *
        (entry * (|current| / (|current| + trade.quantity)) +
          trade.price * (trade.quantity / (|current| + trade.quantity))) =
        entry * |current| + trade.price * trade.quantity := by
      field_simp
    rw [zero_add, mul_sub, mul_assoc _ _ (_ + _), entryCost, aligned]
    linear_combination (current * mark - current * entry) * square
  · simp only [if_neg opening] at outcome ⊢
    split_ifs at outcome with mismatched
    simp only [Except.ok.injEq, Prod.mk.injEq] at outcome
    obtain ⟨rfl, entryKept, rfl⟩ := outcome
    rw [← entryKept]
    have aligned : |current| = current * trade.action.direction :=
      abs_eq_mul_direction (not_le.mp mismatched).le
    rw [aligned]
    linear_combination (current * mark - current * entry) * square

end Portfolio

namespace LedgerCall

def moves (markPrices : MarkPrices) : LedgerCall → ℚ
  | trade request =>
      request.signedQuantity * ((markPrices.mark request.asset).getD 0 - request.price) -
        request.feeUsdt
  | funding _ _ cashflowUsdt _ => cashflowUsdt

theorem apply_distinct (applied : call.apply portfolio = .ok later)
    (distinct : Distinct Position.asset portfolio.positions) :
    Distinct Position.asset later.positions := by
  cases call with
  | trade request =>
    obtain ⟨-, -, -, _, _, _, positions, -, placed, -, rfl⟩ :=
      applyTrade_eq_ok.mp applied
    exact distinct_positionsAfter distinct placed
  | funding =>
    obtain ⟨-, -, -, rfl⟩ := applyFunding_eq_ok.mp applied
    exact distinct

theorem apply_equityAt (markPrices : MarkPrices) (applied : call.apply portfolio = .ok later)
    (distinct : Distinct Position.asset portfolio.positions) :
    later.equityAt markPrices = portfolio.equityAt markPrices + call.moves markPrices := by
  cases call with
  | trade request =>
    obtain ⟨-, -, values, newQty, newEntry, realized, positions, outcome, placed, -, rfl⟩ :=
      applyTrade_eq_ok.mp applied
    have flat : ∀ asset entry, worthAt markPrices asset 0 entry = 0 :=
      fun _ _ => zero_mul _
    have worth := sum_positionsAfter flat distinct placed
    have value := tradeOutcome_value ((markPrices.mark request.asset).getD 0)
      values.1 outcome
    unfold equityAt moves
    rw [worthAt, worthAt] at worth
    dsimp only [tradeEvent]
    linarith
  | funding timestampMs asset cashflowUsdt markPrice =>
    obtain ⟨-, -, -, rfl⟩ := applyFunding_eq_ok.mp applied
    unfold equityAt moves
    dsimp only
    ring

end LedgerCall

/-! ### Replay -/

namespace Portfolio

/-- The call `from_events` makes for an event with an asset. -/
def restoredCall (event : TradeEvent) (asset : String) : LedgerCall :=
  if event.action = .fundingSettlement then
    .funding event.timestampMs asset event.fundingUsdt event.price
  else
    .trade {
      timestampMs := event.timestampMs
      action := event.action
      asset := asset
      price := event.price
      quantity := event.quantity
      feeUsdt := event.feeUsdt
      signalId := event.signalId
      tradeId := event.tradeId
      observationTimestampMs := event.observationTimestampMs
      decisionTimestampMs := event.decisionTimestampMs
      orderTimestampMs := event.orderTimestampMs
      settlementTimestampMs := event.settlementTimestampMs
      metadata := erase Prod.fst event.metadata "asset" }

/-- One turn of the loop of `from_events`. -/
def replay (event : TradeEvent) : Account Unit :=
  match lookup Prod.fst event.metadata "asset" with
  | some (_, .text asset) => do
    Account.checked (refuse (blank asset) "Restored event requires an asset string")
    let actual ← (restoredCall event asset).method
    Account.checked (refuse (actual ≠ event) "Restored event disagrees with replayed ledger")
  | _ => Account.checked (.error "Restored event requires an asset string")

/-- `from_events`: a failed replay returns no account. -/
def fromEvents (initialCash : ℚ) (events : List TradeEvent) : Except String Portfolio := do
  let result ← create initialCash
  match Account.perform (forM events replay) result with
  | (.ok _, restored) => return restored
  | (.error fault, _) => .error fault

end Portfolio

theorem Account.perform_bind {Value Result : Type} (method : Account Value)
    (next : Value → Account Result) (portfolio : Portfolio) :
    (method >>= next).perform portfolio =
      match method.perform portfolio with
      | (.ok value, later) => (next value).perform later
      | (.error fault, later) => (.error fault, later) := by
  show (StateT.bind method.run (ExceptT.bindCont next)) portfolio = _
  unfold Account.perform StateT.bind
  cases method.run portfolio with
  | mk outcome later => cases outcome <;> rfl

namespace LedgerCall

def restored : LedgerCall → LedgerCall
  | trade request =>
      .trade { request with metadata := erase Prod.fst request.metadata "asset" }
  | funding timestampMs asset cashflowUsdt markPrice =>
      .funding timestampMs asset cashflowUsdt markPrice

/-- The metadata of an event does not depend on an asset the caller put into it. -/
theorem insert_erase_asset (metadata : Metadata) (value : MetadataValue) :
    KeyedList.insert Prod.fst (erase Prod.fst metadata "asset") ("asset", value) =
      KeyedList.insert Prod.fst metadata ("asset", value) := by
  unfold KeyedList.insert erase
  rw [List.filter_filter]
  simp

theorem erase_insert_asset (metadata : Metadata) (value : MetadataValue) :
    erase Prod.fst (KeyedList.insert Prod.fst metadata ("asset", value)) "asset" =
      erase Prod.fst metadata "asset" := by
  unfold KeyedList.insert erase
  rw [List.filter_append, List.filter_filter]
  simp

theorem perform_restored (call : LedgerCall) (portfolio : Portfolio) :
    call.restored.method.perform portfolio = call.method.perform portfolio := by
  cases call with
  | funding => rfl
  | trade request =>
    have events : portfolio.tradeEvent
        { request with metadata := erase Prod.fst request.metadata "asset" } =
        portfolio.tradeEvent request := by
      funext newQty realized
      unfold tradeEvent
      rw [insert_erase_asset]
    show (Account.applyTrade _).perform portfolio = (Account.applyTrade _).perform portfolio
    unfold Account.applyTrade
    simp only [Account.perform_get_bind, events]
    rfl

theorem restoredCall_of_accepted (accepted : call.method.perform portfolio = (.ok event, later)) :
    ∃ asset, lookup Prod.fst event.metadata "asset" = some ("asset", .text asset) ∧
      blank asset = false ∧ restoredCall event asset = call.restored := by
  obtain ⟨applied, history⟩ := apply_of_accepted accepted
  cases call with
  | trade request =>
    obtain ⟨input, tradeAction, -, newQty, _, realized, _, -, -, -, rfl⟩ :=
      applyTrade_eq_ok.mp applied
    have appended : portfolio.tradeEvent request newQty realized = event := by
      simpa using history
    subst appended
    refine ⟨request.asset, lookup_insert_self _ _,
      (validateEventInput_eq_ok.mp input).2.2, ?_⟩
    unfold restoredCall restored tradeEvent
    rw [if_neg tradeAction, erase_insert_asset]
  | funding timestampMs asset cashflowUsdt markPrice =>
    obtain ⟨input, -, -, rfl⟩ := applyFunding_eq_ok.mp applied
    have appended : portfolio.fundingEvent timestampMs asset cashflowUsdt markPrice = event := by
      simpa using history
    subst appended
    exact ⟨asset, rfl, (validateEventInput_eq_ok.mp input).2.2, rfl⟩

theorem replay_of_accepted (accepted : call.method.perform portfolio = (.ok event, later)) :
    (Portfolio.replay event).perform portfolio = (.ok (), later) := by
  obtain ⟨asset, recorded, named, sameCall⟩ := restoredCall_of_accepted accepted
  unfold Portfolio.replay
  rw [recorded]
  dsimp only
  rw [named, sameCall, Account.perform_checked_bind, Account.perform_bind, perform_restored,
    accepted]
  simp only [refuse, Bool.false_eq_true, if_false, ne_eq, not_true]
  rfl

end LedgerCall

namespace Portfolio

/-- The history rebuilds the account. -/
def Restorable (initialCash : ℚ) (portfolio : Portfolio) : Prop :=
  fromEvents initialCash portfolio.tradeHistory = .ok portfolio

theorem restorable_of_accepted {initialCash : ℚ} (restorable : Restorable initialCash portfolio)
    (accepted : call.method.perform portfolio = (.ok event, later)) :
    Restorable initialCash later := by
  unfold Restorable fromEvents at restorable ⊢
  obtain ⟨start, created, replayed⟩ := bind_eq_ok.mp restorable
  rw [created, (LedgerCall.apply_of_accepted accepted).2]
  show (match Account.perform (forM (portfolio.tradeHistory ++ [event]) replay) start with
    | (.ok _, restored) => pure restored
    | (.error fault, _) => .error fault) = Except.ok later
  cases earlier : Account.perform (forM portfolio.tradeHistory replay) start with
  | mk outcome result =>
    rw [earlier] at replayed
    cases outcome with
    | error fault => cases replayed
    | ok =>
      cases replayed
      have last : Account.perform (forM [event] replay) portfolio = (.ok (), later) := by
        rw [List.forM_cons, List.forM_nil, Account.perform_bind,
          LedgerCall.replay_of_accepted accepted]
        rfl
      rw [List.forM_append, Account.perform_bind, earlier]
      dsimp only
      rw [last]
      rfl

/-! ### The accounting of a run -/

theorem after_equityAt (markPrices : MarkPrices)
    (distinct : Distinct Position.asset portfolio.positions)
    (calls : List LedgerCall) :
    (portfolio.after calls).equityAt markPrices = portfolio.equityAt markPrices +
      ((portfolio.accepted calls).map (LedgerCall.moves markPrices)).sum := by
  induction calls generalizing portfolio with
  | nil => exact (add_zero _).symm
  | cons call rest inductionHypothesis =>
    show (after (call.method.perform portfolio).2 rest).equityAt markPrices = _
    unfold accepted
    cases performed : call.method.perform portfolio with
    | mk outcome later =>
      cases outcome with
      | error fault =>
        cases LedgerCall.unchanged_of_rejected performed
        exact inductionHypothesis distinct
      | ok event =>
        obtain ⟨applied, -⟩ := LedgerCall.apply_of_accepted performed
        dsimp only
        rw [inductionHypothesis (LedgerCall.apply_distinct applied distinct),
          LedgerCall.apply_equityAt markPrices applied distinct, List.map_cons, List.sum_cons,
          add_assoc]

end Portfolio

/-- For every sequence of calls on a new account, a rejected call changes nothing, the equity
is the initial cash and what the accepted calls move at the marks, and the history rebuilds
the account. -/
theorem portfolio_accounting {initialCash : ℚ} {opened : Portfolio}
    (created : Portfolio.create initialCash = .ok opened) (calls : List LedgerCall) :
    (∀ (call : LedgerCall) (fault : String) (later : Portfolio),
        call.method.perform (opened.after calls) = (.error fault, later) →
        later = opened.after calls) ∧
      (∀ (markPrices : MarkPrices) (equity : ℚ),
        (opened.after calls).totalEquityAt markPrices = .ok equity ↔
          (∀ position ∈ (opened.after calls).positions,
            Marked markPrices position) ∧
          equity = initialCash +
            ((opened.accepted calls).map (LedgerCall.moves markPrices)).sum) ∧
      fromEvents initialCash (opened.after calls).tradeHistory =
        .ok (opened.after calls) := by
  unfold Portfolio.create at created
  obtain ⟨positive, fresh⟩ := refuse_bind_eq_ok.mp created
  cases fresh
  refine ⟨fun call fault later => LedgerCall.unchanged_of_rejected, fun markPrices equity => ?_,
    ?_⟩
  · rw [totalEquityAt_eq_ok, after_equityAt markPrices
      distinct_nil]
    simp only [equityAt, List.map_nil, List.sum_nil, add_zero]
  · have start : Restorable initialCash { cash := initialCash } := by
      show (Portfolio.create initialCash >>= _) = _
      rw [Portfolio.create, created]
      rfl
    exact after_keeps
      (fun call portfolio later event restorable accepted =>
        restorable_of_accepted restorable accepted) start calls

def boughtTwo : List LedgerCall :=
  [.trade ⟨1, .closeShort, "BTC", 100, 1, 1, "", "", none, none, none, none, []⟩,
    .trade ⟨2, .openLong, "BTC", 100, 2, 1, "", "", none, none, none, none, []⟩]

theorem portfolio_accounting_boughtTwo :
    ((Portfolio.mk 1000 [] []).after boughtTwo).totalEquityAt [("BTC", 120)] = .ok 1039 ∧
      fromEvents 1000 ((Portfolio.mk 1000 [] []).after boughtTwo).tradeHistory =
        .ok ((Portfolio.mk 1000 [] []).after boughtTwo) := by
  have created : Portfolio.create 1000 = .ok (Portfolio.mk 1000 [] []) := by decide +kernel
  obtain ⟨-, equity, rebuilt⟩ := portfolio_accounting created boughtTwo
  have held : ∀ position ∈ ((Portfolio.mk 1000 [] []).after boughtTwo).positions,
      position.asset = "BTC" := by decide +kernel
  refine ⟨(equity [("BTC", 120)] 1039).mpr ⟨fun position member => ?_, by decide +kernel⟩,
    rebuilt⟩
  rw [Marked, held position member]
  exact ⟨120, by decide +kernel, by norm_num⟩

end QuantAgent.Economic
