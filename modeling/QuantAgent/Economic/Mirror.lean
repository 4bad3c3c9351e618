/-
This file compares two runs of the event loop up to a moment. Two states mirror each other when
they agree on everything but the waiting fills that are due later.

Nothing the loop does up to the moment looks at those, except the exit checks and the risk
checks of entries, which look at the whole queue: the comparison holds for rounds in which these
find no such fill.
-/

import QuantAgent.Economic.Rules

namespace QuantAgent.Economic

open Traced

/-! ### Orders over two futures -/

/-- All the bars open after the limit. -/
abbrev OpenAfter (limit : Int) (bars : List Candle) : Prop := ∀ bar ∈ bars, limit < bar.openTimeMs

/-- The result does not concern the time up to the limit: unfilled, or filled later. -/
def ExecutionResult.Beyond (limit : Int) (result : ExecutionResult) : Prop :=
  result.isFilled = true → limit < result.fillTimestampMs

namespace ExecutionModel

variable {model : ExecutionModel} {request : OrderRequest} {limit : Int}
  {near far far' : List Candle} {result result' : ExecutionResult}

theorem simulateMarket_beyond (late : OpenAfter limit far)
    (passed : (near.find? fun bar =>
      (model.timeline request).earliestFillMs ≤ bar.closeTimeMs) = none)
    (done : model.simulateMarket request (near ++ far) = .ok result) :
    result.Beyond limit := by
  intro isFilled
  obtain ⟨⟨bar, found, time⟩, -⟩ := simulateMarket_ok done isFilled
  rw [List.find?_append, passed, Option.none_or] at found
  have opens := late bar (List.mem_of_find?_eq_some found)
  have closes := bar.closeAfterOpen
  omega

theorem simulateMarket_agree (late : OpenAfter limit far)
    (late' : OpenAfter limit far')
    (done : model.simulateMarket request (near ++ far) = .ok result)
    (done' : model.simulateMarket request (near ++ far') = .ok result') :
    result = result' ∨ result.Beyond limit ∧ result'.Beyond limit := by
  cases found : near.find? fun bar =>
      (model.timeline request).earliestFillMs ≤ bar.closeTimeMs with
  | none =>
    exact .inr ⟨simulateMarket_beyond late found done, simulateMarket_beyond late' found done'⟩
  | some bar =>
    refine .inl ?_
    unfold simulateMarket at done done'
    dsimp only at done done'
    rw [List.find?_append, found, Option.some_or] at done done'
    rw [done] at done'
    exact Except.ok.inj done'

theorem scanLimit_append (limitPrice : ℚ) (near : List Candle) :
    (∀ far far', model.scanLimit request limitPrice (near ++ far) =
        model.scanLimit request limitPrice (near ++ far')) ∨
      ∀ far, model.scanLimit request limitPrice (near ++ far) =
        model.scanLimit request limitPrice far := by
  induction near with
  | nil => exact .inr fun _ => rfl
  | cons bar rest inductionHypothesis =>
    simp only [List.cons_append, scanLimit]
    split_ifs
    · exact .inl fun _ _ => rfl
    · exact inductionHypothesis
    · exact inductionHypothesis
    · exact .inl fun _ _ => rfl
    · exact inductionHypothesis
    · exact .inl fun _ _ => rfl
    · exact inductionHypothesis

theorem scanLimit_beyond {limitPrice : ℚ} (late : OpenAfter limit far)
    (done : model.scanLimit request limitPrice far = .ok result) : result.Beyond limit := by
  intro isFilled
  obtain ⟨⟨bar, member, time⟩, -⟩ := scanLimit_ok (fun _ member => member) done isFilled
  rw [time]
  exact late bar member

theorem simulateLimit_agree (late : OpenAfter limit far)
    (late' : OpenAfter limit far')
    (done : model.simulateLimit request (near ++ far) = .ok result)
    (done' : model.simulateLimit request (near ++ far') = .ok result') :
    result = result' ∨ result.Beyond limit ∧ result'.Beyond limit := by
  unfold simulateLimit at done done'
  cases price : request.limitPrice with
  | none =>
    rw [price] at done done'
    dsimp only at done done'
    rw [done] at done'
    exact .inl (Except.ok.inj done')
  | some limitPrice =>
    rw [price] at done done'
    dsimp only at done done'
    split_ifs at done done'
    · rw [done] at done'
      exact .inl (Except.ok.inj done')
    · rw [done] at done'
      exact .inl (Except.ok.inj done')
    · rcases scanLimit_append limitPrice near with decided | passed
      · rw [decided far far', done'] at done
        exact .inl (Except.ok.inj done).symm
      · rw [passed] at done done'
        exact .inr ⟨scanLimit_beyond late done, scanLimit_beyond late' done'⟩

theorem simulateOrder_agree (some_near : near ≠ []) (late : OpenAfter limit far)
    (late' : OpenAfter limit far')
    (done : model.simulateOrder request (near ++ far) = .ok result)
    (done' : model.simulateOrder request (near ++ far') = .ok result') :
    result = result' ∨ result.Beyond limit ∧ result'.Beyond limit := by
  obtain ⟨-, -, answered⟩ := bind_eq_ok.mp done
  obtain ⟨-, -, answered'⟩ := bind_eq_ok.mp done'
  have nonempty : ∀ far, ¬ near ++ far = [] := fun far empty =>
    some_near (List.append_eq_nil_iff.mp empty).1
  by_cases invalid : request.desiredQuantity ≤ 0
  · rw [if_pos invalid] at answered answered'
    rw [answered] at answered'
    exact .inl (Except.ok.inj answered')
  · rw [if_neg invalid, if_neg (nonempty _)] at answered answered'
    cases orderType : request.orderType with
    | market =>
      rw [orderType] at answered answered'
      exact simulateMarket_agree late late' answered answered'
    | limit =>
      rw [orderType] at answered answered'
      exact simulateLimit_agree late late' answered answered'

end ExecutionModel

/-! ### States that agree up to a moment -/

def EngineState.withQueue (state : EngineState) (queue : List PendingFill) : EngineState :=
  { state with pendingFills := queue }

def dueBy (limit : Int) (queue : List PendingFill) : List PendingFill :=
  queue.filter fun fill => fill.fillTimestampMs ≤ limit

/-- Equal but for the waiting fills that are due after the limit. -/
structure Mirror (limit : Int) (state state' : EngineState) : Prop where
  fields : state' = state.withQueue state'.pendingFills
  queue : dueBy limit state.pendingFills = dueBy limit state'.pendingFills

/-- A program that neither reads nor changes the waiting fills. -/
def QueueBlind (program : EngineState → Run EngineState) : Prop :=
  ∀ state queue, (program (state.withQueue queue)).outcome =
    (program state).outcome.map fun result => result.withQueue queue

section Mirror

variable {engine : EconomicSimulationEngine} {allowed : EngineNote → Prop} {limit : Int}
  {symbol : String} {state state' : EngineState}

theorem Mirror.refl (state : EngineState) : Mirror limit state state := ⟨rfl, rfl⟩

theorem Mirror.exists_queue (mirror : Mirror limit state state') :
    ∃ queue, state' = state.withQueue queue ∧ dueBy limit state.pendingFills = dueBy limit queue :=
  ⟨_, mirror.fields, mirror.queue⟩

variable {program : EngineState → Run EngineState}

theorem QueueBlind.keeps (blind : QueueBlind program)
    {result : EngineState} (done : (program state).outcome = .ok result) :
    result.pendingFills = state.pendingFills := by
  have same := blind state state.pendingFills
  rw [show state.withQueue state.pendingFills = state from rfl, done] at same
  rw [Except.ok.inj same]
  rfl

theorem QueueBlind.relates (blind : QueueBlind program) (mirror : Mirror limit state state') :
    Relates allowed (program state) (program state') (Mirror limit) := by
  intro _ _ result result' done done'
  have mapped := blind state state'.pendingFills
  rw [← mirror.fields, done, done'] at mapped
  have same : result' = result.withQueue state'.pendingFills := Except.ok.inj mapped
  refine ⟨by rw [same]; rfl, ?_⟩
  rw [blind.keeps done, mirror.queue, same]
  rfl

theorem QueueBlind.andThen {first second : EngineState → Run EngineState}
    (firstBlind : QueueBlind first) (secondBlind : QueueBlind second) :
    QueueBlind fun state => first state >>= second := by
  intro state queue
  show (first (state.withQueue queue) >>= second).outcome = (first state >>= second).outcome.map _
  rw [outcome_bind, outcome_bind, firstBlind state queue]
  cases (first state).outcome with
  | error fault => rfl
  | ok result => exact secondBlind result queue

theorem QueueBlind.reads {Value : Type} {first : EngineState → Run Value}
    {next : Value → EngineState → Run EngineState}
    (same : ∀ state queue, (first (state.withQueue queue)).outcome = (first state).outcome)
    (blind : ∀ value, QueueBlind (next value)) :
    QueueBlind fun state => first state >>= fun value => next value state := by
  intro state queue
  show (first (state.withQueue queue) >>= fun value => next value (state.withQueue queue)).outcome =
    (first state >>= fun value => next value state).outcome.map _
  rw [outcome_bind, outcome_bind, same state queue]
  cases (first state).outcome with
  | error fault => rfl
  | ok value => exact blind value state queue

theorem applyFill_blind (fill : PendingFill) (others : List PendingFill) :
    QueueBlind (applyFill engine fill symbol others) := by
  refine QueueBlind.reads (fun _ _ => rfl) fun _ => ?_
  refine QueueBlind.reads (fun _ _ => rfl) fun portfolio => ?_
  refine QueueBlind.reads (fun _ _ => rfl) fun equity state queue => ?_
  by_cases opening : fill.action.opening = true
  · simp only [if_pos opening]
    rfl
  · simp only [if_neg opening]
    rfl

/-- The fills behind the one that is applied only go into the log. -/
theorem applyFill_others (fill : PendingFill) (others : List PendingFill) (state : EngineState) :
    (applyFill engine fill symbol others state).outcome =
      (applyFill engine fill symbol [] state).outcome := rfl

theorem settleOne_blind (tracked : Bool) (event : FundingSettlement) :
    QueueBlind (settleOne engine symbol tracked event) := by
  have charged : QueueBlind fun state => do
      Traced.note (.funding state.portfolio symbol event)
      let portfolio ← ledgerStep (state.portfolio.applyFunding event.timestampMs symbol
        (calculateCashflow (state.quantity symbol) event.markPrice event.fundingRate)
        event.markPrice)
      let state := { state with portfolio := portfolio }
      if tracked then do
        let equity ← checked (portfolio.totalEquity symbol event.markPrice)
        return state.updateDrawdown engine equity
      else return state := by
    refine QueueBlind.reads (fun _ _ => rfl) fun _ => ?_
    refine QueueBlind.reads (fun _ _ => rfl) fun portfolio => ?_
    cases tracked with
    | false => exact fun _ _ => rfl
    | true => exact QueueBlind.reads (fun _ _ => rfl) fun equity _ _ => rfl
  intro state queue
  unfold settleOne
  by_cases held : dust < |state.quantity symbol|
  · rw [if_pos (show dust < |(state.withQueue queue).quantity symbol| from held), if_pos held]
    exact charged state queue
  · rw [if_neg (show ¬ dust < |(state.withQueue queue).quantity symbol| from held), if_neg held]
    rfl

theorem settleDue_blind (due : Int → Bool) (tracked : Bool) (events : List FundingSettlement) :
    QueueBlind (settleDue engine symbol due tracked events) := by
  induction events with
  | nil => exact fun _ _ => rfl
  | cons event rest inductionHypothesis =>
    intro state queue
    unfold settleDue
    by_cases isDue : due event.timestampMs = true
    · rw [if_pos isDue, if_pos isDue]
      exact (settleOne_blind tracked event).andThen inductionHypothesis
        { state with funding := rest } queue
    · rw [if_neg isDue, if_neg isDue]
      rfl

theorem settleFunding_blind (due : Int → Bool) (tracked : Bool) :
    QueueBlind (settleFunding engine symbol due tracked) := fun state queue =>
  settleDue_blind due tracked state.funding state queue

theorem markToMarket_blind (bar : Candle) : QueueBlind (markToMarket engine bar) :=
  QueueBlind.reads (fun _ _ => rfl) fun _ _ _ => rfl

/-! ### The queue -/

def applyAll (engine : EconomicSimulationEngine) (symbol : String) (fills : List PendingFill)
    (state : EngineState) : Except EngineError EngineState :=
  fills.foldlM (fun state fill => (applyFill engine fill symbol [] state).outcome) state

theorem applyAll_blind (fills : List PendingFill) (state : EngineState) (queue : List PendingFill) :
    applyAll engine symbol fills (state.withQueue queue) =
      (applyAll engine symbol fills state).map fun result => result.withQueue queue := by
  induction fills generalizing state with
  | nil => rfl
  | cons fill rest inductionHypothesis =>
    unfold applyAll at inductionHypothesis ⊢
    rw [List.foldlM_cons, List.foldlM_cons, applyFill_blind fill [] state queue]
    cases (applyFill engine fill symbol [] state).outcome with
    | error fault => rfl
    | ok later => exact inductionHypothesis later

theorem applyDue_outcome (due : Int → Bool) (fills : List PendingFill) (state : EngineState) :
    (applyDue engine due symbol fills state).outcome =
      (applyAll engine symbol (fills.filter fun fill => due fill.fillTimestampMs) state).map
        fun result => result.withQueue
          (state.pendingFills ++ fills.filter fun fill => !due fill.fillTimestampMs) := by
  induction fills generalizing state with
  | nil =>
    show Except.ok state = .ok (state.withQueue (state.pendingFills ++ []))
    rw [List.append_nil]
    rfl
  | cons fill rest inductionHypothesis =>
    unfold applyDue
    by_cases isDue : due fill.fillTimestampMs = true
    · have taken : (fill :: rest).filter (fun fill => due fill.fillTimestampMs) =
          fill :: rest.filter fun fill => due fill.fillTimestampMs :=
        List.filter_cons_of_pos isDue
      have left : (fill :: rest).filter (fun fill => !due fill.fillTimestampMs) =
          rest.filter fun fill => !due fill.fillTimestampMs :=
        List.filter_cons_of_neg (by simpa using isDue)
      rw [if_pos isDue, outcome_bind, taken, left, applyAll, List.foldlM_cons, applyFill_others]
      cases done : (applyFill engine fill symbol [] state).outcome with
      | error fault => rfl
      | ok later =>
        rw [← (applyFill_blind fill []).keeps done]
        exact inductionHypothesis later
    · have taken : (fill :: rest).filter (fun fill => due fill.fillTimestampMs) =
          rest.filter fun fill => due fill.fillTimestampMs := List.filter_cons_of_neg isDue
      have left : (fill :: rest).filter (fun fill => !due fill.fillTimestampMs) =
          fill :: rest.filter fun fill => !due fill.fillTimestampMs :=
        List.filter_cons_of_pos (by simpa using isDue)
      rw [if_neg isDue, taken, left, inductionHypothesis]
      show (applyAll engine symbol _ (state.withQueue (state.pendingFills ++ [fill]))).map _ = _
      rw [applyAll_blind]
      cases applyAll engine symbol (rest.filter fun fill => due fill.fillTimestampMs) state with
      | error fault => rfl
      | ok later =>
        show Except.ok (later.withQueue ((state.pendingFills ++ [fill]) ++ _)) = _
        rw [List.append_assoc]
        rfl

variable {due : Int → Bool}

theorem dueBy_filter {limit : Int} (within : ∀ time, due time = true → time ≤ limit)
    (queue : List PendingFill) :
    queue.filter (fun fill => due fill.fillTimestampMs) =
      (dueBy limit queue).filter fun fill => due fill.fillTimestampMs := by
  unfold dueBy
  rw [List.filter_filter]
  refine List.filter_congr fun fill _ => ?_
  cases isDue : due fill.fillTimestampMs with
  | false => rfl
  | true => simp [within _ isDue]

theorem dueBy_filter_comm {limit : Int} (due : Int → Bool) (queue : List PendingFill) :
    dueBy limit (queue.filter fun fill => !due fill.fillTimestampMs) =
      (dueBy limit queue).filter fun fill => !due fill.fillTimestampMs :=
  List.filter_comm _ _ _

theorem processPending_outcome (within : ∀ time, due time = true → time ≤ limit)
    (state : EngineState) :
    (processPending engine due symbol state).outcome =
      (applyAll engine symbol (DueQueue.sortByDue PendingFill.fillTimestampMs
        ((dueBy limit state.pendingFills).filter fun fill => due fill.fillTimestampMs))
        (state.withQueue [])).map fun result => result.withQueue
          ((DueQueue.sortByDue PendingFill.fillTimestampMs state.pendingFills).filter
            fun fill => !due fill.fillTimestampMs) := by
  have taken : (DueQueue.sortByDue PendingFill.fillTimestampMs state.pendingFills).filter
      (fun fill => due fill.fillTimestampMs) =
        DueQueue.sortByDue PendingFill.fillTimestampMs
          ((dueBy limit state.pendingFills).filter fun fill => due fill.fillTimestampMs) := by
    rw [DueQueue.filter_sortByDue, dueBy_filter within]
  rw [processPending, applyDue_outcome, taken]
  rfl

theorem dueBy_left {queue queue' : List PendingFill}
    (same : dueBy limit queue = dueBy limit queue') :
    dueBy limit ((DueQueue.sortByDue PendingFill.fillTimestampMs queue).filter
        fun fill => !due fill.fillTimestampMs) =
      dueBy limit ((DueQueue.sortByDue PendingFill.fillTimestampMs queue').filter
        fun fill => !due fill.fillTimestampMs) := by
  have sorted : ∀ queue, dueBy limit (DueQueue.sortByDue PendingFill.fillTimestampMs queue) =
      DueQueue.sortByDue PendingFill.fillTimestampMs (dueBy limit queue) :=
    fun queue => DueQueue.filter_sortByDue _ queue
  rw [dueBy_filter_comm, dueBy_filter_comm, sorted, sorted, same]

theorem processPending_mirror (within : ∀ time, due time = true → time ≤ limit)
    (mirror : Mirror limit state state') :
    Relates allowed (processPending engine due symbol state)
      (processPending engine due symbol state') (Mirror limit) := by
  intro _ _ result result' done done'
  have fields : state'.withQueue [] = state.withQueue [] := by
    rw [mirror.fields]
    rfl
  rw [processPending_outcome within] at done done'
  rw [← mirror.queue, fields] at done'
  cases applied : applyAll engine symbol (DueQueue.sortByDue PendingFill.fillTimestampMs
      ((dueBy limit state.pendingFills).filter fun fill => due fill.fillTimestampMs))
      (state.withQueue []) with
  | error fault =>
    rw [applied] at done
    cases done
  | ok later =>
    rw [applied] at done done'
    cases done
    cases done'
    exact ⟨rfl, dueBy_left mirror.queue⟩

/-! ### Scheduling -/

theorem Mirror.enqueue (mirror : Mirror limit state state') (fill : PendingFill) :
    Mirror limit (state.enqueue fill) (state'.enqueue fill) := by
  refine ⟨?_, ?_⟩
  · rw [mirror.fields]
    rfl
  · show dueBy limit (state.pendingFills ++ [fill]) = dueBy limit (state'.pendingFills ++ [fill])
    have same := mirror.queue
    unfold dueBy at same ⊢
    rw [List.filter_append, List.filter_append, same]

variable {fill : PendingFill}

theorem Mirror.enqueue_left (mirror : Mirror limit state state')
    (late : limit < fill.fillTimestampMs) : Mirror limit (state.enqueue fill) state' := by
  refine ⟨mirror.fields, ?_⟩
  show dueBy limit (state.pendingFills ++ [fill]) = dueBy limit state'.pendingFills
  rw [← mirror.queue]
  unfold dueBy
  rw [List.filter_append, List.filter_cons_of_neg (by simpa using late), List.filter_nil,
    List.append_nil]

theorem Mirror.symm (mirror : Mirror limit state state') : Mirror limit state' state := by
  refine ⟨?_, mirror.queue.symm⟩
  rw [mirror.fields]
  rfl

variable {now : Int}

theorem scheduleFill_mirror (mirror : Mirror limit state state') :
    Relates allowed (scheduleFill engine fill symbol now state)
      (scheduleFill engine fill symbol now state') (Mirror limit) :=
  .ite Iff.rfl (fun _ => (applyFill_blind fill []).relates mirror)
    fun _ => .pure (mirror.enqueue fill)

def settleOrder (engine : EconomicSimulationEngine) (result : ExecutionResult)
    (fill : PendingFill) (symbol : String) (now : Int) (state : EngineState) : Run EngineState :=
  if result.isFilled then scheduleFill engine fill symbol now state else pure state

theorem settleOrder_beyond (state : EngineState) {result : ExecutionResult}
    (time : fill.fillTimestampMs = result.fillTimestampMs) (beyond : result.Beyond limit)
    (early : now ≤ limit) :
    ∃ later, settleOrder engine result fill symbol now state = pure later ∧
      ∀ other, Mirror limit state other → Mirror limit later other := by
  unfold settleOrder
  by_cases isFilled : result.isFilled = true
  · have late : limit < fill.fillTimestampMs := by
      rw [time]
      exact beyond isFilled
    rw [if_pos isFilled, scheduleFill, if_neg (not_le.mpr (lt_of_le_of_lt early late))]
    exact ⟨_, rfl, fun other mirror => mirror.enqueue_left late⟩
  · rw [if_neg isFilled]
    exact ⟨_, rfl, fun other mirror => mirror⟩

theorem settleOrder_mirror {result result' : ExecutionResult} {fill fill' : PendingFill}
    (mirror : Mirror limit state state') (early : now ≤ limit)
    (time : fill.fillTimestampMs = result.fillTimestampMs)
    (time' : fill'.fillTimestampMs = result'.fillTimestampMs)
    (agree : result = result' ∧ fill = fill' ∨ result.Beyond limit ∧ result'.Beyond limit) :
    Relates allowed (settleOrder engine result fill symbol now state)
      (settleOrder engine result' fill' symbol now state') (Mirror limit) := by
  rcases agree with ⟨rfl, rfl⟩ | ⟨beyond, beyond'⟩
  · exact .ite Iff.rfl (fun _ => scheduleFill_mirror mirror) fun _ => .pure mirror
  · obtain ⟨later, does, keeps⟩ := settleOrder_beyond state time beyond early
    obtain ⟨later', does', keeps'⟩ := settleOrder_beyond state' time' beyond' early
    rw [does, does']
    exact .pure (keeps' _ (keeps _ mirror).symm).symm

/-! ### Looks at the queue -/

/-- No check finds a fill it counts that is due after the limit. The update of the trailing
extremes at the limit itself only concerns later bars. -/
def SeesNothingAfter (limit : Int) : EngineNote → Prop
  | .exitCheck waiting =>
    ∀ fill ∈ waiting, fill.action.closing = true → fill.fillTimestampMs ≤ limit
  | .trailingCheck closeTimeMs waiting =>
    closeTimeMs < limit →
      ∀ fill ∈ waiting, fill.action.closing = true → fill.fillTimestampMs ≤ limit
  | .admission waiting =>
    ∀ fill ∈ waiting, fill.action.opening = true → fill.fillTimestampMs ≤ limit
  | _ => True

theorem hasPendingExit_dueBy {queue : List PendingFill}
    (seen : ∀ fill ∈ queue, fill.action.closing = true → fill.fillTimestampMs ≤ limit) :
    hasPendingExit (dueBy limit queue) symbol = hasPendingExit queue symbol := by
  unfold hasPendingExit dueBy
  rw [List.any_filter, Bool.eq_iff_iff, List.any_eq_true, List.any_eq_true]
  refine exists_congr fun fill => and_congr_right fun member => ?_
  cases closing : fill.action.closing with
  | false => simp
  | true => simp [seen fill member closing]

theorem Mirror.hasPendingExit (mirror : Mirror limit state state')
    (seen : SeesNothingAfter limit (.exitCheck state.pendingFills))
    (seen' : SeesNothingAfter limit (.exitCheck state'.pendingFills)) :
    hasPendingExit state.pendingFills symbol = true ↔
      hasPendingExit state'.pendingFills symbol = true := by
  rw [← hasPendingExit_dueBy seen, ← hasPendingExit_dueBy seen', mirror.queue]

theorem pendingOpenings_dueBy {queue : List PendingFill}
    (seen : ∀ fill ∈ queue, fill.action.opening = true → fill.fillTimestampMs ≤ limit) :
    pendingOpenings (dueBy limit queue) = pendingOpenings queue := by
  unfold pendingOpenings dueBy
  rw [List.filter_filter]
  refine List.filter_congr fun fill member => ?_
  cases opening : fill.action.opening with
  | false => simp
  | true => simp [seen fill member opening]

theorem Mirror.pendingOpenings (mirror : Mirror limit state state')
    (seen : SeesNothingAfter limit (.admission state.pendingFills))
    (seen' : SeesNothingAfter limit (.admission state'.pendingFills)) :
    pendingOpenings state.pendingFills = pendingOpenings state'.pendingFills := by
  rw [← pendingOpenings_dueBy seen, ← pendingOpenings_dueBy seen', mirror.queue]

/-- Notes may be used on both sides. -/
theorem note_relates {note note' : EngineNote} :
    Relates (SeesNothingAfter limit) (Traced.note note : Run Unit) (Traced.note note') fun _ _ =>
      SeesNothingAfter limit note ∧ SeesNothingAfter limit note' :=
  .note fun seen seen' => ⟨seen, seen'⟩

/-! ### Orders -/

theorem checked_relates {Value : Type} {outcome outcome' : Except String Value}
    {post : Value → Value → Prop}
    (holds : ∀ value value', outcome = .ok value → outcome' = .ok value' → post value value') :
    Relates allowed (checked outcome : Run Value) (checked outcome') post := by
  refine .lift fun value value' done done' => holds value value' ?_ ?_
  · cases outcome with
    | error message => cases done
    | ok result => rw [← Except.ok.inj done]
  · cases outcome' with
    | error message => cases done'
    | ok result => rw [← Except.ok.inj done']

theorem checked_same {Value : Type} {outcome : Except String Value} :
    Relates allowed (checked outcome : Run Value) (checked outcome) Eq :=
  checked_relates fun _ _ done done' => Except.ok.inj (done.symm.trans done')

theorem raise_relates {result result' : ExecutionResult} :
    Relates allowed (raiseOnCausalLiquidityRejection result)
      (raiseOnCausalLiquidityRejection result') fun _ _ => True := fun _ _ _ _ _ _ => trivial

section Futures

variable {bar : Candle} {near far far' : List Candle}
  (late : OpenAfter limit far) (late' : OpenAfter limit far')

include late late' in
theorem executeExit_mirror {order : ExitOrder} {trigger : Int} {spread : Option Reading}
    (mirror : Mirror limit state state') (early : trigger ≤ limit) :
    Relates allowed (executeExit engine order trigger bar (near ++ far) spread state)
      (executeExit engine order trigger bar (near ++ far') spread state') (Mirror limit) := by
  refine .bind (checked_relates fun result result' done done' =>
    ExecutionModel.simulateOrder_agree (List.cons_ne_nil bar near) late late'
      done done') fun result result' agree => ?_
  refine .bind raise_relates fun _ _ _ => ?_
  refine settleOrder_mirror mirror early rfl rfl ?_
  exact agree.imp_left fun same => ⟨same, by rw [same]⟩

theorem executeConditionalExit_mirror {order : ExitOrder} {armed trigger : Int}
    {reference : ℚ} {time : ConditionalTriggerTime} (mirror : Mirror limit state state') :
    Relates allowed
      (executeConditionalExit engine order armed trigger reference time bar state)
      (executeConditionalExit engine order armed trigger reference time bar state')
      (Mirror limit) := by
  refine .bind checked_same fun result result' same => ?_
  rw [← same]
  exact .ite Iff.rfl (fun _ => scheduleFill_mirror mirror) fun _ => .pure mirror

variable {signal : InformationSignal}

include late late' in
theorem submitEntry_mirror {request : OrderRequest} {orderGross : ℚ}
    (mirror : Mirror limit state state') (early : bar.openTimeMs ≤ limit) :
    Relates allowed (submitEntry engine bar (near ++ far) signal request orderGross state)
      (submitEntry engine bar (near ++ far') signal request orderGross state')
      (Mirror limit) := by
  refine .bind (checked_relates fun result result' done done' =>
    ExecutionModel.simulateOrder_agree (List.cons_ne_nil bar near) late late'
      done done') fun result result' agree => ?_
  refine .bind raise_relates fun _ _ _ => ?_
  have logged : Relates allowed
      (Traced.note (EngineNote.entry state.portfolio bar result.isFilled) : Run Unit)
      (Traced.note (.entry state'.portfolio bar result'.isFilled)) fun _ _ => True :=
    .note fun _ _ => trivial
  refine logged.bind fun _ _ _ => ?_
  by_cases ambiguous : result.rejectionReason = some .limitIntrabarTouchAmbiguous
  · rw [if_pos ambiguous]
    exact .fail_left
  by_cases ambiguous' : result'.rejectionReason = some .limitIntrabarTouchAmbiguous
  · rw [if_pos ambiguous']
    exact .fail_right
  rw [if_neg ambiguous, if_neg ambiguous']
  refine settleOrder_mirror mirror early rfl rfl ?_
  exact agree.imp_left fun same => ⟨same, by rw [same]⟩

/-! ### Signals and standing conditionals -/

variable {previous : Option Candle}

section

variable (mirror : Mirror limit state state')

include mirror

section

variable (early : bar.openTimeMs ≤ limit)

include early late late'

theorem considerEntry_mirror :
    Relates (SeesNothingAfter limit)
      (considerEntry engine previous bar (near ++ far) signal state)
      (considerEntry engine previous bar (near ++ far') signal state') (Mirror limit) := by
  obtain ⟨queue, rfl, same⟩ := mirror.exists_queue
  refine .ite Iff.rfl (fun _ => .pure mirror) fun _ => ?_
  refine .bind note_relates fun _ _ seen => ?_
  have openings : pendingOpenings queue = pendingOpenings state.pendingFills :=
    (mirror.pendingOpenings seen.1 seen.2).symm
  have admits : admitsPosition engine state.portfolio queue bar.symbol =
      admitsPosition engine state.portfolio state.pendingFills bar.symbol := by
    unfold admitsPosition
    rw [openings]
  have ordered : ∀ atr, entryOrder engine bar signal atr state.portfolio queue =
      entryOrder engine bar signal atr state.portfolio state.pendingFills := by
    intro atr
    unfold entryOrder
    rw [openings]
  refine .ite (not_congr (iff_of_eq (congrArg (· = true) admits.symm)))
    (fun _ => .pure mirror) fun _ => ?_
  refine .ite Iff.rfl (fun _ => .pure mirror) fun _ => ?_
  have checkedOrder : Relates (SeesNothingAfter limit)
      (checked (entryOrder engine bar signal (signal.metadata.atr.map MetadataNumber.reading)
        state.portfolio state.pendingFills))
      (checked (entryOrder engine bar signal (signal.metadata.atr.map MetadataNumber.reading)
        state.portfolio queue)) Eq := by
    rw [ordered]
    exact checked_same
  refine .bind checkedOrder fun order order' same => ?_
  subst same
  cases order with
  | none => exact .pure mirror
  | some order => exact submitEntry_mirror late late' mirror early

theorem processSignal_mirror :
    Relates (SeesNothingAfter limit)
      (processSignal engine previous bar (near ++ far) signal state)
      (processSignal engine previous bar (near ++ far') signal state') (Mirror limit) := by
  obtain ⟨queue, rfl, same⟩ := mirror.exists_queue
  refine .ite Iff.rfl (fun _ => .pure mirror) fun _ => ?_
  refine .ite Iff.rfl (fun _ => ?_) fun _ => considerEntry_mirror late late' mirror early
  refine .bind note_relates fun _ _ seen => ?_
  refine .ite (mirror.hasPendingExit seen.1 seen.2)
    (fun _ => considerEntry_mirror late late' mirror early) fun _ => ?_
  exact .ite Iff.rfl (fun _ => executeExit_mirror late late' mirror early)
    fun _ => .pure mirror

theorem processSignals_mirror :
    Relates (SeesNothingAfter limit) (processSignals engine previous bar (near ++ far) state)
      (processSignals engine previous bar (near ++ far') state') (Mirror limit) := by
  suffices loop : ∀ (signals : List InformationSignal) (state state' : EngineState),
      Mirror limit state state' → Relates (SeesNothingAfter limit)
        (processArrived engine previous bar (near ++ far) signals state)
        (processArrived engine previous bar (near ++ far') signals state') (Mirror limit) by
    obtain ⟨queue, rfl, -⟩ := mirror.exists_queue
    exact loop state.signals state _ mirror
  intro signals
  induction signals with
  | nil => exact fun state state' mirror => .pure mirror
  | cons signal others inductionHypothesis =>
    intro state state' mirror
    refine .ite Iff.rfl (fun _ => ?_) fun _ => .pure mirror
    refine .bind (processSignal_mirror late late' ⟨?_, mirror.queue⟩ early)
      fun later later' => inductionHypothesis later later'
    rw [mirror.fields]
    rfl

end

theorem gapExits_mirror :
    Relates (SeesNothingAfter limit) (gapExits engine bar state) (gapExits engine bar state')
      (Mirror limit) := by
  obtain ⟨queue, rfl, same⟩ := mirror.exists_queue
  have managed : (state.withQueue queue).managedTrade bar.symbol = state.managedTrade bar.symbol :=
    rfl
  unfold gapExits
  rw [managed]
  cases state.managedTrade bar.symbol with
  | none => exact .pure mirror
  | some trade =>
    refine .bind note_relates fun _ _ seen => ?_
    refine .ite (mirror.hasPendingExit seen.1 seen.2) (fun _ => .pure mirror)
      fun _ => ?_
    have triggered : gapTrigger engine trade (state.withQueue queue) bar =
        gapTrigger engine trade state bar := rfl
    rw [triggered]
    cases gapTrigger engine trade state bar with
    | none => exact .pure mirror
    | some trigger => exact executeConditionalExit_mirror mirror

theorem executeStanding_mirror {trade : ManagedTrade} {trigger : Trigger} :
    Relates allowed (executeStanding engine trade trigger bar state)
      (executeStanding engine trade trigger bar state') (Mirror limit) := by
  obtain ⟨queue, rfl, -⟩ := mirror.exists_queue
  have ambiguous : ambiguousFunding trade.posQty bar (state.withQueue queue).funding =
      ambiguousFunding trade.posQty bar state.funding := rfl
  unfold executeStanding
  rw [ambiguous]
  cases ambiguousFunding trade.posQty bar state.funding with
  | some event => exact .fail_left
  | none => exact executeConditionalExit_mirror mirror

theorem standingExits_mirror :
    Relates (SeesNothingAfter limit) (standingExits engine bar state)
      (standingExits engine bar state') fun result result' =>
        Mirror limit result.1 result'.1 ∧ result.2 = result'.2 := by
  obtain ⟨queue, rfl, -⟩ := mirror.exists_queue
  have managed : (state.withQueue queue).managedTrade bar.symbol = state.managedTrade bar.symbol :=
    rfl
  unfold standingExits
  rw [managed]
  cases state.managedTrade bar.symbol with
  | none => exact .pure ⟨mirror, rfl⟩
  | some trade =>
    refine .ite Iff.rfl (fun _ => ?_) fun _ => .pure ⟨mirror, rfl⟩
    refine .bind note_relates fun _ _ seen => ?_
    refine .ite (mirror.hasPendingExit seen.1 seen.2)
      (fun _ => .pure ⟨mirror, rfl⟩) fun _ => ?_
    have triggered : standingTrigger engine trade (state.withQueue queue) bar =
        standingTrigger engine trade state bar := rfl
    rw [triggered]
    have detected : Relates (SeesNothingAfter limit)
        (Traced.lift (standingTrigger engine trade state bar) : Run (Option Trigger))
        (Traced.lift (standingTrigger engine trade state bar)) Eq :=
      .lift fun _ _ done done' => Except.ok.inj (done.symm.trans done')
    refine .bind detected fun trigger trigger' same => ?_
    subst same
    cases trigger with
    | none => exact .pure ⟨mirror, rfl⟩
    | some trigger =>
      exact .bind (executeStanding_mirror mirror) fun later later' mirrored =>
        .pure ⟨mirrored, rfl⟩

end

/-! ### The close of the last shared bar -/

/-- Equal ledgers, and the same waiting fills that are due by the limit. -/
structure SamePast (limit : Int) (state state' : EngineState) : Prop where
  portfolio : state.portfolio = state'.portfolio
  queue : dueBy limit state.pendingFills = dueBy limit state'.pendingFills

theorem Mirror.samePast (mirror : Mirror limit state state') : SamePast limit state state' := by
  obtain ⟨queue, rfl, same⟩ := mirror.exists_queue
  exact ⟨rfl, same⟩

/-- Mirrored as long as bars up to the limit are to come, after that with one past. -/
structure MirrorUntil (limit : Int) (closeTimeMs : Int) (state state' : EngineState) : Prop where
  past : SamePast limit state state'
  mirror : closeTimeMs < limit → Mirror limit state state'

theorem Mirror.until (mirror : Mirror limit state state') (closeTimeMs : Int) :
    MirrorUntil limit closeTimeMs state state' := ⟨mirror.samePast, fun _ => mirror⟩

variable {standingTriggered : Bool}

theorem updateTrailing_mirror (mirror : Mirror limit state state') :
    Relates (SeesNothingAfter limit) (updateTrailing bar standingTriggered state)
      (updateTrailing bar standingTriggered state') (MirrorUntil limit bar.closeTimeMs) := by
  obtain ⟨queue, rfl, same⟩ := mirror.exists_queue
  have managed : (state.withQueue queue).managedTrade bar.symbol = state.managedTrade bar.symbol :=
    rfl
  refine .ite Iff.rfl (fun _ => .pure (mirror.until _)) fun _ => ?_
  rw [managed]
  cases state.managedTrade bar.symbol with
  | none => exact .pure (mirror.until _)
  | some trade =>
    refine .ite Iff.rfl (fun _ => ?_) fun _ => .pure (mirror.until _)
    refine .bind note_relates fun _ _ seen => ?_
    by_cases inside : bar.closeTimeMs < limit
    · refine .ite (mirror.hasPendingExit (seen.1 inside) (seen.2 inside))
        (fun _ => .pure (mirror.until _)) fun _ => .pure ?_
      have trailed : Mirror limit (state.trail trade bar)
          ((state.withQueue queue).trail trade bar) := ⟨rfl, same⟩
      exact trailed.until _
    · -- At the limit one run may extend the extremes and the other may not.
      rw [← apply_ite pure, ← apply_ite pure]
      refine .pure ⟨⟨?_, ?_⟩, fun before => absurd before inside⟩
      · split_ifs <;> rfl
      · split_ifs <;> exact same

include late late' in
theorem closeExpiry_mirror {trade : ManagedTrade} (mirror : Mirror limit state state')
    (early : bar.closeTimeMs ≤ limit) :
    Relates allowed (closeExpiry engine bar (near ++ far) trade state)
      (closeExpiry engine bar (near ++ far') trade state') (Mirror limit) := by
  obtain ⟨queue, rfl, -⟩ := mirror.exists_queue
  exact .ite Iff.rfl (fun _ => executeExit_mirror late late' mirror early)
    fun _ => .pure mirror

include late late' in
theorem closeTimeExits_mirror (mirror : Mirror limit state state')
    (early : bar.closeTimeMs ≤ limit) :
    Relates (SeesNothingAfter limit)
      (closeTimeExits engine bar (near ++ far) standingTriggered state)
      (closeTimeExits engine bar (near ++ far') standingTriggered state')
      (MirrorUntil limit bar.closeTimeMs) := by
  obtain ⟨queue, rfl, -⟩ := mirror.exists_queue
  have managed : (state.withQueue queue).managedTrade bar.symbol = state.managedTrade bar.symbol :=
    rfl
  unfold closeTimeExits
  rw [managed]
  cases state.managedTrade bar.symbol with
  | none => exact .pure (mirror.until _)
  | some trade =>
    refine .bind note_relates fun _ _ seen => ?_
    refine .ite (mirror.hasPendingExit seen.1 seen.2)
      (fun _ => .pure (mirror.until _)) fun _ => ?_
    exact .bind (closeExpiry_mirror late late' mirror early)
      fun later later' mirrored => updateTrailing_mirror mirrored

/-! ### Rounds -/

/-- Equal ledgers stay equal under the same fill. -/
theorem applyFill_portfolio {fill : PendingFill} {result : EngineState}
    (done : (applyFill engine fill symbol [] state).outcome = .ok result) :
    state.portfolio.applyTrade (fill.tradeRequest symbol) = .ok result.portfolio := by
  have applies : Applies (fun _ => True) (fun _ => True) symbol
      { state.core with pendingFills := state.pendingFills ++ [] } fill fun core =>
        state.portfolio.applyTrade (fill.tradeRequest symbol) = .ok core.portfolio :=
    fun _ => ⟨fun _ _ => trivial, fun _ done => done⟩
  exact ((applyFill_holds (fun _ _ => trivial) applies).result (fun _ _ => trivial) done).1

theorem applyAll_portfolio {fills : List PendingFill} {result result' : EngineState}
    (same : state.portfolio = state'.portfolio)
    (done : applyAll engine symbol fills state = .ok result)
    (done' : applyAll engine symbol fills state' = .ok result') :
    result.portfolio = result'.portfolio := by
  induction fills generalizing state state' with
  | nil =>
    cases done
    cases done'
    exact same
  | cons fill rest inductionHypothesis =>
    obtain ⟨later, first, done⟩ := bind_eq_ok.mp done
    obtain ⟨later', first', done'⟩ := bind_eq_ok.mp done'
    refine inductionHypothesis ?_ done done'
    have traded := applyFill_portfolio first
    rw [same, applyFill_portfolio first'] at traded
    exact (Except.ok.inj traded).symm

theorem processPending_samePast {due : Int → Bool}
    (within : ∀ time, due time = true → time ≤ limit) (past : SamePast limit state state') :
    Relates allowed (processPending engine due symbol state)
      (processPending engine due symbol state') (SamePast limit) := by
  intro _ _ result result' done done'
  rw [processPending_outcome within] at done done'
  rw [← past.queue] at done'
  have taken : ∀ {state : EngineState} {fills queue : List PendingFill} {result : EngineState},
      (applyAll engine symbol fills state).map (fun later => later.withQueue queue) =
        .ok result → ∃ later, applyAll engine symbol fills state = .ok later ∧
          result = later.withQueue queue := by
    intro state fills queue result done
    cases applied : applyAll engine symbol fills state with
    | error fault =>
      rw [applied] at done
      cases done
    | ok later =>
      rw [applied] at done
      exact ⟨later, rfl, (Except.ok.inj done).symm⟩
  obtain ⟨later, applied, rfl⟩ := taken done
  obtain ⟨later', applied', rfl⟩ := taken done'
  have start : (state.withQueue []).portfolio = (state'.withQueue []).portfolio := past.portfolio
  have equal := applyAll_portfolio start applied applied'
  exact ⟨equal, dueBy_left past.queue⟩

theorem markToMarket_samePast (past : SamePast limit state state') :
    Relates allowed (markToMarket engine bar state) (markToMarket engine bar state')
      (SamePast limit) := by
  have equal : state'.portfolio = state.portfolio := past.portfolio.symm
  unfold markToMarket
  rw [equal]
  refine .bind checked_same fun _ _ _ => .pure ⟨?_, past.queue⟩
  exact past.portfolio

theorem MirrorUntil.step {closeTimeMs : Int} (states : MirrorUntil limit closeTimeMs state state')
    (onMirror : Mirror limit state state' →
      Relates allowed (program state) (program state') (Mirror limit))
    (onPast : SamePast limit state state' →
      Relates allowed (program state) (program state') (SamePast limit)) :
    Relates allowed (program state) (program state') (MirrorUntil limit closeTimeMs) := by
  by_cases inside : closeTimeMs < limit
  · exact (onMirror (states.mirror inside)).mono fun _ _ mirror => mirror.until _
  · exact (onPast states.past).mono fun _ _ past => ⟨past, fun before => absurd before inside⟩

section

variable (mirror : Mirror limit state state')

include mirror

include late late' in
theorem openPhase_mirror (early : bar.openTimeMs ≤ limit) :
    Relates (SeesNothingAfter limit) (openPhase engine previous bar (near ++ far) state)
      (openPhase engine previous bar (near ++ far') state') (Mirror limit) := by
  have within : ∀ time, decide (time ≤ bar.openTimeMs) = true → time ≤ limit :=
    fun time due => le_trans (of_decide_eq_true due) early
  refine .bind ((settleFunding_blind _ _).relates mirror) fun _ _ mirror => ?_
  refine .bind (processPending_mirror within mirror) fun _ _ mirror => ?_
  refine .bind (processSignals_mirror late late' mirror early) fun _ _ mirror => ?_
  exact gapExits_mirror mirror

theorem intrabarPhase_mirror (early : bar.closeTimeMs ≤ limit) :
    Relates allowed (intrabarPhase engine bar state) (intrabarPhase engine bar state')
      (Mirror limit) := by
  have within : ∀ time, decide (time < bar.closeTimeMs) = true → time ≤ limit :=
    fun time due => le_trans (of_decide_eq_true due).le early
  exact .bind ((settleFunding_blind _ _).relates mirror) fun _ _ mirror =>
    processPending_mirror within mirror

include late late' in
theorem closePhase_mirror (early : bar.closeTimeMs ≤ limit) :
    Relates (SeesNothingAfter limit)
      (closePhase engine bar (near ++ far) standingTriggered state)
      (closePhase engine bar (near ++ far') standingTriggered state')
      (MirrorUntil limit bar.closeTimeMs) := by
  have within : ∀ time, decide (time = bar.closeTimeMs) = true → time ≤ limit :=
    fun time due => le_trans (of_decide_eq_true due).le early
  refine .bind ((settleFunding_blind _ _).relates mirror) fun _ _ mirror => ?_
  refine .bind (closeTimeExits_mirror late late' mirror early) fun _ _ states => ?_
  refine .bind (states.step (processPending_mirror within)
    (processPending_samePast within)) fun _ _ states => ?_
  exact states.step (markToMarket_blind bar).relates markToMarket_samePast

include late late' in
/-- One round over a shared bar: what is still to come of it stays beyond the limit. -/
theorem processBar_mirror (early : bar.closeTimeMs ≤ limit) :
    Relates (SeesNothingAfter limit) (processBar engine previous bar (near ++ far) state)
      (processBar engine previous bar (near ++ far') state')
      (MirrorUntil limit bar.closeTimeMs) := by
  have opens : bar.openTimeMs ≤ limit := le_trans bar.closeAfterOpen.le early
  refine .bind (openPhase_mirror late late' mirror opens) fun _ _ mirror => ?_
  refine .bind (standingExits_mirror mirror) fun stood stood' kept => ?_
  obtain ⟨later, triggered⟩ := stood
  obtain ⟨later', triggered'⟩ := stood'
  obtain ⟨mirror, same⟩ := kept
  dsimp only at same
  subst same
  refine .bind (intrabarPhase_mirror mirror early) fun _ _ mirror => ?_
  exact closePhase_mirror late late' mirror early

end

end Futures

end Mirror

end QuantAgent.Economic
