/-
This file proves that the event-driven backtest is the resolver, signal by signal: every admitted
signal that no other replaces has exactly one outcome, trades do not overlap, and each completed
trade is what the resolver finds for its signal on the bars since it could first enter.

A signal can first enter at the bar after the one at which it was admitted, and after the one at
which the trade before it was completed; for a timeout this is the first bar that closes after the
deadline, and no signal enters at it.
-/

import QuantAgent.Backtest.OneBar

namespace QuantAgent.Backtest.EventDrivenBacktestEngine

variable {Memory : Type} (backtest : EventDrivenBacktestEngine Memory)

/-! ### What holds of every log -/

/-- A completed outcome is what the resolver finds, whatever bars follow. -/
def Explained (before : List Event) (outcome : TradeOutcome) : Prop :=
  outcome.IsCompleted → ∃ signal, latest outcome.signalId before = some signal ∧
    signal.signalId = outcome.signalId ∧
    ∀ later, backtest.resolve signal none none (eligible outcome.signalId before ++ later) =
      .ok outcome

def Apart (earlier outcome : TradeOutcome) : Prop :=
  ∀ entered enteredAtMs, earlier.enteredAtMs = some entered →
    outcome.enteredAtMs = some enteredAtMs →
    ∃ exitedAtMs, earlier.exitedAtMs = some exitedAtMs ∧ exitedAtMs < enteredAtMs

/-- What an entry of the log says after the log before it. -/
def Along (before : List Event) : Event → Prop
  | .outcome outcome => Explained backtest before outcome ∧
      ∀ earlier ∈ recorded before, Apart earlier outcome
  | _ => True

/-! ### The invariant of the loop -/

def Waiting (signal : Signal) (bars : List Bar) : Prop :=
  ∀ later, backtest.resolve signal none none (bars ++ later) =
    backtest.resolve signal none none later

/-- The books of a run, with the identities of the signals that are in a trade. -/
structure Books (past : List Bar) (trading : List String) (log : List Event)
    (state : State Memory) : Prop where
  arrived : arrivals log = past
  outcomes : state.outcomes = recorded log
  distinct : (state.pending.map fun signal => signal.signalId).Nodup
  latest : ∀ signal ∈ state.pending, latest signal.signalId log = some signal
  account : ((recorded log).map (fun outcome => outcome.signalId) ++ replaced log ++
    state.pending.map (fun signal => signal.signalId) ++ trading).Perm (admitted log)

def LeftBy (timeMs : ℤ) (log : List Event) : Prop :=
  ∀ outcome ∈ recorded log, ∀ entered, outcome.enteredAtMs = some entered →
    ∃ exitedAtMs, outcome.exitedAtMs = some exitedAtMs ∧ exitedAtMs < timeMs

structure Trading (trade : OpenTrade) (log : List Event) (bar : Bar) : Prop where
  latest : latest trade.signal.signalId log = some trade.signal
  held : Held backtest trade (eligible trade.signal.signalId log) bar
  left : LeftBy trade.entry.enteredAtMs log

structure After (past : List Bar) (log : List Event) (state : State Memory) : Prop where
  books : Books past (state.openTrade.map fun trade => trade.signal.signalId).toList log state
  waiting : state.openTrade = none → ∀ signal ∈ state.pending,
    Waiting backtest signal (eligible signal.signalId log)
  trading : ∀ trade, state.openTrade = some trade → ∃ bar, past.getLast? = some bar ∧
    Trading backtest trade log bar
  left : ∀ timeMs, (∀ bar ∈ past, bar.closeTimeMs < timeMs) → LeftBy timeMs log

variable {backtest} {past : List Bar} {trading : List String} {log : List Event}
  {state : State Memory} {trade : OpenTrade} {bar : Bar} {signal : Signal}
  {outcome : TradeOutcome}

theorem LeftBy.mono {timeMs later : ℤ} (left : LeftBy timeMs log) (order : timeMs ≤ later) :
    LeftBy later log := by
  intro outcome member entered trade
  obtain ⟨exitedAtMs, exited, before⟩ := left outcome member entered trade
  exact ⟨exitedAtMs, exited, before.trans_le order⟩

variable {timeMs : ℤ}

theorem leftBy_concat (left : LeftBy timeMs log)
    (new : ∀ entered, outcome.enteredAtMs = some entered →
      ∃ exitedAtMs, outcome.exitedAtMs = some exitedAtMs ∧ exitedAtMs < timeMs) :
    LeftBy timeMs (log ++ [.outcome outcome]) := by
  intro other member
  rw [recorded_append] at member
  obtain before | last := List.mem_append.mp member
  · exact left other before
  · obtain rfl := List.mem_singleton.mp last
    exact new

theorem LeftBy.apart (left : LeftBy timeMs log) (entered : outcome.enteredAtMs = some timeMs) :
    ∀ earlier ∈ recorded log, Apart earlier outcome := by
  intro earlier member enteredEarlier enteredAtMs trade same
  obtain rfl := Option.some.inj (entered.symm.trans same)
  exact left earlier member enteredEarlier trade

variable {kind : OutcomeKind}

/-- An outcome without a trade says nothing. -/
theorem along_unresolved (log : List Event) (signalId : String)
    (open_ : kind ∉ [OutcomeKind.win, .loss, .timeout]) (exitedAtMs : Option ℤ) :
    Along backtest log (.outcome (unresolved signalId kind exitedAtMs)) :=
  ⟨fun completed => absurd completed open_, fun _ _ _ _ _ entered => nomatch entered⟩

theorem record_bind {Result : Type} {along : List Event → Event → Prop}
    {next : State Memory → Traced Event RunFault Result} {post : List Event → Result → Prop}
    (logged : along log (.outcome outcome))
    (rest : Traced.Follows along (log ++ [.outcome outcome])
      (next { state with outcomes := state.outcomes ++ [outcome] }) post) :
    Traced.Follows along log (record state outcome >>= next) post := by
  unfold record
  rw [bind_assoc]
  exact .note_bind logged rest

theorem record_spec {along : List Event → Event → Prop}
    {post : List Event → State Memory → Prop} (logged : along log (.outcome outcome))
    (holds : post (log ++ [.outcome outcome])
      { state with outcomes := state.outcomes ++ [outcome] }) :
    Traced.Follows along log (record state outcome) post :=
  .note_bind logged (.pure holds)

/-! ### A trade at a bar -/

theorem Books.complete (books : Books past [outcome.signalId] log state) :
    Books past [] (log ++ [.outcome outcome])
      { state with
        openTrade := none
        outcomes := state.outcomes ++ [outcome] } where
  arrived := by
    rw [arrivals_append, ← books.arrived]
    exact List.append_nil _
  outcomes := by
    rw [recorded_append, ← books.outcomes]
    rfl
  distinct := books.distinct
  latest signal member := by
    rw [latest_concat]
    exact books.latest signal member
  account := by
    refine List.perm_iff_count.mpr fun signalId => ?_
    have counts := books.account.count_eq signalId
    rw [recorded_append, replaced_append, admitted_append]
    simp only [List.map_append, List.count_append] at counts ⊢
    show _ + List.count signalId [outcome.signalId] + (_ + 0) + _ + 0 = _ + 0
    omega

theorem advance_spec (books : Books past [trade.signal.signalId] log state)
    (last : past.getLast? = some bar)
    (latest : latest trade.signal.signalId log = some trade.signal)
    (running : Running backtest trade (eligible trade.signal.signalId log) bar)
    (left : LeftBy trade.entry.enteredAtMs log) :
    Traced.Follows (Along backtest) log (backtest.advance state trade bar)
      (After backtest past) := by
  refine .lift_bind ?_
  rintro ⟨updated, outcome⟩ done
  obtain ⟨sameSignal, sameEntry, advanced⟩ := updateOpen_spec running done
  have order := bar.closeAfterOpen
  have arrived : bar ∈ past := List.mem_of_getLast? last
  have begun : trade.entry.enteredAtMs ≤ bar.openTimeMs := running.started.trans running.before
  cases outcome with
  | none =>
    refine .pure ⟨?_, (fun closed => nomatch closed), ?_, ?_⟩
    · show Books past [updated.signal.signalId] _ _
      rw [sameSignal]
      exact ⟨books.arrived, books.outcomes, books.distinct, books.latest, books.account⟩
    · rintro _ ⟨⟩
      refine ⟨bar, last, ?_, ?_, ?_⟩
      · rw [sameSignal]
        exact latest
      · rw [sameSignal]
        exact advanced
      · rw [sameEntry]
        exact left
    · intro timeMs closed
      exact left.mono (begun.trans (order.le.trans (closed bar arrived).le))
  | some outcome =>
    obtain ⟨exitedAtMs, leaves⟩ := updateOpen_leaves done
    have identity := leaves.signalId
    refine record_spec ⟨fun _ => ⟨trade.signal, ?_, identity.symm, ?_⟩, ?_⟩
      ⟨?_, fun _ signal _ => ?_, (fun _ open_ => nomatch open_), fun timeMs closed => ?_⟩
    · rw [identity]
      exact latest
    · rw [identity]
      exact advanced
    · exact left.apart leaves.entered
    · rw [← identity] at books
      exact books.complete
    · -- The completion of a trade starts the bars of every signal anew.
      rw [eligible_concat, eligibleAfter, if_pos leaves.completed]
      exact fun _ => rfl
    · have later := closed bar arrived
      refine leftBy_concat (left.mono (by omega)) fun _ _ => ⟨exitedAtMs, leaves.exited, ?_⟩
      obtain exit | ⟨-, exit⟩ := leaves.exit
      · omega
      · have before := running.before
        omega

/-! ### The pending signals at a bar -/

variable {kept signals : List Signal}

theorem remove_middle
    (distinct : ((kept ++ signal :: signals).map fun signal => signal.signalId).Nodup) :
    remove signal.signalId (kept ++ signal :: signals) = kept ++ signals := by
  rw [List.map_append, List.map_cons, List.nodup_append] at distinct
  obtain ⟨-, rest, other⟩ := distinct
  have absent := (List.nodup_cons.mp rest).1
  unfold remove
  rw [List.filter_append, List.filter_cons_of_neg (by simp)]
  congr 1
  · refine List.filter_eq_self.mpr fun earlier member => ?_
    have differs := other _ (List.mem_map_of_mem member) _ List.mem_cons_self
    simpa using differs
  · refine List.filter_eq_self.mpr fun later member => ?_
    have differs : later.signalId ≠ signal.signalId := fun same =>
      absent (same ▸ List.mem_map_of_mem member)
    simpa using differs

theorem Books.settle {exitedAtMs : Option ℤ} (books : Books past trading log state)
    (pending : state.pending = kept ++ signal :: signals) (memory : Memory) :
    Books past trading (log ++ [.outcome (unresolved signal.signalId kind exitedAtMs)])
      { state with
        memory := memory
        pending := remove signal.signalId state.pending
        outcomes := state.outcomes ++ [unresolved signal.signalId kind exitedAtMs] } := by
  have distinct := books.distinct
  rw [pending] at distinct
  have left := remove_middle distinct
  rw [← pending] at left
  refine ⟨?_, ?_, ?_, fun other member => ?_, ?_⟩
  · rw [arrivals_append, ← books.arrived]
    exact List.append_nil _
  · rw [recorded_append, ← books.outcomes]
    rfl
  · exact books.distinct.sublist (List.filter_sublist.map _)
  · rw [latest_concat]
    exact books.latest other (List.mem_of_mem_filter member)
  · refine List.perm_iff_count.mpr fun signalId => ?_
    have counts := books.account.count_eq signalId
    rw [recorded_append, replaced_append, admitted_append]
    dsimp only
    rw [left]
    rw [pending] at counts
    simp only [List.map_append, List.map_cons, List.count_append, List.count_cons] at counts ⊢
    show _ + List.count signalId [signal.signalId] + (_ + 0) + _ + _ = _ + 0
    rw [List.count_singleton]
    omega

theorem Books.enter (books : Books past [] log state)
    (pending : state.pending = kept ++ signal :: signals) :
    Books past [signal.signalId] log
      { state with pending := remove signal.signalId state.pending } := by
  have distinct := books.distinct
  rw [pending] at distinct
  have left := remove_middle distinct
  rw [← pending] at left
  refine ⟨books.arrived, books.outcomes, books.distinct.sublist (List.filter_sublist.map _),
    fun other member => books.latest other (List.mem_of_mem_filter member), ?_⟩
  refine List.perm_iff_count.mpr fun signalId => ?_
  have counts := books.account.count_eq signalId
  dsimp only
  rw [left]
  rw [pending] at counts
  simp only [List.map_append, List.map_cons, List.count_append, List.count_cons,
    List.count_nil] at counts ⊢
  omega

theorem eligible_unresolved (signalId settled : String) (log : List Event)
    (open_ : kind ∉ [OutcomeKind.win, .loss, .timeout]) (exitedAtMs : Option ℤ) :
    eligible signalId (log ++ [.outcome (unresolved settled kind exitedAtMs)]) =
      eligible signalId log := by
  rw [eligible_concat, eligibleAfter]
  exact if_neg open_

variable {bars : List Bar}

theorem Waiting.concat (waiting : Waiting backtest signal bars)
    (passes : ∀ later, backtest.resolve signal none none (bar :: later) =
      backtest.resolve signal none none later) : Waiting backtest signal (bars ++ [bar]) := by
  intro later
  rw [List.append_assoc, waiting]
  exact passes later

theorem Waiting.running (waiting : Waiting backtest signal bars)
    (new : signal.dataTimestampMs < bar.openTimeMs) (inTime : bar.openTimeMs ≤ signal.expiresAtMs)
    (touches : signal.Touches bar) :
    Running backtest (backtest.opened signal bar) (bars ++ [bar]) bar := by
  refine ⟨new, le_refl _, le_refl _, ?_, fun later => ?_⟩
  · show (0 : ℚ) = cashflow _ _ (settlements _ bar.openTimeMs bar.openTimeMs)
    rw [settlements_self]
    rfl
  · rw [List.append_assoc]
    exact (waiting _).trans (resolve_enters new inTime touches)

theorem fillPending_spec (last : past.getLast? = some bar) (signals : List Signal) :
    ∀ (kept : List Signal) (log : List Event) (state : State Memory),
      state.openTrade = none → state.pending = kept ++ signals → Books past [] log state →
      (∀ signal ∈ kept, Waiting backtest signal (eligible signal.signalId log)) →
      (∀ signal ∈ signals, ∃ bars, eligible signal.signalId log = bars ++ [bar] ∧
        Waiting backtest signal bars) →
      LeftBy bar.openTimeMs log →
      Traced.Follows (Along backtest) log (backtest.fillPending bar signals state)
        (After backtest past) := by
  have arrived : bar ∈ past := List.mem_of_getLast? last
  induction signals with
  | nil =>
    intro kept log state flat pending books waiting _ left
    rw [List.append_nil] at pending
    refine .pure ⟨?_, fun _ => ?_, fun trade open_ => ?_, fun timeMs closed => ?_⟩
    · rw [flat]
      exact books
    · rw [pending]
      exact waiting
    · exact nomatch flat.symm.trans open_
    · exact left.mono (bar.closeAfterOpen.le.trans (closed bar arrived).le)
  | cons signal signals inductionHypothesis =>
    intro kept log state flat pending books waiting fresh left
    obtain ⟨bars, since, waits⟩ := fresh signal List.mem_cons_self
    have distinct := books.distinct
    rw [pending] at distinct
    have removed := remove_middle distinct
    rw [← pending] at removed
    -- A signal that stays joins those that have waited through the bar.
    have stays : Waiting backtest signal (eligible signal.signalId log) →
        Traced.Follows (Along backtest) log (backtest.fillPending bar signals state)
          (After backtest past) := by
      intro waited
      refine inductionHypothesis (kept ++ [signal]) log state flat ?_ books ?_ ?_ left
      · rw [pending, List.append_assoc]
        rfl
      · intro other member
        obtain earlier | own := List.mem_append.mp member
        · exact waiting other earlier
        · obtain rfl := List.mem_singleton.mp own
          exact waited
      · exact fun other member => fresh other (List.mem_cons_of_mem signal member)
    unfold fillPending
    refine .ite (fun expired => ?_) fun inTime => ?_
    · have same := fun signalId => eligible_unresolved signalId signal.signalId log
        (show OutcomeKind.unfilled ∉ [OutcomeKind.win, .loss, .timeout] by decide) none
      refine record_bind (along_unresolved log _ (by decide) none) ?_
      refine inductionHypothesis kept _ _ flat removed (books.settle pending state.memory) ?_ ?_ ?_
      · intro other member
        rw [same]
        exact waiting other member
      · intro other member
        rw [same]
        exact fresh other (List.mem_cons_of_mem signal member)
      · exact leftBy_concat left fun _ entered => nomatch entered
    refine .ite (fun old => ?_) fun new => ?_
    · exact stays (since ▸ waits.concat fun _ => resolve_skips old)
    refine .ite (fun touches => ?_) fun misses => ?_
    · refine advance_spec (books.enter pending) last ?_ ?_ left
      · exact books.latest signal (pending ▸ List.mem_append_right kept List.mem_cons_self)
      · show Running backtest _ (eligible signal.signalId log) bar
        rw [since]
        exact waits.running (not_le.mp new) (not_lt.mp inTime) touches
    · exact stays (since ▸ waits.concat fun _ => resolve_waits (not_lt.mp inTime) misses)

/-! ### A decision bar -/

theorem After.of_same {other : State Memory} (after : After backtest past log state)
    (outcomes : other.outcomes = state.outcomes) (pending : other.pending = state.pending)
    (openTrade : other.openTrade = state.openTrade) : After backtest past log other := by
  obtain ⟨⟨arrived, recorded, distinct, latest, account⟩, waiting, trading, left⟩ := after
  refine ⟨⟨arrived, outcomes.trans recorded, ?_, ?_, ?_⟩, ?_, ?_, left⟩
  · rwa [pending]
  · rwa [pending]
  · rwa [pending, openTrade]
  · rwa [pending, openTrade]
  · rwa [openTrade]

/-- An entry of the log that says nothing about bars and signals. -/
structure Quiet (event : Event) : Prop where
  arrivals : arrivals [event] = []
  recorded : recorded [event] = []
  replaced : replaced [event] = []
  admitted : admitted [event] = []
  latest : ∀ signalId latest, latestAfter signalId latest event = latest
  eligible : ∀ signalId bars, eligibleAfter signalId bars event = bars

theorem quiet_invalidation (arguments : InvalidationArguments) : Quiet (.invalidation arguments) :=
  ⟨rfl, rfl, rfl, rfl, fun _ _ => rfl, fun _ _ => rfl⟩

theorem quiet_scan (arguments : ScanArguments) : Quiet (.scan arguments) :=
  ⟨rfl, rfl, rfl, rfl, fun _ _ => rfl, fun _ _ => rfl⟩

theorem After.quiet {event : Event} (after : After backtest past log state) (quiet : Quiet event) :
    After backtest past (log ++ [event]) state := by
  have arrived : arrivals (log ++ [event]) = arrivals log := by
    rw [arrivals_append, quiet.arrivals, List.append_nil]
  have outcomes : recorded (log ++ [event]) = recorded log := by
    rw [recorded_append, quiet.recorded, List.append_nil]
  have others : replaced (log ++ [event]) = replaced log := by
    rw [replaced_append, quiet.replaced, List.append_nil]
  have new : admitted (log ++ [event]) = admitted log := by
    rw [admitted_append, quiet.admitted, List.append_nil]
  have signals : ∀ signalId, latest signalId (log ++ [event]) = latest signalId log := by
    intro signalId
    rw [latest_concat, quiet.latest]
  have bars : ∀ signalId, eligible signalId (log ++ [event]) = eligible signalId log := by
    intro signalId
    rw [eligible_concat, quiet.eligible]
  have by_ : ∀ {timeMs}, LeftBy timeMs log → LeftBy timeMs (log ++ [event]) := by
    intro timeMs left
    unfold LeftBy
    rwa [outcomes]
  obtain ⟨books, waiting, trading, left⟩ := after
  refine ⟨⟨arrived.trans books.arrived, ?_, books.distinct, ?_, ?_⟩, ?_, ?_, ?_⟩
  · rw [outcomes]
    exact books.outcomes
  · intro signal member
    rw [signals]
    exact books.latest signal member
  · rw [outcomes, others, new]
    exact books.account
  · intro flat signal member
    rw [bars]
    exact waiting flat signal member
  · intro trade open_
    obtain ⟨bar, last, inTrade⟩ := trading trade open_
    refine ⟨bar, last, (signals _).trans inTrade.latest, ?_, by_ inTrade.left⟩
    rw [bars]
    exact inTrade.held
  · exact fun timeMs closed => by_ (left timeMs closed)

theorem After.settle (after : After backtest past log state)
    (pending : state.pending = kept ++ signal :: signals)
    (open_ : kind ∉ [OutcomeKind.win, .loss, .timeout]) (exitedAtMs : Option ℤ) (memory : Memory) :
    After backtest past (log ++ [.outcome (unresolved signal.signalId kind exitedAtMs)])
      { state with
        memory := memory
        pending := remove signal.signalId state.pending
        outcomes := state.outcomes ++ [unresolved signal.signalId kind exitedAtMs] } := by
  have bars := fun signalId => eligible_unresolved signalId signal.signalId log open_ exitedAtMs
  have by_ : ∀ {timeMs}, LeftBy timeMs log → LeftBy timeMs _ := fun left =>
    leftBy_concat left (fun _ entered => nomatch entered :
      ∀ entered, (unresolved signal.signalId kind exitedAtMs).enteredAtMs = some entered → _)
  refine ⟨after.books.settle pending memory, fun flat other member => ?_, fun trade inTrade => ?_,
    fun timeMs closed => by_ (after.left timeMs closed)⟩
  · rw [bars]
    exact after.waiting flat other (List.mem_of_mem_filter member)
  · obtain ⟨bar, last, inTrade⟩ := after.trading trade inTrade
    refine ⟨bar, last, (latest_concat _ _ _).trans inTrade.latest, ?_, by_ inTrade.left⟩
    rw [bars]
    exact inTrade.held

theorem revalidate_spec (nowMs : ℤ) (signals : List Signal) :
    ∀ (kept : List Signal) (log : List Event) (state : State Memory),
      state.pending = kept ++ signals → After backtest past log state →
      Traced.Follows (Along backtest) log (backtest.revalidate nowMs signals state)
        (After backtest past) := by
  induction signals with
  | nil => exact fun _ _ _ _ after => .pure after
  | cons signal signals inductionHypothesis =>
    intro kept log state pending after
    refine .note_bind trivial (.lift_bind ?_)
    rintro ⟨memory, reason⟩ -
    have asked := fun arguments => after.quiet (quiet_invalidation arguments)
    cases reason with
    | none =>
      refine inductionHypothesis (kept ++ [signal]) _ _ ?_ ((asked _).of_same rfl rfl rfl)
      rw [List.append_assoc]
      exact pending
    | some reason =>
      have open_ : (if reason = "TTL_EXPIRED" then OutcomeKind.unfilled else .invalidated) ∉
          [OutcomeKind.win, .loss, .timeout] := by
        split_ifs <;> decide
      have distinct := after.books.distinct
      rw [pending] at distinct
      have removed := remove_middle distinct
      rw [← pending] at removed
      exact record_bind (along_unresolved _ _ open_ _)
        (inductionHypothesis kept _ _ removed ((asked _).settle pending open_ _ memory))

theorem map_assign (signal : Signal) (pending : List Signal) :
    (assign signal pending).map (fun other => other.signalId) =
      if ∃ other ∈ pending, other.signalId = signal.signalId then
        pending.map fun other => other.signalId
      else pending.map (fun other => other.signalId) ++ [signal.signalId] := by
  unfold assign
  split_ifs with present
  · rw [List.map_map]
    refine List.map_congr_left fun other _ => ?_
    show (if other.signalId = signal.signalId then signal else other).signalId = _
    split_ifs with same
    · exact same.symm
    · rfl
  · exact List.map_append

theorem mem_assign {other : Signal} {pending : List Signal}
    (member : other ∈ assign signal pending) :
    other = signal ∨ other ∈ pending ∧ other.signalId ≠ signal.signalId := by
  unfold assign at member
  split_ifs at member with present
  · obtain ⟨old, held, same⟩ := List.mem_map.mp member
    split_ifs at same with own
    · exact .inl same.symm
    · exact .inr (same ▸ ⟨held, own⟩)
  · obtain held | last := List.mem_append.mp member
    · exact .inr ⟨held, fun same => present ⟨other, held, same⟩⟩
    · exact .inl (List.mem_singleton.mp last)

theorem Books.admission {gone : List Event} (books : Books past [] log state)
    (quiet : arrivals gone = [] ∧ recorded gone = [] ∧ admitted gone = [])
    (signals : ∀ signalId, Backtest.latest signalId (log ++ gone) = Backtest.latest signalId log)
    (replaces : replaced gone = if ∃ other ∈ state.pending, other.signalId = signal.signalId then
      [signal.signalId] else []) (times : Dict ℤ) :
    Books past [] (log ++ gone ++ [.admission signal])
      { state with
        lastFingerprintMs := times
        pending := assign signal state.pending } := by
  obtain ⟨noArrivals, noOutcomes, noAdmissions⟩ := quiet
  refine ⟨?_, ?_, ?_, fun other member => ?_, List.perm_iff_count.mpr fun signalId => ?_⟩
  · rw [arrivals_append, arrivals_append, noArrivals, List.append_nil, books.arrived]
    exact List.append_nil _
  · rw [recorded_append, recorded_append, noOutcomes, List.append_nil, ← books.outcomes]
    exact (List.append_nil _).symm
  · dsimp only
    rw [map_assign]
    split_ifs with present
    · exact books.distinct
    · refine List.nodup_append.mpr ⟨books.distinct, List.nodup_singleton _, ?_⟩
      rintro _ before _ last rfl
      obtain ⟨other, held, same⟩ := List.mem_map.mp before
      exact present ⟨other, held, same.trans (List.mem_singleton.mp last)⟩
  · rw [latest_concat, signals]
    obtain rfl | ⟨held, differs⟩ := mem_assign member
    · exact if_pos rfl
    · exact (if_neg differs.symm).trans (books.latest other held)
  · have counts := books.account.count_eq signalId
    rw [recorded_append, recorded_append, replaced_append, replaced_append, admitted_append,
      admitted_append, noOutcomes, noAdmissions, replaces]
    dsimp only
    rw [map_assign]
    simp only [List.append_nil, List.map_append, List.count_append] at counts ⊢
    show _ + 0 + (_ + _ + 0) + _ = _ + List.count signalId [signal.signalId]
    split_ifs
    · omega
    · rw [List.count_append, List.count_nil]
      omega

theorem After.admission {gone : List Event} (after : After backtest past log state)
    (flat : state.openTrade = none)
    (quiet : arrivals gone = [] ∧ recorded gone = [] ∧ admitted gone = [])
    (signals : ∀ signalId, Backtest.latest signalId (log ++ gone) = Backtest.latest signalId log)
    (bars : ∀ signalId, eligible signalId (log ++ gone) = eligible signalId log)
    (replaces : replaced gone = if ∃ other ∈ state.pending, other.signalId = signal.signalId then
      [signal.signalId] else []) (times : Dict ℤ) :
    After backtest past (log ++ gone ++ [.admission signal])
      { state with
        lastFingerprintMs := times
        pending := assign signal state.pending } := by
  have books := after.books
  rw [flat] at books
  have outcomes : recorded (log ++ gone ++ [.admission signal]) = recorded log := by
    rw [recorded_append, recorded_append, quiet.2.1, List.append_nil]
    exact List.append_nil _
  refine ⟨?_, fun _ other member => ?_, fun trade inTrade => ?_, fun timeMs closed => ?_⟩
  · have free : (state.openTrade.map fun trade => trade.signal.signalId).toList = [] := by
      rw [flat]
      rfl
    show Books past (state.openTrade.map fun trade => trade.signal.signalId).toList _ _
    rw [free]
    exact books.admission quiet signals replaces times
  · rw [eligible_concat, bars]
    obtain rfl | ⟨held, differs⟩ := mem_assign member
    · rw [eligibleAfter, if_pos rfl]
      exact fun _ => rfl
    · rw [eligibleAfter, if_neg differs.symm]
      exact after.waiting flat other held
  · exact nomatch flat.symm.trans inTrade
  · unfold LeftBy
    rw [outcomes]
    exact after.left timeMs closed

theorem admitSignal_spec (after : After backtest past log state) (flat : state.openTrade = none)
    (signal : Signal) :
    Traced.Follows (Along backtest) log (backtest.admitSignal state signal)
      (After backtest past) := by
  unfold admitSignal
  refine .ite (fun _ => .pure after) fun _ => ?_
  cases found : state.pending.find? fun other => other.signalId = signal.signalId with
  | none =>
    have absent : ¬ ∃ other ∈ state.pending, other.signalId = signal.signalId := by
      rintro ⟨other, held, same⟩
      exact List.find?_eq_none.mp found other held (decide_eq_true same)
    have logged := fun times => @After.admission Memory backtest past log state signal [] after flat
      ⟨rfl, rfl, rfl⟩ (fun _ => by rw [List.append_nil]) (fun _ => by rw [List.append_nil])
      (if_neg absent).symm times
    rw [List.append_nil] at logged
    exact .note_bind trivial (.pure (logged _))
  | some other =>
    have held := List.mem_of_find?_eq_some found
    have same : other.signalId = signal.signalId := by simpa using List.find?_some found
    have replaces : replaced [.replacement other] = [signal.signalId] := by
      rw [← same]
      rfl
    refine .note_bind trivial
      (.note_bind trivial (.pure ?_))
    refine after.admission flat ⟨rfl, rfl, rfl⟩ (fun _ => latest_concat _ _ _)
      (fun _ => eligible_concat _ _ _) ?_ _
    rw [replaces, if_pos ⟨other, held, same⟩]

theorem decision_spec (after : After backtest past log state) (nowMs : ℤ) :
    Traced.Follows (Along backtest) log (backtest.decision nowMs state) (After backtest past) := by
  refine .bind (revalidate_spec nowMs state.pending [] log state rfl after) ?_
  intro log state after
  cases flat : state.openTrade with
  | some trade => exact .pure after
  | none =>
    refine .note_bind trivial (.lift_bind ?_)
    rintro ⟨memory, found⟩ -
    have asked : ∀ arguments, After backtest past (log ++ [.scan arguments])
        { state with memory := memory } := fun arguments =>
      (after.quiet (quiet_scan arguments)).of_same rfl rfl rfl
    cases found with
    | none => exact .pure (asked _)
    | some signal => exact admitSignal_spec (asked _) flat signal

/-! ### A run -/

theorem recorded_arrival (log : List Event) (bar : Bar) :
    recorded (log ++ [.arrival bar]) = recorded log := by
  rw [recorded_append]
  exact List.append_nil _

theorem Books.arrival (books : Books past trading log state) (bar : Bar) :
    Books (past ++ [bar]) trading (log ++ [.arrival bar]) state := by
  refine ⟨?_, ?_, books.distinct, fun signal member => ?_, ?_⟩
  · rw [arrivals_append, books.arrived]
    rfl
  · rw [recorded_arrival, books.outcomes]
  · rw [latest_concat]
    exact books.latest signal member
  · rw [recorded_arrival, replaced_append, admitted_append]
    show (_ ++ (_ ++ []) ++ _ ++ _).Perm (_ ++ [])
    rw [List.append_nil, List.append_nil]
    exact books.account

theorem leftBy_arrival (left : LeftBy timeMs log) (bar : Bar) :
    LeftBy timeMs (log ++ [.arrival bar]) := by
  unfold LeftBy
  rwa [recorded_arrival]

theorem settle_spec (after : After backtest past log state)
    (apart : ∀ earlier ∈ past, earlier.closeTimeMs < bar.openTimeMs) :
    Traced.Follows (Along backtest) (log ++ [.arrival bar]) (backtest.settle state bar)
      (After backtest (past ++ [bar])) := by
  have last : (past ++ [bar]).getLast? = some bar := List.getLast?_concat
  have books := after.books.arrival bar
  have bars : ∀ signalId, eligible signalId (log ++ [.arrival bar]) =
      eligible signalId log ++ [bar] := fun signalId => eligible_concat _ _ _
  unfold settle
  cases open_ : state.openTrade with
  | some trade =>
    obtain ⟨before, held, inTrade⟩ := after.trading trade open_
    rw [open_] at books
    refine advance_spec books last ((latest_concat _ _ _).trans inTrade.latest) ?_
      (leftBy_arrival inTrade.left bar)
    rw [bars]
    exact inTrade.held.running (apart before (List.mem_of_getLast? held))
  | none =>
    rw [open_] at books
    have fresh : ∀ signal ∈ state.pending, ∃ before,
        eligible signal.signalId (log ++ [.arrival bar]) = before ++ [bar] ∧
          Waiting backtest signal before := fun signal member =>
      ⟨_, bars signal.signalId, after.waiting open_ signal member⟩
    exact fillPending_spec last state.pending [] _ state open_ rfl books (fun _ => nofun) fresh
      (leftBy_arrival (after.left bar.openTimeMs apart) bar)

theorem step_spec (completed : Interval → ℤ → Option Bar) (after : After backtest past log state)
    (apart : ∀ earlier ∈ past, earlier.closeTimeMs < bar.openTimeMs) :
    Traced.Follows (Along backtest) log (backtest.step completed state bar)
      (After backtest (past ++ [bar])) := by
  refine .note_bind trivial (.bind (settle_spec after apart) ?_)
  intro log settled after
  have delivered : After backtest (past ++ [bar]) log (backtest.deliver completed settled bar) :=
    after.of_same rfl rfl rfl
  cases completed .m15 bar.closeTimeMs with
  | none => exact .pure delivered
  | some _ => exact decision_spec delivered _

theorem pendingAtEnd_spec (signals : List Signal) :
    ∀ (log : List Event) (state : State Memory), state.outcomes = recorded log →
      ((recorded log).map (fun outcome => outcome.signalId) ++ replaced log ++
        signals.map (fun signal => signal.signalId)).Perm (admitted log) →
      Traced.Follows (Along backtest) log
        ((signals.map fun signal => unresolved signal.signalId .pending none).foldlM record state)
        fun log final => final.outcomes = recorded log ∧
          ((recorded log).map (fun outcome => outcome.signalId) ++ replaced log).Perm
            (admitted log) := by
  induction signals with
  | nil =>
    intro log state outcomes account
    rw [List.map_nil, List.append_nil] at account
    exact .pure ⟨outcomes, account⟩
  | cons signal signals inductionHypothesis =>
    intro log state outcomes account
    rw [List.map_cons, List.foldlM_cons]
    refine record_bind (along_unresolved log _ (by decide) none) (inductionHypothesis _ _ ?_ ?_)
    · rw [recorded_append, outcomes]
      rfl
    · refine List.perm_iff_count.mpr fun signalId => ?_
      have counts := account.count_eq signalId
      rw [recorded_append, replaced_append, admitted_append]
      simp only [List.map_append, List.map_cons, List.count_append, List.count_cons] at counts ⊢
      show _ + List.count signalId [signal.signalId] + (_ + 0) + _ = _ + 0
      rw [List.count_singleton]
      omega

theorem leftOver_spec (after : After backtest past log state) :
    Traced.Follows (Along backtest) log ((leftOver state).foldlM record state) fun log final =>
      final.outcomes = recorded log ∧
        ((recorded log).map (fun outcome => outcome.signalId) ++ replaced log).Perm
          (admitted log) := by
  have account := after.books.account
  unfold leftOver
  cases open_ : state.openTrade with
  | none =>
    rw [open_] at account
    rw [Option.map_none, Option.toList_none, List.append_nil] at account
    rw [Option.map_none, Option.toList_none, List.nil_append]
    exact pendingAtEnd_spec state.pending log state after.books.outcomes account
  | some trade =>
    rw [open_] at account
    obtain ⟨bar, -, inTrade⟩ := after.trading trade open_
    have unfinished : OutcomeKind.openAtEnd ∉ [OutcomeKind.win, .loss, .timeout] := by decide
    rw [Option.map_some, Option.toList_some, List.singleton_append, List.foldlM_cons]
    refine record_bind ⟨fun completed => absurd completed unfinished, inTrade.left.apart rfl⟩
      (pendingAtEnd_spec state.pending _ _ ?_ ?_)
    · rw [recorded_append, after.books.outcomes]
      rfl
    · refine List.perm_iff_count.mpr fun signalId => ?_
      have counts := account.count_eq signalId
      rw [recorded_append, replaced_append, admitted_append]
      simp only [List.map_append, List.count_append, Option.map_some, Option.toList_some]
        at counts ⊢
      show _ + List.count signalId [trade.signal.signalId] + (_ + 0) + _ = _ + 0
      omega

theorem pairwise_apart {log : List Event}
    (along : ∀ before event after, log = before ++ event :: after → Along backtest before event) :
    (recorded log).Pairwise Apart := by
  induction log using List.reverseRecOn with
  | nil => exact .nil
  | append_singleton log event inductionHypothesis =>
    rw [recorded_append, List.pairwise_append]
    refine ⟨inductionHypothesis fun before other after split => ?_, ?_, ?_⟩
    · exact along before other (after ++ [event]) (by rw [split, List.append_assoc]; rfl)
    · cases event with
      | outcome outcome => exact List.pairwise_singleton _ _
      | _ => exact .nil
    · intro earlier before outcome last
      cases event with
      | outcome own =>
        obtain rfl := List.mem_singleton.mp last
        exact (along log _ [] rfl).2 earlier before
      | _ => exact nomatch last

def Consecutive (bars : List Bar) : Prop :=
  bars.Pairwise fun bar next => bar.closeTimeMs < next.openTimeMs

instance : DecidablePred Consecutive := fun bars =>
  inferInstanceAs (Decidable (bars.Pairwise _))

theorem after_start (memory : Memory) : After backtest [] [] { memory := memory } where
  books := ⟨rfl, rfl, .nil, fun _ member => absurd member List.not_mem_nil, .nil⟩
  waiting _ _ member := absurd member List.not_mem_nil
  trading _ open_ := nomatch open_
  left _ _ _ member := absurd member List.not_mem_nil

theorem run_spec (memory : Memory) (apart : Consecutive bars) :
    Traced.Follows (Along backtest) [] (backtest.run memory bars) fun log outcomes =>
      outcomes = recorded log ∧
        ((recorded log).map (fun outcome => outcome.signalId) ++ replaced log).Perm
          (admitted log) := by
  unfold run
  refine .ite (fun _ => ?_) fun _ => .fail
  have each : ∀ past bar future, bars = past ++ bar :: future → ∀ log state,
      After backtest past log state → Traced.Follows (Along backtest) log
        (backtest.step (fun interval => byClose (resampleMinutes bars interval)) state bar)
        (After backtest (past ++ [bar])) := by
    intro past bar future split log state after
    refine step_spec _ after fun earlier member => ?_
    rw [split, Consecutive, List.pairwise_append] at apart
    exact apart.2.2 earlier member bar List.mem_cons_self
  refine .bind (.foldlM each (after_start memory)) ?_
  intro log state after
  exact .bind (leftOver_spec after) fun log final done => .pure done

/-- On bars that close before the next one opens, the backtest returns one outcome for each admitted
signal that no other replaces, its trades do not overlap, and a completed trade is what the resolver
finds for its signal on the bars since the later of its admission and the last completion. -/
theorem run_resolves_each_signal (backtest : EventDrivenBacktestEngine Memory) (memory : Memory)
    (bars : List Bar) (apart : Consecutive bars) (outcomes : List TradeOutcome)
    (done : (backtest.run memory bars).outcome = .ok outcomes) :
    outcomes = recorded (backtest.run memory bars).log ∧
    (outcomes.map (fun outcome => outcome.signalId) ++
      replaced (backtest.run memory bars).log).Perm (admitted (backtest.run memory bars).log) ∧
    outcomes.Pairwise Apart ∧
    ∀ before outcome after, (backtest.run memory bars).log = before ++ .outcome outcome :: after →
      outcome.IsCompleted → ∃ signal, latest outcome.signalId before = some signal ∧
        signal.signalId = outcome.signalId ∧
        resolveSignal signal (backtest.config.holdingMinutes signal) none backtest.fundingEvents
          (eligible outcome.signalId before ++ arrivals after) = .ok outcome := by
  obtain ⟨along, final⟩ := run_spec memory apart
  obtain ⟨recorded, account⟩ := final outcomes done
  rw [List.nil_append] at recorded account
  refine ⟨recorded, recorded ▸ account, recorded ▸ pairwise_apart along, ?_⟩
  intro before outcome after split completed
  obtain ⟨signal, named, same, resolves⟩ := (along before _ after split).1 completed
  exact ⟨signal, named, same, resolves (arrivals after)⟩

/-! ### Where an outcome is another one -/

def barTo (index : ℕ) (reach : ℚ) : Bar where
  symbol := "BTCUSDT"
  interval := "1m"
  openTimeMs := 60000 * index
  closeTimeMs := 60000 * index + 59999
  openPrice := 100
  high := max 100 reach
  low := 100
  close := 100
  volume := 1
  closeAfterOpen := by omega
  highBound := by rw [max_self]; exact le_max_left _ _

def longAt (signalId : String) (createdAtMs : ℤ) (price : ℚ) : Signal where
  signalId := signalId
  fingerprint := signalId ++ toString createdAtMs
  direction := .long
  setup := .trendPullback
  regime := .trendUp
  dataTimestampMs := createdAtMs - 1
  createdAtMs := createdAtMs
  expiresAtMs := 100000000
  entryLow := price
  entryHigh := price
  stopLoss := 0
  invalidationLevel := 0
  takeProfit := 1000
  rrGross := 2
  rrNet := 2
  recommendedNotional := 1000
  maxLossUsdt := 10
  estimatedFeeUsdt := 0
  estimatedSlippageUsdt := 0

/-- A strategy with one signal at each of two decision bars. -/
def scripted (first second : Signal) (holdingMinutes : ℤ) (fundingEvents : List FundingEvent) :
    EventDrivenBacktestEngine Unit where
  engine := {
    scan := fun _ arguments => .ok ((), if arguments.nowMs = 900000 then some first
      else if arguments.nowMs = 1800000 then some second else none)
    invalidationReason := fun _ _ => .ok ((), none) }
  config := {
    cooldownMinutes := 90
    trendPullbackHoldingMinutes := holdingMinutes }
  fundingEvents := fundingEvents

def returned (run : Traced Event RunFault (List TradeOutcome)) : List TradeOutcome :=
  match run.outcome with
  | .ok outcomes => outcomes
  | .error _ => []

/-- The first signal enters at bar 30 and times out at bar 31, which reaches the second one. -/
def timedOut : EventDrivenBacktestEngine Unit :=
  scripted (longAt "first" 900000 200) (longAt "second" 1800000 300) 1 []

def timedOutBars : List Bar :=
  (List.range 34).map fun index =>
    barTo index (if index = 30 then 250 else if index = 31 ∨ index = 32 then 350 else 100)

/-- The bar at which the signal enters closes after the next one. -/
def overlapping : EventDrivenBacktestEngine Unit :=
  scripted (longAt "first" 900000 200) (longAt "second" 1800000 300) 720
    [⟨1100000, 1 / 100, none⟩]

def overlappingBars : List Bar :=
  (List.range 15).map (fun index => barTo index 100) ++
    [{ barTo 15 200 with
        closeTimeMs := 1200000
        closeAfterOpen := by decide },
      barTo 16 1000]

/-- Two signals of one identity. -/
def renamed : EventDrivenBacktestEngine Unit :=
  scripted (longAt "same" 900000 200) (longAt "same" 1800000 200) 1 []

/-- After a timeout, a signal is not resolved on the bars from the one after the exit; a bar that
closes late has another funding; and a signal that is replaced has no outcome. -/
theorem outcomes_differ :
    (∃ first ∈ returned (timedOut.run () timedOutBars),
      ∃ second ∈ returned (timedOut.run () timedOutBars), first.exitedAtMs = some 1859999 ∧
        second.signalId = "second" ∧ second.IsCompleted ∧
        resolveSignal (longAt "second" 1800000 300) 1 none []
          (timedOutBars.filter fun bar => max 1800000 1859999 < bar.openTimeMs) ≠ .ok second) ∧
    (validateCandles overlappingBars = [] ∧
      ∃ first ∈ returned (overlapping.run () overlappingBars), first.signalId = "first" ∧
        first.IsCompleted ∧ resolveSignal (longAt "first" 900000 200) 720 none
          overlapping.fundingEvents (overlappingBars.drop 15) ≠ .ok first) ∧
    admitted (renamed.run () (timedOutBars.take 30)).log = ["same", "same"] ∧
      (returned (renamed.run () (timedOutBars.take 30))).length = 1 := by
  decide +kernel

theorem timedOut_resolves : ∃ outcomes, (timedOut.run () timedOutBars).outcome = .ok outcomes ∧
    (outcomes.map (fun outcome => outcome.signalId) ++
      replaced (timedOut.run () timedOutBars).log).Perm
        (admitted (timedOut.run () timedOutBars).log) := by
  have apart : Consecutive timedOutBars := by decide +kernel
  have done : (timedOut.run () timedOutBars).outcome.isOk = true := by decide +kernel
  obtain ⟨outcomes, done⟩ := exists_ok_of_isOk done
  exact ⟨outcomes, done,
    (run_resolves_each_signal timedOut () timedOutBars apart outcomes done).2.1⟩

end QuantAgent.Backtest.EventDrivenBacktestEngine
