/-
This file carries the clock through one round of the event loop, phase by phase, and from there
through whole runs: between two bars the clock stands at the close of the last one, everything
recorded lies behind it and everything waiting or remaining strictly ahead of it.
-/

import QuantAgent.Economic.Clock

namespace QuantAgent.Economic

open Traced

variable {symbol : String} {first now : Int} {all : List FundingSettlement}
  {engine : EconomicSimulationEngine} {allowed : EngineNote → Prop}
  {faulty : EngineError → Prop} {previous : Option Candle} {bar : Candle} {rest : List Candle}
  {state : EngineState}

variable (benign : Benign faulty) (judged : Judged bar.symbol allowed faulty)
  (ordered : OrderedBars (bar :: rest)) (begun : first ≤ bar.openTimeMs)
  (forward : now ≤ bar.openTimeMs)
  (orderly : Orderly bar.symbol first all (bar :: rest) now state.core)

/-! ### The open of a bar -/

include benign judged ordered begun forward orderly in
theorem settleOpen_calm :
    Keeps allowed faulty
      (settleFunding engine bar.symbol (fun time => time ≤ bar.openTimeMs) true state)
      (Calm bar.symbol first all (bar :: rest) bar.openTimeMs) := by
  let inv : Core → Prop := fun core =>
    ∃ moment ≤ bar.openTimeMs, Orderly bar.symbol first all (bar :: rest) moment core
  have opens : ∀ core moment, Orderly bar.symbol first all (bar :: rest) moment core →
      ∀ fill ∈ core.pendingFills, bar.openTimeMs ≤ fill.fillTimestampMs :=
    fun core moment orderly fill member =>
      open_le_due ordered (orderly.timely.waiting fill member).2.due
  have settle : ∀ (core : Core) event rest, inv { core with funding := event :: rest } →
      decide (event.timestampMs ≤ bar.openTimeMs) = true →
      Settles allowed faulty bar.symbol { core with funding := rest } event inv := by
    rintro core event rest ⟨moment, -, orderly⟩ due
    have early : event.timestampMs ≤ bar.openTimeMs := of_decide_eq_true due
    exact (settles_orderly judged orderly fun fill member =>
      le_trans early (opens _ _ orderly fill member)).mono fun _ later => ⟨_, early, later⟩
  refine (settleFunding_holds benign settle ⟨now, forward, orderly⟩).mono ?_
  rintro later ⟨⟨moment, before, orderly⟩, head⟩
  have ahead : ∀ event ∈ later.core.funding, bar.openTimeMs < event.timestampMs :=
    orderly.timely.inOrder.forall_of_head (fun _ _ up before => lt_of_lt_of_le before up)
      fun event found => not_le.mp (of_decide_eq_false (head event found))
  exact ⟨⟨orderly.timely.advance before (opens _ _ orderly) fun event member =>
    (ahead event member).le, orderly.fitting⟩, begun, ahead⟩

include benign judged in
theorem processOpen_clear
    (calm : Calm bar.symbol first all (bar :: rest) bar.openTimeMs state.core) :
    Keeps allowed faulty
      (processPending engine (fun time => time ≤ bar.openTimeMs) bar.symbol state)
      (Clear bar.symbol first all (bar :: rest) bar.openTimeMs) := by
  have apply : ∀ core fill,
      Calm bar.symbol first all (bar :: rest) bar.openTimeMs
        (core.scheduled fill) →
      decide (fill.fillTimestampMs ≤ bar.openTimeMs) = true →
      Applies allowed faulty bar.symbol core fill
        (Calm bar.symbol first all (bar :: rest) bar.openTimeMs) :=
    fun core fill calm due => applies_calm judged calm
      (le_antisymm (of_decide_eq_true due) (calm.timely.waiting fill List.mem_cons_self).1)
  refine (processPending_holds benign (fun _ _ reordered now => now.perm reordered) apply
    calm).mono ?_
  rintro later ⟨calm, kept⟩
  exact ⟨calm, fun fill member => not_le.mp (of_decide_eq_false (kept fill member))⟩

include benign judged ordered begun forward orderly in
theorem openPhase_clear :
    Keeps allowed faulty (openPhase engine previous bar rest state)
      (Clear bar.symbol first all (bar :: rest) bar.openTimeMs) := by
  refine .bind (settleOpen_calm benign judged ordered begun forward orderly)
    fun funded calm => ?_
  refine .bind (processOpen_clear benign judged calm) fun filled clear => ?_
  have signalled : Keeps allowed faulty (processSignals engine previous bar rest filled)
      (Clear bar.symbol first all (bar :: rest) bar.openTimeMs) := by
    refine processSignals_keeps benign ?_ ?_ clear
    · exact fun core fill before entry => schedules_clear judged before
        (open_le_due ordered entry.due) entry.waits
        (before.fitting.cons_opening entry.asset entry.opening)
    · exact fun core posQty fill before exitable exit => schedules_clear judged before
        (open_le_due ordered exit.due) (exit.waits (before.timely.exitable_now exitable))
        (before.fitting.cons_exit exitable exit)
  refine .bind signalled fun later clear => gapExits_keeps benign clear ?_
  intro posQty observed fill exitable exit positive atOpen
  have waits : fill.Waits (bar :: rest) := exit.of_first.waits positive
  exact (schedules_clear judged clear atOpen.ge waits
    (clear.fitting.cons_exit exitable exit)).1 atOpen.le

/-! ### Standing exits -/

theorem standingExits_clear (benign : Benign faulty)
    (clear : Clear bar.symbol first all (bar :: rest) bar.openTimeMs state.core) :
    Holds allowed faulty (standingExits engine bar state) fun result =>
      Clear bar.symbol first all (bar :: rest) bar.openTimeMs result.1.core := by
  refine standingExits_holds benign clear ?_
  intro posQty observed fill exitable exit positive atClose
  have waits : fill.Waits (bar :: rest) := exit.of_first.waits positive
  have later : bar.openTimeMs < fill.fillTimestampMs := by
    rw [atClose]
    exact bar.closeAfterOpen
  have queued : Calm bar.symbol first all (bar :: rest) bar.openTimeMs
      (state.core.scheduled fill) :=
    ⟨⟨clear.timely.cons later.le waits, clear.fitting.cons_exit exitable exit⟩, clear.started,
      clear.ahead⟩
  refine ⟨queued.perm (List.perm_append_singleton _ _), ?_⟩
  intro other member
  rcases List.mem_append.mp member with before | same
  · exact clear.clear other before
  · rw [List.mem_singleton.mp same]
    exact later

/-! ### Between open and close -/

include benign judged ordered in
theorem intrabarPhase_orderly
    (clear : Clear bar.symbol first all (bar :: rest) bar.openTimeMs state.core) :
    Keeps allowed faulty (intrabarPhase engine bar state)
      (Orderly bar.symbol first all (bar :: rest) bar.closeTimeMs) := by
  let inv : Core → Prop := fun core =>
    (∃ moment ≤ bar.closeTimeMs, Orderly bar.symbol first all (bar :: rest) moment core) ∧
      ∀ fill ∈ core.pendingFills, bar.closeTimeMs ≤ fill.fillTimestampMs
  have settle : ∀ (core : Core) event rest, inv { core with funding := event :: rest } →
      decide (event.timestampMs < bar.closeTimeMs) = true →
      Settles allowed faulty bar.symbol { core with funding := rest } event inv := by
    rintro core event rest ⟨⟨moment, -, orderly⟩, closes⟩ due
    have early : event.timestampMs ≤ bar.closeTimeMs := (of_decide_eq_true due).le
    exact (settles_orderly judged orderly fun fill member =>
      le_trans early (closes fill member)).mono fun _ later => ⟨⟨_, early, later⟩, closes⟩
  have start : inv state.core :=
    ⟨⟨bar.openTimeMs, bar.closeAfterOpen.le, clear.toOrderly⟩, fun fill member =>
      close_le_due ordered (clear.timely.waiting fill member).2.due (clear.clear fill member)⟩
  have funded : Keeps allowed faulty
      (settleFunding engine bar.symbol (fun time => time < bar.closeTimeMs) true state)
      (Orderly bar.symbol first all (bar :: rest) bar.closeTimeMs) := by
    refine (settleFunding_holds benign settle start).mono ?_
    rintro later ⟨⟨⟨moment, before, orderly⟩, closes⟩, head⟩
    have ahead : ∀ event ∈ later.core.funding, bar.closeTimeMs ≤ event.timestampMs :=
      orderly.timely.inOrder.forall_of_head (fun _ _ up before => le_trans before up)
        fun event found => not_lt.mp (of_decide_eq_false (head event found))
    exact ⟨orderly.timely.advance before closes ahead, orderly.fitting⟩
  refine .bind funded fun later orderly => ?_
  refine (processPending_holds benign ?_ ?_ orderly).mono fun _ kept => kept.1
  · exact fun _ _ reordered now => ⟨now.timely.perm reordered, now.fitting.perm reordered⟩
  · intro core fill before due
    have ahead := (before.timely.waiting fill List.mem_cons_self).1
    exact absurd (of_decide_eq_true due) (not_lt.mpr ahead)

/-! ### The close of a bar -/

include benign judged in
theorem settleClose_calm (begun : first ≤ bar.closeTimeMs)
    (orderly : Orderly bar.symbol first all (bar :: rest) bar.closeTimeMs state.core) :
    Keeps allowed faulty
      (settleFunding engine bar.symbol (fun time => time = bar.closeTimeMs) false state)
      (Calm bar.symbol first all (bar :: rest) bar.closeTimeMs) := by
  have settle : ∀ (core : Core) event others,
      Orderly bar.symbol first all (bar :: rest) bar.closeTimeMs
        { core with funding := event :: others } →
      decide (event.timestampMs = bar.closeTimeMs) = true →
      Settles allowed faulty bar.symbol { core with funding := others } event
        (Orderly bar.symbol first all (bar :: rest) bar.closeTimeMs) := by
    intro core event others orderly due
    have settled := settles_orderly judged orderly
    rw [of_decide_eq_true due] at settled
    exact settled fun fill member => (orderly.timely.waiting fill member).1
  refine (settleFunding_holds benign settle orderly).mono ?_
  rintro later ⟨orderly, head⟩
  have ahead : ∀ event ∈ later.core.funding, bar.closeTimeMs < event.timestampMs := by
    refine orderly.timely.inOrder.forall_of_head
      (fun _ _ up before => lt_of_lt_of_le before up) ?_
    intro event found
    have notBefore := orderly.timely.remaining event (List.mem_of_head? found)
    exact lt_of_le_of_ne notBefore fun same => of_decide_eq_false (head event found) same.symm
  exact ⟨orderly, begun, ahead⟩

include benign judged in
theorem closePhase_clear (begun : first ≤ bar.closeTimeMs) {standingTriggered : Bool}
    (orderly : Orderly bar.symbol first all (bar :: rest) bar.closeTimeMs state.core) :
    Keeps allowed faulty (closePhase engine bar rest standingTriggered state)
      (Clear bar.symbol first all rest bar.closeTimeMs) := by
  refine .bind (settleClose_calm benign judged begun orderly) fun funded calm => ?_
  have expired : Keeps allowed faulty
      (closeTimeExits engine bar rest standingTriggered funded)
      (Calm bar.symbol first all (bar :: rest) bar.closeTimeMs) := by
    refine closeTimeExits_keeps benign calm ?_
    intro posQty fill exitable exit
    have ahead : bar.closeTimeMs ≤ fill.fillTimestampMs := by
      rw [← exit.observed]
      exact exit.sound.observed_le
    exact schedules_calm judged calm ahead (exit.waits (calm.timely.exitable_now exitable))
      (calm.fitting.cons_exit exitable exit)
  refine .bind expired fun later calm => ?_
  have apply : ∀ core fill,
      Calm bar.symbol first all (bar :: rest) bar.closeTimeMs
        (core.scheduled fill) →
      decide (fill.fillTimestampMs = bar.closeTimeMs) = true →
      Applies allowed faulty bar.symbol core fill
        (Calm bar.symbol first all (bar :: rest) bar.closeTimeMs) :=
    fun core fill calm due => applies_calm judged calm (of_decide_eq_true due)
  refine .bind (processPending_holds benign (fun _ _ reordered now => now.perm reordered)
    apply calm) fun filled kept => markToMarket_keeps benign ?_
  obtain ⟨calm, left⟩ := kept
  have clear : ∀ fill ∈ filled.core.pendingFills, bar.closeTimeMs < fill.fillTimestampMs :=
    fun fill member => lt_of_le_of_ne (calm.timely.waiting fill member).1
      fun same => of_decide_eq_false (left fill member) same.symm
  refine ⟨⟨⟨⟨calm.timely.recorded, calm.timely.sorted, ?_, calm.timely.remaining,
    calm.timely.inOrder, calm.timely.before, calm.timely.net, calm.timely.settled⟩,
    calm.fitting⟩, calm.started, calm.ahead⟩, clear⟩
  intro fill member
  obtain ⟨ahead, waits⟩ := calm.timely.waiting fill member
  exact ⟨ahead, dueIn_rest waits.due (clear fill member), waits.sound, waits.observed,
    waits.trade⟩

/-! ### Rounds and runs -/

/-- Between two bars: orderly, with everything that is to come strictly ahead. -/
structure Between (symbol : String) (first : Int) (all : List FundingSettlement)
    (bars : List Candle) (now : Int) (core : Core) : Prop extends
    Orderly symbol first all bars now core where
  ahead : ∀ settlement ∈ core.funding, now < settlement.timestampMs
  clear : ∀ fill ∈ core.pendingFills, now < fill.fillTimestampMs

include benign judged ordered begun forward orderly in
theorem processBar_between :
    Keeps allowed faulty (processBar engine previous bar rest state)
      (Between bar.symbol first all rest bar.closeTimeMs) := by
  refine .bind (openPhase_clear benign judged ordered begun forward orderly)
    fun opened clear => ?_
  refine .bind (standingExits_clear benign clear) fun stood clear => ?_
  refine .bind (intrabarPhase_orderly benign judged ordered clear) fun later orderly => ?_
  exact (closePhase_clear benign judged (le_trans begun bar.closeAfterOpen.le) orderly).mono
    fun _ clear => ⟨clear.toOrderly, clear.ahead, clear.clear⟩

def clockAfter (start : Int) (done : List Candle) : Int :=
  match done.getLast? with
  | some bar => bar.closeTimeMs
  | none => start

theorem clockAfter_le_open {start : Int} {done : List Candle}
    (ordered : OrderedBars (done ++ bar :: rest)) (early : start ≤ bar.openTimeMs) :
    clockAfter start done ≤ bar.openTimeMs := by
  unfold clockAfter
  cases last : done.getLast? with
  | none => exact early
  | some earlier =>
    exact (List.pairwise_append.mp ordered).2.2 earlier (List.mem_of_getLast? last) bar
      List.mem_cons_self

/-- After any number of bars the clock stands at the close of the last of them. -/
theorem runFirst_between (benign : Benign faulty) (judged : Judged symbol allowed faulty)
    {candles : List Candle} {signals : List InformationSignal} {funding : List FundingSettlement}
    {start : Int} (ordered : OrderedBars candles) (oneSymbol : ∀ bar ∈ candles, bar.symbol = symbol)
    (begun : ∀ bar ∈ candles, first ≤ bar.openTimeMs)
    (early : ∀ bar ∈ candles, start ≤ bar.openTimeMs)
    (earlyFunding : ∀ event ∈ funding, start < event.timestampMs) (count : ℕ) :
    Keeps allowed faulty (runFirst engine count none candles (initialState engine signals funding))
      (Between symbol first (DueQueue.sortByDue FundingSettlement.timestampMs funding)
        (candles.drop count) (clockAfter start (candles.take count))) := by
  let inv : List Candle → Core → Prop := fun bars core =>
    ∃ done, done ++ bars = candles ∧
      Between symbol first (DueQueue.sortByDue FundingSettlement.timestampMs funding) bars
        (clockAfter start done) core
  have round : ∀ previous bar rest state, inv (bar :: rest) state.core →
      Keeps allowed faulty (processBar engine previous bar rest state) (inv rest) := by
    rintro previous bar rest state ⟨done, whole, between⟩
    have member : bar ∈ candles := by simp [← whole]
    rw [← oneSymbol bar member] at judged between
    have appended : OrderedBars (done ++ bar :: rest) := by rwa [whole]
    refine (processBar_between benign judged (List.pairwise_append.mp appended).2.1
      (begun bar member) (clockAfter_le_open appended (early bar member))
      between.toOrderly).mono fun later kept => ⟨done ++ [bar], ?_, ?_⟩
    · rw [List.append_assoc]
      exact whole
    · rw [← oneSymbol bar member, clockAfter, List.getLast?_concat]
      exact kept
  have initial : inv candles (initialState engine signals funding).core := by
    have sooner : ∀ event ∈ DueQueue.sortByDue FundingSettlement.timestampMs funding,
        start < event.timestampMs :=
      fun event member => earlyFunding event (DueQueue.mem_sortByDue.mp member)
    refine ⟨[], rfl, ⟨⟨?_, ⟨⟨?_, Nat.zero_le 1⟩, ?_⟩⟩, sooner, ?_⟩⟩
    · exact ⟨fun _ member => (nomatch member), List.Pairwise.nil, fun _ member => (nomatch member),
        fun event member => (sooner event member).le, DueQueue.sortByDue_inOrder _,
        fun _ member => (nomatch member), rfl, [], rfl, fun _ member => (nomatch member), rfl⟩
    · exact fun _ member => (nomatch member)
    · exact fun _ member => (nomatch member)
    · exact fun _ member => (nomatch member)
  refine (runFirst_keeps round count initial).mono ?_
  rintro later ⟨done, whole, between⟩
  have taken : done = candles.take count := by
    have same : done ++ candles.drop count = candles.take count ++ candles.drop count := by
      rw [whole, List.take_append_drop]
    exact List.append_cancel_right same
  rwa [← taken]

theorem exists_start (candles : List Candle) (funding : List FundingSettlement) :
    ∃ start, (∀ bar ∈ candles, start ≤ bar.openTimeMs) ∧
      ∀ event ∈ funding, start < event.timestampMs := by
  obtain ⟨bound, below⟩ := (candles.map Candle.openTimeMs ++
    funding.map FundingSettlement.timestampMs).toFinset.bddBelow
  refine ⟨bound - 1, fun bar member => ?_, fun event member => ?_⟩
  · have under : bound ≤ bar.openTimeMs := below (by
      rw [Finset.mem_coe, List.mem_toFinset]
      exact List.mem_append_left _ (List.mem_map_of_mem member))
    omega
  · have under : bound ≤ event.timestampMs := below (by
      rw [Finset.mem_coe, List.mem_toFinset]
      exact List.mem_append_right _ (List.mem_map_of_mem member))
    omega

end QuantAgent.Economic
