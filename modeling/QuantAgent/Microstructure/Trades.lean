/-
This file embeds how the capture store takes aggregate trades: each goes into the partition of the
day on which it was received, which refuses a second trade of its id, and into the aggregates of its
event time there. It then says when the partitions together count each trade once: exactly when no
trade is delivered on two days, since nothing looks into the partition of another day.
Arithmetic is exact.
-/

import QuantAgent.Library.KeyedList
import QuantAgent.Microstructure.Capture

namespace QuantAgent.Microstructure

/-! ### Trades -/

inductive AggressiveSide where
  | buy
  | sell
  deriving DecidableEq

structure AggTrade where
  eventTimeMs : ℤ
  aggregateTradeId : ℤ
  price : ℚ
  quantity : ℚ
  buyerIsMaker : Bool
  aggressiveSide : AggressiveSide
  transactionTimeMs : Option ℤ
  receiveTimeMs : ℤ
  receiveMonotonicNs : ℤ
  deriving DecidableEq

def intervalsMs : List ℤ := [1000, 60000, 900000]

inductive TradeColumn where
  | tradeCount
  | buyQuantity
  | sellQuantity
  | buyNotional
  | sellNotional
  deriving DecidableEq

abbrev TradeSums := TradeColumn → ℚ

namespace AggTrade

variable (trade : AggTrade)

def day : ℤ := dayOf trade.receiveTimeMs

def bucket (intervalMs : ℤ) : ℤ := trade.eventTimeMs / intervalMs * intervalMs

/-- What the trade adds to its bucket. -/
def sums : TradeSums
  | .tradeCount => 1
  | .buyQuantity => if trade.aggressiveSide = .buy then trade.quantity else 0
  | .sellQuantity => if trade.aggressiveSide = .sell then trade.quantity else 0
  | .buyNotional => (if trade.aggressiveSide = .buy then trade.quantity else 0) * trade.price
  | .sellNotional => (if trade.aggressiveSide = .sell then trade.quantity else 0) * trade.price

/-- The primary key of a trade across all partitions. -/
def filedKey : ℤ × ℤ := (trade.day, trade.aggregateTradeId)

end AggTrade

/-! ### The store -/

variable {Digest : Type} [DecidableEq Digest]

structure TradeRow (Digest : Type) where
  trade : AggTrade
  payloadHash : Digest

structure AggregateRow where
  intervalMs : ℤ
  bucketStartMs : ℤ
  sums : TradeSums

inductive CounterName where
  | duplicateTrade
  | conflictTrade
  deriving DecidableEq

structure AuditCounter where
  name : CounterName
  value : ℕ

/-- The rows of every partition that trades touch, each under the day of its partition. -/
structure TradeStore (Digest : Type) where
  finalized : List ℤ := []
  aggTrades : List (ℤ × TradeRow Digest) := []
  aggregates : List (ℤ × AggregateRow) := []
  auditCounters : List (ℤ × AuditCounter) := []

def tradeRowKey (filed : ℤ × TradeRow Digest) : ℤ × ℤ := (filed.1, filed.2.trade.aggregateTradeId)

def aggregateKey (filed : ℤ × AggregateRow) : ℤ × ℤ × ℤ :=
  (filed.1, filed.2.intervalMs, filed.2.bucketStartMs)

def counterKey (filed : ℤ × AuditCounter) : ℤ × CounterName := (filed.1, filed.2.name)

/-- `DO UPDATE SET trade_count=trade_count+1, ...`. -/
def addSums (held added : ℤ × AggregateRow) : ℤ × AggregateRow :=
  (held.1, { held.2 with sums := held.2.sums + added.2.sums })

/-- `DO UPDATE SET value=value+1`. -/
def addCount (held added : ℤ × AuditCounter) : ℤ × AuditCounter :=
  (held.1, { held.2 with value := held.2.value + added.2.value })

namespace TradeStore

open KeyedList

def increment (store : TradeStore Digest) (day : ℤ) (name : CounterName) : TradeStore Digest :=
  { store with
    auditCounters := upsert counterKey addCount (day, ⟨name, 1⟩) store.auditCounters }

def aggregate (trade : AggTrade) (aggregates : List (ℤ × AggregateRow)) (intervalMs : ℤ) :
    List (ℤ × AggregateRow) :=
  upsert aggregateKey addSums
    (trade.day, ⟨intervalMs, trade.bucket intervalMs, trade.sums⟩) aggregates

variable (payloadHash : AggTrade → Digest)

/-- `append_trade`: the store after the transaction, and whether the trade was new. -/
def appendTrade (store : TradeStore Digest) (trade : AggTrade) :
    Except CaptureFault (TradeStore Digest × Bool) := do
  refuse (trade.day ∈ store.finalized) (.finalizedPartition trade.day)
  match lookup tradeRowKey store.aggTrades trade.filedKey with
  | some existing =>
    let name := if existing.2.payloadHash = payloadHash trade then .duplicateTrade
      else .conflictTrade
    pure (store.increment trade.day name, false)
  | none =>
    pure ({ store with
      aggTrades := store.aggTrades ++ [(trade.day, ⟨trade, payloadHash trade⟩)]
      aggregates := intervalsMs.foldl (aggregate trade) store.aggregates }, true)

/-- The store after a call that has returned or raised. -/
def step (store : TradeStore Digest) (trade : AggTrade) : TradeStore Digest :=
  match store.appendTrade payloadHash trade with
  | .ok (after, _) => after
  | .error _ => store

/-- The store after calls on fresh partitions, but for the days that are finalized. -/
def after (finalized : List ℤ) (trades : List AggTrade) : TradeStore Digest :=
  trades.foldl (step payloadHash) { finalized }

/-- What all partitions hold together for a bucket. -/
def total (store : TradeStore Digest) (intervalMs bucketStartMs : ℤ) : TradeSums :=
  (store.aggregates.map fun filed =>
    if filed.2.intervalMs = intervalMs ∧ filed.2.bucketStartMs = bucketStartMs then filed.2.sums
    else 0).sum

def counted (store : TradeStore Digest) (name : CounterName) : ℕ :=
  (store.auditCounters.map fun filed => if filed.2.name = name then filed.2.value else 0).sum

end TradeStore

/-! ### The law -/

/-- The trades that no partition has refused. -/
def delivered (finalized : List ℤ) (trades : List AggTrade) : List AggTrade :=
  trades.filter fun trade => trade.day ∉ finalized

def tradeTotal (trades : List AggTrade) (intervalMs bucketStartMs : ℤ) : TradeSums :=
  (trades.map fun trade => if trade.bucket intervalMs = bucketStartMs then trade.sums else 0).sum

/-- Every bucket holds the fold over the distinct trades, each as it came first, and every
redelivery with another payload is counted as a conflict. -/
structure CountsOnce (store : TradeStore Digest) (trades : List AggTrade) : Prop where
  sums : ∀ intervalMs ∈ intervalsMs, ∀ bucketStartMs,
    store.total intervalMs bucketStartMs =
      tradeTotal (KeyedList.firsts AggTrade.aggregateTradeId [] trades) intervalMs bucketStartMs
  conflicts : store.counted .conflictTrade =
    KeyedList.differing AggTrade.aggregateTradeId [] trades

def OneDayEach (trades : List AggTrade) : Prop :=
  ∀ first ∈ trades, ∀ second ∈ trades,
    first.aggregateTradeId = second.aggregateTradeId → first.day = second.day

instance (trades : List AggTrade) : Decidable (OneDayEach trades) :=
  inferInstanceAs (Decidable (∀ _ ∈ _, ∀ _ ∈ _, _ → _))

/-! ### Sums and counters -/

open KeyedList

theorem sum_append_map {Entry Weight : Type} [AddCommMonoid Weight] (weight : Entry → Weight)
    (entries : List Entry) (entry : Entry) :
    ((entries ++ [entry]).map weight).sum = (entries.map weight).sum + weight entry := by
  rw [List.map_append, List.sum_append, List.map_singleton, List.sum_singleton]

def AggregateRow.share (row : AggregateRow) (intervalMs bucketStartMs : ℤ) : TradeSums :=
  if row.intervalMs = intervalMs ∧ row.bucketStartMs = bucketStartMs then row.sums else 0

theorem sum_aggregate (trade : AggTrade) (aggregates : List (ℤ × AggregateRow))
    (interval intervalMs bucketStartMs : ℤ) :
    ((TradeStore.aggregate trade aggregates interval).map fun filed =>
        filed.2.share intervalMs bucketStartMs).sum =
      (aggregates.map fun filed => filed.2.share intervalMs bucketStartMs).sum +
        if interval = intervalMs ∧ trade.bucket interval = bucketStartMs then trade.sums
          else 0 := by
  refine sum_upsert aggregateKey (fun held same => ?_) aggregates
  obtain ⟨-, interval_eq, bucket_eq⟩ : held.1 = trade.day ∧ held.2.intervalMs = interval ∧
      held.2.bucketStartMs = trade.bucket interval := by
    simpa [aggregateKey] using same
  unfold AggregateRow.share addSums
  rw [interval_eq, bucket_eq]
  split
  · rfl
  · exact (add_zero 0).symm

theorem sum_aggregates (trade : AggTrade) (aggregates : List (ℤ × AggregateRow))
    {intervalMs : ℤ} (member : intervalMs ∈ intervalsMs) (bucketStartMs : ℤ) :
    ((intervalsMs.foldl (TradeStore.aggregate trade) aggregates).map fun filed =>
        filed.2.share intervalMs bucketStartMs).sum =
      (aggregates.map fun filed => filed.2.share intervalMs bucketStartMs).sum +
        if trade.bucket intervalMs = bucketStartMs then trade.sums else 0 := by
  simp only [intervalsMs, List.foldl_cons, List.foldl_nil, sum_aggregate]
  simp only [intervalsMs, List.mem_cons, List.not_mem_nil, or_false] at member
  obtain rfl | rfl | rfl := member <;> simp

omit [DecidableEq Digest] in
theorem counted_increment (store : TradeStore Digest) (day : ℤ) (name counter : CounterName) :
    (store.increment day name).counted counter =
      store.counted counter + if name = counter then 1 else 0 := by
  refine @sum_upsert _ _ _ counterKey _ _ _ (fun filed : ℤ × AuditCounter =>
    if filed.2.name = counter then filed.2.value else 0) _ (fun held same => ?_) _
  obtain ⟨-, named⟩ : held.1 = day ∧ held.2.name = name := by simpa [counterKey] using same
  unfold addCount
  rw [named]
  split <;> rfl

/-! ### What a store holds -/

namespace TradeStore

variable {payloadHash : AggTrade → Digest} {store : TradeStore Digest} {kept : List AggTrade}
  {conflicts : ℕ} {finalized : List ℤ}

variable (payloadHash) in
structure Holds (store : TradeStore Digest) (finalized : List ℤ) (kept : List AggTrade)
    (conflicts : ℕ) : Prop where
  finalized_eq : store.finalized = finalized
  rows : store.aggTrades = kept.map fun trade => (trade.day, ⟨trade, payloadHash trade⟩)
  sums : ∀ intervalMs ∈ intervalsMs, ∀ bucketStartMs,
    store.total intervalMs bucketStartMs = tradeTotal kept intervalMs bucketStartMs
  conflicts_eq : store.counted .conflictTrade = conflicts

section

variable (holds : Holds payloadHash store finalized kept conflicts)

include holds

omit [DecidableEq Digest] in
theorem Holds.lookup_eq (key : ℤ × ℤ) :
    lookup tradeRowKey store.aggTrades key =
      (lookup AggTrade.filedKey kept key).map fun trade =>
        (trade.day, ⟨trade, payloadHash trade⟩) := by
  rw [holds.rows]
  exact lookup_map

omit [DecidableEq Digest] in
theorem Holds.insert (trade : AggTrade) :
    Holds payloadHash { store with
      aggTrades := store.aggTrades ++ [(trade.day, ⟨trade, payloadHash trade⟩)]
      aggregates := intervalsMs.foldl (aggregate trade) store.aggregates }
      finalized (kept ++ [trade]) conflicts where
  finalized_eq := holds.finalized_eq
  rows := by rw [holds.rows, List.map_append, List.map_singleton]
  sums intervalMs member bucketStartMs := by
    unfold tradeTotal
    rw [sum_append_map, ← tradeTotal, ← holds.sums intervalMs member]
    exact sum_aggregates trade store.aggregates member bucketStartMs
  conflicts_eq := holds.conflicts_eq

omit [DecidableEq Digest] in
theorem Holds.increment (day : ℤ) (name : CounterName) :
    Holds payloadHash (store.increment day name) finalized kept
      (conflicts + if name = .conflictTrade then 1 else 0) where
  finalized_eq := holds.finalized_eq
  rows := holds.rows
  sums := holds.sums
  conflicts_eq := by rw [counted_increment, holds.conflicts_eq]

theorem Holds.refused
    {trade : AggTrade} (closed : trade.day ∈ finalized) : store.step payloadHash trade = store := by
  unfold step appendTrade refuse
  rw [if_pos (holds.finalized_eq ▸ closed)]
  rfl

theorem Holds.step_new {trade : AggTrade} (taken : trade.day ∉ finalized)
    (absent : lookup AggTrade.filedKey kept trade.filedKey = none) :
    Holds payloadHash (store.step payloadHash trade) finalized (kept ++ [trade]) conflicts := by
  have missing := holds.lookup_eq trade.filedKey
  rw [absent] at missing
  unfold step appendTrade
  rw [refuse_of_not (holds.finalized_eq ▸ taken), missing]
  exact holds.insert trade

end

theorem Holds.step_known (injective : Function.Injective payloadHash)
    (holds : Holds payloadHash store finalized kept conflicts) {trade first : AggTrade}
    (taken : trade.day ∉ finalized)
    (found : lookup AggTrade.filedKey kept trade.filedKey = some first) :
    Holds payloadHash (store.step payloadHash trade) finalized kept
      (conflicts + if first = trade then 0 else 1) := by
  have present := holds.lookup_eq trade.filedKey
  rw [found] at present
  have stepped : store.step payloadHash trade = store.increment trade.day
      (if payloadHash first = payloadHash trade then .duplicateTrade else .conflictTrade) := by
    unfold step appendTrade
    rw [refuse_of_not (holds.finalized_eq ▸ taken), present]
    rfl
  have counted := holds.increment trade.day
    (if payloadHash first = payloadHash trade then .duplicateTrade else .conflictTrade)
  rw [stepped]
  by_cases same : first = trade
  · rw [if_pos same]
    rwa [if_pos (congrArg payloadHash same)] at counted ⊢
  · rw [if_neg same]
    rwa [if_neg fun equal => same (injective equal)] at counted ⊢

theorem Holds.after (injective : Function.Injective payloadHash)
    (holds : Holds payloadHash store finalized kept conflicts) (trades : List AggTrade) :
    Holds payloadHash (trades.foldl (step payloadHash) store) finalized
      (firsts AggTrade.filedKey kept (delivered finalized trades))
      (conflicts + differing AggTrade.filedKey kept (delivered finalized trades)) := by
  induction trades generalizing store kept conflicts with
  | nil => exact holds
  | cons trade rest inductionHypothesis =>
    rw [List.foldl_cons]
    by_cases closed : trade.day ∈ finalized
    · have skipped : delivered finalized (trade :: rest) = delivered finalized rest :=
        List.filter_cons_of_neg (by simpa using closed)
      rw [holds.refused closed, skipped]
      exact inductionHypothesis holds
    · have counts : delivered finalized (trade :: rest) = trade :: delivered finalized rest :=
        List.filter_cons_of_pos (by simpa using closed)
      rw [counts]
      unfold firsts differing
      cases found : lookup AggTrade.filedKey kept trade.filedKey with
      | none =>
        rw [if_pos rfl]
        exact inductionHypothesis (holds.step_new closed found)
      | some first =>
        rw [if_neg (Option.some_ne_none first)]
        dsimp only
        rw [← Nat.add_assoc]
        exact inductionHypothesis (holds.step_known injective closed found)

theorem holds_after (injective : Function.Injective payloadHash) (finalized : List ℤ)
    (trades : List AggTrade) :
    Holds payloadHash (TradeStore.after payloadHash finalized trades) finalized
      (firsts AggTrade.filedKey [] (delivered finalized trades))
      (differing AggTrade.filedKey [] (delivered finalized trades)) := by
  have start : Holds payloadHash ({ finalized } : TradeStore Digest) finalized [] 0 :=
    ⟨rfl, rfl, fun _ _ _ => rfl, rfl⟩
  have run := start.after injective trades
  rw [Nat.zero_add] at run
  exact run

end TradeStore

/-! ### Trades of one day each -/

section

variable {trades : List AggTrade}

theorem OneDayEach.sameKeys (oneDay : OneDayEach trades) :
    SameKeys AggTrade.filedKey AggTrade.aggregateTradeId [] trades := by
  intro first member second later
  constructor
  · exact fun same => (Prod.mk.inj same).2
  · exact fun same => Prod.ext (oneDay first member second later same) same

theorem tradeTotal_tradeCount_nonneg (trades : List AggTrade) (intervalMs bucketStartMs : ℤ) :
    0 ≤ tradeTotal trades intervalMs bucketStartMs .tradeCount := by
  induction trades with
  | nil => exact le_refl 0
  | cons trade rest inductionHypothesis =>
    have share : 0 ≤ (if trade.bucket intervalMs = bucketStartMs then trade.sums else 0)
        TradeColumn.tradeCount := by
      split
      · exact zero_le_one
      · exact le_refl 0
    exact add_nonneg share inductionHypothesis

theorem oneDayEach_of_tradeTotal (intervalMs : ℤ)
    (equal : ∀ bucketStartMs, tradeTotal (firsts AggTrade.filedKey [] trades) intervalMs
        bucketStartMs =
      tradeTotal (firsts AggTrade.aggregateTradeId [] trades) intervalMs bucketStartMs) :
    OneDayEach trades := by
  have within : (firsts AggTrade.aggregateTradeId [] trades).Sublist
      (firsts AggTrade.filedKey [] trades) :=
    firsts_sublist (fun first second same => (Prod.mk.inj same).2) (List.Sublist.refl [])
      (List.forall_mem_nil _)
  obtain ⟨others, parts⟩ := within.exists_perm_append
  have nothing : others = [] := by
    cases others with
    | nil => rfl
    | cons other rest =>
      -- the other trade is missing from the total of its bucket
      have whole := equal (other.bucket intervalMs)
      unfold tradeTotal at whole
      rw [(parts.map _).sum_eq, List.map_append, List.sum_append, List.map_cons, List.sum_cons,
        if_pos rfl, add_eq_left] at whole
      have count : (1 : ℚ) +
          tradeTotal rest intervalMs (other.bucket intervalMs) .tradeCount = 0 :=
        congrFun whole .tradeCount
      have rest_nonneg :=
        tradeTotal_tradeCount_nonneg rest intervalMs (other.bucket intervalMs)
      linarith
  rw [nothing, List.append_nil] at parts
  have distinct : Distinct AggTrade.aggregateTradeId (firsts AggTrade.filedKey [] trades) :=
    (parts.map AggTrade.aggregateTradeId).nodup_iff.mpr (distinct_nil.firsts trades)
  intro first member second later same
  obtain ⟨one, oneMember, oneKey⟩ : ∃ one ∈ firsts AggTrade.filedKey [] trades,
      AggTrade.filedKey one = AggTrade.filedKey first := exists_mem_firsts member
  obtain ⟨two, twoMember, twoKey⟩ : ∃ two ∈ firsts AggTrade.filedKey [] trades,
      AggTrade.filedKey two = AggTrade.filedKey second := exists_mem_firsts later
  obtain ⟨oneDay, oneId⟩ := Prod.mk.inj oneKey
  obtain ⟨twoDay, twoId⟩ := Prod.mk.inj twoKey
  have equal_trade : one = two :=
    List.inj_on_of_nodup_map distinct oneMember twoMember (oneId.trans (same.trans twoId.symm))
  rw [← oneDay, ← twoDay, equal_trade]

end

/-! ### Exactly when each trade counts once -/

section

variable {payloadHash : AggTrade → Digest} {finalized : List ℤ} {calls : List AggTrade}

theorem countsOnce_of_oneDayEach (injective : Function.Injective payloadHash)
    (oneDay : OneDayEach (delivered finalized calls)) :
    CountsOnce (TradeStore.after payloadHash finalized calls) (delivered finalized calls) := by
  have holds := TradeStore.holds_after injective finalized calls
  rw [oneDay.sameKeys.firsts_eq, oneDay.sameKeys.differing_eq] at holds
  exact ⟨holds.sums, holds.conflicts_eq⟩

theorem oneDayEach_of_countsOnce (injective : Function.Injective payloadHash)
    (once : CountsOnce (TradeStore.after payloadHash finalized calls)
      (delivered finalized calls)) : OneDayEach (delivered finalized calls) := by
  have holds := TradeStore.holds_after injective finalized calls
  have second : (1000 : ℤ) ∈ intervalsMs := by decide
  refine oneDayEach_of_tradeTotal 1000 fun bucketStartMs => ?_
  rw [← holds.sums 1000 second, once.sums 1000 second]

/-- The partitions together count each trade once exactly when each comes on one day only. -/
theorem trades_counted_once_iff (injective : Function.Injective payloadHash)
    (finalized : List ℤ) (calls : List AggTrade) :
    CountsOnce (TradeStore.after payloadHash finalized calls) (delivered finalized calls) ↔
      OneDayEach (delivered finalized calls) :=
  ⟨oneDayEach_of_countsOnce injective, countsOnce_of_oneDayEach injective⟩

end

def midnightTrade (receiveTimeMs : ℤ) : AggTrade where
  eventTimeMs := 86399990
  aggregateTradeId := 7
  price := 50
  quantity := 100
  buyerIsMaker := false
  aggressiveSide := .buy
  transactionTimeMs := none
  receiveTimeMs := receiveTimeMs
  receiveMonotonicNs := receiveTimeMs * 1000000

/-- Three deliveries before midnight, one of them repeated and one late, count one trade. -/
theorem redelivery_within_day_counts_once :
    CountsOnce (TradeStore.after id []
        [midnightTrade 86399995, midnightTrade 86399995, midnightTrade 86399999])
      (delivered []
        [midnightTrade 86399995, midnightTrade 86399995, midnightTrade 86399999]) :=
  (trades_counted_once_iff Function.injective_id [] _).mpr (by decide)

/-- A trade that comes again after midnight counts twice. -/
theorem redelivery_past_midnight_counts_twice :
    ¬ CountsOnce (TradeStore.after id [] [midnightTrade 86399995, midnightTrade 86400005])
      (delivered [] [midnightTrade 86399995, midnightTrade 86400005]) := fun once =>
  absurd (oneDayEach_of_countsOnce Function.injective_id once) (by decide)

end QuantAgent.Microstructure
