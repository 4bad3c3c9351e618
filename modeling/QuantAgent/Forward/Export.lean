/-
This file embeds the export of the forward store as a table of cells, and the reader that a replay
loads it with, and says when the replay is what was collected.

The table of the store has no column for two fields of a snapshot, and its rows have a symbol that
the reader knows nothing of.
-/

import QuantAgent.Forward.DerivativeStore
import QuantAgent.Library.Runs

namespace QuantAgent.Forward

open Backtest (Snapshot HistoricalDerivativeStore)

/-! ### The exported table -/

/-- A cell of the file: empty, or the number that its text denotes. -/
inductive Cell where
  | empty
  | integer (value : ℤ)
  | real (value : ℚ)
  deriving DecidableEq

namespace Cell

def ofInt? : Option ℤ → Cell
  | none => empty
  | some value => integer value

def ofRat? : Option ℚ → Cell
  | none => empty
  | some value => real value

/-- `None` for an empty cell, else `int(str(raw))`, which refuses the text of a float. -/
def readInt : Cell → Except String (Option ℤ)
  | empty => .ok none
  | integer value => .ok (some value)
  | real _ => .error "invalid literal for int() with base 10"

/-- `None` for an empty cell, else `float(str(raw))`. -/
def readReal : Cell → Except String (Option ℚ)
  | empty => .ok none
  | integer value => .ok (some value)
  | real value => .ok (some value)

end Cell

def derivativeFields : List String :=
  ["observed_at_ms", "mark_price", "funding_rate", "funding_time_ms", "premium_index_time_ms",
    "next_funding_time_ms", "open_interest", "open_interest_time_ms", "taker_buy_sell_ratio",
    "taker_time_ms", "index_price", "premium_bps", "basis_rate", "basis_time_ms",
    "open_interest_change_pct", "long_short_account_ratio", "long_short_time_ms",
    "order_book_imbalance", "spread_bps", "order_book_time_ms"]

/-- The columns of a row with a number, as `projection("derivative_snapshots")` names them; no other
column has the name of a field. -/
def SnapshotRow.columns (observedAtMs : ℤ) (row : SnapshotRow) : List (String × Cell) :=
  [("collection_started_at_ms", .integer row.collectionStartedAtMs),
    ("observed_at_ms", .integer observedAtMs),
    ("mark_price", Cell.ofRat? row.markPrice),
    ("index_price", Cell.ofRat? row.indexPrice),
    ("premium_bps", Cell.ofRat? row.premiumBps),
    ("funding_rate", Cell.ofRat? row.fundingRate),
    ("funding_time_ms", Cell.ofInt? row.fundingTimeMs),
    ("open_interest", Cell.ofRat? row.openInterest),
    ("open_interest_time_ms", Cell.ofInt? row.openInterestTimeMs),
    ("open_interest_change_pct", Cell.ofRat? row.openInterestChangePct),
    ("taker_buy_sell_ratio", Cell.ofRat? row.takerBuySellRatio),
    ("taker_time_ms", Cell.ofInt? row.takerTimeMs),
    ("basis_rate", Cell.ofRat? row.basisRate),
    ("basis_time_ms", Cell.ofInt? row.basisTimeMs),
    ("long_short_account_ratio", Cell.ofRat? row.longShortAccountRatio),
    ("long_short_time_ms", Cell.ofInt? row.longShortTimeMs),
    ("order_book_imbalance", Cell.ofRat? row.orderBookImbalance),
    ("spread_bps", Cell.ofRat? row.spreadBps),
    ("order_book_time_ms", Cell.ofInt? row.orderBookTimeMs)]

/-- A line of the file: the cells under the names of the header. -/
abbrev Line := List (String × Cell)

/-- `{field: row_dict.get(field) for field in DERIVATIVE_FIELDS}`, written. -/
def lineOf (observedAtMs : ℤ) (row : SnapshotRow) : Line :=
  derivativeFields.map fun field => (field, ((row.columns observedAtMs).lookup field).getD .empty)

def exportedLines (store : ForwardStore) : List Line :=
  store.rows.map fun row => lineOf row.1 row.2

structure ExportManifest where
  schemaVersion : String
  source : String
  format : String
  rowCount : ℕ
  checksumSha256 : String
  firstObservedAtMs : Option ℤ
  lastObservedAtMs : Option ℤ
  backfilledRows : ℕ
  deriving DecidableEq

/-- What the paths of an export hold. -/
inductive ExportFile where
  | csv (lines : List Line)
  | manifest (manifest : ExportManifest)
  | other (content : String) (isJson : Bool)
  deriving DecidableEq

/-- Whether `json.loads` reads the file. -/
def ExportFile.isJson : ExportFile → Bool
  | csv _ => false
  | manifest _ => true
  | other _ isJson => isJson

def manifestOf (digest : List Line → String) (path : String) (store : ForwardStore) :
    ExportManifest where
  schemaVersion := "1.0.0"
  source := path
  format := "HistoricalDerivativeStore-compatible CSV"
  rowCount := store.rows.length
  checksumSha256 := digest (exportedLines store)
  firstObservedAtMs := store.rows.head?.map Prod.fst
  lastObservedAtMs := store.rows.getLast?.map Prod.fst
  backfilledRows := 0

/-- `export`: what the paths hold after it. -/
def exportStore (digest : List Line → String) (path : String) (store : ForwardStore)
    (csvPath manifestPath : String) (files : String → Option ExportFile) :
    Except String (String → Option ExportFile) :=
  let encoded := ExportFile.csv (exportedLines store)
  let manifest := ExportFile.manifest (manifestOf digest path store)
  if csvPath = manifestPath then .error "CSV and manifest targets must be distinct"
  else if (files csvPath).isSome ∧ files csvPath ≠ some encoded then
    .error "export CSV is immutable; use a new artifact path"
  else if (files manifestPath).isSome then
    if (files manifestPath).all ExportFile.isJson = false then
      .error "invalid committed export manifest"
    else if files manifestPath ≠ some manifest ∨ files csvPath ≠ some encoded then
      .error "committed export is immutable; use a new artifact path"
    else .ok files
  else
    .ok fun target =>
      if target = csvPath then some encoded
      else if target = manifestPath then some manifest
      else files target

/-! ### The reader -/

/-- `row.get(name)`. -/
def cellAt (line : Line) (name : String) : Cell := (line.lookup name).getD .empty

def snapshotOfLine (line : Line) : Except String Snapshot := do
  let observedAtMs ← (cellAt line "observed_at_ms").readInt
  let markPrice ← (cellAt line "mark_price").readReal
  let fundingRate ← (cellAt line "funding_rate").readReal
  let fundingTimeMs ← (cellAt line "funding_time_ms").readInt
  let premiumIndexTimeMs ← (cellAt line "premium_index_time_ms").readInt
  let nextFundingTimeMs ← (cellAt line "next_funding_time_ms").readInt
  let openInterest ← (cellAt line "open_interest").readReal
  let openInterestTimeMs ← (cellAt line "open_interest_time_ms").readInt
  let takerBuySellRatio ← (cellAt line "taker_buy_sell_ratio").readReal
  let takerTimeMs ← (cellAt line "taker_time_ms").readInt
  let indexPrice ← (cellAt line "index_price").readReal
  let premiumBps ← (cellAt line "premium_bps").readReal
  let basisRate ← (cellAt line "basis_rate").readReal
  let basisTimeMs ← (cellAt line "basis_time_ms").readInt
  let openInterestChangePct ← (cellAt line "open_interest_change_pct").readReal
  let longShortAccountRatio ← (cellAt line "long_short_account_ratio").readReal
  let longShortTimeMs ← (cellAt line "long_short_time_ms").readInt
  let orderBookImbalance ← (cellAt line "order_book_imbalance").readReal
  let spreadBps ← (cellAt line "spread_bps").readReal
  let orderBookTimeMs ← (cellAt line "order_book_time_ms").readInt
  match observedAtMs with
  | none => .error "observed_at_ms is required"
  | some observedAtMs =>
    .ok { observedAtMs, markPrice, fundingRate, fundingTimeMs, premiumIndexTimeMs,
          nextFundingTimeMs, openInterest, openInterestTimeMs, takerBuySellRatio, takerTimeMs,
          indexPrice, premiumBps, basisRate, basisTimeMs, openInterestChangePct,
          longShortAccountRatio, longShortTimeMs, orderBookImbalance, spreadBps, orderBookTimeMs }

/-- `from_csv`, of the lines of a file. -/
def fromCsv (lines : List Line) : Except String HistoricalDerivativeStore := do
  let snapshots ← lines.mapM snapshotOfLine
  HistoricalDerivativeStore.create snapshots

def SnapshotRow.snapshot (observedAtMs : ℤ) (row : SnapshotRow) : Snapshot where
  observedAtMs
  markPrice := row.markPrice
  fundingRate := row.fundingRate
  fundingTimeMs := row.fundingTimeMs
  openInterest := row.openInterest
  openInterestTimeMs := row.openInterestTimeMs
  takerBuySellRatio := row.takerBuySellRatio
  takerTimeMs := row.takerTimeMs
  indexPrice := row.indexPrice
  premiumBps := row.premiumBps
  basisRate := row.basisRate
  basisTimeMs := row.basisTimeMs
  openInterestChangePct := row.openInterestChangePct
  longShortAccountRatio := row.longShortAccountRatio
  longShortTimeMs := row.longShortTimeMs
  orderBookImbalance := row.orderBookImbalance
  spreadBps := row.spreadBps
  orderBookTimeMs := row.orderBookTimeMs

@[simp] theorem readInt_ofInt? (value : Option ℤ) : (Cell.ofInt? value).readInt = .ok value := by
  cases value <;> rfl

@[simp] theorem readInt_empty : Cell.empty.readInt = .ok none := rfl

@[simp] theorem readInt_integer (value : ℤ) : (Cell.integer value).readInt = .ok (some value) := rfl

@[simp] theorem readReal_ofRat? (value : Option ℚ) : (Cell.ofRat? value).readReal = .ok value := by
  cases value <;> rfl

theorem cellAt_lineOf {observedAtMs : ℤ} {row : SnapshotRow} {field : String}
    (known : field ∈ derivativeFields) :
    cellAt (lineOf observedAtMs row) field =
      ((row.columns observedAtMs).lookup field).getD .empty := by
  unfold cellAt lineOf
  revert known
  induction derivativeFields with
  | nil => exact fun known => absurd known List.not_mem_nil
  | cons name fields inductionHypothesis =>
    intro known
    rw [List.map_cons, List.lookup_cons]
    by_cases same : field = name
    · rw [same, beq_self_eq_true]
      rfl
    · rw [beq_false_of_ne same]
      exact inductionHypothesis ((List.mem_cons.mp known).resolve_left same)

theorem snapshotOfLine_lineOf (observedAtMs : ℤ) (row : SnapshotRow) :
    snapshotOfLine (lineOf observedAtMs row) = .ok (row.snapshot observedAtMs) := by
  unfold snapshotOfLine
  simp (disch := decide) only [cellAt_lineOf]
  simp [SnapshotRow.columns, List.lookup_cons]
  rfl

/-! ### What was collected -/

structure Collected where
  store : ForwardStore := {}
  appended : List ForwardDerivativeRecord := []

def Collected.append (collected : Collected) (record : ForwardDerivativeRecord) : Collected where
  store := (collected.store.append record).1
  appended :=
    match (collected.store.append record).2 with
    | .ok true => collected.appended ++ [record]
    | _ => collected.appended

/-- The store after some appends. -/
def Collected.run (records : List ForwardDerivativeRecord) : Collected :=
  Runs.run Collected.append {} records

def Collected.Holds (collected : Collected) : Prop :=
  collected.store.snapshots.entries =
    (collected.appended.map fun record => ⟨record.key, record.row⟩).reverse

theorem insertRun_snapshots (store : ForwardStore) (record : ForwardDerivativeRecord)
    (status : RunStatus) : (store.insertRun record status).snapshots = store.snapshots := by
  unfold ForwardStore.insertRun
  split <;> rfl

theorem append_cases (store : ForwardStore) (record : ForwardDerivativeRecord) :
    ((store.append record).1.snapshots = store.snapshots ∧ (store.append record).2 ≠ .ok true) ∨
      store.snapshots.lookup record.key = none ∧
        (store.append record).1.snapshots = store.snapshots.insert record.key record.row ∧
        (store.append record).2 = .ok true := by
  unfold ForwardStore.append
  by_cases successful : (record.fieldAvailability.any fun field => field.2) = true
  · rw [if_pos successful]
    cases found : store.snapshots.lookup record.key with
    | some existing =>
      left
      dsimp only
      split_ifs <;> exact ⟨insertRun_snapshots _ _ _, by simp⟩
    | none => exact .inr ⟨rfl, insertRun_snapshots _ _ _, rfl⟩
  · rw [if_neg successful]
    exact .inl ⟨insertRun_snapshots _ _ _, by simp⟩

variable {collected : Collected}

theorem Collected.Holds.append (holds : collected.Holds) (record : ForwardDerivativeRecord) :
    (collected.append record).Holds := by
  unfold Collected.Holds Collected.append
  rcases append_cases collected.store record with ⟨same, other⟩ | ⟨absent, added, new⟩
  · dsimp only
    rw [same]
    split
    · next new => exact absurd new other
    · exact holds
  · dsimp only
    have entries : (collected.store.snapshots.insert record.key record.row).entries =
        ⟨record.key, record.row⟩ :: collected.store.snapshots.entries :=
      congrArg AList.entries (AList.insert_of_notMem (AList.lookup_eq_none.mp absent))
    rw [new, added, entries, holds, List.map_append, List.reverse_append]
    rfl

theorem Collected.run_holds (records : List ForwardDerivativeRecord) :
    (Collected.run records).Holds := by
  have keeps : ∀ (collected : Collected) record, collected.Holds →
      (collected.append record).Holds := fun _ record holds => holds.append record
  have initially : Collected.Holds ({} : Collected) := rfl
  exact (Runs.throughout_of_keeps keeps initially records).last

/-! ### The replay -/

def inOrder (records : List ForwardDerivativeRecord) : List ForwardDerivativeRecord :=
  records.insertionSort fun record other => record.observedAtMs ≤ other.observedAtMs

def observedFor (records : List ForwardDerivativeRecord) (symbol : String) (timeMs : ℤ) :
    Option Snapshot :=
  ((((inOrder records).filter fun record => record.symbol = symbol).map fun record =>
    record.snapshot).filter fun snapshot => snapshot.observedAtMs ≤ timeMs).getLast?

def Replays (lines : List Line) (records : List ForwardDerivativeRecord) : Prop :=
  ∃ history, fromCsv lines = .ok history ∧
    history.snapshots = (inOrder records).map (fun record => record.snapshot) ∧
    ∀ record ∈ records, ∀ timeMs config includeOrderBook,
      history.snapshotAt timeMs config includeOrderBook =
        (Backtest.sanitizeDerivatives (observedFor records record.symbol timeMs) timeMs config
          includeOrderBook).1

/-- The snapshot has nothing in the two fields without a column, and its time is the record's. -/
def ForwardDerivativeRecord.Stored (record : ForwardDerivativeRecord) : Prop :=
  record.snapshot.premiumIndexTimeMs = none ∧ record.snapshot.nextFundingTimeMs = none ∧
    record.snapshot.observedAtMs = record.observedAtMs

theorem snapshot_row_eq_iff (record : ForwardDerivativeRecord) :
    record.row.snapshot record.observedAtMs = record.snapshot ↔ record.Stored := by
  unfold ForwardDerivativeRecord.Stored SnapshotRow.snapshot ForwardDerivativeRecord.row
  generalize record.snapshot = snapshot
  cases snapshot
  simp only [Snapshot.mk.injEq, and_true, true_and]
  constructor
  · rintro ⟨time, premium, next⟩
    exact ⟨premium.symm, next.symm, time.symm⟩
  · rintro ⟨premium, next, time⟩
    exact ⟨time.symm, premium.symm, next.symm⟩

/-! ### What is read back -/

theorem mapM_lineOf (rows : List (ℤ × SnapshotRow)) :
    (rows.map fun row => lineOf row.1 row.2).mapM snapshotOfLine =
      .ok (rows.map fun row => row.2.snapshot row.1) := by
  induction rows with
  | nil => rfl
  | cons row rows inductionHypothesis =>
    rw [List.map_cons, List.mapM_cons, snapshotOfLine_lineOf, inductionHypothesis]
    rfl

theorem inOrder_perm (records : List ForwardDerivativeRecord) : (inOrder records).Perm records :=
  List.perm_insertionSort _ records

variable {records : List ForwardDerivativeRecord}

theorem mem_inOrder {record : ForwardDerivativeRecord} :
    record ∈ inOrder records ↔ record ∈ records := (inOrder_perm records).mem_iff

theorem inOrder_pairwise (records : List ForwardDerivativeRecord) :
    (inOrder records).Pairwise fun record other => record.observedAtMs ≤ other.observedAtMs :=
  List.pairwise_insertionSort
    (fun record other : ForwardDerivativeRecord => record.observedAtMs ≤ other.observedAtMs) records

theorem rows_eq (holds : collected.Holds) :
    collected.store.rows = (inOrder collected.appended.reverse).map fun record =>
      (record.observedAtMs, record.row) := by
  unfold ForwardStore.rows inOrder
  rw [holds, List.map_reverse, List.map_map, ← List.map_reverse]
  exact (List.map_insertionSort
    (fun record other : ForwardDerivativeRecord => record.observedAtMs ≤ other.observedAtMs)
    (fun row other : ℤ × SnapshotRow => row.1 ≤ other.1) _ _ fun _ _ _ _ => Iff.rfl).symm

theorem inOrder_reverse (distinct : (records.map fun record => record.observedAtMs).Nodup) :
    inOrder records.reverse = inOrder records := by
  have permuted : (inOrder records.reverse).Perm (inOrder records) :=
    (inOrder_perm _).trans ((List.reverse_perm _).trans (inOrder_perm _).symm)
  refine permuted.eq_of_pairwise (fun record other inFirst inSecond le ge => ?_)
    (inOrder_pairwise _) (inOrder_pairwise _)
  exact List.inj_on_of_nodup_map distinct (List.mem_reverse.mp (mem_inOrder.mp inFirst))
    (mem_inOrder.mp inSecond) (le_antisymm le ge)

theorem fromCsv_eq_ok_iff (holds : collected.Holds) {history : HistoricalDerivativeStore} :
    fromCsv (exportedLines collected.store) = .ok history ↔
      (collected.appended.map fun record => record.observedAtMs).Nodup ∧
        history.snapshots = (inOrder collected.appended).map fun record =>
          record.row.snapshot record.observedAtMs := by
  have read : fromCsv (exportedLines collected.store) = HistoricalDerivativeStore.create
      ((inOrder collected.appended.reverse).map fun record =>
        record.row.snapshot record.observedAtMs) := by
    unfold fromCsv exportedLines
    rw [mapM_lineOf, rows_eq holds, List.map_map]
    rfl
  have ordered : ((inOrder collected.appended.reverse).map fun record =>
      record.row.snapshot record.observedAtMs).Pairwise fun snapshot later =>
        snapshot.observedAtMs ≤ later.observedAtMs := List.pairwise_map.mpr (inOrder_pairwise _)
  have times : (collected.appended.map fun record => record.observedAtMs).Nodup ↔
      ((inOrder collected.appended.reverse).map fun record =>
        record.row.snapshot record.observedAtMs).Pairwise fun snapshot later =>
          snapshot.observedAtMs < later.observedAtMs := by
    rw [List.pairwise_map, ← List.nodup_reverse, ← List.map_reverse,
      ← ((inOrder_perm collected.appended.reverse).map _).nodup_iff]
    constructor
    · intro distinct
      exact (inOrder_pairwise _).imp₂ (fun _ _ le ne => lt_of_le_of_ne le ne)
        (List.pairwise_map.mp distinct)
    · intro strict
      exact List.pairwise_map.mpr (strict.imp fun earlier => earlier.ne)
  rw [read]
  unfold HistoricalDerivativeStore.create
  rw [ordered.insertionSort_eq]
  dsimp only
  constructor
  · intro built
    split_ifs at built with strict
    obtain rfl := Except.ok.inj built
    have distinct := times.mpr strict
    exact ⟨distinct, congrArg (List.map _) (inOrder_reverse distinct)⟩
  · rintro ⟨distinct, same⟩
    rw [dif_pos (times.mp distinct)]
    obtain ⟨snapshots, strict⟩ := history
    obtain rfl : snapshots = _ := same
    simp only [inOrder_reverse distinct]

/-! ### When a replay is what was collected -/

theorem sanitized_observedAtMs {snapshot : Snapshot} {timeMs : ℤ}
    (seen : snapshot.observedAtMs ≤ timeMs) (config : Backtest.DataConfig)
    (includeOrderBook : Bool) :
    (Backtest.sanitizeDerivatives (some snapshot) timeMs config includeOrderBook).1.map
      (fun cleared => cleared.observedAtMs) = some snapshot.observedAtMs := by
  have removed : ∀ group ∈ Backtest.fieldGroups, ∀ other : Snapshot,
      (group.remove other).observedAtMs = other.observedAtMs := by
    intro group member other
    simp only [Backtest.fieldGroups, List.mem_cons, List.not_mem_nil, or_false] at member
    rcases member with rfl | rfl | rfl | rfl | rfl | rfl <;> rfl
  have folded : ∀ groups : List Backtest.FieldGroup,
      (∀ group ∈ groups, group ∈ Backtest.fieldGroups) →
      ∀ other : Snapshot,
        (groups.foldl (fun cleared group => group.remove cleared) other).observedAtMs =
        other.observedAtMs := by
    intro groups known
    induction groups with
    | nil => exact fun other => rfl
    | cons group groups inductionHypothesis =>
      intro other
      rw [List.foldl_cons, inductionHypothesis fun later member =>
        known later (List.mem_cons_of_mem group member),
          removed group (known group List.mem_cons_self)]
  unfold Backtest.sanitizeDerivatives
  dsimp only
  rw [if_neg (not_lt.mpr seen)]
  split_ifs <;>
    exact congrArg some (folded _ (fun group member => (List.mem_filter.mp member).1) snapshot)

theorem getLast?_visible {snapshots : List Snapshot} {snapshot : Snapshot}
    (ordered : snapshots.Pairwise fun snapshot later => snapshot.observedAtMs < later.observedAtMs)
    (member : snapshot ∈ snapshots) :
    (snapshots.filter fun other => other.observedAtMs ≤ snapshot.observedAtMs).getLast? =
      some snapshot := by
  induction snapshots with
  | nil => exact absurd member List.not_mem_nil
  | cons first rest inductionHypothesis =>
    obtain ⟨before, orderedRest⟩ := List.pairwise_cons.mp ordered
    rcases List.mem_cons.mp member with rfl | inRest
    · rw [List.filter_cons, if_pos (decide_eq_true le_rfl), List.filter_eq_nil_iff.mpr]
      · rfl
      · intro later inRest
        simpa using before later inRest
    · rw [List.filter_cons, if_pos (decide_eq_true (before snapshot inRest).le), List.getLast?_cons,
        inductionHypothesis orderedRest inRest]
      rfl

def ReplaysAsCollected (records : List ForwardDerivativeRecord) : Prop :=
  (∀ record ∈ records, record.Stored) ∧
    ∀ record ∈ records, ∀ other ∈ records, record.symbol = other.symbol

theorem times_nodup (holds : collected.Holds)
    (oneSymbol : ∀ record ∈ collected.appended, ∀ other ∈ collected.appended,
      record.symbol = other.symbol) :
    (collected.appended.map fun record => record.observedAtMs).Nodup := by
  have keys : (collected.appended.map fun record => record.key).Nodup := by
    have distinct := collected.store.snapshots.nodupKeys
    rw [List.NodupKeys, List.keys, holds, List.map_reverse, List.map_map, List.nodup_reverse]
      at distinct
    exact distinct
  refine (List.nodup_map_iff_inj_on (List.Nodup.of_map _ keys)).mpr ?_
  intro record member other memberOther same
  exact List.inj_on_of_nodup_map keys member memberOther
    (Prod.ext (oneSymbol record member other memberOther) same)

theorem inOrder_strict (distinct : (records.map fun record => record.observedAtMs).Nodup) :
    (inOrder records).Pairwise fun record other => record.observedAtMs < other.observedAtMs := by
  have distinctInOrder :=
    ((inOrder_perm records).map fun record => record.observedAtMs).nodup_iff.mpr
    distinct
  exact (inOrder_pairwise records).imp₂ (fun _ _ le ne => lt_of_le_of_ne le ne)
    (List.pairwise_map.mp distinctInOrder)

theorem symbol_eq_of_shows {history : HistoricalDerivativeStore}
    (stored : ∀ record ∈ records, record.Stored)
    (distinct : (records.map fun record => record.observedAtMs).Nodup)
    (same : history.snapshots = (inOrder records).map fun record => record.snapshot)
    {record other : ForwardDerivativeRecord} (member : record ∈ records)
    (memberOther : other ∈ records) (earlier : record.observedAtMs < other.observedAtMs)
    (shows : history.snapshotAt other.observedAtMs {} false =
      (Backtest.sanitizeDerivatives (observedFor records record.symbol other.observedAtMs)
        other.observedAtMs {} false).1) : record.symbol = other.symbol := by
  have time : other.snapshot.observedAtMs = other.observedAtMs :=
    (stored other memberOther).2.2
  have shown : history.selected other.observedAtMs = some other.snapshot := by
    have inHistory : other.snapshot ∈ history.snapshots := by
      rw [same]
      exact List.mem_map_of_mem (mem_inOrder.mpr memberOther)
    rw [history.selected_eq, ← time]
    exact getLast?_visible history.ordered inHistory
  -- The symbol's last snapshot by then has the same time, so it is the later record's.
  have some_observed : ∃ snapshot, observedFor records record.symbol other.observedAtMs =
      some snapshot := by
    refine Option.ne_none_iff_exists'.mp fun absent => ?_
    have empty := List.filter_eq_nil_iff.mp (List.getLast?_eq_none_iff.mp absent)
      record.snapshot (List.mem_map_of_mem
        (List.mem_filter.mpr ⟨mem_inOrder.mpr member, decide_eq_true rfl⟩))
    have recordTime : record.snapshot.observedAtMs = record.observedAtMs :=
      (stored record member).2.2
    exact empty (decide_eq_true (recordTime ▸ earlier.le))
  obtain ⟨snapshot, observed⟩ := some_observed
  have inFiltered := List.mem_of_getLast? observed
  obtain ⟨inSymbol, seen⟩ := List.mem_filter.mp inFiltered
  obtain ⟨found, inRecords, rfl⟩ := List.mem_map.mp inSymbol
  obtain ⟨inOrdered, ofSymbol⟩ := List.mem_filter.mp inRecords
  have foundTime : found.snapshot.observedAtMs = found.observedAtMs :=
    (stored found (mem_inOrder.mp inOrdered)).2.2
  have times := congrArg (Option.map fun cleared : Snapshot => cleared.observedAtMs) shows
  unfold HistoricalDerivativeStore.snapshotAt at times
  rw [shown, observed, sanitized_observedAtMs time.le,
    sanitized_observedAtMs (of_decide_eq_true seen),
    time, foundTime, Option.some.injEq] at times
  obtain rfl := List.inj_on_of_nodup_map distinct memberOther (mem_inOrder.mp inOrdered) times
  exact (of_decide_eq_true ofSymbol).symm

theorem replays_iff (holds : collected.Holds) :
    Replays (exportedLines collected.store) collected.appended ↔
      ReplaysAsCollected collected.appended := by
  constructor
  · rintro ⟨history, read, same, shows⟩
    obtain ⟨distinct, rows⟩ := (fromCsv_eq_ok_iff holds).mp read
    have stored : ∀ record ∈ collected.appended, record.Stored := by
      intro record member
      have fields := rows.symm.trans same
      rw [List.map_inj_left] at fields
      exact (snapshot_row_eq_iff record).mp (fields record (mem_inOrder.mpr member))
    refine ⟨stored, fun record member other memberOther => ?_⟩
    rcases lt_trichotomy record.observedAtMs other.observedAtMs with earlier | equal | later
    · exact symbol_eq_of_shows stored distinct same member memberOther earlier
        (shows record member other.observedAtMs {} false)
    · rw [List.inj_on_of_nodup_map distinct member memberOther equal]
    · exact (symbol_eq_of_shows stored distinct same memberOther member later
        (shows other memberOther record.observedAtMs {} false)).symm
  · rintro ⟨stored, oneSymbol⟩
    have distinct := times_nodup holds oneSymbol
    have fields : (inOrder collected.appended).map (fun record =>
        record.row.snapshot record.observedAtMs) =
          (inOrder collected.appended).map fun record => record.snapshot :=
      List.map_congr_left fun record member =>
        (snapshot_row_eq_iff record).mpr (stored record (mem_inOrder.mp member))
    have ordered : ((inOrder collected.appended).map fun record =>
        record.row.snapshot record.observedAtMs).Pairwise fun snapshot later =>
          snapshot.observedAtMs < later.observedAtMs :=
      List.pairwise_map.mpr (inOrder_strict distinct)
    refine ⟨⟨_, ordered⟩, (fromCsv_eq_ok_iff holds).mpr ⟨distinct, rfl⟩, fields, ?_⟩
    intro record member timeMs config includeOrderBook
    have everything : (inOrder collected.appended).filter
        (fun other => other.symbol = record.symbol) = inOrder collected.appended :=
      List.filter_eq_self.mpr fun other inOrdered =>
        decide_eq_true (oneSymbol other (mem_inOrder.mp inOrdered) record member)
    unfold HistoricalDerivativeStore.snapshotAt observedFor
    rw [HistoricalDerivativeStore.selected_eq, everything, ← fields]
    rfl

theorem exported_file {digest : List Line → String} {path csvPath manifestPath : String}
    {store : ForwardStore} {files after : String → Option ExportFile}
    (exported : exportStore digest path store csvPath manifestPath files = .ok after) :
    after csvPath = some (.csv (exportedLines store)) := by
  unfold exportStore at exported
  dsimp only at exported
  split_ifs at exported with same foreign committed unread differs
  · obtain rfl := Except.ok.inj exported
    exact not_not.mp fun other => differs (.inr other)
  · obtain rfl := Except.ok.inj exported
    exact if_pos rfl

/-- After any run of appends, the exported file replays what was appended exactly when every
appended snapshot was stored whole and all are of one symbol. -/
theorem export_replays_iff (records : List ForwardDerivativeRecord) (digest : List Line → String)
    (path csvPath manifestPath : String) (files after : String → Option ExportFile)
    (exported : exportStore digest path (Collected.run records).store csvPath manifestPath files =
      .ok after) :
    (∃ lines, after csvPath = some (.csv lines) ∧
        Replays lines (Collected.run records).appended) ↔
      ReplaysAsCollected (Collected.run records).appended := by
  rw [exported_file exported, ← replays_iff (Collected.run_holds records)]
  constructor
  · rintro ⟨lines, same, replays⟩
    obtain rfl := ExportFile.csv.inj (Option.some.inj same)
    exact replays
  · exact fun replays => ⟨_, rfl, replays⟩

def markRecord (collectionId : String) (observedAtMs : ℤ) (nextFundingTimeMs : Option ℤ) :
    ForwardDerivativeRecord where
  symbol := "BTCUSDT"
  collectionId := collectionId
  collectionStartedAtMs := observedAtMs - 1000
  observedAtMs := observedAtMs
  collectorVersion := "0.3.14"
  snapshot := { observedAtMs, markPrice := some 100, nextFundingTimeMs }
  fieldAvailability := [("mark_price", true)]
  endpointErrors := []
  attemptedFields := ["mark_price"]
  payloadHash := "hash"
  triggerSource := "SCHEDULED"
  scheduledSlotMs := 0
  endpointTelemetry := []
  evidenceEpochId := none

/-- Three collections, of which the last observes the same as the first once more. -/
def markRecords : List ForwardDerivativeRecord :=
  [markRecord "run-1" 900000 none, markRecord "run-2" 1800000 none,
    markRecord "run-3" 900000 none]

theorem run_markRecords : (Collected.run markRecords).appended = markRecords.take 2 := rfl

theorem mark_replays : ∃ after, exportStore (fun _ => "digest") "forward.sqlite3"
    (Collected.run markRecords).store "derivatives.csv" "derivatives.csv.manifest.json"
    (fun _ => none) = .ok after ∧
      ∃ lines, after "derivatives.csv" = some (.csv lines) ∧
        Replays lines (Collected.run markRecords).appended := by
  have exported : exportStore (fun _ => "digest") "forward.sqlite3"
      (Collected.run markRecords).store "derivatives.csv" "derivatives.csv.manifest.json"
      (fun _ => none) = .ok _ := rfl
  refine ⟨_, exported, (export_replays_iff markRecords _ _ _ _ _ _ exported).mpr ?_⟩
  rw [run_markRecords]
  refine ⟨fun record member => ?_, fun record member other memberOther => ?_⟩
  · rcases List.mem_pair.mp member with rfl | rfl
    · exact ⟨rfl, rfl, rfl⟩
    · exact ⟨rfl, rfl, rfl⟩
  · rcases List.mem_pair.mp member with rfl | rfl <;>
      rcases List.mem_pair.mp memberOther with rfl | rfl <;> rfl

/-- The time of the next funding is not in the exported file. -/
theorem next_funding_lost : ¬ ∀ (records : List ForwardDerivativeRecord)
    (digest : List Line → String) (path csvPath manifestPath : String)
    (files after : String → Option ExportFile),
    exportStore digest path (Collected.run records).store csvPath manifestPath files = .ok after →
      ∃ lines, after csvPath = some (.csv lines) ∧
        Replays lines (Collected.run records).appended := by
  intro law
  obtain ⟨lines, same, replays⟩ := law [markRecord "run-1" 900000 (some 28800000)]
    (fun _ => "digest")
    "forward.sqlite3" "derivatives.csv" "derivatives.csv.manifest.json" (fun _ => none) _ rfl
  obtain rfl := ExportFile.csv.inj (Option.some.inj same)
  have stored := ((replays_iff (Collected.run_holds _)).mp replays).1
    (markRecord "run-1" 900000 (some 28800000)) List.mem_cons_self
  exact nomatch stored.2.1

end QuantAgent.Forward
