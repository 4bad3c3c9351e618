/-
This file follows a breakout from scan to scan: a scan selects one of the playbooks' candidates,
the gates make a plan of it, and the saved state keeps the breakout that awaits its retest.

The saved direction is taken from every plan with a decision, whatever its playbook, and a failed
breakout stays saved. In runs without such scans every retest follows the breakout it confirms.
-/

import QuantAgent.MarketWatch.Playbooks
import QuantAgent.MarketWatch.SignalLifecycle

namespace QuantAgent.MarketWatch

/-! ### One scan -/

structure ScanConfig where
  thresholds : Thresholds := {}
  minActionEntryQuality : EntryQuality := .good

/-- What a scan sees: the snapshot, its exhaustion and entry quality, and whether the benchmark
gate, the derivatives gate and the fatal vetoes let a decision pass. -/
structure SymbolScan where
  tf4h : TimeframeSnapshot
  tf1h : TimeframeSnapshot
  tf15m : TimeframeSnapshot
  derivatives : DerivativesMetrics := {}
  exhaustion : ExhaustionMetrics := {}
  entryQuality : EntryQuality
  passesGates : Bool
  barEnd_positive : 0 < tf15m.closedBarEndTimeMs := by decide

/-- The row of a symbol, with the columns that follow its signal and its breakout. -/
structure SymbolState where
  signal : SignalState
  breakoutState : BreakoutState
  breakoutBarEndMs : Option ℤ
  recentFailedBreakout : Option ℚ
  recentFailedBreakoutMs : Option ℤ
  recentFailedBreakdown : Option ℚ
  recentFailedBreakdownMs : Option ℤ

/-- What the playbooks read of the saved row; without a row they read nothing. -/
def SymbolState.memory : Option SymbolState → PlaybookMemory
  | none => {}
  | some row => ⟨row.breakoutState, row.signal.breakoutLevel, row.signal.breakoutDirection,
      row.breakoutBarEndMs, row.recentFailedBreakout, row.recentFailedBreakoutMs,
      row.recentFailedBreakdown, row.recentFailedBreakdownMs⟩

def EntryQuality.rank : EntryQuality → ℕ
  | excellent => 3
  | good => 2
  | marginal => 1
  | poor => 0

structure ScanRecord where
  barEndMs : ℤ
  candidates : List PlaybookCandidate
  selected : Option PlaybookCandidate
  lifecycleState : LifecycleState

structure SymbolWatch where
  saved : Option SymbolState := none
  rows : List ShadowRow := []
  records : List ScanRecord := []

section

variable (symbol : String) (config : ScanConfig) (saved : Option SymbolState) (scan : SymbolScan)

def SymbolScan.candidates : List PlaybookCandidate :=
  evaluateAllPlaybookCandidates scan.tf4h scan.tf1h scan.tf15m scan.derivatives scan.exhaustion
    config.thresholds (SymbolState.memory saved)

def SymbolScan.selected : Option PlaybookCandidate :=
  (selectPlaybookCandidate (scan.candidates config saved)).selected

def SymbolScan.rawDecision : DirectionalDecision :=
  if scan.entryQuality.rank < config.minActionEntryQuality.rank then .wait
  else (scan.selected config saved).elim .wait fun candidate => candidate.decision

def SymbolScan.signalInput : SignalInput where
  barEndMs := scan.tf15m.closedBarEndTimeMs
  barEnd_positive := scan.barEnd_positive
  rawDecision := scan.rawDecision config saved
  swingHigh1h := scan.tf1h.recentSwingHigh
  swingLow1h := scan.tf1h.recentSwingLow
  swingHigh4h := scan.tf4h.recentSwingHigh
  swingLow4h := scan.tf4h.recentSwingLow
  plan :=
    let decision := if scan.passesGates = true then scan.rawDecision config saved else .wait
    match scan.selected config saved with
    | none => {
        decision := decision, setup := .noTrade, entryQuality := scan.entryQuality
        entryLow := 0, entryHigh := 0, stopLoss := 0, takeProfit1 := 0 }
    | some candidate => {
        decision := decision
        setup := candidate.playbook
        entryQuality := scan.entryQuality
        entryLow := roundTo 4 candidate.entryLow
        entryHigh := roundTo 4 candidate.entryHigh
        stopLoss := roundTo 4 candidate.stopLoss
        takeProfit1 := roundTo 4 candidate.takeProfit1
        breakoutState := candidate.breakoutState
        breakoutLevel := candidate.breakoutLevel
        breakoutDirection := candidate.breakoutDirection }

def SymbolScan.assessment : SignalAssessment :=
  assessSignal symbol (saved.map fun row => row.signal) (scan.signalInput config saved)
    config.thresholds.maxSignalAgeBars

/-- `save_symbol_state`, as far as it follows the signal and the breakout. -/
def saveSymbolState : SymbolState :=
  let input := scan.signalInput config saved
  let assessment := scan.assessment symbol config saved
  let memory := SymbolState.memory saved
  let setup := input.plan.setup
  { signal := saveSignal symbol (saved.map fun row => row.signal) input assessment
    breakoutState :=
      if input.plan.breakoutState = .retestConfirmed ∨
        assessment.lifecycleState ∈ LifecycleState.ended then .none
      else if input.plan.breakoutState ≠ .none then input.plan.breakoutState
      else memory.breakoutState
    breakoutBarEndMs := ((scan.selected config saved).bind fun candidate =>
      candidate.breakoutBarEndMs).or memory.breakoutBarEndMs
    recentFailedBreakout := if setup = .failedBreakout then scan.tf1h.recentSwingHigh
      else memory.recentFailedBreakout
    recentFailedBreakoutMs := if setup = .failedBreakout then some input.barEndMs
      else memory.recentFailedBreakoutMs
    recentFailedBreakdown := if setup = .failedBreakdown then scan.tf1h.recentSwingLow
      else memory.recentFailedBreakdown
    recentFailedBreakdownMs := if setup = .failedBreakdown then some input.barEndMs
      else memory.recentFailedBreakdownMs }

end

def SymbolWatch.scan (symbol : String) (config : ScanConfig) (watch : SymbolWatch)
    (scan : SymbolScan) : SymbolWatch :=
  let assessment := scan.assessment symbol config watch.saved
  let row := saveSymbolState symbol config watch.saved scan
  let recorded := recordShadowObservationsIfNeeded row.signal watch.rows
    (scan.signalInput config watch.saved) assessment
  { saved := some { row with signal := recorded.1 }
    rows := recorded.2
    records := watch.records ++ [{
      barEndMs := scan.tf15m.closedBarEndTimeMs
      candidates := scan.candidates config watch.saved
      selected := scan.selected config watch.saved
      lifecycleState := assessment.lifecycleState }] }

/-! ### The sequence of a breakout and its retest -/

namespace ScanRecord

variable (record : ScanRecord)

def Confirms (level : ℚ) (direction : Direction) : Prop :=
  ∃ candidate ∈ record.selected, candidate.breakoutState = .breakoutConfirmed ∧
    candidate.breakoutLevel = some level ∧ candidate.breakoutDirection = some direction

def Retests (level : Option ℚ) (direction : Direction) : Prop :=
  ∃ candidate ∈ record.candidates, candidate.playbook = .breakoutRetest ∧
    candidate.decision = .of direction ∧ candidate.breakoutLevel = level

def Signals : Prop := ∃ candidate ∈ record.selected, candidate.breakoutState = .retestConfirmed

def failurePlaybook : Direction → Playbook
  | .long => .failedBreakout
  | .short => .failedBreakdown

def Fails (level : ℚ) (direction : Direction) : Prop :=
  ∃ candidate ∈ record.selected, candidate.playbook = failurePlaybook direction ∧
    candidate.failedLevel = some level

/-- The scan replaced, failed, invalidated or already retested the breakout. -/
def Ends (level : ℚ) (direction : Direction) : Prop :=
  (∃ candidate ∈ record.selected, candidate.breakoutState ≠ .none) ∨
    record.Fails level direction ∨ record.lifecycleState ∈ LifecycleState.ended

end ScanRecord

def StandsUntil (records : List ScanRecord) (place index : ℕ) (level : ℚ) (direction : Direction)
    (confirmed : ScanRecord) : Prop :=
  records[place]? = some confirmed ∧ confirmed.Confirms level direction ∧
    ∀ between record, place < between → between < index → records[between]? = some record →
      ¬ record.Ends level direction

/-- Every retest comes after the breakout it confirms, in a later bar and soon enough. -/
def EachRetestFollows (maxRetestBars : ℤ) (records : List ScanRecord) : Prop :=
  ∀ index record level direction, records[index]? = some record →
    record.Retests level direction → ∃ place held confirmed, place < index ∧ level = some held ∧
      StandsUntil records place index held direction confirmed ∧
      confirmed.barEndMs < record.barEndMs ∧
      (record.barEndMs - confirmed.barEndMs) / quarterMs ≤ maxRetestBars

/-- As long as no other breakout is selected, a breakout yields such records in one closed bar at
most. -/
def OneBarEach (yields : ScanRecord → Prop) (records : List ScanRecord) : Prop :=
  ∀ (place first second : ℕ) (confirmed early late : ScanRecord) level direction,
    place < first → first < second →
    records[place]? = some confirmed → confirmed.Confirms level direction →
    records[first]? = some early → yields early → records[second]? = some late → yields late →
    (∀ between (record : ScanRecord), place < between → between < second →
      records[between]? = some record → ∀ other side, ¬ record.Confirms other side) →
    early.barEndMs = late.barEndMs

/-- What is promised of the breakouts of a symbol, in the order of its scans. -/
structure SymbolWatch.StrictlySequential (maxRetestBars : ℤ) (watch : SymbolWatch) : Prop where
  follows : EachRetestFollows maxRetestBars watch.records
  signals_once : OneBarEach ScanRecord.Signals watch.records
  emitted_once : (∀ record ∈ watch.records, ∀ level direction,
    record.Retests level direction → record.Signals) →
      OneBarEach (fun record => ∃ level direction, record.Retests level direction) watch.records

def SymbolWatch.Disturbs (symbol : String) (config : ScanConfig) (watch : SymbolWatch)
    (scan : SymbolScan) : Prop :=
  ∃ pending ∈ (SymbolState.memory watch.saved).pending,
    (scan.assessment symbol config watch.saved).lifecycleState ∉ LifecycleState.ended ∧
    ∃ candidate ∈ scan.selected config watch.saved,
      (candidate.playbook ≠ .breakoutRetest ∧
        ∃ direction ∈ (scan.signalInput config watch.saved).plan.decision.direction,
          direction ≠ pending.direction) ∨
      (candidate.playbook = ScanRecord.failurePlaybook pending.direction ∧
        candidate.failedLevel = some pending.level)

/-! ### What the candidates are -/

def PlaybookCandidate.Silent (candidate : PlaybookCandidate) : Prop :=
  candidate.playbook ≠ .breakoutRetest ∧ candidate.breakoutState = .none ∧
    candidate.breakoutLevel = none ∧ candidate.breakoutDirection = none ∧
    candidate.breakoutBarEndMs = none

structure PlaybookCandidate.RetestOf (candidate : PlaybookCandidate) (pending : PendingBreakout) :
    Prop where
  playbook : candidate.playbook = .breakoutRetest
  state : candidate.breakoutState = .retestConfirmed
  decision : candidate.decision = .of pending.direction
  level : candidate.breakoutLevel = some pending.level

structure PlaybookCandidate.Breaks (candidate : PlaybookCandidate) (breakout : PendingBreakout) :
    Prop where
  decision : candidate.decision = .wait
  state : candidate.breakoutState = .breakoutConfirmed
  level : candidate.breakoutLevel = some breakout.level
  direction : candidate.breakoutDirection = some breakout.direction
  barEnd : candidate.breakoutBarEndMs = some breakout.barEndMs

variable {direction : Direction}

section

variable {tf4h tf1h tf15m : TimeframeSnapshot} {derivatives : DerivativesMetrics}
  {exhaustion : ExhaustionMetrics} {thresholds : Thresholds} {memory : PlaybookMemory}
  {dict : CandidateDict} {candidate : PlaybookCandidate} {fallback : ℤ}

theorem longPullback_silent (found : longPullback tf1h tf15m derivatives thresholds = some dict) :
    (candidateDictToCandidate dict fallback).Silent := by
  obtain ⟨-, dict_eq⟩ := Option.ite_none_right_eq_some.mp found
  obtain rfl := Option.some.inj dict_eq
  exact ⟨(nofun), rfl, rfl, rfl, rfl⟩

theorem shortPullback_silent (found : shortPullback tf1h tf15m derivatives thresholds = some dict) :
    (candidateDictToCandidate dict fallback).Silent := by
  obtain ⟨-, dict_eq⟩ := Option.ite_none_right_eq_some.mp found
  obtain rfl := Option.some.inj dict_eq
  exact ⟨(nofun), rfl, rfl, rfl, rfl⟩

theorem evaluateTrendPullback_silent
    (found : evaluateTrendPullback tf4h tf1h tf15m derivatives exhaustion thresholds =
      some dict) : (candidateDictToCandidate dict fallback).Silent := by
  unfold evaluateTrendPullback at found
  split_ifs at found
  · exact longPullback_silent found
  · exact shortPullback_silent found

theorem evaluateVolatilityExpansion_silent
    (found : evaluateVolatilityExpansion tf1h tf15m exhaustion = some dict) :
    (candidateDictToCandidate dict fallback).Silent := by
  simp only [evaluateVolatilityExpansion] at found
  split_ifs at found <;> obtain rfl := Option.some.inj found <;>
    exact ⟨(nofun), rfl, rfl, rfl, rfl⟩

theorem evaluateFailedBreakout_spec
    (found : evaluateFailedBreakout tf1h tf15m derivatives = some dict) :
    (candidateDictToCandidate dict fallback).Silent ∧
      (candidateDictToCandidate dict fallback).decision = .wait := by
  obtain bullish | ⟨-, bearish⟩ := Option.or_eq_some_iff.mp found
  · obtain ⟨level, -, rest⟩ := Option.bind_eq_some_iff.mp bullish
    obtain ⟨-, -, rest⟩ := Option.bind_eq_some_iff.mp rest
    obtain rfl := Option.some.inj rest
    exact ⟨⟨(nofun), rfl, rfl, rfl, rfl⟩, rfl⟩
  · obtain ⟨level, -, rest⟩ := Option.bind_eq_some_iff.mp bearish
    obtain ⟨-, -, rest⟩ := Option.bind_eq_some_iff.mp rest
    obtain rfl := Option.some.inj rest
    exact ⟨⟨(nofun), rfl, rfl, rfl, rfl⟩, rfl⟩

theorem evaluateRetest_spec
    (found : evaluateRetest tf15m derivatives exhaustion thresholds memory = some dict) :
    ∃ pending, memory.pending = some pending ∧ pending.barEndMs < tf15m.closedBarEndTimeMs ∧
      barsElapsed tf15m.closedBarEndTimeMs pending.barEndMs ≤ thresholds.maxRetestBars ∧
      (candidateDictToCandidate dict fallback).RetestOf pending := by
  unfold evaluateRetest at found
  split at found
  · cases found
  · next pending held =>
    split_ifs at found with ready
    obtain rfl := Option.some.inj found
    exact ⟨pending, held, ready.1, ready.2.1, rfl, rfl, rfl, rfl⟩

theorem evaluateNewBreakout_spec
    (found : evaluateNewBreakout tf1h tf15m derivatives exhaustion thresholds memory direction =
      some dict) :
    ∃ level, (candidateDictToCandidate dict fallback).Breaks
      ⟨level, direction, tf15m.closedBarEndTimeMs⟩ := by
  unfold evaluateNewBreakout at found
  split at found
  · cases found
  · next level _ =>
    obtain ⟨-, dict_eq⟩ := Option.ite_none_right_eq_some.mp found
    obtain rfl := Option.some.inj dict_eq
    exact ⟨level, rfl, rfl, rfl, rfl, rfl⟩

theorem candidate_cases
    (member : candidate ∈ evaluateAllPlaybookCandidates tf4h tf1h tf15m derivatives exhaustion
      thresholds memory) :
    candidate.Silent ∨
    (∃ pending, memory.pending = some pending ∧ pending.barEndMs < tf15m.closedBarEndTimeMs ∧
      barsElapsed tf15m.closedBarEndTimeMs pending.barEndMs ≤ thresholds.maxRetestBars ∧
      candidate.RetestOf pending) ∨
    ∃ level direction, candidate.Breaks ⟨level, direction, tf15m.closedBarEndTimeMs⟩ := by
  obtain ⟨dict, listed, rfl⟩ := List.mem_map.mp member
  obtain ⟨found, among, rfl⟩ := List.mem_filterMap.mp listed
  simp only [List.mem_cons, List.not_mem_nil, or_false] at among
  obtain pullback | breakout | failed | expansion := among
  · exact .inl (evaluateTrendPullback_silent pullback.symm)
  · obtain retest | ⟨-, new⟩ := Option.or_eq_some_iff.mp breakout.symm
    · exact .inr (.inl (evaluateRetest_spec retest))
    · obtain long | ⟨-, short⟩ := Option.or_eq_some_iff.mp new
      · exact .inr (.inr ((evaluateNewBreakout_spec long).imp fun _ breaks => ⟨_, breaks⟩))
      · exact .inr (.inr ((evaluateNewBreakout_spec short).imp fun _ breaks => ⟨_, breaks⟩))
  · exact .inl (evaluateFailedBreakout_spec failed.symm).1
  · exact .inl (evaluateVolatilityExpansion_silent expansion.symm)

theorem selected_mem {candidates : List PlaybookCandidate}
    (selected : (selectPlaybookCandidate candidates).selected = some candidate) :
    candidate ∈ candidates := by
  obtain ⟨playbook, -, found⟩ := List.exists_of_findSome?_eq_some selected
  exact (List.mem_filter.mp (List.mem_of_getLast? found)).1

end

/-! ### Records that follow one another -/

section

variable {records : List ScanRecord} {record : ScanRecord} {maxRetestBars : ℤ}

theorem StandsUntil.append {place index : ℕ} {level : ℚ}
    {confirmed : ScanRecord} (stands : StandsUntil records place index level direction confirmed)
    (within : index ≤ records.length) (more : List ScanRecord) :
    StandsUntil (records ++ more) place index level direction confirmed := by
  obtain ⟨held, confirms, open'⟩ := stands
  have placed : place < records.length := (List.getElem?_eq_some_iff.mp held).1
  refine ⟨by rw [List.getElem?_append_left placed, held], confirms, ?_⟩
  intro between other after before found
  rw [List.getElem?_append_left (before.trans_le within)] at found
  exact open' between other after before found

theorem getElem?_concat_cases {index : ℕ} {other : ScanRecord}
    (found : (records ++ [record])[index]? = some other) :
    (index < records.length ∧ records[index]? = some other) ∨
      (index = records.length ∧ other = record) := by
  obtain before | after := Nat.lt_or_ge index records.length
  · exact .inl ⟨before, List.getElem?_append_left before ▸ found⟩
  · rw [List.getElem?_append_right after, List.getElem?_singleton] at found
    obtain ⟨only, equal⟩ := Option.ite_none_right_eq_some.mp found
    exact .inr ⟨by omega, (Option.some.inj equal).symm⟩

theorem EachRetestFollows.append (follows : EachRetestFollows maxRetestBars records)
    (record : ScanRecord) (new : ∀ level direction, record.Retests level direction →
      ∃ place held confirmed, level = some held ∧
        StandsUntil records place records.length held direction confirmed ∧
        confirmed.barEndMs < record.barEndMs ∧
        (record.barEndMs - confirmed.barEndMs) / quarterMs ≤ maxRetestBars) :
    EachRetestFollows maxRetestBars (records ++ [record]) := by
  intro index other level direction found retests
  obtain ⟨within, earlier⟩ | ⟨rfl, rfl⟩ := getElem?_concat_cases found
  · obtain ⟨place, held, confirmed, before, level_eq, stands, later, soon⟩ :=
      follows index other level direction earlier retests
    exact ⟨place, held, confirmed, before, level_eq, stands.append within.le _, later, soon⟩
  · obtain ⟨place, held, confirmed, level_eq, stands, later, soon⟩ := new level direction retests
    have placed : place < records.length := (List.getElem?_eq_some_iff.mp stands.1).1
    exact ⟨place, held, confirmed, placed, level_eq, stands.append le_rfl _, later, soon⟩

theorem EachRetestFollows.oneBarEach (follows : EachRetestFollows maxRetestBars records)
    {yields : ScanRecord → Prop} (signals : ∀ record ∈ records, yields record → record.Signals)
    (retests : ∀ record ∈ records, yields record → ∃ level direction,
      record.Retests level direction) : OneBarEach yields records := by
  intro place first second confirmed early late level direction placeFirst firstSecond _ _
    foundEarly yieldsEarly foundLate yieldsLate unreplaced
  obtain ⟨_, side, retest⟩ := retests late (List.mem_of_getElem? foundLate) yieldsLate
  obtain ⟨own, held, origin, before, -, ⟨foundOrigin, confirms, stands⟩, -, -⟩ :=
    follows second late _ side foundLate retest
  obtain ⟨candidate, selected, retested⟩ :=
    signals early (List.mem_of_getElem? foundEarly) yieldsEarly
  obtain earlier | rfl | later := Nat.lt_trichotomy own first
  · refine absurd (.inl ⟨candidate, selected, ?_⟩)
      (stands first early earlier firstSecond foundEarly)
    rw [retested]
    exact nofun
  · obtain rfl := Option.some.inj (foundOrigin.symm.trans foundEarly)
    obtain ⟨other, alsoSelected, breaks, -⟩ := confirms
    obtain rfl := Option.mem_unique selected alsoSelected
    exact absurd (retested.symm.trans breaks) nofun
  · exact absurd confirms (unreplaced own origin (placeFirst.trans later) before foundOrigin _ _)

end

/-! ### One step -/

section

variable {symbol : String} {config : ScanConfig} {watch : SymbolWatch} {scan : SymbolScan}

abbrev SymbolWatch.memoryAfter (symbol : String) (config : ScanConfig) (watch : SymbolWatch)
    (scan : SymbolScan) : PlaybookMemory :=
  SymbolState.memory (watch.scan symbol config scan).saved

theorem PlaybookMemory.pending_eq_some {memory : PlaybookMemory} {pending : PendingBreakout} :
    memory.pending = some pending ↔ memory.breakoutState = .breakoutConfirmed ∧
      memory.breakoutLevel = some pending.level ∧
      memory.breakoutDirection = some pending.direction ∧
      memory.breakoutBarEndMs = some pending.barEndMs := by
  obtain ⟨level, direction, barEndMs⟩ := pending
  unfold PlaybookMemory.pending
  split
  · next state level' direction' barEnd' =>
    simp [state, level', direction', barEnd']
  · next other =>
    refine ⟨nofun, fun ⟨state, level', direction', barEnd'⟩ => ?_⟩
    exact absurd barEnd' (other level direction barEndMs state level' direction')

theorem memoryAfter_eq : watch.memoryAfter symbol config scan =
    SymbolState.memory (some (saveSymbolState symbol config watch.saved scan)) := by
  obtain ⟨armed, triggered, row_eq⟩ := @record_row (scan.signalInput config watch.saved)
    (saveSymbolState symbol config watch.saved scan).signal
    (scan.assessment symbol config watch.saved) watch.rows
  show SymbolState.memory (some { saveSymbolState symbol config watch.saved scan with
    signal := _ }) = _
  rw [row_eq]
  rfl

theorem memoryAfter_level : (watch.memoryAfter symbol config scan).breakoutLevel =
    (scan.signalInput config watch.saved).plan.breakoutLevel.or
      (SymbolState.memory watch.saved).breakoutLevel := by
  rw [memoryAfter_eq]
  cases watch.saved <;> rfl

theorem memoryAfter_direction : (watch.memoryAfter symbol config scan).breakoutDirection =
    ((scan.signalInput config watch.saved).plan.breakoutDirection.or
      (scan.signalInput config watch.saved).plan.decision.direction).or
        (SymbolState.memory watch.saved).breakoutDirection := by
  rw [memoryAfter_eq]
  cases watch.saved <;> rfl

theorem memoryAfter_barEnd : (watch.memoryAfter symbol config scan).breakoutBarEndMs =
    ((scan.selected config watch.saved).bind fun candidate => candidate.breakoutBarEndMs).or
      (SymbolState.memory watch.saved).breakoutBarEndMs := by
  rw [memoryAfter_eq]
  rfl

theorem memoryAfter_state : (watch.memoryAfter symbol config scan).breakoutState =
    if (scan.signalInput config watch.saved).plan.breakoutState = .retestConfirmed ∨
      (scan.assessment symbol config watch.saved).lifecycleState ∈ LifecycleState.ended then .none
    else if (scan.signalInput config watch.saved).plan.breakoutState ≠ .none then
      (scan.signalInput config watch.saved).plan.breakoutState
    else (SymbolState.memory watch.saved).breakoutState := by
  rw [memoryAfter_eq]
  rfl

structure SymbolScan.Plans (config : ScanConfig) (saved : Option SymbolState) (scan : SymbolScan)
    (state : BreakoutState) (level : Option ℚ) (direction : Option Direction)
    (barEndMs : Option ℤ) : Prop where
  state_eq : (scan.signalInput config saved).plan.breakoutState = state
  level_eq : (scan.signalInput config saved).plan.breakoutLevel = level
  direction_eq : (scan.signalInput config saved).plan.breakoutDirection = direction
  barEnd_eq : ((scan.selected config saved).bind fun candidate =>
    candidate.breakoutBarEndMs) = barEndMs

variable {saved : Option SymbolState}

theorem plans_selected {candidate : PlaybookCandidate}
    (selected : scan.selected config saved = some candidate) :
    scan.Plans config saved candidate.breakoutState candidate.breakoutLevel
      candidate.breakoutDirection candidate.breakoutBarEndMs := by
  constructor <;> simp only [SymbolScan.signalInput, selected, Option.bind_some]

theorem plans_none (selected : scan.selected config saved = none) :
    scan.Plans config saved .none none none none := by
  constructor <;> simp only [SymbolScan.signalInput, selected, Option.bind_none]

theorem selected_of_decision
    (decided : (scan.signalInput config saved).plan.decision.direction = some direction) :
    ∃ candidate, scan.selected config saved = some candidate := by
  cases selected : scan.selected config saved with
  | some candidate => exact ⟨candidate, rfl⟩
  | none =>
    have waits : (scan.signalInput config saved).plan.decision = .wait := by
      simp only [SymbolScan.signalInput, SymbolScan.rawDecision, selected, Option.elim_none,
        ite_self]
    rw [waits] at decided
    exact absurd decided nofun

theorem selected_cases (config : ScanConfig) (saved : Option SymbolState) (scan : SymbolScan) :
    ((∀ candidate ∈ scan.selected config saved, candidate.Silent) ∧
      scan.Plans config saved .none none none none) ∨
    (∃ pending candidate, scan.selected config saved = some candidate ∧
      candidate.RetestOf pending) ∨
    ∃ breakout candidate, scan.selected config saved = some candidate ∧
      candidate.Breaks breakout ∧ breakout.barEndMs = scan.tf15m.closedBarEndTimeMs := by
  cases selected : scan.selected config saved with
  | none => exact .inl ⟨fun _ member => absurd member (Option.not_mem_none _), plans_none selected⟩
  | some candidate =>
    obtain silent | ⟨pending, -, -, -, retest⟩ | ⟨level, direction, breaks⟩ :=
      candidate_cases (selected_mem selected)
    · have plans := plans_selected selected
      obtain ⟨-, state, level, direction, barEnd⟩ := id silent
      rw [state, level, direction, barEnd] at plans
      exact .inl ⟨fun _ member => Option.mem_some_iff.mp member ▸ silent, plans⟩
    · exact .inr (.inl ⟨pending, candidate, rfl, retest⟩)
    · exact .inr (.inr ⟨_, candidate, rfl, breaks, rfl⟩)

/-- A saved breakout is complete, and no retest is saved. -/
def PlaybookMemory.Whole (memory : PlaybookMemory) : Prop :=
  memory.breakoutState ≠ .none → ∃ pending, memory.pending = some pending

theorem memoryAfter_cases (symbol : String) (scan : SymbolScan)
    (whole : (SymbolState.memory watch.saved).Whole) :
    (watch.memoryAfter symbol config scan).breakoutState = .none ∨
    ((scan.assessment symbol config watch.saved).lifecycleState ∉ LifecycleState.ended ∧
      (∀ candidate ∈ scan.selected config watch.saved, candidate.Silent) ∧
      ∃ pending, (SymbolState.memory watch.saved).pending = some pending ∧
        (watch.memoryAfter symbol config scan).pending = some ⟨pending.level,
          (scan.signalInput config watch.saved).plan.decision.direction.getD pending.direction,
          pending.barEndMs⟩) ∨
    ∃ breakout candidate, scan.selected config watch.saved = some candidate ∧
      candidate.Breaks breakout ∧ breakout.barEndMs = scan.tf15m.closedBarEndTimeMs ∧
      (watch.memoryAfter symbol config scan).pending = some breakout := by
  by_cases ended :
      (scan.assessment symbol config watch.saved).lifecycleState ∈ LifecycleState.ended
  · exact .inl (by rw [memoryAfter_state, if_pos (.inr ended)])
  obtain ⟨silent, plans⟩ | ⟨_, candidate, selected, retest⟩ |
    ⟨breakout, candidate, selected, breaks, barEnd⟩ := selected_cases config watch.saved scan
  · by_cases idle : (SymbolState.memory watch.saved).breakoutState = .none
    · left
      rw [memoryAfter_state, plans.state_eq, if_neg (by simp [ended]), if_neg (by simp), idle]
    · obtain ⟨pending, held⟩ := whole idle
      obtain ⟨state, level, direction, barEndMs⟩ := PlaybookMemory.pending_eq_some.mp held
      refine .inr (.inl ⟨ended, silent, pending, held, PlaybookMemory.pending_eq_some.mpr
        ⟨?_, ?_, ?_, ?_⟩⟩)
      · rw [memoryAfter_state, plans.state_eq, if_neg (by simp [ended]), if_neg (by simp), state]
      · rw [memoryAfter_level, plans.level_eq, level, Option.none_or]
      · rw [memoryAfter_direction, plans.direction_eq, direction, Option.none_or]
        cases (scan.signalInput config watch.saved).plan.decision.direction <;> rfl
      · rw [memoryAfter_barEnd, plans.barEnd_eq, barEndMs, Option.none_or]
  · left
    rw [memoryAfter_state, (plans_selected selected).state_eq, if_pos (.inl retest.state)]
  · have plans := plans_selected selected
    refine .inr (.inr ⟨breakout, candidate, selected, breaks, barEnd,
      PlaybookMemory.pending_eq_some.mpr ⟨?_, ?_, ?_, ?_⟩⟩)
    · rw [memoryAfter_state, plans.state_eq, breaks.state, if_neg (by simp [ended]),
        if_pos (by simp)]
    · rw [memoryAfter_level, plans.level_eq, breaks.level, Option.some_or]
    · rw [memoryAfter_direction, plans.direction_eq, breaks.direction, Option.some_or,
        Option.some_or]
    · rw [memoryAfter_barEnd, plans.barEnd_eq, breaks.barEnd, Option.some_or]

/-! ### Runs -/

/-- What holds throughout a run whose scans disturb no pending breakout. -/
structure SymbolWatch.Sequential (maxRetestBars : ℤ) (watch : SymbolWatch) : Prop where
  whole : (SymbolState.memory watch.saved).Whole
  stands : ∀ pending, (SymbolState.memory watch.saved).pending = some pending →
    ∃ place confirmed, StandsUntil watch.records place watch.records.length pending.level
      pending.direction confirmed ∧ confirmed.barEndMs = pending.barEndMs
  follows : EachRetestFollows maxRetestBars watch.records
  shown : ∀ record ∈ watch.records, record.Signals →
    ∃ level direction, record.Retests level direction

theorem SymbolWatch.Sequential.start {maxRetestBars : ℤ} :
    SymbolWatch.Sequential maxRetestBars {} where
  whole active := absurd rfl active
  stands _ held := absurd held nofun
  follows _ _ _ _ found := absurd found nofun
  shown _ member := absurd member List.not_mem_nil

def SymbolScan.record (symbol : String) (config : ScanConfig) (saved : Option SymbolState)
    (scan : SymbolScan) : ScanRecord where
  barEndMs := scan.tf15m.closedBarEndTimeMs
  candidates := scan.candidates config saved
  selected := scan.selected config saved
  lifecycleState := (scan.assessment symbol config saved).lifecycleState

theorem DirectionalDecision.of_injective : Function.Injective DirectionalDecision.of := by
  intro first second equal
  cases first <;> cases second <;> first | rfl | exact absurd equal nofun

theorem record_retests {level : Option ℚ}
    (retests : (scan.record symbol config saved).Retests level direction) :
    ∃ pending, (SymbolState.memory saved).pending = some pending ∧ level = some pending.level ∧
      direction = pending.direction ∧ pending.barEndMs < scan.tf15m.closedBarEndTimeMs ∧
      (scan.tf15m.closedBarEndTimeMs - pending.barEndMs) / quarterMs ≤
        config.thresholds.maxRetestBars := by
  obtain ⟨candidate, member, playbook, decision, level_eq⟩ := retests
  obtain silent | ⟨pending, held, later, soon, retest⟩ | ⟨_, _, breaks⟩ := candidate_cases member
  · exact absurd playbook silent.1
  · exact ⟨pending, held, level_eq.symm.trans retest.level,
      DirectionalDecision.of_injective (decision.symm.trans retest.decision), later,
      (le_max_right _ _).trans soon⟩
  · rw [breaks.decision] at decision
    cases direction <;> exact absurd decision nofun

theorem SymbolWatch.Sequential.stands_after
    (sequential : watch.Sequential config.thresholds.maxRetestBars)
    (calm : ¬ watch.Disturbs symbol config scan) (pending : PendingBreakout)
    (held : (watch.memoryAfter symbol config scan).pending = some pending) :
    ∃ place confirmed, StandsUntil (watch.scan symbol config scan).records place
      (watch.scan symbol config scan).records.length pending.level pending.direction confirmed ∧
        confirmed.barEndMs = pending.barEndMs := by
  show ∃ place confirmed, StandsUntil (watch.records ++ [scan.record symbol config watch.saved])
    place (watch.records ++ [scan.record symbol config watch.saved]).length _ _ _ ∧ _
  rw [List.length_append, List.length_singleton]
  obtain idle | ⟨alive, silent, before, heldBefore, after⟩ | ⟨breakout, candidate, selected, breaks,
    barEnd, after⟩ := memoryAfter_cases symbol scan sequential.whole
  · rw [PlaybookMemory.pending_eq_some, idle] at held
    exact absurd held.1 nofun
  · have kept : (scan.signalInput config watch.saved).plan.decision.direction.getD
        before.direction = before.direction := by
      cases decided : (scan.signalInput config watch.saved).plan.decision.direction with
      | none => rfl
      | some direction =>
        obtain ⟨candidate, selected⟩ := selected_of_decision decided
        by_contra other
        exact calm ⟨before, heldBefore, alive, candidate, selected,
          .inl ⟨(silent candidate selected).1, direction, decided, other⟩⟩
    rw [kept, held] at after
    obtain rfl := Option.some.inj after
    obtain ⟨place, confirmed, stands, barEnd⟩ := sequential.stands before heldBefore
    refine ⟨place, confirmed, ⟨(stands.append le_rfl _).1, stands.2.1, ?_⟩, barEnd⟩
    intro between record later earlier found
    obtain ⟨within, old⟩ | ⟨-, rfl⟩ := getElem?_concat_cases found
    · exact stands.2.2 between record later within old
    · rintro (⟨candidate, selected, names⟩ | ⟨candidate, selected, failed⟩ | ended)
      · exact names (silent candidate selected).2.1
      · exact calm ⟨before, heldBefore, alive, candidate, selected, .inr failed⟩
      · exact alive ended
  · rw [held] at after
    obtain rfl := Option.some.inj after
    refine ⟨watch.records.length, scan.record symbol config watch.saved, ⟨by simp, ?_, ?_⟩,
      barEnd.symm⟩
    · exact ⟨candidate, selected, breaks.state, breaks.level, breaks.direction⟩
    · intro between _ later earlier
      omega

theorem SymbolWatch.Sequential.step (sequential : watch.Sequential config.thresholds.maxRetestBars)
    (calm : ¬ watch.Disturbs symbol config scan) :
    (watch.scan symbol config scan).Sequential config.thresholds.maxRetestBars where
  whole active := by
    obtain idle | ⟨-, -, _, -, after⟩ | ⟨_, _, -, -, -, after⟩ :=
      memoryAfter_cases symbol scan sequential.whole
    · exact absurd idle active
    · exact ⟨_, after⟩
    · exact ⟨_, after⟩
  stands := sequential.stands_after calm
  follows := by
    refine sequential.follows.append (scan.record symbol config watch.saved) ?_
    intro level direction retests
    obtain ⟨pending, held, rfl, rfl, later, soon⟩ := record_retests retests
    obtain ⟨place, confirmed, stands, barEnd⟩ := sequential.stands pending held
    exact ⟨place, pending.level, confirmed, rfl, stands, barEnd ▸ later, barEnd ▸ soon⟩
  shown record member signals := by
    obtain earlier | alone := List.mem_append.mp member
    · exact sequential.shown record earlier signals
    · obtain rfl := List.mem_singleton.mp alone
      obtain ⟨candidate, selected, state⟩ := signals
      have listed := selected_mem selected
      obtain silent | ⟨pending, -, -, -, retest⟩ | ⟨_, _, breaks⟩ := candidate_cases listed
      · exact absurd (silent.2.1.symm.trans state) nofun
      · exact ⟨_, pending.direction, candidate, listed, retest.playbook, retest.decision, rfl⟩
      · exact absurd (breaks.state.symm.trans state) nofun

theorem SymbolWatch.Sequential.strictlySequential {maxRetestBars : ℤ}
    (sequential : watch.Sequential maxRetestBars) :
    watch.StrictlySequential maxRetestBars where
  follows := sequential.follows
  signals_once := sequential.follows.oneBarEach (fun _ _ => id) sequential.shown
  emitted_once selected := sequential.follows.oneBarEach
    (fun record member ⟨level, direction, retests⟩ =>
      selected record member level direction retests) fun _ _ => id

/-- In every run whose scans disturb no pending breakout, each retest follows the breakout it
confirms, in a later bar and soon enough, and a breakout yields signals in one bar at most. -/
theorem breakouts_strictlySequential (scans : List SymbolScan)
    (calm : Runs.Each (SymbolWatch.scan symbol config)
      (fun watch scan => ¬ watch.Disturbs symbol config scan) {} scans) :
    Runs.Throughout (SymbolWatch.scan symbol config)
      (SymbolWatch.StrictlySequential config.thresholds.maxRetestBars) {} scans :=
  have sequential : Runs.Throughout _
      (SymbolWatch.Sequential config.thresholds.maxRetestBars) {} scans :=
    Runs.throughout_of_each (fun _ _ sequential calm => sequential.step calm) .start calm
  sequential.mono fun _ sequential => sequential.strictlySequential

end

/-! ### Scans -/

instance (symbol : String) (config : ScanConfig) (watch : SymbolWatch) (scan : SymbolScan) :
    Decidable (watch.Disturbs symbol config scan) :=
  have (plan : DirectionalPlan) (direction : Direction) :
      Decidable (∃ other ∈ plan.decision.direction, other ≠ direction) :=
    inferInstanceAs (Decidable (∃ _ ∈ _, _))
  have (pending : PendingBreakout) : Decidable (∃ candidate ∈ scan.selected config watch.saved,
      (candidate.playbook ≠ .breakoutRetest ∧
        ∃ direction ∈ (scan.signalInput config watch.saved).plan.decision.direction,
          direction ≠ pending.direction) ∨
      (candidate.playbook = ScanRecord.failurePlaybook pending.direction ∧
        candidate.failedLevel = some pending.level)) :=
    inferInstanceAs (Decidable (∃ _ ∈ _, _))
  inferInstanceAs (Decidable (∃ _ ∈ _, _))

instance (record : ScanRecord) (level : ℚ) (direction : Direction) :
    Decidable (record.Confirms level direction) := inferInstanceAs (Decidable (∃ _ ∈ _, _))

instance (record : ScanRecord) (level : Option ℚ) (direction : Direction) :
    Decidable (record.Retests level direction) := inferInstanceAs (Decidable (∃ _ ∈ _, _))

/-- A timeframe whose last closed bar is the given one, over an average range of one. -/
def timeframe (bar : ℕ) (openPrice high low close : ℚ) (regime : Regime)
    (bounds : low ≤ min openPrice close ∧ max openPrice close ≤ high := by decide +kernel) :
    TimeframeSnapshot where
  latestClosedBar := ⟨"SOLUSDT", "15m", 1699999200000 + bar * quarterMs,
    1700000099999 + bar * quarterMs, openPrice, high, low, close, 10, 1000,
    by omega, bounds.1, bounds.2, by decide +kernel⟩
  closedBarEndTimeMs := 1700000099999 + bar * quarterMs
  close := close
  emaFast := 100
  emaMid := 100
  atr := 1
  atrPercentile := 1 / 2
  adx := 20
  recentSwingHigh := some (1003 / 10)
  resistances := [100]
  regime := regime

def symbolScan (bar : ℕ) (openPrice high low close : ℚ) (regime : Regime)
    (bounds : low ≤ min openPrice close ∧ max openPrice close ≤ high := by decide +kernel) :
    SymbolScan where
  tf4h := timeframe bar openPrice high low close regime bounds
  tf1h := timeframe bar openPrice high low close regime bounds
  tf15m := timeframe bar openPrice high low close regime bounds
  entryQuality := .good
  passesGates := true
  barEnd_positive := by simp only [timeframe, quarterMs]; omega

/-- A breakout above the resistance and its retest in the next bar. -/
theorem breakout_and_retest_sequential :
    Runs.Throughout (SymbolWatch.scan "SOLUSDT" {}) (SymbolWatch.StrictlySequential 12) {}
      [symbolScan 0 99 102 99 101 .range, symbolScan 1 101 102 100 101 .range] :=
  breakouts_strictlySequential _ (by decide +kernel)

/-- A breakout above the resistance is confirmed; a pullback in a falling market is sold; and then
the resistance counts as retested from below, with no breakdown before. -/
theorem pullback_turns_breakout :
    ¬ Runs.Throughout (SymbolWatch.scan "SOLUSDT" {}) (SymbolWatch.StrictlySequential 12) {}
      [symbolScan 0 99 102 99 101 .trendDown, symbolScan 1 (1005 / 10) 101 99 (998 / 10) .trendDown,
        symbolScan 2 (998 / 10) 100 99 (995 / 10) .range] := by
  intro sequential
  have retested : ∃ record, (Runs.run (SymbolWatch.scan "SOLUSDT" {}) {}
      [symbolScan 0 99 102 99 101 .trendDown, symbolScan 1 (1005 / 10) 101 99 (998 / 10) .trendDown,
        symbolScan 2 (998 / 10) 100 99 (995 / 10) .range]).records[2]? = some record ∧
      record.Retests (some 100) .short := ⟨_, rfl, by decide +kernel⟩
  have unconfirmed : ∀ record ∈ (Runs.run (SymbolWatch.scan "SOLUSDT" {}) {}
      [symbolScan 0 99 102 99 101 .trendDown, symbolScan 1 (1005 / 10) 101 99 (998 / 10) .trendDown,
        symbolScan 2 (998 / 10) 100 99 (995 / 10) .range]).records,
      ¬ record.Confirms 100 .short := by decide +kernel
  obtain ⟨record, found, retests⟩ := retested
  obtain ⟨place, held, confirmed, -, level_eq, ⟨placed, confirms, -⟩, -, -⟩ :=
    sequential.last.follows 2 record _ _ found retests
  obtain rfl := Option.some.inj level_eq
  exact unconfirmed confirmed (List.mem_of_getElem? placed) confirms

end QuantAgent.MarketWatch
