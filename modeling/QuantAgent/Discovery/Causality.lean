/-
This file proves that discovery decisions are causal. What the caches hold is what would be worked
out anew, whatever was asked before and in whatever order; and what is worked out for an hour
depends on the bars before it only, and for the calibration also on those of the training.
-/

import QuantAgent.Library.Refusal
import QuantAgent.Discovery.Reconstruction

namespace QuantAgent.Discovery

variable {Number Finite : Type} [LinearOrder Finite] [Arithmetic Number Finite]

/-! ### Without caches -/

/-- The decision worked out anew. -/
def prefitOf (bars : BarTable Number) (contract : String) (partition : Partition) (t : ℤ)
    (product : String) : Except Fault (Prefit Number) := do
  let score ← scoreOf bars t product contract
  let references ← trainingReferences bars product
  let states ← statesOf bars product (.make references.rVol) (.make references.oRange) partition t
  .ok { score, regimeState := states.1, opportunityState := states.2 }

section

variable {bars : BarTable Number} {contract : String} {partition : Partition} {t : ℤ}
  {product : String} {score : Number} {fault : Fault}

theorem prefitOf_of_score_error (failed : scoreOf bars t product contract = .error fault) :
    prefitOf bars contract partition t product = .error fault := by
  unfold prefitOf
  rw [failed]
  rfl

theorem prefitOf_of_references_error (scored : scoreOf bars t product contract = .ok score)
    (failed : trainingReferences bars product = .error fault) :
    prefitOf bars contract partition t product = .error fault := by
  unfold prefitOf
  rw [scored, failed]
  rfl

variable (partition) in
theorem prefitOf_of_references {references : References Finite}
    (scored : scoreOf bars t product contract = .ok score)
    (trained : trainingReferences bars product = .ok references) :
    prefitOf bars contract partition t product =
      (statesOf bars product (.make references.rVol) (.make references.oRange) partition t).map
        fun states => { score, regimeState := states.1, opportunityState := states.2 } := by
  unfold prefitOf
  rw [scored, trained]
  rfl

end

def uncached (bars : BarTable Number) (query : Query) : Except Fault (Prefit Number) :=
  if query.secondaryFilter ≠ "NONE" then .error (.unsupportedFilter query.secondaryFilter)
  else prefitOf bars query.directionContract query.partition query.t query.product

/-! ### Keys -/

variable {contract other horizon late : String}

theorem dropWhile_text (absent : ':' ∉ horizon.toList) :
    ((contract ++ ":" ++ horizon).toList.reverse.dropWhile (· ≠ ':')).tail =
      contract.toList.reverse := by
  have passed : ∀ letter ∈ horizon.toList.reverse, decide (letter ≠ ':') = true := by
    intro letter member
    refine decide_eq_true ?_
    rintro rfl
    exact absent (List.mem_reverse.mp member)
  rw [String.toList_append, String.toList_append, List.reverse_append, List.reverse_append,
    List.dropWhile_append_of_pos passed]
  rfl

theorem contract_of_key (first : ':' ∉ horizon.toList) (second : ':' ∉ late.toList)
    (same : contract ++ ":" ++ horizon = other ++ ":" ++ late) : contract = other := by
  have reversed : _ = contract.toList.reverse := dropWhile_text first
  rw [same, dropWhile_text second] at reversed
  exact String.toList_injective (List.reverse_injective reversed.symm)

theorem horizon_no_colon (query : Query) : ':' ∉ query.horizon.toList := by
  unfold Query.horizon
  cases query.slot with
  | none => decide
  | some slot =>
    show ':' ∉ slot.primaryHorizon.text.toList
    cases slot.primaryHorizon <;> decide

/-! ### The caches hold what would be worked out anew -/

variable (tables : String → BarTable Number)

def RightPrefit (key : PrefitKey) (result : Prefit Number) : Prop :=
  ∃ contract horizon, ':' ∉ horizon.toList ∧ key.contract = contract ++ ":" ++ horizon ∧
    prefitOf (tables key.sourceEvidenceHash) contract key.partition key.t key.product = .ok result

def RightReferences (key : String × String) (references : References Finite) : Prop :=
  trainingReferences (tables key.1) key.2 = .ok references

def RightStates (key : String × String) (references : References Finite)
    (time : Partition × ℤ) (states : RegimeState × OpportunityState) : Prop :=
  statesOf (tables key.1) key.2 (.make references.rVol) (.make references.oRange) time.1 time.2 =
    .ok states

def RightIndices (key : String × String) (indexed : SourcePercentiles Finite) : Prop :=
  ∃ references, trainingReferences (tables key.1) key.2 = .ok references ∧
    indexed.rVol = .make references.rVol ∧ indexed.oRange = .make references.oRange ∧
    indexed.states.Faithful (RightStates tables key references)

structure RightCaches (caches : Caches Number Finite) : Prop where
  prefit : caches.prefit.Faithful (RightPrefit tables)
  trainingReferences : caches.trainingReferences.Faithful (RightReferences tables)
  indices : caches.indices.Faithful (RightIndices tables)

variable {tables}

theorem RightCaches.empty : RightCaches tables {} :=
  ⟨Memo.Faithful.nil, Memo.Faithful.nil, Memo.Faithful.nil⟩

variable {caches : Memo PrefitKey (Prefit Number)}

theorem RightCaches.prefit_of_key {query : Query}
    {result : Prefit Number} (right : caches.Faithful (RightPrefit tables))
    (found : caches.answer query.key = some result) :
    prefitOf (tables query.sourceEvidenceHash) query.directionContract query.partition query.t
      query.product = .ok result := by
  obtain ⟨contract, horizon, absent, same, known⟩ := right.answer found
  rwa [contract_of_key (horizon_no_colon query) absent same]

theorem RightCaches.legacy_none (right : caches.Faithful (RightPrefit tables)) (query : Query) :
    caches.answer query.legacyKey = none := by
  refine Option.eq_none_iff_forall_ne_some.mpr fun result found => ?_
  obtain ⟨contract, horizon, -, same, -⟩ := right.answer found
  refine query.candidate.digest ?_
  change query.candidate.id = _ at same
  rw [same]
  simp

open Work

variable {limits : Limits} {key : String × String}

theorem getTrainingReferences_comes :
    Comes (RightCaches tables) (getTrainingReferences limits (tables key.1) key)
      (· = trainingReferences (tables key.1) key.2) := by
  refine comes_findOr (fun caches references right found =>
    (right.trainingReferences.answer found).symm) ?_
  refine (comes_of rfl).bind (fun references worked => ?_) fun fault failed => failed.symm
  refine comes_modify_bind (fun caches right => ?_) (comes_pure worked.symm)
  exact { right with trainingReferences := (right.trainingReferences.trim _).remember worked }

theorem getSourcePercentiles_comes :
    Comes (RightCaches tables) (getSourcePercentiles limits (tables key.1) key)
      fun outcome => match outcome with
        | .ok indexed => RightIndices tables key indexed
        | .error fault => trainingReferences (tables key.1) key.2 = .error fault := by
  refine comes_findOr (fun caches indexed right found => right.indices.answer found) ?_
  refine comes_modify_bind (fun caches right => { right with indices := right.indices.trim _ }) ?_
  refine getTrainingReferences_comes.bind (fun references worked => ?_) fun fault failed =>
    failed.symm
  have holds : RightIndices tables key ⟨.make references.rVol, .make references.oRange, []⟩ :=
    ⟨references, worked.symm, rfl, rfl, Memo.Faithful.nil⟩
  exact comes_modify_bind
    (fun caches right => { right with indices := right.indices.remember holds })
    (comes_pure holds)

variable {partition : Partition}

theorem getStates_comes {indexed : SourcePercentiles Finite} {references : References Finite}
    {t : ℤ}
    (trained : trainingReferences (tables key.1) key.2 = .ok references)
    (right : RightIndices tables key indexed) :
    Comes (RightCaches tables) (getStates limits (tables key.1) key indexed partition t)
      (· = statesOf (tables key.1) key.2 (.make references.rVol) (.make references.oRange)
        partition t) := by
  obtain ⟨others, again, rVol, oRange, states⟩ := right
  obtain rfl : references = others := Except.ok.inj (trained.symm.trans again)
  refine comes_findOr (fun _ found _ held => (states.answer held).symm) ?_
  rw [rVol, oRange]
  refine (comes_of rfl).bind (fun value worked => ?_) fun fault failed => failed.symm
  refine comes_modify_bind (fun caches right => ?_) (comes_pure worked.symm)
  refine { right with indices := ?_ }
  dsimp only
  refine right.indices.modify ?_
  rintro held ⟨known, once, first, second, all⟩
  obtain rfl : references = known := Except.ok.inj (trained.symm.trans once)
  exact ⟨references, once, first, second, (all.trim _).remember worked⟩

variable {fallback : Memo PrefitKey (Prefit Number)}

theorem RightCaches.cachedPrefit {caches : Caches Number Finite} {query : Query}
    {result : Prefit Number}
    (right : RightCaches tables caches) (others : fallback.Faithful (RightPrefit tables))
    (found : cachedPrefit fallback query caches = some result) :
    prefitOf (tables query.sourceEvidenceHash) query.directionContract query.partition query.t
      query.product = .ok result := by
  unfold Discovery.cachedPrefit at found
  rw [legacy_none right.prefit, legacy_none others, Option.or_none, Option.or_none] at found
  obtain own | ⟨-, outer⟩ := Option.or_eq_some_iff.mp found
  · exact prefit_of_key right.prefit own
  · exact prefit_of_key others outer

variable (limits) in
theorem reconstructPrefitCached_comes
    (others : fallback.Faithful (RightPrefit tables)) (query : Query) :
    Comes (RightCaches tables)
      (reconstructPrefitCached limits (tables query.sourceEvidenceHash) fallback query)
      (· = uncached (tables query.sourceEvidenceHash) query) := by
  unfold reconstructPrefitCached uncached
  split
  · exact comes_of rfl
  refine comes_findOr (fun caches result right found => (right.cachedPrefit others found).symm) ?_
  refine (comes_of rfl).bind (fun score scored => ?_) fun fault failed =>
    (prefitOf_of_score_error failed).symm
  refine getSourcePercentiles_comes.bind (fun indexed right => ?_) fun fault failed =>
    (prefitOf_of_references_error scored failed).symm
  obtain ⟨references, trained, -⟩ := id right
  have whole := prefitOf_of_references query.partition scored trained
  refine (getStates_comes trained right).bind (fun states derived => ?_) fun fault failed =>
    (whole.trans (congrArg (Except.map _) failed.symm)).symm
  replace whole := whole.trans (congrArg (Except.map _) derived.symm)
  refine comes_modify_bind (fun caches right => ?_) (comes_pure whole.symm)
  have known : RightPrefit tables query.key _ :=
    ⟨query.directionContract, query.horizon, horizon_no_colon query, rfl, whole⟩
  exact { right with prefit := (right.prefit.trim _).remember known }

/-! ### Processes -/

structure RightProcess (tables : String → BarTable Number) (process : Process Number Finite) :
    Prop where
  fallback : RightCaches tables process.fallback
  sessions : ∀ caches ∈ process.sessions, RightCaches tables caches

variable {process : Process Number Finite}

theorem RightProcess.reconstruct (right : RightProcess tables process) (query : Query) :
    (process.reconstruct tables query).1 = uncached (tables query.sourceEvidenceHash) query ∧
      RightProcess tables (process.reconstruct tables query).2 := by
  unfold Process.reconstruct
  cases sessions : process.sessions with
  | nil =>
    obtain ⟨comes, kept⟩ :=
      reconstructPrefitCached_comes fallbackLimits right.fallback.prefit query
        process.fallback right.fallback
    exact ⟨comes, kept, fun _ member => absurd member List.not_mem_nil⟩
  | cons current others =>
    have each := right.sessions
    rw [sessions] at each
    obtain ⟨first, rest⟩ := List.forall_mem_cons.mp each
    obtain ⟨comes, kept⟩ :=
      reconstructPrefitCached_comes sessionLimits right.fallback.prefit query current
        first
    exact ⟨comes, right.fallback, List.forall_mem_cons.mpr ⟨kept, rest⟩⟩

theorem RightProcess.step (right : RightProcess tables process) (operation : Operation) :
    RightProcess tables (process.step tables operation) := by
  cases operation with
  | openSession => exact ⟨right.fallback, List.forall_mem_cons.mpr ⟨.empty, right.sessions⟩⟩
  | closeSession =>
    exact ⟨right.fallback, fun caches member => right.sessions caches (List.mem_of_mem_tail member)⟩
  | clearPrefitCaches =>
    refine ⟨.empty, ?_⟩
    show ∀ caches ∈ process.sessions.modifyHead _, _
    have each := right.sessions
    cases sessions : process.sessions with
    | nil => exact fun _ member => absurd member List.not_mem_nil
    | cons current others =>
      rw [sessions] at each
      exact List.forall_mem_cons.mpr ⟨.empty, (List.forall_mem_cons.mp each).2⟩
  | reconstruct query => exact (right.reconstruct query).2

/-- After any operations the caches hold what would be worked out anew. -/
theorem rightProcess_after (tables : String → BarTable Number) (operations : List Operation) :
    RightProcess tables (Process.after tables operations) :=
  have start : RightProcess tables ({} : Process Number Finite) :=
    ⟨.empty, fun _ member => absurd member List.not_mem_nil⟩
  (Runs.throughout_of_keeps (fun _ operation right => right.step operation) start operations).last

/-! ### What is worked out -/

def AgreeBefore (hour : ℤ) (bars others : BarTable Number) : Prop :=
  ∀ time product, time < hour → bars.lookup (time, product) = others.lookup (time, product)

/-- What a decision may depend on. -/
def AgreeFor (partition : Partition) (t : ℤ) (bars others : BarTable Number) : Prop :=
  AgreeBefore t bars others ∧ (partition = .wf1Calibration → AgreeBefore trainEnd bars others)

section

variable {bars others : BarTable Number} {t hour : ℤ} {product : String}

omit [LinearOrder Finite]

omit [Arithmetic Number Finite] in
theorem AgreeBefore.closedBar (agree : AgreeBefore t bars others) (now : ℤ) (before : hour < t) :
    closedBar bars now product hour = closedBar others now product hour := by
  unfold Discovery.closedBar
  rw [agree hour product before]

theorem mapM_congr {Entry Value : Type} {effect : Type → Type} [Monad effect] [LawfulMonad effect]
    {first second : Entry → effect Value} {entries : List Entry}
    (same : ∀ entry ∈ entries, first entry = second entry) :
    entries.mapM first = entries.mapM second := by
  induction entries with
  | nil => rfl
  | cons entry rest inductionHypothesis =>
    obtain ⟨own, others⟩ := List.forall_mem_cons.mp same
    rw [List.mapM_cons, List.mapM_cons, own, inductionHypothesis others]

section

variable (agree : AgreeBefore t bars others)

include agree

omit [Arithmetic Number Finite] in
theorem AgreeBefore.closedBars (hours : ℕ) :
    closedBars bars t product hours = closedBars others t product hours :=
  mapM_congr fun hour member => agree.closedBar t (by
    have bounds := List.mem_range'_1.mp (List.mem_reverse.mp member)
    omega)

omit [Arithmetic Number Finite] in
theorem AgreeBefore.references (now : ℤ) {first : ℕ} (positive : 0 < first) (count : ℕ) :
    ((List.range' first count).filterMap fun hours : ℕ =>
      Discovery.closedBar bars now product (t - hours)) =
    (List.range' first count).filterMap fun hours : ℕ =>
      Discovery.closedBar others now product (t - hours) :=
  List.filterMap_congr fun hours member => agree.closedBar now (by
    have bounds := List.mem_range'_1.mp member
    omega)

theorem AgreeBefore.computeD1 {lookbackHours : ℕ} (positive : 0 < lookbackHours) :
    computeD1 bars t product lookbackHours = computeD1 others t product lookbackHours := by
  unfold Discovery.computeD1
  rw [agree.closedBar t (by omega), agree.closedBar t (by omega)]

theorem AgreeBefore.computeD2 (rangeHours : ℕ) :
    computeD2 bars t product rangeHours = computeD2 others t product rangeHours := by
  unfold Discovery.computeD2
  rw [agree.closedBar t (by omega), agree.references t (by decide)]

theorem AgreeBefore.computeD3 (rangeHours : ℕ) :
    computeD3 bars t product rangeHours = computeD3 others t product rangeHours := by
  unfold Discovery.computeD3
  rw [agree.closedBar t (by omega), agree.closedBar t (by omega),
    agree.references (t - 1) (by decide)]

theorem AgreeBefore.scoreOf (contract : String) :
    scoreOf bars t product contract = scoreOf others t product contract := by
  unfold Discovery.scoreOf
  simp only [agree.computeD1 (show 0 < 4 by decide), agree.computeD1 (show 0 < 12 by decide),
    agree.computeD2, agree.computeD3]

theorem AgreeBefore.computeRVolScalar :
    computeRVolScalar bars t product = computeRVolScalar others t product := by
  unfold Discovery.computeRVolScalar
  rw [agree.closedBars]

theorem AgreeBefore.computeORangeScalar :
    computeORangeScalar bars t product = computeORangeScalar others t product := by
  unfold Discovery.computeORangeScalar
  rw [agree.closedBars, agree.closedBar t (by omega)]

end

/-! ### Training references -/

omit [Arithmetic Number Finite]

theorem mem_trainingTimes : hour ∈ trainingTimes bars product ↔
    (bars.lookup (hour, product)).isSome ∧ hour < trainEnd := by
  have sorted : (productTimes bars product).Pairwise (· < ·) :=
    (Finset.sortedLT_sort _).pairwise
  have closed : (productTimes bars product).Pairwise fun first second =>
      decide (second < trainEnd) → decide (first < trainEnd) :=
    sorted.imp fun below holds => decide_eq_true (below.trans (of_decide_eq_true holds))
  rw [trainingTimes, takeWhile_eq_filter closed, List.mem_filter, decide_eq_true_iff, productTimes,
    Finset.mem_sort, Finmap.lookup_isSome, ← Finmap.mem_keys]
  simp

theorem AgreeBefore.trainingTimes (agree : AgreeBefore hour bars others) :
    (trainingTimes bars product).filter (· < hour) =
      (trainingTimes others product).filter (· < hour) := by
  have sorted (table : BarTable Number) :
      ((Discovery.trainingTimes table product).filter (· < hour)).Pairwise (· < ·) :=
    ((Finset.sortedLT_sort _).pairwise.sublist (List.takeWhile_sublist _)).filter _
  refine (sorted bars).eq_of_mem_iff (sorted others) fun time => ?_
  simp only [List.mem_filter, mem_trainingTimes, decide_eq_true_eq]
  refine and_congr_left fun before => ?_
  rw [agree time product before]

end

section

variable {Value : Type} {times : List ℤ} {hour : ℤ}

theorem mapM_filter {work : ℤ → Except Fault (Option Value)} {results : List (Option (ℤ × Value))}
    (worked : (times.mapM fun time => (work time).map fun scalar =>
      scalar.map fun value => (time, value)) = .ok results) :
    ∃ early, ((times.filter (· < hour)).mapM fun time => (work time).map fun scalar =>
        scalar.map fun value => (time, value)) = .ok early ∧
      results.reduceOption.filter (·.1 < hour) = early.reduceOption := by
  induction times generalizing results with
  | nil =>
    obtain rfl := Except.ok.inj worked
    exact ⟨[], rfl, rfl⟩
  | cons time rest inductionHypothesis =>
    rw [List.mapM_cons] at worked
    obtain ⟨entry, own, others⟩ := bind_eq_ok.mp worked
    obtain ⟨entries, later, gathered⟩ := bind_eq_ok.mp others
    obtain rfl := Except.ok.inj gathered
    obtain ⟨early, known, same⟩ := inductionHypothesis later
    obtain ⟨scalar, -, rfl⟩ := map_eq_ok.mp own
    by_cases before : time < hour
    · refine ⟨scalar.map (fun value => (time, value)) :: early, ?_, ?_⟩
      · rw [List.filter_cons_of_pos (by simpa using before), List.mapM_cons, own, known]
        rfl
      · cases scalar with
        | none => simpa using same
        | some value => simpa [before] using same
    · refine ⟨early, ?_, ?_⟩
      · rw [List.filter_cons_of_neg (by simpa using before)]
        exact known
      · cases scalar with
        | none => simpa using same
        | some value => simpa [before] using same

theorem filterMap_filter (work : ℤ → Option Value) :
    (times.filterMap fun time => (work time).map fun value => (time, value)).filter
        (·.1 < hour) =
      (times.filter (· < hour)).filterMap fun time => (work time).map fun value =>
        (time, value) := by
  induction times with
  | nil => rfl
  | cons time rest inductionHypothesis =>
    by_cases before : time < hour <;> cases result : work time <;>
      simp [before, result, inductionHypothesis]

end

section

variable {bars others : BarTable Number} {t hour : ℤ} {product : String}
  {references known : References Finite}

omit [LinearOrder Finite] in
theorem AgreeBefore.references_filter (agree : AgreeBefore t bars others)
    (first : trainingReferences bars product = .ok references)
    (second : trainingReferences others product = .ok known) :
    references.rVol.filter (·.1 < t) = known.rVol.filter (·.1 < t) ∧
      references.oRange.filter (·.1 < t) = known.oRange.filter (·.1 < t) := by
  have earlier (time : ℤ)
    (member : time ∈ (Discovery.trainingTimes others product).filter (· < t)) :
      AgreeBefore time bars others := fun hour product before =>
    agree hour product (before.trans (of_decide_eq_true (List.mem_filter.mp member).2))
  obtain ⟨rVol, worked, gathered⟩ := bind_eq_ok.mp first
  obtain ⟨knownVol, workedKnown, gatheredKnown⟩ := bind_eq_ok.mp second
  obtain rfl := Except.ok.inj gathered
  obtain rfl := Except.ok.inj gatheredKnown
  constructor
  · obtain ⟨early, works, same⟩ := mapM_filter worked
    obtain ⟨earlyKnown, worksKnown, sameKnown⟩ := mapM_filter workedKnown
    rw [agree.trainingTimes, mapM_congr fun time member => by
      rw [(earlier time member).computeRVolScalar], worksKnown] at works
    rw [same, sameKnown, Except.ok.inj works]
  · rw [filterMap_filter, filterMap_filter, agree.trainingTimes]
    exact List.filterMap_congr fun time member => by rw [(earlier time member).computeORangeScalar]

omit [LinearOrder Finite] in
theorem AgreeBefore.trainingReferences (agree : AgreeBefore trainEnd bars others) :
    trainingReferences bars product = trainingReferences others product := by
  have all (table : BarTable Number) : (Discovery.trainingTimes table product).filter
      (· < trainEnd) = Discovery.trainingTimes table product :=
    List.filter_eq_self.mpr fun time member => decide_eq_true (mem_trainingTimes.mp member).2
  have times : Discovery.trainingTimes bars product = Discovery.trainingTimes others product := by
    rw [← all bars, agree.trainingTimes, all]
  have earlier (time : ℤ) (member : time ∈ Discovery.trainingTimes others product) :
      AgreeBefore time bars others := fun hour product before =>
    agree hour product (before.trans (mem_trainingTimes.mp member).2)
  have rVol : (Discovery.trainingTimes others product).mapM (fun time =>
        (Discovery.computeRVolScalar bars time product).map fun scalar =>
          scalar.map fun value => (time, value)) = _ :=
    mapM_congr fun time member => by rw [(earlier time member).computeRVolScalar]
  have oRange : (Discovery.trainingTimes others product).filterMap (fun time =>
        (Discovery.computeORangeScalar bars time product).map fun value => (time, value)) = _ :=
    List.filterMap_congr fun time member => by rw [(earlier time member).computeORangeScalar]
  unfold Discovery.trainingReferences
  rw [times]
  dsimp only
  rw [rVol, oRange]

theorem AgreeFor.statesOf (agree : AgreeFor partition t bars others)
    (first : Discovery.trainingReferences bars product = .ok references)
    (second : Discovery.trainingReferences others product = .ok known) :
    statesOf bars product (.make references.rVol) (.make references.oRange) partition t =
      statesOf others product (.make known.rVol) (.make known.oRange) partition t := by
  unfold Discovery.statesOf
  rw [agree.1.computeRVolScalar, agree.1.computeORangeScalar]
  cases partition with
  | wf1Train =>
    obtain ⟨rVol, oRange⟩ := agree.1.references_filter first second
    simp only [if_true, query_some, rVol, oRange]
  | wf1Calibration =>
    rw [(agree.2 rfl).trainingReferences, second] at first
    rw [Except.ok.inj first]

end

/-! ### What may be raised -/

section

variable {bars others : BarTable Number} {t : ℤ} {product : String} {fault : Fault}

theorem mapM_error {Entry Value : Type} {work : Entry → Except Fault Value} {entries : List Entry}
    (failed : entries.mapM work = .error fault) : ∃ entry, work entry = .error fault := by
  induction entries with
  | nil => cases failed
  | cons entry rest inductionHypothesis =>
    rw [List.mapM_cons, bind_eq_error] at failed
    obtain own | ⟨value, -, later⟩ := failed
    · exact ⟨entry, own⟩
    · obtain others | ⟨values, -, ⟨⟩⟩ := bind_eq_error.mp later
      exact inductionHypothesis others

omit [LinearOrder Finite]

theorem logarithm_error {value : Number} (failed : logarithm value = .error fault) :
    fault = .mathDomain := by
  unfold logarithm at failed
  cases result : Arithmetic.log value with
  | none =>
    rw [result] at failed
    exact (Except.error.inj failed).symm
  | some result' =>
    rw [result] at failed
    cases failed

theorem computeRVolScalar_error (failed : computeRVolScalar bars t product = .error fault) :
    fault = .mathDomain := by
  unfold computeRVolScalar at failed
  split at failed
  · cases failed
  · obtain raised | ⟨returns, -, ⟨⟩⟩ := bind_eq_error.mp failed
    obtain ⟨pair, raised⟩ := mapM_error raised
    exact logarithm_error raised

theorem trainingReferences_error (failed : trainingReferences bars product = .error fault) :
    fault = .mathDomain := by
  obtain raised | ⟨rVol, -, ⟨⟩⟩ := bind_eq_error.mp failed
  obtain ⟨time, raised⟩ := mapM_error raised
  cases worked : computeRVolScalar bars time product with
  | ok scalar =>
    rw [worked] at raised
    cases raised
  | error other =>
    rw [worked] at raised
    obtain rfl := Except.error.inj raised
    exact computeRVolScalar_error worked

end

def SameUnlessRaised (outcome other : Except Fault (Prefit Number)) : Prop :=
  outcome = other ∨ outcome = .error .mathDomain ∨ other = .error .mathDomain

theorem AgreeFor.prefitOf {bars others : BarTable Number} {t : ℤ}
    (agree : AgreeFor partition t bars others) (contract product : String) :
    SameUnlessRaised (prefitOf bars contract partition t product)
      (prefitOf others contract partition t product) := by
  cases scored : scoreOf bars t product contract with
  | error fault =>
    have scoredOthers := (agree.1.scoreOf contract).symm.trans scored
    exact .inl ((prefitOf_of_score_error scored).trans (prefitOf_of_score_error scoredOthers).symm)
  | ok score =>
    have scoredOthers := (agree.1.scoreOf contract).symm.trans scored
    cases first : trainingReferences bars product with
    | error fault =>
      rw [trainingReferences_error first] at first
      exact .inr (.inl (prefitOf_of_references_error scored first))
    | ok references =>
      cases second : trainingReferences others product with
      | error fault =>
        rw [trainingReferences_error second] at second
        exact .inr (.inr (prefitOf_of_references_error scoredOthers second))
      | ok known =>
        refine .inl ?_
        rw [prefitOf_of_references partition scored first,
          prefitOf_of_references partition scoredOthers second, agree.statesOf first second]

/-! ### Decisions -/

/-- The queries are of one decision; the candidates, the horizons and the sources may differ. -/
structure SameDecision (query other : Query) : Prop where
  directionContract : query.directionContract = other.directionContract
  secondaryFilter : query.secondaryFilter = other.secondaryFilter
  partition : query.partition = other.partition
  t : query.t = other.t
  product : query.product = other.product

/-- A decision comes out the same from two sources that agree on the bars before it, and for the
calibration on those of the training, whatever was done before in either process. -/
theorem decisions_causal (tables : String → BarTable Number) (before after : List Operation)
    {query other : Query} (same : SameDecision query other)
    (agree : AgreeFor query.partition query.t (tables query.sourceEvidenceHash)
      (tables other.sourceEvidenceHash)) :
    SameUnlessRaised ((Process.after tables before).reconstruct tables query).1
      ((Process.after tables after).reconstruct tables other).1 := by
  rw [((rightProcess_after tables before).reconstruct query).1,
    ((rightProcess_after tables after).reconstruct other).1]
  unfold uncached
  rw [← same.directionContract, ← same.secondaryFilter, ← same.partition, ← same.t, ← same.product]
  split
  · exact .inl rfl
  · exact agree.prefitOf query.directionContract query.product

/-! ### Two sources -/

instance exactArithmetic : Arithmetic ℚ ℚ where
  literal value := value
  add := (· + ·)
  sub := (· - ·)
  mul := (· * ·)
  div := (· / ·)
  abs value := |value|
  square value := value ^ 2
  sqrt value := value
  sum values := values.sum
  log value := if value = 1 then some 0 else none
  less first second := first < second
  lessEqual first second := first ≤ second
  equal first second := first = second
  finite := some

/-- An hour of the training, and a flat bar. -/
def decisionHour : ℤ := 450000

def flatBar (hour : ℤ) (price : ℚ) : Bar ℚ := ⟨hour, price, price, price, price, none⟩

/-- The bars that the return of four hours is made of. -/
def seenBars : BarTable ℚ :=
  (Finmap.singleton (decisionHour - 1, "BTCUSDT") (flatBar (decisionHour - 1) 100)).insert
    (decisionHour - 4, "BTCUSDT") (flatBar (decisionHour - 4) 100)

def sources (hash : String) : BarTable ℚ :=
  if hash = "a" then seenBars.insert (decisionHour, "BTCUSDT") (flatBar decisionHour 300)
  else seenBars

def returnDecision (hash : String) (t : ℤ) : Query where
  candidate := ⟨"c0ffee", by decide⟩
  slot := some ⟨"D1_V1_RETURN_4H", "", .fourHours, "NONE"⟩
  partition := .wf1Train
  t := t
  product := "BTCUSDT"
  sourceEvidenceHash := hash

theorem later_bar_unseen :
    SameUnlessRaised
      ((Process.after sources [.openSession, .reconstruct (returnDecision "b" decisionHour),
        .reconstruct (returnDecision "a" (decisionHour + 1))]).reconstruct sources
          (returnDecision "a" decisionHour)).1
      ((Process.after sources []).reconstruct sources (returnDecision "b" decisionHour)).1 := by
  refine decisions_causal sources _ _ ⟨rfl, rfl, rfl, rfl, rfl⟩
    ⟨fun time product before => ?_, nofun⟩
  exact Finmap.lookup_insert_of_ne seenBars fun same => before.ne (congrArg Prod.fst same)

end QuantAgent.Discovery
