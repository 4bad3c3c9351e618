/-
This file proves what an eligible decision is worth. Every true clock that the calibration admits
lies within the bounds of each instant, so the lower bound of the decision and the upper bounds of
what it knew put them in their true order; and the evaluation always comes to a decision.
-/

import QuantAgent.CausalClock.Evaluation

namespace QuantAgent.CausalClock

/-! ### True clocks -/

/-- The true UTC of every instant: right at the anchor up to the initial and the instrumentation
error, and gaining or losing no more than the drift since then. -/
structure ClockCalibration.Admits (clock : ClockCalibration) (utc : ℤ → ℝ) : Prop where
  anchor : |utc clock.anchorMonoNs - clock.anchorUtcNs| ≤
    clock.initialErrorNs + clock.instrumentationErrorNs
  rate : ∀ monoNs, clock.anchorMonoNs ≤ monoNs →
    |utc monoNs - utc clock.anchorMonoNs - (monoNs - clock.anchorMonoNs)| ≤
      (monoNs - clock.anchorMonoNs) * clock.driftPpb / nanoseconds

variable {clock : ClockCalibration} {utc : ℤ → ℝ}

theorem ClockCalibration.le_errorAfter (elapsed : ℤ) :
    (clock.initialErrorNs + clock.instrumentationErrorNs + elapsed * clock.driftPpb / nanoseconds :
      ℝ) ≤ clock.errorAfter elapsed := by
  have ceiling : elapsed * clock.driftPpb ≤
      nanoseconds * ((elapsed * clock.driftPpb + nanoseconds - 1) / nanoseconds) := by
    generalize elapsed * clock.driftPpb = gained
    unfold nanoseconds
    omega
  have positive : (0 : ℝ) < nanoseconds := by norm_num [nanoseconds]
  have real : (elapsed * clock.driftPpb : ℝ) ≤
      nanoseconds * ((elapsed * clock.driftPpb + nanoseconds - 1) / nanoseconds : ℤ) := by
    exact_mod_cast ceiling
  unfold errorAfter
  push_cast at real ⊢
  rw [add_le_add_iff_left, div_le_iff₀ positive]
  linarith

theorem ClockCalibration.bounds_eq_ok {monoNs : ℤ} {bounds : UtcBounds}
    (bounded : clock.bounds monoNs = .ok bounds) :
    clock.anchorMonoNs ≤ monoNs ∧
      bounds.lowerNs = clock.anchorUtcNs + (monoNs - clock.anchorMonoNs) -
        clock.errorAfter (monoNs - clock.anchorMonoNs) ∧
      bounds.upperNs = clock.anchorUtcNs + (monoNs - clock.anchorMonoNs) +
        clock.errorAfter (monoNs - clock.anchorMonoNs) := by
  unfold ClockCalibration.bounds at bounded
  simp only [refuse_bind_eq_ok, not_not, Except.ok.injEq] at bounded
  obtain ⟨-, -, -, -, -, -, -, -, -, ⟨started, -⟩, -, rfl⟩ := bounded
  exact ⟨by omega, rfl, rfl⟩

theorem ClockCalibration.Admits.bounds (admits : clock.Admits utc) {monoNs : ℤ}
    {bounds : UtcBounds} (bounded : clock.bounds monoNs = .ok bounds) :
    bounds.lowerNs ≤ utc monoNs ∧ utc monoNs ≤ bounds.upperNs := by
  obtain ⟨started, lower, upper⟩ := ClockCalibration.bounds_eq_ok bounded
  have anchor := abs_le.mp admits.anchor
  have rate := abs_le.mp (admits.rate monoNs started)
  have error := clock.le_errorAfter (monoNs - clock.anchorMonoNs)
  rw [lower, upper]
  push_cast at error ⊢
  constructor <;> linarith [anchor.1, anchor.2, rate.1, rate.2]

/-! ### One source -/

def SourceEvidence.instants (evidence : SourceEvidence) : List (Option ℤ) :=
  [evidence.firstByteMonoNs, evidence.completeMonoNs, evidence.validatedMonoNs,
    evidence.rawAckMonoNs, evidence.manifestAckMonoNs, evidence.admissionMonoNs]

/-- What the decision knew of a source was truly there before it, and truly fresh enough. -/
structure SourceEvidence.TrulyTimed (utc : ℤ → ℝ) (decisionMonoNs : ℤ) (policy : SourcePolicy)
    (evidence : SourceEvidence) : Prop where
  instants : ∀ instant ∈ evidence.instants,
    ∃ monoNs, instant = some monoNs ∧ utc monoNs < utc decisionMonoNs
  interval : evidence.role = .completedInterval → evidence.economicEndUpperUtcNs.isSome = true
  intervalEnd : ∀ economicEnd ∈ evidence.economicEndUpperUtcNs, economicEnd < utc decisionMonoNs
  receiverAge : ∀ monoNs ∈ evidence.completeMonoNs,
    utc decisionMonoNs - utc monoNs ≤ policy.receiverMaxAgeNs
  sampleAge : ∀ cap ∈ policy.sampleMaxAgeNs, ∃ lower ∈ evidence.sampleLowerUtcNs,
    ∃ upper ∈ evidence.sampleUpperUtcNs, ∀ sampled : ℝ, lower ≤ sampled → sampled ≤ upper →
      utc decisionMonoNs - sampled ≤ cap

variable {evidence : SourceEvidence} {policy : SourcePolicy}

theorem SourceEvidence.intervalAvailability_eq_ok {availability latest : ℤ}
    (available : evidence.intervalAvailability availability = .ok latest) :
    availability ≤ latest ∧
      (evidence.role = .completedInterval → evidence.economicEndUpperUtcNs.isSome = true) ∧
      ∀ economicEnd ∈ evidence.economicEndUpperUtcNs, economicEnd ≤ latest := by
  unfold intervalAvailability at available
  split at available
  · cases available
  · next role found =>
    simp only [refuse_bind_eq_ok, Except.ok.injEq] at available
    obtain ⟨-, rfl⟩ := available
    rw [found]
    refine ⟨le_max_left _ _, fun _ => rfl, ?_⟩
    rintro _ ⟨⟩
    exact le_max_right _ _
  · cases available
  · next role found other =>
    cases available
    rw [found]
    exact ⟨le_rfl, fun interval => absurd interval (by simpa [found] using other), by simp⟩

theorem SourceEvidence.checkSample_eq_ok {complete decision : UtcBounds}
    (checked : evidence.checkSample policy complete decision = .ok ()) :
    ∀ cap ∈ policy.sampleMaxAgeNs, ∃ lower ∈ evidence.sampleLowerUtcNs,
      ∃ upper ∈ evidence.sampleUpperUtcNs, decision.upperNs - lower ≤ cap := by
  intro cap member
  have held : policy.sampleMaxAgeNs = some cap := member
  unfold checkSample at checked
  split at checked
  · next none _ _ => cases none.symm.trans held
  · next lower upper second third =>
    simp only [refuse_bind_eq_ok, held, refuse_eq_ok, not_lt] at checked
    obtain ⟨-, -, -, fresh⟩ := checked
    exact ⟨lower, second, upper, third, fresh⟩
  · cases checked

theorem SourceEvidence.trulyTimed_of_latest (admits : clock.Admits utc)
    {decisionMonoNs latest : ℤ} {decision : UtcBounds}
    (claimed : evidence.latestClaimedUtcNs clock policy decisionMonoNs = .ok latest)
    (bounded : clock.bounds decisionMonoNs = .ok decision) (later : latest < decision.lowerNs) :
    evidence.TrulyTimed utc decisionMonoNs policy := by
  unfold latestClaimedUtcNs at claimed
  simp only [refuse_bind_eq_ok] at claimed
  obtain ⟨-, -, -, -, -, -, -, claimed⟩ := claimed
  obtain ⟨⟨⟩, -, claimed⟩ := bind_eq_ok.mp claimed
  split at claimed
  case h_2 => cases claimed
  next first complete valid raw manifest admitted atFirst atComplete atValid atRaw atManifest
    atAdmitted =>
  obtain ⟨points, -, claimed⟩ := bind_eq_ok.mp claimed
  simp only [refuse_bind_eq_ok] at claimed
  obtain ⟨-, -, claimed⟩ := claimed
  obtain ⟨firstBounds, firstBounded, claimed⟩ := bind_eq_ok.mp claimed
  obtain ⟨completeBounds, completeBounded, claimed⟩ := bind_eq_ok.mp claimed
  obtain ⟨validBounds, validBounded, claimed⟩ := bind_eq_ok.mp claimed
  obtain ⟨rawBounds, rawBounded, claimed⟩ := bind_eq_ok.mp claimed
  obtain ⟨manifestBounds, manifestBounded, claimed⟩ := bind_eq_ok.mp claimed
  obtain ⟨admittedBounds, admittedBounded, claimed⟩ := bind_eq_ok.mp claimed
  obtain ⟨again, rebounded, claimed⟩ := bind_eq_ok.mp claimed
  obtain rfl := Except.ok.inj (bounded.symm.trans rebounded)
  obtain ⟨received, claimed⟩ := refuse_bind_eq_ok.mp claimed
  obtain ⟨availability, available, claimed⟩ := bind_eq_ok.mp claimed
  obtain ⟨⟨⟩, -, claimed⟩ := bind_eq_ok.mp claimed
  obtain ⟨⟨⟩, sampled, claimed⟩ := bind_eq_ok.mp claimed
  cases claimed
  obtain ⟨bounds, interval, intervalEnd⟩ := intervalAvailability_eq_ok available
  simp only [List.foldl_cons, List.foldl_nil, max_le_iff] at bounds
  obtain ⟨⟨⟨⟨⟨firstUpper, completeUpper⟩, validUpper⟩, rawUpper⟩, manifestUpper⟩, admittedUpper⟩ :=
    bounds
  have decided := admits.bounds bounded
  have before {monoNs : ℤ} {bounds : UtcBounds} (instant : clock.bounds monoNs = .ok bounds)
      (upper : bounds.upperNs ≤ latest) : utc monoNs < utc decisionMonoNs := by
    have between : bounds.upperNs < decision.lowerNs := lt_of_le_of_lt upper later
    have real : (bounds.upperNs : ℝ) < decision.lowerNs := by exact_mod_cast between
    linarith [(admits.bounds instant).2, decided.1]
  refine ⟨?_, interval, ?_, ?_, ?_⟩
  · simp only [instants, atFirst, atComplete, atValid, atRaw, atManifest, atAdmitted,
      List.forall_mem_cons, Option.some.injEq, exists_eq_left', List.not_mem_nil, false_imp_iff,
      implies_true, and_true]
    exact ⟨before firstBounded firstUpper, before completeBounded completeUpper,
      before validBounded validUpper, before rawBounded rawUpper,
      before manifestBounded manifestUpper, before admittedBounded admittedUpper⟩
  · intro economicEnd declared
    have earlier := lt_of_le_of_lt (intervalEnd economicEnd declared) later
    have real : (economicEnd : ℝ) < decision.lowerNs := by exact_mod_cast earlier
    linarith [decided.1]
  · rw [atComplete]
    rintro _ ⟨⟩
    have real : (decision.upperNs - completeBounds.lowerNs : ℝ) ≤ policy.receiverMaxAgeNs := by
      exact_mod_cast not_lt.mp received
    linarith [(admits.bounds completeBounded).1, decided.2]
  · intro cap member
    obtain ⟨lower, first, upper, second, fresh⟩ := checkSample_eq_ok sampled cap member
    refine ⟨lower, first, upper, second, fun time after _ => ?_⟩
    have real : (decision.upperNs - lower : ℝ) ≤ cap := by exact_mod_cast fresh
    linarith [decided.2]

/-! ### All sources -/

theorem identitiesFrom_eq_ok {requirements : List SourceRequirement}
    {result families : List (String × Family)}
    (identified : identitiesFrom requirements result = .ok families) :
    families = result ++ requirements.map (fun requirement =>
      (requirement.sourceId, requirement.family)) ∧
      ((result.map Prod.fst).Nodup → (families.map Prod.fst).Nodup) := by
  induction requirements generalizing result with
  | nil =>
    cases identified
    exact ⟨by simp, id⟩
  | cons requirement requirements inductionHypothesis =>
    unfold identitiesFrom at identified
    simp only [refuse_bind_eq_ok] at identified
    obtain ⟨-, fresh, identified⟩ := identified
    obtain ⟨all, distinct⟩ := inductionHypothesis identified
    refine ⟨by simp [all], fun nodup => distinct ?_⟩
    rw [List.map_append, List.map_singleton, ← List.concat_eq_append]
    exact nodup.concat fresh

theorem PredeclaredSourceSet.identities_eq_ok {sources : PredeclaredSourceSet} {originUtcNs : ℤ}
    {families : List (String × Family)}
    (identified : sources.identities originUtcNs = .ok families) :
    families = sources.required.map (fun requirement =>
      (requirement.sourceId, requirement.family)) ∧ (families.map Prod.fst).Nodup := by
  unfold identities at identified
  simp only [refuse_bind_eq_ok] at identified
  obtain ⟨-, -, -, -, identified⟩ := identified
  obtain ⟨all, distinct⟩ := identitiesFrom_eq_ok identified
  exact ⟨by simpa using all, distinct List.nodup_nil⟩

variable {records : List SourceEvidence} {sourcePolicies : List (String × SourcePolicy)}
  {families : List (String × Family)} {originUtcNs decisionMonoNs ready admitted : ℤ}

theorem checkCoverage_eq_ok (distinct : (families.map Prod.fst).Nodup)
    (covered : checkCoverage sourcePolicies families records = .ok ()) :
    (records.map fun record => record.sourceId).Perm (families.map Prod.fst) := by
  unfold checkCoverage at covered
  obtain ⟨⟨⟩, -, covered⟩ := bind_eq_ok.mp covered
  simp only [refuse_bind_eq_ok, not_not] at covered
  obtain ⟨nodup, required, supplied, -⟩ := covered
  exact (List.perm_ext_iff_of_nodup nodup distinct).mpr fun sourceId =>
    ⟨fun own => supplied own, fun own => required own⟩

theorem checkRecord_eq_ok {required latest : ℤ} {record : SourceEvidence}
    (checked : checkRecord clock sourcePolicies families decisionMonoNs ready admitted required
      record = .ok latest) :
    required ≤ latest ∧ ∃ policy, sourcePolicies.lookup record.sourceId = some policy ∧
      families.lookup record.sourceId = some policy.family ∧
      ∃ claimed ≤ latest, record.latestClaimedUtcNs clock policy decisionMonoNs = .ok claimed := by
  unfold checkRecord at checked
  split at checked
  · cases checked
  · next policy held =>
    split at checked
    · cases checked
    · next family declared =>
      obtain ⟨same, checked⟩ := refuse_bind_eq_ok.mp checked
      split at checked
      · obtain ⟨-, checked⟩ := refuse_bind_eq_ok.mp checked
        obtain ⟨claimed, available, checked⟩ := bind_eq_ok.mp checked
        cases checked
        exact ⟨le_max_left _ _, policy, held, by rw [declared, not_not.mp same], claimed,
          le_max_right _ _, mapError_eq_ok.mp available⟩
      · cases checked

theorem checkRecords_eq_ok {required latest : ℤ}
    (checked : checkRecords clock sourcePolicies families originUtcNs decisionMonoNs ready admitted
      required records = .ok latest) :
    required ≤ latest ∧ ∀ record ∈ records, ∃ policy,
      sourcePolicies.lookup record.sourceId = some policy ∧
      families.lookup record.sourceId = some policy.family ∧
      ∃ claimed ≤ latest, record.latestClaimedUtcNs clock policy decisionMonoNs = .ok claimed := by
  induction records generalizing required with
  | nil =>
    cases checked
    exact ⟨le_rfl, List.forall_mem_nil _⟩
  | cons record records inductionHypothesis =>
    unfold checkRecords at checked
    split at checked
    · next own ran =>
      obtain ⟨grows, others⟩ := inductionHypothesis checked
      obtain ⟨least, policy, held, declared, claimed, within, available⟩ := checkRecord_eq_ok ran
      refine ⟨least.trans grows, List.forall_mem_cons.mpr ⟨?_, others⟩⟩
      exact ⟨policy, held, declared, claimed, within.trans grows, available⟩
    · cases checked
    · cases checked

theorem checkRecord_eq_error {required : ℤ} {record : SourceEvidence} {halt : Halt}
    (declared : record.sourceId ∈ families.map Prod.fst)
    (halted : checkRecord clock sourcePolicies families decisionMonoNs ready admitted required
      record = .error halt) : ∃ reason, halt = .blocked reason := by
  unfold checkRecord at halted
  split at halted
  · cases halted
    exact ⟨_, rfl⟩
  · split at halted
    · next absent =>
      obtain ⟨⟨sourceId, family⟩, own, rfl⟩ := List.mem_map.mp declared
      have absentAll := List.lookup_eq_none_iff.mp absent
      simpa using absentAll _ own
    · obtain ⟨-, rfl⟩ | ⟨-, halted⟩ := refuse_bind_eq_error.mp halted
      · exact ⟨_, rfl⟩
      · split at halted
        · obtain ⟨-, rfl⟩ | ⟨-, halted⟩ := refuse_bind_eq_error.mp halted
          · exact ⟨_, rfl⟩
          · obtain failed | ⟨claimed, -, halted⟩ := bind_eq_error.mp halted
            · obtain ⟨reason, -, rfl⟩ := mapError_eq_error.mp failed
              exact ⟨reason, rfl⟩
            · cases halted
        · cases halted
          exact ⟨_, rfl⟩

theorem checkRecords_eq_error {required : ℤ} {halt : Halt}
    (declared : ∀ record ∈ records, record.sourceId ∈ families.map Prod.fst)
    (halted : checkRecords clock sourcePolicies families originUtcNs decisionMonoNs ready admitted
      required records = .error halt) :
    ∃ decision, halt = .returned decision ∧ ¬ decision.claimedTimingEligible := by
  induction records generalizing required with
  | nil => cases halted
  | cons record records inductionHypothesis =>
    obtain ⟨own, others⟩ := List.forall_mem_cons.mp declared
    unfold checkRecords at halted
    split at halted
    · exact inductionHypothesis others halted
    · next reason blocked =>
      cases halted
      exact ⟨_, rfl, reason.not_eligible⟩
    · next other unblocked ran =>
      obtain ⟨reason, rfl⟩ := checkRecord_eq_error own ran
      exact absurd rfl (unblocked reason)

/-! ### The decision -/

/-- What an eligible decision promises of a true clock. -/
structure Sound (utc : ℤ → ℝ) (records : List SourceEvidence)
    (sourcePolicies : List (String × SourcePolicy)) (predeclaredSources : PredeclaredSourceSet)
    (fixedOriginUtcNs fixedDecisionMonoNs : ℤ)
    (featureReadyMonoNs featureAdmissionMonoNs : Option ℤ) : Prop where
  origin : fixedOriginUtcNs ≤ utc fixedDecisionMonoNs
  ready : ∃ monoNs ∈ featureReadyMonoNs, utc monoNs < utc fixedDecisionMonoNs
  admission : ∃ monoNs ∈ featureAdmissionMonoNs, utc monoNs < utc fixedDecisionMonoNs
  sources : (records.map fun record => record.sourceId).Perm
    (predeclaredSources.required.map fun requirement => requirement.sourceId)
  evidence : ∀ record ∈ records, ∃ policy,
    sourcePolicies.lookup record.sourceId = some policy ∧
    ⟨record.sourceId, policy.family⟩ ∈ predeclaredSources.required ∧
    record.TrulyTimed utc fixedDecisionMonoNs policy

variable {predeclaredSources : PredeclaredSourceSet} {featureReady featureAdmission : Option ℤ}

theorem evaluate_sound (admits : clock.Admits utc) {decision : Decision}
    (evaluated : evaluate clock records sourcePolicies predeclaredSources originUtcNs
      decisionMonoNs featureReady featureAdmission = .ok decision)
    (eligible : decision.claimedTimingEligible) :
    Sound utc records sourcePolicies predeclaredSources originUtcNs decisionMonoNs featureReady
      featureAdmission := by
  unfold evaluate at evaluated
  obtain ⟨⟨⟩, -, evaluated⟩ := bind_eq_ok.mp evaluated
  obtain ⟨⟨⟩, -, evaluated⟩ := bind_eq_ok.mp evaluated
  obtain ⟨families, identified, evaluated⟩ := bind_eq_ok.mp evaluated
  obtain ⟨-, evaluated⟩ := refuse_bind_eq_ok.mp evaluated
  split at evaluated
  case h_2 => cases evaluated
  obtain ⟨⟨⟩, -, evaluated⟩ := bind_eq_ok.mp evaluated
  obtain ⟨⟨⟩, -, evaluated⟩ := bind_eq_ok.mp evaluated
  obtain ⟨-, evaluated⟩ := refuse_bind_eq_ok.mp evaluated
  obtain ⟨decided, bounded, evaluated⟩ := bind_eq_ok.mp evaluated
  obtain ⟨notBefore, evaluated⟩ := refuse_bind_eq_ok.mp evaluated
  obtain ⟨⟨⟩, covered, evaluated⟩ := bind_eq_ok.mp evaluated
  obtain ⟨readyBounds, readyBounded, evaluated⟩ := bind_eq_ok.mp evaluated
  obtain ⟨admittedBounds, admittedBounded, evaluated⟩ := bind_eq_ok.mp evaluated
  obtain ⟨latest, checked, evaluated⟩ := bind_eq_ok.mp evaluated
  cases evaluated
  rw [mapError_eq_ok] at identified bounded covered readyBounded admittedBounded
  obtain ⟨declared, distinct⟩ := PredeclaredSourceSet.identities_eq_ok identified
  obtain ⟨least, each⟩ := checkRecords_eq_ok checked
  obtain ⟨readyUpper, admittedUpper⟩ := max_le_iff.mp least
  have notLate : "NO_ACTION_LATE_INFORMATION" ≠ eligibleStatus := by decide
  have later : latest < decided.lowerNs := by
    unfold Decision.claimedTimingEligible at eligible
    by_contra early
    rw [if_pos (by unfold decisionGuardNs; omega)] at eligible
    exact notLate eligible
  have inside := admits.bounds bounded
  have before {monoNs : ℤ} {bounds : UtcBounds} (instant : clock.bounds monoNs = .ok bounds)
      (upper : bounds.upperNs ≤ latest) : utc monoNs < utc decisionMonoNs := by
    have between : bounds.upperNs < decided.lowerNs := lt_of_le_of_lt upper later
    have real : (bounds.upperNs : ℝ) < decided.lowerNs := by exact_mod_cast between
    linarith [(admits.bounds instant).2, inside.1]
  refine ⟨?_, ⟨_, rfl, before readyBounded readyUpper⟩,
    ⟨_, rfl, before admittedBounded admittedUpper⟩, ?_, ?_⟩
  · have real : (originUtcNs : ℝ) ≤ decided.lowerNs := by exact_mod_cast not_lt.mp notBefore
    exact real.trans inside.1
  · have perm := checkCoverage_eq_ok distinct covered
    rwa [declared, List.map_map] at perm
  · intro record member
    obtain ⟨policy, held, family, claimed, within, available⟩ := each record member
    refine ⟨policy, held, ?_, SourceEvidence.trulyTimed_of_latest admits available
      bounded (lt_of_le_of_lt within later)⟩
    rw [declared] at family
    obtain ⟨before, after, split, -⟩ := List.lookup_eq_some_iff.mp family
    have listed : (record.sourceId, policy.family) ∈ predeclaredSources.required.map
        fun requirement => (requirement.sourceId, requirement.family) := by
      rw [split]
      exact List.mem_append_right _ List.mem_cons_self
    obtain ⟨requirement, own, same⟩ := List.mem_map.mp listed
    obtain ⟨sameId, sameFamily⟩ := Prod.mk.inj same
    rwa [← sameId, ← sameFamily]

theorem evaluate_eq_error {halt : Halt}
    (halted : evaluate clock records sourcePolicies predeclaredSources originUtcNs
      decisionMonoNs featureReady featureAdmission = .error halt) :
    (∃ reason, halt = .blocked reason) ∨
      ∃ decision, halt = .returned decision ∧ ¬ decision.claimedTimingEligible := by
  have wrapped {Value : Type} {program : Except EvidenceBlocked Value}
      (failed : program.mapError Halt.blocked = .error halt) :
      ∃ reason, halt = .blocked reason := by
    obtain ⟨reason, -, rfl⟩ := mapError_eq_error.mp failed
    exact ⟨reason, rfl⟩
  unfold evaluate at halted
  obtain failed | ⟨⟨⟩, -, halted⟩ := bind_eq_error.mp halted
  · exact .inl (wrapped failed)
  obtain failed | ⟨⟨⟩, -, halted⟩ := bind_eq_error.mp halted
  · exact .inl (wrapped failed)
  obtain failed | ⟨families, identified, halted⟩ := bind_eq_error.mp halted
  · exact .inl (wrapped failed)
  obtain ⟨-, rfl⟩ | ⟨-, halted⟩ := refuse_bind_eq_error.mp halted
  · exact .inl ⟨_, rfl⟩
  split at halted
  case h_2 =>
    cases halted
    exact .inl ⟨_, rfl⟩
  obtain failed | ⟨⟨⟩, -, halted⟩ := bind_eq_error.mp halted
  · exact .inl (wrapped failed)
  obtain failed | ⟨⟨⟩, -, halted⟩ := bind_eq_error.mp halted
  · exact .inl (wrapped failed)
  obtain ⟨-, rfl⟩ | ⟨-, halted⟩ := refuse_bind_eq_error.mp halted
  · exact .inl ⟨_, rfl⟩
  obtain failed | ⟨decided, -, halted⟩ := bind_eq_error.mp halted
  · exact .inl (wrapped failed)
  obtain ⟨-, rfl⟩ | ⟨-, halted⟩ := refuse_bind_eq_error.mp halted
  · exact .inl ⟨_, rfl⟩
  obtain failed | ⟨⟨⟩, covered, halted⟩ := bind_eq_error.mp halted
  · exact .inl (wrapped failed)
  obtain failed | ⟨readyBounds, -, halted⟩ := bind_eq_error.mp halted
  · exact .inl (wrapped failed)
  obtain failed | ⟨admittedBounds, -, halted⟩ := bind_eq_error.mp halted
  · exact .inl (wrapped failed)
  obtain left | ⟨latest, -, halted⟩ := bind_eq_error.mp halted
  · rw [mapError_eq_ok] at identified covered
    have perm := checkCoverage_eq_ok (PredeclaredSourceSet.identities_eq_ok identified).2 covered
    exact .inr (checkRecords_eq_error
      (fun record member => perm.mem_iff.mp (List.mem_map_of_mem member)) left)
  · cases halted

/-- The evaluation always returns a decision, and an eligible one is sound for every true clock that
the calibration admits. -/
theorem evaluateFixedOrigin_sound (clock : ClockCalibration) (records : List SourceEvidence)
    (sourcePolicies : List (String × SourcePolicy)) (predeclaredSources : PredeclaredSourceSet)
    (fixedOriginUtcNs fixedDecisionMonoNs : ℤ)
    (featureReadyMonoNs featureAdmissionMonoNs : Option ℤ) :
    ∃ decision, evaluateFixedOrigin clock records sourcePolicies predeclaredSources
        fixedOriginUtcNs fixedDecisionMonoNs featureReadyMonoNs featureAdmissionMonoNs =
          .ok decision ∧
      (decision.claimedTimingEligible → ∀ utc : ℤ → ℝ, clock.Admits utc →
        Sound utc records sourcePolicies predeclaredSources fixedOriginUtcNs fixedDecisionMonoNs
          featureReadyMonoNs featureAdmissionMonoNs) := by
  cases evaluated : evaluate clock records sourcePolicies predeclaredSources fixedOriginUtcNs
      fixedDecisionMonoNs featureReadyMonoNs featureAdmissionMonoNs with
  | ok decision =>
    refine ⟨decision, by simp [evaluateFixedOrigin, evaluated], fun eligible utc admits => ?_⟩
    exact evaluate_sound admits evaluated eligible
  | error halt =>
    obtain ⟨reason, rfl⟩ | ⟨decision, rfl, ineligible⟩ := evaluate_eq_error evaluated
    · refine ⟨stop fixedOriginUtcNs fixedDecisionMonoNs reason none,
        by simp [evaluateFixedOrigin, evaluated], fun eligible => ?_⟩
      exact absurd eligible reason.not_eligible
    · exact ⟨decision, by simp [evaluateFixedOrigin, evaluated], fun eligible =>
        absurd eligible ineligible⟩

/-! ### A decision over one source -/

def someClock : ClockCalibration where
  bootId := "boot"
  anchorMonoNs := 0
  anchorUtcNs := 1000000000
  initialErrorNs := 1000
  driftPpb := 50000

def someRecord : SourceEvidence where
  sourceId := "book"
  bootId := "boot"
  connectionId := "c"
  epochId := "e"
  firstByteMonoNs := some 1000000
  completeMonoNs := some 1100000
  validatedMonoNs := some 1200000
  rawAckMonoNs := some 1300000
  manifestAckMonoNs := some 1400000
  admissionMonoNs := some 1500000

def somePolicy : SourcePolicy where
  sourceId := "book"
  family := .bbo
  connectionId := "c"
  epochId := "e"
  epochStartMonoNs := 0
  receiverMaxAgeNs := 2000000000

def someSources : PredeclaredSourceSet := ⟨"contract", 1000000000, [⟨"book", .bbo⟩]⟩

def someStatus (decisionMonoNs : ℤ) : Option String :=
  (evaluateFixedOrigin someClock [someRecord] [("book", somePolicy)] someSources 1000000000
    decisionMonoNs (some 1600000) (some 1700000)).toOption.map fun decision => decision.status

theorem admits_someClock : someClock.Admits fun monoNs => 1000000000 + monoNs := by
  refine ⟨by norm_num [someClock], fun monoNs started => ?_⟩
  have positive : (0 : ℝ) ≤ monoNs := by exact_mod_cast started
  simp only [someClock, nanoseconds]
  norm_num
  positivity

/-- The decision three milliseconds after the anchor is eligible, and sound for the exact clock. -/
theorem someDecision_sound :
    someStatus 3000000 = some eligibleStatus ∧
      Sound (fun monoNs => 1000000000 + monoNs) [someRecord] [("book", somePolicy)] someSources
        1000000000 3000000 (some 1600000) (some 1700000) := by
  have eligible : someStatus 3000000 = some eligibleStatus := by decide +kernel
  refine ⟨eligible, ?_⟩
  obtain ⟨decision, decided, sound⟩ := evaluateFixedOrigin_sound someClock [someRecord]
    [("book", somePolicy)] someSources 1000000000 3000000 (some 1600000) (some 1700000)
  refine sound ?_ _ admits_someClock
  unfold someStatus at eligible
  rw [decided] at eligible
  exact Option.some.inj eligible

end QuantAgent.CausalClock
