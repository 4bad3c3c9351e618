/-
This file says what a signal goes through from scan to scan. An identity names a setup and the bar
in which it was created, so one that has ended comes back when its setup is seen again in that very
bar; and a candidate that has grown old may still be triggered. In runs without such scans an ended
identity is over, a triggered one is young, and in all runs it has one shadow row.
-/

import QuantAgent.MarketWatch.SignalScans

namespace QuantAgent.MarketWatch

/-! ### The properties of a run -/

/-- The identity was invalidated or expired in one of the scans. -/
def EndedIn (scans : List SignalScan) (identity : SignalIdentity) : Prop :=
  ∃ scan ∈ scans, scan.signalIdentity = identity ∧ scan.lifecycleState ∈ LifecycleState.ended

def TriggeredIn (scans : List SignalScan) (identity : SignalIdentity) : Prop :=
  ∃ scan ∈ scans, scan.lifecycleState = .triggered ∧ scan.decision ≠ .wait ∧
    scan.signalIdentity = identity

instance (scans : List SignalScan) : DecidablePred (EndedIn scans) :=
  fun _ => inferInstanceAs (Decidable (∃ _ ∈ _, _))

instance (scans : List SignalScan) : DecidablePred (TriggeredIn scans) :=
  fun _ => inferInstanceAs (Decidable (∃ _ ∈ _, _))

def NeverRevived (scans : List SignalScan) : Prop :=
  scans.Pairwise fun earlier later => later.signalIdentity = earlier.signalIdentity →
    earlier.lifecycleState ∈ LifecycleState.ended →
      later.lifecycleState ≠ .armed ∧ later.lifecycleState ≠ .triggered

def NewlyTriggered (scans : List SignalScan) (index : ℕ) (scan : SignalScan) : Prop :=
  scans[index]? = some scan ∧ scan.lifecycleState = .triggered ∧
    ∀ previous, 0 < index → scans[index - 1]? = some previous →
      ¬ (previous.signalIdentity = scan.signalIdentity ∧ previous.lifecycleState = .triggered)

def actionableRows (rows : List ShadowRow) (identity : SignalIdentity) : ℕ :=
  rows.countP fun row =>
    row.observationType = .actionableTriggered ∧ row.signalIdentity = identity

/-- What is promised of the signals of a symbol. -/
structure SignalWatch.WellFollowed (maxSignalAgeBars : ℤ) (watch : SignalWatch) : Prop where
  neverRevived : NeverRevived watch.scans
  young : ∀ index scan, NewlyTriggered watch.scans index scan → scan.ageBars < maxSignalAgeBars
  recorded : ∀ identity, actionableRows watch.rows identity =
    if TriggeredIn watch.scans identity then 1 else 0

/-! ### The scans that break them -/

def SignalWatch.RestartsEnded (symbol : String) (watch : SignalWatch) (input : SignalInput) :
    Prop :=
  EndedIn watch.scans ⟨input.setupKey symbol, input.barEndMs⟩

/-- The scan is actionable for a saved candidate that has reached the maximal age. -/
def SignalWatch.WakesAged (symbol : String) (maxSignalAgeBars : ℤ) (watch : SignalWatch)
    (input : SignalInput) : Prop :=
  (∃ row ∈ watch.saved, row.lifecycleState = .candidate ∧
    row.createdBarEndMs + maxSignalAgeBars * quarterMs ≤ input.barEndMs) ∧
  SameSignal symbol watch.saved input ∧ input.plan.decision ≠ .wait ∧
    (input.plan.entryQuality = .excellent ∨ input.plan.entryQuality = .good)

variable {symbol : String} {maxSignalAgeBars : ℤ} {watch : SignalWatch} {input : SignalInput}

/-! ### The identity of a scan -/

structure SignalWatch.Saved (watch : SignalWatch) : Prop where
  identity : ∀ row ∈ watch.saved,
    row.signalIdentity = ⟨row.setupKey, row.setupInstanceStartedBarEndMs⟩
  started : ∀ row ∈ watch.saved, row.setupInstanceStartedBarEndMs ≠ 0
  ended : ∀ row ∈ watch.saved, EndedIn watch.scans row.signalIdentity ↔
    row.lifecycleState ∈ LifecycleState.ended

theorem instanceStartedMs_ne_zero (saved : Option SignalState) :
    instanceStartedMs symbol saved input ≠ 0 := by
  have positive := input.barEnd_positive
  unfold instanceStartedMs
  split
  · cases saved with
    | none => exact positive.ne'
    | some row =>
      show barOr _ _ ≠ 0
      unfold barOr
      split
      · exact positive.ne'
      · next known => exact known
  · exact positive.ne'

theorem SignalWatch.Saved.not_ended (saved : watch.Saved)
    (fresh : ¬ watch.RestartsEnded symbol input) :
    ¬ EndedIn watch.scans (signalIdentity symbol watch.saved input) := by
  unfold signalIdentity instanceStartedMs
  split
  · next same =>
    obtain ⟨row, held, key, -, alive⟩ := same
    have row_eq : watch.saved = some row := held
    rw [row_eq, Option.elim_some, barOr, if_neg (saved.started row held), ← key,
      ← saved.identity row held, saved.ended row held]
    exact alive
  · exact fresh

theorem advanceLifecycleState_triggered {previous : Option LifecycleState}
    {decision : DirectionalDecision} {entryQuality : EntryQuality}
    {isInvalidated hasSetup isNearReady : Prop} [Decidable isInvalidated] [Decidable hasSetup]
    [Decidable isNearReady] {age maxAge : ℤ}
    (triggered : advanceLifecycleState previous decision entryQuality isInvalidated hasSetup
      isNearReady age maxAge = .triggered) :
    ¬ (maxAge ≤ age ∧ (previous = some .armed ∨ previous = some .triggered)) ∧ decision ≠ .wait ∧
      (entryQuality = .excellent ∨ entryQuality = .good) := by
  unfold advanceLifecycleState at triggered
  split_ifs at triggered with invalid aged actionable quality
  exact ⟨aged, actionable, quality⟩

theorem SignalWatch.Saved.young (saved : watch.Saved) (positive : 0 < maxSignalAgeBars)
    (fresh : ¬ watch.RestartsEnded symbol input)
    (calm : ¬ watch.WakesAged symbol maxSignalAgeBars input)
    (triggered : (assessSignal symbol watch.saved input maxSignalAgeBars).lifecycleState =
      .triggered) :
    ageBars symbol watch.saved input < maxSignalAgeBars := by
  obtain ⟨notAged, actionable, quality⟩ := advanceLifecycleState_triggered triggered
  by_cases same : SameSignal symbol watch.saved input
  case neg => rwa [ageBars, if_neg same]
  obtain ⟨row, held, identity⟩ := same.1
  have row_eq : watch.saved = some row := held
  rw [if_pos same, row_eq, Option.map_some, ← row_eq] at notAged
  have alive : row.lifecycleState ∉ LifecycleState.ended := by
    rw [← saved.ended row held, identity]
    exact saved.not_ended fresh
  by_contra aged
  rw [not_lt] at aged
  have old : row.createdBarEndMs + maxSignalAgeBars * quarterMs ≤ input.barEndMs := by
    rw [ageBars, if_pos same, row_eq, Option.elim_some] at aged
    unfold barsSince at aged
    split_ifs at aged with unset ordered
    · omega
    · have reached := (Int.le_ediv_iff_mul_le (by decide)).mp aged
      omega
    · omega
  cases state : row.lifecycleState with
  | candidate => exact calm ⟨⟨row, held, state, old⟩, same, actionable, quality⟩
  | armed => exact notAged ⟨aged, .inl (by rw [state])⟩
  | triggered => exact notAged ⟨aged, .inr (by rw [state])⟩
  | invalidated => exact alive (by rw [state]; decide)
  | expired => exact alive (by rw [state]; decide)

/-! ### The shadow rows -/

variable {rows : List ShadowRow} {row : SignalState} {assessment : SignalAssessment}

def Backed (row : SignalState) (rows : List ShadowRow) : Prop :=
  ∀ identity ∈ row.lastShadowTriggeredSignalId, 0 < actionableRows rows identity

theorem actionableRows_append (shadow : ShadowRow) (identity : SignalIdentity) :
    actionableRows (rows ++ [shadow]) identity = actionableRows rows identity +
      if shadow.observationType = .actionableTriggered ∧ shadow.signalIdentity = identity
      then 1 else 0 := by
  unfold actionableRows
  rw [List.countP_append, List.countP_singleton]
  simp

variable {identity : SignalIdentity}

theorem actionableRows_pos :
    0 < actionableRows rows identity ↔ ∃ other ∈ rows,
      other.observationType = .actionableTriggered ∧ other.signalIdentity = identity := by
  unfold actionableRows
  rw [List.countP_pos_iff]
  simp

theorem actionableRows_record_armed (other identity : SignalIdentity)
    (decision : DirectionalDecision) :
    actionableRows (recordShadowObservation rows ⟨.setupArmed, other, decision⟩) identity =
      actionableRows rows identity := by
  rw [recordShadowObservation, if_neg (by simp), actionableRows_append, if_neg (by simp)]
  rfl

theorem actionableRows_record (other identity : SignalIdentity)
    (decision : DirectionalDecision) :
    actionableRows (recordShadowObservation rows ⟨.actionableTriggered, other, decision⟩)
        identity =
      if other = identity then max 1 (actionableRows rows identity)
      else actionableRows rows identity := by
  unfold recordShadowObservation
  by_cases found : ∃ held ∈ rows, held.observationType = .actionableTriggered ∧
      held.signalIdentity = other
  · rw [if_pos ⟨rfl, found⟩]
    split
    · next same =>
      rw [← same]
      exact (max_eq_right (actionableRows_pos.mpr found)).symm
    · rfl
  · rw [if_neg fun held => found held.2, actionableRows_append]
    by_cases same : other = identity
    · subst same
      have none : actionableRows rows other = 0 :=
        Nat.eq_zero_of_not_pos fun some => found (actionableRows_pos.mp some)
      simp [none]
    · simp [same]

/-! ### One scan -/

theorem saveSignal_triggeredId (saved : Option SignalState)
    (kept : identity ∈ (saveSignal symbol saved input assessment).lastShadowTriggeredSignalId) :
    ∃ old ∈ saved, identity ∈ old.lastShadowTriggeredSignalId := by
  obtain ⟨held, -⟩ := Option.mem_filter_iff.mp kept
  exact Option.bind_eq_some_iff.mp held

/-- The row keeps its identity when the shadow ids are set. -/
theorem record_row (rows : List ShadowRow) :
    ∃ armed triggered, (recordShadowObservationsIfNeeded row rows input assessment).1 =
      { row with
        lastShadowArmedSignalId := armed, lastShadowTriggeredSignalId := triggered } := by
  unfold recordShadowObservationsIfNeeded
  dsimp only
  split_ifs <;> exact ⟨_, _, rfl⟩

theorem record_actionable (backed : Backed row rows) (identity : SignalIdentity) :
    actionableRows (recordShadowObservationsIfNeeded row rows input assessment).2 identity =
      if assessment.lifecycleState = .triggered ∧ input.plan.decision ≠ .wait ∧
        assessment.signalIdentity = identity then max 1 (actionableRows rows identity)
      else actionableRows rows identity := by
  unfold recordShadowObservationsIfNeeded
  dsimp only
  by_cases triggered : assessment.lifecycleState = .triggered ∧ input.plan.decision ≠ .wait
  · have notArmed : assessment.lifecycleState ≠ .armed := by simp [triggered.1]
    rw [if_neg notArmed, if_pos triggered]
    by_cases same : assessment.signalIdentity = identity
    · rw [if_pos (And.intro triggered.1 (And.intro triggered.2 same))]
      split_ifs with known
      · exact (max_eq_right (backed _ (same ▸ known))).symm
      · exact (actionableRows_record _ _ _).trans (if_pos same)
    · rw [if_neg fun all : _ ∧ _ ∧ _ => same all.2.2]
      split_ifs
      · rfl
      · exact (actionableRows_record _ _ _).trans (if_neg same)
  · have other : ¬ (assessment.lifecycleState = .triggered ∧ input.plan.decision ≠ .wait ∧
        assessment.signalIdentity = identity) := fun all => triggered ⟨all.1, all.2.1⟩
    rw [if_neg other, if_neg triggered]
    split_ifs
    · rfl
    · exact actionableRows_record_armed _ _ _
    · rfl
    · rfl

theorem record_triggeredId (kept : identity ∈ (recordShadowObservationsIfNeeded row rows input
      assessment).1.lastShadowTriggeredSignalId) :
    identity ∈ row.lastShadowTriggeredSignalId ∨ assessment.lifecycleState = .triggered ∧
      input.plan.decision ≠ .wait ∧ assessment.signalIdentity = identity := by
  unfold recordShadowObservationsIfNeeded at kept
  dsimp only at kept
  split_ifs at kept with armed known triggered known idle
  · exact .inl kept
  · exact .inl kept
  · exact .inl kept
  · exact .inr ⟨triggered.1, triggered.2, Option.mem_some_iff.mp kept⟩
  · exact absurd kept (Option.not_mem_none identity)
  · exact .inl kept

theorem record_backed (backed : Backed row rows) :
    Backed (recordShadowObservationsIfNeeded row rows input assessment).1
      (recordShadowObservationsIfNeeded row rows input assessment).2 := by
  intro identity kept
  rw [record_actionable backed]
  obtain old | fresh := record_triggeredId kept
  · split_ifs
    · exact lt_max_of_lt_left one_pos
    · exact backed identity old
  · rw [if_pos fresh]
    exact lt_max_of_lt_left one_pos

theorem endedIn_append {scans : List SignalScan} {scan : SignalScan} :
    EndedIn (scans ++ [scan]) identity ↔ EndedIn scans identity ∨
      scan.signalIdentity = identity ∧ scan.lifecycleState ∈ LifecycleState.ended := by
  unfold EndedIn
  simp [or_and_right, exists_or]

theorem triggeredIn_append {scans : List SignalScan} {scan : SignalScan} :
    TriggeredIn (scans ++ [scan]) identity ↔ TriggeredIn scans identity ∨
      scan.lifecycleState = .triggered ∧ scan.decision ≠ .wait ∧
        scan.signalIdentity = identity := by
  unfold TriggeredIn
  simp [or_and_right, exists_or]

/-! ### Every scan -/

/-- The shadow rows are those of the triggered identities. -/
structure SignalWatch.Recorded (watch : SignalWatch) : Prop where
  backed : ∀ row ∈ watch.saved, Backed row watch.rows
  once : ∀ identity, actionableRows watch.rows identity =
    if TriggeredIn watch.scans identity then 1 else 0

/-- What a scan saves, before the shadow ids are set. -/
abbrev savedBy (symbol : String) (maxSignalAgeBars : ℤ) (watch : SignalWatch)
    (input : SignalInput) : SignalState :=
  saveSignal symbol watch.saved input (assessSignal symbol watch.saved input maxSignalAgeBars)

theorem SignalWatch.Recorded.savedBy (recorded : watch.Recorded) :
    Backed (savedBy symbol maxSignalAgeBars watch input) watch.rows := by
  intro identity kept
  obtain ⟨old, held, before⟩ := saveSignal_triggeredId watch.saved kept
  exact recorded.backed old held identity before

theorem SignalWatch.Recorded.scan (recorded : watch.Recorded) (symbol : String)
    (maxSignalAgeBars : ℤ) (input : SignalInput) :
    (watch.scan symbol maxSignalAgeBars input).Recorded where
  backed row held := by
    rw [← Option.mem_some_iff.mp held]
    exact record_backed recorded.savedBy
  once identity := by
    refine (record_actionable recorded.savedBy identity).trans ?_
    rw [recorded.once identity]
    simp only [SignalWatch.scan, triggeredIn_append]
    by_cases before : TriggeredIn watch.scans identity
    · rw [if_pos before, max_self, ite_self, if_pos (.inl before)]
    · simp only [before, false_or]
      rfl

theorem SignalWatch.Recorded.start : SignalWatch.Recorded {} := by
  refine ⟨fun row held => absurd held (Option.not_mem_none row), fun identity => ?_⟩
  have none : ¬ TriggeredIn [] identity := fun ⟨_, member, _⟩ => List.not_mem_nil member
  rw [if_neg none]
  rfl

/-- What holds throughout a run whose scans restart no ended signal and wake no aged one. -/
structure SignalWatch.Followed (maxSignalAgeBars : ℤ) (watch : SignalWatch) : Prop
    extends watch.Saved, watch.Recorded where
  neverRevived : NeverRevived watch.scans
  young : ∀ scan ∈ watch.scans, scan.lifecycleState = .triggered →
    scan.ageBars < maxSignalAgeBars

theorem SignalWatch.Saved.scan (saved : watch.Saved)
    (fresh : ¬ watch.RestartsEnded symbol input) :
    (watch.scan symbol maxSignalAgeBars input).Saved := by
  obtain ⟨armed, triggered, saved_eq⟩ : ∃ armed triggered,
      (watch.scan symbol maxSignalAgeBars input).saved =
        some { savedBy symbol maxSignalAgeBars watch input with
          lastShadowArmedSignalId := armed, lastShadowTriggeredSignalId := triggered } := by
    obtain ⟨armed, triggered, row_eq⟩ := record_row watch.rows
    exact ⟨armed, triggered, congrArg some row_eq⟩
  refine ⟨?_, ?_, ?_⟩ <;> rw [saved_eq] <;> rintro row held <;>
    obtain rfl := Option.mem_some_iff.mp held
  · rfl
  · exact instanceStartedMs_ne_zero watch.saved
  · show EndedIn (watch.scans ++ [_]) _ ↔ _
    rw [endedIn_append]
    exact ⟨fun ended => (ended.resolve_left (saved.not_ended fresh)).2, fun now => .inr ⟨rfl, now⟩⟩

theorem SignalWatch.Followed.scan (followed : watch.Followed maxSignalAgeBars)
    (positive : 0 < maxSignalAgeBars)
    (calm : ¬ watch.RestartsEnded symbol input ∧ ¬ watch.WakesAged symbol maxSignalAgeBars input) :
    (watch.scan symbol maxSignalAgeBars input).Followed maxSignalAgeBars where
  toSaved := followed.toSaved.scan calm.1
  toRecorded := followed.toRecorded.scan symbol maxSignalAgeBars input
  neverRevived := by
    refine List.pairwise_append.mpr ⟨followed.neverRevived, List.pairwise_singleton _ _, ?_⟩
    rintro earlier member later alone same ended
    obtain rfl := List.mem_singleton.mp alone
    exact absurd ⟨earlier, member, same.symm, ended⟩ (followed.toSaved.not_ended calm.1)
  young := by
    intro scan member triggered
    obtain earlier | alone := List.mem_append.mp member
    · exact followed.young scan earlier triggered
    · obtain rfl := List.mem_singleton.mp alone
      exact followed.toSaved.young positive calm.1 calm.2 triggered

theorem SignalWatch.Followed.wellFollowed (followed : watch.Followed maxSignalAgeBars) :
    watch.WellFollowed maxSignalAgeBars where
  neverRevived := followed.neverRevived
  young _ scan newly := followed.young scan (List.mem_of_getElem? newly.1) newly.2.1
  recorded := followed.once

theorem SignalWatch.Followed.start : SignalWatch.Followed maxSignalAgeBars {} where
  toRecorded := .start
  identity row held := absurd held (Option.not_mem_none row)
  started row held := absurd held (Option.not_mem_none row)
  ended row held := absurd held (Option.not_mem_none row)
  neverRevived := .nil
  young _ member := absurd member List.not_mem_nil

/-- In every run whose scans restart no ended signal and wake no aged candidate, no ended identity
is armed or triggered again, a newly triggered one is young, and it has one actionable row from
then on and none before. -/
theorem signals_wellFollowed (positive : 0 < maxSignalAgeBars) (inputs : List SignalInput)
    (calm : Runs.Each (SignalWatch.scan symbol maxSignalAgeBars) (fun watch input =>
      ¬ watch.RestartsEnded symbol input ∧ ¬ watch.WakesAged symbol maxSignalAgeBars input) {}
      inputs) :
    Runs.Throughout (SignalWatch.scan symbol maxSignalAgeBars)
      (SignalWatch.WellFollowed maxSignalAgeBars) {} inputs :=
  have followed : Runs.Throughout _ (SignalWatch.Followed maxSignalAgeBars) {} inputs :=
    Runs.throughout_of_each (fun _ _ followed calm => followed.scan positive calm) .start calm
  followed.mono fun _ followed => followed.wellFollowed

/-! ### Runs -/

instance : Decidable (watch.RestartsEnded symbol input) := inferInstanceAs (Decidable (EndedIn _ _))

instance : Decidable (watch.WakesAged symbol maxSignalAgeBars input) :=
  have : Decidable (∃ row ∈ watch.saved, row.lifecycleState = .candidate ∧
      row.createdBarEndMs + maxSignalAgeBars * quarterMs ≤ input.barEndMs) :=
    inferInstanceAs (Decidable (∃ _ ∈ _, _))
  inferInstanceAs (Decidable (_ ∧ _))

instance (scans : List SignalScan) : Decidable (NeverRevived scans) :=
  inferInstanceAs (Decidable (List.Pairwise _ _))

def pullback (bar : ℕ) (decision : DirectionalDecision) (entryQuality : EntryQuality) :
    SignalInput where
  barEndMs := 1700000100000 + bar * quarterMs
  plan := ⟨decision, .trendPullback, entryQuality, 100, 101, 95, 110, .none, none, none⟩
  rawDecision := decision
  swingLow1h := some 98
  barEnd_positive := by unfold quarterMs; omega

/-- A pullback that triggers, is stopped by a gate, comes back in a later bar and triggers again. -/
theorem later_pullback_wellFollowed :
    Runs.Throughout (SignalWatch.scan "SOLUSDT" 8) (SignalWatch.WellFollowed 8) {}
      [pullback 0 .long .good, pullback 0 .wait .poor, pullback 1 .wait .poor,
        pullback 2 .long .good, pullback 3 .long .good] :=
  signals_wellFollowed (by decide) _ (by decide +kernel)

/-- In one bar a pullback triggers, is stopped, and triggers again under its ended identity. And a
pullback that waits for eight bars is then triggered. -/
theorem pullback_revived_and_woken :
    ¬ Runs.Throughout (SignalWatch.scan "SOLUSDT" 8) (SignalWatch.WellFollowed 8) {}
      [pullback 0 .long .good, pullback 0 .wait .marginal, pullback 0 .long .good] ∧
    ¬ Runs.Throughout (SignalWatch.scan "SOLUSDT" 8) (SignalWatch.WellFollowed 8) {}
      [pullback 0 .wait .poor, pullback 8 .long .good] := by
  constructor <;> intro followed
  · exact absurd followed.last.neverRevived (by decide +kernel)
  · obtain ⟨previous, scan, scans_eq, waited, triggered, aged⟩ : ∃ previous scan,
        (Runs.run (SignalWatch.scan "SOLUSDT" 8) {} [pullback 0 .wait .poor,
          pullback 8 .long .good]).scans = [previous, scan] ∧
        previous.lifecycleState ≠ .triggered ∧ scan.lifecycleState = .triggered ∧
        8 ≤ scan.ageBars := by
      refine ⟨_, _, rfl, ?_, ?_, ?_⟩ <;> decide +kernel
    refine absurd (followed.last.young 1 scan ?_) aged.not_gt
    rw [scans_eq]
    refine ⟨rfl, triggered, ?_⟩
    rintro first - ⟨⟩ ⟨-, before⟩
    exact waited before

end QuantAgent.MarketWatch
