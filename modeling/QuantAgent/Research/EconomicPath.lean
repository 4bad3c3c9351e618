/-
This file says by which path economic decisions come into the registry. A promotion is only ever
recorded with an attestation that passed; a rejection of a statistically qualified revision under
the P6 source, or with an economic result, is recorded by the general status update as well, which
asks for no attestation. Every run is free of such decisions exactly when no such update reaches
the file.
-/

import QuantAgent.Research.Linear

namespace QuantAgent.Research

section

variable [Platform]

/-- The commit added the event at the end of the log. -/
def Commit.Appends (commit : Commit) (event : DecisionEvent) : Prop :=
  commit.prepared.contents.events = commit.before.events ++ [event]

/-- The commit is of an economic qualification whose attestation passed. -/
def Commit.Attested (commit : Commit) : Prop :=
  commit.operation.Attested commit.before commit.prepared.contents commit.surroundings

def System.Holds (system : System) (event : DecisionEvent) : Prop :=
  (∃ number own, system.instances number = some own ∧ event ∈ own.memory.contents.events) ∨
    ∃ raw stored, system.shared.file = some raw ∧ readState raw = .ok stored ∧
      event ∈ stored.contents.events

def System.DecidedByP6 (system : System) : Prop :=
  (∀ event, system.Holds event → ∃ commit ∈ system.shared.commits, commit.Appends event) ∧
    ∀ commit ∈ system.shared.commits, ∀ event, commit.Appends event → event.Economic →
      commit.Attested

/-- The step writes a status update that rejects a revision as only P6 should. -/
def System.ReplacesBypass (system : System) (event : Event) : Prop :=
  ∃ number own commit, event = .turn number .replace ∧ system.instances number = some own ∧
    own.phase = .fresh commit ∧ commit.operation.Bypasses commit.before

instance (contents : Contents) (operation : Operation) :
    Decidable (operation.Bypasses contents) :=
  match operation with
  | .updateDecisionStatus .. => inferInstanceAs (Decidable (_ ∧ _ ∧ (_ ∨ _)))
  | .registerExperiment .. => inferInstanceAs (Decidable False)
  | .registerEvidence .. => inferInstanceAs (Decidable False)
  | .recordEconomicQualification .. => inferInstanceAs (Decidable False)
  | .save .. => inferInstanceAs (Decidable False)

/-! ### One commit -/

variable {commits : List Commit} {commit : Commit} {memory : Memory} {system : System}
  {contents after : Contents} {surroundings : Surroundings} {operation : Operation}

theorem economic_of_bypasses (bypasses : operation.Bypasses contents)
    (attempted : contents.attempt surroundings operation = .ok (.commit after)) :
    (∃ event, after.events = contents.events ++ [event] ∧ event.Economic) ∧
      ¬ operation.Attested contents after surroundings := by
  cases operation with
  | updateDecisionStatus revision newStatus references reason actor source decidedAtUtc
      statisticalResultId economicResultId =>
    obtain ⟨qualified, rejects, bound⟩ := bypasses
    refine ⟨?_, id⟩
    unfold Contents.attempt Contents.updateDecisionStatus at attempted
    obtain ⟨-, attempted⟩ := refuse_bind_eq_ok.mp attempted
    rw [rejects, Except.bind_ok, qualified, Except.bind_ok] at attempted
    obtain ⟨-, attempted⟩ := refuse_bind_eq_ok.mp attempted
    obtain ⟨-, attempted⟩ := refuse_bind_eq_ok.mp attempted
    obtain ⟨-, attempted⟩ := refuse_bind_eq_ok.mp attempted
    obtain ⟨-, attempted⟩ := refuse_bind_eq_ok.mp attempted
    obtain ⟨⟨evidence, evidenceIds⟩, -, attempted⟩ := bind_eq_ok.mp attempted
    obtain ⟨-, attempted⟩ := refuse_bind_eq_ok.mp attempted
    obtain ⟨-, attempted⟩ := refuse_bind_eq_ok.mp attempted
    obtain ⟨-, attempted⟩ := refuse_bind_eq_ok.mp attempted
    obtain ⟨event, created, made⟩ := bind_eq_ok.mp attempted
    cases made
    have fields := DecisionEvent.create_eq_ok created
    refine ⟨event, rfl, ?_⟩
    unfold DecisionEvent.Economic
    rw [fields]
    exact ⟨rfl, .inr ⟨rfl, bound⟩⟩
  | _ => exact bypasses.elim

variable {event : DecisionEvent}

theorem Commit.Made.attested (made : commit.Made memory)
    (honest : ¬ commit.operation.Bypasses commit.before)
    (appends : commit.Appends event) (economic : event.Economic) : commit.Attested := by
  unfold Commit.Attested Commit.Appends at *
  rw [made.before] at honest appends ⊢
  exact (made.effect.decided event appends economic).resolve_left honest

theorem Linear.exists_appends (linear : Linear commits)
    (member : event ∈ (memoryAfter commits).contents.events) :
    ∃ commit ∈ commits, commit.Appends event := by
  induction commits using List.reverseRecOn with
  | nil => cases member
  | append_singleton commits commit inductionHypothesis =>
    rw [memoryAfter_concat] at member
    have made := linear.last
    have earlier (old : event ∈ (memoryAfter commits).contents.events) :
        ∃ other ∈ commits ++ [commit], other.Appends event := by
      obtain ⟨other, own, appends⟩ := inductionHypothesis linear.left old
      exact ⟨other, List.mem_append_left _ own, appends⟩
    obtain same | ⟨added, appended⟩ := made.effect.extends_.events
    · exact earlier (same ▸ member)
    · have held : event ∈ commit.prepared.contents.events := member
      rw [appended, List.mem_append, List.mem_singleton] at held
      obtain old | rfl := held
      · exact earlier old
      · refine ⟨commit, List.mem_append_right _ (List.mem_singleton_self _), ?_⟩
        unfold Commit.Appends
        rw [made.before, appended]

/-! ### Every run -/

theorem System.Sound.exists_appends (sound : system.Sound)
    (holds : system.Holds event) : ∃ commit ∈ system.shared.commits, commit.Appends event := by
  obtain ⟨number, own, held, member⟩ | ⟨raw, stored, file, read, member⟩ := holds
  · obtain ⟨earlier, later, split, same⟩ := (sound.instances number own held).memory
    have linear := sound.shared.linear
    rw [split] at linear
    rw [same] at member
    obtain ⟨commit, own, appends⟩ := linear.left.exists_appends member
    exact ⟨commit, by rw [split]; exact List.mem_append_left _ own, appends⟩
  · obtain ⟨none, -⟩ | ⟨other, found, some, reads, same⟩ := sound.shared.cases
    · cases none.symm.trans file
    · obtain rfl := Option.some.inj (some.symm.trans file)
      obtain rfl := Except.ok.inj (reads.symm.trans read)
      refine sound.shared.linear.exists_appends ?_
      rw [← same]
      exact member

theorem System.step_commits (system : System) (event : Event) :
    (system.step event).shared.commits = system.shared.commits ∨
      ∃ number own commit, event = .turn number .replace ∧ system.instances number = some own ∧
        own.phase = .fresh commit ∧
        (system.step event).shared.commits = system.shared.commits ++ [commit] := by
  obtain ⟨-, same⟩ | ⟨number, -, -, rfl, -⟩ := system.step_file event
  · exact .inl same
  · cases held : system.instances number with
    | none => exact .inl (by simp [System.step, held])
    | some own =>
      simp only [System.step, held]
      obtain ⟨-, same⟩ | ⟨-, -, commit, phase, commits, -⟩ :=
        take_file number system.shared own .replace
      · exact .inl same
      · exact .inr ⟨number, own, commit, rfl, held, phase, commits⟩

theorem System.Sound.decided {event : Event}
    (known : system.Sound ∧ system.DecidedByP6) (honest : ¬ system.ReplacesBypass event) :
    (system.step event).Sound ∧ (system.step event).DecidedByP6 := by
  have sound := known.1.step event
  refine ⟨sound, fun appended holds => sound.exists_appends holds, ?_⟩
  intro commit member appended appends economic
  obtain same | ⟨number, own, added, rfl, held, phase, commits⟩ := system.step_commits event
  · rw [same] at member
    exact known.2.2 commit member appended appends economic
  · rw [commits, List.mem_append, List.mem_singleton] at member
    obtain old | rfl := member
    · exact known.2.2 commit old appended appends economic
    · have linear := sound.shared.linear
      rw [commits] at linear
      exact linear.last.attested (fun bypasses => honest ⟨number, own, commit, rfl, held, phase,
        bypasses⟩) appends economic

theorem System.Sound.honest {event : Event} (known : system.Sound ∧ system.DecidedByP6)
    (decided : (system.step event).DecidedByP6) : ¬ system.ReplacesBypass event := by
  rintro ⟨number, own, commit, rfl, held, phase, bypasses⟩
  have commits : (system.step (.turn number .replace)).shared.commits =
      system.shared.commits ++ [commit] := by
    simp [System.step, held, Instance.take, phase, System.put]
  have linear := (known.1.step (.turn number .replace)).shared.linear
  rw [commits] at linear
  have made := linear.last
  rw [made.before] at bypasses
  obtain ⟨⟨event, appends, economic⟩, bare⟩ := economic_of_bypasses bypasses made.attempted
  have attested : commit.Attested := by
    refine decided.2 commit ?_ event ?_ economic
    · rw [commits]
      exact List.mem_append_right _ (List.mem_singleton_self _)
    · unfold Commit.Appends
      rw [made.before, appends]
  unfold Commit.Attested at attested
  rw [made.before] at attested
  exact bare attested

theorem System.decided_initial : System.DecidedByP6 {} := by
  refine ⟨fun event holds => ?_, fun commit member => by cases member⟩
  obtain ⟨number, own, held, -⟩ | ⟨raw, stored, file, -⟩ := holds
  · cases held
  · cases file

theorem unattested_of_replacesBypass (before : List Event) {event : Event}
    (bypass : (Runs.run System.step {} before).ReplacesBypass event) :
    ¬ Runs.Throughout System.step System.DecidedByP6 {} (before ++ [event]) := by
  intro throughout
  have sound : (Runs.run System.step {} before).Sound :=
    (Runs.throughout_of_keeps (fun _ event sound => System.Sound.step event sound) .initial
      before).last
  have decided := throughout.last
  rw [Runs.run_append] at decided
  exact System.Sound.honest ⟨sound, throughout.left.last⟩ decided bypass

/-- Economic decisions come from attested qualifications in every state of a run exactly when no
step of it writes a status update that rejects a revision as only P6 should. -/
theorem economic_decisions_attested_iff (events : List Event) :
    Runs.Throughout System.step System.DecidedByP6 {} events ↔
      Runs.Each System.step (fun system event => ¬ system.ReplacesBypass event) {} events :=
  Runs.throughout_iff_each (fun _ _ known honest => System.Sound.decided known honest)
    (fun _ known => known.2) (fun _ _ known decided => System.Sound.honest known decided)
    ⟨.initial, System.decided_initial⟩

end

/-! ### A rejection without an attestation -/

section

def mixText (seed : ℕ) (text : String) : ℕ :=
  text.toByteArray.data.toList.foldl (fun mixed byte => (mixed * 31 + byte.toNat) % 2 ^ 64) seed

mutual

def mixJson (seed : ℕ) : Json → ℕ
  | .null => mixText seed "null"
  | .bool value => mixText seed (toString value)
  | .int value => mixText seed (toString value)
  | .float _ => mixText seed "float"
  | .str text => mixText seed text
  | .arr items => mixItems seed items
  | .obj members => mixMembers seed members

def mixItems (seed : ℕ) : List Json → ℕ
  | [] => seed
  | item :: items => mixItems (mixJson seed item) items

def mixMembers (seed : ℕ) : List (String × Json) → ℕ
  | [] => seed
  | (key, value) :: members => mixMembers (mixJson (mixText seed key) value) members

end

/-- Sixty-four hexadecimal digits. -/
def hexDigits (number : ℕ) : String :=
  String.ofList (List.leftpad 64 '0' (Nat.toDigits 16 number))

def someTime : String := "2026-01-01T00:00:00+00:00"

/-- A platform whose digests tell apart what is hashed here, and which knows one date. -/
local instance mixingPlatform : Platform where
  sha256 value := hexDigits (mixJson 7 value)
  isTimestamp text := text = someTime
  localPath _ := none
  repr _ := ""
  parseInt _ := none
  parseFloat _ := none

def someIdentity : VersionedIdentity :=
  ⟨"input", "1", hexDigits 1, by decide +kernel, by decide +kernel, by decide +kernel⟩

def someFields : ExperimentFields where
  experimentId := "momentum"
  name := "Momentum"
  inputContract := someIdentity
  featureDefinition := ⟨"f", "return", "close - open", [], .ofMembers [], none,
    by decide +kernel, by decide +kernel, by decide +kernel, by decide +kernel⟩
  predictionTarget := ⟨"t", "next return", 3600000, "one hour", true,
    "future_close - reference_close", by decide +kernel, by decide +kernel, by decide +kernel,
    by decide +kernel, by decide +kernel⟩
  evaluationMethod := ⟨"walk forward", "t-test", "HOLM_BONFERRONI", .finite (1 / 20),
    .ofMembers [], by decide +kernel, by decide +kernel, by decide +kernel, by decide +kernel⟩
  economicPolicy := someIdentity
  costModel := someIdentity
  executionModel := someIdentity
  benchmark := .identity someIdentity
  productScope := ["BTCUSDT"]
  codeRevision := "abc"
  terminalPolicy := "FLAT"
  signalProducerContract := none
  createdAtUtc := someTime
  metadata := .ofMembers []

def someExperiment : ExperimentMetadata where
  toExperimentFields := someFields
  experimentId_text := by decide +kernel
  name_text := by decide +kernel
  productScope_texts := by decide +kernel
  codeRevision_text := by decide +kernel
  terminalPolicy_text := by decide +kernel
  createdAtUtc_timestamp := by decide +kernel
  finite := by decide +kernel

def someEvidence : EvidenceReference where
  evidenceType := "STATISTICAL_RESULT"
  logicalId := "statistics"
  contentSha256 := hexDigits 2
  observedAtUtc := someTime
  producingRevisionId := someExperiment.experimentRevisionId
  producingCodeRevision := "abc"
  completeness := .complete
  pathOrUri := none
  metadata := .ofMembers []
  evidenceType_text := by decide +kernel
  logicalId_text := by decide +kernel
  contentSha256_digest := by decide +kernel
  observedAtUtc_timestamp := by decide +kernel
  producingRevisionId_text := by decide +kernel
  producingCodeRevision_text := by decide +kernel
  pathOrUri_text := by decide +kernel

def someSurroundings : Surroundings where
  utcNow := someTime
  fileDigest _ := none
  validateEconomicAttestation _ _ _ := .error "economic attestation revision mismatch"

/-- The turns of the first instance that lead an operation up to its replacement of the file. -/
def preparing (operation : Operation) : List Event :=
  [.turn 0 (.enter someSurroundings operation), .turn 0 .acquire, .turn 0 .compare]

def committing (operation : Operation) : List Event :=
  preparing operation ++ [.turn 0 .replace, .turn 0 .confirm]

def manualDecision (newStatus source : String) : Operation :=
  .updateDecisionStatus someExperiment.experimentRevisionId newStatus [.record someEvidence]
    "decided by hand" "operator" source none none none

def beforeRejection : List Event :=
  .create 0 ::
    committing (.registerExperiment someExperiment false "operator" "P5" none) ++
    committing (manualDecision "STATISTICALLY_QUALIFIED" "P5") ++
    preparing (manualDecision "REJECTED" p6DecisionSource)

/-- The memory of an instance that has committed the operation. -/
def committed (memory : Memory) (operation : Operation) : Option Memory :=
  match memory.contents.attempt someSurroundings operation with
  | .ok (.commit contents) =>
    match prepare memory.generation contents with
    | .ok prepared => some (Commit.memory ⟨someSurroundings, operation, memory.contents, prepared⟩)
    | .error _ => none
  | _ => none

/-- The first instance is idle and knows what the file says; nobody holds the lock. -/
structure Waits (memory : Memory) (system : System) : Prop where
  held : ∃ own, system.instances 0 = some own ∧ own.phase = .idle ∧ own.memory = memory
  free : system.shared.holder = none
  current : system.shared.actualGeneration = .ok memory.generation
  keyed : memory.contents.Keyed

variable {memory later : Memory} {system : System} {operation : Operation}

theorem waits_created : Waits {} (Runs.run System.step {} [.create 0]) where
  held := ⟨_, rfl, rfl, rfl⟩
  free := rfl
  current := rfl
  keyed := ⟨fun _ _ => nofun, fun _ _ => nofun⟩

theorem exists_made_of_committed (done : committed memory operation = some later) :
    ∃ commit : Commit, commit.surroundings = someSurroundings ∧ commit.operation = operation ∧
      commit.Made memory ∧ later = commit.memory := by
  unfold committed at done
  split at done
  · next contents attempted =>
    split at done
    · next prepared ready =>
      obtain ⟨-, _, -, same⟩ := prepare_eq_ok ready
      obtain rfl : prepared.contents = contents := congrArg Prepared.contents same
      exact ⟨⟨someSurroundings, operation, memory.contents, prepared⟩, rfl, rfl,
        ⟨rfl, attempted, ready⟩, (Option.some.inj done).symm⟩
    · cases done
  · cases done

variable {commit : Commit}

/-- An instance that waits comes up to its replacement of the file. -/
theorem Waits.prepares (waits : Waits memory system) (made : commit.Made memory)
    (outside : commit.surroundings = someSurroundings) :
    ∃ own, own.phase = .fresh commit ∧
      Runs.run System.step system (preparing commit.operation) =
        system.put 0 { system.shared with holder := some 0 } (some own) := by
  obtain ⟨surroundings, operation, before, prepared⟩ := commit
  obtain ⟨⟨memory, phase, outcome, began, wrote⟩, held, rfl, rfl⟩ := waits.held
  obtain rfl : surroundings = someSurroundings := outside
  obtain rfl : before = memory.contents := made.before
  have attempted := made.attempted
  have ready := made.prepared
  have current : Shared.actualGeneration { system.shared with holder := some 0 } =
      .ok memory.generation := waits.current
  refine ⟨{ memory := memory, phase := .fresh ⟨_, operation, _, prepared⟩ }, rfl, ?_⟩
  simp [preparing, Runs.run, System.step, System.put, held, Instance.take, Instance.enter,
    Instance.anew, attempted, ready, waits.free, current]

theorem Waits.commits (waits : Waits memory system) (made : commit.Made memory)
    (outside : commit.surroundings = someSurroundings) :
    Waits commit.memory (Runs.run System.step system (committing commit.operation)) := by
  obtain ⟨own, fresh, led⟩ := waits.prepares made outside
  unfold committing
  rw [Runs.run_append, led]
  simp only [Runs.run, System.put, List.foldl_cons, System.step, Function.update_self,
    Instance.take, fresh, Function.update_idem, List.foldl_nil]
  have current : (readState commit.prepared.encoded).map Stored.generation =
      .ok commit.prepared.generation := by
    rw [made.readState waits.keyed]
    rfl
  exact ⟨⟨_, Function.update_self 0 _ system.instances, rfl, rfl⟩, rfl, current,
    made.effect.keyed waits.keyed⟩

/-- Both commits happen, and the rejection is then such an update and would be committed. -/
theorem rejection_committed :
    ((committed {} (.registerExperiment someExperiment false "operator" "P5" none)).bind
      fun first => (committed first (manualDecision "STATISTICALLY_QUALIFIED" "P5")).bind
      fun second => if (manualDecision "REJECTED" p6DecisionSource).Bypasses second.contents
        then committed second (manualDecision "REJECTED" p6DecisionSource) else none).isSome := by
  decide +kernel

theorem replacesBypass_beforeRejection :
    (Runs.run System.step {} beforeRejection).ReplacesBypass (.turn 0 .replace) := by
  obtain ⟨third, done⟩ := Option.isSome_iff_exists.mp rejection_committed
  obtain ⟨first, registered, done⟩ := Option.bind_eq_some_iff.mp done
  obtain ⟨second, qualified, done⟩ := Option.bind_eq_some_iff.mp done
  obtain ⟨bypasses, done⟩ := Option.ite_none_right_eq_some.mp done
  obtain ⟨commit, outside, operation, made, rfl⟩ := exists_made_of_committed registered
  have once := waits_created.commits made outside
  rw [operation] at once
  obtain ⟨commit, outside, operation, made, rfl⟩ := exists_made_of_committed qualified
  have twice := once.commits made outside
  rw [operation] at twice
  obtain ⟨commit, outside, operation, made, -⟩ := exists_made_of_committed done
  obtain ⟨own, fresh, led⟩ := twice.prepares made outside
  rw [operation] at led
  refine ⟨0, own, commit, rfl, ?_, fresh, ?_⟩
  · have parts : beforeRejection = [.create 0] ++
      committing (.registerExperiment someExperiment false "operator" "P5" none) ++
      committing (manualDecision "STATISTICALLY_QUALIFIED" "P5") ++
      preparing (manualDecision "REJECTED" p6DecisionSource) := rfl
    rw [parts, Runs.run_append, Runs.run_append, Runs.run_append, led, System.put_instances]
    exact if_pos rfl
  · rw [operation, made.before]
    exact bypasses

/-- The rejection is recorded although nothing attested it. -/
theorem manual_rejection_unattested :
    ¬ Runs.Throughout System.step System.DecidedByP6 {}
      (beforeRejection ++ [.turn 0 .replace]) :=
  unattested_of_replacesBypass beforeRejection replacesBypass_beforeRejection

end

end QuantAgent.Research
