/-
This file proves that the commits to a registry file form one chain, whatever the instances do and
wherever they stop: each was made from the one before it, keeps every record and every event, and
appends at most one event. What an instance has in its memory is one of the committed states.

The argument is the lock: between the comparison of the generations and the replacement no other
instance writes, so the file still holds what the memory was read from.
-/

import QuantAgent.Research.Instances

namespace QuantAgent.Research

open Instance

variable [Platform]

/-! ### The chain of commits -/

def memoryAfter (commits : List Commit) : Memory :=
  (commits.getLast?.map Commit.memory).getD {}

structure Commit.Made (commit : Commit) (memory : Memory) : Prop where
  before : commit.before = memory.contents
  attempted : memory.contents.attempt commit.surroundings commit.operation =
    .ok (.commit commit.prepared.contents)
  prepared : prepare memory.generation commit.prepared.contents = .ok commit.prepared

/-- Each commit was made from the state that the one before it left. -/
def Linear (commits : List Commit) : Prop :=
  ∀ earlier commit later, commits = earlier ++ commit :: later → commit.Made (memoryAfter earlier)

variable {commits earlier later : List Commit} {commit : Commit} {memory : Memory}

@[simp] theorem memoryAfter_concat : memoryAfter (commits ++ [commit]) = commit.memory := by
  simp [memoryAfter]

theorem Linear.nil : Linear [] := fun earlier commit later empty => by simp at empty

theorem Linear.left (linear : Linear (earlier ++ later)) : Linear earlier := by
  rintro first commit rest rfl
  exact linear first commit (rest ++ later) (by simp)

theorem Linear.concat (linear : Linear commits) (made : commit.Made (memoryAfter commits)) :
    Linear (commits ++ [commit]) := by
  intro earlier other later split
  obtain rfl | ⟨rest, last, rfl⟩ := List.eq_nil_or_concat later
  · obtain ⟨rfl, same⟩ := List.append_inj' split rfl
    obtain rfl := List.singleton_inj.mp same
    exact made
  · have parts : commits ++ [commit] = (earlier ++ other :: rest) ++ [last] := by
      rw [split]
      simp
    obtain ⟨whole, -⟩ := List.append_inj' parts rfl
    exact linear earlier other rest whole

theorem Linear.last (linear : Linear (commits ++ [commit])) : commit.Made (memoryAfter commits) :=
  linear commits commit [] rfl

namespace Commit.Made

theorem generation (made : commit.Made memory) :
    commit.prepared.generation = memory.generation + 1 := by
  obtain ⟨-, contentHash, -, same⟩ := prepare_eq_ok made.prepared
  rw [same]

theorem effect (made : commit.Made memory) :
    memory.contents.Commits commit.prepared.contents
      (commit.operation.Bypasses memory.contents ∨
        commit.operation.Attested memory.contents commit.prepared.contents commit.surroundings) :=
  commits_attempt made.attempted

theorem readState (made : commit.Made memory) (keyed : memory.contents.Keyed) :
    readState commit.prepared.encoded =
      .ok ⟨commit.prepared.contents, commit.prepared.generation, commit.prepared.contentHash⟩ := by
  rw [made.generation]
  exact readState_prepared (made.effect.keyed keyed) made.prepared

end Commit.Made

namespace Linear

theorem generation (linear : Linear commits) :
    (memoryAfter commits).generation = commits.length := by
  induction commits using List.reverseRecOn with
  | nil => rfl
  | append_singleton commits commit inductionHypothesis =>
    rw [memoryAfter_concat, List.length_append]
    show commit.prepared.generation = _
    rw [linear.last.generation, inductionHypothesis linear.left]
    rfl

theorem keyed (linear : Linear commits) : (memoryAfter commits).contents.Keyed := by
  induction commits using List.reverseRecOn with
  | nil => exact ⟨fun _ _ found => by simp [memoryAfter] at found,
      fun _ _ found => by simp [memoryAfter] at found⟩
  | append_singleton commits commit inductionHypothesis =>
    rw [memoryAfter_concat]
    exact linear.last.effect.keyed (inductionHypothesis linear.left)

end Linear

/-! ### What the instances share -/

structure Shared.Sound (shared : Shared) : Prop where
  linear : Linear shared.commits
  file : shared.file = shared.commits.getLast?.map fun commit => commit.prepared.encoded

namespace Shared.Sound

variable {shared : Shared}

theorem cases (sound : shared.Sound) :
    shared.file = none ∧ shared.commits = [] ∨
      ∃ raw stored, shared.file = some raw ∧ readState raw = .ok stored ∧
        stored.memory = memoryAfter shared.commits := by
  obtain empty | ⟨others, commit, same⟩ := List.eq_nil_or_concat shared.commits
  · refine .inl ⟨?_, empty⟩
    rw [sound.file, empty]
    rfl
  · rw [List.concat_eq_append] at same
    have linear := sound.linear
    have file := sound.file
    rw [same] at linear file
    refine .inr ⟨commit.prepared.encoded, _, ?_, linear.last.readState linear.left.keyed, ?_⟩
    · rw [file]
      simp
    · rw [same, memoryAfter_concat]
      rfl

theorem actualGeneration (sound : shared.Sound) :
    shared.actualGeneration = .ok shared.commits.length := by
  rw [← sound.linear.generation]
  unfold Shared.actualGeneration
  obtain ⟨file, empty⟩ | ⟨raw, stored, file, read, same⟩ := sound.cases
  · rw [file, empty]
    rfl
  · rw [file, ← same]
    show (readState raw).map Stored.generation = _
    rw [read]
    rfl

theorem load (sound : shared.Sound) :
    shared.commits = [] ∧ (∃ fault, shared.load = .error fault ∧ fault.kind = .corruption) ∨
      shared.commits ≠ [] ∧ shared.load = .ok (memoryAfter shared.commits) := by
  unfold Shared.load
  obtain ⟨file, empty⟩ | ⟨raw, stored, file, read, same⟩ := sound.cases
  · rw [file]
    exact .inl ⟨empty, _, rfl, rfl⟩
  · refine .inr ⟨fun empty => ?_, ?_⟩
    · rw [sound.file, empty] at file
      cases file
    · rw [file, ← same]
      show (readState raw).map Stored.memory = _
      rw [read]
      rfl

end Shared.Sound

/-! ### What an instance knows -/

/-- The operation has changed neither the file nor the memory. -/
def Instance.Untouched (own : Instance) : Prop := own.memory = own.began ∧ own.wrote = false

/-- What an instance that is committing knows of the file; `holds` says that it has the lock. -/
def Instance.Knows (own : Instance) (commits : List Commit) (holds : Prop) : Phase → Prop
  | .idle => True
  | .ready commit => commit.Made own.memory ∧ own.Untouched
  | .locked commit => holds ∧ commit.Made own.memory ∧ own.Untouched
  | .fresh commit => holds ∧ commit.Made own.memory ∧ own.Untouched ∧
      own.memory = memoryAfter commits
  | .replaced commit => holds ∧ own.memory = own.began ∧ commits ≠ [] ∧
      commit.memory = memoryAfter commits
  | .uncertain => holds ∧ own.memory = own.began ∧ (own.wrote = true → commits ≠ [])

structure Instance.Sound (own : Instance) (commits : List Commit) (holds : Prop) : Prop where
  memory : ∃ earlier later, commits = earlier ++ later ∧ own.memory = memoryAfter earlier
  phase : own.Knows commits holds own.phase
  running : own.phase ≠ .idle → own.outcome = none
  raised : ∀ fault, own.outcome = some (.raised fault) → own.Untouched

/-- What the turn of an instance leaves of what is shared. -/
structure Shared.Moves (number : ℕ) (shared after : Shared) : Prop where
  file : after.commits = shared.commits ∧ after.file = shared.file ∨
    shared.holder = some number ∧ ∃ commit, after.commits = shared.commits ++ [commit] ∧
      after.file = some commit.prepared.encoded
  holder : ∀ other, other ≠ number → (after.holder = some other ↔ shared.holder = some other)

/-- The shared state and an instance after its turn. -/
structure Shared.Leads (number : ℕ) (shared : Shared) (result : Shared × Instance) : Prop where
  sound : result.1.Sound
  instance_ : result.2.Sound result.1.commits (result.1.holder = some number)
  moves : shared.Moves number result.1

section

variable {number : ℕ} {shared : Shared} {own next : Instance} {holds : Prop} {fault : Fault}

theorem Shared.Moves.refl : shared.Moves number shared := ⟨.inl ⟨rfl, rfl⟩, fun _ _ => Iff.rfl⟩

theorem Shared.Moves.release (holding : shared.holder = some number) :
    shared.Moves number shared.release :=
  ⟨.inl ⟨rfl, rfl⟩, fun other different => by
    rw [holding]
    simp [Shared.release, Ne.symm different]⟩

theorem Shared.Sound.release (sound : shared.Sound) : shared.release.Sound :=
  ⟨sound.linear, sound.file⟩

theorem memoryAfter_of_begins (commits : List Commit) :
    ∃ earlier later, commits = earlier ++ later ∧ memoryAfter commits = memoryAfter earlier :=
  ⟨commits, [], (List.append_nil commits).symm, rfl⟩

theorem Instance.Sound.raise (sound : own.Sound commits holds) (untouched : own.Untouched)
    {after : Prop} : (own.raise fault).Sound commits after :=
  ⟨sound.memory, trivial, fun busy => absurd rfl busy, fun _ _ => untouched⟩

theorem Shared.Leads.stay (sound : shared.Sound)
    (known : own.Sound shared.commits (shared.holder = some number)) :
    shared.Leads number (shared, own) :=
  ⟨sound, known, .refl⟩

theorem leads_enter (surroundings : Surroundings) (operation : Operation) (sound : shared.Sound)
    (known : own.Sound shared.commits (shared.holder = some number)) :
    shared.Leads number (shared, own.enter surroundings operation) := by
  refine ⟨sound, ?_, .refl⟩
  have anew : own.anew.Untouched := ⟨rfl, rfl⟩
  unfold Instance.enter
  split
  · exact ⟨known.memory, trivial, fun busy => absurd rfl busy, fun _ _ => anew⟩
  · exact ⟨known.memory, trivial, fun busy => absurd rfl busy, fun _ _ => anew⟩
  · next contents attempted =>
    split
    · exact ⟨known.memory, trivial, fun busy => absurd rfl busy, fun _ _ => anew⟩
    · next prepared ready =>
      obtain ⟨-, contentHash, -, made⟩ := prepare_eq_ok ready
      have same : prepared.contents = contents := by rw [made]
      exact ⟨known.memory, ⟨⟨rfl, by rw [same]; exact attempted, by rw [same]; exact ready⟩, anew⟩,
        fun _ => rfl, nofun⟩

theorem leads_load (sound : shared.Sound)
    (known : own.Sound shared.commits (shared.holder = some number)) :
    shared.Leads number (shared, own.anew.reload shared .returned) := by
  refine ⟨sound, ?_, .refl⟩
  unfold Instance.reload
  obtain ⟨-, fault, failed, -⟩ | ⟨-, loaded⟩ := sound.load
  · rw [failed]
    exact ⟨known.memory, trivial, fun busy => absurd rfl busy, fun _ _ => ⟨rfl, rfl⟩⟩
  · rw [loaded]
    exact ⟨memoryAfter_of_begins _, trivial, fun busy => absurd rfl busy, nofun⟩

theorem leads_acquire (sound : shared.Sound)
    (known : own.Sound shared.commits (shared.holder = some number))
    (ready : own.phase = .ready commit) (free : shared.holder = none) :
    shared.Leads number
      ({ shared with holder := some number }, { own with phase := .locked commit }) := by
  have phase := known.phase
  rw [ready] at phase
  refine ⟨⟨sound.linear, sound.file⟩, ⟨known.memory, ⟨rfl, phase⟩, fun _ => known.running ?_,
    known.raised⟩, ⟨.inl ⟨rfl, rfl⟩, fun other different => ?_⟩⟩
  · rw [ready]
    exact nofun
  · rw [free]
    simp [Ne.symm different]

theorem Instance.Sound.current (known : own.Sound commits holds) (linear : Linear commits)
    (last : own.memory.generation = commits.length) : own.memory = memoryAfter commits := by
  obtain ⟨earlier, later, rfl, same⟩ := known.memory
  rw [same, linear.left.generation, List.length_append] at last
  have none : later = [] := List.length_eq_zero_iff.mp (by omega)
  rw [same, none, List.append_nil]

section

variable (sound : shared.Sound) (known : own.Sound shared.commits (shared.holder = some number))

include sound known

theorem leads_compare (locked : own.phase = .locked commit) :
    shared.Leads number (own.take number shared .compare) := by
  have phase := known.phase
  rw [locked] at phase
  obtain ⟨holding, made, untouched⟩ := phase
  unfold take
  rw [locked]
  dsimp only
  rw [sound.actualGeneration]
  dsimp only
  split_ifs with differs
  · exact ⟨sound.release, known.raise untouched, .release holding⟩
  · have current := known.current sound.linear (not_not.mp differs).symm
    refine ⟨sound, ⟨known.memory, ⟨holding, made, untouched, current⟩, fun _ => known.running ?_,
      known.raised⟩, .refl⟩
    rw [locked]
    exact nofun

theorem leads_fail (fresh : own.phase = .fresh commit) :
    shared.Leads number (own.take number shared (.fail fault)) := by
  have phase := known.phase
  rw [fresh] at phase
  obtain ⟨holding, -, untouched, -⟩ := phase
  unfold take
  rw [fresh]
  exact ⟨sound.release, known.raise untouched, .release holding⟩

theorem leads_failUncertain (fresh : own.phase = .fresh commit) :
    shared.Leads number (own.take number shared .failUncertain) := by
  have phase := known.phase
  rw [fresh] at phase
  obtain ⟨holding, -, untouched, -⟩ := phase
  unfold take
  rw [fresh]
  refine ⟨sound, ⟨known.memory, ⟨holding, untouched.1, fun wrote => ?_⟩,
    fun _ => known.running ?_, known.raised⟩, .refl⟩
  · rw [untouched.2] at wrote
    cases wrote
  · rw [fresh]
    exact nofun

theorem leads_replace (fresh : own.phase = .fresh commit) :
    shared.Leads number (own.take number shared .replace) := by
  have phase := known.phase
  rw [fresh] at phase
  obtain ⟨holding, made, untouched, current⟩ := phase
  have quiet : own.outcome = none := known.running (by rw [fresh]; exact nofun)
  unfold take
  rw [fresh]
  dsimp only
  refine ⟨⟨sound.linear.concat (current ▸ made), ?_⟩, ⟨?_, ⟨holding, untouched.1, ?_, ?_⟩,
    fun _ => quiet, fun fault raised => ?_⟩, ⟨.inr ⟨holding, commit, rfl, rfl⟩,
      fun _ _ => Iff.rfl⟩⟩
  · simp
  · obtain ⟨earlier, later, split, same⟩ := known.memory
    exact ⟨earlier, later ++ [commit], by simp [split], same⟩
  · simp
  · exact memoryAfter_concat.symm
  · cases quiet.symm.trans raised

theorem leads_confirm (replaced : own.phase = .replaced commit) :
    shared.Leads number (own.take number shared .confirm) := by
  have phase := known.phase
  rw [replaced] at phase
  obtain ⟨holding, -, -, last⟩ := phase
  unfold take
  rw [replaced]
  obtain ⟨earlier, later, split, same⟩ := memoryAfter_of_begins shared.commits
  exact ⟨sound.release, ⟨⟨earlier, later, split, last.trans same⟩, trivial,
    fun busy => absurd rfl busy, nofun⟩, .release holding⟩

theorem leads_doubt (replaced : own.phase = .replaced commit) :
    shared.Leads number (own.take number shared .doubt) := by
  have phase := known.phase
  rw [replaced] at phase
  obtain ⟨holding, began, some, -⟩ := phase
  unfold take
  rw [replaced]
  refine ⟨sound, ⟨known.memory, ⟨holding, began, fun _ => some⟩, fun _ => known.running ?_,
    known.raised⟩, .refl⟩
  rw [replaced]
  exact nofun

/-- The loading after a doubtful commit succeeds, because there is a file by then. -/
theorem leads_reconcile (uncertain : own.phase = .uncertain) :
    shared.Leads number (own.take number shared .reconcile) := by
  have phase := known.phase
  rw [uncertain] at phase
  obtain ⟨holding, began, written⟩ := phase
  unfold take
  rw [uncertain]
  refine ⟨sound.release, ?_, .release holding⟩
  dsimp only
  unfold Instance.reload
  obtain ⟨empty, fault, failed, -⟩ | ⟨-, loaded⟩ := sound.load
  · rw [failed]
    have unwritten : own.wrote = false := by
      cases wrote : own.wrote with
      | false => rfl
      | true => exact absurd empty (written wrote)
    exact known.raise ⟨began, unwritten⟩
  · rw [loaded]
    exact ⟨memoryAfter_of_begins _, trivial, fun busy => absurd rfl busy, nofun⟩

end

theorem leads_take (turn : Turn) (sound : shared.Sound)
    (known : own.Sound shared.commits (shared.holder = some number)) :
    shared.Leads number (own.take number shared turn) := by
  have stay := Shared.Leads.stay sound known
  cases turn with
  | enter surroundings operation =>
    cases phase : own.phase with
    | idle => simpa only [take, phase] using leads_enter surroundings operation sound known
    | _ => simpa only [take, phase] using stay
  | load =>
    cases phase : own.phase with
    | idle => simpa only [take, phase] using leads_load sound known
    | _ => simpa only [take, phase] using stay
  | acquire =>
    cases phase : own.phase with
    | ready commit =>
      cases free : shared.holder with
      | none =>
        simpa only [take, phase, free] using leads_acquire sound known phase free
      | some other => simpa only [take, phase, free] using stay
    | _ => simpa only [take, phase] using stay
  | compare =>
    cases phase : own.phase with
    | locked commit => exact leads_compare sound known phase
    | _ => simpa only [take, phase] using stay
  | fail fault =>
    cases phase : own.phase with
    | fresh commit => exact leads_fail sound known phase
    | _ => simpa only [take, phase] using stay
  | failUncertain =>
    cases phase : own.phase with
    | fresh commit => exact leads_failUncertain sound known phase
    | _ => simpa only [take, phase] using stay
  | replace =>
    cases phase : own.phase with
    | fresh commit => exact leads_replace sound known phase
    | _ => simpa only [take, phase] using stay
  | confirm =>
    cases phase : own.phase with
    | replaced commit => exact leads_confirm sound known phase
    | _ => simpa only [take, phase] using stay
  | doubt =>
    cases phase : own.phase with
    | replaced commit => exact leads_doubt sound known phase
    | _ => simpa only [take, phase] using stay
  | reconcile =>
    cases phase : own.phase with
    | uncertain => exact leads_reconcile sound known phase
    | _ => simpa only [take, phase] using stay

theorem Instance.Knows.moves {after : Shared} {other : ℕ} {phase : Phase}
    (moves : shared.Moves number after) (different : other ≠ number)
    (knows : own.Knows shared.commits (shared.holder = some other) phase) :
    own.Knows after.commits (after.holder = some other) phase := by
  have holds := moves.holder other different
  obtain ⟨commits, -⟩ | ⟨holding, commit, -, -⟩ := moves.file
  · have same : (after.holder = some other) = (shared.holder = some other) := propext holds
    rw [commits, same]
    exact knows
  · have idle : shared.holder ≠ some other := by
      rw [holding]
      exact fun same => different (Option.some.inj same).symm
    cases phase with
    | idle => trivial
    | ready commit => exact knows
    | locked commit => exact absurd knows.1 idle
    | fresh commit => exact absurd knows.1 idle
    | replaced commit => exact absurd knows.1 idle
    | uncertain => exact absurd knows.1 idle

theorem Shared.Sound.construct (sound : shared.Sound) (created : own ∈ shared.construct) :
    own.Sound shared.commits holds := by
  unfold Shared.construct at created
  split at created
  · cases created
    exact ⟨⟨[], shared.commits, rfl, rfl⟩, trivial, fun busy => absurd rfl busy,
      fun _ raised => by cases raised⟩
  · obtain ⟨-, fault, failed, -⟩ | ⟨-, loaded⟩ := sound.load
    · rw [failed] at created
      cases created
    · rw [loaded] at created
      cases created
      exact ⟨memoryAfter_of_begins _, trivial, fun busy => absurd rfl busy,
        fun _ raised => by cases raised⟩

theorem Instance.Sound.moves {after : Shared} {other : ℕ} (moves : shared.Moves number after)
    (different : other ≠ number)
    (known : own.Sound shared.commits (shared.holder = some other)) :
    own.Sound after.commits (after.holder = some other) where
  memory := by
    obtain ⟨earlier, later, split, same⟩ := known.memory
    obtain ⟨commits, -⟩ | ⟨-, commit, commits, -⟩ := moves.file
    · exact ⟨earlier, later, commits.trans split, same⟩
    · exact ⟨earlier, later ++ [commit], by simp [commits, split], same⟩
  phase := known.phase.moves moves different
  running := known.running
  raised := known.raised

end

/-! ### Every run -/

structure System.Sound (system : System) : Prop where
  shared : system.shared.Sound
  instances : ∀ number own, system.instances number = some own →
    own.Sound system.shared.commits (system.shared.holder = some number)

namespace System.Sound

variable {system : System} {number : ℕ} {own : Instance}

theorem initial : System.Sound {} := ⟨⟨.nil, rfl⟩, fun _ _ found => by cases found⟩

theorem put {shared : Shared} {next : Option Instance} (sound : system.Sound)
    (intact : shared.Sound) (moves : system.shared.Moves number shared)
    (known : ∀ own ∈ next, own.Sound shared.commits (shared.holder = some number)) :
    (system.put number shared next).Sound where
  shared := intact
  instances other own found := by
    have held : Function.update system.instances number next other = some own := found
    rw [Function.update_apply] at held
    split_ifs at held with same
    · subst same
      exact known own held
    · exact (sound.instances other own held).moves moves same

theorem step (event : Event) (sound : system.Sound) : (system.step event).Sound := by
  cases event with
  | create number =>
    cases held : system.instances number with
    | some own => simpa only [System.step, held] using sound
    | none =>
      simp only [System.step, held]
      exact sound.put sound.shared .refl fun own created => sound.shared.construct created
  | turn number turn =>
    cases held : system.instances number with
    | none => simpa only [System.step, held] using sound
    | some own =>
      have leads := leads_take turn sound.shared (sound.instances number own held)
      simp only [System.step, held]
      exact sound.put leads.sound leads.moves fun next same => by
        obtain rfl := Option.some.inj same
        exact leads.instance_
  | crash number =>
    have moves : system.shared.Moves number (system.freed number) := by
      unfold System.freed
      split
      · next holding => exact .release holding
      · exact .refl
    refine sound.put ?_ moves fun _ found => by cases found
    unfold System.freed
    split
    · exact sound.shared.release
    · exact sound.shared

end System.Sound

theorem System.sound_throughout (events : List Event) :
    Runs.Throughout System.step System.Sound {} events :=
  Runs.throughout_of_keeps (fun _ event sound => sound.step event) .initial events

/-! ### What one turn does -/

section

variable {number : ℕ} {shared : Shared} {own : Instance}

/-- Only a replacement changes the file, and then the operation is marked as having written. -/
theorem take_file (number : ℕ) (shared : Shared) (own : Instance) (turn : Turn) :
    ((own.take number shared turn).1.file = shared.file ∧
        (own.take number shared turn).1.commits = shared.commits) ∨
      turn = .replace ∧ (own.take number shared turn).2.wrote = true ∧ ∃ commit,
        own.phase = .fresh commit ∧
        (own.take number shared turn).1.commits = shared.commits ++ [commit] ∧
        (own.take number shared turn).1.file = some commit.prepared.encoded := by
  cases turn with
  | replace => cases phase : own.phase <;> simp [take, phase]
  | acquire =>
    cases phase : own.phase <;> cases free : shared.holder <;> simp [take, phase, free]
  | compare =>
    cases phase : own.phase with
    | locked commit =>
      refine .inl ?_
      cases actual : shared.actualGeneration with
      | error fault => simp [take, phase, actual, Shared.release]
      | ok generation =>
        simp only [take, phase, actual]
        split_ifs <;> exact ⟨rfl, rfl⟩
    | _ => simp [take, phase]
  | _ => cases phase : own.phase <;> simp [take, phase, Shared.release]

/-- `PublicationUncertain` is raised only when the file has just been loaded. -/
theorem take_uncertain {turn : Turn}
    (raised : (own.take number shared turn).2.outcome = some .publicationUncertain)
    (before : own.outcome ≠ some .publicationUncertain) :
    (own.take number shared turn).1.file = shared.file ∧
      shared.load = .ok (own.take number shared turn).2.memory := by
  cases turn with
  | reconcile =>
    cases phase : own.phase with
    | uncertain =>
      simp only [take, phase, Instance.reload] at raised ⊢
      split at raised
      · cases raised
      · next memory loaded =>
        rw [loaded]
        exact ⟨rfl, rfl⟩
    | _ => exact absurd (by simpa only [take, phase] using raised) before
  | load =>
    cases phase : own.phase with
    | idle =>
      simp only [take, phase, Instance.reload] at raised
      split at raised <;> cases raised
    | _ => exact absurd (by simpa only [take, phase] using raised) before
  | enter surroundings operation =>
    cases phase : own.phase with
    | idle =>
      simp only [take, phase, Instance.enter] at raised
      split at raised
      · cases raised
      · cases raised
      · split at raised <;> cases raised
    | _ => exact absurd (by simpa only [take, phase] using raised) before
  | compare =>
    cases phase : own.phase with
    | locked commit =>
      simp only [take, phase] at raised
      split at raised
      · cases raised
      · split_ifs at raised
        · cases raised
        · exact absurd raised before
    | _ => exact absurd (by simpa only [take, phase] using raised) before
  | acquire =>
    cases phase : own.phase <;> cases free : shared.holder <;>
      exact absurd (by simpa only [take, phase, free] using raised) before
  | fail fault =>
    cases phase : own.phase with
    | fresh commit =>
      simp only [take, phase] at raised
      cases raised
    | _ => exact absurd (by simpa only [take, phase] using raised) before
  | confirm =>
    cases phase : own.phase with
    | replaced commit =>
      simp only [take, phase] at raised
      cases raised
    | _ => exact absurd (by simpa only [take, phase] using raised) before
  | _ =>
    cases phase : own.phase <;>
      exact absurd (by simpa only [take, phase] using raised) before

end

/-! ### The main results -/

/-- The file holds what was committed last, each commit was made from its predecessor, of which it
keeps every protocol, every piece of evidence and every event with at most one event more, and what
has raised has changed nothing. -/
def System.InOrder (system : System) : Prop :=
  system.shared.file = system.shared.commits.getLast?.map (fun commit => commit.prepared.encoded) ∧
    Linear system.shared.commits ∧
    (∀ commit ∈ system.shared.commits,
      commit.before.Extends commit.prepared.contents) ∧
    ∀ number own fault, system.instances number = some own →
      own.outcome = some (.raised fault) → own.Untouched

/-- The file stays as it is or a commit is added, by an operation that is marked as having written;
and what raises `PublicationUncertain` has what the file reads back as in its memory. -/
def System.StepsInOrder (system : System) (event : Event) : Prop :=
  ((system.step event).shared.file = system.shared.file ∧
      (system.step event).shared.commits = system.shared.commits ∨
    ∃ number own commit, event = .turn number .replace ∧
      (system.step event).instances number = some own ∧ own.wrote = true ∧
      (system.step event).shared.commits = system.shared.commits ++ [commit]) ∧
  ∀ number own, (system.step event).instances number = some own →
    own.outcome = some .publicationUncertain →
    (∀ prior, system.instances number = some prior →
      prior.outcome ≠ some .publicationUncertain) →
    ∃ raw stored, (system.step event).shared.file = some raw ∧ readState raw = .ok stored ∧
      stored.memory = own.memory

theorem Linear.extends_ (linear : Linear commits) (member : commit ∈ commits) :
    commit.before.Extends commit.prepared.contents := by
  obtain ⟨earlier, later, rfl⟩ := List.append_of_mem member
  have made := linear earlier commit later rfl
  rw [made.before]
  exact made.effect.extends_

theorem System.Sound.inOrder {system : System} (sound : system.Sound) : system.InOrder :=
  ⟨sound.shared.file, sound.shared.linear, fun _ member => sound.shared.linear.extends_ member,
    fun number own fault held raised => (sound.instances number own held).raised fault raised⟩

theorem System.step_file (system : System) (event : Event) :
    (system.step event).shared.file = system.shared.file ∧
        (system.step event).shared.commits = system.shared.commits ∨
      ∃ number own commit, event = .turn number .replace ∧
        (system.step event).instances number = some own ∧ own.wrote = true ∧
        (system.step event).shared.commits = system.shared.commits ++ [commit] := by
  cases event with
  | create number =>
    refine .inl ?_
    cases held : system.instances number <;> simp [System.step, held, System.put]
  | crash number =>
    refine .inl ?_
    simp only [System.step, System.put, System.freed]
    split <;> exact ⟨rfl, rfl⟩
  | turn number turn =>
    cases held : system.instances number with
    | none => simp [System.step, held]
    | some own =>
      simp only [System.step, held]
      obtain same | ⟨rfl, wrote, commit, -, commits, -⟩ := take_file number system.shared own turn
      · exact .inl same
      · refine .inr ⟨number, _, commit, rfl, ?_, wrote, commits⟩
        rw [System.put_instances, if_pos rfl]

theorem Shared.construct_outcome {shared : Shared} {own : Instance}
    (created : shared.construct = some own) : own.outcome = none := by
  unfold Shared.construct at created
  split at created
  · cases created
    rfl
  · split at created
    · cases created
    · cases created
      rfl

theorem System.step_uncertain {system : System} {event : Event} {number : ℕ} {own : Instance}
    (held : (system.step event).instances number = some own)
    (uncertain : own.outcome = some .publicationUncertain)
    (before : ∀ prior, system.instances number = some prior →
      prior.outcome ≠ some .publicationUncertain) :
    (system.step event).shared.load = .ok own.memory := by
  cases event with
  | create other =>
    cases busy : system.instances other with
    | some prior =>
      simp only [System.step, busy] at held
      exact absurd uncertain (before own held)
    | none =>
      simp only [System.step, busy] at held
      rw [System.put_instances] at held
      split_ifs at held with same
      · cases (Shared.construct_outcome held).symm.trans uncertain
      · exact absurd uncertain (before own held)
  | crash other =>
    simp only [System.step] at held
    rw [System.put_instances] at held
    split_ifs at held with same
    · exact absurd uncertain (before own held)
  | turn other turn =>
    cases busy : system.instances other with
    | none =>
      simp only [System.step, busy] at held
      exact absurd uncertain (before own held)
    | some prior =>
      simp only [System.step, busy] at held ⊢
      rw [System.put_instances] at held
      split_ifs at held with same
      · subst same
        cases held
        obtain ⟨file, loaded⟩ := take_uncertain uncertain (before prior busy)
        show Shared.load (prior.take number system.shared turn).1 = _
        unfold Shared.load at loaded ⊢
        rw [file]
        exact loaded
      · exact absurd uncertain (before own held)

theorem System.stepsInOrder (system : System) (event : Event) : system.StepsInOrder event := by
  refine ⟨system.step_file event, fun number own held uncertain before => ?_⟩
  have loaded := System.step_uncertain held uncertain before
  unfold Shared.load at loaded
  split at loaded
  · cases loaded
  · next raw file =>
    obtain ⟨stored, read, same⟩ := map_eq_ok.mp loaded
    exact ⟨raw, stored, file, read, same⟩

/-- Whatever the instances of a registry do, and wherever they stop, the commits to the file are in
order in every state and at every step. -/
theorem registry_commits_linear (events : List Event) :
    Runs.Throughout System.step System.InOrder {} events ∧
      Runs.Each System.step System.StepsInOrder {} events :=
  ⟨(System.sound_throughout events).mono fun _ sound => sound.inOrder,
    Runs.each_of_forall_mem fun event _ system => system.stepsInOrder event⟩

/-- Every committed state reads back from its file as it was committed, with a status for each
protocol. The file is that of the last commit, a memory is empty or a committed state, and the file
reads back as every memory of its generation. -/
theorem committed_registry_reloads (events : List Event) :
    Runs.Throughout System.step (fun system =>
      (∀ commit ∈ system.shared.commits,
        (∃ stored, readState commit.prepared.encoded = .ok stored ∧
          stored.memory = commit.memory) ∧
        ∃ statuses, commit.prepared.contents.validateState = .ok statuses) ∧
      system.shared.file =
        system.shared.commits.getLast?.map (fun commit => commit.prepared.encoded) ∧
      ∀ number own, system.instances number = some own →
        (own.memory = {} ∨ ∃ commit ∈ system.shared.commits, own.memory = commit.memory) ∧
        ∀ raw ∈ system.shared.file, own.memory.generation = system.shared.commits.length →
          ∃ stored, readState raw = .ok stored ∧ stored.memory = own.memory)
      {} events := by
  refine (System.sound_throughout events).mono fun system sound => ⟨?_, sound.shared.file, ?_⟩
  · intro commit member
    obtain ⟨earlier, later, split⟩ := List.append_of_mem member
    have linear := sound.shared.linear
    have made := linear earlier commit later split
    rw [split] at linear
    exact ⟨⟨_, made.readState linear.left.keyed, rfl⟩, (prepare_eq_ok made.prepared).1⟩
  · intro number own held
    have known := sound.instances number own held
    refine ⟨?_, fun raw file last => ?_⟩
    · obtain ⟨earlier, later, split, same⟩ := known.memory
      obtain rfl | ⟨others, commit, rfl⟩ := List.eq_nil_or_concat earlier
      · exact .inl same
      · rw [List.concat_eq_append, memoryAfter_concat] at same
        exact .inr ⟨commit, by simp [split], same⟩
    · rw [known.current sound.shared.linear last]
      obtain ⟨none, -⟩ | ⟨other, stored, some, read, same⟩ := sound.shared.cases
      · cases none.symm.trans file
      · obtain rfl := Option.some.inj (some.symm.trans file)
        exact ⟨stored, read, same⟩

end QuantAgent.Research
