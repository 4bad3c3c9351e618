/-
This file treats runs in which any number of processes freeze the validation, edit its files and
execute the one-shot unblinding.

A process loads the labels only after it has seen every check of the freeze pass and has claimed its
execution, and the rows of the registry only go forward. A second freeze has a key of its own, so
that the labels are loaded by one process at most as long as no freeze is claimed after another one.
-/

import QuantAgent.Validation.OneShot

namespace QuantAgent.Validation

open Concurrent Rules

/-! ### What a process has seen -/

section

variable (keeper : Gatekeeper) (worker : ℕ)

/-- The process took the transaction and it came to the value. -/
def Did (transaction : UnblindTransaction) (value : transaction.Value)
    (log : List (Entry unblinding)) : Prop :=
  ⟨worker, .transacted transaction (.ok value)⟩ ∈ log

/-- The process was given the answer. -/
def Told (request : UnblindRequest) (answer : request.Answer) (log : List (Entry unblinding)) :
    Prop :=
  ⟨worker, .answered request (.ok answer)⟩ ∈ log

abbrev Found (path bytes : String) : List (Entry unblinding) → Prop :=
  Did worker (.read path) (some bytes)

def FrozenFilePassed (path : String) (fallback : Option String) (expected : String)
    (log : List (Entry unblinding)) : Prop :=
  ∃ place bytes, place ∈ path :: fallback.toList ∧ Found worker place bytes log ∧
    keeper.sha256 bytes = expected

def ProtocolPassed (log : List (Entry unblinding)) : Prop :=
  FrozenFilePassed keeper worker keeper.protocolPath none frozenProtocolHash log ∧
  FrozenFilePassed keeper worker keeper.clarificationPath none frozenClarificationHash log ∧
  FrozenFilePassed keeper worker keeper.clarification002Path (keeper.inRepository
    "/deliverables/v0.3.25/H39_PROTOCOL_CLARIFICATION_002_DEPENDENCE_ROBUST_INFERENCE.json")
    frozenClarification002Hash log ∧
  FrozenFilePassed keeper worker keeper.clarification003Path (keeper.inRepository
    "/deliverables/v0.3.25/H39_PROTOCOL_CLARIFICATION_003_ROBUST_NESTED_NULL.json")
    frozenClarification003Hash log ∧
  FrozenFilePassed keeper worker keeper.clarification004Path (keeper.inRepository
    "/deliverables/v0.3.26/H39_PROTOCOL_CLARIFICATION_004_CONDITIONAL_INPUT_CONTRACT.json")
    frozenClarification004Hash log

def ReadinessPassed (manifest : Manifest) (log : List (Entry unblinding)) : Prop :=
  ∃ path bytes again readiness,
    manifest.lookup "readiness_artifact_path" = some (.str path) ∧
    Found worker path bytes log ∧
    manifest.lookup "readiness_sha256" = some (.str (keeper.sha256 bytes)) ∧
    Found worker path again log ∧ keeper.object again = some readiness ∧
    Truthy ((readiness.lookup "ready_for_unblind").getD .null)

def SnapshotPassed (manifest : Manifest) (log : List (Entry unblinding)) : Prop :=
  ∃ path bytes again snapshot,
    manifest.lookup "frozen_ledger_snapshot_path" = some (.str path) ∧
    Found worker path bytes log ∧
    manifest.lookup "frozen_ledger_snapshot_sha256" = some (.str (keeper.sha256 bytes)) ∧
    Found worker path again log ∧ keeper.database again = some snapshot ∧ snapshot.intact = true

def Reaches (manifest : Manifest) (key : String) (bound : ℚ) : Prop :=
  ∃ number, (manifest.lookup key).bind Json.number = some number ∧ ¬ number.Less (.finite bound)

def PartitionsPassed (manifest : Manifest) (log : List (Entry unblinding)) : Prop :=
  ∃ path bytes snapshot partitions,
    manifest.lookup "frozen_ledger_snapshot_path" = some (.str path) ∧
    Found worker path bytes log ∧ keeper.database bytes = some snapshot ∧
    (manifest.lookup "source_partitions").bind Json.members = some partitions ∧
    ∀ partition ∈ partitions,
      (snapshot.partitions.lookup partition.1).map Json.str = some partition.2

def Verified (path : String) (manifest : Manifest) (log : List (Entry unblinding)) : Prop :=
  (∃ text, Found worker path text log ∧ keeper.object text = some manifest) ∧
  (∀ key ∈ requiredKeys, manifest.lookup key ≠ none) ∧
  ProtocolPassed keeper worker log ∧
  (∀ identity ∈ frozenIdentities, manifest.lookup identity.1 = some (.str identity.2)) ∧
  ReadinessPassed keeper worker manifest log ∧ SnapshotPassed keeper worker manifest log ∧
  Reaches manifest "distinct_days_count" minimumValidationDays ∧
  Reaches manifest "eligible_boundary_count" minimumEligibleObservations ∧
  Reaches manifest "eligible_coverage" minimumCoverageRatio ∧
  PartitionsPassed keeper worker manifest log

/-- The command of git ended well with the output. -/
abbrev Git (directory : String) (arguments : List String) (output : String) :
    List (Entry unblinding) → Prop :=
  Told worker (.git directory arguments) ⟨0, output⟩

/-- Git tracks the file and sees no change of it. -/
def Clean (root relative : String) (log : List (Entry unblinding)) : Prop :=
  ∃ tracked status, Git worker root ["ls-files", "--error-unmatch", relative] tracked log ∧
    Git worker root ["status", "--porcelain", "--", relative] status log ∧ strip status = ""

def Committed (path commit : String) (log : List (Entry unblinding)) : Prop :=
  ∃ top relative last committed disk ancestor,
    Git worker (keeper.workingDirectory path) ["rev-parse", "--show-toplevel"] top log ∧
    relativeTo path (strip top) = some relative ∧ Clean worker (strip top) relative log ∧
    Git worker (strip top) ["log", "-n", "1", "--format=%H", "--", relative] last log ∧
    strip last = commit ∧ commit ≠ "" ∧
    Git worker (strip top) ["show", commit ++ ":" ++ relative] committed log ∧
    Found worker path disk log ∧
    (committed = disk ∨ unixLines committed.toList = unixLines disk.toList) ∧
    Git worker (strip top) ["merge-base", "--is-ancestor", commit, "HEAD"] ancestor log

def BlindPassed (manifest : Manifest) (cutoffMs : ℤ) (eligible : List SnapshotRow)
    (log : List (Entry unblinding)) : Prop :=
  ∃ path bytes snapshot,
    manifest.lookup "frozen_ledger_snapshot_path" = some (.str path) ∧
    Found worker path bytes log ∧ keeper.database bytes = some snapshot ∧
    snapshot.eligible cutoffMs = eligible ∧ minimumEligibleObservations ≤ eligible.length ∧
    (manifest.lookup "snapshot_eligible_row_count").bind (intOf keeper.forms) =
      some (eligible.length : ℤ)

end

def ExecutionRow.freeze (row : ExecutionRow) : String × String × ℤ :=
  (row.freezeManifestSha256, row.freezeCommitSha, row.unblindCutoffMs)

def Gatekeeper.keyOf (keeper : Gatekeeper) (freeze : String × String × ℤ) : String :=
  keeper.executionKey freeze.1 freeze.2.1 freeze.2.2

section

variable (keeper : Gatekeeper) (worker : ℕ)

def Prechecked (freezeManifestPath outputDir : String)
    (claim : String × ExecutionRow × List SnapshotRow) (log : List (Entry unblinding)) : Prop :=
  ∃ manifest commit bytes cutoffMs,
    Did worker (.read (outputDir ++ "/H39_ONE_SHOT_EXECUTION_RECEIPT.json")) none log ∧
    Verified keeper worker freezeManifestPath manifest log ∧
    Committed keeper worker freezeManifestPath commit log ∧
    Found worker freezeManifestPath bytes log ∧
    (manifest.lookup "unblind_cutoff_ms").bind (intOf keeper.forms) = some cutoffMs ∧
    BlindPassed keeper worker manifest cutoffMs claim.2.2 log ∧
    claim.2.1.freeze = (keeper.sha256 bytes, commit, cutoffMs) ∧
    claim.1 = keeper.keyOf claim.2.1.freeze

/-- The process saw every check pass and has claimed its execution. -/
def Cleared (log : List (Entry unblinding)) : Prop :=
  ∃ freezeManifestPath outputDir claim started,
    Prechecked keeper worker freezeManifestPath outputDir claim log ∧
    Did worker (.insert claim.1 { claim.2.1 with startedAtUtc := started }) () log

variable {keeper worker} {path key expected : String} {fallback : Option String}
  {manifest : Manifest} {freezeManifestPath outputDir commit : String} {cutoffMs : ℤ}
  {eligible : List SnapshotRow} {claim : String × ExecutionRow × List SnapshotRow}

instance {transaction : UnblindTransaction} {value : transaction.Value} :
    Lasting (Did worker transaction value) := ⟨fun _ _ => List.mem_append_left _⟩

instance {request : UnblindRequest} {answer : request.Answer} :
    Lasting (Told worker request answer) := ⟨fun _ _ => List.mem_append_left _⟩

instance : Lasting (FrozenFilePassed keeper worker path fallback expected) := by
  unfold FrozenFilePassed
  infer_instance

instance : Lasting (ProtocolPassed keeper worker) := by
  unfold ProtocolPassed
  infer_instance

instance : Lasting (ReadinessPassed keeper worker manifest) := by
  unfold ReadinessPassed
  infer_instance

instance : Lasting (SnapshotPassed keeper worker manifest) := by
  unfold SnapshotPassed
  infer_instance

instance : Lasting (PartitionsPassed keeper worker manifest) := by
  unfold PartitionsPassed
  infer_instance

instance : Lasting (Verified keeper worker path manifest) := by
  unfold Verified
  infer_instance

instance {root relative : String} : Lasting (Clean worker root relative) := by
  unfold Clean
  infer_instance

instance : Lasting (Committed keeper worker path commit) := by
  unfold Committed
  infer_instance

instance : Lasting (BlindPassed keeper worker manifest cutoffMs eligible) := by
  unfold BlindPassed
  infer_instance

instance : Lasting (Prechecked keeper worker freezeManifestPath outputDir claim) := by
  unfold Prechecked
  infer_instance

end

/-! ### What the processes keep -/

/-- The execution of a key is claimed. -/
def isClaim : Action unblinding → Bool
  | .transacted (.insert _ _) (.ok _) => true
  | _ => false

def isLoad : Action unblinding → Bool
  | .asked (.labels _ _) => true
  | _ => false

/-- Neither a claim nor a load. -/
def isQuiet : Action unblinding → Bool
  | .transacted (.insert _ _) _ => false
  | .asked (.labels _ _) => false
  | _ => true

/-- Every row stands under the key of its freeze, a claim has left a row, and the labels are loaded
by those who have claimed after every check; where one freeze only is claimed, one process does. -/
structure Guarded (keeper : Gatekeeper) (single : Prop) (state : State unblinding) : Prop where
  keyed : ∀ key row, state.shared.registry.lookup key = some row → key = keeper.keyOf row.freeze
  held : ∀ entry ∈ state.log, isClaim entry.action = true →
    ∃ key row, state.shared.registry.lookup key = some row
  once : single → ∀ entry ∈ state.log, ∀ other ∈ state.log, isClaim entry.action = true →
    isClaim other.action = true → entry.worker = other.worker
  cleared : ∀ before entry rest, state.log = before ++ entry :: rest →
    isLoad entry.action = true → Cleared keeper entry.worker before

def SameFreeze (state : State unblinding) : Action unblinding → Prop
  | .transacted (.insert _ row) _ =>
    ∀ found ∈ state.shared.registry.rows, found.freeze = row.freeze
  | _ => True

abbrev oneShot (keeper : Gatekeeper) (single : Prop) : Rules unblinding where
  inv := Guarded keeper single
  assumes := fun state _ action => single → SameFreeze state action

variable {keeper : Gatekeeper} {single : Prop} {worker : ℕ} {state : State unblinding}
  {action : Action unblinding} {known : List (Entry unblinding) → Prop}

def Advances (registry after : Table ExecutionRow) : Prop :=
  ∀ key row, registry.lookup key = some row → ∃ later, after.lookup key = some later ∧
    later.freeze = row.freeze ∧ (row.state = .completed → later.state = .completed)

theorem Advances.refl (registry : Table ExecutionRow) : Advances registry registry :=
  fun _ row found => ⟨row, found, rfl, id⟩

theorem Advances.trans {registry after last : Table ExecutionRow}
    (first : Advances registry after) (second : Advances after last) : Advances registry last := by
  intro key row found
  obtain ⟨later, foundLater, same, completed⟩ := first key row found
  obtain ⟨final, foundFinal, sameFinal, completedFinal⟩ := second key later foundLater
  exact ⟨final, foundFinal, sameFinal.trans same, completedFinal ∘ completed⟩

theorem registry_cases (state : State unblinding) (action : Action unblinding) :
    (state.sharedAfter action).registry = state.shared.registry ∨
    (∃ key row outcome, action = .transacted (.insert key row) outcome ∧
      state.shared.registry.lookup key = none ∧
      (state.sharedAfter action).registry = state.shared.registry.insert key row) ∨
    ∃ key update, (∀ row : ExecutionRow, (update row).freeze = row.freeze ∧
        (update row).state = .completed) ∧
      (state.sharedAfter action).registry = state.shared.registry.modify key update := by
  cases action with
  | transacted transaction outcome =>
    cases transaction with
    | insert key row =>
      cases found : state.shared.registry.lookup key with
      | some held =>
        refine .inl ?_
        simp only [State.sharedAfter, unblinding, UnblindTransaction.perform]
        rw [found]
      | none =>
        refine .inr (.inl ⟨key, row, outcome, rfl, found, ?_⟩)
        simp only [State.sharedAfter, unblinding, UnblindTransaction.perform]
        rw [found]
    | complete key completedAtUtc resultManifestSha256 =>
      refine .inr (.inr ⟨key, _, ?_, rfl⟩)
      exact fun row => ⟨rfl, rfl⟩
    | _ => exact .inl rfl
  | _ => exact .inl rfl

theorem advances_after (state : State unblinding) (action : Action unblinding) :
    Advances state.shared.registry (state.sharedAfter action).registry := by
  obtain same | ⟨key, row, outcome, -, absent, inserted⟩ | ⟨key, update, forward, modified⟩ :=
    registry_cases state action
  · rw [same]
    exact .refl _
  · intro other held found
    have apart : other ≠ key := by
      rintro rfl
      exact nomatch absent.symm.trans found
    exact ⟨held, inserted ▸ (AList.lookup_insert_ne apart).trans found, rfl, id⟩
  · intro other held found
    rw [modified, Table.lookup_modify, found]
    split_ifs
    · exact ⟨_, rfl, (forward held).1, fun _ => (forward held).2⟩
    · exact ⟨held, rfl, rfl, id⟩

theorem cleared_append {log : List (Entry unblinding)} {last : Entry unblinding}
    (cleared : ∀ before entry rest, log = before ++ entry :: rest → isLoad entry.action = true →
      Cleared keeper entry.worker before)
    (lastCleared : isLoad last.action = true → Cleared keeper last.worker log) :
    ∀ before entry rest, log ++ [last] = before ++ entry :: rest → isLoad entry.action = true →
      Cleared keeper entry.worker before := by
  intro before entry rest split loads
  obtain rfl | ⟨rest, final, rfl⟩ := List.eq_nil_or_concat' rest
  · obtain ⟨rfl, rfl⟩ := List.append_inj' split rfl |>.imp id List.singleton_inj.mp
    exact lastCleared loads
  · rw [← List.cons_append, ← List.append_assoc] at split
    obtain ⟨rfl, -⟩ := List.append_inj' split rfl
    exact cleared before entry rest rfl loads

theorem guarded_unclaimed (guarded : Guarded keeper single state)
    (unclaimed : isClaim action = false)
    (kept : ∀ key row, (state.sharedAfter action).registry.lookup key = some row →
      ∃ earlier, state.shared.registry.lookup key = some earlier ∧ earlier.freeze = row.freeze)
    (cleared : isLoad action = true → Cleared keeper worker state.log) :
    Guarded keeper single (state.after worker action) where
  keyed := fun key row found => by
    obtain ⟨earlier, foundEarlier, same⟩ := kept key row found
    rw [← same]
    exact guarded.keyed key earlier foundEarlier
  held := fun entry member claims => by
    obtain earlier | last := List.mem_append.mp member
    · obtain ⟨key, row, found⟩ := guarded.held entry earlier claims
      obtain ⟨later, foundLater, -⟩ := advances_after state action key row found
      exact ⟨key, later, foundLater⟩
    · obtain rfl := List.mem_singleton.mp last
      exact nomatch unclaimed.symm.trans claims
  once := fun one entry member other otherMember claims otherClaims => by
    obtain earlier | last := List.mem_append.mp member
    · obtain otherEarlier | otherLast := List.mem_append.mp otherMember
      · exact guarded.once one entry earlier other otherEarlier claims otherClaims
      · obtain rfl := List.mem_singleton.mp otherLast
        exact nomatch unclaimed.symm.trans otherClaims
    · obtain rfl := List.mem_singleton.mp last
      exact nomatch unclaimed.symm.trans claims
  cleared := cleared_append guarded.cleared cleared

theorem guarded_quiet (guarded : Guarded keeper single state) (quiet : isQuiet action = true) :
    Guarded keeper single (state.after worker action) := by
  have unclaimed : isClaim action = false := by
    cases action with
    | transacted transaction outcome =>
      cases transaction with
      | insert => exact nomatch quiet
      | _ => rfl
    | _ => rfl
  refine guarded_unclaimed guarded unclaimed (fun key row found => ?_) fun loads => ?_
  · obtain same | ⟨key, row, outcome, rfl, -⟩ | ⟨key, update, forward, modified⟩ :=
      registry_cases state action
    · exact ⟨row, same ▸ found, rfl⟩
    · cases quiet
    · rw [modified, Table.lookup_modify] at found
      split_ifs at found
      · obtain ⟨earlier, foundEarlier, rfl⟩ := Option.map_eq_some_iff.mp found
        exact ⟨earlier, foundEarlier, (forward earlier).1.symm⟩
      · exact ⟨row, found, rfl⟩
  · cases action with
    | asked request =>
      cases request with
      | labels => exact nomatch quiet
      | _ => exact nomatch loads
    | _ => exact nomatch loads

theorem guarded_insert {key : String} {row : ExecutionRow} (guarded : Guarded keeper single state)
    (same : single → SameFreeze state
      (.transacted (.insert key row) (state.outcome (L := unblinding) (.insert key row))))
    (keyed : key = keeper.keyOf row.freeze) :
    Guarded keeper single (state.after worker
      (.transacted (.insert key row) (state.outcome (L := unblinding) (.insert key row)))) := by
  cases found : state.shared.registry.lookup key with
  | some held =>
    have failed : state.outcome (L := unblinding) (.insert key row) =
        .error (.duplicateKey key) := by
      simp only [State.outcome, unblinding, UnblindTransaction.perform]
      rw [found]
      rfl
    have left : state.sharedAfter (.transacted (.insert key row)
        (state.outcome (L := unblinding) (.insert key row))) = state.shared := by
      simp only [State.sharedAfter, unblinding, UnblindTransaction.perform]
      rw [found]
    refine guarded_unclaimed guarded (by rw [failed]; rfl) (fun other row found => ?_) nofun
    exact ⟨row, left ▸ found, rfl⟩
  | none =>
    have inserted : (state.sharedAfter (.transacted (.insert key row)
        (state.outcome (L := unblinding) (.insert key row)))).registry =
          state.shared.registry.insert key row := by
      simp only [State.sharedAfter, unblinding, UnblindTransaction.perform]
      rw [found]
    have first : single → ∀ entry ∈ state.log, isClaim entry.action = false := by
      -- A row that is there already is about the same freeze and so stands under the same key.
      intro one entry member
      by_contra claims
      obtain ⟨held, earlier, foundEarlier⟩ :=
        guarded.held entry member (Bool.eq_true_of_not_eq_false claims)
      have alike := same one earlier (Table.mem_rows_of_lookup foundEarlier)
      have heldKey := guarded.keyed held earlier foundEarlier
      rw [alike, ← keyed] at heldKey
      rw [heldKey, found] at foundEarlier
      cases foundEarlier
    refine ⟨?_, ?_, ?_, cleared_append guarded.cleared nofun⟩
    · intro other stored foundStored
      replace foundStored := Table.lookup_insert_eq_some.mp (inserted ▸ foundStored)
      obtain ⟨rfl, rfl⟩ | ⟨-, earlier⟩ := foundStored
      · exact keyed
      · exact guarded.keyed other stored earlier
    · intro entry member claims
      exact ⟨key, row, inserted ▸ AList.lookup_insert _⟩
    · intro one entry member other otherMember claims otherClaims
      have own (entry : Entry unblinding)
          (member : entry ∈ (state.after worker (.transacted (.insert key row)
            (state.outcome (L := unblinding) (.insert key row)))).log)
          (claims : isClaim entry.action = true) : entry.worker = worker := by
        obtain earlier | last := List.mem_append.mp member
        · exact nomatch (first one entry earlier).symm.trans claims
        · rw [List.mem_singleton.mp last]
      rw [own entry member claims, own other otherMember otherClaims]

/-! ### What a process learns from its checks -/

section

variable [Lasting known]

theorem run_learns {transaction : UnblindTransaction}
    (quiet : ∀ outcome, isQuiet (.transacted transaction outcome) = true) :
    Learns (oneShot keeper single) worker known (Program.run (L := unblinding) transaction)
      (Did worker transaction) :=
  .run fun _ guarded _ _ => ⟨trivial, guarded_quiet guarded (quiet _)⟩

theorem request_learns {request : UnblindRequest} (quiet : isQuiet (.asked request) = true) :
    Learns (oneShot keeper single) worker known (Program.request (L := unblinding) request)
      (Told worker request) :=
  .request (fun _ guarded _ _ => ⟨trivial, guarded_quiet guarded quiet⟩)
    fun _ _ guarded _ _ => ⟨trivial, guarded_quiet guarded rfl⟩

variable {path : String}

theorem findFile_learns :
    Learns (oneShot keeper single) worker known (findFile path) (Did worker (.read path)) :=
  run_learns fun _ => rfl

theorem writeFile_learns {path bytes : String} :
    Learns (oneShot keeper single) worker known (writeFile path bytes)
      (Did worker (.write path bytes)) :=
  run_learns fun _ => rfl

theorem readFile_learns :
    Learns (oneShot keeper single) worker known (readFile path) (Found worker path) := by
  refine findFile_learns.bind fun found => ?_
  cases found with
  | some bytes => exact .pure fun _ known => known.2
  | none => exact .fail

omit [Lasting known] in
theorem demand_learns {Value : Type} {value : Option Value} {fault : UnblindFault} :
    Learns (oneShot keeper single) worker known (demand value fault)
      fun found _ => value = some found := by
  cases value with
  | some value => exact .pure fun _ _ => rfl
  | none => exact .fail

theorem openDatabase_learns :
    Learns (oneShot keeper single) worker known (openDatabase keeper path) fun snapshot log =>
      ∃ bytes, Found worker path bytes log ∧ keeper.database bytes = some snapshot :=
  readFile_learns.bind fun bytes => demand_learns.keep.mono (fun _ => id)
    fun _ _ learned => ⟨bytes, learned.1.2, learned.2⟩

variable {manifest : Manifest} {key : String}

omit [Lasting known] in
theorem textField_learns :
    Learns (oneShot keeper single) worker known (textField manifest key)
      fun text _ => manifest.lookup key = some (.str text) := by
  refine demand_learns.mono (fun _ => id) fun text _ found => ?_
  obtain ⟨value, held, isText⟩ := Option.bind_eq_some_iff.mp found
  cases value with
  | str => rwa [← Option.some.inj isText]
  | _ => cases isText

omit [Lasting known] in
theorem intField_learns :
    Learns (oneShot keeper single) worker known (intField keeper manifest key)
      fun number _ => (manifest.lookup key).bind (intOf keeper.forms) = some number :=
  demand_learns

theorem maturityGate_learns {bound : ℚ} :
    Learns (oneShot keeper single) worker known (maturityGate manifest key bound)
      fun _ _ => Reaches manifest key bound :=
  demand_learns.bind fun number => Learns.refuse.keep.mono (fun _ => id)
    fun _ _ learned => ⟨number, learned.1.2, learned.2⟩

theorem git_learns {directory : String} {arguments : List String} :
    Learns (oneShot keeper single) worker known (git directory arguments)
      (Told worker (.git directory arguments)) :=
  request_learns rfl

theorem gitChecked_learns {directory : String} {arguments : List String} :
    Learns (oneShot keeper single) worker known (gitChecked directory arguments)
      (Git worker directory arguments) := by
  refine git_learns.bind fun reply => Learns.refuse.bind fun _ => Learns.pure fun log learned => ?_
  obtain ⟨⟨-, told⟩, worked⟩ := learned
  have success : reply = ⟨0, reply.output⟩ := by rw [← Decidable.not_not.mp worked]
  exact success ▸ told

theorem verifyFrozenFile_learns {path expected code : String} {fallback : Option String} :
    Learns (oneShot keeper single) worker known
      (verifyFrozenFile keeper path fallback expected code)
      fun _ => FrozenFilePassed keeper worker path fallback expected := by
  refine findFile_learns.bind fun here => readFile_learns.bind fun bytes =>
    Learns.refuse.keep.mono (fun _ => id) fun _ log learned => ?_
  obtain ⟨⟨-, found⟩, digest⟩ := learned
  refine ⟨_, bytes, ?_, found, Decidable.not_not.mp digest⟩
  cases fallback <;> split_ifs <;> simp

theorem verifyProtocolAndClarificationHashes_learns :
    Learns (oneShot keeper single) worker known (verifyProtocolAndClarificationHashes keeper)
      fun _ => ProtocolPassed keeper worker := by
  refine verifyFrozenFile_learns.bind fun _ => verifyFrozenFile_learns.bind fun _ =>
    verifyFrozenFile_learns.bind fun _ => verifyFrozenFile_learns.bind fun _ =>
    verifyFrozenFile_learns.keep.mono (fun _ => id) fun _ log learned => ?_
  obtain ⟨⟨⟨⟨⟨-, protocol⟩, first⟩, second⟩, third⟩, fourth⟩ := learned
  exact ⟨protocol, first, second, third, fourth⟩

theorem verifyReadiness_learns :
    Learns (oneShot keeper single) worker known (verifyReadiness keeper manifest)
      fun _ => ReadinessPassed keeper worker manifest := by
  refine textField_learns.bind fun path => readFile_learns.bind fun bytes =>
    Learns.refuse.bind fun _ => readFile_learns.bind fun again =>
      demand_learns.bind fun readiness =>
    Learns.refuse.keep.mono (fun _ => id) fun _ log learned => ?_
  obtain ⟨⟨⟨⟨⟨⟨-, named⟩, found⟩, digest⟩, foundAgain⟩, read⟩, ready⟩ := learned
  exact ⟨path, bytes, again, readiness, named, found, Decidable.not_not.mp digest, foundAgain, read,
    Decidable.not_not.mp ready⟩

theorem verifySnapshot_learns :
    Learns (oneShot keeper single) worker known (verifySnapshot keeper manifest)
      fun _ => SnapshotPassed keeper worker manifest := by
  refine textField_learns.bind fun path => readFile_learns.bind fun bytes =>
    Learns.refuse.bind fun _ => openDatabase_learns.bind fun snapshot =>
    Learns.refuse.keep.mono (fun _ => id) fun _ log learned => ?_
  obtain ⟨⟨⟨⟨⟨-, named⟩, found⟩, digest⟩, again, foundAgain, read⟩, intact⟩ := learned
  exact ⟨path, bytes, again, snapshot, named, found, Decidable.not_not.mp digest, foundAgain, read,
    Bool.eq_true_of_not_eq_false intact⟩

theorem verifyPartitions_learns :
    Learns (oneShot keeper single) worker known (verifyPartitions keeper manifest)
      fun _ => PartitionsPassed keeper worker manifest := by
  refine textField_learns.bind fun path => openDatabase_learns.bind fun snapshot =>
    demand_learns.bind fun partitions =>
    Learns.refuse.keep.mono (fun _ => id) fun _ log learned => ?_
  obtain ⟨⟨⟨⟨-, named⟩, bytes, found, read⟩, listed⟩, alike⟩ := learned
  refine ⟨path, bytes, snapshot, partitions, named, found, read, listed, fun partition member => ?_⟩
  by_contra other
  exact alike ⟨partition, member, other⟩

theorem verifyFreezeManifest_learns :
    Learns (oneShot keeper single) worker known (verifyFreezeManifest keeper path)
      (Verified keeper worker path) := by
  refine readFile_learns.bind fun text => demand_learns.bind fun manifest =>
    Learns.refuse.bind fun _ => verifyProtocolAndClarificationHashes_learns.bind fun _ =>
    Learns.refuse.bind fun _ => verifyReadiness_learns.bind fun _ =>
    verifySnapshot_learns.bind fun _ => maturityGate_learns.bind fun _ =>
    maturityGate_learns.bind fun _ => maturityGate_learns.bind fun _ =>
    verifyPartitions_learns.bind fun _ => .pure fun log learned => ?_
  obtain ⟨⟨⟨⟨⟨⟨⟨⟨⟨⟨⟨-, found⟩, read⟩, complete⟩, protocol⟩, frozen⟩, readiness⟩, snapshot⟩, days⟩,
    boundaries⟩, coverage⟩, partitions⟩ := learned
  refine ⟨⟨text, found, read⟩, fun key member missing => complete ⟨key, member, missing⟩, protocol,
    fun identity member => ?_, readiness, snapshot, days, boundaries, coverage, partitions⟩
  by_contra other
  exact frozen ⟨identity, member, other⟩

theorem verifyCommittedFreezePackage_learns :
    Learns (oneShot keeper single) worker known (verifyCommittedFreezePackage keeper path)
      (Committed keeper worker path) := by
  unfold verifyCommittedFreezePackage
  dsimp only
  refine readFile_learns.bind fun _ => git_learns.bind fun top => Learns.refuse.bind fun _ =>
    demand_learns.bind ?_
  refine fun relative => git_learns.bind fun tracked => Learns.refuse.bind fun _ =>
    gitChecked_learns.bind fun status => Learns.refuse.bind fun _ =>
    gitChecked_learns.bind fun last => Learns.refuse.bind fun _ =>
    gitChecked_learns.bind fun committed => readFile_learns.bind fun disk =>
    Learns.refuse.bind fun _ => git_learns.bind fun ancestor => Learns.refuse.bind fun _ =>
    gitChecked_learns.bind fun time => Learns.refuse.bind fun _ => Learns.pure fun log learned => ?_
  obtain ⟨⟨⟨⟨⟨⟨⟨⟨⟨⟨⟨⟨⟨⟨⟨⟨⟨-, -⟩, toldTop⟩, found⟩, inside⟩, toldTracked⟩, isTracked⟩, toldStatus⟩,
    clean⟩, toldLast⟩, named⟩, shown⟩, foundDisk⟩, same⟩, toldAncestor⟩, isAncestor⟩, -⟩, -⟩ :=
    learned
  have worked {reply : GitReply} (success : ¬ reply.code ≠ 0) : reply = ⟨0, reply.output⟩ := by
    rw [← Decidable.not_not.mp success]
  refine ⟨top.output, relative, last, committed, disk, ancestor.output, worked found ▸ toldTop,
    inside, ⟨tracked.output, status, worked isTracked ▸ toldTracked, toldStatus,
      Decidable.not_not.mp clean⟩, toldLast, rfl, named, shown, foundDisk, ?_,
    worked isAncestor ▸ toldAncestor⟩
  by_contra other
  exact same (not_or.mp other)

theorem blindPrecheck_learns {cutoffMs : ℤ} :
    Learns (oneShot keeper single) worker known (blindPrecheck keeper manifest cutoffMs)
      (BlindPassed keeper worker manifest cutoffMs) := by
  unfold blindPrecheck
  dsimp only
  refine textField_learns.bind fun path => openDatabase_learns.bind fun snapshot =>
    Learns.refuse.bind fun _ => intField_learns.bind fun counted =>
    Learns.refuse.bind fun _ => Learns.pure fun log learned => ?_
  obtain ⟨⟨⟨⟨⟨-, named⟩, bytes, found, read⟩, enough⟩, count⟩, same⟩ := learned
  exact ⟨path, bytes, snapshot, named, found, read, rfl, not_lt.mp enough,
    count.trans (congrArg some (Decidable.not_not.mp same).symm)⟩

variable {freezeManifestPath outputDir : String}

theorem precheck_learns :
    Learns (oneShot keeper single) worker known (precheck keeper freezeManifestPath outputDir)
      (Prechecked keeper worker freezeManifestPath outputDir) := by
  refine findFile_learns.bind fun receipt => Learns.refuse.bind fun _ =>
    verifyFreezeManifest_learns.bind fun manifest =>
    verifyCommittedFreezePackage_learns.bind fun commit => readFile_learns.bind fun bytes =>
    intField_learns.bind fun cutoffMs => (request_learns rfl).bind fun executing =>
    blindPrecheck_learns.bind fun eligible => (request_learns rfl).bind fun started =>
    .pure fun log learned => ?_
  obtain ⟨⟨⟨⟨⟨⟨⟨⟨⟨-, receiptRead⟩, unused⟩, verified⟩, committed⟩, found⟩, cutoff⟩, -⟩, passed⟩,
    -⟩ := learned
  rw [Decidable.not_not.mp unused] at receiptRead
  exact ⟨manifest, commit, bytes, cutoffMs, receiptRead, verified, committed, found, cutoff, passed,
    rfl, rfl⟩

theorem reserveExecution_learns {row : ExecutionRow}
    (keyed : ∀ log, known log → key = keeper.keyOf row.freeze) :
    Learns (oneShot keeper single) worker known (reserveExecution key row) fun _ log =>
      ∃ started, Did worker (.insert key { row with startedAtUtc := started }) () log := by
  refine (run_learns fun _ => rfl).bind fun held => Learns.refuse.bind fun _ =>
    (request_learns rfl).bind fun started => .mono (.run ?_) (fun _ => id)
      fun _ _ learned => ⟨started, learned⟩
  intro now guarded learned same
  exact ⟨trivial, guarded_insert guarded same (keyed now.log learned.1.1.1)⟩

theorem labels_learns {startMs endMs : ℤ} (cleared : ∀ log, known log → Cleared keeper worker log) :
    Learns (oneShot keeper single) worker known
      (Program.request (L := unblinding) (.labels startMs endMs))
      (Told worker (.labels startMs endMs)) :=
  .request
    (fun now guarded knows _ => ⟨trivial, guarded_unclaimed guarded rfl
      (fun _ row found => ⟨row, found, rfl⟩) fun _ => cleared now.log knows⟩)
    fun _ _ guarded _ _ => ⟨trivial, guarded_quiet guarded rfl⟩

theorem executeOneShotUnblind_learns :
    Learns (oneShot keeper single) worker known
      (executeOneShotUnblind keeper freezeManifestPath outputDir) fun _ _ => True := by
  refine precheck_learns.bind fun claim => (reserveExecution_learns ?_).bind fun _ =>
    demand_learns.bind fun times => (labels_learns ?_).bind fun _ => (request_learns rfl).bind
    fun receipt => writeFile_learns.bind fun _ => readFile_learns.bind fun written =>
    (request_learns rfl).bind fun completed => (run_learns fun _ => rfl).mono (fun _ => id)
      fun _ _ _ => trivial
  · rintro log ⟨-, manifest, commit, bytes, cutoffMs, -, -, -, -, -, -, -, keyed⟩
    exact keyed
  · rintro log ⟨⟨⟨-, prechecked⟩, started, claimed⟩, -⟩
    exact ⟨freezeManifestPath, outputDir, claim, started, prechecked, claimed⟩

theorem createFreezeManifest_learns {outputPath readinessPath : String} {asOfMs nowMs : Option ℤ} :
    Learns (oneShot keeper single) worker known
      (createFreezeManifest keeper outputPath readinessPath asOfMs nowMs) fun _ _ => True := by
  unfold createFreezeManifest
  dsimp only
  refine (request_learns rfl).bind fun readiness => demand_learns.bind fun members =>
    Learns.refuse.bind fun _ => demand_learns.bind fun summary => intField_learns.bind ?_
  refine fun cutoffMs => demand_learns.bind fun cutoffUtc => writeFile_learns.bind fun _ =>
    readFile_learns.bind fun readinessBytes => (request_learns rfl).bind fun backup =>
    writeFile_learns.bind fun _ => openDatabase_learns.bind fun snapshot =>
    Learns.refuse.bind fun _ => readFile_learns.bind fun snapshotBytes =>
    readFile_learns.bind fun liveBytes => openDatabase_learns.bind fun partitions =>
    (request_learns rfl).bind fun codeSha => (request_learns rfl).bind fun created =>
    writeFile_learns.mono (fun _ => id) fun _ _ _ => trivial

end

/-! ### Runs -/

theorem unblindMain_obeyed (keeper : Gatekeeper) (single : Prop) :
    Obeyed (oneShot keeper single) (unblindMain keeper) fun _ _ _ => True := by
  intro worker call state guarded _
  refine ⟨trivial, guarded_quiet guarded rfl, ?_⟩
  have learns : Learns (oneShot keeper single) worker (fun _ => True) (unblindMain keeper call)
      fun _ _ => True := by
    cases call with
    | createFreeze => exact createFreezeManifest_learns
    | execute => exact executeOneShotUnblind_learns
    | edit => exact writeFile_learns.mono (fun _ => id) fun _ _ _ => trivial
  exact (learns _ trivial).mono fun _ _ _ => trivial

/-- Whoever has loaded the labels had seen every check pass and had claimed its execution. -/
def LoadsCleared (keeper : Gatekeeper) (world : World unblinding) : Prop :=
  ∀ before entry rest, world.state.log = before ++ entry :: rest → isLoad entry.action = true →
    Cleared keeper entry.worker before

/-- One process at most has loaded the labels. -/
def LoadsOnce (world : World unblinding) : Prop :=
  ∀ entry ∈ world.state.log, isLoad entry.action = true → ∀ other ∈ world.state.log,
    isLoad other.action = true → entry.worker = other.worker

/-- The event lets a process claim a freeze after another one was claimed. -/
def Refreezes (keeper : Gatekeeper) (world : World unblinding) (event : Event unblinding) : Prop :=
  ∃ worker action next, world.turn (unblindMain keeper) event = some (worker, action, next) ∧
    ¬ SameFreeze world.state action

/-- The world before any process has done anything. -/
def unblindStart (files : String → Option String) : World unblinding where
  state := { shared := { files := files } }

theorem unblindStart_safe (files : String → Option String) :
    WorldSafe (oneShot keeper single) (fun _ _ _ => True) (unblindStart files) := by
  refine ⟨⟨nofun, nofun, fun _ => nofun, fun before entry rest split => ?_⟩, fun _ => trivial⟩
  exact nomatch List.append_eq_nil_iff.mp split.symm

theorem loadsOnce_of_guarded (guarded : Guarded keeper True state) :
    LoadsOnce ⟨state, workers⟩ := by
  have claimed (entry : Entry unblinding) (member : entry ∈ state.log)
      (loads : isLoad entry.action = true) :
      ∃ claim ∈ state.log, isClaim claim.action = true ∧ claim.worker = entry.worker := by
    obtain ⟨before, rest, split⟩ := List.append_of_mem member
    obtain ⟨_, _, claim, started, -, claims⟩ := guarded.cleared before entry rest split loads
    have earlier := Lasting.append before (entry :: rest) claims
    rw [← split] at earlier
    exact ⟨_, earlier, rfl, rfl⟩
  intro entry member loads other otherMember otherLoads
  obtain ⟨claim, inLog, claims, same⟩ := claimed entry member loads
  obtain ⟨otherClaim, otherInLog, otherClaims, otherSame⟩ := claimed other otherMember otherLoads
  rw [← same, ← otherSame]
  exact guarded.once trivial claim inLog otherClaim otherInLog claims otherClaims

theorem advances_step (keeper : Gatekeeper) (world : World unblinding) (event : Event unblinding) :
    Advances world.state.shared.registry
      (world.step (unblindMain keeper) event).state.shared.registry := by
  cases turn : world.turn (unblindMain keeper) event with
  | some move =>
    obtain ⟨worker, action, next⟩ := move
    rw [World.step_of_turn turn]
    exact advances_after world.state action
  | none =>
    unfold World.step
    rw [turn]
    cases event <;> exact .refl _

theorem advances_run (keeper : Gatekeeper) (world : World unblinding)
    (events : List (Event unblinding)) :
    Advances world.state.shared.registry
      (Runs.run (World.step (unblindMain keeper)) world events).state.shared.registry := by
  induction events generalizing world with
  | nil => exact .refl _
  | cons event rest inductionHypothesis =>
    exact (advances_step keeper world event).trans (inductionHypothesis _)

/-- In every run the labels are loaded by cleared processes only and the rows of the registry only
go forward; and where no freeze is claimed after another one, one process at most loads them. -/
theorem labels_loaded_once_unless_refrozen (keeper : Gatekeeper) (files : String → Option String)
    (events : List (Event unblinding)) :
    Runs.Throughout (World.step (unblindMain keeper)) (LoadsCleared keeper) (unblindStart files)
      events ∧
    (∀ before later after, events = before ++ later ++ after → Advances
      (Runs.run (World.step (unblindMain keeper)) (unblindStart files)
        before).state.shared.registry
      (Runs.run (World.step (unblindMain keeper)) (unblindStart files)
        (before ++ later)).state.shared.registry) ∧
    (Runs.Each (World.step (unblindMain keeper)) (fun world event => ¬ Refreezes keeper world event)
        (unblindStart files) events →
      Runs.Throughout (World.step (unblindMain keeper)) LoadsOnce (unblindStart files) events) := by
  refine ⟨?_, fun before later after split => ?_, fun each => ?_⟩
  · have safe : Runs.Throughout (World.step (unblindMain keeper))
        (WorldSafe (oneShot keeper False) fun _ _ _ => True) (unblindStart files) events :=
      worldSafe_run (fun _ _ _ _ _ _ => trivial) (unblindMain_obeyed keeper False)
        (unblindStart_safe files) (Runs.each_of_forall_mem fun _ _ _ _ _ _ _ => False.elim)
    exact safe.mono fun world safe => safe.1.cleared
  · rw [Runs.run_append]
    exact advances_run keeper _ later
  · have safe : Runs.Throughout (World.step (unblindMain keeper))
        (WorldSafe (oneShot keeper True) fun _ _ _ => True) (unblindStart files) events := by
      refine worldSafe_run (fun _ _ _ _ _ _ => trivial) (unblindMain_obeyed keeper True)
        (unblindStart_safe files) (each.mono fun world event same => ?_)
      intro worker action next turn _
      by_contra other
      exact same ⟨worker, action, next, turn, other⟩
    exact safe.mono fun world safe => loadsOnce_of_guarded safe.1

/-! ### A second freeze -/

/-- What sets a freeze of the example apart. -/
structure Trial where
  name : String
  cutoffMs : ℤ
  cutoffUtc : String
  days : ℕ
  boundaries : ℕ

/-- The texts of a freeze stand for those of its JSON values, and are read back as them. -/
def Trial.readinessText (freeze : Trial) : String := "readiness " ++ freeze.name

def Trial.manifestText (freeze : Trial) : String := "manifest " ++ freeze.name

def Trial.summary (freeze : Trial) : Manifest :=
  [("clock_ceiling_ms", .int freeze.cutoffMs), ("clock_ceiling_utc", .str freeze.cutoffUtc),
    ("clock_source", .str "WALL_CLOCK"), ("distinct_days_count", .int freeze.days),
    ("eligible_boundary_count", .int freeze.boundaries),
    ("eligible_coverage", .float (.finite 1)),
    ("expected_boundary_count", .int freeze.boundaries),
    ("observed_boundary_count", .int freeze.boundaries)]

def Trial.readiness (freeze : Trial) : Manifest :=
  [("ready_for_unblind", .bool true), ("status", .str "H39_READY_FOR_ONE_SHOT_UNBLIND"),
    ("summary", .obj freeze.summary)]

/-- A row for every quarter of an hour. -/
def Trial.snapshot (freeze : Trial) : Snapshot where
  intact := true
  rows := (List.range freeze.boundaries).map fun index =>
    let closeMs := validationStartMs + index * 900000
    { decisionCloseMs := closeMs, referenceTimeMs := closeMs + 60000,
      target240mMs := closeMs + 240 * 60000, formalTestReady := true }
  partitions := [("2026-09-04", "aa")]

/-- A keeper with a digest that never collides. -/
def bareKeeper : Gatekeeper where
  forms := {
    int := fun _ => none
    float := fun _ => none
    str := fun _ => ""
    decimal := fun _ => ""
    numeral := fun _ => none
    loads := fun _ => none
    dumps := fun _ => ""
    keyText := fun _ => none
    dict := fun _ => none
    isoformat := fun _ => none }
  sha256 := id
  database := fun _ => none
  protocolPath := "/repo/protocol.json"
  clarificationPath := "/repo/clarification_001.json"
  clarification002Path := "/repo/clarification_002.json"
  clarification003Path := "/repo/clarification_003.json"
  clarification004Path := "/repo/clarification_004.json"
  ledgerPath := "/repo/data/ledger.sqlite3"
  snapshotDir := "/repo/data"
  repoRoot := some "/repo"

def Trial.snapshotBytes (freeze : Trial) : String := "SQLite " ++ freeze.name

def Trial.manifest (freeze : Trial) : Json :=
  bareKeeper.freezeManifest {
    readiness := freeze.readiness
    summary := freeze.summary
    cutoffMs := freeze.cutoffMs
    cutoffUtc := .str freeze.cutoffUtc
    readinessPath := "/repo/" ++ freeze.name ++ "/readiness.json"
    readinessBytes := freeze.readinessText
    snapshotPath := "/repo/data/H39_ONE_SHOT_LEDGER_SNAPSHOT_" ++ toString freeze.cutoffMs ++
      ".sqlite3"
    snapshot := freeze.snapshot
    snapshotBytes := freeze.snapshotBytes
    liveBytes := "SQLite"
    partitions := [("2026-09-04", "aa")]
    codeVersionSha := "c0de"
    createdAtUtc := "2026-10-01T00:00:00+00:00" }

def documents (freezes : List Trial) : List (Json × String) :=
  freezes.flatMap fun freeze =>
    [(.obj freeze.readiness, freeze.readinessText), (freeze.manifest, freeze.manifestText)]

def keeperOf (freezes : List Trial) : Gatekeeper :=
  { bareKeeper with
    forms := { bareKeeper.forms with
      int := fun text => if text = "1790812800" then some 1790812800 else none
      loads := fun text => ((documents freezes).find? fun entry => entry.2 = text).map Prod.fst
      dumps := fun value =>
        (((documents freezes).find? fun entry => entry.1 = value).map Prod.snd).getD "" }
    database := fun bytes =>
      (freezes.find? fun freeze => freeze.snapshotBytes = bytes).map Trial.snapshot }

/-- What a process is answered while it makes or executes a freeze. -/
def Trial.answers (freeze : Trial) :
    (request : UnblindRequest) → Except UnblindFault request.Answer
  | .git _ arguments => .ok ⟨0,
      if arguments.head? = some "rev-parse" then "/repo\n"
      else if arguments.head? = some "show" then freeze.manifestText
      else if arguments.head? ≠ some "log" then ""
      else if arguments.contains "-n" then "c" ++ freeze.name ++ "\n"
      else "1790812800\n"⟩
  | .currentGitSha => .ok "c0de"
  | .now => .ok "2026-10-01T00:00:00+00:00"
  | .readiness _ _ => .ok (.obj freeze.readiness)
  | .backup => .ok freeze.snapshotBytes
  | .labels _ _ => .ok ()
  | .evaluate => .ok "receipt"

def takes (worker : ℕ) (call : UnblindCall) (freeze : Trial) (steps : ℕ) :
    List (Event unblinding) :=
  .start worker call ::
    (List.replicate steps [.advance worker, .answer worker freeze.answers]).flatten

def Trial.events (freeze : Trial) (worker : ℕ) : List (Event unblinding) :=
  let manifestPath := "/repo/" ++ freeze.name ++ "/freeze.json"
  takes worker (.createFreeze manifestPath ("/repo/" ++ freeze.name ++ "/readiness.json") none none)
    freeze 12 ++
  takes (worker + 1) (.execute manifestPath ("/repo/" ++ freeze.name)) freeze 60

def frozenFiles (path : String) : Option String :=
  [("/repo/protocol.json", frozenProtocolHash),
    ("/repo/clarification_001.json", frozenClarificationHash),
    ("/repo/clarification_002.json", frozenClarification002Hash),
    ("/repo/clarification_003.json", frozenClarification003Hash),
    ("/repo/clarification_004.json", frozenClarification004Hash),
    ("/repo/data/ledger.sqlite3", "SQLite")].lookup path

def firstTrial : Trial where
  name := "first"
  cutoffMs := validationStartMs + 1343 * 900000
  cutoffUtc := "2026-09-18T11:00:00Z"
  days := 14
  boundaries := 1344

def laterTrial : Trial where
  name := "later"
  cutoffMs := validationStartMs + 1439 * 900000
  cutoffUtc := "2026-09-19T11:00:00Z"
  days := 15
  boundaries := 1440

instance {state : State unblinding} {action : Action unblinding} :
    Decidable (SameFreeze state action) :=
  match action with
  | .transacted (.insert _ _) _ => inferInstanceAs (Decidable (∀ _ ∈ _, _))
  | .transacted (.read _) _ => inferInstanceAs (Decidable True)
  | .transacted (.write _ _) _ => inferInstanceAs (Decidable True)
  | .transacted (.select _) _ => inferInstanceAs (Decidable True)
  | .transacted (.complete _ _ _) _ => inferInstanceAs (Decidable True)
  | .started _ => inferInstanceAs (Decidable True)
  | .asked _ => inferInstanceAs (Decidable True)
  | .answered _ _ => inferInstanceAs (Decidable True)

instance {keeper : Gatekeeper} {world : World unblinding} {event : Event unblinding} :
    Decidable (Refreezes keeper world event) :=
  match turn : world.turn (unblindMain keeper) event with
  | some (worker, action, next) => decidable_of_iff (¬ SameFreeze world.state action)
      ⟨fun other => ⟨worker, action, next, turn, other⟩, by
        rintro ⟨_, _, _, same, other⟩
        obtain ⟨-, rfl, -⟩ := Option.some.inj (turn.symm.trans same)
        exact other⟩
  | none => .isFalse (by rintro ⟨_, _, _, same, -⟩; exact nomatch turn.symm.trans same)

instance {world : World unblinding} : Decidable (LoadsOnce world) :=
  inferInstanceAs (Decidable (∀ _ ∈ _, _))

/-- The first freeze is executed by one process. -/
theorem first_freeze_loads_once :
    Runs.Throughout (World.step (unblindMain (keeperOf [firstTrial]))) LoadsOnce
      (unblindStart frozenFiles) (firstTrial.events 0) :=
  (labels_loaded_once_unless_refrozen (keeperOf [firstTrial]) frozenFiles
    (firstTrial.events 0)).2.2 (by decide +kernel)

/-- A later freeze is made, committed and executed after the first, and the labels are loaded again;
the digest does not collide, and what is written of the freezes is read back. -/
theorem second_freeze_loads_again :
    Function.Injective (keeperOf [firstTrial, laterTrial]).sha256 ∧
    (∀ document ∈ documents [firstTrial, laterTrial],
      (keeperOf [firstTrial, laterTrial]).forms.loads
        ((keeperOf [firstTrial, laterTrial]).forms.dumps document.1) = some document.1) ∧
    ¬ LoadsOnce (Runs.run (World.step (unblindMain (keeperOf [firstTrial, laterTrial])))
      (unblindStart frozenFiles) (firstTrial.events 0 ++ laterTrial.events 2)) :=
  ⟨Function.injective_id, by decide +kernel, by decide +kernel⟩

end QuantAgent.Validation
