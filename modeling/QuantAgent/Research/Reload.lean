/-
This file proves that a committed registry reads back as it was: the envelope that `_commit` writes
passes every check of `_read_state`, and what is read are the contents, the generation and the hash
that were committed.

The records read back because each of them does; the dictionaries because their keys are the ids of
their rows, which every operation keeps.
-/

import QuantAgent.Research.Registry

namespace QuantAgent.Research

variable [Platform] {contents : Contents} {generation : ℕ} {prepared : Prepared}

/-- Every record stands under its own id. -/
structure Contents.Keyed (contents : Contents) : Prop where
  protocols : ∀ key protocol, contents.protocols.lookup key = some protocol →
    protocol.experimentRevisionId = key
  evidence : ∀ key reference, contents.evidence.lookup key = some reference →
    reference.evidenceId = .ok key

/-! ### Reading an envelope -/

theorem EvidenceReference.finite_of_evidenceId {evidence : EvidenceReference} {key : String}
    (named : evidence.evidenceId = .ok key) :
    (Json.obj evidence.identityPayload).isFinite = true := by
  unfold EvidenceReference.evidenceId canonicalSha256 at named
  split_ifs at named with finite
  · exact finite
  · cases named

omit [Platform] in
theorem mapM_eq_ok {Value Result : Type} {encode : Result → Value}
    {decode : Value → Except Fault Result} (results : List Result)
    (reads : ∀ result, decode (encode result) = .ok result) :
    (results.map encode).mapM decode = .ok results := by
  induction results with
  | nil => rfl
  | cons result results inductionHypothesis =>
    rw [List.map_cons, List.mapM_cons, reads, inductionHypothesis]
    rfl

theorem canonical_payload (contents : Contents) :
    ∃ members, (Json.obj contents.payload).canonical = .obj members ∧
      intact payloadFields "registry payload schema mismatch" (.obj members) = .ok members ∧
      entry members "protocols" = .ok (Json.obj (contents.protocols.toMembers fun protocol =>
        .obj protocol.toDict)).canonical ∧
      entry members "evidence" = .ok (Json.obj (contents.evidence.toMembers fun evidence =>
        .obj evidence.toDict)).canonical ∧
      entry members "decision_events" = .ok (Json.arr (contents.events.map fun event =>
        .obj event.toDict)).canonical := by
  have keys : contents.payload.map Prod.fst = payloadFields := rfl
  have distinct : (contents.payload.map Prod.fst).Nodup := by
    rw [keys]
    decide
  refine ⟨_, rfl, ?_, ?_, ?_, ?_⟩
  · have same := List.toFinset_eq_of_perm _ _ (Json.keys_canonical contents.payload)
    rw [keys] at same
    exact if_pos same
  · rw [entry_canonical _ distinct]
    rfl
  · rw [entry_canonical _ distinct]
    simp [Contents.payload, Json.lookup_cons_of_ne]
  · rw [entry_canonical _ distinct]
    simp [Contents.payload, Json.lookup_cons_of_ne]

theorem readContents_payload (keyed : contents.Keyed) {statuses : String → DecisionStatus}
    (valid : contents.validateState = .ok statuses) {members : List (String × Json)}
    (written : (Json.obj contents.payload).canonical = .obj members) :
    readContents members = .ok contents := by
  obtain ⟨found, same, -, protocols, evidence, events⟩ := canonical_payload contents
  obtain rfl := Json.obj.inj (same.symm.trans written)
  have readsProtocols : Dict.addMembers ExperimentMetadata.fromDict ∅
      (Json.sortMembers (Json.canonicalMembers (contents.protocols.toMembers fun protocol =>
        .obj protocol.toDict))) = .ok contents.protocols :=
    Dict.addMembers_toMembers fun _ protocol _ => protocol.fromDict_toDict
  have readsEvidence : Dict.addMembers EvidenceReference.fromDict ∅
      (Json.sortMembers (Json.canonicalMembers (contents.evidence.toMembers fun evidence =>
        .obj evidence.toDict))) = .ok contents.evidence :=
    Dict.addMembers_toMembers fun key reference found =>
      reference.fromDict_toDict
        (reference.finite_of_evidenceId (keyed.evidence key reference found))
  have readsEvents : (Json.canonicalItems (contents.events.map fun event =>
      .obj event.toDict)).mapM DecisionEvent.fromDict = .ok contents.events := by
    rw [Json.canonicalItems_eq_map, List.map_map]
    exact mapM_eq_ok contents.events fun event => event.fromDict_toDict
  have protocolsKeyed : ¬ ∃ key ∈ contents.protocols.keys,
      ∃ protocol ∈ contents.protocols.lookup key, key ≠ protocol.experimentRevisionId := by
    rintro ⟨key, -, protocol, found, differs⟩
    exact differs (keyed.protocols key protocol found).symm
  have evidenceKeyed : ¬ ∃ key ∈ contents.evidence.keys,
      ∃ reference ∈ contents.evidence.lookup key, key ≠ reference.identity := by
    rintro ⟨key, -, reference, found, differs⟩
    exact differs (reference.identity_of_evidenceId (keyed.evidence key reference found))
  unfold readContents
  rw [protocols, evidence, events]
  simp only [Except.bind_ok, objectOf, listOf, Json.canonical, readsProtocols, readsEvidence,
    readsEvents]
  rw [refuse_of_not protocolsKeyed, refuse_of_not evidenceKeyed]
  simp only [Except.bind_ok]
  rw [valid]
  rfl

theorem canonicalSha256_core (generation : ℕ) (payload : Json) :
    canonicalSha256 (.obj (core generation payload.canonical)) =
      canonicalSha256 (.obj (core generation payload)) := by
  unfold canonicalSha256 core
  simp [Json.isFinite, Json.isFiniteMembers, Json.isFinite_canonical, Json.canonical,
    Json.canonicalMembers, Json.canonical_canonical]

theorem prepare_eq_ok (ready : prepare generation contents = .ok prepared) :
    (∃ statuses, contents.validateState = .ok statuses) ∧
      ∃ contentHash,
        canonicalSha256 (.obj (core (generation + 1) (.obj contents.payload))) =
          .ok contentHash ∧
        prepared = ⟨contents, (Json.obj (core (generation + 1) (.obj contents.payload) ++
          [("content_hash", .str contentHash)])).canonical, generation + 1, contentHash⟩ := by
  unfold prepare envelope at ready
  obtain ⟨statuses, valid, rest⟩ := bind_eq_ok.mp ready
  obtain ⟨pair, enveloped, made⟩ := bind_eq_ok.mp rest
  obtain ⟨contentHash, hashed, paired⟩ := bind_eq_ok.mp enveloped
  cases paired
  cases made
  exact ⟨⟨statuses, valid⟩, contentHash, hashed, rfl⟩

omit [Platform] in
theorem generationOf_succ (generation : ℕ) :
    generationOf (.int ((generation + 1 : ℕ) : ℤ)) = .ok (generation + 1) := by
  have positive : ¬ ((generation + 1 : ℕ) : ℤ) < 1 := by omega
  unfold generationOf
  dsimp only
  rw [if_neg positive]
  rfl

theorem readState_prepared (keyed : contents.Keyed)
    (ready : prepare generation contents = .ok prepared) :
    readState prepared.encoded = .ok ⟨contents, generation + 1, prepared.contentHash⟩ := by
  obtain ⟨⟨statuses, valid⟩, contentHash, hashed, rfl⟩ := prepare_eq_ok ready
  obtain ⟨payload, same, fields, -⟩ := canonical_payload contents
  let members := core (generation + 1) (.obj contents.payload) ++
    [("content_hash", Json.str contentHash)]
  have keys : members.map Prod.fst = envelopeFields := rfl
  have distinct : (members.map Prod.fst).Nodup := by
    rw [keys]
    decide
  have intactMembers : intact envelopeFields "registry envelope schema mismatch"
      (Json.obj members).canonical = .ok (Json.sortMembers (Json.canonicalMembers members)) := by
    have own := List.toFinset_eq_of_perm _ _ (Json.keys_canonical members)
    rw [keys] at own
    exact if_pos own
  have rehashed : canonicalSha256 (.obj (core (generation + 1) (.obj payload))) =
      .ok contentHash := by
    rw [← same, canonicalSha256_core, hashed]
  have atVersion : entry (Json.sortMembers (Json.canonicalMembers members)) "schema_version" =
      .ok (.str registrySchemaVersion) := by
    rw [entry_canonical _ distinct]
    rfl
  have atGeneration : entry (Json.sortMembers (Json.canonicalMembers members)) "generation" =
      .ok (.int ((generation + 1 : ℕ) : ℤ)) := by
    rw [entry_canonical _ distinct]
    rfl
  have atPayload : entry (Json.sortMembers (Json.canonicalMembers members)) "payload" =
      .ok (.obj payload) := by
    rw [entry_canonical _ distinct, ← same]
    rfl
  have atHash : entry (Json.sortMembers (Json.canonicalMembers members)) "content_hash" =
      .ok (.str contentHash) := by
    rw [entry_canonical _ distinct]
    rfl
  show readState (Json.obj members).canonical = _
  unfold readState
  rw [intactMembers, Except.bind_ok, atVersion, Except.bind_ok,
    refuse_of_not (not_not.mpr rfl), Except.bind_ok, atGeneration, Except.bind_ok,
    generationOf_succ, Except.bind_ok, atPayload, Except.bind_ok, fields, Except.bind_ok,
    rehashed, Except.bind_ok, atHash, Except.bind_ok, refuse_of_not (not_not.mpr rfl),
    Except.bind_ok, readContents_payload keyed valid same]
  rfl

end QuantAgent.Research
