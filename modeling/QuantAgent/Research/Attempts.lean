/-
This file says once what each operation of the registry commits: protocols and evidence are added
under their own ids and none is changed, and at most one event is appended, which a decision makes
from the current status of its revision.
-/

import QuantAgent.Research.Reload

namespace QuantAgent.Research

variable [Platform] {contents after : Contents} {surroundings : Surroundings}
  {operation : Operation}

/-- The later contents keep every record and every event, with at most one event appended. -/
structure Contents.Extends (contents after : Contents) : Prop where
  protocols : contents.protocols.Within after.protocols
  evidence : contents.evidence.Within after.evidence
  events : after.events = contents.events ∨ ∃ event, after.events = contents.events ++ [event]

def DecisionEvent.Economic (event : DecisionEvent) : Prop :=
  event.previousStatus = .statisticallyQualified ∧
    (event.newStatus = .economicallyQualified ∨ event.newStatus = .rejected ∧
      (event.source = p6DecisionSource ∨ event.economicResultId ≠ none))

/-! ### Staged evidence -/

/-- Rows of evidence under their own ids. -/
def KeyedEvidence (evidence : Dict EvidenceReference) : Prop :=
  ∀ key reference, evidence.lookup key = some reference → reference.evidenceId = .ok key

theorem KeyedEvidence.insert {evidence : Dict EvidenceReference} {item : EvidenceReference}
    {evidenceId : String} (keyed : KeyedEvidence evidence)
    (named : item.evidenceId = .ok evidenceId) :
    KeyedEvidence (evidence.insert evidenceId item) := by
  intro key reference found
  obtain ⟨rfl, rfl⟩ | ⟨-, old⟩ := Dict.lookup_insert_eq_some.mp found
  · exact named
  · exact keyed key reference old

variable {references : List Reference}

theorem stageEvidence_ok {evidence staged : Dict EvidenceReference} {evidenceIds : List String}
    (staging : stageEvidence surroundings evidence references = .ok (staged, evidenceIds)) :
    evidence.Within staged ∧ (KeyedEvidence evidence → KeyedEvidence staged) := by
  induction references generalizing evidence evidenceIds with
  | nil =>
    cases staging
    exact ⟨.refl _, id⟩
  | cons reference references inductionHypothesis =>
    unfold stageEvidence at staging
    obtain ⟨item, -, staging⟩ := bind_eq_ok.mp staging
    obtain ⟨-, -, staging⟩ := bind_eq_ok.mp staging
    obtain ⟨evidenceId, named, staging⟩ := bind_eq_ok.mp staging
    obtain ⟨same, staging⟩ := refuse_bind_eq_ok.mp staging
    obtain ⟨⟨rest, ids⟩, later, made⟩ := bind_eq_ok.mp staging
    cases made
    obtain ⟨within, keyed⟩ := inductionHypothesis later
    refine ⟨(Dict.within_insert fun old found => ?_).trans within,
      fun own => keyed (own.insert named)⟩
    exact not_not.mp fun differs => same ⟨old, found, differs⟩

/-! ### What each operation commits -/

/-- What may be committed after the contents: an extension that keeps records under their ids, and
that appends an economic event only as the condition says. -/
structure Contents.Commits (contents after : Contents) (economic : Prop) : Prop where
  extends_ : contents.Extends after
  keyed : contents.Keyed → after.Keyed
  decided : ∀ event, after.events = contents.events ++ [event] → event.Economic → economic

theorem commits_registerExperiment {experiment : ExperimentMetadata} {allowUpdate : Bool}
    {actor source : String} {registeredAtUtc : Option String}
    (attempted : contents.registerExperiment surroundings experiment allowUpdate actor source
      registeredAtUtc = .ok (.commit after)) : contents.Commits after False := by
  unfold Contents.registerExperiment at attempted
  obtain ⟨-, attempted⟩ := refuse_bind_eq_ok.mp attempted
  dsimp only at attempted
  split at attempted
  · split_ifs at attempted
    cases attempted
  · next absent =>
    obtain ⟨event, created, made⟩ := bind_eq_ok.mp attempted
    cases made
    have fields := DecisionEvent.create_eq_ok created
    refine ⟨⟨Dict.within_insert fun old found => ?_, .refl _, .inr ⟨event, rfl⟩⟩, fun keyed =>
      ⟨fun key protocol found => ?_, keyed.evidence⟩, fun other appended economic => ?_⟩
    · cases absent.symm.trans found
    · obtain ⟨rfl, rfl⟩ | ⟨-, old⟩ := Dict.lookup_insert_eq_some.mp found
      · rfl
      · exact keyed.protocols key protocol old
    · obtain rfl : event = other := List.singleton_inj.mp (List.append_cancel_left appended)
      have previous := economic.1
      rw [fields] at previous
      cases previous

theorem commits_registerEvidence {evidence : EvidenceReference}
    (attempted : contents.registerEvidence surroundings evidence = .ok (.commit after)) :
    contents.Commits after False := by
  unfold Contents.registerEvidence at attempted
  obtain ⟨-, -, attempted⟩ := bind_eq_ok.mp attempted
  obtain ⟨evidenceId, named, attempted⟩ := bind_eq_ok.mp attempted
  split at attempted
  · split_ifs at attempted
    cases attempted
  · next absent =>
    cases attempted
    refine ⟨⟨.refl _, Dict.within_insert fun old found => ?_, .inl rfl⟩, fun keyed =>
      ⟨keyed.protocols, KeyedEvidence.insert keyed.evidence named⟩, fun event appended _ => ?_⟩
    · cases absent.symm.trans found
    · exact List.cons_ne_nil _ _ (List.self_eq_append_right.mp appended)

def Operation.Bypasses (contents : Contents) : Operation → Prop
  | .updateDecisionStatus experimentRevisionId newStatus _ _ _ source _ _ economicResultId =>
    contents.getStatus experimentRevisionId = .ok .statisticallyQualified ∧
      DecisionStatus.ofText newStatus = .ok .rejected ∧
      (source = p6DecisionSource ∨ economicResultId ≠ none)
  | _ => False

def Operation.Attested (contents after : Contents) (surroundings : Surroundings) :
    Operation → Prop
  | .recordEconomicQualification attestation _ _ _ _ =>
    ∃ protocol ∈ contents.protocols.lookup attestation.experimentRevisionId,
      surroundings.validateEconomicAttestation attestation protocol after.evidence = .ok ()
  | _ => False

theorem commits_updateDecisionStatus {experimentRevisionId newStatus reason actor source : String}
    {decidedAtUtc statisticalResultId economicResultId : Option String}
    (attempted : contents.updateDecisionStatus surroundings experimentRevisionId newStatus
      references reason actor source decidedAtUtc statisticalResultId economicResultId =
        .ok (.commit after)) :
    contents.Commits after (Operation.Bypasses contents (.updateDecisionStatus
      experimentRevisionId newStatus references reason actor source decidedAtUtc
      statisticalResultId economicResultId)) := by
  unfold Contents.updateDecisionStatus at attempted
  obtain ⟨-, attempted⟩ := refuse_bind_eq_ok.mp attempted
  obtain ⟨target, read, attempted⟩ := bind_eq_ok.mp attempted
  obtain ⟨current, status, attempted⟩ := bind_eq_ok.mp attempted
  obtain ⟨-, attempted⟩ := refuse_bind_eq_ok.mp attempted
  obtain ⟨notPromoted, attempted⟩ := refuse_bind_eq_ok.mp attempted
  obtain ⟨-, attempted⟩ := refuse_bind_eq_ok.mp attempted
  obtain ⟨-, attempted⟩ := refuse_bind_eq_ok.mp attempted
  obtain ⟨⟨evidence, evidenceIds⟩, staging, attempted⟩ := bind_eq_ok.mp attempted
  obtain ⟨-, attempted⟩ := refuse_bind_eq_ok.mp attempted
  obtain ⟨-, attempted⟩ := refuse_bind_eq_ok.mp attempted
  obtain ⟨-, attempted⟩ := refuse_bind_eq_ok.mp attempted
  obtain ⟨event, created, made⟩ := bind_eq_ok.mp attempted
  cases made
  have fields := DecisionEvent.create_eq_ok created
  obtain ⟨within, keyedEvidence⟩ := stageEvidence_ok staging
  refine ⟨⟨.refl _, within, .inr ⟨event, rfl⟩⟩, fun keyed =>
    ⟨keyed.protocols, keyedEvidence keyed.evidence⟩, fun other appended economic => ?_⟩
  obtain rfl : event = other := List.singleton_inj.mp (List.append_cancel_left appended)
  obtain ⟨previous, decision⟩ := economic
  rw [fields] at previous decision
  obtain promoted | ⟨rejected, bound⟩ := decision
  · exact absurd promoted notPromoted
  · obtain rfl : current = .statisticallyQualified := previous
    obtain rfl : target = .rejected := rejected
    exact ⟨status, read, bound⟩

theorem commits_recordEconomicQualification {attestation : EconomicDecisionAttestation}
    {reason actor : String} {decidedAtUtc : Option String}
    (attempted : contents.recordEconomicQualification surroundings attestation references reason
      actor decidedAtUtc = .ok (.commit after)) :
    contents.Commits after (Operation.Attested contents after surroundings
      (.recordEconomicQualification attestation references reason actor decidedAtUtc)) := by
  unfold Contents.recordEconomicQualification at attempted
  split at attempted
  · cases attempted
  · next protocol found =>
    obtain ⟨current, status, attempted⟩ := bind_eq_ok.mp attempted
    obtain ⟨-, attempted⟩ := refuse_bind_eq_ok.mp attempted
    obtain ⟨-, attempted⟩ := refuse_bind_eq_ok.mp attempted
    obtain ⟨-, attempted⟩ := refuse_bind_eq_ok.mp attempted
    obtain ⟨⟨evidence, evidenceIds⟩, staging, attempted⟩ := bind_eq_ok.mp attempted
    obtain ⟨-, attempted⟩ := refuse_bind_eq_ok.mp attempted
    obtain ⟨-, attempted⟩ := refuse_bind_eq_ok.mp attempted
    obtain ⟨⟨⟩, attested, attempted⟩ := bind_eq_ok.mp attempted
    rw [mapError_eq_ok] at attested
    obtain ⟨within, keyedEvidence⟩ := stageEvidence_ok staging
    split at attempted
    · cases attempted
      refine ⟨⟨.refl _, within, .inl rfl⟩, fun keyed =>
        ⟨keyed.protocols, keyedEvidence keyed.evidence⟩, fun _ _ _ => ⟨protocol, found, attested⟩⟩
    · obtain ⟨event, created, made⟩ := bind_eq_ok.mp attempted
      cases made
      exact ⟨⟨.refl _, within, .inr ⟨event, rfl⟩⟩, fun keyed =>
        ⟨keyed.protocols, keyedEvidence keyed.evidence⟩, fun _ _ _ => ⟨protocol, found, attested⟩⟩

theorem commits_attempt
    (attempted : contents.attempt surroundings operation = .ok (.commit after)) :
    contents.Commits after (operation.Bypasses contents ∨
      operation.Attested contents after surroundings) := by
  cases operation with
  | registerExperiment experiment allowUpdate actor source registeredAtUtc =>
    have commits := commits_registerExperiment attempted
    exact ⟨commits.extends_, commits.keyed, fun event appended economic =>
      (commits.decided event appended economic).elim⟩
  | registerEvidence evidence =>
    have commits := commits_registerEvidence attempted
    exact ⟨commits.extends_, commits.keyed, fun event appended economic =>
      (commits.decided event appended economic).elim⟩
  | updateDecisionStatus =>
    have commits := commits_updateDecisionStatus attempted
    exact ⟨commits.extends_, commits.keyed, fun event appended economic =>
      .inl (commits.decided event appended economic)⟩
  | recordEconomicQualification =>
    have commits := commits_recordEconomicQualification attempted
    exact ⟨commits.extends_, commits.keyed, fun event appended economic =>
      .inr (commits.decided event appended economic)⟩
  | save =>
    cases attempted
    refine ⟨⟨.refl _, .refl _, .inl rfl⟩, id, fun event appended _ => ?_⟩
    exact absurd (List.self_eq_append_right.mp appended) (List.cons_ne_nil _ _)

end QuantAgent.Research
