/-
This file proves when a sealed shadow evaluation can be read again. What is written of it gives each
field back but the two that are taken as they come: the reading makes a float of the rule score and
of the mark price of a checkpoint, and when one of them was a whole number the payload of the
evaluation that is read has another identity and the text is refused.
-/

import QuantAgent.Library.Ranking
import QuantAgent.MarketWatch.ShadowCodec

namespace QuantAgent.MarketWatch.Shadow.Codec

open Json

variable {forms : Forms}

/-! ### Written members -/

def written (members : List (String × Json)) : List (String × Json) :=
  sortMembers (canonicalMembers members)

theorem lookup_written {members : List (String × Json)} (key : String)
    (distinct : (members.map Prod.fst).Nodup) :
    (written members).lookup key = (members.lookup key).map canonical :=
  lookup_canonical key distinct

@[simp] theorem optionalInt_canonical (value : Option ℤ) :
    (optionalInt value).canonical = optionalInt value := by
  cases value <;> rfl

@[simp] theorem optionalFloat_canonical (value : Option Double) :
    (optionalFloat value).canonical = optionalFloat value := by
  cases value <;> rfl

@[simp] theorem optionalText_canonical (value : Option String) :
    (optionalText value).canonical = optionalText value := by
  cases value <;> rfl

/-- `value if value is not None`. -/
def present (value : Json) : Option Json := (some value).filter fun value => value ≠ .null

@[simp] theorem present_optionalInt (value : Option ℤ) :
    (present (optionalInt value)).mapM (intOf forms) = .ok value := by
  cases value <;> rfl

@[simp] theorem present_optionalFloat (value : Option Double) :
    (present (optionalFloat value)).mapM (floatOf forms) = .ok value := by
  cases value <;> rfl

@[simp] theorem present_optionalText (value : Option String) :
    (present (optionalText value)).map (textOf forms) = value := by
  cases value <;> rfl

variable {members : List (String × Json)}

theorem entry_written (key : String) (distinct : (members.map Prod.fst).Nodup) :
    entry (written members) key =
      (members.lookup key).elim (.error .malformed) fun value => .ok value.canonical := by
  unfold entry
  rw [lookup_written key distinct]
  cases members.lookup key <;> rfl

theorem getOr_written (key : String) (default : Json) (distinct : (members.map Prod.fst).Nodup) :
    getOr (written members) key default = (members.lookup key).elim default canonical := by
  unfold getOr
  rw [lookup_written key distinct]
  cases members.lookup key <;> rfl

theorem given_written (key : String) (distinct : (members.map Prod.fst).Nodup) :
    given (written members) key =
      (members.lookup key).bind fun value => present value.canonical := by
  unfold given
  rw [lookup_written key distinct]
  cases members.lookup key <;> rfl

theorem objectOr_written {key : String} {object : List (String × Json)}
    (distinct : (members.map Prod.fst).Nodup) (own : members.lookup key = some (.obj object))
    (filled : object ≠ []) : objectOr (written members) key = .ok (written object) := by
  have lengths : (written object).length = object.length := by
    unfold written
    rw [(sortMembers_perm _).length_eq, canonicalMembers_eq_map, List.length_map]
  have kept : (written object).isEmpty = false := by
    rw [List.isEmpty_eq_false_iff, ← List.length_pos_iff, lengths]
    exact List.length_pos_iff.mpr filled
  unfold objectOr
  rw [getOr_written key .null distinct, own]
  show (if (! (written object).isEmpty) = true then _ else _) = _
  rw [kept]
  rfl

/-! ### Records -/

theorem FundingSettlementEvidence.distinct (settlement : FundingSettlementEvidence) :
    (settlement.toDict.map Prod.fst).Nodup := by
  show List.Nodup ["funding_time_ms", "funding_rate", "mark_price", "funding_cash", "funding_r",
    "is_settlement_open", "status"]
  decide

theorem FundingSettlementEvidence.read_toDict (settlement : FundingSettlementEvidence) :
    read forms (Json.obj settlement.toDict).canonical = .ok settlement := by
  have distinct := settlement.distinct
  show read forms (.obj (written settlement.toDict)) = _
  unfold read
  simp only [membersOf, ok_bind, entry_written _ distinct, given_written _ distinct,
    getOr_written _ _ distinct]
  simp only [toDict, List.lookup_cons, String.reduceBEq, Option.elim_some, Option.bind_some,
    ok_bind, canonical, optionalFloat_canonical, present_optionalFloat, intOf, floatOf,
    textOf, Json.truthy]
  rfl

theorem OutcomeCoverageEvidence.distinct (coverage : OutcomeCoverageEvidence) :
    (coverage.toDict.map Prod.fst).Nodup := by
  show List.Nodup ["coverage_status", "entry_coverage_complete", "outcome_coverage_complete",
    "start_coverage_ms", "end_coverage_ms", "expected_15m_bars", "observed_15m_bars",
    "expected_1m_bars", "observed_1m_bars", "notes"]
  decide

theorem OutcomeCoverageEvidence.read_toDict (coverage : OutcomeCoverageEvidence) :
    read forms (written coverage.toDict) = .ok coverage := by
  have distinct := coverage.distinct
  unfold read
  simp only [getOr_written _ _ distinct]
  simp only [toDict, List.lookup_cons, String.reduceBEq, Option.elim_some, ok_bind,
    canonical, intOf, textOf, Json.truthy]
  rfl

theorem mapM_written {Item : Type} {encode : Item → Json} {read : Json → Except CodecFault Item}
    {items : List Item} (each : ∀ item ∈ items, read (encode item).canonical = .ok item) :
    (canonicalItems (items.map encode)).mapM read = .ok items := by
  rw [canonicalItems_eq_map, List.map_map, Ranking.mapM_eq_ok_iff, List.forall₂_map_left_iff,
    List.forall₂_same]
  exact each

theorem FundingAccountingEvidence.distinct (accounting : FundingAccountingEvidence) :
    (accounting.toDict.map Prod.fst).Nodup := by
  show List.Nodup ["accounting_version", "funding_status", "settlements_count", "settlements",
    "funding_pnl_r", "funding_cash_total", "initial_risk", "notes"]
  decide

theorem FundingAccountingEvidence.read_toDict (accounting : FundingAccountingEvidence) :
    read forms (written accounting.toDict) = .ok accounting := by
  have distinct := accounting.distinct
  have settlements : (canonicalItems (accounting.settlements.map fun settlement =>
      .obj settlement.toDict)).mapM (FundingSettlementEvidence.read forms) =
        .ok accounting.settlements :=
    mapM_written fun settlement _ => settlement.read_toDict
  unfold read
  simp only [given_written _ distinct, getOr_written _ _ distinct]
  simp only [toDict, List.lookup_cons, String.reduceBEq, Option.elim_some, Option.bind_some,
    ok_bind, canonical, optionalFloat_canonical, present_optionalFloat, itemsOf, settlements,
    intOf, textOf]
  rfl

/-- The mark price of a checkpoint is not taken as a whole number. -/
def OutcomeCheckpointEvidence.FloatsOnly (checkpoint : OutcomeCheckpointEvidence) : Prop :=
  ∀ markPrice ∈ checkpoint.markPrice, markPrice.IsFloat

theorem OutcomeCheckpointEvidence.distinct (checkpoint : OutcomeCheckpointEvidence) :
    (checkpoint.toDict.map Prod.fst).Nodup := by
  show List.Nodup ["checkpoint_horizon_hours", "checkpoint_horizon_ms", "target_time_ms", "status",
    "mark_price", "mark_to_market_gross_r", "mfe_r_to_checkpoint", "mae_r_to_checkpoint",
    "barrier_status"]
  decide

theorem OutcomeCheckpointEvidence.read_toDict {checkpoint : OutcomeCheckpointEvidence}
    (floats : checkpoint.FloatsOnly) :
    read forms (Json.obj checkpoint.toDict).canonical = .ok checkpoint := by
  have distinct := checkpoint.distinct
  obtain ⟨markPrice, same⟩ : ∃ markPrice : Option Double,
      checkpoint.markPrice = markPrice.map .float := by
    match own : checkpoint.markPrice with
    | none => exact ⟨none, rfl⟩
    | some (.float value) => exact ⟨some value, rfl⟩
    | some (.int value) => exact absurd own (fun held => floats _ held)
  have mark : checkpoint.markPrice.elim .null Number.json = optionalFloat markPrice := by
    rw [same]
    cases markPrice <;> rfl
  show read forms (.obj (written checkpoint.toDict)) = _
  unfold read
  simp only [membersOf, ok_bind, entry_written _ distinct, given_written _ distinct,
    getOr_written _ _ distinct]
  simp only [toDict, mark, List.lookup_cons, String.reduceBEq, Option.elim_some, Option.bind_some,
    ok_bind, canonical, optionalFloat_canonical, present_optionalFloat, intOf, textOf]
  rw [← same]
  rfl

/-- The rule score is not taken as a whole number. -/
def AttributionProjectionEvidence.FloatsOnly (attribution : AttributionProjectionEvidence) : Prop :=
  attribution.ruleScore.IsFloat

theorem AttributionProjectionEvidence.distinct (attribution : AttributionProjectionEvidence) :
    (attribution.toDict.map Prod.fst).Nodup := by
  show List.Nodup ["selected_playbook", "direction", "regime_1h", "regime_4h", "entry_quality",
    "derivatives_regime", "benchmark_context", "reference_universe_status", "rule_score",
    "rule_score_bucket", "rule_score_components", "exhaustion_state"]
  decide

theorem readComponent_componentJson (component : Plain × Plain) :
    readComponent (componentJson component).canonical = .ok component := by
  obtain ⟨name, value⟩ := component
  show Except.ok (Plain.ofJson name.val.canonical, Plain.ofJson value.val.canonical) = _
  rw [Plain.ofJson_canonical, Plain.ofJson_canonical]

theorem AttributionProjectionEvidence.read_toDict {attribution : AttributionProjectionEvidence}
    (floats : attribution.FloatsOnly) :
    read forms (Json.obj attribution.toDict).canonical = .ok attribution := by
  have distinct := attribution.distinct
  obtain ⟨ruleScore, same⟩ : ∃ ruleScore, attribution.ruleScore = .float ruleScore := by
    match own : attribution.ruleScore with
    | .float value => exact ⟨value, rfl⟩
    | .int value => exact absurd floats (fun held => by
        unfold FloatsOnly at held
        rw [own] at held
        exact held)
  have components : (canonicalItems (attribution.ruleScoreComponents.map componentJson)).mapM
      readComponent = .ok attribution.ruleScoreComponents :=
    mapM_written fun component _ => readComponent_componentJson component
  show read forms (.obj (written attribution.toDict)) = _
  unfold read
  simp only [membersOf, ok_bind, getOr_written _ _ distinct]
  simp only [toDict, same, Number.json, List.lookup_cons, String.reduceBEq, Option.elim_some,
    ok_bind, canonical, itemsOf, components, floatOf, textOf]
  rw [← same]
  rfl

/-! ### Evaluations -/

instance (checkpoint : OutcomeCheckpointEvidence) : Decidable checkpoint.FloatsOnly :=
  inferInstanceAs (Decidable (∀ _ ∈ _, _))

instance (attribution : AttributionProjectionEvidence) : Decidable attribution.FloatsOnly :=
  inferInstanceAs (Decidable (Number.IsFloat _))

namespace TacticalShadowEvaluationV2

variable (evaluation : TacticalShadowEvaluationV2)

/-- Neither the rule score nor a mark price is taken as a whole number. -/
def FloatsOnly : Prop :=
  (∀ attribution ∈ evaluation.attribution, attribution.FloatsOnly) ∧
    ∀ checkpoint ∈ evaluation.outcomeCheckpoints, checkpoint.FloatsOnly

instance : Decidable evaluation.FloatsOnly := inferInstanceAs (Decidable (_ ∧ _))

theorem distinct : (evaluation.toDict.map Prod.fst).Nodup := by
  show List.Nodup ["attribution", "config_hash", "coverage", "direction", "entry_window_end_ms",
    "entry_window_start_ms", "evaluation_end_ms", "evaluation_horizon_bars",
    "evaluation_horizon_ms", "evaluation_profile_version", "evaluation_schema_version",
    "evaluation_start_ms", "execution_cost_r", "execution_path_model", "exit_interval_end_ms",
    "exit_interval_start_ms", "exit_price", "exit_time_ms", "exit_time_resolution",
    "feature_evidence_hash", "feature_evidence_id", "fill_interval_end_ms",
    "fill_interval_start_ms", "fill_price", "fill_status", "fill_time_ms", "fill_time_resolution",
    "forward_evidence_version", "funding_accounting", "mae_r", "mfe_r", "net_r_after_funding",
    "net_r_ex_funding", "outcome_checkpoints", "path_resolution", "playbook", "policy_version",
    "price_gross_r", "setup_key", "shadow_record_id", "signal_identity", "signal_time_ms",
    "sl_hit", "symbol", "terminal_reason", "terminal_status", "time_from_fill_to_terminal_ms",
    "time_to_fill_ms", "tp1_hit", "tp2_excursion_hit", "evaluation_id", "persisted_at_ms"]
  decide

variable {evaluation}

theorem attribution_read (floats : evaluation.FloatsOnly) :
    (present (evaluation.attribution.elim .null fun attribution =>
        Json.obj attribution.toDict).canonical).mapM (AttributionProjectionEvidence.read forms) =
      .ok evaluation.attribution := by
  cases own : evaluation.attribution with
  | none => rfl
  | some attribution =>
    have reads : AttributionProjectionEvidence.read forms (Json.obj attribution.toDict).canonical =
        .ok attribution := AttributionProjectionEvidence.read_toDict (floats.1 attribution own)
    have here : present (Json.obj attribution.toDict).canonical =
        some (Json.obj attribution.toDict).canonical := Option.filter_some_pos (by
          simp [canonical])
    rw [Option.elim_some, here, Option.mapM_some, reads]
    rfl

theorem read_toDict (floats : evaluation.FloatsOnly) :
    read forms evaluation.evaluationId (written evaluation.toDict) = .ok evaluation := by
  have distinct := evaluation.distinct
  have accounting : objectOr (written evaluation.toDict) "funding_accounting" =
      .ok (written evaluation.fundingAccounting.toDict) :=
    objectOr_written distinct (by rfl) (List.cons_ne_nil _ _)
  have coverage : objectOr (written evaluation.toDict) "coverage" =
      .ok (written evaluation.coverage.toDict) :=
    objectOr_written distinct (by rfl) (List.cons_ne_nil _ _)
  have checkpoints : (canonicalItems (evaluation.outcomeCheckpoints.map fun checkpoint =>
      .obj checkpoint.toDict)).mapM (OutcomeCheckpointEvidence.read forms) =
        .ok evaluation.outcomeCheckpoints :=
    mapM_written fun checkpoint own => OutcomeCheckpointEvidence.read_toDict
      (floats.2 checkpoint own)
  unfold read
  simp only [accounting, coverage, ok_bind, FundingAccountingEvidence.read_toDict,
    OutcomeCoverageEvidence.read_toDict, entry_written _ distinct, given_written _ distinct,
    getOr_written _ _ distinct]
  simp only [toDict, toCanonicalPayload, List.cons_append, List.nil_append, List.lookup_cons,
    String.reduceBEq, Option.elim_some, Option.bind_some, ok_bind, canonical,
    optionalInt_canonical, optionalFloat_canonical, optionalText_canonical, present_optionalInt,
    present_optionalFloat, present_optionalText, intOf, textOf, Json.truthy, itemsOf, checkpoints,
    attribution_read floats]
  rfl

end TacticalShadowEvaluationV2

/-! ### Identities -/

section

variable {evaluation read : TacticalShadowEvaluationV2}

theorem payloadId_eq_ok_iff {payload : Json} {evaluationId : String} :
    payloadId forms payload = .ok evaluationId ↔
      payload.isFinite = true ∧ forms.sha256 payload.canonical = evaluationId := by
  unfold payloadId canonicalShadowEvaluationDump
  by_cases finite : payload.isFinite = true
  · rw [if_pos finite]
    exact ⟨fun made => ⟨finite, Except.ok.inj made⟩, fun made => congrArg Except.ok made.2⟩
  · rw [if_neg finite]
    exact ⟨fun made => (nomatch made), fun made => absurd made.1 finite⟩

theorem verify_eq_ok_iff :
    verifyShadowEvaluationIdentity forms evaluation = .ok () ↔
      IsEvaluationId evaluation.evaluationId ∧
        computeEvaluationId forms evaluation = .ok evaluation.evaluationId := by
  unfold verifyShadowEvaluationIdentity
  rw [refuse_bind_eq_ok, not_not, bind_eq_ok]
  refine and_congr_right fun _ => ⟨?_, fun named => ⟨_, named, refuse_of_not (not_not.mpr rfl)⟩⟩
  rintro ⟨expected, computed, same⟩
  rw [refuse_eq_ok, not_not] at same
  rw [computed, same]

theorem identified_of_validate
    (valid : validateTacticalShadowEvaluation forms evaluation = .ok ()) :
    IsEvaluationId evaluation.evaluationId ∧
      computeEvaluationId forms evaluation = .ok evaluation.evaluationId := by
  unfold validateTacticalShadowEvaluation at valid
  obtain ⟨_, -, verified⟩ := bind_eq_ok.mp valid
  exact verify_eq_ok_iff.mp verified

theorem ne_empty_of_isEvaluationId {text : String} (named : IsEvaluationId text) : text ≠ "" := by
  rintro rfl
  revert named
  decide

/-- The evaluations that the builder returns. -/
def Sealed (forms : Forms) (evaluation : TacticalShadowEvaluationV2) : Prop :=
  ∃ content, sealEvaluation forms content = .ok evaluation

theorem Sealed.validate (made : Sealed forms evaluation) :
    validateTacticalShadowEvaluation forms evaluation = .ok () := by
  obtain ⟨content, made⟩ := made
  unfold sealEvaluation at made
  obtain ⟨evaluationId, -, made⟩ := bind_eq_ok.mp made
  obtain ⟨_, valid, same⟩ := bind_eq_ok.mp made
  rw [pure_eq_ok] at same
  exact same ▸ valid

theorem sealed_of (finite : evaluation.payload.isFinite = true)
    (digest : forms.sha256 evaluation.payload.canonical = evaluation.evaluationId)
    (format : IsEvaluationId evaluation.evaluationId)
    (checks : Check.run (versionChecks forms evaluation ++ numberChecks evaluation ++
      terminalChecks forms evaluation ++ presenceChecks evaluation) = .ok ()) :
    Sealed forms evaluation := by
  have computed : computeEvaluationId forms evaluation = .ok evaluation.evaluationId :=
    payloadId_eq_ok_iff.mpr ⟨finite, digest⟩
  refine ⟨evaluation, ?_⟩
  unfold sealEvaluation validateTacticalShadowEvaluation
  rw [computed, ok_bind]
  dsimp only
  rw [checks, ok_bind, verify_eq_ok_iff.mpr ⟨format, computed⟩, ok_bind]
  rfl

theorem Sealed.computed (made : Sealed forms evaluation) :
    computeEvaluationId forms evaluation = .ok evaluation.evaluationId :=
  (identified_of_validate made.validate).2

theorem Sealed.named (made : Sealed forms evaluation) : evaluation.evaluationId ≠ "" :=
  ne_empty_of_isEvaluationId (identified_of_validate made.validate).1

theorem Sealed.asCanonicalJson (made : Sealed forms evaluation) :
    evaluation.asCanonicalJson = .ok (.obj (written evaluation.toDict)) := by
  have finite := (payloadId_eq_ok_iff.mp made.computed).1
  have whole : (Json.obj evaluation.toDict).isFinite = true := by
    show isFiniteMembers (evaluation.toCanonicalPayload ++ _) = true
    rw [isFiniteMembers_eq_all, List.all_append, ← isFiniteMembers_eq_all]
    refine Bool.and_eq_true_iff.mpr ⟨finite, ?_⟩
    cases evaluation.persistedAtMs <;> rfl
  exact if_pos whole

/-! ### What is read -/

theorem deserialize_eq_ok_iff {requires : Bool} {text : Json} :
    deserializeTacticalShadowEvaluation forms requires text = .ok read ↔
      ∃ members, text = .obj members ∧ ∃ evaluationId,
        embeddedId forms requires members = .ok evaluationId ∧
          TacticalShadowEvaluationV2.read forms evaluationId members = .ok read ∧
            validateTacticalShadowEvaluation forms read = .ok () := by
  unfold deserializeTacticalShadowEvaluation
  rw [bind_eq_ok]
  constructor
  · rintro ⟨members, own, rest⟩
    obtain ⟨evaluationId, named, rest⟩ := bind_eq_ok.mp rest
    obtain ⟨found, made, rest⟩ := bind_eq_ok.mp rest
    obtain ⟨_, valid, same⟩ := bind_eq_ok.mp rest
    rw [pure_eq_ok] at same
    subst same
    refine ⟨members, ?_, evaluationId, named, made, valid⟩
    cases text with
    | obj held => exact congrArg Json.obj (Except.ok.inj own)
    | _ => cases own
  · rintro ⟨members, rfl, evaluationId, named, made, valid⟩
    refine ⟨members, rfl, bind_eq_ok.mpr ⟨evaluationId, named,
      bind_eq_ok.mpr ⟨read, made, bind_eq_ok.mpr ⟨(), valid, rfl⟩⟩⟩⟩

def Yields {Value : Type} (property : Value → Prop) (program : Except CodecFault Value) : Prop :=
  ∀ value, program = .ok value → property value

theorem Yields.bind {Value Result : Type} {property : Result → Prop}
    {program : Except CodecFault Value} {next : Value → Except CodecFault Result}
    (each : ∀ value, program = .ok value → Yields property (next value)) :
    Yields property (program >>= next) := by
  intro result made
  obtain ⟨value, own, rest⟩ := bind_eq_ok.mp made
  exact each value own result rest

theorem Yields.pure {Value : Type} {property : Value → Prop} {value : Value}
    (holds : property value) : Yields property (Pure.pure value) := by
  intro result made
  rw [pure_eq_ok] at made
  exact made ▸ holds

theorem exists_of_mem_optionMapM {Value : Type} {call : Json → Except CodecFault Value}
    {item : Option Json} {result : Option Value} {value : Value}
    (done : item.mapM call = .ok result) (own : value ∈ result) :
    ∃ held, call held = .ok value := by
  cases item with
  | none =>
    cases done
    cases own
  | some held =>
    have wrapped : (call held).map some = .ok result := done
    obtain ⟨found, called, same⟩ := map_eq_ok.mp wrapped
    subst same
    exact ⟨held, Option.some.inj own ▸ called⟩

theorem checkpoint_floats (value : Json) :
    Yields OutcomeCheckpointEvidence.FloatsOnly (OutcomeCheckpointEvidence.read forms value) := by
  unfold OutcomeCheckpointEvidence.read
  refine Yields.bind fun members _ => Yields.bind fun markPrice _ => ?_
  repeat refine Yields.bind fun _ _ => ?_
  refine Yields.pure ?_
  rintro number own
  obtain ⟨value, -, rfl⟩ := Option.map_eq_some_iff.mp own
  trivial

theorem attribution_floats (value : Json) :
    Yields AttributionProjectionEvidence.FloatsOnly
      (AttributionProjectionEvidence.read forms value) := by
  unfold AttributionProjectionEvidence.read
  repeat refine Yields.bind fun _ _ => ?_
  exact Yields.pure trivial

theorem read_floats (evaluationId : String) (payload : List (String × Json)) :
    Yields (fun read => read.evaluationId = evaluationId ∧ read.FloatsOnly)
      (TacticalShadowEvaluationV2.read forms evaluationId payload) := by
  unfold TacticalShadowEvaluationV2.read
  refine Yields.bind fun _ _ => Yields.bind fun _ _ => Yields.bind fun _ _ => ?_
  refine Yields.bind fun _ _ => Yields.bind fun items _ => Yields.bind fun checkpoints made => ?_
  refine Yields.bind fun attribution found => ?_
  have marks : ∀ checkpoint ∈ checkpoints, checkpoint.FloatsOnly := by
    intro checkpoint own
    obtain ⟨item, -, same⟩ := Ranking.exists_of_mem_mapM made own
    exact checkpoint_floats item checkpoint same
  have score : ∀ projection ∈ attribution, projection.FloatsOnly := by
    intro projection own
    obtain ⟨value, same⟩ := exists_of_mem_optionMapM found own
    exact attribution_floats value projection same
  repeat refine Yields.bind fun _ _ => ?_
  exact Yields.pure ⟨rfl, score, marks⟩

end

/-! ### Payloads -/

section

variable {first second : TacticalShadowEvaluationV2}

theorem payload_distinct (evaluation : TacticalShadowEvaluationV2) :
    (evaluation.toCanonicalPayload.map Prod.fst).Nodup := by
  have distinct := evaluation.distinct
  unfold TacticalShadowEvaluationV2.toDict at distinct
  rw [List.map_append] at distinct
  exact distinct.of_append_left

theorem lookup_of_same {members others : List (String × Json)}
    (distinct : (members.map Prod.fst).Nodup) (apart : (others.map Prod.fst).Nodup)
    (same : (Json.obj members).canonical = (Json.obj others).canonical) (key : String) :
    (members.lookup key).map canonical = (others.lookup key).map canonical := by
  have alike : written members = written others := Json.obj.inj same
  rw [← lookup_written key distinct, ← lookup_written key apart, alike]

theorem Number.isFloat_of_same {number other : Number}
    (same : number.json.canonical = other.json.canonical) (float : other.IsFloat) :
    number.IsFloat := by
  cases number with
  | float value => trivial
  | int value =>
    cases other with
    | float found => cases same
    | int found => exact float

theorem AttributionProjectionEvidence.floats_of_same
    {projection other : AttributionProjectionEvidence}
    (same : (Json.obj projection.toDict).canonical = (Json.obj other.toDict).canonical)
    (floats : other.FloatsOnly) : projection.FloatsOnly := by
  have score := lookup_of_same projection.distinct other.distinct same "rule_score"
  exact Number.isFloat_of_same (Option.some.inj score) floats

theorem OutcomeCheckpointEvidence.floats_of_same {checkpoint other : OutcomeCheckpointEvidence}
    (same : (Json.obj checkpoint.toDict).canonical = (Json.obj other.toDict).canonical)
    (floats : other.FloatsOnly) : checkpoint.FloatsOnly := by
  have mark := Option.some.inj
    (lookup_of_same checkpoint.distinct other.distinct same "mark_price")
  intro number own
  rw [Option.mem_def.mp own] at mark
  cases found : other.markPrice with
  | none =>
    rw [found] at mark
    cases number <;> cases mark
  | some value =>
    rw [found] at mark
    exact Number.isFloat_of_same mark (floats value found)

theorem floats_of_same (same : first.payload.canonical = second.payload.canonical)
    (floats : second.FloatsOnly) : first.FloatsOnly := by
  have member := lookup_of_same (payload_distinct first) (payload_distinct second) same
  constructor
  · intro projection own
    have attribution := Option.some.inj (member "attribution")
    rw [Option.mem_def.mp own] at attribution
    cases found : second.attribution with
    | none =>
      rw [found] at attribution
      cases attribution
    | some other =>
      rw [found] at attribution
      exact AttributionProjectionEvidence.floats_of_same attribution (floats.1 other found)
  · intro checkpoint own
    have checkpoints := Json.arr.inj (Option.some.inj (member "outcome_checkpoints"))
    rw [canonicalItems_eq_map, canonicalItems_eq_map, List.map_map, List.map_map] at checkpoints
    obtain ⟨other, found, alike⟩ := List.mem_map.mp
      (checkpoints ▸ List.mem_map.mpr ⟨checkpoint, own, rfl⟩)
    exact OutcomeCheckpointEvidence.floats_of_same alike.symm (floats.2 other found)

end

/-! ### The codec -/

/-- No other payload has the digest of this one. -/
def CollisionFree (forms : Forms) (payload : Json) : Prop :=
  ∀ other, forms.sha256 other = forms.sha256 payload.canonical → other = payload.canonical

def Number.plain (number : Number) : Number := .float number.value

/-- What Python compares of an evaluation: a whole number is equal to the float of its value. -/
def TacticalShadowEvaluationV2.plain (evaluation : TacticalShadowEvaluationV2) :
    TacticalShadowEvaluationV2 :=
  { evaluation with
    outcomeCheckpoints := evaluation.outcomeCheckpoints.map fun checkpoint =>
      { checkpoint with markPrice := checkpoint.markPrice.map Number.plain }
    attribution := evaluation.attribution.map fun attribution =>
      { attribution with ruleScore := attribution.ruleScore.plain } }

def ReadsAs (forms : Forms) (evaluation read : TacticalShadowEvaluationV2) : Prop :=
  ∃ text, evaluation.asCanonicalJson = .ok text ∧
    deserializeTacticalShadowEvaluation forms false text = .ok read

/-- What is written of the evaluation is read as an equal one, whose recomputed identity is the
stored one. -/
def RoundTrips (forms : Forms) (evaluation : TacticalShadowEvaluationV2) : Prop :=
  ∃ read, ReadsAs forms evaluation read ∧ read.plain = evaluation.plain ∧
    computeEvaluationId forms read = .ok evaluation.evaluationId

section

variable {evaluation read other : TacticalShadowEvaluationV2}

theorem embeddedId_written (named : evaluation.evaluationId ≠ "") :
    embeddedId forms false (written evaluation.toDict) = .ok evaluation.evaluationId := by
  have own : getOr (written evaluation.toDict) "evaluation_id" .null =
      .str evaluation.evaluationId := by
    rw [getOr_written _ _ evaluation.distinct]
    rfl
  unfold embeddedId
  dsimp only
  rw [own, refuse_of_not (fun required => Bool.false_ne_true required.1)]
  have given : Json.truthy (.str evaluation.evaluationId) = true := decide_eq_true named
  rw [ok_bind, if_pos given]
  rfl

theorem Sealed.readsAs_iff (made : Sealed forms evaluation) :
    ReadsAs forms evaluation read ↔
      TacticalShadowEvaluationV2.read forms evaluation.evaluationId
          (written evaluation.toDict) = .ok read ∧
        validateTacticalShadowEvaluation forms read = .ok () := by
  unfold ReadsAs
  rw [made.asCanonicalJson]
  constructor
  · rintro ⟨text, written, accepted⟩
    obtain rfl := Except.ok.inj written
    obtain ⟨members, same, evaluationId, named, rest⟩ := deserialize_eq_ok_iff.mp accepted
    obtain rfl := Json.obj.inj same
    rw [embeddedId_written made.named] at named
    obtain rfl := Except.ok.inj named
    exact rest
  · intro rest
    exact ⟨_, rfl, deserialize_eq_ok_iff.mpr ⟨_, rfl, _, embeddedId_written made.named, rest⟩⟩

theorem Sealed.read_spec (made : Sealed forms evaluation) (reads : ReadsAs forms evaluation read) :
    read.evaluationId = evaluation.evaluationId ∧ read.FloatsOnly ∧
      forms.sha256 read.payload.canonical = forms.sha256 evaluation.payload.canonical := by
  obtain ⟨found, valid⟩ := made.readsAs_iff.mp reads
  obtain ⟨same, floats⟩ := read_floats _ _ read found
  have own := (payloadId_eq_ok_iff.mp (identified_of_validate valid).2).2
  have stored := (payloadId_eq_ok_iff.mp made.computed).2
  exact ⟨same, floats, by rw [own, stored, same]⟩

theorem Sealed.roundTrips_iff (made : Sealed forms evaluation)
    (apart : CollisionFree forms evaluation.payload) :
    RoundTrips forms evaluation ↔ evaluation.FloatsOnly := by
  constructor
  · rintro ⟨read, reads, -, -⟩
    obtain ⟨-, floats, digest⟩ := made.read_spec reads
    exact floats_of_same (apart _ digest).symm floats
  · intro floats
    have reads : ReadsAs forms evaluation evaluation :=
      made.readsAs_iff.mpr ⟨TacticalShadowEvaluationV2.read_toDict floats, made.validate⟩
    exact ⟨evaluation, reads, rfl, made.computed⟩

def Identified (forms : Forms) (requires : Bool) (text : Json)
    (read : TacticalShadowEvaluationV2) : Prop :=
  ∃ members, text = .obj members ∧ embeddedId forms requires members = .ok read.evaluationId ∧
    computeEvaluationId forms read = .ok read.evaluationId ∧
      (CollisionFree forms read.payload →
        (computeDictId forms members = .ok read.evaluationId ↔
          (Json.obj (contentMembers members)).canonical = read.payload.canonical))

theorem identified_of_deserialize {requires : Bool} {text : Json}
    (accepted : deserializeTacticalShadowEvaluation forms requires text = .ok read) :
    Identified forms requires text read := by
  obtain ⟨members, rfl, evaluationId, named, made, valid⟩ := deserialize_eq_ok_iff.mp accepted
  obtain ⟨rfl, -⟩ := read_floats _ _ read made
  have computed := (identified_of_validate valid).2
  obtain ⟨finite, digest⟩ := payloadId_eq_ok_iff.mp computed
  refine ⟨members, rfl, named, computed, fun apart => ?_⟩
  unfold computeDictId
  rw [payloadId_eq_ok_iff]
  constructor
  · rintro ⟨-, own⟩
    exact apart _ (own.trans digest.symm)
  · intro same
    constructor
    · rw [← isFinite_canonical, same, isFinite_canonical]
      exact finite
    · rw [same]
      exact digest

theorem payload_eq_of_readsAs (made : Sealed forms evaluation) (also : Sealed forms other)
    (apart : CollisionFree forms evaluation.payload) (reads : ReadsAs forms evaluation read)
    (alike : ReadsAs forms other read) :
    evaluation.payload.canonical = other.payload.canonical := by
  have first := (made.read_spec reads).2.2
  have second := (also.read_spec alike).2.2
  exact (apart _ (second.symm.trans first)).symm

end

/-- A sealed evaluation is read back as it was written exactly when neither its rule score nor a
mark price of a checkpoint is a whole number. Whatever is accepted has the identity of its own
payload, and payloads that differ are not read as one evaluation. -/
theorem codec_round_trips_iff (forms : Forms) :
    (∀ evaluation, Sealed forms evaluation → CollisionFree forms evaluation.payload →
      (RoundTrips forms evaluation ↔ evaluation.FloatsOnly)) ∧
    (∀ requires text read,
      deserializeTacticalShadowEvaluation forms requires text = .ok read →
        Identified forms requires text read) ∧
    ∀ first second read, Sealed forms first → Sealed forms second →
      CollisionFree forms first.payload → ReadsAs forms first read → ReadsAs forms second read →
        first.payload.canonical = second.payload.canonical :=
  ⟨fun _ made apart => made.roundTrips_iff apart, fun _ _ _ => identified_of_deserialize,
    fun _ _ _ made also apart => payload_eq_of_readsAs made also apart⟩

/-! ### A whole rule score -/

def unfilledEvidence (ruleScore : Number) : ProjectedEvidence where
  selectedPlaybook := some "TREND_PULLBACK"
  finalDirectionalDecision := some "LONG"
  regime1h := some "TREND_UP"
  regime4h := some "TREND_UP"
  entryQuality := some "GOOD"
  derivativesRegime := some "NEUTRAL"
  benchmarkContext := some "NEUTRAL"
  referenceUniverseStatus := some "COMPLETE"
  ruleScore := ruleScore
  ruleScoreBreakdown := some {
    adxScore := .float (.finite (125 / 2))
    emaSlopeScore := .float (.finite 70)
    trendQuality := .float (.finite 66)
    structureQuality := .float (.finite 80)
    entryQualityScore := .float (.finite 90)
    derivativesConfirmationScore := .float (.finite 75)
    volumeZScore := .float (.finite 60)
    takerScore := .float (.finite 55)
    relativeStrengthScore := .float (.finite 50)
    netRrScore := .float (.finite 85)
    totalPenalty := .float (.finite 0) }
  exhaustionState := none

def unfilledCheckpoint (hours : ℤ) : OutcomeCheckpointEvidence where
  checkpointHorizonHours := hours
  checkpointHorizonMs := hours * 3600 * 1000
  targetTimeMs := 0
  status := "NOT_APPLICABLE"
  barrierStatus := "NOT_FILLED"

def unfilled (evaluationId : String) (ruleScore : Number) : TacticalShadowEvaluationV2 where
  evaluationSchemaVersion := tacticalShadowEvaluationSchemaVersion
  evaluationId := evaluationId
  featureEvidenceId := "0f2c1c3a5f7d4b2e8a6c9d1e3f5a7b9c0d2e4f6a8b1c3d5e7f9a0b2c4d6e8f10"
  shadowRecordId := 1
  symbol := "BTCUSDT"
  signalIdentity := "signal"
  setupKey := "setup"
  playbook := "TREND_PULLBACK"
  direction := "LONG"
  signalTimeMs := 1767225600000
  entryWindowStartMs := 1767225600000
  entryWindowEndMs := 1767229200000
  fillStatus := "NO_FILL"
  fillTimeMs := none
  fillPrice := none
  evaluationProfileVersion := directionalOutcomeProfileVersion
  evaluationHorizonBars := 48
  evaluationHorizonMs := 43200000
  evaluationStartMs := none
  evaluationEndMs := some 1767229200000
  terminalStatus := "NO_FILL"
  terminalReason := some "NO_FILL"
  exitTimeMs := some 1767229200000
  exitPrice := none
  tp1Hit := false
  tp2ExcursionHit := false
  slHit := false
  timeToFillMs := none
  timeFromFillToTerminalMs := none
  mfeR := none
  maeR := none
  priceGrossR := none
  executionCostR := none
  netRExFunding := none
  fundingAccounting := { notes := "Position not filled" }
  netRAfterFunding := none
  coverage := {
    coverageStatus := "COMPLETE"
    entryCoverageComplete := true
    outcomeCoverageComplete := false
    startCoverageMs := 1767225600000
    endCoverageMs := 1767229200000 }
  pathResolution := "FIFTEEN_MINUTE_STOP_FIRST"
  executionPathModel := "PARTIAL_FIRST_BAR_1M_THEN_15M"
  outcomeCheckpoints := [4, 8, 12, 24].map unfilledCheckpoint
  attribution := some (extractAttributionProjection (unfilledEvidence ruleScore))
  featureEvidenceHash := "0f2c1c3a5f7d4b2e8a6c9d1e3f5a7b9c0d2e4f6a8b1c3d5e7f9a0b2c4d6e8f10"
  policyVersion := "TACTICAL_POLICY_R2_B0"
  configHash := "config"

/-- The trade with the rule score 80. -/
def wholeScore : TacticalShadowEvaluationV2 :=
  unfilled "2dc7a6c52ac4a876239a9a9b328ccce50567023110ca75b2ab94bb8a365e5306" (.int 80)

/-- The trade with the rule score 80.0. -/
def floatScore : TacticalShadowEvaluationV2 :=
  unfilled "cb0a26f5a164c4fb0beb96ebfe8d02e65088987b51620748abd9e5a1b93decee" (.float (.finite 80))

/-- Python at the two trades. -/
def unfilledForms : Forms where
  sha256 payload :=
    if payload = wholeScore.payload.canonical then wholeScore.evaluationId
    else if payload = floatScore.payload.canonical then floatScore.evaluationId
    else ""
  round value := .finite value
  intOfText _ := none
  floatOfText _ := none
  strOf _ := ""
  strip text := text
  upper text := text

theorem floatScore_floats : floatScore.FloatsOnly := by decide

theorem wholeScore_not_floats : ¬ wholeScore.FloatsOnly := by decide

theorem floatScore_payload_ne :
    floatScore.payload.canonical ≠ wholeScore.payload.canonical := fun same =>
  wholeScore_not_floats (floats_of_same same.symm floatScore_floats)

theorem wholeScore_collisionFree : CollisionFree unfilledForms wholeScore.payload := by
  intro other same
  have own : unfilledForms.sha256 wholeScore.payload.canonical = wholeScore.evaluationId :=
    if_pos rfl
  rw [own] at same
  unfold unfilledForms at same
  dsimp only at same
  split_ifs at same with whole
  · exact whole
  · exact absurd same (by decide)
  · exact absurd same (by decide)

theorem floatScore_digest :
    unfilledForms.sha256 floatScore.payload.canonical = floatScore.evaluationId := by
  unfold unfilledForms
  dsimp only
  rw [if_neg floatScore_payload_ne, if_pos rfl]

theorem floatScore_collisionFree : CollisionFree unfilledForms floatScore.payload := by
  intro other same
  rw [floatScore_digest] at same
  unfold unfilledForms at same
  dsimp only at same
  split_ifs at same with _ float
  · exact absurd same (by decide)
  · exact float
  · exact absurd same (by decide)

theorem wholeScore_sealed : Sealed unfilledForms wholeScore :=
  sealed_of (by decide +kernel) (if_pos rfl) (by decide +kernel) (by decide +kernel)

theorem floatScore_sealed : Sealed unfilledForms floatScore :=
  sealed_of (by decide +kernel) floatScore_digest (by decide +kernel) (by decide +kernel)

/-- With the rule score 80.0 the evaluation is read back. -/
theorem floatScore_round_trips : RoundTrips unfilledForms floatScore :=
  ((codec_round_trips_iff unfilledForms).1 floatScore floatScore_sealed
    floatScore_collisionFree).mpr floatScore_floats

/-- With the rule score 80 the evaluation is sealed, and what is written of it is not read. -/
theorem wholeScore_refused :
    Sealed unfilledForms wholeScore ∧ CollisionFree unfilledForms wholeScore.payload ∧
      (∀ read, ¬ ReadsAs unfilledForms wholeScore read) ∧
      ¬ RoundTrips unfilledForms wholeScore := by
  have refused : ∀ read, ¬ ReadsAs unfilledForms wholeScore read := by
    intro read reads
    obtain ⟨-, floats, digest⟩ := wholeScore_sealed.read_spec reads
    exact wholeScore_not_floats
      (floats_of_same (wholeScore_collisionFree _ digest).symm floats)
  exact ⟨wholeScore_sealed, wholeScore_collisionFree, refused, fun trip =>
    refused _ trip.choose_spec.1⟩

end QuantAgent.MarketWatch.Shadow.Codec
