/-
This file says what a verified candidate signal depends on. The references of its entry are those
of the window that the contract selects, so the canonical producer replays it from the contract and
from candles that were closed and available: two bundles that are accepted over datasets that agree
on those candles hold the same content. A contract of another producer fixes less, since the signal
then comes from the generation contract of the submission.
-/

import QuantAgent.Replay.Bundle
import QuantAgent.Research.EconomicPath

namespace QuantAgent.Replay

open Research

/-! ### Equal values -/

theorem plainItems_eq_map (items : List Json) : plainItems items = items.map plain := by
  induction items with
  | nil => rfl
  | cons item items inductionHypothesis => exact congrArg (plain item :: ·) inductionHypothesis

theorem lookup_plainMembers (members : List (String × Json)) (key : String) :
    (plainMembers members).lookup key = (members.lookup key).map plain := by
  induction members with
  | nil => rfl
  | cons member members inductionHypothesis =>
    obtain ⟨name, held⟩ := member
    rw [plainMembers, List.lookup_cons, List.lookup_cons, inductionHypothesis]
    split <;> rfl

theorem SameJson.lookup {members others : List (String × Json)}
    (same : SameJson (.obj members) (.obj others)) (key : String) :
    (members.lookup key).map (fun value => (plain value).canonical) =
      (others.lookup key).map fun value => (plain value).canonical := by
  have sorted := congrArg (List.lookup key) (Json.obj.inj same)
  simpa only [Json.lookup_sortMembers, Json.lookup_canonicalMembers, lookup_plainMembers,
    Option.map_map, Function.comp_def] using sorted

theorem SameJson.items {items others : List Json} (same : SameJson (.arr items) (.arr others)) :
    List.Forall₂ SameJson items others := by
  have mapped := Json.arr.inj same
  rw [plainItems_eq_map, plainItems_eq_map, Json.canonicalItems_eq_map,
    Json.canonicalItems_eq_map] at mapped
  rw [List.map_map, List.map_map, ← List.forall₂_eq_eq_eq, List.forall₂_map_left_iff,
    List.forall₂_map_right_iff] at mapped
  exact mapped

theorem entry_eq_ok {members : List (String × Json)} {key : String} {value : Json}
    (found : entry members key = .ok value) : members.lookup key = some value := by
  unfold entry at found
  split at found
  · next held => exact held.trans (congrArg some (Except.ok.inj found))
  · cases found

theorem DatasetCandle.payload_injective : Function.Injective DatasetCandle.payload := by
  intro candle other same
  obtain ⟨⟨⟩, closed, availableAtMs, positive⟩ := candle
  obtain ⟨⟨⟩, otherClosed, otherAvailableAtMs, otherPositive⟩ := other
  cases availableAtMs <;> cases otherAvailableAtMs <;>
    simp_all [DatasetCandle.payload, DatasetCandle.number]

/-! ### The content of a signal -/

variable {signalId experimentId : String}

namespace InformationSignal

/-- The economic content of two signals is the same; a null value in the metadata is none. -/
structure SameContent (signal other : InformationSignal) : Prop where
  asset : signal.asset = other.asset
  direction : signal.direction = other.direction
  strength : signal.strength = other.strength
  horizonMs : signal.horizonMs = other.horizonMs
  metadata : ∃ members others, signal.economicMetadata = .ok members ∧
    other.economicMetadata = .ok others ∧ SameJson (.obj members) (.obj others)

variable {signal other : InformationSignal} {timestampMs : ℤ}

theorem SameContent.symm (same : signal.SameContent other) : other.SameContent signal := by
  obtain ⟨members, others, first, second, equal⟩ := same.metadata
  exact ⟨same.asset.symm, same.direction.symm, same.strength.symm, same.horizonMs.symm,
    others, members, second, first, equal.symm⟩

theorem SameContent.trans {last : InformationSignal} (same : signal.SameContent other)
    (next : other.SameContent last) : signal.SameContent last := by
  obtain ⟨members, others, first, second, equal⟩ := same.metadata
  obtain ⟨again, further, third, fourth, later⟩ := next.metadata
  obtain rfl := Except.ok.inj (second.symm.trans third)
  exact ⟨same.asset.trans next.asset, same.direction.trans next.direction,
    same.strength.trans next.strength, same.horizonMs.trans next.horizonMs,
    members, further, first, fourth, equal.trans later⟩

theorem create_eq_ok {content : SignalContent} {signal : InformationSignal}
    (created : create signalId experimentId timestampMs content = .ok signal) :
    signal.asset = content.asset ∧ signal.direction = content.direction ∧
      signal.strength = content.strength ∧ signal.horizonMs = content.horizonMs ∧
      signal.metadata = content.metadata := by
  unfold create at created
  obtain ⟨signalIdText, created⟩ := demand_bind_eq_ok.mp created
  obtain ⟨experimentIdText, created⟩ := demand_bind_eq_ok.mp created
  obtain ⟨timestamp, created⟩ := demand_bind_eq_ok.mp created
  obtain ⟨sign, created⟩ := demand_bind_eq_ok.mp created
  obtain ⟨horizon, created⟩ := demand_bind_eq_ok.mp created
  cases created
  exact ⟨rfl, rfl, rfl, rfl, rfl⟩

theorem SameContent.of_create {signalId experimentId otherId otherExperimentId : String}
    {content : SignalContent} {replayed again : InformationSignal}
    (created : create signalId experimentId timestampMs content = .ok replayed)
    (recreated : create otherId otherExperimentId timestampMs content = .ok again)
    (first : replayed.SameContent signal) (second : again.SameContent other) :
    signal.SameContent other := by
  obtain ⟨asset, direction, strength, horizonMs, metadata⟩ := create_eq_ok created
  obtain ⟨otherAsset, otherDirection, otherStrength, otherHorizonMs, otherMetadata⟩ :=
    create_eq_ok recreated
  obtain ⟨members, others, economic, -, -⟩ := first.metadata
  have between : replayed.SameContent again := by
    refine ⟨asset.trans otherAsset.symm, direction.trans otherDirection.symm,
      strength.trans otherStrength.symm, horizonMs.trans otherHorizonMs.symm,
      members, members, economic, ?_, rfl⟩
    rw [← economic]
    unfold economicMetadata
    rw [metadata, otherMetadata]
  exact first.symm.trans (between.trans second)

end InformationSignal

theorem compareReplay_sameContent {replayed formal : InformationSignal}
    (compared : compareReplay replayed formal = .ok ()) : replayed.SameContent formal := by
  unfold compareReplay at compared
  obtain ⟨direction, compared⟩ := refuse_bind_eq_ok.mp compared
  obtain ⟨strength, compared⟩ := refuse_bind_eq_ok.mp compared
  obtain ⟨-, compared⟩ := refuse_bind_eq_ok.mp compared
  obtain ⟨asset, compared⟩ := refuse_bind_eq_ok.mp compared
  obtain ⟨horizonMs, compared⟩ := refuse_bind_eq_ok.mp compared
  obtain ⟨payload, first, compared⟩ := bind_eq_ok.mp compared
  obtain ⟨others, second, compared⟩ := bind_eq_ok.mp compared
  have equal := refuse_eq_ok.mp compared
  unfold InformationSignal.semanticPayload at first second
  obtain ⟨members, economic, made⟩ := bind_eq_ok.mp first
  obtain ⟨found, otherEconomic, otherMade⟩ := bind_eq_ok.mp second
  cases made
  cases otherMade
  have metadata := (not_not.mp equal).lookup "economic_metadata"
  exact ⟨not_not.mp asset, not_not.mp direction, (not_not.mp strength).1, not_not.mp horizonMs,
    members, found, economic, otherEconomic, Option.some.inj metadata⟩

section

variable [Platform]

/-! ### The rows behind the references -/

def RowHashed (candle : DatasetCandle) (reference : Json) : Prop :=
  ∃ members rowSha256, reference = .obj members ∧ canonicalSha256 candle.payload = .ok rowSha256 ∧
    members.lookup "row_content_sha256" = some (.str rowSha256)

def RowsApart (candles : List DatasetCandle) : Prop :=
  ∀ candle ∈ candles, ∀ other ∈ candles,
    canonicalSha256 candle.payload = canonicalSha256 other.payload →
      candle.payload = other.payload

variable {candles : List DatasetCandle} {datasetEvidenceId : String} {timestampMs : ℤ}

variable {window : List DatasetCandle} {references : List Json}

theorem expectedInputRefs_rowHashed
    (made : expectedInputRefs datasetEvidenceId window = .ok references) :
    List.Forall₂ RowHashed window references := by
  induction window generalizing references with
  | nil =>
    cases made
    exact .nil
  | cons candle window inductionHypothesis =>
    unfold expectedInputRefs at made
    split at made
    · cases made
    · obtain ⟨rowSha256, hashed, made⟩ := bind_eq_ok.mp made
      obtain ⟨others, rest, made⟩ := bind_eq_ok.mp made
      cases made
      exact .cons ⟨_, rowSha256, rfl, hashed, rfl⟩ (inductionHypothesis rest)

theorem readReferences_rowHashed {lastOpenTime : ℤ} {inputs : List DatasetCandle}
    (read : readReferences signalId candles timestampMs lastOpenTime references = .ok inputs) :
    List.Forall₂ (fun candle reference => candle ∈ candles ∧ RowHashed candle reference)
      inputs references := by
  induction references generalizing lastOpenTime inputs with
  | nil =>
    cases read
    exact .nil
  | cons reference references inductionHypothesis =>
    unfold readReferences at read
    split at read
    · next none => cases none
    · next members rest same =>
      obtain ⟨rfl, rfl⟩ := List.cons.inj same
      obtain ⟨openTimeMs, -, read⟩ := bind_eq_ok.mp read
      obtain ⟨openTime, -, read⟩ := bind_eq_ok.mp read
      obtain ⟨-, read⟩ := refuse_bind_eq_ok.mp read
      split at read
      · cases read
      · next candle found =>
        obtain ⟨-, read⟩ := refuse_bind_eq_ok.mp read
        split at read
        · cases read
        · obtain ⟨-, read⟩ := refuse_bind_eq_ok.mp read
          obtain ⟨availableMs, -, read⟩ := bind_eq_ok.mp read
          obtain ⟨asserted, -, read⟩ := bind_eq_ok.mp read
          obtain ⟨-, read⟩ := refuse_bind_eq_ok.mp read
          obtain ⟨rowSha256, hashed, read⟩ := bind_eq_ok.mp read
          obtain ⟨declared, carried, read⟩ := bind_eq_ok.mp read
          obtain ⟨equal, read⟩ := refuse_bind_eq_ok.mp read
          obtain ⟨others, later, read⟩ := bind_eq_ok.mp read
          cases read
          obtain rfl := not_not.mp equal
          have own := List.mem_reverse.mp (List.mem_of_find?_eq_some found)
          exact .cons ⟨own, members, rowSha256, rfl, hashed, entry_eq_ok carried⟩
            (inductionHypothesis later)
    · cases read

theorem RowHashed.same {candle other : DatasetCandle} {reference found : Json}
    (first : RowHashed candle reference) (second : RowHashed other found)
    (same : SameJson reference found) :
    canonicalSha256 candle.payload = canonicalSha256 other.payload := by
  obtain ⟨members, rowSha256, rfl, hashed, carried⟩ := first
  obtain ⟨others, otherSha256, rfl, otherHashed, otherCarried⟩ := second
  have equal := same.lookup "row_content_sha256"
  rw [carried, otherCarried] at equal
  rw [hashed, otherHashed, Json.str.inj (Option.some.inj equal)]

theorem eq_of_references (apart : RowsApart candles) {inputs window : List DatasetCandle}
    {references expected : List Json}
    (read : List.Forall₂ (fun candle reference => candle ∈ candles ∧ RowHashed candle reference)
      inputs references)
    (made : List.Forall₂ RowHashed window expected) (within : ∀ candle ∈ window, candle ∈ candles)
    (same : List.Forall₂ SameJson references expected) : inputs = window := by
  induction same generalizing inputs window with
  | nil =>
    cases read
    cases made
    rfl
  | cons equal rest inductionHypothesis =>
    obtain _ | ⟨⟨own, hashed⟩, read⟩ := read
    obtain _ | ⟨otherHashed, made⟩ := made
    have payload := apart _ own _ (within _ List.mem_cons_self) (hashed.same otherHashed equal)
    rw [DatasetCandle.payload_injective payload, inductionHypothesis read made
      fun candle member => within candle (List.mem_cons_of_mem _ member)]

variable {contract : SignalProducerContract}

theorem mem_of_mem_selected
    (selected : selectRequiredMaterialCandles contract candles timestampMs = .ok window) :
    ∀ candle ∈ window, candle ∈ candles := by
  unfold selectRequiredMaterialCandles at selected
  obtain ⟨policy, -, selected⟩ := bind_eq_ok.mp selected
  obtain ⟨-, selected⟩ := refuse_bind_eq_ok.mp selected
  obtain ⟨-, -, selected⟩ := bind_eq_ok.mp selected
  obtain ⟨-, selected⟩ := refuse_bind_eq_ok.mp selected
  obtain ⟨-, selected⟩ := refuse_bind_eq_ok.mp selected
  cases selected
  intro candle member
  have eligible := (List.mem_insertionSort _).mp (List.mem_of_mem_drop member)
  exact List.mem_of_mem_filter eligible

/-! ### One entry -/

variable {generation : List (String × Json)}

theorem CanonicalRule.replaySignal_eq_ok {replayed : InformationSignal}
    (made : replaySignal signalId timestampMs experimentId window generation contract =
      .ok replayed) :
    ∃ first ∈ window.head?, ∃ last ∈ window.getLast?, ∃ decided,
      content contract first last = .ok decided ∧
        InformationSignal.create signalId experimentId timestampMs decided = .ok replayed := by
  unfold replaySignal at made
  obtain ⟨-, made⟩ := refuse_bind_eq_ok.mp made
  obtain ⟨-, made⟩ := refuse_bind_eq_ok.mp made
  obtain ⟨policy, -, made⟩ := bind_eq_ok.mp made
  obtain ⟨selector, -, made⟩ := bind_eq_ok.mp made
  obtain ⟨whole, -, made⟩ := bind_eq_ok.mp made
  obtain ⟨available, -, made⟩ := bind_eq_ok.mp made
  obtain ⟨inputs, -, made⟩ := bind_eq_ok.mp made
  split at made
  · next first last head final =>
    obtain ⟨decided, same, created⟩ := bind_eq_ok.mp made
    exact ⟨first, head, last, final, decided, same, created⟩
  · cases made

theorem checkMaterialWindow_eq_ok
    (checked : checkMaterialWindow contract candles datasetEvidenceId signalId timestampMs
      references generation = .ok ()) :
    ∃ window expected, selectRequiredMaterialCandles contract candles timestampMs = .ok window ∧
      expectedInputRefs datasetEvidenceId window = .ok expected ∧
        SameJson (.arr references) (.arr expected) := by
  unfold checkMaterialWindow at checked
  obtain ⟨policy, -, checked⟩ := bind_eq_ok.mp checked
  obtain ⟨window, selected, checked⟩ := bind_eq_ok.mp checked
  obtain ⟨expected, made, checked⟩ := bind_eq_ok.mp checked
  obtain ⟨same, -⟩ := refuse_bind_eq_ok.mp checked
  exact ⟨window, expected, selected, made, not_not.mp same⟩

def Registered (registry : Registry) (protocol : ExperimentMetadata)
    (contract : SignalProducerContract) : Prop :=
  ∃ bound ∈ registry.resolve protocol, bound.contractHash = contract.contractHash ∧
    registry.getContract bound.contractId none = some contract

variable {registry : Registry} {protocol : ExperimentMetadata}

theorem Registered.unique {other : SignalProducerContract}
    (registered : Registered registry protocol contract)
    (again : Registered registry protocol other) : contract = other := by
  obtain ⟨bound, resolved, -, found⟩ := registered
  obtain ⟨same, resolvedAgain, -, foundAgain⟩ := again
  obtain rfl := Option.some.inj (resolved.symm.trans resolvedAgain)
  exact Option.some.inj (found.symm.trans foundAgain)

theorem Registry.getContract_contractId {contractId : String}
    (found : registry.getContract contractId none = some contract) :
    contract.contractId = contractId := by
  unfold Registry.getContract at found
  split at found
  · cases found
  · next held =>
    rw [if_neg (by rintro ⟨declared, ⟨⟩, -⟩)] at found
    obtain rfl := Option.some.inj found
    have named := List.find?_some held
    exact of_decide_eq_true named

variable {item : List (String × Json)}

theorem bindContract_eq_ok
    (bound : bindContract registry .candidate (some protocol) signalId item = .ok contract) :
    Registered registry protocol contract := by
  unfold bindContract at bound
  obtain ⟨-, bound⟩ := refuse_bind_eq_ok.mp bound
  split at bound
  · cases bound
  · next found =>
    obtain ⟨-, bound⟩ := refuse_bind_eq_ok.mp bound
    simp only at bound
    split at bound
    · cases bound
    · next resolved =>
      obtain ⟨sameId, bound⟩ := refuse_bind_eq_ok.mp bound
      obtain ⟨sameHash, bound⟩ := refuse_bind_eq_ok.mp bound
      obtain rfl := Except.ok.inj bound
      refine ⟨_, resolved, (not_not.mp sameHash).symm, ?_⟩
      rw [← not_not.mp sameId, Registry.getContract_contractId found]
      exact found

variable {expected : Option ExperimentMetadata}

theorem verifyEntry_eq_ok {formal : InformationSignal}
    (verified : verifyEntry registry .candidate expected candles datasetEvidenceId signalId item =
      .ok formal) :
    ∃ contract producer references inputs generation replayed,
      bindContract registry .candidate expected signalId item = .ok contract ∧
      Producer.find contract.producerIdentity contract.producerVersion = some producer ∧
      readReferences signalId candles formal.timestampMs (-1) references = .ok inputs ∧
      checkMaterialWindow contract candles datasetEvidenceId signalId formal.timestampMs
        references generation = .ok () ∧
      producer.replaySignal signalId formal.timestampMs formal.experimentId inputs generation
        contract = .ok replayed ∧
      compareReplay replayed formal = .ok () := by
  unfold verifyEntry at verified
  obtain ⟨stamp, -, verified⟩ := bind_eq_ok.mp verified
  obtain ⟨timestampMs, -, verified⟩ := bind_eq_ok.mp verified
  obtain ⟨payload, -, verified⟩ := bind_eq_ok.mp verified
  split at verified
  case h_2 => cases verified
  next members =>
  obtain ⟨payloadSha256, -, verified⟩ := bind_eq_ok.mp verified
  obtain ⟨declared, -, verified⟩ := bind_eq_ok.mp verified
  obtain ⟨-, verified⟩ := refuse_bind_eq_ok.mp verified
  obtain ⟨signal, -, verified⟩ := bind_eq_ok.mp verified
  obtain ⟨-, verified⟩ := refuse_bind_eq_ok.mp verified
  obtain ⟨sameTime, verified⟩ := refuse_bind_eq_ok.mp verified
  obtain ⟨listed, -, verified⟩ := bind_eq_ok.mp verified
  split at verified
  case h_2 => cases verified
  next reference references =>
  obtain ⟨setSha256, -, verified⟩ := bind_eq_ok.mp verified
  obtain ⟨asserted, -, verified⟩ := bind_eq_ok.mp verified
  obtain ⟨-, verified⟩ := refuse_bind_eq_ok.mp verified
  obtain ⟨inputs, read, verified⟩ := bind_eq_ok.mp verified
  obtain ⟨identity, -, verified⟩ := bind_eq_ok.mp verified
  obtain ⟨version, -, verified⟩ := bind_eq_ok.mp verified
  obtain ⟨producer, found⟩ : ∃ producer,
      Producer.find (textOf identity) (textOf version) = some producer := by
    cases found : Producer.find (textOf identity) (textOf version) with
    | none =>
      simp only [found] at verified
      cases verified
    | some producer => exact ⟨producer, rfl⟩
  simp only [found] at verified
  obtain ⟨contract, bound, verified⟩ := bind_eq_ok.mp verified
  obtain ⟨declares, verified⟩ := refuse_bind_eq_ok.mp verified
  obtain ⟨generated, -, verified⟩ := bind_eq_ok.mp verified
  split at verified
  case h_2 => cases verified
  next generation =>
  obtain ⟨-, verified⟩ := refuse_bind_eq_ok.mp verified
  obtain ⟨-, verified⟩ := refuse_bind_eq_ok.mp verified
  obtain ⟨⟨⟩, checked, verified⟩ := bind_eq_ok.mp verified
  obtain ⟨replayed, made, verified⟩ := bind_eq_ok.mp verified
  obtain ⟨⟨⟩, compared, verified⟩ := bind_eq_ok.mp verified
  cases verified
  obtain rfl := not_not.mp sameTime
  obtain ⟨sameIdentity, sameVersion⟩ := not_or.mp declares
  rw [not_not.mp sameIdentity, not_not.mp sameVersion] at found
  exact ⟨contract, producer, reference :: references, inputs, generation, replayed, bound, found,
    read, checked, made, compared⟩

/-! ### What a candidate signal is made from -/

def materialRules : List String :=
  ["MOMENTUM_THRESHOLD", "RETURN_SIGN", "PRICE_BREAKOUT", "FIXED_DIRECTION"]

def Derived (contract : SignalProducerContract) : Prop :=
  contract.producerIdentity = Producer.canonicalRule.identity ∨ contract.rule ∉ materialRules

omit [Platform] in
theorem Producer.eq_canonicalRule {version : String} {producer : Producer}
    (found : find canonicalRule.identity version = some producer) : producer = canonicalRule := by
  have named := List.find?_some found
  have identity := (of_decide_eq_true named).1
  cases producer with
  | canonicalRule => rfl
  | randomBenchmark => exact absurd identity (by decide)
  | syntheticFixed => exact absurd identity (by decide)

theorem SelectorPolicy.rule_of_resolve {policy : SelectorPolicy}
    (resolved : resolve contract = .ok policy) : contract.rule ∈ materialRules := by
  unfold resolve at resolved
  simp only at resolved
  split at resolved
  · next momentum => simp [materialRules, momentum]
  · split at resolved
    · next single => exact List.mem_cons_of_mem _ single
    · cases resolved

theorem rule_of_selected
    (selected : selectRequiredMaterialCandles contract candles timestampMs = .ok window) :
    contract.rule ∈ materialRules := by
  unfold selectRequiredMaterialCandles at selected
  obtain ⟨policy, resolved, -⟩ := bind_eq_ok.mp selected
  exact SelectorPolicy.rule_of_resolve resolved

theorem content_of_verifyEntry {formal : InformationSignal} (apart : RowsApart candles)
    (registered : Registered registry protocol contract) (derives : Derived contract)
    (verified : verifyEntry registry .candidate (some protocol) candles datasetEvidenceId signalId
      item = .ok formal) :
    ∃ window, selectRequiredMaterialCandles contract candles formal.timestampMs = .ok window ∧
      ∃ first ∈ window.head?, ∃ last ∈ window.getLast?, ∃ decided replayed,
        CanonicalRule.content contract first last = .ok decided ∧
        InformationSignal.create signalId formal.experimentId formal.timestampMs decided =
          .ok replayed ∧
        replayed.SameContent formal := by
  obtain ⟨own, producer, references, inputs, generation, replayed, bound, found, read, checked,
    made, compared⟩ := verifyEntry_eq_ok verified
  obtain rfl := registered.unique (bindContract_eq_ok bound)
  obtain ⟨window, expected, selected, refs, same⟩ := checkMaterialWindow_eq_ok checked
  obtain rfl : inputs = window := eq_of_references apart (readReferences_rowHashed read)
    (expectedInputRefs_rowHashed refs) (mem_of_mem_selected selected) same.items
  rw [derives.resolve_right (not_not.mpr (rule_of_selected selected))] at found
  rw [Producer.eq_canonicalRule found] at made
  obtain ⟨first, head, last, final, decided, content, created⟩ :=
    CanonicalRule.replaySignal_eq_ok made
  exact ⟨inputs, selected, first, head, last, final, decided, replayed, content, created,
    compareReplay_sameContent compared⟩

theorem verifyEntries_forall {role : Role}
    {seen : List String} {items : List Json} {verified : List InformationSignal}
    (accepted : verifyEntries registry role expected candles datasetEvidenceId seen items =
      .ok verified) :
    ∀ signal ∈ verified, ∃ signalId item,
      verifyEntry registry role expected candles datasetEvidenceId signalId item =
        .ok signal := by
  induction items generalizing seen verified with
  | nil =>
    cases accepted
    exact nofun
  | cons item items inductionHypothesis =>
    unfold verifyEntries at accepted
    split at accepted
    · next none => cases none
    · next members rest same =>
      obtain ⟨rfl, rfl⟩ := List.cons.inj same
      obtain ⟨-, accepted⟩ := refuse_bind_eq_ok.mp accepted
      obtain ⟨signalId, -, accepted⟩ := bind_eq_ok.mp accepted
      obtain ⟨-, accepted⟩ := refuse_bind_eq_ok.mp accepted
      obtain ⟨formal, first, accepted⟩ := bind_eq_ok.mp accepted
      obtain ⟨others, later, accepted⟩ := bind_eq_ok.mp accepted
      cases accepted
      intro signal member
      obtain rfl | rest := List.mem_cons.mp member
      · exact ⟨_, members, first⟩
      · exact inductionHypothesis later signal rest
    · cases accepted

def Accepts (registry : Registry) (candles : List DatasetCandle) (expected : Expected)
    (data : Json) (signal : InformationSignal) : Prop :=
  ∃ verified, validateFormalReplayInputBundle registry candles expected data = .ok verified ∧
    signal ∈ verified

theorem Accepts.verified {expected : Expected} {data : Json} {signal : InformationSignal}
    (accepts : Accepts registry candles expected data signal) :
    ∃ datasetEvidenceId signalId item, verifyEntry registry expected.role expected.protocol
      candles datasetEvidenceId signalId item = .ok signal := by
  obtain ⟨verified, accepted, member⟩ := accepts
  unfold validateFormalReplayInputBundle at accepted
  obtain ⟨bundle, -, accepted⟩ := bind_eq_ok.mp accepted
  obtain ⟨schemaVersion, -, accepted⟩ := bind_eq_ok.mp accepted
  obtain ⟨-, accepted⟩ := refuse_bind_eq_ok.mp accepted
  obtain ⟨computed, -, accepted⟩ := bind_eq_ok.mp accepted
  obtain ⟨declared, -, accepted⟩ := bind_eq_ok.mp accepted
  obtain ⟨-, accepted⟩ := refuse_bind_eq_ok.mp accepted
  obtain ⟨-, accepted⟩ := refuse_bind_eq_ok.mp accepted
  obtain ⟨⟨⟩, -, accepted⟩ := bind_eq_ok.mp accepted
  obtain ⟨⟨⟩, -, accepted⟩ := bind_eq_ok.mp accepted
  obtain ⟨evidenceId, -, accepted⟩ := bind_eq_ok.mp accepted
  obtain ⟨listed, -, accepted⟩ := bind_eq_ok.mp accepted
  obtain ⟨inputs, -, accepted⟩ := bind_eq_ok.mp accepted
  obtain ⟨signals, entries, accepted⟩ := bind_eq_ok.mp accepted
  obtain ⟨⟨⟩, -, accepted⟩ := bind_eq_ok.mp accepted
  cases accepted
  exact ⟨_, verifyEntries_forall entries signal member⟩

def Causal (registry : Registry) (protocol : ExperimentMetadata) : Prop :=
  ∀ (candles others : List DatasetCandle) (expected otherExpected : Expected)
    (data otherData : Json) (signal other : InformationSignal),
    RowsApart candles → RowsApart others →
    expected.role = .candidate → expected.protocol = some protocol →
    otherExpected.role = .candidate → otherExpected.protocol = some protocol →
    Accepts registry candles expected data signal →
    Accepts registry others otherExpected otherData other →
    signal.signalId = other.signalId → signal.timestampMs = other.timestampMs →
    DatasetCandle.eligible candles signal.timestampMs =
      DatasetCandle.eligible others signal.timestampMs →
    signal.SameContent other

/-- Candidate signals are causal under a contract that the canonical producer replays. -/
theorem accepted_signals_causal (registered : Registered registry protocol contract)
    (derives : Derived contract) : Causal registry protocol := by
  intro candles others expected otherExpected data otherData signal other apart otherApart role
    bound otherRole otherBound accepts otherAccepts _ time agree
  obtain ⟨evidenceId, signalId, item, verified⟩ := accepts.verified
  obtain ⟨otherEvidenceId, otherId, otherItem, otherVerified⟩ := otherAccepts.verified
  rw [role, bound] at verified
  rw [otherRole, otherBound] at otherVerified
  obtain ⟨window, selected, first, head, last, final, decided, replayed, content, created, same⟩ :=
    content_of_verifyEntry apart registered derives verified
  obtain ⟨again, reselected, first', head', last', final', redecided, rereplayed, recontent,
    recreated, resame⟩ := content_of_verifyEntry otherApart registered derives otherVerified
  rw [← time, ← selectRequiredMaterialCandles_congr agree] at reselected
  obtain rfl := Except.ok.inj (selected.symm.trans reselected)
  obtain rfl := Option.some.inj (head.symm.trans head')
  obtain rfl := Option.some.inj (final.symm.trans final')
  obtain rfl := Except.ok.inj (content.symm.trans recontent)
  rw [← time] at recreated
  exact .of_create created recreated same resame

end

/-! ### A direction that the submission chooses -/

section

local instance somePlatform : Platform := mixingPlatform

def contractFields (contractId : String) (producer : Producer) (rule : String) : ContractFields :=
  ⟨contractId, "1.0.0", producer.identity, producer.version, rule, .ofMembers []⟩

def syntheticContract : SignalProducerContract where
  toContractFields :=
    contractFields "SYNTHETIC_FIXED_DIRECTION_V1" .syntheticFixed "FIXED_DIRECTION"
  contractHash := _
  hashed := if_pos (by decide +kernel)

def returnContract : SignalProducerContract where
  toContractFields := contractFields "CANONICAL_RETURN_SIGN_V1" .canonicalRule "RETURN_SIGN"
  contractHash := _
  hashed := if_pos (by decide +kernel)

def someRegistry : Registry := ⟨[returnContract, syntheticContract]⟩

def boundFields (contract : SignalProducerContract) : ExperimentFields :=
  { someFields with signalProducerContract := some (.contract contract) }

def boundTo (contract : SignalProducerContract)
    (finite : (Json.obj (boundFields contract).semanticPayload).isFinite = true) :
    ExperimentMetadata :=
  { someExperiment with toExperimentFields := boundFields contract, finite := finite }

def syntheticProtocol : ExperimentMetadata := boundTo syntheticContract (by decide +kernel)

def returnProtocol : ExperimentMetadata := boundTo returnContract (by decide +kernel)

def hourCandle (hour : ℕ) (close : ℚ) (low : close = 101 ∨ close = 99) : DatasetCandle where
  symbol := "BTCUSDT"
  interval := "1h"
  openTimeMs := hour * 3600000
  closeTimeMs := hour * 3600000 + 3599999
  openPrice := 100
  high := 102
  low := 98
  close := close
  volume := 5
  closeAfterOpen := by omega
  lowBound := by obtain rfl | rfl := low <;> decide +kernel
  highBound := by obtain rfl | rfl := low <;> decide +kernel
  availableAtMs := some (hour * 3600000 + 3600000)
  available_positive := by
    rintro _ ⟨⟩
    omega

def knownCandle : DatasetCandle := hourCandle 1 101 (.inl rfl)

def digestOf (members : List (String × Json)) : Json := .str (sha256 (Json.obj members).canonical)

/-- A signal at the end of the second hour. -/
def signalPayload (direction : ℤ) : List (String × Json) :=
  [("signal_id", .str "s"), ("experiment_id", .str "e"), ("timestamp_ms", .int 7200000),
    ("asset", .str "BTCUSDT"), ("direction", .int direction), ("strength", .float (.finite 1)),
    ("confidence_interval", .null), ("horizon_ms", .int 3600000), ("metadata", .obj [])]

def knownReference : Json :=
  .obj [("source_type", .str "CANONICAL_CANDLE"), ("dataset_evidence_id", .str "dataset"),
    ("open_time_ms", .int 3600000), ("close_time_ms", .int 7199999),
    ("available_at_ms", .int 7200000),
    ("row_content_sha256", .str (sha256 knownCandle.payload.canonical))]

def generationContract (contract : SignalProducerContract) (direction : ℤ) :
    List (String × Json) :=
  [("rule", .str contract.rule), ("direction", .int direction),
    ("material_input_open_times_ms", .arr [.int 3600000]),
    ("expected_preimage_sha256", .str (sha256 (Json.arr [knownCandle.payload]).canonical)),
    ("min_lookback_bars", .int 1), ("material_input_required_bars", .int 1),
    ("material_input_selector_type", .str materialInputSelectorType),
    ("material_input_selector_sha256", digestOf [("rule", .str contract.rule),
      ("selector_type", .str materialInputSelectorType), ("required_bars", .int 1)])]

def decisionInput (contract : SignalProducerContract) (declared direction : ℤ) :
    List (String × Json) :=
  [("verified_scope", .str "VERIFIED_BY_REPLAY"), ("signal_id", .str "s"),
    ("signal_timestamp_ms", .int 7200000), ("signal_payload", .obj (signalPayload direction)),
    ("signal_payload_sha256", digestOf (signalPayload direction)),
    ("input_references", .arr [knownReference]),
    ("input_set_sha256", .str (sha256 (Json.arr [knownReference]).canonical)),
    ("producer_identity", .str contract.producerIdentity),
    ("producer_version", .str contract.producerVersion),
    ("producer_contract_id", .str contract.contractId),
    ("producer_contract_hash", .str contract.contractHash),
    ("generation_contract", .obj (generationContract contract declared))]

def bundleMembers (protocol : ExperimentMetadata) (contract : SignalProducerContract)
    (declared direction : ℤ) : List (String × Json) :=
  [("schema_version", .str "1.0.0"),
    ("experiment_revision_id", .str protocol.experimentRevisionId),
    ("protocol_hash", .str protocol.protocolHash), ("dataset_evidence_id", .str "dataset"),
    ("dataset_content_sha256", .str (sha256 (Json.arr [knownCandle.payload]).canonical)),
    ("input_contract_identity", .obj protocol.inputContract.toDict),
    ("signal_set_sha256",
      .str (sha256 (Json.arr [.obj (signalPayload direction)]).canonical)),
    ("decision_inputs", .arr [.obj (decisionInput contract declared direction)]),
    ("causal_execution_inputs", .obj []), ("funding_input_identity", .null)]

def someBundle (protocol : ExperimentMetadata) (contract : SignalProducerContract)
    (declared direction : ℤ) : Json :=
  .obj (bundleMembers protocol contract declared direction ++
    [("bundle_sha256", digestOf (bundleMembers protocol contract declared direction))])

def firstSignal (protocol : ExperimentMetadata) (candles : List DatasetCandle) (data : Json) :
    Option (String × ℤ × ℤ) :=
  match validateFormalReplayInputBundle someRegistry candles { protocol := some protocol } data with
  | .ok (signal :: _) => some (signal.signalId, signal.timestampMs, signal.direction)
  | _ => none

theorem accepts_of_firstSignal {protocol : ExperimentMetadata} {candles : List DatasetCandle}
    {data : Json} {signalId : String} {timestampMs direction : ℤ}
    (first : firstSignal protocol candles data = some (signalId, timestampMs, direction)) :
    ∃ signal, Accepts someRegistry candles { protocol := some protocol } data signal ∧
      signal.signalId = signalId ∧ signal.timestampMs = timestampMs ∧
      signal.direction = direction := by
  unfold firstSignal at first
  split at first
  · next signal others accepted =>
    obtain ⟨rfl, rfl, rfl⟩ : signal.signalId = signalId ∧ signal.timestampMs = timestampMs ∧
        signal.direction = direction := by simpa using first
    exact ⟨signal, ⟨_, accepted, List.mem_cons_self⟩, rfl, rfl, rfl⟩
  · cases first

theorem rowsApart_singleton (candle : DatasetCandle) : RowsApart [candle] := by
  intro first own second member _
  rw [List.mem_singleton.mp own, List.mem_singleton.mp member]

/-- Two submissions of one dataset are accepted, one with a long and one with a short signal. -/
theorem synthetic_signals_not_causal :
    ¬ ∀ (registry : Registry) (protocol : ExperimentMetadata) (contract : SignalProducerContract),
      Registered registry protocol contract → Causal registry protocol := by
  intro law
  have causal := law someRegistry syntheticProtocol syntheticContract
    ⟨syntheticContract, rfl, rfl, rfl⟩
  obtain ⟨long, accepts, longId, longTime, up⟩ := accepts_of_firstSignal
    (show firstSignal syntheticProtocol [knownCandle]
      (someBundle syntheticProtocol syntheticContract 1 1) = some ("s", 7200000, 1) by
      decide +kernel)
  obtain ⟨short, alsoAccepts, shortId, shortTime, down⟩ := accepts_of_firstSignal
    (show firstSignal syntheticProtocol [knownCandle]
      (someBundle syntheticProtocol syntheticContract (-1) (-1)) = some ("s", 7200000, -1) by
      decide +kernel)
  have same := causal [knownCandle] [knownCandle] _ _ _ _ long short (rowsApart_singleton _)
    (rowsApart_singleton _) rfl rfl rfl rfl accepts alsoAccepts (longId.trans shortId.symm)
    (longTime.trans shortTime.symm) rfl
  have direction := same.direction
  rw [up, down] at direction
  exact absurd direction (by decide)

/-- A later candle and a declared direction do not change what the return gives. -/
theorem return_signals_causal :
    ∃ signal other,
      Accepts someRegistry [knownCandle] { protocol := some returnProtocol }
        (someBundle returnProtocol returnContract (-1) 1) signal ∧
      Accepts someRegistry [knownCandle, hourCandle 2 99 (.inr rfl)]
        { protocol := some returnProtocol } (someBundle returnProtocol returnContract 0 1) other ∧
      signal.SameContent other := by
  obtain ⟨signal, accepts, id, time, -⟩ := accepts_of_firstSignal
    (show firstSignal returnProtocol [knownCandle]
      (someBundle returnProtocol returnContract (-1) 1) = some ("s", 7200000, 1) by decide +kernel)
  obtain ⟨other, alsoAccepts, otherId, otherTime, -⟩ := accepts_of_firstSignal
    (show firstSignal returnProtocol [knownCandle, hourCandle 2 99 (.inr rfl)]
      (someBundle returnProtocol returnContract 0 1) = some ("s", 7200000, 1) by decide +kernel)
  have registered : Registered someRegistry returnProtocol returnContract :=
    ⟨returnContract, rfl, rfl, rfl⟩
  refine ⟨signal, other, accepts, alsoAccepts, accepted_signals_causal registered (.inl rfl)
    _ _ _ _ _ _ _ _ (rowsApart_singleton _) ?_ rfl rfl rfl rfl accepts alsoAccepts
    (id.trans otherId.symm) (time.trans otherTime.symm) ?_⟩
  · unfold RowsApart
    decide +kernel
  · rw [time]
    decide +kernel

end

end QuantAgent.Replay
