/-
This file follows a configuration ledger through any sequence of registrations, drops, round trips
and dictionaries that are read, and proves that the budget of the H40 search cannot be recycled: no
slot loses its place or its identity, no identity is used twice and no failed call changes anything.

Reading a dictionary asks neither how many slots it lists nor for the identities that it records, so
the dictionaries that are read must list no more slots than the budget has, each under the identity
of its own fields.
-/

import QuantAgent.SearchBudget.Ledger

namespace QuantAgent.SearchBudget

open Research

section

variable [Platform] [SurfaceGuard] {configId : String}

namespace Ledger

variable {ledger restored : Ledger} {protocolHash : String}

/-! ### The round trip of a ledger -/

theorem ledgerHash_congr (same : restored.slots = ledger.slots) :
    restored.ledgerHash = ledger.ledgerHash := by
  unfold ledgerHash toDict
  rw [same]

omit [SurfaceGuard] in
theorem toDict_of_configId {fields : SlotFields} (hashed : fields.configId = .ok configId) :
    fields.toDict = .ok (.obj (("config_id", .str configId) :: fields.toMembers)) := by
  unfold SlotFields.toDict
  rw [hashed]
  rfl

theorem Sound.fresh {before : Ledger} {slot : Slot} {later : List Slot}
    (sound : ledger.Sound) (prior : before.Sound)
    (split : ledger.slots = before.slots ++ slot :: later)
    (hashed : slot.configId = .ok configId) : before.idToIndex.lookup configId = none := by
  rw [prior.lookup_eq_none]
  intro earlier
  have distinct := sound.distinct
  rw [configIds, split, List.map_append, List.nodup_append] at distinct
  refine distinct.2.2 _ earlier _ ?_ rfl
  rw [List.map_cons, hashed]
  exact List.mem_cons_self

theorem Sound.readSlots (sound : ledger.Sound) (protocolHash : String) {before : Ledger}
    {slots : List Slot} (prior : before.Sound) (split : ledger.slots = before.slots ++ slots) :
    ∃ written after, slots.mapM (fun slot => slot.toDict) = .ok written ∧
      written.foldlM (readSlot protocolHash) before = .ok after ∧ after.slots = ledger.slots := by
  induction slots generalizing before with
  | nil => exact ⟨[], before, rfl, rfl, by rw [split, List.append_nil]⟩
  | cons slot later inductionHypothesis =>
    have member : slot ∈ ledger.slots := by
      rw [split]
      exact List.mem_append_right _ List.mem_cons_self
    have place : slot.slotIndex = before.slots.length := by
      refine sound.positions before.slots.length slot ?_
      rw [split, List.getElem?_append_right (Nat.le_refl _), Nat.sub_self]
      rfl
    obtain ⟨configId, hashed⟩ := sound.hashed slot member
    have fresh := sound.fresh prior split hashed
    obtain ⟨written, after, writes, reads, final⟩ :=
      inductionHypothesis (prior.append place hashed fresh)
        (by rw [split, Ledger.append, List.append_assoc]; rfl)
    have own := toDict_of_configId hashed
    refine ⟨.obj (("config_id", .str configId) :: slot.toMembers) :: written, after, ?_, ?_, final⟩
    · rw [List.mapM_cons, own, writes]
      rfl
    · rw [List.foldlM_cons, readSlot_eq_ok.mpr
        ⟨slot, configId, Slot.fromDict_toDict own, place, hashed, fresh, rfl⟩]
      exact reads

theorem Sound.roundTrip (sound : ledger.Sound) (protocolHash : String) :
    ∃ data restored, ledger.toDict = .ok data ∧ fromDict protocolHash data = .ok restored ∧
      restored.Sound ∧ restored.slots = ledger.slots ∧ restored.ledgerHash = ledger.ledgerHash := by
  obtain ⟨written, restored, writes, reads, same⟩ :=
    sound.readSlots protocolHash sound_empty (List.nil_append _).symm
  have read : fromDict protocolHash (.obj [("capacity", .int maxConfigurationSlots),
      ("consumed", .int ledger.slots.length), ("slots", .arr written)]) = .ok restored := reads
  refine ⟨_, restored, ?_, read, (sound_empty.read reads).1, same, ledgerHash_congr same⟩
  unfold toDict
  rw [writes]
  rfl

end Ledger

/-! ### Operations -/

inductive Operation where
  | registerSlot (slot : Slot)
  | dropSlot (slotIndex : ℤ) (reasonCode : ReasonCode) (notes : String)
  | roundTrip
  | load (data : Json)

/-- The ledger that was read, or the old one when nothing could be read. -/
def replaced (ledger : Ledger) : Except SlotFault Ledger → Ledger × Except SlotFault Unit
  | .ok restored => (restored, .ok ())
  | .error fault => (ledger, .error fault)

def perform (protocolHash : String) (ledger : Ledger) :
    Operation → Ledger × Except SlotFault Unit
  | .registerSlot slot => (ledger.registerSlot slot).map id (·.map fun _ => ())
  | .dropSlot slotIndex reasonCode notes => ledger.dropSlot slotIndex reasonCode notes
  | .roundTrip => replaced ledger (ledger.toDict >>= Ledger.fromDict protocolHash)
  | .load data => replaced ledger (Ledger.fromDict protocolHash data)

def step (protocolHash : String) (ledger : Ledger) (operation : Operation) : Ledger :=
  (perform protocolHash ledger operation).1

def Carries (entry : Json) (slot : Slot) : Prop :=
  ∃ members configId, entry = .obj members ∧ slot.configId = .ok configId ∧
    members.lookup "config_id" = some (.str configId)

/-- What the budget asks of one ledger. -/
structure Kept (protocolHash : String) (ledger : Ledger) : Prop where
  within : ledger.slots.length ≤ maxConfigurationSlots
  distinct : ledger.configIds.Nodup
  roundTrip : ∃ data restored, ledger.toDict = .ok data ∧
    Ledger.fromDict protocolHash data = .ok restored ∧ restored.slots = ledger.slots ∧
    restored.ledgerHash = ledger.ledgerHash

/-- What the budget asks of one operation. -/
structure Permanent (protocolHash : String) (ledger : Ledger) (operation : Operation) : Prop where
  raising : ∀ fault, (perform protocolHash ledger operation).2 = .error fault →
    step protocolHash ledger operation = ledger
  growing : (∀ data, operation ≠ .load data) →
    ledger.configIds <+: (step protocolHash ledger operation).configIds
  carried : ∀ data, operation = .load data → (perform protocolHash ledger operation).2 = .ok () →
    ∃ entries, Ledger.entriesOf data = .ok entries ∧
      List.Forall₂ Carries entries (step protocolHash ledger operation).slots

def RecordsOwn (protocolHash : String) : Json → Prop
  | .obj members => ∀ fields configId, SlotFields.ofMembers protocolHash members = .ok fields →
      fields.configId = .ok configId → members.lookup "config_id" = some (.str configId)
  | _ => True

/-- A dictionary that is read lists no more slots than the budget has, each under its own
identity. -/
def Honest (protocolHash : String) (_ : Ledger) : Operation → Prop
  | .load data => ∀ entries, Ledger.entriesOf data = .ok entries →
      entries.length ≤ maxConfigurationSlots ∧ ∀ entry ∈ entries, RecordsOwn protocolHash entry
  | _ => True

/-! ### What each operation keeps -/

variable {protocolHash : String} {ledger : Ledger}

/-- The invariant that carries a run. -/
structure Within (ledger : Ledger) : Prop where
  sound : ledger.Sound
  within : ledger.slots.length ≤ maxConfigurationSlots

theorem Within.kept (within : Within ledger) (protocolHash : String) :
    Kept protocolHash ledger := by
  obtain ⟨data, restored, writes, reads, -, same⟩ := within.sound.roundTrip protocolHash
  exact ⟨within.within, within.sound.distinct, data, restored, writes, reads, same⟩

theorem carries_of_recordsOwn {entry : Json} {slot : Slot}
    (records : RecordsOwn protocolHash entry) (read : Slot.fromDict protocolHash entry = .ok slot)
    (hashed : slot.configId = .ok configId) : Carries entry slot := by
  cases entry with
  | obj members =>
    obtain ⟨fields, decoded, created⟩ := bind_eq_ok.mp read
    rw [Slot.fields_of_create created] at hashed
    refine ⟨members, configId, rfl, ?_, records fields configId decoded hashed⟩
    rw [Slot.fields_of_create created, hashed]
  | _ => exact nomatch read

theorem fromDict_spec {data : Json} {restored : Ledger}
    (read : Ledger.fromDict protocolHash data = .ok restored) :
    restored.Sound ∧ ∃ entries, Ledger.entriesOf data = .ok entries ∧
      List.Forall₂ (fun entry slot => Slot.fromDict protocolHash entry = .ok slot) entries
        restored.slots := by
  obtain ⟨entries, listed, read⟩ := bind_eq_ok.mp read
  obtain ⟨sound, slots, final, each⟩ := Ledger.sound_empty.read read
  refine ⟨sound, entries, listed, ?_⟩
  rw [final]
  exact each

/-- A call that fails changes nothing. -/
theorem spec_of_failed (within : Within ledger) {operation : Operation} {fault : SlotFault}
    (failed : perform protocolHash ledger operation = (ledger, .error fault)) :
    Within (step protocolHash ledger operation) ∧ Permanent protocolHash ledger operation := by
  have same : step protocolHash ledger operation = ledger := congrArg Prod.fst failed
  refine ⟨by rwa [same], fun _ _ => same, fun _ => by rw [same], fun data _ done => ?_⟩
  rw [failed] at done
  exact nomatch done

/-- A call that succeeds and reads no dictionary has only to add identities. -/
theorem permanent_of_grown {operation : Operation} {after : Ledger}
    (done : perform protocolHash ledger operation = (after, .ok ()))
    (grown : ledger.configIds <+: after.configIds) (other : ∀ data, operation ≠ .load data) :
    Permanent protocolHash ledger operation := by
  refine ⟨fun fault failed => ?_, fun _ => ?_, fun data same => absurd same (other data)⟩
  · rw [done] at failed
    exact nomatch failed
  · rw [step, done]
    exact grown

theorem registerSlot_spec (within : Within ledger) (slot : Slot) :
    Within (step protocolHash ledger (.registerSlot slot)) ∧
      Permanent protocolHash ledger (.registerSlot slot) := by
  obtain ⟨fault, failed⟩ | ⟨configId, room, place, hashed, fresh, done⟩ :=
    ledger.registerSlot_cases slot
  · refine @spec_of_failed _ _ _ _ within _ fault ?_
    rw [perform, failed]
    rfl
  · have now : perform protocolHash ledger (.registerSlot slot) =
        (ledger.append slot configId, .ok ()) := by
      rw [perform, done]
      rfl
    have after : step protocolHash ledger (.registerSlot slot) = ledger.append slot configId :=
      congrArg Prod.fst now
    refine ⟨?_, permanent_of_grown now ?_ (fun _ => nofun)⟩
    · rw [after]
      refine ⟨within.sound.append place hashed fresh, ?_⟩
      show (ledger.slots ++ [slot]).length ≤ _
      rw [List.length_append]
      exact room
    · rw [Ledger.configIds_append]
      exact List.prefix_append _ _

theorem dropSlot_spec (within : Within ledger) (slotIndex : ℤ) (reasonCode : ReasonCode)
    (notes : String) :
    Within (step protocolHash ledger (.dropSlot slotIndex reasonCode notes)) ∧
      Permanent protocolHash ledger (.dropSlot slotIndex reasonCode notes) := by
  obtain ⟨fault, failed⟩ | ⟨current, dropped, held, fields, done⟩ :=
    ledger.dropSlot_cases slotIndex reasonCode notes
  · exact spec_of_failed within failed
  · -- The status, the reason and the notes have no part in the identity.
    have same : dropped.configId = current.configId := by
      rw [fields]
      rfl
    have ids := Ledger.configIds_set held same
    refine ⟨?_, permanent_of_grown done (by rw [ids]) (fun _ => nofun)⟩
    rw [step, perform, done]
    refine ⟨within.sound.set held (by rw [fields]; rfl) same, ?_⟩
    rw [List.length_set]
    exact within.within

theorem roundTrip_spec (within : Within ledger) :
    Within (step protocolHash ledger .roundTrip) ∧ Permanent protocolHash ledger .roundTrip := by
  obtain ⟨data, restored, writes, reads, sound, same, -⟩ := within.sound.roundTrip protocolHash
  have now : perform protocolHash ledger .roundTrip = (restored, .ok ()) := by
    rw [perform, writes, ok_bind, reads]
    rfl
  refine ⟨?_, permanent_of_grown now ?_ (fun _ => nofun)⟩
  · rw [step, now]
    exact ⟨sound, by rw [same]; exact within.within⟩
  · rw [Ledger.configIds, Ledger.configIds, same]

theorem load_spec (within : Within ledger) {data : Json}
    (honest : Honest protocolHash ledger (.load data)) :
    Within (step protocolHash ledger (.load data)) ∧
      Permanent protocolHash ledger (.load data) := by
  cases read : Ledger.fromDict protocolHash data with
  | error fault =>
    refine @spec_of_failed _ _ _ _ within _ fault ?_
    rw [perform, read]
    rfl
  | ok restored =>
    obtain ⟨sound, entries, listed, each⟩ := fromDict_spec read
    obtain ⟨room, records⟩ := honest entries listed
    have now : perform protocolHash ledger (.load data) = (restored, .ok ()) := by
      rw [perform, read]
      rfl
    have after : step protocolHash ledger (.load data) = restored := congrArg Prod.fst now
    refine ⟨?_, fun fault failed => ?_, fun other => absurd rfl (other data), ?_⟩
    · rw [after]
      exact ⟨sound, each.length_eq ▸ room⟩
    · rw [now] at failed
      exact nomatch failed
    · rintro _ ⟨⟩ -
      rw [after]
      refine ⟨entries, listed, List.forall₂_iff_zip.mpr ⟨each.length_eq, ?_⟩⟩
      intro entry slot paired
      have members := List.of_mem_zip paired
      obtain ⟨configId, hashed⟩ := sound.hashed slot members.2
      exact carries_of_recordsOwn (records entry members.1)
        ((List.forall₂_iff_zip.mp each).2 paired) hashed

/-- An operation keeps the budget, unless it reads a dictionary that is not honest. -/
theorem step_spec (within : Within ledger) {operation : Operation}
    (honest : Honest protocolHash ledger operation) :
    Within (step protocolHash ledger operation) ∧ Permanent protocolHash ledger operation :=
  match operation with
  | .registerSlot slot => registerSlot_spec within slot
  | .dropSlot slotIndex reasonCode notes => dropSlot_spec within slotIndex reasonCode notes
  | .roundTrip => roundTrip_spec within
  | .load _ => load_spec within honest

theorem within_empty : Within {} := ⟨Ledger.sound_empty, Nat.zero_le _⟩

/-- The budget is kept throughout every run from the empty ledger in which the dictionaries that
are read are honest. -/
theorem budget_never_recycled (protocolHash : String) (operations : List Operation)
    (honest : Runs.Each (step protocolHash) (Honest protocolHash) {} operations) :
    Runs.Throughout (step protocolHash) (Kept protocolHash) {} operations ∧
      Runs.Each (step protocolHash) (Permanent protocolHash) {} operations := by
  have keeps : ∀ ledger operation, Within ledger → Honest protocolHash ledger operation →
      Within (step protocolHash ledger operation) := fun _ _ within honest =>
    (step_spec within honest).1
  constructor
  · exact (Runs.throughout_of_each keeps within_empty honest).mono
      fun _ within => within.kept protocolHash
  · exact Runs.each_of_each keeps (fun _ _ within honest => (step_spec within honest).2)
      within_empty honest

end

/-! ### A dictionary with more slots than the budget -/

/-- A platform that takes the direction variant of a payload for its digest. -/
local instance namingPlatform : Platform where
  sha256
    | .obj members => ((members.lookup "direction_variant").elim "" fun
      | .str text => text
      | _ => "")
    | _ => ""
  isTimestamp _ := true
  localPath _ := none
  repr _ := ""
  parseInt _ := none
  parseFloat _ := none

local instance openGuard : SurfaceGuard where
  allowed _ := true

def someFields : SlotFields where
  slotIndex := 0
  familyCombination := [.d1TrendContinuation]
  assetScope := ["BTCUSDT"]
  primaryHorizon := "4h"
  actionThreshold := .finite (55 / 100)
  hyperparameters := .ofMembers []
  scope := "BTC_ONLY"
  directionVariant := ""
  regimeContractId := "R_VOL_RANGE_V1_24H"
  opportunityContractId := "O_RANGE_EXPANSION_V1_24H"
  directionContractId := ""
  geometryContractId := "GEOMETRY_ESTIMATOR_WF1_CELL_MEDIAN_V1"
  calibrationContractId := "CALIBRATION_PLATT_LOGISTIC_V1"
  abstentionPolicy := "NO_TRADE"
  requiredFeatureIds := []
  featureParams := .ofMembers []
  lookbackWindows := .ofMembers []
  availabilityRule := "CLOSED_BAR_STRICT"
  costProxyId := "COST_PROXY_12BPS_V1"
  mechanicalRefitPolicy := "REFIT_CHRONOLOGICAL_PAST_ONLY_V1"
  protocolHash := ""
  sourceManifestHash := ""
  splitManifestHash := ""
  ledgerSchemaVersion := "H40_LEDGER_V1"
  frozenKernelSha := ""
  p1CodeBaselineSha := ""
  status := "REGISTERED"
  reasonCode := none
  notes := ""

theorem check_someFields : someFields.check = .ok () := by decide +kernel

def variantSlot (index : ℕ) : Slot where
  toSlotFields := { someFields with
    slotIndex := index
    directionVariant := String.ofList (List.replicate index 'x') }
  valid := check_someFields

theorem configId_variantSlot (index : ℕ) :
    (variantSlot index).configId = .ok (String.ofList (List.replicate index 'x')) := by
  have finite : (Json.obj (variantSlot index).semanticPayload).isFinite = true := rfl
  unfold SlotFields.configId canonicalSha256
  rw [if_pos finite]
  refine congrArg Except.ok ?_
  show ((Json.sortMembers (Json.canonicalMembers _)).lookup "direction_variant").elim _ _ = _
  rw [Json.lookup_sortMembers, Json.lookup_canonicalMembers]
  rfl

def variants : ℕ → Ledger
  | 0 => {}
  | count + 1 => (variants count).append (variantSlot count)
      (String.ofList (List.replicate count 'x'))

theorem slots_variants (count : ℕ) :
    (variants count).slots = (List.range count).map variantSlot := by
  induction count with
  | zero => rfl
  | succ count inductionHypothesis =>
    rw [List.range_succ, List.map_append, ← inductionHypothesis]
    rfl

theorem sound_variants (count : ℕ) : (variants count).Sound := by
  induction count with
  | zero => exact Ledger.sound_empty
  | succ count inductionHypothesis =>
    refine inductionHypothesis.append ?_ (configId_variantSlot count) ?_
    · rw [slots_variants, List.length_map, List.length_range]
      rfl
    · rw [inductionHypothesis.lookup_eq_none, Ledger.configIds, slots_variants, List.map_map,
        List.mem_map]
      rintro ⟨index, within, same⟩
      have texts := (configId_variantSlot index).symm.trans same
      have letters := String.ofList_injective (Except.ok.inj texts)
      have lengths := congrArg List.length letters
      rw [List.length_replicate, List.length_replicate] at lengths
      exact absurd (List.mem_range.mp within) (by omega)

/-- The run that reads a dictionary with one slot more than the budget has. -/
theorem overfull_accepted : ∃ data, (variants 169).toDict = .ok data ∧
    (perform "" {} (.load data)).2 = .ok () ∧
    (step "" {} (.load data)).slots.length = 169 ∧
    ¬ Runs.Throughout (step "") (Kept "") {} [.load data] := by
  obtain ⟨data, restored, writes, reads, -, same, -⟩ := (sound_variants 169).roundTrip ""
  have now : perform "" {} (.load data) = (restored, .ok ()) := by
    rw [perform, reads]
    rfl
  have count : (step "" {} (.load data)).slots.length = 169 := by
    rw [step, now, same, slots_variants, List.length_map, List.length_range]
  refine ⟨data, writes, congrArg Prod.snd now, count, fun throughout => ?_⟩
  have room := throughout.last.within
  rw [Runs.run, List.foldl_cons, List.foldl_nil, count] at room
  exact absurd room (by decide)

def entryOf (index : ℕ) : Json :=
  .obj (("config_id", .str (String.ofList (List.replicate index 'x'))) ::
    (variantSlot index).toMembers)

theorem recordsOwn_entryOf (index : ℕ) : RecordsOwn "" (entryOf index) := by
  intro fields configId read hashed
  rw [SlotFields.ofMembers_toMembers] at read
  cases read
  rw [Except.ok.inj ((configId_variantSlot index).symm.trans hashed)]
  exact List.lookup_cons_self

/-- One slot that is registered, dropped, written and read, before a dictionary with two slots is
read. -/
def someRun : List Operation :=
  [.registerSlot (variantSlot 0), .dropSlot 0 .notTestable "", .roundTrip,
    .load (.obj [("slots", .arr [entryOf 0, entryOf 1])])]

theorem someRun_kept : Runs.Throughout (step "") (Kept "") {} someRun ∧
    Runs.Each (step "") (Permanent "") {} someRun := by
  refine budget_never_recycled "" someRun ⟨trivial, trivial, trivial, ?_, trivial⟩
  rintro _ ⟨⟩
  refine ⟨by decide, ?_⟩
  simp only [List.forall_mem_cons]
  exact ⟨recordsOwn_entryOf 0, recordsOwn_entryOf 1, nofun⟩

end QuantAgent.SearchBudget
