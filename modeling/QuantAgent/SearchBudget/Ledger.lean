/-
This file embeds the configuration ledger of the H40 search and proves that its budget cannot be
recycled: whatever is registered, dropped, written and read back, no slot loses its place or its
identity and no identity is used twice.

Reading a dictionary back does not ask how many slots it lists, nor for the identities that it
records, so the budget is only kept where the dictionaries that are read list no more slots than the
budget has.
-/

import QuantAgent.Library.Dict
import QuantAgent.Library.Runs
import QuantAgent.SearchBudget.Slots

namespace QuantAgent.SearchBudget

open Research

variable [Platform] [SurfaceGuard]

/-! ### The ledger -/

def maxConfigurationSlots : ℕ := 168

/-- `H40ConfigurationLedger`. -/
structure Ledger where
  slots : List Slot := []
  idToIndex : Dict ℕ := ∅

namespace Ledger

variable (ledger : Ledger)

/-- The slot at the end, under its identity. -/
def append (slot : Slot) (configId : String) : Ledger where
  slots := ledger.slots ++ [slot]
  idToIndex := ledger.idToIndex.insert configId ledger.slots.length

/-- `register_slot`, with the ledger that it leaves. -/
def registerSlot (slot : Slot) : Ledger × Except SlotFault ℕ :=
  if maxConfigurationSlots ≤ ledger.slots.length then
    (ledger, .error (.guard .searchBudgetExhausted "Cannot register slot."))
  else if slot.slotIndex ≠ ledger.slots.length then
    (ledger, .error (.guard .configIdentityConflict
      "Slot index does not match current append position."))
  else
    match slot.configId with
    | .error fault => (ledger, .error fault)
    | .ok configId =>
      match ledger.idToIndex.lookup configId with
      | some existing =>
        match ledger.slots[existing]? with
        | none => (ledger, .error (.index "list index out of range"))
        | some held =>
          if held.toSlotFields ≠ slot.toSlotFields then
            (ledger, .error (.guard .configIdentityConflict
              "Conflicting payload for existing configuration ID."))
          else
            (ledger, .error (.guard .configIdentityConflict "Duplicate registration of config ID."))
      | none => (ledger.append slot configId, .ok ledger.slots.length)

/-- The slot that `drop_slot` builds. -/
def droppedSlot (current : Slot) (reasonCode : ReasonCode) (notes : String) : SlotFields :=
  { current.toSlotFields with
    status := "DROPPED"
    reasonCode := some reasonCode
    notes := if notes = "" then current.notes else notes }

/-- `drop_slot`, with the ledger that it leaves. -/
def dropSlot (slotIndex : ℤ) (reasonCode : ReasonCode) (notes : String) :
    Ledger × Except SlotFault Unit :=
  if slotIndex < 0 then (ledger, .error (.index "Slot index out of range."))
  else
    match ledger.slots[slotIndex.toNat]? with
    | none => (ledger, .error (.index "Slot index out of range."))
    | some current =>
      match Slot.create (droppedSlot current reasonCode notes) with
      | .error fault => (ledger, .error fault)
      | .ok dropped => ({ ledger with slots := ledger.slots.set slotIndex.toNat dropped }, .ok ())

def toDict : Except SlotFault Json := do
  let slots ← ledger.slots.mapM fun slot => slot.toDict
  .ok (.obj [("capacity", .int maxConfigurationSlots), ("consumed", .int ledger.slots.length),
    ("slots", .arr slots)])

def ledgerHash : Except SlotFault String := do
  (canonicalSha256 (← ledger.toDict)).mapError .data

/-- What `from_dict` does with one entry. -/
def readSlot (protocolHash : String) (ledger : Ledger) (item : Json) :
    Except SlotFault Ledger := do
  let slot ← Slot.fromDict protocolHash item
  refuse (slot.slotIndex ≠ ledger.slots.length)
    (.guard .configIdentityConflict "Corrupted slot index ordering in ledger serialized data.")
  let configId ← slot.configId
  refuse (configId ∈ ledger.idToIndex)
    (.guard .configIdentityConflict "Duplicate config ID in ledger serialized data.")
  .ok (ledger.append slot configId)

def entriesOf : Json → Except SlotFault (List Json)
  | .obj members => do itemsOf (← SlotFields.required members "slots")
  | _ => .error (.data ⟨.type, "ledger data is not a mapping"⟩)

def fromDict (protocolHash : String) (data : Json) : Except SlotFault Ledger := do
  (← entriesOf data).foldlM (readSlot protocolHash) {}

end Ledger

/-! ### What holds of every ledger -/

namespace Ledger

variable {ledger : Ledger} {slot : Slot} {configId : String}

/-- The identities of the slots, in their order. -/
def configIds (ledger : Ledger) : List (Except SlotFault String) :=
  ledger.slots.map fun slot => slot.configId

/-- Each slot stands at its index under an identity of its own, which the index finds. -/
structure Sound (ledger : Ledger) : Prop where
  positions : ∀ (index : ℕ) (slot : Slot), ledger.slots[index]? = some slot →
    slot.slotIndex = index
  hashed : ∀ slot ∈ ledger.slots, ∃ configId, slot.configId = .ok configId
  distinct : ledger.configIds.Nodup
  indexed : ∀ configId index, ledger.idToIndex.lookup configId = some index ↔
    ledger.configIds[index]? = some (.ok configId)

theorem sound_empty : Sound {} where
  positions := fun _ _ held => nomatch held
  hashed := fun _ held => nomatch held
  distinct := .nil
  indexed := fun _ _ => by simp [configIds]

theorem configIds_append (ledger : Ledger) (slot : Slot) (configId : String) :
    (ledger.append slot configId).configIds = ledger.configIds ++ [slot.configId] :=
  List.map_append

theorem length_configIds (ledger : Ledger) : ledger.configIds.length = ledger.slots.length :=
  List.length_map _

/-- An identity is new exactly when no slot has it. -/
theorem Sound.lookup_eq_none (sound : ledger.Sound) :
    ledger.idToIndex.lookup configId = none ↔ .ok configId ∉ ledger.configIds := by
  rw [Option.eq_none_iff_forall_ne_some, List.mem_iff_getElem?, not_exists]
  exact forall_congr' fun index => not_congr (sound.indexed configId index)

theorem Sound.append (sound : ledger.Sound) (place : slot.slotIndex = ledger.slots.length)
    (hashed : slot.configId = .ok configId) (fresh : ledger.idToIndex.lookup configId = none) :
    (ledger.append slot configId).Sound where
  positions := by
    intro index other held
    obtain before | ⟨at_, same⟩ : ledger.slots[index]? = some other ∨
        index = ledger.slots.length ∧ slot = other := by
      rw [Ledger.append, List.getElem?_append] at held
      split at held
      · exact .inl held
      · rename_i beyond
        rw [List.getElem?_singleton] at held
        split at held
        · exact .inr ⟨by omega, Option.some.inj held⟩
        · exact nomatch held
    · exact sound.positions index other before
    · rw [← same, place, at_]
  hashed := by
    intro other held
    obtain before | last := List.mem_append.mp held
    · exact sound.hashed other before
    · rw [List.mem_singleton.mp last]
      exact ⟨configId, hashed⟩
  distinct := by
    rw [configIds_append]
    refine List.nodup_append.mpr ⟨sound.distinct, List.nodup_singleton _, ?_⟩
    rintro other before _ last rfl
    rw [List.mem_singleton.mp last, hashed] at before
    exact sound.lookup_eq_none.mp fresh before
  indexed := by
    intro other index
    rw [configIds_append, List.getElem?_append, length_configIds]
    show (ledger.idToIndex.insert configId ledger.slots.length).lookup other = _ ↔ _
    rw [Dict.lookup_insert_eq_some]
    have inside : ledger.configIds[index]? = some (.ok other) → index < ledger.slots.length := by
      intro held
      rw [← length_configIds]
      exact (List.getElem?_eq_some_iff.mp held).1
    split
    · rename_i before
      rw [← sound.indexed]
      refine ⟨?_, fun found => .inr ⟨?_, found⟩⟩
      · rintro (⟨-, last⟩ | ⟨-, found⟩)
        · exact absurd last (Nat.ne_of_lt before)
        · exact found
      · rintro rfl
        exact nomatch fresh.symm.trans found
    · rename_i beyond
      rw [List.getElem?_singleton]
      constructor
      · rintro (⟨rfl, rfl⟩ | ⟨-, found⟩)
        · rw [if_pos (Nat.sub_self _), hashed]
        · exact absurd (inside ((sound.indexed _ _).mp found)) beyond
      · intro held
        split at held
        · rename_i last
          have same := hashed.symm.trans (Option.some.inj held)
          exact .inl ⟨(Except.ok.inj same).symm, by omega⟩
        · exact nomatch held

theorem configIds_set {index : ℕ} {current dropped : Slot}
    (held : ledger.slots[index]? = some current) (same : dropped.configId = current.configId) :
    ({ ledger with slots := ledger.slots.set index dropped } : Ledger).configIds =
      ledger.configIds := by
  have there : ledger.configIds[index]? = some current.configId := by
    rw [configIds, List.getElem?_map, held]
    rfl
  obtain ⟨inside, there⟩ := List.getElem?_eq_some_iff.mp there
  show (ledger.slots.set index dropped).map (fun slot => slot.configId) = _
  rw [List.map_set, same, ← there]
  exact List.set_getElem_self inside

theorem Sound.set {index : ℕ} {current dropped : Slot} (sound : ledger.Sound)
    (held : ledger.slots[index]? = some current) (place : dropped.slotIndex = current.slotIndex)
    (same : dropped.configId = current.configId) :
    ({ ledger with slots := ledger.slots.set index dropped } : Ledger).Sound := by
  have ids := configIds_set held same
  refine ⟨?_, ?_, ?_, ?_⟩
  · intro other slot found
    replace found : (ledger.slots.set index dropped)[other]? = some slot := found
    by_cases own : index = other
    · subst own
      rw [List.getElem?_set_self (List.getElem?_eq_some_iff.mp held).1] at found
      rw [← Option.some.inj found, place, sound.positions index current held]
    · rw [List.getElem?_set_ne own] at found
      exact sound.positions other slot found
  · intro slot member
    obtain before | rfl := List.mem_or_eq_of_mem_set member
    · exact sound.hashed slot before
    · rw [same]
      exact sound.hashed current (List.mem_of_getElem? held)
  · rw [ids]
    exact sound.distinct
  · rw [ids]
    exact sound.indexed

/-! ### What each operation can do -/

theorem registerSlot_cases (ledger : Ledger) (slot : Slot) :
    (∃ fault, ledger.registerSlot slot = (ledger, .error fault)) ∨
    ∃ configId, ledger.slots.length < maxConfigurationSlots ∧
      slot.slotIndex = ledger.slots.length ∧ slot.configId = .ok configId ∧
      ledger.idToIndex.lookup configId = none ∧
      ledger.registerSlot slot = (ledger.append slot configId, .ok ledger.slots.length) := by
  unfold registerSlot
  split_ifs with full place
  · exact .inl ⟨_, rfl⟩
  · exact .inl ⟨_, rfl⟩
  · cases hashed : slot.configId with
    | error fault => exact .inl ⟨fault, rfl⟩
    | ok configId =>
      dsimp only
      cases fresh : ledger.idToIndex.lookup configId with
      | none =>
        exact .inr ⟨configId, Nat.lt_of_not_le full, not_not.mp place, rfl, fresh, rfl⟩
      | some existing =>
        dsimp only
        split
        · exact .inl ⟨_, rfl⟩
        · split_ifs
          · exact .inl ⟨_, rfl⟩
          · exact .inl ⟨_, rfl⟩

omit [Platform] in
theorem dropSlot_cases (ledger : Ledger) (slotIndex : ℤ) (reasonCode : ReasonCode)
    (notes : String) :
    (∃ fault, ledger.dropSlot slotIndex reasonCode notes = (ledger, .error fault)) ∨
    ∃ current dropped, ledger.slots[slotIndex.toNat]? = some current ∧
      dropped.toSlotFields = droppedSlot current reasonCode notes ∧
      ledger.dropSlot slotIndex reasonCode notes =
        ({ ledger with slots := ledger.slots.set slotIndex.toNat dropped }, .ok ()) := by
  unfold dropSlot
  split_ifs with negative
  · exact .inl ⟨_, rfl⟩
  · cases held : ledger.slots[slotIndex.toNat]? with
    | none => exact .inl ⟨_, rfl⟩
    | some current =>
      dsimp only
      cases created : Slot.create (droppedSlot current reasonCode notes) with
      | error fault => exact .inl ⟨fault, rfl⟩
      | ok dropped => exact .inr ⟨current, dropped, rfl, Slot.fields_of_create created, rfl⟩

/-! ### Reading a ledger -/

theorem readSlot_eq_ok {protocolHash : String} {item : Json} {after : Ledger} :
    readSlot protocolHash ledger item = .ok after ↔
      ∃ slot configId, Slot.fromDict protocolHash item = .ok slot ∧
        slot.slotIndex = ledger.slots.length ∧ slot.configId = .ok configId ∧
        ledger.idToIndex.lookup configId = none ∧ after = ledger.append slot configId := by
  unfold readSlot
  constructor
  · intro read
    obtain ⟨slot, decoded, read⟩ := bind_eq_ok.mp read
    obtain ⟨place, read⟩ := refuse_bind_eq_ok.mp read
    obtain ⟨configId, hashed, read⟩ := bind_eq_ok.mp read
    obtain ⟨fresh, read⟩ := refuse_bind_eq_ok.mp read
    exact ⟨slot, configId, decoded, not_not.mp place, hashed, Finmap.lookup_eq_none.mpr fresh,
      (Except.ok.inj read).symm⟩
  · rintro ⟨slot, configId, decoded, place, hashed, fresh, rfl⟩
    refine bind_eq_ok.mpr ⟨slot, decoded, refuse_bind_eq_ok.mpr ⟨not_not.mpr place, ?_⟩⟩
    refine bind_eq_ok.mpr ⟨configId, hashed, refuse_bind_eq_ok.mpr ⟨?_, rfl⟩⟩
    exact Finmap.lookup_eq_none.mp fresh

theorem Sound.read {protocolHash : String} {items : List Json} {after : Ledger}
    (sound : ledger.Sound) (read : items.foldlM (readSlot protocolHash) ledger = .ok after) :
    after.Sound ∧ ∃ slots, after.slots = ledger.slots ++ slots ∧
      List.Forall₂ (fun item slot => Slot.fromDict protocolHash item = .ok slot) items slots := by
  induction items generalizing ledger with
  | nil =>
    obtain rfl := Except.ok.inj read
    exact ⟨sound, [], (List.append_nil _).symm, .nil⟩
  | cons item items inductionHypothesis =>
    rw [List.foldlM_cons, bind_eq_ok] at read
    obtain ⟨next, first, rest⟩ := read
    obtain ⟨slot, configId, decoded, place, hashed, fresh, rfl⟩ := readSlot_eq_ok.mp first
    obtain ⟨kept, slots, final, others⟩ :=
      inductionHypothesis (sound.append place hashed fresh) rest
    refine ⟨kept, slot :: slots, ?_, .cons decoded others⟩
    rw [final, Ledger.append, List.append_assoc]
    rfl

end Ledger

end QuantAgent.SearchBudget
