/-
This file proves what the ledger of the blind validation promises: a batch is taken as a whole or
not at all, what is stored stays, a sealed partition stays sealed, and a batch that comes again
adds nothing.

A batch that comes again is compared with what is stored of it, within a tolerance and after the
guard of the sealed partitions; so it is refused where one of them was sealed under another hash.
-/

import QuantAgent.Library.Runs
import QuantAgent.Validation.BlindLedger

namespace QuantAgent.Validation

variable {forms : Conversions} {row : SlotRow} {ledger later : Ledger} {context : CallContext}
  {slotMs : ℤ}

/-! ### The promise -/

structure Ledger.Extends (ledger later : Ledger) : Prop where
  rows : ∀ slotMs row, ledger.rows.lookup slotMs = some row → later.rows.lookup slotMs = some row
  sealed : ∀ name partition, ledger.partitions.lookup name = some partition →
    partition.finalized = true → ∃ final, later.partitions.lookup name = some final ∧
      final.finalized = true ∧ final.partitionSha256 = partition.partitionSha256

def PlainNumber (value : Json) : Prop :=
  value = .null ∨ (∃ number, value = .int number) ∨ ∃ number, value = .float (.finite number)

/-- A value that a column for texts stores as it is: none, or a text that does not read as an
infinite number or as none. -/
def PlainText (forms : Conversions) (value : Json) : Prop :=
  value = .null ∨ ∃ text, value = .str text ∧
    ∀ number, forms.float text = some number → number.isFinite = true

/-- The row says whether it is eligible, and its checked values are stored as they are. -/
structure SlotRow.Plain (forms : Conversions) (row : SlotRow) : Prop where
  eligible : row.get "eligible" ∈ [.bool false, .bool true, .int 0, .int 1]
  numbers : ∀ field ∈ Column.checked, field.affinity ≠ .text → field ≠ .eligible →
    PlainNumber (row.get field.name)
  texts : ∀ field ∈ Column.checked, field.affinity = .text → PlainText forms (row.get field.name)

/-- One of the partitions that the rows name is sealed under another hash. -/
def SealsOtherwise (forms : Conversions) (ledger : Ledger) (rows : List SlotRow) : Prop :=
  ∃ row ∈ rows, ∃ source ∈ row.sourceHashes forms, SealedOtherwise ledger source

/-- What is promised of the ledger that a run of calls leaves. -/
structure Ledger.KeepsEvidence (forms : Conversions) (ledger : Ledger) : Prop where
  atomic : ∀ context rows fault, (ingestSlots forms context ledger rows).1 = .error fault →
    (ingestSlots forms context ledger rows).2 = ledger
  extended : ∀ calls, ledger.Extends (Runs.run (Ledger.after forms) ledger calls)
  rejects : ∀ context before row after slotMs existing, row.slotMs forms = .ok slotMs →
    (ingestSlots forms context ledger before).2.rows.lookup slotMs = some existing →
    (∃ field ∈ Column.checked, ¬ CloseMatch forms (existing field) (row.get field.name)) →
      ∃ fault, (ingestSlots forms context ledger (before ++ row :: after)).1 = .error fault
  idempotent : ∀ context rows inserted, (ingestSlots forms context ledger rows).1 = .ok inserted →
    (∀ row ∈ rows, row.Plain forms) → ∀ calls again,
      let now := Runs.run (Ledger.after forms) ledger (.ingest context rows :: calls)
      (¬ SealsOtherwise forms now rows → ingestSlots forms again now rows = (.ok 0, now)) ∧
      (SealsOtherwise forms now rows → ∃ name recorded incoming,
        ingestSlots forms again now rows =
          (.error (.sourcePartitionMutation name recorded incoming), now))

/-! ### One row -/

/-- The checks of a row that do not depend on the ledger. -/
structure SlotRow.Valid (forms : Conversions) (row : SlotRow) (slotMs : ℤ) : Prop where
  slot : row.slotMs forms = .ok slotMs
  started : ¬ slotMs < validationStartMs
  protocol : ¬ row.get "protocol_hash" (.str "") ≠ .str frozenProtocolHash
  clarification : ¬ row.get "clarification_hash" (.str "") ≠ .str frozenClarificationHash
  reference : row.int forms "reference_time_ms" 0 = .ok (slotMs + 60000)
  target60m : row.int forms "target_60m_ms" 0 = .ok (slotMs + 60000 + 59 * 60000)
  target240m : row.int forms "target_240m_ms" 0 = .ok (slotMs + 60000 + 239 * 60000)
  bindable : ¬ ¬ Bindable (.int slotMs)

theorem guardSources_eq_ok {done : Unit} : guardSources forms row ledger = .ok done ↔
    ∀ source ∈ row.sourceHashes forms, ¬ SealedOtherwise ledger source := by
  unfold guardSources
  split
  · next name incoming found =>
    obtain ⟨sealed, -⟩ := List.find?_eq_some_iff_append.mp found
    have member := List.mem_of_find?_eq_some found
    exact ⟨nofun, fun open' => absurd (of_decide_eq_true sealed) (open' _ member)⟩
  · next found =>
    refine ⟨fun _ source member sealed => ?_, fun _ => rfl⟩
    exact List.find?_eq_none.mp found source member (decide_eq_true sealed)

theorem guardSources_of_sealed {source : String × Json} (member : source ∈ row.sourceHashes forms)
    (sealed : SealedOtherwise ledger source) : ∃ name recorded incoming,
      guardSources forms row ledger = .error (.sourcePartitionMutation name recorded incoming) := by
  unfold guardSources
  split
  · exact ⟨_, _, _, rfl⟩
  · next found =>
    exact absurd (decide_eq_true sealed) (List.find?_eq_none.mp found source member)

variable {existing : LedgerRow}

theorem conflictingField_eq_none :
    conflictingField forms row existing = none ↔
      ∀ field ∈ Column.checked, CloseMatch forms (existing field) (row.get field.name) := by
  simp [conflictingField]

variable {result : Ledger × ℕ}

theorem ingestRow_ok (accepted : ingestRow forms row context ledger = .ok result) :
    ∃ slotMs, row.Valid forms slotMs ∧
      ((∃ existing, ledger.rows.lookup slotMs = some existing ∧
        conflictingField forms row existing = none ∧ result = (ledger, 0)) ∨
      (ledger.rows.lookup slotMs = none ∧ ∃ values, row.colsMap forms context slotMs
        (slotMs + 60000) (slotMs + 60000 + 59 * 60000) (slotMs + 60000 + 239 * 60000) = .ok values ∧
        result =
          ({ ledger with rows := ledger.rows.insert slotMs (storedRow forms values) }, 1))) := by
  unfold ingestRow at accepted
  obtain ⟨slotMs, slot, accepted⟩ := bind_eq_ok.mp accepted
  obtain ⟨started, accepted⟩ := refuse_bind_eq_ok.mp accepted
  obtain ⟨protocol, accepted⟩ := refuse_bind_eq_ok.mp accepted
  obtain ⟨clarification, accepted⟩ := refuse_bind_eq_ok.mp accepted
  obtain ⟨-, -, accepted⟩ := bind_eq_ok.mp accepted
  obtain ⟨referenceMs, reference, accepted⟩ := bind_eq_ok.mp accepted
  obtain ⟨same, accepted⟩ := refuse_bind_eq_ok.mp accepted
  obtain rfl := not_not.mp same
  obtain ⟨target60mMs, target60m, accepted⟩ := bind_eq_ok.mp accepted
  obtain ⟨same, accepted⟩ := refuse_bind_eq_ok.mp accepted
  obtain rfl := not_not.mp same
  obtain ⟨target240mMs, target240m, accepted⟩ := bind_eq_ok.mp accepted
  obtain ⟨same, accepted⟩ := refuse_bind_eq_ok.mp accepted
  obtain rfl := not_not.mp same
  obtain ⟨bindable, accepted⟩ := refuse_bind_eq_ok.mp accepted
  refine ⟨slotMs, ⟨slot, started, protocol, clarification, reference, target60m, target240m,
    bindable⟩, ?_⟩
  split at accepted
  · next existing found =>
    split at accepted
    · cases accepted
    · next matching => exact .inl ⟨existing, found, matching, (Except.ok.inj accepted).symm⟩
  · next absent =>
    obtain ⟨values, mapped, accepted⟩ := bind_eq_ok.mp accepted
    obtain ⟨-, accepted⟩ := refuse_bind_eq_ok.mp accepted
    exact .inr ⟨absent, values, mapped, (Except.ok.inj accepted).symm⟩

theorem SlotRow.Valid.ingestRow_stored (valid : row.Valid forms slotMs)
    (held : ledger.rows.lookup slotMs = some existing)
    (matching : conflictingField forms row existing = none) :
    ingestRow forms row context ledger =
      (guardSources forms row ledger >>= fun _ => .ok (ledger, 0)) := by
  unfold ingestRow
  simp only [valid.slot, ok_bind, refuse_of_not valid.started, refuse_of_not valid.protocol,
    refuse_of_not valid.clarification]
  cases guardSources forms row ledger with
  | error fault => rfl
  | ok _ =>
    have passes (time : ℤ) (fault : LedgerFault) : refuse (time ≠ time) fault = .ok () :=
      refuse_of_not (not_not.mpr rfl)
    simp only [ok_bind, valid.reference, valid.target60m, valid.target240m, passes,
      refuse_of_not valid.bindable, held, matching]

/-! ### What a row is compared with -/

theorem closeMatch_null : CloseMatch forms .null .null := by
  unfold CloseMatch
  rw [if_pos ⟨rfl, rfl⟩]
  trivial

theorem closeMatch_of_floats {existing incoming : Json} {number : ℚ}
    (first : floatOf forms existing = some (.finite number))
    (second : floatOf forms incoming = some (.finite number)) :
    CloseMatch forms existing incoming := by
  have stored : existing ≠ .null := fun none => by rw [none] at first; cases first
  have known : incoming ≠ .null := fun none => by rw [none] at second; cases second
  unfold CloseMatch
  rw [if_neg fun both => known both.2, if_neg (not_or.mpr ⟨stored, known⟩), first, second]
  show |number - number| ≤ _
  rw [sub_self, abs_zero]
  positivity

variable {value : Json}

theorem closeMatch_number (plain : PlainNumber value) {affinity : Affinity}
    (numeric : affinity ≠ .text) : CloseMatch forms (affinity.stores forms value) value := by
  obtain rfl | ⟨number, rfl⟩ | ⟨number, rfl⟩ := plain
  · cases affinity <;> exact closeMatch_null
  · cases affinity with
    | text => exact absurd rfl numeric
    | real => exact closeMatch_of_floats rfl rfl
    | integer => exact closeMatch_of_floats rfl rfl
  · cases affinity with
    | text => exact absurd rfl numeric
    | real => exact closeMatch_of_floats rfl rfl
    | integer =>
      refine closeMatch_of_floats ?_ rfl
      simp only [Affinity.stores]
      split
      · next whole =>
        show some (Double.finite (number.num : ℚ)) = _
        rw [Rat.coe_int_num_of_den_eq_one whole]
      · rfl

theorem closeMatch_text (plain : PlainText forms value) :
    CloseMatch forms (Affinity.text.stores forms value) value := by
  obtain rfl | ⟨text, rfl, finite⟩ := plain
  · exact closeMatch_null
  · show CloseMatch forms (.str text) (.str text)
    cases reads : forms.float text with
    | none =>
      unfold CloseMatch
      rw [if_neg (by simp), if_neg (by simp)]
      simp only [floatOf, reads]
    | some number =>
      cases number with
      | finite number => exact closeMatch_of_floats reads reads
      | infinite negative => exact absurd (finite _ reads) Bool.false_ne_true
      | notANumber => exact absurd (finite _ reads) Bool.false_ne_true

theorem closeMatch_eligible (given : value ∈ [.bool false, .bool true, .int 0, .int 1]) :
    CloseMatch forms
      (Affinity.integer.stores forms (.int (if Truthy value then 1 else 0))) value := by
  simp only [List.mem_cons, List.not_mem_nil, or_false] at given
  rcases given with rfl | rfl | rfl | rfl <;> exact closeMatch_of_floats rfl rfl

variable {referenceMs target60mMs target240mMs : ℤ}

theorem colsMap_ok {values : LedgerRow}
    (mapped : row.colsMap forms context slotMs referenceMs target60mMs target240mMs = .ok values) :
    values .eligible = .int (if Truthy (row.get "eligible" (.bool true)) then 1 else 0) ∧
      ∀ field ∈ Column.checked, field ≠ .eligible → values field = row.get field.name := by
  unfold SlotRow.colsMap at mapped
  obtain ⟨slotUtc, -, mapped⟩ := bind_eq_ok.mp mapped
  obtain ⟨hashes, -, mapped⟩ := bind_eq_ok.mp mapped
  obtain ⟨windowStart, -, mapped⟩ := bind_eq_ok.mp mapped
  obtain ⟨windowEnd, -, mapped⟩ := bind_eq_ok.mp mapped
  obtain rfl := Except.ok.inj mapped
  refine ⟨rfl, fun field checked different => ?_⟩
  cases field <;> first | rfl | exact absurd rfl different | exact absurd checked (by decide)

theorem SlotRow.Plain.matches_stored (plain : row.Plain forms) {values : LedgerRow}
    (mapped : row.colsMap forms context slotMs referenceMs target60mMs target240mMs = .ok values) :
    conflictingField forms row (storedRow forms values) = none := by
  obtain ⟨eligible, others⟩ := colsMap_ok mapped
  refine conflictingField_eq_none.mpr fun field checked => ?_
  unfold storedRow
  by_cases special : field = .eligible
  · subst special
    rw [eligible]
    have given := plain.eligible
    show CloseMatch forms _ (row.get "eligible")
    unfold SlotRow.get at given ⊢
    cases found : row.lookup "eligible" with
    | none => rw [found] at given; exact absurd given (by decide)
    | some value => rw [found] at given; exact closeMatch_eligible given
  · rw [others field checked special]
    by_cases textual : field.affinity = .text
    · rw [textual]
      exact closeMatch_text (plain.texts field checked textual)
    · exact closeMatch_number (plain.numbers field checked textual special) textual

/-! ### What a call keeps -/

theorem Ledger.Extends.refl (ledger : Ledger) : ledger.Extends ledger :=
  ⟨fun _ _ => id, fun _ partition found final => ⟨partition, found, final, rfl⟩⟩

theorem Ledger.Extends.trans {last : Ledger} (first : ledger.Extends later)
    (second : later.Extends last) : ledger.Extends last where
  rows slotMs row found := second.rows slotMs row (first.rows slotMs row found)
  sealed name partition found final := by
    obtain ⟨next, foundNext, finalNext, same⟩ := first.sealed name partition found final
    obtain ⟨last, foundLast, finalLast, sameLast⟩ := second.sealed name next foundNext finalNext
    exact ⟨last, foundLast, finalLast, sameLast.trans same⟩

theorem Ledger.extends_insert {stored : LedgerRow} (absent : ledger.rows.lookup slotMs = none) :
    ledger.Extends { ledger with rows := ledger.rows.insert slotMs stored } := by
  refine ⟨fun other row found => ?_, (Extends.refl ledger).sealed⟩
  have different : other ≠ slotMs := fun same => by
    rw [same, absent] at found
    cases found
  exact (AList.lookup_insert_ne different).trans found

theorem ingestRow_extends (accepted : ingestRow forms row context ledger = .ok result) :
    ledger.Extends result.1 := by
  obtain ⟨slotMs, -, ⟨_, -, -, rfl⟩ | ⟨absent, values, -, rfl⟩⟩ := ingestRow_ok accepted
  · exact .refl ledger
  · exact Ledger.extends_insert absent

variable {rows : List SlotRow}

theorem ingestRows_extends (accepted : ingestRows forms context ledger rows = .ok result) :
    ledger.Extends result.1 := by
  induction rows generalizing ledger result with
  | nil =>
    obtain rfl := Except.ok.inj accepted
    exact .refl ledger
  | cons row rows inductionHypothesis =>
    obtain ⟨first, one, accepted⟩ := bind_eq_ok.mp accepted
    obtain ⟨second, rest, accepted⟩ := bind_eq_ok.mp accepted
    obtain rfl := Except.ok.inj accepted
    have kept : first.1.Extends second.1 := inductionHypothesis rest
    exact (ingestRow_extends one).trans kept

/-- A batch leaves the ledger as it was or extends it. -/
theorem ingestSlots_cases (forms : Conversions) (context : CallContext) (ledger : Ledger)
    (rows : List SlotRow) :
    (∃ fault, ingestSlots forms context ledger rows = (.error fault, ledger)) ∨
    ∃ result, ingestRows forms context ledger rows = .ok result ∧
      ingestSlots forms context ledger rows = (.ok result.2, result.1) := by
  unfold ingestSlots
  cases ingestRows forms context ledger rows with
  | ok result => exact .inr ⟨result, rfl, rfl⟩
  | error fault => exact .inl ⟨fault, rfl⟩

theorem record_extends (call : PartitionCall) :
    ledger.Extends (recordOrVerifySourcePartition ledger call).2 := by
  unfold recordOrVerifySourcePartition
  split
  · exact .refl ledger
  · next sha size _ =>
    split
    · next row held =>
      split_ifs with downgraded mutated
      · exact .refl ledger
      · exact .refl ledger
      · refine ⟨fun _ _ => id, fun name partition found final => ?_⟩
        by_cases same : name = call.name
        · subst same
          obtain rfl := Option.some.inj (held.symm.trans found)
          refine ⟨_, AList.lookup_insert _, ?_, ?_⟩
          · show call.finalized.getD row.finalized = true
            cases asked : call.finalized with
            | none => exact final
            | some value =>
              cases value with
              | true => rfl
              | false => exact absurd ⟨final, asked⟩ downgraded
          · exact not_not.mp fun different => mutated ⟨final, different⟩
        · exact ⟨partition, (AList.lookup_insert_ne same).trans found, final, rfl⟩
    · next absent =>
      refine ⟨fun _ _ => id, fun name partition found final => ?_⟩
      have different : name ≠ call.name := fun same => by
        rw [same, absent] at found
        cases found
      exact ⟨partition, (AList.lookup_insert_ne different).trans found, final, rfl⟩

theorem after_extends (call : LedgerCall) : ledger.Extends (ledger.after forms call) := by
  cases call with
  | record call => exact record_extends call
  | ingest context rows =>
    show ledger.Extends (ingestSlots forms context ledger rows).2
    obtain ⟨fault, refused⟩ | ⟨result, accepted, done⟩ :=
      ingestSlots_cases forms context ledger rows
    · rw [refused]
      exact .refl ledger
    · rw [done]
      exact ingestRows_extends accepted

theorem run_extends (calls : List LedgerCall) :
    ledger.Extends (Runs.run (Ledger.after forms) ledger calls) := by
  have kept : Runs.Throughout (Ledger.after forms) ledger.Extends ledger calls :=
    Runs.throughout_of_keeps (fun _ call extended => extended.trans (after_extends call))
      (.refl ledger) calls
  exact kept.last

/-! ### A batch that comes again -/

def Holds (forms : Conversions) (ledger : Ledger) (row : SlotRow) : Prop :=
  ∃ slotMs existing, row.Valid forms slotMs ∧ ledger.rows.lookup slotMs = some existing ∧
    conflictingField forms row existing = none

theorem Holds.mono (holds : Holds forms ledger row) (extended : ledger.Extends later) :
    Holds forms later row := by
  obtain ⟨slotMs, existing, valid, held, matching⟩ := holds
  exact ⟨slotMs, existing, valid, extended.rows _ _ held, matching⟩

theorem ingestRow_holds (plain : row.Plain forms)
    (accepted : ingestRow forms row context ledger = .ok result) : Holds forms result.1 row := by
  obtain ⟨slotMs, valid, ⟨existing, held, matching, rfl⟩ | ⟨-, values, mapped, rfl⟩⟩ :=
    ingestRow_ok accepted
  · exact ⟨slotMs, existing, valid, held, matching⟩
  · exact ⟨slotMs, storedRow forms values, valid, AList.lookup_insert _,
      plain.matches_stored mapped⟩

theorem ingestRows_holds (plain : ∀ row ∈ rows, row.Plain forms)
    (accepted : ingestRows forms context ledger rows = .ok result) :
    ∀ row ∈ rows, Holds forms result.1 row := by
  induction rows generalizing ledger result with
  | nil => exact fun row member => absurd member List.not_mem_nil
  | cons row rows inductionHypothesis =>
    obtain ⟨first, one, accepted⟩ := bind_eq_ok.mp accepted
    obtain ⟨second, rest, accepted⟩ := bind_eq_ok.mp accepted
    obtain rfl := Except.ok.inj accepted
    intro other member
    obtain rfl | later := List.mem_cons.mp member
    · have kept : first.1.Extends second.1 := ingestRows_extends rest
      exact (ingestRow_holds (plain other List.mem_cons_self) one).mono kept
    · have others : ∀ row ∈ rows, Holds forms second.1 row :=
        inductionHypothesis (fun row member => plain row (List.mem_cons_of_mem _ member)) rest
      exact others other later

theorem Holds.ingestRow (holds : Holds forms ledger row) (context : CallContext) :
    ingestRow forms row context ledger =
      (guardSources forms row ledger >>= fun _ => .ok (ledger, 0)) := by
  obtain ⟨slotMs, existing, valid, held, matching⟩ := holds
  exact valid.ingestRow_stored held matching

theorem ingestRows_again (holds : ∀ row ∈ rows, Holds forms ledger row)
    (unsealed : ¬ SealsOtherwise forms ledger rows) :
    ingestRows forms context ledger rows = .ok (ledger, 0) := by
  induction rows with
  | nil => rfl
  | cons row rows inductionHypothesis =>
    have passes : guardSources forms row ledger = .ok () :=
      guardSources_eq_ok.mpr fun source member sealed =>
        unsealed ⟨row, List.mem_cons_self, source, member, sealed⟩
    have rest := inductionHypothesis (fun row member => holds row (List.mem_cons_of_mem _ member))
      fun ⟨row, member, source⟩ => unsealed ⟨row, List.mem_cons_of_mem _ member, source⟩
    rw [ingestRows, (holds row List.mem_cons_self).ingestRow, passes]
    simp only [ok_bind, rest]

theorem ingestRows_sealed (holds : ∀ row ∈ rows, Holds forms ledger row)
    (sealed : SealsOtherwise forms ledger rows) : ∃ name recorded incoming,
      ingestRows forms context ledger rows =
        .error (.sourcePartitionMutation name recorded incoming) := by
  induction rows with
  | nil =>
    obtain ⟨row, member, -⟩ := sealed
    exact absurd member List.not_mem_nil
  | cons row rows inductionHypothesis =>
    rw [ingestRows, (holds row List.mem_cons_self).ingestRow]
    by_cases here : ∃ source ∈ row.sourceHashes forms, SealedOtherwise ledger source
    · obtain ⟨source, member, sealed⟩ := here
      obtain ⟨name, recorded, incoming, refused⟩ := guardSources_of_sealed member sealed
      exact ⟨name, recorded, incoming, by rw [refused]; rfl⟩
    · have passes : guardSources forms row ledger = .ok () :=
        guardSources_eq_ok.mpr fun source member sealed => here ⟨source, member, sealed⟩
      obtain ⟨other, member, source, named, sealed⟩ := sealed
      obtain rfl | later := List.mem_cons.mp member
      · exact absurd ⟨source, named, sealed⟩ here
      · obtain ⟨name, recorded, incoming, refused⟩ := inductionHypothesis
          (fun row member => holds row (List.mem_cons_of_mem _ member))
          ⟨other, later, source, named, sealed⟩
        exact ⟨name, recorded, incoming, by rw [passes]; simp only [ok_bind, refused]; rfl⟩

theorem ingestRows_matches {before after : List SlotRow}
    (accepted : ingestRows forms context ledger (before ++ row :: after) = .ok result)
    (slot : row.slotMs forms = .ok slotMs)
    (held : (ingestSlots forms context ledger before).2.rows.lookup slotMs = some existing) :
    conflictingField forms row existing = none := by
  induction before generalizing ledger result with
  | nil =>
    obtain ⟨next, one, -⟩ := bind_eq_ok.mp accepted
    obtain ⟨own, valid, ⟨stored, found, matching, -⟩ | ⟨absent, -⟩⟩ := ingestRow_ok one <;>
      obtain rfl := Except.ok.inj (valid.slot.symm.trans slot)
    · obtain rfl := Option.some.inj (found.symm.trans held)
      exact matching
    · exact nomatch absent.symm.trans held
  | cons first before inductionHypothesis =>
    obtain ⟨next, one, accepted⟩ := bind_eq_ok.mp accepted
    obtain ⟨second, rest, -⟩ := bind_eq_ok.mp accepted
    refine inductionHypothesis rest ?_
    unfold ingestSlots at held ⊢
    simp only [ingestRows, one, ok_bind] at held
    cases ran : ingestRows forms context next.1 before with
    | ok reached =>
      rw [ran] at held
      exact held
    | error fault =>
      rw [ran] at held
      exact (ingestRow_extends one).rows _ _ held

/-! ### Every run -/

theorem Ledger.keepsEvidence (forms : Conversions) (ledger : Ledger) :
    ledger.KeepsEvidence forms where
  atomic context rows fault failed := by
    obtain ⟨_, refused⟩ | ⟨result, -, done⟩ := ingestSlots_cases forms context ledger rows
    · rw [refused]
    · rw [done] at failed
      cases failed
  extended := run_extends
  rejects context before row after slotMs existing slot held := by
    rintro ⟨field, checked, differs⟩
    obtain ⟨fault, refused⟩ | ⟨result, accepted, -⟩ :=
      ingestSlots_cases forms context ledger (before ++ row :: after)
    · exact ⟨fault, by rw [refused]⟩
    · exact absurd (conflictingField_eq_none.mp
        (ingestRows_matches accepted slot held) field checked) differs
  idempotent context rows inserted accepted plain calls again := by
    intro now
    obtain ⟨_, refused⟩ | ⟨result, ingested, done⟩ := ingestSlots_cases forms context ledger rows
    · rw [refused] at accepted
      cases accepted
    have extended : result.1.Extends now := by
      show result.1.Extends (Runs.run (Ledger.after forms)
        (ledger.after forms (.ingest context rows)) calls)
      have first : ledger.after forms (.ingest context rows) = result.1 := congrArg Prod.snd done
      rw [first]
      exact run_extends calls
    have holds : ∀ row ∈ rows, Holds forms now row := fun row member =>
      (ingestRows_holds plain ingested row member).mono extended
    refine ⟨fun unsealed => ?_, fun sealed => ?_⟩
    · unfold ingestSlots
      rw [ingestRows_again holds unsealed]
    · obtain ⟨name, recorded, incoming, refused⟩ := ingestRows_sealed holds sealed
      refine ⟨name, recorded, incoming, ?_⟩
      unfold ingestSlots
      rw [refused]

/-- In every run of calls a batch is taken as a whole or not at all, what is stored and what is
sealed stays, a row that differs is refused, and a batch that comes again adds nothing or meets a
partition that was sealed otherwise. -/
theorem ledger_keeps_evidence (forms : Conversions) (calls : List LedgerCall) :
    Runs.Throughout (Ledger.after forms) (Ledger.KeepsEvidence forms) {} calls :=
  Runs.throughout_of_keeps (fun ledger call _ => (ledger.after forms call).keepsEvidence forms)
    (Ledger.keepsEvidence forms {}) calls

/-! ### A row that comes again -/

/-- The conversions of the texts that the rows below carry. -/
def someConversions : Conversions where
  int _ := none
  float _ := none
  str _ := ""
  decimal _ := ""
  numeral _ := none
  loads text := if text = "\x7b\"part-1\": \"aa\"\x7d" then some (.obj [("part-1", .str "aa")])
    else none
  dumps _ := "[]"
  keyText _ := none
  dict _ := none
  isoformat _ := some "2026-09-04T11:15:00+00:00"

def firstSlotRow (imbalance : ℚ) : SlotRow :=
  [("decision_close_ms", .int validationStartMs), ("slot_utc", .str "2026-09-04T11:15:00Z"),
    ("protocol_hash", .str frozenProtocolHash),
    ("clarification_hash", .str frozenClarificationHash),
    ("source_partitions", .str "[\"part-1\"]"),
    ("source_partition_hashes", .str "\x7b\"part-1\": \"aa\"\x7d"),
    ("reference_time_ms", .int (validationStartMs + 60000)),
    ("target_60m_ms", .int (validationStartMs + 60 * 60000)),
    ("target_240m_ms", .int (validationStartMs + 240 * 60000)),
    ("eligible", .bool true), ("m1_trade_imbalance_5m", .float (.finite imbalance))]

def someContext : CallContext := ⟨"f2e3f29d", "2026-09-04T11:20:00+00:00"⟩

/-- The partition as it is found with that hash, still open or sealed. -/
def partitionCall (sha : String) (finalized : Bool) : PartitionCall where
  path := "/data/part-1"
  name := "part-1"
  file := some (sha, 4096)
  finalized := some finalized
  nowUtc := "2026-09-05T00:00:00+00:00"

/-- After a row was stored of an open partition, a row with a trade imbalance that differs by a
hundred-millionth is taken for the same; and after the partition was sealed with what came later,
the very row is refused. -/
theorem near_row_taken_and_own_row_refused :
    let ledger := Runs.run (Ledger.after someConversions) {} [.record (partitionCall "aa" false),
      .ingest someContext [firstSlotRow (1 / 10)]]
    let sealed := ledger.after someConversions (.record (partitionCall "bb" true))
    (ledger.rows.lookup validationStartMs).map (fun row => row .m1TradeImbalance5m) =
      some (.float (.finite (1 / 10))) ∧
    (ingestSlots someConversions someContext ledger [firstSlotRow (1 / 10 + 1 / 10 ^ 8)]).1 =
      .ok 0 ∧
    (ingestSlots someConversions someContext sealed [firstSlotRow (1 / 10)]).1 =
      .error (.sourcePartitionMutation "part-1" "bb" (.str "aa")) := by
  decide +kernel

end QuantAgent.Validation
