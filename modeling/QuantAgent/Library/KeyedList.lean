/-
This file treats a list whose entries carry pairwise distinct keys as a finite dictionary:
a lookup is the first entry with the key, a removal keeps the entries with another key.

The lemmas say how lookup, removal and insertion act on the keys and on a sum over the
entries. Nothing here names the repository.
-/

import Mathlib

namespace QuantAgent.KeyedList

variable {Entry Key : Type*} [DecidableEq Key] (key : Entry → Key)

def lookup (entries : List Entry) (target : Key) : Option Entry :=
  entries.find? fun entry => key entry = target

def erase (entries : List Entry) (target : Key) : List Entry :=
  entries.filter fun entry => key entry ≠ target

def insert (entries : List Entry) (entry : Entry) : List Entry :=
  erase key entries (key entry) ++ [entry]

def Distinct (entries : List Entry) : Prop :=
  (entries.map key).Nodup

variable {key}

omit [DecidableEq Key] in
theorem distinct_nil : Distinct key [] := List.nodup_nil

variable {entries : List Entry} {entry : Entry} {target : Key}

theorem lookup_mem (found : lookup key entries target = some entry) : entry ∈ entries :=
  List.mem_of_find?_eq_some found

theorem lookup_key (found : lookup key entries target = some entry) : key entry = target := by
  simpa using List.find?_some found

theorem lookup_eq_none :
    lookup key entries target = none ↔ ∀ entry ∈ entries, key entry ≠ target := by
  simp [lookup]

theorem lookup_map {Other : Type*} {file : Other → Entry} {entries : List Other} :
    lookup key (entries.map file) target =
      (lookup (fun entry => key (file entry)) entries target).map file := List.find?_map

theorem mem_erase :
    entry ∈ erase key entries target ↔ entry ∈ entries ∧ key entry ≠ target := by
  simp [erase]

section

variable (distinct : Distinct key entries)

include distinct

theorem Distinct.erase (target : Key) : Distinct key (erase key entries target) :=
  distinct.sublist (List.filter_sublist.map key)

theorem Distinct.append (entry : Entry) (absent : lookup key entries (key entry) = none) :
    Distinct key (entries ++ [entry]) := by
  rw [lookup_eq_none] at absent
  unfold Distinct
  rw [List.map_append, List.map_singleton]
  refine List.Nodup.append distinct (List.nodup_singleton _) ?_
  intro found member single
  rw [List.mem_singleton] at single
  obtain ⟨other, otherMember, rfl⟩ := List.mem_map.mp member
  exact absent other otherMember single

theorem Distinct.lookup_of_mem (member : entry ∈ entries) :
    lookup key entries (key entry) = some entry := by
  cases found : lookup key entries (key entry) with
  | none => exact absurd rfl (lookup_eq_none.mp found entry member)
  | some other =>
    exact congrArg some (List.inj_on_of_nodup_map distinct (lookup_mem found) member
      (lookup_key found))

theorem Distinct.lookup_eq_some_iff :
    lookup key entries target = some entry ↔ entry ∈ entries ∧ key entry = target := by
  constructor
  · exact fun found => ⟨lookup_mem found, lookup_key found⟩
  · rintro ⟨member, rfl⟩
    exact distinct.lookup_of_mem member

theorem Distinct.lookup_perm {others : List Entry} (same : entries.Perm others) (target : Key) :
    lookup key entries target = lookup key others target := by
  have distinctOthers : Distinct key others := (same.map key).nodup_iff.mp distinct
  refine Option.ext fun entry => ?_
  rw [distinct.lookup_eq_some_iff, distinctOthers.lookup_eq_some_iff, same.mem_iff]

theorem length_filter_key_le_one (target : Key) :
    (entries.filter fun entry => key entry = target).length ≤ 1 := by
  have counted := List.nodup_iff_count_le_one.mp distinct target
  rwa [List.count, List.countP_map, List.countP_eq_length_filter] at counted

end

theorem erase_of_absent
    (absent : ∀ entry ∈ entries, key entry ≠ target) : erase key entries target = entries :=
  List.filter_eq_self.mpr fun entry member => by simpa using absent entry member

theorem lookup_erase_self (entries : List Entry) (target : Key) :
    lookup key (erase key entries target) target = none :=
  lookup_eq_none.mpr fun _ member => (mem_erase.mp member).2

theorem lookup_insert_self (entries : List Entry) (entry : Entry) :
    lookup key (insert key entries entry) (key entry) = some entry := by
  have absent : lookup key (erase key entries (key entry)) (key entry) = none :=
    lookup_erase_self entries (key entry)
  unfold lookup at absent
  rw [lookup, insert, List.find?_append, absent]
  simp

theorem lookup_erase_of_ne {erased target : Key} (different : target ≠ erased) :
    lookup key (erase key entries erased) target = lookup key entries target := by
  simp only [lookup, erase, List.find?_filter]
  congr 1
  funext found
  by_cases same : key found = target
  · simp [same, different]
  · simp [same]

theorem lookup_insert_of_ne (different : target ≠ key entry) :
    lookup key (insert key entries entry) target = lookup key entries target := by
  have other : ¬ key entry = target := Ne.symm different
  have erased : lookup key (erase key entries (key entry)) target = lookup key entries target :=
    lookup_erase_of_ne different
  rw [← erased]
  simp [lookup, insert, List.find?_append, other]

theorem sum_erase_add {Weight : Type*} [AddCommMonoid Weight] (weight : Entry → Weight)
    (distinct : Distinct key entries)
    (found : lookup key entries target = some entry) :
    ((erase key entries target).map weight).sum + weight entry =
      (entries.map weight).sum := by
  induction entries with
  | nil => cases found
  | cons head tail inductionHypothesis =>
    obtain ⟨headFresh, tailDistinct⟩ := List.nodup_cons.mp distinct
    by_cases same : key head = target
    · have headFound : head = entry := by
        simpa [lookup, List.find?_cons, same] using found
      subst headFound
      have tailAbsent : ∀ other ∈ tail, key other ≠ target := fun other member equal =>
        headFresh (by rw [same, ← equal]; exact List.mem_map_of_mem member)
      have erased : erase key (head :: tail) target = tail := by
        rw [erase, List.filter_cons_of_neg (by simpa using same)]
        exact erase_of_absent tailAbsent
      rw [erased, List.map_cons, List.sum_cons, add_comm]
    · have tailFound : lookup key tail target = some entry := by
        simpa [lookup, List.find?_cons, same] using found
      have kept : erase key (head :: tail) target = head :: erase key tail target := by
        rw [erase, List.filter_cons_of_pos (by simpa using same), erase]
      rw [kept, List.map_cons, List.sum_cons, List.map_cons, List.sum_cons, add_assoc,
        inductionHypothesis tailDistinct tailFound]

theorem length_erase_add_one (distinct : Distinct key entries)
    (found : lookup key entries target = some entry) :
    (erase key entries target).length + 1 = entries.length := by
  have counted := sum_erase_add (fun _ => 1) distinct found
  simpa using counted

theorem sum_insert_add {Weight : Type*} [AddCommMonoid Weight] (weight : Entry → Weight)
    (distinct : Distinct key entries) (entry : Entry) :
    ((insert key entries entry).map weight).sum +
        ((lookup key entries (key entry)).map weight).getD 0 =
      (entries.map weight).sum + weight entry := by
  rw [insert, List.map_append, List.sum_append, List.map_singleton, List.sum_singleton]
  cases found : lookup key entries (key entry) with
  | none =>
    rw [erase_of_absent (lookup_eq_none.mp found)]
    exact add_zero _
  | some old =>
    rw [← sum_erase_add weight distinct found]
    exact add_right_comm _ _ _

theorem Distinct.insert (distinct : Distinct key entries)
    (entry : Entry) : Distinct key (insert key entries entry) :=
  (distinct.erase (key entry)).append entry (lookup_erase_self entries (key entry))

/-! ### Insert or add -/

variable (key) in
def upsert (add : Entry → Entry → Entry) (entry : Entry) : List Entry → List Entry
  | [] => [entry]
  | held :: rest =>
    if key held = key entry then add held entry :: rest else held :: upsert add entry rest

variable (key) in
theorem sum_upsert {Weight : Type*} [AddCommMonoid Weight] {weight : Entry → Weight}
    {add : Entry → Entry → Entry}
    (adds : ∀ held, key held = key entry → weight (add held entry) = weight held + weight entry)
    (entries : List Entry) :
    ((upsert key add entry entries).map weight).sum = (entries.map weight).sum + weight entry := by
  induction entries with
  | nil => simp [upsert]
  | cons held rest inductionHypothesis =>
    unfold upsert
    split
    · next same =>
      rw [List.map_cons, List.sum_cons, List.map_cons, List.sum_cons, adds held same,
        add_right_comm]
    · rw [List.map_cons, List.sum_cons, List.map_cons, List.sum_cons, inductionHypothesis,
        add_assoc]

/-! ### The first entry of each key -/

variable (key) in
def firsts (kept : List Entry) : List Entry → List Entry
  | [] => kept
  | entry :: rest =>
    if lookup key kept (key entry) = none then firsts (kept ++ [entry]) rest else firsts kept rest

variable (key) in
def differing [DecidableEq Entry] (kept : List Entry) : List Entry → ℕ
  | [] => 0
  | entry :: rest =>
    match lookup key kept (key entry) with
    | none => differing (kept ++ [entry]) rest
    | some first => (if first = entry then 0 else 1) + differing kept rest

variable {kept : List Entry}

theorem Distinct.firsts (distinct : Distinct key kept) (entries : List Entry) :
    Distinct key (firsts key kept entries) := by
  induction entries generalizing kept with
  | nil => exact distinct
  | cons entry rest inductionHypothesis =>
    unfold KeyedList.firsts
    split
    · next absent => exact inductionHypothesis (distinct.append entry absent)
    · exact inductionHypothesis distinct

theorem mem_firsts_of_mem (member : entry ∈ kept) :
    entry ∈ firsts key kept entries := by
  induction entries generalizing kept with
  | nil => exact member
  | cons head rest inductionHypothesis =>
    unfold firsts
    split
    · exact inductionHypothesis (List.mem_append_left _ member)
    · exact inductionHypothesis member

theorem exists_mem_firsts (member : entry ∈ entries) :
    ∃ first ∈ firsts key kept entries, key first = key entry := by
  induction entries generalizing kept with
  | nil => exact absurd member List.not_mem_nil
  | cons head rest inductionHypothesis =>
    unfold firsts
    obtain rfl | later := List.mem_cons.mp member
    · split
      · exact ⟨entry, mem_firsts_of_mem (List.mem_append_right _ (List.mem_singleton_self _)), rfl⟩
      · next present =>
        obtain ⟨first, found⟩ := Option.ne_none_iff_exists'.mp present
        exact ⟨first, mem_firsts_of_mem (lookup_mem found), lookup_key found⟩
    · split <;> exact inductionHypothesis later

theorem firsts_sublist {Other : Type*} [DecidableEq Other] {fine : Entry → Other}
    (tells : ∀ first second, fine first = fine second → key first = key second)
    {coarse : List Entry} (within : coarse.Sublist kept)
    (covers : ∀ entry ∈ kept, ∃ first ∈ coarse, key first = key entry) :
    (firsts key coarse entries).Sublist (firsts fine kept entries) := by
  induction entries generalizing coarse kept with
  | nil => exact within
  | cons entry rest inductionHypothesis =>
    unfold firsts
    by_cases absent : lookup key coarse (key entry) = none
    · have new : lookup fine kept (fine entry) = none := by
        refine lookup_eq_none.mpr fun other member same => ?_
        obtain ⟨first, held, equal⟩ := covers other member
        exact lookup_eq_none.mp absent first held (equal.trans (tells _ _ same))
      rw [if_pos absent, if_pos new]
      refine inductionHypothesis (within.append (List.Sublist.refl _)) fun other member => ?_
      obtain held | own := List.mem_append.mp member
      · obtain ⟨first, found, equal⟩ := covers other held
        exact ⟨first, List.mem_append_left _ found, equal⟩
      · exact ⟨other, List.mem_append_right _ own, rfl⟩
    · obtain ⟨known, found⟩ := Option.ne_none_iff_exists'.mp absent
      rw [if_neg absent]
      split
      · refine inductionHypothesis (within.trans (List.sublist_append_left _ _))
          fun other member => ?_
        obtain held | own := List.mem_append.mp member
        · exact covers other held
        · rw [List.mem_singleton.mp own]
          exact ⟨known, lookup_mem found, lookup_key found⟩
      · exact inductionHypothesis within covers

section

variable {Other : Type*} [DecidableEq Other] {other : Entry → Other}

variable (key other) in
def SameKeys (kept entries : List Entry) : Prop :=
  ∀ first ∈ kept ++ entries, ∀ second ∈ entries, key first = key second ↔ other first = other second

omit [DecidableEq Key] [DecidableEq Other] in
theorem SameKeys.skip (same : SameKeys key other kept (entry :: entries)) :
    SameKeys key other kept entries := by
  intro first member second later
  refine same first ?_ second (List.mem_cons_of_mem _ later)
  obtain held | rest := List.mem_append.mp member
  · exact List.mem_append_left _ held
  · exact List.mem_append_right _ (List.mem_cons_of_mem _ rest)

omit [DecidableEq Key] [DecidableEq Other] in
theorem SameKeys.keep (same : SameKeys key other kept (entry :: entries)) :
    SameKeys key other (kept ++ [entry]) entries := by
  intro first member second later
  rw [List.append_assoc] at member
  exact same first member second (List.mem_cons_of_mem _ later)

theorem SameKeys.lookup_eq (same : SameKeys key other kept (entry :: entries)) :
    lookup key kept (key entry) = lookup other kept (other entry) := by
  refine List.find?_congr fun first member => ?_
  simp only [same first (List.mem_append_left _ member) entry List.mem_cons_self]

theorem SameKeys.firsts_eq (same : SameKeys key other kept entries) :
    firsts key kept entries = firsts other kept entries := by
  induction entries generalizing kept with
  | nil => rfl
  | cons entry rest inductionHypothesis =>
    unfold firsts
    rw [same.lookup_eq, inductionHypothesis same.skip, inductionHypothesis same.keep]

theorem SameKeys.differing_eq [DecidableEq Entry] (same : SameKeys key other kept entries) :
    differing key kept entries = differing other kept entries := by
  induction entries generalizing kept with
  | nil => rfl
  | cons entry rest inductionHypothesis =>
    unfold differing
    rw [same.lookup_eq, inductionHypothesis same.skip, inductionHypothesis same.keep]

end

end QuantAgent.KeyedList
