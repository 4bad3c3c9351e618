/-
This file treats the gaps that orphaned instances leave. A recovery marks the expired instances of
every open partition first and records their gaps after that, in the partitions of the days on
which their leases end. The two parts are no single transaction, so a recovery leaves every orphan
with its one gap when it is not cut off between them and finds none of those days finalized; a
recovery that is cut off is not made up for, since an orphan is not active any more.
-/

import QuantAgent.Library.Runs
import QuantAgent.Microstructure.Capture

namespace QuantAgent.Microstructure

open Durable CaptureStore

variable {protocol : ReliabilityProtocol} {store after : CaptureStore} {cutoff nowMs : ℤ}
  {exclude : Option String} {day : ℤ} {days : List ℤ} {commits : ℕ}

namespace CaptureStore

def orphanGaps (store : CaptureStore) (lease : Lease) : ℕ :=
  store.gaps.countP fun filed => filed.2.kind = .processOrHostGap ∧
    filed.2.detail = orphanDetail lease.instanceId ∧ filed.2.startMs = lease.leaseEnd

def GapsRecorded (protocol : ReliabilityProtocol) (store : CaptureStore) : Prop :=
  ∀ filed ∈ store.instances, filed.2.status = .orphaned →
    store.orphanGaps (filed.2.lease protocol) = 1

def orphans (protocol : ReliabilityProtocol) (store : CaptureStore) : List Lease :=
  (store.instances.filter fun filed => filed.2.status = .orphaned).map (·.2.lease protocol)

def RecoversWhole (protocol : ReliabilityProtocol) (store : CaptureStore) (nowMs : ℤ)
    (exclude : Option String) (commits : ℕ) : Prop :=
  let days := store.openPartitions
  let expired := store.expired protocol (nowMs - protocol.leaseTimeoutMs) exclude
  expired (days.take commits) = [] ∨
    days.length + (expired days).length ≤ commits ∧
      (∀ lease ∈ expired days, dayOf lease.leaseEnd ∉ store.finalized) ∧
      (store.orphans protocol ++ expired days).Nodup

end CaptureStore

def CaptureCall.recovery : CaptureCall → Option (ℤ × Option String)
  | .recoverOrphanInstances nowMs exclude => some (nowMs, exclude)
  | .instanceStart timestampMs _ => some (timestampMs, none)
  | .heartbeat timestampMs instanceId | .instanceEnd timestampMs instanceId =>
    some (timestampMs, some instanceId)
  | _ => none

def CaptureEvent.RecoversWhole (protocol : ReliabilityProtocol) (store : CaptureStore)
    (event : CaptureEvent) : Prop :=
  ∀ recovery ∈ event.call.recovery,
    store.RecoversWhole protocol recovery.1 recovery.2 event.commits

/-! ### What a store has recorded -/

structure CaptureStore.Recorded (protocol : ReliabilityProtocol) (store : CaptureStore) : Prop where
  distinct : (store.orphans protocol).Nodup
  gaps : ∀ lease, store.orphanGaps lease = (store.orphans protocol).count lease

theorem CaptureStore.Recorded.gapsRecorded (recorded : store.Recorded protocol) :
    store.GapsRecorded protocol := by
  intro filed member orphaned
  rw [recorded.gaps]
  refine List.count_eq_one_of_mem recorded.distinct (List.mem_map.mpr ⟨filed, ?_, rfl⟩)
  exact List.mem_filter.mpr ⟨member, decide_eq_true orphaned⟩

/-- The orphans and the gaps of processes are left alone. -/
structure CaptureStore.SameRecords (protocol : ReliabilityProtocol) (before after : CaptureStore) :
    Prop where
  orphans : after.orphans protocol = before.orphans protocol
  gaps : ∀ lease, after.orphanGaps lease = before.orphanGaps lease

theorem CaptureStore.Recorded.same (recorded : store.Recorded protocol)
    (same : store.SameRecords protocol after) : after.Recorded protocol where
  distinct := same.orphans ▸ recorded.distinct
  gaps lease := by rw [same.gaps, same.orphans, recorded.gaps]

theorem orphans_inPartition {change : ProcessInstance → ProcessInstance}
    (instances_eq : after.instances = inPartition day change store.instances)
    (orphaned : ∀ row, row.status = .orphaned → change row = row)
    (other : ∀ row, row.status ≠ .orphaned → (change row).status ≠ .orphaned) :
    after.orphans protocol = store.orphans protocol := by
  unfold CaptureStore.orphans
  rw [instances_eq]
  induction store.instances with
  | nil => rfl
  | cons filed rest inductionHypothesis =>
    show List.map _ (List.filter _
      ((if filed.1 = day then (day, change filed.2) else filed) :: inPartition day change rest)) = _
    by_cases marked : filed.2.status = .orphaned
    · have kept : (if filed.1 = day then (day, change filed.2) else filed) = filed := by
        rw [orphaned _ marked]
        exact ite_eq_right_iff.mpr fun same => Prod.ext same.symm rfl
      rw [kept, List.filter_cons_of_pos (by simpa using marked),
        List.filter_cons_of_pos (by simpa using marked), List.map_cons, List.map_cons,
        inductionHypothesis]
    · have kept :
          (if filed.1 = day then (day, change filed.2) else filed).2.status ≠ .orphaned := by
        split
        · exact other _ marked
        · exact marked
      rw [List.filter_cons_of_neg (by simpa using kept),
        List.filter_cons_of_neg (by simpa using marked), inductionHypothesis]

theorem sameRecords_beat (timestampMs : ℤ) (instanceId : String) :
    store.SameRecords protocol (store.beat timestampMs instanceId day) where
  gaps _ := rfl
  orphans := by
    have changed : (store.beat timestampMs instanceId day).instances =
      inPartition day (·.beat timestampMs instanceId) store.instances := rfl
    refine orphans_inPartition changed (fun row marked => ?_) fun row marked => ?_
    · exact if_neg fun active => by simp [marked] at active
    · unfold ProcessInstance.beat
      split
      · exact marked
      · exact marked

theorem sameRecords_close (timestampMs : ℤ) (instanceId : String) :
    store.SameRecords protocol (store.close timestampMs instanceId day) where
  gaps _ := rfl
  orphans := by
    have changed : (store.close timestampMs instanceId day).instances =
      inPartition day (·.close timestampMs instanceId) store.instances := rfl
    refine orphans_inPartition changed (fun row marked => ?_) fun row marked => ?_
    · exact if_neg fun active => by simp [marked] at active
    · unfold ProcessInstance.close
      split
      · exact InstanceStatus.noConfusion
      · exact marked

variable {timestampMs : ℤ}

theorem connect_ok (connected : store.connect timestampMs = .ok after) :
    after.instances = store.instances ∧ after.gaps = store.gaps ∧
      after.finalized = store.finalized := by
  unfold CaptureStore.connect at connected
  obtain ⟨-, done⟩ := refuse_bind_eq_ok.mp connected
  split at done <;> obtain rfl := Except.ok.inj done <;> exact ⟨rfl, rfl, rfl⟩

theorem connect_of_open (mutable : dayOf timestampMs ∉ store.finalized) :
    ∃ connected, store.connect timestampMs = .ok connected := by
  unfold CaptureStore.connect
  rw [refuse_of_not mutable]
  by_cases new : dayOf timestampMs ∈ store.partitions
  · exact ⟨store, dif_pos new⟩
  · exact ⟨_, dif_neg new⟩

theorem sameRecords_connect (connected : store.connect timestampMs = .ok after) :
    store.SameRecords protocol after := by
  obtain ⟨instances_eq, gaps_eq, -⟩ := connect_ok connected
  exact ⟨by unfold CaptureStore.orphans; rw [instances_eq],
    fun lease => by unfold orphanGaps; rw [gaps_eq]⟩

theorem sameRecords_insertInstance {instanceId : String}
    (inserted : store.insertInstance timestampMs instanceId = .ok after) :
    store.SameRecords protocol after := by
  obtain ⟨connected, opened, inserted⟩ := bind_eq_ok.mp inserted
  obtain ⟨-, done⟩ := refuse_bind_eq_ok.mp inserted
  obtain rfl := Except.ok.inj done
  have same : store.SameRecords protocol connected := sameRecords_connect opened
  refine ⟨?_, same.gaps⟩
  rw [← same.orphans]
  unfold CaptureStore.orphans
  rw [List.filter_append]
  exact congrArg (List.map _) (List.append_nil _)

theorem sameRecords_insertSession {sessionId instanceId : String}
    (inserted : store.insertSession timestampMs sessionId instanceId = .ok after) :
    store.SameRecords protocol after := by
  obtain ⟨connected, opened, inserted⟩ := bind_eq_ok.mp inserted
  obtain ⟨-, done⟩ := refuse_bind_eq_ok.mp inserted
  obtain rfl := Except.ok.inj done
  have same : store.SameRecords protocol connected := sameRecords_connect opened
  exact ⟨same.orphans, same.gaps⟩

/-! ### Marking -/

theorem orphanDetail_injective {first second : String}
    (same : orphanDetail first = orphanDetail second) : first = second := by
  have lists := congrArg String.toList same
  unfold orphanDetail at lists
  simp only [String.toList_append] at lists
  exact String.toList_injective (List.append_cancel_left (List.append_cancel_right lists))

theorem expired_singleton_cons {filed : ℤ × ProcessInstance} {rest : List (ℤ × ProcessInstance)} :
    ((filed :: rest).filter fun filed => filed.1 ∈ [day] ∧ filed.2.Expired cutoff exclude) =
      if filed.1 = day ∧ filed.2.Expired cutoff exclude
      then filed :: rest.filter fun filed => filed.1 ∈ [day] ∧ filed.2.Expired cutoff exclude
      else rest.filter fun filed => filed.1 ∈ [day] ∧ filed.2.Expired cutoff exclude := by
  simp [List.filter_cons]

theorem orphans_markOrphans :
    ((store.markOrphans protocol cutoff exclude day).orphans protocol).Perm
    (store.orphans protocol ++ store.expired protocol cutoff exclude [day]) := by
  unfold CaptureStore.orphans CaptureStore.expired markOrphans
  dsimp only
  induction store.instances with
  | nil => exact .refl _
  | cons filed rest inductionHypothesis =>
    show (List.map _ (List.filter _ ((if filed.1 = day then
      (day, filed.2.recovered protocol cutoff exclude) else filed) :: inPartition day _ rest))).Perm
      _
    rw [expired_singleton_cons]
    by_cases expires : filed.1 = day ∧ filed.2.Expired cutoff exclude
    · have active : filed.2.status ≠ .orphaned := by simp [expires.2.1]
      rw [if_pos expires.1, if_pos expires, ProcessInstance.recovered, if_pos expires.2,
        List.filter_cons_of_pos (by simp), List.filter_cons_of_neg (by simpa using active),
        List.map_cons, List.map_cons]
      exact (inductionHypothesis.cons _).trans List.perm_middle.symm
    · have kept : (if filed.1 = day then (day, filed.2.recovered protocol cutoff exclude)
          else filed) = filed := by
        refine ite_eq_right_iff.mpr fun same => Prod.ext same.symm ?_
        exact if_neg fun old => expires ⟨same, old⟩
      rw [kept, if_neg expires]
      by_cases marked : filed.2.status = .orphaned
      · rw [List.filter_cons_of_pos (by simpa using marked),
          List.filter_cons_of_pos (by simpa using marked)]
        exact inductionHypothesis.cons _
      · rw [List.filter_cons_of_neg (by simpa using marked),
          List.filter_cons_of_neg (by simpa using marked)]
        exact inductionHypothesis

theorem expired_markOrphans (other : day ∉ days) :
    (store.markOrphans protocol cutoff exclude day).expired protocol cutoff exclude days =
      store.expired protocol cutoff exclude days := by
  unfold CaptureStore.expired markOrphans inPartition
  dsimp only
  have same (filed : ℤ × ProcessInstance) (held : filed.1 ∈ days) :
      (if filed.1 = day then (day, filed.2.recovered protocol cutoff exclude) else filed) =
        filed := if_neg fun here : filed.1 = day => other (here ▸ held)
  have day_eq (filed : ℤ × ProcessInstance) :
      (if filed.1 = day then (day, filed.2.recovered protocol cutoff exclude) else filed).1 =
        filed.1 := by
    split
    · next here => exact here.symm
    · rfl
  rw [List.filter_map, List.map_map]
  have filter_eq : store.instances.filter ((fun filed : ℤ × ProcessInstance =>
      decide (filed.1 ∈ days ∧ filed.2.Expired cutoff exclude)) ∘ fun filed =>
        if filed.1 = day then (day, filed.2.recovered protocol cutoff exclude) else filed) =
      store.instances.filter fun filed => filed.1 ∈ days ∧ filed.2.Expired cutoff exclude := by
    refine List.filter_congr fun filed _ => decide_eq_decide.mpr ?_
    rw [day_eq]
    exact and_congr_right fun held => iff_of_eq
      (congrArg (fun kept : ℤ × ProcessInstance => kept.2.Expired cutoff exclude) (same filed held))
  rw [filter_eq]
  refine List.map_congr_left fun filed member => ?_
  have held : filed.1 ∈ days ∧ _ := of_decide_eq_true (List.mem_filter.mp member).2
  exact congrArg (fun kept : ℤ × ProcessInstance => kept.2.lease protocol) (same filed held.1)

/-- What has expired in the first partition and in the others. -/
theorem expired_cons (other : day ∉ days) :
    (store.expired protocol cutoff exclude (day :: days)).Perm
      (store.expired protocol cutoff exclude [day] ++
        store.expired protocol cutoff exclude days) := by
  unfold CaptureStore.expired
  rw [← List.map_append]
  refine List.Perm.map _ ?_
  induction store.instances with
  | nil => exact .refl _
  | cons filed rest inductionHypothesis =>
    rw [expired_singleton_cons]
    by_cases old : filed.2.Expired cutoff exclude
    · by_cases here : filed.1 = day
      · rw [if_pos ⟨here, old⟩, List.filter_cons_of_pos (by simp [here, old]),
          List.filter_cons_of_neg (by simp [here, other])]
        exact inductionHypothesis.cons _
      · rw [if_neg fun both => here both.1]
        by_cases held : filed.1 ∈ days
        · rw [List.filter_cons_of_pos (by simp [held, old]),
            List.filter_cons_of_pos (by simp [held, old])]
          exact (inductionHypothesis.cons _).trans List.perm_middle.symm
        · rw [List.filter_cons_of_neg (by simp [here, held]),
            List.filter_cons_of_neg (by simp [held])]
          exact inductionHypothesis
    · rw [if_neg fun both => old both.2, List.filter_cons_of_neg (by simp [old]),
        List.filter_cons_of_neg (by simp [old])]
      exact inductionHypothesis

theorem inPartition_id {Row : Type} {change : Row → Row} {rows : List (ℤ × Row)}
    (same : ∀ filed ∈ rows, filed.1 = day → change filed.2 = filed.2) :
    inPartition day change rows = rows := by
  refine (List.map_congr_left fun filed member => ?_).trans (List.map_id rows)
  exact ite_eq_right_iff.mpr fun here => Prod.ext here.symm (same filed member here)

theorem markOrphans_idle (none : store.expired protocol cutoff exclude [day] = []) :
    store.markOrphans protocol cutoff exclude day = store := by
  have instances_eq : inPartition day (·.recovered protocol cutoff exclude) store.instances =
      store.instances := by
    refine inPartition_id fun filed member here => if_neg fun old => ?_
    have absent := List.filter_eq_nil_iff.mp (List.map_eq_nil_iff.mp none) filed member
    exact absent (decide_eq_true ⟨List.mem_singleton.mpr here, old⟩)
  have sessions_eq : inPartition day (CaptureStore.endSession []) store.sessions =
      store.sessions := inPartition_id fun _ _ _ => rfl
  unfold markOrphans
  rw [none, instances_eq, sessions_eq]

/-! ### A recovery -/

theorem markPartitions_whole (distinct : days.Nodup) (lives : days.length ≤ commits) :
    ∃ marked after,
      (CaptureWork.markPartitions protocol cutoff exclude days).start ⟨store, commits⟩ =
        (.ok marked, ⟨after, commits - days.length⟩) ∧
      marked.Perm (store.expired protocol cutoff exclude days) ∧
      (after.orphans protocol).Perm (store.orphans protocol ++ marked) ∧
      after.gaps = store.gaps ∧ after.finalized = store.finalized := by
  induction days generalizing store commits with
  | nil =>
    have nothing : store.expired protocol cutoff exclude [] = [] := by
      simp [CaptureStore.expired]
    exact ⟨[], store, rfl, nothing ▸ .refl _, (List.append_nil _).symm ▸ .refl _, rfl, rfl⟩
  | cons day days inductionHypothesis =>
    obtain ⟨other, distinct⟩ := List.nodup_cons.mp distinct
    obtain ⟨commits, rfl⟩ := Nat.exists_eq_add_of_le' (Nat.one_le_of_lt lives)
    obtain ⟨others, after, goes, others_perm, orphans_perm, gaps_eq, finalized_eq⟩ :=
      @inductionHypothesis (store.markOrphans protocol cutoff exclude day) commits distinct
        (Nat.le_of_succ_le_succ lives)
    refine ⟨store.expired protocol cutoff exclude [day] ++ others, after, ?_, ?_, ?_, gaps_eq,
      finalized_eq⟩
    · unfold CaptureWork.markPartitions
      rw [start_transact_bind _ rfl, Work.start_bind, goes, List.length_cons,
        Nat.add_sub_add_right]
      rfl
    · rw [expired_markOrphans other] at others_perm
      exact (others_perm.append_left _).trans (expired_cons other).symm
    · rw [← List.append_assoc]
      exact orphans_perm.trans (orphans_markOrphans.append_right _)

theorem markPartitions_idle
    (nothing : store.expired protocol cutoff exclude (days.take commits) = []) :
    ∃ left, (CaptureWork.markPartitions protocol cutoff exclude days).start ⟨store, commits⟩ =
        (.ok [], ⟨store, left⟩) ∨
      (CaptureWork.markPartitions protocol cutoff exclude days).start ⟨store, commits⟩ =
        (.error .died, ⟨store, left⟩) := by
  induction days generalizing commits with
  | nil => exact ⟨commits, .inl rfl⟩
  | cons day days inductionHypothesis =>
    cases commits with
    | zero => exact ⟨0, .inr (start_transact_bind_died _)⟩
    | succ commits =>
      have absent : ∀ filed ∈ store.instances,
          ¬ (filed.1 ∈ day :: days.take commits ∧ filed.2.Expired cutoff exclude) :=
        fun filed member old => List.filter_eq_nil_iff.mp (List.map_eq_nil_iff.mp nothing) filed
          member (decide_eq_true old)
      have none (some : List ℤ) (among : some ⊆ day :: days.take commits) :
          store.expired protocol cutoff exclude some = [] := by
        refine List.map_eq_nil_iff.mpr (List.filter_eq_nil_iff.mpr fun filed member => ?_)
        rw [decide_eq_true_eq]
        exact fun old => absent filed member ⟨among old.1, old.2⟩
      have here := none [day] (List.cons_subset_cons day (List.nil_subset _))
      unfold CaptureWork.markPartitions
      rw [start_transact_bind _ rfl, markOrphans_idle here, here, Work.start_bind]
      obtain ⟨left, goes | dies⟩ := inductionHypothesis (none _ (List.subset_cons_self _ _))
      · exact ⟨left, .inl (by rw [goes]; rfl)⟩
      · exact ⟨left, .inr (by rw [dies])⟩

theorem insertGap_ok {kind : GapKind} {detail : String} {endMs : Option ℤ}
    (inserted : store.insertGap timestampMs kind detail endMs = .ok after) :
    after.finalized = store.finalized ∧ after.orphans protocol = store.orphans protocol ∧
      ∀ lease, after.orphanGaps lease = store.orphanGaps lease + if kind = .processOrHostGap ∧
        detail = orphanDetail lease.instanceId ∧ timestampMs = lease.leaseEnd then 1 else 0 := by
  obtain ⟨connected, opened, done⟩ := bind_eq_ok.mp inserted
  obtain rfl := Except.ok.inj done
  have same : store.SameRecords protocol connected := sameRecords_connect opened
  refine ⟨(connect_ok opened).2.2, same.orphans, fun lease => ?_⟩
  rw [← same.gaps]
  unfold orphanGaps
  rw [List.countP_append, List.countP_singleton]
  simp only [decide_eq_true_eq]

theorem insertGap_of_open (mutable : dayOf timestampMs ∉ store.finalized) (kind : GapKind)
    (detail : String) (endMs : Option ℤ) :
    ∃ after, store.insertGap timestampMs kind detail endMs = .ok after := by
  obtain ⟨connected, opened⟩ := connect_of_open mutable
  unfold insertGap
  rw [opened]
  exact ⟨_, rfl⟩

theorem recordGaps_whole {leases : List Lease} (lives : leases.length ≤ commits)
    (mutable : ∀ lease ∈ leases, dayOf lease.leaseEnd ∉ store.finalized) :
    ((CaptureWork.recordGaps nowMs leases).start ⟨store, commits⟩).2.state.orphans protocol =
        store.orphans protocol ∧
      ∀ lease, ((CaptureWork.recordGaps nowMs leases).start
        ⟨store, commits⟩).2.state.orphanGaps lease =
          store.orphanGaps lease + leases.count lease := by
  induction leases generalizing store commits with
  | nil => exact ⟨rfl, fun _ => rfl⟩
  | cons lease leases inductionHypothesis =>
    obtain ⟨commits, rfl⟩ := Nat.exists_eq_add_of_le' (Nat.one_le_of_lt lives)
    obtain ⟨inserted, done⟩ := insertGap_of_open (mutable lease List.mem_cons_self)
      .processOrHostGap (orphanDetail lease.instanceId) (some nowMs)
    obtain ⟨finalized_eq, orphans_eq, gaps_eq⟩ := @insertGap_ok protocol _ _ _ _ _ _ done
    unfold CaptureWork.recordGaps CaptureWork.gap CaptureWork.insert
    rw [start_transact_bind _ (congrArg (Except.map (·, ())) done)]
    obtain ⟨later_orphans, later_gaps⟩ := @inductionHypothesis inserted commits
      (Nat.le_of_succ_le_succ lives) fun later member => by
        rw [finalized_eq]
        exact mutable later (List.mem_cons_of_mem _ member)
    refine ⟨later_orphans.trans orphans_eq, fun other => ?_⟩
    have names : (GapKind.processOrHostGap = .processOrHostGap ∧ orphanDetail lease.instanceId =
        orphanDetail other.instanceId ∧ lease.leaseEnd = other.leaseEnd) ↔ lease = other := by
      refine ⟨fun ⟨_, detail_eq, end_eq⟩ => ?_, fun same => same ▸ ⟨rfl, rfl, rfl⟩⟩
      exact Lease.mk.injEq .. ▸ ⟨end_eq, orphanDetail_injective detail_eq⟩
    rw [later_gaps, gaps_eq, List.count_cons, if_congr names rfl rfl, add_assoc,
      add_comm (ite _ _ _)]
    simp only [beq_iff_eq]

theorem CaptureStore.Recorded.recover (recorded : store.Recorded protocol)
    (whole : store.RecoversWhole protocol nowMs exclude commits) :
    ((CaptureWork.recoverOrphanInstances protocol nowMs exclude).start
      ⟨store, commits⟩).2.state.Recorded protocol := by
  unfold CaptureWork.recoverOrphanInstances
  rw [start_look_bind]
  obtain nothing | ⟨lives, mutable, distinct⟩ := whole
  · rw [Work.start_bind]
    obtain ⟨left, goes | dies⟩ := markPartitions_idle nothing
    · rw [goes]
      exact recorded
    · rw [dies]
      exact recorded
  · have days_distinct : store.openPartitions.Nodup :=
      (store.ordered.imp ne_of_lt).filter _
    obtain ⟨marked, after, goes, marked_perm, orphans_perm, gaps_eq, finalized_eq⟩ :=
      @markPartitions_whole protocol store (nowMs - protocol.leaseTimeoutMs) exclude _ _
        days_distinct (le_of_add_le_left lives)
    rw [Work.start_bind, goes]
    dsimp only
    have enough : marked.length ≤ commits - store.openPartitions.length := by
      rw [marked_perm.length_eq]
      omega
    obtain ⟨last_orphans, last_gaps⟩ := @recordGaps_whole protocol _ nowMs _ _
      enough fun lease member => finalized_eq ▸ mutable lease (marked_perm.subset member)
    have before_gaps : ∀ lease, after.orphanGaps lease = store.orphanGaps lease := by
      intro lease
      unfold orphanGaps
      rw [gaps_eq]
    refine ⟨?_, fun lease => ?_⟩
    · rw [last_orphans]
      exact (orphans_perm.trans (marked_perm.append_left _)).nodup_iff.mpr distinct
    · rw [last_orphans, last_gaps, before_gaps, recorded.gaps, orphans_perm.count_eq,
        List.count_append]

/-! ### The other transactions -/

theorem keeps_insert {transaction : CaptureStore → Except CaptureFault CaptureStore}
    (same : ∀ store after, transaction store = .ok after → store.SameRecords protocol after) :
    Keeps (Recorded protocol) (CaptureWork.insert transaction) := by
  refine keeps_transact fun store after value recorded committed => ?_
  obtain ⟨written, inserted, pair_eq⟩ := map_eq_ok.mp committed
  obtain ⟨rfl, -⟩ := Prod.mk.inj pair_eq
  exact recorded.same (same store written inserted)

theorem keeps_eachPartition {change : ℤ → CaptureStore → CaptureStore}
    (same : ∀ day (store : CaptureStore), store.SameRecords protocol (change day store))
    (days : List ℤ) :
    Keeps (Recorded protocol) (CaptureWork.eachPartition change days) := by
  induction days with
  | nil => exact keeps_pure ()
  | cons day days inductionHypothesis =>
    exact .bind (keeps_commit fun store recorded => recorded.same (same day store)) fun _ =>
      inductionHypothesis

theorem keeps_closeIn (timestampMs : ℤ) (sessionId : String) (days : List ℤ) :
    Keeps (Recorded protocol) (CaptureWork.closeIn timestampMs sessionId days) := by
  induction days with
  | nil => exact keeps_pure ()
  | cons day days inductionHypothesis =>
    refine .bind (keeps_transact fun store after closed recorded committed => ?_) fun closed => ?_
    · obtain ⟨rfl, -⟩ := Prod.mk.inj (Except.ok.inj committed)
      exact recorded.same ⟨rfl, fun _ => rfl⟩
    · split
      · exact keeps_pure ()
      · exact inductionHypothesis

theorem sameRecords_streamGap {kind : GapKind} {detail : String} {endMs : Option ℤ}
    (stream : kind ≠ .processOrHostGap)
    (inserted : store.insertGap timestampMs kind detail endMs = .ok after) :
    store.SameRecords protocol after := by
  obtain ⟨-, orphans_eq, gaps_eq⟩ := @insertGap_ok protocol _ _ _ _ _ _ inserted
  refine ⟨orphans_eq, fun lease => ?_⟩
  rw [gaps_eq, if_neg fun named => stream named.1, add_zero]

theorem sameRecords_finalize (integrityOk : Bool) :
    store.SameRecords protocol (store.finalize protocol nowMs integrityOk) := by
  unfold CaptureStore.finalize
  split
  · exact ⟨rfl, fun _ => rfl⟩
  · exact ⟨rfl, fun _ => rfl⟩

theorem CaptureStore.Recorded.heartbeat (recorded : store.Recorded protocol) {instanceId : String}
    (whole : store.RecoversWhole protocol timestampMs (some instanceId) commits) :
    ((CaptureWork.heartbeat protocol timestampMs instanceId).start
      ⟨store, commits⟩).2.state.Recorded protocol := by
  refine bind_ends (recorded.recover whole) fun _ => .bind (keeps_look _) fun days => ?_
  exact keeps_eachPartition (fun _ _ => sameRecords_beat timestampMs instanceId) days

theorem CaptureStore.Recorded.next (recorded : store.Recorded protocol) {event : CaptureEvent}
    (whole : event.RecoversWhole protocol store) :
    (store.after protocol event).Recorded protocol := by
  obtain ⟨call, commits⟩ := event
  cases call with
  | recoverOrphanInstances nowMs exclude => exact recorded.recover (whole _ rfl)
  | instanceStart timestampMs instanceId =>
    exact bind_ends (recorded.recover (whole _ rfl)) fun _ =>
      keeps_insert fun _ _ => sameRecords_insertInstance
  | heartbeat timestampMs instanceId => exact recorded.heartbeat (whole _ rfl)
  | instanceEnd timestampMs instanceId =>
    refine bind_ends (recorded.heartbeat (whole _ rfl)) fun _ => .bind (keeps_look _) fun days => ?_
    exact keeps_eachPartition (fun _ _ => sameRecords_close timestampMs instanceId) days
  | sessionStart timestampMs sessionId instanceId =>
    exact (keeps_insert (fun _ _ => sameRecords_insertSession) ⟨store, commits⟩ recorded).2
  | sessionEnd timestampMs sessionId =>
    exact (Keeps.bind (keeps_look _) (keeps_closeIn timestampMs sessionId)
      ⟨store, commits⟩ recorded).2
  | streamGap timestampMs kind detail endMs stream =>
    exact (keeps_insert (fun _ _ => sameRecords_streamGap stream) ⟨store, commits⟩ recorded).2
  | append timestampMs =>
    exact (keeps_insert (fun _ _ => sameRecords_connect) ⟨store, commits⟩ recorded).2
  | finalizePartitions nowMs integrityOk =>
    exact (keeps_commit (fun store recorded => recorded.same (sameRecords_finalize integrityOk))
      ⟨store, commits⟩ recorded).2

theorem CaptureStore.Recorded.start : Recorded protocol {} :=
  ⟨List.nodup_nil, fun _ => rfl⟩

/-- In every run whose recoveries are whole every orphaned instance has exactly one gap, which
starts at the end of its lease. -/
theorem orphans_leave_gaps (events : List CaptureEvent)
    (whole : Runs.Each (CaptureStore.after protocol) (fun store event =>
      event.RecoversWhole protocol store) {} events) :
    Runs.Throughout (CaptureStore.after protocol) (GapsRecorded protocol) {} events :=
  have recorded : Runs.Throughout _ (Recorded protocol) {} events :=
    Runs.throughout_of_each (fun _ _ recorded whole => recorded.next whole) .start whole
  recorded.mono fun _ recorded => recorded.gapsRecorded

/-! ### Runs -/

instance : Decidable (store.GapsRecorded protocol) :=
  inferInstanceAs (Decidable (∀ _ ∈ _, _ → _ = _))

instance (nowMs : ℤ) : Decidable (store.RecoversWhole protocol nowMs exclude commits) :=
  inferInstanceAs (Decidable (_ = _ ∨ _ ∧ _ ∧ _))

instance (event : CaptureEvent) : Decidable (event.RecoversWhole protocol store) :=
  inferInstanceAs (Decidable (∀ _ ∈ (_ : Option _), _))

def reliabilityProtocol : ReliabilityProtocol := ⟨15000, 3600000⟩

/-- A process stops before midnight, and the next one finds its lease expired after midnight. -/
theorem host_restart_recorded :
    Runs.Throughout (CaptureStore.after reliabilityProtocol)
      (GapsRecorded reliabilityProtocol) {}
      [⟨.instanceStart 86380000 "first", 9⟩, ⟨.sessionStart 86381000 "trade-1" "first", 9⟩,
        ⟨.heartbeat 86390000 "first", 9⟩, ⟨.instanceStart 86500000 "second", 9⟩] :=
  orphans_leave_gaps _ (by decide +kernel)

/-- A process dies between marking an expired instance and recording its gap. And a lease ends in a
day that is finalized while the day of the instance is not, because of an open session. -/
theorem orphan_without_gap :
    ¬ Runs.Throughout (CaptureStore.after reliabilityProtocol)
      (GapsRecorded reliabilityProtocol) {}
      [⟨.instanceStart 1000 "first", 9⟩, ⟨.instanceStart 20000 "second", 1⟩] ∧
    ¬ Runs.Throughout (CaptureStore.after reliabilityProtocol)
      (GapsRecorded reliabilityProtocol) {}
      [⟨.instanceStart 1000 "first", 9⟩, ⟨.sessionStart 1000 "trade-1" "first", 9⟩,
        ⟨.heartbeat 86500000 "first", 9⟩, ⟨.append 86500000, 9⟩,
        ⟨.finalizePartitions 200000000 true, 9⟩, ⟨.instanceStart 200000000 "second", 9⟩] := by
  constructor <;> exact fun recorded => absurd recorded.last (by decide +kernel)

end QuantAgent.Microstructure
