/-
This file says when the account watch publishes no stale reconciliation: no snapshot that is
marked as reconciled although a user event or a disconnect was processed after its data was read
and is not part of it.

The generation counts the processed notices. A snapshot is stale when it takes fewer into account
than were processed. The comparison of generations catches every stale reconciliation but the
first: with no earlier snapshot to fall back on, the stale one is published as it is.
-/

import QuantAgent.AccountWatch.Service
import QuantAgent.Library.Runs

namespace QuantAgent.AccountWatch

open Service

/-! ### What the property says -/

/-- Every snapshot marked as reconciled takes all notices into account. -/
def NoStale (service : Service) : Prop :=
  ∀ publication ∈ service.publications, publication.snapshot.reconciled →
    publication.seen = publication.generation

/-- A first snapshot that is marked as reconciled is published only when no notice was processed
since its data was read. -/
def RestInTime (service : Service) (event : Event) : Prop :=
  event = .restAdvance → ∀ call snapshot, service.watch.rest = some call →
    call.stage = .built snapshot → service.watch.latest = none → snapshot.reconciled →
      call.readAt = service.watch.stateGeneration

def NoticesDated (service : Service) : Event → Prop
  | .userEvent _ nowMs | .disconnect nowMs =>
    ∀ latest ∈ service.watch.latest, latest.reconciled → latest.lastRestAtMs ≤ nowMs
  | _ => True

/-! ### Calls in flight -/

def Ordered (service : Service) : Prop :=
  ∀ call ∈ service.watch.rest, call.generation ≤ call.readAt ∧
    call.readAt ≤ service.watch.stateGeneration ∧
    ∀ snapshot, call.stage = .built snapshot → snapshot.Valid

namespace Ordered

variable {service after : Service}

/-- Handlers leave the call in flight alone and count notices upwards. -/
theorem of_same (ordered : Ordered service) (rest : after.watch.rest = service.watch.rest)
    (more : service.watch.stateGeneration ≤ after.watch.stateGeneration) : Ordered after := by
  intro call member
  rw [rest] at member
  obtain ⟨began, read, built⟩ := ordered call member
  exact ⟨began, read.trans more, built⟩

theorem of_none (none : after.watch.rest = none) : Ordered after := by
  intro call member
  rw [none] at member
  cases member

theorem markStreamDisconnected (ordered : Ordered service) (nowMs : Int) :
    Ordered (service.markStreamDisconnected nowMs) := by
  rcases service.markStreamDisconnected_cases nowMs with ⟨latest, -, -, same⟩ | ⟨-, same⟩
  · rw [same]
    exact ordered.of_same rfl (Nat.le_succ _)
  · rw [same]
    exact ordered.of_same rfl (Nat.le_succ _)

variable {call : RestCall}

section

variable (ordered : Ordered service)

include ordered

theorem moved (running : service.watch.rest = some call) {watch : Watch}
    {stage : Stage} (generation : watch.stateGeneration = service.watch.stateGeneration)
    (valid : ∀ snapshot, stage = .built snapshot → snapshot.Valid) :
    Ordered { service with watch := { watch with rest := some { call with stage := stage } } } := by
  intro next member
  cases member
  obtain ⟨began, read, -⟩ := ordered call running
  exact ⟨began, read.trans generation.ge, valid⟩

theorem receiveExchange (running : service.watch.rest = some call)
    (account : AccountInformation) (positions : List RawPosition) (orders : List RawOrder)
    (realizedPnl : ℚ) :
    Ordered (service.receiveExchange call account positions orders realizedPnl) := by
  unfold Service.receiveExchange
  split
  · exact of_none rfl
  · dsimp only
    split
    · exact of_none rfl
    · exact ordered.moved running rfl fun _ same => (nomatch same)

theorem advanceRest {environment : Environment} (running : service.watch.rest = some call) :
    Ordered (service.advanceRest environment call) := by
  obtain ⟨generation, now, readAt, stage⟩ := call
  unfold Service.advanceRest
  cases stage with
  | parsed balances => exact ordered.moved running rfl fun _ same => (nomatch same)
  | marked balances =>
    dsimp only
    split
    · exact of_none rfl
    · rename_i snapshot built
      obtain ⟨valid, rfl⟩ := Snapshot.build_eq_ok.mp built
      refine ordered.moved running rfl fun other same => ?_
      cases same
      exact valid
  | built snapshot => exact of_none rfl
  | begun => exact ordered
  | reading account => exact ordered

theorem restart (nowMs : Int) : Ordered (service.restart nowMs) := by
  unfold Service.restart
  split
  · exact of_none rfl
  · dsimp only
    split_ifs
    · exact (of_none rfl : Ordered _).markStreamDisconnected nowMs
    · exact ordered
    · exact of_none rfl

theorem step (environment : Environment) (event : Event) :
    Ordered (service.step environment event) := by
  cases event with
  | restBegin nowMs =>
    unfold Service.step
    dsimp only
    split
    · exact ordered
    · intro call member
      cases member
      exact ⟨le_rfl, le_rfl, fun _ same => (nomatch same)⟩
  | restRead account =>
    unfold Service.step
    dsimp only
    split
    · rename_i generation now readAt running
      obtain ⟨began, read, -⟩ := ordered _ running
      intro call member
      cases member
      exact ⟨began.trans read, le_rfl, fun _ same => (nomatch same)⟩
    · exact ordered
  | restAnswers answers =>
    unfold Service.step
    dsimp only
    split
    · rename_i running
      exact ordered.receiveExchange running _ _ _ _
    · rename_i running
      exact ordered.moved running rfl fun _ same => (nomatch same)
    · exact ordered
  | restAdvance =>
    unfold Service.step
    dsimp only
    split
    · rename_i call running
      exact ordered.advanceRest running
    · exact ordered
  | restFail => exact of_none rfl
  | userEvent payload nowMs =>
    rcases service.handleUserEvent_cases environment payload nowMs with
      same | same | same | ⟨eventMs, txMs, latest, updated, -, same⟩
    all_goals
      show Ordered (service.handleUserEvent environment payload nowMs)
      rw [same]
    · exact ordered
    · exact ordered.markStreamDisconnected nowMs
    · exact (ordered.of_same rfl le_rfl : Ordered service.conflict).markStreamDisconnected nowMs
    · exact ordered.of_same rfl (Nat.le_succ _)
  | disconnect nowMs => exact ordered.markStreamDisconnected nowMs
  | reconnect =>
    show Ordered service.reconnect
    unfold Service.reconnect
    dsimp only
    split
    · exact ordered.of_same rfl le_rfl
    · split
      · exact ordered.of_same rfl le_rfl
      · exact ordered.of_same rfl le_rfl
  | restart nowMs => exact ordered.restart nowMs

end

end Ordered

/-! ### What every step keeps -/

/-- Nothing stale was published, and the latest snapshot is not stale if it is marked as
reconciled. -/
structure Timely (service : Service) : Prop where
  noStale : NoStale service
  valid : ∀ latest ∈ service.watch.latest, latest.Valid
  current : ∀ latest ∈ service.watch.latest, latest.reconciled →
    service.watch.seen = service.watch.stateGeneration
  stored : ∀ row ∈ service.store, row.Valid
  empty : service.watch.latest = none → service.store = []

namespace Timely

variable {service : Service}

theorem publish (noStale : NoStale service) (stored : ∀ row ∈ service.store, row.Valid)
    {snapshot : Snapshot} {seen : ℕ} (valid : snapshot.Valid)
    (fresh : snapshot.reconciled → seen = service.watch.stateGeneration) :
    Timely (service.publish snapshot seen) where
  noStale := fun publication member => by
    rcases List.mem_cons.mp member with rfl | before
    · exact fresh
    · exact noStale publication before
  valid := fun latest member => by
    cases member
    exact valid
  current := fun latest member => by
    cases member
    exact fresh
  stored := fun row member => by
    rcases AccountStore.mem_save member with before | rfl
    · exact stored row before
    · exact valid
  empty := fun absent => by cases absent

theorem of_watch (timely : Timely service) (watch : Watch)
    (latest : watch.latest = service.watch.latest) (seen : watch.seen = service.watch.seen)
    (generation : watch.stateGeneration = service.watch.stateGeneration) :
    Timely { service with watch := watch } :=
  ⟨timely.noStale, by rw [latest]; exact timely.valid,
    by rw [latest, seen, generation]; exact timely.current, timely.stored,
    by rw [latest]; exact timely.empty⟩

theorem conflict (timely : Timely service) : Timely service.conflict :=
  timely.of_watch _ rfl rfl rfl

theorem withRest (timely : Timely service) (rest : Option RestCall) :
    Timely (service.withRest rest) :=
  timely.of_watch _ rfl rfl rfl

theorem markStreamDisconnected (timely : Timely service) {nowMs : Int}
    (dated : ∀ latest ∈ service.watch.latest, latest.reconciled → latest.lastRestAtMs ≤ nowMs) :
    Timely (service.markStreamDisconnected nowMs) := by
  rcases service.markStreamDisconnected_cases nowMs with
    ⟨latest, -, valid, same⟩ | ⟨invalid, same⟩
  · rw [same]
    refine publish ?_ ?_ valid fun reconciled => absurd reconciled Bool.false_ne_true
    · exact timely.noStale
    · exact timely.stored
  · rw [same]
    refine ⟨timely.noStale, timely.valid, fun latest member reconciled => ?_, timely.stored,
      timely.empty⟩
    have valid := timely.valid latest member
    have late := dated latest member reconciled
    exact absurd ⟨valid.lastRest.trans late, valid.lastRest, valid.equity, valid.available,
      valid.wallet, valid.margin, valid.dailyLoss, valid.drawdown, valid.peak, late⟩
      (invalid latest member)

variable {environment : Environment}

section

variable (timely : Timely service)

include timely

theorem publishEvent {payload : Payload} {eventMs txMs : Int} {latest updated : Snapshot}
    (applies : Applies environment service payload eventMs txMs latest updated) :
    Timely (service.publishEvent payload eventMs updated) := by
  have held : service.watch.latest = some latest := by
    have found := applies.found
    unfold Service.latestSnapshot at found
    rcases Option.or_eq_some_iff.mp found with held | ⟨absent, stored⟩
    · exact held
    · have member := AccountStore.mem_of_latest stored
      rw [timely.empty absent] at member
      cases member
  have reconciled : latest.reconciled := by
    by_contra unreconciled
    refine applies.continuous (.inr (.inl fun snapshot member => ?_))
    rw [applies.found, Option.mem_some_iff] at member
    rwa [← member]
  obtain ⟨values, -, built⟩ := bind_eq_ok.mp applies.done
  obtain ⟨valid, rfl⟩ := Snapshot.build_eq_ok.mp built
  refine publish ?_ ?_ valid fun _ => ?_
  · exact timely.noStale
  · exact timely.stored
  · show service.watch.seen + 1 = service.watch.stateGeneration + 1
    rw [timely.current latest held reconciled]

theorem publishRest (ordered : Ordered service) {call : RestCall}
    (running : service.watch.rest = some call) {snapshot : Snapshot}
    (built : call.stage = .built snapshot) (inTime : RestInTime service .restAdvance) :
    Timely (service.publishRest call snapshot) := by
  obtain ⟨began, read, builtValid⟩ := ordered call running
  have valid := builtValid snapshot built
  unfold Service.publishRest
  split_ifs with same
  · exact publish timely.noStale timely.stored valid fun _ =>
      le_antisymm read (same.le.trans began)
  split
  · rename_i absent
    exact publish timely.noStale timely.stored valid
      (inTime rfl call snapshot running built absent)
  · rename_i latest found
    have marked : Timely { service.conflict with watch :=
        { service.conflict.watch with reconciled := false } } :=
      timely.of_watch _ rfl rfl rfl
    dsimp only
    split
    · rename_i kept done
      obtain ⟨keptValid, rfl⟩ := Snapshot.build_eq_ok.mp done
      exact publish marked.noStale marked.stored keptValid fun reconciled =>
        absurd reconciled Bool.false_ne_true
    · exact marked

theorem receiveExchange (call : RestCall)
    (account : AccountInformation) (positions : List RawPosition) (orders : List RawOrder)
    (realizedPnl : ℚ) :
    Timely (service.receiveExchange call account positions orders realizedPnl) := by
  unfold Service.receiveExchange
  split
  · exact timely.withRest none
  · dsimp only
    split
    · exact timely.of_watch _ rfl rfl rfl
    · exact timely.of_watch _ rfl rfl rfl

theorem advanceRest (ordered : Ordered service) {call : RestCall}
    (running : service.watch.rest = some call) (inTime : RestInTime service .restAdvance) :
    Timely (service.advanceRest environment call) := by
  unfold Service.advanceRest
  split
  · exact timely.of_watch _ rfl rfl rfl
  · split
    · exact timely.withRest none
    · exact timely.withRest _
  · rename_i snapshot built
    exact (timely.publishRest ordered running built inTime).withRest none
  · exact timely

theorem reconnect : Timely service.reconnect := by
  have connected : Timely { service with watch :=
      { service.watch with streamConnected := true } } :=
    timely.of_watch _ rfl rfl rfl
  unfold Service.reconnect
  dsimp only
  split
  · exact connected
  · rename_i latest found
    split
    · rename_i snapshot built
      obtain ⟨valid, rfl⟩ := Snapshot.build_eq_ok.mp built
      exact publish connected.noStale connected.stored valid fun reconciled =>
        timely.current latest found reconciled
    · exact connected

theorem restart (nowMs : Int) : Timely (service.restart nowMs) := by
  unfold Service.restart
  split
  · rename_i absent
    exact ⟨timely.noStale, fun _ member => (nomatch member), fun _ member => (nomatch member),
      timely.stored, fun _ => AccountStore.eq_nil_of_latest absent⟩
  · rename_i restored found
    have valid := timely.stored restored (AccountStore.mem_of_latest found)
    have fresh : Timely { service with watch := {
        latest := some restored
        peakEquityUsdt := restored.peakEquityUsdt
        conflictCount := restored.conflictCount
        lastRestAtMs := restored.lastRestAtMs } } :=
      ⟨timely.noStale, fun latest member => by cases member; exact valid, fun _ _ _ => rfl,
        timely.stored, fun absent => by cases absent⟩
    dsimp only
    split_ifs with live dated
    · refine fresh.markStreamDisconnected fun latest member _ => ?_
      cases member
      exact dated.chronology
    · exact timely
    · exact fresh

/-- A step that publishes no first snapshot too late, with a notice that is not dated before the
reconciliation it invalidates. -/
theorem step (ordered : Ordered service) {event : Event}
    (inTime : RestInTime service event) (dated : NoticesDated service event) :
    Timely (service.step environment event) := by
  cases event with
  | restBegin nowMs =>
    unfold Service.step
    dsimp only
    split
    · exact timely
    · exact timely.withRest _
  | restRead account =>
    unfold Service.step
    dsimp only
    split
    · exact timely.withRest _
    · exact timely
  | restAnswers answers =>
    unfold Service.step
    dsimp only
    split
    · exact timely.receiveExchange _ _ _ _ _
    · exact timely.of_watch _ rfl rfl rfl
    · exact timely
  | restAdvance =>
    unfold Service.step
    dsimp only
    split
    · rename_i call running
      exact timely.advanceRest ordered running inTime
    · exact timely
  | restFail => exact timely.withRest none
  | userEvent payload nowMs =>
    rcases service.handleUserEvent_cases environment payload nowMs with
      same | same | same | ⟨eventMs, txMs, latest, updated, applies, same⟩
    all_goals
      show Timely (service.handleUserEvent environment payload nowMs)
      rw [same]
    · exact timely
    · exact timely.markStreamDisconnected dated
    · exact timely.conflict.markStreamDisconnected dated
    · exact timely.publishEvent applies
  | disconnect nowMs => exact timely.markStreamDisconnected dated
  | reconnect => exact timely.reconnect
  | restart nowMs => exact timely.restart nowMs

end

end Timely

theorem restInTime_of_noStale {service : Service} (ordered : Ordered service)
    {environment : Environment} {event : Event}
    (noStale : NoStale (service.step environment event)) : RestInTime service event := by
  rintro rfl call snapshot running built absent reconciled
  obtain ⟨began, read, -⟩ := ordered call running
  have step : service.step environment .restAdvance =
      (service.publish snapshot call.readAt).withRest none := by
    unfold Service.step
    dsimp only
    rw [running]
    unfold Service.advanceRest Service.publishRest
    dsimp only
    rw [built]
    dsimp only
    split_ifs
    · rfl
    · rw [absent]
  rw [step] at noStale
  exact noStale _ List.mem_cons_self reconciled

/-! ### The main result -/

/-- No stale reconciliation is published when every first snapshot is published in time and no
notice is dated before the reconciliation it invalidates; and only then is every first snapshot
published in time. -/
theorem no_stale_reconciliation (environment : Environment) (events : List Event) :
    (Runs.Each (Service.step environment)
        (fun service event => RestInTime service event ∧ NoticesDated service event) {} events →
      Runs.Throughout (Service.step environment) NoStale {} events) ∧
    (Runs.Throughout (Service.step environment) NoStale {} events →
      Runs.Each (Service.step environment) RestInTime {} events) := by
  have ordered : Ordered {} := Ordered.of_none rfl
  have timely : Timely {} :=
    ⟨fun _ member => (nomatch member), fun _ member => (nomatch member),
      fun _ member => (nomatch member), fun _ member => (nomatch member), fun _ => rfl⟩
  constructor
  · intro each
    have always : Runs.Throughout (Service.step environment)
        (fun service => Ordered service ∧ Timely service) {} events :=
      Runs.throughout_of_each (fun service event now meets =>
        ⟨now.1.step environment event, now.2.step now.1 meets.1 meets.2⟩)
        ⟨ordered, timely⟩ each
    exact always.mono fun _ now => now.2.noStale
  · intro noStale
    have always : Runs.Throughout (Service.step environment) Ordered {} events :=
      Runs.throughout_of_keeps (fun _ event now => now.step environment event) ordered events
    have known : Runs.Each (Service.step environment) (fun service _ => Ordered service) {}
        events :=
      Runs.each_of_throughout always fun _ _ now _ => now
    have next : Runs.Each (Service.step environment)
        (fun service event => NoStale (service.step environment event)) {} events :=
      Runs.each_of_throughout noStale fun _ _ _ next => next
    exact (Runs.each_and.mpr ⟨known, next⟩).mono fun _ _ ⟨now, next⟩ =>
      restInTime_of_noStale now next

theorem restInTime_of_readAt {service : Service} {event : Event}
    (read : ∀ call ∈ service.watch.rest, call.readAt = service.watch.stateGeneration) :
    RestInTime service event :=
  fun _ call _ running _ _ _ => read call running

/-- A reconciliation that publishes the first snapshot before a notice comes. -/
def timelyFirst : List Event :=
  [.restBegin 10, .restRead { totalMarginBalance := .value 1000 },
    .restAnswers (.exchange [] [] 0), .restAdvance, .restAdvance, .restAdvance, .disconnect 11]

theorem timelyFirst_fresh : Runs.Throughout (Service.step .testnet) NoStale {} timelyFirst := by
  refine (no_stale_reconciliation .testnet timelyFirst).1 ⟨?_, ?_, ?_, ?_, ?_, ?_, ?_, trivial⟩
  all_goals refine ⟨restInTime_of_readAt (by decide +kernel), ?_⟩
  · trivial
  · trivial
  · trivial
  · trivial
  · trivial
  · trivial
  · unfold NoticesDated
    decide +kernel

def lateFirst : List Event :=
  [.restBegin 10, .restRead { totalMarginBalance := .value 1000 }, .disconnect 11,
    .restAnswers (.exchange [] [] 0), .restAdvance, .restAdvance, .restAdvance]

theorem lateFirst_stale :
    ¬ Runs.Throughout (Service.step .testnet) NoStale {} lateFirst := by
  intro throughout
  have last := throughout.last
  have published : ((Runs.run (Service.step .testnet) {} lateFirst).publications.head?.map
      fun publication => (publication.snapshot.reconciled, publication.seen,
        publication.generation)) = some (true, 0, 1) := by
    decide +kernel
  obtain ⟨publication, found, same⟩ := Option.map_eq_some_iff.mp published
  rw [Prod.mk.injEq, Prod.mk.injEq] at same
  have fresh := last publication (List.mem_of_head? found) same.1
  rw [same.2.1, same.2.2] at fresh
  exact Nat.zero_ne_one fresh

end QuantAgent.AccountWatch
