/-
This file says exactly when every published snapshot is consistent: its peak is at least its
equity, its drawdown follows from both, and the validator recomputes the same values from it.
That is so if and only if no applied account update changes the equity.

A reconciliation derives the peak and the drawdown anew. Every other publication copies both
from the latest snapshot, and only an account update gives the copy another equity.
-/

import QuantAgent.AccountWatch.Service
import QuantAgent.Library.Runs

namespace QuantAgent.AccountWatch

open Service

/-! ### What the property says -/

/-- The derived fields agree with the balances and the positions of the same snapshot. -/
structure Snapshot.Consistent (snapshot : Snapshot) : Prop where
  peak : snapshot.equityUsdt ≤ snapshot.peakEquityUsdt
  drawdown : snapshot.drawdownPct = max 0 (1 - snapshot.equityUsdt / snapshot.peakEquityUsdt)
  recomputed : snapshot.expectedDrawdown = snapshot.drawdownPct
  exposure : ∀ symbol, snapshot.revalidated symbol = snapshot.accountContext symbol

def AllConsistent (service : Service) : Prop :=
  ∀ publication ∈ service.publications, publication.snapshot.Consistent

def AccountPayload.reportedEquity (account : AccountPayload) (eventMs : Int)
    (snapshot : Snapshot) : Except String ℚ :=
  match account.balances, account.positions with
  | some balances, some positions => do
    let wallet ← walletAfter snapshot.walletBalanceUsdt balances
    let current ← positionsAfter eventMs (positionsBySymbol snapshot.positions) positions
    pure (max 0 (wallet + (current.map Position.unrealizedPnlUsdt).sum))
  | _, _ => throw "invalid account update rows"

def EquityKept (environment : Environment) (service : Service) (event : Event) : Prop :=
  ∀ payload nowMs, event = .userEvent payload nowMs → payload.eventType = "ACCOUNT_UPDATE" →
    ∀ account ∈ payload.account, ∀ eventMs txMs latest updated,
      Applies environment service payload eventMs txMs latest updated →
        account.reportedEquity eventMs latest = .ok latest.equityUsdt

/-! ### Consistent snapshots -/

structure Snapshot.Sane (snapshot : Snapshot) : Prop where
  positive : 0 < snapshot.peakEquityUsdt
  peak : snapshot.equityUsdt ≤ snapshot.peakEquityUsdt
  drawdown : snapshot.drawdownPct = 1 - snapshot.equityUsdt / snapshot.peakEquityUsdt

namespace Snapshot

variable {snapshot other : Snapshot}

theorem Sane.consistent (sane : Sane snapshot) : snapshot.Consistent where
  peak := sane.peak
  drawdown := by
    rw [sane.drawdown, max_eq_right]
    exact sub_nonneg.mpr ((div_le_one sane.positive).mpr sane.peak)
  recomputed := sane.drawdown.symm
  exposure := fun symbol => snapshot.revalidated_eq symbol

theorem Sane.consistent_iff (sane : Sane snapshot)
    (peak : other.peakEquityUsdt = snapshot.peakEquityUsdt)
    (drawdown : other.drawdownPct = snapshot.drawdownPct) :
    other.Consistent ↔ other.equityUsdt = snapshot.equityUsdt := by
  constructor
  · intro consistent
    have same := consistent.recomputed
    unfold expectedDrawdown at same
    rw [drawdown, sane.drawdown, peak, sub_right_inj] at same
    exact (div_left_inj' sane.positive.ne').mp same
  · intro equity
    exact Sane.consistent ⟨by rw [peak]; exact sane.positive,
      by rw [equity, peak]; exact sane.peak, by rw [drawdown, sane.drawdown, equity, peak]⟩

theorem Sane.of_same (sane : Sane snapshot) (peak : other.peakEquityUsdt = snapshot.peakEquityUsdt)
    (drawdown : other.drawdownPct = snapshot.drawdownPct)
    (equity : other.equityUsdt = snapshot.equityUsdt) : Sane other :=
  ⟨by rw [peak]; exact sane.positive, by rw [equity, peak]; exact sane.peak,
    by rw [drawdown, sane.drawdown, equity, peak]⟩

end Snapshot

/-! ### Applied events -/

variable {latest updated : Snapshot} {eventMs : Int}

theorem apply_account {account : AccountPayload}
    (done : account.apply eventMs latest = .ok updated) :
    updated.peakEquityUsdt = latest.peakEquityUsdt ∧
      updated.drawdownPct = latest.drawdownPct ∧
      account.reportedEquity eventMs latest = .ok updated.equityUsdt := by
  obtain ⟨balances, positions⟩ := account
  cases balances with
  | none => cases done
  | some balances =>
    cases positions with
    | none => cases done
    | some positions =>
      simp only [AccountPayload.apply, AccountPayload.reportedEquity, bind_eq_ok, pure_eq_ok]
        at done ⊢
      obtain ⟨wallet, received, current, held, rfl⟩ := done
      refine ⟨rfl, rfl, wallet, received, current, held, ?_⟩
      rw [((List.perm_insertionSort _ current).map Position.unrealizedPnlUsdt).sum_eq]

theorem apply_order {order : OrderPayload} (done : order.apply eventMs latest = .ok updated) :
    updated.peakEquityUsdt = latest.peakEquityUsdt ∧
      updated.drawdownPct = latest.drawdownPct ∧ updated.equityUsdt = latest.equityUsdt := by
  unfold OrderPayload.apply at done
  rw [bind_eq_ok] at done
  obtain ⟨name, -, done⟩ := done
  split at done
  · cases done
  · simp only [bind_eq_ok, pure_eq_ok] at done
    obtain ⟨_, -, _, -, _, -, _, -, _, -, _, -, _, -, _, -, _, -, rfl⟩ := done
    exact ⟨rfl, rfl, rfl⟩

theorem apply_event {payload : Payload} (done : applyEvent payload eventMs latest = .ok updated) :
    updated.peakEquityUsdt = latest.peakEquityUsdt ∧
      updated.drawdownPct = latest.drawdownPct ∧
      (updated.equityUsdt = latest.equityUsdt ↔
        (payload.eventType = "ACCOUNT_UPDATE" → ∀ account ∈ payload.account,
          account.reportedEquity eventMs latest = .ok latest.equityUsdt)) := by
  unfold applyEvent at done
  rw [bind_eq_ok] at done
  obtain ⟨values, applied, built⟩ := done
  obtain ⟨-, rfl⟩ := Snapshot.build_eq_ok.mp built
  unfold patch at applied
  split_ifs at applied with named
  · cases given : payload.account with
    | none =>
      rw [given] at applied
      cases applied
    | some account =>
      rw [given] at applied
      obtain ⟨peak, drawdown, reported⟩ := apply_account applied
      change account.reportedEquity eventMs latest = _ at reported
      refine ⟨peak, drawdown, fun same _ other member => ?_, fun kept => ?_⟩
      · rw [Option.mem_some_iff] at member
        rw [← member, reported, same]
      · have expected := kept named account rfl
        rw [reported] at expected
        exact Except.ok.inj expected
  · cases given : payload.order with
    | none =>
      rw [given] at applied
      cases applied
    | some order =>
      rw [given] at applied
      obtain ⟨peak, drawdown, same⟩ := apply_order applied
      exact ⟨peak, drawdown, fun _ other => absurd other named, fun _ => same⟩

/-! ### What every step keeps -/

/-- What a reconciliation has in memory fits the peak. -/
def SaneStage (peak : ℚ) : Stage → Prop
  | .parsed balances | .marked balances =>
    balances.equity ≤ peak ∧ balances.drawdown = drawdownOf peak balances.equity
  | .built snapshot => snapshot.Sane
  | _ => True

structure Sound (service : Service) : Prop where
  published : AllConsistent service
  latest : ∀ snapshot ∈ service.watch.latest, snapshot.Sane
  stored : ∀ snapshot ∈ service.store, snapshot.Sane
  peak : 0 < service.watch.peakEquityUsdt
  call : ∀ call ∈ service.watch.rest, SaneStage service.watch.peakEquityUsdt call.stage

namespace Sound

variable {service : Service} {snapshot : Snapshot}

section

variable (sound : Sound service)

include sound

theorem publish (sane : snapshot.Sane) (seen : ℕ) : Sound (service.publish snapshot seen) where
  published := fun publication member => by
    rcases List.mem_cons.mp member with rfl | before
    · exact sane.consistent
    · exact sound.published publication before
  latest := fun other member => by
    cases member
    exact sane
  stored := fun other member => by
    rcases AccountStore.mem_save member with before | rfl
    · exact sound.stored other before
    · exact sane
  peak := sound.peak
  call := sound.call

/-- Other attributes do not matter. -/
theorem of_watch (watch : Watch) (latest : watch.latest = service.watch.latest)
    (peak : watch.peakEquityUsdt = service.watch.peakEquityUsdt)
    (rest : watch.rest = service.watch.rest) : Sound { service with watch := watch } :=
  ⟨sound.published, by rw [latest]; exact sound.latest, sound.stored,
    by rw [peak]; exact sound.peak, by rw [rest, peak]; exact sound.call⟩

theorem withRest {rest : Option RestCall}
    (sane : ∀ call ∈ rest, SaneStage service.watch.peakEquityUsdt call.stage) :
    Sound (service.withRest rest) :=
  ⟨sound.published, sound.latest, sound.stored, sound.peak, sane⟩

theorem withoutRest : Sound (service.withRest none) :=
  sound.withRest fun _ member => (nomatch member)

theorem conflict : Sound service.conflict :=
  sound.of_watch _ rfl rfl rfl

theorem markStreamDisconnected (nowMs : Int) :
    Sound (service.markStreamDisconnected nowMs) := by
  have flagged : Sound { service with watch := disconnected service.watch } :=
    sound.of_watch _ rfl rfl rfl
  rcases service.markStreamDisconnected_cases nowMs with ⟨latest, found, -, same⟩ | ⟨-, same⟩
  · rw [same]
    refine flagged.publish ((sound.latest latest found).of_same ?_ ?_ ?_) _ <;> rfl
  · rw [same]
    exact flagged

theorem withPeak (equity : ℚ) {rest : Option RestCall}
    (sane : ∀ call ∈ rest, SaneStage (max service.watch.peakEquityUsdt equity) call.stage) :
    Sound ((service.withPeak equity).withRest rest) :=
  ⟨sound.published, sound.latest, sound.stored, lt_max_of_lt_left sound.peak, sane⟩

theorem receiveExchange (call : RestCall)
    (account : AccountInformation) (positions : List RawPosition) (orders : List RawOrder)
    (realizedPnl : ℚ) :
    Sound (service.receiveExchange call account positions orders realizedPnl) := by
  unfold Service.receiveExchange
  split
  · exact sound.withoutRest
  · dsimp only
    split
    · exact sound.withPeak _ fun _ member => (nomatch member)
    · refine sound.withPeak _ fun next member => ?_
      cases member
      exact ⟨le_max_right _ _, rfl⟩

theorem receiveSimulated (call : RestCall) (state : Simulated) :
    Sound (service.receiveSimulated call state) := by
  refine sound.withPeak _ fun next member => ?_
  cases member
  exact ⟨le_max_right _ _, rfl⟩

end

variable {environment : Environment}

theorem sane_restSnapshot (positive : 0 < service.watch.peakEquityUsdt) {now : Int}
    {balances : Balances}
    (fits : balances.equity ≤ service.watch.peakEquityUsdt ∧
      balances.drawdown = drawdownOf service.watch.peakEquityUsdt balances.equity)
    (valid : (restSnapshot environment service.watch now balances).Valid) :
    (restSnapshot environment service.watch now balances).Sane := by
  have lower : 0 ≤ balances.equity := valid.equity
  refine ⟨positive, fits.1, ?_⟩
  show min 1 balances.drawdown = 1 - balances.equity / service.watch.peakEquityUsdt
  have share : 0 ≤ balances.equity / service.watch.peakEquityUsdt :=
    div_nonneg lower positive.le
  have below : balances.equity / service.watch.peakEquityUsdt ≤ 1 :=
    (div_le_one positive).mpr fits.1
  rw [fits.2, drawdownOf, if_pos positive, sub_div, div_self positive.ne',
    max_eq_right (sub_nonneg.mpr below), min_eq_right (sub_le_self 1 share)]

section

variable (sound : Sound service)

include sound

theorem publishRest (call : RestCall)
    (sane : snapshot.Sane) : Sound (service.publishRest call snapshot) := by
  unfold Service.publishRest
  split_ifs
  · exact sound.publish sane _
  split
  · exact sound.publish sane _
  · rename_i latest found
    have marked : Sound { service.conflict with watch :=
        { service.conflict.watch with reconciled := false } } :=
      sound.of_watch _ rfl rfl rfl
    dsimp only
    split
    · rename_i kept built
      obtain ⟨-, rfl⟩ := Snapshot.build_eq_ok.mp built
      refine marked.publish ((sound.latest latest found).of_same ?_ ?_ ?_) _ <;> rfl
    · exact marked

theorem advanceRest {call : RestCall} (running : service.watch.rest = some call) :
    Sound (service.advanceRest environment call) := by
  have stage := sound.call call running
  obtain ⟨generation, now, readAt, current⟩ := call
  unfold Service.advanceRest
  cases current with
  | parsed balances =>
    have marked : Sound { service with watch :=
        { service.watch with lastRestAtMs := now, reconciled := true } } :=
      sound.of_watch _ rfl rfl rfl
    refine marked.withRest fun next member => ?_
    cases member
    exact stage
  | marked balances =>
    dsimp only
    split
    · exact sound.withoutRest
    · rename_i snapshot built
      obtain ⟨valid, rfl⟩ := Snapshot.build_eq_ok.mp built
      refine sound.withRest fun next member => ?_
      cases member
      exact sane_restSnapshot sound.peak stage valid
  | built snapshot => exact (sound.publishRest _ stage).withoutRest
  | begun => exact sound
  | reading account => exact sound

theorem reconnect : Sound service.reconnect := by
  have connected : Sound { service with watch :=
      { service.watch with streamConnected := true } } :=
    sound.of_watch _ rfl rfl rfl
  unfold Service.reconnect
  dsimp only
  split
  · exact connected
  · rename_i latest found
    split
    · rename_i snapshot built
      obtain ⟨-, rfl⟩ := Snapshot.build_eq_ok.mp built
      refine connected.publish ((sound.latest latest found).of_same ?_ ?_ ?_) _ <;> rfl
    · exact connected

theorem restart (nowMs : Int) : Sound (service.restart nowMs) := by
  unfold Service.restart
  split
  · exact ⟨sound.published, fun _ member => (nomatch member), sound.stored, by norm_num,
      fun _ member => (nomatch member)⟩
  · rename_i restored found
    have sane := sound.stored restored (AccountStore.mem_of_latest found)
    have fresh : Sound { service with watch := {
        latest := some restored
        peakEquityUsdt := restored.peakEquityUsdt
        conflictCount := restored.conflictCount
        lastRestAtMs := restored.lastRestAtMs } } :=
      ⟨sound.published, fun snapshot member => by cases member; exact sane, sound.stored,
        sane.positive, fun _ member => (nomatch member)⟩
    dsimp only
    split_ifs
    · exact fresh.markStreamDisconnected nowMs
    · exact sound
    · exact fresh

theorem latestSnapshot (found : service.latestSnapshot = some snapshot) : snapshot.Sane := by
  unfold Service.latestSnapshot at found
  rcases Option.or_eq_some_iff.mp found with latest | ⟨-, stored⟩
  · exact sound.latest snapshot latest
  · exact sound.stored snapshot (AccountStore.mem_of_latest stored)

theorem step {event : Event}
    (kept : EquityKept environment service event) : Sound (service.step environment event) := by
  cases event with
  | restBegin nowMs =>
    unfold Service.step
    dsimp only
    split
    · exact sound
    · refine sound.withRest fun call member => ?_
      cases member
      trivial
  | restRead account =>
    unfold Service.step
    dsimp only
    split
    · refine sound.withRest fun call member => ?_
      cases member
      trivial
    · exact sound
  | restAnswers answers =>
    unfold Service.step
    dsimp only
    split
    · exact sound.receiveExchange _ _ _ _ _
    · exact sound.receiveSimulated _ _
    · exact sound
  | restAdvance =>
    unfold Service.step
    dsimp only
    split
    · rename_i call running
      exact sound.advanceRest running
    · exact sound
  | restFail => exact sound.withoutRest
  | userEvent payload nowMs =>
    rcases service.handleUserEvent_cases environment payload nowMs with
      same | same | same | ⟨eventMs, txMs, latest, updated, applies, same⟩
    all_goals
      show Sound (service.handleUserEvent environment payload nowMs)
      rw [same]
    · exact sound
    · exact sound.markStreamDisconnected nowMs
    · exact sound.conflict.markStreamDisconnected nowMs
    · obtain ⟨peak, drawdown, equity⟩ := apply_event applies.done
      have next : Sound { service with watch := { service.watch with
          lastUserEventMs := max service.watch.lastUserEventMs eventMs
          userEventSources := Function.update service.watch.userEventSources (sourceOf payload)
            (some (eventMs, payload))
          stateGeneration := service.watch.stateGeneration + 1 } } :=
        sound.of_watch _ rfl rfl rfl
      exact next.publish ((sound.latestSnapshot applies.found).of_same peak drawdown
        (equity.mpr fun named account member =>
          kept payload nowMs rfl named account member eventMs txMs latest updated applies)) _
  | disconnect nowMs => exact sound.markStreamDisconnected nowMs
  | reconnect => exact sound.reconnect
  | restart nowMs => exact sound.restart nowMs

theorem equityKept {event : Event} (consistent : AllConsistent (service.step environment event)) :
    EquityKept environment service event := by
  rintro payload nowMs rfl named account member eventMs txMs latest updated applies
  obtain ⟨peak, drawdown, equity⟩ := apply_event applies.done
  have step : service.step environment (.userEvent payload nowMs) =
      service.publishEvent payload eventMs updated :=
    handleUserEvent_of_applies applies named
  rw [step] at consistent
  have published : updated.Consistent := consistent _ List.mem_cons_self
  exact equity.mp (((sound.latestSnapshot applies.found).consistent_iff peak drawdown).mp
    published) named account member

end

end Sound

/-! ### The main result -/

/-- Every published snapshot is consistent exactly when every applied account update reports the
equity of the latest snapshot. -/
theorem snapshots_consistent_iff (environment : Environment) (events : List Event) :
    Runs.Throughout (Service.step environment) AllConsistent {} events ↔
      Runs.Each (Service.step environment) (EquityKept environment) {} events := by
  have initially : Sound {} :=
    ⟨fun _ member => (nomatch member), fun _ member => (nomatch member),
      fun _ member => (nomatch member), by norm_num, fun _ member => (nomatch member)⟩
  exact Runs.throughout_iff_each (fun _ _ sound kept => sound.step kept)
    (fun _ sound => sound.published) (fun _ _ sound consistent => sound.equityKept consistent)
    initially

def lowerWallet : List Event :=
  [.restBegin 10, .restRead { totalMarginBalance := .value 1000 },
    .restAnswers (.exchange [] [] 0), .restAdvance, .restAdvance, .restAdvance,
    .userEvent { eventType := "ACCOUNT_UPDATE", eventMs := .value 20,
                 account := some { balances := some [some ⟨"USDT", .value 900⟩] } } 20]

/-- The update leaves the drawdown at zero. -/
theorem lowerWallet_inconsistent :
    ¬ Runs.Throughout (Service.step .testnet) AllConsistent {} lowerWallet := by
  intro throughout
  have last := throughout.last
  have published : ((Runs.run (Service.step .testnet) {} lowerWallet).publications.head?.map
      fun publication => (publication.snapshot.equityUsdt,
        publication.snapshot.peakEquityUsdt, publication.snapshot.drawdownPct)) =
      some (900, 1000, 0) := by
    decide +kernel
  obtain ⟨publication, found, same⟩ := Option.map_eq_some_iff.mp published
  have consistent := last publication (List.mem_of_head? found)
  rw [Prod.mk.injEq, Prod.mk.injEq] at same
  have recomputed := consistent.recomputed
  rw [Snapshot.expectedDrawdown, same.1, same.2.1, same.2.2] at recomputed
  norm_num at recomputed

end QuantAgent.AccountWatch
