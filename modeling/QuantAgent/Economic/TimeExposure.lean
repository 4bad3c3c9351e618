/-
This file compares the exposure figures of a ledger with integrals. The time exposure is the
integral of the indicator of an open position over the interval, and the average notional is the
integral of the notional divided by the length of the interval. The two loops treat an event
before the interval differently: one moves it to the start, the other leaves it out.
-/

import QuantAgent.Economic.CashFlow
import QuantAgent.Economic.Ledger
import QuantAgent.Library.Ranking
import QuantAgent.Library.StepFunction

namespace QuantAgent.Economic

open Portfolio Ranking

/-! ### The time exposure -/

/-- The running values of `_time_exposure_ms`. -/
structure ExposureWalk where
  position : ℚ
  cursor : Int
  exposed : Int

namespace ExposureWalk

/-- `min(max(event.timestamp_ms, start_ms), end_ms)`. -/
def eventTime (startMs endMs : Int) (event : TradeEvent) : Int :=
  min (max event.timestampMs startMs) endMs

/-- One turn of the loop. -/
def visit (startMs endMs : Int) (walk : ExposureWalk) (event : TradeEvent) : ExposureWalk where
  position := event.positionAfter
  cursor := max walk.cursor (eventTime startMs endMs event)
  exposed :=
    if walk.position ≠ 0 ∧ walk.cursor < eventTime startMs endMs event then
      walk.exposed + (eventTime startMs endMs event - walk.cursor)
    else walk.exposed

/-- The segment after the loop. -/
def close (endMs : Int) (walk : ExposureWalk) : Int :=
  if walk.position ≠ 0 ∧ walk.cursor < endMs then walk.exposed + (endMs - walk.cursor)
  else walk.exposed

end ExposureWalk

def timeExposureMs (events : List TradeEvent) (startMs endMs : Int) : Int :=
  (events.foldl (ExposureWalk.visit startMs endMs) ⟨0, startMs, 0⟩).close endMs

/-! ### The notional exposure -/

structure NotionalPoint where
  timestampMs : Int
  sequence : Int
  notional : ℚ

/-- `abs(event.position_after) * event.price`. -/
def TradeEvent.notionalAfter (event : TradeEvent) : ℚ := |event.positionAfter| * event.price

/-- `start_ms <= timestamp_ms <= end_ms`. -/
def Within (startMs endMs timestampMs : Int) : Prop :=
  startMs ≤ timestampMs ∧ timestampMs ≤ endMs

instance (startMs endMs timestampMs : Int) : Decidable (Within startMs endMs timestampMs) :=
  inferInstanceAs (Decidable (_ ∧ _))

/-- The points of the events inside the interval, numbered from a first number on. -/
def ledgerPoints (startMs endMs : Int) : Int → List TradeEvent → List NotionalPoint
  | _, [] => []
  | sequence, event :: rest =>
    if Within startMs endMs event.timestampMs then
      ⟨event.timestampMs, sequence, event.notionalAfter⟩ ::
        ledgerPoints startMs endMs (sequence + 1) rest
    else ledgerPoints startMs endMs (sequence + 1) rest

/-- A candle close is observable before any new open-time ledger event, so it sorts first. -/
def curvePoint (mark : Int × ℚ) : NotionalPoint := ⟨mark.1, 0, mark.2⟩

/-- One turn of the loop over the curve. -/
def checkedPoint (startMs endMs : Int) (mark : Int × ℚ) : Except String NotionalPoint := do
  refuse (¬ Within startMs endMs mark.1) "notional curve timestamp lies outside the interval"
  refuse (mark.2 < 0) "notional curve values must be finite and nonnegative"
  return curvePoint mark

/-- `key=lambda item: (item[0], item[1])`. -/
def pointKey (point : NotionalPoint) : Int ×ₗ Int := toLex (point.timestampMs, point.sequence)

/-- The running values of `_notional_exposure_stats`. -/
structure NotionalWalk where
  cursor : Int
  current : ℚ
  area : ℚ
  maximum : ℚ

namespace NotionalWalk

/-- One turn of the loop. -/
def visit (walk : NotionalWalk) (point : NotionalPoint) : NotionalWalk :=
  let reached :=
    if walk.cursor < point.timestampMs then
      { walk with
        area := walk.area + walk.current * (point.timestampMs - walk.cursor)
        cursor := point.timestampMs }
    else walk
  { reached with
    current := point.notional
    maximum := max reached.maximum point.notional }

/-- The area with the segment after the loop. -/
def close (endMs : Int) (walk : NotionalWalk) : ℚ :=
  if walk.cursor < endMs then walk.area + walk.current * (endMs - walk.cursor) else walk.area

end NotionalWalk

/-- The timeline the loop walks along. -/
def notionalPoints (events : List TradeEvent) (marks : List NotionalPoint) (startMs endMs : Int) :
    List NotionalPoint :=
  sortedBy pointKey
    (⟨startMs, -1, 0⟩ :: (ledgerPoints startMs endMs 1 events ++ marks))

/-- `_notional_exposure_stats`: the average and the maximum. -/
def notionalExposureStats (events : List TradeEvent) (notionalCurve : List (Int × ℚ))
    (startMs endMs : Int) : Except String (ℚ × ℚ) := do
  let marks ← notionalCurve.mapM (checkedPoint startMs endMs)
  let walk := (notionalPoints events marks startMs endMs).foldl NotionalWalk.visit
    ⟨startMs, 0, 0, 0⟩
  refuse (endMs - startMs = 0) "float division by zero"
  return (walk.close endMs / (endMs - startMs), walk.maximum)

/-! ### What the figures are about -/

section Held

open Classical in
noncomputable def upTo (events : List TradeEvent) (moment : ℝ) : List TradeEvent :=
  events.filter fun event => (event.timestampMs : ℝ) ≤ moment

noncomputable def recordedPosition (events : List TradeEvent) (moment : ℝ) : ℚ :=
  ((upTo events moment).getLast?.map TradeEvent.positionAfter).getD 0

noncomputable def openIndicator (events : List TradeEvent) (moment : ℝ) : ℝ :=
  if recordedPosition events moment = 0 then 0 else 1

open Classical in
noncomputable def lastMark (notionalCurve : List (Int × ℚ)) (moment : ℝ) : Option (Int × ℚ) :=
  lastBy Prod.fst (notionalCurve.filter fun mark => (mark.1 : ℝ) ≤ moment)

noncomputable def notionalAt (events : List TradeEvent) (notionalCurve : List (Int × ℚ))
    (moment : ℝ) : ℚ :=
  match (upTo events moment).getLast?, lastMark notionalCurve moment with
  | none, none => 0
  | none, some mark => mark.2
  | some event, none => event.notionalAfter
  | some event, some mark => if event.timestampMs < mark.1 then mark.2 else event.notionalAfter

end Held

/-- The events of a ledger are in the order of their times. -/
def ChronologicalLedger (events : List TradeEvent) : Prop :=
  events.Pairwise fun first second => first.timestampMs ≤ second.timestampMs

/-! ### The loop over the events -/

open StepFunction MeasureTheory

/-- The time the loop takes an event at, as a real moment. -/
noncomputable def clampedTime (startMs endMs : Int) (event : TradeEvent) : ℝ :=
  (ExposureWalk.eventTime startMs endMs event : Int)

noncomputable def opens (event : TradeEvent) : ℝ := if event.positionAfter = 0 then 0 else 1

section TimeExposure

variable {events : List TradeEvent} {startMs endMs : Int}

theorem eventTime_mono {first second : TradeEvent}
    (ordered : first.timestampMs ≤ second.timestampMs) :
    ExposureWalk.eventTime startMs endMs first ≤ ExposureWalk.eventTime startMs endMs second :=
  min_le_min_right _ (max_le_max_right _ ordered)

theorem eventTime_within (interval : startMs ≤ endMs) (event : TradeEvent) :
    Within startMs endMs (ExposureWalk.eventTime startMs endMs event) :=
  ⟨le_min (le_max_right _ _) interval, min_le_right _ _⟩

theorem clampedTime_le_iff {moment : ℝ} (event : TradeEvent) (after : (startMs : ℝ) < moment)
    (before : moment < endMs) :
    clampedTime startMs endMs event ≤ moment ↔ (event.timestampMs : ℝ) ≤ moment := by
  unfold clampedTime ExposureWalk.eventTime
  push_cast
  rw [min_le_iff, max_le_iff]
  constructor
  · rintro (⟨happened, -⟩ | ended)
    · exact happened
    · exact absurd before (not_lt.mpr ended)
  · exact fun happened => .inl ⟨happened, after.le⟩

/-- The loop sums up the area under the indicator of the position it carries. -/
theorem close_foldl_visit (walk : ExposureWalk) (ordered : ChronologicalLedger events)
    (ahead : ∀ event ∈ events, walk.cursor ≤ ExposureWalk.eventTime startMs endMs event)
    (upToEnd : walk.cursor ≤ endMs) :
    (((events.foldl (ExposureWalk.visit startMs endMs) walk).close endMs : Int) : ℝ) =
      walk.exposed + area (clampedTime startMs endMs) opens walk.cursor
        (if walk.position = 0 then 0 else 1) events endMs := by
  induction events generalizing walk with
  | nil =>
    rw [List.foldl_nil, area]
    unfold ExposureWalk.close
    split_ifs with held flat flat
    · exact absurd flat held.1
    · push_cast
      ring
    · ring
    · have ended : walk.cursor = endMs :=
        le_antisymm upToEnd (not_lt.mp fun open_ => held ⟨flat, open_⟩)
      rw [ended]
      ring
  | cons event rest inductionHypothesis =>
    obtain ⟨later, orderedRest⟩ := List.pairwise_cons.mp ordered
    have reached := ahead event List.mem_cons_self
    have cursor : (ExposureWalk.visit startMs endMs walk event).cursor =
        ExposureWalk.eventTime startMs endMs event := max_eq_right reached
    rw [List.foldl_cons, inductionHypothesis _ orderedRest ?_ ?_, cursor, area]
    · have exposed : ((ExposureWalk.visit startMs endMs walk event).exposed : ℝ) =
          walk.exposed + (if walk.position = 0 then 0 else 1) *
            (clampedTime startMs endMs event - walk.cursor) := by
        unfold ExposureWalk.visit clampedTime
        dsimp only
        split_ifs with held flat flat
        · exact absurd flat held.1
        · push_cast
          ring
        · ring
        · have still : walk.cursor = ExposureWalk.eventTime startMs endMs event :=
            le_antisymm reached (not_lt.mp fun passed => held ⟨flat, passed⟩)
          rw [still]
          ring
      rw [exposed, add_assoc]
      rfl
    · intro other member
      rw [cursor]
      exact eventTime_mono (later other member)
    · rw [cursor]
      exact min_le_right _ _

theorem timeExposureMs_eq_integral (ordered : ChronologicalLedger events)
    (interval : startMs ≤ endMs) :
    (timeExposureMs events startMs endMs : ℝ) =
      ∫ moment in (startMs : ℝ)..endMs, openIndicator events moment := by
  have begun : (startMs : ℝ) ≤ endMs := by exact_mod_cast interval
  have ahead : ∀ event ∈ events, startMs ≤ ExposureWalk.eventTime startMs endMs event :=
    fun event _ => (eventTime_within interval event).1
  have walked := close_foldl_visit ⟨0, startMs, 0⟩ ordered ahead interval
  have chronological : Chronological (clampedTime startMs endMs) events :=
    ordered.imp fun earlier => by
      unfold clampedTime
      exact_mod_cast eventTime_mono earlier
  have inside : ∀ event ∈ events, (startMs : ℝ) ≤ clampedTime startMs endMs event ∧
      clampedTime startMs endMs event ≤ endMs := by
    intro event _
    unfold clampedTime
    exact_mod_cast eventTime_within interval event
  have same : Set.EqOn (valueAt (clampedTime startMs endMs) opens 0 events)
      (openIndicator events) (Set.uIoo (startMs : ℝ) endMs) := by
    intro moment bounds
    rw [Set.uIoo_of_le begun] at bounds
    unfold valueAt openIndicator recordedPosition upTo
    simp only [clampedTime_le_iff _ bounds.1 bounds.2]
    cases (events.filter fun event => (event.timestampMs : ℝ) ≤ moment).getLast? with
    | none => exact (if_pos rfl).symm
    | some event => rfl
  rw [← intervalIntegral.integral_congr_uIoo same, integral_valueAt begun chronological inside]
  unfold timeExposureMs
  rw [walked]
  simp

end TimeExposure

/-! ### The loop over the timeline -/

noncomputable section Timeline

def pointTime (point : NotionalPoint) : ℝ := point.timestampMs

def pointNotional (point : NotionalPoint) : ℝ := point.notional

variable {events : List TradeEvent} {notionalCurve : List (Int × ℚ)} {startMs endMs : Int}
  {moment : ℝ}

theorem pointKey_le_iff (first second : NotionalPoint) :
    pointKey first ≤ pointKey second ↔
      first.timestampMs < second.timestampMs ∨
        first.timestampMs = second.timestampMs ∧ first.sequence ≤ second.sequence :=
  Prod.Lex.toLex_le_toLex

theorem notional_close_foldl_visit (walk : NotionalWalk) {points : List NotionalPoint}
    (ordered : Chronological pointTime points)
    (ahead : ∀ point ∈ points, walk.cursor ≤ point.timestampMs ∧ point.timestampMs ≤ endMs)
    (upToEnd : walk.cursor ≤ endMs) :
    (((points.foldl NotionalWalk.visit walk).close endMs : ℚ) : ℝ) =
      walk.area + area pointTime pointNotional walk.cursor walk.current points endMs := by
  induction points generalizing walk with
  | nil =>
    rw [List.foldl_nil, area]
    unfold NotionalWalk.close
    split_ifs with open_
    · push_cast
      ring
    · rw [le_antisymm upToEnd (not_lt.mp open_)]
      ring
  | cons point rest inductionHypothesis =>
    obtain ⟨later, orderedRest⟩ := List.pairwise_cons.mp ordered
    obtain ⟨reached, inside⟩ := ahead point List.mem_cons_self
    have cursor : (walk.visit point).cursor = point.timestampMs := by
      unfold NotionalWalk.visit
      dsimp only
      split_ifs with passed
      · rfl
      · exact le_antisymm reached (not_lt.mp passed)
    have summed : ((walk.visit point).area : ℝ) =
        walk.area + walk.current * (pointTime point - walk.cursor) := by
      unfold NotionalWalk.visit pointTime
      dsimp only
      split_ifs with passed
      · push_cast
        ring
      · rw [le_antisymm reached (not_lt.mp passed)]
        ring
    rw [List.foldl_cons, inductionHypothesis _ orderedRest ?_ (cursor ▸ inside), cursor, area,
      summed, add_assoc]
    · rfl
    · intro other member
      rw [cursor]
      refine ⟨?_, (ahead other (List.mem_cons_of_mem _ member)).2⟩
      have after := later other member
      unfold pointTime at after
      exact_mod_cast after

/-! ### The last point of the timeline -/

theorem mem_ledgerPoints {point : NotionalPoint} {sequence : Int}
    (member : point ∈ ledgerPoints startMs endMs sequence events) :
    Within startMs endMs point.timestampMs := by
  induction events generalizing sequence with
  | nil => cases member
  | cons event rest inductionHypothesis =>
    rw [ledgerPoints] at member
    split_ifs at member with inside
    · rcases List.mem_cons.mp member with rfl | later
      · exact inside
      · exact inductionHypothesis later
    · exact inductionHypothesis member

def eventsFrom (startMs : Int) (events : List TradeEvent) : List TradeEvent :=
  events.filter fun event => startMs ≤ event.timestampMs

theorem upTo_cons (event : TradeEvent) (rest : List TradeEvent) (moment : ℝ) :
    upTo (event :: rest) moment =
      if (event.timestampMs : ℝ) ≤ moment then event :: upTo rest moment
      else upTo rest moment := by
  unfold upTo
  rw [List.filter_cons]
  simp only [decide_eq_true_eq]

/-- The point of an event, with a number from a first one on. -/
def PointOf (sequence : Int) : Option TradeEvent → Option NotionalPoint → Prop
  | none, none => True
  | some event, some point =>
    point.timestampMs = event.timestampMs ∧ sequence ≤ point.sequence ∧
      point.notional = event.notionalAfter
  | _, _ => False

theorem PointOf.weaken {first second : Int} (lower : first ≤ second) :
    ∀ {event : Option TradeEvent} {point : Option NotionalPoint},
      PointOf second event point → PointOf first event point
  | none, none, _ => trivial
  | some _, some _, ⟨time, number, notional⟩ => ⟨time, lower.trans number, notional⟩

theorem mem_eventsFrom_upTo {event : TradeEvent}
    (last : (upTo (eventsFrom startMs events) moment).getLast? = some event) :
    event ∈ events ∧ startMs ≤ event.timestampMs := by
  have member := List.mem_of_getLast? last
  unfold upTo eventsFrom at member
  rw [List.filter_filter] at member
  obtain ⟨recorded, kept⟩ := List.mem_filter.mp member
  simp only [Bool.and_eq_true, decide_eq_true_eq] at kept
  exact ⟨recorded, kept.2⟩

theorem pointOf_lastBy_ledgerPoints (ordered : ChronologicalLedger events)
    (before : moment < endMs) (sequence : Int) :
    PointOf sequence (upTo (eventsFrom startMs events) moment).getLast?
      (lastBy pointKey
        ((ledgerPoints startMs endMs sequence events).filter (pointTime · ≤ moment))) := by
  induction events generalizing sequence with
  | nil => exact trivial
  | cons event rest inductionHypothesis =>
    obtain ⟨later, orderedRest⟩ := List.pairwise_cons.mp ordered
    have others := inductionHypothesis orderedRest (sequence + 1)
    by_cases counted : startMs ≤ event.timestampMs ∧ (event.timestampMs : ℝ) ≤ moment
    · have inside : Within startMs endMs event.timestampMs := by
        refine ⟨counted.1, ?_⟩
        exact_mod_cast counted.2.trans before.le
      have happened : pointTime ⟨event.timestampMs, sequence, event.notionalAfter⟩ ≤ moment :=
        counted.2
      rw [ledgerPoints, if_pos inside, List.filter_cons_of_pos (by simpa using happened),
        lastBy, eventsFrom, List.filter_cons_of_pos (by simpa using counted.1), upTo_cons,
        if_pos counted.2, List.getLast?_cons, ← eventsFrom]
      cases last : (upTo (eventsFrom startMs rest) moment).getLast? with
      | none =>
        rw [last] at others
        cases found : lastBy pointKey
          ((ledgerPoints startMs endMs (sequence + 1) rest).filter (pointTime · ≤ moment)) with
        | none => exact ⟨rfl, le_refl _, rfl⟩
        | some point =>
          rw [found] at others
          exact others.elim
      | some lastEvent =>
        rw [last] at others
        cases found : lastBy pointKey
          ((ledgerPoints startMs endMs (sequence + 1) rest).filter (pointTime · ≤ moment)) with
        | none =>
          rw [found] at others
          exact others.elim
        | some point =>
          rw [found] at others
          obtain ⟨time, number, notional⟩ := others
          have above : pointKey ⟨event.timestampMs, sequence, event.notionalAfter⟩ ≤
              pointKey point := by
            rw [pointKey_le_iff, time]
            rcases (later lastEvent (mem_eventsFrom_upTo last).1).lt_or_eq with less | same
            · exact .inl less
            · exact .inr ⟨same, (Int.le_add_one (le_refl _)).trans number⟩
          have chosen : laterBy pointKey
              (some ⟨event.timestampMs, sequence, event.notionalAfter⟩) (some point) =
                some point := if_pos above
          rw [chosen]
          exact ⟨time, (Int.le_add_one (le_refl _)).trans number, notional⟩
    · have dropped : upTo (eventsFrom startMs (event :: rest)) moment =
          upTo (eventsFrom startMs rest) moment := by
        unfold eventsFrom
        rw [List.filter_cons]
        split_ifs with begun
        · rw [upTo_cons, if_neg fun happened => counted ⟨by simpa using begun, happened⟩]
        · rfl
      have unseen : (ledgerPoints startMs endMs sequence (event :: rest)).filter
          (pointTime · ≤ moment) =
            (ledgerPoints startMs endMs (sequence + 1) rest).filter (pointTime · ≤ moment) := by
        rw [ledgerPoints]
        split_ifs with inside
        · exact List.filter_cons_of_neg fun happened =>
            counted ⟨inside.1, of_decide_eq_true happened⟩
        · rfl
      rw [dropped, unseen]
      exact others.weaken (Int.le_add_one (le_refl _))

theorem lastBy_curvePoints (notionalCurve : List (Int × ℚ)) (moment : ℝ) :
    lastBy pointKey ((notionalCurve.map curvePoint).filter (pointTime · ≤ moment)) =
      (lastMark notionalCurve moment).map curvePoint := by
  rw [List.filter_map, lastBy_map]
  unfold lastMark
  congr 1
  refine lastBy_congr ?_ _
  intro first second
  rw [Function.comp_apply, Function.comp_apply, pointKey_le_iff]
  unfold curvePoint
  dsimp only
  rw [and_iff_left (le_refl _), le_iff_lt_or_eq]

/-- The marks of a curve lie inside the interval and are not negative. -/
def Admitted (startMs endMs : Int) (notionalCurve : List (Int × ℚ)) : Prop :=
  ∀ mark ∈ notionalCurve, Within startMs endMs mark.1 ∧ 0 ≤ mark.2

theorem mapM_checkedPoint_eq_ok {marks : List NotionalPoint} :
    notionalCurve.mapM (checkedPoint startMs endMs) = .ok marks ↔
      Admitted startMs endMs notionalCurve ∧ marks = notionalCurve.map curvePoint := by
  have spec : ∀ (mark : Int × ℚ) (point : NotionalPoint),
      checkedPoint startMs endMs mark = .ok point ↔
        (Within startMs endMs mark.1 ∧ 0 ≤ mark.2) ∧ point = curvePoint mark := by
    intro mark point
    unfold checkedPoint
    simp only [refuse_bind_eq_ok, not_not, not_lt, pure_eq_ok]
    rw [and_assoc, eq_comm (a := curvePoint mark)]
  exact mapM_eq_ok_iff_of spec

theorem mem_notionalPoints {point : NotionalPoint} (interval : startMs ≤ endMs)
    (admitted : Admitted startMs endMs notionalCurve)
    (member : point ∈ notionalPoints events (notionalCurve.map curvePoint) startMs endMs) :
    Within startMs endMs point.timestampMs := by
  have listed := (sortedBy_perm pointKey _).mem_iff.mp member
  rcases List.mem_cons.mp listed with rfl | listed
  · exact ⟨le_refl _, interval⟩
  rcases List.mem_append.mp listed with recorded | marked
  · exact mem_ledgerPoints recorded
  · obtain ⟨mark, drawn, rfl⟩ := List.mem_map.mp marked
    exact (admitted mark drawn).1

theorem chronological_notionalPoints (events : List TradeEvent) (marks : List NotionalPoint)
    (startMs endMs : Int) :
    Chronological pointTime (notionalPoints events marks startMs endMs) := by
  refine (sortedBy_pairwise pointKey _).imp fun {first second} before => ?_
  unfold pointTime
  rcases (pointKey_le_iff first second).mp before with less | ⟨same, -⟩
  · exact_mod_cast less.le
  · rw [same]

theorem valueAt_notionalPoints (ordered : ChronologicalLedger events)
    (admitted : Admitted startMs endMs notionalCurve) (after : (startMs : ℝ) < moment)
    (before : moment < endMs) :
    valueAt pointTime pointNotional 0
        (notionalPoints events (notionalCurve.map curvePoint) startMs endMs) moment =
      notionalAt (eventsFrom startMs events) notionalCurve moment := by
  have begun : pointTime ⟨startMs, -1, 0⟩ ≤ moment := after.le
  unfold valueAt notionalPoints
  rw [filter_sortedBy, Ranking.getLast?_sortedBy,
    List.filter_cons_of_pos (by simpa using begun), List.filter_append, lastBy,
    lastBy_append, lastBy_curvePoints]
  have recorded : PointOf 1 (upTo (eventsFrom startMs events) moment).getLast?
      (lastBy pointKey
        ((ledgerPoints startMs endMs 1 events).filter (pointTime · ≤ moment))) :=
    pointOf_lastBy_ledgerPoints ordered before 1
  have marked : ∀ mark, lastMark notionalCurve moment = some mark → startMs ≤ mark.1 := by
    intro mark last
    exact (admitted mark (List.mem_of_mem_filter (lastBy_mem last))).1.1
  have afterStart : ∀ point : NotionalPoint, startMs ≤ point.timestampMs → 0 ≤ point.sequence →
      laterBy pointKey (some ⟨startMs, -1, 0⟩) (some point) = some point := by
    intro point late numbered
    refine if_pos ((pointKey_le_iff _ _).mpr ?_)
    rcases late.lt_or_eq with less | same
    · exact .inl less
    · exact .inr ⟨same, by linarith⟩
  unfold notionalAt
  cases lastEvent : (upTo (eventsFrom startMs events) moment).getLast? with
  | none =>
    rw [lastEvent] at recorded
    cases found : lastBy pointKey
        ((ledgerPoints startMs endMs 1 events).filter (pointTime · ≤ moment)) with
    | some point =>
      rw [found] at recorded
      exact recorded.elim
    | none =>
      cases last : lastMark notionalCurve moment with
      | none => rfl
      | some mark =>
        have chosen := afterStart (curvePoint mark) (marked mark last) (le_refl _)
        show ((laterBy pointKey (some ⟨startMs, -1, 0⟩)
          (some (curvePoint mark))).map pointNotional).getD 0 = _
        rw [chosen]
        rfl
  | some event =>
    rw [lastEvent] at recorded
    cases found : lastBy pointKey
        ((ledgerPoints startMs endMs 1 events).filter (pointTime · ≤ moment)) with
    | none =>
      rw [found] at recorded
      exact recorded.elim
    | some point =>
      rw [found] at recorded
      obtain ⟨time, number, notional⟩ := recorded
      have late : startMs ≤ point.timestampMs := time ▸ (mem_eventsFrom_upTo lastEvent).2
      have numbered : 0 ≤ point.sequence := by linarith
      have carried : pointNotional point = event.notionalAfter := by
        unfold pointNotional
        rw [notional]
      cases last : lastMark notionalCurve moment with
      | none =>
        show ((laterBy pointKey (some ⟨startMs, -1, 0⟩)
          (some point)).map pointNotional).getD 0 = _
        rw [afterStart point late numbered]
        exact carried
      | some mark =>
        -- A mark is numbered below every event, so it counts only when strictly later.
        have later : pointKey point ≤ pointKey (curvePoint mark) ↔
            event.timestampMs < mark.1 := by
          rw [pointKey_le_iff, time]
          unfold curvePoint
          dsimp only
          constructor
          · rintro (less | ⟨-, below⟩)
            · exact less
            · linarith
          · exact .inl
        show ((laterBy pointKey (some ⟨startMs, -1, 0⟩)
          (if pointKey point ≤ pointKey (curvePoint mark) then some (curvePoint mark)
            else some point)).map pointNotional).getD 0 = _
        dsimp only
        by_cases strictly : event.timestampMs < mark.1
        · rw [if_pos (later.mpr strictly), if_pos strictly,
            afterStart (curvePoint mark) (marked mark last) (le_refl _)]
          rfl
        · rw [if_neg (later.not.mpr strictly), if_neg strictly, afterStart point late numbered]
          exact carried

theorem average_mul_length (ordered : ChronologicalLedger events)
    (interval : startMs ≤ endMs) {average maximum : ℚ}
    (done : notionalExposureStats events notionalCurve startMs endMs = .ok (average, maximum)) :
    (average : ℝ) * (endMs - startMs) =
      ∫ moment in (startMs : ℝ)..endMs,
        (notionalAt (eventsFrom startMs events) notionalCurve moment : ℝ) := by
  unfold notionalExposureStats at done
  obtain ⟨marks, drawn, rest⟩ := bind_eq_ok.mp done
  obtain ⟨admitted, rfl⟩ := mapM_checkedPoint_eq_ok.mp drawn
  obtain ⟨positive, values⟩ := refuse_bind_eq_ok.mp rest
  obtain ⟨rfl, -⟩ := Prod.mk.inj (Except.ok.inj values)
  have begun : (startMs : ℝ) ≤ endMs := by exact_mod_cast interval
  have length : ((endMs : ℝ) - startMs) ≠ 0 := by exact_mod_cast positive
  have within : ∀ point ∈ notionalPoints events (notionalCurve.map curvePoint) startMs endMs,
      Within startMs endMs point.timestampMs :=
    fun point member => mem_notionalPoints interval admitted member
  have walked := notional_close_foldl_visit ⟨startMs, 0, 0, 0⟩
    (chronological_notionalPoints events (notionalCurve.map curvePoint) startMs endMs) within
    interval
  have same : Set.EqOn
      (valueAt pointTime pointNotional 0
        (notionalPoints events (notionalCurve.map curvePoint) startMs endMs))
      (fun moment => (notionalAt (eventsFrom startMs events) notionalCurve moment : ℝ))
      (Set.uIoo (startMs : ℝ) endMs) := by
    intro moment bounds
    rw [Set.uIoo_of_le begun] at bounds
    exact valueAt_notionalPoints ordered admitted bounds.1 bounds.2
  have inside : ∀ point ∈ notionalPoints events (notionalCurve.map curvePoint) startMs endMs,
      (startMs : ℝ) ≤ pointTime point ∧ pointTime point ≤ endMs := by
    intro point member
    unfold pointTime
    exact_mod_cast within point member
  rw [← intervalIntegral.integral_congr_uIoo same,
    integral_valueAt begun (chronological_notionalPoints _ _ _ _) inside]
  push_cast
  rw [div_mul_cancel₀ _ length, walked]
  simp

theorem notionalExposureStats_succeeds (events : List TradeEvent) (positive : startMs < endMs)
    (admitted : Admitted startMs endMs notionalCurve) :
    ∃ average maximum,
      notionalExposureStats events notionalCurve startMs endMs = .ok (average, maximum) := by
  unfold notionalExposureStats
  refine ⟨_, _, bind_eq_ok.mpr
    ⟨_, mapM_checkedPoint_eq_ok.mpr ⟨admitted, rfl⟩, refuse_bind_eq_ok.mpr ⟨?_, rfl⟩⟩⟩
  exact (sub_pos.mpr positive).ne'

end Timeline

/-! ### The position a replay gives -/

section Replayed

variable {events : List TradeEvent} {asset : String}

def RecordsPosition (events : List TradeEvent) : Prop :=
  ∀ earlier event later, events = earlier ++ event :: later →
    event.positionAfter = netPosition (earlier ++ [event])

def OneAsset (asset : String) (events : List TradeEvent) : Prop :=
  ∀ event ∈ events,
    KeyedList.lookup Prod.fst event.metadata "asset" = some ("asset", .text asset)

theorem upTo_prefix (ordered : ChronologicalLedger events) (moment : ℝ) :
    upTo events moment <+: events := by
  induction events with
  | nil => exact List.prefix_rfl
  | cons event rest inductionHypothesis =>
    obtain ⟨later, orderedRest⟩ := List.pairwise_cons.mp ordered
    rw [upTo_cons]
    split_ifs with happened
    · exact (List.prefix_cons_inj event).mpr (inductionHypothesis orderedRest)
    · have none : upTo rest moment = [] := by
        unfold upTo
        rw [List.filter_eq_nil_iff]
        intro other member
        have after : (event.timestampMs : ℝ) ≤ other.timestampMs := by
          exact_mod_cast later other member
        simpa using (not_le.mp happened).trans_le after
      rw [none]
      exact List.nil_prefix

theorem recordedPosition_eq_netPosition (ordered : ChronologicalLedger events)
    (records : RecordsPosition events) (moment : ℝ) :
    recordedPosition events moment = netPosition (upTo events moment) := by
  obtain ⟨rest, whole⟩ := upTo_prefix ordered moment
  unfold recordedPosition
  rcases List.eq_nil_or_concat (upTo events moment) with empty | ⟨earlier, event, ends⟩
  · rw [empty]
    rfl
  · rw [ends, List.concat_eq_append] at whole ⊢
    rw [List.getLast?_concat]
    refine records earlier event rest ?_
    rw [← whole, List.append_assoc]
    rfl

variable {event : TradeEvent} {portfolio later : Portfolio}

theorem accepted_of_replay
    (ofAsset : KeyedList.lookup Prod.fst event.metadata "asset" = some ("asset", .text asset))
    (done : (replay event).perform portfolio = (.ok (), later)) :
    (restoredCall event asset).method.perform portfolio = (.ok event, later) := by
  unfold replay at done
  rw [ofAsset] at done
  dsimp only at done
  rw [Account.perform_checked_bind] at done
  cases named : refuse (blank asset) "Restored event requires an asset string" with
  | error fault =>
    rw [named] at done
    cases done
  | ok =>
    rw [named, Account.perform_bind] at done
    cases performed : (restoredCall event asset).method.perform portfolio with
    | mk outcome result =>
      rw [performed] at done
      cases outcome with
      | error fault => cases done
      | ok actual =>
        dsimp only at done
        unfold refuse at done
        split_ifs at done with differs
        · cases done
        · cases done
          rw [not_not.mp differs]

theorem position_of_accepted
    (accepted : (restoredCall event asset).method.perform portfolio =
      (.ok event, later)) :
    later.tradeHistory = portfolio.tradeHistory ++ [event] ∧
      event.positionAfter = later.getPositionQuantity asset ∧
      later.getPositionQuantity asset =
        portfolio.getPositionQuantity asset + event.signedQuantity ∧
      ∀ last ∈ portfolio.tradeHistory.getLast?, last.timestampMs ≤ event.timestampMs := by
  obtain ⟨applied, history⟩ := LedgerCall.apply_of_accepted accepted
  refine ⟨history, ?_⟩
  unfold restoredCall at applied
  split_ifs at applied with settlement
  · obtain ⟨input, -, -, rfl⟩ := applyFunding_eq_ok.mp applied
    have appended : portfolio.fundingEvent event.timestampMs asset event.fundingUsdt event.price =
        event := by simpa using history
    refine ⟨?_, ?_, (validateEventInput_eq_ok.mp input).2.1⟩
    · exact congrArg TradeEvent.positionAfter appended.symm
    · unfold TradeEvent.signedQuantity
      rw [settlement, add_zero]
      rfl
  · obtain ⟨input, -, ⟨quantity, price, -⟩, newQty, newEntry, realized, positions, outcome, placed,
      -, rfl⟩ := applyTrade_eq_ok.mp applied
    obtain ⟨-, moved, -⟩ := (tradeOutcome_spec portfolio quantity price).1 _ outcome
    have appended := List.singleton_inj.mp (List.append_cancel_left history)
    have recorded : newQty = event.positionAfter := congrArg TradeEvent.positionAfter appended
    refine ⟨?_, ?_, (validateEventInput_eq_ok.mp input).2.1⟩
    · rw [← recorded]
      exact (positionsAfter_quantity placed).symm
    · have signed : ∀ trade : TradeRequest, event.action = trade.action →
          event.quantity = trade.quantity → event.signedQuantity = trade.signedQuantity :=
        fun trade action quantity =>
          signedQuantity_eq_request action quantity (action ▸ settlement)
      rw [positionsAfter_quantity placed]
      exact moved.trans (congrArg _ (signed _ rfl rfl).symm)

/-- What a replay of a ledger of one asset leaves, from an empty account. -/
structure Replayed (asset : String) (events : List TradeEvent) (portfolio : Portfolio) : Prop where
  history : portfolio.tradeHistory = events
  position : portfolio.getPositionQuantity asset = netPosition events
  records : RecordsPosition events
  chronological : ChronologicalLedger events

theorem recordsPosition_concat (records : RecordsPosition events)
    (own : event.positionAfter = netPosition (events ++ [event])) :
    RecordsPosition (events ++ [event]) := by
  intro earlier other later split
  rcases List.eq_nil_or_concat later with rfl | ⟨before, last, rfl⟩
  · obtain ⟨rfl, same⟩ := List.append_inj' split rfl
    rw [← List.singleton_inj.mp same]
    exact own
  · rw [List.concat_eq_append, ← List.cons_append, ← List.append_assoc] at split
    exact records earlier other before (List.append_inj' split rfl).1

theorem chronological_concat (chronological : ChronologicalLedger events)
    (late : ∀ last ∈ events.getLast?, last.timestampMs ≤ event.timestampMs) :
    ChronologicalLedger (events ++ [event]) := by
  unfold ChronologicalLedger
  refine List.pairwise_append.mpr ⟨chronological, List.pairwise_singleton _ _, ?_⟩
  intro earlier member other only
  obtain rfl := List.mem_singleton.mp only
  rcases List.eq_nil_or_concat events with rfl | ⟨before, last, rfl⟩
  · cases member
  · rw [List.concat_eq_append] at member late chronological
    have final := late last (by rw [List.getLast?_concat]; rfl)
    rcases List.mem_append.mp member with inside | same
    · exact ((List.pairwise_append.mp chronological).2.2 earlier inside last
        List.mem_cons_self).trans final
    · rw [List.mem_singleton.mp same]
      exact final

theorem Replayed.accept (replayed : Replayed asset events portfolio)
    (accepted : (restoredCall event asset).method.perform portfolio =
      (.ok event, later)) : Replayed asset (events ++ [event]) later := by
  obtain ⟨history, recorded, moved, late⟩ := position_of_accepted accepted
  have position : later.getPositionQuantity asset = netPosition (events ++ [event]) := by
    rw [moved, replayed.position, netPosition_append]
  refine ⟨by rw [history, replayed.history], position,
    recordsPosition_concat replayed.records (recorded.trans position), ?_⟩
  rw [replayed.history] at late
  exact chronological_concat replayed.chronological late

theorem replayed_of_perform {start : Portfolio} (fresh : Replayed asset [] start)
    (oneAsset : OneAsset asset events)
    (done : Account.perform (forM events replay) start = (.ok (), later)) :
    Replayed asset events later := by
  induction events using List.reverseRecOn generalizing later with
  | nil =>
    cases done
    exact fresh
  | append_singleton earlier event inductionHypothesis =>
    rw [List.forM_append, Account.perform_bind] at done
    cases performed : Account.perform (forM earlier replay) start with
    | mk outcome middle =>
      rw [performed] at done
      cases outcome with
      | error fault => cases done
      | ok =>
        dsimp only at done
        have kept := inductionHypothesis
          (fun other member => oneAsset other (List.mem_append_left _ member)) performed
        refine kept.accept (accepted_of_replay (oneAsset event (by simp)) ?_)
        rw [List.forM_cons, List.forM_nil, Account.perform_bind] at done
        cases turned : (replay event).perform middle with
        | mk outcome result =>
          rw [turned] at done
          cases outcome with
          | error fault => cases done
          | ok =>
            cases done
            rfl

/-- A ledger of one asset that is restored is in order and records its net position. -/
theorem replayed_of_fromEvents {initialCash : ℚ} (oneAsset : OneAsset asset events)
    (restored : fromEvents initialCash events = .ok portfolio) :
    Replayed asset events portfolio := by
  unfold fromEvents at restored
  obtain ⟨start, created, rest⟩ := bind_eq_ok.mp restored
  have opened : start = ⟨initialCash, [], []⟩ := by
    unfold Portfolio.create at created
    exact (Except.ok.inj (refuse_bind_eq_ok.mp created).2).symm
  have fresh : Replayed asset [] start := by
    rw [opened]
    exact ⟨rfl, rfl, fun earlier event later split => by simp at split, List.Pairwise.nil⟩
  cases performed : Account.perform (forM events replay) start with
  | mk outcome result =>
    rw [performed] at rest
    cases outcome with
    | error fault => cases rest
    | ok =>
      cases rest
      exact replayed_of_perform fresh oneAsset performed

end Replayed

/-! ### The exposure of a ledger -/

def carriedOpening : TradeEvent where
  timestampMs := 10
  action := .openLong
  price := 50
  quantity := 2
  feeUsdt := 0
  fundingUsdt := 0
  positionAfter := 2
  cashAfter := 1000
  metadata := [("asset", .text "BTC")]

theorem notionalAt_carriedOpening {moment : ℝ} (after : 10 ≤ moment) :
    notionalAt [carriedOpening] [] moment = 100 := by
  have happened : upTo [carriedOpening] moment = [carriedOpening] := by
    have reached : ((10 : Int) : ℝ) ≤ moment := by exact_mod_cast after
    rw [upTo_cons]
    exact if_pos reached
  unfold notionalAt
  rw [happened]
  show carriedOpening.notionalAfter = 100
  unfold TradeEvent.notionalAfter carriedOpening
  norm_num

theorem integral_carriedOpening :
    ∫ moment in ((100 : Int) : ℝ)..(200 : Int),
      (notionalAt [carriedOpening] [] moment : ℝ) = 10000 := by
  have flat : Set.EqOn (fun moment : ℝ => (notionalAt [carriedOpening] [] moment : ℝ))
      (fun _ => 100) (Set.uIoo ((100 : Int) : ℝ) (200 : Int)) := by
    intro moment bounds
    rw [Set.uIoo_of_le (by norm_num)] at bounds
    have after : 10 ≤ moment := by
      have begun := bounds.1.le
      push_cast at begun
      linarith
    dsimp only
    rw [notionalAt_carriedOpening after]
    norm_num
  rw [intervalIntegral.integral_congr_uIoo flat, intervalIntegral.integral_const]
  norm_num

/-- For a position opened before the interval and held through it the ledger is restorable, the
time exposure is the whole interval and the integral of the notional is positive, but the average
and the maximum notional are zero. -/
theorem carried_notional_dropped :
    ChronologicalLedger [carriedOpening] ∧
      (fromEvents 1000 [carriedOpening]).isOk = true ∧
      timeExposureMs [carriedOpening] 100 200 = 100 ∧
      notionalExposureStats [carriedOpening] [] 100 200 = .ok (0, 0) ∧
      ∫ moment in ((100 : Int) : ℝ)..(200 : Int),
        (notionalAt [carriedOpening] [] moment : ℝ) = 10000 :=
  ⟨List.pairwise_singleton _ _, by decide +kernel, by decide +kernel, by decide +kernel,
    integral_carriedOpening⟩

/-- For every chronological ledger the time exposure is the integral of the indicator of the
recorded position. The average notional times the length of the interval is the integral of the
notional that the events from the start on and the marks give, and so of the whole ledger when
nothing precedes the start. The recorded position of a restored ledger is its net position. -/
theorem exposure_figures_are_integrals {events : List TradeEvent} {startMs endMs : Int}
    (ordered : ChronologicalLedger events) (interval : startMs ≤ endMs)
    (notionalCurve : List (Int × ℚ)) :
    (timeExposureMs events startMs endMs : ℝ) =
        ∫ moment in (startMs : ℝ)..endMs, openIndicator events moment ∧
      (∀ average maximum,
        notionalExposureStats events notionalCurve startMs endMs = .ok (average, maximum) →
        (average : ℝ) * (endMs - startMs) =
            ∫ moment in (startMs : ℝ)..endMs,
              (notionalAt (eventsFrom startMs events) notionalCurve moment : ℝ) ∧
          ((∀ event ∈ events, startMs ≤ event.timestampMs) →
            (average : ℝ) * (endMs - startMs) =
              ∫ moment in (startMs : ℝ)..endMs, (notionalAt events notionalCurve moment : ℝ))) ∧
      (startMs < endMs → Admitted startMs endMs notionalCurve → ∃ average maximum,
        notionalExposureStats events notionalCurve startMs endMs = .ok (average, maximum)) ∧
      ∀ (asset : String) (initialCash : ℚ) (portfolio : Portfolio), OneAsset asset events →
        fromEvents initialCash events = .ok portfolio →
        ∀ moment, recordedPosition events moment = netPosition (upTo events moment) := by
  refine ⟨timeExposureMs_eq_integral ordered interval, ?_, ?_, ?_⟩
  · intro average maximum done
    have summed := average_mul_length ordered interval done
    refine ⟨summed, fun begun => ?_⟩
    have whole : eventsFrom startMs events = events := by
      unfold eventsFrom
      rw [List.filter_eq_self]
      exact fun event member => decide_eq_true (begun event member)
    rw [whole] at summed
    exact summed
  · exact fun positive admitted => notionalExposureStats_succeeds events positive admitted
  · intro asset initialCash portfolio oneAsset restored moment
    exact recordedPosition_eq_netPosition ordered (replayed_of_fromEvents oneAsset restored).records
      moment

theorem carriedOpening_figures :
    (timeExposureMs [carriedOpening] 10 110 : ℝ) =
        ∫ moment in ((10 : Int) : ℝ)..(110 : Int), openIndicator [carriedOpening] moment ∧
      notionalExposureStats [carriedOpening] [(60, 120)] 10 110 = .ok (110, 120) ∧
      ((110 : ℚ) : ℝ) * ((110 : Int) - (10 : Int)) =
        ∫ moment in ((10 : Int) : ℝ)..(110 : Int),
          (notionalAt [carriedOpening] [(60, 120)] moment : ℝ) := by
  have figures := exposure_figures_are_integrals (List.pairwise_singleton _ carriedOpening)
    (by decide : (10 : Int) ≤ 110) [(60, 120)]
  have done : notionalExposureStats [carriedOpening] [(60, 120)] 10 110 = .ok (110, 120) := by
    decide +kernel
  exact ⟨figures.1, done, (figures.2.1 _ _ done).2 (by decide +kernel)⟩

end QuantAgent.Economic
