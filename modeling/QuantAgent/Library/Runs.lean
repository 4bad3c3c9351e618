/-
This file treats a state machine that consumes a list of events: the state a run ends in,
properties of every state it passes through, conditions on each of its steps, and properties
that stay once they hold. Nothing here names the repository.
-/

import Mathlib

namespace QuantAgent.Runs

variable {State Event : Type*} (step : State → Event → State)

def run (start : State) (events : List Event) : State := events.foldl step start

/-- The property holds in every state from the start to the end of the run. -/
def Throughout (property : State → Prop) : State → List Event → Prop
  | state, [] => property state
  | state, event :: rest => property state ∧ Throughout property (step state event) rest

def Each (condition : State → Event → Prop) : State → List Event → Prop
  | _, [] => True
  | state, event :: rest => condition state event ∧ Each condition (step state event) rest

def Forever (property : State → Prop) (start : State) (events : List Event) : Prop :=
  ∀ before later after, events = before ++ later ++ after →
    property (run step start before) → property (run step start (before ++ later))

instance Each.decidable (condition : State → Event → Prop)
    [∀ state event, Decidable (condition state event)] :
    ∀ start events, Decidable (Each step condition start events)
  | _, [] => .isTrue trivial
  | state, event :: rest =>
    have := Each.decidable condition (step state event) rest
    inferInstanceAs (Decidable (_ ∧ _))

variable {step} {start : State} {events : List Event} {property inv : State → Prop}
  {condition : State → Event → Prop}

theorem run_append (before after : List Event) :
    run step start (before ++ after) = run step (run step start before) after :=
  List.foldl_append

theorem Throughout.first (throughout : Throughout step property start events) :
    property start := by
  cases events with
  | nil => exact throughout
  | cons event rest => exact throughout.1

theorem Throughout.last (throughout : Throughout step property start events) :
    property (run step start events) := by
  induction events generalizing start with
  | nil => exact throughout
  | cons event rest inductionHypothesis => exact inductionHypothesis throughout.2

variable {before after : List Event}

theorem Throughout.left (throughout : Throughout step property start (before ++ after)) :
    Throughout step property start before := by
  induction before generalizing start with
  | nil => exact throughout.first
  | cons event rest inductionHypothesis => exact ⟨throughout.1, inductionHypothesis throughout.2⟩

theorem Throughout.mono {weaker : State → Prop} (throughout : Throughout step property start events)
    (implies : ∀ state, property state → weaker state) :
    Throughout step weaker start events := by
  induction events generalizing start with
  | nil => exact implies _ throughout
  | cons event rest inductionHypothesis =>
    exact ⟨implies _ throughout.1, inductionHypothesis throughout.2⟩

theorem Each.mono {weaker : State → Event → Prop} (each : Each step condition start events)
    (implies : ∀ state event, condition state event → weaker state event) :
    Each step weaker start events := by
  induction events generalizing start with
  | nil => trivial
  | cons event rest inductionHypothesis =>
    exact ⟨implies _ _ each.1, inductionHypothesis each.2⟩

theorem each_of_forall_mem (every : ∀ event ∈ events, ∀ state, condition state event) :
    Each step condition start events := by
  induction events generalizing start with
  | nil => trivial
  | cons event rest inductionHypothesis =>
    exact ⟨every event List.mem_cons_self start,
      inductionHypothesis fun later member => every later (List.mem_cons_of_mem event member)⟩

theorem throughout_of_each
    (keeps : ∀ state event, inv state → condition state event → inv (step state event))
    (initially : inv start) (each : Each step condition start events) :
    Throughout step inv start events := by
  induction events generalizing start with
  | nil => exact initially
  | cons event rest inductionHypothesis =>
    exact ⟨initially, inductionHypothesis (keeps _ _ initially each.1) each.2⟩

variable {other : State → Event → Prop}

theorem each_of_each
    (keeps : ∀ state event, inv state → condition state event → inv (step state event))
    (tells : ∀ state event, inv state → condition state event → other state event)
    (initially : inv start) (each : Each step condition start events) :
    Each step other start events := by
  induction events generalizing start with
  | nil => trivial
  | cons event rest inductionHypothesis =>
    exact ⟨tells _ _ initially each.1, inductionHypothesis (keeps _ _ initially each.1) each.2⟩

theorem throughout_of_keeps (keeps : ∀ state event, inv state → inv (step state event))
    (initially : inv start) (events : List Event) : Throughout step inv start events := by
  induction events generalizing start with
  | nil => exact initially
  | cons event rest inductionHypothesis =>
    exact ⟨initially, inductionHypothesis (keeps _ _ initially)⟩

/-- What every state of the run says about the step it leads into. -/
theorem each_of_throughout (throughout : Throughout step property start events)
    (tells : ∀ state event, property state → property (step state event) →
      condition state event) : Each step condition start events := by
  induction events generalizing start with
  | nil => trivial
  | cons event rest inductionHypothesis =>
    exact ⟨tells _ _ throughout.1 throughout.2.first, inductionHypothesis throughout.2⟩

theorem throughout_iff_each
    (keeps : ∀ state event, inv state → condition state event → inv (step state event))
    (implies : ∀ state, inv state → property state)
    (tells : ∀ state event, inv state → property (step state event) → condition state event)
    (initially : inv start) :
    Throughout step property start events ↔ Each step condition start events := by
  refine ⟨fun throughout => ?_, fun each => (throughout_of_each keeps initially each).mono implies⟩
  induction events generalizing start with
  | nil => trivial
  | cons event rest inductionHypothesis =>
    have meets := tells start event initially throughout.2.first
    exact ⟨meets, inductionHypothesis (keeps start event initially meets) throughout.2⟩

theorem each_append :
    Each step condition start (before ++ after) ↔
      Each step condition start before ∧ Each step condition (run step start before) after := by
  induction before generalizing start with
  | nil => exact ⟨fun each => ⟨trivial, each⟩, And.right⟩
  | cons event rest inductionHypothesis =>
    show _ ∧ Each step condition _ (rest ++ after) ↔ (_ ∧ Each step condition _ rest) ∧ _
    rw [inductionHypothesis, and_assoc]
    rfl

theorem each_and :
    Each step (fun state event => condition state event ∧ other state event) start events ↔
      Each step condition start events ∧ Each step other start events := by
  induction events generalizing start with
  | nil => exact ⟨fun _ => ⟨trivial, trivial⟩, fun _ => trivial⟩
  | cons event rest inductionHypothesis =>
    unfold Each
    rw [inductionHypothesis]
    exact and_and_and_comm

theorem each_forall {Index : Type*} {conditions : Index → State → Event → Prop} :
    Each step (fun state event => ∀ index, conditions index state event) start events ↔
      ∀ index, Each step (conditions index) start events := by
  induction events generalizing start with
  | nil => exact ⟨fun _ _ => trivial, fun _ => trivial⟩
  | cons event rest inductionHypothesis =>
    unfold Each
    rw [inductionHypothesis]
    exact forall_and.symm

theorem forever_iff_each : Forever step property start events ↔
    Each step (fun state event => property state → property (step state event)) start
      events := by
  induction events generalizing start with
  | nil =>
    refine ⟨fun _ => trivial, fun _ before later after split now => ?_⟩
    obtain ⟨rfl, rfl⟩ := List.append_eq_nil_iff.mp (List.append_eq_nil_iff.mp split.symm).1
    exact now
  | cons event rest inductionHypothesis =>
    refine ⟨fun forever => ⟨forever [] [event] rest rfl, inductionHypothesis.mp ?_⟩, ?_⟩
    · intro before later after split
      exact forever (event :: before) later after (by rw [split]; rfl)
    · rintro ⟨first, others⟩ before later after split now
      have tail := inductionHypothesis.mpr others
      cases before with
      | cons head before =>
        obtain ⟨rfl, remaining⟩ := List.cons.inj split
        exact tail before later after remaining now
      | nil =>
        cases later with
        | nil => exact now
        | cons head later =>
          obtain ⟨rfl, remaining⟩ := List.cons.inj split
          exact tail [] later after remaining (first now)

variable (step) in
theorem potential_of_steps (inv : State → Prop) (potential : State → ℕ)
    (allowed counted : Event → Bool)
    (keeps : ∀ state event, inv state → allowed event → inv (step state event))
    (never : ∀ state event, inv state → allowed event → potential (step state event) ≤
      potential state)
    (lowers : ∀ state event, inv state → counted event → potential state ≠ 0 →
      potential (step state event) < potential state)
    (initially : inv start) (every : events.all allowed)
    (enough : potential start ≤ events.countP counted) :
    inv (run step start events) ∧ potential (run step start events) = 0 := by
  induction events generalizing start with
  | nil => exact ⟨initially, Nat.le_zero.mp enough⟩
  | cons event rest inductionHypothesis =>
    obtain ⟨first, others⟩ := Bool.and_eq_true_iff.mp every
    refine inductionHypothesis (keeps start event initially first) others ?_
    have bound := never start event initially first
    rw [List.countP_cons] at enough
    by_cases own : counted event = true
    · rw [if_pos own] at enough
      have less := lowers start event initially own
      omega
    · rw [if_neg own] at enough
      omega

end QuantAgent.Runs
