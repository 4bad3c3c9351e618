/-
This file follows the events that a sequence of evaluations emits. Those of the lifecycle are the
crossings of zero along the quantities of the accepted observations, with a change of sign as a
closing and an opening, so they alternate. An accepted observation is never evaluated again, and
the other events of a trigger and a scope are at least the cooldown apart.

Nothing is asked of the clock: the cooldown also refuses what comes before a recorded event.
-/

import QuantAgent.Supervisor.Observations

namespace QuantAgent.Supervisor

open KeyedList

/-! ### Crossings of zero -/

inductive Crossing where
  | opened
  | closed
  deriving DecidableEq

/-- What an observed quantity makes of a position. -/
def crossings (isOpen : Bool) (before after : ℚ) : List Crossing :=
  if isOpen ∧ after = 0 then [.closed]
  else if ¬ isOpen ∧ after ≠ 0 then [.opened]
  else if before * after < 0 then [.closed, .opened]
  else []

def crossingsAlong : Bool → ℚ → List ℚ → List Crossing
  | _, _, [] => []
  | isOpen, before, after :: rest =>
    crossings isOpen before after ++ crossingsAlong (after ≠ 0) after rest

def Follows : Bool → List Crossing → Prop
  | _, [] => True
  | isOpen, .opened :: rest => isOpen = false ∧ Follows true rest
  | isOpen, .closed :: rest => isOpen = true ∧ Follows false rest

variable {isOpen : Bool}

theorem Follows.isChain {log : List Crossing} (follows : Follows isOpen log) :
    log.IsChain (· ≠ ·) := by
  induction log generalizing isOpen with
  | nil => exact .nil
  | cons first rest inductionHypothesis =>
    cases rest with
    | nil => exact .singleton first
    | cons second others =>
      cases first <;> obtain ⟨-, later⟩ := follows <;>
        refine .cons_cons ?_ (inductionHypothesis later) <;>
        rintro rfl <;> exact absurd later.1 (by decide)

theorem follows_crossings {before after : ℚ} {rest : List Crossing}
    (follows : Follows (after ≠ 0) rest) :
    Follows isOpen (crossings isOpen before after ++ rest) := by
  unfold crossings
  by_cases flat : after = 0
  · subst flat
    have closedRest : Follows false rest := by simpa using follows
    cases isOpen with
    | true => exact ⟨rfl, closedRest⟩
    | false => simpa using closedRest
  · have openRest : Follows true rest := by simpa [flat] using follows
    cases isOpen with
    | true =>
      simp only [flat, and_false, if_false, not_true_eq_false, false_and]
      split_ifs
      · exact ⟨rfl, rfl, openRest⟩
      · exact openRest
    | false =>
      simp only [flat, if_false, Bool.false_eq_true, not_false_eq_true, ne_eq, and_self, if_true]
      exact ⟨rfl, openRest⟩

theorem crossingsAlong_follows (isOpen : Bool) (before : ℚ) (quantities : List ℚ) :
    Follows isOpen (crossingsAlong isOpen before quantities) := by
  induction quantities generalizing isOpen before with
  | nil => trivial
  | cons after rest inductionHypothesis =>
    exact follows_crossings (inductionHypothesis _ _)

/-! ### What an event says -/

def Trigger.crossing? : Trigger → Option Crossing
  | .positionOpened => some .opened
  | .positionClosed => some .closed
  | _ => none

namespace PositionEvent

variable (event : PositionEvent)

def crossing? : Option Crossing :=
  if event.trigger = "POSITION_OPENED" then some .opened
  else if event.trigger = "POSITION_CLOSED" then some .closed
  else none

/-- The trigger of the event waits for the cooldown. -/
def Governed : Prop := event.crossing? = none

def OfScope (scope : Scope) : Prop :=
  event.environment = some scope.environment.text ∧
    event.credentialNamespace = some scope.credentialNamespace ∧
    event.accountId = some scope.accountId ∧ event.symbol = scope.symbol ∧
    event.positionSide = some scope.positionSide.text

instance : Decidable event.Governed := inferInstanceAs (Decidable (_ = _))

instance (scope : Scope) : Decidable (event.OfScope scope) := inferInstanceAs (Decidable (_ ∧ _))

end PositionEvent

variable {event : PositionEvent} {trigger : Trigger}

theorem crossing?_of_text (named : event.trigger = trigger.text) :
    event.crossing? = trigger.crossing? := by
  unfold PositionEvent.crossing?
  rw [named]
  cases trigger <;> rfl

theorem governed_iff (named : event.trigger = trigger.text) :
    event.Governed ↔ trigger.governed = true := by
  unfold PositionEvent.Governed
  rw [crossing?_of_text named]
  cases trigger <;> decide

theorem PositionEvent.OfScope.unique {first second : Scope} (one : event.OfScope first)
    (two : event.OfScope second) : first = second := by
  obtain ⟨firstEnvironment, firstNamespace, firstAccount, firstSymbol, -⟩ := one
  obtain ⟨secondEnvironment, secondNamespace, secondAccount, secondSymbol, -⟩ := two
  have environment : first.environment = second.environment := by
    have same := firstEnvironment.symm.trans secondEnvironment
    revert same
    cases first.environment <;> cases second.environment <;> decide
  obtain ⟨_, _, _, _, ⟨⟩⟩ := first
  obtain ⟨_, _, _, _, ⟨⟩⟩ := second
  simp_all

theorem filterMap_crossing?_marketTriggers (policy : SupervisorPolicy) (obs : PositionObservation)
    (nowMs : Int) : (marketTriggers policy obs nowMs).filterMap Trigger.crossing? = [] := by
  rw [List.filterMap_eq_nil_iff]
  intro trigger member
  have market : trigger.governed = true := by
    simp only [marketTriggers, Trigger.when, List.flatten_cons, List.flatten_nil, List.mem_append,
      List.mem_ite_nil_right, List.mem_singleton, List.not_mem_nil, or_false] at member
    rcases member with member | member | member | member | member | member | member | member |
      member | member <;> rw [member.2] <;> rfl
  cases trigger <;> first | rfl | cases market

theorem filterMap_crossing?_transitions (isOpen : Bool) (previous : Option ℚ) (quantity : ℚ) :
    (transitions isOpen previous quantity).filterMap Trigger.crossing? =
      crossings isOpen (previous.getD 0) quantity := by
  unfold transitions crossings
  have flip : (∃ held ∈ previous, held * quantity < 0) ↔ previous.getD 0 * quantity < 0 := by
    cases previous <;> simp
  simp only [flip]
  split_ifs <;> rfl

/-! ### One evaluation -/

section

variable {Context : Type} {content : ObservedContent Context} {policy : SupervisorPolicy}

def Spaced (cooldownMs : Int) (log : List PositionEvent) : Prop :=
  log.Pairwise fun earlier later =>
    earlier.positionAuthorityKey = later.positionAuthorityKey → earlier.trigger = later.trigger →
      later.Governed → cooldownMs ≤ later.observedAtMs - earlier.observedAtMs

variable {nowMs : Int}

theorem Store.mem_insertEvent {outbox : Store Context} {event : PositionEvent}
    (new : ¬ outbox.Repeats event) {row : PositionEvent} :
    row ∈ (outbox.insertEvent event nowMs).events.rows ↔
      row = event ∨ row ∈ outbox.events.rows := by
  have absent : event.eventId ∉ outbox.events := fun member => new (Or.inl member)
  unfold insertEvent Table.rows
  dsimp only
  rw [AList.entries_insert_of_notMem absent, List.map_cons, List.mem_cons]

variable {obs : PositionObservation}

theorem buildEvent_ok {authorityKey token : String} {event : PositionEvent}
    (built : buildEvent content obs authorityKey nowMs trigger token = .ok event) :
    event.OfScope obs.toScope ∧ event.positionAuthorityKey = some authorityKey ∧
      event.observedAtMs = nowMs ∧ event.trigger = trigger.text := by
  unfold buildEvent at built
  simp only [bind_eq_ok, pure, Except.pure, Except.ok.injEq] at built
  obtain ⟨_, -, _, -, expected, -, _, -, rfl⟩ := built
  exact ⟨⟨rfl, rfl, rfl, rfl, rfl⟩, rfl, rfl, rfl⟩

/-- What the loop over triggers adds to the tables and to a log of recorded events. -/
structure Emitted (content : ObservedContent Context) (policy : SupervisorPolicy)
    (obs : PositionObservation) (authorityKey : String) (triggers : List Trigger)
    (log fresh : List PositionEvent) (before after : Store Context) : Prop where
  ofScope : ∀ event ∈ fresh, event.OfScope obs.toScope ∧
    event.positionAuthorityKey = some authorityKey
  crossings : fresh.filterMap PositionEvent.crossing? = triggers.filterMap Trigger.crossing?
  kept : ∀ event ∈ before.events.rows, event ∈ after.events.rows
  recorded : ∀ event ∈ fresh, event ∈ after.events.rows
  spaced : (∀ event ∈ log, event ∈ before.events.rows) → Spaced policy.cooldownMs log →
    Spaced policy.cooldownMs (log ++ fresh)

theorem emit_emitted {authorityKey : String} {tokens : ℕ → String} {triggers : List Trigger}
    {before after : Store Context} {events all : List PositionEvent}
    (done : emit content policy obs authorityKey nowMs tokens triggers before events =
      .ok (after, all)) :
    ∃ fresh, all = events ++ fresh ∧ ∀ log,
      Emitted content policy obs authorityKey triggers log fresh before after := by
  induction triggers generalizing before events with
  | nil =>
    unfold emit at done
    simp only [pure, Except.pure, Except.ok.injEq, Prod.mk.injEq] at done
    obtain ⟨rfl, rfl⟩ := done
    refine ⟨[], (List.append_nil _).symm, fun log => ?_⟩
    exact ⟨List.forall_mem_nil _, rfl, fun _ => id, List.forall_mem_nil _,
      fun _ spaced => by rwa [List.append_nil]⟩
  | cons trigger rest inductionHypothesis =>
    unfold emit at done
    split_ifs at done with cooling
    · obtain ⟨fresh, all_eq, emitted⟩ := inductionHypothesis done
      refine ⟨fresh, all_eq, fun log => { emitted log with crossings := ?_ }⟩
      have none : trigger.crossing? = none := by
        have governed := cooling.2
        cases trigger <;> first | rfl | cases governed
      rw [List.filterMap_cons_none none]
      exact (emitted log).crossings
    · simp only [bind_eq_ok, mapError_eq_ok] at done
      obtain ⟨event, built, _, unique, done⟩ := done
      have new := refuse_eq_ok.mp unique
      obtain ⟨ofScope, keyed, observed, named⟩ := buildEvent_ok built
      obtain ⟨fresh, all_eq, emitted⟩ := inductionHypothesis done
      refine ⟨event :: fresh, ?_, fun log => ?_⟩
      · rw [all_eq, List.append_assoc, List.singleton_append]
      · obtain ⟨freshOfScope, freshCrossings, freshKept, freshRecorded, -⟩ := emitted []
        refine ⟨?_, ?_, ?_, ?_, fun stored spaced => ?_⟩
        · exact List.forall_mem_cons.mpr ⟨⟨ofScope, keyed⟩, freshOfScope⟩
        · rw [List.filterMap_cons, List.filterMap_cons, crossing?_of_text named, freshCrossings]
        · exact fun row member => freshKept row ((Store.mem_insertEvent new).mpr (Or.inr member))
        · refine List.forall_mem_cons.mpr ⟨?_, freshRecorded⟩
          exact freshKept event ((Store.mem_insertEvent new).mpr (Or.inl rfl))
        · have extended : Spaced policy.cooldownMs (log ++ [event]) := by
            refine List.pairwise_append.mpr ⟨spaced, List.pairwise_singleton _ _, ?_⟩
            intro earlier member later single sameKey sameTrigger governed
            rw [List.mem_singleton.mp single] at sameKey sameTrigger governed ⊢
            by_contra near
            refine cooling ⟨List.any_eq_true.mpr ⟨earlier, stored earlier member, ?_⟩,
              (governed_iff named).mp governed⟩
            rw [decide_eq_true_iff]
            exact ⟨sameKey.trans keyed, sameTrigger.trans named,
              by rw [← observed]; exact not_le.mp near⟩
          have logged : ∀ row ∈ log ++ [event],
              row ∈ (before.insertEvent event nowMs).events.rows := by
            intro row member
            rw [Store.mem_insertEvent new]
            rcases List.mem_append.mp member with old | own
            · exact Or.inr (stored row old)
            · exact Or.inl (List.mem_singleton.mp own)
          have result := (emitted (log ++ [event])).spaced logged extended
          rwa [List.append_assoc, List.singleton_append] at result

def Book.StartsOpen (book : Book Context) (scope : Scope) (isOpen : Bool) : Prop :=
  match lookup LifecycleRow.scope book.lifecycle scope with
  | some row => isOpen = row.isOpen
  | none => isOpen = true → ∃ row ∈ book.legacyActive, row.symbol = scope.symbol ∧ row.isOpen = 1

def Book.heldQuantity (book : Book Context) (scope : Scope) : ℚ :=
  ((lookup LifecycleRow.scope book.lifecycle scope).map LifecycleRow.quantity).getD 0

variable {book : Book Context}

theorem Book.legacyRow_ok {active : Option LifecycleRow} {legacy : Option LegacyActive}
    (done : book.legacyRow active obs = .ok legacy) :
    ∀ row ∈ legacy, row ∈ book.legacyActive ∧ row.symbol = obs.symbol ∧
      row.isOpen ∈ [(0 : Int), 1] := by
  unfold legacyRow at done
  split_ifs at done
  · cases found : book.legacyActive.find? fun row => row.symbol = obs.symbol with
    | none =>
      rw [found] at done
      cases done
      exact fun row member => by cases member
    | some first =>
      rw [found] at done
      simp only [refuse_bind_eq_ok, not_not, pure, Except.pure, Except.ok.injEq] at done
      obtain ⟨⟨-, latest, -, snapshot, -, -, -, -, -, -, flag⟩, rfl⟩ := done
      rintro row ⟨⟩
      exact ⟨List.mem_of_find?_eq_some found, by simpa using List.find?_some found, flag⟩
  · cases done
    exact fun row member => by cases member

/-- What an accepted observation leaves behind. -/
structure Accepted (content : ObservedContent Context) (policy : SupervisorPolicy)
    (obs : PositionObservation) (authorityKey : String) (book after : Book Context)
    (events : List PositionEvent) : Prop where
  sources : after.observedSources = obs.observationHash :: book.observedSources
  held : ∃ row, lookup LifecycleRow.scope after.lifecycle obs.toScope = some row ∧
    row.isOpen = decide (obs.quantity ≠ 0) ∧ row.quantity = obs.quantity
  others : ∀ scope, scope ≠ obs.toScope →
    lookup LifecycleRow.scope after.lifecycle scope =
      lookup LifecycleRow.scope book.lifecycle scope
  legacy : ∀ row ∈ after.legacyActive, row ∈ book.legacyActive
  crossed : ∃ isOpen, book.StartsOpen obs.toScope isOpen ∧
    events.filterMap PositionEvent.crossing? =
      crossings isOpen (book.heldQuantity obs.toScope) obs.quantity
  emitted : ∃ triggers, ∀ log, Emitted content policy obs authorityKey triggers log events
    book.outbox after.outbox

theorem evaluateNew_accepted {tokens : ℕ → String} {book after : Book Context}
    {authorityKey : String} {events : List PositionEvent}
    (done : evaluateNew content policy tokens book obs authorityKey nowMs = .ok (after, events)) :
    Accepted content policy obs authorityKey book after events := by
  unfold evaluateNew at done
  simp only [refuse_bind_eq_ok] at done
  obtain ⟨-, -, done⟩ := done
  rw [bind_eq_ok] at done
  obtain ⟨legacy, legacyDone, done⟩ := done
  rw [bind_eq_ok] at done
  obtain ⟨⟨outbox, all⟩, emitDone, done⟩ := done
  simp only [pure, Except.pure, Except.ok.injEq, Prod.mk.injEq] at done
  obtain ⟨rfl, rfl⟩ := done
  obtain ⟨fresh, all_eq, emitted⟩ := emit_emitted emitDone
  rw [List.nil_append] at all_eq
  subst all_eq
  refine ⟨rfl, ⟨_, lookup_insert_self _ _, rfl, rfl⟩, fun scope different =>
    lookup_insert_of_ne different, ?_, ?_, ⟨_, emitted⟩⟩
  · intro row member
    dsimp only at member
    split_ifs at member
    · exact (List.mem_filter.mp member).1
    · exact member
  · refine ⟨wasOpen (lookup LifecycleRow.scope book.lifecycle obs.toScope) legacy, ?_, ?_⟩
    · unfold Book.StartsOpen
      cases found : lookup LifecycleRow.scope book.lifecycle obs.toScope with
      | some row => rfl
      | none =>
        intro opens
        cases legacy with
        | none => cases opens
        | some row =>
          obtain ⟨member, symbol, flag⟩ := Book.legacyRow_ok legacyDone row rfl
          refine ⟨row, member, symbol, ?_⟩
          have nonzero : row.isOpen ≠ 0 := by simpa [wasOpen] using opens
          simpa [nonzero] using flag
    · rw [(emitted []).crossings, List.filterMap_append, filterMap_crossing?_marketTriggers,
        List.append_nil, filterMap_crossing?_transitions]
      rfl

/-! ### Runs -/

/-- A call of `evaluate`, with the tokens that it draws. -/
structure ObservationCall where
  obs : PositionObservation
  nowMs : Int
  tokens : ℕ → String

variable (content policy) in
/-- The tables after a call that has returned or raised, and the events it has returned. -/
def Book.step (book : Book Context) (call : ObservationCall) : Book Context × List PositionEvent :=
  match evaluate content policy call.tokens book call.obs call.nowMs with
  | .ok result => result
  | .error _ => (book, [])

variable (content policy) in
def Book.run : Book Context → List ObservationCall → Book Context × List PositionEvent
  | book, [] => (book, [])
  | book, call :: rest =>
    let stepped := book.step content policy call
    let later := Book.run stepped.1 rest
    (later.1, stepped.2 ++ later.2)

variable (content policy) in
/-- The observation is new, and evaluating it raises nothing. -/
def Book.Accepts (book : Book Context) (call : ObservationCall) : Prop :=
  call.obs.observationHash ∉ book.observedSources ∧
    (evaluate content policy call.tokens book call.obs call.nowMs).isOk = true

variable (content policy) in
instance (book : Book Context) (call : ObservationCall) :
    Decidable (book.Accepts content policy call) :=
  inferInstanceAs (Decidable (_ ∧ _))

variable (content policy) in
def Book.processed : Book Context → List ObservationCall → List PositionObservation
  | _, [] => []
  | book, call :: rest =>
    (if book.Accepts content policy call then [call.obs] else []) ++
      Book.processed (book.step content policy call).1 rest

variable (content policy) in
/-- A call either processes its observation or changes nothing. -/
theorem Book.step_cases (book : Book Context) (call : ObservationCall) :
    (book.Accepts content policy call ∧ ∃ authorityKey,
        call.obs.toScope.authorityKey content = .ok authorityKey ∧
        Accepted content policy call.obs authorityKey book (book.step content policy call).1
          (book.step content policy call).2) ∨
      ¬ book.Accepts content policy call ∧ book.step content policy call = (book, []) := by
  by_cases accepts : book.Accepts content policy call
  · refine Or.inl ⟨accepts, ?_⟩
    obtain ⟨unseen, accepted⟩ := accepts
    obtain ⟨⟨after, events⟩, done⟩ := exists_ok_of_isOk accepted
    unfold step
    rw [done]
    unfold evaluate at done
    simp only [bind_eq_ok, mapError_eq_ok, if_neg unseen] at done
    obtain ⟨-, -, authorityKey, keyed, done⟩ := done
    exact ⟨authorityKey, keyed, evaluateNew_accepted done⟩
  · refine Or.inr ⟨accepts, ?_⟩
    unfold step
    cases done : evaluate content policy call.tokens book call.obs call.nowMs with
    | error raised => rfl
    | ok result =>
      have seen : call.obs.observationHash ∈ book.observedSources := by
        by_contra unseen
        exact accepts ⟨unseen, by rw [done]; rfl⟩
      unfold evaluate at done
      simp only [bind_eq_ok, mapError_eq_ok, if_pos seen, pure, Except.pure,
        Except.ok.injEq] at done
      obtain ⟨-, -, -, -, rfl⟩ := done
      rfl

/-! ### Openings and closings of a run -/

/-- The openings and closings of a scope, in the order in which they were emitted. -/
def crossingsOf (scope : Scope) (log : List PositionEvent) : List Crossing :=
  (log.filter fun event => event.OfScope scope).filterMap PositionEvent.crossing?

def quantitiesOf (scope : Scope) (observations : List PositionObservation) : List ℚ :=
  (observations.filter fun obs => obs.toScope = scope).map PositionObservation.quantity

theorem crossingsOf_append (scope : Scope) (log fresh : List PositionEvent) :
    crossingsOf scope (log ++ fresh) = crossingsOf scope log ++ crossingsOf scope fresh := by
  unfold crossingsOf
  rw [List.filter_append, List.filterMap_append]

theorem quantitiesOf_append (scope : Scope) (first second : List PositionObservation) :
    quantitiesOf scope (first ++ second) =
      quantitiesOf scope first ++ quantitiesOf scope second := by
  unfold quantitiesOf
  rw [List.filter_append, List.map_append]

section

variable {authorityKey : String} {after : Book Context}
  {events : List PositionEvent}

theorem Accepted.crossingsOf_self
    (accepted : Accepted content policy obs authorityKey book after events) :
    crossingsOf obs.toScope events = events.filterMap PositionEvent.crossing? := by
  obtain ⟨triggers, emitted⟩ := accepted.emitted
  unfold crossingsOf
  rw [List.filter_eq_self.mpr fun event member =>
    decide_eq_true ((emitted []).ofScope event member).1]

theorem Accepted.crossingsOf_other
    (accepted : Accepted content policy obs authorityKey book after events) {scope : Scope}
    (other : obs.toScope ≠ scope) : crossingsOf scope events = [] := by
  obtain ⟨triggers, emitted⟩ := accepted.emitted
  have nothing : (events.filter fun event => event.OfScope scope) = [] := by
    rw [List.filter_eq_nil_iff]
    intro event member foreign
    exact other (((emitted []).ofScope event member).1.unique (of_decide_eq_true foreign))
  unfold crossingsOf
  rw [nothing]
  rfl

end

theorem Book.exists_startsOpen (book : Book Context) (scope : Scope) :
    ∃ isOpen, book.StartsOpen scope isOpen := by
  unfold StartsOpen
  cases lookup LifecycleRow.scope book.lifecycle scope with
  | some row => exact ⟨row.isOpen, rfl⟩
  | none => exact ⟨false, fun opens => by cases opens⟩

/-- A call about another scope leaves that of a position as it was. -/
theorem Book.StartsOpen.of_other {book after : Book Context} {scope : Scope}
    (same : lookup LifecycleRow.scope after.lifecycle scope =
      lookup LifecycleRow.scope book.lifecycle scope)
    (legacy : ∀ row ∈ after.legacyActive, row ∈ book.legacyActive)
    (starts : after.StartsOpen scope isOpen) : book.StartsOpen scope isOpen := by
  unfold StartsOpen at starts ⊢
  rw [same] at starts
  cases found : lookup LifecycleRow.scope book.lifecycle scope with
  | some row =>
    rw [found] at starts
    exact starts
  | none =>
    rw [found] at starts
    intro opens
    obtain ⟨row, member, held⟩ := starts opens
    exact ⟨row, legacy row member, held⟩

variable (content policy) in
theorem Book.run_crossings (scope : Scope) (book : Book Context) (calls : List ObservationCall) :
    ∃ isOpen, book.StartsOpen scope isOpen ∧
      crossingsOf scope (book.run content policy calls).2 =
        crossingsAlong isOpen (book.heldQuantity scope)
          (quantitiesOf scope (book.processed content policy calls)) := by
  induction calls generalizing book with
  | nil =>
    obtain ⟨isOpen, starts⟩ := book.exists_startsOpen scope
    exact ⟨isOpen, starts, rfl⟩
  | cons call rest inductionHypothesis =>
    unfold run processed
    dsimp only
    rw [crossingsOf_append, quantitiesOf_append]
    obtain ⟨later, laterStarts, laterCrossings⟩ :=
      inductionHypothesis (book.step content policy call).1
    rw [laterCrossings]
    rcases book.step_cases content policy call with
      ⟨accepts, authorityKey, -, accepted⟩ | ⟨refused, unchanged⟩
    · rw [if_pos accepts]
      by_cases own : call.obs.toScope = scope
      · subst own
        obtain ⟨isOpen, starts, crossed⟩ := accepted.crossed
        obtain ⟨row, found, flag, quantity⟩ := accepted.held
        have later_eq : later = decide (call.obs.quantity ≠ 0) := by
          unfold StartsOpen at laterStarts
          rw [found] at laterStarts
          exact laterStarts.trans flag
        have held : (book.step content policy call).1.heldQuantity call.obs.toScope =
            call.obs.quantity := by
          unfold heldQuantity
          rw [found]
          exact quantity
        refine ⟨isOpen, starts, ?_⟩
        rw [accepted.crossingsOf_self, crossed, later_eq, held]
        simp [quantitiesOf, crossingsAlong]
      · have same := accepted.others scope (Ne.symm own)
        refine ⟨later, laterStarts.of_other same accepted.legacy, ?_⟩
        have held : (book.step content policy call).1.heldQuantity scope =
            book.heldQuantity scope := by
          unfold heldQuantity
          rw [same]
        rw [accepted.crossingsOf_other own, held]
        simp [quantitiesOf, own]
    · rw [unchanged] at laterStarts ⊢
      rw [if_neg refused]
      exact ⟨later, laterStarts, rfl⟩

/-! ### Processed observations -/

theorem Book.observedSources_run {hash : String} (calls : List ObservationCall)
    (seen : hash ∈ book.observedSources) :
    hash ∈ (book.run content policy calls).1.observedSources := by
  induction calls generalizing book with
  | nil => exact seen
  | cons call rest inductionHypothesis =>
    refine inductionHypothesis ?_
    rcases book.step_cases content policy call with
      ⟨-, _, -, accepted⟩ | ⟨-, unchanged⟩
    · rw [accepted.sources]
      exact List.mem_cons_of_mem _ seen
    · rwa [unchanged]

theorem Book.observed_of_processed {calls : List ObservationCall}
    (processed : obs ∈ book.processed content policy calls) :
    obs.observationHash ∈ (book.run content policy calls).1.observedSources := by
  induction calls generalizing book with
  | nil => cases processed
  | cons call rest inductionHypothesis =>
    rcases List.mem_append.mp processed with now | later
    · split_ifs at now with accepts
      · rw [List.mem_singleton.mp now]
        refine Book.observedSources_run rest ?_
        rcases book.step_cases content policy call with
          ⟨-, _, -, accepted⟩ | ⟨refused, -⟩
        · rw [accepted.sources]
          exact List.mem_cons_self
        · exact absurd accepts refused
      · cases now
    · exact inductionHypothesis later

theorem Book.step_of_seen {call : ObservationCall}
    (seen : call.obs.observationHash ∈ book.observedSources) :
    book.step content policy call = (book, []) := by
  rcases book.step_cases content policy call with
    ⟨accepts, -⟩ | ⟨-, unchanged⟩
  · exact absurd seen accepts.1
  · exact unchanged

/-! ### The cooldown along a run -/

/-- A log of events that the tables hold. -/
structure Recorded (content : ObservedContent Context) (cooldownMs : Int) (book : Book Context)
    (log : List PositionEvent) : Prop where
  stored : ∀ event ∈ log, event ∈ book.outbox.events.rows
  keyed : ∀ event ∈ log, ∃ scope authorityKey, event.OfScope scope ∧
    scope.authorityKey content = .ok authorityKey ∧
    event.positionAuthorityKey = some authorityKey
  spaced : Spaced cooldownMs log

variable {log : List PositionEvent}

theorem Recorded.step (recorded : Recorded content policy.cooldownMs book log)
    (call : ObservationCall) :
    Recorded content policy.cooldownMs (book.step content policy call).1
      (log ++ (book.step content policy call).2) := by
  rcases book.step_cases content policy call with
    ⟨-, authorityKey, keyed, accepted⟩ | ⟨-, unchanged⟩
  · obtain ⟨triggers, emitted⟩ := accepted.emitted
    refine ⟨fun event member => ?_, fun event member => ?_,
      (emitted log).spaced recorded.stored recorded.spaced⟩
    · rcases List.mem_append.mp member with old | fresh
      · exact (emitted log).kept event (recorded.stored event old)
      · exact (emitted log).recorded event fresh
    · rcases List.mem_append.mp member with old | fresh
      · exact recorded.keyed event old
      · obtain ⟨ofScope, own⟩ := (emitted log).ofScope event fresh
        exact ⟨call.obs.toScope, authorityKey, ofScope, keyed, own⟩
  · rw [unchanged, List.append_nil]
    exact recorded

theorem Recorded.run (recorded : Recorded content policy.cooldownMs book log)
    (calls : List ObservationCall) :
    Recorded content policy.cooldownMs (book.run content policy calls).1
      (log ++ (book.run content policy calls).2) := by
  induction calls generalizing book log with
  | nil =>
    unfold Book.run
    rwa [List.append_nil]
  | cons call rest inductionHypothesis =>
    unfold Book.run
    dsimp only
    rw [← List.append_assoc]
    exact inductionHypothesis (recorded.step call)

theorem Recorded.spaced_of_scope {cooldownMs : Int}
    (recorded : Recorded content cooldownMs book log) (scope : Scope) :
    (log.filter fun event => event.OfScope scope).Pairwise fun earlier later =>
      earlier.trigger = later.trigger → later.Governed →
        cooldownMs ≤ later.observedAtMs - earlier.observedAtMs := by
  have key_eq : ∀ event ∈ log, event.OfScope scope →
      ∀ authorityKey, scope.authorityKey content = .ok authorityKey →
        event.positionAuthorityKey = some authorityKey := by
    intro event member ofScope authorityKey keyed
    obtain ⟨own, ownKey, ofOwn, ownKeyed, stored⟩ := recorded.keyed event member
    rw [ofScope.unique ofOwn, ownKeyed] at keyed
    rw [stored, Except.ok.inj keyed]
  refine List.Pairwise.imp_of_mem ?_ (recorded.spaced.filter _)
  intro earlier later earlierMember laterMember spaced sameTrigger
  obtain ⟨earlierLogged, earlierScope⟩ := List.mem_filter.mp earlierMember
  obtain ⟨laterLogged, laterScope⟩ := List.mem_filter.mp laterMember
  obtain ⟨own, authorityKey, ofOwn, keyed, -⟩ := recorded.keyed earlier earlierLogged
  rw [← (of_decide_eq_true earlierScope).unique ofOwn] at keyed
  refine spaced ?_ sameTrigger
  rw [key_eq earlier earlierLogged (of_decide_eq_true earlierScope) _ keyed,
    key_eq later laterLogged (of_decide_eq_true laterScope) _ keyed]

/-! ### The discipline of position events -/

structure Disciplined (content : ObservedContent Context) (policy : SupervisorPolicy)
    (book : Book Context) (calls : List ObservationCall) : Prop where
  alternates : ∀ scope,
    (crossingsOf scope (book.run content policy calls).2).IsChain (· ≠ ·)
  agrees : ∀ scope, ∃ isOpen, book.StartsOpen scope isOpen ∧
    crossingsOf scope (book.run content policy calls).2 =
      crossingsAlong isOpen (book.heldQuantity scope)
        (quantitiesOf scope (book.processed content policy calls))
  silent : ∀ obs ∈ book.processed content policy calls, ∀ nowMs tokens,
    (book.run content policy calls).1.step content policy ⟨obs, nowMs, tokens⟩ =
      ((book.run content policy calls).1, [])
  spaced : ∀ scope, ((book.run content policy calls).2.filter fun event =>
    event.OfScope scope).Pairwise fun earlier later =>
      earlier.trigger = later.trigger → later.Governed →
        policy.cooldownMs ≤ later.observedAtMs - earlier.observedAtMs

/-- Whatever is observed, and whatever the clock shows, the events of every scope keep to it. -/
theorem position_events_disciplined (content : ObservedContent Context) (policy : SupervisorPolicy)
    (book : Book Context) (calls : List ObservationCall) :
    Disciplined content policy book calls where
  alternates scope := by
    obtain ⟨isOpen, -, crossed⟩ := book.run_crossings content policy scope calls
    rw [crossed]
    exact (crossingsAlong_follows _ _ _).isChain
  agrees scope := book.run_crossings content policy scope calls
  silent obs processed nowMs tokens := Book.step_of_seen (Book.observed_of_processed processed)
  spaced scope := by
    have empty : Recorded content policy.cooldownMs book [] :=
      ⟨List.forall_mem_nil _, List.forall_mem_nil _, .nil⟩
    exact (empty.run calls).spaced_of_scope scope

end

def spelledContent : ObservedContent Unit where
  eventHash event := event.eventId
  caseHash case := case.caseId
  authorityKey environment credentialNamespace accountId symbol positionSide :=
    environment ++ credentialNamespace ++ accountId ++ symbol ++ positionSide
  authorityHash _ := "authority"
  admissionHash hash := "admission" ++ hash
  wellFormed _ := true
  defaults := ()
  authorityHash_ne _ := by decide
  admissionHash_ne hash := by simp
  observationHash obs := obs.marketSourceHash ++ obs.symbol

def stopped (symbol source : String) (quantity : ℚ) : PositionObservation where
  environment := .testnet
  credentialNamespace := "BINANCE_TESTNET"
  symbol := symbol
  accountSnapshotHash := "snapshot"
  marketSourceHash := source
  observedAtMs := 1000
  quantity := quantity
  previousQuantity := 0
  entryPrice := 100
  markPrice := 90
  unrealizedPnlUsdt := 0
  realizedPnlUsdt := 0
  marginUsdt := 0
  stopPrice := 90
  takeProfitPrice := 0
  orderStatus := "FILLED"
  orderFilledQuantity := 0
  orderObservedAtMs := 1000
  observationHash := source ++ symbol

/-- A long position, one of another symbol, and the first one turned short, all at one time. -/
def stoppedCalls : List ObservationCall :=
  [⟨stopped "BTCUSDT" "first" 1, 1000, fun index => "a" ++
    String.ofList (List.replicate index 'a')⟩,
    ⟨stopped "ETHUSDT" "first" 1, 1000, fun index => "b" ++
      String.ofList (List.replicate index 'b')⟩,
    ⟨stopped "BTCUSDT" "second" (-1), 1000,
      fun index => "c" ++ String.ofList (List.replicate index 'c')⟩]

/-- Two scopes share no cooldown, and a change of sign closes and opens without a quantity of
zero. -/
theorem stopped_calls_not_spaced :
    let log := (Book.run spelledContent {} {} stoppedCalls).2
    (¬ log.Pairwise fun earlier later => earlier.trigger = later.trigger → later.Governed →
        60000 ≤ later.observedAtMs - earlier.observedAtMs) ∧
      crossingsOf (stopped "BTCUSDT" "first" 1).toScope log = [.opened, .closed, .opened] ∧
      ∀ obs ∈ Book.processed spelledContent {} {} stoppedCalls, obs.quantity ≠ 0 := by
  decide +kernel

end QuantAgent.Supervisor
