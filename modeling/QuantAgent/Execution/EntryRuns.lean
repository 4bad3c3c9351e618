/-
This file treats runs in which any number of calls submit, reconcile and cancel entry plans.

A plan is marked protected only after both of its protective receipts are stored, and receipts stay.
The calls do not look at the status that they overwrite, so a cancelled plan stays cancelled, and
its filled quantity protected, as long as a plan is cancelled from its protection only and nothing
is submitted or reconciled over a cancellation. A submission has read its plan as prepared, so only
a cancellation between that and its write can be overwritten by it.
-/

import QuantAgent.Execution.EntryOrders

namespace QuantAgent.Execution.Entry

open Concurrent Rules

/-! ### Statuses and protective receipts -/

namespace Book

variable (book : Book)

def status (planId : String) : Option PlanStatus := (book.plans.lookup planId).map PlanRow.status

def Working (planId : String) (role : OrderRole) : Prop :=
  ∃ row ∈ book.orders, row.receipt.planId = planId ∧ row.receipt.role = role ∧
    row.receipt.status = "NEW"

def Filled (planId : String) : Prop :=
  ∃ row ∈ book.orders, row.receipt.planId = planId ∧ row.receipt.role = .entry ∧
    row.receipt.status ∈ ["FILLED", "PARTIALLY_FILLED"]

/-- What the status of a plan says of its receipts; the other statuses are never reached. -/
def Backs (planId : String) : PlanStatus → Prop
  | .prepared | .submitted => True
  | .underProtection | .cancelled => book.Working planId .stop ∧ book.Working planId .takeProfit
  | .partiallyFilled | .cancelledExpired | .failsafeClosed => False

end Book

variable {book after : Book} {planId other : String} {status : PlanStatus} {role : OrderRole}

theorem status_updateExecutionPlanStatus :
    (book.updateExecutionPlanStatus planId status).status other =
      if other = planId then (book.status other).map fun _ => status else book.status other := by
  unfold Book.status Book.updateExecutionPlanStatus
  rw [Table.lookup_modify]
  split_ifs with same
  · rw [Option.map_map, Option.map_map]
    rfl
  · rfl

theorem Book.Working.mono (working : book.Working planId role)
    (more : ∀ row ∈ book.orders, row ∈ after.orders) : after.Working planId role := by
  obtain ⟨row, member, facts⟩ := working
  exact ⟨row, more row member, facts⟩

theorem Book.Backs.mono (backs : book.Backs planId status)
    (more : ∀ row ∈ book.orders, row ∈ after.orders) : after.Backs planId status := by
  cases status with
  | underProtection => exact ⟨backs.1.mono more, backs.2.mono more⟩
  | cancelled => exact ⟨backs.1.mono more, backs.2.mono more⟩
  | prepared => trivial
  | submitted => trivial
  | partiallyFilled => exact backs
  | cancelledExpired => exact backs
  | failsafeClosed => exact backs

/-! ### The invariant of a run -/

def MayFollow (before : Option PlanStatus) : PlanStatus → Prop
  | .cancelled => before = some .underProtection ∨ before = some .cancelled
  | _ => before ≠ some .cancelled

/-- The status that a step writes may overwrite the one that the plan has. -/
def Careful (book : Book) : Action entries → Prop
  | .transacted (.updateExecutionPlanStatus planId status) _ =>
    MayFollow (book.status planId) status
  | _ => True

/-- A plan that a submission has read as prepared is not cancelled before the submission writes;
every other step is careful. -/
def Undisturbed (state : State entries) (worker : ℕ) : Action entries → Prop
  | .transacted (.updateExecutionPlanStatus planId .submitted) _ => ∀ readId row plan,
    ⟨worker, .transacted (.getExecutionPlan readId) (.ok (some row))⟩ ∈ state.log →
      row.entry = some (.prepared, plan) → plan.planId = planId →
        state.shared.status planId ≠ some .cancelled
  | action => Careful state.shared action

structure Kept (state : State entries) : Prop where
  stored : ∀ worker receipt createdAtMs,
    ⟨worker, .transacted (.saveExecutionOrder receipt createdAtMs) (.ok ())⟩ ∈ state.log →
      ⟨receipt, createdAtMs⟩ ∈ state.shared.orders
  backed : ∀ planId status, state.shared.status planId = some status →
    state.shared.Backs planId status

def discipline : Rules entries where
  inv := Kept
  assumes := Undisturbed
  allows := fun state _ action => Careful state.shared action

/-- The step neither stores a receipt nor writes a status. -/
def isReading : Action entries → Bool
  | .transacted (.saveExecutionOrder _ _) _ => false
  | .transacted (.updateExecutionPlanStatus _ _) _ => false
  | _ => true

variable {state : State entries} {worker : ℕ} {action : Action entries} {receipt : OrderReceipt}
  {createdAtMs : Int}

theorem undisturbed_of_careful (careful : Careful state.shared action) :
    Undisturbed state worker action := by
  cases action with
  | transacted transaction outcome =>
    cases transaction with
    | updateExecutionPlanStatus planId status =>
      cases status with
      | submitted => exact fun _ _ _ _ _ _ => careful
      | _ => exact careful
    | _ => exact careful
  | _ => exact careful

theorem careful_of_isReading (reading : isReading action = true) : Careful book action := by
  cases action with
  | transacted transaction outcome =>
    cases transaction with
    | updateExecutionPlanStatus planId status => cases reading
    | _ => trivial
  | _ => trivial

theorem sharedAfter_of_isReading (reading : isReading action = true) :
    state.sharedAfter action = state.shared := by
  cases action with
  | started call => rfl
  | asked request => rfl
  | answered request outcome => rfl
  | transacted transaction outcome =>
    cases transaction with
    | getExecutionPlan => rfl
    | latestExecutionOrder => rfl
    | saveExecutionOrder => cases reading
    | updateExecutionPlanStatus => cases reading

theorem kept_isReading (kept : Kept state) (reading : isReading action = true) :
    Kept (state.after worker action) := by
  have same : (state.after worker action).shared = state.shared := sharedAfter_of_isReading reading
  refine ⟨fun owner receipt createdAtMs member => ?_, same ▸ kept.backed⟩
  rw [same]
  obtain earlier | last := List.mem_append.mp member
  · exact kept.stored owner receipt createdAtMs earlier
  · rw [← (Entry.mk.inj (List.mem_singleton.mp last)).2] at reading
    cases reading

theorem kept_save (kept : Kept state) :
    Kept (state.after worker (.transacted (.saveExecutionOrder receipt createdAtMs)
      (state.outcome (.saveExecutionOrder receipt createdAtMs)))) := by
  have more : ∀ row ∈ state.shared.orders, row ∈ state.shared.orders ++ [⟨receipt, createdAtMs⟩] :=
    fun row => List.mem_append_left _
  refine ⟨fun owner other otherMs member => ?_, fun planId status now => ?_⟩
  · obtain earlier | last := List.mem_append.mp member
    · exact more _ (kept.stored owner other otherMs earlier)
    · cases List.mem_singleton.mp last
      exact List.mem_append_right _ (List.mem_singleton_self _)
  · exact (kept.backed planId status now).mono more

theorem kept_update (kept : Kept state) (backs : state.shared.Backs planId status) :
    Kept (state.after worker (.transacted (.updateExecutionPlanStatus planId status)
      (state.outcome (.updateExecutionPlanStatus planId status)))) := by
  refine ⟨fun owner other otherMs member => ?_, fun other found now => ?_⟩
  · obtain earlier | last := List.mem_append.mp member
    · exact kept.stored owner other otherMs earlier
    · cases List.mem_singleton.mp last
  · replace now : (state.shared.updateExecutionPlanStatus planId status).status other =
      some found := now
    rw [status_updateExecutionPlanStatus] at now
    split_ifs at now with same
    · obtain ⟨before, -, rfl⟩ := Option.map_eq_some_iff.mp now
      exact same ▸ backs
    · exact kept.backed other found now

/-! ### What the calls learn -/

section

variable {known : List (Entry entries) → Prop} [Lasting known] {desk : Desk}
  {plan : ExecutionPlan} {authority : EnvironmentAuthority} {current : Int} {nowMs : Option Int}

theorem asked_learns {request : DeskRequest} :
    Learns discipline worker known (asked request) fun _ _ => True :=
  .mono (.request
      (fun _ kept _ _ => ⟨trivial, kept_isReading kept rfl⟩)
      fun _ _ kept _ _ => ⟨trivial, kept_isReading kept rfl⟩)
    (fun _ => id) fun _ _ _ => trivial

theorem took_learns {transaction : BookTransaction}
    (reading : ∀ outcome, isReading (.transacted transaction outcome) = true) :
    Learns discipline worker known (took transaction) fun _ _ => True :=
  .mono (.run fun _ kept _ _ =>
      ⟨careful_of_isReading (reading _), kept_isReading kept (reading _)⟩)
    (fun _ => id) fun _ _ _ => trivial

omit [Lasting known] in
theorem required_learns {Value : Type} {value : Option Value} {fault : Fault} :
    Learns discipline worker known (required value fault) fun _ _ => True := by
  cases value with
  | some value => exact .pure fun _ _ => trivial
  | none => exact .fail

omit [Lasting known] in
theorem checked_learns {Value : Type} {outcome : Except Fault Value} :
    Learns discipline worker known (checked outcome) fun value _ => outcome = .ok value := by
  cases outcome with
  | ok value => exact .pure fun _ _ => rfl
  | error fault => exact .fail

theorem store_learns : Learns discipline worker known (Desk.store receipt) fun _ log =>
    ∃ createdAtMs,
      ⟨worker, .transacted (.saveExecutionOrder receipt createdAtMs) (.ok ())⟩ ∈ log :=
  asked_learns.bind fun createdAtMs =>
    .mono (.run fun _ kept _ _ => ⟨trivial, kept_save kept⟩) (fun _ => id)
      fun _ _ stored => ⟨createdAtMs, stored⟩

theorem current_learns : Learns discipline worker known (Desk.current nowMs) fun _ _ => True := by
  cases nowMs with
  | some nowMs => exact .pure fun _ _ => trivial
  | none => exact asked_learns

/-- The worker has read the plan in this status. -/
def Found (worker : ℕ) (found : PlanStatus × ExecutionPlan) (log : List (Entry entries)) : Prop :=
  ∃ readId row, ⟨worker, .transacted (.getExecutionPlan readId) (.ok (some row))⟩ ∈ log ∧
    row.entry = some found

instance (worker : ℕ) (found : PlanStatus × ExecutionPlan) : Lasting (Found worker found) :=
  inferInstanceAs (Lasting fun log => ∃ _ _, _ ∈ log ∧ _)

theorem entryPlan_learns :
    Learns discipline worker known (Desk.entryPlan planId) (Found worker) := by
  have read : Learns discipline worker known (took (.getExecutionPlan planId)) fun value log =>
      ⟨worker, .transacted (.getExecutionPlan planId) (.ok value)⟩ ∈ log :=
    .run fun _ kept _ _ => ⟨trivial, kept_isReading kept rfl⟩
  refine read.bind fun value => ?_
  cases value with
  | none => exact .fail
  | some row =>
    show Learns discipline worker _ (required row.entry _) _
    cases entry : row.entry with
    | none => exact .fail
    | some found => exact .pure fun log learned => ⟨planId, row, learned.2, entry⟩

theorem fromConfig_mode {normalize : String → String} {config : ExecutionConfig} {liveUrl : String}
    (made : EnvironmentAuthority.fromConfig normalize config liveUrl = .ok authority) :
    authority.mode = config.mode := by
  unfold EnvironmentAuthority.fromConfig at made
  obtain ⟨-, same⟩ := refuse_bind_eq_ok.mp made
  rw [← pure_eq_ok.mp same]

variable {stored : Option OrderReceipt}

theorem preflight_paper {kind : ActionClassification} {now : Int}
    (passed : desk.preflight plan stored kind now = .ok authority) :
    desk.config.mode = .paper ∧ plan.mode = .paper := by
  unfold Desk.preflight at passed
  simp only [bind_eq_ok] at passed
  obtain ⟨_, -, _, -, _, -, configured, made, _, same, _, -, _, -, _, -, _, -, _, -, _, -, _, -, _,
    paper, -⟩ := passed
  replace paper := not_not.mp (refuse_eq_ok.mp paper)
  replace same := not_not.mp (refuse_eq_ok.mp same)
  exact ⟨(fromConfig_mode made).symm.trans paper, same.trans paper⟩

omit [Lasting known] in
theorem preflight_learns {kind : ActionClassification} :
    Learns discipline worker known (checked (desk.preflight plan stored kind now))
      fun _ _ => desk.config.mode = .paper ∧ plan.mode = .paper :=
  checked_learns.mono (fun _ => id) fun _ _ passed => preflight_paper passed

/-! ### Every call keeps the invariant -/

omit [Lasting known] in
theorem paper_learns {Value : Type} {program other : DeskWork Value} {mode : ExecutionMode}
    {learned : Value → List (Entry entries) → Prop}
    (paper : ∀ log, known log → mode = .paper)
    (learns : Learns discipline worker known program learned) :
    Learns discipline worker known (if mode = .paper then program else other) learned := by
  intro state holds
  rw [if_pos (paper state.log holds)]
  exact learns state holds

theorem signedExposure_learns {dailyLoss : ℚ} :
    Learns discipline worker known (Desk.signedExposure current dailyLoss) fun _ _ => True := by
  unfold Desk.signedExposure Desk.signedClient
  refine Learns.refuse.bind fun _ => asked_learns.bind fun dualSide => ?_
  refine Learns.refuse.bind fun _ => ?_
  exact asked_learns.bind fun amounts => asked_learns.bind fun exchangePnl =>
    .pure fun _ _ => trivial

theorem exposure_learns :
    Learns discipline worker known (desk.exposure current) fun _ _ => True := by
  refine asked_learns.bind fun recorded => ?_
  split_ifs
  · exact signedExposure_learns
  · exact .pure fun _ _ => trivial

theorem checkMark_learns :
    Learns discipline worker known (Desk.checkMark plan) fun _ _ => True := by
  unfold Desk.checkMark
  split_ifs
  · exact asked_learns.bind fun _ => required_learns.bind fun _ => asked_learns.bind fun _ =>
      Learns.refuse.mono (fun _ => id) fun _ _ _ => trivial
  · exact .pure fun _ _ => trivial

theorem update_learns (status : PlanStatus)
    (permits : ∀ now outcome, Kept now → known now.log →
      Undisturbed now worker (.transacted (.updateExecutionPlanStatus planId status) outcome) →
        MayFollow (now.shared.status planId) status ∧ now.shared.Backs planId status) :
    Learns discipline worker known (took (.updateExecutionPlanStatus planId status))
      fun _ _ => True :=
  .mono (.run fun now kept holds undisturbed =>
      let ⟨careful, backs⟩ := permits now _ kept holds undisturbed
      ⟨careful, kept_update kept backs⟩)
    (fun _ => id) fun _ _ _ => trivial

theorem submitEntry_learns {confirmationHash : String} {automatic : Bool} :
    Learns discipline worker known (desk.submitEntry planId confirmationHash automatic nowMs)
      fun _ _ => True := by
  refine entryPlan_learns.bind fun found => ?_
  obtain ⟨status, plan⟩ := found
  refine Learns.refuse.bind fun _ => current_learns.bind fun current =>
    preflight_learns.bind fun authority => asked_learns.bind fun _ => exposure_learns.bind fun _ =>
    checked_learns.bind fun _ => checkMark_learns.bind fun _ => ?_
  have entered {known : List (Entry entries) → Prop} [Lasting known]
      (paper : ∀ log, known log → desk.config.mode = .paper) :
      Learns discipline worker known (desk.entryOrder plan) fun _ _ => True :=
    paper_learns paper (.pure fun _ _ => trivial)
  refine (entered fun log known => known.1.1.1.1.2.1).bind fun answer => store_learns.bind fun _ =>
    (update_learns .submitted fun now _ _ holds undisturbed => ⟨?_, trivial⟩).bind fun _ =>
    .pure fun _ _ => trivial
  obtain ⟨⟨⟨⟨⟨⟨⟨⟨⟨⟨-, readId, row, read, found⟩, prepared⟩, -⟩, -⟩, -⟩, -⟩, -⟩, -⟩, -⟩, -⟩ := holds
  obtain rfl := not_not.mp prepared
  exact undisturbed readId row plan read found rfl

theorem reconcilePaper_learns :
    Learns discipline worker known (desk.reconcilePaper plan authority current)
      fun _ _ => True := by
  refine store_learns.bind fun _ => store_learns.bind fun _ =>
    (update_learns .underProtection fun now _ kept holds careful => ⟨careful, ?_⟩).bind fun _ =>
    .pure fun _ _ => trivial
  obtain ⟨⟨-, stopMs, stop⟩, takeProfitMs, takeProfit⟩ := holds
  exact ⟨⟨_, kept.stored _ _ _ stop, rfl, rfl, rfl⟩,
    ⟨_, kept.stored _ _ _ takeProfit, rfl, rfl, rfl⟩⟩

theorem reconcile_learns :
    Learns discipline worker known (desk.reconcile planId nowMs) fun _ _ => True := by
  refine entryPlan_learns.bind fun found => ?_
  obtain ⟨status, plan⟩ := found
  refine current_learns.bind fun current => (took_learns fun _ => rfl).bind fun stored =>
    preflight_learns.bind fun authority => required_learns.bind fun entry =>
    Learns.refuse.bind fun _ => ?_
  exact paper_learns (fun log known => known.1.1.2.1) reconcilePaper_learns

theorem cancelEntry_learns {confirmationHash : String} :
    Learns discipline worker known (desk.cancelEntry planId confirmationHash nowMs)
      fun _ _ => True := by
  refine entryPlan_learns.bind fun found => ?_
  obtain ⟨status, plan⟩ := found
  refine (took_learns fun _ => rfl).bind fun stored => required_learns.bind fun entry =>
    current_learns.bind fun current => preflight_learns.bind fun authority =>
    checked_learns.bind fun _ => ?_
  refine paper_learns (fun log known => known.1.2.2)
    ((update_learns .cancelled fun now _ kept _ careful => ⟨careful, ?_⟩).bind fun _ =>
      .pure fun _ _ => trivial)
  obtain guarded | cancelled := careful
  · have backs := kept.backed _ _ guarded
    exact backs
  · exact kept.backed _ _ cancelled

end

theorem deskMain_obeyed : Obeyed discipline deskMain fun _ _ _ => True := by
  intro worker call state kept _
  refine ⟨trivial, kept_isReading kept rfl, ?_⟩
  have learns : Learns discipline worker (fun _ => True) (deskMain call) fun _ _ => True := by
    unfold deskMain
    cases call.command with
    | submitEntry => exact submitEntry_learns
    | reconcile => exact reconcile_learns
    | cancelEntry => exact cancelEntry_learns
  exact (learns _ trivial).mono fun _ _ _ => trivial

/-! ### Cancelled plans -/

/-- Plans that were just built, of which no order exists. -/
structure Book.Fresh (book : Book) : Prop where
  prepared : ∀ planId row, book.plans.lookup planId = some row → row.status = .prepared
  unordered : book.orders = []

def opened (book : Book) : World entries where
  state := { shared := book }

def PlanStatus.Terminal : PlanStatus → Prop
  | cancelled | cancelledExpired | failsafeClosed => True
  | prepared | submitted | partiallyFilled | underProtection => False

def PlanStatus.Open : PlanStatus → Prop
  | submitted | partiallyFilled | underProtection => True
  | prepared | cancelled | cancelledExpired | failsafeClosed => False

def CancelledProtected (planId : String) (world : World entries) : Prop :=
  world.state.shared.status planId = some .cancelled → world.state.shared.Filled planId →
    world.state.shared.Working planId .stop ∧ world.state.shared.Working planId .takeProfit

def StaysTerminal (planId : String) (book : Book) (events : List (Event entries)) : Prop :=
  ∀ before later after status next, events = before ++ later ++ after →
    (Runs.run (World.step deskMain) (opened book) before).state.shared.status planId =
      some status → status.Terminal →
    (Runs.run (World.step deskMain) (opened book) (before ++ later)).state.shared.status planId =
      some next → ¬ next.Open

def CarefulStep (world : World entries) (event : Event entries) : Prop :=
  ∀ worker action next, world.turn deskMain event = some (worker, action, next) →
    Careful world.state.shared action

theorem opened_safe (fresh : book.Fresh) :
    WorldSafe discipline (fun _ _ _ => True) (opened book) := by
  refine ⟨⟨fun _ _ _ => nofun, fun planId status now => ?_⟩, fun _ => trivial⟩
  obtain ⟨row, found, rfl⟩ := Option.map_eq_some_iff.mp now
  rw [fresh.prepared planId row found]
  trivial

theorem cancelled_after (careful : Careful state.shared action)
    (cancelled : state.shared.status planId = some .cancelled) :
    (state.after worker action).shared.status planId = some .cancelled := by
  cases reading : isReading action with
  | true =>
    have same : (state.after worker action).shared = state.shared :=
      sharedAfter_of_isReading reading
    rw [same]
    exact cancelled
  | false =>
    cases action with
    | started call => cases reading
    | asked request => cases reading
    | answered request outcome => cases reading
    | transacted transaction outcome =>
      cases transaction with
      | getExecutionPlan => cases reading
      | latestExecutionOrder => cases reading
      | saveExecutionOrder => exact cancelled
      | updateExecutionPlanStatus written status =>
        show (state.shared.updateExecutionPlanStatus written status).status planId = _
        rw [status_updateExecutionPlanStatus]
        split_ifs with same
        · subst same
          rw [cancelled]
          cases status with
          | cancelled => rfl
          | _ => exact absurd cancelled careful
        · exact cancelled

theorem cancelled_step {world : World entries} {event : Event entries}
    (careful : CarefulStep world event)
    (cancelled : world.state.shared.status planId = some .cancelled) :
    (world.step deskMain event).state.shared.status planId = some .cancelled := by
  cases turn : world.turn deskMain event with
  | some move =>
    obtain ⟨worker, action, next⟩ := move
    rw [World.step_of_turn turn]
    exact cancelled_after (careful worker action next turn) cancelled
  | none =>
    unfold World.step
    rw [turn]
    cases event <;> exact cancelled

theorem careful_of_meets (fresh : book.Fresh) {events : List (Event entries)}
    (meets : Runs.Each (World.step deskMain) (Meets discipline deskMain) (opened book) events) :
    Runs.Each (World.step deskMain) CarefulStep (opened book) events :=
  Runs.each_of_each
    (fun _ _ safe meets => worldSafe_step (fun _ _ _ _ _ _ => trivial) deskMain_obeyed safe meets)
    (fun _ _ safe meets _ _ _ turn => (turn_safe deskMain_obeyed safe meets turn).1)
    (opened_safe fresh) meets

/-- In every run of calls in which plans are cancelled from their protection only, none is
reconciled over a cancellation, and none is cancelled between the two looks that a submission
takes at it, cancelled plans stay cancelled and protected. -/
theorem undisturbed_plans_stay_cancelled (fresh : book.Fresh) {events : List (Event entries)}
    (meets : Runs.Each (World.step deskMain) (Meets discipline deskMain) (opened book) events)
    (planId : String) :
    Runs.Throughout (World.step deskMain) (CancelledProtected planId) (opened book) events ∧
      StaysTerminal planId book events := by
  have safe : Runs.Throughout (World.step deskMain) (WorldSafe discipline fun _ _ _ => True)
      (opened book) events :=
    worldSafe_run (fun _ _ _ _ _ _ => trivial) deskMain_obeyed (opened_safe fresh) meets
  refine ⟨safe.mono fun world safe cancelled _ => safe.1.backed planId _ cancelled, ?_⟩
  have step : ∀ (world : World entries) (event : Event entries), CarefulStep world event →
      world.state.shared.status planId = some .cancelled →
        (world.step deskMain event).state.shared.status planId = some .cancelled :=
    fun world event careful => cancelled_step careful
  have stays := Runs.forever_iff_each.mpr ((careful_of_meets fresh meets).mono step)
  intro before later after status next split earlier terminal now live
  have kept : Kept (Runs.run (World.step deskMain) (opened book) before).state := by
    rw [split, List.append_assoc] at safe
    exact safe.left.last.1
  have backs := kept.backed planId status earlier
  cases status with
  | cancelled =>
    have last := stays before later after split earlier
    cases Option.some.inj (now.symm.trans last)
    exact live
  | prepared => exact terminal
  | submitted => exact terminal
  | partiallyFilled => exact backs
  | underProtection => exact terminal
  | cancelledExpired => exact backs
  | failsafeClosed => exact backs

/-- In every run of calls in which plans are cancelled from their protection only, and nothing is
submitted or reconciled over a cancellation, cancelled plans stay cancelled and protected. -/
theorem cancelled_plans_stay_cancelled (fresh : book.Fresh) {events : List (Event entries)}
    (careful : Runs.Each (World.step deskMain) CarefulStep (opened book) events)
    (planId : String) :
    Runs.Throughout (World.step deskMain) (CancelledProtected planId) (opened book) events ∧
      StaysTerminal planId book events :=
  undisturbed_plans_stay_cancelled fresh (careful.mono fun _ _ careful worker action next turn =>
    undisturbed_of_careful (careful worker action next turn)) planId

/-! ### A paper plan is cancelled before it is reconciled -/

instance (before : Option PlanStatus) (status : PlanStatus) : Decidable (MayFollow before status) :=
  match status with
  | .cancelled => inferInstanceAs (Decidable (_ ∨ _))
  | .prepared | .submitted | .partiallyFilled | .underProtection | .cancelledExpired
  | .failsafeClosed => inferInstanceAs (Decidable (before ≠ some .cancelled))

instance (book : Book) (action : Action entries) : Decidable (Careful book action) :=
  match action with
  | .transacted (.updateExecutionPlanStatus _ _) _ => inferInstanceAs (Decidable (MayFollow _ _))
  | .transacted (.getExecutionPlan _) _ => .isTrue trivial
  | .transacted (.latestExecutionOrder _ _) _ => .isTrue trivial
  | .transacted (.saveExecutionOrder _ _) _ => .isTrue trivial
  | .started _ => .isTrue trivial
  | .asked _ => .isTrue trivial
  | .answered _ _ => .isTrue trivial

instance (world : World entries) (event : Event entries) : Decidable (CarefulStep world event) :=
  match turn : world.turn deskMain event with
  | some (worker, action, next) => decidable_of_iff (Careful world.state.shared action)
      ⟨fun careful _ _ _ same => by
        obtain ⟨-, rfl, -⟩ := Option.some.inj (turn.symm.trans same)
        exact careful, fun careful => careful worker action next turn⟩
  | none => .isTrue fun _ _ _ same => nomatch turn.symm.trans same

instance (book : Book) (planId : String) (role : OrderRole) :
    Decidable (book.Working planId role) :=
  inferInstanceAs (Decidable (∃ _ ∈ _, _))

instance (book : Book) (planId : String) : Decidable (book.Filled planId) :=
  inferInstanceAs (Decidable (∃ _ ∈ _, _))

instance (planId : String) (world : World entries) :
    Decidable (CancelledProtected planId world) :=
  inferInstanceAs (Decidable (_ → _ → _))

namespace Sample

def desk : Desk where
  config := { mode := .paper }
  dataRestBaseUrl := "https://fapi.binance.com"
  digests := digests
  credentialsPresent := false
  liveConfirmed := false
  autoExecuteConfirmed := false

def prepared : ExecutionPlan where
  planId := "plan"
  signalId := "signal"
  symbol := "BTCUSDT"
  direction := .long
  mode := .paper
  orderType := "LIMIT"
  quantity := 1 / 2
  entryPrice := 100
  stopPrice := 90
  takeProfitPrice := 150
  notionalUsdt := 50
  leverage := 2
  validationStatus := "PASS"
  createdAtMs := 0
  expiresAtMs := 60000
  signalExpiresAtMs := 60000
  roundedRrNet := 4
  estimatedMaxLossUsdt := 6
  planHash := "plan"

def paperBook : Book where
  plans := AList.singleton "plan" ⟨.prepared, .entry prepared⟩

def answers : (request : DeskRequest) → Except Fault request.Answer
  | .clock => .ok (1000 : Int)
  | .refreshSignalState _ _ => .ok ()
  | .dailyRealizedLossUsdt _ => .ok (0 : ℚ)
  | _ => .error (.other "no answer")

def calls (worker : ℕ) (command : DeskCommand) : List (Event entries) :=
  .start worker ⟨desk, command⟩ ::
    (List.replicate 7 [.advance worker, .answer worker answers]).flatten

def submits (worker : ℕ) : List (Event entries) :=
  calls worker (.submitEntry "plan" "plan" false (some 1000))

def reconciles (worker : ℕ) : List (Event entries) := calls worker (.reconcile "plan" (some 2000))

def cancels (worker : ℕ) : List (Event entries) :=
  calls worker (.cancelEntry "plan" "plan" (some 3000))

theorem fresh_paperBook : paperBook.Fresh where
  prepared planId row found := by
    have member := AList.mem_lookup_iff.mp (Option.mem_def.mpr found)
    cases List.mem_singleton.mp member
    rfl
  unordered := rfl

end Sample

theorem reconciled_plan_stays_cancelled :
    Runs.Throughout (World.step deskMain) (CancelledProtected "plan") (opened Sample.paperBook)
        (Sample.submits 0 ++ Sample.reconciles 1 ++ Sample.cancels 2) ∧
      StaysTerminal "plan" Sample.paperBook
        (Sample.submits 0 ++ Sample.reconciles 1 ++ Sample.cancels 2) :=
  cancelled_plans_stay_cancelled Sample.fresh_paperBook (by decide +kernel) "plan"

/-- A filled paper plan is cancelled without a protective order, and is protected afterwards. -/
theorem cancelled_plan_reconciled :
    ¬ CancelledProtected "plan" (Runs.run (World.step deskMain) (opened Sample.paperBook)
        (Sample.submits 0 ++ Sample.cancels 1)) ∧
      ¬ StaysTerminal "plan" Sample.paperBook
        (Sample.submits 0 ++ Sample.cancels 1 ++ Sample.reconciles 2) := by
  refine ⟨by decide +kernel, fun stays => ?_⟩
  have cancelled : (Runs.run (World.step deskMain) (opened Sample.paperBook)
      (Sample.submits 0 ++ Sample.cancels 1)).state.shared.status "plan" = some .cancelled := by
    decide +kernel
  have guarded : (Runs.run (World.step deskMain) (opened Sample.paperBook)
      (Sample.submits 0 ++ Sample.cancels 1 ++ Sample.reconciles 2)).state.shared.status "plan" =
        some .underProtection := by
    decide +kernel
  exact stays _ _ [] _ _ (List.append_nil _).symm cancelled trivial guarded trivial

end QuantAgent.Execution.Entry
