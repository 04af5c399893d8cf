import CpsKitchen.ConveyorAgent.Rounds
import CpsKitchen.KitchenAgent.Backlog
import CpsKitchen.RobotAgent.Effort
import CpsKitchen.Plant.Standstill

/-!
# The undisturbed plant comes to a standstill

Without new orders and answers an undisturbed plant can do only so much. A robot
spends its workload, the conveyor its rounds and the kitchen its backlog, and
what one agent asks of another costs the other less than the one has paid. So
over a whole run the orders and the answers pay for every step.
-/

namespace CpsKitchen.Plant

open CpsKitchen.Reactive CpsKitchen.Recipes
open CpsKitchen.RobotAgent (Robot Task work effort taskWeight)
open CpsKitchen.ConveyorAgent (Conveyor PlateId Site TargetsOnBelt)
open CpsKitchen.KitchenAgent (Kitchen backlog waitingOrders postedOrders choosing)

set_option autoImplicit false

variable {RobotId : Type} {config : Config RobotId} {p : State RobotId} {limit : Nat}

section Smooth

/-- Every action takes time, and no recipe takes more than the limit. -/
structure Paced (config : Config RobotId) (limit : Nat) : Prop where
  last : ∀ id, RobotAgent.ActionsLast (config.robot id)
  bounded : ∀ recipeId recipe, config.recipeParser.getRecipe recipeId = some recipe →
    effort recipe.actionQueue ≤ limit

/-- The controller refuses a request of the conveyor. Its `choose_next_robot` never
does, but the conveyor would go on without an answer. -/
def refusesRequest : Event RobotId → Bool
  | .conveyor (.requestNextRobot _ (some false)) => true
  | _ => false

/-- Nothing fails, and the controller takes every request. -/
def Smooth (config : Config RobotId) (p : State RobotId) (event : Event RobotId) : Prop :=
  Undisturbed config p event ∧ refusesRequest event = false

/-- A smooth step that nothing from outside has called for. -/
def Unprompted (config : Config RobotId) (p : State RobotId) (event : Event RobotId) : Prop :=
  Smooth config p event ∧ ¬ FromOutside event

instance [Fintype RobotId] (config : Config RobotId) (p : State RobotId)
    (event : Event RobotId) : Decidable (Smooth config p event) :=
  inferInstanceAs (Decidable (_ ∧ _))

instance (event : Event RobotId) : Decidable (FromOutside event) :=
  match event with
  | .placeOrder | .answer _ | .conveyor (.receiveNextRobot _) => isTrue trivial
  | .conveyor (.receiveFinishedOrderNotification _ _) | .conveyor (.positionChanged _ _)
  | .conveyor (.robotStopped _) | .conveyor .controllerLost | .conveyor .controllerConnected
  | .conveyor .timerExpires | .conveyor (.runHandler _) | .conveyor (.retrieve _ _)
  | .conveyor .retrieved | .conveyor (.requestNextRobot _ _) | .conveyor .requested
  | .conveyor (.deliver _ _ _) | .conveyor .delivered | .robot _ _ | .kitchen _
  | .requestNextRobot | .notify _ | .renotify _ | .handover _ _ | .deliverTask _ _
  | .deliverOrder _ | .instruct _ => isFalse id

instance [Fintype RobotId] (config : Config RobotId) (p : State RobotId)
    (event : Event RobotId) : Decidable (Unprompted config p event) :=
  inferInstanceAs (Decidable (_ ∧ _))

theorem Smooth.request_accepted {plateId : PlateId} {reply : Option Bool}
    (smooth : Smooth config p (.conveyor (.requestNextRobot plateId reply))) :
    reply = some true := by
  obtain ⟨answered, taken⟩ := smooth
  cases reply with
  | none => exact absurd rfl answered
  | some accepted =>
      cases accepted with
      | true => rfl
      | false => contradiction

theorem ownRobot_alone {r : Robot} {own : RobotAgent.Event} (permitted : ownRobotEvent own = true)
    (undisturbed : RobotUndisturbed own) : RobotAgent.LeftAlone r own := by
  cases own with
  | runHandler | cookNextOrder | timerExpires => trivial
  | notifyConveyor reply =>
      cases undisturbed
      contradiction
  | receiveTask | handoverFinishedOrder => contradiction
  | switchPosition | commitNewPosition | reconfigure | conveyorLost | conveyorConnected =>
      exact undisturbed.elim

theorem ownConveyor_goes {own : ConveyorAgent.Event} (permitted : ownConveyorEvent own = true)
    (smooth : Smooth config p (.conveyor own))
    (inside : ¬ FromOutside (.conveyor own : Event RobotId)) :
    ConveyorAgent.GoesOn p.conveyor own := by
  cases own with
  | timerExpires | runHandler | retrieved | requested | delivered => trivial
  | retrieve position reply =>
      cases reply with
      | none => trivial
      | some reply => contradiction
  | requestNextRobot plateId reply => exact smooth.request_accepted
  | deliver plateId kitchen robot =>
      exact fun finished arrived => smooth.1.1 ⟨finished, arrived⟩
  | receiveNextRobot => exact absurd trivial inside
  | receiveFinishedOrderNotification => contradiction
  | positionChanged | robotStopped | controllerLost | controllerConnected =>
      exact smooth.1.elim

theorem ownKitchen_goes {own : KitchenAgent.Event} (permitted : ownKitchenEvent own = true)
    (undisturbed : Undisturbed config p (.kitchen own)) : KitchenAgent.GoesOn own := by
  cases own with
  | timerExpires | runHandler | instruct | countOrder => trivial
  | chooseNextRobot reply =>
      cases undisturbed
      contradiction
  | placeRandomOrder | receiveNextRobot | receiveCompletedOrder => contradiction
  | positionChanged | robotStopped | controllerLost | controllerConnected =>
      exact undisturbed.elim

theorem refusesRequest_cases {event : Event RobotId} (refuses : refusesRequest event = true) :
    ∃ plateId, event = .conveyor (.requestNextRobot plateId (some false)) := by
  unfold refusesRequest at refuses
  split at refuses
  next plateId => exact ⟨plateId, rfl⟩
  · contradiction

theorem request_returns {config : ConveyorAgent.Config} {c : Conveyor} {plateId : PlateId}
    (client : c.controllerClient = true) {reply : Option Bool}
    (nothing : ConveyorAgent.step config c (.requestNextRobot plateId (some true)) = none) :
    ConveyorAgent.step config c (.requestNextRobot plateId reply) = none := by
  cases ran : ConveyorAgent.step config c (.requestNextRobot plateId reply) with
  | none => rfl
  | some result =>
      obtain ⟨running, reaction⟩ := ConveyorAgent.step_cases ran
      cases reaction with
      | requesting left _ _ loop member =>
          simp only [ConveyorAgent.step, running, loop, member, if_true,
            ConveyorAgent.requestNextRobot] at nothing
          split at nothing
          · simp [ConveyorAgent.setWorker, client] at nothing
          · contradiction

/-- Where nothing goes on smoothly, nothing goes on undisturbed. -/
theorem standing_of_stuck [DecidableEq RobotId] (client : p.conveyor.controllerClient = true)
    (stuck : (machine config).Stuck (Unprompted config) p) : Standing config p := by
  intro event undisturbed inside
  cases refuses : refusesRequest event with
  | false => exact stuck event ⟨⟨undisturbed, refuses⟩, inside⟩
  | true =>
      obtain ⟨plateId, rfl⟩ := refusesRequest_cases refuses
      have accepted := stuck (.conveyor (.requestNextRobot plateId (some true)))
        ⟨⟨by simp [Undisturbed, ConveyorUndisturbed], rfl⟩, not_false⟩
      cases ran : ConveyorAgent.step config.conveyor p.conveyor
          (.requestNextRobot plateId (some true)) with
      | none => simp [step, request_returns client ran]
      | some result => simp [machine, step, ownConveyorEvent, ran] at accepted

theorem Step.nextOrder_kept [DecidableEq RobotId] {after : State RobotId} {event : Event RobotId}
    {outputs : List (Output RobotId)} (other : event ≠ .placeOrder)
    (step : Step config p event after outputs) : after.nextOrder = p.nextOrder := by
  cases step with
  | placed => exact absurd rfl other
  | robot | conveyor | kitchen | requested | answered | notified | handedOver | taskDelivered
  | orderDelivered | instructed => rfl

end Smooth

section Invariant

/-- What the count of the work rests on, in all agents. -/
structure Counted (config : Config RobotId) (p : State RobotId) : Prop where
  inOrder : InOrder config p
  belt : ConveyorAgent.Belt config.conveyor p.conveyor
  cleared : ConveyorAgent.Cleared p.conveyor
  attends : ConveyorAgent.Attends p.conveyor
  targets : TargetsOnBelt config.conveyor p.conveyor
  accounted : ∀ id, (work (p.robots id)).Accounted
  beside : ∀ id, place p id < config.conveyor.plateCount

theorem Counted.answers (counted : Counted config p) (answer : ConveyorAgent.NextRobot)
    (posted : .handleReceiveNextRobot answer ∈ p.conveyor.posted)
    (named : answer.robotEndpoint ≠ "") :
    answer.robotPosition < config.conveyor.plateCount := by
  rcases counted.inOrder.conveyor.posted _ posted with nowhere | nameless | ⟨id, _, stands⟩
  · rw [nowhere]
    exact config.conveyor.plateCountPositive
  · exact absurd nameless named
  · rw [← stands]
    exact counted.beside id

variable [DecidableEq RobotId] {after : State RobotId} {event : Event RobotId}
  {outputs : List (Output RobotId)}

theorem initial_counted (initial : (machine config).start p)
    (beside : ∀ id, place p id < config.conveyor.plateCount) : Counted config p := by
  have inOrder := initial_inOrder initial
  obtain ⟨started, conveyor, _⟩ := initial
  exact
    { inOrder := inOrder
      belt := by
        rw [conveyor]
        exact ConveyorAgent.initial_belt config.conveyor
      cleared := by
        rw [conveyor]
        exact ConveyorAgent.initial_cleared config.conveyor
      attends := by
        rw [conveyor]
        exact ConveyorAgent.attends_of_idle rfl
      targets := by
        rw [conveyor]
        exact fun _ => config.conveyor.plateCountPositive
      accounted := fun id => RobotAgent.initial_accounted (started id)
      beside := beside }

theorem Step.conveyor_accepted (smooth : Smooth config p event)
    (step : Step config p event after outputs) :
    after.conveyor = p.conveyor ∨ ∃ own told,
      ConveyorAgent.step config.conveyor p.conveyor own = some (after.conveyor, told) ∧
        ∀ plateId reply, own = .requestNextRobot plateId reply → reply = some true := by
  cases step with
  | robot | kitchen | placed | requested | answered | instructed => exact .inl rfl
  | conveyor own conveyor outputs _ taken =>
      refine .inr ⟨own, outputs, taken, ?_⟩
      rintro plateId reply rfl
      exact smooth.request_accepted
  | notified _ _ _ _ conveyor received _ _ _ taken => exact .inr ⟨_, received, taken, by simp⟩
  | handedOver _ _ _ _ _ conveyor taken _ _ retrieved =>
      exact .inr ⟨_, taken, retrieved, by simp⟩
  | taskDelivered _ _ _ _ _ _ conveyor delivered _ _ taken =>
      exact .inr ⟨_, delivered, taken, by simp⟩
  | orderDelivered _ _ _ conveyor delivered _ _ taken =>
      exact .inr ⟨_, delivered, taken, by simp⟩

theorem Step.accounted (paced : Paced config limit) (inOrder : InOrder config p)
    (undisturbed : Undisturbed config p event) (step : Step config p event after outputs)
    (accounted : ∀ id, (work (p.robots id)).Accounted) (id : RobotId) :
    (work (after.robots id)).Accounted := by
  rcases step.robot_cases id with same | ⟨own, sent, taken, asked⟩
  · rw [same]
    exact accounted id
  · have permitted : RobotAgent.CommitsOnce (p.robots id) own := by
      rcases asked with named | plain
      · exact undisturbed.eachCommitsOnce id own named
      · rintro rfl
        contradiction
    have sound := (inOrder.robots id).toSound
    exact (RobotAgent.step_sound sound permitted taken).2.accounted (paced.last id) sound.readable
      (accounted id)

theorem step_counted (draws : DrawsKnown config) (paced : Paced config limit)
    (counted : Counted config p) (smooth : Smooth config p event)
    (step : Step config p event after outputs) : Counted config after := by
  obtain ⟨inOrder, same⟩ := step_inOrder draws counted.inOrder smooth.1 step
  have conveyor : ConveyorAgent.Cleared after.conveyor ∧ ConveyorAgent.Attends after.conveyor ∧
      TargetsOnBelt config.conveyor after.conveyor := by
    rcases step.conveyor_accepted smooth with kept | ⟨own, told, taken, accepted⟩
    · rw [kept]
      exact ⟨counted.cleared, counted.attends, counted.targets⟩
    · have reaction := (ConveyorAgent.step_cases taken).2
      have cleared := ConveyorAgent.step_cleared counted.cleared counted.belt
        counted.inOrder.driver reaction
      have attends := ConveyorAgent.step_attends counted.attends counted.inOrder.conveyor.client
        accepted taken
      exact ⟨cleared, attends, ConveyorAgent.step_targets counted.targets counted.belt
        counted.answers reaction⟩
  obtain ⟨cleared, attends, targets⟩ := conveyor
  exact
    { inOrder := inOrder
      belt := step.belt counted.belt
      cleared := cleared
      attends := attends
      targets := targets
      accounted := step.accounted paced counted.inOrder smooth.1 counted.accounted
      beside := by
        rw [same]
        exact counted.beside }

theorem reaches_counted (draws : DrawsKnown config) (paced : Paced config limit)
    {history : History (Event RobotId) (Output RobotId)}
    (reached : (machine config).Reaches (Smooth config) history p)
    (beside : ∀ id, place p id < config.conveyor.plateCount) : Counted config p := by
  induction reached with
  | start initial => exact initial_counted initial beside
  | step earlier permitted taken ih =>
      have inOrder := reaches_inOrder draws (earlier.mono (fun _ _ smooth => smooth.1))
      have same := (step_inOrder draws inOrder permitted.1 (step_cases taken)).2
      rw [same] at beside
      exact step_counted draws paced (ih beside) permitted (step_cases taken)

theorem followed_kept (draws : DrawsKnown config) (inOrder : InOrder config p)
    {later : History (Event RobotId) (Output RobotId)} {final : State RobotId}
    (followed : ((machine config).resume p).Reaches (Unprompted config) later final) :
    place final = place p ∧ final.nextOrder = p.nextOrder := by
  have kept : InOrder config final ∧ place final = place p ∧ final.nextOrder = p.nextOrder := by
    induction followed with
    | start first =>
        cases first
        exact ⟨inOrder, rfl, rfl⟩
    | step _ unprompted taken ih =>
        obtain ⟨before, place, nextOrder⟩ := ih
        have step := step_cases taken
        obtain ⟨after, same⟩ := step_inOrder draws before unprompted.1.1 step
        have noOrder := step.nextOrder_kept (by rintro rfl; exact unprompted.2 trivial)
        exact ⟨after, same.trans place, noOrder.trans nextOrder⟩
  exact kept.2

end Invariant

section Weight

variable [Fintype RobotId]

def notifyingCost (config : Config RobotId) : Nat :=
  ConveyorAgent.Handler.weight ⟨config.conveyor, Fintype.card RobotId, 0⟩
    (.handleFinishedOrderNotification "" 0) + 1

def site (config : Config RobotId) (limit : Nat) : Site where
  config := config.conveyor
  robotCount := Fintype.card RobotId
  taskCost := notifyingCost config * taskWeight limit

def robotsWorkload (config : Config RobotId) (robots : RobotId → Robot) : Nat :=
  ∑ id, RobotAgent.workload (config.robot id) (robots id)

/-- What the plant has still to do before it waits for something from outside. -/
def plantWeight (config : Config RobotId) (limit : Nat) (p : State RobotId) : Nat :=
  notifyingCost config * robotsWorkload config p.robots +
    ConveyorAgent.workload (site config limit) p.conveyor +
    backlog (site config limit).taskCost p.kitchen

/-- What the kitchen and a robot do for an answer, and the step that brings it. -/
def assignmentCost (config : Config RobotId) (limit : Nat) : Nat :=
  KitchenAgent.Handler.weight (site config limit).taskCost (.handleReceiveNextRobot ⟨0, "", 0, 0⟩) +
    1

/-- What the plant does for an order until a robot has done its part. -/
def orderCost (config : Config RobotId) (limit : Nat) : Nat :=
  KitchenAgent.Handler.weight (site config limit).taskCost (.handleRandomOrderRequest 0) + 1 +
    assignmentCost config limit

/-- What the belt and the next robot do for an answer to the conveyor. -/
def answerCost (config : Config RobotId) (limit : Nat) : Nat :=
  ConveyorAgent.Handler.weight (site config limit)
    (.handleReceiveNextRobot ⟨0, "", 0, ⟨0, 0, 0⟩⟩) + 1

/-- What a step from outside makes the plant do. -/
def income (config : Config RobotId) (limit : Nat) : Event RobotId → Nat
  | .placeOrder =>
      KitchenAgent.Handler.weight (site config limit).taskCost (.handleRandomOrderRequest 0) + 1
  | .answer _ => assignmentCost config limit
  | .conveyor (.receiveNextRobot _) => answerCost config limit
  | _ => 0

theorem income_inside {event : Event RobotId} (inside : ¬ FromOutside event) :
    income config limit event = 0 := by
  unfold income
  split
  · exact absurd trivial inside
  · exact absurd trivial inside
  · exact absurd trivial inside
  · rfl

theorem notification_weight (config : Config RobotId) (limit : Nat) (name : String)
    (position : Position) :
    ConveyorAgent.Handler.weight (site config limit)
        (.handleFinishedOrderNotification name position) + 1 = notifyingCost config := rfl

theorem notifyingCost_pos (config : Config RobotId) : 0 < notifyingCost config :=
  Nat.succ_pos _

variable [DecidableEq RobotId] {after : State RobotId} {event : Event RobotId}
  {outputs : List (Output RobotId)}

theorem robotsWorkload_update (config : Config RobotId) (robots : RobotId → Robot) (id : RobotId)
    (robot : Robot) :
    robotsWorkload config (Function.update robots id robot) +
        RobotAgent.workload (config.robot id) (robots id) =
      robotsWorkload config robots + RobotAgent.workload (config.robot id) robot := by
  have others : ∀ other ∈ Finset.univ, other ≠ id →
      RobotAgent.workload (config.robot other) (Function.update robots id robot other) =
        RobotAgent.workload (config.robot other) (robots other) := by
    intro other _ different
    rw [Function.update_of_ne different]
  have exchanged := sum_exchange (Finset.mem_univ id) others
  rwa [Function.update_self] at exchanged

theorem robotsWorkload_step {id : RobotId} {robot : Robot} (gone come : Nat)
    (worked : RobotAgent.workload (config.robot id) robot + gone ≤
      RobotAgent.workload (config.robot id) (p.robots id) + come) :
    notifyingCost config * robotsWorkload config (Function.update p.robots id robot) +
        notifyingCost config * gone ≤
      notifyingCost config * robotsWorkload config p.robots + notifyingCost config * come := by
  have updated := robotsWorkload_update config p.robots id robot
  rw [← Nat.mul_add, ← Nat.mul_add]
  apply Nat.mul_le_mul_left
  omega

omit [DecidableEq RobotId] in
theorem Counted.notifications_card (counted : Counted config p) :
    p.conveyor.notifications.card ≤ Fintype.card RobotId := by
  classical
  have places : p.conveyor.notifications ⊆ Finset.univ.image (place p) := by
    intro position noted
    obtain ⟨entry, there⟩ :=
      Option.ne_none_iff_exists'.mp (counted.inOrder.conveyor.noted position noted)
    obtain ⟨_, _, id, _, stands⟩ := counted.inOrder.conveyor.robots position entry there
    exact Finset.mem_image.mpr ⟨id, Finset.mem_univ id, stands⟩
  exact (Finset.card_le_card places).trans Finset.card_image_le

omit [DecidableEq RobotId] in
theorem Counted.orderly (counted : Counted config p) :
    ConveyorAgent.Orderly (site config limit) p.conveyor where
  belt := counted.belt
  driver := counted.inOrder.driver
  cleared := counted.cleared
  attends := counted.attends
  targets := counted.targets
  few := counted.notifications_card
  connected := fun posted => counted.inOrder.conveyor.posted _ posted

/-- What a robot does with a task was paid by whoever instructed it. -/
theorem Counted.receives (paced : Paced config limit) (counted : Counted config p) {id : RobotId}
    {robot : Robot} {task asked : Task} {addressed position : Position} {result : Bool}
    (called : RobotAgent.step (config.robot id) (p.robots id) (.receiveTask asked addressed) =
      some (robot, [.taskReply task position result])) :
    notifyingCost config * robotsWorkload config (Function.update p.robots id robot) ≤
      notifyingCost config * robotsWorkload config p.robots + (site config limit).taskCost := by
  have received := RobotAgent.step_receiveTask (counted.inOrder.robots id).toSteady paced.bounded
    called
  have most : (if result then taskWeight limit else 0) ≤ taskWeight limit := by
    split
    · exact le_rfl
    · exact Nat.zero_le _
  exact robotsWorkload_step 0 (taskWeight limit) (received.trans (Nat.add_le_add_left most _))

/-- Every step of the plant takes something off what is left to do, and only what
comes from outside adds to it. -/
theorem step_weight (endpoints : Function.Injective config.endpoint) (paced : Paced config limit)
    (counted : Counted config p) (smooth : Smooth config p event)
    (step : Step config p event after outputs) :
    plantWeight config limit after + 1 ≤
      plantWeight config limit p + income config limit event := by
  have orderly : ConveyorAgent.Orderly (site config limit) p.conveyor := counted.orderly
  have positive := notifyingCost_pos config
  cases step with
  | robot id own robot outputs permitted taken =>
      have spent := RobotAgent.step_workload_lt (paced.last id)
        (counted.inOrder.robots id).toSteady (counted.accounted id)
        (ownRobot_alone permitted smooth.1) taken
      have robots := robotsWorkload_step 1 0 (Nat.succ_le_of_lt spent)
      simp only [plantWeight, setRobot]
      omega
  | conveyor own conveyor outputs permitted taken =>
      by_cases inside : FromOutside (.conveyor own : Event RobotId)
      · cases own with
        | receiveNextRobot answer =>
            have noTimer : ConveyorAgent.Handler.handleReceiveNextRobot answer ≠
              .timerCompleted .moveConveyor := by simp
            have posted := ConveyorAgent.post_workload (site config limit) p.conveyor noTimer
            cases (ConveyorAgent.step_cases taken).2
            simp only [ConveyorAgent.Handler.weight] at posted
            simp only [plantWeight, income, answerCost, ConveyorAgent.Handler.weight]
            omega
        | _ => exact inside.elim
      · have spent := ConveyorAgent.step_workload orderly
          (ownConveyor_goes permitted smooth inside) taken
        rw [income_inside inside]
        simp only [plantWeight]
        omega
  | kitchen own kitchen outputs permitted taken =>
      have spent := KitchenAgent.step_backlog (site config limit).taskCost
        (ownKitchen_goes permitted smooth.1) taken
      simp only [plantWeight]
      omega
  | placed kitchen received taken =>
      have posted := KitchenAgent.backlog_post (site config limit).taskCost p.kitchen
        (.handleRandomOrderRequest p.nextOrder)
      simp only [KitchenAgent.Handler.weight] at posted
      cases (KitchenAgent.step_cases taken).2
      simp only [plantWeight, income, KitchenAgent.Handler.weight]
      omega
  | answered answer kitchen received member taken =>
      have posted := KitchenAgent.backlog_post (site config limit).taskCost p.kitchen
        (.handleReceiveNextRobot answer)
      simp only [KitchenAgent.Handler.weight] at posted
      cases (KitchenAgent.step_cases taken).2
      simp only [plantWeight, income, assignmentCost, KitchenAgent.Handler.weight]
      omega
  | requested order recipeId kitchen sent choosing taken =>
      have goes : KitchenAgent.GoesOn (.chooseNextRobot (some true)) := by
        simp [KitchenAgent.GoesOn]
      have spent := KitchenAgent.step_backlog (site config limit).taskCost goes taken
      simp only [plantWeight]
      omega
  | notified id call robot sent conveyor received asked notification called taken =>
      have alone : RobotAgent.LeftAlone (p.robots id) call := by
        rcases notification with rfl | ⟨rfl, _⟩ <;> rfl
      have spent := RobotAgent.step_workload_lt (paced.last id)
        (counted.inOrder.robots id).toSteady (counted.accounted id) alone called
      -- the step that the robot spends pays for what the conveyor will do
      have robots := robotsWorkload_step 1 0 (Nat.succ_le_of_lt spent)
      have noTimer : ConveyorAgent.Handler.handleFinishedOrderNotification (config.endpoint id)
        (p.robots id).position ≠ .timerCompleted .moveConveyor := by simp
      have posted := ConveyorAgent.post_workload (site config limit) p.conveyor noTimer
      have cost := notification_weight config limit (config.endpoint id) (p.robots id).position
      cases (ConveyorAgent.step_cases taken).2
      simp only [plantWeight, setRobot]
      omega
  | handedOver id position robot dish reply conveyor taken asks called retrieved =>
      have less := RobotAgent.step_handover (paced.last id)
        (counted.inOrder.robots id).toSteady (counted.accounted id) called
      have robots := robotsWorkload_step 0 0 less
      have goes : ConveyorAgent.GoesOn p.conveyor (.retrieve position (some (dish, reply))) :=
        fun _ => (handover_position called).trans (counted.inOrder.asked asks endpoints)
      have spent := ConveyorAgent.step_workload orderly goes retrieved
      simp only [plantWeight, setRobot]
      omega
  | taskDelivered id plateId robot task position result conveyor delivered deliverable called
      taken =>
      -- the trip of the dish has paid for the task, whether or not it is taken
      have robots := counted.receives paced called
      have goes : ConveyorAgent.GoesOn p.conveyor (.deliver plateId none
          ⟨some (p.conveyor.plates plateId).position, some true, some (position, result)⟩) := by
        intro finished
        exact absurd (deliverable.1.symm.trans finished) (by decide)
      have spent := ConveyorAgent.step_workload orderly goes taken
      obtain ⟨_, _, _, told, _⟩ := taskDelivered_conveyor deliverable called taken
      subst told
      simp only [amount_cons, amount_nil, ConveyorAgent.Output.servingWeight] at spent
      simp only [plantWeight, setRobot]
      omega
  | orderDelivered plateId kitchen received conveyor delivered deliverable called taken =>
      have goes : ConveyorAgent.GoesOn p.conveyor
          (.deliver plateId (some true) ⟨none, none, none⟩) := fun _ _ => rfl
      have spent := ConveyorAgent.step_workload orderly goes taken
      have told := orderDelivered_conveyor deliverable taken
      have posted := KitchenAgent.backlog_post (site config limit).taskCost p.kitchen
        (.incrementCompletedOrders (p.conveyor.plates plateId).dish)
      subst told
      simp only [amount_cons, amount_nil, ConveyorAgent.Output.servingWeight] at spent
      simp only [KitchenAgent.Handler.weight] at posted
      cases (KitchenAgent.step_cases called).2
      simp only [plantWeight]
      omega
  | instructed id answer robot task position result kitchen sent instructing called taken =>
      have robots := counted.receives paced called
      have goes : KitchenAgent.GoesOn
        (.instruct ⟨some answer.robotPosition, some true, some (position, result)⟩) := trivial
      have spent := KitchenAgent.step_backlog (site config limit).taskCost goes taken
      have told := (instruct_called instructing taken).2
      subst told
      simp only [amount_cons, amount_nil, KitchenAgent.Output.servingWeight] at spent
      simp only [plantWeight, setRobot]
      omega

theorem initial_weight (initial : (machine config).start p) : plantWeight config limit p = 0 := by
  obtain ⟨started, conveyor, kitchen, _⟩ := initial
  have robots : robotsWorkload config p.robots = 0 := by
    apply Finset.sum_eq_zero
    intro id _
    exact RobotAgent.initial_workload (started id)
  have belt : ConveyorAgent.workload (site config limit) p.conveyor = 0 := by
    rw [conveyor]
    exact ConveyorAgent.initial_workload (site config limit)
  rw [plantWeight, robots, belt, kitchen]
  rfl

end Weight

section Payment

variable [Fintype RobotId] [DecidableEq RobotId] {after : State RobotId} {event : Event RobotId}
  {outputs : List (Output RobotId)}

def unanswered (p : State RobotId) : Nat :=
  Multiset.card (waitingOrders p.kitchen + choosing p.kitchen + requestedOrders p)

def answersConveyor : Event RobotId → Bool
  | .conveyor (.receiveNextRobot _) => true
  | _ => false

omit [Fintype RobotId] in
theorem step_unanswered (undisturbed : Undisturbed config p event)
    (step : Step config p event after outputs) :
    unanswered after + p.nextOrder ≤ unanswered p + after.nextOrder := by
  obtain ⟨call, told, share⟩ := step.kitchen_share
  have taken := requests_taken undisturbed step
  rw [share.heard, share.heard] at taken
  have requested := congrArg Multiset.card share.requests
  have waiting := congrArg Multiset.card share.books.waiting
  have chosen := congrArg Multiset.card share.books.choosing
  rw [taken] at requested
  simp only [Multiset.card_add] at requested waiting chosen
  simp only [unanswered, Multiset.card_add]
  rcases share.placed with ⟨noOrder, same⟩ | ⟨one, next⟩
  · rw [noOrder, Multiset.card_zero] at waiting
    rw [same]
    omega
  · rw [one, Multiset.card_singleton] at waiting
    rw [next]
    omega

omit [Fintype RobotId] in
theorem answered_unanswered {answer : KitchenAgent.NextRobot}
    (step : Step config p (.answer answer) after outputs) :
    unanswered after + 1 = unanswered p := by
  cases step with
  | answered _ kitchen received member taken =>
      cases (KitchenAgent.step_cases taken).2
      have waits : waitingOrders (KitchenAgent.post p.kitchen (.handleReceiveNextRobot answer)) =
          waitingOrders p.kitchen := by
        have nothing : List.filterMap KitchenAgent.Handler.requested?
          [.handleReceiveNextRobot answer] = [] := rfl
        simp only [waitingOrders, postedOrders, KitchenAgent.post, List.filterMap_append, nothing,
          List.append_nil]
      have chooses : choosing (KitchenAgent.post p.kitchen (.handleReceiveNextRobot answer)) =
        choosing p.kitchen := rfl
      have length := List.length_erase_of_mem member
      have nonempty := List.length_pos_of_mem member
      simp only [unanswered, waits, chooses, requestedOrders, Multiset.card_add,
        Multiset.coe_card, List.length_map]
      omega
  | notified _ _ _ _ _ _ asked => rcases asked with same | same <;> contradiction

omit [DecidableEq RobotId] in
theorem income_eq (notPlaced : event ≠ .placeOrder)
    (notAnswered : ∀ answer, event ≠ .answer answer) :
    income config limit event =
      answerCost config limit * (if answersConveyor event then 1 else 0) := by
  cases event with
  | placeOrder => exact absurd rfl notPlaced
  | answer answer => exact absurd rfl (notAnswered answer)
  | conveyor own => cases own <;> simp [income, answersConveyor]
  | robot | kitchen | requestNextRobot | notify | renotify | handover | deliverTask | deliverOrder
  | instruct => simp [income, answersConveyor]

/-- An order is paid for with its answer, and an answer to the conveyor by itself. -/
theorem step_paid (endpoints : Function.Injective config.endpoint) (paced : Paced config limit)
    (counted : Counted config p) (smooth : Smooth config p event)
    (step : Step config p event after outputs) :
    plantWeight config limit after + assignmentCost config limit * unanswered after + 1 +
        orderCost config limit * p.nextOrder ≤
      plantWeight config limit p + assignmentCost config limit * unanswered p +
        orderCost config limit * after.nextOrder +
        answerCost config limit * (if answersConveyor event then 1 else 0) := by
  have spent := step_weight endpoints paced counted smooth step
  have fewer := step_unanswered smooth.1 step
  by_cases placed : event = .placeOrder
  · subst placed
    have next : after.nextOrder = p.nextOrder + 1 := by
      cases step with
      | placed => rfl
      | notified _ _ _ _ _ _ asked => rcases asked with same | same <;> contradiction
    have more : unanswered after ≤ unanswered p + 1 := by
      rw [next] at fewer
      omega
    -- the answer to the order is paid for together with the order
    have prepaid := Nat.mul_le_mul_left (assignmentCost config limit) more
    rw [Nat.mul_succ] at prepaid
    simp only [income] at spent
    rw [next, Nat.mul_succ]
    simp only [orderCost]
    omega
  · have same := step.nextOrder_kept placed
    rw [same] at fewer ⊢
    by_cases answered : ∃ answer, event = .answer answer
    · obtain ⟨answer, rfl⟩ := answered
      rw [← answered_unanswered step, Nat.mul_succ]
      simp only [income] at spent
      omega
    · push Not at answered
      rw [income_eq placed answered] at spent
      have kept := Nat.mul_le_mul_left (assignmentCost config limit)
        (Nat.le_of_add_le_add_right fewer)
      omega

/-- Nothing fails in a plant, no robot is adapted, and the controller takes every
request. Then the plant does nothing that no order and no answer to the conveyor
has paid for. -/
theorem every_step_is_paid_for (config : Config RobotId) (limit : Nat)
    (endpoints : Function.Injective config.endpoint) (draws : DrawsKnown config)
    (paced : Paced config limit) (history : History (Event RobotId) (Output RobotId))
    (p : State RobotId) (reached : (machine config).Reaches (Smooth config) history p)
    (beside : ∀ id, place p id < config.conveyor.plateCount) :
    history.length + plantWeight config limit p + assignmentCost config limit * unanswered p ≤
      orderCost config limit * p.nextOrder +
        answerCost config limit * history.countP fun entry => answersConveyor entry.1 := by
  induction reached with
  | start initial =>
      have weightless : plantWeight config limit _ = 0 := initial_weight initial
      obtain ⟨_, _, kitchen, requests, _⟩ := initial
      rw [weightless, unanswered, kitchen, requestedOrders, requests]
      exact Nat.zero_le _
  | step earlier smooth taken ih =>
      have step := step_cases taken
      have inOrder := reaches_inOrder draws (earlier.mono (fun _ _ smooth => smooth.1))
      rw [(step_inOrder draws inOrder smooth.1 step).2] at beside
      have paid := ih beside
      have spent := step_paid endpoints paced (reaches_counted draws paced earlier beside) smooth
        step
      simp only [List.countP_append, List.countP_singleton, Nat.mul_add, List.length_append,
        List.length_singleton]
      omega

theorem bakery_paced : Paced bakery 5 where
  last := by
    have all : ∀ recipe ∈ bakeryMenu, ∀ action ∈ recipe.actionQueue, 1 ≤ action.duration := by
      decide
    intro id recipeId recipe known
    exact all recipe (RecipeParser.mem_of_getRecipe (by decide) known)
  bounded := by
    have all : ∀ recipe ∈ bakeryMenu, effort recipe.actionQueue ≤ 5 := by decide
    intro recipeId recipe known
    exact all recipe (RecipeParser.mem_of_getRecipe (by decide) known)

/-- One order and its answer pay for all that is done for the toast. -/
theorem toast_is_paid_for :
    ∃ history p, (machine bakery).Reaches (Smooth bakery) history p ∧
      completedOrders history = {0} ∧ p.nextOrder = 1 ∧
      history.length + plantWeight bakery 5 p + assignmentCost bakery 5 * unanswered p ≤
        orderCost bakery 5 * p.nextOrder +
          answerCost bakery 5 * history.countP fun entry => answersConveyor entry.1 := by
  obtain ⟨history, p, reached, shown⟩ := Machine.exists_reaches_of_replay (machine bakery)
    (Smooth bakery) idleBakery_starts.1 servesToast
    (fun history p => decide ((∀ id, place p id < bakery.conveyor.plateCount) ∧
      completedOrders history = {0} ∧ p.nextOrder = 1)) (by decide +kernel)
  obtain ⟨beside, served, ordered⟩ := of_decide_eq_true shown
  have paid := every_step_is_paid_for bakery 5 bakery_endpoints bakery_draws bakery_paced history p
    reached beside
  exact ⟨history, p, reached, served, ordered, paid⟩

end Payment

section Standstill

variable [Fintype RobotId] [DecidableEq RobotId]

theorem machine_descends (endpoints : Function.Injective config.endpoint)
    (draws : DrawsKnown config) (paced : Paced config limit) :
    (machine config).Descends (Unprompted config) (Counted config) (plantWeight config limit) := by
  intro before event after outputs counted unprompted taken
  have step := step_cases taken
  have less := step_weight endpoints paced counted unprompted.1 step
  rw [income_inside unprompted.2] at less
  exact ⟨step_counted draws paced counted unprompted.1 step, less⟩

/-- Nothing fails in a plant, no robot is adapted, and the controller takes every
request. Left without new orders and answers the plant comes to a standstill, and
no way there is longer than its weight. Then the kitchen is at rest, nothing in
the conveyor goes on, and every robot is at rest or waits for its pickup. If the
conveyor waits for no answer either, every agent is at rest, and every order was
completed or dropped, or the controller has still to answer a request for it. -/
theorem undisturbed_plant_comes_to_standstill (config : Config RobotId) (limit : Nat)
    (endpoints : Function.Injective config.endpoint) (draws : DrawsKnown config)
    (recipes : 1 ≤ config.kitchen.recipeCount) (paced : Paced config limit)
    (history : History (Event RobotId) (Output RobotId)) (p : State RobotId)
    (reached : (machine config).Reaches (Smooth config) history p)
    (apart : Function.Injective (place p))
    (beside : ∀ id, place p id < config.conveyor.plateCount) :
    (∃ later final, ((machine config).resume p).Reaches (Unprompted config) later final ∧
      Standing config final) ∧
    ∀ later final, ((machine config).resume p).Reaches (Unprompted config) later final →
      later.length + plantWeight config limit final ≤ plantWeight config limit p ∧
      ((machine config).Stuck (Unprompted config) final →
        Standing config final ∧ KitchenAtRest final.kitchen ∧ ConveyorWaits final.conveyor ∧
          (∀ id, RobotAgent.AtRest (final.robots id) ∨ (final.robots id).pendingPickup = true) ∧
          (final.conveyor.nextRobotRequestQueue = [] → AtRest final ∧
            completedOrders (history ++ later) + droppedOrders (history ++ later) +
              requestedOrders final = Multiset.range p.nextOrder)) := by
  have descends := machine_descends endpoints draws paced
  have counted := reaches_counted draws paced reached beside
  have stands : ∀ later final,
      ((machine config).resume p).Reaches (Unprompted config) later final →
      (machine config).Stuck (Unprompted config) final → Standing config final := by
    intro later final followed stuck
    have countedFinal := (descends.good_and_length counted followed).1
    exact standing_of_stuck countedFinal.inOrder.conveyor.client stuck
  constructor
  · obtain ⟨later, final, followed, stuck⟩ := descends.exists_stuck counted
    exact ⟨later, final, followed, stands later final followed stuck⟩
  · intro later final followed
    refine ⟨(descends.good_and_length counted followed).2, ?_⟩
    intro stuck
    have standing := stands later final followed stuck
    have whole : (machine config).Reaches (Undisturbed config) (history ++ later) final :=
      (reached.resumed (followed.mono (fun _ _ unprompted => unprompted.1))).mono
        (fun _ _ smooth => smooth.1)
    have inOrder := reaches_inOrder draws whole
    have follows := reaches_followsRecipes (whole.mono
      (fun _ _ undisturbed => Undisturbed.eachCommitsOnce undisturbed))
    have kitchen := standing.kitchen_rests inOrder recipes (reaches_gated whole)
    refine ⟨standing, kitchen, standing.conveyor_waits inOrder follows,
      standing.robot_rests_or_waits inOrder, ?_⟩
    intro answered
    obtain ⟨same, noOrder⟩ := followed_kept draws counted.inOrder followed
    rw [← same] at apart
    have resting := standing.atRest endpoints draws recipes whole apart answered
    have decided := resting.decided (reaches_nothingLost draws endpoints whole)
    rw [noOrder] at decided
    exact ⟨resting, decided⟩

def finishesToast : List (Event (Fin 2)) := servesToast.drop (assignsOrder baking 0 2).length

/-- The toast is assigned, and nobody orders anything else. The bakery serves the
toast, and then it is at rest. -/
theorem bakery_comes_to_standstill :
    ∃ history p later final, (machine bakery).Reaches (Smooth bakery) history p ∧
      completedOrders history = 0 ∧
      ((machine bakery).resume p).Reaches (Unprompted bakery) later final ∧
      completedOrders later = {0} ∧
      later.length + plantWeight bakery 5 final ≤ plantWeight bakery 5 p ∧
      Standing bakery final ∧ AtRest final ∧
      completedOrders (history ++ later) + droppedOrders (history ++ later) +
        requestedOrders final = Multiset.range p.nextOrder := by
  obtain ⟨history, p, reached, shown⟩ := Machine.exists_reaches_of_replay (machine bakery)
    (Smooth bakery) idleBakery_starts.1 (assignsOrder baking 0 2)
    (fun history p => decide (Function.Injective (place p) ∧
      (∀ id, place p id < bakery.conveyor.plateCount) ∧ completedOrders history = 0 ∧
      (((machine bakery).resume p).replay (Unprompted bakery) [] p finishesToast).any
        (fun result => decide (AtRest result.2 ∧ result.2.conveyor.nextRobotRequestQueue = [] ∧
          completedOrders result.1 = {0})) = true)) (by decide +kernel)
  obtain ⟨apart, beside, notYet, goes⟩ := of_decide_eq_true shown
  obtain ⟨later, final, followed, ended⟩ := Machine.exists_reaches_of_replay
    ((machine bakery).resume p) (Unprompted bakery) rfl finishesToast
    (fun later final => decide (AtRest final ∧ final.conveyor.nextRobotRequestQueue = [] ∧
      completedOrders later = {0})) goes
  obtain ⟨resting, answered, served⟩ := of_decide_eq_true ended
  have stuck : (machine bakery).Stuck (Unprompted bakery) final :=
    fun event unprompted => resting.standing bakery event unprompted.1.1 unprompted.2
  obtain ⟨bound, stands⟩ := (undisturbed_plant_comes_to_standstill bakery 5 bakery_endpoints
    bakery_draws (by decide) bakery_paced history p reached apart beside).2 later final followed
  obtain ⟨standing, _, _, _, rests⟩ := stands stuck
  obtain ⟨_, decided⟩ := rests answered
  exact ⟨history, p, later, final, reached, notYet, followed, served, bound, standing, resting,
    decided⟩

end Standstill

end CpsKitchen.Plant
