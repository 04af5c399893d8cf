import CpsKitchen.Plant.Model

/-!
# What one step of the plant can do

`Step` lists the steps of the plant by the steps the agents take in them.
-/

namespace CpsKitchen.Plant

open CpsKitchen.Reactive CpsKitchen.Recipes
open CpsKitchen.RobotAgent (Robot Task)
open CpsKitchen.ConveyorAgent (Conveyor PlateId)
open CpsKitchen.KitchenAgent (Kitchen NextRobot)

set_option autoImplicit false

variable {RobotId : Type} [DecidableEq RobotId] {config : Config RobotId}
  {p after : State RobotId} {event : Event RobotId} {outputs : List (Output RobotId)}

/-- The two ways a notification gets through. -/
def IsNotification (r : Robot) (event : RobotAgent.Event) : Prop :=
  event = .notifyConveyor (some true) ∨
    event = .conveyorConnected (some true) ∧ r.pendingPickup = true

inductive Step (config : Config RobotId) (p : State RobotId) :
    Event RobotId → State RobotId → List (Output RobotId) → Prop where
  | robot (id : RobotId) (event : RobotAgent.Event) (robot : Robot)
      (outputs : List RobotAgent.Output) (own : ownRobotEvent event = true)
      (taken : RobotAgent.step (config.robot id) (p.robots id) event = some (robot, outputs)) :
      Step config p (.robot id event) (setRobot p id robot) (wrap id outputs)
  | conveyor (event : ConveyorAgent.Event) (conveyor : Conveyor)
      (outputs : List ConveyorAgent.Output) (own : ownConveyorEvent event = true)
      (taken : ConveyorAgent.step config.conveyor p.conveyor event = some (conveyor, outputs)) :
      Step config p (.conveyor event) { p with conveyor := conveyor } (outputs.map .conveyor)
  | kitchen (event : KitchenAgent.Event) (kitchen : Kitchen)
      (outputs : List KitchenAgent.Output) (own : ownKitchenEvent event = true)
      (taken : KitchenAgent.step config.kitchen p.kitchen event = some (kitchen, outputs)) :
      Step config p (.kitchen event) { p with kitchen := kitchen } (outputs.map .kitchen)
  | placed (kitchen : Kitchen) (received : List KitchenAgent.Output)
      (taken : KitchenAgent.step config.kitchen p.kitchen (.placeRandomOrder p.nextOrder) =
        some (kitchen, received)) :
      Step config p .placeOrder { p with kitchen := kitchen, nextOrder := p.nextOrder + 1 }
        (received.map .kitchen)
  | requested (order : DishId) (recipeId : RecipeId) (kitchen : Kitchen)
      (sent : List KitchenAgent.Output)
      (choosing : p.kitchen.worker = .choosingNextRobot order recipeId)
      (taken : KitchenAgent.step config.kitchen p.kitchen (.chooseNextRobot (some true)) =
        some (kitchen, sent)) :
      Step config p .requestNextRobot
        { p with kitchen := kitchen, requests := p.requests ++ [(order, recipeId)] }
        (sent.map .kitchen)
  | answered (answer : NextRobot) (kitchen : Kitchen) (received : List KitchenAgent.Output)
      (member : (answer.order, answer.recipeId) ∈ p.requests)
      (taken : KitchenAgent.step config.kitchen p.kitchen (.receiveNextRobot answer) =
        some (kitchen, received)) :
      Step config p (.answer answer)
        { p with
          kitchen := kitchen
          requests := p.requests.erase (answer.order, answer.recipeId) }
        (received.map .kitchen)
  | notified {event : Event RobotId} (id : RobotId) (call : RobotAgent.Event) (robot : Robot)
      (sent : List RobotAgent.Output) (conveyor : Conveyor)
      (received : List ConveyorAgent.Output) (asked : event = .notify id ∨ event = .renotify id)
      (notification : IsNotification (p.robots id) call)
      (called : RobotAgent.step (config.robot id) (p.robots id) call = some (robot, sent))
      (taken : ConveyorAgent.step config.conveyor p.conveyor
        (.receiveFinishedOrderNotification (config.endpoint id) (p.robots id).position) =
          some (conveyor, received)) :
      Step config p event { setRobot p id robot with conveyor := conveyor }
        (wrap id sent ++ received.map .conveyor)
  | handedOver (id : RobotId) (position : Position) (robot : Robot) (dish : DishId)
      (reply : RobotAgent.HandoverReply) (conveyor : Conveyor)
      (taken : List ConveyorAgent.Output) (asks : asksRobot config p id position)
      (called : RobotAgent.step (config.robot id) (p.robots id) .handoverFinishedOrder =
        some (robot, [.handoverReply dish reply]))
      (retrieved : ConveyorAgent.step config.conveyor p.conveyor
        (.retrieve position (some (dish, reply))) = some (conveyor, taken)) :
      Step config p (.handover id position) { setRobot p id robot with conveyor := conveyor }
        (wrap id [.handoverReply dish reply] ++ taken.map .conveyor)
  | taskDelivered (id : RobotId) (plateId : PlateId) (robot : Robot) (task : Task)
      (position : Position) (result : Bool) (conveyor : Conveyor)
      (delivered : List ConveyorAgent.Output) (deliverable : isDeliverable config p id plateId)
      (called : RobotAgent.step (config.robot id) (p.robots id)
        (.receiveTask (taskOn p plateId) (p.conveyor.plates plateId).position) =
          some (robot, [.taskReply task position result]))
      (taken : ConveyorAgent.step config.conveyor p.conveyor
        (.deliver plateId none ⟨some (p.conveyor.plates plateId).position, some true,
          some (position, result)⟩) = some (conveyor, delivered)) :
      Step config p (.deliverTask id plateId) { setRobot p id robot with conveyor := conveyor }
        (wrap id [.taskReply task position result] ++ delivered.map .conveyor)
  | orderDelivered (plateId : PlateId) (kitchen : Kitchen)
      (received : List KitchenAgent.Output) (conveyor : Conveyor)
      (delivered : List ConveyorAgent.Output) (deliverable : isDeliverableOrder p plateId)
      (called : KitchenAgent.step config.kitchen p.kitchen
        (.receiveCompletedOrder (p.conveyor.plates plateId).dish) = some (kitchen, received))
      (taken : ConveyorAgent.step config.conveyor p.conveyor
        (.deliver plateId (some true) ⟨none, none, none⟩) = some (conveyor, delivered)) :
      Step config p (.deliverOrder plateId) { p with kitchen := kitchen, conveyor := conveyor }
        (delivered.map .conveyor ++ received.map .kitchen)
  | instructed (id : RobotId) (answer : NextRobot) (robot : Robot) (task : Task)
      (position : Position) (result : Bool) (kitchen : Kitchen)
      (sent : List KitchenAgent.Output)
      (instructing : p.kitchen.worker = .instructingRobot answer)
      (called : RobotAgent.step (config.robot id) (p.robots id)
        (.receiveTask ⟨answer.recipeId, 0, answer.order⟩ answer.robotPosition) =
          some (robot, [.taskReply task position result]))
      (taken : KitchenAgent.step config.kitchen p.kitchen
        (.instruct ⟨some answer.robotPosition, some true, some (position, result)⟩) =
          some (kitchen, sent)) :
      Step config p (.instruct id) { setRobot p id robot with kitchen := kitchen }
        (wrap id [.taskReply task position result] ++ sent.map .kitchen)

theorem taskReply?_some {outputs : List RobotAgent.Output} {reply : Position × Bool}
    (found : taskReply? outputs = some reply) :
    ∃ task, outputs = [.taskReply task reply.1 reply.2] := by
  unfold taskReply? at found
  split at found
  next task position result =>
    cases found
    exact ⟨task, rfl⟩
  · contradiction

theorem handoverReply?_some {outputs : List RobotAgent.Output}
    {reply : DishId × RobotAgent.HandoverReply} (found : handoverReply? outputs = some reply) :
    outputs = [.handoverReply reply.1 reply.2] := by
  unfold handoverReply? at found
  split at found
  · cases found
    rfl
  · contradiction

theorem answerInHand_some {k : Kitchen} {answer : NextRobot}
    (found : answerInHand k = some answer) : k.worker = .instructingRobot answer := by
  unfold answerInHand at found
  split at found
  next worker =>
    cases found
    exact worker
  · contradiction

theorem requestInHand_some {k : Kitchen} {request : DishId × RecipeId}
    (found : requestInHand k = some request) :
    k.worker = .choosingNextRobot request.1 request.2 := by
  unfold requestInHand at found
  split at found
  next worker =>
    cases found
    exact worker
  · contradiction

theorem notificationStep_cases {id : RobotId} {call : RobotAgent.Event}
    (asked : event = .notify id ∨ event = .renotify id)
    (notification : IsNotification (p.robots id) call)
    (ran : notificationStep config p id call = some (after, outputs)) :
    Step config p event after outputs := by
  simp only [notificationStep, robotStep, Option.bind_eq_bind, Option.bind_eq_some_iff] at ran
  obtain ⟨⟨robot, sent⟩, called, ⟨conveyor, received⟩, taken, same⟩ := ran
  cases same
  exact .notified id call robot sent conveyor received asked notification called taken

theorem step_cases (taken : step config p event = some (after, outputs)) :
    Step config p event after outputs := by
  cases event with
  | robot id own =>
      simp only [step, robotStep, Option.bind_eq_bind, Option.bind_eq_some_iff,
        Option.guard_eq_some'] at taken
      obtain ⟨_, permitted, ⟨robot, outputs⟩, ran, same⟩ := taken
      cases same
      exact .robot id own robot outputs permitted ran
  | conveyor own =>
      simp only [step, Option.bind_eq_bind, Option.bind_eq_some_iff,
        Option.guard_eq_some'] at taken
      obtain ⟨_, permitted, ⟨conveyor, outputs⟩, ran, same⟩ := taken
      cases same
      exact .conveyor own conveyor outputs permitted ran
  | kitchen own =>
      simp only [step, Option.bind_eq_bind, Option.bind_eq_some_iff,
        Option.guard_eq_some'] at taken
      obtain ⟨_, permitted, ⟨kitchen, outputs⟩, ran, same⟩ := taken
      cases same
      exact .kitchen own kitchen outputs permitted ran
  | placeOrder =>
      simp only [step, placeStep, Option.bind_eq_bind, Option.bind_eq_some_iff] at taken
      obtain ⟨⟨kitchen, received⟩, ran, same⟩ := taken
      cases same
      exact .placed kitchen received ran
  | requestNextRobot =>
      simp only [step, requestStep, Option.bind_eq_bind, Option.bind_eq_some_iff] at taken
      obtain ⟨⟨order, recipeId⟩, inHand, ⟨kitchen, sent⟩, ran, same⟩ := taken
      cases same
      exact .requested order recipeId kitchen sent (requestInHand_some inHand) ran
  | answer answer =>
      simp only [step, answerStep, Option.bind_eq_bind, Option.bind_eq_some_iff,
        Option.guard_eq_some'] at taken
      obtain ⟨_, member, ⟨kitchen, received⟩, ran, same⟩ := taken
      cases same
      exact .answered answer kitchen received member ran
  | notify id => exact notificationStep_cases (.inl rfl) (.inl rfl) taken
  | renotify id =>
      simp only [step, Option.bind_eq_bind, Option.bind_eq_some_iff,
        Option.guard_eq_some'] at taken
      obtain ⟨_, pending, ran⟩ := taken
      exact notificationStep_cases (.inr rfl) (.inr ⟨rfl, pending⟩) ran
  | handover id position =>
      simp only [step, handoverStep, robotStep, Option.bind_eq_bind, Option.bind_eq_some_iff,
        Option.guard_eq_some'] at taken
      obtain ⟨_, asks, ⟨robot, given⟩, called, ⟨dish, reply⟩, replied, ⟨conveyor, taken⟩,
        retrieved, same⟩ := taken
      cases same
      cases handoverReply?_some replied
      exact .handedOver id position robot dish reply conveyor taken asks called retrieved
  | deliverTask id plateId =>
      simp only [step, deliverTaskStep, robotStep, Option.bind_eq_bind, Option.bind_eq_some_iff,
        Option.guard_eq_some'] at taken
      obtain ⟨_, deliverable, ⟨robot, replied⟩, called, ⟨position, result⟩, reply,
        ⟨conveyor, delivered⟩, ran, same⟩ := taken
      cases same
      obtain ⟨task, rfl⟩ := taskReply?_some reply
      exact .taskDelivered id plateId robot task position result conveyor delivered deliverable
        called ran
  | deliverOrder plateId =>
      simp only [step, deliverOrderStep, Option.bind_eq_bind, Option.bind_eq_some_iff,
        Option.guard_eq_some'] at taken
      obtain ⟨_, deliverable, ⟨kitchen, received⟩, called, ⟨conveyor, delivered⟩, ran, same⟩ :=
        taken
      cases same
      exact .orderDelivered plateId kitchen received conveyor delivered deliverable called ran
  | instruct id =>
      simp only [step, instructStep, robotStep, Option.bind_eq_bind, Option.bind_eq_some_iff,
        Option.guard_eq_some'] at taken
      obtain ⟨answer, inHand, _, _, ⟨robot, replied⟩, called, ⟨position, result⟩, reply,
        ⟨kitchen, sent⟩, ran, same⟩ := taken
      cases same
      obtain ⟨task, rfl⟩ := taskReply?_some reply
      exact .instructed id answer robot task position result kitchen sent
        (answerInHand_some inHand) called ran

/-- A robot takes part in a step with at most one step of its own. An adaptation
is asked of it by an event that names the robot. -/
theorem Step.robot_cases (step : Step config p event after outputs) (id : RobotId) :
    after.robots id = p.robots id ∨ ∃ own sent,
      RobotAgent.step (config.robot id) (p.robots id) own = some (after.robots id, sent) ∧
        (event = .robot id own ∨ ownRobotEvent own = false) := by
  have updated : ∀ (other : RobotId) (own : RobotAgent.Event) (robot : Robot)
      (sent : List RobotAgent.Output),
      RobotAgent.step (config.robot other) (p.robots other) own = some (robot, sent) →
      (event = .robot other own ∨ ownRobotEvent own = false) →
      Function.update p.robots other robot id = p.robots id ∨ ∃ own sent,
        RobotAgent.step (config.robot id) (p.robots id) own =
            some (Function.update p.robots other robot id, sent) ∧
          (event = .robot id own ∨ ownRobotEvent own = false) := by
    intro other own robot sent taken asked
    by_cases same : id = other
    · subst same
      rw [Function.update_self]
      exact .inr ⟨own, sent, taken, asked⟩
    · exact .inl (Function.update_of_ne same robot p.robots)
  cases step with
  | robot other own robot sent permitted taken =>
      exact updated other own robot sent taken (.inl rfl)
  | conveyor | kitchen | placed | requested | answered | orderDelivered => exact .inl rfl
  | notified other call robot sent conveyor received asked notification called taken =>
      have plain : ownRobotEvent call = false := by
        rcases notification with rfl | ⟨rfl, _⟩ <;> rfl
      exact updated other call robot sent called (.inr plain)
  | handedOver other position robot dish reply conveyor taken asks called retrieved =>
      exact updated other _ robot _ called (.inr rfl)
  | taskDelivered other plateId robot task position result conveyor delivered deliverable called
      taken =>
      exact updated other _ robot _ called (.inr rfl)
  | instructed other answer robot task position result kitchen sent instructing called taken =>
      exact updated other _ robot _ called (.inr rfl)

/-- `commit_new_position` of every robot is called once for a rearrangement. -/
def EachCommitsOnce (p : State RobotId) (event : Event RobotId) : Prop :=
  ∀ id own, event = .robot id own → RobotAgent.CommitsOnce (p.robots id) own

instance (p : State RobotId) (event : Event RobotId) : Decidable (EachCommitsOnce p event) :=
  match event with
  | .robot id own =>
      decidable_of_iff (RobotAgent.CommitsOnce (p.robots id) own) <| by
        constructor
        · intro once other called same
          cases same
          exact once
        · intro once
          exact once id own rfl
  | .conveyor _ | .kitchen _ | .placeOrder | .requestNextRobot | .answer _ | .notify _
  | .renotify _ | .handover _ _ | .deliverTask _ _ | .deliverOrder _ | .instruct _ =>
      isTrue (by intro _ _ same; contradiction)

theorem Step.oneDriver (one : ∀ id, RobotAgent.OneDriver (p.robots id))
    (once : EachCommitsOnce p event) (step : Step config p event after outputs) :
    ∀ id, RobotAgent.OneDriver (after.robots id) := by
  intro id
  rcases step.robot_cases id with same | ⟨own, sent, taken, asked⟩
  · rw [same]
    exact one id
  · have permitted : RobotAgent.CommitsOnce (p.robots id) own := by
      rcases asked with named | plain
      · exact once id own named
      · rintro rfl
        contradiction
    exact RobotAgent.step_oneDriver (one id) permitted (RobotAgent.step_cases taken).2

theorem reaches_oneDriver {history : History (Event RobotId) (Output RobotId)}
    (reached : (machine config).Reaches EachCommitsOnce history p) :
    ∀ id, RobotAgent.OneDriver (p.robots id) := by
  induction reached with
  | start initial => exact fun id => RobotAgent.initial_oneDriver (initial.1 id)
  | step _ permitted taken ih => exact (step_cases taken).oneDriver ih permitted

end CpsKitchen.Plant
