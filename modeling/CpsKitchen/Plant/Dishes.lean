import CpsKitchen.RobotAgent.Dishes
import CpsKitchen.ConveyorAgent.Contents
import CpsKitchen.KitchenAgent.Orders
import CpsKitchen.Plant.Transitions

/-!
# Dishes on their way through the plant

A dish goes from the kitchen to a robot, from a robot to a plate, and from a
plate to another robot or back to the kitchen. What one agent gives away the
other takes in, so a step of the plant makes no dish.
-/

namespace CpsKitchen.Plant

open CpsKitchen.Reactive CpsKitchen.Recipes
open CpsKitchen.RobotAgent (Robot Task heldDishes)
open CpsKitchen.ConveyorAgent (Conveyor PlateId placedDishes isRobotUnknown)
open CpsKitchen.KitchenAgent (Kitchen NextRobot postedOrders)

set_option autoImplicit false

section Agents

theorem receiveTask_reply {config : RobotAgent.Config} {r robot : Robot} {task asked : Task}
    {addressed position : Position} {result : Bool}
    (called : RobotAgent.step config r (.receiveTask asked addressed) =
      some (robot, [.taskReply task position result])) :
    task = asked ∧ position = r.position ∧ (result = true → addressed = r.position) := by
  have reaction := (RobotAgent.step_cases called).2
  cases reaction with
  | refused refusal =>
      cases refusal
      exact ⟨rfl, rfl, by simp⟩
  | taskAccepted => exact ⟨rfl, rfl, fun _ => rfl⟩

theorem ownRobot_plain {config : RobotAgent.Config} {r robot : Robot}
    {event : RobotAgent.Event} {outputs : List RobotAgent.Output}
    (own : ownRobotEvent event = true)
    (taken : RobotAgent.step config r event = some (robot, outputs)) :
    amount RobotAgent.Output.givenAway outputs = 0 ∧
      amount RobotAgent.Output.takenIn outputs = 0 := by
  have reaction := (RobotAgent.step_cases taken).2
  cases reaction with
  | refused refusal => cases refusal <;> first | contradiction | exact ⟨rfl, rfl⟩
  | handled capability handler posted idle next ran => cases ran <;> exact ⟨rfl, rfl⟩
  | taskAccepted | handedOver | notified | renotified => contradiction
  | switchAccepted | commitAccepted | reconfigureAccepted | locked | notifyFailed | expired
  | conveyorLost | conveyorConnected | renotifyFailed => exact ⟨rfl, rfl⟩

theorem notification_plain {config : RobotAgent.Config} {r robot : Robot}
    {event : RobotAgent.Event} {sent : List RobotAgent.Output}
    (notification : IsNotification r event)
    (called : RobotAgent.step config r event = some (robot, sent)) :
    amount RobotAgent.Output.givenAway sent = 0 ∧
      amount RobotAgent.Output.takenIn sent = 0 := by
  have reaction := (RobotAgent.step_cases called).2
  rcases notification with rfl | ⟨rfl, _⟩
  · cases reaction with
    | refused refusal => cases refusal
    | notified => exact ⟨rfl, rfl⟩
  · cases reaction with
    | refused refusal => cases refusal
    | conveyorConnected => exact ⟨rfl, rfl⟩
    | renotified => exact ⟨rfl, rfl⟩

variable {config : ConveyorAgent.Config} {c conveyor : Conveyor} {plateId : PlateId}
  {outputs : List ConveyorAgent.Output}

theorem ownConveyor_plain {event : ConveyorAgent.Event} (own : ownConveyorEvent event = true)
    (taken : ConveyorAgent.step config c event = some (conveyor, outputs)) :
    amount ConveyorAgent.Output.givenAway outputs = 0 ∧
      amount ConveyorAgent.Output.takenIn outputs = 0 := by
  have reaction := (ConveyorAgent.step_cases taken).2
  cases reaction with
  | retrieving left position reply loop member ran =>
      cases ran with
      | keptNotification | droppedNotification => exact ⟨rfl, rfl⟩
      | handedOver => contradiction
  | requesting left plateId reply loop member ran => cases ran <;> exact ⟨rfl, rfl⟩
  | delivering left plateId kitchen robot loop member ran =>
      cases ran with
      | notDeliverable | notInstructed => exact ⟨rfl, rfl⟩
      | orderRefused | orderCompleted => contradiction
      | taskRefused => exact ⟨rfl, rfl⟩
      | taskMisplaced _ _ _ _ replied =>
          obtain ⟨position, available, reply⟩ := robot
          have replied : reply = _ := replied
          subst replied
          cases kitchen <;> contradiction
      | taskAccepted _ _ _ _ _ _ _ _ replied =>
          obtain ⟨position, available, reply⟩ := robot
          have replied : reply = _ := replied
          subst replied
          cases kitchen <;> contradiction
  | notificationReceived | answerReceived | positionChanged | robotStopped | controllerLost
  | controllerConnected | expired | handled | retrieved | requested | delivered =>
      exact ⟨rfl, rfl⟩

theorem step_deliver {kitchen : Option Bool} {robot : ConveyorAgent.RobotAnswer}
    (taken : ConveyorAgent.step config c (.deliver plateId kitchen robot) =
      some (conveyor, outputs)) :
    c.running = true ∧ ∃ left, c.worker = .deliveringFinishedOrders left ∧ plateId ∈ left ∧
      ConveyorAgent.deliver
        (ConveyorAgent.setWorker c (.deliveringFinishedOrders (left.erase plateId))) plateId kitchen
          robot = some (conveyor, outputs) := by
  unfold ConveyorAgent.step at taken
  split at taken
  next running =>
    simp only at taken
    split at taken
    next left loop =>
      split at taken
      next member => exact ⟨running, left, loop, member, taken⟩
      · contradiction
    · contradiction
  · contradiction

theorem deliver_called (reply : Option (Position × Bool)) {endpoint : String}
    (unfinished : (c.plates plateId).isDishFinished = false)
    (targeted : (c.plates plateId).targetPosition ≠ 0)
    (arrived : (c.plates plateId).position = (c.plates plateId).targetPosition)
    (known : ¬ isRobotUnknown c (c.plates plateId).position endpoint) :
    ConveyorAgent.deliver c plateId none
        ⟨some (c.plates plateId).position, some true, reply⟩ =
      some (ConveyorAgent.instructRobot c plateId reply) := by
  have entry : ∃ robot, c.positionRemoteRobotMap (c.plates plateId).position =
      some (some robot) := by
    obtain ⟨robot, found, _⟩ := RobotMap.find_of_known known
    exact ⟨robot, Option.join_eq_some_iff.mp found⟩
  obtain ⟨robot, entry⟩ := entry
  rw [ConveyorAgent.deliver]
  simp only [unfinished, targeted, and_false, ↓reduceIte, Bool.false_eq_true, false_and]
  rw [if_pos ⟨trivial, arrived⟩, ConveyorAgent.deliverPartialOrder]
  simp only [entry, Option.getD_some, ne_eq, not_true_eq_false, ↓reduceIte]

theorem instruct_called {config : KitchenAgent.Config} {k kitchen : Kitchen}
    {answer : NextRobot} {position : Position} {result : Bool}
    {sent : List KitchenAgent.Output} (instructing : k.worker = .instructingRobot answer)
    (taken : KitchenAgent.step config k
      (.instruct ⟨some answer.robotPosition, some true, some (position, result)⟩) =
        some (kitchen, sent)) :
    kitchen = KitchenAgent.setWorker k (.robotInstructed answer result) ∧
      sent = [.robotInstructed answer.order answer.recipeId answer.robotPosition result] := by
  unfold KitchenAgent.step at taken
  split at taken
  · simp only [instructing, KitchenAgent.instruct, reduceCtorEq, ↓reduceIte, ne_eq,
      not_true_eq_false] at taken
    split at taken
    · contradiction
    · cases taken
      exact ⟨rfl, rfl⟩
  · contradiction

end Agents

variable {RobotId : Type} {config : Config RobotId} {p after : State RobotId}

section Calls

theorem taskDelivered_conveyor {id : RobotId} {plateId : PlateId} {robot : Robot} {task : Task}
    {position : Position} {result : Bool} {conveyor : Conveyor}
    {delivered : List ConveyorAgent.Output} (deliverable : isDeliverable config p id plateId)
    (called : RobotAgent.step (config.robot id) (p.robots id)
      (.receiveTask (taskOn p plateId) (p.conveyor.plates plateId).position) =
        some (robot, [.taskReply task position result]))
    (taken : ConveyorAgent.step config.conveyor p.conveyor
      (.deliver plateId none ⟨some (p.conveyor.plates plateId).position, some true,
        some (position, result)⟩) = some (conveyor, delivered)) :
    ∃ left, p.conveyor.worker = .deliveringFinishedOrders left ∧ plateId ∈ left ∧
      delivered = [.robotInstructed (p.conveyor.plates plateId).dish
        (p.conveyor.plates plateId).placedRecipeId (p.conveyor.plates plateId).processedSteps
        (p.conveyor.plates plateId).position result] ∧
      conveyor =
        if result then
          ConveyorAgent.freePlate
            (ConveyorAgent.setWorker p.conveyor (.deliveringFinishedOrders (left.erase plateId)))
            plateId
        else
          ConveyorAgent.setTargetPosition
            (ConveyorAgent.setWorker p.conveyor (.deliveringFinishedOrders (left.erase plateId)))
            plateId 0 := by
  obtain ⟨unfinished, targeted, arrived, known⟩ := deliverable
  obtain ⟨_, reported, addressed⟩ := receiveTask_reply called
  obtain ⟨_, left, loop, member, ran⟩ := step_deliver taken
  refine ⟨left, loop, member, ?_⟩
  have answered := deliver_called
    (c := ConveyorAgent.setWorker p.conveyor (.deliveringFinishedOrders (left.erase plateId)))
    (some (position, result)) unfinished targeted arrived known
  have ran := answered.symm.trans ran
  cases ran
  refine ⟨rfl, ?_⟩
  cases result with
  | false => rfl
  | true =>
      have here : (p.conveyor.plates plateId).position = position := by
        rw [addressed rfl, reported]
      have inPlace : ¬ ((ConveyorAgent.setWorker p.conveyor
          (.deliveringFinishedOrders (left.erase plateId))).plates plateId).position ≠
            position := not_not.mpr here
      rw [if_neg inPlace]
      rfl

theorem orderDelivered_conveyor {plateId : PlateId} {conveyor : Conveyor}
    {delivered : List ConveyorAgent.Output} (deliverable : isDeliverableOrder p plateId)
    (taken : ConveyorAgent.step config.conveyor p.conveyor
      (.deliver plateId (some true) ⟨none, none, none⟩) = some (conveyor, delivered)) :
    delivered = [.completedOrder (p.conveyor.plates plateId).dish
      (p.conveyor.plates plateId).placedRecipeId true] := by
  obtain ⟨finished, atOutput⟩ := deliverable
  obtain ⟨_, left, loop, member, ran⟩ := step_deliver taken
  rw [ConveyorAgent.deliver] at ran
  simp only [ConveyorAgent.setWorker, finished, Bool.true_eq_false, false_and, ↓reduceIte,
    atOutput, and_self] at ran
  cases ran
  rfl

theorem handedOver_conveyor {c conveyor : Conveyor} {config : ConveyorAgent.Config}
    {position : Position} {dish : DishId} {reply : RobotAgent.HandoverReply}
    {taken : List ConveyorAgent.Output}
    (retrieved : ConveyorAgent.step config c (.retrieve position (some (dish, reply))) =
      some (conveyor, taken)) :
    taken = [.handoverReply dish reply] ∨ taken = [] := by
  have reaction := (ConveyorAgent.step_cases retrieved).2
  cases reaction with
  | retrieving left _ _ loop member ran =>
      cases ran with
      | keptNotification | droppedNotification => exact .inr rfl
      | handedOver => exact .inl rfl

end Calls

section Outputs

def Output.ofKitchen {Holding : Type} [AddCommMonoid Holding]
    (worth : KitchenAgent.Output → Holding) : Output RobotId → Holding
  | .kitchen output => worth output
  | _ => 0

def Output.ofRobot {Holding : Type} [AddCommMonoid Holding]
    (worth : RobotAgent.Output → Holding) : Output RobotId → Holding
  | .robot _ output => worth output
  | _ => 0

variable {Holding : Type} [AddCommMonoid Holding] (worth : KitchenAgent.Output → Holding)

@[simp] theorem amount_ofKitchen_wrap (id : RobotId) (outputs : List RobotAgent.Output) :
    amount (Output.ofKitchen worth) (wrap id outputs) = 0 := by
  apply amount_eq_zero
  intro output member
  obtain ⟨inner, _, rfl⟩ := List.mem_map.mp member
  rfl

@[simp] theorem amount_ofKitchen_conveyor (outputs : List ConveyorAgent.Output) :
    amount (Output.ofKitchen worth) (outputs.map (@Output.conveyor RobotId)) = 0 := by
  apply amount_eq_zero
  intro output member
  obtain ⟨inner, _, rfl⟩ := List.mem_map.mp member
  rfl

theorem amount_ofKitchen_others (id : RobotId) (sent : List RobotAgent.Output)
    (received : List ConveyorAgent.Output) :
    amount (Output.ofKitchen worth) (wrap id sent ++ received.map .conveyor) = 0 := by
  rw [amount_append, amount_ofKitchen_wrap, amount_ofKitchen_conveyor, add_zero]

@[simp] theorem amount_ofKitchen_kitchen (outputs : List KitchenAgent.Output) :
    amount (Output.ofKitchen worth) (outputs.map (@Output.kitchen RobotId)) =
      amount worth outputs :=
  amount_map _ _ _

end Outputs

theorem conveyor_placedDishes (belt : ConveyorAgent.Belt config.conveyor p.conveyor)
    {own : ConveyorAgent.Event} {conveyor : Conveyor} {outputs : List ConveyorAgent.Output}
    (reports : ConveyorAgent.ReportsAddress p.conveyor own)
    (taken : ConveyorAgent.step config.conveyor p.conveyor own = some (conveyor, outputs)) :
    placedDishes conveyor + amount ConveyorAgent.Output.givenAway outputs ≤
      placedDishes p.conveyor + amount ConveyorAgent.Output.takenIn outputs :=
  (ConveyorAgent.step_carries belt reports (ConveyorAgent.step_cases taken).2).placedDishes_le

variable [DecidableEq RobotId] {event : Event RobotId} {outputs : List (Output RobotId)}

/-- The conveyor takes part in a step with at most one step of its own. -/
theorem Step.conveyor_cases (step : Step config p event after outputs) :
    after.conveyor = p.conveyor ∨ ∃ own outputs,
      ConveyorAgent.step config.conveyor p.conveyor own = some (after.conveyor, outputs) := by
  cases step with
  | robot | kitchen | placed | requested | answered | instructed => exact .inl rfl
  | conveyor own conveyor outputs _ taken => exact .inr ⟨own, outputs, taken⟩
  | notified _ _ _ _ conveyor received _ _ _ taken => exact .inr ⟨_, received, taken⟩
  | handedOver _ _ _ _ _ conveyor taken _ _ retrieved => exact .inr ⟨_, taken, retrieved⟩
  | taskDelivered _ _ _ _ _ _ conveyor delivered _ _ taken => exact .inr ⟨_, delivered, taken⟩
  | orderDelivered _ _ _ conveyor delivered _ _ taken => exact .inr ⟨_, delivered, taken⟩

theorem Step.belt (belt : ConveyorAgent.Belt config.conveyor p.conveyor)
    (step : Step config p event after outputs) :
    ConveyorAgent.Belt config.conveyor after.conveyor := by
  rcases step.conveyor_cases with same | ⟨own, outputs, taken⟩
  · rw [same]
    exact belt
  · exact ConveyorAgent.step_belt belt (ConveyorAgent.step_cases taken).2

theorem reaches_belt {allowed : State RobotId → Event RobotId → Prop}
    {history : History (Event RobotId) (Output RobotId)}
    (reached : (machine config).Reaches allowed history p) :
    ConveyorAgent.Belt config.conveyor p.conveyor := by
  induction reached with
  | start initial =>
      rw [initial.2.1]
      exact ConveyorAgent.initial_belt config.conveyor
  | step _ _ taken ih => exact (step_cases taken).belt ih

theorem ownConveyor_reports {c : Conveyor} {event : ConveyorAgent.Event}
    (own : ownConveyorEvent event = true) : ConveyorAgent.ReportsAddress c event := by
  cases event with
  | deliver plateId kitchen robot =>
      obtain ⟨position, available, reply⟩ := robot
      cases reply with
      | none => simp [ConveyorAgent.ReportsAddress]
      | some reply => cases kitchen <;> contradiction
  | _ => trivial

section Flow

variable [Fintype RobotId]

/-- The dishes a robot has accepted and that the kitchen has not counted as
completed. -/
def underWay (p : State RobotId) : Multiset DishId :=
  holdings heldDishes p.robots + placedDishes p.conveyor +
    postedOrders KitchenAgent.Handler.completed? p.kitchen

theorem receiveTask_heldDishes {config : RobotAgent.Config} {r robot : Robot}
    {task asked : Task} {addressed position : Position} {result : Bool}
    (called : RobotAgent.step config r (.receiveTask asked addressed) =
      some (robot, [.taskReply task position result])) :
    heldDishes robot ≤ heldDishes r + if result then {asked.dish} else 0 := by
  have held := RobotAgent.step_heldDishes (RobotAgent.step_cases called).2
  obtain ⟨rfl, _, _⟩ := receiveTask_reply called
  have given : amount RobotAgent.Output.givenAway
      [RobotAgent.Output.taskReply task position result] = 0 := rfl
  have came : amount RobotAgent.Output.takenIn
      [RobotAgent.Output.taskReply task position result] = if result then {task.dish} else 0 := by
    cases result <;> simp [RobotAgent.Output.takenIn]
  rw [given, came, add_zero] at held
  exact held

theorem kitchen_completions {config : KitchenAgent.Config} {k kitchen : Kitchen}
    {event : KitchenAgent.Event} {outputs : List KitchenAgent.Output}
    (taken : KitchenAgent.step config k event = some (kitchen, outputs)) :
    postedOrders KitchenAgent.Handler.completed? kitchen +
        amount KitchenAgent.Output.completed outputs =
      postedOrders KitchenAgent.Handler.completed? k + event.completes :=
  (KitchenAgent.step_books (KitchenAgent.step_cases taken).2).completions

/-- Three agents take their steps, and what some give away the others take in. -/
private theorem flows_balance {robots robots' belt belt' kitchen kitchen' robotsGive robotsTake
    beltGives beltTakes told completed accepted : Multiset DishId}
    (robotSide : robots' + robotsGive ≤ robots + robotsTake)
    (beltSide : belt' + beltGives ≤ belt + beltTakes)
    (kitchenSide : kitchen' + completed = kitchen + told)
    (balance : robotsTake + beltTakes + told ≤ robotsGive + beltGives + accepted) :
    robots' + belt' + kitchen' + completed ≤ robots + belt + kitchen + accepted := by
  have all := add_le_add (add_le_add robotSide beltSide) (le_of_eq kitchenSide)
  have moved : robots' + belt' + kitchen' + completed + (robotsGive + beltGives) ≤
      robots + belt + kitchen + accepted + (robotsGive + beltGives) :=
    calc robots' + belt' + kitchen' + completed + (robotsGive + beltGives)
        = robots' + robotsGive + (belt' + beltGives) + (kitchen' + completed) := by abel
      _ ≤ robots + robotsTake + (belt + beltTakes) + (kitchen + told) := all
      _ = robots + belt + kitchen + (robotsTake + beltTakes + told) := by abel
      _ ≤ robots + belt + kitchen + (robotsGive + beltGives + accepted) :=
        add_le_add le_rfl balance
      _ = robots + belt + kitchen + accepted + (robotsGive + beltGives) := by abel
  exact le_of_add_le_add_right moved

/-- No dish comes under way but by an assignment the robot accepted. -/
theorem step_underWay (belt : ConveyorAgent.Belt config.conveyor p.conveyor)
    (step : Step config p event after outputs) :
    underWay after + amount (Output.ofKitchen KitchenAgent.Output.completed) outputs ≤
      underWay p + amount (Output.ofKitchen KitchenAgent.Output.accepted) outputs := by
  have sameRobots : holdings heldDishes p.robots + 0 ≤ holdings heldDishes p.robots + 0 := le_rfl
  have sameBelt : placedDishes p.conveyor + 0 ≤ placedDishes p.conveyor + 0 := le_rfl
  have sameKitchen : postedOrders KitchenAgent.Handler.completed? p.kitchen + 0 =
      postedOrders KitchenAgent.Handler.completed? p.kitchen + 0 := rfl
  cases step with
  | robot id own robot outputs permitted taken =>
      have held := RobotAgent.step_heldDishes (RobotAgent.step_cases taken).2
      obtain ⟨given, came⟩ := ownRobot_plain permitted taken
      rw [given, came] at held
      rw [amount_ofKitchen_wrap, amount_ofKitchen_wrap]
      exact flows_balance (holdings_step held) sameBelt sameKitchen le_rfl
  | conveyor own conveyor outputs permitted taken =>
      have placed := conveyor_placedDishes belt (ownConveyor_reports permitted) taken
      obtain ⟨given, came⟩ := ownConveyor_plain permitted taken
      rw [given, came] at placed
      rw [amount_ofKitchen_conveyor, amount_ofKitchen_conveyor]
      exact flows_balance sameRobots placed sameKitchen le_rfl
  | kitchen own kitchen outputs permitted taken =>
      have counted := kitchen_completions taken
      have notTold : own.completes = 0 := by cases own <;> first | rfl | contradiction
      rw [notTold] at counted
      rw [amount_ofKitchen_kitchen, amount_ofKitchen_kitchen]
      exact flows_balance sameRobots sameBelt counted (by simp)
  | placed kitchen received taken =>
      rw [amount_ofKitchen_kitchen, amount_ofKitchen_kitchen]
      exact flows_balance sameRobots sameBelt (kitchen_completions taken)
        (Multiset.zero_le _)
  | requested order recipeId kitchen sent choosing taken =>
      rw [amount_ofKitchen_kitchen, amount_ofKitchen_kitchen]
      exact flows_balance sameRobots sameBelt (kitchen_completions taken) (Multiset.zero_le _)
  | answered answer kitchen received member taken =>
      rw [amount_ofKitchen_kitchen, amount_ofKitchen_kitchen]
      exact flows_balance sameRobots sameBelt (kitchen_completions taken) (Multiset.zero_le _)
  | notified id call robot sent conveyor received asked notification called taken =>
      have held := RobotAgent.step_heldDishes (RobotAgent.step_cases called).2
      obtain ⟨given, came⟩ := notification_plain notification called
      rw [given, came] at held
      have reports : ConveyorAgent.ReportsAddress p.conveyor
          (.receiveFinishedOrderNotification (config.endpoint id) (p.robots id).position) := trivial
      have placed := conveyor_placedDishes belt reports taken
      have nothing : received = [] := by
        cases (ConveyorAgent.step_cases taken).2
        rfl
      subst nothing
      rw [amount_ofKitchen_others, amount_ofKitchen_others]
      exact flows_balance (holdings_step held) placed sameKitchen le_rfl
  | handedOver id position robot dish reply conveyor taken asks called retrieved =>
      have held := RobotAgent.step_heldDishes (RobotAgent.step_cases called).2
      have reports : ConveyorAgent.ReportsAddress p.conveyor
          (.retrieve position (some (dish, reply))) := trivial
      have placed := conveyor_placedDishes belt reports retrieved
      rw [amount_ofKitchen_others, amount_ofKitchen_others]
      refine flows_balance (holdings_step held) placed sameKitchen ?_
      rcases handedOver_conveyor retrieved with rfl | rfl
      · have same : amount ConveyorAgent.Output.takenIn [.handoverReply dish reply] =
            amount RobotAgent.Output.givenAway [.handoverReply dish reply] := rfl
        have noTask : amount RobotAgent.Output.takenIn [.handoverReply dish reply] = 0 := rfl
        have notGiven : amount ConveyorAgent.Output.givenAway [.handoverReply dish reply] = 0 := rfl
        rw [same, noTask, notGiven]
        exact le_of_eq (by abel)
      · exact Multiset.zero_le _
  | taskDelivered id plateId robot task position result conveyor delivered deliverable called
      taken =>
      have held := receiveTask_heldDishes called
      obtain ⟨_, reported, addressed⟩ := receiveTask_reply called
      have reports : ConveyorAgent.ReportsAddress p.conveyor (.deliver plateId none
          ⟨some (p.conveyor.plates plateId).position, some true, some (position, result)⟩) := by
        intro reply same accepted
        cases same
        exact reported.trans (addressed accepted).symm
      have placed := conveyor_placedDishes belt reports taken
      obtain ⟨left, _, _, instructed, _⟩ := taskDelivered_conveyor deliverable called taken
      rw [amount_ofKitchen_others, amount_ofKitchen_others]
      rw [← add_zero (heldDishes robot)] at held
      refine flows_balance (holdings_step held) placed sameKitchen ?_
      rw [instructed]
      cases result with
      | false => exact Multiset.zero_le _
      | true => exact le_of_eq (by abel)
  | orderDelivered plateId kitchen received conveyor delivered deliverable called taken =>
      have placed := conveyor_placedDishes belt (by simp [ConveyorAgent.ReportsAddress]) taken
      have counted := kitchen_completions called
      have completed := orderDelivered_conveyor deliverable taken
      simp only [amount_append, amount_ofKitchen_kitchen, amount_ofKitchen_conveyor, zero_add]
      refine flows_balance sameRobots placed counted ?_
      rw [completed]
      exact le_self_add
  | instructed id answer robot task position result kitchen sent instructing called taken =>
      have held := receiveTask_heldDishes called
      have counted := kitchen_completions taken
      obtain ⟨_, told⟩ := instruct_called instructing taken
      simp only [amount_append, amount_ofKitchen_kitchen, amount_ofKitchen_wrap, zero_add]
      rw [← add_zero (heldDishes robot)] at held
      refine flows_balance (holdings_step held) sameBelt counted ?_
      rw [told]
      cases result with
      | false => exact Multiset.zero_le _
      | true => exact le_of_eq (by abel)

end Flow

end CpsKitchen.Plant
