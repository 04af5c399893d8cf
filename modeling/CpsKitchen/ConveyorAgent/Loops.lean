import CpsKitchen.Reactive.Visits
import CpsKitchen.ConveyorAgent.Transitions
import Mathlib.Data.Multiset.ZeroCons

/-!
# The loops of the conveyor with their calls

The loops of `handle_retrieve_finished_orders` and `deliver_finished_order`,
together with the robots and the kitchen they call. What a robot or the kitchen
returns depends on the call and on the state it is in, and on nothing else.
The bodies of the loops are those of the machine.
-/

namespace CpsKitchen.ConveyorAgent

open CpsKitchen.Reactive CpsKitchen.Recipes
open CpsKitchen.RobotAgent (HandoverReply)
open CpsKitchen.RobotMap (RemoteRobot)

set_option autoImplicit false

/-- A call or a read, with its arguments and the robot it goes to. -/
inductive Call
  | handoverFinishedOrder (robotEndpoint : String)
  | getPosition (robotEndpoint : String)
  | isAvailable (robotEndpoint : String)
  | instruct (robotEndpoint : String) (recipeId : RecipeId) (processedSteps : Nat)
      (addressedPosition : Position)
  | receiveCompletedOrder (recipeId : RecipeId)
  deriving DecidableEq

/-- What the other agents return, and the state a call leaves them in. `none`
is a read or a call that failed. -/
structure Peers (Robot Kitchen : Type*) where
  getPosition : Robot → Option Position
  isAvailable : Robot → Option Bool
  handoverFinishedOrder : Robot → Option (DishId × HandoverReply) × Robot
  instruct : RecipeId → Nat → Position → Robot → Option (Position × Bool) × Robot
  receiveCompletedOrder : RecipeId → Kitchen → Option Bool × Kitchen

/-- The conveyor in a loop, the other agents and the calls made so far. -/
structure Loop (Robot Kitchen : Type*) where
  conveyor : Conveyor
  robots : String → Robot
  kitchen : Kitchen
  calls : Multiset Call

variable {Robot Kitchen : Type*} (peers : Peers Robot Kitchen)

/-- Both functions call `remove_stopped_robots` before their loop. -/
def enterLoop (loop : Loop Robot Kitchen) : Loop Robot Kitchen :=
  { loop with conveyor := removeStoppedRobots loop.conveyor }

section Retrieval

/-- The robot that the body of the loop asks for a dish, if there is one. -/
def handoverRobot (c : Conveyor) (position : Position) : Option RemoteRobot :=
  if (plateAt c position).occupied then none else findRobot c position

def askForDish (loop : Loop Robot Kitchen) (position : Position) :
    Option (DishId × HandoverReply) × Loop Robot Kitchen :=
  match handoverRobot loop.conveyor position with
  | none => (none, loop)
  | some robot =>
      let answered := peers.handoverFinishedOrder (loop.robots robot.endpoint)
      (answered.1,
        { loop with
          robots := Function.update loop.robots robot.endpoint answered.2
          calls := .handoverFinishedOrder robot.endpoint ::ₘ loop.calls })

/-- One turn of the loop in `handle_retrieve_finished_orders`. -/
def retrieveNext (loop : Loop Robot Kitchen) (position : Position) :
    Option (Loop Robot Kitchen) :=
  let asked := askForDish peers loop position
  (retrieve asked.2.conveyor position asked.1).map fun ran =>
    { asked.2 with conveyor := ran.1 }

/-- `handle_retrieve_finished_orders` up to the end of its loop. -/
def retrieveFinishedOrders (order : List Position) (loop : Loop Robot Kitchen) :
    Option (Loop Robot Kitchen) :=
  visitAll (retrieveNext peers) (enterLoop loop) order

end Retrieval

section Delivery

def isCompleted (plate : Plate) : Prop :=
  plate.isDishFinished = true ∧ plate.position = outputPosition

instance (plate : Plate) : Decidable (isCompleted plate) := inferInstanceAs (Decidable (_ ∧ _))

def isDeliverable (plate : Plate) : Prop :=
  plate.isDishFinished = false ∧ plate.targetPosition ≠ 0 ∧
    plate.position = plate.targetPosition

instance (plate : Plate) : Decidable (isDeliverable plate) := inferInstanceAs (Decidable (_ ∧ _))

def askKitchen (loop : Loop Robot Kitchen) (plateId : PlateId) :
    Option Bool × Loop Robot Kitchen :=
  let plate := loop.conveyor.plates plateId
  if isCompleted plate then
    let answered := peers.receiveCompletedOrder plate.placedRecipeId loop.kitchen
    (answered.1,
      { loop with
        kitchen := answered.2
        calls := .receiveCompletedOrder plate.placedRecipeId ::ₘ loop.calls })
  else (none, loop)

/-- The robot that the body of the loop turns to, if there is one. -/
def targetRobot (c : Conveyor) (plateId : PlateId) : Option RemoteRobot :=
  if isDeliverable (c.plates plateId) then findRobot c (c.plates plateId).position else none

/-- The position is read first, the availability only if the position is
right, and the robot is instructed only if it is available. -/
def askRobot (loop : Loop Robot Kitchen) (plateId : PlateId) : RobotAnswer × Loop Robot Kitchen :=
  match targetRobot loop.conveyor plateId with
  | none => (⟨none, none, none⟩, loop)
  | some robot =>
      let plate := loop.conveyor.plates plateId
      let state := loop.robots robot.endpoint
      let position := peers.getPosition state
      let available := peers.isAvailable state
      let read := Call.getPosition robot.endpoint ::ₘ loop.calls
      if position.getD 0 ≠ plate.position then (⟨position, none, none⟩, { loop with calls := read })
      else
        let readBoth := Call.isAvailable robot.endpoint ::ₘ read
        if available ≠ some true then
          (⟨position, available, none⟩, { loop with calls := readBoth })
        else
          let answered :=
            peers.instruct plate.placedRecipeId plate.processedSteps plate.position state
          (⟨position, available, answered.1⟩,
            { loop with
              robots := Function.update loop.robots robot.endpoint answered.2
              calls := .instruct robot.endpoint plate.placedRecipeId plate.processedSteps
                plate.position ::ₘ readBoth })

/-- One turn of the loop in `deliver_finished_order`. -/
def deliverNext (loop : Loop Robot Kitchen) (plateId : PlateId) : Option (Loop Robot Kitchen) :=
  let served := askKitchen peers loop plateId
  let asked := askRobot peers served.2 plateId
  (deliver asked.2.conveyor plateId served.1 asked.1).map fun ran =>
    { asked.2 with conveyor := ran.1 }

/-- `deliver_finished_order` up to the end of its loop. -/
def deliverFinishedOrders (order : List PlateId) (loop : Loop Robot Kitchen) :
    Option (Loop Robot Kitchen) :=
  visitAll (deliverNext peers) (enterLoop loop) order

end Delivery

section Reports

/-- The robot that hands over a dish reports the position it was asked at. -/
def ReportsHandover (loop : Loop Robot Kitchen) (position : Position) : Prop :=
  ∀ robot, handoverRobot loop.conveyor position = some robot →
    ∀ dish reply,
      (peers.handoverFinishedOrder (loop.robots robot.endpoint)).1 = some (dish, reply) →
        reply.position = position

/-- The robot a plate stands at is known at the position of another plate as
well, and both are to be delivered. -/
def IsShared (c : Conveyor) (plateId : PlateId) (robot : RemoteRobot) : Prop :=
  ∃ other, other ≠ plateId ∧
    ∃ twin, targetRobot c other = some twin ∧ twin.endpoint = robot.endpoint

/-- A robot that is known at two positions reports the one it was asked at.
Any other robot may report what it likes. -/
def ReportsPosition (loop : Loop Robot Kitchen) (plateId : PlateId) : Prop :=
  ∀ robot, targetRobot loop.conveyor plateId = some robot →
    IsShared loop.conveyor plateId robot →
      ∀ reported, peers.getPosition (loop.robots robot.endpoint) = some reported →
        reported = (loop.conveyor.plates plateId).position

end Reports

section Runs

variable {peers} {config : Config} {loop after last : Loop Robot Kitchen}

theorem stopRobot_setWorker (c : Conveyor) (worker : Worker) (position : Position) :
    stopRobot (setWorker c worker) position = setWorker (stopRobot c position) worker := rfl

theorem readPosition_setWorker (c : Conveyor) (worker : Worker) (position : Position)
    (reported : Option Position) :
    readPosition (setWorker c worker) position reported =
      setWorker (readPosition c position reported) worker := rfl

theorem retrieve_setWorker (c : Conveyor) (worker : Worker) (position : Position)
    (reply : Option (DishId × HandoverReply)) :
    retrieve (setWorker c worker) position reply =
      (retrieve c position reply).map fun ran => (setWorker ran.1 worker, ran.2) := by
  have seen : plateAt (setWorker c worker) position = plateAt c position := rfl
  have known : (setWorker c worker).positionRemoteRobotMap = c.positionRemoteRobotMap := rfl
  unfold retrieve
  simp only [seen, known]
  by_cases full : (plateAt c position).occupied = true
  · rw [if_pos full, if_pos full, Option.map_some]
  · rw [if_neg full, if_neg full]
    cases c.positionRemoteRobotMap position with
    | none => rfl
    | some entry =>
        cases entry with
        | none => rfl
        | some robot =>
            cases reply with
            | none =>
                have stopped := stopRobot_setWorker
                  { c with notifications := c.notifications.erase position } worker position
                exact congrArg (fun stopped => some (stopped, ([] : List Output))) stopped
            | some answer =>
                simp only [Option.map_some, handleHandoverFinishedOrder]
                split
                · rfl
                · rfl

theorem deliverCompletedOrder_setWorker (c : Conveyor) (worker : Worker) (plateId : PlateId)
    (reply : Option Bool) :
    deliverCompletedOrder (setWorker c worker) plateId reply =
      (setWorker (deliverCompletedOrder c plateId reply).1 worker,
        (deliverCompletedOrder c plateId reply).2) := by
  cases reply with
  | none => rfl
  | some accepted =>
      cases accepted with
      | false => rfl
      | true => rfl

theorem instructRobot_setWorker (c : Conveyor) (worker : Worker) (plateId : PlateId)
    (reply : Option (Position × Bool)) :
    instructRobot (setWorker c worker) plateId reply =
      (setWorker (instructRobot c plateId reply).1 worker, (instructRobot c plateId reply).2) := by
  have plate : (setWorker c worker).plates = c.plates := rfl
  cases reply with
  | none =>
      simp only [instructRobot, plate, stopRobot_setWorker]
      rfl
  | some answer =>
      simp only [instructRobot, plate]
      split
      · rfl
      · split
        · rfl
        · rfl

theorem deliver_setWorker (c : Conveyor) (worker : Worker) (plateId : PlateId)
    (kitchen : Option Bool) (robot : RobotAnswer) :
    deliver (setWorker c worker) plateId kitchen robot =
      (deliver c plateId kitchen robot).map fun ran => (setWorker ran.1 worker, ran.2) := by
  have plate : (setWorker c worker).plates = c.plates := rfl
  have known : (setWorker c worker).positionRemoteRobotMap = c.positionRemoteRobotMap := rfl
  unfold deliver
  simp only [plate]
  split
  · rfl
  · split
    · rw [deliverCompletedOrder_setWorker, Option.map_some]
    · split
      · unfold deliverPartialOrder
        simp only [plate, known]
        cases c.positionRemoteRobotMap (c.plates plateId).position with
        | none => rfl
        | some entry =>
            cases entry with
            | none => rfl
            | some known =>
                simp only [readPosition_setWorker, stopRobot_setWorker, instructRobot_setWorker]
                split
                · rfl
                · cases robot.available with
                  | none => rfl
                  | some available =>
                      cases available with
                      | false => rfl
                      | true => rfl
      · rfl

theorem visits_running {c after : Conveyor} {event : Event} {outputs : List Output}
    (visit : Visits c event after outputs) (running : after.running = true) :
    c.running = true := by
  cases visit with
  | handedOver position dish reply free =>
      unfold handleHandoverFinishedOrder at running
      split at running
      · exact running
      · exact running
  | taskMisplaced => contradiction
  | keptNotification | droppedNotification | notRequested | requested | notDeliverable
  | orderRefused | orderCompleted | notInstructed | taskRefused | taskAccepted => exact running

theorem step_retrieve (config : Config) {c : Conveyor} {left : Finset Position}
    {position : Position}
    {reply : Option (DishId × HandoverReply)} {next : Conveyor} {outputs : List Output}
    (running : c.running = true) (listed : position ∈ left)
    (ran : retrieve c position reply = some (next, outputs)) :
    step config (setWorker c (.retrievingFinishedOrders left)) (.retrieve position reply) =
      some (setWorker next (.retrievingFinishedOrders (left.erase position)), outputs) := by
  have crossed := retrieve_setWorker c (.retrievingFinishedOrders (left.erase position)) position
    reply
  rw [ran, Option.map_some] at crossed
  have runs : (setWorker c (.retrievingFinishedOrders left)).running = true := running
  unfold step
  rw [if_pos runs]
  change (if position ∈ left then _ else _) = _
  rw [if_pos listed]
  exact crossed

theorem step_deliver (config : Config) {c : Conveyor} {left : Finset PlateId} {plateId : PlateId}
    {kitchen : Option Bool} {robot : RobotAnswer} {next : Conveyor} {outputs : List Output}
    (running : c.running = true) (listed : plateId ∈ left)
    (ran : deliver c plateId kitchen robot = some (next, outputs)) :
    step config (setWorker c (.deliveringFinishedOrders left)) (.deliver plateId kitchen robot) =
      some (setWorker next (.deliveringFinishedOrders (left.erase plateId)), outputs) := by
  have crossed := deliver_setWorker c (.deliveringFinishedOrders (left.erase plateId)) plateId
    kitchen robot
  rw [ran, Option.map_some] at crossed
  have runs : (setWorker c (.deliveringFinishedOrders left)).running = true := running
  unfold step
  rw [if_pos runs]
  change (if plateId ∈ left then _ else _) = _
  rw [if_pos listed]
  exact crossed

theorem askForDish_conveyor (loop : Loop Robot Kitchen) (position : Position) :
    (askForDish peers loop position).2.conveyor = loop.conveyor := by
  unfold askForDish
  split
  · rfl
  · rfl

theorem askKitchen_conveyor (loop : Loop Robot Kitchen) (plateId : PlateId) :
    (askKitchen peers loop plateId).2.conveyor = loop.conveyor := by
  unfold askKitchen
  simp only
  split
  · rfl
  · rfl

theorem askRobot_conveyor (loop : Loop Robot Kitchen) (plateId : PlateId) :
    (askRobot peers loop plateId).2.conveyor = loop.conveyor := by
  unfold askRobot
  simp only
  split
  · rfl
  · split
    · rfl
    · split
      · rfl
      · rfl

theorem retrieval_is_run {order : List Position} (nodup : order.Nodup)
    (returned : visitAll (retrieveNext peers) loop order = some last)
    (running : last.conveyor.running = true) :
    ∃ history, ((machine config).resume
        (setWorker loop.conveyor (.retrievingFinishedOrders order.toFinset))).Reaches
      (fun _ _ => True) history (setWorker last.conveyor (.retrievingFinishedOrders ∅)) := by
  apply And.right
  apply run_of_visits (machine config)
    (fun left loop => setWorker loop.conveyor (.retrievingFinishedOrders left))
    (fun loop => loop.conveyor.running = true) _ nodup returned running
  · intro left loop position after listed turn runs
    obtain ⟨⟨conveyor, outputs⟩, ran, rfl⟩ := Option.map_eq_some_iff.mp turn
    rw [askForDish_conveyor] at ran
    have ranBefore := visits_running (retrieve_cases ran) runs
    exact ⟨ranBefore, .retrieve position _, outputs, step_retrieve config ranBefore listed ran⟩

/-- A delivery loop that returns and has not stopped the conveyor is a run of
the conveyor. -/
theorem delivery_is_run {order : List PlateId} (nodup : order.Nodup)
    (returned : visitAll (deliverNext peers) loop order = some last)
    (running : last.conveyor.running = true) :
    ∃ history, ((machine config).resume
        (setWorker loop.conveyor (.deliveringFinishedOrders order.toFinset))).Reaches
      (fun _ _ => True) history (setWorker last.conveyor (.deliveringFinishedOrders ∅)) := by
  apply And.right
  apply run_of_visits (machine config)
    (fun left loop => setWorker loop.conveyor (.deliveringFinishedOrders left))
    (fun loop => loop.conveyor.running = true) _ nodup returned running
  · intro left loop plateId after listed turn runs
    obtain ⟨⟨conveyor, outputs⟩, ran, rfl⟩ := Option.map_eq_some_iff.mp turn
    rw [askRobot_conveyor, askKitchen_conveyor] at ran
    have ranBefore := visits_running (deliver_cases ran) runs
    exact ⟨ranBefore, .deliver plateId _ _, outputs, step_deliver config ranBefore listed ran⟩

end Runs

end CpsKitchen.ConveyorAgent
