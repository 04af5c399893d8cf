import CpsKitchen.RobotAgent.OneDriver
import CpsKitchen.ConveyorAgent.Transitions
import CpsKitchen.KitchenAgent.Transitions

/-!
# The plant

Any number of robots, the conveyor and the kitchen. A call from one agent to
another that gets through is a step of both: the caller waits for the answer,
and the server runs its methods one at a time. A call that fails has no effect
at the callee and is a step of the caller alone. The controller is left open:
it answers a request of the kitchen at most once and the conveyor as it likes,
and it rearranges and reconfigures robots at any time.

`requests` and `nextOrder` belong to no agent. They hold the requests the
controller has still to answer and the identity of the next order.
-/

namespace CpsKitchen.Plant

open CpsKitchen.Reactive CpsKitchen.Recipes
open CpsKitchen.RobotAgent (Robot Task)
open CpsKitchen.ConveyorAgent (Conveyor PlateId plateAt isRobotUnknown)
open CpsKitchen.KitchenAgent (Kitchen NextRobot)

set_option autoImplicit false

/-- All agents read the same recipes and profiles. -/
structure Config (RobotId : Type) where
  recipeParser : RecipeParser
  capabilityParser : CapabilityParser
  endpoint : RobotId → String
  conveyor : ConveyorAgent.Config
  kitchen : KitchenAgent.Config

variable {RobotId : Type} [DecidableEq RobotId]

def Config.robot (config : Config RobotId) (id : RobotId) : RobotAgent.Config where
  recipeParser := config.recipeParser
  capabilityParser := config.capabilityParser
  serverEndpoint := config.endpoint id
  conveyorSize := config.conveyor.plateCount
  conveyorSizePositive := config.conveyor.plateCountPositive

structure State (RobotId : Type) where
  robots : RobotId → Robot
  conveyor : Conveyor
  kitchen : Kitchen
  requests : List (DishId × RecipeId)
  nextOrder : DishId

inductive Event (RobotId : Type)
  | robot (id : RobotId) (event : RobotAgent.Event)
  | conveyor (event : ConveyorAgent.Event)
  | kitchen (event : KitchenAgent.Event)
  | placeOrder
  /-- `choose_next_robot` of the kitchen, accepted by the controller. -/
  | requestNextRobot
  | answer (answer : NextRobot)
  /-- A notification from the loop of the worker. -/
  | notify (id : RobotId)
  /-- A notification after the connection was lost. -/
  | renotify (id : RobotId)
  | handover (id : RobotId) (position : Position)
  /-- The conveyor calls `receive_task`. -/
  | deliverTask (id : RobotId) (plateId : PlateId)
  | deliverOrder (plateId : PlateId)
  /-- The kitchen calls `receive_task`. -/
  | instruct (id : RobotId)
  deriving DecidableEq

inductive Output (RobotId : Type)
  | robot (id : RobotId) (output : RobotAgent.Output)
  | conveyor (output : ConveyorAgent.Output)
  | kitchen (output : KitchenAgent.Output)
  deriving DecidableEq

section Own

/-- What a robot does without another agent, failed calls included. -/
def ownRobotEvent : RobotAgent.Event → Bool
  | .receiveTask _ _ | .handoverFinishedOrder | .notifyConveyor (some _)
  | .conveyorConnected (some _) => false
  | _ => true

/-- What the conveyor does without a robot or the kitchen. -/
def ownConveyorEvent : ConveyorAgent.Event → Bool
  | .receiveFinishedOrderNotification _ _ | .retrieve _ (some _) | .deliver _ (some _) _
  | .deliver _ _ ⟨_, _, some _⟩ => false
  | _ => true

/-- What the kitchen does without another agent. -/
def ownKitchenEvent : KitchenAgent.Event → Bool
  | .placeRandomOrder _ | .receiveNextRobot _ | .receiveCompletedOrder _
  | .chooseNextRobot (some true) | .instruct ⟨_, _, some _⟩ => false
  | _ => true

end Own

section Calls

variable (config : Config RobotId) (p : State RobotId)

def setRobot (p : State RobotId) (id : RobotId) (robot : Robot) : State RobotId :=
  { p with robots := Function.update p.robots id robot }

def wrap (robot : RobotId) (outputs : List RobotAgent.Output) : List (Output RobotId) :=
  outputs.map (.robot robot)

def robotStep (id : RobotId) (event : RobotAgent.Event) : Option (Robot × List RobotAgent.Output) :=
  RobotAgent.step (config.robot id) (p.robots id) event

/-- The robot notifies the conveyor, which answers `true`. -/
def notificationStep (id : RobotId) (event : RobotAgent.Event) :
    Option (State RobotId × List (Output RobotId)) := do
  let (robot, sent) ← robotStep config p id event
  let (conveyor, received) ← ConveyorAgent.step config.conveyor p.conveyor
    (.receiveFinishedOrderNotification (config.endpoint id) (p.robots id).position)
  some ({ setRobot p id robot with conveyor := conveyor },
    wrap id sent ++ received.map .conveyor)

/-- The conveyor finds the plate free and the robot under the position. -/
def asksRobot (id : RobotId) (position : Position) : Prop :=
  (plateAt p.conveyor position).occupied = false ∧
    ¬ isRobotUnknown p.conveyor position (config.endpoint id)

instance (id : RobotId) (position : Position) : Decidable (asksRobot config p id position) :=
  inferInstanceAs (Decidable (_ ∧ _))

def handoverReply? : List RobotAgent.Output → Option (DishId × RobotAgent.HandoverReply)
  | [.handoverReply dish reply] => some (dish, reply)
  | _ => none

def handoverStep (id : RobotId) (position : Position) :
    Option (State RobotId × List (Output RobotId)) := do
  guard (asksRobot config p id position)
  let (robot, given) ← robotStep config p id .handoverFinishedOrder
  let reply ← handoverReply? given
  let (conveyor, taken) ← ConveyorAgent.step config.conveyor p.conveyor
    (.retrieve position (some reply))
  some ({ setRobot p id robot with conveyor := conveyor }, wrap id given ++ taken.map .conveyor)

def taskReply? : List RobotAgent.Output → Option (Position × Bool)
  | [.taskReply _ position result] => some (position, result)
  | _ => none

def isDeliverable (id : RobotId) (plateId : PlateId) : Prop :=
  let plate := p.conveyor.plates plateId
  plate.isDishFinished = false ∧ plate.targetPosition ≠ 0 ∧
    plate.position = plate.targetPosition ∧
    ¬ isRobotUnknown p.conveyor plate.position (config.endpoint id)

instance (id : RobotId) (plateId : PlateId) : Decidable (isDeliverable config p id plateId) :=
  inferInstanceAs (Decidable (_ ∧ _))

def taskOn (plateId : PlateId) : Task where
  recipeId := (p.conveyor.plates plateId).placedRecipeId
  overallProcessedSteps := (p.conveyor.plates plateId).processedSteps
  dish := (p.conveyor.plates plateId).dish

/-- The conveyor has read the position it expects and that the robot is
available. When that was does not matter to the call. -/
def deliverTaskStep (id : RobotId) (plateId : PlateId) :
    Option (State RobotId × List (Output RobotId)) := do
  let position := (p.conveyor.plates plateId).position
  guard (isDeliverable config p id plateId)
  let (robot, replied) ← robotStep config p id (.receiveTask (taskOn p plateId) position)
  let reply ← taskReply? replied
  let (conveyor, delivered) ← ConveyorAgent.step config.conveyor p.conveyor
    (.deliver plateId none ⟨some position, some true, some reply⟩)
  some ({ setRobot p id robot with conveyor := conveyor },
    wrap id replied ++ delivered.map .conveyor)

def isDeliverableOrder (plateId : PlateId) : Prop :=
  (p.conveyor.plates plateId).isDishFinished = true ∧
    (p.conveyor.plates plateId).position = ConveyorAgent.outputPosition

instance (plateId : PlateId) : Decidable (isDeliverableOrder p plateId) :=
  inferInstanceAs (Decidable (_ ∧ _))

/-- The kitchen answers every completed order with `true`. -/
def deliverOrderStep (plateId : PlateId) : Option (State RobotId × List (Output RobotId)) := do
  guard (isDeliverableOrder p plateId)
  let (kitchen, received) ← KitchenAgent.step config.kitchen p.kitchen
    (.receiveCompletedOrder (p.conveyor.plates plateId).dish)
  let (conveyor, delivered) ← ConveyorAgent.step config.conveyor p.conveyor
    (.deliver plateId (some true) ⟨none, none, none⟩)
  some ({ p with kitchen := kitchen, conveyor := conveyor },
    delivered.map .conveyor ++ received.map .kitchen)

def answerInHand (k : Kitchen) : Option NextRobot :=
  match k.worker with
  | .instructingRobot answer => some answer
  | _ => none

/-- The kitchen has read the position it expects and that the robot is
available. -/
def instructStep (id : RobotId) : Option (State RobotId × List (Output RobotId)) := do
  let answer ← answerInHand p.kitchen
  guard (¬ RobotMap.isUnknown p.kitchen.positionRemoteRobotMap answer.robotPosition
    (config.endpoint id))
  let (robot, replied) ← robotStep config p id
    (.receiveTask ⟨answer.recipeId, 0, answer.order⟩ answer.robotPosition)
  let reply ← taskReply? replied
  let (kitchen, instructed) ← KitchenAgent.step config.kitchen p.kitchen
    (.instruct ⟨some answer.robotPosition, some true, some reply⟩)
  some ({ setRobot p id robot with kitchen := kitchen },
    wrap id replied ++ instructed.map .kitchen)

def requestInHand (k : Kitchen) : Option (DishId × RecipeId) :=
  match k.worker with
  | .choosingNextRobot order recipeId => some (order, recipeId)
  | _ => none

def requestStep : Option (State RobotId × List (Output RobotId)) := do
  let request ← requestInHand p.kitchen
  let (kitchen, requested) ← KitchenAgent.step config.kitchen p.kitchen
    (.chooseNextRobot (some true))
  some ({ p with kitchen := kitchen, requests := p.requests ++ [request] },
    requested.map .kitchen)

/-- The controller answers one of the requests it has accepted. -/
def answerStep (answer : NextRobot) : Option (State RobotId × List (Output RobotId)) := do
  guard ((answer.order, answer.recipeId) ∈ p.requests)
  let (kitchen, received) ← KitchenAgent.step config.kitchen p.kitchen (.receiveNextRobot answer)
  some ({ p with
    kitchen := kitchen
    requests := p.requests.erase (answer.order, answer.recipeId) }, received.map .kitchen)

def placeStep : Option (State RobotId × List (Output RobotId)) := do
  let (kitchen, received) ← KitchenAgent.step config.kitchen p.kitchen
    (.placeRandomOrder p.nextOrder)
  some ({ p with kitchen := kitchen, nextOrder := p.nextOrder + 1 }, received.map .kitchen)

end Calls

def step (config : Config RobotId) (p : State RobotId) :
    Event RobotId → Option (State RobotId × List (Output RobotId))
  | .robot id event => do
      guard (ownRobotEvent event)
      let (robot, outputs) ← robotStep config p id event
      some (setRobot p id robot, wrap id outputs)
  | .conveyor event => do
      guard (ownConveyorEvent event)
      let (conveyor, outputs) ← ConveyorAgent.step config.conveyor p.conveyor event
      some ({ p with conveyor := conveyor }, outputs.map .conveyor)
  | .kitchen event => do
      guard (ownKitchenEvent event)
      let (kitchen, outputs) ← KitchenAgent.step config.kitchen p.kitchen event
      some ({ p with kitchen := kitchen }, outputs.map .kitchen)
  | .placeOrder => placeStep config p
  | .requestNextRobot => requestStep config p
  | .answer answer => answerStep config p answer
  | .notify id => notificationStep config p id (.notifyConveyor (some true))
  | .renotify id => do
      guard ((p.robots id).pendingPickup)
      notificationStep config p id (.conveyorConnected (some true))
  | .handover id position => handoverStep config p id position
  | .deliverTask id plateId => deliverTaskStep config p id plateId
  | .deliverOrder plateId => deliverOrderStep config p plateId
  | .instruct id => instructStep config p id

def machine (config : Config RobotId) :
    Machine (State RobotId) (Event RobotId) (Output RobotId) where
  start p := (∀ id, RobotAgent.Started (config.robot id) (p.robots id)) ∧
    p.conveyor = ConveyorAgent.initial config.conveyor ∧
    p.kitchen = KitchenAgent.initial ∧ p.requests = [] ∧ p.nextOrder = 0
  step := step config

def mixingPlant : Config Unit where
  recipeParser := RobotAgent.deployment.recipeParser
  capabilityParser := RobotAgent.deployment.capabilityParser
  endpoint _ := RobotAgent.deployment.serverEndpoint
  conveyor := ConveyorAgent.fivePlates
  kitchen := ⟨3⟩

def idlePlant : State Unit :=
  ⟨fun _ => RobotAgent.mixingRobot, ConveyorAgent.initial ConveyorAgent.fivePlates,
    KitchenAgent.initial, [], 0⟩

theorem idlePlant_starts : (machine mixingPlant).start idlePlant :=
  ⟨fun _ => RobotAgent.mixingRobot_started, rfl, rfl, rfl, rfl⟩

end CpsKitchen.Plant
