import CpsKitchen.Reactive.Machine
import CpsKitchen.Recipes

/-!
# The kitchen robot

`robot.cpp` as a reactive machine. Three threads act on a robot: the server
thread runs the OPC UA methods one at a time, the worker runs the handlers
posted to the `io_context` in order and completes waits of the one
`steady_timer`, and the client thread keeps the connection to the conveyor.
A server method and a handler are one step each. A handler pauses at the two
places where it blocks: before the lock at the head of `cook_next_order` and
in the loop that notifies the conveyor.

A step that returns `none` cannot be taken: the call blocks, the choice is
not there, or the program leaves its defined behaviour (an unknown recipe id,
`pop` or `front` of an empty queue, a profile that does not parse).
`dish` is the identity of a dish for the statements about it. No branch reads
it.
-/

namespace CpsKitchen.RobotAgent

open CpsKitchen.Reactive CpsKitchen.Recipes

set_option autoImplicit false

def retoolingTime : Nat := 1
def timeUnitUpdateRate : Nat := 1
def moveTime : Nat := 5
def reconfigurationTime : Nat := 5
def timeUnit : Nat := 10

/-- Unsigned subtraction of two words of the given width: it wraps below 0. -/
def subWord (width left right : Nat) : Nat :=
  if right ≤ left then left - right else left + 2 ^ width - right

structure Config where
  recipeParser : RecipeParser
  capabilityParser : CapabilityParser
  serverEndpoint : String
  conveyorSize : Nat
  conveyorSizePositive : 0 < conveyorSize

structure Task where
  recipeId : RecipeId
  overallProcessedSteps : Nat
  dish : DishId
  deriving DecidableEq

structure Order extends Task where
  overallProcessingSteps : Nat
  processableSteps : Nat
  actionQueue : List RobotAction
  deriving DecidableEq

inductive RobotState
  | available
  | rearranging
  | reconfiguring
  deriving DecidableEq

/-- What the completion handler of a wait on `steady_timer_` runs. -/
inductive TimerTask
  | retool
  | passTime
  | moveToNewPosition
  | completeReconfiguration
  deriving DecidableEq

structure Wait where
  task : TimerTask
  delay : Nat
  deriving DecidableEq

inductive Handler
  | handleReceiveTask (task : Task)
  | cookNextOrder
  | switchPosition (newPosition : Position)
  | reconfigure
  | handleNewPositionCommit
  | timerCompleted (task : TimerTask)
  | timerAborted
  deriving DecidableEq

inductive Worker
  | betweenHandlers
  | cookNextOrder
  | notifyingConveyor
  deriving DecidableEq

/-- The attribute nodes in the address space of the robot's server. -/
structure Attributes where
  position : Position
  recipeId : RecipeId
  dishName : String
  actionName : String
  ingredients : String
  overallTime : Nat
  currentTool : RobotTool
  lastEquippedTool : RobotTool
  capabilities : Finset String
  processedSteps : Nat
  processableSteps : Nat
  overallProcessedSteps : Nat
  overallProcessingSteps : Nat
  availability : Bool
  newPositionCommitIsPending : Bool

structure Robot where
  position : Position
  currentTool : RobotTool
  orderQueue : List Order
  currentActionDuration : Duration
  actionQueueInProcess : List RobotAction
  dishInProcess : DishId
  preparingDish : Bool
  alreadyRearranging : Bool
  alreadyReconfiguring : Bool
  isDishFinished : Bool
  running : Bool
  pendingPickup : Bool
  robotState : RobotState
  newTargetPosition : Position
  newCapabilitiesProfile : String
  capabilities : Finset String
  conveyorClient : Bool
  attributes : Attributes
  /-- Handlers posted to `io_context_`, next one first. -/
  posted : List Handler
  steadyTimer : Option Wait
  worker : Worker
  /-- Whether the worker holds `state_mutex_` where its handler pauses. -/
  stateMutexHeld : Bool
  /-- The local `pending_orders` of a paused `complete_reconfiguration`. -/
  pendingOrders : List Order

structure HandoverReply where
  endpoint : String
  position : Position
  recipeId : RecipeId
  processedSteps : Nat
  isDishFinished : Bool
  deriving DecidableEq

inductive Event
  | receiveTask (task : Task) (addressedPosition : Position)
  | handoverFinishedOrder
  | switchPosition (newPosition : Position) (availabilityWritten : Bool)
  | commitNewPosition
  | reconfigure (profile : String) (availabilityWritten : Bool)
  /-- The worker runs its next handler. The capability is the random choice of
  `set_current_and_last_equipped_tool`. -/
  | runHandler (capability : String)
  /-- The worker takes the lock in `cook_next_order` and goes on. -/
  | cookNextOrder
  /-- One call of the notification loop. `none` is a call that failed. -/
  | notifyConveyor (reply : Option Bool)
  | timerExpires
  | conveyorLost
  | conveyorConnected (reply : Option Bool)
  deriving DecidableEq

inductive Output
  | taskReply (task : Task) (robotPosition : Position) (result : Bool)
  | handoverReply (dish : DishId) (reply : HandoverReply)
  | result (accepted : Bool)
  | actionPerformed (dish : DishId) (action : RobotAction) (capable : Bool)
  | finishedOrderNotification (position : Position)
  deriving DecidableEq

def isCapableTo (r : Robot) (action : RobotAction) : Prop := action.name ∈ r.capabilities

instance (r : Robot) (action : RobotAction) : Decidable (isCapableTo r action) :=
  inferInstanceAs (Decidable (action.name ∈ r.capabilities))

section Worker

variable (config : Config)

def post (r : Robot) (handler : Handler) : Robot :=
  { r with posted := r.posted ++ [handler] }

/-- `expires_from_now` aborts a wait that has not completed. -/
def armTimer (r : Robot) (task : TimerTask) (delay : Nat) : Robot :=
  { r with
    steadyTimer := some ⟨task, delay⟩
    posted := if r.steadyTimer.isSome then r.posted ++ [.timerAborted] else r.posted }

/-- The worker calls `cook_next_order` and comes to the lock at its head. -/
def enterCookNextOrder (r : Robot) : Robot := { r with worker := .cookNextOrder }

def passLock (r : Robot) : Robot := { r with worker := .betweenHandlers }

def takeHandler (r : Robot) (posted : List Handler) : Robot := { r with posted := posted }

def stop (r : Robot) : Robot := { r with running := false }

/-- The running totals of `compute_overall_time_and_determine_last_tool`. -/
structure Load where
  overallTime : Nat
  lastEquippedTool : RobotTool
  processableSteps : Nat

def Load.add (load : Load) (action : RobotAction) : Load where
  overallTime :=
    ((load.overallTime +
      if load.lastEquippedTool ≠ action.requiredTool then retoolingTime else 0) % 2 ^ 32 +
        action.duration) % 2 ^ 32
  lastEquippedTool := action.requiredTool
  processableSteps := load.processableSteps + 1

def computeLoad (capabilities : Finset String) : Load → List RobotAction → Load
  | load, [] => load
  | load, action :: rest =>
      if action.name ∈ capabilities then computeLoad capabilities (load.add action) rest
      else load

def computeOverallTimeAndDetermineLastTool (r : Robot) (actionQueue : List RobotAction) :
    Robot × Nat :=
  let load := computeLoad r.capabilities
    { overallTime := r.attributes.overallTime
      lastEquippedTool := r.attributes.lastEquippedTool
      processableSteps := 0 } actionQueue
  ({ r with
      attributes := { r.attributes with
        overallTime := load.overallTime
        lastEquippedTool := load.lastEquippedTool } },
    load.processableSteps)

def handleSwitchPosition (r : Robot) : Robot :=
  if r.alreadyRearranging then r
  else
    let clockwise :=
      (subWord 32 r.newTargetPosition r.position + config.conveyorSize) % 2 ^ 32 %
        config.conveyorSize
    let counterClockwise :=
      (subWord 32 r.position r.newTargetPosition + config.conveyorSize) % 2 ^ 32 %
        config.conveyorSize
    armTimer { r with alreadyRearranging := true } .moveToNewPosition
      (min clockwise counterClockwise * moveTime * timeUnit)

def moveToNewPosition (r : Robot) : Robot :=
  { r with
    position := r.newTargetPosition
    newTargetPosition := 0
    attributes := { r.attributes with
      newPositionCommitIsPending := true
      position := r.newTargetPosition } }

def handleReconfiguration (r : Robot) : Robot :=
  if r.alreadyReconfiguring then r
  else armTimer { r with alreadyReconfiguring := true } .completeReconfiguration
    (reconfigurationTime * timeUnit)

def resetInProcessFields (r : Robot) : Robot :=
  { r with attributes := { r.attributes with actionName := "None", ingredients := "None" } }

/-- Both ends of `determine_next_action` that leave the dish to the conveyor.
The worker stays in the notification loop until a call gets through. -/
def finishOrder (r : Robot) (finished : Bool) : Robot :=
  { resetInProcessFields r with
    isDishFinished := finished
    worker := .notifyingConveyor }

def determineNextAction (r : Robot) : Robot :=
  match r.actionQueueInProcess with
  | action :: _ =>
      if ¬ isCapableTo r action then finishOrder r false
      else if action.requiredTool ≠ r.currentTool then
        armTimer r .retool (retoolingTime * timeUnit)
      else
        armTimer
          { r with
            currentActionDuration := action.duration
            attributes := { r.attributes with
              actionName := action.name
              ingredients := action.ingredients } }
          .passTime (timeUnitUpdateRate * timeUnit)
  | [] => finishOrder r true

/-- The dish after its next action was performed, `rest` is still to do. -/
def countStep (r : Robot) (rest : List RobotAction) : Robot :=
  { r with
    actionQueueInProcess := rest
    attributes := { r.attributes with
      overallProcessedSteps := r.attributes.overallProcessedSteps + 1
      processedSteps := r.attributes.processedSteps + 1 } }

def actionPerformed (r : Robot) : Option (Robot × List Output) :=
  match r.actionQueueInProcess with
  | [] => none
  | action :: rest =>
      some (determineNextAction (countStep r rest),
        [.actionPerformed r.dishInProcess action (isCapableTo r action)])

/-- The part of `pass_time` before it looks at what is left of the action. -/
def countDown (r : Robot) : Robot :=
  { r with
    currentActionDuration := subWord 64 r.currentActionDuration timeUnitUpdateRate
    attributes := { r.attributes with
      overallTime := subWord 32 r.attributes.overallTime timeUnitUpdateRate } }

def passTime (r : Robot) : Option (Robot × List Output) :=
  if (countDown r).currentActionDuration ≠ 0 then
    some (armTimer (countDown r) .passTime (timeUnitUpdateRate * timeUnit), [])
  else actionPerformed (countDown r)

def equip (r : Robot) (tool : RobotTool) : Robot :=
  { r with
    currentTool := tool
    attributes := { r.attributes with
      currentTool := tool
      overallTime := subWord 32 r.attributes.overallTime retoolingTime } }

def retool (r : Robot) : Option Robot :=
  match r.actionQueueInProcess with
  | [] => none
  | action :: _ => some (determineNextAction (equip r action.requiredTool))

/-- What `handle_receive_task` leaves for a known recipe. It enters
`cook_next_order` unless a dish is being prepared. -/
def queueOrder (r : Robot) (task : Task) (recipe : Recipe) : Robot :=
  let actionQueue := recipe.actionQueue.drop task.overallProcessedSteps
  let computed := computeOverallTimeAndDetermineLastTool r actionQueue
  { computed.1 with
    orderQueue := r.orderQueue ++
      [{ toTask := task
         overallProcessingSteps := recipe.actionQueue.length
         processableSteps := computed.2
         actionQueue := actionQueue }]
    worker := if r.preparingDish then r.worker else .cookNextOrder }

def handleReceiveTask (r : Robot) (task : Task) : Option Robot :=
  match config.recipeParser.getRecipe task.recipeId with
  | none => some r
  | some recipe =>
      if recipe.actionQueue.length < task.overallProcessedSteps then none
      else some (queueOrder r task recipe)

def startOrder (r : Robot) (nextOrder : Order) (rest : List Order) (recipe : Recipe) : Robot :=
  { r with
    preparingDish := true
    orderQueue := rest
    actionQueueInProcess := nextOrder.actionQueue
    dishInProcess := nextOrder.dish
    attributes := { r.attributes with
      recipeId := nextOrder.recipeId
      overallProcessedSteps := nextOrder.overallProcessedSteps
      overallProcessingSteps := nextOrder.overallProcessingSteps
      processableSteps := nextOrder.processableSteps
      dishName := recipe.dishName } }

/-- `cook_next_order` once it has the lock. -/
def cookNextOrder (r : Robot) : Option Robot :=
  let r := passLock r
  match r.robotState with
  | .rearranging => some (handleSwitchPosition config r)
  | .reconfiguring => some (handleReconfiguration r)
  | .available =>
      match r.orderQueue with
      | [] => some { r with preparingDish := false }
      | nextOrder :: rest =>
          match config.recipeParser.getRecipe nextOrder.recipeId with
          | none => none
          | some recipe => some (determineNextAction (startOrder r nextOrder rest recipe))

def handleNewPositionCommit (r : Robot) : Robot :=
  { r with
    alreadyRearranging := false
    robotState := .available
    worker := .cookNextOrder
    attributes := { r.attributes with
      newPositionCommitIsPending := false
      availability := true } }

/-- The random index picks one of the capabilities, by name. -/
def setCurrentAndLastEquippedTool (r : Robot) (capability : String) : Option Robot :=
  if capability ∈ r.capabilities then
    match getRobotAction capability with
    | none => none
    | some action =>
        some
          { r with
            currentTool := action.requiredTool
            attributes := { r.attributes with
              currentTool := action.requiredTool
              lastEquippedTool := action.requiredTool } }
  else none

/-- The loop of `complete_reconfiguration` over the orders it swapped out. It
ends early where `handle_receive_task` enters `cook_next_order`: the lock
there is already held by this very thread. -/
def recalculateOrderQueue : Robot → List Order → Option Robot
  | r, [] => some r
  | r, order :: pending =>
      match handleReceiveTask config r order.toTask with
      | none => none
      | some r =>
          if r.worker = .cookNextOrder then some { r with pendingOrders := pending }
          else recalculateOrderQueue r pending

def applyProfile (r : Robot) (capabilities : Finset String) : Robot :=
  { r with
    stateMutexHeld := true
    capabilities := capabilities
    newCapabilitiesProfile := ""
    attributes := { r.attributes with capabilities := capabilities } }

def finishReconfiguration (r : Robot) : Robot :=
  { r with
    alreadyReconfiguring := false
    robotState := .available
    stateMutexHeld := false
    worker := .cookNextOrder
    attributes := { r.attributes with availability := true } }

def completeReconfiguration (r : Robot) (capability : String) : Option Robot :=
  match config.capabilityParser.getCapabilities r.newCapabilitiesProfile with
  | none => none
  | some capabilities =>
      match setCurrentAndLastEquippedTool (applyProfile r capabilities) capability with
      | none => none
      | some r =>
          match recalculateOrderQueue config
            { r with
              orderQueue := []
              attributes := { r.attributes with overallTime := 0 } } r.orderQueue with
          | none => none
          | some r => if r.worker = .cookNextOrder then some r else some (finishReconfiguration r)

def target (r : Robot) (newPosition : Position) : Robot :=
  { r with newTargetPosition := newPosition }

def handle (r : Robot) (capability : String) : Handler → Option (Robot × List Output)
  | .handleReceiveTask task => (handleReceiveTask config r task).map (·, [])
  | .cookNextOrder => some (enterCookNextOrder r, [])
  | .switchPosition newPosition =>
      some (if r.preparingDish then target r newPosition
        else handleSwitchPosition config (target r newPosition), [])
  | .reconfigure => some (if r.preparingDish then r else handleReconfiguration r, [])
  | .handleNewPositionCommit => some (handleNewPositionCommit r, [])
  | .timerCompleted .retool => (retool r).map (·, [])
  | .timerCompleted .passTime => passTime r
  | .timerCompleted .moveToNewPosition => some (moveToNewPosition r, [])
  | .timerCompleted .completeReconfiguration =>
      (completeReconfiguration config r capability).map (·, [])
  | .timerAborted => some (stop r, [])

/-- One round of the notification loop of `determine_next_action`. -/
def notifyConveyor (r : Robot) : Option Bool → Robot × List Output
  | none => ({ r with conveyorClient := false }, [])
  | some received =>
      ({ r with
          pendingPickup := true
          worker := .betweenHandlers
          running := received }, [.finishedOrderNotification r.position])

end Worker

section Server

variable (config : Config)

def receiveTask (r : Robot) (task : Task) (addressedPosition : Position) :
    Option (Robot × List Output) :=
  if r.robotState ≠ .available ∨ addressedPosition ≠ r.position then
    some (r, [.taskReply task r.position false])
  else
    match config.recipeParser.getRecipe task.recipeId with
    | none => none
    | some recipe =>
        match recipe.actionQueue.drop task.overallProcessedSteps with
        | [] => none
        | action :: _ =>
            if isCapableTo r action then
              some (post r (.handleReceiveTask task), [.taskReply task r.position true])
            else some (r, [.taskReply task r.position false])

def zeroReply (r : Robot) : HandoverReply where
  endpoint := config.serverEndpoint
  position := r.position
  recipeId := 0
  processedSteps := 0
  isDishFinished := false

def handoverReply (r : Robot) : HandoverReply where
  endpoint := config.serverEndpoint
  position := r.position
  recipeId := r.attributes.recipeId
  processedSteps := r.attributes.overallProcessedSteps
  isDishFinished := r.isDishFinished

def releaseDish (r : Robot) : Robot :=
  { r with
    pendingPickup := false
    isDishFinished := false
    attributes := { r.attributes with
      processedSteps := 0
      processableSteps := 0
      overallProcessedSteps := 0
      overallProcessingSteps := 0
      recipeId := 0
      dishName := "None" } }

def handleHandoverFinishedOrder (r : Robot) : Robot × List Output :=
  if r.pendingPickup then
    (post (releaseDish r) .cookNextOrder,
      [.handoverReply r.dishInProcess (handoverReply config r)])
  else (r, [.handoverReply r.dishInProcess (zeroReply config r)])

def startAdaptation (r : Robot) (state : RobotState) : Robot :=
  { r with
    robotState := state
    attributes := { r.attributes with availability := false } }

def switchPosition (r : Robot) (newPosition : Position) (availabilityWritten : Bool) :
    Option (Robot × List Output) :=
  if newPosition ≤ 0 ∨ newPosition > config.conveyorSize - 1 ∨ newPosition = r.position then
    some (r, [.result false])
  else if r.stateMutexHeld then none
  else if r.robotState = .available ∧ availabilityWritten then
    some (post (startAdaptation r .rearranging) (.switchPosition newPosition), [.result true])
  else some (r, [.result false])

def commitNewPosition (r : Robot) : Robot × List Output :=
  if r.robotState ≠ .rearranging ∨ r.attributes.newPositionCommitIsPending = false then
    (r, [.result false])
  else (post r .handleNewPositionCommit, [.result true])

def reconfigure (r : Robot) (profile : String) (availabilityWritten : Bool) :
    Option (Robot × List Output) :=
  match config.capabilityParser.getCapabilities profile with
  | none => none
  | some capabilities =>
      if capabilities = r.capabilities then some (r, [.result false])
      else if r.stateMutexHeld then none
      else if r.robotState = .available ∧ availabilityWritten then
        some
          (post { startAdaptation r .reconfiguring with newCapabilitiesProfile := profile }
            .reconfigure, [.result true])
      else some (r, [.result false])

end Server

/-- One step of the running robot. The methods that lock `state_mutex_` are
not answered while the worker holds it. -/
def step (config : Config) (r : Robot) (event : Event) : Option (Robot × List Output) :=
  if r.running then
    match event with
    | .receiveTask task addressedPosition =>
        if r.stateMutexHeld then none else receiveTask config r task addressedPosition
    | .handoverFinishedOrder => some (handleHandoverFinishedOrder config r)
    | .switchPosition newPosition availabilityWritten =>
        switchPosition config r newPosition availabilityWritten
    | .commitNewPosition => if r.stateMutexHeld then none else some (commitNewPosition r)
    | .reconfigure profile availabilityWritten =>
        reconfigure config r profile availabilityWritten
    | .runHandler capability =>
        match r.worker, r.posted with
        | .betweenHandlers, handler :: posted =>
            handle config (takeHandler r posted) capability handler
        | _, _ => none
    | .cookNextOrder =>
        if r.worker = .cookNextOrder ∧ ¬ r.stateMutexHeld then
          (cookNextOrder config r).map (·, [])
        else none
    | .notifyConveyor reply =>
        if r.worker = .notifyingConveyor ∧ r.conveyorClient then some (notifyConveyor r reply)
        else none
    | .timerExpires =>
        match r.steadyTimer with
        | none => none
        | some wait => some (post { r with steadyTimer := none } (.timerCompleted wait.task), [])
    | .conveyorLost => some ({ r with conveyorClient := false }, [])
    | .conveyorConnected reply =>
        if r.conveyorClient then none
        else if ¬ r.pendingPickup then some ({ r with conveyorClient := true }, [])
        else
          match reply with
          | none => some (r, [])
          | some received =>
              some ({ r with conveyorClient := true, running := received },
                [.finishedOrderNotification r.position])
  else none

def initial (position : Position) (capabilities : Finset String) (tool : RobotTool) : Robot where
  position := position
  currentTool := tool
  orderQueue := []
  currentActionDuration := 0
  actionQueueInProcess := []
  dishInProcess := 0
  preparingDish := false
  alreadyRearranging := false
  alreadyReconfiguring := false
  isDishFinished := false
  running := true
  pendingPickup := false
  robotState := .available
  newTargetPosition := 0
  newCapabilitiesProfile := ""
  capabilities := capabilities
  conveyorClient := true
  attributes :=
    { position := position
      recipeId := 0
      dishName := "None"
      actionName := "None"
      ingredients := "None"
      overallTime := 0
      currentTool := tool
      lastEquippedTool := tool
      capabilities := capabilities
      processedSteps := 0
      processableSteps := 0
      overallProcessedSteps := 0
      overallProcessingSteps := 0
      availability := true
      newPositionCommitIsPending := false }
  posted := []
  steadyTimer := none
  worker := .betweenHandlers
  stateMutexHeld := false
  pendingOrders := []

/-- A fresh robot: some position, a profile that parses, and the tool of one
of its capabilities. -/
def Started (config : Config) (r : Robot) : Prop :=
  ∃ position profile capabilities name action,
    config.capabilityParser.getCapabilities profile = some capabilities ∧
    name ∈ capabilities ∧ getRobotAction name = some action ∧
    r = initial position capabilities action.requiredTool

def machine (config : Config) : Machine Robot Event Output where
  start := Started config
  step := step config

def deployment : Config where
  recipeParser := .ofRecipes recipes (by decide)
  capabilityParser := .ofProfiles capabilityProfiles (by decide)
  serverEndpoint := "opc.tcp://kitchen:4841"
  conveyorSize := 5
  conveyorSizePositive := by decide

/-- The robot `start_robots.bash` starts with the profile `r3.json`. -/
def mixingRobot : Robot := initial 3 {"mash", "whip", "crush", "stir", "mix"} .whisk

theorem mixingRobot_started : Started deployment mixingRobot :=
  ⟨3, "r3.json", {"mash", "whip", "crush", "stir", "mix"}, "whip", .autonomous .whisk 3,
    by decide, by decide, by decide, rfl⟩

end CpsKitchen.RobotAgent
