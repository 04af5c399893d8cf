import CpsKitchen.ConveyorAgent.Model

/-!
# The kitchen

`kitchen.cpp` as a reactive machine. The server thread, the client threads of
the remote robots and the client thread of the kitchen only post handlers. The
one worker runs them in order and completes the waits of `placing_timer_`. A
handler pauses where it calls the controller, before it instructs a robot and
when the robot has answered.

A step that returns `none` cannot be taken. The log lines, the connectivity
attributes and the thread that looks for robots to show, which nothing reads
back, are left out. `order` is the identity of an order, and of the dish that
is made for it. No branch reads it.
-/

namespace CpsKitchen.KitchenAgent

open CpsKitchen.Reactive CpsKitchen.Recipes CpsKitchen.RobotMap
open CpsKitchen.ConveyorAgent (RobotAnswer)
open CpsKitchen.RobotAgent (timeUnit)

set_option autoImplicit false

structure Config where
  recipeCount : Nat

/-- The arguments of `receive_next_robot`. -/
structure NextRobot where
  robotPosition : Position
  robotEndpoint : String
  recipeId : RecipeId
  order : DishId
  deriving DecidableEq

inductive Handler
  | handleRandomOrderRequest (order : DishId)
  | handleReceiveNextRobot (answer : NextRobot)
  | incrementCompletedOrders (order : DishId)
  | positionSwapped (oldPosition newPosition : Position)
  | placingTimerCompleted
  | placingTimerAborted
  deriving DecidableEq

inductive Worker
  | betweenHandlers
  /-- In the loop that calls `choose_next_robot`. -/
  | choosingNextRobot (order : DishId) (recipeId : RecipeId)
  /-- About to look at the robot and to instruct it. -/
  | instructingRobot (answer : NextRobot)
  /-- The robot has answered. -/
  | robotInstructed (answer : NextRobot) (accepted : Bool)
  deriving DecidableEq

/-- The counters in the address space of the kitchen's server. -/
structure Counters where
  receivedOrders : Nat
  assignedOrders : Nat
  droppedOrders : Nat
  completedOrders : Nat
  deriving DecidableEq

structure Kitchen where
  placingGateOpen : Bool
  placingQueue : List DishId
  /-- A wait of `placing_timer_` is pending. -/
  placingTimer : Bool
  positionRemoteRobotMap : RobotMap
  controllerClient : Bool
  counters : Counters
  running : Bool
  posted : List Handler
  worker : Worker

/-- What is drawn and what other agents return inside one handler. -/
structure Environment where
  recipeId : RecipeId
  connected : Bool
  firstPosition : Option Position
  secondPosition : Option Position
  deriving DecidableEq

inductive Event
  | placeRandomOrder (order : DishId)
  | receiveNextRobot (answer : NextRobot)
  | receiveCompletedOrder (order : DishId)
  | positionChanged (oldPosition newPosition : Position)
  | robotStopped (position : Position)
  | controllerLost
  | controllerConnected
  | timerExpires
  | runHandler (environment : Environment)
  /-- One call of the loop in `do_place`. `none` is a call that failed. -/
  | chooseNextRobot (reply : Option Bool)
  | instruct (robot : RobotAnswer)
  | countOrder
  deriving DecidableEq

inductive Output
  | orderPlaced (order : DishId) (recipeId : RecipeId)
  | nextRobotRequested (order : DishId) (recipeId : RecipeId) (accepted : Bool)
  | robotInstructed (order : DishId) (recipeId : RecipeId) (position : Position)
      (accepted : Bool)
  | orderAssigned (order : DishId)
  | orderDropped (order : DishId)
  | orderCompleted (order : DishId)
  deriving DecidableEq

section Worker

variable (config : Config)

def post (k : Kitchen) (handler : Handler) : Kitchen :=
  { k with posted := k.posted ++ [handler] }

def takeHandler (k : Kitchen) (posted : List Handler) : Kitchen := { k with posted := posted }

def setWorker (k : Kitchen) (worker : Worker) : Kitchen := { k with worker := worker }

def withRobots (k : Kitchen) (map : RobotMap) : Kitchen :=
  { k with positionRemoteRobotMap := map }

/-- The counters are unsigned 32-bit words. -/
def increment (counter : Nat) : Nat := (counter + 1) % 2 ^ 32

def receiveOrder (k : Kitchen) : Kitchen :=
  { k with counters :=
    { k.counters with receivedOrders := increment k.counters.receivedOrders } }

def assignOrder (k : Kitchen) : Kitchen :=
  { k with counters :=
    { k.counters with assignedOrders := increment k.counters.assignedOrders } }

def dropOrder (k : Kitchen) : Kitchen :=
  { k with counters := { k.counters with droppedOrders := increment k.counters.droppedOrders } }

def completeOrder (k : Kitchen) : Kitchen :=
  { k with counters :=
    { k.counters with completedOrders := increment k.counters.completedOrders } }

/-- `expires_after` aborts a wait that has not completed. -/
def armPlacingGate (k : Kitchen) : Kitchen :=
  { k with
    placingTimer := true
    posted := if k.placingTimer then k.posted ++ [.placingTimerAborted] else k.posted }

/-- `do_place` up to its loop. A recipe is drawn among the known ones. -/
def place (k : Kitchen) (order : DishId) (environment : Environment) :
    Option (Kitchen × List Output) :=
  if 1 ≤ environment.recipeId ∧ environment.recipeId ≤ config.recipeCount then
    some (setWorker (receiveOrder k) (.choosingNextRobot order environment.recipeId),
      [.orderPlaced order environment.recipeId])
  else none

def handleRandomOrderRequest (k : Kitchen) (order : DishId) (environment : Environment) :
    Option (Kitchen × List Output) :=
  let k := withRobots k (removeStoppedRobots k.positionRemoteRobotMap)
  if k.placingGateOpen then place config { k with placingGateOpen := false } order environment
  else some ({ k with placingQueue := k.placingQueue ++ [order] }, [])

def placingTimerCompleted (k : Kitchen) (environment : Environment) :
    Option (Kitchen × List Output) :=
  match k.placingQueue with
  | [] => some ({ k with placingGateOpen := true }, [])
  | order :: rest => place config { k with placingQueue := rest } order environment

/-- The part of `handle_receive_next_robot` before it looks at the robot. -/
def handleReceiveNextRobot (k : Kitchen) (answer : NextRobot) (environment : Environment) :
    Kitchen × List Output :=
  let k := withRobots k (removeStoppedRobots k.positionRemoteRobotMap)
  if answer.robotPosition = 0 ∨ answer.robotEndpoint = "" then
    (dropOrder k, [.orderDropped answer.order])
  else
    let unknown := isUnknown k.positionRemoteRobotMap answer.robotPosition answer.robotEndpoint
    let k :=
      if unknown then
        withRobots k (connectRobot k.positionRemoteRobotMap answer.robotPosition
          answer.robotEndpoint environment.connected)
      else k
    if unknown ∧ ¬ environment.connected then (dropOrder k, [.orderDropped answer.order])
    else (setWorker k (.instructingRobot answer), [])

def positionSwappedCallback (k : Kitchen) (oldPosition newPosition : Position)
    (environment : Environment) : Kitchen :=
  withRobots k (reflectSwap k.positionRemoteRobotMap oldPosition newPosition
    environment.firstPosition environment.secondPosition)

def handle (k : Kitchen) (environment : Environment) : Handler → Option (Kitchen × List Output)
  | .handleRandomOrderRequest order => handleRandomOrderRequest config k order environment
  | .handleReceiveNextRobot answer => some (handleReceiveNextRobot k answer environment)
  | .incrementCompletedOrders order => some (completeOrder k, [.orderCompleted order])
  | .positionSwapped oldPosition newPosition =>
      some (positionSwappedCallback k oldPosition newPosition environment, [])
  | .placingTimerCompleted => placingTimerCompleted config k environment
  | .placingTimerAborted => some (k, [])

/-- A call of `choose_next_robot` that fails drops the client. The loop goes on
when there is a new one. -/
def chooseNextRobot (k : Kitchen) (order : DishId) (recipeId : RecipeId) :
    Option Bool → Kitchen × List Output
  | none => ({ k with controllerClient := false }, [])
  | some accepted =>
      (armPlacingGate (setWorker k .betweenHandlers),
        [.nextRobotRequested order recipeId accepted])

def dropInstruction (k : Kitchen) (answer : NextRobot) : Kitchen × List Output :=
  (dropOrder (setWorker k .betweenHandlers), [.orderDropped answer.order])

/-- The rest of `handle_receive_next_robot` up to the robot's answer. A read or a
call that fails stops the remote robot. -/
def instruct (k : Kitchen) (answer : NextRobot) (robot : RobotAnswer) :
    Option (Kitchen × List Output) :=
  let stopped := withRobots k (stopRobot k.positionRemoteRobotMap answer.robotPosition)
  match find k.positionRemoteRobotMap answer.robotPosition with
  | none => none
  | some _ =>
      if robot.position = none then some (dropInstruction stopped answer)
      else if robot.position ≠ some answer.robotPosition then some (dropInstruction k answer)
      else
        match robot.available with
        | none => some (dropInstruction stopped answer)
        | some false => some (dropInstruction k answer)
        | some true =>
            match robot.reply with
            | none => some (dropInstruction stopped answer)
            | some (_, accepted) =>
                some (setWorker k (.robotInstructed answer accepted),
                  [.robotInstructed answer.order answer.recipeId answer.robotPosition accepted])

def countOrder (k : Kitchen) (answer : NextRobot) (accepted : Bool) : Kitchen × List Output :=
  if accepted then
    (assignOrder (setWorker k .betweenHandlers), [.orderAssigned answer.order])
  else (dropOrder (setWorker k .betweenHandlers), [.orderDropped answer.order])

end Worker

def step (config : Config) (k : Kitchen) (event : Event) : Option (Kitchen × List Output) :=
  if k.running then
    match event with
    | .placeRandomOrder order => some (post k (.handleRandomOrderRequest order), [])
    | .receiveNextRobot answer => some (post k (.handleReceiveNextRobot answer), [])
    | .receiveCompletedOrder order => some (post k (.incrementCompletedOrders order), [])
    | .positionChanged oldPosition newPosition =>
        some (post k (.positionSwapped oldPosition newPosition), [])
    | .robotStopped position =>
        some (withRobots k (stopRobot k.positionRemoteRobotMap position), [])
    | .controllerLost => some ({ k with controllerClient := false }, [])
    | .controllerConnected => some ({ k with controllerClient := true }, [])
    | .timerExpires =>
        if k.placingTimer then
          some (post { k with placingTimer := false } .placingTimerCompleted, [])
        else none
    | .runHandler environment =>
        match k.worker, k.posted with
        | .betweenHandlers, handler :: posted =>
            handle config (takeHandler k posted) environment handler
        | _, _ => none
    | .chooseNextRobot reply =>
        match k.worker with
        | .choosingNextRobot order recipeId =>
            if k.controllerClient then some (chooseNextRobot k order recipeId reply) else none
        | _ => none
    | .instruct robot =>
        match k.worker with
        | .instructingRobot answer => instruct k answer robot
        | _ => none
    | .countOrder =>
        match k.worker with
        | .robotInstructed answer accepted => some (countOrder k answer accepted)
        | _ => none
  else none

def initial : Kitchen where
  placingGateOpen := true
  placingQueue := []
  placingTimer := false
  positionRemoteRobotMap _ := none
  controllerClient := true
  counters := ⟨0, 0, 0, 0⟩
  running := true
  posted := []
  worker := .betweenHandlers

def machine (config : Config) : Machine Kitchen Event Output where
  start k := k = initial
  step := step config

end CpsKitchen.KitchenAgent
