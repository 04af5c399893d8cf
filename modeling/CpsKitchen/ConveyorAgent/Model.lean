import CpsKitchen.RobotAgent.Model
import CpsKitchen.RobotMap
import Mathlib.Data.Finset.Card

/-!
# The conveyor

`conveyor.cpp` as a reactive machine. The server thread, the client threads of
the remote robots and the client thread of the conveyor only post handlers.
The one worker runs them in order and completes the waits of `steady_timer_`.
Its loops over notifications and plates pause before every element, because
each element may take a call to another agent. The event then says which
element is next (the containers are unordered) and what the call returned.

A step that returns `none` cannot be taken: the event does not fit the state,
or the body of a loop would follow a null pointer. The log lines and the plate attributes,
which nothing reads back, are left out, and with them the endpoints stored in
`notifications_map_`. `dish` is the identity of a dish and `request` the
request an answer belongs to. No branch reads them.
-/

namespace CpsKitchen.ConveyorAgent

open CpsKitchen.Reactive CpsKitchen.Recipes
open CpsKitchen.RobotAgent (HandoverReply timeUnit)
open CpsKitchen.RobotMap (RobotMap RemoteRobot)

set_option autoImplicit false

def debounceTime : Nat := 1
def moveTime : Nat := 1
def outputPosition : Position := 0

abbrev PlateId := Nat

structure Config where
  plateCount : Nat
  plateCountPositive : 0 < plateCount

structure Plate where
  position : Position
  placedRecipeId : RecipeId
  processedSteps : Nat
  occupied : Bool
  isDishFinished : Bool
  targetPosition : Position
  dish : DishId
  deriving DecidableEq

inductive StateStatus
  | idling
  | moving
  deriving DecidableEq

inductive TimerTask
  | retrieveFinishedOrders
  | moveConveyor
  deriving DecidableEq

structure Wait where
  task : TimerTask
  delay : Nat
  deriving DecidableEq

/-- A request for a next robot: the plate and the dish as they were then. -/
structure Request where
  plateId : PlateId
  recipeId : RecipeId
  processedSteps : Nat
  deriving DecidableEq

/-- The arguments of `receive_next_robot`. -/
structure NextRobot where
  robotPosition : Position
  robotEndpoint : String
  recipeId : RecipeId
  request : Request
  deriving DecidableEq

inductive Handler
  | handleFinishedOrderNotification (robotEndpoint : String) (robotPosition : Position)
  | handleReceiveNextRobot (answer : NextRobot)
  | positionSwapped (oldPosition newPosition : Position)
  | controllerReconnected
  | timerCompleted (task : TimerTask)
  | timerAborted
  deriving DecidableEq

/-- Where the worker is: in a loop, with the elements it has still to visit,
or between two handlers. -/
inductive Worker
  | betweenHandlers
  | retrievingFinishedOrders (left : Finset Position)
  | requestingNextRobots (left : Finset PlateId)
  | deliveringFinishedOrders (left : Finset PlateId)
  deriving DecidableEq

structure Conveyor where
  stateStatus : StateStatus
  plates : PlateId → Plate
  occupiedPlates : Finset PlateId
  /-- `operator[]` reads 0 where there is no entry. -/
  positionPlateIdMap : Position → PlateId
  /-- The keys of `notifications_map_`. -/
  notifications : Finset Position
  positionRemoteRobotMap : RobotMap
  nextRobotRequestQueue : List Position
  controllerClient : Bool
  occupiedPlatesAttribute : Nat
  running : Bool
  posted : List Handler
  steadyTimer : Option Wait
  worker : Worker

/-- What other agents return inside one handler: whether the connection to a
new remote robot comes up, and the positions two robots report. -/
structure Environment where
  connected : Bool
  firstPosition : Option Position
  secondPosition : Option Position
  deriving DecidableEq

/-- What a robot returns when the conveyor wants to deliver a dish to it.
`none` is a read or a call that failed. -/
structure RobotAnswer where
  position : Option Position
  available : Option Bool
  reply : Option (Position × Bool)
  deriving DecidableEq

inductive Event
  | receiveFinishedOrderNotification (robotEndpoint : String) (robotPosition : Position)
  | receiveNextRobot (answer : NextRobot)
  | positionChanged (oldPosition newPosition : Position)
  | robotStopped (position : Position)
  | controllerLost
  | controllerConnected
  | timerExpires
  | runHandler (environment : Environment)
  | retrieve (position : Position) (reply : Option (DishId × HandoverReply))
  | retrieved
  | requestNextRobot (plateId : PlateId) (reply : Option Bool)
  | requested
  | deliver (plateId : PlateId) (kitchen : Option Bool) (robot : RobotAnswer)
  | delivered
  deriving DecidableEq

inductive Output
  | handoverReply (dish : DishId) (reply : HandoverReply)
  | nextRobotRequested (request : Request)
  | completedOrder (dish : DishId) (recipeId : RecipeId) (accepted : Bool)
  | robotInstructed (dish : DishId) (recipeId : RecipeId) (processedSteps : Nat)
      (position : Position) (accepted : Bool)
  deriving DecidableEq

section Robots

def findRobot (c : Conveyor) (position : Position) : Option RemoteRobot :=
  RobotMap.find c.positionRemoteRobotMap position

def isRobotUnknown (c : Conveyor) (position : Position) (endpoint : String) : Prop :=
  RobotMap.isUnknown c.positionRemoteRobotMap position endpoint

instance (c : Conveyor) (position : Position) (endpoint : String) :
    Decidable (isRobotUnknown c position endpoint) :=
  inferInstanceAs (Decidable (RobotMap.isUnknown _ _ _))

def withRobots (c : Conveyor) (map : RobotMap) : Conveyor :=
  { c with positionRemoteRobotMap := map }

def stopRobot (c : Conveyor) (position : Position) : Conveyor :=
  withRobots c (RobotMap.stopRobot c.positionRemoteRobotMap position)

def connectRobot (c : Conveyor) (position : Position) (endpoint : String) (connected : Bool) :
    Conveyor :=
  withRobots c (RobotMap.connectRobot c.positionRemoteRobotMap position endpoint connected)

def removeStoppedRobots (c : Conveyor) : Conveyor :=
  withRobots c (RobotMap.removeStoppedRobots c.positionRemoteRobotMap)

def readPosition (c : Conveyor) (position : Position) (reported : Option Position) : Conveyor :=
  withRobots c (RobotMap.readPosition c.positionRemoteRobotMap position reported)

/-- Unlike the kitchen the conveyor removes stopped robots first. -/
def positionSwappedCallback (c : Conveyor) (oldPosition newPosition : Position)
    (environment : Environment) : Conveyor :=
  let c := removeStoppedRobots c
  withRobots c (RobotMap.reflectSwap c.positionRemoteRobotMap oldPosition newPosition
    environment.firstPosition environment.secondPosition)

end Robots

section Worker

variable (config : Config)

def post (c : Conveyor) (handler : Handler) : Conveyor :=
  { c with posted := c.posted ++ [handler] }

/-- `expires_from_now` aborts a wait that has not completed. -/
def armTimer (c : Conveyor) (task : TimerTask) (delay : Nat) : Conveyor :=
  { c with
    steadyTimer := some ⟨task, delay⟩
    posted := if c.steadyTimer.isSome then c.posted ++ [.timerAborted] else c.posted }

def takeHandler (c : Conveyor) (posted : List Handler) : Conveyor := { c with posted := posted }

def stop (c : Conveyor) : Conveyor := { c with running := false }

def setWorker (c : Conveyor) (worker : Worker) : Conveyor := { c with worker := worker }

def updatePlate (c : Conveyor) (plateId : PlateId) (plate : Plate) : Conveyor :=
  { c with plates := Function.update c.plates plateId plate }

/-- The plate that `plates_[position_plate_id_map_[position]]` is. -/
def plateAt (c : Conveyor) (position : Position) : Plate :=
  c.plates (c.positionPlateIdMap position)

def setTargetPosition (c : Conveyor) (plateId : PlateId) (position : Position) : Conveyor :=
  updatePlate c plateId { c.plates plateId with targetPosition := position }

def handleRetrieveFinishedOrders (c : Conveyor) : Conveyor :=
  setWorker (removeStoppedRobots c) (.retrievingFinishedOrders c.notifications)

def requestNextRobots (c : Conveyor) : Conveyor :=
  setWorker c (.requestingNextRobots c.occupiedPlates)

def determineNextMovement (c : Conveyor) : Conveyor :=
  if c.notifications ≠ ∅ then handleRetrieveFinishedOrders c
  else if c.occupiedPlates ≠ ∅ then requestNextRobots c
  else { setWorker c .betweenHandlers with stateStatus := .idling }

def handleFinishedOrderNotification (c : Conveyor) (robotEndpoint : String)
    (robotPosition : Position) (environment : Environment) : Conveyor :=
  let c := removeStoppedRobots c
  let isUnknown := isRobotUnknown c robotPosition robotEndpoint
  let c :=
    if isUnknown then connectRobot c robotPosition robotEndpoint environment.connected else c
  if isUnknown ∧ ¬ environment.connected then c
  else
    let c := { c with notifications := insert robotPosition c.notifications }
    if c.stateStatus = .idling then
      armTimer { c with stateStatus := .moving } .retrieveFinishedOrders (debounceTime * timeUnit)
    else c

/-- The answer is for the request at the front of the queue. -/
def takeNextRobot (c : Conveyor) (answer : NextRobot) (position : Position)
    (rest : List Position) : Conveyor :=
  let c := { c with nextRobotRequestQueue := rest }
  let c :=
    if answer.robotPosition ≠ 0 ∧ answer.robotEndpoint ≠ "" then
      setTargetPosition c (c.positionPlateIdMap position) answer.robotPosition
    else c
  if rest = [] then armTimer c .moveConveyor (moveTime * timeUnit) else c

/-- The sanity check and what follows it. -/
def assignNextRobot (c : Conveyor) (answer : NextRobot) : Conveyor :=
  match c.nextRobotRequestQueue with
  | [] => c
  | position :: rest =>
      if (plateAt c position).placedRecipeId ≠ answer.recipeId then c
      else takeNextRobot c answer position rest

def handleReceiveNextRobot (c : Conveyor) (answer : NextRobot) (environment : Environment) :
    Conveyor :=
  let c := removeStoppedRobots c
  if c.nextRobotRequestQueue = [] then c
  else
    let c :=
      if answer.robotPosition ≠ 0 ∧ answer.robotEndpoint ≠ "" ∧
          isRobotUnknown c answer.robotPosition answer.robotEndpoint then
        connectRobot c answer.robotPosition answer.robotEndpoint environment.connected
      else c
    assignNextRobot c answer

/-- The loop of `move_conveyor` over the first plates. -/
def movePlates (c : Conveyor) (steps : Nat) : Nat → Conveyor
  | 0 => c
  | plateId + 1 =>
      let c := movePlates c steps plateId
      let newPosition := ((c.plates plateId).position + steps) % config.plateCount
      { updatePlate c plateId { c.plates plateId with position := newPosition } with
        positionPlateIdMap := Function.update c.positionPlateIdMap newPosition plateId }

/-- The belt moves and the worker starts to visit the occupied plates. -/
def moveConveyor (c : Conveyor) (steps : Nat) : Conveyor :=
  let c := movePlates config c steps config.plateCount
  setWorker (removeStoppedRobots c) (.deliveringFinishedOrders c.occupiedPlates)

def controllerReconnected (c : Conveyor) : Conveyor :=
  if c.stateStatus = .moving ∧ c.nextRobotRequestQueue ≠ [] then
    determineNextMovement { c with nextRobotRequestQueue := [] }
  else c

def handle (c : Conveyor) (environment : Environment) : Handler → Conveyor
  | .handleFinishedOrderNotification robotEndpoint robotPosition =>
      handleFinishedOrderNotification c robotEndpoint robotPosition environment
  | .handleReceiveNextRobot answer => handleReceiveNextRobot c answer environment
  | .positionSwapped oldPosition newPosition =>
      positionSwappedCallback c oldPosition newPosition environment
  | .controllerReconnected => controllerReconnected c
  | .timerCompleted .retrieveFinishedOrders => handleRetrieveFinishedOrders c
  | .timerCompleted .moveConveyor => moveConveyor config c 1
  | .timerAborted => stop c

def handleHandoverFinishedOrder (c : Conveyor) (dish : DishId) (reply : HandoverReply) :
    Conveyor :=
  if reply.recipeId = 0 then c
  else
    let plateId := c.positionPlateIdMap reply.position
    let c :=
      updatePlate c plateId
        { c.plates plateId with
          placedRecipeId := reply.recipeId
          occupied := true
          isDishFinished := reply.isDishFinished
          processedSteps := reply.processedSteps
          dish := dish }
    { c with
      occupiedPlates := insert plateId c.occupiedPlates
      occupiedPlatesAttribute := (insert plateId c.occupiedPlates).card }

/-- The body of the loop in `handle_retrieve_finished_orders`. -/
def retrieve (c : Conveyor) (position : Position) (reply : Option (DishId × HandoverReply)) :
    Option (Conveyor × List Output) :=
  if (plateAt c position).occupied then some (c, [])
  else
    let answered := { c with notifications := c.notifications.erase position }
    match c.positionRemoteRobotMap position with
    | none => some (answered, [])
    | some none => none
    | some (some _) =>
        match reply with
        | none => some (stopRobot answered position, [])
        | some (dish, reply) =>
            some (handleHandoverFinishedOrder answered dish reply, [.handoverReply dish reply])

def requestOf (c : Conveyor) (plateId : PlateId) : Request where
  plateId := plateId
  recipeId := (c.plates plateId).placedRecipeId
  processedSteps := (c.plates plateId).processedSteps

/-- The body of the loop in `request_next_robots`. -/
def requestNextRobot (c : Conveyor) (plateId : PlateId) (reply : Option Bool) :
    Option (Conveyor × List Output) :=
  let plate := c.plates plateId
  if plate.isDishFinished = false ∧ plate.targetPosition = 0 then
    match reply with
    | none => some (c, [])
    | some result =>
        if ¬ c.controllerClient then none
        else if result then
          some ({ c with nextRobotRequestQueue := c.nextRobotRequestQueue ++ [plate.position] },
            [.nextRobotRequested (requestOf c plateId)])
        else some (c, [])
  else some (c, [])

def armMovement (c : Conveyor) : Conveyor :=
  if c.nextRobotRequestQueue = [] then armTimer c .moveConveyor (moveTime * timeUnit) else c

def resetPlate (plate : Plate) : Plate :=
  { plate with
    placedRecipeId := 0
    processedSteps := 0
    targetPosition := 0
    occupied := false
    isDishFinished := false }

def freePlate (c : Conveyor) (plateId : PlateId) : Conveyor :=
  { updatePlate c plateId (resetPlate (c.plates plateId)) with
    occupiedPlates := c.occupiedPlates.erase plateId
    occupiedPlatesAttribute := (c.occupiedPlates.erase plateId).card }

def deliverCompletedOrder (c : Conveyor) (plateId : PlateId) (reply : Option Bool) :
    Conveyor × List Output :=
  let plate := c.plates plateId
  match reply with
  | none => (c, [])
  | some accepted =>
      (if accepted then freePlate c plateId else c,
        [.completedOrder plate.dish plate.placedRecipeId accepted])

/-- `instruct` and what follows it. A robot that accepts but reports another
position than the plate's stops the conveyor. -/
def instructRobot (c : Conveyor) (plateId : PlateId) (reply : Option (Position × Bool)) :
    Conveyor × List Output :=
  let plate := c.plates plateId
  match reply with
  | none => (setTargetPosition (stopRobot c plate.position) plateId 0, [])
  | some (robotPosition, accepted) =>
      (if ¬ accepted then setTargetPosition c plateId 0
        else if plate.position ≠ robotPosition then stop (setTargetPosition c plateId 0)
        else freePlate c plateId,
        [.robotInstructed plate.dish plate.placedRecipeId plate.processedSteps plate.position
          accepted])

def deliverPartialOrder (c : Conveyor) (plateId : PlateId) (robot : RobotAnswer) :
    Option (Conveyor × List Output) :=
  let position := (c.plates plateId).position
  match c.positionRemoteRobotMap position with
  | none => some (setTargetPosition c plateId 0, [])
  | some none => none
  | some (some _) =>
      if robot.position.getD 0 ≠ position then
        some (setTargetPosition (readPosition c position robot.position) plateId 0, [])
      else
        match robot.available with
        | none => some (setTargetPosition (stopRobot c position) plateId 0, [])
        | some false => some (setTargetPosition c plateId 0, [])
        | some true => some (instructRobot c plateId robot.reply)

/-- The body of the loop in `deliver_finished_order`. -/
def deliver (c : Conveyor) (plateId : PlateId) (kitchen : Option Bool) (robot : RobotAnswer) :
    Option (Conveyor × List Output) :=
  let plate := c.plates plateId
  if plate.isDishFinished = false ∧ plate.targetPosition = 0 then some (c, [])
  else if plate.isDishFinished = true ∧ plate.position = outputPosition then
    some (deliverCompletedOrder c plateId kitchen)
  else if plate.isDishFinished = false ∧ plate.position = plate.targetPosition then
    deliverPartialOrder c plateId robot
  else some (c, [])

end Worker

def step (config : Config) (c : Conveyor) (event : Event) : Option (Conveyor × List Output) :=
  if c.running then
    match event with
    | .receiveFinishedOrderNotification robotEndpoint robotPosition =>
        some (post c (.handleFinishedOrderNotification robotEndpoint robotPosition), [])
    | .receiveNextRobot answer => some (post c (.handleReceiveNextRobot answer), [])
    | .positionChanged oldPosition newPosition =>
        some (post c (.positionSwapped oldPosition newPosition), [])
    | .robotStopped position => some (stopRobot c position, [])
    | .controllerLost => some ({ c with controllerClient := false }, [])
    | .controllerConnected =>
        if c.controllerClient then none
        else some (post { c with controllerClient := true } .controllerReconnected, [])
    | .timerExpires =>
        match c.steadyTimer with
        | none => none
        | some wait => some (post { c with steadyTimer := none } (.timerCompleted wait.task), [])
    | .runHandler environment =>
        match c.worker, c.posted with
        | .betweenHandlers, handler :: posted =>
            some (handle config (takeHandler c posted) environment handler, [])
        | _, _ => none
    | .retrieve position reply =>
        match c.worker with
        | .retrievingFinishedOrders left =>
            if position ∈ left then
              retrieve (setWorker c (.retrievingFinishedOrders (left.erase position))) position
                reply
            else none
        | _ => none
    | .retrieved =>
        if c.worker = .retrievingFinishedOrders ∅ then some (requestNextRobots c, []) else none
    | .requestNextRobot plateId reply =>
        match c.worker with
        | .requestingNextRobots left =>
            if plateId ∈ left then
              requestNextRobot (setWorker c (.requestingNextRobots (left.erase plateId))) plateId
                reply
            else none
        | _ => none
    | .requested =>
        if c.worker = .requestingNextRobots ∅ then
          some (armMovement (setWorker c .betweenHandlers), [])
        else none
    | .deliver plateId kitchen robot =>
        match c.worker with
        | .deliveringFinishedOrders left =>
            if plateId ∈ left then
              deliver (setWorker c (.deliveringFinishedOrders (left.erase plateId))) plateId kitchen
                robot
            else none
        | _ => none
    | .delivered =>
        if c.worker = .deliveringFinishedOrders ∅ then some (determineNextMovement c, []) else none
  else none

def initialPlate (position : Position) : Plate where
  position := position
  placedRecipeId := 0
  processedSteps := 0
  occupied := false
  isDishFinished := false
  targetPosition := 0
  dish := 0

def initial (config : Config) : Conveyor where
  stateStatus := .idling
  plates plateId := initialPlate plateId
  occupiedPlates := ∅
  positionPlateIdMap position := if position < config.plateCount then position else 0
  notifications := ∅
  positionRemoteRobotMap _ := none
  nextRobotRequestQueue := []
  controllerClient := true
  occupiedPlatesAttribute := 0
  running := true
  posted := []
  steadyTimer := none
  worker := .betweenHandlers

def machine (config : Config) : Machine Conveyor Event Output where
  start c := c = initial config
  step := step config

theorem five_positive : 0 < 5 := by decide

def fivePlates : Config where
  plateCount := 5
  plateCountPositive := five_positive

end CpsKitchen.ConveyorAgent
