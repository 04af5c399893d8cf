import CpsKitchen.FiniteMap
import CpsKitchen.Reactive.Machine
import CpsKitchen.RobotAgent.Model

/-!
# The controller

`controller.cpp` as a reactive machine, with the remote robots of
`controller.hpp`. The server thread and the client threads of the remote
robots post handlers, the one worker runs them in order. A handler pauses at
every call to another agent and the event that goes on says what the call
returned, `none` if it failed. It also pauses while the MAPE implementation
chooses a robot: that one is a parameter of the program, so it may ask for any
adaptation before it returns.

A remote robot is reached under its key in `position_remote_robot_map_`, or as
the one that a handler holds outside of the map. Left out are the log lines
and the subscribed values that only a MAPE implementation could read.
-/

namespace CpsKitchen.ControllerAgent

open CpsKitchen.Reactive CpsKitchen.Recipes
open CpsKitchen.RobotAgent (subWord)

set_option autoImplicit false

structure Config where
  recipeParser : RecipeParser

structure RemoteRobot where
  endpoint : String
  position : Position
  capabilities : Finset String
  adaptivityIsPending : Bool
  initialPositionSubscription : Bool
  initialCapabilitiesSubscription : Bool
  running : Bool
  deriving DecidableEq

abbrev RobotMap := Finmap fun _ : Position => RemoteRobot

structure NextRobotReceiver where
  running : Bool
  deriving DecidableEq

abbrev SwapKey := Position × Position

structure SwapState where
  ackFromLowerPosition : Bool
  ackFromGreaterPosition : Bool
  deriving DecidableEq

/-- The arguments of `choose_next_robot`. -/
structure Request where
  recipeId : RecipeId
  processedSteps : Nat
  endpoint : String
  agentType : String
  deriving DecidableEq

def Request.receiver (request : Request) : String × String := (request.endpoint, request.agentType)

inductive Handler
  | handleRobotRegistration (endpoint : String) (position : Position)
      (capabilities : Finset String)
  | handleNextRobotRequest (request : Request)
  | positionSwapped (oldPosition newPosition : Position)
  | capabilitiesReconfigured (robotPosition : Position)
  deriving DecidableEq

/-- Where the worker is: between two handlers, or at the call it waits for. -/
inductive Worker
  | betweenHandlers
  | initializingRobot (robot : RemoteRobot) (position : Position)
  | readingPendingCommit (position : Position)
  | resolvingMissedCommit (position : Position)
  | initializingReceiver (request : Request)
  | choosing (request : Request)
  | checkingFirst (request : Request) (fromPosition toPosition : Position)
  | checkingSecond (request : Request) (fromPosition toPosition : Position)
  | switchingFirst (request : Request) (fromPosition toPosition : Position)
  | switchingSecond (request : Request) (fromPosition toPosition : Position)
  | checkingReconfiguration (request : Request) (robotPosition : Position) (profile : String)
  | reconfiguring (request : Request) (robotPosition : Position) (profile : String)
  | answering (request : Request) (robotPosition : Position) (robotEndpoint : String)
  | committingFirst (key : SwapKey) (second : Option RemoteRobot) (position : Position)
  | committingSecond (key : SwapKey) (position : Position)
  deriving DecidableEq

structure Controller where
  positionRemoteRobotMap : RobotMap
  /-- The order stands for the one of the unordered map. -/
  pendingSwaps : List (SwapKey × SwapState)
  nextRobotReceivers : Finmap fun _ : String × String => NextRobotReceiver
  /-- The attribute `REGISTERED_ROBOTS`. -/
  registeredRobots : Nat
  running : Bool
  posted : List Handler
  worker : Worker

/-- Where the controller keeps a remote robot. -/
inductive Place
  | registered (position : Position)
  | held
  deriving DecidableEq

inductive Event
  | registerRobot (endpoint : String) (position : Position) (capabilities : Finset String)
  | chooseNextRobot (request : Request)
  | positionChanged (place : Place) (newPosition : Position)
  | capabilitiesChanged (place : Place) (capabilities : Finset String)
  | robotStopped (place : Place)
  | receiverStopped (receiver : String × String)
  | runHandler
  | robotInitialized (succeeded : Bool)
  | pendingCommitRead (answer : Option Bool)
  | newPositionCommitted (reply : Option Bool)
  | receiverInitialized (succeeded : Bool)
  /-- The MAPE implementation calls back. -/
  | swapRobotPositions (fromPosition toPosition : Position)
  | reconfigureRobotCapability (robotPosition : Position) (profile : String)
  | availabilityRead (answer : Option Bool)
  | positionSwitched (reply : Option Bool)
  | capabilitiesInstructed (reply : Option Bool)
  /-- `on_new_order` returns the robot under a position, or null. -/
  | nextRobotChosen (position : Option Position)
  | nextRobotReceived (reply : Option Bool)
  deriving DecidableEq

inductive Output
  | requestAccepted (request : Request)
  | switchInstructed (endpoint : String) (newPosition : Position) (reply : Option Bool)
  | swapAdded (key : SwapKey)
  | reconfigurationInstructed (endpoint : String) (profile : String) (reply : Option Bool)
  | commitInstructed (endpoint : String) (position : Position) (reply : Option Bool)
  | nextRobotSent (request : Request) (robotPosition : Position) (robotEndpoint : String)
      (reply : Option Bool)
  deriving DecidableEq

section Robots

def findRobot (c : Controller) (position : Position) : Option RemoteRobot :=
  c.positionRemoteRobotMap.lookup position

def isRegistered (c : Controller) (position : Position) : Prop := (findRobot c position).isSome

instance (c : Controller) (position : Position) : Decidable (isRegistered c position) :=
  inferInstanceAs (Decidable ((findRobot c position).isSome = true))

def isStopped (c : Controller) (position : Position) : Prop :=
  (findRobot c position).any fun robot => !robot.running

instance (c : Controller) (position : Position) : Decidable (isStopped c position) :=
  inferInstanceAs (Decidable (Option.any _ _ = true))

def updateRobot (c : Controller) (position : Position) (change : RemoteRobot → RemoteRobot) :
    Controller :=
  { c with positionRemoteRobotMap := FiniteMap.modify position change c.positionRemoteRobotMap }

def insertRobot (c : Controller) (position : Position) (robot : RemoteRobot) : Controller :=
  { c with positionRemoteRobotMap := c.positionRemoteRobotMap.insert position robot }

def eraseRobot (c : Controller) (position : Position) : Controller :=
  { c with positionRemoteRobotMap := c.positionRemoteRobotMap.erase position }

def setAdaptivityFlag (robot : RemoteRobot) : RemoteRobot :=
  { robot with adaptivityIsPending := true }

def resetAdaptivityFlag (robot : RemoteRobot) : RemoteRobot :=
  { robot with adaptivityIsPending := false }

/-- The client of a remote robot stops where a call or a read fails. -/
def stopRobot (robot : RemoteRobot) : RemoteRobot := { robot with running := false }

/-- What a call leaves of the remote robot it was made to. -/
def afterCall (reply : Option Bool) (robot : RemoteRobot) : RemoteRobot :=
  if reply = none then stopRobot robot else robot

end Robots

section Swaps

def swapKey (first second : Position) : SwapKey :=
  if first < second then (first, second) else (second, first)

def involves (position : Position) (key : SwapKey) : Prop := key.1 = position ∨ key.2 = position

instance (position : Position) (key : SwapKey) : Decidable (involves position key) :=
  inferInstanceAs (Decidable (_ ∨ _))

/-- The key that `is_robot_position_swapping` finds. -/
def swappingKey (c : Controller) (position : Position) : Option SwapKey :=
  (c.pendingSwaps.map Prod.fst).find? fun key => involves position key

def isRobotPositionSwapping (c : Controller) (position : Position) : Prop :=
  (swappingKey c position).isSome

instance (c : Controller) (position : Position) : Decidable (isRobotPositionSwapping c position) :=
  inferInstanceAs (Decidable ((swappingKey c position).isSome = true))

/-- What the loop of `remove_stopped_robots` makes of one entry. -/
def acknowledgeStopped (c : Controller) (entry : SwapKey × SwapState) : SwapKey × SwapState :=
  let lower := decide (isStopped c entry.1.1 ∧ swappingKey c entry.1.1 = some entry.1)
  let greater := decide (isStopped c entry.1.2 ∧ swappingKey c entry.1.2 = some entry.1)
  (entry.1,
    { ackFromLowerPosition := entry.2.ackFromLowerPosition || lower
      ackFromGreaterPosition := entry.2.ackFromGreaterPosition || greater })

def removeStoppedRobots (c : Controller) : Controller :=
  let stopped := c.positionRemoteRobotMap.keys.filter fun position => isStopped c position
  { c with
    positionRemoteRobotMap := FiniteMap.retain RemoteRobot.running c.positionRemoteRobotMap
    registeredRobots := subWord 32 c.registeredRobots stopped.card
    pendingSwaps := c.pendingSwaps.map (acknowledgeStopped c) }

def eraseStalePendingSwapEntries (c : Controller) : Controller :=
  { c with
    pendingSwaps := c.pendingSwaps.filter fun entry =>
      isRegistered c entry.1.1 ∨ isRegistered c entry.1.2 }

def eraseSwap (c : Controller) (key : SwapKey) : Controller :=
  { c with pendingSwaps := c.pendingSwaps.filter fun entry => entry.1 ≠ key }

def SwapState.acknowledge (swap : SwapState) (key : SwapKey) (oldPosition : Position) :
    SwapState :=
  if oldPosition = key.2 then { swap with ackFromGreaterPosition := true }
  else { swap with ackFromLowerPosition := true }

def SwapState.isAcknowledged (swap : SwapState) : Bool :=
  swap.ackFromLowerPosition && swap.ackFromGreaterPosition

def acknowledgeSwap (c : Controller) (key : SwapKey) (oldPosition : Position) : Controller :=
  { c with
    pendingSwaps := c.pendingSwaps.map fun entry =>
      if entry.1 = key then (key, entry.2.acknowledge key oldPosition) else entry }

/-- The entry whose robot at `toPosition` counts as acknowledged, or not yet. -/
def newSwap (fromPosition toPosition : Position) (acknowledged : Bool) : SwapState where
  ackFromLowerPosition := acknowledged && decide (toPosition < fromPosition)
  ackFromGreaterPosition := acknowledged && decide (fromPosition < toPosition)

def addSwap (c : Controller) (fromPosition toPosition : Position) (acknowledged : Bool) :
    Controller :=
  { c with
    pendingSwaps := c.pendingSwaps ++
      [(swapKey fromPosition toPosition, newSwap fromPosition toPosition acknowledged)] }

end Swaps

section Worker

variable (config : Config)

def post (c : Controller) (handler : Handler) : Controller :=
  { c with posted := c.posted ++ [handler] }

def takeHandler (c : Controller) (posted : List Handler) : Controller := { c with posted := posted }

def setWorker (c : Controller) (worker : Worker) : Controller := { c with worker := worker }

def stop (c : Controller) : Controller := { c with running := false }

def robotAt (c : Controller) : Place → Option RemoteRobot
  | .registered position => findRobot c position
  | .held =>
      match c.worker with
      | .initializingRobot robot _ => some robot
      | .committingFirst _ second _ => second
      | _ => none

def updateAt (c : Controller) (change : RemoteRobot → RemoteRobot) : Place → Controller
  | .registered position => updateRobot c position change
  | .held =>
      match c.worker with
      | .initializingRobot robot position =>
          setWorker c (.initializingRobot (change robot) position)
      | .committingFirst key second position =>
          setWorker c (.committingFirst key (second.map change) position)
      | _ => c

def positionChanged (c : Controller) (place : Place) (newPosition : Position) :
    Option Controller :=
  match robotAt c place with
  | none => none
  | some robot =>
      let c := updateAt c
        (fun robot => { robot with position := newPosition, initialPositionSubscription := false })
        place
      if robot.initialPositionSubscription then some c
      else some (post c (.positionSwapped robot.position newPosition))

def capabilitiesChanged (c : Controller) (place : Place) (capabilities : Finset String) :
    Option Controller :=
  match robotAt c place with
  | none => none
  | some robot =>
      let c := updateAt c
        (fun robot =>
          { robot with capabilities := capabilities, initialCapabilitiesSubscription := false })
        place
      if robot.initialCapabilitiesSubscription then some c
      else some (post c (.capabilitiesReconfigured robot.position))

def newRemoteRobot (endpoint : String) (position : Position) (capabilities : Finset String) :
    RemoteRobot where
  endpoint := endpoint
  position := position
  capabilities := capabilities
  adaptivityIsPending := false
  initialPositionSubscription := true
  initialCapabilitiesSubscription := true
  running := true

def handleRobotRegistration (c : Controller) (endpoint : String) (position : Position)
    (capabilities : Finset String) : Controller :=
  let c := eraseStalePendingSwapEntries (removeStoppedRobots c)
  if isRobotPositionSwapping c position then c
  else if isRegistered c position then c
  else setWorker c (.initializingRobot (newRemoteRobot endpoint position capabilities) position)

/-- A robot registered anew may have missed the commit of its last move. -/
def resolveMissedNewPositionCommit (c : Controller) (robotPosition : Position) : Controller :=
  match findRobot c robotPosition with
  | none => setWorker c .betweenHandlers
  | some robot =>
      if ¬ robot.adaptivityIsPending ∧ ¬ isRobotPositionSwapping c robotPosition then
        setWorker c (.readingPendingCommit robotPosition)
      else setWorker c .betweenHandlers

/-- The MAPE implementation gets the actions that are left of the recipe. -/
def findSuitableRobot (c : Controller) (request : Request) : Option Controller :=
  match config.recipeParser.getRecipe request.recipeId with
  | none => none
  | some recipe =>
      if recipe.actionQueue.length < request.processedSteps then none
      else some (setWorker c (.choosing request))

def handleNextRobotRequest (c : Controller) (request : Request) : Option Controller :=
  let c := eraseStalePendingSwapEntries (removeStoppedRobots c)
  if c.nextRobotReceivers.lookup request.receiver = none then
    some (setWorker c (.initializingReceiver request))
  else findSuitableRobot config c request

/-- The second robot of a swap is told to commit, and the entry goes away
after that. -/
def commitSecond (c : Controller) (key : SwapKey) : Option RemoteRobot → Controller
  | none => setWorker (eraseSwap c key) .betweenHandlers
  | some second =>
      setWorker (insertRobot c second.position (resetAdaptivityFlag second))
        (.committingSecond key second.position)

/-- Both robots leave the map before they return under their new keys. -/
def completeSwap (c : Controller) (key : SwapKey) : Controller :=
  let first := findRobot c key.1
  let second := findRobot c key.2
  let c := eraseRobot (eraseRobot c key.1) key.2
  match first with
  | none => commitSecond c key second
  | some first =>
      setWorker (insertRobot c first.position (resetAdaptivityFlag first))
        (.committingFirst key second first.position)

/-- The handler that `position_swapped_callback` posts. -/
def positionSwapped (c : Controller) (oldPosition newPosition : Position) : Controller :=
  let c := eraseStalePendingSwapEntries (removeStoppedRobots c)
  let key := swapKey oldPosition newPosition
  match c.pendingSwaps.lookup key with
  | none => c
  | some swap =>
      let c := acknowledgeSwap c key oldPosition
      if (swap.acknowledge key oldPosition).isAcknowledged then completeSwap c key else c

def capabilitiesReconfigured (c : Controller) (robotPosition : Position) : Controller :=
  updateRobot (removeStoppedRobots c) robotPosition resetAdaptivityFlag

def handle (c : Controller) : Handler → Option Controller
  | .handleRobotRegistration endpoint position capabilities =>
      some (handleRobotRegistration c endpoint position capabilities)
  | .handleNextRobotRequest request => handleNextRobotRequest config c request
  | .positionSwapped oldPosition newPosition => some (positionSwapped c oldPosition newPosition)
  | .capabilitiesReconfigured robotPosition => some (capabilitiesReconfigured c robotPosition)

/-- Neither a robot with pending adaptivity nor one that is not there adapts. -/
def mayAdapt (c : Controller) (position : Position) : Prop :=
  (findRobot c position).any fun robot => !robot.adaptivityIsPending

instance (c : Controller) (position : Position) : Decidable (mayAdapt c position) :=
  inferInstanceAs (Decidable (Option.any _ _ = true))

/-- The checks of `swap_robot_positions` up to the first call. -/
def swapRobotPositions (c : Controller) (request : Request)
    (fromPosition toPosition : Position) : Controller :=
  if fromPosition = toPosition then c
  else if isRobotPositionSwapping c fromPosition ∨ isRobotPositionSwapping c toPosition then c
  else if ¬ mayAdapt c fromPosition then c
  else setWorker c (.checkingFirst request fromPosition toPosition)

def reconfigureRobotCapability (c : Controller) (request : Request) (robotPosition : Position)
    (profile : String) : Controller :=
  if ¬ mayAdapt c robotPosition then c
  else setWorker c (.checkingReconfiguration request robotPosition profile)

/-- The first robot is available, now it is the turn of the other one. -/
def checkSecond (c : Controller) (request : Request) (fromPosition toPosition : Position) :
    Controller :=
  if ¬ isRegistered c toPosition then
    setWorker c (.switchingFirst request fromPosition toPosition)
  else if mayAdapt c toPosition then
    setWorker c (.checkingSecond request fromPosition toPosition)
  else setWorker c (.choosing request)

def unavailable (c : Controller) (request : Request) (position : Position)
    (answer : Option Bool) : Controller :=
  setWorker (updateRobot c position (afterCall answer)) (.choosing request)

def availabilityRead (c : Controller) (answer : Option Bool) : Option Controller :=
  match c.worker with
  | .checkingFirst request fromPosition toPosition =>
      if answer = some true then some (checkSecond c request fromPosition toPosition)
      else some (unavailable c request fromPosition answer)
  | .checkingSecond request fromPosition toPosition =>
      if answer = some true then
        some (setWorker c (.switchingFirst request fromPosition toPosition))
      else some (unavailable c request toPosition answer)
  | .checkingReconfiguration request robotPosition profile =>
      if answer = some true then
        some (setWorker c (.reconfiguring request robotPosition profile))
      else some (unavailable c request robotPosition answer)
  | _ => none

def endpointAt (c : Controller) (position : Position) : String :=
  ((findRobot c position).map RemoteRobot.endpoint).getD ""

/-- The first robot will switch: the other one follows, if there is one. -/
def switchSecond (c : Controller) (request : Request) (fromPosition toPosition : Position) :
    Controller × List Output :=
  if isRegistered c toPosition then
    (setWorker c (.switchingSecond request fromPosition toPosition), [])
  else
    (setWorker (addSwap c fromPosition toPosition true) (.choosing request),
      [.swapAdded (swapKey fromPosition toPosition)])

/-- The two calls of `swap_robot_positions`. A refusal stops the controller. -/
def positionSwitched (c : Controller) (reply : Option Bool) : Option (Controller × List Output) :=
  match c.worker with
  | .switchingFirst request fromPosition toPosition =>
      let instructed := Output.switchInstructed (endpointAt c fromPosition) toPosition reply
      match reply with
      | none =>
          some (setWorker (updateRobot c fromPosition stopRobot) (.choosing request), [instructed])
      | some false => some (setWorker (stop c) (.choosing request), [instructed])
      | some true =>
          let switched :=
            switchSecond (updateRobot c fromPosition setAdaptivityFlag) request fromPosition
              toPosition
          some (switched.1, instructed :: switched.2)
  | .switchingSecond request fromPosition toPosition =>
      let instructed := Output.switchInstructed (endpointAt c toPosition) fromPosition reply
      if reply = some false then some (setWorker (stop c) (.choosing request), [instructed])
      else
        let c := updateRobot c toPosition (fun robot => setAdaptivityFlag (afterCall reply robot))
        some (setWorker (addSwap c fromPosition toPosition (reply = none)) (.choosing request),
          [instructed, .swapAdded (swapKey fromPosition toPosition)])
  | _ => none

def capabilitiesInstructed (c : Controller) (reply : Option Bool) :
    Option (Controller × List Output) :=
  match c.worker with
  | .reconfiguring request robotPosition profile =>
      let instructed :=
        Output.reconfigurationInstructed (endpointAt c robotPosition) profile reply
      let change := if reply = some true then setAdaptivityFlag else afterCall reply
      some (setWorker (updateRobot c robotPosition change) (.choosing request), [instructed])
  | _ => none

def newPositionCommitted (c : Controller) (reply : Option Bool) :
    Option (Controller × List Output) :=
  match c.worker with
  | .committingFirst key second position =>
      some (commitSecond (updateRobot c position (afterCall reply)) key second,
        [.commitInstructed (endpointAt c position) position reply])
  | .committingSecond key position =>
      some (setWorker (eraseSwap (updateRobot c position (afterCall reply)) key) .betweenHandlers,
        [.commitInstructed (endpointAt c position) position reply])
  | .resolvingMissedCommit position =>
      some (setWorker (updateRobot c position (afterCall reply)) .betweenHandlers,
        [.commitInstructed (endpointAt c position) position reply])
  | _ => none

/-- The robot that `find_suitable_robot` returned, if it may be named. -/
def chosenRobot (c : Controller) (position : Option Position) : Option RemoteRobot :=
  (position.bind (findRobot c)).filter fun robot => !robot.adaptivityIsPending

def nextRobotChosen (c : Controller) (request : Request) (position : Option Position) :
    Controller :=
  let robot := chosenRobot c position
  if c.nextRobotReceivers.lookup request.receiver = none then setWorker c .betweenHandlers
  else setWorker c (.answering request ((robot.map RemoteRobot.position).getD 0)
    ((robot.map RemoteRobot.endpoint).getD ""))

def robotInitialized (c : Controller) (succeeded : Bool) : Option Controller :=
  match c.worker with
  | .initializingRobot robot position =>
      if succeeded then
        some (resolveMissedNewPositionCommit
          { insertRobot c position robot with
            registeredRobots := (c.registeredRobots + 1) % 2 ^ 32 } position)
      else some (setWorker c .betweenHandlers)
  | _ => none

def pendingCommitRead (c : Controller) (answer : Option Bool) : Option Controller :=
  match c.worker with
  | .readingPendingCommit position =>
      if answer = some true then some (setWorker c (.resolvingMissedCommit position))
      else some (setWorker (updateRobot c position (afterCall answer)) .betweenHandlers)
  | _ => none

def setReceiver (c : Controller) (receiver : String × String) (running : Bool) : Controller :=
  { c with nextRobotReceivers := c.nextRobotReceivers.insert receiver ⟨running⟩ }

def receiverInitialized (c : Controller) (succeeded : Bool) : Option Controller :=
  match c.worker with
  | .initializingReceiver request =>
      findSuitableRobot config (if succeeded then setReceiver c request.receiver true else c)
        request
  | _ => none

def nextRobotReceived (c : Controller) (reply : Option Bool) :
    Option (Controller × List Output) :=
  match c.worker with
  | .answering request robotPosition robotEndpoint =>
      let c := if reply = none then setReceiver c request.receiver false else c
      some (setWorker c .betweenHandlers,
        [.nextRobotSent request robotPosition robotEndpoint reply])
  | _ => none

end Worker

/-- One step of the controller. When it has stopped, the handler that runs
still comes to its end. -/
def step (config : Config) (c : Controller) (event : Event) :
    Option (Controller × List Output) :=
  match event with
  | .registerRobot endpoint position capabilities =>
      if c.running then
        some (post c (.handleRobotRegistration endpoint position capabilities), [])
      else none
  | .chooseNextRobot request =>
      if c.running then
        some (post c (.handleNextRobotRequest request), [.requestAccepted request])
      else none
  | .positionChanged place newPosition => (positionChanged c place newPosition).map (·, [])
  | .capabilitiesChanged place capabilities =>
      (capabilitiesChanged c place capabilities).map (·, [])
  | .robotStopped place =>
      if robotAt c place = none then none else some (updateAt c stopRobot place, [])
  | .receiverStopped receiver =>
      if c.nextRobotReceivers.lookup receiver = none then none
      else some (setReceiver c receiver false, [])
  | .runHandler =>
      match c.running, c.worker, c.posted with
      | true, .betweenHandlers, handler :: posted =>
          (handle config (takeHandler c posted) handler).map (·, [])
      | _, _, _ => none
  | .robotInitialized succeeded => (robotInitialized c succeeded).map (·, [])
  | .pendingCommitRead answer => (pendingCommitRead c answer).map (·, [])
  | .newPositionCommitted reply => newPositionCommitted c reply
  | .receiverInitialized succeeded => (receiverInitialized config c succeeded).map (·, [])
  | .swapRobotPositions fromPosition toPosition =>
      match c.worker with
      | .choosing request => some (swapRobotPositions c request fromPosition toPosition, [])
      | _ => none
  | .reconfigureRobotCapability robotPosition profile =>
      match c.worker with
      | .choosing request => some (reconfigureRobotCapability c request robotPosition profile, [])
      | _ => none
  | .availabilityRead answer => (availabilityRead c answer).map (·, [])
  | .positionSwitched reply => positionSwitched c reply
  | .capabilitiesInstructed reply => capabilitiesInstructed c reply
  | .nextRobotChosen position =>
      match c.worker with
      | .choosing request => some (nextRobotChosen c request position, [])
      | _ => none
  | .nextRobotReceived reply => nextRobotReceived c reply

def initial : Controller where
  positionRemoteRobotMap := ∅
  pendingSwaps := []
  nextRobotReceivers := ∅
  registeredRobots := 0
  running := true
  posted := []
  worker := .betweenHandlers

def machine (config : Config) : Machine Controller Event Output where
  start c := c = initial
  step := step config

def deployment : Config where
  recipeParser := RobotAgent.deployment.recipeParser

end CpsKitchen.ControllerAgent
