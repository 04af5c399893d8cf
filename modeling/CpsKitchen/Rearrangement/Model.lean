import CpsKitchen.RobotAgent.Travel
import CpsKitchen.ControllerAgent.Swaps

/-!
# Robots and their controller

Any number of robots together with the controller they are registered at. A
method call and its reply are one step of both sides, since the controller
waits for it. What a robot writes to its attribute `POSITION` travels to the
controller in order. No agent and no call fails here.
-/

namespace CpsKitchen.Rearrangement

open CpsKitchen.Reactive CpsKitchen.Recipes
open CpsKitchen.RobotAgent (Robot writesPosition)
open CpsKitchen.ControllerAgent (Controller RemoteRobot Place robotAt findRobot isRegistered
  endpointAt Request)

set_option autoImplicit false

structure Config where
  robot : RobotAgent.Config
  controller : ControllerAgent.Config
  /-- Where the robots are served. -/
  endpoints : Finset String

def Config.robotAt (config : Config) (endpoint : String) : RobotAgent.Config :=
  { config.robot with serverEndpoint := endpoint }

structure Plant where
  controller : Controller
  robots : String → Robot
  /-- Values of `POSITION` that the controller has yet to receive. -/
  notices : String → List Position
  /-- The positions between which a robot was told to switch last, `none`
  after a reconfiguration. No branch reads it. -/
  lastSwitch : String → Option (Position × Position)

/-- What the controller asks a robot for. -/
inductive Call
  | readAvailability
  | switchPosition (newPosition : Position)
  | reconfigure (profile : String)
  | commitNewPosition
  deriving DecidableEq

inductive Event
  | robot (endpoint : String) (event : RobotAgent.Event)
  | controller (event : ControllerAgent.Event)
  | notifyPosition (endpoint : String) (place : Place)
  | call
  deriving DecidableEq

section Calls

/-- The call the worker waits for, and the key of the robot it goes to. -/
def pendingCall (c : Controller) : Option (Position × Call) :=
  match c.worker with
  | .checkingFirst _ fromPosition _ => some (fromPosition, .readAvailability)
  | .checkingSecond _ _ toPosition => some (toPosition, .readAvailability)
  | .checkingReconfiguration _ robotPosition _ => some (robotPosition, .readAvailability)
  | .switchingFirst _ fromPosition toPosition => some (fromPosition, .switchPosition toPosition)
  | .switchingSecond _ fromPosition toPosition => some (toPosition, .switchPosition fromPosition)
  | .reconfiguring _ robotPosition profile => some (robotPosition, .reconfigure profile)
  | .committingFirst _ _ position | .committingSecond _ position =>
      some (position, .commitNewPosition)
  | _ => none

/-- The method that a call invokes. A read is not one. -/
def Call.method : Call → Option RobotAgent.Event
  | .readAvailability => none
  | .switchPosition newPosition => some (.switchPosition newPosition true)
  | .reconfigure profile => some (.reconfigure profile true)
  | .commitNewPosition => some .commitNewPosition

/-- The robot after a call, with the reply. -/
def answer (config : RobotAgent.Config) (r : Robot) (call : Call) : Option (Robot × Bool) :=
  match call.method with
  | none => if r.running then some (r, r.attributes.availability) else none
  | some method =>
      match RobotAgent.step config r method with
      | some (after, [.result accepted]) => some (after, accepted)
      | _ => none

def Call.returned (call : Call) (reply : Bool) : ControllerAgent.Event :=
  match call with
  | .readAvailability => .availabilityRead (some reply)
  | .switchPosition _ => .positionSwitched (some reply)
  | .reconfigure _ => .capabilitiesInstructed (some reply)
  | .commitNewPosition => .newPositionCommitted (some reply)

def Call.switched (call : Call) (position : Position) (last : Option (Position × Position)) :
    Option (Position × Position) :=
  match call with
  | .switchPosition newPosition => some (position, newPosition)
  | .reconfigure _ => none
  | .readAvailability | .commitNewPosition => last

/-- The controller goes on without hearing of a robot. -/
def isInternal : ControllerAgent.Event → Bool
  | .chooseNextRobot _ | .capabilitiesChanged _ _ | .receiverStopped _ | .runHandler
  | .receiverInitialized _ | .swapRobotPositions _ _ | .reconfigureRobotCapability _ _
  | .nextRobotChosen _ | .nextRobotReceived _ => true
  | .registerRobot _ _ _ | .positionChanged _ _ | .robotStopped _ | .robotInitialized _
  | .pendingCommitRead _ | .newPositionCommitted _ | .availabilityRead _ | .positionSwitched _
  | .capabilitiesInstructed _ => false

end Calls

section Steps

variable (config : Config)

def robotActs (p : Plant) (endpoint : String) (event : RobotAgent.Event) : Option Plant :=
  match RobotAgent.step (config.robotAt endpoint) (p.robots endpoint) event with
  | none => none
  | some (robot, _) =>
      some
        { p with
          robots := Function.update p.robots endpoint robot
          notices :=
            if writesPosition (p.robots endpoint) event then
              Function.update p.notices endpoint
                (p.notices endpoint ++ [robot.attributes.position])
            else p.notices }

def controllerActs (p : Plant) (event : ControllerAgent.Event) :
    Option (Plant × List ControllerAgent.Output) :=
  match ControllerAgent.step config.controller p.controller event with
  | none => none
  | some (controller, outputs) => some ({ p with controller := controller }, outputs)

/-- The subscription delivers the oldest value of `POSITION`. -/
def notify (p : Plant) (endpoint : String) (place : Place) :
    Option (Plant × List ControllerAgent.Output) :=
  match p.notices endpoint, (robotAt p.controller place).map RemoteRobot.endpoint with
  | position :: notices, some served =>
      if served = endpoint then
        controllerActs config
          { p with notices := Function.update p.notices endpoint notices }
          (.positionChanged place position)
      else none
  | _, _ => none

/-- The call that the worker waits for, from its start to its reply. -/
def callRobot (p : Plant) : Option (Plant × List ControllerAgent.Output) :=
  match pendingCall p.controller with
  | none => none
  | some (position, call) =>
      let endpoint := endpointAt p.controller position
      match answer (config.robotAt endpoint) (p.robots endpoint) call with
      | none => none
      | some (robot, reply) =>
          controllerActs config
            { p with
              robots := Function.update p.robots endpoint robot
              lastSwitch :=
                if reply then
                  Function.update p.lastSwitch endpoint
                    (call.switched position (p.lastSwitch endpoint))
                else p.lastSwitch }
            (call.returned reply)

def step (p : Plant) : Event → Option (Plant × List ControllerAgent.Output)
  | .robot endpoint event =>
      if endpoint ∈ config.endpoints ∧ event.isAdaptation = false then
        (robotActs config p endpoint event).map (·, [])
      else none
  | .controller event => if isInternal event then controllerActs config p event else none
  | .notifyPosition endpoint place => notify config p endpoint place
  | .call => callRobot config p

end Steps

/-- The value a subscription starts with, until it was received. -/
def initialNotice (remote : RemoteRobot) : List Position :=
  if remote.initialPositionSubscription then [remote.position] else []

/-- All robots are registered, at distinct positions, and none was told to
adapt yet. -/
structure Registered (config : Config) (p : Plant) : Prop where
  unadapted : ∀ endpoint ∈ config.endpoints, ∃ history,
    (RobotAgent.machine (config.robotAt endpoint)).Reaches
      (fun _ event => event.isAdaptation = false) history (p.robots endpoint)
  distinct : ∀ first ∈ config.endpoints, ∀ second ∈ config.endpoints,
    (p.robots first).position = (p.robots second).position → first = second
  registered : ∀ endpoint ∈ config.endpoints, ∃ remote,
    findRobot p.controller (p.robots endpoint).position = some remote ∧
    remote.endpoint = endpoint ∧ remote.position = (p.robots endpoint).position ∧
    remote.running = true ∧ p.notices endpoint = initialNotice remote
  others : ∀ position remote, findRobot p.controller position = some remote →
    remote.endpoint ∈ config.endpoints ∧ (p.robots remote.endpoint).position = position
  swaps : p.controller.pendingSwaps = []
  idle : p.controller.worker = .betweenHandlers
  posted : ∀ handler ∈ p.controller.posted, ∃ request, handler = .handleNextRobotRequest request
  lastSwitch : ∀ endpoint, p.lastSwitch endpoint = none

def machine (config : Config) : Machine Plant Event ControllerAgent.Output where
  start := Registered config
  step := step config

def onBelt (config : Config) (position : Position) : Prop :=
  0 < position ∧ position ≤ config.robot.conveyorSize - 1

instance (config : Config) (position : Position) : Decidable (onBelt config position) :=
  inferInstanceAs (Decidable (_ ∧ _))

/-- A swap is asked for with targets on the belt. The robot at `toPosition`, if
there is one, is sent to `fromPosition`. -/
def TargetsOnBelt (config : Config) (p : Plant) : Event → Prop
  | .controller (.swapRobotPositions fromPosition toPosition) =>
      onBelt config toPosition ∧ (isRegistered p.controller toPosition → onBelt config fromPosition)
  | _ => True

instance (config : Config) (p : Plant) (event : Event) :
    Decidable (TargetsOnBelt config p event) := by
  unfold TargetsOnBelt
  split <;> infer_instance

end CpsKitchen.Rearrangement
