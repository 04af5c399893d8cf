import CpsKitchen.KitchenMape
import CpsKitchen.ControllerAgent.Transitions

/-!
# The controller with its MAPE implementation

`handle_next_robot_request` with `kitchen_mape` as its strategy. `on_new_order`
looks at the robots, calls back once for each robot it wants to reconfigure, and
returns. The client threads of the remote robots go on meanwhile. The pointers
that `on_new_order` holds are the keys of the robots here: no robot leaves the
map before the handler returns.
-/

namespace CpsKitchen.Selection

open CpsKitchen.Reactive CpsKitchen.Recipes CpsKitchen.KitchenMape
open CpsKitchen.ControllerAgent (Controller RemoteRobot RobotMap Request Worker Output findRobot
  isStopped)

set_option autoImplicit false

structure Config where
  controller : ControllerAgent.Config
  profiles : Profiles

/-- Where `on_new_order` is: not called, or between two of its callbacks. -/
inductive Mape
  | idle
  | callingBack (suitableRobot : Option Position) (calls : List (Position × String))
  deriving DecidableEq

structure System where
  controller : Controller
  mape : Mape

inductive Event
  | controller (event : ControllerAgent.Event)
  /-- `on_new_order` is called and looks at the robots. -/
  | onNewOrder
  /-- It makes its next callback. -/
  | reconfigureRobot
  /-- It returns the robot it has found. -/
  | returned
  deriving DecidableEq

def isMapeEvent : ControllerAgent.Event → Bool
  | .swapRobotPositions _ _ | .reconfigureRobotCapability _ _ | .nextRobotChosen _ => true
  | _ => false

/-- The queue that `find_suitable_robot` passes on. -/
def remainingActions (config : Config) (request : Request) : Option (List RobotAction) :=
  match config.controller.recipeParser.getRecipe request.recipeId with
  | none => none
  | some recipe =>
      if recipe.actionQueue.length < request.processedSteps then none
      else some (recipe.actionQueue.drop request.processedSteps)

/-- What `on_new_order` has found when it starts to call back. -/
def beginCalls (choice : Choice) : Mape :=
  .callingBack (choice.suitableRobot.map Prod.fst)
    (choice.reconfigurations.map fun call => (call.1.1, call.2))

def step (config : Config) (s : System) : Event → Option (System × List Output)
  | .controller event =>
      if isMapeEvent event then none
      else (ControllerAgent.step config.controller s.controller event).map fun result =>
        ({ s with controller := result.1 }, result.2)
  | .onNewOrder =>
      match s.controller.worker, s.mape with
      | .choosing request, .idle =>
          (remainingActions config request).map fun actions =>
            ({ s with
              mape := beginCalls
                (onNewOrder s.controller.positionRemoteRobotMap config.profiles actions) }, [])
      | _, _ => none
  | .reconfigureRobot =>
      match s.mape with
      | .callingBack suitableRobot ((key, profile) :: calls) =>
          match findRobot s.controller key with
          | none => none
          | some robot =>
              (ControllerAgent.step config.controller s.controller
                (.reconfigureRobotCapability robot.position profile)).map fun result =>
                  (⟨result.1, .callingBack suitableRobot calls⟩, result.2)
      | _ => none
  | .returned =>
      match s.mape with
      | .callingBack suitableRobot [] =>
          (ControllerAgent.step config.controller s.controller
            (.nextRobotChosen suitableRobot)).map fun result => (⟨result.1, .idle⟩, result.2)
      | _ => none

def initial : System where
  controller := ControllerAgent.initial
  mape := .idle

def machine (config : Config) : Machine System Event Output where
  start s := s = initial
  step := step config

/-- What one step of the system is for the controller. -/
inductive Step (config : Config) (s : System) : Event → System → List Output → Prop where
  | controller {after : Controller} {outputs : List Output} (event : ControllerAgent.Event)
      (own : isMapeEvent event = false)
      (ran : ControllerAgent.Step config.controller s.controller event after outputs) :
      Step config s (.controller event) { s with controller := after } outputs
  | onNewOrder (request : Request) (actions : List RobotAction)
      (choosing : s.controller.worker = .choosing request) (idle : s.mape = .idle)
      (remaining : remainingActions config request = some actions) :
      Step config s .onNewOrder
        { s with
          mape := beginCalls
            (onNewOrder s.controller.positionRemoteRobotMap config.profiles actions) } []
  | reconfigureRobot {after : Controller} {outputs : List Output}
      (suitableRobot : Option Position) (key : Position) (profile : String)
      (calls : List (Position × String)) (robot : RemoteRobot)
      (calling : s.mape = .callingBack suitableRobot ((key, profile) :: calls))
      (found : findRobot s.controller key = some robot)
      (ran : ControllerAgent.Step config.controller s.controller
        (.reconfigureRobotCapability robot.position profile) after outputs) :
      Step config s .reconfigureRobot ⟨after, .callingBack suitableRobot calls⟩ outputs
  | returned {after : Controller} {outputs : List Output} (suitableRobot : Option Position)
      (request : Request) (calling : s.mape = .callingBack suitableRobot [])
      (choosing : s.controller.worker = .choosing request)
      (same : after = ControllerAgent.nextRobotChosen s.controller request suitableRobot)
      (nothing : outputs = []) :
      Step config s .returned ⟨after, .idle⟩ outputs

variable {config : Config} {s after : System} {event : Event} {outputs : List Output}

theorem step_cases (taken : step config s event = some (after, outputs)) :
    Step config s event after outputs := by
  cases event with
  | controller event =>
      simp only [step] at taken
      split at taken
      · contradiction
      next own =>
        obtain ⟨⟨controller, outs⟩, ran, same⟩ := Option.map_eq_some_iff.mp taken
        cases same
        exact .controller event (Bool.eq_false_iff.mpr own) (ControllerAgent.step_cases ran)
  | onNewOrder =>
      simp only [step] at taken
      split at taken
      next request choosing idle =>
        obtain ⟨actions, remaining, same⟩ := Option.map_eq_some_iff.mp taken
        cases same
        exact .onNewOrder request actions choosing idle remaining
      · contradiction
  | reconfigureRobot =>
      simp only [step] at taken
      split at taken
      next suitableRobot key profile calls calling =>
        split at taken
        · contradiction
        next robot found =>
          obtain ⟨⟨controller, outs⟩, ran, same⟩ := Option.map_eq_some_iff.mp taken
          cases same
          exact .reconfigureRobot suitableRobot key profile calls robot calling found
            (ControllerAgent.step_cases ran)
      · contradiction
  | returned =>
      simp only [step] at taken
      split at taken
      next suitableRobot calling =>
        obtain ⟨⟨controller, outs⟩, ran, same⟩ := Option.map_eq_some_iff.mp taken
        cases same
        simp only [ControllerAgent.step] at ran
        split at ran
        next request choosing =>
          cases ran
          exact .returned suitableRobot request calling choosing rfl rfl
        · contradiction
      · contradiction

end CpsKitchen.Selection
