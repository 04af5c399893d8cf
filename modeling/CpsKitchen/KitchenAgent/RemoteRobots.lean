import CpsKitchen.ConveyorAgent.RemoteRobots
import CpsKitchen.KitchenAgent.Model

/-!
# The remote robots of the kitchen

The kitchen edits its `position_remote_robot_map_` as the conveyor does. In
neither map a null pointer is left between two handlers, and a callback about
two positions loses no remote robot.
-/

namespace CpsKitchen.KitchenAgent

open CpsKitchen.Reactive CpsKitchen.Recipes
open CpsKitchen.ConveyorAgent (RobotAnswer)
open CpsKitchen.RobotMap (Edit Edits FinitelyFilled NoNull Rearranges)

set_option autoImplicit false

variable {config : Config} {k after : Kitchen} {event : Event} {outputs : List Output}

def EditsRobots (k after : Kitchen) : Prop :=
  Edits k.positionRemoteRobotMap after.positionRemoteRobotMap

theorem EditsRobots.of_eq (map : after.positionRemoteRobotMap = k.positionRemoteRobotMap) :
    EditsRobots k after := by
  rw [EditsRobots, map]

theorem place_edits {order : DishId} {environment : Environment}
    (ran : place config k order environment = some (after, outputs)) : EditsRobots k after := by
  unfold place at ran
  split at ran
  · cases ran
    exact .of_eq rfl
  · contradiction

theorem handleRandomOrderRequest_edits {order : DishId} {environment : Environment}
    (ran : handleRandomOrderRequest config k order environment = some (after, outputs)) :
    EditsRobots k after := by
  have removed : Edits k.positionRemoteRobotMap
      (RobotMap.removeStoppedRobots k.positionRemoteRobotMap) := .single .removed
  unfold handleRandomOrderRequest at ran
  simp only at ran
  split at ran
  · have placed := place_edits ran
    exact removed.trans placed
  · cases ran
    exact removed

theorem placingTimerCompleted_edits {environment : Environment}
    (ran : placingTimerCompleted config k environment = some (after, outputs)) :
    EditsRobots k after := by
  unfold placingTimerCompleted at ran
  split at ran
  · cases ran
    exact .of_eq rfl
  · have placed := place_edits ran
    exact placed

theorem handleReceiveNextRobot_edits (k : Kitchen) (answer : NextRobot)
    (environment : Environment) :
    EditsRobots k (handleReceiveNextRobot k answer environment).1 := by
  have removed : Edits k.positionRemoteRobotMap
      (RobotMap.removeStoppedRobots k.positionRemoteRobotMap) := .single .removed
  have connected := removed.tail
    (.connected answer.robotPosition answer.robotEndpoint environment.connected)
  unfold handleReceiveNextRobot
  simp only
  split
  · exact removed
  · split
    next failed =>
      rw [if_pos failed.1]
      exact connected
    · split
      · exact connected
      · exact removed

theorem handle_edits {environment : Environment} {handler : Handler}
    (ran : handle config k environment handler = some (after, outputs)) : EditsRobots k after := by
  cases handler with
  | handleRandomOrderRequest order => exact handleRandomOrderRequest_edits ran
  | handleReceiveNextRobot answer =>
      have edits := handleReceiveNextRobot_edits k answer environment
      rw [Option.some.inj ran] at edits
      exact edits
  | incrementCompletedOrders order =>
      cases ran
      exact .of_eq rfl
  | positionSwapped oldPosition newPosition =>
      cases ran
      exact Relation.ReflTransGen.single (.reflected _ _ _ _)
  | placingTimerCompleted => exact placingTimerCompleted_edits ran
  | placingTimerAborted =>
      cases ran
      exact .of_eq rfl

theorem instruct_edits {answer : NextRobot} {robot : RobotAnswer}
    (ran : instruct k answer robot = some (after, outputs)) : EditsRobots k after := by
  have stopped : Edits k.positionRemoteRobotMap
      (RobotMap.stopRobot k.positionRemoteRobotMap answer.robotPosition) := .single (.stopped _)
  unfold instruct at ran
  simp only at ran
  split at ran
  · contradiction
  · split at ran
    · cases ran
      exact stopped
    · split at ran
      · cases ran
        exact .of_eq rfl
      · split at ran
        · cases ran
          exact stopped
        · cases ran
          exact .of_eq rfl
        · split at ran
          · cases ran
            exact stopped
          · cases ran
            exact .of_eq rfl

theorem step_edits (taken : step config k event = some (after, outputs)) :
    EditsRobots k after := by
  unfold step at taken
  split at taken
  · cases event with
    | placeRandomOrder | receiveNextRobot | receiveCompletedOrder | positionChanged
    | controllerLost | controllerConnected =>
        cases taken
        exact .of_eq rfl
    | robotStopped position =>
        cases taken
        exact Relation.ReflTransGen.single (.stopped position)
    | timerExpires =>
        simp only at taken
        split at taken
        · cases taken
          exact .of_eq rfl
        · contradiction
    | runHandler environment =>
        simp only at taken
        split at taken
        next handler posted idle next =>
          have ran := handle_edits taken
          exact ran
        · contradiction
    | chooseNextRobot reply =>
        simp only at taken
        split at taken
        · split at taken
          · cases reply with
            | none | some =>
                cases taken
                exact .of_eq rfl
          · contradiction
        · contradiction
    | instruct robot =>
        simp only at taken
        split at taken
        · exact instruct_edits taken
        · contradiction
    | countOrder =>
        simp only at taken
        split at taken
        next answer accepted instructed =>
          cases accepted with
          | true | false =>
              cases taken
              exact .of_eq rfl
        · contradiction
  · contradiction

theorem reaches_edits {allowed : Kitchen → Event → Prop} {history : History Event Output}
    (reached : (machine config).Reaches allowed history k) : EditsRobots initial k :=
  reached.invariant (fun _ started => by cases started; exact .of_eq rfl)
    (fun _ _ _ _ edited _ taken => Relation.ReflTransGen.trans edited (step_edits taken))

theorem reaches_noNull {allowed : Kitchen → Event → Prop} {history : History Event Output}
    (reached : (machine config).Reaches allowed history k) : NoNull k.positionRemoteRobotMap :=
  RobotMap.Edits.noNull (reaches_edits reached) RobotMap.empty_noNull

theorem reaches_finite {allowed : Kitchen → Event → Prop} {history : History Event Output}
    (reached : (machine config).Reaches allowed history k) :
    FinitelyFilled k.positionRemoteRobotMap :=
  RobotMap.Edits.finite (reaches_edits reached) RobotMap.empty_finite

section Callback

open CpsKitchen.ConveyorAgent (Conveyor)

variable {conveyorConfig : ConveyorAgent.Config} {c : Conveyor}

/-- In whatever state a callback finds the maps, they hold no null pointer, and
what it does is an exchange of the entries under its two positions at most. The
conveyor removes the stopped robots before. -/
theorem callbacks_rearrange
    {conveyorHistory : History ConveyorAgent.Event ConveyorAgent.Output}
    {history : History Event Output}
    (conveyorReached : (ConveyorAgent.machine conveyorConfig).Reaches (fun _ _ => True)
      conveyorHistory c)
    (reached : (machine config).Reaches (fun _ _ => True) history k) :
    (NoNull c.positionRemoteRobotMap ∧
      ∀ oldPosition newPosition environment,
        Rearranges (RobotMap.removeStoppedRobots c.positionRemoteRobotMap)
          (ConveyorAgent.positionSwappedCallback c oldPosition newPosition
            environment).positionRemoteRobotMap oldPosition newPosition) ∧
    (NoNull k.positionRemoteRobotMap ∧
      ∀ oldPosition newPosition environment,
        Rearranges k.positionRemoteRobotMap
          (positionSwappedCallback k oldPosition newPosition environment).positionRemoteRobotMap
          oldPosition newPosition) := by
  have conveyorNoNull : NoNull c.positionRemoteRobotMap :=
    ConveyorAgent.reaches_noNull conveyorReached
  have removal : Edit c.positionRemoteRobotMap _ := .removed
  have noNull := reaches_noNull reached
  refine ⟨⟨conveyorNoNull, ?_⟩, noNull, ?_⟩
  · intro oldPosition newPosition environment
    exact RobotMap.reflectSwap_rearranges (removal.noNull conveyorNoNull)
      (removal.finite (ConveyorAgent.reaches_finite conveyorReached)) oldPosition newPosition _ _
  · intro oldPosition newPosition environment
    exact RobotMap.reflectSwap_rearranges noNull (reaches_finite reached) oldPosition newPosition
      _ _

/-- Both know a robot at position 1 that moves to position 2. -/
theorem callbacks_rearrange_one_robot :
    ∃ c k, ConveyorAgent.findRobot c 1 = some ⟨"robot", true⟩ ∧
      RobotMap.find k.positionRemoteRobotMap 1 = some ⟨"robot", true⟩ ∧
      Rearranges (RobotMap.removeStoppedRobots c.positionRemoteRobotMap)
        (ConveyorAgent.positionSwappedCallback c 1 2 ⟨true, some 2, none⟩).positionRemoteRobotMap
        1 2 ∧
      Rearranges k.positionRemoteRobotMap
        (positionSwappedCallback k 1 2 ⟨1, true, some 2, none⟩).positionRemoteRobotMap 1 2 := by
  obtain ⟨_, c, conveyorReached, inConveyor⟩ := Machine.exists_reaches_of_replay
    (ConveyorAgent.machine ConveyorAgent.fivePlates) (fun _ _ => True) rfl
    [.receiveFinishedOrderNotification "robot" 1, .runHandler ⟨true, none, none⟩]
    (fun _ c => decide (ConveyorAgent.findRobot c 1 = some ⟨"robot", true⟩)) (by decide)
  obtain ⟨_, k, reached, inKitchen⟩ := Machine.exists_reaches_of_replay (machine ⟨3⟩)
    (fun _ _ => True) rfl
    [.receiveNextRobot ⟨1, "robot", 1, 1⟩, .runHandler ⟨1, true, none, none⟩]
    (fun _ k => decide (RobotMap.find k.positionRemoteRobotMap 1 = some ⟨"robot", true⟩))
    (by decide)
  obtain ⟨⟨_, conveyor⟩, _, kitchen⟩ := callbacks_rearrange conveyorReached reached
  exact ⟨c, k, of_decide_eq_true inConveyor, of_decide_eq_true inKitchen, conveyor 1 2 _,
    kitchen 1 2 _⟩

end Callback

end CpsKitchen.KitchenAgent
