import CpsKitchen.ConveyorAgent.Transitions
import CpsKitchen.RobotMapEdits

/-!
# The remote robots of the conveyor

Every step changes `position_remote_robot_map_` by edits that leave no null
pointer behind. So a loop that follows an entry of the map finds a remote robot.
-/

namespace CpsKitchen.ConveyorAgent

open CpsKitchen.Reactive CpsKitchen.Recipes
open CpsKitchen.RobotAgent (HandoverReply)
open CpsKitchen.RobotMap (Edits)

set_option autoImplicit false

variable {config : Config} {c after : Conveyor} {event : Event} {outputs : List Output}

/-- No entry holds a null pointer, except under the listed positions. -/
def NullOnlyAt (positions : List Position) (c : Conveyor) : Prop :=
  ∀ position, c.positionRemoteRobotMap position = some none → position ∈ positions

abbrev NoNull (c : Conveyor) : Prop := NullOnlyAt [] c

theorem NullOnlyAt.congr {positions : List Position} (known : NullOnlyAt positions c)
    (map : after.positionRemoteRobotMap = c.positionRemoteRobotMap) :
    NullOnlyAt positions after := by
  intro position null
  rw [map] at null
  exact known position null

/-- The map of one conveyor comes from that of another one by edits. -/
def EditsRobots (c after : Conveyor) : Prop :=
  Edits c.positionRemoteRobotMap after.positionRemoteRobotMap

theorem EditsRobots.of_eq (map : after.positionRemoteRobotMap = c.positionRemoteRobotMap) :
    EditsRobots c after := by
  rw [EditsRobots, map]

theorem EditsRobots.trans {middle : Conveyor} (first : EditsRobots c middle)
    (second : EditsRobots middle after) : EditsRobots c after :=
  Relation.ReflTransGen.trans first second

theorem removeStoppedRobots_edits (c : Conveyor) : EditsRobots c (removeStoppedRobots c) :=
  Relation.ReflTransGen.single .removed

theorem stopRobot_edits (c : Conveyor) (position : Position) :
    EditsRobots c (stopRobot c position) :=
  Relation.ReflTransGen.single (.stopped position)

theorem readPosition_edits (c : Conveyor) (position : Position) (reported : Option Position) :
    EditsRobots c (readPosition c position reported) :=
  RobotMap.readPosition_edits c.positionRemoteRobotMap position reported

theorem connectRobot_edits (c : Conveyor) (position : Position) (endpoint : String)
    (connected : Bool) : EditsRobots c (connectRobot c position endpoint connected) :=
  Relation.ReflTransGen.single (.connected position endpoint connected)

theorem positionSwappedCallback_edits (c : Conveyor) (oldPosition newPosition : Position)
    (environment : Environment) :
    EditsRobots c (positionSwappedCallback c oldPosition newPosition environment) :=
  (removeStoppedRobots_edits c).tail (.reflected _ _ _ _)

theorem setTargetPosition_edits (c : Conveyor) (plateId : PlateId) (position : Position) :
    EditsRobots c (setTargetPosition c plateId position) := .of_eq rfl

theorem determineNextMovement_edits (c : Conveyor) : EditsRobots c (determineNextMovement c) := by
  have decided := determineNextMovement_cases c
  generalize determineNextMovement c = after at decided
  cases decided with
  | retrieves => exact (removeStoppedRobots_edits c).trans (.of_eq rfl)
  | requests | idles => exact .of_eq rfl

theorem handleFinishedOrderNotification_edits (c : Conveyor) (robotEndpoint : String)
    (robotPosition : Position) (environment : Environment) :
    EditsRobots c
      (handleFinishedOrderNotification c robotEndpoint robotPosition environment) := by
  have removed := removeStoppedRobots_edits c
  have connected : EditsRobots c
      (if isRobotUnknown (removeStoppedRobots c) robotPosition robotEndpoint then
        connectRobot (removeStoppedRobots c) robotPosition robotEndpoint environment.connected
      else removeStoppedRobots c) := by
    split
    · exact removed.trans (connectRobot_edits _ _ _ _)
    · exact removed
  unfold handleFinishedOrderNotification
  simp only
  generalize (if isRobotUnknown (removeStoppedRobots c) robotPosition robotEndpoint then
    connectRobot (removeStoppedRobots c) robotPosition robotEndpoint environment.connected
    else removeStoppedRobots c) = known at connected ⊢
  split
  · exact connected
  · split
    · exact connected.trans (.of_eq rfl)
    · exact connected.trans (.of_eq rfl)

theorem assignNextRobot_edits (c : Conveyor) (answer : NextRobot) :
    EditsRobots c (assignNextRobot c answer) := by
  unfold assignNextRobot
  split
  · exact .of_eq rfl
  · split
    · exact .of_eq rfl
    · unfold takeNextRobot
      simp only
      split <;> split <;> exact .of_eq rfl

theorem handleReceiveNextRobot_edits (c : Conveyor) (answer : NextRobot)
    (environment : Environment) :
    EditsRobots c (handleReceiveNextRobot c answer environment) := by
  have removed := removeStoppedRobots_edits c
  unfold handleReceiveNextRobot
  simp only
  split
  · exact removed
  · refine EditsRobots.trans ?_ (assignNextRobot_edits _ answer)
    split
    · exact removed.trans (connectRobot_edits _ _ _ _)
    · exact removed

theorem handle_edits (c : Conveyor) (environment : Environment) (handler : Handler) :
    EditsRobots c (handle config c environment handler) := by
  cases handler with
  | handleFinishedOrderNotification robotEndpoint robotPosition =>
      exact handleFinishedOrderNotification_edits c robotEndpoint robotPosition environment
  | handleReceiveNextRobot answer => exact handleReceiveNextRobot_edits c answer environment
  | positionSwapped oldPosition newPosition =>
      exact positionSwappedCallback_edits c oldPosition newPosition environment
  | controllerReconnected =>
      rw [handle, controllerReconnected]
      split
      · have cleared : EditsRobots c { c with nextRobotRequestQueue := [] } := .of_eq rfl
        exact cleared.trans (determineNextMovement_edits _)
      · exact .of_eq rfl
  | timerCompleted task =>
      cases task with
      | retrieveFinishedOrders => exact (removeStoppedRobots_edits c).trans (.of_eq rfl)
      | moveConveyor =>
          obtain ⟨plates, map, same⟩ := movePlates_frame config c 1 config.plateCount
          have moved : EditsRobots c (movePlates config c 1 config.plateCount) := by
            rw [same]
            exact .of_eq rfl
          exact (moved.trans (removeStoppedRobots_edits _)).trans (.of_eq rfl)
  | timerAborted => exact .of_eq rfl

theorem retrieve_edits {position : Position} {reply : Option (DishId × HandoverReply)}
    (ran : retrieve c position reply = some (after, outputs)) : EditsRobots c after := by
  have answered : EditsRobots c { c with notifications := c.notifications.erase position } :=
    .of_eq rfl
  unfold retrieve at ran
  split at ran
  · cases ran
    exact .of_eq rfl
  · simp only at ran
    split at ran
    · cases ran
      exact answered
    · contradiction
    · split at ran
      · cases ran
        exact answered.trans (stopRobot_edits _ position)
      · cases ran
        unfold handleHandoverFinishedOrder
        split
        · exact answered
        · exact answered.trans (.of_eq rfl)

theorem requestNextRobot_edits {plateId : PlateId} {reply : Option Bool}
    (ran : requestNextRobot c plateId reply = some (after, outputs)) : EditsRobots c after := by
  have visit := requestNextRobot_cases ran
  cases visit with
  | notRequested => exact .of_eq rfl
  | requested => exact .of_eq rfl

theorem deliverCompletedOrder_edits (c : Conveyor) (plateId : PlateId) (reply : Option Bool) :
    EditsRobots c (deliverCompletedOrder c plateId reply).1 := by
  unfold deliverCompletedOrder
  simp only
  split
  · exact .of_eq rfl
  · simp only
    split
    · exact .of_eq rfl
    · exact .of_eq rfl

theorem instructRobot_edits (c : Conveyor) (plateId : PlateId) (reply : Option (Position × Bool)) :
    EditsRobots c (instructRobot c plateId reply).1 := by
  unfold instructRobot
  simp only
  split
  · exact (stopRobot_edits c _).trans (setTargetPosition_edits _ plateId 0)
  · simp only
    split
    · exact setTargetPosition_edits c plateId 0
    · split
      · exact .of_eq rfl
      · exact .of_eq rfl

theorem deliver_edits {plateId : PlateId} {kitchen : Option Bool} {robot : RobotAnswer}
    (ran : deliver c plateId kitchen robot = some (after, outputs)) : EditsRobots c after := by
  unfold deliver at ran
  simp only at ran
  split at ran
  · cases ran
    exact .of_eq rfl
  · split at ran
    · have completed := deliverCompletedOrder_edits c plateId kitchen
      rw [Option.some.inj ran] at completed
      exact completed
    · split at ran
      · unfold deliverPartialOrder at ran
        simp only at ran
        split at ran
        · cases ran
          exact setTargetPosition_edits c plateId 0
        · contradiction
        · split at ran
          · cases ran
            exact (readPosition_edits c _ _).trans (setTargetPosition_edits _ plateId 0)
          · split at ran
            · cases ran
              exact (stopRobot_edits c _).trans (setTargetPosition_edits _ plateId 0)
            · cases ran
              exact setTargetPosition_edits c plateId 0
            · have instructed := instructRobot_edits c plateId robot.reply
              rw [Option.some.inj ran] at instructed
              exact instructed
      · cases ran
        exact .of_eq rfl

theorem step_edits (taken : step config c event = some (after, outputs)) :
    EditsRobots c after := by
  have crossed : ∀ worker, EditsRobots c (setWorker c worker) := fun _ => .of_eq rfl
  unfold step at taken
  split at taken
  · cases event with
    | receiveFinishedOrderNotification | receiveNextRobot | positionChanged | controllerLost =>
        cases taken
        exact .of_eq rfl
    | robotStopped position =>
        cases taken
        exact stopRobot_edits c position
    | controllerConnected =>
        simp only at taken
        split at taken
        · contradiction
        · cases taken
          exact .of_eq rfl
    | timerExpires =>
        simp only at taken
        split at taken
        · contradiction
        · cases taken
          exact .of_eq rfl
    | runHandler environment =>
        simp only at taken
        split at taken
        next handler posted idle next =>
          cases taken
          have started : EditsRobots c (takeHandler c posted) := .of_eq rfl
          exact started.trans (handle_edits _ environment handler)
        · contradiction
    | retrieve position reply =>
        simp only at taken
        split at taken
        next left loop =>
          split at taken
          · exact (crossed _).trans (retrieve_edits taken)
          · contradiction
        · contradiction
    | retrieved =>
        simp only at taken
        split at taken
        · cases taken
          exact .of_eq rfl
        · contradiction
    | requestNextRobot plateId reply =>
        simp only at taken
        split at taken
        next left loop =>
          split at taken
          · exact (crossed _).trans (requestNextRobot_edits taken)
          · contradiction
        · contradiction
    | requested =>
        simp only at taken
        split at taken
        · cases taken
          unfold armMovement
          split
          · exact .of_eq rfl
          · exact .of_eq rfl
        · contradiction
    | deliver plateId kitchen robot =>
        simp only at taken
        split at taken
        next left loop =>
          split at taken
          · exact (crossed _).trans (deliver_edits taken)
          · contradiction
        · contradiction
    | delivered =>
        simp only at taken
        split at taken
        · cases taken
          exact determineNextMovement_edits c
        · contradiction
  · contradiction

theorem reaches_edits {allowed : Conveyor → Event → Prop} {history : History Event Output}
    (reached : (machine config).Reaches allowed history c) : EditsRobots (initial config) c :=
  reached.invariant (fun _ started => by cases started; exact .of_eq rfl)
    (fun _ _ _ _ edited _ taken => edited.trans (step_edits taken))

theorem reaches_noNull {allowed : Conveyor → Event → Prop} {history : History Event Output}
    (reached : (machine config).Reaches allowed history c) : NoNull c :=
  RobotMap.Edits.noNull (reaches_edits reached) RobotMap.empty_noNull

theorem reaches_finite {allowed : Conveyor → Event → Prop} {history : History Event Output}
    (reached : (machine config).Reaches allowed history c) :
    RobotMap.FinitelyFilled c.positionRemoteRobotMap :=
  RobotMap.Edits.finite (reaches_edits reached) RobotMap.empty_finite

theorem deliver_returns (noNull : NoNull c) (plateId : PlateId) (kitchen : Option Bool)
    (robot : RobotAnswer) : (deliver c plateId kitchen robot).isSome = true := by
  unfold deliver
  simp only
  split
  · rfl
  · split
    · rfl
    · split
      · unfold deliverPartialOrder
        simp only
        split
        · rfl
        next null => exact absurd (noNull _ null) List.not_mem_nil
        · split
          · rfl
          · split <;> rfl
      · rfl

end CpsKitchen.ConveyorAgent
