import CpsKitchen.ConveyorAgent.Model

/-!
# What one step of the conveyor can do

`Step` lists the reactions of the running conveyor with the guards that led to
them and `step_cases` shows the list complete. What happens to the remote
robots is left open where only their map changes.
-/

namespace CpsKitchen.ConveyorAgent

open CpsKitchen.Reactive CpsKitchen.Recipes
open CpsKitchen.RobotAgent (HandoverReply timeUnit)
open CpsKitchen.RobotMap (RobotMap)

set_option autoImplicit false

variable {config : Config} {c after : Conveyor} {event : Event} {outputs : List Output}

def SameButRobots (c after : Conveyor) : Prop := ∃ map, after = withRobots c map

theorem SameButRobots.refl (c : Conveyor) : SameButRobots c c := ⟨c.positionRemoteRobotMap, rfl⟩

theorem SameButRobots.trans {middle : Conveyor} (first : SameButRobots c middle)
    (second : SameButRobots middle after) : SameButRobots c after := by
  obtain ⟨_, rfl⟩ := first
  obtain ⟨map, rfl⟩ := second
  exact ⟨map, rfl⟩

theorem removeStoppedRobots_same (c : Conveyor) : SameButRobots c (removeStoppedRobots c) :=
  ⟨_, rfl⟩

theorem stopRobot_same (c : Conveyor) (position : Position) :
    SameButRobots c (stopRobot c position) := ⟨_, rfl⟩

theorem connectRobot_same (c : Conveyor) (position : Position) (endpoint : String)
    (connected : Bool) : SameButRobots c (connectRobot c position endpoint connected) := ⟨_, rfl⟩

theorem readPosition_same (c : Conveyor) (position : Position) (reported : Option Position) :
    SameButRobots c (readPosition c position reported) := ⟨_, rfl⟩

theorem positionSwappedCallback_same (c : Conveyor) (oldPosition newPosition : Position)
    (environment : Environment) :
    SameButRobots c (positionSwappedCallback c oldPosition newPosition environment) := ⟨_, rfl⟩

theorem movePlates_frame (config : Config) (c : Conveyor) (steps count : Nat) :
    ∃ plates map, movePlates config c steps count =
      { c with plates := plates, positionPlateIdMap := map } := by
  induction count with
  | zero => exact ⟨c.plates, c.positionPlateIdMap, rfl⟩
  | succ plateId ih =>
      obtain ⟨plates, map, same⟩ := ih
      rw [movePlates, same]
      exact ⟨_, _, rfl⟩

/-- How the conveyor goes on when it is done with its deliveries. -/
inductive NextMovement (c : Conveyor) : Conveyor → Prop where
  | retrieves (notified : c.notifications ≠ ∅) : NextMovement c (handleRetrieveFinishedOrders c)
  | requests (notNotified : c.notifications = ∅) (occupied : c.occupiedPlates ≠ ∅) :
      NextMovement c (requestNextRobots c)
  | idles (notNotified : c.notifications = ∅) (empty : c.occupiedPlates = ∅) :
      NextMovement c { setWorker c .betweenHandlers with stateStatus := .idling }

theorem determineNextMovement_cases (c : Conveyor) : NextMovement c (determineNextMovement c) := by
  unfold determineNextMovement
  split
  next notified => exact .retrieves notified
  next notNotified =>
    split
    next occupied => exact .requests (not_not.mp notNotified) occupied
    next empty => exact .idles (not_not.mp notNotified) (not_not.mp empty)

/-- What the worker does with its next handler, `c` is the conveyor that has
taken it. -/
inductive Handles (config : Config) (c : Conveyor) : Handler → Conveyor → Prop where
  | notificationDropped (robotEndpoint : String) (robotPosition : Position)
      (map : RobotMap) :
      Handles config c (.handleFinishedOrderNotification robotEndpoint robotPosition)
        (withRobots c map)
  | notificationTaken (robotEndpoint : String) (robotPosition : Position)
      (map : RobotMap) (moving : c.stateStatus = .moving) :
      Handles config c (.handleFinishedOrderNotification robotEndpoint robotPosition)
        { withRobots c map with notifications := insert robotPosition c.notifications }
  | notificationStarts (robotEndpoint : String) (robotPosition : Position)
      (map : RobotMap) (idling : c.stateStatus = .idling) :
      Handles config c (.handleFinishedOrderNotification robotEndpoint robotPosition)
        (armTimer
          { withRobots c map with
            notifications := insert robotPosition c.notifications
            stateStatus := .moving }
          .retrieveFinishedOrders (debounceTime * timeUnit))
  | answerIgnored (answer : NextRobot) (map : RobotMap)
      (unexpected : ∀ position rest, c.nextRobotRequestQueue = position :: rest →
        (plateAt c position).placedRecipeId ≠ answer.recipeId) :
      Handles config c (.handleReceiveNextRobot answer) (withRobots c map)
  | answerTaken (answer : NextRobot) (map : RobotMap)
      (position : Position) (rest : List Position)
      (front : c.nextRobotRequestQueue = position :: rest)
      (fits : (plateAt c position).placedRecipeId = answer.recipeId) :
      Handles config c (.handleReceiveNextRobot answer)
        (takeNextRobot (withRobots c map) answer position rest)
  | swapped (oldPosition newPosition : Position)
      (map : RobotMap) :
      Handles config c (.positionSwapped oldPosition newPosition) (withRobots c map)
  | reconnected (moving : c.stateStatus = .moving) (waiting : c.nextRobotRequestQueue ≠ []) :
      Handles config c .controllerReconnected
        (determineNextMovement { c with nextRobotRequestQueue := [] })
  | reconnectedInTime (settled : ¬ (c.stateStatus = .moving ∧ c.nextRobotRequestQueue ≠ [])) :
      Handles config c .controllerReconnected c
  | retrieves :
      Handles config c (.timerCompleted .retrieveFinishedOrders) (handleRetrieveFinishedOrders c)
  | moves : Handles config c (.timerCompleted .moveConveyor) (moveConveyor config c 1)
  | aborted : Handles config c .timerAborted (stop c)

private theorem handleFinishedOrderNotification_cases (c : Conveyor) (robotEndpoint : String)
    (robotPosition : Position) (environment : Environment) :
    Handles config c (.handleFinishedOrderNotification robotEndpoint robotPosition)
      (handleFinishedOrderNotification c robotEndpoint robotPosition environment) := by
  unfold handleFinishedOrderNotification
  simp only
  have robots : SameButRobots c
      (if isRobotUnknown (removeStoppedRobots c) robotPosition robotEndpoint then
        connectRobot (removeStoppedRobots c) robotPosition robotEndpoint environment.connected
      else removeStoppedRobots c) := by
    split
    · exact (removeStoppedRobots_same c).trans (connectRobot_same _ _ _ _)
    · exact removeStoppedRobots_same c
  obtain ⟨map, same⟩ := robots
  rw [same]
  split
  · exact .notificationDropped robotEndpoint robotPosition map
  · split
    next idling => exact .notificationStarts robotEndpoint robotPosition map idling
    next moving =>
      refine .notificationTaken robotEndpoint robotPosition map ?_
      have moving : c.stateStatus ≠ .idling := moving
      cases status : c.stateStatus with
      | idling => exact absurd status moving
      | moving => rfl

private theorem handleReceiveNextRobot_cases (c : Conveyor) (answer : NextRobot)
    (environment : Environment) :
    Handles config c (.handleReceiveNextRobot answer)
      (handleReceiveNextRobot c answer environment) := by
  unfold handleReceiveNextRobot
  simp only
  split
  next empty =>
    refine .answerIgnored answer _ ?_
    intro position rest front
    have empty : c.nextRobotRequestQueue = [] := empty
    rw [empty] at front
    contradiction
  · have robots : SameButRobots c
        (if answer.robotPosition ≠ 0 ∧ answer.robotEndpoint ≠ "" ∧
            isRobotUnknown (removeStoppedRobots c) answer.robotPosition answer.robotEndpoint then
          connectRobot (removeStoppedRobots c) answer.robotPosition answer.robotEndpoint
            environment.connected
        else removeStoppedRobots c) := by
      split
      · exact (removeStoppedRobots_same c).trans (connectRobot_same _ _ _ _)
      · exact removeStoppedRobots_same c
    obtain ⟨map, same⟩ := robots
    rw [same, assignNextRobot]
    split
    next empty =>
      refine .answerIgnored answer map ?_
      intro position rest front
      have empty : c.nextRobotRequestQueue = [] := empty
      rw [empty] at front
      contradiction
    next position rest front =>
      split
      next mismatch =>
        refine .answerIgnored answer map ?_
        intro _ _ same
        have front : c.nextRobotRequestQueue = position :: rest := front
        rw [front] at same
        cases same
        exact mismatch
      next fits => exact .answerTaken answer map position rest front (not_not.mp fits)

theorem handle_cases (config : Config) (c : Conveyor) (environment : Environment)
    (handler : Handler) : Handles config c handler (handle config c environment handler) := by
  cases handler with
  | handleFinishedOrderNotification robotEndpoint robotPosition =>
      exact handleFinishedOrderNotification_cases c robotEndpoint robotPosition environment
  | handleReceiveNextRobot answer => exact handleReceiveNextRobot_cases c answer environment
  | positionSwapped oldPosition newPosition =>
      obtain ⟨map, same⟩ := positionSwappedCallback_same c oldPosition newPosition environment
      rw [handle, same]
      exact .swapped oldPosition newPosition map
  | controllerReconnected =>
      rw [handle, controllerReconnected]
      split
      next waiting => exact .reconnected waiting.1 waiting.2
      next settled => exact .reconnectedInTime settled
  | timerCompleted task =>
      cases task with
      | retrieveFinishedOrders => exact .retrieves
      | moveConveyor => exact .moves
  | timerAborted => exact .aborted

/-- What the worker does with the next element of a loop, `c` is the conveyor
that has crossed it off. -/
inductive Visits (c : Conveyor) : Event → Conveyor → List Output → Prop where
  | keptNotification (position : Position) (reply : Option (DishId × HandoverReply))
      (occupied : (plateAt c position).occupied = true) :
      Visits c (.retrieve position reply) c []
  | droppedNotification (position : Position) (reply : Option (DishId × HandoverReply))
      (map : RobotMap) :
      Visits c (.retrieve position reply)
        { withRobots c map with notifications := c.notifications.erase position } []
  | handedOver (position : Position) (dish : DishId) (reply : HandoverReply)
      (free : (plateAt c position).occupied = false) :
      Visits c (.retrieve position (some (dish, reply)))
        (handleHandoverFinishedOrder { c with notifications := c.notifications.erase position }
          dish reply)
        [.handoverReply dish reply]
  | notRequested (plateId : PlateId) (reply : Option Bool) :
      Visits c (.requestNextRobot plateId reply) c []
  | requested (plateId : PlateId) (unfinished : (c.plates plateId).isDishFinished = false)
      (untargeted : (c.plates plateId).targetPosition = 0) :
      Visits c (.requestNextRobot plateId (some true))
        { c with
          nextRobotRequestQueue := c.nextRobotRequestQueue ++ [(c.plates plateId).position] }
        [.nextRobotRequested (requestOf c plateId)]
  | notDeliverable (plateId : PlateId) (kitchen : Option Bool) (robot : RobotAnswer) :
      Visits c (.deliver plateId kitchen robot) c []
  | orderRefused (plateId : PlateId) (robot : RobotAnswer)
      (finished : (c.plates plateId).isDishFinished = true) :
      Visits c (.deliver plateId (some false) robot) c
        [.completedOrder (c.plates plateId).dish (c.plates plateId).placedRecipeId false]
  | orderCompleted (plateId : PlateId) (robot : RobotAnswer)
      (finished : (c.plates plateId).isDishFinished = true)
      (atOutput : (c.plates plateId).position = outputPosition) :
      Visits c (.deliver plateId (some true) robot) (freePlate c plateId)
        [.completedOrder (c.plates plateId).dish (c.plates plateId).placedRecipeId true]
  | notInstructed (plateId : PlateId) (kitchen : Option Bool) (robot : RobotAnswer)
      (map : RobotMap) :
      Visits c (.deliver plateId kitchen robot)
        (setTargetPosition (withRobots c map) plateId 0) []
  | taskRefused (plateId : PlateId) (kitchen : Option Bool) (robot : RobotAnswer)
      (robotPosition : Position) (replied : robot.reply = some (robotPosition, false)) :
      Visits c (.deliver plateId kitchen robot) (setTargetPosition c plateId 0)
        [.robotInstructed (c.plates plateId).dish (c.plates plateId).placedRecipeId
          (c.plates plateId).processedSteps (c.plates plateId).position false]
  | taskMisplaced (plateId : PlateId) (kitchen : Option Bool) (robot : RobotAnswer)
      (robotPosition : Position) (replied : robot.reply = some (robotPosition, true))
      (elsewhere : (c.plates plateId).position ≠ robotPosition) :
      Visits c (.deliver plateId kitchen robot) (stop (setTargetPosition c plateId 0))
        [.robotInstructed (c.plates plateId).dish (c.plates plateId).placedRecipeId
          (c.plates plateId).processedSteps (c.plates plateId).position true]
  | taskAccepted (plateId : PlateId) (kitchen : Option Bool) (robot : RobotAnswer)
      (unfinished : (c.plates plateId).isDishFinished = false)
      (targeted : (c.plates plateId).targetPosition ≠ 0)
      (arrived : (c.plates plateId).position = (c.plates plateId).targetPosition)
      (reported : robot.position = some (c.plates plateId).position)
      (available : robot.available = some true)
      (replied : robot.reply = some ((c.plates plateId).position, true)) :
      Visits c (.deliver plateId kitchen robot) (freePlate c plateId)
        [.robotInstructed (c.plates plateId).dish (c.plates plateId).placedRecipeId
          (c.plates plateId).processedSteps (c.plates plateId).position true]

theorem retrieve_cases {position : Position} {reply : Option (DishId × HandoverReply)}
    (ran : retrieve c position reply = some (after, outputs)) :
    Visits c (.retrieve position reply) after outputs := by
  unfold retrieve at ran
  split at ran
  next occupied =>
    cases ran
    exact .keptNotification position reply occupied
  next free =>
    simp only at ran
    split at ran
    · cases ran
      exact .droppedNotification position reply c.positionRemoteRobotMap
    · contradiction
    · split at ran
      · cases ran
        obtain ⟨map, same⟩ := stopRobot_same
          { c with notifications := c.notifications.erase position } position
        rw [same]
        exact .droppedNotification position none map
      next dish reply =>
        cases ran
        exact .handedOver position dish reply (by simpa using free)

theorem requestNextRobot_cases {plateId : PlateId} {reply : Option Bool}
    (ran : requestNextRobot c plateId reply = some (after, outputs)) :
    Visits c (.requestNextRobot plateId reply) after outputs := by
  unfold requestNextRobot at ran
  simp only at ran
  split at ran
  next eligible =>
    split at ran
    · cases ran
      exact .notRequested plateId none
    next result =>
      split at ran
      · contradiction
      · split at ran
        next accepted =>
          cases ran
          cases accepted
          exact .requested plateId eligible.1 eligible.2
        · cases ran
          exact .notRequested plateId _
  · cases ran
    exact .notRequested plateId reply

theorem instructRobot_cases {plateId : PlateId} {kitchen : Option Bool} {robot : RobotAnswer}
    (unfinished : (c.plates plateId).isDishFinished = false)
    (targeted : (c.plates plateId).targetPosition ≠ 0)
    (arrived : (c.plates plateId).position = (c.plates plateId).targetPosition)
    (reported : robot.position = some (c.plates plateId).position)
    (available : robot.available = some true)
    (ran : instructRobot c plateId robot.reply = (after, outputs)) :
    Visits c (.deliver plateId kitchen robot) after outputs := by
  unfold instructRobot at ran
  simp only at ran
  split at ran
  · cases ran
    obtain ⟨map, same⟩ := stopRobot_same c (c.plates plateId).position
    rw [same]
    exact .notInstructed plateId kitchen robot map
  next robotPosition accepted replied =>
    cases ran
    cases accepted with
    | false => exact .taskRefused plateId kitchen robot robotPosition replied
    | true =>
        by_cases here : (c.plates plateId).position = robotPosition
        · rw [if_neg (by simp), if_neg (not_not.mpr here)]
          exact .taskAccepted plateId kitchen robot unfinished targeted arrived reported available
            (by rw [replied, here])
        · rw [if_neg (by simp), if_pos here]
          exact .taskMisplaced plateId kitchen robot robotPosition replied here

theorem deliver_cases {plateId : PlateId} {kitchen : Option Bool} {robot : RobotAnswer}
    (ran : deliver c plateId kitchen robot = some (after, outputs)) :
    Visits c (.deliver plateId kitchen robot) after outputs := by
  unfold deliver at ran
  simp only at ran
  split at ran
  · cases ran
    exact .notDeliverable plateId kitchen robot
  next started =>
    split at ran
    next completed =>
      obtain ⟨finished, atOutput⟩ := completed
      cases kitchen with
      | none =>
          cases ran
          exact .notDeliverable plateId none robot
      | some accepted =>
          cases accepted with
          | false =>
              cases ran
              exact .orderRefused plateId robot finished
          | true =>
              cases ran
              exact .orderCompleted plateId robot finished atOutput
    · split at ran
      next here =>
        obtain ⟨unfinished, arrived⟩ := here
        have targeted : (c.plates plateId).targetPosition ≠ 0 := fun none =>
          started ⟨unfinished, none⟩
        unfold deliverPartialOrder at ran
        simp only at ran
        split at ran
        · cases ran
          exact .notInstructed plateId kitchen robot c.positionRemoteRobotMap
        · contradiction
        · split at ran
          next elsewhere =>
            cases ran
            obtain ⟨map, same⟩ := readPosition_same c (c.plates plateId).position robot.position
            rw [same]
            exact .notInstructed plateId kitchen robot map
          next reported =>
            split at ran
            · cases ran
              obtain ⟨map, same⟩ := stopRobot_same c (c.plates plateId).position
              rw [same]
              exact .notInstructed plateId kitchen robot map
            · cases ran
              exact .notInstructed plateId kitchen robot c.positionRemoteRobotMap
            next available =>
              have reported : robot.position = some (c.plates plateId).position := by
                cases read : robot.position with
                | none =>
                    simp only [read, Option.getD_none, not_not] at reported
                    exact absurd (arrived.symm.trans reported.symm) targeted
                | some position => simpa [read] using reported
              exact instructRobot_cases unfinished targeted arrived reported available
                (Option.some.inj ran)
      · cases ran
        exact .notDeliverable plateId kitchen robot

inductive Step (config : Config) (c : Conveyor) : Event → Conveyor → List Output → Prop where
  | notificationReceived (robotEndpoint : String) (robotPosition : Position) :
      Step config c (.receiveFinishedOrderNotification robotEndpoint robotPosition)
        (post c (.handleFinishedOrderNotification robotEndpoint robotPosition)) []
  | answerReceived (answer : NextRobot) :
      Step config c (.receiveNextRobot answer) (post c (.handleReceiveNextRobot answer)) []
  | positionChanged (oldPosition newPosition : Position) :
      Step config c (.positionChanged oldPosition newPosition)
        (post c (.positionSwapped oldPosition newPosition)) []
  | robotStopped (position : Position) (map : RobotMap) :
      Step config c (.robotStopped position) (withRobots c map) []
  | controllerLost : Step config c .controllerLost { c with controllerClient := false } []
  | controllerConnected :
      Step config c .controllerConnected
        (post { c with controllerClient := true } .controllerReconnected) []
  | expired (wait : Wait) (armed : c.steadyTimer = some wait) :
      Step config c .timerExpires
        (post { c with steadyTimer := none } (.timerCompleted wait.task)) []
  | handled {after : Conveyor} (environment : Environment) (handler : Handler)
      (posted : List Handler) (idle : c.worker = .betweenHandlers)
      (next : c.posted = handler :: posted)
      (ran : Handles config (takeHandler c posted) handler after) :
      Step config c (.runHandler environment) after []
  | retrieving {after : Conveyor} {outputs : List Output} (left : Finset Position)
      (position : Position) (reply : Option (DishId × HandoverReply))
      (loop : c.worker = .retrievingFinishedOrders left) (member : position ∈ left)
      (ran : Visits (setWorker c (.retrievingFinishedOrders (left.erase position)))
        (.retrieve position reply) after outputs) :
      Step config c (.retrieve position reply) after outputs
  | retrieved (loop : c.worker = .retrievingFinishedOrders ∅) :
      Step config c .retrieved (requestNextRobots c) []
  | requesting {after : Conveyor} {outputs : List Output} (left : Finset PlateId)
      (plateId : PlateId) (reply : Option Bool)
      (loop : c.worker = .requestingNextRobots left) (member : plateId ∈ left)
      (ran : Visits (setWorker c (.requestingNextRobots (left.erase plateId)))
        (.requestNextRobot plateId reply) after outputs) :
      Step config c (.requestNextRobot plateId reply) after outputs
  | requested (loop : c.worker = .requestingNextRobots ∅) :
      Step config c .requested (armMovement (setWorker c .betweenHandlers)) []
  | delivering {after : Conveyor} {outputs : List Output} (left : Finset PlateId)
      (plateId : PlateId) (kitchen : Option Bool) (robot : RobotAnswer)
      (loop : c.worker = .deliveringFinishedOrders left) (member : plateId ∈ left)
      (ran : Visits (setWorker c (.deliveringFinishedOrders (left.erase plateId)))
        (.deliver plateId kitchen robot) after outputs) :
      Step config c (.deliver plateId kitchen robot) after outputs
  | delivered (loop : c.worker = .deliveringFinishedOrders ∅) :
      Step config c .delivered (determineNextMovement c) []

theorem step_cases (taken : step config c event = some (after, outputs)) :
    c.running = true ∧ Step config c event after outputs := by
  unfold step at taken
  split at taken
  next running =>
    refine ⟨running, ?_⟩
    cases event with
    | receiveFinishedOrderNotification robotEndpoint robotPosition =>
        cases taken
        exact .notificationReceived robotEndpoint robotPosition
    | receiveNextRobot answer =>
        cases taken
        exact .answerReceived answer
    | positionChanged oldPosition newPosition =>
        cases taken
        exact .positionChanged oldPosition newPosition
    | robotStopped position =>
        cases taken
        obtain ⟨map, same⟩ := stopRobot_same c position
        rw [same]
        exact .robotStopped position map
    | controllerLost =>
        cases taken
        exact .controllerLost
    | controllerConnected =>
        simp only at taken
        split at taken
        · contradiction
        · cases taken
          exact .controllerConnected
    | timerExpires =>
        simp only at taken
        split at taken
        · contradiction
        next wait armed =>
          cases taken
          exact .expired wait armed
    | runHandler environment =>
        simp only at taken
        split at taken
        next handler posted idle next =>
          cases taken
          exact .handled environment handler posted idle next (handle_cases config _ _ _)
        · contradiction
    | retrieve position reply =>
        simp only at taken
        split at taken
        next left loop =>
          split at taken
          next member => exact .retrieving left position reply loop member (retrieve_cases taken)
          · contradiction
        · contradiction
    | retrieved =>
        simp only at taken
        split at taken
        next loop =>
          cases taken
          exact .retrieved loop
        · contradiction
    | requestNextRobot plateId reply =>
        simp only at taken
        split at taken
        next left loop =>
          split at taken
          next member =>
            exact .requesting left plateId reply loop member (requestNextRobot_cases taken)
          · contradiction
        · contradiction
    | requested =>
        simp only at taken
        split at taken
        next loop =>
          cases taken
          exact .requested loop
        · contradiction
    | deliver plateId kitchen robot =>
        simp only at taken
        split at taken
        next left loop =>
          split at taken
          next member =>
            exact .delivering left plateId kitchen robot loop member (deliver_cases taken)
          · contradiction
        · contradiction
    | delivered =>
        simp only at taken
        split at taken
        next loop =>
          cases taken
          exact .delivered loop
        · contradiction
  · contradiction

end CpsKitchen.ConveyorAgent
