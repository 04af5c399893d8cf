import CpsKitchen.RobotAgent.OneDriver
import CpsKitchen.ConveyorAgent.Driver

/-!
# Waiting for the pickup

One robot and the conveyor. The robot notifies the conveyor and waits with
`pending_pickup_` until the dish is taken. The calls between the two are steps
of both: the robot holds its `client_mutex_` from the call of a notification
until it has set `pending_pickup_`, and the handover takes the same mutex, so
no handover falls between. A call that fails is a step of the caller alone.

The conveyor keeps a notification as an entry of `notifications_map_` or as a
posted handler. There are two places where it loses the last one while the
robot waits on. `RemembersNotification` is the condition that excludes them.
-/

namespace CpsKitchen.Plant

open CpsKitchen.Reactive CpsKitchen.Recipes
open CpsKitchen.RobotAgent (Robot CommitsOnce OneDriver)
open CpsKitchen.ConveyorAgent (Conveyor findRobot plateAt isRobotUnknown removeStoppedRobots)

set_option autoImplicit false

namespace Pickup

structure Config where
  robot : RobotAgent.Config
  conveyor : ConveyorAgent.Config

structure Pair where
  robot : Robot
  conveyor : Conveyor

inductive Event
  | robot (event : RobotAgent.Event)
  | conveyor (event : ConveyorAgent.Event)
  /-- A notification that gets through, from the loop of the worker. -/
  | notify
  /-- A notification that gets through after the connection was lost. -/
  | renotify
  /-- A handover that gets through. -/
  | handover (position : Position)
  deriving DecidableEq

inductive Output
  | robot (outputs : List RobotAgent.Output)
  | conveyor (outputs : List ConveyorAgent.Output)
  deriving DecidableEq

variable (config : Config)

/-- The conveyor finds the plate free and calls the robot. -/
def asksRobot (c : Conveyor) (position : Position) : Prop :=
  (plateAt c position).occupied = false ∧
    ¬ isRobotUnknown c position config.robot.serverEndpoint

instance (c : Conveyor) (position : Position) : Decidable (asksRobot config c position) :=
  inferInstanceAs (Decidable (_ ∧ _))

def robotStep (r : Robot) : RobotAgent.Event → Option (Robot × List RobotAgent.Output)
  | .handoverFinishedOrder | .notifyConveyor (some _) | .conveyorConnected (some _) => none
  | event => RobotAgent.step config.robot r event

def conveyorStep (c : Conveyor) : ConveyorAgent.Event →
    Option (Conveyor × List ConveyorAgent.Output)
  | .receiveFinishedOrderNotification _ _ => none
  | .retrieve position (some reply) =>
      if asksRobot config c position then none
      else ConveyorAgent.step config.conveyor c (.retrieve position (some reply))
  | event => ConveyorAgent.step config.conveyor c event

/-- The robot calls and the conveyor answers `true`. -/
def notificationStep (p : Pair) (event : RobotAgent.Event) : Option (Pair × List Output) :=
  match RobotAgent.step config.robot p.robot event,
    ConveyorAgent.step config.conveyor p.conveyor
      (.receiveFinishedOrderNotification config.robot.serverEndpoint p.robot.position) with
  | some (robot, sent), some (conveyor, received) =>
      some (⟨robot, conveyor⟩, [.robot sent, .conveyor received])
  | _, _ => none

def handoverStep (p : Pair) (position : Position) : Option (Pair × List Output) :=
  if asksRobot config p.conveyor position then
    match RobotAgent.step config.robot p.robot .handoverFinishedOrder with
    | some (robot, [.handoverReply dish reply]) =>
        (ConveyorAgent.step config.conveyor p.conveyor
          (.retrieve position (some (dish, reply)))).map fun result =>
            (⟨robot, result.1⟩, [.robot [.handoverReply dish reply], .conveyor result.2])
    | _ => none
  else none

def step (p : Pair) : Event → Option (Pair × List Output)
  | .robot event =>
      (robotStep config p.robot event).map fun result =>
        ({ p with robot := result.1 }, [.robot result.2])
  | .conveyor event =>
      (conveyorStep config p.conveyor event).map fun result =>
        ({ p with conveyor := result.1 }, [.conveyor result.2])
  | .notify => notificationStep config p (.notifyConveyor (some true))
  | .renotify =>
      if p.robot.pendingPickup then notificationStep config p (.conveyorConnected (some true))
      else none
  | .handover position => handoverStep config p position

def machine : Machine Pair Event Output where
  start p := RobotAgent.Started config.robot p.robot ∧
    p.conveyor = ConveyorAgent.initial config.conveyor
  step := step config

/-- The conveyor has an entry for the position, or a notification of the robot
from there is posted. -/
def Noted (endpoint : String) (position : Position) (c : Conveyor) : Prop :=
  position ∈ c.notifications ∨
    ConveyorAgent.Handler.handleFinishedOrderNotification endpoint position ∈ c.posted

/-- A dish waits, and the robot will not notify the conveyor again. -/
def WaitsForPickup (r : Robot) : Prop := r.pendingPickup = true ∧ r.conveyorClient = true

instance (r : Robot) : Decidable (WaitsForPickup r) := inferInstanceAs (Decidable (_ ∧ _))

/-- The two places where the conveyor drops a notification from the position:
the connection to a robot it does not know does not come up, and a retrieval
from a free plate erases the entry although nothing was handed over. -/
def DropsNotification (endpoint : String) (position : Position) (c : Conveyor) :
    ConveyorAgent.Event → Prop
  | .runHandler environment =>
      c.posted.head? = some (.handleFinishedOrderNotification endpoint position) ∧
        position ∉ c.notifications ∧
        .handleFinishedOrderNotification endpoint position ∉ c.posted.tail ∧
        isRobotUnknown (removeStoppedRobots c) position endpoint ∧
        environment.connected = false
  | .retrieve place _ =>
      place = position ∧ (plateAt c position).occupied = false ∧
        .handleFinishedOrderNotification endpoint position ∉ c.posted
  | _ => False

instance (endpoint : String) (position : Position) (c : Conveyor)
    (event : ConveyorAgent.Event) : Decidable (DropsNotification endpoint position c event) :=
  match event with
  | .runHandler _ => inferInstanceAs (Decidable (_ ∧ _))
  | .retrieve _ _ => inferInstanceAs (Decidable (_ ∧ _))
  | .receiveFinishedOrderNotification _ _ | .receiveNextRobot _ | .positionChanged _ _
  | .robotStopped _ | .controllerLost | .controllerConnected | .timerExpires | .retrieved
  | .requestNextRobot _ _ | .requested | .deliver _ _ _ | .delivered =>
      inferInstanceAs (Decidable False)

/-- While the robot waits, the conveyor does not drop its last notification. -/
def RemembersNotification (p : Pair) : Event → Prop
  | .robot event => CommitsOnce p.robot event
  | .conveyor event => WaitsForPickup p.robot →
      ¬ DropsNotification config.robot.serverEndpoint p.robot.position p.conveyor event
  | .notify | .renotify | .handover _ => True

instance (p : Pair) (event : Event) : Decidable (RemembersNotification config p event) :=
  match event with
  | .robot event => inferInstanceAs (Decidable (CommitsOnce p.robot event))
  | .conveyor _ => inferInstanceAs (Decidable (_ → _))
  | .notify | .renotify | .handover _ => inferInstanceAs (Decidable True)

section Conveyor

open ConveyorAgent

variable {config : ConveyorAgent.Config} {c after : Conveyor} {event : ConveyorAgent.Event}
  {outputs : List ConveyorAgent.Output} {endpoint : String} {position : Position}

def KeepsNotes (c after : Conveyor) : Prop :=
  c.notifications ⊆ after.notifications ∧ c.posted ⊆ after.posted

theorem KeepsNotes.noted (keeps : KeepsNotes c after) (noted : Noted endpoint position c) :
    Noted endpoint position after := by
  rcases noted with entry | posted
  · exact .inl (keeps.1 entry)
  · exact .inr (keeps.2 posted)

theorem post_keepsNotes (c : Conveyor) (handler : Handler) : KeepsNotes c (post c handler) :=
  ⟨Finset.Subset.refl _, List.subset_append_left _ _⟩

theorem armTimer_keepsNotes (c : Conveyor) (task : TimerTask) (delay : Nat) :
    KeepsNotes c (armTimer c task delay) := by
  refine ⟨Finset.Subset.refl _, ?_⟩
  unfold armTimer
  split
  · exact List.subset_append_left _ _
  · exact List.Subset.refl _

theorem determineNextMovement_keepsNotes (c : Conveyor) :
    KeepsNotes c (determineNextMovement c) := by
  have outcome := determineNextMovement_cases c
  generalize determineNextMovement c = after at outcome
  cases outcome <;> exact ⟨Finset.Subset.refl _, List.Subset.refl _⟩

theorem takeNextRobot_keepsNotes (c : Conveyor) (answer : NextRobot) (place : Position)
    (rest : List Position) : KeepsNotes c (takeNextRobot c answer place rest) := by
  have armed : ∀ targeted : Conveyor, KeepsNotes c targeted → KeepsNotes c
      (if rest = [] then armTimer targeted .moveConveyor (moveTime * RobotAgent.timeUnit)
        else targeted) := by
    intro targeted keeps
    split
    · have arms := armTimer_keepsNotes targeted .moveConveyor (moveTime * RobotAgent.timeUnit)
      exact ⟨le_trans keeps.1 arms.1, List.Subset.trans keeps.2 arms.2⟩
    · exact keeps
  refine armed _ ?_
  split <;> exact ⟨Finset.Subset.refl _, List.Subset.refl _⟩

theorem handles_keepsNotes {handler : Handler} (ran : Handles config c handler after) :
    KeepsNotes c after := by
  cases ran with
  | notificationTaken _ _ _ => exact ⟨Finset.subset_insert _ _, List.Subset.refl _⟩
  | notificationStarts robotEndpoint robotPosition map =>
      have armed := armTimer_keepsNotes
        { withRobots c map with
          notifications := insert robotPosition c.notifications
          stateStatus := .moving } .retrieveFinishedOrders (debounceTime * RobotAgent.timeUnit)
      exact ⟨le_trans (Finset.subset_insert _ _) armed.1, armed.2⟩
  | answerTaken answer map place rest =>
      exact takeNextRobot_keepsNotes (withRobots c map) answer place rest
  | reconnected => exact determineNextMovement_keepsNotes { c with nextRobotRequestQueue := [] }
  | moves =>
      obtain ⟨plates, map, same⟩ := movePlates_frame config c 1 config.plateCount
      rw [moveConveyor, same]
      exact ⟨Finset.Subset.refl _, List.Subset.refl _⟩
  | notificationDropped | answerIgnored | swapped | reconnectedInTime | retrieves | aborted =>
      exact ⟨Finset.Subset.refl _, List.Subset.refl _⟩

/-- The handler of a notification enters it, unless the robot is unknown and
cannot be connected. -/
theorem notification_noted {environment : Environment}
    (connects : ¬ (isRobotUnknown (removeStoppedRobots c) position endpoint ∧
      environment.connected = false)) :
    position ∈ (handleFinishedOrderNotification c endpoint position environment).notifications := by
  have entered : ∀ known : Conveyor, position ∈ (if known.stateStatus = .idling then
        armTimer
          { known with
            notifications := insert position known.notifications
            stateStatus := .moving }
          .retrieveFinishedOrders (debounceTime * RobotAgent.timeUnit)
      else { known with notifications := insert position known.notifications }).notifications := by
    intro known
    split
    · exact Finset.mem_insert_self position known.notifications
    · exact Finset.mem_insert_self position known.notifications
  unfold handleFinishedOrderNotification
  simp only
  rw [if_neg (by simpa using connects)]
  exact entered _

theorem handle_noted {environment : Environment} {handler : Handler} {posted : List Handler}
    (next : c.posted = handler :: posted)
    (remembered : ¬ DropsNotification endpoint position c (.runHandler environment))
    (noted : Noted endpoint position c) :
    Noted endpoint position (handle config (takeHandler c posted) environment handler) := by
  have keeps := handles_keepsNotes (handle_cases config (takeHandler c posted) environment handler)
  by_cases others : position ∈ c.notifications ∨
      Handler.handleFinishedOrderNotification endpoint position ∈ posted
  · exact keeps.noted others
  · push Not at others
    have this : handler = .handleFinishedOrderNotification endpoint position := by
      rcases noted with entry | member
      · exact absurd entry others.1
      · rw [next, List.mem_cons] at member
        rcases member with same | member
        · exact same.symm
        · exact absurd member others.2
    subst this
    refine .inl (notification_noted ?_)
    intro fails
    refine remembered ⟨?_, others.1, ?_, fails.1, fails.2⟩
    · rw [next, List.head?_cons]
    · rw [next, List.tail_cons]
      exact others.2

theorem visits_keepsNotes (visit : Visits c event after outputs)
    (notRetrieval : ∀ place reply, event ≠ .retrieve place reply) : KeepsNotes c after := by
  cases visit with
  | keptNotification place reply | droppedNotification place reply =>
      exact absurd rfl (notRetrieval place reply)
  | handedOver place dish reply => exact absurd rfl (notRetrieval place (some (dish, reply)))
  | notRequested | requested | notDeliverable | orderRefused | orderCompleted | notInstructed
  | taskRefused | taskMisplaced | taskAccepted =>
      exact ⟨Finset.Subset.refl _, List.Subset.refl _⟩

/-- A retrieval from an occupied plate is put off, and one from a free plate
erases this notification alone. -/
theorem retrieve_noted {place : Position} {reply : Option (DishId × RobotAgent.HandoverReply)}
    (ran : retrieve c place reply = some (after, outputs))
    (remembered : ¬ DropsNotification endpoint position c (.retrieve place reply))
    (noted : Noted endpoint position c) : Noted endpoint position after := by
  have visit := retrieve_cases ran
  by_cases occupied : (plateAt c place).occupied = true
  · rw [retrieve, if_pos occupied] at ran
    cases ran
    exact noted
  · have free : (plateAt c place).occupied = false := by simpa using occupied
    have posted := visit.frame.1
    rcases noted with entry | member
    · by_cases here : place = position
      · refine .inr ?_
        rw [posted]
        by_contra absent
        exact remembered ⟨here, here ▸ free, absent⟩
      · have left : position ∈ c.notifications.erase place :=
          Finset.mem_erase.mpr ⟨fun same => here same.symm, entry⟩
        refine .inl ?_
        cases visit with
        | keptNotification => exact entry
        | droppedNotification => exact left
        | handedOver _ dish reply =>
            unfold handleHandoverFinishedOrder
            split <;> exact left
    · exact .inr (by rwa [posted])

theorem step_noted (taken : ConveyorAgent.step config c event = some (after, outputs))
    (remembered : ¬ DropsNotification endpoint position c event)
    (noted : Noted endpoint position c) : Noted endpoint position after := by
  obtain ⟨running, reaction⟩ := step_cases taken
  cases reaction with
  | notificationReceived | answerReceived | positionChanged =>
      exact (post_keepsNotes c _).noted noted
  | robotStopped | controllerLost | retrieved => exact noted
  | controllerConnected =>
      exact (post_keepsNotes { c with controllerClient := true } .controllerReconnected).noted noted
  | expired wait =>
      exact (post_keepsNotes { c with steadyTimer := none } (.timerCompleted wait.task)).noted noted
  | handled environment handler posted idle next =>
      have ran : (handle config (takeHandler c posted) environment handler, []) =
          (after, ([] : List ConveyorAgent.Output)) := by
        simpa [ConveyorAgent.step, running, idle, next] using taken
      cases ran
      exact handle_noted next remembered noted
  | retrieving left place reply loop member =>
      have ran : retrieve (setWorker c (.retrievingFinishedOrders (left.erase place))) place reply =
          some (after, outputs) := by
        simpa [ConveyorAgent.step, running, loop, member] using taken
      exact retrieve_noted ran remembered noted
  | requesting left plateId reply loop member visit =>
      exact (visits_keepsNotes visit (by simp)).noted noted
  | requested =>
      unfold armMovement
      split
      · exact (armTimer_keepsNotes (setWorker c .betweenHandlers) _ _).noted noted
      · exact noted
  | delivering left plateId kitchen robot loop member visit =>
      exact (visits_keepsNotes visit (by simp)).noted noted
  | delivered => exact (determineNextMovement_keepsNotes c).noted noted

end Conveyor

section Robot

open RobotAgent

variable {config : RobotAgent.Config} {r after : Robot} {event : RobotAgent.Event}
  {outputs : List RobotAgent.Output}

def SameWait (r after : Robot) : Prop :=
  after.pendingPickup = r.pendingPickup ∧ after.conveyorClient = r.conveyorClient

theorem determineNextAction_sameWait (r : Robot) : SameWait r (determineNextAction r) := by
  have outcome := determineNextAction_cases r
  generalize determineNextAction r = after at outcome
  cases outcome <;> exact ⟨rfl, rfl⟩

theorem handleSwitchPosition_sameWait (r : Robot) :
    SameWait r (handleSwitchPosition config r) := by
  unfold handleSwitchPosition
  split <;> exact ⟨rfl, rfl⟩

theorem handleReconfiguration_sameWait (r : Robot) : SameWait r (handleReconfiguration r) := by
  unfold handleReconfiguration
  split <;> exact ⟨rfl, rfl⟩

theorem handles_sameWait {capability : String} {handler : Handler}
    (ran : Handles config r capability handler after outputs) : SameWait r after := by
  cases ran with
  | rearranges newPosition => exact handleSwitchPosition_sameWait (target r newPosition)
  | reconfigures => exact handleReconfiguration_sameWait r
  | retooled action => exact determineNextAction_sameWait (equip r action.requiredTool)
  | performed action rest => exact determineNextAction_sameWait (countStep (countDown r) rest)
  | completed completed =>
      obtain ⟨_, _, requeued, _, _, _, loop, rfl⟩ := completeReconfiguration_cases completed
      obtain ⟨_, _, _, _, _, rfl, _⟩ := recalculateOrderQueue_refills r.orderQueue loop
      split <;> exact ⟨rfl, rfl⟩
  | taskForgotten | taskQueued | entered | targeted | postponed | committed | ticked | moved
  | aborted => exact ⟨rfl, rfl⟩

theorem cooks_sameWait (cooked : Cooks config r after) : SameWait r after := by
  cases cooked with
  | rearranges => exact handleSwitchPosition_sameWait (passLock r)
  | reconfigures => exact handleReconfiguration_sameWait (passLock r)
  | rests => exact ⟨rfl, rfl⟩
  | starts _ nextOrder rest recipe =>
      exact determineNextAction_sameWait (startOrder (passLock r) nextOrder rest recipe)

/-- A robot that waits after a step in which no notification got through has
waited before, at the same place. -/
theorem step_waits (one : OneDriver r) (step : RobotAgent.Step config r event after outputs)
    (notNotified : ∀ received, event ≠ .notifyConveyor (some received))
    (notRenotified : ∀ received, event ≠ .conveyorConnected (some received))
    (waits : WaitsForPickup after) : WaitsForPickup r ∧ after.position = r.position := by
  obtain ⟨pickup, client⟩ := waits
  have before : WaitsForPickup r := by
    cases step with
    | handled capability handler posted idle next ran =>
        have same := handles_sameWait ran
        exact ⟨same.1.symm.trans pickup, same.2.symm.trans client⟩
    | locked waiting unlocked ran =>
        have same := cooks_sameWait ran
        exact ⟨same.1.symm.trans pickup, same.2.symm.trans client⟩
    | notified received => exact absurd rfl (notNotified received)
    | renotified received => exact absurd rfl (notRenotified received)
    | conveyorConnected reply none =>
        have pickup : r.pendingPickup = true := pickup
        rw [none] at pickup
        contradiction
    | handedOver | notifyFailed | conveyorLost => contradiction
    | refused | taskAccepted | switchAccepted | commitAccepted | reconfigureAccepted | expired
    | renotifyFailed => exact ⟨pickup, client⟩
  refine ⟨before, ?_⟩
  rcases step_keeps_or_resting one step with kept | resting
  · exact kept.1
  · have pickup := before.1
    rw [resting.2] at pickup
    contradiction

end Robot

section Runs

variable {config : Config} {p after : Pair} {event : Event} {outputs : List Output}

/-- The invariant of the pair: one driver in the robot, and a note for every
dish it waits with. -/
structure Remembered (config : Config) (p : Pair) : Prop where
  one : OneDriver p.robot
  noted : WaitsForPickup p.robot →
    Noted config.robot.serverEndpoint p.robot.position p.conveyor

theorem initial_remembered (initial : (machine config).start p) : Remembered config p where
  one := RobotAgent.initial_oneDriver initial.1
  noted := by
    intro waits
    obtain ⟨_, _, _, _, _, _, _, _, same⟩ := initial.1
    have pickup := waits.1
    rw [same] at pickup
    contradiction

theorem robotStep_remembered (remembered : Remembered config p) {own : RobotAgent.Event}
    {robot : Robot} {outputs : List RobotAgent.Output} (permitted : CommitsOnce p.robot own)
    (taken : robotStep config p.robot own = some (robot, outputs)) :
    Remembered config { p with robot := robot } := by
  have same : RobotAgent.step config.robot p.robot own = some (robot, outputs) ∧
      (∀ received, own ≠ .notifyConveyor (some received)) ∧
      ∀ received, own ≠ .conveyorConnected (some received) := by
    unfold robotStep at taken
    split at taken
    · contradiction
    · contradiction
    · contradiction
    next notNotified notRenotified => exact ⟨taken, notNotified, notRenotified⟩
  obtain ⟨taken, notNotified, notRenotified⟩ := same
  have reaction := (RobotAgent.step_cases taken).2
  refine ⟨RobotAgent.step_oneDriver remembered.one permitted reaction, ?_⟩
  intro waits
  obtain ⟨before, position⟩ :=
    step_waits remembered.one reaction notNotified notRenotified waits
  have noted := remembered.noted before
  rw [← position] at noted
  exact noted

theorem conveyorStep_remembered (remembered : Remembered config p) {own : ConveyorAgent.Event}
    {conveyor : Conveyor} {outputs : List ConveyorAgent.Output}
    (kept : WaitsForPickup p.robot →
      ¬ DropsNotification config.robot.serverEndpoint p.robot.position p.conveyor own)
    (taken : conveyorStep config p.conveyor own = some (conveyor, outputs)) :
    Remembered config { p with conveyor := conveyor } := by
  have same : ConveyorAgent.step config.conveyor p.conveyor own = some (conveyor, outputs) := by
    unfold conveyorStep at taken
    split at taken
    · contradiction
    · split at taken
      · contradiction
      · exact taken
    · exact taken
  refine ⟨remembered.one, ?_⟩
  intro waits
  exact step_noted same (kept waits) (remembered.noted waits)

/-- The conveyor posts a notification that gets through, whether it is the
first or a repeated one. -/
theorem notificationStep_remembered (remembered : Remembered config p)
    {call : RobotAgent.Event} (notCommit : call ≠ .commitNewPosition)
    (stays : ∀ robot sent, RobotAgent.step config.robot p.robot call = some (robot, sent) →
      robot.position = p.robot.position)
    (taken : notificationStep config p call = some (after, outputs)) :
    Remembered config after := by
  unfold notificationStep at taken
  split at taken
  next robot sent conveyor received called posted =>
    cases taken
    have reaction := (RobotAgent.step_cases called).2
    refine ⟨RobotAgent.step_oneDriver remembered.one (fun commit => absurd commit notCommit)
      reaction, ?_⟩
    intro _
    have reaction := (ConveyorAgent.step_cases posted).2
    cases reaction with
    | notificationReceived =>
        refine .inr ?_
        rw [stays robot sent called]
        exact List.mem_append_right _ (List.mem_singleton.mpr rfl)
  · contradiction

theorem notified_position {config : RobotAgent.Config} {r robot : Robot} {reply : Option Bool}
    {sent : List RobotAgent.Output}
    (called : RobotAgent.step config r (.notifyConveyor reply) = some (robot, sent)) :
    robot.position = r.position := by
  have reaction := (RobotAgent.step_cases called).2
  cases reaction with
  | notifyFailed | notified => rfl
  | refused refusal => rfl

theorem renotified_position {config : RobotAgent.Config} {r robot : Robot} {reply : Option Bool}
    {sent : List RobotAgent.Output}
    (called : RobotAgent.step config r (.conveyorConnected reply) = some (robot, sent)) :
    robot.position = r.position := by
  have reaction := (RobotAgent.step_cases called).2
  cases reaction with
  | conveyorConnected | renotifyFailed | renotified => rfl
  | refused refusal => rfl

theorem handoverStep_remembered (remembered : Remembered config p) {position : Position}
    (taken : handoverStep config p position = some (after, outputs)) :
    Remembered config after := by
  unfold handoverStep at taken
  split at taken
  · split at taken
    next robot dish reply handed =>
      obtain ⟨result, _, same⟩ := Option.map_eq_some_iff.mp taken
      cases same
      have reaction := (RobotAgent.step_cases handed).2
      refine ⟨RobotAgent.step_oneDriver remembered.one (by simp [CommitsOnce]) reaction, ?_⟩
      intro waits
      have given : robot.pendingPickup = false := by
        cases reaction with
        | handedOver => rfl
        | refused refusal =>
            cases refusal with
            | handover pending => exact pending
      have pickup := waits.1
      rw [given] at pickup
      contradiction
    · contradiction
  · contradiction

theorem step_remembered (remembered : Remembered config p)
    (permitted : RemembersNotification config p event)
    (taken : step config p event = some (after, outputs)) : Remembered config after := by
  cases event with
  | robot own =>
      obtain ⟨result, ran, same⟩ := Option.map_eq_some_iff.mp taken
      cases same
      exact robotStep_remembered remembered permitted ran
  | conveyor own =>
      obtain ⟨result, ran, same⟩ := Option.map_eq_some_iff.mp taken
      cases same
      exact conveyorStep_remembered remembered permitted ran
  | notify =>
      exact notificationStep_remembered remembered (by simp)
        (fun _ _ called => notified_position called) taken
  | renotify =>
      unfold step at taken
      simp only at taken
      split at taken
      · exact notificationStep_remembered remembered (by simp)
          (fun _ _ called => renotified_position called) taken
      · contradiction
  | handover position => exact handoverStep_remembered remembered taken

/-- A dish that waits for its pickup is noted, in every run in which the
conveyor does not drop the last notification of the waiting robot. The agents
need not run any more. -/
theorem waiting_dish_noted (config : Config) (history : History Event Output) (p : Pair)
    (reached : (machine config).Reaches (RemembersNotification config) history p)
    (connected : p.robot.conveyorClient = true) (pending : p.robot.pendingPickup = true) :
    p.robot.position ∈ p.conveyor.notifications ∨
      .handleFinishedOrderNotification config.robot.serverEndpoint p.robot.position ∈
        p.conveyor.posted := by
  have remembered : Remembered config p :=
    reached.invariant (fun _ initial => initial_remembered initial)
      (fun _ _ _ _ remembered permitted taken => step_remembered remembered permitted taken)
  exact remembered.noted ⟨pending, connected⟩

def mixingStation : Config := ⟨RobotAgent.deployment, ConveyorAgent.fivePlates⟩

def idleStation : Pair := ⟨RobotAgent.mixingRobot, ConveyorAgent.initial ConveyorAgent.fivePlates⟩

theorem idleStation_starts : (machine mixingStation).start idleStation :=
  ⟨RobotAgent.mixingRobot_started, rfl⟩

def finishesDish : List Event :=
  [.robot (.receiveTask ⟨3, 3, 1⟩ 3), .robot (.runHandler "whip"), .robot .cookNextOrder,
   .robot .timerExpires, .robot (.runHandler "whip"), .robot .timerExpires,
   .robot (.runHandler "whip"), .robot .timerExpires, .robot (.runHandler "whip"), .notify]

def connected : ConveyorAgent.Environment := ⟨true, none, none⟩

def notConnected : ConveyorAgent.Environment := ⟨false, none, none⟩

/-- The dish is noted before and after the robot has lost its connection. -/
theorem dish_noted_after_reconnection :
    ∃ history p, (machine mixingStation).Reaches (RemembersNotification mixingStation) history p ∧
      p.robot.pendingPickup = true ∧ p.conveyor.posted ≠ [] ∧
      (p.robot.position ∈ p.conveyor.notifications ∨
        .handleFinishedOrderNotification mixingStation.robot.serverEndpoint p.robot.position ∈
          p.conveyor.posted) := by
  obtain ⟨history, p, reached, shown⟩ := Machine.exists_reaches_of_replay
    (machine mixingStation) (RemembersNotification mixingStation) idleStation_starts
    (finishesDish ++ [.robot .conveyorLost, .conveyor (.runHandler notConnected), .renotify,
      .conveyor (.runHandler connected), .robot .conveyorLost, .renotify])
    (fun _ p => decide (p.robot.conveyorClient = true ∧ p.robot.pendingPickup = true ∧
      p.conveyor.posted ≠ [])) (by decide)
  obtain ⟨client, pending, posted⟩ := of_decide_eq_true shown
  exact ⟨history, p, reached, pending, posted,
    waiting_dish_noted mixingStation history p reached client pending⟩

def connectionFails : List Event := [.conveyor (.runHandler notConnected)]

def connectionLost : List Event :=
  [.conveyor (.runHandler connected), .conveyor (.robotStopped 3), .conveyor .timerExpires,
   .conveyor (.runHandler connected), .conveyor (.retrieve 3 none)]

def handoverFails : List Event :=
  [.conveyor (.runHandler connected), .conveyor .timerExpires,
   .conveyor (.runHandler connected), .conveyor (.retrieve 3 none)]

/-- The robot still has the dish and its connection, the conveyor knows nothing
of it. -/
def Forgotten (p : Pair) : Prop :=
  p.robot.running = true ∧ p.conveyor.running = true ∧
  p.robot.conveyorClient = true ∧ p.robot.pendingPickup = true ∧
  p.robot.position ∉ p.conveyor.notifications ∧
  .handleFinishedOrderNotification mixingStation.robot.serverEndpoint p.robot.position ∉
    p.conveyor.posted

instance (p : Pair) : Decidable (Forgotten p) := by
  unfold Forgotten
  infer_instance

def ForgetsDish (mishap : List Event) : Prop :=
  ∃ history p, (machine mixingStation).Reaches (fun _ _ => True) history p ∧
    history.map Prod.fst = finishesDish ++ mishap ∧ Forgotten p

theorem forgetsDish_of_replay {mishap : List Event}
    (replayed : ((machine mixingStation).replay (fun _ _ => True) [] idleStation
      (finishesDish ++ mishap)).any (fun result =>
        decide (result.1.map Prod.fst = finishesDish ++ mishap ∧ Forgotten result.2)) = true) :
    ForgetsDish mishap := by
  obtain ⟨history, p, reached, shown⟩ := Machine.exists_reaches_of_replay
    (machine mixingStation) (fun _ _ => True) idleStation_starts (finishesDish ++ mishap)
    (fun history p => decide (history.map Prod.fst = finishesDish ++ mishap ∧ Forgotten p)) replayed
  exact ⟨history, p, reached, of_decide_eq_true shown⟩

/-- Each of the three mishaps leaves a robot waiting that the conveyor does not
know of, although the robot is still connected to it. -/
theorem waiting_dish_forgotten :
    ForgetsDish connectionFails ∧ ForgetsDish connectionLost ∧ ForgetsDish handoverFails := by
  refine ⟨forgetsDish_of_replay ?_, forgetsDish_of_replay ?_, forgetsDish_of_replay ?_⟩
  · decide
  · decide
  · decide

end Runs

end Pickup

end CpsKitchen.Plant
