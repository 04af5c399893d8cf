import CpsKitchen.Selection.Swapless

/-!
# The handler of a request

What happens to the robots and to the worker while a request is handled, beside
the MAPE implementation.
-/

namespace CpsKitchen.Selection

open CpsKitchen.Reactive CpsKitchen.Recipes CpsKitchen.KitchenMape
open CpsKitchen.ControllerAgent

set_option autoImplicit false

section Handling

variable {config : ControllerAgent.Config} {c after : Controller}
  {event : ControllerAgent.Event} {outputs : List Output} {request : Request}

/-- The request that a MAPE implementation without swaps is asked about. -/
def handlingRequest : Worker → Option Request
  | .choosing request | .checkingReconfiguration request _ _ | .reconfiguring request _ _ =>
      some request
  | _ => none

/-- The request whose handler runs and has no answer yet. -/
def openRequest : Worker → Option Request
  | .initializingReceiver request => some request
  | worker => handlingRequest worker

theorem openRequest_of_handling {worker : Worker}
    (handling : handlingRequest worker = some request) : openRequest worker = some request := by
  cases worker with
  | initializingReceiver => cases handling
  | _ => exact handling

/-- No robot enters or leaves the map, and the capabilities of one change only
if it announces others. -/
structure KeepsRobots (c after : Controller) (event : ControllerAgent.Event) : Prop where
  stays : ∀ position, isRegistered c position → isRegistered after position
  known : ∀ position robot, findRobot after position = some robot →
    ∃ before, findRobot c position = some before ∧
      ((∀ capabilities, event ≠ .capabilitiesChanged (.registered position) capabilities) →
        before.capabilities = robot.capabilities)

theorem KeepsRobots.of_same (map : after.positionRemoteRobotMap = c.positionRemoteRobotMap) :
    KeepsRobots c after event where
  stays := by
    intro position present
    rw [isRegistered, findRobot, map]
    exact present
  known := by
    intro position robot found
    rw [findRobot, map] at found
    exact ⟨robot, found, fun _ => rfl⟩

theorem KeepsRobots.setWorker (keeps : KeepsRobots c after event) (worker : Worker) :
    KeepsRobots c (setWorker after worker) event :=
  ⟨keeps.stays, keeps.known⟩

theorem KeepsRobots.post (keeps : KeepsRobots c after event) (handler : Handler) :
    KeepsRobots c (post after handler) event :=
  ⟨keeps.stays, keeps.known⟩

theorem updateRobot_keepsRobots (c : Controller) (position : Position)
    {change : RemoteRobot → RemoteRobot}
    (keeps : (∀ capabilities, event ≠ .capabilitiesChanged (.registered position) capabilities) →
      ∀ robot, (change robot).capabilities = robot.capabilities) :
    KeepsRobots c (updateRobot c position change) event where
  stays := fun other present => isRegistered_updateRobot.mpr present
  known := by
    intro other robot found
    rw [findRobot_updateRobot] at found
    split at found
    next same =>
      obtain ⟨before, here, rfl⟩ := Option.map_eq_some_iff.mp found
      rw [same]
      exact ⟨before, here, fun quiet => (keeps quiet before).symm⟩
    · exact ⟨robot, found, fun _ => rfl⟩

theorem updateAt_keepsRobots (c : Controller) (place : Place) {change : RemoteRobot → RemoteRobot}
    (keeps : (∀ capabilities, event ≠ .capabilitiesChanged place capabilities) →
      ∀ robot, (change robot).capabilities = robot.capabilities) :
    KeepsRobots c (updateAt c change place) event := by
  cases place with
  | registered position => exact updateRobot_keepsRobots c position keeps
  | held =>
      apply KeepsRobots.of_same
      simp only [updateAt]
      split <;> rfl

theorem updateAt_worker (asked : openRequest c.worker = some request)
    (change : RemoteRobot → RemoteRobot) (place : Place) :
    (updateAt c change place).worker = c.worker := by
  cases place with
  | registered position => rfl
  | held =>
      simp only [updateAt]
      split
      next initializing =>
        rw [initializing] at asked
        cases asked
      next committing =>
        rw [committing] at asked
        cases asked
      · rfl

theorem afterCall_capabilities (reply : Option Bool) (robot : RemoteRobot) :
    (afterCall reply robot).capabilities = robot.capabilities := by
  unfold afterCall
  split <;> rfl

theorem handling_step (handling : handlingRequest c.worker = some request)
    (unasked : ∀ fromPosition toPosition, event ≠ .swapRobotPositions fromPosition toPosition)
    (unchosen : ∀ position, event ≠ .nextRobotChosen position)
    (step : ControllerAgent.Step config c event after outputs) :
    handlingRequest after.worker = some request ∧ KeepsRobots c after event := by
  have kept := updateAt_worker (openRequest_of_handling handling)
  cases step with
  | registrationReceived | requestReceived | receiverStopped | adaptationRefused =>
      exact ⟨handling, .of_same rfl⟩
  | positionNoticed place | robotStopped place =>
      rw [kept]
      exact ⟨handling, updateAt_keepsRobots c place (fun _ _ => rfl)⟩
  | capabilitiesNoticed place capabilities =>
      rw [kept]
      exact ⟨handling, updateAt_keepsRobots c place (fun quiet => absurd rfl (quiet capabilities))⟩
  | positionChanged place =>
      refine ⟨?_, KeepsRobots.post ?_ _⟩
      · exact (congrArg handlingRequest (kept _ place)).trans handling
      · exact updateAt_keepsRobots c place (fun _ _ => rfl)
  | capabilitiesChanged place capabilities =>
      refine ⟨?_, KeepsRobots.post ?_ _⟩
      · exact (congrArg handlingRequest (kept _ place)).trans handling
      · exact updateAt_keepsRobots c place (fun quiet => absurd rfl (quiet capabilities))
  | reconfigurationChecked other robotPosition profile here
  | robotAvailable other robotPosition profile here =>
      rw [here] at handling
      exact ⟨handling, .of_same rfl⟩
  | notAvailable other position answer checking =>
      refine ⟨?_, KeepsRobots.setWorker ?_ _⟩
      · generalize c.worker = worker at checking handling
        cases checking with
        | first | second => contradiction
        | reconfiguration => exact handling
      · exact updateRobot_keepsRobots c position (fun _ => afterCall_capabilities answer)
  | reconfigurationInstructed other robotPosition profile reply here =>
      rw [here] at handling
      refine ⟨handling, KeepsRobots.setWorker ?_ _⟩
      apply updateRobot_keepsRobots
      intro _ robot
      split
      · rfl
      · exact afterCall_capabilities reply robot
  | swapChecked => exact absurd rfl (unasked _ _)
  | notAnswered | answers => exact absurd rfl (unchosen _)
  | handled _ _ here | robotRegistered _ _ here | robotDropped _ _ here | commitMissed _ here
  | noCommitMissed _ _ here | missedCommitted _ _ here | firstCommitted _ _ _ _ here
  | secondCommitted _ _ _ here | receiverInitialized _ _ here | firstAvailable _ _ _ here
  | secondAvailable _ _ _ here | firstFailed _ _ _ here | firstRefused _ _ _ here
  | firstSwitches _ _ _ here | onlySwitches _ _ _ here | secondRefused _ _ _ here
  | secondSwitches _ _ _ _ here | answered _ _ _ _ here =>
      rw [here] at handling
      contradiction

theorem addressed_of_plain {worker : Worker} (plain : isPlain worker = true) :
    addressed worker = none := by
  cases worker with
  | checkingReconfiguration | reconfiguring => cases plain
  | _ => rfl

def answerOf : Worker → Option (Request × Position × String)
  | .answering request robotPosition robotEndpoint =>
      some (request, robotPosition, robotEndpoint)
  | _ => none

/-- The worker reconfigures no robot and gives no answer. -/
structure Silent (worker : Worker) : Prop where
  unaddressed : addressed worker = none
  unanswered : answerOf worker = none

theorem commitSecond_silent (c : Controller) (key : SwapKey) (second : Option RemoteRobot) :
    Silent (commitSecond c key second).worker := by
  cases second with
  | none => exact ⟨rfl, rfl⟩
  | some second => exact ⟨rfl, rfl⟩

theorem checkSecond_silent (c : Controller) (request : Request)
    (fromPosition toPosition : Position) :
    Silent (checkSecond c request fromPosition toPosition).worker := by
  unfold checkSecond
  split
  · exact ⟨rfl, rfl⟩
  · split
    · exact ⟨rfl, rfl⟩
    · exact ⟨rfl, rfl⟩

theorem resolveMissedNewPositionCommit_silent (c : Controller) (position : Position) :
    Silent (resolveMissedNewPositionCommit c position).worker := by
  unfold resolveMissedNewPositionCommit
  split
  · exact ⟨rfl, rfl⟩
  · split
    · exact ⟨rfl, rfl⟩
    · exact ⟨rfl, rfl⟩

theorem handles_silent (idle : c.worker = .betweenHandlers) {handler : Handler}
    (ran : Handles c handler after) : Silent after.worker := by
  have cleaned : Silent (cleanUp c).worker := by
    have same : (cleanUp c).worker = c.worker := rfl
    rw [same, idle]
    exact ⟨rfl, rfl⟩
  cases ran with
  | registrationRefused | swapUnknown | acknowledged | reconfigured => exact cleaned
  | registrationStarts | receiverUnknown | chooses => exact ⟨rfl, rfl⟩
  | completes =>
      unfold completeSwap
      simp only
      split
      · exact commitSecond_silent _ _ _
      · exact ⟨rfl, rfl⟩

/-- Nobody asks for a reconfiguration, so the worker is at none. -/
theorem step_unaddressed (unaddressed : addressed c.worker = none)
    (own : isMapeEvent event = false)
    (step : ControllerAgent.Step config c event after outputs) : addressed after.worker = none := by
  have kept : ∀ change place, addressed (updateAt c change place).worker = none := by
    intro change place
    cases place with
    | registered position => exact unaddressed
    | held =>
        simp only [updateAt]
        split
        · rfl
        · rfl
        · exact unaddressed
  cases step with
  | registrationReceived | requestReceived | receiverStopped | adaptationRefused =>
      exact unaddressed
  | positionNoticed place | capabilitiesNoticed place | robotStopped place => exact kept _ place
  | positionChanged place | capabilitiesChanged place => exact kept _ place
  | swapChecked | reconfigurationChecked | notAnswered | answers => contradiction
  | robotAvailable _ _ _ here =>
      rw [here] at unaddressed
      contradiction
  | handled handler posted idle next ran =>
      have idle : (takeHandler c posted).worker = .betweenHandlers := idle
      exact (handles_silent idle ran).unaddressed
  | robotDropped | commitMissed | noCommitMissed | missedCommitted | secondCommitted
  | receiverInitialized | notAvailable | secondAvailable | firstFailed | firstRefused
  | firstSwitches | onlySwitches | secondRefused | secondSwitches | reconfigurationInstructed
  | answered => rfl
  | robotRegistered robot position =>
      exact (resolveMissedNewPositionCommit_silent _ position).unaddressed
  | firstCommitted => exact (commitSecond_silent _ _ _).unaddressed
  | firstAvailable request fromPosition toPosition =>
      exact (checkSecond_silent _ request fromPosition toPosition).unaddressed

theorem open_step (asked : openRequest c.worker = some request)
    (own : isMapeEvent event = false)
    (step : ControllerAgent.Step config c event after outputs) :
    after.worker = c.worker ∨ after.worker = .choosing request ∨
      ∃ position profile, c.worker = .checkingReconfiguration request position profile ∧
        after.worker = .reconfiguring request position profile := by
  have kept := updateAt_worker asked
  cases step with
  | registrationReceived | requestReceived | receiverStopped | adaptationRefused => exact .inl rfl
  | positionNoticed place | capabilitiesNoticed place | robotStopped place
  | positionChanged place | capabilitiesChanged place => exact .inl (kept _ place)
  | receiverInitialized other succeeded here | reconfigurationInstructed other _ _ _ here =>
      rw [here] at asked
      cases asked
      exact .inr (.inl rfl)
  | notAvailable other position answer checking =>
      generalize c.worker = worker at checking asked
      cases checking with
      | first | second => cases asked
      | reconfiguration =>
          cases asked
          exact .inr (.inl rfl)
  | robotAvailable other position profile here =>
      rw [here] at asked
      cases asked
      exact .inr (.inr ⟨position, profile, here, rfl⟩)
  | swapChecked | reconfigurationChecked | notAnswered | answers => contradiction
  | handled _ _ here | robotRegistered _ _ here | robotDropped _ _ here | commitMissed _ here
  | noCommitMissed _ _ here | missedCommitted _ _ here | firstCommitted _ _ _ _ here
  | secondCommitted _ _ _ here | firstAvailable _ _ _ here | secondAvailable _ _ _ here
  | firstFailed _ _ _ here | firstRefused _ _ _ here | firstSwitches _ _ _ here
  | onlySwitches _ _ _ here | secondRefused _ _ _ here | secondSwitches _ _ _ _ here
  | answered _ _ _ _ here =>
      rw [here] at asked
      cases asked

end Handling

end CpsKitchen.Selection
