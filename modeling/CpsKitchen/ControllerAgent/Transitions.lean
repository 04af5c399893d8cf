import CpsKitchen.ControllerAgent.Model

/-!
# What one step of the controller can do

`Step` lists the reactions of the controller with the guards that led to them
and `step_cases` shows the list complete. A handler first cleans up: robots
that stopped leave the map, and with them the swaps nobody is left for.
-/

namespace CpsKitchen.ControllerAgent

open CpsKitchen.Reactive CpsKitchen.Recipes

set_option autoImplicit false

variable {config : Config} {c after : Controller} {event : Event} {outputs : List Output}

def cleanUp (c : Controller) : Controller := eraseStalePendingSwapEntries (removeStoppedRobots c)

/-- What the worker does with its next handler, `c` is the controller that has
taken it. -/
inductive Handles (c : Controller) : Handler → Controller → Prop where
  | registrationRefused (endpoint : String) (position : Position) (capabilities : Finset String) :
      Handles c (.handleRobotRegistration endpoint position capabilities) (cleanUp c)
  | registrationStarts (endpoint : String) (position : Position) (capabilities : Finset String)
      (settled : ¬ isRobotPositionSwapping (cleanUp c) position)
      (free : ¬ isRegistered (cleanUp c) position) :
      Handles c (.handleRobotRegistration endpoint position capabilities)
        (setWorker (cleanUp c)
          (.initializingRobot (newRemoteRobot endpoint position capabilities) position))
  | receiverUnknown (request : Request) :
      Handles c (.handleNextRobotRequest request)
        (setWorker (cleanUp c) (.initializingReceiver request))
  | chooses (request : Request) :
      Handles c (.handleNextRobotRequest request) (setWorker (cleanUp c) (.choosing request))
  | swapUnknown (oldPosition newPosition : Position)
      (unknown : (cleanUp c).pendingSwaps.lookup (swapKey oldPosition newPosition) = none) :
      Handles c (.positionSwapped oldPosition newPosition) (cleanUp c)
  | acknowledged (oldPosition newPosition : Position) (swap : SwapState)
      (found : (cleanUp c).pendingSwaps.lookup (swapKey oldPosition newPosition) = some swap)
      (open_ : (swap.acknowledge (swapKey oldPosition newPosition) oldPosition).isAcknowledged =
        false) :
      Handles c (.positionSwapped oldPosition newPosition)
        (acknowledgeSwap (cleanUp c) (swapKey oldPosition newPosition) oldPosition)
  | completes (oldPosition newPosition : Position) (swap : SwapState)
      (found : (cleanUp c).pendingSwaps.lookup (swapKey oldPosition newPosition) = some swap)
      (both : (swap.acknowledge (swapKey oldPosition newPosition) oldPosition).isAcknowledged =
        true) :
      Handles c (.positionSwapped oldPosition newPosition)
        (completeSwap (acknowledgeSwap (cleanUp c) (swapKey oldPosition newPosition) oldPosition)
          (swapKey oldPosition newPosition))
  | reconfigured (robotPosition : Position) :
      Handles c (.capabilitiesReconfigured robotPosition)
        (updateRobot (removeStoppedRobots c) robotPosition resetAdaptivityFlag)

theorem handle_cases {handler : Handler} (ran : handle config c handler = some after) :
    Handles c handler after := by
  cases handler with
  | handleRobotRegistration endpoint position capabilities =>
      simp only [handle, handleRobotRegistration, Option.some.injEq] at ran
      rw [← ran]
      split
      · exact .registrationRefused endpoint position capabilities
      next settled =>
        split
        · exact .registrationRefused endpoint position capabilities
        next free => exact .registrationStarts endpoint position capabilities settled free
  | handleNextRobotRequest request =>
      simp only [handle, handleNextRobotRequest] at ran
      split at ran
      · cases ran
        exact .receiverUnknown request
      · unfold findSuitableRobot at ran
        split at ran
        · contradiction
        · split at ran
          · contradiction
          · cases ran
            exact .chooses request
  | positionSwapped oldPosition newPosition =>
      simp only [handle, positionSwapped, Option.some.injEq] at ran
      rw [← ran]
      split
      next unknown => exact .swapUnknown oldPosition newPosition unknown
      next swap found =>
        split
        next both => exact .completes oldPosition newPosition swap found both
        next open_ =>
          exact .acknowledged oldPosition newPosition swap found (Bool.eq_false_iff.mpr open_)
  | capabilitiesReconfigured robotPosition =>
      cases ran
      exact .reconfigured robotPosition

/-- The robot whose availability the worker reads. -/
inductive Checks : Worker → Request → Position → Prop where
  | first (request : Request) (fromPosition toPosition : Position) :
      Checks (.checkingFirst request fromPosition toPosition) request fromPosition
  | second (request : Request) (fromPosition toPosition : Position) :
      Checks (.checkingSecond request fromPosition toPosition) request toPosition
  | reconfiguration (request : Request) (robotPosition : Position) (profile : String) :
      Checks (.checkingReconfiguration request robotPosition profile) request robotPosition

inductive Step (config : Config) (c : Controller) : Event → Controller → List Output → Prop where
  | registrationReceived (endpoint : String) (position : Position)
      (capabilities : Finset String) :
      Step config c (.registerRobot endpoint position capabilities)
        (post c (.handleRobotRegistration endpoint position capabilities)) []
  | requestReceived (request : Request) :
      Step config c (.chooseNextRobot request) (post c (.handleNextRobotRequest request))
        [.requestAccepted request]
  | positionNoticed (place : Place) (newPosition : Position) (robot : RemoteRobot)
      (found : robotAt c place = some robot) (initial : robot.initialPositionSubscription = true) :
      Step config c (.positionChanged place newPosition)
        (updateAt c (fun robot =>
          { robot with position := newPosition, initialPositionSubscription := false }) place) []
  | positionChanged (place : Place) (newPosition : Position) (robot : RemoteRobot)
      (found : robotAt c place = some robot)
      (subscribed : robot.initialPositionSubscription = false) :
      Step config c (.positionChanged place newPosition)
        (post
          (updateAt c (fun robot =>
            { robot with position := newPosition, initialPositionSubscription := false }) place)
          (.positionSwapped robot.position newPosition)) []
  | capabilitiesNoticed (place : Place) (capabilities : Finset String) (robot : RemoteRobot)
      (found : robotAt c place = some robot) :
      Step config c (.capabilitiesChanged place capabilities)
        (updateAt c (fun robot =>
          { robot with
            capabilities := capabilities
            initialCapabilitiesSubscription := false }) place) []
  | capabilitiesChanged (place : Place) (capabilities : Finset String) (robot : RemoteRobot)
      (found : robotAt c place = some robot) :
      Step config c (.capabilitiesChanged place capabilities)
        (post
          (updateAt c (fun robot =>
            { robot with
              capabilities := capabilities
              initialCapabilitiesSubscription := false }) place)
          (.capabilitiesReconfigured robot.position)) []
  | robotStopped (place : Place) :
      Step config c (.robotStopped place) (updateAt c stopRobot place) []
  | receiverStopped (receiver : String × String) :
      Step config c (.receiverStopped receiver) (setReceiver c receiver false) []
  | handled {after : Controller} (handler : Handler) (posted : List Handler)
      (idle : c.worker = .betweenHandlers) (next : c.posted = handler :: posted)
      (ran : Handles (takeHandler c posted) handler after) :
      Step config c .runHandler after []
  | robotRegistered (robot : RemoteRobot) (position : Position)
      (initializing : c.worker = .initializingRobot robot position) :
      Step config c (.robotInitialized true)
        (resolveMissedNewPositionCommit
          { insertRobot c position robot with
            registeredRobots := (c.registeredRobots + 1) % 2 ^ 32 } position) []
  | robotDropped (robot : RemoteRobot) (position : Position)
      (initializing : c.worker = .initializingRobot robot position) :
      Step config c (.robotInitialized false) (setWorker c .betweenHandlers) []
  | commitMissed (position : Position) (reading : c.worker = .readingPendingCommit position) :
      Step config c (.pendingCommitRead (some true))
        (setWorker c (.resolvingMissedCommit position)) []
  | noCommitMissed (position : Position) (answer : Option Bool)
      (reading : c.worker = .readingPendingCommit position) :
      Step config c (.pendingCommitRead answer)
        (setWorker (updateRobot c position (afterCall answer)) .betweenHandlers) []
  | missedCommitted (position : Position) (reply : Option Bool)
      (resolving : c.worker = .resolvingMissedCommit position) :
      Step config c (.newPositionCommitted reply)
        (setWorker (updateRobot c position (afterCall reply)) .betweenHandlers)
        [.commitInstructed (endpointAt c position) position reply]
  | firstCommitted (key : SwapKey) (second : Option RemoteRobot) (position : Position)
      (reply : Option Bool) (committing : c.worker = .committingFirst key second position) :
      Step config c (.newPositionCommitted reply)
        (commitSecond (updateRobot c position (afterCall reply)) key second)
        [.commitInstructed (endpointAt c position) position reply]
  | secondCommitted (key : SwapKey) (position : Position) (reply : Option Bool)
      (committing : c.worker = .committingSecond key position) :
      Step config c (.newPositionCommitted reply)
        (setWorker (eraseSwap (updateRobot c position (afterCall reply)) key) .betweenHandlers)
        [.commitInstructed (endpointAt c position) position reply]
  | receiverInitialized (request : Request) (succeeded : Bool)
      (initializing : c.worker = .initializingReceiver request) :
      Step config c (.receiverInitialized succeeded)
        (setWorker (if succeeded then setReceiver c request.receiver true else c)
          (.choosing request)) []
  | adaptationRefused (event : Event) (request : Request)
      (choosing : c.worker = .choosing request) : Step config c event c []
  | swapChecked (request : Request) (fromPosition toPosition : Position)
      (choosing : c.worker = .choosing request) (different : fromPosition ≠ toPosition)
      (fromSettled : ¬ isRobotPositionSwapping c fromPosition)
      (toSettled : ¬ isRobotPositionSwapping c toPosition)
      (adapts : mayAdapt c fromPosition) :
      Step config c (.swapRobotPositions fromPosition toPosition)
        (setWorker c (.checkingFirst request fromPosition toPosition)) []
  | reconfigurationChecked (request : Request) (robotPosition : Position) (profile : String)
      (choosing : c.worker = .choosing request) (adapts : mayAdapt c robotPosition) :
      Step config c (.reconfigureRobotCapability robotPosition profile)
        (setWorker c (.checkingReconfiguration request robotPosition profile)) []
  | notAvailable (request : Request) (position : Position) (answer : Option Bool)
      (checking : Checks c.worker request position) (negative : answer ≠ some true) :
      Step config c (.availabilityRead answer) (unavailable c request position answer) []
  | firstAvailable (request : Request) (fromPosition toPosition : Position)
      (checking : c.worker = .checkingFirst request fromPosition toPosition) :
      Step config c (.availabilityRead (some true)) (checkSecond c request fromPosition toPosition)
        []
  | secondAvailable (request : Request) (fromPosition toPosition : Position)
      (checking : c.worker = .checkingSecond request fromPosition toPosition) :
      Step config c (.availabilityRead (some true))
        (setWorker c (.switchingFirst request fromPosition toPosition)) []
  | robotAvailable (request : Request) (robotPosition : Position) (profile : String)
      (checking : c.worker = .checkingReconfiguration request robotPosition profile) :
      Step config c (.availabilityRead (some true))
        (setWorker c (.reconfiguring request robotPosition profile)) []
  | firstFailed (request : Request) (fromPosition toPosition : Position)
      (switching : c.worker = .switchingFirst request fromPosition toPosition) :
      Step config c (.positionSwitched none)
        (setWorker (updateRobot c fromPosition stopRobot) (.choosing request))
        [.switchInstructed (endpointAt c fromPosition) toPosition none]
  | firstRefused (request : Request) (fromPosition toPosition : Position)
      (switching : c.worker = .switchingFirst request fromPosition toPosition) :
      Step config c (.positionSwitched (some false)) (setWorker (stop c) (.choosing request))
        [.switchInstructed (endpointAt c fromPosition) toPosition (some false)]
  | firstSwitches (request : Request) (fromPosition toPosition : Position)
      (switching : c.worker = .switchingFirst request fromPosition toPosition)
      (other : isRegistered c toPosition) :
      Step config c (.positionSwitched (some true))
        (setWorker (updateRobot c fromPosition setAdaptivityFlag)
          (.switchingSecond request fromPosition toPosition))
        [.switchInstructed (endpointAt c fromPosition) toPosition (some true)]
  | onlySwitches (request : Request) (fromPosition toPosition : Position)
      (switching : c.worker = .switchingFirst request fromPosition toPosition)
      (alone : ¬ isRegistered c toPosition) :
      Step config c (.positionSwitched (some true))
        (setWorker (addSwap (updateRobot c fromPosition setAdaptivityFlag) fromPosition toPosition
          true) (.choosing request))
        [.switchInstructed (endpointAt c fromPosition) toPosition (some true),
          .swapAdded (swapKey fromPosition toPosition)]
  | secondRefused (request : Request) (fromPosition toPosition : Position)
      (switching : c.worker = .switchingSecond request fromPosition toPosition) :
      Step config c (.positionSwitched (some false)) (setWorker (stop c) (.choosing request))
        [.switchInstructed (endpointAt c toPosition) fromPosition (some false)]
  | secondSwitches (request : Request) (fromPosition toPosition : Position)
      (reply : Option Bool)
      (switching : c.worker = .switchingSecond request fromPosition toPosition)
      (agreed : reply ≠ some false) :
      Step config c (.positionSwitched reply)
        (setWorker
          (addSwap
            (updateRobot c toPosition fun robot => setAdaptivityFlag (afterCall reply robot))
            fromPosition toPosition (reply = none)) (.choosing request))
        [.switchInstructed (endpointAt c toPosition) fromPosition reply,
          .swapAdded (swapKey fromPosition toPosition)]
  | reconfigurationInstructed (request : Request) (robotPosition : Position) (profile : String)
      (reply : Option Bool)
      (instructing : c.worker = .reconfiguring request robotPosition profile) :
      Step config c (.capabilitiesInstructed reply)
        (setWorker
          (updateRobot c robotPosition
            (if reply = some true then setAdaptivityFlag else afterCall reply)) (.choosing request))
        [.reconfigurationInstructed (endpointAt c robotPosition) profile reply]
  | notAnswered (position : Option Position) (request : Request)
      (choosing : c.worker = .choosing request) :
      Step config c (.nextRobotChosen position) (setWorker c .betweenHandlers) []
  | answers (position : Option Position) (request : Request)
      (choosing : c.worker = .choosing request) :
      Step config c (.nextRobotChosen position)
        (setWorker c (.answering request
          (((chosenRobot c position).map RemoteRobot.position).getD 0)
          (((chosenRobot c position).map RemoteRobot.endpoint).getD ""))) []
  | answered (request : Request) (robotPosition : Position) (robotEndpoint : String)
      (reply : Option Bool)
      (answering : c.worker = .answering request robotPosition robotEndpoint) :
      Step config c (.nextRobotReceived reply)
        (setWorker (if reply = none then setReceiver c request.receiver false else c)
          .betweenHandlers)
        [.nextRobotSent request robotPosition robotEndpoint reply]

private theorem isRegistered_of_mark {position toPosition : Position}
    {change : RemoteRobot → RemoteRobot} :
    isRegistered (updateRobot c position change) toPosition ↔ isRegistered c toPosition := by
  have keys : (updateRobot c position change).positionRemoteRobotMap.keys =
      c.positionRemoteRobotMap.keys := FiniteMap.keys_modify _ _ _
  have registered : ∀ c : Controller,
      isRegistered c toPosition ↔ toPosition ∈ c.positionRemoteRobotMap.keys := by
    intro c
    rw [isRegistered, findRobot, Finmap.lookup_isSome, Finmap.mem_keys]
  rw [registered, registered, keys]

theorem positionChanged_cases {place : Place} {newPosition : Position}
    (ran : positionChanged c place newPosition = some after) :
    Step config c (.positionChanged place newPosition) after [] := by
  unfold positionChanged at ran
  split at ran
  · contradiction
  next robot found =>
    simp only at ran
    split at ran
    next initial =>
      cases ran
      exact .positionNoticed place newPosition robot found initial
    next subscribed =>
      cases ran
      exact .positionChanged place newPosition robot found (Bool.eq_false_iff.mpr subscribed)

theorem capabilitiesChanged_cases {place : Place} {capabilities : Finset String}
    (ran : capabilitiesChanged c place capabilities = some after) :
    Step config c (.capabilitiesChanged place capabilities) after [] := by
  unfold capabilitiesChanged at ran
  split at ran
  · contradiction
  next robot found =>
    simp only at ran
    split at ran
    · cases ran
      exact .capabilitiesNoticed place capabilities robot found
    · cases ran
      exact .capabilitiesChanged place capabilities robot found

theorem availabilityRead_cases {answer : Option Bool}
    (ran : availabilityRead c answer = some after) :
    Step config c (.availabilityRead answer) after [] := by
  unfold availabilityRead at ran
  split at ran
  next request fromPosition toPosition checking =>
    split at ran
    next available =>
      cases available
      cases ran
      exact .firstAvailable request fromPosition toPosition checking
    next negative =>
      cases ran
      exact .notAvailable request fromPosition answer (checking ▸ .first ..) negative
  next request fromPosition toPosition checking =>
    split at ran
    next available =>
      cases available
      cases ran
      exact .secondAvailable request fromPosition toPosition checking
    next negative =>
      cases ran
      exact .notAvailable request toPosition answer (checking ▸ .second ..) negative
  next request robotPosition profile checking =>
    split at ran
    next available =>
      cases available
      cases ran
      exact .robotAvailable request robotPosition profile checking
    next negative =>
      cases ran
      exact .notAvailable request robotPosition answer (checking ▸ .reconfiguration ..) negative
  · contradiction

theorem positionSwitched_cases {reply : Option Bool}
    (ran : positionSwitched c reply = some (after, outputs)) :
    Step config c (.positionSwitched reply) after outputs := by
  unfold positionSwitched at ran
  split at ran
  next request fromPosition toPosition switching =>
    simp only at ran
    split at ran
    · cases ran
      exact .firstFailed request fromPosition toPosition switching
    · cases ran
      exact .firstRefused request fromPosition toPosition switching
    · unfold switchSecond at ran
      split at ran
      next other =>
        cases ran
        exact .firstSwitches request fromPosition toPosition switching
          (isRegistered_of_mark.mp other)
      next alone =>
        cases ran
        exact .onlySwitches request fromPosition toPosition switching
          (fun other => alone (isRegistered_of_mark.mpr other))
  next request fromPosition toPosition switching =>
    simp only at ran
    split at ran
    next refused =>
      cases refused
      cases ran
      exact .secondRefused request fromPosition toPosition switching
    next agreed =>
      cases ran
      exact .secondSwitches request fromPosition toPosition reply switching agreed
  · contradiction

theorem newPositionCommitted_cases {reply : Option Bool}
    (ran : newPositionCommitted c reply = some (after, outputs)) :
    Step config c (.newPositionCommitted reply) after outputs := by
  unfold newPositionCommitted at ran
  split at ran
  next key second position committing =>
    cases ran
    exact .firstCommitted key second position reply committing
  next key position committing =>
    cases ran
    exact .secondCommitted key position reply committing
  next position resolving =>
    cases ran
    exact .missedCommitted position reply resolving
  · contradiction

private theorem findSuitableRobot_eq {request : Request}
    (ran : findSuitableRobot config c request = some after) :
    after = setWorker c (.choosing request) := by
  unfold findSuitableRobot at ran
  split at ran
  · contradiction
  · split at ran
    · contradiction
    · exact (Option.some.inj ran).symm

theorem step_cases (taken : step config c event = some (after, outputs)) :
    Step config c event after outputs := by
  cases event with
  | registerRobot endpoint position capabilities =>
      simp only [step] at taken
      split at taken
      · cases taken
        exact .registrationReceived endpoint position capabilities
      · contradiction
  | chooseNextRobot request =>
      simp only [step] at taken
      split at taken
      · cases taken
        exact .requestReceived request
      · contradiction
  | positionChanged place newPosition =>
      obtain ⟨controller, ran, same⟩ := Option.map_eq_some_iff.mp taken
      cases same
      exact positionChanged_cases ran
  | capabilitiesChanged place capabilities =>
      obtain ⟨controller, ran, same⟩ := Option.map_eq_some_iff.mp taken
      cases same
      exact capabilitiesChanged_cases ran
  | robotStopped place =>
      simp only [step] at taken
      split at taken
      · contradiction
      · cases taken
        exact .robotStopped place
  | receiverStopped receiver =>
      simp only [step] at taken
      split at taken
      · contradiction
      · cases taken
        exact .receiverStopped receiver
  | runHandler =>
      simp only [step] at taken
      split at taken
      next handler posted _ idle next =>
        obtain ⟨controller, ran, same⟩ := Option.map_eq_some_iff.mp taken
        cases same
        exact .handled handler posted idle next (handle_cases ran)
      · contradiction
  | robotInitialized succeeded =>
      obtain ⟨controller, ran, same⟩ := Option.map_eq_some_iff.mp taken
      cases same
      unfold robotInitialized at ran
      split at ran
      next robot position initializing =>
        split at ran
        next success =>
          cases success
          cases ran
          exact .robotRegistered robot position initializing
        next failure =>
          cases Bool.eq_false_iff.mpr failure
          cases ran
          exact .robotDropped robot position initializing
      · contradiction
  | pendingCommitRead answer =>
      obtain ⟨controller, ran, same⟩ := Option.map_eq_some_iff.mp taken
      cases same
      unfold pendingCommitRead at ran
      split at ran
      next position reading =>
        split at ran
        next missed =>
          cases missed
          cases ran
          exact .commitMissed position reading
        · cases ran
          exact .noCommitMissed position answer reading
      · contradiction
  | newPositionCommitted reply => exact newPositionCommitted_cases taken
  | receiverInitialized succeeded =>
      obtain ⟨controller, ran, same⟩ := Option.map_eq_some_iff.mp taken
      cases same
      unfold receiverInitialized at ran
      split at ran
      next request initializing =>
        rw [findSuitableRobot_eq ran]
        exact .receiverInitialized request succeeded initializing
      · contradiction
  | swapRobotPositions fromPosition toPosition =>
      simp only [step] at taken
      split at taken
      next request choosing =>
        cases taken
        unfold swapRobotPositions
        split
        · exact .adaptationRefused _ request choosing
        next different =>
          split
          · exact .adaptationRefused _ request choosing
          next settled =>
            push Not at settled
            split
            · exact .adaptationRefused _ request choosing
            next adapts =>
              exact .swapChecked request fromPosition toPosition choosing different settled.1
                settled.2 (not_not.mp adapts)
      · contradiction
  | reconfigureRobotCapability robotPosition profile =>
      simp only [step] at taken
      split at taken
      next request choosing =>
        cases taken
        unfold reconfigureRobotCapability
        split
        · exact .adaptationRefused _ request choosing
        next adapts =>
          exact .reconfigurationChecked request robotPosition profile choosing (not_not.mp adapts)
      · contradiction
  | availabilityRead answer =>
      obtain ⟨controller, ran, same⟩ := Option.map_eq_some_iff.mp taken
      cases same
      exact availabilityRead_cases ran
  | positionSwitched reply => exact positionSwitched_cases taken
  | capabilitiesInstructed reply =>
      simp only [step, capabilitiesInstructed] at taken
      split at taken
      next request robotPosition profile instructing =>
        cases taken
        exact .reconfigurationInstructed request robotPosition profile reply instructing
      · contradiction
  | nextRobotChosen position =>
      simp only [step] at taken
      split at taken
      next request choosing =>
        cases taken
        unfold nextRobotChosen
        simp only
        split
        · exact .notAnswered position request choosing
        · exact .answers position request choosing
      · contradiction
  | nextRobotReceived reply =>
      simp only [step, nextRobotReceived] at taken
      split at taken
      next request robotPosition robotEndpoint answering =>
        cases taken
        exact .answered request robotPosition robotEndpoint reply answering
      · contradiction

end CpsKitchen.ControllerAgent
