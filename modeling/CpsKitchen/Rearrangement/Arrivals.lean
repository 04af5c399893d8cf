import CpsKitchen.Rearrangement.Joining

/-!
# Robots on their way into the map

A robot that is not in the map is as it came. It is on its way into the map at
most once, with the position it has. That stays so while the controller works
and while the robots do.
-/

namespace CpsKitchen.Rearrangement.Joining

open CpsKitchen.Reactive CpsKitchen.Recipes
open CpsKitchen.RobotAgent (Robot InPhase OneDriver Unadapted)
open CpsKitchen.ControllerAgent (Controller RemoteRobot Place Output Handler Worker Handles robotAt
  updateAt isRegistered isRobotPositionSwapping endpointAt setWorker takeHandler post completeSwap
  commitSecond isRegistered_updateAt pendingSwaps_updateAt swappingKey posted_updateAt
  running_updateAt handles_same)

set_option autoImplicit false

variable {config : Config} {k : Kitchen} {p after : Plant} {c later : Controller}
  {registered : Finset String} {stage : String → Stage} {outputs : List Output}

section Arrivals

theorem workerJoins_of_plain {worker : Worker} (plain : isRegistering worker = false) :
    WorkerJoins registered p worker := by
  cases worker with
  | initializingRobot | readingPendingCommit | resolvingMissedCommit => contradiction
  | _ => trivial

theorem connecting_of_plain {worker : Worker} (plain : isRegistering worker = false) :
    connecting worker = [] := by
  cases worker with
  | initializingRobot => contradiction
  | _ => rfl

theorem Arrivals.frame (arrivals : Arrivals config registered k)
    (robots : after.robots = k.plant.robots) (lastSwitch : after.lastSwitch = k.plant.lastSwitch)
    (joins : (joining after.controller).Sublist (joining k.plant.controller))
    (worker : WorkerJoins registered after after.controller.worker) :
    Arrivals config registered { k with plant := after } where
  served := arrivals.served
  known := arrivals.known
  outside := by
    simp only [robots]
    exact arrivals.outside
  untold := by
    simp only [lastSwitch]
    exact arrivals.untold
  once := arrivals.once.sublist (joins.map Prod.fst)
  coming := by
    intro entry member
    simp only [robots]
    exact arrivals.coming entry (joins.subset member)
  worker := worker

theorem Arrivals.connects (arrivals : Arrivals config registered k) {robot : RemoteRobot}
    {position : Position} (worker : k.plant.controller.worker = .initializingRobot robot position) :
    robot.endpoint ∈ k.announced ∧ robot.endpoint ∈ config.endpoints ∧
      robot.endpoint ∉ registered ∧ position = (k.plant.robots robot.endpoint).position := by
  refine arrivals.coming (robot.endpoint, position) ?_
  rw [joining, worker]
  exact List.mem_cons_self

theorem Arrivals.turns (arrivals : Arrivals config registered k)
    (plain : isRegistering k.plant.controller.worker = false)
    (robots : after.robots = k.plant.robots) (lastSwitch : after.lastSwitch = k.plant.lastSwitch)
    (stays : isRegistering after.controller.worker = false)
    (posted : after.controller.posted = k.plant.controller.posted) :
    Arrivals config registered { k with plant := after } := by
  refine arrivals.frame robots lastSwitch ?_ (workerJoins_of_plain stays)
  rw [joining, joining, connecting_of_plain plain, connecting_of_plain stays, posted]

theorem joining_post {handler : Handler} (plain : registration? handler = none) :
    joining (post c handler) = joining c := by
  simp [joining, post, plain]

theorem endpointAt_updateAt {change : RemoteRobot → RemoteRobot}
    (endpoint : ∀ robot, (change robot).endpoint = robot.endpoint) (place : Place)
    (position : Position) :
    endpointAt (updateAt c change place) position = endpointAt c position := by
  have served := servedAt_updateAt (c := c) endpoint place (.registered position)
  unfold endpointAt
  exact congrArg (Option.getD · "") served

theorem joining_updateAt {change : RemoteRobot → RemoteRobot}
    (endpoint : ∀ robot, (change robot).endpoint = robot.endpoint) (place : Place) :
    joining (updateAt c change place) = joining c := by
  have connects : connecting (updateAt c change place).worker = connecting c.worker := by
    cases place with
    | registered position => rfl
    | held =>
        unfold updateAt
        cases worker : c.worker with
        | initializingRobot robot position =>
            simp only [setWorker, connecting, endpoint]
        | committingFirst => rfl
        | _ => simp only [worker]
  rw [joining, joining, connects, posted_updateAt]

theorem WorkerJoins.congr {worker : Worker} (joins : WorkerJoins registered p worker)
    (present : ∀ position, isRegistered after.controller position ↔
      isRegistered p.controller position)
    (endpoints : ∀ position, endpointAt after.controller position =
      endpointAt p.controller position)
    (swaps : after.controller.pendingSwaps = p.controller.pendingSwaps)
    (robots : after.robots = p.robots)
    (notices : ∀ robot position, worker = .initializingRobot robot position →
      after.notices robot.endpoint = p.notices robot.endpoint) :
    WorkerJoins registered after worker := by
  cases worker with
  | initializingRobot robot position =>
      obtain ⟨same, running, noticed, absent, settled⟩ := joins
      refine ⟨same, running, (notices robot position rfl).trans noticed, ?_, ?_⟩
      · rw [present]
        exact absent
      · unfold isRobotPositionSwapping swappingKey at settled ⊢
        rw [swaps]
        exact settled
  | readingPendingCommit position =>
      simp only [WorkerJoins, endpoints, robots]
      exact joins
  | resolvingMissedCommit => exact joins
  | _ => trivial

theorem WorkerJoins.updates {worker : Worker} (joins : WorkerJoins registered p worker)
    {change : RemoteRobot → RemoteRobot}
    (endpoint : ∀ robot, (change robot).endpoint = robot.endpoint) (place : Place) :
    WorkerJoins registered { p with controller := updateAt p.controller change place } worker :=
  joins.congr (fun _ => isRegistered_updateAt) (endpointAt_updateAt endpoint place)
    (pendingSwaps_updateAt change place) rfl fun _ _ _ => rfl

theorem Arrivals.updates (arrivals : Arrivals config registered k)
    {change : RemoteRobot → RemoteRobot} (seen : ∀ robot, Seen robot (change robot))
    (endpoint : ∀ robot, (change robot).endpoint = robot.endpoint) (place : Place) :
    Arrivals config registered
      { k with
        plant := { k.plant with controller := updateAt k.plant.controller change place } } := by
  have joins := arrivals.worker.updates endpoint place
  refine arrivals.frame rfl rfl (by rw [joining_updateAt endpoint]) ?_
  cases place with
  | registered position => exact joins
  | held =>
      cases worker : k.plant.controller.worker with
      | initializingRobot robot position =>
          have later : (updateAt k.plant.controller change .held).worker =
              .initializingRobot (change robot) position := by
            simp only [updateAt, worker, setWorker]
          rw [worker] at joins
          obtain ⟨same, running, notices, absent, settled⟩ := joins
          simp only [later]
          refine ⟨(seen robot).position.trans same, (seen robot).running.trans running, ?_, absent,
            settled⟩
          rw [endpoint, initialNotice, (seen robot).subscription, (seen robot).position]
          exact notices
      | committingFirst key second position =>
          refine workerJoins_of_plain ?_
          simp only [updateAt, worker, setWorker, isRegistering]
      | _ =>
          have later : (updateAt k.plant.controller change .held).worker =
              k.plant.controller.worker := by
            simp only [updateAt, worker]
          simp only [later]
          exact joins

theorem Arrivals.posts (arrivals : Arrivals config registered k) {handler : Handler}
    (plain : registration? handler = none) :
    Arrivals config registered
      { k with plant := { k.plant with controller := post k.plant.controller handler } } :=
  arrivals.frame rfl rfl (by rw [joining_post plain]) arrivals.worker

theorem handles_plain {handler : Handler} (idle : c.worker = .betweenHandlers)
    (plain : isRegistration handler = false) (ran : Handles c handler later) :
    isRegistering later.worker = false := by
  have settled : isRegistering c.worker = false := by
    rw [idle]
    rfl
  cases ran with
  | registrationRefused | registrationStarts => contradiction
  | receiverUnknown | chooses => rfl
  | swapUnknown | acknowledged | reconfigured => exact settled
  | completes =>
      unfold completeSwap commitSecond
      simp only
      split
      · split <;> rfl
      · rfl

theorem subscribed_of_plain {event : Rearrangement.Event}
    (plain : isRegistering p.controller.worker = false) : subscribed p event = p := by
  unfold subscribed
  split
  · split
    next robot position initializing =>
      rw [initializing] at plain
      contradiction
    · rfl
  · rfl

theorem Arrivals.handles (arrivals : Arrivals config registered k)
    (coherent : Coherent (among config registered) (viewed config k.plant) stage)
    (idle : k.plant.controller.worker = .betweenHandlers) {handler : Handler}
    {posted : List Handler} (next : k.plant.controller.posted = handler :: posted)
    (ran : Handles (takeHandler k.plant.controller posted) handler later) :
    Arrivals config registered
      { k with
        plant := subscribed { k.plant with controller := later } (.controller .runHandler) } := by
  have clean := cleanUp_takes coherent idle posted
  have before : joining k.plant.controller = (handler :: posted).filterMap registration? := by
    rw [joining, idle, next]
    rfl
  cases registers : isRegistration handler with
  | false =>
      have taken : (takeHandler k.plant.controller posted).worker = .betweenHandlers := idle
      have plain := handles_plain taken registers ran
      obtain ⟨same, _⟩ := handles_same ran
      have unseen : subscribed { k.plant with controller := later } (.controller .runHandler) =
          { k.plant with controller := later } := subscribed_of_plain plain
      have notOne : registration? handler = none := by
        cases handler with
        | handleRobotRegistration => contradiction
        | _ => rfl
      rw [unseen]
      refine arrivals.frame rfl rfl ?_ (workerJoins_of_plain plain)
      rw [before, joining, connecting_of_plain plain, same]
      simp [takeHandler, notOne]
  | true =>
      cases ran with
      | registrationRefused endpoint position capabilities =>
          have plain : isRegistering (takeHandler k.plant.controller posted).worker = false := by
            simp only [takeHandler, idle, isRegistering]
          have unseen : subscribed
              { k.plant with controller := takeHandler k.plant.controller posted }
              (.controller .runHandler) =
                { k.plant with controller := takeHandler k.plant.controller posted } :=
            subscribed_of_plain plain
          rw [clean, unseen]
          refine arrivals.frame rfl rfl ?_ (workerJoins_of_plain plain)
          rw [before, joining, connecting_of_plain plain]
          exact (List.sublist_cons_self _ _).filterMap _
      | registrationStarts endpoint position capabilities settled free =>
          rw [clean] at settled free ⊢
          have member : (endpoint, position) ∈ joining k.plant.controller := by
            rw [before]
            exact List.mem_cons_self
          obtain ⟨_, inside, unregistered, here⟩ := arrivals.coming _ member
          obtain ⟨_, published⟩ := arrivals.outside endpoint inside unregistered
          refine arrivals.frame rfl rfl ?_ ⟨rfl, rfl, ?_, free, settled⟩
          · rw [before]
            exact List.Sublist.refl _
          · have notices : (subscribed
                { k.plant with
                  controller := setWorker (takeHandler k.plant.controller posted)
                    (.initializingRobot
                      (ControllerAgent.newRemoteRobot endpoint position capabilities) position) }
                (.controller .runHandler)).notices endpoint =
                  [(k.plant.robots endpoint).attributes.position] := Function.update_self _ _ _
            have isHere : position = (k.plant.robots endpoint).position := here
            refine notices.trans ?_
            rw [published, ← isHere]
            rfl
      | receiverUnknown | chooses | swapUnknown | acknowledged | completes | reconfigured =>
          contradiction

theorem internal_arrivals (arrivals : Arrivals config registered k)
    (coherent : Coherent (among config registered) (viewed config k.plant) stage)
    {event : ControllerAgent.Event} (internal : isInternal event = true)
    (step : ControllerAgent.Step config.controller k.plant.controller event later outputs) :
    Arrivals config registered
      { k with plant := subscribed { k.plant with controller := later } (.controller event) } := by
  have seen : ∀ (capabilities : Finset String) (robot : RemoteRobot), Seen robot
      { robot with capabilities := capabilities, initialCapabilitiesSubscription := false } :=
    fun _ _ => ⟨rfl, rfl, rfl, id⟩
  cases step with
  | registrationReceived | positionNoticed | positionChanged | robotStopped | robotRegistered
  | robotDropped | commitMissed | noCommitMissed | missedCommitted | firstCommitted
  | secondCommitted | notAvailable | firstAvailable | secondAvailable | robotAvailable
  | firstFailed | firstRefused | firstSwitches | onlySwitches | secondRefused | secondSwitches
  | reconfigurationInstructed => contradiction
  | requestReceived request => exact arrivals.posts rfl
  | capabilitiesNoticed place capabilities =>
      exact arrivals.updates (seen capabilities) (fun _ => rfl) place
  | capabilitiesChanged place capabilities =>
      exact (arrivals.updates (seen capabilities) (fun _ => rfl) place).posts rfl
  | receiverStopped receiver =>
      exact arrivals.frame rfl rfl (List.Sublist.refl _) arrivals.worker
  | handled handler posted idle next ran => exact arrivals.handles coherent idle next ran
  | adaptationRefused _ request choosing =>
      have plain : isRegistering k.plant.controller.worker = false := by
        rw [choosing]
        rfl
      rw [subscribed_of_plain plain]
      exact arrivals
  | receiverInitialized request succeeded initializing =>
      refine arrivals.turns ?_ rfl rfl rfl ?_
      · rw [initializing]
        rfl
      · cases succeeded <;> rfl
  | swapChecked _ _ _ choosing | reconfigurationChecked _ _ _ choosing
  | notAnswered _ _ choosing | answers _ _ choosing =>
      refine arrivals.turns ?_ rfl rfl rfl rfl
      rw [choosing]
      rfl
  | answered request robotPosition robotEndpoint reply answering =>
      refine arrivals.turns ?_ rfl rfl rfl ?_
      · rw [answering]
        rfl
      · cases reply <;> rfl

/-- Only a refusal stops the controller. -/
theorem internal_running {event : ControllerAgent.Event} (internal : isInternal event = true)
    (step : ControllerAgent.Step config.controller c event later outputs) :
    later.running = c.running := by
  cases step with
  | registrationReceived | positionNoticed | positionChanged | robotStopped | robotRegistered
  | robotDropped | commitMissed | noCommitMissed | missedCommitted | firstCommitted
  | secondCommitted | notAvailable | firstAvailable | secondAvailable | robotAvailable
  | firstFailed | firstRefused | firstSwitches | onlySwitches | secondRefused | secondSwitches
  | reconfigurationInstructed => contradiction
  | requestReceived | receiverStopped | adaptationRefused | swapChecked | reconfigurationChecked
  | notAnswered | answers => rfl
  | capabilitiesNoticed place | capabilitiesChanged place => exact running_updateAt _ place
  | handled handler posted idle next ran => exact (handles_same ran).2
  | receiverInitialized request succeeded => cases succeeded <;> rfl
  | answered _ _ _ reply => cases reply <;> rfl

end Arrivals

section Joined

/-- The robots in the map are coherent, the others are on their way. -/
structure Joined (config : Config) (registered : Finset String) (k : Kitchen)
    (stage : String → Stage) : Prop where
  coherent : Coherent (among config registered) (viewed config k.plant) stage
  arrivals : Arrivals config registered k
  running : k.plant.controller.running = true

theorem internal_joined (joined : Joined config registered k stage)
    {event : ControllerAgent.Event} (internal : isInternal event = true)
    (step : ControllerAgent.Step config.controller k.plant.controller event later outputs) :
    ∃ stage, Joined config registered
      { k with plant := subscribed { k.plant with controller := later } (.controller event) }
      stage := by
  have arrivals := internal_arrivals joined.arrivals joined.coherent internal step
  obtain ⟨next, coherent⟩ := internal_viewed joined.coherent internal step
  have same : ∀ p : Plant, (subscribed p (.controller event)).controller = p.controller ∧
      (subscribed p (.controller event)).robots = p.robots ∧
      (subscribed p (.controller event)).lastSwitch = p.lastSwitch ∧
      ∀ endpoint, (∀ robot position, p.controller.worker = .initializingRobot robot position →
        endpoint ≠ robot.endpoint) →
          (subscribed p (.controller event)).notices endpoint = p.notices endpoint := by
    intro p
    unfold subscribed
    split
    · split
      next robot position initializing =>
        refine ⟨rfl, rfl, rfl, ?_⟩
        intro endpoint other
        exact Function.update_of_ne (other robot position initializing) _ _
      · exact ⟨rfl, rfl, rfl, fun _ _ => rfl⟩
    · exact ⟨rfl, rfl, rfl, fun _ _ => rfl⟩
  obtain ⟨controller, robots, lastSwitch, notices⟩ := same { k.plant with controller := later }
  refine ⟨next, ?_, arrivals, ?_⟩
  · refine coherent_elsewhere coherent ?_ ?_
    · simp only [viewed, controller]
    · intro endpoint member
      refine ⟨congrFun robots endpoint, notices endpoint ?_, congrFun lastSwitch endpoint⟩
      intro robot position initializing same
      have worker : (subscribed { k.plant with controller := later }
          (.controller event)).controller.worker = .initializingRobot robot position := by
        rw [controller]
        exact initializing
      obtain ⟨_, _, outside, _⟩ := arrivals.connects worker
      rw [same] at member
      exact outside member
  · simp only [controller]
    exact (internal_running internal step).trans joined.running

theorem unadapted_stays {r robot : Robot} {robotConfig : RobotAgent.Config}
    {event : RobotAgent.Event} {told : List RobotAgent.Output} (unadapted : Unadapted r)
    (own : event.isAdaptation = false) (step : RobotAgent.Step robotConfig r event robot told) :
    robot.position = r.position ∧ RobotAgent.writesPosition r event = false := by
  have settled : InPhase r .settled := by simp [InPhase, unadapted.available]
  obtain ⟨next, _, travels⟩ :=
    RobotAgent.step_travels unadapted.toOneDriver settled own step
  cases travels with
  | stays _ position _ silent => exact ⟨position, silent⟩

theorem robotActs_cases {endpoint : String} {event : RobotAgent.Event}
    (acts : robotActs config p endpoint event = some after) :
    ∃ robot told, RobotAgent.step (config.robotAt endpoint) (p.robots endpoint) event =
        some (robot, told) ∧
      after =
        { p with
          robots := Function.update p.robots endpoint robot
          notices :=
            if RobotAgent.writesPosition (p.robots endpoint) event then
              Function.update p.notices endpoint
                (p.notices endpoint ++ [robot.attributes.position])
            else p.notices } := by
  unfold robotActs at acts
  split at acts
  · contradiction
  next robot told taken =>
    cases acts
    exact ⟨robot, told, taken, rfl⟩

/-- A robot's own step. What is known of a new robot stays true of it. -/
theorem Arrivals.acts (arrivals : Arrivals config registered k) {endpoint : String}
    {event : RobotAgent.Event} {robot : Robot} {told : List RobotAgent.Output}
    {notices : String → List Position} (member : endpoint ∈ config.endpoints)
    (own : event.isAdaptation = false) (one : OneDriver (k.plant.robots endpoint))
    (step : RobotAgent.Step (config.robotAt endpoint) (k.plant.robots endpoint) event robot told)
    (silent : ∀ other, other ∉ registered → notices other = k.plant.notices other) :
    Arrivals config registered
      { k with
        plant := { k.plant with
          robots := Function.update k.plant.robots endpoint robot
          notices := notices } } where
  served := arrivals.served
  known := arrivals.known
  outside := by
    intro other inside outside
    obtain ⟨unadapted, published⟩ := arrivals.outside other inside outside
    by_cases here : other = endpoint
    · subst here
      simp only [Function.update_self]
      exact ⟨RobotAgent.step_unadapted unadapted own step,
        RobotAgent.step_published published step⟩
    · simp only [Function.update_of_ne here]
      exact ⟨unadapted, published⟩
  untold := arrivals.untold
  once := arrivals.once
  coming := by
    intro entry coming
    obtain ⟨announced, inside, outside, position⟩ := arrivals.coming entry coming
    refine ⟨announced, inside, outside, ?_⟩
    by_cases here : entry.1 = endpoint
    · simp only [here, Function.update_self]
      rw [here] at inside outside position
      have stays := unadapted_stays (arrivals.outside endpoint inside outside).1 own step
      exact position.trans stays.1.symm
    · simp only [Function.update_of_ne here]
      exact position
  worker := by
    have joins := arrivals.worker
    cases worker : k.plant.controller.worker with
    | initializingRobot remote position =>
        obtain ⟨_, _, outside, _⟩ := arrivals.connects worker
        rw [worker] at joins
        obtain ⟨same, running, noticed, absent, settled⟩ := joins
        exact ⟨same, running, (silent _ outside).trans noticed, absent, settled⟩
    | readingPendingCommit position =>
        rw [worker] at joins
        obtain ⟨inside, available⟩ := joins
        refine ⟨inside, ?_⟩
        by_cases here : endpointAt k.plant.controller position = endpoint
        · simp only [here, Function.update_self]
          rw [here] at available
          exact RobotAgent.step_available one available own step
        · simp only [Function.update_of_ne here]
          exact available
    | resolvingMissedCommit position =>
        rw [worker] at joins
        exact joins
    | _ => trivial

theorem robot_joined (joined : Joined config registered k stage) {endpoint : String}
    {event : RobotAgent.Event} (member : endpoint ∈ config.endpoints)
    (own : event.isAdaptation = false)
    (acts : robotActs config k.plant endpoint event = some after) :
    ∃ stage, Joined config registered { k with plant := after } stage := by
  obtain ⟨robot, told, taken, rfl⟩ := robotActs_cases acts
  have step := (RobotAgent.step_cases taken).2
  have arrivals := joined.arrivals
  by_cases inside : endpoint ∈ registered
  · have seen : robotActs (among config registered) (viewed config k.plant) endpoint event = some
        (viewed config
          { k.plant with
            robots := Function.update k.plant.robots endpoint robot
            notices :=
              if RobotAgent.writesPosition (k.plant.robots endpoint) event then
                Function.update k.plant.notices endpoint
                  (k.plant.notices endpoint ++ [robot.attributes.position])
              else k.plant.notices }) := by
      have same : RobotAgent.step ((among config registered).robotAt endpoint)
          ((viewed config k.plant).robots endpoint) event = some (robot, told) := taken
      unfold robotActs
      rw [same]
      rfl
    obtain ⟨next, coherent⟩ := robot_coherent joined.coherent inside own seen
    refine ⟨next, coherent, ?_, joined.running⟩
    refine arrivals.acts member own (joined.coherent.oneDriver endpoint inside) step ?_
    intro other outside
    have apart : other ≠ endpoint := by
      rintro rfl
      exact outside inside
    split
    · exact Function.update_of_ne apart _ _
    · rfl
  · have unadapted := (arrivals.outside endpoint member inside).1
    have silent := (unadapted_stays unadapted own step).2
    simp only [silent]
    refine ⟨stage, ?_, ?_, joined.running⟩
    · refine coherent_elsewhere joined.coherent rfl ?_
      intro other isIn
      have apart : other ≠ endpoint := by
        rintro rfl
        exact inside isIn
      exact ⟨Function.update_of_ne apart _ _, rfl, rfl⟩
    · exact arrivals.acts member own unadapted.toOneDriver step fun _ _ => rfl

def received (c : Controller) (place : Place) (remote : RemoteRobot) (position : Position) :
    Controller :=
  if remote.initialPositionSubscription then updateAt c (noticed position) place
  else post (updateAt c (noticed position) place) (.positionSwapped remote.position position)

theorem notify_cases {endpoint : String} {place : Place}
    (acts : notify config p endpoint place = some (after, outputs)) :
    ∃ position notices remote, p.notices endpoint = position :: notices ∧
      robotAt p.controller place = some remote ∧ remote.endpoint = endpoint ∧ outputs = [] ∧
      after = { p with
        notices := Function.update p.notices endpoint notices
        controller := received p.controller place remote position } := by
  unfold notify at acts
  split at acts
  next position notices served travelling here =>
    split at acts
    next same =>
      obtain ⟨remote, found, isHere⟩ := Option.map_eq_some_iff.mp here
      unfold controllerActs at acts
      split at acts
      · contradiction
      next later told ran =>
        cases acts
        obtain ⟨_, changed, isLater⟩ := Option.map_eq_some_iff.mp ran
        cases isLater
        have eq := positionChanged_eq found position
        refine ⟨position, notices, remote, travelling, found, isHere.trans same, rfl, ?_⟩
        rw [received, ← Option.some.inj (changed.symm.trans eq)]
    · contradiction
  · contradiction

theorem robotAt_view {place : Place} (shown : Shown c place) :
    robotAt (view config c) place = robotAt c place := by
  cases place with
  | registered position => rfl
  | held =>
      have shown := shown rfl
      unfold robotAt
      rw [view_worker, settledWorker]
      cases worker : c.worker with
      | initializingRobot robot position => exact absurd worker (shown robot position)
      | checkingFirst request fromPosition toPosition
      | checkingSecond request fromPosition toPosition
      | switchingFirst request fromPosition toPosition =>
          by_cases targets : Targets config c fromPosition toPosition
          · simp only [if_pos targets]
          · simp only [if_neg targets]
      | _ => rfl

theorem view_received {place : Place} (shown : Shown c place) (remote : RemoteRobot)
    (position : Position) : view config (received c place remote position) =
      received (view config c) place remote position := by
  unfold received
  split
  · exact view_updateAt shown _
  · rw [view_post rfl, view_updateAt shown]

theorem controllerActs_of {event : ControllerAgent.Event}
    (ran : ControllerAgent.step config.controller p.controller event = some (later, outputs)) :
    controllerActs config p event = some ({ p with controller := later }, outputs) := by
  unfold controllerActs
  rw [ran]

theorem notify_viewed (registered : Finset String) {endpoint : String} {place : Place}
    {position : Position}
    {notices : List Position} {remote : RemoteRobot}
    (travelling : p.notices endpoint = position :: notices)
    (found : robotAt (view config p.controller) place = some remote)
    (same : remote.endpoint = endpoint) :
    notify (among config registered) (viewed config p) endpoint place = some
      ({ viewed config p with
        notices := Function.update p.notices endpoint notices
        controller := received (view config p.controller) place remote position }, []) := by
  have changed := positionChanged_eq found position
  have travels : (viewed config p).notices endpoint = position :: notices := travelling
  have here : (robotAt (viewed config p).controller place).map RemoteRobot.endpoint =
      some endpoint := by
    have found : robotAt (viewed config p).controller place = some remote := found
    rw [found, ← same]
    rfl
  have ran : ControllerAgent.step (among config registered).controller
      (view config p.controller) (.positionChanged place position) =
        some (received (view config p.controller) place remote position, []) := by
    simp only [ControllerAgent.step, changed, Option.map_some]
    rfl
  unfold notify
  rw [travels, here]
  simp only [if_true]
  exact controllerActs_of ran

theorem received_frame (place : Place) (remote : RemoteRobot) (position : Position) :
    joining (received c place remote position) = joining c ∧
      (received c place remote position).running = c.running := by
  have running := running_updateAt (c := c) (noticed position) place
  have joins : joining (updateAt c (noticed position) place) = joining c := by
    refine joining_updateAt ?_ place
    exact fun _ => rfl
  unfold received
  split
  · exact ⟨joins, running⟩
  · exact ⟨(joining_post rfl).trans joins, running⟩

theorem worker_updateAt {place : Place} (shown : Shown c place)
    (change : RemoteRobot → RemoteRobot) :
    (updateAt c change place).worker = c.worker ∨
      isRegistering (updateAt c change place).worker = false := by
  cases place with
  | registered position => exact .inl rfl
  | held =>
      unfold updateAt
      cases worker : c.worker with
      | initializingRobot robot position => exact absurd worker (shown rfl robot position)
      | committingFirst => exact .inr rfl
      | _ =>
          left
          simp only [worker]

theorem received_same {View : Type*} (read : Controller → View)
    (posts : ∀ c handler, read (post c handler) = read c) (place : Place) (remote : RemoteRobot)
    (position : Position) :
    read (received c place remote position) = read (updateAt c (noticed position) place) := by
  unfold received
  split
  · rfl
  · exact posts _ _

theorem Arrivals.receives (arrivals : Arrivals config registered k) {endpoint : String}
    (inside : endpoint ∈ registered) {place : Place} (shown : Shown k.plant.controller place)
    (notices : List Position) (remote : RemoteRobot) (position : Position) :
    Arrivals config registered
      { k with
        plant := { k.plant with
          notices := Function.update k.plant.notices endpoint notices
          controller := received k.plant.controller place remote position } } := by
  obtain ⟨joins, _⟩ := received_frame (c := k.plant.controller) place remote position
  refine arrivals.frame rfl rfl (by rw [joins]) ?_
  simp only [received_same Controller.worker fun _ _ => rfl]
  rcases worker_updateAt shown (noticed position) with same | plain
  · rw [same]
    refine arrivals.worker.congr ?_ ?_ ?_ rfl ?_
    · intro other
      rw [received_same (isRegistered · other) fun _ _ => rfl]
      exact isRegistered_updateAt
    · intro other
      rw [received_same (endpointAt · other) fun _ _ => rfl]
      refine endpointAt_updateAt ?_ place other
      exact fun _ => rfl
    · rw [received_same Controller.pendingSwaps fun _ _ => rfl]
      exact pendingSwaps_updateAt _ place
    · intro robot there worker
      obtain ⟨_, _, outside, _⟩ := arrivals.connects worker
      refine Function.update_of_ne ?_ _ _
      intro same
      rw [same] at outside
      exact outside inside
  · exact workerJoins_of_plain plain

theorem notify_joined (joined : Joined config registered k stage) {endpoint : String}
    {place : Place} (acts : notify config k.plant endpoint place = some (after, outputs)) :
    outputs = [] ∧ ∃ stage, Joined config registered { k with plant := after } stage := by
  obtain ⟨position, notices, remote, travelling, found, same, rfl, rfl⟩ := notify_cases acts
  refine ⟨rfl, ?_⟩
  obtain ⟨joins, running⟩ := received_frame (c := k.plant.controller) place remote position
  have arrivals := joined.arrivals
  by_cases shown : Shown k.plant.controller place
  · have here : robotAt (view config k.plant.controller) place = some remote := by
      rw [robotAt_view shown]
      exact found
    have sees := notify_viewed registered travelling here same
    rw [← view_received shown] at sees
    obtain ⟨_, next, coherent⟩ := notify_coherent joined.coherent sees
    have inside : endpoint ∈ registered := by
      have served : servedAt (view config k.plant.controller) place = some endpoint := by
        rw [servedAt, here, ← same]
        rfl
      exact ((joined.coherent.agrees.served _ _).mp served).1
    exact ⟨next, coherent, arrivals.receives inside shown notices remote position,
      running.trans joined.running⟩
  · obtain ⟨rfl, robot, there, worker⟩ := not_shown shown
    have isRobot : robot = remote := by
      rw [robotAt, worker] at found
      exact Option.some.inj found
    subst isRobot
    have joinsNow := arrivals.worker
    rw [worker] at joinsNow
    obtain ⟨isThere, runs, travels, absent, settled⟩ := joinsNow
    rw [same, travelling] at travels
    have initial : robot.initialPositionSubscription = true := by
      by_contra subscribed
      rw [initialNotice, if_neg subscribed] at travels
      contradiction
    rw [initialNotice, if_pos initial, List.cons.injEq] at travels
    obtain ⟨rfl, rfl⟩ := travels
    have later : received k.plant.controller .held robot robot.position =
        setWorker k.plant.controller
          (.initializingRobot (noticed robot.position robot) there) := by
      rw [received, if_pos initial, updateAt, worker]
    obtain ⟨_, _, outside, _⟩ := arrivals.connects worker
    rw [same] at outside
    refine ⟨stage, ?_, ?_, running.trans joined.running⟩
    · refine coherent_elsewhere joined.coherent ?_ ?_
      · have unseen : view config (received k.plant.controller .held robot robot.position) =
            view config k.plant.controller := by
          rw [received, if_pos initial]
          exact view_updateAt_held worker _
        exact unseen
      · intro other isIn
        have apart : other ≠ endpoint := by
          rintro rfl
          exact outside isIn
        exact ⟨rfl, Function.update_of_ne apart _ _, rfl⟩
    · refine arrivals.frame rfl rfl (by rw [joins]) ?_
      simp only [later]
      refine ⟨isThere, runs, ?_, absent, settled⟩
      have isHere : (noticed robot.position robot).endpoint = endpoint := same
      rw [isHere]
      exact Function.update_self _ _ _

end Joined

end CpsKitchen.Rearrangement.Joining
