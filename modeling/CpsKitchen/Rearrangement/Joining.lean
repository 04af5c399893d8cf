import CpsKitchen.Rearrangement.Protocol

/-!
# Robots that register while others swap

The controller starts without a robot. A robot calls `register_robot` once,
the worker connects to it and puts it into the map. Up to then nobody tells it
to adapt, so the robots that are in the map, with the controller as it is to
them, are coherent.
-/

namespace CpsKitchen.Rearrangement.Joining

open CpsKitchen.Reactive CpsKitchen.Recipes
open CpsKitchen.RobotAgent (Unadapted Published)
open CpsKitchen.ControllerAgent (Controller RemoteRobot Place Output Handler Worker Handles updateAt
  findRobot isRegistered isRobotPositionSwapping endpointAt setWorker takeHandler post cleanUp
  completeSwap commitSecond Request SwapKey isRegistered_updateAt)

set_option autoImplicit false

structure Kitchen where
  plant : Plant
  /-- The robots that have called `register_robot`. -/
  announced : Finset String

inductive Event
  | plant (event : Rearrangement.Event)
  /-- A robot calls `register_robot`. -/
  | registerRobot (endpoint : String)
  /-- The client of the new remote robot is connected. -/
  | robotInitialized
  /-- The next call of `resolve_missed_new_position_commit`. -/
  | resolveMissedCommit
  deriving DecidableEq

section Steps

variable (config : Config)

/-- The subscription to `POSITION` starts with the value it has. -/
def subscribed (p : Plant) : Rearrangement.Event → Plant
  | .controller .runHandler =>
      match p.controller.worker with
      | .initializingRobot robot _ =>
          { p with
            notices := Function.update p.notices robot.endpoint
              [(p.robots robot.endpoint).attributes.position] }
      | _ => p
  | _ => p

/-- The worker reads whether a commit is pending, and makes up for it. -/
def resolveMissedCommit (p : Plant) : Option (Plant × List Output) :=
  match p.controller.worker with
  | .readingPendingCommit position =>
      let robot := p.robots (endpointAt p.controller position)
      if robot.running then
        controllerActs config p
          (.pendingCommitRead (some robot.attributes.newPositionCommitIsPending))
      else none
  | .resolvingMissedCommit position =>
      let endpoint := endpointAt p.controller position
      match answer (config.robotAt endpoint) (p.robots endpoint) .commitNewPosition with
      | none => none
      | some (robot, reply) =>
          controllerActs config { p with robots := Function.update p.robots endpoint robot }
            (.newPositionCommitted (some reply))
  | _ => none

def step (k : Kitchen) : Event → Option (Kitchen × List Output)
  | .plant event =>
      (Rearrangement.step config k.plant event).map fun result =>
        ({ k with plant := subscribed result.1 event }, result.2)
  | .registerRobot endpoint =>
      if endpoint ∈ config.endpoints ∧ endpoint ∉ k.announced then
        let robot := k.plant.robots endpoint
        (controllerActs config k.plant
          (.registerRobot endpoint robot.position robot.attributes.capabilities)).map fun result =>
            (⟨result.1, insert endpoint k.announced⟩, result.2)
      else none
  | .robotInitialized =>
      (controllerActs config k.plant (.robotInitialized true)).map fun result =>
        ({ k with plant := result.1 }, result.2)
  | .resolveMissedCommit =>
      (resolveMissedCommit config k.plant).map fun result =>
        ({ k with plant := result.1 }, result.2)

end Steps

/-- Nobody has registered yet. -/
structure Unregistered (config : Config) (k : Kitchen) : Prop where
  controller : k.plant.controller = ControllerAgent.initial
  robots : ∀ endpoint ∈ config.endpoints,
    RobotAgent.Started (config.robotAt endpoint) (k.plant.robots endpoint)
  lastSwitch : ∀ endpoint, k.plant.lastSwitch endpoint = none
  announced : k.announced = ∅

def machine (config : Config) : Machine Kitchen Event Output where
  start := Unregistered config
  step := step config

instance (config : Config) (c : Controller) (fromPosition toPosition : Position) :
    Decidable (Targets config c fromPosition toPosition) :=
  inferInstanceAs (Decidable (_ ∧ (_ → _)))

/-- The first robot of a swap is told to switch with the targets on the belt. -/
def SwitchesOnBelt (config : Config) (k : Kitchen) : Event → Prop
  | .plant .call =>
      match k.plant.controller.worker with
      | .switchingFirst _ fromPosition toPosition =>
          Targets config k.plant.controller fromPosition toPosition
      | _ => True
  | _ => True

instance (config : Config) (k : Kitchen) (event : Event) :
    Decidable (SwitchesOnBelt config k event) := by
  unfold SwitchesOnBelt
  split
  · split <;> infer_instance
  · infer_instance

/-- The kitchen with the robots that are in the map. -/
def among (config : Config) (registered : Finset String) : Config :=
  { config with endpoints := registered }

section Views

/-- The worker where nothing has happened to the robots in the map: it gets to
know a new one, or it has only read what robots it will ask in vain. -/
def settledWorker (config : Config) (c : Controller) : Worker :=
  match c.worker with
  | .initializingRobot _ _ | .readingPendingCommit _ | .resolvingMissedCommit _ =>
      .betweenHandlers
  | .checkingFirst request fromPosition toPosition
  | .checkingSecond request fromPosition toPosition
  | .switchingFirst request fromPosition toPosition =>
      if Targets config c fromPosition toPosition then c.worker else .choosing request
  | worker => worker

def withoutRegistrations (c : Controller) : Controller :=
  { c with posted := c.posted.filter fun handler => !isRegistration handler }

/-- The controller as it is to the robots in the map. -/
def view (config : Config) (c : Controller) : Controller :=
  setWorker (withoutRegistrations c) (settledWorker config c)

def viewed (config : Config) (p : Plant) : Plant :=
  { p with controller := view config p.controller }

def registration? : Handler → Option (String × Position)
  | .handleRobotRegistration endpoint position _ => some (endpoint, position)
  | _ => none

def connecting : Worker → List (String × Position)
  | .initializingRobot robot position => [(robot.endpoint, position)]
  | _ => []

def joining (c : Controller) : List (String × Position) :=
  connecting c.worker ++ c.posted.filterMap registration?

/-- What is known of the robot that the worker connects to or has just put into
the map. -/
def WorkerJoins (registered : Finset String) (p : Plant) : Worker → Prop
  | .initializingRobot robot position =>
      robot.position = position ∧ robot.running = true ∧
        p.notices robot.endpoint = initialNotice robot ∧ ¬ isRegistered p.controller position ∧
        ¬ isRobotPositionSwapping p.controller position
  | .readingPendingCommit position =>
      endpointAt p.controller position ∈ registered ∧
        (p.robots (endpointAt p.controller position)).robotState = .available
  | .resolvingMissedCommit _ => False
  | _ => True

/-- The robots that are not in the map are as they came, and each is on its way
into the map at most once. -/
structure Arrivals (config : Config) (registered : Finset String) (k : Kitchen) : Prop where
  served : registered ⊆ config.endpoints
  known : registered ⊆ k.announced
  outside : ∀ endpoint ∈ config.endpoints, endpoint ∉ registered →
    Unadapted (k.plant.robots endpoint) ∧ Published (k.plant.robots endpoint)
  untold : ∀ endpoint ∉ registered, k.plant.lastSwitch endpoint = none
  once : ((joining k.plant.controller).map Prod.fst).Nodup
  coming : ∀ entry ∈ joining k.plant.controller, entry.1 ∈ k.announced ∧
    entry.1 ∈ config.endpoints ∧ entry.1 ∉ registered ∧
    entry.2 = (k.plant.robots entry.1).position
  worker : WorkerJoins registered k.plant k.plant.controller.worker

end Views

variable {config : Config} {k : Kitchen} {p after : Plant} {c later : Controller}
  {registered : Finset String} {stage : String → Stage} {outputs : List Output}

section Settled

def isRegistering : Worker → Bool
  | .initializingRobot _ _ | .readingPendingCommit _ | .resolvingMissedCommit _ => true
  | _ => false

def checkedSwap : Worker → Option (Request × Position × Position)
  | .checkingFirst request fromPosition toPosition
  | .checkingSecond request fromPosition toPosition
  | .switchingFirst request fromPosition toPosition =>
      some (request, fromPosition, toPosition)
  | _ => none

theorem settledWorker_eq (settled : isRegistering c.worker = false)
    (targets : ∀ request fromPosition toPosition,
      checkedSwap c.worker = some (request, fromPosition, toPosition) →
        Targets config c fromPosition toPosition) : settledWorker config c = c.worker := by
  unfold settledWorker
  cases worker : c.worker with
  | initializingRobot | readingPendingCommit | resolvingMissedCommit =>
      rw [worker] at settled
      contradiction
  | checkingFirst request fromPosition toPosition
  | checkingSecond request fromPosition toPosition
  | switchingFirst request fromPosition toPosition =>
      exact if_pos (targets request fromPosition toPosition (by rw [worker, checkedSwap]))
  | _ => rfl

theorem settledWorker_checking {request : Request} {fromPosition toPosition : Position}
    (checking : checkedSwap c.worker = some (request, fromPosition, toPosition))
    (vain : ¬ Targets config c fromPosition toPosition) :
    settledWorker config c = .choosing request := by
  unfold settledWorker
  cases worker : c.worker with
  | checkingFirst | checkingSecond | switchingFirst =>
      rw [worker] at checking
      cases checking
      exact if_neg vain
  | _ =>
      rw [worker] at checking
      contradiction

/-- The worker is seen to do something else only where it checks in vain. -/
theorem checked_of_unsettled (plain : isRegistering c.worker = false)
    (unsettled : settledWorker config c ≠ c.worker) :
    ∃ request fromPosition toPosition,
      checkedSwap c.worker = some (request, fromPosition, toPosition) ∧
        ¬ Targets config c fromPosition toPosition := by
  by_contra none
  push Not at none
  exact unsettled (settledWorker_eq plain none)

theorem targets_congr {after : Controller}
    (registered : ∀ position, isRegistered after position ↔ isRegistered c position)
    (fromPosition toPosition : Position) :
    Targets config after fromPosition toPosition ↔ Targets config c fromPosition toPosition := by
  unfold Targets
  rw [registered]

theorem settledWorker_congr {after : Controller} (worker : after.worker = c.worker)
    (registered : ∀ position, isRegistered after position ↔ isRegistered c position) :
    settledWorker config after = settledWorker config c := by
  unfold settledWorker
  rw [worker]
  cases c.worker with
  | checkingFirst request fromPosition toPosition
  | checkingSecond request fromPosition toPosition
  | switchingFirst request fromPosition toPosition =>
      exact if_congr (targets_congr registered fromPosition toPosition) rfl rfl
  | _ => rfl

theorem view_setWorker {worker : Worker}
    (same : settledWorker config (setWorker c worker) = settledWorker config c) :
    view config (setWorker c worker) = view config c := by
  rw [view, view, same]
  rfl

theorem view_post {handler : Handler} (plain : isRegistration handler = false) :
    view config (post c handler) = post (view config c) handler := by
  have settled : settledWorker config (post c handler) = settledWorker config c :=
    settledWorker_congr rfl fun _ => Iff.rfl
  simp only [view, settled]
  simp [withoutRegistrations, post, setWorker, plain]

/-- The robot at a place is in the map or about to return to it. -/
def Shown (c : Controller) (place : Place) : Prop :=
  place = .held → ∀ robot position, c.worker ≠ .initializingRobot robot position

theorem view_updateAt {place : Place} (shown : Shown c place)
    (change : RemoteRobot → RemoteRobot) :
    view config (updateAt c change place) = updateAt (view config c) change place := by
  cases place with
  | registered position =>
      have settled : settledWorker config (updateAt c change (.registered position)) =
          settledWorker config c :=
        settledWorker_congr rfl fun _ => isRegistered_updateAt
      rw [view, settled]
      rfl
  | held =>
      have shown := shown rfl
      cases worker : c.worker with
      | initializingRobot robot position => exact absurd worker (shown robot position)
      | committingFirst key second position =>
          simp only [view, settledWorker, updateAt, worker, setWorker]
          rfl
      | checkingFirst | checkingSecond | switchingFirst =>
          simp only [view, settledWorker, updateAt, worker, setWorker]
          split <;> rfl
      | _ => simp only [view, settledWorker, updateAt, worker, setWorker]

theorem view_updateAt_held {robot : RemoteRobot} {position : Position}
    (worker : c.worker = .initializingRobot robot position)
    (change : RemoteRobot → RemoteRobot) :
    view config (updateAt c change .held) = view config c := by
  simp only [view, settledWorker, updateAt, worker, setWorker]
  rfl

theorem not_shown {place : Place} (hidden : ¬ Shown c place) :
    place = .held ∧ ∃ robot position, c.worker = .initializingRobot robot position := by
  unfold Shown at hidden
  push Not at hidden
  exact hidden

theorem view_worker : (view config c).worker = settledWorker config c := rfl

theorem view_completeSwap (key : SwapKey) :
    view config (completeSwap c key) = completeSwap (view config c) key := by
  have commits : ∀ (c : Controller) (second : Option RemoteRobot),
      view config (commitSecond c key second) =
        commitSecond (withoutRegistrations c) key second := by
    intro c second
    cases second with
    | none => rfl
    | some second => rfl
  have robots : ∀ position, findRobot (view config c) position = findRobot c position :=
    fun _ => rfl
  unfold completeSwap
  simp only [robots]
  cases findRobot c key.1 with
  | none =>
      rw [commits]
      cases findRobot c key.2 with
      | none => rfl
      | some second => rfl
  | some first => rfl

theorem view_handles (config : Config) (idle : c.worker = .betweenHandlers) {handler : Handler}
    {posted : List Handler} (next : c.posted = handler :: posted)
    (plain : isRegistration handler = false) (ran : Handles (takeHandler c posted) handler later) :
    (view config c).worker = .betweenHandlers ∧
      ∃ left, (view config c).posted = handler :: left ∧
        Handles (takeHandler (view config c) left) handler (view config later) := by
  obtain ⟨robots, swaps, receivers, count, running, waiting, worker⟩ := c
  have idle : worker = .betweenHandlers := idle
  have next : waiting = handler :: posted := next
  subst idle next
  refine ⟨rfl, posted.filter fun handler => !isRegistration handler, ?_, ?_⟩
  · simp [view, withoutRegistrations, setWorker, plain]
  · cases ran with
    | registrationRefused | registrationStarts => contradiction
    | receiverUnknown request => exact .receiverUnknown request
    | chooses request => exact .chooses request
    | swapUnknown oldPosition newPosition unknown =>
        exact .swapUnknown oldPosition newPosition unknown
    | acknowledged oldPosition newPosition swap found open_ =>
        exact .acknowledged oldPosition newPosition swap found open_
    | completes oldPosition newPosition swap found both =>
        rw [view_completeSwap]
        exact .completes oldPosition newPosition swap found both
    | reconfigured robotPosition => exact .reconfigured robotPosition

end Settled

section Internal

theorem coherent_elsewhere (coherent : Coherent config p stage)
    (controller : after.controller = p.controller)
    (same : ∀ endpoint ∈ config.endpoints, after.robots endpoint = p.robots endpoint ∧
      after.notices endpoint = p.notices endpoint ∧
        after.lastSwitch endpoint = p.lastSwitch endpoint) : Coherent config after stage where
  agrees := by
    rw [controller]
    exact coherent.agrees
  unfinished := by
    rw [controller]
    exact coherent.unfinished
  oneDriver := by
    intro endpoint member
    rw [(same endpoint member).1]
    exact coherent.oneDriver endpoint member
  follows := by
    intro endpoint member remote found
    obtain ⟨robot, notices, last⟩ := same endpoint member
    rw [controller] at found
    rw [robot, notices, last]
    exact coherent.follows endpoint member remote found
  ready := by
    intro position readied endpoint member place
    rw [controller] at readied
    rw [(same endpoint member).1]
    exact coherent.ready position readied endpoint member place

theorem view_takes {handler : Handler} {posted : List Handler}
    (next : c.posted = handler :: posted) (registers : isRegistration handler = true) :
    view config (takeHandler c posted) = view config c := by
  have settled : settledWorker config (takeHandler c posted) = settledWorker config c := rfl
  rw [view, settled]
  simp [view, withoutRegistrations, takeHandler, setWorker, next, registers]

theorem cleanUp_takes (coherent : Coherent (among config registered) (viewed config p) stage)
    (idle : p.controller.worker = .betweenHandlers) (posted : List Handler) :
    cleanUp (takeHandler p.controller posted) = takeHandler p.controller posted := by
  have seenIdle : (viewed config p).controller.worker = .betweenHandlers := by
    simp [viewed, view, setWorker, settledWorker, idle]
  have clean := coherent.cleanUp_eq seenIdle []
  have cleaned : cleanUp (takeHandler p.controller posted) =
      { takeHandler p.controller posted with
        positionRemoteRobotMap :=
          (cleanUp (takeHandler (viewed config p).controller [])).positionRemoteRobotMap
        pendingSwaps := (cleanUp (takeHandler (viewed config p).controller [])).pendingSwaps
        registeredRobots :=
          (cleanUp (takeHandler (viewed config p).controller [])).registeredRobots } := rfl
  rw [cleaned, clean]
  rfl

theorem viewed_posts (coherent : Coherent (among config registered) (viewed config p) stage)
    {handler : Handler} (notAck : ack? handler = none)
    (notRegistration : isRegistration handler = false) :
    Coherent (among config registered)
      (viewed config { p with controller := post p.controller handler }) stage := by
  unfold viewed
  simp only [view_post notRegistration]
  exact coherent.posts notAck notRegistration

theorem viewed_turns (coherent : Coherent (among config registered) (viewed config p) stage)
    {event : ControllerAgent.Event} (internal : isInternal event = true)
    (onBelt : TargetsOnBelt (among config registered) (viewed config p) (.controller event))
    (step : ControllerAgent.Step config.controller (view config p.controller) event
      (view config later) outputs) :
    ∃ stage, Coherent (among config registered) (viewed config { p with controller := later })
      stage := by
  obtain ⟨next, followed⟩ := internal_coherent coherent internal onBelt step
  exact ⟨next, followed⟩

theorem view_choosing {request : Request} (choosing : c.worker = .choosing request) :
    (view config c).worker = .choosing request := by
  rw [view_worker, settledWorker, choosing]

/-- The worker runs a handler. A registration does not show. -/
theorem handled_viewed (coherent : Coherent (among config registered) (viewed config p) stage)
    (idle : p.controller.worker = .betweenHandlers) {handler : Handler} {posted : List Handler}
    (next : p.controller.posted = handler :: posted)
    (ran : Handles (takeHandler p.controller posted) handler later) :
    ∃ stage, Coherent (among config registered) (viewed config { p with controller := later })
      stage := by
  cases registers : isRegistration handler with
  | true =>
      have taken : viewed config { p with controller := takeHandler p.controller posted } =
          viewed config p := by
        unfold viewed
        simp only [view_takes next registers]
      have clean := cleanUp_takes coherent idle posted
      cases ran with
      | registrationRefused =>
          rw [clean, taken]
          exact ⟨stage, coherent⟩
      | registrationStarts endpoint position capabilities =>
          have settled : settledWorker config (takeHandler p.controller posted) =
              .betweenHandlers := by
            unfold settledWorker takeHandler
            simp only [idle]
          have same : view config (setWorker (takeHandler p.controller posted)
              (.initializingRobot
                (ControllerAgent.newRemoteRobot endpoint position capabilities) position)) =
                view config (takeHandler p.controller posted) := view_setWorker settled.symm
          rw [clean]
          unfold viewed at taken ⊢
          simp only [same]
          rw [taken]
          exact ⟨stage, coherent⟩
      | receiverUnknown | chooses | swapUnknown | acknowledged | completes | reconfigured =>
          contradiction
  | false =>
      obtain ⟨seenIdle, left, seenNext, seenRan⟩ := view_handles config idle next registers ran
      exact coherent.handles seenIdle seenNext seenRan

/-- The worker begins to check a swap. Where it checks in vain that does not
show. -/
theorem swapChecked_viewed (coherent : Coherent (among config registered) (viewed config p) stage)
    {request : Request} {fromPosition toPosition : Position}
    (choosing : p.controller.worker = .choosing request)
    (step : ControllerAgent.Step config.controller (view config p.controller)
      (.swapRobotPositions fromPosition toPosition)
      (setWorker (view config p.controller) (.checkingFirst request fromPosition toPosition)) []) :
    ∃ stage, Coherent (among config registered)
      (viewed config
        { p with
          controller := setWorker p.controller
            (.checkingFirst request fromPosition toPosition) }) stage := by
  by_cases targets : Targets config p.controller fromPosition toPosition
  · have checking : view config (setWorker p.controller
        (.checkingFirst request fromPosition toPosition)) =
          setWorker (view config p.controller)
            (.checkingFirst request fromPosition toPosition) := by
      rw [view, settledWorker]
      exact congrArg _ (if_pos targets)
    have internal : isInternal (.swapRobotPositions fromPosition toPosition) = true := rfl
    rw [← checking] at step
    exact viewed_turns coherent internal targets step
  · have before : settledWorker config p.controller = .choosing request := view_choosing choosing
    have vain : view config (setWorker p.controller
        (.checkingFirst request fromPosition toPosition)) = view config p.controller := by
      refine view_setWorker ?_
      rw [before]
      exact if_neg targets
    unfold viewed
    simp only [vain]
    exact ⟨stage, coherent⟩

theorem internal_viewed (coherent : Coherent (among config registered) (viewed config p) stage)
    {event : ControllerAgent.Event} (internal : isInternal event = true)
    (step : ControllerAgent.Step config.controller p.controller event later outputs) :
    ∃ stage, Coherent (among config registered) (viewed config { p with controller := later })
      stage := by
  have known : ∀ (place : Place) (capabilities : Finset String),
      Coherent (among config registered)
        (viewed config { p with
          controller := updateAt p.controller (fun robot : RemoteRobot =>
            { robot with
              capabilities := capabilities
              initialCapabilitiesSubscription := false }) place }) stage := by
    intro place capabilities
    have updated := coherent.updates
      (fun robot : RemoteRobot =>
        { robot with capabilities := capabilities, initialCapabilitiesSubscription := false })
      (fun _ => rfl) (fun _ => ⟨rfl, rfl, rfl, id⟩) place
    unfold viewed
    by_cases shown : Shown p.controller place
    · simp only [view_updateAt shown]
      exact updated
    · obtain ⟨rfl, robot, position, worker⟩ := not_shown shown
      simp only [view_updateAt_held worker]
      exact coherent
  cases step with
  | registrationReceived | positionNoticed | positionChanged | robotStopped | robotRegistered
  | robotDropped | commitMissed | noCommitMissed | missedCommitted | firstCommitted
  | secondCommitted | notAvailable | firstAvailable | secondAvailable | robotAvailable
  | firstFailed | firstRefused | firstSwitches | onlySwitches | secondRefused | secondSwitches
  | reconfigurationInstructed => contradiction
  | requestReceived request =>
      exact ⟨stage, viewed_posts coherent rfl rfl⟩
  | capabilitiesNoticed place capabilities => exact ⟨stage, known place capabilities⟩
  | capabilitiesChanged place capabilities =>
      exact ⟨stage, viewed_posts (known place capabilities) rfl rfl⟩
  | receiverStopped receiver => exact ⟨stage, coherent.receivers _⟩
  | handled handler posted idle next ran => exact handled_viewed coherent idle next ran
  | adaptationRefused => exact ⟨stage, coherent⟩
  | receiverInitialized request succeeded initializing =>
      have seen : (view config p.controller).worker = .initializingReceiver request := by
        rw [view_worker, settledWorker, initializing]
      cases succeeded with
      | true =>
          exact viewed_turns coherent internal trivial (.receiverInitialized request true seen)
      | false =>
          exact viewed_turns coherent internal trivial (.receiverInitialized request false seen)
  | swapChecked request fromPosition toPosition choosing different fromSettled toSettled adapts =>
      exact swapChecked_viewed coherent choosing (.swapChecked request fromPosition toPosition
        (view_choosing choosing) different fromSettled toSettled adapts)
  | reconfigurationChecked request robotPosition profile choosing adapts =>
      exact viewed_turns coherent internal trivial (.reconfigurationChecked request robotPosition
        profile (view_choosing choosing) adapts)
  | notAnswered position request choosing =>
      exact viewed_turns coherent internal trivial
        (.notAnswered position request (view_choosing choosing))
  | answers position request choosing =>
      exact viewed_turns coherent internal trivial
        (.answers position request (view_choosing choosing))
  | answered request robotPosition robotEndpoint reply answering =>
      have seen : (view config p.controller).worker =
          .answering request robotPosition robotEndpoint := by
        rw [view_worker, settledWorker, answering]
      cases reply with
      | none =>
          exact viewed_turns coherent internal trivial
            (.answered request robotPosition robotEndpoint none seen)
      | some reply =>
          exact viewed_turns coherent internal trivial
            (.answered request robotPosition robotEndpoint (some reply) seen)

end Internal

end CpsKitchen.Rearrangement.Joining
