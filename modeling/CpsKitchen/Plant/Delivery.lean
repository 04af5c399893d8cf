import CpsKitchen.RobotAgent.TaskOrder
import CpsKitchen.ConveyorAgent.Contents
import CpsKitchen.ConveyorAgent.Driver
import CpsKitchen.Plant.Dishes
import CpsKitchen.RobotMapEdits

/-!
# A delivery to a robot

The conveyor calls `receive_task` of the robot under a plate. The method looks
at the state and the position of the robot under `state_mutex_`, lets the mutex
go, and only later checks the capability, reads the position again and posts
the task. The worker of the robot goes on in between, and so do the threads of
the conveyor that are not its worker. What the conveyor has read of the robot
before it calls is left open.
-/

namespace CpsKitchen.Plant.Delivery

open CpsKitchen.Reactive CpsKitchen.Recipes
open CpsKitchen.RobotAgent (Robot Task OneDriver CommitsOnce isCapableTo)
open CpsKitchen.ConveyorAgent (Conveyor PlateId isRobotUnknown)

set_option autoImplicit false

section Robots

variable {config : RobotAgent.Config} {r robot : Robot} {event : RobotAgent.Event}
  {outputs : List RobotAgent.Output}

/-- The methods of the robot's server. They run one at a time. -/
def isServerMethod : RobotAgent.Event → Bool
  | .receiveTask _ _ | .handoverFinishedOrder | .switchPosition _ _ | .commitNewPosition
  | .reconfigure _ _ => true
  | _ => false

/-- What `receive_task` looks at under `state_mutex_`. -/
def accepts (r : Robot) (addressedPosition : Position) : Bool :=
  r.robotState = .available ∧ addressedPosition = r.position

def finishReceiveTask (config : RobotAgent.Config) (r : Robot) (task : Task)
    (taskReceived : Bool) : Option (Robot × List RobotAgent.Output) :=
  if taskReceived then
    match config.recipeParser.getRecipe task.recipeId with
    | none => none
    | some recipe =>
        match recipe.actionQueue.drop task.overallProcessedSteps with
        | [] => none
        | action :: _ =>
            if isCapableTo r action then
              some (RobotAgent.post r (.handleReceiveTask task),
                [.taskReply task r.position true])
            else some (r, [.taskReply task r.position false])
  else some (r, [.taskReply task r.position false])

/-- Without anything in between the two halves are the whole method. -/
theorem receiveTask_eq_finish (config : RobotAgent.Config) (r : Robot) (task : Task)
    (addressedPosition : Position) :
    RobotAgent.receiveTask config r task addressedPosition =
      finishReceiveTask config r task (accepts r addressedPosition) := by
  unfold RobotAgent.receiveTask finishReceiveTask accepts
  by_cases open_ : r.robotState = .available ∧ addressedPosition = r.position
  · have notRefused : ¬ (r.robotState ≠ .available ∨ addressedPosition ≠ r.position) := by
      push Not
      exact open_
    exact (if_neg notRefused).trans (if_pos (decide_eq_true open_)).symm
  · have refused : r.robotState ≠ .available ∨ addressedPosition ≠ r.position := by
      tauto
    rw [if_pos refused, if_neg (by simpa using open_)]

theorem finishReceiveTask_cases {task : Task} {taskReceived : Bool}
    (finished : finishReceiveTask config r task taskReceived = some (robot, outputs)) :
    (taskReceived = true ∧ (∃ recipe action rest,
        config.recipeParser.getRecipe task.recipeId = some recipe ∧
        recipe.actionQueue.drop task.overallProcessedSteps = action :: rest ∧
        isCapableTo r action) ∧ robot = RobotAgent.post r (.handleReceiveTask task) ∧
      outputs = [.taskReply task r.position true]) ∨
    (robot = r ∧ outputs = [.taskReply task r.position false]) := by
  unfold finishReceiveTask at finished
  split at finished
  next received =>
    split at finished
    · contradiction
    next recipe known =>
      split at finished
      · contradiction
      next action rest remaining =>
        split at finished
        next capable =>
          cases finished
          exact .inl ⟨received, ⟨recipe, action, rest, known, remaining, capable⟩, rfl, rfl⟩
        · cases finished
          exact .inr ⟨rfl, rfl⟩
  · cases finished
    exact .inr ⟨rfl, rfl⟩

/-- No handler that an available robot can run next moves it, changes its
profile or ends an adaptation. -/
theorem handled_stays_available (one : OneDriver r) (available : r.robotState = .available)
    {capability : String} {handler : RobotAgent.Handler} {posted : List RobotAgent.Handler}
    (next : r.posted = handler :: posted)
    (ran : RobotAgent.Handles config (RobotAgent.takeHandler r posted) capability handler robot
      outputs) :
    robot.robotState = .available ∧ RobotAgent.Keeps r robot := by
  have member : handler ∈ r.posted := by
    rw [next]
    exact List.mem_cons_self
  have notMove : handler ≠ .timerCompleted .moveToNewPosition := by
    rintro rfl
    have rearranging := (one.rearranging (one.moving (.inl (.inr member)))).1
    rw [available] at rearranging
    contradiction
  have notComplete : handler ≠ .timerCompleted .completeReconfiguration := by
    rintro rfl
    have reconfiguring := (one.reconfiguring (one.equipping (.inr member))).1
    rw [available] at reconfiguring
    contradiction
  have kept := RobotAgent.handles_keeps ran notMove notComplete
  rcases RobotAgent.handles_robotState ran with same | same
  · exact ⟨same.trans available, kept⟩
  · exact ⟨same, kept⟩

/-- Nothing but a method of its server takes the robot out of service. -/
theorem step_stays_available (one : OneDriver r) (available : r.robotState = .available)
    (notServer : isServerMethod event = false)
    (taken : RobotAgent.step config r event = some (robot, outputs)) :
    robot.robotState = .available ∧ RobotAgent.Keeps r robot := by
  have reaction := (RobotAgent.step_cases taken).2
  cases reaction with
  | refused refusal => cases refusal <;> contradiction
  | taskAccepted | handedOver | switchAccepted | commitAccepted | reconfigureAccepted =>
      contradiction
  | handled capability handler posted idle next ran =>
      exact handled_stays_available one available next ran
  | locked waiting unlocked ran =>
      refine ⟨?_, RobotAgent.cooks_keeps ran⟩
      cases ran with
      | rearranges rearranging =>
          rw [available] at rearranging
          contradiction
      | reconfigures reconfiguring =>
          rw [available] at reconfiguring
          contradiction
      | rests => exact available
      | starts _ nextOrder rest recipe =>
          rw [RobotAgent.determineNextAction_robotState]
          exact available
  | notifyFailed | notified | expired | conveyorLost | conveyorConnected | renotifyFailed
  | renotified => exact ⟨available, rfl, rfl⟩

end Robots

section Belt

def isWorkerEvent : ConveyorAgent.Event → Bool
  | .runHandler _ | .retrieve _ _ | .retrieved | .requestNextRobot _ _ | .requested
  | .deliver _ _ _ | .delivered => true
  | _ => false

/-- A delivery that gets no answer of a robot: there was no call or it failed. -/
def isUnanswered : ConveyorAgent.Event → Bool
  | .deliver _ _ ⟨_, _, some _⟩ => false
  | _ => true

def toDeliver (c : Conveyor) : Finset PlateId :=
  match c.worker with
  | .deliveringFinishedOrders left => left
  | _ => ∅

def isDeliverableTo (c : Conveyor) (plateId : PlateId) (endpoint : String) : Prop :=
  plateId ∈ toDeliver c ∧ (c.plates plateId).isDishFinished = false ∧
    (c.plates plateId).targetPosition ≠ 0 ∧
    (c.plates plateId).position = (c.plates plateId).targetPosition ∧
    ¬ isRobotUnknown c (c.plates plateId).position endpoint

instance (c : Conveyor) (plateId : PlateId) (endpoint : String) :
    Decidable (isDeliverableTo c plateId endpoint) := inferInstanceAs (Decidable (_ ∧ _))

theorem step_stays_deliverable {config : ConveyorAgent.Config} {c conveyor : Conveyor}
    {event : ConveyorAgent.Event} {outputs : List ConveyorAgent.Output} {plateId : PlateId}
    {endpoint : String} (notWorker : isWorkerEvent event = false)
    (deliverable : isDeliverableTo c plateId endpoint)
    (taken : ConveyorAgent.step config c event = some (conveyor, outputs)) :
    isDeliverableTo conveyor plateId endpoint ∧ conveyor.plates = c.plates := by
  unfold ConveyorAgent.step at taken
  split at taken
  · cases event with
    | receiveFinishedOrderNotification | receiveNextRobot | positionChanged | controllerLost =>
        cases taken
        exact ⟨deliverable, rfl⟩
    | robotStopped position =>
        cases taken
        obtain ⟨member, unfinished, targeted, arrived, known⟩ := deliverable
        have still : ¬ isRobotUnknown (ConveyorAgent.stopRobot c position) _ endpoint :=
          RobotMap.stopRobot_known position known
        obtain ⟨map, same⟩ := ConveyorAgent.stopRobot_same c position
        rw [same] at still ⊢
        exact ⟨⟨member, unfinished, targeted, arrived, still⟩, rfl⟩
    | controllerConnected =>
        simp only at taken
        split at taken
        · contradiction
        · cases taken
          exact ⟨deliverable, rfl⟩
    | timerExpires =>
        simp only at taken
        split at taken
        · contradiction
        · cases taken
          exact ⟨deliverable, rfl⟩
    | runHandler | retrieve | retrieved | requestNextRobot | requested | deliver | delivered =>
        contradiction
  · contradiction

section Unanswered

variable {config : ConveyorAgent.Config} {c conveyor : Conveyor} {event : ConveyorAgent.Event}
  {outputs : List ConveyorAgent.Output}

/-- Only an aborted wait stops the conveyor in a handler. -/
theorem handles_running {handler : ConveyorAgent.Handler} (notAborted : handler ≠ .timerAborted)
    (ran : ConveyorAgent.Handles config c handler conveyor) :
    conveyor.running = c.running := by
  cases ran with
  | notificationDropped | notificationTaken | notificationStarts | answerIgnored | swapped
  | reconnectedInTime | retrieves => rfl
  | answerTaken answer map position rest =>
      unfold ConveyorAgent.takeNextRobot
      simp only
      split <;> split <;> rfl
  | reconnected =>
      have decided :=
        ConveyorAgent.determineNextMovement_cases { c with nextRobotRequestQueue := [] }
      generalize ConveyorAgent.determineNextMovement { c with nextRobotRequestQueue := [] } =
        conveyor at decided
      cases decided <;> rfl
  | moves =>
      obtain ⟨plates, map, same⟩ :=
        ConveyorAgent.movePlates_frame config c 1 config.plateCount
      rw [ConveyorAgent.moveConveyor, same]
      rfl
  | aborted => contradiction

theorem isUnanswered_deliver {plateId : PlateId} {kitchen : Option Bool}
    {robot : ConveyorAgent.RobotAnswer}
    (unanswered : isUnanswered (.deliver plateId kitchen robot) = true) : robot.reply = none := by
  obtain ⟨position, available, reply⟩ := robot
  cases reply with
  | none => rfl
  | some reply => contradiction

/-- Without an answer of a robot no element of a loop stops the conveyor or
frees the plate of an unfinished dish. -/
theorem visits_unanswered (unanswered : isUnanswered event = true)
    (visit : ConveyorAgent.Visits c event conveyor outputs) :
    conveyor.running = c.running ∧ ∀ plateId ∈ c.occupiedPlates,
      (c.plates plateId).isDishFinished = false → plateId ∈ conveyor.occupiedPlates := by
  cases visit with
  | keptNotification | droppedNotification | notRequested | requested | notDeliverable
  | orderRefused | notInstructed => exact ⟨rfl, fun _ member _ => member⟩
  | handedOver position dish reply free =>
      unfold ConveyorAgent.handleHandoverFinishedOrder
      split
      · exact ⟨rfl, fun _ member _ => member⟩
      · exact ⟨rfl, fun _ member _ => Finset.mem_insert_of_mem member⟩
  | orderCompleted plateId robot finished atOutput =>
      refine ⟨rfl, ?_⟩
      intro other member unfinished
      apply Finset.mem_erase.mpr
      refine ⟨?_, member⟩
      rintro rfl
      rw [finished] at unfinished
      contradiction
  | taskRefused plateId kitchen robot robotPosition replied
  | taskMisplaced plateId kitchen robot robotPosition replied
  | taskAccepted plateId kitchen robot _ _ _ _ _ replied =>
      rw [isUnanswered_deliver unanswered] at replied
      contradiction

theorem step_unanswered (driver : ConveyorAgent.Driver c) (unanswered : isUnanswered event = true)
    (taken : ConveyorAgent.step config c event = some (conveyor, outputs)) :
    conveyor.running = c.running ∧ ∀ plateId ∈ c.occupiedPlates,
      (c.plates plateId).isDishFinished = false → plateId ∈ conveyor.occupiedPlates := by
  have reaction := (ConveyorAgent.step_cases taken).2
  cases reaction with
  | notificationReceived | answerReceived | positionChanged | robotStopped | controllerLost
  | controllerConnected | expired | retrieved => exact ⟨rfl, fun _ member _ => member⟩
  | handled environment handler posted idle next ran =>
      have notAborted : handler ≠ .timerAborted := by
        rintro rfl
        exact driver.notAborted (by rw [next]; exact List.mem_cons_self)
      have running := handles_running notAborted ran
      refine ⟨running, ?_⟩
      intro plateId member _
      rw [ConveyorAgent.handles_occupiedPlates ran]
      exact member
  | retrieving left position reply loop member ran
  | requesting left plateId reply loop member ran
  | delivering left plateId kitchen robot loop member ran =>
      have visited := visits_unanswered unanswered ran
      exact visited
  | requested =>
      unfold ConveyorAgent.armMovement
      split <;> exact ⟨rfl, fun _ member _ => member⟩
  | delivered =>
      have decided := ConveyorAgent.determineNextMovement_cases c
      generalize ConveyorAgent.determineNextMovement c = conveyor at decided
      cases decided <;> exact ⟨rfl, fun _ member _ => member⟩

/-- Without an answer of a robot the plate of a dish at its target loses the
target, whatever has been read. -/
theorem deliver_unanswered {plateId : PlateId} {kitchen : Option Bool}
    {robot : ConveyorAgent.RobotAnswer} (noReply : robot.reply = none)
    (unfinished : (c.plates plateId).isDishFinished = false)
    (targeted : (c.plates plateId).targetPosition ≠ 0)
    (arrived : (c.plates plateId).position = (c.plates plateId).targetPosition)
    (ran : ConveyorAgent.deliver c plateId kitchen robot = some (conveyor, outputs)) :
    ∃ map, conveyor =
      ConveyorAgent.setTargetPosition (ConveyorAgent.withRobots c map) plateId 0 := by
  have stopped : ∀ position, ∃ map, ConveyorAgent.setTargetPosition
      (ConveyorAgent.stopRobot c position) plateId 0 =
        ConveyorAgent.setTargetPosition (ConveyorAgent.withRobots c map) plateId 0 := by
    intro position
    obtain ⟨map, same⟩ := ConveyorAgent.stopRobot_same c position
    exact ⟨map, by rw [same]⟩
  have unchanged : ∃ map, ConveyorAgent.setTargetPosition c plateId 0 =
      ConveyorAgent.setTargetPosition (ConveyorAgent.withRobots c map) plateId 0 :=
    ⟨c.positionRemoteRobotMap, rfl⟩
  rw [ConveyorAgent.deliver] at ran
  simp only [unfinished, targeted, and_false, ↓reduceIte, Bool.false_eq_true, false_and] at ran
  rw [if_pos ⟨trivial, arrived⟩, ConveyorAgent.deliverPartialOrder] at ran
  split at ran
  · cases ran
    exact unchanged
  · contradiction
  · split at ran
    · cases ran
      obtain ⟨map, same⟩ :=
        ConveyorAgent.readPosition_same c (c.plates plateId).position robot.position
      exact ⟨map, by rw [same]⟩
    · split at ran
      · cases ran
        exact stopped _
      · cases ran
        exact unchanged
      · rw [noReply] at ran
        cases ran
        exact stopped _

end Unanswered

end Belt

section Machine

variable {RobotId : Type} [DecidableEq RobotId]

/-- The call of `receive_task` that the conveyor waits in. `taskReceived` is
what the robot found under its mutex. -/
structure Call (RobotId : Type) where
  plateId : PlateId
  id : RobotId
  taskReceived : Bool
  deriving DecidableEq

structure State (RobotId : Type) where
  robots : RobotId → Robot
  conveyor : Conveyor
  call : Option (Call RobotId)

inductive Event (RobotId : Type)
  /-- A robot does something on its own or for anyone else. -/
  | robot (id : RobotId) (event : RobotAgent.Event)
  | conveyor (event : ConveyorAgent.Event)
  /-- The conveyor calls a robot, which checks its state and its position. -/
  | check (id : RobotId) (plateId : PlateId)
  /-- The robot ends its method and the conveyor receives the answer. -/
  | answer
  /-- The call fails and has no effect on the robot. -/
  | fail
  deriving DecidableEq

def isCalled (s : State RobotId) (id : RobotId) : Prop := s.call.map Call.id = some id

instance (s : State RobotId) (id : RobotId) : Decidable (isCalled s id) :=
  inferInstanceAs (Decidable (_ = _))

variable (config : Config RobotId) (s : State RobotId)

def taskOn (c : Conveyor) (plateId : PlateId) : Task where
  recipeId := (c.plates plateId).placedRecipeId
  overallProcessedSteps := (c.plates plateId).processedSteps
  dish := (c.plates plateId).dish

/-- The conveyor goes on after its call, with the robot's answer if there is one. -/
def resumeStep (plateId : PlateId) (reply : Option (Position × Bool)) :
    Option (Conveyor × List ConveyorAgent.Output) :=
  ConveyorAgent.step config.conveyor s.conveyor
    (.deliver plateId none ⟨some (s.conveyor.plates plateId).position, some true, reply⟩)

def answerStep (call : Call RobotId) : Option (State RobotId × List (Output RobotId)) := do
  let (robot, replied) ← finishReceiveTask (config.robot call.id) (s.robots call.id)
    (taskOn s.conveyor call.plateId) call.taskReceived
  let reply ← taskReply? replied
  let (conveyor, delivered) ← resumeStep config s call.plateId (some reply)
  some (⟨Function.update s.robots call.id robot, conveyor, none⟩,
    wrap call.id replied ++ delivered.map .conveyor)

def step : Event RobotId → Option (State RobotId × List (Output RobotId))
  | .robot id event => do
      guard ¬ (isCalled s id ∧ isServerMethod event)
      let (robot, outputs) ← RobotAgent.step (config.robot id) (s.robots id) event
      some ({ s with robots := Function.update s.robots id robot }, wrap id outputs)
  | .conveyor event => do
      guard (isUnanswered event ∧ (s.call = none ∨ isWorkerEvent event = false))
      let (conveyor, outputs) ← ConveyorAgent.step config.conveyor s.conveyor event
      some ({ s with conveyor := conveyor }, outputs.map .conveyor)
  | .check id plateId => do
      guard (s.call = none ∧ isDeliverableTo s.conveyor plateId (config.endpoint id) ∧
        (s.robots id).running = true ∧ (s.robots id).stateMutexHeld = false)
      some ({ s with call := some ⟨plateId, id,
        accepts (s.robots id) (s.conveyor.plates plateId).position⟩ }, [])
  | .answer => do
      let call ← s.call
      answerStep config s call
  | .fail => do
      let call ← s.call
      let (conveyor, delivered) ← resumeStep config s call.plateId none
      some ({ s with conveyor := conveyor, call := none }, delivered.map .conveyor)

def machine (config : Config RobotId) :
    Machine (State RobotId) (Event RobotId) (Output RobotId) where
  start s := (∀ id, RobotAgent.Started (config.robot id) (s.robots id)) ∧
    s.conveyor = ConveyorAgent.initial config.conveyor ∧ s.call = none
  step s event := step config s event

variable {config : Config RobotId} {s after : State RobotId} {event : Event RobotId}
  {outputs : List (Output RobotId)}

inductive Step (config : Config RobotId) (s : State RobotId) :
    Event RobotId → State RobotId → List (Output RobotId) → Prop where
  | robot (id : RobotId) (event : RobotAgent.Event) (robot : Robot)
      (outputs : List RobotAgent.Output)
      (notCalled : ¬ (isCalled s id ∧ isServerMethod event = true))
      (taken : RobotAgent.step (config.robot id) (s.robots id) event = some (robot, outputs)) :
      Step config s (.robot id event) { s with robots := Function.update s.robots id robot }
        (wrap id outputs)
  | conveyor (event : ConveyorAgent.Event) (conveyor : Conveyor)
      (outputs : List ConveyorAgent.Output) (unanswered : isUnanswered event = true)
      (free : s.call = none ∨ isWorkerEvent event = false)
      (taken : ConveyorAgent.step config.conveyor s.conveyor event = some (conveyor, outputs)) :
      Step config s (.conveyor event) { s with conveyor := conveyor } (outputs.map .conveyor)
  | checked (id : RobotId) (plateId : PlateId) (noCall : s.call = none)
      (deliverable : isDeliverableTo s.conveyor plateId (config.endpoint id)) :
      Step config s (.check id plateId)
        { s with call := some ⟨plateId, id,
          accepts (s.robots id) (s.conveyor.plates plateId).position⟩ } []
  | answered (call : Call RobotId) (robot : Robot) (replied : List RobotAgent.Output)
      (position : Position) (result : Bool) (conveyor : Conveyor)
      (delivered : List ConveyorAgent.Output) (called : s.call = some call)
      (finished : finishReceiveTask (config.robot call.id) (s.robots call.id)
        (taskOn s.conveyor call.plateId) call.taskReceived = some (robot, replied))
      (reply : taskReply? replied = some (position, result))
      (taken : resumeStep config s call.plateId (some (position, result)) =
        some (conveyor, delivered)) :
      Step config s .answer ⟨Function.update s.robots call.id robot, conveyor, none⟩
        (wrap call.id replied ++ delivered.map .conveyor)
  | failed (call : Call RobotId) (conveyor : Conveyor) (delivered : List ConveyorAgent.Output)
      (called : s.call = some call)
      (taken : resumeStep config s call.plateId none = some (conveyor, delivered)) :
      Step config s .fail { s with conveyor := conveyor, call := none } (delivered.map .conveyor)

theorem step_cases (taken : step config s event = some (after, outputs)) :
    Step config s event after outputs := by
  cases event with
  | robot id own =>
      simp only [step, Option.bind_eq_bind, Option.bind_eq_some_iff, Option.guard_eq_some'] at taken
      obtain ⟨_, notCalled, ⟨robot, outputs⟩, ran, same⟩ := taken
      cases same
      exact .robot id own robot outputs notCalled ran
  | conveyor own =>
      simp only [step, Option.bind_eq_bind, Option.bind_eq_some_iff, Option.guard_eq_some'] at taken
      obtain ⟨_, ⟨unanswered, free⟩, ⟨conveyor, outputs⟩, ran, same⟩ := taken
      cases same
      exact .conveyor own conveyor outputs unanswered free ran
  | check id plateId =>
      simp only [step, Option.bind_eq_bind, Option.bind_eq_some_iff, Option.guard_eq_some'] at taken
      obtain ⟨_, ⟨noCall, deliverable, _⟩, same⟩ := taken
      cases same
      exact .checked id plateId noCall deliverable
  | answer =>
      simp only [step, answerStep, Option.bind_eq_bind, Option.bind_eq_some_iff] at taken
      obtain ⟨call, called, ⟨robot, replied⟩, finished, ⟨position, result⟩, reply,
        ⟨conveyor, delivered⟩, ran, same⟩ := taken
      cases same
      exact .answered call robot replied position result conveyor delivered called finished reply
        ran
  | fail =>
      simp only [step, Option.bind_eq_bind, Option.bind_eq_some_iff] at taken
      obtain ⟨call, called, ⟨conveyor, delivered⟩, ran, same⟩ := taken
      cases same
      exact .failed call conveyor delivered called ran

/-- `commit_new_position` of every robot is called once for a rearrangement. -/
def EachCommitsOnce (s : State RobotId) (event : Event RobotId) : Prop :=
  ∀ id own, event = .robot id own → CommitsOnce (s.robots id) own

instance (s : State RobotId) (event : Event RobotId) : Decidable (EachCommitsOnce s event) :=
  match event with
  | .robot id own =>
      decidable_of_iff (CommitsOnce (s.robots id) own) <| by
        constructor
        · intro once other called same
          cases same
          exact once
        · intro once
          exact once id own rfl
  | .conveyor _ | .check _ _ | .answer | .fail => isTrue (by intro _ _ same; contradiction)

/-- What holds while the conveyor waits for the answer of a robot. -/
structure InCall (config : Config RobotId) (s : State RobotId) (call : Call RobotId) : Prop where
  deliverable : isDeliverableTo s.conveyor call.plateId (config.endpoint call.id)
  accepted : call.taskReceived = true → accepts (s.robots call.id)
    (s.conveyor.plates call.plateId).position = true

structure Sound (config : Config RobotId) (s : State RobotId) : Prop where
  one : ∀ id, OneDriver (s.robots id)
  driver : ConveyorAgent.Driver s.conveyor
  running : s.conveyor.running = true
  calling : ∀ call, s.call = some call → InCall config s call

theorem initial_sound (initial : (machine config).start s) : Sound config s := by
  obtain ⟨started, conveyor, noCall⟩ := initial
  exact
    { one := fun id => RobotAgent.initial_oneDriver (started id)
      driver := ConveyorAgent.initial_driver conveyor
      running := by rw [conveyor]; rfl
      calling := by simp [noCall] }

omit [DecidableEq RobotId] in
theorem resumeStep_eq {call : Call RobotId} (inCall : InCall config s call)
    {reply : Option (Position × Bool)} {conveyor : Conveyor}
    {delivered : List ConveyorAgent.Output}
    (taken : resumeStep config s call.plateId reply = some (conveyor, delivered)) :
    ∃ left, s.conveyor.worker = .deliveringFinishedOrders left ∧
      conveyor = (ConveyorAgent.instructRobot
        (ConveyorAgent.setWorker s.conveyor (.deliveringFinishedOrders (left.erase call.plateId)))
        call.plateId reply).1 := by
  obtain ⟨_, unfinished, targeted, arrived, known⟩ := inCall.deliverable
  obtain ⟨_, left, loop, _, ran⟩ := step_deliver taken
  have called := deliver_called
    (c := ConveyorAgent.setWorker s.conveyor (.deliveringFinishedOrders (left.erase call.plateId)))
    reply unfinished targeted arrived known
  have same := called.symm.trans ran
  refine ⟨left, loop, ?_⟩
  rw [Option.some.inj same]

/-- The dish is with the robot that stands under it, as one task. -/
structure ChangesHands (config : Config RobotId) (s after : State RobotId) (id : RobotId)
    (plateId : PlateId) : Prop where
  available : (s.robots id).robotState = .available
  inPlace : (s.robots id).position = (s.conveyor.plates plateId).position
  capable : ∃ recipe action rest,
    config.recipeParser.getRecipe (s.conveyor.plates plateId).placedRecipeId = some recipe ∧
    recipe.actionQueue.drop (s.conveyor.plates plateId).processedSteps = action :: rest ∧
    isCapableTo (s.robots id) action
  oneTask : after.robots = Function.update s.robots id
    (RobotAgent.post (s.robots id) (.handleReceiveTask (taskOn s.conveyor plateId)))
  plateFree : after.conveyor.plates plateId =
    ConveyorAgent.resetPlate (s.conveyor.plates plateId)
  notOccupied : after.conveyor.occupiedPlates = s.conveyor.occupiedPlates.erase plateId

/-- The dish stays on its plate, which has no target any more. -/
structure StaysOnBelt (s after : State RobotId) (plateId : PlateId) : Prop where
  robots : after.robots = s.robots
  plate : after.conveyor.plates plateId =
    { s.conveyor.plates plateId with targetPosition := 0 }
  occupied : after.conveyor.occupiedPlates = s.conveyor.occupiedPlates

theorem accepts_eq_true {r : Robot} {position : Position} (accepted : accepts r position = true) :
    r.robotState = .available ∧ position = r.position := of_decide_eq_true accepted

theorem answered_cases {call : Call RobotId} (inCall : InCall config s call) {robot : Robot}
    {replied : List RobotAgent.Output} {position : Position} {result : Bool}
    {conveyor : Conveyor} {delivered : List ConveyorAgent.Output}
    (finished : finishReceiveTask (config.robot call.id) (s.robots call.id)
      (taskOn s.conveyor call.plateId) call.taskReceived = some (robot, replied))
    (reply : taskReply? replied = some (position, result))
    (taken : resumeStep config s call.plateId (some (position, result)) =
      some (conveyor, delivered)) :
    let after : State RobotId := ⟨Function.update s.robots call.id robot, conveyor, none⟩
    conveyor.running = s.conveyor.running ∧
      (ChangesHands config s after call.id call.plateId ∨ StaysOnBelt s after call.plateId) := by
  obtain ⟨left, loop, same⟩ := resumeStep_eq inCall taken
  rcases finishReceiveTask_cases finished with ⟨received, capable, rfl, rfl⟩ | ⟨rfl, rfl⟩
  · cases reply
    obtain ⟨available, inPlace⟩ := accepts_eq_true (inCall.accepted received)
    have freed : conveyor = ConveyorAgent.freePlate
        (ConveyorAgent.setWorker s.conveyor (.deliveringFinishedOrders (left.erase call.plateId)))
        call.plateId := by
      rw [same, ConveyorAgent.instructRobot]
      have here : ¬ ((ConveyorAgent.setWorker s.conveyor
          (.deliveringFinishedOrders (left.erase call.plateId))).plates call.plateId).position ≠
            (s.robots call.id).position := not_not.mpr inPlace
      simp only [not_true_eq_false, ↓reduceIte, if_neg here]
    subst freed
    refine ⟨rfl, .inl ?_⟩
    exact
      { available := available
        inPlace := inPlace.symm
        capable := capable
        oneTask := rfl
        plateFree := by
          simp [ConveyorAgent.freePlate, ConveyorAgent.updatePlate, ConveyorAgent.setWorker]
        notOccupied := rfl }
  · cases reply
    have kept : conveyor = ConveyorAgent.setTargetPosition
        (ConveyorAgent.setWorker s.conveyor (.deliveringFinishedOrders (left.erase call.plateId)))
        call.plateId 0 := by
      rw [same]
      rfl
    subst kept
    refine ⟨rfl, .inr ?_⟩
    exact
      { robots := Function.update_eq_self call.id s.robots
        plate := by
          simp [ConveyorAgent.setTargetPosition, ConveyorAgent.updatePlate,
            ConveyorAgent.setWorker]
        occupied := rfl }

omit [DecidableEq RobotId] in
theorem failed_stays {call : Call RobotId} (inCall : InCall config s call) {conveyor : Conveyor}
    {delivered : List ConveyorAgent.Output}
    (taken : resumeStep config s call.plateId none = some (conveyor, delivered)) :
    conveyor.running = s.conveyor.running ∧
      StaysOnBelt s { s with conveyor := conveyor, call := none } call.plateId := by
  obtain ⟨left, loop, same⟩ := resumeStep_eq inCall taken
  obtain ⟨map, stopped⟩ := ConveyorAgent.stopRobot_same
    (ConveyorAgent.setWorker s.conveyor (.deliveringFinishedOrders (left.erase call.plateId)))
    (s.conveyor.plates call.plateId).position
  have kept : conveyor = ConveyorAgent.setTargetPosition (ConveyorAgent.withRobots
      (ConveyorAgent.setWorker s.conveyor (.deliveringFinishedOrders (left.erase call.plateId)))
      map) call.plateId 0 := by
    rw [same, ← stopped]
    rfl
  subst kept
  refine ⟨rfl, rfl, ?_, rfl⟩
  simp [ConveyorAgent.setTargetPosition, ConveyorAgent.updatePlate, ConveyorAgent.withRobots,
    ConveyorAgent.setWorker]

omit [DecidableEq RobotId] in
theorem conveyor_sound (sound : Sound config s) {own : ConveyorAgent.Event} {conveyor : Conveyor}
    {told : List ConveyorAgent.Output} (unanswered : isUnanswered own = true)
    (free : s.call = none ∨ isWorkerEvent own = false)
    (taken : ConveyorAgent.step config.conveyor s.conveyor own = some (conveyor, told)) :
    Sound config { s with conveyor := conveyor } where
  one := sound.one
  driver := ConveyorAgent.step_driver sound.driver (ConveyorAgent.step_cases taken).2
  running := by
    rw [(step_unanswered sound.driver unanswered taken).1]
    exact sound.running
  calling := by
    intro call called
    have called : s.call = some call := called
    rcases free with noCall | notWorker
    · rw [noCall] at called
      contradiction
    · have inCall := sound.calling call called
      obtain ⟨deliverable, plates⟩ := step_stays_deliverable notWorker inCall.deliverable taken
      refine ⟨deliverable, ?_⟩
      rw [plates]
      exact inCall.accepted

theorem robot_sound (sound : Sound config s) {id : RobotId} {own : RobotAgent.Event}
    {robot : Robot} {sent : List RobotAgent.Output} (once : CommitsOnce (s.robots id) own)
    (notCalled : ¬ (isCalled s id ∧ isServerMethod own = true))
    (taken : RobotAgent.step (config.robot id) (s.robots id) own = some (robot, sent)) :
    Sound config { s with robots := Function.update s.robots id robot } where
  one := by
    have next := RobotAgent.step_oneDriver (sound.one id) once (RobotAgent.step_cases taken).2
    exact (Function.forall_update_iff s.robots fun _ r => OneDriver r).mpr
      ⟨next, fun other _ => sound.one other⟩
  driver := sound.driver
  running := sound.running
  calling := by
    intro call called
    have called : s.call = some call := called
    have inCall := sound.calling call called
    refine ⟨inCall.deliverable, ?_⟩
    intro received
    have accepted := inCall.accepted received
    change accepts (Function.update s.robots id robot call.id) _ = true
    by_cases same : call.id = id
    · have notServer : isServerMethod own = false := by
        have idCalled : isCalled s id := by
          rw [isCalled, called, Option.map_some, same]
        simpa [idCalled] using notCalled
      obtain ⟨available, inPlace⟩ := accepts_eq_true accepted
      rw [same] at available inPlace
      obtain ⟨still, kept⟩ := step_stays_available (sound.one id) available notServer taken
      rw [same, Function.update_self]
      exact decide_eq_true ⟨still, inPlace.trans kept.1.symm⟩
    · rw [Function.update_of_ne same]
      exact accepted

theorem finished_oneDriver {r robot : Robot} (one : OneDriver r) {own : RobotAgent.Config}
    {task : Task} {taskReceived : Bool} {replied : List RobotAgent.Output}
    (finished : finishReceiveTask own r task taskReceived = some (robot, replied)) :
    OneDriver robot := by
  rcases finishReceiveTask_cases finished with ⟨_, _, rfl, _⟩ | ⟨rfl, _⟩
  · exact one.post rfl
      (one.toOrderly.post (by simp [RobotAgent.IsSwitch]) (by simp) (by simp) (by simp))
  · exact one

theorem step_sound (sound : Sound config s) (once : EachCommitsOnce s event)
    (step : Step config s event after outputs) : Sound config after := by
  cases step with
  | robot id own robot outputs notCalled taken =>
      exact robot_sound sound (once id own rfl) notCalled taken
  | conveyor own conveyor outputs unanswered free taken =>
      exact conveyor_sound sound unanswered free taken
  | checked id plateId noCall deliverable =>
      exact
        { one := sound.one
          driver := sound.driver
          running := sound.running
          calling := by
            intro call called
            cases called
            exact ⟨deliverable, fun received => received⟩ }
  | answered call robot replied position result conveyor delivered called finished reply taken =>
      exact
        { one := (Function.forall_update_iff s.robots fun _ r => OneDriver r).mpr
            ⟨finished_oneDriver (sound.one call.id) finished, fun other _ => sound.one other⟩
          driver := ConveyorAgent.step_driver sound.driver (ConveyorAgent.step_cases taken).2
          running :=
            (answered_cases (sound.calling call called) finished reply taken).1.trans sound.running
          calling := by simp }
  | failed call conveyor delivered called taken =>
      exact
        { one := sound.one
          driver := ConveyorAgent.step_driver sound.driver (ConveyorAgent.step_cases taken).2
          running := (failed_stays (sound.calling call called) taken).1.trans sound.running
          calling := by simp }

theorem reaches_sound {history : History (Event RobotId) (Output RobotId)}
    (reached : (machine config).Reaches EachCommitsOnce history s) : Sound config s := by
  induction reached with
  | start initial => exact initial_sound initial
  | step _ permitted taken ih => exact step_sound ih permitted (step_cases taken)

theorem unanswered_delivery_stays {plateId : PlateId} {kitchen : Option Bool}
    {robot : ConveyorAgent.RobotAnswer}
    (unfinished : (s.conveyor.plates plateId).isDishFinished = false)
    (targeted : (s.conveyor.plates plateId).targetPosition ≠ 0)
    (arrived : (s.conveyor.plates plateId).position =
      (s.conveyor.plates plateId).targetPosition)
    (step : Step config s (.conveyor (.deliver plateId kitchen robot)) after outputs) :
    StaysOnBelt s after plateId := by
  cases step with
  | conveyor own conveyor outputs unanswered free taken =>
      obtain ⟨_, left, loop, member, ran⟩ := step_deliver taken
      obtain ⟨map, same⟩ := deliver_unanswered
        (c := ConveyorAgent.setWorker s.conveyor (.deliveringFinishedOrders (left.erase plateId)))
        (isUnanswered_deliver unanswered) unfinished targeted arrived ran
      subst same
      refine ⟨rfl, ?_, rfl⟩
      simp [ConveyorAgent.setTargetPosition, ConveyorAgent.updatePlate, ConveyorAgent.withRobots,
        ConveyorAgent.setWorker]

/-- In every run in which a rearrangement is committed once, the conveyor never
stops. It frees the plate of an unfinished dish only when the available robot
under it has taken the dish as one task. Otherwise the dish stays on its plate. -/
theorem dish_changes_hands_in_place (config : Config RobotId)
    (history : History (Event RobotId) (Output RobotId)) (s after : State RobotId)
    (event : Event RobotId) (outputs : List (Output RobotId))
    (reached : (machine config).Reaches EachCommitsOnce history s)
    (taken : step config s event = some (after, outputs)) :
    after.conveyor.running = true ∧
    (∀ plateId ∈ s.conveyor.occupiedPlates,
      (s.conveyor.plates plateId).isDishFinished = false →
      plateId ∉ after.conveyor.occupiedPlates → event = .answer ∧
        ∃ call, s.call = some call ∧ call.plateId = plateId ∧
          ChangesHands config s after call.id plateId) ∧
    (∀ call, s.call = some call → event = .answer →
      ChangesHands config s after call.id call.plateId ∨ StaysOnBelt s after call.plateId) ∧
    (∀ call, s.call = some call → event = .fail → StaysOnBelt s after call.plateId) ∧
    (∀ plateId kitchen robot, event = .conveyor (.deliver plateId kitchen robot) →
      (s.conveyor.plates plateId).isDishFinished = false →
      (s.conveyor.plates plateId).targetPosition ≠ 0 →
      (s.conveyor.plates plateId).position = (s.conveyor.plates plateId).targetPosition →
      StaysOnBelt s after plateId) := by
  have sound := reaches_sound reached
  have reaction := step_cases taken
  have belongs : ∀ plateId kitchen robot, event = .conveyor (.deliver plateId kitchen robot) →
      (s.conveyor.plates plateId).isDishFinished = false →
      (s.conveyor.plates plateId).targetPosition ≠ 0 →
      (s.conveyor.plates plateId).position = (s.conveyor.plates plateId).targetPosition →
      StaysOnBelt s after plateId := by
    intro plateId kitchen robot same unfinished targeted arrived
    subst same
    exact unanswered_delivery_stays unfinished targeted arrived reaction
  cases reaction with
  | robot id own robot sent notCalled ran =>
      exact ⟨sound.running, fun _ member _ freed => absurd member freed, by simp, by simp,
        belongs⟩
  | checked id plateId noCall deliverable =>
      exact ⟨sound.running, fun _ member _ freed => absurd member freed, by simp, by simp,
        belongs⟩
  | conveyor own conveyor told unanswered free ran =>
      obtain ⟨running, stays⟩ := step_unanswered sound.driver unanswered ran
      refine ⟨running.trans sound.running, ?_, by simp, by simp, belongs⟩
      intro plateId member unfinished freed
      exact absurd (stays plateId member unfinished) freed
  | answered call robot replied position result conveyor delivered called finished reply ran =>
      obtain ⟨running, outcome⟩ := answered_cases (sound.calling call called) finished reply ran
      refine ⟨running.trans sound.running, ?_, ?_, by simp, belongs⟩
      · intro plateId member unfinished freed
        refine ⟨rfl, call, called, ?_⟩
        rcases outcome with taken | stays
        · have same : call.plateId = plateId := by
            by_contra different
            apply freed
            rw [taken.notOccupied]
            exact Finset.mem_erase.mpr ⟨fun same => different same.symm, member⟩
          subst same
          exact ⟨rfl, taken⟩
        · rw [stays.occupied] at freed
          exact absurd member freed
      · intro other calledToo _
        rw [called] at calledToo
        cases calledToo
        exact outcome
  | failed call conveyor delivered called ran =>
      obtain ⟨running, stays⟩ := failed_stays (sound.calling call called) ran
      refine ⟨running.trans sound.running, ?_, by simp, ?_, belongs⟩
      · intro plateId member _ freed
        rw [stays.occupied] at freed
        exact absurd member freed
      · intro other calledToo _
        rw [called] at calledToo
        cases calledToo
        exact stays

section Example

def idleBelt : State Unit := ⟨idlePlant.robots, idlePlant.conveyor, none⟩

theorem idleBelt_starts : (machine mixingPlant).start idleBelt :=
  ⟨idlePlant_starts.1, rfl, rfl⟩

def connected : ConveyorAgent.Environment := ⟨true, none, none⟩

/-- A grape dessert comes from the robot at a position and is for the mixing
robot at the next one, where the belt brings it. -/
def bringsDish (position : Position) : List (Event Unit) :=
  List.map .conveyor
    [.receiveFinishedOrderNotification "opc.tcp://kitchen:4840" position, .runHandler connected,
     .timerExpires, .runHandler connected,
     .retrieve position (some (7, ⟨"opc.tcp://kitchen:4840", position, 3, 0, false⟩)), .retrieved,
     .requestNextRobot position (some true), .requested,
     .receiveNextRobot
       ⟨position + 1, RobotAgent.deployment.serverEndpoint, 3, ⟨position, 3, 0⟩⟩,
     .runHandler connected, .timerExpires, .runHandler connected]

theorem mixing_robot_takes_dish_in_place :
    ∃ history s after outputs, (machine mixingPlant).Reaches EachCommitsOnce history s ∧
      step mixingPlant s .answer = some (after, outputs) ∧
      s.conveyor.occupiedPlates = {2} ∧ after.conveyor.occupiedPlates = ∅ ∧
      after.conveyor.running = true ∧ ChangesHands mixingPlant s after () 2 := by
  obtain ⟨history, s, reached, shown⟩ := Machine.exists_reaches_of_replay (machine mixingPlant)
    EachCommitsOnce idleBelt_starts (bringsDish 2 ++ [.check () 2])
    (fun _ s => match step mixingPlant s .answer with
      | some (after, _) => decide (s.conveyor.occupiedPlates = {2} ∧
          (s.conveyor.plates 2).isDishFinished = false ∧ after.conveyor.occupiedPlates = ∅)
      | none => false) (by decide)
  split at shown
  next after outputs taken =>
    obtain ⟨occupied, unfinished, freed⟩ := of_decide_eq_true shown
    obtain ⟨running, changes, _⟩ :=
      dish_changes_hands_in_place mixingPlant history s after .answer outputs reached taken
    obtain ⟨_, call, _, _, changed⟩ := changes 2 (by simp [occupied]) unfinished (by simp [freed])
    exact ⟨history, s, after, outputs, reached, taken, occupied, freed, running, changed⟩
  · contradiction

/-- Two commits are accepted for one rearrangement, and the second one makes the
robot available while it travels to its next position. -/
def travelsAvailable : List (Event Unit) :=
  List.map (.robot ())
    [.switchPosition 2 true, .runHandler "whip", .timerExpires, .runHandler "whip",
     .commitNewPosition, .commitNewPosition, .runHandler "whip", .cookNextOrder,
     .switchPosition 1 true, .runHandler "whip", .cookNextOrder, .runHandler "whip"]

/-- The robot leaves between its check and its answer. It takes the dish from
elsewhere, the conveyor finds the delivery corrupted and stops, and the dish is
with the robot and on the plate. -/
theorem second_commit_corrupts_delivery :
    ∃ history s after outputs, (machine mixingPlant).Reaches (fun _ _ => True) history s ∧
      history.map Prod.fst = travelsAvailable ++ bringsDish 1 ++
        [.check () 1, .robot () .timerExpires, .robot () (.runHandler "whip")] ∧
      step mixingPlant s .answer = some (after, outputs) ∧
      .robot () (.taskReply ⟨3, 0, 7⟩ 1 true) ∈ outputs ∧
      (s.conveyor.plates 1).position = 2 ∧
      .handleReceiveTask ⟨3, 0, 7⟩ ∈ (after.robots ()).posted ∧
      1 ∈ after.conveyor.occupiedPlates ∧ after.conveyor.running = false := by
  obtain ⟨history, s, reached, shown⟩ := Machine.exists_reaches_of_replay (machine mixingPlant)
    (fun _ _ => True) idleBelt_starts (travelsAvailable ++ bringsDish 1 ++
      [.check () 1, .robot () .timerExpires, .robot () (.runHandler "whip")])
    (fun history s => match step mixingPlant s .answer with
      | some (after, outputs) => decide (
          history.map Prod.fst = travelsAvailable ++ bringsDish 1 ++
            [.check () 1, .robot () .timerExpires, .robot () (.runHandler "whip")] ∧
          .robot () (.taskReply ⟨3, 0, 7⟩ 1 true) ∈ outputs ∧
          (s.conveyor.plates 1).position = 2 ∧
          .handleReceiveTask ⟨3, 0, 7⟩ ∈ (after.robots ()).posted ∧
          1 ∈ after.conveyor.occupiedPlates ∧ after.conveyor.running = false)
      | none => false) (by decide)
  split at shown
  next after outputs taken =>
    obtain ⟨events, accepted, position, posted, occupied, stopped⟩ := of_decide_eq_true shown
    exact ⟨history, s, after, outputs, reached, events, taken, accepted, position, posted,
      occupied, stopped⟩
  · contradiction

end Example

end Machine

end CpsKitchen.Plant.Delivery
