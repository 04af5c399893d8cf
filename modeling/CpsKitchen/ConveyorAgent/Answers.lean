import CpsKitchen.Reactive.Matching
import CpsKitchen.Reactive.Pipeline
import CpsKitchen.ConveyorAgent.Belt
import CpsKitchen.ConveyorAgent.Driver

/-!
# Next robots for the plates that asked

The conveyor asks the controller for next robots and the controller answers
one request after the other. An answer names a recipe but no plate, so it is
taken for the front of `next_robot_request_queue_`. `Dialog` puts the conveyor
together with the requests the controller has accepted and not yet answered.
-/

namespace CpsKitchen.ConveyorAgent

open CpsKitchen.Reactive CpsKitchen.Recipes
open CpsKitchen.RobotAgent (HandoverReply timeUnit)

set_option autoImplicit false

variable {config : Config} {c after : Conveyor} {event : Event} {outputs : List Output}

section Dialog

structure Dialog where
  conveyor : Conveyor
  requests : List Request

/-- What happens between the conveyor and the controller. A request whose call
fails may have been accepted all the same, the call that brings an answer may
fail, and a controller that restarts has forgotten every request. -/
inductive DialogEvent
  | conveyor (event : Event)
  | requestUnconfirmed (plateId : PlateId)
  | answer (robotPosition : Position) (robotEndpoint : String)
  | answerFails
  | controllerRestarts
  deriving DecidableEq

def Output.requested? : Output → Option Request
  | .nextRobotRequested request => some request
  | _ => none

def callsController (c : Conveyor) (plateId : PlateId) : Prop :=
  c.controllerClient = true ∧ (c.plates plateId).isDishFinished = false ∧
    (c.plates plateId).targetPosition = 0

instance (c : Conveyor) (plateId : PlateId) : Decidable (callsController c plateId) :=
  inferInstanceAs (Decidable (_ ∧ _ ∧ _))

/-- The controller answers the oldest request with a robot of its choice and
the recipe id of the request. -/
def Dialog.step (config : Config) (d : Dialog) : DialogEvent → Option (Dialog × List Output)
  | .conveyor (.receiveNextRobot _) => none
  | .conveyor event =>
      match ConveyorAgent.step config d.conveyor event with
      | none => none
      | some (after, outputs) =>
          some (⟨after, d.requests ++ outputs.filterMap Output.requested?⟩, outputs)
  | .requestUnconfirmed plateId =>
      if callsController d.conveyor plateId then
        match ConveyorAgent.step config d.conveyor (.requestNextRobot plateId none) with
        | none => none
        | some (after, _) =>
            let request := requestOf d.conveyor plateId
            some (⟨after, d.requests ++ [request]⟩, [.nextRobotRequested request])
      else none
  | .answer robotPosition robotEndpoint =>
      match d.requests with
      | [] => none
      | request :: requests =>
          match ConveyorAgent.step config d.conveyor
            (.receiveNextRobot ⟨robotPosition, robotEndpoint, request.recipeId, request⟩) with
          | none => none
          | some (after, outputs) => some (⟨after, requests⟩, outputs)
  | .answerFails =>
      match d.requests with
      | [] => none
      | _ :: requests => some (⟨d.conveyor, requests⟩, [])
  | .controllerRestarts => some (⟨d.conveyor, []⟩, [])

def Dialog.machine (config : Config) : Machine Dialog DialogEvent Output where
  start d := d = ⟨initial config, []⟩
  step := Dialog.step config

def Handler.answer? : Handler → Option NextRobot
  | .handleReceiveNextRobot answer => some answer
  | _ => none

def postedAnswers (c : Conveyor) : List NextRobot := c.posted.filterMap Handler.answer?

/-- The requests whose answers the worker has still to take, oldest first. -/
def answersToCome (d : Dialog) : List Request :=
  (postedAnswers d.conveyor).map NextRobot.request ++ d.requests

def requestsOf (c : Conveyor) : List Request :=
  c.nextRobotRequestQueue.map fun position => requestOf c (c.positionPlateIdMap position)

/-- A request gets through to the controller only if its answer will come at
the place of its entry in the queue, and no answer is lost in front of one
that the queue waits for. -/
def AnswersInOrder (d : Dialog) : DialogEvent → Prop
  | .conveyor (.requestNextRobot plateId (some true)) =>
      (answersToCome d).length = d.conveyor.nextRobotRequestQueue.length ∨
        (answersToCome d)[d.conveyor.nextRobotRequestQueue.length]? =
          some (requestOf d.conveyor plateId)
  | .requestUnconfirmed _ =>
      d.conveyor.nextRobotRequestQueue.length ≤ (answersToCome d).length
  | .answerFails =>
      d.requests.length = 1 ∨
        d.conveyor.nextRobotRequestQueue.length ≤ (postedAnswers d.conveyor).length
  | _ => True

instance (d : Dialog) : (event : DialogEvent) → Decidable (AnswersInOrder d event)
  | .conveyor (.requestNextRobot _ (some true)) => inferInstanceAs (Decidable (_ ∨ _))
  | .requestUnconfirmed _ => inferInstanceAs (Decidable (_ ≤ _))
  | .answerFails => inferInstanceAs (Decidable (_ ∨ _))
  | .conveyor (.requestNextRobot _ none) | .conveyor (.requestNextRobot _ (some false))
  | .conveyor (.receiveFinishedOrderNotification _ _) | .conveyor (.receiveNextRobot _)
  | .conveyor (.positionChanged _ _) | .conveyor (.robotStopped _) | .conveyor .controllerLost
  | .conveyor .controllerConnected | .conveyor .timerExpires | .conveyor (.runHandler _)
  | .conveyor (.retrieve _ _) | .conveyor .retrieved | .conveyor .requested
  | .conveyor (.deliver _ _ _) | .conveyor .delivered | .answer _ _ | .controllerRestarts =>
      isTrue trivial

end Dialog

section Queues

/-- What one step does to the queue of requests and to the posted answers. -/
inductive QueueStep (c : Conveyor) : Event → Conveyor → List Output → Prop where
  | kept (event : Event) (after : Conveyor) (outputs : List Output)
      (requests : requestsOf after = requestsOf c)
      (answers : postedAnswers after = postedAnswers c)
      (silent : outputs.filterMap Output.requested? = []) : QueueStep c event after outputs
  | cleared (event : Event) (after : Conveyor) (outputs : List Output)
      (requests : requestsOf after = []) (answers : postedAnswers after = postedAnswers c)
      (silent : outputs.filterMap Output.requested? = []) : QueueStep c event after outputs
  | received (answer : NextRobot) (after : Conveyor)
      (requests : requestsOf after = requestsOf c)
      (answers : postedAnswers after = postedAnswers c ++ [answer]) :
      QueueStep c (.receiveNextRobot answer) after []
  | requested (plateId : PlateId) (after : Conveyor)
      (requests : requestsOf after = requestsOf c ++ [requestOf c plateId])
      (answers : postedAnswers after = postedAnswers c) :
      QueueStep c (.requestNextRobot plateId (some true)) after
        [.nextRobotRequested (requestOf c plateId)]
  | taken (environment : Environment) (answer : NextRobot) (request : Request)
      (after : Conveyor) (requests : requestsOf c = request :: requestsOf after)
      (answers : postedAnswers c = answer :: postedAnswers after)
      (fits : request.recipeId = answer.recipeId) :
      QueueStep c (.runHandler environment) after []
  | ignored (environment : Environment) (answer : NextRobot) (after : Conveyor)
      (requests : requestsOf after = requestsOf c)
      (answers : postedAnswers c = answer :: postedAnswers after)
      (unexpected : ∀ request rest, requestsOf c = request :: rest →
        request.recipeId ≠ answer.recipeId) :
      QueueStep c (.runHandler environment) after []

theorem requestsOf_empty (queue : c.nextRobotRequestQueue = []) : requestsOf c = [] := by
  rw [requestsOf, queue, List.map_nil]

theorem requestOf_setTargetPosition (c : Conveyor) (plateId : PlateId) (position : Position)
    (other : PlateId) :
    requestOf (setTargetPosition c plateId position) other = requestOf c other := by
  by_cases same : other = plateId
  · simp [requestOf, setTargetPosition, updatePlate, same]
  · simp [requestOf, setTargetPosition, updatePlate, same]

theorem takeNextRobot_queues (answer : NextRobot) {position : Position} {rest : List Position}
    (front : c.nextRobotRequestQueue = position :: rest)
    (noWait : c.steadyTimer = none) :
    requestsOf c = requestOf c (c.positionPlateIdMap position) ::
      requestsOf (takeNextRobot c answer position rest) ∧
    (takeNextRobot c answer position rest).posted = c.posted := by
  have assigned : ∀ other, requestOf
      (if answer.robotPosition ≠ 0 ∧ answer.robotEndpoint ≠ "" then
        setTargetPosition { c with nextRobotRequestQueue := rest }
          (c.positionPlateIdMap position) answer.robotPosition
      else { c with nextRobotRequestQueue := rest }) other = requestOf c other := by
    intro other
    split
    · exact requestOf_setTargetPosition _ _ _ other
    · rfl
  have popped : requestsOf (takeNextRobot c answer position rest) =
      rest.map fun position => requestOf c (c.positionPlateIdMap position) := by
    rw [requestsOf]
    have queue : (takeNextRobot c answer position rest).nextRobotRequestQueue = rest := by
      unfold takeNextRobot
      simp only
      split <;> split <;> rfl
    have map : (takeNextRobot c answer position rest).positionPlateIdMap =
        c.positionPlateIdMap := by
      unfold takeNextRobot
      simp only
      split <;> split <;> rfl
    have plates : ∀ other, requestOf (takeNextRobot c answer position rest) other =
        requestOf c other := by
      intro other
      unfold takeNextRobot
      simp only
      split
      · exact assigned other
      · exact assigned other
    simp only [queue, map, plates]
  constructor
  · rw [popped, requestsOf, front, List.map_cons]
  · unfold takeNextRobot
    simp only
    split <;> split <;> simp [armTimer, setTargetPosition, updatePlate, noWait]

theorem Driver.noWait (none : outstandingWaits c = 0) : c.steadyTimer = .none := by
  cases wait : c.steadyTimer with
  | none => rfl
  | some wait => simp [outstandingWaits, wait] at none

theorem postedAnswers_take {handler : Handler} {posted : List Handler}
    (next : c.posted = handler :: posted) (rest : after.posted = posted) :
    postedAnswers c = handler.answer?.toList ++ postedAnswers after := by
  rw [postedAnswers, next, postedAnswers, rest, List.filterMap_cons]
  cases handler.answer? <;> rfl

theorem postedAnswers_post {handler : Handler} (plain : handler.answer? = none) :
    postedAnswers (post c handler) = postedAnswers c := by
  simp [postedAnswers, post, plain]

theorem determineNextMovement_queue (c : Conveyor) :
    (determineNextMovement c).nextRobotRequestQueue = c.nextRobotRequestQueue ∧
      (determineNextMovement c).posted = c.posted := by
  have decided := determineNextMovement_cases c
  generalize determineNextMovement c = after at decided
  cases decided with
  | retrieves | requests | idles => exact ⟨rfl, rfl⟩

theorem handles_queues (driver : Driver c) {environment : Environment} {handler : Handler}
    {posted : List Handler} (idle : c.worker = .betweenHandlers)
    (next : c.posted = handler :: posted)
    (ran : Handles config (takeHandler c posted) handler after) :
    QueueStep c (.runHandler environment) after [] := by
  cases ran with
  | notificationDropped | notificationTaken | swapped | reconnectedInTime =>
      have answers : postedAnswers c = _ ++ postedAnswers (takeHandler c posted) :=
        postedAnswers_take next rfl
      exact .kept _ _ _ rfl answers.symm rfl
  | notificationStarts robotEndpoint robotPosition map idling =>
      have kept := armTimer_waits (c := { withRobots (takeHandler c posted) map with
        notifications := insert robotPosition c.notifications
        stateStatus := .moving }) .retrieveFinishedOrders (debounceTime * timeUnit)
        ((driver.take next rfl).idling idling).2.1
      exact .kept _ _ _ rfl (postedAnswers_take next kept.2).symm rfl
  | answerIgnored answer map unexpected =>
      refine .ignored environment answer _ rfl (postedAnswers_take next rfl) ?_
      intro request rest waiting
      cases queue : c.nextRobotRequestQueue with
      | nil => simp [requestsOf, queue] at waiting
      | cons position positions =>
          rw [requestsOf, queue, List.map_cons] at waiting
          have same := (List.cons.inj waiting).1
          rw [← same]
          exact unexpected position positions queue
  | answerTaken answer map position rest front fits =>
      have taken := driver.take next rfl
      have noWait := Driver.noWait (taken.moving_of_queue (by simp [front]) idle).2
      obtain ⟨requests, kept⟩ := takeNextRobot_queues answer
        (c := withRobots (takeHandler c posted) map) front noWait
      exact .taken environment answer _ _ requests (postedAnswers_take next kept) fits
  | reconnected moving waiting =>
      obtain ⟨queue, kept⟩ := determineNextMovement_queue
        { takeHandler c posted with nextRobotRequestQueue := [] }
      exact .cleared _ _ _ (requestsOf_empty queue) (postedAnswers_take next kept).symm rfl
  | retrieves =>
      have queue := (driver.after_wait next).2.1
      exact .cleared _ _ _ (requestsOf_empty queue) (postedAnswers_take next rfl).symm rfl
  | moves =>
      have queue := (driver.after_wait next).2.1
      obtain ⟨plates, map, same⟩ :=
        movePlates_frame config (takeHandler c posted) 1 config.plateCount
      rw [moveConveyor, same]
      exact .cleared _ _ _ (requestsOf_empty queue) (postedAnswers_take next rfl).symm rfl
  | aborted => exact absurd (by simp [next]) driver.notAborted

theorem visits_queues (visit : Visits c event after outputs)
    (silent : ∀ plateId reply, event ≠ .requestNextRobot plateId reply)
    (queue : c.nextRobotRequestQueue = []) :
    requestsOf after = [] ∧ postedAnswers after = postedAnswers c ∧
      outputs.filterMap Output.requested? = [] := by
  obtain ⟨posted, _, _, _, kept⟩ := visit.frame
  have empty : after.nextRobotRequestQueue = [] := by
    rcases kept with same | ⟨plateId, reply, asked⟩
    · exact same.trans queue
    · exact absurd asked (silent plateId reply)
  refine ⟨requestsOf_empty empty, by rw [postedAnswers, posted, postedAnswers], ?_⟩
  cases visit with
  | requested plateId => exact absurd rfl (silent plateId _)
  | keptNotification | droppedNotification | handedOver | notRequested | notDeliverable
  | orderRefused | orderCompleted | notInstructed | taskRefused | taskMisplaced
  | taskAccepted => rfl

theorem step_queues (belt : Belt config c) (driver : Driver c)
    (step : Step config c event after outputs) : QueueStep c event after outputs := by
  cases step with
  | notificationReceived | positionChanged | controllerConnected | expired =>
      exact .kept _ _ _ rfl (postedAnswers_post rfl) rfl
  | robotStopped | controllerLost | retrieved => exact .kept _ _ _ rfl rfl rfl
  | answerReceived answer =>
      refine .received answer _ rfl ?_
      simp [postedAnswers, post, Handler.answer?]
  | handled environment handler posted idle next ran => exact handles_queues driver idle next ran
  | retrieving left position reply loop member ran =>
      have queue := driver.collecting left (.inl loop)
      obtain ⟨requests, answers, silent⟩ := visits_queues ran (by simp) queue
      exact .cleared _ _ _ requests answers silent
  | requesting left plateId reply loop member ran =>
      cases ran with
      | notRequested => exact .kept _ _ _ rfl rfl rfl
      | requested =>
          have exist := belt.exist plateId (belt.left (by simpa [loop, leftPlates] using member))
          refine .requested plateId _ ?_ rfl
          have found := belt.plateId_at exist
          have same : requestsOf { setWorker c (.requestingNextRobots (left.erase plateId)) with
              nextRobotRequestQueue :=
                c.nextRobotRequestQueue ++ [(c.plates plateId).position] } =
              requestsOf c ++
                [requestOf c (c.positionPlateIdMap (c.plates plateId).position)] := by
            simp [requestsOf, setWorker, requestOf]
          rw [found] at same
          exact same
  | requested loop =>
      have noWait := Driver.noWait (driver.looping (by simp [loop]))
      refine .kept _ _ _ ?_ ?_ rfl
      · unfold armMovement
        split <;> rfl
      · unfold armMovement
        split
        · simp [postedAnswers, armTimer, setWorker, noWait]
        · rfl
  | delivering left plateId kitchen robot loop member ran =>
      have queue := driver.collecting left (.inr loop)
      obtain ⟨requests, answers, silent⟩ := visits_queues ran (by simp) queue
      exact .cleared _ _ _ requests answers silent
  | delivered loop =>
      have queue := driver.collecting ∅ (.inr loop)
      obtain ⟨kept, posted⟩ := determineNextMovement_queue c
      refine .cleared _ _ _ (requestsOf_empty (kept.trans queue)) ?_ rfl
      rw [postedAnswers, posted, postedAnswers]

end Queues

section Targets

def TakesAnswer (c : Conveyor) (answer : NextRobot) (plateId : PlateId) : Prop :=
  c.worker = .betweenHandlers ∧ (∃ posted, c.posted = .handleReceiveNextRobot answer :: posted) ∧
    ∃ position rest, c.nextRobotRequestQueue = position :: rest ∧
      c.positionPlateIdMap position = plateId ∧
      (c.plates plateId).placedRecipeId = answer.recipeId

def TargetStep (c after : Conveyor) (plateId : PlateId) : Prop :=
  (after.plates plateId).targetPosition = (c.plates plateId).targetPosition ∨
    (after.plates plateId).targetPosition = 0 ∨
    ∃ answer, TakesAnswer c answer plateId ∧
      (after.plates plateId).targetPosition = answer.robotPosition

theorem TargetStep.kept (plates : after.plates = c.plates) (plateId : PlateId) :
    TargetStep c after plateId := .inl (by rw [plates])

theorem targetPosition_reset (c : Conveyor) (plateId other : PlateId) :
    ((setTargetPosition c plateId 0).plates other).targetPosition =
        (c.plates other).targetPosition ∨
      ((setTargetPosition c plateId 0).plates other).targetPosition = 0 := by
  by_cases same : other = plateId
  · right
    simp [setTargetPosition, updatePlate, same]
  · left
    simp [setTargetPosition, updatePlate, same]

theorem targetPosition_freed (c : Conveyor) (plateId other : PlateId) :
    ((freePlate c plateId).plates other).targetPosition = (c.plates other).targetPosition ∨
      ((freePlate c plateId).plates other).targetPosition = 0 := by
  by_cases same : other = plateId
  · right
    simp [freePlate, resetPlate, updatePlate, same]
  · left
    simp [freePlate, updatePlate, same]

theorem visits_target (visit : Visits c event after outputs) (plateId : PlateId) :
    (after.plates plateId).targetPosition = (c.plates plateId).targetPosition ∨
      (after.plates plateId).targetPosition = 0 := by
  cases visit with
  | keptNotification | droppedNotification | notRequested | requested | notDeliverable
  | orderRefused => exact .inl rfl
  | handedOver position dish reply =>
      left
      unfold handleHandoverFinishedOrder
      split
      · rfl
      · by_cases same : plateId = c.positionPlateIdMap reply.position
        · simp [updatePlate, same]
        · simp [updatePlate, same]
  | orderCompleted target => exact targetPosition_freed c target plateId
  | taskAccepted target => exact targetPosition_freed c target plateId
  | notInstructed target kitchen robot map => exact targetPosition_reset _ target plateId
  | taskRefused target => exact targetPosition_reset c target plateId
  | taskMisplaced target => exact targetPosition_reset c target plateId

theorem determineNextMovement_plates (c : Conveyor) :
    (determineNextMovement c).plates = c.plates := by
  have decided := determineNextMovement_cases c
  generalize determineNextMovement c = after at decided
  cases decided with
  | retrieves | requests | idles => rfl

theorem takeNextRobot_target (answer : NextRobot) (position : Position) (rest : List Position)
    (plateId : PlateId) :
    ((takeNextRobot c answer position rest).plates plateId).targetPosition =
        (c.plates plateId).targetPosition ∨
      c.positionPlateIdMap position = plateId ∧
        ((takeNextRobot c answer position rest).plates plateId).targetPosition =
          answer.robotPosition := by
  have armed : (takeNextRobot c answer position rest).plates =
      (if answer.robotPosition ≠ 0 ∧ answer.robotEndpoint ≠ "" then
        setTargetPosition { c with nextRobotRequestQueue := rest }
          (c.positionPlateIdMap position) answer.robotPosition
      else { c with nextRobotRequestQueue := rest }).plates := by
    unfold takeNextRobot
    simp only
    split
    · rfl
    · rfl
  rw [armed]
  split
  · by_cases same : plateId = c.positionPlateIdMap position
    · right
      simp [setTargetPosition, updatePlate, same]
    · left
      simp [setTargetPosition, updatePlate, same]
  · exact .inl rfl

theorem step_target (belt : Belt config c) (step : Step config c event after outputs)
    (plateId : PlateId) : TargetStep c after plateId := by
  have looped : ∀ {worker : Worker} {event : Event},
      Visits (setWorker c worker) event after outputs → TargetStep c after plateId := by
    intro worker event ran
    rcases visits_target ran plateId with same | reset
    · exact .inl same
    · exact .inr (.inl reset)
  cases step with
  | notificationReceived | positionChanged | controllerConnected | expired | robotStopped
  | controllerLost | answerReceived | retrieved => exact .inl rfl
  | requested =>
      refine .kept ?_ plateId
      unfold armMovement
      split <;> rfl
  | delivered => exact .kept (determineNextMovement_plates c) plateId
  | retrieving left position reply loop member ran => exact looped ran
  | requesting left other reply loop member ran => exact looped ran
  | delivering left other kitchen robot loop member ran => exact looped ran
  | handled environment handler posted idle next ran =>
      cases ran with
      | notificationDropped | notificationTaken | notificationStarts | answerIgnored | swapped
      | reconnectedInTime | retrieves | aborted => exact .inl rfl
      | reconnected =>
          refine .kept ?_ plateId
          exact determineNextMovement_plates _
      | moves =>
          left
          obtain ⟨moves, aligned⟩ := belt.aligned
          have plates := (movePlates_spec (c := takeHandler c posted) aligned le_rfl).1 plateId
          have moved : ((moveConveyor config (takeHandler c posted) 1).plates plateId) =
              (movePlates config (takeHandler c posted) 1 config.plateCount).plates plateId := rfl
          rw [moved, plates]
          split <;> rfl
      | answerTaken answer map position rest front fits =>
          rcases takeNextRobot_target (c := withRobots (takeHandler c posted) map) answer position
            rest plateId with same | ⟨found, set⟩
          · exact .inl same
          · have fits : (c.plates plateId).placedRecipeId = answer.recipeId := by
              rw [← found]
              exact fits
            exact .inr (.inr ⟨answer, ⟨idle, ⟨posted, next⟩, position, rest, front, found, fits⟩,
              set⟩)

end Targets

section Dialogs

variable {d next : Dialog} {history : History DialogEvent Output}

/-- The conveyor in a dialog only takes its own steps. -/
theorem Dialog.step_conveyor {event : DialogEvent} {outputs : List Output}
    (taken : Dialog.step config d event = some (next, outputs)) :
    next.conveyor = d.conveyor ∨
      ∃ own ownOutputs, ConveyorAgent.step config d.conveyor own =
        some (next.conveyor, ownOutputs) := by
  unfold Dialog.step at taken
  split at taken
  · contradiction
  · split at taken
    · contradiction
    next ran =>
      cases taken
      exact .inr ⟨_, _, ran⟩
  · split at taken
    · split at taken
      · contradiction
      next ran =>
        cases taken
        exact .inr ⟨_, _, ran⟩
    · contradiction
  · split at taken
    · contradiction
    · split at taken
      · contradiction
      next ran =>
        cases taken
        exact .inr ⟨_, _, ran⟩
  · split at taken
    · contradiction
    · cases taken
      exact .inl rfl
  · cases taken
    exact .inl rfl

/-- Answers to come and queue entries belong together one by one. -/
structure Matched (config : Config) (history : History DialogEvent Output) (d : Dialog) :
    Prop where
  belt : Belt config d.conveyor
  driver : Driver d.conveyor
  agree : Agree (requestsOf d.conveyor) (answersToCome d)
  named : ∀ answer ∈ postedAnswers d.conveyor, answer.recipeId = answer.request.recipeId
  made : ∀ request ∈ answersToCome d, .nextRobotRequested request ∈ outputsOf history

theorem initial_matched (config : Config) : Matched config [] ⟨initial config, []⟩ where
  belt := initial_belt config
  driver := initial_driver rfl
  agree := .inl (List.prefix_refl _)
  named := by simp [postedAnswers, initial]
  made := by simp [answersToCome, postedAnswers, initial]

theorem answersToCome_take {answer : NextRobot} (requests : List Request)
    (answers : postedAnswers d.conveyor = answer :: postedAnswers after) :
    answersToCome ⟨d.conveyor, requests⟩ =
      answer.request :: answersToCome ⟨after, requests⟩ := by
  simp [answersToCome, answers]

theorem conveyor_matched {later : History DialogEvent Output} (matched : Matched config history d)
    {own : Event} {outputs : List Output}
    (ran : ConveyorAgent.step config d.conveyor own = some (after, outputs))
    (quiet : outputs.filterMap Output.requested? = [])
    (plain : ∀ answer, own ≠ .receiveNextRobot answer)
    (grown : outputsOf history ⊆ outputsOf later) : Matched config later ⟨after, d.requests⟩ := by
  have step := (step_cases ran).2
  have queues := step_queues matched.belt matched.driver step
  have belt := step_belt matched.belt step
  have driver := step_driver matched.driver step
  cases queues with
  | kept _ _ _ requests answers silent =>
      have same : answersToCome ⟨after, d.requests⟩ = answersToCome d := by
        rw [answersToCome, answers, answersToCome]
      refine ⟨belt, driver, ?_, ?_, ?_⟩
      · rw [same, requests]
        exact matched.agree
      · rw [answers]
        exact matched.named
      · rw [same]
        exact fun request coming => grown (matched.made request coming)
  | cleared _ _ _ requests answers silent =>
      have same : answersToCome ⟨after, d.requests⟩ = answersToCome d := by
        rw [answersToCome, answers, answersToCome]
      refine ⟨belt, driver, ?_, ?_, ?_⟩
      · rw [requests]
        exact .nil _
      · rw [answers]
        exact matched.named
      · rw [same]
        exact fun request coming => grown (matched.made request coming)
  | received answer => exact absurd rfl (plain answer)
  | requested plateId => simp [Output.requested?] at quiet
  | taken environment answer request _ requests answers fits =>
      have coming := answersToCome_take d.requests answers
      refine ⟨belt, driver, ?_, ?_, ?_⟩
      · have agree := matched.agree
        rw [requests, coming] at agree
        exact agree.front.2
      · intro other member
        exact matched.named other (by rw [answers]; exact List.mem_cons_of_mem _ member)
      · intro other member
        exact grown (matched.made other (by rw [coming]; exact List.mem_cons_of_mem _ member))
  | ignored environment answer _ requests answers unexpected =>
      have coming := answersToCome_take d.requests answers
      -- An answer that is not taken finds the queue empty.
      have empty : requestsOf d.conveyor = [] := by
        cases waiting : requestsOf d.conveyor with
        | nil => rfl
        | cons request rest =>
            have agree := matched.agree
            rw [waiting, coming] at agree
            have named := matched.named answer (by rw [answers]; exact List.mem_cons_self)
            rw [← agree.front.1] at named
            exact absurd named.symm (unexpected request rest waiting)
      refine ⟨belt, driver, ?_, ?_, ?_⟩
      · rw [requests, empty]
        exact .nil _
      · intro other member
        exact matched.named other (by rw [answers]; exact List.mem_cons_of_mem _ member)
      · intro other member
        exact grown (matched.made other (by rw [coming]; exact List.mem_cons_of_mem _ member))

theorem Matched.accept {request : Request} {requests : List Request} (belt : Belt config c)
    (driver : Driver c)
    (agree : Agree (requestsOf c) (answersToCome ⟨c, requests⟩ ++ [request]))
    (named : ∀ answer ∈ postedAnswers c, answer.recipeId = answer.request.recipeId)
    (made : ∀ earlier ∈ answersToCome ⟨c, requests⟩,
      .nextRobotRequested earlier ∈ outputsOf history)
    (output : .nextRobotRequested request ∈ outputsOf history) :
    Matched config history ⟨c, requests ++ [request]⟩ := by
  have grown : answersToCome ⟨c, requests ++ [request]⟩ =
      answersToCome ⟨c, requests⟩ ++ [request] := by
    simp [answersToCome]
  refine ⟨belt, driver, ?_, named, ?_⟩
  · rw [grown]
    exact agree
  · intro other member
    rw [grown] at member
    rcases List.mem_append.mp member with before | new
    · exact made other before
    · rw [List.mem_singleton.mp new]
      exact output

theorem requestsOf_length (c : Conveyor) :
    (requestsOf c).length = c.nextRobotRequestQueue.length := by
  rw [requestsOf, List.length_map]

theorem requested_matched (matched : Matched config history d) {own : Event}
    {outputs : List Output} (ran : ConveyorAgent.step config d.conveyor own = some (after, outputs))
    (permitted : AnswersInOrder d (.conveyor own))
    (plain : ∀ answer, own ≠ .receiveNextRobot answer) :
    Matched config (history ++ [(.conveyor own, outputs)])
      ⟨after, d.requests ++ outputs.filterMap Output.requested?⟩ := by
  have step := (step_cases ran).2
  have queues := step_queues matched.belt matched.driver step
  have grown : outputsOf history ⊆
      outputsOf (history ++ [(DialogEvent.conveyor own, outputs)]) := by
    rw [outputsOf_append]
    exact List.subset_append_left _ _
  by_cases quiet : outputs.filterMap Output.requested? = []
  · rw [quiet, List.append_nil]
    exact conveyor_matched matched ran quiet plain grown
  · cases queues with
    | kept _ _ _ _ _ silent | cleared _ _ _ _ _ silent => exact absurd silent quiet
    | received answer => exact absurd rfl (plain answer)
    | taken | ignored => exact absurd rfl quiet
    | requested plateId _ requests answers =>
        have same : answersToCome ⟨after, d.requests⟩ = answersToCome d := by
          rw [answersToCome, answers, answersToCome]
        refine Matched.accept (step_belt matched.belt step) (step_driver matched.driver step)
          ?_ ?_ ?_ ?_
        · rw [requests, same]
          refine matched.agree.push _ ?_
          rw [requestsOf_length]
          exact permitted
        · rw [answers]
          exact matched.named
        · rw [same]
          exact fun request coming => grown (matched.made request coming)
        · rw [outputsOf_append, outputsOf_singleton]
          exact List.mem_append_right _ List.mem_cons_self

theorem unconfirmed_matched (matched : Matched config history d) {plateId : PlateId}
    {outputs : List Output}
    (ran : ConveyorAgent.step config d.conveyor (.requestNextRobot plateId none) =
      some (after, outputs))
    (permitted : AnswersInOrder d (.requestUnconfirmed plateId)) (request : Request)
    (event : DialogEvent) :
    Matched config (history ++ [(event, [.nextRobotRequested request])])
      ⟨after, d.requests ++ [request]⟩ := by
  have step := (step_cases ran).2
  have belt := step_belt matched.belt step
  have driver := step_driver matched.driver step
  have grown : outputsOf history ⊆
      outputsOf (history ++ [(event, [Output.nextRobotRequested request])]) := by
    rw [outputsOf_append]
    exact List.subset_append_left _ _
  cases step with
  | requesting left _ _ loop member visit =>
      cases visit with
      | notRequested =>
          refine Matched.accept belt driver ?_ matched.named ?_ ?_
          · refine matched.agree.push_coming request ?_
            rw [requestsOf_length]
            exact permitted
          · exact fun earlier coming => grown (matched.made earlier coming)
          · rw [outputsOf_append, outputsOf_singleton]
            exact List.mem_append_right _ List.mem_cons_self

theorem answered_matched (matched : Matched config history d) {request : Request}
    {requests : List Request} (oldest : d.requests = request :: requests)
    {robotPosition : Position} {robotEndpoint : String} {outputs : List Output}
    (ran : ConveyorAgent.step config d.conveyor
      (.receiveNextRobot ⟨robotPosition, robotEndpoint, request.recipeId, request⟩) =
      some (after, outputs)) {later : History DialogEvent Output}
    (grown : outputsOf history ⊆ outputsOf later) : Matched config later ⟨after, requests⟩ := by
  have step := (step_cases ran).2
  have belt := step_belt matched.belt step
  have driver := step_driver matched.driver step
  cases step with
  | answerReceived answer =>
      have answers : postedAnswers (post d.conveyor (.handleReceiveNextRobot
          ⟨robotPosition, robotEndpoint, request.recipeId, request⟩)) =
          postedAnswers d.conveyor ++
            [⟨robotPosition, robotEndpoint, request.recipeId, request⟩] := by
        simp [postedAnswers, post, Handler.answer?]
      have same : answersToCome ⟨post d.conveyor (.handleReceiveNextRobot
          ⟨robotPosition, robotEndpoint, request.recipeId, request⟩), requests⟩ =
          answersToCome d := by
        simp [answersToCome, answers, oldest]
      refine ⟨belt, driver, ?_, ?_, ?_⟩
      · rw [same]
        exact matched.agree
      · intro answer member
        rw [answers] at member
        rcases List.mem_append.mp member with before | new
        · exact matched.named answer before
        · rw [List.mem_singleton.mp new]
      · rw [same]
        exact fun earlier coming => grown (matched.made earlier coming)

/-- Answers that never come do not mix up the others. -/
theorem Matched.lose (matched : Matched config history d) {requests : List Request}
    (fewer : requests ⊆ d.requests)
    (agree : Agree (requestsOf d.conveyor) (answersToCome ⟨d.conveyor, requests⟩))
    {later : History DialogEvent Output} (grown : outputsOf history ⊆ outputsOf later) :
    Matched config later ⟨d.conveyor, requests⟩ where
  belt := matched.belt
  driver := matched.driver
  agree := agree
  named := matched.named
  made := by
    intro request coming
    rcases List.mem_append.mp coming with posted | waiting
    · exact grown (matched.made request (List.mem_append_left _ posted))
    · exact grown (matched.made request (List.mem_append_right _ (fewer waiting)))

theorem step_matched (matched : Matched config history d) {event : DialogEvent}
    (permitted : AnswersInOrder d event) {outputs : List Output}
    (taken : Dialog.step config d event = some (next, outputs)) :
    Matched config (history ++ [(event, outputs)]) next := by
  have grown : outputsOf history ⊆ outputsOf (history ++ [(event, outputs)]) := by
    rw [outputsOf_append]
    exact List.subset_append_left _ _
  have forgotten : Agree (requestsOf d.conveyor) (answersToCome ⟨d.conveyor, []⟩) := by
    have agree : Agree (requestsOf d.conveyor)
        ((postedAnswers d.conveyor).map NextRobot.request ++ d.requests) := matched.agree
    have cut := agree.cut
    simpa [answersToCome] using cut
  cases event with
  | conveyor own =>
      cases own with
      | receiveNextRobot => simp [Dialog.step] at taken
      | _ =>
          simp only [Dialog.step] at taken
          split at taken
          · contradiction
          next ran =>
            cases taken
            exact requested_matched matched ran permitted (by simp)
  | requestUnconfirmed plateId =>
      simp only [Dialog.step] at taken
      split at taken
      · split at taken
        · contradiction
        next ran =>
          cases taken
          exact unconfirmed_matched matched ran permitted _ _
      · contradiction
  | answer robotPosition robotEndpoint =>
      simp only [Dialog.step] at taken
      split at taken
      · contradiction
      next request requests oldest =>
        split at taken
        · contradiction
        next ran =>
          cases taken
          exact answered_matched matched oldest ran grown
  | answerFails =>
      simp only [Dialog.step] at taken
      split at taken
      · contradiction
      next request requests oldest =>
        cases taken
        refine matched.lose (by simp [oldest]) ?_ grown
        rcases permitted with last | behind
        · have none : requests = [] := by simpa [oldest] using last
          rw [none]
          exact forgotten
        · have agree := matched.agree
          rw [answersToCome, oldest] at agree
          refine agree.drop ?_
          rw [requestsOf_length, List.length_map]
          exact behind
  | controllerRestarts =>
      cases taken
      exact matched.lose (List.nil_subset _) forgotten grown

theorem reaches_matched (reached : (Dialog.machine config).Reaches AnswersInOrder history d) :
    Matched config history d :=
  reached.history_invariant (fun _ started => by cases started; exact initial_matched config)
    (fun _ _ _ _ _ _ matched permitted taken => step_matched matched permitted taken)

/-- While answers come in order, the answer a plate takes is the one to a
request made for it, with what it carries now. -/
theorem answers_reach_their_plates (config : Config) (history : History DialogEvent Output)
    (d : Dialog) (reached : (Dialog.machine config).Reaches AnswersInOrder history d) :
    (∀ answer plateId, TakesAnswer d.conveyor answer plateId →
      answer.request = requestOf d.conveyor plateId ∧
      .nextRobotRequested answer.request ∈ outputsOf history) ∧
    ∀ event next outputs plateId, Dialog.step config d event = some (next, outputs) →
      (next.conveyor.plates plateId).targetPosition = (d.conveyor.plates plateId).targetPosition ∨
      (next.conveyor.plates plateId).targetPosition = 0 ∨
      ∃ answer, TakesAnswer d.conveyor answer plateId ∧
        (next.conveyor.plates plateId).targetPosition = answer.robotPosition := by
  have matched := reaches_matched reached
  constructor
  · intro answer plateId takes
    obtain ⟨_, ⟨posted, next⟩, position, rest, front, found, _⟩ := takes
    have coming : answersToCome d = answer.request ::
        answersToCome ⟨takeHandler d.conveyor posted, d.requests⟩ :=
      answersToCome_take _ (postedAnswers_take next rfl)
    have agree := matched.agree
    rw [coming, requestsOf, front, List.map_cons, found] at agree
    refine ⟨agree.front.1.symm, ?_⟩
    exact matched.made _ (by rw [coming]; exact List.mem_cons_self)
  · intro event next outputs plateId taken
    rcases Dialog.step_conveyor taken with same | ⟨own, ownOutputs, ran⟩
    · rw [same]
      exact .inl rfl
    · exact step_target matched.belt (step_cases ran).2 plateId

def plateTwoAsks : List DialogEvent :=
  [.conveyor (.receiveFinishedOrderNotification "opc.tcp://robot:2" 2),
   .conveyor (.runHandler ⟨true, none, none⟩), .conveyor .timerExpires,
   .conveyor (.runHandler ⟨true, none, none⟩),
   .conveyor (.retrieve 2 (some (7, ⟨"opc.tcp://robot:2", 2, 3, 4, false⟩))),
   .conveyor .retrieved, .conveyor (.requestNextRobot 2 (some true)), .conveyor .requested]

/-- The controller restarts before it has answered. The conveyor asks again
and the plate takes the answer to its second request. -/
theorem answer_after_restart :
    ∃ history d answer, (Dialog.machine fivePlates).Reaches AnswersInOrder history d ∧
      TakesAnswer d.conveyor answer 2 ∧ answer.request = requestOf d.conveyor 2 := by
  obtain ⟨history, d, reached, shown⟩ := Machine.exists_reaches_of_replay
    (Dialog.machine fivePlates) AnswersInOrder
    (show (Dialog.machine fivePlates).start ⟨initial fivePlates, []⟩ from rfl)
    (plateTwoAsks ++
      [.controllerRestarts, .conveyor .controllerLost, .conveyor .controllerConnected,
       .conveyor (.runHandler ⟨true, none, none⟩), .conveyor (.requestNextRobot 2 (some true)),
       .conveyor .requested, .answer 4 "opc.tcp://robot:4"])
    (fun _ d => decide (d.conveyor.worker = .betweenHandlers ∧
      d.conveyor.posted = [.handleReceiveNextRobot ⟨4, "opc.tcp://robot:4", 3, ⟨2, 3, 4⟩⟩] ∧
      d.conveyor.nextRobotRequestQueue = [2] ∧ d.conveyor.positionPlateIdMap 2 = 2 ∧
      (d.conveyor.plates 2).placedRecipeId = 3)) (by decide)
  obtain ⟨idle, posted, queue, found, placed⟩ := of_decide_eq_true shown
  have takes : TakesAnswer d.conveyor ⟨4, "opc.tcp://robot:4", 3, ⟨2, 3, 4⟩⟩ 2 :=
    ⟨idle, ⟨_, posted⟩, 2, [], queue, found, placed⟩
  have matched := answers_reach_their_plates fivePlates history d reached
  exact ⟨history, d, _, reached, takes, (matched.1 _ _ takes).1⟩

/-- A controller that is connected again still answers the old request for
plate 2. Plate 3 carries the same recipe, is now at the front of the queue and
takes the answer. -/
theorem old_answer_taken_for_other_plate :
    ∃ history d answer next outputs,
      (Dialog.machine fivePlates).Reaches (fun _ _ => True) history d ∧
      TakesAnswer d.conveyor answer 3 ∧ answer.request ≠ requestOf d.conveyor 3 ∧
      Dialog.step fivePlates d (.conveyor (.runHandler ⟨true, none, none⟩)) =
        some (next, outputs) ∧
      (d.conveyor.plates 3).targetPosition = 0 ∧
      (next.conveyor.plates 3).targetPosition = answer.robotPosition := by
  obtain ⟨history, d, reached, shown⟩ := Machine.exists_reaches_of_replay
    (Dialog.machine fivePlates) (fun _ _ => True)
    (show (Dialog.machine fivePlates).start ⟨initial fivePlates, []⟩ from rfl)
    (plateTwoAsks ++
      [.conveyor .controllerLost,
       .conveyor (.receiveFinishedOrderNotification "opc.tcp://robot:3" 3),
       .conveyor (.runHandler ⟨true, none, none⟩), .conveyor .controllerConnected,
       .conveyor (.runHandler ⟨true, none, none⟩),
       .conveyor (.retrieve 3 (some (8, ⟨"opc.tcp://robot:3", 3, 3, 2, false⟩))),
       .conveyor .retrieved, .conveyor (.requestNextRobot 3 (some true)),
       .conveyor (.requestNextRobot 2 (some true)), .conveyor .requested,
       .answer 4 "opc.tcp://robot:4"])
    (fun _ d => decide (d.conveyor.worker = .betweenHandlers ∧
      d.conveyor.posted = [.handleReceiveNextRobot ⟨4, "opc.tcp://robot:4", 3, ⟨2, 3, 4⟩⟩] ∧
      d.conveyor.nextRobotRequestQueue = [3, 2] ∧ d.conveyor.positionPlateIdMap 3 = 3 ∧
      requestOf d.conveyor 3 = ⟨3, 3, 2⟩ ∧ (d.conveyor.plates 3).targetPosition = 0 ∧
      (Dialog.step fivePlates d (.conveyor (.runHandler ⟨true, none, none⟩))).map
        (fun result => (result.1.conveyor.plates 3).targetPosition) = some 4)) (by decide)
  obtain ⟨idle, posted, queue, found, carried, untargeted, targeted⟩ := of_decide_eq_true shown
  obtain ⟨⟨next, outputs⟩, ran, target⟩ := Option.map_eq_some_iff.mp targeted
  have placed : (d.conveyor.plates 3).placedRecipeId = 3 := congrArg Request.recipeId carried
  refine ⟨history, d, ⟨4, "opc.tcp://robot:4", 3, ⟨2, 3, 4⟩⟩, next, outputs, reached,
    ⟨idle, ⟨_, posted⟩, 3, [2], queue, found, placed⟩, ?_, ran, untargeted, target⟩
  rw [carried]
  decide

end Dialogs

end CpsKitchen.ConveyorAgent
