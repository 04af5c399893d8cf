import CpsKitchen.ConveyorAgent.Answers
import CpsKitchen.ConveyorAgent.Dishes
import CpsKitchen.ConveyorAgent.Plates
import CpsKitchen.ConveyorAgent.RemoteRobots

/-!
# When a dish is offered

`deliver_finished_order` compares positions after every move of the belt. So a
dish is offered when the belt has carried its plate to the output, or to its
target, and not earlier. A target stays as it is until then, because a next
robot is requested only for plates without one.
-/

namespace CpsKitchen.ConveyorAgent

open CpsKitchen.Reactive CpsKitchen.Recipes CpsKitchen.Ring
open CpsKitchen.RobotAgent (HandoverReply timeUnit)
open CpsKitchen.RobotMap (RemoteRobot)

set_option autoImplicit false

variable {config : Config} {c after : Conveyor} {event : Event} {outputs : List Output}
  {plateId : PlateId}

/-- A robot that hands a dish over reports the position it was notified from. -/
def ReportsNotified (_ : Conveyor) : Event → Prop
  | .retrieve position (some (_, reply)) => reply.recipeId ≠ 0 → reply.position = position
  | _ => True

instance (c : Conveyor) : (event : Event) → Decidable (ReportsNotified c event)
  | .retrieve position (some (_, reply)) =>
      inferInstanceAs (Decidable (reply.recipeId ≠ 0 → reply.position = position))
  | .retrieve _ none | .receiveFinishedOrderNotification _ _ | .receiveNextRobot _
  | .positionChanged _ _ | .robotStopped _ | .controllerLost | .controllerConnected
  | .timerExpires | .runHandler _ | .retrieved | .requestNextRobot _ _ | .requested
  | .deliver _ _ _ | .delivered => isTrue trivial

section Requests

def requestedPlates (c : Conveyor) : List PlateId :=
  c.nextRobotRequestQueue.map c.positionPlateIdMap

/-- A next robot is requested once for a plate, and only while the plate has no
target and its dish is not finished. -/
structure Asked (c : Conveyor) : Prop where
  once : (requestedPlates c).Nodup
  waiting : ∀ plateId ∈ requestedPlates c,
    (c.plates plateId).isDishFinished = false ∧ (c.plates plateId).targetPosition = 0
  visited : ∀ left, c.worker = .requestingNextRobots left →
    ∀ plateId ∈ requestedPlates c, plateId ∉ left

theorem asked_of_empty (queue : c.nextRobotRequestQueue = []) : Asked c := by
  have none : requestedPlates c = [] := by rw [requestedPlates, queue, List.map_nil]
  constructor
  · simp [none]
  · simp [none]
  · simp [none]

theorem Asked.transport (asked : Asked c) (plates : after.plates = c.plates)
    (map : after.positionPlateIdMap = c.positionPlateIdMap)
    (queue : after.nextRobotRequestQueue = c.nextRobotRequestQueue)
    (visited : ∀ left, after.worker = .requestingNextRobots left →
      ∀ plateId ∈ requestedPlates c, plateId ∉ left) : Asked after := by
  have same : requestedPlates after = requestedPlates c := by
    rw [requestedPlates, requestedPlates, queue, map]
  constructor
  · rw [same]
    exact asked.once
  · rw [same, plates]
    exact asked.waiting
  · rw [same]
    exact visited

theorem takeNextRobot_frame (c : Conveyor) (answer : NextRobot) (position : Position)
    (rest : List Position) :
    (takeNextRobot c answer position rest).nextRobotRequestQueue = rest ∧
      (takeNextRobot c answer position rest).positionPlateIdMap = c.positionPlateIdMap ∧
      (takeNextRobot c answer position rest).worker = c.worker ∧
      ∀ plateId, plateId ≠ c.positionPlateIdMap position →
        (takeNextRobot c answer position rest).plates plateId = c.plates plateId := by
  unfold takeNextRobot
  simp only
  split <;> split
  · refine ⟨rfl, rfl, rfl, ?_⟩
    intro plateId other
    simp [setTargetPosition, updatePlate, armTimer, other]
  · exact ⟨rfl, rfl, rfl, fun _ _ => rfl⟩
  · refine ⟨rfl, rfl, rfl, ?_⟩
    intro plateId other
    simp [setTargetPosition, updatePlate, other]
  · exact ⟨rfl, rfl, rfl, fun _ _ => rfl⟩

theorem takeNextRobot_asked (asked : Asked c) (idle : c.worker = .betweenHandlers)
    {answer : NextRobot} {position : Position} {rest : List Position}
    (front : c.nextRobotRequestQueue = position :: rest) :
    Asked (takeNextRobot c answer position rest) := by
  obtain ⟨queue, map, worker, others⟩ := takeNextRobot_frame c answer position rest
  have left : requestedPlates (takeNextRobot c answer position rest) =
      rest.map c.positionPlateIdMap := by rw [requestedPlates, queue, map]
  have split : requestedPlates c =
      c.positionPlateIdMap position :: rest.map c.positionPlateIdMap := by
    rw [requestedPlates, front, List.map_cons]
  have once := asked.once
  rw [split, List.nodup_cons] at once
  constructor
  · rw [left]
    exact once.2
  · intro plateId member
    rw [left] at member
    have other : plateId ≠ c.positionPlateIdMap position := by
      intro same
      rw [same] at member
      exact once.1 member
    rw [others plateId other]
    apply asked.waiting
    rw [split]
    exact List.mem_cons_of_mem _ member
  · intro worklist requesting
    rw [worker, idle] at requesting
    contradiction

theorem determineNextMovement_asked (queue : c.nextRobotRequestQueue = []) :
    Asked (determineNextMovement c) := by
  apply asked_of_empty
  exact (determineNextMovement_queue c).1.trans queue

theorem handles_asked (asked : Asked c) (idle : c.worker = .betweenHandlers) {handler : Handler}
    (waited : ∀ task, handler = .timerCompleted task → c.nextRobotRequestQueue = [])
    (ran : Handles config c handler after) : Asked after := by
  have requesting : ∀ left, c.worker = .requestingNextRobots left →
      ∀ plateId ∈ requestedPlates c, plateId ∉ left := asked.visited
  cases ran with
  | notificationDropped | notificationTaken | notificationStarts | answerIgnored | swapped
  | reconnectedInTime | aborted => exact asked.transport rfl rfl rfl requesting
  | answerTaken answer map position rest front =>
      have robots : Asked (withRobots c map) := asked.transport rfl rfl rfl requesting
      exact takeNextRobot_asked robots idle front
  | reconnected => exact determineNextMovement_asked rfl
  | retrieves => exact asked_of_empty (waited _ rfl)
  | moves =>
      apply asked_of_empty
      obtain ⟨plates, map, same⟩ := movePlates_frame config c 1 config.plateCount
      rw [moveConveyor, same]
      exact waited _ rfl

theorem requesting_asked {left : Finset PlateId} {plateId : PlateId} {reply : Option Bool}
    (asked : Asked (setWorker c (.requestingNextRobots left))) (belt : Belt config c)
    (member : plateId ∈ left) (exist : plateId < config.plateCount)
    (ran : Visits (setWorker c (.requestingNextRobots (left.erase plateId)))
      (.requestNextRobot plateId reply) after outputs) : Asked after := by
  have visited := asked.visited left rfl
  have crossed : ∀ other ∈ requestedPlates c, other ∉ left.erase plateId := by
    intro other requested remains
    exact visited other requested (Finset.mem_of_mem_erase remains)
  cases ran with
  | notRequested =>
      refine asked.transport rfl rfl rfl ?_
      intro worklist requesting
      cases requesting
      exact crossed
  | requested _ unfinished untargeted =>
      have here := belt.plateId_at exist
      have added : requestedPlates { setWorker c (.requestingNextRobots (left.erase plateId)) with
          nextRobotRequestQueue :=
            c.nextRobotRequestQueue ++ [(c.plates plateId).position] } =
          requestedPlates c ++ [plateId] := by
        simp only [requestedPlates, setWorker, List.map_append, List.map_cons, List.map_nil, here]
      constructor
      · have fresh : plateId ∉ requestedPlates c := fun requested =>
          visited plateId requested member
        have once : (requestedPlates c ++ [plateId]).Nodup := by
          rw [List.nodup_append]
          refine ⟨asked.once, List.nodup_singleton plateId, ?_⟩
          intro other requested _ same
          rw [List.mem_singleton.mp same]
          intro twice
          rw [twice] at requested
          exact fresh requested
        exact added ▸ once
      · intro other requested
        have requested : other ∈ requestedPlates c ++ [plateId] := added ▸ requested
        rcases List.mem_append.mp requested with before | new
        · exact asked.waiting other before
        · rw [List.mem_singleton.mp new]
          exact ⟨unfinished, untargeted⟩
      · intro worklist requesting other requested
        cases requesting
        have requested : other ∈ requestedPlates c ++ [plateId] := added ▸ requested
        rcases List.mem_append.mp requested with before | new
        · exact crossed other before
        · rw [List.mem_singleton.mp new]
          exact Finset.notMem_erase plateId left

theorem step_asked (asked : Asked c) (belt : Belt config c) (driver : Driver c)
    (step : Step config c event after outputs) : Asked after := by
  cases step with
  | notificationReceived | answerReceived | positionChanged | robotStopped | controllerLost
  | controllerConnected | expired => exact asked.transport rfl rfl rfl asked.visited
  | handled environment handler posted idle next ran =>
      have taken : Asked (takeHandler c posted) := asked.transport rfl rfl rfl asked.visited
      refine handles_asked taken idle ?_ ran
      intro task completed
      rw [completed] at next
      exact (driver.after_wait next).2.1
  | retrieving left position reply loop member ran =>
      apply asked_of_empty
      have queue := driver.collecting left (.inl loop)
      rcases ran.frame.2.2.2.2 with same | ⟨_, _, other⟩
      · exact same.trans queue
      · contradiction
  | retrieved loop => exact asked_of_empty (driver.collecting ∅ (.inl loop))
  | requesting left plateId reply loop member ran =>
      have subset : left ⊆ c.occupiedPlates := by simpa [loop, leftPlates] using belt.left
      have here : Asked (setWorker c (.requestingNextRobots left)) := by
        refine asked.transport rfl rfl rfl ?_
        intro worklist requesting
        cases requesting
        exact asked.visited left loop
      exact requesting_asked here belt member (belt.exist plateId (subset member)) ran
  | requested =>
      unfold armMovement
      split
      · exact asked.transport rfl rfl rfl (by simp [armTimer, setWorker])
      · exact asked.transport rfl rfl rfl (by simp [setWorker])
  | delivering left plateId kitchen robot loop member ran =>
      apply asked_of_empty
      have queue := driver.collecting left (.inr loop)
      rcases ran.frame.2.2.2.2 with same | ⟨_, _, other⟩
      · exact same.trans queue
      · contradiction
  | delivered loop => exact determineNextMovement_asked (driver.collecting ∅ (.inr loop))

theorem reaches_asked {allowed : Conveyor → Event → Prop} {history : History Event Output}
    (reached : (machine config).Reaches allowed history c) : Asked c :=
  reached.history_invariant
    (fun _ started => by cases started; exact asked_of_empty rfl)
    (fun _ _ _ _ _ earlier asked _ taken =>
      step_asked asked (reaches_belt earlier) (reaches_driver earlier) (step_cases taken).2)

end Requests

section Goals

/-- Where the belt has to carry a plate: to the output, or to its target. -/
def goalOf (plate : Plate) : Option Position :=
  if plate.isDishFinished then some outputPosition
  else if plate.targetPosition = 0 then none
  else some plate.targetPosition

theorem goalOf_moved (plate : Plate) (position : Position) :
    goalOf { plate with position := position } = goalOf plate := rfl

/-- A visit of `deliver_finished_order` at which the dish of the plate is
offered to the kitchen or to the robot at its target. -/
def offers (c : Conveyor) (plateId : PlateId) : Event → Bool
  | .deliver visited _ _ =>
      visited = plateId ∧ goalOf (c.plates plateId) = some (c.plates plateId).position
  | _ => false

def leftToDeliver : Worker → Finset PlateId
  | .deliveringFinishedOrders left => left
  | .betweenHandlers | .retrievingFinishedOrders _ | .requestingNextRobots _ => ∅

def dueIn (config : Config) (c : Conveyor) (plateId : PlateId) (goal : Position) : Nat :=
  if plateId ∈ leftToDeliver c.worker then
    wayTo config.plateCount (c.plates plateId).position goal
  else stepsUntil config.plateCount (c.plates plateId).position goal

theorem dueIn_away {goal : Position} (visited : plateId ∉ leftToDeliver c.worker) :
    dueIn config c plateId goal =
      stepsUntil config.plateCount (c.plates plateId).position goal :=
  if_neg visited

theorem dueIn_congr {goal : Position}
    (position : (after.plates plateId).position = (c.plates plateId).position)
    (visited : plateId ∈ leftToDeliver after.worker ↔ plateId ∈ leftToDeliver c.worker) :
    dueIn config after plateId goal = dueIn config c plateId goal := by
  rw [dueIn, dueIn, position]
  by_cases left : plateId ∈ leftToDeliver c.worker
  · rw [if_pos left, if_pos (visited.mpr left)]
  · rw [if_neg left, if_neg (fun remains => left (visited.mp remains))]

end Goals

section Carried

/-- A plate keeps its dish and its goal, and its goal is one move nearer if the
belt moved. -/
structure Carried (config : Config) (c after : Conveyor) (plateId : PlateId) (goal : Position)
    (moved : Bool) : Prop where
  member : plateId ∈ after.occupiedPlates
  plate : after.plates plateId =
    { c.plates plateId with
      position := turned config.plateCount moved.toNat (c.plates plateId).position }
  due : dueIn config after plateId goal + moved.toNat = dueIn config c plateId goal

variable {goal : Position}

theorem Belt.position_lt (belt : Belt config c) (exist : plateId < config.plateCount) :
    (c.plates plateId).position < config.plateCount := by
  obtain ⟨moves, aligned⟩ := belt.aligned
  rw [(aligned plateId exist).1]
  exact turned_lt config.plateCountPositive moves plateId

theorem Carried.kept (belt : Belt config c) (placed : plateId ∈ c.occupiedPlates)
    (member : plateId ∈ after.occupiedPlates)
    (plate : after.plates plateId = c.plates plateId)
    (visited : plateId ∈ leftToDeliver after.worker ↔ plateId ∈ leftToDeliver c.worker) :
    Carried config c after plateId goal false where
  member := member
  plate := by
    have inside := belt.position_lt (belt.exist plateId placed)
    rw [Bool.toNat_false, turned_zero inside]
    exact plate
  due := by
    rw [Bool.toNat_false, Nat.add_zero]
    exact dueIn_congr (by rw [plate]) visited

theorem moveConveyor_carried (belt : Belt config c) (placed : plateId ∈ c.occupiedPlates)
    (idle : c.worker = .betweenHandlers) (inside : goal < config.plateCount) :
    Carried config c (moveConveyor config c 1) plateId goal true := by
  obtain ⟨moves, aligned⟩ := belt.aligned
  have exist := belt.exist plateId placed
  have moved := (movePlates_spec aligned le_rfl).1 plateId
  obtain ⟨_, _, same⟩ := movePlates_frame config c 1 config.plateCount
  have member : plateId ∈ (movePlates config c 1 config.plateCount).occupiedPlates := by
    rw [same]
    exact placed
  have further : turned config.plateCount (moves + 1) plateId =
      turned config.plateCount 1 (c.plates plateId).position := by
    rw [(aligned plateId exist).1, turned_turned]
  rw [if_pos exist, further] at moved
  have nearer := wayTo_turned (belt.position_lt exist) inside
  refine ⟨member, moved, ?_⟩
  have stands : ((moveConveyor config c 1).plates plateId).position =
      turned config.plateCount 1 (c.plates plateId).position := congrArg Plate.position moved
  have visited : plateId ∈ leftToDeliver (moveConveyor config c 1).worker := member
  rw [dueIn, if_pos visited, stands, dueIn_away (by simp [idle, leftToDeliver])]
  exact nearer

/-- A plate with a goal waits for no answer. -/
theorem Asked.not_requested (asked : Asked c) (aimed : goalOf (c.plates plateId) = some goal) :
    plateId ∉ requestedPlates c := by
  intro requested
  obtain ⟨unfinished, untargeted⟩ := asked.waiting plateId requested
  simp [goalOf, unfinished, untargeted] at aimed

theorem handles_carried (belt : Belt config c) (asked : Asked c)
    (placed : plateId ∈ c.occupiedPlates) (aimed : goalOf (c.plates plateId) = some goal)
    (idle : c.worker = .betweenHandlers) {handler : Handler}
    (elsewhere : handler ≠ .timerCompleted .moveConveyor)
    (ran : Handles config c handler after) : Carried config c after plateId goal false := by
  have member : plateId ∈ after.occupiedPlates := by
    rw [handles_occupiedPlates ran]
    exact placed
  have away : ∀ {worker : Worker}, leftToDeliver worker = ∅ →
      (plateId ∈ leftToDeliver worker ↔ plateId ∈ leftToDeliver c.worker) := by
    intro worker none
    rw [none, idle, leftToDeliver]
  cases ran with
  | notificationDropped | notificationTaken | notificationStarts | answerIgnored | swapped
  | reconnectedInTime | aborted => exact .kept belt placed member rfl Iff.rfl
  | answerTaken answer map position rest front =>
      obtain ⟨_, _, worker, others⟩ := takeNextRobot_frame (withRobots c map) answer position rest
      have other : plateId ≠ c.positionPlateIdMap position := by
        intro same
        apply asked.not_requested aimed
        rw [requestedPlates, front, same]
        exact List.mem_cons_self
      refine .kept belt placed member (others plateId other) ?_
      rw [worker]
      exact Iff.rfl
  | reconnected =>
      refine .kept belt placed member ?_ (away ?_)
      · rw [determineNextMovement_plates]
      · have decided := determineNextMovement_cases { c with nextRobotRequestQueue := [] }
        generalize determineNextMovement { c with nextRobotRequestQueue := [] } = after at decided
        cases decided with
        | retrieves | requests | idles => rfl
  | retrieves => exact .kept belt placed member rfl (away rfl)
  | moves => exact absurd rfl elsewhere

theorem visits_elsewhere (visit : Visits c event after outputs)
    (reports : ReportsNotified c event)
    (occupied : (c.plates plateId).occupied = true) (placed : plateId ∈ c.occupiedPlates)
    (other : ∀ visited kitchen robot, event = .deliver visited kitchen robot →
      plateId ≠ visited) :
    after.plates plateId = c.plates plateId ∧ plateId ∈ after.occupiedPlates := by
  cases visit with
  | keptNotification | droppedNotification | notRequested | requested | notDeliverable
  | orderRefused => exact ⟨rfl, placed⟩
  | handedOver position dish reply free =>
      unfold handleHandoverFinishedOrder
      split
      · exact ⟨rfl, placed⟩
      next recipe =>
        have here : plateId ≠ c.positionPlateIdMap reply.position := by
          rw [reports recipe]
          intro same
          rw [plateAt, ← same, occupied] at free
          contradiction
        simp only [updatePlate, Function.update_of_ne here]
        exact ⟨trivial, Finset.mem_insert_of_mem placed⟩
  | orderCompleted visited =>
      have different := other visited _ _ rfl
      simp only [freePlate, updatePlate, Function.update_of_ne different]
      exact ⟨trivial, Finset.mem_erase.mpr ⟨different, placed⟩⟩
  | taskAccepted visited =>
      have different := other visited _ _ rfl
      simp only [freePlate, updatePlate, Function.update_of_ne different]
      exact ⟨trivial, Finset.mem_erase.mpr ⟨different, placed⟩⟩
  | notInstructed visited =>
      have different := other visited _ _ rfl
      simp only [setTargetPosition, updatePlate, Function.update_of_ne different]
      exact ⟨rfl, placed⟩
  | taskRefused visited =>
      have different := other visited _ _ rfl
      simp only [setTargetPosition, updatePlate, Function.update_of_ne different]
      exact ⟨trivial, placed⟩
  | taskMisplaced visited =>
      have different := other visited _ _ rfl
      simp only [stop, setTargetPosition, updatePlate, Function.update_of_ne different]
      exact ⟨trivial, placed⟩

theorem deliver_away {kitchen : Option Bool} {robot : RobotAnswer}
    (away : goalOf (c.plates plateId) ≠ some (c.plates plateId).position) :
    deliver c plateId kitchen robot = some (c, []) := by
  unfold deliver
  simp only
  cases finished : (c.plates plateId).isDishFinished with
  | true =>
      have elsewhere : (c.plates plateId).position ≠ outputPosition := by
        intro same
        apply away
        rw [goalOf, if_pos finished, same]
      simp [elsewhere]
  | false =>
      by_cases untargeted : (c.plates plateId).targetPosition = 0
      · simp [untargeted]
      · have elsewhere : (c.plates plateId).position ≠ (c.plates plateId).targetPosition := by
          intro same
          apply away
          rw [goalOf, if_neg (by simp [finished]), if_neg untargeted, same]
        simp [untargeted, elsewhere]

theorem deliver_inv {visited : PlateId} {kitchen : Option Bool} {robot : RobotAnswer}
    (taken : step config c (.deliver visited kitchen robot) = some (after, outputs)) :
    ∃ left, c.worker = .deliveringFinishedOrders left ∧ visited ∈ left ∧
      deliver (setWorker c (.deliveringFinishedOrders (left.erase visited))) visited kitchen robot =
        some (after, outputs) := by
  unfold step at taken
  split at taken
  · simp only at taken
    split at taken
    next left loop =>
      split at taken
      next member => exact ⟨left, loop, member, taken⟩
      · contradiction
    · contradiction
  · contradiction

/-- A visit that offers nothing changes nothing but the list of plates to visit. -/
theorem deliver_carried (belt : Belt config c) (placed : plateId ∈ c.occupiedPlates)
    (aimed : goalOf (c.plates plateId) = some goal) (inside : goal < config.plateCount)
    {kitchen : Option Bool} {robot : RobotAnswer}
    (quiet : offers c plateId (.deliver plateId kitchen robot) = false)
    (taken : step config c (.deliver plateId kitchen robot) = some (after, outputs)) :
    Carried config c after plateId goal false := by
  obtain ⟨left, loop, member, ran⟩ := deliver_inv taken
  have away : goalOf (c.plates plateId) ≠ some (c.plates plateId).position := by
    simpa [offers] using quiet
  have crossed : deliver (setWorker c (.deliveringFinishedOrders (left.erase plateId))) plateId
      kitchen robot =
      some (setWorker c (.deliveringFinishedOrders (left.erase plateId)), []) :=
    deliver_away away
  rw [crossed] at ran
  cases ran
  have there := belt.position_lt (belt.exist plateId placed)
  have notThere : wayTo config.plateCount (c.plates plateId).position goal ≠ 0 := by
    rw [ne_eq, wayTo_eq_zero there inside]
    intro same
    rw [same, aimed] at away
    exact away rfl
  have before : plateId ∈ leftToDeliver c.worker := by
    rw [loop]
    exact member
  refine ⟨placed, ?_, ?_⟩
  · rw [Bool.toNat_false, turned_zero there]
    rfl
  · rw [dueIn_away (Finset.notMem_erase plateId left), dueIn, if_pos before, stepsUntil]
    exact if_neg notThere

theorem step_carried (belt : Belt config c) (asked : Asked c)
    (placed : plateId ∈ c.occupiedPlates) (aimed : goalOf (c.plates plateId) = some goal)
    (inside : goal < config.plateCount) (reports : ReportsNotified c event)
    (quiet : offers c plateId event = false)
    (taken : step config c event = some (after, outputs)) :
    Carried config c after plateId goal (movesBelt c event) := by
  have occupied := (belt.occupied plateId).mp placed
  have step := (step_cases taken).2
  cases step with
  | notificationReceived | answerReceived | positionChanged | robotStopped | controllerLost
  | controllerConnected | expired => exact .kept belt placed placed rfl Iff.rfl
  | handled environment handler posted idle next ran =>
      have head : c.posted.head? = some handler := by rw [next, List.head?_cons]
      have beltTaken : Belt config (takeHandler c posted) :=
        belt.transport rfl rfl rfl rfl belt.left
      have askedTaken : Asked (takeHandler c posted) :=
        asked.transport rfl rfl rfl asked.visited
      by_cases moves : handler = .timerCompleted .moveConveyor
      · rw [movesBelt, head, moves, beq_self_eq_true]
        rw [moves] at ran
        cases ran
        have moved := moveConveyor_carried beltTaken placed idle inside
        exact ⟨moved.member, moved.plate, moved.due⟩
      · have still : movesBelt c (.runHandler environment) = false := by
          rw [movesBelt, head]
          simpa using moves
        rw [still]
        have kept := handles_carried beltTaken askedTaken placed aimed idle moves ran
        exact ⟨kept.member, kept.plate, kept.due⟩
  | retrieving left position reply loop member ran =>
      obtain ⟨plate, stays⟩ := visits_elsewhere ran reports occupied placed (by simp)
      refine .kept belt placed stays plate ?_
      rw [ran.frame.2.2.2.1, loop]
      rfl
  | retrieved loop =>
      refine .kept belt placed placed rfl ?_
      rw [loop]
      rfl
  | requesting left visited reply loop member ran =>
      obtain ⟨plate, stays⟩ := visits_elsewhere ran trivial occupied placed (by simp)
      refine .kept belt placed stays plate ?_
      rw [ran.frame.2.2.2.1, loop]
      rfl
  | requested loop =>
      unfold armMovement
      split
      · refine .kept belt placed placed rfl ?_
        rw [loop]
        rfl
      · refine .kept belt placed placed rfl ?_
        rw [loop]
        rfl
  | delivering left visited kitchen robot loop member ran =>
      by_cases here : visited = plateId
      · rw [here] at quiet taken
        exact deliver_carried belt placed aimed inside quiet taken
      · obtain ⟨plate, stays⟩ := visits_elsewhere ran trivial occupied placed (by
          intro other _ _ same
          cases same
          exact Ne.symm here)
        refine .kept belt placed stays plate ?_
        rw [ran.frame.2.2.2.1, loop]
        simp [setWorker, leftToDeliver, Ne.symm here]
  | delivered loop =>
      have decided := determineNextMovement_cases c
      generalize determineNextMovement c = after at decided
      have none : leftToDeliver c.worker = ∅ := by rw [loop, leftToDeliver]
      cases decided with
      | retrieves | requests | idles =>
          refine .kept belt placed placed rfl ?_
          rw [none]
          rfl

end Carried

section Outcomes

def Freed (c after : Conveyor) (plateId : PlateId) : Prop :=
  after.plates plateId = resetPlate (c.plates plateId) ∧ plateId ∉ after.occupiedPlates

def HandedToRobot (c after : Conveyor) (outputs : List Output) (plateId : PlateId) : Prop :=
  (∃ robot, c.positionRemoteRobotMap (c.plates plateId).targetPosition = some (some robot)) ∧
    outputs = [.robotInstructed (c.plates plateId).dish (c.plates plateId).placedRecipeId
      (c.plates plateId).processedSteps (c.plates plateId).targetPosition true] ∧
    Freed c after plateId

def TargetReset (c after : Conveyor) (plateId : PlateId) : Prop :=
  after.plates plateId = { c.plates plateId with targetPosition := 0 } ∧
    plateId ∈ after.occupiedPlates

def TakenByKitchen (c after : Conveyor) (outputs : List Output) (plateId : PlateId) : Prop :=
  outputs = [.completedOrder (c.plates plateId).dish (c.plates plateId).placedRecipeId true] ∧
    Freed c after plateId

def LeftByKitchen (c after : Conveyor) (outputs : List Output) (plateId : PlateId) : Prop :=
  (∀ output ∈ outputs, output =
    .completedOrder (c.plates plateId).dish (c.plates plateId).placedRecipeId false) ∧
    after.plates = c.plates ∧ plateId ∈ after.occupiedPlates

theorem freePlate_freed (c : Conveyor) (plateId : PlateId) :
    Freed c (freePlate c plateId) plateId :=
  ⟨by simp [freePlate, updatePlate], Finset.notMem_erase plateId c.occupiedPlates⟩

theorem setTargetPosition_reset (placed : plateId ∈ c.occupiedPlates) {known : Conveyor}
    (same : SameButRobots c known) : TargetReset c (setTargetPosition known plateId 0) plateId := by
  obtain ⟨map, rfl⟩ := same
  refine ⟨?_, placed⟩
  simp [setTargetPosition, updatePlate, withRobots]

theorem instructRobot_ends (placed : plateId ∈ c.occupiedPlates)
    (arrived : (c.plates plateId).position = (c.plates plateId).targetPosition)
    {entry : RemoteRobot}
    (registered : c.positionRemoteRobotMap (c.plates plateId).position = some (some entry))
    {reply : Option (Position × Bool)} (ran : instructRobot c plateId reply = (after, outputs)) :
    HandedToRobot c after outputs plateId ∨ TargetReset c after plateId := by
  unfold instructRobot at ran
  simp only at ran
  split at ran
  · cases ran
    exact .inr (setTargetPosition_reset placed (stopRobot_same c _))
  next robotPosition accepted =>
    cases ran
    cases accepted with
    | false => exact .inr (setTargetPosition_reset placed (.refl c))
    | true =>
        by_cases here : (c.plates plateId).position = robotPosition
        · rw [if_neg (by simp), if_neg (not_not.mpr here), arrived]
          rw [arrived] at registered
          exact .inl ⟨⟨entry, registered⟩, rfl, freePlate_freed c plateId⟩
        · rw [if_neg (by simp), if_pos here]
          have reset := setTargetPosition_reset placed (.refl c)
          exact .inr ⟨reset.1, reset.2⟩

theorem deliverPartialOrder_ends (placed : plateId ∈ c.occupiedPlates)
    (arrived : (c.plates plateId).position = (c.plates plateId).targetPosition)
    {robot : RobotAnswer} (ran : deliverPartialOrder c plateId robot = some (after, outputs)) :
    HandedToRobot c after outputs plateId ∨ TargetReset c after plateId := by
  unfold deliverPartialOrder at ran
  simp only at ran
  split at ran
  · cases ran
    exact .inr (setTargetPosition_reset placed (.refl c))
  · contradiction
  next entry registered =>
    split at ran
    · cases ran
      exact .inr (setTargetPosition_reset placed (readPosition_same c _ _))
    · split at ran
      · cases ran
        exact .inr (setTargetPosition_reset placed (stopRobot_same c _))
      · cases ran
        exact .inr (setTargetPosition_reset placed (.refl c))
      · exact instructRobot_ends placed arrived registered (Option.some.inj ran)

theorem deliverCompletedOrder_ends (placed : plateId ∈ c.occupiedPlates) {kitchen : Option Bool}
    (ran : deliverCompletedOrder c plateId kitchen = (after, outputs)) :
    kitchen = some true ∧ TakenByKitchen c after outputs plateId ∨
      kitchen ≠ some true ∧ LeftByKitchen c after outputs plateId ∧ after = c := by
  unfold deliverCompletedOrder at ran
  simp only at ran
  split at ran
  · cases ran
    exact .inr ⟨by simp, ⟨by simp, rfl, placed⟩, rfl⟩
  next accepted =>
    cases ran
    cases accepted with
    | false => exact .inr ⟨by simp, ⟨by simp, rfl, placed⟩, rfl⟩
    | true => exact .inl ⟨rfl, rfl, freePlate_freed c plateId⟩

theorem offers_inv (offer : offers c plateId event = true) :
    ∃ kitchen robot, event = .deliver plateId kitchen robot ∧
      goalOf (c.plates plateId) = some (c.plates plateId).position := by
  cases event with
  | deliver visited kitchen robot =>
      simp only [offers, decide_eq_true_eq] at offer
      obtain ⟨rfl, arrived⟩ := offer
      exact ⟨kitchen, robot, rfl, arrived⟩
  | _ => simp [offers] at offer

theorem deliver_finished (finished : (c.plates plateId).isDishFinished = true)
    (arrived : goalOf (c.plates plateId) = some (c.plates plateId).position)
    (kitchen : Option Bool) (robot : RobotAnswer) :
    (c.plates plateId).position = outputPosition ∧
      deliver c plateId kitchen robot = some (deliverCompletedOrder c plateId kitchen) := by
  rw [goalOf, if_pos finished] at arrived
  have arrived := (Option.some.inj arrived).symm
  exact ⟨arrived, by simp [deliver, finished, arrived]⟩

theorem deliver_unfinished (unfinished : (c.plates plateId).isDishFinished = false)
    (arrived : goalOf (c.plates plateId) = some (c.plates plateId).position)
    (kitchen : Option Bool) (robot : RobotAnswer) :
    (c.plates plateId).position = (c.plates plateId).targetPosition ∧
      deliver c plateId kitchen robot = deliverPartialOrder c plateId robot := by
  rw [goalOf, if_neg (by simp [unfinished])] at arrived
  split at arrived
  · contradiction
  next targeted =>
    have arrived := (Option.some.inj arrived).symm
    exact ⟨arrived, by simp [deliver, unfinished, targeted, arrived]⟩

theorem offer_to_robot (placed : plateId ∈ c.occupiedPlates)
    (unfinished : (c.plates plateId).isDishFinished = false)
    (offer : offers c plateId event = true)
    (taken : step config c event = some (after, outputs)) :
    HandedToRobot c after outputs plateId ∨ TargetReset c after plateId := by
  obtain ⟨kitchen, robot, rfl, arrived⟩ := offers_inv offer
  obtain ⟨left, loop, member, ran⟩ := deliver_inv taken
  obtain ⟨there, here⟩ := deliver_unfinished
    (c := setWorker c (.deliveringFinishedOrders (left.erase plateId))) unfinished arrived kitchen
    robot
  rw [here] at ran
  exact deliverPartialOrder_ends
    (c := setWorker c (.deliveringFinishedOrders (left.erase plateId))) placed there ran

theorem offer_to_kitchen (placed : plateId ∈ c.occupiedPlates)
    (finished : (c.plates plateId).isDishFinished = true)
    {kitchen : Option Bool} {robot : RobotAnswer}
    (offer : offers c plateId (.deliver plateId kitchen robot) = true)
    (taken : step config c (.deliver plateId kitchen robot) = some (after, outputs)) :
    kitchen = some true ∧ TakenByKitchen c after outputs plateId ∨
      kitchen ≠ some true ∧ LeftByKitchen c after outputs plateId ∧
        plateId ∉ leftToDeliver after.worker := by
  obtain ⟨_, _, _, arrived⟩ := offers_inv offer
  obtain ⟨left, loop, member, ran⟩ := deliver_inv taken
  have here := (deliver_finished
    (c := setWorker c (.deliveringFinishedOrders (left.erase plateId))) finished arrived kitchen
    robot).2
  rw [here] at ran
  have ends := deliverCompletedOrder_ends
    (c := setWorker c (.deliveringFinishedOrders (left.erase plateId))) placed
    (Option.some.inj ran)
  rcases ends with took | ⟨refused, stays, same⟩
  · exact .inl took
  · refine .inr ⟨refused, stays, ?_⟩
    rw [same]
    exact Finset.notMem_erase plateId left

end Outcomes

section Watching

/-- What is seen of the dish on a plate: the moves of the belt, after how many
of them the dish was offered, and whether an offer took the dish or its target
away. -/
structure Watch where
  moves : Nat
  offers : List Nat
  ended : Bool
  deriving DecidableEq

/-- Every offer but one that the kitchen does not accept. -/
def endsOffers (plate : Plate) : Event → Bool
  | .deliver _ kitchen _ => !plate.isDishFinished || kitchen == some true
  | _ => false

def watch (plateId : PlateId) (c : Conveyor) (event : Event) (seen : Watch) : Watch where
  moves := seen.moves + (movesBelt c event).toNat
  offers := if offers c plateId event && !seen.ended then seen.offers ++ [seen.moves]
    else seen.offers
  ended := seen.ended || offers c plateId event && endsOffers (c.plates plateId) event

def watching (config : Config) (began : Conveyor) (plateId : PlateId) :
    Machine (Conveyor × Watch) Event Output :=
  ((machine config).resume began).observed ⟨0, [], false⟩ (watch plateId)

def carriedPlate (config : Config) (began : Conveyor) (plateId : PlateId) (moves : Nat) : Plate :=
  { began.plates plateId with
    position := turned config.plateCount moves (began.plates plateId).position }

def offerMove (config : Config) (began : Conveyor) (plateId : PlateId) (goal : Position)
    (n : Nat) : Nat :=
  stepsUntil config.plateCount (began.plates plateId).position goal + config.plateCount * n

structure OnSchedule (config : Config) (began : Conveyor) (plateId : PlateId) (goal : Position)
    (c : Conveyor) (seen : Watch) : Prop where
  offered : seen.offers =
    (List.range seen.offers.length).map (offerMove config began plateId goal)
  once : (began.plates plateId).isDishFinished = false → seen.offers.length = seen.ended.toNat
  placed : seen.ended = false → plateId ∈ c.occupiedPlates
  plate : seen.ended = false → c.plates plateId = carriedPlate config began plateId seen.moves
  due : seen.ended = false → seen.moves + dueIn config c plateId goal =
    offerMove config began plateId goal seen.offers.length

variable {began : Conveyor} {goal : Position} {seen : Watch}

theorem onSchedule_began (belt : Belt config began) (placed : plateId ∈ began.occupiedPlates)
    (notDue : plateId ∉ leftToDeliver began.worker) :
    OnSchedule config began plateId goal began ⟨0, [], false⟩ where
  offered := rfl
  once := fun _ => rfl
  placed := fun _ => placed
  plate := fun _ => by
    have inside := belt.position_lt (belt.exist plateId placed)
    rw [carriedPlate, turned_zero inside]
  due := fun _ => by
    rw [dueIn_away notDue, offerMove, List.length_nil, Nat.mul_zero, Nat.add_zero]
    exact Nat.zero_add _

theorem OnSchedule.aimed (kept : OnSchedule config began plateId goal c seen)
    (lasts : seen.ended = false) (aimed : goalOf (began.plates plateId) = some goal) :
    goalOf (c.plates plateId) = some goal := by
  rw [kept.plate lasts, carriedPlate, goalOf_moved]
  exact aimed

theorem OnSchedule.carried (kept : OnSchedule config began plateId goal c seen)
    (lasts : seen.ended = false) (quiet : offers c plateId event = false)
    (carried : Carried config c after plateId goal (movesBelt c event)) :
    OnSchedule config began plateId goal after (watch plateId c event seen) := by
  have same : watch plateId c event seen =
      ⟨seen.moves + (movesBelt c event).toNat, seen.offers, seen.ended⟩ := by
    simp [watch, quiet]
  rw [same]
  constructor
  · exact kept.offered
  · exact kept.once
  · exact fun _ => carried.member
  · intro _
    rw [carried.plate, kept.plate lasts, carriedPlate, carriedPlate, turned_turned]
  · intro _
    have before := kept.due lasts
    have nearer := carried.due
    simp only
    omega

theorem OnSchedule.offers_due (kept : OnSchedule config began plateId goal c seen)
    (lasts : seen.ended = false)
    (aimed : goalOf (began.plates plateId) = some goal) (inside : goal < config.plateCount)
    (offer : offers c plateId event = true)
    (taken : step config c event = some (after, outputs)) :
    (c.plates plateId).position = goal ∧
      seen.moves = offerMove config began plateId goal seen.offers.length := by
  obtain ⟨kitchen, robot, rfl, arrived⟩ := offers_inv offer
  rw [kept.aimed lasts aimed] at arrived
  have there := (Option.some.inj arrived).symm
  obtain ⟨left, loop, member, _⟩ := deliver_inv taken
  have visiting : plateId ∈ leftToDeliver c.worker := by
    rw [loop]
    exact member
  have due := kept.due lasts
  rw [dueIn, if_pos visiting, there, (wayTo_eq_zero inside inside).mpr rfl, Nat.add_zero] at due
  exact ⟨there, due⟩

theorem OnSchedule.offer (kept : OnSchedule config began plateId goal c seen)
    (lasts : seen.ended = false) (aimed : goalOf (began.plates plateId) = some goal)
    (inside : goal < config.plateCount) (offer : offers c plateId event = true)
    (taken : step config c event = some (after, outputs)) :
    OnSchedule config began plateId goal after (watch plateId c event seen) := by
  obtain ⟨there, now⟩ := kept.offers_due lasts aimed inside offer taken
  obtain ⟨kitchen, robot, rfl, _⟩ := offers_inv offer
  have placed := kept.placed lasts
  have same : watch plateId c (.deliver plateId kitchen robot) seen =
      ⟨seen.moves, seen.offers ++ [seen.moves],
        endsOffers (c.plates plateId) (.deliver plateId kitchen robot)⟩ := by
    simp [watch, offer, lasts, movesBelt]
  have finishedSame : (c.plates plateId).isDishFinished =
      (began.plates plateId).isDishFinished := by
    rw [kept.plate lasts, carriedPlate]
  rw [same]
  have offered : seen.offers ++ [seen.moves] =
      (List.range (seen.offers ++ [seen.moves]).length).map
        (offerMove config began plateId goal) := by
    rw [List.length_append, List.length_singleton, List.range_succ, List.map_append, ← kept.offered,
      List.map_singleton, ← now]
  cases finished : (c.plates plateId).isDishFinished with
  | false =>
      have none := kept.once (finishedSame.symm.trans finished)
      rw [lasts, Bool.toNat_false] at none
      have ends : endsOffers (c.plates plateId) (.deliver plateId kitchen robot) = true := by
        simp [endsOffers, finished]
      rw [ends]
      refine ⟨offered, ?_, ?_, ?_, ?_⟩
      · intro _
        simp [none]
      · simp
      · simp
      · simp
  | true =>
      have notUnfinished : (began.plates plateId).isDishFinished ≠ false := by
        rw [← finishedSame, finished]
        simp
      rcases offer_to_kitchen placed finished offer taken with
        ⟨rfl, _⟩ | ⟨refused, ⟨_, plates, stays⟩, visited⟩
      · have ends : endsOffers (c.plates plateId) (.deliver plateId (some true) robot) = true := by
          simp [endsOffers]
        rw [ends]
        exact ⟨offered, fun unfinished => absurd unfinished notUnfinished, by simp, by simp,
          by simp⟩
      · refine ⟨offered, fun unfinished => absurd unfinished notUnfinished, fun _ => stays, ?_, ?_⟩
        · intro _
          rw [plates]
          exact kept.plate lasts
        · intro _
          rw [dueIn_away visited, plates, there, stepsUntil_there inside, List.length_append,
            List.length_singleton, offerMove, Nat.mul_add, Nat.mul_one, ← Nat.add_assoc]
          exact congrArg (· + config.plateCount) now

theorem OnSchedule.step (kept : OnSchedule config began plateId goal c seen) (belt : Belt config c)
    (asked : Asked c) (aimed : goalOf (began.plates plateId) = some goal)
    (inside : goal < config.plateCount) (reports : ReportsNotified c event)
    (taken : ConveyorAgent.step config c event = some (after, outputs)) :
    OnSchedule config began plateId goal after (watch plateId c event seen) := by
  cases ended : seen.ended with
  | true =>
      have same : watch plateId c event seen =
          ⟨seen.moves + (movesBelt c event).toNat, seen.offers, seen.ended⟩ := by
        simp [watch, ended]
      rw [same]
      exact ⟨kept.offered, kept.once, by simp [ended], by simp [ended], by simp [ended]⟩
  | false =>
      cases offer : offers c plateId event with
      | true => exact kept.offer ended aimed inside offer taken
      | false =>
          have carried := step_carried belt asked (kept.placed ended) (kept.aimed ended aimed)
            inside
            reports offer taken
          exact kept.carried ended offer carried

theorem reaches_watched {first history : History Event Output} {state : Conveyor × Watch}
    (reached : (machine config).Reaches ReportsNotified first began)
    (followed : (watching config began plateId).Reaches (fun state => ReportsNotified state.1)
      history state) : (machine config).Reaches ReportsNotified (first ++ history) state.1 := by
  have resumed : ((machine config).resume began).Reaches ReportsNotified history state.1 :=
    followed.unobserved (fun _ _ permitted => permitted)
  exact reached.resumed resumed

theorem reaches_onSchedule {first history : History Event Output} {state : Conveyor × Watch}
    (reached : (machine config).Reaches ReportsNotified first began)
    (placed : plateId ∈ began.occupiedPlates) (notDue : plateId ∉ leftToDeliver began.worker)
    (aimed : goalOf (began.plates plateId) = some goal) (inside : goal < config.plateCount)
    (followed : (watching config began plateId).Reaches (fun state => ReportsNotified state.1)
      history state) : OnSchedule config began plateId goal state.1 state.2 := by
  induction followed with
  | @start state started =>
      obtain ⟨started, nothing⟩ := started
      have started : state.1 = began := started
      rw [started, nothing]
      exact onSchedule_began (reaches_belt reached) placed notDue
  | step earlier permitted taken kept =>
      have before := reaches_watched reached earlier
      obtain ⟨taken, recorded⟩ := Machine.observed_step taken
      rw [recorded]
      exact kept.step (reaches_belt before) (reaches_asked before) aimed inside permitted taken

/-- An offer is due while its plate is still to be visited, and not before. -/
theorem OnSchedule.moves_le (kept : OnSchedule config began plateId goal c seen)
    (lasts : seen.ended = false) :
    seen.moves ≤ offerMove config began plateId goal seen.offers.length ∧
      (seen.moves = offerMove config began plateId goal seen.offers.length →
        plateId ∈ leftToDeliver c.worker) := by
  have due := kept.due lasts
  constructor
  · omega
  · intro now
    by_contra visited
    have notDue : dueIn config c plateId goal = 0 := by omega
    rw [dueIn_away visited, stepsUntil] at notDue
    split at notDue
    · exact absurd notDue config.plateCountPositive.ne'
    · contradiction

end Watching

section Schedules

/-- The moves that carry a plate to its target, one round if it stands there. -/
def movesToTarget (config : Config) (plate : Plate) : Nat :=
  if plate.position = plate.targetPosition then config.plateCount
  else (plate.targetPosition + config.plateCount - plate.position) % config.plateCount

/-- What a run shows of an unfinished dish that has a target: nothing happens to
its plate but that the belt carries it, until it is offered after just as many
moves as lead to the target. -/
structure DeliveredOnTime (config : Config) (began : Conveyor) (plateId : PlateId) (c : Conveyor)
    (seen : Watch) : Prop where
  offered : seen.offers = [] ∨ seen.offers = [movesToTarget config (began.plates plateId)]
  waiting : seen.offers = [] → plateId ∈ c.occupiedPlates ∧
    c.plates plateId = carriedPlate config began plateId seen.moves ∧
    seen.moves ≤ movesToTarget config (began.plates plateId) ∧
    (seen.moves = movesToTarget config (began.plates plateId) →
      plateId ∈ leftToDeliver c.worker)
  ends : seen.offers = [] → ∀ event after outputs, step config c event = some (after, outputs) →
    offers c plateId event = true → seen.moves = movesToTarget config (began.plates plateId) ∧
      (c.plates plateId).position = (began.plates plateId).targetPosition ∧
      (HandedToRobot c after outputs plateId ∨ TargetReset c after plateId)

/-- What a run shows of a finished dish: it is offered when it comes to the
output, and then once a round as long as the kitchen leaves it. -/
structure ServedOnTime (config : Config) (began : Conveyor) (plateId : PlateId) (c : Conveyor)
    (seen : Watch) : Prop where
  offered : seen.offers = (List.range seen.offers.length).map fun round =>
    config.plateCount - (began.plates plateId).position + config.plateCount * round
  waiting : seen.ended = false → plateId ∈ c.occupiedPlates ∧
    c.plates plateId = carriedPlate config began plateId seen.moves ∧
    seen.moves ≤ config.plateCount - (began.plates plateId).position +
      config.plateCount * seen.offers.length ∧
    (seen.moves = config.plateCount - (began.plates plateId).position +
      config.plateCount * seen.offers.length → plateId ∈ leftToDeliver c.worker)
  ends : seen.ended = false → ∀ event after outputs, step config c event = some (after, outputs) →
    offers c plateId event = true →
      seen.moves = config.plateCount - (began.plates plateId).position +
        config.plateCount * seen.offers.length ∧
      (c.plates plateId).position = outputPosition ∧
      (TakenByKitchen c after outputs plateId ∧ (watch plateId c event seen).ended = true ∨
        LeftByKitchen c after outputs plateId ∧ (watch plateId c event seen).ended = false)

/-- Dishes are offered at these visits only, each where it is to go. -/
def OffersOnly (c : Conveyor) (event : Event) : Output → Prop
  | .robotInstructed dish recipeId processedSteps position _ =>
      ∃ plateId, offers c plateId event = true ∧ (c.plates plateId).isDishFinished = false ∧
        (c.plates plateId).targetPosition = position ∧ (c.plates plateId).position = position ∧
        (c.plates plateId).dish = dish ∧ (c.plates plateId).placedRecipeId = recipeId ∧
        (c.plates plateId).processedSteps = processedSteps
  | .completedOrder dish recipeId _ =>
      ∃ plateId, offers c plateId event = true ∧ (c.plates plateId).isDishFinished = true ∧
        (c.plates plateId).position = outputPosition ∧
        (c.plates plateId).dish = dish ∧ (c.plates plateId).placedRecipeId = recipeId
  | .handoverReply _ _ | .nextRobotRequested _ => True

theorem movesToTarget_eq {plate : Plate} (stands : plate.position < config.plateCount)
    (inside : plate.targetPosition < config.plateCount) :
    movesToTarget config plate =
      stepsUntil config.plateCount plate.position plate.targetPosition := by
  rw [movesToTarget, stepsUntil]
  by_cases there : plate.position = plate.targetPosition
  · rw [if_pos there, if_pos ((wayTo_eq_zero stands inside).mpr there)]
  · rw [if_neg there, if_neg (fun none => there ((wayTo_eq_zero stands inside).mp none)), wayTo]

variable {began : Conveyor} {seen : Watch}

theorem deliveredOnTime_of_onSchedule (belt : Belt config began)
    (placed : plateId ∈ began.occupiedPlates)
    (unfinished : (began.plates plateId).isDishFinished = false)
    (targeted : 0 < (began.plates plateId).targetPosition)
    (inside : (began.plates plateId).targetPosition < config.plateCount)
    (kept : OnSchedule config began plateId (began.plates plateId).targetPosition c seen) :
    DeliveredOnTime config began plateId c seen := by
  have stands := belt.position_lt (belt.exist plateId placed)
  have aimed : goalOf (began.plates plateId) = some (began.plates plateId).targetPosition := by
    rw [goalOf, if_neg (by simp [unfinished]), if_neg targeted.ne']
  have first : offerMove config began plateId (began.plates plateId).targetPosition 0 =
      movesToTarget config (began.plates plateId) := by
    rw [offerMove, Nat.mul_zero, Nat.add_zero, movesToTarget_eq stands inside]
  have once := kept.once unfinished
  have lasts : seen.offers = [] → seen.ended = false := by
    intro none
    rw [none] at once
    cases ended : seen.ended with
    | true => simp [ended] at once
    | false => rfl
  constructor
  · cases ended : seen.ended with
    | false =>
        left
        rw [ended, Bool.toNat_false, List.length_eq_zero_iff] at once
        exact once
    | true =>
        right
        have offered := kept.offered
        rw [once, ended, Bool.toNat_true, List.range_one, List.map_singleton, first] at offered
        exact offered
  · intro none
    have due := kept.moves_le (lasts none)
    rw [none, List.length_nil, first] at due
    exact ⟨kept.placed (lasts none), kept.plate (lasts none), due⟩
  · intro none event after outputs taken offer
    obtain ⟨there, now⟩ := kept.offers_due (lasts none) aimed inside offer taken
    rw [none, List.length_nil, first] at now
    have stays : (c.plates plateId).isDishFinished = false := by
      rw [kept.plate (lasts none)]
      exact unfinished
    exact ⟨now, there, offer_to_robot (kept.placed (lasts none)) stays offer taken⟩

theorem servedOnTime_of_onSchedule (belt : Belt config began)
    (placed : plateId ∈ began.occupiedPlates)
    (finished : (began.plates plateId).isDishFinished = true)
    (kept : OnSchedule config began plateId outputPosition c seen) :
    ServedOnTime config began plateId c seen := by
  have stands := belt.position_lt (belt.exist plateId placed)
  have aimed : goalOf (began.plates plateId) = some outputPosition := if_pos finished
  have inside : outputPosition < config.plateCount := config.plateCountPositive
  have rounds : ∀ round, offerMove config began plateId outputPosition round =
      config.plateCount - (began.plates plateId).position + config.plateCount * round := by
    intro round
    rw [offerMove, outputPosition, stepsUntil_start stands]
  constructor
  · rw [← funext rounds]
    exact kept.offered
  · intro lasts
    have due := kept.moves_le lasts
    rw [rounds] at due
    exact ⟨kept.placed lasts, kept.plate lasts, due⟩
  · intro lasts event after outputs taken offer
    obtain ⟨there, now⟩ := kept.offers_due lasts aimed inside offer taken
    rw [rounds] at now
    refine ⟨now, there, ?_⟩
    have stays : (c.plates plateId).isDishFinished = true := by
      rw [kept.plate lasts]
      exact finished
    obtain ⟨kitchen, robot, rfl, _⟩ := offers_inv offer
    rcases offer_to_kitchen (kept.placed lasts) stays offer taken with
      ⟨accepted, took⟩ | ⟨refused, leaves, _⟩
    · rw [accepted] at offer
      exact .inl ⟨took, by simp [watch, offer, endsOffers, accepted]⟩
    · exact .inr ⟨leaves, by simp [watch, lasts, endsOffers, stays, refused]⟩

theorem deliverPartialOrder_outputs {robot : RobotAnswer}
    (ran : deliverPartialOrder c plateId robot = some (after, outputs)) :
    ∀ output ∈ outputs, ∃ accepted, output =
      .robotInstructed (c.plates plateId).dish (c.plates plateId).placedRecipeId
        (c.plates plateId).processedSteps (c.plates plateId).position accepted := by
  have instructed : ∀ reply, ∀ output ∈ (instructRobot c plateId reply).2, ∃ accepted, output =
      .robotInstructed (c.plates plateId).dish (c.plates plateId).placedRecipeId
        (c.plates plateId).processedSteps (c.plates plateId).position accepted := by
    intro reply output member
    cases reply with
    | none => contradiction
    | some reply => exact ⟨reply.2, List.mem_singleton.mp member⟩
  unfold deliverPartialOrder at ran
  simp only at ran
  split at ran
  · cases ran
    simp
  · contradiction
  · split at ran
    · cases ran
      simp
    · split at ran
      · cases ran
        simp
      · cases ran
        simp
      · have outs := instructed robot.reply
        rw [Option.some.inj ran] at outs
        exact outs

theorem deliver_offersOnly {kitchen : Option Bool} {robot : RobotAnswer}
    (ran : deliver c plateId kitchen robot = some (after, outputs)) :
    ∀ output ∈ outputs, OffersOnly c (.deliver plateId kitchen robot) output := by
  intro output member
  by_cases arrived : goalOf (c.plates plateId) = some (c.plates plateId).position
  · have offer : offers c plateId (.deliver plateId kitchen robot) = true := by
      simp [offers, arrived]
    cases finished : (c.plates plateId).isDishFinished with
    | true =>
        obtain ⟨there, here⟩ := deliver_finished finished arrived kitchen robot
        rw [here] at ran
        cases kitchen with
        | none =>
            cases ran
            contradiction
        | some accepted =>
            cases ran
            rw [List.mem_singleton.mp member]
            exact ⟨plateId, offer, finished, there, rfl, rfl⟩
    | false =>
        obtain ⟨there, here⟩ := deliver_unfinished finished arrived kitchen robot
        rw [here] at ran
        obtain ⟨accepted, rfl⟩ := deliverPartialOrder_outputs ran output member
        exact ⟨plateId, offer, finished, there.symm, rfl, rfl, rfl, rfl⟩
  · rw [deliver_away arrived] at ran
    cases ran
    contradiction

theorem step_offersOnly (taken : step config c event = some (after, outputs)) :
    ∀ output ∈ outputs, OffersOnly c event output := by
  have step := (step_cases taken).2
  cases step with
  | notificationReceived | answerReceived | positionChanged | robotStopped | controllerLost
  | controllerConnected | expired | handled | retrieved | requested | delivered => simp
  | retrieving left position reply loop member ran =>
      cases ran with
      | keptNotification | droppedNotification => simp
      | handedOver => simp [OffersOnly]
  | requesting left visited reply loop member ran =>
      cases ran with
      | notRequested => simp
      | requested => simp [OffersOnly]
  | delivering left visited kitchen robot =>
      obtain ⟨left, _, _, ran⟩ := deliver_inv taken
      exact deliver_offersOnly (c := setWorker c (.deliveringFinishedOrders (left.erase visited)))
        ran

/-- Where the target of a plate is set, no dish is just delivered. -/
theorem step_target_settled (belt : Belt config c)
    (taken : step config c event = some (after, outputs))
    (changed : (after.plates plateId).targetPosition ≠ (c.plates plateId).targetPosition)
    (targeted : (after.plates plateId).targetPosition ≠ 0) :
    plateId ∉ leftToDeliver after.worker := by
  have step := (step_cases taken).2
  rcases step_target belt step plateId with same | reset | ⟨answer, ⟨idle, ⟨posted, next⟩, _⟩, _⟩
  · exact absurd same changed
  · exact absurd reset targeted
  · have settled : plateId ∉ leftToDeliver c.worker := by simp [idle, leftToDeliver]
    cases step with
    | notificationReceived | answerReceived | positionChanged | robotStopped | controllerLost
    | controllerConnected | expired => exact settled
    | handled environment handler others _ front ran =>
        rw [next] at front
        cases front
        cases ran with
        | answerIgnored => exact settled
        | answerTaken _ map position rest =>
            obtain ⟨_, _, worker, _⟩ :=
              takeNextRobot_frame (withRobots (takeHandler c posted) map) answer position rest
            rw [worker]
            exact settled
    | retrieving left _ _ loop | retrieved loop | requesting left _ _ loop | requested loop
    | delivering left _ _ _ loop | delivered loop =>
        rw [idle] at loop
        contradiction

theorem deliver_step_returns (noNull : NoNull c) (running : c.running = true)
    (visiting : plateId ∈ leftToDeliver c.worker) (kitchen : Option Bool) (robot : RobotAnswer) :
    (step config c (.deliver plateId kitchen robot)).isSome = true := by
  cases loop : c.worker with
  | deliveringFinishedOrders left =>
      rw [loop] at visiting
      have crossed : NoNull (setWorker c (.deliveringFinishedOrders (left.erase plateId))) :=
        noNull.congr rfl
      have member : plateId ∈ left := visiting
      simp only [step, running, loop, if_true, if_pos member]
      exact deliver_returns crossed plateId kitchen robot
  | betweenHandlers | retrievingFinishedOrders | requestingNextRobots =>
      rw [loop] at visiting
      exact absurd visiting (Finset.notMem_empty plateId)

/-- Robots report the notified position on handover. Then an unfinished dish
with a target is offered to the robot there after just the moves that lead to
it, and a finished one to the kitchen whenever it comes to the output. No dish
is offered anywhere else. -/
theorem dishes_offered_on_time (config : Config) (first : History Event Output)
    (began : Conveyor) (reached : (machine config).Reaches ReportsNotified first began)
    (plateId : PlateId) (placed : plateId ∈ began.occupiedPlates)
    (notDue : plateId ∉ leftToDeliver began.worker) (history : History Event Output)
    (c : Conveyor) (seen : Watch)
    (followed : (watching config began plateId).Reaches (fun state => ReportsNotified state.1)
      history (c, seen)) :
    ((began.plates plateId).isDishFinished = false →
      0 < (began.plates plateId).targetPosition →
      (began.plates plateId).targetPosition < config.plateCount →
      DeliveredOnTime config began plateId c seen) ∧
    ((began.plates plateId).isDishFinished = true → ServedOnTime config began plateId c seen) ∧
    (c.running = true → plateId ∈ leftToDeliver c.worker → ∀ kitchen robot,
      (step config c (.deliver plateId kitchen robot)).isSome = true) ∧
    ∀ event after outputs, step config c event = some (after, outputs) →
      (∀ output ∈ outputs, OffersOnly c event output) ∧
      ∀ other, (after.plates other).targetPosition ≠ (c.plates other).targetPosition →
        (after.plates other).targetPosition ≠ 0 → other ∉ leftToDeliver after.worker := by
  have belt := reaches_belt reached
  have reachedLast := reaches_watched reached followed
  refine ⟨?_, ?_, ?_, ?_⟩
  · intro unfinished targeted inside
    have aimed : goalOf (began.plates plateId) = some (began.plates plateId).targetPosition := by
      rw [goalOf, if_neg (by simp [unfinished]), if_neg targeted.ne']
    have kept := reaches_onSchedule reached placed notDue aimed inside followed
    exact deliveredOnTime_of_onSchedule belt placed unfinished targeted inside kept
  · intro finished
    have aimed : goalOf (began.plates plateId) = some outputPosition := if_pos finished
    have kept := reaches_onSchedule reached placed notDue aimed config.plateCountPositive followed
    exact servedOnTime_of_onSchedule belt placed finished kept
  · intro running visiting kitchen robot
    exact deliver_step_returns (reaches_noNull reachedLast) running visiting kitchen robot
  · intro event after outputs taken
    have beltLast := reaches_belt reachedLast
    exact ⟨step_offersOnly taken, fun other => step_target_settled beltLast taken⟩

/-- The dish on plate 2 gets the next position as its target. It is offered
there after one move and the robot takes it. -/
theorem dish_offered_after_one_move :
    ∃ first began history c seen,
      (machine fivePlates).Reaches ReportsNotified first began ∧
      (watching fivePlates began 2).Reaches (fun state => ReportsNotified state.1) history
        (c, seen) ∧
      (began.plates 2).position = 2 ∧ (began.plates 2).targetPosition = 3 ∧
      seen.offers = [1] ∧ DeliveredOnTime fivePlates began 2 c seen := by
  obtain ⟨first, began, reached, shown⟩ := Machine.exists_reaches_of_replay (machine fivePlates)
    ReportsNotified (show (machine fivePlates).start (initial fivePlates) from rfl)
    [.receiveFinishedOrderNotification "opc.tcp://robot:2" 2, .runHandler ⟨true, none, none⟩,
     .timerExpires, .runHandler ⟨true, none, none⟩,
     .retrieve 2 (some (7, ⟨"opc.tcp://robot:2", 2, 3, 4, false⟩)), .retrieved,
     .requestNextRobot 2 (some true), .requested,
     .receiveNextRobot ⟨3, "opc.tcp://robot:3", 3, ⟨2, 3, 4⟩⟩, .runHandler ⟨true, none, none⟩]
    (fun _ began => decide (2 ∈ began.occupiedPlates ∧ began.worker = .betweenHandlers ∧
      (began.plates 2).isDishFinished = false ∧ (began.plates 2).position = 2 ∧
      (began.plates 2).targetPosition = 3 ∧
      ((watching fivePlates began 2).replay (fun state => ReportsNotified state.1) []
        (began, ⟨0, [], false⟩)
        [.timerExpires, .runHandler ⟨true, none, none⟩,
         .deliver 2 none ⟨some 3, some true, some (3, true)⟩]).any
        (fun result => decide (result.2.2.offers = [1])) = true)) (by decide)
  obtain ⟨placed, idle, unfinished, position, target, replayed⟩ := of_decide_eq_true shown
  obtain ⟨history, state, followed, offered⟩ := Machine.exists_reaches_of_replay
    (watching fivePlates began 2) (fun state => ReportsNotified state.1)
    (show (watching fivePlates began 2).start (began, ⟨0, [], false⟩) from ⟨rfl, rfl⟩) _
    (fun _ state => decide (state.2.offers = [1])) replayed
  obtain ⟨c, seen⟩ := state
  have onTime := dishes_offered_on_time fivePlates first began reached 2 placed
    (by simp [idle, leftToDeliver]) history c seen followed
  have delivered := onTime.1 unfinished (by rw [target]; decide) (by rw [target]; decide)
  exact ⟨first, began, history, c, seen, reached, followed, position, target,
    of_decide_eq_true offered, delivered⟩

end Schedules

end CpsKitchen.ConveyorAgent
