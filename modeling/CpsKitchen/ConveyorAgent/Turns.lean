import CpsKitchen.ConveyorAgent.Loops
import CpsKitchen.ConveyorAgent.RemoteRobots

/-!
# One turn of a loop

A turn of a loop writes one plate, the entry of the position the plate is at
and the robot or the kitchen it calls. What two turns at two plates write can
be written in either order.
-/

namespace CpsKitchen.ConveyorAgent

open CpsKitchen.Reactive CpsKitchen.Recipes
open CpsKitchen.RobotAgent (HandoverReply)
open CpsKitchen.RobotMap (RemoteRobot)

set_option autoImplicit false

variable {Robot Kitchen : Type*}

/-- What one turn writes. `occupied` tells whether the plate joins or leaves
`occupied_plates_`. -/
structure Change (Robot Kitchen : Type*) where
  plateId : PlateId
  position : Position
  plate : Plate
  entry : Option (Option RemoteRobot)
  dropped : Finset Position
  occupied : Option Bool
  runs : Bool
  robot : Option (String × (Robot → Robot))
  kitchen : Kitchen → Kitchen
  calls : Multiset Call

namespace Change

@[simp]
def occupy (plateId : PlateId) (plates : Finset PlateId) : Option Bool → Finset PlateId
  | none => plates
  | some true => insert plateId plates
  | some false => plates.erase plateId

@[simp]
def answerRobot (robots : String → Robot) : Option (String × (Robot → Robot)) → String → Robot
  | none => robots
  | some (endpoint, answer) => Function.update robots endpoint (answer (robots endpoint))

/-- The attribute is written only where the set changes. -/
@[simp]
def writeConveyor (change : Change Robot Kitchen) (c : Conveyor) : Conveyor :=
  let occupiedPlates := occupy change.plateId c.occupiedPlates change.occupied
  { c with
    plates := Function.update c.plates change.plateId change.plate
    positionRemoteRobotMap := Function.update c.positionRemoteRobotMap change.position change.entry
    notifications := c.notifications \ change.dropped
    occupiedPlates := occupiedPlates
    occupiedPlatesAttribute :=
      if change.occupied.isSome then occupiedPlates.card else c.occupiedPlatesAttribute
    running := c.running && change.runs }

@[simp]
def perform (change : Change Robot Kitchen) (loop : Loop Robot Kitchen) : Loop Robot Kitchen where
  conveyor := change.writeConveyor loop.conveyor
  robots := answerRobot loop.robots change.robot
  kitchen := change.kitchen loop.kitchen
  calls := change.calls + loop.calls

theorem perform_eq {change : Change Robot Kitchen} {loop : Loop Robot Kitchen} {c : Conveyor}
    {calls : Multiset Call} (writes : change.writeConveyor loop.conveyor = c)
    (made : change.calls + loop.calls = calls) :
    change.perform loop =
      ⟨c, answerRobot loop.robots change.robot, change.kitchen loop.kitchen, calls⟩ := by
  rw [perform, writes, made]

/-- Two turns at two plates that do not disturb each other at another agent. -/
structure Apart (one two : Change Robot Kitchen) : Prop where
  plates : one.plateId ≠ two.plateId
  positions : one.position ≠ two.position
  robots : ∀ robots, answerRobot (answerRobot robots one.robot) two.robot =
    answerRobot (answerRobot robots two.robot) one.robot
  kitchen : one.kitchen = id ∨ two.kitchen = id

theorem occupy_comm {first second : PlateId} (different : first ≠ second)
    (plates : Finset PlateId) (one two : Option Bool) :
    occupy second (occupy first plates one) two = occupy first (occupy second plates two) one := by
  cases one with
  | none => rfl
  | some joins =>
      cases two with
      | none => rfl
      | some also =>
          cases joins with
          | false =>
              cases also with
              | false => exact Finset.erase_right_comm
              | true => exact (Finset.erase_insert_of_ne different.symm).symm
          | true =>
              cases also with
              | false => exact Finset.erase_insert_of_ne different
              | true => exact Finset.insert_comm second first plates

theorem answerRobot_comm {robots : String → Robot} {one two : Option (String × (Robot → Robot))}
    (agree : ∀ endpoint answer other reply, one = some (endpoint, answer) →
      two = some (other, reply) → endpoint = other → answer = reply) :
    answerRobot (answerRobot robots one) two = answerRobot (answerRobot robots two) one := by
  cases one with
  | none => rfl
  | some first =>
      cases two with
      | none => rfl
      | some second =>
          obtain ⟨endpoint, answer⟩ := first
          obtain ⟨other, reply⟩ := second
          by_cases same : endpoint = other
          · rw [agree endpoint answer other reply rfl rfl same, same]
          · simp only [answerRobot, Function.update_of_ne same,
              Function.update_of_ne (Ne.symm same)]
            exact Function.update_comm same _ _ robots

theorem writeConveyor_comm {one two : Change Robot Kitchen} (plates : one.plateId ≠ two.plateId)
    (positions : one.position ≠ two.position) (c : Conveyor) :
    two.writeConveyor (one.writeConveyor c) = one.writeConveyor (two.writeConveyor c) := by
  have occupied := occupy_comm plates c.occupiedPlates one.occupied two.occupied
  have published : (if two.occupied.isSome then
        (occupy two.plateId (occupy one.plateId c.occupiedPlates one.occupied) two.occupied).card
      else if one.occupied.isSome then (occupy one.plateId c.occupiedPlates one.occupied).card
      else c.occupiedPlatesAttribute) =
      if one.occupied.isSome then
        (occupy one.plateId (occupy two.plateId c.occupiedPlates two.occupied) one.occupied).card
      else if two.occupied.isSome then (occupy two.plateId c.occupiedPlates two.occupied).card
      else c.occupiedPlatesAttribute := by
    rw [occupied]
    cases one.occupied with
    | none => rfl
    | some joins =>
        cases two.occupied with
        | none => rfl
        | some also => rfl
  simp only [writeConveyor]
  rw [published, occupied, Function.update_comm plates, Function.update_comm positions,
    sdiff_right_comm, Bool.and_right_comm]

theorem Apart.perform_comm {one two : Change Robot Kitchen} (apart : Apart one two)
    (loop : Loop Robot Kitchen) :
    two.perform (one.perform loop) = one.perform (two.perform loop) := by
  have kitchens : two.kitchen (one.kitchen loop.kitchen) =
      one.kitchen (two.kitchen loop.kitchen) := by
    cases apart.kitchen with
    | inl idle => rw [idle, id, id]
    | inr idle => rw [idle, id, id]
  simp only [perform]
  rw [writeConveyor_comm apart.plates apart.positions, apart.robots, kitchens, add_left_comm]

end Change

section Turns

variable (peers : Peers Robot Kitchen)

@[simp]
def unchanged (c : Conveyor) (plateId : PlateId) (position : Position) : Change Robot Kitchen where
  plateId := plateId
  position := position
  plate := c.plates plateId
  entry := c.positionRemoteRobotMap position
  dropped := ∅
  occupied := none
  runs := true
  robot := none
  kitchen := id
  calls := 0

def stopped (change : Change Robot Kitchen) (robot : RemoteRobot) : Change Robot Kitchen :=
  { change with entry := some (some { robot with running := false }) }

def handed (change : Change Robot Kitchen) (dish : DishId) (reply : HandoverReply) :
    Change Robot Kitchen :=
  if reply.recipeId = 0 then change
  else
    { change with
      plate :=
        { change.plate with
          placedRecipeId := reply.recipeId
          occupied := true
          isDishFinished := reply.isDishFinished
          processedSteps := reply.processedSteps
          dish := dish }
      occupied := some true }

def retrieval (loop : Loop Robot Kitchen) (position : Position) : Change Robot Kitchen :=
  let c := loop.conveyor
  let change := unchanged c (c.positionPlateIdMap position) position
  if (plateAt c position).occupied then change
  else
    let dropped := { change with dropped := {position} }
    match findRobot c position with
    | none => dropped
    | some robot =>
        let asked :=
          { dropped with
            robot := some (robot.endpoint, fun state => (peers.handoverFinishedOrder state).2)
            calls := {.handoverFinishedOrder robot.endpoint} }
        match (peers.handoverFinishedOrder (loop.robots robot.endpoint)).1 with
        | none => stopped asked robot
        | some (dish, reply) => handed asked dish reply

def refused (change : Change Robot Kitchen) : Change Robot Kitchen :=
  { change with plate := { change.plate with targetPosition := 0 } }

def freed (change : Change Robot Kitchen) : Change Robot Kitchen :=
  { change with plate := resetPlate change.plate, occupied := some false }

def instructed (change : Change Robot Kitchen) (robot : RemoteRobot) :
    Option (Position × Bool) → Change Robot Kitchen
  | none => refused (stopped change robot)
  | some (reported, accepted) =>
      if ¬ accepted then refused change
      else if change.plate.position ≠ reported then { refused change with runs := false }
      else freed change

def turnAtRobot (loop : Loop Robot Kitchen) (change : Change Robot Kitchen)
    (robot : RemoteRobot) : Change Robot Kitchen :=
  let plate := change.plate
  let state := loop.robots robot.endpoint
  let read := { change with calls := {.getPosition robot.endpoint} }
  if (peers.getPosition state).getD 0 ≠ plate.position then
    refused (if peers.getPosition state = none then stopped read robot else read)
  else
    let readBoth := { read with calls := .isAvailable robot.endpoint ::ₘ read.calls }
    match peers.isAvailable state with
    | none => refused (stopped readBoth robot)
    | some false => refused readBoth
    | some true =>
        let call := peers.instruct plate.placedRecipeId plate.processedSteps plate.position
        instructed
          { readBoth with
            robot := some (robot.endpoint, fun state => (call state).2)
            calls := .instruct robot.endpoint plate.placedRecipeId plate.processedSteps
              plate.position ::ₘ readBoth.calls }
          robot (call state).1

def delivery (loop : Loop Robot Kitchen) (plateId : PlateId) : Change Robot Kitchen :=
  let c := loop.conveyor
  let plate := c.plates plateId
  let change := unchanged c plateId plate.position
  if isCompleted plate then
    let call := peers.receiveCompletedOrder plate.placedRecipeId
    let served :=
      { change with
        kitchen := fun kitchen => (call kitchen).2
        calls := {.receiveCompletedOrder plate.placedRecipeId} }
    if (call loop.kitchen).1 = some true then freed served else served
  else if isDeliverable plate then
    match findRobot c plate.position with
    | none => refused change
    | some robot => turnAtRobot peers loop change robot
  else change

end Turns

section Writes

variable {c : Conveyor} {plateId : PlateId} {position : Position} {robot : RemoteRobot}
  {change : Change Robot Kitchen}

/-- A change that leaves the conveyor as it is, whatever it does to others. -/
structure LeavesConveyor (c : Conveyor) (plateId : PlateId) (position : Position)
    (change : Change Robot Kitchen) : Prop where
  atPlate : change.plateId = plateId
  atPosition : change.position = position
  plate : change.plate = c.plates plateId
  entry : change.entry = c.positionRemoteRobotMap position
  dropped : change.dropped = ∅
  occupied : change.occupied = none
  runs : change.runs = true

theorem LeavesConveyor.refused (leaves : LeavesConveyor c plateId position change) :
    (refused change).writeConveyor c = setTargetPosition c plateId 0 := by
  simp [ConveyorAgent.refused, leaves.atPlate, leaves.atPosition, leaves.plate, leaves.entry,
    leaves.dropped, leaves.occupied, leaves.runs, setTargetPosition, updatePlate]

theorem LeavesConveyor.freed (leaves : LeavesConveyor c plateId position change) :
    (freed change).writeConveyor c = freePlate c plateId := by
  simp [ConveyorAgent.freed, leaves.atPlate, leaves.atPosition, leaves.plate, leaves.entry,
    leaves.dropped, leaves.runs, freePlate, updatePlate]

theorem LeavesConveyor.stopped (leaves : LeavesConveyor c plateId position change)
    (found : findRobot c position = some robot) :
    (ConveyorAgent.refused (stopped change robot)).writeConveyor c =
      setTargetPosition (stopRobot c position) plateId 0 := by
  have found : RobotMap.find c.positionRemoteRobotMap position = some robot := found
  simp [ConveyorAgent.refused, ConveyorAgent.stopped, leaves.atPlate, leaves.atPosition,
    leaves.plate, leaves.dropped, leaves.occupied, leaves.runs, stopRobot, RobotMap.stopRobot,
    withRobots, found, setTargetPosition, updatePlate]

theorem LeavesConveyor.instructed
    (leaves : LeavesConveyor c plateId (c.plates plateId).position change)
    (found : findRobot c (c.plates plateId).position = some robot)
    (reply : Option (Position × Bool)) :
    (instructed change robot reply).writeConveyor c = (instructRobot c plateId reply).1 := by
  cases reply with
  | none => exact leaves.stopped found
  | some answer =>
      obtain ⟨reported, accepted⟩ := answer
      simp only [ConveyorAgent.instructed, instructRobot, leaves.plate]
      split
      · exact leaves.refused
      · split
        · rw [← leaves.refused]
          simp [stop]
        · exact leaves.freed

theorem instructed_others (change : Change Robot Kitchen) (robot : RemoteRobot)
    (reply : Option (Position × Bool)) :
    (instructed change robot reply).robot = change.robot ∧
      (instructed change robot reply).kitchen = change.kitchen ∧
      (instructed change robot reply).calls = change.calls := by
  cases reply with
  | none => exact ⟨rfl, rfl, rfl⟩
  | some answer =>
      obtain ⟨reported, accepted⟩ := answer
      simp only [instructed]
      split
      · exact ⟨rfl, rfl, rfl⟩
      · split
        · exact ⟨rfl, rfl, rfl⟩
        · exact ⟨rfl, rfl, rfl⟩

theorem LeavesConveyor.perform_instructed {loop : Loop Robot Kitchen}
    (leaves : LeavesConveyor loop.conveyor plateId (loop.conveyor.plates plateId).position change)
    (found : findRobot loop.conveyor (loop.conveyor.plates plateId).position = some robot)
    (reply : Option (Position × Bool)) {calls : Multiset Call}
    (made : change.calls + loop.calls = calls) :
    (ConveyorAgent.instructed change robot reply).perform loop =
      ⟨(instructRobot loop.conveyor plateId reply).1,
        Change.answerRobot loop.robots change.robot, change.kitchen loop.kitchen, calls⟩ := by
  obtain ⟨sameRobot, sameKitchen, sameCalls⟩ := instructed_others change robot reply
  rw [← sameCalls] at made
  rw [Change.perform_eq (leaves.instructed found reply) made, sameRobot, sameKitchen]

end Writes

section Retrieval

variable {peers : Peers Robot Kitchen} {loop : Loop Robot Kitchen}

theorem retrieveNext_eq (noNull : NoNull loop.conveyor) {position : Position}
    (reports : ReportsHandover peers loop position) :
    retrieveNext peers loop position = some ((retrieval peers loop position).perform loop) := by
  unfold retrieveNext askForDish handoverRobot retrieval retrieve
  by_cases full : (plateAt loop.conveyor position).occupied = true
  · simp [full]
  · cases known : loop.conveyor.positionRemoteRobotMap position with
    | none => simp [full, findRobot, RobotMap.find, known, Finset.sdiff_singleton_eq_erase]
    | some entry =>
        cases entry with
        | none => exact absurd (noNull _ known) List.not_mem_nil
        | some robot =>
            have found : findRobot loop.conveyor position = some robot := by
              rw [findRobot, RobotMap.find, known, Option.join_some]
            simp only [if_neg full, found]
            cases replied : (peers.handoverFinishedOrder (loop.robots robot.endpoint)).1 with
            | none =>
                simp [known, stopRobot, RobotMap.stopRobot, RobotMap.find, withRobots, stopped,
                  Finset.sdiff_singleton_eq_erase]
            | some answer =>
                obtain ⟨dish, reply⟩ := answer
                have asked : handoverRobot loop.conveyor position = some robot := by
                  rw [handoverRobot, if_neg full, found]
                have same := reports robot asked dish reply replied
                by_cases empty : reply.recipeId = 0
                · simp [known, handleHandoverFinishedOrder, handed, empty,
                    Finset.sdiff_singleton_eq_erase]
                · simp [known, handleHandoverFinishedOrder, handed, empty, updatePlate, same,
                    Finset.sdiff_singleton_eq_erase]

end Retrieval

section Delivery

variable {peers : Peers Robot Kitchen} {loop : Loop Robot Kitchen}

theorem not_deliverable_of_completed {plate : Plate} (completed : isCompleted plate) :
    ¬ isDeliverable plate := by
  intro deliverable
  have finished := completed.1
  rw [deliverable.1] at finished
  contradiction

theorem deliver_completed {c : Conveyor} {plateId : PlateId}
    (completed : isCompleted (c.plates plateId)) (kitchen : Option Bool) (robot : RobotAnswer) :
    deliver c plateId kitchen robot = some (deliverCompletedOrder c plateId kitchen) := by
  obtain ⟨finished, atOutput⟩ := completed
  simp [deliver, finished, atOutput]

theorem deliver_deliverable {c : Conveyor} {plateId : PlateId}
    (deliverable : isDeliverable (c.plates plateId)) (kitchen : Option Bool)
    (robot : RobotAnswer) :
    deliver c plateId kitchen robot = deliverPartialOrder c plateId robot := by
  obtain ⟨unfinished, targeted, arrived⟩ := deliverable
  simp [deliver, unfinished, targeted, arrived]

theorem deliver_passes {c : Conveyor} {plateId : PlateId}
    (incomplete : ¬ isCompleted (c.plates plateId))
    (away : ¬ isDeliverable (c.plates plateId)) (kitchen : Option Bool) (robot : RobotAnswer) :
    deliver c plateId kitchen robot = some (c, []) := by
  have unserved : ¬ ((c.plates plateId).isDishFinished = true ∧
      (c.plates plateId).position = outputPosition) := incomplete
  unfold deliver
  simp only
  by_cases untargeted : (c.plates plateId).isDishFinished = false ∧
      (c.plates plateId).targetPosition = 0
  · rw [if_pos untargeted]
  · rw [if_neg untargeted, if_neg unserved, if_neg]
    intro arrived
    apply away
    exact ⟨arrived.1, fun zero => untargeted ⟨arrived.1, zero⟩, arrived.2⟩

theorem deliverNext_completed {plateId : PlateId}
    (completed : isCompleted (loop.conveyor.plates plateId)) :
    deliverNext peers loop plateId = some ((delivery peers loop plateId).perform loop) := by
  have away := not_deliverable_of_completed completed
  have alone : targetRobot loop.conveyor plateId = none := by rw [targetRobot, if_neg away]
  unfold deliverNext askKitchen delivery askRobot
  simp only [if_pos completed, alone]
  rw [deliver_completed completed]
  unfold deliverCompletedOrder
  cases (peers.receiveCompletedOrder (loop.conveyor.plates plateId).placedRecipeId
      loop.kitchen).1 with
  | none => simp
  | some accepted =>
      cases accepted with
      | false => simp
      | true => simp [freed, freePlate, updatePlate]

theorem deliverNext_passes {plateId : PlateId}
    (incomplete : ¬ isCompleted (loop.conveyor.plates plateId))
    (away : ¬ isDeliverable (loop.conveyor.plates plateId)) :
    deliverNext peers loop plateId = some ((delivery peers loop plateId).perform loop) := by
  have alone : targetRobot loop.conveyor plateId = none := by rw [targetRobot, if_neg away]
  unfold deliverNext askKitchen delivery askRobot
  simp only [if_neg incomplete, if_neg away, alone]
  rw [deliver_passes incomplete away]
  simp

/-- The conveyor reads the position of the robot, then whether it is available,
and then tells it what to do. -/
theorem deliverNext_atRobot {plateId : PlateId} {robot : RemoteRobot}
    (incomplete : ¬ isCompleted (loop.conveyor.plates plateId))
    (deliverable : isDeliverable (loop.conveyor.plates plateId))
    (known : loop.conveyor.positionRemoteRobotMap (loop.conveyor.plates plateId).position =
      some (some robot)) :
    deliverNext peers loop plateId =
      some ((turnAtRobot peers loop
        (unchanged loop.conveyor plateId (loop.conveyor.plates plateId).position) robot).perform
          loop) := by
  have found : findRobot loop.conveyor (loop.conveyor.plates plateId).position = some robot := by
    rw [findRobot, RobotMap.find, known, Option.join_some]
  have target : targetRobot loop.conveyor plateId = some robot := by
    rw [targetRobot, if_pos deliverable, found]
  have leaves : ∀ (robots : Option (String × (Robot → Robot))) calls,
      LeavesConveyor loop.conveyor plateId (loop.conveyor.plates plateId).position
        { (unchanged loop.conveyor plateId (loop.conveyor.plates plateId).position :
            Change Robot Kitchen) with
          robot := robots
          calls := calls } := by
    intro robots calls
    exact ⟨rfl, rfl, rfl, rfl, rfl, rfl, rfl⟩
  have stands : (unchanged loop.conveyor plateId (loop.conveyor.plates plateId).position :
      Change Robot Kitchen).plate = loop.conveyor.plates plateId := rfl
  unfold deliverNext askKitchen askRobot turnAtRobot
  simp only [if_neg incomplete, target, stands]
  by_cases misplaced : (peers.getPosition (loop.robots robot.endpoint)).getD 0 ≠
      (loop.conveyor.plates plateId).position
  · simp only [if_pos misplaced]
    rw [deliver_deliverable deliverable, deliverPartialOrder]
    simp only [known, if_pos misplaced]
    cases read : peers.getPosition (loop.robots robot.endpoint) with
    | none =>
        have written := (leaves none {.getPosition robot.endpoint}).stopped found
        rw [if_pos rfl]
        exact congrArg some (Change.perform_eq written (Multiset.singleton_add _ _)).symm
    | some reported =>
        have written := (leaves none {.getPosition robot.endpoint}).refused
        rw [if_neg (by simp)]
        exact congrArg some (Change.perform_eq written (Multiset.singleton_add _ _)).symm
  · simp only [if_neg misplaced]
    have readBoth : ∀ calls : Multiset Call,
        (.isAvailable robot.endpoint ::ₘ {.getPosition robot.endpoint}) + calls =
          .isAvailable robot.endpoint ::ₘ .getPosition robot.endpoint ::ₘ calls := by
      intro calls
      rw [Multiset.cons_add, Multiset.singleton_add]
    cases available : peers.isAvailable (loop.robots robot.endpoint) with
    | none =>
        rw [if_pos (by decide), deliver_deliverable deliverable, deliverPartialOrder]
        simp only [known, if_neg misplaced]
        exact congrArg some
          (Change.perform_eq ((leaves none _).stopped found) (readBoth _)).symm
    | some isAvailable =>
        cases isAvailable with
        | false =>
            rw [if_pos (by decide), deliver_deliverable deliverable, deliverPartialOrder]
            simp only [known, if_neg misplaced]
            exact congrArg some (Change.perform_eq (leaves none _).refused (readBoth _)).symm
        | true =>
            rw [if_neg (by decide), deliver_deliverable deliverable, deliverPartialOrder]
            simp only [known, if_neg misplaced]
            rw [Option.map_some]
            have made : ∀ call : Call,
                (call ::ₘ .isAvailable robot.endpoint ::ₘ {.getPosition robot.endpoint}) +
                    loop.calls =
                  call ::ₘ .isAvailable robot.endpoint ::ₘ .getPosition robot.endpoint ::ₘ
                    loop.calls := by
              intro call
              rw [Multiset.cons_add, readBoth]
            refine congrArg some (Eq.symm ?_)
            exact LeavesConveyor.perform_instructed ⟨rfl, rfl, rfl, rfl, rfl, rfl, rfl⟩ found _
              (made _)

theorem deliverNext_deliverable (noNull : NoNull loop.conveyor) {plateId : PlateId}
    (incomplete : ¬ isCompleted (loop.conveyor.plates plateId))
    (deliverable : isDeliverable (loop.conveyor.plates plateId)) :
    deliverNext peers loop plateId = some ((delivery peers loop plateId).perform loop) := by
  cases known : loop.conveyor.positionRemoteRobotMap (loop.conveyor.plates plateId).position with
  | none =>
      have found : findRobot loop.conveyor (loop.conveyor.plates plateId).position = none := by
        rw [findRobot, RobotMap.find, known, Option.join_none]
      have target : targetRobot loop.conveyor plateId = none := by
        rw [targetRobot, if_pos deliverable, found]
      unfold deliverNext askKitchen askRobot delivery
      simp only [if_neg incomplete, if_pos deliverable, target, found]
      rw [deliver_deliverable deliverable, deliverPartialOrder]
      simp [known, refused, setTargetPosition, updatePlate]
  | some entry =>
      cases entry with
      | none => exact absurd (noNull _ known) List.not_mem_nil
      | some robot =>
          have found : findRobot loop.conveyor (loop.conveyor.plates plateId).position =
              some robot := by
            rw [findRobot, RobotMap.find, known, Option.join_some]
          rw [deliverNext_atRobot incomplete deliverable known]
          simp only [delivery, if_neg incomplete, if_pos deliverable, found]

theorem deliverNext_eq (noNull : NoNull loop.conveyor) (plateId : PlateId) :
    deliverNext peers loop plateId = some ((delivery peers loop plateId).perform loop) := by
  by_cases completed : isCompleted (loop.conveyor.plates plateId)
  · exact deliverNext_completed completed
  · by_cases deliverable : isDeliverable (loop.conveyor.plates plateId)
    · exact deliverNext_deliverable noNull completed deliverable
    · exact deliverNext_passes completed deliverable

end Delivery

end CpsKitchen.ConveyorAgent
