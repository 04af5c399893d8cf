import CpsKitchen.Reactive.Pipeline
import CpsKitchen.ConveyorAgent.Belt

/-!
# No dish is overwritten or misplaced

Whether a plate is free is checked at the position the notification was about.
The dish is put on the plate at the position the robot reports. Both are the
same for a robot that stayed. A robot that moved since may hand a dish over
onto another one, or onto plate 0.
-/

namespace CpsKitchen.ConveyorAgent

open CpsKitchen.Reactive CpsKitchen.Recipes
open CpsKitchen.RobotAgent (HandoverReply timeUnit)

set_option autoImplicit false

variable {config : Config} {c after : Conveyor} {event : Event} {outputs : List Output}

/-- A dish is handed over at a position of the belt, and where that is not the
notified one, the plate there is free. A robot that accepts a task reports the
position it was addressed at, as `receive_task` does. -/
def HandsOverInPlace (config : Config) (c : Conveyor) : Event → Prop
  | .retrieve position (some (_, reply)) =>
      reply.recipeId ≠ 0 → reply.position < config.plateCount ∧
        (reply.position = position ∨ (plateAt c reply.position).occupied = false)
  | .deliver plateId _ robot =>
      ∀ reply ∈ robot.reply, reply.2 = true → reply.1 = (c.plates plateId).position
  | _ => True

instance (c : Conveyor) : (event : Event) → Decidable (HandsOverInPlace config c event)
  | .retrieve position (some (_, reply)) =>
      inferInstanceAs (Decidable (reply.recipeId ≠ 0 → reply.position < config.plateCount ∧
        (reply.position = position ∨ (plateAt c reply.position).occupied = false)))
  | .deliver plateId _ robot =>
      inferInstanceAs (Decidable (∀ reply ∈ robot.reply, reply.2 = true →
        reply.1 = (c.plates plateId).position))
  | .retrieve _ none | .receiveFinishedOrderNotification _ _ | .receiveNextRobot _
  | .positionChanged _ _ | .robotStopped _ | .controllerLost | .controllerConnected
  | .timerExpires | .runHandler _ | .retrieved | .requestNextRobot _ _ | .requested
  | .delivered => isTrue trivial

def Output.handedOver : Output → Nat
  | .handoverReply _ reply => if reply.recipeId = 0 then 0 else 1
  | _ => 0

def Output.takenAway : Output → Nat
  | .completedOrder _ _ accepted => accepted.toNat
  | .robotInstructed _ _ _ _ accepted => accepted.toNat
  | _ => 0

/-- The plate a handover with a dish is put on is free and stands where the
robot says it is. -/
theorem Belt.placed_in_place (belt : Belt config c) {position : Position} (dish : DishId)
    {reply : HandoverReply} (free : (plateAt c position).occupied = false)
    (inPlace : HandsOverInPlace config c (.retrieve position (some (dish, reply))))
    (recipe : reply.recipeId ≠ 0) :
    (plateAt c reply.position).occupied = false ∧
      (plateAt c reply.position).position = reply.position := by
  obtain ⟨inside, here⟩ := inPlace recipe
  refine ⟨?_, belt.plateAt_position inside⟩
  rcases here with same | freeThere
  · rw [same]
    exact free
  · exact freeThere

theorem freePlate_card {plateId : PlateId} (member : plateId ∈ c.occupiedPlates) :
    (freePlate c plateId).occupiedPlates.card + 1 = c.occupiedPlates.card :=
  Finset.card_erase_add_one member

theorem visits_books (belt : Belt config c) (visit : Visits c event after outputs)
    (inPlace : HandsOverInPlace config c event)
    (delivering : ∀ plateId kitchen robot, event = .deliver plateId kitchen robot →
      plateId ∈ c.occupiedPlates) :
    c.occupiedPlates.card + (outputs.map Output.handedOver).sum =
      (outputs.map Output.takenAway).sum + after.occupiedPlates.card := by
  cases visit with
  | keptNotification | droppedNotification | notRequested | notDeliverable | notInstructed =>
      simp [setTargetPosition, updatePlate, withRobots]
  | requested | orderRefused => simp [Output.handedOver, Output.takenAway]
  | taskRefused => simp [setTargetPosition, updatePlate, Output.handedOver, Output.takenAway]
  | handedOver position dish reply free =>
      unfold handleHandoverFinishedOrder
      split
      next empty => simp [Output.handedOver, Output.takenAway, empty]
      next recipe =>
        have placed := (belt.placed_in_place dish free inPlace recipe).1
        have fresh : c.positionPlateIdMap reply.position ∉ c.occupiedPlates := by
          rw [belt.occupied]
          simpa [plateAt] using placed
        simp [Output.handedOver, Output.takenAway, recipe, updatePlate,
          Finset.card_insert_of_notMem fresh]
  | orderCompleted plateId =>
      have card := freePlate_card (delivering plateId _ _ rfl)
      simp only [List.map_cons, List.map_nil, List.sum_cons, List.sum_nil, Output.handedOver,
        Output.takenAway, Bool.toNat_true]
      omega
  | taskAccepted plateId =>
      have card := freePlate_card (delivering plateId _ _ rfl)
      simp only [List.map_cons, List.map_nil, List.sum_cons, List.sum_nil, Output.handedOver,
        Output.takenAway, Bool.toNat_true]
      omega
  | taskMisplaced plateId kitchen robot robotPosition replied elsewhere =>
      exact absurd (inPlace _ replied rfl).symm elsewhere

theorem handles_occupiedPlates {handler : Handler} (ran : Handles config c handler after) :
    after.occupiedPlates = c.occupiedPlates := by
  cases ran with
  | notificationDropped | notificationTaken | notificationStarts | answerIgnored | swapped
  | reconnectedInTime | retrieves | aborted => rfl
  | answerTaken answer map position rest =>
      unfold takeNextRobot
      simp only
      split <;> split <;> rfl
  | reconnected =>
      have decided := determineNextMovement_cases { c with nextRobotRequestQueue := [] }
      generalize determineNextMovement { c with nextRobotRequestQueue := [] } = after at decided
      cases decided <;> rfl
  | moves =>
      obtain ⟨plates, map, same⟩ := movePlates_frame config c 1 config.plateCount
      rw [moveConveyor, same]
      rfl

theorem step_books (belt : Belt config c) (inPlace : HandsOverInPlace config c event)
    (step : Step config c event after outputs) :
    c.occupiedPlates.card + (outputs.map Output.handedOver).sum =
      (outputs.map Output.takenAway).sum + after.occupiedPlates.card := by
  cases step with
  | notificationReceived | answerReceived | positionChanged | robotStopped | controllerLost
  | controllerConnected | expired | retrieved =>
      simp [post, withRobots, requestNextRobots, setWorker]
  | handled environment handler posted idle next ran =>
      rw [handles_occupiedPlates ran]
      simp [takeHandler]
  | retrieving left position reply loop member ran =>
      have crossed : Belt config
          (setWorker c (.retrievingFinishedOrders (left.erase position))) :=
        belt.transport rfl rfl rfl rfl (Finset.empty_subset _)
      have books := visits_books crossed ran inPlace (by simp)
      exact books
  | requesting left plateId reply loop member ran =>
      have subset : left ⊆ c.occupiedPlates := by simpa [loop, leftPlates] using belt.left
      have crossed : Belt config (setWorker c (.requestingNextRobots (left.erase plateId))) :=
        belt.transport rfl rfl rfl rfl ((Finset.erase_subset _ _).trans subset)
      have books := visits_books crossed ran inPlace (by simp)
      exact books
  | requested =>
      unfold armMovement
      split <;> simp [armTimer, setWorker]
  | delivering left plateId kitchen robot loop member ran =>
      have subset : left ⊆ c.occupiedPlates := by simpa [loop, leftPlates] using belt.left
      have crossed : Belt config (setWorker c (.deliveringFinishedOrders (left.erase plateId))) :=
        belt.transport rfl rfl rfl rfl ((Finset.erase_subset _ _).trans subset)
      have books := visits_books crossed ran inPlace (by
        intro other kitchen robot same
        cases same
        exact subset member)
      exact books
  | delivered =>
      have decided := determineNextMovement_cases c
      generalize determineNextMovement c = after at decided
      cases decided <;> simp [handleRetrieveFinishedOrders, removeStoppedRobots, withRobots,
        requestNextRobots, setWorker]

/-- What a handover with a dish does: one free plate, standing at the position
the robot reports, takes the dish, and no other plate differs. -/
def PutOnFreePlate (c after : Conveyor) (dish : DishId) (reply : HandoverReply) : Prop :=
  ∃ plateId, plateId ∉ c.occupiedPlates ∧ (c.plates plateId).occupied = false ∧
    (c.plates plateId).position = reply.position ∧
    after.occupiedPlates = insert plateId c.occupiedPlates ∧
    (after.plates plateId).placedRecipeId = reply.recipeId ∧
    (after.plates plateId).processedSteps = reply.processedSteps ∧
    (after.plates plateId).dish = dish ∧
    ∀ other, other ≠ plateId → after.plates other = c.plates other

theorem step_putOnFreePlate (belt : Belt config c) (inPlace : HandsOverInPlace config c event)
    (step : Step config c event after outputs) {dish : DishId} {reply : HandoverReply}
    (output : .handoverReply dish reply ∈ outputs) (recipe : reply.recipeId ≠ 0) :
    PutOnFreePlate c after dish reply := by
  cases step with
  | notificationReceived | answerReceived | positionChanged | robotStopped | controllerLost
  | controllerConnected | expired | handled | retrieved | requested | delivered =>
      simp at output
  | requesting left plateId answer loop member ran => cases ran <;> simp at output
  | delivering left plateId kitchen robot loop member ran => cases ran <;> simp at output
  | retrieving left position answer loop member ran =>
      have crossed : Belt config
          (setWorker c (.retrievingFinishedOrders (left.erase position))) :=
        belt.transport rfl rfl rfl rfl (Finset.empty_subset _)
      cases ran with
      | keptNotification | droppedNotification => simp at output
      | handedOver _ dish' reply' free =>
          have same := List.mem_singleton.mp output
          cases same
          obtain ⟨freeThere, here⟩ := crossed.placed_in_place dish free inPlace recipe
          refine ⟨c.positionPlateIdMap reply.position, ?_, freeThere, here, ?_⟩
          · rw [belt.occupied]
            have freeThere : (c.plates (c.positionPlateIdMap reply.position)).occupied = false :=
              freeThere
            simp [freeThere]
          · rw [handleHandoverFinishedOrder, if_neg recipe]
            refine ⟨rfl, ?_, ?_, ?_, ?_⟩
            · simp [updatePlate, setWorker]
            · simp [updatePlate, setWorker]
            · simp [updatePlate, setWorker]
            · intro other different
              simp [updatePlate, setWorker, different]

def handovers (history : History Event Output) : Nat :=
  ((outputsOf history).map Output.handedOver).sum

def dishesTakenAway (history : History Event Output) : Nat :=
  ((outputsOf history).map Output.takenAway).sum

/-- Robots hand over in place: then every dish is put on a free plate that
stands at the reported position, and no dish gets lost on the belt. -/
theorem dishes_put_on_free_plates (config : Config) (history : History Event Output)
    (c : Conveyor) (reached : (machine config).Reaches (HandsOverInPlace config) history c) :
    handovers history = dishesTakenAway history + c.occupiedPlates.card ∧
    ∀ event after outputs dish reply, HandsOverInPlace config c event →
      step config c event = some (after, outputs) → .handoverReply dish reply ∈ outputs →
      reply.recipeId ≠ 0 → PutOnFreePlate c after dish reply := by
  have belt := reaches_belt reached
  constructor
  · refine reached.conserved Output.handedOver Output.takenAway
      (fun c => c.occupiedPlates.card) ?_ ?_
    · intro c started
      cases started
      rfl
    · intro history before event after outputs earlier permitted taken
      exact step_books (reaches_belt earlier) permitted (step_cases taken).2
  · intro event after outputs dish reply inPlace taken output recipe
    exact step_putOnFreePlate belt inPlace (step_cases taken).2 output recipe

/-- Two robots hand over one dish each, where they stand. -/
theorem two_dishes_put_on_free_plates :
    ∃ history c, (machine fivePlates).Reaches (HandsOverInPlace fivePlates) history c ∧
      handovers history = 2 ∧ c.occupiedPlates = {2, 3} ∧
      handovers history = dishesTakenAway history + c.occupiedPlates.card := by
  obtain ⟨history, c, reached, shown⟩ := Machine.exists_reaches_of_replay (machine fivePlates)
    (HandsOverInPlace fivePlates) (show (machine fivePlates).start (initial fivePlates) from rfl)
    [.receiveFinishedOrderNotification "opc.tcp://robot:2" 2,
     .receiveFinishedOrderNotification "opc.tcp://robot:3" 3, .runHandler ⟨true, none, none⟩,
     .runHandler ⟨true, none, none⟩, .timerExpires, .runHandler ⟨true, none, none⟩,
     .retrieve 2 (some (7, ⟨"opc.tcp://robot:2", 2, 3, 4, false⟩)),
     .retrieve 3 (some (8, ⟨"opc.tcp://robot:3", 3, 3, 7, true⟩))]
    (fun history c => decide (handovers history = 2 ∧ c.occupiedPlates = {2, 3})) (by decide)
  obtain ⟨two, occupied⟩ := of_decide_eq_true shown
  have counted := dishes_put_on_free_plates fivePlates history c reached
  exact ⟨history, c, reached, two, occupied, counted.1⟩

/-- Robot 3 moved to position 2 while its notification from position 3 was
waiting. Its dish is put on the dish of robot 2. -/
theorem moved_robot_overwrites_dish :
    ∃ history c, (machine fivePlates).Reaches (fun _ _ => True) history c ∧
      handovers history = 2 ∧ dishesTakenAway history = 0 ∧ c.occupiedPlates.card = 1 ∧
      handovers history ≠ dishesTakenAway history + c.occupiedPlates.card := by
  obtain ⟨history, c, reached, shown⟩ := Machine.exists_reaches_of_replay (machine fivePlates)
    (fun _ _ => True) (show (machine fivePlates).start (initial fivePlates) from rfl)
    [.receiveFinishedOrderNotification "opc.tcp://robot:2" 2,
     .receiveFinishedOrderNotification "opc.tcp://robot:3" 3, .runHandler ⟨true, none, none⟩,
     .runHandler ⟨true, none, none⟩, .timerExpires, .runHandler ⟨true, none, none⟩,
     .retrieve 2 (some (7, ⟨"opc.tcp://robot:2", 2, 3, 4, false⟩)),
     .retrieve 3 (some (8, ⟨"opc.tcp://robot:3", 2, 3, 7, true⟩))]
    (fun history c => decide (handovers history = 2 ∧ dishesTakenAway history = 0 ∧
      c.occupiedPlates.card = 1 ∧
      handovers history ≠ dishesTakenAway history + c.occupiedPlates.card)) (by decide)
  exact ⟨history, c, reached, of_decide_eq_true shown⟩

end CpsKitchen.ConveyorAgent
