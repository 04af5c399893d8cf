import CpsKitchen.Ring
import CpsKitchen.ConveyorAgent.Transitions

/-!
# The belt

The plates stand on a turning ring and `position_plate_id_map_` is the inverse
of where they stand. A plate is occupied exactly while its id is in
`occupied_plates_`, and then a recipe id is placed on it.
-/

namespace CpsKitchen.ConveyorAgent

open CpsKitchen.Reactive CpsKitchen.Recipes CpsKitchen.Ring
open CpsKitchen.RobotAgent (HandoverReply timeUnit)

set_option autoImplicit false

variable {config : Config} {c after : Conveyor} {event : Event} {outputs : List Output}

def Aligned (config : Config) (moves : Nat) (c : Conveyor) : Prop :=
  ∀ plateId < config.plateCount,
    (c.plates plateId).position = turned config.plateCount moves plateId ∧
    c.positionPlateIdMap (turned config.plateCount moves plateId) = plateId

def leftPlates : Worker → Finset PlateId
  | .requestingNextRobots left | .deliveringFinishedOrders left => left
  | .betweenHandlers | .retrievingFinishedOrders _ => ∅

structure Belt (config : Config) (c : Conveyor) : Prop where
  aligned : ∃ moves, Aligned config moves c
  onBelt : ∀ position, c.positionPlateIdMap position < config.plateCount
  exist : ∀ plateId ∈ c.occupiedPlates, plateId < config.plateCount
  occupied : ∀ plateId, plateId ∈ c.occupiedPlates ↔ (c.plates plateId).occupied = true
  placed : ∀ plateId, (c.plates plateId).occupied = true ↔ (c.plates plateId).placedRecipeId ≠ 0
  counted : c.occupiedPlatesAttribute = c.occupiedPlates.card
  left : leftPlates c.worker ⊆ c.occupiedPlates

theorem initial_belt (config : Config) : Belt config (initial config) where
  aligned := by
    refine ⟨0, ?_⟩
    intro plateId inside
    simp [initial, initialPlate, turned_zero inside, inside]
  onBelt := by
    intro position
    simp only [initial]
    split
    · assumption
    · exact config.plateCountPositive
  exist := by simp [initial]
  occupied := by simp [initial, initialPlate]
  placed := by simp [initial, initialPlate]
  counted := by simp [initial]
  left := by simp [initial, leftPlates]

theorem Belt.plateAt_position (belt : Belt config c) {position : Position}
    (inside : position < config.plateCount) : (plateAt c position).position = position := by
  obtain ⟨moves, aligned⟩ := belt.aligned
  obtain ⟨plateId, exist, rfl⟩ := exists_turned config.plateCountPositive moves inside
  obtain ⟨stands, found⟩ := aligned plateId exist
  rw [plateAt, found, stands]

theorem Belt.plateId_at (belt : Belt config c) {plateId : PlateId}
    (exist : plateId < config.plateCount) :
    c.positionPlateIdMap (c.plates plateId).position = plateId := by
  obtain ⟨moves, aligned⟩ := belt.aligned
  obtain ⟨stands, found⟩ := aligned plateId exist
  rw [stands, found]

theorem Belt.transport (belt : Belt config c) (plates : after.plates = c.plates)
    (map : after.positionPlateIdMap = c.positionPlateIdMap)
    (occupiedPlates : after.occupiedPlates = c.occupiedPlates)
    (published : after.occupiedPlatesAttribute = c.occupiedPlatesAttribute)
    (left : leftPlates after.worker ⊆ c.occupiedPlates) : Belt config after where
  aligned := by
    obtain ⟨moves, aligned⟩ := belt.aligned
    refine ⟨moves, ?_⟩
    unfold Aligned
    rw [plates, map]
    exact aligned
  onBelt := by rw [map]; exact belt.onBelt
  exist := by rw [occupiedPlates]; exact belt.exist
  occupied := by rw [occupiedPlates, plates]; exact belt.occupied
  placed := by rw [plates]; exact belt.placed
  counted := by rw [published, occupiedPlates]; exact belt.counted
  left := by rw [occupiedPlates]; exact left

theorem aligned_of_positions {moves : Nat} (aligned : Aligned config moves c)
    (positions : ∀ plateId, (after.plates plateId).position = (c.plates plateId).position)
    (map : after.positionPlateIdMap = c.positionPlateIdMap) : Aligned config moves after := by
  intro plateId exist
  rw [positions, map]
  exact aligned plateId exist

theorem setTargetPosition_belt (belt : Belt config c) (plateId : PlateId) (position : Position) :
    Belt config (setTargetPosition c plateId position) := by
  have kept : ∀ other, ((setTargetPosition c plateId position).plates other).position =
        (c.plates other).position ∧
      ((setTargetPosition c plateId position).plates other).occupied =
        (c.plates other).occupied ∧
      ((setTargetPosition c plateId position).plates other).placedRecipeId =
        (c.plates other).placedRecipeId := by
    intro other
    by_cases same : other = plateId
    · simp [setTargetPosition, updatePlate, same]
    · simp [setTargetPosition, updatePlate, same]
  obtain ⟨moves, aligned⟩ := belt.aligned
  exact
    { aligned := ⟨moves, aligned_of_positions aligned (fun other => (kept other).1) rfl⟩
      onBelt := belt.onBelt
      exist := belt.exist
      occupied := by
        intro other
        rw [(kept other).2.1]
        exact belt.occupied other
      placed := by
        intro other
        rw [(kept other).2.1, (kept other).2.2]
        exact belt.placed other
      counted := belt.counted
      left := belt.left }

theorem handleHandoverFinishedOrder_belt (belt : Belt config c)
    (idle : leftPlates c.worker = ∅) (dish : DishId) (reply : HandoverReply) :
    Belt config (handleHandoverFinishedOrder c dish reply) := by
  unfold handleHandoverFinishedOrder
  split
  · exact belt
  next recipe =>
    simp only
    obtain ⟨moves, aligned⟩ := belt.aligned
    refine ⟨⟨moves, aligned_of_positions aligned ?_ rfl⟩, belt.onBelt, ?_, ?_, ?_, rfl, ?_⟩
    · intro other
      by_cases same : other = c.positionPlateIdMap reply.position
      · simp [updatePlate, same]
      · simp [updatePlate, same]
    · intro plateId member
      rcases Finset.mem_insert.mp member with rfl | before
      · exact belt.onBelt reply.position
      · exact belt.exist plateId before
    · intro other
      by_cases same : other = c.positionPlateIdMap reply.position
      · simp [updatePlate, same]
      · simpa [updatePlate, same] using belt.occupied other
    · intro other
      by_cases same : other = c.positionPlateIdMap reply.position
      · simp [updatePlate, same, recipe]
      · simpa [updatePlate, same] using belt.placed other
    · have none : leftPlates c.worker ⊆ ∅ := idle.subset
      exact none.trans (Finset.empty_subset _)

theorem freePlate_belt (belt : Belt config c) {plateId : PlateId}
    (crossed : plateId ∉ leftPlates c.worker) : Belt config (freePlate c plateId) := by
  obtain ⟨moves, aligned⟩ := belt.aligned
  refine ⟨⟨moves, aligned_of_positions aligned ?_ rfl⟩, belt.onBelt, ?_, ?_, ?_, rfl, ?_⟩
  · intro other
    by_cases same : other = plateId
    · simp [freePlate, updatePlate, resetPlate, same]
    · simp [freePlate, updatePlate, same]
  · intro other member
    exact belt.exist other (Finset.mem_of_mem_erase member)
  · intro other
    by_cases same : other = plateId
    · simp [freePlate, updatePlate, resetPlate, same]
    · simpa [freePlate, updatePlate, same] using belt.occupied other
  · intro other
    by_cases same : other = plateId
    · simp [freePlate, updatePlate, resetPlate, same]
    · simpa [freePlate, updatePlate, same] using belt.placed other
  · intro other member
    refine Finset.mem_erase.mpr ⟨?_, belt.left member⟩
    rintro rfl
    exact crossed member

theorem movePlates_spec {moves : Nat} (aligned : Aligned config moves c) {count : Nat}
    (bound : count ≤ config.plateCount) :
    (∀ plateId : Nat, (movePlates config c 1 count).plates plateId =
      if plateId < count then
        { c.plates plateId with position := turned config.plateCount (moves + 1) plateId }
      else c.plates plateId) ∧
    (∀ plateId : Nat, plateId < count → (movePlates config c 1 count).positionPlateIdMap
      (turned config.plateCount (moves + 1) plateId) = plateId) := by
  induction count with
  | zero => simp [movePlates]
  | succ count ih =>
      obtain ⟨plates, map⟩ := ih (by omega)
      have moved : (((movePlates config c 1 count).plates count).position + 1) %
          config.plateCount = turned config.plateCount (moves + 1) count := by
        rw [plates, if_neg (by omega), (aligned count (by omega)).1]
        exact turned_turned config.plateCount moves 1 count
      constructor
      · intro plateId
        simp only [movePlates, updatePlate, moved, Function.update_apply]
        by_cases last : plateId = count
        · rw [if_pos last, if_pos (by omega), plates, if_neg (by omega), last]
        · rw [if_neg last, plates]
          by_cases before : plateId < count
          · rw [if_pos before, if_pos (by omega)]
          · rw [if_neg before, if_neg (by omega)]
      · intro plateId before
        simp only [movePlates, moved, Function.update_apply]
        by_cases last : plateId = count
        · rw [if_pos (by rw [last]), last]
        · have elsewhere : turned config.plateCount (moves + 1) plateId ≠
              turned config.plateCount (moves + 1) count := by
            intro same
            exact last (turned_injective (by omega) (by omega) same)
          rw [if_neg elsewhere]
          exact map plateId (by omega)

theorem movePlates_onBelt (onBelt : ∀ position, c.positionPlateIdMap position < config.plateCount)
    {count : Nat} (bound : count ≤ config.plateCount) (position : Position) :
    (movePlates config c 1 count).positionPlateIdMap position < config.plateCount := by
  induction count with
  | zero => exact onBelt position
  | succ count ih =>
      simp only [movePlates, Function.update_apply]
      split
      · exact bound
      · exact ih (by omega)

theorem moveConveyor_belt (belt : Belt config c) : Belt config (moveConveyor config c 1) := by
  obtain ⟨moves, aligned⟩ := belt.aligned
  obtain ⟨plates, map⟩ := movePlates_spec aligned le_rfl
  have onBelt := movePlates_onBelt belt.onBelt (le_refl config.plateCount)
  have kept : ∀ plateId,
      ((movePlates config c 1 config.plateCount).plates plateId).occupied =
        (c.plates plateId).occupied ∧
      ((movePlates config c 1 config.plateCount).plates plateId).placedRecipeId =
        (c.plates plateId).placedRecipeId := by
    intro plateId
    rw [plates]
    split <;> exact ⟨rfl, rfl⟩
  obtain ⟨_, _, same⟩ := movePlates_frame config c 1 config.plateCount
  have occupiedPlates : (movePlates config c 1 config.plateCount).occupiedPlates =
      c.occupiedPlates := by rw [same]
  have published : (movePlates config c 1 config.plateCount).occupiedPlatesAttribute =
      c.occupiedPlatesAttribute := by rw [same]
  refine ⟨⟨moves + 1, ?_⟩, onBelt, ?_, ?_, ?_, ?_, subset_rfl⟩
  · intro plateId exist
    refine ⟨?_, map plateId exist⟩
    have stands := plates plateId
    rw [if_pos exist] at stands
    exact congrArg Plate.position stands
  · intro plateId member
    exact belt.exist plateId (occupiedPlates ▸ member)
  · intro plateId
    have member : plateId ∈ (movePlates config c 1 config.plateCount).occupiedPlates ↔
        ((movePlates config c 1 config.plateCount).plates plateId).occupied = true := by
      rw [occupiedPlates, (kept plateId).1]
      exact belt.occupied plateId
    exact member
  · intro plateId
    have placed : ((movePlates config c 1 config.plateCount).plates plateId).occupied = true ↔
        ((movePlates config c 1 config.plateCount).plates plateId).placedRecipeId ≠ 0 := by
      rw [(kept plateId).1, (kept plateId).2]
      exact belt.placed plateId
    exact placed
  · have counted : (movePlates config c 1 config.plateCount).occupiedPlatesAttribute =
        (movePlates config c 1 config.plateCount).occupiedPlates.card := by
      rw [published, occupiedPlates]
      exact belt.counted
    exact counted

theorem determineNextMovement_belt (belt : Belt config c) :
    Belt config (determineNextMovement c) := by
  have decided := determineNextMovement_cases c
  generalize determineNextMovement c = after at decided
  cases decided with
  | retrieves => exact belt.transport rfl rfl rfl rfl (Finset.empty_subset _)
  | requests => exact belt.transport rfl rfl rfl rfl subset_rfl
  | idles => exact belt.transport rfl rfl rfl rfl (Finset.empty_subset _)

theorem handles_belt (belt : Belt config c) {handler : Handler}
    (ran : Handles config c handler after) : Belt config after := by
  cases ran with
  | notificationDropped | notificationTaken | notificationStarts | answerIgnored | swapped
  | reconnectedInTime | aborted => exact belt.transport rfl rfl rfl rfl belt.left
  | answerTaken answer map position rest front =>
      have popped : Belt config
          { withRobots c map with nextRobotRequestQueue := rest } :=
        belt.transport rfl rfl rfl rfl belt.left
      have assigned : Belt config
          (if answer.robotPosition ≠ 0 ∧ answer.robotEndpoint ≠ "" then
            setTargetPosition { withRobots c map with nextRobotRequestQueue := rest }
              (c.positionPlateIdMap position) answer.robotPosition
          else { withRobots c map with nextRobotRequestQueue := rest }) := by
        split
        · exact setTargetPosition_belt popped _ _
        · exact popped
      unfold takeNextRobot
      simp only
      split
      · exact assigned.transport rfl rfl rfl rfl assigned.left
      · exact assigned
  | reconnected =>
      have cleared : Belt config { c with nextRobotRequestQueue := [] } :=
        belt.transport rfl rfl rfl rfl belt.left
      exact determineNextMovement_belt cleared
  | retrieves => exact belt.transport rfl rfl rfl rfl (Finset.empty_subset _)
  | moves => exact moveConveyor_belt belt

theorem visits_belt (belt : Belt config c) (visit : Visits c event after outputs)
    (retrieving : ∀ position reply, event = .retrieve position reply → leftPlates c.worker = ∅)
    (delivering : ∀ plateId kitchen robot, event = .deliver plateId kitchen robot →
      plateId ∉ leftPlates c.worker) : Belt config after := by
  cases visit with
  | keptNotification | notRequested | notDeliverable | orderRefused => exact belt
  | droppedNotification | requested => exact belt.transport rfl rfl rfl rfl belt.left
  | handedOver position dish reply =>
      have answered : Belt config
          { c with notifications := c.notifications.erase position } :=
        belt.transport rfl rfl rfl rfl belt.left
      exact handleHandoverFinishedOrder_belt answered (retrieving _ _ rfl) dish reply
  | orderCompleted plateId => exact freePlate_belt belt (delivering _ _ _ rfl)
  | taskAccepted plateId => exact freePlate_belt belt (delivering _ _ _ rfl)
  | notInstructed plateId kitchen robot map =>
      have robots : Belt config (withRobots c map) := belt.transport rfl rfl rfl rfl belt.left
      exact setTargetPosition_belt robots plateId 0
  | taskRefused plateId => exact setTargetPosition_belt belt plateId 0
  | taskMisplaced plateId =>
      have reset := setTargetPosition_belt belt plateId 0
      exact reset.transport rfl rfl rfl rfl reset.left

theorem step_belt (belt : Belt config c) (step : Step config c event after outputs) :
    Belt config after := by
  cases step with
  | notificationReceived | answerReceived | positionChanged | robotStopped | controllerLost
  | controllerConnected | expired => exact belt.transport rfl rfl rfl rfl belt.left
  | handled environment handler posted idle next ran =>
      have taken : Belt config (takeHandler c posted) :=
        belt.transport rfl rfl rfl rfl belt.left
      exact handles_belt taken ran
  | retrieving left position reply loop member ran =>
      have crossed : Belt config
          (setWorker c (.retrievingFinishedOrders (left.erase position))) :=
        belt.transport rfl rfl rfl rfl (Finset.empty_subset _)
      exact visits_belt crossed ran (fun _ _ _ => rfl) (by simp)
  | retrieved => exact belt.transport rfl rfl rfl rfl subset_rfl
  | requesting left plateId reply loop member ran =>
      have subset : left ⊆ c.occupiedPlates := by simpa [loop, leftPlates] using belt.left
      have crossed : Belt config (setWorker c (.requestingNextRobots (left.erase plateId))) :=
        belt.transport rfl rfl rfl rfl ((Finset.erase_subset _ _).trans subset)
      exact visits_belt crossed ran (by simp) (by simp)
  | requested =>
      unfold armMovement
      split
      · exact belt.transport rfl rfl rfl rfl (Finset.empty_subset _)
      · exact belt.transport rfl rfl rfl rfl (Finset.empty_subset _)
  | delivering left plateId kitchen robot loop member ran =>
      have subset : left ⊆ c.occupiedPlates := by simpa [loop, leftPlates] using belt.left
      have crossed : Belt config (setWorker c (.deliveringFinishedOrders (left.erase plateId))) :=
        belt.transport rfl rfl rfl rfl ((Finset.erase_subset _ _).trans subset)
      refine visits_belt crossed ran (by simp) ?_
      intro other kitchen robot same
      cases same
      exact Finset.notMem_erase plateId left
  | delivered => exact determineNextMovement_belt belt

theorem reaches_belt {allowed : Conveyor → Event → Prop} {history : History Event Output}
    (reached : (machine config).Reaches allowed history c) : Belt config c :=
  reached.invariant (fun _ started => by cases started; exact initial_belt config)
    (fun _ _ _ _ belt _ taken => step_belt belt (step_cases taken).2)

end CpsKitchen.ConveyorAgent
