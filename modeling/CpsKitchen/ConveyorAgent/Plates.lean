import CpsKitchen.ConveyorAgent.Belt
import CpsKitchen.ConveyorAgent.Driver

/-!
# How a plate is represented

Where the plates stand is counted in moves of the belt. What a free plate keeps
is what `reset_plate` wrote: a target is set only on a plate that a next robot
was requested for, and such a plate stays occupied until its answer came.
-/

namespace CpsKitchen.ConveyorAgent

open CpsKitchen.Reactive CpsKitchen.Recipes CpsKitchen.Ring
open CpsKitchen.RobotAgent (HandoverReply timeUnit)

set_option autoImplicit false

variable {config : Config} {c after : Conveyor} {event : Event} {outputs : List Output}

section Moves

def movesBelt (c : Conveyor) : Event → Bool
  | .runHandler _ => c.posted.head? == some (.timerCompleted .moveConveyor)
  | _ => false

def countingMoves (config : Config) : Machine (Conveyor × Nat) Event Output :=
  (machine config).observed 0 fun c event moves =>
    if movesBelt c event then moves + 1 else moves

/-- Neither where the plates stand nor where they are looked up differs. -/
def StandsStill (c after : Conveyor) : Prop :=
  (∀ plateId, (after.plates plateId).position = (c.plates plateId).position) ∧
    after.positionPlateIdMap = c.positionPlateIdMap

theorem Aligned.standsStill {moves : Nat} (aligned : Aligned config moves c)
    (still : StandsStill c after) : Aligned config moves after :=
  aligned_of_positions aligned still.1 still.2

theorem updatePlate_standsStill {plateId : PlateId} {plate : Plate}
    (position : plate.position = (c.plates plateId).position) :
    StandsStill c (updatePlate c plateId plate) := by
  refine ⟨?_, rfl⟩
  intro other
  by_cases same : other = plateId
  · simp [updatePlate, same, position]
  · simp [updatePlate, same]

theorem determineNextMovement_standsStill (c : Conveyor) :
    StandsStill c (determineNextMovement c) := by
  have decided := determineNextMovement_cases c
  generalize determineNextMovement c = after at decided
  cases decided with
  | retrieves | requests | idles => exact ⟨fun _ => rfl, rfl⟩

theorem handles_standsStill {handler : Handler} (ran : Handles config c handler after)
    (elsewhere : handler ≠ .timerCompleted .moveConveyor) : StandsStill c after := by
  cases ran with
  | notificationDropped | notificationTaken | notificationStarts | answerIgnored | swapped
  | reconnectedInTime | retrieves | aborted => exact ⟨fun _ => rfl, rfl⟩
  | answerTaken answer map position rest =>
      have assigned : StandsStill c (setTargetPosition
          { withRobots c map with nextRobotRequestQueue := rest }
          (c.positionPlateIdMap position) answer.robotPosition) := updatePlate_standsStill rfl
      unfold takeNextRobot
      simp only
      split <;> split
      · exact assigned
      · exact ⟨fun _ => rfl, rfl⟩
      · exact assigned
      · exact ⟨fun _ => rfl, rfl⟩
  | reconnected => exact determineNextMovement_standsStill { c with nextRobotRequestQueue := [] }
  | moves => exact absurd rfl elsewhere

theorem visits_standsStill (visit : Visits c event after outputs) : StandsStill c after := by
  cases visit with
  | keptNotification | droppedNotification | notRequested | requested | notDeliverable
  | orderRefused => exact ⟨fun _ => rfl, rfl⟩
  | handedOver position dish reply =>
      unfold handleHandoverFinishedOrder
      split
      · exact ⟨fun _ => rfl, rfl⟩
      · exact updatePlate_standsStill rfl
  | orderCompleted | notInstructed | taskRefused | taskMisplaced | taskAccepted =>
      exact updatePlate_standsStill rfl

theorem moveConveyor_aligned {moves : Nat} (aligned : Aligned config moves c) :
    Aligned config (moves + 1) (moveConveyor config c 1) := by
  obtain ⟨plates, map⟩ := movePlates_spec aligned le_rfl
  intro plateId exist
  refine ⟨?_, map plateId exist⟩
  have stands := plates plateId
  rw [if_pos exist] at stands
  exact congrArg Plate.position stands

theorem step_aligned {moves : Nat} (aligned : Aligned config moves c)
    (step : Step config c event after outputs) :
    Aligned config (if movesBelt c event then moves + 1 else moves) after := by
  cases step with
  | notificationReceived | answerReceived | positionChanged | robotStopped | controllerLost
  | controllerConnected | expired | retrieved => exact aligned
  | handled environment handler posted idle next ran =>
      have head : c.posted.head? = some handler := by rw [next, List.head?_cons]
      by_cases moves : handler = .timerCompleted .moveConveyor
      · rw [movesBelt, head, moves, if_pos (by simp)]
        rw [moves] at ran
        cases ran
        have taken : Aligned config _ (takeHandler c posted) := aligned
        exact moveConveyor_aligned taken
      · rw [movesBelt, head, if_neg (by simpa using moves)]
        have taken : Aligned config _ (takeHandler c posted) := aligned
        exact taken.standsStill (handles_standsStill ran moves)
  | retrieving left position reply loop member ran =>
      have still := visits_standsStill ran
      exact aligned.standsStill still
  | requesting left plateId reply loop member ran =>
      have still := visits_standsStill ran
      exact aligned.standsStill still
  | requested =>
      have still : StandsStill c (armMovement (setWorker c .betweenHandlers)) := by
        unfold armMovement
        split
        · exact ⟨fun _ => rfl, rfl⟩
        · exact ⟨fun _ => rfl, rfl⟩
      exact aligned.standsStill still
  | delivering left plateId kitchen robot loop member ran =>
      have still := visits_standsStill ran
      exact aligned.standsStill still
  | delivered => exact aligned.standsStill (determineNextMovement_standsStill c)

end Moves

section Cleared

/-- A free plate keeps nothing of a dish, and a next robot was requested only
for plates with one. -/
structure Cleared (c : Conveyor) : Prop where
  reset : ∀ plateId, (c.plates plateId).occupied = false →
    (c.plates plateId).processedSteps = 0 ∧ (c.plates plateId).targetPosition = 0 ∧
      (c.plates plateId).isDishFinished = false
  queued : ∀ position ∈ c.nextRobotRequestQueue, (plateAt c position).occupied = true

theorem initial_cleared (config : Config) : Cleared (initial config) where
  reset := by simp [initial, initialPlate]
  queued := by simp [initial]

theorem Cleared.transport (cleared : Cleared c) (plates : after.plates = c.plates)
    (map : after.positionPlateIdMap = c.positionPlateIdMap)
    (queue : ∀ position ∈ after.nextRobotRequestQueue, position ∈ c.nextRobotRequestQueue) :
    Cleared after where
  reset := by rw [plates]; exact cleared.reset
  queued := by
    intro position member
    rw [plateAt, plates, map]
    exact cleared.queued position (queue position member)

theorem Cleared.updatePlate (cleared : Cleared c) (plateId : PlateId) {plate : Plate}
    (reset : plate.occupied = false →
      plate.processedSteps = 0 ∧ plate.targetPosition = 0 ∧ plate.isDishFinished = false)
    (kept : plate.occupied = true ∨ (c.plates plateId).occupied = plate.occupied ∨
      c.nextRobotRequestQueue = []) : Cleared (updatePlate c plateId plate) where
  reset := by
    intro other free
    by_cases same : other = plateId
    · rw [same] at free ⊢
      simp only [ConveyorAgent.updatePlate, Function.update_self] at free ⊢
      exact reset free
    · simp only [ConveyorAgent.updatePlate, Function.update_of_ne same] at free ⊢
      exact cleared.reset other free
  queued := by
    intro position member
    have member : position ∈ c.nextRobotRequestQueue := member
    have before := cleared.queued position member
    by_cases same : c.positionPlateIdMap position = plateId
    · simp only [plateAt, ConveyorAgent.updatePlate, same, Function.update_self]
      rcases kept with occupied | unchanged | empty
      · exact occupied
      · rw [← unchanged, ← same]
        exact before
      · rw [empty] at member
        contradiction
    · simp only [plateAt, ConveyorAgent.updatePlate, Function.update_of_ne same]
      exact before

theorem Cleared.untarget (cleared : Cleared c) (plateId : PlateId) :
    Cleared (setTargetPosition c plateId 0) := by
  refine cleared.updatePlate plateId ?_ (.inr (.inl rfl))
  intro free
  obtain ⟨steps, _, finished⟩ := cleared.reset plateId free
  exact ⟨steps, rfl, finished⟩

theorem freePlate_cleared (cleared : Cleared c) {plateId : PlateId}
    (queue : c.nextRobotRequestQueue = []) : Cleared (freePlate c plateId) := by
  have freed : Cleared (updatePlate c plateId (resetPlate (c.plates plateId))) :=
    cleared.updatePlate plateId (fun _ => ⟨rfl, rfl, rfl⟩) (.inr (.inr queue))
  exact freed.transport rfl rfl (fun _ member => member)

theorem determineNextMovement_cleared (cleared : Cleared c) :
    Cleared (determineNextMovement c) := by
  have decided := determineNextMovement_cases c
  generalize determineNextMovement c = after at decided
  cases decided with
  | retrieves | requests | idles => exact cleared.transport rfl rfl (fun _ member => member)

theorem takeNextRobot_cleared (cleared : Cleared c) {answer : NextRobot} {position : Position}
    {rest : List Position} (front : c.nextRobotRequestQueue = position :: rest) :
    Cleared (takeNextRobot c answer position rest) := by
  have popped : Cleared { c with nextRobotRequestQueue := rest } := by
    refine cleared.transport rfl rfl ?_
    intro other member
    rw [front]
    exact List.mem_cons_of_mem position member
  have occupied : (c.plates (c.positionPlateIdMap position)).occupied = true :=
    cleared.queued position (by rw [front]; exact List.mem_cons_self)
  have assigned : Cleared (setTargetPosition { c with nextRobotRequestQueue := rest }
      (c.positionPlateIdMap position) answer.robotPosition) := by
    refine popped.updatePlate _ ?_ (.inl occupied)
    intro free
    rw [show (c.plates (c.positionPlateIdMap position)).occupied = false from free] at occupied
    contradiction
  unfold takeNextRobot
  simp only
  split <;> split
  · exact assigned.transport rfl rfl (fun _ member => member)
  · exact popped.transport rfl rfl (fun _ member => member)
  · exact assigned
  · exact popped

theorem moveConveyor_cleared (cleared : Cleared c) (belt : Belt config c)
    (queue : c.nextRobotRequestQueue = []) : Cleared (moveConveyor config c 1) := by
  obtain ⟨moves, aligned⟩ := belt.aligned
  obtain ⟨plates, _⟩ := movePlates_spec aligned le_rfl
  obtain ⟨_, _, same⟩ := movePlates_frame config c 1 config.plateCount
  have still : (moveConveyor config c 1).nextRobotRequestQueue = [] := by
    rw [moveConveyor, same]
    exact queue
  constructor
  · intro plateId free
    have moved := plates plateId
    have free : ((movePlates config c 1 config.plateCount).plates plateId).occupied = false := free
    have kept : ((movePlates config c 1 config.plateCount).plates plateId).processedSteps = 0 ∧
        ((movePlates config c 1 config.plateCount).plates plateId).targetPosition = 0 ∧
        ((movePlates config c 1 config.plateCount).plates plateId).isDishFinished = false := by
      rw [moved] at free ⊢
      split at free
      next inside =>
        rw [if_pos inside]
        exact cleared.reset plateId free
      next outside =>
        rw [if_neg outside]
        exact cleared.reset plateId free
    exact kept
  · rw [still]
    simp

theorem handles_cleared (cleared : Cleared c) (belt : Belt config c) {handler : Handler}
    (waited : handler = .timerCompleted .moveConveyor → c.nextRobotRequestQueue = [])
    (ran : Handles config c handler after) : Cleared after := by
  cases ran with
  | notificationDropped | notificationTaken | notificationStarts | answerIgnored | swapped
  | reconnectedInTime | retrieves | aborted =>
      exact cleared.transport rfl rfl (fun _ member => member)
  | answerTaken answer map position rest front =>
      have robots : Cleared (withRobots c map) :=
        cleared.transport rfl rfl (fun _ member => member)
      exact takeNextRobot_cleared robots front
  | reconnected =>
      have emptied : Cleared { c with nextRobotRequestQueue := [] } :=
        cleared.transport rfl rfl (by simp)
      exact determineNextMovement_cleared emptied
  | moves => exact moveConveyor_cleared cleared belt (waited rfl)

theorem visits_cleared (cleared : Cleared c) (belt : Belt config c)
    (visit : Visits c event after outputs)
    (requesting : ∀ plateId reply, event = .requestNextRobot plateId reply →
      plateId ∈ c.occupiedPlates)
    (delivering : ∀ plateId kitchen robot, event = .deliver plateId kitchen robot →
      c.nextRobotRequestQueue = []) : Cleared after := by
  cases visit with
  | keptNotification | droppedNotification | notRequested | notDeliverable | orderRefused =>
      exact cleared.transport rfl rfl (fun _ member => member)
  | handedOver position dish reply =>
      have answered : Cleared { c with notifications := c.notifications.erase position } :=
        cleared.transport rfl rfl (fun _ member => member)
      unfold handleHandoverFinishedOrder
      split
      · exact answered
      · refine (answered.updatePlate (c.positionPlateIdMap reply.position) ?_
          (.inl rfl)).transport rfl rfl (fun _ member => member)
        simp
  | requested plateId =>
      refine ⟨cleared.reset, ?_⟩
      intro position member
      rcases List.mem_append.mp member with before | new
      · exact cleared.queued position before
      · have occupied := requesting plateId _ rfl
        have here := belt.plateId_at (belt.exist plateId occupied)
        rw [List.mem_singleton.mp new]
        have found : (c.plates (c.positionPlateIdMap (c.plates plateId).position)).occupied =
            true := by
          rw [here]
          exact (belt.occupied plateId).mp occupied
        exact found
  | orderCompleted plateId =>
      exact freePlate_cleared cleared (delivering plateId _ _ rfl)
  | taskAccepted plateId =>
      exact freePlate_cleared cleared (delivering plateId _ _ rfl)
  | notInstructed plateId kitchen robot map =>
      have robots : Cleared (withRobots c map) :=
        cleared.transport rfl rfl (fun _ member => member)
      exact robots.untarget plateId
  | taskRefused plateId => exact cleared.untarget plateId
  | taskMisplaced plateId =>
      exact (cleared.untarget plateId).transport rfl rfl (fun _ member => member)

theorem step_cleared (cleared : Cleared c) (belt : Belt config c) (driver : Driver c)
    (step : Step config c event after outputs) : Cleared after := by
  cases step with
  | notificationReceived | answerReceived | positionChanged | robotStopped | controllerLost
  | controllerConnected | expired | retrieved =>
      exact cleared.transport rfl rfl (fun _ member => member)
  | handled environment handler posted idle next ran =>
      have taken : Cleared (takeHandler c posted) :=
        cleared.transport rfl rfl (fun _ member => member)
      have beltTaken : Belt config (takeHandler c posted) :=
        belt.transport rfl rfl rfl rfl belt.left
      refine handles_cleared taken beltTaken ?_ ran
      intro moves
      rw [moves] at next
      exact (driver.after_wait next).2.1
  | retrieving left position reply loop member ran =>
      have crossed : Cleared (setWorker c (.retrievingFinishedOrders (left.erase position))) :=
        cleared.transport rfl rfl (fun _ member => member)
      have beltCrossed : Belt config
          (setWorker c (.retrievingFinishedOrders (left.erase position))) :=
        belt.transport rfl rfl rfl rfl (Finset.empty_subset _)
      exact visits_cleared crossed beltCrossed ran (by simp) (by simp)
  | requesting left plateId reply loop member ran =>
      have subset : left ⊆ c.occupiedPlates := by simpa [loop, leftPlates] using belt.left
      have crossed : Cleared (setWorker c (.requestingNextRobots (left.erase plateId))) :=
        cleared.transport rfl rfl (fun _ member => member)
      have beltCrossed : Belt config (setWorker c (.requestingNextRobots (left.erase plateId))) :=
        belt.transport rfl rfl rfl rfl ((Finset.erase_subset _ _).trans subset)
      refine visits_cleared crossed beltCrossed ran ?_ (by simp)
      intro other reply same
      cases same
      exact subset member
  | requested =>
      unfold armMovement
      split
      · exact cleared.transport rfl rfl (fun _ member => member)
      · exact cleared.transport rfl rfl (fun _ member => member)
  | delivering left plateId kitchen robot loop member ran =>
      have subset : left ⊆ c.occupiedPlates := by simpa [loop, leftPlates] using belt.left
      have queue := driver.collecting left (.inr loop)
      have crossed : Cleared (setWorker c (.deliveringFinishedOrders (left.erase plateId))) :=
        cleared.transport rfl rfl (fun _ member => member)
      have beltCrossed : Belt config
          (setWorker c (.deliveringFinishedOrders (left.erase plateId))) :=
        belt.transport rfl rfl rfl rfl ((Finset.erase_subset _ _).trans subset)
      exact visits_cleared crossed beltCrossed ran (by simp) (fun _ _ _ _ => queue)
  | delivered => exact determineNextMovement_cleared cleared

theorem reaches_cleared {allowed : Conveyor → Event → Prop} {history : History Event Output}
    (reached : (machine config).Reaches allowed history c) : Cleared c :=
  reached.history_invariant (fun _ started => by cases started; exact initial_cleared config)
    (fun _ _ _ _ _ earlier cleared _ taken =>
      step_cleared cleared (reaches_belt earlier) (reaches_driver earlier) (step_cases taken).2)

end Cleared

/-- The views of a plate agree, after this many moves of the belt. -/
structure Represented (config : Config) (moves : Nat) (c : Conveyor) : Prop where
  position : ∀ plateId < config.plateCount,
    (c.plates plateId).position = (plateId + moves) % config.plateCount
  lookedUp : ∀ plateId < config.plateCount, ∀ position < config.plateCount,
    c.positionPlateIdMap position = plateId ↔ (c.plates plateId).position = position
  onBelt : ∀ position < config.plateCount, c.positionPlateIdMap position < config.plateCount
  known : ∀ plateId ∈ c.occupiedPlates, plateId < config.plateCount
  occupied : ∀ plateId, plateId ∈ c.occupiedPlates ↔ (c.plates plateId).occupied = true
  placed : ∀ plateId, (c.plates plateId).occupied = true ↔ (c.plates plateId).placedRecipeId ≠ 0
  reset : ∀ plateId, (c.plates plateId).occupied = false →
    (c.plates plateId).processedSteps = 0 ∧ (c.plates plateId).targetPosition = 0 ∧
      (c.plates plateId).isDishFinished = false
  published : c.occupiedPlatesAttribute = c.occupiedPlates.card

theorem Belt.lookedUp (belt : Belt config c) {plateId : PlateId}
    (exist : plateId < config.plateCount) {position : Position}
    (inside : position < config.plateCount) :
    c.positionPlateIdMap position = plateId ↔ (c.plates plateId).position = position := by
  constructor
  · intro found
    rw [← found]
    exact belt.plateAt_position inside
  · intro stands
    rw [← stands]
    exact belt.plateId_at exist

theorem initial_aligned (config : Config) : Aligned config 0 (initial config) := by
  intro plateId exist
  simp [initial, initialPlate, turned_zero exist, exist]

theorem reaches_aligned {allowed : Conveyor × Nat → Event → Prop}
    {history : History Event Output} {state : Conveyor × Nat}
    (reached : (countingMoves config).Reaches allowed history state) :
    Aligned config state.2 state.1 := by
  induction reached with
  | @start state started =>
      obtain ⟨started, none⟩ := started
      have started : state.1 = initial config := started
      rw [started, none]
      exact initial_aligned config
  | step earlier permitted taken aligned =>
      obtain ⟨taken, recorded⟩ := Machine.observed_step taken
      rw [recorded]
      exact step_aligned aligned (step_cases taken).2

/-- After `moves` moves of the belt every plate is represented as it should be,
between two handlers and inside of one. -/
theorem plates_represented (config : Config) (history : History Event Output) (c : Conveyor)
    (moves : Nat) (reached : (countingMoves config).Reaches (fun _ _ => True) history (c, moves)) :
    Represented config moves c := by
  have plain : (machine config).Reaches (fun _ _ => True) history c :=
    Machine.Reaches.unobserved (fun _ _ _ => trivial) reached
  have belt := reaches_belt plain
  have aligned := reaches_aligned reached
  exact
    { position := fun plateId exist => (aligned plateId exist).1
      lookedUp := fun plateId exist position inside => belt.lookedUp exist inside
      onBelt := fun position _ => belt.onBelt position
      known := belt.exist
      occupied := belt.occupied
      placed := belt.placed
      reset := (reaches_cleared plain).reset
      published := belt.counted }

/-- A dish is put on plate 2 and the belt moves once. -/
theorem plates_represented_after_move :
    ∃ history c, (countingMoves fivePlates).Reaches (fun _ _ => True) history (c, 1) ∧
      c.occupiedPlates = {2} ∧ (plateAt c 3).targetPosition = 3 ∧
      Represented fivePlates 1 c := by
  obtain ⟨history, state, reached, shown⟩ := Machine.exists_reaches_of_replay
    (countingMoves fivePlates) (fun _ _ => True)
    (show (countingMoves fivePlates).start (initial fivePlates, 0) from ⟨rfl, rfl⟩)
    [.receiveFinishedOrderNotification "opc.tcp://robot:2" 2, .runHandler ⟨true, none, none⟩,
     .timerExpires, .runHandler ⟨true, none, none⟩,
     .retrieve 2 (some (7, ⟨"opc.tcp://robot:2", 2, 3, 4, false⟩)), .retrieved,
     .requestNextRobot 2 (some true), .requested,
     .receiveNextRobot ⟨3, "opc.tcp://robot:3", 3, ⟨2, 3, 4⟩⟩, .runHandler ⟨true, none, none⟩,
     .timerExpires, .runHandler ⟨true, none, none⟩]
    (fun _ state => decide (state.2 = 1 ∧ state.1.occupiedPlates = {2} ∧
      (plateAt state.1 3).targetPosition = 3)) (by decide)
  obtain ⟨c, moves⟩ := state
  obtain ⟨rfl, occupied, target⟩ := of_decide_eq_true shown
  exact ⟨history, c, reached, occupied, target, plates_represented fivePlates history c 1 reached⟩

end CpsKitchen.ConveyorAgent
