import CpsKitchen.Reactive.Ledger
import CpsKitchen.ConveyorAgent.Dishes

/-!
# What lies on the plates

The belt keeps what lies on a plate until the kitchen or a robot takes it.
`Carries` says what one step does to the contents of the plates, whatever the
robots report. The dishes on the belt are those handed over to it, or fewer.
-/

namespace CpsKitchen.ConveyorAgent

open CpsKitchen.Reactive CpsKitchen.Recipes
open CpsKitchen.RobotAgent (HandoverReply timeUnit)

set_option autoImplicit false

variable {config : Config} {c after : Conveyor} {event : Event} {outputs : List Output}

structure Content where
  dish : DishId
  recipeId : RecipeId
  processedSteps : Nat
  isDishFinished : Bool
  deriving DecidableEq

def content (plate : Plate) : Content where
  dish := plate.dish
  recipeId := plate.placedRecipeId
  processedSteps := plate.processedSteps
  isDishFinished := plate.isDishFinished

def contentOf (dish : DishId) (reply : HandoverReply) : Content where
  dish := dish
  recipeId := reply.recipeId
  processedSteps := reply.processedSteps
  isDishFinished := reply.isDishFinished

/-- A robot that accepts a task reports the position it was addressed at. -/
def ReportsAddress (c : Conveyor) : Event → Prop
  | .deliver plateId _ robot =>
      ∀ reply ∈ robot.reply, reply.2 = true → reply.1 = (c.plates plateId).position
  | _ => True

def Output.takenIn : Output → Multiset DishId
  | .handoverReply dish reply => if reply.recipeId = 0 then 0 else {dish}
  | _ => 0

def Output.givenAway : Output → Multiset DishId
  | .completedOrder dish _ true => {dish}
  | .robotInstructed dish _ _ _ true => {dish}
  | _ => 0

/-- What a step does to the plates: nothing, put a dish on one of them, or
free one whose dish was accepted. -/
inductive Carries (c after : Conveyor) (outputs : List Output) : Prop where
  | kept (occupiedPlates : after.occupiedPlates = c.occupiedPlates)
      (contents : ∀ plateId, content (after.plates plateId) = content (c.plates plateId))
      (nothingIn : amount Output.takenIn outputs = 0)
      (nothingOut : amount Output.givenAway outputs = 0)
  | placed (plateId : PlateId) (dish : DishId) (reply : HandoverReply)
      (recipe : reply.recipeId ≠ 0) (handedOver : outputs = [.handoverReply dish reply])
      (occupiedPlates : after.occupiedPlates = insert plateId c.occupiedPlates)
      (here : content (after.plates plateId) = contentOf dish reply)
      (elsewhere : ∀ other, other ≠ plateId →
        content (after.plates other) = content (c.plates other))
  | freed (plateId : PlateId) (member : plateId ∈ c.occupiedPlates)
      (nothingIn : amount Output.takenIn outputs = 0)
      (given : amount Output.givenAway outputs = {(c.plates plateId).dish})
      (occupiedPlates : after.occupiedPlates = c.occupiedPlates.erase plateId)
      (elsewhere : ∀ other, other ≠ plateId →
        content (after.plates other) = content (c.plates other))

theorem Carries.of_same {outputs : List Output} (plates : after.plates = c.plates)
    (occupiedPlates : after.occupiedPlates = c.occupiedPlates)
    (nothingIn : amount Output.takenIn outputs = 0)
    (nothingOut : amount Output.givenAway outputs = 0) : Carries c after outputs :=
  .kept occupiedPlates (fun plateId => by rw [plates]) nothingIn nothingOut

theorem Carries.from_same {middle : Conveyor} {outputs : List Output}
    (carries : Carries middle after outputs) (plates : middle.plates = c.plates)
    (occupiedPlates : middle.occupiedPlates = c.occupiedPlates) : Carries c after outputs := by
  cases carries with
  | kept occupied contents nothingIn nothingOut =>
      rw [occupiedPlates] at occupied
      rw [plates] at contents
      exact .kept occupied contents nothingIn nothingOut
  | placed plateId dish reply recipe handedOver occupied here elsewhere =>
      rw [occupiedPlates] at occupied
      rw [plates] at elsewhere
      exact .placed plateId dish reply recipe handedOver occupied here elsewhere
  | freed plateId member nothingIn given occupied elsewhere =>
      rw [occupiedPlates] at member occupied
      rw [plates] at given elsewhere
      exact .freed plateId member nothingIn given occupied elsewhere

theorem content_setTargetPosition (c : Conveyor) (plateId other : PlateId)
    (position : Position) :
    content ((setTargetPosition c plateId position).plates other) = content (c.plates other) := by
  by_cases same : other = plateId
  · simp [setTargetPosition, updatePlate, content, same]
  · simp [setTargetPosition, updatePlate, same]

theorem takeNextRobot_content (c : Conveyor) (answer : NextRobot) (position : Position)
    (rest : List Position) (plateId : PlateId) :
    content ((takeNextRobot c answer position rest).plates plateId) =
      content (c.plates plateId) := by
  have targeted : content ((if answer.robotPosition ≠ 0 ∧ answer.robotEndpoint ≠ "" then
      setTargetPosition { c with nextRobotRequestQueue := rest } (c.positionPlateIdMap position)
        answer.robotPosition
      else { c with nextRobotRequestQueue := rest }).plates plateId) =
        content (c.plates plateId) := by
    split
    · exact content_setTargetPosition { c with nextRobotRequestQueue := rest } _ _ _
    · rfl
  unfold takeNextRobot
  simp only
  split
  · exact targeted
  · exact targeted

theorem movePlates_content (config : Config) (c : Conveyor) (steps count : Nat)
    (plateId : PlateId) :
    content ((movePlates config c steps count).plates plateId) = content (c.plates plateId) := by
  induction count with
  | zero => rfl
  | succ moved ih =>
      rw [← ih, movePlates]
      by_cases same : plateId = moved
      · simp [updatePlate, content, same]
      · simp [updatePlate, same]

theorem handles_carries {handler : Handler} (ran : Handles config c handler after) :
    Carries c after [] := by
  have occupied := handles_occupiedPlates ran
  cases ran with
  | notificationDropped | notificationTaken | notificationStarts | answerIgnored | swapped
  | reconnectedInTime | retrieves | aborted => exact .of_same rfl rfl rfl rfl
  | answerTaken answer map position rest =>
      exact .kept occupied (takeNextRobot_content _ answer position rest) rfl rfl
  | reconnected =>
      have decided := determineNextMovement_cases { c with nextRobotRequestQueue := [] }
      generalize determineNextMovement { c with nextRobotRequestQueue := [] } = after at decided
      cases decided <;> exact .of_same rfl rfl rfl rfl
  | moves => exact .kept occupied (movePlates_content config c 1 config.plateCount) rfl rfl

theorem freePlate_carries {plateId : PlateId} {output : Output}
    (member : plateId ∈ c.occupiedPlates) (nothingIn : output.takenIn = 0)
    (given : output.givenAway = {(c.plates plateId).dish}) :
    Carries c (freePlate c plateId) [output] := by
  refine .freed plateId member (by simp [nothingIn]) (by simp [given]) rfl ?_
  intro other different
  simp [freePlate, updatePlate, different]

theorem visits_carries (visit : Visits c event after outputs) (reports : ReportsAddress c event)
    (delivering : ∀ plateId kitchen robot, event = .deliver plateId kitchen robot →
      plateId ∈ c.occupiedPlates) : Carries c after outputs := by
  cases visit with
  | keptNotification | droppedNotification | notRequested | requested | notDeliverable
  | orderRefused => exact .of_same rfl rfl rfl rfl
  | handedOver position dish reply free =>
      unfold handleHandoverFinishedOrder
      split
      next empty =>
        exact .of_same rfl rfl (by simp [Output.takenIn, empty]) rfl
      next recipe =>
        refine .placed (c.positionPlateIdMap reply.position) dish reply recipe rfl rfl ?_ ?_
        · simp [updatePlate, content, contentOf]
        · intro other different
          simp [updatePlate, different]
  | orderCompleted plateId =>
      exact freePlate_carries (delivering plateId _ _ rfl) rfl rfl
  | taskAccepted plateId =>
      exact freePlate_carries (delivering plateId _ _ rfl) rfl rfl
  | notInstructed plateId kitchen robot map =>
      exact .kept rfl (fun other => content_setTargetPosition (withRobots c map) plateId other 0)
        rfl rfl
  | taskRefused plateId =>
      exact .kept rfl (fun other => content_setTargetPosition c plateId other 0) rfl rfl
  | taskMisplaced plateId kitchen robot robotPosition replied elsewhere =>
      exact absurd (reports _ replied rfl).symm elsewhere

theorem step_carries (belt : Belt config c) (reports : ReportsAddress c event)
    (step : Step config c event after outputs) : Carries c after outputs := by
  cases step with
  | notificationReceived | answerReceived | positionChanged | robotStopped | controllerLost
  | controllerConnected | expired | retrieved => exact .of_same rfl rfl rfl rfl
  | handled environment handler posted idle next ran =>
      exact (handles_carries ran).from_same rfl rfl
  | retrieving left position reply loop member ran =>
      exact (visits_carries ran trivial (by intros; contradiction)).from_same rfl rfl
  | requesting left plateId reply loop member ran =>
      exact (visits_carries ran trivial (by intros; contradiction)).from_same rfl rfl
  | requested =>
      unfold armMovement
      split <;> exact .of_same rfl rfl rfl rfl
  | delivering left plateId kitchen robot loop member ran =>
      have subset : left ⊆ c.occupiedPlates := by simpa [loop, leftPlates] using belt.left
      refine (visits_carries ran reports ?_).from_same rfl rfl
      intro other kitchen robot same
      cases same
      exact subset member
  | delivered =>
      have decided := determineNextMovement_cases c
      generalize determineNextMovement c = after at decided
      cases decided <;> exact .of_same rfl rfl rfl rfl

def placedDishes (c : Conveyor) : Multiset DishId :=
  c.occupiedPlates.val.map fun plateId => (c.plates plateId).dish

theorem placedDishes_congr (occupiedPlates : after.occupiedPlates = c.occupiedPlates)
    (contents : ∀ plateId ∈ c.occupiedPlates,
      content (after.plates plateId) = content (c.plates plateId)) :
    placedDishes after = placedDishes c := by
  rw [placedDishes, placedDishes, occupiedPlates]
  apply Multiset.map_congr rfl
  intro plateId member
  exact congrArg Content.dish (contents plateId member)

theorem placedDishes_split {plateId : PlateId} (member : plateId ∈ c.occupiedPlates) :
    placedDishes c = {(c.plates plateId).dish} +
      (c.occupiedPlates.erase plateId).val.map fun other => (c.plates other).dish := by
  have front : c.occupiedPlates.val = plateId ::ₘ (c.occupiedPlates.erase plateId).val := by
    rw [Finset.erase_val, Multiset.cons_erase (Finset.mem_val.mpr member)]
  rw [placedDishes, front, Multiset.map_cons, Multiset.singleton_add]

/-- No step of the belt makes a dish. -/
theorem Carries.placedDishes_le (carries : Carries c after outputs) :
    placedDishes after + amount Output.givenAway outputs ≤
      placedDishes c + amount Output.takenIn outputs := by
  have others : ∀ plateId, (∀ other, other ≠ plateId →
        content (after.plates other) = content (c.plates other)) →
      ((c.occupiedPlates.erase plateId).val.map fun other => (after.plates other).dish) =
        (c.occupiedPlates.erase plateId).val.map fun other => (c.plates other).dish := by
    intro plateId elsewhere
    apply Multiset.map_congr rfl
    intro other inside
    have different := Finset.ne_of_mem_erase (Finset.mem_val.mp inside)
    exact congrArg Content.dish (elsewhere other different)
  cases carries with
  | kept occupiedPlates contents nothingIn nothingOut =>
      rw [placedDishes_congr occupiedPlates (fun plateId _ => contents plateId), nothingIn,
        nothingOut]
  | placed plateId dish reply recipe handedOver occupiedPlates here elsewhere =>
      subst handedOver
      have taken : amount Output.takenIn [.handoverReply dish reply] = {dish} := by
        simp [Output.takenIn, recipe]
      have given : amount Output.givenAway [.handoverReply dish reply] = 0 := rfl
      have member : plateId ∈ after.occupiedPlates := by
        rw [occupiedPlates]
        exact Finset.mem_insert_self plateId _
      have put : (after.plates plateId).dish = dish := congrArg Content.dish here
      have rest : after.occupiedPlates.erase plateId = c.occupiedPlates.erase plateId := by
        rw [occupiedPlates, Finset.erase_insert_eq_erase]
      rw [taken, given, add_zero, placedDishes_split member, rest, others plateId elsewhere, put,
        add_comm]
      refine add_le_add ?_ le_rfl
      exact Multiset.map_le_map (Finset.val_le_iff.mpr (Finset.erase_subset _ _))
  | freed plateId member nothingIn given occupiedPlates elsewhere =>
      rw [given, nothingIn, add_zero, placedDishes_split member, add_comm]
      refine add_le_add le_rfl ?_
      rw [placedDishes, occupiedPlates, others plateId elsewhere]

/-- What lies on a plate has been there before or was just handed over. -/
theorem Carries.content_from (carries : Carries c after outputs) {plateId : PlateId}
    (occupied : plateId ∈ after.occupiedPlates) :
    (plateId ∈ c.occupiedPlates ∧ content (after.plates plateId) = content (c.plates plateId)) ∨
      ∃ dish reply, outputs = [.handoverReply dish reply] ∧ reply.recipeId ≠ 0 ∧
        content (after.plates plateId) = contentOf dish reply := by
  cases carries with
  | kept occupiedPlates contents =>
      rw [occupiedPlates] at occupied
      exact .inl ⟨occupied, contents plateId⟩
  | placed placedAt dish reply recipe handedOver occupiedPlates here elsewhere =>
      by_cases same : plateId = placedAt
      · subst same
        exact .inr ⟨dish, reply, handedOver, recipe, here⟩
      · rw [occupiedPlates] at occupied
        exact .inl ⟨Finset.mem_of_mem_insert_of_ne occupied same, elsewhere plateId same⟩
  | freed freedPlate member nothingIn given occupiedPlates elsewhere =>
      rw [occupiedPlates] at occupied
      exact .inl ⟨Finset.mem_of_mem_erase occupied,
        elsewhere plateId (Finset.ne_of_mem_erase occupied)⟩

theorem placedDishes_put {plateId : PlateId} {dish : DishId} (free : plateId ∉ c.occupiedPlates)
    (occupied : after.occupiedPlates = insert plateId c.occupiedPlates)
    (here : (after.plates plateId).dish = dish)
    (elsewhere : ∀ other, other ≠ plateId →
      (after.plates other).dish = (c.plates other).dish) :
    placedDishes after = placedDishes c + {dish} := by
  have member : plateId ∈ after.occupiedPlates := by
    rw [occupied]
    exact Finset.mem_insert_self plateId _
  have rest : after.occupiedPlates.erase plateId = c.occupiedPlates := by
    rw [occupied, Finset.erase_insert free]
  rw [placedDishes_split member, rest, here, add_comm, placedDishes]
  congr 1
  apply Multiset.map_congr rfl
  intro other inside
  exact elsewhere other fun same => free (same ▸ inside)

/-- Without a handover the belt loses no dish but those that are accepted. -/
theorem Carries.balanced (carries : Carries c after outputs)
    (noHandover : ∀ dish reply, outputs ≠ [.handoverReply dish reply]) :
    placedDishes after + amount Output.givenAway outputs =
      placedDishes c + amount Output.takenIn outputs := by
  cases carries with
  | kept occupiedPlates contents nothingIn nothingOut =>
      rw [placedDishes_congr occupiedPlates (fun plateId _ => contents plateId), nothingIn,
        nothingOut]
  | placed plateId dish reply _ handedOver => exact absurd handedOver (noHandover dish reply)
  | freed plateId member nothingIn given occupiedPlates elsewhere =>
      rw [given, nothingIn, add_zero, placedDishes_split member, add_comm, placedDishes,
        occupiedPlates]
      congr 1
      apply Multiset.map_congr rfl
      intro other inside
      have different := Finset.ne_of_mem_erase (Finset.mem_val.mp inside)
      exact congrArg Content.dish (elsewhere other different)

theorem handover_balanced (belt : Belt config c) {position : Position} {dish : DishId}
    {reply : HandoverReply} (free : (plateAt c position).occupied = false)
    (present : findRobot c position ≠ none) (here : reply.position = position)
    (taken : step config c (.retrieve position (some (dish, reply))) =
      some (after, outputs)) :
    outputs = [.handoverReply dish reply] ∧
      placedDishes after = placedDishes c + Output.takenIn (.handoverReply dish reply) := by
  obtain ⟨running, reaction⟩ := step_cases taken
  cases reaction with
  | retrieving left _ _ loop member =>
      obtain ⟨robot, found⟩ := Option.ne_none_iff_exists'.mp present
      have there := Option.join_eq_some_iff.mp found
      have freePlate : c.positionPlateIdMap position ∉ c.occupiedPlates := by
        rw [belt.occupied]
        have free : (c.plates (c.positionPlateIdMap position)).occupied = false := free
        simp [free]
      have ran : retrieve (setWorker c (.retrievingFinishedOrders (left.erase position))) position
          (some (dish, reply)) = some (after, outputs) := by
        simpa [step, running, loop, member] using taken
      have notOccupied : ¬ (plateAt (setWorker c (.retrievingFinishedOrders
          (left.erase position))) position).occupied = true := by
        change ¬ (plateAt c position).occupied = true
        simp [free]
      rw [retrieve, if_neg notOccupied] at ran
      simp only [setWorker, there] at ran
      cases ran
      refine ⟨rfl, ?_⟩
      unfold handleHandoverFinishedOrder
      split
      next empty =>
        have nothing : Output.takenIn (.handoverReply dish reply) = 0 := if_pos empty
        rw [nothing, add_zero]
        rfl
      next recipe =>
        have one : Output.takenIn (.handoverReply dish reply) = {dish} := if_neg recipe
        rw [one]
        rw [← here] at freePlate
        apply placedDishes_put freePlate rfl
        · simp [updatePlate]
        · intro other different
          simp [updatePlate, different]

end CpsKitchen.ConveyorAgent
