import CpsKitchen.ConveyorAgent.Offers
import CpsKitchen.Reactive.Ledger

/-!
# What the belt has still to do for its dishes

A plate with a goal is carried there and then loses its goal, whatever the robot
or the kitchen answers. Every move of the belt brings all of these plates nearer
to their goals.
-/

namespace CpsKitchen.ConveyorAgent

open CpsKitchen.Reactive CpsKitchen.Recipes CpsKitchen.Ring
open CpsKitchen.RobotAgent (HandoverReply)

set_option autoImplicit false

variable {config : Config} {c after : Conveyor} {event : Event} {outputs : List Output}
  {plateId : PlateId}

/-- The belt, how many robots stand beside it, and what a task may cost one. -/
structure Site where
  config : Config
  robotCount : Nat
  taskCost : Nat

section Trips

variable (site : Site)

/-- What one round through the three loops takes, with a notification of every
robot and a dish on every plate. -/
def roundWeight : Nat := 2 * site.config.plateCount + site.robotCount + 5

def servingWeight (plate : Plate) : Nat := if plate.isDishFinished then 1 else site.taskCost

/-- The rounds until the dish on a plate is offered, and what comes of it. -/
def tripWeight (c : Conveyor) (plateId : PlateId) : Nat :=
  match goalOf (c.plates plateId) with
  | none => 0
  | some goal =>
      roundWeight site * dueIn site.config c plateId goal + servingWeight site (c.plates plateId)

def tripsWeight (c : Conveyor) : Nat :=
  ∑ plateId ∈ Finset.range site.config.plateCount, tripWeight site c plateId

theorem servingWeight_le (plate : Plate) : servingWeight site plate ≤ site.taskCost + 1 := by
  unfold servingWeight
  split <;> omega

variable {site} {goal : Position}

theorem tripWeight_aimless (aimless : goalOf (c.plates plateId) = none) :
    tripWeight site c plateId = 0 := by
  rw [tripWeight, aimless]

theorem tripWeight_aimed (aimed : goalOf (c.plates plateId) = some goal) :
    tripWeight site c plateId =
      roundWeight site * dueIn site.config c plateId goal +
        servingWeight site (c.plates plateId) := by
  rw [tripWeight, aimed]

theorem dueIn_le : dueIn config c plateId goal ≤ config.plateCount := by
  have way : wayTo config.plateCount (c.plates plateId).position goal < config.plateCount :=
    Nat.mod_lt _ config.plateCountPositive
  unfold dueIn stepsUntil
  split
  · exact way.le
  · split
    · exact le_rfl
    · exact way.le

theorem tripWeight_le (site : Site) (c : Conveyor) (plateId : PlateId) :
    tripWeight site c plateId ≤
      roundWeight site * site.config.plateCount + servingWeight site (c.plates plateId) := by
  cases aimed : goalOf (c.plates plateId) with
  | none =>
      rw [tripWeight_aimless aimed]
      exact Nat.zero_le _
  | some goal =>
      rw [tripWeight_aimed aimed]
      exact Nat.add_le_add_right (Nat.mul_le_mul_left _ dueIn_le) _

theorem tripWeight_congr (plate : after.plates plateId = c.plates plateId)
    (visited : plateId ∈ leftToDeliver after.worker ↔ plateId ∈ leftToDeliver c.worker) :
    tripWeight site after plateId = tripWeight site c plateId := by
  have due : ∀ goal, dueIn site.config after plateId goal = dueIn site.config c plateId goal :=
    fun goal => dueIn_congr (by rw [plate]) visited
  unfold tripWeight
  rw [plate]
  simp only [due]

theorem tripsWeight_congr (plates : after.plates = c.plates)
    (visited : leftToDeliver after.worker = leftToDeliver c.worker) :
    tripsWeight site after = tripsWeight site c := by
  apply Finset.sum_congr rfl
  intro plateId _
  exact tripWeight_congr (by rw [plates]) (by rw [visited])

theorem tripsWeight_one (exist : plateId < site.config.plateCount)
    (plates : ∀ other, other ≠ plateId → after.plates other = c.plates other)
    (visited : ∀ other, other ≠ plateId →
      (other ∈ leftToDeliver after.worker ↔ other ∈ leftToDeliver c.worker)) :
    tripsWeight site after + tripWeight site c plateId =
      tripsWeight site c + tripWeight site after plateId := by
  refine sum_exchange (Finset.mem_range.mpr exist) ?_
  intro other _ different
  exact tripWeight_congr (plates other different) (visited other different)

theorem Cleared.placed_of_goal (cleared : Cleared c) (belt : Belt config c)
    (aimed : goalOf (c.plates plateId) = some goal) : plateId ∈ c.occupiedPlates := by
  apply (belt.occupied plateId).mpr
  cases occupied : (c.plates plateId).occupied with
  | true => rfl
  | false =>
      obtain ⟨_, untargeted, unfinished⟩ := cleared.reset plateId occupied
      simp [goalOf, unfinished, untargeted] at aimed

theorem Carried.tripWeight_eq {moved : Bool}
    (carried : Carried site.config c after plateId goal moved)
    (aimed : goalOf (c.plates plateId) = some goal) :
    tripWeight site after plateId + roundWeight site * moved.toNat =
      tripWeight site c plateId := by
  have stillAimed : goalOf (after.plates plateId) = some goal := by
    rw [carried.plate, goalOf_moved]
    exact aimed
  have serving : servingWeight site (after.plates plateId) =
      servingWeight site (c.plates plateId) := by rw [carried.plate, servingWeight, servingWeight]
  rw [tripWeight_aimed stillAimed, tripWeight_aimed aimed, serving, ← carried.due, Nat.mul_add]
  omega

def TargetsOnBelt (config : Config) (c : Conveyor) : Prop :=
  ∀ plateId, (c.plates plateId).targetPosition < config.plateCount

theorem TargetsOnBelt.goalOf_lt (targets : TargetsOnBelt config c)
    (aimed : goalOf (c.plates plateId) = some goal) : goal < config.plateCount := by
  unfold goalOf at aimed
  split at aimed
  · cases aimed
    exact config.plateCountPositive
  · split at aimed
    · contradiction
    · cases aimed
      exact targets plateId

theorem takeNextRobot_nameless {answer : NextRobot} (nameless : answer.robotEndpoint = "")
    (c : Conveyor) (position : Position) (rest : List Position) :
    (takeNextRobot c answer position rest).plates = c.plates := by
  unfold takeNextRobot
  simp only [nameless, ne_eq, not_true_eq_false, and_false, if_false]
  split <;> rfl

theorem step_targets (targets : TargetsOnBelt config c) (belt : Belt config c)
    (answers : ∀ answer, .handleReceiveNextRobot answer ∈ c.posted → answer.robotEndpoint ≠ "" →
      answer.robotPosition < config.plateCount)
    (step : Step config c event after outputs) : TargetsOnBelt config after := by
  intro plateId
  rcases step_target belt step plateId with same | reset | ⟨answer, ⟨idle, ⟨posted, next⟩, _⟩, set⟩
  · rw [same]
    exact targets plateId
  · rw [reset]
    exact config.plateCountPositive
  · by_cases nameless : answer.robotEndpoint = ""
    · cases step with
      | notificationReceived | answerReceived | positionChanged | robotStopped | controllerLost
      | controllerConnected | expired => exact targets plateId
      | handled environment handler others _ front ran =>
          rw [next] at front
          cases front
          cases ran with
          | answerIgnored => exact targets plateId
          | answerTaken _ map position rest =>
              rw [takeNextRobot_nameless nameless]
              exact targets plateId
      | retrieving left _ _ loop | retrieved loop | requesting left _ _ loop | requested loop
      | delivering left _ _ _ loop | delivered loop =>
          rw [idle] at loop
          contradiction
    · rw [set]
      exact answers answer (by simp [next]) nameless

/-- A move brings every dish with a goal nearer to it. -/
theorem moveConveyor_trips (belt : Belt site.config c) (cleared : Cleared c)
    (idle : c.worker = .betweenHandlers) (targets : TargetsOnBelt site.config c) :
    tripsWeight site (moveConveyor site.config c 1) +
        roundWeight site * ((Finset.range site.config.plateCount).filter
          fun plateId => goalOf (c.plates plateId) ≠ none).card =
      tripsWeight site c := by
  obtain ⟨moves, aligned⟩ := belt.aligned
  have moved := (movePlates_spec aligned le_rfl).1
  rw [Finset.card_filter, Finset.mul_sum, tripsWeight, tripsWeight, ← Finset.sum_add_distrib]
  apply Finset.sum_congr rfl
  intro plateId _
  cases aimed : goalOf (c.plates plateId) with
  | none =>
      have stillAimless : goalOf ((moveConveyor site.config c 1).plates plateId) = none := by
        have plate : (moveConveyor site.config c 1).plates plateId =
          (movePlates site.config c 1 site.config.plateCount).plates plateId := rfl
        rw [plate, moved]
        split
        · exact (goalOf_moved _ _).trans aimed
        · exact aimed
      simp [tripWeight_aimless aimed, tripWeight_aimless stillAimless]
  | some goal =>
      have placed := cleared.placed_of_goal belt aimed
      have carried := moveConveyor_carried belt placed idle (targets.goalOf_lt aimed)
      simpa using carried.tripWeight_eq aimed

theorem takeNextRobot_trips (belt : Belt site.config c) (answer : NextRobot) (position : Position)
    (rest : List Position) :
    tripsWeight site (takeNextRobot c answer position rest) ≤
      tripsWeight site c + (roundWeight site * site.config.plateCount + site.taskCost + 1) := by
  obtain ⟨_, _, worker, others⟩ := takeNextRobot_frame c answer position rest
  have one := tripsWeight_one (belt.onBelt position) others (fun _ _ => by rw [worker])
  have trip := tripWeight_le site (takeNextRobot c answer position rest)
    (c.positionPlateIdMap position)
  have serving := servingWeight_le site
    ((takeNextRobot c answer position rest).plates (c.positionPlateIdMap position))
  omega

theorem tripWeight_le_of_finished
    (finished : goalOf (c.plates plateId) ≠ none → (c.plates plateId).isDishFinished = true) :
    tripWeight site c plateId ≤ roundWeight site * site.config.plateCount + 1 := by
  by_cases aimless : goalOf (c.plates plateId) = none
  · rw [tripWeight_aimless aimless]
    exact Nat.zero_le _
  · have serving : servingWeight site (c.plates plateId) = 1 := if_pos (finished aimless)
    rw [← serving]
    exact tripWeight_le site c plateId

/-- A dish comes onto a free plate. It has a way to go only if it is finished. -/
theorem handover_trips (belt : Belt site.config c) (cleared : Cleared c) {position : Position}
    (free : (plateAt c position).occupied = false) (dish : DishId) {reply : HandoverReply}
    (reports : reply.recipeId ≠ 0 → reply.position = position) :
    tripsWeight site (handleHandoverFinishedOrder c dish reply) ≤
      tripsWeight site c + (roundWeight site * site.config.plateCount + 1) := by
  by_cases recipe : reply.recipeId = 0
  · rw [handleHandoverFinishedOrder, if_pos recipe]
    exact Nat.le_add_right _ _
  · have untargeted := (cleared.reset _ free).2.1
    rw [handleHandoverFinishedOrder, if_neg recipe]
    simp only [reports recipe]
    generalize placed : ({ updatePlate c _ _ with
      occupiedPlates := _, occupiedPlatesAttribute := _ } : Conveyor) = after
    have others : ∀ other, other ≠ c.positionPlateIdMap position →
        after.plates other = c.plates other := by
      intro other different
      rw [← placed]
      exact Function.update_of_ne different _ _
    have worker : after.worker = c.worker := by
      rw [← placed]
      rfl
    have one := tripsWeight_one (belt.onBelt position) others (fun _ _ => by rw [worker])
    have trip : tripWeight site after (c.positionPlateIdMap position) ≤
        roundWeight site * site.config.plateCount + 1 := by
      apply tripWeight_le_of_finished
      intro aimed
      rw [← placed] at aimed ⊢
      by_contra unfinished
      apply aimed
      simp only [updatePlate, Function.update_self] at unfinished ⊢
      rw [goalOf, if_neg unfinished]
      exact if_pos untargeted
    omega

end Trips

section Deliveries

variable (site : Site)

def Output.servingWeight : Output → Nat
  | .robotInstructed _ _ _ _ _ => site.taskCost
  | .completedOrder _ _ _ => 1
  | .handoverReply _ _ | .nextRobotRequested _ => 0

variable {site}

def KitchenTakes (c : Conveyor) (plateId : PlateId) (kitchen : Option Bool) : Prop :=
  (c.plates plateId).isDishFinished = true → (c.plates plateId).position = outputPosition →
    kitchen = some true

theorem visits_deliver_others {visited : PlateId} {kitchen : Option Bool} {robot : RobotAnswer}
    (visit : Visits c (.deliver visited kitchen robot) after outputs) (other : PlateId)
    (different : other ≠ visited) : after.plates other = c.plates other := by
  cases visit with
  | notDeliverable | orderRefused => rfl
  | orderCompleted | notInstructed | taskRefused | taskMisplaced | taskAccepted =>
      exact Function.update_of_ne different _ _

theorem visits_deliver_serving (site : Site) {kitchen : Option Bool} {robot : RobotAnswer}
    (visit : Visits c (.deliver plateId kitchen robot) after outputs)
    (unfinished : (c.plates plateId).isDishFinished = false) :
    amount (Output.servingWeight site) outputs ≤ site.taskCost := by
  cases visit with
  | notDeliverable | notInstructed => exact Nat.zero_le _
  | orderRefused _ _ finished | orderCompleted _ _ finished =>
      rw [unfinished] at finished
      contradiction
  | taskRefused | taskMisplaced | taskAccepted => exact le_rfl

theorem goalOf_resetPlate (plate : Plate) : goalOf (resetPlate plate) = none := by
  simp [goalOf, resetPlate]

theorem deliver_trip_away (belt : Belt site.config c) (cleared : Cleared c)
    (targets : TargetsOnBelt site.config c)
    (away : goalOf (c.plates plateId) ≠ some (c.plates plateId).position)
    {kitchen : Option Bool} {robot : RobotAnswer}
    (taken : step site.config c (.deliver plateId kitchen robot) = some (after, outputs)) :
    tripWeight site after plateId + amount (Output.servingWeight site) outputs =
      tripWeight site c plateId := by
  obtain ⟨left, _, _, ran⟩ := deliver_inv taken
  have crossed : deliver (setWorker c (.deliveringFinishedOrders (left.erase plateId))) plateId
      kitchen robot =
      some (setWorker c (.deliveringFinishedOrders (left.erase plateId)), []) :=
    deliver_away away
  rw [crossed] at ran
  cases ran
  rw [amount_nil, Nat.add_zero]
  cases aimed : goalOf (c.plates plateId) with
  | none =>
      rw [tripWeight_aimless aimed]
      exact tripWeight_aimless aimed
  | some goal =>
      have placed := cleared.placed_of_goal belt aimed
      have quiet : offers c plateId (.deliver plateId kitchen robot) = false := by
        simpa [offers] using away
      have carried := deliver_carried belt placed aimed (targets.goalOf_lt aimed) quiet taken
      exact carried.tripWeight_eq aimed

theorem deliver_trip_there (belt : Belt site.config c) (cleared : Cleared c)
    (there : goalOf (c.plates plateId) = some (c.plates plateId).position)
    {kitchen : Option Bool} {robot : RobotAnswer} (takes : KitchenTakes c plateId kitchen)
    (taken : step site.config c (.deliver plateId kitchen robot) = some (after, outputs)) :
    tripWeight site after plateId + amount (Output.servingWeight site) outputs ≤
      tripWeight site c plateId := by
  have placed := cleared.placed_of_goal belt there
  have offer : offers c plateId (.deliver plateId kitchen robot) = true := by
    simp [offers, there]
  obtain ⟨left, _, _, ran⟩ := deliver_inv taken
  cases finished : (c.plates plateId).isDishFinished with
  | true =>
      have arrived := (deliver_finished finished there kitchen robot).1
      cases takes finished arrived
      rcases offer_to_kitchen placed finished offer taken with ⟨_, rfl, freed, _⟩ | ⟨refused, _⟩
      · have serving : servingWeight site (c.plates plateId) = 1 := if_pos finished
        rw [tripWeight_aimless (freed ▸ goalOf_resetPlate _), tripWeight_aimed there, serving,
          Nat.zero_add]
        exact Nat.le_add_left _ _
      · exact absurd rfl refused
  | false =>
      have unfinished : ((setWorker c (.deliveringFinishedOrders
        (left.erase plateId))).plates plateId).isDishFinished = false := finished
      have told := visits_deliver_serving site (deliver_cases ran) unfinished
      have serving : servingWeight site (c.plates plateId) = site.taskCost :=
        if_neg (by simp [finished])
      have aimless : goalOf (after.plates plateId) = none := by
        rcases offer_to_robot placed finished offer taken with ⟨_, _, freed, _⟩ | ⟨reset, _⟩
        · rw [freed]
          exact goalOf_resetPlate _
        · rw [reset]
          simp [goalOf, finished]
      rw [tripWeight_aimless aimless, tripWeight_aimed there, serving, Nat.zero_add]
      exact told.trans (Nat.le_add_left _ _)

theorem deliver_trips (belt : Belt site.config c) (cleared : Cleared c)
    (targets : TargetsOnBelt site.config c)
    {kitchen : Option Bool} {robot : RobotAnswer} (takes : KitchenTakes c plateId kitchen)
    (taken : step site.config c (.deliver plateId kitchen robot) = some (after, outputs)) :
    tripsWeight site after + amount (Output.servingWeight site) outputs ≤
      tripsWeight site c := by
  obtain ⟨left, loop, member, ran⟩ := deliver_inv taken
  have visit := deliver_cases ran
  have placed : plateId ∈ c.occupiedPlates := by
    apply belt.left
    rw [loop]
    exact member
  have visited : ∀ other, other ≠ plateId →
      (other ∈ leftToDeliver after.worker ↔ other ∈ leftToDeliver c.worker) := by
    intro other different
    rw [visit.frame.2.2.2.1, loop]
    simp [setWorker, leftToDeliver, different]
  have others : ∀ other, other ≠ plateId → after.plates other = c.plates other := by
    intro other different
    exact visits_deliver_others visit other different
  have one := tripsWeight_one (belt.exist plateId placed) others visited
  have trip : tripWeight site after plateId + amount (Output.servingWeight site) outputs ≤
      tripWeight site c plateId := by
    by_cases there : goalOf (c.plates plateId) = some (c.plates plateId).position
    · exact deliver_trip_there belt cleared there takes taken
    · exact (deliver_trip_away belt cleared targets there taken).le
  omega

end Deliveries

end CpsKitchen.ConveyorAgent
