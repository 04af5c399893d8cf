import CpsKitchen.ConveyorAgent.Turns
import CpsKitchen.ConveyorAgent.Belt

/-!
# The belt does not depend on hash order

The turns of two notifications concern two plates, and so do the turns of two
occupied plates. A robot that is known at two positions cannot tell both of
them the position it was asked at, so it answers neither.
-/

namespace CpsKitchen.ConveyorAgent

open CpsKitchen.Reactive CpsKitchen.Recipes
open CpsKitchen.RobotAgent (HandoverReply)
open CpsKitchen.RobotMap (RemoteRobot)

set_option autoImplicit false

variable {Robot Kitchen : Type*} {peers : Peers Robot Kitchen} {loop after : Loop Robot Kitchen}

/-- An entry is left alone, or its robot does not run any more. -/
def KeptEntry (before after : Option (Option RemoteRobot)) : Prop :=
  after = before ∨
    ∃ robot, before = some (some robot) ∧ after = some (some { robot with running := false })

theorem KeptEntry.stopped {before : Option (Option RemoteRobot)} {robot : RemoteRobot}
    (known : before = some (some robot)) :
    KeptEntry before (some (some { robot with running := false })) :=
  .inr ⟨robot, known, rfl⟩

theorem KeptEntry.endpoint {before written : Option (Option RemoteRobot)} {robot : RemoteRobot}
    (kept : KeptEntry before written) (known : written = some (some robot)) :
    ∃ earlier, before = some (some earlier) ∧ earlier.endpoint = robot.endpoint := by
  cases kept with
  | inl unchanged => exact ⟨robot, unchanged.symm.trans known, rfl⟩
  | inr stopped =>
      obtain ⟨earlier, was, failed⟩ := stopped
      rw [known] at failed
      cases failed
      exact ⟨earlier, was, rfl⟩

theorem entry_of_findRobot {c : Conveyor} {position : Position} {robot : RemoteRobot}
    (found : findRobot c position = some robot) :
    c.positionRemoteRobotMap position = some (some robot) :=
  Option.join_eq_some_iff.mp found

theorem perform_noNull (noNull : NoNull loop.conveyor) {change : Change Robot Kitchen}
    (kept : KeptEntry (loop.conveyor.positionRemoteRobotMap change.position) change.entry) :
    NoNull (change.perform loop).conveyor := by
  intro position null
  by_cases same : position = change.position
  · simp only [Change.perform, Change.writeConveyor, same, Function.update_self] at null
    cases kept with
    | inl unchanged =>
        rw [unchanged] at null
        exact absurd (noNull _ null) List.not_mem_nil
    | inr stopped =>
        obtain ⟨robot, _, written⟩ := stopped
        rw [written] at null
        injection null with null
        contradiction
  · simp only [Change.perform, Change.writeConveyor, Function.update_of_ne same] at null
    exact noNull position null

section Retrieval

variable {position other : Position} {left : Finset Position}

/-- What a turn of the retrieval loop can write. -/
structure Retrieves (peers : Peers Robot Kitchen) (loop : Loop Robot Kitchen)
    (position : Position) (change : Change Robot Kitchen) : Prop where
  atPlate : change.plateId = loop.conveyor.positionPlateIdMap position
  atPosition : change.position = position
  kitchen : change.kitchen = id
  entry : KeptEntry (loop.conveyor.positionRemoteRobotMap position) change.entry
  robot : change.robot = (handoverRobot loop.conveyor position).map fun robot =>
    (robot.endpoint, fun state => (peers.handoverFinishedOrder state).2)

theorem Retrieves.keepsEntry {change : Change Robot Kitchen}
    (retrieves : Retrieves peers loop position change) :
    KeptEntry (loop.conveyor.positionRemoteRobotMap change.position) change.entry := by
  rw [retrieves.atPosition]
  exact retrieves.entry

theorem retrieval_spec (peers : Peers Robot Kitchen) (loop : Loop Robot Kitchen)
    (position : Position) : Retrieves peers loop position (retrieval peers loop position) := by
  unfold retrieval
  by_cases full : (plateAt loop.conveyor position).occupied = true
  · have nobody : handoverRobot loop.conveyor position = none := by
      rw [handoverRobot, if_pos full]
    simp only [if_pos full]
    exact ⟨rfl, rfl, rfl, .inl rfl, by rw [nobody]; rfl⟩
  · have asked : handoverRobot loop.conveyor position = findRobot loop.conveyor position := by
      rw [handoverRobot, if_neg full]
    simp only [if_neg full]
    cases found : findRobot loop.conveyor position with
    | none => exact ⟨rfl, rfl, rfl, .inl rfl, by rw [asked, found]; rfl⟩
    | some robot =>
        simp only
        cases (peers.handoverFinishedOrder (loop.robots robot.endpoint)).1 with
        | none =>
            have failed := KeptEntry.stopped (entry_of_findRobot found)
            exact ⟨rfl, rfl, rfl, failed, by rw [asked, found]; rfl⟩
        | some answer =>
            obtain ⟨dish, reply⟩ := answer
            simp only [handed]
            split
            · exact ⟨rfl, rfl, rfl, .inl rfl, by rw [asked, found]; rfl⟩
            · exact ⟨rfl, rfl, rfl, .inl rfl, by rw [asked, found]; rfl⟩

theorem retrieval_congr
    (map : after.conveyor.positionPlateIdMap = loop.conveyor.positionPlateIdMap)
    (plate : plateAt after.conveyor position = plateAt loop.conveyor position)
    (entry : after.conveyor.positionRemoteRobotMap position =
      loop.conveyor.positionRemoteRobotMap position)
    (reply : ∀ robot, handoverRobot loop.conveyor position = some robot →
      (peers.handoverFinishedOrder (after.robots robot.endpoint)).1 =
        (peers.handoverFinishedOrder (loop.robots robot.endpoint)).1) :
    retrieval peers after position = retrieval peers loop position := by
  have written : after.conveyor.plates (loop.conveyor.positionPlateIdMap position) =
      loop.conveyor.plates (loop.conveyor.positionPlateIdMap position) := by
    rw [plateAt, map] at plate
    exact plate
  have found : findRobot after.conveyor position = findRobot loop.conveyor position := by
    rw [findRobot, RobotMap.find, entry, findRobot, RobotMap.find]
  unfold retrieval
  simp only [unchanged, plate, map, written, entry, found]
  by_cases full : (plateAt loop.conveyor position).occupied = true
  · rw [if_pos full, if_pos full]
  · rw [if_neg full, if_neg full]
    cases known : findRobot loop.conveyor position with
    | none => rfl
    | some robot =>
        have asked : handoverRobot loop.conveyor position = some robot := by
          rw [handoverRobot, if_neg full, known]
        simp only [reply robot asked]

/-- A robot that is asked at two positions can report one of them only. -/
theorem no_reply_at_two {state : Robot} (different : position ≠ other)
    (first : ∀ dish reply, (peers.handoverFinishedOrder state).1 = some (dish, reply) →
      reply.position = position)
    (second : ∀ dish reply, (peers.handoverFinishedOrder state).1 = some (dish, reply) →
      reply.position = other) : (peers.handoverFinishedOrder state).1 = none := by
  cases replied : (peers.handoverFinishedOrder state).1 with
  | none => rfl
  | some answer =>
      obtain ⟨dish, reply⟩ := answer
      have same := first dish reply replied
      rw [second dish reply replied] at same
      exact absurd same.symm different

/-- What holds of the loop while some notifications are left. -/
structure Retrieving (peers : Peers Robot Kitchen) (left : Finset Position)
    (loop : Loop Robot Kitchen) : Prop where
  noNull : NoNull loop.conveyor
  apart : ∀ first ∈ left, ∀ second ∈ left, first ≠ second →
    loop.conveyor.positionPlateIdMap first ≠ loop.conveyor.positionPlateIdMap second
  reports : Throughout (retrieveNext peers) (ReportsHandover peers) left loop

theorem Retrieving.turn (retrieving : Retrieving peers left loop) (listed : position ∈ left) :
    retrieveNext peers loop position = some ((retrieval peers loop position).perform loop) :=
  retrieveNext_eq retrieving.noNull (retrieving.reports.now listed)

theorem Retrieving.after_turn (retrieving : Retrieving peers left loop)
    (listed : position ∈ left) :
    Retrieving peers (left.erase position) ((retrieval peers loop position).perform loop) where
  noNull := perform_noNull retrieving.noNull (retrieval_spec peers loop position).keepsEntry
  apart := by
    intro first one second two different
    exact retrieving.apart first (Finset.mem_of_mem_erase one) second
      (Finset.mem_of_mem_erase two) different
  reports := retrieving.reports.later listed (retrieving.turn listed)

theorem Retrieving.seen_plate (retrieving : Retrieving peers left loop)
    (listed : position ∈ left) (also : other ∈ left) (different : position ≠ other) :
    plateAt ((retrieval peers loop position).perform loop).conveyor other =
      plateAt loop.conveyor other := by
  have spec := retrieval_spec peers loop position
  have apart := retrieving.apart other also position listed different.symm
  rw [← spec.atPlate] at apart
  exact Function.update_of_ne apart _ _

theorem seen_entry_of_retrieval (peers : Peers Robot Kitchen) (loop : Loop Robot Kitchen)
    (different : position ≠ other) :
    ((retrieval peers loop position).perform loop).conveyor.positionRemoteRobotMap other =
      loop.conveyor.positionRemoteRobotMap other := by
  have spec := retrieval_spec peers loop position
  have apart : other ≠ (retrieval peers loop position).position := by
    rw [spec.atPosition]
    exact different.symm
  exact Function.update_of_ne apart _ _

theorem Retrieving.seen_robot (retrieving : Retrieving peers left loop)
    (listed : position ∈ left) (also : other ∈ left) (different : position ≠ other) :
    handoverRobot ((retrieval peers loop position).perform loop).conveyor other =
      handoverRobot loop.conveyor other := by
  rw [handoverRobot, handoverRobot, retrieving.seen_plate listed also different, findRobot,
    RobotMap.find, seen_entry_of_retrieval peers loop different, findRobot, RobotMap.find]

theorem robots_after_retrieval {robot : RemoteRobot}
    (asked : handoverRobot loop.conveyor position = some robot) :
    ((retrieval peers loop position).perform loop).robots =
      Function.update loop.robots robot.endpoint
        (peers.handoverFinishedOrder (loop.robots robot.endpoint)).2 := by
  have spec := (retrieval_spec peers loop position).robot
  rw [asked, Option.map_some] at spec
  simp only [Change.perform, spec, Change.answerRobot]

theorem Retrieving.reports_later (retrieving : Retrieving peers left loop)
    (listed : position ∈ left) (also : other ∈ left) (different : position ≠ other)
    {robot : RemoteRobot} (asked : handoverRobot loop.conveyor other = some robot) :
    ∀ dish reply, (peers.handoverFinishedOrder
        (((retrieval peers loop position).perform loop).robots robot.endpoint)).1 =
          some (dish, reply) → reply.position = other := by
  have later := (retrieving.after_turn listed).reports.now
    (Finset.mem_erase.mpr ⟨different.symm, also⟩)
  apply later robot
  rw [retrieving.seen_robot listed also different, asked]

/-- A robot that is asked twice answers neither time. -/
theorem Retrieving.same_reply (retrieving : Retrieving peers left loop)
    (listed : position ∈ left) (also : other ∈ left) (different : position ≠ other)
    {robot : RemoteRobot} (asked : handoverRobot loop.conveyor other = some robot) :
    (peers.handoverFinishedOrder
        (((retrieval peers loop position).perform loop).robots robot.endpoint)).1 =
      (peers.handoverFinishedOrder (loop.robots robot.endpoint)).1 := by
  cases earlier : handoverRobot loop.conveyor position with
  | none =>
      have spec := (retrieval_spec peers loop position).robot
      rw [earlier, Option.map_none] at spec
      simp only [Change.perform, spec, Change.answerRobot]
  | some twin =>
      by_cases same : robot.endpoint = twin.endpoint
      · have now : (peers.handoverFinishedOrder (loop.robots robot.endpoint)).1 = none := by
          apply no_reply_at_two different _ (retrieving.reports.now also robot asked)
          rw [same]
          exact retrieving.reports.now listed twin earlier
        have here := retrieving.reports_later listed also different asked
        have there := retrieving.reports_later also listed different.symm earlier
        rw [robots_after_retrieval asked, ← same, Function.update_self] at there
        rw [robots_after_retrieval earlier, ← same, Function.update_self] at here ⊢
        rw [now, no_reply_at_two different there here]
      · rw [robots_after_retrieval earlier, Function.update_of_ne same]

theorem Retrieving.sees_same (retrieving : Retrieving peers left loop)
    (listed : position ∈ left) (also : other ∈ left) (different : position ≠ other) :
    retrieval peers ((retrieval peers loop position).perform loop) other =
      retrieval peers loop other :=
  retrieval_congr rfl (retrieving.seen_plate listed also different)
    (seen_entry_of_retrieval peers loop different)
    (fun _ asked => retrieving.same_reply listed also different asked)

theorem Retrieving.turns_apart (retrieving : Retrieving peers left loop)
    (listed : position ∈ left) (also : other ∈ left) (different : position ≠ other) :
    Change.Apart (retrieval peers loop position) (retrieval peers loop other) where
  plates := by
    rw [(retrieval_spec peers loop position).atPlate,
      (retrieval_spec peers loop other).atPlate]
    exact retrieving.apart position listed other also different
  positions := by
    rw [(retrieval_spec peers loop position).atPosition,
      (retrieval_spec peers loop other).atPosition]
    exact different
  robots := by
    intro robots
    apply Change.answerRobot_comm
    intro endpoint answer twin reply one two same
    rw [(retrieval_spec peers loop position).robot] at one
    rw [(retrieval_spec peers loop other).robot] at two
    obtain ⟨first, asked, answered⟩ := Option.map_eq_some_iff.mp one
    obtain ⟨second, askedAlso, answeredAlso⟩ := Option.map_eq_some_iff.mp two
    exact (congrArg Prod.snd answered).symm.trans (congrArg Prod.snd answeredAlso)
  kitchen := Or.inl (retrieval_spec peers loop position).kitchen

theorem retrievals_unordered : Unordered (retrieveNext peers) (Retrieving peers) where
  returns := by
    intro left loop position retrieving listed
    exact ⟨_, retrieving.turn listed, retrieving.after_turn listed⟩
  commutes := by
    intro left loop position other retrieving listed also different
    have later := (retrieving.after_turn listed).turn
      (Finset.mem_erase.mpr ⟨different.symm, also⟩)
    have earlier := (retrieving.after_turn also).turn
      (Finset.mem_erase.mpr ⟨different, listed⟩)
    rw [retrieving.turn listed, retrieving.turn also, Option.bind_some, Option.bind_some,
      later, earlier, retrieving.sees_same listed also different,
      retrieving.sees_same also listed different.symm,
      (retrieving.turns_apart listed also different).perform_comm]

end Retrieval

section Delivery

variable {plateId other : PlateId} {left : Finset PlateId}

/-- What a turn of the delivery loop can write. -/
structure Delivers (peers : Peers Robot Kitchen) (loop : Loop Robot Kitchen)
    (plateId : PlateId) (change : Change Robot Kitchen) : Prop where
  atPlate : change.plateId = plateId
  atPosition : change.position = (loop.conveyor.plates plateId).position
  stays : change.plate.position = (loop.conveyor.plates plateId).position
  entry : KeptEntry
    (loop.conveyor.positionRemoteRobotMap (loop.conveyor.plates plateId).position) change.entry
  kitchen : ¬ isCompleted (loop.conveyor.plates plateId) → change.kitchen = id
  robot : ∀ endpoint answer, change.robot = some (endpoint, answer) →
    (∃ robot, targetRobot loop.conveyor plateId = some robot ∧ robot.endpoint = endpoint) ∧
      peers.getPosition (loop.robots endpoint) = some (loop.conveyor.plates plateId).position ∧
      ∃ recipeId processedSteps position,
        answer = fun state => (peers.instruct recipeId processedSteps position state).2

theorem Delivers.keepsEntry {change : Change Robot Kitchen}
    (delivers : Delivers peers loop plateId change) :
    KeptEntry (loop.conveyor.positionRemoteRobotMap change.position) change.entry := by
  rw [delivers.atPosition]
  exact delivers.entry

theorem Delivers.congr {change other : Change Robot Kitchen}
    (delivers : Delivers peers loop plateId change) (atPlate : other.plateId = change.plateId)
    (atPosition : other.position = change.position)
    (stays : other.plate.position = change.plate.position) (entry : other.entry = change.entry)
    (kitchen : other.kitchen = change.kitchen) (robot : other.robot = change.robot) :
    Delivers peers loop plateId other where
  atPlate := atPlate.trans delivers.atPlate
  atPosition := atPosition.trans delivers.atPosition
  stays := stays.trans delivers.stays
  entry := by
    rw [entry]
    exact delivers.entry
  kitchen := by
    rw [kitchen]
    exact delivers.kitchen
  robot := by
    rw [robot]
    exact delivers.robot

theorem Delivers.refused {change : Change Robot Kitchen}
    (delivers : Delivers peers loop plateId change) :
    Delivers peers loop plateId (refused change) :=
  delivers.congr rfl rfl rfl rfl rfl rfl

theorem Delivers.freed {change : Change Robot Kitchen}
    (delivers : Delivers peers loop plateId change) : Delivers peers loop plateId (freed change) :=
  delivers.congr rfl rfl rfl rfl rfl rfl

theorem Delivers.stopped {change : Change Robot Kitchen}
    (delivers : Delivers peers loop plateId change) {robot : RemoteRobot}
    (found : findRobot loop.conveyor (loop.conveyor.plates plateId).position = some robot) :
    Delivers peers loop plateId (stopped change robot) where
  atPlate := delivers.atPlate
  atPosition := delivers.atPosition
  stays := delivers.stays
  entry := .stopped (entry_of_findRobot found)
  kitchen := delivers.kitchen
  robot := delivers.robot

theorem Delivers.instructed {change : Change Robot Kitchen}
    (delivers : Delivers peers loop plateId change) {robot : RemoteRobot}
    (found : findRobot loop.conveyor (loop.conveyor.plates plateId).position = some robot)
    (reply : Option (Position × Bool)) :
    Delivers peers loop plateId (instructed change robot reply) := by
  cases reply with
  | none => exact (delivers.stopped found).refused
  | some answer =>
      obtain ⟨reported, accepted⟩ := answer
      simp only [ConveyorAgent.instructed]
      split
      · exact delivers.refused
      · split
        · exact delivers.congr rfl rfl rfl rfl rfl rfl
        · exact delivers.freed

theorem turnAtRobot_spec {change : Change Robot Kitchen} {robot : RemoteRobot}
    (delivers : Delivers peers loop plateId change)
    (found : findRobot loop.conveyor (loop.conveyor.plates plateId).position = some robot)
    (target : targetRobot loop.conveyor plateId = some robot)
    (away : (loop.conveyor.plates plateId).position ≠ 0) :
    Delivers peers loop plateId (turnAtRobot peers loop change robot) := by
  have called : ∀ calls, Delivers peers loop plateId { change with calls := calls } := by
    intro calls
    exact delivers.congr rfl rfl rfl rfl rfl rfl
  unfold turnAtRobot
  simp only
  split
  · split
    · exact ((called _).stopped found).refused
    · exact (called _).refused
  next placed =>
    have read : peers.getPosition (loop.robots robot.endpoint) =
        some (loop.conveyor.plates plateId).position := by
      rw [delivers.stays, not_not] at placed
      cases reported : peers.getPosition (loop.robots robot.endpoint) with
      | none =>
          rw [reported, Option.getD_none] at placed
          exact absurd placed.symm away
      | some position => rw [← placed, reported, Option.getD_some]
    split
    · exact ((called _).stopped found).refused
    · exact (called _).refused
    · refine Delivers.instructed ?_ found _
      refine ⟨delivers.atPlate, delivers.atPosition, delivers.stays, delivers.entry,
        delivers.kitchen, ?_⟩
      intro endpoint answer same
      cases same
      exact ⟨⟨robot, target, rfl⟩, read, _, _, _, rfl⟩

theorem delivery_spec (peers : Peers Robot Kitchen) (loop : Loop Robot Kitchen)
    (plateId : PlateId) : Delivers peers loop plateId (delivery peers loop plateId) := by
  have nothing : Delivers peers loop plateId
      (unchanged loop.conveyor plateId (loop.conveyor.plates plateId).position) :=
    ⟨rfl, rfl, rfl, .inl rfl, fun _ => rfl, by intro _ _ asked; contradiction⟩
  unfold delivery
  by_cases completed : isCompleted (loop.conveyor.plates plateId)
  · simp only [if_pos completed]
    have served : ∀ kitchen calls, Delivers peers loop plateId
        { (unchanged loop.conveyor plateId (loop.conveyor.plates plateId).position :
            Change Robot Kitchen) with
          kitchen := kitchen
          calls := calls } := by
      intro kitchen calls
      refine ⟨rfl, rfl, rfl, .inl rfl, ?_, nothing.robot⟩
      intro incomplete
      exact absurd completed incomplete
    split
    · exact (served _ _).freed
    · exact served _ _
  · simp only [if_neg completed]
    by_cases deliverable : isDeliverable (loop.conveyor.plates plateId)
    · have target : targetRobot loop.conveyor plateId =
          findRobot loop.conveyor (loop.conveyor.plates plateId).position := by
        rw [targetRobot, if_pos deliverable]
      have away : (loop.conveyor.plates plateId).position ≠ 0 := by
        rw [deliverable.2.2]
        exact deliverable.2.1
      simp only [if_pos deliverable]
      cases found : findRobot loop.conveyor (loop.conveyor.plates plateId).position with
      | none => exact nothing.refused
      | some robot => exact turnAtRobot_spec nothing found (target.trans found) away
    · simp only [if_neg deliverable]
      exact nothing

theorem delivery_congr
    (plate : after.conveyor.plates plateId = loop.conveyor.plates plateId)
    (entry : after.conveyor.positionRemoteRobotMap (loop.conveyor.plates plateId).position =
      loop.conveyor.positionRemoteRobotMap (loop.conveyor.plates plateId).position)
    (kitchen : isCompleted (loop.conveyor.plates plateId) → after.kitchen = loop.kitchen)
    (robots : ∀ robot, targetRobot loop.conveyor plateId = some robot →
      after.robots robot.endpoint = loop.robots robot.endpoint) :
    delivery peers after plateId = delivery peers loop plateId := by
  have found : findRobot after.conveyor (loop.conveyor.plates plateId).position =
      findRobot loop.conveyor (loop.conveyor.plates plateId).position := by
    rw [findRobot, RobotMap.find, entry, findRobot, RobotMap.find]
  unfold delivery
  simp only [unchanged, plate, entry, found]
  by_cases completed : isCompleted (loop.conveyor.plates plateId)
  · simp only [if_pos completed, kitchen completed]
  · simp only [if_neg completed]
    by_cases deliverable : isDeliverable (loop.conveyor.plates plateId)
    · simp only [if_pos deliverable]
      cases known : findRobot loop.conveyor (loop.conveyor.plates plateId).position with
      | none => rfl
      | some robot =>
          have target : targetRobot loop.conveyor plateId = some robot := by
            rw [targetRobot, if_pos deliverable, known]
          simp only [turnAtRobot, robots robot target]
    · simp only [if_neg deliverable]

/-- What holds of the loop while some occupied plates are left. -/
structure Delivering (peers : Peers Robot Kitchen) (left : Finset PlateId)
    (loop : Loop Robot Kitchen) : Prop where
  noNull : NoNull loop.conveyor
  apart : ∀ first ∈ left, ∀ second ∈ left, first ≠ second →
    (loop.conveyor.plates first).position ≠ (loop.conveyor.plates second).position
  reports : Throughout (deliverNext peers) (ReportsPosition peers) left loop

theorem Delivering.turn (delivering : Delivering peers left loop) (plateId : PlateId) :
    deliverNext peers loop plateId = some ((delivery peers loop plateId).perform loop) :=
  deliverNext_eq delivering.noNull plateId

theorem seen_plate_of_delivery (peers : Peers Robot Kitchen) (loop : Loop Robot Kitchen)
    (different : plateId ≠ other) :
    ((delivery peers loop plateId).perform loop).conveyor.plates other =
      loop.conveyor.plates other := by
  have apart : other ≠ (delivery peers loop plateId).plateId := by
    rw [(delivery_spec peers loop plateId).atPlate]
    exact different.symm
  exact Function.update_of_ne apart _ _

theorem same_positions_of_delivery (peers : Peers Robot Kitchen) (loop : Loop Robot Kitchen)
    (plateId other : PlateId) :
    (((delivery peers loop plateId).perform loop).conveyor.plates other).position =
      (loop.conveyor.plates other).position := by
  by_cases same : plateId = other
  · subst same
    have spec := delivery_spec peers loop plateId
    simp only [Change.perform, Change.writeConveyor, spec.atPlate, Function.update_self, spec.stays]
  · rw [seen_plate_of_delivery peers loop same]

theorem Delivering.after_turn (delivering : Delivering peers left loop)
    (listed : plateId ∈ left) :
    Delivering peers (left.erase plateId) ((delivery peers loop plateId).perform loop) where
  noNull := perform_noNull delivering.noNull (delivery_spec peers loop plateId).keepsEntry
  apart := by
    intro first one second two different
    rw [same_positions_of_delivery, same_positions_of_delivery]
    exact delivering.apart first (Finset.mem_of_mem_erase one) second
      (Finset.mem_of_mem_erase two) different
  reports := delivering.reports.later listed (delivering.turn plateId)

theorem Delivering.seen_entry (delivering : Delivering peers left loop)
    (listed : plateId ∈ left) (also : other ∈ left) (different : plateId ≠ other) :
    ((delivery peers loop plateId).perform loop).conveyor.positionRemoteRobotMap
        (loop.conveyor.plates other).position =
      loop.conveyor.positionRemoteRobotMap (loop.conveyor.plates other).position := by
  have apart := delivering.apart other also plateId listed different.symm
  rw [← (delivery_spec peers loop plateId).atPosition] at apart
  exact Function.update_of_ne apart _ _

/-- Only one plate stands at the output. -/
theorem Delivering.one_completed (delivering : Delivering peers left loop)
    (listed : plateId ∈ left) (also : other ∈ left) (different : plateId ≠ other)
    (completed : isCompleted (loop.conveyor.plates other)) :
    ¬ isCompleted (loop.conveyor.plates plateId) := by
  intro both
  apply delivering.apart plateId listed other also different
  rw [both.2, completed.2]

/-- A robot that both plates are to go to gives no position to either. -/
theorem Delivering.apart_robots (delivering : Delivering peers left loop)
    (listed : plateId ∈ left) (also : other ∈ left) (different : plateId ≠ other)
    {robot : RemoteRobot} (target : targetRobot loop.conveyor other = some robot)
    {endpoint : String} {answer : Robot → Robot}
    (answers : (delivery peers loop plateId).robot = some (endpoint, answer)) :
    robot.endpoint ≠ endpoint := by
  intro same
  obtain ⟨⟨twin, twinTarget, sameTwin⟩, read, _⟩ :=
    (delivery_spec peers loop plateId).robot endpoint answer answers
  have shared : IsShared loop.conveyor other robot :=
    ⟨plateId, different, twin, twinTarget, sameTwin.trans same.symm⟩
  rw [← same] at read
  have reported := delivering.reports.now also robot target shared _ read
  exact delivering.apart plateId listed other also different reported

theorem Delivering.sees_same (delivering : Delivering peers left loop)
    (listed : plateId ∈ left) (also : other ∈ left) (different : plateId ≠ other) :
    delivery peers ((delivery peers loop plateId).perform loop) other =
      delivery peers loop other := by
  apply delivery_congr (seen_plate_of_delivery peers loop different)
    (delivering.seen_entry listed also different)
  · intro completed
    have idle := (delivery_spec peers loop plateId).kitchen
      (delivering.one_completed listed also different completed)
    simp only [Change.perform, idle, id]
  · intro robot target
    cases answers : (delivery peers loop plateId).robot with
    | none => simp only [Change.perform, answers, Change.answerRobot]
    | some answered =>
        obtain ⟨endpoint, answer⟩ := answered
        have apart := delivering.apart_robots listed also different target answers
        simp only [Change.perform, answers, Change.answerRobot, Function.update_of_ne apart]

theorem Delivering.turns_apart (delivering : Delivering peers left loop)
    (listed : plateId ∈ left) (also : other ∈ left) (different : plateId ≠ other) :
    Change.Apart (delivery peers loop plateId) (delivery peers loop other) where
  plates := by
    rw [(delivery_spec peers loop plateId).atPlate, (delivery_spec peers loop other).atPlate]
    exact different
  positions := by
    rw [(delivery_spec peers loop plateId).atPosition, (delivery_spec peers loop other).atPosition]
    exact delivering.apart plateId listed other also different
  robots := by
    intro robots
    apply Change.answerRobot_comm
    intro endpoint answer twin reply one two same
    obtain ⟨⟨robot, target, sameRobot⟩, read, _⟩ :=
      (delivery_spec peers loop other).robot twin reply two
    have apart := delivering.apart_robots listed also different target one
    exact absurd (sameRobot.trans same.symm) apart
  kitchen := by
    by_cases completed : isCompleted (loop.conveyor.plates other)
    · left
      exact (delivery_spec peers loop plateId).kitchen
        (delivering.one_completed listed also different completed)
    · right
      exact (delivery_spec peers loop other).kitchen completed

theorem deliveries_unordered : Unordered (deliverNext peers) (Delivering peers) where
  returns := by
    intro left loop plateId delivering listed
    exact ⟨_, delivering.turn plateId, delivering.after_turn listed⟩
  commutes := by
    intro left loop plateId other delivering listed also different
    have later := (delivering.after_turn listed).turn other
    have earlier := (delivering.after_turn also).turn plateId
    rw [delivering.turn plateId, delivering.turn other, Option.bind_some, Option.bind_some,
      later, earlier, delivering.sees_same listed also different,
      delivering.sees_same also listed different.symm,
      (delivering.turns_apart listed also different).perform_comm]

end Delivery

section Settled

variable {place : Robot → Position} {positions : Finset Position}

/-- Robots that stay in their place and report it. -/
structure Settled (peers : Peers Robot Kitchen) (place : Robot → Position) : Prop where
  handsOver : ∀ state dish reply, (peers.handoverFinishedOrder state).1 = some (dish, reply) →
    reply.position = place state
  afterHandover : ∀ state, place (peers.handoverFinishedOrder state).2 = place state
  reads : ∀ state reported, peers.getPosition state = some reported → reported = place state
  afterTask : ∀ recipeId processedSteps position state,
    place (peers.instruct recipeId processedSteps position state).2 = place state

def InPlace (place : Robot → Position) (positions : Finset Position)
    (loop : Loop Robot Kitchen) : Prop :=
  ∀ position ∈ positions, ∀ robot, findRobot loop.conveyor position = some robot →
    place (loop.robots robot.endpoint) = position

theorem place_after_answer {change : Change Robot Kitchen}
    (stays : ∀ endpoint answer, change.robot = some (endpoint, answer) →
      ∀ state, place (answer state) = place state) (robots : String → Robot) (endpoint : String) :
    place (Change.answerRobot robots change.robot endpoint) = place (robots endpoint) := by
  cases answered : change.robot with
  | none => rfl
  | some asked =>
      obtain ⟨other, answer⟩ := asked
      by_cases same : endpoint = other
      · rw [same, Change.answerRobot, Function.update_self, stays other answer answered]
      · rw [Change.answerRobot, Function.update_of_ne same]

theorem InPlace.perform (inPlace : InPlace place positions loop) {change : Change Robot Kitchen}
    (kept : KeptEntry (loop.conveyor.positionRemoteRobotMap change.position) change.entry)
    (stays : ∀ endpoint answer, change.robot = some (endpoint, answer) →
      ∀ state, place (answer state) = place state) :
    InPlace place positions (change.perform loop) := by
  intro position listed robot found
  have entry := entry_of_findRobot found
  rw [Change.perform, place_after_answer stays]
  by_cases same : position = change.position
  · subst same
    simp only [Change.perform, Change.writeConveyor, Function.update_self] at entry
    obtain ⟨earlier, was, sameEndpoint⟩ := kept.endpoint entry
    rw [← sameEndpoint]
    apply inPlace _ listed earlier
    rw [findRobot, RobotMap.find, was, Option.join_some]
  · simp only [Change.perform, Change.writeConveyor, Function.update_of_ne same] at entry
    apply inPlace position listed robot
    rw [findRobot, RobotMap.find, entry, Option.join_some]

theorem Settled.reportsHandover (settled : Settled peers place)
    (inPlace : InPlace place positions loop) {position : Position} (listed : position ∈ positions) :
    ReportsHandover peers loop position := by
  intro robot asked dish reply replied
  have found : findRobot loop.conveyor position = some robot := by
    unfold handoverRobot at asked
    split at asked
    · contradiction
    · exact asked
  rw [settled.handsOver _ dish reply replied, inPlace position listed robot found]

theorem Settled.reportsPosition (settled : Settled peers place)
    (inPlace : InPlace place positions loop) {plateId : PlateId}
    (listed : (loop.conveyor.plates plateId).position ∈ positions) :
    ReportsPosition peers loop plateId := by
  intro robot target shared reported read
  have found : findRobot loop.conveyor (loop.conveyor.plates plateId).position = some robot := by
    unfold targetRobot at target
    split at target
    · exact target
    · contradiction
  rw [settled.reads _ reported read, inPlace _ listed robot found]

/-- Robots that stay where the conveyor knows them report, all along the
retrieval loop, the position they were asked at. -/
theorem Settled.handovers (settled : Settled peers place) (noNull : NoNull loop.conveyor)
    (inPlace : InPlace place positions loop) :
    Throughout (retrieveNext peers) (ReportsHandover peers) positions loop := by
  refine throughout_of_invariant (fun loop => NoNull loop.conveyor ∧
    InPlace place positions loop) ?_ ?_ ⟨noNull, inPlace⟩
  · intro loop position after listed kept turn
    obtain ⟨noNull, inPlace⟩ := kept
    have spec := retrieval_spec peers loop position
    rw [retrieveNext_eq noNull (settled.reportsHandover inPlace listed)] at turn
    cases turn
    refine ⟨perform_noNull noNull spec.keepsEntry, inPlace.perform spec.keepsEntry ?_⟩
    intro endpoint answer answered state
    rw [spec.robot] at answered
    obtain ⟨robot, asked, same⟩ := Option.map_eq_some_iff.mp answered
    cases same
    exact settled.afterHandover state
  · intro loop position listed kept
    exact settled.reportsHandover kept.2 listed

theorem Settled.deliveries (settled : Settled peers place) (noNull : NoNull loop.conveyor)
    (inPlace : InPlace place positions loop) {left : Finset PlateId}
    (stand : ∀ plateId ∈ left, (loop.conveyor.plates plateId).position ∈ positions) :
    Throughout (deliverNext peers) (ReportsPosition peers) left loop := by
  refine throughout_of_invariant (fun loop => NoNull loop.conveyor ∧
    InPlace place positions loop ∧
      ∀ plateId ∈ left, (loop.conveyor.plates plateId).position ∈ positions) ?_ ?_
    ⟨noNull, inPlace, stand⟩
  · intro loop plateId after listed kept turn
    obtain ⟨noNull, inPlace, stand⟩ := kept
    have spec := delivery_spec peers loop plateId
    rw [deliverNext_eq noNull] at turn
    cases turn
    refine ⟨perform_noNull noNull spec.keepsEntry, inPlace.perform spec.keepsEntry ?_, ?_⟩
    · intro endpoint answer answered state
      obtain ⟨_, _, recipeId, processedSteps, position, rfl⟩ := spec.robot endpoint answer answered
      exact settled.afterTask recipeId processedSteps position state
    · intro other also
      rw [same_positions_of_delivery]
      exact stand other also
  · intro loop plateId listed kept
    exact settled.reportsPosition kept.2.1 (kept.2.2 plateId listed)

end Settled

section Loops

variable {config : Config}

theorem enterLoop_noNull (noNull : NoNull loop.conveyor) : NoNull (enterLoop loop).conveyor :=
  RobotMap.Edits.noNull (removeStoppedRobots_edits loop.conveyor) noNull

/-- What the loops of one conveyor leave, and the calls they make, do not
depend on the order of its notifications and of its occupied plates. -/
theorem belt_ignores_hash_order {allowed : Conveyor → Event → Prop}
    {history : History Event Output} (peers : Peers Robot Kitchen) (loop : Loop Robot Kitchen)
    (reached : (machine config).Reaches allowed history loop.conveyor) :
    ((∀ position ∈ loop.conveyor.notifications, position < config.plateCount) →
      Throughout (retrieveNext peers) (ReportsHandover peers) loop.conveyor.notifications
        (enterLoop loop) →
      ∀ first second, Enumerates first loop.conveyor.notifications →
        Enumerates second loop.conveyor.notifications →
        ∃ last, retrieveFinishedOrders peers first loop = some last ∧
          retrieveFinishedOrders peers second loop = some last) ∧
    (Throughout (deliverNext peers) (ReportsPosition peers) loop.conveyor.occupiedPlates
        (enterLoop loop) →
      ∀ first second, Enumerates first loop.conveyor.occupiedPlates →
        Enumerates second loop.conveyor.occupiedPlates →
        ∃ last, deliverFinishedOrders peers first loop = some last ∧
          deliverFinishedOrders peers second loop = some last) := by
  have belt := reaches_belt reached
  have noNull := enterLoop_noNull (reaches_noNull reached)
  constructor
  · intro inside reports first second one two
    have retrieving : Retrieving peers loop.conveyor.notifications (enterLoop loop) := by
      refine ⟨noNull, ?_, reports⟩
      intro position listed other also different same
      apply different
      rw [← belt.plateAt_position (inside position listed),
        ← belt.plateAt_position (inside other also), plateAt, plateAt]
      exact congrArg (fun plateId => (loop.conveyor.plates plateId).position) same
    exact retrievals_unordered.same_outcome retrieving one two
  · intro reports first second one two
    have delivering : Delivering peers loop.conveyor.occupiedPlates (enterLoop loop) := by
      refine ⟨noNull, ?_, reports⟩
      intro plateId listed other also different same
      apply different
      rw [← belt.plateId_at (belt.exist plateId listed), ← belt.plateId_at (belt.exist other also)]
      exact congrArg loop.conveyor.positionPlateIdMap same
    exact deliveries_unordered.same_outcome delivering one two

/-- Robots that never move, accept every task and always have a dish ready. -/
def standingPeers : Peers Position Nat where
  getPosition position := some position
  isAvailable _ := some true
  handoverFinishedOrder position :=
    (some (position, ⟨"opc.tcp://robot", position, 3, 4, false⟩), position)
  instruct _ _ _ position := (some (position, true), position)
  receiveCompletedOrder _ completed := (some true, completed + 1)

theorem standingPeers_settled : Settled standingPeers id where
  handsOver := by
    intro state dish reply replied
    cases replied
    rfl
  afterHandover _ := rfl
  reads := by
    intro state reported read
    cases read
    rfl
  afterTask _ _ _ _ := rfl

/-- Two dishes have reached their robots while two more are notified, one of
them by a robot whose plate is still occupied. -/
theorem two_dishes_two_notifications :
    ∃ (history : History Event Output) (loop : Loop Position Nat),
      (machine fivePlates).Reaches (fun _ _ => True) history loop.conveyor ∧
      loop.conveyor.notifications = {1, 4} ∧ loop.conveyor.occupiedPlates = {2, 3} ∧
      (∃ last, retrieveFinishedOrders standingPeers [1, 4] loop = some last ∧
        retrieveFinishedOrders standingPeers [4, 1] loop = some last) ∧
      ∃ last, deliverFinishedOrders standingPeers [2, 3] loop = some last ∧
        deliverFinishedOrders standingPeers [3, 2] loop = some last := by
  obtain ⟨history, c, reached, shown⟩ := Machine.exists_reaches_of_replay
    (machine fivePlates) (fun _ _ => True) rfl
    [.receiveFinishedOrderNotification "opc.tcp://robot:2" 2, .runHandler ⟨true, none, none⟩,
     .receiveFinishedOrderNotification "opc.tcp://robot:3" 3, .runHandler ⟨true, none, none⟩,
     .timerExpires, .runHandler ⟨true, none, none⟩,
     .retrieve 2 (some (7, ⟨"opc.tcp://robot:2", 2, 3, 4, false⟩)),
     .retrieve 3 (some (8, ⟨"opc.tcp://robot:3", 3, 5, 2, false⟩)),
     .retrieved, .requestNextRobot 2 (some true), .requestNextRobot 3 (some true), .requested,
     .receiveNextRobot ⟨3, "opc.tcp://robot:3", 3, ⟨2, 3, 4⟩⟩, .runHandler ⟨true, none, none⟩,
     .receiveNextRobot ⟨4, "opc.tcp://robot:4", 5, ⟨3, 5, 2⟩⟩, .runHandler ⟨true, none, none⟩,
     .receiveFinishedOrderNotification "opc.tcp://robot:1" 1, .runHandler ⟨true, none, none⟩,
     .receiveFinishedOrderNotification "opc.tcp://robot:4" 4, .runHandler ⟨true, none, none⟩,
     .timerExpires, .runHandler ⟨true, none, none⟩]
    (fun _ c => decide (c.notifications = {1, 4} ∧ c.occupiedPlates = {2, 3} ∧
      (c.plates 2).position = 3 ∧ (c.plates 3).position = 4 ∧
      c.positionRemoteRobotMap 1 = some (some ⟨"opc.tcp://robot:1", true⟩) ∧
      c.positionRemoteRobotMap 3 = some (some ⟨"opc.tcp://robot:3", true⟩) ∧
      c.positionRemoteRobotMap 4 = some (some ⟨"opc.tcp://robot:4", true⟩))) (by decide)
  obtain ⟨notified, occupied, second, third, first, middle, last⟩ := of_decide_eq_true shown
  let robots : String → Position := fun endpoint =>
    if endpoint = "opc.tcp://robot:1" then 1 else if endpoint = "opc.tcp://robot:3" then 3 else 4
  let loop : Loop Position Nat := ⟨c, robots, 0, 0⟩
  have inPlace : InPlace id {1, 3, 4} (enterLoop loop) := by
    intro position listed robot found
    simp only [findRobot, enterLoop, removeStoppedRobots, withRobots, RobotMap.removeStoppedRobots,
      RobotMap.find, loop] at found
    simp only [Finset.mem_insert, Finset.mem_singleton] at listed
    rcases listed with rfl | rfl | rfl
    · rw [first] at found
      cases found
      rfl
    · rw [middle] at found
      cases found
      rfl
    · rw [last] at found
      cases found
      rfl
  have noNull : NoNull (enterLoop loop).conveyor := enterLoop_noNull (reaches_noNull reached)
  obtain ⟨retrieves, delivers⟩ := belt_ignores_hash_order standingPeers loop reached
  refine ⟨history, loop, reached, notified, occupied, ?_, ?_⟩
  · apply retrieves
    · simp only [loop, notified]
      decide
    · simp only [loop, notified]
      apply standingPeers_settled.handovers noNull
      intro position listed
      exact inPlace position (Finset.mem_of_subset (by decide) listed)
    · simp only [loop, notified]
      exact ⟨by decide, by decide⟩
    · simp only [loop, notified]
      exact ⟨by decide, by decide⟩
  · apply delivers
    · simp only [loop, occupied]
      apply standingPeers_settled.deliveries noNull inPlace
      intro plateId listed
      simp only [Finset.mem_insert, Finset.mem_singleton] at listed
      rcases listed with rfl | rfl
      · simp only [enterLoop, removeStoppedRobots, withRobots, loop, second]
        decide
      · simp only [enterLoop, removeStoppedRobots, withRobots, loop, third]
        decide
    · simp only [loop, occupied]
      exact ⟨by decide, by decide⟩
    · simp only [loop, occupied]
      exact ⟨by decide, by decide⟩

end Loops

end CpsKitchen.ConveyorAgent
