import CpsKitchen.RobotAgent.Rest
import CpsKitchen.Rearrangement.Protocol

/-!
# Where the robots are bound for

A robot that was told to switch is bound for its new position, any other one
for the position where it stands. Two robots are bound for one position exactly
while the controller is between the two calls of a swap: the first robot is on
its way to a place that the second one was not told to leave.
-/

namespace CpsKitchen.Rearrangement

open CpsKitchen.Reactive CpsKitchen.Recipes
open CpsKitchen.RobotAgent (Robot InPhase OneDriver CommitsOnce postedTargets)
open CpsKitchen.ControllerAgent

set_option autoImplicit false

section Destination

/-- Where a robot stands when it has done what it was told. -/
def destination (r : Robot) : Position :=
  match postedTargets r with
  | newPosition :: _ => newPosition
  | [] =>
      if r.robotState = .rearranging ∧ r.attributes.newPositionCommitIsPending = false then
        r.newTargetPosition
      else r.position

def destinationFrom (position : Position) : RobotAgent.Phase → Position
  | .heading newPosition => newPosition
  | .settled | .arrived | .committing => position

theorem untargeted {r : Robot} (one : OneDriver r)
    (still : r.robotState ≠ .rearranging ∨ r.attributes.newPositionCommitIsPending = true) :
    postedTargets r = [] := by
  rw [postedTargets, List.filterMap_eq_nil_iff]
  intro handler member
  cases handler with
  | switchPosition newPosition =>
      obtain ⟨rearranging, uncommitted⟩ := one.switching _ member ⟨newPosition, rfl⟩
      rcases still with settled | pending
      · exact absurd rearranging settled
      · rw [uncommitted] at pending
        contradiction
  | _ => rfl

theorem destination_of_phase {r : Robot} (one : OneDriver r) {phase : RobotAgent.Phase}
    (inPhase : InPhase r phase) : destination r = destinationFrom r.position phase := by
  unfold destination
  cases phase with
  | settled =>
      rw [untargeted one (.inl inPhase)]
      exact if_neg (fun rearranges => inPhase rearranges.1)
  | heading newPosition =>
      obtain ⟨rearranging, uncommitted, only | ⟨none, target⟩⟩ := inPhase
      · rw [only]
        rfl
      · rw [none]
        exact (if_pos ⟨rearranging, uncommitted⟩).trans target
  | arrived | committing =>
      rw [untargeted one (.inr inPhase.2.1)]
      exact if_neg (by simp [inPhase.2.1])

def Stage.destination : Stage → Position
  | free position => position
  | asked _ toPosition | moved _ toPosition | noticed _ toPosition | acknowledged _ toPosition
  | held _ toPosition | rekeyed _ toPosition | committed _ toPosition => toPosition

theorem Stage.destination_eq (stage : Stage) :
    stage.destination = destinationFrom stage.position stage.phase := by
  cases stage <;> rfl

end Destination

variable {config : Config} {p after : Plant} {stage : String → Stage} {endpoint : String}

section Distinct

theorem Coherent.destination_eq (coherent : Coherent config p stage)
    (member : endpoint ∈ config.endpoints) :
    destination (p.robots endpoint) = (stage endpoint).destination := by
  obtain ⟨remote, found, _⟩ := coherent.agrees.keeps member
  have follows := coherent.follows endpoint member remote found
  rw [destination_of_phase (coherent.oneDriver endpoint member) follows.phase, follows.position,
    Stage.destination_eq]

/-- The worker has told one robot of a swap to switch, and not yet the other. -/
def isBetweenCalls : Worker → Bool
  | .switchingSecond _ _ _ => true
  | _ => false

/-- A robot is under the position it is bound for, or leaves for it, or it is
out of the map. -/
theorem Stage.destination_cases (stage : Stage) :
    stage.place = .registered stage.destination ∨
      (∃ fromPosition, stage.leaving = some (fromPosition, stage.destination)) ∨
      ∃ fromPosition, stage.outside = some (fromPosition, stage.destination) := by
  cases stage with
  | free | rekeyed | committed => exact .inl rfl
  | asked fromPosition | moved fromPosition | noticed fromPosition | acknowledged fromPosition =>
      exact .inr (.inl ⟨fromPosition, rfl⟩)
  | held fromPosition => exact .inr (.inr ⟨fromPosition, rfl⟩)

theorem Coherent.leaving_entry (coherent : Coherent config p stage)
    (whole : isBetweenCalls p.controller.worker = false) (member : endpoint ∈ config.endpoints)
    {switch : Position × Position} (leaves : (stage endpoint).leaving = some switch) :
    swapKey switch.1 switch.2 ∈ swapKeys p.controller ∧
      ¬ Completing p.controller.worker (swapKey switch.1 switch.2) := by
  rcases coherent.agrees.swapping endpoint member switch leaves with table | opening
  · refine ⟨table, ?_⟩
    intro completing
    have relies := coherent.agrees.worker
    cases worker : p.controller.worker with
    | committingFirst key second position =>
        rw [worker] at relies completing
        exact relies.2.1 endpoint member switch leaves completing.symm
    | committingSecond key position =>
        rw [worker] at relies completing
        exact relies.1 endpoint member switch leaves completing.symm
    | _ =>
        rw [worker] at completing
        exact completing
  · exfalso
    cases worker : p.controller.worker with
    | switchingSecond =>
        rw [worker] at whole
        contradiction
    | _ =>
        rw [worker] at opening
        exact opening

/-- A robot out of the map comes back to a position that nobody has. -/
theorem Coherent.held_entry (coherent : Coherent config p stage)
    (member : endpoint ∈ config.endpoints) {fromPosition toPosition : Position}
    (outside : (stage endpoint).outside = some (fromPosition, toPosition)) :
    swapKey fromPosition toPosition ∈ swapKeys p.controller ∧
      Left config stage (swapKey fromPosition toPosition) ∧
      ¬ isRegistered p.controller toPosition := by
  obtain ⟨remote, found, _⟩ := coherent.agrees.keeps member
  rw [Stage.place_eq_held.mpr ⟨_, outside⟩] at found
  have relies := coherent.agrees.worker
  cases worker : p.controller.worker with
  | committingFirst key second position =>
      rw [worker] at relies
      obtain ⟨table, left, _, _, first, _, same, free, held⟩ := relies
      cases held endpoint member _ outside
      have different := different_of_ordered (same ▸ coherent.agrees.ordered _ table)
      have key := same.symm.trans (swapKey_comm different)
      rw [robotAt, worker] at found
      have isSome : second.isSome = true := by
        have found : second = some remote := found
        rw [found]
        rfl
      exact ⟨key ▸ table, key ▸ left, free isSome⟩
  | initializingRobot =>
      rw [worker] at relies
      exact absurd relies id
  | _ =>
      rw [robotAt, worker] at found
      contradiction

theorem involves_second {first second : Position} : involves second (swapKey first second) :=
  involves_swapKey.mpr (.inr rfl)

theorem Coherent.not_under_target (coherent : Coherent config p stage)
    (whole : isBetweenCalls p.controller.worker = false) (member : endpoint ∈ config.endpoints)
    {fromPosition toPosition : Position}
    (leaves : (stage endpoint).leaving = some (fromPosition, toPosition)) {other : String}
    (otherMember : other ∈ config.endpoints) (bound : (stage other).destination = toPosition)
    (place : (stage other).place = .registered toPosition) : False := by
  obtain ⟨table, notCompleting⟩ := coherent.leaving_entry whole member leaves
  obtain ⟨switch, otherLeaves, key⟩ := coherent.agrees.occupied _ table notCompleting other
    otherMember toPosition place involves_second
  have here := place.symm.trans (Stage.place_of_leaving otherLeaves)
  have there : switch.2 = (stage other).destination := by
    cases otherStage : stage other with
    | asked | moved | noticed | acknowledged =>
        rw [otherStage] at otherLeaves
        cases otherLeaves
        rfl
    | free | held | rekeyed | committed =>
        rw [otherStage] at otherLeaves
        contradiction
  have ordered := coherent.agrees.ordered _ table
  rw [← key] at ordered
  apply different_of_ordered ordered
  rw [there, bound]
  exact (Place.registered.inj here).symm

/-- As long as no swap is half told, no two robots are bound for one position. -/
theorem Coherent.destinations_apart (coherent : Coherent config p stage)
    (whole : isBetweenCalls p.controller.worker = false) {first second : String}
    (firstMember : first ∈ config.endpoints) (secondMember : second ∈ config.endpoints)
    (same : destination (p.robots first) = destination (p.robots second)) : first = second := by
  have agrees := coherent.agrees
  rw [coherent.destination_eq firstMember, coherent.destination_eq secondMember] at same
  rcases (stage first).destination_cases with firstPlace | ⟨a, firstLeaves⟩ | ⟨a, firstOut⟩
  · rcases (stage second).destination_cases with secondPlace | ⟨b, secondLeaves⟩ | ⟨b, secondOut⟩
    · exact agrees.unique firstMember secondMember (by rw [firstPlace, secondPlace, same])
    · exact (coherent.not_under_target whole secondMember secondLeaves firstMember same
        (same ▸ firstPlace)).elim
    · have free := (coherent.held_entry secondMember secondOut).2.2
      exact absurd (agrees.isRegistered_iff.mpr ⟨first, firstMember, same ▸ firstPlace⟩) free
  · obtain ⟨table, _⟩ := coherent.leaving_entry whole firstMember firstLeaves
    rcases (stage second).destination_cases with secondPlace | ⟨b, secondLeaves⟩ | ⟨b, secondOut⟩
    · exact (coherent.not_under_target whole firstMember firstLeaves secondMember same.symm
        (same ▸ secondPlace)).elim
    · obtain ⟨otherTable, _⟩ := coherent.leaving_entry whole secondMember secondLeaves
      have key := agrees.eq_of_involves table otherTable involves_second
        (same ▸ involves_second)
      have home : a = b := by
        rw [← same] at key otherTable
        rw [swapKey_comm (different_of_ordered (agrees.ordered _ table)),
          swapKey_comm (different_of_ordered (agrees.ordered _ otherTable))] at key
        exact swapKey_cancel key
      apply agrees.unique firstMember secondMember
      rw [Stage.place_of_leaving firstLeaves, Stage.place_of_leaving secondLeaves, home]
    · obtain ⟨otherTable, left, _⟩ := coherent.held_entry secondMember secondOut
      have key := agrees.eq_of_involves table otherTable involves_second (same ▸ involves_second)
      exact absurd key (left first firstMember _ firstLeaves)
  · obtain ⟨table, left, free⟩ := coherent.held_entry firstMember firstOut
    rcases (stage second).destination_cases with secondPlace | ⟨b, secondLeaves⟩ | ⟨b, secondOut⟩
    · exact absurd (agrees.isRegistered_iff.mpr ⟨second, secondMember, same ▸ secondPlace⟩) free
    · obtain ⟨otherTable, _⟩ := coherent.leaving_entry whole secondMember secondLeaves
      have key := agrees.eq_of_involves otherTable table involves_second (same ▸ involves_second)
      exact absurd key (left second secondMember _ secondLeaves)
    · apply agrees.unique firstMember secondMember
      rw [Stage.place_eq_held.mpr ⟨_, firstOut⟩, Stage.place_eq_held.mpr ⟨_, secondOut⟩]

/-- Between the two calls of a swap the second robot stands where the first one
is sent. -/
theorem Coherent.destinations_meet (coherent : Coherent config p stage)
    (between : isBetweenCalls p.controller.worker = true) :
    ∃ first ∈ config.endpoints, ∃ second ∈ config.endpoints, first ≠ second ∧
      destination (p.robots first) = destination (p.robots second) := by
  cases worker : p.controller.worker with
  | switchingSecond request fromPosition toPosition =>
      have relies := coherent.agrees.worker
      rw [worker] at relies
      obtain ⟨registered, _, first, firstMember, waits⟩ := relies
      obtain ⟨second, secondMember, place⟩ := coherent.agrees.isRegistered_iff.mp registered
      have ready := (coherent.ready toPosition (by rw [worker]; exact List.mem_singleton_self _)
        second secondMember place).1
      refine ⟨first, firstMember, second, secondMember, ?_, ?_⟩
      · rintro rfl
        rw [ready] at waits
        contradiction
      · rw [coherent.destination_eq firstMember, coherent.destination_eq secondMember, ready]
        cases told : stage first with
        | asked | moved | noticed =>
            rw [told] at waits
            cases waits
            rfl
        | free | acknowledged | held | rekeyed | committed =>
            rw [told] at waits
            contradiction
  | _ =>
      rw [worker] at between
      contradiction

end Distinct

section Robots

variable {event : Event} {outputs : List Output}

theorem Coherent.commit_arrived (coherent : Coherent config p stage) {position : Position}
    (pending : pendingCall p.controller = some (position, .commitNewPosition)) :
    InPhase (p.robots (endpointAt p.controller position)) .arrived := by
  have relies := coherent.agrees.worker
  have returning : ∃ endpoint ∈ config.endpoints, ∃ fromPosition,
      (stage endpoint).returning = some (fromPosition, position) := by
    rcases pendingCall_commit pending with ⟨key, second, worker⟩ | ⟨key, worker⟩
    · rw [worker] at relies
      obtain ⟨_, _, endpoint, member, fromPosition, returns, _⟩ := relies
      exact ⟨endpoint, member, fromPosition, returns⟩
    · rw [worker] at relies
      obtain ⟨_, endpoint, member, fromPosition, returns, _⟩ := relies
      exact ⟨endpoint, member, fromPosition, returns⟩
  obtain ⟨endpoint, member, fromPosition, returns⟩ := returning
  obtain ⟨remote, found, _⟩ := coherent.agrees.keeps member
  have inPhase := (coherent.follows endpoint member remote found).phase
  rw [coherent.agrees.endpointAt_eq member (Stage.place_of_returning returns)]
  rw [Stage.rekeyed_of_returning returns] at inPhase
  exact inPhase

theorem Coherent.robot_cases (coherent : Coherent config p stage)
    (taken : step config p event = some (after, outputs)) (endpoint : String) :
    after.robots endpoint = p.robots endpoint ∨ ∃ own sent,
      RobotAgent.step (config.robotAt endpoint) (p.robots endpoint) own =
          some (after.robots endpoint, sent) ∧
        CommitsOnce (p.robots endpoint) own := by
  have updated : ∀ (other : String) (own : RobotAgent.Event) (robot : Robot)
      (sent : List RobotAgent.Output),
      RobotAgent.step (config.robotAt other) (p.robots other) own = some (robot, sent) →
      CommitsOnce (p.robots other) own →
      Function.update p.robots other robot endpoint = p.robots endpoint ∨ ∃ own sent,
        RobotAgent.step (config.robotAt endpoint) (p.robots endpoint) own =
            some (Function.update p.robots other robot endpoint, sent) ∧
          CommitsOnce (p.robots endpoint) own := by
    intro other own robot sent ran once
    by_cases same : endpoint = other
    · subst same
      rw [Function.update_self]
      exact .inr ⟨own, sent, ran, once⟩
    · exact .inl (Function.update_of_ne same robot p.robots)
  cases event with
  | robot other own =>
      simp only [step] at taken
      split at taken
      next permitted =>
        obtain ⟨acted, acts, same⟩ := Option.map_eq_some_iff.mp taken
        cases same
        unfold robotActs at acts
        split at acts
        · contradiction
        next robot sent ran =>
          cases acts
          apply updated other own robot sent ran
          rintro rfl
          exact absurd permitted.2 (by decide)
      · contradiction
  | controller own =>
      simp only [step, controllerActs] at taken
      split at taken
      · split at taken
        · contradiction
        · cases taken
          exact .inl rfl
      · contradiction
  | notifyPosition other place =>
      simp only [step, notify, controllerActs] at taken
      split at taken
      · split at taken
        · split at taken
          · contradiction
          · cases taken
            exact .inl rfl
        · contradiction
      · contradiction
  | call =>
      obtain ⟨position, call, robot, reply, later, pending, answered, _, rfl⟩ :=
        callRobot_cases taken
      cases method : call.method with
      | none =>
          have same : robot = p.robots (endpointAt p.controller position) := by
            cases call with
            | readAvailability => exact (answer_read answered).1
            | switchPosition | reconfigure | commitNewPosition => contradiction
          left
          rw [same]
          exact congrFun (Function.update_eq_self _ _) endpoint
      | some own =>
          apply updated _ own robot _ (answer_some method answered)
          rintro rfl
          cases call with
          | commitNewPosition => exact (coherent.commit_arrived pending).2.2
          | readAvailability | switchPosition | reconfigure => cases method

/-- In a run of the plant each robot runs by itself. -/
theorem reaches_robot {history : History Event Output}
    (reached : (machine config).Reaches (TargetsOnBelt config) history p)
    (member : endpoint ∈ config.endpoints) :
    ∃ own, (RobotAgent.machine (config.robotAt endpoint)).Reaches CommitsOnce own
      (p.robots endpoint) := by
  induction reached with
  | start started =>
      obtain ⟨own, unadapted⟩ := started.unadapted endpoint member
      refine ⟨own, unadapted.mono ?_⟩
      rintro r event notAdapting rfl
      contradiction
  | step earlier _ taken ih =>
      obtain ⟨own, before⟩ := ih
      obtain ⟨_, stage, coherent⟩ := reaches_coherent earlier
      rcases coherent.robot_cases taken endpoint with same | ⟨event, sent, ran, once⟩
      · rw [same]
        exact ⟨own, before⟩
      · exact ⟨_, before.step once ran⟩

end Robots

end CpsKitchen.Rearrangement
