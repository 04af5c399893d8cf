import CpsKitchen.Rearrangement.Recovery

/-!
# All robots are back

Once nothing more happens after the controller was replaced, all robots are in
the map of the new one. The exception is a controller that was replaced between
the two calls of a swap: the robot it had told to switch goes where the other
one stays.
-/

namespace CpsKitchen.Rearrangement.Recovery

open CpsKitchen.Reactive CpsKitchen.Recipes
open CpsKitchen.RobotAgent (InPhase AtRest Exhausted LeftAlone)
open CpsKitchen.ControllerAgent (Controller RemoteRobot Output Handler robotAt findRobot)
open Joining (Kitchen joining)

set_option autoImplicit false

variable {config : Config} {goal : String → Position} {k : Kitchen} {c : Controller}

section Standstill

/-- What goes on by itself once nobody asks for anything: the robots work off
what they have, their client loops register them, the worker comes to an end. -/
def Proceeds (k : Kitchen) : Joining.Event → Prop
  | .plant (.robot endpoint event) => LeftAlone (k.plant.robots endpoint) event
  | .plant (.controller .runHandler) | .plant (.controller (.receiverInitialized _))
  | .plant (.controller (.nextRobotChosen _)) | .plant (.controller (.nextRobotReceived _)) => True
  | .plant (.controller _) => False
  | .registerRobot endpoint => .handleNewPositionCommit ∉ (k.plant.robots endpoint).posted
  | _ => True

def Stands (config : Config) (k : Kitchen) : Prop :=
  ∀ event, Proceeds k event → step config k event = none

variable {endpoint : String}

theorem handle_returns {handler : Handler} (due : Due config k handler) :
    ControllerAgent.handle config.controller c handler ≠ none := by
  cases handler with
  | handleNextRobotRequest request =>
      simp only [ControllerAgent.handle, ControllerAgent.handleNextRobotRequest]
      split
      · simp
      · rw [findSuitableRobot_eq due]
        simp
  | handleRobotRegistration | positionSwapped | capabilitiesReconfigured =>
      simp [ControllerAgent.handle]

theorem Recovers.stands_posted (recovers : Recovers config goal k) (stands : Stands config k)
    (idle : k.plant.controller.worker = .betweenHandlers) : k.plant.controller.posted = [] := by
  cases next : k.plant.controller.posted with
  | nil => rfl
  | cons handler posted =>
      have nothing := stands (.plant (.controller .runHandler)) trivial
      have due := recovers.posted handler (by rw [next]; exact List.mem_cons_self)
      simp only [step, Joining.step, Rearrangement.step, isInternal, if_true, controllerActs,
        ControllerAgent.step, recovers.running, idle, next, Option.map_eq_none_iff] at nothing
      split at nothing
      next stuck => exact absurd (Option.map_eq_none_iff.mp stuck) (handle_returns due)
      · contradiction

theorem Recovers.stands_worker (recovers : Recovers config goal k) (stands : Stands config k) :
    k.plant.controller.worker = .betweenHandlers := by
  have relies := recovers.worker
  cases worker : k.plant.controller.worker with
  | betweenHandlers => rfl
  | initializingReceiver request =>
      rw [worker] at relies
      have nothing := stands (.plant (.controller (.receiverInitialized false))) trivial
      simp [step, Joining.step, Rearrangement.step, isInternal, controllerActs,
        ControllerAgent.step, ControllerAgent.receiverInitialized, worker,
        findSuitableRobot_eq relies] at nothing
  | choosing request =>
      have nothing := stands (.plant (.controller (.nextRobotChosen none))) trivial
      simp [step, Joining.step, Rearrangement.step, isInternal, controllerActs,
        ControllerAgent.step, worker] at nothing
  | answering request position endpoint =>
      have nothing := stands (.plant (.controller (.nextRobotReceived none))) trivial
      simp [step, Joining.step, Rearrangement.step, isInternal, controllerActs,
        ControllerAgent.step, ControllerAgent.nextRobotReceived, worker] at nothing
  | initializingRobot robot position =>
      have nothing := stands .robotInitialized trivial
      simp [step, Joining.step, controllerActs, ControllerAgent.step,
        ControllerAgent.robotInitialized, worker] at nothing
  | readingPendingCommit position =>
      rw [worker] at relies
      obtain ⟨remote, found⟩ := Option.isSome_iff_exists.mp relies
      have known := recovers.known (.registered position) remote found
      have running := (recovers.goes remote.endpoint (recovers.served known.served)).running
      have nothing := stands .resolveMissedCommit trivial
      simp only [step, Joining.step, Joining.resolveMissedCommit, worker,
        endpointAt_of_found found, running, if_true, controllerActs, ControllerAgent.step,
        ControllerAgent.pendingCommitRead, Option.map_eq_none_iff] at nothing
      split at nothing
      next stuck => split at stuck <;> contradiction
      · contradiction
  | resolvingMissedCommit position =>
      rw [worker] at relies
      obtain ⟨registered, arrived⟩ := relies
      obtain ⟨remote, found⟩ := Option.isSome_iff_exists.mp registered
      rw [endpointAt_of_found found] at arrived
      have known := recovers.known (.registered position) remote found
      have goes := recovers.goes remote.endpoint (recovers.served known.served)
      obtain ⟨after, outputs, returns⟩ := goes.commit_returns arrived
      obtain ⟨accepted, _⟩ := goes.commits arrived returns
      subst accepted
      have nothing := stands .resolveMissedCommit trivial
      simp [step, Joining.step, Joining.resolveMissedCommit, worker, endpointAt_of_found found,
        answer, Call.method, returns, controllerActs, ControllerAgent.step,
        ControllerAgent.newPositionCommitted] at nothing
  | checkingFirst | checkingSecond | switchingFirst | switchingSecond | checkingReconfiguration
  | reconfiguring | committingFirst | committingSecond =>
      rw [worker] at relies
      exact relies.elim

theorem Recovers.stands_robot (recovers : Recovers config goal k) (stands : Stands config k)
    (member : endpoint ∈ config.endpoints)
    (waits : ¬ InPhase (k.plant.robots endpoint) .arrived) : AtRest (k.plant.robots endpoint) := by
  have goes := recovers.goes endpoint member
  have exhausted : Exhausted (config.robotAt endpoint) (k.plant.robots endpoint) := by
    intro event alone
    have own : event.isAdaptation = false := by
      cases event with
      | commitNewPosition => exact absurd alone waits
      | switchPosition | reconfigure => exact alone.elim
      | _ => rfl
    have nothing := stands (.plant (.robot endpoint event)) alone
    simp only [step, Joining.step, Rearrangement.step, member, own, and_self, if_true, robotActs,
      Option.map_eq_none_iff] at nothing
    split at nothing
    · assumption
    · contradiction
  exact exhausted.atRest goes.steady

theorem Recovers.stands_announced (recovers : Recovers config goal k) (stands : Stands config k)
    (member : endpoint ∈ config.endpoints) : endpoint ∈ k.announced := by
  by_contra new
  have goes := recovers.goes endpoint member
  have gate : mayRegister (k.plant.robots endpoint) ∧
      .handleNewPositionCommit ∉ (k.plant.robots endpoint).posted := by
    by_cases arrived : InPhase (k.plant.robots endpoint) .arrived
    · exact ⟨.inr arrived.2.1, arrived.2.2⟩
    · have resting := recovers.stands_robot stands member arrived
      exact ⟨.inl resting.robotState, by simp [resting.posted]⟩
  have nothing := stands (.registerRobot endpoint) gate.2
  simp [step, Joining.step, goes.running, gate.1, member, new, controllerActs,
    ControllerAgent.step, recovers.running] at nothing

theorem Recovers.stands_served (recovers : Recovers config goal k) (stands : Stands config k)
    (member : endpoint ∈ config.endpoints) :
    ∃ remote, findRobot k.plant.controller (goal endpoint) = some remote ∧
      (k.plant.robots endpoint).position = goal endpoint := by
  have announced := recovers.stands_announced stands member
  have idle := recovers.stands_worker stands
  have here := (recovers.goes endpoint member).arrives (recovers.returned endpoint announced)
  rcases recovers.coming endpoint announced with registered | joins
  · rw [here] at registered
    obtain ⟨remote, found⟩ := Option.isSome_iff_exists.mp registered
    exact ⟨remote, found, here⟩
  · rw [joining, idle, recovers.stands_posted stands idle] at joins
    contradiction

theorem Recovers.stands_known (recovers : Recovers config goal k) (stands : Stands config k)
    {position : Position} {remote : RemoteRobot}
    (found : findRobot k.plant.controller position = some remote) :
    AtRest (k.plant.robots remote.endpoint) ∧ goal remote.endpoint = position := by
  have known := recovers.known (.registered position) remote found
  have keyed := recovers.keyed position remote found
  have at_ := known.stands.trans keyed
  have member := recovers.served known.served
  have returned := recovers.returned remote.endpoint known.served
  refine ⟨recovers.stands_robot stands member ?_, ?_⟩
  · intro arrived
    have back : IsBack k remote.endpoint := by
      rw [IsBack, at_, servedAt, robotAt, found]
      rfl
    have attends := recovers.missed remote.endpoint known.served arrived back
    rw [recovers.stands_worker stands] at attends
    contradiction
  · rw [← (recovers.goes remote.endpoint member).arrives returned]
    exact at_

end Standstill

section Recovery

/-- The robot rests in the map, under the position it was bound for. -/
structure HasReturned (p : Plant) (k : Kitchen) (endpoint : String) : Prop where
  served : servedAt k.plant.controller (.registered (destination (p.robots endpoint))) =
    some endpoint
  position : (k.plant.robots endpoint).position = destination (p.robots endpoint)
  resting : AtRest (k.plant.robots endpoint)

/-- All robots return exactly if no two of them were bound for one position. -/
theorem stands_returned {history : History Event Output} {p : Plant}
    (reached : (Rearrangement.machine config).Reaches (TargetsOnBelt config) history p)
    (recovers : Recovers config (fun endpoint => destination (p.robots endpoint)) k)
    (stands : Stands config k) :
    (∀ endpoint ∈ config.endpoints, HasReturned p k endpoint) ↔
      isBetweenCalls p.controller.worker = false := by
  obtain ⟨_, stage, coherent⟩ := reaches_coherent reached
  constructor
  · intro returned
    by_contra between
    obtain ⟨first, member, second, alsoMember, different, same⟩ :=
      coherent.destinations_meet (Bool.of_not_eq_false between)
    have served := (returned first member).served
    rw [same, (returned second alsoMember).served] at served
    exact different (Option.some.inj served).symm
  · intro whole endpoint member
    obtain ⟨remote, found, here⟩ := recovers.stands_served stands member
    obtain ⟨resting, bound⟩ := recovers.stands_known stands found
    have served := (recovers.known (.registered _) remote found).served
    have same := coherent.destinations_apart whole (recovers.served served) member bound
    subst same
    refine ⟨?_, here, resting⟩
    rw [servedAt, robotAt, found]
    rfl

/-- The controller is replaced while robots are on their way. As long as nobody
asks for a new adaptation, a robot is let into the map of the new controller
only where it was bound for, and none refuses the commit that the old one owed
it. Where everything has come to a standstill, there is a robot at rest under
every position that one was bound for. All of them are back if and only if the
old controller was not between the two calls of a swap. -/
theorem robots_come_back (config : Config) (history : History Event Output) (p : Plant)
    (reached : (Rearrangement.machine config).Reaches (TargetsOnBelt config) history p)
    (undamaged : Undamaged config p) (later : History Joining.Event Output) (k : Kitchen)
    (followed : (machine config p).Reaches (Unadapting config) later k) :
    (∀ output ∈ outputsOf later, ¬ Refused output) ∧
    (∀ position remote, findRobot k.plant.controller position = some remote →
      remote.endpoint ∈ config.endpoints ∧ remote.position = position ∧
        (k.plant.robots remote.endpoint).position = position ∧
        destination (p.robots remote.endpoint) = position) ∧
    (Stands config k →
      (∀ endpoint ∈ config.endpoints, ∃ remote,
        findRobot k.plant.controller (destination (p.robots endpoint)) = some remote ∧
          AtRest (k.plant.robots remote.endpoint)) ∧
      ((∀ endpoint ∈ config.endpoints, HasReturned p k endpoint) ↔
        isBetweenCalls p.controller.worker = false)) := by
  obtain ⟨accepted, recovers⟩ := reaches_recovers (restarted_recovers reached undamaged) followed
  refine ⟨accepted, ?_, ?_⟩
  · intro position remote found
    have known := recovers.known (.registered position) remote found
    have keyed := recovers.keyed position remote found
    have at_ := known.stands.trans keyed
    have member := recovers.served known.served
    have arrives := (recovers.goes remote.endpoint member).arrives
      (recovers.returned remote.endpoint known.served)
    exact ⟨member, keyed, at_, arrives.symm.trans at_⟩
  · intro stands
    refine ⟨?_, stands_returned reached recovers stands⟩
    intro endpoint member
    obtain ⟨remote, found, _⟩ := recovers.stands_served stands member
    exact ⟨remote, found, (recovers.stands_known stands found).1⟩

/-- The mixing robot has arrived and waits for its commit, the boiling robot is
on its way, and the controller is replaced. It puts both back into the map. -/
theorem swap_is_interrupted :
    ∃ history p, (Rearrangement.machine twoRobots).Reaches (TargetsOnBelt twoRobots) history p ∧
      Undamaged twoRobots p ∧ isBetweenCalls p.controller.worker = false ∧
      (∀ endpoint ∈ twoRobots.endpoints, (p.robots endpoint).robotState = .rearranging ∧
        (p.robots endpoint).position = 2 ∧
        (RobotAgent.work (p.robots endpoint)).timeToRest (twoRobots.robotAt endpoint) < 2 ^ 32) ∧
      ∃ later k, (machine twoRobots p).Reaches (Unadapting twoRobots) later k ∧
        servedAt k.plant.controller (.registered 2) = some "mixing" ∧
        servedAt k.plant.controller (.registered 3) = some "boiling" := by
  obtain ⟨history, p, reached, shown⟩ := Machine.exists_reaches_of_replay
    (Rearrangement.machine twoRobots) (TargetsOnBelt twoRobots) registeredRobots_registered
    [.controller (.chooseNextRobot ⟨3, 0, "conveyor", "conveyor"⟩), .controller .runHandler,
     .controller (.receiverInitialized true), .controller (.swapRobotPositions 3 2),
     .call, .call, .call, .call, .controller (.nextRobotChosen none),
     .controller (.nextRobotReceived (some true)),
     .robot "mixing" (.runHandler "whip"), .robot "mixing" .timerExpires,
     .robot "boiling" (.runHandler "boil"), .robot "mixing" (.runHandler "whip")]
    (fun _ p => decide (isBetweenCalls p.controller.worker = false ∧
      (∀ endpoint ∈ twoRobots.endpoints, (p.robots endpoint).running = true) ∧
      (∀ endpoint ∈ twoRobots.endpoints, (p.robots endpoint).robotState = .rearranging ∧
        (p.robots endpoint).position = 2 ∧
        (RobotAgent.work (p.robots endpoint)).timeToRest (twoRobots.robotAt endpoint) < 2 ^ 32) ∧
      ((machine twoRobots p).replay (Unadapting twoRobots) [] (restarted p)
        [.registerRobot "mixing", .plant (.controller .runHandler), .robotInitialized,
         .resolveMissedCommit, .resolveMissedCommit, .plant (.robot "boiling" .timerExpires),
         .plant (.robot "boiling" (.runHandler "boil")), .registerRobot "boiling",
         .plant (.controller .runHandler), .robotInitialized]).any (fun result => decide
        (servedAt result.2.plant.controller (.registered 2) = some "mixing" ∧
          servedAt result.2.plant.controller (.registered 3) = some "boiling")) = true))
    (by decide +kernel)
  obtain ⟨whole, running, robots, comesBack⟩ := of_decide_eq_true shown
  obtain ⟨later, k, followed, back⟩ := Machine.exists_reaches_of_replay (machine twoRobots p)
    (Unadapting twoRobots) rfl _
    (fun _ k => decide (servedAt k.plant.controller (.registered 2) = some "mixing" ∧
      servedAt k.plant.controller (.registered 3) = some "boiling")) comesBack
  refine ⟨history, p, reached, ⟨running, ?_⟩, whole, robots, later, k, followed,
    of_decide_eq_true back⟩
  intro endpoint member reconfiguring
  exact absurd ((robots endpoint member).1.symm.trans reconfiguring) (by decide)

theorem interrupted_robots_come_back :
    ∃ p later k, Undamaged twoRobots p ∧ (p.robots "mixing").robotState = .rearranging ∧
      (p.robots "boiling").robotState = .rearranging ∧
      (machine twoRobots p).Reaches (Unadapting twoRobots) later k ∧
      servedAt k.plant.controller (.registered 2) = some "mixing" ∧
      servedAt k.plant.controller (.registered 3) = some "boiling" ∧
      (∀ output ∈ outputsOf later, ¬ Refused output) ∧
      (∀ position remote, findRobot k.plant.controller position = some remote →
        remote.endpoint ∈ twoRobots.endpoints ∧ remote.position = position ∧
          (k.plant.robots remote.endpoint).position = position ∧
          destination (p.robots remote.endpoint) = position) ∧
      (Stands twoRobots k →
        (∀ endpoint ∈ twoRobots.endpoints, ∃ remote,
          findRobot k.plant.controller (destination (p.robots endpoint)) = some remote ∧
            AtRest (k.plant.robots remote.endpoint)) ∧
        ((∀ endpoint ∈ twoRobots.endpoints, HasReturned p k endpoint) ↔
          isBetweenCalls p.controller.worker = false)) := by
  obtain ⟨history, p, reached, undamaged, _, robots, later, k, followed, mixing, boiling⟩ :=
    swap_is_interrupted
  have comeBack := robots_come_back twoRobots history p reached undamaged later k followed
  exact ⟨p, later, k, undamaged, (robots "mixing" (by decide)).1,
    (robots "boiling" (by decide)).1, followed, mixing, boiling, comeBack⟩

end Recovery

end CpsKitchen.Rearrangement.Recovery
