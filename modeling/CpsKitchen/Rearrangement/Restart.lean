import CpsKitchen.Rearrangement.Destinations
import CpsKitchen.Rearrangement.Newcomers

/-!
# A new controller

The controller is replaced at any moment of a rearrangement, and the robots go
on meanwhile. The new one starts with an empty map. The client loop of a robot
registers it anew as soon as it is available or waits for a commit, and the
controller makes up for a commit that the old one did not send.
-/

namespace CpsKitchen.Rearrangement.Recovery

open CpsKitchen.Reactive CpsKitchen.Recipes
open CpsKitchen.RobotAgent (Robot Phase InPhase OneDriver Steady Published CommitsOnce Travels
  writesPosition)
open CpsKitchen.ControllerAgent (Controller RemoteRobot Place Output Handler Worker Handles Request
  robotAt findRobot isRegistered endpointAt updateAt updateRobot setWorker post takeHandler cleanUp)
open Joining (Kitchen joining connecting registration?)

set_option autoImplicit false

section Robots

variable {config : RobotAgent.Config} {r after : Robot} {event : RobotAgent.Event}
  {outputs : List RobotAgent.Output} {goal : Position} {phase : Phase}

/-- What the client loop asks for before it registers the robot anew. -/
def mayRegister (r : Robot) : Prop :=
  r.robotState = .available ∨ r.attributes.newPositionCommitIsPending = true

instance (r : Robot) : Decidable (mayRegister r) := inferInstanceAs (Decidable (_ ∨ _))

/-- A robot on its way to where it was bound for. -/
structure Goes (config : RobotAgent.Config) (goal : Position) (r : Robot) : Prop where
  reached : ∃ history, (RobotAgent.machine config).Reaches CommitsOnce history r
  running : r.running = true
  state : r.robotState ≠ .reconfiguring
  bound : destination r = goal
  phase : ∃ phase, InPhase r phase

theorem Goes.steady (goes : Goes config goal r) : Steady config r := by
  obtain ⟨history, reached⟩ := goes.reached
  exact
    { RobotAgent.reaches_sound (fun _ _ once => once) reached with
      running := goes.running
      state := goes.state
      travels := RobotAgent.reaches_travelsOn reached }

theorem Goes.published (goes : Goes config goal r) : Published r := by
  obtain ⟨history, reached⟩ := goes.reached
  exact reached.invariant (fun _ started => RobotAgent.started_published started)
    fun _ _ _ _ published _ taken =>
      RobotAgent.step_published published (RobotAgent.step_cases taken).2

theorem Goes.takes (goes : Goes config goal r) (once : CommitsOnce r event)
    (calm : event.isCalm = true)
    (taken : RobotAgent.step config r event = some (after, outputs))
    (bound : destination after = goal) (inPhase : InPhase after phase) : Goes config goal after := by
  obtain ⟨history, reached⟩ := goes.reached
  have steady := RobotAgent.step_steady goes.steady once calm taken
  exact ⟨⟨_, reached.step once taken⟩, steady.running, steady.state, bound, phase, inPhase⟩

/-- The robot stays where it is, and no commit becomes due. -/
structure Stays (r after : Robot) : Prop where
  position : after.position = r.position
  returned : mayRegister after
  arrived : InPhase after .arrived ↔ InPhase r .arrived
  committing : InPhase after .committing → InPhase r .committing

theorem arrived_iff (inPhase : InPhase r phase) : InPhase r .arrived ↔ phase = .arrived := by
  constructor
  · intro arrived
    cases phase with
    | settled => exact absurd arrived.1 inPhase
    | heading newPosition => exact absurd (inPhase.2.1.symm.trans arrived.2.1) (by decide)
    | arrived => rfl
    | committing => exact absurd inPhase.2.2 arrived.2.2
  · rintro rfl
    exact inPhase

theorem committing_iff (inPhase : InPhase r phase) :
    InPhase r .committing ↔ phase = .committing := by
  constructor
  · intro committing
    cases phase with
    | settled => exact absurd committing.1 inPhase
    | heading newPosition => exact absurd (inPhase.2.1.symm.trans committing.2.1) (by decide)
    | arrived => exact absurd committing.2.2 inPhase.2.2
    | committing => rfl
  · rintro rfl
    exact inPhase

/-- A robot that registers stands where it is bound for. -/
theorem Goes.arrives (goes : Goes config goal r) (may : mayRegister r) : r.position = goal := by
  rw [← goes.bound, destination]
  rcases may with available | pending
  · rw [untargeted goes.steady.one (.inl (by simp [available]))]
    exact (if_neg (by simp [available])).symm
  · rw [untargeted goes.steady.one (.inr pending)]
    exact (if_neg (by simp [pending])).symm

theorem Goes.mayRegister_of (goes : Goes config goal r) (inPhase : InPhase r phase)
    (standing : ∀ newPosition, phase ≠ .heading newPosition) : mayRegister r := by
  cases phase with
  | settled =>
      left
      cases state : r.robotState with
      | available => rfl
      | rearranging => exact absurd state inPhase
      | reconfiguring => exact absurd state goes.state
  | heading newPosition => exact absurd rfl (standing newPosition)
  | arrived | committing => exact .inr inPhase.2.1

theorem not_heading (may : mayRegister r) {newPosition : Position}
    (heads : InPhase r (.heading newPosition)) : False := by
  rcases may with available | pending
  · exact absurd (available.symm.trans heads.1) (by decide)
  · exact absurd (pending.symm.trans heads.2.1) (by decide)

theorem Goes.step (goes : Goes config goal r) (calm : event.isCalm = true)
    (own : event.isAdaptation = false)
    (taken : RobotAgent.step config r event = some (after, outputs)) : Goes config goal after := by
  obtain ⟨phase, inPhase⟩ := goes.phase
  have reaction := (RobotAgent.step_cases taken).2
  obtain ⟨next, inNext, travels⟩ := RobotAgent.step_travels goes.steady.one inPhase own reaction
  have once : CommitsOnce r event := by
    rintro rfl
    contradiction
  refine goes.takes once calm taken ?_ inNext
  have bound := goes.bound
  rw [destination_of_phase goes.steady.one inPhase] at bound
  rw [destination_of_phase (RobotAgent.step_steady goes.steady once calm taken).one inNext, ← bound]
  cases travels with
  | stays phase position => rw [position]
  | moves newPosition position => exact position
  | settles position => exact position

theorem Goes.stays (goes : Goes config goal r) (later : Goes config goal after)
    (may : mayRegister r) (own : event.isAdaptation = false)
    (taken : RobotAgent.step config r event = some (after, outputs)) :
    Stays r after ∧ writesPosition r event = false := by
  obtain ⟨phase, inPhase⟩ := goes.phase
  have reaction := (RobotAgent.step_cases taken).2
  obtain ⟨next, inNext, travels⟩ := RobotAgent.step_travels goes.steady.one inPhase own reaction
  cases travels with
  | stays phase position available silent =>
      have standing : ∀ newPosition, phase ≠ .heading newPosition := by
        rintro newPosition rfl
        exact not_heading may inPhase
      refine ⟨⟨position, later.mayRegister_of inNext standing, ?_, ?_⟩, silent⟩
      · rw [arrived_iff inNext, arrived_iff inPhase]
      · rw [committing_iff inNext, committing_iff inPhase]
        exact id
  | moves newPosition => exact (not_heading may inPhase).elim
  | settles position available silent =>
      refine ⟨⟨position, .inl available, ?_, ?_⟩, silent⟩
      · rw [arrived_iff inNext, arrived_iff inPhase]
        exact iff_of_false (by simp) (by simp)
      · rw [committing_iff inNext]
        exact fun settled => absurd settled (by simp)

theorem Goes.commits (goes : Goes config goal r) (arrived : InPhase r .arrived)
    (taken : RobotAgent.step config r .commitNewPosition = some (after, outputs)) :
    outputs = [.result true] ∧ Goes config goal after ∧ after.position = r.position ∧
      InPhase after .committing := by
  obtain ⟨accepted, position, committing⟩ := RobotAgent.commit_accepted arrived taken
  have once : CommitsOnce r .commitNewPosition := fun _ => arrived.2.2
  refine ⟨accepted, goes.takes once rfl taken ?_ committing, position, committing⟩
  rw [destination_of_phase (RobotAgent.step_steady goes.steady once rfl taken).one committing,
    ← goes.bound, destination_of_phase goes.steady.one arrived]
  exact position

theorem Goes.commit_returns (goes : Goes config goal r) (arrived : InPhase r .arrived) :
    ∃ after outputs, RobotAgent.step config r .commitNewPosition = some (after, outputs) := by
  obtain ⟨rearranging, pending, _⟩ := arrived
  simp [RobotAgent.step, goes.running, RobotAgent.commitNewPosition, goes.steady.unlocked,
    rearranging, pending]

end Robots

section Steps

variable (config : Config)

/-- A running robot comes back through its client loop, everything else is as
for robots that register for the first time. -/
def step (k : Kitchen) : Joining.Event → Option (Kitchen × List Output)
  | .registerRobot endpoint =>
      let robot := k.plant.robots endpoint
      if robot.running = true ∧ mayRegister robot then
        Joining.step config k (.registerRobot endpoint)
      else none
  | event => Joining.step config k event

/-- The subscriptions of the old controller are gone with it. -/
def restarted (p : Plant) : Kitchen :=
  ⟨{ p with controller := ControllerAgent.initial, notices := fun _ => [] }, ∅⟩

def machine (p : Plant) : Machine Kitchen Joining.Event Output where
  start k := k = restarted p
  step := step config

/-- The recipe of a request is known and has as many actions as were done. -/
def Answerable (request : Request) : Prop :=
  (config.controller.recipeParser.getRecipe request.recipeId).any fun recipe =>
    request.processedSteps ≤ recipe.actionQueue.length

instance (request : Request) : Decidable (Answerable config request) :=
  inferInstanceAs (Decidable (Option.any _ _ = true))

/-- Nobody adapts a robot anew, the conveyor takes the notifications, and a
robot that the old controller told to commit comes back after that. -/
def Unadapting (k : Kitchen) : Joining.Event → Prop
  | .plant (.robot _ event) => event.isCalm = true
  | .plant (.controller (.swapRobotPositions _ _))
  | .plant (.controller (.reconfigureRobotCapability _ _)) => False
  | .plant (.controller (.chooseNextRobot request)) => Answerable config request
  | .registerRobot endpoint => .handleNewPositionCommit ∉ (k.plant.robots endpoint).posted
  | _ => True

instance (k : Kitchen) (event : Joining.Event) : Decidable (Unadapting config k event) := by
  unfold Unadapting
  split <;> infer_instance

end Steps

section Recovers

def attended : Worker → Option Position
  | .readingPendingCommit position | .resolvingMissedCommit position => some position
  | _ => none

/-- A remote robot is what the controller takes it to be. -/
structure Known (k : Kitchen) (remote : RemoteRobot) : Prop where
  served : remote.endpoint ∈ k.announced
  stands : (k.plant.robots remote.endpoint).position = remote.position
  running : remote.running = true
  settled : remote.adaptivityIsPending = false
  notices : k.plant.notices remote.endpoint = initialNotice remote

def Due (config : Config) (k : Kitchen) : Handler → Prop
  | .handleRobotRegistration endpoint position _ =>
      endpoint ∈ k.announced ∧ (k.plant.robots endpoint).position = position
  | .handleNextRobotRequest request => Answerable config request
  | .positionSwapped _ _ => False
  | .capabilitiesReconfigured _ => True

/-- The controller serves requests, or makes up for a commit. -/
def WorkerRecovers (config : Config) (k : Kitchen) : Worker → Prop
  | .betweenHandlers | .choosing _ | .answering _ _ _ => True
  | .initializingReceiver request => Answerable config request
  | .initializingRobot robot position =>
      robot.position = position ∧ ¬ isRegistered k.plant.controller position
  | .readingPendingCommit position => isRegistered k.plant.controller position
  | .resolvingMissedCommit position =>
      isRegistered k.plant.controller position ∧
        InPhase (k.plant.robots (endpointAt k.plant.controller position)) .arrived
  | _ => False

def IsBack (k : Kitchen) (endpoint : String) : Prop :=
  servedAt k.plant.controller (.registered (k.plant.robots endpoint).position) = some endpoint

structure Recovers (config : Config) (goal : String → Position) (k : Kitchen) : Prop where
  running : k.plant.controller.running = true
  swaps : k.plant.controller.pendingSwaps = []
  goes : ∀ endpoint ∈ config.endpoints,
    Goes (config.robotAt endpoint) (goal endpoint) (k.plant.robots endpoint)
  served : k.announced ⊆ config.endpoints
  returned : ∀ endpoint ∈ k.announced, mayRegister (k.plant.robots endpoint)
  keyed : ∀ position remote, findRobot k.plant.controller position = some remote →
    remote.position = position
  known : ∀ place remote, robotAt k.plant.controller place = some remote → Known k remote
  posted : ∀ handler ∈ k.plant.controller.posted, Due config k handler
  worker : WorkerRecovers config k k.plant.controller.worker
  /-- Where a robot is refused, another one is in the map. -/
  coming : ∀ endpoint ∈ k.announced,
    isRegistered k.plant.controller (k.plant.robots endpoint).position ∨
      (endpoint, (k.plant.robots endpoint).position) ∈ joining k.plant.controller
  told : ∀ endpoint ∈ k.announced, InPhase (k.plant.robots endpoint) .committing →
    IsBack k endpoint ∧
      attended k.plant.controller.worker ≠ some (k.plant.robots endpoint).position
  missed : ∀ endpoint ∈ k.announced, InPhase (k.plant.robots endpoint) .arrived →
    IsBack k endpoint →
      attended k.plant.controller.worker = some (k.plant.robots endpoint).position

end Recovers

variable {config : Config} {goal : String → Position} {k : Kitchen} {c later : Controller}

section Frames

theorem Known.carry {after : Kitchen} {remote change : RemoteRobot} (known : Known k remote)
    (endpoint : change.endpoint = remote.endpoint) (position : change.position = remote.position)
    (running : change.running = remote.running)
    (settled : change.adaptivityIsPending = remote.adaptivityIsPending)
    (announced : k.announced ⊆ after.announced)
    (stays : (after.plant.robots remote.endpoint).position =
      (k.plant.robots remote.endpoint).position)
    (notices : after.plant.notices remote.endpoint = initialNotice change) :
    Known after change where
  served := by
    rw [endpoint]
    exact announced known.served
  stands := by rw [endpoint, position, stays, known.stands]
  running := running.trans known.running
  settled := settled.trans known.settled
  notices := by rw [endpoint, notices]

theorem Due.congr {after : Kitchen} {handler : Handler} (due : Due config k handler)
    (announced : k.announced ⊆ after.announced)
    (stays : ∀ endpoint ∈ k.announced, (after.plant.robots endpoint).position =
      (k.plant.robots endpoint).position) : Due config after handler := by
  cases handler with
  | handleRobotRegistration endpoint position capabilities =>
      exact ⟨announced due.1, (stays endpoint due.1).trans due.2⟩
  | handleNextRobotRequest | positionSwapped | capabilitiesReconfigured => exact due

theorem registered_congr {position : Position} (served : servedAt later (.registered position) =
    servedAt c (.registered position)) : isRegistered later position ↔ isRegistered c position := by
  have isSome := congrArg Option.isSome served
  rw [servedAt, servedAt, Option.isSome_map, Option.isSome_map] at isSome
  exact Bool.eq_iff_iff.mp isSome

theorem WorkerRecovers.congr {worker : Worker} (relies : WorkerRecovers config k worker)
    (robots : later.positionRemoteRobotMap = k.plant.controller.positionRemoteRobotMap) :
    WorkerRecovers config { k with plant := { k.plant with controller := later } } worker := by
  cases worker with
  | initializingRobot | readingPendingCommit | resolvingMissedCommit =>
      simp only [WorkerRecovers, isRegistered, endpointAt, findRobot, robots]
      exact relies
  | _ => exact relies

theorem Recovers.controls (recovers : Recovers config goal k) {notices : String → List Position}
    (running : later.running = true) (swaps : later.pendingSwaps = [])
    (served : ∀ position, servedAt later (.registered position) =
      servedAt k.plant.controller (.registered position))
    (keyed : ∀ position remote, findRobot later position = some remote →
      remote.position = position)
    (known : ∀ place remote, robotAt later place = some remote →
      Known { k with plant := { k.plant with controller := later, notices := notices } } remote)
    (posted : ∀ handler ∈ later.posted, Due config k handler)
    (worker : WorkerRecovers config
      { k with plant := { k.plant with controller := later, notices := notices } } later.worker)
    (attends : attended later.worker = attended k.plant.controller.worker)
    (coming : ∀ entry ∈ joining k.plant.controller,
      entry ∈ joining later ∨ isRegistered later entry.2) :
    Recovers config goal
      { k with plant := { k.plant with controller := later, notices := notices } } where
  running := running
  swaps := swaps
  goes := recovers.goes
  served := recovers.served
  returned := recovers.returned
  keyed := keyed
  known := known
  posted := fun handler member =>
    (posted handler member).congr (Finset.Subset.refl _) fun _ _ => rfl
  worker := worker
  coming := by
    intro endpoint announced
    rcases recovers.coming endpoint announced with registered | joins
    · exact .inl ((registered_congr (served _)).mpr registered)
    · exact (coming _ joins).symm
  told := by
    intro endpoint announced committing
    obtain ⟨back, free⟩ := recovers.told endpoint announced committing
    refine ⟨(served _).trans back, ?_⟩
    simp only [attends]
    exact free
  missed := by
    intro endpoint announced arrived back
    simp only [attends]
    exact recovers.missed endpoint announced arrived ((served _).symm.trans back)

theorem Recovers.turns (recovers : Recovers config goal k)
    (running : later.running = k.plant.controller.running)
    (swaps : later.pendingSwaps = k.plant.controller.pendingSwaps)
    (robots : later.positionRemoteRobotMap = k.plant.controller.positionRemoteRobotMap)
    (held : ∀ remote, robotAt later .held = some remote → Known k remote)
    (posted : ∀ handler ∈ later.posted, Due config k handler)
    (worker : WorkerRecovers config { k with plant := { k.plant with controller := later } }
      later.worker)
    (attends : attended later.worker = attended k.plant.controller.worker)
    (coming : ∀ entry ∈ joining k.plant.controller,
      entry ∈ joining later ∨ isRegistered later entry.2) :
    Recovers config goal { k with plant := { k.plant with controller := later } } := by
  have found : ∀ position, findRobot later position = findRobot k.plant.controller position := by
    intro position
    rw [findRobot, findRobot, robots]
  refine recovers.controls (running.trans recovers.running) (swaps.trans recovers.swaps) ?_ ?_ ?_
    posted worker attends coming
  · intro position
    exact congrArg (Option.map RemoteRobot.endpoint) (found position)
  · intro position remote here
    exact recovers.keyed position remote ((found position).symm.trans here)
  · intro place remote here
    have known : Known k remote := by
      cases place with
      | registered position =>
          exact recovers.known (.registered position) remote ((found position).symm.trans here)
      | held => exact held remote here
    exact known.carry rfl rfl rfl rfl (Finset.Subset.refl _) rfl known.notices

theorem Recovers.place_unique (recovers : Recovers config goal k) {first second : Place}
    {one other : RemoteRobot} (found : robotAt k.plant.controller first = some one)
    (alsoFound : robotAt k.plant.controller second = some other)
    (same : one.endpoint = other.endpoint) : first = second := by
  have position : one.position = other.position := by
    rw [← (recovers.known first one found).stands, same,
      (recovers.known second other alsoFound).stands]
  have apart : ∀ {key : Position} {remote held : RemoteRobot},
      findRobot k.plant.controller key = some remote →
      robotAt k.plant.controller .held = some held → remote.position ≠ held.position := by
    intro key remote held registered outside equal
    have relies := recovers.worker
    have keyed := recovers.keyed key remote registered
    cases worker : k.plant.controller.worker with
    | initializingRobot robot position =>
        rw [worker] at relies
        rw [robotAt, worker] at outside
        cases outside
        apply relies.2
        rw [isRegistered, ← relies.1, ← equal, keyed, registered]
        rfl
    | committingFirst => rw [worker] at relies; exact relies
    | _ =>
        rw [robotAt, worker] at outside
        contradiction
  cases first with
  | registered key =>
      cases second with
      | registered otherKey =>
          rw [← recovers.keyed key one found, ← recovers.keyed otherKey other alsoFound, position]
      | held => exact absurd position (apart found alsoFound)
  | held =>
      cases second with
      | registered otherKey => exact absurd position.symm (apart alsoFound found)
      | held => rfl

theorem Recovers.updates (recovers : Recovers config goal k) (place : Place)
    (change : RemoteRobot → RemoteRobot) {notices : String → List Position}
    (endpoint : ∀ robot, (change robot).endpoint = robot.endpoint)
    (position : ∀ robot, robotAt k.plant.controller place = some robot →
      (change robot).position = robot.position)
    (changed : ∀ robot, robotAt k.plant.controller place = some robot →
      Known { k with plant := { k.plant with
        controller := updateAt k.plant.controller change place, notices := notices } }
        (change robot))
    (kept : ∀ other robot, other ≠ place → robotAt k.plant.controller other = some robot →
      Known { k with plant := { k.plant with
        controller := updateAt k.plant.controller change place, notices := notices } } robot) :
    Recovers config goal { k with plant := { k.plant with
      controller := updateAt k.plant.controller change place, notices := notices } } := by
  have found := robotAt_updateAt k.plant.controller change place
  have registered : ∀ other, isRegistered (updateAt k.plant.controller change place) other ↔
      isRegistered k.plant.controller other := fun _ => ControllerAgent.isRegistered_updateAt
  have worker : (updateAt k.plant.controller change place).worker = k.plant.controller.worker ∨
      ∃ robot position, k.plant.controller.worker = .initializingRobot robot position ∧
        robotAt k.plant.controller place = some robot ∧
        (updateAt k.plant.controller change place).worker =
          .initializingRobot (change robot) position := by
    cases place with
    | registered key => exact .inl rfl
    | held =>
        have relies := recovers.worker
        unfold updateAt robotAt
        cases busy : k.plant.controller.worker with
        | initializingRobot robot key => exact .inr ⟨robot, key, rfl, rfl, rfl⟩
        | committingFirst => rw [busy] at relies; exact relies.elim
        | _ => exact .inl (by simp only [busy])
  refine recovers.controls ?_ ?_ (fun key => servedAt_updateAt endpoint place _) ?_ ?_ ?_ ?_ ?_ ?_
  · rw [ControllerAgent.running_updateAt]
    exact recovers.running
  · rw [ControllerAgent.pendingSwaps_updateAt]
    exact recovers.swaps
  · intro key remote here
    have here : robotAt (updateAt k.plant.controller change place) (.registered key) =
        some remote := here
    rw [found] at here
    split at here
    next same =>
      obtain ⟨robot, at_, rfl⟩ := Option.map_eq_some_iff.mp here
      rw [position robot at_]
      rw [← same] at at_
      exact recovers.keyed key robot at_
    · exact recovers.keyed key remote here
  · intro other remote here
    rw [found] at here
    split at here
    · obtain ⟨robot, at_, rfl⟩ := Option.map_eq_some_iff.mp here
      exact changed robot at_
    next elsewhere => exact kept other remote elsewhere here
  · rw [ControllerAgent.posted_updateAt]
    exact recovers.posted
  · have relies := recovers.worker
    rcases worker with same | ⟨robot, key, busy, at_, same⟩
    · rw [same]
      cases busy : k.plant.controller.worker with
      | initializingRobot robot key =>
          rw [busy] at relies
          exact ⟨relies.1, fun here => relies.2 ((registered key).mp here)⟩
      | readingPendingCommit key =>
          rw [busy] at relies
          exact (registered key).mpr relies
      | resolvingMissedCommit key =>
          rw [busy] at relies
          refine ⟨(registered key).mpr relies.1, ?_⟩
          simp only [Joining.endpointAt_updateAt endpoint]
          exact relies.2
      | _ => rw [busy] at relies; exact relies
    · rw [busy] at relies
      rw [same]
      exact ⟨(position robot at_).trans relies.1, fun here => relies.2 ((registered key).mp here)⟩
  · rcases worker with same | ⟨robot, key, busy, _, same⟩
    · rw [same]
    · rw [same, busy]
      rfl
  · intro entry joins
    left
    rw [Joining.joining_updateAt endpoint]
    exact joins

end Frames

section Robots

/-- The robots go on, and those that have come back stay where they are. -/
theorem Recovers.moves (recovers : Recovers config goal k) {robots : String → Robot}
    {notices : String → List Position}
    (goes : ∀ endpoint ∈ config.endpoints,
      Goes (config.robotAt endpoint) (goal endpoint) (robots endpoint))
    (stays : ∀ endpoint ∈ k.announced, Stays (k.plant.robots endpoint) (robots endpoint) ∧
      notices endpoint = k.plant.notices endpoint) :
    Recovers config goal
      { k with plant := { k.plant with robots := robots, notices := notices } } := by
  have position : ∀ endpoint ∈ k.announced,
      (robots endpoint).position = (k.plant.robots endpoint).position :=
    fun endpoint announced => (stays endpoint announced).1.position
  refine
    { running := recovers.running
      swaps := recovers.swaps
      goes := goes
      served := recovers.served
      returned := fun endpoint announced => (stays endpoint announced).1.returned
      keyed := recovers.keyed
      known := ?_
      posted := ?_
      worker := ?_
      coming := ?_
      told := ?_
      missed := ?_ }
  · intro place remote found
    have known := recovers.known place remote found
    refine known.carry rfl rfl rfl rfl (Finset.Subset.refl _) (position _ known.served) ?_
    exact (stays _ known.served).2.trans known.notices
  · exact fun handler member =>
      (recovers.posted handler member).congr (Finset.Subset.refl _) position
  · have relies := recovers.worker
    cases worker : k.plant.controller.worker with
    | resolvingMissedCommit key =>
        simp only [worker] at relies ⊢
        obtain ⟨registered, arrived⟩ := relies
        obtain ⟨remote, found⟩ := Option.isSome_iff_exists.mp registered
        have endpoint : endpointAt k.plant.controller key = remote.endpoint := by
          rw [endpointAt, found]
          rfl
        rw [endpoint] at arrived
        refine ⟨registered, ?_⟩
        simp only [endpoint]
        have served := (recovers.known (.registered key) remote found).served
        exact (stays _ served).1.arrived.mpr arrived
    | _ =>
        simp only [worker] at relies ⊢
        exact relies
  · intro endpoint announced
    simp only [position endpoint announced]
    exact recovers.coming endpoint announced
  · intro endpoint announced committing
    have before := (stays endpoint announced).1.committing committing
    have told := recovers.told endpoint announced before
    simp only [IsBack, position endpoint announced]
    exact told
  · intro endpoint announced arrived back
    have before := (stays endpoint announced).1.arrived.mp arrived
    simp only [IsBack, position endpoint announced] at back ⊢
    exact recovers.missed endpoint announced before back

theorem Recovers.robot (recovers : Recovers config goal k) {endpoint : String}
    {event : RobotAgent.Event} {after : Plant} (member : endpoint ∈ config.endpoints)
    (own : event.isAdaptation = false) (calm : event.isCalm = true)
    (acts : robotActs config k.plant endpoint event = some after) :
    Recovers config goal { k with plant := after } := by
  unfold robotActs at acts
  split at acts
  · contradiction
  next robot sent ran =>
    cases acts
    have goes := recovers.goes endpoint member
    have goesOn := goes.step calm own ran
    apply recovers.moves
    · intro other otherMember
      by_cases same : other = endpoint
      · subst same
        rw [Function.update_self]
        exact goesOn
      · rw [Function.update_of_ne same]
        exact recovers.goes other otherMember
    · intro other announced
      by_cases same : other = endpoint
      · subst same
        obtain ⟨stays, silent⟩ := goes.stays goesOn (recovers.returned other announced) own ran
        rw [Function.update_self, silent]
        exact ⟨stays, rfl⟩
      · rw [Function.update_of_ne same]
        refine ⟨⟨rfl, recovers.returned other announced, Iff.rfl, id⟩, ?_⟩
        split
        · exact Function.update_of_ne same _ _
        · rfl

theorem Recovers.done (recovers : Recovers config goal k) {position : Position} {robot : Robot}
    (attends : attended k.plant.controller.worker = some position) {remote : RemoteRobot}
    (found : findRobot k.plant.controller position = some remote)
    (goes : Goes (config.robotAt remote.endpoint) (goal remote.endpoint) robot)
    (stays : robot.position = (k.plant.robots remote.endpoint).position)
    (returned : mayRegister robot) (notArrived : ¬ InPhase robot .arrived) :
    Recovers config goal { k with plant := { k.plant with
      robots := Function.update k.plant.robots remote.endpoint robot
      controller := setWorker k.plant.controller .betweenHandlers } } := by
  have known := recovers.known (.registered position) remote found
  have keyed := recovers.keyed position remote found
  have at_ : (k.plant.robots remote.endpoint).position = position := known.stands.trans keyed
  have back : servedAt k.plant.controller (.registered position) = some remote.endpoint := by
    rw [servedAt, robotAt, found]
    rfl
  have places : ∀ endpoint,
      (Function.update k.plant.robots remote.endpoint robot endpoint).position =
        (k.plant.robots endpoint).position := by
    intro endpoint
    by_cases same : endpoint = remote.endpoint
    · rw [same, Function.update_self]
      exact stays
    · rw [Function.update_of_ne same]
  have idle : connecting k.plant.controller.worker = [] := by
    cases worker : k.plant.controller.worker with
    | initializingRobot =>
        rw [worker] at attends
        contradiction
    | _ => rfl
  refine
    { running := recovers.running
      swaps := recovers.swaps
      goes := ?_
      served := recovers.served
      returned := ?_
      keyed := recovers.keyed
      known := ?_
      posted := ?_
      worker := trivial
      coming := ?_
      told := ?_
      missed := ?_ }
  · intro endpoint member
    by_cases same : endpoint = remote.endpoint
    · simp only [same, Function.update_self]
      exact goes
    · simp only [Function.update_of_ne same]
      exact recovers.goes endpoint member
  · intro endpoint announced
    by_cases same : endpoint = remote.endpoint
    · simp only [same, Function.update_self]
      exact returned
    · simp only [Function.update_of_ne same]
      exact recovers.returned endpoint announced
  · intro place other here
    cases place with
    | registered key =>
        have known := recovers.known (.registered key) other here
        exact known.carry rfl rfl rfl rfl (Finset.Subset.refl _) (places _) known.notices
    | held => contradiction
  · exact fun handler member =>
      (recovers.posted handler member).congr (Finset.Subset.refl _) fun _ _ => places _
  · intro endpoint announced
    simp only [places]
    rcases recovers.coming endpoint announced with registered | joins
    · exact .inl registered
    · right
      rw [joining, idle] at joins
      exact joins
  · intro endpoint announced committing
    refine ⟨?_, by simp [attended, setWorker]⟩
    simp only [IsBack, places]
    by_cases same : endpoint = remote.endpoint
    · rw [same, at_]
      exact back
    · simp only [Function.update_of_ne same] at committing
      exact (recovers.told endpoint announced committing).1
  · intro endpoint announced arrived isBack
    simp only [IsBack, places] at isBack
    by_cases same : endpoint = remote.endpoint
    · simp only [same, Function.update_self] at arrived
      exact absurd arrived notArrived
    · simp only [Function.update_of_ne same] at arrived
      have here := recovers.missed endpoint announced arrived isBack
      rw [attends] at here
      have isBack : servedAt k.plant.controller
        (.registered (k.plant.robots endpoint).position) = some endpoint := isBack
      rw [← Option.some.inj here, back] at isBack
      exact absurd (Option.some.inj isBack).symm same

end Robots

end CpsKitchen.Rearrangement.Recovery
