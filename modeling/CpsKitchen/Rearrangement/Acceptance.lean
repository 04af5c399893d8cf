import CpsKitchen.Rearrangement.Newcomers

/-!
# Who passes the checks agrees to switch

The controller checks that the robots of a swap are registered, available and
in no other swap, a robot checks its target against the belt too. Where the
targets are on the belt the robots agree, so the controller goes on and enters
the swap. Where they are not, a robot refuses and the controller stops.
-/

namespace CpsKitchen.Rearrangement.Joining

open CpsKitchen.Reactive CpsKitchen.Recipes
open CpsKitchen.RobotAgent (Robot)
open CpsKitchen.ControllerAgent (Controller Output isRegistered endpointAt swapKeys Request swapKey)

set_option autoImplicit false

def WillSwitch (config : Config) (p : Plant) (position newPosition : Position) : Prop :=
  (answer (config.robotAt (endpointAt p.controller position))
    (p.robots (endpointAt p.controller position)) (.switchPosition newPosition)).map Prod.snd =
      some true

instance (config : Config) (p : Plant) (position newPosition : Position) :
    Decidable (WillSwitch config p position newPosition) :=
  inferInstanceAs (Decidable (_ = _))

variable {config : Config} {k : Kitchen} {p : Plant} {c : Controller}
  {registered : Finset String} {stage : String → Stage} {endpoint : String}
  {fromPosition toPosition : Position}

section Replies

theorem switchPosition_reply (robotConfig : RobotAgent.Config) {r : Robot}
    (newPosition : Position) (running : r.running = true) (free : r.stateMutexHeld = false) :
    (answer robotConfig r (.switchPosition newPosition)).map Prod.snd =
      some (decide (0 < newPosition ∧ newPosition ≤ robotConfig.conveyorSize - 1 ∧
        newPosition ≠ r.position ∧ r.robotState = .available)) := by
  have steps : RobotAgent.step robotConfig r (.switchPosition newPosition true) =
      RobotAgent.switchPosition robotConfig r newPosition true := if_pos running
  unfold answer
  simp only [Call.method, steps, RobotAgent.switchPosition]
  by_cases valid : newPosition ≤ 0 ∨ newPosition > robotConfig.conveyorSize - 1 ∨
      newPosition = r.position
  · rw [if_pos valid]
    have refused : ¬ (0 < newPosition ∧ newPosition ≤ robotConfig.conveyorSize - 1 ∧
        newPosition ≠ r.position ∧ r.robotState = .available) := by
      rintro ⟨positive, onBelt, elsewhere, _⟩
      rcases valid with negative | beyond | here
      · exact absurd positive (not_lt_of_ge negative)
      · exact absurd onBelt (not_le_of_gt beyond)
      · exact elsewhere here
    simp [refused]
  · rw [if_neg valid, free]
    push Not at valid
    obtain ⟨positive, onBelt, elsewhere⟩ := valid
    by_cases available : r.robotState = .available
    · simp [positive, onBelt, elsewhere, available]
    · simp [available]

theorem onBelt_of_willSwitch {newPosition position : Position}
    (agrees : WillSwitch config p position newPosition) : onBelt config newPosition := by
  unfold WillSwitch at agrees
  obtain ⟨⟨robot, reply⟩, answered, agreed⟩ := Option.map_eq_some_iff.mp agrees
  cases agreed
  have taken := answer_some rfl answered
  unfold RobotAgent.step at taken
  split at taken
  · simp only [RobotAgent.switchPosition] at taken
    split at taken
    · simp at taken
    next valid =>
      push Not at valid
      exact ⟨valid.1, valid.2.1⟩
  · contradiction

theorem willSwitch_of_free (coherent : Coherent config p stage) {position newPosition : Position}
    (member : endpoint ∈ config.endpoints) (free : stage endpoint = .free position)
    (available : (p.robots endpoint).robotState = .available)
    (running : (p.robots endpoint).running = true) (target : onBelt config newPosition)
    (different : newPosition ≠ position) : WillSwitch config p position newPosition := by
  have one := coherent.oneDriver endpoint member
  have unheld : (p.robots endpoint).stateMutexHeld = false := by
    by_contra held
    have reconfigures := one.reconfiguring (one.held (Bool.of_not_eq_false held)).2
    rw [available] at reconfigures
    exact absurd reconfigures.1 (by decide)
  have here : endpointAt p.controller position = endpoint := by
    refine coherent.agrees.endpointAt_eq member ?_
    rw [free]
    rfl
  have elsewhere : newPosition ≠ (p.robots endpoint).position := by
    obtain ⟨remote, found, _⟩ := coherent.agrees.keeps member
    have standing := (coherent.follows endpoint member remote found).position
    rw [standing, free]
    exact different
  have reply := switchPosition_reply (config.robotAt endpoint) newPosition running unheld
  unfold WillSwitch
  rw [here, reply]
  refine congrArg some (decide_eq_true ?_)
  exact ⟨target.1, target.2, elsewhere, available⟩

end Replies

section Swapping

theorem calling_of_settled (calling : Calling (settledWorker config c) fromPosition toPosition) :
    Calling c.worker fromPosition toPosition := by
  unfold settledWorker at calling
  cases worker : c.worker with
  | checkingFirst | checkingSecond | switchingFirst =>
      simp only [worker] at calling
      split at calling
      · exact absurd calling id
      · exact absurd calling id
  | initializingRobot | readingPendingCommit | resolvingMissedCommit =>
      rw [worker] at calling
      exact absurd calling id
  | _ =>
      rw [worker] at calling
      exact calling

/-- Where the worker is about to tell the first robot, both robots agree if and
only if the targets are on the belt. -/
theorem Joined.willSwitch_iff (joined : Joined config registered k stage) {request : Request}
    (worker : k.plant.controller.worker = .switchingFirst request fromPosition toPosition)
    (running : ∀ endpoint ∈ config.endpoints, (k.plant.robots endpoint).running = true) :
    Targets config k.plant.controller fromPosition toPosition ↔
      WillSwitch config k.plant fromPosition toPosition ∧
        (isRegistered k.plant.controller toPosition →
          WillSwitch config k.plant toPosition fromPosition) := by
  constructor
  · intro targets
    have seen : (viewed config k.plant).controller.worker =
        .switchingFirst request fromPosition toPosition := by
      have settled : settledWorker config k.plant.controller = k.plant.controller.worker := by
        refine settledWorker_eq (by rw [worker]; rfl) ?_
        intro _ _ _ checking
        rw [worker] at checking
        cases checking
        exact targets
      exact settled.trans worker
    have coherent := joined.coherent
    have different := coherent.agrees.different_opens (by rw [seen]; rfl)
    have ready := coherent.ready
    rw [seen] at ready
    have agrees : ∀ position ∈ [fromPosition, toPosition], ∀ newPosition,
        isRegistered k.plant.controller position → onBelt config newPosition →
          newPosition ≠ position → WillSwitch config k.plant position newPosition := by
      intro position readied newPosition present target elsewhere
      obtain ⟨endpoint, member, place⟩ := coherent.agrees.isRegistered_iff.mp present
      obtain ⟨free, available⟩ := ready position readied endpoint member place
      have runs := running endpoint (joined.arrivals.served member)
      exact willSwitch_of_free coherent member free available runs target elsewhere
    have relies := coherent.agrees.worker
    rw [seen] at relies
    refine ⟨?_, fun present => ?_⟩
    · exact agrees fromPosition List.mem_cons_self toPosition relies.1 targets.1 different.symm
    · refine agrees toPosition ?_ fromPosition present (targets.2 present) different
      exact List.mem_cons_of_mem _ List.mem_cons_self
  · rintro ⟨first, second⟩
    exact ⟨onBelt_of_willSwitch first, fun present => onBelt_of_willSwitch (second present)⟩

theorem Joined.rearranging_swaps (joined : Joined config registered k stage)
    (member : endpoint ∈ config.endpoints)
    (rearranging : (k.plant.robots endpoint).robotState = .rearranging) :
    ∃ fromPosition toPosition, k.plant.lastSwitch endpoint = some (fromPosition, toPosition) ∧
      (swapKey fromPosition toPosition ∈ swapKeys k.plant.controller ∨
        Calling k.plant.controller.worker fromPosition toPosition ∨
        .handleNewPositionCommit ∈ (k.plant.robots endpoint).posted) := by
  by_cases inside : endpoint ∈ registered
  · obtain ⟨fromPosition, toPosition, last, table | calling | posted⟩ :=
      joined.coherent.rearranging_swaps inside rearranging
    · exact ⟨fromPosition, toPosition, last, .inl table⟩
    · exact ⟨fromPosition, toPosition, last, .inr (.inl (calling_of_settled calling))⟩
    · exact ⟨fromPosition, toPosition, last, .inr (.inr posted)⟩
  · have available := (joined.arrivals.outside endpoint member inside).1.available
    rw [rearranging] at available
    contradiction

end Swapping

section Acceptance

/-- As long as the first robots are told to switch on the belt, every robot
agrees, the controller runs on, and a robot that rearranges is in a swap of the
controller or told to commit. Once the checks of a swap have passed, its robots
agree if and only if its targets are on the belt. -/
theorem availability_implies_acceptance (config : Config) (history : History Event Output)
    (k : Kitchen) (reached : (machine config).Reaches (SwitchesOnBelt config) history k) :
    (∀ endpoint newPosition reply,
      .switchInstructed endpoint newPosition reply ∈ outputsOf history → reply = some true) ∧
    k.plant.controller.running = true ∧
    (∀ endpoint ∈ config.endpoints, (k.plant.robots endpoint).robotState = .rearranging →
      ∃ fromPosition toPosition, k.plant.lastSwitch endpoint = some (fromPosition, toPosition) ∧
        (swapKey fromPosition toPosition ∈ swapKeys k.plant.controller ∨
          Calling k.plant.controller.worker fromPosition toPosition ∨
          .handleNewPositionCommit ∈ (k.plant.robots endpoint).posted)) ∧
    ∀ request fromPosition toPosition,
      k.plant.controller.worker = .switchingFirst request fromPosition toPosition →
      (∀ endpoint ∈ config.endpoints, (k.plant.robots endpoint).running = true) →
        (Targets config k.plant.controller fromPosition toPosition ↔
          WillSwitch config k.plant fromPosition toPosition ∧
            (isRegistered k.plant.controller toPosition →
              WillSwitch config k.plant toPosition fromPosition)) := by
  obtain ⟨accepted, registered, stage, joined⟩ := reaches_joined reached
  refine ⟨?_, joined.running, ?_, ?_⟩
  · intro endpoint newPosition reply instructed
    by_contra refused
    exact accepted _ instructed refused
  · intro endpoint member rearranging
    exact joined.rearranging_swaps member rearranging
  · intro request fromPosition toPosition worker running
    exact joined.willSwitch_iff worker running

def twoNewcomers : Kitchen where
  plant :=
    { controller := ControllerAgent.initial
      robots := registeredRobots.robots
      notices := fun _ => []
      lastSwitch := fun _ => none }
  announced := ∅

theorem twoNewcomers_unregistered : Unregistered twoRobots twoNewcomers where
  controller := rfl
  robots := registeredRobots_started
  lastSwitch _ := rfl
  announced := rfl

/-- The robot under 2 passes the checks of a swap with 0 and refuses, so the
controller stops. -/
theorem swap_off_belt_refused :
    ∃ history k request, (machine twoRobots).Reaches (fun _ _ => True) history k ∧
      k.plant.controller.worker = .switchingFirst request 2 0 ∧
      (k.plant.robots "boiling").running = true ∧ ¬ WillSwitch twoRobots k.plant 2 0 ∧
      ∃ later, (machine twoRobots).Reaches (fun _ _ => True)
          (history ++ [(.plant .call, [.switchInstructed "boiling" 0 (some false)])]) later ∧
        later.plant.controller.running = false := by
  obtain ⟨history, k, later, outputs, reached, taken, shown⟩ := Machine.exists_step_of_replay
    (machine twoRobots) (fun _ _ => True) twoNewcomers_unregistered
    [.registerRobot "boiling", .plant (.controller .runHandler), .robotInitialized,
     .resolveMissedCommit,
     .plant (.controller (.chooseNextRobot ⟨3, 0, "conveyor", "conveyor"⟩)),
     .plant (.controller .runHandler), .plant (.controller (.receiverInitialized true)),
     .plant (.controller (.swapRobotPositions 2 0)), .plant .call] (.plant .call)
    (fun _ k later outputs => decide (
      k.plant.controller.worker = .switchingFirst ⟨3, 0, "conveyor", "conveyor"⟩ 2 0 ∧
      (k.plant.robots "boiling").running = true ∧ ¬ WillSwitch twoRobots k.plant 2 0 ∧
      outputs = [.switchInstructed "boiling" 0 (some false)] ∧
      later.plant.controller.running = false)) (by decide +kernel)
  obtain ⟨worker, running, refuses, rfl, stopped⟩ := of_decide_eq_true shown
  exact ⟨history, k, _, reached, worker, running, refuses, later, .step reached trivial taken,
    stopped⟩

/-- Both robots register and agree to exchange their positions. -/
theorem newcomers_agree :
    ∃ history k, (machine twoRobots).Reaches (SwitchesOnBelt twoRobots) history k ∧
      k.plant.controller.worker =
        .switchingFirst ⟨3, 0, "conveyor", "conveyor"⟩ 3 2 ∧
      WillSwitch twoRobots k.plant 3 2 ∧ WillSwitch twoRobots k.plant 2 3 := by
  obtain ⟨history, k, reached, shown⟩ := Machine.exists_reaches_of_replay
    (machine twoRobots) (SwitchesOnBelt twoRobots) twoNewcomers_unregistered
    [.registerRobot "boiling", .plant (.controller .runHandler), .robotInitialized,
     .resolveMissedCommit,
     .registerRobot "mixing", .plant (.controller .runHandler), .robotInitialized,
     .resolveMissedCommit,
     .plant (.controller (.chooseNextRobot ⟨3, 0, "conveyor", "conveyor"⟩)),
     .plant (.controller .runHandler), .plant (.controller (.receiverInitialized true)),
     .plant (.controller (.swapRobotPositions 3 2)), .plant .call, .plant .call]
    (fun _ k => decide (
      k.plant.controller.worker = .switchingFirst ⟨3, 0, "conveyor", "conveyor"⟩ 3 2 ∧
      (∀ endpoint ∈ twoRobots.endpoints, (k.plant.robots endpoint).running = true) ∧
      Targets twoRobots k.plant.controller 3 2 ∧
      isRegistered k.plant.controller 2)) (by decide +kernel)
  obtain ⟨worker, running, targets, present⟩ := of_decide_eq_true shown
  obtain ⟨_, _, _, agree⟩ := availability_implies_acceptance twoRobots history k reached
  obtain ⟨first, second⟩ := (agree _ 3 2 worker running).mp targets
  exact ⟨history, k, reached, worker, first, second present⟩

end Acceptance

end CpsKitchen.Rearrangement.Joining
