import CpsKitchen.ControllerAgent.RegistrySteps

/-!
# The registry in every run

As long as the handlers of a robot are run for that robot, the registry is in
order in every state of a run. Run for another robot under the same position
they acknowledge a move, or end an adaptation, that has not happened.
-/

namespace CpsKitchen.ControllerAgent

open CpsKitchen.Reactive CpsKitchen.Recipes

set_option autoImplicit false

section Consistency

/-- The controller together with what its robots still have to report. -/
def reportingMachine (config : Config) : Machine (Controller × Reports) Event Output :=
  (machine config).observed noReports keepReports

theorem reaches_registry {config : Config} {history : History Event Output}
    {state : Controller × Reports}
    (reached : (reportingMachine config).Reaches
      (fun state event => Lawful state.1 state.2 event ∧ NotStale state.1 state.2 event) history
      state) : Registry state.1 state.2 := by
  induction reached with
  | start initial =>
      rw [initial.1, initial.2]
      exact initial_registry
  | step _ permitted taken ih =>
      obtain ⟨stepped, kept⟩ := Machine.observed_step taken
      rw [kept]
      exact ih.step permitted.1 permitted.2 stepped

/-- The map, the table of swaps, the counter and the flags agree. -/
structure Consistent (c : Controller) (reports : Reports) : Prop where
  disjoint : (swapKeys c).Pairwise fun first second =>
    ∀ position, involves position first → ¬ involves position second
  counted : c.registeredRobots = c.positionRemoteRobotMap.keys.card
  placed : ∀ position robot, findRobot c position = some robot →
    ¬ isRobotPositionSwapping c position → robot.position = position
  flagged : ∀ position robot, findRobot c position = some robot →
    (robot.adaptivityIsPending = true ↔
      isRobotPositionSwapping c position ∨ reports.change position ≠ none)

/-- Between two handlers the registry is consistent, in every run in which no
handler is run for a robot that did not post it. -/
theorem registry_consistent (config : Config) (history : History Event Output) (c : Controller)
    (reports : Reports)
    (reached : (reportingMachine config).Reaches
      (fun state event => Lawful state.1 state.2 event ∧ NotStale state.1 state.2 event) history
      (c, reports))
    (idle : c.worker = .betweenHandlers) : Consistent c reports := by
  have registry : Registry c reports := reaches_registry reached
  have quiet : c.worker.isPlain = true := by rw [idle]; rfl
  obtain ⟨completing, told, tells, reconfigures, held⟩ := Worker.isPlain.nothing quiet
  constructor
  · exact registry.table.disjoint
  · rw [registry.counted, held, Nat.add_zero]
  · intro position robot found settled
    rcases registry.placed position robot found with here | moving | telling
    · exact here
    · rcases moving with ⟨member, _⟩ | first
      · exact absurd (isRobotPositionSwapping_iff.mpr
          ⟨_, member, involves_swapKey.mpr (.inl rfl)⟩) settled
      · exact absurd first (told position _)
    · exact absurd telling (tells position _)
  · intro position robot found
    rw [registry.flagged position robot found, isRobotPositionSwapping_iff]
    constructor
    · rintro ((⟨key, member, involved, _⟩ | ⟨target, first⟩) | ⟨changed, _⟩)
      · exact .inl ⟨key, member, involved⟩
      · exact absurd first (told position target)
      · exact .inr changed
    · rintro (⟨key, member, involved⟩ | changed)
      · exact .inl (.inl ⟨key, member, involved, completing key⟩)
      · exact .inr ⟨changed, reconfigures position⟩

/-- Robots a at 1 and b at 2 are registered and told to exchange positions, and
b has moved. -/
private def swapBegins : List Event :=
  [.registerRobot "opc.tcp://a" 1 {"cut"}, .runHandler, .robotInitialized true,
    .pendingCommitRead (some false), .registerRobot "opc.tcp://b" 2 {"cut"}, .runHandler,
    .robotInitialized true, .pendingCommitRead (some false),
    .positionChanged (.registered 1) 1, .positionChanged (.registered 2) 2,
    .chooseNextRobot ⟨1, 0, "opc.tcp://kitchen", "KitchenType"⟩, .runHandler,
    .receiverInitialized true, .swapRobotPositions 1 2, .availabilityRead (some true),
    .availabilityRead (some true), .positionSwitched (some true), .positionSwitched (some true),
    .nextRobotChosen none, .nextRobotReceived (some true), .positionChanged (.registered 2) 1]

theorem consistent_after_swap :
    ∃ history c reports, (reportingMachine deployment).Reaches
        (fun state event => Lawful state.1 state.2 event ∧ NotStale state.1 state.2 event) history
        (c, reports) ∧
      c.worker = .betweenHandlers ∧ endpointAt c 1 = "opc.tcp://b" ∧ Consistent c reports := by
  obtain ⟨history, ⟨c, reports⟩, reached, shown⟩ := Machine.exists_reaches_of_replay
    (reportingMachine deployment)
    (fun state event => Lawful state.1 state.2 event ∧ NotStale state.1 state.2 event)
    (show (reportingMachine deployment).start (initial, noReports) from ⟨rfl, rfl⟩)
    (swapBegins ++ [.positionChanged (.registered 1) 2, .runHandler, .runHandler,
      .newPositionCommitted (some true), .newPositionCommitted (some true)])
    (fun _ state => decide (state.1.worker = .betweenHandlers ∧
      endpointAt state.1 1 = "opc.tcp://b")) (by decide)
  obtain ⟨idle, moved⟩ := of_decide_eq_true shown
  exact ⟨history, c, reports, reached, idle, moved,
    registry_consistent deployment history c reports reached idle⟩

/-- Robot a reports its move and dies. Its partner completes the swap and is
told to go back before the handler of a runs, which acknowledges the new swap.
It is completed before b has moved, and b stays under the position it leaves. -/
theorem dead_robot_acknowledges_later_swap :
    ∃ history c reports, (reportingMachine deployment).Reaches
        (fun state event => Lawful state.1 state.2 event) history (c, reports) ∧
      c.worker = .betweenHandlers ∧ ¬ Consistent c reports := by
  obtain ⟨history, ⟨c, reports⟩, reached, shown⟩ := Machine.exists_reaches_of_replay
    (reportingMachine deployment) (fun state event => Lawful state.1 state.2 event)
    (show (reportingMachine deployment).start (initial, noReports) from ⟨rfl, rfl⟩)
    (swapBegins ++ [.chooseNextRobot ⟨1, 0, "opc.tcp://kitchen", "KitchenType"⟩,
      .positionChanged (.registered 1) 2, .robotStopped (.registered 1), .runHandler,
      .newPositionCommitted (some true), .runHandler, .swapRobotPositions 1 2,
      .availabilityRead (some true), .positionSwitched (some true), .nextRobotChosen none,
      .nextRobotReceived (some true), .runHandler, .newPositionCommitted (some false),
      .positionChanged (.registered 1) 2])
    (fun _ state => decide (state.1.worker = .betweenHandlers ∧
      ¬ isRobotPositionSwapping state.1 1 ∧
      (findRobot state.1 1).map RemoteRobot.position = some 2)) (by decide)
  obtain ⟨idle, settled, stands⟩ := of_decide_eq_true shown
  refine ⟨history, c, reports, reached, idle, ?_⟩
  intro consistent
  obtain ⟨robot, found, elsewhere⟩ := Option.map_eq_some_iff.mp stands
  have here := consistent.placed 1 robot found settled
  rw [elsewhere] at here
  cases here

end Consistency

end CpsKitchen.ControllerAgent
