import CpsKitchen.RobotAgent.Commits

/-!
# Where a rearrangement ends

`move_to_new_position` takes what stands in `new_target_position_`. The timer
that leads to it may be armed before the target is written there, but its
completion is posted after the handler that writes it. So the robot arrives
where the accepted call sent it, and stays on the belt.
-/

namespace CpsKitchen.RobotAgent

open CpsKitchen.Reactive CpsKitchen.Recipes

set_option autoImplicit false

variable {config : Config} {r after : Robot} {event : Event} {outputs : List Output}

/-- The positions that `switch_position` accepts, but for the robot's own. -/
def OnBelt (config : Config) (position : Position) : Prop :=
  0 < position ∧ position ≤ config.conveyorSize - 1

instance (config : Config) (position : Position) : Decidable (OnBelt config position) :=
  inferInstanceAs (Decidable (_ ∧ _))

/-- The robot is on the belt, and if it is heading for a position, then for
the one it was told last. -/
structure Aimed (config : Config) (targets : List Position) (r : Robot) : Prop
    extends OneDriver r where
  onBelt : OnBelt config r.position
  heading : ∃ phase, InPhase r phase ∧
    ∀ newPosition, phase = .heading newPosition → targets.getLast? = some newPosition

theorem Travels.aimed {phase next : Phase} {targets : List Position} (one : OneDriver after)
    (targeted : Targeted config targets r) (onBelt : OnBelt config r.position)
    (latest : ∀ newPosition, phase = .heading newPosition → targets.getLast? = some newPosition)
    (inPhase : InPhase after next) (travels : Travels r event after phase next) :
    Aimed config targets after := by
  cases travels with
  | stays phase position =>
      exact ⟨one, by rw [position]; exact onBelt, _, inPhase, latest⟩
  | moves newPosition position =>
      have member : newPosition ∈ targets := List.mem_of_getLast? (latest newPosition rfl)
      refine ⟨one, ?_, .arrived, inPhase, by simp⟩
      rw [position]
      exact targeted.onBelt newPosition member
  | settles position =>
      exact ⟨one, by rw [position]; exact onBelt, .settled, inPhase, by simp⟩

theorem acceptedTargets_own (own : event.isAdaptation = false) :
    acceptedTargets [(event, outputs)] = [] := by
  cases event with
  | switchPosition | commitNewPosition | reconfigure => contradiction
  | _ => rfl

theorem step_aimed {targets : List Position} (aimed : Aimed config targets r)
    (targeted : Targeted config targets r) (permitted : CommitsOnce r event)
    (taken : step config r event = some (after, outputs)) :
    Aimed config (targets ++ acceptedTargets [(event, outputs)]) after := by
  have reaction := (step_cases taken).2
  have one : OneDriver after := step_oneDriver aimed.toOneDriver permitted reaction
  obtain ⟨phase, inPhase, latest⟩ := aimed.heading
  by_cases own : event.isAdaptation = false
  · obtain ⟨next, later, travels⟩ := step_travels aimed.toOneDriver inPhase own reaction
    rw [acceptedTargets_own own, List.append_nil]
    exact travels.aimed one targeted aimed.onBelt latest later
  · cases reaction with
    | refused refusal =>
        have silent : acceptedTargets [(event, outputs)] = [] := by
          cases refusal <;> rfl
        rw [silent, List.append_nil]
        exact aimed
    | switchAccepted newPosition unlocked positive onBelt elsewhere available =>
        obtain ⟨_, position, heading⟩ :=
          switch_accepted aimed.toOneDriver available positive onBelt elsewhere taken
        refine ⟨one, by rw [position]; exact aimed.onBelt, _, heading, ?_⟩
        intro other same
        cases same
        exact List.getLast?_concat
    | commitAccepted unlocked rearranging pending =>
        have silent : acceptedTargets [(.commitNewPosition, [.result true])] = [] := rfl
        rw [silent, List.append_nil]
        have committing : InPhase (post r .handleNewPositionCommit) .committing :=
          ⟨rearranging, pending, List.mem_append_right _ (List.mem_singleton_self _)⟩
        exact ⟨one, aimed.onBelt, _, committing, by simp⟩
    | reconfigureAccepted profile capabilities unlocked parsed different available =>
        have silent : acceptedTargets [(.reconfigure profile true, [.result true])] = [] := rfl
        rw [silent, List.append_nil]
        refine ⟨one, aimed.onBelt, .settled, ?_, by simp⟩
        simp [InPhase, post, startAdaptation]
    | _ => exact absurd rfl own

theorem reaches_aimed {start : Robot} {history : History Event Output}
    (started : Started config start) (onBelt : OnBelt config start.position)
    (reached : ((machine config).resume start).Reaches CommitsOnce history r) :
    Aimed config (acceptedTargets history) r := by
  induction reached with
  | start first =>
      rw [first]
      refine ⟨initial_oneDriver started, onBelt, .settled, ?_, by simp⟩
      simp [InPhase, started_available started]
  | step earlier permitted taken aimed =>
      rw [acceptedTargets_append]
      exact step_aimed aimed (reaches_targeted (earlier.of_resume started)) permitted taken

theorem Aimed.target_of_due {targets : List Position} (aimed : Aimed config targets r)
    (due : r.posted.head? = some (.timerCompleted .moveToNewPosition)) :
    r.robotState = .rearranging ∧ .handleNewPositionCommit ∉ r.posted ∧
      targets.getLast? = some r.newTargetPosition := by
  obtain ⟨phase, inPhase, latest⟩ := aimed.heading
  obtain ⟨posted, next⟩ := List.head?_eq_some_iff.mp due
  have writes : writesPosition r (.runHandler "") = true := by simp [writesPosition, next]
  obtain ⟨later, _, travels⟩ : ∃ later, InPhase (moveToNewPosition (takeHandler r posted)) later ∧
      Travels r (.runHandler "") (moveToNewPosition (takeHandler r posted)) phase later :=
    move_travels aimed.toOneDriver inPhase next
  cases travels with
  | stays _ _ _ silent | settles _ _ silent =>
      rw [writes] at silent
      contradiction
  | moves newPosition position =>
      change r.newTargetPosition = newPosition at position
      obtain ⟨rearranging, uncommitted, _⟩ := inPhase
      refine ⟨rearranging, ?_, by rw [position]; exact latest newPosition rfl⟩
      intro posted
      rw [aimed.committing posted] at uncommitted
      contradiction

/-- A robot that is started on the belt stays there. When it moves, the last
adaptation it accepted is a switch, not yet committed, and the position it takes
is the one of that call. -/
theorem moves_to_accepted_target (config : Config) (start r : Robot)
    (history : History Event Output) (started : Started config start)
    (onBelt : OnBelt config start.position)
    (reached : ((machine config).resume start).Reaches CommitsOnce history r) :
    OnBelt config r.position ∧
    (r.posted.head? = some (.timerCompleted .moveToNewPosition) →
      (acceptedAdaptations history).getLast? = some .switched ∧
      (acceptedTargets history).getLast? = some r.newTargetPosition ∧
      OnBelt config r.newTargetPosition ∧
      ∀ capability after outputs, step config r (.runHandler capability) = some (after, outputs) →
        after.position = r.newTargetPosition) := by
  have aimed := reaches_aimed started onBelt reached
  refine ⟨aimed.onBelt, ?_⟩
  intro due
  obtain ⟨rearranging, uncommitted, latest⟩ := aimed.target_of_due due
  have run := reached.of_resume started
  refine ⟨(reaches_committed run).rearranging rearranging uncommitted, latest,
    (reaches_targeted run).onBelt _ (List.mem_of_getLast? latest), ?_⟩
  intro capability after outputs taken
  obtain ⟨posted, next⟩ := List.head?_eq_some_iff.mp due
  cases (step_cases taken).2 with
  | refused refusal => cases refusal
  | handled _ handler others idle first ran =>
      have same : handler = .timerCompleted .moveToNewPosition := by
        rw [next, List.cons.injEq] at first
        exact first.1.symm
      rw [same] at ran
      cases ran
      rfl

/-- The mixing robot is told to move while its worker is about to cook. The
timer is armed before the target is written, and the robot still gets there. -/
theorem cooking_robot_moves_to_target :
    ∃ history r, ((machine deployment).resume mixingRobot).Reaches CommitsOnce history r ∧
      r.posted.head? = some (.timerCompleted .moveToNewPosition) ∧
      acceptedTargets history = [2] ∧ r.newTargetPosition = 2 ∧ OnBelt deployment r.position := by
  obtain ⟨history, r, reached, shown⟩ := Machine.exists_reaches_of_replay
    ((machine deployment).resume mixingRobot) CommitsOnce (rfl : mixingRobot = mixingRobot)
    [.receiveTask ⟨3, 0, 1⟩ 3, .runHandler "whip", .switchPosition 2 true, .cookNextOrder,
     .timerExpires, .runHandler "whip"]
    (fun history r => decide (r.posted.head? = some (.timerCompleted .moveToNewPosition) ∧
      acceptedTargets history = [2])) (by decide)
  obtain ⟨due, targets⟩ := of_decide_eq_true shown
  obtain ⟨inside, moves⟩ := moves_to_accepted_target deployment mixingRobot r history
    mixingRobot_started (by decide) reached
  have latest := (moves due).2.1
  rw [targets] at latest
  exact ⟨history, r, reached, due, targets, (Option.some.inj latest).symm, inside⟩

end CpsKitchen.RobotAgent
