import CpsKitchen.Ring
import CpsKitchen.RobotAgent.Travel

/-!
# How long a rearrangement travels

The target of an accepted `switch_position` waits in a posted handler until the
worker writes it to `new_target_position_`. What `handle_switch_position` arms
is the way to whatever stands there, and `cook_next_order` may call it first.
-/

namespace CpsKitchen.RobotAgent

open CpsKitchen.Reactive CpsKitchen.Recipes CpsKitchen.Ring

set_option autoImplicit false

variable {config : Config} {r after : Robot} {event : Event} {outputs : List Output}

section Delay

/-- The words that the source subtracts do not leave the ring. -/
theorem subWord_around {size first second : Nat} (insideFirst : first < size)
    (insideSecond : second < size) (small : 2 * size ≤ 2 ^ 32) :
    (subWord 32 second first + size) % 2 ^ 32 % size = (((second : Int) - first) % size).toNat := by
  rw [emod_sub insideFirst insideSecond, subWord]
  split
  next behind =>
    have word : second - first + size < 2 ^ 32 := by omega
    have inside : second - first < size := by omega
    rw [Nat.mod_eq_of_lt word, Nat.add_mod_right, Nat.mod_eq_of_lt inside]
  next ahead =>
    have wraps : second + 2 ^ 32 - first + size = second + size - first + 2 ^ 32 := by omega
    have word : second + size - first < 2 ^ 32 := by omega
    have inside : second + size - first < size := by omega
    rw [wraps, Nat.add_mod_right, Nat.mod_eq_of_lt word, Nat.mod_eq_of_lt inside]

theorem handleSwitchPosition_delay (resting : r.alreadyRearranging = false)
    (here : r.position < config.conveyorSize) (there : r.newTargetPosition < config.conveyorSize)
    (small : 2 * config.conveyorSize ≤ 2 ^ 32) :
    (handleSwitchPosition config r).steadyTimer =
      some ⟨.moveToNewPosition,
        distance config.conveyorSize r.position r.newTargetPosition * moveTime * timeUnit⟩ := by
  unfold handleSwitchPosition
  rw [if_neg (by simp [resting]), subWord_around here there small,
    subWord_around there here small]
  rfl

end Delay

section Targets

def acceptedTargets (history : History Event Output) : List Position :=
  history.filterMap fun
    | (.switchPosition newPosition _, [.result true]) => some newPosition
    | _ => none

/-- What a step does to the target of a rearrangement. -/
inductive Aims (config : Config) (r : Robot) (event : Event) (outputs : List Output)
    (after : Robot) : Prop where
  | accepted (newPosition : Position) (called : event = .switchPosition newPosition true)
      (replied : outputs = [.result true])
      (onBelt : 0 < newPosition ∧ newPosition ≤ config.conveyorSize - 1)
      (targets : postedTargets after = postedTargets r ++ [newPosition])
      (target : after.newTargetPosition = r.newTargetPosition)
  | written (newPosition : Position) (silent : acceptedTargets [(event, outputs)] = [])
      (targets : postedTargets r = newPosition :: postedTargets after)
      (target : after.newTargetPosition = newPosition)
      (robotState : after.robotState = r.robotState)
  | cleared (silent : acceptedTargets [(event, outputs)] = [])
      (targets : postedTargets after = postedTargets r) (target : after.newTargetPosition = 0)
      (robotState : after.robotState = r.robotState)
  | kept (silent : acceptedTargets [(event, outputs)] = [])
      (targets : postedTargets after = postedTargets r)
      (target : after.newTargetPosition = r.newTargetPosition)
      (robotState : after.robotState = .rearranging → r.robotState = .rearranging)

theorem SameTravel.aims (same : SameTravel r after)
    (silent : acceptedTargets [(event, outputs)] = []) : Aims config r event outputs after :=
  .kept silent same.targets same.target (fun rearranging => same.robotState.symm.trans rearranging)

theorem handles_aims {capability : String} {handler : Handler} {posted : List Handler}
    (next : r.posted = handler :: posted)
    (ran : Handles config (takeHandler r posted) capability handler after outputs) :
    Aims config r (.runHandler capability) outputs after := by
  have silent : acceptedTargets [(.runHandler capability, outputs)] = [] := rfl
  have targets : (∀ newPosition, handler ≠ .switchPosition newPosition) →
      postedTargets (takeHandler r posted) = postedTargets r := by
    intro other
    rw [postedTargets, postedTargets, next]
    cases handler with
    | switchPosition newPosition => exact absurd rfl (other newPosition)
    | _ => rfl
  have taken : handler.target? = none → handler ≠ .handleNewPositionCommit →
      SameTravel (takeHandler r posted) after → Aims config r (.runHandler capability) outputs
        after :=
    fun untargeted notCommit same => ((take_sameTravel next untargeted notCommit).trans same).aims
      silent
  cases ran with
  | taskForgotten | postponed => exact taken rfl (by simp) (sameTravel_refl _)
  | taskQueued | entered | aborted =>
      exact taken rfl (by simp) (sameTravel_of_posted rfl rfl rfl rfl rfl)
  | targeted newPosition =>
      refine .written newPosition silent ?_ rfl rfl
      rw [postedTargets, next]
      rfl
  | rearranges newPosition =>
      have same : SameTravel (target (takeHandler r posted) newPosition)
          (handleSwitchPosition config (target (takeHandler r posted) newPosition)) :=
        handleSwitchPosition_sameTravel _
      refine .written newPosition silent ?_ same.target same.robotState
      rw [postedTargets, next, same.targets]
      rfl
  | reconfigures => exact taken rfl (by simp) (handleReconfiguration_sameTravel _)
  | committed =>
      exact .kept silent (targets (by simp)) rfl (by simp [handleNewPositionCommit])
  | retooled action =>
      exact taken rfl (by simp)
        ((determineNextAction_sameTravel _).from_same rfl rfl rfl rfl rfl)
  | ticked =>
      exact taken rfl (by simp) ((armTimer_sameTravel _ _ _).from_same rfl rfl rfl rfl rfl)
  | performed action rest =>
      exact taken rfl (by simp)
        ((determineNextAction_sameTravel _).from_same rfl rfl rfl rfl rfl)
  | moved => exact .cleared silent (targets (by simp)) rfl rfl
  | completed completion =>
      obtain ⟨capabilities, action, requeued, _, _, _, loop, rfl⟩ :=
        completeReconfiguration_cases completion
      obtain ⟨_, _, _, _, _, rfl, _⟩ := recalculateOrderQueue_refills _ loop
      split
      · exact .kept silent (targets (by simp)) rfl (fun rearranging => rearranging)
      · exact .kept silent (targets (by simp)) rfl (by simp [finishReconfiguration])

theorem step_aims (step : Step config r event after outputs) :
    Aims config r event outputs after := by
  cases step with
  | refused refusal =>
      cases refusal <;> exact (sameTravel_refl r).aims rfl
  | taskAccepted => exact (post_sameTravel rfl (by simp)).aims rfl
  | handedOver =>
      have posted : SameTravel (releaseDish r) (post (releaseDish r) .cookNextOrder) :=
        post_sameTravel rfl (by simp)
      refine SameTravel.aims ?_ rfl
      exact posted.from_same rfl rfl rfl rfl rfl
  | switchAccepted newPosition unlocked positive onBelt =>
      refine .accepted newPosition rfl rfl ⟨positive, onBelt⟩ ?_ rfl
      simp [postedTargets, post, startAdaptation, Handler.target?]
  | commitAccepted =>
      refine .kept rfl ?_ rfl (fun rearranging => rearranging)
      simp [postedTargets, post, Handler.target?]
  | reconfigureAccepted =>
      refine .kept rfl ?_ rfl (by simp [post, startAdaptation])
      simp [postedTargets, post, startAdaptation, Handler.target?]
  | handled capability handler posted idle next ran => exact handles_aims next ran
  | locked waiting unlocked ran => exact (cooks_sameTravel ran).aims rfl
  | notifyFailed | notified | conveyorLost | conveyorConnected | renotifyFailed | renotified =>
      refine SameTravel.aims ?_ rfl
      exact sameTravel_of_posted rfl rfl rfl rfl rfl
  | expired wait armed =>
      have posted : SameTravel { r with steadyTimer := none }
          (post { r with steadyTimer := none } (.timerCompleted wait.task)) :=
        post_sameTravel rfl (by simp)
      refine SameTravel.aims ?_ rfl
      exact posted.from_same rfl rfl rfl rfl rfl

/-- The targets of the accepted calls and what the robot keeps of them. -/
structure Targeted (config : Config) (targets : List Position) (r : Robot) : Prop where
  waiting : postedTargets r <:+ targets
  written : postedTargets r = [] → r.newTargetPosition ≠ 0 →
    targets.getLast? = some r.newTargetPosition
  onBelt : ∀ newPosition ∈ targets, 0 < newPosition ∧ newPosition ≤ config.conveyorSize - 1
  inside : r.newTargetPosition ≤ config.conveyorSize - 1
  switched : r.robotState = .rearranging → targets ≠ []

theorem initial_targeted (started : Started config r) : Targeted config [] r := by
  obtain ⟨position, _, capabilities, _, action, _, _, _, rfl⟩ := started
  constructor <;> simp [initial, postedTargets]

theorem Aims.targeted {targets : List Position} (aims : Aims config r event outputs after)
    (targeted : Targeted config targets r) :
    Targeted config (targets ++ acceptedTargets [(event, outputs)]) after := by
  cases aims with
  | accepted newPosition called replied onBelt appended target =>
      have recorded : acceptedTargets [(event, outputs)] = [newPosition] := by
        rw [called, replied]
        rfl
      rw [recorded]
      refine ⟨?_, ?_, ?_, ?_, by simp⟩
      · obtain ⟨done, split⟩ := targeted.waiting
        exact ⟨done, by rw [appended, ← split, List.append_assoc]⟩
      · intro none
        rw [appended] at none
        simp at none
      · intro other member
        rcases List.mem_append.mp member with before | new
        · exact targeted.onBelt other before
        · rw [List.mem_singleton.mp new]
          exact onBelt
      · rw [target]
        exact targeted.inside
  | written newPosition silent taken target robotState =>
      rw [silent, List.append_nil]
      obtain ⟨done, split⟩ := targeted.waiting
      rw [taken] at split
      have member : newPosition ∈ targets := by
        rw [← split]
        simp
      refine ⟨⟨done ++ [newPosition], by rw [← split]; simp⟩, ?_, targeted.onBelt, ?_, ?_⟩
      · intro none _
        rw [target, ← split, none, List.getLast?_concat]
      · rw [target]
        exact (targeted.onBelt newPosition member).2
      · rw [robotState]
        exact targeted.switched
  | cleared silent targets target robotState =>
      rw [silent, List.append_nil]
      refine ⟨?_, ?_, targeted.onBelt, ?_, ?_⟩
      · rw [targets]
        exact targeted.waiting
      · intro _ notCleared
        exact absurd target notCleared
      · rw [target]
        exact Nat.zero_le _
      · rw [robotState]
        exact targeted.switched
  | kept silent targets target robotState =>
      rw [silent, List.append_nil]
      refine ⟨?_, ?_, targeted.onBelt, ?_, fun state => targeted.switched (robotState state)⟩
      · rw [targets]
        exact targeted.waiting
      · rw [targets, target]
        exact targeted.written
      · rw [target]
        exact targeted.inside

theorem acceptedTargets_append (history later : History Event Output) :
    acceptedTargets (history ++ later) = acceptedTargets history ++ acceptedTargets later :=
  List.filterMap_append

theorem reaches_targeted {allowed : Robot → Event → Prop} {history : History Event Output}
    (reached : (machine config).Reaches allowed history r) :
    Targeted config (acceptedTargets history) r := by
  induction reached with
  | start started => exact initial_targeted started
  | step _ _ taken targeted =>
      rw [acceptedTargets_append]
      exact (step_aims (step_cases taken).2).targeted targeted

theorem Targeted.lt {targets : List Position} (targeted : Targeted config targets r)
    {newPosition : Position} (member : newPosition ∈ targets) :
    newPosition < config.conveyorSize :=
  Nat.lt_of_le_of_lt (targeted.onBelt newPosition member).2
    (Nat.sub_lt config.conveyorSizePositive Nat.one_pos)

end Targets

section Arming

def StartsMoving (r after : Robot) : Prop :=
  r.alreadyRearranging = false ∧ after.alreadyRearranging = true

/-- The two places where the timer of a rearrangement is armed. -/
inductive Departs (config : Config) (r : Robot) : Event → Robot → Prop where
  | resting (capability : String) (newPosition : Position) (posted : List Handler)
      (next : r.posted = .switchPosition newPosition :: posted) :
      Departs config r (.runHandler capability)
        (handleSwitchPosition config (target (takeHandler r posted) newPosition))
  | cooking (rearranging : r.robotState = .rearranging) :
      Departs config r .cookNextOrder (handleSwitchPosition config (passLock r))

theorem determineNextAction_alreadyRearranging (r : Robot) :
    (determineNextAction r).alreadyRearranging = r.alreadyRearranging := by
  have outcome := determineNextAction_cases r
  generalize determineNextAction r = after at outcome
  cases outcome <;> rfl

theorem handleReconfiguration_alreadyRearranging (r : Robot) :
    (handleReconfiguration r).alreadyRearranging = r.alreadyRearranging := by
  unfold handleReconfiguration
  split <;> rfl

theorem step_departs (starts : StartsMoving r after) (step : Step config r event after outputs) :
    Departs config r event after := by
  obtain ⟨resting, moving⟩ := starts
  have unchanged : after.alreadyRearranging ≠ r.alreadyRearranging := by simp [resting, moving]
  cases step with
  | refused | taskAccepted | handedOver | switchAccepted | commitAccepted | reconfigureAccepted
  | notifyFailed | notified | expired | conveyorLost | conveyorConnected | renotifyFailed
  | renotified => exact absurd rfl unchanged
  | handled capability handler posted idle next ran =>
      cases ran with
      | taskForgotten | taskQueued | entered | targeted | postponed | ticked | moved | aborted =>
          exact absurd rfl unchanged
      | rearranges newPosition => exact .resting capability newPosition posted next
      | reconfigures => exact absurd (handleReconfiguration_alreadyRearranging _) unchanged
      | committed => exact absurd moving (by simp [handleNewPositionCommit])
      | retooled => exact absurd (determineNextAction_alreadyRearranging _) unchanged
      | performed => exact absurd (determineNextAction_alreadyRearranging _) unchanged
      | completed completion =>
          obtain ⟨capabilities, action, requeued, _, _, _, loop, rfl⟩ :=
            completeReconfiguration_cases completion
          obtain ⟨_, _, _, _, _, rfl, _⟩ := recalculateOrderQueue_refills _ loop
          refine absurd ?_ unchanged
          split <;> rfl
  | locked waiting unlocked ran =>
      cases ran with
      | rearranges rearranging => exact .cooking rearranging
      | reconfigures => exact absurd (handleReconfiguration_alreadyRearranging _) unchanged
      | rests => exact absurd rfl unchanged
      | starts => exact absurd (determineNextAction_alreadyRearranging _) unchanged

end Arming

section TravelTime

/-- The target that the rearrangement which starts was accepted for: the one in
the handler that runs, or else that of the last accepted call. -/
def rearrangementTarget (history : History Event Output) (r : Robot) :
    Event → Option Position
  | .cookNextOrder => (acceptedTargets history).getLast?
  | _ => (postedTargets r).head?

/-- The worker comes to `handle_switch_position` from the handler of the call
itself, or after that has run and `move_to_new_position` has not. -/
def TargetWritten (r : Robot) : Event → Prop
  | .cookNextOrder => postedTargets r = [] ∧ r.newTargetPosition ≠ 0
  | _ => True

instance (r : Robot) : (event : Event) → Decidable (TargetWritten r event)
  | .cookNextOrder => inferInstanceAs (Decidable (_ ∧ _))
  | .receiveTask _ _ | .handoverFinishedOrder | .switchPosition _ _ | .commitNewPosition
  | .reconfigure _ _ | .runHandler _ | .notifyConveyor _ | .timerExpires | .conveyorLost
  | .conveyorConnected _ => isTrue trivial

section Delay

variable {history : History Event Output}

/-- Once the target is written, a rearrangement is given the time for the
shortest way to it. -/
theorem written_target_travels (reached : (machine config).Reaches (fun _ _ => True) history r)
    (here : r.position < config.conveyorSize) (small : 2 * config.conveyorSize ≤ 2 ^ 32)
    (step : Step config r event after outputs) (starts : StartsMoving r after)
    (written : TargetWritten r event) :
    ∃ newPosition, rearrangementTarget history r event = some newPosition ∧
      newPosition < config.conveyorSize ∧
      after.steadyTimer = some ⟨.moveToNewPosition,
        distance config.conveyorSize r.position newPosition * moveTime * timeUnit⟩ := by
  have targeted := reaches_targeted reached
  cases step_departs starts step with
  | resting capability newPosition posted next =>
      have targets : postedTargets r = newPosition :: posted.filterMap Handler.target? := by
        rw [postedTargets, next]
        rfl
      obtain ⟨done, split⟩ := targeted.waiting
      have member : newPosition ∈ acceptedTargets history := by
        rw [← split, targets]
        simp
      have there := targeted.lt member
      refine ⟨newPosition, ?_, there, handleSwitchPosition_delay starts.1 here there small⟩
      simp only [rearrangementTarget, targets, List.head?_cons]
  | cooking rearranging =>
      have last := targeted.written written.1 written.2
      have there := targeted.lt (List.mem_of_getLast? last)
      exact ⟨_, last, there, handleSwitchPosition_delay starts.1 here there small⟩

/-- Before, it is given the time for the way to what stands in the target's
place. -/
theorem unwritten_target_travels (reached : (machine config).Reaches (fun _ _ => True) history r)
    (here : r.position < config.conveyorSize) (small : 2 * config.conveyorSize ≤ 2 ^ 32)
    (step : Step config r event after outputs) (starts : StartsMoving r after)
    (unwritten : ¬ TargetWritten r event) :
    ∃ newPosition, rearrangementTarget history r event = some newPosition ∧
      newPosition < config.conveyorSize ∧
      after.steadyTimer = some ⟨.moveToNewPosition,
        distance config.conveyorSize r.position r.newTargetPosition * moveTime * timeUnit⟩ := by
  have targeted := reaches_targeted reached
  cases step_departs starts step with
  | resting => exact absurd trivial unwritten
  | cooking rearranging =>
      obtain ⟨newPosition, last⟩ := Option.ne_none_iff_exists'.mp
        (mt List.getLast?_eq_none_iff.mp (targeted.switched rearranging))
      have there := targeted.lt (List.mem_of_getLast? last)
      have inside : r.newTargetPosition < config.conveyorSize :=
        Nat.lt_of_le_of_lt targeted.inside (Nat.sub_lt config.conveyorSizePositive Nat.one_pos)
      exact ⟨newPosition, last, there, handleSwitchPosition_delay starts.1 here inside small⟩

theorem delay_eq_iff {first second : Nat} :
    first * moveTime * timeUnit = second * moveTime * timeUnit ↔ first = second := by
  have factor : 0 < moveTime * timeUnit := by decide
  rw [Nat.mul_assoc, Nat.mul_assoc]
  exact Nat.mul_right_cancel_iff factor

end Delay

/-- A rearrangement is given the time for the shortest way to its target if and
only if the target was written before, or the position that stands in its place
is as far away. -/
theorem travel_time_iff_target_written (config : Config) (history : History Event Output)
    (r after : Robot) (event : Event) (outputs : List Output)
    (reached : (machine config).Reaches (fun _ _ => True) history r)
    (here : r.position < config.conveyorSize) (small : 2 * config.conveyorSize ≤ 2 ^ 32)
    (taken : step config r event = some (after, outputs)) (starts : StartsMoving r after) :
    ∃ newPosition delay, rearrangementTarget history r event = some newPosition ∧
      newPosition < config.conveyorSize ∧
      after.steadyTimer = some ⟨.moveToNewPosition, delay⟩ ∧
      (delay = distance config.conveyorSize r.position newPosition * moveTime * timeUnit ↔
        TargetWritten r event ∨
          distance config.conveyorSize r.position r.newTargetPosition =
            distance config.conveyorSize r.position newPosition) := by
  have taken := (step_cases taken).2
  by_cases written : TargetWritten r event
  · obtain ⟨newPosition, aimed, there, armed⟩ :=
      written_target_travels reached here small taken starts written
    exact ⟨newPosition, _, aimed, there, armed, fun _ => .inl written, fun _ => rfl⟩
  · obtain ⟨newPosition, aimed, there, armed⟩ :=
      unwritten_target_travels reached here small taken starts written
    refine ⟨newPosition, _, aimed, there, armed, delay_eq_iff.trans ?_⟩
    exact ⟨.inr, fun either => either.resolve_left written⟩

/-- The mixing robot is told to switch from position 3 to 2 while it rests. -/
theorem resting_robot_travels_to_target :
    ∃ history r after, (machine deployment).Reaches (fun _ _ => True) history r ∧
      step deployment r (.runHandler "whip") = some (after, []) ∧ StartsMoving r after ∧
      after.steadyTimer = some ⟨.moveToNewPosition,
        distance deployment.conveyorSize r.position 2 * moveTime * timeUnit⟩ := by
  obtain ⟨history, r, after, outputs, reached, taken, shown⟩ := Machine.exists_step_of_replay
    (machine deployment) (fun _ _ => True) mixingRobot_started [.switchPosition 2 true]
    (.runHandler "whip")
    (fun history r after outputs => decide (outputs = [] ∧ r.alreadyRearranging = false ∧
      after.alreadyRearranging = true ∧ r.position = 3 ∧
      rearrangementTarget history r (.runHandler "whip") = some 2)) (by decide)
  obtain ⟨rfl, resting, moving, here, aimed⟩ := of_decide_eq_true shown
  obtain ⟨newPosition, delay, targeted, _, armed, iff⟩ := travel_time_iff_target_written
    deployment history r after (.runHandler "whip") [] reached (by rw [here]; decide)
    (by decide) taken ⟨resting, moving⟩
  rw [aimed, Option.some.injEq] at targeted
  rw [iff.mpr (.inl trivial), ← targeted] at armed
  exact ⟨history, r, after, reached, taken, ⟨resting, moving⟩, armed⟩

/-- The worker is about to take a new order when the switch is accepted. It
finds the robot rearranging, and travels as far as to position 0. -/
theorem cooking_robot_travels_to_origin :
    ∃ history r after, (machine deployment).Reaches (fun _ _ => True) history r ∧
      step deployment r .cookNextOrder = some (after, []) ∧ StartsMoving r after ∧
      rearrangementTarget history r .cookNextOrder = some 2 ∧ r.position = 3 ∧
      after.steadyTimer = some ⟨.moveToNewPosition, 100⟩ ∧
      distance deployment.conveyorSize 3 2 * moveTime * timeUnit = 50 := by
  obtain ⟨history, r, after, outputs, reached, taken, shown⟩ := Machine.exists_step_of_replay
    (machine deployment) (fun _ _ => True) mixingRobot_started
    [.receiveTask ⟨3, 0, 1⟩ 3, .runHandler "whip", .switchPosition 2 true] .cookNextOrder
    (fun history r after outputs => decide (outputs = [] ∧ r.alreadyRearranging = false ∧
      after.alreadyRearranging = true ∧ rearrangementTarget history r .cookNextOrder = some 2 ∧
      r.position = 3 ∧ after.steadyTimer = some ⟨.moveToNewPosition, 100⟩)) (by decide)
  obtain ⟨rfl, resting, moving, aimed, here, armed⟩ := of_decide_eq_true shown
  exact ⟨history, r, after, reached, taken, ⟨resting, moving⟩, aimed, here, armed, by decide⟩

end TravelTime

end CpsKitchen.RobotAgent
