import CpsKitchen.Reactive.Termination
import CpsKitchen.RobotAgent.Chores

/-!
# The robot comes to rest

A robot that gets no new task and no new adaptation works off what it has, as
long as its dishes are picked up, its move is committed and the conveyor can be
reached. Every step of it takes something off its workload.
-/

namespace CpsKitchen.RobotAgent

open CpsKitchen.Reactive CpsKitchen.Recipes

set_option autoImplicit false

variable {config : Config} {r after : Robot} {event : Event} {outputs : List Output}

section Rest

theorem determineNextAction_running (r : Robot) :
    (determineNextAction r).running = r.running := by
  have outcome := determineNextAction_cases r
  generalize determineNextAction r = after at outcome
  cases outcome <;> rfl

theorem handleSwitchPosition_running (r : Robot) :
    (handleSwitchPosition config r).running = r.running := by
  unfold handleSwitchPosition
  split <;> rfl

theorem handles_running (steady : Steady config r) {capability : String} {handler : Handler}
    {posted : List Handler} (next : r.posted = handler :: posted)
    (ran : Handles config (takeHandler r posted) capability handler after outputs) :
    after.running = r.running := by
  cases ran with
  | taskForgotten | taskQueued | entered | targeted | committed | ticked | moved => rfl
  | rearranges newPosition => exact handleSwitchPosition_running _
  | postponed | reconfigures =>
      have reconfiguring := steady.one.reconfigure (by simp [next])
      exact absurd reconfiguring steady.state
  | retooled | performed => exact determineNextAction_running _
  | completed => exact absurd (by simp [next]) steady.no_completion
  | aborted => exact absurd (by simp [next]) steady.one.notAborted

theorem step_running (steady : Steady config r) (calm : event.isCalm = true)
    (step : Step config r event after outputs) : after.running = true := by
  have running := steady.running
  cases step with
  | refused | taskAccepted | handedOver | switchAccepted | commitAccepted | reconfigureAccepted
  | notifyFailed | expired | conveyorLost | conveyorConnected | renotifyFailed => exact running
  | handled capability handler posted idle next ran =>
      exact (handles_running steady next ran).trans running
  | locked waiting unlocked ran =>
      cases ran with
      | rearranges => exact (handleSwitchPosition_running _).trans running
      | reconfigures reconfiguring => exact absurd reconfiguring steady.state
      | rests => exact running
      | starts => exact (determineNextAction_running _).trans running
  | notified received | renotified received =>
      cases received with
      | true => rfl
      | false => contradiction

theorem step_steady (steady : Steady config r) (once : CommitsOnce r event)
    (calm : event.isCalm = true) (taken : step config r event = some (after, outputs)) :
    Steady config after := by
  have reaction := (step_cases taken).2
  exact
    { (step_sound steady.toSound once taken).1 with
      running := step_running steady calm reaction
      state := by
        intro reconfiguring
        obtain ⟨_, profile, rfl, _⟩ := step_reconfiguring reaction steady.state reconfiguring
        contradiction
      travels := step_travelsOn steady.travels reaction }

theorem step_settled (last : ActionsLast config) (settled : Settled config r)
    (alone : LeftAlone r event) (taken : step config r event = some (after, outputs)) :
    Settled config after := by
  have worked := (step_sound settled.toSound alone.commitsOnce taken).2
  have less := worked.timeToRest_le settled.readable settled.accounted settled.state
    (alone.accepts_nothing (step_cases taken).2)
  exact
    { step_steady settled.toSteady alone.commitsOnce alone.isCalm taken with
      accounted := worked.accounted last settled.readable settled.accounted
      fits := less.trans_lt settled.fits }

/-- What is left to do, a unit of time counts twice: the step that spends it
may arm the timer once more. -/
def workload (config : Config) (r : Robot) : Nat := 2 * (work r).timeToRest config + chores r

def metered (config : Config) : Machine (Robot × Nat) Event Output :=
  (machine config).observed 0 fun r event units => units + (spendsUnit r event).toNat

def AloneMetered (metered : Robot × Nat) (event : Event) : Prop := LeftAlone metered.1 event

instance (metered : Robot × Nat) (event : Event) : Decidable (AloneMetered metered event) :=
  inferInstanceAs (Decidable (LeftAlone metered.1 event))

def OnBudget (config : Config) (total : Nat) (metered : Robot × Nat) : Prop :=
  Settled config metered.1 ∧ metered.2 + (work metered.1).timeToRest config = total

theorem step_workload (settled : Settled config r) (settledAfter : Settled config after)
    (alone : LeftAlone r event) (taken : step config r event = some (after, outputs)) :
    (work after).timeToRest config + (spendsUnit r event).toNat = (work r).timeToRest config ∧
      workload config after < workload config r := by
  have time := step_timeToRest settled alone (step_cases taken).2 settledAfter.accounted
    settledAfter.fits
  have fewer := step_chores settled.toSteady alone taken
  refine ⟨time, ?_⟩
  unfold workload
  omega

theorem metered_descends (last : ActionsLast config) (total : Nat) :
    (metered config).Descends AloneMetered (OnBudget config total)
      (fun metered => workload config metered.1) := by
  rintro ⟨r, units⟩ event ⟨after, spent⟩ outputs ⟨settled, budget⟩ alone taken
  obtain ⟨taken, rfl⟩ := Machine.observed_step taken
  have settledAfter := step_settled last settled alone taken
  obtain ⟨time, less⟩ := step_workload settled settledAfter alone taken
  refine ⟨⟨settledAfter, ?_⟩, less⟩
  simp only at budget time
  change units + (spendsUnit r event).toNat + (work after).timeToRest config = total
  omega

/-- Nothing is in the robot's hands, queued, posted or armed. -/
@[mk_iff]
structure AtRest (r : Robot) : Prop where
  worker : r.worker = .betweenHandlers
  posted : r.posted = []
  steadyTimer : r.steadyTimer = none
  orderQueue : r.orderQueue = []
  recipeId : r.attributes.recipeId = 0
  preparingDish : r.preparingDish = false
  pendingPickup : r.pendingPickup = false
  robotState : r.robotState = .available

instance (r : Robot) : Decidable (AtRest r) := decidable_of_iff' _ (atRest_iff r)

theorem AtRest.timeToRest (resting : AtRest r) (accounted : (work r).Accounted) :
    (work r).timeToRest config = 0 := by
  have time : timeLeft r = none := accounted.resting resting.recipeId
  simp [Work.timeToRest, Work.remainingTime, Work.tasksPlan, Work.plan, Work.leftInProcess, work,
    postedTasks, resting.posted, resting.orderQueue, resting.recipeId, time, cookingTime]

theorem Settled.no_load (settled : Settled config r) (resting : AtRest r) :
    r.attributes.overallTime = 0 := by
  have total : (work r).timeToRest config = 0 := resting.timeToRest settled.accounted
  have published := published_timeToRest settled.accounted settled.fits
  omega

theorem AtRest.inside (resting : AtRest r) : (work r).inside = [] := by
  simp [Work.inside, Work.keyInProcess, work, postedTasks, resting.posted, resting.orderQueue,
    resting.recipeId]

theorem Steady.cookNextOrder_returns (steady : Steady config r) :
    cookNextOrder config r ≠ none := by
  unfold cookNextOrder
  have passed : (passLock r).robotState = r.robotState := rfl
  cases state : r.robotState with
  | rearranging => simp [passed, state]
  | reconfiguring => exact absurd state steady.state
  | available =>
      have queue : (passLock r).orderQueue = r.orderQueue := rfl
      cases front : r.orderQueue with
      | nil => simp [passed, state, queue, front]
      | cons nextOrder rest =>
          have member : nextOrder ∈ (work r).orderQueue := by simp [work, front]
          obtain ⟨recipe, known, _⟩ := steady.readable.orders nextOrder member
          simp [passed, state, queue, front, known]

theorem Steady.handle_returns (steady : Steady config r) (capability : String)
    {handler : Handler} {posted : List Handler} (next : r.posted = handler :: posted) :
    handle config (takeHandler r posted) capability handler ≠ none := by
  cases handler with
  | handleReceiveTask task =>
      have front : task ∈ (work r).tasks := by simp [work, postedTasks, next, Handler.task?]
      obtain ⟨recipe, known, remaining⟩ := steady.readable.tasks task front
      simp [handle, handleReceiveTask, known, Nat.not_lt.mpr remaining.le]
  | timerCompleted task =>
      cases task with
      | retool =>
          obtain ⟨action, rest, front, _⟩ := steady.handwork.retooling (.inr (by simp [next]))
          simp [handle, retool, takeHandler, front]
      | passTime =>
          obtain ⟨action, rest, front, _⟩ := steady.handwork.performing (.inr (by simp [next]))
          simp only [handle, passTime]
          split
          · simp
          · simp [actionPerformed, countDown, takeHandler, front]
      | moveToNewPosition => simp [handle]
      | completeReconfiguration => exact absurd (by simp [next]) steady.no_completion
  | cookNextOrder | switchPosition | reconfigure | handleNewPositionCommit | timerAborted =>
      simp [handle]

/-- No event that leaves the robot alone can happen any more. -/
def Exhausted (config : Config) (r : Robot) : Prop :=
  ∀ event, LeftAlone r event → step config r event = none

theorem exhausted_of_stuck {units : Nat}
    (stuck : (metered config).Stuck AloneMetered (r, units)) : Exhausted config r := by
  intro event alone
  have nothing := stuck event alone
  simpa [metered, Machine.observed, machine] using nothing

theorem Exhausted.worker (exhausted : Exhausted config r) (steady : Steady config r) :
    r.worker = .betweenHandlers := by
  cases worker : r.worker with
  | betweenHandlers => rfl
  | cookNextOrder =>
      have nothing := exhausted .cookNextOrder trivial
      simp only [step, steady.running, worker, steady.unlocked] at nothing
      simp [steady.cookNextOrder_returns] at nothing
  | notifyingConveyor =>
      cases client : r.conveyorClient with
      | true =>
          have nothing := exhausted (.notifyConveyor (some true)) rfl
          simp [step, steady.running, worker, client] at nothing
      | false =>
          have nothing := exhausted (.conveyorConnected (some true)) rfl
          simp only [step, steady.running, client] at nothing
          cases pending : r.pendingPickup <;> simp [pending] at nothing

theorem Exhausted.posted (exhausted : Exhausted config r) (steady : Steady config r) :
    r.posted = [] := by
  cases next : r.posted with
  | nil => rfl
  | cons handler posted =>
      have nothing := exhausted (.runHandler "") trivial
      simp only [step, steady.running, exhausted.worker steady, next] at nothing
      exact absurd nothing (steady.handle_returns "" next)

theorem Exhausted.steadyTimer (exhausted : Exhausted config r) (steady : Steady config r) :
    r.steadyTimer = none := by
  cases armed : r.steadyTimer with
  | none => rfl
  | some wait =>
      have nothing := exhausted .timerExpires trivial
      simp [step, steady.running, armed] at nothing

theorem Exhausted.pendingPickup (exhausted : Exhausted config r) (steady : Steady config r) :
    r.pendingPickup = false := by
  cases pending : r.pendingPickup with
  | false => rfl
  | true =>
      have nothing := exhausted .handoverFinishedOrder pending
      simp [step, steady.running] at nothing

theorem Exhausted.commit (exhausted : Exhausted config r) (steady : Steady config r) :
    r.attributes.newPositionCommitIsPending = false := by
  cases pending : r.attributes.newPositionCommitIsPending with
  | false => rfl
  | true =>
      have state := (steady.one.rearranging (steady.one.moving (.inr pending))).1
      have once : .handleNewPositionCommit ∉ r.posted := by simp [exhausted.posted steady]
      have nothing := exhausted .commitNewPosition ⟨state, pending, once⟩
      simp [step, steady.running, steady.unlocked] at nothing

theorem Exhausted.quiet (exhausted : Exhausted config r) (steady : Steady config r) :
    Quiet r where
  steadyTimer := exhausted.steadyTimer steady
  posted := by simp [exhausted.posted steady]
  worker := by simp [exhausted.worker steady]
  pickup := exhausted.pendingPickup steady
  commit := exhausted.commit steady

/-- A robot that is left alone and cannot go on has nothing left to do. -/
theorem Exhausted.atRest (exhausted : Exhausted config r) (steady : Steady config r) :
    AtRest r := by
  have quiet := exhausted.quiet steady
  have posted := exhausted.posted steady
  have idle := exhausted.worker steady
  have resting : r.attributes.recipeId = 0 := by
    by_contra cooking
    exact quiet.not_cooking (steady.one.inProcess cooking).2
  have notMoving : r.alreadyRearranging = false := by
    by_contra already
    rcases (steady.one.rearranging (by simpa using already)).2 with timer | pending
    · exact quiet.no_timer _ timer
    · exact absurd (quiet.commit.symm.trans pending) (by simp)
  have nothing : ¬ (r.preparingDish = true ∨ r.orderQueue ≠ []) := by
    intro busy
    rcases steady.one.busy busy with cooking | member | entering | flag | flag
    · exact cooking resting
    · rw [posted] at member
      exact absurd member (by simp)
    · rw [idle] at entering
      contradiction
    · rw [notMoving] at flag
      contradiction
    · rw [steady.notReconfiguring] at flag
      contradiction
  push Not at nothing
  have notPreparing : r.preparingDish = false := by simpa using nothing.1
  have available : r.robotState = .available := by
    cases state : r.robotState with
    | available => rfl
    | reconfiguring => exact absurd state steady.state
    | rearranging =>
        rcases steady.travels state with already | ⟨handler, member, _⟩ | preparing
        · rw [notMoving] at already
          contradiction
        · rw [posted] at member
          exact absurd member (by simp)
        · rw [notPreparing] at preparing
          contradiction
  exact ⟨idle, posted, quiet.steadyTimer, nothing.2, resting, notPreparing, quiet.pickup,
    available⟩

theorem Settled.inside_left_alone (settled : Settled config r) (alone : LeftAlone r event)
    (taken : step config r event = some (after, outputs)) :
    (work r).inside = outputs.filterMap Output.handedOver? ++ (work after).inside := by
  have worked := (step_sound settled.toSound alone.commitsOnce taken).2
  have books := worked.books settled.readable
    (fun reconfiguring => absurd reconfiguring settled.state)
  rw [alone.accepts_nothing (step_cases taken).2, List.map_nil, List.append_nil] at books
  exact books

theorem handed_over_left_alone (last : ActionsLast config) {total units : Nat}
    (initially : OnBudget config total (r, units)) {later : History Event Output}
    {final : Robot × Nat}
    (followed : ((metered config).resume (r, units)).Reaches AloneMetered later final) :
    OnBudget config total final ∧
      handedOverDishes later ++ (work final.1).inside = (work r).inside := by
  induction followed with
  | start initial =>
      cases initial
      exact ⟨initially, rfl⟩
  | @step later before after event outputs earlier permitted taken ih =>
      obtain ⟨onBudget, books⟩ := ih
      have taken : (metered config).step before event = some (after, outputs) := taken
      refine ⟨(metered_descends last total _ _ _ _ onBudget permitted taken).1, ?_⟩
      have inside := onBudget.1.inside_left_alone permitted (Machine.observed_step taken).1
      rw [inside] at books
      rw [← books, handedOverDishes, handedOverDishes, outputsOf_append, outputsOf_singleton,
        List.filterMap_append, List.append_assoc]

/-- A robot to which nothing new is given comes to rest, however its steps
interleave with those of the conveyor and the controller. By then it has handed
over all it had accepted, in order, and has spent the units of time that its
load announces. -/
theorem robot_comes_to_rest (config : Config) (history : History Event Output) (r : Robot)
    (last : ActionsLast config) (reached : (machine config).Reaches CommitsOnce history r)
    (running : r.running = true) (notReconfiguring : r.robotState ≠ .reconfiguring)
    (fits : (work r).timeToRest config < 2 ^ 32) :
    (∃ later final, ((metered config).resume (r, 0)).Reaches AloneMetered later final ∧
      (metered config).Stuck AloneMetered final) ∧
    (∀ later final, ((metered config).resume (r, 0)).Reaches AloneMetered later final →
      later.length ≤ workload config r ∧
      final.2 + (work final.1).timeToRest config = (work r).timeToRest config ∧
      ((metered config).Stuck AloneMetered final →
        AtRest final.1 ∧ final.1.attributes.overallTime = 0 ∧
          final.2 = (work r).timeToRest config ∧
          handedOverDishes later = (work r).inside)) ∧
    (postedTasks r = [] → (work r).timeToRest config = r.attributes.overallTime) := by
  have sound := reaches_sound (fun _ _ permitted => permitted) reached
  have accounted := reaches_accounted last reached
  have settled : Settled config r :=
    { sound with
      accounted := accounted
      fits := fits
      running := running
      state := notReconfiguring
      travels := reaches_travelsOn reached }
  have initially : OnBudget config ((work r).timeToRest config) (r, 0) :=
    ⟨settled, Nat.zero_add _⟩
  have descends := metered_descends last ((work r).timeToRest config)
  refine ⟨descends.exists_stuck initially, ?_, ?_⟩
  · rintro later ⟨rested, units⟩ followed
    obtain ⟨⟨settledLater, budget⟩, books⟩ := handed_over_left_alone last initially followed
    have bound := (descends.good_and_length initially followed).2
    refine ⟨le_trans (Nat.le_add_right _ _) bound, budget, ?_⟩
    intro stuck
    have resting := (exhausted_of_stuck stuck).atRest settledLater.toSteady
    have spent : units = (work r).timeToRest config := by
      rw [resting.timeToRest settledLater.accounted] at budget
      exact budget
    rw [resting.inside, List.append_nil] at books
    exact ⟨resting, settledLater.no_load resting, spent, books⟩
  · intro noTask
    have published := published_timeToRest accounted fits
    have noPlan : (work r).tasksPlan config = [] := by simp [Work.tasksPlan, work, noTask]
    rw [noPlan] at published
    exact published

/-- The mixing robot whips one dessert, has a second one queued and is told to
move. It hands both over 26 units later. -/
theorem mixing_robot_comes_to_rest :
    ∃ history r, (machine deployment).Reaches CommitsOnce history r ∧
      r.robotState = .rearranging ∧ r.attributes.overallTime = 26 ∧ postedTasks r = [] ∧
      (work r).inside = [(3, 1), (3, 2)] ∧
      (∃ later final, ((metered deployment).resume (r, 0)).Reaches AloneMetered later final ∧
        (metered deployment).Stuck AloneMetered final) ∧
      (∀ later final, ((metered deployment).resume (r, 0)).Reaches AloneMetered later final →
        later.length ≤ workload deployment r ∧
        final.2 + (work final.1).timeToRest deployment = (work r).timeToRest deployment ∧
        ((metered deployment).Stuck AloneMetered final →
          AtRest final.1 ∧ final.1.attributes.overallTime = 0 ∧
            final.2 = (work r).timeToRest deployment ∧
            handedOverDishes later = (work r).inside)) ∧
      (postedTasks r = [] → (work r).timeToRest deployment = r.attributes.overallTime) := by
  obtain ⟨history, r, reached, shown⟩ := Machine.exists_reaches_of_replay
    (machine deployment) CommitsOnce mixingRobot_started
    [.receiveTask ⟨3, 0, 1⟩ 3, .runHandler "whip", .cookNextOrder, .receiveTask ⟨3, 0, 2⟩ 3,
     .runHandler "whip", .timerExpires, .runHandler "whip", .switchPosition 1 true]
    (fun _ r => decide (r.running = true ∧ r.robotState = .rearranging ∧
      r.attributes.overallTime = 26 ∧ postedTasks r = [] ∧
      (work r).inside = [(3, 1), (3, 2)] ∧ (work r).timeToRest deployment < 2 ^ 32)) (by decide)
  obtain ⟨running, rearranging, load, noTask, inside, fits⟩ := of_decide_eq_true shown
  have rests := robot_comes_to_rest deployment history r deployment_actionsLast reached running
    (by simp [rearranging]) fits
  exact ⟨history, r, reached, rearranging, load, noTask, inside, rests⟩

end Rest

end CpsKitchen.RobotAgent
