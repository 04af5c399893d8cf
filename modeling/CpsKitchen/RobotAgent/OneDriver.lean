import CpsKitchen.RobotAgent.DriverHandlers

/-!
# One thing at a time

There is at most one driver, and the flags say which. A robot with something to
do has one.
-/

namespace CpsKitchen.RobotAgent

open CpsKitchen.Reactive CpsKitchen.Recipes

set_option autoImplicit false

variable {config : Config} {r after : Robot} {event : Event} {outputs : List Output}

theorem Orderly.post (orderly : Orderly r) {handler : Handler} (notSwitch : ¬ IsSwitch handler)
    (notReconfigure : handler ≠ .reconfigure) (notAborted : handler ≠ .timerAborted)
    (commit : handler = .handleNewPositionCommit →
      r.attributes.newPositionCommitIsPending = true ∧ handler ∉ r.posted) :
    Orderly (post r handler) where
  notAborted := by
    simp only [RobotAgent.post, List.mem_append, List.mem_singleton, not_or]
    exact ⟨orderly.notAborted, notAborted.symm⟩
  availability := orderly.availability
  switching := by
    intro posted member isSwitch
    rcases List.mem_append.mp member with before | new
    · exact orderly.switching posted before isSwitch
    · rw [List.mem_singleton.mp new] at isSwitch
      exact absurd isSwitch notSwitch
  switchFirst := by
    refine List.pairwise_append.mpr ⟨orderly.switchFirst, List.pairwise_singleton _ _, ?_⟩
    intro earlier _ later new _
    rw [List.mem_singleton.mp new]
    exact notSwitch
  reconfigure := by
    intro member
    rcases List.mem_append.mp member with before | new
    · exact orderly.reconfigure before
    · exact absurd (List.mem_singleton.mp new).symm notReconfigure
  reconfigureFirst := by
    refine List.pairwise_append.mpr ⟨orderly.reconfigureFirst, List.pairwise_singleton _ _, ?_⟩
    intro earlier _ later new _
    rw [List.mem_singleton.mp new]
    exact notReconfigure
  committing := by
    intro member
    rcases List.mem_append.mp member with before | new
    · exact orderly.committing before
    · exact (commit (List.mem_singleton.mp new).symm).1
  committedOnce := by
    simp only [RobotAgent.post, List.count_append, List.count_singleton]
    have once := orderly.committedOnce
    by_cases commits : handler = .handleNewPositionCommit
    · have fresh := (commit commits).2
      rw [commits] at fresh
      rw [List.count_eq_zero.mpr fresh]
      simp [commits]
    · simpa [commits] using once

/-- Only an available robot, which is in no other adaptation, accepts one. -/
theorem startAdaptation_orderly (one : OneDriver r) (available : r.robotState = .available)
    {state : RobotState} {handler : Handler} (adapting : state ≠ .available)
    (switch : IsSwitch handler → state = .rearranging)
    (reconfigure : handler = .reconfigure → state = .reconfiguring)
    (other : handler ≠ .handleNewPositionCommit ∧ handler ≠ .timerAborted) :
    Orderly (post (startAdaptation r state) handler) := by
  have notMoving : ¬ Moving r := fun moving => by
    have flag := one.moving moving
    rw [one.not_rearranging (by simp [available])] at flag
    contradiction
  have notEquipping : ¬ TimerOutstanding r .completeReconfiguration := fun timer => by
    have flag := one.equipping timer
    rw [one.not_reconfiguring (by simp [available])] at flag
    contradiction
  have noCommit : r.attributes.newPositionCommitIsPending = false := by
    simpa using fun pending => notMoving (.inr pending)
  exact
    { notAborted := by
        simp only [post, List.mem_append, List.mem_singleton, not_or]
        exact ⟨one.notAborted, other.2.symm⟩
      availability := by simp [post, startAdaptation, adapting]
      switching := by
        intro posted member isSwitch
        rcases List.mem_append.mp member with before | new
        · have state := (one.switching posted before isSwitch).1
          rw [available] at state
          contradiction
        · rw [List.mem_singleton.mp new] at isSwitch
          exact ⟨switch isSwitch, noCommit⟩
      switchFirst := by
        refine List.pairwise_append.mpr ⟨one.switchFirst, List.pairwise_singleton _ _, ?_⟩
        intro earlier before later new moves
        rw [moves] at before
        exact absurd (.inl (.inr before)) notMoving
      reconfigure := by
        intro member
        rcases List.mem_append.mp member with before | new
        · have state := one.reconfigure before
          rw [available] at state
          contradiction
        · exact reconfigure (List.mem_singleton.mp new).symm
      reconfigureFirst := by
        refine List.pairwise_append.mpr ⟨one.reconfigureFirst, List.pairwise_singleton _ _, ?_⟩
        intro earlier before later new completes
        rw [completes] at before
        exact absurd (.inr before) notEquipping
      committing := by
        intro member
        rcases List.mem_append.mp member with before | new
        · exact one.committing before
        · exact absurd (List.mem_singleton.mp new).symm other.1
      committedOnce := by
        simp only [post, List.count_append, List.count_singleton]
        have once := one.committedOnce
        rw [if_neg (by simpa using other.1)]
        exact once }

theorem startAdaptation_oneDriver (one : OneDriver r) (available : r.robotState = .available)
    {state : RobotState} {handler : Handler} (plain : handler.drives = false)
    (orderly : Orderly (post (startAdaptation r state) handler)) :
    OneDriver (post (startAdaptation r state) handler) := by
  have notRearranging := one.not_rearranging (by simp [available])
  have notReconfiguring := one.not_reconfiguring (by simp [available])
  refine one.transport orderly ?_ (timerOutstanding_post (r := startAdaptation r state) plain) ?_
    rfl rfl ?_ rfl rfl rfl rfl rfl rfl rfl
  · have count : (post (startAdaptation r state) handler).posted.countP Handler.drives =
        r.posted.countP Handler.drives := by
      simp [post, startAdaptation, plain]
    unfold outstanding
    rw [count]
    exact le_rfl
  · have other : Handler.cookNextOrder ≠ handler := by
      rintro rfl
      simp [Handler.drives] at plain
    simp [post, startAdaptation, other]
  · simp [notRearranging, notReconfiguring]

theorem OneDriver.quiet_after_release (one : OneDriver r) (pending : r.pendingPickup = true) :
    Quiet (releaseDish r) := by
  rw [← outstanding_eq_zero]
  have single := one.single
  simp only [outstanding, pending, Bool.toNat_true] at single
  change r.steadyTimer.isSome.toNat + r.posted.countP Handler.drives + (isNotifying r).toNat +
    0 + r.attributes.newPositionCommitIsPending.toNat = 0
  omega

theorem handedOver_oneDriver (one : OneDriver r) (pending : r.pendingPickup = true) :
    OneDriver (post (releaseDish r) .cookNextOrder) := by
  have preparing := (one.inProcess (one.cooking (.inr (.inr (.inr pending))))).1
  have cooking := one.cooking (.inr (.inr (.inr pending)))
  have quiet := one.quiet_after_release pending
  have notRearranging : r.alreadyRearranging = false := by
    by_contra flag
    rcases (one.rearranging (by simpa using flag)).2 with moves | commit
    · exact quiet.no_timer _ moves
    · exact absurd (quiet.commit.symm.trans commit) (by simp)
  have outside : r.worker ≠ .cookNextOrder := fun entered => cooking (one.entering entered).1
  have unlocked := one.unlocked outside
  have notReconfiguring : r.alreadyReconfiguring = false := by
    by_contra flag
    rcases (one.reconfiguring (by simpa using flag)).2 with due | held
    · exact quiet.no_timer _ due
    · rw [unlocked] at held
      contradiction
  have noTimer : ∀ task, ¬ TimerOutstanding (post (releaseDish r) .cookNextOrder) task := by
    rintro task (armed | due)
    · exact quiet.no_timer task (.inl armed)
    · rcases List.mem_append.mp due with before | new
      · exact quiet.no_timer task (.inr before)
      · simp at new
  have released : Orderly (releaseDish r) := one.toOrderly.congr rfl rfl rfl rfl
  exact
    { toOrderly := released.post (by simp [IsSwitch]) (by simp) (by simp) (by simp)
      single := by
        have none := outstanding_eq_zero.mpr quiet
        simp only [outstanding, post, List.countP_append] at none ⊢
        change r.steadyTimer.isSome.toNat + (r.posted.countP Handler.drives + 1) +
          (isNotifying r).toNat + 0 + r.attributes.newPositionCommitIsPending.toNat ≤ 1
        change r.steadyTimer.isSome.toNat + r.posted.countP Handler.drives +
          (isNotifying r).toNat + 0 + r.attributes.newPositionCommitIsPending.toNat = 0 at none
        omega
      moving := by
        rintro (moves | commit)
        · exact absurd moves (noTimer _)
        · exact absurd (quiet.commit.symm.trans commit) (by simp)
      rearranging := by simp [post, releaseDish, notRearranging]
      equipping := fun due => absurd due (noTimer _)
      reconfiguring := by simp [post, releaseDish, notReconfiguring]
      cooking := by
        intro cooking
        apply absurd _ quiet.not_cooking
        exact cooking.before (fun task _ timer => absurd timer (noTimer task)) id id
      inProcess := fun cooking => absurd rfl cooking
      pickedUp := fun _ => ⟨preparing, rfl⟩
      entering := fun entered => absurd entered outside
      held := by simp [post, releaseDish, unlocked]
      busy := fun _ => .inr (.inl (by simp [post])) }

theorem expired_oneDriver (one : OneDriver r) {wait : Wait} (armed : r.steadyTimer = some wait) :
    OneDriver (post { r with steadyTimer := none } (.timerCompleted wait.task)) := by
  have disarmed : Orderly { r with steadyTimer := none } := one.toOrderly.congr rfl rfl rfl rfl
  refine one.transport (disarmed.post (by simp [IsSwitch]) (by simp) (by simp) (by simp)) ?_ ?_ ?_
    rfl rfl (fun _ => rfl) rfl rfl rfl rfl rfl rfl rfl
  · have drives : (Handler.timerCompleted wait.task).drives = true := rfl
    simp only [outstanding, post, List.countP_append, List.countP_singleton, drives, armed,
      if_true, Option.isSome_some, Option.isSome_none, Bool.toNat_true, Bool.toNat_false]
    change 0 + (r.posted.countP Handler.drives + 1) + (isNotifying r).toNat + _ + _ ≤ _
    omega
  · intro task
    simp only [TimerOutstanding, post, armed, List.mem_append, List.mem_singleton,
      Handler.timerCompleted.injEq, Option.map_none, Option.map_some, Option.some.injEq,
      reduceCtorEq, false_or]
    tauto
  · simp [post]

theorem notified_oneDriver (one : OneDriver r) (received : Bool)
    (looping : r.worker = .notifyingConveyor) :
    OneDriver
      { r with pendingPickup := true, worker := .betweenHandlers, running := received } where
  toOrderly := one.toOrderly.congr rfl rfl rfl rfl
  single := by
    have single := one.single
    have notifying : isNotifying r = true := by simp [isNotifying, looping]
    simp only [outstanding, notifying, Bool.toNat_true] at single
    change r.steadyTimer.isSome.toNat + r.posted.countP Handler.drives + 0 + 1 +
      r.attributes.newPositionCommitIsPending.toNat ≤ 1
    omega
  moving := one.moving
  rearranging := one.rearranging
  equipping := one.equipping
  reconfiguring := one.reconfiguring
  cooking := fun _ => one.cooking (.inr (.inr (.inl looping)))
  inProcess := by
    intro cooking
    exact ⟨(one.inProcess cooking).1, .inr (.inr (.inr rfl))⟩
  pickedUp := one.pickedUp
  entering := by simp
  held := by
    intro held
    have entered := (one.held held).1
    rw [looping] at entered
    contradiction
  busy := fun _ => .inl (one.cooking (.inr (.inr (.inl looping))))

theorem step_oneDriver (one : OneDriver r) (permitted : CommitsOnce r event)
    (step : Step config r event after outputs) : OneDriver after := by
  cases step with
  | refused => exact one
  | taskAccepted task =>
      exact one.post rfl (one.toOrderly.post (by simp [IsSwitch]) (by simp) (by simp) (by simp))
  | handedOver pending => exact handedOver_oneDriver one pending
  | switchAccepted newPosition unlocked positive onBelt elsewhere available =>
      exact startAdaptation_oneDriver one available rfl
        (startAdaptation_orderly one available (by simp) (fun _ => rfl) (by simp) (by simp))
  | commitAccepted unlocked rearranging pending =>
      exact one.post rfl
        (one.toOrderly.post (by simp [IsSwitch]) (by simp) (by simp)
          (fun _ => ⟨pending, permitted rfl⟩))
  | reconfigureAccepted profile capabilities unlocked parsed different available =>
      have requested : OneDriver { r with newCapabilitiesProfile := profile } :=
        one.transport (one.toOrderly.congr rfl rfl rfl rfl) le_rfl (fun _ => Iff.rfl) Iff.rfl
          rfl rfl (fun _ => rfl) rfl rfl rfl rfl rfl rfl rfl
      exact startAdaptation_oneDriver requested available rfl
        (startAdaptation_orderly requested available
          (by simp : RobotState.reconfiguring ≠ .available) (by simp [IsSwitch])
          (fun _ => rfl) (by simp))
  | handled capability handler posted idle next ran => exact handles_oneDriver one idle next ran
  | locked waiting unlocked ran => exact cooks_oneDriver one waiting unlocked ran
  | notified received looping => exact notified_oneDriver one received looping
  | expired wait armed => exact expired_oneDriver one armed
  | notifyFailed | conveyorLost | conveyorConnected | renotified =>
      exact one.transport (one.toOrderly.congr rfl rfl rfl rfl) le_rfl (fun _ => Iff.rfl) Iff.rfl
        rfl rfl (fun _ => rfl) rfl rfl rfl rfl rfl rfl rfl
  | renotifyFailed => exact one

def Keeps (r after : Robot) : Prop :=
  after.position = r.position ∧ after.capabilities = r.capabilities

theorem determineNextAction_keeps (r : Robot) : Keeps r (determineNextAction r) := by
  have outcome := determineNextAction_cases r
  generalize determineNextAction r = after at outcome
  cases outcome <;> exact ⟨rfl, rfl⟩

theorem handleSwitchPosition_keeps (r : Robot) : Keeps r (handleSwitchPosition config r) := by
  unfold handleSwitchPosition
  split <;> exact ⟨rfl, rfl⟩

theorem handleReconfiguration_keeps (r : Robot) : Keeps r (handleReconfiguration r) := by
  unfold handleReconfiguration
  split <;> exact ⟨rfl, rfl⟩

/-- Only two handlers move the robot or change its profile. -/
theorem handles_keeps {capability : String} {handler : Handler}
    (ran : Handles config r capability handler after outputs)
    (notMove : handler ≠ .timerCompleted .moveToNewPosition)
    (notComplete : handler ≠ .timerCompleted .completeReconfiguration) : Keeps r after := by
  cases ran with
  | rearranges newPosition => exact handleSwitchPosition_keeps (target r newPosition)
  | reconfigures => exact handleReconfiguration_keeps r
  | retooled action => exact determineNextAction_keeps (equip r action.requiredTool)
  | performed action rest => exact determineNextAction_keeps (countStep (countDown r) rest)
  | moved => contradiction
  | completed => contradiction
  | taskForgotten | taskQueued | entered | targeted | postponed | committed | ticked | aborted =>
      exact ⟨rfl, rfl⟩

theorem cooks_keeps (cooked : Cooks config r after) : Keeps r after := by
  cases cooked with
  | rearranges => exact handleSwitchPosition_keeps (passLock r)
  | reconfigures => exact handleReconfiguration_keeps (passLock r)
  | rests => exact ⟨rfl, rfl⟩
  | starts _ nextOrder rest recipe =>
      exact determineNextAction_keeps (startOrder (passLock r) nextOrder rest recipe)

/-- A robot moves and changes its profile only with empty hands. -/
theorem step_keeps_or_resting (one : OneDriver r) (step : Step config r event after outputs) :
    Keeps r after ∨ r.attributes.recipeId = 0 ∧ r.pendingPickup = false := by
  cases step with
  | handled capability handler posted idle next ran =>
      by_cases other : handler ≠ .timerCompleted .moveToNewPosition ∧
          handler ≠ .timerCompleted .completeReconfiguration
      · have kept := handles_keeps ran other.1 other.2
        exact .inl kept
      · have kind : handler = .timerCompleted .moveToNewPosition ∨
            handler = .timerCompleted .completeReconfiguration := by tauto
        have drives : handler.drives = true := by rcases kind with rfl | rfl <;> rfl
        have resting : r.attributes.recipeId = 0 := by
          rcases kind with rfl | rfl <;> exact one.resting_of_next next drives (by simp) (by simp)
        exact .inr ⟨resting, (one.quiet_after_take next drives).pickup⟩
  | locked waiting unlocked ran => exact .inl (cooks_keeps ran)
  | refused | taskAccepted | handedOver | switchAccepted | commitAccepted | reconfigureAccepted
  | notifyFailed | notified | expired | conveyorLost | conveyorConnected | renotified
  | renotifyFailed => exact .inl ⟨rfl, rfl⟩

/-- A timer, a posted handler, a pickup or a commit is still to come. -/
def Driven (r : Robot) : Prop :=
  r.steadyTimer.isSome = true ∨ (∃ handler ∈ r.posted, handler.drives = true) ∨
    r.pendingPickup = true ∨ r.attributes.newPositionCommitIsPending = true

theorem driven_of_timer {task : TimerTask} (timer : TimerOutstanding r task) : Driven r := by
  rcases timer with armed | due
  · refine .inl ?_
    cases wait : r.steadyTimer with
    | none => simp [wait] at armed
    | some wait => rfl
  · exact .inr (.inl ⟨_, due, rfl⟩)

theorem OneDriver.driven_of_queue (one : OneDriver r) (idle : r.worker = .betweenHandlers)
    (queue : r.orderQueue ≠ []) : Driven r := by
  rcases one.busy (.inr queue) with cooking | cook | entered | flag | flag
  · obtain ⟨_, timer | timer | notifying | pickup⟩ := one.inProcess cooking
    · exact driven_of_timer timer
    · exact driven_of_timer timer
    · rw [idle] at notifying
      contradiction
    · exact .inr (.inr (.inl pickup))
  · exact .inr (.inl ⟨_, cook, rfl⟩)
  · rw [idle] at entered
    contradiction
  · rcases (one.rearranging flag).2 with timer | commit
    · exact driven_of_timer timer
    · exact .inr (.inr (.inr commit))
  · rcases (one.reconfiguring flag).2 with timer | held
    · exact driven_of_timer timer
    · rw [one.unlocked (by simp [idle])] at held
      contradiction

def GoesOn (r : Robot) : Prop := Driven r ∨ r.worker ≠ .betweenHandlers

theorem armTimer_goesOn (r : Robot) (task : TimerTask) (delay : Nat) :
    GoesOn (armTimer r task delay) := .inl (.inl rfl)

theorem determineNextAction_goesOn (r : Robot) : GoesOn (determineNextAction r) := by
  have outcome := determineNextAction_cases r
  generalize determineNextAction r = after at outcome
  cases outcome with
  | finished | incapable => exact .inr (by simp [finishOrder])
  | retool | perform => exact armTimer_goesOn _ _ _

theorem Driven.take (driven : Driven r) {handler : Handler} {posted : List Handler}
    (next : r.posted = handler :: posted) (plain : handler.drives = false) :
    Driven (takeHandler r posted) := by
  rcases driven with timer | ⟨due, member, drives⟩ | pickup | commit
  · exact .inl timer
  · rw [next] at member
    rcases List.mem_cons.mp member with rfl | later
    · rw [plain] at drives
      contradiction
    · exact .inr (.inl ⟨due, later, drives⟩)
  · exact .inr (.inr (.inl pickup))
  · exact .inr (.inr (.inr commit))

theorem handles_goesOn (one : OneDriver r) (driven : Driven r) {capability : String}
    {handler : Handler} {posted : List Handler} (next : r.posted = handler :: posted)
    (ran : Handles config (takeHandler r posted) capability handler after outputs) :
    GoesOn after := by
  cases ran with
  | taskForgotten | taskQueued | targeted | postponed =>
      have taken := driven.take next rfl
      exact .inl taken
  | entered | committed => exact .inr (by simp [enterCookNextOrder, handleNewPositionCommit])
  | rearranges newPosition =>
      have taken := driven.take next rfl
      unfold handleSwitchPosition
      split
      · exact .inl taken
      · exact armTimer_goesOn _ _ _
  | reconfigures =>
      have taken := driven.take next rfl
      unfold handleReconfiguration
      split
      · exact .inl taken
      · exact armTimer_goesOn _ _ _
  | retooled | performed => exact determineNextAction_goesOn _
  | ticked => exact armTimer_goesOn _ _ _
  | moved => exact .inl (.inr (.inr (.inr rfl)))
  | completed ran =>
      obtain ⟨_, _, requeued, _, _, _, _, rfl⟩ := completeReconfiguration_cases ran
      split
      next locked => exact .inr (by simp [locked])
      · exact .inr (by simp [finishReconfiguration])
  | aborted => exact absurd (by simp [next]) one.notAborted

/-- Whatever drives the robot does so until `cook_next_order` has run. -/
theorem step_goesOn (one : OneDriver r) (goesOn : GoesOn r) (notCook : event ≠ .cookNextOrder)
    (step : Step config r event after outputs) : GoesOn after := by
  have posting : ∀ {before : Robot} {handler : Handler}, Driven before →
      Driven (post before handler) := by
    rintro before handler (timer | ⟨due, member, drives⟩ | others)
    · exact .inl timer
    · exact .inr (.inl ⟨due, List.mem_append_left _ member, drives⟩)
    · exact .inr (.inr others)
  cases step with
  | refused | renotifyFailed => exact goesOn
  | handedOver =>
      exact .inl (.inr (.inl ⟨_, List.mem_append_right _ (List.mem_singleton.mpr rfl), rfl⟩))
  | handled capability handler posted idle next ran =>
      rcases goesOn with driven | inside
      · exact handles_goesOn one driven next ran
      · exact absurd idle inside
  | locked => contradiction
  | notifyFailed looping => exact .inr (by simp [looping])
  | notified => exact .inl (.inr (.inr (.inl rfl)))
  | expired =>
      exact .inl (.inr (.inl ⟨_, List.mem_append_right _ (List.mem_singleton.mpr rfl), rfl⟩))
  | taskAccepted | switchAccepted | commitAccepted | reconfigureAccepted =>
      rcases goesOn with driven | inside
      · exact .inl (posting driven)
      · exact .inr inside
  | conveyorLost | conveyorConnected | renotified => exact goesOn

theorem reaches_oneDriver {history : History Event Output}
    (reached : (machine config).Reaches CommitsOnce history r) : OneDriver r :=
  reached.invariant (fun _ started => initial_oneDriver started)
    (fun _ _ _ _ one permitted taken => step_oneDriver one permitted (step_cases taken).2)

def Handler.isTimer : Handler → Bool
  | .timerCompleted _ => true
  | _ => false

def outstandingWaits (r : Robot) : Nat :=
  r.steadyTimer.isSome.toNat + r.posted.countP Handler.isTimer

theorem outstandingWaits_le (r : Robot) : outstandingWaits r ≤ outstanding r := by
  have fewer : r.posted.countP Handler.isTimer ≤ r.posted.countP Handler.drives := by
    refine List.countP_mono_left ?_
    intro handler _ timer
    cases handler <;> simp_all [Handler.isTimer, Handler.drives]
  simp only [outstandingWaits, outstanding]
  omega

/-- A robot that commits once does one thing at a time. No wait is outstanding
twice or aborted by arming the timer again. Position and profile change only
with empty hands. The published availability is the state's, a pending commit
belongs to a running rearrangement, and an order in the queue has something
outstanding that lasts until `cook_next_order` runs. -/
theorem one_thing_at_a_time (config : Config) (history : History Event Output) (r : Robot)
    (reached : (machine config).Reaches CommitsOnce history r) :
    outstandingWaits r ≤ 1 ∧ .timerAborted ∉ r.posted ∧
    (r.attributes.availability = true ↔ r.robotState = .available) ∧
    (r.attributes.newPositionCommitIsPending = true →
      r.robotState = .rearranging ∧ r.alreadyRearranging = true) ∧
    (r.worker = .betweenHandlers → r.orderQueue ≠ [] → Driven r) ∧
    ∀ event after outputs, CommitsOnce r event →
      step config r event = some (after, outputs) →
      (Keeps r after ∨ r.attributes.recipeId = 0 ∧ r.pendingPickup = false) ∧
      (GoesOn r → event ≠ .cookNextOrder → GoesOn after) := by
  have one := reaches_oneDriver reached
  refine ⟨(outstandingWaits_le r).trans one.single, one.notAborted, one.availability, ?_,
    one.driven_of_queue, ?_⟩
  · intro pending
    have flag := one.moving (.inr pending)
    exact ⟨(one.rearranging flag).1, flag⟩
  · intro event after outputs _ taken
    have reaction := (step_cases taken).2
    exact ⟨step_keeps_or_resting one reaction,
      fun goesOn notCook => step_goesOn one goesOn notCook reaction⟩

/-- The mixing robot is asked to move while it cooks and a second order waits.
It still moves only after the pickup. -/
theorem mixing_robot_does_one_thing_at_a_time :
    ∃ history r, (machine deployment).Reaches CommitsOnce history r ∧
      r.robotState = .rearranging ∧ r.orderQueue ≠ [] ∧ r.attributes.recipeId = 3 ∧
      outstandingWaits r ≤ 1 ∧ Driven r := by
  obtain ⟨history, r, reached, shown⟩ := Machine.exists_reaches_of_replay
    (machine deployment) CommitsOnce mixingRobot_started
    [.receiveTask ⟨3, 0, 1⟩ 3, .receiveTask ⟨3, 0, 2⟩ 3, .runHandler "whip", .cookNextOrder,
     .switchPosition 1 true, .runHandler "whip", .runHandler "whip", .timerExpires]
    (fun _ r => decide (r.robotState = .rearranging ∧ r.orderQueue ≠ [] ∧
      r.attributes.recipeId = 3 ∧ r.worker = .betweenHandlers)) (by decide)
  obtain ⟨rearranging, queue, cooking, idle⟩ := of_decide_eq_true shown
  obtain ⟨waits, _, _, _, driven, _⟩ := one_thing_at_a_time deployment history r reached
  exact ⟨history, r, reached, rearranging, queue, cooking, waits, driven idle queue⟩

end CpsKitchen.RobotAgent
