import CpsKitchen.RobotAgent.Drivers

/-!
# The handlers keep one driver

A handler that was the driver leaves the robot without one and arms the next,
the others leave the driver as it is.
-/

namespace CpsKitchen.RobotAgent

open CpsKitchen.Reactive CpsKitchen.Recipes

set_option autoImplicit false

variable {config : Config} {r after : Robot} {event : Event} {outputs : List Output}

theorem OneDriver.quiet_of_resting (one : OneDriver r) (resting : r.attributes.recipeId = 0)
    (noCook : .cookNextOrder ∉ r.posted) (notRearranging : r.alreadyRearranging = false)
    (notReconfiguring : r.alreadyReconfiguring = false) : Quiet r := by
  have notCooking : ¬ Cooking r := fun cooking => one.cooking cooking resting
  have notMoving : ¬ Moving r := fun moving => by
    have flag := one.moving moving
    rw [notRearranging] at flag
    contradiction
  have notEquipping : ¬ TimerOutstanding r .completeReconfiguration := fun timer => by
    have flag := one.equipping timer
    rw [notReconfiguring] at flag
    contradiction
  simp only [Cooking, Moving, not_or] at notCooking notMoving
  have noTimer : ∀ task, ¬ TimerOutstanding r task := by
    intro task
    cases task with
    | retool => exact notCooking.1
    | passTime => exact notCooking.2.1
    | moveToNewPosition => exact notMoving.1
    | completeReconfiguration => exact notEquipping
  exact
    { steadyTimer := by
        cases armed : r.steadyTimer with
        | none => rfl
        | some wait => exact absurd (.inl (by simp [armed])) (noTimer wait.task)
      posted := by
        intro handler member
        cases handler with
        | cookNextOrder => exact absurd member noCook
        | timerCompleted task => exact absurd (.inr member) (noTimer task)
        | _ => rfl
      worker := notCooking.2.2.1
      pickup := by simpa using notCooking.2.2.2
      commit := by simpa using notMoving.2 }

theorem OneDriver.not_rearranging (one : OneDriver r) (state : r.robotState ≠ .rearranging) :
    r.alreadyRearranging = false := by
  by_contra flag
  exact state (one.rearranging (by simpa using flag)).1

theorem OneDriver.not_reconfiguring (one : OneDriver r)
    (state : r.robotState ≠ .reconfiguring) : r.alreadyReconfiguring = false := by
  by_contra flag
  exact state (one.reconfiguring (by simpa using flag)).1

/-- A worker at the lock that finds no adaptation running decides alone. -/
theorem OneDriver.deciding_at_lock (one : OneDriver r) (waiting : r.worker = .cookNextOrder)
    (unlocked : r.stateMutexHeld = false) (notRearranging : r.alreadyRearranging = false)
    (notReconfiguring : r.alreadyReconfiguring = false) : Deciding (passLock r) := by
  obtain ⟨resting, noCook⟩ := one.entering waiting
  have quiet := one.quiet_of_resting resting noCook notRearranging notReconfiguring
  exact
    { toOrderly := one.toOrderly.congr rfl rfl rfl rfl
      steadyTimer := quiet.steadyTimer
      posted := quiet.posted
      worker := by simp [passLock]
      pickup := quiet.pickup
      commit := quiet.commit
      idle := rfl
      unlocked := unlocked
      notRearranging := notRearranging
      notReconfiguring := notReconfiguring }

/-- Where an adaptation already runs, `cook_next_order` only returns. -/
theorem OneDriver.passLock (one : OneDriver r) (waiting : r.worker = .cookNextOrder)
    (unlocked : r.stateMutexHeld = false)
    (adapting : r.alreadyRearranging = true ∨ r.alreadyReconfiguring = true) :
    OneDriver (passLock r) where
  toOrderly := one.toOrderly.congr rfl rfl rfl rfl
  single := by
    have single := one.single
    simp only [outstanding, RobotAgent.passLock, isNotifying, waiting] at single ⊢
    simpa using single
  moving := one.moving
  rearranging := one.rearranging
  equipping := one.equipping
  reconfiguring := one.reconfiguring
  cooking := fun cooking => one.cooking
    (cooking.before (fun _ _ => id) (by intro; contradiction) id)
  inProcess := fun cooking => absurd (one.entering waiting).1 cooking
  pickedUp := one.pickedUp
  entering := by simp [RobotAgent.passLock]
  held := by simp [RobotAgent.passLock, unlocked]
  busy := fun _ => .inr (.inr (.inr adapting))

theorem cooks_oneDriver (one : OneDriver r) (waiting : r.worker = .cookNextOrder)
    (unlocked : r.stateMutexHeld = false) (cooked : Cooks config r after) : OneDriver after := by
  have resting : (passLock r).attributes.recipeId = 0 := (one.entering waiting).1
  cases cooked with
  | rearranges rearranging =>
      have notReconfiguring := one.not_reconfiguring (by simp [rearranging])
      by_cases already : r.alreadyRearranging = true
      · have same : handleSwitchPosition config (passLock r) = passLock r := if_pos already
        rw [same]
        exact one.passLock waiting unlocked (.inl already)
      · exact handleSwitchPosition_oneDriver
          (one.deciding_at_lock waiting unlocked (by simpa using already) notReconfiguring)
          rearranging resting
  | reconfigures reconfiguring =>
      have notRearranging := one.not_rearranging (by simp [reconfiguring])
      by_cases already : r.alreadyReconfiguring = true
      · have same : handleReconfiguration (passLock r) = passLock r := if_pos already
        rw [same]
        exact one.passLock waiting unlocked (.inr already)
      · exact handleReconfiguration_oneDriver
          (one.deciding_at_lock waiting unlocked notRearranging (by simpa using already))
          reconfiguring resting
  | rests available empty =>
      have deciding := one.deciding_at_lock waiting unlocked
        (one.not_rearranging (by simp [available])) (one.not_reconfiguring (by simp [available]))
      refine Deciding.rests ?_ resting rfl empty
      exact deciding.congr rfl rfl rfl rfl rfl rfl rfl rfl rfl rfl
  | starts available nextOrder rest recipe front known =>
      have deciding := one.deciding_at_lock waiting unlocked
        (one.not_rearranging (by simp [available])) (one.not_reconfiguring (by simp [available]))
      refine determineNextAction_oneDriver ?_ (config.recipeParser.id_ne_zero known) rfl
      exact deciding.congr rfl rfl rfl rfl rfl rfl rfl rfl rfl rfl

theorem OneDriver.transport (one : OneDriver r) (orderly : Orderly after)
    (fewer : outstanding after ≤ outstanding r)
    (timers : ∀ task, TimerOutstanding after task ↔ TimerOutstanding r task)
    (cook : .cookNextOrder ∈ after.posted ↔ .cookNextOrder ∈ r.posted)
    (worker : after.worker = r.worker) (pickup : after.pendingPickup = r.pendingPickup)
    (robotState : r.alreadyRearranging = true ∨ r.alreadyReconfiguring = true →
      after.robotState = r.robotState)
    (commit : after.attributes.newPositionCommitIsPending =
      r.attributes.newPositionCommitIsPending)
    (held : after.stateMutexHeld = r.stateMutexHeld)
    (rearranging : after.alreadyRearranging = r.alreadyRearranging)
    (reconfiguring : after.alreadyReconfiguring = r.alreadyReconfiguring)
    (recipeId : after.attributes.recipeId = r.attributes.recipeId)
    (preparing : after.preparingDish = r.preparingDish)
    (queue : after.orderQueue = r.orderQueue) : OneDriver after where
  toOrderly := orderly
  single := fewer.trans one.single
  moving := by
    simp only [Moving, timers, commit, rearranging]
    exact one.moving
  rearranging := by
    simp only [Moving, timers, commit, rearranging]
    intro flag
    rw [robotState (.inl flag)]
    exact one.rearranging flag
  equipping := by
    rw [timers, reconfiguring]
    exact one.equipping
  reconfiguring := by
    rw [timers, reconfiguring, held]
    intro flag
    rw [robotState (.inr flag)]
    exact one.reconfiguring flag
  cooking := by
    simp only [Cooking, timers, worker, pickup, recipeId]
    exact one.cooking
  inProcess := by
    simp only [Cooking, timers, worker, pickup, recipeId, preparing]
    exact one.inProcess
  pickedUp := by
    rw [cook, preparing, recipeId]
    exact one.pickedUp
  entering := by
    rw [cook, worker, recipeId]
    exact one.entering
  held := by
    rw [held, worker, reconfiguring]
    exact one.held
  busy := by
    rw [cook, worker, recipeId, preparing, queue, rearranging, reconfiguring]
    exact one.busy

theorem OneDriver.resting_of_not_preparing (one : OneDriver r)
    (notPreparing : ¬ r.preparingDish = true) : r.attributes.recipeId = 0 := by
  by_contra cooking
  exact notPreparing (one.inProcess cooking).1

theorem timerOutstanding_take {handler : Handler} {posted : List Handler}
    (next : r.posted = handler :: posted) (plain : handler.drives = false) (task : TimerTask) :
    TimerOutstanding (takeHandler r posted) task ↔ TimerOutstanding r task := by
  have other : Handler.timerCompleted task ≠ handler := by
    rintro rfl
    simp [Handler.drives] at plain
  simp [TimerOutstanding, takeHandler, next, other]

theorem OneDriver.take (one : OneDriver r) {handler : Handler} {posted : List Handler}
    (next : r.posted = handler :: posted) (plain : handler.drives = false) :
    OneDriver (takeHandler r posted) := by
  refine one.transport (one.toOrderly.take next) ?_ ?_ ?_ rfl rfl (fun _ => rfl) rfl rfl rfl rfl
    rfl rfl rfl
  · have count : r.posted.countP Handler.drives = posted.countP Handler.drives := by
      simp [next, plain]
    unfold outstanding
    rw [count]
    exact le_rfl
  · exact timerOutstanding_take next plain
  · have other : Handler.cookNextOrder ≠ handler := by
      rintro rfl
      simp [Handler.drives] at plain
    simp [takeHandler, next, other]

theorem timerOutstanding_post {handler : Handler} (plain : handler.drives = false)
    (task : TimerTask) : TimerOutstanding (post r handler) task ↔ TimerOutstanding r task := by
  have other : Handler.timerCompleted task ≠ handler := by
    rintro rfl
    simp [Handler.drives] at plain
  simp [TimerOutstanding, post, other]

theorem OneDriver.post (one : OneDriver r) {handler : Handler} (plain : handler.drives = false)
    (orderly : Orderly (post r handler)) : OneDriver (post r handler) := by
  refine one.transport orderly ?_ (timerOutstanding_post plain) ?_ rfl rfl (fun _ => rfl) rfl rfl
    rfl rfl rfl rfl rfl
  · have count : (RobotAgent.post r handler).posted.countP Handler.drives =
        r.posted.countP Handler.drives := by
      simp [RobotAgent.post, plain]
    unfold outstanding
    rw [count]
    exact le_rfl
  · have other : Handler.cookNextOrder ≠ handler := by
      rintro rfl
      simp [Handler.drives] at plain
    simp [RobotAgent.post, other]

/-- A driver that comes due is the only one. -/
theorem OneDriver.timer_of_next (one : OneDriver r) {handler : Handler} {posted : List Handler}
    (next : r.posted = handler :: posted) (drives : handler.drives = true) {task : TimerTask}
    (timer : TimerOutstanding r task) : handler = .timerCompleted task := by
  have quiet := one.quiet_after_take next drives
  rcases timer with armed | due
  · have none : r.steadyTimer = none := quiet.steadyTimer
    simp [none] at armed
  · rw [next] at due
    rcases List.mem_cons.mp due with same | later
    · exact same.symm
    · exact absurd (.inr later) (quiet.no_timer task)

theorem OneDriver.resting_of_next (one : OneDriver r) {handler : Handler}
    {posted : List Handler} (next : r.posted = handler :: posted)
    (drives : handler.drives = true) (notRetool : handler ≠ .timerCompleted .retool)
    (notPassTime : handler ≠ .timerCompleted .passTime) : r.attributes.recipeId = 0 := by
  have quiet := one.quiet_after_take next drives
  by_contra cooking
  obtain ⟨_, timer | timer | notifying | pickup⟩ := one.inProcess cooking
  · exact notRetool (one.timer_of_next next drives timer)
  · exact notPassTime (one.timer_of_next next drives timer)
  · exact quiet.worker notifying
  · have none : r.pendingPickup = false := quiet.pickup
    rw [none] at pickup
    contradiction

theorem OneDriver.unlocked (one : OneDriver r) (idle : r.worker ≠ .cookNextOrder) :
    r.stateMutexHeld = false := by
  by_contra held
  exact idle (one.held (by simpa using held)).1

theorem OneDriver.deciding_of_resting (one : OneDriver r) (idle : r.worker = .betweenHandlers)
    (notPreparing : ¬ r.preparingDish = true) (notRearranging : r.alreadyRearranging = false)
    (notReconfiguring : r.alreadyReconfiguring = false) : Deciding r where
  toOrderly := one.toOrderly
  toQuiet := one.quiet_of_resting (one.resting_of_not_preparing notPreparing)
    (fun member => notPreparing (one.pickedUp member).1) notRearranging notReconfiguring
  idle := idle
  unlocked := one.unlocked (by simp [idle])
  notRearranging := notRearranging
  notReconfiguring := notReconfiguring

/-- A timer or a pickup that comes due while the robot works on a dish leaves
the worker alone with it. -/
theorem OneDriver.deciding_after_take (one : OneDriver r) (idle : r.worker = .betweenHandlers)
    {handler : Handler} {posted : List Handler} (next : r.posted = handler :: posted)
    (drives : handler.drives = true) (notMove : handler ≠ .timerCompleted .moveToNewPosition)
    (notComplete : handler ≠ .timerCompleted .completeReconfiguration) :
    Deciding (takeHandler r posted) := by
  have quiet := one.quiet_after_take next drives
  have unlocked := one.unlocked (by simp [idle])
  exact
    { toOrderly := one.toOrderly.take next
      toQuiet := quiet
      idle := idle
      unlocked := unlocked
      notRearranging := by
        by_contra flag
        rcases (one.rearranging (by simpa [takeHandler] using flag)).2 with moves | commit
        · exact notMove (one.timer_of_next next drives moves)
        · have none : r.attributes.newPositionCommitIsPending = false := quiet.commit
          rw [none] at commit
          contradiction
      notReconfiguring := by
        by_contra flag
        rcases (one.reconfiguring (by simpa [takeHandler] using flag)).2 with due | held
        · exact notComplete (one.timer_of_next next drives due)
        · rw [unlocked] at held
          contradiction }

theorem queueOrder_oneDriver {task : Task} {recipe : Recipe} (one : OneDriver r)
    (idle : r.worker = .betweenHandlers) : OneDriver (queueOrder r task recipe) := by
  by_cases preparing : r.preparingDish = true
  · have stays : (queueOrder r task recipe).worker = r.worker := if_pos preparing
    exact
      { toOrderly := one.toOrderly.congr rfl rfl rfl rfl
        single := by
          have same : outstanding (queueOrder r task recipe) = outstanding r := by
            simp only [outstanding, isNotifying, stays]
            rfl
          exact same.le.trans one.single
        moving := one.moving
        rearranging := one.rearranging
        equipping := one.equipping
        reconfiguring := one.reconfiguring
        cooking := fun cooking => one.cooking (cooking.before (fun _ _ => id) stays.symm.trans id)
        inProcess := by
          intro cooking
          obtain ⟨_, timer | timer | notifying | pickup⟩ := one.inProcess cooking
          · exact ⟨preparing, .inl timer⟩
          · exact ⟨preparing, .inr (.inl timer)⟩
          · exact ⟨preparing, .inr (.inr (.inl (stays.trans notifying)))⟩
          · exact ⟨preparing, .inr (.inr (.inr pickup))⟩
        pickedUp := one.pickedUp
        entering := by simp [stays, idle]
        held := by
          intro held
          have entered := (one.held held).1
          rw [idle] at entered
          contradiction
        busy := by
          intro _
          rcases one.busy (.inl preparing) with cooking | cook | entered | flags
          · exact .inl cooking
          · exact .inr (.inl cook)
          · rw [idle] at entered
            contradiction
          · exact .inr (.inr (.inr flags)) }
  · have enters : (queueOrder r task recipe).worker = .cookNextOrder := if_neg preparing
    have resting : r.attributes.recipeId = 0 := by
      by_contra cooking
      exact preparing (one.inProcess cooking).1
    have noCook : .cookNextOrder ∉ r.posted := fun member => preparing (one.pickedUp member).1
    have notNotifying : (queueOrder r task recipe).worker = .notifyingConveyor →
        r.worker = .notifyingConveyor := by
      intro notifying
      rw [enters] at notifying
      contradiction
    exact
      { toOrderly := one.toOrderly.congr rfl rfl rfl rfl
        single := by
          have same : outstanding (queueOrder r task recipe) = outstanding r := by
            simp only [outstanding, isNotifying, enters, idle]
            rfl
          exact same.le.trans one.single
        moving := one.moving
        rearranging := one.rearranging
        equipping := one.equipping
        reconfiguring := one.reconfiguring
        cooking := fun cooking => one.cooking (cooking.before (fun _ _ => id) notNotifying id)
        inProcess := fun cooking => absurd resting cooking
        pickedUp := fun member => absurd member noCook
        entering := fun _ => ⟨resting, noCook⟩
        held := by
          intro held
          exact ⟨enters, (one.held held).2⟩
        busy := fun _ => .inr (.inr (.inl enters)) }

theorem moveToNewPosition_oneDriver (one : OneDriver r) {posted : List Handler}
    (idle : r.worker = .betweenHandlers)
    (next : r.posted = .timerCompleted .moveToNewPosition :: posted) :
    OneDriver (moveToNewPosition (takeHandler r posted)) := by
  have quiet := one.quiet_after_take next rfl
  have taken := one.toOrderly.take next
  have flag : r.alreadyRearranging = true := one.moving (.inl (.inr (by simp [next])))
  have state : r.robotState = .rearranging := (one.rearranging flag).1
  have notReconfiguring := one.not_reconfiguring (by simp [state])
  have resting := one.resting_of_next next rfl (by simp) (by simp)
  have noTimer : ∀ task, ¬ TimerOutstanding (moveToNewPosition (takeHandler r posted)) task :=
    quiet.no_timer
  have noSwitch : ∀ handler ∈ posted, ¬ IsSwitch handler := by
    have ordered := one.switchFirst
    rw [next] at ordered
    exact fun handler member => (List.pairwise_cons.mp ordered).1 handler member rfl
  exact
    { notAborted := taken.notAborted
      availability := taken.availability
      switching := fun handler member switch => absurd switch (noSwitch handler member)
      switchFirst := taken.switchFirst
      reconfigure := taken.reconfigure
      reconfigureFirst := taken.reconfigureFirst
      committing := fun _ => rfl
      committedOnce := taken.committedOnce
      single := by
        have none := outstanding_eq_zero.mpr quiet
        change r.steadyTimer.isSome.toNat + posted.countP Handler.drives + (isNotifying r).toNat +
          r.pendingPickup.toNat + r.attributes.newPositionCommitIsPending.toNat = 0 at none
        change r.steadyTimer.isSome.toNat + posted.countP Handler.drives + (isNotifying r).toNat +
          r.pendingPickup.toNat + 1 ≤ 1
        omega
      moving := fun _ => flag
      rearranging := fun _ => ⟨state, .inr rfl⟩
      equipping := fun timer => absurd timer (noTimer _)
      reconfiguring := by simp [moveToNewPosition, takeHandler, notReconfiguring]
      cooking := by
        intro cooking
        apply absurd _ quiet.not_cooking
        exact cooking.before (fun task _ timer => absurd timer (noTimer task)) id id
      inProcess := fun cooking => absurd resting cooking
      pickedUp := fun member => absurd member quiet.no_cook
      entering := by simp [moveToNewPosition, takeHandler, idle]
      held := by
        intro held
        have entered := (one.held held).1
        rw [idle] at entered
        contradiction
      busy := fun _ => .inr (.inr (.inr (.inl flag))) }

/-- The robot as it would stand without its pending commit. -/
theorem OneDriver.quiet_but_commit (one : OneDriver r)
    (pending : r.attributes.newPositionCommitIsPending = true)
    (cleared : after.attributes.newPositionCommitIsPending = false)
    (posted : ∀ handler ∈ after.posted, handler ∈ r.posted)
    (steadyTimer : after.steadyTimer = r.steadyTimer)
    (worker : after.worker ≠ .notifyingConveyor)
    (pickup : after.pendingPickup = r.pendingPickup) : Quiet after := by
  have single := one.single
  have others : r.steadyTimer.isSome.toNat + r.posted.countP Handler.drives +
      (isNotifying r).toNat + r.pendingPickup.toNat = 0 := by
    simp only [outstanding, pending, Bool.toNat_true] at single
    omega
  simp only [Nat.add_eq_zero_iff, List.countP_eq_zero] at others
  obtain ⟨⟨⟨timer, plain⟩, _⟩, noPickup⟩ := others
  exact
    { steadyTimer := by
        rw [steadyTimer]
        cases armed : r.steadyTimer with
        | none => rfl
        | some wait => simp [armed] at timer
      posted := fun handler member => by simpa using plain handler (posted handler member)
      worker := worker
      pickup := by
        rw [pickup]
        cases waiting : r.pendingPickup with
        | false => rfl
        | true => simp [waiting] at noPickup
      commit := cleared }

theorem OneDriver.resting_of_commit (one : OneDriver r)
    (pending : r.attributes.newPositionCommitIsPending = true) : r.attributes.recipeId = 0 := by
  have quiet : Quiet
      { r with
        worker := .betweenHandlers
        attributes := { r.attributes with newPositionCommitIsPending := false } } :=
    one.quiet_but_commit pending rfl (fun _ member => member) rfl (by simp) rfl
  by_contra cooking
  obtain ⟨_, timer | timer | notifying | pickup⟩ := one.inProcess cooking
  · exact quiet.no_timer _ timer
  · exact quiet.no_timer _ timer
  · have single := one.single
    simp only [outstanding, pending, isNotifying, notifying, decide_true, Bool.toNat_true]
      at single
    omega
  · exact absurd (quiet.pickup.symm.trans pickup) (by simp)

theorem handleNewPositionCommit_oneDriver (one : OneDriver r) {posted : List Handler}
    (next : r.posted = .handleNewPositionCommit :: posted) :
    OneDriver (handleNewPositionCommit (takeHandler r posted)) := by
  have taken := one.toOrderly.take next
  have pending : r.attributes.newPositionCommitIsPending = true :=
    one.committing (by simp [next])
  have state : r.robotState = .rearranging := (one.rearranging (one.moving (.inr pending))).1
  have notReconfiguring := one.not_reconfiguring (by simp [state])
  have resting := one.resting_of_commit pending
  have quiet : Quiet (handleNewPositionCommit (takeHandler r posted)) := by
    refine one.quiet_but_commit pending rfl ?_ rfl ?_ rfl
    · intro handler member
      rw [next]
      exact List.mem_cons_of_mem _ member
    · simp [handleNewPositionCommit]
  have noSwitch : ∀ handler ∈ posted, ¬ IsSwitch handler := by
    intro handler member switch
    have early := (taken.switching handler member switch).2
    rw [show (takeHandler r posted).attributes.newPositionCommitIsPending = true from pending]
      at early
    contradiction
  have last : .handleNewPositionCommit ∉ posted := by
    have once := one.committedOnce
    rw [next, List.count_cons_self] at once
    exact List.count_eq_zero.mp (by omega)
  exact
    { notAborted := taken.notAborted
      availability := by simp [handleNewPositionCommit]
      switching := fun handler member switch => absurd switch (noSwitch handler member)
      switchFirst := taken.switchFirst
      reconfigure := by
        intro member
        have other := taken.reconfigure member
        rw [show (takeHandler r posted).robotState = .rearranging from state] at other
        contradiction
      reconfigureFirst := taken.reconfigureFirst
      committing := fun member => absurd member last
      committedOnce := taken.committedOnce
      single := (outstanding_eq_zero.mpr quiet).le.trans (Nat.zero_le 1)
      moving := by simp [Moving, quiet.no_timer, quiet.commit]
      rearranging := by simp [handleNewPositionCommit]
      equipping := fun timer => absurd timer (quiet.no_timer _)
      reconfiguring := by simp [handleNewPositionCommit, takeHandler, notReconfiguring]
      cooking := by simp [Cooking, quiet.no_timer, quiet.worker, quiet.pickup]
      inProcess := fun cooking => absurd resting cooking
      pickedUp := fun member => absurd member quiet.no_cook
      entering := fun _ => ⟨resting, quiet.no_cook⟩
      held := by
        intro held
        have flag := (one.held held).2
        rw [notReconfiguring] at flag
        contradiction
      busy := fun _ => .inr (.inr (.inl rfl)) }

/-- The worker between taking the wait of a reconfiguration and finishing it. -/
theorem completeReconfiguration_oneDriver (one : OneDriver r) {posted : List Handler}
    {capability : String} (idle : r.worker = .betweenHandlers)
    (next : r.posted = .timerCompleted .completeReconfiguration :: posted)
    (ran : completeReconfiguration config (takeHandler r posted) capability = some after) :
    OneDriver after := by
  have quiet := one.quiet_after_take next rfl
  have taken := one.toOrderly.take next
  have flag : r.alreadyReconfiguring = true := one.equipping (.inr (by simp [next]))
  have state : r.robotState = .reconfiguring := (one.reconfiguring flag).1
  have notRearranging := one.not_rearranging (by simp [state])
  have resting := one.resting_of_next next rfl (by simp) (by simp)
  have noSwitch : ∀ handler ∈ posted, ¬ IsSwitch handler := by
    intro handler member switch
    have other := (taken.switching handler member switch).1
    rw [show (takeHandler r posted).robotState = .reconfiguring from state] at other
    contradiction
  have noReconfigure : .reconfigure ∉ posted := by
    intro member
    have ordered := one.reconfigureFirst
    rw [next] at ordered
    exact (List.pairwise_cons.mp ordered).1 _ member rfl rfl
  have noCommit : .handleNewPositionCommit ∉ posted := by
    intro member
    exact absurd ((quiet.commit).symm.trans (taken.committing member)) (by simp)
  obtain ⟨capabilities, action, requeued, _, _, _, loop, rfl⟩ := completeReconfiguration_cases ran
  obtain ⟨queue, overallTime, lastEquippedTool, worker, pending, rfl, entered⟩ :=
    recalculateOrderQueue_refills _ loop
  have entered : worker = .betweenHandlers ∨ worker = .cookNextOrder := by
    rcases entered with same | locked
    · exact .inl (same.trans idle)
    · exact .inr locked
  split
  next locked =>
    have stuck : worker = .cookNextOrder := locked
    subst stuck
    have stuckQuiet : Quiet (refill (reequip (takeHandler r posted) capabilities
        action.requiredTool) queue overallTime lastEquippedTool .cookNextOrder pending) :=
      ⟨quiet.steadyTimer, quiet.posted, by simp [refill], quiet.pickup, quiet.commit⟩
    exact
      { toOrderly := taken.congr rfl rfl rfl rfl
        single := (outstanding_eq_zero.mpr stuckQuiet).le.trans (Nat.zero_le 1)
        moving := by simp [Moving, stuckQuiet.no_timer, stuckQuiet.commit]
        rearranging := by simp [refill, reequip, applyProfile, takeHandler, notRearranging]
        equipping := fun timer => absurd timer (stuckQuiet.no_timer _)
        reconfiguring := fun _ => ⟨state, .inr rfl⟩
        cooking := by simp [Cooking, stuckQuiet.no_timer, stuckQuiet.worker, stuckQuiet.pickup]
        inProcess := fun cooking => absurd resting cooking
        pickedUp := fun member => absurd member stuckQuiet.no_cook
        entering := fun _ => ⟨resting, stuckQuiet.no_cook⟩
        held := fun _ => ⟨rfl, flag⟩
        busy := fun _ => .inr (.inr (.inl rfl)) }
  next finished =>
    have doneQuiet : Quiet (finishReconfiguration (refill (reequip (takeHandler r posted)
        capabilities action.requiredTool) queue overallTime lastEquippedTool worker pending)) :=
      ⟨quiet.steadyTimer, quiet.posted, by simp [finishReconfiguration], quiet.pickup,
        quiet.commit⟩
    exact
      { notAborted := taken.notAborted
        availability := by simp [finishReconfiguration]
        switching := fun handler member switch => absurd switch (noSwitch handler member)
        switchFirst := taken.switchFirst
        reconfigure := fun member => absurd member noReconfigure
        reconfigureFirst := taken.reconfigureFirst
        committing := fun member => absurd member noCommit
        committedOnce := taken.committedOnce
        single := (outstanding_eq_zero.mpr doneQuiet).le.trans (Nat.zero_le 1)
        moving := by simp [Moving, doneQuiet.no_timer, doneQuiet.commit]
        rearranging := by
          simp [finishReconfiguration, refill, reequip, applyProfile, takeHandler,
            notRearranging]
        equipping := fun timer => absurd timer (doneQuiet.no_timer _)
        reconfiguring := by simp [finishReconfiguration]
        cooking := by simp [Cooking, doneQuiet.no_timer, doneQuiet.worker, doneQuiet.pickup]
        inProcess := fun cooking => absurd resting cooking
        pickedUp := fun member => absurd member doneQuiet.no_cook
        entering := fun _ => ⟨resting, doneQuiet.no_cook⟩
        held := by simp [finishReconfiguration]
        busy := fun _ => .inr (.inr (.inl rfl)) }

theorem enterCookNextOrder_oneDriver (deciding : Deciding r)
    (resting : r.attributes.recipeId = 0) : OneDriver (enterCookNextOrder r) := by
  have quiet : Quiet (enterCookNextOrder r) :=
    ⟨deciding.steadyTimer, deciding.posted, by simp [enterCookNextOrder], deciding.pickup,
      deciding.commit⟩
  exact
    { toOrderly := deciding.toOrderly.congr rfl rfl rfl rfl
      single := (outstanding_eq_zero.mpr quiet).le.trans (Nat.zero_le 1)
      moving := by simp [Moving, quiet.no_timer, quiet.commit]
      rearranging := by simp [enterCookNextOrder, deciding.notRearranging]
      equipping := fun timer => absurd timer (quiet.no_timer _)
      reconfiguring := by simp [enterCookNextOrder, deciding.notReconfiguring]
      cooking := by simp [Cooking, quiet.no_timer, quiet.worker, quiet.pickup]
      inProcess := fun cooking => absurd resting cooking
      pickedUp := fun member => absurd member quiet.no_cook
      entering := fun _ => ⟨resting, quiet.no_cook⟩
      held := by simp [enterCookNextOrder, deciding.unlocked]
      busy := fun _ => .inr (.inr (.inl rfl)) }

theorem target_oneDriver (one : OneDriver r) (newPosition : Position) :
    OneDriver (target r newPosition) :=
  one.transport (one.toOrderly.congr rfl rfl rfl rfl) le_rfl (fun _ => Iff.rfl) Iff.rfl
    rfl rfl (fun _ => rfl) rfl rfl rfl rfl rfl rfl rfl

theorem handles_oneDriver (one : OneDriver r) {capability : String} {handler : Handler}
    {posted : List Handler} (idle : r.worker = .betweenHandlers)
    (next : r.posted = handler :: posted)
    (ran : Handles config (takeHandler r posted) capability handler after outputs) :
    OneDriver after := by
  cases ran with
  | taskForgotten => exact one.take next rfl
  | taskQueued => exact queueOrder_oneDriver (one.take next rfl) idle
  | entered =>
      exact enterCookNextOrder_oneDriver
        (one.deciding_after_take idle next rfl (by simp) (by simp))
        (one.resting_of_next next rfl (by simp) (by simp))
  | targeted newPosition => exact target_oneDriver (one.take next rfl) newPosition
  | rearranges newPosition resting =>
      have targeted := target_oneDriver (one.take next rfl) newPosition
      have state := (one.switching (.switchPosition newPosition) (by simp [next])
        ⟨newPosition, rfl⟩).1
      have notPreparing : ¬ (takeHandler r posted).preparingDish = true := by simp [resting]
      by_cases already : r.alreadyRearranging = true
      · have same : handleSwitchPosition config (target (takeHandler r posted) newPosition) =
            target (takeHandler r posted) newPosition := if_pos already
        rw [same]
        exact targeted
      · exact handleSwitchPosition_oneDriver
          (targeted.deciding_of_resting idle notPreparing (Bool.eq_false_iff.mpr already)
            (one.not_reconfiguring (by simp [state]))) state
          (targeted.resting_of_not_preparing notPreparing)
  | postponed => exact one.take next rfl
  | reconfigures resting =>
      have taken := one.take next rfl
      have state : r.robotState = .reconfiguring := one.reconfigure (by simp [next])
      have notPreparing : ¬ (takeHandler r posted).preparingDish = true := by simp [resting]
      by_cases already : r.alreadyReconfiguring = true
      · have same : handleReconfiguration (takeHandler r posted) = takeHandler r posted :=
          if_pos already
        rw [same]
        exact taken
      · exact handleReconfiguration_oneDriver
          (taken.deciding_of_resting idle notPreparing (one.not_rearranging (by simp [state]))
            (Bool.eq_false_iff.mpr already)) state
          (taken.resting_of_not_preparing notPreparing)
  | committed => exact handleNewPositionCommit_oneDriver one next
  | retooled =>
      have deciding := one.deciding_after_take idle next rfl (by simp) (by simp)
      have cooking := one.cooking (.inl (.inr (by simp [next])))
      exact determineNextAction_oneDriver
        (deciding.congr rfl rfl rfl rfl rfl rfl rfl rfl rfl rfl) cooking
        (one.inProcess cooking).1
  | ticked =>
      have deciding : Deciding (countDown (takeHandler r posted)) :=
        (one.deciding_after_take idle next rfl (by simp) (by simp)).congr
          rfl rfl rfl rfl rfl rfl rfl rfl rfl rfl
      have cooking := one.cooking (.inr (.inl (.inr (by simp [next]))))
      exact deciding.armed_cooking _ _ (.inr rfl) cooking (one.inProcess cooking).1
  | performed =>
      have deciding := one.deciding_after_take idle next rfl (by simp) (by simp)
      have cooking := one.cooking (.inr (.inl (.inr (by simp [next]))))
      exact determineNextAction_oneDriver
        (deciding.congr rfl rfl rfl rfl rfl rfl rfl rfl rfl rfl) cooking
        (one.inProcess cooking).1
  | moved => exact moveToNewPosition_oneDriver one idle next
  | completed ran => exact completeReconfiguration_oneDriver one idle next ran
  | aborted => exact absurd (by simp [next]) one.notAborted

end CpsKitchen.RobotAgent
