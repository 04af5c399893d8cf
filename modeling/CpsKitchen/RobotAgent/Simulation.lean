import CpsKitchen.RobotAgent.Work

/-!
# The robot does its work

`work` reads the abstract robot off the state. A robot that commits once takes
a step of its work with every step: the one driver of the robot then always
belongs to the order in process.
-/

namespace CpsKitchen.RobotAgent

open CpsKitchen.Reactive CpsKitchen.Recipes

set_option autoImplicit false

variable {config : Config} {r after : Robot} {event : Event} {outputs : List Output}

def timeLeft (r : Robot) : Option Nat :=
  if TimerOutstanding r .passTime then some r.currentActionDuration else none

def work (r : Robot) : Work where
  tasks := postedTasks r
  orderQueue := r.orderQueue
  preparingDish := r.preparingDish
  actionQueueInProcess := r.actionQueueInProcess
  dishInProcess := r.dishInProcess
  recipeId := r.attributes.recipeId
  overallProcessedSteps := r.attributes.overallProcessedSteps
  timeLeft := timeLeft r
  overallTime := r.attributes.overallTime
  currentTool := r.currentTool
  lastEquippedTool := r.attributes.lastEquippedTool
  capabilities := r.capabilities

/-- What drives a robot that has a dish in its hands fits the next action. -/
structure Handwork (r : Robot) : Prop where
  retooling : TimerOutstanding r .retool → ∃ action rest,
    r.actionQueueInProcess = action :: rest ∧ isCapableTo r action ∧
      action.requiredTool ≠ r.currentTool
  performing : TimerOutstanding r .passTime → ∃ action rest,
    r.actionQueueInProcess = action :: rest ∧ isCapableTo r action ∧
      action.requiredTool = r.currentTool
  done : r.worker = .notifyingConveyor ∨ r.pendingPickup = true →
    (r.isDishFinished = true ↔ r.actionQueueInProcess = []) ∧
      ∀ action rest, r.actionQueueInProcess = action :: rest → ¬ isCapableTo r action

theorem initial_handwork (started : Started config r) : Handwork r := by
  obtain ⟨position, _, capabilities, _, action, _, _, _, rfl⟩ := started
  constructor <;> simp [initial, TimerOutstanding]

theorem determineNextAction_handwork (quiet : Quiet r) : Handwork (determineNextAction r) := by
  have outcome := determineNextAction_cases r
  generalize determineNextAction r = after at outcome
  cases outcome with
  | finished done =>
      exact
        { retooling := fun timer => absurd timer (quiet.no_timer _)
          performing := fun timer => absurd timer (quiet.no_timer _)
          done := by
            intro _
            simp [finishOrder, resetInProcessFields, done] }
  | incapable action rest front incapable =>
      exact
        { retooling := fun timer => absurd timer (quiet.no_timer _)
          performing := fun timer => absurd timer (quiet.no_timer _)
          done := by
            intro _
            simp only [finishOrder, resetInProcessFields, front, isCapableTo] at incapable ⊢
            simpa using incapable }
  | retool action rest front capable otherTool =>
      exact
        { retooling := fun _ => ⟨action, rest, front, capable, otherTool⟩
          performing := by
            rw [quiet.timer_armed]
            simp
          done := by simp [armTimer, quiet.worker, quiet.pickup] }
  | perform action rest front capable equipped =>
      have prepared : Quiet
          { r with
            currentActionDuration := action.duration
            attributes := { r.attributes with
              actionName := action.name
              ingredients := action.ingredients } } :=
        ⟨quiet.steadyTimer, quiet.posted, quiet.worker, quiet.pickup, quiet.commit⟩
      exact
        { retooling := by
            rw [prepared.timer_armed]
            simp
          performing := fun _ => ⟨action, rest, front, capable, equipped⟩
          done := by simp [armTimer, quiet.worker, quiet.pickup] }

theorem handwork_of_resting (one : OneDriver r) (resting : r.attributes.recipeId = 0) :
    Handwork r where
  retooling := fun timer => absurd resting (one.cooking (.inl timer))
  performing := fun timer => absurd resting (one.cooking (.inr (.inl timer)))
  done := fun waits => absurd resting (one.cooking (.inr (.inr waits)))

theorem Handwork.transport (handwork : Handwork r)
    (timers : ∀ task, TimerOutstanding after task → TimerOutstanding r task)
    (waits : after.worker = .notifyingConveyor ∨ after.pendingPickup = true →
      r.worker = .notifyingConveyor ∨ r.pendingPickup = true)
    (queue : after.actionQueueInProcess = r.actionQueueInProcess)
    (capabilities : after.capabilities = r.capabilities)
    (tool : after.currentTool = r.currentTool)
    (finished : after.isDishFinished = r.isDishFinished) : Handwork after where
  retooling := by
    intro timer
    simp only [queue, tool, isCapableTo, capabilities]
    exact handwork.retooling (timers _ timer)
  performing := by
    intro timer
    simp only [queue, tool, isCapableTo, capabilities]
    exact handwork.performing (timers _ timer)
  done := by
    intro pending
    simp only [queue, finished, isCapableTo, capabilities]
    exact handwork.done (waits pending)

theorem handleSwitchPosition_recipeId (r : Robot) :
    (handleSwitchPosition config r).attributes.recipeId = r.attributes.recipeId := by
  unfold handleSwitchPosition
  split <;> rfl

theorem handleReconfiguration_recipeId (r : Robot) :
    (handleReconfiguration r).attributes.recipeId = r.attributes.recipeId := by
  unfold handleReconfiguration
  split <;> rfl

theorem handles_handwork (one : OneDriver r) (oneAfter : OneDriver after)
    (handwork : Handwork r) {capability : String} {handler : Handler} {posted : List Handler}
    (idle : r.worker = .betweenHandlers) (next : r.posted = handler :: posted)
    (ran : Handles config (takeHandler r posted) capability handler after outputs) :
    Handwork after := by
  cases ran with
  | taskForgotten | targeted | postponed =>
      exact handwork.transport (fun task => (timerOutstanding_take next rfl task).mp) id
        rfl rfl rfl rfl
  | taskQueued task recipe =>
      refine handwork.transport (fun task => (timerOutstanding_take next rfl task).mp) ?_
        rfl rfl rfl rfl
      rintro (notifying | pickup)
      · simp only [queueOrder, takeHandler, idle] at notifying
        split at notifying <;> contradiction
      · exact .inr pickup
  | entered | moved =>
      have resting := one.resting_of_next next rfl (by simp) (by simp)
      exact handwork_of_resting oneAfter resting
  | rearranges newPosition resting =>
      have resting := one.resting_of_not_preparing (by simpa [takeHandler] using resting)
      exact handwork_of_resting oneAfter ((handleSwitchPosition_recipeId _).trans resting)
  | reconfigures resting =>
      have resting := one.resting_of_not_preparing (by simpa [takeHandler] using resting)
      exact handwork_of_resting oneAfter ((handleReconfiguration_recipeId _).trans resting)
  | committed =>
      have resting := one.resting_of_commit (one.committing (by simp [next]))
      exact handwork_of_resting oneAfter resting
  | retooled | performed =>
      have quiet := one.quiet_after_take next rfl
      exact determineNextAction_handwork
        ⟨quiet.steadyTimer, quiet.posted, quiet.worker, quiet.pickup, quiet.commit⟩
  | ticked =>
      have quiet := one.quiet_after_take next rfl
      have counted : Quiet (countDown (takeHandler r posted)) :=
        ⟨quiet.steadyTimer, quiet.posted, quiet.worker, quiet.pickup, quiet.commit⟩
      exact
        { retooling := by
            rw [counted.timer_armed]
            simp
          performing := fun _ => handwork.performing (.inr (by simp [next]))
          done := fun waits => absurd waits
            (not_or.mpr ⟨counted.worker, by
              rw [armTimer_of_quiet counted]
              simp [counted.pickup]⟩) }
  | completed ran =>
      have resting := one.resting_of_next next rfl (by simp) (by simp)
      obtain ⟨_, _, requeued, _, _, _, loop, rfl⟩ := completeReconfiguration_cases ran
      obtain ⟨_, _, _, _, _, rfl, _⟩ := recalculateOrderQueue_refills _ loop
      refine handwork_of_resting oneAfter ?_
      split <;> exact resting
  | aborted => exact absurd (by simp [next]) one.notAborted

theorem step_handwork (one : OneDriver r) (oneAfter : OneDriver after)
    (handwork : Handwork r) (step : Step config r event after outputs) : Handwork after := by
  cases step with
  | refused | renotifyFailed => exact handwork
  | taskAccepted | switchAccepted | commitAccepted | reconfigureAccepted =>
      exact handwork.transport (fun task => (timerOutstanding_post rfl task).mp) id rfl rfl rfl rfl
  | handedOver => exact handwork_of_resting oneAfter rfl
  | handled capability handler posted idle next ran =>
      exact handles_handwork one oneAfter handwork idle next ran
  | locked waiting unlocked ran =>
      have resting := (one.entering waiting).1
      cases ran with
      | rearranges =>
          exact handwork_of_resting oneAfter ((handleSwitchPosition_recipeId _).trans resting)
      | reconfigures =>
          exact handwork_of_resting oneAfter ((handleReconfiguration_recipeId _).trans resting)
      | rests => exact handwork_of_resting oneAfter resting
      | starts available nextOrder rest recipe =>
          have quiet := (one.deciding_at_lock waiting unlocked
            (one.not_rearranging (by simp [available]))
            (one.not_reconfiguring (by simp [available]))).toQuiet
          exact determineNextAction_handwork
            ⟨quiet.steadyTimer, quiet.posted, quiet.worker, quiet.pickup, quiet.commit⟩
  | notified received looping =>
      exact handwork.transport (fun _ => id) (fun _ => .inl looping) rfl rfl rfl rfl
  | expired wait armed =>
      refine handwork.transport ?_ id rfl rfl rfl rfl
      rintro task (timer | timer)
      · simp [post] at timer
      · rcases List.mem_append.mp timer with before | new
        · exact .inr before
        · simp only [List.mem_singleton, Handler.timerCompleted.injEq] at new
          exact .inl (by simp [armed, new])
  | notifyFailed | conveyorLost | conveyorConnected | renotified =>
      exact handwork.transport (fun _ => id) id rfl rfl rfl rfl

theorem work_eq {w : Work} (tasks : postedTasks after = w.tasks)
    (time : timeLeft after = w.timeLeft)
    (others : { work after with tasks := [], timeLeft := none } =
      { w with tasks := [], timeLeft := none }) : work after = w := by
  cases w
  have fields := Work.mk.inj others
  simp only [work, tasks, time] at fields ⊢
  simp [fields]

theorem timeLeft_congr
    (timer : TimerOutstanding after .passTime ↔ TimerOutstanding r .passTime)
    (duration : after.currentActionDuration = r.currentActionDuration) :
    timeLeft after = timeLeft r := by
  simp only [timeLeft, timer, duration]

theorem Quiet.timeLeft (quiet : Quiet r) : timeLeft r = none := if_neg (quiet.no_timer _)

theorem OneDriver.timeLeft_of_resting (one : OneDriver r) (resting : r.attributes.recipeId = 0) :
    timeLeft r = none :=
  if_neg fun timer => one.cooking (.inr (.inl timer)) resting

theorem work_of_resting (one : OneDriver r) (oneAfter : OneDriver after)
    (resting : r.attributes.recipeId = 0) (tasks : postedTasks after = postedTasks r)
    (others : { work after with tasks := [], timeLeft := none } =
      { work r with tasks := [], timeLeft := none }) : work after = work r := by
  have restingAfter : after.attributes.recipeId = 0 :=
    (Work.mk.inj others).2.2.2.2.2.1.trans resting
  refine work_eq tasks ?_ others
  rw [oneAfter.timeLeft_of_resting restingAfter]
  exact (one.timeLeft_of_resting resting).symm

theorem work_determineNextAction (quiet : Quiet r) :
    work (determineNextAction r) = (work r).next := by
  have outcome := determineNextAction_cases r
  generalize determineNextAction r = after at outcome
  cases outcome with
  | finished done =>
      refine work_eq rfl ?_ rfl
      simp only [Work.next, work, done]
      exact quiet.timeLeft
  | incapable action rest front incapable =>
      refine work_eq rfl ?_ rfl
      simp only [Work.next, work, front]
      rw [if_neg (fun both => incapable both.1)]
      exact quiet.timeLeft
  | retool action rest front capable otherTool =>
      refine work_eq (postedTasks_armTimer _ _ _) ?_ rfl
      simp only [Work.next, work, front]
      rw [if_neg (fun both => otherTool both.2), timeLeft, if_neg]
      rw [quiet.timer_armed]
      simp
  | perform action rest front capable equipped =>
      have prepared : Quiet
          { r with
            currentActionDuration := action.duration
            attributes := { r.attributes with
              actionName := action.name
              ingredients := action.ingredients } } :=
        ⟨quiet.steadyTimer, quiet.posted, quiet.worker, quiet.pickup, quiet.commit⟩
      refine work_eq (postedTasks_armTimer _ _ _) ?_ rfl
      simp only [Work.next, work, front]
      rw [if_pos ⟨capable, equipped⟩, timeLeft, if_pos]
      · rfl
      · have armed := (prepared.timer_armed .passTime .passTime
          (timeUnitUpdateRate * timeUnit)).mpr rfl
        simpa only [front] using armed

theorem postedTasks_take {handler : Handler} {posted : List Handler}
    (next : r.posted = handler :: posted) (other : handler.task? = none) :
    postedTasks (takeHandler r posted) = postedTasks r := by
  simp [postedTasks, takeHandler, next, other]

theorem postedTasks_post {handler : Handler} (other : handler.task? = none) :
    postedTasks (post r handler) = postedTasks r := by
  simp [postedTasks, post, other]

theorem work_post {handler : Handler} (plain : handler.drives = false)
    (other : handler.task? = none) : work (post r handler) = work r :=
  work_eq (postedTasks_post other) (timeLeft_congr (timerOutstanding_post plain _) rfl) rfl

theorem postedTasks_handleSwitchPosition (config : Config) (r : Robot) :
    postedTasks (handleSwitchPosition config r) = postedTasks r :=
  (handleSwitchPosition_harmless r).postedTasks

theorem postedTasks_handleReconfiguration (r : Robot) :
    postedTasks (handleReconfiguration r) = postedTasks r := by
  unfold handleReconfiguration
  split
  · rfl
  · exact postedTasks_armTimer _ _ _

theorem handleSwitchPosition_others (r : Robot) :
    { work (handleSwitchPosition config r) with tasks := [], timeLeft := none } =
      { work r with tasks := [], timeLeft := none } := by
  unfold handleSwitchPosition
  split <;> rfl

theorem handleReconfiguration_others (r : Robot) :
    { work (handleReconfiguration r) with tasks := [], timeLeft := none } =
      { work r with tasks := [], timeLeft := none } := by
  unfold handleReconfiguration
  split <;> rfl

theorem work_queueOrder (r : Robot) (task : Task) (recipe : Recipe) :
    work (queueOrder r task recipe) = (work r).queueOrder task recipe := rfl

/-- Refilling the queue requeues the orders from the front. It stops early only
where no dish is being prepared. -/
theorem recalculateOrderQueue_work {before : Robot} (orders : List Order)
    (outside : before.worker ≠ .cookNextOrder)
    (ran : recalculateOrderQueue config before orders = some after) :
    ∃ requeued forgotten, orders = requeued ++ forgotten ∧
      work after = requeued.foldl (Work.requeue config) (work before) ∧
      (before.preparingDish = true ∨ orders.length ≤ 1 → forgotten = []) := by
  induction orders generalizing before with
  | nil =>
      cases ran
      exact ⟨[], [], rfl, rfl, fun _ => rfl⟩
  | cons order pending ih =>
      rw [recalculateOrderQueue] at ran
      split at ran
      · contradiction
      next handled received =>
        have requeued : work handled = (work before).requeue config order ∧
            handled.preparingDish = before.preparingDish := by
          rcases handleReceiveTask_cases received with ⟨unknown, rfl⟩ | ⟨recipe, known, _, rfl⟩
          · have unknown : config.recipeParser.getRecipe order.recipeId = none := unknown
            simp [Work.requeue, unknown]
          · have known : config.recipeParser.getRecipe order.recipeId = some recipe := known
            simp only [Work.requeue, known, work_queueOrder, true_and]
            rfl
        split at ran
        next entered =>
          cases ran
          refine ⟨[order], pending, rfl, requeued.1, ?_⟩
          rintro (preparing | short)
          · rcases handleReceiveTask_cases received with ⟨_, rfl⟩ | ⟨recipe, _, _, rfl⟩
            · exact absurd entered outside
            · simp only [queueOrder, preparing, if_true] at entered
              exact absurd entered outside
          · simpa using short
        next stays =>
          obtain ⟨others, forgotten, split, same, whole⟩ := ih stays ran
          refine ⟨order :: others, forgotten, by simp [split], ?_, ?_⟩
          · rw [same, requeued.1, List.foldl_cons]
          · intro complete
            refine whole ?_
            rw [requeued.2]
            refine complete.imp id (fun short => ?_)
            rw [List.length_cons] at short
            omega

theorem plain_nil : Plain [] := by simp [Plain]

theorem handles_work (one : OneDriver r) (oneAfter : OneDriver after) (handwork : Handwork r)
    (readable : Readable config (work r)) {capability : String} {handler : Handler}
    {posted : List Handler} (idle : r.worker = .betweenHandlers)
    (next : r.posted = handler :: posted)
    (ran : Handles config (takeHandler r posted) capability handler after outputs) :
    Work.Step config r.robotState (work r) (work after) outputs := by
  cases ran with
  | taskForgotten task unknown =>
      have front : task ∈ (work r).tasks := by simp [work, postedTasks, next, Handler.task?]
      obtain ⟨recipe, known, _⟩ := readable.tasks task front
      rw [unknown] at known
      contradiction
  | taskQueued task recipe known =>
      have front : (work r).tasks = task :: postedTasks (takeHandler r posted) := by
        simp [work, postedTasks, takeHandler, next, Handler.task?]
      have taken : work (takeHandler r posted) =
          { work r with tasks := postedTasks (takeHandler r posted) } :=
        work_eq rfl (timeLeft_congr (timerOutstanding_take next rfl _) rfl) rfl
      rw [work_queueOrder, taken]
      exact .queued task _ recipe front known
  | entered =>
      have resting := one.resting_of_next next rfl (by simp) (by simp)
      rw [work_of_resting one oneAfter resting (postedTasks_take next rfl) rfl]
      exact .same plain_nil
  | targeted | postponed =>
      have same : work (takeHandler r posted) = work r :=
        work_eq (postedTasks_take next rfl) (timeLeft_congr (timerOutstanding_take next rfl _) rfl)
          rfl
      exact same ▸ .same plain_nil
  | rearranges newPosition resting =>
      have resting := one.resting_of_not_preparing (by simpa [takeHandler] using resting)
      have tasks := (postedTasks_handleSwitchPosition config
        (target (takeHandler r posted) newPosition)).trans (postedTasks_take next rfl)
      rw [work_of_resting one oneAfter resting tasks (handleSwitchPosition_others _)]
      exact .same plain_nil
  | reconfigures resting =>
      have resting := one.resting_of_not_preparing (by simpa [takeHandler] using resting)
      have tasks := (postedTasks_handleReconfiguration (takeHandler r posted)).trans
        (postedTasks_take next rfl)
      rw [work_of_resting one oneAfter resting tasks (handleReconfiguration_others _)]
      exact .same plain_nil
  | committed =>
      have resting := one.resting_of_commit (one.committing (by simp [next]))
      rw [work_of_resting one oneAfter resting (postedTasks_take next rfl) rfl]
      exact .same plain_nil
  | moved =>
      have resting := one.resting_of_next next rfl (by simp) (by simp)
      rw [work_of_resting one oneAfter resting (postedTasks_take next rfl) rfl]
      exact .same plain_nil
  | retooled action rest front =>
      have due : TimerOutstanding r .retool := .inr (by simp [next])
      obtain ⟨action', rest', same, capable, otherTool⟩ := handwork.retooling due
      have front : r.actionQueueInProcess = action :: rest := front
      rw [front] at same
      cases same
      have quiet := one.quiet_after_take next rfl
      have time : timeLeft r = none :=
        if_neg fun timer => by simpa using one.timer_of_next next rfl timer
      have equipped : work (equip (takeHandler r posted) action.requiredTool) =
          (work r).equip action.requiredTool :=
        work_eq (postedTasks_take next rfl) (quiet.timeLeft.trans time.symm) rfl
      have ready : Quiet (equip (takeHandler r posted) action.requiredTool) :=
        ⟨quiet.steadyTimer, quiet.posted, quiet.worker, quiet.pickup, quiet.commit⟩
      rw [work_determineNextAction ready, equipped]
      exact .retooled action rest (one.cooking (.inl due)) front capable otherTool time
  | ticked goesOn =>
      have due : TimerOutstanding r .passTime := .inr (by simp [next])
      obtain ⟨action, rest, front, capable, equipped⟩ := handwork.performing due
      have quiet := one.quiet_after_take next rfl
      have counted : Quiet (countDown (takeHandler r posted)) :=
        ⟨quiet.steadyTimer, quiet.posted, quiet.worker, quiet.pickup, quiet.commit⟩
      have time : timeLeft r = some r.currentActionDuration := if_pos due
      have same : work (armTimer (countDown (takeHandler r posted)) .passTime
          (timeUnitUpdateRate * timeUnit)) = (work r).countDown r.currentActionDuration := by
        refine work_eq ((postedTasks_armTimer _ _ _).trans (postedTasks_take next rfl)) ?_ rfl
        exact if_pos ((counted.timer_armed _ _ _).mpr rfl)
      have capable : action.name ∈ r.capabilities := capable
      rw [same]
      exact .ticked action rest (one.cooking (.inr (.inl due))) front capable equipped _ time goesOn
  | performed action rest elapsed front =>
      have due : TimerOutstanding r .passTime := .inr (by simp [next])
      obtain ⟨action', rest', same, capable, equipped⟩ := handwork.performing due
      have front : r.actionQueueInProcess = action :: rest := front
      rw [front] at same
      cases same
      have quiet := one.quiet_after_take next rfl
      have time : timeLeft r = some r.currentActionDuration := if_pos due
      have counted : Quiet (countStep (countDown (takeHandler r posted)) rest) :=
        ⟨quiet.steadyTimer, quiet.posted, quiet.worker, quiet.pickup, quiet.commit⟩
      have same : (work (countStep (countDown (takeHandler r posted)) rest)).next =
          (((work r).countDown r.currentActionDuration).countStep rest).next := by
        have tasks : postedTasks (countStep (countDown (takeHandler r posted)) rest) =
            postedTasks r := postedTasks_take next rfl
        simp only [Work.next, work, tasks]
        rfl
      have capable : action.name ∈ r.capabilities := capable
      have able : decide (isCapableTo (takeHandler r posted) action) = true :=
        decide_eq_true capable
      rw [work_determineNextAction counted, same, able]
      exact .performed action rest (one.cooking (.inr (.inl due))) front capable equipped _ time
        elapsed
  | @completed after ran =>
      have resting := one.resting_of_next next rfl (by simp) (by simp)
      have quiet := one.quiet_after_take next rfl
      obtain ⟨capabilities, action, requeued, parsed, chosen, registered, loop, rfl⟩ :=
        completeReconfiguration_cases ran
      have outside : (reequip (takeHandler r posted) capabilities action.requiredTool).worker ≠
          .cookNextOrder := by
        simp [reequip, applyProfile, takeHandler, idle]
      obtain ⟨orders, forgotten, queue, same, whole⟩ :=
        recalculateOrderQueue_work _ outside loop
      have taken : work (takeHandler r posted) = work r :=
        work_eq (postedTasks_take next rfl)
          (quiet.timeLeft.trans (one.timeLeft_of_resting resting).symm) rfl
      have emptied : work (reequip (takeHandler r posted) capabilities action.requiredTool) =
          (work r).reequip capabilities action.requiredTool := by
        rw [← taken]
        rfl
      have finished : work (if requeued.worker = .cookNextOrder then requeued
          else finishReconfiguration requeued) = work requeued := by
        split <;> rfl
      rw [finished, same, emptied]
      have flag := one.equipping (.inr (by simp [next]))
      exact .reconfigured (one.reconfiguring flag).1 _ capability capabilities action orders
        forgotten resting parsed chosen
        registered queue whole
  | aborted => exact absurd (by simp [next]) one.notAborted

theorem cooks_work (one : OneDriver r) (oneAfter : OneDriver after)
    (waiting : r.worker = .cookNextOrder) (unlocked : r.stateMutexHeld = false)
    (cooked : Cooks config r after) : Work.Step config r.robotState (work r) (work after) [] := by
  have resting := (one.entering waiting).1
  cases cooked with
  | rearranges =>
      rw [work_of_resting one oneAfter resting
        (postedTasks_handleSwitchPosition config (passLock r))
        (handleSwitchPosition_others (passLock r))]
      exact .same plain_nil
  | reconfigures =>
      rw [work_of_resting one oneAfter resting (postedTasks_handleReconfiguration (passLock r))
        (handleReconfiguration_others (passLock r))]
      exact .same plain_nil
  | rests available empty => exact .rested available empty resting
  | starts available nextOrder rest recipe front =>
      have deciding := one.deciding_at_lock waiting unlocked
        (one.not_rearranging (by simp [available])) (one.not_reconfiguring (by simp [available]))
      have ready : Quiet (startOrder (passLock r) nextOrder rest recipe) :=
        ⟨deciding.steadyTimer, deciding.posted, deciding.worker, deciding.pickup,
          deciding.commit⟩
      rw [work_determineNextAction ready]
      exact .started available nextOrder rest front resting

/-- A robot that commits once refines its work: its steps are steps of the work. -/
theorem step_work (one : OneDriver r) (oneAfter : OneDriver after) (handwork : Handwork r)
    (readable : Readable config (work r)) (step : Step config r event after outputs) :
    Work.Step config r.robotState (work r) (work after) outputs := by
  cases step with
  | refused refusal =>
      refine .same ?_
      cases refusal <;> simp [Plain, Output.accepted?, Output.handedOver?, Output.performed?,
        zeroReply]
  | taskAccepted task recipe action rest unlocked available known remaining capable =>
      have accepted : work (post r (.handleReceiveTask task)) =
          { work r with tasks := (work r).tasks ++ [task] } := by
        refine work_eq ?_ (timeLeft_congr (timerOutstanding_post rfl _) rfl) rfl
        simp [postedTasks, post, work, Handler.task?]
      rw [accepted]
      exact .accepted available task r.position recipe action rest known remaining capable
  | handedOver pending =>
      have cooking := one.cooking (.inr (.inr (.inr pending)))
      have quiet := one.quiet_after_release pending
      have time : timeLeft r = none := if_neg (quiet.no_timer .passTime)
      have done := handwork.done (.inr pending)
      have released : work (post (releaseDish r) .cookNextOrder) = (work r).releaseDish := by
        refine work_eq (postedTasks_post rfl) ?_ rfl
        rw [oneAfter.timeLeft_of_resting rfl]
        exact time.symm
      rw [released]
      exact .handedOver _ cooking time rfl rfl done.1 done.2
  | switchAccepted newPosition =>
      have same : work (post (startAdaptation r .rearranging) (.switchPosition newPosition)) =
          work r := (work_post rfl rfl).trans rfl
      rw [same]
      exact .same (by simp [Plain, Output.accepted?, Output.handedOver?, Output.performed?])
  | commitAccepted =>
      rw [work_post rfl rfl]
      exact .same (by simp [Plain, Output.accepted?, Output.handedOver?, Output.performed?])
  | reconfigureAccepted profile =>
      have same : work (post { startAdaptation r .reconfiguring with
          newCapabilitiesProfile := profile } .reconfigure) = work r :=
        (work_post rfl rfl).trans rfl
      rw [same]
      exact .same (by simp [Plain, Output.accepted?, Output.handedOver?, Output.performed?])
  | handled capability handler posted idle next ran =>
      exact handles_work one oneAfter handwork readable idle next ran
  | locked waiting unlocked ran => exact cooks_work one oneAfter waiting unlocked ran
  | expired wait armed =>
      have timer : TimerOutstanding (post { r with steadyTimer := none }
          (.timerCompleted wait.task)) .passTime ↔ TimerOutstanding r .passTime := by
        simp [TimerOutstanding, post, armed, or_comm, eq_comm]
      have same : work (post { r with steadyTimer := none } (.timerCompleted wait.task)) =
          work r := work_eq (postedTasks_post rfl) (timeLeft_congr timer rfl) rfl
      rw [same]
      exact .same plain_nil
  | notifyFailed | conveyorLost | conveyorConnected | renotifyFailed => exact .same plain_nil
  | notified | renotified =>
      exact .same (by simp [Plain, Output.accepted?, Output.handedOver?, Output.performed?])

/-- All that holds of a robot along runs that commit once. -/
structure Sound (config : Config) (r : Robot) : Prop where
  one : OneDriver r
  handwork : Handwork r
  readable : Readable config (work r)

theorem initial_sound (started : Started config r) : Sound config r where
  one := initial_oneDriver started
  handwork := initial_handwork started
  readable := by
    obtain ⟨position, _, capabilities, _, action, _, _, _, rfl⟩ := started
    constructor <;> simp [work, initial, postedTasks]

theorem step_sound (sound : Sound config r) (permitted : CommitsOnce r event)
    (taken : step config r event = some (after, outputs)) :
    Sound config after ∧ Work.Step config r.robotState (work r) (work after) outputs := by
  have reaction := (step_cases taken).2
  have oneAfter := step_oneDriver sound.one permitted reaction
  have worked := step_work sound.one oneAfter sound.handwork sound.readable reaction
  exact
    ⟨⟨oneAfter, step_handwork sound.one oneAfter sound.handwork reaction,
      worked.readable sound.readable⟩, worked⟩

theorem reaches_sound {allowed : Robot → Event → Prop}
    (commitsOnce : ∀ r event, allowed r event → CommitsOnce r event)
    {history : History Event Output}
    (reached : (machine config).Reaches allowed history r) : Sound config r :=
  reached.invariant (fun _ started => initial_sound started)
    (fun _ _ _ _ sound permitted taken => (step_sound sound (commitsOnce _ _ permitted) taken).1)

end CpsKitchen.RobotAgent
