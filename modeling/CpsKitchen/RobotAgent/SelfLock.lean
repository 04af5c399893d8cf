import CpsKitchen.RobotAgent.Transitions

/-!
# When the worker locks itself out

`complete_reconfiguration` refills the order queue under `state_mutex_`
through `handle_receive_task`, which enters `cook_next_order` when no dish is
being prepared. `cook_next_order` locks the same mutex. The worker then waits
for itself. That needs a task that nobody picked up yet when the
reconfiguration was accepted.
-/

namespace CpsKitchen.RobotAgent

open CpsKitchen.Reactive CpsKitchen.Recipes

set_option autoImplicit false

variable {config : Config} {r after : Robot} {event : Event} {outputs : List Output}

def Handler.task? : Handler → Option Task
  | .handleReceiveTask task => some task
  | _ => none

/-- Accepted tasks whose handler has not run yet. -/
def postedTasks (r : Robot) : List Task := r.posted.filterMap Handler.task?

/-- A wait for this task is armed, or its completion is posted. -/
def TimerOutstanding (r : Robot) (task : TimerTask) : Prop :=
  r.steadyTimer.map Wait.task = some task ∨ .timerCompleted task ∈ r.posted

instance (r : Robot) (task : TimerTask) : Decidable (TimerOutstanding r task) :=
  inferInstanceAs (Decidable (_ ∨ _))

def TaskWaits (r : Robot) : Prop :=
  r.preparingDish = false ∧ (r.orderQueue ≠ [] ∨ postedTasks r ≠ [])

instance (r : Robot) : Decidable (TaskWaits r) := inferInstanceAs (Decidable (_ ∧ _))

def ReconfigurationUnderWay (r : Robot) : Prop :=
  r.robotState = .reconfiguring ∨ .reconfigure ∈ r.posted ∨
    TimerOutstanding r .completeReconfiguration

instance (r : Robot) : Decidable (ReconfigurationUnderWay r) :=
  inferInstanceAs (Decidable (_ ∨ _ ∨ _))

/-- `switch_position` reaches the branch that posts its handler. -/
def AcceptsSwitch (config : Config) (r : Robot) (newPosition : Position)
    (availabilityWritten : Bool) : Prop :=
  0 < newPosition ∧ newPosition ≤ config.conveyorSize - 1 ∧ newPosition ≠ r.position ∧
    r.robotState = .available ∧ availabilityWritten = true

def AcceptsReconfigure (config : Config) (r : Robot) (profile : String)
    (availabilityWritten : Bool) : Prop :=
  config.capabilityParser.getCapabilities profile ≠ some r.capabilities ∧
    r.robotState = .available ∧ availabilityWritten = true

instance (r : Robot) (newPosition : Position) (availabilityWritten : Bool) :
    Decidable (AcceptsSwitch config r newPosition availabilityWritten) :=
  inferInstanceAs (Decidable (_ ∧ _))

instance (r : Robot) (profile : String) (availabilityWritten : Bool) :
    Decidable (AcceptsReconfigure config r profile availabilityWritten) :=
  inferInstanceAs (Decidable (_ ∧ _))

/-- An adaptation is accepted only while no task waits that nobody picked up.
For `switch_position` this matters only while a reconfiguration is under way,
which takes a repeated commit that made the robot available too early. -/
def LeavesNoTaskBehind (config : Config) (r : Robot) : Event → Prop
  | .reconfigure profile availabilityWritten =>
      AcceptsReconfigure config r profile availabilityWritten → ¬ TaskWaits r
  | .switchPosition newPosition availabilityWritten =>
      AcceptsSwitch config r newPosition availabilityWritten → ReconfigurationUnderWay r →
        ¬ TaskWaits r
  | _ => True

instance (r : Robot) : (event : Event) → Decidable (LeavesNoTaskBehind config r event)
  | .reconfigure profile availabilityWritten =>
      inferInstanceAs
        (Decidable (AcceptsReconfigure config r profile availabilityWritten → ¬ TaskWaits r))
  | .switchPosition newPosition availabilityWritten =>
      inferInstanceAs
        (Decidable (AcceptsSwitch config r newPosition availabilityWritten →
          ReconfigurationUnderWay r → ¬ TaskWaits r))
  | .receiveTask _ _ | .handoverFinishedOrder | .commitNewPosition | .runHandler _
  | .cookNextOrder | .notifyConveyor _ | .timerExpires | .conveyorLost
  | .conveyorConnected _ => isTrue trivial

/-- What keeps the worker off a mutex it holds: while a reconfiguration is
under way and a task waits, the robot is available, and a worker that is past
`cook_next_order` has left no order behind in an available robot. -/
structure Unblocked (r : Robot) : Prop where
  unlocked : r.stateMutexHeld = false
  underWay : ReconfigurationUnderWay r → TaskWaits r → r.robotState = .available
  queued : r.worker ≠ .cookNextOrder → r.preparingDish = false → r.orderQueue ≠ [] →
    r.robotState ≠ .available

theorem initial_unblocked (started : Started config r) : Unblocked r := by
  obtain ⟨position, _, capabilities, _, action, _, _, _, rfl⟩ := started
  exact
    { unlocked := rfl
      underWay := by simp [TaskWaits, initial, postedTasks]
      queued := by simp [initial] }

theorem recalculateOrderQueue_worker {before : Robot} (orders : List Order)
    (outside : before.worker ≠ .cookNextOrder)
    (quiet : before.preparingDish = true ∨ orders = [])
    (ran : recalculateOrderQueue config before orders = some after) :
    after.worker ≠ .cookNextOrder := by
  induction orders generalizing before with
  | nil =>
      cases ran
      exact outside
  | cons order pending ih =>
      have preparing : before.preparingDish = true := by simpa using quiet
      rw [recalculateOrderQueue] at ran
      split at ran
      · contradiction
      next handled received =>
        rcases handleReceiveTask_cases received with ⟨_, rfl⟩ | ⟨recipe, _, _, rfl⟩
        · rw [if_neg outside] at ran
          exact ih outside (.inl preparing) ran
        · have stays : (queueOrder before order.toTask recipe).worker ≠ .cookNextOrder := by
            simpa [queueOrder, preparing] using outside
          rw [if_neg stays] at ran
          exact ih stays (.inl preparing) ran

/-- A change that keeps the mutex, the queue and the states, does not send the
worker to `cook_next_order` and starts no reconfiguration. -/
structure Harmless (before after : Robot) : Prop where
  stateMutexHeld : after.stateMutexHeld = before.stateMutexHeld
  robotState : after.robotState = before.robotState
  preparingDish : after.preparingDish = before.preparingDish
  orderQueue : after.orderQueue = before.orderQueue
  postedTasks : postedTasks after = postedTasks before
  underWay : ReconfigurationUnderWay after → ReconfigurationUnderWay before

theorem Harmless.taskWaits {before : Robot} (change : Harmless before after) :
    TaskWaits after ↔ TaskWaits before := by
  simp only [TaskWaits, change.preparingDish, change.orderQueue, change.postedTasks]

theorem Unblocked.of_harmless {before : Robot} (unblocked : Unblocked before)
    (change : Harmless before after)
    (worker : before.worker = .cookNextOrder → after.worker = .cookNextOrder) :
    Unblocked after where
  unlocked := by rw [change.stateMutexHeld, unblocked.unlocked]
  underWay := by
    intro underWay waits
    rw [change.robotState]
    exact unblocked.underWay (change.underWay underWay) (change.taskWaits.mp waits)
  queued := by
    intro outside resting queue
    rw [change.robotState]
    rw [change.preparingDish] at resting
    rw [change.orderQueue] at queue
    exact unblocked.queued (fun entered => outside (worker entered)) resting queue

theorem harmless_of_same {before : Robot}
    (stateMutexHeld : after.stateMutexHeld = before.stateMutexHeld)
    (robotState : after.robotState = before.robotState)
    (preparingDish : after.preparingDish = before.preparingDish)
    (orderQueue : after.orderQueue = before.orderQueue) (posted : after.posted = before.posted)
    (steadyTimer : after.steadyTimer = before.steadyTimer) : Harmless before after where
  stateMutexHeld := stateMutexHeld
  robotState := robotState
  preparingDish := preparingDish
  orderQueue := orderQueue
  postedTasks := by simp only [CpsKitchen.RobotAgent.postedTasks, posted]
  underWay := by simp [ReconfigurationUnderWay, TimerOutstanding, robotState, posted, steadyTimer]

@[simp] theorem postedTasks_armTimer (r : Robot) (task : TimerTask) (delay : Nat) :
    postedTasks (armTimer r task delay) = postedTasks r := by
  by_cases armed : r.steadyTimer.isSome
  · simp [postedTasks, armTimer, armed, Handler.task?]
  · simp [postedTasks, armTimer, armed]

theorem mem_posted_armTimer {task : TimerTask} {delay : Nat} {handler : Handler}
    (member : handler ∈ (armTimer r task delay).posted) :
    handler ∈ r.posted ∨ handler = .timerAborted := by
  simp only [armTimer] at member
  split at member <;> simp_all

theorem armTimer_harmless (r : Robot) (task : TimerTask) (delay : Nat)
    (other : task ≠ .completeReconfiguration) : Harmless r (armTimer r task delay) where
  stateMutexHeld := rfl
  robotState := rfl
  preparingDish := rfl
  orderQueue := rfl
  postedTasks := postedTasks_armTimer r task delay
  underWay := by
    rintro (state | reconfigure | timer | timer)
    · exact .inl state
    · rcases mem_posted_armTimer reconfigure with member | aborted
      · exact .inr (.inl member)
      · contradiction
    · simp [armTimer, other] at timer
    · rcases mem_posted_armTimer timer with member | aborted
      · exact .inr (.inr (.inr member))
      · contradiction

theorem Harmless.trans {before middle : Robot} (first : Harmless before middle)
    (second : Harmless middle after) : Harmless before after where
  stateMutexHeld := second.stateMutexHeld.trans first.stateMutexHeld
  robotState := second.robotState.trans first.robotState
  preparingDish := second.preparingDish.trans first.preparingDish
  orderQueue := second.orderQueue.trans first.orderQueue
  postedTasks := second.postedTasks.trans first.postedTasks
  underWay underWay := first.underWay (second.underWay underWay)

theorem determineNextAction_harmless (r : Robot) : Harmless r (determineNextAction r) := by
  have outcome := determineNextAction_cases r
  generalize determineNextAction r = after at outcome
  cases outcome with
  | finished | incapable => exact harmless_of_same rfl rfl rfl rfl rfl rfl
  | retool => exact armTimer_harmless r _ _ (by decide)
  | perform action =>
      have prepared : Harmless r
          { r with
            currentActionDuration := action.duration
            attributes := { r.attributes with
              actionName := action.name
              ingredients := action.ingredients } } := harmless_of_same rfl rfl rfl rfl rfl rfl
      exact prepared.trans (armTimer_harmless _ _ _ (by decide))

theorem handleSwitchPosition_harmless (r : Robot) :
    Harmless r (handleSwitchPosition config r) := by
  unfold handleSwitchPosition
  split
  · exact harmless_of_same rfl rfl rfl rfl rfl rfl
  · have flagged : Harmless r { r with alreadyRearranging := true } :=
      harmless_of_same rfl rfl rfl rfl rfl rfl
    exact flagged.trans (armTimer_harmless _ _ _ (by decide))

theorem handleReconfiguration_harmless {before : Robot} (change : Harmless before r)
    (underWay : ReconfigurationUnderWay before) :
    Harmless before (handleReconfiguration r) := by
  unfold handleReconfiguration
  split
  · exact change
  · refine ⟨change.stateMutexHeld, change.robotState, change.preparingDish, change.orderQueue,
      ?_, fun _ => underWay⟩
    rw [postedTasks_armTimer]
    exact change.postedTasks

theorem pop_harmless {handler : Handler} {posted : List Handler}
    (next : r.posted = handler :: posted) (other : handler.task? = none) :
    Harmless r (takeHandler r posted) where
  stateMutexHeld := rfl
  robotState := rfl
  preparingDish := rfl
  orderQueue := rfl
  postedTasks := by simp [postedTasks, takeHandler, next, other]
  underWay := by
    rintro (state | reconfigure | timer | timer)
    · exact .inl state
    · exact .inr (.inl (by rw [next]; exact List.mem_cons_of_mem _ reconfigure))
    · exact .inr (.inr (.inl timer))
    · exact .inr (.inr (.inr (by rw [next]; exact List.mem_cons_of_mem _ timer)))

/-- The queue `complete_reconfiguration` finds is empty, or a dish is being
prepared: the two halves of the invariant contradict each other otherwise. -/
theorem Unblocked.queue_at_completion (unblocked : Unblocked r)
    (idle : r.worker = .betweenHandlers)
    (due : .timerCompleted .completeReconfiguration ∈ r.posted) :
    r.orderQueue = [] ∨ r.preparingDish = true := by
  by_contra neither
  push Not at neither
  obtain ⟨queue, resting⟩ := neither
  have resting : r.preparingDish = false := by simpa using resting
  have available := unblocked.underWay (.inr (.inr (.inr due))) ⟨resting, .inl queue⟩
  exact unblocked.queued (by simp [idle]) resting queue available

theorem completeReconfiguration_unblocked {capability : String} {posted : List Handler}
    (unblocked : Unblocked r) (idle : r.worker = .betweenHandlers)
    (next : r.posted = .timerCompleted .completeReconfiguration :: posted)
    (ran : completeReconfiguration config (takeHandler r posted) capability = some after) :
    Unblocked after := by
  obtain ⟨capabilities, action, requeued, _, _, _, loop, rfl⟩ := completeReconfiguration_cases ran
  have outside : requeued.worker ≠ .cookNextOrder := by
    refine recalculateOrderQueue_worker _ ?_ ?_ loop
    · simp [reequip, applyProfile, takeHandler, idle]
    · exact (unblocked.queue_at_completion idle (by simp [next])).symm
  rw [if_neg outside]
  exact
    { unlocked := rfl
      underWay := fun _ _ => rfl
      queued := by simp [finishReconfiguration] }

theorem takeTask_unblocked {task : Task} {posted : List Handler}
    (unblocked : Unblocked r) (next : r.posted = .handleReceiveTask task :: posted) :
    Unblocked (takeHandler r posted) := by
  have waited : postedTasks r ≠ [] := by simp [postedTasks, next, Handler.task?]
  have underWay : ReconfigurationUnderWay (takeHandler r posted) →
      ReconfigurationUnderWay r := by
    simp only [ReconfigurationUnderWay, TimerOutstanding, takeHandler, next, List.mem_cons]
    tauto
  exact
    { unlocked := unblocked.unlocked
      underWay := fun under waits =>
        unblocked.underWay (underWay under) ⟨waits.1, .inr waited⟩
      queued := unblocked.queued }

theorem queueOrder_unblocked {task : Task} {recipe : Recipe} {posted : List Handler}
    (unblocked : Unblocked r) (next : r.posted = .handleReceiveTask task :: posted) :
    Unblocked (queueOrder (takeHandler r posted) task recipe) := by
  have waited : postedTasks r ≠ [] := by simp [postedTasks, next, Handler.task?]
  have taken := takeTask_unblocked unblocked next
  have underWay : ReconfigurationUnderWay (takeHandler r posted) →
      ReconfigurationUnderWay r := by
    simp only [ReconfigurationUnderWay, TimerOutstanding, takeHandler, next, List.mem_cons]
    tauto
  exact
    { unlocked := taken.unlocked
      underWay := fun under waits =>
        unblocked.underWay (underWay under) ⟨waits.1, .inr waited⟩
      queued := by
        intro outside resting
        have resting : r.preparingDish = false := resting
        simp [queueOrder, takeHandler, resting] at outside }

theorem handles_unblocked {capability : String} {handler : Handler} {posted : List Handler}
    (unblocked : Unblocked r) (idle : r.worker = .betweenHandlers)
    (next : r.posted = handler :: posted)
    (ran : Handles config (takeHandler r posted) capability handler after outputs) :
    Unblocked after := by
  have worker : ∀ after : Robot, r.worker = .cookNextOrder → after.worker = .cookNextOrder := by
    simp [idle]
  cases ran with
  | taskForgotten task => exact takeTask_unblocked unblocked next
  | taskQueued task recipe => exact queueOrder_unblocked unblocked next
  | committed =>
      exact
        { unlocked := unblocked.unlocked
          underWay := fun _ _ => rfl
          queued := by simp [handleNewPositionCommit] }
  | completed ran => exact completeReconfiguration_unblocked unblocked idle next ran
  | entered | targeted | moved | aborted =>
      refine unblocked.of_harmless ((pop_harmless next rfl).trans ?_) (worker _)
      exact harmless_of_same rfl rfl rfl rfl rfl rfl
  | postponed => exact unblocked.of_harmless (pop_harmless next rfl) (worker _)
  | rearranges newPosition =>
      have targeted : Harmless r (target (takeHandler r posted) newPosition) :=
        (pop_harmless next rfl).trans (harmless_of_same rfl rfl rfl rfl rfl rfl)
      exact unblocked.of_harmless (targeted.trans (handleSwitchPosition_harmless _)) (worker _)
  | reconfigures =>
      exact unblocked.of_harmless
        (handleReconfiguration_harmless (pop_harmless next rfl) (.inr (.inl (by simp [next]))))
        (worker _)
  | retooled action =>
      have equipped : Harmless r (equip (takeHandler r posted) action.requiredTool) :=
        (pop_harmless next rfl).trans (harmless_of_same rfl rfl rfl rfl rfl rfl)
      exact unblocked.of_harmless (equipped.trans (determineNextAction_harmless _)) (worker _)
  | ticked =>
      have counted : Harmless r (countDown (takeHandler r posted)) :=
        (pop_harmless next rfl).trans (harmless_of_same rfl rfl rfl rfl rfl rfl)
      exact unblocked.of_harmless (counted.trans (armTimer_harmless _ _ _ (by decide))) (worker _)
  | performed action rest =>
      have performed : Harmless r (countStep (countDown (takeHandler r posted)) rest) :=
        (pop_harmless next rfl).trans (harmless_of_same rfl rfl rfl rfl rfl rfl)
      exact unblocked.of_harmless (performed.trans (determineNextAction_harmless _)) (worker _)

theorem post_harmless (handler : Handler) (other : handler.task? = none)
    (unrelated : handler ≠ .reconfigure ∧ handler ≠ .timerCompleted .completeReconfiguration) :
    Harmless r (post r handler) where
  stateMutexHeld := rfl
  robotState := rfl
  preparingDish := rfl
  orderQueue := rfl
  postedTasks := by simp [postedTasks, post, other]
  underWay := by
    simp only [ReconfigurationUnderWay, TimerOutstanding, post, List.mem_append,
      List.mem_singleton, Ne.symm unrelated.1, Ne.symm unrelated.2, or_false, imp_self]

/-- While the robot adapts, a harmless change may also end `cook_next_order`. -/
theorem Unblocked.of_harmless_adapting (unblocked : Unblocked r) (change : Harmless r after)
    (adapting : r.robotState ≠ .available) : Unblocked after where
  unlocked := by rw [change.stateMutexHeld, unblocked.unlocked]
  underWay := by
    intro underWay waits
    rw [change.robotState]
    exact unblocked.underWay (change.underWay underWay) (change.taskWaits.mp waits)
  queued := by
    intro _ _ _
    rw [change.robotState]
    exact adapting

theorem cooks_unblocked (unblocked : Unblocked r) (cooked : Cooks config r after) :
    Unblocked after := by
  have released : Harmless r (passLock r) := harmless_of_same rfl rfl rfl rfl rfl rfl
  cases cooked with
  | rearranges rearranging =>
      exact unblocked.of_harmless_adapting (released.trans (handleSwitchPosition_harmless _))
        (by simp [rearranging])
  | reconfigures reconfiguring =>
      exact unblocked.of_harmless_adapting
        (handleReconfiguration_harmless released (.inl reconfiguring)) (by simp [reconfiguring])
  | rests available empty =>
      exact
        { unlocked := unblocked.unlocked
          underWay := fun _ _ => available
          queued := fun _ _ queue => absurd empty queue }
  | starts available nextOrder rest recipe =>
      have change := determineNextAction_harmless (startOrder (passLock r) nextOrder rest recipe)
      have preparing : (determineNextAction
          (startOrder (passLock r) nextOrder rest recipe)).preparingDish = true :=
        change.preparingDish
      refine ⟨change.stateMutexHeld.trans unblocked.unlocked, ?_, ?_⟩
      · intro _ waits
        rw [waits.1] at preparing
        contradiction
      · intro _ resting
        rw [resting] at preparing
        contradiction

theorem step_unblocked (unblocked : Unblocked r)
    (permitted : LeavesNoTaskBehind config r event) (step : Step config r event after outputs) :
    Unblocked after := by
  cases step with
  | refused => exact unblocked
  | taskAccepted task recipe action rest unlocked available =>
      refine ⟨unlocked, fun _ _ => available, unblocked.queued⟩
  | handedOver =>
      have released : Harmless r (releaseDish r) := harmless_of_same rfl rfl rfl rfl rfl rfl
      exact unblocked.of_harmless (released.trans (post_harmless _ rfl (by simp))) id
  | switchAccepted newPosition unlocked positive onBelt elsewhere available =>
      have marked : Harmless { r with robotState := .rearranging }
          (startAdaptation r .rearranging) := harmless_of_same rfl rfl rfl rfl rfl rfl
      have started := marked.trans (post_harmless (.switchPosition newPosition) rfl (by simp))
      refine ⟨unlocked, ?_, by simp [post, startAdaptation]⟩
      intro underWay waits
      have before : ReconfigurationUnderWay r := by
        rcases started.underWay underWay with state | rest
        · contradiction
        · exact .inr rest
      exact absurd (started.taskWaits.mp waits)
        (permitted ⟨positive, onBelt, elsewhere, available, rfl⟩ before)
  | commitAccepted => exact unblocked.of_harmless (post_harmless _ rfl (by simp)) id
  | reconfigureAccepted profile capabilities unlocked parsed different available =>
      have accepts : AcceptsReconfigure config r profile true :=
        ⟨by simp [parsed, different], available, rfl⟩
      refine ⟨unlocked, ?_, by simp [post, startAdaptation]⟩
      intro _ waits
      refine absurd ⟨waits.1, ?_⟩ (permitted accepts)
      simpa [TaskWaits, postedTasks, post, startAdaptation, Handler.task?] using waits.2
  | handled capability handler posted idle next ran =>
      exact handles_unblocked unblocked idle next ran
  | locked waiting unlocked ran => exact cooks_unblocked unblocked ran
  | notifyFailed => exact unblocked.of_harmless (harmless_of_same rfl rfl rfl rfl rfl rfl) id
  | notified received looping =>
      exact unblocked.of_harmless (harmless_of_same rfl rfl rfl rfl rfl rfl) (by simp [looping])
  | expired wait armed =>
      refine unblocked.of_harmless ?_ id
      refine ⟨rfl, rfl, rfl, rfl, by simp [postedTasks, post, Handler.task?], ?_⟩
      rintro (state | reconfigure | timer | timer)
      · exact .inl state
      · simp only [post, List.mem_append, List.mem_singleton, reduceCtorEq, or_false]
          at reconfigure
        exact .inr (.inl reconfigure)
      · simp [post] at timer
      · simp only [post, List.mem_append, List.mem_singleton, Handler.timerCompleted.injEq]
          at timer
        rcases timer with member | same
        · exact .inr (.inr (.inr member))
        · exact .inr (.inr (.inl (by simp [armed, same])))
  | conveyorLost | conveyorConnected | renotified =>
      exact unblocked.of_harmless (harmless_of_same rfl rfl rfl rfl rfl rfl) id
  | renotifyFailed => exact unblocked

theorem reaches_unblocked {history : History Event Output}
    (reached : (machine config).Reaches (LeavesNoTaskBehind config) history r) : Unblocked r :=
  reached.invariant (fun _ started => initial_unblocked started)
    (fun _ _ _ _ unblocked permitted taken =>
      step_unblocked unblocked permitted (step_cases taken).2)

/-- The worker waits for the mutex it holds. -/
def LockedOut (r : Robot) : Prop := r.worker = .cookNextOrder ∧ r.stateMutexHeld = true

def CompletesNext (r : Robot) : Prop :=
  r.worker = .betweenHandlers ∧
    r.posted.head? = some (.timerCompleted .completeReconfiguration)

instance (r : Robot) : Decidable (LockedOut r) := inferInstanceAs (Decidable (_ ∧ _))

instance (r : Robot) : Decidable (CompletesNext r) := inferInstanceAs (Decidable (_ ∧ _))

/-- No task is left behind by an accepted adaptation: then the worker never
reaches the mutex it holds, and whenever `complete_reconfiguration` runs, the
order queue is empty or a dish is being prepared. -/
theorem never_locked_out_of_no_task_left_behind (config : Config) (history : History Event Output)
    (r : Robot) (reached : (machine config).Reaches (LeavesNoTaskBehind config) history r) :
    ¬ LockedOut r ∧ (CompletesNext r → r.orderQueue = [] ∨ r.preparingDish = true) := by
  have unblocked := reaches_unblocked reached
  constructor
  · rintro ⟨_, held⟩
    rw [unblocked.unlocked] at held
    contradiction
  · rintro ⟨idle, due⟩
    exact unblocked.queue_at_completion idle (List.mem_of_mem_head? due)

/-- A robot that is cooking may well accept a reconfiguration. -/
theorem cooking_robot_not_locked_out :
    ∃ history r, (machine deployment).Reaches (LeavesNoTaskBehind deployment) history r ∧
      r.robotState = .reconfiguring ∧ r.attributes.recipeId = 3 ∧ ¬ LockedOut r ∧
      (CompletesNext r → r.orderQueue = [] ∨ r.preparingDish = true) := by
  obtain ⟨history, r, reached, shown⟩ := Machine.exists_reaches_of_replay
    (machine deployment) (LeavesNoTaskBehind deployment) mixingRobot_started
    [.receiveTask ⟨3, 0, 1⟩ 3, .runHandler "whip", .cookNextOrder, .reconfigure "r4.json" true]
    (fun _ r => decide (r.robotState = .reconfiguring ∧ r.attributes.recipeId = 3)) (by decide)
  obtain ⟨reconfiguring, cooking⟩ := of_decide_eq_true shown
  have safe := never_locked_out_of_no_task_left_behind deployment history r reached
  exact ⟨history, r, reached, reconfiguring, cooking, safe.1, safe.2⟩

/-- The mixing robot accepts a grape dessert and, before its worker has looked
at the task, a reconfiguration. -/
def taskBeforeReconfiguration : List Event :=
  [.receiveTask ⟨3, 0, 1⟩ 3, .reconfigure "r4.json" true, .runHandler "whip", .cookNextOrder,
   .runHandler "whip", .timerExpires]

/-- Then `complete_reconfiguration` finds the order and the worker locks itself
out. -/
theorem task_before_reconfiguration_locks_out :
    (∃ history r, (machine deployment).Reaches (fun _ _ => True) history r ∧
      history.map Prod.fst = taskBeforeReconfiguration ∧ CompletesNext r ∧
      r.orderQueue ≠ [] ∧ r.preparingDish = false) ∧
    (∃ history r, (machine deployment).Reaches (fun _ _ => True) history r ∧
      history.map Prod.fst = taskBeforeReconfiguration ++ [.runHandler "layer"] ∧
      LockedOut r) := by
  constructor
  · obtain ⟨history, r, reached, shown⟩ := Machine.exists_reaches_of_replay
      (machine deployment) (fun _ _ => True) mixingRobot_started
      taskBeforeReconfiguration
      (fun history r => decide (history.map Prod.fst = taskBeforeReconfiguration ∧
        CompletesNext r ∧ r.orderQueue ≠ [] ∧ r.preparingDish = false)) (by decide)
    exact ⟨history, r, reached, of_decide_eq_true shown⟩
  · obtain ⟨history, r, reached, shown⟩ := Machine.exists_reaches_of_replay
      (machine deployment) (fun _ _ => True) mixingRobot_started
      (taskBeforeReconfiguration ++ [.runHandler "layer"])
      (fun history r => decide (history.map Prod.fst =
        taskBeforeReconfiguration ++ [.runHandler "layer"] ∧ LockedOut r)) (by decide)
    exact ⟨history, r, reached, of_decide_eq_true shown⟩

end CpsKitchen.RobotAgent
