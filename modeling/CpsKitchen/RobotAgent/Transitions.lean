import CpsKitchen.RobotAgent.Model

/-!
# What one step of the robot can do

`step` says how the robot reacts. `Step` lists the reactions with the guards
that led to them, `step_cases` shows the list complete, and every invariant
below goes through it. The worker's own functions get one case lemma each.
-/

namespace CpsKitchen.RobotAgent

open CpsKitchen.Reactive CpsKitchen.Recipes

set_option autoImplicit false

variable {config : Config} {r after : Robot} {event : Event} {outputs : List Output}

/-- How `determine_next_action` goes on with the order in process. -/
inductive NextAction (r : Robot) : Robot → Prop where
  | finished (done : r.actionQueueInProcess = []) : NextAction r (finishOrder r true)
  | incapable (action : RobotAction) (rest : List RobotAction)
      (front : r.actionQueueInProcess = action :: rest) (incapable : ¬ isCapableTo r action) :
      NextAction r (finishOrder r false)
  | retool (action : RobotAction) (rest : List RobotAction)
      (front : r.actionQueueInProcess = action :: rest) (capable : isCapableTo r action)
      (otherTool : action.requiredTool ≠ r.currentTool) :
      NextAction r (armTimer r .retool (retoolingTime * timeUnit))
  | perform (action : RobotAction) (rest : List RobotAction)
      (front : r.actionQueueInProcess = action :: rest) (capable : isCapableTo r action)
      (equipped : action.requiredTool = r.currentTool) :
      NextAction r
        (armTimer
          { r with
            currentActionDuration := action.duration
            attributes := { r.attributes with
              actionName := action.name
              ingredients := action.ingredients } }
          .passTime (timeUnitUpdateRate * timeUnit))

theorem determineNextAction_cases (r : Robot) : NextAction r (determineNextAction r) := by
  unfold determineNextAction
  split
  next action rest front =>
    split
    next incapable => exact .incapable action rest front incapable
    next capable =>
      split
      next otherTool => exact .retool action rest front (not_not.mp capable) otherTool
      next equipped => exact .perform action rest front (not_not.mp capable) (not_not.mp equipped)
  next done => exact .finished done

/-- What `cook_next_order` does once it has the lock. -/
inductive Cooks (config : Config) (r : Robot) : Robot → Prop where
  | rearranges (rearranging : r.robotState = .rearranging) :
      Cooks config r (handleSwitchPosition config (passLock r))
  | reconfigures (reconfiguring : r.robotState = .reconfiguring) :
      Cooks config r (handleReconfiguration (passLock r))
  | rests (available : r.robotState = .available) (empty : r.orderQueue = []) :
      Cooks config r { passLock r with preparingDish := false }
  | starts (available : r.robotState = .available) (nextOrder : Order) (rest : List Order)
      (recipe : Recipe) (front : r.orderQueue = nextOrder :: rest)
      (known : config.recipeParser.getRecipe nextOrder.recipeId = some recipe) :
      Cooks config r
        (determineNextAction
          (startOrder (passLock r) nextOrder rest recipe))

theorem cookNextOrder_cases (ran : cookNextOrder config r = some after) :
    Cooks config r after := by
  unfold cookNextOrder at ran
  simp only at ran
  split at ran
  next rearranging =>
    cases ran
    exact .rearranges rearranging
  next reconfiguring =>
    cases ran
    exact .reconfigures reconfiguring
  next available =>
    split at ran
    next empty =>
      cases ran
      exact .rests available empty
    next nextOrder rest front =>
      split at ran
      · contradiction
      next recipe known =>
        cases ran
        exact Cooks.starts (r := r) available nextOrder rest recipe front known

theorem handleReceiveTask_cases {task : Task}
    (ran : handleReceiveTask config r task = some after) :
    config.recipeParser.getRecipe task.recipeId = none ∧ after = r ∨
    ∃ recipe, config.recipeParser.getRecipe task.recipeId = some recipe ∧
      task.overallProcessedSteps ≤ recipe.actionQueue.length ∧
      after = queueOrder r task recipe := by
  unfold handleReceiveTask at ran
  split at ran
  next unknown =>
    cases ran
    exact .inl ⟨unknown, rfl⟩
  next recipe known =>
    split at ran
    · contradiction
    next enough =>
      cases ran
      exact .inr ⟨recipe, known, Nat.le_of_not_lt enough, rfl⟩

/-- What the worker does with its next handler, `r` is the robot that has
taken it. -/
inductive Handles (config : Config) (r : Robot) (capability : String) :
    Handler → Robot → List Output → Prop where
  | taskForgotten (task : Task)
      (unknown : config.recipeParser.getRecipe task.recipeId = none) :
      Handles config r capability (.handleReceiveTask task) r []
  | taskQueued (task : Task) (recipe : Recipe)
      (known : config.recipeParser.getRecipe task.recipeId = some recipe)
      (enough : task.overallProcessedSteps ≤ recipe.actionQueue.length) :
      Handles config r capability (.handleReceiveTask task) (queueOrder r task recipe) []
  | entered : Handles config r capability .cookNextOrder (enterCookNextOrder r) []
  | targeted (newPosition : Position) (preparing : r.preparingDish = true) :
      Handles config r capability (.switchPosition newPosition) (target r newPosition) []
  | rearranges (newPosition : Position) (resting : r.preparingDish = false) :
      Handles config r capability (.switchPosition newPosition)
        (handleSwitchPosition config (target r newPosition)) []
  | postponed (preparing : r.preparingDish = true) :
      Handles config r capability .reconfigure r []
  | reconfigures (resting : r.preparingDish = false) :
      Handles config r capability .reconfigure (handleReconfiguration r) []
  | committed :
      Handles config r capability .handleNewPositionCommit (handleNewPositionCommit r) []
  | retooled (action : RobotAction) (rest : List RobotAction)
      (front : r.actionQueueInProcess = action :: rest) :
      Handles config r capability (.timerCompleted .retool)
        (determineNextAction (equip r action.requiredTool)) []
  | ticked (left : (countDown r).currentActionDuration ≠ 0) :
      Handles config r capability (.timerCompleted .passTime)
        (armTimer (countDown r) .passTime (timeUnitUpdateRate * timeUnit)) []
  | performed (action : RobotAction) (rest : List RobotAction)
      (elapsed : (countDown r).currentActionDuration = 0)
      (front : r.actionQueueInProcess = action :: rest) :
      Handles config r capability (.timerCompleted .passTime)
        (determineNextAction (countStep (countDown r) rest))
        [.actionPerformed r.dishInProcess action (isCapableTo r action)]
  | moved :
      Handles config r capability (.timerCompleted .moveToNewPosition) (moveToNewPosition r) []
  | completed {after : Robot} (ran : completeReconfiguration config r capability = some after) :
      Handles config r capability (.timerCompleted .completeReconfiguration) after []
  | aborted : Handles config r capability .timerAborted (stop r) []

theorem handle_cases {capability : String} {handler : Handler}
    (ran : handle config r capability handler = some (after, outputs)) :
    Handles config r capability handler after outputs := by
  cases handler with
  | handleReceiveTask task =>
      obtain ⟨robot, received, same⟩ := Option.map_eq_some_iff.mp ran
      cases same
      rcases handleReceiveTask_cases received with ⟨unknown, rfl⟩ | ⟨recipe, known, enough, rfl⟩
      · exact .taskForgotten task unknown
      · exact .taskQueued task recipe known enough
  | cookNextOrder =>
      cases ran
      exact .entered
  | switchPosition newPosition =>
      simp only [handle, Option.some.injEq, Prod.mk.injEq] at ran
      obtain ⟨rfl, rfl⟩ := ran
      split
      next preparing => exact .targeted newPosition preparing
      next resting => exact .rearranges newPosition (by simpa using resting)
  | reconfigure =>
      simp only [handle, Option.some.injEq, Prod.mk.injEq] at ran
      obtain ⟨rfl, rfl⟩ := ran
      split
      next preparing => exact .postponed preparing
      next resting => exact .reconfigures (by simpa using resting)
  | handleNewPositionCommit =>
      cases ran
      exact .committed
  | timerCompleted task =>
      cases task with
      | retool =>
          obtain ⟨robot, retooled, same⟩ := Option.map_eq_some_iff.mp ran
          cases same
          unfold retool at retooled
          split at retooled
          · contradiction
          next action rest front =>
            cases retooled
            exact .retooled action rest front
      | passTime =>
          simp only [handle, passTime] at ran
          split at ran
          next left =>
            cases ran
            exact .ticked left
          next elapsed =>
            unfold actionPerformed at ran
            split at ran
            · contradiction
            next action rest front =>
              cases ran
              exact .performed action rest (not_not.mp elapsed) front
      | moveToNewPosition =>
          cases ran
          exact .moved
      | completeReconfiguration =>
          obtain ⟨robot, completed, same⟩ := Option.map_eq_some_iff.mp ran
          cases same
          exact .completed completed
  | timerAborted =>
      cases ran
      exact .aborted

/-- The robot when `complete_reconfiguration` starts to refill the queue. -/
def reequip (r : Robot) (capabilities : Finset String) (tool : RobotTool) : Robot :=
  { applyProfile r capabilities with
    currentTool := tool
    orderQueue := []
    attributes := { r.attributes with
      capabilities := capabilities
      currentTool := tool
      lastEquippedTool := tool
      overallTime := 0 } }

theorem completeReconfiguration_cases {capability : String}
    (ran : completeReconfiguration config r capability = some after) :
    ∃ capabilities action requeued,
      config.capabilityParser.getCapabilities r.newCapabilitiesProfile = some capabilities ∧
      capability ∈ capabilities ∧ getRobotAction capability = some action ∧
      recalculateOrderQueue config (reequip r capabilities action.requiredTool) r.orderQueue =
        some requeued ∧
      after = if requeued.worker = .cookNextOrder then requeued
        else finishReconfiguration requeued := by
  unfold completeReconfiguration at ran
  split at ran
  · contradiction
  next capabilities parsed =>
    unfold setCurrentAndLastEquippedTool at ran
    split at ran
    next outcome chosen =>
      split at chosen
      · split at chosen <;> contradiction
      · contradiction
    next equipped chosen =>
      split at chosen
      next member =>
        split at chosen
        · contradiction
        next action registered =>
          cases chosen
          split at ran
          · contradiction
          next requeued loop =>
            refine ⟨capabilities, action, requeued, parsed, member, registered, loop, ?_⟩
            split at ran <;> cases ran <;> simp_all
      · contradiction

def refill (r : Robot) (queue : List Order) (overallTime : Nat) (lastEquippedTool : RobotTool)
    (worker : Worker) (pending : List Order) : Robot :=
  { r with
    orderQueue := queue
    worker := worker
    pendingOrders := pending
    attributes := { r.attributes with
      overallTime := overallTime
      lastEquippedTool := lastEquippedTool } }

theorem queueOrder_refills (r : Robot) (task : Task) (recipe : Recipe) :
    ∃ queue overallTime lastEquippedTool worker, queueOrder r task recipe =
        refill r queue overallTime lastEquippedTool worker r.pendingOrders ∧
      (worker = r.worker ∨ worker = .cookNextOrder) := by
  refine ⟨_, _, _, _, rfl, ?_⟩
  cases r.preparingDish
  · exact .inr rfl
  · exact .inl rfl

theorem recalculateOrderQueue_refills {before : Robot} (orders : List Order)
    (ran : recalculateOrderQueue config before orders = some after) :
    ∃ queue overallTime lastEquippedTool worker pending,
      after = refill before queue overallTime lastEquippedTool worker pending ∧
      (worker = before.worker ∨ worker = .cookNextOrder) := by
  induction orders generalizing before with
  | nil =>
      cases ran
      exact ⟨_, _, _, _, _, rfl, .inl rfl⟩
  | cons order pending ih =>
      rw [recalculateOrderQueue] at ran
      split at ran
      · contradiction
      next handled received =>
        have refills : ∃ queue overallTime lastEquippedTool worker, handled =
            refill before queue overallTime lastEquippedTool worker before.pendingOrders ∧
            (worker = before.worker ∨ worker = .cookNextOrder) := by
          rcases handleReceiveTask_cases received with ⟨_, rfl⟩ | ⟨recipe, _, _, rfl⟩
          · exact ⟨_, _, _, _, rfl, .inl rfl⟩
          · exact queueOrder_refills before order.toTask recipe
        obtain ⟨_, _, _, worker, rfl, entered⟩ := refills
        split at ran
        · cases ran
          exact ⟨_, _, _, _, _, rfl, entered⟩
        · obtain ⟨_, _, _, later, _, rfl, kept⟩ := ih ran
          refine ⟨_, _, _, _, _, rfl, ?_⟩
          rcases kept with rfl | locked
          · exact entered
          · exact .inr locked

/-- A server method that leaves the robot as it found it. -/
inductive Refused (config : Config) (r : Robot) : Event → List Output → Prop where
  | task (task : Task) (addressedPosition : Position) :
      Refused config r (.receiveTask task addressedPosition) [.taskReply task r.position false]
  | handover (pending : r.pendingPickup = false) :
      Refused config r .handoverFinishedOrder
        [.handoverReply r.dishInProcess (zeroReply config r)]
  | switchPosition (newPosition : Position) (availabilityWritten : Bool) :
      Refused config r (.switchPosition newPosition availabilityWritten) [.result false]
  | commit (early : r.robotState ≠ .rearranging ∨
        r.attributes.newPositionCommitIsPending = false) :
      Refused config r .commitNewPosition [.result false]
  | reconfigure (profile : String) (availabilityWritten : Bool) :
      Refused config r (.reconfigure profile availabilityWritten) [.result false]

inductive Step (config : Config) (r : Robot) : Event → Robot → List Output → Prop where
  | refused {event : Event} {outputs : List Output} (refusal : Refused config r event outputs) :
      Step config r event r outputs
  | taskAccepted (task : Task) (recipe : Recipe) (action : RobotAction)
      (rest : List RobotAction) (unlocked : r.stateMutexHeld = false)
      (available : r.robotState = .available)
      (known : config.recipeParser.getRecipe task.recipeId = some recipe)
      (remaining : recipe.actionQueue.drop task.overallProcessedSteps = action :: rest)
      (capable : isCapableTo r action) :
      Step config r (.receiveTask task r.position) (post r (.handleReceiveTask task))
        [.taskReply task r.position true]
  | handedOver (pending : r.pendingPickup = true) :
      Step config r .handoverFinishedOrder (post (releaseDish r) .cookNextOrder)
        [.handoverReply r.dishInProcess (handoverReply config r)]
  | switchAccepted (newPosition : Position) (unlocked : r.stateMutexHeld = false)
      (positive : 0 < newPosition) (onBelt : newPosition ≤ config.conveyorSize - 1)
      (elsewhere : newPosition ≠ r.position) (available : r.robotState = .available) :
      Step config r (.switchPosition newPosition true)
        (post (startAdaptation r .rearranging) (.switchPosition newPosition)) [.result true]
  | commitAccepted (unlocked : r.stateMutexHeld = false)
      (rearranging : r.robotState = .rearranging)
      (pending : r.attributes.newPositionCommitIsPending = true) :
      Step config r .commitNewPosition (post r .handleNewPositionCommit) [.result true]
  | reconfigureAccepted (profile : String) (capabilities : Finset String)
      (unlocked : r.stateMutexHeld = false)
      (parsed : config.capabilityParser.getCapabilities profile = some capabilities)
      (different : capabilities ≠ r.capabilities) (available : r.robotState = .available) :
      Step config r (.reconfigure profile true)
        (post { startAdaptation r .reconfiguring with newCapabilitiesProfile := profile }
          .reconfigure) [.result true]
  | handled {after : Robot} {outputs : List Output} (capability : String) (handler : Handler)
      (posted : List Handler) (idle : r.worker = .betweenHandlers)
      (next : r.posted = handler :: posted)
      (ran : Handles config (takeHandler r posted) capability handler after outputs) :
      Step config r (.runHandler capability) after outputs
  | locked {after : Robot} (waiting : r.worker = .cookNextOrder)
      (unlocked : r.stateMutexHeld = false) (ran : Cooks config r after) :
      Step config r .cookNextOrder after []
  | notifyFailed (looping : r.worker = .notifyingConveyor) :
      Step config r (.notifyConveyor none) { r with conveyorClient := false } []
  | notified (received : Bool) (looping : r.worker = .notifyingConveyor) :
      Step config r (.notifyConveyor (some received))
        { r with pendingPickup := true, worker := .betweenHandlers, running := received }
        [.finishedOrderNotification r.position]
  | expired (wait : Wait) (armed : r.steadyTimer = some wait) :
      Step config r .timerExpires
        (post { r with steadyTimer := none } (.timerCompleted wait.task)) []
  | conveyorLost : Step config r .conveyorLost { r with conveyorClient := false } []
  | conveyorConnected (reply : Option Bool) (pending : r.pendingPickup = false) :
      Step config r (.conveyorConnected reply) { r with conveyorClient := true } []
  | renotifyFailed (pending : r.pendingPickup = true) :
      Step config r (.conveyorConnected none) r []
  | renotified (received : Bool) (pending : r.pendingPickup = true) :
      Step config r (.conveyorConnected (some received))
        { r with conveyorClient := true, running := received }
        [.finishedOrderNotification r.position]

private theorem receiveTask_cases {task : Task} {addressedPosition : Position}
    (unlocked : r.stateMutexHeld = false)
    (taken : receiveTask config r task addressedPosition = some (after, outputs)) :
    Step config r (.receiveTask task addressedPosition) after outputs := by
  unfold receiveTask at taken
  split at taken
  · cases taken
    exact .refused (.task task addressedPosition)
  next open_ =>
    push Not at open_
    obtain ⟨available, rfl⟩ := open_
    split at taken
    · contradiction
    next recipe known =>
      split at taken
      · contradiction
      next action rest remaining =>
        split at taken
        next capable =>
          cases taken
          exact .taskAccepted task recipe action rest unlocked available known remaining capable
        · cases taken
          exact .refused (.task task r.position)

private theorem switchPosition_cases {newPosition : Position} {availabilityWritten : Bool}
    (taken : switchPosition config r newPosition availabilityWritten = some (after, outputs)) :
    Step config r (.switchPosition newPosition availabilityWritten) after outputs := by
  unfold switchPosition at taken
  split at taken
  · cases taken
    exact .refused (.switchPosition newPosition availabilityWritten)
  next valid =>
    push Not at valid
    obtain ⟨positive, onBelt, elsewhere⟩ := valid
    split at taken
    · contradiction
    next unlocked =>
      split at taken
      next accepted =>
        obtain ⟨available, rfl⟩ := accepted
        cases taken
        exact .switchAccepted newPosition (by simpa using unlocked) positive onBelt elsewhere
          available
      · cases taken
        exact .refused (.switchPosition newPosition availabilityWritten)

private theorem reconfigure_cases {profile : String} {availabilityWritten : Bool}
    (taken : reconfigure config r profile availabilityWritten = some (after, outputs)) :
    Step config r (.reconfigure profile availabilityWritten) after outputs := by
  unfold reconfigure at taken
  split at taken
  · contradiction
  next capabilities parsed =>
    split at taken
    · cases taken
      exact .refused (.reconfigure profile availabilityWritten)
    next different =>
      split at taken
      · contradiction
      next unlocked =>
        split at taken
        next accepted =>
          obtain ⟨available, rfl⟩ := accepted
          cases taken
          exact .reconfigureAccepted profile capabilities (by simpa using unlocked) parsed
            different available
        · cases taken
          exact .refused (.reconfigure profile availabilityWritten)

theorem step_cases (taken : step config r event = some (after, outputs)) :
    r.running = true ∧ Step config r event after outputs := by
  unfold step at taken
  split at taken
  next running =>
    refine ⟨running, ?_⟩
    cases event with
    | receiveTask task addressedPosition =>
        simp only at taken
        split at taken
        · contradiction
        next unlocked => exact receiveTask_cases (by simpa using unlocked) taken
    | handoverFinishedOrder =>
        simp only [handleHandoverFinishedOrder] at taken
        split at taken
        next pending =>
          cases taken
          exact .handedOver pending
        next pending =>
          cases taken
          exact .refused (.handover (by simpa using pending))
    | switchPosition newPosition availabilityWritten => exact switchPosition_cases taken
    | commitNewPosition =>
        simp only [commitNewPosition] at taken
        split at taken
        · contradiction
        next unlocked =>
          split at taken
          next early =>
            cases taken
            exact .refused (.commit early)
          next accepted =>
            push Not at accepted
            cases taken
            exact .commitAccepted (by simpa using unlocked) accepted.1 (by simpa using accepted.2)
    | reconfigure profile availabilityWritten => exact reconfigure_cases taken
    | runHandler capability =>
        simp only at taken
        split at taken
        next handler posted idle next =>
          exact .handled capability handler posted idle next (handle_cases taken)
        · contradiction
    | cookNextOrder =>
        simp only at taken
        split at taken
        next entered =>
          obtain ⟨robot, ran, same⟩ := Option.map_eq_some_iff.mp taken
          cases same
          exact .locked entered.1 (by simpa using entered.2) (cookNextOrder_cases ran)
        · contradiction
    | notifyConveyor reply =>
        simp only at taken
        split at taken
        next entered =>
          cases reply with
          | none =>
              cases taken
              exact .notifyFailed entered.1
          | some received =>
              cases taken
              exact .notified received entered.1
        · contradiction
    | timerExpires =>
        simp only at taken
        split at taken
        · contradiction
        next wait armed =>
          cases taken
          exact .expired wait armed
    | conveyorLost =>
        cases taken
        exact .conveyorLost
    | conveyorConnected reply =>
        simp only at taken
        split at taken
        · contradiction
        · split at taken
          next pending =>
            cases taken
            exact .conveyorConnected reply (by simpa using pending)
          next pending =>
            have waiting : r.pendingPickup = true := by simpa using pending
            split at taken
            · cases taken
              exact .renotifyFailed waiting
            · cases taken
              exact .renotified _ waiting
  · contradiction

end CpsKitchen.RobotAgent
