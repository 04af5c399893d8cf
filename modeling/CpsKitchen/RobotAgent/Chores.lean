import CpsKitchen.RobotAgent.TimeToRest

/-!
# What a robot does beside its actions

Every step of a robot that is left alone takes something off its chores, except
the ones that spend a unit of time.
-/

namespace CpsKitchen.RobotAgent

open CpsKitchen.Reactive CpsKitchen.Recipes

set_option autoImplicit false

variable {config : Config} {r after : Robot} {event : Event} {outputs : List Output}

section Chores

def Handler.weight : Handler → Nat
  | .handleReceiveTask _ => 7
  | .cookNextOrder => 2
  | .switchPosition _ => 1
  | _ => 0

def dishWeight (r : Robot) : Nat :=
  if r.attributes.recipeId = 0 then 0 else if r.pendingPickup then 3 else 4

/-- The steps of a rearrangement, by whether its commit is pending, whether the
handler of the commit is posted and whether the robot is on its way. -/
def RobotState.weight : RobotState → Bool → Bool → Bool → Nat
  | .rearranging, true, true, _ => 2
  | .rearranging, true, false, _ => 3
  | .rearranging, false, _, true => 4
  | .rearranging, false, _, false => 5
  | _, _, _, _ => 0

def travelWeight (r : Robot) : Nat :=
  r.robotState.weight r.attributes.newPositionCommitIsPending
    (decide (.handleNewPositionCommit ∈ r.posted)) r.alreadyRearranging

def Worker.weight : Worker → Nat
  | .cookNextOrder => 1
  | _ => 0

/-- The steps that are still to be taken and take no time off the load. -/
def chores (r : Robot) : Nat :=
  r.steadyTimer.isSome.toNat + (r.posted.map Handler.weight).sum + 5 * r.orderQueue.length +
    dishWeight r + travelWeight r + r.worker.weight + (!r.conveyorClient).toNat

theorem travelWeight_congr (state : after.robotState = r.robotState)
    (pending : after.attributes.newPositionCommitIsPending =
      r.attributes.newPositionCommitIsPending)
    (flag : after.alreadyRearranging = r.alreadyRearranging)
    (commit : Handler.handleNewPositionCommit ∈ after.posted ↔
      Handler.handleNewPositionCommit ∈ r.posted) : travelWeight after = travelWeight r := by
  rw [travelWeight, travelWeight, state, pending, flag, decide_eq_decide.mpr commit]

theorem chores_exchange (r after : Robot) (timer : after.steadyTimer = r.steadyTimer)
    (posted : after.posted = r.posted) (queue : after.orderQueue = r.orderQueue)
    (client : after.conveyorClient = r.conveyorClient) :
    chores after + (dishWeight r + travelWeight r + r.worker.weight) =
      chores r + (dishWeight after + travelWeight after + after.worker.weight) := by
  rw [chores, chores, timer, posted, queue, client]
  omega

theorem armTimer_chores (r : Robot) (task : TimerTask) (delay : Nat) :
    chores (armTimer r task delay) ≤ chores r + 1 := by
  have dish : dishWeight (armTimer r task delay) = dishWeight r := rfl
  have travel : travelWeight (armTimer r task delay) = travelWeight r := by
    apply travelWeight_congr <;> simp [armTimer]
    split <;> simp
  rw [chores, chores, dish, travel]
  cases armed : r.steadyTimer with
  | none =>
      simp only [armTimer, armed, Option.isSome_none, Option.isSome_some, Bool.toNat_false,
        Bool.toNat_true, Bool.false_eq_true, if_false]
      omega
  | some wait => simp [armTimer, armed, Handler.weight]

theorem finishOrder_chores (r : Robot) (finished : Bool) :
    chores (finishOrder r finished) ≤ chores r := by
  have dish : dishWeight (finishOrder r finished) = dishWeight r := rfl
  have travel : travelWeight (finishOrder r finished) = travelWeight r := rfl
  have worker : (finishOrder r finished).worker.weight = 0 := rfl
  have exchange := chores_exchange r (finishOrder r finished) rfl rfl rfl rfl
  omega

theorem determineNextAction_chores (r : Robot) :
    chores (determineNextAction r) ≤ chores r + 1 := by
  have outcome := determineNextAction_cases r
  generalize determineNextAction r = after at outcome
  cases outcome with
  | finished | incapable => exact (finishOrder_chores r _).trans (Nat.le_succ _)
  | retool => exact armTimer_chores r _ _
  | perform => exact armTimer_chores _ _ _

theorem handleSwitchPosition_chores (config : Config) (r : Robot)
    (rearranging : r.robotState = .rearranging)
    (moving : r.attributes.newPositionCommitIsPending = true → r.alreadyRearranging = true) :
    chores (handleSwitchPosition config r) ≤ chores r := by
  unfold handleSwitchPosition
  split
  · exact le_rfl
  next fresh =>
    have fresh : r.alreadyRearranging = false := by simpa using fresh
    have early : r.attributes.newPositionCommitIsPending = false := by
      by_contra pending
      have already := moving (by simpa using pending)
      rw [fresh] at already
      contradiction
    have flagged : chores { r with alreadyRearranging := true } + 1 = chores r := by
      have before : travelWeight r = 5 := by
        simp [travelWeight, rearranging, early, fresh, RobotState.weight]
      have later : travelWeight { r with alreadyRearranging := true } = 4 := by
        simp [travelWeight, rearranging, early, RobotState.weight]
      have dish : dishWeight { r with alreadyRearranging := true } = dishWeight r := rfl
      have exchange := chores_exchange r { r with alreadyRearranging := true }
        rfl rfl rfl rfl
      simp only [before, later, dish] at exchange
      omega
    exact (armTimer_chores _ _ _).trans flagged.le

theorem take_chores {handler : Handler} {posted : List Handler}
    (next : r.posted = handler :: posted) (other : handler ≠ .handleNewPositionCommit) :
    chores (takeHandler r posted) + handler.weight = chores r := by
  have travel : travelWeight (takeHandler r posted) = travelWeight r := by
    apply travelWeight_congr <;> simp [takeHandler, next, other.symm]
  have dish : dishWeight (takeHandler r posted) = dishWeight r := rfl
  rw [chores, chores, travel, dish, next, List.map_cons, List.sum_cons]
  simp only [takeHandler]
  omega

theorem post_chores (r : Robot) (handler : Handler) (other : handler ≠ .handleNewPositionCommit) :
    chores (post r handler) = chores r + handler.weight := by
  have travel : travelWeight (post r handler) = travelWeight r := by
    apply travelWeight_congr <;> simp [post, other.symm]
  have dish : dishWeight (post r handler) = dishWeight r := rfl
  rw [chores, chores, travel, dish]
  simp only [post, List.map_append, List.map_cons, List.map_nil, List.sum_append, List.sum_cons,
    List.sum_nil]
  omega

theorem queueOrder_chores (r : Robot) (task : Task) (recipe : Recipe) :
    chores (queueOrder r task recipe) ≤ chores r + 6 := by
  have dish : dishWeight (queueOrder r task recipe) = dishWeight r := rfl
  have travel : travelWeight (queueOrder r task recipe) = travelWeight r := rfl
  have entering : (queueOrder r task recipe).worker.weight ≤ 1 := by
    cases (queueOrder r task recipe).worker <;> simp [Worker.weight]
  have longer : (queueOrder r task recipe).orderQueue.length = r.orderQueue.length + 1 := by
    simp [queueOrder]
  have others : (queueOrder r task recipe).steadyTimer = r.steadyTimer ∧
      (queueOrder r task recipe).posted = r.posted ∧
      (queueOrder r task recipe).conveyorClient = r.conveyorClient := ⟨rfl, rfl, rfl⟩
  rw [chores, chores, dish, travel, longer, others.1, others.2.1, others.2.2]
  omega

theorem startOrder_chores {nextOrder : Order} {rest : List Order} (recipe : Recipe)
    (front : r.orderQueue = nextOrder :: rest) (resting : r.attributes.recipeId = 0) :
    chores (startOrder r nextOrder rest recipe) + 1 ≤ chores r := by
  have dish : dishWeight r = 0 := if_pos resting
  have prepared : dishWeight (startOrder r nextOrder rest recipe) ≤ 4 := by
    unfold dishWeight
    split_ifs <;> omega
  have travel : travelWeight (startOrder r nextOrder rest recipe) = travelWeight r := rfl
  rw [chores, chores, dish, travel, front, List.length_cons]
  simp only [startOrder] at prepared ⊢
  omega

theorem passLock_chores (waiting : r.worker = .cookNextOrder) :
    chores (passLock r) + 1 = chores r := by
  have dish : dishWeight (passLock r) = dishWeight r := rfl
  have travel : travelWeight (passLock r) = travelWeight r := rfl
  have entering : r.worker.weight = 1 := by rw [waiting]; rfl
  have entered : (passLock r).worker.weight = 0 := rfl
  have exchange := chores_exchange r (passLock r) rfl rfl rfl rfl
  omega

theorem moveToNewPosition_chores (steady : Steady config r) {posted : List Handler}
    (next : r.posted = .timerCompleted .moveToNewPosition :: posted) :
    chores (moveToNewPosition (takeHandler r posted)) + 1 ≤ chores r := by
  have due : TimerOutstanding r .moveToNewPosition := .inr (by simp [next])
  have flag := steady.one.moving (.inl due)
  have state := (steady.one.rearranging flag).1
  have early : r.attributes.newPositionCommitIsPending = false :=
    (steady.one.quiet_after_take next rfl).commit
  have taken := take_chores next (by simp)
  have before : travelWeight (takeHandler r posted) = 4 := by
    simp [travelWeight, takeHandler, state, early, flag, RobotState.weight]
  have arrived : travelWeight (moveToNewPosition (takeHandler r posted)) ≤ 3 := by
    simp only [travelWeight, moveToNewPosition, takeHandler, state]
    cases decide (Handler.handleNewPositionCommit ∈ posted) <;> simp [RobotState.weight]
  have dish : dishWeight (moveToNewPosition (takeHandler r posted)) =
      dishWeight (takeHandler r posted) := rfl
  have worker : (moveToNewPosition (takeHandler r posted)).worker.weight =
      (takeHandler r posted).worker.weight := rfl
  have exchange := chores_exchange (takeHandler r posted)
    (moveToNewPosition (takeHandler r posted)) rfl rfl rfl rfl
  omega

theorem handleNewPositionCommit_chores (steady : Steady config r) {posted : List Handler}
    (idle : r.worker = .betweenHandlers) (next : r.posted = .handleNewPositionCommit :: posted) :
    chores (handleNewPositionCommit (takeHandler r posted)) + 1 ≤ chores r := by
  have due : .handleNewPositionCommit ∈ r.posted := by simp [next]
  obtain ⟨state, pending⟩ := steady.one.rearranging_of_commit due
  have before : travelWeight r = 2 := by
    simp [travelWeight, state, pending, next, RobotState.weight]
  have later : travelWeight (handleNewPositionCommit (takeHandler r posted)) = 0 := by
    simp [travelWeight, handleNewPositionCommit, RobotState.weight]
  have dish : dishWeight (handleNewPositionCommit (takeHandler r posted)) = dishWeight r := rfl
  have resting : r.worker.weight = 0 := by rw [idle]; rfl
  rw [chores, chores, before, later, dish, next, resting, List.map_cons, List.sum_cons]
  simp only [handleNewPositionCommit, takeHandler, Worker.weight, Handler.weight]
  omega

theorem handles_chores (steady : Steady config r) {capability : String} {handler : Handler}
    {posted : List Handler} (idle : r.worker = .betweenHandlers)
    (next : r.posted = handler :: posted)
    (ran : Handles config (takeHandler r posted) capability handler after outputs) :
    chores after + 1 ≤ chores r + 2 * handler.spendsUnit.toNat := by
  cases ran with
  | taskForgotten =>
      have taken := take_chores next (by simp)
      simp only [Handler.weight] at taken
      omega
  | taskQueued task recipe =>
      have taken := take_chores next (by simp)
      have queued := queueOrder_chores (takeHandler r posted) task recipe
      simp only [Handler.weight] at taken
      omega
  | entered =>
      have taken := take_chores next (by simp)
      have exchange := chores_exchange (takeHandler r posted)
        (enterCookNextOrder (takeHandler r posted)) rfl rfl rfl rfl
      have dish : dishWeight (enterCookNextOrder (takeHandler r posted)) =
          dishWeight (takeHandler r posted) := rfl
      have travel : travelWeight (enterCookNextOrder (takeHandler r posted)) =
          travelWeight (takeHandler r posted) := rfl
      have entering : (enterCookNextOrder (takeHandler r posted)).worker.weight = 1 := rfl
      simp only [Handler.weight] at taken
      omega
  | targeted newPosition =>
      have taken := take_chores next (by simp)
      have same : chores (target (takeHandler r posted) newPosition) =
          chores (takeHandler r posted) := rfl
      simp only [Handler.weight] at taken
      omega
  | rearranges newPosition =>
      have taken := take_chores next (by simp)
      obtain ⟨state, early⟩ := steady.one.switching (.switchPosition newPosition)
        (by simp [next]) ⟨newPosition, rfl⟩
      have same : chores (target (takeHandler r posted) newPosition) =
          chores (takeHandler r posted) := rfl
      have moves := handleSwitchPosition_chores config
        (target (takeHandler r posted) newPosition) state
        (fun pending => absurd (early.symm.trans pending) (by simp))
      simp only [Handler.weight] at taken
      omega
  | postponed | reconfigures =>
      have reconfiguring := steady.one.reconfigure (by simp [next])
      exact absurd reconfiguring steady.state
  | committed => exact handleNewPositionCommit_chores steady idle next
  | retooled action =>
      have taken := take_chores next (by simp)
      have same : chores (equip (takeHandler r posted) action.requiredTool) =
          chores (takeHandler r posted) := rfl
      have decided := determineNextAction_chores
        (equip (takeHandler r posted) action.requiredTool)
      simp only [Handler.weight, Handler.spendsUnit, Bool.toNat_true] at taken ⊢
      omega
  | ticked =>
      have taken := take_chores next (by simp)
      have same : chores (countDown (takeHandler r posted)) = chores (takeHandler r posted) := rfl
      have armed := armTimer_chores (countDown (takeHandler r posted)) .passTime
        (timeUnitUpdateRate * timeUnit)
      simp only [Handler.weight, Handler.spendsUnit, Bool.toNat_true] at taken ⊢
      omega
  | performed action rest =>
      have taken := take_chores next (by simp)
      have same : chores (countStep (countDown (takeHandler r posted)) rest) =
          chores (takeHandler r posted) := rfl
      have decided := determineNextAction_chores (countStep (countDown (takeHandler r posted)) rest)
      simp only [Handler.weight, Handler.spendsUnit, Bool.toNat_true] at taken ⊢
      omega
  | moved => exact moveToNewPosition_chores steady next
  | completed => exact absurd (by simp [next]) steady.no_completion
  | aborted => exact absurd (by simp [next]) steady.one.notAborted

theorem cooks_chores (steady : Steady config r) (waiting : r.worker = .cookNextOrder)
    (cooked : Cooks config r after) : chores after + 1 ≤ chores r := by
  have passed := passLock_chores waiting
  cases cooked with
  | rearranges state =>
      have moves := handleSwitchPosition_chores config (passLock r) state
        (fun pending => steady.one.moving (.inr pending))
      omega
  | reconfigures reconfiguring => exact absurd reconfiguring steady.state
  | rests =>
      have same : chores { passLock r with preparingDish := false } = chores (passLock r) := rfl
      omega
  | starts available nextOrder rest recipe front =>
      have started := startOrder_chores (r := passLock r) recipe front
        (steady.one.entering waiting).1
      have decided := determineNextAction_chores (startOrder (passLock r) nextOrder rest recipe)
      omega

theorem handedOver_chores (steady : Steady config r) (pending : r.pendingPickup = true) :
    chores (post (releaseDish r) .cookNextOrder) + 1 ≤ chores r := by
  have cooking := steady.one.cooking (.inr (.inr (.inr pending)))
  have before : dishWeight r = 3 := by simp [dishWeight, cooking, pending]
  have later : dishWeight (releaseDish r) = 0 := rfl
  have travel : travelWeight (releaseDish r) = travelWeight r := rfl
  have worker : (releaseDish r).worker.weight = r.worker.weight := rfl
  have exchange := chores_exchange r (releaseDish r) rfl rfl rfl rfl
  have posted := post_chores (releaseDish r) .cookNextOrder (by simp)
  simp only [Handler.weight] at posted
  omega

theorem commitAccepted_chores (state : r.robotState = .rearranging)
    (pending : r.attributes.newPositionCommitIsPending = true)
    (once : .handleNewPositionCommit ∉ r.posted) :
    chores (post r .handleNewPositionCommit) + 1 = chores r := by
  have before : travelWeight r = 3 := by
    simp [travelWeight, state, pending, once, RobotState.weight]
  have later : travelWeight (post r .handleNewPositionCommit) = 2 := by
    simp [travelWeight, post, state, pending, RobotState.weight]
  have dish : dishWeight (post r .handleNewPositionCommit) = dishWeight r := rfl
  rw [chores, chores, before, later, dish]
  simp only [post, List.map_append, List.map_cons, List.map_nil, List.sum_append, List.sum_cons,
    List.sum_nil, Handler.weight]
  omega

theorem notified_chores (steady : Steady config r) (looping : r.worker = .notifyingConveyor) :
    chores { r with pendingPickup := true, worker := .betweenHandlers, running := true } + 1 =
      chores r := by
  have cooking := steady.one.cooking (.inr (.inr (.inl looping)))
  have early : r.pendingPickup = false := by
    have single := steady.one.single
    cases pending : r.pendingPickup with
    | false => rfl
    | true =>
        simp only [outstanding, isNotifying, looping, pending, decide_true, Bool.toNat_true]
          at single
        omega
  have before : dishWeight r = 4 := by simp [dishWeight, cooking, early]
  have later : dishWeight
      { r with pendingPickup := true, worker := .betweenHandlers, running := true } = 3 := by
    simp [dishWeight, cooking]
  have entering : r.worker.weight = 0 := by rw [looping]; rfl
  have exchange := chores_exchange r
    { r with pendingPickup := true, worker := .betweenHandlers, running := true }
    rfl rfl rfl rfl
  have idle : Worker.betweenHandlers.weight = 0 := rfl
  have travel : travelWeight
      { r with pendingPickup := true, worker := .betweenHandlers, running := true } =
        travelWeight r := rfl
  simp only [before, later, travel, entering, idle] at exchange
  omega

theorem connected_chores (running : Bool) (lost : r.conveyorClient = false) :
    chores { r with conveyorClient := true, running := running } + 1 = chores r := by
  have dish : dishWeight { r with conveyorClient := true, running := running } =
      dishWeight r := rfl
  have travel : travelWeight { r with conveyorClient := true, running := running } =
      travelWeight r := rfl
  rw [chores, chores, dish, travel, lost]
  simp only [Bool.not_true, Bool.not_false, Bool.toNat_false, Bool.toNat_true]

theorem conveyorClient_of_connected {reply : Option Bool}
    (taken : step config r (.conveyorConnected reply) = some (after, outputs)) :
    r.conveyorClient = false := by
  cases client : r.conveyorClient with
  | false => rfl
  | true => simp [step, client] at taken

/-- A step that spends no unit does one of the chores, and one that does adds
at most one. -/
theorem step_chores (steady : Steady config r) (alone : LeftAlone r event)
    (taken : step config r event = some (after, outputs)) :
    chores after + 1 ≤ chores r + 2 * (spendsUnit r event).toNat := by
  have reaction := (step_cases taken).2
  cases reaction with
  | refused refusal =>
      cases refusal with
      | task | switchPosition | reconfigure => exact alone.elim
      | handover early => exact absurd (early.symm.trans alone) (by simp)
      | commit early =>
          obtain ⟨state, pending, _⟩ := alone
          rcases early with other | notPending
          · exact absurd state other
          · exact absurd (notPending.symm.trans pending) (by simp)
  | taskAccepted | switchAccepted | reconfigureAccepted | conveyorLost => exact alone.elim
  | handedOver pending => exact handedOver_chores steady pending
  | commitAccepted unlocked state pending =>
      exact (commitAccepted_chores state pending alone.2.2).le
  | handled capability handler posted idle next ran =>
      have units : spendsUnit r (.runHandler capability) = handler.spendsUnit := by
        simp [spendsUnit, next]
      rw [units]
      exact handles_chores steady idle next ran
  | locked waiting unlocked ran => exact cooks_chores steady waiting ran
  | notifyFailed | renotifyFailed => cases alone
  | notified received looping =>
      cases alone
      exact (notified_chores steady looping).le
  | expired wait armed =>
      have exchange := post_chores { r with steadyTimer := none }
        (.timerCompleted wait.task) (by simp)
      have waited : chores { r with steadyTimer := none } + 1 = chores r := by
        have dish : dishWeight { r with steadyTimer := none } = dishWeight r := rfl
        have travel : travelWeight { r with steadyTimer := none } = travelWeight r := rfl
        rw [chores, chores, dish, travel, armed]
        simp only [Option.isSome_none, Option.isSome_some, Bool.toNat_false, Bool.toNat_true]
        omega
      have due : (Handler.timerCompleted wait.task).weight = 0 := rfl
      omega
  | conveyorConnected =>
      exact (connected_chores r.running (conveyorClient_of_connected taken)).le
  | renotified received =>
      exact (connected_chores _ (conveyorClient_of_connected taken)).le

end Chores

end CpsKitchen.RobotAgent
