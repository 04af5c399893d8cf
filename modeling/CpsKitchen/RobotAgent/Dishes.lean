import CpsKitchen.Reactive.Ledger
import CpsKitchen.RobotAgent.Simulation
import Mathlib.Tactic.Abel

/-!
# The dishes a robot holds

A robot holds a dish from the task it accepted until it hands the dish over.
It may lose dishes, as when it waits for its own lock, but it holds none that
it did not take. This needs no assumption on how the robot is called.
-/

namespace CpsKitchen.RobotAgent

open CpsKitchen.Reactive CpsKitchen.Recipes

set_option autoImplicit false

variable {config : Config} {r after : Robot} {event : Event} {outputs : List Output}

def queuedDishes (tasks : List Task) : Multiset DishId := ↑(tasks.map Task.dish)

def orderedDishes (orders : List Order) : Multiset DishId :=
  ↑(orders.map fun order => order.dish)

def dishInHand (r : Robot) : Multiset DishId :=
  if r.attributes.recipeId = 0 then 0 else {r.dishInProcess}

/-- Accepted, queued, in process or waiting for the pickup. -/
def heldDishes (r : Robot) : Multiset DishId :=
  queuedDishes (postedTasks r) + orderedDishes (r.orderQueue ++ r.pendingOrders) + dishInHand r

def Output.takenIn : Output → Multiset DishId
  | .taskReply task _ true => {task.dish}
  | _ => 0

def Output.givenAway : Output → Multiset DishId
  | .handoverReply dish reply => if reply.recipeId = 0 then 0 else {dish}
  | _ => 0

@[simp] theorem orderedDishes_append (first second : List Order) :
    orderedDishes (first ++ second) = orderedDishes first + orderedDishes second := by
  simp [orderedDishes]

theorem heldDishes_congr (tasks : postedTasks after = postedTasks r)
    (orderQueue : after.orderQueue = r.orderQueue)
    (pendingOrders : after.pendingOrders = r.pendingOrders)
    (recipeId : after.attributes.recipeId = r.attributes.recipeId)
    (dish : after.dishInProcess = r.dishInProcess) : heldDishes after = heldDishes r := by
  rw [heldDishes, heldDishes, tasks, orderQueue, pendingOrders, dishInHand, dishInHand, recipeId,
    dish]

theorem armTimer_heldDishes (r : Robot) (task : TimerTask) (delay : Nat) :
    heldDishes (armTimer r task delay) = heldDishes r :=
  heldDishes_congr (postedTasks_armTimer r task delay) rfl rfl rfl rfl

theorem determineNextAction_heldDishes (r : Robot) :
    heldDishes (determineNextAction r) = heldDishes r := by
  have outcome := determineNextAction_cases r
  generalize determineNextAction r = after at outcome
  cases outcome with
  | finished | incapable => exact heldDishes_congr rfl rfl rfl rfl rfl
  | retool => exact armTimer_heldDishes _ _ _
  | perform => exact heldDishes_congr (postedTasks_armTimer _ _ _) rfl rfl rfl rfl

theorem handleSwitchPosition_heldDishes (r : Robot) :
    heldDishes (handleSwitchPosition config r) = heldDishes r := by
  unfold handleSwitchPosition
  split
  · rfl
  · exact armTimer_heldDishes { r with alreadyRearranging := true } _ _

theorem handleReconfiguration_heldDishes (r : Robot) :
    heldDishes (handleReconfiguration r) = heldDishes r := by
  unfold handleReconfiguration
  split
  · rfl
  · exact armTimer_heldDishes { r with alreadyReconfiguring := true } _ _

theorem queueOrder_heldDishes (r : Robot) (task : Task) (recipe : Recipe) :
    heldDishes (queueOrder r task recipe) = heldDishes r + {task.dish} := by
  have tasks : postedTasks (queueOrder r task recipe) = postedTasks r := rfl
  have hand : dishInHand (queueOrder r task recipe) = dishInHand r := rfl
  have orders : orderedDishes ((queueOrder r task recipe).orderQueue ++
      (queueOrder r task recipe).pendingOrders) =
      orderedDishes (r.orderQueue ++ r.pendingOrders) + {task.dish} := by
    have queue : orderedDishes (queueOrder r task recipe).orderQueue =
        orderedDishes r.orderQueue + {task.dish} := by
      simp only [queueOrder, orderedDishes_append]
      rfl
    have pending : (queueOrder r task recipe).pendingOrders = r.pendingOrders := rfl
    rw [orderedDishes_append, orderedDishes_append, queue, pending, add_right_comm]
  rw [heldDishes, heldDishes, tasks, hand, orders]
  abel

theorem handleReceiveTask_heldDishes {task : Task}
    (ran : handleReceiveTask config r task = some after) :
    heldDishes after ≤ heldDishes r + {task.dish} := by
  rcases handleReceiveTask_cases ran with ⟨_, rfl⟩ | ⟨recipe, _, _, rfl⟩
  · exact le_self_add
  · exact le_of_eq (queueOrder_heldDishes r task recipe)

theorem pause_heldDishes (r : Robot) (pending : List Order) :
    heldDishes { r with pendingOrders := pending } ≤ heldDishes r + orderedDishes pending := by
  have paused : heldDishes { r with pendingOrders := pending } + orderedDishes r.pendingOrders =
      heldDishes r + orderedDishes pending := by
    have tasks : postedTasks { r with pendingOrders := pending } = postedTasks r := rfl
    have hand : dishInHand { r with pendingOrders := pending } = dishInHand r := rfl
    rw [heldDishes, heldDishes, tasks, hand, orderedDishes_append, orderedDishes_append]
    abel
  rw [← paused]
  exact le_self_add

theorem recalculateOrderQueue_heldDishes (orders : List Order)
    (ran : recalculateOrderQueue config r orders = some after) :
    heldDishes after ≤ heldDishes r + orderedDishes orders := by
  induction orders generalizing r with
  | nil =>
      cases ran
      exact le_self_add
  | cons order pending ih =>
      rw [recalculateOrderQueue] at ran
      split at ran
      · contradiction
      next handled received =>
        have first := handleReceiveTask_heldDishes received
        have split : orderedDishes (order :: pending) =
            {order.toTask.dish} + orderedDishes pending := rfl
        rw [split, ← add_assoc]
        split at ran
        next entered =>
          cases ran
          refine le_trans ?_ (add_le_add first le_rfl)
          exact pause_heldDishes handled pending
        · exact (ih ran).trans (add_le_add first le_rfl)

theorem completeReconfiguration_heldDishes {capability : String}
    (ran : completeReconfiguration config r capability = some after) :
    heldDishes after ≤ heldDishes r := by
  obtain ⟨capabilities, action, requeued, _, _, _, loop, rfl⟩ :=
    completeReconfiguration_cases ran
  have refilled := recalculateOrderQueue_heldDishes r.orderQueue loop
  have emptied : heldDishes (reequip r capabilities action.requiredTool) +
      orderedDishes r.orderQueue = heldDishes r := by
    simp only [heldDishes, orderedDishes_append]
    have queue : orderedDishes (reequip r capabilities action.requiredTool).orderQueue = 0 := rfl
    have tasks : postedTasks (reequip r capabilities action.requiredTool) = postedTasks r := rfl
    have pending : (reequip r capabilities action.requiredTool).pendingOrders =
        r.pendingOrders := rfl
    have hand : dishInHand (reequip r capabilities action.requiredTool) = dishInHand r := rfl
    rw [queue, tasks, pending, hand]
    abel
  rw [emptied] at refilled
  split
  · exact refilled
  · exact le_trans (le_of_eq (heldDishes_congr rfl rfl rfl rfl rfl)) refilled

theorem takeHandler_heldDishes {handler : Handler} {posted : List Handler}
    (next : r.posted = handler :: posted) (other : handler.task? = none) :
    heldDishes (takeHandler r posted) = heldDishes r :=
  heldDishes_congr (postedTasks_take next other) rfl rfl rfl rfl

theorem takeTask_heldDishes {task : Task} {posted : List Handler}
    (next : r.posted = .handleReceiveTask task :: posted) :
    heldDishes (takeHandler r posted) + {task.dish} = heldDishes r := by
  have tasks : queuedDishes (postedTasks r) =
      {task.dish} + queuedDishes (postedTasks (takeHandler r posted)) := by
    simp [postedTasks, next, Handler.task?, takeHandler, queuedDishes]
  have hand : dishInHand (takeHandler r posted) = dishInHand r := rfl
  have orders : (takeHandler r posted).orderQueue ++ (takeHandler r posted).pendingOrders =
      r.orderQueue ++ r.pendingOrders := rfl
  rw [heldDishes, heldDishes, tasks, hand, orders]
  abel

theorem handles_heldDishes {capability : String} {handler : Handler} {posted : List Handler}
    (next : r.posted = handler :: posted)
    (ran : Handles config (takeHandler r posted) capability handler after outputs) :
    heldDishes after ≤ heldDishes r := by
  cases ran with
  | taskForgotten task =>
      rw [← takeTask_heldDishes next]
      exact le_self_add
  | taskQueued task recipe =>
      rw [queueOrder_heldDishes, takeTask_heldDishes next]
  | entered | targeted | postponed | committed | moved | aborted =>
      have taken := takeHandler_heldDishes next rfl
      exact le_of_eq ((heldDishes_congr rfl rfl rfl rfl rfl).trans taken)
  | rearranges newPosition =>
      have taken := takeHandler_heldDishes next rfl
      rw [handleSwitchPosition_heldDishes]
      exact le_of_eq ((heldDishes_congr rfl rfl rfl rfl rfl).trans taken)
  | reconfigures =>
      rw [handleReconfiguration_heldDishes, takeHandler_heldDishes next rfl]
  | retooled action rest =>
      have taken := takeHandler_heldDishes next rfl
      rw [determineNextAction_heldDishes]
      exact le_of_eq ((heldDishes_congr rfl rfl rfl rfl rfl).trans taken)
  | ticked =>
      have taken := takeHandler_heldDishes next rfl
      rw [armTimer_heldDishes]
      exact le_of_eq ((heldDishes_congr rfl rfl rfl rfl rfl).trans taken)
  | performed action rest =>
      have taken := takeHandler_heldDishes next rfl
      rw [determineNextAction_heldDishes]
      exact le_of_eq ((heldDishes_congr rfl rfl rfl rfl rfl).trans taken)
  | completed completed =>
      rw [← takeHandler_heldDishes next rfl]
      exact completeReconfiguration_heldDishes completed

theorem startOrder_heldDishes {nextOrder : Order} {rest : List Order} (recipe : Recipe)
    (front : r.orderQueue = nextOrder :: rest) :
    heldDishes (startOrder r nextOrder rest recipe) ≤ heldDishes r := by
  have tasks : postedTasks (startOrder r nextOrder rest recipe) = postedTasks r := rfl
  have pending : (startOrder r nextOrder rest recipe).pendingOrders = r.pendingOrders := rfl
  have queue : (startOrder r nextOrder rest recipe).orderQueue = rest := rfl
  have split : orderedDishes r.orderQueue = {nextOrder.dish} + orderedDishes rest := by
    rw [front]
    rfl
  have hand : dishInHand (startOrder r nextOrder rest recipe) ≤ {nextOrder.dish} := by
    unfold dishInHand
    split
    · exact Multiset.zero_le _
    · exact le_rfl
  rw [heldDishes, heldDishes, tasks, orderedDishes_append, orderedDishes_append, pending, queue,
    split]
  calc queuedDishes (postedTasks r) + (orderedDishes rest + orderedDishes r.pendingOrders) +
        dishInHand (startOrder r nextOrder rest recipe)
      ≤ queuedDishes (postedTasks r) + (orderedDishes rest + orderedDishes r.pendingOrders) +
        {nextOrder.dish} := add_le_add le_rfl hand
    _ = queuedDishes (postedTasks r) +
        ({nextOrder.dish} + orderedDishes rest + orderedDishes r.pendingOrders) := by abel
    _ ≤ _ := le_self_add

theorem cooks_heldDishes (cooked : Cooks config r after) : heldDishes after ≤ heldDishes r := by
  have unlocked : heldDishes (passLock r) = heldDishes r := heldDishes_congr rfl rfl rfl rfl rfl
  cases cooked with
  | rearranges => rw [handleSwitchPosition_heldDishes, unlocked]
  | reconfigures => rw [handleReconfiguration_heldDishes, unlocked]
  | rests => exact le_of_eq (heldDishes_congr rfl rfl rfl rfl rfl)
  | starts _ nextOrder rest recipe front =>
      have front : (passLock r).orderQueue = nextOrder :: rest := front
      rw [determineNextAction_heldDishes, ← unlocked]
      exact startOrder_heldDishes recipe front

theorem releaseDish_heldDishes (config : Config) (r : Robot) :
    heldDishes (post (releaseDish r) .cookNextOrder) +
      Output.givenAway (.handoverReply r.dishInProcess (handoverReply config r)) =
        heldDishes r := by
  have tasks : postedTasks (post (releaseDish r) .cookNextOrder) = postedTasks r :=
    postedTasks_post rfl
  have orders : (post (releaseDish r) .cookNextOrder).orderQueue ++
      (post (releaseDish r) .cookNextOrder).pendingOrders =
        r.orderQueue ++ r.pendingOrders := rfl
  have hand : dishInHand (post (releaseDish r) .cookNextOrder) = 0 := rfl
  have given : Output.givenAway (.handoverReply r.dishInProcess (handoverReply config r)) =
      dishInHand r := rfl
  rw [heldDishes, heldDishes, tasks, orders, hand, given, add_zero]

theorem post_heldDishes {handler : Handler} (other : handler.task? = none) :
    heldDishes (post r handler) = heldDishes r :=
  heldDishes_congr (postedTasks_post other) rfl rfl rfl rfl

/-- A step makes no dish. -/
theorem step_heldDishes (step : Step config r event after outputs) :
    heldDishes after + amount Output.givenAway outputs ≤
      heldDishes r + amount Output.takenIn outputs := by
  cases step with
  | refused refusal =>
      have nothing : amount Output.givenAway outputs = 0 := by
        cases refusal <;> simp [Output.givenAway, zeroReply]
      rw [nothing, add_zero]
      exact le_self_add
  | taskAccepted task =>
      have tasks : queuedDishes (postedTasks (post r (.handleReceiveTask task))) =
          queuedDishes (postedTasks r) + {task.dish} := by
        simp only [postedTasks, post, queuedDishes, List.filterMap_append, List.map_append]
        rfl
      have orders : (post r (.handleReceiveTask task)).orderQueue ++
          (post r (.handleReceiveTask task)).pendingOrders = r.orderQueue ++ r.pendingOrders := rfl
      have hand : dishInHand (post r (.handleReceiveTask task)) = dishInHand r := rfl
      simp only [amount_cons, amount_nil, Output.givenAway, Output.takenIn, add_zero]
      rw [heldDishes, heldDishes, tasks, orders, hand]
      exact le_of_eq (by abel)
  | handedOver =>
      have released := releaseDish_heldDishes config r
      simp only [amount_cons, amount_nil, add_zero]
      rw [released]
      exact le_self_add
  | switchAccepted newPosition =>
      simp only [amount_cons, amount_nil, Output.givenAway, Output.takenIn, add_zero]
      rw [post_heldDishes rfl]
      exact le_of_eq (heldDishes_congr rfl rfl rfl rfl rfl)
  | commitAccepted =>
      simp only [amount_cons, amount_nil, Output.givenAway, Output.takenIn, add_zero]
      exact le_of_eq (post_heldDishes rfl)
  | reconfigureAccepted profile =>
      simp only [amount_cons, amount_nil, Output.givenAway, Output.takenIn, add_zero]
      rw [post_heldDishes rfl]
      exact le_of_eq (heldDishes_congr rfl rfl rfl rfl rfl)
  | handled capability handler posted idle next ran =>
      have held := handles_heldDishes next ran
      have plain : amount Output.givenAway outputs = 0 ∧ amount Output.takenIn outputs = 0 := by
        cases ran <;> exact ⟨rfl, rfl⟩
      rw [plain.1, plain.2, add_zero, add_zero]
      exact held
  | locked waiting unlocked ran => simpa using cooks_heldDishes ran
  | expired wait =>
      simp only [amount_nil, add_zero]
      rw [post_heldDishes rfl]
      exact le_of_eq (heldDishes_congr rfl rfl rfl rfl rfl)
  | notified | renotified =>
      simp only [amount_cons, amount_nil, Output.givenAway, Output.takenIn, add_zero]
      exact le_of_eq (heldDishes_congr rfl rfl rfl rfl rfl)
  | notifyFailed | conveyorLost | conveyorConnected | renotifyFailed =>
      simp only [amount_nil, add_zero]
      exact le_of_eq (heldDishes_congr rfl rfl rfl rfl rfl)

end CpsKitchen.RobotAgent
