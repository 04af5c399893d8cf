import CpsKitchen.KitchenAgent.Transitions
import CpsKitchen.Reactive.Ledger

/-!
# What the kitchen has still to do

The gate lets the waiting orders through one by one, and every answer of the
controller leads to at most one task. Without new orders and answers the kitchen
has only so much to do.
-/

namespace CpsKitchen.KitchenAgent

open CpsKitchen.Reactive CpsKitchen.Recipes
open CpsKitchen.ConveyorAgent (RobotAnswer)

set_option autoImplicit false

variable {config : Config} {k after : Kitchen} {event : Event} {outputs : List Output}

section Backlog

variable (taskCost : Nat)

def Handler.weight : Handler → Nat
  | .handleRandomOrderRequest _ => 5
  | .handleReceiveNextRobot _ => taskCost + 3
  | .incrementCompletedOrders _ | .positionSwapped _ _ | .placingTimerCompleted
  | .placingTimerAborted => 1

def Worker.weight : Worker → Nat
  | .betweenHandlers => 0
  | .choosingNextRobot _ _ => 4
  | .instructingRobot _ => taskCost + 2
  | .robotInstructed _ _ => 1

def Output.servingWeight : Output → Nat
  | .robotInstructed _ _ _ _ => taskCost
  | .orderPlaced _ _ | .nextRobotRequested _ _ _ | .orderAssigned _ | .orderDropped _
  | .orderCompleted _ => 0

/-- What the kitchen has still to do before it waits for something from outside. -/
def backlog (k : Kitchen) : Nat :=
  k.worker.weight taskCost + 2 * k.placingTimer.toNat +
    (k.posted.map (Handler.weight taskCost)).sum + 4 * k.placingQueue.length

theorem backlog_post (k : Kitchen) (handler : Handler) :
    backlog taskCost (post k handler) = backlog taskCost k + handler.weight taskCost := by
  simp only [backlog, post, List.map_append, List.sum_append, List.map_cons, List.map_nil,
    List.sum_cons, List.sum_nil]
  omega

theorem backlog_take {handler : Handler} {posted : List Handler}
    (next : k.posted = handler :: posted) :
    backlog taskCost k = backlog taskCost (takeHandler k posted) + handler.weight taskCost := by
  simp only [backlog, takeHandler, next, List.map_cons, List.sum_cons]
  omega

theorem handles_backlog (idle : k.worker = .betweenHandlers) {handler : Handler}
    (ran : Handles config k handler after outputs) :
    backlog taskCost after + amount (Output.servingWeight taskCost) outputs <
      backlog taskCost k + handler.weight taskCost := by
  cases ran with
  | queued | placedAtOnce | answerDropped | answerTaken | completed | swapped | aborted
  | gateOpened =>
      simp only [backlog, withRobots, setWorker, receiveOrder, dropOrder, completeOrder, idle,
        Worker.weight, Handler.weight, Output.servingWeight, amount_nil, amount_cons,
        List.length_append, List.length_singleton]
      omega
  | placedNext order rest recipeId front =>
      simp only [backlog, setWorker, receiveOrder, front, idle, Worker.weight, Handler.weight,
        Output.servingWeight, amount_nil, amount_cons, List.length_cons]
      omega

/-- Nothing comes from outside, and the controller can be asked. -/
def GoesOn : Event → Prop
  | .timerExpires | .runHandler _ | .instruct _ | .countOrder => True
  | .chooseNextRobot reply => reply ≠ none
  | .placeRandomOrder _ | .receiveNextRobot _ | .receiveCompletedOrder _ | .positionChanged _ _
  | .robotStopped _ | .controllerLost | .controllerConnected => False

/-- Every step takes something off the backlog, and more if a robot is instructed. -/
theorem step_backlog (goes : GoesOn event)
    (taken : step config k event = some (after, outputs)) :
    backlog taskCost after + amount (Output.servingWeight taskCost) outputs <
      backlog taskCost k := by
  have reaction := (step_cases taken).2
  cases reaction with
  | requestReceived | answerReceived | completionReceived | positionChanged | robotStopped
  | controllerLost | controllerConnected => exact goes.elim
  | requestFailed => exact absurd rfl goes
  | expired armed =>
      rw [backlog_post]
      simp only [backlog, armed, Handler.weight, amount_nil, Bool.toNat_true, Bool.toNat_false]
      omega
  | handled environment handler posted idle next ran =>
      rw [backlog_take taskCost next]
      exact handles_backlog taskCost (k := takeHandler k posted) idle ran
  | requested order recipeId accepted choosing =>
      have posted : ((armPlacingGate (setWorker k .betweenHandlers)).posted.map
          (Handler.weight taskCost)).sum ≤ (k.posted.map (Handler.weight taskCost)).sum + 1 := by
        cases armed : k.placingTimer with
        | true => simp [armPlacingGate, setWorker, armed, Handler.weight]
        | false => simp [armPlacingGate, setWorker, armed]
      simp only [backlog, choosing, Worker.weight, Output.servingWeight, amount_nil, amount_cons]
      simp only [armPlacingGate, setWorker, Bool.toNat_true] at posted ⊢
      omega
  | instructionDropped answer robot map instructing =>
      simp only [backlog, dropOrder, setWorker, withRobots, instructing, Worker.weight,
        Output.servingWeight, amount_nil, amount_cons]
      omega
  | instructed answer robot position accepted instructing =>
      simp only [backlog, setWorker, instructing, Worker.weight, Output.servingWeight, amount_nil,
        amount_cons]
      omega
  | assigned answer instructed | refused answer instructed =>
      simp only [backlog, assignOrder, dropOrder, setWorker, instructed, Worker.weight,
        Output.servingWeight, amount_nil, amount_cons]
      omega

end Backlog

end CpsKitchen.KitchenAgent
