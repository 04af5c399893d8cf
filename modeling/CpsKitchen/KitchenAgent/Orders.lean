import CpsKitchen.Reactive.Ledger
import CpsKitchen.KitchenAgent.Transitions
import Mathlib.Tactic.Abel

/-!
# Where the kitchen keeps an order

An order waits to be placed, is with the controller, comes back as an answer,
is assigned or dropped, and comes back once more when it is completed. `Books`
says how one step moves orders between these places and how it counts them.
-/

namespace CpsKitchen.KitchenAgent

open CpsKitchen.Reactive CpsKitchen.Recipes CpsKitchen.RobotMap
open CpsKitchen.ConveyorAgent (RobotAnswer)

set_option autoImplicit false

variable {config : Config} {k after : Kitchen} {event : Event} {outputs : List Output}

section Places

def Handler.requested? : Handler → Option DishId
  | .handleRandomOrderRequest order => some order
  | _ => none

def Handler.answered? : Handler → Option DishId
  | .handleReceiveNextRobot answer => some answer.order
  | _ => none

def Handler.completed? : Handler → Option DishId
  | .incrementCompletedOrders order => some order
  | _ => none

def postedOrders (about : Handler → Option DishId) (k : Kitchen) : Multiset DishId :=
  ↑(k.posted.filterMap about)

def waitingOrders (k : Kitchen) : Multiset DishId :=
  postedOrders Handler.requested? k + ↑k.placingQueue

def choosing (k : Kitchen) : Multiset DishId :=
  match k.worker with
  | .choosingNextRobot order _ => {order}
  | _ => 0

def instructing (k : Kitchen) : Multiset DishId :=
  match k.worker with
  | .instructingRobot answer => {answer.order}
  | _ => 0

def inHand (k : Kitchen) : Multiset DishId :=
  match k.worker with
  | .instructingRobot answer | .robotInstructed answer _ => {answer.order}
  | _ => 0

/-- The order that a robot has accepted and that is not counted yet. -/
def acceptedInHand (k : Kitchen) : Multiset DishId :=
  match k.worker with
  | .robotInstructed answer true => {answer.order}
  | _ => 0

def startedAnswer (k : Kitchen) : Event → Multiset DishId
  | .runHandler _ =>
      match k.worker, k.posted with
      | .betweenHandlers, handler :: _ => ↑(handler.answered?).toList
      | _, _ => 0
  | _ => 0

end Places

section Outputs

def Output.placed : Output → Multiset DishId
  | .orderPlaced order _ => {order}
  | _ => 0

def Output.requested : Output → Multiset DishId
  | .nextRobotRequested order _ _ => {order}
  | _ => 0

def Output.requestAccepted : Output → Multiset DishId
  | .nextRobotRequested order _ true => {order}
  | _ => 0

def Output.accepted : Output → Multiset DishId
  | .robotInstructed order _ _ true => {order}
  | _ => 0

def Output.assigned : Output → Multiset DishId
  | .orderAssigned order => {order}
  | _ => 0

def Output.dropped : Output → Multiset DishId
  | .orderDropped order => {order}
  | _ => 0

def Output.completed : Output → Multiset DishId
  | .orderCompleted order => {order}
  | _ => 0

def Event.requests : Event → Multiset DishId
  | .placeRandomOrder order => {order}
  | _ => 0

def Event.answers : Event → Multiset DishId
  | .receiveNextRobot answer => {answer.order}
  | _ => 0

def Event.completes : Event → Multiset DishId
  | .receiveCompletedOrder order => {order}
  | _ => 0

end Outputs

def CountsUp (before after : Nat) (orders : Multiset DishId) : Prop :=
  ∀ count, before = count % 2 ^ 32 → after = (count + orders.card) % 2 ^ 32

theorem CountsUp.same (counter : Nat) : CountsUp counter counter 0 := by
  intro count counted
  rw [counted, Multiset.card_zero, add_zero]

theorem CountsUp.one (counter : Nat) (order : DishId) :
    CountsUp counter (increment counter) {order} := by
  intro count counted
  rw [increment, counted, Multiset.card_singleton, Nat.mod_add_mod]

/-- What a step does with the orders. -/
structure Books (k : Kitchen) (event : Event) (after : Kitchen) (outputs : List Output) :
    Prop where
  waiting : waitingOrders after + amount Output.placed outputs = waitingOrders k + event.requests
  choosing : choosing after + amount Output.requested outputs =
    choosing k + amount Output.placed outputs
  answers : postedOrders Handler.answered? after + startedAnswer k event =
    postedOrders Handler.answered? k + event.answers
  inHand : inHand after + (amount Output.assigned outputs + amount Output.dropped outputs) =
    inHand k + startedAnswer k event
  accepted : acceptedInHand after + amount Output.assigned outputs =
    acceptedInHand k + amount Output.accepted outputs
  instructing : instructing after + amount Output.accepted outputs ≤
    instructing k + startedAnswer k event
  completions : postedOrders Handler.completed? after + amount Output.completed outputs =
    postedOrders Handler.completed? k + event.completes
  received : CountsUp k.counters.receivedOrders after.counters.receivedOrders
    (amount Output.placed outputs)
  assigned : CountsUp k.counters.assignedOrders after.counters.assignedOrders
    (amount Output.assigned outputs)
  dropped : CountsUp k.counters.droppedOrders after.counters.droppedOrders
    (amount Output.dropped outputs)
  completed : CountsUp k.counters.completedOrders after.counters.completedOrders
    (amount Output.completed outputs)

theorem postedOrders_post (about : Handler → Option DishId) (k : Kitchen) (handler : Handler) :
    postedOrders about (post k handler) = postedOrders about k + ↑(about handler).toList := by
  have appended : (k.posted ++ [handler]).filterMap about =
      k.posted.filterMap about ++ (about handler).toList := by
    rw [List.filterMap_append]
    cases found : about handler <;> simp [found]
  rw [postedOrders, post, appended, ← Multiset.coe_add]
  rfl

theorem postedOrders_take {handler : Handler} {posted : List Handler}
    (next : k.posted = handler :: posted) (about : Handler → Option DishId) :
    postedOrders about k =
      ↑(about handler).toList + postedOrders about (takeHandler k posted) := by
  rw [postedOrders, next, postedOrders, takeHandler]
  cases found : about handler <;> simp [found]

theorem post_books (handler : Handler)
    (requests : event.requests = ↑(handler.requested?).toList)
    (answers : event.answers = ↑(handler.answered?).toList)
    (completes : event.completes = ↑(handler.completed?).toList)
    (notStarted : startedAnswer k event = 0) : Books k event (post k handler) [] where
  waiting := by
    rw [waitingOrders, postedOrders_post, requests, amount_nil, add_zero, waitingOrders]
    exact add_right_comm _ _ _
  choosing := rfl
  answers := by rw [postedOrders_post, answers, notStarted, add_zero]
  inHand := by rw [notStarted]; rfl
  accepted := rfl
  instructing := by rw [notStarted]; exact le_rfl
  completions := by rw [postedOrders_post, completes, amount_nil, add_zero]
  received := .same _
  assigned := .same _
  dropped := .same _
  completed := .same _

theorem same_books (posted : after.posted = k.posted) (queue : after.placingQueue = k.placingQueue)
    (worker : after.worker = k.worker) (counters : after.counters = k.counters)
    (requests : event.requests = 0) (answers : event.answers = 0)
    (completes : event.completes = 0) (notStarted : startedAnswer k event = 0) :
    Books k event after [] where
  waiting := by
    rw [waitingOrders, postedOrders, posted, queue, requests]
    rfl
  choosing := by rw [KitchenAgent.choosing, worker]; rfl
  answers := by rw [postedOrders, posted, answers, notStarted]; rfl
  inHand := by rw [KitchenAgent.inHand, worker, notStarted]; rfl
  accepted := by rw [acceptedInHand, worker]; rfl
  instructing := by
    rw [KitchenAgent.instructing, worker, notStarted]
    exact le_rfl
  completions := by rw [postedOrders, posted, completes]; rfl
  received := by rw [counters]; exact .same _
  assigned := by rw [counters]; exact .same _
  dropped := by rw [counters]; exact .same _
  completed := by rw [counters]; exact .same _

theorem startedAnswer_eq (environment : Environment) {handler : Handler}
    {posted : List Handler} (idle : k.worker = .betweenHandlers)
    (next : k.posted = handler :: posted) :
    startedAnswer k (.runHandler environment) = ↑(handler.answered?).toList := by
  simp [startedAnswer, idle, next]

theorem idle_places (idle : k.worker = .betweenHandlers) :
    choosing k = 0 ∧ inHand k = 0 ∧ acceptedInHand k = 0 ∧ instructing k = 0 := by
  simp [choosing, inHand, acceptedInHand, instructing, idle]

/-- The books of a handler, which starts with an idle worker and takes itself
out of the posted handlers. -/
theorem handler_books {environment : Environment} {handler : Handler} {posted : List Handler}
    (idle : k.worker = .betweenHandlers) (next : k.posted = handler :: posted)
    (same : after.posted = posted)
    (waiting : (↑after.placingQueue : Multiset DishId) + amount Output.placed outputs =
      ↑k.placingQueue + ↑(handler.requested?).toList)
    (choosing : choosing after + amount Output.requested outputs = amount Output.placed outputs)
    (inHand : inHand after + (amount Output.assigned outputs + amount Output.dropped outputs) =
      ↑(handler.answered?).toList)
    (accepted : acceptedInHand after + amount Output.assigned outputs =
      amount Output.accepted outputs)
    (instructing : instructing after + amount Output.accepted outputs ≤
      ↑(handler.answered?).toList)
    (completions : amount Output.completed outputs = ↑(handler.completed?).toList)
    (received : CountsUp k.counters.receivedOrders after.counters.receivedOrders
      (amount Output.placed outputs))
    (assigned : CountsUp k.counters.assignedOrders after.counters.assignedOrders
      (amount Output.assigned outputs))
    (dropped : CountsUp k.counters.droppedOrders after.counters.droppedOrders
      (amount Output.dropped outputs))
    (completed : CountsUp k.counters.completedOrders after.counters.completedOrders
      (amount Output.completed outputs)) :
    Books k (.runHandler environment) after outputs := by
  have started := startedAnswer_eq environment idle next
  have taken : ∀ about, postedOrders about k =
      ↑(about handler).toList + postedOrders about after := by
    intro about
    have front := postedOrders_take next about
    rw [postedOrders, takeHandler, ← same] at front
    exact front
  obtain ⟨noChoice, noHand, noAccepted, noInstruction⟩ := idle_places idle
  exact
    { waiting := by
        have calls : (Event.runHandler environment).requests = 0 := rfl
        rw [waitingOrders, waitingOrders, taken, add_assoc, waiting, calls]
        abel
      choosing := by rw [choosing, noChoice, zero_add]
      answers := by
        have calls : (Event.runHandler environment).answers = 0 := rfl
        rw [started, taken, add_comm, calls, add_zero]
      inHand := by rw [inHand, noHand, started, zero_add]
      accepted := by rw [accepted, noAccepted, zero_add]
      instructing := by
        rw [noInstruction, started, zero_add]
        exact instructing
      completions := by
        have calls : (Event.runHandler environment).completes = 0 := rfl
        rw [completions, taken, add_comm, calls, add_zero]
      received := received
      assigned := assigned
      dropped := dropped
      completed := completed }

theorem ended_handler_books {environment : Environment} {handler : Handler}
    {posted : List Handler} (idle : k.worker = .betweenHandlers)
    (next : k.posted = handler :: posted) (same : after.posted = posted)
    (idleAfter : after.worker = .betweenHandlers)
    (waiting : (↑after.placingQueue : Multiset DishId) =
      ↑k.placingQueue + ↑(handler.requested?).toList)
    (received : after.counters.receivedOrders = k.counters.receivedOrders)
    (assigned : after.counters.assignedOrders = k.counters.assignedOrders)
    (noPlaced : amount Output.placed outputs = 0) (noRequest : amount Output.requested outputs = 0)
    (noAccepted : amount Output.accepted outputs = 0)
    (noAssigned : amount Output.assigned outputs = 0)
    (answered : amount Output.dropped outputs = ↑(handler.answered?).toList)
    (completions : amount Output.completed outputs = ↑(handler.completed?).toList)
    (dropped : CountsUp k.counters.droppedOrders after.counters.droppedOrders
      (amount Output.dropped outputs))
    (completed : CountsUp k.counters.completedOrders after.counters.completedOrders
      (amount Output.completed outputs)) :
    Books k (.runHandler environment) after outputs := by
  obtain ⟨noChoice, noHand, notAccepted, noInstruction⟩ := idle_places idleAfter
  refine handler_books idle next same ?_ ?_ ?_ ?_ ?_ completions ?_ ?_ dropped completed
  · rw [noPlaced, add_zero, waiting]
  · rw [noChoice, noRequest, noPlaced, add_zero]
  · rw [noHand, noAssigned, answered, zero_add, zero_add]
  · rw [notAccepted, noAssigned, noAccepted, add_zero]
  · rw [noInstruction, noAccepted]
    exact Multiset.zero_le _
  · rw [noPlaced, received]
    exact .same _
  · rw [noAssigned, assigned]
    exact .same _

theorem handled_books {environment : Environment} {handler : Handler} {posted : List Handler}
    (idle : k.worker = .betweenHandlers) (next : k.posted = handler :: posted)
    (ran : Handles config (takeHandler k posted) handler after outputs) :
    Books k (.runHandler environment) after outputs := by
  have sameQueue : (↑k.placingQueue : Multiset DishId) = ↑k.placingQueue + 0 := (add_zero _).symm
  cases ran with
  | queued order map =>
      exact ended_handler_books idle next rfl idle rfl rfl rfl rfl rfl rfl rfl rfl rfl (.same _)
        (.same _)
  | placedAtOnce order recipeId map =>
      exact handler_books idle next rfl rfl rfl rfl rfl le_rfl rfl (.one _ order) (.same _)
        (.same _) (.same _)
  | answerDropped answer map =>
      exact ended_handler_books idle next rfl idle sameQueue rfl rfl rfl rfl rfl rfl rfl rfl
        (.one _ answer.order) (.same _)
  | answerTaken answer map =>
      refine handler_books idle next rfl ?_ rfl rfl rfl le_rfl rfl (.same _) (.same _) (.same _)
        (.same _)
      exact rfl
  | completed order =>
      exact ended_handler_books idle next rfl idle sameQueue rfl rfl rfl rfl rfl rfl rfl rfl
        (.same _) (.one _ order)
  | placedNext order rest recipeId front =>
      have front : k.placingQueue = order :: rest := front
      have placed : (↑rest : Multiset DishId) + ({order} + 0) = ↑k.placingQueue + 0 := by
        rw [front, ← Multiset.cons_coe, add_zero, add_zero, add_comm, Multiset.singleton_add]
      exact handler_books idle next rfl placed rfl rfl rfl le_rfl rfl (.one _ order) (.same _)
        (.same _) (.same _)
  | swapped | aborted | gateOpened =>
      exact ended_handler_books idle next rfl idle sameQueue rfl rfl rfl rfl rfl rfl rfl rfl
        (.same _) (.same _)

theorem armPlacingGate_postedOrders (k : Kitchen) {about : Handler → Option DishId}
    (nothing : about .placingTimerAborted = none) :
    postedOrders about (armPlacingGate k) = postedOrders about k := by
  unfold armPlacingGate postedOrders
  simp only
  split
  · rw [List.filterMap_append, List.filterMap_cons_none nothing, List.filterMap_nil,
      List.append_nil]
  · rfl

theorem requested_books {order : DishId} {recipeId : RecipeId} (accepted : Bool)
    (choosing : k.worker = .choosingNextRobot order recipeId) :
    Books k (.chooseNextRobot (some accepted)) (armPlacingGate (setWorker k .betweenHandlers))
      [.nextRobotRequested order recipeId accepted] := by
  have posted : ∀ {about : Handler → Option DishId}, about .placingTimerAborted = none →
      postedOrders about (armPlacingGate (setWorker k .betweenHandlers)) =
        postedOrders about k := fun nothing => armPlacingGate_postedOrders _ nothing
  have chosen : KitchenAgent.choosing k = {order} := by rw [KitchenAgent.choosing, choosing]
  have noHand : KitchenAgent.inHand k = 0 := by rw [KitchenAgent.inHand, choosing]
  have noAccepted : acceptedInHand k = 0 := by rw [acceptedInHand, choosing]
  exact
    { waiting := by rw [waitingOrders, posted rfl]; rfl
      choosing := by rw [chosen]; rfl
      answers := by rw [posted rfl]; rfl
      inHand := by rw [noHand]; rfl
      accepted := by rw [noAccepted]; rfl
      instructing := Multiset.zero_le _
      completions := by rw [posted rfl]; rfl
      received := .same _
      assigned := .same _
      dropped := .same _
      completed := .same _ }

theorem step_books (step : Step config k event after outputs) : Books k event after outputs := by
  cases step with
  | requestReceived order => exact post_books _ rfl rfl rfl rfl
  | answerReceived answer => exact post_books _ rfl rfl rfl rfl
  | completionReceived order => exact post_books _ rfl rfl rfl rfl
  | positionChanged oldPosition newPosition => exact post_books _ rfl rfl rfl rfl
  | expired =>
      have posted : Books { k with placingTimer := false } .timerExpires
          (post { k with placingTimer := false } .placingTimerCompleted) [] :=
        post_books _ rfl rfl rfl rfl
      exact ⟨posted.waiting, posted.choosing, posted.answers, posted.inHand, posted.accepted,
        posted.instructing, posted.completions, posted.received, posted.assigned,
        posted.dropped, posted.completed⟩
  | robotStopped | controllerLost | controllerConnected | requestFailed =>
      exact same_books rfl rfl rfl rfl rfl rfl rfl rfl
  | handled environment handler posted idle next ran => exact handled_books idle next ran
  | requested order recipeId accepted choosing => exact requested_books accepted choosing
  | instructionDropped answer robot map instructing =>
      have hand : inHand k = {answer.order} := by rw [inHand, instructing]
      have noChoice : choosing k = 0 := by rw [choosing, instructing]
      have noAccepted : acceptedInHand k = 0 := by rw [acceptedInHand, instructing]
      exact
        { waiting := rfl
          choosing := by rw [noChoice]; rfl
          answers := rfl
          inHand := by rw [hand]; rfl
          accepted := by rw [noAccepted]; rfl
          instructing := Multiset.zero_le _
          completions := rfl
          received := .same _
          assigned := .same _
          dropped := .one _ answer.order
          completed := .same _ }
  | instructed answer robot position accepted instructing =>
      have hand : inHand k = {answer.order} := by rw [inHand, instructing]
      have noChoice : choosing k = 0 := by rw [choosing, instructing]
      have noAccepted : acceptedInHand k = 0 := by rw [acceptedInHand, instructing]
      have instructed : KitchenAgent.instructing k = {answer.order} := by
        rw [KitchenAgent.instructing, instructing]
      exact
        { waiting := rfl
          choosing := by rw [noChoice]; rfl
          answers := rfl
          inHand := by rw [hand]; rfl
          accepted := by
            rw [noAccepted]
            cases accepted <;> rfl
          instructing := by
            rw [instructed]
            cases accepted
            · exact Multiset.zero_le _
            · exact le_rfl
          completions := rfl
          received := .same _
          assigned := .same _
          dropped := .same _
          completed := .same _ }
  | assigned answer instructed =>
      have hand : inHand k = {answer.order} := by rw [inHand, instructed]
      have noChoice : choosing k = 0 := by rw [choosing, instructed]
      have accepted : acceptedInHand k = {answer.order} := by rw [acceptedInHand, instructed]
      exact
        { waiting := rfl
          choosing := by rw [noChoice]; rfl
          answers := rfl
          inHand := by rw [hand]; rfl
          accepted := by rw [accepted]; rfl
          instructing := Multiset.zero_le _
          completions := rfl
          received := .same _
          assigned := .one _ answer.order
          dropped := .same _
          completed := .same _ }
  | refused answer instructed =>
      have hand : inHand k = {answer.order} := by rw [inHand, instructed]
      have noChoice : choosing k = 0 := by rw [choosing, instructed]
      have noAccepted : acceptedInHand k = 0 := by rw [acceptedInHand, instructed]
      exact
        { waiting := rfl
          choosing := by rw [noChoice]; rfl
          answers := rfl
          inHand := by rw [hand]; rfl
          accepted := by rw [noAccepted]; rfl
          instructing := Multiset.zero_le _
          completions := rfl
          received := .same _
          assigned := .same _
          dropped := .one _ answer.order
          completed := .same _ }

end CpsKitchen.KitchenAgent
