import CpsKitchen.Plant.Dishes

/-!
# Order accounting

The kitchen counts the orders it received, assigned, dropped and completed.
The books of its steps say where an order is, and the flow of the dishes says
that no order is completed that was not assigned. `answered` records the
answers whose handler the worker has started.
-/

namespace CpsKitchen.Plant

open CpsKitchen.Reactive CpsKitchen.Recipes
open CpsKitchen.RobotAgent (Robot Task heldDishes)
open CpsKitchen.ConveyorAgent (Conveyor PlateId placedDishes)
open CpsKitchen.KitchenAgent (Kitchen NextRobot postedOrders choosing inHand acceptedInHand
  waitingOrders)

set_option autoImplicit false

variable {RobotId : Type}

section Records

def ordersOf (kind : KitchenAgent.Output → Multiset DishId)
    (history : History (Event RobotId) (Output RobotId)) : Multiset DishId :=
  amount (Output.ofKitchen kind) (outputsOf history)

def placedOrders (history : History (Event RobotId) (Output RobotId)) : Multiset DishId :=
  ordersOf KitchenAgent.Output.placed history

def assignedOrders (history : History (Event RobotId) (Output RobotId)) : Multiset DishId :=
  ordersOf KitchenAgent.Output.assigned history

def droppedOrders (history : History (Event RobotId) (Output RobotId)) : Multiset DishId :=
  ordersOf KitchenAgent.Output.dropped history

def completedOrders (history : History (Event RobotId) (Output RobotId)) : Multiset DishId :=
  ordersOf KitchenAgent.Output.completed history

def startedAnswer (p : State RobotId) : Event RobotId → Multiset DishId
  | .kitchen event => KitchenAgent.startedAnswer p.kitchen event
  | _ => 0

def requestedOrders (p : State RobotId) : Multiset DishId := ↑(p.requests.map Prod.fst)

def acceptedFromKitchen : Event RobotId × List (Output RobotId) → Multiset DishId
  | (.instruct _, outputs) => amount (Output.ofRobot RobotAgent.Output.takenIn) outputs
  | _ => 0

def acceptedOrders (history : History (Event RobotId) (Output RobotId)) : Multiset DishId :=
  (history.map acceptedFromKitchen).sum

end Records

variable {config : Config RobotId} {p after : State RobotId} {event : Event RobotId}
  {outputs : List (Output RobotId)}

/-- The kitchen's share in a step of the plant, in which it was called and put
something out. -/
structure KitchenShare (p : State RobotId) (event : Event RobotId) (after : State RobotId)
    (outputs : List (Output RobotId)) (call : KitchenAgent.Event)
    (told : List KitchenAgent.Output) : Prop where
  books : KitchenAgent.Books p.kitchen call after.kitchen told
  heard : ∀ worth : KitchenAgent.Output → Multiset DishId,
    amount (Output.ofKitchen worth) outputs = amount worth told
  started : startedAnswer p event = KitchenAgent.startedAnswer p.kitchen call
  requests : requestedOrders after + call.answers =
    requestedOrders p + amount KitchenAgent.Output.requestAccepted told
  placed : call.requests = 0 ∧ after.nextOrder = p.nextOrder ∨
    call.requests = {p.nextOrder} ∧ after.nextOrder = p.nextOrder + 1

theorem share_of_same (kitchen : after.kitchen = p.kitchen) (requests : after.requests = p.requests)
    (nextOrder : after.nextOrder = p.nextOrder) (started : startedAnswer p event = 0)
    (unheard : ∀ worth : KitchenAgent.Output → Multiset DishId,
      amount (Output.ofKitchen worth) outputs = 0) :
    ∃ call told, KitchenShare p event after outputs call told := by
  refine ⟨.controllerLost, [], ?_, unheard, started, ?_, .inl ⟨rfl, nextOrder⟩⟩
  · rw [kitchen]
    exact KitchenAgent.same_books rfl rfl rfl rfl rfl rfl rfl rfl
  · rw [requestedOrders, requests]
    rfl

theorem share_of_step {call : KitchenAgent.Event} {kitchen : Kitchen}
    {told : List KitchenAgent.Output} (others : List (Output RobotId))
    (unheard : ∀ worth : KitchenAgent.Output → Multiset DishId,
      amount (Output.ofKitchen worth) others = 0)
    (taken : KitchenAgent.step config.kitchen p.kitchen call = some (kitchen, told))
    (same : after.kitchen = kitchen)
    (started : startedAnswer p event = KitchenAgent.startedAnswer p.kitchen call)
    (requests : requestedOrders after + call.answers =
      requestedOrders p + amount KitchenAgent.Output.requestAccepted told)
    (placed : call.requests = 0 ∧ after.nextOrder = p.nextOrder ∨
      call.requests = {p.nextOrder} ∧ after.nextOrder = p.nextOrder + 1) :
    ∃ call told', KitchenShare p event after (others ++ told.map .kitchen) call told' := by
  refine ⟨call, told, ?_, ?_, started, requests, placed⟩
  · rw [same]
    exact KitchenAgent.step_books (KitchenAgent.step_cases taken).2
  · intro worth
    rw [amount_append, unheard, amount_ofKitchen_kitchen, zero_add]

section Histories

variable {history : History (Event RobotId) (Output RobotId)}

theorem ordersOf_append (kind : KitchenAgent.Output → Multiset DishId) :
    ordersOf kind (history ++ [(event, outputs)]) =
      ordersOf kind history + amount (Output.ofKitchen kind) outputs := by
  rw [ordersOf, outputsOf_append, outputsOf_singleton, amount_append]
  rfl

theorem acceptedOrders_append (history : History (Event RobotId) (Output RobotId)) :
    acceptedOrders (history ++ [(event, outputs)]) =
      acceptedOrders history + acceptedFromKitchen (event, outputs) := by
  simp [acceptedOrders]

end Histories

section Plant

variable [DecidableEq RobotId]

theorem Step.kitchen_share (step : Step config p event after outputs) :
    ∃ call told, KitchenShare p event after outputs call told := by
  have nothing : ∀ worth : KitchenAgent.Output → Multiset DishId,
      amount (@Output.ofKitchen RobotId _ _ worth) [] = 0 := fun worth => rfl
  cases step with
  | robot id own robot outputs =>
      exact share_of_same rfl rfl rfl rfl (fun worth => amount_ofKitchen_wrap worth id outputs)
  | conveyor own conveyor outputs =>
      exact share_of_same rfl rfl rfl rfl (fun worth => amount_ofKitchen_conveyor worth outputs)
  | notified id call robot sent conveyor received asked =>
      have started : startedAnswer p event = 0 := by
        rcases asked with rfl | rfl <;> rfl
      exact share_of_same rfl rfl rfl started
        (fun worth => amount_ofKitchen_others worth id sent received)
  | handedOver id position robot dish reply conveyor taken =>
      exact share_of_same rfl rfl rfl rfl (fun worth => amount_ofKitchen_others worth id _ taken)
  | taskDelivered id plateId robot task position result conveyor delivered =>
      exact share_of_same rfl rfl rfl rfl
        (fun worth => amount_ofKitchen_others worth id _ delivered)
  | kitchen own kitchen outputs permitted taken =>
      have quiet : own.requests = 0 ∧ own.answers = 0 := by
        cases own <;> first | exact ⟨rfl, rfl⟩ | contradiction
      have notAccepted : amount KitchenAgent.Output.requestAccepted outputs = 0 := by
        have reaction := (KitchenAgent.step_cases taken).2
        cases reaction with
        | handled _ _ _ _ _ ran => cases ran <;> rfl
        | requested _ _ accepted =>
            cases accepted
            · rfl
            · contradiction
        | requestReceived | answerReceived | completionReceived | positionChanged | robotStopped
        | controllerLost | controllerConnected | expired | requestFailed | instructionDropped
        | instructed | assigned | refused => rfl
      refine share_of_step [] nothing taken rfl rfl ?_ (.inl ⟨quiet.1, rfl⟩)
      rw [quiet.2, notAccepted]
      rfl
  | placed kitchen received taken =>
      refine share_of_step [] nothing taken rfl rfl ?_ (.inr ⟨rfl, rfl⟩)
      cases (KitchenAgent.step_cases taken).2
      rfl
  | requested order recipeId kitchen sent choosing taken =>
      refine share_of_step [] nothing taken rfl rfl ?_ (.inl ⟨rfl, rfl⟩)
      have reaction := (KitchenAgent.step_cases taken).2
      cases reaction with
      | requested order' recipeId' _ choosing' =>
          rw [choosing] at choosing'
          cases choosing'
          have more : (↑((p.requests ++ [(order, recipeId)]).map Prod.fst) : Multiset DishId) =
              ↑(p.requests.map Prod.fst) + {order} := by
            rw [List.map_append, ← Multiset.coe_add]
            rfl
          have noAnswer : (KitchenAgent.Event.chooseNextRobot (some true)).answers = 0 := rfl
          have accepted : amount KitchenAgent.Output.requestAccepted
              [.nextRobotRequested order recipeId true] = {order} := add_zero _
          rw [requestedOrders, requestedOrders, more, noAnswer, accepted, add_zero]
  | answered answer kitchen received member taken =>
      refine share_of_step [] nothing taken rfl rfl ?_ (.inl ⟨rfl, rfl⟩)
      cases (KitchenAgent.step_cases taken).2
      have front := (List.perm_cons_erase member).map Prod.fst
      have split : requestedOrders p = {answer.order} +
          ↑((p.requests.erase (answer.order, answer.recipeId)).map Prod.fst) :=
        Multiset.coe_eq_coe.mpr front
      have noRequest : amount KitchenAgent.Output.requestAccepted [] = 0 := rfl
      rw [split, noRequest, add_zero]
      exact add_comm _ _
  | orderDelivered plateId kitchen received conveyor delivered deliverable called taken =>
      refine share_of_step (delivered.map .conveyor)
        (fun worth => amount_ofKitchen_conveyor worth delivered) called rfl rfl ?_ (.inl ⟨rfl, rfl⟩)
      cases (KitchenAgent.step_cases called).2
      rfl
  | instructed id answer robot task position result kitchen sent instructing called taken =>
      refine share_of_step (wrap id [.taskReply task position result])
        (fun worth => amount_ofKitchen_wrap worth id _) taken rfl rfl ?_ (.inl ⟨rfl, rfl⟩)
      rw [(instruct_called instructing taken).2]
      rfl

/-- The kitchen hears of every task that a robot accepts from it, and of no
other. -/
theorem Step.acceptedFromKitchen (step : Step config p event after outputs) :
    amount (Output.ofKitchen KitchenAgent.Output.accepted) outputs =
      acceptedFromKitchen (event, outputs) := by
  cases step with
  | robot id own robot outputs => exact amount_ofKitchen_wrap _ id outputs
  | conveyor own conveyor outputs => exact amount_ofKitchen_conveyor _ outputs
  | notified id call robot sent conveyor received asked =>
      rw [amount_ofKitchen_others]
      rcases asked with rfl | rfl <;> rfl
  | handedOver id position robot dish reply conveyor taken =>
      exact amount_ofKitchen_others _ id _ taken
  | taskDelivered id plateId robot task position result conveyor delivered =>
      exact amount_ofKitchen_others _ id _ delivered
  | kitchen own kitchen outputs permitted taken =>
      rw [amount_ofKitchen_kitchen]
      have reaction := (KitchenAgent.step_cases taken).2
      cases reaction with
      | handled _ _ _ _ _ ran => cases ran <;> rfl
      | instructed answer robot position accepted instructing replied =>
          obtain ⟨_, _, reply⟩ := robot
          have replied : reply = _ := replied
          subst replied
          contradiction
      | requestReceived | answerReceived | completionReceived | positionChanged | robotStopped
      | controllerLost | controllerConnected | expired | requestFailed | instructionDropped
      | requested | assigned | refused => rfl
  | placed kitchen received taken =>
      cases (KitchenAgent.step_cases taken).2
      rfl
  | requested order recipeId kitchen sent choosing taken =>
      cases (KitchenAgent.step_cases taken).2
      rfl
  | answered answer kitchen received member taken =>
      cases (KitchenAgent.step_cases taken).2
      rfl
  | orderDelivered plateId kitchen received conveyor delivered deliverable called taken =>
      rw [amount_append, amount_ofKitchen_conveyor, amount_ofKitchen_kitchen, zero_add]
      cases (KitchenAgent.step_cases called).2
      rfl
  | instructed id answer robot task position result kitchen sent instructing called taken =>
      obtain ⟨rfl, _, _⟩ := receiveTask_reply called
      rw [(instruct_called instructing taken).2]
      cases result <;> rfl

/-- The plant with a record of the answers the kitchen has begun to handle. -/
def answering (config : Config RobotId) :
    Machine (State RobotId × Multiset DishId) (Event RobotId) (Output RobotId) :=
  (machine config).observed 0 fun p event answered => answered + startedAnswer p event

section Runs

variable [Fintype RobotId] {history : History (Event RobotId) (Output RobotId)}
  {answered : Multiset DishId}

/-- Where the orders of a run are and how the kitchen has counted them. -/
structure Accounted (config : Config RobotId) (history : History (Event RobotId) (Output RobotId))
    (p : State RobotId) (answered : Multiset DishId) : Prop where
  belt : ConveyorAgent.Belt config.conveyor p.conveyor
  received : p.kitchen.counters.receivedOrders = (placedOrders history).card % 2 ^ 32
  assigned : p.kitchen.counters.assignedOrders = (assignedOrders history).card % 2 ^ 32
  dropped : p.kitchen.counters.droppedOrders = (droppedOrders history).card % 2 ^ 32
  completed : p.kitchen.counters.completedOrders = (completedOrders history).card % 2 ^ 32
  requests : choosing p.kitchen + requestedOrders p +
    postedOrders KitchenAgent.Handler.answered? p.kitchen + answered ≤ placedOrders history
  answers : inHand p.kitchen + (assignedOrders history + droppedOrders history) = answered
  accepted : acceptedInHand p.kitchen + assignedOrders history = acceptedOrders history
  flow : underWay p + completedOrders history ≤ acceptedOrders history

theorem initial_accounted (initial : (machine config).start p) : Accounted config [] p 0 := by
  obtain ⟨started, conveyor, kitchen, requests, nextOrder⟩ := initial
  have robots : holdings heldDishes p.robots = 0 := by
    apply Finset.sum_eq_zero
    intro id _
    obtain ⟨_, _, _, _, _, _, _, _, same⟩ := started id
    rw [same]
    rfl
  have belt : placedDishes p.conveyor = 0 := by
    rw [conveyor]
    rfl
  exact
    { belt := by
        rw [conveyor]
        exact ConveyorAgent.initial_belt config.conveyor
      received := by rw [kitchen]; rfl
      assigned := by rw [kitchen]; rfl
      dropped := by rw [kitchen]; rfl
      completed := by rw [kitchen]; rfl
      requests := by
        rw [kitchen, requestedOrders, requests]
        exact le_rfl
      answers := by rw [kitchen]; rfl
      accepted := by rw [kitchen]; rfl
      flow := by
        rw [underWay, robots, belt, kitchen]
        exact le_rfl }

theorem requestAccepted_le (told : List KitchenAgent.Output) :
    amount KitchenAgent.Output.requestAccepted told ≤
      amount KitchenAgent.Output.requested told := by
  apply amount_mono
  intro output
  cases output with
  | nextRobotRequested order recipeId accepted =>
      cases accepted
      · exact Multiset.zero_le _
      · exact le_rfl
  | orderPlaced | robotInstructed | orderAssigned | orderDropped | orderCompleted => exact le_rfl

private theorem requests_balance {choosing choosing' requests requests' posted posted' answered
    started requested accepted answers new placed : Multiset DishId}
    (choice : choosing' + requested = choosing + new)
    (request : requests' + answers = requests + accepted)
    (answer : posted' + started = posted + answers) (fewer : accepted ≤ requested)
    (before : choosing + requests + posted + answered ≤ placed) :
    choosing' + requests' + posted' + (answered + started) ≤ placed + new := by
  have moved : choosing' + requests' + posted' + (answered + started) + (requested + answers) ≤
      placed + new + (requested + answers) :=
    calc choosing' + requests' + posted' + (answered + started) + (requested + answers)
        = choosing' + requested + (requests' + answers) + (posted' + started) + answered := by abel
      _ = choosing + requests + posted + answered + new + (accepted + answers) := by
          rw [choice, request, answer]
          abel
      _ ≤ placed + new + (requested + answers) :=
          add_le_add (add_le_add before le_rfl) (add_le_add fewer le_rfl)
  exact le_of_add_le_add_right moved

theorem step_accounted (accounted : Accounted config history p answered)
    (step : Step config p event after outputs) :
    Accounted config (history ++ [(event, outputs)]) after
      (answered + startedAnswer p event) := by
  obtain ⟨call, told, share⟩ := step.kitchen_share
  have books := share.books
  have accepted : Plant.acceptedFromKitchen (event, outputs) =
      amount KitchenAgent.Output.accepted told := by
    rw [← step.acceptedFromKitchen, share.heard]
  have flow := step_underWay accounted.belt step
  rw [share.heard, share.heard] at flow
  exact
    { belt := step.belt accounted.belt
      received := by
        rw [placedOrders, ordersOf_append, share.heard, Multiset.card_add]
        exact books.received _ accounted.received
      assigned := by
        rw [assignedOrders, ordersOf_append, share.heard, Multiset.card_add]
        exact books.assigned _ accounted.assigned
      dropped := by
        rw [droppedOrders, ordersOf_append, share.heard, Multiset.card_add]
        exact books.dropped _ accounted.dropped
      completed := by
        rw [completedOrders, ordersOf_append, share.heard, Multiset.card_add]
        exact books.completed _ accounted.completed
      requests := by
        rw [placedOrders, ordersOf_append, share.heard, share.started]
        exact requests_balance books.choosing share.requests books.answers
          (requestAccepted_le told) accounted.requests
      answers := by
        rw [assignedOrders, droppedOrders, ordersOf_append, ordersOf_append, share.heard,
          share.heard, share.started, ← accounted.answers,
          add_right_comm (inHand p.kitchen), ← books.inHand, assignedOrders, droppedOrders]
        abel
      accepted := by
        rw [assignedOrders, ordersOf_append, acceptedOrders_append, share.heard, accepted,
          ← accounted.accepted, add_right_comm (acceptedInHand p.kitchen), ← books.accepted,
          assignedOrders]
        abel
      flow := by
        rw [completedOrders, ordersOf_append, acceptedOrders_append, share.heard, accepted]
        calc underWay after + (completedOrders history + amount KitchenAgent.Output.completed told)
            = underWay after + amount KitchenAgent.Output.completed told +
                completedOrders history := by abel
          _ ≤ underWay p + amount KitchenAgent.Output.accepted told + completedOrders history :=
              add_le_add flow le_rfl
          _ = underWay p + completedOrders history + amount KitchenAgent.Output.accepted told :=
              add_right_comm _ _ _
          _ ≤ acceptedOrders history + amount KitchenAgent.Output.accepted told :=
              add_le_add accounted.flow le_rfl }

theorem reaches_accounted {allowed : State RobotId × Multiset DishId → Event RobotId → Prop}
    {s : State RobotId × Multiset DishId} (reached : (answering config).Reaches allowed history s) :
    Accounted config history s.1 s.2 := by
  induction reached with
  | start initial =>
      rw [initial.2]
      exact initial_accounted initial.1
  | step _ _ taken ih =>
      obtain ⟨taken, recorded⟩ := Machine.observed_step taken
      rw [recorded]
      exact step_accounted ih (step_cases taken)

/-- Between two handlers every order the kitchen has received is assigned,
dropped or waits for its answer, an answer is counted once, and a completed
order was assigned. -/
theorem orders_accounted (config : Config RobotId)
    (allowed : State RobotId × Multiset DishId → Event RobotId → Prop)
    (history : History (Event RobotId) (Output RobotId)) (p : State RobotId)
    (answered : Multiset DishId)
    (reached : (answering config).Reaches allowed history (p, answered))
    (few : (placedOrders history).card < 2 ^ 32) (idle : p.kitchen.worker = .betweenHandlers) :
    let counters := p.kitchen.counters
    ∃ unanswered, placedOrders history = answered + unanswered ∧
      counters.receivedOrders =
        counters.assignedOrders + counters.droppedOrders + unanswered.card ∧
      answered = assignedOrders history + droppedOrders history ∧
      counters.assignedOrders = (assignedOrders history).card ∧
      counters.droppedOrders = (droppedOrders history).card ∧
      assignedOrders history = acceptedOrders history ∧
      completedOrders history ≤ assignedOrders history ∧
      counters.completedOrders ≤ counters.assignedOrders := by
  have accounted := reaches_accounted reached
  obtain ⟨_, noHand, notAccepted, _⟩ := KitchenAgent.idle_places idle
  have handled : answered = assignedOrders history + droppedOrders history := by
    have answers := accounted.answers
    rw [noHand, zero_add] at answers
    exact answers.symm
  have accepted : assignedOrders history = acceptedOrders history := by
    have accepted := accounted.accepted
    rw [notAccepted, zero_add] at accepted
    exact accepted
  have completed : completedOrders history ≤ assignedOrders history := by
    rw [accepted]
    exact (Multiset.le_add_left _ _).trans accounted.flow
  have enough : answered ≤ placedOrders history :=
    (Multiset.le_add_left _ _).trans accounted.requests
  obtain ⟨unanswered, placed⟩ := Multiset.le_iff_exists_add.mp enough
  have cards : (placedOrders history).card = (assignedOrders history).card +
      (droppedOrders history).card + unanswered.card := by
    rw [placed, handled, Multiset.card_add, Multiset.card_add]
  have fewer := Multiset.card_le_card completed
  have receivedCount : p.kitchen.counters.receivedOrders = (placedOrders history).card :=
    accounted.received.trans (Nat.mod_eq_of_lt few)
  have assignedCount : p.kitchen.counters.assignedOrders = (assignedOrders history).card :=
    accounted.assigned.trans (Nat.mod_eq_of_lt (by omega))
  have droppedCount : p.kitchen.counters.droppedOrders = (droppedOrders history).card :=
    accounted.dropped.trans (Nat.mod_eq_of_lt (by omega))
  have completedCount : p.kitchen.counters.completedOrders = (completedOrders history).card :=
    accounted.completed.trans (Nat.mod_eq_of_lt (by omega))
  refine ⟨unanswered, placed, ?_, handled, assignedCount, droppedCount, accepted, completed, ?_⟩
  · rw [receivedCount, assignedCount, droppedCount, cards]
  · rw [completedCount, assignedCount]
    exact fewer

end Runs

end Plant

section Example

def drawsDessert : KitchenAgent.Environment := ⟨3, true, none, none⟩

def placesNextOrder : List (Event Unit) :=
  [.placeOrder, .kitchen .timerExpires, .kitchen (.runHandler drawsDessert),
   .kitchen (.runHandler drawsDessert), .requestNextRobot]

/-- Three orders: the robot accepts the first one, there is no robot for the
second one, and the third one waits for its answer. -/
theorem three_orders_accounted :
    ∃ history p answered,
      (answering mixingPlant).Reaches (fun _ _ => True) history (p, answered) ∧
      (placedOrders history).card = 3 ∧ p.kitchen.counters = ⟨3, 1, 1, 0⟩ ∧
      ∃ unanswered, placedOrders history = answered + unanswered ∧ unanswered.card = 1 ∧
        assignedOrders history = acceptedOrders history := by
  have starts : (answering mixingPlant).start (idlePlant, 0) := ⟨idlePlant_starts, rfl⟩
  obtain ⟨history, s, reached, shown⟩ := Machine.exists_reaches_of_replay
    (answering mixingPlant) (fun _ _ => True) starts
    ([.placeOrder, .kitchen (.runHandler drawsDessert), .requestNextRobot,
      .answer ⟨3, RobotAgent.deployment.serverEndpoint, 3, 0⟩, .kitchen (.runHandler drawsDessert),
      .instruct (), .kitchen .countOrder] ++ placesNextOrder ++
      [.answer ⟨0, "", 3, 1⟩, .kitchen (.runHandler drawsDessert)] ++ placesNextOrder)
    (fun history s => decide ((placedOrders history).card = 3 ∧
      s.1.kitchen.worker = .betweenHandlers ∧ s.1.kitchen.counters = ⟨3, 1, 1, 0⟩)) (by decide)
  obtain ⟨p, answered⟩ := s
  obtain ⟨placed, idle, counters⟩ := of_decide_eq_true shown
  obtain ⟨unanswered, split, received, _, _, _, accepted, _⟩ :=
    orders_accounted mixingPlant _ history p answered reached (by rw [placed]; decide) idle
  have one : unanswered.card = 1 := by
    have received : p.kitchen.counters.receivedOrders = p.kitchen.counters.assignedOrders +
        p.kitchen.counters.droppedOrders + unanswered.card := received
    rw [counters] at received
    simp only at received
    omega
  exact ⟨history, p, answered, reached, placed, counters, unanswered, split, one, accepted⟩

end Example

end CpsKitchen.Plant
