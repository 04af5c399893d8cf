import CpsKitchen.KitchenAgent.PlacingGate
import CpsKitchen.RobotAgent.TaskOrder
import CpsKitchen.Plant.Deadlock
import CpsKitchen.Plant.Undisturbed

/-!
# The undisturbed plant waits for the controller only

An undisturbed plant loses no order. When nothing can happen in it but what
comes from outside, and the controller owes no answer, every agent is at rest,
and every order was completed or dropped.
-/

namespace CpsKitchen.Plant

open CpsKitchen.Reactive CpsKitchen.Recipes
open CpsKitchen.RobotAgent (Robot Task work)
open CpsKitchen.ConveyorAgent (Conveyor PlateId placedDishes plateAt)
open CpsKitchen.KitchenAgent (Kitchen NextRobot postedOrders choosing inHand acceptedInHand
  waitingOrders)

set_option autoImplicit false

variable {RobotId : Type}

section Robot

open RobotAgent

variable {config : RobotAgent.Config} {r after : Robot} {event : RobotAgent.Event}
  {outputs : List RobotAgent.Output}

def insideDishes (r : Robot) : Multiset DishId := ↑((work r).inside.map Prod.snd)

theorem takenIn_eq (outputs : List RobotAgent.Output) :
    amount Output.takenIn outputs =
      ↑(((outputs.filterMap Output.accepted?).map Task.key).map Prod.snd) := by
  induction outputs with
  | nil => rfl
  | cons output outputs ih =>
      rw [amount_cons, ih, List.filterMap_cons]
      cases output with
      | taskReply task position result =>
          cases result with
          | false => exact zero_add _
          | true => rfl
      | handoverReply | result | actionPerformed | finishedOrderNotification => exact zero_add _

theorem givenAway_eq (outputs : List RobotAgent.Output) :
    amount Output.givenAway outputs =
      ↑((outputs.filterMap Output.handedOver?).map Prod.snd) := by
  induction outputs with
  | nil => rfl
  | cons output outputs ih =>
      rw [amount_cons, ih, List.filterMap_cons]
      cases output with
      | handoverReply dish reply =>
          simp only [Output.givenAway, Output.handedOver?]
          split
          · exact zero_add _
          · rfl
      | taskReply | result | actionPerformed | finishedOrderNotification => exact zero_add _

/-- A robot that nobody adapts keeps every dish until it hands it over. -/
theorem step_insideDishes (inOrder : RobotInOrder config r)
    (taken : RobotAgent.step config r event = some (after, outputs))
    (undisturbed : RobotUndisturbed event) :
    insideDishes after + amount Output.givenAway outputs =
      insideDishes r + amount Output.takenIn outputs := by
  have worked := (step_sound inOrder.toSound undisturbed.commitsOnce taken).2
  have books := worked.books inOrder.readable
    (fun reconfiguring => absurd reconfiguring inOrder.state)
  have dishes := congrArg (fun keys : List (RecipeId × DishId) =>
    (↑(keys.map Prod.snd) : Multiset DishId)) books
  simp only [List.map_append, ← Multiset.coe_add] at dishes
  rw [takenIn_eq, givenAway_eq, insideDishes, insideDishes, dishes]
  exact add_comm _ _

theorem RobotInOrder.answersTask (inOrder : RobotInOrder config r) (task : Task)
    (addressedPosition : Position) {recipe : Recipe}
    (known : config.recipeParser.getRecipe task.recipeId = some recipe)
    (unfinished : task.overallProcessedSteps < recipe.actionQueue.length) :
    ∃ robot position result,
      RobotAgent.step config r (.receiveTask task addressedPosition) =
        some (robot, [.taskReply task position result]) := by
  simp only [RobotAgent.step, inOrder.running, inOrder.unlocked, if_true, receiveTask, known]
  cases remaining : recipe.actionQueue.drop task.overallProcessedSteps with
  | nil =>
      have all := List.drop_eq_nil_iff.mp remaining
      omega
  | cons action rest =>
      by_cases elsewhere : r.robotState ≠ .available ∨ addressedPosition ≠ r.position
      · exact ⟨r, r.position, false, by simp [elsewhere]⟩
      · by_cases capable : isCapableTo r action
        · exact ⟨post r (.handleReceiveTask task), r.position, true, by simp [elsewhere, capable]⟩
        · exact ⟨r, r.position, false, by simp [elsewhere, capable]⟩

end Robot

section Ledger

variable [DecidableEq RobotId] {config : Config RobotId} {p after : State RobotId}
  {event : Event RobotId} {outputs : List (Output RobotId)}

/-- The dishes that a robot has accepted and the kitchen has not counted. -/
def carried [Fintype RobotId] (p : State RobotId) : Multiset DishId :=
  holdings insideDishes p.robots + placedDishes p.conveyor +
    postedOrders KitchenAgent.Handler.completed? p.kitchen

private theorem flows_kept {robots robots' belt belt' kitchen kitchen' robotsGive robotsTake
    beltGives beltTakes told completed accepted : Multiset DishId}
    (robotSide : robots' + robotsGive = robots + robotsTake)
    (beltSide : belt' + beltGives = belt + beltTakes)
    (kitchenSide : kitchen' + completed = kitchen + told)
    (balance : robotsTake + beltTakes + told = robotsGive + beltGives + accepted) :
    robots' + belt' + kitchen' + completed = robots + belt + kitchen + accepted := by
  have moved : robots' + belt' + kitchen' + completed + (robotsGive + beltGives) =
      robots + belt + kitchen + accepted + (robotsGive + beltGives) :=
    calc robots' + belt' + kitchen' + completed + (robotsGive + beltGives)
        = robots' + robotsGive + (belt' + beltGives) + (kitchen' + completed) := by abel
      _ = robots + robotsTake + (belt + beltTakes) + (kitchen + told) := by
          rw [robotSide, beltSide, kitchenSide]
      _ = robots + belt + kitchen + (robotsTake + beltTakes + told) := by abel
      _ = robots + belt + kitchen + accepted + (robotsGive + beltGives) := by
          rw [balance]
          abel
  exact add_right_cancel moved

omit [DecidableEq RobotId] in
theorem conveyor_balanced (belt : ConveyorAgent.Belt config.conveyor p.conveyor)
    {own : ConveyorAgent.Event} {conveyor : Conveyor} {told : List ConveyorAgent.Output}
    (taken : ConveyorAgent.step config.conveyor p.conveyor own = some (conveyor, told))
    (reports : ConveyorAgent.ReportsAddress p.conveyor own)
    (noHandover : ∀ dish reply, told ≠ [.handoverReply dish reply]) :
    placedDishes conveyor + amount ConveyorAgent.Output.givenAway told =
      placedDishes p.conveyor + amount ConveyorAgent.Output.takenIn told :=
  (ConveyorAgent.step_carries belt reports (ConveyorAgent.step_cases taken).2).balanced noHandover

omit [DecidableEq RobotId] in
theorem ownConveyor_noHandover {own : ConveyorAgent.Event} {conveyor : Conveyor}
    {told : List ConveyorAgent.Output} (permitted : ownConveyorEvent own = true)
    (taken : ConveyorAgent.step config.conveyor p.conveyor own = some (conveyor, told))
    (dish : DishId) (reply : RobotAgent.HandoverReply) : told ≠ [.handoverReply dish reply] := by
  rintro rfl
  have reaction := (ConveyorAgent.step_cases taken).2
  cases reaction with
  | retrieving left position reply loop member ran =>
      cases ran
      contradiction
  | requesting left plateId reply loop member ran => cases ran
  | delivering left plateId kitchen robot loop member ran => cases ran

theorem handover_position {config : RobotAgent.Config} {r robot : Robot} {dish : DishId}
    {reply : RobotAgent.HandoverReply}
    (called : RobotAgent.step config r .handoverFinishedOrder =
      some (robot, [.handoverReply dish reply])) : reply.position = r.position := by
  have reaction := (RobotAgent.step_cases called).2
  cases reaction with
  | handedOver => rfl
  | refused refusal =>
      cases refusal
      rfl

/-- Nothing is lost between the acceptance of an order and its completion. -/
theorem step_carried [Fintype RobotId] (belt : ConveyorAgent.Belt config.conveyor p.conveyor)
    (inOrder : InOrder config p) (endpoints : Function.Injective config.endpoint)
    (undisturbed : Undisturbed config p event) (step : Step config p event after outputs) :
    carried after + amount (Output.ofKitchen KitchenAgent.Output.completed) outputs =
      carried p + amount (Output.ofKitchen KitchenAgent.Output.accepted) outputs := by
  have sameRobots : holdings insideDishes p.robots + 0 = holdings insideDishes p.robots + 0 := rfl
  have sameBelt : placedDishes p.conveyor + 0 = placedDishes p.conveyor + 0 := rfl
  have sameKitchen : postedOrders KitchenAgent.Handler.completed? p.kitchen + 0 =
      postedOrders KitchenAgent.Handler.completed? p.kitchen + 0 := rfl
  cases step with
  | robot id own robot outputs permitted taken =>
      have held := step_insideDishes (inOrder.robots id) taken undisturbed
      obtain ⟨given, came⟩ := ownRobot_plain permitted taken
      rw [given, came] at held
      rw [amount_ofKitchen_wrap, amount_ofKitchen_wrap]
      exact flows_kept (holdings_exchange held) sameBelt sameKitchen rfl
  | conveyor own conveyor outputs permitted taken =>
      have placed := conveyor_balanced belt taken (ownConveyor_reports permitted)
        (ownConveyor_noHandover permitted taken)
      obtain ⟨given, came⟩ := ownConveyor_plain permitted taken
      rw [given, came] at placed
      rw [amount_ofKitchen_conveyor, amount_ofKitchen_conveyor]
      exact flows_kept sameRobots placed sameKitchen rfl
  | kitchen own kitchen outputs permitted taken =>
      have counted := kitchen_completions taken
      have notTold : own.completes = 0 := by cases own <;> first | rfl | contradiction
      have notAccepted : amount KitchenAgent.Output.accepted outputs = 0 := by
        have accepted := (Step.kitchen own kitchen outputs permitted taken).acceptedFromKitchen
        rw [amount_ofKitchen_kitchen] at accepted
        exact accepted
      rw [notTold] at counted
      rw [amount_ofKitchen_kitchen, amount_ofKitchen_kitchen, notAccepted]
      exact flows_kept sameRobots sameBelt counted rfl
  | placed kitchen received taken =>
      have nothing : received = [] := by
        cases (KitchenAgent.step_cases taken).2
        rfl
      subst nothing
      exact flows_kept sameRobots sameBelt (kitchen_completions taken) rfl
  | requested order recipeId kitchen sent choosing taken =>
      have counted := kitchen_completions taken
      have told : sent = [.nextRobotRequested order recipeId true] := by
        cases (KitchenAgent.step_cases taken).2 with
        | requested other _ _ same =>
            rw [choosing] at same
            cases same
            rfl
      subst told
      rw [amount_ofKitchen_kitchen, amount_ofKitchen_kitchen]
      exact flows_kept sameRobots sameBelt counted rfl
  | answered answer kitchen received member taken =>
      have nothing : received = [] := by
        cases (KitchenAgent.step_cases taken).2
        rfl
      subst nothing
      exact flows_kept sameRobots sameBelt (kitchen_completions taken) rfl
  | notified id call robot sent conveyor received asked notification called taken =>
      have calls : RobotUndisturbed call := by
        rcases notification with rfl | ⟨rfl, _⟩
        · rfl
        · have client := (inOrder.robots id).client
          simp [RobotAgent.step, client] at called
      have held := step_insideDishes (inOrder.robots id) called calls
      obtain ⟨given, came⟩ := notification_plain notification called
      rw [given, came] at held
      have nothing : received = [] := by
        cases (ConveyorAgent.step_cases taken).2
        rfl
      subst nothing
      have placed := conveyor_balanced belt taken trivial (by simp)
      rw [amount_ofKitchen_others, amount_ofKitchen_others]
      exact flows_kept (holdings_exchange held) placed sameKitchen rfl
  | handedOver id position robot dish reply conveyor taken asks called retrieved =>
      have held := step_insideDishes (inOrder.robots id) called trivial
      have here : reply.position = position :=
        (handover_position called).trans (inOrder.asked asks endpoints)
      have present : ConveyorAgent.findRobot p.conveyor position ≠ none := by
        obtain ⟨robot, found, _⟩ := RobotMap.find_of_known asks.2
        exact Option.ne_none_iff_exists'.mpr ⟨robot, found⟩
      obtain ⟨told, placed⟩ :=
        ConveyorAgent.handover_balanced belt asks.1 present here retrieved
      subst told
      rw [amount_ofKitchen_others, amount_ofKitchen_others]
      rw [← add_zero (placedDishes conveyor)] at placed
      apply flows_kept (holdings_exchange held) placed sameKitchen
      have same : amount RobotAgent.Output.givenAway [.handoverReply dish reply] =
          ConveyorAgent.Output.takenIn (.handoverReply dish reply) := add_zero _
      have noTask : amount RobotAgent.Output.takenIn [.handoverReply dish reply] = 0 := rfl
      rw [same, noTask]
      abel
  | taskDelivered id plateId robot task position result conveyor delivered deliverable called
      taken =>
      have held := step_insideDishes (inOrder.robots id) called trivial
      obtain ⟨rfl, reported, addressed⟩ := receiveTask_reply called
      have reports : ConveyorAgent.ReportsAddress p.conveyor (.deliver plateId none
          ⟨some (p.conveyor.plates plateId).position, some true, some (position, result)⟩) := by
        intro reply same accepted
        cases same
        exact reported.trans (addressed accepted).symm
      obtain ⟨left, _, _, instructed, _⟩ := taskDelivered_conveyor deliverable called taken
      subst instructed
      have placed := conveyor_balanced belt taken reports (by simp)
      rw [amount_ofKitchen_others, amount_ofKitchen_others]
      apply flows_kept (holdings_exchange held) placed sameKitchen
      cases result with
      | false => rfl
      | true => exact add_comm _ _
  | orderDelivered plateId kitchen received conveyor delivered deliverable called taken =>
      have counted := kitchen_completions called
      have told := orderDelivered_conveyor deliverable taken
      subst told
      have placed := conveyor_balanced belt taken (by simp [ConveyorAgent.ReportsAddress])
        (by simp)
      have nothing : received = [] := by
        cases (KitchenAgent.step_cases called).2
        rfl
      subst nothing
      simp only [amount_append, amount_ofKitchen_kitchen, amount_ofKitchen_conveyor, zero_add]
      exact flows_kept sameRobots placed counted (by simp [ConveyorAgent.Output.givenAway,
        ConveyorAgent.Output.takenIn, KitchenAgent.Event.completes])
  | instructed id answer robot task position result kitchen sent instructing called taken =>
      have held := step_insideDishes (inOrder.robots id) called trivial
      obtain ⟨rfl, _, _⟩ := receiveTask_reply called
      have counted := kitchen_completions taken
      obtain ⟨_, told⟩ := instruct_called instructing taken
      subst told
      simp only [amount_append, amount_ofKitchen_kitchen, amount_ofKitchen_wrap, zero_add]
      apply flows_kept (holdings_exchange held) sameBelt counted
      cases result with
      | false => rfl
      | true => rfl

theorem requests_taken (undisturbed : Undisturbed config p event)
    (step : Step config p event after outputs) :
    amount (Output.ofKitchen KitchenAgent.Output.requestAccepted) outputs =
      amount (Output.ofKitchen KitchenAgent.Output.requested) outputs := by
  cases step with
  | robot id own robot outputs => rw [amount_ofKitchen_wrap, amount_ofKitchen_wrap]
  | conveyor own conveyor outputs => rw [amount_ofKitchen_conveyor, amount_ofKitchen_conveyor]
  | notified id call robot sent conveyor received =>
      rw [amount_ofKitchen_others, amount_ofKitchen_others]
  | handedOver id position robot dish reply conveyor taken =>
      rw [amount_ofKitchen_others, amount_ofKitchen_others]
  | taskDelivered id plateId robot task position result conveyor delivered =>
      rw [amount_ofKitchen_others, amount_ofKitchen_others]
  | kitchen own kitchen outputs permitted taken =>
      rw [amount_ofKitchen_kitchen, amount_ofKitchen_kitchen]
      have reaction := (KitchenAgent.step_cases taken).2
      cases reaction with
      | handled _ _ _ _ _ ran => cases ran <;> rfl
      | requested order recipeId accepted =>
          cases undisturbed
          contradiction
      | requestReceived | answerReceived | completionReceived | positionChanged | robotStopped
      | controllerLost | controllerConnected | expired | requestFailed | instructionDropped
      | instructed | assigned | refused => rfl
  | placed kitchen received taken =>
      cases (KitchenAgent.step_cases taken).2
      rfl
  | requested order recipeId kitchen sent choosing taken =>
      cases (KitchenAgent.step_cases taken).2
      rfl
  | answered answer kitchen received member taken =>
      cases (KitchenAgent.step_cases taken).2
      rfl
  | orderDelivered plateId kitchen received conveyor delivered deliverable called taken =>
      rw [amount_append, amount_append, amount_ofKitchen_conveyor, amount_ofKitchen_conveyor]
      cases (KitchenAgent.step_cases called).2
      rfl
  | instructed id answer robot task position result kitchen sent instructing called taken =>
      rw [(instruct_called instructing taken).2]
      rfl

def undecidedOrders (p : State RobotId) : Multiset DishId :=
  choosing p.kitchen + requestedOrders p +
    postedOrders KitchenAgent.Handler.answered? p.kitchen + inHand p.kitchen

/-- Every order there was is somewhere, or it was dropped or completed. -/
structure NothingLost [Fintype RobotId] (history : History (Event RobotId) (Output RobotId))
    (p : State RobotId) : Prop where
  waiting : waitingOrders p.kitchen + placedOrders history = Multiset.range p.nextOrder
  undecided : undecidedOrders p + (assignedOrders history + droppedOrders history) =
    placedOrders history
  assigned : acceptedInHand p.kitchen + assignedOrders history =
    ordersOf KitchenAgent.Output.accepted history
  carried : carried p + completedOrders history = ordersOf KitchenAgent.Output.accepted history

theorem initial_nothingLost [Fintype RobotId] (initial : (machine config).start p) :
    NothingLost [] p := by
  obtain ⟨started, conveyor, kitchen, requests, nextOrder⟩ := initial
  have robots : holdings insideDishes p.robots = 0 := by
    apply Finset.sum_eq_zero
    intro id _
    obtain ⟨_, _, _, _, _, _, _, _, same⟩ := started id
    rw [same]
    rfl
  constructor
  · rw [kitchen, nextOrder]
    rfl
  · rw [undecidedOrders, kitchen, requestedOrders, requests]
    rfl
  · rw [kitchen]
    rfl
  · rw [Plant.carried, robots, conveyor, kitchen]
    rfl

private theorem undecided_kept {choosing choosing' requests requests' posted posted' hand hand'
    requested answers started placed assigned dropped : Multiset DishId}
    (choice : choosing' + requested = choosing + placed)
    (request : requests' + answers = requests + requested)
    (answer : posted' + started = posted + answers)
    (decision : hand' + (assigned + dropped) = hand + started) :
    choosing' + requests' + posted' + hand' + (assigned + dropped) =
      choosing + requests + posted + hand + placed := by
  have moved : choosing' + requests' + posted' + hand' + (assigned + dropped) +
        (requested + answers + started) =
      choosing + requests + posted + hand + placed + (requested + answers + started) :=
    calc choosing' + requests' + posted' + hand' + (assigned + dropped) +
          (requested + answers + started)
        = choosing' + requested + (requests' + answers) + (posted' + started) +
            (hand' + (assigned + dropped)) := by abel
      _ = choosing + placed + (requests + requested) + (posted + answers) + (hand + started) := by
          rw [choice, request, answer, decision]
      _ = choosing + requests + posted + hand + placed + (requested + answers + started) := by
          abel
  exact add_right_cancel moved

theorem step_nothingLost [Fintype RobotId]
    {history : History (Event RobotId) (Output RobotId)}
    (belt : ConveyorAgent.Belt config.conveyor p.conveyor) (inOrder : InOrder config p)
    (endpoints : Function.Injective config.endpoint) (undisturbed : Undisturbed config p event)
    (lost : NothingLost history p) (step : Step config p event after outputs) :
    NothingLost (history ++ [(event, outputs)]) after := by
  obtain ⟨call, told, share⟩ := step.kitchen_share
  have books := share.books
  have taken := requests_taken undisturbed step
  have carries := step_carried belt inOrder endpoints undisturbed step
  rw [share.heard, share.heard] at taken carries
  constructor
  · have waiting := books.waiting
    have range : Multiset.range after.nextOrder = call.requests + Multiset.range p.nextOrder := by
      rcases share.placed with ⟨none, same⟩ | ⟨one, next⟩
      · rw [none, same, zero_add]
      · rw [one, next, Multiset.range_succ, Multiset.singleton_add]
    rw [placedOrders, ordersOf_append, share.heard, range, ← lost.waiting, placedOrders,
      add_left_comm, waiting]
    abel
  · have requests := share.requests
    rw [taken] at requests
    have decided := undecided_kept books.choosing requests books.answers books.inHand
    rw [placedOrders, assignedOrders, droppedOrders, ordersOf_append, ordersOf_append,
      ordersOf_append, share.heard, share.heard, share.heard]
    calc undecidedOrders after + (ordersOf KitchenAgent.Output.assigned history +
            amount KitchenAgent.Output.assigned told +
            (ordersOf KitchenAgent.Output.dropped history +
              amount KitchenAgent.Output.dropped told))
        = undecidedOrders after + (amount KitchenAgent.Output.assigned told +
            amount KitchenAgent.Output.dropped told) +
            (assignedOrders history + droppedOrders history) := by
          rw [assignedOrders, droppedOrders]
          abel
      _ = undecidedOrders p + amount KitchenAgent.Output.placed told +
            (assignedOrders history + droppedOrders history) := by
          rw [undecidedOrders, decided, undecidedOrders]
      _ = _ := by
          rw [add_right_comm, lost.undecided]
          rfl
  · rw [assignedOrders, ordersOf_append, ordersOf_append, share.heard, share.heard, ← lost.assigned,
      add_left_comm, books.accepted, assignedOrders]
    abel
  · rw [completedOrders, ordersOf_append, ordersOf_append, share.heard, share.heard,
      ← lost.carried, add_left_comm, carries, completedOrders]
    abel

theorem reaches_nothingLost [Fintype RobotId]
    {history : History (Event RobotId) (Output RobotId)} (draws : DrawsKnown config)
    (endpoints : Function.Injective config.endpoint)
    (reached : (machine config).Reaches (Undisturbed config) history p) :
    NothingLost history p := by
  induction reached with
  | start initial => exact initial_nothingLost initial
  | step earlier permitted taken ih =>
      have belt := reaches_belt earlier
      have inOrder := reaches_inOrder draws earlier
      exact step_nothingLost belt inOrder endpoints permitted ih (step_cases taken)

end Ledger

section Standing

variable [DecidableEq RobotId] {config : Config RobotId} {p : State RobotId}

/-- Somebody orders a dish, or the controller answers. -/
def FromOutside : Event RobotId → Prop
  | .placeOrder | .answer _ | .conveyor (.receiveNextRobot _) => True
  | _ => False

/-- Undisturbed, the plant goes on only when something comes from outside. -/
def Standing (config : Config RobotId) (p : State RobotId) : Prop :=
  ∀ event, Undisturbed config p event → ¬ FromOutside event → step config p event = none

theorem Standing.robot (standing : Standing config p) (id : RobotId) (own : RobotAgent.Event)
    (permitted : ownRobotEvent own = true) (undisturbed : RobotUndisturbed own) :
    RobotAgent.step (config.robot id) (p.robots id) own = none := by
  cases ran : RobotAgent.step (config.robot id) (p.robots id) own with
  | none => rfl
  | some result =>
      have nothing := standing (.robot id own) undisturbed not_false
      simp [step, robotStep, permitted, ran] at nothing

theorem Standing.conveyor (standing : Standing config p) (own : ConveyorAgent.Event)
    (permitted : ownConveyorEvent own = true)
    (undisturbed : ConveyorUndisturbed config.endpoint (place p) p.conveyor own)
    (within : ∀ answer, own ≠ .receiveNextRobot answer) :
    ConveyorAgent.step config.conveyor p.conveyor own = none := by
  have inside : ¬ FromOutside (Event.conveyor own : Event RobotId) := by
    cases own with
    | receiveNextRobot answer => exact absurd rfl (within answer)
    | _ => exact id
  cases ran : ConveyorAgent.step config.conveyor p.conveyor own with
  | none => rfl
  | some result =>
      have nothing := standing (.conveyor own) undisturbed inside
      simp [step, permitted, ran] at nothing

theorem Standing.kitchen (standing : Standing config p) (own : KitchenAgent.Event)
    (permitted : ownKitchenEvent own = true)
    (undisturbed :
      KitchenUndisturbed config.endpoint (place p) (Known config) p.kitchen own) :
    KitchenAgent.step config.kitchen p.kitchen own = none := by
  cases ran : KitchenAgent.step config.kitchen p.kitchen own with
  | none => rfl
  | some result =>
      have nothing := standing (.kitchen own) undisturbed not_false
      simp [step, permitted, ran] at nothing

theorem InOrder.handover_enabled (inOrder : InOrder config p) {left : Finset Position}
    {position : Position} {id : RobotId}
    (loop : p.conveyor.worker = .retrievingFinishedOrders left) (member : position ∈ left)
    (asks : asksRobot config p id position) : step config p (.handover id position) ≠ none := by
  have called : ∃ robot dish reply,
      RobotAgent.step (config.robot id) (p.robots id) .handoverFinishedOrder =
        some (robot, [.handoverReply dish reply]) := by
    simp only [RobotAgent.step, (inOrder.robots id).running, if_true,
      RobotAgent.handleHandoverFinishedOrder]
    split
    · exact ⟨_, _, _, rfl⟩
    · exact ⟨_, _, _, rfl⟩
  obtain ⟨robot, dish, reply, called⟩ := called
  have known := asks.2
  obtain ⟨remote, found, _⟩ := RobotMap.find_of_known known
  have entry := Option.join_eq_some_iff.mp found
  have free := asks.1
  unfold plateAt at free
  simp [step, handoverStep, robotStep, called, handoverReply?, asks, ConveyorAgent.step,
    inOrder.conveyor.running, loop, member, ConveyorAgent.retrieve, ConveyorAgent.setWorker,
    plateAt, free, entry]

theorem InOrder.deliverTask_enabled (inOrder : InOrder config p) {left : Finset PlateId}
    {plateId : PlateId} {id : RobotId} {recipe : Recipe}
    (loop : p.conveyor.worker = .deliveringFinishedOrders left) (member : plateId ∈ left)
    (deliverable : isDeliverable config p id plateId)
    (recipeKnown : config.recipeParser.getRecipe (p.conveyor.plates plateId).placedRecipeId =
      some recipe)
    (unfinished : (p.conveyor.plates plateId).processedSteps < recipe.actionQueue.length) :
    step config p (.deliverTask id plateId) ≠ none := by
  obtain ⟨robot, position, result, called⟩ := (inOrder.robots id).answersTask
    (taskOn p plateId) (p.conveyor.plates plateId).position recipeKnown unfinished
  have opened := deliverable.1
  have arrived := deliverable.2.2.1.symm
  have targeted := deliverable.2.1
  rw [arrived] at targeted
  have known := deliverable.2.2.2
  obtain ⟨remote, found, _⟩ := RobotMap.find_of_known known
  have entry := Option.join_eq_some_iff.mp found
  simp [step, deliverTaskStep, robotStep, called, taskReply?, deliverable, ConveyorAgent.step,
    inOrder.conveyor.running, loop, member, ConveyorAgent.deliver, ConveyorAgent.setWorker,
    ConveyorAgent.deliverPartialOrder, opened, targeted, arrived, entry]

theorem InOrder.deliverOrder_enabled (inOrder : InOrder config p) {left : Finset PlateId}
    {plateId : PlateId} (loop : p.conveyor.worker = .deliveringFinishedOrders left)
    (member : plateId ∈ left) (deliverable : isDeliverableOrder p plateId) :
    step config p (.deliverOrder plateId) ≠ none := by
  have finished := deliverable.1
  have arrived := deliverable.2
  simp [step, deliverOrderStep, deliverable, KitchenAgent.step, inOrder.kitchen.running,
    ConveyorAgent.step, inOrder.conveyor.running, loop, member, ConveyorAgent.deliver,
    ConveyorAgent.setWorker, finished, arrived]

theorem InOrder.instruct_enabled (inOrder : InOrder config p) {answer : NextRobot}
    (instructing : p.kitchen.worker = .instructingRobot answer) :
    ∃ id, step config p (.instruct id) ≠ none := by
  obtain ⟨found, recipe, known, work⟩ := inOrder.kitchen.instructing answer instructing
  obtain ⟨_, id, named, _⟩ := inOrder.kitchen.robots.found found
  obtain ⟨robot, position, result, called⟩ := (inOrder.robots id).answersTask
    ⟨answer.recipeId, 0, answer.order⟩ answer.robotPosition known
    (List.length_pos_iff.mpr work)
  refine ⟨id, ?_⟩
  simp [step, instructStep, robotStep, answerInHand, instructing, RobotMap.isUnknown, found, named,
    called, taskReply?, KitchenAgent.step, inOrder.kitchen.running, KitchenAgent.instruct]

theorem InOrder.request_enabled (inOrder : InOrder config p) {order : DishId}
    {recipeId : RecipeId} (choosing : p.kitchen.worker = .choosingNextRobot order recipeId) :
    step config p .requestNextRobot ≠ none := by
  simp [step, requestStep, requestInHand, choosing, KitchenAgent.step, inOrder.kitchen.running,
    inOrder.kitchen.client]

theorem InOrder.notify_enabled (inOrder : InOrder config p) {id : RobotId}
    (called : RobotAgent.step (config.robot id) (p.robots id) (.notifyConveyor (some true)) ≠
      none) : step config p (.notify id) ≠ none := by
  obtain ⟨⟨robot, sent⟩, called⟩ := Option.ne_none_iff_exists'.mp called
  simp [step, notificationStep, robotStep, called, ConveyorAgent.step, inOrder.conveyor.running]

section Conveyor

open ConveyorAgent

theorem retrieve_passes (c : Conveyor) {position : Position}
    (alone : (plateAt c position).occupied = true ∨ c.positionRemoteRobotMap position = none) :
    retrieve c position none ≠ none := by
  unfold retrieve
  split
  · simp
  next free =>
    have unknown := alone.resolve_left free
    simp [unknown]

theorem deliver_passes (c : Conveyor) {plateId : PlateId} (away : ¬ MeetsRobot c plateId) :
    deliver c plateId none ⟨none, none, none⟩ ≠ none := by
  unfold deliver
  simp only
  split
  · simp
  next started =>
    split
    · simp
    · split
      next here =>
        have unknown : c.positionRemoteRobotMap (c.plates plateId).position = none := by
          by_contra known
          exact away ⟨here.1, fun none => started ⟨here.1, none⟩, here.2, known⟩
        simp [deliverPartialOrder, unknown]
      · simp

theorem Standing.not_retrieving (standing : Standing config p) (inOrder : InOrder config p)
    (left : Finset Position) : p.conveyor.worker ≠ .retrievingFinishedOrders left := by
  intro loop
  have running := inOrder.conveyor.running
  by_cases done : left = ∅
  · have nothing := standing.conveyor .retrieved rfl trivial (by simp)
    simp [ConveyorAgent.step, running, loop, done] at nothing
  obtain ⟨position, member⟩ := Finset.nonempty_iff_ne_empty.mpr done
  -- the robot is asked unless the plate is taken or no robot is known there
  by_cases alone : (plateAt p.conveyor position).occupied = true ∨
      p.conveyor.positionRemoteRobotMap position = none
  · have nothing := standing.conveyor (.retrieve position none) rfl (fun _ => alone)
      (by simp)
    simp only [ConveyorAgent.step, running, loop, member, if_true] at nothing
    exact retrieve_passes (setWorker p.conveyor (.retrievingFinishedOrders (left.erase position)))
      alone nothing
  · push Not at alone
    obtain ⟨free, known⟩ := alone
    obtain ⟨entry, there⟩ := Option.ne_none_iff_exists'.mp known
    obtain ⟨name, rfl, id, rfl, _⟩ := inOrder.conveyor.robots position entry there
    have asks : asksRobot config p id position :=
      ⟨by simpa using free, by simp [isRobotUnknown, RobotMap.isUnknown, RobotMap.find, there]⟩
    exact inOrder.handover_enabled loop member asks
      (standing (.handover id position) trivial not_false)

theorem Standing.not_requesting (standing : Standing config p) (inOrder : InOrder config p)
    (left : Finset PlateId) : p.conveyor.worker ≠ .requestingNextRobots left := by
  intro loop
  have running := inOrder.conveyor.running
  by_cases done : left = ∅
  · have nothing := standing.conveyor .requested rfl trivial (by simp)
    simp [ConveyorAgent.step, running, loop, done] at nothing
  obtain ⟨plateId, member⟩ := Finset.nonempty_iff_ne_empty.mpr done
  have nothing := standing.conveyor (.requestNextRobot plateId (some true)) rfl
    (by simp [ConveyorUndisturbed]) (by simp)
  simp only [ConveyorAgent.step, running, loop, member, if_true, requestNextRobot] at nothing
  split at nothing
  · simp [setWorker, inOrder.conveyor.client] at nothing
  · contradiction

theorem Standing.not_delivering [Fintype RobotId] {log : RobotAgent.Log}
    (standing : Standing config p) (inOrder : InOrder config p)
    (follows : FollowsRecipes config log p) (left : Finset PlateId) :
    p.conveyor.worker ≠ .deliveringFinishedOrders left := by
  intro loop
  have running := inOrder.conveyor.running
  by_cases done : left = ∅
  · have nothing := standing.conveyor .delivered rfl trivial (by simp)
    simp [ConveyorAgent.step, running, loop, done] at nothing
  obtain ⟨plateId, member⟩ := Finset.nonempty_iff_ne_empty.mpr done
  by_cases completed : MeetsKitchen p.conveyor plateId
  · exact inOrder.deliverOrder_enabled loop member completed
      (standing (.deliverOrder plateId) trivial not_false)
  by_cases arrived : MeetsRobot p.conveyor plateId
  · obtain ⟨unfinished, targeted, here, known⟩ := arrived
    obtain ⟨entry, there⟩ := Option.ne_none_iff_exists'.mp known
    obtain ⟨name, rfl, id, rfl, _⟩ := inOrder.conveyor.robots _ entry there
    have deliverable : isDeliverable config p id plateId :=
      ⟨unfinished, targeted, here,
        by simp [isRobotUnknown, RobotMap.isUnknown, RobotMap.find, there]⟩
    have occupied : plateId ∈ p.conveyor.occupiedPlates := by
      apply follows.belt.left
      rw [loop]
      exact member
    obtain ⟨⟨recipe, recipeKnown, enough, _⟩, finished⟩ := follows.plates plateId occupied
    have more : (p.conveyor.plates plateId).processedSteps < recipe.actionQueue.length := by
      apply enough.lt_of_ne
      intro all
      have flag := (finished recipe recipeKnown).mpr all
      rw [show (content (p.conveyor.plates plateId)).isDishFinished = false from unfinished] at flag
      contradiction
    exact inOrder.deliverTask_enabled loop member deliverable recipeKnown more
      (standing (.deliverTask id plateId) trivial not_false)
  · have nothing := standing.conveyor (.deliver plateId none ⟨none, none, none⟩) rfl
      ⟨fun meets => absurd meets completed, fun meets => absurd meets arrived⟩ (by simp)
    simp only [ConveyorAgent.step, running, loop, member, if_true] at nothing
    exact deliver_passes (setWorker p.conveyor (.deliveringFinishedOrders (left.erase plateId)))
      arrived nothing

/-- The belt is empty and nothing makes the conveyor move it. -/
@[mk_iff]
structure ConveyorAtRest (c : Conveyor) : Prop where
  worker : c.worker = .betweenHandlers
  posted : c.posted = []
  steadyTimer : c.steadyTimer = none
  stateStatus : c.stateStatus = .idling
  notifications : c.notifications = ∅
  occupiedPlates : c.occupiedPlates = ∅

instance (c : Conveyor) : Decidable (ConveyorAtRest c) := decidable_of_iff' _ (conveyorAtRest_iff c)

/-- Only a call from outside makes the conveyor go on. -/
structure ConveyorWaits (c : Conveyor) : Prop where
  worker : c.worker = .betweenHandlers
  posted : c.posted = []
  steadyTimer : c.steadyTimer = none

theorem Standing.conveyor_waits [Fintype RobotId] {log : RobotAgent.Log}
    (standing : Standing config p) (inOrder : InOrder config p)
    (follows : FollowsRecipes config log p) : ConveyorWaits p.conveyor := by
  have running := inOrder.conveyor.running
  have worker : p.conveyor.worker = .betweenHandlers := by
    cases loop : p.conveyor.worker with
    | betweenHandlers => rfl
    | retrievingFinishedOrders left => exact absurd loop (standing.not_retrieving inOrder left)
    | requestingNextRobots left => exact absurd loop (standing.not_requesting inOrder left)
    | deliveringFinishedOrders left =>
        exact absurd loop (standing.not_delivering inOrder follows left)
  have posted : p.conveyor.posted = [] := by
    cases next : p.conveyor.posted with
    | nil => rfl
    | cons handler posted =>
        have nothing := standing.conveyor (.runHandler ⟨true, none, none⟩) rfl rfl (by simp)
        simp [ConveyorAgent.step, running, worker, next] at nothing
  have steadyTimer : p.conveyor.steadyTimer = none := by
    cases armed : p.conveyor.steadyTimer with
    | none => rfl
    | some wait =>
        have nothing := standing.conveyor .timerExpires rfl trivial (by simp)
        simp [ConveyorAgent.step, running, armed] at nothing
  exact ⟨worker, posted, steadyTimer⟩

/-- A conveyor that waits for no answer has nothing left to do. -/
theorem Standing.conveyor_rests [Fintype RobotId] {log : RobotAgent.Log}
    (standing : Standing config p) (inOrder : InOrder config p)
    (follows : FollowsRecipes config log p) (answered : p.conveyor.nextRobotRequestQueue = []) :
    ConveyorAtRest p.conveyor := by
  obtain ⟨worker, posted, steadyTimer⟩ := standing.conveyor_waits inOrder follows
  have noWait : outstandingWaits p.conveyor = 0 := by simp [outstandingWaits, posted, steadyTimer]
  have idling : p.conveyor.stateStatus = .idling := by
    cases status : p.conveyor.stateStatus with
    | idling => rfl
    | moving =>
        rcases inOrder.driver.moving status worker with waiting | waiting
        · exact absurd (noWait.symm.trans waiting.1) (by decide)
        · exact absurd answered waiting.2
  obtain ⟨_, _, _, notifications, occupiedPlates⟩ := inOrder.driver.idling idling
  exact ⟨worker, posted, steadyTimer, idling, notifications, occupiedPlates⟩

theorem ConveyorAtRest.empty {c : Conveyor} (resting : ConveyorAtRest c) :
    placedDishes c = 0 := by
  simp [placedDishes, resting.occupiedPlates]

end Conveyor

section Kitchen

open KitchenAgent

/-- No order is in hand or in line, and the gate is open. -/
@[mk_iff]
structure KitchenAtRest (k : Kitchen) : Prop where
  worker : k.worker = .betweenHandlers
  posted : k.posted = []
  placingTimer : k.placingTimer = false
  placingQueue : k.placingQueue = []
  placingGateOpen : k.placingGateOpen = true

instance (k : Kitchen) : Decidable (KitchenAtRest k) := decidable_of_iff' _ (kitchenAtRest_iff k)

theorem KitchenAtRest.accepts_nothing {k : Kitchen} (resting : KitchenAtRest k) :
    acceptedInHand k = 0 := by
  rw [acceptedInHand, resting.worker]

theorem KitchenAtRest.waits_for_nothing {k : Kitchen} (resting : KitchenAtRest k) :
    waitingOrders k = 0 := by
  rw [waitingOrders, postedOrders, resting.posted, resting.placingQueue]
  rfl

theorem handle_returns {config : KitchenAgent.Config} (recipes : 1 ≤ config.recipeCount)
    (k : Kitchen) (handler : Handler) :
    KitchenAgent.handle config k ⟨1, true, none, none⟩ handler ≠ none := by
  cases handler with
  | handleRandomOrderRequest order =>
      simp only [KitchenAgent.handle, handleRandomOrderRequest]
      split
      · simp [KitchenAgent.place, recipes]
      · simp
  | placingTimerCompleted =>
      simp only [KitchenAgent.handle, placingTimerCompleted]
      split
      · simp
      · simp [KitchenAgent.place, recipes]
  | handleReceiveNextRobot | incrementCompletedOrders | positionSwapped | placingTimerAborted =>
      simp [KitchenAgent.handle]

/-- The kitchen has placed the orders it was given and decided on them. -/
theorem Standing.kitchen_rests (standing : Standing config p) (inOrder : InOrder config p)
    (recipes : 1 ≤ config.kitchen.recipeCount) (gated : Gated p.kitchen) :
    KitchenAtRest p.kitchen := by
  have running := inOrder.kitchen.running
  have worker : p.kitchen.worker = .betweenHandlers := by
    cases busy : p.kitchen.worker with
    | betweenHandlers => rfl
    | choosingNextRobot order recipeId =>
        exact absurd (standing .requestNextRobot trivial not_false) (inOrder.request_enabled busy)
    | instructingRobot answer =>
        obtain ⟨id, enabled⟩ := inOrder.instruct_enabled busy
        exact absurd (standing (.instruct id) trivial not_false) enabled
    | robotInstructed answer accepted =>
        have nothing := standing.kitchen .countOrder rfl trivial
        simp [KitchenAgent.step, running, busy] at nothing
  have posted : p.kitchen.posted = [] := by
    cases next : p.kitchen.posted with
    | nil => rfl
    | cons handler posted =>
        have nothing := standing.kitchen (.runHandler ⟨1, true, none, none⟩) rfl rfl
        simp only [KitchenAgent.step, running, worker, next, if_true] at nothing
        exact absurd nothing (handle_returns recipes _ handler)
  have timer : p.kitchen.placingTimer = false := by
    cases armed : p.kitchen.placingTimer with
    | false => rfl
    | true =>
        have nothing := standing.kitchen .timerExpires rfl trivial
        simp [KitchenAgent.step, running, armed] at nothing
  have opened : p.kitchen.placingGateOpen = true := by
    have token := gated.token
    cases gate : p.kitchen.placingGateOpen with
    | true => rfl
    | false =>
        rw [tokens, waits, gate, timer, posted, worker] at token
        contradiction
  exact ⟨worker, posted, timer, gated.empty opened, opened⟩

theorem Step.gated (gated : Gated p.kitchen) {after : State RobotId} {event : Event RobotId}
    {outputs : List (Output RobotId)} (step : Step config p event after outputs) :
    Gated after.kitchen := by
  cases step with
  | robot | conveyor | notified | handedOver | taskDelivered => exact gated
  | kitchen own kitchen outputs permitted taken =>
      exact (KitchenAgent.step_cases taken).2.gated gated
  | placed kitchen received taken => exact (KitchenAgent.step_cases taken).2.gated gated
  | requested order recipeId kitchen sent choosing taken =>
      exact (KitchenAgent.step_cases taken).2.gated gated
  | answered answer kitchen received member taken =>
      exact (KitchenAgent.step_cases taken).2.gated gated
  | orderDelivered plateId kitchen received conveyor delivered deliverable called taken =>
      exact (KitchenAgent.step_cases called).2.gated gated
  | instructed id answer robot task position result kitchen sent instructing called taken =>
      exact (KitchenAgent.step_cases taken).2.gated gated

theorem reaches_gated {allowed : State RobotId → Event RobotId → Prop}
    {history : History (Event RobotId) (Output RobotId)}
    (reached : (machine config).Reaches allowed history p) : Gated p.kitchen := by
  induction reached with
  | start initial =>
      rw [initial.2.2.1]
      exact initial_gated
  | step _ _ taken ih => exact (step_cases taken).gated ih

end Kitchen

omit [DecidableEq RobotId] in
/-- A waiting robot would be asked for its dish. -/
theorem InOrder.nobody_waits (inOrder : InOrder config p)
    (endpoints : Function.Injective config.endpoint) (apart : Function.Injective (place p))
    (resting : ConveyorAtRest p.conveyor) (id : RobotId) :
    (p.robots id).pendingPickup = false := by
  cases pending : (p.robots id).pendingPickup with
  | false => rfl
  | true =>
      rcases inOrder.noted endpoints apart id pending with member | member
      · simp [resting.notifications] at member
      · simp [resting.posted] at member

theorem Standing.robot_rests (standing : Standing config p) (inOrder : InOrder config p)
    {id : RobotId} (notWaiting : (p.robots id).pendingPickup = false) :
    RobotAgent.AtRest (p.robots id) := by
  have robots := inOrder.robots id
  have exhausted : RobotAgent.Exhausted (config.robot id) (p.robots id) := by
    intro own alone
    cases own with
    | runHandler capability => exact standing.robot id (.runHandler capability) rfl trivial
    | cookNextOrder => exact standing.robot id .cookNextOrder rfl trivial
    | timerExpires => exact standing.robot id .timerExpires rfl trivial
    | notifyConveyor reply =>
        cases alone
        by_contra called
        exact inOrder.notify_enabled called (standing (.notify id) trivial not_false)
    | conveyorConnected reply => simp [RobotAgent.step, robots.client]
    | handoverFinishedOrder => exact absurd (notWaiting.symm.trans alone) (by decide)
    | commitNewPosition => exact absurd (robots.available.symm.trans alone.1) (by decide)
    | receiveTask | switchPosition | reconfigure | conveyorLost => exact alone.elim
  exact exhausted.atRest robots.toSteady

/-- A robot that does not rest has finished its part and waits for its pickup. -/
theorem Standing.robot_rests_or_waits (standing : Standing config p) (inOrder : InOrder config p)
    (id : RobotId) : RobotAgent.AtRest (p.robots id) ∨ (p.robots id).pendingPickup = true := by
  cases pending : (p.robots id).pendingPickup with
  | false => exact .inl (standing.robot_rests inOrder pending)
  | true => exact .inr rfl

/-- Every agent of the plant is at rest. -/
@[mk_iff]
structure AtRest (p : State RobotId) : Prop where
  robots : ∀ id, RobotAgent.AtRest (p.robots id)
  conveyor : ConveyorAtRest p.conveyor
  kitchen : KitchenAtRest p.kitchen

instance [Fintype RobotId] (p : State RobotId) : Decidable (AtRest p) :=
  decidable_of_iff' _ (atRest_iff p)

omit [DecidableEq RobotId] in
theorem AtRest.carries_nothing [Fintype RobotId] (resting : AtRest p) : carried p = 0 := by
  have robots : holdings insideDishes p.robots = 0 := by
    apply Finset.sum_eq_zero
    intro id _
    rw [insideDishes, (resting.robots id).inside]
    rfl
  rw [carried, robots, resting.conveyor.empty]
  simp [postedOrders, resting.kitchen.posted]

omit [DecidableEq RobotId] in
theorem AtRest.undecided (resting : AtRest p) : undecidedOrders p = requestedOrders p := by
  simp [undecidedOrders, choosing, postedOrders, inHand, resting.kitchen.posted,
    resting.kitchen.worker]

theorem AtRest.standing (config : Config RobotId) (resting : AtRest p) : Standing config p := by
  intro event undisturbed inside
  cases ran : step config p event with
  | none => rfl
  | some result =>
      exfalso
      obtain ⟨after, outputs⟩ := result
      have step := step_cases ran
      cases step with
      | placed | answered => exact inside trivial
      | robot id own robot outputs permitted taken =>
          have robot := resting.robots id
          cases own with
          | runHandler => simp [RobotAgent.step, robot.worker, robot.posted] at taken
          | cookNextOrder => simp [RobotAgent.step, robot.worker] at taken
          | timerExpires => simp [RobotAgent.step, robot.steadyTimer] at taken
          | receiveTask | handoverFinishedOrder => contradiction
          | notifyConveyor =>
              cases undisturbed
              contradiction
          | switchPosition | commitNewPosition | reconfigure | conveyorLost
          | conveyorConnected => exact undisturbed.elim
      | conveyor own conveyor outputs permitted taken =>
          have conveyor := resting.conveyor
          cases own with
          | receiveNextRobot => exact inside trivial
          | timerExpires => simp [ConveyorAgent.step, conveyor.steadyTimer] at taken
          | runHandler => simp [ConveyorAgent.step, conveyor.worker, conveyor.posted] at taken
          | retrieve | retrieved | requestNextRobot | requested | deliver | delivered =>
              simp [ConveyorAgent.step, conveyor.worker] at taken
          | receiveFinishedOrderNotification => contradiction
          | positionChanged | robotStopped | controllerLost | controllerConnected =>
              exact undisturbed.elim
      | kitchen own kitchen outputs permitted taken =>
          have kitchen := resting.kitchen
          cases own with
          | timerExpires => simp [KitchenAgent.step, kitchen.placingTimer] at taken
          | runHandler => simp [KitchenAgent.step, kitchen.worker, kitchen.posted] at taken
          | chooseNextRobot | instruct | countOrder =>
              simp [KitchenAgent.step, kitchen.worker] at taken
          | placeRandomOrder | receiveNextRobot | receiveCompletedOrder => contradiction
          | positionChanged | robotStopped | controllerLost | controllerConnected =>
              exact undisturbed.elim
      | requested order recipeId kitchen sent choosing taken =>
          rw [resting.kitchen.worker] at choosing
          contradiction
      | instructed id answer robot task position result kitchen sent instructing called taken =>
          rw [resting.kitchen.worker] at instructing
          contradiction
      | notified id call robot sent conveyor received asked notification called taken =>
          have robot := resting.robots id
          rcases notification with rfl | ⟨_, pending⟩
          · simp [RobotAgent.step, robot.worker] at called
          · exact absurd (robot.pendingPickup.symm.trans pending) (by decide)
      | handedOver id position robot dish reply conveyor taken asks called retrieved =>
          simp [ConveyorAgent.step, resting.conveyor.worker] at retrieved
      | taskDelivered id plateId robot task position result conveyor delivered deliverable called
          taken => simp [ConveyorAgent.step, resting.conveyor.worker] at taken
      | orderDelivered plateId kitchen received conveyor delivered deliverable called taken =>
          simp [ConveyorAgent.step, resting.conveyor.worker] at taken

end Standing

section Theorem

variable [DecidableEq RobotId] [Fintype RobotId] {config : Config RobotId} {p : State RobotId}
  {history : History (Event RobotId) (Output RobotId)}

/-- In a plant that stands still and waits for no answer every agent is at rest. -/
theorem Standing.atRest (standing : Standing config p)
    (endpoints : Function.Injective config.endpoint) (draws : DrawsKnown config)
    (recipes : 1 ≤ config.kitchen.recipeCount)
    (reached : (machine config).Reaches (Undisturbed config) history p)
    (apart : Function.Injective (place p)) (answered : p.conveyor.nextRobotRequestQueue = []) :
    AtRest p := by
  have inOrder := reaches_inOrder draws reached
  have follows := reaches_followsRecipes (reached.mono
    (fun _ _ undisturbed => Undisturbed.eachCommitsOnce undisturbed))
  have conveyor := standing.conveyor_rests inOrder follows answered
  have kitchen := standing.kitchen_rests inOrder recipes (reaches_gated reached)
  have robots : ∀ id, RobotAgent.AtRest (p.robots id) := fun id =>
    standing.robot_rests inOrder (inOrder.nobody_waits endpoints apart conveyor id)
  exact ⟨robots, conveyor, kitchen⟩

omit [DecidableEq RobotId] in
/-- At rest every order is decided, and completed if a robot took it. -/
theorem AtRest.decided (resting : AtRest p) (lost : NothingLost history p) :
    completedOrders history + droppedOrders history + requestedOrders p =
      Multiset.range p.nextOrder := by
  have completed : completedOrders history = assignedOrders history := by
    have carried := lost.carried
    have assigned := lost.assigned
    rw [resting.carries_nothing, zero_add] at carried
    rw [resting.kitchen.accepts_nothing, zero_add] at assigned
    exact carried.trans assigned.symm
  calc completedOrders history + droppedOrders history + requestedOrders p
      = undecidedOrders p + (assignedOrders history + droppedOrders history) := by
        rw [resting.undecided, completed, add_comm]
    _ = waitingOrders p.kitchen + placedOrders history := by
        rw [lost.undecided, resting.kitchen.waits_for_nothing, zero_add]
    _ = Multiset.range p.nextOrder := lost.waiting

/-- Nothing fails in a plant and no robot is adapted. When it can go on only by
something from outside and the conveyor waits for no answer, every agent is at
rest, and every order was completed or dropped, or the controller has still to
answer a request for it. -/
theorem undisturbed_plant_waits_for_controller (config : Config RobotId)
    (endpoints : Function.Injective config.endpoint) (draws : DrawsKnown config)
    (recipes : 1 ≤ config.kitchen.recipeCount)
    (history : History (Event RobotId) (Output RobotId)) (p : State RobotId)
    (reached : (machine config).Reaches (Undisturbed config) history p)
    (apart : Function.Injective (place p)) (standing : Standing config p)
    (answered : p.conveyor.nextRobotRequestQueue = []) :
    AtRest p ∧
      completedOrders history + droppedOrders history + requestedOrders p =
        Multiset.range p.nextOrder := by
  have resting := standing.atRest endpoints draws recipes reached apart answered
  have lost := reaches_nothingLost draws endpoints reached
  exact ⟨resting, resting.decided lost⟩

end Theorem

section Example

theorem bakery_endpoints : Function.Injective bakery.endpoint := by decide

theorem bakery_draws : DrawsKnown bakery := by
  intro recipeId atLeast atMost
  have atMost : recipeId ≤ 2 := atMost
  have either : recipeId = 1 ∨ recipeId = 2 := by omega
  rcases either with rfl | rfl
  · decide
  · decide

def baking : Fin 2 := Fin.last 1

def servesToast : List (Event (Fin 2)) :=
  assignsOrder baking 0 2 ++
  List.map (.robot baking)
    [.runHandler "bake", .cookNextOrder, .timerExpires, .runHandler "bake"] ++
  [.notify baking] ++
  List.map .conveyor [.runHandler connects, .timerExpires, .runHandler connects] ++
  [.handover baking 2] ++
  List.map .conveyor [.retrieved, .requestNextRobot 2 (some true), .requested, .timerExpires,
    .runHandler connects] ++
  [.deliverOrder 2, .conveyor .delivered, .kitchen (.runHandler (drawsRecipe 2)),
   .robot baking (.runHandler "bake"), .robot baking .cookNextOrder]

def requestsCookies : List (Event (Fin 2)) :=
  [.placeOrder, .kitchen (.runHandler (drawsRecipe 1)), .requestNextRobot,
   .kitchen .timerExpires, .kitchen (.runHandler (drawsRecipe 1))]

/-- The toast is served, one order of cookies is dropped, and the bakery stands
still until the controller answers the request for another one. -/
theorem bakery_stands :
    ∃ history p, (machine bakery).Reaches (Undisturbed bakery) history p ∧
      Standing bakery p ∧ completedOrders history = {0} ∧ droppedOrders history = {1} ∧
      requestedOrders p = {2} ∧ AtRest p ∧
      completedOrders history + droppedOrders history + requestedOrders p =
        Multiset.range p.nextOrder := by
  obtain ⟨history, p, reached, shown⟩ := Machine.exists_reaches_of_replay (machine bakery)
    (Undisturbed bakery) idleBakery_starts.1
    (servesToast ++ requestsCookies ++
      [.answer ⟨0, "", 1, 1⟩, .kitchen (.runHandler (drawsRecipe 1))] ++ requestsCookies)
    (fun history p => decide (AtRest p ∧ Function.Injective (place p) ∧
      p.conveyor.nextRobotRequestQueue = [] ∧ completedOrders history = {0} ∧
      droppedOrders history = {1} ∧ requestedOrders p = {2})) (by decide +kernel)
  obtain ⟨resting, apart, answered, completed, dropped, requested⟩ := of_decide_eq_true shown
  have stands := resting.standing bakery
  obtain ⟨rests, accounted⟩ := undisturbed_plant_waits_for_controller bakery bakery_endpoints
    bakery_draws (by decide) history p reached apart stands answered
  exact ⟨history, p, reached, stands, completed, dropped, requested, rests, accounted⟩

end Example

end CpsKitchen.Plant
