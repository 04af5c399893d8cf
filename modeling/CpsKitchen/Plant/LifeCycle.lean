import CpsKitchen.Plant.OrderBook
import CpsKitchen.Plant.Progress

/-!
# The life of an order

Whatever the agents do and lose, what they put out about orders is a run of the
order book. The book knows the station of every order that is still in the
plant, and the log of a dish knows how much of its recipe is left.
-/

namespace CpsKitchen.Plant

open CpsKitchen.Reactive CpsKitchen.Recipes
open CpsKitchen.RobotAgent (Robot Task DishLog Log Done heldDishes work)
open CpsKitchen.ConveyorAgent (placedDishes)
open CpsKitchen.KitchenAgent (Kitchen postedOrders choosing instructing inHand acceptedInHand
  waitingOrders)

set_option autoImplicit false

variable {RobotId : Type} {config : Config RobotId} {p after : State RobotId}
  {event : Event RobotId} {outputs : List (Output RobotId)}

section Marks

def kitchenMark? : KitchenAgent.Output → Option (DishId × Mark)
  | .orderPlaced order recipeId => some (order, .ordered recipeId)
  | .robotInstructed order recipeId _ true => some (order, .accepted recipeId)
  | .orderAssigned order => some (order, .assigned)
  | .orderDropped order => some (order, .dropped)
  | .orderCompleted order => some (order, .completed)
  | .robotInstructed _ _ _ false | .nextRobotRequested _ _ _ => none

def Output.mark? : Output RobotId → Option (DishId × Mark)
  | .kitchen output => kitchenMark? output
  | .robot _ (.actionPerformed dish action capable) => some (dish, .performed action capable)
  | .conveyor (.completedOrder dish recipeId true) => some (dish, .served recipeId)
  | _ => none

def marksOf (history : History (Event RobotId) (Output RobotId)) : List (DishId × Mark) :=
  (outputsOf history).filterMap Output.mark?

def Mark.drawn? : Mark → Option RecipeId
  | .ordered recipeId => some recipeId
  | _ => none

def Mark.performed? : Mark → Option (RobotAction × Bool)
  | .performed action capable => some (action, capable)
  | _ => none

def logOfMarks (marks : List Mark) : DishLog :=
  ⟨marks.filterMap Mark.drawn?, marks.filterMap Mark.performed?⟩

theorem read_mark {Value : Type} (read : Mark → Option Value) (dish order : DishId)
    (mark : Mark) :
    (if dish = order then some mark else none).bind read =
      if dish = order then read mark else none := by
  split <;> rfl

theorem drawnFor?_mark (order : DishId) (output : Output RobotId) :
    output.drawnFor? order =
      (output.mark?.bind fun event => if event.1 = order then some event.2 else none).bind
        Mark.drawn? := by
  cases output with
  | robot id output =>
      cases output <;> simp [Output.drawnFor?, Output.mark?, read_mark, Mark.drawn?]
  | conveyor output =>
      cases output with
      | completedOrder dish recipeId accepted =>
          cases accepted <;> simp [Output.drawnFor?, Output.mark?, read_mark, Mark.drawn?]
      | handoverReply | nextRobotRequested | robotInstructed => rfl
  | kitchen output =>
      simp only [Output.mark?]
      unfold kitchenMark?
      split <;> simp [Output.drawnFor?, KitchenAgent.Output.drawnFor?, read_mark, Mark.drawn?]

theorem performedOn?_mark (order : DishId) (output : Output RobotId) :
    output.performedOn? order =
      (output.mark?.bind fun event => if event.1 = order then some event.2 else none).bind
        Mark.performed? := by
  cases output with
  | robot id output =>
      cases output <;>
        simp [Output.performedOn?, RobotAgent.Output.performedOn?, Output.mark?, read_mark,
          Mark.performed?]
  | conveyor output =>
      cases output with
      | completedOrder dish recipeId accepted =>
          cases accepted <;> simp [Output.performedOn?, Output.mark?, read_mark, Mark.performed?]
      | handoverReply | nextRobotRequested | robotInstructed => rfl
  | kitchen output =>
      simp only [Output.mark?]
      unfold kitchenMark?
      split <;> simp [Output.performedOn?, read_mark, Mark.performed?]

theorem logOf_marks (history : History (Event RobotId) (Output RobotId)) (order : DishId) :
    logOf history order = logOfMarks (marksOn order (marksOf history)) := by
  have drawn : Output.drawnFor? order = fun output : Output RobotId =>
      (output.mark?.bind fun event => if event.1 = order then some event.2 else none).bind
        Mark.drawn? := funext (drawnFor?_mark order)
  have performed : Output.performedOn? order = fun output : Output RobotId =>
      (output.mark?.bind fun event => if event.1 = order then some event.2 else none).bind
        Mark.performed? := funext (performedOn?_mark order)
  simp only [logOf, addTo, logOfMarks, marksOn, marksOf, List.filterMap_filterMap,
    List.nil_append, drawn, performed, Option.bind_assoc]

end Marks

section Stations

inductive Station
  | waiting
  /-- The order has a recipe and is neither dropped nor accepted. -/
  | undecided
  /-- A robot or a plate has the dish. -/
  | carried
  /-- The kitchen has the dish and has not counted it. -/
  | delivered
  deriving DecidableEq

def refused (k : Kitchen) : Multiset DishId :=
  match k.worker with
  | .robotInstructed answer false => {answer.order}
  | _ => 0

def undecided (p : State RobotId) : Multiset DishId :=
  choosing p.kitchen + requestedOrders p +
    postedOrders KitchenAgent.Handler.answered? p.kitchen +
      (instructing p.kitchen + refused p.kitchen)

def held [Fintype RobotId] (p : State RobotId) : Station → Multiset DishId
  | .waiting => waitingOrders p.kitchen
  | .undecided => undecided p
  | .carried => holdings heldDishes p.robots + placedDishes p.conveyor
  | .delivered => postedOrders KitchenAgent.Handler.completed? p.kitchen

def Stage.station? : Stage → Option Station
  | .unknown => some .waiting
  | .ordered _ => some .undecided
  | .cooking _ _ => some .carried
  | .served => some .delivered
  | .dropped | .completed => none

def Mark.source? : Mark → Option Station
  | .ordered _ => some .waiting
  | .dropped | .accepted _ => some .undecided
  | .served _ => some .carried
  | .completed => some .delivered
  | .performed _ _ | .assigned => none

def Mark.goal? : Mark → Option Station
  | .ordered _ => some .undecided
  | .accepted _ => some .carried
  | .served _ => some .delivered
  | .dropped | .completed | .performed _ _ | .assigned => none

def leaving (place : Station) (event : DishId × Mark) : Multiset DishId :=
  if event.2.source? = some place then {event.1} else 0

def entering (place : Station) (event : DishId × Mark) : Multiset DishId :=
  if event.2.goal? = some place then {event.1} else 0

def assigning : DishId × Mark → Multiset DishId
  | (order, .assigned) => {order}
  | _ => 0

def Output.served : Output RobotId → Multiset DishId
  | .conveyor (.completedOrder dish _ true) => {dish}
  | _ => 0

theorem inHand_eq (k : Kitchen) : inHand k = instructing k + refused k + acceptedInHand k := by
  unfold inHand instructing refused acceptedInHand
  cases k.worker with
  | robotInstructed answer accepted => cases accepted <;> simp
  | betweenHandlers | choosingNextRobot | instructingRobot => simp

/-- The kitchen decides on orders that it has drawn a recipe for. -/
private theorem undecided_balance {choosing choosing' requests requests' posted posted' undone
    undone' inHand inHand' requested requestAccepted answers started placed assigned accepted
    dropped : Multiset DishId} (choice : choosing' + requested = choosing + placed)
    (request : requests' + answers = requests + requestAccepted)
    (answer : posted' + started = posted + answers)
    (hand : undone' + inHand' + (assigned + dropped) = undone + inHand + started)
    (assignment : inHand' + assigned = inHand + accepted) (fewer : requestAccepted ≤ requested) :
    choosing' + requests' + posted' + undone' + (dropped + accepted) ≤
      choosing + requests + posted + undone + placed := by
  have moved : choosing' + requests' + posted' + undone' + (dropped + accepted) +
        (requested + answers + started + (inHand' + assigned)) ≤
      choosing + requests + posted + undone + placed +
        (requested + answers + started + (inHand' + assigned)) :=
    calc choosing' + requests' + posted' + undone' + (dropped + accepted) +
          (requested + answers + started + (inHand' + assigned))
        = choosing' + requested + (requests' + answers) + (posted' + started) +
            (undone' + inHand' + (assigned + dropped)) + accepted := by abel
      _ = choosing + placed + (requests + requestAccepted) + (posted + answers) +
            (undone + inHand + started) + accepted := by
          rw [choice, request, answer, hand]
      _ ≤ choosing + placed + (requests + requested) + (posted + answers) +
            (undone + inHand + started) + accepted :=
          add_le_add (add_le_add (add_le_add (add_le_add le_rfl (add_le_add le_rfl fewer)) le_rfl)
            le_rfl) le_rfl
      _ = choosing + requests + posted + undone + placed +
            (requested + answers + started + (inHand + accepted)) := by abel
      _ = choosing + requests + posted + undone + placed +
            (requested + answers + started + (inHand' + assigned)) := by rw [assignment]
  exact le_of_add_le_add_right moved

theorem KitchenShare.undecided_le {call : KitchenAgent.Event} {told : List KitchenAgent.Output}
    (share : KitchenShare p event after outputs call told) :
    undecided after + (amount KitchenAgent.Output.dropped told +
        amount KitchenAgent.Output.accepted told) ≤
      undecided p + amount KitchenAgent.Output.placed told := by
  have books := share.books
  have hand := books.inHand
  rw [inHand_eq, inHand_eq] at hand
  exact undecided_balance books.choosing share.requests books.answers hand books.accepted
    (requestAccepted_le told)

variable [DecidableEq RobotId]

theorem Step.completions (step : Step config p event after outputs) :
    postedOrders KitchenAgent.Handler.completed? after.kitchen +
        amount (Output.ofKitchen KitchenAgent.Output.completed) outputs =
      postedOrders KitchenAgent.Handler.completed? p.kitchen + amount Output.served outputs := by
  have fromRobot : ∀ (id : RobotId) (sent : List RobotAgent.Output),
      amount Output.served (wrap id sent) = 0 := by
    intro id sent
    apply amount_eq_zero
    intro output member
    obtain ⟨_, _, rfl⟩ := List.mem_map.mp member
    rfl
  have fromKitchen : ∀ told : List KitchenAgent.Output,
      amount Output.served (told.map (@Output.kitchen RobotId)) = 0 := by
    intro told
    apply amount_eq_zero
    intro output member
    obtain ⟨_, _, rfl⟩ := List.mem_map.mp member
    rfl
  have quiet : ∀ told : List ConveyorAgent.Output,
      amount ConveyorAgent.Output.givenAway told = 0 →
        amount Output.served (told.map (@Output.conveyor RobotId)) = 0 := by
    intro told nothing
    rw [amount_map]
    refine Multiset.le_zero.mp (nothing ▸ amount_mono _ ?_ told)
    intro output
    cases output with
    | completedOrder dish recipeId accepted =>
        cases accepted
        · exact Multiset.zero_le _
        · exact le_refl ({dish} : Multiset DishId)
    | handoverReply | nextRobotRequested | robotInstructed => exact Multiset.zero_le _
  cases step with
  | robot id own robot sent =>
      rw [amount_ofKitchen_wrap, fromRobot]
      rfl
  | conveyor own conveyor told permitted taken =>
      rw [amount_ofKitchen_conveyor, quiet told (ownConveyor_plain permitted taken).1]
  | kitchen own kitchen told permitted taken =>
      have notTold : own.completes = 0 := by cases own <;> first | rfl | contradiction
      rw [amount_ofKitchen_kitchen, fromKitchen, kitchen_completions taken, notTold]
  | placed kitchen received taken | answered answer kitchen received member taken =>
      rw [amount_ofKitchen_kitchen, fromKitchen]
      exact kitchen_completions taken
  | requested order recipeId kitchen sent choosing taken =>
      rw [amount_ofKitchen_kitchen, fromKitchen]
      exact kitchen_completions taken
  | notified id call robot sent conveyor received asked notification called taken =>
      have nothing : received = [] := by
        cases (ConveyorAgent.step_cases taken).2
        rfl
      rw [nothing, amount_ofKitchen_others, amount_append, fromRobot]
      rfl
  | handedOver id position robot dish reply conveyor taken asks called retrieved =>
      rw [amount_ofKitchen_others, amount_append, fromRobot, quiet]
      · rfl
      · rcases handedOver_conveyor retrieved with rfl | rfl <;> rfl
  | taskDelivered id plateId robot task position result conveyor delivered deliverable called
      taken =>
      obtain ⟨_, _, _, instructed, _⟩ := taskDelivered_conveyor deliverable called taken
      rw [instructed, amount_ofKitchen_others, amount_append, fromRobot]
      rfl
  | orderDelivered plateId kitchen received conveyor delivered deliverable called taken =>
      have counted := kitchen_completions called
      rw [orderDelivered_conveyor deliverable taken]
      simp only [amount_append, amount_ofKitchen_conveyor, amount_ofKitchen_kitchen, zero_add,
        fromKitchen, add_zero]
      exact counted
  | instructed id answer robot task position result kitchen sent instructing called taken =>
      simp only [amount_append, amount_ofKitchen_wrap, amount_ofKitchen_kitchen, zero_add,
        fromRobot, fromKitchen]
      exact kitchen_completions taken

theorem Step.arrival (step : Step config p event after outputs) :
    after.nextOrder = p.nextOrder ∨ outputs = [] := by
  cases step with
  | placed kitchen received taken =>
      right
      cases (KitchenAgent.step_cases taken).2
      rfl
  | robot | conveyor | kitchen | requested | answered | notified | handedOver | taskDelivered
  | orderDelivered | instructed => exact .inl rfl

section Flow

variable [Fintype RobotId]

omit [DecidableEq RobotId] [Fintype RobotId] in
/-- The marks of the agents' outputs move orders as the agents do. -/
private theorem mark_moves (output : Output RobotId) :
    (output.mark?).elim 0 (leaving .waiting) = output.ofKitchen KitchenAgent.Output.placed ∧
      (output.mark?).elim 0 (entering .waiting) = 0 ∧
      (output.mark?).elim 0 (leaving .undecided) =
        output.ofKitchen (fun told => told.dropped + told.accepted) ∧
      (output.mark?).elim 0 (entering .undecided) =
        output.ofKitchen KitchenAgent.Output.placed ∧
      (output.mark?).elim 0 (leaving .carried) = output.served ∧
      (output.mark?).elim 0 (entering .carried) =
        output.ofKitchen KitchenAgent.Output.accepted ∧
      (output.mark?).elim 0 (leaving .delivered) =
        output.ofKitchen KitchenAgent.Output.completed ∧
      (output.mark?).elim 0 (entering .delivered) = output.served ∧
      (output.mark?).elim 0 assigning = output.ofKitchen KitchenAgent.Output.assigned := by
  cases output with
  | robot id output => cases output <;> exact ⟨rfl, rfl, rfl, rfl, rfl, rfl, rfl, rfl, rfl⟩
  | conveyor output =>
      cases output with
      | completedOrder dish recipeId accepted =>
          cases accepted <;> exact ⟨rfl, rfl, rfl, rfl, rfl, rfl, rfl, rfl, rfl⟩
      | handoverReply | nextRobotRequested | robotInstructed =>
          exact ⟨rfl, rfl, rfl, rfl, rfl, rfl, rfl, rfl, rfl⟩
  | kitchen output =>
      cases output with
      | robotInstructed order recipeId position accepted =>
          cases accepted <;> exact ⟨rfl, rfl, rfl, rfl, rfl, rfl, rfl, rfl, rfl⟩
      | orderPlaced | nextRobotRequested | orderAssigned | orderDropped | orderCompleted =>
          exact ⟨rfl, rfl, rfl, rfl, rfl, rfl, rfl, rfl, rfl⟩

omit [DecidableEq RobotId] [Fintype RobotId] in
private theorem amount_marks {worth : DishId × Mark → Multiset DishId}
    {told : Output RobotId → Multiset DishId}
    (same : ∀ output : Output RobotId, (output.mark?).elim 0 worth = told output)
    (outputs : List (Output RobotId)) :
    amount worth (outputs.filterMap Output.mark?) = amount told outputs := by
  rw [amount_filterMap, funext same]

theorem Step.flow (belt : ConveyorAgent.Belt config.conveyor p.conveyor)
    (step : Step config p event after outputs) :
    ∃ new, (new = 0 ∨ new = {p.nextOrder} ∧ outputs = []) ∧ ∀ place,
      held after place + amount (leaving place) (outputs.filterMap Output.mark?) ≤
        held p place + amount (entering place) (outputs.filterMap Output.mark?) +
          if place = .waiting then new else 0 := by
  obtain ⟨call, told, share⟩ := step.kitchen_share
  have completions := step.completions
  have arrives : call.requests = 0 ∨ call.requests = {p.nextOrder} ∧ outputs = [] := by
    rcases share.placed with ⟨none, _⟩ | ⟨one, next⟩
    · exact .inl none
    · refine .inr ⟨one, step.arrival.resolve_left ?_⟩
      rw [next]
      exact Nat.succ_ne_self _
  refine ⟨call.requests, arrives, ?_⟩
  intro place
  cases place with
  | waiting =>
      rw [amount_marks (fun output => (mark_moves output).1),
        amount_marks (fun output => (mark_moves output).2.1), share.heard, if_pos rfl,
        amount_eq_zero _ (fun _ _ => rfl), add_zero]
      exact share.books.waiting.le
  | undecided =>
      rw [amount_marks (fun output => (mark_moves output).2.2.1),
        amount_marks (fun output => (mark_moves output).2.2.2.1), share.heard, share.heard,
        if_neg (by simp), add_zero]
      have both : amount (fun told : KitchenAgent.Output => told.dropped + told.accepted) told =
          amount KitchenAgent.Output.dropped told + amount KitchenAgent.Output.accepted told :=
        List.sum_map_add ..
      rw [both]
      exact share.undecided_le
  | carried =>
      rw [amount_marks (fun output => (mark_moves output).2.2.2.2.1),
        amount_marks (fun output => (mark_moves output).2.2.2.2.2.1), if_neg (by simp), add_zero]
      have flow := step_underWay belt step
      rw [underWay, add_assoc, completions, underWay] at flow
      refine le_of_add_le_add_right (?_ : _ + postedOrders
        KitchenAgent.Handler.completed? p.kitchen ≤ _)
      calc held after .carried + amount Output.served outputs +
            postedOrders KitchenAgent.Handler.completed? p.kitchen
          = held after .carried + (postedOrders KitchenAgent.Handler.completed? p.kitchen +
              amount Output.served outputs) := by abel
        _ ≤ _ := flow
        _ = held p .carried + amount (Output.ofKitchen KitchenAgent.Output.accepted) outputs +
              postedOrders KitchenAgent.Handler.completed? p.kitchen := add_right_comm _ _ _
  | delivered =>
      rw [amount_marks (fun output => (mark_moves output).2.2.2.2.2.2.1),
        amount_marks (fun output => (mark_moves output).2.2.2.2.2.2.2.1), if_neg (by simp),
        add_zero]
      exact completions.le

omit [Fintype RobotId] in
/-- The order in hand is accepted when it comes and assigned when it goes. -/
theorem Step.inHand (step : Step config p event after outputs) :
    acceptedInHand after.kitchen + amount assigning (outputs.filterMap Output.mark?) =
      acceptedInHand p.kitchen +
        amount (entering .carried) (outputs.filterMap Output.mark?) := by
  obtain ⟨call, told, share⟩ := step.kitchen_share
  rw [amount_marks (fun output => (mark_moves output).2.2.2.2.2.2.2.2),
    amount_marks (fun output => (mark_moves output).2.2.2.2.2.1), share.heard, share.heard]
  exact share.books.accepted

end Flow

end Stations

section Evidence

variable {log : Log}

def Right (parser : RecipeParser) (log : Log) (p : State RobotId) (order : DishId) : Mark → Prop
  | .accepted recipeId => Done parser log ⟨recipeId, 0, order⟩
  | .performed action capable =>
      capable = true ∧ ∃ recipeId steps recipe rest,
        Done parser log ⟨recipeId, steps, order⟩ ∧ parser.getRecipe recipeId = some recipe ∧
          recipe.actionQueue.drop steps = action :: rest ∧ ∃ id, order ∈ heldDishes (p.robots id)
  | .served recipeId =>
      ∃ recipe, parser.getRecipe recipeId = some recipe ∧
        log order = ⟨[recipeId], recipe.actionQueue.map fun action => (action, true)⟩
  | .assigned => order ∈ acceptedInHand p.kitchen
  | .ordered _ | .dropped | .completed => True

theorem marks_wrap_quiet {id : RobotId} {sent : List RobotAgent.Output}
    (quiet : ∀ output ∈ sent, output.performed? = none) :
    (wrap id sent).filterMap Output.mark? = [] := by
  apply List.filterMap_eq_nil_iff.mpr
  intro output member
  obtain ⟨inner, inside, rfl⟩ := List.mem_map.mp member
  have silent := quiet inner inside
  cases inner with
  | actionPerformed => contradiction
  | taskReply | handoverReply | result | finishedOrderNotification => rfl

theorem marks_kitchen (told : List KitchenAgent.Output) :
    (told.map (@Output.kitchen RobotId)).filterMap Output.mark? = told.filterMap kitchenMark? := by
  rw [List.filterMap_map]
  rfl

theorem marks_conveyor_quiet {told : List ConveyorAgent.Output}
    (nothing : amount ConveyorAgent.Output.givenAway told = 0) :
    (told.map (@Output.conveyor RobotId)).filterMap Output.mark? = [] := by
  apply List.filterMap_eq_nil_iff.mpr
  intro output member
  obtain ⟨inner, inside, rfl⟩ := List.mem_map.mp member
  have worth := le_amount ConveyorAgent.Output.givenAway inside
  rw [nothing] at worth
  cases inner with
  | completedOrder dish recipeId accepted =>
      cases accepted with
      | false => rfl
      | true => exact absurd (Multiset.le_zero.mp worth) (Multiset.singleton_ne_zero dish)
  | handoverReply | nextRobotRequested | robotInstructed => rfl

variable [DecidableEq RobotId] [Fintype RobotId]

omit [DecidableEq RobotId] in
theorem robot_marks (follows : FollowsRecipes config log p) {id : RobotId}
    {own : RobotAgent.Event} {robot : Robot} {sent : List RobotAgent.Output}
    (once : RobotAgent.CommitsOnce (p.robots id) own)
    (taken : RobotAgent.step (config.robot id) (p.robots id) own = some (robot, sent)) :
    (wrap id sent).filterMap Output.mark? = [] ∨
      ∃ order mark, (wrap id sent).filterMap Output.mark? = [(order, mark)] ∧
        Right config.recipeParser log p order mark := by
  have worked := (RobotAgent.step_sound (follows.sound id) once taken).2
  generalize work robot = w' at worked
  cases worked with
  | same plain => exact .inl (marks_wrap_quiet fun output member => (plain output member).2.2)
  | performed action rest cooking front =>
      have done := (follows.robots id).inProcess cooking
      obtain ⟨recipe, known, _, queue⟩ := (follows.sound id).readable.inProcess cooking
      exact .inr ⟨(work (p.robots id)).dishInProcess, .performed action true, rfl, rfl, _, _,
        recipe, rest, done, known, queue.symm.trans front, id,
        RobotAgent.mem_heldDishes_inProcess cooking⟩
  | accepted | queued | rested | started | retooled | ticked | handedOver | reconfigured =>
      exact .inl (marks_wrap_quiet (by simp [RobotAgent.Output.performed?]))

/-- A step leaves one mark at most, and what it says is so. -/
theorem Step.marks (follows : FollowsRecipes config log p) (once : EachCommitsOnce p event)
    (step : Step config p event after outputs) :
    outputs.filterMap Output.mark? = [] ∨
      ∃ order mark, outputs.filterMap Output.mark? = [(order, mark)] ∧
        Right config.recipeParser log p order mark := by
  cases step with
  | robot id own robot sent permitted called => exact robot_marks follows (once id own rfl) called
  | conveyor own conveyor told permitted called =>
      exact .inl (marks_conveyor_quiet (ownConveyor_plain permitted called).1)
  | kitchen own kitchen told permitted called =>
      rw [marks_kitchen]
      have reaction := (KitchenAgent.step_cases called).2
      cases reaction with
      | handled _ _ _ _ _ ran =>
          cases ran with
          | queued | answerTaken | swapped | gateOpened | aborted => exact .inl rfl
          | placedAtOnce order recipeId | placedNext order _ recipeId =>
              exact .inr ⟨order, .ordered recipeId, rfl, trivial⟩
          | answerDropped answer => exact .inr ⟨answer.order, .dropped, rfl, trivial⟩
          | completed order => exact .inr ⟨order, .completed, rfl, trivial⟩
      | instructionDropped answer | refused answer =>
          exact .inr ⟨answer.order, .dropped, rfl, trivial⟩
      | instructed answer robot position accepted instructing replied =>
          obtain ⟨_, _, reply⟩ := robot
          have replied : reply = _ := replied
          subst replied
          contradiction
      | assigned answer instructed =>
          have here : answer.order ∈ acceptedInHand p.kitchen := by
            rw [acceptedInHand, instructed]
            exact Multiset.mem_singleton_self _
          exact .inr ⟨answer.order, .assigned, rfl, here⟩
      | requestReceived | answerReceived | completionReceived | positionChanged | robotStopped
      | controllerLost | controllerConnected | expired | requestFailed | requested =>
          exact .inl rfl
  | placed kitchen received called | answered answer kitchen received member called =>
      left
      cases (KitchenAgent.step_cases called).2
      rfl
  | requested order recipeId kitchen sent choosing called =>
      left
      cases (KitchenAgent.step_cases called).2
      rfl
  | notified id call robot sent conveyor received asked notification called taken =>
      have notCommit : RobotAgent.CommitsOnce (p.robots id) call := by
        rcases notification with rfl | ⟨rfl, _⟩ <;> exact fun commit => by contradiction
      have nothing : received = [] := by
        cases (ConveyorAgent.step_cases taken).2
        rfl
      rw [nothing, List.map_nil, List.append_nil]
      exact robot_marks follows notCommit called
  | handedOver id position robot dish reply conveyor taken asks called retrieved =>
      left
      rcases handedOver_conveyor retrieved with rfl | rfl <;> rfl
  | taskDelivered id plateId robot task position result conveyor delivered deliverable called
      taken =>
      obtain ⟨_, _, _, instructed, _⟩ := taskDelivered_conveyor deliverable called taken
      rw [instructed]
      exact .inl rfl
  | orderDelivered plateId kitchen received conveyor delivered deliverable called taken =>
      have quiet : received = [] := by
        cases (KitchenAgent.step_cases called).2
        rfl
      obtain ⟨_, left, loop, waits, _⟩ := step_deliver taken
      have occupied : plateId ∈ p.conveyor.occupiedPlates := by
        apply follows.belt.left
        rw [loop]
        exact waits
      have plate := follows.plates plateId occupied
      rw [orderDelivered_conveyor deliverable taken, quiet]
      refine .inr ⟨_, _, rfl, ?_⟩
      exact plate.done.whole ((plate.done.tells plate.finished).1 deliverable.1)
  | instructed id answer robot task position result kitchen sent instructing called taken =>
      rw [(instruct_called instructing taken).2]
      cases result with
      | false => exact .inl rfl
      | true =>
          refine .inr ⟨answer.order, .accepted answer.recipeId, rfl, ?_⟩
          have done := follows.ordered instructing called
          obtain ⟨rfl, _⟩ := receiveTask_reply called
          exact done

end Evidence

section Stages

variable {parser : RecipeParser} {marks : List Mark} {stage : Stage}

theorem logOfMarks_progress (marks : List Mark) :
    logOfMarks (progressOf marks) = logOfMarks marks := by
  induction marks with
  | nil => rfl
  | cons mark marks ih =>
      have same : ∀ log : DishLog, log = logOfMarks marks →
          (⟨(Mark.drawn? mark).toList ++ log.drawn,
            (Mark.performed? mark).toList ++ log.performed⟩ : DishLog) =
              logOfMarks (mark :: marks) := by
        rintro log rfl
        cases mark <;> rfl
      rw [← same _ ih]
      cases mark <;> rfl

theorem Stage.Fits.unknown (fits : stage.Fits parser marks)
    (undrawn : (logOfMarks marks).drawn = []) : stage = .unknown := by
  have drawn : ∀ recipeId rest, marks = .ordered recipeId :: rest → False := by
    rintro recipeId rest rfl
    cases undrawn
  cases stage with
  | unknown => rfl
  | ordered recipeId => exact (drawn recipeId [] fits).elim
  | dropped =>
      obtain ⟨recipeId, same⟩ := fits
      exact (drawn recipeId _ same).elim
  | cooking recipeId left =>
      obtain ⟨recipe, done, _, _, same⟩ := fits
      exact (drawn recipeId _ same).elim
  | completed =>
      obtain ⟨recipeId, recipe, _, same⟩ := fits
      exact (drawn recipeId _ same).elim
  | served =>
      obtain ⟨recipeId, recipe, _, same⟩ := fits
      cases marks with
      | nil => cases same
      | cons mark marks =>
          cases (List.cons.inj same).1
          exact (drawn recipeId _ rfl).elim

theorem Stage.Fits.cooking {recipeId : RecipeId} {left : List RobotAction}
    (fits : (Stage.cooking recipeId left).Fits parser marks) :
    ∃ recipe done, parser.getRecipe recipeId = some recipe ∧ recipe.actionQueue = done ++ left ∧
      logOfMarks marks = ⟨[recipeId], done.map fun action => (action, true)⟩ := by
  obtain ⟨recipe, done, known, split, rfl⟩ := fits
  refine ⟨recipe, done, known, split, ?_⟩
  have drawn : (done.map (Mark.performed · true)).filterMap Mark.drawn? = [] := by
    simp [List.filterMap_map, Function.comp_def, Mark.drawn?]
  have performed : (done.map (Mark.performed · true)).filterMap Mark.performed? =
      done.map fun action => (action, true) := by
    simp [List.filterMap_map, Function.comp_def, Mark.performed?, List.filterMap_eq_map']
  simp only [logOfMarks, List.filterMap_cons, Mark.drawn?, Mark.performed?, drawn, performed]

private theorem counted_of_done {log : Log} {recipeId : RecipeId} {steps : Nat} {order : DishId}
    {recipe : Recipe} (done : Done parser log ⟨recipeId, steps, order⟩)
    (known : parser.getRecipe recipeId = some recipe) :
    log order = ⟨[recipeId], (recipe.actionQueue.take steps).map fun action => (action, true)⟩ := by
  obtain ⟨found, again, _, same⟩ := done
  cases known.symm.trans again
  exact same

private theorem performed_inj {first second : List RobotAction}
    (same : (first.map fun action => (action, true)) =
      second.map fun action => (action, true)) : first = second :=
  List.map_injective_iff.mpr (fun _ _ same => (Prod.mk.inj same).1) same

/-- A mark with something behind it brings an order on that stands where the
mark takes it from. -/
theorem advance_of_right {log : Log} {order : DishId} {mark : Mark}
    (fits : stage.Fits parser (progressOf marks)) (same : log order = logOfMarks marks)
    (right : Right parser log p order mark) (brings : mark ≠ .assigned)
    (stands : stage.station? = mark.source?.or (some .carried)) :
    ∃ next, stage.advance parser mark = some next ∧
      next.station? = if mark.source?.isSome then mark.goal? else stage.station? := by
  rw [← logOfMarks_progress] at same
  cases mark with
  | assigned => contradiction
  | ordered recipeId =>
      cases stage <;> simp [Stage.station?, Mark.source?] at stands
      exact ⟨.ordered recipeId, rfl, rfl⟩
  | dropped =>
      cases stage <;> simp [Stage.station?, Mark.source?] at stands
      exact ⟨.dropped, rfl, rfl⟩
  | completed =>
      cases stage <;> simp [Stage.station?, Mark.source?] at stands
      exact ⟨.completed, rfl, rfl⟩
  | accepted recipeId =>
      cases stage <;> simp [Stage.station?, Mark.source?] at stands
      next drawn =>
        obtain ⟨recipe, known, _, logged⟩ := right
        have drawnOnly : progressOf marks = [.ordered drawn] := fits
        rw [same, drawnOnly] at logged
        have agree : drawn = recipeId := by
          have first := congrArg DishLog.drawn logged
          exact (List.cons.inj first).1
        subst agree
        refine ⟨.cooking drawn recipe.actionQueue, ?_, rfl⟩
        have known : parser.getRecipe drawn = some recipe := known
        rw [Stage.advance, if_pos rfl, known]
        rfl
  | performed action capable =>
      cases stage <;> simp [Stage.station?, Mark.source?] at stands
      next cooked left =>
        obtain ⟨rfl, recipeId, steps, recipe, rest, done, known, queue, _⟩ := right
        obtain ⟨_, performed, found, split, logged⟩ := fits.cooking
        have counted := counted_of_done done known
        rw [same, logged] at counted
        obtain ⟨drawn, agree⟩ := DishLog.mk.inj counted
        obtain ⟨rfl, _⟩ := List.cons.inj drawn
        cases known.symm.trans found
        have next : left = recipe.actionQueue.drop steps := by
          rw [performed_inj agree] at split
          exact List.append_cancel_left (split.symm.trans (List.take_append_drop steps _).symm)
        rw [queue] at next
        subst next
        exact ⟨.cooking cooked rest, if_pos ⟨rfl, rfl⟩, rfl⟩
  | served recipeId =>
      cases stage <;> simp [Stage.station?, Mark.source?] at stands
      next cooked left =>
        obtain ⟨recipe, known, whole⟩ := right
        obtain ⟨recipe', done, known', split, logged⟩ := fits.cooking
        rw [same, logged] at whole
        obtain ⟨drawn, performed⟩ := DishLog.mk.inj whole
        obtain ⟨rfl, _⟩ := List.cons.inj drawn
        cases known.symm.trans known'
        have nothing : left = [] := by
          rw [performed_inj performed] at split
          exact List.append_right_eq_self.mp split.symm
        subst nothing
        exact ⟨.served, if_pos rfl, rfl⟩

end Stages

section Book

variable [Fintype RobotId]

/-- What the book says of the orders that are still in the plant. -/
structure Booked (p : State RobotId) (book : Book) : Prop where
  stations : Recorded (held p) fun order => (book order).stage.station?
  inHand : ∀ order ∈ acceptedInHand p.kitchen,
    (book order).stage.isAccepted = true ∧ (book order).assigned = false

theorem initial_booked [DecidableEq RobotId] (initial : (machine config).start p) :
    Booked p fun _ => ⟨.unknown, false⟩ := by
  obtain ⟨started, conveyor, kitchen, requests, _⟩ := initial
  have robots : holdings heldDishes p.robots = 0 := by
    apply Finset.sum_eq_zero
    intro id _
    obtain ⟨_, _, _, _, _, _, _, _, same⟩ := started id
    rw [same]
    rfl
  have empty : ∀ place, held p place = 0 := by
    intro place
    cases place with
    | waiting | delivered => rw [held, kitchen]; rfl
    | undecided => rw [held, undecided, kitchen, requestedOrders, requests]; rfl
    | carried => rw [held, robots, conveyor]; rfl
  constructor
  · intro place
    rw [empty]
    exact ⟨Multiset.nodup_zero, by simp⟩
  · rw [kitchen]
    simp [acceptedInHand, KitchenAgent.initial]

theorem acceptedInHand_nodup (k : Kitchen) : (acceptedInHand k).Nodup := by
  unfold acceptedInHand
  split
  · exact Multiset.nodup_singleton _
  · exact Multiset.nodup_zero

theorem mem_carried_of_held {id : RobotId} {order : DishId}
    (member : order ∈ heldDishes (p.robots id)) : order ∈ held p .carried := by
  have among : heldDishes (p.robots id) ≤ holdings heldDishes p.robots :=
    Finset.single_le_sum (fun other _ => Multiset.zero_le (heldDishes (p.robots other)))
      (Finset.mem_univ id)
  exact Multiset.mem_add.mpr (.inl (Multiset.mem_of_le among member))

variable {book : Book} {parser : RecipeParser} {log : Log} {order : DishId} {mark : Mark}

theorem Booked.stands (booked : Booked p book) (right : Right parser log p order mark)
    (brings : mark ≠ .assigned)
    (flow : ∀ place, held after place + leaving place (order, mark) ≤
      held p place + entering place (order, mark)) :
    (book order).stage.station? = mark.source?.or (some .carried) := by
  have takes : ∀ place, mark.source? = some place → mark.goal? ≠ some place →
      (book order).stage.station? = some place := by
    intro place source apart
    have leaves := flow place
    rw [leaving, if_pos source, entering, if_neg apart, add_zero] at leaves
    refine (booked.stations place).2 order (Multiset.mem_of_le leaves ?_)
    exact Multiset.mem_add.mpr (.inr (Multiset.mem_singleton_self order))
  cases mark with
  | assigned => contradiction
  | ordered => exact takes .waiting rfl (by simp [Mark.goal?])
  | dropped | accepted => exact takes .undecided rfl (by simp [Mark.goal?])
  | served => exact takes .carried rfl (by simp [Mark.goal?])
  | completed => exact takes .delivered rfl (by simp [Mark.goal?])
  | performed =>
      obtain ⟨_, _, _, _, _, _, _, _, id, member⟩ := right
      exact (booked.stations .carried).2 order (mem_carried_of_held member)

theorem Booked.stays (booked : Booked p book) {entry : Entry}
    (still : entry.stage.station? = (book order).stage.station?)
    (fewer : ∀ place, held after place ≤ held p place) :
    Recorded (held after) fun dish => (Function.update book order entry dish).stage.station? := by
  have same : (fun dish => (Function.update book order entry dish).stage.station?) =
      fun dish => (book dish).stage.station? := by
    funext dish
    by_cases here : dish = order
    · subst here
      rw [Function.update_self, still]
    · rw [Function.update_of_ne here]
  rw [same]
  exact booked.stations.kept fewer

theorem Booked.assign (booked : Booked p book) (inHand : order ∈ acceptedInHand p.kitchen)
    (fewer : ∀ place, held after place ≤ held p place)
    (hand : acceptedInHand after.kitchen + {order} = acceptedInHand p.kitchen) :
    ∃ entry, (book order).mark parser .assigned = some entry ∧
      Booked after (Function.update book order entry) := by
  refine ⟨{ book order with assigned := true }, if_pos (booked.inHand order inHand),
    booked.stays rfl fewer, ?_⟩
  have distinct := acceptedInHand_nodup p.kitchen
  intro dish member
  have different : dish ≠ order := by
    rintro rfl
    rw [← hand] at distinct
    exact Multiset.disjoint_singleton.mp (Multiset.nodup_add.mp distinct).2.2 member
  rw [Function.update_of_ne different]
  exact booked.inHand dish (hand ▸ Multiset.mem_add.mpr (.inl member))

theorem Booked.writes (booked : Booked p book) {marks : List Mark}
    (fits : (book order).Fits parser marks) (logged : log order = logOfMarks marks)
    (right : Right parser log p order mark)
    (flow : ∀ place, held after place + leaving place (order, mark) ≤
      held p place + entering place (order, mark))
    (hand : acceptedInHand after.kitchen + assigning (order, mark) =
      acceptedInHand p.kitchen + entering .carried (order, mark)) :
    ∃ entry, (book order).mark parser mark = some entry ∧
      Booked after (Function.update book order entry) := by
  by_cases assigns : mark = .assigned
  · subst assigns
    refine booked.assign right (fun place => ?_) ?_
    · simpa [leaving, entering, Mark.source?, Mark.goal?] using flow place
    · simpa [assigning, entering, Mark.goal?] using hand
  · have stands := booked.stands right assigns flow
    obtain ⟨next, advanced, station⟩ := advance_of_right fits.stage logged right assigns stands
    refine ⟨{ book order with stage := next }, ?_, ?_, ?_⟩
    · rw [Entry.mark_progress assigns, advanced]
      rfl
    · cases source : mark.source? with
      | none =>
          rw [source] at station
          have nowhere : mark.goal? = none := by cases mark <;> first | rfl | contradiction
          refine booked.stays station fun place => ?_
          have keeps := flow place
          rw [entering, nowhere, if_neg (by simp), add_zero] at keeps
          exact le_self_add.trans keeps
      | some place =>
          rw [source] at station
          have apart : mark.goal? ≠ some place := by
            cases mark <;> cases source <;> simp [Mark.goal?]
          have there : (Function.update book order { book order with stage := next }
              order).stage.station? = mark.goal? := by
            rw [Function.update_self]
            exact station
          refine booked.stations.moves apart there ?_ ?_
          · intro other different
            rw [Function.update_of_ne different]
          · intro other
            have moves := flow other
            rw [leaving, entering, source] at moves
            simpa only [Option.some.injEq, eq_comm] using moves
    · intro dish member
      have before : dish ∈ acceptedInHand p.kitchen ∨
          dish = order ∧ ∃ recipeId, mark = .accepted recipeId := by
        have both : dish ∈ acceptedInHand p.kitchen + entering .carried (order, mark) := by
          rw [← hand]
          exact Multiset.mem_add.mpr (.inl member)
        refine (Multiset.mem_add.mp both).imp_right fun new => ?_
        cases mark with
        | accepted recipeId => exact ⟨Multiset.mem_singleton.mp new, recipeId, rfl⟩
        | assigned => contradiction
        | ordered | dropped | performed | served | completed =>
            exact absurd new (Multiset.notMem_zero dish)
      by_cases here : dish = order
      · subst here
        rw [Function.update_self]
        refine ⟨Stage.advance_accepted advanced ?_, ?_⟩
        · exact before.imp (fun inHand => (booked.inHand dish inHand).1) fun new => new.2
        · rcases before with inHand | ⟨_, recipeId, rfl⟩
          · exact (booked.inHand dish inHand).2
          · apply fits.unassigned
            cases reached : (book dish).stage with
            | ordered drawn => exact ⟨drawn, rfl⟩
            | unknown | dropped | cooking | served | completed =>
                rw [reached] at stands
                cases stands
      · rw [Function.update_of_ne here]
        exact booked.inHand dish (before.resolve_right fun new => here new.1)

theorem Booked.unmarked (booked : Booked p book) {new : Multiset DishId}
    (arrives : new = 0 ∨ new = {p.nextOrder}) (unknown : (book p.nextOrder).stage = .unknown)
    (absent : p.nextOrder ∉ waitingOrders p.kitchen)
    (flow : ∀ place, held after place ≤ held p place + if place = .waiting then new else 0)
    (hand : acceptedInHand after.kitchen = acceptedInHand p.kitchen) : Booked after book := by
  refine ⟨?_, ?_⟩
  · rcases arrives with rfl | rfl
    · exact booked.stations.kept fun place => by simpa using flow place
    · have there : (book p.nextOrder).stage.station? = some .waiting := by rw [unknown]; rfl
      exact booked.stations.enters absent there flow
  · rw [hand]
    exact booked.inHand

end Book

section Refinement

variable [DecidableEq RobotId] [Fintype RobotId]

theorem reaches_booked {history : History (Event RobotId) (Output RobotId)}
    (reached : (machine config).Reaches EachCommitsOnce history p) :
    ∃ shown book, (orderBook config.recipeParser).Reaches (fun _ _ => True) shown book ∧
      eventsOf shown = marksOf history ∧ Booked p book := by
  refine reached.simulated ?_ ?_
  · intro state initial
    exact ⟨_, rfl, initial_booked initial⟩
  · intro history before event after outputs shown book earlier permitted taken ran same booked
    have follows := reaches_followsRecipes earlier
    have step := step_cases taken
    have hand := step.inHand
    obtain ⟨new, arrives, flow⟩ := step.flow follows.belt
    have fits : ∀ order, (book order).Fits config.recipeParser
        (marksOn order (marksOf history)) := by
      intro order
      rw [marksOf, ← same]
      exact orderBook_fits ran order
    rcases step.marks follows permitted with none | ⟨order, mark, one, right⟩
    · rw [none] at flow hand
      refine ⟨[], book, .start rfl, none.symm, ?_⟩
      refine booked.unmarked (arrives.imp_right And.left) ?_ ?_ ?_ ?_
      · apply (fits before.nextOrder).stage.unknown
        rw [logOfMarks_progress, ← logOf_marks]
        exact follows.next_undrawn
      · intro waits
        have inside : before.nextOrder ∈ inventory before :=
          Multiset.mem_add.mpr (.inl (mem_kitchenDishes_waiting waits))
        exact absurd (follows.placed _ inside) (lt_irrefl _)
      · simpa using flow
      · simpa using hand
    · have nothing : new = 0 := by
        refine arrives.resolve_right ?_
        rintro ⟨_, rfl⟩
        cases one
      rw [one, nothing] at flow
      rw [one] at hand
      obtain ⟨entry, wrote, booked⟩ := booked.writes (fits order) (logOf_marks history order) right
        (by simpa using flow) (by simpa using hand)
      have written : ((orderBook config.recipeParser).resume book).step book (order, mark) =
          some (Function.update book order entry, []) :=
        congrArg (Option.map fun entry => (Function.update book order entry, [])) wrote
      have more : ((orderBook config.recipeParser).resume book).Reaches (fun _ _ => True)
          ([] ++ [((order, mark), [])]) (Function.update book order entry) :=
        .step (.start rfl) trivial written
      exact ⟨_, _, more, one.symm, booked⟩

theorem plant_refines_orderBook (config : Config RobotId) :
    (machine config).Refines EachCommitsOnce (orderBook config.recipeParser) Output.mark? := by
  intro history p reached
  obtain ⟨shown, book, ran, same, _⟩ := reaches_booked reached
  exact ⟨shown, book, ran, same⟩

/-- Whatever the agents do, an order is drawn a recipe once. Then it is dropped,
or a robot accepts it, capable robots perform its actions one after the other,
the conveyor serves it and the kitchen counts it, each once and in this order.
It is counted as assigned at most once, after a robot has accepted it. -/
theorem order_life_cycle (config : Config RobotId)
    (history : History (Event RobotId) (Output RobotId)) (p : State RobotId)
    (reached : (machine config).Reaches EachCommitsOnce history p) (order : DishId) :
    let marks := marksOn order (marksOf history)
    ((∃ recipeId, progressOf marks <+: [.ordered recipeId, .dropped]) ∨
      ∃ recipeId recipe, config.recipeParser.getRecipe recipeId = some recipe ∧
        progressOf marks <+: lifeOf recipeId recipe) ∧
    AssignedOnce marks := by
  obtain ⟨shown, book, ran, same⟩ := plant_refines_orderBook config history p reached
  have fits := orderBook_fits ran order
  rw [same] at fits
  exact ⟨fits.life, fits.once⟩

/-- The dessert has been assigned, and four of its actions have been performed. -/
theorem dessert_lives :
    ∃ history p, (machine mixingPlant).Reaches EachCommitsOnce history p ∧
      (marksOn 0 (marksOf history)).length = 7 ∧
      ((∃ recipeId, progressOf (marksOn 0 (marksOf history)) <+: [.ordered recipeId, .dropped]) ∨
        ∃ recipeId recipe, mixingPlant.recipeParser.getRecipe recipeId = some recipe ∧
          progressOf (marksOn 0 (marksOf history)) <+: lifeOf recipeId recipe) ∧
      AssignedOnce (marksOn 0 (marksOf history)) := by
  obtain ⟨history, p, reached, shown⟩ := Machine.exists_reaches_of_replay (machine mixingPlant)
    EachCommitsOnce idlePlant_starts (preparesDessert ++ [.kitchen .countOrder])
    (fun history _ => decide ((marksOn 0 (marksOf history)).length = 7)) (by decide +kernel)
  exact ⟨history, p, reached, of_decide_eq_true shown,
    order_life_cycle mixingPlant history p reached 0⟩

end Refinement

end CpsKitchen.Plant
