import CpsKitchen.RobotAgent.Progress
import CpsKitchen.KitchenAgent.Drawn
import CpsKitchen.Plant.Orders

/-!
# Every dish follows its recipe

The progress of a dish is a number that goes from the robot to the plate, to
the controller and to the next robot. It is right everywhere because a dish is
in one place at a time: the robot that works on a dish is the only one that
knows it, and hands it on with what it has done.
-/

namespace CpsKitchen.Plant

open CpsKitchen.Reactive CpsKitchen.Recipes
open CpsKitchen.RobotAgent (Robot Task Log Done Unfinished Tells Faithful Work work heldDishes)
open CpsKitchen.ConveyorAgent (PlateId Content content contentOf placedDishes)
open CpsKitchen.KitchenAgent (Kitchen postedOrders choosing instructing waitingOrders
  drawnOrders draw Recalls)

set_option autoImplicit false

variable {RobotId : Type} {config : Config RobotId} {p after : State RobotId}
  {event : Event RobotId} {outputs : List (Output RobotId)} {log : Log}

section Logs

def Output.performedOn? (dish : DishId) : Output RobotId → Option (RobotAction × Bool)
  | .robot _ output => output.performedOn? dish
  | _ => none

def Output.drawnFor? (dish : DishId) : Output RobotId → Option RecipeId
  | .kitchen output => output.drawnFor? dish
  | _ => none

def addTo (log : Log) (outputs : List (Output RobotId)) : Log := fun dish =>
  { drawn := (log dish).drawn ++ outputs.filterMap (Output.drawnFor? dish)
    performed := (log dish).performed ++ outputs.filterMap (Output.performedOn? dish) }

def logOf (history : History (Event RobotId) (Output RobotId)) : Log :=
  addTo (fun _ => ⟨[], []⟩) (outputsOf history)

def drawnIn (log : Log) : DishId → List RecipeId := fun dish => (log dish).drawn

def drawOn (log : Log) (told : List KitchenAgent.Output) : Log :=
  fun dish => { log dish with drawn := draw (drawnIn log) told dish }

theorem logOf_append (history : History (Event RobotId) (Output RobotId)) :
    logOf (history ++ [(event, outputs)]) = addTo (logOf history) outputs := by
  funext dish
  simp [logOf, addTo]

theorem addTo_append (log : Log) (first second : List (Output RobotId)) :
    addTo log (first ++ second) = addTo (addTo log first) second := by
  funext dish
  simp [addTo]

theorem addTo_wrap (log : Log) (id : RobotId) (sent : List RobotAgent.Output) :
    addTo log (wrap id sent) = log.record sent := by
  funext dish
  have nothing : (wrap id sent).filterMap (Output.drawnFor? dish) = [] := by
    simp [wrap, List.filterMap_map, Function.comp_def, Output.drawnFor?]
  rw [addTo, nothing, List.append_nil, wrap, List.filterMap_map]
  rfl

theorem addTo_conveyor (log : Log) (outputs : List ConveyorAgent.Output) :
    addTo log (outputs.map (@Output.conveyor RobotId)) = log := by
  funext dish
  simp [addTo, List.filterMap_map, Function.comp_def, Output.performedOn?, Output.drawnFor?]

theorem addTo_kitchen (log : Log) (told : List KitchenAgent.Output) :
    addTo log (told.map (@Output.kitchen RobotId)) = drawOn log told := by
  funext dish
  have nothing : (told.map (@Output.kitchen RobotId)).filterMap
      (Output.performedOn? dish) = [] := by
    simp [List.filterMap_map, Function.comp_def, Output.performedOn?]
  rw [addTo, nothing, List.append_nil, List.filterMap_map]
  rfl

end Logs

section Places

def kitchenDishes (p : State RobotId) : Multiset DishId :=
  waitingOrders p.kitchen + choosing p.kitchen + requestedOrders p +
    postedOrders KitchenAgent.Handler.answered? p.kitchen + instructing p.kitchen

def inventory [Fintype RobotId] (p : State RobotId) : Multiset DishId :=
  kitchenDishes p + underWay p

private theorem kitchen_flow {waiting waiting' choosing choosing' requests requests' answers
    answers' instructing instructing' placed requested requestAccepted arrived started accepted
    new : Multiset DishId} (wait : waiting' + placed = waiting + new)
    (choice : choosing' + requested = choosing + placed)
    (request : requests' + arrived = requests + requestAccepted)
    (answer : answers' + started = answers + arrived)
    (instruct : instructing' + accepted ≤ instructing + started)
    (fewer : requestAccepted ≤ requested) :
    waiting' + choosing' + requests' + answers' + instructing' + accepted ≤
      waiting + choosing + requests + answers + instructing + new := by
  have moved : waiting' + choosing' + requests' + answers' + instructing' + accepted +
      (placed + requested + arrived + started) ≤
      waiting + choosing + requests + answers + instructing + new +
        (placed + requested + arrived + started) :=
    calc waiting' + choosing' + requests' + answers' + instructing' + accepted +
          (placed + requested + arrived + started)
        = waiting' + placed + (choosing' + requested) + (requests' + arrived) +
            (answers' + started) + (instructing' + accepted) := by abel
      _ ≤ waiting + new + (choosing + placed) + (requests + requestAccepted) +
            (answers + arrived) + (instructing + started) := by
          rw [wait, choice, request, answer]
          exact add_le_add le_rfl instruct
      _ = waiting + choosing + requests + answers + instructing + new +
            (placed + arrived + started) + requestAccepted := by abel
      _ ≤ waiting + choosing + requests + answers + instructing + new +
            (placed + arrived + started) + requested := add_le_add le_rfl fewer
      _ = waiting + choosing + requests + answers + instructing + new +
            (placed + requested + arrived + started) := by abel
  exact le_of_add_le_add_right moved

theorem step_kitchenDishes [DecidableEq RobotId] (step : Step config p event after outputs) :
    ∃ new, (new = 0 ∧ after.nextOrder = p.nextOrder ∨
        new = {p.nextOrder} ∧ after.nextOrder = p.nextOrder + 1) ∧
      kitchenDishes after + amount (Output.ofKitchen KitchenAgent.Output.accepted) outputs ≤
        kitchenDishes p + new := by
  obtain ⟨call, told, share⟩ := step.kitchen_share
  have books := share.books
  refine ⟨call.requests, share.placed, ?_⟩
  rw [share.heard]
  exact kitchen_flow books.waiting books.choosing share.requests books.answers
    books.instructing (requestAccepted_le told)

theorem step_inventory [DecidableEq RobotId] [Fintype RobotId]
    (belt : ConveyorAgent.Belt config.conveyor p.conveyor)
    (step : Step config p event after outputs) :
    ∃ new, (new = 0 ∧ after.nextOrder = p.nextOrder ∨
        new = {p.nextOrder} ∧ after.nextOrder = p.nextOrder + 1) ∧
      kitchenDishes after ≤ kitchenDishes p + new ∧ inventory after ≤ inventory p + new := by
  obtain ⟨new, fresh, kitchen⟩ := step_kitchenDishes step
  have flow := step_underWay belt step
  refine ⟨new, fresh, le_self_add.trans kitchen, ?_⟩
  have both := add_le_add kitchen (le_self_add.trans flow)
  have moved : inventory after + amount (Output.ofKitchen KitchenAgent.Output.accepted) outputs ≤
      inventory p + new + amount (Output.ofKitchen KitchenAgent.Output.accepted) outputs :=
    calc inventory after + amount (Output.ofKitchen KitchenAgent.Output.accepted) outputs
        = kitchenDishes after + amount (Output.ofKitchen KitchenAgent.Output.accepted) outputs +
            underWay after := add_right_comm _ _ _
      _ ≤ _ := both
      _ = inventory p + new +
            amount (Output.ofKitchen KitchenAgent.Output.accepted) outputs := by
          rw [inventory]
          abel
  exact le_of_add_le_add_right moved

end Places

section Recipes

/-- What the kitchen and the controller say of an order fits what was drawn. -/
structure KitchenRecalls (log : Log) (p : State RobotId) : Prop where
  kitchen : Recalls (drawnIn log) p.kitchen
  requested : ∀ request ∈ p.requests, drawnIn log request.1 = [request.2]

theorem kitchenDishes_eq (p : State RobotId) :
    kitchenDishes p = waitingOrders p.kitchen + drawnOrders p.kitchen + requestedOrders p := by
  rw [kitchenDishes, drawnOrders]
  abel

theorem mem_kitchenDishes_waiting {order : DishId} (member : order ∈ waitingOrders p.kitchen) :
    order ∈ kitchenDishes p := by
  rw [kitchenDishes_eq]
  exact Multiset.mem_add.mpr (.inl (Multiset.mem_add.mpr (.inl member)))

theorem mem_kitchenDishes_drawn {order : DishId} (member : order ∈ drawnOrders p.kitchen) :
    order ∈ kitchenDishes p := by
  rw [kitchenDishes_eq]
  exact Multiset.mem_add.mpr (.inl (Multiset.mem_add.mpr (.inr member)))

/-- An event the plant lets the kitchen take: a new order is the next one, and
an answer is about a request. -/
def Expected (p : State RobotId) (call : KitchenAgent.Event) : Prop :=
  (call.requests = 0 ∨ call.requests = {p.nextOrder}) ∧
    ∀ answer, call = .receiveNextRobot answer → (answer.order, answer.recipeId) ∈ p.requests

theorem drawOn_eq {call : KitchenAgent.Event} {kitchen : Kitchen}
    {told : List KitchenAgent.Output}
    (taken : KitchenAgent.step config.kitchen p.kitchen call = some (kitchen, told))
    {dish : DishId} (elsewhere : dish ∉ waitingOrders p.kitchen) :
    drawOn log told dish = log dish := by
  have same : draw (drawnIn log) told dish = drawnIn log dish :=
    (KitchenAgent.step_cases taken).2.draw_eq elsewhere
  rw [drawOn, same]
  rfl

theorem KitchenRecalls.called (recalls : KitchenRecalls log p)
    (distinct : (kitchenDishes p).Nodup) (fresh : drawnIn log p.nextOrder = [])
    {call : KitchenAgent.Event} {kitchen : Kitchen} {told : List KitchenAgent.Output}
    (expected : Expected p call)
    (taken : KitchenAgent.step config.kitchen p.kitchen call = some (kitchen, told)) :
    Recalls (drawnIn (drawOn log told)) kitchen ∧
      ∀ request ∈ p.requests, drawnIn (drawOn log told) request.1 = [request.2] := by
  have step := (KitchenAgent.step_cases taken).2
  rw [kitchenDishes_eq] at distinct
  obtain ⟨known, _, apart⟩ := Multiset.nodup_add.mp distinct
  refine ⟨step.recalls recalls.kitchen known ?_ ?_, ?_⟩
  · intro order new
    have requests : call.requests = {order} := by rw [new]; rfl
    rcases expected.1 with none | next
    · rw [requests] at none
      exact absurd none (Multiset.singleton_ne_zero order)
    · rw [requests] at next
      rw [Multiset.singleton_inj.mp next]
      exact fresh
  · intro answer received
    refine ⟨?_, recalls.requested _ (expected.2 answer received)⟩
    subst received
    cases step
    rfl
  · intro request member
    have same : drawOn log told request.1 = log request.1 := by
      refine drawOn_eq taken fun waiting => ?_
      exact Multiset.disjoint_left.mp apart (Multiset.mem_add.mpr (.inl waiting))
        (Multiset.mem_coe.mpr (List.mem_map_of_mem member))
    rw [drawnIn, same]
    exact recalls.requested request member

end Recipes

section Distinct

variable [DecidableEq RobotId] [Fintype RobotId]

def elsewhere (p : State RobotId) (id : RobotId) : Multiset DishId :=
  kitchenDishes p + ∑ other ∈ Finset.univ.erase id, heldDishes (p.robots other) +
    placedDishes p.conveyor + postedOrders KitchenAgent.Handler.completed? p.kitchen

theorem inventory_split (p : State RobotId) (id : RobotId) :
    inventory p = heldDishes (p.robots id) + elsewhere p id := by
  rw [inventory, underWay, holdings_split heldDishes p.robots id, elsewhere]
  abel

theorem not_elsewhere (distinct : (inventory p).Nodup) {id : RobotId} {dish : DishId}
    (held : dish ∈ heldDishes (p.robots id)) : dish ∉ elsewhere p id := by
  rw [inventory_split p id] at distinct
  exact Multiset.disjoint_left.mp (Multiset.nodup_add.mp distinct).2.2 held

theorem held_distinct (distinct : (inventory p).Nodup) (id : RobotId) :
    (heldDishes (p.robots id)).Nodup := by
  rw [inventory_split p id] at distinct
  exact (Multiset.nodup_add.mp distinct).1

theorem mem_inventory_of_held {id : RobotId} {dish : DishId}
    (held : dish ∈ heldDishes (p.robots id)) : dish ∈ inventory p := by
  rw [inventory_split p id]
  exact Multiset.mem_add.mpr (.inl held)

omit [DecidableEq RobotId] in
theorem not_in_kitchen_of_placed (distinct : (inventory p).Nodup) {dish : DishId}
    (member : dish ∈ placedDishes p.conveyor) : dish ∉ kitchenDishes p := by
  have placed : dish ∈ underWay p := by
    simp only [underWay, Multiset.mem_add]
    exact .inl (.inr member)
  exact fun waits => Multiset.disjoint_left.mp (Multiset.nodup_add.mp distinct).2.2 waits placed

theorem mem_elsewhere_of_kitchen (id : RobotId) {dish : DishId}
    (member : dish ∈ kitchenDishes p) : dish ∈ elsewhere p id := by
  simp only [elsewhere, Multiset.mem_add]
  exact .inl (.inl (.inl member))

theorem not_in_kitchen_of_held (distinct : (inventory p).Nodup) {id : RobotId} {dish : DishId}
    (held : dish ∈ heldDishes (p.robots id)) : dish ∉ kitchenDishes p :=
  fun waits => not_elsewhere distinct held (mem_elsewhere_of_kitchen id waits)

theorem mem_elsewhere_of_placed (id : RobotId) {dish : DishId}
    (member : dish ∈ placedDishes p.conveyor) : dish ∈ elsewhere p id := by
  simp only [elsewhere, Multiset.mem_add]
  exact .inl (.inr member)

theorem mem_elsewhere_of_other {id other : RobotId} (different : other ≠ id) {dish : DishId}
    (member : dish ∈ heldDishes (p.robots other)) : dish ∈ elsewhere p id := by
  have among : heldDishes (p.robots other) ≤
      ∑ other ∈ Finset.univ.erase id, heldDishes (p.robots other) :=
    Finset.single_le_sum (fun other _ => Multiset.zero_le (heldDishes (p.robots other)))
      (Finset.mem_erase.mpr ⟨different, Finset.mem_univ other⟩)
  simp only [elsewhere, Multiset.mem_add]
  exact .inl (.inl (.inr (Multiset.mem_of_le among member)))

end Distinct

section Invariant

variable [DecidableEq RobotId] [Fintype RobotId]

/-- What the belt says of a dish is true. -/
structure PlateDone (parser : RecipeParser) (log : Log) (content : Content) : Prop where
  done : Done parser log ⟨content.recipeId, content.processedSteps, content.dish⟩
  finished : ∀ recipe, parser.getRecipe content.recipeId = some recipe →
    (content.isDishFinished = true ↔ content.processedSteps = recipe.actionQueue.length)

/-- Every agent knows how far its dishes are, and of which recipe. -/
structure FollowsRecipes (config : Config RobotId) (log : Log) (p : State RobotId) : Prop where
  belt : ConveyorAgent.Belt config.conveyor p.conveyor
  sound : ∀ id, RobotAgent.Sound (config.robot id) (p.robots id)
  distinct : (inventory p).Nodup
  placed : ∀ dish ∈ inventory p, dish < p.nextOrder
  fresh : ∀ dish, p.nextOrder ≤ dish → log dish = ⟨[], []⟩
  untouched : ∀ dish ∈ kitchenDishes p, (log dish).performed = []
  recalls : KitchenRecalls log p
  robots : ∀ id, Faithful config.recipeParser log (work (p.robots id))
  plates : ∀ plateId ∈ p.conveyor.occupiedPlates,
    PlateDone config.recipeParser log (content (p.conveyor.plates plateId))

theorem initial_followsRecipes (initial : (machine config).start p) :
    FollowsRecipes config (fun _ => ⟨[], []⟩) p := by
  obtain ⟨started, conveyor, kitchen, requests, nextOrder⟩ := initial
  have empty : inventory p = 0 := by
    have robots : holdings heldDishes p.robots = 0 := by
      apply Finset.sum_eq_zero
      intro id _
      obtain ⟨_, _, _, _, _, _, _, _, same⟩ := started id
      rw [same]
      rfl
    rw [inventory, underWay, robots, kitchenDishes, kitchen, requestedOrders, requests, conveyor]
    rfl
  exact
    { belt := by
        rw [conveyor]
        exact ConveyorAgent.initial_belt config.conveyor
      sound := fun id => RobotAgent.initial_sound (started id)
      distinct := by
        rw [empty]
        exact Multiset.nodup_zero
      placed := by simp [empty]
      fresh := fun _ _ => rfl
      untouched := fun _ _ => rfl
      recalls := by
        constructor
        · rw [kitchen]
          exact KitchenAgent.initial_recalls _
        · simp [requests]
      robots := by
        intro id
        obtain ⟨_, _, _, _, _, _, _, _, same⟩ := started id
        rw [same]
        constructor <;> simp [work, RobotAgent.initial, RobotAgent.postedTasks]
      plates := by simp [conveyor, ConveyorAgent.initial] }

theorem robot_follows (follows : FollowsRecipes config log p) {id : RobotId}
    {own : RobotAgent.Event} {robot : Robot} {sent : List RobotAgent.Output}
    (once : RobotAgent.CommitsOnce (p.robots id) own)
    (taken : RobotAgent.step (config.robot id) (p.robots id) own = some (robot, sent))
    (accepted : ∀ task position, sent = [.taskReply task position true] →
      Done config.recipeParser log task) :
    (∀ other, RobotAgent.Sound (config.robot other) (Function.update p.robots id robot other)) ∧
    (∀ other, Faithful config.recipeParser (log.record sent)
      (work (Function.update p.robots id robot other))) ∧
    ∀ dish, dish ∉ heldDishes (p.robots id) → log.record sent dish = log dish := by
  obtain ⟨sound, worked⟩ := RobotAgent.step_sound (follows.sound id) once taken
  have alone := RobotAgent.alone_of_nodup (held_distinct follows.distinct id)
  have here := worked.faithful (follows.robots id) (follows.sound id).readable alone accepted
  have kept : ∀ dish, dish ∉ heldDishes (p.robots id) → log.record sent dish = log dish := by
    intro dish notHeld
    refine worked.record_eq ?_
    rintro cooking rfl
    exact notHeld (RobotAgent.mem_heldDishes_inProcess cooking)
  refine ⟨?_, ?_, kept⟩
  · exact (Function.forall_update_iff p.robots
      fun other r => RobotAgent.Sound (config.robot other) r).mpr
        ⟨sound, fun other _ => follows.sound other⟩
  · refine (Function.forall_update_iff p.robots
      fun _ r => Faithful config.recipeParser (log.record sent) (work r)).mpr ⟨here, ?_⟩
    intro other different
    refine (follows.robots other).agree ?_
    intro dish held
    apply kept
    intro heldToo
    exact not_elsewhere follows.distinct heldToo (mem_elsewhere_of_other different held)

omit [DecidableEq RobotId] [Fintype RobotId] in
theorem PlateDone.congr {parser : RecipeParser} {other : Log} {content : Content}
    (plate : PlateDone parser log content) (same : other content.dish = log content.dish) :
    PlateDone parser other content :=
  ⟨plate.done.congr same, plate.finished⟩

/-- What is true of the robots, of the kitchen and of the plates that changed is
true of the plant: the log of every other dish stays. -/
theorem FollowsRecipes.assemble (follows : FollowsRecipes config log p)
    (step : Step config p event after outputs) {other : Log}
    (unheard : ∀ dish, (∀ id, dish ∉ heldDishes (p.robots id)) →
      (other dish).performed = (log dish).performed)
    (kept : ∀ dish, (∀ id, dish ∉ heldDishes (p.robots id)) → dish ∉ kitchenDishes p →
      other dish = log dish)
    (recalls : KitchenRecalls other after)
    (sound : ∀ id, RobotAgent.Sound (config.robot id) (after.robots id))
    (robots : ∀ id, Faithful config.recipeParser other (work (after.robots id)))
    (plates : ∀ plateId ∈ after.conveyor.occupiedPlates,
      (plateId ∈ p.conveyor.occupiedPlates ∧
        content (after.conveyor.plates plateId) = content (p.conveyor.plates plateId)) ∨
      PlateDone config.recipeParser other (content (after.conveyor.plates plateId))) :
    FollowsRecipes config other after := by
  obtain ⟨new, fresh, kitchen, all⟩ := step_inventory follows.belt step
  have unknown : ∀ dish, p.nextOrder ≤ dish → dish ∉ inventory p := fun dish late member =>
    absurd (follows.placed dish member) (Nat.not_lt.mpr late)
  have later : p.nextOrder ≤ after.nextOrder := by
    rcases fresh with ⟨_, same⟩ | ⟨_, next⟩
    · exact same.ge
    · rw [next]
      exact Nat.le_succ _
  have unseen : ∀ dish, p.nextOrder ≤ dish → other dish = ⟨[], []⟩ := by
    intro dish late
    rw [kept dish, follows.fresh dish late]
    · exact fun id held => unknown dish late (mem_inventory_of_held held)
    · exact fun waits => unknown dish late (Multiset.mem_add.mpr (.inl waits))
  exact
    { belt := step.belt follows.belt
      sound := sound
      distinct := by
        refine Multiset.nodup_of_le all ?_
        rcases fresh with ⟨rfl, _⟩ | ⟨rfl, _⟩
        · rw [add_zero]
          exact follows.distinct
        · refine Multiset.nodup_add.mpr ⟨follows.distinct, Multiset.nodup_singleton _, ?_⟩
          rw [Multiset.disjoint_singleton]
          exact unknown p.nextOrder le_rfl
      placed := by
        intro dish member
        rcases Multiset.mem_add.mp (Multiset.mem_of_le all member) with before | now
        · exact (follows.placed dish before).trans_le later
        · rcases fresh with ⟨rfl, _⟩ | ⟨rfl, next⟩
          · exact absurd now (Multiset.notMem_zero dish)
          · rw [Multiset.mem_singleton.mp now, next]
            exact Nat.lt_succ_self _
      fresh := fun dish late => unseen dish (later.trans late)
      untouched := by
        intro dish member
        rcases Multiset.mem_add.mp (Multiset.mem_of_le kitchen member) with before | now
        · rw [unheard, follows.untouched dish before]
          exact fun id held => not_in_kitchen_of_held follows.distinct held before
        · rcases fresh with ⟨rfl, _⟩ | ⟨rfl, _⟩
          · exact absurd now (Multiset.notMem_zero dish)
          · rw [unseen dish (Multiset.mem_singleton.mp now).ge]
      recalls := recalls
      robots := robots
      plates := by
        intro plateId member
        rcases plates plateId member with ⟨before, same⟩ | done
        · have placed : (p.conveyor.plates plateId).dish ∈ placedDishes p.conveyor :=
            Multiset.mem_map_of_mem _ (Finset.mem_val.mpr before)
          rw [same]
          refine (follows.plates plateId before).congr (kept _ ?_ ?_)
          · exact fun id held =>
              not_elsewhere follows.distinct held (mem_elsewhere_of_placed id placed)
          · exact not_in_kitchen_of_placed follows.distinct placed
        · exact done }

omit [DecidableEq RobotId] in
theorem FollowsRecipes.plates_kept (follows : FollowsRecipes config log p)
    {own : ConveyorAgent.Event} {conveyor : ConveyorAgent.Conveyor}
    {told : List ConveyorAgent.Output} (reports : ConveyorAgent.ReportsAddress p.conveyor own)
    (taken : ConveyorAgent.step config.conveyor p.conveyor own = some (conveyor, told))
    (nothing : amount ConveyorAgent.Output.takenIn told = 0) :
    ∀ plateId ∈ conveyor.occupiedPlates, plateId ∈ p.conveyor.occupiedPlates ∧
      content (conveyor.plates plateId) = content (p.conveyor.plates plateId) := by
  intro plateId member
  have carries :=
    ConveyorAgent.step_carries follows.belt reports (ConveyorAgent.step_cases taken).2
  rcases carries.content_from member with kept | ⟨dish, reply, rfl, recipe, _⟩
  · exact kept
  · simp [ConveyorAgent.Output.takenIn, recipe] at nothing

omit [DecidableEq RobotId] [Fintype RobotId] in
theorem accepted_known {r robot : Robot} {config : RobotAgent.Config} {asked task : Task}
    {addressed position : Position}
    (called : RobotAgent.step config r (.receiveTask asked addressed) =
      some (robot, [.taskReply task position true])) :
    ∃ recipe, config.recipeParser.getRecipe asked.recipeId = some recipe := by
  have reaction := (RobotAgent.step_cases called).2
  cases reaction with
  | refused refusal => cases refusal
  | taskAccepted _ recipe _ _ _ _ known => exact ⟨recipe, known⟩

omit [DecidableEq RobotId] in
theorem FollowsRecipes.ordered (follows : FollowsRecipes config log p) {id : RobotId}
    {answer : KitchenAgent.NextRobot} {robot : Robot} {task : Task} {position : Position}
    (instructing : p.kitchen.worker = .instructingRobot answer)
    (called : RobotAgent.step (config.robot id) (p.robots id)
      (.receiveTask ⟨answer.recipeId, 0, answer.order⟩ answer.robotPosition) =
        some (robot, [.taskReply task position true])) :
    Done config.recipeParser log task := by
  obtain ⟨rfl, _, _⟩ := receiveTask_reply called
  obtain ⟨recipe, known⟩ := accepted_known called
  refine ⟨recipe, known, Nat.zero_le _, ?_⟩
  have drawn : (log answer.order).drawn = [answer.recipeId] :=
    follows.recalls.kitchen.instructing answer instructing
  have untouched : (log answer.order).performed = [] := follows.untouched answer.order
    (mem_kitchenDishes_drawn (KitchenAgent.mem_drawnOrders_instructing instructing))
  exact congrArg₂ RobotAgent.DishLog.mk drawn untouched

omit [DecidableEq RobotId] in
theorem FollowsRecipes.delivered (follows : FollowsRecipes config log p) {plateId : PlateId}
    (occupied : plateId ∈ p.conveyor.occupiedPlates) :
    Done config.recipeParser log (taskOn p plateId) :=
  (follows.plates plateId occupied).done

omit [DecidableEq RobotId] in
theorem FollowsRecipes.kitchen_distinct (follows : FollowsRecipes config log p) :
    (kitchenDishes p).Nodup :=
  (Multiset.nodup_add.mp follows.distinct).1

omit [DecidableEq RobotId] in
theorem FollowsRecipes.next_undrawn (follows : FollowsRecipes config log p) :
    drawnIn log p.nextOrder = [] := by
  rw [drawnIn, follows.fresh p.nextOrder le_rfl]

omit [DecidableEq RobotId] in
theorem FollowsRecipes.not_waiting (follows : FollowsRecipes config log p) {order : DishId}
    (drawn : order ∈ drawnOrders p.kitchen) : order ∉ waitingOrders p.kitchen := by
  have distinct := follows.kitchen_distinct
  rw [kitchenDishes_eq] at distinct
  have apart := (Multiset.nodup_add.mp (Multiset.nodup_add.mp distinct).1).2.2
  exact fun waits => Multiset.disjoint_left.mp apart waits drawn

theorem FollowsRecipes.kitchen_called (follows : FollowsRecipes config log p)
    {call : KitchenAgent.Event} {told : List KitchenAgent.Output}
    (step : Step config p event after outputs) (expected : Expected p call)
    (taken : KitchenAgent.step config.kitchen p.kitchen call = some (after.kitchen, told))
    (robots : after.robots = p.robots)
    (requests : ∀ request ∈ after.requests,
      request ∈ p.requests ∨ drawnIn (drawOn log told) request.1 = [request.2])
    (plates : ∀ plateId ∈ after.conveyor.occupiedPlates, plateId ∈ p.conveyor.occupiedPlates ∧
      content (after.conveyor.plates plateId) = content (p.conveyor.plates plateId)) :
    FollowsRecipes config (drawOn log told) after := by
  have notWaiting : ∀ dish, dish ∉ kitchenDishes p → dish ∉ waitingOrders p.kitchen :=
    fun dish elsewhere waits => elsewhere (mem_kitchenDishes_waiting waits)
  obtain ⟨kitchen, requested⟩ :=
    follows.recalls.called follows.kitchen_distinct follows.next_undrawn expected taken
  refine follows.assemble step (fun _ _ => rfl)
    (fun dish _ elsewhere => drawOn_eq taken (notWaiting dish elsewhere)) ⟨kitchen, ?_⟩ ?_ ?_
    (fun plateId member => .inl (plates plateId member))
  · intro request member
    rcases requests request member with before | now
    · exact requested request before
    · exact now
  · rw [robots]
    exact follows.sound
  · intro id
    rw [robots]
    exact (follows.robots id).agree fun dish held =>
      drawOn_eq taken (notWaiting dish (not_in_kitchen_of_held follows.distinct held))

theorem FollowsRecipes.robot_called (follows : FollowsRecipes config log p) {id : RobotId}
    {own : RobotAgent.Event} {robot : Robot} {sent : List RobotAgent.Output}
    (step : Step config p event after outputs)
    (once : RobotAgent.CommitsOnce (p.robots id) own)
    (taken : RobotAgent.step (config.robot id) (p.robots id) own = some (robot, sent))
    (accepted : ∀ task position, sent = [.taskReply task position true] →
      Done config.recipeParser log task)
    (robots : after.robots = Function.update p.robots id robot)
    (kitchen : Recalls (drawnIn log) after.kitchen) (requests : after.requests = p.requests)
    (plates : ∀ plateId ∈ after.conveyor.occupiedPlates,
      (plateId ∈ p.conveyor.occupiedPlates ∧
        content (after.conveyor.plates plateId) = content (p.conveyor.plates plateId)) ∨
      PlateDone config.recipeParser (log.record sent) (content (after.conveyor.plates plateId))) :
    FollowsRecipes config (log.record sent) after := by
  obtain ⟨sound, faithful, kept⟩ := robot_follows follows once taken accepted
  have requested : ∀ request ∈ after.requests, drawnIn log request.1 = [request.2] := by
    rw [requests]
    exact follows.recalls.requested
  rw [← robots] at sound faithful
  refine follows.assemble step ?_ ?_ ⟨kitchen, requested⟩ sound faithful plates
  · intro dish notHeld
    rw [kept dish (notHeld id)]
  · intro dish notHeld _
    exact kept dish (notHeld id)

theorem step_followsRecipes (follows : FollowsRecipes config log p)
    (once : EachCommitsOnce p event) (step : Step config p event after outputs) :
    FollowsRecipes config (addTo log outputs) after := by
  have notAccepted : ∀ {sent : List RobotAgent.Output} {task : Task} {position : Position},
      amount RobotAgent.Output.takenIn sent = 0 → sent = [.taskReply task position true] →
        Done config.recipeParser log task := by
    rintro sent task position nothing rfl
    simp [RobotAgent.Output.takenIn] at nothing
  have same : ∀ plateId ∈ p.conveyor.occupiedPlates, plateId ∈ p.conveyor.occupiedPlates ∧
      content (p.conveyor.plates plateId) = content (p.conveyor.plates plateId) :=
    fun plateId member => ⟨member, rfl⟩
  have recalled := follows.recalls
  have taken := step
  cases step with
  | robot id own robot sent permitted called =>
      rw [addTo_wrap]
      exact follows.robot_called taken (once id own rfl) called
        (fun _ _ => notAccepted (ownRobot_plain permitted called).2) rfl recalled.kitchen rfl
        (fun plateId member => .inl (same plateId member))
  | conveyor own conveyor told permitted called =>
      rw [addTo_conveyor]
      exact follows.assemble taken (fun _ _ => rfl) (fun _ _ _ => rfl)
        ⟨recalled.kitchen, recalled.requested⟩ follows.sound follows.robots
        (fun plateId member => .inl (follows.plates_kept (ownConveyor_reports permitted) called
          (ownConveyor_plain permitted called).2 plateId member))
  | kitchen own kitchen told permitted called =>
      rw [addTo_kitchen]
      refine follows.kitchen_called taken ?_ called rfl (fun _ => .inl) same
      constructor
      · cases own <;> first | contradiction | exact .inl rfl
      · rintro answer rfl
        contradiction
  | placed kitchen received called =>
      rw [addTo_kitchen]
      exact follows.kitchen_called taken ⟨.inr rfl, by simp⟩ called rfl (fun _ => .inl) same
  | requested order recipeId kitchen sent choosing called =>
      rw [addTo_kitchen]
      refine follows.kitchen_called taken ⟨.inl rfl, by simp⟩ called rfl ?_ same
      intro request member
      rcases List.mem_append.mp member with before | now
      · exact .inl before
      · right
        rw [List.mem_singleton.mp now, drawnIn, drawOn_eq called]
        · exact recalled.kitchen.choosing order recipeId choosing
        · exact follows.not_waiting (KitchenAgent.mem_drawnOrders_choosing choosing)
  | answered answer kitchen received member called =>
      rw [addTo_kitchen]
      refine follows.kitchen_called taken ⟨.inl rfl, ?_⟩ called rfl ?_ same
      · rintro other ⟨⟩
        exact member
      · intro request kept
        exact .inl (List.mem_of_mem_erase kept)
  | notified id call robot sent conveyor received asked notification called informed =>
      have notCommit : RobotAgent.CommitsOnce (p.robots id) call := by
        rcases notification with rfl | ⟨rfl, _⟩ <;> exact fun commit => by contradiction
      have nothing : amount ConveyorAgent.Output.takenIn received = 0 := by
        cases (ConveyorAgent.step_cases informed).2
        rfl
      have reports : ConveyorAgent.ReportsAddress p.conveyor
          (.receiveFinishedOrderNotification (config.endpoint id) (p.robots id).position) :=
        trivial
      rw [addTo_append, addTo_conveyor, addTo_wrap]
      exact follows.robot_called taken notCommit called
        (fun _ _ => notAccepted (notification_plain notification called).2) rfl
        recalled.kitchen rfl
        (fun plateId member => .inl (follows.plates_kept reports informed nothing plateId member))
  | handedOver id position robot dish reply conveyor told asks called retrieved =>
      have notCommit : RobotAgent.CommitsOnce (p.robots id) .handoverFinishedOrder := by
        intro commit
        contradiction
      have quiet : log.record [.handoverReply dish reply] = log :=
        RobotAgent.record_quiet (by simp [RobotAgent.Output.performed?])
      have reports : ConveyorAgent.ReportsAddress p.conveyor
          (.retrieve position (some (dish, reply))) := trivial
      rw [addTo_append, addTo_conveyor, addTo_wrap]
      refine follows.robot_called taken notCommit called (by simp) rfl recalled.kitchen rfl ?_
      intro plateId member
      have carries := ConveyorAgent.step_carries follows.belt reports
        (ConveyorAgent.step_cases retrieved).2
      rcases carries.content_from member with before | ⟨_, _, given, recipe, here⟩
      · exact .inl before
      · right
        have worked := (RobotAgent.step_sound (follows.sound id) notCommit called).2
        rcases handedOver_conveyor retrieved with rfl | rfl
        · cases given
          have done := RobotAgent.handedOver_done (follows.robots id)
            (follows.sound id).readable recipe worked
          rw [here, quiet]
          exact ⟨done.1, done.2⟩
        · contradiction
  | taskDelivered id plateId robot task position result conveyor told deliverable called informed =>
      obtain ⟨rfl, reported, addressed⟩ := receiveTask_reply called
      obtain ⟨left, loop, member, instructed, _⟩ :=
        taskDelivered_conveyor deliverable called informed
      have occupied : plateId ∈ p.conveyor.occupiedPlates := by
        apply follows.belt.left
        rw [loop]
        exact member
      have reports : ConveyorAgent.ReportsAddress p.conveyor (.deliver plateId none
          ⟨some (p.conveyor.plates plateId).position, some true, some (position, result)⟩) := by
        intro reply same accepted
        cases same
        exact reported.trans (addressed accepted).symm
      have nothing : amount ConveyorAgent.Output.takenIn told = 0 := by rw [instructed]; rfl
      rw [addTo_append, addTo_conveyor, addTo_wrap]
      refine follows.robot_called taken (fun commit => by contradiction) called ?_ rfl
        recalled.kitchen rfl
        (fun plateId member => .inl (follows.plates_kept reports informed nothing plateId member))
      intro task position accepted
      cases accepted
      exact follows.delivered occupied
  | orderDelivered plateId kitchen received conveyor delivered deliverable called informed =>
      have completed := orderDelivered_conveyor deliverable informed
      have nothing : amount ConveyorAgent.Output.takenIn delivered = 0 := by
        rw [completed]
        rfl
      rw [addTo_append, addTo_conveyor, addTo_kitchen]
      refine follows.kitchen_called taken ⟨.inl rfl, by simp⟩ called rfl (fun _ => .inl) ?_
      exact follows.plates_kept (by simp [ConveyorAgent.ReportsAddress]) informed nothing
  | instructed id answer robot task position result kitchen sent instructing called informed =>
      have quiet : ∀ log : Log, drawOn log sent = log := by
        intro log
        funext dish
        rw [(instruct_called instructing informed).2]
        simp [drawOn, draw, drawnIn, List.filterMap_cons, KitchenAgent.Output.drawnFor?]
      have kitchens := (recalled.called follows.kitchen_distinct follows.next_undrawn
        ⟨.inl rfl, by simp⟩ informed).1
      rw [quiet] at kitchens
      rw [addTo_append, addTo_kitchen, addTo_wrap, quiet]
      refine follows.robot_called taken (fun commit => by contradiction) called ?_ rfl
        kitchens rfl (fun plateId member => .inl (same plateId member))
      intro task position accepted
      cases accepted
      exact follows.ordered instructing called

theorem reaches_followsRecipes {history : History (Event RobotId) (Output RobotId)}
    (reached : (machine config).Reaches EachCommitsOnce history p) :
    FollowsRecipes config (logOf history) p := by
  induction reached with
  | start initial => exact initial_followsRecipes initial
  | step _ permitted taken ih =>
      rw [logOf_append]
      exact step_followsRecipes ih permitted (step_cases taken)

end Invariant

section Handed

variable [DecidableEq RobotId]

omit [DecidableEq RobotId] in
theorem mem_wrap {id other : RobotId} {output : RobotAgent.Output}
    {sent : List RobotAgent.Output} (member : .robot other output ∈ wrap id sent) :
    other = id ∧ output ∈ sent := by
  obtain ⟨_, inside, same⟩ := List.mem_map.mp member
  cases same
  exact ⟨rfl, inside⟩

/-- A dish leaves a robot only when the conveyor asks for it. -/
theorem Step.handover_called (step : Step config p event after outputs) {id : RobotId}
    {dish : DishId} {reply : RobotAgent.HandoverReply} (recipe : reply.recipeId ≠ 0)
    (member : .robot id (.handoverReply dish reply) ∈ outputs) :
    ∃ robot, RobotAgent.step (config.robot id) (p.robots id) .handoverFinishedOrder =
      some (robot, [.handoverReply dish reply]) := by
  have given : ∀ {sent : List RobotAgent.Output},
      amount RobotAgent.Output.givenAway sent = 0 → .handoverReply dish reply ∉ sent := by
    intro sent nothing inside
    have worth := le_amount RobotAgent.Output.givenAway inside
    rw [nothing, RobotAgent.Output.givenAway, if_neg recipe] at worth
    simp at worth
  cases step with
  | robot other own robot sent permitted called =>
      exact absurd (mem_wrap member).2 (given (ownRobot_plain permitted called).1)
  | conveyor | kitchen | placed | requested | answered | orderDelivered =>
      simp at member
  | notified other call robot sent conveyor received asked notification called taken =>
      rcases List.mem_append.mp member with inside | other
      · exact absurd (mem_wrap inside).2 (given (notification_plain notification called).1)
      · simp at other
  | handedOver other position robot dish reply conveyor told asks called retrieved =>
      rcases List.mem_append.mp member with inside | other
      · obtain ⟨rfl, inside⟩ := mem_wrap inside
        cases List.mem_singleton.mp inside
        exact ⟨robot, called⟩
      · simp at other
  | taskDelivered | instructed =>
      rcases List.mem_append.mp member with inside | other
      · cases List.mem_singleton.mp (mem_wrap inside).2
      · simp at other

theorem Step.order_delivered (step : Step config p event after outputs) {dish : DishId}
    {recipeId : RecipeId}
    (member : .conveyor (.completedOrder dish recipeId true) ∈ outputs) :
    ∃ left plateId, p.conveyor.worker = .deliveringFinishedOrders left ∧ plateId ∈ left ∧
      (p.conveyor.plates plateId).isDishFinished = true ∧
      (p.conveyor.plates plateId).dish = dish ∧
      (p.conveyor.plates plateId).placedRecipeId = recipeId := by
  have nowhere : ∀ {id : RobotId} {sent : List RobotAgent.Output},
      .conveyor (.completedOrder dish recipeId true) ∉ wrap id sent := by
    intro id sent inside
    simp [wrap] at inside
  cases step with
  | robot => exact absurd member nowhere
  | kitchen | placed | requested | answered => simp at member
  | conveyor own conveyor told permitted taken =>
      have inside : .completedOrder dish recipeId true ∈ told := by simpa using member
      have worth := le_amount ConveyorAgent.Output.givenAway inside
      rw [(ownConveyor_plain permitted taken).1] at worth
      simp [ConveyorAgent.Output.givenAway] at worth
  | notified id call robot sent conveyor received asked notification called taken =>
      rcases List.mem_append.mp member with other | inside
      · exact absurd other nowhere
      · cases (ConveyorAgent.step_cases taken).2
        simp at inside
  | handedOver id position robot dish reply conveyor told asks called retrieved =>
      rcases List.mem_append.mp member with other | inside
      · exact absurd other nowhere
      · rcases handedOver_conveyor retrieved with rfl | rfl <;> simp at inside
  | taskDelivered id plateId robot task position result conveyor told deliverable called taken =>
      obtain ⟨rfl, _⟩ := receiveTask_reply called
      obtain ⟨_, _, _, instructed, _⟩ := taskDelivered_conveyor deliverable called taken
      rcases List.mem_append.mp member with other | inside
      · exact absurd other nowhere
      · rw [instructed] at inside
        simp at inside
  | instructed =>
      rcases List.mem_append.mp member with other | inside
      · exact absurd other nowhere
      · simp at inside
  | orderDelivered plateId kitchen received conveyor delivered deliverable called taken =>
      obtain ⟨_, left, loop, waits, _⟩ := step_deliver taken
      rw [orderDelivered_conveyor deliverable taken] at member
      rcases List.mem_append.mp member with inside | other
      · cases List.mem_singleton.mp inside
        exact ⟨left, plateId, loop, waits, deliverable.1, rfl, rfl⟩
      · simp at other

end Handed

section Theorem

variable [DecidableEq RobotId] [Fintype RobotId]

/-- The task a robot's dish in process amounts to. -/
def inProcess (r : Robot) : Task where
  recipeId := r.attributes.recipeId
  overallProcessedSteps := r.attributes.overallProcessedSteps
  dish := r.dishInProcess

/-- The log of every dish is the one recipe drawn for it and the steps that the
agent that has it counts, each done once and in order by a capable robot, and
every flag tells whether all of them are done. -/
theorem recipe_followed (config : Config RobotId)
    (history : History (Event RobotId) (Output RobotId)) (p : State RobotId)
    (reached : (machine config).Reaches EachCommitsOnce history p) :
    let parser := config.recipeParser
    let log := logOf history
    (∀ id, ∀ task ∈ RobotAgent.postedTasks (p.robots id),
      Done parser log task ∧ Unfinished parser task) ∧
    (∀ id, ∀ order ∈ (p.robots id).orderQueue,
      Done parser log order.toTask ∧ Unfinished parser order.toTask) ∧
    (∀ id, (p.robots id).attributes.recipeId ≠ 0 →
      Done parser log (inProcess (p.robots id)) ∧
        ((p.robots id).pendingPickup = true →
          Tells parser (p.robots id).isDishFinished (inProcess (p.robots id)))) ∧
    (∀ plateId ∈ p.conveyor.occupiedPlates, Done parser log (taskOn p plateId) ∧
      Tells parser (p.conveyor.plates plateId).isDishFinished (taskOn p plateId)) ∧
    ∀ event after outputs, step config p event = some (after, outputs) →
      (∀ id dish reply, .robot id (.handoverReply dish reply) ∈ outputs → reply.recipeId ≠ 0 →
        Done parser log ⟨reply.recipeId, reply.processedSteps, dish⟩ ∧
          Tells parser reply.isDishFinished ⟨reply.recipeId, reply.processedSteps, dish⟩) ∧
      ∀ dish recipeId, .conveyor (.completedOrder dish recipeId true) ∈ outputs →
        ∃ recipe, parser.getRecipe recipeId = some recipe ∧
          log dish = ⟨[recipeId], recipe.actionQueue.map fun action => (action, true)⟩ := by
  have follows := reaches_followsRecipes reached
  have onPlate : ∀ plateId ∈ p.conveyor.occupiedPlates,
      Done config.recipeParser (logOf history) (taskOn p plateId) ∧
        Tells config.recipeParser (p.conveyor.plates plateId).isDishFinished
          (taskOn p plateId) := by
    intro plateId occupied
    have plate := follows.plates plateId occupied
    exact ⟨plate.done, plate.done.tells plate.finished⟩
  refine ⟨?_, ?_, ?_, onPlate, ?_⟩
  · intro id task member
    exact ⟨(follows.robots id).tasks task member, (follows.sound id).readable.tasks task member⟩
  · intro id order member
    obtain ⟨recipe, known, remaining, _⟩ := (follows.sound id).readable.orders order member
    exact ⟨(follows.robots id).orders order member, recipe, known, remaining⟩
  · intro id cooking
    have done := (follows.robots id).inProcess cooking
    refine ⟨done, fun pending => done.tells ?_⟩
    intro recipe known
    obtain ⟨_, found, enough, queue⟩ := (follows.sound id).readable.inProcess cooking
    cases known.symm.trans found
    have flag := ((follows.sound id).handwork.done (.inr pending)).1
    have queue : (p.robots id).actionQueueInProcess =
        recipe.actionQueue.drop (p.robots id).attributes.overallProcessedSteps := queue
    rw [flag, queue, List.drop_eq_nil_iff]
    exact ⟨fun all => Nat.le_antisymm enough all, fun all => all.ge⟩
  · intro event after outputs taken
    have step := step_cases taken
    constructor
    · intro id dish reply member recipe
      obtain ⟨robot, called⟩ := step.handover_called recipe member
      have worked := (RobotAgent.step_sound (follows.sound id)
        (fun commit => by contradiction) called).2
      have done := RobotAgent.handedOver_done (follows.robots id) (follows.sound id).readable
        recipe worked
      exact ⟨done.1, done.1.tells done.2⟩
    · intro dish recipeId member
      obtain ⟨left, plateId, loop, waits, finished, rfl, rfl⟩ := step.order_delivered member
      have occupied : plateId ∈ p.conveyor.occupiedPlates := by
        apply follows.belt.left
        rw [loop]
        exact waits
      obtain ⟨done, tells⟩ := onPlate plateId occupied
      exact done.whole (tells.1 finished)

end Theorem

section Example

def preparesDessert : List (Event Unit) :=
  [.placeOrder, .kitchen (.runHandler drawsDessert), .requestNextRobot,
   .answer ⟨3, RobotAgent.deployment.serverEndpoint, 3, 0⟩, .kitchen (.runHandler drawsDessert),
   .instruct ()] ++ List.map (.robot ()) ([.runHandler "whip", .cookNextOrder] ++
     (List.replicate 13 [.timerExpires, .runHandler "whip"]).flatten) ++ [.notify ()]

theorem dessert_waits_unfinished :
    ∃ history p, (machine mixingPlant).Reaches EachCommitsOnce history p ∧
      (p.robots ()).pendingPickup = true ∧ inProcess (p.robots ()) = ⟨3, 4, 0⟩ ∧
      Done mixingPlant.recipeParser (logOf history) ⟨3, 4, 0⟩ ∧
      Unfinished mixingPlant.recipeParser ⟨3, 4, 0⟩ := by
  obtain ⟨history, p, reached, shown⟩ := Machine.exists_reaches_of_replay (machine mixingPlant)
    EachCommitsOnce idlePlant_starts preparesDessert
    (fun _ p => decide ((p.robots ()).pendingPickup = true ∧
      inProcess (p.robots ()) = ⟨3, 4, 0⟩ ∧ (p.robots ()).attributes.recipeId ≠ 0 ∧
      (p.robots ()).isDishFinished = false)) (by decide +kernel)
  obtain ⟨pending, task, cooking, unfinished⟩ := of_decide_eq_true shown
  obtain ⟨done, tells⟩ := (recipe_followed mixingPlant history p reached).2.2.1 () cooking
  rw [task] at done tells
  exact ⟨history, p, reached, pending, task, done, (tells pending).2 unfinished⟩

end Example

end CpsKitchen.Plant
