import CpsKitchen.RobotAgent.OneDriver

/-!
# The work of a robot

An abstract robot: the tasks it accepted, its orders, the order in process and
its load, without the timer, the flags and the threads that make it go on.
Along runs that commit once every step of the robot is a step of its work, and
what happens to a dish or to the load is shown there.
-/

namespace CpsKitchen.RobotAgent

open CpsKitchen.Reactive CpsKitchen.Recipes

set_option autoImplicit false

variable {config : Config} {r after : Robot} {event : Event} {outputs : List Output}

structure Work where
  /-- Accepted tasks whose handler is still posted. -/
  tasks : List Task
  orderQueue : List Order
  preparingDish : Bool
  actionQueueInProcess : List RobotAction
  dishInProcess : DishId
  recipeId : RecipeId
  overallProcessedSteps : Nat
  /-- Ticks left of the action that is being performed. -/
  timeLeft : Option Nat
  overallTime : Nat
  currentTool : RobotTool
  lastEquippedTool : RobotTool
  capabilities : Finset String

namespace Work

/-- The work goes on with the next action, if no other tool is needed first. -/
def next (w : Work) : Work :=
  { w with
    timeLeft :=
      match w.actionQueueInProcess with
      | action :: _ =>
          if action.name ∈ w.capabilities ∧ action.requiredTool = w.currentTool then
            some action.duration
          else none
      | [] => none }

def queueOrder (w : Work) (task : Task) (recipe : Recipe) : Work :=
  let actionQueue := recipe.actionQueue.drop task.overallProcessedSteps
  let load := computeLoad w.capabilities
    { overallTime := w.overallTime
      lastEquippedTool := w.lastEquippedTool
      processableSteps := 0 } actionQueue
  { w with
    overallTime := load.overallTime
    lastEquippedTool := load.lastEquippedTool
    orderQueue := w.orderQueue ++
      [{ toTask := task
         overallProcessingSteps := recipe.actionQueue.length
         processableSteps := load.processableSteps
         actionQueue := actionQueue }] }

def startOrder (w : Work) (nextOrder : Order) (rest : List Order) : Work :=
  { w with
    preparingDish := true
    orderQueue := rest
    actionQueueInProcess := nextOrder.actionQueue
    dishInProcess := nextOrder.dish
    recipeId := nextOrder.recipeId
    overallProcessedSteps := nextOrder.overallProcessedSteps }

def equip (w : Work) (tool : RobotTool) : Work :=
  { w with
    currentTool := tool
    overallTime := subWord 32 w.overallTime retoolingTime }

def countDown (w : Work) (left : Nat) : Work :=
  { w with
    timeLeft := some (subWord 64 left timeUnitUpdateRate)
    overallTime := subWord 32 w.overallTime timeUnitUpdateRate }

def countStep (w : Work) (rest : List RobotAction) : Work :=
  { w with
    actionQueueInProcess := rest
    overallProcessedSteps := w.overallProcessedSteps + 1 }

def releaseDish (w : Work) : Work := { w with recipeId := 0, overallProcessedSteps := 0 }

def reequip (w : Work) (capabilities : Finset String) (tool : RobotTool) : Work :=
  { w with
    orderQueue := []
    capabilities := capabilities
    currentTool := tool
    lastEquippedTool := tool
    overallTime := 0 }

def requeue (config : Config) (w : Work) (order : Order) : Work :=
  match config.recipeParser.getRecipe order.recipeId with
  | none => w
  | some recipe => w.queueOrder order.toTask recipe

end Work

def Output.accepted? : Output → Option Task
  | .taskReply task _ true => some task
  | _ => none

def Output.handedOver? : Output → Option (RecipeId × DishId)
  | .handoverReply dish reply => if reply.recipeId = 0 then none else some (reply.recipeId, dish)
  | _ => none

def Output.performed? : Output → Option (DishId × RobotAction)
  | .actionPerformed dish action _ => some (dish, action)
  | _ => none

def Plain (outputs : List Output) : Prop :=
  ∀ output ∈ outputs, output.accepted? = none ∧ output.handedOver? = none ∧
    output.performed? = none

/-- The steps of the work of a robot that is in the given state. -/
inductive Work.Step (config : Config) (state : RobotState) (w : Work) :
    Work → List Output → Prop where
  | same {outputs : List Output} (plain : Plain outputs) : Step config state w w outputs
  | accepted (available : state = .available) (task : Task) (position : Position)
      (recipe : Recipe) (action : RobotAction) (rest : List RobotAction)
      (known : config.recipeParser.getRecipe task.recipeId = some recipe)
      (remaining : recipe.actionQueue.drop task.overallProcessedSteps = action :: rest)
      (capable : action.name ∈ w.capabilities) :
      Step config state w { w with tasks := w.tasks ++ [task] } [.taskReply task position true]
  | queued (task : Task) (tasks : List Task) (recipe : Recipe) (front : w.tasks = task :: tasks)
      (known : config.recipeParser.getRecipe task.recipeId = some recipe) :
      Step config state w ({ w with tasks := tasks }.queueOrder task recipe) []
  | rested (available : state = .available) (empty : w.orderQueue = []) (resting : w.recipeId = 0) :
      Step config state w { w with preparingDish := false } []
  | started (available : state = .available) (nextOrder : Order) (rest : List Order)
      (front : w.orderQueue = nextOrder :: rest) (resting : w.recipeId = 0) :
      Step config state w (w.startOrder nextOrder rest).next []
  | retooled (action : RobotAction) (rest : List RobotAction) (cooking : w.recipeId ≠ 0)
      (front : w.actionQueueInProcess = action :: rest) (capable : action.name ∈ w.capabilities)
      (otherTool : action.requiredTool ≠ w.currentTool) (time : w.timeLeft = none) :
      Step config state w (w.equip action.requiredTool).next []
  | ticked (action : RobotAction) (rest : List RobotAction) (cooking : w.recipeId ≠ 0)
      (front : w.actionQueueInProcess = action :: rest) (capable : action.name ∈ w.capabilities)
      (equipped : action.requiredTool = w.currentTool) (left : Nat)
      (time : w.timeLeft = some left) (goesOn : subWord 64 left timeUnitUpdateRate ≠ 0) :
      Step config state w (w.countDown left) []
  | performed (action : RobotAction) (rest : List RobotAction) (cooking : w.recipeId ≠ 0)
      (front : w.actionQueueInProcess = action :: rest) (capable : action.name ∈ w.capabilities)
      (equipped : action.requiredTool = w.currentTool) (left : Nat)
      (time : w.timeLeft = some left) (elapsed : subWord 64 left timeUnitUpdateRate = 0) :
      Step config state w ((w.countDown left).countStep rest).next
        [.actionPerformed w.dishInProcess action true]
  | handedOver (reply : HandoverReply) (cooking : w.recipeId ≠ 0) (time : w.timeLeft = none)
      (recipeId : reply.recipeId = w.recipeId)
      (steps : reply.processedSteps = w.overallProcessedSteps)
      (finished : reply.isDishFinished = true ↔ w.actionQueueInProcess = [])
      (stuck : ∀ action rest, w.actionQueueInProcess = action :: rest →
        action.name ∉ w.capabilities) :
      Step config state w w.releaseDish [.handoverReply w.dishInProcess reply]
  | reconfigured (reconfiguring : state = .reconfiguring) (profile capability : String)
      (capabilities : Finset String) (action : Action)
      (requeued forgotten : List Order) (resting : w.recipeId = 0)
      (parsed : config.capabilityParser.getCapabilities profile = some capabilities)
      (chosen : capability ∈ capabilities)
      (registered : getRobotAction capability = some action)
      (orders : w.orderQueue = requeued ++ forgotten)
      (whole : w.preparingDish = true ∨ w.orderQueue.length ≤ 1 → forgotten = []) :
      Step config state w
        (requeued.foldl (Work.requeue config) (w.reequip capabilities action.requiredTool)) []

/-- Tasks and orders are about recipes that exist, with steps still to do,
and every rest of an action queue is the one of the recipe. -/
structure Readable (config : Config) (w : Work) : Prop where
  tasks : ∀ task ∈ w.tasks, ∃ recipe,
    config.recipeParser.getRecipe task.recipeId = some recipe ∧
    task.overallProcessedSteps < recipe.actionQueue.length
  orders : ∀ order ∈ w.orderQueue, ∃ recipe,
    config.recipeParser.getRecipe order.recipeId = some recipe ∧
    order.overallProcessedSteps < recipe.actionQueue.length ∧
    order.actionQueue = recipe.actionQueue.drop order.overallProcessedSteps
  inProcess : w.recipeId ≠ 0 → ∃ recipe,
    config.recipeParser.getRecipe w.recipeId = some recipe ∧
    w.overallProcessedSteps ≤ recipe.actionQueue.length ∧
    w.actionQueueInProcess = recipe.actionQueue.drop w.overallProcessedSteps

theorem Readable.queueOrder {w : Work} (readable : Readable config w) {task : Task}
    {recipe : Recipe} (known : config.recipeParser.getRecipe task.recipeId = some recipe)
    (remaining : task.overallProcessedSteps < recipe.actionQueue.length) :
    Readable config (w.queueOrder task recipe) where
  tasks := readable.tasks
  orders := by
    intro order member
    rcases List.mem_append.mp member with before | new
    · exact readable.orders order before
    · rw [List.mem_singleton.mp new]
      exact ⟨recipe, known, remaining, rfl⟩
  inProcess := readable.inProcess

theorem Readable.requeue {orders : List Order} {w : Work} (readable : Readable config w)
    (known : ∀ order ∈ orders, ∃ recipe,
      config.recipeParser.getRecipe order.recipeId = some recipe ∧
      order.overallProcessedSteps < recipe.actionQueue.length) :
    Readable config (orders.foldl (Work.requeue config) w) := by
  induction orders generalizing w with
  | nil => exact readable
  | cons order orders ih =>
      obtain ⟨recipe, found, remaining⟩ := known order List.mem_cons_self
      rw [List.foldl_cons, Work.requeue, found]
      exact ih (readable.queueOrder found remaining)
        (fun later member => known later (List.mem_cons_of_mem _ member))

theorem Work.Step.readable {state : RobotState} {w w' : Work} (readable : Readable config w)
    (step : Work.Step config state w w' outputs) : Readable config w' := by
  cases step with
  | same => exact readable
  | accepted available task position recipe action rest known remaining =>
      refine ⟨?_, readable.orders, readable.inProcess⟩
      intro accepted member
      rcases List.mem_append.mp member with before | new
      · exact readable.tasks accepted before
      · rw [List.mem_singleton.mp new]
        refine ⟨recipe, known, ?_⟩
        by_contra short
        rw [List.drop_eq_nil_of_le (Nat.le_of_not_lt short)] at remaining
        contradiction
  | queued task tasks recipe front known =>
      obtain ⟨same, found, remaining⟩ := readable.tasks task (by simp [front])
      rw [known] at found
      cases found
      have popped : Readable config { w with tasks := tasks } :=
        ⟨fun later member => readable.tasks later (by simp [front, member]), readable.orders,
          readable.inProcess⟩
      exact popped.queueOrder known remaining
  | rested => exact ⟨readable.tasks, readable.orders, readable.inProcess⟩
  | started available nextOrder rest front =>
      obtain ⟨recipe, known, remaining, queue⟩ := readable.orders nextOrder (by simp [front])
      have later : ∀ order ∈ rest, order ∈ w.orderQueue := by
        rw [front]
        exact fun order member => List.mem_cons_of_mem _ member
      exact
        ⟨readable.tasks, fun order member => readable.orders order (later order member),
          fun _ => ⟨recipe, known, remaining.le, queue⟩⟩
  | retooled | ticked => exact ⟨readable.tasks, readable.orders, readable.inProcess⟩
  | performed action rest cooking front =>
      obtain ⟨recipe, known, _, queue⟩ := readable.inProcess cooking
      rw [front] at queue
      have remaining : w.overallProcessedSteps < recipe.actionQueue.length := by
        by_contra short
        rw [List.drop_eq_nil_of_le (Nat.le_of_not_lt short)] at queue
        contradiction
      refine ⟨readable.tasks, readable.orders, fun _ => ⟨recipe, known, remaining, ?_⟩⟩
      rw [List.drop_eq_getElem_cons remaining] at queue
      exact (List.cons.inj queue).2
  | handedOver => exact ⟨readable.tasks, readable.orders, fun cooking => absurd rfl cooking⟩
  | reconfigured _ _ _ _ _ requeued forgotten resting _ _ _ orders =>
      have emptied : Readable config (w.reequip ‹_› (Action.requiredTool ‹_›)) :=
        ⟨readable.tasks, by simp [Work.reequip], fun cooking => absurd resting cooking⟩
      refine emptied.requeue ?_
      intro order member
      obtain ⟨recipe, known, remaining, _⟩ := readable.orders order (by simp [orders, member])
      exact ⟨recipe, known, remaining⟩

end CpsKitchen.RobotAgent
