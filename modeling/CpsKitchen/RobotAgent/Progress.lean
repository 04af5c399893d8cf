import CpsKitchen.RobotAgent.Simulation
import CpsKitchen.RobotAgent.Dishes

/-!
# What was done to a dish

The log of a dish lists the recipes drawn for it and the actions performed on
it. A task, an order or the dish in process is done as far as it says when the
log of its dish is its recipe and that many first actions of it. The work of a
robot keeps it so.
-/

namespace CpsKitchen.RobotAgent

open CpsKitchen.Reactive CpsKitchen.Recipes

set_option autoImplicit false

/-- What happened to a dish. Beside an action stands whether the robot was
capable of it. -/
structure DishLog where
  drawn : List RecipeId
  performed : List (RobotAction × Bool)
  deriving DecidableEq

abbrev Log := DishId → DishLog

def Output.performedOn? (dish : DishId) : Output → Option (RobotAction × Bool)
  | .actionPerformed performed action capable =>
      if performed = dish then some (action, capable) else none
  | _ => none

def Log.record (log : Log) (outputs : List Output) : Log :=
  fun dish =>
    { log dish with
      performed := (log dish).performed ++ outputs.filterMap (Output.performedOn? dish) }

/-- The dish is done as far as the task says, by the only recipe drawn for it,
each action once and in order, by robots that were capable of it. -/
def Done (parser : RecipeParser) (log : Log) (task : Task) : Prop :=
  ∃ recipe, parser.getRecipe task.recipeId = some recipe ∧
    task.overallProcessedSteps ≤ recipe.actionQueue.length ∧
    log task.dish =
      ⟨[task.recipeId],
        (recipe.actionQueue.take task.overallProcessedSteps).map fun action => (action, true)⟩

def Unfinished (parser : RecipeParser) (task : Task) : Prop :=
  ∃ recipe, parser.getRecipe task.recipeId = some recipe ∧
    task.overallProcessedSteps < recipe.actionQueue.length

def Finished (parser : RecipeParser) (task : Task) : Prop :=
  ∃ recipe, parser.getRecipe task.recipeId = some recipe ∧
    task.overallProcessedSteps = recipe.actionQueue.length

def Tells (parser : RecipeParser) (isDishFinished : Bool) (task : Task) : Prop :=
  (isDishFinished = true → Finished parser task) ∧
    (isDishFinished = false → Unfinished parser task)

def Work.inProcess (w : Work) : Task where
  recipeId := w.recipeId
  overallProcessedSteps := w.overallProcessedSteps
  dish := w.dishInProcess

/-- Everything a robot knows of its dishes is true. -/
structure Faithful (parser : RecipeParser) (log : Log) (w : Work) : Prop where
  tasks : ∀ task ∈ w.tasks, Done parser log task
  orders : ∀ order ∈ w.orderQueue, Done parser log order.toTask
  inProcess : w.recipeId ≠ 0 → Done parser log w.inProcess

variable {config : Config} {parser : RecipeParser} {log other : Log} {outputs : List Output}

theorem Done.congr {task : Task} (done : Done parser log task)
    (same : other task.dish = log task.dish) : Done parser other task := by
  obtain ⟨recipe, known, enough, performed⟩ := done
  exact ⟨recipe, known, enough, same.trans performed⟩

theorem Done.tells {task : Task} (done : Done parser log task) {isDishFinished : Bool}
    (flag : ∀ recipe, parser.getRecipe task.recipeId = some recipe →
      (isDishFinished = true ↔ task.overallProcessedSteps = recipe.actionQueue.length)) :
    Tells parser isDishFinished task := by
  obtain ⟨recipe, known, enough, _⟩ := done
  constructor
  · intro finished
    exact ⟨recipe, known, (flag recipe known).mp finished⟩
  · intro unfinished
    refine ⟨recipe, known, enough.lt_of_ne ?_⟩
    intro all
    rw [(flag recipe known).mpr all] at unfinished
    contradiction

theorem Done.whole {task : Task} (done : Done parser log task) (finished : Finished parser task) :
    ∃ recipe, parser.getRecipe task.recipeId = some recipe ∧
      log task.dish = ⟨[task.recipeId], recipe.actionQueue.map fun action => (action, true)⟩ := by
  obtain ⟨recipe, known, _, same⟩ := done
  obtain ⟨_, found, all⟩ := finished
  cases known.symm.trans found
  rw [all, List.take_length] at same
  exact ⟨recipe, known, same⟩

theorem record_quiet (quiet : ∀ output ∈ outputs, output.performed? = none) :
    log.record outputs = log := by
  funext dish
  have nothing : outputs.filterMap (Output.performedOn? dish) = [] := by
    apply List.filterMap_eq_nil_iff.mpr
    intro output member
    have silent := quiet output member
    cases output with
    | actionPerformed => contradiction
    | taskReply | handoverReply | result | finishedOrderNotification => rfl
  rw [Log.record, nothing, List.append_nil]

theorem record_performed (log : Log) (dish : DishId) (action : RobotAction) (capable : Bool) :
    (log.record [.actionPerformed dish action capable]) dish =
      { log dish with performed := (log dish).performed ++ [(action, capable)] } := by
  simp [Log.record, Output.performedOn?]

theorem record_other (log : Log) {dish performed : DishId} (different : dish ≠ performed)
    (action : RobotAction) (capable : Bool) :
    (log.record [.actionPerformed performed action capable]) dish = log dish := by
  simp [Log.record, Output.performedOn?, different.symm]

theorem Done.step {recipeId : RecipeId} {steps : Nat} {dish : DishId} {recipe : Recipe}
    {action : RobotAction} {rest : List RobotAction}
    (done : Done parser log ⟨recipeId, steps, dish⟩)
    (known : parser.getRecipe recipeId = some recipe)
    (next : recipe.actionQueue.drop steps = action :: rest) :
    Done parser (log.record [.actionPerformed dish action true]) ⟨recipeId, steps + 1, dish⟩ := by
  obtain ⟨_, found, _, performed⟩ := done
  cases known.symm.trans found
  have remaining : steps < recipe.actionQueue.length := by
    by_contra short
    rw [List.drop_eq_nil_of_le (Nat.le_of_not_lt short)] at next
    contradiction
  have now : recipe.actionQueue[steps] = action := by
    rw [List.drop_eq_getElem_cons remaining] at next
    exact (List.cons.inj next).1
  refine ⟨recipe, known, remaining, ?_⟩
  rw [record_performed, performed, List.take_succ_eq_append_getElem remaining, now,
    List.map_append, List.map_singleton]

theorem Faithful.congr {w : Work} (faithful : Faithful parser log w)
    (tasks : ∀ task ∈ w.tasks, other task.dish = log task.dish)
    (orders : ∀ order ∈ w.orderQueue, other order.dish = log order.dish)
    (inProcess : w.recipeId ≠ 0 → other w.dishInProcess = log w.dishInProcess) :
    Faithful parser other w where
  tasks := fun task member => (faithful.tasks task member).congr (tasks task member)
  orders := fun order member => (faithful.orders order member).congr (orders order member)
  inProcess := fun cooking => (faithful.inProcess cooking).congr (inProcess cooking)

theorem Faithful.requeue {orders : List Order} {w : Work} (faithful : Faithful parser log w)
    (done : ∀ order ∈ orders, Done parser log order.toTask) :
    Faithful parser log (orders.foldl (Work.requeue config) w) := by
  induction orders generalizing w with
  | nil => exact faithful
  | cons order orders ih =>
      rw [List.foldl_cons]
      refine ih ?_ (fun later member => done later (List.mem_cons_of_mem _ member))
      unfold Work.requeue
      split
      · exact faithful
      · refine ⟨faithful.tasks, ?_, faithful.inProcess⟩
        intro queued member
        rcases List.mem_append.mp member with before | new
        · exact faithful.orders queued before
        · rw [List.mem_singleton.mp new]
          exact done order List.mem_cons_self

/-- The dish in process is not among those that wait. -/
structure Alone (w : Work) : Prop where
  tasks : ∀ task ∈ w.tasks, w.recipeId ≠ 0 → task.dish ≠ w.dishInProcess
  orders : ∀ order ∈ w.orderQueue, w.recipeId ≠ 0 → order.dish ≠ w.dishInProcess

theorem Work.Step.faithful {state : RobotState} {w w' : Work}
    (faithful : Faithful config.recipeParser log w) (readable : Readable config w)
    (alone : Alone w) (step : Work.Step config state w w' outputs)
    (accepted : ∀ task position, outputs = [.taskReply task position true] →
      Done config.recipeParser log task) :
    Faithful config.recipeParser (log.record outputs) w' := by
  have silent : log.record [] = log := record_quiet (by simp)
  cases step with
  | same plain =>
      rw [record_quiet fun output member => (plain output member).2.2]
      exact faithful
  | accepted available task position =>
      rw [record_quiet (by simp [Output.performed?])]
      refine ⟨?_, faithful.orders, faithful.inProcess⟩
      intro posted member
      rcases List.mem_append.mp member with before | new
      · exact faithful.tasks posted before
      · rw [List.mem_singleton.mp new]
        exact accepted task position rfl
  | queued task tasks recipe front =>
      rw [silent]
      refine ⟨?_, ?_, faithful.inProcess⟩
      · intro later member
        exact faithful.tasks later (by rw [front]; exact List.mem_cons_of_mem _ member)
      · intro order member
        rcases List.mem_append.mp member with before | new
        · exact faithful.orders order before
        · rw [List.mem_singleton.mp new]
          exact faithful.tasks task (by rw [front]; exact List.mem_cons_self)
  | rested =>
      rw [silent]
      exact ⟨faithful.tasks, faithful.orders, faithful.inProcess⟩
  | started available nextOrder rest front =>
      rw [silent]
      refine ⟨faithful.tasks, ?_, ?_⟩
      · intro order member
        exact faithful.orders order (by rw [front]; exact List.mem_cons_of_mem _ member)
      · intro _
        exact faithful.orders nextOrder (by rw [front]; exact List.mem_cons_self)
  | retooled | ticked =>
      rw [silent]
      exact ⟨faithful.tasks, faithful.orders, faithful.inProcess⟩
  | performed action rest cooking front =>
      obtain ⟨recipe, known, _, queue⟩ := readable.inProcess cooking
      refine ⟨?_, ?_, ?_⟩
      · intro task member
        exact (faithful.tasks task member).congr
          (record_other log (alone.tasks task member cooking) action true)
      · intro order member
        exact (faithful.orders order member).congr
          (record_other log (alone.orders order member cooking) action true)
      · intro _
        exact (faithful.inProcess cooking).step known (queue.symm.trans front)
  | handedOver =>
      rw [record_quiet (by simp [Output.performed?])]
      exact ⟨faithful.tasks, faithful.orders, fun cooking => absurd rfl cooking⟩
  | reconfigured _ _ _ _ _ requeued forgotten resting _ _ _ orders =>
      rw [silent]
      have emptied : Faithful config.recipeParser log
          (w.reequip ‹_› (Action.requiredTool ‹_›)) :=
        ⟨faithful.tasks, by simp [Work.reequip], fun cooking => absurd resting cooking⟩
      refine emptied.requeue ?_
      intro order member
      exact faithful.orders order (by rw [orders]; exact List.mem_append_left _ member)

theorem Work.Step.record_eq {state : RobotState} {w w' : Work}
    (step : Work.Step config state w w' outputs) {dish : DishId}
    (elsewhere : w.recipeId ≠ 0 → dish ≠ w.dishInProcess) :
    (log.record outputs) dish = log dish := by
  have quiet : (∀ output ∈ outputs, output.performed? = none) →
      (log.record outputs) dish = log dish := by
    intro quiet
    rw [record_quiet quiet]
  cases step with
  | same plain => exact quiet fun output member => (plain output member).2.2
  | performed action rest cooking => exact record_other log (elsewhere cooking) action true
  | accepted | queued | rested | started | retooled | ticked | handedOver | reconfigured =>
      exact quiet (by simp [Output.performed?])

section Robots

variable {r after : Robot}

theorem mem_heldDishes_task {task : Task} (member : task ∈ (work r).tasks) :
    task.dish ∈ heldDishes r := by
  refine Multiset.mem_add.mpr (.inl (Multiset.mem_add.mpr (.inl ?_)))
  exact Multiset.mem_coe.mpr (List.mem_map_of_mem member)

theorem mem_heldDishes_order {order : Order} (member : order ∈ (work r).orderQueue) :
    order.dish ∈ heldDishes r := by
  refine Multiset.mem_add.mpr (.inl (Multiset.mem_add.mpr (.inr ?_)))
  refine Multiset.mem_coe.mpr (List.mem_map.mpr ⟨order, ?_, rfl⟩)
  exact List.mem_append_left _ member

theorem mem_dishInHand (cooking : (work r).recipeId ≠ 0) :
    (work r).dishInProcess ∈ dishInHand r := by
  have cooking : r.attributes.recipeId ≠ 0 := cooking
  rw [dishInHand, if_neg cooking]
  exact Multiset.mem_singleton_self _

theorem mem_heldDishes_inProcess (cooking : (work r).recipeId ≠ 0) :
    (work r).dishInProcess ∈ heldDishes r :=
  Multiset.mem_add.mpr (.inr (mem_dishInHand cooking))

theorem alone_of_nodup (distinct : (heldDishes r).Nodup) : Alone (work r) := by
  have apart : ∀ dish ∈ queuedDishes (postedTasks r) +
      orderedDishes (r.orderQueue ++ r.pendingOrders), (work r).recipeId ≠ 0 →
        dish ≠ (work r).dishInProcess := by
    rintro dish member cooking rfl
    have disjoint := (Multiset.nodup_add.mp distinct).2.2
    exact Multiset.disjoint_left.mp disjoint member (mem_dishInHand cooking)
  constructor
  · intro task member
    exact apart task.dish
      (Multiset.mem_add.mpr (.inl (Multiset.mem_coe.mpr (List.mem_map_of_mem member))))
  · intro order member
    refine apart order.dish (Multiset.mem_add.mpr (.inr (Multiset.mem_coe.mpr ?_)))
    exact List.mem_map.mpr ⟨order, List.mem_append_left _ member, rfl⟩

theorem Faithful.agree (faithful : Faithful parser log (work r))
    (agree : ∀ dish ∈ heldDishes r, other dish = log dish) : Faithful parser other (work r) :=
  faithful.congr (fun _ member => agree _ (mem_heldDishes_task member))
    (fun _ member => agree _ (mem_heldDishes_order member))
    (fun cooking => agree _ (mem_heldDishes_inProcess cooking))

/-- A dish that is handed over is done as far as the reply says, and finished
when all of its recipe is done. -/
theorem handedOver_done {state : RobotState} {w w' : Work}
    (faithful : Faithful config.recipeParser log w) (readable : Readable config w)
    {dish : DishId} {reply : HandoverReply} (recipe : reply.recipeId ≠ 0)
    (step : Work.Step config state w w' [.handoverReply dish reply]) :
    Done config.recipeParser log ⟨reply.recipeId, reply.processedSteps, dish⟩ ∧
      ∀ recipe, config.recipeParser.getRecipe reply.recipeId = some recipe →
        (reply.isDishFinished = true ↔ reply.processedSteps = recipe.actionQueue.length) := by
  cases step with
  | same plain =>
      have silent := (plain _ List.mem_cons_self).2.1
      rw [Output.handedOver?, if_neg recipe] at silent
      contradiction
  | handedOver _ cooking time recipeId steps finished =>
      rw [recipeId, steps]
      refine ⟨faithful.inProcess cooking, ?_⟩
      intro recipe known
      obtain ⟨_, found, enough, queue⟩ := readable.inProcess cooking
      cases known.symm.trans found
      rw [finished, queue, List.drop_eq_nil_iff]
      omega

end Robots

end CpsKitchen.RobotAgent
