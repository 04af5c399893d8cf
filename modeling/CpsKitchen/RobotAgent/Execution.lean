import CpsKitchen.RobotAgent.LoadAccounting
import CpsKitchen.RobotAgent.TaskOrder

/-!
# Plan and execution of an order

How many steps of an order the robot can do is counted once, when the order
comes into the queue or is put there again after a reconfiguration. The steps
themselves are done one timer after the other. The order in process keeps the
count it came with, and the steps done and the ones still to do add up to it.
-/

namespace CpsKitchen.RobotAgent

open CpsKitchen.Reactive CpsKitchen.Recipes

set_option autoImplicit false

variable {config : Config} {r after : Robot} {event : Event} {outputs : List Output}
  {accepted : List Task} {kept : Option Task}

theorem computeLoad_processableSteps (capabilities : Finset String)
    (actionQueue : List RobotAction) (load : Load) :
    (computeLoad capabilities load actionQueue).processableSteps =
      load.processableSteps + (processable capabilities actionQueue).length := by
  induction actionQueue generalizing load with
  | nil => rfl
  | cons action rest ih =>
      by_cases capable : action.name ∈ capabilities
      · rw [computeLoad, if_pos capable, ih]
        simp only [processable, List.takeWhile_cons, capable, decide_true, if_true, Load.add,
          List.length_cons]
        omega
      · simp [computeLoad, processable, capable]

def takenTask (r : Robot) (event : Event) (kept : Option Task) : Option Task :=
  match event, r.robotState, r.orderQueue with
  | .cookNextOrder, .available, nextOrder :: _ => some nextOrder.toTask
  | _, _, _ => kept

/-- The order was made of an accepted task, and the steps that count as
processable are those that the capabilities allow. -/
structure OrderPlanned (config : Config) (accepted : List Task) (capabilities : Finset String)
    (order : Order) : Prop where
  accepted : order.toTask ∈ accepted
  recipe : ∃ recipe, config.recipeParser.getRecipe order.recipeId = some recipe ∧
    order.overallProcessingSteps = recipe.actionQueue.length ∧
    order.overallProcessedSteps ≤ recipe.actionQueue.length ∧
    order.actionQueue = recipe.actionQueue.drop order.overallProcessedSteps
  processable : order.processableSteps = (processable capabilities order.actionQueue).length

/-- The part of the robot that plans its orders and counts their steps. -/
structure Sheet where
  orderQueue : List Order
  capabilities : Finset String
  dishInProcess : DishId
  actionQueueInProcess : List RobotAction
  recipeId : RecipeId
  processedSteps : Nat
  processableSteps : Nat
  overallProcessedSteps : Nat
  overallProcessingSteps : Nat

def sheet (r : Robot) : Sheet where
  orderQueue := r.orderQueue
  capabilities := r.capabilities
  dishInProcess := r.dishInProcess
  actionQueueInProcess := r.actionQueueInProcess
  recipeId := r.attributes.recipeId
  processedSteps := r.attributes.processedSteps
  processableSteps := r.attributes.processableSteps
  overallProcessedSteps := r.attributes.overallProcessedSteps
  overallProcessingSteps := r.attributes.overallProcessingSteps

/-- The order in process came from a task and is done as far as it says. -/
structure InHand (config : Config) (accepted : List Task) (s : Sheet) (task : Task) : Prop where
  accepted : task ∈ accepted
  dish : task.dish = s.dishInProcess
  recipeId : task.recipeId = s.recipeId
  recipe : ∃ recipe, config.recipeParser.getRecipe task.recipeId = some recipe ∧
    s.overallProcessingSteps = recipe.actionQueue.length ∧
    s.overallProcessedSteps ≤ recipe.actionQueue.length ∧
    s.actionQueueInProcess = recipe.actionQueue.drop s.overallProcessedSteps ∧
    s.processableSteps = (processable s.capabilities
      (recipe.actionQueue.drop task.overallProcessedSteps)).length
  done : s.overallProcessedSteps = task.overallProcessedSteps + s.processedSteps
  left : s.processedSteps + (processable s.capabilities s.actionQueueInProcess).length =
    s.processableSteps

structure Planned (config : Config) (accepted : List Task) (s : Sheet) (kept : Option Task) :
    Prop where
  orders : ∀ order ∈ s.orderQueue, OrderPlanned config accepted s.capabilities order
  inHand : s.recipeId ≠ 0 → ∃ task, kept = some task ∧ InHand config accepted s task
  resting : s.recipeId = 0 → s.processedSteps = 0

section Planning

theorem OrderPlanned.mono {later : List Task} {capabilities : Finset String} {order : Order}
    (more : accepted ⊆ later) (planned : OrderPlanned config accepted capabilities order) :
    OrderPlanned config later capabilities order where
  accepted := more planned.accepted
  recipe := planned.recipe
  processable := planned.processable

theorem Planned.mono {later : List Task} {s : Sheet} (more : accepted ⊆ later)
    (planned : Planned config accepted s kept) : Planned config later s kept where
  orders := fun order member => (planned.orders order member).mono more
  inHand := by
    intro cooking
    obtain ⟨task, taken, inHand⟩ := planned.inHand cooking
    exact ⟨task, taken, { inHand with accepted := more inHand.accepted }⟩
  resting := planned.resting

theorem queueOrder_planned {capabilities : Finset String} {task : Task} {recipe : Recipe}
    (same : r.capabilities = capabilities)
    (orders : ∀ order ∈ r.orderQueue, OrderPlanned config accepted capabilities order)
    (member : task ∈ accepted)
    (known : config.recipeParser.getRecipe task.recipeId = some recipe)
    (enough : task.overallProcessedSteps ≤ recipe.actionQueue.length) :
    ∀ order ∈ (queueOrder r task recipe).orderQueue,
      OrderPlanned config accepted capabilities order := by
  intro order queued
  rcases List.mem_append.mp queued with before | new
  · exact orders order before
  · rw [List.mem_singleton.mp new]
    refine ⟨member, ⟨recipe, known, rfl, enough, rfl⟩, ?_⟩
    rw [← same]
    exact (computeLoad_processableSteps _ _ _).trans (Nat.zero_add _)

theorem recalculateOrderQueue_planned {before : Robot} {capabilities : Finset String}
    (pending : List Order) (same : before.capabilities = capabilities)
    (orders : ∀ order ∈ before.orderQueue, OrderPlanned config accepted capabilities order)
    (members : ∀ order ∈ pending, order.toTask ∈ accepted)
    (ran : recalculateOrderQueue config before pending = some after) :
    ∀ order ∈ after.orderQueue, OrderPlanned config accepted capabilities order := by
  induction pending generalizing before with
  | nil =>
      cases ran
      exact orders
  | cons order pending ih =>
      rw [recalculateOrderQueue] at ran
      split at ran
      · contradiction
      next handled received =>
        have planned : handled.capabilities = capabilities ∧ ∀ order ∈ handled.orderQueue,
            OrderPlanned config accepted capabilities order := by
          rcases handleReceiveTask_cases received with ⟨_, rfl⟩ | ⟨recipe, known, enough, rfl⟩
          · exact ⟨same, orders⟩
          · exact ⟨same, queueOrder_planned same orders (members order List.mem_cons_self) known
              enough⟩
        split at ran
        · cases ran
          exact planned.2
        · exact ih planned.1 planned.2
            (fun later member => members later (List.mem_cons_of_mem _ member)) ran

theorem startOrder_planned {nextOrder : Order} {rest : List Order} {recipe : Recipe}
    (planned : Planned config accepted (sheet r) kept) (empty : r.attributes.recipeId = 0)
    (front : r.orderQueue = nextOrder :: rest) :
    Planned config accepted (sheet (startOrder (passLock r) nextOrder rest recipe))
      (some nextOrder.toTask) where
  orders := by
    intro order member
    refine planned.orders order ?_
    change order ∈ r.orderQueue
    rw [front]
    exact List.mem_cons_of_mem _ member
  inHand := by
    intro _
    have order : OrderPlanned config accepted r.capabilities nextOrder :=
      planned.orders nextOrder (by simp [sheet, front])
    obtain ⟨recipe, known, steps, enough, queue⟩ := order.recipe
    have none : r.attributes.processedSteps = 0 := planned.resting empty
    refine ⟨nextOrder.toTask, rfl, order.accepted, rfl, rfl,
      ⟨recipe, known, steps, enough, queue, ?_⟩, ?_, ?_⟩
    · rw [← queue]
      exact order.processable
    · change nextOrder.overallProcessedSteps = _ + r.attributes.processedSteps
      rw [none, Nat.add_zero]
    · change r.attributes.processedSteps + (processable r.capabilities nextOrder.actionQueue).length
        = nextOrder.processableSteps
      rw [none, Nat.zero_add, order.processable]
  resting := by
    intro none
    obtain ⟨_, known, _⟩ := (planned.orders nextOrder (by simp [sheet, front])).recipe
    exact absurd none (config.recipeParser.id_ne_zero known)

theorem countStep_planned {action : RobotAction} {rest : List RobotAction}
    (planned : Planned config accepted (sheet r) kept) (cooking : r.attributes.recipeId ≠ 0)
    (front : r.actionQueueInProcess = action :: rest) (capable : isCapableTo r action) :
    Planned config accepted (sheet (countStep r rest)) kept where
  orders := planned.orders
  inHand := by
    intro _
    obtain ⟨task, taken, inHand⟩ := planned.inHand cooking
    obtain ⟨recipe, known, steps, enough, queue, counted⟩ := inHand.recipe
    have queue : r.actionQueueInProcess =
        recipe.actionQueue.drop r.attributes.overallProcessedSteps := queue
    rw [front] at queue
    have remaining : r.attributes.overallProcessedSteps < recipe.actionQueue.length := by
      by_contra short
      rw [List.drop_eq_nil_of_le (Nat.le_of_not_lt short)] at queue
      contradiction
    refine ⟨task, taken, inHand.accepted, inHand.dish, inHand.recipeId,
      ⟨recipe, known, steps, remaining, ?_, counted⟩, ?_, ?_⟩
    · rw [List.drop_eq_getElem_cons remaining] at queue
      exact (List.cons.inj queue).2
    · have done : r.attributes.overallProcessedSteps =
          task.overallProcessedSteps + r.attributes.processedSteps := inHand.done
      change r.attributes.overallProcessedSteps + 1 = _ + (r.attributes.processedSteps + 1)
      omega
    · have left : r.attributes.processedSteps +
          (processable r.capabilities r.actionQueueInProcess).length =
            r.attributes.processableSteps := inHand.left
      have member : action.name ∈ r.capabilities := capable
      rw [front, processable, List.takeWhile_cons_of_pos (by simpa using member),
        List.length_cons] at left
      change r.attributes.processedSteps + 1 + (processable r.capabilities rest).length =
        r.attributes.processableSteps
      rw [processable]
      omega
  resting := fun none => absurd none cooking

end Planning

section Steps

theorem sheet_determineNextAction (r : Robot) : sheet (determineNextAction r) = sheet r := by
  have outcome := determineNextAction_cases r
  generalize determineNextAction r = after at outcome
  cases outcome <;> rfl

theorem sheet_handleSwitchPosition (config : Config) (r : Robot) :
    sheet (handleSwitchPosition config r) = sheet r := by
  unfold handleSwitchPosition
  split <;> rfl

theorem sheet_handleReconfiguration (r : Robot) : sheet (handleReconfiguration r) = sheet r := by
  unfold handleReconfiguration
  split <;> rfl

/-- The tasks that wait to be queued were accepted, the others are planned. -/
structure Scheduled (config : Config) (accepted : List Task) (r : Robot) (kept : Option Task) :
    Prop where
  tasks : ∀ task ∈ postedTasks r, task ∈ accepted
  planned : Planned config accepted (sheet r) kept

theorem Scheduled.congr (scheduled : Scheduled config accepted r kept)
    (tasks : ∀ task ∈ postedTasks after, task ∈ postedTasks r) (same : sheet after = sheet r) :
    Scheduled config accepted after kept where
  tasks := fun task member => scheduled.tasks task (tasks task member)
  planned := by
    rw [same]
    exact scheduled.planned

theorem takenTask_of_ne (other : event ≠ .cookNextOrder) : takenTask r event kept = kept := by
  cases event <;> first | rfl | contradiction

theorem cooks_scheduled (one : OneDriver r) (waiting : r.worker = .cookNextOrder)
    (scheduled : Scheduled config accepted r kept) (ran : Cooks config r after) :
    Scheduled config accepted after (takenTask r .cookNextOrder kept) := by
  cases ran with
  | rearranges rearranging =>
      have same : takenTask r .cookNextOrder kept = kept := by simp [takenTask, rearranging]
      rw [same]
      refine scheduled.congr ?_ (sheet_handleSwitchPosition config _)
      rw [postedTasks_handleSwitchPosition]
      exact fun task member => member
  | reconfigures reconfiguring =>
      have same : takenTask r .cookNextOrder kept = kept := by simp [takenTask, reconfiguring]
      rw [same]
      refine scheduled.congr ?_ (sheet_handleReconfiguration _)
      rw [postedTasks_handleReconfiguration]
      exact fun task member => member
  | rests available empty =>
      have same : takenTask r .cookNextOrder kept = kept := by simp [takenTask, empty]
      rw [same]
      exact scheduled.congr (fun task member => member) rfl
  | starts available nextOrder rest recipe front known =>
      have taken : takenTask r .cookNextOrder kept = some nextOrder.toTask := by
        simp [takenTask, available, front]
      rw [taken]
      have empty := (one.entering waiting).1
      refine ⟨?_, ?_⟩
      · rw [(determineNextAction_harmless _).postedTasks]
        exact scheduled.tasks
      · rw [sheet_determineNextAction]
        exact startOrder_planned scheduled.planned empty front

theorem handles_scheduled (one : OneDriver r) (handwork : Handwork r)
    (scheduled : Scheduled config accepted r kept) {capability : String} {handler : Handler}
    {posted : List Handler} (next : r.posted = handler :: posted)
    (ran : Handles config (takeHandler r posted) capability handler after outputs) :
    Scheduled config accepted after kept := by
  have fewer : ∀ task ∈ postedTasks (takeHandler r posted), task ∈ postedTasks r := by
    intro task member
    obtain ⟨later, among, same⟩ := List.mem_filterMap.mp member
    refine List.mem_filterMap.mpr ⟨later, ?_, same⟩
    rw [next]
    exact List.mem_cons_of_mem _ among
  have taken : Scheduled config accepted (takeHandler r posted) kept :=
    scheduled.congr fewer rfl
  have others : ∀ {later : Robot}, postedTasks later = postedTasks (takeHandler r posted) →
      sheet later = sheet (takeHandler r posted) → Scheduled config accepted later kept := by
    intro later tasks same
    refine taken.congr ?_ same
    rw [tasks]
    exact fun task member => member
  cases ran with
  | taskForgotten | postponed => exact taken
  | entered | targeted | moved | aborted | committed => exact others rfl rfl
  | ticked => exact others (postedTasks_armTimer _ _ _) rfl
  | taskQueued task recipe known enough =>
      have member : task ∈ accepted := by
        refine scheduled.tasks task (List.mem_filterMap.mpr ⟨.handleReceiveTask task, ?_, rfl⟩)
        rw [next]
        exact List.mem_cons_self
      exact
        { tasks := taken.tasks
          planned :=
            { orders := queueOrder_planned rfl taken.planned.orders member known enough
              inHand := by
                intro cooking
                obtain ⟨started, same, inHand⟩ := taken.planned.inHand cooking
                exact ⟨started, same, inHand.accepted, inHand.dish, inHand.recipeId, inHand.recipe,
                  inHand.done, inHand.left⟩
              resting := taken.planned.resting } }
  | rearranges newPosition =>
      exact others (postedTasks_handleSwitchPosition config _) (sheet_handleSwitchPosition config _)
  | reconfigures =>
      exact others (postedTasks_handleReconfiguration _) (sheet_handleReconfiguration _)
  | retooled action =>
      exact others (determineNextAction_harmless _).postedTasks (sheet_determineNextAction _)
  | performed action rest elapsed front =>
      have due : TimerOutstanding r .passTime := .inr (by simp [next])
      obtain ⟨_, _, front', capable, _⟩ := handwork.performing due
      have front : r.actionQueueInProcess = action :: rest := front
      rw [front] at front'
      obtain ⟨rfl, rfl⟩ := List.cons.inj front'
      refine ⟨?_, ?_⟩
      · rw [(determineNextAction_harmless _).postedTasks]
        exact taken.tasks
      · rw [sheet_determineNextAction]
        have counted : Planned config accepted (sheet (countDown (takeHandler r posted))) kept :=
          taken.planned
        exact countStep_planned counted (one.cooking (.inr (.inl due))) front capable
  | completed ran =>
      have resting := one.resting_of_next next rfl (by simp) (by simp)
      obtain ⟨capabilities, action, requeued, _, _, _, loop, rfl⟩ :=
        completeReconfiguration_cases ran
      have orders : ∀ order ∈ requeued.orderQueue,
          OrderPlanned config accepted capabilities order :=
        recalculateOrderQueue_planned r.orderQueue rfl (by simp [reequip])
          (fun order member => (scheduled.planned.orders order member).accepted) loop
      obtain ⟨queue, _, _, _, _, rfl, _⟩ := recalculateOrderQueue_refills _ loop
      have planned : Planned config accepted { sheet r with
          orderQueue := queue
          capabilities := capabilities } kept :=
        ⟨orders, fun cooking => absurd resting cooking, scheduled.planned.resting⟩
      split
      · exact ⟨taken.tasks, planned⟩
      · exact ⟨taken.tasks, planned⟩

theorem step_scheduled (one : OneDriver r) (handwork : Handwork r)
    (scheduled : Scheduled config accepted r kept) (step : Step config r event after outputs) :
    Scheduled config (accepted ++ outputs.filterMap Output.accepted?) after
      (takenTask r event kept) := by
  have same : ∀ {later : Robot}, event ≠ .cookNextOrder →
      (∀ task ∈ postedTasks later, task ∈ postedTasks r) → sheet later = sheet r →
      Scheduled config (accepted ++ outputs.filterMap Output.accepted?) later
        (takenTask r event kept) := by
    intro later other tasks same
    rw [takenTask_of_ne other]
    have scheduled := scheduled.congr tasks same
    exact ⟨fun task member => List.mem_append_left _ (scheduled.tasks task member),
      scheduled.planned.mono (List.subset_append_left _ _)⟩
  cases step with
  | refused refusal =>
      refine same ?_ (fun task member => member) rfl
      cases refusal <;> simp
  | taskAccepted task recipe action rest =>
      rw [takenTask_of_ne (by simp)]
      have more : accepted ⊆ accepted ++ [task] := List.subset_append_left _ _
      refine ⟨?_, scheduled.planned.mono more⟩
      intro posted member
      have tasks : postedTasks (post r (.handleReceiveTask task)) = postedTasks r ++ [task] := by
        simp [postedTasks, post, Handler.task?]
      rw [tasks] at member
      rcases List.mem_append.mp member with before | new
      · exact more (scheduled.tasks posted before)
      · exact List.mem_append_right _ new
  | handedOver pending =>
      rw [takenTask_of_ne (by simp)]
      refine ⟨?_, ?_⟩
      · rw [postedTasks_post rfl]
        exact fun task member => List.mem_append_left _ (scheduled.tasks task member)
      · exact
          { orders := (scheduled.planned.mono (List.subset_append_left _ _)).orders
            inHand := fun cooking => absurd rfl cooking
            resting := fun _ => rfl }
  | switchAccepted | reconfigureAccepted | commitAccepted | expired =>
      refine same (by simp) ?_ rfl
      rw [postedTasks_post rfl]
      exact fun task member => member
  | notifyFailed | notified | conveyorLost | conveyorConnected | renotified | renotifyFailed =>
      exact same (by simp) (fun task member => member) rfl
  | handled capability handler posted idle next ran =>
      rw [takenTask_of_ne (by simp)]
      have scheduled := handles_scheduled one handwork scheduled next ran
      exact ⟨fun task member => List.mem_append_left _ (scheduled.tasks task member),
        scheduled.planned.mono (List.subset_append_left _ _)⟩
  | locked waiting unlocked ran =>
      rw [List.filterMap_nil, List.append_nil]
      exact cooks_scheduled one waiting scheduled ran

end Steps

section Runs

theorem initial_scheduled (started : Started config r) : Scheduled config [] r none := by
  obtain ⟨position, _, capabilities, _, action, _, _, _, rfl⟩ := started
  refine ⟨by simp [initial, postedTasks], ?_⟩
  constructor <;> simp [initial, sheet]

theorem reaches_scheduled {history : History Event Output} {s : Robot × Option Task}
    (reached : ((machine config).observed none takenTask).Reaches
      (fun s event => CommitsOnce s.1 event) history s) :
    Scheduled config (acceptedTasks history) s.1 s.2 := by
  induction reached with
  | start first =>
      obtain ⟨started, empty⟩ := first
      rw [empty]
      exact initial_scheduled started
  | step earlier _ taken scheduled =>
      obtain ⟨taken, recorded⟩ := Machine.observed_step taken
      have run : (machine config).Reaches CommitsOnce _ _ :=
        earlier.unobserved fun _ _ permitted => permitted
      have sound := reaches_sound (fun _ _ permitted => permitted) run
      rw [acceptedTasks, outputsOf_append, List.filterMap_append, outputsOf_singleton, recorded]
      exact step_scheduled sound.one sound.handwork scheduled (step_cases taken).2

theorem Handwork.nothing_left (handwork : Handwork r)
    (notifies : r.worker = .notifyingConveyor ∨ r.pendingPickup = true) :
    processable r.capabilities r.actionQueueInProcess = [] := by
  have stuck := (handwork.done notifies).2
  cases queue : r.actionQueueInProcess with
  | nil => rfl
  | cons action rest =>
      have incapable : action.name ∉ r.capabilities := stuck action rest queue
      simp [processable, incapable]

/-- When a robot that commits once notifies the conveyor, it has done as many
steps of the accepted order as were planned, and as many as it would plan now
for what the order arrived with. The dish is finished if and only if these are
all steps of the recipe. -/
theorem plan_and_execution_agree (config : Config) (history : History Event Output) (r : Robot)
    (kept : Option Task)
    (reached : ((machine config).observed none takenTask).Reaches
      (fun s event => CommitsOnce s.1 event) history (r, kept))
    (notifies : r.worker = .notifyingConveyor ∨ r.pendingPickup = true) :
    ∃ task recipe, kept = some task ∧ task ∈ acceptedTasks history ∧
      task.dish = r.dishInProcess ∧ task.recipeId = r.attributes.recipeId ∧
      config.recipeParser.getRecipe task.recipeId = some recipe ∧
      r.attributes.processedSteps = r.attributes.processableSteps ∧
      r.attributes.processableSteps = (computeOverallTimeAndDetermineLastTool r
        (recipe.actionQueue.drop task.overallProcessedSteps)).2 ∧
      r.attributes.overallProcessedSteps =
        task.overallProcessedSteps + r.attributes.processableSteps ∧
      r.attributes.overallProcessingSteps = recipe.actionQueue.length ∧
      (r.isDishFinished = true ↔
        r.attributes.overallProcessedSteps = r.attributes.overallProcessingSteps) := by
  have run : (machine config).Reaches CommitsOnce history (r, kept).1 :=
    reached.unobserved fun _ _ permitted => permitted
  have sound := reaches_sound (fun _ _ permitted => permitted) run
  have cooking : r.attributes.recipeId ≠ 0 := sound.one.cooking (.inr (.inr notifies))
  obtain ⟨task, taken, inHand⟩ := (reaches_scheduled reached).planned.inHand cooking
  obtain ⟨recipe, known, steps, enough, queue, counted⟩ := inHand.recipe
  have left : r.attributes.processedSteps +
      (processable r.capabilities r.actionQueueInProcess).length =
        r.attributes.processableSteps := inHand.left
  rw [sound.handwork.nothing_left notifies, List.length_nil, Nat.add_zero] at left
  have done : r.attributes.overallProcessedSteps =
      task.overallProcessedSteps + r.attributes.processedSteps := inHand.done
  have planned : (computeOverallTimeAndDetermineLastTool r
      (recipe.actionQueue.drop task.overallProcessedSteps)).2 = r.attributes.processableSteps := by
    have load := computeLoad_processableSteps r.capabilities
      (recipe.actionQueue.drop task.overallProcessedSteps)
      { overallTime := r.attributes.overallTime
        lastEquippedTool := r.attributes.lastEquippedTool
        processableSteps := 0 }
    rw [Nat.zero_add] at load
    exact load.trans counted.symm
  refine ⟨task, recipe, taken, inHand.accepted, inHand.dish, inHand.recipeId, known, left,
    planned.symm, by rw [done, left], steps, ?_⟩
  rw [(sound.handwork.done notifies).1]
  have queue : r.actionQueueInProcess =
      recipe.actionQueue.drop r.attributes.overallProcessedSteps := queue
  have steps : r.attributes.overallProcessingSteps = recipe.actionQueue.length := steps
  rw [queue, steps, List.drop_eq_nil_iff]
  exact ⟨fun all => Nat.le_antisymm enough all, fun same => same.ge⟩

/-- A dessert arrives whipped and mixed. The mixing robot crushes the cookies
and notifies the conveyor of four steps. -/
theorem mixing_robot_plan_and_execution_agree :
    ∃ history r kept, ((machine deployment).observed none takenTask).Reaches
        (fun s event => CommitsOnce s.1 event) history (r, kept) ∧
      r.worker = .notifyingConveyor ∧ kept = some ⟨3, 3, 1⟩ ∧
      r.attributes.processedSteps = r.attributes.processableSteps ∧
      r.attributes.overallProcessedSteps = 3 + r.attributes.processableSteps := by
  have started : ((machine deployment).observed none takenTask).start (mixingRobot, none) :=
    ⟨mixingRobot_started, rfl⟩
  obtain ⟨history, ⟨r, kept⟩, reached, shown⟩ := Machine.exists_reaches_of_replay
    ((machine deployment).observed none takenTask) (fun s event => CommitsOnce s.1 event) started
    [.receiveTask ⟨3, 3, 1⟩ 3, .runHandler "whip", .cookNextOrder, .timerExpires,
     .runHandler "whip", .timerExpires, .runHandler "whip", .timerExpires, .runHandler "whip"]
    (fun _ s => decide (s.1.worker = .notifyingConveyor ∧ s.2 = some ⟨3, 3, 1⟩)) (by decide)
  obtain ⟨notifies, taken⟩ := of_decide_eq_true shown
  have taken : kept = some ⟨3, 3, 1⟩ := taken
  obtain ⟨task, _, same, _, _, _, _, steps, _, overall, _⟩ :=
    plan_and_execution_agree deployment history r kept reached (.inl notifies)
  rw [taken, Option.some.injEq] at same
  rw [← same] at overall
  exact ⟨history, r, kept, reached, notifies, taken, steps, overall⟩

end Runs

end CpsKitchen.RobotAgent
