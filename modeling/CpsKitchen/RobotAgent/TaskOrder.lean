import CpsKitchen.Reactive.Pipeline
import CpsKitchen.RobotAgent.Simulation

/-!
# First in, first out

Tasks go through a posted handler, the order queue and the robot's hands to
the conveyor, in the order in which they were accepted. A reconfiguration that
is accepted with two tasks waiting and nothing in process breaks this: the
worker locks itself out when it requeues the first one, and the others are
left behind in a local variable.
-/

namespace CpsKitchen.RobotAgent

open CpsKitchen.Reactive CpsKitchen.Recipes

set_option autoImplicit false

variable {config : Config} {r after : Robot} {event : Event} {outputs : List Output}

def Task.key (task : Task) : RecipeId × DishId := (task.recipeId, task.dish)

namespace Work

def keyInProcess (w : Work) : List (RecipeId × DishId) :=
  if w.recipeId = 0 then [] else [(w.recipeId, w.dishInProcess)]

/-- The accepted tasks that were not handed over yet, first one first. -/
def inside (w : Work) : List (RecipeId × DishId) :=
  w.keyInProcess ++ w.orderQueue.map (fun order => order.toTask.key) ++ w.tasks.map Task.key

def waiting (w : Work) : Nat := w.orderQueue.length + w.tasks.length

theorem requeue_keys {orders : List Order} {w : Work}
    (known : ∀ order ∈ orders, ∃ recipe,
      config.recipeParser.getRecipe order.recipeId = some recipe) :
    (orders.foldl (Work.requeue config) w).orderQueue.map (fun order => order.toTask.key) =
      w.orderQueue.map (fun order => order.toTask.key) ++
        orders.map (fun order => order.toTask.key) := by
  induction orders generalizing w with
  | nil => simp
  | cons order orders ih =>
      obtain ⟨recipe, found⟩ := known order List.mem_cons_self
      rw [List.foldl_cons, ih (fun later member => known later (List.mem_cons_of_mem _ member))]
      simp [Work.requeue, found, queueOrder]

theorem requeue_frame (config : Config) (orders : List Order) (w : Work) :
    (orders.foldl (Work.requeue config) w).tasks = w.tasks ∧
    (orders.foldl (Work.requeue config) w).recipeId = w.recipeId ∧
    (orders.foldl (Work.requeue config) w).dishInProcess = w.dishInProcess ∧
    (orders.foldl (Work.requeue config) w).preparingDish = w.preparingDish := by
  induction orders generalizing w with
  | nil => exact ⟨rfl, rfl, rfl, rfl⟩
  | cons order orders ih =>
      rw [List.foldl_cons]
      have same : (w.requeue config order).tasks = w.tasks ∧
          (w.requeue config order).recipeId = w.recipeId ∧
          (w.requeue config order).dishInProcess = w.dishInProcess ∧
          (w.requeue config order).preparingDish = w.preparingDish := by
        unfold Work.requeue
        split <;> exact ⟨rfl, rfl, rfl, rfl⟩
      obtain ⟨tasks, recipeId, dish, preparing⟩ := ih (w.requeue config order)
      exact ⟨tasks.trans same.1, recipeId.trans same.2.1, dish.trans same.2.2.1,
        preparing.trans same.2.2.2⟩

/-- What comes in goes to the end, and what goes out comes from the front. -/
theorem Step.books {state : RobotState} {w w' : Work} (readable : Readable config w)
    (complete : state = .reconfiguring → w.preparingDish = true ∨ w.waiting ≤ 1)
    (step : Work.Step config state w w' outputs) :
    w.inside ++ (outputs.filterMap Output.accepted?).map Task.key =
      outputs.filterMap Output.handedOver? ++ w'.inside := by
  cases step with
  | same plain =>
      have accepted : outputs.filterMap Output.accepted? = [] :=
        List.filterMap_eq_nil_iff.mpr fun output member => (plain output member).1
      have handedOver : outputs.filterMap Output.handedOver? = [] :=
        List.filterMap_eq_nil_iff.mpr fun output member => (plain output member).2.1
      simp [accepted, handedOver]
  | accepted => simp [inside, keyInProcess, Output.accepted?, Output.handedOver?]
  | queued task tasks recipe front =>
      simp only [inside, queueOrder, front, List.filterMap_nil, List.map_nil, List.map_cons,
        List.map_append, List.append_assoc, List.append_nil, List.nil_append, List.cons_append]
      rfl
  | rested | ticked | retooled =>
      rw [List.filterMap_nil, List.filterMap_nil, List.map_nil, List.append_nil, List.nil_append]
      rfl
  | started available nextOrder rest front resting =>
      obtain ⟨recipe, known, _⟩ := readable.orders nextOrder (by simp [front])
      have cooking := config.recipeParser.id_ne_zero known
      simp [inside, keyInProcess, next, startOrder, front, resting, cooking, Task.key]
  | performed =>
      simp only [List.filterMap_cons, List.filterMap_nil, Output.accepted?, Output.handedOver?,
        List.map_nil, List.append_nil, List.nil_append]
      rfl
  | handedOver reply cooking time recipeId =>
      simp [inside, keyInProcess, releaseDish, cooking, recipeId, Output.accepted?,
        Output.handedOver?]
  | reconfigured reconfiguring profile capability capabilities action requeued forgotten resting
      parsed chosen registered orders whole =>
      have all : forgotten = [] := by
        refine whole ((complete reconfiguring).imp id ?_)
        unfold waiting
        omega
      have known : ∀ order ∈ requeued, ∃ recipe,
          config.recipeParser.getRecipe order.recipeId = some recipe := by
        intro order member
        obtain ⟨recipe, known, _⟩ := readable.orders order (by simp [orders, member])
        exact ⟨recipe, known⟩
      obtain ⟨tasks, recipeId, dish, _⟩ := requeue_frame config requeued
        (w.reequip capabilities action.requiredTool)
      simp only [inside, keyInProcess, requeue_keys known, tasks, recipeId, dish]
      simp [reequip, orders, all, resting]

theorem Step.waiting {state : RobotState} {w w' : Work} (adapting : state ≠ .available)
    (bounded : w.preparingDish = true ∨ w.waiting ≤ 1) (readable : Readable config w)
    (step : Work.Step config state w w' outputs) :
    w'.preparingDish = true ∨ w'.waiting ≤ 1 := by
  cases step with
  | same | retooled | ticked | performed | handedOver => exact bounded
  | accepted available | rested available | started available => exact absurd available adapting
  | queued task tasks recipe front =>
      refine bounded.imp id ?_
      simp only [Work.waiting, front, queueOrder, List.length_cons, List.length_append,
        List.length_nil]
      omega
  | reconfigured reconfiguring profile capability capabilities action requeued forgotten resting
      parsed chosen registered orders =>
      have known : ∀ order ∈ requeued, ∃ recipe,
          config.recipeParser.getRecipe order.recipeId = some recipe := by
        intro order member
        obtain ⟨recipe, known, _⟩ := readable.orders order (by simp [orders, member])
        exact ⟨recipe, known⟩
      obtain ⟨tasks, _, _, preparing⟩ := requeue_frame config requeued
        (w.reequip capabilities action.requiredTool)
      have tasks : (requeued.foldl (Work.requeue config)
          (w.reequip capabilities action.requiredTool)).tasks = w.tasks := tasks
      have keys := congrArg List.length
        (requeue_keys (w := w.reequip capabilities action.requiredTool) known)
      simp only [List.length_map, List.length_append, reequip, List.length_nil] at keys
      rw [preparing]
      refine bounded.imp id ?_
      intro few
      rw [Work.waiting, orders, List.length_append] at few
      rw [Work.waiting, tasks, reequip]
      omega

end Work

/-- A reconfiguration is accepted only while a dish is being prepared or at
most one task waits. -/
def LeavesOneTask (config : Config) (r : Robot) : Event → Prop
  | .reconfigure profile availabilityWritten =>
      AcceptsReconfigure config r profile availabilityWritten →
        r.preparingDish = true ∨ r.orderQueue.length + (postedTasks r).length ≤ 1
  | _ => True

instance (r : Robot) : (event : Event) → Decidable (LeavesOneTask config r event)
  | .reconfigure profile availabilityWritten =>
      inferInstanceAs
        (Decidable (AcceptsReconfigure config r profile availabilityWritten →
          r.preparingDish = true ∨ r.orderQueue.length + (postedTasks r).length ≤ 1))
  | .receiveTask _ _ | .handoverFinishedOrder | .switchPosition _ _ | .commitNewPosition
  | .runHandler _ | .cookNextOrder | .notifyConveyor _ | .timerExpires | .conveyorLost
  | .conveyorConnected _ => isTrue trivial

def CommitsOnceLeavingOneTask (config : Config) (r : Robot) (event : Event) : Prop :=
  CommitsOnce r event ∧ LeavesOneTask config r event

instance (r : Robot) (event : Event) : Decidable (CommitsOnceLeavingOneTask config r event) :=
  inferInstanceAs (Decidable (_ ∧ _))

theorem determineNextAction_robotState (r : Robot) :
    (determineNextAction r).robotState = r.robotState :=
  (determineNextAction_harmless r).robotState

theorem handleSwitchPosition_robotState (r : Robot) :
    (handleSwitchPosition config r).robotState = r.robotState :=
  (handleSwitchPosition_harmless r).robotState

theorem handleReconfiguration_robotState (r : Robot) :
    (handleReconfiguration r).robotState = r.robotState := by
  unfold handleReconfiguration
  split <;> rfl

theorem handles_robotState {capability : String} {handler : Handler}
    (ran : Handles config r capability handler after outputs) :
    after.robotState = r.robotState ∨ after.robotState = .available := by
  cases ran with
  | taskForgotten | taskQueued | entered | targeted | postponed | ticked | moved | aborted =>
      exact .inl rfl
  | rearranges newPosition =>
      exact .inl (handleSwitchPosition_robotState (target r newPosition))
  | reconfigures => exact .inl (handleReconfiguration_robotState r)
  | committed => exact .inr rfl
  | retooled action => exact .inl (determineNextAction_robotState (equip r action.requiredTool))
  | performed action rest =>
      exact .inl (determineNextAction_robotState (countStep (countDown r) rest))
  | completed ran =>
      obtain ⟨_, _, requeued, _, _, _, loop, rfl⟩ := completeReconfiguration_cases ran
      obtain ⟨_, _, _, _, _, rfl, _⟩ := recalculateOrderQueue_refills _ loop
      split
      · exact .inl rfl
      · exact .inr rfl

theorem step_reconfiguring (step : Step config r event after outputs)
    (before : r.robotState ≠ .reconfiguring) (reconfiguring : after.robotState = .reconfiguring) :
    work after = work r ∧ ∃ profile, event = .reconfigure profile true ∧
      AcceptsReconfigure config r profile true := by
  cases step with
  | refused | taskAccepted | handedOver | commitAccepted | notifyFailed | notified | expired
  | conveyorLost | conveyorConnected | renotifyFailed | renotified =>
      exact absurd reconfiguring before
  | switchAccepted => simp [post, startAdaptation] at reconfiguring
  | reconfigureAccepted profile capabilities unlocked parsed different available =>
      refine ⟨(work_post rfl rfl).trans rfl, profile, rfl, ?_, available, rfl⟩
      simp [parsed, different]
  | handled capability handler posted idle next ran =>
      rcases handles_robotState ran with same | available
      · exact absurd (same.symm.trans reconfiguring) before
      · rw [available] at reconfiguring
        contradiction
  | locked waiting unlocked ran =>
      have same : after.robotState = r.robotState := by
        cases ran with
        | rearranges => exact handleSwitchPosition_robotState (passLock r)
        | reconfigures => exact handleReconfiguration_robotState (passLock r)
        | rests => rfl
        | starts available nextOrder rest recipe =>
            exact determineNextAction_robotState (startOrder (passLock r) nextOrder rest recipe)
      exact absurd (same.symm.trans reconfiguring) before

/-- While the robot reconfigures at most one task waits, or a dish is being
prepared and the queue is refilled as a whole. -/
def RefillsWhole (r : Robot) : Prop :=
  r.robotState = .reconfiguring → (work r).preparingDish = true ∨ (work r).waiting ≤ 1

theorem step_refillsWhole (sound : Sound config r) (whole : RefillsWhole r)
    (permitted : LeavesOneTask config r event) (step : Step config r event after outputs)
    (worked : Work.Step config r.robotState (work r) (work after) outputs) :
    RefillsWhole after := by
  intro reconfiguring
  by_cases before : r.robotState = .reconfiguring
  · exact worked.waiting (by simp [before]) (whole before) sound.readable
  · obtain ⟨same, profile, rfl, accepts⟩ := step_reconfiguring step before reconfiguring
    rw [same]
    exact permitted accepts

theorem initial_refillsWhole (started : Started config r) : RefillsWhole r := by
  obtain ⟨position, _, capabilities, _, action, _, _, _, rfl⟩ := started
  simp [RefillsWhole, initial]

theorem reaches_refillsWhole {history : History Event Output}
    (reached : (machine config).Reaches (CommitsOnceLeavingOneTask config) history r) :
    RefillsWhole r :=
  reached.history_invariant (fun _ started => initial_refillsWhole started)
    (fun _ _ _ _ _ earlier whole permitted taken =>
      have sound := reaches_sound (fun _ _ permitted => permitted.1) earlier
      step_refillsWhole sound whole permitted.2 (step_cases taken).2
        (step_sound sound permitted.1 taken).2)

theorem reaches_books {history : History Event Output}
    (reached : (machine config).Reaches (CommitsOnceLeavingOneTask config) history r) :
    (outputsOf history).filterMap (fun output => output.accepted?.map Task.key) =
      (outputsOf history).filterMap Output.handedOver? ++ (work r).inside := by
  refine reached.fifo _ Output.handedOver? (fun r => (work r).inside) ?_ ?_
  · rintro r ⟨position, _, capabilities, _, action, _, _, _, rfl⟩
    rfl
  · intro history before event after outputs earlier permitted taken
    have sound := reaches_sound (fun _ _ permitted => permitted.1) earlier
    have whole := reaches_refillsWhole earlier
    have worked := (step_sound sound permitted.1 taken).2
    rw [← worked.books sound.readable whole, List.map_filterMap]

def acceptedTasks (history : History Event Output) : List Task :=
  (outputsOf history).filterMap Output.accepted?

def handedOverDishes (history : History Event Output) : List (RecipeId × DishId) :=
  (outputsOf history).filterMap Output.handedOver?

/-- Every accepted task is handed over, in process or awaiting pickup, in the
order queue or posted, in this order and just once. So dishes are handed over
in the order in which their tasks were accepted. A handover call without a
pending pickup is answered with the zero reply and changes nothing. -/
theorem tasks_handed_over_in_order (config : Config) (history : History Event Output) (r : Robot)
    (reached : (machine config).Reaches (CommitsOnceLeavingOneTask config) history r) :
    (acceptedTasks history).map Task.key =
      handedOverDishes history ++ (work r).keyInProcess ++
        r.orderQueue.map (fun order => order.toTask.key) ++ (postedTasks r).map Task.key ∧
    (handedOverDishes history).map Prod.fst <+:
      (acceptedTasks history).map (fun task => task.recipeId) ∧
    (r.running = true → r.pendingPickup = false →
      step config r .handoverFinishedOrder =
        some (r, [.handoverReply r.dishInProcess (zeroReply config r)])) := by
  have books : (acceptedTasks history).map Task.key =
      handedOverDishes history ++ (work r).inside := by
    rw [acceptedTasks, List.map_filterMap]
    exact reaches_books reached
  refine ⟨?_, ?_, ?_⟩
  · rw [books, Work.inside]
    simp only [List.append_assoc]
    rfl
  · have recipeIds := congrArg (List.map Prod.fst) books
    rw [List.map_map, List.map_append] at recipeIds
    have accepted : (acceptedTasks history).map (fun task => task.recipeId) =
        (acceptedTasks history).map (Prod.fst ∘ Task.key) := rfl
    rw [accepted, recipeIds]
    exact List.prefix_append _ _
  · intro running early
    simp [step, running, handleHandoverFinishedOrder, early]

/-- The mixing robot accepts a reconfiguration with one task waiting. -/
theorem mixing_robot_keeps_task_order :
    ∃ history r, (machine deployment).Reaches (CommitsOnceLeavingOneTask deployment) history r ∧
      r.robotState = .reconfiguring ∧ (acceptedTasks history).map Task.key = [(3, 1)] ∧
      (acceptedTasks history).map Task.key =
        handedOverDishes history ++ (work r).keyInProcess ++
          r.orderQueue.map (fun order => order.toTask.key) ++ (postedTasks r).map Task.key := by
  obtain ⟨history, r, reached, shown⟩ := Machine.exists_reaches_of_replay
    (machine deployment) (CommitsOnceLeavingOneTask deployment) mixingRobot_started
    [.receiveTask ⟨3, 0, 1⟩ 3, .runHandler "whip", .reconfigure "r4.json" true]
    (fun history r => decide (r.robotState = .reconfiguring ∧
      (acceptedTasks history).map Task.key = [(3, 1)])) (by decide)
  obtain ⟨reconfiguring, accepted⟩ := of_decide_eq_true shown
  have ordered := tasks_handed_over_in_order deployment history r reached
  exact ⟨history, r, reached, reconfiguring, accepted, ordered.1⟩

/-- The mixing robot accepts two desserts and, before its worker has looked at
them, a reconfiguration. The second dessert is then in none of its places. -/
theorem second_task_lost_by_reconfiguration :
    ∃ history r, (machine deployment).Reaches CommitsOnce history r ∧
      (acceptedTasks history).map Task.key = [(3, 1), (3, 2)] ∧
      (3, 2) ∉ handedOverDishes history ++ (work r).keyInProcess ++
        r.orderQueue.map (fun order => order.toTask.key) ++ (postedTasks r).map Task.key := by
  obtain ⟨history, r, reached, shown⟩ := Machine.exists_reaches_of_replay
    (machine deployment) CommitsOnce mixingRobot_started
    [.receiveTask ⟨3, 0, 1⟩ 3, .receiveTask ⟨3, 0, 2⟩ 3, .reconfigure "r4.json" true,
     .runHandler "whip", .cookNextOrder, .runHandler "whip", .cookNextOrder, .runHandler "whip",
     .timerExpires, .runHandler "layer"]
    (fun history r => decide ((acceptedTasks history).map Task.key = [(3, 1), (3, 2)] ∧
      (3, 2) ∉ handedOverDishes history ++ (work r).keyInProcess ++
        r.orderQueue.map (fun order => order.toTask.key) ++ (postedTasks r).map Task.key))
    (by decide)
  obtain ⟨accepted, lost⟩ := of_decide_eq_true shown
  exact ⟨history, r, reached, accepted, lost⟩

end CpsKitchen.RobotAgent
