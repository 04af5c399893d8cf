import CpsKitchen.RobotAgent.Simulation

/-!
# Load accounting

The published load is added up when a task is accepted, from a predicted
sequence of tools, and counted down when the robot really retools and cooks.
The time still to be spent is read off the work here. The two agree, modulo
the width of the attribute.
-/

namespace CpsKitchen.RobotAgent

open CpsKitchen.Reactive CpsKitchen.Recipes

set_option autoImplicit false

variable {config : Config} {r after : Robot} {event : Event} {outputs : List Output}

/-- The time a robot holding a tool needs for some actions in a row. -/
def cookingTime : RobotTool → List RobotAction → Nat
  | _, [] => 0
  | tool, action :: rest =>
      (if tool ≠ action.requiredTool then retoolingTime else 0) + action.duration +
        cookingTime action.requiredTool rest

def toolAfter : RobotTool → List RobotAction → RobotTool
  | tool, [] => tool
  | _, action :: rest => toolAfter action.requiredTool rest

theorem cookingTime_append (tool : RobotTool) (first second : List RobotAction) :
    cookingTime tool (first ++ second) =
      cookingTime tool first + cookingTime (toolAfter tool first) second := by
  induction first generalizing tool with
  | nil => simp [cookingTime, toolAfter]
  | cons action first ih =>
      simp only [List.cons_append, cookingTime, toolAfter, ih]
      omega

theorem toolAfter_append (tool : RobotTool) (first second : List RobotAction) :
    toolAfter tool (first ++ second) = toolAfter (toolAfter tool first) second := by
  induction first generalizing tool with
  | nil => rfl
  | cons action first ih => exact ih action.requiredTool

/-- The actions the robot can do before it has to give a dish away. -/
def processable (capabilities : Finset String) (actionQueue : List RobotAction) :
    List RobotAction :=
  actionQueue.takeWhile fun action => action.name ∈ capabilities

theorem computeLoad_lastEquippedTool (capabilities : Finset String)
    (actionQueue : List RobotAction) (load : Load) :
    (computeLoad capabilities load actionQueue).lastEquippedTool =
      toolAfter load.lastEquippedTool (processable capabilities actionQueue) := by
  induction actionQueue generalizing load with
  | nil => rfl
  | cons action rest ih =>
      by_cases capable : action.name ∈ capabilities
      · rw [computeLoad, if_pos capable, ih]
        simp [processable, capable, toolAfter, Load.add]
      · simp [computeLoad, processable, capable, toolAfter]

theorem computeLoad_overallTime (capabilities : Finset String)
    (actionQueue : List RobotAction) (load : Load) (spent : Nat)
    (counted : load.overallTime = spent % 2 ^ 32) :
    (computeLoad capabilities load actionQueue).overallTime =
      (spent + cookingTime load.lastEquippedTool (processable capabilities actionQueue)) %
        2 ^ 32 := by
  induction actionQueue generalizing load spent with
  | nil => simpa [computeLoad, processable, cookingTime] using counted
  | cons action rest ih =>
      by_cases capable : action.name ∈ capabilities
      · have added : (load.add action).overallTime =
            (spent + (if load.lastEquippedTool ≠ action.requiredTool then retoolingTime else 0) +
              action.duration) % 2 ^ 32 := by
          simp only [Load.add, counted, Nat.mod_add_mod]
        rw [computeLoad, if_pos capable, ih _ _ added]
        simp only [processable, List.takeWhile_cons, capable, decide_true, if_true, cookingTime,
          Load.add]
        congr 1
        omega
      · simpa [computeLoad, processable, capable, cookingTime] using counted

namespace Work

/-- The actions of the order in process that were not started yet and that
the robot can do. -/
def leftInProcess (w : Work) : List RobotAction :=
  if w.recipeId = 0 then []
  else processable w.capabilities
    (if w.timeLeft.isSome then w.actionQueueInProcess.tail else w.actionQueueInProcess)

/-- The actions the robot will start, in this order, if nothing else comes in. -/
def plan (w : Work) : List RobotAction :=
  w.leftInProcess ++ w.orderQueue.flatMap fun order => processable w.capabilities order.actionQueue

def remainingTime (w : Work) : Nat := w.timeLeft.getD 0 + cookingTime w.currentTool w.plan

def toolAtEnd (w : Work) : RobotTool := toolAfter w.currentTool w.plan

/-- The load attributes say what is still to be spent. -/
structure Accounted (w : Work) : Prop where
  overallTime : w.overallTime = w.remainingTime % 2 ^ 32
  lastEquippedTool : w.lastEquippedTool = w.toolAtEnd
  ticking : ∀ left, w.timeLeft = some left → 1 ≤ left
  resting : w.recipeId = 0 → w.timeLeft = none

/-- The same of a robot that may start actions that take no time. -/
structure Balanced (w : Work) : Prop where
  overallTime : w.overallTime = w.remainingTime % 2 ^ 32
  lastEquippedTool : w.lastEquippedTool = w.toolAtEnd
  resting : w.recipeId = 0 → w.timeLeft = none

theorem Accounted.balanced {w : Work} (accounted : Accounted w) : Balanced w where
  overallTime := accounted.overallTime
  lastEquippedTool := accounted.lastEquippedTool
  resting := accounted.resting

/-- Starting the next action moves its duration from the plan to the clock. -/
theorem next_remaining (w : Work) (cooking : w.recipeId ≠ 0) (time : w.timeLeft = none) :
    w.next.remainingTime = w.remainingTime ∧ w.next.toolAtEnd = w.toolAtEnd := by
  cases queue : w.actionQueueInProcess with
  | nil =>
      simp [remainingTime, toolAtEnd, plan, leftInProcess, next, queue, time]
  | cons action rest =>
      by_cases ready : action.name ∈ w.capabilities ∧ action.requiredTool = w.currentTool
      · obtain ⟨capable, equipped⟩ := ready
        simp [remainingTime, toolAtEnd, plan, leftInProcess, next, queue, time, cooking, capable,
          equipped, processable, cookingTime, toolAfter]
      · simp [remainingTime, toolAtEnd, plan, leftInProcess, next, queue, time, cooking, ready]

theorem balanced_next {w : Work} (cooking : w.recipeId ≠ 0) (time : w.timeLeft = none)
    (overallTime : w.overallTime = w.remainingTime % 2 ^ 32)
    (lastEquippedTool : w.lastEquippedTool = w.toolAtEnd) : Balanced w.next := by
  obtain ⟨remaining, tool⟩ := next_remaining w cooking time
  refine ⟨?_, ?_, fun resting => absurd resting cooking⟩
  · rw [remaining]
    exact overallTime
  · rw [tool]
    exact lastEquippedTool

theorem Balanced.queueOrder {w : Work} (balanced : Balanced w) (task : Task)
    (recipe : Recipe) : Balanced (w.queueOrder task recipe) := by
  have plan : (w.queueOrder task recipe).plan = w.plan ++
      processable w.capabilities (recipe.actionQueue.drop task.overallProcessedSteps) := by
    simp only [Work.plan, Work.queueOrder, List.flatMap_append, List.flatMap_cons,
      List.flatMap_nil, List.append_nil, List.append_assoc]
    rfl
  refine ⟨?_, ?_, balanced.resting⟩
  · have counted := computeLoad_overallTime w.capabilities
      (recipe.actionQueue.drop task.overallProcessedSteps)
      { overallTime := w.overallTime
        lastEquippedTool := w.lastEquippedTool
        processableSteps := 0 } w.remainingTime balanced.overallTime
    rw [remainingTime, plan, cookingTime_append]
    rw [balanced.lastEquippedTool] at counted
    rw [← Nat.add_assoc]
    simpa only [Work.queueOrder, remainingTime, toolAtEnd, balanced.lastEquippedTool]
      using counted
  · rw [toolAtEnd, plan, toolAfter_append]
    have equipped := computeLoad_lastEquippedTool w.capabilities
      (recipe.actionQueue.drop task.overallProcessedSteps)
      { overallTime := w.overallTime
        lastEquippedTool := w.lastEquippedTool
        processableSteps := 0 }
    rw [balanced.lastEquippedTool] at equipped
    simpa only [Work.queueOrder, toolAtEnd, balanced.lastEquippedTool] using equipped

theorem Balanced.requeue {orders : List Order} {w : Work} (balanced : Balanced w) :
    Balanced (orders.foldl (Work.requeue config) w) := by
  induction orders generalizing w with
  | nil => exact balanced
  | cons order orders ih =>
      rw [List.foldl_cons]
      refine ih ?_
      unfold Work.requeue
      split
      · exact balanced
      · exact balanced.queueOrder _ _

/-- A decrement of the load is exact, whatever was cut off from it. -/
theorem subWord_one (total : Nat) (positive : 1 ≤ total) :
    subWord 32 (total % 2 ^ 32) 1 = (total - 1) % 2 ^ 32 := by
  unfold subWord
  split <;> omega

/-- The head of the queue is done or retooled: that takes one unit off. -/
theorem leftInProcess_front {w : Work} {action : RobotAction} {rest : List RobotAction}
    (cooking : w.recipeId ≠ 0) (front : w.actionQueueInProcess = action :: rest)
    (capable : action.name ∈ w.capabilities) :
    w.leftInProcess =
      if w.timeLeft.isSome then processable w.capabilities rest
      else action :: processable w.capabilities rest := by
  rw [leftInProcess, if_neg cooking, front]
  split
  · rfl
  · simp [processable, capable]

theorem Balanced.retooled {w : Work} (balanced : Balanced w) {action : RobotAction}
    {rest : List RobotAction} (cooking : w.recipeId ≠ 0)
    (front : w.actionQueueInProcess = action :: rest) (capable : action.name ∈ w.capabilities)
    (otherTool : action.requiredTool ≠ w.currentTool) (time : w.timeLeft = none) :
    Balanced (w.equip action.requiredTool).next := by
  have left := leftInProcess_front cooking front capable
  rw [time, Option.isSome_none, if_neg Bool.false_ne_true] at left
  have plan : (w.equip action.requiredTool).plan = w.plan := rfl
  have before : w.plan = action :: (processable w.capabilities rest ++
      w.orderQueue.flatMap fun order => processable w.capabilities order.actionQueue) := by
    rw [Work.plan, left, List.cons_append]
  have remaining : w.remainingTime = (w.equip action.requiredTool).remainingTime + 1 := by
    have timeAfter : (w.equip action.requiredTool).timeLeft = none := time
    rw [remainingTime, remainingTime, plan, before, time, timeAfter]
    simp only [cookingTime, equip, otherTool.symm, ne_eq, not_false_eq_true, if_true, not_true,
      if_false, retoolingTime]
    omega
  refine balanced_next cooking time ?_ ?_
  · have counted : (w.equip action.requiredTool).overallTime = subWord 32 w.overallTime 1 := rfl
    rw [counted, balanced.overallTime, subWord_one _ (by omega), remaining]
    rfl
  · rw [toolAtEnd, plan, before]
    have same := balanced.lastEquippedTool
    rw [toolAtEnd, before] at same
    exact same

theorem Balanced.ticked {w : Work} (balanced : Balanced w) {left : Nat}
    (cooking : w.recipeId ≠ 0) (time : w.timeLeft = some left) (positive : 1 ≤ left) :
    Balanced (w.countDown left) := by
  have counted : subWord 64 left timeUnitUpdateRate = left - 1 := if_pos positive
  have plan : (w.countDown left).plan = w.plan := by
    simp only [Work.plan, leftInProcess, countDown, time, Option.isSome_some]
  have remaining : w.remainingTime = (w.countDown left).remainingTime + 1 := by
    rw [remainingTime, remainingTime, plan, time]
    simp only [countDown, counted, Option.getD_some]
    omega
  refine ⟨?_, ?_, fun resting => absurd resting cooking⟩
  · have decrement : (w.countDown left).overallTime = subWord 32 w.overallTime 1 := rfl
    rw [decrement, balanced.overallTime, subWord_one _ (by omega), remaining]
    rfl
  · rw [toolAtEnd, plan]
    exact balanced.lastEquippedTool

theorem Balanced.performed {w : Work} (balanced : Balanced w) {action : RobotAction}
    {rest : List RobotAction} {left : Nat} (cooking : w.recipeId ≠ 0)
    (front : w.actionQueueInProcess = action :: rest) (capable : action.name ∈ w.capabilities)
    (time : w.timeLeft = some left) (positive : 1 ≤ left)
    (elapsed : subWord 64 left timeUnitUpdateRate = 0) :
    Balanced ((w.countDown left).countStep rest).next := by
  have counted : subWord 64 left timeUnitUpdateRate = left - 1 := if_pos positive
  have last : left = 1 := by
    have elapsed : left - 1 = 0 := counted.symm.trans elapsed
    omega
  have queue := leftInProcess_front cooking front capable
  rw [time, Option.isSome_some, if_pos rfl] at queue
  -- the clock stands at 0, `next` sets it anew
  have stopped : ((w.countDown left).countStep rest).next =
      { (w.countDown left).countStep rest with timeLeft := none }.next := rfl
  have plan : { (w.countDown left).countStep rest with timeLeft := none }.plan = w.plan := by
    rw [Work.plan, Work.plan, queue]
    simp [leftInProcess, countStep, countDown, cooking]
  have remaining : w.remainingTime =
      { (w.countDown left).countStep rest with timeLeft := none }.remainingTime + 1 := by
    rw [remainingTime, remainingTime, plan, time]
    simp only [countStep, countDown, Option.getD_some, Option.getD_none, last]
    omega
  rw [stopped]
  refine balanced_next cooking rfl ?_ ?_
  · have decrement : { (w.countDown left).countStep rest with timeLeft := none }.overallTime =
        subWord 32 w.overallTime 1 := rfl
    rw [decrement, balanced.overallTime, subWord_one _ (by omega), remaining]
    rfl
  · rw [toolAtEnd, plan]
    exact balanced.lastEquippedTool

theorem next_ticking {w : Work} (lasting : ∀ action ∈ w.actionQueueInProcess, 1 ≤ action.duration)
    (left : Nat) (running : w.next.timeLeft = some left) : 1 ≤ left := by
  cases queue : w.actionQueueInProcess with
  | nil => simp [next, queue] at running
  | cons action rest =>
      simp only [next, queue] at running
      split at running
      · cases running
        exact lasting action (by simp [queue])
      · contradiction

theorem requeue_timeLeft (orders : List Order) (w : Work) :
    (orders.foldl (Work.requeue config) w).timeLeft = w.timeLeft := by
  induction orders generalizing w with
  | nil => rfl
  | cons order orders ih =>
      rw [List.foldl_cons, ih, Work.requeue]
      split <;> rfl

end Work

def ActionsLast (config : Config) : Prop :=
  ∀ recipeId recipe, config.recipeParser.getRecipe recipeId = some recipe →
    ∀ action ∈ recipe.actionQueue, 1 ≤ action.duration

theorem Readable.lasting {w : Work} (readable : Readable config w) (last : ActionsLast config)
    (cooking : w.recipeId ≠ 0) : ∀ action ∈ w.actionQueueInProcess, 1 ≤ action.duration := by
  intro action member
  obtain ⟨recipe, known, _, queue⟩ := readable.inProcess cooking
  rw [queue] at member
  exact last _ recipe known action (List.mem_of_mem_drop member)

/-- What counts is that an action's clock does not run below 0. -/
theorem Work.Step.balanced {state : RobotState} {w w' : Work} (readable : Readable config w)
    (balanced : w.Balanced) (step : Work.Step config state w w' outputs)
    (positive : ∀ left, w.timeLeft = some left → (w'.timeLeft = w.timeLeft →
      w'.actionQueueInProcess ≠ w.actionQueueInProcess) → 1 ≤ left) : w'.Balanced := by
  cases step with
  | same => exact balanced
  | accepted => exact ⟨balanced.1, balanced.2, balanced.3⟩
  | queued task tasks recipe =>
      have taken : Balanced { w with tasks := tasks } := ⟨balanced.1, balanced.2, balanced.3⟩
      exact taken.queueOrder task recipe
  | rested => exact ⟨balanced.1, balanced.2, balanced.3⟩
  | started available nextOrder rest front resting =>
      obtain ⟨recipe, known, _, queue⟩ := readable.orders nextOrder (by simp [front])
      have cooking := config.recipeParser.id_ne_zero known
      have time := balanced.resting resting
      have plan : (w.startOrder nextOrder rest).plan = w.plan := by
        simp [Work.plan, leftInProcess, startOrder, resting, cooking, time, front]
      have remaining : (w.startOrder nextOrder rest).remainingTime = w.remainingTime := by
        rw [remainingTime, plan]
        rfl
      refine balanced_next cooking time ?_ ?_
      · rw [remaining]
        exact balanced.overallTime
      · rw [toolAtEnd, plan]
        exact balanced.lastEquippedTool
  | retooled action rest cooking front capable otherTool time =>
      exact balanced.retooled cooking front capable otherTool time
  | ticked action rest cooking front capable equipped left time =>
      refine balanced.ticked cooking time (positive left time ?_)
      intro standing
      rw [time, countDown, Option.some.injEq, subWord] at standing
      split at standing <;> simp only [timeUnitUpdateRate] at * <;> omega
  | performed action rest cooking front capable equipped left time elapsed =>
      refine balanced.performed cooking front capable time (positive left time ?_) elapsed
      intro _
      rw [front]
      exact (List.cons_ne_self action rest).symm
  | handedOver reply cooking time recipeId steps finished stuck =>
      have empty : w.leftInProcess = [] := by
        rw [leftInProcess, if_neg cooking, time]
        cases queue : w.actionQueueInProcess with
        | nil => rfl
        | cons action rest => simp [processable, stuck action rest queue]
      have plan : w.releaseDish.plan = w.plan := by
        rw [Work.plan, Work.plan, empty]
        simp [leftInProcess, releaseDish]
      refine ⟨?_, ?_, fun _ => time⟩
      · rw [remainingTime, plan]
        exact balanced.overallTime
      · rw [toolAtEnd, plan]
        exact balanced.lastEquippedTool
  | reconfigured _ _ _ _ action requeued forgotten resting =>
      have time := balanced.resting resting
      have emptied : (w.reequip ‹_› action.requiredTool).Balanced := by
        refine ⟨?_, ?_, balanced.resting⟩
        · simp [remainingTime, Work.plan, leftInProcess, reequip, resting, time, cookingTime]
        · simp [toolAtEnd, Work.plan, leftInProcess, reequip, resting, toolAfter]
      exact emptied.requeue

theorem Work.Step.ticking {state : RobotState} {w w' : Work} (last : ActionsLast config)
    (readable : Readable config w) (accounted : w.Accounted)
    (step : Work.Step config state w w' outputs) :
    ∀ left, w'.timeLeft = some left → 1 ≤ left := by
  cases step with
  | same | accepted | queued | rested | handedOver => exact accounted.ticking
  | started available nextOrder rest front resting =>
      obtain ⟨recipe, known, _, queue⟩ := readable.orders nextOrder (by simp [front])
      refine next_ticking ?_
      intro action member
      have member : action ∈ nextOrder.actionQueue := member
      rw [queue] at member
      exact last _ recipe known action (List.mem_of_mem_drop member)
  | retooled action rest cooking =>
      exact next_ticking (readable.lasting last cooking)
  | ticked action rest cooking front capable equipped left time goesOn =>
      intro still running
      have running : subWord 64 left timeUnitUpdateRate = still := Option.some.inj running
      have notOver : still ≠ 0 := by
        rw [← running]
        exact goesOn
      omega
  | performed action rest cooking front =>
      refine next_ticking ?_
      intro later member
      exact readable.lasting last cooking later (by rw [front]; exact List.mem_cons_of_mem _ member)
  | reconfigured =>
      rw [requeue_timeLeft]
      exact accounted.ticking

theorem Work.Step.accounted {state : RobotState} {w w' : Work} (last : ActionsLast config)
    (readable : Readable config w) (accounted : w.Accounted)
    (step : Work.Step config state w w' outputs) : w'.Accounted := by
  have balanced := step.balanced readable accounted.balanced
    (fun left running _ => accounted.ticking left running)
  exact
    { overallTime := balanced.overallTime
      lastEquippedTool := balanced.lastEquippedTool
      ticking := step.ticking last readable accounted
      resting := balanced.resting }

theorem initial_accounted (started : Started config r) : (work r).Accounted := by
  obtain ⟨position, _, capabilities, _, action, _, _, _, rfl⟩ := started
  constructor <;>
    simp [work, initial, timeLeft, TimerOutstanding, Work.remainingTime, Work.toolAtEnd,
      Work.plan, Work.leftInProcess, cookingTime, toolAfter]

theorem reaches_accounted (last : ActionsLast config) {history : History Event Output}
    (reached : (machine config).Reaches CommitsOnce history r) : (work r).Accounted :=
  reached.history_invariant (fun _ started => initial_accounted started)
    (fun _ _ _ _ _ earlier accounted permitted taken =>
      have sound := reaches_sound (fun _ _ permitted => permitted) earlier
      (step_sound sound permitted taken).2.accounted last sound.readable accounted)

theorem Work.Accounted.tick_counts (accounted : (work r).Accounted)
    (due : TimerOutstanding r .passTime) :
    timeUnitUpdateRate ≤ r.currentActionDuration ∧
      timeUnitUpdateRate ≤ (work r).remainingTime := by
  have time : (work r).timeLeft = some r.currentActionDuration := if_pos due
  have positive : 1 ≤ r.currentActionDuration := accounted.ticking _ time
  refine ⟨positive, ?_⟩
  rw [Work.remainingTime, time]
  exact positive.trans (Nat.le_add_right _ _)

theorem Sound.retooling_counts (sound : Sound config r) (due : TimerOutstanding r .retool) :
    retoolingTime ≤ (work r).remainingTime := by
  obtain ⟨action, rest, front, capable, otherTool⟩ := sound.handwork.retooling due
  have cooking := sound.one.cooking (.inl due)
  have left := Work.leftInProcess_front (w := work r) cooking front capable
  rw [Work.remainingTime, Work.plan, left]
  split
  next performing =>
    -- the one timer cannot serve an action as well
    have other : TimerOutstanding r .passTime := by
      by_contra idle
      rw [show (work r).timeLeft = none from if_neg idle] at performing
      contradiction
    obtain ⟨action', rest', front', _, equipped⟩ := sound.handwork.performing other
    rw [front] at front'
    cases front'
    exact absurd equipped otherTool
  next =>
    have change : (work r).currentTool ≠ action.requiredTool := otherTool.symm
    simp only [List.cons_append, cookingTime, if_pos change]
    omega

/-- The published load is the time still to be spent, as long as that fits its
attribute, the published tool is the one the robot will end with, and neither
counter is decremented below zero. -/
theorem load_is_remaining_time (config : Config) (history : History Event Output) (r : Robot)
    (last : ActionsLast config) (reached : (machine config).Reaches CommitsOnce history r)
    (fits : (work r).remainingTime < 2 ^ 32) :
    r.attributes.overallTime = (work r).remainingTime ∧
    r.attributes.lastEquippedTool = (work r).toolAtEnd ∧
    (TimerOutstanding r .passTime → timeUnitUpdateRate ≤ r.currentActionDuration ∧
      timeUnitUpdateRate ≤ r.attributes.overallTime) ∧
    (TimerOutstanding r .retool → retoolingTime ≤ r.attributes.overallTime) := by
  have sound := reaches_sound (fun _ _ permitted => permitted) reached
  have accounted := reaches_accounted last reached
  have published : r.attributes.overallTime = (work r).remainingTime := by
    have counted := accounted.overallTime
    rw [Nat.mod_eq_of_lt fits] at counted
    exact counted
  refine ⟨published, accounted.lastEquippedTool, ?_, ?_⟩
  · intro due
    rw [published]
    exact accounted.tick_counts due
  · intro due
    rw [published]
    exact sound.retooling_counts due

theorem deployment_actionsLast : ActionsLast deployment := by
  have all : ∀ recipe ∈ recipes, ∀ action ∈ recipe.actionQueue, 1 ≤ action.duration := by decide
  intro recipeId recipe known
  exact all recipe (RecipeParser.mem_of_getRecipe (by decide) known)

/-- The mixing robot has whipped for one unit, with the rest of one dessert
and a second one before it. -/
theorem mixing_robot_load :
    ∃ history r, (machine deployment).Reaches CommitsOnce history r ∧
      r.attributes.overallTime = 26 ∧ (work r).remainingTime = 26 ∧
      r.attributes.overallTime = (work r).remainingTime ∧
      r.attributes.lastEquippedTool = (work r).toolAtEnd := by
  obtain ⟨history, r, reached, shown⟩ := Machine.exists_reaches_of_replay
    (machine deployment) CommitsOnce mixingRobot_started
    [.receiveTask ⟨3, 0, 1⟩ 3, .runHandler "whip", .cookNextOrder, .receiveTask ⟨3, 0, 2⟩ 3,
     .runHandler "whip", .timerExpires, .runHandler "whip"]
    (fun _ r => decide (r.attributes.overallTime = 26 ∧ (work r).remainingTime = 26)) (by decide)
  obtain ⟨published, remaining⟩ := of_decide_eq_true shown
  have accounted := load_is_remaining_time deployment history r deployment_actionsLast reached
    (by omega)
  exact ⟨history, r, reached, published, remaining, accounted.1, accounted.2.1⟩

end CpsKitchen.RobotAgent
