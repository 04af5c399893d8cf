import CpsKitchen.RobotAgent.Rest
import Mathlib.Algebra.Order.BigOperators.Group.List
import Mathlib.Algebra.Order.Group.Nat

/-!
# What a task costs a robot

A step of a robot that is left alone makes its workload smaller, also where the
load is too large for the attribute that publishes it. A task adds no more than
the time of all actions of its recipe, each with a change of the tool.
-/

namespace CpsKitchen.RobotAgent

open CpsKitchen.Reactive CpsKitchen.Recipes

set_option autoImplicit false

variable {config : Config} {r after : Robot} {event : Event} {outputs : List Output}

section Payment

/-- One unit is taken off the published load, which wraps below 0. -/
structure Pays (r after : Robot) : Prop where
  overallTime : after.attributes.overallTime = subWord 32 r.attributes.overallTime 1
  lastEquippedTool : after.attributes.lastEquippedTool = r.attributes.lastEquippedTool
  tasks : postedTasks after = postedTasks r
  capabilities : after.capabilities = r.capabilities

theorem Pays.trans {middle : Robot} (pays : Pays r middle) (spends : Spends 0 middle after) :
    Pays r after where
  overallTime := by
    rw [← pays.overallTime, ← spends.overallTime, Nat.add_zero]
  lastEquippedTool := spends.lastEquippedTool.trans pays.lastEquippedTool
  tasks := spends.tasks.trans pays.tasks
  capabilities := spends.capabilities.trans pays.capabilities

theorem handles_pays {capability : String} {handler : Handler} {posted : List Handler}
    (next : r.posted = handler :: posted) (spends : handler.spendsUnit = true)
    (ran : Handles config (takeHandler r posted) capability handler after outputs) :
    Pays r after := by
  cases ran with
  | taskForgotten | taskQueued | entered | targeted | rearranges | postponed | reconfigures
  | committed | moved | completed | aborted => contradiction
  | retooled action =>
      have equipped : Pays r (equip (takeHandler r posted) action.requiredTool) :=
        ⟨rfl, rfl, postedTasks_take next rfl, rfl⟩
      exact equipped.trans (determineNextAction_spends _)
  | ticked =>
      have counted : Pays r (countDown (takeHandler r posted)) :=
        ⟨rfl, rfl, postedTasks_take next rfl, rfl⟩
      exact counted.trans ((Spends.refl _).armTimer _ _)
  | performed action rest =>
      have counted : Pays r (countStep (countDown (takeHandler r posted)) rest) :=
        ⟨rfl, rfl, postedTasks_take next rfl, rfl⟩
      exact counted.trans (determineNextAction_spends _)

theorem subWord_ne {load : Nat} (fits : load < 2 ^ 32) : subWord 32 load 1 ≠ load := by
  unfold subWord
  split <;> omega

/-- The load is known up to a multiple of a word, so it cannot stay as it is. -/
theorem Pays.timeToRest_ne (config : Config) (pays : Pays r after)
    (before : (work r).Accounted) (accounted : (work after).Accounted) :
    (work after).timeToRest config ≠ (work r).timeToRest config := by
  have plan : (work after).tasksPlan config = (work r).tasksPlan config := by
    rw [Work.tasksPlan, Work.tasksPlan]
    simp only [work, pays.tasks, pays.capabilities]
  have tool : (work after).toolAtEnd = (work r).toolAtEnd := by
    rw [← accounted.lastEquippedTool, ← before.lastEquippedTool]
    exact pays.lastEquippedTool
  intro same
  rw [Work.timeToRest, Work.timeToRest, plan, tool] at same
  have remaining := Nat.add_right_cancel same
  have load : r.attributes.overallTime = (work r).remainingTime % 2 ^ 32 := before.overallTime
  have loadAfter : after.attributes.overallTime = (work after).remainingTime % 2 ^ 32 :=
    accounted.overallTime
  rw [remaining, ← load, pays.overallTime] at loadAfter
  have fits : r.attributes.overallTime < 2 ^ 32 := by
    rw [load]
    exact Nat.mod_lt _ (by decide)
  exact subWord_ne fits loadAfter

theorem step_pays (spends : spendsUnit r event = true) (step : Step config r event after outputs) :
    Pays r after := by
  cases event with
  | runHandler capability =>
      cases step with
      | refused refusal => cases refusal
      | handled _ handler posted idle next ran =>
          have spends : handler.spendsUnit = true := by simpa [spendsUnit, next] using spends
          exact handles_pays next spends ran
  | receiveTask | handoverFinishedOrder | switchPosition | commitNewPosition | reconfigure
  | cookNextOrder | notifyConveyor | timerExpires | conveyorLost | conveyorConnected =>
      contradiction

theorem step_workload_lt (last : ActionsLast config) (steady : Steady config r)
    (accounted : (work r).Accounted) (alone : LeftAlone r event)
    (taken : step config r event = some (after, outputs)) :
    workload config after < workload config r := by
  have reaction := (step_cases taken).2
  have worked := (step_sound steady.toSound alone.commitsOnce taken).2
  have less := worked.timeToRest_le steady.readable accounted steady.state
    (alone.accepts_nothing reaction)
  have fewer := step_chores steady alone taken
  have paid : (work after).timeToRest config + (spendsUnit r event).toNat ≤
      (work r).timeToRest config := by
    cases spends : spendsUnit r event with
    | false => exact less
    | true =>
        have accountedAfter := worked.accounted last steady.readable accounted
        have other := (step_pays spends reaction).timeToRest_ne config accounted accountedAfter
        rw [Bool.toNat_true]
        omega
  unfold workload
  omega

theorem initial_workload (started : Started config r) : workload config r = 0 := by
  obtain ⟨position, _, capabilities, _, action, _, _, _, rfl⟩ := started
  rfl

end Payment

section Tasks

/-- The time of all actions, with a change of the tool before each. -/
def effort (actions : List RobotAction) : Nat :=
  (actions.map fun action => action.duration + retoolingTime).sum

theorem cookingTime_le_effort (tool : RobotTool) (actions : List RobotAction) :
    cookingTime tool actions ≤ effort actions := by
  induction actions generalizing tool with
  | nil => exact le_rfl
  | cons action rest ih =>
      have later := ih action.requiredTool
      simp only [effort, List.map_cons, List.sum_cons] at later ⊢
      simp only [cookingTime]
      split <;> omega

theorem effort_sublist {part actions : List RobotAction} (sublist : part.Sublist actions) :
    effort part ≤ effort actions :=
  (sublist.map _).sum_le_sum (fun _ _ => Nat.zero_le _)

theorem processable_sublist (capabilities : Finset String) (actions : List RobotAction) :
    (processable capabilities actions).Sublist actions := List.takeWhile_sublist _

theorem Work.timeToRest_accepted {w : Work} {task : Task} {recipe : Recipe}
    (known : config.recipeParser.getRecipe task.recipeId = some recipe) :
    { w with tasks := w.tasks ++ [task] }.timeToRest config ≤
      w.timeToRest config + effort recipe.actionQueue := by
  have plan : { w with tasks := w.tasks ++ [task] }.tasksPlan config = w.tasksPlan config ++
      processable w.capabilities (recipe.actionQueue.drop task.overallProcessedSteps) := by
    simp [Work.tasksPlan, known]
  have bound := (cookingTime_le_effort (toolAfter w.toolAtEnd (w.tasksPlan config))
    (processable w.capabilities (recipe.actionQueue.drop task.overallProcessedSteps))).trans
      (effort_sublist ((processable_sublist _ _).trans (List.drop_sublist _ _)))
  have remaining : { w with tasks := w.tasks ++ [task] }.remainingTime = w.remainingTime := rfl
  have tool : { w with tasks := w.tasks ++ [task] }.toolAtEnd = w.toolAtEnd := rfl
  rw [Work.timeToRest, Work.timeToRest, plan, remaining, tool, cookingTime_append]
  omega

/-- The most a task can add to the workload, if no recipe takes longer than the
limit. -/
def taskWeight (limit : Nat) : Nat := 7 + 2 * limit

theorem step_receiveTask {limit : Nat} (steady : Steady config r)
    (bounded : ∀ recipeId recipe, config.recipeParser.getRecipe recipeId = some recipe →
      effort recipe.actionQueue ≤ limit) {task asked : Task} {addressed position : Position}
    {result : Bool}
    (taken : step config r (.receiveTask asked addressed) =
      some (after, [.taskReply task position result])) :
    workload config after ≤ workload config r + if result then taskWeight limit else 0 := by
  have reaction := (step_cases taken).2
  have worked := (step_sound steady.toSound (by simp [CommitsOnce]) taken).2
  cases reaction with
  | refused refusal =>
      cases refusal
      exact le_rfl
  | taskAccepted =>
      have chore := post_chores r (.handleReceiveTask task) (by simp)
      have time : (work (post r (.handleReceiveTask task))).timeToRest config ≤
          (work r).timeToRest config + limit := by
        generalize work (post r (.handleReceiveTask task)) = later at worked ⊢
        cases worked with
        | same plain => simp [Plain, Output.accepted?] at plain
        | accepted _ _ _ recipe _ _ known =>
            have more := Work.timeToRest_accepted (w := work r) known
            have less := bounded _ _ known
            omega
      simp only [Handler.weight] at chore
      simp only [workload, taskWeight, if_true]
      omega

theorem step_handover (last : ActionsLast config) (steady : Steady config r)
    (accounted : (work r).Accounted)
    (taken : step config r .handoverFinishedOrder = some (after, outputs)) :
    workload config after ≤ workload config r := by
  cases pending : r.pendingPickup with
  | true =>
      have alone : LeftAlone r .handoverFinishedOrder := pending
      exact (step_workload_lt last steady accounted alone taken).le
  | false =>
      have reaction := (step_cases taken).2
      cases reaction with
      | refused refusal =>
          cases refusal
          exact le_rfl
      | handedOver waiting => exact absurd (pending.symm.trans waiting) (by decide)

end Tasks

end CpsKitchen.RobotAgent
