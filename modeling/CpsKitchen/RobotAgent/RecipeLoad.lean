import CpsKitchen.AcceptedRecipes
import CpsKitchen.RobotAgent.Execution
import Mathlib.Data.List.TakeWhile

/-!
# The load of a recipe

The parser adds up a recipe over adjacent pairs of a growing queue, the robot
over the tool it was left with last. They differ by the change to the first
tool only. A queue may be accounted in parts, because what the robot stores in
between is all it goes on from.
-/

namespace CpsKitchen.RobotAgent

open CpsKitchen.Recipes CpsKitchen.RecipeFile

set_option autoImplicit false

section Totals

theorem processable_all {capabilities : Finset String} {actionQueue : List RobotAction}
    (capable : ∀ action ∈ actionQueue, action.name ∈ capabilities) :
    processable capabilities actionQueue = actionQueue := by
  apply List.takeWhile_eq_self_iff.mpr
  intro action member
  exact decide_eq_true (capable action member)

/-- The robot counts the change to the first tool, the parser does not. -/
theorem cookingTime_cons (tool : RobotTool) (first : RobotAction) (rest : List RobotAction) :
    cookingTime tool (first :: rest) =
      (if tool ≠ first.requiredTool then retoolingTime else 0) +
        (durations (first :: rest) + retoolingTime * toolChanges (first :: rest)) := by
  induction rest generalizing tool first with
  | nil => simp [cookingTime, durations, toolChanges]
  | cons second rest ih =>
      have total : durations (first :: second :: rest) =
          first.duration + durations (second :: rest) := by simp [durations]
      rw [cookingTime, ih, total, toolChanges, Nat.mul_add]
      have change : (if first.requiredTool ≠ second.requiredTool then retoolingTime else 0) =
          retoolingTime * if first.requiredTool ≠ second.requiredTool then 1 else 0 := by
        split
        · rw [Nat.mul_one]
        · rw [Nat.mul_zero]
      rw [change]
      omega

theorem toolAfter_eq {actionQueue : List RobotAction} {last : RobotAction} (tool : RobotTool)
    (back : actionQueue.getLast? = some last) : toolAfter tool actionQueue = last.requiredTool := by
  induction actionQueue generalizing tool with
  | nil => cases back
  | cons action rest ih =>
      rw [toolAfter]
      cases rest with
      | nil =>
          cases back
          rfl
      | cons second rest => exact ih action.requiredTool (by rwa [List.getLast?_cons_cons] at back)

/-- The robot's load after a queue it can do, from what is published. -/
theorem compute_spec {r : Robot} {actionQueue : List RobotAction}
    (capable : ∀ action ∈ actionQueue, action.name ∈ r.capabilities)
    (fits : r.attributes.overallTime < 2 ^ 32) :
    (computeOverallTimeAndDetermineLastTool r actionQueue).1.attributes.overallTime =
      (r.attributes.overallTime + cookingTime r.attributes.lastEquippedTool actionQueue) % 2 ^ 32 ∧
    (computeOverallTimeAndDetermineLastTool r actionQueue).1.attributes.lastEquippedTool =
      toolAfter r.attributes.lastEquippedTool actionQueue ∧
    (computeOverallTimeAndDetermineLastTool r actionQueue).2 = actionQueue.length := by
  have all := processable_all capable
  refine ⟨?_, ?_, ?_⟩
  · have time := computeLoad_overallTime r.capabilities actionQueue
      { overallTime := r.attributes.overallTime
        lastEquippedTool := r.attributes.lastEquippedTool
        processableSteps := 0 } r.attributes.overallTime (Nat.mod_eq_of_lt fits).symm
    rw [all] at time
    exact time
  · have tool := computeLoad_lastEquippedTool r.capabilities actionQueue
      { overallTime := r.attributes.overallTime
        lastEquippedTool := r.attributes.lastEquippedTool
        processableSteps := 0 }
    rw [all] at tool
    exact tool
  · have steps := computeLoad_processableSteps r.capabilities actionQueue
      { overallTime := r.attributes.overallTime
        lastEquippedTool := r.attributes.lastEquippedTool
        processableSteps := 0 }
    rw [all] at steps
    exact steps.trans (Nat.zero_add _)

end Totals

section Parts

theorem computeLoad_append {capabilities : Finset String} {first : List RobotAction}
    (capable : ∀ action ∈ first, action.name ∈ capabilities) (second : List RobotAction)
    (load : Load) :
    computeLoad capabilities load (first ++ second) =
      computeLoad capabilities (computeLoad capabilities load first) second := by
  induction first generalizing load with
  | nil => rfl
  | cons action rest ih =>
      have here := capable action List.mem_cons_self
      rw [List.cons_append, computeLoad, if_pos here, computeLoad, if_pos here]
      exact ih (fun later member => capable later (List.mem_cons_of_mem _ member)) _

theorem computeLoad_counted (capabilities : Finset String) (actionQueue : List RobotAction)
    (load : Load) (counted : Nat) :
    computeLoad capabilities { load with processableSteps := counted + load.processableSteps }
        actionQueue =
      { computeLoad capabilities load actionQueue with
        processableSteps :=
          counted + (computeLoad capabilities load actionQueue).processableSteps } := by
  induction actionQueue generalizing load with
  | nil => rfl
  | cons action rest ih =>
      by_cases capable : action.name ∈ capabilities
      · rw [computeLoad, if_pos capable, computeLoad, if_pos capable]
        exact ih (load.add action)
      · rw [computeLoad, if_neg capable, computeLoad, if_neg capable]

theorem compute_append (r : Robot) {first : List RobotAction}
    (capable : ∀ action ∈ first, action.name ∈ r.capabilities) (second : List RobotAction) :
    let once := computeOverallTimeAndDetermineLastTool r first
    let twice := computeOverallTimeAndDetermineLastTool once.1 second
    let whole := computeOverallTimeAndDetermineLastTool r (first ++ second)
    twice.1 = whole.1 ∧ once.2 + twice.2 = whole.2 := by
  simp only [computeOverallTimeAndDetermineLastTool]
  rw [computeLoad_append capable]
  generalize computeLoad r.capabilities
    { overallTime := r.attributes.overallTime
      lastEquippedTool := r.attributes.lastEquippedTool
      processableSteps := 0 } first = stored
  have restarted := computeLoad_counted r.capabilities second
    { stored with processableSteps := 0 } stored.processableSteps
  have same : computeLoad r.capabilities stored second =
      { computeLoad r.capabilities { stored with processableSteps := 0 } second with
        processableSteps := stored.processableSteps + (computeLoad r.capabilities
          { stored with processableSteps := 0 } second).processableSteps } := restarted
  rw [same]
  exact ⟨rfl, rfl⟩

end Parts

/-- An accepted recipe raises the published load by the times the parser has
added up and by the change to its first tool. A queue that the robot can do may
be split anywhere. -/
theorem load_of_recipe {recipes : Json.Value} {recipeMap : RecipeMap}
    (accepted : recipeParser recipes = .ok recipeMap) {recipeId : RecipeId}
    {recipe : ParsedRecipe} (known : getRecipe recipeMap recipeId = some recipe)
    {first last : RobotAction} (front : recipe.actionQueue.head? = some first)
    (back : recipe.actionQueue.getLast? = some last) {r : Robot}
    (capable : ∀ action ∈ recipe.actionQueue, action.name ∈ r.capabilities)
    (fits : r.attributes.overallTime + (recipe.cookingTime + recipe.retoolingTime) +
      (if r.attributes.lastEquippedTool ≠ first.requiredTool then retoolingTime else 0) < 2 ^ 32) :
    ((computeOverallTimeAndDetermineLastTool r recipe.actionQueue).1.attributes.overallTime =
        r.attributes.overallTime + (recipe.cookingTime + recipe.retoolingTime) +
          (if r.attributes.lastEquippedTool ≠ first.requiredTool then retoolingTime else 0) ∧
      (computeOverallTimeAndDetermineLastTool r recipe.actionQueue).1.attributes.lastEquippedTool =
        last.requiredTool ∧
      (computeOverallTimeAndDetermineLastTool r recipe.actionQueue).2 =
        recipe.actionQueue.length) ∧
    ∀ (robot : Robot) (one two : List RobotAction),
      (∀ action ∈ one ++ two, action.name ∈ robot.capabilities) →
        let once := computeOverallTimeAndDetermineLastTool robot one
        let twice := computeOverallTimeAndDetermineLastTool once.1 two
        let whole := computeOverallTimeAndDetermineLastTool robot (one ++ two)
        twice.1.attributes.overallTime = whole.1.attributes.overallTime ∧
        twice.1.attributes.lastEquippedTool = whole.1.attributes.lastEquippedTool ∧
        once.2 + twice.2 = whole.2 := by
  constructor
  · obtain ⟨time, tool, steps⟩ := compute_spec capable (by omega)
    refine ⟨?_, ?_, steps⟩
    · rcases parseRecipes_from accepted known with before | ⟨_, _, totals⟩
      · cases before
      · obtain ⟨rest, queue⟩ := List.head?_eq_some_iff.mp front
        have spent := cookingTime_cons r.attributes.lastEquippedTool first rest
        have cooked := totals.cookingTime
        have retooled := totals.retoolingTime
        rw [queue] at time cooked retooled
        rw [queue, time, spent]
        rw [retoolingTime, Nat.one_mul] at *
        omega
    · rw [tool]
      exact toolAfter_eq _ back
  · intro robot one two capable
    obtain ⟨stored, counted⟩ := compute_append robot
      (fun action member => capable action (List.mem_append_left _ member)) two
    exact ⟨by rw [stored], by rw [stored], counted⟩

def dessertRobot : Robot := initial 3 {"whip", "mix", "crush", "layer", "sprinkle"} .pan

/-- It takes the times that are added up for the recipe and changes from its
pan to the whisk first. -/
theorem load_of_dessert :
    ∃ recipe : ParsedRecipe, recipe.cookingTime = 16 ∧ recipe.retoolingTime = 4 ∧
      (computeOverallTimeAndDetermineLastTool dessertRobot
        recipe.actionQueue).1.attributes.overallTime = 0 + (16 + 4) + 1 := by
  have checked : (recipeParser recipesJson).toOption.any (fun recipeMap =>
      (getRecipe recipeMap 3).any fun recipe =>
        decide (recipe.cookingTime = 16 ∧ recipe.retoolingTime = 4 ∧
          recipe.actionQueue.head? = some ⟨"whip", .whisk, "cream, sugar, vanilla sugar", 3⟩ ∧
          recipe.actionQueue.getLast? = some ⟨"sprinkle", .ingredientDispenser, "cookies", 1⟩ ∧
          ∀ action ∈ recipe.actionQueue, action.name ∈ dessertRobot.capabilities)) = true := by
    decide
  obtain ⟨recipeMap, accepted, checked⟩ := exists_ok _ checked
  obtain ⟨recipe, known, checked⟩ := Option.any_eq_true _ _ |>.mp checked
  obtain ⟨cooking, retooling, front, back, capable⟩ := of_decide_eq_true checked
  have fits : dessertRobot.attributes.overallTime +
      (recipe.cookingTime + recipe.retoolingTime) +
      (if dessertRobot.attributes.lastEquippedTool ≠ RobotTool.whisk then retoolingTime else 0) <
        2 ^ 32 := by
    rw [cooking, retooling]
    decide
  have load := (load_of_recipe accepted known front back capable fits).1.1
  refine ⟨recipe, cooking, retooling, ?_⟩
  rw [load, cooking, retooling]
  rfl

end CpsKitchen.RobotAgent
