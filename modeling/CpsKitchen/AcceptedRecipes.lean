import CpsKitchen.RecipeFile
import Mathlib.Algebra.GroupWithZero.Nat

/-!
# Which recipes the parser accepts

A document with the consecutive ids the README asks for and with values of the
expected types is accepted unless one of its instructions is defective. An
accepted recipe is what its instructions describe, with the right totals.
-/

namespace CpsKitchen.RecipeFile

open CpsKitchen.Recipes CpsKitchen.Json

set_option autoImplicit false

variable {recipeId : RecipeId} {instruction recipe recipes : Value}

section Instructions

/-- The duration of an action, and where it comes from. -/
inductive Lasts (instruction : Value) : Action → Duration → Prop where
  | autonomous (tool : RobotTool) (duration : Duration)
      (absent : instruction.find "duration" = none) :
      Lasts instruction (.autonomous tool duration) duration
  | recipeTimed (tool : RobotTool) (duration : Duration)
      (given : instruction.find "duration" = some (.number duration)) :
      Lasts instruction (.recipeTimed tool) duration

/-- The action that an instruction is about. -/
structure Describes (instruction : Value) (action : RobotAction) : Prop where
  named : instruction.find "action" = some (.string action.name)
  ingredients : instruction.find "ingredients" = some (.string action.ingredients)
  registered : ∃ act, getRobotAction action.name = some act ∧
    act.requiredTool = action.requiredTool ∧ Lasts instruction act action.duration

/-- What may be wrong with an instruction. -/
inductive Defective (instruction : Value) : Prop where
  | lacksAction (missing : instruction.find "action" = none)
  | unregistered (name : String) (named : instruction.find "action" = some (.string name))
      (unknown : ¬ hasAction name)
  | lacksIngredients (missing : instruction.find "ingredients" = none)
  | givesDuration (name : String) (tool : RobotTool) (duration : Duration)
      (named : instruction.find "action" = some (.string name))
      (registered : getRobotAction name = some (.autonomous tool duration))
      (given : instruction.find "duration" ≠ none)
  | omitsDuration (name : String) (tool : RobotTool)
      (named : instruction.find "action" = some (.string name))
      (registered : getRobotAction name = some (.recipeTimed tool))
      (missing : instruction.find "duration" = none)

/-- The members that are there have the expected types. -/
structure TypedInstruction (instruction : Value) : Prop where
  isObject : instruction.isObject = true
  action : (instruction.find "action").all Value.isString = true
  ingredients : (instruction.find "ingredients").all Value.isString = true
  duration : (instruction.find "duration").all Value.isUInt = true

instance (instruction : Value) : Decidable (TypedInstruction instruction) :=
  decidable_of_iff
    (instruction.isObject = true ∧ (instruction.find "action").all Value.isString = true ∧
      (instruction.find "ingredients").all Value.isString = true ∧
      (instruction.find "duration").all Value.isUInt = true)
    ⟨fun ⟨isObject, action, ingredients, duration⟩ => ⟨isObject, action, ingredients, duration⟩,
      fun ⟨isObject, action, ingredients, duration⟩ => ⟨isObject, action, ingredients, duration⟩⟩

theorem exists_string {member : Option Value} (typed : member.all Value.isString = true)
    {value : Value} (found : member = some value) : ∃ text, value = .string text := by
  rw [found] at typed
  exact Value.exists_of_isString typed

theorem Describes.not_defective {action : RobotAction} (describes : Describes instruction action) :
    ¬ Defective instruction := by
  obtain ⟨named, ingredients, act, registered, _, lasts⟩ := describes
  have same : ∀ {name}, instruction.find "action" = some (.string name) →
      getRobotAction name = some act := by
    intro name other
    rw [named] at other
    cases other
    exact registered
  intro defective
  cases defective with
  | lacksAction missing =>
      rw [missing] at named
      cases named
  | unregistered name other unknown => exact unknown (by rw [hasAction, same other]; rfl)
  | lacksIngredients missing =>
      rw [missing] at ingredients
      cases ingredients
  | givesDuration name tool duration other isAutonomous given =>
      rw [same other] at isAutonomous
      cases isAutonomous
      cases lasts with
      | autonomous _ _ absent => exact given absent
  | omitsDuration name tool other isRecipeTimed missing =>
      rw [same other] at isRecipeTimed
      cases isRecipeTimed
      cases lasts with
      | recipeTimed _ _ given =>
          rw [missing] at given
          cases given

theorem actionTime_given (tool : RobotTool) {duration : Nat} (fits : duration < 2 ^ 32)
    {members : List (String × Value)}
    (given : (Value.object members).find "duration" = some (.number duration)) :
    actionTime (.object members) (.recipeTimed tool) = some duration := by
  rw [actionTime, Value.get_object, given, Option.getD_some, Option.bind_some,
    Value.asUInt_number fits]

/-- Something is accepted as it describes an action, or it is rejected for a
defect. -/
def Judged (instruction : Value) (result : Except Exception RobotAction) : Prop :=
  (∃ action, result = .ok action ∧ Describes instruction action) ∨
  ∃ text, result = .error (.invalidArgument text) ∧ Defective instruction

theorem useAction_judged (recipeId : RecipeId) {members : List (String × Value)}
    (typed : TypedInstruction (.object members)) {name : String}
    (named : (Value.object members).find "action" = some (.string name)) {act : Action}
    (registered : getRobotAction name = some act) :
    Judged (.object members) (useAction recipeId (.object members) name act) := by
  cases act with
  | autonomous tool duration =>
      cases given : (Value.object members).find "duration" with
      | some value =>
          right
          refine ⟨mustNotContainDuration name recipeId, ?_, ?_⟩
          · simp [useAction, converted, isAutonomous, given, bind, Except.bind]
          · exact .givesDuration name tool duration named registered (by simp [given])
      | none =>
          cases ingredients : (Value.object members).find "ingredients" with
          | none =>
              right
              refine ⟨noIngredients name recipeId, ?_, .lacksIngredients ingredients⟩
              simp [useAction, converted, isAutonomous, given, ingredients, bind, Except.bind]
          | some value =>
              obtain ⟨text, rfl⟩ := exists_string typed.ingredients ingredients
              left
              refine ⟨⟨name, tool, text, duration⟩, ?_, named, ingredients, _, registered, rfl,
                .autonomous tool duration given⟩
              simp [useAction, converted, isAutonomous, actionTime, given, ingredients,
                Value.asString, Action.requiredTool, bind, Except.bind]
  | recipeTimed tool =>
      cases given : (Value.object members).find "duration" with
      | none =>
          right
          refine ⟨mustContainDuration name recipeId, ?_, ?_⟩
          · simp [useAction, converted, isAutonomous, given, bind, Except.bind]
          · exact .omitsDuration name tool named registered given
      | some value =>
          have typedDuration := typed.duration
          rw [given] at typedDuration
          obtain ⟨duration, fits, rfl⟩ := Value.exists_of_isUInt typedDuration
          cases ingredients : (Value.object members).find "ingredients" with
          | none =>
              right
              refine ⟨noIngredients name recipeId, ?_, .lacksIngredients ingredients⟩
              simp [useAction, converted, isAutonomous, given, ingredients, bind, Except.bind]
          | some value =>
              obtain ⟨text, rfl⟩ := exists_string typed.ingredients ingredients
              have time := actionTime_given tool fits given
              left
              refine ⟨⟨name, tool, text, duration⟩, ?_, named, ingredients, _, registered, rfl,
                .recipeTimed tool duration given⟩
              simp [useAction, converted, isAutonomous, time, given, ingredients,
                Value.asString, Action.requiredTool, bind, Except.bind]

theorem parseInstruction_judged (recipeId : RecipeId) (typed : TypedInstruction instruction) :
    Judged instruction (parseInstruction recipeId instruction) := by
  obtain ⟨members, rfl⟩ := Value.exists_of_isObject typed.isObject
  cases found : (Value.object members).find "action" with
  | none =>
      right
      refine ⟨missingAction recipeId, ?_, .lacksAction found⟩
      simp [parseInstruction, converted, found, bind, Except.bind]
  | some value =>
      obtain ⟨name, rfl⟩ := exists_string typed.action found
      cases registered : getRobotAction name with
      | none =>
          right
          refine ⟨noEntry name, ?_, .unregistered name found (by simp [hasAction, registered])⟩
          simp [parseInstruction, converted, found, Value.asString, registered, bind, Except.bind]
      | some act =>
          have judged := useAction_judged recipeId typed found registered
          have uses : parseInstruction recipeId (.object members) =
              useAction recipeId (.object members) name act := by
            simp [parseInstruction, converted, found, Value.asString, registered, bind,
              Except.bind]
          rw [uses]
          exact judged

theorem Judged.accepted {result : Except Exception RobotAction}
    (judged : Judged instruction result) {action : RobotAction} (accepted : result = .ok action) :
    Describes instruction action := by
  rcases judged with ⟨other, same, describes⟩ | ⟨text, same, _⟩
  · rw [accepted] at same
    cases same
    exact describes
  · rw [accepted] at same
    cases same

theorem Judged.rejected {result : Except Exception RobotAction}
    (judged : Judged instruction result) {error : Exception} (rejected : result = .error error) :
    Defective instruction := by
  rcases judged with ⟨_, same, _⟩ | ⟨_, _, defective⟩
  · rw [rejected] at same
    cases same
  · exact defective

end Instructions

section Totals

variable {First Second : Type} {error : Exception}

theorem bind_ok {first : Except Exception First} {next : First → Except Exception Second}
    {result : Second} :
    first.bind next = .ok result ↔ ∃ value, first = .ok value ∧ next value = .ok result := by
  cases first with
  | error => simp [Except.bind]
  | ok value => simp [Except.bind]

theorem bind_error {first : Except Exception First} {next : First → Except Exception Second} :
    first.bind next = .error error ↔
      first = .error error ∨ ∃ value, first = .ok value ∧ next value = .error error := by
  cases first with
  | error => simp [Except.bind]
  | ok value => simp [Except.bind]

theorem converted_ok {value : Option First} {result : First} :
    converted value = .ok result ↔ value = some result := by
  cases value with
  | none => simp [converted]
  | some => simp [converted]

def toolChanges : List RobotAction → Nat
  | first :: second :: rest =>
      (if first.requiredTool ≠ second.requiredTool then 1 else 0) + toolChanges (second :: rest)
  | _ => 0

def durations (actions : List RobotAction) : Nat := (actions.map RobotAction.duration).sum

theorem toolChanges_push {actions : List RobotAction} {last : RobotAction}
    (back : actions.getLast? = some last) (action : RobotAction) :
    toolChanges (actions ++ [action]) =
      toolChanges actions + if action.requiredTool ≠ last.requiredTool then 1 else 0 := by
  induction actions with
  | nil => cases back
  | cons first rest ih =>
      cases rest with
      | nil =>
          cases back
          by_cases same : action.requiredTool = first.requiredTool
          · simp [toolChanges, same]
          · simp [toolChanges, same, Ne.symm same]
      | cons second rest =>
          have later := ih (by rwa [List.getLast?_cons_cons] at back)
          simp only [List.cons_append, toolChanges] at later ⊢
          rw [later, Nat.add_assoc]

/-- The totals are those of the queue, as far as they fit. -/
structure Totals.Adds (totals : Totals) : Prop where
  cookingTime : totals.cookingTime = durations totals.actionQueue % 2 ^ 64
  retoolingTime : totals.retoolingTime =
    RobotAgent.retoolingTime * toolChanges totals.actionQueue % 2 ^ 64

theorem Totals.empty_adds : Totals.empty.Adds where
  cookingTime := rfl
  retoolingTime := rfl

theorem Totals.Adds.push {totals : Totals} (adds : totals.Adds) (action : RobotAction) :
    (totals.push action).Adds where
  cookingTime := by
    have total : durations (totals.actionQueue ++ [action]) =
        durations totals.actionQueue + action.duration := by simp [durations]
    rw [Totals.push, total, adds.cookingTime, Nat.mod_add_mod]
  retoolingTime := by
    rw [Totals.push]
    cases back : totals.actionQueue.getLast? with
    | none =>
        have empty := List.getLast?_eq_none_iff.mp back
        have retooled := adds.retoolingTime
        rw [empty] at retooled ⊢
        exact retooled
    | some last =>
        simp only
        rw [toolChanges_push back, adds.retoolingTime, Nat.mod_add_mod, Nat.mul_add]
        split
        · rw [Nat.mul_one]
        · rw [Nat.mul_zero]

/-- Each action is what the parser made of its instruction. -/
def Parses (recipeId : RecipeId) : List Value → List RobotAction → Prop :=
  List.Forall₂ fun instruction action => parseInstruction recipeId instruction = .ok action

theorem parseInstructions_ok {totals result : Totals} {instructions : List Value}
    (adds : totals.Adds) (parsed : parseInstructions recipeId totals instructions = .ok result) :
    result.Adds ∧ ∃ actions, Parses recipeId instructions actions ∧
      result.actionQueue = totals.actionQueue ++ actions := by
  induction instructions generalizing totals with
  | nil =>
      cases parsed
      exact ⟨adds, [], .nil, (List.append_nil _).symm⟩
  | cons instruction rest ih =>
      obtain ⟨action, first, parsed⟩ := bind_ok.mp parsed
      obtain ⟨added, actions, parses, queue⟩ := ih (adds.push action) parsed
      refine ⟨added, action :: actions, .cons first parses, ?_⟩
      rw [queue, Totals.push, List.append_assoc]
      rfl

theorem parseInstructions_error {totals : Totals} {instructions : List Value}
    (rejected : parseInstructions recipeId totals instructions = .error error) :
    ∃ instruction ∈ instructions, parseInstruction recipeId instruction = .error error := by
  induction instructions generalizing totals with
  | nil => cases rejected
  | cons instruction rest ih =>
      rcases bind_error.mp rejected with first | ⟨action, _, rejected⟩
      · exact ⟨instruction, List.mem_cons_self, first⟩
      · obtain ⟨later, member, rejected⟩ := ih rejected
        exact ⟨later, List.mem_cons_of_mem _ member, rejected⟩

/-- What the parser knows of a recipe that it has accepted. -/
structure Accepted (recipeId : RecipeId) (recipe : Value) (parsed : ParsedRecipe) : Prop where
  id : parsed.recipeId = recipeId
  instructions : ∃ instructions, recipe.get "instructions" = some instructions ∧
    Parses recipeId instructions.elements parsed.actionQueue
  cookingTime : parsed.cookingTime = durations parsed.actionQueue % 2 ^ 64
  retoolingTime : parsed.retoolingTime =
    RobotAgent.retoolingTime * toolChanges parsed.actionQueue % 2 ^ 64

theorem parseRecipe_ok {parsed : ParsedRecipe}
    (accepted : parseRecipe recipeId recipe = .ok parsed) :
    Accepted recipeId recipe parsed := by
  obtain ⟨dishName, _, accepted⟩ := bind_ok.mp accepted
  obtain ⟨instructions, found, accepted⟩ := bind_ok.mp accepted
  obtain ⟨totals, summed, accepted⟩ := bind_ok.mp accepted
  cases accepted
  obtain ⟨adds, actions, parses, queue⟩ := parseInstructions_ok Totals.empty_adds summed
  have queue : totals.actionQueue = actions := queue
  refine ⟨rfl, ⟨instructions, converted_ok.mp found, ?_⟩, adds.cookingTime, adds.retoolingTime⟩
  rw [queue]
  exact parses

end Totals

section Durations

theorem registered_duration {name : String} {tool : RobotTool} {duration : Duration}
    (registered : getRobotAction name = some (.autonomous tool duration)) : duration < 2 ^ 32 := by
  have all : ∀ entry ∈ actionMap, ∀ tool duration, entry.2 = .autonomous tool duration →
      duration < 2 ^ 32 := by
    simp [actionMap]
  obtain ⟨before, after, listed⟩ := List.lookup_eq_some_iff.mp registered
  have member : (name, Action.autonomous tool duration) ∈ actionMap := by
    rw [listed.1]
    simp
  exact all _ member tool duration rfl

theorem parseInstruction_fits {action : RobotAction}
    (parsed : parseInstruction recipeId instruction = .ok action) : action.duration < 2 ^ 32 := by
  obtain ⟨known, _, parsed⟩ := bind_ok.mp parsed
  split at parsed
  · cases parsed
  · obtain ⟨name, _, parsed⟩ := bind_ok.mp parsed
    split at parsed
    · cases parsed
    next act registered =>
      obtain ⟨hasDuration, _, parsed⟩ := bind_ok.mp parsed
      split at parsed
      · cases parsed
      · split at parsed
        · cases parsed
        · obtain ⟨hasIngredients, _, parsed⟩ := bind_ok.mp parsed
          split at parsed
          · cases parsed
          · obtain ⟨duration, time, parsed⟩ := bind_ok.mp parsed
            obtain ⟨ingredients, _, parsed⟩ := bind_ok.mp parsed
            cases parsed
            have time := converted_ok.mp time
            cases act with
            | autonomous tool own =>
                cases time
                exact registered_duration registered
            | recipeTimed tool =>
                obtain ⟨value, _, converted⟩ := Option.bind_eq_some_iff.mp time
                exact Value.asUInt_lt converted

theorem Parses.fits {instructions : List Value} {actions : List RobotAction}
    (parses : Parses recipeId instructions actions) :
    ∀ action ∈ actions, action.duration < 2 ^ 32 := by
  induction parses with
  | nil => simp
  | cons first _ ih =>
      intro action member
      rcases List.mem_cons.mp member with rfl | later
      · exact parseInstruction_fits first
      · exact ih action later

theorem durations_le {actions : List RobotAction}
    (fit : ∀ action ∈ actions, action.duration < 2 ^ 32) :
    durations actions ≤ actions.length * (2 ^ 32 - 1) := by
  induction actions with
  | nil => exact Nat.zero_le _
  | cons first rest ih =>
      have later := ih fun action member => fit action (List.mem_cons_of_mem _ member)
      have own := fit first List.mem_cons_self
      have total : durations (first :: rest) = first.duration + durations rest := by
        simp [durations]
      rw [total, List.length_cons, Nat.succ_mul, Nat.add_comm]
      exact Nat.add_le_add later (Nat.le_sub_one_of_lt own)

theorem toolChanges_le (actions : List RobotAction) : toolChanges actions ≤ actions.length := by
  induction actions with
  | nil => exact Nat.zero_le _
  | cons first rest ih =>
      cases rest with
      | nil => exact Nat.zero_le _
      | cons second rest =>
          rw [toolChanges, List.length_cons]
          split
          · omega
          · omega

/-- The totals of a recipe that the library can count fit their words. -/
theorem Accepted.totals {parsed : ParsedRecipe} (accepted : Accepted recipeId recipe parsed)
    (counted : ∀ instructions, recipe.get "instructions" = some instructions →
      instructions.Counted) :
    parsed.cookingTime = durations parsed.actionQueue ∧
    parsed.retoolingTime = RobotAgent.retoolingTime * toolChanges parsed.actionQueue := by
  obtain ⟨instructions, found, parses⟩ := accepted.instructions
  have counted := counted instructions found
  have length : parsed.actionQueue.length < 2 ^ 32 := by
    rw [← parses.length_eq]
    exact counted
  have time := durations_le parses.fits
  have changes := toolChanges_le parsed.actionQueue
  rw [accepted.cookingTime, accepted.retoolingTime, RobotAgent.retoolingTime, Nat.one_mul]
  constructor
  · apply Nat.mod_eq_of_lt
    omega
  · apply Nat.mod_eq_of_lt
    omega

end Durations

section Documents

variable {recipeMap result : RecipeMap} {ids : List RecipeId} {error : Exception}

/-- Every recipe that the parser knows was accepted. -/
theorem parseRecipes_from {parsed : ParsedRecipe}
    (ok : parseRecipes recipes recipeMap ids = .ok result)
    (found : result.lookup recipeId = some parsed) :
    recipeMap.lookup recipeId = some parsed ∨
      recipeId ∈ ids ∧ ∃ recipe, Accepted recipeId recipe parsed := by
  induction ids generalizing recipeMap with
  | nil =>
      cases ok
      exact .inl found
  | cons id rest ih =>
      obtain ⟨known, _, ok⟩ := bind_ok.mp ok
      split at ok
      · rcases ih ok with before | ⟨member, accepted⟩
        · exact .inl before
        · exact .inr ⟨List.mem_cons_of_mem _ member, accepted⟩
      · obtain ⟨recipe, _, ok⟩ := bind_ok.mp ok
        obtain ⟨read, accepted, ok⟩ := bind_ok.mp ok
        rcases ih ok with before | ⟨member, accepted⟩
        · rw [List.lookup_cons] at before
          by_cases same : recipeId = id
          · rw [same, beq_self_eq_true] at before
            cases before
            exact .inr ⟨by rw [same]; exact List.mem_cons_self,
              recipe, by rw [same]; exact parseRecipe_ok accepted⟩
          · rw [beq_false_of_ne same] at before
            exact .inl before
        · exact .inr ⟨List.mem_cons_of_mem _ member, accepted⟩

def Lists (recipes : Value) (ids : List RecipeId) : Prop :=
  (∃ members, recipes = .object members) ∧
    ∀ recipeId ∈ ids, ∃ recipe, recipes.find (toString recipeId) = some recipe

theorem parseRecipes_cons {members : List (String × Value)}
    (found : (Value.object members).find (toString recipeId) = some recipe) :
    parseRecipes (.object members) recipeMap (recipeId :: ids) =
      (parseRecipe recipeId recipe).bind fun parsed =>
        parseRecipes (.object members) ((recipeId, parsed) :: recipeMap) ids := by
  have found : members.lookup (Nat.repr recipeId) = some recipe := found
  simp [parseRecipes, converted, found, bind, Except.bind]

theorem parseRecipes_ok (lists : Lists recipes ids) (nodup : ids.Nodup)
    (ok : parseRecipes recipes recipeMap ids = .ok result) :
    result.length = recipeMap.length + ids.length ∧
    (∀ recipeId ∉ ids, result.lookup recipeId = recipeMap.lookup recipeId) ∧
    ∀ recipeId ∈ ids, ∀ recipe, recipes.find (toString recipeId) = some recipe →
      ∃ parsed, parseRecipe recipeId recipe = .ok parsed ∧
        result.lookup recipeId = some parsed := by
  induction ids generalizing recipeMap with
  | nil =>
      cases ok
      exact ⟨rfl, fun _ _ => rfl, fun _ none => absurd none List.not_mem_nil⟩
  | cons id rest ih =>
      obtain ⟨⟨members, rfl⟩, listed⟩ := lists
      obtain ⟨recipe, found⟩ := listed id List.mem_cons_self
      obtain ⟨fresh, nodup⟩ := List.nodup_cons.mp nodup
      rw [parseRecipes_cons found] at ok
      obtain ⟨parsed, accepted, ok⟩ := bind_ok.mp ok
      have later : Lists (.object members) rest :=
        ⟨⟨members, rfl⟩, fun other member => listed other (List.mem_cons_of_mem _ member)⟩
      obtain ⟨length, elsewhere, inside⟩ := ih later nodup ok
      refine ⟨?_, ?_, ?_⟩
      · rw [length, List.length_cons, List.length_cons]
        omega
      · intro other absent
        obtain ⟨different, absent⟩ := not_or.mp (fun member => absent (List.mem_cons.mpr member))
        rw [elsewhere other absent, List.lookup_cons, beq_false_of_ne different]
      · intro other member recipe' found'
        rcases List.mem_cons.mp member with rfl | member
        · rw [found] at found'
          cases found'
          refine ⟨parsed, accepted, ?_⟩
          rw [elsewhere other fresh, List.lookup_cons, beq_self_eq_true]
        · exact inside other member recipe' found'

theorem parseRecipes_error (lists : Lists recipes ids)
    (rejected : parseRecipes recipes recipeMap ids = .error error) :
    ∃ recipeId ∈ ids, ∃ recipe, recipes.find (toString recipeId) = some recipe ∧
      parseRecipe recipeId recipe = .error error := by
  induction ids generalizing recipeMap with
  | nil => cases rejected
  | cons id rest ih =>
      obtain ⟨⟨members, rfl⟩, listed⟩ := lists
      obtain ⟨recipe, found⟩ := listed id List.mem_cons_self
      rw [parseRecipes_cons found] at rejected
      rcases bind_error.mp rejected with here | ⟨parsed, _, rejected⟩
      · exact ⟨id, List.mem_cons_self, recipe, found, here⟩
      · have later : Lists (.object members) rest :=
          ⟨⟨members, rfl⟩, fun other member => listed other (List.mem_cons_of_mem _ member)⟩
        obtain ⟨other, member, rejected⟩ := ih later rejected
        exact ⟨other, List.mem_cons_of_mem _ member, rejected⟩

def instructionsOf (recipe : Value) : List Value :=
  ((recipe.find "instructions").getD .null).elements

/-- A recipe with members of the expected types. -/
structure TypedRecipe (recipe : Value) : Prop where
  isObject : recipe.isObject = true
  name : (recipe.find "name").all Value.isString = true
  counted : ((recipe.find "instructions").getD .null).Counted
  instructions : ∀ instruction ∈ instructionsOf recipe, TypedInstruction instruction

instance (recipe : Value) : Decidable (TypedRecipe recipe) :=
  decidable_of_iff
    (recipe.isObject = true ∧ (recipe.find "name").all Value.isString = true ∧
      ((recipe.find "instructions").getD .null).elements.length < 2 ^ 32 ∧
      ∀ instruction ∈ instructionsOf recipe, TypedInstruction instruction)
    ⟨fun ⟨isObject, name, counted, instructions⟩ => ⟨isObject, name, counted, instructions⟩,
      fun ⟨isObject, name, counted, instructions⟩ => ⟨isObject, name, counted, instructions⟩⟩

/-- A document as the README asks for: its keys are the ids from 1 to `count`. -/
structure TypedDocument (recipes : Value) (count : Nat) : Prop where
  isObject : recipes.isObject = true
  ids : recipes.memberNames.Perm ((List.range' 1 count).map toString)
  counted : recipes.Counted
  recipes : ∀ recipe ∈ recipes.elements, TypedRecipe recipe

instance (recipes : Value) (count : Nat) : Decidable (TypedDocument recipes count) :=
  decidable_of_iff
    (recipes.isObject = true ∧ recipes.memberNames.Perm ((List.range' 1 count).map toString) ∧
      recipes.elements.length < 2 ^ 32 ∧ ∀ recipe ∈ recipes.elements, TypedRecipe recipe)
    ⟨fun ⟨isObject, ids, counted, recipes⟩ => ⟨isObject, ids, counted, recipes⟩,
      fun ⟨isObject, ids, counted, recipes⟩ => ⟨isObject, ids, counted, recipes⟩⟩

theorem TypedRecipe.get_instructions (typed : TypedRecipe recipe) :
    recipe.get "instructions" = some ((recipe.find "instructions").getD .null) := by
  obtain ⟨members, rfl⟩ := Value.exists_of_isObject typed.isObject
  rfl

theorem TypedRecipe.parses (typed : TypedRecipe recipe) {parsed : ParsedRecipe}
    (accepted : Accepted recipeId recipe parsed) :
    Parses recipeId (instructionsOf recipe) parsed.actionQueue := by
  obtain ⟨instructions, found, parses⟩ := accepted.instructions
  rw [typed.get_instructions] at found
  cases found
  exact parses

/-- The queue of an accepted recipe has the actions of its instructions. -/
theorem TypedRecipe.describes (typed : TypedRecipe recipe) {parsed : ParsedRecipe}
    (accepted : Accepted recipeId recipe parsed) :
    List.Forall₂ Describes (instructionsOf recipe) parsed.actionQueue := by
  have parses := typed.parses accepted
  have instructions := typed.instructions
  generalize instructionsOf recipe = visited at parses instructions
  generalize parsed.actionQueue = actions at parses
  induction parses with
  | nil => exact .nil
  | cons first _ ih =>
      have here := parseInstruction_judged recipeId (instructions _ List.mem_cons_self)
      exact .cons (here.accepted first)
        (ih fun later member => instructions later (List.mem_cons_of_mem _ member))

theorem described_sound {instructions : List Value} {actions : List RobotAction}
    (described : List.Forall₂ Describes instructions actions) :
    ∀ instruction ∈ instructions, ¬ Defective instruction := by
  induction described with
  | nil => simp
  | cons first _ ih =>
      intro instruction member
      rcases List.mem_cons.mp member with rfl | later
      · exact first.not_defective
      · exact ih instruction later

theorem TypedRecipe.rejected (typed : TypedRecipe recipe)
    (rejected : parseRecipe recipeId recipe = .error error) :
    ∃ instruction ∈ instructionsOf recipe, Defective instruction := by
  have named : ∃ name, (recipe.get "name").bind Value.asString = some name := by
    obtain ⟨members, rfl⟩ := Value.exists_of_isObject typed.isObject
    cases found : (Value.object members).find "name" with
    | none => exact ⟨"", by simp [found, Value.asString]⟩
    | some value =>
        obtain ⟨name, rfl⟩ := exists_string typed.name found
        exact ⟨name, by simp [found, Value.asString]⟩
  obtain ⟨name, named⟩ := named
  have whole : parseRecipe recipeId recipe =
      (parseInstructions recipeId .empty (instructionsOf recipe)).bind fun totals =>
        .ok
          { dishName := name
            actionQueue := totals.actionQueue
            recipeId := recipeId
            cookingTime := totals.cookingTime
            retoolingTime := totals.retoolingTime } := by
    rw [parseRecipe, named, typed.get_instructions]
    rfl
  rw [whole] at rejected
  rcases bind_error.mp rejected with here | ⟨_, _, impossible⟩
  · obtain ⟨instruction, member, rejected⟩ := parseInstructions_error here
    have judged := parseInstruction_judged recipeId (typed.instructions instruction member)
    exact ⟨instruction, member, judged.rejected rejected⟩
  · cases impossible

theorem TypedDocument.lists {count : Nat} (typed : TypedDocument recipes count) :
    Lists recipes (List.range' 1 count) := by
  refine ⟨Value.exists_of_isObject typed.isObject, ?_⟩
  intro recipeId member
  apply Value.exists_find
  rw [typed.ids.mem_iff]
  exact List.mem_map_of_mem member

theorem TypedDocument.visits {count : Nat} (typed : TypedDocument recipes count) :
    recipeParser recipes = parseRecipes recipes [] (List.range' 1 count) := by
  have length : recipes.elements.length = count := by
    rw [← Value.length_memberNames typed.isObject, typed.ids.length_eq, List.length_map,
      List.length_range']
  rw [recipeParser, Value.size_counted typed.counted, length]

/-- The constructor throws if and only if an instruction of some recipe is
defective. Otherwise it knows the recipes under the ids from 1 to their number,
each with the actions its instructions describe and with their totals. -/
theorem accepts_valid_recipes {count : Nat} (typed : TypedDocument recipes count) :
    ((∃ error, recipeParser recipes = .error error) ↔
      ∃ recipeId recipe, 1 ≤ recipeId ∧ recipeId ≤ count ∧
        recipes.find (toString recipeId) = some recipe ∧
        ∃ instruction ∈ instructionsOf recipe, Defective instruction) ∧
    ∀ recipeMap, recipeParser recipes = .ok recipeMap →
      getRecipeCount recipeMap = count ∧
      (∀ recipeId, hasRecipe recipeMap recipeId = true ↔
        1 ≤ recipeId ∧ recipeId ≤ getRecipeCount recipeMap) ∧
      ∀ recipeId recipe, 1 ≤ recipeId → recipeId ≤ count →
        recipes.find (toString recipeId) = some recipe →
          ∃ parsed, getRecipe recipeMap recipeId = some parsed ∧ parsed.recipeId = recipeId ∧
            List.Forall₂ Describes (instructionsOf recipe) parsed.actionQueue ∧
            parsed.cookingTime = (parsed.actionQueue.map RobotAction.duration).sum ∧
            parsed.retoolingTime =
              RobotAgent.retoolingTime * toolChanges parsed.actionQueue := by
  have lists := typed.lists
  have ids : ∀ recipeId, recipeId ∈ List.range' 1 count ↔ 1 ≤ recipeId ∧ recipeId ≤ count := by
    intro recipeId
    rw [List.mem_range'_1]
    omega
  have known : ∀ recipeMap, recipeParser recipes = .ok recipeMap →
      recipeMap.length = count ∧
      (∀ recipeId ∉ List.range' 1 count, recipeMap.lookup recipeId = none) ∧
      ∀ recipeId ∈ List.range' 1 count, ∀ recipe,
        recipes.find (toString recipeId) = some recipe →
          ∃ parsed, parseRecipe recipeId recipe = .ok parsed ∧
            recipeMap.lookup recipeId = some parsed := by
    intro recipeMap ok
    rw [typed.visits] at ok
    obtain ⟨length, elsewhere, inside⟩ := parseRecipes_ok lists List.nodup_range' ok
    refine ⟨?_, elsewhere, inside⟩
    rw [length, List.length_range']
    exact Nat.zero_add count
  constructor
  · constructor
    · rintro ⟨error, rejected⟩
      rw [typed.visits] at rejected
      obtain ⟨recipeId, member, recipe, found, rejected⟩ := parseRecipes_error lists rejected
      obtain ⟨positive, bounded⟩ := (ids recipeId).mp member
      exact ⟨recipeId, recipe, positive, bounded, found,
        (typed.recipes recipe (Value.mem_elements_of_find found)).rejected rejected⟩
    · rintro ⟨recipeId, recipe, positive, bounded, found, instruction, member, defective⟩
      cases outcome : recipeParser recipes with
      | error error => exact ⟨error, rfl⟩
      | ok recipeMap =>
          obtain ⟨_, _, inside⟩ := known recipeMap outcome
          obtain ⟨parsed, accepted, _⟩ :=
            inside recipeId ((ids recipeId).mpr ⟨positive, bounded⟩) recipe found
          have typedRecipe := typed.recipes recipe (Value.mem_elements_of_find found)
          have described := typedRecipe.describes (parseRecipe_ok accepted)
          exact absurd defective (described_sound described instruction member)
  · intro recipeMap ok
    obtain ⟨length, elsewhere, inside⟩ := known recipeMap ok
    refine ⟨length, ?_, ?_⟩
    · intro recipeId
      rw [getRecipeCount, length, ← ids, hasRecipe]
      constructor
      · intro present
        by_contra absent
        rw [elsewhere recipeId absent] at present
        cases present
      · intro member
        obtain ⟨recipe, found⟩ := lists.2 recipeId member
        obtain ⟨parsed, _, present⟩ := inside recipeId member recipe found
        rw [present]
        rfl
    · intro recipeId recipe positive bounded found
      have typedRecipe := typed.recipes recipe (Value.mem_elements_of_find found)
      obtain ⟨parsed, accepted, present⟩ :=
        inside recipeId ((ids recipeId).mpr ⟨positive, bounded⟩) recipe found
      have accepted := parseRecipe_ok accepted
      obtain ⟨cookingTime, retoolingTime⟩ := accepted.totals fun instructions found => by
        rw [typedRecipe.get_instructions] at found
        cases found
        exact typedRecipe.counted
      exact ⟨parsed, present, accepted.id, typedRecipe.describes accepted, cookingTime,
        retoolingTime⟩

theorem exists_ok {Result : Type} {result : Except Exception Result} (check : Result → Bool)
    (passed : result.toOption.any check = true) :
    ∃ value, result = .ok value ∧ check value = true := by
  cases result with
  | error => contradiction
  | ok value => exact ⟨value, rfl, passed⟩

/-- The constructor accepts the file of the repository. -/
theorem accepts_recipesJson :
    ∃ recipeMap parsed, recipeParser recipesJson = .ok recipeMap ∧ getRecipeCount recipeMap = 3 ∧
      (∀ recipeId, hasRecipe recipeMap recipeId = true ↔
        1 ≤ recipeId ∧ recipeId ≤ getRecipeCount recipeMap) ∧
      getRecipe recipeMap 3 = some parsed ∧ parsed.cookingTime = 16 ∧
      parsed.cookingTime = (parsed.actionQueue.map RobotAction.duration).sum ∧
      parsed.retoolingTime = 4 := by
  have typed : TypedDocument recipesJson 3 := by decide
  have listed : (recipesJson.find (toString 3)).isSome = true := by decide
  obtain ⟨recipe, found⟩ := Option.isSome_iff_exists.mp listed
  have checked : (recipeParser recipesJson).toOption.any (fun recipeMap =>
      (getRecipe recipeMap 3).all fun parsed =>
        decide (parsed.cookingTime = 16 ∧ parsed.retoolingTime = 4)) = true := by decide
  obtain ⟨recipeMap, outcome, totals⟩ := exists_ok _ checked
  obtain ⟨count, ids, known⟩ := (accepts_valid_recipes typed).2 recipeMap outcome
  obtain ⟨parsed, present, _, _, cookingTime, _⟩ := known 3 recipe (by decide) (by decide) found
  rw [present] at totals
  obtain ⟨sixteen, four⟩ := of_decide_eq_true totals
  exact ⟨recipeMap, parsed, outcome, count, ids, present, sixteen, cookingTime, four⟩

end Documents

end CpsKitchen.RecipeFile
