import CpsKitchen.Json
import CpsKitchen.RobotAgent.Model

/-!
# The recipe file

The constructor of `recipe_parser.cpp`, from the parsed JSON document on. It
throws at the first instruction that it cannot use. While it queues the actions
of a recipe it adds up how long they cook and how often their tools change.
-/

namespace CpsKitchen.RecipeFile

open CpsKitchen.Recipes CpsKitchen.Json
open CpsKitchen.RobotAgent (retoolingTime)

set_option autoImplicit false

section Constructor

/-- What the constructor throws. The library throws when a value has a type
that it cannot convert. -/
inductive Exception
  | invalidArgument (what : String)
  | jsonException
  deriving DecidableEq, Repr

/-- A `recipe` of `recipe_parser.hpp`. -/
structure ParsedRecipe extends Recipe where
  recipeId : RecipeId
  cookingTime : Nat
  retoolingTime : Nat
  deriving DecidableEq, Repr

/-- `recipe_map_`, the recipe read last in front. -/
abbrev RecipeMap := List (RecipeId × ParsedRecipe)

def converted {Result : Type} : Option Result → Except Exception Result
  | none => .error .jsonException
  | some result => .ok result

def isAutonomous : Action → Bool
  | .autonomous _ _ => true
  | .recipeTimed _ => false

def missingAction (recipeId : RecipeId) : String :=
  "There is a missing action for recipe_id " ++ toString recipeId

def noEntry (actionName : String) : String :=
  "There is no entry for the action " ++ actionName

def mustNotContainDuration (actionName : String) (recipeId : RecipeId) : String :=
  "The action " ++ actionName ++ " in recipe id " ++ toString recipeId ++
    " is autonomous and must not contain a duration"

def mustContainDuration (actionName : String) (recipeId : RecipeId) : String :=
  "The action " ++ actionName ++ " in recipe id " ++ toString recipeId ++
    " is recipe timed and must contain a duration"

def noIngredients (actionName : String) (recipeId : RecipeId) : String :=
  "There are no ingredients given for the " ++ actionName ++ " action in recipe id " ++
    toString recipeId

def actionTime (instruction : Value) : Action → Option Duration
  | .autonomous _ duration => some duration
  | .recipeTimed _ => (instruction.get "duration").bind Value.asUInt

/-- The checks on the optional members of an instruction, and the action. -/
def useAction (recipeId : RecipeId) (instruction : Value) (actionName : String) (act : Action) :
    Except Exception RobotAction := do
  let hasDuration ← converted (instruction.isMember "duration")
  if hasDuration ∧ isAutonomous act then
    .error (.invalidArgument (mustNotContainDuration actionName recipeId))
  else if ¬ hasDuration ∧ ¬ isAutonomous act then
    .error (.invalidArgument (mustContainDuration actionName recipeId))
  else
    let hasIngredients ← converted (instruction.isMember "ingredients")
    if ¬ hasIngredients then .error (.invalidArgument (noIngredients actionName recipeId))
    else
      let duration ← converted (actionTime instruction act)
      let ingredients ← converted ((instruction.get "ingredients").bind Value.asString)
      .ok ⟨actionName, act.requiredTool, ingredients, duration⟩

/-- The body of the loop over the instructions, up to the totals. -/
def parseInstruction (recipeId : RecipeId) (instruction : Value) :
    Except Exception RobotAction := do
  let hasAction ← converted (instruction.isMember "action")
  if ¬ hasAction then .error (.invalidArgument (missingAction recipeId))
  else
    let actionName ← converted ((instruction.get "action").bind Value.asString)
    match getRobotAction actionName with
    | none => .error (.invalidArgument (noEntry actionName))
    | some act => useAction recipeId instruction actionName act

/-- `action_queue` and what is added up beside it, in unsigned 64-bit words. -/
structure Totals where
  actionQueue : List RobotAction
  cookingTime : Nat
  retoolingTime : Nat
  deriving DecidableEq, Repr

def Totals.empty : Totals := ⟨[], 0, 0⟩

/-- The tool is compared with that of the action at the back of the queue. -/
def Totals.push (totals : Totals) (action : RobotAction) : Totals where
  actionQueue := totals.actionQueue ++ [action]
  cookingTime := (totals.cookingTime + action.duration) % 2 ^ 64
  retoolingTime :=
    match totals.actionQueue.getLast? with
    | none => totals.retoolingTime
    | some last =>
        (totals.retoolingTime +
          if action.requiredTool ≠ last.requiredTool then RobotAgent.retoolingTime
          else 0) % 2 ^ 64

def parseInstructions (recipeId : RecipeId) :
    Totals → List Value → Except Exception Totals
  | totals, [] => .ok totals
  | totals, instruction :: rest => do
      let action ← parseInstruction recipeId instruction
      parseInstructions recipeId (totals.push action) rest

/-- The body of the loop over the recipe ids. -/
def parseRecipe (recipeId : RecipeId) (recipe : Value) : Except Exception ParsedRecipe := do
  let dishName ← converted ((recipe.get "name").bind Value.asString)
  let instructions ← converted (recipe.get "instructions")
  let totals ← parseInstructions recipeId .empty instructions.elements
  .ok
    { dishName := dishName
      actionQueue := totals.actionQueue
      recipeId := recipeId
      cookingTime := totals.cookingTime
      retoolingTime := totals.retoolingTime }

/-- The loop over the recipe ids. An id that is not a key is skipped. -/
def parseRecipes (recipes : Value) : RecipeMap → List RecipeId → Except Exception RecipeMap
  | recipeMap, [] => .ok recipeMap
  | recipeMap, recipeId :: rest => do
      let known ← converted (recipes.isMember (toString recipeId))
      if ¬ known then parseRecipes recipes recipeMap rest
      else
        let value ← converted (recipes.get (toString recipeId))
        let recipe ← parseRecipe recipeId value
        parseRecipes recipes ((recipeId, recipe) :: recipeMap) rest

/-- The constructor of `recipe_parser`. -/
def recipeParser (recipes : Value) : Except Exception RecipeMap :=
  parseRecipes recipes [] (List.range' 1 recipes.size)

def hasRecipe (recipeMap : RecipeMap) (recipeId : RecipeId) : Bool :=
  (recipeMap.lookup recipeId).isSome

def getRecipe (recipeMap : RecipeMap) (recipeId : RecipeId) : Option ParsedRecipe :=
  recipeMap.lookup recipeId

def getRecipeCount (recipeMap : RecipeMap) : Nat := recipeMap.length

end Constructor

section Repository

def autonomousJson (action ingredients : String) : Value :=
  .object [("action", .string action), ("ingredients", .string ingredients)]

def timedJson (action ingredients : String) (duration : Nat) : Value :=
  .object [("action", .string action), ("ingredients", .string ingredients),
    ("duration", .number duration)]

def recipeJson (name : String) (instructions : List Value) : Value :=
  .object [("name", .string name), ("instructions", .array instructions)]

def recipesJson : Value :=
  .object
    [("1", recipeJson "pumpkin soup"
        [autonomousJson "peel" "pumpkin", autonomousJson "peel" "carrot",
         autonomousJson "peel" "ginger", autonomousJson "peel" "onion",
         autonomousJson "cut" "pumpkin", autonomousJson "cut" "carrot",
         autonomousJson "cut" "ginger", autonomousJson "cut" "onion",
         autonomousJson "braise" "pumpkin, carrot, ginger, onion",
         timedJson "boil" "pumpkin, carrot, ginger" 10,
         autonomousJson "mash" "pumpkin, carrot, ginger", autonomousJson "stir" "coconut milk",
         autonomousJson "sprinkle" "salt", autonomousJson "sprinkle" "pepper",
         autonomousJson "pour" "soy sauce", autonomousJson "pour" "lemon juice"]),
     ("2", recipeJson "potato broccoli casserole"
        [autonomousJson "peel" "potato", autonomousJson "cut" "potato",
         autonomousJson "cut" "broccoli", autonomousJson "cut" "onion",
         timedJson "boil" "potato" 10, timedJson "boil" "broccoli" 10,
         autonomousJson "fry" "onion", autonomousJson "sprinkle" "flour",
         autonomousJson "pour" "cream", autonomousJson "sprinkle" "nutmeg",
         autonomousJson "sprinkle" "paprika powder", autonomousJson "sprinkle" "salt",
         autonomousJson "sprinkle" "pepper", autonomousJson "sprinkle" "chilli",
         autonomousJson "sprinkle" "cheese", timedJson "bake" "casserole" 15]),
     ("3", recipeJson "grape dessert"
        [autonomousJson "whip" "cream, sugar, vanilla sugar",
         autonomousJson "mix" "quark, mascarpone", autonomousJson "mix" "both mixtures",
         autonomousJson "crush" "cookies", autonomousJson "layer" "grapes",
         autonomousJson "layer" "cream", autonomousJson "sprinkle" "cookies"])]

/-- The other agents' recipes are what the constructor reads from the file. -/
theorem recipesJson_parsed :
    (recipeParser recipesJson).toOption.map
        (fun recipeMap => recipeMap.reverse.map fun entry => entry.2.toRecipe) =
      some Recipes.recipes := by
  decide

end Repository

end CpsKitchen.RecipeFile
