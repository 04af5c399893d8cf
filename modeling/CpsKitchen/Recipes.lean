import Mathlib.Algebra.Group.Nat.Defs
import Mathlib.Data.Finset.Basic
import Mathlib.Data.List.ReduceOption

/-!
# Recipes, actions and capabilities

The data every agent reads from the same files: the registry of
`robot_actions`, the recipes of `recipe_parser` and the capability profiles of
`capability_parser`. Reading the JSON text itself is left out here. What the
two parsers check on the way is kept as a field of the structure they build.
-/

namespace CpsKitchen.Recipes

set_option autoImplicit false

abbrev RecipeId := Nat
abbrev Position := Nat
abbrev Duration := Nat

/-- The identity of a dish, for the statements about it. No agent knows it. -/
abbrev DishId := Nat

inductive RobotTool
  | fryer
  | pan
  | pot
  | peeler
  | cutter
  | crusher
  | masher
  | mixer
  | stirrer
  | ingredientDispenser
  | layeringDispenser
  | oven
  | whisk
  deriving DecidableEq, Repr

structure RobotAction where
  name : String
  requiredTool : RobotTool
  ingredients : String
  duration : Duration
  deriving DecidableEq, Repr

/-- An entry of the registry: an autonomous action has a fixed duration, a
recipe timed one takes it from the recipe. -/
inductive Action
  | autonomous (tool : RobotTool) (duration : Duration)
  | recipeTimed (tool : RobotTool)
  deriving DecidableEq, Repr

def Action.requiredTool : Action → RobotTool
  | autonomous tool _ => tool
  | recipeTimed tool => tool

/-- `action_map_` of the `robot_actions` singleton. -/
def actionMap : List (String × Action) :=
  [("peel", .autonomous .peeler 5),
   ("cut", .autonomous .cutter 3),
   ("braise", .autonomous .pan 8),
   ("mash", .autonomous .masher 5),
   ("stir", .autonomous .stirrer 3),
   ("sprinkle", .autonomous .ingredientDispenser 1),
   ("pour", .autonomous .ingredientDispenser 1),
   ("whip", .autonomous .whisk 3),
   ("mix", .autonomous .mixer 3),
   ("crush", .autonomous .crusher 2),
   ("layer", .autonomous .layeringDispenser 2),
   ("fry", .autonomous .fryer 3),
   ("boil", .recipeTimed .pot),
   ("bake", .recipeTimed .oven)]

def getRobotAction (name : String) : Option Action := actionMap.lookup name

def hasAction (name : String) : Prop := (getRobotAction name).isSome

instance (name : String) : Decidable (hasAction name) :=
  inferInstanceAs (Decidable ((getRobotAction name).isSome = true))

structure Recipe where
  dishName : String
  actionQueue : List RobotAction
  deriving DecidableEq, Repr

/-- `recipe_map_` of the `recipe_parser`. Its ids start at 1, and every
duration is a registry constant or an unsigned 32-bit JSON number. -/
structure RecipeParser where
  getRecipe : RecipeId → Option Recipe
  idsStartAtOne : getRecipe 0 = none
  durationsFit : ∀ recipeId recipe, getRecipe recipeId = some recipe →
    ∀ action ∈ recipe.actionQueue, action.duration < 2 ^ 32

/-- The profiles `capability_parser` can read. `none` stands for a profile
that names an unregistered action, for which the constructor throws. -/
structure CapabilityParser where
  getCapabilities : String → Option (Finset String)
  registered : ∀ profile capabilities, getCapabilities profile = some capabilities →
    ∀ name ∈ capabilities, hasAction name

/-- One instruction of a recipe, as `recipe_parser` reads it. It throws for an
unknown action, for a duration on an autonomous action and for a missing one
on a recipe timed action. -/
def readInstruction (name ingredients : String) (duration : Option Duration) :
    Option RobotAction :=
  match getRobotAction name, duration with
  | some (.autonomous tool duration), none => some ⟨name, tool, ingredients, duration⟩
  | some (.recipeTimed tool), some duration => some ⟨name, tool, ingredients, duration⟩
  | _, _ => none

/-- Recipes under the consecutive ids the README asks for. -/
def RecipeParser.ofRecipes (recipes : List Recipe)
    (fit : ∀ recipe ∈ recipes, ∀ action ∈ recipe.actionQueue, action.duration < 2 ^ 32) :
    RecipeParser where
  getRecipe recipeId := if recipeId = 0 then none else recipes[recipeId - 1]?
  idsStartAtOne := rfl
  durationsFit := by
    intro recipeId recipe known
    split at known
    · contradiction
    · exact fit recipe (List.mem_of_getElem? known)

theorem RecipeParser.mem_of_getRecipe {recipes : List Recipe}
    (fit : ∀ recipe ∈ recipes, ∀ action ∈ recipe.actionQueue, action.duration < 2 ^ 32)
    {recipeId : RecipeId} {recipe : Recipe}
    (known : (RecipeParser.ofRecipes recipes fit).getRecipe recipeId = some recipe) :
    recipe ∈ recipes := by
  simp only [RecipeParser.ofRecipes] at known
  split at known
  · contradiction
  · exact List.mem_of_getElem? known

/-- Profiles by file name. A file that is not there leaves the set empty. -/
def CapabilityParser.ofProfiles (profiles : List (String × Finset String))
    (known : ∀ profile ∈ profiles, ∀ name ∈ profile.2, hasAction name) :
    CapabilityParser where
  getCapabilities name := some ((profiles.lookup name).getD ∅)
  registered := by
    intro name capabilities same capability member
    cases same
    cases found : profiles.lookup name with
    | none => simp [found] at member
    | some capabilities =>
        obtain ⟨_, _, same⟩ := List.lookup_eq_some_iff.mp found
        refine known (name, capabilities) ?_ capability (by simpa [found] using member)
        simp [same]

theorem RecipeParser.id_ne_zero (parser : RecipeParser) {recipeId : RecipeId}
    {recipe : Recipe} (known : parser.getRecipe recipeId = some recipe) : recipeId ≠ 0 := by
  rintro rfl
  rw [parser.idsStartAtOne] at known
  contradiction

def capabilityProfiles : List (String × Finset String) :=
  [("r1.json", {"peel", "cut"}),
   ("r2.json", {"boil", "braise", "fry"}),
   ("r3.json", {"mash", "whip", "crush", "stir", "mix"}),
   ("r4.json", {"sprinkle", "layer", "pour", "bake"})]

def readRecipe (dishName : String)
    (instructions : List (String × String × Option Duration)) : Option Recipe :=
  (instructions.mapM fun (action, ingredients, duration) =>
    readInstruction action ingredients duration).map fun actionQueue => ⟨dishName, actionQueue⟩

/-- What `recipe_parser` reads from `recipes.json`. -/
def recipes : List Recipe :=
  List.reduceOption
    [readRecipe "pumpkin soup"
        [("peel", "pumpkin", none), ("peel", "carrot", none), ("peel", "ginger", none),
         ("peel", "onion", none), ("cut", "pumpkin", none), ("cut", "carrot", none),
         ("cut", "ginger", none), ("cut", "onion", none),
         ("braise", "pumpkin, carrot, ginger, onion", none),
         ("boil", "pumpkin, carrot, ginger", some 10), ("mash", "pumpkin, carrot, ginger", none),
         ("stir", "coconut milk", none), ("sprinkle", "salt", none), ("sprinkle", "pepper", none),
         ("pour", "soy sauce", none), ("pour", "lemon juice", none)],
     readRecipe "potato broccoli casserole"
        [("peel", "potato", none), ("cut", "potato", none), ("cut", "broccoli", none),
         ("cut", "onion", none), ("boil", "potato", some 10), ("boil", "broccoli", some 10),
         ("fry", "onion", none), ("sprinkle", "flour", none), ("pour", "cream", none),
         ("sprinkle", "nutmeg", none), ("sprinkle", "paprika powder", none),
         ("sprinkle", "salt", none), ("sprinkle", "pepper", none), ("sprinkle", "chilli", none),
         ("sprinkle", "cheese", none), ("bake", "casserole", some 15)],
     readRecipe "grape dessert"
        [("whip", "cream, sugar, vanilla sugar", none), ("mix", "quark, mascarpone", none),
         ("mix", "both mixtures", none), ("crush", "cookies", none), ("layer", "grapes", none),
         ("layer", "cream", none), ("sprinkle", "cookies", none)]]

end CpsKitchen.Recipes
