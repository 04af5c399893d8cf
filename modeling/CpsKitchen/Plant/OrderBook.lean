import CpsKitchen.Reactive.Refinement
import CpsKitchen.Recipes

/-!
# The order book

What a customer can ask of the plant, with no robot, plate or message in it.
An order is drawn a recipe once. It is dropped, or a robot accepts it, its
actions are performed one by one, it is served and it is counted. That it was
assigned is written down once, at any time after a robot accepted it.
-/

namespace CpsKitchen.Plant

open CpsKitchen.Reactive CpsKitchen.Recipes

set_option autoImplicit false

/-- What can be seen to happen to an order. -/
inductive Mark
  | ordered (recipeId : RecipeId)
  | dropped
  /-- A robot accepts the order from the kitchen. -/
  | accepted (recipeId : RecipeId)
  | assigned
  | performed (action : RobotAction) (capable : Bool)
  /-- The kitchen accepts the dish from the conveyor. -/
  | served (recipeId : RecipeId)
  | completed
  deriving DecidableEq

inductive Stage
  | unknown
  | ordered (recipeId : RecipeId)
  | dropped
  | cooking (recipeId : RecipeId) (left : List RobotAction)
  | served
  | completed
  deriving DecidableEq

structure Entry where
  stage : Stage
  assigned : Bool
  deriving DecidableEq

abbrev Book := DishId → Entry

section Book

variable (parser : RecipeParser)

def Stage.advance : Stage → Mark → Option Stage
  | .unknown, .ordered recipeId => some (.ordered recipeId)
  | .ordered _, .dropped => some .dropped
  | .ordered drawn, .accepted recipeId =>
      if drawn = recipeId then
        (parser.getRecipe recipeId).map fun recipe => .cooking recipeId recipe.actionQueue
      else none
  | .cooking recipeId (next :: left), .performed action capable =>
      if action = next ∧ capable = true then some (.cooking recipeId left) else none
  | .cooking cooked [], .served recipeId => if cooked = recipeId then some .served else none
  | .served, .completed => some .completed
  | _, _ => none

def Stage.isAccepted : Stage → Bool
  | .cooking _ _ | .served | .completed => true
  | .unknown | .ordered _ | .dropped => false

def Entry.mark (entry : Entry) : Mark → Option Entry
  | .assigned =>
      if entry.stage.isAccepted = true ∧ entry.assigned = false then
        some { entry with assigned := true }
      else none
  | mark => (entry.stage.advance parser mark).map fun stage => { entry with stage := stage }

theorem Entry.mark_progress {parser : RecipeParser} {entry : Entry} {mark : Mark}
    (brings : mark ≠ .assigned) :
    entry.mark parser mark =
      (entry.stage.advance parser mark).map fun stage => { entry with stage := stage } := by
  cases mark with
  | assigned => contradiction
  | ordered | dropped | accepted | performed | served | completed => rfl

def orderBook : Machine Book (DishId × Mark) Empty where
  start book := book = fun _ => ⟨.unknown, false⟩
  step book event :=
    ((book event.1).mark parser event.2).map fun entry =>
      (Function.update book event.1 entry, [])

end Book

section Marks

def marksOn (order : DishId) (events : List (DishId × Mark)) : List Mark :=
  events.filterMap fun event => if event.1 = order then some event.2 else none

@[simp] theorem marksOn_append (order : DishId) (first second : List (DishId × Mark)) :
    marksOn order (first ++ second) = marksOn order first ++ marksOn order second :=
  List.filterMap_append

def progressOf (marks : List Mark) : List Mark := marks.filter (· ≠ .assigned)

theorem progressOf_append (first second : List Mark) :
    progressOf (first ++ second) = progressOf first ++ progressOf second :=
  List.filter_append ..

def lifeOf (recipeId : RecipeId) (recipe : Recipe) : List Mark :=
  .ordered recipeId :: .accepted recipeId ::
    (recipe.actionQueue.map (Mark.performed · true) ++ [.served recipeId, .completed])

/-- How the marks of an order led to its stage. -/
def Stage.Fits (parser : RecipeParser) (marks : List Mark) : Stage → Prop
  | .unknown => marks = []
  | .ordered recipeId => marks = [.ordered recipeId]
  | .dropped => ∃ recipeId, marks = [.ordered recipeId, .dropped]
  | .cooking recipeId left =>
      ∃ recipe done, parser.getRecipe recipeId = some recipe ∧
        recipe.actionQueue = done ++ left ∧
        marks = .ordered recipeId :: .accepted recipeId :: done.map (Mark.performed · true)
  | .served =>
      ∃ recipeId recipe, parser.getRecipe recipeId = some recipe ∧
        marks ++ [.completed] = lifeOf recipeId recipe
  | .completed =>
      ∃ recipeId recipe, parser.getRecipe recipeId = some recipe ∧ marks = lifeOf recipeId recipe

/-- An order was assigned at most once, after a robot had accepted it. -/
def AssignedOnce (marks : List Mark) : Prop :=
  ∀ before after, marks = before ++ .assigned :: after →
    .assigned ∉ before ∧ .assigned ∉ after ∧ ∃ recipeId, .accepted recipeId ∈ before

structure Entry.Fits (parser : RecipeParser) (marks : List Mark) (entry : Entry) : Prop where
  stage : entry.stage.Fits parser (progressOf marks)
  assigned : entry.assigned = true ↔ .assigned ∈ marks
  once : AssignedOnce marks

end Marks

variable {parser : RecipeParser} {marks : List Mark} {entry after : Entry} {mark : Mark}

theorem Stage.Fits.advance {stage next : Stage} (fits : stage.Fits parser marks)
    (advanced : stage.advance parser mark = some next) : next.Fits parser (marks ++ [mark]) := by
  unfold Stage.advance at advanced
  split at advanced
  · cases advanced
    have empty : marks = [] := fits
    rw [empty]
    rfl
  next drawn =>
    cases advanced
    have drawnOnly : marks = [.ordered drawn] := fits
    rw [drawnOnly]
    exact ⟨drawn, rfl⟩
  next drawn recipeId =>
    split at advanced
    next same =>
      subst same
      have drawnOnly : marks = [.ordered drawn] := fits
      obtain ⟨recipe, known, same⟩ := Option.map_eq_some_iff.mp advanced
      rw [← same, drawnOnly]
      exact ⟨recipe, [], known, rfl, rfl⟩
    · contradiction
  next recipeId action left performed capable =>
    split at advanced
    next right =>
      obtain ⟨rfl, rfl⟩ := right
      cases advanced
      obtain ⟨recipe, done, known, split, same⟩ := fits
      refine ⟨recipe, done ++ [performed], known, ?_, ?_⟩
      · rw [split, List.append_assoc]
        rfl
      · rw [same, List.map_append]
        rfl
    · contradiction
  next cooked recipeId =>
    split at advanced
    next same =>
      subst same
      cases advanced
      obtain ⟨recipe, done, known, split, same⟩ := fits
      refine ⟨cooked, recipe, known, ?_⟩
      rw [same, lifeOf, split, List.append_nil, List.append_assoc]
      rfl
    · contradiction
  · cases advanced
    exact fits
  · contradiction

theorem AssignedOnce.other (once : AssignedOnce marks) (other : mark ≠ .assigned) :
    AssignedOnce (marks ++ [mark]) := by
  intro before later same
  rcases List.eq_nil_or_concat later with rfl | ⟨front, last, rfl⟩
  · have ends := (List.append_inj' same rfl).2
    cases ends
    contradiction
  · rw [List.concat_eq_append, ← List.cons_append, ← List.append_assoc] at same
    obtain ⟨fronts, ends⟩ := List.append_inj' same rfl
    cases ends
    obtain ⟨notBefore, notLater, accepted⟩ := once before front fronts
    refine ⟨notBefore, ?_, accepted⟩
    rw [List.concat_eq_append, List.mem_append, List.mem_singleton]
    rintro (inside | same)
    · exact notLater inside
    · exact other same.symm

theorem AssignedOnce.assigned (never : Mark.assigned ∉ marks) {recipeId : RecipeId}
    (accepted : .accepted recipeId ∈ marks) : AssignedOnce (marks ++ [.assigned]) := by
  intro before later same
  rcases List.eq_nil_or_concat later with rfl | ⟨front, last, rfl⟩
  · obtain ⟨rfl, _⟩ := List.append_inj' same rfl
    exact ⟨never, List.not_mem_nil, recipeId, accepted⟩
  · rw [List.concat_eq_append, ← List.cons_append, ← List.append_assoc] at same
    obtain ⟨rfl, _⟩ := List.append_inj' same rfl
    exact absurd (List.mem_append.mpr (.inr List.mem_cons_self)) never

theorem Stage.Fits.accepted {stage : Stage} (fits : stage.Fits parser (progressOf marks))
    (past : stage.isAccepted = true) : ∃ recipeId, Mark.accepted recipeId ∈ marks := by
  have within : ∀ recipeId, .accepted recipeId ∈ progressOf marks →
      ∃ recipeId, .accepted recipeId ∈ marks :=
    fun recipeId member => ⟨recipeId, List.mem_of_mem_filter member⟩
  cases stage with
  | unknown | ordered | dropped => contradiction
  | cooking recipeId left =>
      obtain ⟨recipe, done, _, _, same⟩ := fits
      apply within recipeId
      rw [same]
      exact List.mem_cons_of_mem _ List.mem_cons_self
  | served =>
      obtain ⟨recipeId, recipe, _, same⟩ := fits
      have member : Mark.accepted recipeId ∈ progressOf marks ++ [.completed] := by
        rw [same]
        exact List.mem_cons_of_mem _ List.mem_cons_self
      apply within recipeId
      rcases List.mem_append.mp member with inside | last
      · exact inside
      · cases List.mem_singleton.mp last
  | completed =>
      obtain ⟨recipeId, recipe, _, same⟩ := fits
      apply within recipeId
      rw [same]
      exact List.mem_cons_of_mem _ List.mem_cons_self

theorem Entry.Fits.marked (fits : entry.Fits parser marks)
    (wrote : entry.mark parser mark = some after) : after.Fits parser (marks ++ [mark]) := by
  by_cases same : mark = .assigned
  · subst same
    rw [Entry.mark] at wrote
    split at wrote
    next right =>
      cases wrote
      obtain ⟨past, notYet⟩ := right
      have never : Mark.assigned ∉ marks := by
        intro member
        rw [fits.assigned.mpr member] at notYet
        contradiction
      obtain ⟨recipeId, accepted⟩ := fits.stage.accepted past
      refine ⟨?_, by simp, .assigned never accepted⟩
      have nothing : progressOf [Mark.assigned] = [] := rfl
      rw [progressOf_append, nothing, List.append_nil]
      exact fits.stage
    · contradiction
  · rw [Entry.mark_progress same] at wrote
    obtain ⟨stage, advanced, rfl⟩ := Option.map_eq_some_iff.mp wrote
    have one : progressOf [mark] = [mark] := List.filter_cons_of_pos (by simpa using same)
    refine ⟨?_, ?_, fits.once.other same⟩
    · rw [progressOf_append, one]
      exact fits.stage.advance advanced
    · rw [List.mem_append, List.mem_singleton, or_iff_left (Ne.symm same)]
      exact fits.assigned

theorem orderBook_fits {shown : History (DishId × Mark) Empty} {book : Book}
    (reached : (orderBook parser).Reaches (fun _ _ => True) shown book) (order : DishId) :
    (book order).Fits parser (marksOn order (eventsOf shown)) := by
  induction reached with
  | start initial =>
      have initial : _ = fun _ => Entry.mk .unknown false := initial
      rw [initial]
      refine ⟨rfl, by simp [eventsOf, marksOn], ?_⟩
      intro before later same
      have same : [] = before ++ Mark.assigned :: later := same
      simp at same
  | @step shown before after event _ earlier _ taken ih =>
      obtain ⟨entry, marked, same⟩ := Option.map_eq_some_iff.mp taken
      cases same
      rw [eventsOf, List.map_append, marksOn_append]
      by_cases here : event.1 = order
      · subst here
        rw [Function.update_self]
        have one : marksOn event.1 [event] = [event.2] := by simp [marksOn]
        exact one ▸ ih.marked marked
      · have none : marksOn order [event] = [] := by simp [marksOn, here]
        rw [Function.update_of_ne (Ne.symm here)]
        exact none ▸ (List.append_nil _).symm ▸ ih

/-- The marks of an order are the beginning of a life, or of a drop. -/
theorem Entry.Fits.life (fits : entry.Fits parser marks) :
    (∃ recipeId, progressOf marks <+: [.ordered recipeId, .dropped]) ∨
      ∃ recipeId recipe, parser.getRecipe recipeId = some recipe ∧
        progressOf marks <+: lifeOf recipeId recipe := by
  have stage := fits.stage
  cases reached : entry.stage with
  | unknown =>
      rw [reached] at stage
      have empty : progressOf marks = [] := stage
      exact .inl ⟨0, empty ▸ List.nil_prefix⟩
  | ordered recipeId =>
      rw [reached] at stage
      have drawn : progressOf marks = [.ordered recipeId] := stage
      exact .inl ⟨recipeId, [.dropped], by rw [drawn]; rfl⟩
  | dropped =>
      rw [reached] at stage
      obtain ⟨recipeId, same⟩ := stage
      exact .inl ⟨recipeId, same ▸ List.prefix_refl _⟩
  | cooking recipeId left =>
      rw [reached] at stage
      obtain ⟨recipe, done, known, split, same⟩ := stage
      refine .inr ⟨recipeId, recipe, known,
        left.map (Mark.performed · true) ++ [.served recipeId, .completed], ?_⟩
      rw [same, lifeOf, split, List.map_append, List.append_assoc]
      rfl
  | served =>
      rw [reached] at stage
      obtain ⟨recipeId, recipe, known, same⟩ := stage
      exact .inr ⟨recipeId, recipe, known, [.completed], same⟩
  | completed =>
      rw [reached] at stage
      obtain ⟨recipeId, recipe, known, same⟩ := stage
      exact .inr ⟨recipeId, recipe, known, same ▸ List.prefix_refl _⟩

theorem Stage.advance_accepted {stage next : Stage}
    (advanced : stage.advance parser mark = some next)
    (before : stage.isAccepted = true ∨ ∃ recipeId, mark = .accepted recipeId) :
    next.isAccepted = true := by
  unfold Stage.advance at advanced
  split at advanced
  · rcases before with past | ⟨_, same⟩ <;> contradiction
  · rcases before with past | ⟨_, same⟩ <;> contradiction
  · split at advanced
    · obtain ⟨recipe, _, rfl⟩ := Option.map_eq_some_iff.mp advanced
      rfl
    · contradiction
  · split at advanced
    · cases advanced
      rfl
    · contradiction
  · split at advanced
    · cases advanced
      rfl
    · contradiction
  · cases advanced
    rfl
  · contradiction

theorem Entry.Fits.unassigned
    (fits : entry.Fits parser marks) (undecided : ∃ recipeId, entry.stage = .ordered recipeId) :
    entry.assigned = false := by
  obtain ⟨recipeId, ordered⟩ := undecided
  apply Bool.eq_false_of_not_eq_true
  intro assigned
  obtain ⟨before, later, split⟩ := List.append_of_mem (fits.assigned.mp assigned)
  obtain ⟨_, _, accepted, member⟩ := fits.once before later split
  have stage := fits.stage
  rw [ordered] at stage
  have only : progressOf marks = [.ordered recipeId] := stage
  have inside : Mark.accepted accepted ∈ progressOf marks := by
    rw [split]
    exact List.mem_filter.mpr ⟨List.mem_append_left _ member, rfl⟩
  rw [only] at inside
  cases List.mem_singleton.mp inside

end CpsKitchen.Plant
