import CpsKitchen.KitchenAgent.Orders

/-!
# The recipe of an order

`do_place` draws the recipe of an order once. The request to the controller,
its answer and the instruction of a robot name the recipe that was drawn.
-/

namespace CpsKitchen.KitchenAgent

open CpsKitchen.Reactive CpsKitchen.Recipes CpsKitchen.RobotMap

set_option autoImplicit false

variable {config : Config} {k after : Kitchen} {event : Event} {outputs : List Output}
  {drawn : DishId → List RecipeId}

def Output.drawnFor? (order : DishId) : Output → Option RecipeId
  | .orderPlaced placed recipeId => if placed = order then some recipeId else none
  | _ => none

def draw (drawn : DishId → List RecipeId) (outputs : List Output) : DishId → List RecipeId :=
  fun order => drawn order ++ outputs.filterMap (Output.drawnFor? order)

def drawnOrders (k : Kitchen) : Multiset DishId :=
  choosing k + postedOrders Handler.answered? k + instructing k

/-- What the kitchen says of its orders fits what was drawn for them. -/
structure Recalls (drawn : DishId → List RecipeId) (k : Kitchen) : Prop where
  waiting : ∀ order ∈ waitingOrders k, drawn order = []
  choosing : ∀ order recipeId, k.worker = .choosingNextRobot order recipeId →
    drawn order = [recipeId]
  answered : ∀ answer, .handleReceiveNextRobot answer ∈ k.posted →
    drawn answer.order = [answer.recipeId]
  instructing : ∀ answer, k.worker = .instructingRobot answer →
    drawn answer.order = [answer.recipeId]

theorem initial_recalls (drawn : DishId → List RecipeId) : Recalls drawn initial := by
  constructor <;> simp [initial, waitingOrders, postedOrders]

theorem draw_other {order : DishId} (notPlaced : order ∉ amount Output.placed outputs) :
    draw drawn outputs order = drawn order := by
  have nothing : outputs.filterMap (Output.drawnFor? order) = [] := by
    apply List.filterMap_eq_nil_iff.mpr
    intro output member
    cases output with
    | orderPlaced placed recipeId =>
        refine if_neg ?_
        rintro rfl
        exact notPlaced (Multiset.mem_of_le (le_amount Output.placed member)
          (Multiset.mem_singleton_self _))
    | nextRobotRequested | robotInstructed | orderAssigned | orderDropped | orderCompleted => rfl
  rw [draw, nothing, List.append_nil]

theorem Step.choosing_from (step : Step config k event after outputs) {order : DishId}
    {recipeId : RecipeId} (chooses : after.worker = .choosingNextRobot order recipeId) :
    k.worker = .choosingNextRobot order recipeId ∨
      outputs = [.orderPlaced order recipeId] ∧ order ∈ waitingOrders k := by
  cases step with
  | requestReceived | answerReceived | completionReceived | positionChanged | robotStopped
  | controllerLost | controllerConnected | expired | requestFailed => exact .inl chooses
  | requested | instructionDropped | instructed | assigned | refused =>
      cases chooses
  | handled environment handler posted idle next ran =>
      cases ran with
      | queued | answerDropped | completed | swapped | gateOpened | aborted =>
          exact .inl chooses
      | answerTaken => cases chooses
      | placedAtOnce order =>
          cases chooses
          refine .inr ⟨rfl, Multiset.mem_add.mpr (.inl ?_)⟩
          rw [postedOrders_take next]
          exact Multiset.mem_add.mpr (.inl (Multiset.mem_singleton_self _))
      | placedNext order rest recipeId front =>
          cases chooses
          have front : k.placingQueue = order :: rest := front
          refine .inr ⟨rfl, Multiset.mem_add.mpr (.inr ?_)⟩
          rw [front]
          exact Multiset.mem_coe.mpr List.mem_cons_self

theorem Step.answered_from (step : Step config k event after outputs) {answer : NextRobot}
    (member : .handleReceiveNextRobot answer ∈ after.posted) :
    .handleReceiveNextRobot answer ∈ k.posted ∨ event = .receiveNextRobot answer := by
  cases step with
  | answerReceived received =>
      rcases List.mem_append.mp member with before | new
      · exact .inl before
      · cases List.mem_singleton.mp new
        exact .inr rfl
  | requestReceived | completionReceived | positionChanged | expired =>
      rcases List.mem_append.mp member with before | new
      · exact .inl before
      · cases List.mem_singleton.mp new
  | robotStopped | controllerLost | controllerConnected | requestFailed | instructionDropped
  | instructed | assigned | refused => exact .inl member
  | requested =>
      left
      have member : .handleReceiveNextRobot answer ∈
          if k.placingTimer then k.posted ++ [.placingTimerAborted] else k.posted := member
      split at member
      · rcases List.mem_append.mp member with before | new
        · exact before
        · cases List.mem_singleton.mp new
      · exact member
  | handled environment handler posted idle next ran =>
      left
      rw [next]
      apply List.mem_cons_of_mem
      cases ran <;> exact member

theorem Step.instructing_from (step : Step config k event after outputs) {answer : NextRobot}
    (instructs : after.worker = .instructingRobot answer) :
    k.worker = .instructingRobot answer ∨ .handleReceiveNextRobot answer ∈ k.posted := by
  cases step with
  | requestReceived | answerReceived | completionReceived | positionChanged | robotStopped
  | controllerLost | controllerConnected | expired | requestFailed => exact .inl instructs
  | requested | instructionDropped | instructed | assigned | refused => cases instructs
  | handled environment handler posted idle next ran =>
      cases ran with
      | queued | answerDropped | completed | swapped | gateOpened | aborted =>
          exact .inl instructs
      | placedAtOnce | placedNext => cases instructs
      | answerTaken answer =>
          cases instructs
          rw [next]
          exact .inr List.mem_cons_self

theorem mem_requests {order : DishId} :
    order ∈ event.requests ↔ event = .placeRandomOrder order := by
  cases event <;> simp [Event.requests, eq_comm]

theorem mem_drawnOrders_choosing {order : DishId} {recipeId : RecipeId}
    (chooses : k.worker = .choosingNextRobot order recipeId) : order ∈ drawnOrders k := by
  simp [drawnOrders, choosing, chooses]

theorem mem_drawnOrders_answered {answer : NextRobot}
    (member : .handleReceiveNextRobot answer ∈ k.posted) : answer.order ∈ drawnOrders k := by
  have about : answer.order ∈ postedOrders Handler.answered? k :=
    Multiset.mem_coe.mpr (List.mem_filterMap.mpr ⟨_, member, rfl⟩)
  exact Multiset.mem_add.mpr (.inl (Multiset.mem_add.mpr (.inr about)))

theorem mem_drawnOrders_instructing {answer : NextRobot}
    (instructs : k.worker = .instructingRobot answer) : answer.order ∈ drawnOrders k := by
  simp [drawnOrders, instructing, instructs]

theorem Step.quiet_or_plain (step : Step config k event after outputs) :
    outputs = [] ∨ event.requests = 0 := by
  cases step with
  | requestReceived => exact .inl rfl
  | answerReceived | completionReceived | positionChanged | robotStopped | controllerLost
  | controllerConnected | expired | handled | requestFailed | requested | instructionDropped
  | instructed | assigned | refused => exact .inr rfl

theorem Step.draw_eq (step : Step config k event after outputs) {order : DishId}
    (elsewhere : order ∉ waitingOrders k) : draw drawn outputs order = drawn order := by
  apply draw_other
  intro placed
  rcases step.quiet_or_plain with rfl | plain
  · exact Multiset.notMem_zero order placed
  · apply elsewhere
    rw [← add_zero (waitingOrders k), ← plain, ← (step_books step).waiting]
    exact Multiset.mem_add.mpr (.inr placed)

theorem Step.draw_waiting (step : Step config k event after outputs)
    (distinct : (waitingOrders k).Nodup) {order : DishId} (waits : order ∈ waitingOrders after) :
    draw drawn outputs order = drawn order := by
  rcases step.quiet_or_plain with rfl | plain
  · exact List.append_nil _
  · apply draw_other
    rw [← add_zero (waitingOrders k), ← plain, ← (step_books step).waiting] at distinct
    exact Multiset.disjoint_left.mp (Multiset.nodup_add.mp distinct).2.2 waits

/-- The kitchen goes on recalling when a new order has no recipe yet and an
answer is about the recipe that was drawn. -/
theorem Step.recalls (recalls : Recalls drawn k) (step : Step config k event after outputs)
    (distinct : (waitingOrders k + drawnOrders k).Nodup)
    (requested : ∀ order, event = .placeRandomOrder order → drawn order = [])
    (answered : ∀ answer, event = .receiveNextRobot answer →
      outputs = [] ∧ drawn answer.order = [answer.recipeId]) :
    Recalls (draw drawn outputs) after := by
  obtain ⟨waits, _, apart⟩ := Multiset.nodup_add.mp distinct
  have kept : ∀ order ∈ drawnOrders k, draw drawn outputs order = drawn order :=
    fun order member => step.draw_eq fun waited => Multiset.disjoint_left.mp apart waited member
  constructor
  · intro order member
    rw [step.draw_waiting waits member]
    have before : order ∈ waitingOrders k + event.requests := by
      rw [← (step_books step).waiting]
      exact Multiset.mem_add.mpr (.inl member)
    rcases Multiset.mem_add.mp before with waited | new
    · exact recalls.waiting order waited
    · exact requested order (mem_requests.mp new)
  · intro order recipeId chooses
    rcases step.choosing_from chooses with before | ⟨rfl, waited⟩
    · rw [kept order (mem_drawnOrders_choosing before)]
      exact recalls.choosing order recipeId before
    · rw [draw, recalls.waiting order waited]
      simp [Output.drawnFor?]
  · intro answer member
    rcases step.answered_from member with before | rfl
    · rw [kept answer.order (mem_drawnOrders_answered before)]
      exact recalls.answered answer before
    · obtain ⟨rfl, known⟩ := answered answer rfl
      rw [draw_other (by simp), known]
  · intro answer instructs
    rcases step.instructing_from instructs with before | before
    · rw [kept answer.order (mem_drawnOrders_instructing before)]
      exact recalls.instructing answer before
    · rw [kept answer.order (mem_drawnOrders_answered before)]
      exact recalls.answered answer before

end CpsKitchen.KitchenAgent
