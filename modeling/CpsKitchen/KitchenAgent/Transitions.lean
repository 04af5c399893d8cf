import CpsKitchen.KitchenAgent.Model

/-!
# What one step of the kitchen can do

`Step` lists the reactions of the running kitchen, `step_cases` shows the list
complete. What happens to the remote robots is left open.
-/

namespace CpsKitchen.KitchenAgent

open CpsKitchen.Reactive CpsKitchen.Recipes CpsKitchen.RobotMap
open CpsKitchen.ConveyorAgent (RobotAnswer)

set_option autoImplicit false

variable {config : Config} {k after : Kitchen} {event : Event} {outputs : List Output}

/-- What the worker does with its next handler, `k` is the kitchen that has
taken it. -/
inductive Handles (config : Config) (k : Kitchen) : Handler → Kitchen → List Output → Prop where
  | queued (order : DishId) (map : RobotMap) (closed : k.placingGateOpen = false) :
      Handles config k (.handleRandomOrderRequest order)
        { withRobots k map with placingQueue := k.placingQueue ++ [order] } []
  | placedAtOnce (order : DishId) (recipeId : RecipeId) (map : RobotMap)
      (known : 1 ≤ recipeId ∧ recipeId ≤ config.recipeCount)
      (opened : k.placingGateOpen = true) :
      Handles config k (.handleRandomOrderRequest order)
        (setWorker (receiveOrder { withRobots k map with placingGateOpen := false })
          (.choosingNextRobot order recipeId))
        [.orderPlaced order recipeId]
  | answerDropped (answer : NextRobot) (map : RobotMap) :
      Handles config k (.handleReceiveNextRobot answer) (dropOrder (withRobots k map))
        [.orderDropped answer.order]
  | answerTaken (answer : NextRobot) (map : RobotMap) :
      Handles config k (.handleReceiveNextRobot answer)
        (setWorker (withRobots k map) (.instructingRobot answer)) []
  | completed (order : DishId) :
      Handles config k (.incrementCompletedOrders order) (completeOrder k) [.orderCompleted order]
  | swapped (oldPosition newPosition : Position) (map : RobotMap) :
      Handles config k (.positionSwapped oldPosition newPosition) (withRobots k map) []
  | gateOpened (empty : k.placingQueue = []) :
      Handles config k .placingTimerCompleted { k with placingGateOpen := true } []
  | placedNext (order : DishId) (rest : List DishId) (recipeId : RecipeId)
      (front : k.placingQueue = order :: rest)
      (known : 1 ≤ recipeId ∧ recipeId ≤ config.recipeCount) :
      Handles config k .placingTimerCompleted
        (setWorker (receiveOrder { k with placingQueue := rest })
          (.choosingNextRobot order recipeId))
        [.orderPlaced order recipeId]
  | aborted : Handles config k .placingTimerAborted k []

theorem place_cases {order : DishId} {environment : Environment}
    (ran : place config k order environment = some (after, outputs)) :
    (1 ≤ environment.recipeId ∧ environment.recipeId ≤ config.recipeCount) ∧
      after = setWorker (receiveOrder k) (.choosingNextRobot order environment.recipeId) ∧
      outputs = [.orderPlaced order environment.recipeId] := by
  unfold place at ran
  split at ran
  next known =>
    cases ran
    exact ⟨known, rfl, rfl⟩
  · contradiction

theorem handleReceiveNextRobot_cases {answer : NextRobot} {environment : Environment}
    (ran : handleReceiveNextRobot k answer environment = (after, outputs)) :
    Handles config k (.handleReceiveNextRobot answer) after outputs := by
  unfold handleReceiveNextRobot at ran
  simp only at ran
  split at ran
  · cases ran
    exact .answerDropped answer (removeStoppedRobots k.positionRemoteRobotMap)
  · split at ran
    next failed =>
      cases ran
      rw [if_pos failed.1]
      exact .answerDropped answer _
    · cases ran
      split
      · exact .answerTaken answer _
      · exact .answerTaken answer (removeStoppedRobots k.positionRemoteRobotMap)

theorem handle_cases {environment : Environment} {handler : Handler}
    (ran : handle config k environment handler = some (after, outputs)) :
    Handles config k handler after outputs := by
  cases handler with
  | handleRandomOrderRequest order =>
      rw [handle, handleRandomOrderRequest] at ran
      split at ran
      next opened =>
        obtain ⟨known, rfl, rfl⟩ := place_cases ran
        exact .placedAtOnce order environment.recipeId _ known opened
      next closed =>
        cases ran
        exact .queued order _ (Bool.eq_false_of_not_eq_true closed)
  | handleReceiveNextRobot answer => exact handleReceiveNextRobot_cases (Option.some.inj ran)
  | incrementCompletedOrders order =>
      cases ran
      exact .completed order
  | positionSwapped oldPosition newPosition =>
      cases ran
      exact .swapped oldPosition newPosition _
  | placingTimerCompleted =>
      rw [handle, placingTimerCompleted] at ran
      split at ran
      next empty =>
        cases ran
        exact .gateOpened empty
      next order rest front =>
        obtain ⟨known, rfl, rfl⟩ := place_cases ran
        exact .placedNext order rest environment.recipeId front known
  | placingTimerAborted =>
      cases ran
      exact .aborted

theorem instruct_cases {answer : NextRobot} {robot : RobotAnswer}
    (ran : instruct k answer robot = some (after, outputs)) :
    (∃ map, after = dropOrder (setWorker (withRobots k map) .betweenHandlers) ∧
      outputs = [.orderDropped answer.order]) ∨
    ∃ position accepted, robot.reply = some (position, accepted) ∧
      after = setWorker k (.robotInstructed answer accepted) ∧
      outputs = [.robotInstructed answer.order answer.recipeId answer.robotPosition accepted] := by
  unfold instruct at ran
  simp only at ran
  split at ran
  · contradiction
  · split at ran
    · cases ran
      exact .inl ⟨_, rfl, rfl⟩
    · split at ran
      · cases ran
        exact .inl ⟨k.positionRemoteRobotMap, rfl, rfl⟩
      · split at ran
        · cases ran
          exact .inl ⟨_, rfl, rfl⟩
        · cases ran
          exact .inl ⟨k.positionRemoteRobotMap, rfl, rfl⟩
        · split at ran
          · cases ran
            exact .inl ⟨_, rfl, rfl⟩
          next position accepted replied =>
            cases ran
            exact .inr ⟨position, accepted, replied, rfl, rfl⟩

inductive Step (config : Config) (k : Kitchen) : Event → Kitchen → List Output → Prop where
  | requestReceived (order : DishId) :
      Step config k (.placeRandomOrder order) (post k (.handleRandomOrderRequest order)) []
  | answerReceived (answer : NextRobot) :
      Step config k (.receiveNextRobot answer) (post k (.handleReceiveNextRobot answer)) []
  | completionReceived (order : DishId) :
      Step config k (.receiveCompletedOrder order) (post k (.incrementCompletedOrders order)) []
  | positionChanged (oldPosition newPosition : Position) :
      Step config k (.positionChanged oldPosition newPosition)
        (post k (.positionSwapped oldPosition newPosition)) []
  | robotStopped (position : Position) (map : RobotMap) :
      Step config k (.robotStopped position) (withRobots k map) []
  | controllerLost : Step config k .controllerLost { k with controllerClient := false } []
  | controllerConnected : Step config k .controllerConnected { k with controllerClient := true } []
  | expired (armed : k.placingTimer = true) :
      Step config k .timerExpires (post { k with placingTimer := false } .placingTimerCompleted) []
  | handled {after : Kitchen} {outputs : List Output} (environment : Environment)
      (handler : Handler) (posted : List Handler) (idle : k.worker = .betweenHandlers)
      (next : k.posted = handler :: posted)
      (ran : Handles config (takeHandler k posted) handler after outputs) :
      Step config k (.runHandler environment) after outputs
  | requestFailed (order : DishId) (recipeId : RecipeId)
      (choosing : k.worker = .choosingNextRobot order recipeId) :
      Step config k (.chooseNextRobot none) { k with controllerClient := false } []
  | requested (order : DishId) (recipeId : RecipeId) (accepted : Bool)
      (choosing : k.worker = .choosingNextRobot order recipeId) :
      Step config k (.chooseNextRobot (some accepted))
        (armPlacingGate (setWorker k .betweenHandlers))
        [.nextRobotRequested order recipeId accepted]
  | instructionDropped (answer : NextRobot) (robot : RobotAnswer) (map : RobotMap)
      (instructing : k.worker = .instructingRobot answer) :
      Step config k (.instruct robot)
        (dropOrder (setWorker (withRobots k map) .betweenHandlers)) [.orderDropped answer.order]
  | instructed (answer : NextRobot) (robot : RobotAnswer) (position : Position)
      (accepted : Bool) (instructing : k.worker = .instructingRobot answer)
      (replied : robot.reply = some (position, accepted)) :
      Step config k (.instruct robot) (setWorker k (.robotInstructed answer accepted))
        [.robotInstructed answer.order answer.recipeId answer.robotPosition accepted]
  | assigned (answer : NextRobot) (instructed : k.worker = .robotInstructed answer true) :
      Step config k .countOrder (assignOrder (setWorker k .betweenHandlers))
        [.orderAssigned answer.order]
  | refused (answer : NextRobot) (instructed : k.worker = .robotInstructed answer false) :
      Step config k .countOrder (dropOrder (setWorker k .betweenHandlers))
        [.orderDropped answer.order]

theorem step_cases (taken : step config k event = some (after, outputs)) :
    k.running = true ∧ Step config k event after outputs := by
  unfold step at taken
  split at taken
  next running =>
    refine ⟨running, ?_⟩
    cases event with
    | placeRandomOrder order =>
        cases taken
        exact .requestReceived order
    | receiveNextRobot answer =>
        cases taken
        exact .answerReceived answer
    | receiveCompletedOrder order =>
        cases taken
        exact .completionReceived order
    | positionChanged oldPosition newPosition =>
        cases taken
        exact .positionChanged oldPosition newPosition
    | robotStopped position =>
        cases taken
        exact .robotStopped position _
    | controllerLost =>
        cases taken
        exact .controllerLost
    | controllerConnected =>
        cases taken
        exact .controllerConnected
    | timerExpires =>
        simp only at taken
        split at taken
        next armed =>
          cases taken
          exact .expired armed
        · contradiction
    | runHandler environment =>
        simp only at taken
        split at taken
        next handler posted idle next =>
          exact .handled environment handler posted idle next (handle_cases taken)
        · contradiction
    | chooseNextRobot reply =>
        simp only at taken
        split at taken
        next order recipeId choosing =>
          split at taken
          · cases reply with
            | none =>
                cases taken
                exact .requestFailed order recipeId choosing
            | some accepted =>
                cases taken
                exact .requested order recipeId accepted choosing
          · contradiction
        · contradiction
    | instruct robot =>
        simp only at taken
        split at taken
        next answer instructing =>
          rcases instruct_cases taken with ⟨map, rfl, rfl⟩ |
            ⟨position, accepted, replied, rfl, rfl⟩
          · exact .instructionDropped answer robot map instructing
          · exact .instructed answer robot position accepted instructing replied
        · contradiction
    | countOrder =>
        simp only at taken
        split at taken
        next answer accepted instructed =>
          cases accepted with
          | true =>
              cases taken
              exact .assigned answer instructed
          | false =>
              cases taken
              exact .refused answer instructed
        · contradiction
  · contradiction

end CpsKitchen.KitchenAgent
