import CpsKitchen.ConveyorAgent.Transitions

/-!
# Stray answers

`handle_receive_next_robot` tells an answer by its recipe id only. An answer
that does not fit the front of the queue is dropped, one that fits consumes it,
whoever it was meant for. The front then fits an answer before the one that was
meant for it, and what the rest of the queue waits for is still to come.
-/

namespace CpsKitchen.ConveyorAgent

open CpsKitchen.Reactive CpsKitchen.Recipes
open CpsKitchen.RobotAgent (timeUnit)
open CpsKitchen.RobotMap (RobotMap keepRunning)

set_option autoImplicit false

variable {c : Conveyor} {answer : NextRobot} {environment : Environment}

def awaitedRecipeIds (c : Conveyor) : List RecipeId :=
  c.nextRobotRequestQueue.map fun position => (plateAt c position).placedRecipeId

def handlings (c : Conveyor) : List (NextRobot × Environment) → List (Conveyor × Conveyor)
  | [] => []
  | (answer, environment) :: answers =>
      (c, handleReceiveNextRobot c answer environment) ::
        handlings (handleReceiveNextRobot c answer environment) answers

def receiveNextRobots (c : Conveyor) (answers : List (NextRobot × Environment)) : Conveyor :=
  answers.foldl (fun c answer => handleReceiveNextRobot c answer.1 answer.2) c

def Consumes (handling : Conveyor × Conveyor) : Prop :=
  handling.2.nextRobotRequestQueue.length < handling.1.nextRobotRequestQueue.length

instance (handling : Conveyor × Conveyor) : Decidable (Consumes handling) :=
  inferInstanceAs (Decidable (_ < _))

/-- The answer armed `steady_timer_`, and aborted the wait that was armed. -/
def Arms (handling : Conveyor × Conveyor) : Prop :=
  handling.2.steadyTimer = some ⟨.moveConveyor, moveTime * timeUnit⟩ ∧
    handling.2.posted =
      (armTimer handling.1 .moveConveyor (moveTime * timeUnit)).posted ∧
    (handling.1.steadyTimer = none ∨ handling.2.posted ≠ handling.1.posted)

instance (handling : Conveyor × Conveyor) : Decidable (Arms handling) :=
  inferInstanceAs (Decidable (_ ∧ _ ∧ _))

section Handling

/-- The timer, its handlers and the plates' recipes are the same. -/
structure SameWaiting (c after : Conveyor) : Prop where
  steadyTimer : after.steadyTimer = c.steadyTimer
  posted : after.posted = c.posted
  recipeIds : ∀ position, (plateAt after position).placedRecipeId =
    (plateAt c position).placedRecipeId

theorem withRobots_sameWaiting (c : Conveyor) (map : RobotMap) :
    SameWaiting c (withRobots c map) := ⟨rfl, rfl, fun _ => rfl⟩

theorem setTargetPosition_sameWaiting (c : Conveyor) (plateId : PlateId) (position : Position) :
    SameWaiting c (setTargetPosition c plateId position) where
  steadyTimer := rfl
  posted := rfl
  recipeIds := by
    intro other
    simp only [plateAt, setTargetPosition, updatePlate, Function.update_apply]
    split
    next same => rw [same]
    next => rfl

theorem SameWaiting.awaited {after : Conveyor} (same : SameWaiting c after)
    (queue : after.nextRobotRequestQueue = c.nextRobotRequestQueue) :
    awaitedRecipeIds after = awaitedRecipeIds c := by
  simp only [awaitedRecipeIds, queue, same.recipeIds]

def NoneStopped (map : RobotMap) : Prop :=
  ∀ position, keepRunning (map position) = map position

theorem removeStoppedRobots_of_noneStopped (none : NoneStopped c.positionRemoteRobotMap) :
    removeStoppedRobots c = c := by
  have same : RobotMap.removeStoppedRobots c.positionRemoteRobotMap =
      c.positionRemoteRobotMap := funext none
  rw [removeStoppedRobots, same]
  rfl

theorem removeStoppedRobots_noneStopped (c : Conveyor) :
    NoneStopped (removeStoppedRobots c).positionRemoteRobotMap := by
  intro position
  change keepRunning (keepRunning (c.positionRemoteRobotMap position)) =
    keepRunning (c.positionRemoteRobotMap position)
  cases entry : c.positionRemoteRobotMap position with
  | none => rfl
  | some robot =>
      cases robot with
      | none => rfl
      | some robot =>
          by_cases running : robot.running = true
          · simp [keepRunning, running]
          · simp [keepRunning, running]

theorem connectRobot_noneStopped (none : NoneStopped c.positionRemoteRobotMap)
    (position : Position) (endpoint : String) (connected : Bool) :
    NoneStopped (connectRobot c position endpoint connected).positionRemoteRobotMap := by
  intro other
  simp only [connectRobot, withRobots, RobotMap.connectRobot]
  split
  · rw [Function.update_apply]
    split
    · rfl
    · exact none other
  · rw [Function.update_apply]
    split
    · rfl
    · exact none other

theorem assignNextRobot_drops
    (unexpected : ∀ position rest, c.nextRobotRequestQueue = position :: rest →
      (plateAt c position).placedRecipeId ≠ answer.recipeId) : assignNextRobot c answer = c := by
  unfold assignNextRobot
  split
  · rfl
  next position rest front => rw [if_pos (unexpected position rest front)]

theorem handleReceiveNextRobot_assigns (c : Conveyor) (answer : NextRobot)
    (environment : Environment) :
    ∃ map, NoneStopped map ∧
      handleReceiveNextRobot c answer environment = assignNextRobot (withRobots c map) answer := by
  unfold handleReceiveNextRobot
  simp only
  have running := removeStoppedRobots_noneStopped c
  split
  next empty =>
    refine ⟨(removeStoppedRobots c).positionRemoteRobotMap, running, ?_⟩
    have dropped : assignNextRobot (removeStoppedRobots c) answer = removeStoppedRobots c := by
      refine assignNextRobot_drops ?_
      intro position rest front
      rw [empty] at front
      contradiction
    exact dropped.symm
  · split
    · obtain ⟨map, same⟩ := (removeStoppedRobots_same c).trans (connectRobot_same
        (removeStoppedRobots c) answer.robotPosition answer.robotEndpoint environment.connected)
      have connected := connectRobot_noneStopped running answer.robotPosition answer.robotEndpoint
        environment.connected
      rw [same] at connected
      exact ⟨map, connected, by rw [same]⟩
    · exact ⟨_, running, rfl⟩

theorem assignNextRobot_takes {position : Position} {rest : List Position}
    (front : c.nextRobotRequestQueue = position :: rest)
    (fits : (plateAt c position).placedRecipeId = answer.recipeId) :
    assignNextRobot c answer = takeNextRobot c answer position rest := by
  unfold assignNextRobot
  rw [front]
  simp only
  rw [if_neg (by simp [fits])]

theorem takeNextRobot_cases (c : Conveyor) (answer : NextRobot) (position : Position)
    (rest : List Position) :
    ∃ targeted, SameWaiting c targeted ∧ targeted.nextRobotRequestQueue = rest ∧
      targeted.positionRemoteRobotMap = c.positionRemoteRobotMap ∧
      takeNextRobot c answer position rest =
        if rest = [] then armTimer targeted .moveConveyor (moveTime * timeUnit) else targeted := by
  by_cases named : answer.robotPosition ≠ 0 ∧ answer.robotEndpoint ≠ ""
  · have targeted := setTargetPosition_sameWaiting { c with nextRobotRequestQueue := rest }
      (c.positionPlateIdMap position) answer.robotPosition
    refine ⟨_, ⟨targeted.steadyTimer, targeted.posted, targeted.recipeIds⟩, rfl, rfl, ?_⟩
    simp only [takeNextRobot, if_pos named]
  · refine ⟨{ c with nextRobotRequestQueue := rest }, ⟨rfl, rfl, fun _ => rfl⟩, rfl, rfl, ?_⟩
    simp only [takeNextRobot, if_neg named]

end Handling

section Steps

theorem answer_dropped (environment : Environment)
    (unexpected : ∀ position rest, c.nextRobotRequestQueue = position :: rest →
      (plateAt c position).placedRecipeId ≠ answer.recipeId) :
    ∃ map, NoneStopped map ∧
      handleReceiveNextRobot c answer environment = withRobots c map := by
  obtain ⟨map, running, same⟩ := handleReceiveNextRobot_assigns c answer environment
  have dropped : assignNextRobot (withRobots c map) answer = withRobots c map :=
    assignNextRobot_drops unexpected
  exact ⟨map, running, same.trans dropped⟩

/-- An answer that fits takes the front off, and the last one arms the timer. -/
theorem answer_taken (environment : Environment) {position : Position} {rest : List Position}
    (front : c.nextRobotRequestQueue = position :: rest)
    (fits : (plateAt c position).placedRecipeId = answer.recipeId) :
    ∃ targeted, SameWaiting c targeted ∧ targeted.nextRobotRequestQueue = rest ∧
      NoneStopped targeted.positionRemoteRobotMap ∧
      handleReceiveNextRobot c answer environment =
        if rest = [] then armTimer targeted .moveConveyor (moveTime * timeUnit) else targeted := by
  obtain ⟨map, running, same⟩ := handleReceiveNextRobot_assigns c answer environment
  have taken : assignNextRobot (withRobots c map) answer =
      takeNextRobot (withRobots c map) answer position rest := assignNextRobot_takes front fits
  obtain ⟨targeted, waiting, queue, robots, outcome⟩ :=
    takeNextRobot_cases (withRobots c map) answer position rest
  refine ⟨targeted, ⟨waiting.steadyTimer, waiting.posted, waiting.recipeIds⟩, queue, ?_, ?_⟩
  · rw [robots]
    exact running
  · rw [same, taken, outcome]

theorem not_arms (before after : Conveyor) (steadyTimer : after.steadyTimer = before.steadyTimer)
    (posted : after.posted = before.posted) : ¬ Arms (before, after) := by
  rintro ⟨armed, _, idle | moved⟩
  · have none : after.steadyTimer = none := steadyTimer.trans idle
    rw [none] at armed
    contradiction
  · exact moved posted

theorem arms_of_armTimer {targeted : Conveyor} (same : SameWaiting c targeted) :
    Arms (c, armTimer targeted .moveConveyor (moveTime * timeUnit)) := by
  have posted : (armTimer targeted .moveConveyor (moveTime * timeUnit)).posted =
      (armTimer c .moveConveyor (moveTime * timeUnit)).posted := by
    simp only [armTimer, same.steadyTimer, same.posted]
  refine ⟨rfl, posted, ?_⟩
  cases armed : c.steadyTimer with
  | none => exact .inl rfl
  | some wait =>
      refine .inr ?_
      change (armTimer targeted .moveConveyor (moveTime * timeUnit)).posted ≠ c.posted
      rw [posted]
      simp [armTimer, armed]

end Steps

section Sequences

theorem handlings_of_empty (answers : List (NextRobot × Environment))
    (empty : c.nextRobotRequestQueue = []) (running : NoneStopped c.positionRemoteRobotMap) :
    receiveNextRobots c answers = c ∧ ∀ handling ∈ handlings c answers, handling = (c, c) := by
  induction answers with
  | nil => exact ⟨rfl, fun _ member => absurd member List.not_mem_nil⟩
  | cons answer answers ih =>
      have ignored : handleReceiveNextRobot c answer.1 answer.2 = c := by
        unfold handleReceiveNextRobot
        simp only [removeStoppedRobots_of_noneStopped running, empty, if_true]
      obtain ⟨unchanged, all⟩ := ih
      refine ⟨?_, ?_⟩
      · rw [receiveNextRobots, List.foldl_cons, ignored]
        exact unchanged
      · intro handling member
        rw [handlings, ignored] at member
        rcases List.mem_cons.mp member with first | later
        · exact first
        · exact all handling later

/-- What one answer does to a queue that waits for something. -/
inductive Answered (c : Conveyor) (recipeId : RecipeId) (after : Conveyor) : Prop where
  | dropped (queue : after.nextRobotRequestQueue = c.nextRobotRequestQueue)
      (same : SameWaiting c after)
      (mismatch : ∀ awaited rest, awaitedRecipeIds c = awaited :: rest → awaited ≠ recipeId)
  | taken (awaited : awaitedRecipeIds c = recipeId :: awaitedRecipeIds after)
      (more : after.nextRobotRequestQueue ≠ []) (same : SameWaiting c after)
  | takenLast (awaited : awaitedRecipeIds c = [recipeId])
      (empty : after.nextRobotRequestQueue = [])
      (running : NoneStopped after.positionRemoteRobotMap)
      (arms : Arms (c, after))

theorem answered (c : Conveyor) (answer : NextRobot) (environment : Environment) :
    Answered c answer.recipeId (handleReceiveNextRobot c answer environment) := by
  by_cases fits : ∃ position rest, c.nextRobotRequestQueue = position :: rest ∧
      (plateAt c position).placedRecipeId = answer.recipeId
  · obtain ⟨position, rest, front, fits⟩ := fits
    obtain ⟨targeted, same, queue, running, outcome⟩ := answer_taken environment front fits
    rw [outcome]
    have awaited : awaitedRecipeIds c = answer.recipeId :: awaitedRecipeIds targeted := by
      simp only [awaitedRecipeIds, front, queue, List.map_cons, fits, same.recipeIds]
    split
    next last =>
      refine .takenLast ?_ (queue.trans last) running (arms_of_armTimer same)
      rw [awaited, awaitedRecipeIds, queue, last, List.map_nil]
    next more => exact .taken awaited (by rw [queue]; exact more) same
  · have unexpected : ∀ position rest, c.nextRobotRequestQueue = position :: rest →
        (plateAt c position).placedRecipeId ≠ answer.recipeId := by
      intro position rest front same
      exact fits ⟨position, rest, front, same⟩
    obtain ⟨map, _, same⟩ := answer_dropped environment unexpected
    rw [same]
    refine .dropped rfl (withRobots_sameWaiting c map) ?_
    intro awaited rest waits
    obtain ⟨position, others, front, rfl, _⟩ := List.map_eq_cons_iff.mp waits
    exact unexpected position others front

/-- What the sequence does to a queue that waits for something. -/
structure Drained (c : Conveyor) (answers : List (NextRobot × Environment)) : Prop where
  empties : (receiveNextRobots c answers).nextRobotRequestQueue = []
  consumed : (handlings c answers).countP (fun handling => Consumes handling) =
    c.nextRobotRequestQueue.length
  armed : (handlings c answers).countP (fun handling => Arms handling) = 1
  ignored : ∀ handling ∈ handlings c answers, handling.1.nextRobotRequestQueue = [] →
    handling.2 = handling.1

theorem length_awaited (c : Conveyor) :
    (awaitedRecipeIds c).length = c.nextRobotRequestQueue.length := List.length_map _

theorem Drained.after_dropped {answers : List (NextRobot × Environment)}
    (pending : c.nextRobotRequestQueue ≠ [])
    (queue : (handleReceiveNextRobot c answer environment).nextRobotRequestQueue =
      c.nextRobotRequestQueue)
    (same : SameWaiting c (handleReceiveNextRobot c answer environment))
    (drained : Drained (handleReceiveNextRobot c answer environment) answers) :
    Drained c ((answer, environment) :: answers) where
  empties := drained.empties
  consumed := by
    have kept : ¬ Consumes (c, handleReceiveNextRobot c answer environment) := by
      simp [Consumes, queue]
    rw [handlings, List.countP_cons_of_neg (by simpa using kept), drained.consumed, queue]
  armed := by
    have silent := not_arms c _ same.steadyTimer same.posted
    rw [handlings, List.countP_cons_of_neg (by simpa using silent), drained.armed]
  ignored := by
    intro handling member empty
    rcases List.mem_cons.mp member with rfl | later
    · exact absurd empty pending
    · exact drained.ignored handling later empty

theorem Drained.after_taken {answers : List (NextRobot × Environment)}
    (awaited : awaitedRecipeIds c = answer.recipeId ::
      awaitedRecipeIds (handleReceiveNextRobot c answer environment))
    (same : SameWaiting c (handleReceiveNextRobot c answer environment))
    (drained : Drained (handleReceiveNextRobot c answer environment) answers) :
    Drained c ((answer, environment) :: answers) := by
  have shorter : c.nextRobotRequestQueue.length =
      (handleReceiveNextRobot c answer environment).nextRobotRequestQueue.length + 1 := by
    rw [← length_awaited, ← length_awaited, awaited, List.length_cons]
  refine ⟨drained.empties, ?_, ?_, ?_⟩
  · have consumes : Consumes (c, handleReceiveNextRobot c answer environment) := by
      rw [Consumes, shorter]
      exact Nat.lt_succ_self _
    rw [handlings, List.countP_cons_of_pos (by simpa using consumes), drained.consumed, shorter]
  · have silent := not_arms c _ same.steadyTimer same.posted
    rw [handlings, List.countP_cons_of_neg (by simpa using silent), drained.armed]
  · intro handling member empty
    rcases List.mem_cons.mp member with rfl | later
    · have none : c.nextRobotRequestQueue = [] := empty
      rw [none, List.length_nil] at shorter
      omega
    · exact drained.ignored handling later empty

theorem drained_of_last {answers : List (NextRobot × Environment)}
    (awaited : awaitedRecipeIds c = [answer.recipeId])
    (empty : (handleReceiveNextRobot c answer environment).nextRobotRequestQueue = [])
    (running : NoneStopped
      (handleReceiveNextRobot c answer environment).positionRemoteRobotMap)
    (arms : Arms (c, handleReceiveNextRobot c answer environment)) :
    Drained c ((answer, environment) :: answers) := by
  obtain ⟨unchanged, all⟩ := handlings_of_empty answers empty running
  have single : c.nextRobotRequestQueue.length = 1 := by
    rw [← length_awaited, awaited, List.length_singleton]
  have none : ∀ P : Conveyor × Conveyor → Bool,
      P (handleReceiveNextRobot c answer environment,
        handleReceiveNextRobot c answer environment) = false →
      (handlings (handleReceiveNextRobot c answer environment) answers).countP P = 0 := by
    intro P silent
    rw [List.countP_eq_zero]
    intro handling member
    rw [all handling member, silent]
    exact Bool.false_ne_true
  refine ⟨?_, ?_, ?_, ?_⟩
  · have result : receiveNextRobots c ((answer, environment) :: answers) =
        handleReceiveNextRobot c answer environment := unchanged
    rw [result, empty]
  · have consumes : Consumes (c, handleReceiveNextRobot c answer environment) := by
      simp [Consumes, empty, single]
    rw [handlings, List.countP_cons_of_pos (by simpa using consumes), none _ ?_, single]
    simp [Consumes]
  · rw [handlings, List.countP_cons_of_pos (by simpa using arms), none _ ?_]
    exact decide_eq_false (not_arms _ _ rfl rfl)
  · intro handling member stays
    rcases List.mem_cons.mp member with rfl | later
    · have none : c.nextRobotRequestQueue = [] := stays
      rw [none] at single
      contradiction
    · rw [all handling later]

/-- Two plates wait for the same recipe. The second stray answer is taken for
the first plate's, the one for the second plate comes in time. -/
def twoRequests : Conveyor :=
  { initial fivePlates with
    stateStatus := .moving
    plates := fun plateId => { initialPlate plateId with placedRecipeId := 3 }
    nextRobotRequestQueue := [1, 2] }

def answerFor (recipeId : RecipeId) (plateId : PlateId) : NextRobot × Environment :=
  (⟨4, "opc.tcp://robot4:4840", recipeId, ⟨plateId, recipeId, 0⟩⟩, ⟨true, none, none⟩)

end Sequences

end CpsKitchen.ConveyorAgent
