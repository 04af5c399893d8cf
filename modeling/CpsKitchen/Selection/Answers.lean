import CpsKitchen.Selection.Choosing

/-!
# The controller's answer is sound

The handler of a request is never stuck, whatever the robots reply, and what it
answers is what was seen of the robots.
-/

namespace CpsKitchen.Selection

open CpsKitchen.Reactive CpsKitchen.Recipes CpsKitchen.KitchenMape
open CpsKitchen.ControllerAgent

set_option autoImplicit false

section Progress

variable {config : Config} {s after : System} {event : Event} {outputs : List Output}
  {notes : Notes} {request : Request} {recipe : Recipe}

def nextEvent (s : System) (reply : Option Bool) : Event :=
  match s.mape, s.controller.worker with
  | .idle, .initializingReceiver _ => .controller (.receiverInitialized (reply = some true))
  | .idle, _ => .onNewOrder
  | .callingBack _ _, .checkingReconfiguration _ _ _ => .controller (.availabilityRead reply)
  | .callingBack _ _, .reconfiguring _ _ _ => .controller (.capabilitiesInstructed reply)
  | .callingBack _ (_ :: _), _ => .reconfigureRobot
  | .callingBack _ [], _ => .returned

/-- A bound for the events of the handler until it has its answer. -/
def stepsLeft (s : System) : Nat :=
  match s.mape, s.controller.worker with
  | .idle, .initializingReceiver _ => 9
  | .idle, .choosing _ => 8
  | .callingBack _ calls, .checkingReconfiguration _ _ _ => 3 * calls.length + 3
  | .callingBack _ calls, .reconfiguring _ _ _ => 3 * calls.length + 2
  | .callingBack _ calls, .choosing _ => 3 * calls.length + 1
  | _, _ => 0

/-- The handler goes on with this request, or it has come to its answer, which
only a receiver that cannot be reached does not get. -/
def GoesOn (s : System) (request : Request) : Prop :=
  openRequest s.controller.worker = some request ∨
    (∃ robotPosition robotEndpoint,
      s.controller.worker = .answering request robotPosition robotEndpoint) ∨
    s.controller.nextRobotReceivers.lookup request.receiver = none

theorem findSuitableRobot_goes_on {config : ControllerAgent.Config} (c : Controller)
    (known : config.recipeParser.getRecipe request.recipeId = some recipe)
    (left : request.processedSteps < recipe.actionQueue.length) :
    findSuitableRobot config c request = some (setWorker c (.choosing request)) := by
  rw [findSuitableRobot, known]
  simp only
  rw [if_neg (by omega)]

theorem remainingActions_known
    (known : config.controller.recipeParser.getRecipe request.recipeId = some recipe)
    (left : request.processedSteps < recipe.actionQueue.length) :
    remainingActions config request = some (recipe.actionQueue.drop request.processedSteps) := by
  rw [remainingActions, known]
  simp only
  rw [if_neg (by omega)]

theorem step_own {c next : Controller} {mape : Mape} {own : ControllerAgent.Event}
    (own_ : isMapeEvent own = false)
    (ran : ControllerAgent.step config.controller c own = some (next, outputs)) :
    step config ⟨c, mape⟩ (.controller own) = some (⟨next, mape⟩, outputs) := by
  simp only [step, own_, Bool.false_eq_true, if_false, ran, Option.map_some]

theorem Kept.worker_cases (kept : Kept config s notes)
    (asked : openRequest s.controller.worker = some request) :
    (s.mape = .idle ∧ (s.controller.worker = .initializingReceiver request ∨
      s.controller.worker = .choosing request)) ∨
    ∃ suitableRobot calls, s.mape = .callingBack suitableRobot calls ∧
      handlingRequest s.controller.worker = some request := by
  cases mape : s.mape with
  | idle =>
      refine .inl ⟨rfl, ?_⟩
      have unaddressed := kept.chooses.unaddressed mape
      cases worker : s.controller.worker with
      | initializingReceiver other =>
          rw [worker] at asked
          cases asked
          exact .inl rfl
      | choosing other =>
          rw [worker] at asked
          cases asked
          exact .inr rfl
      | checkingReconfiguration | reconfiguring =>
          rw [worker] at unaddressed
          cases unaddressed
      | betweenHandlers | initializingRobot | readingPendingCommit | resolvingMissedCommit
      | checkingFirst | checkingSecond | switchingFirst | switchingSecond | answering
      | committingFirst | committingSecond =>
          rw [worker] at asked
          cases asked
  | callingBack suitableRobot calls =>
      right
      obtain ⟨other, actions, handling, _⟩ := kept.chooses.chosen _ _ mape
      have same := (openRequest_of_handling handling).symm.trans asked
      exact ⟨suitableRobot, calls, rfl, handling.trans same⟩

theorem idle_goes_on {c : Controller}
    (worker : c.worker = .initializingReceiver request ∨ c.worker = .choosing request)
    (known : config.controller.recipeParser.getRecipe request.recipeId = some recipe)
    (left : request.processedSteps < recipe.actionQueue.length) (reply : Option Bool) :
    ∃ after outputs, step config ⟨c, .idle⟩ (nextEvent ⟨c, .idle⟩ reply) = some (after, outputs) ∧
      stepsLeft after < stepsLeft ⟨c, .idle⟩ ∧ GoesOn after request := by
  rcases worker with worker | worker
  · have ran : ControllerAgent.step config.controller c
        (.receiverInitialized (reply = some true)) =
        some (setWorker (if decide (reply = some true) = true then
          setReceiver c request.receiver true else c) (.choosing request), []) := by
      simp only [ControllerAgent.step, receiverInitialized, worker,
        findSuitableRobot_goes_on _ known left, Option.map_some]
    simp only [nextEvent, worker]
    refine ⟨_, _, step_own rfl ran, ?_, .inl rfl⟩
    simp [stepsLeft, worker, setWorker]
  · simp only [nextEvent, worker, step, remainingActions_known known left, Option.map_some]
    refine ⟨_, _, rfl, ?_, .inl (by rw [worker]; rfl)⟩
    have calls := (onNewOrder_calls c.positionRemoteRobotMap config.profiles
      (recipe.actionQueue.drop request.processedSteps)).1
    simp only [stepsLeft, beginCalls, worker, List.length_map]
    omega

theorem nextRobotChosen_goes_on (c : Controller) (request : Request)
    (position : Option Position) :
    stepsLeft ⟨nextRobotChosen c request position, .idle⟩ = 0 ∧
      GoesOn ⟨nextRobotChosen c request position, .idle⟩ request := by
  unfold nextRobotChosen
  simp only
  split
  next unreachable => exact ⟨rfl, .inr (.inr unreachable)⟩
  · exact ⟨rfl, .inr (.inl ⟨_, _, rfl⟩)⟩

theorem calling_goes_on {c : Controller} {suitableRobot : Option Position}
    {calls : List (Position × String)} (present : ∀ call ∈ calls, isRegistered c call.1)
    (asked : handlingRequest c.worker = some request) (reply : Option Bool) :
    ∃ after outputs, step config ⟨c, .callingBack suitableRobot calls⟩
        (nextEvent ⟨c, .callingBack suitableRobot calls⟩ reply) = some (after, outputs) ∧
      stepsLeft after < stepsLeft ⟨c, .callingBack suitableRobot calls⟩ ∧
      GoesOn after request := by
  cases worker : c.worker with
  | checkingReconfiguration other position profile =>
      rw [worker] at asked
      cases asked
      simp only [nextEvent, worker]
      by_cases available : reply = some true
      · have ran : ControllerAgent.step config.controller c (.availabilityRead reply) =
            some (setWorker c (.reconfiguring request position profile), []) := by
          simp [ControllerAgent.step, availabilityRead, worker, available]
        refine ⟨_, _, step_own rfl ran, ?_, .inl rfl⟩
        simp [stepsLeft, worker, setWorker]
      · have ran : ControllerAgent.step config.controller c (.availabilityRead reply) =
            some (unavailable c request position reply, []) := by
          simp [ControllerAgent.step, availabilityRead, worker, available]
        refine ⟨_, _, step_own rfl ran, ?_, .inl rfl⟩
        simp [stepsLeft, worker, unavailable, setWorker]
  | reconfiguring other position profile =>
      rw [worker] at asked
      cases asked
      simp only [nextEvent, worker]
      have ran : ∃ next outs, ControllerAgent.step config.controller c
          (.capabilitiesInstructed reply) = some (setWorker next (.choosing request), outs) := by
        simp only [ControllerAgent.step, capabilitiesInstructed, worker]
        exact ⟨_, _, rfl⟩
      obtain ⟨next, outs, ran⟩ := ran
      refine ⟨_, _, step_own rfl ran, ?_, .inl rfl⟩
      simp [stepsLeft, worker, setWorker]
  | choosing other =>
      rw [worker] at asked
      cases asked
      cases calls with
      | nil =>
          simp only [nextEvent, worker, step, ControllerAgent.step, Option.map_some]
          obtain ⟨answered, goesOn⟩ := nextRobotChosen_goes_on c request suitableRobot
          refine ⟨_, _, rfl, ?_, goesOn⟩
          rw [answered]
          simp [stepsLeft, worker]
      | cons call calls =>
          obtain ⟨key, profile⟩ := call
          obtain ⟨robot, found⟩ := Option.isSome_iff_exists.mp (present _ List.mem_cons_self)
          simp only [nextEvent, worker, step, found, ControllerAgent.step, Option.map_some]
          refine ⟨_, _, rfl, ?_⟩
          unfold reconfigureRobotCapability
          split
          · refine ⟨?_, .inl (by rw [worker]; rfl)⟩
            simp only [stepsLeft, worker, List.length_cons]
            omega
          · refine ⟨?_, .inl rfl⟩
            simp only [stepsLeft, setWorker, worker, List.length_cons]
            omega
  | betweenHandlers | initializingRobot | initializingReceiver | readingPendingCommit
  | resolvingMissedCommit | checkingFirst | checkingSecond | switchingFirst | switchingSecond
  | answering | committingFirst | committingSecond =>
      rw [worker] at asked
      cases asked

/-- The handler is never stuck, whatever the robots reply. -/
theorem handler_goes_on (kept : Kept config s notes)
    (known : config.controller.recipeParser.getRecipe request.recipeId = some recipe)
    (left : request.processedSteps < recipe.actionQueue.length)
    (asked : openRequest s.controller.worker = some request) (reply : Option Bool) :
    ∃ after outputs, step config s (nextEvent s reply) = some (after, outputs) ∧
      stepsLeft after < stepsLeft s ∧ GoesOn after request := by
  obtain ⟨c, mape⟩ := s
  rcases kept.worker_cases asked with ⟨rfl, worker⟩ | ⟨suitableRobot, calls, rfl, handling⟩
  · exact idle_goes_on worker known left reply
  · exact calling_goes_on (kept.chooses.pointers _ _ rfl).2 handling reply

theorem stepsLeft_le (kept : Kept config s notes) (step : Step config s event after outputs)
    (asked : openRequest s.controller.worker = some request) :
    stepsLeft after ≤ stepsLeft s := by
  cases step with
  | @controller next _ own unasked ran =>
      have goesOn := open_step asked unasked ran
      rcases kept.worker_cases asked with ⟨mape, worker⟩ | ⟨suitableRobot, calls, mape, handling⟩
      · rcases goesOn with same | chooses | ⟨position, profile, checking, _⟩
        · simp only [stepsLeft, same, le_refl]
        · rcases worker with worker | worker
          · simp [stepsLeft, mape, worker, chooses]
          · simp [stepsLeft, mape, worker, chooses]
        · rw [checking] at worker
          simp at worker
      · rcases goesOn with same | chooses | ⟨position, profile, checking, reconfigures⟩
        · simp only [stepsLeft, same, le_refl]
        · cases worker : s.controller.worker <;> rw [worker] at handling <;> cases handling <;>
            simp [stepsLeft, mape, worker, chooses]
        · simp [stepsLeft, mape, checking, reconfigures]
  | onNewOrder other actions choosing idle remaining =>
      have calls := (onNewOrder_calls s.controller.positionRemoteRobotMap config.profiles actions).1
      simp only [stepsLeft, beginCalls, choosing, idle, List.length_map]
      omega
  | reconfigureRobot suitableRobot key profile calls robot calling found ran =>
      cases ran with
      | reconfigurationChecked other _ _ choosing =>
          simp only [stepsLeft, calling, choosing, setWorker, List.length_cons]
          omega
      | adaptationRefused _ other choosing =>
          simp only [stepsLeft, calling, choosing, List.length_cons]
          omega
  | returned suitableRobot other calling choosing same nothing =>
      rw [same, (nextRobotChosen_goes_on s.controller other suitableRobot).1]
      exact Nat.zero_le _

theorem handler_starts {c : Controller} {posted : List Handler} (running : c.running = true)
    (idle : c.worker = .betweenHandlers)
    (next : c.posted = .handleNextRobotRequest request :: posted)
    (known : config.controller.recipeParser.getRecipe request.recipeId = some recipe)
    (left : request.processedSteps < recipe.actionQueue.length) (mape : Mape) :
    ∃ after outputs, step config ⟨c, mape⟩ (.controller .runHandler) = some (after, outputs) ∧
      openRequest after.controller.worker = some request := by
  have ran : ∃ worker, openRequest worker = some request ∧
      ControllerAgent.step config.controller c .runHandler =
        some (setWorker (cleanUp (takeHandler c posted)) worker, []) := by
    simp only [ControllerAgent.step, running, idle, next, handle, handleNextRobotRequest]
    split
    · exact ⟨_, rfl, rfl⟩
    · rw [findSuitableRobot_goes_on _ known left]
      exact ⟨_, rfl, rfl⟩
  obtain ⟨worker, asked, ran⟩ := ran
  exact ⟨_, _, step_own rfl ran, asked⟩

end Progress

section Answers

variable {config : Config} {s after : System} {event : Event} {outputs : List Output}
  {notes : Notes} {request : Request} {robotPosition : Position} {robotEndpoint : String}

theorem answerOf_eq_some {worker : Worker}
    (answers : answerOf worker = some (request, robotPosition, robotEndpoint)) :
    worker = .answering request robotPosition robotEndpoint := by
  cases worker with
  | answering =>
      cases answers
      rfl
  | _ => cases answers

theorem updateAt_answerOf (c : Controller) (change : RemoteRobot → RemoteRobot) (place : Place) :
    answerOf (updateAt c change place).worker = answerOf c.worker := by
  cases place with
  | registered position => rfl
  | held =>
      simp only [updateAt]
      split
      next initializing =>
        rw [initializing]
        rfl
      next committing =>
        rw [committing]
        rfl
      · rfl

theorem step_answerOf {c next : Controller} {own : ControllerAgent.Event}
    (unasked : isMapeEvent own = false)
    (ran : ControllerAgent.Step config.controller c own next outputs) :
    answerOf next.worker = answerOf c.worker ∨ answerOf next.worker = none := by
  cases ran with
  | registrationReceived | requestReceived | receiverStopped | adaptationRefused => exact .inl rfl
  | positionNoticed place | capabilitiesNoticed place | robotStopped place
  | positionChanged place | capabilitiesChanged place => exact .inl (updateAt_answerOf _ _ place)
  | handled handler posted idle next ran =>
      have idle : (takeHandler c posted).worker = .betweenHandlers := idle
      exact .inr (handles_silent idle ran).unanswered
  | robotRegistered robot position =>
      exact .inr (resolveMissedNewPositionCommit_silent _ position).unanswered
  | firstCommitted => exact .inr (commitSecond_silent _ _ _).unanswered
  | firstAvailable request fromPosition toPosition =>
      exact .inr (checkSecond_silent _ request fromPosition toPosition).unanswered
  | robotDropped | commitMissed | noCommitMissed | missedCommitted | secondCommitted
  | receiverInitialized | notAvailable | secondAvailable | robotAvailable | firstFailed
  | firstRefused | firstSwitches | onlySwitches | secondRefused | secondSwitches
  | reconfigurationInstructed | answered => exact .inr rfl
  | swapChecked | reconfigurationChecked | notAnswered | answers => contradiction

theorem step_answers (kept : Kept config s notes) (step : Step config s event after outputs)
    (answers : after.controller.worker = .answering request robotPosition robotEndpoint) :
    s.controller.worker = .answering request robotPosition robotEndpoint ∨
      SoundAnswer config s notes request robotPosition robotEndpoint := by
  cases step with
  | @controller next _ own unasked ran =>
      have here : answerOf next.worker = some (request, robotPosition, robotEndpoint) := by
        rw [answers]
        rfl
      rcases step_answerOf unasked ran with same | none
      · exact .inl (answerOf_eq_some (same.symm.trans here))
      · rw [none] at here
        cases here
  | onNewOrder other actions choosing idle remaining => exact .inl answers
  | reconfigureRobot suitableRobot key profile calls robot calling found ran =>
      cases ran with
      | reconfigurationChecked => cases answers
      | adaptationRefused => exact .inl answers
  | returned suitableRobot other calling choosing same nothing =>
      rw [same] at answers
      exact .inr (returned_sound kept calling choosing answers)

theorem step_sends {reply : Option Bool} (step : Step config s event after outputs)
    (sent : .nextRobotSent request robotPosition robotEndpoint reply ∈ outputs) :
    s.controller.worker = .answering request robotPosition robotEndpoint := by
  cases step with
  | onNewOrder => cases sent
  | returned _ _ _ _ _ nothing =>
      rw [nothing] at sent
      cases sent
  | reconfigureRobot suitableRobot key profile calls robot calling found ran =>
      cases ran with
      | reconfigurationChecked | adaptationRefused => cases sent
  | controller own unasked ran =>
      cases ran with
      | answered other position endpoint reply answering =>
          cases List.mem_singleton.mp sent
          exact answering
      | _ => simp at sent

/-- The handler of a request for a recipe with steps left is never stuck: it
comes to its answer after at most the steps that are left. The answer names no
robot, or a registered one that was seen capable of the next action, is in no
pending swap and has no reconfiguration pending. -/
theorem next_robot_answers_sound (config : Config) (history : History Event Output) (s : System)
    (notes : Notes) (reached : (noted config).Reaches (fun _ _ => True) history (s, notes))
    (request : Request) (recipe : Recipe)
    (known : config.controller.recipeParser.getRecipe request.recipeId = some recipe)
    (left : request.processedSteps < recipe.actionQueue.length) :
    (∀ posted, s.controller.running = true → s.controller.worker = .betweenHandlers →
      s.controller.posted = .handleNextRobotRequest request :: posted →
      ∃ after outputs, step config s (.controller .runHandler) = some (after, outputs) ∧
        openRequest after.controller.worker = some request) ∧
    (openRequest s.controller.worker = some request →
      (∀ reply, ∃ after outputs, step config s (nextEvent s reply) = some (after, outputs) ∧
        stepsLeft after < stepsLeft s ∧ GoesOn after request) ∧
      ∀ event after outputs, step config s event = some (after, outputs) →
        stepsLeft after ≤ stepsLeft s) ∧
    ∀ event after outputs, step config s event = some (after, outputs) →
      ∀ robotPosition robotEndpoint,
        (after.controller.worker = .answering request robotPosition robotEndpoint →
          s.controller.worker = .answering request robotPosition robotEndpoint ∨
            SoundAnswer config s notes request robotPosition robotEndpoint) ∧
        ∀ reply, .nextRobotSent request robotPosition robotEndpoint reply ∈ outputs →
          s.controller.worker = .answering request robotPosition robotEndpoint := by
  have kept := reaches_kept reached
  refine ⟨?_, ?_, ?_⟩
  · intro posted running idle next
    exact handler_starts running idle next known left s.mape
  · intro asked
    refine ⟨fun reply => handler_goes_on kept known left asked reply, ?_⟩
    intro event after outputs taken
    exact stepsLeft_le kept (step_cases taken) asked
  · intro event after outputs taken robotPosition robotEndpoint
    have taken := step_cases taken
    exact ⟨step_answers kept taken, fun reply => step_sends taken⟩

def ownProfilesKitchen : Config where
  controller := deployment
  profiles := ⟨capabilityProfiles, by decide⟩

def whippingRequest : Request := ⟨3, 0, "opc.tcp://conveyor", "ConveyorType"⟩

def mashingRobot : RemoteRobot :=
  newRemoteRobot "opc.tcp://robot:3" 3 {"mash", "whip", "crush", "stir", "mix"}

def bakingRobot : RemoteRobot :=
  newRemoteRobot "opc.tcp://robot:1" 1 {"sprinkle", "layer", "pour", "bake"}

def registering (robot : RemoteRobot) : List Event :=
  [.controller (.registerRobot robot.endpoint robot.position robot.capabilities),
   .controller .runHandler, .controller (.robotInitialized true),
   .controller (.pendingCommitRead (some false))]

def requestingWhipping : List Event :=
  [.controller (.chooseNextRobot whippingRequest), .controller .runHandler,
   .controller (.receiverInitialized true)]

/-- The robot that can whip is named to the conveyor. -/
theorem whipping_robot_answered :
    ∃ history s notes after,
      (noted ownProfilesKitchen).Reaches (fun _ _ => True) history (s, notes) ∧
      step ownProfilesKitchen s .returned = some (after, []) ∧
      after.controller.worker = .answering whippingRequest 3 "opc.tcp://robot:3" ∧
      SoundAnswer ownProfilesKitchen s notes whippingRequest 3 "opc.tcp://robot:3" := by
  obtain ⟨history, ⟨s, notes⟩, reached, shown⟩ := Machine.exists_reaches_of_replay
    (noted ownProfilesKitchen) (fun _ _ => True)
    (show (noted ownProfilesKitchen).start (initial, ⟨∅, ∅, ∅⟩) from ⟨rfl, rfl⟩)
    (registering mashingRobot ++ requestingWhipping ++ [.onNewOrder])
    (fun _ state => decide (state.1.controller.worker = .choosing whippingRequest ∧
      Option.any (fun result : System × List Output => decide (result.1.controller.worker =
        .answering whippingRequest 3 "opc.tcp://robot:3" ∧ result.2 = []))
          (step ownProfilesKitchen state.1 .returned) = true)) (by decide +kernel)
  obtain ⟨choosing, answered⟩ := of_decide_eq_true shown
  obtain ⟨⟨after, outputs⟩, returned, answered⟩ := (Option.any_eq_true _ _).mp answered
  obtain ⟨answering, nothing⟩ := of_decide_eq_true answered
  have nothing : outputs = [] := nothing
  rw [nothing] at returned
  obtain ⟨recipe, known, left⟩ : ∃ recipe, ownProfilesKitchen.controller.recipeParser.getRecipe
      whippingRequest.recipeId = some recipe ∧ 0 < recipe.actionQueue.length := ⟨_, rfl, by decide⟩
  obtain ⟨_, _, answers⟩ := next_robot_answers_sound ownProfilesKitchen _ _ _ reached
    whippingRequest recipe known left
  rcases (answers _ _ _ returned 3 "opc.tcp://robot:3").1 answering with before | sound
  · have choosing : s.controller.worker = .choosing whippingRequest := choosing
    rw [choosing] at before
    cases before
  · exact ⟨_, _, _, _, reached, returned, answering, sound⟩

def mashingAndBaking : RobotMap := Finmap.insert 1 bakingRobot (Finmap.singleton 3 mashingRobot)

theorem lookup_mashingAndBaking {key : Position} {robot : RemoteRobot}
    (found : mashingAndBaking.lookup key = some robot) :
    (key = 1 ∧ robot = bakingRobot) ∨ (key = 3 ∧ robot = mashingRobot) := by
  rw [mashingAndBaking, FiniteMap.lookup_insert_eq] at found
  split at found
  next first =>
    cases found
    exact .inl ⟨first, rfl⟩
  next other =>
    have member := (Finmap.mem_singleton _ _ _).mp (Finmap.mem_of_lookup_eq_some found)
    rw [member, Finmap.lookup_singleton_eq] at found
    cases found
    exact .inr ⟨member, rfl⟩

def whipping : RobotAction := ⟨"whip", .whisk, "cream, sugar, vanilla sugar", 3⟩

def layering : RobotAction := ⟨"layer", .layeringDispenser, "grapes", 2⟩

theorem mashingAndBaking_adapts {actions : List RobotAction}
    (remaining : remainingActions ownProfilesKitchen whippingRequest = some actions) :
    Adapts mashingAndBaking actions whipping (3, mashingRobot) layering (1, bakingRobot) := by
  have known : remainingActions ownProfilesKitchen whippingRequest = some _ := rfl
  rw [known] at remaining
  cases remaining
  refine ⟨rfl, ⟨rfl, by decide, ?_⟩, rfl, ⟨rfl, by decide, ?_⟩, by decide⟩
  · intro key robot found _
    rcases lookup_mashingAndBaking found with ⟨first, _⟩ | ⟨third, _⟩
    · rw [first]
      decide
    · exact third.le
  · intro key robot found suits
    rcases lookup_mashingAndBaking found with ⟨first, _⟩ | ⟨_, mashing⟩
    · exact first.le
    · rw [mashing] at suits
      exact absurd suits (by decide)

def whippingChosen : Controller where
  positionRemoteRobotMap := mashingAndBaking
  pendingSwaps := []
  nextRobotReceivers := Finmap.singleton whippingRequest.receiver ⟨true⟩
  registeredRobots := 2
  running := true
  posted := []
  worker := .choosing whippingRequest

theorem whippingChosen_reached :
    ∃ history, (machine ownProfilesKitchen).Reaches (fun _ _ => True) history
      ⟨whippingChosen, .idle⟩ := by
  obtain ⟨history, ⟨c, mape⟩, reached, shown⟩ := Machine.exists_reaches_of_replay
    (machine ownProfilesKitchen) (fun _ _ => True)
    (show (machine ownProfilesKitchen).start initial from rfl)
    (registering bakingRobot ++ registering mashingRobot ++ requestingWhipping)
    (fun _ s => decide (s.mape = .idle ∧
      s.controller.positionRemoteRobotMap = mashingAndBaking ∧
      s.controller.pendingSwaps = [] ∧
      s.controller.nextRobotReceivers = Finmap.singleton whippingRequest.receiver ⟨true⟩ ∧
      s.controller.registeredRobots = 2 ∧ s.controller.running = true ∧
      s.controller.posted = [] ∧ s.controller.worker = .choosing whippingRequest)) (by decide)
  obtain ⟨idle, map, swaps, receivers, registered, running, posted, worker⟩ :=
    of_decide_eq_true shown
  have same : c = whippingChosen := by
    cases c
    simp only [whippingChosen, Controller.mk.injEq]
    exact ⟨map, swaps, receivers, registered, running, posted, worker⟩
  have idle : mape = .idle := idle
  rw [same, idle] at reached
  exact ⟨history, reached⟩

def whippingAdapted : System where
  controller := whippingChosen
  mape := .callingBack (some 3) [(3, "r4.json"), (1, "r3.json")]

theorem whippingChosen_onNewOrder :
    step ownProfilesKitchen ⟨whippingChosen, .idle⟩ .onNewOrder = some (whippingAdapted, []) := by
  have remaining : remainingActions ownProfilesKitchen whippingRequest = some _ := rfl
  have adapts := mashingAndBaking_adapts remaining
  have choosing : whippingChosen.worker = .choosing whippingRequest := rfl
  have map : whippingChosen.positionRemoteRobotMap = mashingAndBaking := rfl
  simp only [step, choosing, remaining, Option.map_some, map, onNewOrder, simpleReconfiguration,
    chooseRobots_adapts adapts]
  rfl

/-- The call to the first robot fails although the robot got it, and the robot
announces its new capabilities before the handler answers. It is named for
whipping, which it has unlearned. -/
theorem whipping_unlearned_before_answer :
    ∃ history s after, (machine ownProfilesKitchen).Reaches (fun _ _ => True) history s ∧
      step ownProfilesKitchen s .returned = some (after, []) ∧
      after.controller.worker = .answering whippingRequest 3 "opc.tcp://robot:3" ∧
      ∃ recipe action,
        deployment.recipeParser.getRecipe whippingRequest.recipeId = some recipe ∧
        recipe.actionQueue[whippingRequest.processedSteps]? = some action ∧
        ∀ key robot, findRobot after.controller key = some robot →
          robot.position = 3 → action.name ∉ robot.capabilities := by
  obtain ⟨earlier, reached⟩ := whippingChosen_reached
  have taken : (machine ownProfilesKitchen).step ⟨whippingChosen, .idle⟩ .onNewOrder =
      some (whippingAdapted, []) := whippingChosen_onNewOrder
  have adapted := reached.step trivial taken
  obtain ⟨history, s, followed, shown⟩ := Machine.exists_reaches_of_replay
    ((machine ownProfilesKitchen).resume whippingAdapted) (fun _ _ => True) rfl
    [.reconfigureRobot, .controller (.availabilityRead (some true)),
     .controller (.capabilitiesInstructed none),
     .controller (.capabilitiesChanged (.registered 3) bakingRobot.capabilities),
     .reconfigureRobot, .controller (.availabilityRead (some false))]
    (fun _ s => Option.any (fun result : System × List Output =>
      decide (result.1.controller.worker = .answering whippingRequest 3 "opc.tcp://robot:3" ∧
        result.2 = [] ∧ result.1.controller.positionRemoteRobotMap.keys = {1, 3} ∧
        (findRobot result.1.controller 1).map (·.position) = some 1 ∧
        (findRobot result.1.controller 3).map (·.capabilities) = some bakingRobot.capabilities))
      (step ownProfilesKitchen s .returned)) (by decide)
  obtain ⟨⟨after, outputs⟩, returned, answered⟩ := (Option.any_eq_true _ _).mp shown
  obtain ⟨answering, nothing, keys, first, third⟩ := of_decide_eq_true answered
  have nothing : outputs = [] := nothing
  rw [nothing] at returned
  refine ⟨_, s, after, adapted.resumed followed, returned, answering, _, whipping, rfl, rfl, ?_⟩
  intro key robot found standing
  have member := Finmap.mem_keys.mpr (Finmap.mem_of_lookup_eq_some found)
  have keys : after.controller.positionRemoteRobotMap.keys = {1, 3} := keys
  rw [keys, Finset.mem_insert, Finset.mem_singleton] at member
  rcases member with rfl | rfl
  · have first : (findRobot after.controller 1).map (·.position) = some 1 := first
    rw [found, Option.map_some, standing] at first
    contradiction
  · have third : (findRobot after.controller 3).map (·.capabilities) =
        some bakingRobot.capabilities := third
    rw [found, Option.map_some] at third
    rw [Option.some.inj third]
    decide

end Answers

end CpsKitchen.Selection
