import CpsKitchen.ControllerAgent.Receivers
import CpsKitchen.Reactive.Termination

/-!
# The end of a request's handler

A handler that has begun waits for one call at a time and goes on with every
reply, so it comes to its end unless the MAPE implementation calls back for ever.
Each of its callbacks is worth a bounded number of further steps. At the end the
requester has been answered, if the client that the handler found had not failed.
-/

namespace CpsKitchen.ControllerAgent

open CpsKitchen.Reactive CpsKitchen.Recipes

set_option autoImplicit false

variable {config : Config} {c after : Controller} {event : Event} {outputs : List Output}
  {request : Request} {recipe : Recipe}

section Progress

/-- A bound for the steps of the handler that are left when the MAPE
implementation does not call back any more. -/
def stepsLeft : Worker → Nat
  | .initializingReceiver _ => 3
  | .choosing _ => 2
  | .checkingFirst _ _ _ => 6
  | .checkingSecond _ _ _ => 5
  | .switchingFirst _ _ _ | .checkingReconfiguration _ _ _ => 4
  | .switchingSecond _ _ _ | .reconfiguring _ _ _ => 3
  | .answering _ _ _ => 1
  | .betweenHandlers | .initializingRobot _ _ | .readingPendingCommit _
  | .resolvingMissedCommit _ | .committingFirst _ _ _ | .committingSecond _ _ => 0

def isCallback : Event → Bool
  | .swapRobotPositions _ _ | .reconfigureRobotCapability _ _ => true
  | _ => false

def advances : Event → Bool
  | .receiverInitialized _ | .availabilityRead _ | .positionSwitched _ | .capabilitiesInstructed _
  | .nextRobotChosen _ | .nextRobotReceived _ => true
  | _ => false

def advancesIn (fragment : History Event Output) : Nat :=
  fragment.countP fun entry => advances entry.1

def callbacksIn (fragment : History Event Output) : Nat :=
  fragment.countP fun entry => isCallback entry.1

theorem stepsLeft_updateAt (change : RemoteRobot → RemoteRobot) (place : Place) :
    stepsLeft (updateAt c change place).worker = stepsLeft c.worker := by
  cases place with
  | registered position => rfl
  | held =>
      unfold updateAt
      cases shown : c.worker <;> simp only [shown] <;> rfl

theorem stepsLeft_nextRobotChosen (c : Controller) (request : Request)
    (position : Option Position) :
    stepsLeft (nextRobotChosen c request position).worker ≤ 1 := by
  unfold nextRobotChosen
  simp only
  split
  · exact Nat.zero_le _
  · exact le_rfl

/-- While the MAPE implementation chooses no call of the handler returns. -/
theorem choosing_waits (choosing : c.worker = .choosing request)
    (returned : advances event = true)
    (taken : step config c event = some (after, outputs)) :
    ∃ position, event = .nextRobotChosen position := by
  cases event with
  | nextRobotChosen position => exact ⟨position, rfl⟩
  | receiverInitialized | availabilityRead | positionSwitched | capabilitiesInstructed
  | nextRobotReceived =>
      simp [step, receiverInitialized, availabilityRead, positionSwitched, capabilitiesInstructed,
        nextRobotReceived, choosing] at taken
  | _ => cases returned

/-- A step of the handler leaves fewer, only a callback adds some. -/
theorem step_stepsLeft (begun : event ≠ .runHandler)
    (taken : step config c event = some (after, outputs)) :
    (advances event).toNat + stepsLeft after.worker ≤
      stepsLeft c.worker + 4 * (isCallback event).toNat := by
  by_cases returned : ∃ position, event = .nextRobotChosen position
  · obtain ⟨position, rfl⟩ := returned
    simp only [step] at taken
    split at taken
    next request choosing =>
      cases taken
      have few := stepsLeft_nextRobotChosen c request position
      rw [choosing]
      exact Nat.add_le_add_left few 1
    · contradiction
  cases step_cases taken with
  | handled => exact absurd rfl begun
  | registrationReceived | requestReceived | receiverStopped =>
      exact (Nat.zero_add _).le
  | positionNoticed place | positionChanged place | capabilitiesNoticed place
  | capabilitiesChanged place | robotStopped place =>
      exact ((Nat.zero_add _).trans (stepsLeft_updateAt _ place)).le
  | robotRegistered robot position =>
      refine Nat.le_trans (Nat.le_of_eq ?_) (Nat.zero_le _)
      unfold resolveMissedNewPositionCommit
      split
      · rfl
      · split <;> rfl
  | firstCommitted key second => cases second <;> exact Nat.zero_le _
  | robotDropped | commitMissed | noCommitMissed | missedCommitted | secondCommitted =>
      exact Nat.zero_le _
  | adaptationRefused _ request choosing =>
      have waits : advances event = false :=
        Bool.eq_false_iff.mpr fun returns => returned (choosing_waits choosing returns taken)
      rw [waits, Bool.toNat_false, Nat.zero_add]
      exact Nat.le_add_right _ _
  | swapChecked _ _ _ choosing | reconfigurationChecked _ _ _ choosing =>
      rw [choosing]
      simp [advances, isCallback, stepsLeft, setWorker]
  | notAvailable request position answer checking =>
      generalize c.worker = worker at checking
      cases checking <;> simp [advances, isCallback, stepsLeft, unavailable, setWorker]
  | firstAvailable request fromPosition toPosition checking =>
      rw [checking]
      unfold checkSecond
      split
      · simp [advances, isCallback, stepsLeft, setWorker]
      · split <;> simp [advances, isCallback, stepsLeft, setWorker]
  | receiverInitialized _ _ waiting | secondAvailable _ _ _ waiting
  | robotAvailable _ _ _ waiting | firstFailed _ _ _ waiting | firstRefused _ _ _ waiting
  | firstSwitches _ _ _ waiting | onlySwitches _ _ _ waiting | secondRefused _ _ _ waiting
  | secondSwitches _ _ _ _ waiting | reconfigurationInstructed _ _ _ _ waiting
  | answered _ _ _ _ waiting =>
      rw [waiting]
      simp [advances, isCallback, stepsLeft, setWorker]
  | notAnswered position | answers position => exact absurd ⟨position, rfl⟩ returned

theorem reaches_stepsLeft {began : Controller} {fragment : History Event Output}
    (reached : ((machine config).resume began).Reaches (ReachableRequester request) fragment c) :
    advancesIn fragment + stepsLeft c.worker ≤
      stepsLeft began.worker + 4 * callbacksIn fragment := by
  induction reached with
  | start initial =>
      rw [initial]
      exact (Nat.zero_add _).le
  | @step fragment before after event outputs _ reachable taken ih =>
      have begun : event ≠ .runHandler := by
        rintro rfl
        exact reachable.2
      have paid := step_stepsLeft begun taken
      have advanced : advancesIn (fragment ++ [(event, outputs)]) =
          advancesIn fragment + (advances event).toNat := by
        rw [advancesIn, List.countP_append, List.countP_singleton, advancesIn]
        cases advances event <;> rfl
      have called : callbacksIn (fragment ++ [(event, outputs)]) =
          callbacksIn fragment + (isCallback event).toNat := by
        rw [callbacksIn, List.countP_append, List.countP_singleton, callbacksIn]
        cases isCallback event <;> rfl
      omega

/-- What the handler does next: the MAPE implementation names this robot, the
call it waits for returns this reply, and the requester can be reached. -/
def nextEvent (c : Controller) (position : Option Position) (reply : Option Bool) : Event :=
  match c.worker with
  | .initializingReceiver _ => .receiverInitialized true
  | .choosing _ => .nextRobotChosen position
  | .checkingFirst _ _ _ | .checkingSecond _ _ _ | .checkingReconfiguration _ _ _ =>
      .availabilityRead reply
  | .switchingFirst _ _ _ | .switchingSecond _ _ _ => .positionSwitched reply
  | .reconfiguring _ _ _ => .capabilitiesInstructed reply
  | _ => .nextRobotReceived
      (if servingClient c = some ⟨false⟩ then none else some (reply = some true))

/-- The handler of a request can go on towards its end with every reply, and
some run comes there. -/
structure GoesOn (config : Config) (request : Request) (c : Controller) : Prop where
  next : ∀ position reply, ∃ after outputs,
    ReachableRequester request c (nextEvent c position reply) ∧
      step config c (nextEvent c position reply) = some (after, outputs) ∧
        stepsLeft after.worker < stepsLeft c.worker
  ends : ∃ rest finished,
    ((machine config).resume c).Reaches (ReachableRequester request) rest finished ∧
      finished.worker = .betweenHandlers ∧ rest.length ≤ stepsLeft c.worker

theorem findSuitableRobot_goes_on (c : Controller)
    (known : config.recipeParser.getRecipe request.recipeId = some recipe)
    (valid : request.processedSteps ≤ recipe.actionQueue.length) :
    findSuitableRobot config c request = some (setWorker c (.choosing request)) := by
  rw [findSuitableRobot, known]
  exact if_neg (Nat.not_lt.mpr valid)

def isServing (request : Request) (c : Controller) : Prop :=
  ∃ phase, c.worker.serving = some (request, phase)

theorem nextEvent_advances (position : Option Position) (reply : Option Bool) :
    advances (nextEvent c position reply) = true ∧
      isCallback (nextEvent c position reply) = false := by
  unfold nextEvent
  split <;> exact ⟨rfl, rfl⟩

theorem nextEvent_reachable (position : Option Position) (reply : Option Bool) :
    ReachableRequester request c (nextEvent c position reply) := by
  unfold nextEvent
  split
  case h_9 =>
    constructor
    · exact fun failed => if_pos failed
    · intro runs
      simp [runs]
  all_goals first | exact ⟨trivial, rfl⟩ | exact ⟨trivial, trivial⟩

theorem serving_next (serving : isServing request c)
    (known : config.recipeParser.getRecipe request.recipeId = some recipe)
    (valid : request.processedSteps ≤ recipe.actionQueue.length) (position : Option Position)
    (reply : Option Bool) :
    ∃ after outputs, step config c (nextEvent c position reply) = some (after, outputs) ∧
      (isServing request after ∨ after.worker = .betweenHandlers) := by
  obtain ⟨phase, serving⟩ := serving
  cases worker : c.worker with
  | initializingReceiver other =>
      rw [worker] at serving
      cases serving
      have found := findSuitableRobot_goes_on (setReceiver c request.receiver true) known valid
      simp only [nextEvent, worker, step, receiverInitialized, if_true, found, Option.map_some]
      exact ⟨_, _, rfl, .inl ⟨.deciding, rfl⟩⟩
  | choosing other =>
      rw [worker] at serving
      cases serving
      simp only [nextEvent, worker, step]
      refine ⟨_, _, rfl, ?_⟩
      unfold nextRobotChosen
      simp only
      split
      · exact .inr rfl
      · exact .inl ⟨.answering, rfl⟩
  | checkingFirst other fromPosition toPosition =>
      rw [worker] at serving
      cases serving
      simp only [nextEvent, worker, step, availabilityRead]
      split
      · refine ⟨_, _, rfl, .inl ⟨.deciding, ?_⟩⟩
        unfold checkSecond
        split
        · rfl
        · split <;> rfl
      · exact ⟨_, _, rfl, .inl ⟨.deciding, rfl⟩⟩
  | checkingSecond other fromPosition toPosition
  | checkingReconfiguration other robotPosition profile =>
      rw [worker] at serving
      cases serving
      simp only [nextEvent, worker, step, availabilityRead]
      split <;> exact ⟨_, _, rfl, .inl ⟨.deciding, rfl⟩⟩
  | switchingFirst other fromPosition toPosition =>
      rw [worker] at serving
      cases serving
      simp only [nextEvent, worker, step, positionSwitched]
      split
      · exact ⟨_, _, rfl, .inl ⟨.deciding, rfl⟩⟩
      · exact ⟨_, _, rfl, .inl ⟨.deciding, rfl⟩⟩
      · refine ⟨_, _, rfl, .inl ⟨.deciding, ?_⟩⟩
        unfold switchSecond
        split <;> rfl
  | switchingSecond other fromPosition toPosition =>
      rw [worker] at serving
      cases serving
      simp only [nextEvent, worker, step, positionSwitched]
      split <;> exact ⟨_, _, rfl, .inl ⟨.deciding, rfl⟩⟩
  | reconfiguring other robotPosition profile =>
      rw [worker] at serving
      cases serving
      simp only [nextEvent, worker, step, capabilitiesInstructed]
      exact ⟨_, _, rfl, .inl ⟨.deciding, rfl⟩⟩
  | answering other robotPosition robotEndpoint =>
      rw [worker] at serving
      cases serving
      simp only [nextEvent, worker, step, nextRobotReceived]
      exact ⟨_, _, rfl, .inr rfl⟩
  | betweenHandlers | initializingRobot | readingPendingCommit | resolvingMissedCommit
  | committingFirst | committingSecond =>
      rw [worker] at serving
      cases serving

theorem serving_goes_on (serving : isServing request c)
    (known : config.recipeParser.getRecipe request.recipeId = some recipe)
    (valid : request.processedSteps ≤ recipe.actionQueue.length) :
    GoesOn config request c := by
  have next : ∀ c, isServing request c → ∀ position reply, ∃ after outputs,
      ReachableRequester request c (nextEvent c position reply) ∧
        step config c (nextEvent c position reply) = some (after, outputs) ∧
        (isServing request after ∨ after.worker = .betweenHandlers) ∧
          stepsLeft after.worker < stepsLeft c.worker := by
    intro c serving position reply
    obtain ⟨after, outputs, taken, still⟩ := serving_next serving known valid position reply
    obtain ⟨advanced, quiet⟩ := nextEvent_advances (c := c) position reply
    have reachable : ReachableRequester request c (nextEvent c position reply) :=
      nextEvent_reachable position reply
    have begun : nextEvent c position reply ≠ .runHandler := by
      intro begins
      rw [begins] at reachable
      exact reachable.2
    have fewer := step_stepsLeft begun taken
    rw [advanced, quiet] at fewer
    refine ⟨after, outputs, reachable, taken, still, ?_⟩
    simp only [Bool.toNat_true, Bool.toNat_false] at fewer
    omega
  constructor
  · intro position reply
    obtain ⟨after, outputs, reachable, taken, _, fewer⟩ := next c serving position reply
    exact ⟨after, outputs, reachable, taken, fewer⟩
  · have onward : ∀ c, isServing request c → ∃ event after outputs,
        ReachableRequester request c event ∧
          (machine config).step c event = some (after, outputs) ∧
          (isServing request after ∨ after.worker = .betweenHandlers) ∧
            stepsLeft after.worker < stepsLeft c.worker := by
      intro c serving
      exact ⟨_, next c serving none none⟩
    exact Machine.exists_final onward serving

end Progress

section Answers

/-- The controller keeps no client for the requester that has failed. -/
def HasNoFailedClient (c : Controller) (request : Request) : Prop :=
  c.nextRobotReceivers.lookup request.receiver ≠ some ⟨false⟩

instance (c : Controller) (request : Request) : Decidable (HasNoFailedClient c request) :=
  inferInstanceAs (Decidable (_ ≠ _))

theorem handler_begins {posted : List Handler} (running : c.running = true)
    (idle : c.worker = .betweenHandlers)
    (next : c.posted = .handleNextRobotRequest request :: posted)
    (known : config.recipeParser.getRecipe request.recipeId = some recipe)
    (valid : request.processedSteps ≤ recipe.actionQueue.length) :
    ∃ began, step config c .runHandler = some (began, []) ∧ stepsLeft began.worker ≤ 3 ∧
      ∃ phase, Serving request (decide (HasNoFailedClient c request)) phase [] began := by
  have kept : (cleanUp (takeHandler c posted)).nextRobotReceivers = c.nextRobotReceivers := rfl
  simp only [step, running, idle, next, handle, handleNextRobotRequest]
  split
  next unknown =>
    refine ⟨_, rfl, le_rfl, .connecting, rfl, fun _ => decide_eq_true ?_,
      fun other => absurd rfl other, rfl⟩
    have unknown : c.nextRobotReceivers.lookup request.receiver = none := unknown
    rw [HasNoFailedClient, unknown]
    exact Option.some_ne_none _ |>.symm
  next client =>
    have client : c.nextRobotReceivers.lookup request.receiver ≠ none := client
    rw [findSuitableRobot_goes_on _ known valid]
    refine ⟨_, rfl, Nat.le_succ 2, .deciding, rfl, fun impossible => (by cases impossible), ?_,
      rfl⟩
    intro _
    obtain ⟨receiver, client⟩ := Option.ne_none_iff_exists'.mp client
    have alive : decide (HasNoFailedClient c request) = receiver.running := by
      obtain ⟨running⟩ := receiver
      cases running <;> simp [HasNoFailedClient, client]
    have found : c.nextRobotReceivers.lookup request.receiver =
        some ⟨decide (HasNoFailedClient c request)⟩ := by
      rw [client, alive]
    exact found

/-- The handler of an accepted request begins, goes on with every reply and comes
to its end, unless the MAPE implementation calls back for ever. By then a
requester that can be reached is answered, by one call that comes through, if and
only if no failed client was kept for it. -/
theorem request_answered_iff (config : Config) (history : History Event Output)
    (before : Controller) (request : Request) (recipe : Recipe) (posted : List Handler)
    (reached : (machine config).Reaches DeadStaysDead history before)
    (running : before.running = true) (idle : before.worker = .betweenHandlers)
    (next : before.posted = .handleNextRobotRequest request :: posted)
    (known : config.recipeParser.getRecipe request.recipeId = some recipe)
    (valid : request.processedSteps ≤ recipe.actionQueue.length) :
    pendingRequests before <:+ (outputsOf history).filterMap accepted ∧
      ∃ began, step config before .runHandler = some (began, []) ∧
        ∀ fragment later, ((machine config).resume began).Reaches (ReachableRequester request)
            fragment later →
          advancesIn fragment + stepsLeft later.worker ≤ 3 + 4 * callbacksIn fragment ∧
          (later.worker ≠ .betweenHandlers → GoesOn config request later) ∧
          (later.worker = .betweenHandlers →
            (receivedCalls request fragment = 1 ↔ HasNoFailedClient before request)) := by
  obtain ⟨began, taken, few, initially⟩ := handler_begins running idle next known valid
  refine ⟨reaches_pendingRequests reached, began, taken, ?_⟩
  intro fragment later processed
  have paid := reaches_stepsLeft processed
  have stage := reaches_serving initially processed
  refine ⟨by omega, ?_, ?_⟩
  · intro busy
    rcases stage with ⟨phase, serving⟩ | served
    · exact serving_goes_on ⟨phase, serving.serving⟩ known valid
    · exact absurd served.free busy
  · intro through
    have served : Served request (decide (HasNoFailedClient before request)) fragment later := by
      rcases stage with ⟨phase, serving⟩ | served
      · have here := serving.serving
        rw [through] at here
        cases here
      · exact served
    rw [served.answered]
    by_cases fresh : HasNoFailedClient before request
    · simp [fresh]
    · simp [fresh]

private def firstRequest : Request := ⟨1, 0, "opc.tcp://kitchen", "KitchenType"⟩

private def requested : Controller := post initial (.handleNextRobotRequest firstRequest)

theorem first_request_answered :
    ∃ began, step deployment requested .runHandler = some (began, []) ∧
      GoesOn deployment firstRequest began ∧
      ∃ fragment finished, ((machine deployment).resume began).Reaches
          (ReachableRequester firstRequest) fragment finished ∧
        finished.worker = .betweenHandlers ∧ receivedCalls firstRequest fragment = 1 := by
  have accepted : (machine deployment).Reaches DeadStaysDead
      ([] ++ [(.chooseNextRobot firstRequest, [.requestAccepted firstRequest])]) requested :=
    .step (.start rfl) trivial rfl
  obtain ⟨recipe, known⟩ : ∃ recipe,
      deployment.recipeParser.getRecipe firstRequest.recipeId = some recipe := ⟨_, rfl⟩
  obtain ⟨_, began, taken, processed⟩ := request_answered_iff deployment _ requested firstRequest
    recipe [] accepted rfl rfl rfl known (Nat.zero_le _)
  obtain ⟨_, goesOn, _⟩ := processed [] began (.start rfl)
  have starts : began = setWorker (cleanUp (takeHandler requested []))
      (.initializingReceiver firstRequest) := by
    have same : some (began, []) = some (_, []) := taken.symm
    exact (Prod.mk.inj (Option.some.inj same)).1
  have goesOn := goesOn (by rw [starts]; exact Worker.noConfusion)
  obtain ⟨fragment, finished, followed, through, _⟩ := goesOn.ends
  refine ⟨began, taken, goesOn, fragment, finished, followed, through, ?_⟩
  exact ((processed fragment finished followed).2.2 through).mpr (by decide)

/-- The call of the first answer fails. The next request finds the same client
and is not answered, though the requester is back. -/
theorem no_answer_through_failed_client :
    ∃ history before, (machine deployment).Reaches DeadStaysDead history before ∧
      before.worker = .betweenHandlers ∧ before.posted = [.handleNextRobotRequest firstRequest] ∧
      ∃ began, step deployment before .runHandler = some (began, []) ∧
        ∃ fragment finished, ((machine deployment).resume began).Reaches
            (ReachableRequester firstRequest) fragment finished ∧
          finished.worker = .betweenHandlers ∧ receivedCalls firstRequest fragment = 0 := by
  obtain ⟨history, before, began, outputs, reached, taken, shown⟩ := Machine.exists_step_of_replay
    (machine deployment) DeadStaysDead (show (machine deployment).start initial from rfl)
    [.chooseNextRobot firstRequest, .runHandler, .receiverInitialized true, .nextRobotChosen none,
      .nextRobotReceived none, .chooseNextRobot firstRequest] .runHandler
    (fun _ before began outputs => decide (outputs = [] ∧ before.worker = .betweenHandlers ∧
        before.posted = [.handleNextRobotRequest firstRequest]) &&
      (((machine deployment).resume began).replay (ReachableRequester firstRequest) [] began
        [.nextRobotChosen none, .nextRobotReceived none]).any
        fun result : History Event Output × Controller =>
          decide (result.2.worker = .betweenHandlers ∧
            receivedCalls firstRequest result.1 = 0)) (by decide)
  rw [Bool.and_eq_true, decide_eq_true_eq, Option.any_eq_true] at shown
  obtain ⟨⟨rfl, idle, posted⟩, ⟨fragment, finished⟩, replayed, result⟩ := shown
  refine ⟨history, before, reached, idle, posted, began, taken, ?_⟩
  exact ⟨fragment, finished, (Machine.Reaches.start rfl).replay _ replayed,
    of_decide_eq_true result⟩

end Answers

end CpsKitchen.ControllerAgent
