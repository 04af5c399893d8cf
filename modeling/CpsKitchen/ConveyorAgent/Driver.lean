import CpsKitchen.ConveyorAgent.Transitions

/-!
# What keeps the belt going

A moving conveyor waits either for its timer or for an answer of the
controller, never for both and never for nothing. The wait lasts until its
completion handler runs. Six handlers hand this duty on to each other, and an
idling conveyor has nothing left that could be forgotten.
-/

namespace CpsKitchen.ConveyorAgent

open CpsKitchen.Reactive CpsKitchen.Recipes
open CpsKitchen.RobotAgent (HandoverReply timeUnit)

set_option autoImplicit false

variable {config : Config} {c after : Conveyor} {event : Event} {outputs : List Output}

def Handler.isTimer : Handler → Bool
  | .timerCompleted _ => true
  | _ => false

/-- Waits of `steady_timer_` that are armed or whose completion is posted. -/
def outstandingWaits (c : Conveyor) : Nat :=
  c.steadyTimer.isSome.toNat + c.posted.countP Handler.isTimer

/-- Exactly one of a pending wait and a non-empty queue of requests. -/
def WaitsForOne (c : Conveyor) : Prop :=
  outstandingWaits c = 1 ∧ c.nextRobotRequestQueue = [] ∨
    outstandingWaits c = 0 ∧ c.nextRobotRequestQueue ≠ []

structure Driver (c : Conveyor) : Prop where
  notAborted : .timerAborted ∉ c.posted
  idling : c.stateStatus = .idling → c.worker = .betweenHandlers ∧ outstandingWaits c = 0 ∧
    c.nextRobotRequestQueue = [] ∧ c.notifications = ∅ ∧ c.occupiedPlates = ∅
  moving : c.stateStatus = .moving → c.worker = .betweenHandlers → WaitsForOne c
  looping : c.worker ≠ .betweenHandlers → outstandingWaits c = 0
  collecting : ∀ left, c.worker = .retrievingFinishedOrders left ∨
    c.worker = .deliveringFinishedOrders left → c.nextRobotRequestQueue = []

theorem initial_driver (started : c = initial config) : Driver c := by
  rw [started]
  constructor <;> simp [initial, outstandingWaits]

/-- Nothing that drives the conveyor differs, but harmless handlers may come
or go. -/
theorem Driver.transport (driver : Driver c) (notAborted : .timerAborted ∉ after.posted)
    (waits : outstandingWaits after = outstandingWaits c)
    (status : after.stateStatus = c.stateStatus) (worker : after.worker = c.worker)
    (queue : after.nextRobotRequestQueue = c.nextRobotRequestQueue)
    (notifications : after.notifications = c.notifications)
    (occupied : after.occupiedPlates = c.occupiedPlates) : Driver after where
  notAborted := notAborted
  idling := by
    rw [status, worker, waits, queue, notifications, occupied]
    exact driver.idling
  moving := by
    rw [status, worker]
    intro moving idle
    have waiting := driver.moving moving idle
    unfold WaitsForOne
    rw [waits, queue]
    exact waiting
  looping := by
    rw [worker, waits]
    exact driver.looping
  collecting := by
    rw [worker, queue]
    exact driver.collecting

theorem outstandingWaits_post {handler : Handler} (plain : handler.isTimer = false) :
    outstandingWaits (post c handler) = outstandingWaits c := by
  simp [outstandingWaits, post, plain]

theorem Driver.post (driver : Driver c) {handler : Handler} (plain : handler.isTimer = false)
    (notAborted : handler ≠ .timerAborted) : Driver (post c handler) := by
  refine driver.transport ?_ (outstandingWaits_post plain) rfl rfl rfl rfl rfl
  intro aborted
  rcases List.mem_append.mp aborted with before | new
  · exact driver.notAborted before
  · exact notAborted (List.mem_singleton.mp new).symm

theorem outstandingWaits_take {handler : Handler} {posted : List Handler}
    (next : c.posted = handler :: posted) :
    outstandingWaits c = outstandingWaits (takeHandler c posted) + handler.isTimer.toNat := by
  simp only [outstandingWaits, takeHandler, next, List.countP_cons]
  cases handler.isTimer <;> simp [Nat.add_assoc]

theorem Driver.take (driver : Driver c) {handler : Handler} {posted : List Handler}
    (next : c.posted = handler :: posted) (plain : handler.isTimer = false) :
    Driver (takeHandler c posted) := by
  have waits := outstandingWaits_take next
  rw [plain, Bool.toNat_false, Nat.add_zero] at waits
  refine driver.transport ?_ waits.symm rfl rfl rfl rfl rfl
  intro aborted
  exact driver.notAborted (by rw [next]; exact List.mem_cons_of_mem _ aborted)

theorem armTimer_waits (task : TimerTask) (delay : Nat) (none : outstandingWaits c = 0) :
    outstandingWaits (armTimer c task delay) = 1 ∧ (armTimer c task delay).posted = c.posted := by
  have noWait : c.steadyTimer = .none := by
    cases wait : c.steadyTimer with
    | none => rfl
    | some wait => simp [outstandingWaits, wait] at none
  have posted : (armTimer c task delay).posted = c.posted := by simp [armTimer, noWait]
  refine ⟨?_, posted⟩
  rw [outstandingWaits, noWait, Option.isSome_none, Bool.toNat_false, Nat.zero_add] at none
  rw [outstandingWaits, posted, none]
  rfl

theorem driver_armed (task : TimerTask) (delay : Nat) (none : outstandingWaits c = 0)
    (notAborted : .timerAborted ∉ c.posted) (moving : c.stateStatus = .moving)
    (idle : c.worker = .betweenHandlers) (queue : c.nextRobotRequestQueue = []) :
    Driver (armTimer c task delay) := by
  obtain ⟨waits, posted⟩ := armTimer_waits task delay none
  exact
    { notAborted := by rw [posted]; exact notAborted
      idling := by
        intro idling
        have idling : c.stateStatus = .idling := idling
        rw [moving] at idling
        contradiction
      moving := fun _ _ => .inl ⟨waits, queue⟩
      looping := fun busy => absurd idle busy
      collecting := by simp [armTimer, idle] }

theorem driver_looping (none : outstandingWaits c = 0) (notAborted : .timerAborted ∉ c.posted)
    (moving : c.stateStatus = .moving) (busy : c.worker ≠ .betweenHandlers)
    (queue : ∀ left, c.worker = .retrievingFinishedOrders left ∨
      c.worker = .deliveringFinishedOrders left → c.nextRobotRequestQueue = []) : Driver c where
  notAborted := notAborted
  idling := by
    intro idling
    rw [moving] at idling
    contradiction
  moving := fun _ idle => absurd idle busy
  looping := fun _ => none
  collecting := queue

theorem determineNextMovement_driver (none : outstandingWaits c = 0)
    (notAborted : .timerAborted ∉ c.posted) (moving : c.stateStatus = .moving)
    (queue : c.nextRobotRequestQueue = []) : Driver (determineNextMovement c) := by
  have decided := determineNextMovement_cases c
  generalize determineNextMovement c = after at decided
  cases decided with
  | retrieves =>
      exact driver_looping none notAborted moving
        (by simp [handleRetrieveFinishedOrders, setWorker]) (fun _ _ => queue)
  | requests =>
      exact driver_looping none notAborted moving (by simp [requestNextRobots, setWorker])
        (fun _ _ => queue)
  | idles notNotified empty =>
      exact
        { notAborted := notAborted
          idling := fun _ => ⟨rfl, none, queue, notNotified, empty⟩
          moving := by simp
          looping := by simp [setWorker]
          collecting := by simp [setWorker] }

theorem Driver.moving_of_busy (driver : Driver c) (busy : c.worker ≠ .betweenHandlers) :
    c.stateStatus = .moving := by
  cases status : c.stateStatus with
  | moving => rfl
  | idling => exact absurd (driver.idling status).1 busy

theorem Driver.moving_of_wait (driver : Driver c) (waits : outstandingWaits c ≠ 0) :
    c.stateStatus = .moving ∧ c.worker = .betweenHandlers ∧ outstandingWaits c = 1 ∧
      c.nextRobotRequestQueue = [] := by
  have idle : c.worker = .betweenHandlers := by
    by_contra busy
    exact waits (driver.looping busy)
  have moving : c.stateStatus = .moving := by
    cases status : c.stateStatus with
    | moving => rfl
    | idling => exact absurd (driver.idling status).2.1 waits
  rcases driver.moving moving idle with waiting | waiting
  · exact ⟨moving, idle, waiting⟩
  · exact absurd waiting.1 waits

theorem Driver.moving_of_queue (driver : Driver c) (queue : c.nextRobotRequestQueue ≠ [])
    (idle : c.worker = .betweenHandlers) :
    c.stateStatus = .moving ∧ outstandingWaits c = 0 := by
  have moving : c.stateStatus = .moving := by
    cases status : c.stateStatus with
    | moving => rfl
    | idling => exact absurd (driver.idling status).2.2.1 queue
  rcases driver.moving moving idle with waiting | waiting
  · exact absurd waiting.2 queue
  · exact ⟨moving, waiting.1⟩

/-- The completion of a wait is run: then nothing else is waited for. -/
theorem Driver.after_wait (driver : Driver c) {task : TimerTask} {posted : List Handler}
    (next : c.posted = .timerCompleted task :: posted) :
    c.stateStatus = .moving ∧ c.nextRobotRequestQueue = [] ∧
      outstandingWaits (takeHandler c posted) = 0 ∧ .timerAborted ∉ posted := by
  have waits := outstandingWaits_take next
  rw [Handler.isTimer, Bool.toNat_true] at waits
  obtain ⟨moving, _, one, queue⟩ := driver.moving_of_wait (by omega)
  refine ⟨moving, queue, by omega, ?_⟩
  intro aborted
  exact driver.notAborted (by rw [next]; exact List.mem_cons_of_mem _ aborted)

theorem takeNextRobot_driver {answer : NextRobot} {position : Position} {rest : List Position}
    (driver : Driver c) (idle : c.worker = .betweenHandlers)
    (front : c.nextRobotRequestQueue = position :: rest) :
    Driver (takeNextRobot c answer position rest) := by
  obtain ⟨moving, none⟩ := driver.moving_of_queue (by simp [front]) idle
  unfold takeNextRobot
  simp only
  split
  next last =>
    split
    · exact driver_armed _ _ none driver.notAborted moving idle last
    · exact driver_armed _ _ none driver.notAborted moving idle last
  next more =>
    have popped : Driver { c with nextRobotRequestQueue := rest } :=
      { notAborted := driver.notAborted
        idling := by simp [moving]
        moving := fun _ _ => .inr ⟨none, more⟩
        looping := fun busy => absurd idle busy
        collecting := by simp [idle] }
    split
    · exact popped.transport popped.notAborted rfl rfl rfl rfl rfl rfl
    · exact popped

theorem handles_driver (driver : Driver c) {handler : Handler} {posted : List Handler}
    (idle : c.worker = .betweenHandlers) (next : c.posted = handler :: posted)
    (ran : Handles config (takeHandler c posted) handler after) : Driver after := by
  cases ran with
  | notificationDropped | answerIgnored | swapped | reconnectedInTime =>
      have taken := driver.take next rfl
      exact taken.transport taken.notAborted rfl rfl rfl rfl rfl rfl
  | notificationTaken robotEndpoint robotPosition map moving =>
      have taken := driver.take next rfl
      exact
        { notAborted := taken.notAborted
          idling := by
            intro idling
            have idling : c.stateStatus = .idling := idling
            have moving : c.stateStatus = .moving := moving
            rw [moving] at idling
            contradiction
          moving := taken.moving
          looping := taken.looping
          collecting := taken.collecting }
  | notificationStarts robotEndpoint robotPosition map idling =>
      have taken := driver.take next rfl
      obtain ⟨_, none, queue, _, _⟩ := taken.idling idling
      exact driver_armed _ _ none taken.notAborted rfl idle queue
  | answerTaken answer map position rest front =>
      have taken := driver.take next rfl
      have robots : Driver (withRobots (takeHandler c posted) map) :=
        taken.transport taken.notAborted rfl rfl rfl rfl rfl rfl
      exact takeNextRobot_driver robots idle front
  | reconnected moving waiting =>
      have taken := driver.take next rfl
      have none := (taken.moving_of_queue waiting idle).2
      exact determineNextMovement_driver none taken.notAborted moving rfl
  | retrieves =>
      obtain ⟨moving, queue, none, notAborted⟩ := driver.after_wait next
      exact driver_looping none notAborted moving
        (by simp [handleRetrieveFinishedOrders, setWorker]) (fun _ _ => queue)
  | moves =>
      obtain ⟨moving, queue, none, notAborted⟩ := driver.after_wait next
      obtain ⟨plates, map, same⟩ :=
        movePlates_frame config (takeHandler c posted) 1 config.plateCount
      rw [moveConveyor, same]
      exact driver_looping none notAborted moving (by simp [setWorker]) (fun _ _ => queue)
  | aborted => exact absurd (by simp [next]) driver.notAborted

theorem Driver.loops (driver : Driver c) (worker : Worker) (busy : c.worker ≠ .betweenHandlers)
    (still : worker ≠ .betweenHandlers)
    (queue : ∀ left, worker = .retrievingFinishedOrders left ∨
      worker = .deliveringFinishedOrders left → c.nextRobotRequestQueue = []) :
    Driver (setWorker c worker) := by
  have moving := driver.moving_of_busy busy
  exact driver_looping (driver.looping busy) driver.notAborted moving still queue

theorem Visits.frame (visit : Visits c event after outputs) :
    after.posted = c.posted ∧ after.steadyTimer = c.steadyTimer ∧
      after.stateStatus = c.stateStatus ∧ after.worker = c.worker ∧
      (after.nextRobotRequestQueue = c.nextRobotRequestQueue ∨
        ∃ plateId reply, event = .requestNextRobot plateId reply) := by
  cases visit with
  | keptNotification | droppedNotification | notDeliverable | orderRefused | orderCompleted
  | notInstructed | taskRefused | taskMisplaced | taskAccepted =>
      exact ⟨rfl, rfl, rfl, rfl, .inl rfl⟩
  | handedOver position dish reply =>
      unfold handleHandoverFinishedOrder
      split
      · exact ⟨rfl, rfl, rfl, rfl, .inl rfl⟩
      · exact ⟨rfl, rfl, rfl, rfl, .inl rfl⟩
  | notRequested plateId reply => exact ⟨rfl, rfl, rfl, rfl, .inl rfl⟩
  | requested plateId => exact ⟨rfl, rfl, rfl, rfl, .inr ⟨plateId, some true, rfl⟩⟩

theorem visits_driver (driver : Driver c) (busy : c.worker ≠ .betweenHandlers)
    (visit : Visits c event after outputs)
    (queue : ∀ left, c.worker = .retrievingFinishedOrders left ∨
      c.worker = .deliveringFinishedOrders left → after.nextRobotRequestQueue = []) :
    Driver after := by
  obtain ⟨posted, timer, status, worker, _⟩ := visit.frame
  have moving := driver.moving_of_busy busy
  have none : outstandingWaits after = 0 := by
    rw [outstandingWaits, posted, timer]
    exact driver.looping busy
  refine driver_looping none ?_ (status.trans moving) ?_ ?_
  · rw [posted]
    exact driver.notAborted
  · rw [worker]
    exact busy
  · rw [worker]
    exact queue

theorem armMovement_driver (driver : Driver c) (busy : c.worker ≠ .betweenHandlers) :
    Driver (armMovement (setWorker c .betweenHandlers)) := by
  have none : outstandingWaits (setWorker c .betweenHandlers) = 0 := driver.looping busy
  have moving := driver.moving_of_busy busy
  unfold armMovement
  split
  next empty => exact driver_armed _ _ none driver.notAborted moving rfl empty
  next waiting =>
    exact
      { notAborted := driver.notAborted
        idling := by simp [setWorker, moving]
        moving := fun _ _ => .inr ⟨none, waiting⟩
        looping := by simp [setWorker]
        collecting := by simp [setWorker] }

theorem step_driver (driver : Driver c) (step : Step config c event after outputs) :
    Driver after := by
  cases step with
  | notificationReceived | answerReceived | positionChanged =>
      exact driver.post rfl (by simp)
  | robotStopped | controllerLost =>
      exact driver.transport driver.notAborted rfl rfl rfl rfl rfl rfl
  | controllerConnected =>
      have connected : Driver { c with controllerClient := true } :=
        driver.transport driver.notAborted rfl rfl rfl rfl rfl rfl
      exact connected.post rfl (by simp)
  | expired wait armed =>
      refine driver.transport ?_ ?_ rfl rfl rfl rfl rfl
      · simpa [post] using driver.notAborted
      · simp [outstandingWaits, post, armed, Handler.isTimer]
        omega
  | handled environment handler posted idle next ran => exact handles_driver driver idle next ran
  | retrieving left position reply loop member ran =>
      have queue := driver.collecting left (.inl loop)
      have crossed := driver.loops (.retrievingFinishedOrders (left.erase position))
        (by simp [loop]) (by simp) (fun _ _ => queue)
      refine visits_driver crossed (by simp [setWorker]) ran ?_
      intro _ _
      rcases ran.frame.2.2.2.2 with same | ⟨_, _, other⟩
      · exact same.trans queue
      · contradiction
  | retrieved loop =>
      exact driver.loops _ (by simp [loop]) (by simp) (by simp)
  | requesting left plateId reply loop member ran =>
      have crossed := driver.loops (.requestingNextRobots (left.erase plateId))
        (by simp [loop]) (by simp) (by simp)
      exact visits_driver crossed (by simp [setWorker]) ran (by simp [setWorker])
  | requested loop => exact armMovement_driver driver (by simp [loop])
  | delivering left plateId kitchen robot loop member ran =>
      have queue := driver.collecting left (.inr loop)
      have crossed := driver.loops (.deliveringFinishedOrders (left.erase plateId))
        (by simp [loop]) (by simp) (fun _ _ => queue)
      refine visits_driver crossed (by simp [setWorker]) ran ?_
      intro _ _
      rcases ran.frame.2.2.2.2 with same | ⟨_, _, other⟩
      · exact same.trans queue
      · contradiction
  | delivered loop =>
      have busy : c.worker ≠ .betweenHandlers := by simp [loop]
      exact determineNextMovement_driver (driver.looping busy) driver.notAborted
        (driver.moving_of_busy busy)
        (driver.collecting ∅ (.inr loop))

theorem reaches_driver {allowed : Conveyor → Event → Prop} {history : History Event Output}
    (reached : (machine config).Reaches allowed history c) : Driver c :=
  reached.invariant (fun _ started => initial_driver started)
    (fun _ _ _ _ driver _ taken => step_driver driver (step_cases taken).2)

/-- Between two handlers the conveyor either idles and has nothing to wait for
or to forget, or it moves and waits for exactly one of its timer and an answer
of the controller. The timer is never armed while it is pending. -/
theorem one_driver_between_handlers (config : Config) (history : History Event Output)
    (c : Conveyor) (reached : (machine config).Reaches (fun _ _ => True) history c)
    (idle : c.worker = .betweenHandlers) :
    (c.stateStatus = .idling ∧ outstandingWaits c = 0 ∧ c.nextRobotRequestQueue = [] ∧
        c.notifications = ∅ ∧ c.occupiedPlates = ∅ ∨
      c.stateStatus = .moving ∧ WaitsForOne c) ∧
    .timerAborted ∉ c.posted := by
  have driver := reaches_driver reached
  refine ⟨?_, driver.notAborted⟩
  cases status : c.stateStatus with
  | idling => exact .inl ⟨rfl, (driver.idling status).2⟩
  | moving => exact .inr ⟨rfl, driver.moving status idle⟩

/-- A robot hands a half done dish over and a next robot is asked for. The
conveyor then waits for the answer, with no timer running. -/
theorem conveyor_waits_for_answer :
    ∃ history c, (machine fivePlates).Reaches (fun _ _ => True) history c ∧
      c.worker = .betweenHandlers ∧ c.stateStatus = .moving ∧
      c.nextRobotRequestQueue = [2] ∧ WaitsForOne c := by
  obtain ⟨history, c, reached, shown⟩ := Machine.exists_reaches_of_replay (machine fivePlates)
    (fun _ _ => True) (show (machine fivePlates).start (initial fivePlates) from rfl)
    [.receiveFinishedOrderNotification "opc.tcp://robot:2" 2, .runHandler ⟨true, none, none⟩,
     .timerExpires, .runHandler ⟨true, none, none⟩,
     .retrieve 2 (some (7, ⟨"opc.tcp://robot:2", 2, 3, 4, false⟩)), .retrieved,
     .requestNextRobot 2 (some true), .requested]
    (fun _ c => decide (c.worker = .betweenHandlers ∧ c.stateStatus = .moving ∧
      c.nextRobotRequestQueue = [2])) (by decide)
  obtain ⟨idle, moving, queue⟩ := of_decide_eq_true shown
  have driver := one_driver_between_handlers fivePlates history c reached idle
  rw [moving] at driver
  exact ⟨history, c, reached, idle, moving, queue, by simpa using driver.1⟩

end CpsKitchen.ConveyorAgent
