import CpsKitchen.ConveyorAgent.Trips

/-!
# How long the belt can go on

While nothing comes from outside, every move of the belt brings a dish nearer to
where it is offered. A move without such a dish is the last one before the
conveyor idles or waits for an answer. So what the worker has still to do can be
counted, and every step takes something off it.
-/

namespace CpsKitchen.ConveyorAgent

open CpsKitchen.Reactive CpsKitchen.Recipes
open CpsKitchen.RobotAgent (HandoverReply timeUnit)
open CpsKitchen.RobotMap (RobotMap)

set_option autoImplicit false

variable {config : Config} {c after : Conveyor} {event : Event} {outputs : List Output}
  {plateId : PlateId}

section Attention

/-- The loops leave out nothing that they were started for. -/
structure Attends (c : Conveyor) : Prop where
  collected : ∀ left, c.worker = .retrievingFinishedOrders left → left ⊆ c.notifications
  covered : ∀ left, c.worker = .requestingNextRobots left → c.nextRobotRequestQueue = [] →
    ∀ plateId ∈ c.occupiedPlates, plateId ∉ left → goalOf (c.plates plateId) ≠ none

theorem attends_of_idle (idle : c.worker = .betweenHandlers) : Attends c := by
  constructor
  · simp [idle]
  · simp [idle]

theorem determineNextMovement_attends (c : Conveyor) : Attends (determineNextMovement c) := by
  have decided := determineNextMovement_cases c
  generalize determineNextMovement c = after at decided
  cases decided with
  | retrieves =>
      constructor
      · intro left loop
        cases loop
        exact Finset.Subset.refl _
      · intro left loop
        cases loop
  | requests =>
      constructor
      · intro left loop
        cases loop
      · intro left loop _ plateId placed visited
        cases loop
        exact absurd placed visited
  | idles => exact attends_of_idle rfl

theorem handles_attends (idle : c.worker = .betweenHandlers) {handler : Handler}
    (ran : Handles config c handler after) : Attends after := by
  cases ran with
  | notificationDropped | notificationTaken | notificationStarts | answerIgnored | swapped
  | reconnectedInTime | aborted => exact attends_of_idle idle
  | answerTaken answer map position rest =>
      apply attends_of_idle
      rw [(takeNextRobot_frame (withRobots c map) answer position rest).2.2.1]
      exact idle
  | reconnected => exact determineNextMovement_attends _
  | retrieves =>
      constructor
      · intro left loop
        cases loop
        exact Finset.Subset.refl _
      · intro left loop
        cases loop
  | moves =>
      constructor
      · intro left loop
        cases loop
      · intro left loop
        cases loop

theorem retrieving_attends {left : Finset Position} {position : Position}
    {reply : Option (DishId × HandoverReply)} (collected : left ⊆ c.notifications)
    (ran : Visits (setWorker c (.retrievingFinishedOrders (left.erase position)))
      (.retrieve position reply) after outputs) : Attends after := by
  have worker : after.worker = .retrievingFinishedOrders (left.erase position) :=
    ran.frame.2.2.2.1
  have kept : left.erase position ⊆ after.notifications := by
    cases ran with
    | keptNotification => exact (Finset.erase_subset _ _).trans collected
    | droppedNotification => exact Finset.erase_subset_erase _ collected
    | handedOver _ dish reply =>
        unfold handleHandoverFinishedOrder
        split <;> exact Finset.erase_subset_erase _ collected
  constructor
  · intro remaining loop
    rw [worker] at loop
    cases loop
    exact kept
  · intro remaining loop
    rw [worker] at loop
    contradiction

theorem requesting_attends {left : Finset PlateId} {reply : Option Bool}
    (attends : Attends c) (loop : c.worker = .requestingNextRobots left)
    (client : c.controllerClient = true) (accepted : reply = some true)
    (ran : requestNextRobot (setWorker c (.requestingNextRobots (left.erase plateId))) plateId
      reply = some (after, outputs)) : Attends after := by
  subst accepted
  simp only [requestNextRobot, setWorker, client, not_true_eq_false, if_true, if_false] at ran
  split at ran
  · cases ran
    constructor
    · intro remaining retrieving
      cases retrieving
    · intro remaining _ none
      simp at none
  next settled =>
    cases ran
    constructor
    · intro remaining retrieving
      cases retrieving
    · intro remaining requesting none other placed visited
      cases requesting
      by_cases same : other = plateId
      · subst same
        intro aimless
        apply settled
        unfold goalOf at aimless
        split at aimless
        · contradiction
        next unfinished =>
          split at aimless
          next untargeted => exact ⟨by simpa using unfinished, untargeted⟩
          · contradiction
      · exact attends.covered left loop none other placed
          (fun remains => visited (Finset.mem_erase.mpr ⟨same, remains⟩))

theorem step_attends (attends : Attends c) (client : c.controllerClient = true)
    (accepted : ∀ plateId reply, event = .requestNextRobot plateId reply → reply = some true)
    (taken : step config c event = some (after, outputs)) : Attends after := by
  obtain ⟨running, reaction⟩ := step_cases taken
  cases reaction with
  | notificationReceived | answerReceived | positionChanged | robotStopped | controllerLost
  | controllerConnected | expired => exact ⟨attends.collected, attends.covered⟩
  | handled environment handler posted idle next ran =>
      exact handles_attends (c := takeHandler c posted) idle ran
  | retrieving left position reply loop member ran =>
      exact retrieving_attends (attends.collected left loop) ran
  | retrieved loop =>
      constructor
      · intro left retrieving
        cases retrieving
      · intro left requesting _ plateId placed visited
        cases requesting
        exact absurd placed visited
  | requesting left plateId reply loop member =>
      have ran : requestNextRobot (setWorker c (.requestingNextRobots (left.erase plateId)))
          plateId reply = some (after, outputs) := by
        simpa [step, running, loop, member] using taken
      exact requesting_attends attends loop client (accepted plateId reply rfl) ran
  | requested loop =>
      apply attends_of_idle
      unfold armMovement
      split <;> rfl
  | delivering left plateId kitchen robot loop member ran =>
      have worker := ran.frame.2.2.2.1
      constructor
      · intro remaining retrieving
        rw [worker] at retrieving
        contradiction
      · intro remaining requesting
        rw [worker] at requesting
        contradiction
  | delivered => exact determineNextMovement_attends c

end Attention

section Workload

variable (site : Site)

/-- A notification can bring a finished dish, and a round that carries nothing. -/
def noticeWeight : Nat := roundWeight site * site.config.plateCount + roundWeight site + 1

def TimerTask.weight : TimerTask → Nat
  | .retrieveFinishedOrders => roundWeight site + site.config.plateCount + site.robotCount + 5
  | .moveConveyor => 1

def Handler.weight : Handler → Nat
  | .handleFinishedOrderNotification _ _ =>
      noticeWeight site + TimerTask.weight site .retrieveFinishedOrders + 2
  | .handleReceiveNextRobot _ =>
      roundWeight site * site.config.plateCount + roundWeight site + site.taskCost + 4
  | .timerCompleted task => task.weight site
  | .positionSwapped _ _ | .controllerReconnected | .timerAborted => 1

def Worker.weight : Worker → Nat
  | .betweenHandlers => 0
  | .retrievingFinishedOrders left => left.card + site.config.plateCount + 4
  | .requestingNextRobots left => left.card + 3
  | .deliveringFinishedOrders left => left.card + site.config.plateCount + site.robotCount + 5

def timerWeight (c : Conveyor) : Nat :=
  match c.steadyTimer with
  | none => 0
  | some wait => wait.task.weight site + 1

def postedWeight (c : Conveyor) : Nat := (c.posted.map (Handler.weight site)).sum

def pendingWeight (c : Conveyor) : Nat :=
  c.worker.weight site + timerWeight site c + postedWeight site c +
    noticeWeight site * c.notifications.card + tripsWeight site c

def MovementDue (c : Conveyor) : Prop :=
  (∃ wait ∈ c.steadyTimer, wait.task = .moveConveyor) ∨ .timerCompleted .moveConveyor ∈ c.posted

instance (c : Conveyor) : Decidable (MovementDue c) := inferInstanceAs (Decidable (_ ∨ _))

/-- The belt is about to move, though there is no dish for it to carry. -/
def GoesEmpty (config : Config) (c : Conveyor) : Prop :=
  match c.worker with
  | .betweenHandlers => MovementDue c ∧
      ∀ plateId < config.plateCount, goalOf (c.plates plateId) = none
  | .retrievingFinishedOrders left => left = ∅ ∧ c.occupiedPlates = ∅
  | .requestingNextRobots _ => c.occupiedPlates = ∅
  | .deliveringFinishedOrders _ => False

instance (config : Config) (c : Conveyor) : Decidable (GoesEmpty config c) := by
  unfold GoesEmpty
  split <;> infer_instance

def emptyRoundWeight (c : Conveyor) : Nat :=
  if GoesEmpty site.config c then roundWeight site else 0

/-- What the conveyor has still to do before it waits for something from outside. -/
def workload (c : Conveyor) : Nat := pendingWeight site c + emptyRoundWeight site c

theorem emptyRoundWeight_le (c : Conveyor) : emptyRoundWeight site c ≤ roundWeight site := by
  unfold emptyRoundWeight
  split
  · exact le_rfl
  · exact Nat.zero_le _

theorem emptyRoundWeight_mono (goes : GoesEmpty site.config after → GoesEmpty site.config c) :
    emptyRoundWeight site after ≤ emptyRoundWeight site c := by
  unfold emptyRoundWeight
  by_cases carries : GoesEmpty site.config after
  · rw [if_pos carries, if_pos (goes carries)]
  · rw [if_neg carries]
    exact Nat.zero_le _

/-- Between two handlers the belt goes empty if a movement is due for nothing. -/
theorem goesEmpty_idle (idle : c.worker = .betweenHandlers) :
    GoesEmpty config c ↔ MovementDue c ∧
      ∀ plateId < config.plateCount, goalOf (c.plates plateId) = none := by
  rw [GoesEmpty, idle]

theorem pendingWeight_take {handler : Handler} {posted : List Handler}
    (next : c.posted = handler :: posted) :
    pendingWeight site c = pendingWeight site (takeHandler c posted) + handler.weight site := by
  have trips : tripsWeight site (takeHandler c posted) = tripsWeight site c :=
    tripsWeight_congr rfl rfl
  simp only [pendingWeight, trips, postedWeight, next, List.map_cons, List.sum_cons]
  simp only [takeHandler, timerWeight]
  omega

theorem pendingWeight_post (c : Conveyor) (handler : Handler) :
    pendingWeight site (post c handler) = pendingWeight site c + handler.weight site := by
  have trips : tripsWeight site (post c handler) = tripsWeight site c := tripsWeight_congr rfl rfl
  simp only [pendingWeight, trips, postedWeight]
  simp only [post, timerWeight, List.map_append, List.sum_append, List.map_cons, List.map_nil,
    List.sum_cons, List.sum_nil]
  omega

theorem noTimer_of_waits (none : outstandingWaits c = 0) : c.steadyTimer = .none := by
  cases armed : c.steadyTimer with
  | none => rfl
  | some wait => simp [outstandingWaits, armed] at none

theorem pendingWeight_armTimer (task : TimerTask) (delay : Nat) (none : outstandingWaits c = 0) :
    pendingWeight site (armTimer c task delay) =
      pendingWeight site c + task.weight site + 1 := by
  have trips : tripsWeight site (armTimer c task delay) = tripsWeight site c :=
    tripsWeight_congr rfl rfl
  simp only [pendingWeight, trips, postedWeight, (armTimer_waits task delay none).2]
  simp only [armTimer, timerWeight, noTimer_of_waits none]
  omega

theorem MovementDue.earlier (timer : after.steadyTimer = c.steadyTimer)
    (posted : after.posted ⊆ c.posted) (due : MovementDue after) : MovementDue c := by
  rcases due with armed | member
  · rw [timer] at armed
    exact .inl armed
  · exact .inr (posted member)

theorem not_movementDue (none : outstandingWaits c = 0) : ¬ MovementDue c := by
  have posted : c.posted.countP Handler.isTimer = 0 := by
    unfold outstandingWaits at none
    omega
  rintro (⟨wait, armed, _⟩ | member)
  · rw [noTimer_of_waits none] at armed
    contradiction
  · exact List.countP_eq_zero.mp posted _ member rfl

theorem armTimer_movementDue {task : TimerTask} {delay : Nat} (none : outstandingWaits c = 0)
    (due : MovementDue (armTimer c task delay)) : task = .moveConveyor := by
  rcases due with ⟨wait, armed, moves⟩ | member
  · cases armed
    exact moves
  · rw [(armTimer_waits task delay none).2] at member
    exact absurd (.inr member) (not_movementDue none)

theorem emptyRoundWeight_due (worker : after.worker = c.worker)
    (plates : after.plates = c.plates) (occupied : after.occupiedPlates = c.occupiedPlates)
    (due : MovementDue after → MovementDue c) :
    emptyRoundWeight site after ≤ emptyRoundWeight site c := by
  apply emptyRoundWeight_mono
  simp only [GoesEmpty, worker, plates, occupied]
  cases c.worker with
  | betweenHandlers => exact fun empty => ⟨due empty.1, empty.2⟩
  | retrievingFinishedOrders | requestingNextRobots | deliveringFinishedOrders => exact id

end Workload

section Handlers

variable {site : Site}

/-- What the count of the work rests on. -/
structure Orderly (site : Site) (c : Conveyor) : Prop where
  belt : Belt site.config c
  driver : Driver c
  cleared : Cleared c
  attends : Attends c
  targets : TargetsOnBelt site.config c
  few : c.notifications.card ≤ site.robotCount
  connected : .controllerReconnected ∉ c.posted

theorem Belt.occupied_card_le (belt : Belt config c) :
    c.occupiedPlates.card ≤ config.plateCount := by
  have within : c.occupiedPlates ⊆ Finset.range config.plateCount := by
    intro plateId placed
    exact Finset.mem_range.mpr (belt.exist plateId placed)
  simpa using Finset.card_le_card within

theorem emptyRoundWeight_idle (site : Site) (idle : c.worker = .betweenHandlers)
    (idleAfter : after.worker = .betweenHandlers) (timer : after.steadyTimer = c.steadyTimer)
    (posted : after.posted ⊆ c.posted) (plates : after.plates = c.plates) :
    emptyRoundWeight site after ≤ emptyRoundWeight site c := by
  apply emptyRoundWeight_mono
  rw [goesEmpty_idle idle, goesEmpty_idle idleAfter, plates]
  rintro ⟨due, aimless⟩
  exact ⟨due.earlier timer posted, aimless⟩

theorem Handler.weight_pos (site : Site) (handler : Handler) : 0 < handler.weight site := by
  cases handler with
  | timerCompleted task => cases task <;> simp [Handler.weight, TimerTask.weight]
  | handleFinishedOrderNotification | handleReceiveNextRobot | positionSwapped
  | controllerReconnected | timerAborted => simp [Handler.weight]

theorem robots_workload (site : Site) (idle : c.worker = .betweenHandlers) {handler : Handler}
    {posted : List Handler} (next : c.posted = handler :: posted)
    (map : RobotMap) :
    workload site (withRobots (takeHandler c posted) map) < workload site c := by
  have taken := pendingWeight_take site next
  have positive := handler.weight_pos site
  have same : pendingWeight site (withRobots (takeHandler c posted) map) =
    pendingWeight site (takeHandler c posted) := rfl
  have round : emptyRoundWeight site (withRobots (takeHandler c posted) map) ≤
      emptyRoundWeight site c := by
    refine emptyRoundWeight_idle site idle idle rfl ?_ rfl
    rw [next]
    exact List.subset_cons_self handler posted
  unfold workload
  omega

theorem notified_workload (site : Site) (idle : c.worker = .betweenHandlers) {name : String}
    {position : Position} {posted : List Handler}
    (next : c.posted = .handleFinishedOrderNotification name position :: posted)
    (map : RobotMap) (status : StateStatus) :
    workload site
        { withRobots (takeHandler c posted) map with
          notifications := insert position c.notifications
          stateStatus := status } +
        TimerTask.weight site .retrieveFinishedOrders + 2 ≤ workload site c := by
  have taken := pendingWeight_take site next
  generalize noted : ({ withRobots (takeHandler c posted) map with
    notifications := insert position c.notifications
    stateStatus := status } : Conveyor) = after
  have round : emptyRoundWeight site after ≤ emptyRoundWeight site c := by
    rw [← noted]
    refine emptyRoundWeight_idle site idle idle rfl ?_ rfl
    rw [next]
    exact List.subset_cons_self _ posted
  have pending : pendingWeight site after ≤
      pendingWeight site (takeHandler c posted) + noticeWeight site := by
    have card := Nat.mul_le_mul_left (noticeWeight site)
      (Finset.card_insert_le position c.notifications)
    rw [Nat.mul_succ] at card
    have trips : tripsWeight site after = tripsWeight site (takeHandler c posted) := by
      rw [← noted]
      exact tripsWeight_congr rfl rfl
    simp only [pendingWeight, trips]
    rw [← noted]
    simp only [withRobots, takeHandler, timerWeight, postedWeight] at card ⊢
    omega
  simp only [Handler.weight] at taken
  unfold workload
  omega

theorem starts_workload (site : Site) (driver : Driver c) (idle : c.worker = .betweenHandlers)
    (idling : c.stateStatus = .idling) {name : String} {position : Position}
    {posted : List Handler}
    (next : c.posted = .handleFinishedOrderNotification name position :: posted)
    (map : RobotMap) (delay : Nat) :
    workload site
        (armTimer
          { withRobots (takeHandler c posted) map with
            notifications := insert position c.notifications
            stateStatus := .moving }
          .retrieveFinishedOrders delay) < workload site c := by
  have noted := notified_workload site idle next map .moving
  have waits := outstandingWaits_take next
  rw [(driver.idling idling).2.1] at waits
  generalize started : ({ withRobots (takeHandler c posted) map with
    notifications := insert position c.notifications
    stateStatus := .moving } : Conveyor) = noticed at noted ⊢
  have none : outstandingWaits noticed = 0 := by
    rw [← started]
    exact (Nat.eq_zero_of_add_eq_zero_right waits.symm)
  have armed := pendingWeight_armTimer site .retrieveFinishedOrders delay none
  have carries : ¬ GoesEmpty site.config (armTimer noticed .retrieveFinishedOrders delay) := by
    rw [goesEmpty_idle (by rw [← started]; exact idle)]
    rintro ⟨due, _⟩
    exact absurd (armTimer_movementDue none due) (by decide)
  have round : emptyRoundWeight site (armTimer noticed .retrieveFinishedOrders delay) = 0 :=
    if_neg carries
  unfold workload at noted ⊢
  omega

theorem retrieves_workload (few : c.notifications.card ≤ site.robotCount)
    (idle : c.worker = .betweenHandlers) {posted : List Handler}
    (next : c.posted = .timerCompleted .retrieveFinishedOrders :: posted) :
    workload site (handleRetrieveFinishedOrders (takeHandler c posted)) < workload site c := by
  have taken := pendingWeight_take site next
  have round := emptyRoundWeight_le site (handleRetrieveFinishedOrders (takeHandler c posted))
  have trips : tripsWeight site (handleRetrieveFinishedOrders (takeHandler c posted)) =
      tripsWeight site (takeHandler c posted) := by
    refine tripsWeight_congr rfl ?_
    simp [handleRetrieveFinishedOrders, setWorker, takeHandler, idle, leftToDeliver]
  have sets : pendingWeight site (handleRetrieveFinishedOrders (takeHandler c posted)) =
      pendingWeight site (takeHandler c posted) +
        (c.notifications.card + site.config.plateCount + 4) := by
    simp only [pendingWeight, trips]
    simp only [handleRetrieveFinishedOrders, setWorker, removeStoppedRobots, withRobots,
      takeHandler, idle, Worker.weight, timerWeight, postedWeight]
    omega
  simp only [Handler.weight, TimerTask.weight] at taken
  unfold workload
  omega

theorem takeNextRobot_workload (belt : Belt site.config c) (none : outstandingWaits c = 0)
    (answer : NextRobot) (position : Position) (rest : List Position) :
    workload site (takeNextRobot c answer position rest) ≤
      pendingWeight site c + (roundWeight site * site.config.plateCount + roundWeight site +
        site.taskCost + 3) := by
  have round := emptyRoundWeight_le site (takeNextRobot c answer position rest)
  have trips := takeNextRobot_trips belt answer position rest
  have kept : (takeNextRobot c answer position rest).worker = c.worker ∧
      (takeNextRobot c answer position rest).notifications = c.notifications ∧
      (takeNextRobot c answer position rest).posted = c.posted ∧
      timerWeight site (takeNextRobot c answer position rest) ≤ 2 := by
    unfold takeNextRobot
    simp only
    split <;> split <;>
      simp [armTimer, setTargetPosition, updatePlate, noTimer_of_waits none, timerWeight,
        TimerTask.weight]
  obtain ⟨worker, notifications, posted, timer⟩ := kept
  simp only [workload, pendingWeight, worker, notifications, postedWeight, posted]
  omega

theorem moveConveyor_pendingWeight (belt : Belt site.config c) (cleared : Cleared c)
    (idle : c.worker = .betweenHandlers) (targets : TargetsOnBelt site.config c) :
    pendingWeight site (moveConveyor site.config c 1) +
        roundWeight site * ((Finset.range site.config.plateCount).filter
          fun plateId => goalOf (c.plates plateId) ≠ none).card ≤
      pendingWeight site c + roundWeight site := by
  have trips := moveConveyor_trips belt cleared idle targets
  have few := belt.occupied_card_le
  obtain ⟨plates, map, same⟩ := movePlates_frame site.config c 1 site.config.plateCount
  have kept : (moveConveyor site.config c 1).worker = .deliveringFinishedOrders c.occupiedPlates ∧
      (moveConveyor site.config c 1).posted = c.posted ∧
      (moveConveyor site.config c 1).steadyTimer = c.steadyTimer ∧
      (moveConveyor site.config c 1).notifications = c.notifications := by
    rw [moveConveyor, same]
    exact ⟨rfl, rfl, rfl, rfl⟩
  obtain ⟨worker, posted, timer, notifications⟩ := kept
  simp only [pendingWeight, worker, idle, Worker.weight, timerWeight, timer, postedWeight, posted,
    notifications]
  unfold roundWeight at trips ⊢
  omega

/-- The belt moves: every dish with a goal comes nearer, or it is an empty round. -/
theorem moves_workload (orderly : Orderly site c) (idle : c.worker = .betweenHandlers)
    {posted : List Handler} (next : c.posted = .timerCompleted .moveConveyor :: posted) :
    workload site (moveConveyor site.config (takeHandler c posted) 1) < workload site c := by
  have belt : Belt site.config (takeHandler c posted) :=
    orderly.belt.transport rfl rfl rfl rfl orderly.belt.left
  have cleared : Cleared (takeHandler c posted) :=
    orderly.cleared.transport rfl rfl (fun _ member => member)
  have moved := moveConveyor_pendingWeight belt cleared idle orderly.targets
  have taken := pendingWeight_take site next
  have round : emptyRoundWeight site (moveConveyor site.config (takeHandler c posted) 1) = 0 :=
    if_neg id
  simp only [Handler.weight, TimerTask.weight] at taken
  simp only [workload, round]
  by_cases carries : ∃ plateId < site.config.plateCount, goalOf (c.plates plateId) ≠ none
  · obtain ⟨plateId, exist, aimed⟩ := carries
    have some : 0 < ((Finset.range site.config.plateCount).filter
        fun plateId => goalOf ((takeHandler c posted).plates plateId) ≠ none).card := by
      apply Finset.card_pos.mpr
      exact ⟨plateId, Finset.mem_filter.mpr ⟨Finset.mem_range.mpr exist, aimed⟩⟩
    have one := Nat.le_mul_of_pos_right (roundWeight site) some
    omega
  · push Not at carries
    have empty : GoesEmpty site.config c := by
      rw [goesEmpty_idle idle]
      exact ⟨.inr (by simp [next]), carries⟩
    have spared : emptyRoundWeight site c = roundWeight site := if_pos empty
    omega

theorem handled_workload (orderly : Orderly site c) (idle : c.worker = .betweenHandlers)
    {handler : Handler} {posted : List Handler} (next : c.posted = handler :: posted)
    (ran : Handles site.config (takeHandler c posted) handler after) :
    workload site after < workload site c := by
  cases ran with
  | notificationDropped _ _ map | answerIgnored _ map | swapped _ _ map =>
      exact robots_workload site idle next map
  | aborted => exact absurd (by simp [next]) orderly.driver.notAborted
  | reconnected | reconnectedInTime => exact absurd (by simp [next]) orderly.connected
  | retrieves => exact retrieves_workload orderly.few idle next
  | moves => exact moves_workload orderly idle next
  | notificationStarts name position map idling =>
      exact starts_workload site orderly.driver idle idling next map _
  | notificationTaken name position map moving =>
      have noted := notified_workload site idle next map c.stateStatus
      exact Nat.lt_of_lt_of_le (Nat.lt_succ_of_le (Nat.le_add_right _ _)) (Nat.le_of_succ_le noted)
  | answerTaken answer map position rest front =>
      have taken := pendingWeight_take site next
      have driver := orderly.driver.take next rfl
      have none := (driver.moving_of_queue (by simp [front]) idle).2
      have belt : Belt site.config (withRobots (takeHandler c posted) map) :=
        orderly.belt.transport rfl rfl rfl rfl orderly.belt.left
      have answered := takeNextRobot_workload belt none answer position rest
      have same : pendingWeight site (withRobots (takeHandler c posted) map) =
        pendingWeight site (takeHandler c posted) := rfl
      simp only [Handler.weight] at taken
      have more : pendingWeight site c ≤ workload site c := Nat.le_add_right _ _
      omega

end Handlers

section Loops

variable {site : Site}

theorem retrieving_workload (orderly : Orderly site c) {left : Finset Position}
    {position : Position} {reply : Option (DishId × HandoverReply)}
    (loop : c.worker = .retrievingFinishedOrders left) (member : position ∈ left)
    (reports : ReportsNotified c (.retrieve position reply))
    (ran : Visits (setWorker c (.retrievingFinishedOrders (left.erase position)))
      (.retrieve position reply) after outputs) :
    workload site after < workload site c := by
  have crossed := Finset.card_erase_add_one member
  obtain ⟨posted, timer, _, worker, _⟩ := ran.frame
  simp only [setWorker] at posted timer worker
  have trips : ∀ visited : Conveyor, visited.plates = c.plates →
      visited.worker = .retrievingFinishedOrders (left.erase position) →
      tripsWeight site visited = tripsWeight site c := by
    intro visited plates worker
    refine tripsWeight_congr plates ?_
    rw [worker, loop]
    rfl
  -- a notification that is answered pays for the dish and for a round without one
  have answered : after.notifications = c.notifications.erase position →
      tripsWeight site after ≤ tripsWeight site c +
        (roundWeight site * site.config.plateCount + 1) →
      workload site after < workload site c := by
    intro notifications brought
    have noted : (c.notifications.erase position).card + 1 = c.notifications.card :=
      Finset.card_erase_add_one (orderly.attends.collected left loop member)
    have round := emptyRoundWeight_le site after
    simp only [workload, pendingWeight, worker, loop, Worker.weight, timerWeight, timer,
      postedWeight, posted, notifications]
    rw [← noted, Nat.mul_succ]
    have notice : noticeWeight site =
      roundWeight site * site.config.plateCount + roundWeight site + 1 := rfl
    omega
  cases ran with
  | keptNotification _ _ occupied =>
      have same := trips (setWorker c (.retrievingFinishedOrders (left.erase position))) rfl rfl
      have carries : ¬ GoesEmpty site.config
          (setWorker c (.retrievingFinishedOrders (left.erase position))) := by
        rintro ⟨_, empty⟩
        have placed : c.positionPlateIdMap position ∈ c.occupiedPlates :=
          (orderly.belt.occupied _).mpr occupied
        rw [show c.occupiedPlates = ∅ from empty] at placed
        exact absurd placed (Finset.notMem_empty _)
      have round : emptyRoundWeight site
        (setWorker c (.retrievingFinishedOrders (left.erase position))) = 0 := if_neg carries
      simp only [workload, round, pendingWeight, same, loop]
      simp only [setWorker, Worker.weight, timerWeight, postedWeight]
      omega
  | droppedNotification _ _ map =>
      refine answered rfl (Nat.le_trans (Nat.le_of_eq (trips _ ?_ worker)) (Nat.le_add_right _ _))
      rfl
  | handedOver _ dish given free =>
      have belt : Belt site.config
          { setWorker c (.retrievingFinishedOrders (left.erase position)) with
            notifications := c.notifications.erase position } :=
        orderly.belt.transport rfl rfl rfl rfl (Finset.empty_subset _)
      have cleared : Cleared
          { setWorker c (.retrievingFinishedOrders (left.erase position)) with
            notifications := c.notifications.erase position } :=
        orderly.cleared.transport rfl rfl (fun _ member => member)
      have brought := handover_trips belt cleared free dish reports
      have same := trips
        { setWorker c (.retrievingFinishedOrders (left.erase position)) with
          notifications := c.notifications.erase position } rfl rfl
      rw [same] at brought
      apply answered ?_ brought
      unfold handleHandoverFinishedOrder
      split <;> rfl

theorem retrieved_workload (belt : Belt site.config c)
    (loop : c.worker = .retrievingFinishedOrders ∅) :
    workload site (requestNextRobots c) < workload site c := by
  have few := belt.occupied_card_le
  have trips : tripsWeight site (requestNextRobots c) = tripsWeight site c := by
    refine tripsWeight_congr rfl ?_
    rw [loop]
    rfl
  have round : emptyRoundWeight site (requestNextRobots c) ≤ emptyRoundWeight site c := by
    apply emptyRoundWeight_mono
    intro empty
    rw [GoesEmpty, loop]
    exact ⟨rfl, empty⟩
  simp only [workload, pendingWeight, trips, loop]
  simp only [requestNextRobots, setWorker, Worker.weight, timerWeight, postedWeight,
    Finset.card_empty] at round ⊢
  omega

theorem requesting_workload {left : Finset PlateId} {reply : Option Bool}
    (loop : c.worker = .requestingNextRobots left) (member : plateId ∈ left)
    (ran : Visits (setWorker c (.requestingNextRobots (left.erase plateId)))
      (.requestNextRobot plateId reply) after outputs) :
    workload site after < workload site c := by
  have crossed := Finset.card_erase_add_one member
  obtain ⟨posted, timer, _, worker, _⟩ := ran.frame
  simp only [setWorker] at posted timer worker
  have kept : after.plates = c.plates ∧ after.occupiedPlates = c.occupiedPlates ∧
      after.notifications = c.notifications := by
    cases ran with
    | notRequested => exact ⟨rfl, rfl, rfl⟩
    | requested => exact ⟨rfl, rfl, rfl⟩
  obtain ⟨plates, occupied, notifications⟩ := kept
  have trips : tripsWeight site after = tripsWeight site c := by
    refine tripsWeight_congr plates ?_
    rw [worker, loop]
    rfl
  have round : emptyRoundWeight site after ≤ emptyRoundWeight site c := by
    apply emptyRoundWeight_mono
    simp only [GoesEmpty, worker, loop, occupied]
    exact id
  simp only [workload, pendingWeight, trips, worker, loop, Worker.weight, timerWeight, timer,
    postedWeight, posted, notifications]
  omega

/-- The belt will move next, and a dish has a way to go if there is one. -/
theorem requested_workload (attends : Attends c) (belt : Belt site.config c) (driver : Driver c)
    (loop : c.worker = .requestingNextRobots ∅) :
    workload site (armMovement (setWorker c .betweenHandlers)) < workload site c := by
  have none : outstandingWaits (setWorker c .betweenHandlers) = 0 :=
    driver.looping (by simp [loop])
  have trips : tripsWeight site (setWorker c .betweenHandlers) = tripsWeight site c := by
    refine tripsWeight_congr rfl ?_
    rw [loop]
    rfl
  have pending : pendingWeight site (setWorker c .betweenHandlers) + 3 = pendingWeight site c := by
    simp only [pendingWeight, trips, loop]
    simp only [setWorker, Worker.weight, timerWeight, postedWeight, Finset.card_empty]
    omega
  unfold armMovement
  split
  next queue =>
    have armed := pendingWeight_armTimer site .moveConveyor (moveTime * timeUnit) none
    simp only [TimerTask.weight] at armed
    have round : emptyRoundWeight site (armTimer (setWorker c .betweenHandlers) .moveConveyor
        (moveTime * timeUnit)) ≤ emptyRoundWeight site c := by
      apply emptyRoundWeight_mono
      rw [goesEmpty_idle rfl, GoesEmpty, loop]
      rintro ⟨_, aimless⟩
      apply Finset.eq_empty_of_forall_notMem
      intro plateId placed
      exact attends.covered ∅ loop queue plateId placed (Finset.notMem_empty _)
        (aimless plateId (belt.exist plateId placed))
    unfold workload
    omega
  next waiting =>
    have round : emptyRoundWeight site (setWorker c .betweenHandlers) = 0 := by
      apply if_neg
      rw [goesEmpty_idle rfl]
      rintro ⟨due, _⟩
      exact not_movementDue none due
    unfold workload
    omega

theorem delivering_workload (orderly : Orderly site c) {kitchen : Option Bool}
    {robot : RobotAnswer} (takes : KitchenTakes c plateId kitchen)
    (taken : step site.config c (.deliver plateId kitchen robot) = some (after, outputs)) :
    workload site after + amount (Output.servingWeight site) outputs < workload site c := by
  have trips := deliver_trips orderly.belt orderly.cleared orderly.targets takes taken
  obtain ⟨left, loop, member, ran⟩ := deliver_inv taken
  have crossed := Finset.card_erase_add_one member
  have visit := deliver_cases ran
  obtain ⟨posted, timer, _, worker, _⟩ := visit.frame
  simp only [setWorker] at posted timer worker
  have notifications : after.notifications = c.notifications := by
    cases visit with
    | notDeliverable | orderRefused | orderCompleted | notInstructed | taskRefused
    | taskMisplaced | taskAccepted => rfl
  have round : emptyRoundWeight site after = 0 := by
    apply if_neg
    rw [GoesEmpty, worker]
    exact id
  simp only [workload, round, pendingWeight, worker, loop, Worker.weight, timerWeight, timer,
    postedWeight, posted, notifications]
  omega

theorem delivered_workload (orderly : Orderly site c)
    (loop : c.worker = .deliveringFinishedOrders ∅) :
    workload site (determineNextMovement c) < workload site c := by
  have fewPlates := orderly.belt.occupied_card_le
  have few := orderly.few
  have none := orderly.driver.looping (by simp [loop])
  have decided := determineNextMovement_cases c
  generalize determineNextMovement c = after at decided
  cases decided with
  | retrieves notified =>
      have round : emptyRoundWeight site (handleRetrieveFinishedOrders c) = 0 := by
        apply if_neg
        rintro ⟨nobody, _⟩
        exact notified nobody
      have trips : tripsWeight site (handleRetrieveFinishedOrders c) = tripsWeight site c := by
        refine tripsWeight_congr rfl ?_
        rw [loop]
        rfl
      simp only [workload, round, pendingWeight, trips, loop]
      simp only [handleRetrieveFinishedOrders, removeStoppedRobots, withRobots, setWorker,
        Worker.weight, timerWeight, postedWeight, Finset.card_empty]
      omega
  | requests _ occupied =>
      have round : emptyRoundWeight site (requestNextRobots c) = 0 := if_neg occupied
      have trips : tripsWeight site (requestNextRobots c) = tripsWeight site c := by
        refine tripsWeight_congr rfl ?_
        rw [loop]
        rfl
      simp only [workload, round, pendingWeight, trips, loop]
      simp only [requestNextRobots, setWorker, Worker.weight, timerWeight, postedWeight,
        Finset.card_empty]
      omega
  | idles =>
      have waits : outstandingWaits
        { setWorker c .betweenHandlers with stateStatus := .idling } = 0 := none
      have round : emptyRoundWeight site
          { setWorker c .betweenHandlers with stateStatus := .idling } = 0 := by
        apply if_neg
        rw [goesEmpty_idle rfl]
        rintro ⟨due, _⟩
        exact not_movementDue waits due
      have trips : tripsWeight site
          { setWorker c .betweenHandlers with stateStatus := .idling } = tripsWeight site c := by
        refine tripsWeight_congr rfl ?_
        rw [loop]
        rfl
      simp only [workload, round, pendingWeight, trips, loop]
      simp only [setWorker, Worker.weight, timerWeight, postedWeight, Finset.card_empty]
      omega

theorem expired_workload (site : Site) {wait : Wait} (armed : c.steadyTimer = some wait) :
    workload site (post { c with steadyTimer := none } (.timerCompleted wait.task)) <
      workload site c := by
  have posted := pendingWeight_post site { c with steadyTimer := none }
    (.timerCompleted wait.task)
  have trips : tripsWeight site { c with steadyTimer := none } = tripsWeight site c :=
    tripsWeight_congr rfl rfl
  have due : MovementDue (post { c with steadyTimer := none } (.timerCompleted wait.task)) →
      MovementDue c := by
    rintro (⟨_, disarmed, _⟩ | member)
    · contradiction
    · rcases List.mem_append.mp member with before | new
      · exact .inr before
      · have same := List.mem_singleton.mp new
        simp only [Handler.timerCompleted.injEq] at same
        exact .inl ⟨wait, armed, same.symm⟩
  have round : emptyRoundWeight site
      (post { c with steadyTimer := none } (.timerCompleted wait.task)) ≤
        emptyRoundWeight site c := emptyRoundWeight_due site rfl rfl rfl due
  simp only [pendingWeight, trips, Handler.weight] at posted
  simp only [workload, pendingWeight, timerWeight, armed] at posted ⊢
  simp only [postedWeight] at posted ⊢
  omega

theorem initial_workload (site : Site) : workload site (initial site.config) = 0 := by
  have trips : tripsWeight site (initial site.config) = 0 := by
    apply Finset.sum_eq_zero
    intro plateId _
    exact tripWeight_aimless rfl
  have pending : pendingWeight site (initial site.config) = 0 := by
    rw [pendingWeight, trips]
    rfl
  have round : emptyRoundWeight site (initial site.config) = 0 := by
    apply if_neg
    rw [goesEmpty_idle rfl]
    rintro ⟨due, _⟩
    exact not_movementDue rfl due
  rw [workload, pending, round]

theorem post_workload (site : Site) (c : Conveyor) {handler : Handler}
    (other : handler ≠ .timerCompleted .moveConveyor) :
    workload site (post c handler) ≤ workload site c + handler.weight site := by
  have posted := pendingWeight_post site c handler
  have due : MovementDue (post c handler) → MovementDue c := by
    intro due
    rcases due with armed | member
    · exact .inl armed
    · rcases List.mem_append.mp member with before | new
      · exact .inr before
      · exact absurd (List.mem_singleton.mp new).symm other
  have round : emptyRoundWeight site (post c handler) ≤ emptyRoundWeight site c :=
    emptyRoundWeight_due site rfl rfl rfl due
  unfold workload
  omega

/-- Nothing comes from outside. The controller takes the requests, the kitchen
takes the dishes, and a robot reports the position it was notified from. -/
def GoesOn (c : Conveyor) : Event → Prop
  | .timerExpires | .runHandler _ | .retrieved | .requested | .delivered => True
  | .retrieve position reply => ReportsNotified c (.retrieve position reply)
  | .requestNextRobot _ reply => reply = some true
  | .deliver plateId kitchen _ => KitchenTakes c plateId kitchen
  | .receiveFinishedOrderNotification _ _ | .receiveNextRobot _ | .positionChanged _ _
  | .robotStopped _ | .controllerLost | .controllerConnected => False

/-- Every step takes something off the work, and more if a dish is offered. -/
theorem step_workload (orderly : Orderly site c) (goes : GoesOn c event)
    (taken : step site.config c event = some (after, outputs)) :
    workload site after + amount (Output.servingWeight site) outputs < workload site c := by
  have reaction := (step_cases taken).2
  cases reaction with
  | notificationReceived | answerReceived | positionChanged | robotStopped | controllerLost
  | controllerConnected => exact goes.elim
  | expired wait armed => exact expired_workload site armed
  | handled environment handler posted idle next ran =>
      exact handled_workload orderly idle next ran
  | retrieving left position reply loop member ran =>
      have worthless : amount (Output.servingWeight site) outputs = 0 := by
        cases ran <;> rfl
      rw [worthless]
      exact retrieving_workload orderly loop member goes ran
  | retrieved loop => exact retrieved_workload orderly.belt loop
  | requesting left plateId reply loop member ran =>
      have worthless : amount (Output.servingWeight site) outputs = 0 := by
        cases ran <;> rfl
      rw [worthless]
      exact requesting_workload loop member ran
  | requested loop => exact requested_workload orderly.attends orderly.belt orderly.driver loop
  | delivering => exact delivering_workload orderly goes taken
  | delivered loop => exact delivered_workload orderly loop

end Loops

end CpsKitchen.ConveyorAgent
