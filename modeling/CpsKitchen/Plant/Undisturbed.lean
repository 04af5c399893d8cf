import CpsKitchen.ConveyorAgent.RequestQueue
import CpsKitchen.Plant.Pickup
import CpsKitchen.Plant.Progress
import CpsKitchen.RobotAgent.Rest
import CpsKitchen.RobotAgent.Travel

/-!
# The undisturbed plant

Nobody adapts a robot, no connection is lost and no call fails, and the
controller names robots only where they stand. Then every robot stays available
where it is, the conveyor and the kitchen know the robots by the places where
they stand, and the conveyor remembers every dish that waits to be picked up.
-/

namespace CpsKitchen.Plant

open CpsKitchen.Reactive CpsKitchen.Recipes
open CpsKitchen.RobotAgent (Robot Task)
open CpsKitchen.ConveyorAgent (Conveyor PlateId plateAt)
open CpsKitchen.KitchenAgent (Kitchen NextRobot)
open CpsKitchen.RobotMap (RobotMap RemoteRobot)

set_option autoImplicit false

variable {RobotId : Type}

section Places

variable (endpoint : RobotId → String) (place : RobotId → Position)

def StandsAt (position : Position) (name : String) : Prop :=
  ∃ id, endpoint id = name ∧ place id = position

/-- An answer of the controller names no robot, or one where it stands. -/
def NamesRobot (position : Position) (name : String) : Prop :=
  position = 0 ∨ name = "" ∨ StandsAt endpoint place position name

/-- A map holds running robots where they stand, and nothing else. -/
def Shows (map : RobotMap) : Prop :=
  ∀ position entry, map position = some entry →
    ∃ name, entry = some ⟨name, true⟩ ∧ StandsAt endpoint place position name

instance [Fintype RobotId] (position : Position) (name : String) :
    Decidable (StandsAt endpoint place position name) := inferInstanceAs (Decidable (∃ _, _))

instance [Fintype RobotId] (position : Position) (name : String) :
    Decidable (NamesRobot endpoint place position name) := inferInstanceAs (Decidable (_ ∨ _))

variable {endpoint place} {map : RobotMap} {position : Position} {name : String}

theorem Shows.noneStopped (shows : Shows endpoint place map) : ConveyorAgent.NoneStopped map := by
  intro position
  cases there : map position with
  | none => rfl
  | some entry =>
      obtain ⟨name, rfl, _⟩ := shows position entry there
      rfl

theorem Shows.removeStopped (shows : Shows endpoint place map) :
    RobotMap.removeStoppedRobots map = map := funext shows.noneStopped

theorem Shows.connect (shows : Shows endpoint place map)
    (stands : StandsAt endpoint place position name) :
    Shows endpoint place (Function.update map position (some (some ⟨name, true⟩))) := by
  intro other entry there
  by_cases same : other = position
  · subst same
    rw [Function.update_self] at there
    cases there
    exact ⟨name, rfl, stands⟩
  · rw [Function.update_of_ne same] at there
    exact shows other entry there

theorem Shows.found (shows : Shows endpoint place map) {robot : RemoteRobot}
    (found : RobotMap.find map position = some robot) :
    robot.running = true ∧ StandsAt endpoint place position robot.endpoint := by
  obtain ⟨name, same, stands⟩ := shows position (some robot) (Option.join_eq_some_iff.mp found)
  cases same
  exact ⟨rfl, stands⟩

end Places

section Conveyor

open ConveyorAgent

variable (endpoint : RobotId → String) (place : RobotId → Position)

def Genuine : Handler → Prop
  | .handleFinishedOrderNotification name position => StandsAt endpoint place position name
  | .handleReceiveNextRobot answer =>
      NamesRobot endpoint place answer.robotPosition answer.robotEndpoint
  | .timerCompleted _ | .timerAborted => True
  | .positionSwapped _ _ | .controllerReconnected => False

structure ConveyorInOrder (c : Conveyor) : Prop where
  running : c.running = true
  client : c.controllerClient = true
  robots : Shows endpoint place c.positionRemoteRobotMap
  noted : ∀ position ∈ c.notifications, c.positionRemoteRobotMap position ≠ none
  posted : ∀ handler ∈ c.posted, Genuine endpoint place handler

def MeetsRobot (c : Conveyor) (plateId : PlateId) : Prop :=
  let plate := c.plates plateId
  plate.isDishFinished = false ∧ plate.targetPosition ≠ 0 ∧
    plate.position = plate.targetPosition ∧ c.positionRemoteRobotMap plate.position ≠ none

def MeetsKitchen (c : Conveyor) (plateId : PlateId) : Prop :=
  (c.plates plateId).isDishFinished = true ∧ (c.plates plateId).position = outputPosition

/-- A robot says where it stands, that it is available and whether it takes the
task. -/
def Answered (position : Position) (robot : RobotAnswer) : Prop :=
  robot.position = some position ∧ robot.available = some true ∧
    ∃ reply, robot.reply = some reply ∧ (reply.2 = true → reply.1 = position)

/-- No call of the conveyor fails, and what it is told is true. -/
def ConveyorUndisturbed (c : Conveyor) : ConveyorAgent.Event → Prop
  | .receiveFinishedOrderNotification name position => StandsAt endpoint place position name
  | .receiveNextRobot answer =>
      NamesRobot endpoint place answer.robotPosition answer.robotEndpoint
  | .runHandler environment => environment.connected = true
  | .timerExpires | .retrieved | .requested | .delivered => True
  | .retrieve position reply =>
      reply = none → (plateAt c position).occupied = true ∨
        c.positionRemoteRobotMap position = none
  | .requestNextRobot _ reply => reply ≠ none
  | .deliver plateId kitchen robot =>
      (MeetsKitchen c plateId → kitchen = some true) ∧
        (MeetsRobot c plateId → Answered (c.plates plateId).position robot)
  | .positionChanged _ _ | .robotStopped _ | .controllerLost | .controllerConnected => False

instance (c : Conveyor) (plateId : PlateId) : Decidable (MeetsRobot c plateId) :=
  inferInstanceAs (Decidable (_ ∧ _))

instance (c : Conveyor) (plateId : PlateId) : Decidable (MeetsKitchen c plateId) :=
  inferInstanceAs (Decidable (_ ∧ _))

instance (position : Position) (robot : RobotAnswer) : Decidable (Answered position robot) :=
  inferInstanceAs (Decidable (_ ∧ _ ∧ ∃ reply ∈ robot.reply, _))

instance [Fintype RobotId] (c : Conveyor) (event : ConveyorAgent.Event) :
    Decidable (ConveyorUndisturbed endpoint place c event) := by
  cases event <;> unfold ConveyorUndisturbed <;> infer_instance

variable {endpoint place} {config : ConveyorAgent.Config} {c after : Conveyor}
  {event : ConveyorAgent.Event} {outputs : List ConveyorAgent.Output}

theorem initial_conveyorInOrder (config : ConveyorAgent.Config) :
    ConveyorInOrder endpoint place (ConveyorAgent.initial config) where
  running := rfl
  client := rfl
  robots := by simp [Shows, ConveyorAgent.initial]
  noted := by simp [ConveyorAgent.initial]
  posted := by simp [ConveyorAgent.initial]

theorem ConveyorInOrder.congr (inOrder : ConveyorInOrder endpoint place c)
    (running : after.running = c.running) (client : after.controllerClient = c.controllerClient)
    (robots : after.positionRemoteRobotMap = c.positionRemoteRobotMap)
    (noted : after.notifications ⊆ c.notifications) (posted : after.posted ⊆ c.posted) :
    ConveyorInOrder endpoint place after where
  running := running.trans inOrder.running
  client := client.trans inOrder.client
  robots := by
    rw [robots]
    exact inOrder.robots
  noted := by
    intro position member
    rw [robots]
    exact inOrder.noted position (noted member)
  posted := fun handler member => inOrder.posted handler (posted member)

theorem ConveyorInOrder.post (inOrder : ConveyorInOrder endpoint place c) {handler : Handler}
    (genuine : Genuine endpoint place handler) :
    ConveyorInOrder endpoint place (ConveyorAgent.post c handler) where
  running := inOrder.running
  client := inOrder.client
  robots := inOrder.robots
  noted := inOrder.noted
  posted := by
    intro other member
    rcases List.mem_append.mp member with before | new
    · exact inOrder.posted other before
    · rw [List.mem_singleton.mp new]
      exact genuine

theorem ConveyorInOrder.armTimer (inOrder : ConveyorInOrder endpoint place c) (task : TimerTask)
    (delay : Nat) : ConveyorInOrder endpoint place (ConveyorAgent.armTimer c task delay) where
  running := inOrder.running
  client := inOrder.client
  robots := inOrder.robots
  noted := inOrder.noted
  posted := by
    intro handler member
    unfold ConveyorAgent.armTimer at member
    split at member
    · have aborted : ConveyorInOrder endpoint place (ConveyorAgent.post c .timerAborted) :=
        inOrder.post trivial
      exact aborted.posted handler member
    · exact inOrder.posted handler member

theorem ConveyorInOrder.keepsRobots (inOrder : ConveyorInOrder endpoint place c) :
    removeStoppedRobots c = c :=
  removeStoppedRobots_of_noneStopped inOrder.robots.noneStopped

theorem ConveyorInOrder.connect (inOrder : ConveyorInOrder endpoint place c)
    {position : Position} {name : String} (stands : StandsAt endpoint place position name) :
    ConveyorInOrder endpoint place (connectRobot c position name true) ∧
      (connectRobot c position name true).positionRemoteRobotMap position ≠ none := by
  have connected : (connectRobot c position name true).positionRemoteRobotMap =
      Function.update c.positionRemoteRobotMap position (some (some ⟨name, true⟩)) := rfl
  rw [connected, Function.update_self]
  refine ⟨?_, by simp⟩
  exact
    { running := inOrder.running
      client := inOrder.client
      robots := by
        rw [connected]
        exact inOrder.robots.connect stands
      noted := by
        intro other member
        rw [connected]
        by_cases same : other = position
        · rw [same, Function.update_self]
          simp
        · rw [Function.update_of_ne same]
          exact inOrder.noted other member
      posted := inOrder.posted }

theorem handleFinishedOrderNotification_inOrder (inOrder : ConveyorInOrder endpoint place c)
    {position : Position} {name : String} (stands : StandsAt endpoint place position name)
    {environment : Environment} (connected : environment.connected = true) :
    ConveyorInOrder endpoint place
      (handleFinishedOrderNotification c name position environment) := by
  have entered : ∀ known, ConveyorInOrder endpoint place known →
      known.positionRemoteRobotMap position ≠ none → ConveyorInOrder endpoint place
        (if known.stateStatus = .idling then
          ConveyorAgent.armTimer
            { known with
              notifications := insert position known.notifications
              stateStatus := .moving }
            .retrieveFinishedOrders (debounceTime * RobotAgent.timeUnit)
        else { known with notifications := insert position known.notifications }) := by
    intro known inOrder there
    have noted : ∀ other ∈ insert position known.notifications,
        known.positionRemoteRobotMap other ≠ none := by
      intro other member
      rcases Finset.mem_insert.mp member with rfl | before
      · exact there
      · exact inOrder.noted other before
    split
    · apply ConveyorInOrder.armTimer
      exact ⟨inOrder.running, inOrder.client, inOrder.robots, noted, inOrder.posted⟩
    · exact ⟨inOrder.running, inOrder.client, inOrder.robots, noted, inOrder.posted⟩
  unfold handleFinishedOrderNotification
  simp only [inOrder.keepsRobots, connected, not_true_eq_false, and_false, ↓reduceIte]
  split
  next unknown =>
    obtain ⟨inOrder, there⟩ := inOrder.connect stands
    exact entered _ inOrder there
  next known =>
    apply entered c inOrder
    intro none
    apply known
    intro robot found
    rw [RobotMap.find, none] at found
    contradiction

theorem takeNextRobot_inOrder (inOrder : ConveyorInOrder endpoint place c)
    (answer : ConveyorAgent.NextRobot) (position : Position) (rest : List Position) :
    ConveyorInOrder endpoint place (takeNextRobot c answer position rest) := by
  unfold takeNextRobot
  simp only
  split
  · apply ConveyorInOrder.armTimer
    split <;> exact inOrder.congr rfl rfl rfl (Finset.Subset.refl _) (List.Subset.refl _)
  · split <;> exact inOrder.congr rfl rfl rfl (Finset.Subset.refl _) (List.Subset.refl _)

theorem handleReceiveNextRobot_inOrder (inOrder : ConveyorInOrder endpoint place c)
    {answer : ConveyorAgent.NextRobot}
    (names : NamesRobot endpoint place answer.robotPosition answer.robotEndpoint)
    {environment : Environment} (connected : environment.connected = true) :
    ConveyorInOrder endpoint place (handleReceiveNextRobot c answer environment) := by
  have assigned : ∀ known, ConveyorInOrder endpoint place known →
      ConveyorInOrder endpoint place (assignNextRobot known answer) := by
    intro known inOrder
    unfold assignNextRobot
    split
    · exact inOrder
    · split
      · exact inOrder
      · exact takeNextRobot_inOrder inOrder answer _ _
  unfold handleReceiveNextRobot
  simp only [inOrder.keepsRobots, connected]
  split
  · exact inOrder
  · split
    next unknown =>
      obtain ⟨away, named, _⟩ := unknown
      have stands := (names.resolve_left away).resolve_left named
      exact assigned _ (inOrder.connect stands).1
    · exact assigned c inOrder

theorem determineNextMovement_inOrder (inOrder : ConveyorInOrder endpoint place c) :
    ConveyorInOrder endpoint place (determineNextMovement c) := by
  have decided := determineNextMovement_cases c
  generalize determineNextMovement c = after at decided
  cases decided with
  | retrieves =>
      rw [handleRetrieveFinishedOrders, inOrder.keepsRobots]
      exact inOrder.congr rfl rfl rfl (Finset.Subset.refl _) (List.Subset.refl _)
  | requests | idles =>
      exact inOrder.congr rfl rfl rfl (Finset.Subset.refl _) (List.Subset.refl _)

theorem handle_inOrder (inOrder : ConveyorInOrder endpoint place c)
    {environment : Environment} (connected : environment.connected = true) {handler : Handler}
    (genuine : Genuine endpoint place handler) (notAborted : handler ≠ .timerAborted) :
    ConveyorInOrder endpoint place (handle config c environment handler) := by
  cases handler with
  | handleFinishedOrderNotification name position =>
      exact handleFinishedOrderNotification_inOrder inOrder genuine connected
  | handleReceiveNextRobot answer =>
      exact handleReceiveNextRobot_inOrder inOrder genuine connected
  | positionSwapped | controllerReconnected => exact genuine.elim
  | timerAborted => contradiction
  | timerCompleted task =>
      cases task with
      | retrieveFinishedOrders =>
          rw [handle, handleRetrieveFinishedOrders, inOrder.keepsRobots]
          exact inOrder.congr rfl rfl rfl (Finset.Subset.refl _) (List.Subset.refl _)
      | moveConveyor =>
          obtain ⟨plates, map, moved⟩ := movePlates_frame config c 1 config.plateCount
          have same : ConveyorInOrder endpoint place
              { c with plates := plates, positionPlateIdMap := map } :=
            inOrder.congr rfl rfl rfl (Finset.Subset.refl _) (List.Subset.refl _)
          rw [handle, moveConveyor, moved, same.keepsRobots]
          exact same.congr rfl rfl rfl (Finset.Subset.refl _) (List.Subset.refl _)

theorem retrieve_inOrder (inOrder : ConveyorInOrder endpoint place c) {position : Position}
    {reply : Option (DishId × RobotAgent.HandoverReply)}
    (undisturbed : ConveyorUndisturbed endpoint place c (.retrieve position reply))
    (ran : retrieve c position reply = some (after, outputs)) :
    ConveyorInOrder endpoint place after := by
  unfold retrieve at ran
  split at ran
  · cases ran
    exact inOrder
  next free =>
    have erased : ConveyorInOrder endpoint place
        { c with notifications := c.notifications.erase position } :=
      inOrder.congr rfl rfl rfl (Finset.erase_subset _ _) (List.Subset.refl _)
    simp only at ran
    split at ran
    · cases ran
      exact erased
    · contradiction
    next there =>
      split at ran
      · rcases undisturbed rfl with occupied | absent
        · exact absurd occupied free
        · rw [there] at absent
          contradiction
      · cases ran
        unfold handleHandoverFinishedOrder
        split
        · exact erased
        · exact erased.congr rfl rfl rfl (Finset.Subset.refl _) (List.Subset.refl _)

theorem deliver_inOrder (inOrder : ConveyorInOrder endpoint place c) {plateId : PlateId}
    {kitchen : Option Bool} {robot : RobotAnswer}
    (undisturbed : ConveyorUndisturbed endpoint place c (.deliver plateId kitchen robot))
    (ran : deliver c plateId kitchen robot = some (after, outputs)) :
    ConveyorInOrder endpoint place after := by
  obtain ⟨toKitchen, toRobot⟩ := undisturbed
  have freed : ConveyorInOrder endpoint place (freePlate c plateId) :=
    inOrder.congr rfl rfl rfl (Finset.Subset.refl _) (List.Subset.refl _)
  have untargeted : ConveyorInOrder endpoint place (setTargetPosition c plateId 0) :=
    inOrder.congr rfl rfl rfl (Finset.Subset.refl _) (List.Subset.refl _)
  unfold deliver at ran
  simp only at ran
  split at ran
  · cases ran
    exact inOrder
  next started =>
    split at ran
    next completed =>
      rw [toKitchen completed] at ran
      cases ran
      exact freed
    · split at ran
      next here =>
        have targeted : (c.plates plateId).targetPosition ≠ 0 := fun none => started ⟨here.1, none⟩
        unfold deliverPartialOrder at ran
        simp only at ran
        split at ran
        · cases ran
          exact untargeted
        · contradiction
        next there =>
          obtain ⟨reported, available, reply, replied, honest⟩ :=
            toRobot ⟨here.1, targeted, here.2, by simp [there]⟩
          simp only [reported, available, replied, Option.getD_some, ne_eq, not_true_eq_false,
            ↓reduceIte, instructRobot] at ran
          cases ran
          cases accepted : reply.2 with
          | false => exact untargeted
          | true =>
              rw [honest accepted]
              simpa using freed
      · cases ran
        exact inOrder

theorem step_conveyorInOrder (inOrder : ConveyorInOrder endpoint place c) (driver : Driver c)
    (undisturbed : ConveyorUndisturbed endpoint place c event)
    (taken : ConveyorAgent.step config c event = some (after, outputs)) :
    ConveyorInOrder endpoint place after := by
  have crossed : ∀ worker, ConveyorInOrder endpoint place (setWorker c worker) := fun worker =>
    inOrder.congr rfl rfl rfl (Finset.Subset.refl _) (List.Subset.refl _)
  obtain ⟨running, reaction⟩ := ConveyorAgent.step_cases taken
  cases reaction with
  | positionChanged | robotStopped | controllerLost | controllerConnected =>
      exact undisturbed.elim
  | notificationReceived | answerReceived => exact inOrder.post undisturbed
  | expired wait =>
      have stopped : ConveyorInOrder endpoint place { c with steadyTimer := none } :=
        inOrder.congr rfl rfl rfl (Finset.Subset.refl _) (List.Subset.refl _)
      exact stopped.post trivial
  | handled environment handler posted idle next =>
      have ran : (handle config (takeHandler c posted) environment handler, []) =
          (after, ([] : List ConveyorAgent.Output)) := by
        simpa [ConveyorAgent.step, running, idle, next] using taken
      cases ran
      have subset : posted ⊆ c.posted := by
        rw [next]
        exact List.subset_cons_self handler posted
      have rest : ConveyorInOrder endpoint place (takeHandler c posted) :=
        inOrder.congr rfl rfl rfl (Finset.Subset.refl _) subset
      apply handle_inOrder rest undisturbed (inOrder.posted handler (by simp [next]))
      rintro rfl
      exact driver.notAborted (by simp [next])
  | retrieving left place reply loop member =>
      have ran : retrieve (setWorker c (.retrievingFinishedOrders (left.erase place))) place reply =
          some (after, outputs) := by
        simpa [ConveyorAgent.step, running, loop, member] using taken
      have looping := crossed (.retrievingFinishedOrders (left.erase place))
      exact retrieve_inOrder looping undisturbed ran
  | retrieved => exact crossed _
  | requested =>
      unfold armMovement
      split
      · exact (crossed _).armTimer _ _
      · exact crossed _
  | requesting left plateId reply loop member visit =>
      cases visit with
      | notRequested => exact crossed _
      | requested =>
          exact inOrder.congr rfl rfl rfl (Finset.Subset.refl _) (List.Subset.refl _)
  | delivering left plateId kitchen robot loop member =>
      have ran : deliver (setWorker c (.deliveringFinishedOrders (left.erase plateId))) plateId
          kitchen robot = some (after, outputs) := by
        simpa [ConveyorAgent.step, running, loop, member] using taken
      have looping := crossed (.deliveringFinishedOrders (left.erase plateId))
      exact deliver_inOrder looping undisturbed ran
  | delivered => exact determineNextMovement_inOrder inOrder

/-- What the conveyor has noted it forgets only at a handover. -/
theorem step_keepsNote (inOrder : ConveyorInOrder endpoint place c)
    (undisturbed : ConveyorUndisturbed endpoint place c event) {position : Position}
    (elsewhere : ∀ reply, event ≠ .retrieve position (some reply)) {name : String}
    (taken : ConveyorAgent.step config c event = some (after, outputs))
    (noted : Pickup.Noted name position c) : Pickup.Noted name position after := by
  refine Pickup.step_noted taken ?_ noted
  cases event with
  | runHandler environment =>
      rintro ⟨_, _, _, _, lost⟩
      rw [undisturbed] at lost
      contradiction
  | retrieve other reply =>
      rintro ⟨rfl, free, notPosted⟩
      cases reply with
      | some reply => exact elsewhere reply rfl
      | none =>
          rcases undisturbed rfl with occupied | absent
          · rw [free] at occupied
            contradiction
          · exact inOrder.noted other (noted.resolve_right notPosted) absent
  | receiveFinishedOrderNotification | receiveNextRobot | positionChanged | robotStopped
  | controllerLost | controllerConnected | timerExpires | retrieved | requestNextRobot | requested
  | deliver | delivered => exact id

end Conveyor

section Kitchen

open KitchenAgent

variable (endpoint : RobotId → String) (place : RobotId → Position) (known : RecipeId → Prop)

structure KitchenInOrder (k : Kitchen) : Prop where
  running : k.running = true
  client : k.controllerClient = true
  robots : Shows endpoint place k.positionRemoteRobotMap
  notSwapped : ∀ oldPosition newPosition, .positionSwapped oldPosition newPosition ∉ k.posted
  answered : ∀ answer, .handleReceiveNextRobot answer ∈ k.posted →
    NamesRobot endpoint place answer.robotPosition answer.robotEndpoint ∧ known answer.recipeId
  choosing : ∀ order recipeId, k.worker = .choosingNextRobot order recipeId → known recipeId
  instructing : ∀ answer, k.worker = .instructingRobot answer →
    RobotMap.find k.positionRemoteRobotMap answer.robotPosition =
      some ⟨answer.robotEndpoint, true⟩ ∧ known answer.recipeId

/-- No call of the kitchen fails, and what it is told is true. -/
def KitchenUndisturbed (k : Kitchen) : KitchenAgent.Event → Prop
  | .placeRandomOrder _ | .receiveCompletedOrder _ | .timerExpires | .countOrder => True
  | .receiveNextRobot answer =>
      NamesRobot endpoint place answer.robotPosition answer.robotEndpoint ∧ known answer.recipeId
  | .runHandler environment => environment.connected = true
  | .chooseNextRobot reply => reply = some true
  | .instruct robot => ∃ answer, answerInHand k = some answer ∧
      Answered answer.robotPosition robot
  | .positionChanged _ _ | .robotStopped _ | .controllerLost | .controllerConnected => False

instance [Fintype RobotId] [DecidablePred known] (k : Kitchen) (event : KitchenAgent.Event) :
    Decidable (KitchenUndisturbed endpoint place known k event) :=
  match event with
  | .placeRandomOrder _ | .receiveCompletedOrder _ | .timerExpires | .countOrder => isTrue trivial
  | .receiveNextRobot _ => inferInstanceAs (Decidable (_ ∧ _))
  | .runHandler environment => inferInstanceAs (Decidable (environment.connected = true))
  | .chooseNextRobot reply => inferInstanceAs (Decidable (reply = some true))
  | .instruct _ => inferInstanceAs (Decidable (∃ answer ∈ answerInHand k, _))
  | .positionChanged _ _ | .robotStopped _ | .controllerLost | .controllerConnected =>
      isFalse id

variable {endpoint place known} {config : KitchenAgent.Config} {k after : Kitchen}
  {event : KitchenAgent.Event} {outputs : List KitchenAgent.Output}

theorem initial_kitchenInOrder : KitchenInOrder endpoint place known KitchenAgent.initial := by
  constructor <;> simp [KitchenAgent.initial, Shows]

theorem KitchenInOrder.between (inOrder : KitchenInOrder endpoint place known k)
    (running : after.running = k.running) (client : after.controllerClient = k.controllerClient)
    (robots : Shows endpoint place after.positionRemoteRobotMap)
    (posted : after.posted ⊆ k.posted)
    (choosing : ∀ order recipeId, after.worker = .choosingNextRobot order recipeId →
      known recipeId)
    (instructing : ∀ answer, after.worker ≠ .instructingRobot answer) :
    KitchenInOrder endpoint place known after where
  running := running.trans inOrder.running
  client := client.trans inOrder.client
  robots := robots
  notSwapped := fun oldPosition newPosition member =>
    inOrder.notSwapped oldPosition newPosition (posted member)
  answered := fun answer member => inOrder.answered answer (posted member)
  choosing := choosing
  instructing := fun answer same => absurd same (instructing answer)

theorem KitchenInOrder.post (inOrder : KitchenInOrder endpoint place known k)
    {handler : KitchenAgent.Handler}
    (notSwapped : ∀ oldPosition newPosition, handler ≠ .positionSwapped oldPosition newPosition)
    (answered : ∀ answer, handler = .handleReceiveNextRobot answer →
      NamesRobot endpoint place answer.robotPosition answer.robotEndpoint ∧
        known answer.recipeId) :
    KitchenInOrder endpoint place known (KitchenAgent.post k handler) where
  running := inOrder.running
  client := inOrder.client
  robots := inOrder.robots
  notSwapped := by
    intro oldPosition newPosition member
    rcases List.mem_append.mp member with before | new
    · exact inOrder.notSwapped oldPosition newPosition before
    · exact notSwapped oldPosition newPosition (List.mem_singleton.mp new).symm
  answered := by
    intro answer member
    rcases List.mem_append.mp member with before | new
    · exact inOrder.answered answer before
    · exact answered answer (List.mem_singleton.mp new).symm
  choosing := inOrder.choosing
  instructing := inOrder.instructing

theorem handleReceiveNextRobot_kitchenInOrder (inOrder : KitchenInOrder endpoint place known k)
    (idle : k.worker = .betweenHandlers) {answer : NextRobot}
    (names : NamesRobot endpoint place answer.robotPosition answer.robotEndpoint)
    (recipe : known answer.recipeId) {environment : KitchenAgent.Environment}
    (connected : environment.connected = true) :
    KitchenInOrder endpoint place known
      (KitchenAgent.handleReceiveNextRobot k answer environment).1 := by
  have kept : withRobots k (RobotMap.removeStoppedRobots k.positionRemoteRobotMap) = k := by
    rw [inOrder.robots.removeStopped]
    rfl
  have instructed : ∀ map, Shows endpoint place map →
      RobotMap.find map answer.robotPosition = some ⟨answer.robotEndpoint, true⟩ →
      KitchenInOrder endpoint place known
        (setWorker (withRobots k map) (.instructingRobot answer)) := by
    intro map shows found
    exact
      { running := inOrder.running
        client := inOrder.client
        robots := shows
        notSwapped := inOrder.notSwapped
        answered := inOrder.answered
        choosing := by simp [setWorker]
        instructing := by
          intro other same
          cases same
          exact ⟨found, recipe⟩ }
  unfold KitchenAgent.handleReceiveNextRobot
  simp only [kept, connected, not_true_eq_false, and_false, ↓reduceIte]
  split
  · exact inOrder.between rfl rfl inOrder.robots (List.Subset.refl _) inOrder.choosing
      (by simp [dropOrder, idle])
  next named =>
    push Not at named
    have stands := (names.resolve_left named.1).resolve_left named.2
    split
    · apply instructed _ (inOrder.robots.connect stands)
      simp [RobotMap.find]
    next unknown =>
      unfold RobotMap.isUnknown at unknown
      push Not at unknown
      obtain ⟨robot, found, same⟩ := unknown
      have running := (inOrder.robots.found found).1
      apply instructed k.positionRemoteRobotMap inOrder.robots
      rw [found, ← same, ← running]

theorem handle_kitchenInOrder (inOrder : KitchenInOrder endpoint place known k)
    (idle : k.worker = .betweenHandlers) (recipes : ∀ recipeId, 1 ≤ recipeId →
      recipeId ≤ config.recipeCount → known recipeId) {environment : KitchenAgent.Environment}
    (connected : environment.connected = true) {handler : KitchenAgent.Handler}
    (notSwapped : ∀ oldPosition newPosition, handler ≠ .positionSwapped oldPosition newPosition)
    (answered : ∀ answer, handler = .handleReceiveNextRobot answer →
      NamesRobot endpoint place answer.robotPosition answer.robotEndpoint ∧
        known answer.recipeId)
    (ran : KitchenAgent.handle config k environment handler = some (after, outputs)) :
    KitchenInOrder endpoint place known after := by
  have kept : RobotMap.removeStoppedRobots k.positionRemoteRobotMap = k.positionRemoteRobotMap :=
    inOrder.robots.removeStopped
  cases handler with
  | handleRandomOrderRequest order =>
      simp only [KitchenAgent.handle, handleRandomOrderRequest, kept] at ran
      split at ran
      · obtain ⟨fits, rfl, _⟩ := place_cases ran
        refine inOrder.between rfl rfl inOrder.robots (List.Subset.refl _) ?_ (by simp [setWorker])
        intro other recipeId same
        cases same
        exact recipes _ fits.1 fits.2
      · cases ran
        exact inOrder.between rfl rfl inOrder.robots (List.Subset.refl _) inOrder.choosing
          (by simp [withRobots, idle])
  | handleReceiveNextRobot answer =>
      obtain ⟨names, recipe⟩ := answered answer rfl
      have same : (KitchenAgent.handleReceiveNextRobot k answer environment).1 = after :=
        congrArg Prod.fst (Option.some.inj ran)
      rw [← same]
      exact handleReceiveNextRobot_kitchenInOrder inOrder idle names recipe connected
  | incrementCompletedOrders order =>
      cases ran
      exact inOrder.between rfl rfl inOrder.robots (List.Subset.refl _) inOrder.choosing
        (by simp [completeOrder, idle])
  | positionSwapped oldPosition newPosition => exact absurd rfl (notSwapped _ _)
  | placingTimerCompleted =>
      simp only [KitchenAgent.handle, placingTimerCompleted] at ran
      split at ran
      · cases ran
        exact inOrder.between rfl rfl inOrder.robots (List.Subset.refl _) inOrder.choosing
          (by simp [idle])
      · obtain ⟨fits, rfl, _⟩ := place_cases ran
        refine inOrder.between rfl rfl inOrder.robots (List.Subset.refl _) ?_ (by simp [setWorker])
        intro other recipeId same
        cases same
        exact recipes _ fits.1 fits.2
  | placingTimerAborted =>
      cases ran
      exact inOrder

theorem step_kitchenInOrder (inOrder : KitchenInOrder endpoint place known k)
    (recipes : ∀ recipeId, 1 ≤ recipeId → recipeId ≤ config.recipeCount → known recipeId)
    (taken : KitchenAgent.step config k event = some (after, outputs))
    (undisturbed : KitchenUndisturbed endpoint place known k event) :
    KitchenInOrder endpoint place known after := by
  have idles : ∀ counted : Kitchen, counted.running = k.running →
      counted.controllerClient = k.controllerClient →
      counted.positionRemoteRobotMap = k.positionRemoteRobotMap → counted.posted = k.posted →
      counted.worker = .betweenHandlers → KitchenInOrder endpoint place known counted := by
    intro counted running client robots posted idle
    refine inOrder.between running client ?_ (by simp [posted]) (by simp [idle]) (by simp [idle])
    rw [robots]
    exact inOrder.robots
  obtain ⟨running, reaction⟩ := KitchenAgent.step_cases taken
  cases reaction with
  | positionChanged | robotStopped | controllerLost | controllerConnected =>
      exact undisturbed.elim
  | requestFailed => cases undisturbed
  | requestReceived | completionReceived => exact inOrder.post (by simp) (by simp)
  | answerReceived answer =>
      apply inOrder.post (by simp)
      intro other same
      cases same
      exact undisturbed
  | expired =>
      have stopped : KitchenInOrder endpoint place known { k with placingTimer := false } :=
        ⟨inOrder.running, inOrder.client, inOrder.robots, inOrder.notSwapped, inOrder.answered,
          inOrder.choosing, inOrder.instructing⟩
      exact stopped.post (by simp) (by simp)
  | handled environment handler posted idle next =>
      have ran : KitchenAgent.handle config (KitchenAgent.takeHandler k posted) environment
          handler = some (after, outputs) := by
        simpa [KitchenAgent.step, running, idle, next] using taken
      have subset : posted ⊆ k.posted := by
        rw [next]
        exact List.subset_cons_self handler posted
      have rest : KitchenInOrder endpoint place known (KitchenAgent.takeHandler k posted) :=
        inOrder.between rfl rfl inOrder.robots subset inOrder.choosing
          (by simp [KitchenAgent.takeHandler, idle])
      refine handle_kitchenInOrder rest idle recipes undisturbed ?_ ?_ ran
      · rintro oldPosition newPosition rfl
        exact inOrder.notSwapped oldPosition newPosition (by simp [next])
      · rintro answer rfl
        exact inOrder.answered answer (by simp [next])
  | requested order recipeId accepted choosing =>
      have idle := idles (setWorker k .betweenHandlers) rfl rfl rfl rfl rfl
      unfold armPlacingGate
      split
      · have aborted : KitchenInOrder endpoint place known
            (KitchenAgent.post (setWorker k .betweenHandlers) .placingTimerAborted) :=
          idle.post (by simp) (by simp)
        exact aborted.between rfl rfl inOrder.robots (List.Subset.refl _) (by simp [setWorker])
          (by simp [setWorker])
      · exact idle.between rfl rfl inOrder.robots (List.Subset.refl _) (by simp [setWorker])
          (by simp [setWorker])
  | instructionDropped answer robot map instructing =>
      obtain ⟨other, inHand, position, available, reply, replied, _⟩ := undisturbed
      obtain ⟨there, _⟩ := inOrder.instructing answer instructing
      rw [answerInHand, instructing] at inHand
      cases inHand
      simp [KitchenAgent.step, running, instructing, instruct, there, position, available,
        replied] at taken
  | instructed answer robot position accepted instructing =>
      exact inOrder.between rfl rfl inOrder.robots (List.Subset.refl _) (by simp [setWorker])
        (by simp [setWorker])
  | assigned answer | refused answer => exact idles _ rfl rfl rfl rfl rfl

end Kitchen

section Robot

open RobotAgent

/-- The robot works, takes tasks and hands dishes over, and the conveyor takes
its notifications. -/
def RobotUndisturbed : RobotAgent.Event → Prop
  | .receiveTask _ _ | .handoverFinishedOrder | .runHandler _ | .cookNextOrder
  | .timerExpires => True
  | .notifyConveyor reply => reply = some true
  | .switchPosition _ _ | .commitNewPosition | .reconfigure _ _ | .conveyorLost
  | .conveyorConnected _ => False

instance (event : RobotAgent.Event) : Decidable (RobotUndisturbed event) := by
  cases event <;> unfold RobotUndisturbed <;> infer_instance

structure RobotInOrder (config : RobotAgent.Config) (r : Robot) : Prop
    extends Steady config r where
  available : r.robotState = .available
  client : r.conveyorClient = true

variable {config : RobotAgent.Config} {r after : Robot} {event : RobotAgent.Event}
  {outputs : List RobotAgent.Output}

theorem initial_robotInOrder (started : Started config r) : RobotInOrder config r where
  toSound := initial_sound started
  running := by
    obtain ⟨_, _, _, _, _, _, _, _, rfl⟩ := started
    rfl
  state := by simp [started_available started]
  travels := travelsOn_of_available (started_available started)
  available := started_available started
  client := by
    obtain ⟨_, _, _, _, _, _, _, _, rfl⟩ := started
    rfl

theorem RobotUndisturbed.notAdaptation (undisturbed : RobotUndisturbed event) :
    event.isAdaptation = false := by
  cases event <;> first | rfl | exact undisturbed.elim

theorem RobotUndisturbed.commitsOnce (undisturbed : RobotUndisturbed event) :
    CommitsOnce r event := by
  rintro rfl
  exact undisturbed.elim

theorem RobotUndisturbed.isCalm (undisturbed : RobotUndisturbed event) :
    event.isCalm = true := by
  cases event with
  | notifyConveyor =>
      cases undisturbed
      rfl
  | reconfigure | conveyorConnected => exact undisturbed.elim
  | receiveTask | handoverFinishedOrder | switchPosition | commitNewPosition | runHandler
  | cookNextOrder | timerExpires | conveyorLost => rfl

theorem step_robotInOrder (inOrder : RobotInOrder config r)
    (undisturbed : RobotUndisturbed event)
    (taken : RobotAgent.step config r event = some (after, outputs)) :
    RobotInOrder config after ∧ after.position = r.position := by
  have reaction := (RobotAgent.step_cases taken).2
  have settled : InPhase r .settled := by simp [InPhase, inOrder.available]
  obtain ⟨next, _, travels⟩ :=
    step_travels inOrder.one settled undisturbed.notAdaptation reaction
  have stays : after.position = r.position ∧ after.robotState = .available := by
    cases travels with
    | stays _ position available => exact ⟨position, available inOrder.available⟩
  refine ⟨?_, stays.1⟩
  exact
    { step_steady inOrder.toSteady undisturbed.commitsOnce undisturbed.isCalm taken with
      available := stays.2
      client := by
        have client := inOrder.client
        cases reaction with
        | refused | taskAccepted | handedOver | expired | notified => exact client
        | switchAccepted | commitAccepted | reconfigureAccepted | conveyorLost
        | conveyorConnected | renotified | renotifyFailed => exact undisturbed.elim
        | notifyFailed => cases undisturbed
        | handled capability handler posted idle next ran =>
            exact (Pickup.handles_sameWait ran).2.trans client
        | locked waiting unlocked ran => exact (Pickup.cooks_sameWait ran).2.trans client }

end Robot

section Plant

def place (p : State RobotId) (id : RobotId) : Position := (p.robots id).position

/-- A recipe that the parser knows and that has something to do. -/
def Known (config : Config RobotId) (recipeId : RecipeId) : Prop :=
  ∃ recipe ∈ config.recipeParser.getRecipe recipeId, recipe.actionQueue ≠ []

/-- Nothing fails in the step, and the controller tells the truth. -/
def Undisturbed (config : Config RobotId) (p : State RobotId) : Event RobotId → Prop
  | .robot _ event => RobotUndisturbed event
  | .conveyor event => ConveyorUndisturbed config.endpoint (place p) p.conveyor event
  | .kitchen event =>
      KitchenUndisturbed config.endpoint (place p) (Known config) p.kitchen event
  | .answer answer =>
      NamesRobot config.endpoint (place p) answer.robotPosition answer.robotEndpoint
  | .placeOrder | .requestNextRobot | .notify _ | .renotify _ | .handover _ _ | .deliverTask _ _
  | .deliverOrder _ | .instruct _ => True

instance (config : Config RobotId) : DecidablePred (Known config) :=
  fun recipeId => inferInstanceAs
    (Decidable (∃ recipe ∈ config.recipeParser.getRecipe recipeId, recipe.actionQueue ≠ []))

instance [Fintype RobotId] (config : Config RobotId) (p : State RobotId)
    (event : Event RobotId) : Decidable (Undisturbed config p event) := by
  cases event <;> unfold Undisturbed <;> infer_instance

theorem Undisturbed.eachCommitsOnce {config : Config RobotId}
    {p : State RobotId} {event : Event RobotId} (undisturbed : Undisturbed config p event) :
    EachCommitsOnce p event := by
  rintro id own rfl
  exact RobotUndisturbed.commitsOnce undisturbed

structure InOrder (config : Config RobotId) (p : State RobotId) : Prop where
  robots : ∀ id, RobotInOrder (config.robot id) (p.robots id)
  conveyor : ConveyorInOrder config.endpoint (place p) p.conveyor
  driver : ConveyorAgent.Driver p.conveyor
  kitchen : KitchenInOrder config.endpoint (place p) (Known config) p.kitchen
  requests : ∀ request ∈ p.requests, Known config request.2
  noted : Function.Injective config.endpoint → Function.Injective (place p) →
    ∀ id, (p.robots id).pendingPickup = true →
      Pickup.Noted (config.endpoint id) (place p id) p.conveyor

variable {config : Config RobotId} {p after : State RobotId} {event : Event RobotId}
  {outputs : List (Output RobotId)}

theorem initial_inOrder [DecidableEq RobotId] (initial : (machine config).start p) :
    InOrder config p := by
  obtain ⟨started, conveyor, kitchen, requests, _⟩ := initial
  exact
    { robots := fun id => initial_robotInOrder (started id)
      conveyor := by
        rw [conveyor]
        exact initial_conveyorInOrder config.conveyor
      driver := ConveyorAgent.initial_driver conveyor
      kitchen := by
        rw [kitchen]
        exact initial_kitchenInOrder
      requests := by simp [requests]
      noted := by
        intro _ _ id pending
        obtain ⟨_, _, _, _, _, _, _, _, same⟩ := started id
        rw [same] at pending
        contradiction }

theorem InOrder.driven (inOrder : InOrder config p) {own : ConveyorAgent.Event}
    {conveyor : Conveyor} {told : List ConveyorAgent.Output}
    (undisturbed : ConveyorUndisturbed config.endpoint (place p) p.conveyor own)
    (taken : ConveyorAgent.step config.conveyor p.conveyor own = some (conveyor, told)) :
    ConveyorInOrder config.endpoint (place p) conveyor ∧ ConveyorAgent.Driver conveyor :=
  ⟨step_conveyorInOrder inOrder.conveyor inOrder.driver undisturbed taken,
    ConveyorAgent.step_driver inOrder.driver (ConveyorAgent.step_cases taken).2⟩

/-- The recipes the kitchen draws are known. -/
def DrawsKnown (config : Config RobotId) : Prop :=
  ∀ recipeId, 1 ≤ recipeId → recipeId ≤ config.kitchen.recipeCount → Known config recipeId

/-- A waiting robot has waited before, unless it has just notified the conveyor. -/
theorem RobotInOrder.waited {config : RobotAgent.Config} {r robot : Robot}
    (inOrder : RobotInOrder config r) {own : RobotAgent.Event} {sent : List RobotAgent.Output}
    (undisturbed : RobotUndisturbed own) (notNotified : own ≠ .notifyConveyor (some true))
    (taken : RobotAgent.step config r own = some (robot, sent))
    (pending : robot.pendingPickup = true) : r.pendingPickup = true := by
  have client := (step_robotInOrder inOrder undisturbed taken).1.client
  have waits := Pickup.step_waits inOrder.one (RobotAgent.step_cases taken).2 ?_ ?_
    ⟨pending, client⟩
  · exact waits.1.1
  · rintro received rfl
    have received : some received = some true := undisturbed
    rw [received] at notNotified
    contradiction
  · rintro received rfl
    exact undisturbed.elim

variable [DecidableEq RobotId]

theorem InOrder.robot (inOrder : InOrder config p) {id : RobotId} {own : RobotAgent.Event}
    {robot : Robot} {sent : List RobotAgent.Output}
    (taken : RobotAgent.step (config.robot id) (p.robots id) own = some (robot, sent))
    (undisturbed : RobotUndisturbed own) :
    (∀ other, RobotInOrder (config.robot other) (Function.update p.robots id robot other)) ∧
      place (setRobot p id robot) = place p := by
  obtain ⟨stays, position⟩ := step_robotInOrder (inOrder.robots id) undisturbed taken
  constructor
  · apply (Function.forall_update_iff p.robots
      fun other r => RobotInOrder (config.robot other) r).mpr
    exact ⟨stays, fun other _ => inOrder.robots other⟩
  · funext other
    by_cases same : other = id
    · subst same
      simp [place, setRobot, position]
    · simp [place, setRobot, same]

theorem InOrder.keepsNotes (inOrder : InOrder config p) {id : RobotId} {own : RobotAgent.Event}
    {robot : Robot} {sent : List RobotAgent.Output} {conveyor : Conveyor}
    (taken : RobotAgent.step (config.robot id) (p.robots id) own = some (robot, sent))
    (undisturbed : RobotUndisturbed own) (notNotified : own ≠ .notifyConveyor (some true))
    (kept : ∀ other, Pickup.Noted (config.endpoint other) (place p other) p.conveyor →
      Pickup.Noted (config.endpoint other) (place p other) conveyor)
    (endpoints : Function.Injective config.endpoint) (apart : Function.Injective (place p))
    (other : RobotId) (pending : (Function.update p.robots id robot other).pendingPickup = true) :
    Pickup.Noted (config.endpoint other) (place p other) conveyor := by
  apply kept
  apply inOrder.noted endpoints apart
  by_cases same : other = id
  · subst same
    rw [Function.update_self] at pending
    exact (inOrder.robots other).waited undisturbed notNotified taken pending
  · rw [Function.update_of_ne same] at pending
    exact pending

omit [DecidableEq RobotId] in
theorem InOrder.asked (inOrder : InOrder config p) {id : RobotId} {position : Position}
    (asks : asksRobot config p id position) (endpoints : Function.Injective config.endpoint) :
    place p id = position := by
  have known := asks.2
  obtain ⟨robot, found, same⟩ := RobotMap.find_of_known known
  obtain ⟨_, other, named, stands⟩ := inOrder.conveyor.robots.found found
  rw [← endpoints (named.trans same)]
  exact stands

theorem step_inOrder (draws : DrawsKnown config) (inOrder : InOrder config p)
    (undisturbed : Undisturbed config p event) (step : Step config p event after outputs) :
    InOrder config after ∧ place after = place p := by
  cases step with
  | robot id own robot outputs _ taken =>
      obtain ⟨robots, same⟩ := inOrder.robot taken undisturbed
      refine ⟨⟨robots, same ▸ inOrder.conveyor, inOrder.driver, same ▸ inOrder.kitchen,
        inOrder.requests, ?_⟩, same⟩
      rw [same]
      intro endpoints apart
      apply inOrder.keepsNotes taken undisturbed ?_ (fun _ noted => noted) endpoints apart
      rintro rfl
      contradiction
  | conveyor own conveyor outputs permitted taken =>
      obtain ⟨inOrderAfter, driver⟩ := inOrder.driven undisturbed taken
      refine ⟨⟨inOrder.robots, inOrderAfter, driver, inOrder.kitchen, inOrder.requests, ?_⟩, rfl⟩
      intro endpoints apart other pending
      apply step_keepsNote inOrder.conveyor undisturbed ?_ taken
        (inOrder.noted endpoints apart other pending)
      rintro reply rfl
      contradiction
  | kitchen own kitchen outputs permitted taken =>
      have kitchenAfter := step_kitchenInOrder inOrder.kitchen draws taken undisturbed
      exact ⟨⟨inOrder.robots, inOrder.conveyor, inOrder.driver, kitchenAfter, inOrder.requests,
        inOrder.noted⟩, rfl⟩
  | placed kitchen received taken =>
      have kitchenAfter := step_kitchenInOrder inOrder.kitchen draws taken trivial
      exact ⟨⟨inOrder.robots, inOrder.conveyor, inOrder.driver, kitchenAfter, inOrder.requests,
        inOrder.noted⟩, rfl⟩
  | requested order recipeId kitchen sent choosing taken =>
      have kitchenAfter := step_kitchenInOrder inOrder.kitchen draws taken rfl
      refine ⟨⟨inOrder.robots, inOrder.conveyor, inOrder.driver, kitchenAfter, ?_,
        inOrder.noted⟩, rfl⟩
      intro request member
      rcases List.mem_append.mp member with before | new
      · exact inOrder.requests request before
      · rw [List.mem_singleton.mp new]
        exact inOrder.kitchen.choosing order recipeId choosing
  | answered answer kitchen received member taken =>
      have known := inOrder.requests _ member
      have kitchenAfter := step_kitchenInOrder inOrder.kitchen draws taken ⟨undisturbed, known⟩
      exact ⟨⟨inOrder.robots, inOrder.conveyor, inOrder.driver, kitchenAfter,
        fun request left => inOrder.requests request (List.mem_of_mem_erase left),
        inOrder.noted⟩, rfl⟩
  | notified id call robot sent conveyor received asked notification called taken =>
      have calls : RobotUndisturbed call := by
        rcases notification with rfl | ⟨rfl, _⟩
        · rfl
        · have client := (inOrder.robots id).client
          simp [RobotAgent.step, client] at called
      have told : ConveyorUndisturbed config.endpoint (place p) p.conveyor
          (.receiveFinishedOrderNotification (config.endpoint id) (p.robots id).position) :=
        ⟨id, rfl, rfl⟩
      obtain ⟨robots, same⟩ := inOrder.robot called calls
      obtain ⟨conveyorAfter, driver⟩ := inOrder.driven told taken
      refine ⟨⟨robots, same ▸ conveyorAfter, driver, same ▸ inOrder.kitchen, inOrder.requests,
        ?_⟩, same⟩
      intro endpoints apart other pending
      have same : place { setRobot p id robot with conveyor := conveyor } = place p := same
      rw [same] at apart ⊢
      by_cases here : other = id
      · subst here
        cases (ConveyorAgent.step_cases taken).2
        exact .inr (List.mem_append_right _ (List.mem_singleton.mpr rfl))
      · have pending : (Function.update p.robots id robot other).pendingPickup = true := pending
        rw [Function.update_of_ne here] at pending
        exact step_keepsNote inOrder.conveyor told (by simp) taken
          (inOrder.noted endpoints apart other pending)
  | handedOver id position robot dish reply conveyor taken asks called retrieved =>
      have told : ConveyorUndisturbed config.endpoint (place p) p.conveyor
          (.retrieve position (some (dish, reply))) := by simp [ConveyorUndisturbed]
      obtain ⟨robots, same⟩ := inOrder.robot called trivial
      obtain ⟨conveyorAfter, driver⟩ := inOrder.driven told retrieved
      refine ⟨⟨robots, same ▸ conveyorAfter, driver, same ▸ inOrder.kitchen, inOrder.requests,
        ?_⟩, same⟩
      intro endpoints apart other pending
      have same : place { setRobot p id robot with conveyor := conveyor } = place p := same
      rw [same] at apart ⊢
      have pending : (Function.update p.robots id robot other).pendingPickup = true := pending
      have here := inOrder.asked asks endpoints
      by_cases mine : other = id
      · subst mine
        rw [Function.update_self] at pending
        have reaction := (RobotAgent.step_cases called).2
        cases reaction with
        | handedOver => contradiction
        | refused refusal =>
            cases refusal with
            | handover early => exact absurd pending (by simp [early])
      · rw [Function.update_of_ne mine] at pending
        apply step_keepsNote inOrder.conveyor told ?_ retrieved
          (inOrder.noted endpoints apart other pending)
        rintro reply same
        cases same
        exact mine (apart here.symm)
  | taskDelivered id plateId robot task position result conveyor delivered deliverable called
      taken =>
      obtain ⟨unfinished, targeted, arrived, _⟩ := deliverable
      obtain ⟨_, reported, addressed⟩ := receiveTask_reply called
      have told : ConveyorUndisturbed config.endpoint (place p) p.conveyor (.deliver plateId none
          ⟨some (p.conveyor.plates plateId).position, some true, some (position, result)⟩) := by
        refine ⟨?_, ?_⟩
        · rintro ⟨finished, _⟩
          rw [unfinished] at finished
          contradiction
        · intro _
          exact ⟨rfl, rfl, _, rfl, fun accepted => reported.trans (addressed accepted).symm⟩
      obtain ⟨robots, same⟩ := inOrder.robot called trivial
      obtain ⟨conveyorAfter, driver⟩ := inOrder.driven told taken
      refine ⟨⟨robots, same ▸ conveyorAfter, driver, same ▸ inOrder.kitchen, inOrder.requests,
        ?_⟩, same⟩
      have same : place { setRobot p id robot with conveyor := conveyor } = place p := same
      rw [same]
      apply inOrder.keepsNotes called trivial (by simp)
      intro other noted
      exact step_keepsNote inOrder.conveyor told (by simp) taken noted
  | orderDelivered plateId kitchen received conveyor delivered deliverable called taken =>
      have told : ConveyorUndisturbed config.endpoint (place p) p.conveyor
          (.deliver plateId (some true) ⟨none, none, none⟩) := by
        refine ⟨fun _ => rfl, ?_⟩
        rintro ⟨unfinished, _⟩
        rw [deliverable.1] at unfinished
        contradiction
      obtain ⟨conveyorAfter, driver⟩ := inOrder.driven told taken
      have kitchenAfter := step_kitchenInOrder inOrder.kitchen draws called trivial
      refine ⟨⟨inOrder.robots, conveyorAfter, driver, kitchenAfter, inOrder.requests, ?_⟩, rfl⟩
      intro endpoints apart other pending
      exact step_keepsNote inOrder.conveyor told (by simp) taken
        (inOrder.noted endpoints apart other pending)
  | instructed id answer robot task position result kitchen sent instructing called taken =>
      obtain ⟨_, reported, addressed⟩ := receiveTask_reply called
      have told : KitchenUndisturbed config.endpoint (place p) (Known config) p.kitchen
          (.instruct ⟨some answer.robotPosition, some true, some (position, result)⟩) :=
        ⟨answer, by rw [answerInHand, instructing], rfl, rfl, _, rfl,
          fun accepted => reported.trans (addressed accepted).symm⟩
      obtain ⟨robots, same⟩ := inOrder.robot called trivial
      have kitchenAfter := step_kitchenInOrder inOrder.kitchen draws taken told
      refine ⟨⟨robots, same ▸ inOrder.conveyor, inOrder.driver, same ▸ kitchenAfter,
        inOrder.requests, ?_⟩, same⟩
      have same : place { setRobot p id robot with kitchen := kitchen } = place p := same
      rw [same]
      exact inOrder.keepsNotes called trivial (by simp) (fun _ noted => noted)

theorem reaches_inOrder (draws : DrawsKnown config)
    {history : History (Event RobotId) (Output RobotId)}
    (reached : (machine config).Reaches (Undisturbed config) history p) : InOrder config p :=
  reached.invariant (fun _ initial => initial_inOrder initial)
    (fun _ _ _ _ inOrder undisturbed taken =>
      (step_inOrder draws inOrder undisturbed (step_cases taken)).1)

end Plant

end CpsKitchen.Plant
