import CpsKitchen.Rearrangement.Model

/-!
# The stages of a switch

For every robot a stage says how far its switch is: at the robot, in the
channel and in the controller. `Agrees` ties the stages to the map, the table
of pending swaps, the posted handlers and the worker of the controller,
`Follows` ties them to the robots.
-/

namespace CpsKitchen.Rearrangement

open CpsKitchen.Reactive CpsKitchen.Recipes
open CpsKitchen.RobotAgent (Robot InPhase OneDriver)
open CpsKitchen.ControllerAgent

set_option autoImplicit false

inductive Stage
  /-- Registered under its position and not swapping. -/
  | free (position : Position)
  /-- Told to switch. -/
  | asked (fromPosition toPosition : Position)
  /-- Arrived, the controller has not received the new position. -/
  | moved (fromPosition toPosition : Position)
  /-- The acknowledgement is posted. -/
  | noticed (fromPosition toPosition : Position)
  /-- The acknowledgement has run, that of the other robot has not. -/
  | acknowledged (fromPosition toPosition : Position)
  /-- Out of the map until the other robot was told to commit. -/
  | held (fromPosition toPosition : Position)
  /-- Back in the map and about to be told to commit. -/
  | rekeyed (fromPosition toPosition : Position)
  /-- Told to commit. -/
  | committed (fromPosition toPosition : Position)

namespace Stage

def place : Stage → Place
  | free position => .registered position
  | asked fromPosition _ | moved fromPosition _ | noticed fromPosition _
  | acknowledged fromPosition _ => .registered fromPosition
  | held _ _ => .held
  | rekeyed _ toPosition | committed _ toPosition => .registered toPosition

def position : Stage → Position
  | free position => position
  | asked fromPosition _ => fromPosition
  | moved _ toPosition | noticed _ toPosition | acknowledged _ toPosition | held _ toPosition
  | rekeyed _ toPosition | committed _ toPosition => toPosition

def remotePosition : Stage → Position
  | free position => position
  | asked fromPosition _ | moved fromPosition _ => fromPosition
  | noticed _ toPosition | acknowledged _ toPosition | held _ toPosition
  | rekeyed _ toPosition | committed _ toPosition => toPosition

def phase : Stage → RobotAgent.Phase
  | free _ => .settled
  | asked _ toPosition => .heading toPosition
  | moved _ _ | noticed _ _ | acknowledged _ _ | held _ _ | rekeyed _ _ => .arrived
  | committed _ _ => .committing

/-- The notice of the switch while it travels. -/
def notices : Stage → List Position
  | moved _ toPosition => [toPosition]
  | _ => []

def isNoticed : Stage → Bool
  | free _ | asked _ _ | moved _ _ => false
  | noticed _ _ | acknowledged _ _ | held _ _ | rekeyed _ _ | committed _ _ => true

def isReset : Stage → Bool
  | rekeyed _ _ | committed _ _ => true
  | _ => false

def switch : Stage → Option (Position × Position)
  | free _ => none
  | asked fromPosition toPosition | moved fromPosition toPosition
  | noticed fromPosition toPosition | acknowledged fromPosition toPosition
  | held fromPosition toPosition | rekeyed fromPosition toPosition
  | committed fromPosition toPosition => some (fromPosition, toPosition)

def leaving : Stage → Option (Position × Position)
  | asked fromPosition toPosition | moved fromPosition toPosition
  | noticed fromPosition toPosition | acknowledged fromPosition toPosition =>
      some (fromPosition, toPosition)
  | _ => none

def waiting : Stage → Option (Position × Position)
  | asked fromPosition toPosition | moved fromPosition toPosition
  | noticed fromPosition toPosition => some (fromPosition, toPosition)
  | _ => none

def ack : Stage → Option (Position × Position)
  | noticed fromPosition toPosition => some (fromPosition, toPosition)
  | _ => none

def returning : Stage → Option (Position × Position)
  | rekeyed fromPosition toPosition => some (fromPosition, toPosition)
  | _ => none

def outside : Stage → Option (Position × Position)
  | held fromPosition toPosition => some (fromPosition, toPosition)
  | _ => none

theorem leaving_of_waiting {stage : Stage} {switch : Position × Position}
    (waits : stage.waiting = some switch) : stage.leaving = some switch := by
  cases stage with
  | asked | moved | noticed => exact waits
  | free | acknowledged | held | rekeyed | committed => contradiction

theorem waiting_of_ack {stage : Stage} {switch : Position × Position}
    (acks : stage.ack = some switch) : stage.waiting = some switch := by
  cases stage with
  | noticed => exact acks
  | free | asked | moved | acknowledged | held | rekeyed | committed => contradiction

theorem place_of_leaving {stage : Stage} {switch : Position × Position}
    (leaves : stage.leaving = some switch) : stage.place = .registered switch.1 := by
  cases stage with
  | asked | moved | noticed | acknowledged => cases leaves; rfl
  | free | held | rekeyed | committed => contradiction

theorem place_of_returning {stage : Stage} {switch : Position × Position}
    (returns : stage.returning = some switch) : stage.place = .registered switch.2 := by
  cases stage with
  | rekeyed => cases returns; rfl
  | free | asked | moved | noticed | acknowledged | held | committed => contradiction

theorem switch_of_leaving {stage : Stage} {switch : Position × Position}
    (leaves : stage.leaving = some switch) : stage.switch = some switch := by
  cases stage with
  | asked | moved | noticed | acknowledged => exact leaves
  | free | held | rekeyed | committed => contradiction

theorem free_of_no_switch {stage : Stage} (none : stage.switch = none) :
    ∃ position, stage = .free position := by
  cases stage with
  | free position => exact ⟨position, rfl⟩
  | asked | moved | noticed | acknowledged | held | rekeyed | committed => contradiction

theorem place_eq_held {stage : Stage} :
    stage.place = .held ↔ ∃ switch, stage.outside = some switch := by
  cases stage <;> simp [place, outside]

end Stage

/-- A robot in its stage, `remote` is the controller's view of it. -/
structure Follows (r : Robot) (notices : List Position) (remote : RemoteRobot)
    (lastSwitch : Option (Position × Position)) (stage : Stage) : Prop where
  position : r.position = stage.position
  phase : InPhase r stage.phase
  remotePosition : remote.position = stage.remotePosition
  running : remote.running = true
  notices : notices = initialNotice remote ++ stage.notices
  subscribed : stage.isNoticed = true → remote.initialPositionSubscription = false
  last : ∀ switch, stage.switch = some switch → lastSwitch = some switch
  reset : stage.isReset = true → remote.adaptivityIsPending = false
  done : ∀ position, stage = .free position → ∀ switch, lastSwitch = some switch →
    switch.2 = position ∧ r.robotState = .available ∧ remote.adaptivityIsPending = false

section Views

def servedAt (c : Controller) (place : Place) : Option String :=
  (robotAt c place).map RemoteRobot.endpoint

def ack? : Handler → Option (Position × Position)
  | .positionSwapped oldPosition newPosition => some (oldPosition, newPosition)
  | _ => none

def postedAcks (c : Controller) : List (Position × Position) := c.posted.filterMap ack?

def isRegistration : Handler → Bool
  | .handleRobotRegistration _ _ _ => true
  | _ => false

def ackFrom (entry : SwapKey × SwapState) (position : Position) : Bool :=
  if position = entry.1.2 then entry.2.ackFromGreaterPosition
  else entry.2.ackFromLowerPosition

def CommitsTo (worker : Worker) (switch : Position × Position) : Prop :=
  match worker with
  | .committingFirst key _ position | .committingSecond key position =>
      position = switch.2 ∧ key = swapKey switch.1 switch.2
  | _ => False

/-- The first robot of the swap was told to switch, the second was not. -/
def Opening (worker : Worker) (switch : Position × Position) : Prop :=
  match worker with
  | .switchingSecond _ fromPosition toPosition => (fromPosition, toPosition) = switch
  | _ => False

end Views

section Agreement

variable (config : Config)

def Waiting (stage : String → Stage) (switch : Position × Position) : Prop :=
  ∃ endpoint ∈ config.endpoints, (stage endpoint).waiting = some switch

def Targets (c : Controller) (fromPosition toPosition : Position) : Prop :=
  onBelt config toPosition ∧ (isRegistered c toPosition → onBelt config fromPosition)

def Left (stage : String → Stage) (key : SwapKey) : Prop :=
  ∀ endpoint ∈ config.endpoints, ∀ switch, (stage endpoint).leaving = some switch →
    swapKey switch.1 switch.2 ≠ key

def WorkerAgrees (c : Controller) (stage : String → Stage) : Worker → Prop
  | .checkingFirst _ fromPosition toPosition | .switchingFirst _ fromPosition toPosition =>
      isRegistered c fromPosition ∧ Targets config c fromPosition toPosition
  | .checkingSecond _ fromPosition toPosition =>
      isRegistered c fromPosition ∧ isRegistered c toPosition ∧
        Targets config c fromPosition toPosition
  | .switchingSecond _ fromPosition toPosition =>
      isRegistered c toPosition ∧ onBelt config fromPosition ∧
        Waiting config stage (fromPosition, toPosition)
  | .checkingReconfiguration _ robotPosition _ | .reconfiguring _ robotPosition _ =>
      isRegistered c robotPosition
  | .committingFirst key second position =>
      key ∈ swapKeys c ∧ Left config stage key ∧ ∃ endpoint ∈ config.endpoints, ∃ fromPosition,
        (stage endpoint).returning = some (fromPosition, position) ∧
        swapKey fromPosition position = key ∧
        (second.isSome = true → ¬ isRegistered c fromPosition) ∧
        ∀ other ∈ config.endpoints, ∀ switch, (stage other).outside = some switch →
          switch = (position, fromPosition)
  | .committingSecond key position =>
      Left config stage key ∧ ∃ endpoint ∈ config.endpoints, ∃ fromPosition,
        (stage endpoint).returning = some (fromPosition, position) ∧
        swapKey fromPosition position = key
  | .initializingRobot _ _ | .readingPendingCommit _ | .resolvingMissedCommit _ => False
  | _ => True

structure Agrees (c : Controller) (stage : String → Stage) : Prop extends SwapTable c where
  served : ∀ place endpoint, servedAt c place = some endpoint ↔
    endpoint ∈ config.endpoints ∧ (stage endpoint).place = place
  acks : ∀ switch, switch ∈ postedAcks c ↔
    ∃ endpoint ∈ config.endpoints, (stage endpoint).ack = some switch
  once : (postedAcks c).Nodup
  registered : ∀ handler ∈ c.posted, isRegistration handler = false
  acked : ∀ entry ∈ c.pendingSwaps, ∀ fromPosition toPosition,
    swapKey fromPosition toPosition = entry.1 →
      (ackFrom entry fromPosition = true ↔ ¬ Waiting config stage (fromPosition, toPosition))
  swapping : ∀ endpoint ∈ config.endpoints, ∀ switch, (stage endpoint).leaving = some switch →
    swapKey switch.1 switch.2 ∈ swapKeys c ∨ Opening c.worker switch
  occupied : ∀ key ∈ swapKeys c, ¬ Completing c.worker key →
    ∀ endpoint ∈ config.endpoints, ∀ position, (stage endpoint).place = .registered position →
      involves position key → ∃ switch, (stage endpoint).leaving = some switch ∧
        swapKey switch.1 switch.2 = key
  rekeyed : ∀ endpoint ∈ config.endpoints, ∀ switch, (stage endpoint).returning = some switch →
    CommitsTo c.worker switch
  worker : WorkerAgrees config c stage c.worker

/-- A swap that both robots acknowledged is being completed. -/
def Unfinished (c : Controller) : Prop :=
  ∀ entry ∈ c.pendingSwaps, entry.2.isAcknowledged = true → Completing c.worker entry.1

def readied : Worker → List Position
  | .checkingSecond _ fromPosition _ => [fromPosition]
  | .switchingFirst _ fromPosition toPosition => [fromPosition, toPosition]
  | .switchingSecond _ _ toPosition => [toPosition]
  | _ => []

structure Coherent (p : Plant) (stage : String → Stage) : Prop where
  agrees : Agrees config p.controller stage
  unfinished : Unfinished p.controller
  oneDriver : ∀ endpoint ∈ config.endpoints, OneDriver (p.robots endpoint)
  follows : ∀ endpoint ∈ config.endpoints, ∀ remote,
    robotAt p.controller (stage endpoint).place = some remote →
      Follows (p.robots endpoint) (p.notices endpoint) remote (p.lastSwitch endpoint)
        (stage endpoint)
  ready : ∀ position ∈ readied p.controller.worker, ∀ endpoint ∈ config.endpoints,
    (stage endpoint).place = .registered position →
      stage endpoint = .free position ∧ (p.robots endpoint).robotState = .available

end Agreement

section Frames

variable {config : Config} {c after : Controller} {stage later : String → Stage}

theorem isRegistered_iff_served {position : Position} :
    isRegistered c position ↔ (servedAt c (.registered position)).isSome = true := by
  rw [servedAt, Option.isSome_map]
  rfl

theorem Agrees.keeps (agrees : Agrees config c stage) {endpoint : String}
    (member : endpoint ∈ config.endpoints) :
    ∃ remote, robotAt c (stage endpoint).place = some remote ∧ remote.endpoint = endpoint :=
  Option.map_eq_some_iff.mp ((agrees.served _ endpoint).mpr ⟨member, rfl⟩)

theorem Agrees.unique (agrees : Agrees config c stage) {first second : String}
    (firstMember : first ∈ config.endpoints) (secondMember : second ∈ config.endpoints)
    (same : (stage first).place = (stage second).place) : first = second := by
  have here := (agrees.served _ first).mpr ⟨firstMember, same⟩
  rw [(agrees.served _ second).mpr ⟨secondMember, rfl⟩] at here
  exact (Option.some.inj here).symm

theorem Agrees.isRegistered_iff (agrees : Agrees config c stage) {position : Position} :
    isRegistered c position ↔
      ∃ endpoint ∈ config.endpoints, (stage endpoint).place = .registered position := by
  rw [isRegistered_iff_served, Option.isSome_iff_exists]
  exact exists_congr fun endpoint => agrees.served _ endpoint

theorem WorkerAgrees.transport {worker : Worker} (agrees : WorkerAgrees config c stage worker)
    (keys : swapKeys after = swapKeys c)
    (registered : ∀ position, isRegistered after position ↔ isRegistered c position)
    (leaving : ∀ endpoint, (later endpoint).leaving = (stage endpoint).leaving)
    (waiting : ∀ endpoint, (later endpoint).waiting = (stage endpoint).waiting)
    (returning : ∀ endpoint, (later endpoint).returning = (stage endpoint).returning)
    (outside : ∀ endpoint, (later endpoint).outside = (stage endpoint).outside) :
    WorkerAgrees config after later worker := by
  have same : WorkerAgrees config after later worker = WorkerAgrees config c stage worker := by
    cases worker <;>
      simp only [WorkerAgrees, Targets, Left, Waiting, keys, registered, leaving, waiting,
        returning, outside]
  rw [same]
  exact agrees

theorem Agrees.transport (agrees : Agrees config c stage) (table : SwapTable after)
    (served : ∀ place, servedAt after place = servedAt c place)
    (swaps : after.pendingSwaps = c.pendingSwaps) (acks : postedAcks after = postedAcks c)
    (registered : ∀ handler ∈ after.posted, isRegistration handler = false)
    (completing : ∀ key, Completing after.worker key ↔ Completing c.worker key)
    (commits : ∀ switch, CommitsTo c.worker switch → CommitsTo after.worker switch)
    (opening : ∀ switch, Opening c.worker switch → Opening after.worker switch)
    (worker : WorkerAgrees config after stage after.worker) : Agrees config after stage where
  toSwapTable := table
  served := fun place endpoint => by rw [served]; exact agrees.served place endpoint
  acks := fun switch => by rw [acks]; exact agrees.acks switch
  once := by rw [acks]; exact agrees.once
  registered := registered
  acked := by rw [swaps]; exact agrees.acked
  swapping := by
    intro endpoint member switch leaves
    rw [swapKeys, swaps]
    exact (agrees.swapping endpoint member switch leaves).imp_right (opening switch)
  occupied := by
    intro key member notCompleting
    rw [swapKeys, swaps] at member
    exact agrees.occupied key member
      (fun completes => notCompleting ((completing key).mpr completes))
  rekeyed := fun endpoint member switch returns =>
    commits switch (agrees.rekeyed endpoint member switch returns)
  worker := worker

/-- A robot goes on to a stage in which the controller does not see it differ. -/
theorem Agrees.restage (agrees : Agrees config c stage)
    (place : ∀ endpoint, (later endpoint).place = (stage endpoint).place)
    (leaving : ∀ endpoint, (later endpoint).leaving = (stage endpoint).leaving)
    (waiting : ∀ endpoint, (later endpoint).waiting = (stage endpoint).waiting)
    (ack : ∀ endpoint, (later endpoint).ack = (stage endpoint).ack)
    (returning : ∀ endpoint, (later endpoint).returning = (stage endpoint).returning)
    (outside : ∀ endpoint, (later endpoint).outside = (stage endpoint).outside) :
    Agrees config c later where
  toSwapTable := agrees.toSwapTable
  served := by simpa only [place] using agrees.served
  acks := by simpa only [ack] using agrees.acks
  once := agrees.once
  registered := agrees.registered
  acked := by simpa only [Waiting, waiting] using agrees.acked
  swapping := by simpa only [leaving] using agrees.swapping
  occupied := by simpa only [place, leaving] using agrees.occupied
  rekeyed := by simpa only [returning] using agrees.rekeyed
  worker := agrees.worker.transport rfl (fun _ => Iff.rfl) leaving waiting returning outside

theorem view_update (stage : String → Stage) (endpoint : String) (next : Stage) {View : Type}
    (view : Stage → View) (same : view next = view (stage endpoint)) (other : String) :
    view (Function.update stage endpoint next other) = view (stage other) := by
  by_cases here : other = endpoint
  · rw [here, Function.update_self, same]
  · rw [Function.update_of_ne here]

theorem Agrees.restage_one (agrees : Agrees config c stage) {endpoint : String} {next : Stage}
    (place : next.place = (stage endpoint).place)
    (leaving : next.leaving = (stage endpoint).leaving)
    (waiting : next.waiting = (stage endpoint).waiting)
    (ack : next.ack = (stage endpoint).ack)
    (returning : next.returning = (stage endpoint).returning)
    (outside : next.outside = (stage endpoint).outside) :
    Agrees config c (Function.update stage endpoint next) :=
  agrees.restage (view_update stage endpoint next Stage.place place)
    (view_update stage endpoint next Stage.leaving leaving)
    (view_update stage endpoint next Stage.waiting waiting)
    (view_update stage endpoint next Stage.ack ack)
    (view_update stage endpoint next Stage.returning returning)
    (view_update stage endpoint next Stage.outside outside)

end Frames

section Places

variable {c : Controller}

theorem robotAt_updateAt (c : Controller) (change : RemoteRobot → RemoteRobot)
    (place other : Place) :
    robotAt (updateAt c change place) other =
      if other = place then (robotAt c place).map change else robotAt c other := by
  cases place with
  | registered position =>
      cases other with
      | registered otherPosition =>
          simp only [Place.registered.injEq]
          exact findRobot_updateRobot c position change otherPosition
      | held => rfl
  | held =>
      cases other with
      | registered otherPosition =>
          rw [if_neg (by simp)]
          unfold updateAt
          simp only
          split <;> rfl
      | held =>
          rw [if_pos rfl]
          unfold updateAt robotAt setWorker
          cases worker : c.worker with
          | initializingRobot | committingFirst => rfl
          | _ => simp [worker]

theorem servedAt_updateAt {change : RemoteRobot → RemoteRobot}
    (endpoint : ∀ robot, (change robot).endpoint = robot.endpoint) (place other : Place) :
    servedAt (updateAt c change place) other = servedAt c other := by
  rw [servedAt, servedAt, robotAt_updateAt]
  split
  next here =>
    rw [here, Option.map_map]
    congr 1
    funext robot
    exact endpoint robot
  · rfl

end Places

end CpsKitchen.Rearrangement
