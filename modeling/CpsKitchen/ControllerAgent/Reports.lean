import CpsKitchen.ControllerAgent.HalfSwaps

/-!
# What robots have still to report

A robot that accepted a switch or a reconfiguration reports it later, and the
handler of the report comes later still. The record keeps what was accepted and
not processed yet. A robot that dies leaves its handlers behind.
-/

namespace CpsKitchen.ControllerAgent

open CpsKitchen.Reactive CpsKitchen.Recipes

set_option autoImplicit false

section Reports

/-- A reconfiguration that a robot accepted, until its change is processed. -/
inductive Change
  | instructed
  | reported
  deriving DecidableEq

/-- What the robots under the keys still have to report: the position they were
told to go to, and the change of their capabilities. -/
structure Reports where
  target : Position → Option Position
  change : Position → Option Change

def noReports : Reports where
  target _ := none
  change _ := none

def Worker.tells : Worker → Position → Position → Prop
  | .switchingFirst _ fromPosition toPosition, position, target =>
      position = fromPosition ∧ target = toPosition
  | .switchingSecond _ fromPosition toPosition, position, target =>
      position = toPosition ∧ target = fromPosition
  | _, _, _ => False

instance (worker : Worker) (position target : Position) :
    Decidable (worker.tells position target) := by
  unfold Worker.tells
  split <;> infer_instance

/-- The first robot was told, the entry of the swap is yet to be made. -/
def Worker.told : Worker → Position → Position → Prop
  | .switchingSecond _ fromPosition toPosition, position, target =>
      position = fromPosition ∧ target = toPosition
  | _, _, _ => False

def Worker.reconfigures : Worker → Position → Prop
  | .reconfiguring _ robotPosition _, position => robotPosition = position
  | _, _ => False

instance (worker : Worker) (position : Position) : Decidable (worker.reconfigures position) := by
  unfold Worker.reconfigures
  split <;> infer_instance

/-- A robot accepted to switch. It may have reported its new position before
its reply was processed. -/
def Reports.tell (reports : Reports) (c : Controller) (position target : Position) : Reports :=
  if (findRobot c position).any fun robot => decide (robot.position ≠ target) then
    { reports with target := Function.update reports.target position (some target) }
  else reports

def Reports.instruct (reports : Reports) (c : Controller) (position : Position) : Reports :=
  if isRegistered c position ∧ reports.change position = none then
    { reports with change := Function.update reports.change position (some .instructed) }
  else reports

def Reports.forgetStopped (reports : Reports) (c : Controller) : Reports where
  target position := if isStopped c position then none else reports.target position
  change position := if isStopped c position then none else reports.change position

def Reports.process (reports : Reports) : Option Handler → Reports
  | some (.capabilitiesReconfigured robotPosition) =>
      { reports with change := Function.update reports.change robotPosition none }
  | _ => reports

def keepReports (c : Controller) (event : Event) (reports : Reports) : Reports :=
  match event with
  | .runHandler => (reports.forgetStopped c).process c.posted.head?
  | .positionSwitched (some true) =>
      match c.worker with
      | .switchingFirst _ fromPosition toPosition => reports.tell c fromPosition toPosition
      | .switchingSecond _ fromPosition toPosition => reports.tell c toPosition fromPosition
      | _ => reports
  | .positionChanged (.registered position) newPosition =>
      if reports.target position = some newPosition then
        { reports with target := Function.update reports.target position none }
      else reports
  | .capabilitiesInstructed (some true) =>
      match c.worker with
      | .reconfiguring _ robotPosition _ => reports.instruct c robotPosition
      | _ => reports
  | .capabilitiesChanged (.registered position) _ =>
      if (findRobot c position).any RemoteRobot.initialCapabilitiesSubscription then reports
      else { reports with change := Function.update reports.change position (some .reported) }
  | _ => reports

/-- Robots change their position only when switched, and report the target. What
a subscription starts with is the position the robot is registered with. -/
def ReportsMove (c : Controller) (reports : Reports) (place : Place) (newPosition : Position)
    (robot : RemoteRobot) : Prop :=
  match place with
  | .registered position =>
      robot.initialPositionSubscription = true ∧ newPosition = robot.position ∨
        reports.target position = some newPosition ∨
        c.worker.tells position newPosition ∧ robot.position ≠ newPosition
  | .held => robot.initialPositionSubscription = true ∧ newPosition = robot.position

instance (c : Controller) (reports : Reports) (place : Place) (newPosition : Position) :
    DecidablePred (ReportsMove c reports place newPosition) := by
  intro robot
  unfold ReportsMove
  split <;> infer_instance

/-- Capabilities change once for an accepted reconfiguration. -/
def ReportsChange (c : Controller) (reports : Reports) (place : Place) (robot : RemoteRobot) :
    Prop :=
  robot.initialCapabilitiesSubscription = true ∨
    match place with
    | .registered position =>
        reports.change position = some .instructed ∨
          c.worker.reconfigures position ∧ reports.change position = none
    | .held => False

instance (c : Controller) (reports : Reports) (place : Place) :
    DecidablePred (ReportsChange c reports place) := by
  intro robot
  unfold ReportsChange
  refine @instDecidableOr _ _ _ ?_
  split <;> infer_instance

/-- The robots behave, and no robot refuses to switch, which would stop the
controller. A robot that moved or changed has accepted to. Positions are 32-bit
words, so the counter can hold the number of robots. -/
def Lawful (c : Controller) (reports : Reports) : Event → Prop
  | .positionChanged place newPosition =>
      ∃ robot ∈ robotAt c place, robot.running = true ∧
        ReportsMove c reports place newPosition robot
  | .capabilitiesChanged place _ =>
      ∃ robot ∈ robotAt c place, robot.running = true ∧ ReportsChange c reports place robot
  | .robotInitialized _ => c.positionRemoteRobotMap.keys.card + 1 < 2 ^ 32
  | .positionSwitched reply =>
      reply ≠ some false ∧
        (reply = none →
          match c.worker with
          | .switchingFirst _ fromPosition _ =>
              ∀ robot ∈ findRobot c fromPosition, robot.position = fromPosition
          | _ => True)
  | .capabilitiesInstructed reply =>
      reply ≠ some true →
        match c.worker with
        | .reconfiguring _ robotPosition _ => reports.change robotPosition = none
        | _ => True
  | _ => True

instance (c : Controller) (reports : Reports) (event : Event) :
    Decidable (Lawful c reports event) := by
  unfold Lawful
  split
  · infer_instance
  · infer_instance
  · infer_instance
  · refine @instDecidableAnd _ _ _ (@instDecidableForall _ _ _ ?_)
    split <;> infer_instance
  · refine @instDecidableForall _ _ _ ?_
    split <;> infer_instance
  · infer_instance

/-- The next handler was posted by the robot it is run for, if that robot waits
for it. A robot under its old position has reported the new one, and a robot
with pending adaptivity has reported the change that is processed. -/
def NotStale (c : Controller) (reports : Reports) (event : Event) : Prop :=
  event = .runHandler →
    match c.posted with
    | .positionSwapped oldPosition newPosition :: _ =>
        swapKey oldPosition newPosition ∈ swapKeys c →
          ∀ robot ∈ findRobot c oldPosition, robot.running = true → robot.position = newPosition
    | .capabilitiesReconfigured robotPosition :: posted =>
        ∀ robot ∈ findRobot c robotPosition, robot.running = true →
          robot.adaptivityIsPending = true →
            reports.change robotPosition = some .reported ∧
              .capabilitiesReconfigured robotPosition ∉ posted
    | _ => True

instance (c : Controller) (reports : Reports) (event : Event) :
    Decidable (NotStale c reports event) := by
  unfold NotStale
  refine @instDecidableForall _ _ _ ?_
  split <;> infer_instance

end Reports

end CpsKitchen.ControllerAgent
