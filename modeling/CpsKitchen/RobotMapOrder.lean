import CpsKitchen.KitchenAgent.Model

/-!
# The order in which moves are followed

After a rearrangement the conveyor and the kitchen have one handler posted for
every move of a robot, in some order. The handlers see the robots where they
stand now, which may be several moves away from their keys. A handler is skipped
when one of its positions has its robot already, so the order decides whether
the others lead every robot home. Where each robot has moved once at most, this
fails for a chain of moves that is handled from its front.
-/

namespace CpsKitchen.RobotMap

open CpsKitchen.Recipes CpsKitchen.Exchange
open CpsKitchen.ConveyorAgent (Conveyor)
open CpsKitchen.KitchenAgent (Kitchen)

set_option autoImplicit false

/-- Running robots, each under one position, of which no two stand at the same
place. Each of them has moved once at most, from its key to where it stands. -/
structure MovedOnce (stands : String → Position) (map : RobotMap)
    (moves : List (Position × Position)) : Prop where
  running : ∀ position robot, find map position = some robot → robot.running = true
  keyed : ∀ first second robot other, find map first = some robot →
    find map second = some other → robot.endpoint = other.endpoint → first = second
  distinct : ∀ first second robot other, find map first = some robot →
    find map second = some other → stands robot.endpoint = stands other.endpoint →
      robot.endpoint = other.endpoint
  asked : ∀ oldPosition newPosition, (oldPosition, newPosition) ∈ moves ↔
    ∃ robot, find map oldPosition = some robot ∧ stands robot.endpoint = newPosition ∧
      newPosition ≠ oldPosition
  once : moves.Nodup

def Converged (stands : String → Position) (map : RobotMap) : Prop :=
  ∀ position robot, find map position = some robot → stands robot.endpoint = position

/-- The handlers that are not skipped, one of whose positions would have its
robot, lead every robot from its key to where it stands. -/
def LedToItsPosition (stands : String → Position) (map : RobotMap)
    (moves : List (Position × Position)) : Prop :=
  LedHome (boundFor (fun robot : RemoteRobot => stands robot.endpoint) (find map)) moves

/-- A robot whose handler comes after another one was put in its place is led
back, by the moves that were carried out, to where it stands. -/
def FollowedInOrder (moves : List (Position × Position)) : Prop :=
  ∀ oldPosition newPosition, (oldPosition, newPosition) ∈ moves →
    (oldPosition, newPosition) ∉ performed moves →
      LedBack (performed moves) oldPosition newPosition

section Handlers

variable (stands : String → Position)

def followConveyor (c : Conveyor) (move : Position × Position) : Conveyor :=
  let map := removeStoppedRobots c.positionRemoteRobotMap
  ConveyorAgent.positionSwappedCallback c move.1 move.2
    ⟨true, report stands map move.1, report stands map move.2⟩

def followKitchen (k : Kitchen) (move : Position × Position) : Kitchen :=
  let map := k.positionRemoteRobotMap
  KitchenAgent.positionSwappedCallback k move.1 move.2
    ⟨0, true, report stands map move.1, report stands map move.2⟩

def followAllConveyor (c : Conveyor) (moves : List (Position × Position)) : Conveyor :=
  moves.foldl (followConveyor stands) c

def followAllKitchen (k : Kitchen) (moves : List (Position × Position)) : Kitchen :=
  moves.foldl (followKitchen stands) k

end Handlers

section Fold

variable {stands : String → Position} {map : RobotMap} {moves : List (Position × Position)}

theorem MovedOnce.movesHome (moved : MovedOnce stands map moves) :
    MovesHome (fun robot : RemoteRobot => stands robot.endpoint) (find map) moves where
  alone := fun first second robot atFirst atSecond =>
    moved.keyed first second robot robot atFirst atSecond rfl
  homes := by
    intro first second robot other atFirst atSecond same
    have endpoints := moved.distinct first second robot other atFirst atSecond same
    have positions := moved.keyed first second robot other atFirst atSecond endpoints
    rw [positions, atSecond, Option.some.injEq] at atFirst
    exact atFirst.symm
  asked := moved.asked
  once := moved.once

theorem find_removeStoppedRobots
    (running : ∀ position robot, find map position = some robot → robot.running = true) :
    find (removeStoppedRobots map) = find map := by
  funext position
  have here := running position
  unfold find at here ⊢
  unfold removeStoppedRobots
  cases entry : map position with
  | none => rfl
  | some pointer =>
      cases pointer with
      | none => rfl
      | some robot =>
          rw [entry] at here
          rw [keepRunning, if_pos (here robot rfl)]

theorem find_followConveyor {c : Conveyor} (move : Position × Position)
    (running : ∀ position robot, find c.positionRemoteRobotMap position = some robot →
      robot.running = true) :
    find (followConveyor stands c move).positionRemoteRobotMap =
      exchange (fun robot => stands robot.endpoint) (find c.positionRemoteRobotMap) move := by
  rw [← find_removeStoppedRobots running]
  exact find_reflectSwap stands _ move.1 move.2

theorem find_followKitchen (k : Kitchen) (move : Position × Position) :
    find (followKitchen stands k move).positionRemoteRobotMap =
      exchange (fun robot => stands robot.endpoint) (find k.positionRemoteRobotMap) move :=
  find_reflectSwap stands k.positionRemoteRobotMap move.1 move.2

theorem find_followAllConveyor {c : Conveyor} (moves : List (Position × Position))
    (running : ∀ position robot, find c.positionRemoteRobotMap position = some robot →
      robot.running = true) :
    find (followAllConveyor stands c moves).positionRemoteRobotMap =
      exchangeAll (fun robot => stands robot.endpoint) (find c.positionRemoteRobotMap) moves := by
  induction moves generalizing c with
  | nil => rfl
  | cons move moves ih =>
      have moved : find (followConveyor stands c move).positionRemoteRobotMap =
          exchange (fun robot => stands robot.endpoint) (find c.positionRemoteRobotMap) move :=
        find_followConveyor move running
      rw [exchangeAll, List.foldl_cons, ← moved, followAllConveyor, List.foldl_cons]
      apply ih
      intro position robot found
      rw [moved] at found
      obtain ⟨before, kept⟩ := exchange_from _ found
      exact running before robot kept

theorem find_followAllKitchen (k : Kitchen) (moves : List (Position × Position)) :
    find (followAllKitchen stands k moves).positionRemoteRobotMap =
      exchangeAll (fun robot => stands robot.endpoint) (find k.positionRemoteRobotMap) moves := by
  induction moves generalizing k with
  | nil => rfl
  | cons move moves ih =>
      rw [exchangeAll, List.foldl_cons, ← find_followKitchen, followAllKitchen, List.foldl_cons]
      exact ih (followKitchen stands k move)

end Fold

private def lineMap (third : Option String) : RobotMap := fun position =>
  match position with
  | 1 => some (some ⟨"opc.tcp://a", true⟩)
  | 2 => some (some ⟨"opc.tcp://b", true⟩)
  | 3 => third.map fun endpoint => some ⟨endpoint, true⟩
  | _ => none

private def nextInLine (endpoint : String) : Position :=
  if endpoint = "opc.tcp://a" then 2 else if endpoint = "opc.tcp://b" then 3 else 1

private theorem find_lineMap {third : Option String} {position : Position} {robot : RemoteRobot}
    (found : find (lineMap third) position = some robot) :
    robot.running = true ∧
      (position = 1 ∧ robot.endpoint = "opc.tcp://a" ∨
        position = 2 ∧ robot.endpoint = "opc.tcp://b" ∨
        position = 3 ∧ third = some robot.endpoint) := by
  unfold find lineMap at found
  split at found
  · rw [Option.join_some, Option.some.injEq] at found
    rw [← found]
    exact ⟨rfl, .inl ⟨rfl, rfl⟩⟩
  · rw [Option.join_some, Option.some.injEq] at found
    rw [← found]
    exact ⟨rfl, .inr (.inl ⟨rfl, rfl⟩)⟩
  · cases third with
    | none => cases found
    | some endpoint =>
        rw [Option.map_some, Option.join_some, Option.some.injEq] at found
        rw [← found]
        exact ⟨rfl, .inr (.inr ⟨rfl, rfl⟩)⟩
  · cases found

private theorem lineMap_movedOnce (ring : Bool) :
    MovedOnce nextInLine (lineMap (if ring then some "opc.tcp://c" else none))
      (if ring then [(1, 2), (2, 3), (3, 1)] else [(1, 2), (2, 3)]) where
  running := fun _ _ found => (find_lineMap found).1
  keyed := by
    intro first second robot other atFirst atSecond same
    have isFirst := (find_lineMap atFirst).2
    have isSecond := (find_lineMap atSecond).2
    cases ring <;> grind
  distinct := by
    intro first second robot other atFirst atSecond same
    have isFirst := (find_lineMap atFirst).2
    have isSecond := (find_lineMap atSecond).2
    unfold nextInLine at same
    cases ring <;> grind
  asked := by
    intro oldPosition newPosition
    constructor
    · intro member
      cases ring
      · have isMove : (oldPosition, newPosition) = (1, 2) ∨
            (oldPosition, newPosition) = (2, 3) := by
          simpa using member
        rcases isMove with isMove | isMove <;>
          (rw [Prod.mk.injEq] at isMove; obtain ⟨rfl, rfl⟩ := isMove)
        · exact ⟨⟨"opc.tcp://a", true⟩, rfl, by decide, by decide⟩
        · exact ⟨⟨"opc.tcp://b", true⟩, rfl, by decide, by decide⟩
      · have isMove : (oldPosition, newPosition) = (1, 2) ∨ (oldPosition, newPosition) = (2, 3) ∨
            (oldPosition, newPosition) = (3, 1) := by
          simpa using member
        rcases isMove with isMove | isMove | isMove <;>
          (rw [Prod.mk.injEq] at isMove; obtain ⟨rfl, rfl⟩ := isMove)
        · exact ⟨⟨"opc.tcp://a", true⟩, rfl, by decide, by decide⟩
        · exact ⟨⟨"opc.tcp://b", true⟩, rfl, by decide, by decide⟩
        · exact ⟨⟨"opc.tcp://c", true⟩, rfl, by decide, by decide⟩
    · rintro ⟨robot, found, rfl, _⟩
      have isPlace := (find_lineMap found).2
      unfold nextInLine
      cases ring <;> grind
  once := by cases ring <;> decide

/-- The robots at 1 and 2 have swapped, then those at 2 and 3. -/
private def afterTwoSwaps (endpoint : String) : Position :=
  if endpoint = "opc.tcp://a" then 3 else if endpoint = "opc.tcp://b" then 1 else 2

/-- The handlers of the two swaps in another order leave the robot that stands
at 3 under 1. -/
example : ¬ Converged afterTwoSwaps (followAllConveyor afterTwoSwaps
    { ConveyorAgent.initial ⟨4, by decide⟩ with
      positionRemoteRobotMap := lineMap (some "opc.tcp://c") }
    [(3, 2), (1, 2), (2, 3), (2, 1)]).positionRemoteRobotMap :=
  fun converged => absurd (converged 1 ⟨"opc.tcp://a", true⟩ (by decide)) (by decide)

end CpsKitchen.RobotMap
