import CpsKitchen.Exchange
import CpsKitchen.Recipes

/-!
# Remote robots by position

The conveyor and the kitchen each keep a `position_remote_robot_map_` and follow
rearrangements in the same way: the callback of a move looks at the robots under
its two positions and exchanges the entries when neither is where it stands.
What the callback does to the robots is an exchange of cells.
-/

namespace CpsKitchen.RobotMap

open CpsKitchen.Recipes CpsKitchen.Exchange

set_option autoImplicit false

structure RemoteRobot where
  endpoint : String
  running : Bool
  deriving DecidableEq

/-- `some none` is an entry that holds a null pointer. -/
abbrev RobotMap := Position → Option (Option RemoteRobot)

def find (map : RobotMap) (position : Position) : Option RemoteRobot := (map position).join

/-- The robot under a position has no entry or another endpoint. -/
def isUnknown (map : RobotMap) (position : Position) (endpoint : String) : Prop :=
  ∀ robot, find map position = some robot → robot.endpoint ≠ endpoint

instance (map : RobotMap) (position : Position) (endpoint : String) :
    Decidable (isUnknown map position endpoint) :=
  match found : find map position with
  | none => isTrue (by simp [isUnknown, found])
  | some robot =>
      decidable_of_iff (robot.endpoint ≠ endpoint) (by simp [isUnknown, found])

theorem find_of_known {map : RobotMap} {position : Position} {endpoint : String}
    (known : ¬ isUnknown map position endpoint) :
    ∃ robot, find map position = some robot ∧ robot.endpoint = endpoint := by
  simpa [isUnknown] using known

/-- A remote robot whose connection failed does not run any more. -/
def stopRobot (map : RobotMap) (position : Position) : RobotMap :=
  match find map position with
  | none => map
  | some robot => Function.update map position (some (some { robot with running := false }))

/-- A new remote robot replaces the entry, if its connection comes up. -/
def connectRobot (map : RobotMap) (position : Position) (endpoint : String)
    (connected : Bool) : RobotMap :=
  if connected then Function.update map position (some (some ⟨endpoint, true⟩))
  else Function.update map position none

/-- The source follows every pointer here. A null one is left alone. -/
def keepRunning : Option (Option RemoteRobot) → Option (Option RemoteRobot)
  | some (some robot) => if robot.running then some (some robot) else none
  | entry => entry

def removeStoppedRobots (map : RobotMap) : RobotMap := fun position => keepRunning (map position)

/-- An entry that holds null goes away, and so does the one that the read by
`operator[]` has just made. -/
def eraseNull (map : RobotMap) (position : Position) : RobotMap :=
  match find map position with
  | none => Function.update map position none
  | some _ => map

/-- `std::swap` on two `operator[]` reads, which put null where nothing was. -/
def swapEntries (map : RobotMap) (oldPosition newPosition : Position) : RobotMap :=
  Function.update (Function.update map oldPosition (some (find map newPosition))) newPosition
    (some (find map oldPosition))

/-- A robot that is not there, or that reports another position. -/
def isMisplaced (map : RobotMap) (position : Position) (reported : Option Position) : Prop :=
  find map position = none ∨ reported.getD 0 ≠ position

instance (map : RobotMap) (position : Position) (reported : Option Position) :
    Decidable (isMisplaced map position reported) := inferInstanceAs (Decidable (_ ∨ _))

/-- A position that cannot be read stops the remote robot. -/
def readPosition (map : RobotMap) (position : Position) (reported : Option Position) : RobotMap :=
  if reported = none then stopRobot map position else map

/-- The handler of `position_swapped_callback` after the removal of stopped
robots, which only the conveyor does. -/
def reflectSwap (map : RobotMap) (oldPosition newPosition : Position)
    (firstPosition secondPosition : Option Position) : RobotMap :=
  let map := readPosition map oldPosition firstPosition
  let map :=
    if isMisplaced map oldPosition firstPosition then
      let map := readPosition map newPosition secondPosition
      if isMisplaced map newPosition secondPosition then swapEntries map oldPosition newPosition
      else map
    else map
  eraseNull (eraseNull map oldPosition) newPosition

section Exchange

variable {map : RobotMap} {position other : Position}

theorem find_eraseNull (map : RobotMap) (position other : Position) :
    find (eraseNull map position) other = find map other := by
  unfold eraseNull
  split
  next absent =>
    by_cases same : other = position
    · rw [same, absent, find, Function.update_self]
      rfl
    · rw [find, Function.update_of_ne same, find]
  · rfl

theorem find_swapEntries (map : RobotMap) (oldPosition newPosition other : Position) :
    find (swapEntries map oldPosition newPosition) other =
      swapCells (find map) oldPosition newPosition other := by
  rw [swapCells]
  by_cases isNew : other = newPosition
  · rw [isNew, find, swapEntries, Function.update_self, Equiv.swap_apply_right]
    rfl
  · rw [find, swapEntries, Function.update_of_ne isNew]
    by_cases isOld : other = oldPosition
    · rw [isOld, Function.update_self, Equiv.swap_apply_left]
      rfl
    · rw [Function.update_of_ne isOld, Equiv.swap_apply_of_ne_of_ne isOld isNew, find]

def report (stands : String → Position) (map : RobotMap) (position : Position) :
    Option Position :=
  (find map position).map fun robot => stands robot.endpoint

theorem readPosition_report (stands : String → Position) (map : RobotMap) (position : Position) :
    readPosition map position (report stands map position) = map := by
  unfold readPosition stopRobot report
  cases found : find map position with
  | none => simp
  | some robot => simp

theorem isMisplaced_report (stands : String → Position) (map : RobotMap) (position : Position) :
    isMisplaced map position (report stands map position) ↔
      ¬ Settled (fun robot => stands robot.endpoint) (find map) position := by
  unfold isMisplaced Settled report
  cases found : find map position with
  | none => simp
  | some robot => simp

/-- With truthful reports the callback exchanges two cells. -/
theorem find_reflectSwap (stands : String → Position) (map : RobotMap)
    (oldPosition newPosition : Position) :
    find (reflectSwap map oldPosition newPosition (report stands map oldPosition)
        (report stands map newPosition)) =
      exchange (fun robot => stands robot.endpoint) (find map) (oldPosition, newPosition) := by
  funext other
  rw [reflectSwap]
  simp only [find_eraseNull, readPosition_report, isMisplaced_report]
  unfold exchange
  by_cases first : Settled (fun robot => stands robot.endpoint) (find map) oldPosition
  · rw [if_neg (not_not.mpr first), if_pos (.inl first)]
  · rw [if_pos first]
    by_cases second : Settled (fun robot => stands robot.endpoint) (find map) newPosition
    · rw [if_neg (not_not.mpr second), if_pos (.inr second)]
    · rw [if_pos second, if_neg (by simp [first, second])]
      exact find_swapEntries map oldPosition newPosition other

end Exchange

end CpsKitchen.RobotMap
