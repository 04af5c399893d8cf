import CpsKitchen.RobotMap
import Mathlib.Algebra.BigOperators.Finprod

/-!
# How a map of remote robots changes

The conveyor and the kitchen change `position_remote_robot_map_` by few edits.
`operator[]` puts null pointers into it while two entries are swapped, and both
positions are erased before the handler returns. So no edit leaves a null
pointer behind, and an exchange of entries loses no remote robot.
-/

namespace CpsKitchen.RobotMap

open CpsKitchen.Recipes CpsKitchen.Exchange

set_option autoImplicit false

variable {map after : RobotMap}

/-- What a handler does to the map, one change at a time. -/
inductive Edit (map : RobotMap) : RobotMap → Prop where
  | removed : Edit map (removeStoppedRobots map)
  | stopped (position : Position) : Edit map (stopRobot map position)
  | connected (position : Position) (endpoint : String) (connected : Bool) :
      Edit map (connectRobot map position endpoint connected)
  | reflected (oldPosition newPosition : Position)
      (firstPosition secondPosition : Option Position) :
      Edit map (reflectSwap map oldPosition newPosition firstPosition secondPosition)

abbrev Edits : RobotMap → RobotMap → Prop := Relation.ReflTransGen Edit

theorem readPosition_edits (map : RobotMap) (position : Position) (reported : Option Position) :
    Edits map (readPosition map position reported) := by
  unfold readPosition
  split
  · exact .single (.stopped position)
  · exact .refl

section Nulls

def NullOnlyAt (positions : List Position) (map : RobotMap) : Prop :=
  ∀ position, map position = some none → position ∈ positions

abbrev NoNull (map : RobotMap) : Prop := NullOnlyAt [] map

theorem empty_noNull : NoNull fun _ => none := by
  intro position null
  cases null

theorem update_noNull (noNull : NoNull map) (position : Position)
    {entry : Option (Option RemoteRobot)} (filled : entry ≠ some none) :
    NoNull (Function.update map position entry) := by
  intro other null
  by_cases same : other = position
  · rw [same, Function.update_self] at null
    exact absurd null filled
  · rw [Function.update_of_ne same] at null
    exact noNull other null

theorem stopRobot_noNull (noNull : NoNull map) (position : Position) :
    NoNull (stopRobot map position) := by
  unfold stopRobot
  split
  · exact noNull
  · exact update_noNull noNull position (by simp)

theorem connectRobot_noNull (noNull : NoNull map) (position : Position) (endpoint : String)
    (connected : Bool) : NoNull (connectRobot map position endpoint connected) := by
  unfold connectRobot
  split
  · exact update_noNull noNull position (by simp)
  · exact update_noNull noNull position (by simp)

theorem readPosition_noNull (noNull : NoNull map) (position : Position)
    (reported : Option Position) : NoNull (readPosition map position reported) := by
  unfold readPosition
  split
  · exact stopRobot_noNull noNull position
  · exact noNull

theorem removeStoppedRobots_noNull (noNull : NoNull map) : NoNull (removeStoppedRobots map) := by
  intro position null
  have null : keepRunning (map position) = some none := null
  cases entry : map position with
  | none => simp [entry, keepRunning] at null
  | some held =>
      cases held with
      | none => exact noNull position entry
      | some robot =>
          rw [entry, keepRunning] at null
          split at null
          · cases null
          · cases null

theorem swapEntries_nullOnlyAt (noNull : NoNull map) (oldPosition newPosition : Position) :
    NullOnlyAt [oldPosition, newPosition] (swapEntries map oldPosition newPosition) := by
  intro position null
  by_cases new : position = newPosition
  · simp [new]
  · by_cases old : position = oldPosition
    · simp [old]
    · rw [swapEntries, Function.update_of_ne new, Function.update_of_ne old] at null
      exact absurd (noNull position null) List.not_mem_nil

theorem eraseNull_nullOnlyAt {position : Position} {positions : List Position}
    (known : NullOnlyAt (position :: positions) map) :
    NullOnlyAt positions (eraseNull map position) := by
  intro other null
  unfold eraseNull at null
  cases found : find map position with
  | none =>
      simp only [found] at null
      by_cases same : other = position
      · simp [same] at null
      · rw [Function.update_of_ne same] at null
        exact List.mem_of_ne_of_mem same (known other null)
  | some robot =>
      simp only [found] at null
      have elsewhere : other ≠ position := by
        rintro rfl
        rw [find, null] at found
        cases found
      exact List.mem_of_ne_of_mem elsewhere (known other null)

theorem reflectSwap_noNull (noNull : NoNull map) (oldPosition newPosition : Position)
    (firstPosition secondPosition : Option Position) :
    NoNull (reflectSwap map oldPosition newPosition firstPosition secondPosition) := by
  have first := readPosition_noNull noNull oldPosition firstPosition
  have weaken : ∀ {map : RobotMap}, NoNull map → NullOnlyAt [oldPosition, newPosition] map :=
    fun noNull position null => absurd (noNull position null) List.not_mem_nil
  unfold reflectSwap
  apply eraseNull_nullOnlyAt
  apply eraseNull_nullOnlyAt
  by_cases oldMisplaced : isMisplaced (readPosition map oldPosition firstPosition) oldPosition
      firstPosition
  · have second := readPosition_noNull first newPosition secondPosition
    rw [if_pos oldMisplaced]
    by_cases newMisplaced : isMisplaced (readPosition (readPosition map oldPosition firstPosition)
        newPosition secondPosition) newPosition secondPosition
    · rw [if_pos newMisplaced]
      exact swapEntries_nullOnlyAt second oldPosition newPosition
    · rw [if_neg newMisplaced]
      exact weaken second
  · rw [if_neg oldMisplaced]
    exact weaken first

theorem Edit.noNull (edit : Edit map after) (noNull : NoNull map) : NoNull after := by
  cases edit with
  | removed => exact removeStoppedRobots_noNull noNull
  | stopped position => exact stopRobot_noNull noNull position
  | connected position endpoint connected =>
      exact connectRobot_noNull noNull position endpoint connected
  | reflected oldPosition newPosition firstPosition secondPosition =>
      exact reflectSwap_noNull noNull oldPosition newPosition firstPosition secondPosition

theorem Edits.noNull (edits : Edits map after) (noNull : NoNull map) : NoNull after := by
  induction edits with
  | refl => exact noNull
  | tail _ edit ih => exact edit.noNull ih

end Nulls

section Entries

def FinitelyFilled (map : RobotMap) : Prop := {position | map position ≠ none}.Finite

theorem FinitelyFilled.of_new (filled : FinitelyFilled map) (positions : Finset Position)
    (new : ∀ position, after position ≠ none → map position ≠ none ∨ position ∈ positions) :
    FinitelyFilled after := by
  have covered : {position | after position ≠ none} ⊆
      {position | map position ≠ none} ∪ ↑positions := fun position entry => new position entry
  exact (filled.union positions.finite_toSet).subset covered

theorem empty_finite : FinitelyFilled fun _ => none := by
  simp [FinitelyFilled]

theorem update_finite (filled : FinitelyFilled map) (position : Position)
    (entry : Option (Option RemoteRobot)) :
    FinitelyFilled (Function.update map position entry) := by
  apply filled.of_new {position}
  intro other present
  by_cases same : other = position
  · exact .inr (Finset.mem_singleton.mpr same)
  · rw [Function.update_of_ne same] at present
    exact .inl present

theorem stopRobot_elsewhere (map : RobotMap) {position other : Position}
    (elsewhere : other ≠ position) : stopRobot map position other = map other := by
  unfold stopRobot
  cases find map position with
  | none => rfl
  | some robot => exact Function.update_of_ne elsewhere _ _

theorem readPosition_elsewhere (map : RobotMap) {position other : Position}
    (reported : Option Position) (elsewhere : other ≠ position) :
    readPosition map position reported other = map other := by
  unfold readPosition
  by_cases failed : reported = none
  · rw [if_pos failed, stopRobot_elsewhere map elsewhere]
  · rw [if_neg failed]

theorem eraseNull_elsewhere (map : RobotMap) {position other : Position}
    (elsewhere : other ≠ position) : eraseNull map position other = map other := by
  unfold eraseNull
  cases find map position with
  | none => exact Function.update_of_ne elsewhere _ _
  | some robot => rfl

theorem reflectSwap_elsewhere (map : RobotMap) {oldPosition newPosition other : Position}
    (firstPosition secondPosition : Option Position) (notOld : other ≠ oldPosition)
    (notNew : other ≠ newPosition) :
    reflectSwap map oldPosition newPosition firstPosition secondPosition other = map other := by
  unfold reflectSwap
  rw [eraseNull_elsewhere _ notNew, eraseNull_elsewhere _ notOld]
  by_cases oldMisplaced : isMisplaced (readPosition map oldPosition firstPosition) oldPosition
      firstPosition
  · rw [if_pos oldMisplaced]
    by_cases newMisplaced : isMisplaced (readPosition (readPosition map oldPosition firstPosition)
        newPosition secondPosition) newPosition secondPosition
    · rw [if_pos newMisplaced, swapEntries, Function.update_of_ne notNew,
        Function.update_of_ne notOld, readPosition_elsewhere _ _ notNew,
        readPosition_elsewhere _ _ notOld]
    · rw [if_neg newMisplaced, readPosition_elsewhere _ _ notNew,
        readPosition_elsewhere _ _ notOld]
  · rw [if_neg oldMisplaced, readPosition_elsewhere _ _ notOld]

theorem Edit.finite (edit : Edit map after) (filled : FinitelyFilled map) :
    FinitelyFilled after := by
  cases edit with
  | removed =>
      apply filled.of_new ∅
      intro position present
      refine .inl fun absent => present ?_
      simp [removeStoppedRobots, absent, keepRunning]
  | stopped position =>
      unfold stopRobot
      split
      · exact filled
      · exact update_finite filled position _
  | connected position endpoint connected =>
      unfold connectRobot
      split
      · exact update_finite filled position _
      · exact update_finite filled position _
  | reflected oldPosition newPosition firstPosition secondPosition =>
      apply filled.of_new {oldPosition, newPosition}
      intro position present
      by_cases inside : position = oldPosition ∨ position = newPosition
      · exact .inr (by simpa using inside)
      · obtain ⟨notOld, notNew⟩ := not_or.mp inside
        rw [reflectSwap_elsewhere map _ _ notOld notNew] at present
        exact .inl present

theorem Edits.finite (edits : Edits map after) (filled : FinitelyFilled map) :
    FinitelyFilled after := by
  induction edits with
  | refl => exact filled
  | tail _ edit ih => exact edit.finite ih

end Entries

section Objects

/-- The remote robot under a position. Its endpoint never changes. -/
def endpointAt (map : RobotMap) (position : Position) : Option String :=
  (find map position).map RemoteRobot.endpoint

def heldObjects (endpoint : Option String) : Multiset String := ↑endpoint.toList

noncomputable def objects (map : RobotMap) : Multiset String :=
  ∑ᶠ position, heldObjects (endpointAt map position)

theorem endpointAt_stopRobot (map : RobotMap) (position other : Position) :
    endpointAt (stopRobot map position) other = endpointAt map other := by
  by_cases same : other = position
  · unfold stopRobot endpointAt
    cases found : find map position with
    | none => rfl
    | some robot =>
        rw [same, found]
        simp only [find, Function.update_self]
        rfl
  · rw [endpointAt, find, stopRobot_elsewhere map same]
    rfl

theorem isUnknown_iff_endpointAt {map : RobotMap} {position : Position} {endpoint : String} :
    isUnknown map position endpoint ↔ endpointAt map position ≠ some endpoint := by
  unfold isUnknown endpointAt
  cases find map position with
  | none => simp
  | some robot => simp

theorem stopRobot_known {map : RobotMap} {position : Position} {endpoint : String}
    (stopped : Position) (known : ¬ isUnknown map position endpoint) :
    ¬ isUnknown (stopRobot map stopped) position endpoint := by
  rw [isUnknown_iff_endpointAt] at known ⊢
  rw [endpointAt_stopRobot]
  exact known

theorem endpointAt_readPosition (map : RobotMap) (position other : Position)
    (reported : Option Position) :
    endpointAt (readPosition map position reported) other = endpointAt map other := by
  unfold readPosition
  by_cases failed : reported = none
  · rw [if_pos failed, endpointAt_stopRobot]
  · rw [if_neg failed]

theorem endpointAt_eraseNull (map : RobotMap) (position other : Position) :
    endpointAt (eraseNull map position) other = endpointAt map other := by
  rw [endpointAt, find_eraseNull, endpointAt]

theorem endpointAt_swapEntries (map : RobotMap) (oldPosition newPosition other : Position) :
    endpointAt (swapEntries map oldPosition newPosition) other =
      endpointAt map (Equiv.swap oldPosition newPosition other) := by
  rw [endpointAt, find_swapEntries, swapCells, endpointAt]

/-- The callback exchanges the remote robots under its two positions or leaves
them where they are. -/
theorem endpointAt_reflectSwap (map : RobotMap) (oldPosition newPosition : Position)
    (firstPosition secondPosition : Option Position) :
    (∀ position, endpointAt (reflectSwap map oldPosition newPosition firstPosition
        secondPosition) position = endpointAt map position) ∨
    ∀ position, endpointAt (reflectSwap map oldPosition newPosition firstPosition
        secondPosition) position =
      endpointAt map (Equiv.swap oldPosition newPosition position) := by
  unfold reflectSwap
  by_cases oldMisplaced : isMisplaced (readPosition map oldPosition firstPosition) oldPosition
      firstPosition
  · by_cases newMisplaced : isMisplaced (readPosition (readPosition map oldPosition firstPosition)
        newPosition secondPosition) newPosition secondPosition
    · right
      intro position
      simp only [if_pos oldMisplaced, if_pos newMisplaced, endpointAt_eraseNull,
        endpointAt_swapEntries, endpointAt_readPosition]
    · left
      intro position
      simp only [if_pos oldMisplaced, if_neg newMisplaced, endpointAt_eraseNull,
        endpointAt_readPosition]
  · left
    intro position
    simp only [if_neg oldMisplaced, endpointAt_eraseNull, endpointAt_readPosition]

theorem objects_reflectSwap (map : RobotMap) (oldPosition newPosition : Position)
    (firstPosition secondPosition : Option Position) :
    objects (reflectSwap map oldPosition newPosition firstPosition secondPosition) =
      objects map := by
  unfold objects
  rcases endpointAt_reflectSwap map oldPosition newPosition firstPosition secondPosition with
    kept | exchanged
  · simp only [kept]
  · simp only [exchanged]
    exact finsum_comp_equiv (Equiv.swap oldPosition newPosition)
      (f := fun position => heldObjects (endpointAt map position))

end Objects

section Swap

/-- What a callback about two positions may do to the map. -/
structure Rearranges (map after : RobotMap) (oldPosition newPosition : Position) : Prop where
  finite : FinitelyFilled map ∧ FinitelyFilled after
  noNull : NoNull after
  objects : objects after = objects map
  moved : (∀ position, endpointAt after position = endpointAt map position) ∨
    ∀ position, endpointAt after position =
      endpointAt map (Equiv.swap oldPosition newPosition position)
  elsewhere : ∀ position, position ≠ oldPosition → position ≠ newPosition →
    after position = map position

theorem reflectSwap_rearranges (noNull : NoNull map) (filled : FinitelyFilled map)
    (oldPosition newPosition : Position) (firstPosition secondPosition : Option Position) :
    Rearranges map
      (reflectSwap map oldPosition newPosition firstPosition secondPosition)
      oldPosition newPosition where
  finite := by
    have edit : Edit map _ := .reflected oldPosition newPosition firstPosition secondPosition
    exact ⟨filled, edit.finite filled⟩
  noNull := reflectSwap_noNull noNull oldPosition newPosition firstPosition secondPosition
  objects := objects_reflectSwap map oldPosition newPosition firstPosition secondPosition
  moved := endpointAt_reflectSwap map oldPosition newPosition firstPosition secondPosition
  elsewhere _ notOld notNew := reflectSwap_elsewhere map _ _ notOld notNew

end Swap

end CpsKitchen.RobotMap
