import Mathlib.Data.Nat.ModEq

/-!
# A turning ring

Places numbered from 0 on a ring that turns by whole steps. After some steps
each place stands where exactly one place stood before.
-/

namespace CpsKitchen.Ring

set_option autoImplicit false

def turned (size steps place : Nat) : Nat := (place + steps) % size

theorem turned_lt {size : Nat} (positive : 0 < size) (steps place : Nat) :
    turned size steps place < size := Nat.mod_lt _ positive

theorem turned_zero {size place : Nat} (inside : place < size) : turned size 0 place = place :=
  Nat.mod_eq_of_lt inside

theorem turned_turned (size first second place : Nat) :
    turned size second (turned size first place) = turned size (first + second) place := by
  rw [turned, turned, turned, Nat.mod_add_mod, Nat.add_assoc]

theorem turned_injective {size steps first second : Nat} (insideFirst : first < size)
    (insideSecond : second < size) (same : turned size steps first = turned size steps second) :
    first = second := by
  have congruent : first + steps ≡ second + steps [MOD size] := same
  exact (Nat.ModEq.add_right_cancel' steps congruent).eq_of_lt_of_lt insideFirst insideSecond

theorem exists_turned {size : Nat} (positive : 0 < size) (steps : Nat) {position : Nat}
    (inside : position < size) : ∃ place, place < size ∧ turned size steps place = position := by
  refine ⟨(position + (size - steps % size)) % size, Nat.mod_lt _ positive, ?_⟩
  have less : steps % size < size := Nat.mod_lt _ positive
  rw [turned, Nat.mod_add_mod, ← Nat.add_mod_mod]
  have around : position + (size - steps % size) + steps % size = position + size := by omega
  rw [around, Nat.add_mod_right, Nat.mod_eq_of_lt inside]

/-- The way from one place to another, in the direction in which it is shorter. -/
def distance (size first second : Nat) : Nat :=
  min (((second : Int) - first) % size).toNat (((first : Int) - second) % size).toNat

/-- A difference of places, made positive by one turn of the ring. -/
theorem emod_sub {size first second : Nat} (insideFirst : first < size)
    (insideSecond : second < size) :
    (((second : Int) - first) % size).toNat =
      if first ≤ second then second - first else second + size - first := by
  split
  next behind =>
    rw [Int.emod_eq_of_lt (by omega) (by omega)]
    omega
  next ahead =>
    rw [← Int.add_emod_right, Int.emod_eq_of_lt (by omega) (by omega)]
    omega

/-- The steps a place has to turn to reach a position, none where it stands. -/
def wayTo (size place position : Nat) : Nat := (position + size - place) % size

theorem wayTo_eq_zero {size place position : Nat} (insidePlace : place < size)
    (insidePosition : position < size) : wayTo size place position = 0 ↔ place = position := by
  rw [wayTo]
  by_cases behind : place ≤ position
  · have around : position + size - place = position - place + size := by omega
    rw [around, Nat.add_mod_right, Nat.mod_eq_of_lt (by omega)]
    omega
  · rw [Nat.mod_eq_of_lt (by omega)]
    omega

/-- The steps until a place arrives at a position again, a full turn where it
stands. -/
def stepsUntil (size place position : Nat) : Nat :=
  if wayTo size place position = 0 then size else wayTo size place position

theorem stepsUntil_there {size place : Nat} (inside : place < size) :
    stepsUntil size place place = size := by
  rw [stepsUntil, if_pos ((wayTo_eq_zero inside inside).mpr rfl)]

theorem stepsUntil_start {size place : Nat} (inside : place < size) :
    stepsUntil size place 0 = size - place := by
  rw [stepsUntil, wayTo, Nat.zero_add]
  by_cases there : place = 0
  · rw [there, Nat.sub_zero, Nat.mod_self, if_pos rfl]
  · rw [Nat.mod_eq_of_lt (by omega), if_neg (by omega)]

theorem wayTo_turned {size place position : Nat} (insidePlace : place < size)
    (insidePosition : position < size) :
    wayTo size (turned size 1 place) position + 1 = stepsUntil size place position := by
  have last : turned size 1 place = if place + 1 = size then 0 else place + 1 := by
    rw [turned]
    split
    next full => rw [full, Nat.mod_self]
    next inside => rw [Nat.mod_eq_of_lt (by omega)]
  by_cases there : place = position
  · rw [there, stepsUntil_there insidePosition, ← there, last, wayTo]
    split
    next full =>
      rw [Nat.sub_zero, Nat.add_mod_right, Nat.mod_eq_of_lt insidePlace, full]
    next inside => rw [Nat.mod_eq_of_lt (by omega)]; omega
  · have away : wayTo size place position ≠ 0 := by
      rw [ne_eq, wayTo_eq_zero insidePlace insidePosition]
      exact there
    rw [stepsUntil, if_neg away, last, wayTo, wayTo]
    by_cases behind : place ≤ position
    · rw [if_neg (by omega)]
      have before : position + size - (place + 1) = position - (place + 1) + size := by omega
      have after : position + size - place = position - place + size := by omega
      rw [before, after, Nat.add_mod_right, Nat.add_mod_right, Nat.mod_eq_of_lt (by omega),
        Nat.mod_eq_of_lt (by omega)]
      omega
    · split
      next full =>
        rw [Nat.sub_zero, Nat.add_mod_right, Nat.mod_eq_of_lt insidePosition,
          Nat.mod_eq_of_lt (by omega)]
        omega
      next inside =>
        rw [Nat.mod_eq_of_lt (by omega), Nat.mod_eq_of_lt (by omega)]
        omega

end CpsKitchen.Ring
