import Mathlib.Logic.Relation
import Mathlib.Logic.Equiv.Basic
import Mathlib.Data.List.Nodup

/-!
# Cells that exchange their contents

Every token has a home among the cells. A move exchanges the contents of two
cells unless one of them holds a token that is at home there. Which moves are
carried out follows from the moves and from which cell's token belongs where,
and that decides where the tokens end. When every token away from home is to be
moved once, from its cell to its home, the list of the moves alone decides it.
-/

namespace CpsKitchen.Exchange

set_option autoImplicit false

variable {Key Token : Type*}

section Cells

variable [DecidableEq Key] (home : Token → Key)

def Settled (cells : Key → Option Token) (key : Key) : Prop :=
  ∃ token, cells key = some token ∧ home token = key

instance (cells : Key → Option Token) (key : Key) : Decidable (Settled home cells key) :=
  match found : cells key with
  | none => isFalse (by simp [Settled, found])
  | some token => decidable_of_iff (home token = key) (by simp [Settled, found])

def swapCells (cells : Key → Option Token) (first second : Key) : Key → Option Token :=
  fun key => cells (Equiv.swap first second key)

def exchange (cells : Key → Option Token) (move : Key × Key) : Key → Option Token :=
  if Settled home cells move.1 ∨ Settled home cells move.2 then cells
  else swapCells cells move.1 move.2

def exchangeAll (cells : Key → Option Token) (moves : List (Key × Key)) : Key → Option Token :=
  moves.foldl (exchange home) cells

theorem exchange_from {cells : Key → Option Token} {move : Key × Key} {key : Key} {token : Token}
    (found : exchange home cells move key = some token) :
    ∃ before, cells before = some token := by
  unfold exchange at found
  split at found
  · exact ⟨key, found⟩
  · exact ⟨Equiv.swap move.1 move.2 key, found⟩

end Cells

section Led

variable [DecidableEq Key]

/-- Where exchanges bring what was in a cell. -/
def led (done : List (Key × Key)) : Equiv.Perm Key :=
  done.foldl (fun places move => places.trans (Equiv.swap move.1 move.2)) (Equiv.refl Key)

theorem led_append_singleton (done : List (Key × Key)) (move : Key × Key) :
    led (done ++ [move]) = (led done).trans (Equiv.swap move.1 move.2) := by
  rw [led, List.foldl_append]
  rfl

variable (bound : Key → Option Key)

def isReached (done : List (Key × Key)) (key : Key) : Prop :=
  bound ((led done).symm key) = some key

instance (done : List (Key × Key)) (key : Key) : Decidable (isReached bound done key) :=
  inferInstanceAs (Decidable (_ = _))

/-- The moves that are carried out, after those that were: none of a cell that
its token has reached. -/
def carryOutAfter (done : List (Key × Key)) : List (Key × Key) → List (Key × Key)
  | [] => done
  | move :: moves =>
      if isReached bound done move.1 ∨ isReached bound done move.2 then carryOutAfter done moves
      else carryOutAfter (done ++ [move]) moves

def carriedOut (moves : List (Key × Key)) : List (Key × Key) := carryOutAfter bound [] moves

/-- The moves that are carried out lead every token where it is bound for. -/
def LedHome (moves : List (Key × Key)) : Prop :=
  ∀ key target, bound key = some target → led (carriedOut bound moves) key = target

variable (home : Token → Key) {start cells : Key → Option Token} {done : List (Key × Key)}

def boundFor (start : Key → Option Token) (key : Key) : Option Key := (start key).map home

theorem settled_iff_isReached (places : cells = start ∘ (led done).symm) (key : Key) :
    Settled home cells key ↔ isReached (boundFor home start) done key := by
  rw [places]
  exact Option.map_eq_some_iff.symm

theorem exchangeAll_after (places : cells = start ∘ (led done).symm) (moves : List (Key × Key)) :
    exchangeAll home cells moves =
      start ∘ (led (carryOutAfter (boundFor home start) done moves)).symm := by
  induction moves generalizing cells done with
  | nil => exact places
  | cons move moves ih =>
      rw [exchangeAll, List.foldl_cons, carryOutAfter, exchange]
      simp only [settled_iff_isReached home places]
      split
      · exact ih places
      · refine ih ?_
        funext key
        rw [swapCells, places, led_append_singleton]
        rfl

/-- Every token ends at home if and only if the moves lead it there. -/
theorem all_home_iff_ledHome (moves : List (Key × Key)) :
    (∀ key token, exchangeAll home start moves key = some token → home token = key) ↔
      LedHome (boundFor home start) moves := by
  have unmoved : start = start ∘ (led []).symm := rfl
  have final : exchangeAll home start moves =
      start ∘ (led (carriedOut (boundFor home start) moves)).symm :=
    exchangeAll_after home unmoved moves
  rw [final]
  constructor
  · intro atHome key target isBound
    obtain ⟨token, here, rfl⟩ := Option.map_eq_some_iff.mp isBound
    refine (atHome _ token ?_).symm
    rw [Function.comp_apply, Equiv.symm_apply_apply]
    exact here
  · intro leads key token there
    rw [← leads _ (home token) (Option.map_eq_some_iff.mpr ⟨token, there, rfl⟩),
      Equiv.apply_symm_apply]

end Led

section Performed

variable [DecidableEq Key]

/-- A move is overtaken when a performed one has already led into its cell. -/
def isOvertaken (performed : List (Key × Key)) (move : Key × Key) : Bool :=
  performed.any fun earlier => earlier.2 == move.1

def performAfter (performed : List (Key × Key)) : List (Key × Key) → List (Key × Key)
  | [] => performed
  | move :: moves =>
      if isOvertaken performed move then performAfter performed moves
      else performAfter (performed ++ [move]) moves

/-- The moves that are not overtaken. -/
def performed (moves : List (Key × Key)) : List (Key × Key) := performAfter [] moves

theorem isOvertaken_iff {performed : List (Key × Key)} {move : Key × Key} :
    isOvertaken performed move = true ↔ ∃ previous, (previous, move.1) ∈ performed := by
  simp only [isOvertaken, List.any_eq_true, beq_iff_eq, Prod.exists]
  constructor
  · rintro ⟨previous, key, member, rfl⟩
    exact ⟨previous, member⟩
  · rintro ⟨previous, member⟩
    exact ⟨previous, move.1, member, rfl⟩

end Performed

section LedBack

/-- The performed moves lead from a cell back to an earlier one. -/
def LedBack (performed : List (Key × Key)) : Key → Key → Prop :=
  Relation.ReflTransGen fun key previous => (previous, key) ∈ performed

theorem LedBack.eq_of_first {performed : List (Key × Key)} {key first : Key}
    (led : LedBack performed key first) (isFirst : ∀ previous, (previous, key) ∉ performed) :
    first = key := by
  induction led using Relation.ReflTransGen.head_induction_on with
  | refl => rfl
  | head step => exact absurd step (isFirst _)

theorem LedBack.weaken {performed later : List (Key × Key)} {key first : Key}
    (led : LedBack performed key first) (kept : ∀ move ∈ performed, move ∈ later) :
    LedBack later key first :=
  Relation.ReflTransGen.mono (fun _ _ member => kept _ member) _ _ led

/-- Two cells that are led back to from the same one and from which none leads
further are the same, where one move at most leads into a cell. -/
theorem LedBack.unique {performed : List (Key × Key)} {key first second : Key}
    (single : ∀ previous other target, (previous, target) ∈ performed →
      (other, target) ∈ performed → previous = other)
    (ledFirst : LedBack performed key first) (ledSecond : LedBack performed key second)
    (isFirst : ∀ previous, (previous, first) ∉ performed)
    (isSecond : ∀ previous, (previous, second) ∉ performed) : first = second := by
  have right : Relator.RightUnique fun key previous => (previous, key) ∈ performed :=
    fun target previous other member also => single previous other target member also
  rcases Relation.ReflTransGen.total_of_right_unique right ledFirst ledSecond with between | between
  · exact (LedBack.eq_of_first between isFirst).symm
  · exact LedBack.eq_of_first between isSecond

end LedBack

section Moves

variable (home : Token → Key)

/-- Every token is in one cell and has its home for itself. The moves take each
token that is away from home there, each once. -/
structure MovesHome (cells : Key → Option Token) (moves : List (Key × Key)) : Prop where
  alone : ∀ first second token, cells first = some token → cells second = some token →
    first = second
  homes : ∀ first second token other, cells first = some token → cells second = some other →
    home token = home other → token = other
  asked : ∀ key target, (key, target) ∈ moves ↔
    ∃ token, cells key = some token ∧ home token = target ∧ target ≠ key
  once : moves.Nodup

/-- Where the tokens are after some moves: those of the performed moves at
home, the others where the performed moves have led them. -/
structure Located (start cells : Key → Option Token) (done : List (Key × Key)) : Prop where
  known : ∀ key token, cells key = some token → ∃ first, start first = some token
  alone : ∀ first second token, cells first = some token → cells second = some token →
    first = second
  stays : ∀ first token, start first = some token → home token = first → cells first = some token
  arrived : ∀ first token, start first = some token → (first, home token) ∈ done →
    cells (home token) = some token
  led : ∀ first token, start first = some token → home token ≠ first →
    (first, home token) ∉ done → ∃ key, cells key = some token ∧ LedBack done first key ∧
      ∀ previous, (previous, key) ∉ done

variable {home} {start cells : Key → Option Token} {moves done : List (Key × Key)}

theorem MovesHome.located (task : MovesHome home start moves) : Located home start start [] where
  known := fun key token found => ⟨key, found⟩
  alone := task.alone
  stays := fun first token found _ => found
  arrived := by simp
  led := fun first token found _ _ => ⟨first, found, .refl, by simp⟩

theorem Located.in_place (located : Located home start cells done) {key : Key} {token : Token}
    (found : start key = some token) (away : home token ≠ key)
    (notDone : (key, home token) ∉ done) (inTime : ∀ previous, (previous, key) ∉ done) :
    cells key = some token := by
  obtain ⟨place, here, led, _⟩ := located.led key token found away notDone
  rw [led.eq_of_first inTime] at here
  exact here

variable [DecidableEq Key]

theorem Located.exchanges (located : Located home start cells done)
    (task : MovesHome home start moves) {key : Key} {token : Token}
    (found : start key = some token) (away : home token ≠ key) (here : cells key = some token) :
    exchange home cells (key, home token) = swapCells cells key (home token) := by
  refine if_neg ?_
  rintro (⟨other, there, atHome⟩ | ⟨other, there, atHome⟩)
  · have there : cells key = some other := there
    rw [here, Option.some.injEq] at there
    rw [← there] at atHome
    exact away atHome
  · obtain ⟨first, started⟩ := located.known _ _ there
    have same := task.homes first key other token started found atHome
    rw [same] at there
    exact away (located.alone _ _ token there here)

/-- A move that is not overtaken brings its token home, and what was there gives
way to it. -/
theorem Located.performs (located : Located home start cells done)
    (task : MovesHome home start moves) {key target : Key} (member : (key, target) ∈ moves)
    (notDone : (key, target) ∉ done)
    (inTime : ∀ previous, (previous, key) ∉ done) :
    Located home start (exchange home cells (key, target)) (done ++ [(key, target)]) := by
  obtain ⟨token, found, rfl, away⟩ := (task.asked key target).mp member
  have here := located.in_place found away notDone inTime
  rw [located.exchanges task found away here]
  have moved : swapCells cells key (home token) (home token) = some token := by
    rw [swapCells, Equiv.swap_apply_right, here]
  have still : ∀ {place : Key}, place ≠ key → place ≠ home token →
      swapCells cells key (home token) place = cells place := by
    intro place notKey notTarget
    rw [swapCells, Equiv.swap_apply_of_ne_of_ne notKey notTarget]
  have others : ∀ {first : Key} {other : Token}, start first = some other → first ≠ key →
      home other ≠ home token := by
    intro first other started different same
    have equal := task.homes first key other token started found same
    rw [equal] at started
    exact different (task.alone first key token started found)
  constructor
  · exact fun place other there => located.known _ other there
  · intro first second other atFirst atSecond
    exact (Equiv.swap key (home token)).injective (located.alone _ _ other atFirst atSecond)
  · intro first other started atHome
    have notKey : first ≠ key := by
      rintro rfl
      rw [found, Option.some.injEq] at started
      rw [started] at away
      exact away atHome
    have notTarget : first ≠ home token := by
      rw [← atHome]
      exact others started notKey
    rw [still notKey notTarget]
    exact located.stays first other started atHome
  · intro first other started done_
    by_cases isKey : first = key
    · rw [isKey, found, Option.some.injEq] at started
      rw [← started]
      exact moved
    · have before : (first, home other) ∈ done := by
        rcases List.mem_append.mp done_ with before | new
        · exact before
        · exact absurd (Prod.ext_iff.mp (List.mem_singleton.mp new)).1 isKey
      have notKey : home other ≠ key := fun same => inTime first (same ▸ before)
      rw [still notKey (others started isKey)]
      exact located.arrived first other started before
  · intro first other started awayOther notMoved
    have isKey : first ≠ key := by
      rintro rfl
      rw [found, Option.some.injEq] at started
      rw [started] at notMoved
      exact notMoved (List.mem_append_right _ (List.mem_singleton.mpr rfl))
    have notBefore : (first, home other) ∉ done := fun before =>
      notMoved (List.mem_append_left _ before)
    obtain ⟨place, there, led, isFirst⟩ := located.led first other started awayOther notBefore
    have later : LedBack (done ++ [(key, home token)]) first place :=
      led.weaken fun move before => List.mem_append_left _ before
    have notPlace : place ≠ key := by
      rintro rfl
      rw [here, Option.some.injEq] at there
      rw [← there] at started
      exact isKey (task.alone first place token started found)
    by_cases givesWay : place = home token
    · refine ⟨key, ?_, ?_, ?_⟩
      · rw [swapCells, Equiv.swap_apply_left, ← givesWay, there]
      · refine later.tail ?_
        rw [givesWay]
        exact List.mem_append_right _ (List.mem_singleton.mpr rfl)
      · intro previous leads
        rcases List.mem_append.mp leads with before | new
        · exact inTime previous before
        · exact away (Prod.ext_iff.mp (List.mem_singleton.mp new)).2.symm
    · refine ⟨place, ?_, later, ?_⟩
      · rw [still notPlace givesWay]
        exact there
      · intro previous leads
        rcases List.mem_append.mp leads with before | new
        · exact isFirst previous before
        · exact givesWay (Prod.ext_iff.mp (List.mem_singleton.mp new)).2

theorem Located.overtaken (located : Located home start cells done)
    (task : MovesHome home start moves) (asked : ∀ move ∈ done, move ∈ moves) {move : Key × Key}
    (late : ∃ previous, (previous, move.1) ∈ done) : exchange home cells move = cells := by
  obtain ⟨previous, leads⟩ := late
  obtain ⟨token, started, atHome, _⟩ := (task.asked _ _).mp (asked _ leads)
  rw [← atHome] at leads
  have arrived := located.arrived previous token started leads
  rw [atHome] at arrived
  exact if_pos (.inl ⟨token, arrived, atHome⟩)

/-- The rest of the moves is tried, `done` were performed. -/
theorem Located.all (task : MovesHome home start moves) {rest : List (Key × Key)}
    (located : Located home start cells done) (asked : ∀ move ∈ done, move ∈ moves)
    (left : ∀ move ∈ rest, move ∈ moves ∧ move ∉ done) (once : rest.Nodup) :
    Located home start (exchangeAll home cells rest) (performAfter done rest) ∧
      ∀ move ∈ performAfter done rest, move ∈ moves := by
  induction rest generalizing cells done with
  | nil => exact ⟨located, asked⟩
  | cons move rest ih =>
      obtain ⟨member, notDone⟩ := left move List.mem_cons_self
      obtain ⟨notLater, onceRest⟩ := List.nodup_cons.mp once
      rw [exchangeAll, List.foldl_cons, performAfter]
      split
      next late =>
        rw [located.overtaken task asked (isOvertaken_iff.mp late)]
        exact ih located asked (fun other later => left other (List.mem_cons_of_mem _ later))
          onceRest
      next inTime =>
        have inTime : ∀ previous, (previous, move.1) ∉ done := fun previous leads =>
          inTime (isOvertaken_iff.mpr ⟨previous, leads⟩)
        refine ih (located.performs task member notDone inTime) ?_ ?_ onceRest
        · intro other performed
          rcases List.mem_append.mp performed with before | new
          · exact asked other before
          · rw [List.mem_singleton.mp new]
            exact member
        · intro other later
          obtain ⟨otherMember, otherNotDone⟩ := left other (List.mem_cons_of_mem _ later)
          refine ⟨otherMember, ?_⟩
          intro performed
          rcases List.mem_append.mp performed with before | new
          · exact otherNotDone before
          · rw [List.mem_singleton.mp new] at later
            exact notLater later

/-- Every token ends at home if and only if the performed moves lead back from
the cell of every overtaken one to its target. -/
theorem all_home_iff (task : MovesHome home start moves) :
    (∀ key token, exchangeAll home start moves key = some token → home token = key) ↔
      ∀ key target, (key, target) ∈ moves → (key, target) ∉ performed moves →
        LedBack (performed moves) key target := by
  obtain ⟨located, asked⟩ := Located.all task task.located (by simp)
    (fun move member => ⟨member, List.not_mem_nil⟩) task.once
  have single : ∀ previous other target, (previous, target) ∈ performed moves →
      (other, target) ∈ performed moves → previous = other := by
    intro previous other target leads alsoLeads
    obtain ⟨token, started, atHome, _⟩ := (task.asked _ _).mp (asked _ leads)
    obtain ⟨second, startedSecond, atHomeSecond, _⟩ := (task.asked _ _).mp (asked _ alsoLeads)
    have same := task.homes previous other token second started startedSecond
      (atHome.trans atHomeSecond.symm)
    rw [← same] at startedSecond
    exact task.alone previous other token started startedSecond
  constructor
  · intro home_ key target member notPerformed
    obtain ⟨token, started, rfl, away⟩ := (task.asked key target).mp member
    obtain ⟨place, there, led, _⟩ := located.led key token started away notPerformed
    rw [home_ place token there]
    exact led
  · intro back place token there
    obtain ⟨first, started⟩ := located.known place token there
    by_cases atHome : home token = first
    · rw [atHome]
      exact located.alone first place token (located.stays first token started atHome) there
    · have member : (first, home token) ∈ moves :=
        (task.asked _ _).mpr ⟨token, started, rfl, atHome⟩
      by_cases arrived : (first, home token) ∈ performed moves
      · exact located.alone _ _ token (located.arrived first token started arrived) there
      · obtain ⟨key, here, led, isFirst⟩ := located.led first token started atHome arrived
        have same := located.alone key place token here there
        rw [← same]
        refine LedBack.unique single (back first _ member arrived) led ?_ isFirst
        intro previous leads
        obtain ⟨second, startedSecond, atHomeSecond, _⟩ := (task.asked _ _).mp (asked _ leads)
        have equal := task.homes previous first second token startedSecond started atHomeSecond
        rw [equal] at startedSecond
        rw [task.alone previous first token startedSecond started] at leads
        exact arrived leads

end Moves

end CpsKitchen.Exchange
