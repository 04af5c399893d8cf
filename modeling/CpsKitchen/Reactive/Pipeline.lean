import CpsKitchen.Reactive.Machine
import Mathlib.Algebra.BigOperators.Group.List.Basic
import Mathlib.Algebra.GroupWithZero.Nat

/-!
# Conservation along runs

Items enter a machine with some outputs and leave it with others. If every
step keeps the books, then what entered in a run is what left and what is
still inside: in order for a first-in first-out machine, in number otherwise.
-/

namespace CpsKitchen.Reactive

set_option autoImplicit false

variable {State Event Output Item : Type*}

def outputsOf (history : History Event Output) : List Output := history.flatMap Prod.snd

@[simp] theorem outputsOf_nil : outputsOf ([] : History Event Output) = [] := rfl

@[simp] theorem outputsOf_append (first second : History Event Output) :
    outputsOf (first ++ second) = outputsOf first ++ outputsOf second := by
  simp [outputsOf]

@[simp] theorem outputsOf_singleton (event : Event) (outputs : List Output) :
    outputsOf [(event, outputs)] = outputs := by
  simp [outputsOf]

namespace Machine

variable {machine : Machine State Event Output} {allowed : State → Event → Prop}
  {history : History Event Output} {state : State}

/-- First in, first out: what entered is what left followed by what is inside. -/
theorem Reaches.fifo (entered left : Output → Option Item) (inside : State → List Item)
    (empty : ∀ state, machine.start state → inside state = [])
    (books : ∀ history before event after outputs,
      machine.Reaches allowed history before → allowed before event →
      machine.step before event = some (after, outputs) →
      inside before ++ outputs.filterMap entered = outputs.filterMap left ++ inside after)
    (reached : machine.Reaches allowed history state) :
    (outputsOf history).filterMap entered =
      (outputsOf history).filterMap left ++ inside state := by
  induction reached with
  | start initial => simp [empty _ initial]
  | @step history before after event outputs earlier permitted taken ih =>
      have balance := books history before event after outputs earlier permitted taken
      simp only [outputsOf_append, outputsOf_singleton, List.filterMap_append]
      rw [ih, List.append_assoc, balance, List.append_assoc]

theorem Reaches.conserved (entered left : Output → Nat) (inside : State → Nat)
    (empty : ∀ state, machine.start state → inside state = 0)
    (books : ∀ history before event after outputs,
      machine.Reaches allowed history before → allowed before event →
      machine.step before event = some (after, outputs) →
      inside before + (outputs.map entered).sum = (outputs.map left).sum + inside after)
    (reached : machine.Reaches allowed history state) :
    ((outputsOf history).map entered).sum =
      ((outputsOf history).map left).sum + inside state := by
  induction reached with
  | start initial => simp [empty _ initial]
  | @step history before after event outputs earlier permitted taken ih =>
      have balance := books history before event after outputs earlier permitted taken
      simp only [outputsOf_append, outputsOf_singleton, List.map_append, List.sum_append]
      omega

end Machine

end CpsKitchen.Reactive
