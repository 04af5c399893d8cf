import CpsKitchen.Reactive.Machine
import Mathlib.Data.Finset.Dedup
import Mathlib.Data.Finset.Basic

/-!
# Visits in any order

A loop over an unordered container visits its items one after the other in an
order that nobody knows. When the visits of any two items that are left can
change places, the order makes no difference to the whole loop.
-/

namespace CpsKitchen.Reactive

set_option autoImplicit false

variable {State Item : Type*}

/-- A visit that does not return is `none`. -/
def visitAll (visit : State → Item → Option State) : State → List Item → Option State
  | state, [] => some state
  | state, item :: rest => (visit state item).bind fun after => visitAll visit after rest

/-- An order in which a loop visits a set of items. -/
def Enumerates [DecidableEq Item] (order : List Item) (items : Finset Item) : Prop :=
  order.Nodup ∧ order.toFinset = items

/-- At every point of a loop over the items left, in whatever order it visits
them, a fact holds of the item that is next. -/
def Throughout (visit : State → Item → Option State) (fact : State → Item → Prop)
    (left : Finset Item) (state : State) : Prop :=
  ∀ visited item after, (visited ++ [item]).Nodup → (∀ other ∈ visited ++ [item], other ∈ left) →
    visitAll visit state visited = some after → fact after item

/-- What is good while some items are left survives the visit of one of them,
and the visits of two of them change places. -/
structure Unordered [DecidableEq Item] (visit : State → Item → Option State)
    (good : Finset Item → State → Prop) : Prop where
  returns : ∀ left state item, good left state → item ∈ left →
    ∃ after, visit state item = some after ∧ good (left.erase item) after
  commutes : ∀ left state first second, good left state → first ∈ left → second ∈ left →
    first ≠ second →
      ((visit state first).bind fun after => visit after second) =
        (visit state second).bind fun after => visit after first

section Throughout

variable {visit : State → Item → Option State} {fact : State → Item → Prop}
  {left : Finset Item} {state after : State} {item : Item}

theorem Throughout.now (throughout : Throughout visit fact left state) (listed : item ∈ left) :
    fact state item := by
  apply throughout [] item state
  · exact List.nodup_singleton item
  · intro other among
    rwa [List.mem_singleton.mp among]
  · rfl

theorem Throughout.later [DecidableEq Item] (throughout : Throughout visit fact left state)
    (listed : item ∈ left)
    (returned : visit state item = some after) :
    Throughout visit fact (left.erase item) after := by
  intro visited next last nodup among followed
  apply throughout (item :: visited) next last
  · rw [List.cons_append, List.nodup_cons]
    refine ⟨?_, nodup⟩
    intro again
    exact Finset.notMem_erase item left (among item again)
  · intro other visits
    cases List.mem_cons.mp visits with
    | inl same => rwa [same]
    | inr later => exact Finset.mem_of_mem_erase (among other later)
  · rw [visitAll, returned, Option.bind_some, followed]

theorem throughout_of_invariant (kept : State → Prop)
    (preserved : ∀ state item after, item ∈ left → kept state →
      visit state item = some after → kept after)
    (enough : ∀ state item, item ∈ left → kept state → fact state item)
    (initially : kept state) : Throughout visit fact left state := by
  intro visited next last nodup among followed
  clear nodup
  induction visited generalizing state with
  | nil =>
      cases followed
      exact enough _ next (among next (by simp)) initially
  | cons item rest ih =>
      obtain ⟨middle, returned, followed⟩ := Option.bind_eq_some_iff.mp followed
      have listed : item ∈ left := among item (by simp)
      apply ih (preserved _ _ _ listed initially returned) _ followed
      intro other visits
      exact among other (List.mem_cons_of_mem item visits)

end Throughout

namespace Unordered

variable [DecidableEq Item] {visit : State → Item → Option State}
  {good : Finset Item → State → Prop}

theorem visits_first (unordered : Unordered visit good) {state : State} {item : Item}
    {rest : List Item} (fresh : item ∉ rest) (holds : good (item :: rest).toFinset state) :
    ∃ after, visit state item = some after ∧ good rest.toFinset after := by
  rw [List.toFinset_cons] at holds
  obtain ⟨after, visited, kept⟩ :=
    unordered.returns _ state item holds (Finset.mem_insert_self item _)
  rw [Finset.erase_insert (by rwa [List.mem_toFinset])] at kept
  exact ⟨after, visited, kept⟩

theorem returns_all (unordered : Unordered visit good) {state : State} {items : List Item}
    (nodup : items.Nodup) (holds : good items.toFinset state) :
    ∃ last, visitAll visit state items = some last := by
  induction items generalizing state with
  | nil => exact ⟨state, rfl⟩
  | cons item rest ih =>
      obtain ⟨fresh, nodup⟩ := List.nodup_cons.mp nodup
      obtain ⟨after, visited, kept⟩ := unordered.visits_first fresh holds
      obtain ⟨last, returned⟩ := ih nodup kept
      refine ⟨last, ?_⟩
      rw [visitAll, visited, Option.bind_some, returned]

theorem perm (unordered : Unordered visit good) {first second : List Item}
    (same : first.Perm second) {state : State} (nodup : first.Nodup)
    (holds : good first.toFinset state) :
    visitAll visit state first = visitAll visit state second := by
  induction same generalizing state with
  | nil => rfl
  | cons item _ ih =>
      obtain ⟨fresh, nodup⟩ := List.nodup_cons.mp nodup
      obtain ⟨after, visited, kept⟩ := unordered.visits_first fresh holds
      rw [visitAll, visitAll, visited, Option.bind_some, Option.bind_some]
      exact ih nodup kept
  | swap earlier later rest =>
      obtain ⟨fresh, _⟩ := List.nodup_cons.mp nodup
      have different : later ≠ earlier := fun same => fresh (by rw [same]; exact List.mem_cons_self)
      have swapped := unordered.commutes _ state later earlier holds
        (by simp) (by simp) different
      simp only [visitAll]
      rw [← Option.bind_assoc, swapped, Option.bind_assoc]
  | trans one two ihFirst ihSecond =>
      have middle := List.toFinset_eq_of_perm _ _ one
      rw [ihFirst nodup holds]
      exact ihSecond (one.nodup_iff.mp nodup) (middle ▸ holds)

theorem same_outcome (unordered : Unordered visit good) {state : State} {items : Finset Item}
    (holds : good items state) {first second : List Item} (one : Enumerates first items)
    (two : Enumerates second items) :
    ∃ last, visitAll visit state first = some last ∧ visitAll visit state second = some last := by
  obtain ⟨nodup, rfl⟩ := one
  obtain ⟨nodup', same⟩ := two
  have permuted : first.Perm second := List.perm_of_nodup_nodup_toFinset_eq nodup nodup' same.symm
  obtain ⟨last, returned⟩ := unordered.returns_all nodup holds
  refine ⟨last, returned, ?_⟩
  rw [← unordered.perm permuted nodup holds, returned]

end Unordered

section Runs

variable [DecidableEq Item] {visit : State → Item → Option State} {Whole Event Output : Type*}

/-- A loop whose visits are steps of a machine is a run of that machine. A
visit after which the loop goes on comes after such visits only. -/
theorem run_of_visits (machine : Machine Whole Event Output)
    (embed : Finset Item → State → Whole) (goesOn : State → Prop)
    (steps : ∀ left state item after, item ∈ left → visit state item = some after →
      goesOn after → goesOn state ∧ ∃ event outputs,
        machine.step (embed left state) event = some (embed (left.erase item) after, outputs))
    {state last : State} {items : List Item} (nodup : items.Nodup)
    (returned : visitAll visit state items = some last) (going : goesOn last) :
    goesOn state ∧ ∃ history, (machine.resume (embed items.toFinset state)).Reaches
      (fun _ _ => True) history (embed ∅ last) := by
  induction items generalizing state with
  | nil =>
      cases returned
      exact ⟨going, [], .start rfl⟩
  | cons item rest ih =>
      obtain ⟨fresh, nodup⟩ := List.nodup_cons.mp nodup
      obtain ⟨after, visited, returned⟩ := Option.bind_eq_some_iff.mp returned
      obtain ⟨goesAfter, history, followed⟩ := ih nodup returned
      obtain ⟨goes, event, outputs, taken⟩ :=
        steps (item :: rest).toFinset state item after (by simp) visited goesAfter
      rw [List.toFinset_cons, Finset.erase_insert (by rwa [List.mem_toFinset])] at taken
      have first : (machine.resume (embed (item :: rest).toFinset state)).Reaches
          (fun _ _ => True) [(event, outputs)] (embed rest.toFinset after) := by
        rw [List.toFinset_cons]
        exact .step (.start rfl) trivial taken
      exact ⟨goes, _, first.resumed followed⟩

end Runs

end CpsKitchen.Reactive
