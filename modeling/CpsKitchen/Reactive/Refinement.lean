import CpsKitchen.Reactive.Ledger

/-!
# Refinement

A machine refines an abstract one when what its outputs show in a run are the
events of a run of the abstract machine. A forward simulation proves it, one
step at a time. A common shape of the relation is that items stand in stations
and the abstract state knows the station of every item.
-/

namespace CpsKitchen.Reactive

set_option autoImplicit false

def eventsOf {Event Output : Type*} (history : History Event Output) : List Event :=
  history.map Prod.fst

namespace Machine

variable {State Event Output Abstract Mark Remark : Type*}

section Simulation

variable {machine : Machine State Event Output} {allowed : State → Event → Prop}
  {abstract : Machine Abstract Mark Remark} {view : Output → Option Mark}

/-- What the outputs of a run show is a run of the abstract machine. -/
def Refines (machine : Machine State Event Output) (allowed : State → Event → Prop)
    (abstract : Machine Abstract Mark Remark) (view : Output → Option Mark) : Prop :=
  ∀ history state, machine.Reaches allowed history state →
    ∃ shown book, abstract.Reaches (fun _ _ => True) shown book ∧
      eventsOf shown = (outputsOf history).filterMap view

/-- A relation between the two states that every step keeps, while the abstract
machine follows what the step shows. -/
theorem Reaches.simulated {related : State → Abstract → Prop} {history : History Event Output}
    {state : State}
    (initially : ∀ state, machine.start state → ∃ book, abstract.start book ∧ related state book)
    (preserved : ∀ history before event after outputs shown book,
      machine.Reaches allowed history before → allowed before event →
      machine.step before event = some (after, outputs) →
      abstract.Reaches (fun _ _ => True) shown book →
      eventsOf shown = (outputsOf history).filterMap view → related before book →
      ∃ more next, (abstract.resume book).Reaches (fun _ _ => True) more next ∧
        eventsOf more = outputs.filterMap view ∧ related after next)
    (reached : machine.Reaches allowed history state) :
    ∃ shown book, abstract.Reaches (fun _ _ => True) shown book ∧
      eventsOf shown = (outputsOf history).filterMap view ∧ related state book := by
  induction reached with
  | start initial =>
      obtain ⟨book, opened, relates⟩ := initially _ initial
      exact ⟨[], book, .start opened, rfl, relates⟩
  | @step history before after event outputs earlier permitted taken ih =>
      obtain ⟨shown, book, ran, same, relates⟩ := ih
      obtain ⟨more, next, followed, told, relates⟩ :=
        preserved history before event after outputs shown book earlier permitted taken ran same
          relates
      refine ⟨shown ++ more, next, ran.resumed followed, ?_, relates⟩
      rw [eventsOf, List.map_append, outputsOf_append, outputsOf_singleton,
        List.filterMap_append, ← same, ← told]
      rfl

end Simulation

end Machine

section Amounts

variable {Output Mark Holding : Type*} [AddCommMonoid Holding]

theorem amount_filterMap (worth : Mark → Holding) (view : Output → Option Mark)
    (outputs : List Output) :
    amount worth (outputs.filterMap view) =
      amount (fun output => (view output).elim 0 worth) outputs := by
  induction outputs with
  | nil => rfl
  | cons output outputs ih =>
      rw [List.filterMap_cons, amount_cons, ← ih]
      cases shown : view output with
      | none => exact (zero_add _).symm
      | some mark => exact amount_cons worth mark _

end Amounts

section Stations

variable {Station Item : Type*}

/-- Every item in a station is recorded there, and is there once. Items that
got lost may be recorded anywhere. -/
def Recorded (held : Station → Multiset Item) (station : Item → Option Station) : Prop :=
  ∀ place, (held place).Nodup ∧ ∀ item ∈ held place, station item = some place

variable [DecidableEq Station] {held after : Station → Multiset Item}
  {station next : Item → Option Station} {item : Item}

omit [DecidableEq Station] in
theorem Recorded.kept (recorded : Recorded held station)
    (fewer : ∀ place, after place ≤ held place) : Recorded after station := by
  intro place
  obtain ⟨distinct, here⟩ := recorded place
  exact ⟨Multiset.nodup_of_le (fewer place) distinct,
    fun item member => here item (Multiset.mem_of_le (fewer place) member)⟩

theorem Recorded.enters (recorded : Recorded held station) {goal : Station}
    (unknown : item ∉ held goal) (there : station item = some goal)
    (flow : ∀ place, after place ≤ held place + if place = goal then {item} else 0) :
    Recorded after station := by
  intro place
  obtain ⟨distinct, here⟩ := recorded place
  have more := flow place
  by_cases same : place = goal
  · subst same
    rw [if_pos rfl] at more
    constructor
    · apply Multiset.nodup_of_le more
      exact Multiset.nodup_add.mpr
        ⟨distinct, Multiset.nodup_singleton item, Multiset.disjoint_singleton.mpr unknown⟩
    · intro other member
      rcases Multiset.mem_add.mp (Multiset.mem_of_le more member) with before | new
      · exact here other before
      · rw [Multiset.mem_singleton.mp new]
        exact there
  · rw [if_neg same, add_zero] at more
    exact ⟨Multiset.nodup_of_le more distinct,
      fun other member => here other (Multiset.mem_of_le more member)⟩

theorem Recorded.moves [DecidableEq Item] (recorded : Recorded held station) {source : Station}
    {goal : Option Station} (apart : goal ≠ some source) (there : next item = goal)
    (others : ∀ other, other ≠ item → next other = station other)
    (flow : ∀ place, after place + (if place = source then {item} else 0) ≤
      held place + if some place = goal then {item} else 0) : Recorded after next := by
  have leaves := flow source
  rw [if_pos rfl, if_neg apart.symm, add_zero] at leaves
  have present : item ∈ held source :=
    Multiset.mem_of_le leaves (Multiset.mem_add.mpr (.inr (Multiset.mem_singleton_self item)))
  have stood : station item = some source := (recorded source).2 item present
  intro place
  obtain ⟨distinct, here⟩ := recorded place
  have more := flow place
  by_cases arrives : some place = goal
  · have elsewhere : place ≠ source := by
      rintro rfl
      exact apart arrives.symm
    have absent : item ∉ held place := by
      intro member
      have twice := here item member
      rw [stood] at twice
      exact elsewhere (Option.some.inj twice).symm
    rw [if_pos arrives, if_neg elsewhere, add_zero] at more
    constructor
    · apply Multiset.nodup_of_le more
      exact Multiset.nodup_add.mpr
        ⟨distinct, Multiset.nodup_singleton item, Multiset.disjoint_singleton.mpr absent⟩
    · intro other member
      rcases Multiset.mem_add.mp (Multiset.mem_of_le more member) with before | new
      · rw [others other (fun same => absent (same ▸ before))]
        exact here other before
      · rw [Multiset.mem_singleton.mp new, there, arrives]
  · rw [if_neg arrives, add_zero] at more
    have fewer : after place ≤ held place := le_self_add.trans more
    refine ⟨Multiset.nodup_of_le fewer distinct, ?_⟩
    intro other member
    have before := Multiset.mem_of_le fewer member
    rw [others other, here other before]
    rintro rfl
    have twice := here other before
    rw [stood] at twice
    cases twice
    -- the item would still be there, and it was there once
    rw [if_pos rfl] at more
    have counts := Multiset.nodup_of_le more distinct
    exact Multiset.disjoint_singleton.mp (Multiset.nodup_add.mp counts).2.2 member

end Stations

end CpsKitchen.Reactive
