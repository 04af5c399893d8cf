import Mathlib.Data.List.Basic

/-!
# Reactive machines

A reactive machine reacts to one event at a time. The event fixes every
choice its environment makes, so one step is a partial function. `none`
stands for an event that cannot happen in the state or for a crash of the
program: a run goes only through steps that return.
-/

namespace CpsKitchen.Reactive

set_option autoImplicit false

structure Machine (State Event Output : Type*) where
  start : State → Prop
  step : State → Event → Option (State × List Output)

/-- One entry of a history: the event and what the machine put out for it. -/
abbrev History (Event Output : Type*) := List (Event × List Output)

namespace Machine

section Runs

variable {State Event Output : Type*} (machine : Machine State Event Output)

/-- The states a run reaches in which every event was `allowed` in the state
it met, together with the history of that run, oldest entry first. -/
inductive Reaches (allowed : State → Event → Prop) :
    History Event Output → State → Prop where
  | start {state : State} (initial : machine.start state) : Reaches allowed [] state
  | step {history : History Event Output} {before after : State} {event : Event}
      {outputs : List Output} (earlier : Reaches allowed history before)
      (permitted : allowed before event)
      (taken : machine.step before event = some (after, outputs)) :
      Reaches allowed (history ++ [(event, outputs)]) after

variable {machine} {allowed : State → Event → Prop}
  {history : History Event Output} {state : State}

/-- What holds initially and survives every allowed step holds along a run. -/
theorem Reaches.invariant {good : State → Prop}
    (initially : ∀ state, machine.start state → good state)
    (preserved : ∀ before event after outputs, good before → allowed before event →
      machine.step before event = some (after, outputs) → good after)
    (reached : machine.Reaches allowed history state) : good state := by
  induction reached with
  | start initial => exact initially _ initial
  | step _ permitted taken ih => exact preserved _ _ _ _ ih permitted taken

/-- The same rule for a relation between the history and the state. The
preservation step may use that the state before it was reached. -/
theorem Reaches.history_invariant {good : History Event Output → State → Prop}
    (initially : ∀ state, machine.start state → good [] state)
    (preserved : ∀ history before event after outputs,
      machine.Reaches allowed history before → good history before →
      allowed before event → machine.step before event = some (after, outputs) →
      good (history ++ [(event, outputs)]) after)
    (reached : machine.Reaches allowed history state) : good history state := by
  induction reached with
  | start initial => exact initially _ initial
  | step earlier permitted taken ih =>
      exact preserved _ _ _ _ _ earlier ih permitted taken

theorem Reaches.mono {weaker : State → Event → Prop}
    (weaken : ∀ state event, allowed state event → weaker state event)
    (reached : machine.Reaches allowed history state) :
    machine.Reaches weaker history state := by
  induction reached with
  | start initial => exact .start initial
  | step _ permitted taken ih => exact .step ih (weaken _ _ permitted) taken

/-- The machine that goes on from a state. Its runs are what can follow there. -/
def resume (machine : Machine State Event Output) (state : State) :
    Machine State Event Output :=
  { machine with start := fun first => first = state }

theorem Reaches.resumed {earlier : History Event Output} {first : State}
    (reached : machine.Reaches allowed earlier first)
    (followed : (machine.resume first).Reaches allowed history state) :
    machine.Reaches allowed (earlier ++ history) state := by
  induction followed with
  | start same =>
      have same : _ = first := same
      rw [same, List.append_nil]
      exact reached
  | step _ permitted taken ih =>
      rw [← List.append_assoc]
      exact .step ih permitted taken

theorem Reaches.of_resume {first : State} (initial : machine.start first)
    (reached : (machine.resume first).Reaches allowed history state) :
    machine.Reaches allowed history state :=
  Reaches.resumed (Reaches.start initial) reached

theorem Reaches.split {earlier later : History Event Output}
    (reached : machine.Reaches allowed (earlier ++ later) state) :
    ∃ middle, machine.Reaches allowed earlier middle ∧
      (machine.resume middle).Reaches allowed later state := by
  generalize whole : earlier ++ later = history at reached
  induction reached generalizing later with
  | start initial =>
      obtain ⟨rfl, rfl⟩ := List.append_eq_nil_iff.mp whole
      exact ⟨_, .start initial, .start rfl⟩
  | @step history before after event outputs run permitted taken ih =>
      rcases List.eq_nil_or_concat later with rfl | ⟨front, last, rfl⟩
      · rw [List.append_nil] at whole
        rw [whole]
        exact ⟨after, run.step permitted taken, .start rfl⟩
      · rw [List.concat_eq_append, ← List.append_assoc] at whole
        obtain ⟨same, entry⟩ := List.append_inj' whole rfl
        obtain ⟨middle, reached, followed⟩ := ih same
        cases entry
        rw [List.concat_eq_append]
        exact ⟨middle, reached, followed.step permitted taken⟩

end Runs

section Observed

variable {State Event Output Record : Type*}

/-- The machine with a record of its run beside the state. No step depends on
the record. -/
def observed (machine : Machine State Event Output) (empty : Record)
    (record : State → Event → Record → Record) : Machine (State × Record) Event Output where
  start state := machine.start state.1 ∧ state.2 = empty
  step state event :=
    (machine.step state.1 event).map fun result =>
      ((result.1, record state.1 event state.2), result.2)

variable {machine : Machine State Event Output} {empty : Record}
  {record : State → Event → Record → Record} {allowed : State → Event → Prop}
  {history : History Event Output}

theorem observed_step {before after : State × Record} {event : Event} {outputs : List Output}
    (taken : (machine.observed empty record).step before event = some (after, outputs)) :
    machine.step before.1 event = some (after.1, outputs) ∧
      after.2 = record before.1 event before.2 := by
  simp only [observed, Option.map_eq_some_iff, Prod.mk.injEq] at taken
  obtain ⟨result, taken, rfl, rfl⟩ := taken
  exact ⟨taken, rfl⟩

theorem Reaches.unobserved {permission : State × Record → Event → Prop} {state : State × Record}
    (weaken : ∀ state event, permission state event → allowed state.1 event)
    (reached : (machine.observed empty record).Reaches permission history state) :
    machine.Reaches allowed history state.1 := by
  induction reached with
  | start initial => exact .start initial.1
  | step _ permitted taken ih => exact .step ih (weaken _ _ permitted) (observed_step taken).1

theorem Reaches.observe {state : State} (empty : Record)
    (record : State → Event → Record → Record) (reached : machine.Reaches allowed history state) :
    ∃ kept, (machine.observed empty record).Reaches (fun state => allowed state.1) history
      (state, kept) := by
  induction reached with
  | start initial => exact ⟨empty, .start ⟨initial, rfl⟩⟩
  | @step history before after event outputs _ permitted taken ih =>
      obtain ⟨kept, earlier⟩ := ih
      refine ⟨record before event kept, earlier.step permitted ?_⟩
      simp only [observed, taken, Option.map_some]

end Observed

section Replay

variable {State Event Output : Type*} (machine : Machine State Event Output)
  (allowed : State → Event → Prop) [∀ state event, Decidable (allowed state event)]

/-- Runs a list of events, as long as each is allowed and returns. -/
def replay (history : History Event Output) (state : State) :
    List Event → Option (History Event Output × State)
  | [] => some (history, state)
  | event :: events =>
      if allowed state event then
        match machine.step state event with
        | none => none
        | some (after, outputs) => replay (history ++ [(event, outputs)]) after events
      else none

variable {machine allowed}

theorem replay_cons {history : History Event Output} {state after : State} {event : Event}
    {outputs : List Output} (permitted : allowed state event)
    (taken : machine.step state event = some (after, outputs)) (events : List Event) :
    machine.replay allowed history state (event :: events) =
      machine.replay allowed (history ++ [(event, outputs)]) after events := by
  rw [Machine.replay, if_pos permitted, taken]

theorem replay_after {state last : State} {events : List Event}
    {ran : History Event Output} (replayed : machine.replay allowed [] state events =
      some (ran, last)) (history : History Event Output) :
    machine.replay allowed history state events = some (history ++ ran, last) := by
  have shifted : ∀ earlier, machine.replay allowed (history ++ earlier) state events =
      (machine.replay allowed earlier state events).map fun result =>
        (history ++ result.1, result.2) := by
    clear replayed
    induction events generalizing state with
    | nil => exact fun earlier => rfl
    | cons event events ih =>
        intro earlier
        rw [Machine.replay, Machine.replay]
        split
        · cases machine.step state event with
          | none => rfl
          | some result =>
              simp only
              rw [List.append_assoc, ih]
        · rfl
  have here := shifted []
  rw [List.append_nil, replayed] at here
  exact here

theorem Reaches.replay {history final : History Event Output} {state last : State}
    (reached : machine.Reaches allowed history state) (events : List Event)
    (replayed : machine.replay allowed history state events = some (final, last)) :
    machine.Reaches allowed final last := by
  induction events generalizing history state with
  | nil =>
      simp only [Machine.replay, Option.some.injEq, Prod.mk.injEq] at replayed
      obtain ⟨rfl, rfl⟩ := replayed
      exact reached
  | cons event events ih =>
      rw [Machine.replay] at replayed
      split at replayed
      next permitted =>
        split at replayed
        · contradiction
        next after outputs taken =>
          exact ih (.step reached permitted taken) replayed
      · contradiction

/-- Executable evidence that a run reaches a state with a property: the
replay of its events ends in one. -/
theorem exists_reaches_of_replay (machine : Machine State Event Output)
    (allowed : State → Event → Prop) [∀ state event, Decidable (allowed state event)]
    {state : State} (initial : machine.start state)
    (events : List Event) (goal : History Event Output → State → Bool)
    (replayed : (machine.replay allowed [] state events).any
      (fun result => goal result.1 result.2) = true) :
    ∃ history last, machine.Reaches allowed history last ∧ goal history last = true := by
  cases run : machine.replay allowed [] state events with
  | none => simp [run] at replayed
  | some result =>
      obtain ⟨history, last⟩ := result
      refine ⟨history, last, (Reaches.start initial).replay events run, ?_⟩
      simpa [run] using replayed

theorem exists_step_of_replay (machine : Machine State Event Output)
    (allowed : State → Event → Prop) [∀ state event, Decidable (allowed state event)]
    {state : State} (initial : machine.start state) (events : List Event) (event : Event)
    (goal : History Event Output → State → State → List Output → Bool)
    (replayed : (machine.replay allowed [] state events).any (fun result =>
      (machine.step result.2 event).any fun taken =>
        goal result.1 result.2 taken.1 taken.2) = true) :
    ∃ history before after outputs, machine.Reaches allowed history before ∧
      machine.step before event = some (after, outputs) ∧
        goal history before after outputs = true := by
  obtain ⟨history, before, reached, takes⟩ := exists_reaches_of_replay machine allowed initial
    events (fun history before => (machine.step before event).any fun taken =>
      goal history before taken.1 taken.2) replayed
  obtain ⟨⟨after, outputs⟩, taken, shown⟩ := Option.any_eq_true _ _ |>.mp takes
  exact ⟨history, before, after, outputs, reached, taken, shown⟩

end Replay

end Machine

end CpsKitchen.Reactive
