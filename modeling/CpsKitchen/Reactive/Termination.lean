import CpsKitchen.Reactive.Machine

/-!
# Coming to rest

A weight that every allowed step makes smaller bounds the runs of a machine.
So a run that goes on as long as it can ends, and what holds where nothing
more is possible holds there.
-/

namespace CpsKitchen.Reactive.Machine

set_option autoImplicit false

variable {State Event Output : Type*} {machine : Machine State Event Output}
  {allowed : State → Event → Prop}

def Stuck (machine : Machine State Event Output) (allowed : State → Event → Prop)
    (state : State) : Prop :=
  ∀ event, allowed state event → machine.step state event = none

/-- The allowed steps keep what is good and make the weight smaller. -/
def Descends (machine : Machine State Event Output) (allowed : State → Event → Prop)
    (good : State → Prop) (weight : State → Nat) : Prop :=
  ∀ before event after outputs, good before → allowed before event →
    machine.step before event = some (after, outputs) → good after ∧ weight after < weight before

variable {good : State → Prop} {weight : State → Nat} {first last : State}
  {history : History Event Output}

theorem Descends.good_and_length (descends : machine.Descends allowed good weight)
    (initially : good first) (reached : (machine.resume first).Reaches allowed history last) :
    good last ∧ history.length + weight last ≤ weight first := by
  induction reached with
  | start initial =>
      cases initial
      exact ⟨initially, by simp⟩
  | step earlier permitted taken ih =>
      obtain ⟨holds, bound⟩ := ih
      obtain ⟨kept, smaller⟩ := descends _ _ _ _ holds permitted taken
      refine ⟨kept, ?_⟩
      rw [List.length_append, List.length_singleton]
      omega

theorem exists_step_of_not_stuck (goes : ¬ machine.Stuck allowed first) :
    ∃ event after outputs, allowed first event ∧
      machine.step first event = some (after, outputs) := by
  unfold Stuck at goes
  push Not at goes
  obtain ⟨event, permitted, returns⟩ := goes
  obtain ⟨⟨after, outputs⟩, taken⟩ := Option.ne_none_iff_exists'.mp returns
  exact ⟨event, after, outputs, permitted, taken⟩

theorem Descends.exists_stuck (descends : machine.Descends allowed good weight)
    (initially : good first) :
    ∃ history last, (machine.resume first).Reaches allowed history last ∧
      machine.Stuck allowed last := by
  induction bound : weight first using Nat.strongRecOn generalizing first with
  | ind total ih =>
      by_cases stuck : machine.Stuck allowed first
      · exact ⟨[], first, .start rfl, stuck⟩
      · obtain ⟨event, after, outputs, permitted, taken⟩ := exists_step_of_not_stuck stuck
        obtain ⟨kept, smaller⟩ := descends _ _ _ _ initially permitted taken
        obtain ⟨history, last, followed, ends⟩ := ih _ (bound ▸ smaller) kept rfl
        have one : (machine.resume first).Reaches allowed ([] ++ [(event, outputs)]) after :=
          .step (.start rfl) permitted taken
        exact ⟨_, last, one.resumed followed, ends⟩

/-- Where a good state can always go on towards a final one, with a smaller
weight, a run of no more events than its weight ends in a final one. -/
theorem exists_final {final : State → Prop}
    (goesOn : ∀ state, good state → ∃ event after outputs, allowed state event ∧
      machine.step state event = some (after, outputs) ∧ (good after ∨ final after) ∧
        weight after < weight state) (initially : good first) :
    ∃ history last, (machine.resume first).Reaches allowed history last ∧ final last ∧
      history.length ≤ weight first := by
  induction bound : weight first using Nat.strongRecOn generalizing first with
  | ind total ih =>
      obtain ⟨event, after, outputs, permitted, taken, goal, smaller⟩ := goesOn first initially
      have one : (machine.resume first).Reaches allowed ([] ++ [(event, outputs)]) after :=
        .step (.start rfl) permitted taken
      rcases goal with kept | ended
      · obtain ⟨history, last, followed, ended, short⟩ := ih _ (bound ▸ smaller) kept rfl
        refine ⟨_, last, one.resumed followed, ended, ?_⟩
        rw [List.length_append, List.nil_append, List.length_singleton]
        omega
      · refine ⟨_, after, one, ended, ?_⟩
        rw [List.nil_append, List.length_singleton]
        omega

end CpsKitchen.Reactive.Machine
