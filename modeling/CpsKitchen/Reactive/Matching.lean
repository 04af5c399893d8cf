import Mathlib.Data.List.Infix

/-!
# Matching by order

Requests wait in one queue, answers to them travel in another and nothing in
an answer says which request it is for. The two can only be matched by their
order, and that works as long as the queues agree as far as both reach.
-/

namespace CpsKitchen.Reactive

set_option autoImplicit false

variable {Item : Type*} {waiting coming : List Item} {item : Item}

/-- Item by item the same, until the shorter one ends. -/
def Agree (waiting coming : List Item) : Prop := waiting <+: coming ∨ coming <+: waiting

theorem Agree.nil (coming : List Item) : Agree [] coming := .inl (List.nil_prefix)

theorem Agree.front {first second : Item} (agree : Agree (first :: waiting) (second :: coming)) :
    first = second ∧ Agree waiting coming := by
  rcases agree with shorter | longer
  · obtain ⟨same, rest⟩ := List.cons_prefix_cons.mp shorter
    exact ⟨same, .inl rest⟩
  · obtain ⟨same, rest⟩ := List.cons_prefix_cons.mp longer
    exact ⟨same.symm, .inr rest⟩

theorem Agree.push (agree : Agree waiting coming) (item : Item)
    (place : coming.length = waiting.length ∨ coming[waiting.length]? = some item) :
    Agree (waiting ++ [item]) (coming ++ [item]) := by
  rcases place with even | there
  · have same : waiting = coming := by
      rcases agree with shorter | longer
      · exact shorter.eq_of_length even.symm
      · exact (longer.eq_of_length even).symm
    rw [same]
    exact .inl (List.prefix_refl _)
  · have more : waiting.length < coming.length := (List.getElem?_eq_some_iff.mp there).1
    have before : waiting <+: coming := by
      rcases agree with shorter | longer
      · exact shorter
      · have bound := longer.length_le
        omega
    obtain ⟨rest, rfl⟩ := before
    cases rest with
    | nil => simp at more
    | cons next rest =>
        have same : next = item := by simpa using there
        refine .inl ⟨rest ++ [item], ?_⟩
        simp [same]

theorem Agree.push_coming (agree : Agree waiting coming) (item : Item)
    (behind : waiting.length ≤ coming.length) : Agree waiting (coming ++ [item]) := by
  have before : waiting <+: coming := by
    rcases agree with shorter | longer
    · exact shorter
    · rw [longer.eq_of_length (by have bound := longer.length_le; omega)]
  exact .inl (before.trans (List.prefix_append coming [item]))

theorem Agree.cut {rest : List Item} (agree : Agree waiting (coming ++ rest)) :
    Agree waiting coming := by
  rcases agree with shorter | longer
  · exact List.prefix_or_prefix_of_prefix shorter (List.prefix_append coming rest)
  · exact .inr ((List.prefix_append coming rest).trans longer)

theorem Agree.drop {rest : List Item} (agree : Agree waiting (coming ++ item :: rest))
    (behind : waiting.length ≤ coming.length) : Agree waiting (coming ++ rest) := by
  have before : waiting <+: coming ++ item :: rest := by
    rcases agree with shorter | longer
    · exact shorter
    · have bound := longer.length_le
      simp only [List.length_append, List.length_cons] at bound
      omega
  have short : waiting <+: coming :=
    List.prefix_of_prefix_length_le before (List.prefix_append coming _) behind
  exact .inl (short.trans (List.prefix_append coming rest))

end CpsKitchen.Reactive
