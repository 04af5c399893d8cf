import CpsKitchen.FiniteMap
import Mathlib.Data.Finset.Sort

/-!
# Finite maps with ordered keys

A finite map read from its greatest key down, and the first entry whose value
has a property.
-/

namespace CpsKitchen.FiniteMap

set_option autoImplicit false

variable {Key Value : Type*} [LinearOrder Key]

def descending (map : Finmap fun _ : Key => Value) : List (Key × Value) :=
  (map.keys.sort (· ≥ ·)).filterMap fun key => (map.lookup key).map fun value => (key, value)

def findHighest (property : Value → Bool) (map : Finmap fun _ : Key => Value) :
    Option (Key × Value) :=
  (descending map).find? fun entry => property entry.2

variable {map : Finmap fun _ : Key => Value} {property : Value → Bool} {entry : Key × Value}

theorem mem_descending : entry ∈ descending map ↔ map.lookup entry.1 = some entry.2 := by
  constructor
  · intro member
    obtain ⟨key, _, found⟩ := List.mem_filterMap.mp member
    obtain ⟨value, here, rfl⟩ := Option.map_eq_some_iff.mp found
    exact here
  · intro found
    have member : entry.1 ∈ map.keys := Finmap.mem_keys.mpr (Finmap.mem_of_lookup_eq_some found)
    refine List.mem_filterMap.mpr ⟨entry.1, (Finset.mem_sort _).mpr member, ?_⟩
    rw [found]
    rfl

theorem descending_pairwise (map : Finmap fun _ : Key => Value) :
    (descending map).Pairwise fun first second => second.1 < first.1 := by
  have sorted : (map.keys.sort (· ≥ ·)).Pairwise (· > ·) :=
    (Finset.sortedGT_sort map.keys).pairwise
  refine sorted.filterMap _ ?_
  intro first second above entry found other foundOther
  obtain ⟨_, _, rfl⟩ := Option.map_eq_some_iff.mp found
  obtain ⟨_, _, rfl⟩ := Option.map_eq_some_iff.mp foundOther
  exact above

/-- No entry with the property has a greater key. -/
structure IsHighest (property : Value → Bool) (map : Finmap fun _ : Key => Value)
    (entry : Key × Value) : Prop where
  found : map.lookup entry.1 = some entry.2
  holds : property entry.2 = true
  highest : ∀ key value, map.lookup key = some value → property value = true → key ≤ entry.1

theorem IsHighest.unique {other : Key × Value} (highest : IsHighest property map entry)
    (otherHighest : IsHighest property map other) : entry = other := by
  have same : entry.1 = other.1 :=
    le_antisymm (otherHighest.highest _ _ highest.found highest.holds)
      (highest.highest _ _ otherHighest.found otherHighest.holds)
  have found := highest.found
  rw [same, otherHighest.found] at found
  exact Prod.ext same (Option.some.inj found).symm

theorem findHighest_eq_some_iff :
    findHighest property map = some entry ↔ IsHighest property map entry := by
  have sound : ∀ entry, findHighest property map = some entry →
      IsHighest property map entry := by
    intro entry first
    obtain ⟨holds, before, after, split, passed⟩ := List.find?_eq_some_iff_append.mp first
    refine ⟨mem_descending.mp (List.mem_of_find?_eq_some first), holds, ?_⟩
    intro key value found has
    have ordered := descending_pairwise map
    have member : (key, value) ∈ descending map := mem_descending.mpr found
    rw [split] at ordered member
    obtain ⟨_, rest, _⟩ := List.pairwise_append.mp ordered
    rcases List.mem_append.mp member with earlier | later
    · have none := passed _ earlier
      simp [has] at none
    · rcases List.mem_cons.mp later with same | behind
      · rw [← same]
      · exact ((List.pairwise_cons.mp rest).1 _ behind).le
  refine ⟨sound entry, ?_⟩
  intro highest
  cases first : findHighest property map with
  | none =>
      have none := List.find?_eq_none.mp first entry (mem_descending.mpr highest.found)
      exact absurd highest.holds none
  | some other => rw [(sound other first).unique highest]

theorem findHighest_eq_none_iff :
    findHighest property map = none ↔
      ∀ key value, map.lookup key = some value → property value = false := by
  rw [findHighest, List.find?_eq_none]
  constructor
  · intro none key value found
    exact Bool.eq_false_iff.mpr (none (key, value) (mem_descending.mpr found))
  · intro none entry member
    rw [none entry.1 entry.2 (mem_descending.mp member)]
    exact Bool.false_ne_true

end CpsKitchen.FiniteMap
