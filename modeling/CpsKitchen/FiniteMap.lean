import Mathlib.Data.Finmap

/-!
# Finite maps

Two operations on the finite maps of Mathlib: change the value under one key,
and retain the values with a property.
-/

namespace CpsKitchen.FiniteMap

set_option autoImplicit false

variable {Key Value : Type*} [DecidableEq Key]

def modify (key : Key) (change : Value → Value) (map : Finmap fun _ : Key => Value) :
    Finmap fun _ : Key => Value :=
  match map.lookup key with
  | none => map
  | some value => map.insert key (change value)

theorem lookup_insert_eq (map : Finmap fun _ : Key => Value) (key other : Key) (value : Value) :
    (map.insert key value).lookup other = if other = key then some value else map.lookup other := by
  split
  next same =>
    rw [same]
    exact Finmap.lookup_insert map
  next different => exact Finmap.lookup_insert_of_ne map different

theorem lookup_erase_eq (map : Finmap fun _ : Key => Value) (key other : Key) :
    (map.erase key).lookup other = if other = key then none else map.lookup other := by
  split
  next same =>
    rw [same]
    exact Finmap.lookup_erase key map
  next different => exact Finmap.lookup_erase_ne different

theorem lookup_modify (key : Key) (change : Value → Value) (map : Finmap fun _ : Key => Value)
    (other : Key) :
    (modify key change map).lookup other =
      if other = key then (map.lookup key).map change else map.lookup other := by
  unfold modify
  split
  next none =>
    split
    next same => rw [same, none, Option.map_none]
    · rfl
  next value found => rw [lookup_insert_eq, found, Option.map_some]

@[simp] theorem keys_modify (key : Key) (change : Value → Value)
    (map : Finmap fun _ : Key => Value) : (modify key change map).keys = map.keys := by
  ext other
  rw [Finmap.mem_keys, Finmap.mem_keys, ← Finmap.lookup_isSome, ← Finmap.lookup_isSome,
    lookup_modify]
  split
  next same => rw [same, Option.isSome_map]
  · rfl

theorem keys_insert (key : Key) (value : Value) (map : Finmap fun _ : Key => Value) :
    (map.insert key value).keys = insert key map.keys := by
  ext other
  rw [Finmap.mem_keys, Finset.mem_insert, Finmap.mem_keys]
  exact Finmap.mem_insert

theorem keys_erase (key : Key) (map : Finmap fun _ : Key => Value) :
    (map.erase key).keys = map.keys.erase key := by
  ext other
  rw [Finmap.mem_keys, Finset.mem_erase, Finmap.mem_keys]
  exact Finmap.mem_erase

def retain (keep : Value → Bool) (map : Finmap fun _ : Key => Value) :
    Finmap fun _ : Key => Value :=
  Finmap.keysLookupEquiv.symm
    ⟨(map.keys.filter fun key => (map.lookup key).any keep,
        fun key => (map.lookup key).filter keep), by
      intro key
      cases found : map.lookup key with
      | none => simp [found]
      | some value =>
          have member : key ∈ map.keys := Finmap.mem_keys.mpr (Finmap.mem_of_lookup_eq_some found)
          by_cases kept : keep value
          · simp [found, kept, member, Option.filter]
          · simp [found, kept, Option.filter]⟩

@[simp] theorem lookup_retain (keep : Value → Bool) (map : Finmap fun _ : Key => Value)
    (key : Key) : (retain keep map).lookup key = (map.lookup key).filter keep := by
  rw [retain, Finmap.keysLookupEquiv_symm_apply_lookup]

theorem lookup_retain_eq_some {keep : Value → Bool} {map : Finmap fun _ : Key => Value}
    {key : Key} {value : Value} :
    (retain keep map).lookup key = some value ↔
      map.lookup key = some value ∧ keep value = true := by
  rw [lookup_retain, Option.filter_eq_some_iff]

end CpsKitchen.FiniteMap
