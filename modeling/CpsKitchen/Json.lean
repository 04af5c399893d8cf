import Mathlib.Algebra.Group.Int.Defs
import Mathlib.Algebra.Group.Nat.Defs
import Mathlib.Data.List.Basic

/-!
# JSON values

A JSON document as a program reads it: members by their key, elements in their
order, and conversions that throw when the value has another type. `none` is
the exception. Numbers are integers here. An object has each of its keys once.
-/

namespace CpsKitchen.Json

set_option autoImplicit false

inductive Value
  | null
  | boolean (value : Bool)
  | number (value : Int)
  | string (value : String)
  | array (elements : List Value)
  | object (members : List (String × Value))

namespace Value

def find : Value → String → Option Value
  | object members, key => members.lookup key
  | _, _ => none

/-- Only an object has members, and null is read as an empty one. -/
def isMember : Value → String → Option Bool
  | object members, key => some (members.lookup key).isSome
  | null, _ => some false
  | _, _ => none

/-- A member that is not there is null. -/
def get : Value → String → Option Value
  | object members, key => some ((members.lookup key).getD null)
  | null, _ => some null
  | _, _ => none

def elements : Value → List Value
  | array elements => elements
  | object members => members.map Prod.snd
  | _ => []

/-- Elements are counted in unsigned 32-bit words. -/
def size (value : Value) : Nat := value.elements.length % 2 ^ 32

def Counted (value : Value) : Prop := value.elements.length < 2 ^ 32

def asString : Value → Option String
  | null => some ""
  | boolean value => some (if value then "true" else "false")
  | number value => some (toString value)
  | string value => some value
  | array _ | object _ => none

def asUInt : Value → Option Nat
  | null => some 0
  | boolean value => some value.toNat
  | number value => if 0 ≤ value ∧ value < 2 ^ 32 then some value.toNat else none
  | string _ | array _ | object _ => none

def isObject : Value → Bool
  | object _ => true
  | _ => false

def isString : Value → Bool
  | string _ => true
  | _ => false

def isUInt : Value → Bool
  | number value => 0 ≤ value ∧ value < 2 ^ 32
  | _ => false

def memberNames : Value → List String
  | object members => members.map Prod.fst
  | _ => []

theorem exists_of_isObject {value : Value} (typed : value.isObject = true) :
    ∃ members, value = object members := by
  cases value with
  | object members => exact ⟨members, rfl⟩
  | null | boolean | number | string | array => contradiction

theorem exists_of_isString {value : Value} (typed : value.isString = true) :
    ∃ text, value = string text := by
  cases value with
  | string text => exact ⟨text, rfl⟩
  | null | boolean | number | array | object => contradiction

theorem exists_of_isUInt {value : Value} (typed : value.isUInt = true) :
    ∃ read : Nat, read < 2 ^ 32 ∧ value = number read := by
  cases value with
  | number value =>
      obtain ⟨positive, bounded⟩ := of_decide_eq_true typed
      obtain ⟨read, rfl⟩ := Int.eq_ofNat_of_zero_le positive
      exact ⟨read, by omega, rfl⟩
  | null | boolean | string | array | object => contradiction

theorem mem_elements_of_find {value member : Value} {key : String}
    (found : value.find key = some member) : member ∈ value.elements := by
  cases value with
  | object members =>
      obtain ⟨before, after, same, _⟩ := List.lookup_eq_some_iff.mp found
      rw [elements, same]
      simp
  | null | boolean | number | string | array => contradiction

theorem size_counted {value : Value} (counted : value.Counted) :
    value.size = value.elements.length := Nat.mod_eq_of_lt counted

@[simp] theorem find_object (members : List (String × Value)) (key : String) :
    (object members).find key = members.lookup key := rfl

@[simp] theorem isMember_object (members : List (String × Value)) (key : String) :
    (object members).isMember key = some ((object members).find key).isSome := rfl

@[simp] theorem get_object (members : List (String × Value)) (key : String) :
    (object members).get key = some (((object members).find key).getD null) := rfl

theorem asUInt_number {value : Nat} (fits : value < 2 ^ 32) :
    (number value).asUInt = some value := by
  have inside : (0 : Int) ≤ value ∧ (value : Int) < 2 ^ 32 := by omega
  rw [asUInt, if_pos inside, Int.toNat_natCast]

theorem asUInt_lt {value : Value} {read : Nat} (converted : value.asUInt = some read) :
    read < 2 ^ 32 := by
  cases value with
  | null =>
      cases converted
      decide
  | boolean value =>
      cases converted
      cases value <;> decide
  | number value =>
      rw [asUInt] at converted
      split at converted
      · cases converted
        omega
      · contradiction
  | string | array | object => contradiction

theorem exists_find {value : Value} {key : String} (named : key ∈ value.memberNames) :
    ∃ member, value.find key = some member := by
  cases value with
  | object members =>
      obtain ⟨pair, inside, same⟩ := List.mem_map.mp named
      apply Option.isSome_iff_exists.mp
      rw [find_object, List.lookup_isSome_iff]
      exact ⟨pair, inside, by rw [beq_iff_eq, same]⟩
  | null | boolean | number | string | array => contradiction

theorem length_memberNames {value : Value} (typed : value.isObject = true) :
    value.memberNames.length = value.elements.length := by
  obtain ⟨members, rfl⟩ := exists_of_isObject typed
  rw [memberNames, elements, List.length_map, List.length_map]

end Value

end CpsKitchen.Json
