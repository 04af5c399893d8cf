import CpsKitchen.Reactive.Pipeline
import Mathlib.Algebra.Order.BigOperators.Group.Finset
import Mathlib.Algebra.Order.Group.Multiset

/-!
# Ledgers

What a machine holds is an element of an ordered commutative monoid: a number,
or a multiset of the things themselves. Outputs bring something in or take
something out. A machine may lose what it holds, but it makes nothing, so what
it holds and what it gave away never exceeds what came in. The holdings of a
family of machines are the sum over its members.
-/

namespace CpsKitchen.Reactive

set_option autoImplicit false

variable {State Event Output Holding : Type*}

def amount [AddCommMonoid Holding] (worth : Output → Holding) (outputs : List Output) : Holding :=
  (outputs.map worth).sum

section Amount

variable [AddCommMonoid Holding] (worth : Output → Holding)

@[simp] theorem amount_nil : amount worth [] = 0 := rfl

@[simp] theorem amount_cons (output : Output) (outputs : List Output) :
    amount worth (output :: outputs) = worth output + amount worth outputs := rfl

@[simp] theorem amount_append (first second : List Output) :
    amount worth (first ++ second) = amount worth first + amount worth second := by
  rw [amount, List.map_append, List.sum_append]
  rfl

theorem amount_map {Inner : Type*} (wrap : Inner → Output) (outputs : List Inner) :
    amount worth (outputs.map wrap) = amount (fun output => worth (wrap output)) outputs := by
  rw [amount, List.map_map]
  rfl

theorem amount_eq_zero {outputs : List Output} (worthless : ∀ output ∈ outputs, worth output = 0) :
    amount worth outputs = 0 := by
  induction outputs with
  | nil => rfl
  | cons output outputs ih =>
      rw [amount_cons, worthless output List.mem_cons_self,
        ih (fun later member => worthless later (List.mem_cons_of_mem _ member)), zero_add]

theorem le_amount [PartialOrder Holding] [CanonicallyOrderedAdd Holding]
    [IsOrderedAddMonoid Holding] {output : Output} {outputs : List Output}
    (member : output ∈ outputs) : worth output ≤ amount worth outputs :=
  List.single_le_sum (fun _ _ => zero_le) _ (List.mem_map_of_mem member)

theorem amount_mono [PartialOrder Holding] [IsOrderedAddMonoid Holding] {more : Output → Holding}
    (worthMore : ∀ output, worth output ≤ more output) (outputs : List Output) :
    amount worth outputs ≤ amount more outputs := by
  induction outputs with
  | nil => exact le_rfl
  | cons output outputs ih => exact add_le_add (worthMore output) ih

end Amount

theorem sum_exchange {Member : Type*} [DecidableEq Member] [AddCommMonoid Holding]
    {members : Finset Member} {before after : Member → Holding} {member : Member}
    (inside : member ∈ members)
    (others : ∀ other ∈ members, other ≠ member → after other = before other) :
    ∑ other ∈ members, after other + before member =
      ∑ other ∈ members, before other + after member := by
  have kept : ∑ other ∈ members.erase member, after other =
      ∑ other ∈ members.erase member, before other := by
    apply Finset.sum_congr rfl
    intro other rest
    exact others other (Finset.mem_of_mem_erase rest) (Finset.ne_of_mem_erase rest)
  rw [← Finset.add_sum_erase members after inside, ← Finset.add_sum_erase members before inside,
    kept, add_right_comm, add_comm (after member)]
  exact add_right_comm _ _ _

section Family

variable {Member : Type*} [Fintype Member] [DecidableEq Member] [AddCommMonoid Holding]

def holdings (worth : State → Holding) (members : Member → State) : Holding :=
  ∑ member, worth (members member)

theorem holdings_split (worth : State → Holding) (members : Member → State) (member : Member) :
    holdings worth members =
      worth (members member) + ∑ other ∈ Finset.univ.erase member, worth (members other) :=
  (Finset.add_sum_erase Finset.univ (fun other => worth (members other))
    (Finset.mem_univ member)).symm

theorem holdings_update (worth : State → Holding) (members : Member → State) (member : Member)
    (state : State) :
    holdings worth (Function.update members member state) =
      worth state + ∑ other ∈ Finset.univ.erase member, worth (members other) := by
  rw [holdings_split worth _ member, Function.update_self]
  congr 1
  apply Finset.sum_congr rfl
  intro other inside
  rw [Function.update_of_ne (Finset.ne_of_mem_erase inside)]

theorem holdings_step [PartialOrder Holding] [IsOrderedAddMonoid Holding]
    {worth : State → Holding} {members : Member → State} {member : Member} {state : State}
    {gone come : Holding} (step : worth state + gone ≤ worth (members member) + come) :
    holdings worth (Function.update members member state) + gone ≤
      holdings worth members + come := by
  rw [holdings_update, holdings_split worth members member, add_right_comm,
    add_right_comm (worth (members member))]
  exact add_le_add step le_rfl

theorem holdings_exchange {worth : State → Holding} {members : Member → State} {member : Member}
    {state : State} {gone come : Holding}
    (step : worth state + gone = worth (members member) + come) :
    holdings worth (Function.update members member state) + gone =
      holdings worth members + come := by
  rw [holdings_update, holdings_split worth members member, add_right_comm, step]
  exact add_right_comm _ _ _

end Family

end CpsKitchen.Reactive
