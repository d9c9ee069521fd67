import FoodDispatch.Library.Execution
import Mathlib.Algebra.BigOperators.Group.List.Basic
import Mathlib.Algebra.Order.Monoid.Defs
import Mathlib.Data.Multiset.AddSub
import Mathlib.Tactic.Abel

/-! Accounts kept over an execution: what each transition adds to a quantity, or
takes out of a budget, adds up over the run. -/
namespace FoodDispatch.Library.Execution

section Totals
variable {State Label M : Type} {Step : State → Label → State → Prop} [AddCommMonoid M]
variable {start state : State} {trace : List (Transition State Label)}

theorem total_eq (run : Execution Step start trace state) (amount : State → M)
    (gain : Transition State Label → M) (step : ∀ transition ∈ trace,
      amount transition.after = amount transition.before + gain transition) :
    amount state = amount start + (trace.map gain).sum := by
  induction run with
  | nil => simp
  | @snoc trace state label next run taken ih =>
    have last : amount next = amount state + gain ⟨state,label,next⟩ :=
      step ⟨state,label,next⟩ (by simp)
    have earlier := ih (fun transition member => step transition (by simp [member]))
    rw [last,earlier,List.map_append,List.sum_append,List.map_singleton,List.sum_singleton,add_assoc]

variable [PartialOrder M] [IsOrderedCancelAddMonoid M]

/-- A transition may spend what is left of the budget and what it brings in. -/
theorem total_le (run : Execution Step start trace state) (budget income : State → M)
    (cost : Transition State Label → M) (step : ∀ transition ∈ trace,
      budget transition.after + cost transition + income transition.before ≤
        budget transition.before + income transition.after) :
    budget state + (trace.map cost).sum + income start ≤ budget start + income state := by
  induction run with
  | nil => simp
  | @snoc trace state label next run taken ih =>
    have last : budget next + cost ⟨state,label,next⟩ + income state ≤ budget state + income next :=
      step ⟨state,label,next⟩ (by simp)
    have earlier := ih (fun transition member => step transition (by simp [member]))
    rw [List.map_append,List.sum_append,List.map_singleton,List.sum_singleton]
    apply le_of_add_le_add_right (a := budget state + income state)
    calc budget next + ((trace.map cost).sum + cost ⟨state,label,next⟩) + income start +
          (budget state + income state)
        = (budget next + cost ⟨state,label,next⟩ + income state) +
          (budget state + (trace.map cost).sum + income start) := by abel
      _ ≤ (budget state + income next) + (budget start + income state) := add_le_add last earlier
      _ = budget start + income next + (budget state + income state) := by abel

end Totals

theorem sum_filterMap {Event Item : Type} (events : List Event) (read : Event → Option Item) :
    (events.map (fun event => ((read event).toList : Multiset Item))).sum =
      (events.filterMap read : Multiset Item) := by
  induction events with
  | nil => rfl
  | cons event rest ih =>
    rw [List.map_cons,List.sum_cons,ih]
    cases found : read event <;> simp [found]

theorem length_filterMap {Event Item : Type} (events : List Event) (read : Event → Option Item) :
    (events.map (fun event => (read event).toList.length)).sum = (events.filterMap read).length := by
  rw [List.filterMap_eq_flatMap_toList,List.length_flatMap]

end FoodDispatch.Library.Execution
