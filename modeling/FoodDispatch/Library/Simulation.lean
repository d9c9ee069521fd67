import FoodDispatch.Library.Execution

/-! Executions seen by their labels alone, and the simulation of one step relation
by another in which a step may be any number of steps, or none. -/
namespace FoodDispatch.Library

section Traced
variable {State Label : Type} {Step : State → Label → State → Prop}

/-- Some execution from one state to the other has these labels. -/
def Traced (Step : State → Label → State → Prop) (start : State) (labels : List Label)
    (state : State) : Prop :=
  ∃ trace, Execution Step start trace state ∧ trace.map Transition.label = labels

namespace Traced
variable {start middle state : State} {first later : List Label}

theorem nil : Traced Step start [] start := ⟨[],.nil,rfl⟩

theorem single {label : Label} (step : Step start label state) : Traced Step start [label] state :=
  ⟨_,Execution.nil.snoc step,rfl⟩

theorem append (run : Traced Step start first middle) (rest : Traced Step middle later state) :
    Traced Step start (first ++ later) state := by
  obtain ⟨trace,run,rfl⟩ := run
  obtain ⟨trace',rest,rfl⟩ := rest
  exact ⟨trace ++ trace',run.append rest,List.map_append⟩

theorem cons {label : Label} (step : Step start label middle)
    (rest : Traced Step middle later state) : Traced Step start (label::later) state :=
  (single step).append rest

theorem history {Holds : List Label → State → Prop} {labels : List Label}
    (run : Traced Step start labels state) (initial : Holds [] start)
    (extend : ∀ earlier before label after, Step before label after → Holds earlier before →
      Holds (earlier ++ [label]) after) : Holds labels state := by
  obtain ⟨trace,run,rfl⟩ := run
  induction run with
  | nil => exact initial
  | snoc _ step ih =>
    rw [List.map_append]
    exact extend _ _ _ _ step ih

end Traced
end Traced

/-- If every transition is seen by the abstraction as some of its own steps, then
so is the whole execution. -/
theorem Execution.simulates {State Label Abstract Event : Type} {Step : State → Label → State → Prop}
    {Abstractly : Abstract → Event → Abstract → Prop} {start state : State}
    {trace : List (Transition State Label)} (run : Execution Step start trace state)
    (abstraction : State → Abstract) (events : Transition State Label → List Event)
    (step : ∀ transition ∈ trace, Traced Abstractly (abstraction transition.before)
      (events transition) (abstraction transition.after)) :
    Traced Abstractly (abstraction start) (trace.flatMap events) (abstraction state) := by
  induction run with
  | nil => exact .nil
  | @snoc trace state label next _ _ ih =>
    have last := step ⟨state,label,next⟩ (by simp)
    have earlier := ih (fun transition member => step transition (by simp [member]))
    simpa using earlier.append last

end FoodDispatch.Library
