import Mathlib.Data.List.Basic
import Mathlib.Order.Basic

/-! Finite executions of a labelled step relation, kept as the list of their
transitions, so that a property may speak of every step of a run as well as of
every state it reaches. -/
namespace FoodDispatch.Library

structure Transition (State Label : Type) where
  before : State
  label : Label
  after : State

inductive Execution {State Label : Type} (Step : State → Label → State → Prop) (start : State) :
    List (Transition State Label) → State → Prop
  | nil : Execution Step start [] start
  | snoc {trace state label next} (run : Execution Step start trace state)
      (step : Step state label next) :
      Execution Step start (trace ++ [⟨state,label,next⟩]) next

namespace Execution
variable {State Label : Type} {Step : State → Label → State → Prop}
variable {start state : State} {trace : List (Transition State Label)}

theorem eq_of_nil (run : Execution Step start trace state) (nothing : trace = []) : state = start := by
  cases run with
  | nil => rfl
  | snoc => simp at nothing

theorem cons {label : Label} {next : State} (run : Execution Step next trace state)
    (step : Step start label next) : Execution Step start (⟨start,label,next⟩::trace) state := by
  induction run with
  | nil => exact .snoc .nil step
  | snoc _ last ih => exact ih.snoc last

theorem split {first rest : List (Transition State Label)} {transition : Transition State Label}
    (run : Execution Step start trace state) (located : trace = first ++ transition::rest) :
    Execution Step start first transition.before ∧
      Step transition.before transition.label transition.after ∧
      Execution Step transition.after rest state := by
  induction run generalizing rest with
  | nil => simp at located
  | @snoc trace state label next run step ih =>
    rcases List.eq_nil_or_concat rest with rfl | ⟨shorter,last,rfl⟩
    · obtain ⟨same,rfl⟩ := List.append_inj' located rfl |>.imp_right List.singleton_inj.mp
      subst same
      exact ⟨run,step,.nil⟩
    · rw [List.concat_eq_append,← List.cons_append,← List.append_assoc] at located
      obtain ⟨same,ending⟩ := List.append_inj' located rfl
      obtain ⟨before,taken,after⟩ := ih same
      rw [List.concat_eq_append,← List.singleton_inj.mp ending]
      exact ⟨before,taken,after.snoc step⟩

/-- What has held of all events since one of them goes on to hold with the next event. -/
theorem located_snoc {Event : Type} {events first rest : List Event} {event next : Event}
    {Holds : Event → Prop} (located : events = first ++ event::rest)
    (since : ∀ later ∈ rest, Holds later) (holds : Holds next) :
    events ++ [next] = first ++ event::(rest ++ [next]) ∧ ∀ later ∈ rest ++ [next], Holds later := by
  constructor
  · rw [located,List.append_assoc,List.cons_append]
  · intro later member
    rcases List.mem_append.mp member with inside | last
    · exact since later inside
    · exact List.mem_singleton.mp last ▸ holds

theorem located_of_lt {first second : Transition State Label} {i j : ℕ}
    (earlier : (trace)[i]? = some first) (later : (trace)[j]? = some second) (before : i < j) :
    ∃ front rest, trace = front ++ first::rest ∧ second ∈ rest := by
  obtain ⟨bound,same⟩ := List.getElem?_eq_some_iff.mp earlier
  obtain ⟨bound',same'⟩ := List.getElem?_eq_some_iff.mp later
  refine ⟨trace.take i,trace.drop (i + 1),?_,?_⟩
  · rw [← same,← List.drop_eq_getElem_cons bound,List.take_append_drop]
  · rw [List.mem_iff_getElem?]
    refine ⟨j - (i + 1),?_⟩
    rw [List.getElem?_drop,← later]
    congr 1
    omega

theorem step_of_mem (run : Execution Step start trace state)
    {transition : Transition State Label} (member : transition ∈ trace) :
    Step transition.before transition.label transition.after := by
  obtain ⟨first,rest,located⟩ := List.append_of_mem member
  exact (run.split located).2.1

theorem induction {Holds : State → Prop} (run : Execution Step start trace state)
    (initial : Holds start)
    (preserved : ∀ transition ∈ trace, Holds transition.before →
      Step transition.before transition.label transition.after → Holds transition.after) :
    Holds state ∧ ∀ transition ∈ trace, Holds transition.before ∧ Holds transition.after := by
  induction run with
  | nil => exact ⟨initial,by simp⟩
  | @snoc trace state label next run step ih =>
    obtain ⟨now,earlier⟩ := ih (fun transition member => preserved transition (by simp [member]))
    have later := preserved ⟨state,label,next⟩ (by simp) now step
    refine ⟨later,fun transition member => ?_⟩
    rcases List.mem_append.mp member with inside | final
    · exact earlier transition inside
    · rw [List.mem_singleton.mp final]
      exact ⟨now,later⟩

theorem before_of_after {Holds : State → Prop} (run : Execution Step start trace state)
    (initial : Holds start) (held : ∀ transition ∈ trace, Holds transition.after) :
    ∀ transition ∈ trace, Holds transition.before :=
  fun transition member =>
    ((run.induction initial (fun transition member _ _ => held transition member)).2
      transition member).1

/-- What rises with every transition lies between its first and its last value. -/
theorem between {Value : Type} [Preorder Value] (run : Execution Step start trace state)
    (value : State → Value)
    (rises : ∀ transition ∈ trace, value transition.before ≤ value transition.after) :
    value start ≤ value state ∧ ∀ transition ∈ trace,
      value start ≤ value transition.after ∧ value transition.after ≤ value state := by
  induction run with
  | nil => exact ⟨le_rfl,by simp⟩
  | @snoc trace state label next run step ih =>
    obtain ⟨risen,inside⟩ := ih (fun transition member => rises transition (by simp [member]))
    have last : value state ≤ value next := rises ⟨state,label,next⟩ (by simp)
    refine ⟨risen.trans last,fun transition member => ?_⟩
    rcases List.mem_append.mp member with earlier | final
    · obtain ⟨low,high⟩ := inside transition earlier
      exact ⟨low,high.trans last⟩
    · rw [List.mem_singleton.mp final]
      exact ⟨risen.trans last,le_rfl⟩

/-- What is to hold of the transitions so far and the state they reach. -/
theorem history {Holds : List (Transition State Label) → State → Prop}
    (run : Execution Step start trace state) (initial : Holds [] start)
    (extend : ∀ earlier transition, Execution Step start earlier transition.before →
      Step transition.before transition.label transition.after →
        Holds earlier transition.before → Holds (earlier ++ [transition]) transition.after) :
    Holds trace state := by
  induction run with
  | nil => exact initial
  | snoc run step ih => exact extend _ ⟨_,_,_⟩ run step ih

theorem append {middle : State} {later : List (Transition State Label)}
    (run : Execution Step start trace middle) (rest : Execution Step middle later state) :
    Execution Step start (trace ++ later) state := by
  induction rest with
  | nil => simpa using run
  | snoc _ step ih =>
    rw [← List.append_assoc]
    exact ih.snoc step

/-- Every state of an execution: its first, and the one after each transition. -/
def Throughout (start : State) (trace : List (Transition State Label)) (Holds : State → Prop) :
    Prop :=
  Holds start ∧ ∀ transition ∈ trace, Holds transition.after

theorem throughout {Holds : State → Prop} (run : Execution Step start trace state)
    (initial : Holds start)
    (preserved : ∀ transition ∈ trace, Holds transition.before →
      Step transition.before transition.label transition.after → Holds transition.after) :
    Throughout start trace Holds :=
  ⟨initial,fun transition member => ((run.induction initial preserved).2 transition member).2⟩

theorem Throughout.before {Holds : State → Prop} (holds : Throughout start trace Holds)
    (run : Execution Step start trace state) {transition : Transition State Label}
    (member : transition ∈ trace) : Holds transition.before :=
  run.before_of_after holds.1 holds.2 transition member

theorem Throughout.final {Holds : State → Prop} (holds : Throughout start trace Holds)
    (run : Execution Step start trace state) : Holds state := by
  cases run with
  | nil => exact holds.1
  | snoc run step => exact holds.2 _ (List.mem_append_right _ (List.mem_singleton_self _))

end Execution
end FoodDispatch.Library
