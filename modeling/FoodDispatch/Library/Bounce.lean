import FoodDispatch.Library.Simulation
import Mathlib.Algebra.Order.Field.Basic
import Mathlib.Tactic.Linarith

/-! A point on a line that turns round where it would leave a segment. The steps may
be of any length up to a limit, so after a turn it takes as many of them as fit into
the segment before the next. -/
namespace FoodDispatch.Library

structure Bouncing (K : Type) where
  place : K
  up : Bool

namespace Bouncing
variable {K : Type} [Field K] [LinearOrder K] [IsStrictOrderedRing K]

/-- The next place would be ahead, and no further than a step. -/
def Ahead (longest : K) (state : Bouncing K) (next : K) : Prop :=
  if state.up then state.place ≤ next ∧ next ≤ state.place + longest
  else next ≤ state.place ∧ state.place - longest ≤ next

/-- The label says whether the step was a turn. -/
inductive Step (low high longest : K) : Bouncing K → Bool → Bouncing K → Prop
  | on {state next} (ahead : state.Ahead longest next) (inside : low ≤ next ∧ next ≤ high) :
      Step low high longest state false ⟨next,state.up⟩
  | turn {state next} (ahead : state.Ahead longest next) (outside : ¬(low ≤ next ∧ next ≤ high)) :
      Step low high longest state true ⟨max low (min high next),!state.up⟩

variable {low high longest : K} {state start next : Bouncing K}

/-- Since its turn the point has gone at most so many steps from the end it turned at. -/
structure Since (low high longest : K) (up : Bool) (steps : ℕ) (state : Bouncing K) : Prop where
  inside : low ≤ state.place ∧ state.place ≤ high
  heading : state.up = up
  near : if up then state.place ≤ low + steps * longest else high - steps * longest ≤ state.place

omit [IsStrictOrderedRing K] in
theorem Step.inside {turn : Bool} (ordered : low ≤ high) (step : Step low high longest state turn next) :
    low ≤ next.place ∧ next.place ≤ high := by
  cases step with
  | on ahead inside => exact inside
  | turn ahead outside => exact ⟨le_max_left _ _,max_le ordered (min_le_left _ _)⟩

omit [IsStrictOrderedRing K] in
theorem turned (ordered : low ≤ high)
    (inside : low ≤ state.place ∧ state.place ≤ high)
    (step : Step low high longest state true next) :
    Since low high longest next.up 0 next := by
  cases step with
  | @turn proposed ahead outside =>
    unfold Ahead at ahead
    cases direction : state.up with
    | true =>
      rw [direction] at ahead
      have beyond : high < proposed := by
        by_contra within
        exact outside ⟨inside.1.trans ahead.1,not_lt.mp within⟩
      rw [min_eq_left beyond.le,max_eq_right ordered]
      exact ⟨⟨ordered,le_refl high⟩,rfl,by simp⟩
    | false =>
      rw [direction] at ahead
      have beyond : proposed < low := by
        by_contra within
        exact outside ⟨not_lt.mp within,ahead.1.trans inside.2⟩
      rw [max_eq_left ((min_le_right _ _).trans beyond.le)]
      exact ⟨⟨le_refl low,ordered⟩,rfl,by simp⟩

theorem Since.step {up turn : Bool} {steps : ℕ} (since : Since low high longest up steps state)
    (fits : (steps + 1) * longest ≤ high - low) (step : Step low high longest state turn next) :
    turn = false ∧ Since low high longest up (steps + 1) next := by
  have heading := since.heading
  have near := since.near
  cases step with
  | @on proposed ahead within =>
    refine ⟨rfl,within,heading,?_⟩
    unfold Ahead at ahead
    rw [heading] at ahead
    push_cast
    cases up <;> simp only [if_true,if_false,Bool.false_eq_true] at near ahead ⊢ <;> linarith
  | @turn proposed ahead outside =>
    refine absurd ?_ outside
    unfold Ahead at ahead
    rw [heading] at ahead
    have inside := since.inside
    cases up <;> simp only [if_true,if_false,Bool.false_eq_true] at near ahead <;>
      constructor <;> linarith

/-- After a turn there is no other for as many steps as fit into the segment. -/
theorem kept {turns : List Bool} (ordered : low ≤ high) (positive : 0 ≤ longest)
    (inside : low ≤ start.place ∧ start.place ≤ high)
    (turning : Step low high longest start true state)
    (run : Traced (Step low high longest) state turns next)
    (fits : turns.length * longest ≤ high - low) : next.up = state.up := by
  have going : turns.length * longest ≤ high - low →
      Since low high longest state.up turns.length next := by
    apply run.history
    · exact fun _ => turned ordered inside turning
    · intro earlier before turn after step ih room
      rw [List.length_append,List.length_singleton] at room ⊢
      push_cast at room
      exact ((ih (by linarith)).step room step).2
  exact (going fits).heading

end Bouncing
end FoodDispatch.Library
