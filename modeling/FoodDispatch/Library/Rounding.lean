import Mathlib.Algebra.Order.Floor.Ring
import Mathlib.Algebra.Order.Round
import Mathlib.Tactic.Linarith
import Mathlib.Tactic.Positivity
import Mathlib.Tactic.Ring

/-! Rounding to the nearest integer with ties to even, and to a number of
decimals. Values more than one unit apart in the last place stay in order. -/
namespace FoodDispatch.Library

section
variable {K : Type} [Field K] [LinearOrder K] [FloorRing K]

def roundHalfEven (value : K) : ℤ :=
  let below := ⌊value⌋
  if value - below < 1 / 2 then below
  else if 1 / 2 < value - below then below + 1
  else if below % 2 = 0 then below else below + 1

/-- `round(value, digits)`. -/
def roundDecimals (digits : ℕ) (value : K) : K :=
  roundHalfEven (value * 10 ^ digits) / 10 ^ digits

theorem le_roundHalfEven {count : ℤ} {value : K} (below : (count : K) ≤ value) :
    count ≤ roundHalfEven value := by
  have floor := Int.le_floor.mpr below
  unfold roundHalfEven
  dsimp only
  split_ifs <;> omega

variable [IsStrictOrderedRing K]

theorem roundHalfEven_near (value : K) :
    value - 1 / 2 ≤ roundHalfEven value ∧ (roundHalfEven value : K) ≤ value + 1 / 2 := by
  have lower := Int.floor_le value
  have upper := Int.lt_floor_add_one value
  unfold roundHalfEven
  dsimp only
  split_ifs with small large even
  · constructor <;> linarith
  · push_cast
    constructor <;> linarith
  · constructor <;> linarith
  · push_cast
    constructor <;> linarith

theorem roundHalfEven_le {count : ℤ} {value : K} (above : value ≤ count) :
    roundHalfEven value ≤ count := by
  by_cases less : ⌊value⌋ < count
  · unfold roundHalfEven
    dsimp only
    split_ifs <;> omega
  · have reached : (count : K) ≤ ⌊value⌋ := by exact_mod_cast not_lt.mp less
    have small : value - ⌊value⌋ < 1 / 2 := by linarith
    have floor : ⌊value⌋ ≤ count := by exact_mod_cast (Int.floor_le value).trans above
    unfold roundHalfEven
    dsimp only
    rw [if_pos small]
    exact floor

theorem roundHalfEven_lt {first second : K} (gap : first + 1 < second) :
    roundHalfEven first < roundHalfEven second := by
  have above := (roundHalfEven_near first).2
  have below := (roundHalfEven_near second).1
  have apart : (roundHalfEven first : K) < roundHalfEven second := by linarith
  exact_mod_cast apart

theorem roundDecimals_lt {digits : ℕ} {first second : K}
    (gap : first * 10 ^ digits + 1 < second * 10 ^ digits) :
    roundDecimals digits first < roundDecimals digits second := by
  have scale : (0 : K) < 10 ^ digits := by positivity
  have rounded := roundHalfEven_lt gap
  exact div_lt_div_of_pos_right (by exact_mod_cast rounded) scale

end
end FoodDispatch.Library
