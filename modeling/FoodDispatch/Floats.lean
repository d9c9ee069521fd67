import FoodDispatch.Library.FloatingPoint
import FoodDispatch.Python
import Mathlib.Data.Rat.Floor

/-! The arithmetic of Python's floats: the exact result is rounded to 53 binary
digits, and past the range of a double it is infinite. The sign of a zero is left
out, since nothing here divides. -/
namespace FoodDispatch.Double
open Library

/-- Rounding as far as the range of a double goes. -/
def round (value : ℚ) : ℚ := roundDigits 2 53 (-1074) value

def ofRat (value : ℚ) : Double :=
  if |round value| < 2 ^ 1024 then .finite (round value)
  else if 0 < value then .posInf else .negInf

theorem round_near (value : ℚ) : |round value - value| ≤ 2 ^ lastPlace 2 53 (-1074) value / 2 :=
  roundDigits_near two_pos 53 (-1074) value

theorem le_round {held value : ℚ} (written : Held 2 53 (-1074) held) (below : held ≤ value) :
    held ≤ round value := le_roundDigits written one_lt_two (by decide) below

theorem round_le {held value : ℚ} (written : Held 2 53 (-1074) held) (above : value ≤ held) :
    round value ≤ held := roundDigits_le written one_lt_two (by decide) above

/-- The integers of 53 bits are doubles. -/
theorem held_int {count : ℤ} (few : |count| ≤ 2 ^ 53) : Held 2 53 (-1074) (count : ℚ) :=
  ⟨count,0,few,by decide,by simp⟩

theorem ofRat_finite {value : ℚ} (bound : |round value| < 2 ^ 1024) :
    ofRat value = .finite (round value) := if_pos bound

/-- Rounding a value below a power of two, far from both ends of the range. -/
theorem ofRat_near {value : ℚ} {scale : ℤ} (small : |value| < 2 ^ scale) (normal : -1021 ≤ scale)
    (range : scale ≤ 1023) :
    ∃ place, ofRat value = .finite place ∧ |place - value| ≤ 2 ^ (scale - 54) := by
  have bound : |value| < ((2 : ℕ) : ℚ) ^ scale := by exact_mod_cast small
  have error : |round value - value| ≤
      ((2 : ℕ) : ℚ) ^ (Max.max (scale - (53 : ℕ)) (-1074)) / 2 := roundDigits_error one_lt_two bound
  have place : Max.max (scale - (53 : ℕ)) (-1074) = scale - 53 := by omega
  have half : (2 : ℚ) ^ (scale - 53) / 2 = 2 ^ (scale - 54) := by
    rw [div_eq_mul_inv,← zpow_sub_one₀ two_ne_zero]
    congr 1
    ring
  rw [place,Nat.cast_ofNat,half] at error
  have tiny : (2 : ℚ) ^ (scale - 54) ≤ 2 ^ scale := zpow_le_zpow_right₀ one_le_two (by omega)
  have double : (2 : ℚ) ^ scale * 2 = 2 ^ (scale + 1) := (zpow_add_one₀ two_ne_zero scale).symm
  have most : (2 : ℚ) ^ (scale + 1) ≤ 2 ^ (1024 : ℤ) := zpow_le_zpow_right₀ one_le_two (by omega)
  have largest : (2 : ℚ) ^ (1024 : ℤ) = 2 ^ 1024 := zpow_ofNat 2 1024
  have total : |round value| ≤ |round value - value| + |value| := by
    simpa using abs_add_le (round value - value) value
  refine ⟨_,ofRat_finite ?_,error⟩
  rw [← largest]
  linarith

def neg : Double → Double
  | .finite value => .finite (-value)
  | .posInf => .negInf
  | .negInf => .posInf
  | .nan => .nan

def add : Double → Double → Double
  | .finite first, .finite second => ofRat (first + second)
  | .nan, _ => .nan
  | _, .nan => .nan
  | .posInf, .negInf => .nan
  | .negInf, .posInf => .nan
  | .posInf, _ => .posInf
  | _, .posInf => .posInf
  | .negInf, _ => .negInf
  | _, .negInf => .negInf

def infinite (positive : Bool) : Double := if positive then .posInf else .negInf

def mul : Double → Double → Double
  | .finite first, .finite second => ofRat (first * second)
  | .nan, _ => .nan
  | _, .nan => .nan
  | .finite value, other => if value = 0 then .nan else infinite ((0 < value) = (other = .posInf))
  | other, .finite value => if value = 0 then .nan else infinite ((0 < value) = (other = .posInf))
  | first, second => infinite (first = second)

/-- `min(first, second)`, which keeps the first unless the second is less. -/
def min (first second : Double) : Double := if second.lt first then second else first

def max (first second : Double) : Double := if first.lt second then second else first

@[simp] theorem min_finite (first second : ℚ) :
    (finite first).min (finite second) = finite (Min.min first second) := by
  unfold min
  by_cases less : second < first
  · simp [lt,less,min_eq_right less.le]
  · simp [lt,less,min_eq_left (not_lt.mp less)]

@[simp] theorem max_finite (first second : ℚ) :
    (finite first).max (finite second) = finite (Max.max first second) := by
  unfold max
  by_cases less : first < second
  · simp [lt,less,max_eq_right less.le]
  · simp [lt,less,max_eq_left (not_lt.mp less)]

@[simp] theorem le_finite (first second : ℚ) :
    (finite first).le (finite second) = decide (first ≤ second) := by
  simp [le,lt,le_iff_lt_or_eq]

/-- Whatever is squeezed between two bounds lies between them, even a NaN. -/
theorem max_min_between {low high : ℚ} (ordered : low ≤ high) (value : Double) :
    (finite low).le ((finite low).max ((finite high).min value)) = true ∧
      ((finite low).max ((finite high).min value)).le (finite high) = true := by
  have kept : ∀ value, ¬value < low → ¬high < value →
      (finite low).le (finite value) = true ∧ (finite value).le (finite high) = true := by
    intro value above below
    simp only [le,lt,Bool.or_eq_true,Bool.and_eq_true,decide_eq_true_eq,finite.injEq,ne_eq,
      reduceCtorEq,not_false_eq_true,and_true]
    exact ⟨(not_lt.mp above).lt_or_eq,(not_lt.mp below).lt_or_eq⟩
  have squeezed : ∃ place, (finite low).max ((finite high).min value) = finite place ∧
      ¬place < low ∧ ¬high < place := by
    unfold max min
    cases value with
    | finite value =>
      by_cases below : value < high
      · by_cases above : low < value
        · exact ⟨value,by simp [lt,below,above],above.not_gt,below.not_gt⟩
        · exact ⟨low,by simp [lt,below,above],lt_irrefl low,ordered.not_gt⟩
      · by_cases strict : low < high
        · exact ⟨high,by simp [lt,below,strict],ordered.not_gt,lt_irrefl high⟩
        · exact ⟨low,by simp [lt,below,strict],lt_irrefl low,ordered.not_gt⟩
    | negInf => exact ⟨low,by simp [lt],lt_irrefl low,ordered.not_gt⟩
    | _ =>
      by_cases strict : low < high
      · exact ⟨high,by simp [lt,strict],ordered.not_gt,lt_irrefl high⟩
      · exact ⟨low,by simp [lt,strict],lt_irrefl low,ordered.not_gt⟩
  obtain ⟨place,same,above,below⟩ := squeezed
  rw [same]
  exact kept place above below

theorem between {low high : ℚ} {value : Double} (above : (finite low).le value = true)
    (below : value.le (finite high) = true) :
    ∃ place, value = finite place ∧ low ≤ place ∧ place ≤ high := by
  cases value with
  | finite place =>
    simp only [le,lt,Bool.or_eq_true,Bool.and_eq_true,decide_eq_true_eq,finite.injEq,ne_eq,
      reduceCtorEq,not_false_eq_true,and_true] at above below
    exact ⟨place,rfl,le_of_lt_or_eq above,le_of_lt_or_eq below⟩
  | posInf => simp [le,lt] at below
  | negInf => simp [le,lt] at above
  | nan => simp [le,lt] at above

end FoodDispatch.Double
