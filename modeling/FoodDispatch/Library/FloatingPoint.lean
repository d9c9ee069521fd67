import FoodDispatch.Library.Rounding
import Mathlib.Data.Int.Log

/-! Floating point in any base: a value is rounded to so many digits, and to no place
below the least one. The error is half a unit in the last place. -/
namespace FoodDispatch.Library

section
variable {K : Type} [Field K] [LinearOrder K] [IsStrictOrderedRing K] [FloorRing K]

/-- The last place that a value has. -/
def lastPlace (base digits : ℕ) (least : ℤ) (value : K) : ℤ :=
  max (Int.log base |value| + 1 - digits) least

/-- Round to nearest, ties to even. -/
def roundDigits (base digits : ℕ) (least : ℤ) (value : K) : K :=
  roundHalfEven (value / base ^ lastPlace base digits least value) *
    base ^ lastPlace base digits least value

variable {base digits : ℕ} {least scale : ℤ} {value : K}

theorem roundDigits_near (positive : 0 < base) (digits : ℕ) (least : ℤ) (value : K) :
    |roundDigits base digits least value - value| ≤ base ^ lastPlace base digits least value / 2 := by
  let unit : K := base ^ lastPlace base digits least value
  have positive : 0 < unit := zpow_pos (by exact_mod_cast positive) _
  have near := roundHalfEven_near (value / unit)
  have scaled : value / unit * unit = value := div_mul_cancel₀ value positive.ne'
  have below := mul_le_mul_of_nonneg_right near.1 positive.le
  have above := mul_le_mul_of_nonneg_right near.2 positive.le
  rw [sub_mul,scaled] at below
  rw [add_mul,scaled] at above
  rw [abs_le]
  change -(unit / 2) ≤ roundHalfEven (value / unit) * unit - value ∧
    roundHalfEven (value / unit) * unit - value ≤ unit / 2
  constructor <;> linarith

theorem lastPlace_le (large : 1 < base) (nonzero : value ≠ 0) (bound : |value| < base ^ scale) :
    lastPlace base digits least value ≤ max (scale - digits) least := by
  have fewer : Int.log base |value| < scale :=
    (Int.lt_zpow_iff_log_lt large (abs_pos.mpr nonzero)).mp bound
  unfold lastPlace
  omega

omit [IsStrictOrderedRing K] in
theorem zpow_split (large : 1 < base) {lower upper : ℤ} (ordered : lower ≤ upper) :
    (base : K) ^ upper = ((base ^ (upper - lower).toNat : ℤ) : K) * base ^ lower := by
  have nonzero : (base : K) ≠ 0 := by exact_mod_cast (zero_lt_one.trans large).ne'
  have power : ((base ^ (upper - lower).toNat : ℤ) : K) = (base : K) ^ (upper - lower) := by
    push_cast
    rw [← zpow_natCast,Int.toNat_of_nonneg (sub_nonneg.mpr ordered)]
  rw [power,← zpow_add₀ nonzero,sub_add_cancel]

omit [IsStrictOrderedRing K] in
theorem roundDigits_multiple (base digits : ℕ) (least : ℤ) (value : K) : ∃ count : ℤ,
    roundDigits base digits least value = count * base ^ lastPlace base digits least value :=
  ⟨_,rfl⟩

theorem le_roundDigits_multiple (large : 1 < base) {count : ℤ}
    (below : count * base ^ lastPlace base digits least value ≤ value) :
    count * base ^ lastPlace base digits least value ≤ roundDigits base digits least value := by
  have unit : (0 : K) < base ^ lastPlace base digits least value :=
    zpow_pos (by exact_mod_cast zero_lt_one.trans large) _
  have places := le_roundHalfEven ((le_div_iff₀ unit).mpr below)
  exact mul_le_mul_of_nonneg_right (by exact_mod_cast places) unit.le

theorem roundDigits_le_multiple (large : 1 < base) {count : ℤ}
    (above : value ≤ count * base ^ lastPlace base digits least value) :
    roundDigits base digits least value ≤ count * base ^ lastPlace base digits least value := by
  have unit : (0 : K) < base ^ lastPlace base digits least value :=
    zpow_pos (by exact_mod_cast zero_lt_one.trans large) _
  have places := roundHalfEven_le ((div_le_iff₀ unit).mpr above)
  exact mul_le_mul_of_nonneg_right (by exact_mod_cast places) unit.le

/-- The values that so many digits above the least place can write. -/
def Held (base digits : ℕ) (least : ℤ) (held : K) : Prop :=
  ∃ mantissa exponent : ℤ, |mantissa| ≤ base ^ digits ∧ least ≤ exponent ∧
    held = mantissa * base ^ exponent

/-- What can be written either has no digit past the last place of `value`, or is no
further from zero than the power of the base that `value` has reached. -/
theorem Held.places {held : K} (written : Held base digits least held) (large : 1 < base)
    (some : 0 < digits) (nonzero : value ≠ 0) :
    (∃ count : ℤ, held = count * base ^ lastPlace base digits least value) ∨
      ∃ count : ℤ, |held| ≤ count * base ^ lastPlace base digits least value ∧
        count * base ^ lastPlace base digits least value ≤ |value| := by
  obtain ⟨mantissa,exponent,few,placed,rfl⟩ := written
  have one : (1 : K) < base := by exact_mod_cast large
  by_cases fine : lastPlace base digits least value ≤ exponent
  · left
    rw [zpow_split large fine]
    exact ⟨mantissa * base ^ (exponent - lastPlace base digits least value).toNat,by
      push_cast
      ring⟩
  · right
    let reached := Int.log base |value|
    have place : lastPlace base digits least value = reached + 1 - digits := by
      unfold lastPlace at fine ⊢
      omega
    have ordered : lastPlace base digits least value ≤ reached := by omega
    refine ⟨base ^ (reached - lastPlace base digits least value).toNat,?_,?_⟩
    · rw [← zpow_split large ordered,abs_mul,abs_of_pos (zpow_pos (zero_lt_one.trans one) _)]
      have bound : |(mantissa : K)| ≤ base ^ (digits : ℤ) := by
        rw [zpow_natCast]
        exact_mod_cast few
      calc |(mantissa : K)| * base ^ exponent
          ≤ base ^ (digits : ℤ) * base ^ exponent :=
            mul_le_mul_of_nonneg_right bound (zpow_pos (zero_lt_one.trans one) _).le
        _ = base ^ (digits + exponent) := (zpow_add₀ (zero_lt_one.trans one).ne' _ _).symm
        _ ≤ base ^ reached := zpow_le_zpow_right₀ one.le (by omega)
    · rw [← zpow_split large ordered]
      exact Int.zpow_log_le_self large (abs_pos.mpr nonzero)

theorem roundDigits_zero : roundDigits base digits least (0 : K) = 0 := by
  simp [roundDigits,roundHalfEven]

/-- Rounding passes nothing that can be written. -/
theorem le_roundDigits {held : K} (written : Held base digits least held) (large : 1 < base)
    (some : 0 < digits) (below : held ≤ value) : held ≤ roundDigits base digits least value := by
  by_cases zero : value = 0
  · subst zero
    rwa [roundDigits_zero]
  · rcases written.places large some zero with ⟨count,rfl⟩ | ⟨count,within,reached⟩
    · exact le_roundDigits_multiple large below
    · obtain ⟨lower,upper⟩ := abs_le.mp within
      rcases abs_cases value with ⟨same,_⟩ | ⟨same,_⟩
      · exact upper.trans (le_roundDigits_multiple large (reached.trans_eq same))
      · have opposite : ((-count : ℤ) : K) * base ^ lastPlace base digits least value ≤ value := by
          push_cast
          linarith
        have rounded := le_roundDigits_multiple large opposite
        push_cast at rounded
        linarith

theorem roundDigits_le {held : K} (written : Held base digits least held) (large : 1 < base)
    (some : 0 < digits) (above : value ≤ held) : roundDigits base digits least value ≤ held := by
  by_cases zero : value = 0
  · subst zero
    rwa [roundDigits_zero]
  · rcases written.places large some zero with ⟨count,rfl⟩ | ⟨count,within,reached⟩
    · exact roundDigits_le_multiple large above
    · obtain ⟨lower,upper⟩ := abs_le.mp within
      rcases abs_cases value with ⟨same,_⟩ | ⟨same,_⟩
      · have reaches : value ≤ count * base ^ lastPlace base digits least value := by linarith
        have rounded := roundDigits_le_multiple large reaches
        linarith
      · have opposite : value ≤ ((-count : ℤ) : K) * base ^ lastPlace base digits least value := by
          push_cast
          linarith
        have rounded := roundDigits_le_multiple large opposite
        push_cast at rounded
        linarith

/-- A value below a power of the base is rounded as if it were just there. -/
theorem roundDigits_error (large : 1 < base) (bound : |value| < base ^ scale) :
    |roundDigits base digits least value - value| ≤ base ^ (max (scale - digits) least) / 2 := by
  have one : (1 : K) ≤ base := by exact_mod_cast large.le
  by_cases zero : value = 0
  · rw [zero,roundDigits_zero,sub_self,abs_zero]
    exact (half_pos (zpow_pos (zero_lt_one.trans_le one) _)).le
  · have unit : (base : K) ^ lastPlace base digits least value ≤
        base ^ (max (scale - digits) least) :=
      zpow_le_zpow_right₀ one (lastPlace_le large zero bound)
    have near := roundDigits_near (zero_lt_one.trans large) digits least value
    linarith

end
end FoodDispatch.Library
