import FoodDispatch.Floats
import Mathlib.Tactic.NormNum

/-! The settings the dispatch code reads, and the prep time estimator: when an
order will be ready, and whether its dispatch window is open. The minutes that
remain are a float; `round` is what each of its operations rounds by, and with the
identity for it the arithmetic is exact. -/
namespace FoodDispatch
open Library

structure Settings where
  googleMapsApiKey : String := ""
  dispatchWindowMinutes : ℤ := 10
  driverStaleThresholdMinutes : ℤ := 5
  prepTimeMinutes : ℤ := 15
  safetyBufferMinutes : ℤ := 3
  deriving DecidableEq

namespace PrepEstimator

/-- The text of the `ValueError` is given without the repr of the argument. -/
def compute (settings : Settings) (createdAt : Datetime) : Except PyException Datetime :=
  match createdAt.tzinfo with
  | none => .error (.valueError "created_at must be timezone-aware, got naive datetime. Use datetime.now(timezone.utc) when creating orders.")
  | some _ => do
    let totalMinutes := settings.prepTimeMinutes + settings.safetyBufferMinutes
    let delta ← timedelta totalMinutes
    createdAt.addDelta delta

def minutesUntilReady (round : ℚ → ℚ) (predictedReadyAt now : Datetime) : Except PyException ℚ :=
  match predictedReadyAt.tzinfo, now.tzinfo with
  | none, _ => .error (.valueError "predicted_ready_at must be timezone-aware.")
  | some _, none => .error (.valueError "now must be timezone-aware.")
  | some _, some _ => (predictedReadyAt.sub now).map (totalMinutes round)

def isWithinDispatchWindow (round : ℚ → ℚ) (settings : Settings)
    (predictedReadyAt now : Datetime) : Except PyException Bool :=
  (minutesUntilReady round predictedReadyAt now).map
    (fun (remaining : ℚ) => decide (remaining ≤ settings.dispatchWindowMinutes))

def prepMinutes (settings : Settings) : ℤ := settings.prepTimeMinutes + settings.safetyBufferMinutes

/-- The prep time is a timedelta, and the order is ready by the end of the year 9999. -/
structure ReadyInRange (settings : Settings) (createdAt : ℤ) : Prop where
  delta : TimedeltaRange (minutes (prepMinutes settings))
  wall : Datetime.WallRange (createdAt + minutes (prepMinutes settings))

instance (settings : Settings) (createdAt : ℤ) : Decidable (ReadyInRange settings createdAt) :=
  decidable_of_iff (TimedeltaRange (minutes (prepMinutes settings)) ∧
    Datetime.WallRange (createdAt + minutes (prepMinutes settings)))
    ⟨fun ⟨delta,wall⟩ => ⟨delta,wall⟩,fun range => ⟨range.delta,range.wall⟩⟩

theorem compute_aware (settings : Settings) (zone : TzInfo) (createdAt : ℤ) (fold : Bool) :
    compute settings ⟨createdAt,fold,some zone⟩ = if ReadyInRange settings createdAt then
      .ok ⟨createdAt + minutes (prepMinutes settings),false,some zone⟩
    else .error .overflowError := by
  change (timedelta (prepMinutes settings)).bind
    (Datetime.addDelta ⟨createdAt,fold,some zone⟩) = _
  unfold timedelta
  by_cases delta : TimedeltaRange (minutes (prepMinutes settings))
  · rw [if_pos delta]
    change Datetime.addDelta _ _ = _
    unfold Datetime.addDelta
    by_cases wall : Datetime.WallRange (createdAt + minutes (prepMinutes settings))
    · rw [if_pos wall,if_pos ⟨delta,wall⟩]
    · rw [if_neg wall,if_neg (fun range => wall range.wall)]
  · rw [if_neg delta,if_neg (fun range => delta range.delta)]
    rfl

def readyAt (settings : Settings) (createdAt : ℤ) : ℤ := createdAt + minutes (prepMinutes settings)

theorem compute_utc (settings : Settings) (createdAt : ℤ) :
    compute settings (.utc createdAt) = if ReadyInRange settings createdAt then
      .ok (.utc (readyAt settings createdAt)) else .error .overflowError :=
  compute_aware settings TzInfo.utc createdAt false

/-- What the gate of the dispatch loop compares, on doubles. -/
def WindowOpen (settings : Settings) (predictedReadyAt now : ℤ) : Prop :=
  totalMinutes Double.round (predictedReadyAt - now) ≤ settings.dispatchWindowMinutes

instance (settings : Settings) (predictedReadyAt now : ℤ) :
    Decidable (WindowOpen settings predictedReadyAt now) :=
  inferInstanceAs (Decidable (_ ≤ _))

@[simp] theorem minutesUntilReady_utc (round : ℚ → ℚ) (predictedReadyAt now : ℤ) :
    minutesUntilReady round (.utc predictedReadyAt) (.utc now) =
      .ok (totalMinutes round (predictedReadyAt - now)) := by
  change ((Datetime.utc predictedReadyAt).sub (.utc now)).map (totalMinutes round) = _
  rw [Datetime.sub_utc]
  rfl

@[simp] theorem isWithinDispatchWindow_utc (settings : Settings) (predictedReadyAt now : ℤ) :
    isWithinDispatchWindow Double.round settings (.utc predictedReadyAt) (.utc now) =
      .ok (decide (WindowOpen settings predictedReadyAt now)) := by
  rw [isWithinDispatchWindow,minutesUntilReady_utc]
  rfl

section
variable {window : ℤ} {seconds : ℚ}

theorem log_late (few : 0 ≤ window) (late : 60 * window + 1 / 1000000 ≤ seconds) :
    0 < seconds ∧ -20 ≤ Int.log 2 seconds := by
  have nonnegative : (0 : ℚ) ≤ window := by exact_mod_cast few
  have positive : 0 < seconds := by linarith
  refine ⟨positive,(Int.zpow_le_iff_le_log one_lt_two positive).mp ?_⟩
  have microsecond : ((2 : ℕ) : ℚ) ^ (-20 : ℤ) ≤ 1 / 1000000 := by norm_num
  exact microsecond.trans (by linarith)

/-- Below 2 ^ 34 seconds a microsecond is more than half of the last place, so a
time that is one microsecond late is rounded to a later one. -/
theorem round_late (few : 0 ≤ window) (late : 60 * window + 1 / 1000000 ≤ seconds)
    (short : Int.log 2 seconds < 34) :
    60 * window + 2 ^ (Int.log 2 seconds - 52) ≤ Double.round seconds ∧
      Double.round seconds ≤ seconds + 2 ^ (Int.log 2 seconds - 52) / 2 := by
  obtain ⟨positive,low⟩ := log_late few late
  have place : lastPlace 2 53 (-1074) seconds = Int.log 2 seconds - 52 := by
    unfold lastPlace
    rw [abs_of_pos positive]
    omega
  obtain ⟨count,rounded⟩ := roundDigits_multiple 2 53 (-1074) seconds
  have near := abs_le.mp (Double.round_near seconds)
  change Double.round seconds = _ at rounded
  rw [place,Nat.cast_ofNat] at rounded
  rw [place] at near
  have unit : (0 : ℚ) < 2 ^ (Int.log 2 seconds - 52) := zpow_pos two_pos _
  have fine : (2 : ℚ) ^ (Int.log 2 seconds - 52) < 2 / 1000000 := by
    have largest : (2 : ℚ) ^ (-19 : ℤ) < 2 / 1000000 := by norm_num
    exact (zpow_le_zpow_right₀ one_le_two (by omega)).trans_lt largest
  refine ⟨?_,by linarith⟩
  -- a minute is a whole number of units, so the rounding cannot end inside the last one
  have whole := zpow_split (K := ℚ) one_lt_two (by omega : Int.log 2 seconds - 52 ≤ 0)
  rw [zpow_zero] at whole
  generalize ((2 : ℕ) ^ (0 - (Int.log 2 seconds - 52)).toNat : ℤ) = units at whole
  rw [Nat.cast_ofNat] at whole
  have minute : (60 * window : ℚ) =
      (60 * window * units : ℤ) * 2 ^ (Int.log 2 seconds - 52) := by
    push_cast
    rw [mul_assoc (60 * window : ℚ),← whole,mul_one]
  have more : ((60 * window * units : ℤ) : ℚ) < count := by
    refine lt_of_mul_lt_mul_right ?_ unit.le
    rw [← minute,← rounded]
    linarith
  have next : ((60 * window * units : ℤ) : ℚ) + 1 ≤ count := by
    exact_mod_cast Int.add_one_le_of_lt (by exact_mod_cast more)
  rw [minute,rounded]
  linarith [mul_le_mul_of_nonneg_right next unit.le]

theorem quotient_late (few : 0 ≤ window) (late : 60 * window + 1 / 1000000 ≤ seconds)
    (short : Int.log 2 seconds < 34) : window < Double.round (Double.round seconds / 60) := by
  obtain ⟨above,below⟩ := round_late few late short
  obtain ⟨_,low⟩ := log_late few late
  have nonnegative : (0 : ℚ) ≤ window := by exact_mod_cast few
  have unit : (0 : ℚ) < 2 ^ (Int.log 2 seconds - 52) := zpow_pos two_pos _
  have coarse : (2 : ℚ) ^ (Int.log 2 seconds - 52) ≤ 2 ^ Int.log 2 seconds :=
    zpow_le_zpow_right₀ one_le_two (by omega)
  have top : seconds < 2 ^ Int.log 2 seconds * 2 := by
    rw [← zpow_add_one₀ two_ne_zero]
    exact_mod_cast Int.lt_zpow_succ_log_self one_lt_two seconds
  have scale : (2 : ℚ) ^ Int.log 2 seconds = 2 ^ (Int.log 2 seconds - 4) * 16 := by
    have four := zpow_add₀ (two_ne_zero : (2 : ℚ) ≠ 0) (Int.log 2 seconds - 4) 4
    have power : (2 : ℚ) ^ (4 : ℤ) = 16 := by norm_num
    rwa [sub_add_cancel,power] at four
  have quotient : 0 < Double.round seconds / 60 := by linarith
  have small : |Double.round seconds / 60| < ((2 : ℕ) : ℚ) ^ (Int.log 2 seconds - 4) := by
    rw [abs_of_pos quotient,Nat.cast_ofNat]
    linarith
  have place : lastPlace 2 53 (-1074) (Double.round seconds / 60) ≤ Int.log 2 seconds - 57 := by
    have placed : lastPlace 2 53 (-1074) (Double.round seconds / 60) ≤
        max (Int.log 2 seconds - 4 - (53 : ℕ)) (-1074) :=
      lastPlace_le one_lt_two quotient.ne' small
    omega
  have finer : (2 : ℚ) ^ lastPlace 2 53 (-1074) (Double.round seconds / 60) ≤
      2 ^ (Int.log 2 seconds - 57) := zpow_le_zpow_right₀ one_le_two place
  have fifth : (2 : ℚ) ^ (Int.log 2 seconds - 52) = 2 ^ (Int.log 2 seconds - 57) * 32 := by
    have five := zpow_add₀ (two_ne_zero : (2 : ℚ) ≠ 0) (Int.log 2 seconds - 57) 5
    have place : Int.log 2 seconds - 57 + 5 = Int.log 2 seconds - 52 := by ring
    have power : (2 : ℚ) ^ (5 : ℤ) = 32 := by norm_num
    rwa [place,power] at five
  have near := abs_le.mp (Double.round_near (Double.round seconds / 60))
  linarith

end

/-- Up to this many minutes the gate on doubles is exact; with a window one minute
longer it opens a microsecond early. -/
def exactWindow : ℤ := 286331153

theorem totalMinutes_late {window delta : ℤ} (few : 0 ≤ window) (within : window ≤ exactWindow)
    (late : minutes window < delta) : window < totalMinutes Double.round delta := by
  have step : (60 * window : ℚ) + 1 / 1000000 ≤ (delta : ℚ) / 1000000 := by
    have more : (window * 60000000 + 1 : ℚ) ≤ delta := by exact_mod_cast late
    linarith
  by_cases short : Int.log 2 ((delta : ℚ) / 1000000) < 34
  · exact quotient_late few step short
  · obtain ⟨positive,_⟩ := log_late few step
    have long : ((2 : ℕ) : ℚ) ^ (34 : ℤ) ≤ (delta : ℚ) / 1000000 :=
      (Int.zpow_le_iff_le_log one_lt_two positive).mpr (not_lt.mp short)
    have seconds : (2 : ℚ) ^ 34 ≤ Double.round ((delta : ℚ) / 1000000) :=
      Double.le_round ⟨1,34,by norm_num,by decide,by norm_num⟩ (by exact_mod_cast long)
    have rounded : (9162596897 / 32 : ℚ) ≤
        Double.round (Double.round ((delta : ℚ) / 1000000) / 60) := by
      refine Double.le_round ⟨9162596897,-5,by norm_num,by decide,by norm_num⟩ ?_
      linarith
    have bound : (window : ℚ) ≤ 286331153 := by exact_mod_cast within
    change _ < Double.round (Double.round ((delta : ℚ) / 1000000) / 60)
    linarith

theorem totalMinutes_early {window delta : ℤ} (few : 0 ≤ window) (within : window ≤ exactWindow)
    (early : delta ≤ minutes window) : totalMinutes Double.round delta ≤ window := by
  have step : (delta : ℚ) / 1000000 ≤ (60 * window : ℤ) := by
    have less : (delta : ℚ) ≤ window * 60000000 := by exact_mod_cast early
    push_cast
    linarith
  unfold exactWindow at within
  have seconds := Double.round_le
    (Double.held_int (abs_le.mpr ⟨by omega,by omega⟩ : |60 * window| ≤ 2 ^ 53)) step
  refine Double.round_le (Double.held_int (abs_le.mpr ⟨by omega,by omega⟩)) ?_
  push_cast at seconds
  linarith

theorem windowOpen_iff {settings : Settings} (few : 0 ≤ settings.dispatchWindowMinutes)
    (within : settings.dispatchWindowMinutes ≤ exactWindow) (predictedReadyAt now : ℤ) :
    WindowOpen settings predictedReadyAt now ↔
      predictedReadyAt - now ≤ minutes settings.dispatchWindowMinutes := by
  constructor
  · intro opened
    by_contra late
    exact absurd opened (not_le.mpr (totalMinutes_late few within (not_le.mp late)))
  · exact totalMinutes_early few within

end PrepEstimator
end FoodDispatch
