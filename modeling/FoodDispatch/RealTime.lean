import FoodDispatch.PrepEstimator

/-! The gate in real time, in exact arithmetic. Adding the prep time moves the wall
clock of one zone, and a difference is taken on wall clocks or on instants, so what
the estimator computes is real time exactly when the offset it passes over did not
change and the clocks it moves to are those of a datetime. -/
namespace FoodDispatch
namespace Datetime

def aware (zone : TzInfo) (wall : ℤ) (fold : Bool) : Datetime := ⟨wall,fold,some zone⟩

/-- The real time between two datetimes. -/
def elapsed (first second : Datetime) : ℤ := second.instant - first.instant

end Datetime

namespace PrepEstimator
open Datetime

/-- The gate opens, and the remaining minutes count, by the real time since `createdAt`. -/
structure CountsRealTime (settings : Settings) (createdAt now predictedReadyAt : Datetime) : Prop
    where
  gate : isWithinDispatchWindow id settings predictedReadyAt now = .ok (decide
    (minutes (prepMinutes settings - settings.dispatchWindowMinutes) ≤ createdAt.elapsed now))
  remaining : minutesUntilReady id predictedReadyAt now =
    .ok (prepMinutes settings - totalMinutes id (createdAt.elapsed now))

/-- The two ends of the difference that the estimator takes on a wall clock have
one offset: creation and `now` under one tzinfo object, else creation and the
predicted time. -/
def OffsetKept (settings : Settings) (zone other : TzInfo) (createdAt now : ℤ) (fold nowFold : Bool) :
    Prop :=
  if zone.ident = other.ident then zone.utcoffset createdAt fold = other.utcoffset now nowFold
  else zone.utcoffset (createdAt + minutes (prepMinutes settings)) false =
    zone.utcoffset createdAt fold

section
variable (settings : Settings) (zone other : TzInfo) (createdAt now : ℤ) (fold nowFold : Bool)

/-- What `predicted_ready_at - now` comes to. -/
def remainingDelta : ℤ :=
  if zone.ident = other.ident then createdAt + minutes (prepMinutes settings) - now
  else (createdAt + minutes (prepMinutes settings) -
    zone.utcoffset (createdAt + minutes (prepMinutes settings)) false) -
      (now - other.utcoffset now nowFold)

theorem totalMinutes_exact (delta : ℤ) : totalMinutes id delta = delta / 60000000 := by
  change (delta : ℚ) / 1000000 / 60 = delta / 60000000
  linarith

theorem totalMinutes_le (delta count : ℤ) :
    totalMinutes id delta ≤ count ↔ delta ≤ minutes count := by
  have scaled : totalMinutes id delta ≤ count ↔ (delta : ℚ) ≤ count * 60000000 := by
    rw [totalMinutes_exact]
    constructor <;> intro bound <;> linarith
  rw [scaled,minutes]
  exact_mod_cast Iff.rfl

theorem minutesUntilReady_aware :
    minutesUntilReady id (aware zone (createdAt + minutes (prepMinutes settings)) false)
      (aware other now nowFold) =
        .ok (totalMinutes id (remainingDelta settings zone other createdAt now nowFold)) := by
  unfold minutesUntilReady remainingDelta
  simp only [aware,Datetime.sub]
  split <;> rfl

theorem isWithinDispatchWindow_aware :
    isWithinDispatchWindow id settings (aware zone (createdAt + minutes (prepMinutes settings)) false)
      (aware other now nowFold) = .ok (decide
        (remainingDelta settings zone other createdAt now nowFold ≤
          minutes settings.dispatchWindowMinutes)) := by
  rw [isWithinDispatchWindow,minutesUntilReady_aware]
  exact congrArg Except.ok (decide_eq_decide.mpr (totalMinutes_le _ _))

theorem elapsed_aware : (aware zone createdAt fold).elapsed (aware other now nowFold) =
    (now - other.utcoffset now nowFold) - (createdAt - zone.utcoffset createdAt fold) := rfl

theorem remainingDelta_iff :
    remainingDelta settings zone other createdAt now nowFold =
        minutes (prepMinutes settings) -
          (aware zone createdAt fold).elapsed (aware other now nowFold) ↔
      OffsetKept settings zone other createdAt now fold nowFold := by
  rw [elapsed_aware]
  unfold remainingDelta OffsetKept
  split <;> constructor <;> intro same <;> omega

theorem totalMinutes_sub (count delta : ℤ) :
    totalMinutes id (minutes count - delta) = count - totalMinutes id delta := by
  rw [totalMinutes_exact,totalMinutes_exact,minutes]
  push_cast
  linarith

theorem totalMinutes_inj {first second : ℤ} :
    totalMinutes id first = totalMinutes id second ↔ first = second := by
  rw [totalMinutes_exact,totalMinutes_exact]
  constructor
  · intro same
    have equal : (first : ℚ) = second := by linarith
    exact_mod_cast equal
  · intro same
    rw [same]

/-- The estimator counts real time exactly when the predicted time is that of a
datetime and the offset is kept. -/
theorem countsRealTime_iff :
    (∃ predictedReadyAt,
      compute settings (aware zone createdAt fold) = .ok predictedReadyAt ∧
        CountsRealTime settings (aware zone createdAt fold) (aware other now nowFold)
          predictedReadyAt) ↔
      ReadyInRange settings createdAt ∧
        OffsetKept settings zone other createdAt now fold nowFold := by
  have computes : compute settings (aware zone createdAt fold) = _ :=
    compute_aware settings zone createdAt fold
  rw [← remainingDelta_iff settings zone other createdAt now fold nowFold,computes]
  by_cases range : ReadyInRange settings createdAt
  · rw [if_pos range]
    constructor
    · rintro ⟨predictedReadyAt,computed,counts⟩
      cases computed
      have remaining : minutesUntilReady id (aware zone (createdAt + minutes (prepMinutes settings))
          false) (aware other now nowFold) = _ := counts.remaining
      rw [minutesUntilReady_aware,← totalMinutes_sub] at remaining
      exact ⟨range,totalMinutes_inj.mp (Except.ok.inj remaining)⟩
    · rintro ⟨_,same⟩
      refine ⟨aware zone (createdAt + minutes (prepMinutes settings)) false,rfl,?_,?_⟩
      · rw [isWithinDispatchWindow_aware,same]
        apply congrArg Except.ok
        apply decide_eq_decide.mpr
        unfold minutes
        omega
      · rw [minutesUntilReady_aware,same,totalMinutes_sub]
  · rw [if_neg range]
    constructor
    · rintro ⟨_,computed,_⟩
      contradiction
    · intro condition
      exact absurd condition.1 range

end

/-- One hour ahead of UTC, and two from 02:00 on. -/
def springForward : TzInfo where
  ident := 1
  utcoffset wall _ := if wall < minutes 120 then minutes 60 else minutes 120
  bounded wall _ := by split <;> decide

/-- An order of 01:59 is dispatched two minutes later, at 03:01. -/
theorem springForward_opens_early :
    ¬∀ (settings : Settings) (zone other : TzInfo) (createdAt now : ℤ) (fold nowFold : Bool),
      ∃ predictedReadyAt, compute settings (aware zone createdAt fold) = .ok predictedReadyAt ∧
        CountsRealTime settings (aware zone createdAt fold) (aware other now nowFold)
          predictedReadyAt := by
  intro claimed
  obtain ⟨_,computed,counts⟩ :=
    claimed {} springForward springForward (minutes 119) (minutes 181) false false
  have computes : compute {} (aware springForward (minutes 119) false) =
      .ok (aware springForward (minutes 119 + minutes (prepMinutes {})) false) :=
    (compute_aware {} springForward (minutes 119) false).trans (if_pos (by decide +kernel))
  cases computes.symm.trans computed
  have gate := counts.gate
  rw [isWithinDispatchWindow_aware] at gate
  have opens : remainingDelta {} springForward springForward (minutes 119) (minutes 181) false ≤
      minutes 10 := by
    decide +kernel
  have early : ¬minutes 8 ≤ (aware springForward (minutes 119) false).elapsed
      (aware springForward (minutes 181) false) := by
    decide +kernel
  exact early (of_decide_eq_true ((Except.ok.inj gate).symm.trans (decide_eq_true opens)))

end PrepEstimator
end FoodDispatch
