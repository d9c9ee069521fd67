import FoodDispatch.Calls
import FoodDispatch.Library.Rounding
import FoodDispatch.PrepEstimator
import Mathlib.Data.List.Sort
import Mathlib.Data.Rat.Floor

/-! The scoring engine: candidates are scored over Maps calls, sorted, and tried
in turn until one of them can be locked. -/
namespace FoodDispatch
open Library
open Library.Program (perform raise lift)

/-- `get_candidates`, in the session that `assign_best_driver` opens for it. -/
def getCandidates (settings : Settings) (order : UUID) : Program (List Driver) := do
  let now : ℤ ← perform (Call.now (.staleCutoff order))
  let staleCutoff ← lift
    ((timedelta settings.driverStaleThresholdMinutes).bind (Datetime.utc now).subDelta)
  perform (Call.selectCandidates order staleCutoff.instant)

/-- The stale threshold is a timedelta, and so long before `now` there is a datetime. -/
def CutoffInRange (settings : Settings) (now : ℤ) : Prop :=
  TimedeltaRange (minutes settings.driverStaleThresholdMinutes) ∧
    Datetime.WallRange (now - minutes settings.driverStaleThresholdMinutes)

instance (settings : Settings) (now : ℤ) : Decidable (CutoffInRange settings now) :=
  inferInstanceAs (Decidable (_ ∧ _))

theorem staleCutoff_utc (settings : Settings) (now : ℤ) :
    (timedelta settings.driverStaleThresholdMinutes).bind (Datetime.utc now).subDelta =
      if CutoffInRange settings now then
        .ok (.utc (now - minutes settings.driverStaleThresholdMinutes))
      else .error .overflowError := by
  unfold timedelta
  by_cases delta : TimedeltaRange (minutes settings.driverStaleThresholdMinutes)
  · rw [if_pos delta]
    change (if Datetime.WallRange (now - minutes settings.driverStaleThresholdMinutes) then _ else _) = _
    by_cases wall : Datetime.WallRange (now - minutes settings.driverStaleThresholdMinutes)
    · rw [if_pos wall,if_pos ⟨delta,wall⟩]
      rfl
    · rw [if_neg wall,if_neg (fun range : CutoffInRange settings now => wall range.2)]
  · rw [if_neg delta,if_neg (fun range : CutoffInRange settings now => delta range.1)]
    rfl

/-- `getCandidates` after its reading of the clock. -/
def candidatesAt (settings : Settings) (order : UUID) (now : ℤ) : Program (List Driver) :=
  if CutoffInRange settings now then
    perform (Call.selectCandidates order (now - minutes settings.driverStaleThresholdMinutes))
  else raise .overflowError

theorem getCandidates_at (settings : Settings) (order : UUID) :
    getCandidates settings order =
      perform (Call.now (.staleCutoff order)) >>= candidatesAt settings order := by
  unfold getCandidates candidatesAt
  simp only [staleCutoff_utc]
  congr 1
  funext now
  split
  · change perform (Call.selectCandidates order (Datetime.instant _)) = _
    rw [Datetime.instant_utc]
  · rfl

namespace ScoringEngine

def earlyPenaltyWeight : ℚ := 1 / 2

def latePenaltyWeight : ℚ := 2

structure ScoredCandidate where
  driver : Driver
  etaMinutes : ℚ
  score : ℚ

/-- `_compute_score`, in exact arithmetic. -/
def computeScore (etaMinutes : ℚ) (now predictedReadyAt : ℤ) : ℚ :=
  let minutesUntilReady := totalMinutes id (predictedReadyAt - now)
  let arrivalDelta := minutesUntilReady - etaMinutes
  let minutesEarly := max 0 arrivalDelta
  let minutesLate := max 0 (-arrivalDelta)
  let score := etaMinutes + earlyPenaltyWeight * minutesEarly + latePenaltyWeight * minutesLate
  roundDecimals 4 score

/-- One turn of the loop of `_score_candidates`; `none` is `continue`. -/
def scoreDriver (order : Order) (now : ℤ) (destination : LatLng) (driver : Driver) :
    Program (Option ScoredCandidate) := do
  let origin ← lift (LatLng.build driver.currentLat driver.currentLng)
  let etaResult : RouteETAResult ← perform (Call.getDrivingEta order.id driver.id origin destination)
  if etaResult.ok then
    match ← lift etaResult.durationMinutes with
    | none => raise .typeError
    | some etaMinutes =>
      return some ⟨driver,etaMinutes,computeScore etaMinutes now order.predictedReadyAt⟩
  else return none

def scoreEach (order : Order) (now : ℤ) (destination : LatLng) :
    List Driver → Program (List ScoredCandidate)
  | [] => return []
  | driver::rest => do
    let scored ← scoreDriver order now destination driver
    let others ← scoreEach order now destination rest
    return scored.toList ++ others

def scoreCandidates (order : Order) (candidates : List Driver) :
    Program (List ScoredCandidate) := do
  let now : ℤ ← perform (Call.now (.score order.id))
  let destination ← lift (LatLng.build (some order.restaurantLat) (some order.restaurantLng))
  scoreEach order now destination candidates

/-- `scored.sort()`, which is stable. -/
def sorted (scored : List ScoredCandidate) : List ScoredCandidate :=
  scored.insertionSort (fun first second => first.score ≤ second.score)

def tryCandidates (order : Order) : List ScoredCandidate → Program Bool
  | [] => return false
  | candidate::rest => do
    let assigned : Bool ← perform (Call.attemptAtomicAssignment order.id candidate.driver.id)
    if assigned then return true else tryCandidates order rest

/-- `assign_best_driver` once its candidates are known. -/
def assignAmong (order : Order) (candidates : List Driver) : Program Bool :=
  if candidates.isEmpty then return false else do
    let scored ← scoreCandidates order candidates
    if scored.isEmpty then return false else tryCandidates order (sorted scored)

def assignBestDriver (settings : Settings) (order : Order) : Program Bool := do
  let candidates ← getCandidates settings order.id
  assignAmong order candidates

/-- Between two driving times the score rises at least half as fast as the time:
before the ready time an early penalty is saved, after it a late one is added. -/
theorem slope_half {first second : ℚ} (ready : ℚ) (shorter : first ≤ second) :
    (second - first) / 2 ≤
      (second + earlyPenaltyWeight * max 0 (ready - second) +
        latePenaltyWeight * max 0 (-(ready - second))) -
      (first + earlyPenaltyWeight * max 0 (ready - first) +
        latePenaltyWeight * max 0 (-(ready - first))) := by
  unfold earlyPenaltyWeight latePenaltyWeight
  rcases le_total second ready with early | late
  · have firstEarly : first ≤ ready := shorter.trans early
    rw [max_eq_right (sub_nonneg.mpr early),max_eq_left (by linarith : -(ready - second) ≤ 0),
      max_eq_right (sub_nonneg.mpr firstEarly),max_eq_left (by linarith : -(ready - first) ≤ 0)]
    linarith
  · rw [max_eq_left (by linarith : ready - second ≤ 0),
      max_eq_right (by linarith : 0 ≤ -(ready - second))]
    rcases le_total first ready with firstEarly | firstLate
    · rw [max_eq_right (sub_nonneg.mpr firstEarly),
        max_eq_left (by linarith : -(ready - first) ≤ 0)]
      linarith
    · rw [max_eq_left (by linarith : ready - first ≤ 0),
        max_eq_right (by linarith : 0 ≤ -(ready - first))]
      linarith

theorem computeScore_lt {first second : ℤ} (now predictedReadyAt : ℤ) (shorter : first < second) :
    computeScore (first / 60) now predictedReadyAt <
      computeScore (second / 60) now predictedReadyAt := by
  have seconds : (first : ℚ) + 1 ≤ second := by exact_mod_cast shorter
  have rises := slope_half (totalMinutes id (predictedReadyAt - now))
    (by linarith : (first : ℚ) / 60 ≤ second / 60)
  unfold computeScore
  apply roundDecimals_lt
  linarith

/-- Within one order, ranking by score is ranking by driving time. -/
theorem computeScore_ranks (now predictedReadyAt first second : ℤ) :
    (computeScore (first / 60) now predictedReadyAt <
        computeScore (second / 60) now predictedReadyAt ↔ first < second) ∧
      (computeScore (first / 60) now predictedReadyAt =
        computeScore (second / 60) now predictedReadyAt ↔ first = second) := by
  rcases lt_trichotomy first second with shorter | rfl | longer
  · have scores := computeScore_lt now predictedReadyAt shorter
    exact ⟨iff_of_true scores shorter,iff_of_false scores.ne shorter.ne⟩
  · exact ⟨iff_of_false (lt_irrefl _) (lt_irrefl _),iff_of_true rfl rfl⟩
  · have scores := computeScore_lt now predictedReadyAt longer
    exact ⟨iff_of_false scores.not_gt longer.not_gt,iff_of_false scores.ne' longer.ne'⟩

end ScoringEngine
end FoodDispatch
