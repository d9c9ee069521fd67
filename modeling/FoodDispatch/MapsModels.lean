import FoodDispatch.Json
import Mathlib.Algebra.Order.Field.Rat

/-! The value objects of the Maps client: coordinate pairs that were validated
when they were built, the two status words, and the result of one call. -/
namespace FoodDispatch

/-- What the bounds of a `Field(ge=low, le=high)` let through; a NaN is not between them. -/
def inField (low high : ℚ) (value : Double) : Bool :=
  Double.le (.finite low) value && value.le (.finite high)

structure LatLng where
  lat : Double
  lng : Double
  latitude : inField (-90) 90 lat = true
  longitude : inField (-180) 180 lng = true
  deriving DecidableEq

namespace LatLng

/-- `LatLng(lat=lat, lng=lng)`. -/
def build : Option Double → Option Double → Except PyException LatLng
  | some lat, some lng =>
    if latitude : inField (-90) 90 lat = true then
      if longitude : inField (-180) 180 lng = true then .ok ⟨lat,lng,latitude,longitude⟩
      else .error .validationError
    else .error .validationError
  | _, _ => .error .validationError

def accepts (lat lng : Option Double) : Bool := (build lat lng).isOk

theorem accepts_of {lat lng : Double} (latitude : inField (-90) 90 lat = true)
    (longitude : inField (-180) 180 lng = true) : accepts (some lat) (some lng) = true := by
  simp [accepts,build,latitude,longitude,Except.isOk,Except.toBool]

theorem build_of_accepts {lat lng : Option Double} (accepted : accepts lat lng = true) :
    ∃ point, build lat lng = .ok point := by
  unfold accepts at accepted
  cases built : build lat lng with
  | error error => simp [built,Except.isOk,Except.toBool] at accepted
  | ok point => exact ⟨point,rfl⟩

theorem build_of_rejects {lat lng : Option Double} (rejected : accepts lat lng = false) :
    build lat lng = .error .validationError := by
  unfold accepts at rejected
  unfold build at rejected ⊢
  split at rejected
  next lat lng =>
    split_ifs at rejected ⊢
    · simp [Except.isOk,Except.toBool] at rejected
    · rfl
    · rfl
  next => rfl

end LatLng

def DistanceMatrixStatus.OK : String := "OK"

def ElementStatus.OK : String := "OK"

inductive FailureReason where
  | text (text : String)
  | withText (text : String) (value : String)
  | withInt (text : String) (value : ℤ)
  | withJson (text : String) (value : Json)

structure RouteETAResult where
  ok : Bool
  durationSeconds : Option ℤ
  distanceMeters : Option ℤ
  failureReason : Option FailureReason

namespace RouteETAResult

def success (durationSeconds distanceMeters : ℤ) : RouteETAResult :=
  ⟨true,some durationSeconds,some distanceMeters,none⟩

def failure (reason : FailureReason) : RouteETAResult := ⟨false,none,none,some reason⟩

def fitsDouble (value : ℤ) : Bool := value.natAbs < 2 ^ 1024 - 2 ^ 970

/-- `duration_seconds / 60.0`, which converts the integer to a double first. -/
def durationMinutes (result : RouteETAResult) : Except PyException (Option ℚ) :=
  match result.durationSeconds with
  | none => .ok none
  | some seconds => if fitsDouble seconds then .ok (some (seconds / 60)) else .error .overflowError

theorem durationMinutes_success {seconds : ℤ} (meters : ℤ) (fits : fitsDouble seconds = true) :
    (success seconds meters).durationMinutes = .ok (some (seconds / 60)) := by
  simp only [durationMinutes,success,fits,if_true]

theorem durationMinutes_ok {result : RouteETAResult} {etaMinutes : ℚ}
    (found : result.durationMinutes = .ok (some etaMinutes)) :
    ∃ seconds, result.durationSeconds = some seconds ∧ etaMinutes = seconds / 60 := by
  unfold durationMinutes at found
  cases stated : result.durationSeconds with
  | none =>
    rw [stated] at found
    simp at found
  | some seconds =>
    rw [stated] at found
    dsimp only at found
    cases fits : fitsDouble seconds with
    | true =>
      rw [fits] at found
      cases found
      exact ⟨seconds,rfl,rfl⟩
    | false =>
      rw [fits] at found
      simp at found

theorem durationMinutes_error {result : RouteETAResult} {error : PyException}
    (raised : result.durationMinutes = .error error) : error = .overflowError := by
  unfold durationMinutes at raised
  cases stated : result.durationSeconds with
  | none =>
    rw [stated] at raised
    contradiction
  | some seconds =>
    rw [stated] at raised
    dsimp only at raised
    cases fits : fitsDouble seconds with
    | true =>
      rw [fits] at raised
      contradiction
    | false =>
      rw [fits] at raised
      cases raised
      rfl

end RouteETAResult
end FoodDispatch
