import Mathlib.Data.Rat.Defs

/-! The parts of Python the program is written in: exceptions, doubles with
their special values, and datetimes. Instants and intervals are integers that
count microseconds. -/
namespace FoodDispatch

inductive PyException where
  | attributeError
  | typeError
  | keyError
  | indexError
  | valueError (text : String)
  | overflowError
  | validationError
  | integrityError
  | other (name : String)
  deriving DecidableEq

inductive Double where
  | finite (value : ℚ)
  | posInf
  | negInf
  | nan
  deriving DecidableEq

namespace Double

/-- `first < second`; every comparison with a NaN is false. -/
def lt : Double → Double → Bool
  | .finite first, .finite second => decide (first < second)
  | .finite _, .posInf => true
  | .negInf, .finite _ => true
  | .negInf, .posInf => true
  | _, _ => false

/-- `first <= second`. -/
def le (first second : Double) : Bool := first.lt second || (first = second && first ≠ .nan)

end Double

def minutes (count : ℤ) : ℤ := count * 60000000

def days (count : ℤ) : ℤ := minutes (count * 1440)

/-- The days of a timedelta have nine digits at most. -/
def TimedeltaRange (delta : ℤ) : Prop := days (-999999999) ≤ delta ∧ delta < days 1000000000

instance (delta : ℤ) : Decidable (TimedeltaRange delta) := inferInstanceAs (Decidable (_ ∧ _))

/-- `timedelta(minutes=count)`. -/
def timedelta (count : ℤ) : Except PyException ℤ :=
  if TimedeltaRange (minutes count) then .ok (minutes count) else .error .overflowError

/-- `delta.total_seconds() / 60.0`, both of whose quotients are rounded by `round`. -/
def totalMinutes (round : ℚ → ℚ) (delta : ℤ) : ℚ := round (round ((delta : ℚ) / 1000000) / 60)

/-- A tzinfo object: `ident` is its identity, and the offset, which is less than a
day, is a function of the wall clock and of the fold flag. -/
structure TzInfo where
  ident : ℕ
  utcoffset : ℤ → Bool → ℤ
  bounded : ∀ wall fold, days (-1) < utcoffset wall fold ∧ utcoffset wall fold < days 1

def TzInfo.utc : TzInfo := ⟨0,fun _ _ => 0,fun _ _ => by decide⟩

structure Datetime where
  wall : ℤ
  fold : Bool
  tzinfo : Option TzInfo

namespace Datetime

def utc (time : ℤ) : Datetime := ⟨time,false,some TzInfo.utc⟩

def instant (datetime : Datetime) : ℤ :=
  match datetime.tzinfo with
  | none => datetime.wall
  | some zone => datetime.wall - zone.utcoffset datetime.wall datetime.fold

/-- The wall clocks of the years 1 to 9999. -/
def WallRange (wall : ℤ) : Prop := -62135596800000000 ≤ wall ∧ wall < 253402300800000000

instance (wall : ℤ) : Decidable (WallRange wall) := inferInstanceAs (Decidable (_ ∧ _))

def addDelta (datetime : Datetime) (delta : ℤ) : Except PyException Datetime :=
  if WallRange (datetime.wall + delta) then .ok ⟨datetime.wall + delta,false,datetime.tzinfo⟩
  else .error .overflowError

def subDelta (datetime : Datetime) (delta : ℤ) : Except PyException Datetime :=
  datetime.addDelta (-delta)

/-- `first - second`: wall clocks under one tzinfo object, instants otherwise. -/
def sub (first second : Datetime) : Except PyException ℤ :=
  match first.tzinfo, second.tzinfo with
  | none, none => .ok (first.wall - second.wall)
  | some left, some right =>
    if left.ident = right.ident then .ok (first.wall - second.wall)
    else .ok ((first.wall - left.utcoffset first.wall first.fold) -
      (second.wall - right.utcoffset second.wall second.fold))
  | _, _ => .error .typeError

@[simp] theorem sub_utc (first second : ℤ) :
    (utc first).sub (utc second) = .ok (first - second) := by
  simp [sub,utc]

@[simp] theorem instant_utc (time : ℤ) : (utc time).instant = time := by
  simp [instant,utc,TzInfo.utc]

end Datetime
end FoodDispatch
