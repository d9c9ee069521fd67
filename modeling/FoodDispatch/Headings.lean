import FoodDispatch.Library.Bounce
import FoodDispatch.MockDrivers

/-! How long a simulated driver keeps its heading. On either axis it crosses the whole
city before it turns round again, whatever it draws and however its floats are rounded. -/
namespace FoodDispatch.MockDrivers
open Library
open Double (finite)

/-- The jitter is drawn between 0.30 and 1.00, up to its rounding. -/
theorem uniform_bounds (random : Random) :
    ∃ jitter, uniform (.ofRat (30 / 100)) (.ofRat 1) random = finite jitter ∧
      1 / 4 ≤ jitter ∧ jitter ≤ 1 + 2 ^ (-50 : ℤ) := by
  have low : Double.ofRat (30 / 100) = finite (5404319552844595 / 18014398509481984) := by
    decide +kernel
  have one : Double.ofRat 1 = finite 1 := by decide +kernel
  have width : (finite 1).add (finite (5404319552844595 / 18014398509481984)).neg =
      finite (3152519739159347 / 4503599627370496) := by decide +kernel
  have nonneg := random.nonneg
  have below := random.below
  have product : |3152519739159347 / 4503599627370496 * random.value| < 2 ^ (0 : ℤ) := by
    rw [abs_of_nonneg (by positivity)]
    norm_num
    linarith
  obtain ⟨part,scaled,near⟩ := Double.ofRat_near product (by norm_num) (by norm_num)
  rw [abs_le] at near
  norm_num at near
  have total : |5404319552844595 / 18014398509481984 + part| < 2 ^ (1 : ℤ) := by
    rw [abs_lt]
    norm_num
    constructor <;> linarith
  obtain ⟨jitter,summed,close⟩ := Double.ofRat_near total (by norm_num) (by norm_num)
  rw [abs_le] at close
  norm_num at close
  refine ⟨jitter,?_,by linarith,by norm_num; linarith⟩
  unfold uniform
  rw [low,one,width]
  unfold Double.mul Double.add
  dsimp only
  rw [scaled]
  exact summed

/-- The change of place that a move asks for points ahead and is hardly longer than
the largest displacement. -/
theorem proposed_ahead {delta place jitter : ℚ} {up : Bool}
    (directed : (finite delta).mul (heading up) = finite (if up then delta else -delta))
    (short : 1 / 2000 ≤ delta ∧ delta ≤ 1 / 500) (here : -60 ≤ place ∧ place ≤ 60)
    (drawn : 1 / 4 ≤ jitter ∧ jitter ≤ 1 + 2 ^ (-50 : ℤ)) :
    ∃ next, (finite place).add (((finite delta).mul (heading up)).mul (finite jitter)) = finite next ∧
      Bouncing.Ahead (delta + 2 ^ (-46 : ℤ)) ⟨place,up⟩ next := by
  norm_num at drawn
  have least : delta / 4 ≤ delta * jitter := by nlinarith
  have most : delta * jitter ≤ delta + 2 ^ (-58 : ℤ) := by
    norm_num
    nlinarith
  norm_num at most
  have product : |(if up then delta else -delta) * jitter| < 2 ^ (0 : ℤ) := by
    rw [abs_lt]
    cases up <;> norm_num <;> constructor <;> linarith
  obtain ⟨change,scaled,near⟩ := Double.ofRat_near product (by norm_num) (by norm_num)
  have total : |place + change| < 2 ^ (6 : ℤ) := by
    rw [abs_le] at near
    rw [abs_lt]
    norm_num at near ⊢
    cases up <;> norm_num at near <;> constructor <;> linarith
  obtain ⟨next,summed,close⟩ := Double.ofRat_near total (by norm_num) (by norm_num)
  refine ⟨next,?_,?_⟩
  · rw [directed]
    unfold Double.mul Double.add
    dsimp only
    rw [scaled]
    exact summed
  · rw [abs_le] at near close
    unfold Bouncing.Ahead
    norm_num at near close ⊢
    cases up <;> norm_num at near ⊢ <;> constructor <;> linarith

theorem heading_turned (up : Bool) : (heading up).mul (finite (-1)) = heading !up := by
  cases up <;> decide +kernel

/-- A move along an axis is a step of a point that bounces between its bounds. -/
theorem moveAxis_step {low high delta place : ℚ} {up : Bool} (random : Random)
    (directed : (finite delta).mul (heading up) = finite (if up then delta else -delta))
    (short : 1 / 2000 ≤ delta ∧ delta ≤ 1 / 500) (bounds : -60 ≤ low ∧ high ≤ 60)
    (inside : low ≤ place ∧ place ≤ high) :
    ∃ turn next, moveAxis (finite low) (finite high) (finite delta) (finite place) (heading up)
        (uniform (.ofRat (30 / 100)) (.ofRat 1) random) =
          (finite next.place,heading next.up) ∧
      Bouncing.Step low high (delta + 2 ^ (-46 : ℤ)) ⟨place,up⟩ turn next := by
  obtain ⟨jitter,drawn,limits⟩ := uniform_bounds random
  obtain ⟨moved,summed,ahead⟩ := proposed_ahead directed short
    ⟨bounds.1.trans inside.1,inside.2.trans bounds.2⟩ limits
  rw [drawn]
  unfold moveAxis
  rw [summed]
  by_cases within : low ≤ moved ∧ moved ≤ high
  · exact ⟨false,⟨moved,up⟩,by simp [within],.on ahead within⟩
  · refine ⟨true,⟨max low (min high moved),!up⟩,?_,.turn ahead within⟩
    simp [heading_turned,within]

inductive Axis where
  | lat
  | lng

namespace Axis

def low : Axis → Double
  | .lat => latMin
  | .lng => lngMin

def high : Axis → Double
  | .lat => latMax
  | .lng => lngMax

def delta : Axis → Double
  | .lat => deltaLat
  | .lng => deltaLng

def place (state : Motion) : Axis → Double
  | .lat => state.lat
  | .lng => state.lng

def direction (state : Motion) : Axis → Double
  | .lat => state.latDir
  | .lng => state.lngDir

def jitter (draws : Draws) : Axis → Random
  | .lat => draws.jitterLat
  | .lng => draws.jitterLng

/-- As many moves as fit into the box at their longest. -/
def span : Axis → ℕ
  | .lat => 59
  | .lng => 74

/-- The bounds and the largest displacement of the axis, as rationals. -/
structure Numbers (axis : Axis) (low high delta : ℚ) : Prop where
  lowest : axis.low = finite low
  highest : axis.high = finite high
  displacement : axis.delta = finite delta
  short : 1 / 2000 ≤ delta ∧ delta ≤ 1 / 500
  bounds : -60 ≤ low ∧ low ≤ high ∧ high ≤ 60
  fits : axis.span * (delta + 2 ^ (-46 : ℤ)) ≤ high - low
  directed : ∀ up, (finite delta).mul (heading up) = finite (if up then delta else -delta)

theorem numbers (axis : Axis) : ∃ low high delta, axis.Numbers low high delta := by
  cases axis with
  | lat => exact ⟨5969802781056303 / 140737488355328,5977402605427491 / 140737488355328,
      4150517416584649 / 4611686018427387904,by decide +kernel,by decide +kernel,by decide +kernel,
      by norm_num,by norm_num,by norm_num [span],by decide +kernel⟩
  | lng => exact ⟨2705678213631181 / 140737488355328,5436689175166321 / 281474976710656,
      5534023222112865 / 4611686018427387904,by decide +kernel,by decide +kernel,by decide +kernel,
      by norm_num,by norm_num,by norm_num [span],by decide +kernel⟩

end Axis

/-- The draws make the driver move, and not pause. -/
def Draws.moves (draws : Draws) : Bool :=
  !(Double.finite draws.pause.value).lt pauseProbability

theorem advance_paused {draws : Draws} (paused : draws.moves = false) (state : Motion) (axis : Axis) :
    axis.place (advance draws state) = axis.place state ∧
      axis.direction (advance draws state) = axis.direction state := by
  have stays : (Double.finite draws.pause.value).lt pauseProbability = true := by
    simpa [Draws.moves] using paused
  unfold advance
  rw [if_pos stays]
  cases axis <;> exact ⟨rfl,rfl⟩

theorem advance_moved {draws : Draws} (moves : draws.moves = true) (state : Motion) (axis : Axis) :
    (axis.place (advance draws state),axis.direction (advance draws state)) =
      moveAxis axis.low axis.high axis.delta (axis.place state) (axis.direction state)
        (uniform (.ofRat (30 / 100)) (.ofRat 1) (axis.jitter draws)) := by
  have goes : ¬(Double.finite draws.pause.value).lt pauseProbability = true := by
    simpa [Draws.moves] using moves
  unfold advance
  rw [if_neg goes]
  cases axis <;> rfl

/-- The driver as a point on the axis. -/
structure Axis.At (axis : Axis) (state : Motion) (point : Bouncing ℚ) : Prop where
  place : axis.place state = finite point.place
  direction : axis.direction state = heading point.up

section Journey
variable {axis : Axis} {low high delta : ℚ} {state : Motion} {point : Bouncing ℚ}

theorem advance_step {draws : Draws} (numbers : axis.Numbers low high delta)
    (here : axis.At state point) (inside : low ≤ point.place ∧ point.place ≤ high)
    (moves : draws.moves = true) :
    ∃ turn next, Bouncing.Step low high (delta + 2 ^ (-46 : ℤ)) point turn next ∧
      axis.At (advance draws state) next := by
  have moved := advance_moved moves state axis
  rw [numbers.lowest,numbers.highest,numbers.displacement,here.place,here.direction] at moved
  obtain ⟨turn,next,computed,step⟩ := moveAxis_step (axis.jitter draws)
    (numbers.directed point.up) numbers.short ⟨numbers.bounds.1,numbers.bounds.2.2⟩ inside
  rw [computed] at moved
  obtain ⟨place,direction⟩ := Prod.mk.inj moved
  exact ⟨turn,next,step,place,direction⟩

def journey (draws : List Draws) (state : Motion) : Motion :=
  draws.foldl (fun state draws => advance draws state) state

theorem journey_steps (numbers : axis.Numbers low high delta)
    (here : axis.At state point) (inside : low ≤ point.place ∧ point.place ≤ high)
    (draws : List Draws) :
    ∃ turns next, turns.length = draws.countP Draws.moves ∧
      Traced (Bouncing.Step low high (delta + 2 ^ (-46 : ℤ))) point turns next ∧
      axis.At (journey draws state) next := by
  induction draws generalizing state point with
  | nil => exact ⟨[],point,rfl,.nil,here⟩
  | cons first rest ih =>
    cases moves : first.moves with
    | true =>
      obtain ⟨turn,middle,step,there⟩ := advance_step numbers here inside moves
      obtain ⟨turns,next,length,run,final⟩ := ih there (step.inside numbers.bounds.2.1)
      exact ⟨turn::turns,next,by simp [moves,length],run.cons step,final⟩
    | false =>
      obtain ⟨place,direction⟩ := advance_paused moves state axis
      obtain ⟨turns,next,length,run,final⟩ :=
        ih ⟨place.trans here.place,direction.trans here.direction⟩ inside
      exact ⟨turns,next,by simp [moves,length],run,final⟩

end Journey

/-- The driver is inside the box, and heads one way or the other on both axes. -/
def Motion.Underway (state : Motion) : Prop :=
  InBox state.lat state.lng ∧ ∀ axis : Axis, ∃ up, axis.direction state = heading up

/-- After it has turned round on an axis, a driver keeps its heading there for as many
moves as it takes to cross the city at least. -/
theorem heading_kept {state : Motion} (underway : state.Underway) (axis : Axis) {first : Draws}
    (turned : axis.direction (advance first state) ≠ axis.direction state) {later : List Draws}
    (few : later.countP Draws.moves ≤ axis.span) :
    axis.direction (journey later (advance first state)) = axis.direction (advance first state) := by
  obtain ⟨low,high,delta,numbers⟩ := axis.numbers
  obtain ⟨inBox,heads⟩ := underway
  obtain ⟨up,direction⟩ := heads axis
  have within : axis.low.le (axis.place state) = true ∧ (axis.place state).le axis.high = true := by
    cases axis with
    | lat => exact inBox.1
    | lng => exact inBox.2
  rw [numbers.lowest,numbers.highest] at within
  obtain ⟨place,here,inside⟩ := Double.between within.1 within.2
  have moves : first.moves = true := by
    by_contra paused
    exact turned (advance_paused (by simpa using paused) state axis).2
  have at' : axis.At state ⟨place,up⟩ := ⟨here,direction⟩
  obtain ⟨turn,point,step,there⟩ := advance_step numbers at' inside moves
  have turning : turn = true := by
    cases step with
    | on => exact absurd (there.direction.trans direction.symm) turned
    | turn => rfl
  subst turning
  have ordered := numbers.bounds.2.1
  obtain ⟨turns,next,length,run,final⟩ :=
    journey_steps numbers there (step.inside ordered) later
  have positive : 0 ≤ delta + 2 ^ (-46 : ℤ) := by
    have least := numbers.short.1
    have small : (0 : ℚ) < 2 ^ (-46 : ℤ) := by positivity
    linarith
  have room : turns.length * (delta + 2 ^ (-46 : ℤ)) ≤ high - low := by
    have fewer : (turns.length : ℚ) ≤ axis.span := by
      rw [length]
      exact_mod_cast few
    exact (mul_le_mul_of_nonneg_right fewer positive).trans numbers.fits
  rw [final.direction,there.direction,
    Bouncing.kept ordered positive inside step run room]

/-- At the northern bound, and heading north. -/
def northernmost : Motion :=
  ⟨⟨Sample.id 1,"driver",latMax,lngMin⟩,heading true,heading true,false⟩

def halfway : Draws :=
  let half : Random := ⟨1 / 2,by norm_num,by norm_num⟩
  ⟨half,half,half⟩

theorem northernmost_kept : Axis.lat.direction
    (journey (List.replicate 59 halfway) (advance halfway northernmost)) =
      Axis.lat.direction (advance halfway northernmost) := by
  have underway : northernmost.Underway := by
    refine ⟨by decide +kernel,fun axis => ⟨true,?_⟩⟩
    cases axis <;> rfl
  exact heading_kept underway .lat (by decide +kernel) (by decide +kernel)

end FoodDispatch.MockDrivers
