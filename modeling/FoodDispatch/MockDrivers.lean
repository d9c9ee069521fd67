import FoodDispatch.Deployment
import FoodDispatch.Floats

/-! The simulated drivers: how one of them moves through the city in one tick, and
the loop that pushes the positions of all of them. -/
namespace FoodDispatch.MockDrivers
open Library
open Library.Program (perform)

def latMin : Double := .ofRat (42418 / 1000)

def latMax : Double := .ofRat (42472 / 1000)

def lngMin : Double := .ofRat (19225 / 1000)

def lngMax : Double := .ofRat (19315 / 1000)

def deltaLat : Double := .ofRat (9 / 10000)

def deltaLng : Double := .ofRat (12 / 10000)

def pauseProbability : Double := .ofRat (12 / 100)

def seed (name phone : String) (startLat startLng : ℚ) : DriverSeed :=
  ⟨name,phone,.ofRat startLat,.ofRat startLng⟩

def driverSeeds : List DriverSeed :=
  [seed "Marko Petrović" "+38269100001" (424415 / 10000) (192636 / 10000),
    seed "Nikola Đurović" "+38269100002" (424280 / 10000) (192490 / 10000),
    seed "Ana Vukčević" "+38269100003" (424432 / 10000) (192720 / 10000),
    seed "Stefan Joković" "+38269100004" (424380 / 10000) (192580 / 10000),
    seed "Milica Knežević" "+38269100005" (424310 / 10000) (192670 / 10000)]

/-- The fields of a `DriverState` that never reach the database. -/
structure Motion extends DriverState where
  latDir : Double
  lngDir : Double
  paused : Bool

/-- What one `random.random()` returns. -/
structure Random where
  value : ℚ
  nonneg : 0 ≤ value
  below : value < 1

/-- The numbers that one `advance` draws; a pause draws the first of them only. -/
structure Draws where
  pause : Random
  jitterLat : Random
  jitterLng : Random

/-- `random.uniform(low, high)`. -/
def uniform (low high : Double) (random : Random) : Double :=
  low.add ((high.add low.neg).mul (.finite random.value))

/-- One axis of a move: the new place and the new direction. -/
def moveAxis (low high delta position direction jitter : Double) : Double × Double :=
  let moved := position.add ((delta.mul direction).mul jitter)
  if low.le moved && moved.le high then (moved,direction)
  else (low.max (high.min moved),direction.mul (.finite (-1)))

def advance (draws : Draws) (state : Motion) : Motion :=
  if (Double.finite draws.pause.value).lt pauseProbability then {state with paused := true}
  else
    let jitterLat := uniform (.ofRat (30 / 100)) (.ofRat 1) draws.jitterLat
    let jitterLng := uniform (.ofRat (30 / 100)) (.ofRat 1) draws.jitterLng
    let lat := moveAxis latMin latMax deltaLat state.lat state.latDir jitterLat
    let lng := moveAxis lngMin lngMax deltaLng state.lng state.lngDir jitterLng
    {state with lat := lat.1,lng := lng.1,latDir := lat.2,lngDir := lng.2,paused := false}

/-- What the surroundings choose for one run of the simulation: the id and the first
heartbeat of a driver to be inserted, the headings at the start, and all the draws. -/
structure Chance where
  inserted : DriverSeed → UUID × ℤ
  headings : ℕ → Bool × Bool
  draws : ℕ → ℕ → Draws

/-- `random.choice([-1.0, 1.0])`. -/
def heading (positive : Bool) : Double := if positive then .finite 1 else .finite (-1)

def Chance.start (chance : Chance) (place : ℕ) (state : DriverState) : Motion :=
  ⟨state,heading (chance.headings place).1,heading (chance.headings place).2,false⟩

/-- The `while True` of `run_simulation`, until it is cancelled after so many ticks. -/
def simulate (chance : Chance) : ℕ → ℕ → List Motion → Program Unit
  | 0, _, _ => return ()
  | ticks + 1, tick, states => do
    let moved := states.mapIdx (fun place state => advance (chance.draws tick place) state)
    pushPositions (moved.map Motion.toDriverState)
    simulate chance ticks (tick + 1) moved

def runSimulation (chance : Chance) (ticks : ℕ) : Program Unit := do
  let states ← seedDrivers (driverSeeds.map (fun seed => (seed,chance.inserted seed)))
  simulate chance ticks 1 (states.mapIdx chance.start)

/-- The place is inside the bounding box of the city. -/
def InBox (lat lng : Double) : Prop :=
  (latMin.le lat = true ∧ lat.le latMax = true) ∧ (lngMin.le lng = true ∧ lng.le lngMax = true)

instance (lat lng : Double) : Decidable (InBox lat lng) := inferInstanceAs (Decidable ((_ ∧ _) ∧ _))

theorem driverSeeds_inBox : ∀ seed ∈ driverSeeds, InBox seed.startLat seed.startLng := by
  decide +kernel

theorem moveAxis_between {low high : ℚ} (ordered : low ≤ high)
    (delta position direction jitter : Double) :
    (Double.finite low).le
        (moveAxis (.finite low) (.finite high) delta position direction jitter).1 = true ∧
      (moveAxis (.finite low) (.finite high) delta position direction jitter).1.le
        (.finite high) = true := by
  unfold moveAxis
  dsimp only
  split
  next inside => exact Bool.and_eq_true_iff.mp inside
  next => exact Double.max_min_between ordered _

theorem lat_bounds : ∃ low high, latMin = .finite low ∧ latMax = .finite high ∧
    -90 ≤ low ∧ low ≤ high ∧ high ≤ 90 :=
  ⟨_,_,Double.ofRat_finite (by decide +kernel),Double.ofRat_finite (by decide +kernel),
    by decide +kernel,by decide +kernel,by decide +kernel⟩

theorem lng_bounds : ∃ low high, lngMin = .finite low ∧ lngMax = .finite high ∧
    -180 ≤ low ∧ low ≤ high ∧ high ≤ 180 :=
  ⟨_,_,Double.ofRat_finite (by decide +kernel),Double.ofRat_finite (by decide +kernel),
    by decide +kernel,by decide +kernel,by decide +kernel⟩

/-- A driver that moves is inside the box then, wherever it was before. -/
theorem advance_inBox (draws : Draws) (state : Motion) :
    (advance draws state).toDriverState = state.toDriverState ∨
      InBox (advance draws state).lat (advance draws state).lng := by
  unfold advance
  split
  next => exact Or.inl rfl
  next =>
    right
    obtain ⟨south,north,least,most,_,upright,_⟩ := lat_bounds
    obtain ⟨west,east,first,last,_,wide,_⟩ := lng_bounds
    unfold InBox
    rw [least,most,first,last]
    exact ⟨moveAxis_between upright _ _ _ _,moveAxis_between wide _ _ _ _⟩

theorem accepts_of_inBox {lat lng : Double} (inside : InBox lat lng) :
    LatLng.accepts (some lat) (some lng) = true := by
  obtain ⟨south,north,least,most,southern,_,northern⟩ := lat_bounds
  obtain ⟨west,east,first,last,western,_,eastern⟩ := lng_bounds
  unfold InBox at inside
  rw [least,most,first,last] at inside
  obtain ⟨latitude,rfl,above,below⟩ := Double.between inside.1.1 inside.1.2
  obtain ⟨longitude,rfl,after,before⟩ := Double.between inside.2.1 inside.2.2
  apply LatLng.accepts_of
  · simp [inField,southern.trans above,below.trans northern]
  · simp [inField,western.trans after,before.trans eastern]

end FoodDispatch.MockDrivers
