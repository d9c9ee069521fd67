import FoodDispatch.Fixpoint
import FoodDispatch.Heartbeats
import FoodDispatch.MockDrivers
import FoodDispatch.Walk

/-! The simulated fleet beside dispatch loops and clients. Wherever its drivers are
in their moves, all of them stay in the city, and so no position that a tick reads is
refused. -/
namespace FoodDispatch
open Library
open Library.Program
open MockDrivers

/-- The driver has a position, and it is inside the box. -/
def Driver.InCity (row : Driver) : Prop :=
  ∃ lat ∈ row.currentLat, ∃ lng ∈ row.currentLng, InBox lat lng

namespace Database

structure InCity (db : Database) : Prop where
  drivers : ∀ driver ∈ db.drivers.rows, driver.InCity
  orders : ∀ order ∈ db.orders.rows,
    LatLng.accepts (some order.restaurantLat) (some order.restaurantLng) = true

variable {db next : Database} {order driver : UUID} {time : ℤ}

theorem inCity_empty : Database.empty.InCity :=
  ⟨by simp [empty,Table.empty],by simp [empty,Table.empty]⟩

theorem InCity.located (city : db.InCity) : db.Located where
  drivers driver member _ _ := by
    obtain ⟨lat,here,lng,there,inside⟩ := city.drivers driver member
    rw [Option.mem_def.mp here,Option.mem_def.mp there]
    exact accepts_of_inBox inside
  orders := city.orders

theorem Held.inCity (held : db.Held next order) (city : db.InCity) : next.InCity where
  drivers row member := city.drivers row (held.drivers ▸ member)
  orders row member := by
    rcases held.order_cases member with ⟨old,known,_,_,rfl⟩ | known
    · exact city.orders old known
    · exact city.orders row known

theorem Assigned.inCity (assigned : db.Assigned next order driver time) (city : db.InCity) :
    next.InCity where
  drivers row member := by
    rcases assigned.driver_cases member with ⟨old,known,_,_,rfl⟩ | ⟨known,_⟩
    · exact city.drivers old known
    · exact city.drivers row known
  orders row member := by
    rcases assigned.order_cases member with ⟨old,known,_,rfl⟩ | ⟨known,_⟩
    · exact city.orders old known
    · exact city.orders row known

end Database

namespace Transaction
variable {db next : Database}

theorem commitOrder_inCity {id : UUID} {payload : OrderCreateRequest} {ready : ℤ}
    (city : db.InCity) (done : commitOrder id payload ready db = .ok ((),next)) : next.InCity := by
  have rows := (commitOrder_grown done).2.1
  unfold commitOrder insertOrder at done
  split at done
  next =>
    obtain ⟨drivers,_⟩ := check_ok.mp done
    refine ⟨fun row member => city.drivers row (drivers ▸ member),fun row member => ?_⟩
    rw [rows] at member
    rcases List.mem_append.mp member with known | new
    · exact city.orders row known
    · rw [List.mem_singleton.mp new]
      exact LatLng.accepts_of payload.latitudes.1 payload.longitudes.1
  next => contradiction

theorem orElse_cases (value default : Double) :
    orElse (some value) default = value ∨ orElse (some value) default = default := by
  unfold orElse
  dsimp only
  split
  · exact Or.inr rfl
  · exact Or.inl rfl

theorem orElse_inBox {lat lng startLat startLng : Double} (here : InBox lat lng)
    (start : InBox startLat startLng) :
    InBox (orElse (some lat) startLat) (orElse (some lng) startLng) := by
  constructor
  · rcases orElse_cases lat startLat with same | same
    · rw [same]
      exact here.1
    · rw [same]
      exact start.1
  · rcases orElse_cases lng startLng with same | same
    · rw [same]
      exact here.2
    · rw [same]
      exact start.2

theorem seedDriver_inCity {seed : DriverSeed} {id : UUID} {now : ℤ} {state : DriverState}
    (inside : InBox seed.startLat seed.startLng) (city : db.InCity)
    (done : seedDriver seed id now db = .ok (state,next)) :
    next.InCity ∧ InBox state.lat state.lng := by
  obtain ⟨found,middle,selected,done⟩ := bind_ok done
  obtain ⟨searched,same⟩ := Prod.mk.inj (Except.ok.inj selected)
  subst same
  cases found with
  | none =>
    obtain ⟨_,middle,inserted,returned⟩ := bind_ok done
    cases returned
    refine ⟨?_,orElse_inBox inside inside⟩
    unfold insertDriver at inserted
    split at inserted
    next fresh =>
      obtain ⟨drivers,orders⟩ := check_ok.mp inserted
      refine ⟨fun row member => ?_,fun row member => city.orders row (orders ▸ member)⟩
      rw [drivers] at member
      rcases Table.mem_insert.mp member with known | rfl
      · exact city.drivers row known
      · exact ⟨seed.startLat,rfl,seed.startLng,rfl,inside⟩
    next => contradiction
  | some driver =>
    cases done
    obtain ⟨lat,here,lng,there,inBox⟩ := city.drivers driver (List.mem_of_find?_eq_some searched)
    rw [Option.mem_def.mp here,Option.mem_def.mp there]
    exact ⟨city,orElse_inBox inBox inside⟩

theorem seedDrivers_inCity {seeds : List (DriverSeed × UUID × ℤ)} {states : List DriverState}
    (inside : ∀ entry ∈ seeds, InBox entry.1.startLat entry.1.startLng) (city : db.InCity)
    (done : seedDrivers seeds db = .ok (states,next)) :
    next.InCity ∧ ∀ state ∈ states, InBox state.lat state.lng := by
  induction seeds generalizing db states with
  | nil =>
    cases done
    exact ⟨city,by simp⟩
  | cons first rest ih =>
    obtain ⟨state,middle,seeded,done⟩ := bind_ok done
    obtain ⟨others,last,remaining,returned⟩ := bind_ok done
    cases returned
    obtain ⟨reached,here⟩ := seedDriver_inCity (inside first (by simp)) city seeded
    obtain ⟨final,there⟩ := ih (fun entry member => inside entry (by simp [member])) reached remaining
    exact ⟨final,List.forall_mem_cons.mpr ⟨here,there⟩⟩

theorem pushPositions_inCity {now : ℤ} {states : List DriverState}
    (inside : ∀ state ∈ states, InBox state.lat state.lng) (city : db.InCity)
    (done : pushPositions now states db = .ok ((),next)) : next.InCity := by
  induction states generalizing db with
  | nil =>
    cases done
    exact city
  | cons state rest ih =>
    obtain ⟨_,middle,moved,done⟩ := bind_ok done
    obtain ⟨drivers,orders⟩ := check_ok.mp moved
    apply ih (fun other member => inside other (by simp [member])) ?_ done
    refine ⟨fun row member => ?_,fun row member => city.orders row (orders ▸ member)⟩
    rw [drivers] at member
    rcases Table.mem_update_cases member with ⟨old,_,_,rfl⟩ | ⟨known,_⟩
    · exact ⟨state.lat,rfl,state.lng,rfl,inside state (by simp)⟩
    · exact city.drivers row known

end Transaction

/-- The positions that the call writes, if it writes any, are inside the box. -/
def Call.Inside : Call → Prop
  | .seedDrivers seeds => ∀ entry ∈ seeds, InBox entry.1.startLat entry.1.startLng
  | .pushPositions _ states => ∀ state ∈ states, InBox state.lat state.lng
  | _ => True

theorem Call.commit_inCity {α : Type} {body : Transaction α} {said : Except PyException α}
    {db next : Database} (city : db.InCity) (done : Call.commit body db = (said,next))
    (kept : ∀ value, body db = .ok (value,next) → next.InCity) : next.InCity := by
  rcases Call.commit_cases done with ⟨value,ran,_⟩ | ⟨_,_,_,same⟩
  · exact kept value ran
  · exact same ▸ city

theorem Call.answer_inCity {request : Call} {note : Note} {db next : Database}
    {said : Except PyException (Reply request)} (inside : request.Inside) (city : db.InCity)
    (answered : request.answer note db = some (said,next)) : next.InCity := by
  cases request with
  | now | getDrivingEta =>
    cases answered
    exact city
  | fetchActionableOrders => exact (Call.answer_fetch answered).2.2 ▸ city
  | selectCandidates order cutoff => exact (Call.answer_select answered).2.2 ▸ city
  | applyHold order =>
    apply Call.commit_inCity city (Option.some.inj answered)
    intro _ ran
    obtain ⟨held,done,holds⟩ := Transaction.applyHold_spec order db
    rw [done] at ran
    cases ran
    exact holds.inCity city
  | attemptAtomicAssignment order driver =>
    apply Call.commit_inCity city (Option.some.inj answered)
    intro _ ran
    rcases Transaction.attemptAtomicAssignment_cases order driver note.now db with
      ⟨_,done⟩ | ⟨_,_,done⟩ | ⟨assigned,done,holds⟩
    · rw [done] at ran
      cases ran
      exact city
    · rw [done] at ran
      contradiction
    · rw [done] at ran
      cases ran
      exact holds.inCity city
  | commitOrder id payload ready =>
    apply Call.commit_inCity city (Option.some.inj answered)
    exact fun _ ran => Transaction.commitOrder_inCity city ran
  | refreshOrder order =>
    apply Call.commit_inCity city (Option.some.inj answered)
    intro _ ran
    unfold Transaction.refreshOrder at ran
    split at ran
    · cases ran
      exact city
    · contradiction
  | seedDrivers seeds =>
    apply Call.commit_inCity city (Option.some.inj answered)
    exact fun _ ran => (Transaction.seedDrivers_inCity inside city ran).1
  | pushPositions stamp states =>
    apply Call.commit_inCity city (Option.some.inj answered)
    exact fun _ ran => Transaction.pushPositions_inCity inside city ran

theorem Call.respond_inCity {request : Call} {note : Note} {shared next : Shared}
    {reply : Except PyException (Reply request)} (inside : request.Inside) (city : shared.db.InCity)
    (done : request.respond note shared = some (reply,next)) : next.db.InCity := by
  rcases (Call.respond_cases done).2 with ⟨_,same,_⟩ | ⟨_,_,answered,_⟩
  · exact same ▸ city
  · exact Call.answer_inCity inside city answered

/-- The drivers found or made by a seeding are inside the box, as all are. -/
theorem Call.respond_seeded {seeds : List (DriverSeed × UUID × ℤ)} {note : Note} {shared next : Shared}
    {states : List DriverState} (inside : (Call.seedDrivers seeds).Inside) (city : shared.db.InCity)
    (done : (Call.seedDrivers seeds).respond note shared = some (.ok states,next)) :
    ∀ state ∈ states, InBox state.lat state.lng := by
  rcases Call.commit_cases (Option.some.inj (Call.respond_ok done)) with
    ⟨value,ran,said⟩ | ⟨_,_,said,_⟩
  · cases said
    exact (Transaction.seedDrivers_inCity inside city ran).2
  · contradiction

/-- What the threads of the whole system do: ticks, requests, and simulations. -/
inductive Duty where
  | dispatchTick
  | createOrder (id : UUID) (payload : OrderCreateRequest)
  | runSimulation (chance : Chance) (ticks : ℕ)

def Duty.isTick : Duty → Bool
  | .dispatchTick => true
  | _ => false

def Duty.body (settings : Settings) : Duty → Program Unit
  | .dispatchTick => DispatchLoop.runDispatchTick settings
  | .createOrder id payload => Job.body settings (.createOrder id payload)
  | .runSimulation chance ticks => MockDrivers.runSimulation chance ticks

def fleet {Thread : Type} (settings : Settings) (loops : Thread → Prop) :
    System Call Reply PyException Shared Note Thread Duty Empty where
  body := Duty.body settings
  starts thread duty := duty.isTick = true → loops thread
  respond := Call.respond
  outside _ _ _ := False

instance {Thread : Type} (settings : Settings) (loops : Thread → Prop) [DecidablePred loops]
    (thread : Thread) (duty : Duty) : Decidable ((fleet settings loops).starts thread duty) :=
  inferInstanceAs (Decidable (_ → _))

instance {Thread : Type} (settings : Settings) (loops : Thread → Prop) (action : Empty)
    (shared next : Shared) : Decidable ((fleet settings loops).outside action shared next) :=
  inferInstanceAs (Decidable False)

namespace Fleet

/-- A simulation pushes the positions it was told, or positions inside the box. -/
def monitor : Monitor Call Reply PyException (List DriverState) where
  allows told
    | .seedDrivers seeds => (Call.seedDrivers seeds).Inside
    | .pushPositions _ states => ∀ state ∈ states, state ∈ told ∨ InBox state.lat state.lng
    | _ => True
  expects _ _ := True
  after told
    | .seedDrivers _, .ok states => states
    | _, _ => told

section Jobs
variable {settings : Settings} {told : List DriverState}

theorem unmoved : Unmoved Call.ByTick monitor told := by
  intro request byTick
  cases request with
  | seedDrivers | pushPositions => exact False.elim byTick
  | _ => exact ⟨trivial,fun _ => rfl⟩

theorem advance_told {draws : Draws} {state : Motion}
    (before : state.toDriverState ∈ told ∨ InBox state.lat state.lng) :
    (advance draws state).toDriverState ∈ told ∨
      InBox (advance draws state).lat (advance draws state).lng := by
  rcases advance_inBox draws state with same | inside
  · rw [same]
    exact before
  · exact Or.inr inside

theorem simulate_obeys (chance : Chance) (ticks tick : ℕ) (states : List Motion)
    (known : ∀ state ∈ states, state.toDriverState ∈ told ∨ InBox state.lat state.lng) :
    (simulate chance ticks tick states).Obeys monitor (fun _ _ => True) told := by
  induction ticks generalizing tick states with
  | zero => exact trivial
  | succ ticks ih =>
    let moved := states.mapIdx (fun place state => advance (chance.draws tick place) state)
    have after : ∀ state ∈ moved, state.toDriverState ∈ told ∨ InBox state.lat state.lng := by
      intro state member
      obtain ⟨place,bound,rfl⟩ := List.mem_mapIdx.mp member
      exact advance_told (known _ (List.getElem_mem bound))
    refine ⟨trivial,fun reply _ => ?_⟩
    cases reply with
    | error error => exact trivial
    | ok now =>
      refine ⟨fun state member => ?_,fun reply _ => ?_⟩
      · obtain ⟨motion,listed,rfl⟩ := List.mem_map.mp member
        exact after motion listed
      · cases reply with
        | error error => exact trivial
        | ok _ => exact ih (tick + 1) moved after

theorem body_obeys (duty : Duty) :
    (duty.body settings).Obeys monitor (fun _ _ => True) told := by
  cases duty with
  | dispatchTick => exact obeys_mono (runDispatchTick_unmoved unmoved) (fun _ _ _ => trivial)
  | createOrder id payload =>
    apply obeys_of_only (createOrder_only settings id payload)
    intro told request client
    cases request with
    | seedDrivers | pushPositions => exact client.elim
    | _ => exact trivial
  | runSimulation chance ticks =>
    refine ⟨?_,fun reply _ => ?_⟩
    · intro entry member
      obtain ⟨seed,listed,rfl⟩ := List.mem_map.mp member
      exact driverSeeds_inBox seed listed
    · cases reply with
      | error error => exact trivial
      | ok states =>
        apply simulate_obeys chance ticks 1
        intro state member
        obtain ⟨place,bound,rfl⟩ := List.mem_mapIdx.mp member
        exact Or.inl (List.getElem_mem bound)

end Jobs

variable {Thread : Type} [DecidableEq Thread] {settings : Settings} {loops : Thread → Prop}
variable {shared : Shared} {state : System.State Call Reply PyException Shared Thread}

/-- Every position in the tables, and every one that a simulation was told, is inside. -/
theorem invariant : (fleet settings loops).Invariant (fun _ => monitor) []
    (fun _ shared told => shared.db.InCity ∧
      ∀ thread, ∀ state ∈ told thread, InBox state.lat state.lng) where
  body _ duty _ := body_obeys duty
  expected _ _ _ _ _ _ _ := trivial
  restart trace told thread move holds _ same := by
    rw [same]
    refine ⟨holds.1,?_⟩
    rw [Function.forall_update_iff told (fun _ told => ∀ state ∈ told, InBox state.lat state.lng)]
    exact ⟨by simp,fun other _ => holds.2 other⟩
  call trace told thread request note reply move holds _ allowed answered := by
    obtain ⟨city,inside⟩ := holds
    have within : request.Inside := by
      cases request with
      | seedDrivers seeds => exact allowed
      | pushPositions stamp states =>
        intro state member
        exact (allowed state member).elim (inside thread state) id
      | _ => exact trivial
    refine ⟨Call.respond_inCity within city answered,?_⟩
    rw [Function.forall_update_iff told (fun _ told => ∀ state ∈ told, InBox state.lat state.lng)]
    refine ⟨?_,fun other _ => inside other⟩
    cases request with
    | seedDrivers seeds =>
      cases reply with
      | error error => exact inside thread
      | ok states => exact Call.respond_seeded within city answered
    | _ => exact inside thread
  outside _ _ action := action.elim

/-- In every run of loops, clients and simulations from empty tables, each driver is
inside the box, and no coordinates in the tables are refused. -/
theorem inCity_throughout {trace : List (fleet settings loops).Moves}
    (start : shared.db = Database.empty) (run : (fleet settings loops).Run shared trace state) :
    Execution.Throughout (System.State.idle shared) trace
      (fun reached => reached.shared.db.InCity ∧ reached.shared.db.Located) := by
  apply invariant.throughout ⟨start ▸ Database.inCity_empty,by simp⟩ run
    (fun shared => shared.db.InCity ∧ shared.db.Located)
  exact fun _ _ _ holds => ⟨holds.1,holds.1.located⟩

deriving instance DecidableEq for DriverSeed

/-- Every driver heads south-west, and pauses in its second tick. -/
def chance : Chance where
  inserted seed := (Sample.id (driverSeeds.idxOf seed),0)
  headings _ := (false,false)
  draws tick _ :=
    let half : Random := ⟨1 / 2,by decide +kernel,by decide +kernel⟩
    let none : Random := ⟨0,le_refl 0,by norm_num⟩
    ⟨if tick = 2 then none else half,none,half⟩

def moves : List (System.Move Shared Note Bool Duty Empty) :=
  [.start true (.runSimulation chance 2),.answer true (Sample.note 0),.answer true (Sample.note 1),
    .answer true (Sample.note 1),.answer true (Sample.note 2),.answer true (Sample.note 2)]

theorem moves_replayed : ((System.replay (fleet {} (· = false)) moves
    (System.State.idle ⟨Database.empty,0⟩)).map (fun done =>
      done.2.shared.db.drivers.rows.map Driver.lastLocationAt)) = some (List.replicate 5 (some 2)) := by
  decide +kernel

theorem moves_inCity : ∃ (trace : List (fleet {} (· = false)).Moves)
    (state : System.State Call Reply PyException Shared Bool),
      (fleet {} (· = false)).Run ⟨Database.empty,0⟩ trace state ∧
        state.shared.db.drivers.rows.map Driver.lastLocationAt = List.replicate 5 (some 2) ∧
          state.shared.db.InCity := by
  obtain ⟨⟨trace,state⟩,replayed,pushed⟩ := Option.map_eq_some_iff.mp moves_replayed
  have run := System.replay_execution replayed
  exact ⟨trace,state,run,pushed,((inCity_throughout rfl run).final run).1⟩

end Fleet
end FoodDispatch
