import FoodDispatch.DispatchLoop

/-! The deployed system: dispatch loops and clients over one database, in any
interleaving of their calls. Which threads run ticks and what other writers may
do is left to each group of results. -/
namespace FoodDispatch
open Library
open Library.Program (perform lift raise)

def createOrder (settings : Settings) (id : UUID) (payload : OrderCreateRequest) :
    Program Order := do
  let now : ℤ ← perform (Call.now .creation)
  let predictedReadyAt ← lift (PrepEstimator.compute settings (.utc now))
  perform (Call.commitOrder id payload predictedReadyAt.instant)
  perform (Call.refreshOrder id)

/-- `createOrder` after its reading of the clock. -/
def predicted (settings : Settings) (id : UUID) (payload : OrderCreateRequest) (now : ℤ) :
    Program Order :=
  if PrepEstimator.ReadyInRange settings now then
    perform (Call.commitOrder id payload (PrepEstimator.readyAt settings now)) >>= fun _ =>
      perform (Call.refreshOrder id)
  else raise .overflowError

theorem createOrder_predicted (settings : Settings) (id : UUID) (payload : OrderCreateRequest) :
    createOrder settings id payload =
      perform (Call.now .creation) >>= predicted settings id payload := by
  unfold createOrder predicted
  simp only [PrepEstimator.compute_utc]
  congr 1
  funext now
  split
  · exact congrArg (fun ready => perform (Call.commitOrder id payload ready) >>= fun _ =>
      perform (Call.refreshOrder id)) (Datetime.instant_utc _)
  · rfl

def seedDrivers (seeds : List (DriverSeed × UUID × ℤ)) : Program (List DriverState) :=
  perform (Call.seedDrivers seeds)

def pushPositions (states : List DriverState) : Program Unit := do
  let now : ℤ ← perform (Call.now .positions)
  perform (Call.pushPositions now states)

inductive Job where
  | dispatchTick
  | createOrder (id : UUID) (payload : OrderCreateRequest)
  | seedDrivers (seeds : List (DriverSeed × UUID × ℤ))
  | pushPositions (states : List DriverState)

def Job.body (settings : Settings) : Job → Program Unit
  | .dispatchTick => DispatchLoop.runDispatchTick settings
  | .createOrder id payload => do
    let _ ← FoodDispatch.createOrder settings id payload
    return ()
  | .seedDrivers seeds => do
    let _ ← FoodDispatch.seedDrivers seeds
    return ()
  | .pushPositions states => FoodDispatch.pushPositions states

def Job.isTick : Job → Bool
  | .dispatchTick => true
  | _ => false

section
variable {Thread Action : Type}

def deployment (settings : Settings) (loops : Thread → Prop)
    (writes : Action → Database → Database → Prop) :
    System Call Reply PyException Shared Note Thread Job Action where
  body := Job.body settings
  starts thread job := job.isTick = true → loops thread
  respond := Call.respond
  outside action shared next := next.clock = shared.clock ∧ writes action shared.db next.db

instance (settings : Settings) (loops : Thread → Prop)
    (writes : Action → Database → Database → Prop) [DecidablePred loops] (thread : Thread)
    (job : Job) : Decidable ((deployment settings loops writes).starts thread job) :=
  inferInstanceAs (Decidable (_ → _))

instance (settings : Settings) (loops : Thread → Prop)
    (writes : Action → Database → Database → Prop)
    [∀ action db next, Decidable (writes action db next)] (action : Action)
    (shared next : Shared) :
    Decidable ((deployment settings loops writes).outside action shared next) :=
  inferInstanceAs (Decidable (_ ∧ _))

def nobody : Empty → Database → Database → Prop := fun _ _ _ => False

instance (action : Empty) (db next : Database) : Decidable (nobody action db next) :=
  inferInstanceAs (Decidable False)

end

abbrev Move (Thread Action : Type) :=
  Transition (System.State Call Reply PyException Shared Thread)
    (System.Label Call Reply PyException Note Thread Job Action)

def Move.caller {Thread Action : Type} (move : Move Thread Action) : Option Thread :=
  match move.label with
  | .call thread _ _ _ => some thread
  | _ => none

/-- The clock that the calls read does not go back. -/
def Forward {Thread Action : Type} (trace : List (Move Thread Action)) : Prop :=
  ∀ move ∈ trace, move.before.shared.clock ≤ move.after.shared.clock

instance {Thread Action : Type} (trace : List (Move Thread Action)) : Decidable (Forward trace) :=
  inferInstanceAs (Decidable (∀ move ∈ trace, _))

theorem Forward.last {Thread Action : Type} {trace : List (Move Thread Action)}
    {move : Move Thread Action} (forward : Forward (trace ++ [move])) :
    Forward trace ∧ move.before.shared.clock ≤ move.after.shared.clock :=
  ⟨fun earlier member => forward earlier (List.mem_append_left _ member),forward move (by simp)⟩

theorem caller_label {Thread Action : Type} {move : Move Thread Action} {thread : Thread}
    (called : move.caller = some thread) :
    ∃ request note reply, move.label = .call thread request note reply := by
  unfold Move.caller at called
  split at called
  next label =>
    cases called
    exact ⟨_,_,_,label⟩
  next => contradiction

namespace Sample

def id (number : ℕ) : UUID := ⟨BitVec.ofNat 128 number⟩

def driver (number : ℕ) (phone : String) : Driver :=
  ⟨id number,"driver",phone,.onlineAvailable,some (.finite 0),some (.finite 0),some 0,none⟩

def order (number : ℕ) : Order :=
  ⟨id number,id 0,.finite 0,.finite 0,id 0,.finite 0,.finite 0,.pending,0,none,none⟩

def table {Row : Type} {key : Row → UUID} (rows : List Row) : Table key :=
  if keyed : (rows.map key).Nodup then ⟨rows,keyed⟩ else .empty

/-- Tables with these rows, if no constraint forbids them. -/
def database (drivers : List Driver) (orders : List Order) : Database :=
  if holds : Constraints (table drivers) (table orders) then ⟨_,_,holds⟩ else .empty

def note (now : ℤ) : Note := ⟨now,.none,[],[],.success 60 1000⟩

/-- The answers one loop gets, from the gate of an order to the lock it takes:
of the drivers found only `chosen` has a route. -/
def evaluation {Thread Action : Type} (thread : Thread) (now : ℤ) (drivers : List Driver)
    (chosen : UUID) : List (System.Move Shared Note Thread Job Action) :=
  [.answer thread (note now),.answer thread (note now),
    .answer thread {note now with drivers := drivers},.answer thread (note now)] ++
  drivers.map (fun driver => .answer thread {note now with
    eta := if driver.id = chosen then .success 60 1000 else .failure (.text "ZERO_RESULTS")}) ++
  [.answer thread (note now)]

def payload : OrderCreateRequest :=
  ⟨id 0,.finite 0,.finite 0,id 0,.finite 0,.finite 0,by decide +kernel,by decide +kernel⟩

/-- From empty tables: order 3 is created at the epoch and is `ready` then, driver 1 is
seeded `later`, and a tick assigns the driver to the order. -/
def lifeAt {Thread Action : Type} (ready later : ℤ) (loop client : Thread) :
    List (System.Move Shared Note Thread Job Action) :=
  let found := {driver 1 "1" with lastLocationAt := some later}
  [.start client (.createOrder (id 3) payload),.answer client (note 0),.answer client (note 0),
    .answer client (note 0),
    .start client (.seedDrivers [(⟨"driver","1",.finite 0,.finite 0⟩,id 1,later)]),
    .answer client (note later),.start loop .dispatchTick,
    .answer loop {note later with orders := [Order.new (id 3) payload ready]}] ++
  evaluation loop later [found] (id 1)

def life {Thread Action : Type} (loop client : Thread) :
    List (System.Move Shared Note Thread Job Action) :=
  lifeAt (minutes 18) (minutes 10) loop client

end Sample
end FoodDispatch
