import FoodDispatch.DriverOnce

/-! One order at a time, while the drivers' apps close and open beside one dispatch
loop. The lock looks at the status alone, and an app that closes and opens again
leaves a driver available whatever it carries. -/
namespace FoodDispatch
open Library

inductive AppAction where
  | goOnline (driver : UUID)
  | goOffline (driver : UUID)

def Driver.withStatus (status : DriverStatus) (row : Driver) : Driver := {row with status := status}

def Order.Live (row : Order) : Prop :=
  row.dispatchStatus = .assigned ∨ row.dispatchStatus = .pickedUp

instance (row : Order) : Decidable row.Live := inferInstanceAs (Decidable (_ ∨ _))

theorem Order.Live.not_actionable {row : Order} (live : row.Live) : ¬row.Actionable := by
  rcases live with assigned | collected
  · simp [Order.Actionable,assigned]
  · simp [Order.Actionable,collected]

namespace Database

/-- `offline → online_available` and `any → offline`, and nothing but the status. -/
def ByApp : AppAction → Database → Database → Prop
  | .goOnline driver, db, next => (∃ row ∈ db.drivers.rows, row.id = driver ∧ row.status = .offline) ∧
      next.orders = db.orders ∧ next.drivers = db.drivers.update (fun row => row.id = driver)
        (Driver.withStatus .onlineAvailable) (fun _ => rfl)
  | .goOffline driver, db, next => next.orders = db.orders ∧
      next.drivers = db.drivers.update (fun row => row.id = driver)
        (Driver.withStatus .offline) (fun _ => rfl)

instance (action : AppAction) (db next : Database) : Decidable (ByApp action db next) := by
  cases action <;> exact inferInstanceAs (Decidable (_ ∧ _))

/-- An order that is not yet delivered names the driver. -/
def Laden (db : Database) (driver : UUID) : Prop :=
  ∃ order ∈ db.orders.rows, order.Live ∧ order.assignedDriverId = some driver

instance (db : Database) (driver : UUID) : Decidable (db.Laden driver) :=
  inferInstanceAs (Decidable (∃ order ∈ db.orders.rows, _))

/-- The current order of the driver is not yet delivered. -/
def HasCurrent (db : Database) (driver : UUID) : Prop :=
  ∃ row ∈ db.drivers.rows, row.id = driver ∧
    ∃ order ∈ db.orders.rows, row.currentOrderId = some order.id ∧ order.Live

instance (db : Database) (driver : UUID) : Decidable (db.HasCurrent driver) :=
  inferInstanceAs (Decidable (∃ row ∈ db.drivers.rows, _))

/-- A driver's current order waits for no other driver, and names this one while
it is live. -/
def Points (db : Database) : Prop :=
  ∀ driver ∈ db.drivers.rows, ∀ order ∈ db.orders.rows, driver.currentOrderId = some order.id →
    ¬order.Actionable ∧ (order.Live → order.assignedDriverId = some driver.id)

instance (db : Database) : Decidable db.Points :=
  inferInstanceAs (Decidable (∀ driver ∈ db.drivers.rows, ∀ order ∈ db.orders.rows, _))

def Rests (db : Database) (driver : UUID) : Prop :=
  db.DriverAvailable driver → ¬db.Laden driver

instance (db : Database) (driver : UUID) : Decidable (db.Rests driver) :=
  inferInstanceAs (Decidable (_ → _))

/-- The tables as they stand while the rule of one order at a time holds. -/
structure SingleOrder (db : Database) : Prop where
  points : db.Points
  rests : ∀ driver ∈ db.drivers.keys, db.Rests driver

variable {db next : Database} {order driver other : UUID} {time : ℤ} {action : AppAction}

theorem SingleOrder.resting (single : db.SingleOrder) (driver : UUID) : db.Rests driver := by
  intro available
  have known : driver ∈ db.drivers.keys := by
    obtain ⟨row,member,named,_⟩ := available
    exact Table.mem_keys.mpr ⟨row,member,named⟩
  exact single.rests driver known available

/-- What is told of the order of an attempt: it still waits. -/
def Awaits (db : Database) (call : Call) : Prop :=
  ∀ order driver, call = .attemptAtomicAssignment order driver →
    ∀ row ∈ db.orders.rows, row.id = order → row.Actionable

theorem Points.laden (points : db.Points) (current : db.HasCurrent driver) : db.Laden driver := by
  obtain ⟨row,member,rfl,order,present,carried,live⟩ := current
  exact ⟨order,present,live,(points row member order present carried).2 live⟩

theorem Grown.points (grown : db.Grown next) (points : db.Points) : next.Points := by
  intro row member order present current
  rcases grown.driver row member with ⟨old,known,same⟩ | ⟨_,_,clean⟩
  · rw [same.currentOrderId] at current
    rcases grown.order order present with existing | ⟨fresh,_⟩
    · rw [same.id]
      exact points old known order existing current
    · exact absurd (db.constraints.currentOrder old known order.id current) fresh
  · rw [clean] at current
    contradiction

theorem Held.points (held : db.Held next order) (points : db.Points) : next.Points := by
  intro row member other present current
  rw [held.drivers] at member
  rcases held.order_cases present with ⟨old,known,_,pending,rfl⟩ | known
  · exact absurd (Or.inl pending) (points row member old known current).1
  · exact points row member other known current

theorem Assigned.points (assigned : db.Assigned next order driver time) (points : db.Points)
    (waits : ∀ row ∈ db.orders.rows, row.id = order → row.Actionable) : next.Points := by
  intro row member other present current
  rcases assigned.order_cases present with ⟨was,existing,same,rfl⟩ | ⟨existing,away⟩
  · refine ⟨Order.Live.not_actionable (Or.inl rfl),fun _ => ?_⟩
    rcases assigned.driver_cases member with ⟨old,_,named,_,rfl⟩ | ⟨known,_⟩
    · exact congrArg some named.symm
    · exact absurd (waits was existing same) (points row known was existing current).1
  · rcases assigned.driver_cases member with ⟨old,_,_,_,rfl⟩ | ⟨known,_⟩
    · exact absurd (Option.some.inj current).symm away
    · exact points row known other existing current

theorem Written.points {call : Call} (written : Written call time db next) (points : db.Points)
    (awaits : db.Awaits call) : next.Points := by
  cases written with
  | unchanged same => exact same ▸ points
  | held order hold held => exact held.points points
  | assigned order driver attempt assigned => exact assigned.points points (awaits order driver attempt)
  | created id payload ready commit grown rows => exact grown.points points
  | moved grown orders => exact grown.points points

theorem ByApp.orders (moved : ByApp action db next) : next.orders = db.orders := by
  cases action with
  | goOnline driver => exact moved.2.1
  | goOffline driver => exact moved.1

theorem ByApp.driver_cases (moved : ByApp action db next) {row : Driver}
    (member : row ∈ next.drivers.rows) : ∃ old ∈ db.drivers.rows, row.id = old.id ∧
      row.currentOrderId = old.currentOrderId ∧
        (row.Available → old.Available ∨ action = .goOnline old.id) := by
  cases action with
  | goOnline driver =>
    rw [moved.2.2] at member
    rcases Table.mem_update_cases member with ⟨old,present,selected,rfl⟩ | ⟨present,_⟩
    · exact ⟨old,present,rfl,rfl,fun _ => Or.inr (congrArg AppAction.goOnline
        (of_decide_eq_true selected).symm)⟩
    · exact ⟨row,present,rfl,rfl,Or.inl⟩
  | goOffline driver =>
    rw [moved.2] at member
    rcases Table.mem_update_cases member with ⟨old,present,_,rfl⟩ | ⟨present,_⟩
    · refine ⟨old,present,rfl,rfl,fun available => ?_⟩
      contradiction
    · exact ⟨row,present,rfl,rfl,Or.inl⟩

theorem ByApp.points (moved : ByApp action db next) (points : db.Points) : next.Points := by
  intro row member order present current
  obtain ⟨old,known,same,carried,_⟩ := moved.driver_cases member
  rw [moved.orders] at present
  rw [same]
  exact points old known order present (carried ▸ current)

theorem ByApp.laden_iff (moved : ByApp action db next) : next.Laden driver ↔ db.Laden driver := by
  unfold Laden
  rw [moved.orders]

theorem ByApp.rests (moved : ByApp action db next) (rests : db.Rests driver)
    (unladen : action = .goOnline driver → ¬db.Laden driver) : next.Rests driver := by
  rintro ⟨row,member,named,available⟩
  rw [moved.laden_iff]
  obtain ⟨old,known,same,_,before⟩ := moved.driver_cases member
  have named : old.id = driver := same.symm.trans named
  rcases before available with free | opened
  · exact rests ⟨old,known,named,free⟩
  · exact unladen (named ▸ opened)

theorem Grown.laden (grown : db.Grown next) (laden : db.Laden driver) : next.Laden driver := by
  obtain ⟨order,member,live,named⟩ := laden
  exact ⟨order,grown.keepsOrder order member,live,named⟩

/-- What a driver carries it carries on: the loop leaves live orders alone. -/
theorem Written.laden {call : Call} (written : Written call time db next) (awaits : db.Awaits call)
    (laden : db.Laden driver) : next.Laden driver := by
  obtain ⟨order,member,live,named⟩ := laden
  cases written with
  | unchanged same => exact same ▸ ⟨order,member,live,named⟩
  | held wanted hold held =>
    refine ⟨order,?_,live,named⟩
    rw [held.orders]
    apply Table.mem_update_of_not member
    have apart : ¬order.dispatchStatus = .pending := fun pending => live.not_actionable (Or.inl pending)
    simp [apart]
  | assigned wanted locked attempt assigned =>
    refine ⟨order,assigned.keepsOrder member (fun same => ?_),live,named⟩
    exact live.not_actionable (awaits wanted locked attempt order member same)
  | created id payload ready commit grown rows => exact grown.laden ⟨order,member,live,named⟩
  | moved grown orders => exact grown.laden ⟨order,member,live,named⟩

theorem Grown.rests (grown : db.Grown next) (rests : db.Rests driver) : next.Rests driver := by
  rintro ⟨row,member,named,available⟩ ⟨order,present,live,carried⟩
  have known : order ∈ db.orders.rows := by
    rcases grown.order order present with known | ⟨_,_,clean,_⟩
    · exact known
    · rw [clean] at carried
      contradiction
  have laden : db.Laden driver := ⟨order,known,live,carried⟩
  rcases grown.driver row member with ⟨old,existing,same⟩ | ⟨fresh,_⟩
  · exact rests ⟨old,existing,same.id.symm.trans named,same.status.symm.trans available⟩ laden
  · exact fresh (named ▸ db.constraints.assignedDriver order known driver carried)

theorem Assigned.rests (assigned : db.Assigned next order other time) (rests : db.Rests driver) :
    next.Rests driver := by
  rintro ⟨row,member,named,available⟩ ⟨wanted,present,live,carried⟩
  rcases assigned.driver_cases member with ⟨_,_,_,_,rfl⟩ | ⟨known,apart⟩
  · contradiction
  · rcases assigned.order_cases present with ⟨_,_,_,rfl⟩ | ⟨existing,_⟩
    · exact apart (named.trans (Option.some.inj carried).symm)
    · exact rests ⟨row,known,named,available⟩ ⟨wanted,existing,live,carried⟩

theorem Held.rests (held : db.Held next order) (rests : db.Rests driver) : next.Rests driver := by
  unfold Rests DriverAvailable
  rw [held.drivers]
  rintro available ⟨wanted,present,live,carried⟩
  rcases held.order_cases present with ⟨_,_,_,_,rfl⟩ | existing
  · exact live.not_actionable (Or.inr rfl)
  · exact rests available ⟨wanted,existing,live,carried⟩

theorem Written.rests {call : Call} (written : Written call time db next) (rests : db.Rests driver) :
    next.Rests driver := by
  cases written with
  | unchanged same => exact same ▸ rests
  | held order hold held => exact held.rests rests
  | assigned order driver attempt assigned => exact assigned.rests rests
  | created id payload ready commit grown rows => exact grown.rests rests
  | moved grown orders => exact grown.rests rests

end Database

section
variable {Thread : Type} [DecidableEq Thread] {settings : Settings} {loop : Thread}
variable {loops : Thread → Prop}

/-- The move commits an assignment. -/
def Move.Assigns {Thread Action : Type} (move : Move Thread Action) (order driver : UUID) : Prop :=
  (∃ thread note reply,
    move.label = .call thread (.attemptAtomicAssignment order driver) note reply) ∧
  move.after.shared.db ≠ move.before.shared.db

def Waits (db : Database) (copy : Order) : Prop :=
  ∀ row ∈ db.orders.rows, row.id = copy.id → row.Actionable

omit [DecidableEq Thread] in
theorem ownedWaits : Guarded (· = loop) Database.ByApp Database.Points Waits where
  fetched db copy _ actionable row member same := Ledger.fetched_row actionable member same
  sound request note shared reply next points owned answered := by
    apply (Call.respond_written answered).points points
    intro order driver attempt row member same
    obtain ⟨copy,named,waits⟩ := owned order driver attempt
    exact waits row member (same.trans named.symm)
  current copy request note shared reply next _ waits answered unused := by
    have single := unused (fun one other first second => first.trans second.symm)
    apply Ledger.owned_rows ?_ ?_ answered single waits
    · exact fun old _ _ => Or.inr rfl
    · exact fun row pending _ => Or.inl pending
  outside action db next moved points := by
    refine ⟨moved.points points,fun copy waits => ?_⟩
    unfold Waits
    rw [moved.orders]
    exact waits

variable {shared : Shared} {trace : List (Move Thread AppAction)}
variable {state : System.State Call Reply PyException Shared Thread}

theorem call_awaits (points : shared.db.Points)
    (run : (deployment settings (· = loop) Database.ByApp).Run shared trace state)
    {move : Move Thread AppAction} (member : move ∈ trace) {thread : Thread} {request : Call}
    {note : Note} {reply : Except PyException (Reply request)}
    (label : move.label = .call thread request note reply) :
    move.before.shared.db.Awaits request := by
  intro order driver attempt row present same
  subst attempt
  obtain ⟨_,_,copy,named,waits⟩ := ownedWaits.attempt points run member label
  exact waits row present (same.trans named.symm)

theorem laden_later (points : shared.db.Points)
    (run : (deployment settings (· = loop) Database.ByApp).Run shared trace state) {driver : UUID}
    {move : Move Thread AppAction} (member : move ∈ trace)
    (laden : move.before.shared.db.Laden driver) : move.after.shared.db.Laden driver := by
  rcases move_cases (run.step_of_mem member) with
    ⟨same,_⟩ | ⟨thread,request,note,reply,label,answered⟩ | ⟨action,_,moved⟩
  · rw [same]
    exact laden
  · exact (Call.respond_written answered).laden (call_awaits points run member label) laden
  · exact moved.laden_iff.mpr laden

theorem rests_later (run : (deployment settings (· = loop) Database.ByApp).Run shared trace state)
    {driver : UUID} (rests : shared.db.Rests driver)
    (unladen : ∀ online ∈ trace, online.label = .outside (.goOnline driver) →
      ¬online.before.shared.db.Laden driver) : state.shared.db.Rests driver := by
  have always : Execution.Throughout (System.State.idle shared) trace (·.shared.db.Rests driver) := by
    apply run.throughout rests
    intro move member rests step
    rcases move_cases step with ⟨same,_⟩ | ⟨_,_,_,_,_,answered⟩ | ⟨action,label,moved⟩
    · rw [same]
      exact rests
    · exact (Call.respond_written answered).rests rests
    · exact moved.rests rests (fun opened => unladen move member (opened ▸ label))
  exact always.final run

theorem committed_assigns {move : Move Thread AppAction} {driver : UUID}
    (step : (deployment settings loops Database.ByApp).Step move.before move.label move.after)
    (committed : move.committed = some driver) :
    ∃ order ∈ move.before.shared.db.orders.keys, move.Assigns order driver := by
  obtain ⟨thread,order,note,label⟩ := committed_label committed
  rcases Call.respond_attempt (move_call step label) with ⟨_,assigned,_⟩ | ⟨_,said,_,_⟩
  · refine ⟨order,assigned.known,⟨thread,note,_,label⟩,fun same => ?_⟩
    exact assigned.taken.2 (same ▸ assigned.available)
  · exact absurd rfl said

theorem assigns_available {move : Move Thread AppAction} {order driver : UUID}
    (step : (deployment settings (· = loop) Database.ByApp).Step move.before move.label move.after)
    (assigns : move.Assigns order driver) : move.before.shared.db.DriverAvailable driver := by
  obtain ⟨⟨thread,note,reply,label⟩,changed⟩ := assigns
  rcases Call.respond_attempt (move_call step label) with ⟨_,assigned,_⟩ | ⟨same,_⟩
  · exact assigned.available
  · exact absurd same changed

/-- A driver is given a second order just when it has come online with the first
one still on it. -/
theorem singleOrder_iff (start : shared.db.SingleOrder)
    (run : (deployment settings (· = loop) Database.ByApp).Run shared trace state) :
    ∀ first move rest, trace = first ++ move::rest → ∀ order driver, move.Assigns order driver →
      ((¬move.before.shared.db.Laden driver ∧ ¬move.before.shared.db.HasCurrent driver) ↔
        ∀ online ∈ first, online.label = .outside (.goOnline driver) →
          ¬online.before.shared.db.Laden driver) := by
  intro first move rest located order driver assigns
  obtain ⟨earlier,step,_⟩ := run.split located
  have available := assigns_available step assigns
  constructor
  · intro ⟨unladen,_⟩ online member _ laden
    obtain ⟨front,between,middle⟩ := List.append_of_mem member
    obtain ⟨_,_,following⟩ := earlier.split middle
    have opened := laden_later start.points earlier member laden
    have always : Execution.Throughout online.after between (·.shared.db.Laden driver) := by
      apply following.throughout opened
      intro later inside laden _
      exact laden_later start.points earlier (by simp [middle,inside]) laden
    exact unladen (always.final following)
  · intro unladen
    have single := rests_later earlier (start.resting driver) unladen available
    have points : move.before.shared.db.Points :=
      (ownedWaits.throughout start.points earlier).final earlier
    exact ⟨single,fun current => single (points.laden current)⟩

/-- In a replayed run of one loop, a committed assignment of which something is told. -/
theorem committed_replayed {moves : List (System.Move Shared Note Unit Job AppAction)} {shared : Shared}
    {told : Move Unit AppAction → UUID → Bool} {tellings : List Bool}
    (replayed : ((System.replay (deployment {} (· = ()) Database.ByApp) moves
      (System.State.idle shared)).map (fun done => done.1.filterMap (fun move =>
        (Move.committed move).map (told move)))) = some tellings) (somewhere : true ∈ tellings) :
    ∃ (trace : List (Move Unit AppAction)) (state : System.State Call Reply PyException Shared Unit),
      (deployment {} (· = ()) Database.ByApp).Run shared trace state ∧
        ∃ move ∈ trace, ∃ order ∈ move.before.shared.db.orders.keys, ∃ driver,
          move.Assigns order driver ∧ told move driver = true := by
  obtain ⟨⟨trace,state⟩,replayed,committed⟩ := Option.map_eq_some_iff.mp replayed
  have run := System.replay_execution replayed
  rw [← committed] at somewhere
  obtain ⟨move,member,wanted⟩ := List.mem_filterMap.mp somewhere
  obtain ⟨driver,committed,telling⟩ := Option.map_eq_some_iff.mp wanted
  obtain ⟨order,known,assigns⟩ := committed_assigns (run.step_of_mem member) committed
  exact ⟨trace,state,run,move,member,order,known,driver,assigns,telling⟩

def reopenStart : Shared :=
  ⟨Sample.database [Sample.driver 1 "1"] [Sample.order 3,Sample.order 4],0⟩

/-- The tables once order 3 is assigned, with the driver at the given status. -/
def reopened (status : DriverStatus) : Shared :=
  ⟨Sample.database [{Sample.driver 1 "1" with status := status,currentOrderId := some (Sample.id 3)}]
    [(Sample.order 3).assign (Sample.id 1) 0,Sample.order 4],0⟩

/-- The first tick gives order 3 to the driver and finds nobody for order 4. The app
closes and opens, and the second tick gives it order 4 too. -/
def reopenMoves : List (System.Move Shared Note Unit Job AppAction) :=
  let found := {Sample.driver 1 "1" with currentOrderId := some (Sample.id 3)}
  [.start () .dispatchTick,
    .answer () {Sample.note 0 with orders := [Sample.order 3,Sample.order 4]}] ++
  Sample.evaluation () 0 [Sample.driver 1 "1"] (Sample.id 1) ++
  [.answer () (Sample.note 0),.answer () (Sample.note 0),.answer () (Sample.note 0),
    .outside (.goOffline (Sample.id 1)) (reopened .offline),
    .outside (.goOnline (Sample.id 1)) (reopened .onlineAvailable),
    .start () .dispatchTick,.answer () {Sample.note 0 with orders := [Sample.order 4]}] ++
  Sample.evaluation () 0 [found] (Sample.id 1)

theorem reopen_replayed : ((System.replay (deployment {} (· = ()) Database.ByApp) reopenMoves
    (System.State.idle reopenStart)).map (fun done => done.1.filterMap (fun move =>
      (Move.committed move).map (fun driver => decide (move.before.shared.db.Laden driver ∧
        move.before.shared.db.HasCurrent driver))))) = some [false,true] := by
  decide +kernel

theorem reopen : ∃ (trace : List (Move Unit AppAction))
    (state : System.State Call Reply PyException Shared Unit),
      (deployment {} (· = ()) Database.ByApp).Run reopenStart trace state ∧
        ∃ move ∈ trace, ∃ order driver, move.Assigns order driver ∧
          move.before.shared.db.Laden driver ∧ move.before.shared.db.HasCurrent driver := by
  obtain ⟨trace,state,run,move,member,order,_,driver,assigns,carries⟩ :=
    committed_replayed reopen_replayed (by simp)
  exact ⟨trace,state,run,move,member,order,driver,assigns,of_decide_eq_true carries⟩

theorem reopenStart_single : reopenStart.db.SingleOrder := ⟨by decide +kernel,by decide +kernel⟩

/-- A driver can be given a second order while it carries the first. -/
theorem singleOrder_fails : ¬∀ (shared : Shared) (trace : List (Move Unit AppAction))
    (state : System.State Call Reply PyException Shared Unit), shared.db.SingleOrder →
      (deployment {} (· = ()) Database.ByApp).Run shared trace state →
        ∀ move ∈ trace, ∀ order driver, move.Assigns order driver →
          ¬move.before.shared.db.Laden driver ∧ ¬move.before.shared.db.HasCurrent driver := by
  intro claimed
  obtain ⟨trace,state,run,move,member,order,driver,assigns,laden,_⟩ := reopen
  exact (claimed reopenStart trace state reopenStart_single run move member order driver assigns).1
    laden

theorem reopen_came_online_laden : ∃ (trace first rest : List (Move Unit AppAction))
    (state : System.State Call Reply PyException Shared Unit) (move : Move Unit AppAction)
    (order driver : UUID), (deployment {} (· = ()) Database.ByApp).Run reopenStart trace state ∧
      trace = first ++ move::rest ∧ move.Assigns order driver ∧
        ¬∀ online ∈ first, online.label = .outside (.goOnline driver) →
          ¬online.before.shared.db.Laden driver := by
  obtain ⟨trace,state,run,move,member,order,driver,assigns,laden,_⟩ := reopen
  obtain ⟨first,rest,located⟩ := List.append_of_mem member
  refine ⟨trace,first,rest,state,move,order,driver,run,located,assigns,?_⟩
  rw [← singleOrder_iff reopenStart_single run first move rest located order driver assigns]
  exact fun single => single.1 laden

end
end FoodDispatch
