import FoodDispatch.Accounting

/-! What the tables record for good. An order row keeps what its request asked for, and a
driver row its id, name and phone; rows are only ever appended, an order's by the commit
that created it and a driver's by the first seeding that knows its phone. -/
namespace FoodDispatch
open Library

/-- The row as it was when its order was created. -/
def Order.asCreated (row : Order) : Order :=
  {row with dispatchStatus := .pending,assignedDriverId := none,assignedAt := none}

@[simp] theorem Order.asCreated_assign (driver : UUID) (now : ℤ) (row : Order) :
    (row.assign driver now).asCreated = row.asCreated := rfl

@[simp] theorem Order.asCreated_hold (row : Order) : row.hold.asCreated = row.asCreated := rfl

@[simp] theorem Order.asCreated_new (id : UUID) (payload : OrderCreateRequest) (ready : ℤ) :
    (Order.new id payload ready).asCreated = Order.new id payload ready := rfl

abbrev Identity := UUID × String × String

def Driver.identity (row : Driver) : Identity := (row.id,row.name,row.phone)

@[simp] theorem Driver.identity_assign (order : UUID) (row : Driver) :
    (row.assign order).identity = row.identity := rfl

@[simp] theorem Driver.identity_moveTo (lat lng : Double) (now : ℤ) (row : Driver) :
    (row.moveTo lat lng now).identity = row.identity := rfl

namespace Database

/-- These orders and drivers were added, and the others are what they were. -/
structure Recorded (db next : Database) (orders : List Order) (drivers : List Identity) : Prop where
  orders : next.orders.rows.map Order.asCreated = db.orders.rows.map Order.asCreated ++ orders
  drivers : next.drivers.rows.map Driver.identity = db.drivers.rows.map Driver.identity ++ drivers

variable {db next : Database} {order driver : UUID} {time : ℤ}

theorem Recorded.refl (db : Database) : db.Recorded db [] [] :=
  ⟨(List.append_nil _).symm,(List.append_nil _).symm⟩

theorem Recorded.trans {middle : Database} {orders later : List Order}
    {drivers others : List Identity} (first : db.Recorded middle orders drivers)
    (second : middle.Recorded next later others) :
    db.Recorded next (orders ++ later) (drivers ++ others) :=
  ⟨by rw [second.orders,first.orders,List.append_assoc],
    by rw [second.drivers,first.drivers,List.append_assoc]⟩

theorem Held.recorded (held : db.Held next order) : db.Recorded next [] [] where
  orders := by rw [held.orders,Table.map_update _ Order.asCreated_hold,List.append_nil]
  drivers := by rw [held.drivers,List.append_nil]

theorem Assigned.recorded (assigned : db.Assigned next order driver time) :
    db.Recorded next [] [] where
  orders := by rw [assigned.orders,Table.map_update _ (Order.asCreated_assign _ _),List.append_nil]
  drivers := by rw [assigned.drivers,Table.map_update _ (Driver.identity_assign _),List.append_nil]

end Database

namespace Transaction
variable {db next : Database}

theorem commitOrder_recorded {id : UUID} {payload : OrderCreateRequest} {ready : ℤ}
    (done : commitOrder id payload ready db = .ok ((),next)) :
    db.Recorded next [Order.new id payload ready] [] := by
  have rows := (commitOrder_grown done).2.1
  unfold commitOrder insertOrder at done
  split at done
  next =>
    obtain ⟨drivers,_⟩ := check_ok.mp done
    exact ⟨by rw [rows,List.map_append]; rfl,by rw [drivers,List.append_nil]⟩
  next => contradiction

/-- The drivers that a seeding has to insert into a table with these phones. -/
def newcomers (phones : List String) : List (DriverSeed × UUID × ℤ) → List Identity
  | [] => []
  | (seed,id,_)::rest =>
    if seed.phone ∈ phones then newcomers phones rest
    else (id,seed.name,seed.phone)::newcomers (phones ++ [seed.phone]) rest

theorem seedDriver_recorded {seed : DriverSeed} {id : UUID} {now : ℤ} {state : DriverState}
    (done : seedDriver seed id now db = .ok (state,next)) :
    db.Recorded next [] (newcomers (db.drivers.rows.map Driver.phone) [(seed,id,now)]) := by
  obtain ⟨found,middle,selected,done⟩ := bind_ok done
  obtain ⟨searched,same⟩ := Prod.mk.inj (Except.ok.inj selected)
  subst same
  cases found with
  | none =>
    obtain ⟨_,middle,inserted,returned⟩ := bind_ok done
    cases returned
    have unknown : seed.phone ∉ db.drivers.rows.map Driver.phone := by
      intro known
      obtain ⟨row,member,same⟩ := List.mem_map.mp known
      simpa [same] using List.find?_eq_none.mp searched row member
    unfold insertDriver at inserted
    split at inserted
    next fresh =>
      obtain ⟨drivers,orders⟩ := check_ok.mp inserted
      refine ⟨by rw [orders,List.append_nil],?_⟩
      rw [drivers]
      simp [newcomers,unknown,Table.insert,Driver.identity]
    next => contradiction
  | some driver =>
    cases done
    have known : seed.phone ∈ db.drivers.rows.map Driver.phone := by
      have same : driver.phone = seed.phone := by simpa using List.find?_some searched
      rw [← same]
      exact List.mem_map_of_mem (List.mem_of_find?_eq_some searched)
    simpa [newcomers,known] using Database.Recorded.refl db

theorem seedDrivers_recorded {seeds : List (DriverSeed × UUID × ℤ)} {states : List DriverState}
    (done : seedDrivers seeds db = .ok (states,next)) :
    db.Recorded next [] (newcomers (db.drivers.rows.map Driver.phone) seeds) := by
  induction seeds generalizing db states with
  | nil =>
    cases done
    exact .refl _
  | cons first rest ih =>
    obtain ⟨state,middle,seeded,done⟩ := bind_ok done
    obtain ⟨others,last,remaining,returned⟩ := bind_ok done
    cases returned
    obtain ⟨seed,id,now⟩ := first
    have head := seedDriver_recorded seeded
    have both := head.trans (ih remaining)
    have phones : middle.drivers.rows.map Driver.phone = db.drivers.rows.map Driver.phone ++
        (newcomers (db.drivers.rows.map Driver.phone) [(seed,id,now)]).map (·.2.2) := by
      have same := congrArg (List.map (fun identity : Identity => identity.2.2)) head.drivers
      simpa [Driver.identity,Function.comp_def] using same
    rw [phones] at both
    by_cases known : seed.phone ∈ db.drivers.rows.map Driver.phone
    · simpa [newcomers,known] using both
    · simpa [newcomers,known] using both

theorem pushPositions_recorded {now : ℤ} {states : List DriverState}
    (done : pushPositions now states db = .ok ((),next)) : db.Recorded next [] [] := by
  induction states generalizing db with
  | nil =>
    cases done
    exact .refl _
  | cons state rest ih =>
    obtain ⟨_,middle,moved,done⟩ := bind_ok done
    obtain ⟨drivers,orders⟩ := check_ok.mp moved
    have head : db.Recorded middle [] [] :=
      ⟨by rw [orders,List.append_nil],
        by rw [drivers,Table.map_update _ (Driver.identity_moveTo _ _ _),List.append_nil]⟩
    exact head.trans (ih done)

end Transaction
/-- The order that the call created, if it was effective. -/
def Call.created (request : Call) (db next : Database) : Option Order :=
  match request with
  | .commitOrder id payload ready => if next = db then none else some (Order.new id payload ready)
  | _ => none

/-- The drivers that the call may add to a table with these phones. -/
def Call.adds (request : Call) (phones : List String) (drivers : List Identity) : Prop :=
  drivers = [] ∨ ∃ seeds, request = .seedDrivers seeds ∧
    drivers = Transaction.newcomers phones seeds

/-- The call left the rows that were there as they were, but for what dispatching writes. -/
def Call.Records (request : Call) (db next : Database) : Prop :=
  ∃ drivers, request.adds (db.drivers.rows.map Driver.phone) drivers ∧
    db.Recorded next (request.created db next).toList drivers

theorem Call.created_self (request : Call) (db : Database) : request.created db db = none := by
  unfold Call.created
  split
  · exact if_pos rfl
  · rfl

theorem Call.records_refl (request : Call) (db : Database) : request.Records db db := by
  refine ⟨[],Or.inl rfl,?_⟩
  rw [created_self]
  exact .refl db

theorem Call.commit_records {α : Type} {request : Call} {body : Transaction α} {db next : Database}
    {said : Except PyException α} (done : Call.commit body db = (said,next))
    (records : ∀ value, body db = .ok (value,next) → request.Records db next) :
    request.Records db next := by
  rcases Call.commit_cases done with ⟨value,ran,_⟩ | ⟨_,_,_,same⟩
  · exact records value ran
  · exact same ▸ records_refl request next

theorem Call.answer_records {request : Call} {note : Note} {db next : Database}
    {said : Except PyException (Reply request)}
    (answered : request.answer note db = some (said,next)) : request.Records db next := by
  cases request with
  | now | getDrivingEta =>
    cases answered
    exact records_refl _ db
  | fetchActionableOrders => exact (Call.answer_fetch answered).2.2 ▸ records_refl _ next
  | selectCandidates order cutoff => exact (Call.answer_select answered).2.2 ▸ records_refl _ next
  | applyHold order =>
    apply Call.commit_records (Option.some.inj answered)
    intro _ ran
    obtain ⟨held,done,holds⟩ := Transaction.applyHold_spec order db
    rw [done] at ran
    cases ran
    exact ⟨[],Or.inl rfl,holds.recorded⟩
  | attemptAtomicAssignment order driver =>
    apply Call.commit_records (Option.some.inj answered)
    intro _ ran
    rcases Transaction.attemptAtomicAssignment_cases order driver note.now db with
      ⟨_,done⟩ | ⟨_,_,done⟩ | ⟨assigned,done,holds⟩
    · rw [done] at ran
      cases ran
      exact records_refl _ db
    · rw [done] at ran
      contradiction
    · rw [done] at ran
      cases ran
      exact ⟨[],Or.inl rfl,holds.recorded⟩
  | commitOrder id payload ready =>
    apply Call.commit_records (Option.some.inj answered)
    intro _ ran
    have rows := (Transaction.commitOrder_grown ran).2.1
    have moved : next ≠ db := by
      rintro rfl
      have longer := congrArg List.length rows
      simp at longer
    refine ⟨[],Or.inl rfl,?_⟩
    simpa [Call.created,moved] using Transaction.commitOrder_recorded ran
  | refreshOrder order =>
    apply Call.commit_records (Option.some.inj answered)
    intro _ ran
    unfold Transaction.refreshOrder at ran
    split at ran
    · cases ran
      exact records_refl _ db
    · contradiction
  | seedDrivers seeds =>
    apply Call.commit_records (Option.some.inj answered)
    exact fun _ ran => ⟨_,Or.inr ⟨seeds,rfl,rfl⟩,Transaction.seedDrivers_recorded ran⟩
  | pushPositions stamp states =>
    apply Call.commit_records (Option.some.inj answered)
    exact fun _ ran => ⟨[],Or.inl rfl,Transaction.pushPositions_recorded ran⟩

theorem Call.respond_records {request : Call} {note : Note} {shared next : Shared}
    {reply : Except PyException (Reply request)}
    (done : request.respond note shared = some (reply,next)) : request.Records shared.db next.db := by
  rcases (Call.respond_cases done).2 with ⟨_,same,_⟩ | ⟨_,_,answered,_⟩
  · exact same ▸ records_refl request shared.db
  · exact Call.answer_records answered

section
variable {Thread : Type} [DecidableEq Thread] {settings : Settings} {loops : Thread → Prop}
variable {shared : Shared} {trace : List (Move Thread Empty)}
variable {state : System.State Call Reply PyException Shared Thread}

/-- The order that the move created. -/
def Move.created {Action : Type} (move : Move Thread Action) : Option Order :=
  match move.label with
  | .call _ request _ _ => request.created move.before.shared.db move.after.shared.db
  | _ => none

theorem move_records {move : Move Thread Empty}
    (step : (deployment settings loops nobody).Step move.before move.label move.after) :
    ∃ joined, move.before.shared.db.Recorded move.after.shared.db move.created.toList joined := by
  rcases move_cases step with ⟨same,_⟩ | ⟨thread,request,note,reply,label,answered⟩ | ⟨action,_⟩
  · have nothing : move.created = none := by
      unfold Move.created
      split
      · rw [same]
        exact Call.created_self _ _
      · rfl
    rw [nothing,same]
    exact ⟨[],.refl _⟩
  · obtain ⟨joined,_,recorded⟩ := Call.respond_records answered
    have created : move.created = request.created move.before.shared.db move.after.shared.db := by
      unfold Move.created
      rw [label]
    rw [created]
    exact ⟨joined,recorded⟩
  · exact action.elim

/-- The orders in the tables are those that were created, one for each effective commit and
in that order, and each still says what its request said; the drivers are the same
persons as before, followed by those who joined. -/
theorem requests_recorded (run : (deployment settings loops nobody).Run shared trace state) :
    state.shared.db.orders.rows.map Order.asCreated =
        shared.db.orders.rows.map Order.asCreated ++ trace.filterMap Move.created ∧
      shared.db.drivers.rows.map Driver.identity <+:
        state.shared.db.drivers.rows.map Driver.identity := by
  induction run with
  | nil => exact ⟨(List.append_nil _).symm,List.prefix_refl _⟩
  | @snoc trace before label after run step ih =>
    obtain ⟨orders,drivers⟩ := ih
    let last : Move Thread Empty := ⟨before,label,after⟩
    have records : ∃ joined, last.before.shared.db.Recorded last.after.shared.db
        last.created.toList joined := move_records step
    obtain ⟨joined,recorded⟩ := records
    constructor
    · have added : [last].filterMap Move.created = last.created.toList := by
        cases created : last.created <;> simp [created]
      rw [recorded.orders,orders,List.filterMap_append,List.append_assoc,added]
    · rw [recorded.drivers]
      exact drivers.trans (List.prefix_append _ _)

theorem life_created_replayed : ((System.replay (deployment {} (· = true) nobody)
    (Sample.life true false) (System.State.idle ⟨Database.empty,0⟩)).map (fun done =>
      (done.1.filterMap Move.created,done.2.shared.db.orders.rows.map Order.dispatchStatus))) =
        some ([Order.new (Sample.id 3) Sample.payload (minutes 18)],[.assigned]) := by
  decide +kernel

theorem life_recorded : ∃ (trace : List (Move Bool Empty))
    (state : System.State Call Reply PyException Shared Bool),
      (deployment {} (· = true) nobody).Run ⟨Database.empty,0⟩ trace state ∧
        state.shared.db.orders.rows.map Order.dispatchStatus = [.assigned] ∧
          state.shared.db.orders.rows.map Order.asCreated =
            [Order.new (Sample.id 3) Sample.payload (minutes 18)] := by
  obtain ⟨⟨trace,state⟩,replayed,same⟩ := Option.map_eq_some_iff.mp life_created_replayed
  obtain ⟨created,status⟩ := Prod.mk.inj same
  have run := System.replay_execution replayed
  refine ⟨trace,state,run,status,?_⟩
  rw [(requests_recorded run).1,created]
  rfl

end
end FoodDispatch
