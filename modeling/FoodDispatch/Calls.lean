import FoodDispatch.Library.Interleaving
import FoodDispatch.MapsModels
import FoodDispatch.Transactions

/-! The calls at which the program awaits its surroundings, and the answers the
clock, the database and the Maps service may give. Each database session is one
call, since PostgreSQL makes it one transaction. -/
namespace FoodDispatch
open Library

/-- Which reading of the clock is meant; the order only tells readings apart. -/
inductive Site where
  | gate (order : UUID)
  | staleCutoff (order : UUID)
  | score (order : UUID)
  | creation
  | positions
  deriving DecidableEq

inductive Call where
  | now (site : Site)
  | fetchActionableOrders
  | selectCandidates (order : UUID) (staleCutoff : ℤ)
  | getDrivingEta (order driver : UUID) (origin destination : LatLng)
  | applyHold (order : UUID)
  | attemptAtomicAssignment (order driver : UUID)
  | commitOrder (id : UUID) (payload : OrderCreateRequest) (predictedReadyAt : ℤ)
  | refreshOrder (order : UUID)
  | seedDrivers (seeds : List (DriverSeed × UUID × ℤ))
  | pushPositions (now : ℤ) (states : List DriverState)

abbrev Reply : Call → Type
  | .now _ => ℤ
  | .fetchActionableOrders => List Order
  | .selectCandidates _ _ => List Driver
  | .getDrivingEta _ _ _ _ => RouteETAResult
  | .applyHold _ => Unit
  | .attemptAtomicAssignment _ _ => Bool
  | .commitOrder _ _ _ => Unit
  | .refreshOrder _ => Order
  | .seedDrivers _ => List DriverState
  | .pushPositions _ _ => Unit

abbrev Program := Library.Program Call Reply PyException

/-- A failure of the surroundings: before a transaction took effect, or after it. -/
inductive Fault where
  | none
  | before (error : PyException)
  | after (error : PyException)
  deriving DecidableEq

def Fault.Effective : Fault → Prop
  | .before _ => False
  | _ => True

/-- What the surroundings choose for one call: the clock reading, a failure, the
order in which a query returns its rows, and the answer of the Maps service. -/
structure Note where
  now : ℤ
  fault : Fault
  orders : List Order
  drivers : List Driver
  eta : RouteETAResult

structure Shared where
  db : Database
  clock : ℤ

namespace Call

/-- A transaction that raises is rolled back. -/
def commit {α : Type} (body : Transaction α) (db : Database) : Except PyException α × Database :=
  match body db with
  | .ok (value,next) => (.ok value,next)
  | .error error => (.error error,db)

def answer (note : Note) (db : Database) :
    (call : Call) → Option (Except PyException (Reply call) × Database)
  | .now _ => some (.ok note.now,db)
  | .fetchActionableOrders =>
    if note.orders.Perm db.actionableOrders then some (.ok note.orders,db) else none
  | .selectCandidates _ staleCutoff =>
    if note.drivers.Perm (db.candidates staleCutoff) then some (.ok note.drivers,db) else none
  | .getDrivingEta _ _ _ _ => some (.ok note.eta,db)
  | .applyHold order => some (commit (Transaction.applyHold order) db)
  | .attemptAtomicAssignment order driver =>
    some (commit (Transaction.attemptAtomicAssignment order driver note.now) db)
  | .commitOrder id payload ready => some (commit (Transaction.commitOrder id payload ready) db)
  | .refreshOrder order => some (commit (Transaction.refreshOrder order) db)
  | .seedDrivers seeds => some (commit (Transaction.seedDrivers seeds) db)
  | .pushPositions stamp states => some (commit (Transaction.pushPositions stamp states) db)

/-- A call may also fail, with or without effect. -/
def respond (call : Call) (note : Note) (shared : Shared) :
    Option (Except PyException (Reply call) × Shared) :=
  match note.fault with
  | .none => (call.answer note shared.db).map (fun done => (done.1,⟨done.2,note.now⟩))
  | .before error => some (.error error,⟨shared.db,note.now⟩)
  | .after error => (call.answer note shared.db).map (fun done => (.error error,⟨done.2,note.now⟩))

end Call

/-- What one call, made at `time`, can do to the database. -/
inductive Database.Written (call : Call) (time : ℤ) (db next : Database) : Prop
  | unchanged (same : next = db)
  | held (order) (hold : call = .applyHold order) (held : db.Held next order)
  | assigned (order driver) (attempt : call = .attemptAtomicAssignment order driver)
      (assigned : db.Assigned next order driver time)
  | created (id payload ready) (commit : call = .commitOrder id payload ready)
      (grown : db.Grown next)
      (rows : next.orders.rows = db.orders.rows ++ [Order.new id payload ready])
  | moved (grown : db.Grown next) (orders : next.orders = db.orders)

inductive Database.Attempted (order driver : UUID) (note : Note) (db next : Database)
    (reply : Except PyException Bool) : Prop
  | assigned (effective : note.fault.Effective)
      (assigned : db.Assigned next order driver note.now) (said : reply ≠ .ok false)
  | nothing (same : next = db) (said : reply ≠ .ok true)
      (why : note.fault.Effective → db.DriverAvailable driver → order ∉ db.orders.keys)
      (taken : note.fault = .none → ¬db.DriverAvailable driver → reply = .ok false)

namespace Call
variable {call : Call} {note : Note} {shared next : Shared} {db after : Database}

theorem commit_cases {α : Type} {body : Transaction α} {said : Except PyException α}
    (done : commit body db = (said,after)) :
    (∃ value, body db = .ok (value,after) ∧ said = .ok value) ∨
      (∃ error, body db = .error error ∧ said = .error error ∧ after = db) := by
  unfold commit at done
  cases ran : body db with
  | ok pair =>
    rw [ran] at done
    cases done
    exact Or.inl ⟨pair.1,rfl,rfl⟩
  | error error =>
    rw [ran] at done
    cases done
    exact Or.inr ⟨error,rfl,rfl,rfl⟩

theorem respond_cases {reply : Except PyException (Reply call)}
    (done : call.respond note shared = some (reply,next)) :
    next.clock = note.now ∧
      ((¬note.fault.Effective ∧ next.db = shared.db ∧ ∃ error, reply = .error error) ∨
        (note.fault.Effective ∧ ∃ said, call.answer note shared.db = some (said,next.db) ∧
          (reply = said ∨ (note.fault ≠ .none ∧ ∃ error, reply = .error error)))) := by
  unfold respond at done
  split at done
  next fault =>
    obtain ⟨⟨said,after⟩,answered,same⟩ := Option.map_eq_some_iff.mp done
    cases same
    exact ⟨rfl,Or.inr ⟨by simp [fault,Fault.Effective],said,answered,Or.inl rfl⟩⟩
  next error fault =>
    cases done
    exact ⟨rfl,Or.inl ⟨by simp [fault,Fault.Effective],rfl,error,rfl⟩⟩
  next error fault =>
    obtain ⟨⟨said,after⟩,answered,same⟩ := Option.map_eq_some_iff.mp done
    cases same
    exact ⟨rfl,Or.inr ⟨by simp [fault,Fault.Effective],said,answered,
      Or.inr ⟨by simp [fault],error,rfl⟩⟩⟩

theorem answer_fetch {said : Except PyException (List Order)}
    (answered : Call.fetchActionableOrders.answer note db = some (said,after)) :
    said = .ok note.orders ∧ note.orders.Perm db.actionableOrders ∧ after = db := by
  simp only [answer] at answered
  split at answered
  next permuted =>
    cases answered
    exact ⟨rfl,permuted,rfl⟩
  next => contradiction

theorem answer_select {order : UUID} {cutoff : ℤ} {said : Except PyException (List Driver)}
    (answered : (Call.selectCandidates order cutoff).answer note db = some (said,after)) :
    said = .ok note.drivers ∧ note.drivers.Perm (db.candidates cutoff) ∧ after = db := by
  simp only [answer] at answered
  split at answered
  next permuted =>
    cases answered
    exact ⟨rfl,permuted,rfl⟩
  next => contradiction

theorem answer_written {said : Except PyException (Reply call)}
    (answered : call.answer note db = some (said,after)) :
    Database.Written call note.now db after := by
  cases call with
  | now | getDrivingEta =>
    cases answered
    exact .unchanged rfl
  | fetchActionableOrders => exact .unchanged (answer_fetch answered).2.2
  | selectCandidates order cutoff => exact .unchanged (answer_select answered).2.2
  | applyHold order =>
    obtain ⟨held,done,holds⟩ := Transaction.applyHold_spec order db
    rcases commit_cases (Option.some.inj answered) with ⟨_,ran,_⟩ | ⟨_,ran,_⟩
    · rw [done] at ran
      cases ran
      exact .held order rfl holds
    · rw [done] at ran
      contradiction
  | attemptAtomicAssignment order driver =>
    rcases commit_cases (Option.some.inj answered) with ⟨_,ran,_⟩ | ⟨_,_,_,same⟩
    · rcases Transaction.attemptAtomicAssignment_cases order driver note.now db with
        ⟨_,done⟩ | ⟨_,_,done⟩ | ⟨assigned,done,holds⟩
      · rw [done] at ran
        cases ran
        exact .unchanged rfl
      · rw [done] at ran
        contradiction
      · rw [done] at ran
        cases ran
        exact .assigned order driver rfl holds
    · exact .unchanged same
  | commitOrder id payload ready =>
    rcases commit_cases (Option.some.inj answered) with ⟨_,ran,_⟩ | ⟨_,_,_,same⟩
    · obtain ⟨grown,rows,_⟩ := Transaction.commitOrder_grown ran
      exact .created id payload ready rfl grown rows
    · exact .unchanged same
  | refreshOrder order =>
    rcases commit_cases (Option.some.inj answered) with ⟨_,ran,_⟩ | ⟨_,_,_,same⟩
    · unfold Transaction.refreshOrder at ran
      split at ran
      · cases ran
        exact .unchanged rfl
      · contradiction
    · exact .unchanged same
  | seedDrivers seeds =>
    rcases commit_cases (Option.some.inj answered) with ⟨_,ran,_⟩ | ⟨_,_,_,same⟩
    · obtain ⟨grown,orders⟩ := Transaction.seedDrivers_grown ran
      exact .moved grown orders
    · exact .unchanged same
  | pushPositions stamp states =>
    rcases commit_cases (Option.some.inj answered) with ⟨_,ran,_⟩ | ⟨_,_,_,same⟩
    · obtain ⟨grown,orders⟩ := Transaction.pushPositions_grown ran
      exact .moved grown orders
    · exact .unchanged same

theorem respond_clock {reply : Except PyException (Reply call)}
    (done : call.respond note shared = some (reply,next)) : next.clock = note.now :=
  (respond_cases done).1

theorem respond_written {reply : Except PyException (Reply call)}
    (done : call.respond note shared = some (reply,next)) :
    Database.Written call note.now shared.db next.db := by
  rcases (respond_cases done).2 with ⟨_,same,_⟩ | ⟨_,_,answered,_⟩
  · exact .unchanged same
  · exact answer_written answered

/-- What a call returns is what it was answered. -/
theorem respond_ok {value : Reply call} (done : call.respond note shared = some (.ok value,next)) :
    call.answer note shared.db = some (.ok value,next.db) := by
  rcases (respond_cases done).2 with ⟨_,_,_,failed⟩ | ⟨_,said,answered,told | ⟨_,_,failed⟩⟩
  · contradiction
  · rw [told]
    exact answered
  · contradiction

theorem respond_unchanged {reply : Except PyException (Reply call)}
    (done : call.respond note shared = some (reply,next))
    (reads : ∀ said after, call.answer note shared.db = some (said,after) → after = shared.db) :
    next.db = shared.db := by
  rcases (respond_cases done).2 with ⟨_,same,_⟩ | ⟨_,said,answered,_⟩
  · exact same
  · exact reads said next.db answered

theorem respond_now {site : Site} {reply : Except PyException ℤ}
    (done : (Call.now site).respond note shared = some (reply,next)) :
    next.db = shared.db ∧ ∀ time, reply = .ok time → time = note.now := by
  constructor
  · apply respond_unchanged done
    intro said after answered
    cases answered
    rfl
  · rintro time rfl
    obtain ⟨said,_⟩ := Prod.mk.inj (Option.some.inj (respond_ok done))
    exact (Except.ok.inj said).symm

theorem respond_fetch {reply : Except PyException (List Order)}
    (done : Call.fetchActionableOrders.respond note shared = some (reply,next)) :
    next.db = shared.db ∧ ∀ orders, reply = .ok orders → orders.Perm shared.db.actionableOrders := by
  constructor
  · exact respond_unchanged done (fun _ _ answered => (answer_fetch answered).2.2)
  · rintro orders rfl
    obtain ⟨same,permuted,_⟩ := answer_fetch (respond_ok done)
    cases same
    exact permuted

theorem respond_select {order : UUID} {cutoff : ℤ} {found : List Driver}
    (done : (Call.selectCandidates order cutoff).respond note shared = some (.ok found,next)) :
    found.Perm (shared.db.candidates cutoff) ∧ next.db = shared.db := by
  obtain ⟨same,permuted,unchanged⟩ := answer_select (respond_ok done)
  cases same
  exact ⟨permuted,unchanged⟩

theorem respond_attempt {order driver : UUID} {reply : Except PyException Bool}
    (done : (Call.attemptAtomicAssignment order driver).respond note shared = some (reply,next)) :
    Database.Attempted order driver note shared.db next.db reply := by
  rcases (respond_cases done).2 with ⟨silent,same,error,rfl⟩ | ⟨effective,said,answered,told⟩
  · refine .nothing same (by simp) (fun effective => absurd effective silent) ?_
    intro none
    simp [none,Fault.Effective] at silent
  · have ran := Option.some.inj answered
    unfold commit at ran
    rcases Transaction.attemptAtomicAssignment_cases order driver note.now shared.db with
      ⟨taken,outcome⟩ | ⟨available,unknown,outcome⟩ | ⟨assigned,outcome,holds⟩
    · rw [outcome] at ran
      obtain ⟨rfl,same⟩ := Prod.mk.inj ran
      refine .nothing same.symm ?_ (fun _ available => absurd available taken) ?_
      · rcases told with rfl | ⟨_,error,rfl⟩ <;> simp
      · intro none _
        rcases told with rfl | ⟨fault,_⟩
        · rfl
        · exact absurd none fault
    · rw [outcome] at ran
      obtain ⟨rfl,same⟩ := Prod.mk.inj ran
      refine .nothing same.symm ?_ (fun _ _ => unknown) (fun _ taken => absurd available taken)
      rcases told with rfl | ⟨_,error,rfl⟩ <;> simp
    · rw [outcome] at ran
      obtain ⟨rfl,rfl⟩ := Prod.mk.inj ran
      refine .assigned effective holds ?_
      rcases told with rfl | ⟨_,error,rfl⟩ <;> simp

end Call
end FoodDispatch
