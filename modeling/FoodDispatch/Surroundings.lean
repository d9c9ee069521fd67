import FoodDispatch.Deployment

/-! The sequential reading of the dispatch loop: one loop alone with fixed
surroundings, which answer every call at once and without failing. -/
namespace FoodDispatch
open Library

/-- `others` is what other writers do to the tables right before a lock. -/
structure Surroundings where
  clock : Site → ℤ
  lockedAt : UUID → UUID → ℤ
  maps : UUID → UUID → RouteETAResult
  orders : Database → List Order
  drivers : UUID → ℤ → Database → List Driver
  others : UUID → UUID → Database → Database
  fetched : ∀ db, (orders db).Perm db.actionableOrders
  found : ∀ order staleCutoff db, (drivers order staleCutoff db).Perm (db.candidates staleCutoff)

namespace Surroundings
variable (env : Surroundings)

def handle : (request : Call) → Database → Except PyException (Reply request) × Database
  | .now site, db => (.ok (env.clock site),db)
  | .fetchActionableOrders, db => (.ok (env.orders db),db)
  | .selectCandidates order staleCutoff, db => (.ok (env.drivers order staleCutoff db),db)
  | .getDrivingEta order driver _ _, db => (.ok (env.maps order driver),db)
  | .applyHold order, db => Call.commit (Transaction.applyHold order) db
  | .attemptAtomicAssignment order driver, db =>
    Call.commit (Transaction.attemptAtomicAssignment order driver (env.lockedAt order driver))
      (env.others order driver db)
  | .commitOrder id payload ready, db => Call.commit (Transaction.commitOrder id payload ready) db
  | .refreshOrder order, db => Call.commit (Transaction.refreshOrder order) db
  | .seedDrivers seeds, db => Call.commit (Transaction.seedDrivers seeds) db
  | .pushPositions stamp states, db => Call.commit (Transaction.pushPositions stamp states) db

def before : Call → Database → Database
  | .attemptAtomicAssignment order driver, db => env.others order driver db
  | _, db => db

def note (db : Database) : Call → Note
  | .now site => ⟨env.clock site,.none,[],[],.failure (.text "")⟩
  | .selectCandidates order staleCutoff =>
    ⟨0,.none,[],env.drivers order staleCutoff db,.failure (.text "")⟩
  | .getDrivingEta order driver _ _ => ⟨0,.none,[],[],env.maps order driver⟩
  | .attemptAtomicAssignment order driver =>
    ⟨env.lockedAt order driver,.none,[],[],.failure (.text "")⟩
  | _ => ⟨0,.none,env.orders db,[],.failure (.text "")⟩

/-- The answers are among those the interleaved system can give. -/
theorem handle_answers (request : Call) (db : Database) :
    request.answer (env.note db request) (env.before request db) = some (env.handle request db) := by
  cases request with
  | fetchActionableOrders => exact if_pos (env.fetched db)
  | selectCandidates order staleCutoff => exact if_pos (env.found order staleCutoff db)
  | _ => rfl

def Alone : Prop := ∀ order driver db, env.others order driver db = db

def run {α : Type} (program : Program α) (db : Database) : Except PyException α × Database :=
  Library.Program.run env.handle program db

theorem handle_attempt_others (order driver : UUID) (db : Database) :
    (¬(env.others order driver db).DriverAvailable driver ∧
      env.handle (.attemptAtomicAssignment order driver) db =
        (.ok false,env.others order driver db)) ∨
    (order ∉ (env.others order driver db).orders.keys ∧
      env.handle (.attemptAtomicAssignment order driver) db =
        (.error .integrityError,env.others order driver db)) ∨
    ∃ next, env.handle (.attemptAtomicAssignment order driver) db = (.ok true,next) ∧
      (env.others order driver db).Assigned next order driver (env.lockedAt order driver) := by
  have unfolded : env.handle (.attemptAtomicAssignment order driver) db =
      Call.commit (Transaction.attemptAtomicAssignment order driver (env.lockedAt order driver))
        (env.others order driver db) := rfl
  rw [unfolded]
  unfold Call.commit
  rcases Transaction.attemptAtomicAssignment_cases order driver (env.lockedAt order driver)
      (env.others order driver db) with
    ⟨taken,outcome⟩ | ⟨_,unknown,outcome⟩ | ⟨next,outcome,assigned⟩
  · rw [outcome]
    exact Or.inl ⟨taken,rfl⟩
  · rw [outcome]
    exact Or.inr (Or.inl ⟨unknown,rfl⟩)
  · rw [outcome]
    exact Or.inr (Or.inr ⟨next,rfl,assigned⟩)

variable {env}

theorem handle_attempt (alone : env.Alone) (order driver : UUID) (db : Database) :
    (¬db.DriverAvailable driver ∧
      env.handle (.attemptAtomicAssignment order driver) db = (.ok false,db)) ∨
    (order ∉ db.orders.keys ∧
      env.handle (.attemptAtomicAssignment order driver) db = (.error .integrityError,db)) ∨
    ∃ next, env.handle (.attemptAtomicAssignment order driver) db = (.ok true,next) ∧
      db.Assigned next order driver (env.lockedAt order driver) := by
  have attempted := env.handle_attempt_others order driver db
  rwa [alone order driver db] at attempted

end Surroundings

def Sample.surroundings (maps : UUID → UUID → RouteETAResult) : Surroundings :=
  ⟨fun _ => 0,fun _ _ => 0,maps,Database.actionableOrders,fun _ staleCutoff db => db.candidates staleCutoff,
    fun _ _ db => db,fun _ => .refl _,fun _ _ _ => .refl _⟩

end FoodDispatch
