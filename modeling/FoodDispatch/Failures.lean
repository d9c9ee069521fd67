import FoodDispatch.Library.Rollback
import FoodDispatch.Reading
import FoodDispatch.Surroundings

/-! Surroundings that fail. A call with an entry in `fails` raises it before it has
any effect; a transaction that raises by itself is rolled back. So no call that
raises leaves a trace. -/
namespace FoodDispatch
open Library

namespace Surroundings

def handleFailing (env : Surroundings) (fails : Call → Option PyException) (request : Call)
    (db : Database) : Except PyException (Reply request) × Database :=
  match fails request with
  | some error => (.error error,db)
  | none => env.handle request db

def runFailing {α : Type} (env : Surroundings) (fails : Call → Option PyException)
    (program : Program α) (db : Database) : Except PyException α × Database :=
  Library.Program.run (env.handleFailing fails) program db

variable {env : Surroundings} {fails : Call → Option PyException}

theorem handle_reads {request : Call} (read : request.Reads) (db : Database) :
    (env.handle request db).2 = db := by
  cases request with
  | now | selectCandidates | getDrivingEta => rfl
  | _ => contradiction

theorem handle_error (alone : env.Alone) {request : Call} {db next : Database}
    {error : PyException} (raised : env.handle request db = (.error error,next)) : next = db := by
  have committed {α : Type} {body : Transaction α}
      (failed : Call.commit body db = (.error error,next)) : next = db := by
    rcases Call.commit_cases failed with ⟨_,_,told⟩ | ⟨_,_,_,same⟩
    · contradiction
    · exact same
  cases request with
  | now | fetchActionableOrders | selectCandidates | getDrivingEta => cases raised
  | attemptAtomicAssignment order driver =>
    rw [handle,alone order driver db] at raised
    exact committed raised
  | applyHold | commitOrder | refreshOrder | seedDrivers | pushPositions => exact committed raised

/-- An attempt that finds its driver taken has written nothing. -/
theorem handle_refused (alone : env.Alone) {order driver : UUID} {db next : Database}
    (refused : env.handle (.attemptAtomicAssignment order driver) db = (.ok false,next)) :
    next = db := by
  rcases handle_attempt alone order driver db with ⟨_,outcome⟩ | ⟨_,outcome⟩ | ⟨_,outcome,_⟩
  · rw [outcome] at refused
    exact (Prod.mk.inj refused).2.symm
  · rw [outcome] at refused
    simp at refused
  · rw [outcome] at refused
    simp at refused

theorem handleFailing_reads {request : Call} (read : request.Reads) (db : Database) :
    (env.handleFailing fails request db).2 = db := by
  unfold handleFailing
  split
  · rfl
  · exact handle_reads read db

theorem handleFailing_error (alone : env.Alone) {request : Call} {db next : Database}
    {error : PyException} (raised : env.handleFailing fails request db = (.error error,next)) :
    next = db := by
  unfold handleFailing at raised
  split at raised
  · exact (Prod.mk.inj raised).2.symm
  · exact handle_error alone raised

theorem handleFailing_refused (alone : env.Alone) {order driver : UUID} {db next : Database}
    (refused : env.handleFailing fails (.attemptAtomicAssignment order driver) db =
      (.ok false,next)) : next = db := by
  unfold handleFailing at refused
  split at refused
  · simp at refused
  · exact handle_refused alone refused

end Surroundings
end FoodDispatch
