import FoodDispatch.Lifecycle

/-! What the writers do to the last heartbeats of the drivers: all of them keep these
as they are, but for the pushing of positions, which stamps them with its own reading
of the clock. -/
namespace FoodDispatch
open Library

namespace Database

/-- No driver disappears, and its last heartbeat is kept or written anew. -/
def Heartbeats (stamped : UUID → ℤ → Prop) (db next : Database) : Prop :=
  ∀ old ∈ db.drivers.rows, ∃ row ∈ next.drivers.rows, row.id = old.id ∧
    (row.lastLocationAt = old.lastLocationAt ∨
      ∃ time, stamped row.id time ∧ row.lastLocationAt = some time)

variable {stamped more : UUID → ℤ → Prop} {db next last : Database} {order driver : UUID} {time : ℤ}
variable {action : AppAction}

theorem Heartbeats.of_subset (kept : ∀ row ∈ db.drivers.rows, row ∈ next.drivers.rows) :
    db.Heartbeats stamped next :=
  fun old member => ⟨old,kept old member,rfl,Or.inl rfl⟩

theorem Heartbeats.refl (stamped : UUID → ℤ → Prop) (db : Database) : db.Heartbeats stamped db :=
  .of_subset (fun _ member => member)

theorem Heartbeats.mono (beats : db.Heartbeats stamped next)
    (implies : ∀ driver time, stamped driver time → more driver time) : db.Heartbeats more next := by
  intro old member
  obtain ⟨row,present,same,kept | ⟨time,stamp,written⟩⟩ := beats old member
  · exact ⟨row,present,same,Or.inl kept⟩
  · exact ⟨row,present,same,Or.inr ⟨time,implies _ _ stamp,written⟩⟩

theorem Heartbeats.trans (first : db.Heartbeats stamped next) (second : next.Heartbeats stamped last) :
    db.Heartbeats stamped last := by
  intro old member
  obtain ⟨middle,present,same,before⟩ := first old member
  obtain ⟨row,final,equal,after⟩ := second middle present
  refine ⟨row,final,equal.trans same,?_⟩
  rcases after with kept | written
  · rw [kept,equal]
    exact before
  · exact Or.inr written

theorem Assigned.heartbeats (assigned : db.Assigned next order driver time) :
    db.Heartbeats stamped next := by
  intro old member
  by_cases same : old.id = driver
  · obtain ⟨locked,present,named,_,kept⟩ := assigned.newDriver
    have equal : locked = old := db.drivers.unique present member (named.trans same.symm)
    subst equal
    exact ⟨locked.assign order,kept,rfl,Or.inl rfl⟩
  · exact ⟨old,assigned.keepsDriver member same,rfl,Or.inl rfl⟩

theorem ByApp.heartbeats (moved : ByApp action db next) : db.Heartbeats stamped next := by
  intro old member
  have drivers : ∃ selects status, next.drivers = db.drivers.update selects
      (Driver.withStatus status) (fun _ => rfl) := by
    cases action with
    | goOnline driver => exact ⟨_,_,moved.2.2⟩
    | goOffline driver => exact ⟨_,_,moved.2⟩
  obtain ⟨selects,status,drivers⟩ := drivers
  rw [drivers]
  refine ⟨_,Table.mem_update_of_mem member,?_⟩
  split
  · exact ⟨rfl,Or.inl rfl⟩
  · exact ⟨rfl,Or.inl rfl⟩

end Database

namespace Transaction
variable {db next : Database}

theorem seedDriver_keeps {seed : DriverSeed} {id : UUID} {now : ℤ} {state : DriverState}
    (done : seedDriver seed id now db = .ok (state,next)) :
    ∀ row ∈ db.drivers.rows, row ∈ next.drivers.rows := by
  obtain ⟨found,middle,selected,done⟩ := bind_ok done
  have same : db = middle := congrArg Prod.snd (Except.ok.inj selected)
  subst same
  cases found with
  | none =>
    obtain ⟨_,middle,inserted,returned⟩ := bind_ok done
    cases returned
    unfold insertDriver at inserted
    split at inserted
    · intro row member
      rw [(check_ok.mp inserted).1]
      exact Table.mem_insert.mpr (Or.inl member)
    · contradiction
  | some driver =>
    cases done
    exact fun _ member => member

theorem seedDrivers_keeps {seeds : List (DriverSeed × UUID × ℤ)} {states : List DriverState}
    (done : seedDrivers seeds db = .ok (states,next)) :
    ∀ row ∈ db.drivers.rows, row ∈ next.drivers.rows := by
  induction seeds generalizing db states with
  | nil =>
    cases done
    exact fun _ member => member
  | cons first rest ih =>
    obtain ⟨state,middle,seeded,done⟩ := bind_ok done
    obtain ⟨others,last,remaining,returned⟩ := bind_ok done
    cases returned
    exact fun row member => ih remaining row (seedDriver_keeps seeded row member)

theorem commitOrder_keeps {id : UUID} {payload : OrderCreateRequest} {ready : ℤ}
    (done : commitOrder id payload ready db = .ok ((),next)) :
    ∀ row ∈ db.drivers.rows, row ∈ next.drivers.rows := by
  unfold commitOrder insertOrder at done
  split at done
  · intro row member
    rw [(check_ok.mp done).1]
    exact member
  · contradiction

theorem pushPositions_heartbeats {now : ℤ} {states : List DriverState}
    (done : pushPositions now states db = .ok ((),next)) :
    db.Heartbeats (fun driver time => time = now ∧ driver ∈ states.map DriverState.dbId) next := by
  induction states generalizing db with
  | nil =>
    cases done
    exact .refl _ _
  | cons state rest ih =>
    obtain ⟨_,middle,moved,done⟩ := bind_ok done
    obtain ⟨drivers,_⟩ := check_ok.mp moved
    have tail : middle.Heartbeats
        (fun driver time => time = now ∧ driver ∈ (state::rest).map DriverState.dbId) next := by
      apply (ih done).mono
      rintro driver time ⟨same,listed⟩
      exact ⟨same,List.mem_cons_of_mem _ listed⟩
    refine Database.Heartbeats.trans (fun old member => ?_) tail
    rw [drivers]
    refine ⟨_,Table.mem_update_of_mem member,?_⟩
    by_cases same : old.id = state.dbId
    · rw [if_pos (decide_eq_true same)]
      exact ⟨rfl,Or.inr ⟨now,⟨rfl,by simp [same]⟩,rfl⟩⟩
    · rw [if_neg (by simp [same])]
      exact ⟨rfl,Or.inl rfl⟩

end Transaction

/-- The heartbeats that the call may write. -/
def Call.Stamps (request : Call) (driver : UUID) (time : ℤ) : Prop :=
  ∃ states, request = .pushPositions time states ∧ driver ∈ states.map DriverState.dbId

theorem Call.commit_heartbeats {α : Type} {body : Transaction α} {said : Except PyException α}
    {stamped : UUID → ℤ → Prop} {db next : Database} (done : Call.commit body db = (said,next))
    (beats : ∀ value, body db = .ok (value,next) → db.Heartbeats stamped next) :
    db.Heartbeats stamped next := by
  rcases Call.commit_cases done with ⟨value,ran,_⟩ | ⟨_,_,_,same⟩
  · exact beats value ran
  · exact same ▸ .refl _ _

theorem Call.answer_heartbeats {request : Call} {note : Note} {db next : Database}
    {said : Except PyException (Reply request)}
    (answered : request.answer note db = some (said,next)) :
    db.Heartbeats request.Stamps next := by
  cases request with
  | now | getDrivingEta =>
    cases answered
    exact .refl _ _
  | fetchActionableOrders => exact (Call.answer_fetch answered).2.2 ▸ .refl _ _
  | selectCandidates order cutoff => exact (Call.answer_select answered).2.2 ▸ .refl _ _
  | applyHold order =>
    apply Call.commit_heartbeats (Option.some.inj answered)
    intro _ ran
    obtain ⟨held,done,holds⟩ := Transaction.applyHold_spec order db
    rw [done] at ran
    cases ran
    exact .of_subset (fun row member => holds.drivers ▸ member)
  | attemptAtomicAssignment order driver =>
    apply Call.commit_heartbeats (Option.some.inj answered)
    intro _ ran
    rcases Transaction.attemptAtomicAssignment_cases order driver note.now db with
      ⟨_,done⟩ | ⟨_,_,done⟩ | ⟨assigned,done,holds⟩
    · rw [done] at ran
      cases ran
      exact .refl _ _
    · rw [done] at ran
      contradiction
    · rw [done] at ran
      cases ran
      exact holds.heartbeats
  | commitOrder id payload ready =>
    apply Call.commit_heartbeats (Option.some.inj answered)
    exact fun _ ran => .of_subset (Transaction.commitOrder_keeps ran)
  | refreshOrder order =>
    apply Call.commit_heartbeats (Option.some.inj answered)
    intro _ ran
    unfold Transaction.refreshOrder at ran
    split at ran
    · cases ran
      exact .refl _ _
    · contradiction
  | seedDrivers seeds =>
    apply Call.commit_heartbeats (Option.some.inj answered)
    exact fun _ ran => .of_subset (Transaction.seedDrivers_keeps ran)
  | pushPositions stamp states =>
    apply Call.commit_heartbeats (Option.some.inj answered)
    intro _ ran
    apply (Transaction.pushPositions_heartbeats ran).mono
    rintro driver time ⟨rfl,listed⟩
    exact ⟨states,rfl,listed⟩

theorem Call.respond_heartbeats {request : Call} {note : Note} {shared next : Shared}
    {reply : Except PyException (Reply request)}
    (done : request.respond note shared = some (reply,next)) :
    shared.db.Heartbeats request.Stamps next.db := by
  rcases (Call.respond_cases done).2 with ⟨_,same,_⟩ | ⟨_,_,answered,_⟩
  · exact same ▸ .refl _ _
  · exact Call.answer_heartbeats answered

end FoodDispatch
