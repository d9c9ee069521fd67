import FoodDispatch.Ledger

/-! The edges of the order's state machine that the dispatch loop takes while
other writers cancel, collect and deliver. A hold re-reads the status it changes;
an assignment does not, and so can bring a cancelled order back. -/
namespace FoodDispatch
open Library

namespace Database

/-- A write of the loop that keeps to its edges, and makes drivers busy only for
orders that wait. -/
structure OnEdges (db next : Database) : Prop where
  edge : ∀ old ∈ db.orders.rows, ∀ new ∈ next.orders.rows, new.id = old.id →
    new.dispatchStatus = old.dispatchStatus ∨
      DispatchStatus.ByLoop old.dispatchStatus new.dispatchStatus
  busy : ∀ driver ∈ next.drivers.rows, driver.status = .onlineBusy →
    (∃ old ∈ db.drivers.rows, old.id = driver.id ∧ old.status = .onlineBusy ∧
      old.currentOrderId = driver.currentOrderId) ∨
    (∃ order ∈ db.orders.rows, driver.currentOrderId = some order.id ∧ order.Actionable)

instance (db next : Database) : Decidable (db.OnEdges next) :=
  decidable_of_iff
    ((∀ old ∈ db.orders.rows, ∀ new ∈ next.orders.rows, new.id = old.id →
        new.dispatchStatus = old.dispatchStatus ∨
          DispatchStatus.ByLoop old.dispatchStatus new.dispatchStatus) ∧
      ∀ driver ∈ next.drivers.rows, driver.status = .onlineBusy →
        (∃ old ∈ db.drivers.rows, old.id = driver.id ∧ old.status = .onlineBusy ∧
          old.currentOrderId = driver.currentOrderId) ∨
        (∃ order ∈ db.orders.rows, driver.currentOrderId = some order.id ∧ order.Actionable))
    ⟨fun both => ⟨both.1,both.2⟩,fun edges => ⟨edges.edge,edges.busy⟩⟩

/-- Other writers move orders along their documented edges; drivers they may
change as they like. -/
def WrittenByOthers (db next : Database) : Prop :=
  ∀ new ∈ next.orders.rows, ∃ old ∈ db.orders.rows, old.id = new.id ∧
    (new.dispatchStatus = old.dispatchStatus ∨
      DispatchStatus.ByOthers old.dispatchStatus new.dispatchStatus)

instance (db next : Database) : Decidable (db.WrittenByOthers next) :=
  inferInstanceAs (Decidable (∀ new ∈ next.orders.rows, ∃ old ∈ db.orders.rows, _ ∧ (_ ∨ _)))

variable {db next : Database} {order driver : UUID} {time : ℤ}

theorem OnEdges.refl (db : Database) : db.OnEdges db where
  edge old member new present same := Or.inl (by rw [db.orders.unique present member same])
  busy driver member busy := Or.inl ⟨driver,member,rfl,busy,rfl⟩

theorem Held.onEdges (held : db.Held next order) : db.OnEdges next where
  edge old member new present same := by
    rcases held.order_cases present with ⟨was,known,_,pending,rfl⟩ | known
    · have equal : was = old := db.orders.unique known member same
      right
      rw [← equal,pending]
      exact .held
    · exact Or.inl (by rw [db.orders.unique known member same])
  busy driver member busy := by
    rw [held.drivers] at member
    exact Or.inl ⟨driver,member,rfl,busy,rfl⟩

theorem Grown.onEdges (grown : db.Grown next) : db.OnEdges next where
  edge old member new present same := by
    rcases grown.order new present with known | ⟨fresh,_⟩
    · exact Or.inl (by rw [db.orders.unique known member same])
    · exact absurd (same ▸ db.orders.key_mem member) fresh
  busy driver member busy := by
    rcases grown.driver driver member with ⟨old,known,same⟩ | ⟨_,available,_⟩
    · exact Or.inl ⟨old,known,same.id.symm,same.status.symm.trans busy,same.currentOrderId.symm⟩
    · rw [available] at busy
      contradiction

/-- For an order that waits or is cancelled, an assignment keeps to the edges just
when it is not cancelled. -/
theorem Assigned.onEdges_iff (assigned : db.Assigned next order driver time)
    (live : ∀ row ∈ db.orders.rows, row.id = order →
      row.Actionable ∨ row.dispatchStatus = .cancelled) :
    db.OnEdges next ↔
      ∀ row ∈ db.orders.rows, row.id = order → row.dispatchStatus ≠ .cancelled := by
  constructor
  · intro edges row member same cancelled
    have taken := edges.edge row member _ (assigned.newOrder member same) rfl
    rw [cancelled] at taken
    rcases taken with equal | edge
    · contradiction
    · cases edge
  · intro alive
    have waiting : ∀ row ∈ db.orders.rows, row.id = order → row.Actionable := by
      intro row member same
      exact (live row member same).resolve_right (alive row member same)
    constructor
    · intro old member new present same
      rcases assigned.order_cases present with ⟨was,known,named,rfl⟩ | ⟨known,_⟩
      · have equal : was = old := db.orders.unique known member same
        right
        rcases waiting was known named with pending | holding
        · rw [← equal,pending]
          exact .assignedAtOnce
        · rw [← equal,holding]
          exact .assignedLater
      · exact Or.inl (by rw [db.orders.unique known member same])
    · intro row member busy
      rcases assigned.driver_cases member with ⟨old,_,_,_,rfl⟩ | ⟨known,_⟩
      · obtain ⟨wanted,present,same⟩ := Table.mem_keys.mp assigned.known
        exact Or.inr ⟨wanted,present,congrArg some same.symm,waiting wanted present same⟩
      · exact Or.inl ⟨row,known,rfl,busy,rfl⟩

end Database

section
variable {Thread Action : Type} [DecidableEq Thread] {settings : Settings} {loop : Thread}
variable {writes : Action → Database → Database → Prop}
variable {shared : Shared} {trace : List (Move Thread Action)}
variable {state : System.State Call Reply PyException Shared Thread}

def StillLive (db : Database) (copy : Order) : Prop :=
  ∀ row ∈ db.orders.rows, row.id = copy.id → row.Actionable ∨ row.dispatchStatus = .cancelled

omit [DecidableEq Thread] in
theorem ownedLive (documented : ∀ action db next, writes action db next → db.WrittenByOthers next) :
    Guarded (· = loop) writes (fun _ => True) StillLive where
  fetched db copy _ actionable row member same :=
    Or.inl (Ledger.fetched_row actionable member same)
  sound _ _ _ _ _ _ _ _ := trivial
  current copy request note shared reply next _ live answered unused := by
    have single := unused (fun one other first second => first.trans second.symm)
    apply Ledger.owned_rows ?_ ?_ answered single live
    · exact fun old _ _ => Or.inl (Or.inr rfl)
    · exact fun row pending _ => Or.inl (Or.inl pending)
  outside action db next moved _ := by
    refine ⟨trivial,fun copy live row member same => ?_⟩
    obtain ⟨old,known,named,equal | edge⟩ := documented action db next moved row member
    · have before := live old known (named.trans same)
      unfold Order.Actionable at before ⊢
      rw [equal]
      exact before
    · exact Or.inr (edge.of_waiting (live old known (named.trans same)))

/-- If the move is an attempt that will lock its driver, then the order it is
for is not cancelled. -/
def Move.MeetsUncancelled {Thread Action : Type} (move : Move Thread Action) : Prop :=
  ∀ thread order driver note reply,
    move.label = .call thread (.attemptAtomicAssignment order driver) note reply →
      note.fault.Effective → move.before.shared.db.DriverAvailable driver →
        ∀ row ∈ move.before.shared.db.orders.rows, row.id = order → row.dispatchStatus ≠ .cancelled

theorem loop_onEdges_iff
    (documented : ∀ action db next, writes action db next → db.WrittenByOthers next)
    (run : (deployment settings (· = loop) writes).Run shared trace state) :
    (∀ move ∈ trace, move.caller = some loop →
        move.before.shared.db.OnEdges move.after.shared.db) ↔
      ∀ move ∈ trace, move.MeetsUncancelled := by
  constructor
  · intro edges move member thread order driver note reply label effective available
    obtain ⟨isLoop,_,copy,same,live⟩ := (ownedLive documented).attempt trivial run member label
    subst isLoop
    rcases Call.respond_attempt (move_call (run.step_of_mem member) label) with
      ⟨_,assigned,_⟩ | ⟨_,_,why,_⟩
    · exact (assigned.onEdges_iff (fun row present named => live row present
        (named.trans same.symm))).mp (edges move member (by simp [Move.caller,label]))
    · intro row present named
      exact absurd (Table.mem_keys.mpr ⟨row,present,named⟩) (why effective available)
  · intro meets move member called
    obtain ⟨request,note,reply,label⟩ := caller_label called
    have answered := move_call (run.step_of_mem member) label
    cases Call.respond_written answered with
    | unchanged same =>
      rw [same]
      exact .refl _
    | held order hold held => exact held.onEdges
    | created id payload ready commit grown rows => exact grown.onEdges
    | moved grown orders => exact grown.onEdges
    | assigned order driver attempt assigned =>
      subst attempt
      obtain ⟨_,_,copy,same,live⟩ := (ownedLive documented).attempt trivial run member label
      rcases Call.respond_attempt answered with ⟨effective,_,_⟩ | ⟨unchanged,_,_,_⟩
      · exact (assigned.onEdges_iff (fun row present named => live row present
          (named.trans same.symm))).mpr
            (meets move member loop order driver note reply label effective assigned.available)
      · rw [unchanged]
        exact .refl _

def cancelStart : Shared :=
  ⟨Sample.database [Sample.driver 1 "1"] [Sample.order 3],0⟩

def cancelledMeanwhile : Shared :=
  ⟨Sample.database [Sample.driver 1 "1"] [{Sample.order 3 with dispatchStatus := .cancelled}],0⟩

def cancelMoves : List (System.Move Shared Note Unit Job Unit) :=
  let evaluation := Sample.evaluation () 0 [Sample.driver 1 "1"] (Sample.id 1)
  [.start () .dispatchTick,.answer () {Sample.note 0 with orders := [Sample.order 3]}] ++
    evaluation.take 5 ++ [.outside () cancelledMeanwhile] ++ evaluation.drop 5

theorem cancel_replayed : ((System.replay
    (deployment {} (· = ()) (fun _ : Unit => Database.WrittenByOthers)) cancelMoves
    (System.State.idle cancelStart)).map (fun done => decide (∀ move ∈ done.1,
      Move.caller move = some () → move.before.shared.db.OnEdges move.after.shared.db))) =
      some false := by
  decide +kernel

theorem cancel : ∃ (trace : List (Move Unit Unit))
    (state : System.State Call Reply PyException Shared Unit),
    (deployment {} (· = ()) (fun _ : Unit => Database.WrittenByOthers)).Run cancelStart trace state ∧
      ¬∀ move ∈ trace, move.caller = some () →
        move.before.shared.db.OnEdges move.after.shared.db := by
  obtain ⟨⟨trace,state⟩,replayed,broken⟩ := Option.map_eq_some_iff.mp cancel_replayed
  exact ⟨trace,state,System.replay_execution replayed,of_decide_eq_false broken⟩

/-- The loop can turn a cancelled order into an assigned one. -/
theorem loop_onEdges_fails : ¬∀ (shared : Shared) (trace : List (Move Unit Unit))
    (state : System.State Call Reply PyException Shared Unit),
      (deployment {} (· = ()) (fun _ => Database.WrittenByOthers)).Run shared trace state →
        ∀ move ∈ trace, move.caller = some () →
          move.before.shared.db.OnEdges move.after.shared.db := by
  intro claimed
  obtain ⟨trace,state,run,broken⟩ := cancel
  exact broken (claimed cancelStart trace state run)

theorem cancel_meets_cancelled : ∃ (trace : List (Move Unit Unit))
    (state : System.State Call Reply PyException Shared Unit),
      (deployment {} (· = ()) (fun _ => Database.WrittenByOthers)).Run cancelStart trace state ∧
        ¬∀ move ∈ trace, move.MeetsUncancelled := by
  obtain ⟨trace,state,run,broken⟩ := cancel
  refine ⟨trace,state,run,?_⟩
  rw [← loop_onEdges_iff (fun _ _ _ documented => documented) run]
  exact broken

end
end FoodDispatch
