import FoodDispatch.Ledger

/-! A driver is assigned once. The lock re-reads the driver's status, an
assignment makes the driver busy, and no writer makes a driver available again. -/
namespace FoodDispatch
open Library

namespace Database

/-- What other writers are trusted with: no row disappears, and no driver that
is in the table becomes available. -/
structure NeverFrees (db next : Database) : Prop where
  drivers : db.drivers.keys ⊆ next.drivers.keys
  orders : db.orders.keys ⊆ next.orders.keys
  status : ∀ driver ∈ db.drivers.keys, next.DriverAvailable driver → db.DriverAvailable driver

def Taken (db : Database) (driver : UUID) : Prop :=
  driver ∈ db.drivers.keys ∧ ¬db.DriverAvailable driver

variable {db next : Database} {order driver : UUID} {time : ℤ}

theorem Assigned.taken (assigned : db.Assigned next order driver time) : next.Taken driver := by
  obtain ⟨old,member,named,_,kept⟩ := assigned.newDriver
  refine ⟨Table.mem_keys.mpr ⟨_,kept,named⟩,?_⟩
  intro ⟨row,present,same,available⟩
  rcases assigned.driver_cases present with ⟨was,_,_,_,rfl⟩ | ⟨_,apart⟩
  · contradiction
  · exact apart same

theorem Grown.taken (grown : db.Grown next) (taken : db.Taken driver) : next.Taken driver := by
  refine ⟨grown.driverKeys taken.1,?_⟩
  intro ⟨row,member,named,available⟩
  rcases grown.driver row member with ⟨old,present,same⟩ | ⟨fresh,_⟩
  · exact taken.2 ⟨old,present,same.id.symm.trans named,same.status.symm.trans available⟩
  · exact fresh (named ▸ taken.1)

theorem Written.taken {call : Call} (written : Written call time db next)
    (taken : db.Taken driver) : next.Taken driver := by
  cases written with
  | unchanged same => exact same ▸ taken
  | held order hold held =>
    unfold Taken DriverAvailable
    rw [held.drivers]
    exact taken
  | assigned order other attempt assigned =>
    refine ⟨assigned.driverKeys ▸ taken.1,?_⟩
    intro ⟨row,member,named,available⟩
    rcases assigned.driver_cases member with ⟨was,_,_,_,rfl⟩ | ⟨present,_⟩
    · contradiction
    · exact taken.2 ⟨row,present,named,available⟩
  | created id payload ready commit grown rows => exact grown.taken taken
  | moved grown orders => exact grown.taken taken

end Database

section
variable {Thread Action : Type} [DecidableEq Thread] {settings : Settings} {loops : Thread → Prop}
variable {writes : Action → Database → Database → Prop}
variable {shared : Shared} {trace : List (Move Thread Action)}
variable {state : System.State Call Reply PyException Shared Thread}

def Move.committed {Thread Action : Type} (move : Move Thread Action) : Option UUID :=
  match move.label with
  | .call _ (.attemptAtomicAssignment _ driver) _ (.ok true) => some driver
  | _ => none

omit [DecidableEq Thread] in
theorem committed_label {move : Move Thread Action} {driver : UUID}
    (committed : move.committed = some driver) : ∃ thread order note,
      move.label = .call thread (.attemptAtomicAssignment order driver) note (.ok true) := by
  unfold Move.committed at committed
  split at committed
  next label =>
    cases committed
    exact ⟨_,_,_,label⟩
  next => contradiction

theorem move_taken (trusted : ∀ action db next, writes action db next → db.NeverFrees next)
    {move : Move Thread Action} {driver : UUID} (taken : move.before.shared.db.Taken driver)
    (step : (deployment settings loops writes).Step move.before move.label move.after) :
    move.after.shared.db.Taken driver := by
  rcases move_cases step with ⟨same,_⟩ | ⟨thread,request,note,reply,_,answered⟩ | ⟨action,_,moved⟩
  · rw [same]
    exact taken
  · exact (Call.respond_written answered).taken taken
  · have trusted := trusted action _ _ moved
    exact ⟨trusted.drivers taken.1,fun available => taken.2 (trusted.status driver taken.1 available)⟩

theorem taken_later (trusted : ∀ action db next, writes action db next → db.NeverFrees next)
    (run : (deployment settings loops writes).Run shared trace state)
    {i j : ℕ} {earlier later : Move Thread Action} (first : (trace)[i]? = some earlier)
    (second : (trace)[j]? = some later) (before : i < j) {driver : UUID}
    (taken : earlier.after.shared.db.Taken driver) : later.before.shared.db.Taken driver := by
  obtain ⟨front,rest,located,member⟩ := Execution.located_of_lt first second before
  obtain ⟨_,_,following⟩ := run.split located
  have always : Execution.Throughout earlier.after rest
      (fun reached => reached.shared.db.Taken driver) :=
    following.throughout taken (fun _ _ held step => move_taken trusted held step)
  exact always.before following member

omit [DecidableEq Thread] in
theorem ownedKnown (trusted : ∀ action db next, writes action db next → db.NeverFrees next) :
    Guarded loops writes (fun _ => True) (fun db copy => copy.id ∈ db.orders.keys) where
  fetched db _ _ actionable := db.orders.key_mem (List.mem_filter.mp actionable).1
  sound _ _ _ _ _ _ _ _ := trivial
  current _ _ _ _ _ _ _ known answered _ :=
    (Call.respond_written answered).keepsKeys.2 known
  outside action db next moved _ := ⟨trivial,fun _ known => (trusted action db next moved).orders known⟩

/-- Beside an attempt that committed, another attempt on the driver writes nothing,
and returns `False` unless it was made to fail. -/
theorem attempt_beside_committed
    (trusted : ∀ action db next, writes action db next → db.NeverFrees next)
    (run : (deployment settings loops writes).Run shared trace state)
    {i j : ℕ} (apart : i ≠ j) {winner other : Move Thread Action} (first : (trace)[i]? = some winner)
    (second : (trace)[j]? = some other) {driver : UUID} (committed : winner.committed = some driver)
    {thread : Thread} {order : UUID} {note : Note} {reply : Except PyException Bool}
    (label : other.label = .call thread (.attemptAtomicAssignment order driver) note reply) :
    reply ≠ .ok true ∧ other.after.shared.db = other.before.shared.db ∧
      (note.fault = .none → reply = .ok false) := by
  have present : other ∈ trace := List.mem_of_getElem? second
  obtain ⟨winning,wanted,noted,won⟩ := committed_label committed
  have winStep := run.step_of_mem (List.mem_of_getElem? first)
  have assigned : ∃ time, winner.before.shared.db.Assigned winner.after.shared.db wanted driver time := by
    rcases Call.respond_attempt (move_call winStep won) with ⟨_,assigned,_⟩ | ⟨_,said,_,_⟩
    · exact ⟨_,assigned⟩
    · exact absurd rfl said
  obtain ⟨time,assigned⟩ := assigned
  obtain ⟨_,_,copy,same,known⟩ := (ownedKnown trusted).attempt trivial run present label
  rcases Call.respond_attempt (move_call (run.step_of_mem present) label) with
    ⟨_,again,_⟩ | ⟨unchanged,said,why,taken⟩
  · rcases Nat.lt_or_gt_of_ne apart with before | after
    · exact absurd again.available (taken_later trusted run first second before assigned.taken).2
    · exact absurd assigned.available (taken_later trusted run second first after again.taken).2
  · refine ⟨said,unchanged,fun fault => taken fault ?_⟩
    intro available
    have effective : note.fault.Effective := by simp [fault,Fault.Effective]
    exact why effective available (same ▸ known)

theorem driver_assigned_once
    (trusted : ∀ action db next, writes action db next → db.NeverFrees next)
    (run : (deployment settings loops writes).Run shared trace state) :
    (trace.filterMap Move.committed).Nodup ∧
      ∀ (i j : ℕ) (winner other : Move Thread Action), i ≠ j → (trace)[i]? = some winner →
        (trace)[j]? = some other → ∀ driver, winner.committed = some driver → ∀ thread order note reply,
          other.label = .call thread (.attemptAtomicAssignment order driver) note reply →
            other.after.shared.db = other.before.shared.db ∧
              (note.fault = .none → reply = .ok false) := by
  constructor
  · unfold List.Nodup
    rw [List.pairwise_filterMap,List.pairwise_iff_getElem]
    intro i j inside within before driver committed other again same
    subst same
    obtain ⟨thread,order,note,label⟩ := committed_label again
    exact (attempt_beside_committed trusted run before.ne (List.getElem?_eq_getElem inside)
      (List.getElem?_eq_getElem within) committed label).1 rfl
  · intro i j winner other apart first second driver committed thread order note reply label
    exact (attempt_beside_committed trusted run apart first second committed label).2

def contestStart : Shared :=
  ⟨Sample.database [Sample.driver 1 "1"] [Sample.order 3,Sample.order 4],0⟩

def contestMoves : List (System.Move Shared Note Bool Job Empty) :=
  let fetched := {Sample.note 0 with orders := [Sample.order 3,Sample.order 4]}
  let asked := Sample.evaluation false 0 [Sample.driver 1 "1"] (Sample.id 1)
  let contesting := Sample.evaluation true 0 [Sample.driver 1 "1"] (Sample.id 1)
  [.start false .dispatchTick,.start true .dispatchTick,.answer false fetched,
    .answer true fetched] ++ asked.take 5 ++ contesting.take 5 ++ asked.drop 5 ++ contesting.drop 5

theorem contest_replayed : ((System.replay (deployment {} (fun _ => True) nobody) contestMoves
    (System.State.idle contestStart)).map (fun done => done.1.filterMap Move.committed)) =
      some [Sample.id 1] := by
  decide +kernel

theorem contest_committed_once : ∃ (trace : List (Move Bool Empty))
    (state : System.State Call Reply PyException Shared Bool),
      (deployment {} (fun _ => True) nobody).Run contestStart trace state ∧
        trace.filterMap Move.committed = [Sample.id 1] ∧
          (trace.filterMap Move.committed).Nodup := by
  obtain ⟨⟨trace,state⟩,replayed,committed⟩ := Option.map_eq_some_iff.mp contest_replayed
  have run := System.replay_execution replayed
  exact ⟨trace,state,run,committed,(driver_assigned_once (fun action => action.elim) run).1⟩

end
end FoodDispatch
