import FoodDispatch.Effects

/-! How many drivers an order can have, with any number of dispatch loops. The
lock is on the driver's row, so nothing keeps two loops from giving one order to
two drivers; exactly the attempts that meet an assigned order do so. -/
namespace FoodDispatch
open Library

namespace Database

structure Unassigned (db : Database) : Prop where
  drivers : ∀ driver ∈ db.drivers.rows, driver.currentOrderId = none
  orders : ∀ order ∈ db.orders.rows, order.assignedDriverId = none

structure SingleDriver (db : Database) : Prop where
  one : ∀ first ∈ db.drivers.rows, ∀ second ∈ db.drivers.rows, ∀ order,
    first.currentOrderId = some order → second.currentOrderId = some order → first = second
  agrees : ∀ driver ∈ db.drivers.rows, ∀ order ∈ db.orders.rows,
    driver.currentOrderId = some order.id → order.assignedDriverId = some driver.id

instance (db : Database) : Decidable db.SingleDriver :=
  decidable_of_iff
    ((∀ first ∈ db.drivers.rows, ∀ second ∈ db.drivers.rows, ∀ order ∈ first.currentOrderId,
        second.currentOrderId = some order → first = second) ∧
      ∀ driver ∈ db.drivers.rows, ∀ order ∈ db.orders.rows,
        driver.currentOrderId = some order.id → order.assignedDriverId = some driver.id)
    ⟨fun both => ⟨both.1,both.2⟩,fun single => ⟨single.one,single.agrees⟩⟩

/-- Available drivers carry nothing, and an assigned order is carried by the
driver it names, even when it is carried by others too. -/
structure Standing (db : Database) : Prop where
  free : ∀ driver ∈ db.drivers.rows, driver.Available → driver.currentOrderId = none
  carried : ∀ order ∈ db.orders.rows, ∀ id, order.assignedDriverId = some id →
    ∃ driver ∈ db.drivers.rows, driver.id = id ∧ ¬driver.Available ∧
      driver.currentOrderId = some order.id

variable {db next : Database}

theorem Unassigned.standing (start : db.Unassigned) : db.Standing where
  free driver member _ := start.drivers driver member
  carried order member id assigned := by
    rw [start.orders order member] at assigned
    contradiction

theorem Unassigned.singleDriver (start : db.Unassigned) : db.SingleDriver where
  one first member _ _ order current := by
    rw [start.drivers first member] at current
    contradiction
  agrees driver member _ _ current := by
    rw [start.drivers driver member] at current
    contradiction

theorem Grown.standing (grown : db.Grown next) (standing : db.Standing) : next.Standing where
  free row member available := by
    rcases grown.driver row member with ⟨old,present,same⟩ | ⟨_,_,clean⟩
    · rw [same.currentOrderId]
      exact standing.free old present (same.status.symm.trans available)
    · exact clean
  carried row member id assigned := by
    rcases grown.order row member with present | ⟨_,_,clean,_⟩
    · obtain ⟨driver,known,named,taken,current⟩ := standing.carried row present id assigned
      obtain ⟨moved,kept,same⟩ := grown.keepsDriver driver known
      refine ⟨moved,kept,same.id.trans named,?_,same.currentOrderId.trans current⟩
      exact fun available => taken (same.status.symm.trans available)
    · rw [clean] at assigned
      contradiction

theorem Assigned.standing {order driver : UUID} {time : ℤ}
    (assigned : db.Assigned next order driver time) (standing : db.Standing) : next.Standing where
  free row member available := by
    rcases assigned.driver_cases member with ⟨old,_,_,_,rfl⟩ | ⟨present,_⟩
    · contradiction
    · exact standing.free row present available
  carried row member id named := by
    rcases assigned.order_cases member with ⟨old,_,same,rfl⟩ | ⟨present,_⟩
    · cases named
      obtain ⟨locked,_,same',_,kept⟩ := assigned.newDriver
      exact ⟨locked.assign order,kept,same',by simp [Driver.Available,Driver.assign],
        by simp [Driver.assign,same]⟩
    · obtain ⟨carrier,known,same,taken,current⟩ := standing.carried row present id named
      refine ⟨carrier,assigned.keepsDriver known ?_,same,taken,current⟩
      -- the carrier is busy, the driver just locked was not
      rintro rfl
      obtain ⟨locked,present,named,available⟩ := assigned.available
      exact taken (db.drivers.unique present known named ▸ available)

theorem Held.standing {order : UUID} (held : db.Held next order) (standing : db.Standing) :
    next.Standing where
  free row member available := standing.free row (held.drivers ▸ member) available
  carried row member id assigned := by
    rw [held.drivers]
    rcases held.order_cases member with ⟨old,present,_,_,rfl⟩ | present
    · exact standing.carried old present id assigned
    · exact standing.carried row present id assigned

theorem Written.standing {call : Call} {time : ℤ} (written : Written call time db next)
    (standing : db.Standing) : next.Standing := by
  cases written with
  | unchanged same => exact same ▸ standing
  | held order hold held => exact held.standing standing
  | assigned order driver attempt assigned => exact assigned.standing standing
  | created id payload ready commit grown rows => exact grown.standing standing
  | moved grown orders => exact grown.standing standing

theorem Grown.singleDriver (grown : db.Grown next) (single : db.SingleDriver) :
    next.SingleDriver where
  one first left second right order current same := by
    have before : ∀ row ∈ next.drivers.rows, row.currentOrderId = some order →
        ∃ old ∈ db.drivers.rows, SameDuty old row := by
      intro row member current
      rcases grown.driver row member with known | ⟨_,_,clean⟩
      · exact known
      · rw [clean] at current
        contradiction
    obtain ⟨one,present,kept⟩ := before first left current
    obtain ⟨other,present',kept'⟩ := before second right same
    have equal := single.one one present other present' order (kept.currentOrderId ▸ current)
      (kept'.currentOrderId ▸ same)
    exact next.drivers.unique left right (by rw [kept.id,kept'.id,equal])
  agrees driver member order present current := by
    rcases grown.driver driver member with ⟨old,known,same⟩ | ⟨_,_,clean⟩
    · rw [same.currentOrderId] at current
      rcases grown.order order present with existing | ⟨fresh,_⟩
      · rw [same.id]
        exact single.agrees old known order existing current
      · exact absurd (db.constraints.currentOrder old known order.id current) fresh
    · rw [clean] at current
      contradiction

theorem Held.singleDriver {order : UUID} (held : db.Held next order) (single : db.SingleDriver) :
    next.SingleDriver where
  one := by
    rw [held.drivers]
    exact single.one
  agrees driver member row present current := by
    rw [held.drivers] at member
    rcases held.order_cases present with ⟨old,known,_,_,rfl⟩ | known
    · exact single.agrees driver member old known current
    · exact single.agrees driver member row known current

/-- An assignment keeps orders to a single driver just when its order had none. -/
theorem Assigned.singleDriver_iff {order driver : UUID} {time : ℤ}
    (assigned : db.Assigned next order driver time) (standing : db.Standing)
    (single : db.SingleDriver) :
    next.SingleDriver ↔ ∀ row ∈ db.orders.rows, row.id = order → row.assignedDriverId = none := by
  constructor
  · intro after row member same
    cases named : row.assignedDriverId with
    | none => rfl
    | some id =>
      obtain ⟨carrier,known,rfl,taken,current⟩ := standing.carried row member id named
      obtain ⟨locked,found,same',available,kept⟩ := assigned.newDriver
      have apart : carrier.id ≠ driver := by
        intro equal
        exact taken (db.drivers.unique found known (same'.trans equal.symm) ▸ available)
      have both := after.one _ kept _ (assigned.keepsDriver known apart) order rfl (same ▸ current)
      exact absurd (both ▸ same' : carrier.id = driver) apart
  · intro clean
    -- no driver of the old table carries the order
    have unclaimed : ∀ row ∈ db.drivers.rows, row.currentOrderId ≠ some order := by
      intro row member current
      obtain ⟨claimed,present,same⟩ :=
        Table.mem_keys.mp (db.constraints.currentOrder row member order current)
      have named := single.agrees row member claimed present (same ▸ current)
      rw [clean claimed present same] at named
      contradiction
    constructor
    · intro first left second right other current same
      rcases assigned.driver_cases left with ⟨old,present,named,_,rfl⟩ | ⟨present,_⟩ <;>
        rcases assigned.driver_cases right with ⟨old',present',named',_,rfl⟩ | ⟨present',_⟩
      · rw [db.drivers.unique present present' (named.trans named'.symm)]
      · cases current
        exact absurd same (unclaimed second present')
      · cases same
        exact absurd current (unclaimed first present)
      · exact single.one first present second present' other current same
    · intro row member other present current
      rcases assigned.driver_cases member with ⟨old,known,named,_,rfl⟩ | ⟨known,_⟩
      · rcases assigned.order_cases present with ⟨was,_,_,rfl⟩ | ⟨_,apart⟩
        · exact congrArg some named.symm
        · cases current
          exact absurd rfl apart
      · rcases assigned.order_cases present with ⟨was,_,same,rfl⟩ | ⟨existing,_⟩
        · rw [Order.assign_id,same] at current
          exact absurd current (unclaimed row known)
        · exact single.agrees row known other existing current

end Database

section
variable {Thread : Type} [DecidableEq Thread] {settings : Settings} {loops : Thread → Prop}
variable {shared : Shared} {trace : List (Move Thread Empty)}
variable {state : System.State Call Reply PyException Shared Thread}

/-- If the move is an attempt that will lock its driver, then the order it is
for has no driver yet. -/
def Move.MeetsUnassigned {Thread Action : Type} (move : Move Thread Action) : Prop :=
  ∀ thread order driver note reply,
    move.label = .call thread (.attemptAtomicAssignment order driver) note reply →
      note.fault.Effective → move.before.shared.db.DriverAvailable driver →
        ∀ row ∈ move.before.shared.db.orders.rows, row.id = order → row.assignedDriverId = none

theorem standing_throughout (start : shared.db.Unassigned)
    (run : (deployment settings loops nobody).Run shared trace state) :
    Execution.Throughout (System.State.idle shared) trace (·.shared.db.Standing) := by
  apply run.throughout start.standing
  intro move _ standing step
  obtain ⟨request,time,written⟩ := move_written step
  exact written.standing standing

theorem singleDriver_throughout_iff (start : shared.db.Unassigned)
    (run : (deployment settings loops nobody).Run shared trace state) :
    Execution.Throughout (System.State.idle shared) trace (·.shared.db.SingleDriver) ↔
      ∀ move ∈ trace, move.MeetsUnassigned := by
  have standing := standing_throughout start run
  constructor
  · intro single move member thread order driver note reply label effective available
    have step := run.step_of_mem member
    rcases Call.respond_attempt (move_call step label) with ⟨_,assigned,_⟩ | ⟨_,_,why,_⟩
    · exact (assigned.singleDriver_iff (standing.before run member)
        (single.before run member)).mp (single.2 move member)
    · intro row present same
      exact absurd (Table.mem_keys.mpr ⟨row,present,same⟩) (why effective available)
  · intro meets
    apply run.throughout start.singleDriver
    intro move member single step
    rcases move_cases step with ⟨same,_⟩ | ⟨thread,request,note,reply,label,answered⟩ | ⟨action,_⟩
    · rw [same]
      exact single
    · cases Call.respond_written answered with
      | unchanged same =>
        rw [same]
        exact single
      | held order hold held => exact held.singleDriver single
      | created id payload ready commit grown rows => exact grown.singleDriver single
      | moved grown orders => exact grown.singleDriver single
      | assigned order driver attempt assigned =>
        subst attempt
        rcases Call.respond_attempt answered with ⟨effective,_,_⟩ | ⟨same,_,_,_⟩
        · exact (assigned.singleDriver_iff (standing.before run member) single).mpr
            (meets move member thread order driver note reply label effective assigned.available)
        · rw [same]
          exact single
    · exact action.elim

def raceStart : Shared :=
  ⟨Sample.database [Sample.driver 1 "1",Sample.driver 2 "2"] [Sample.order 3],0⟩

def raceMoves : List (System.Move Shared Note Bool Job Empty) :=
  [.start false .dispatchTick,.start true .dispatchTick,
    .answer false {Sample.note 0 with orders := [Sample.order 3]},
    .answer true {Sample.note 0 with orders := [Sample.order 3]}] ++
  Sample.evaluation false 0 [Sample.driver 1 "1",Sample.driver 2 "2"] (Sample.id 1) ++
  Sample.evaluation true 0 [Sample.driver 2 "2"] (Sample.id 2)

theorem race_replayed : ((System.replay (deployment {} (fun _ => True) nobody) raceMoves
    (System.State.idle raceStart)).map (fun done => decide done.2.shared.db.SingleDriver)) =
      some false := by
  decide +kernel

theorem race : ∃ trace state, (deployment {} (fun _ : Bool => True) nobody).Run raceStart trace state ∧
    ¬state.shared.db.SingleDriver := by
  obtain ⟨⟨trace,state⟩,replayed,broken⟩ := Option.map_eq_some_iff.mp race_replayed
  exact ⟨trace,state,System.replay_execution replayed,of_decide_eq_false broken⟩

theorem raceStart_unassigned : raceStart.db.Unassigned := ⟨by decide +kernel,by decide +kernel⟩

/-- A second loop can give an order that is already assigned to another driver. -/
theorem singleDriver_fails : ¬∀ (shared : Shared) (trace : List (Move Bool Empty))
    (state : System.State Call Reply PyException Shared Bool), shared.db.Unassigned →
      (deployment {} (fun _ => True) nobody).Run shared trace state →
        state.shared.db.SingleDriver := by
  intro claimed
  obtain ⟨trace,state,run,broken⟩ := race
  exact broken (claimed raceStart trace state raceStart_unassigned run)

theorem race_meets_assigned : ∃ (trace : List (Move Bool Empty))
    (state : System.State Call Reply PyException Shared Bool),
      (deployment {} (fun _ => True) nobody).Run raceStart trace state ∧
        ¬∀ move ∈ trace, move.MeetsUnassigned := by
  obtain ⟨trace,state,run,broken⟩ := race
  refine ⟨trace,state,run,?_⟩
  rw [← singleDriver_throughout_iff raceStart_unassigned run]
  exact fun single => broken (single.final run)

end
end FoodDispatch
