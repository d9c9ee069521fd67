import FoodDispatch.Effects

/-! Hard deletes under the foreign keys of the schema. `ON DELETE SET NULL` clears
the reference and leaves the status beside it, so status and reference stay paired
exactly while only rows are deleted that nobody refers to. -/
namespace FoodDispatch
open Library

def Driver.clearOrder (row : Driver) : Driver := {row with currentOrderId := none}

def Order.clearDriver (row : Order) : Order := {row with assignedDriverId := none}

theorem Driver.clearOrder_id (row : Driver) : row.clearOrder.id = row.id := rfl

theorem Order.clearDriver_id (row : Order) : row.clearDriver.id = row.id := rfl

namespace Database

/-- `DELETE FROM orders WHERE id = ..`. -/
def deleteOrder (db : Database) (id : UUID) : Database where
  drivers := db.drivers.update (fun row => row.currentOrderId = some id) Driver.clearOrder
    Driver.clearOrder_id
  orders := db.orders.delete (fun row => row.id = id)
  constraints := by
    have cleared : Constraints (db.drivers.update (fun row => row.currentOrderId = some id)
        Driver.clearOrder Driver.clearOrder_id) db.orders :=
      Transaction.constraints_updateDrivers db.constraints (fun _ => rfl)
        (by simp [Driver.clearOrder])
    refine ⟨cleared.phones,?_,?_⟩
    · intro row member order current
      obtain ⟨wanted,present,same⟩ :=
        Table.mem_keys.mp (cleared.currentOrder row member order current)
      refine Table.mem_keys.mpr ⟨wanted,Table.mem_delete.mpr ⟨present,?_⟩,same⟩
      rcases Table.mem_update_cases member with ⟨old,_,_,rfl⟩ | ⟨_,skipped⟩
      · contradiction
      · apply decide_eq_false
        intro deleted
        apply of_decide_eq_false skipped
        rw [← deleted,same]
        exact current
    · intro row member
      exact cleared.assignedDriver row (Table.mem_delete.mp member).1

/-- `DELETE FROM drivers WHERE id = ..`. -/
def deleteDriver (db : Database) (id : UUID) : Database where
  drivers := db.drivers.delete (fun row => row.id = id)
  orders := db.orders.update (fun row => row.assignedDriverId = some id) Order.clearDriver
    Order.clearDriver_id
  constraints := by
    have cleared : Constraints db.drivers (db.orders.update
        (fun row => row.assignedDriverId = some id) Order.clearDriver Order.clearDriver_id) :=
      Transaction.constraints_updateOrders db.constraints (by simp [Order.clearDriver])
    refine ⟨List.Nodup.sublist (List.filter_sublist.map _) cleared.phones,?_,?_⟩
    · intro row member
      exact cleared.currentOrder row (Table.mem_delete.mp member).1
    · intro row member driver assigned
      obtain ⟨wanted,present,same⟩ :=
        Table.mem_keys.mp (cleared.assignedDriver row member driver assigned)
      refine Table.mem_keys.mpr ⟨wanted,Table.mem_delete.mpr ⟨present,?_⟩,same⟩
      rcases Table.mem_update_cases member with ⟨old,_,_,rfl⟩ | ⟨_,skipped⟩
      · contradiction
      · apply decide_eq_false
        intro deleted
        apply of_decide_eq_false skipped
        rw [← deleted,same]
        exact assigned

/-- Status and reference say the same, in both tables. -/
structure Paired (db : Database) : Prop where
  busy : ∀ driver ∈ db.drivers.rows, driver.status = .onlineBusy ↔ driver.currentOrderId ≠ none
  assigned : ∀ order ∈ db.orders.rows,
    order.dispatchStatus = .assigned ↔ order.assignedDriverId ≠ none

instance (db : Database) : Decidable db.Paired :=
  decidable_of_iff
    ((∀ driver ∈ db.drivers.rows, driver.status = .onlineBusy ↔ driver.currentOrderId ≠ none) ∧
      ∀ order ∈ db.orders.rows, order.dispatchStatus = .assigned ↔ order.assignedDriverId ≠ none)
    ⟨fun both => ⟨both.1,both.2⟩,fun paired => ⟨paired.busy,paired.assigned⟩⟩

variable {db next : Database}

theorem Written.busy {call : Call} {time : ℤ} (written : Written call time db next)
    (paired : db.Paired) {row : Driver} (member : row ∈ next.drivers.rows) :
    row.status = .onlineBusy ↔ row.currentOrderId ≠ none := by
  have grows (grown : db.Grown next) : row.status = .onlineBusy ↔ row.currentOrderId ≠ none := by
    rcases grown.driver row member with ⟨old,known,same⟩ | ⟨_,available,clean⟩
    · rw [same.status,same.currentOrderId]
      exact paired.busy old known
    · have idle : row.status = .onlineAvailable := available
      simp [idle,clean]
  cases written with
  | unchanged same => exact paired.busy row (same ▸ member)
  | held order hold held => exact paired.busy row (held.drivers ▸ member)
  | assigned order driver attempt assigned =>
    rcases assigned.driver_cases member with ⟨old,_,_,_,rfl⟩ | ⟨known,_⟩
    · simp [Driver.assign]
    · exact paired.busy row known
  | created id payload ready commit grown rows => exact grows grown
  | moved grown orders => exact grows grown

theorem Written.paired {call : Call} {time : ℤ} (written : Written call time db next)
    (paired : db.Paired) : next.Paired := by
  refine ⟨fun row member => written.busy paired member,fun row member => ?_⟩
  rcases written.order_cases member with known | ⟨old,known,pending,equal⟩ |
    ⟨old,_,driver,_,equal⟩ | ⟨_,pending,clean,_⟩
  · exact paired.assigned row known
  · have before := paired.assigned old known
    rw [pending] at before
    have clean : old.assignedDriverId = none := by simpa using before
    simp [equal,Order.hold,clean]
  · simp [equal,Order.assign]
  · simp [pending,clean]

theorem deleteOrder_paired_iff (paired : db.Paired) (id : UUID) :
    (db.deleteOrder id).Paired ↔ ∀ driver ∈ db.drivers.rows, driver.currentOrderId ≠ some id := by
  constructor
  · intro after driver member current
    have stranded : driver.clearOrder ∈ (db.deleteOrder id).drivers.rows := by
      change _ ∈ (db.drivers.update (fun row => row.currentOrderId = some id) Driver.clearOrder
        Driver.clearOrder_id).rows
      exact Table.mem_update.mpr ⟨driver,member,by simp [current]⟩
    have busy : driver.clearOrder.status = .onlineBusy :=
      (paired.busy driver member).mpr (by simp [current])
    exact (after.busy _ stranded).mp busy rfl
  · intro unused
    have same : (db.deleteOrder id).drivers = db.drivers := by
      change db.drivers.update (fun row => row.currentOrderId = some id) Driver.clearOrder
        Driver.clearOrder_id = db.drivers
      exact Table.update_eq_self (fun row member => decide_eq_false (unused row member))
    refine ⟨same ▸ paired.busy,fun row member => ?_⟩
    exact paired.assigned row (Table.mem_delete.mp member).1

theorem deleteDriver_paired_iff (paired : db.Paired) (id : UUID) :
    (db.deleteDriver id).Paired ↔ ∀ order ∈ db.orders.rows, order.assignedDriverId ≠ some id := by
  constructor
  · intro after order member named
    have stranded : order.clearDriver ∈ (db.deleteDriver id).orders.rows := by
      change _ ∈ (db.orders.update (fun row => row.assignedDriverId = some id) Order.clearDriver
        Order.clearDriver_id).rows
      exact Table.mem_update.mpr ⟨order,member,by simp [named]⟩
    have assigned : order.clearDriver.dispatchStatus = .assigned :=
      (paired.assigned order member).mpr (by simp [named])
    exact (after.assigned _ stranded).mp assigned rfl
  · intro unused
    have same : (db.deleteDriver id).orders = db.orders := by
      change db.orders.update (fun row => row.assignedDriverId = some id) Order.clearDriver
        Order.clearDriver_id = db.orders
      exact Table.update_eq_self (fun row member => decide_eq_false (unused row member))
    refine ⟨fun row member => ?_,same ▸ paired.assigned⟩
    exact paired.busy row (Table.mem_delete.mp member).1

end Database

inductive Delete where
  | order (id : UUID)
  | driver (id : UUID)

namespace Delete

def apply (db : Database) : Delete → Database
  | .order id => db.deleteOrder id
  | .driver id => db.deleteDriver id

def Unreferenced (db : Database) : Delete → Prop
  | .order id => ∀ driver ∈ db.drivers.rows, driver.currentOrderId ≠ some id
  | .driver id => ∀ order ∈ db.orders.rows, order.assignedDriverId ≠ some id

theorem paired_iff {db : Database} (paired : db.Paired) (delete : Delete) :
    (delete.apply db).Paired ↔ delete.Unreferenced db := by
  cases delete with
  | order id => exact Database.deleteOrder_paired_iff paired id
  | driver id => exact Database.deleteDriver_paired_iff paired id

end Delete

def hardDeletes (delete : Delete) (db next : Database) : Prop :=
  next.drivers = (delete.apply db).drivers ∧ next.orders = (delete.apply db).orders

instance (delete : Delete) (db next : Database) : Decidable (hardDeletes delete db next) :=
  inferInstanceAs (Decidable (_ ∧ _))

theorem hardDeletes_eq {delete : Delete} {db next : Database} (moved : hardDeletes delete db next) :
    next = delete.apply db := Database.ext moved.1 moved.2

section
variable {Thread : Type} [DecidableEq Thread] {settings : Settings} {loops : Thread → Prop}
variable {shared : Shared} {trace : List (Move Thread Delete)}
variable {state : System.State Call Reply PyException Shared Thread}

theorem paired_throughout_iff (start : shared.db.Paired)
    (run : (deployment settings loops hardDeletes).Run shared trace state) :
    Execution.Throughout (System.State.idle shared) trace (·.shared.db.Paired) ↔
      ∀ move ∈ trace, ∀ delete, move.label = .outside delete →
        delete.Unreferenced move.before.shared.db := by
  constructor
  · intro paired move member delete label
    have before := paired.before run member
    rcases move_cases (run.step_of_mem member) with ⟨_,quiet⟩ | ⟨_,_,_,_,call,_⟩ |
      ⟨action,outside,moved⟩
    · exact absurd label (quiet delete)
    · rw [label] at call
      contradiction
    · rw [label] at outside
      cases outside
      rw [← Delete.paired_iff before,← hardDeletes_eq moved]
      exact paired.2 move member
  · intro unreferenced
    apply run.throughout start
    intro move member paired step
    rcases move_cases step with ⟨same,_⟩ | ⟨thread,request,note,reply,_,answered⟩ |
      ⟨delete,label,moved⟩
    · rw [same]
      exact paired
    · exact (Call.respond_written answered).paired paired
    · rw [hardDeletes_eq moved]
      exact (Delete.paired_iff paired delete).mpr (unreferenced move member delete label)

def deleteDone : Shared :=
  ⟨Sample.database [{Sample.driver 1 "1" with
    lastLocationAt := some (minutes 10),status := .onlineBusy}] [],minutes 10⟩

theorem delete_replayed : ((System.replay (deployment {} (· = true) hardDeletes)
    (Sample.life true false ++ [.outside (.order (Sample.id 3)) deleteDone])
    (System.State.idle ⟨Database.empty,0⟩)).map (fun done => decide done.2.shared.db.Paired)) =
      some false := by
  decide +kernel

theorem delete_strands : ∃ (trace : List (Move Bool Delete))
    (state : System.State Call Reply PyException Shared Bool),
      (deployment {} (· = true) hardDeletes).Run ⟨Database.empty,0⟩ trace state ∧
        ¬state.shared.db.Paired := by
  obtain ⟨⟨trace,state⟩,replayed,broken⟩ := Option.map_eq_some_iff.mp delete_replayed
  exact ⟨trace,state,System.replay_execution replayed,of_decide_eq_false broken⟩

theorem empty_paired : Database.empty.Paired := by decide +kernel

/-- A driver whose order was deleted stays busy with nothing. -/
theorem paired_fails : ¬∀ (trace : List (Move Bool Delete))
    (state : System.State Call Reply PyException Shared Bool),
      (deployment {} (· = true) hardDeletes).Run ⟨Database.empty,0⟩ trace state →
        state.shared.db.Paired := by
  intro claimed
  obtain ⟨trace,state,run,broken⟩ := delete_strands
  exact broken (claimed trace state run)

theorem delete_referenced : ∃ (trace : List (Move Bool Delete))
    (state : System.State Call Reply PyException Shared Bool),
      (deployment {} (· = true) hardDeletes).Run ⟨Database.empty,0⟩ trace state ∧
        ¬∀ move ∈ trace, ∀ delete, move.label = .outside delete →
          delete.Unreferenced move.before.shared.db := by
  obtain ⟨trace,state,run,broken⟩ := delete_strands
  refine ⟨trace,state,run,?_⟩
  rw [← paired_throughout_iff empty_paired run]
  exact fun paired => broken (paired.final run)

end
end FoodDispatch
