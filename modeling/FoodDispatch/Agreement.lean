import FoodDispatch.Ledger

/-! With a single dispatch loop the two tables agree about who carries what. A
loop owns a fetched order until it has tried to assign it, and an owned order has
no driver, whatever else the tick has done or failed to do since the fetch. -/
namespace FoodDispatch
open Library

namespace Database

structure Agrees (db : Database) : Prop where
  busy : ∀ driver ∈ db.drivers.rows, driver.status = .onlineBusy ↔ driver.currentOrderId ≠ none
  carries : ∀ driver ∈ db.drivers.rows, ∀ order ∈ db.orders.rows,
    driver.currentOrderId = some order.id ↔ order.assignedDriverId = some driver.id
  assigned : ∀ order ∈ db.orders.rows,
    (order.dispatchStatus = .assigned ↔ order.assignedDriverId ≠ none) ∧
      (order.assignedDriverId ≠ none ↔ order.assignedAt ≠ none)
  waits : ∀ order ∈ db.orders.rows, order.dispatchStatus ≠ .assigned → order.Actionable

variable {db next : Database} {order driver : UUID} {time : ℤ}

theorem agrees_empty : Database.empty.Agrees :=
  ⟨by simp [empty,Table.empty],by simp [empty,Table.empty],by simp [empty,Table.empty],
    by simp [empty,Table.empty]⟩

theorem Agrees.actionable (agrees : db.Agrees) {row : Order} (member : row ∈ db.orders.rows)
    (waits : row.Actionable) : row.assignedDriverId = none := by
  by_contra named
  have assigned := (agrees.assigned row member).1.mpr named
  rcases waits with pending | holding
  · rw [pending] at assigned
    contradiction
  · rw [holding] at assigned
    contradiction

theorem Agrees.available (agrees : db.Agrees) {row : Driver} (member : row ∈ db.drivers.rows)
    (available : row.Available) : row.currentOrderId = none := by
  by_contra carries
  have busy := (agrees.busy row member).mpr carries
  rw [available] at busy
  contradiction

theorem Held.agrees (held : db.Held next order) (agrees : db.Agrees) : next.Agrees where
  busy row member := agrees.busy row (held.drivers ▸ member)
  carries row member other present := by
    rw [held.drivers] at member
    rcases held.order_cases present with ⟨old,known,_,_,rfl⟩ | known
    · exact agrees.carries row member old known
    · exact agrees.carries row member other known
  assigned row member := by
    rcases held.order_cases member with ⟨old,known,_,pending,rfl⟩ | known
    · have before := agrees.assigned old known
      have unassigned := agrees.actionable known (Or.inl pending)
      exact ⟨by simp [Order.hold,unassigned],before.2⟩
    · exact agrees.assigned row known
  waits row member free := by
    rcases held.order_cases member with ⟨old,_,_,_,rfl⟩ | known
    · exact Or.inr rfl
    · exact agrees.waits row known free

theorem Grown.agrees (grown : db.Grown next) (agrees : db.Agrees) : next.Agrees where
  busy row member := by
    rcases grown.driver row member with ⟨old,known,same⟩ | ⟨_,available,clean⟩
    · rw [same.status,same.currentOrderId]
      exact agrees.busy old known
    · have idle : row.status = .onlineAvailable := available
      simp [idle,clean]
  carries row member other present := by
    rcases grown.driver row member with ⟨old,known,same⟩ | ⟨fresh,_,clean⟩
    · rw [same.currentOrderId,same.id]
      rcases grown.order other present with existing | ⟨unknown,_,unassigned,_⟩
      · exact agrees.carries old known other existing
      · rw [unassigned]
        refine iff_of_false (fun current => unknown ?_) (by simp)
        exact db.constraints.currentOrder old known other.id current
    · rw [clean]
      refine iff_of_false (by simp) (fun named => ?_)
      rcases grown.order other present with existing | ⟨_,_,unassigned,_⟩
      · exact fresh (db.constraints.assignedDriver other existing row.id named)
      · rw [unassigned] at named
        contradiction
  assigned row member := by
    rcases grown.order row member with known | ⟨_,pending,unassigned,never⟩
    · exact agrees.assigned row known
    · simp [pending,unassigned,never]
  waits row member free := by
    rcases grown.order row member with known | ⟨_,pending,_⟩
    · exact agrees.waits row known free
    · exact Or.inl pending

theorem Assigned.agrees (assigned : db.Assigned next order driver time) (agrees : db.Agrees)
    (unassigned : ∀ row ∈ db.orders.rows, row.id = order → row.assignedDriverId = none) :
    next.Agrees where
  busy row member := by
    rcases assigned.driver_cases member with ⟨old,_,_,_,rfl⟩ | ⟨known,_⟩
    · simp [Driver.assign]
    · exact agrees.busy row known
  carries row member other present := by
    rcases assigned.driver_cases member with ⟨old,known,named,available,rfl⟩ | ⟨known,apart⟩ <;>
      rcases assigned.order_cases present with ⟨was,existing,same,rfl⟩ | ⟨existing,away⟩
    · simp [Driver.assign,Order.assign,named,same]
    · -- the driver was free, so it carries no other order
      have free := agrees.available known available
      have nobody : other.assignedDriverId ≠ some old.id := by
        rw [ne_eq,← agrees.carries old known other existing,free]
        simp
      refine iff_of_false ?_ nobody
      intro current
      exact away (Option.some.inj current).symm
    · -- the order was free, so no other driver carries it
      have nobody : row.currentOrderId ≠ some was.id := by
        rw [ne_eq,agrees.carries row known was existing,unassigned was existing same]
        simp
      refine iff_of_false nobody ?_
      intro current
      exact apart (Option.some.inj current).symm
    · exact agrees.carries row known other existing
  assigned row member := by
    rcases assigned.order_cases member with ⟨old,_,_,rfl⟩ | ⟨known,_⟩
    · simp [Order.assign]
    · exact agrees.assigned row known
  waits row member free := by
    rcases assigned.order_cases member with ⟨old,_,_,rfl⟩ | ⟨known,_⟩
    · exact absurd rfl free
    · exact agrees.waits row known free

end Database

section
variable {Thread : Type} [DecidableEq Thread] {settings : Settings} {loop : Thread}
variable {shared : Shared} {trace : List (Move Thread Empty)}
variable {state : System.State Call Reply PyException Shared Thread}

def StillUnassigned (db : Database) (copy : Order) : Prop :=
  ∀ row ∈ db.orders.rows, row.id = copy.id → row.assignedDriverId = none

omit [DecidableEq Thread] in
theorem ownedUnassigned : Guarded (· = loop) nobody Database.Agrees StillUnassigned where
  fetched db copy agrees actionable row member same :=
    agrees.actionable member (Ledger.fetched_row actionable member same)
  sound request note shared reply next agrees owner answered := by
    cases Call.respond_written answered with
    | unchanged same => exact same ▸ agrees
    | held order hold held => exact held.agrees agrees
    | created id payload ready commit grown rows => exact grown.agrees agrees
    | moved grown orders => exact grown.agrees agrees
    | assigned order driver attempt assigned =>
      obtain ⟨copy,same,unassigned⟩ := owner order driver attempt
      exact assigned.agrees agrees
        (fun row member named => unassigned row member (named.trans same.symm))
  current copy request note shared reply next _ unassigned answered unused := by
    have single := unused (fun one other first second => first.trans second.symm)
    apply Ledger.owned_rows ?_ ?_ answered single unassigned
    · exact fun old unassigned _ => unassigned
    · exact fun row _ clean => clean
  outside action _ _ _ _ := action.elim

theorem tables_agree (start : shared.db = Database.empty)
    (run : (deployment settings (· = loop) nobody).Run shared trace state) :
    Execution.Throughout (System.State.idle shared) trace (·.shared.db.Agrees) :=
  ownedUnassigned.throughout (start ▸ Database.agrees_empty) run

theorem life_replayed : ((System.replay (deployment {} (· = true) nobody)
    (Sample.life true false) (System.State.idle ⟨Database.empty,0⟩)).map
      (fun done => done.2.shared.db.orders.rows.map Order.assignedDriverId)) =
        some [some (Sample.id 1)] := by
  decide +kernel

theorem life_agrees : ∃ (trace : List (Move Bool Empty))
    (state : System.State Call Reply PyException Shared Bool),
      (deployment {} (· = true) nobody).Run ⟨Database.empty,0⟩ trace state ∧
        state.shared.db.orders.rows.map Order.assignedDriverId = [some (Sample.id 1)] ∧
          Execution.Throughout (System.State.idle ⟨Database.empty,0⟩) trace (·.shared.db.Agrees) := by
  obtain ⟨⟨trace,state⟩,replayed,assigned⟩ := Option.map_eq_some_iff.mp life_replayed
  have run := System.replay_execution replayed
  exact ⟨trace,state,run,assigned,tables_agree rfl run⟩

end
end FoodDispatch
