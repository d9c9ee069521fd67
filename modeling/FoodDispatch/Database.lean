import FoodDispatch.Library.Table
import FoodDispatch.Models

/-! The database: two tables under the constraints the schema declares, and the
statements of a transaction. A statement that would break a constraint raises,
and a transaction that raises leaves no trace. -/
namespace FoodDispatch
open Library

structure Constraints (drivers : Table Driver.id) (orders : Table Order.id) : Prop where
  phones : (drivers.rows.map Driver.phone).Nodup
  currentOrder : ∀ driver ∈ drivers.rows, ∀ order ∈ driver.currentOrderId, order ∈ orders.keys
  assignedDriver : ∀ order ∈ orders.rows, ∀ driver ∈ order.assignedDriverId, driver ∈ drivers.keys

instance (drivers : Table Driver.id) (orders : Table Order.id) :
    Decidable (Constraints drivers orders) :=
  decidable_of_iff
    ((drivers.rows.map Driver.phone).Nodup ∧
      (∀ driver ∈ drivers.rows, ∀ order ∈ driver.currentOrderId, order ∈ orders.keys) ∧
      ∀ order ∈ orders.rows, ∀ driver ∈ order.assignedDriverId, driver ∈ drivers.keys)
    ⟨fun all => ⟨all.1,all.2.1,all.2.2⟩,fun all => ⟨all.phones,all.currentOrder,all.assignedDriver⟩⟩

structure Database where
  drivers : Table Driver.id
  orders : Table Order.id
  constraints : Constraints drivers orders

namespace Database

@[ext] theorem ext {first second : Database} (drivers : first.drivers = second.drivers)
    (orders : first.orders = second.orders) : first = second := by
  cases first
  cases second
  subst drivers
  subst orders
  rfl

instance : DecidableEq Database := fun first second =>
  decidable_of_iff (first.drivers = second.drivers ∧ first.orders = second.orders)
    ⟨fun same => ext same.1 same.2,fun same => by simp [same]⟩

def empty : Database := ⟨.empty,.empty,by simp [Table.empty],by simp [Table.empty],by simp [Table.empty]⟩

end Database

/-- The statements of one transaction, up to the first that raises. -/
abbrev Transaction (α : Type) := StateT Database (Except PyException) α

namespace Transaction

def check (drivers : Table Driver.id) (orders : Table Order.id) : Except PyException (Unit × Database) :=
  if holds : Constraints drivers orders then .ok ((),⟨drivers,orders,holds⟩)
  else .error .integrityError

def selectDriver (condition : Driver → Bool) : Transaction (Option Driver) :=
  fun db => .ok (db.drivers.rows.find? condition,db)

def updateDrivers (condition : Driver → Bool) (set : Driver → Driver)
    (keeps : ∀ row, (set row).id = row.id) : Transaction Unit :=
  fun db => check (db.drivers.update condition set keeps) db.orders

def updateOrders (condition : Order → Bool) (set : Order → Order)
    (keeps : ∀ row, (set row).id = row.id) : Transaction Unit :=
  fun db => check db.drivers (db.orders.update condition set keeps)

def insertDriver (row : Driver) : Transaction Unit :=
  fun db => if fresh : row.id ∉ db.drivers.keys then check (db.drivers.insert row fresh) db.orders
    else .error .integrityError

def insertOrder (row : Order) : Transaction Unit :=
  fun db => if fresh : row.id ∉ db.orders.keys then check db.drivers (db.orders.insert row fresh)
    else .error .integrityError

theorem check_ok {drivers : Table Driver.id} {orders : Table Order.id} {db : Database} :
    check drivers orders = .ok ((),db) ↔ db.drivers = drivers ∧ db.orders = orders := by
  unfold check
  split
  next holds =>
    constructor
    · intro same
      cases same
      exact ⟨rfl,rfl⟩
    · rintro ⟨rfl,rfl⟩
      rfl
  next broken =>
    constructor
    · intro same
      contradiction
    · rintro ⟨rfl,rfl⟩
      exact absurd db.constraints broken

theorem check_of (drivers : Table Driver.id) (orders : Table Order.id)
    (holds : Constraints drivers orders) :
    check drivers orders = .ok ((),⟨drivers,orders,holds⟩) := by
  simp [check,holds]

theorem check_error {drivers : Table Driver.id} {orders : Table Order.id}
    (broken : ¬Constraints drivers orders) : check drivers orders = .error .integrityError := by
  simp [check,broken]

theorem bind_ok {α β : Type} {first : Transaction α} {rest : α → Transaction β}
    {db final : Database} {result : β} (done : (first >>= rest) db = .ok (result,final)) :
    ∃ value middle, first db = .ok (value,middle) ∧ rest value middle = .ok (result,final) := by
  change (first db >>= fun pair => rest pair.1 pair.2) = _ at done
  cases taken : first db with
  | error error =>
    rw [taken] at done
    contradiction
  | ok pair =>
    rw [taken] at done
    exact ⟨pair.1,pair.2,rfl,done⟩

end Transaction
end FoodDispatch
