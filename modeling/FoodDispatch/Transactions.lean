import FoodDispatch.Database
import FoodDispatch.MapsModels

/-! The bodies of the database sessions, statement by statement, and for each of
them what it leaves in the tables. -/
namespace FoodDispatch
open Library Transaction

namespace Driver

def Available (row : Driver) : Prop := row.status = .onlineAvailable

instance (row : Driver) : Decidable row.Available := inferInstanceAs (Decidable (_ = _))

def Eligible (staleCutoff : ℤ) (row : Driver) : Prop :=
  row.Available ∧ (∃ seen ∈ row.lastLocationAt, staleCutoff ≤ seen) ∧
    row.currentLat.isSome ∧ row.currentLng.isSome

instance (staleCutoff : ℤ) (row : Driver) : Decidable (row.Eligible staleCutoff) :=
  inferInstanceAs (Decidable (_ ∧ _ ∧ _ ∧ _))

def assign (order : UUID) (row : Driver) : Driver :=
  {row with status := .onlineBusy,currentOrderId := some order}

def moveTo (lat lng : Double) (now : ℤ) (row : Driver) : Driver :=
  {row with currentLat := some lat,currentLng := some lng,lastLocationAt := some now}

@[simp] theorem assign_id (order : UUID) (row : Driver) : (row.assign order).id = row.id := rfl

@[simp] theorem moveTo_id (lat lng : Double) (now : ℤ) (row : Driver) :
    (row.moveTo lat lng now).id = row.id := rfl

end Driver

namespace Order

def assign (driver : UUID) (now : ℤ) (row : Order) : Order :=
  {row with dispatchStatus := .assigned,assignedDriverId := some driver,assignedAt := some now}

def hold (row : Order) : Order := {row with dispatchStatus := .holding}

@[simp] theorem assign_id (driver : UUID) (now : ℤ) (row : Order) :
    (row.assign driver now).id = row.id := rfl

@[simp] theorem hold_id (row : Order) : row.hold.id = row.id := rfl

end Order

/-- `OrderCreateRequest`: the coordinates are in the ranges its fields declare. -/
structure OrderCreateRequest where
  restaurantId : UUID
  restaurantLat : Double
  restaurantLng : Double
  customerId : UUID
  deliveryLat : Double
  deliveryLng : Double
  latitudes : inField (-90) 90 restaurantLat = true ∧ inField (-90) 90 deliveryLat = true
  longitudes : inField (-180) 180 restaurantLng = true ∧ inField (-180) 180 deliveryLng = true

/-- The `Order(..)` that `create_order` adds to its session. -/
def Order.new (id : UUID) (payload : OrderCreateRequest) (predictedReadyAt : ℤ) : Order :=
  ⟨id,payload.restaurantId,payload.restaurantLat,payload.restaurantLng,payload.customerId,
    payload.deliveryLat,payload.deliveryLng,.pending,predictedReadyAt,none,none⟩

structure DriverSeed where
  name : String
  phone : String
  startLat : Double
  startLng : Double

structure DriverState where
  dbId : UUID
  name : String
  lat : Double
  lng : Double

namespace Transaction

/-- `_attempt_atomic_assignment`, from `SELECT .. FOR UPDATE` to the commit. -/
def attemptAtomicAssignment (order driver : UUID) (now : ℤ) : Transaction Bool := do
  let locked ← selectDriver (fun row => row.id = driver ∧ row.Available)
  match locked with
  | none => return false
  | some lockedDriver =>
    updateDrivers (fun row => row.id = lockedDriver.id) (Driver.assign order) (Driver.assign_id order)
    updateOrders (fun row => row.id = order) (Order.assign lockedDriver.id now)
      (Order.assign_id lockedDriver.id now)
    return true

def applyHold (order : UUID) : Transaction Unit :=
  updateOrders (fun row => row.id = order ∧ row.dispatchStatus = .pending) Order.hold
    Order.hold_id

def commitOrder (id : UUID) (payload : OrderCreateRequest) (predictedReadyAt : ℤ) :
    Transaction Unit :=
  insertOrder (Order.new id payload predictedReadyAt)

def refreshOrder (order : UUID) : Transaction Order := fun db =>
  match db.orders.find? order with
  | some row => .ok (row,db)
  | none => .error (.other "InvalidRequestError")

/-- `value or default` on a nullable double. -/
def orElse (value : Option Double) (default : Double) : Double :=
  match value with
  | none => default
  | some value => if value = .finite 0 then default else value

/-- One seed; the new row's id and its heartbeat are drawn by the caller. -/
def seedDriver (seed : DriverSeed) (id : UUID) (now : ℤ) : Transaction DriverState := do
  let found ← selectDriver (fun row => row.phone = seed.phone)
  match found with
  | none =>
    insertDriver ⟨id,seed.name,seed.phone,.onlineAvailable,some seed.startLat,some seed.startLng,
      some now,none⟩
    return ⟨id,seed.name,orElse (some seed.startLat) seed.startLat,
      orElse (some seed.startLng) seed.startLng⟩
  | some driver => return ⟨driver.id,driver.name,orElse driver.currentLat seed.startLat,
      orElse driver.currentLng seed.startLng⟩

def seedDrivers : List (DriverSeed × UUID × ℤ) → Transaction (List DriverState)
  | [] => return []
  | (seed,id,now)::rest => do
    let state ← seedDriver seed id now
    let states ← seedDrivers rest
    return state::states

def pushPositions (now : ℤ) : List DriverState → Transaction Unit
  | [] => return ()
  | state::rest => do
    updateDrivers (fun row => row.id = state.dbId) (Driver.moveTo state.lat state.lng now)
      (Driver.moveTo_id state.lat state.lng now)
    pushPositions now rest

end Transaction

namespace Database

def actionableOrders (db : Database) : List Order := db.orders.rows.filter (·.Actionable)

def candidates (db : Database) (staleCutoff : ℤ) : List Driver :=
  db.drivers.rows.filter (·.Eligible staleCutoff)

def DriverAvailable (db : Database) (driver : UUID) : Prop :=
  ∃ row ∈ db.drivers.rows, row.id = driver ∧ row.Available

instance (db : Database) (driver : UUID) : Decidable (db.DriverAvailable driver) :=
  inferInstanceAs (Decidable (∃ row ∈ db.drivers.rows, _))

structure Assigned (db next : Database) (order driver : UUID) (now : ℤ) : Prop where
  available : db.DriverAvailable driver
  known : order ∈ db.orders.keys
  drivers : next.drivers =
    db.drivers.update (fun row => row.id = driver) (Driver.assign order) (Driver.assign_id order)
  orders : next.orders =
    db.orders.update (fun row => row.id = order) (Order.assign driver now)
      (Order.assign_id driver now)

structure Held (db next : Database) (order : UUID) : Prop where
  drivers : next.drivers = db.drivers
  orders : next.orders = db.orders.update
    (fun row => row.id = order ∧ row.dispatchStatus = .pending) Order.hold Order.hold_id

structure SameDuty (old new : Driver) : Prop where
  id : new.id = old.id
  status : new.status = old.status
  currentOrderId : new.currentOrderId = old.currentOrderId

/-- What the writers outside the dispatch loop leave: drivers move and appear,
orders appear, and everything that dispatching decides stays as it was. -/
structure Grown (db next : Database) : Prop where
  driver : ∀ row ∈ next.drivers.rows, (∃ old ∈ db.drivers.rows, SameDuty old row) ∨
    (row.id ∉ db.drivers.keys ∧ row.Available ∧ row.currentOrderId = none)
  keepsDriver : ∀ old ∈ db.drivers.rows, ∃ row ∈ next.drivers.rows, SameDuty old row
  order : ∀ row ∈ next.orders.rows, row ∈ db.orders.rows ∨
    (row.id ∉ db.orders.keys ∧ row.dispatchStatus = .pending ∧ row.assignedDriverId = none ∧
      row.assignedAt = none)
  keepsOrder : ∀ old ∈ db.orders.rows, old ∈ next.orders.rows

theorem SameDuty.refl (row : Driver) : SameDuty row row := ⟨rfl,rfl,rfl⟩

theorem SameDuty.trans {first second third : Driver} (left : SameDuty first second)
    (right : SameDuty second third) : SameDuty first third :=
  ⟨right.id.trans left.id,right.status.trans left.status,
    right.currentOrderId.trans left.currentOrderId⟩

theorem Grown.refl (db : Database) : Grown db db :=
  ⟨fun row member => Or.inl ⟨row,member,.refl row⟩,fun old member => ⟨old,member,.refl old⟩,
    fun _ member => Or.inl member,fun _ member => member⟩

theorem Grown.driverKeys {db next : Database} (grown : Grown db next) {id : UUID}
    (known : id ∈ db.drivers.keys) : id ∈ next.drivers.keys := by
  obtain ⟨old,member,rfl⟩ := Table.mem_keys.mp known
  obtain ⟨row,present,same⟩ := grown.keepsDriver old member
  exact Table.mem_keys.mpr ⟨row,present,same.id⟩

theorem Grown.orderKeys {db next : Database} (grown : Grown db next) {id : UUID}
    (known : id ∈ db.orders.keys) : id ∈ next.orders.keys := by
  obtain ⟨old,member,rfl⟩ := Table.mem_keys.mp known
  exact Table.mem_keys.mpr ⟨old,grown.keepsOrder old member,rfl⟩

theorem Grown.trans {first second third : Database} (left : Grown first second)
    (right : Grown second third) : Grown first third where
  driver row member := by
    rcases right.driver row member with ⟨middle,present,same⟩ | ⟨fresh,available,free⟩
    · rcases left.driver middle present with ⟨old,original,before⟩ | ⟨fresh,available,free⟩
      · exact Or.inl ⟨old,original,before.trans same⟩
      · refine Or.inr ⟨by rwa [same.id],?_,by rw [same.currentOrderId,free]⟩
        exact same.status.trans available
    · exact Or.inr ⟨fun known => fresh (left.driverKeys known),available,free⟩
  keepsDriver old member := by
    obtain ⟨middle,present,before⟩ := left.keepsDriver old member
    obtain ⟨row,final,same⟩ := right.keepsDriver middle present
    exact ⟨row,final,before.trans same⟩
  order row member := by
    rcases right.order row member with present | ⟨fresh,clean⟩
    · exact left.order row present
    · exact Or.inr ⟨fun known => fresh (left.orderKeys known),clean⟩
  keepsOrder old member := right.keepsOrder old (left.keepsOrder old member)

end Database

namespace Transaction

/-- `SELECT .. FOR UPDATE` re-reads the status of the row it locks. -/
theorem selectDriver_available (db : Database) (driver : UUID) :
    (¬db.DriverAvailable driver ∧
      selectDriver (fun row => row.id = driver ∧ row.Available) db = .ok (none,db)) ∨
    (db.DriverAvailable driver ∧ ∃ row, row.id = driver ∧
      selectDriver (fun row => row.id = driver ∧ row.Available) db = .ok (some row,db)) := by
  unfold selectDriver Database.DriverAvailable
  cases found : db.drivers.rows.find? (fun row => row.id = driver ∧ row.Available) with
  | none =>
    refine Or.inl ⟨?_,rfl⟩
    rintro ⟨row,member,same,available⟩
    exact List.find?_eq_none.mp found row member (by simp [same,available])
  | some row =>
    have selected := List.find?_some found
    simp only [decide_eq_true_eq] at selected
    exact Or.inr ⟨⟨row,List.mem_of_find?_eq_some found,selected⟩,row,selected.1,rfl⟩

section Constraints
variable {drivers : Table Driver.id} {orders : Table Order.id}

theorem constraints_updateDrivers (holds : Constraints drivers orders) {condition : Driver → Bool}
    {set : Driver → Driver} {keeps : ∀ row, (set row).id = row.id}
    (phone : ∀ row, (set row).phone = row.phone)
    (known : ∀ row ∈ drivers.rows, condition row = true →
      ∀ order ∈ (set row).currentOrderId, order ∈ orders.keys) :
    Constraints (drivers.update condition set keeps) orders where
  phones := by
    have same : (drivers.update condition set keeps).rows.map Driver.phone =
        drivers.rows.map Driver.phone := by
      simp only [Table.update,List.map_map]
      apply List.map_congr_left
      intro row _
      dsimp only [Function.comp_apply]
      split
      · exact phone row
      · rfl
    rw [same]
    exact holds.phones
  currentOrder row member wanted current := by
    obtain ⟨old,present,rfl⟩ := Table.mem_update.mp member
    split at current
    next selected => exact known old present selected wanted current
    next => exact holds.currentOrder old present wanted current
  assignedDriver row member wanted assigned := by
    rw [Table.keys_update]
    exact holds.assignedDriver row member wanted assigned

theorem constraints_updateOrders (holds : Constraints drivers orders) {condition : Order → Bool}
    {set : Order → Order} {keeps : ∀ row, (set row).id = row.id}
    (known : ∀ row ∈ orders.rows, condition row = true →
      ∀ driver ∈ (set row).assignedDriverId, driver ∈ drivers.keys) :
    Constraints drivers (orders.update condition set keeps) where
  phones := holds.phones
  currentOrder row member wanted current := by
    rw [Table.keys_update]
    exact holds.currentOrder row member wanted current
  assignedDriver row member wanted assigned := by
    obtain ⟨old,present,rfl⟩ := Table.mem_update.mp member
    split at assigned
    next selected => exact known old present selected wanted assigned
    next => exact holds.assignedDriver old present wanted assigned

end Constraints

theorem applyHold_spec (order : UUID) (db : Database) :
    ∃ next, applyHold order db = .ok ((),next) ∧ db.Held next order := by
  have holds : Constraints db.drivers (db.orders.update
      (fun row => row.id = order ∧ row.dispatchStatus = .pending) Order.hold Order.hold_id) :=
    constraints_updateOrders db.constraints
      (fun row member _ driver assigned => db.constraints.assignedDriver row member driver assigned)
  exact ⟨_,check_of _ _ holds,⟨rfl,rfl⟩⟩

/-- An assignment either finds the driver gone and writes nothing, or is refused
by the foreign key of a deleted order, or writes both rows. -/
theorem attemptAtomicAssignment_cases (order driver : UUID) (now : ℤ) (db : Database) :
    (¬db.DriverAvailable driver ∧ attemptAtomicAssignment order driver now db = .ok (false,db)) ∨
    (db.DriverAvailable driver ∧ order ∉ db.orders.keys ∧
      attemptAtomicAssignment order driver now db = .error .integrityError) ∨
    ∃ next, attemptAtomicAssignment order driver now db = .ok (true,next) ∧
      db.Assigned next order driver now := by
  rcases selectDriver_available db driver with ⟨taken,selected⟩ | ⟨available,row,same,selected⟩
  · refine Or.inl ⟨taken,?_⟩
    simp only [attemptAtomicAssignment,bind,StateT.bind,Except.bind,selected]
    rfl
  · right
    have unfolded : attemptAtomicAssignment order driver now db =
        (check (db.drivers.update (fun row => row.id = driver) (Driver.assign order)
          (Driver.assign_id order)) db.orders >>= fun pair =>
            (updateOrders (fun row => row.id = order) (Order.assign driver now)
              (Order.assign_id driver now) >>= fun _ => pure true : Transaction Bool) pair.2) := by
      simp only [attemptAtomicAssignment,bind,StateT.bind,Except.bind,selected,same]
      rfl
    by_cases known : order ∈ db.orders.keys
    · right
      have first : Constraints (db.drivers.update (fun row => row.id = driver) (Driver.assign order)
          (Driver.assign_id order)) db.orders :=
        constraints_updateDrivers db.constraints (fun _ => rfl) (by
          intro row _ _ wanted current
          cases current
          exact known)
      have second : Constraints (db.drivers.update (fun row => row.id = driver) (Driver.assign order)
          (Driver.assign_id order)) (db.orders.update (fun row => row.id = order)
            (Order.assign driver now) (Order.assign_id driver now)) :=
        constraints_updateOrders first (by
          intro row _ _ wanted assigned
          cases assigned
          obtain ⟨locked,member,named,_⟩ := available
          rw [Table.keys_update,← named]
          exact db.drivers.key_mem member)
      refine ⟨⟨_,_,second⟩,?_,⟨available,known,rfl,rfl⟩⟩
      rw [unfolded,check_of _ _ first]
      simp only [bind,StateT.bind,Except.bind,updateOrders,check_of _ _ second]
      rfl
    · refine Or.inl ⟨available,known,?_⟩
      have broken : ¬Constraints (db.drivers.update (fun row => row.id = driver)
          (Driver.assign order) (Driver.assign_id order)) db.orders := by
        intro holds
        obtain ⟨locked,member,named,_⟩ := available
        have updated : locked.assign order ∈ (db.drivers.update (fun row => row.id = driver)
            (Driver.assign order) (Driver.assign_id order)).rows :=
          Table.mem_update.mpr ⟨locked,member,by simp [named]⟩
        exact known (holds.currentOrder _ updated order rfl)
      rw [unfolded,check_error broken]
      rfl

theorem commitOrder_grown {id : UUID} {payload : OrderCreateRequest} {ready : ℤ}
    {db next : Database} (done : commitOrder id payload ready db = .ok ((),next)) :
    db.Grown next ∧ next.orders.rows = db.orders.rows ++ [Order.new id payload ready] ∧
      id ∉ db.orders.keys := by
  unfold commitOrder insertOrder at done
  split at done
  next fresh =>
    obtain ⟨drivers,orders⟩ := check_ok.mp done
    refine ⟨⟨?_,?_,?_,?_⟩,by rw [orders]; rfl,fresh⟩
    · intro row member
      exact Or.inl ⟨row,drivers ▸ member,.refl row⟩
    · intro old member
      exact ⟨old,drivers ▸ member,.refl old⟩
    · intro row member
      rw [orders] at member
      rcases Table.mem_insert.mp member with present | rfl
      · exact Or.inl present
      · exact Or.inr ⟨fresh,rfl,rfl,rfl⟩
    · intro old member
      rw [orders]
      exact Table.mem_insert.mpr (Or.inl member)
  next => contradiction

theorem seedDriver_grown {seed : DriverSeed} {id : UUID} {now : ℤ} {db next : Database}
    {state : DriverState} (done : seedDriver seed id now db = .ok (state,next)) :
    db.Grown next ∧ next.orders = db.orders := by
  obtain ⟨found,middle,selected,done⟩ := bind_ok done
  have same : db = middle := congrArg Prod.snd (Except.ok.inj selected)
  subst middle
  cases found with
  | none =>
    obtain ⟨_,middle,inserted,returned⟩ := bind_ok done
    cases returned
    unfold insertDriver at inserted
    split at inserted
    next fresh =>
      obtain ⟨drivers,orders⟩ := check_ok.mp inserted
      refine ⟨⟨?_,?_,?_,?_⟩,orders⟩
      · intro row member
        rw [drivers] at member
        rcases Table.mem_insert.mp member with present | rfl
        · exact Or.inl ⟨row,present,.refl row⟩
        · exact Or.inr ⟨fresh,rfl,rfl⟩
      · intro old member
        rw [drivers]
        exact ⟨old,Table.mem_insert.mpr (Or.inl member),.refl old⟩
      · intro row member
        exact Or.inl (orders ▸ member)
      · intro old member
        exact orders ▸ member
    next => contradiction
  | some driver =>
    cases done
    exact ⟨.refl _,rfl⟩

theorem seedDrivers_grown {seeds : List (DriverSeed × UUID × ℤ)} {db next : Database}
    {states : List DriverState} (done : seedDrivers seeds db = .ok (states,next)) :
    db.Grown next ∧ next.orders = db.orders := by
  induction seeds generalizing db states with
  | nil =>
    cases done
    exact ⟨.refl _,rfl⟩
  | cons first rest ih =>
    obtain ⟨state,middle,seeded,done⟩ := bind_ok done
    obtain ⟨others,last,remaining,returned⟩ := bind_ok done
    cases returned
    have head := seedDriver_grown seeded
    have tail := ih remaining
    exact ⟨head.1.trans tail.1,tail.2.trans head.2⟩

theorem pushPositions_grown {now : ℤ} {states : List DriverState} {db next : Database}
    (done : pushPositions now states db = .ok ((),next)) :
    db.Grown next ∧ next.orders = db.orders := by
  induction states generalizing db with
  | nil =>
    cases done
    exact ⟨.refl _,rfl⟩
  | cons state rest ih =>
    obtain ⟨_,middle,moved,done⟩ := bind_ok done
    obtain ⟨drivers,orders⟩ := check_ok.mp moved
    have tail := ih done
    refine ⟨Database.Grown.trans ⟨?_,?_,?_,?_⟩ tail.1,tail.2.trans orders⟩
    · intro row member
      rw [drivers] at member
      obtain ⟨old,present,rfl⟩ := Table.mem_update.mp member
      refine Or.inl ⟨old,present,?_⟩
      split
      · exact ⟨rfl,rfl,rfl⟩
      · exact .refl old
    · intro old member
      rw [drivers]
      refine ⟨_,Table.mem_update_of_mem member,?_⟩
      split
      · exact ⟨rfl,rfl,rfl⟩
      · exact .refl old
    · intro row member
      exact Or.inl (orders ▸ member)
    · intro old member
      exact orders ▸ member

end Transaction
end FoodDispatch
