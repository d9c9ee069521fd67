import FoodDispatch.Python

/-! Rows of the two tables. Audit timestamps and the lifecycle timestamps that no
code of the dispatch path reads or writes are left out. -/
namespace FoodDispatch

structure UUID where
  bits : BitVec 128
  deriving DecidableEq

inductive DriverStatus where
  | onlineAvailable
  | onlineBusy
  | offline
  deriving DecidableEq

structure Driver where
  id : UUID
  name : String
  phone : String
  status : DriverStatus
  currentLat : Option Double
  currentLng : Option Double
  lastLocationAt : Option ℤ
  currentOrderId : Option UUID
  deriving DecidableEq

inductive DispatchStatus where
  | pending
  | holding
  | assigned
  | pickedUp
  | delivered
  | cancelled
  deriving DecidableEq

structure Order where
  id : UUID
  restaurantId : UUID
  restaurantLat : Double
  restaurantLng : Double
  customerId : UUID
  deliveryLat : Double
  deliveryLng : Double
  dispatchStatus : DispatchStatus
  predictedReadyAt : ℤ
  assignedDriverId : Option UUID
  assignedAt : Option ℤ
  deriving DecidableEq

/-- The documented transitions of an order that dispatching makes. -/
inductive DispatchStatus.ByLoop : DispatchStatus → DispatchStatus → Prop
  | held : ByLoop .pending .holding
  | assignedAtOnce : ByLoop .pending .assigned
  | assignedLater : ByLoop .holding .assigned

instance (old new : DispatchStatus) : Decidable (DispatchStatus.ByLoop old new) :=
  decidable_of_iff ((old = .pending ∧ (new = .holding ∨ new = .assigned)) ∨
    (old = .holding ∧ new = .assigned)) (by
      constructor
      · intro listed
        rcases listed with ⟨rfl,rfl | rfl⟩ | ⟨rfl,rfl⟩
        · exact .held
        · exact .assignedAtOnce
        · exact .assignedLater
      · intro taken
        cases taken <;> simp)

inductive DispatchStatus.ByOthers : DispatchStatus → DispatchStatus → Prop
  | collected : ByOthers .assigned .pickedUp
  | droppedOff : ByOthers .pickedUp .delivered
  | cancelled (status) : ByOthers status .cancelled

instance (old new : DispatchStatus) : Decidable (DispatchStatus.ByOthers old new) :=
  decidable_of_iff (old = .assigned ∧ new = .pickedUp ∨ old = .pickedUp ∧ new = .delivered ∨
    new = .cancelled) (by
      constructor
      · intro listed
        rcases listed with ⟨rfl,rfl⟩ | ⟨rfl,rfl⟩ | rfl
        · exact .collected
        · exact .droppedOff
        · exact .cancelled old
      · intro taken
        cases taken <;> simp)

theorem DispatchStatus.ByOthers.of_waiting {old new : DispatchStatus} (taken : ByOthers old new)
    (waits : (old = .pending ∨ old = .holding) ∨ old = .cancelled) : new = .cancelled := by
  cases taken with
  | collected => simp at waits
  | droppedOff => simp at waits
  | cancelled => rfl

def Order.Actionable (order : Order) : Prop :=
  order.dispatchStatus = .pending ∨ order.dispatchStatus = .holding

instance (order : Order) : Decidable order.Actionable := inferInstanceAs (Decidable (_ ∨ _))

end FoodDispatch
