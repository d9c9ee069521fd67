import FoodDispatch.Deployment

/-! The effects of calls on single rows, and the three kinds of moves that the
deployed system makes. -/
namespace FoodDispatch
open Library

namespace Database
variable {db next : Database} {order driver : UUID} {time : ℤ}

namespace Assigned

theorem driver_cases (assigned : db.Assigned next order driver time) {row : Driver}
    (member : row ∈ next.drivers.rows) :
    (∃ old ∈ db.drivers.rows, old.id = driver ∧ old.Available ∧ row = old.assign order) ∨
      (row ∈ db.drivers.rows ∧ row.id ≠ driver) := by
  rw [assigned.drivers] at member
  rcases Table.mem_update_cases member with ⟨old,present,selected,rfl⟩ | ⟨present,skipped⟩
  · obtain ⟨locked,found,named,available⟩ := assigned.available
    have selected : old.id = driver := of_decide_eq_true selected
    have same : locked = old := db.drivers.unique found present (named.trans selected.symm)
    exact Or.inl ⟨old,present,selected,same ▸ available,rfl⟩
  · exact Or.inr ⟨present,of_decide_eq_false skipped⟩

theorem order_cases (assigned : db.Assigned next order driver time) {row : Order}
    (member : row ∈ next.orders.rows) :
    (∃ old ∈ db.orders.rows, old.id = order ∧ row = old.assign driver time) ∨
      (row ∈ db.orders.rows ∧ row.id ≠ order) := by
  rw [assigned.orders] at member
  rcases Table.mem_update_cases member with ⟨old,present,selected,rfl⟩ | ⟨present,skipped⟩
  · exact Or.inl ⟨old,present,of_decide_eq_true selected,rfl⟩
  · exact Or.inr ⟨present,of_decide_eq_false skipped⟩

theorem keepsDriver (assigned : db.Assigned next order driver time) {row : Driver}
    (member : row ∈ db.drivers.rows) (other : row.id ≠ driver) : row ∈ next.drivers.rows := by
  rw [assigned.drivers]
  exact Table.mem_update_of_not member (decide_eq_false other)

theorem keepsOrder (assigned : db.Assigned next order driver time) {row : Order}
    (member : row ∈ db.orders.rows) (other : row.id ≠ order) : row ∈ next.orders.rows := by
  rw [assigned.orders]
  exact Table.mem_update_of_not member (decide_eq_false other)

theorem newDriver (assigned : db.Assigned next order driver time) :
    ∃ old ∈ db.drivers.rows, old.id = driver ∧ old.Available ∧
      old.assign order ∈ next.drivers.rows := by
  obtain ⟨old,member,named,available⟩ := assigned.available
  refine ⟨old,member,named,available,?_⟩
  rw [assigned.drivers]
  exact Table.mem_update.mpr ⟨old,member,by simp [named]⟩

theorem newOrder (assigned : db.Assigned next order driver time) {old : Order}
    (member : old ∈ db.orders.rows) (named : old.id = order) :
    old.assign driver time ∈ next.orders.rows := by
  rw [assigned.orders]
  exact Table.mem_update.mpr ⟨old,member,by simp [named]⟩

theorem driverKeys (assigned : db.Assigned next order driver time) :
    next.drivers.keys = db.drivers.keys := by
  rw [assigned.drivers,Table.keys_update]

theorem orderKeys (assigned : db.Assigned next order driver time) :
    next.orders.keys = db.orders.keys := by
  rw [assigned.orders,Table.keys_update]

end Assigned

namespace Held

theorem order_cases (held : db.Held next order) {row : Order} (member : row ∈ next.orders.rows) :
    (∃ old ∈ db.orders.rows, old.id = order ∧ old.dispatchStatus = .pending ∧ row = old.hold) ∨
      row ∈ db.orders.rows := by
  rw [held.orders] at member
  rcases Table.mem_update_cases member with ⟨old,present,selected,rfl⟩ | ⟨present,_⟩
  · obtain ⟨named,pending⟩ := of_decide_eq_true selected
    exact Or.inl ⟨old,present,named,pending,rfl⟩
  · exact Or.inr present

theorem keepsOrder (held : db.Held next order) {row : Order} (member : row ∈ db.orders.rows) :
    row ∈ next.orders.rows ∨ row.hold ∈ next.orders.rows := by
  rw [held.orders]
  cases selected : decide (row.id = order ∧ row.dispatchStatus = .pending) with
  | true => exact Or.inr (Table.mem_update.mpr ⟨row,member,by simp [of_decide_eq_true selected]⟩)
  | false => exact Or.inl (Table.mem_update_of_not member selected)

theorem orderKeys (held : db.Held next order) : next.orders.keys = db.orders.keys := by
  rw [held.orders,Table.keys_update]

end Held

theorem Written.keepsKeys {call : Call} (written : Written call time db next) :
    db.drivers.keys ⊆ next.drivers.keys ∧ db.orders.keys ⊆ next.orders.keys := by
  cases written with
  | unchanged same => exact same ▸ ⟨List.Subset.refl _,List.Subset.refl _⟩
  | held order hold held =>
    rw [held.drivers,held.orderKeys]
    exact ⟨List.Subset.refl _,List.Subset.refl _⟩
  | assigned order driver attempt assigned =>
    rw [assigned.driverKeys,assigned.orderKeys]
    exact ⟨List.Subset.refl _,List.Subset.refl _⟩
  | created id payload ready commit grown rows =>
    exact ⟨fun _ known => grown.driverKeys known,fun _ known => grown.orderKeys known⟩
  | moved grown orders =>
    exact ⟨fun _ known => grown.driverKeys known,fun _ known => grown.orderKeys known⟩

/-- A row of the orders is as it was, or newly on hold, or newly assigned, or new. -/
theorem Written.order_cases {call : Call} (written : Written call time db next) {row : Order}
    (member : row ∈ next.orders.rows) :
    row ∈ db.orders.rows ∨
    (∃ old ∈ db.orders.rows, old.dispatchStatus = .pending ∧ row = old.hold) ∨
    (∃ old ∈ db.orders.rows, ∃ driver, call = .attemptAtomicAssignment old.id driver ∧
      row = old.assign driver time) ∨
    (row.id ∉ db.orders.keys ∧ row.dispatchStatus = .pending ∧ row.assignedDriverId = none ∧
      row.assignedAt = none) := by
  cases written with
  | unchanged same => exact Or.inl (same ▸ member)
  | held order hold held =>
    rcases held.order_cases member with ⟨old,known,_,pending,equal⟩ | known
    · exact Or.inr (Or.inl ⟨old,known,pending,equal⟩)
    · exact Or.inl known
  | assigned order driver attempt assigned =>
    rcases assigned.order_cases member with ⟨old,known,named,equal⟩ | ⟨known,_⟩
    · subst named
      exact Or.inr (Or.inr (Or.inl ⟨old,known,driver,attempt,equal⟩))
    · exact Or.inl known
  | created id payload ready commit grown rows =>
    rcases grown.order row member with known | fresh
    · exact Or.inl known
    · exact Or.inr (Or.inr (Or.inr fresh))
  | moved grown orders => exact Or.inl (orders ▸ member)

end Database

section
variable {Thread Action : Type} [DecidableEq Thread] {settings : Settings} {loops : Thread → Prop}
variable {writes : Action → Database → Database → Prop}

/-- A move leaves the shared state alone, answers a call, or is an outside write. -/
theorem move_cases {move : Move Thread Action}
    (step : (deployment settings loops writes).Step move.before move.label move.after) :
    (move.after.shared = move.before.shared ∧ ∀ action, move.label ≠ .outside action) ∨
    (∃ thread request note reply, move.label = .call thread request note reply ∧
      Call.respond request note move.before.shared = some (reply,move.after.shared)) ∨
    (∃ action, move.label = .outside action ∧
      writes action move.before.shared.db move.after.shared.db) := by
  rcases move with ⟨before,label,after⟩
  change (deployment settings loops writes).Step before label after at step
  cases step with
  | start thread job ended permitted => exact Or.inl ⟨rfl,by simp⟩
  | call thread request following note reply shared waiting answered =>
    exact Or.inr (Or.inl ⟨thread,request,note,reply,rfl,answered⟩)
  | kill thread => exact Or.inl ⟨rfl,by simp⟩
  | outside action shared moved => exact Or.inr (Or.inr ⟨action,rfl,moved.2⟩)

theorem move_call {move : Move Thread Action} {thread : Thread} {request : Call} {note : Note}
    {reply : Except PyException (Reply request)}
    (step : (deployment settings loops writes).Step move.before move.label move.after)
    (label : move.label = .call thread request note reply) :
    Call.respond request note move.before.shared = some (reply,move.after.shared) := by
  rcases move with ⟨before,taken,after⟩
  change taken = _ at label
  change (deployment settings loops writes).Step before taken after at step
  subst taken
  cases step with
  | call _ _ following _ _ shared waiting answered => exact answered

omit [DecidableEq Thread] in
/-- Killing or starting one thread is no move of another. -/
theorem restart_others {move : Move Thread Action} {thread other : Thread}
    (label : move.label = .kill thread ∨ ∃ job, move.label = .start thread job)
    (apart : other ≠ thread) :
    move.caller ≠ some other ∧ ∀ job, move.label ≠ .start other job := by
  unfold Move.caller
  rcases label with kill | ⟨job,start⟩
  · simp [kill]
  · simp [start,apart.symm]

theorem move_written {move : Move Thread Empty}
    (step : (deployment settings loops nobody).Step move.before move.label move.after) :
    ∃ request time, Database.Written request time move.before.shared.db move.after.shared.db := by
  rcases move_cases step with ⟨same,_⟩ | ⟨thread,request,note,reply,_,answered⟩ | ⟨action,_,_⟩
  · exact ⟨.fetchActionableOrders,0,.unchanged (congrArg Shared.db same)⟩
  · exact ⟨request,note.now,Call.respond_written answered⟩
  · exact action.elim

end
end FoodDispatch
