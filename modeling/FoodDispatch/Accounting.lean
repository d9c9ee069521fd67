import FoodDispatch.DriverOnce
import FoodDispatch.Library.Balance
import Mathlib.Algebra.Order.Group.Nat
import Mathlib.Data.Finset.Card
import Mathlib.Data.Multiset.AddSub

/-! What any number of dispatch loops can write. Each assignment takes one driver
who was available, each hold one order that was pending, and the loops bring back
neither; so what they write is paid for by what clients and the simulator add. -/
namespace FoodDispatch
open Library

namespace Database

def idle (db : Database) : Finset UUID := db.drivers.keys.toFinset.filter (db.DriverAvailable ·)

def unavailable (db : Database) : Finset UUID :=
  db.drivers.keys.toFinset.filter (¬db.DriverAvailable ·)

def Pending (db : Database) (order : UUID) : Prop :=
  ∃ row ∈ db.orders.rows, row.id = order ∧ row.dispatchStatus = .pending

instance (db : Database) (order : UUID) : Decidable (db.Pending order) :=
  inferInstanceAs (Decidable (∃ row ∈ db.orders.rows, _))

def pending (db : Database) : Finset UUID := db.orders.keys.toFinset.filter (db.Pending ·)

variable {db next : Database} {order driver : UUID} {time : ℤ}

@[simp] theorem mem_unavailable : driver ∈ db.unavailable ↔ db.Taken driver := by
  simp [unavailable,Taken]

@[simp] theorem mem_pending : order ∈ db.pending ↔ db.Pending order := by
  simp only [pending,Finset.mem_filter,List.mem_toFinset,and_iff_right_iff_imp]
  rintro ⟨row,member,rfl,_⟩
  exact db.orders.key_mem member

theorem idle_add_unavailable (db : Database) :
    db.idle.card + db.unavailable.card = db.drivers.rows.length := by
  unfold idle unavailable
  rw [Finset.card_filter_add_card_filter_not,Table.card_keys]

theorem Grown.taken_iff (grown : db.Grown next) : next.Taken driver ↔ db.Taken driver := by
  refine ⟨fun taken => ?_,grown.taken⟩
  obtain ⟨row,member,rfl⟩ := Table.mem_keys.mp taken.1
  have busy : ¬row.Available := fun available => taken.2 ⟨row,member,rfl,available⟩
  rcases grown.driver row member with ⟨old,known,same⟩ | ⟨_,available,_⟩
  · refine ⟨same.id ▸ db.drivers.key_mem known,?_⟩
    rintro ⟨other,present,named,available⟩
    have equal : other = old := db.drivers.unique present known (named.trans same.id)
    exact busy (same.status.trans (equal ▸ available))
  · exact absurd available busy

theorem Grown.unavailable (grown : db.Grown next) : next.unavailable = db.unavailable := by
  ext driver
  rw [mem_unavailable,mem_unavailable,grown.taken_iff]

theorem Held.unavailable (held : db.Held next order) : next.unavailable = db.unavailable := by
  ext driver
  rw [mem_unavailable,mem_unavailable]
  unfold Taken DriverAvailable
  rw [held.drivers]

theorem Assigned.taken_iff {other : UUID} (assigned : db.Assigned next order driver time) :
    next.Taken other ↔ other = driver ∨ db.Taken other := by
  constructor
  · intro taken
    by_cases same : other = driver
    · exact Or.inl same
    · refine Or.inr ⟨assigned.driverKeys ▸ taken.1,?_⟩
      rintro ⟨row,member,rfl,available⟩
      exact taken.2 ⟨row,assigned.keepsDriver member same,rfl,available⟩
  · rintro (rfl | taken)
    · exact assigned.taken
    · have written : Written (.attemptAtomicAssignment order driver) time db next :=
        .assigned order driver rfl assigned
      exact written.taken taken

theorem Assigned.unavailable (assigned : db.Assigned next order driver time) :
    next.unavailable.val = db.unavailable.val + {driver} := by
  have fresh : driver ∉ db.unavailable := by
    rw [mem_unavailable]
    exact fun taken => taken.2 assigned.available
  have grows : next.unavailable = insert driver db.unavailable := by
    ext other
    simp [assigned.taken_iff]
  rw [grows,Finset.insert_val_of_notMem fresh,Multiset.add_comm,Multiset.singleton_add]

/-- An order that has become pending has been created. -/
theorem Grown.pending (grown : db.Grown next) :
    next.pending.card + db.orders.rows.length ≤ db.pending.card + next.orders.rows.length := by
  have origin : next.pending ⊆ db.pending ∪ (next.orders.keys.toFinset \ db.orders.keys.toFinset) := by
    intro order member
    obtain ⟨row,present,rfl,waits⟩ := mem_pending.mp member
    rw [Finset.mem_union,mem_pending,Finset.mem_sdiff,List.mem_toFinset,List.mem_toFinset]
    rcases grown.order row present with known | ⟨fresh,_⟩
    · exact Or.inl ⟨row,known,rfl,waits⟩
    · exact Or.inr ⟨next.orders.key_mem present,fresh⟩
  have kept : db.orders.keys.toFinset ⊆ next.orders.keys.toFinset := by
    intro order known
    exact List.mem_toFinset.mpr (grown.orderKeys (List.mem_toFinset.mp known))
  have bound := (Finset.card_le_card origin).trans (Finset.card_union_le _ _)
  have fewer := Finset.card_le_card kept
  rw [Finset.card_sdiff_of_subset kept,Table.card_keys,Table.card_keys] at bound
  rw [Table.card_keys,Table.card_keys] at fewer
  omega

theorem Held.pending_of (held : db.Held next order) {other : UUID} (waits : next.Pending other) :
    db.Pending other ∧ other ≠ order := by
  obtain ⟨row,member,rfl,pending⟩ := waits
  rw [held.orders] at member
  rcases Table.mem_update_cases member with ⟨old,_,_,rfl⟩ | ⟨known,skipped⟩
  · contradiction
  · exact ⟨⟨row,known,rfl,pending⟩,fun same => of_decide_eq_false skipped ⟨same,pending⟩⟩

theorem Held.pending (held : db.Held next order) (waits : db.Pending order) :
    next.pending.card + 1 ≤ db.pending.card := by
  apply Finset.card_lt_card
  rw [Finset.ssubset_iff_of_subset]
  · refine ⟨order,mem_pending.mpr waits,fun member => ?_⟩
    exact (held.pending_of (mem_pending.mp member)).2 rfl
  · intro other member
    exact mem_pending.mpr (held.pending_of (mem_pending.mp member)).1

theorem Held.same (held : db.Held next order) (waits : ¬db.Pending order) : next = db := by
  apply Database.ext held.drivers
  rw [held.orders]
  apply Table.update_eq_self
  intro row member
  exact decide_eq_false (fun wanted => waits ⟨row,member,wanted⟩)

theorem Assigned.pending_of (assigned : db.Assigned next order driver time) {other : UUID}
    (waits : next.Pending other) : db.Pending other := by
  obtain ⟨row,member,named,pending⟩ := waits
  rcases assigned.order_cases member with ⟨old,_,_,rfl⟩ | ⟨known,_⟩
  · contradiction
  · exact ⟨row,known,named,pending⟩

theorem Assigned.pending (assigned : db.Assigned next order driver time) :
    next.pending.card ≤ db.pending.card := by
  apply Finset.card_le_card
  intro other member
  exact mem_pending.mpr (assigned.pending_of (mem_pending.mp member))

end Database

theorem Call.respond_hold {order : UUID} {note : Note} {shared next : Shared}
    {reply : Except PyException Unit}
    (done : (Call.applyHold order).respond note shared = some (reply,next)) :
    next.db = shared.db ∨ shared.db.Held next.db order := by
  rcases (respond_cases done).2 with ⟨_,same,_⟩ | ⟨_,said,answered,_⟩
  · exact Or.inl same
  · obtain ⟨held,ran,holds⟩ := Transaction.applyHold_spec order shared.db
    rcases commit_cases (Option.some.inj answered) with ⟨_,ran',_⟩ | ⟨_,ran',_⟩
    · rw [ran] at ran'
      cases ran'
      exact Or.inr holds
    · rw [ran] at ran'
      contradiction

section
variable {Thread Action : Type}

/-- The order and the driver of an attempt that took effect, whatever it returned. -/
def Move.assigned (move : Move Thread Action) : Option (UUID × UUID) :=
  match move.label with
  | .call _ (.attemptAtomicAssignment order driver) _ _ =>
    if move.after.shared.db = move.before.shared.db then none else some (order,driver)
  | _ => none

theorem assigned_label {move : Move Thread Action} {order driver : UUID}
    (taken : move.assigned = some (order,driver)) : ∃ thread note reply,
      move.label = .call thread (.attemptAtomicAssignment order driver) note reply := by
  unfold Move.assigned at taken
  split at taken
  next label =>
    split at taken
    next => contradiction
    next =>
      cases taken
      exact ⟨_,_,_,label⟩
  next => contradiction

def Move.held (move : Move Thread Action) : Option UUID :=
  match move.label with
  | .call _ (.applyHold order) _ _ =>
    if move.after.shared.db = move.before.shared.db then none else some order
  | _ => none

/-- What a move of the deployment does to the tables, and how it is accounted for. -/
inductive Move.Effect (move : Move Thread Action) : Prop
  | grown (spared : move.assigned = none) (kept : move.held = none)
      (grown : move.before.shared.db.Grown move.after.shared.db)
  | held (order) (spared : move.assigned = none) (taken : move.held = some order)
      (waits : move.before.shared.db.Pending order)
      (held : move.before.shared.db.Held move.after.shared.db order)
  | assigned (order driver time) (taken : move.assigned = some (order,driver))
      (kept : move.held = none)
      (assigned : move.before.shared.db.Assigned move.after.shared.db order driver time)

theorem Move.Effect.same {move : Move Thread Action}
    (same : move.after.shared.db = move.before.shared.db) : move.Effect := by
  refine .grown ?_ ?_ (same ▸ .refl _)
  · unfold Move.assigned
    split <;> simp [same]
  · unfold Move.held
    split <;> simp [same]

end

section
variable {Thread : Type} [DecidableEq Thread] {settings : Settings} {loops : Thread → Prop}
variable {shared : Shared} {trace : List (Move Thread Empty)}
variable {state : System.State Call Reply PyException Shared Thread}

theorem move_effect {move : Move Thread Empty}
    (step : (deployment settings loops nobody).Step move.before move.label move.after) :
    move.Effect := by
  by_cases same : move.after.shared.db = move.before.shared.db
  · exact .same same
  rcases move_cases step with ⟨unmoved,_⟩ | ⟨thread,request,note,reply,label,answered⟩ | ⟨action,_⟩
  · exact absurd (congrArg Shared.db unmoved) same
  · cases request with
    | attemptAtomicAssignment order driver =>
      rcases Call.respond_attempt answered with ⟨_,assigned,_⟩ | ⟨unchanged,_⟩
      · exact .assigned order driver _ (by simp [Move.assigned,label,same]) (by simp [Move.held,label])
          assigned
      · exact absurd unchanged same
    | applyHold order =>
      have held := (Call.respond_hold answered).resolve_left same
      have waits : move.before.shared.db.Pending order := by
        by_contra gone
        exact same (held.same gone)
      exact .held order (by simp [Move.assigned,label]) (by simp [Move.held,label,same]) waits held
    | _ =>
      refine .grown (by simp [Move.assigned,label]) (by simp [Move.held,label]) ?_
      cases Call.respond_written answered with
      | unchanged unmoved => exact absurd unmoved same
      | held order hold => contradiction
      | assigned order driver attempt => contradiction
      | created id payload ready commit grown rows => exact grown
      | moved grown orders => exact grown
  · exact action.elim

/-- The unavailable drivers are those of the start and those the loops assigned. -/
theorem unavailable_balance (run : (deployment settings loops nobody).Run shared trace state) :
    state.shared.db.unavailable.val = shared.db.unavailable.val +
      ((trace.filterMap Move.assigned).map Prod.snd : List UUID) := by
  have total := run.total_eq (fun reached => reached.shared.db.unavailable.val)
    (fun move : Move Thread Empty => ((move.assigned.map Prod.snd).toList : Multiset UUID)) (by
      intro move member
      cases move_effect (run.step_of_mem member) with
      | grown spared kept grown => simp [spared,grown.unavailable]
      | held order spared taken waits held => simp [spared,held.unavailable]
      | assigned order driver time taken kept assigned => simp [taken,assigned.unavailable])
  rw [Execution.sum_filterMap] at total
  rw [List.map_filterMap]
  exact total

def HeldOnce (trace : List (Move Thread Empty))
    (state : System.State Call Reply PyException Shared Thread) : Prop :=
  (trace.filterMap Move.held).Nodup ∧ ∀ order ∈ trace.filterMap Move.held,
    order ∈ state.shared.db.orders.keys ∧ ¬state.shared.db.Pending order

/-- No order is put on hold twice, nor is one pending again that was on hold. -/
theorem held_once (run : (deployment settings loops nobody).Run shared trace state) :
    HeldOnce trace state := by
  apply run.history ⟨List.nodup_nil,by simp⟩
  intro earlier move _ step ⟨distinct,left⟩
  unfold HeldOnce
  cases move_effect step with
  | grown spared kept grown =>
    simp only [List.filterMap_append,List.filterMap_cons,kept,List.filterMap_nil,List.append_nil]
    refine ⟨distinct,fun order member => ?_⟩
    obtain ⟨known,gone⟩ := left order member
    refine ⟨grown.orderKeys known,?_⟩
    rintro ⟨row,present,rfl,waits⟩
    rcases grown.order row present with old | ⟨fresh,_⟩
    · exact gone ⟨row,old,rfl,waits⟩
    · exact fresh known
  | held order spared taken waits held =>
    simp only [List.filterMap_append,List.filterMap_cons,taken,List.filterMap_nil]
    have fresh : order ∉ earlier.filterMap Move.held := fun member => (left order member).2 waits
    refine ⟨distinct.append (List.nodup_singleton _) (by simpa using fresh),fun wanted member => ?_⟩
    rw [held.orderKeys]
    rcases List.mem_append.mp member with before | now
    · obtain ⟨known,gone⟩ := left wanted before
      exact ⟨known,fun pending => gone (held.pending_of pending).1⟩
    · rw [List.mem_singleton.mp now]
      obtain ⟨row,present,named,_⟩ := waits
      exact ⟨named ▸ Table.key_mem _ present,fun pending => (held.pending_of pending).2 rfl⟩
  | assigned order driver time taken kept assigned =>
    simp only [List.filterMap_append,List.filterMap_cons,kept,List.filterMap_nil,List.append_nil]
    refine ⟨distinct,fun wanted member => ?_⟩
    obtain ⟨known,gone⟩ := left wanted member
    exact ⟨assigned.orderKeys ▸ known,fun waits => gone (assigned.pending_of waits)⟩

theorem idle_balance (run : (deployment settings loops nobody).Run shared trace state) :
    state.shared.db.idle.card + (trace.filterMap Move.assigned).length +
        shared.db.drivers.rows.length =
      shared.db.idle.card + state.shared.db.drivers.rows.length := by
  have total := congrArg Multiset.card (unavailable_balance run)
  simp only [Multiset.card_add,Multiset.coe_card,List.length_map,Finset.card_val] at total
  have before := shared.db.idle_add_unavailable
  have after := state.shared.db.idle_add_unavailable
  omega

theorem pending_balance (run : (deployment settings loops nobody).Run shared trace state) :
    state.shared.db.pending.card + (trace.filterMap Move.held).length +
        shared.db.orders.rows.length ≤
      shared.db.pending.card + state.shared.db.orders.rows.length := by
  have total := run.total_le (fun reached => reached.shared.db.pending.card)
    (fun reached => reached.shared.db.orders.rows.length)
    (fun move : Move Thread Empty => move.held.toList.length) (by
      intro move member
      cases move_effect (run.step_of_mem member) with
      | grown spared kept grown => simpa [kept] using grown.pending
      | held order spared taken waits held =>
        simpa [taken,held.orders] using held.pending waits
      | assigned order driver time taken kept assigned =>
        simpa [kept,assigned.orders] using assigned.pending)
  rw [Execution.length_filterMap] at total
  exact total

theorem drivers_balance (run : (deployment settings loops nobody).Run shared trace state) :
    state.shared.db.unavailable.val = shared.db.unavailable.val +
        ((trace.filterMap Move.assigned).map Prod.snd : List UUID) ∧
      state.shared.db.idle.card + (trace.filterMap Move.assigned).length +
          shared.db.drivers.rows.length =
        shared.db.idle.card + state.shared.db.drivers.rows.length :=
  ⟨unavailable_balance run,idle_balance run⟩

/-- Whatever the loops do, what they write is bounded by what there is for them. -/
theorem loop_writes_bounded (run : (deployment settings loops nobody).Run shared trace state) :
    HeldOnce trace state ∧
      (trace.filterMap Move.assigned).length + (trace.filterMap Move.held).length +
          (state.shared.db.idle.card + state.shared.db.pending.card) +
          (shared.db.drivers.rows.length + shared.db.orders.rows.length) ≤
        shared.db.idle.card + shared.db.pending.card +
          (state.shared.db.drivers.rows.length + state.shared.db.orders.rows.length) := by
  refine ⟨held_once run,?_⟩
  have drivers := idle_balance run
  have orders := pending_balance run
  omega

def patientStart : Shared :=
  ⟨Sample.database [{Sample.driver 1 "1" with lastLocationAt := some (minutes 60)}]
    [{Sample.order 3 with predictedReadyAt := minutes 60}],0⟩

/-- One loop puts order 3 on hold; an hour later another gives it to the driver. -/
def patientMoves : List (System.Move Shared Note Bool Job Empty) :=
  let waiting := {Sample.order 3 with predictedReadyAt := minutes 60}
  let found := {Sample.driver 1 "1" with lastLocationAt := some (minutes 60)}
  [.start false .dispatchTick,.answer false {Sample.note 0 with orders := [waiting]},
    .answer false (Sample.note 0),.answer false (Sample.note 0),.start true .dispatchTick,
    .answer true {Sample.note (minutes 60) with orders := [waiting.hold]}] ++
  Sample.evaluation true (minutes 60) [found] (Sample.id 1)

theorem patient_replayed : ((System.replay (deployment {} (fun _ => True) nobody) patientMoves
    (System.State.idle patientStart)).map (fun done =>
      (done.1.filterMap Move.assigned,done.1.filterMap Move.held))) =
        some ([(Sample.id 3,Sample.id 1)],[Sample.id 3]) := by
  decide +kernel

theorem patient_drivers_balance : ∃ (trace : List (Move Bool Empty))
    (state : System.State Call Reply PyException Shared Bool),
      (deployment {} (fun _ => True) nobody).Run patientStart trace state ∧
        trace.filterMap Move.assigned = [(Sample.id 3,Sample.id 1)] ∧
          state.shared.db.unavailable.val = patientStart.db.unavailable.val +
            ((trace.filterMap Move.assigned).map Prod.snd : List UUID) := by
  obtain ⟨⟨trace,state⟩,replayed,accounts⟩ := Option.map_eq_some_iff.mp patient_replayed
  have run := System.replay_execution replayed
  exact ⟨trace,state,run,congrArg Prod.fst accounts,(drivers_balance run).1⟩

theorem patient_writes_bounded : ∃ (trace : List (Move Bool Empty))
    (state : System.State Call Reply PyException Shared Bool),
      (deployment {} (fun _ => True) nobody).Run patientStart trace state ∧
        trace.filterMap Move.held = [Sample.id 3] ∧ HeldOnce trace state := by
  obtain ⟨⟨trace,state⟩,replayed,accounts⟩ := Option.map_eq_some_iff.mp patient_replayed
  have run := System.replay_execution replayed
  exact ⟨trace,state,run,congrArg Prod.snd accounts,(loop_writes_bounded run).1⟩

end
end FoodDispatch
