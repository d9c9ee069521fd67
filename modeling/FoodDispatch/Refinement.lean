import FoodDispatch.Accounting
import FoodDispatch.Agreement
import FoodDispatch.Library.Matching

/-! What the dispatcher is for, on its own terms: orders are posted, drivers join,
and every order is given one driver who takes no other. A single loop refines it. -/
namespace FoodDispatch
open Library

namespace Database

/-- The tables as a matching: an order waits while it is actionable. -/
def matching (db : Database) : Matching UUID UUID where
  waiting := {order | ∃ row ∈ db.orders.rows, row.id = order ∧ row.Actionable}
  free := {driver | db.DriverAvailable driver}
  pairs := {pair | ∃ row ∈ db.orders.rows, row.id = pair.1 ∧ row.assignedDriverId = some pair.2}

variable {db next : Database} {order driver : UUID} {time : ℤ}

theorem matching_empty : Database.empty.matching = Matching.empty := by
  simp [matching,Matching.empty,Database.empty,Table.empty,DriverAvailable]

theorem matching_posted (posted : db.matching.Posted order) : order ∈ db.orders.keys := by
  rcases posted with ⟨row,member,rfl,_⟩ | ⟨_,row,member,rfl,_⟩
  · exact db.orders.key_mem member
  · exact db.orders.key_mem member

theorem matching_joined (joined : db.matching.Joined driver) : driver ∈ db.drivers.keys := by
  rcases joined with ⟨row,member,rfl,_⟩ | ⟨_,row,member,_,assigned⟩
  · exact db.drivers.key_mem member
  · exact db.constraints.assignedDriver row member driver assigned

/-- The orders of the second table that are not in the first. -/
def newOrders (db next : Database) : List UUID :=
  next.orders.keys.filter (· ∉ db.orders.keys)

def newDrivers (db next : Database) : List UUID :=
  next.drivers.keys.filter (· ∉ db.drivers.keys)

theorem newOrders_eq_nil (same : next.orders.keys = db.orders.keys) : db.newOrders next = [] := by
  simp [newOrders,same]

theorem newDrivers_eq_nil (same : next.drivers.keys = db.drivers.keys) :
    db.newDrivers next = [] := by
  simp [newDrivers,same]

theorem Grown.waiting (grown : db.Grown next) : order ∈ next.matching.waiting ↔
    order ∈ db.newOrders next ∨ order ∈ db.matching.waiting := by
  constructor
  · rintro ⟨row,member,rfl,waits⟩
    rcases grown.order row member with known | ⟨fresh,_⟩
    · exact Or.inr ⟨row,known,rfl,waits⟩
    · exact Or.inl (List.mem_filter.mpr ⟨next.orders.key_mem member,decide_eq_true fresh⟩)
  · rintro (created | ⟨row,member,rfl,waits⟩)
    · obtain ⟨known,fresh⟩ := List.mem_filter.mp created
      obtain ⟨row,member,rfl⟩ := Table.mem_keys.mp known
      rcases grown.order row member with old | ⟨_,pending,_⟩
      · exact absurd (db.orders.key_mem old) (of_decide_eq_true fresh)
      · exact ⟨row,member,rfl,Or.inl pending⟩
    · exact ⟨row,grown.keepsOrder row member,rfl,waits⟩

theorem Grown.free (grown : db.Grown next) : driver ∈ next.matching.free ↔
    driver ∈ db.newDrivers next ∨ driver ∈ db.matching.free := by
  constructor
  · rintro ⟨row,member,rfl,available⟩
    rcases grown.driver row member with ⟨old,known,same⟩ | ⟨fresh,_⟩
    · exact Or.inr ⟨old,known,same.id.symm,same.status.symm.trans available⟩
    · exact Or.inl (List.mem_filter.mpr ⟨next.drivers.key_mem member,decide_eq_true fresh⟩)
  · rintro (created | ⟨row,member,rfl,available⟩)
    · obtain ⟨known,fresh⟩ := List.mem_filter.mp created
      obtain ⟨row,member,rfl⟩ := Table.mem_keys.mp known
      rcases grown.driver row member with ⟨old,existing,same⟩ | ⟨_,available,_⟩
      · exact absurd (same.id ▸ db.drivers.key_mem existing) (of_decide_eq_true fresh)
      · exact ⟨row,member,rfl,available⟩
    · obtain ⟨moved,present,same⟩ := grown.keepsDriver row member
      exact ⟨moved,present,same.id,same.status.trans available⟩

theorem Grown.pairs (grown : db.Grown next) : next.matching.pairs = db.matching.pairs := by
  ext ⟨order,driver⟩
  constructor
  · rintro ⟨row,member,named,assigned⟩
    rcases grown.order row member with known | ⟨_,_,clean,_⟩
    · exact ⟨row,known,named,assigned⟩
    · rw [clean] at assigned
      contradiction
  · rintro ⟨row,member,named,assigned⟩
    exact ⟨row,grown.keepsOrder row member,named,assigned⟩

theorem Grown.traced (grown : db.Grown next) : Traced Matching.Step db.matching
    ((db.newOrders next).map .posted ++ (db.newDrivers next).map .joined) next.matching := by
  have orders : (db.newOrders next).Nodup := next.orders.keyed.filter _
  have drivers : (db.newDrivers next).Nodup := next.drivers.keyed.filter _
  have posts : Traced Matching.Step db.matching ((db.newOrders next).map .posted)
      ⟨next.matching.waiting,db.matching.free,db.matching.pairs⟩ := by
    refine Matching.posts orders ?_ ?_ rfl rfl
    · intro order created posted
      exact of_decide_eq_true (List.mem_filter.mp created).2 (matching_posted posted)
    · exact fun order => grown.waiting
  refine posts.append (Matching.joins drivers ?_ rfl ?_ grown.pairs)
  · intro driver created joined
    exact of_decide_eq_true (List.mem_filter.mp created).2 (matching_joined joined)
  · exact fun driver => grown.free

theorem Held.matching (held : db.Held next order) : next.matching = db.matching := by
  apply Matching.ext
  · ext wanted
    constructor
    · rintro ⟨row,member,rfl,waits⟩
      rcases held.order_cases member with ⟨old,known,_,pending,rfl⟩ | known
      · exact ⟨old,known,rfl,Or.inl pending⟩
      · exact ⟨row,known,rfl,waits⟩
    · rintro ⟨row,member,rfl,waits⟩
      rcases held.keepsOrder member with kept | kept
      · exact ⟨row,kept,rfl,waits⟩
      · exact ⟨row.hold,kept,rfl,Or.inr rfl⟩
  · simp only [Database.matching,DriverAvailable,held.drivers]
  · ext ⟨wanted,driver⟩
    constructor
    · rintro ⟨row,member,named,assigned⟩
      rcases held.order_cases member with ⟨old,known,_,_,rfl⟩ | known
      · exact ⟨old,known,named,assigned⟩
      · exact ⟨row,known,named,assigned⟩
    · rintro ⟨row,member,named,assigned⟩
      rcases held.keepsOrder member with kept | kept
      · exact ⟨row,kept,named,assigned⟩
      · exact ⟨row.hold,kept,named,assigned⟩

/-- An assignment is a step of the matching when its order waits and has no driver. -/
theorem Assigned.matches (assigned : db.Assigned next order driver time)
    (waits : ∀ row ∈ db.orders.rows, row.id = order →
      row.Actionable ∧ row.assignedDriverId = none) :
    Matching.Step db.matching (.matched order driver) next.matching := by
  have same : next.matching = ⟨db.matching.waiting \ {order},db.matching.free \ {driver},
      insert (order,driver) db.matching.pairs⟩ := by
    apply Matching.ext
    · ext wanted
      constructor
      · rintro ⟨row,member,rfl,actionable⟩
        rcases assigned.order_cases member with ⟨old,_,_,rfl⟩ | ⟨known,apart⟩
        · simp [Order.Actionable,Order.assign] at actionable
        · exact ⟨⟨row,known,rfl,actionable⟩,apart⟩
      · rintro ⟨⟨row,member,rfl,actionable⟩,apart⟩
        exact ⟨row,assigned.keepsOrder member apart,rfl,actionable⟩
    · ext other
      constructor
      · rintro ⟨row,member,rfl,available⟩
        rcases assigned.driver_cases member with ⟨old,_,_,_,rfl⟩ | ⟨known,apart⟩
        · contradiction
        · exact ⟨⟨row,known,rfl,available⟩,apart⟩
      · rintro ⟨⟨row,member,rfl,available⟩,apart⟩
        exact ⟨row,assigned.keepsDriver member apart,rfl,available⟩
    · ext ⟨wanted,other⟩
      rw [Set.mem_insert_iff,Prod.mk.injEq]
      constructor
      · rintro ⟨row,member,rfl,carried⟩
        rcases assigned.order_cases member with ⟨old,_,named,rfl⟩ | ⟨known,_⟩
        · exact Or.inl ⟨named,(Option.some.inj carried).symm⟩
        · exact Or.inr ⟨row,known,rfl,carried⟩
      · rintro (⟨rfl,rfl⟩ | ⟨row,member,rfl,carried⟩)
        · obtain ⟨row,member,named⟩ := Table.mem_keys.mp assigned.known
          exact ⟨_,assigned.newOrder member named,named,rfl⟩
        · refine ⟨row,assigned.keepsOrder member (fun same => ?_),rfl,carried⟩
          rw [(waits row member same).2] at carried
          contradiction
  obtain ⟨row,member,named⟩ := Table.mem_keys.mp assigned.known
  rw [same]
  exact .matched order driver ⟨row,member,named,(waits row member named).1⟩ assigned.available

end Database

section
variable {Thread : Type}

/-- What an observer of the tables sees of a move. -/
def Move.events {Action : Type} (move : Move Thread Action) : List (Matching.Event UUID UUID) :=
  (move.before.shared.db.newOrders move.after.shared.db).map .posted ++
    (move.before.shared.db.newDrivers move.after.shared.db).map .joined ++
      move.assigned.toList.map (fun pair => .matched pair.1 pair.2)

variable [DecidableEq Thread] {settings : Settings} {loop : Thread}
variable {shared : Shared} {trace : List (Move Thread Empty)}
variable {state : System.State Call Reply PyException Shared Thread}

theorem move_traced (start : shared.db = Database.empty)
    (run : (deployment settings (· = loop) nobody).Run shared trace state) {move : Move Thread Empty}
    (member : move ∈ trace) : Traced Matching.Step move.before.shared.db.matching (Move.events move)
      move.after.shared.db.matching := by
  have step := run.step_of_mem member
  unfold Move.events
  cases move_effect step with
  | grown spared kept grown => simpa [spared] using grown.traced
  | held order spared taken waits held =>
    rw [Database.newOrders_eq_nil held.orderKeys,Database.newDrivers_eq_nil (by rw [held.drivers]),
      held.matching,spared]
    exact .nil
  | assigned order driver time taken kept assigned =>
    rw [Database.newOrders_eq_nil assigned.orderKeys,
      Database.newDrivers_eq_nil assigned.driverKeys,taken]
    refine .single (assigned.matches (fun row present same => ?_))
    obtain ⟨thread,note,reply,label⟩ := assigned_label taken
    obtain ⟨_,agrees,copy,named,unassigned⟩ :=
      ownedUnassigned.attempt (start ▸ Database.agrees_empty) run member label
    have clean := unassigned row present (same.trans named.symm)
    have unserved : row.dispatchStatus ≠ .assigned :=
      fun served => (agrees.assigned row present).1.mp served clean
    exact ⟨agrees.waits row present unserved,clean⟩

theorem run_traced (start : shared.db = Database.empty)
    (run : (deployment settings (· = loop) nobody).Run shared trace state) :
    Traced Matching.Step Matching.empty (trace.flatMap Move.events) state.shared.db.matching := by
  have traced := run.simulates (fun reached => reached.shared.db.matching) Move.events
    (fun move member => move_traced start run member)
  rw [← Database.matching_empty,← start]
  exact traced

/-- Every run of a single loop from empty tables is a run of the matching, and what
the tables say is told by the events of the run. -/
theorem single_loop_matches (start : shared.db = Database.empty)
    (run : (deployment settings (· = loop) nobody).Run shared trace state) :
    Traced Matching.Step Matching.empty (trace.flatMap Move.events) state.shared.db.matching ∧
      Matching.Recorded (trace.flatMap Move.events) state.shared.db.matching :=
  ⟨run_traced start run,Matching.recorded (run_traced start run)⟩

theorem life_events_replayed : ((System.replay (deployment {} (· = true) nobody)
    (Sample.life true false) (System.State.idle ⟨Database.empty,0⟩)).map
      (fun done => done.1.flatMap Move.events)) =
        some [.posted (Sample.id 3),.joined (Sample.id 1),.matched (Sample.id 3) (Sample.id 1)] := by
  decide +kernel

theorem life_matches : ∃ (trace : List (Move Bool Empty))
    (state : System.State Call Reply PyException Shared Bool),
      (deployment {} (· = true) nobody).Run ⟨Database.empty,0⟩ trace state ∧
        trace.flatMap Move.events = [.posted (Sample.id 3),.joined (Sample.id 1),
          .matched (Sample.id 3) (Sample.id 1)] ∧
        Matching.Recorded (trace.flatMap Move.events) state.shared.db.matching := by
  obtain ⟨⟨trace,state⟩,replayed,events⟩ := Option.map_eq_some_iff.mp life_events_replayed
  have run := System.replay_execution replayed
  exact ⟨trace,state,run,events,(single_loop_matches rfl run).2⟩

end
end FoodDispatch
