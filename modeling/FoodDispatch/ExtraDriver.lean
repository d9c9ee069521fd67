import FoodDispatch.Library.Greedy
import FoodDispatch.Fixpoint
import Mathlib.Data.Finset.Card

/-! One driver more. A tick that runs alone matches its orders greedily with the
drivers that are available, so an additional driver costs no order its assignment,
and at most one order more is assigned. -/
namespace FoodDispatch
open Library
open ScoringEngine
open PrepEstimator (WindowOpen)

namespace Database

def free (db : Database) : Set Driver := {driver | driver ∈ db.drivers.rows ∧ driver.Available}

def IsAssigned (db : Database) (order : UUID) : Prop :=
  ∃ row ∈ db.orders.rows, row.id = order ∧ row.dispatchStatus = .assigned

instance (db : Database) (order : UUID) : Decidable (db.IsAssigned order) :=
  inferInstanceAs (Decidable (∃ row ∈ db.orders.rows, _))

/-- The order is assigned, and this is the driver its row names. -/
def IsAssignedTo (db : Database) (order : UUID) (driver : Option UUID) : Prop :=
  ∃ row ∈ db.orders.rows,
    row.id = order ∧ row.dispatchStatus = .assigned ∧ row.assignedDriverId = driver

instance (db : Database) (order : UUID) (driver : Option UUID) :
    Decidable (db.IsAssignedTo order driver) :=
  inferInstanceAs (Decidable (∃ row ∈ db.orders.rows, _))

variable {db next : Database} {order driver : UUID} {time : ℤ}

theorem isAssigned_iff : db.IsAssigned order ↔ ∃ driver, db.IsAssignedTo order driver := by
  constructor
  · rintro ⟨row,member,named,assigned⟩
    exact ⟨row.assignedDriverId,row,member,named,assigned,rfl⟩
  · rintro ⟨_,row,member,named,assigned,_⟩
    exact ⟨row,member,named,assigned⟩

theorem unassigned_of_waits {row : Order} (waits : row ∈ db.actionableOrders) :
    ¬db.IsAssigned row.id := by
  rintro ⟨stored,member,named,assigned⟩
  obtain ⟨known,actionable⟩ := List.mem_filter.mp waits
  rw [db.orders.unique known member named.symm] at actionable
  simp [Order.Actionable,assigned] at actionable

theorem Held.free (held : db.Held next order) : next.free = db.free := by
  unfold Database.free
  rw [held.drivers]

theorem Held.isAssignedTo (held : db.Held next order) (id : UUID) (given : Option UUID) :
    next.IsAssignedTo id given ↔ db.IsAssignedTo id given := by
  constructor
  · rintro ⟨row,member,named,assigned,linked⟩
    rcases held.order_cases member with ⟨old,_,_,_,rfl⟩ | known
    · contradiction
    · exact ⟨row,known,named,assigned,linked⟩
  · rintro ⟨row,member,named,assigned,linked⟩
    refine ⟨row,?_,named,assigned,linked⟩
    rw [held.orders]
    exact Table.mem_update_of_not member (by simp [assigned])

/-- An assignment uses up the driver that it locks. -/
theorem Assigned.free {winner : Driver} (member : winner ∈ db.drivers.rows)
    (assigned : db.Assigned next order winner.id time) : next.free = db.free \ {winner} := by
  ext row
  constructor
  · rintro ⟨present,available⟩
    rcases assigned.driver_cases present with ⟨old,_,_,_,rfl⟩ | ⟨known,other⟩
    · contradiction
    · exact ⟨⟨known,available⟩,fun same => other (congrArg Driver.id same)⟩
  · rintro ⟨⟨known,available⟩,other⟩
    refine ⟨assigned.keepsDriver known ?_,available⟩
    exact fun same => other (db.drivers.unique known member same)

/-- It gives the order to that driver, and no other order changes hands. -/
theorem Assigned.isAssignedTo (assigned : db.Assigned next order driver time) (id : UUID)
    (given : Option UUID) : next.IsAssignedTo id given ↔
      db.IsAssignedTo id given ∧ id ≠ order ∨ id = order ∧ given = some driver := by
  constructor
  · rintro ⟨row,member,named,status,linked⟩
    rcases assigned.order_cases member with ⟨old,_,same,rfl⟩ | ⟨known,other⟩
    · exact Or.inr ⟨named.symm.trans same,linked.symm⟩
    · exact Or.inl ⟨⟨row,known,named,status,linked⟩,named ▸ other⟩
  · rintro (⟨⟨row,member,named,status,linked⟩,other⟩ | ⟨rfl,rfl⟩)
    · exact ⟨row,assigned.keepsOrder member (named ▸ other),named,status,linked⟩
    · obtain ⟨old,member,named⟩ := Table.mem_keys.mp assigned.known
      exact ⟨_,assigned.newOrder member named,named,rfl,rfl⟩

theorem Consumed.known {row : Order} (consumed : db.Consumed next)
    (waits : row ∈ db.actionableOrders) : row.id ∈ next.orders.keys := by
  rw [consumed.keys]
  exact db.orders.key_mem (List.mem_filter.mp waits).1

end Database

namespace Surroundings
variable (env : Surroundings) (settings : Settings) (place : UUID → UUID → ℕ)

/-- The orders that one tick assigns. -/
def assignedBy (db : Database) : Finset UUID :=
  (db.actionableOrders.map Order.id).toFinset.filter
    (env.run (DispatchLoop.runDispatchTick settings) db).2.IsAssigned

/-- The driver can be scored for the order when its window is open. -/
def fits (order : Order) (driver : Driver) : Prop :=
  WindowOpen settings order.predictedReadyAt (env.clock (.gate order.id)) ∧
    env.Dated settings order.id ∧
      driver.Eligible (env.staleCutoff settings order.id) ∧ env.routed order.id driver = true

def better (order : Order) (first second : Driver) : Prop :=
  env.seconds order.id first < env.seconds order.id second ∨
    env.seconds order.id first = env.seconds order.id second ∧
      place order.id first.id < place order.id second.id

/-- The candidate query of each order returns its rows in an order of its own, the
same for all tables with these drivers or fewer. -/
def RowOrder (keys : List UUID) : Prop :=
  ∀ order staleCutoff db, db.drivers.keys.Sublist keys →
    (env.drivers order staleCutoff db).Pairwise
      (fun first second => place order first.id < place order second.id)

variable {env} {settings} {place} {order : Order} {db next : Database}

theorem better_asymm (order : Order) (first second : Driver)
    (forward : env.better place order first second) : ¬env.better place order second first := by
  unfold better at forward ⊢
  omega

theorem evaluate_driverKeys (alone : env.Alone) (order : Order) (db : Database) :
    (env.run (DispatchLoop.evaluate settings order) db).2.drivers.keys = db.drivers.keys := by
  rcases evaluate_cases alone order db with same | held | ⟨driver,time,assigned⟩
  · rw [same]
  · rw [held.drivers]
  · exact assigned.driverKeys

inductive GreedyStep (env : Surroundings) (settings : Settings)
    (better : Order → Driver → Driver → Prop) (order : Order) (db next : Database) : Prop
  | skipped (unfit : ∀ driver ∈ db.free, ¬env.fits settings order driver)
      (free : next.free = db.free)
      (kept : ∀ id driver, next.IsAssignedTo id driver ↔ db.IsAssignedTo id driver)
  | taken (winner) (best : Best (env.fits settings) better order db.free winner)
      (free : next.free = db.free \ {winner})
      (assigned : ∀ id driver, next.IsAssignedTo id driver ↔
        db.IsAssignedTo id driver ∧ id ≠ order.id ∨ id = order.id ∧ driver = some winner.id)

theorem closed_greedy
    (closed : ¬WindowOpen settings order.predictedReadyAt (env.clock (.gate order.id))) :
    env.GreedyStep settings (env.better place) order db
      (env.run (DispatchLoop.evaluate settings order) db).2 := by
  have unfit : ∀ driver ∈ db.free, ¬env.fits settings order driver :=
    fun _ _ fitting => closed fitting.1
  rw [run_evaluate_closed closed]
  by_cases holding : order.dispatchStatus = .holding
  · rw [run_applyHold_holding holding]
    exact .skipped unfit rfl (fun _ _ => Iff.rfl)
  · have held : db.Held (env.run (DispatchLoop.applyHold order) db).2 order.id :=
      run_applyHold_held holding
    exact .skipped unfit held.free held.isAssignedTo

theorem undated_greedy
    (opened : WindowOpen settings order.predictedReadyAt (env.clock (.gate order.id)))
    (undated : ¬env.Dated settings order.id) :
    env.GreedyStep settings (env.better place) order db
      (env.run (DispatchLoop.evaluate settings order) db).2 := by
  rw [run_evaluate_undated opened undated]
  exact .skipped (fun _ _ fitting => undated fitting.2.1) rfl (fun _ _ => Iff.rfl)

/-- The first of the ranking is the best of the free drivers that fit. -/
theorem ranked_best
    (opened : WindowOpen settings order.predictedReadyAt (env.clock (.gate order.id)))
    (dated : env.Dated settings order.id)
    (placed : (env.drivers order.id (env.staleCutoff settings order.id) db).Pairwise
      (fun first second => place order.id first.id < place order.id second.id))
    {winner : Driver} {rest : List Driver}
    (first : ranked (env.seconds order.id)
      ((env.drivers order.id (env.staleCutoff settings order.id) db).filter
        (env.routed order.id)) = winner::rest) :
    Best (env.fits settings) (env.better place) order db.free winner := by
  let queried := env.drivers order.id (env.staleCutoff settings order.id) db
  have found : queried.Perm (db.candidates (env.staleCutoff settings order.id)) :=
    env.found order.id (env.staleCutoff settings order.id) db
  have distinct : (queried.filter (env.routed order.id)).Nodup :=
    (queried_distinct env order.id _ db).of_map.sublist List.filter_sublist
  have fitting : ∀ driver, driver ∈ queried.filter (env.routed order.id) ↔
      driver ∈ db.free ∧ env.fits settings order driver := by
    intro driver
    rw [List.mem_filter,found.mem_iff,Database.candidates,List.mem_filter,decide_eq_true_eq]
    constructor
    · rintro ⟨⟨member,eligible⟩,route⟩
      exact ⟨⟨member,eligible.1⟩,opened,dated,eligible,route⟩
    · rintro ⟨⟨member,_⟩,_,_,eligible,route⟩
      exact ⟨⟨member,eligible⟩,route⟩
  have head : winner ∈ queried.filter (env.routed order.id) :=
    mem_ranked.mp (by rw [first]; exact List.mem_cons_self ..)
  obtain ⟨free,fits⟩ := (fitting winner).mp head
  refine ⟨free,fits,fun other member suits apart => ?_⟩
  have scored : other ∈ queried.filter (env.routed order.id) := (fitting other).mpr ⟨member,suits⟩
  have ordered : (ranked (env.seconds order.id) (queried.filter (env.routed order.id))).Pairwise
      (Precedes (env.seconds order.id) (queried.filter (env.routed order.id))) :=
    ranked_pairwise distinct
  rw [first] at ordered
  have later : other ∈ rest := by
    have listed : other ∈ winner::rest := first ▸ mem_ranked.mpr scored
    exact (List.mem_cons.mp listed).resolve_left apart
  rcases (List.pairwise_cons.mp ordered).1 other later with shorter | ⟨same,before⟩
  · exact Or.inl shorter
  · have pair : [winner,other].Sublist queried := before.trans List.filter_sublist
    exact Or.inr ⟨same,List.pairwise_iff_forall_sublist.mp placed pair⟩

/-- One evaluation is one step of the greedy matching. -/
theorem evaluate_greedy (alone : env.Alone)
    (valid : LatLng.accepts (some order.restaurantLat) (some order.restaurantLng) = true)
    (quiet : ∀ driver ∈ env.drivers order.id (env.staleCutoff settings order.id) db,
      env.raises order.id driver = false)
    (known : order.id ∈ db.orders.keys)
    (placed : (env.drivers order.id (env.staleCutoff settings order.id) db).Pairwise
      (fun first second => place order.id first.id < place order.id second.id)) :
    env.GreedyStep settings (env.better place) order db
      (env.run (DispatchLoop.evaluate settings order) db).2 := by
  by_cases opened : WindowOpen settings order.predictedReadyAt (env.clock (.gate order.id))
  swap
  · exact closed_greedy opened
  by_cases dated : env.Dated settings order.id
  swap
  · exact undated_greedy opened dated
  have ranking : (sorted (((env.drivers order.id (env.staleCutoff settings order.id) db).filter
      (env.routed order.id)).map (env.scoredAs order))).map ScoredCandidate.driver =
        ranked (env.seconds order.id) ((env.drivers order.id
          (env.staleCutoff settings order.id) db).filter (env.routed order.id)) :=
    sorted_ranked order _
  rw [run_evaluate_state opened dated,run_assignAmong_ok valid quiet]
  unfold tryScored
  rw [scoreOf_filterMap quiet]
  cases scored : sorted (((env.drivers order.id (env.staleCutoff settings order.id) db).filter
      (env.routed order.id)).map (env.scoredAs order)) with
  | nil =>
    rw [scored] at ranking
    refine .skipped (fun driver member fitting => ?_) rfl (fun _ _ => Iff.rfl)
    obtain ⟨_,_,eligible,route⟩ := fitting
    have queried : driver ∈ env.drivers order.id (env.staleCutoff settings order.id) db :=
      (env.found _ _ _).mem_iff.mpr (List.mem_filter.mpr ⟨member.1,decide_eq_true eligible⟩)
    have listed : driver ∈ ranked (env.seconds order.id) _ :=
      mem_ranked.mpr (List.mem_filter.mpr ⟨queried,route⟩)
    rw [← ranking] at listed
    contradiction
  | cons candidate rest =>
    rw [scored] at ranking
    have best := ranked_best opened dated placed ranking.symm
    have assigned := tryCandidates_first alone candidate rest known
      ⟨candidate.driver,best.left.1,rfl,best.left.2⟩
    exact .taken candidate.driver best (assigned.free best.left.1) assigned.isAssignedTo

section Matched
variable {better : Order → Driver → Driver → Prop} {matched : List (Order × Driver)}

/-- A run of such steps is a greedy matching of the orders with the free drivers, and
of the orders that were open it assigns those that it matches, to their drivers. -/
theorem reached_matched (holds : Database → Prop) (begins : holds db) {orders : List Order}
    (distinct : (orders.map Order.id).Nodup)
    (unassigned : ∀ order ∈ orders, ¬db.IsAssigned order.id)
    (continues : ∀ order db, holds db → holds (env.run (DispatchLoop.evaluate settings order) db).2)
    (steps : ∀ order ∈ orders, ∀ db, holds db → env.GreedyStep settings better order db
      (env.run (DispatchLoop.evaluate settings order) db).2) :
    ∃ matched, Greedy (env.fits settings) better orders db.free matched ∧
      ∀ id driver, (env.reached settings orders db).IsAssignedTo id driver ↔
        db.IsAssignedTo id driver ∨ ∃ pair ∈ matched, pair.1.id = id ∧ some pair.2.id = driver := by
  induction orders generalizing db with
  | nil => exact ⟨[],.nil db.free,by simp [reached]⟩
  | cons order rest ih =>
    obtain ⟨apart,others⟩ := List.nodup_cons.mp distinct
    have later : ∀ other ∈ rest, other.id ≠ order.id :=
      fun other member same => apart (same ▸ List.mem_map_of_mem member)
    have following := fun unassigned => ih (continues order db begins) others unassigned
      (fun other member => steps other (by simp [member]))
    unfold reached
    rw [processOrder_state]
    cases steps order (by simp) db begins with
    | skipped unfit free kept =>
      obtain ⟨matched,run,assigned⟩ := following (fun other member => by
        simp only [Database.isAssigned_iff,kept]
        exact Database.isAssigned_iff.not.mp (unassigned other (by simp [member])))
      refine ⟨matched,.skip unfit (free ▸ run),fun id driver => ?_⟩
      rw [assigned id driver,kept id driver]
    | taken winner best free more =>
      obtain ⟨matched,run,assigned⟩ := following (fun other member now => by
        obtain ⟨driver,given⟩ := Database.isAssigned_iff.mp now
        rcases (more other.id driver).mp given with ⟨before,_⟩ | ⟨same,_⟩
        · exact unassigned other (by simp [member]) (Database.isAssigned_iff.mpr ⟨driver,before⟩)
        · exact later other member same)
      refine ⟨(order,winner)::matched,.take winner best (free ▸ run),fun id driver => ?_⟩
      rw [assigned id driver,more id driver]
      constructor
      · rintro ((⟨before,_⟩ | ⟨rfl,rfl⟩) | ⟨pair,member,same⟩)
        · exact Or.inl before
        · exact Or.inr ⟨_,List.mem_cons_self ..,rfl,rfl⟩
        · exact Or.inr ⟨pair,.tail _ member,same⟩
      · rintro (before | ⟨pair,member,same,given⟩)
        · refine Or.inl (Or.inl ⟨before,fun same => ?_⟩)
          exact unassigned order (by simp) (Database.isAssigned_iff.mpr ⟨driver,same ▸ before⟩)
        · rcases List.mem_cons.mp member with rfl | earlier
          · exact Or.inl (Or.inr ⟨same.symm,given.symm⟩)
          · exact Or.inr ⟨pair,earlier,same,given⟩

theorem fetched_distinct (env : Surroundings) (db : Database) :
    ((env.orders db).map Order.id).Nodup := by
  have actionable : (db.actionableOrders.map Order.id).Nodup :=
    List.Nodup.sublist (List.filter_sublist.map _) db.orders.keyed
  exact ((env.fetched db).map Order.id).nodup_iff.mpr actionable

/-- The orders that a tick assigns are those that it matches. -/
theorem assignedBy_of_reached
    (run : Greedy (env.fits settings) better (env.orders db) db.free matched)
    (assigned : ∀ id driver, (env.reached settings (env.orders db) db).IsAssignedTo id driver ↔
      db.IsAssignedTo id driver ∨ ∃ pair ∈ matched, pair.1.id = id ∧ some pair.2.id = driver) :
    ((matched.map Prod.fst).map Order.id).Nodup ∧
      env.assignedBy settings db = ((matched.map Prod.fst).map Order.id).toFinset := by
  refine ⟨(fetched_distinct env db).sublist (run.sublist.map Order.id),?_⟩
  ext id
  unfold assignedBy
  rw [Finset.mem_filter,List.mem_toFinset,List.mem_toFinset,run_runDispatchTick,
    Database.isAssigned_iff]
  constructor
  · rintro ⟨member,driver,given⟩
    obtain ⟨order,waits,rfl⟩ := List.mem_map.mp member
    rcases (assigned order.id driver).mp given with before | ⟨pair,found,same,_⟩
    · exact absurd (Database.isAssigned_iff.mpr ⟨driver,before⟩) (Database.unassigned_of_waits waits)
    · exact same ▸ List.mem_map_of_mem (List.mem_map_of_mem found)
  · intro now
    obtain ⟨order,taken,rfl⟩ := List.mem_map.mp now
    obtain ⟨pair,member,rfl⟩ := List.mem_map.mp taken
    have waits : pair.1 ∈ db.actionableOrders := (env.fetched db).mem_iff.mp (run.sublist.subset taken)
    exact ⟨List.mem_map_of_mem waits,_,(assigned _ _).mpr (Or.inr ⟨pair,member,rfl,rfl⟩)⟩

end Matched

/-- A whole tick is a greedy matching of the fetched orders with the free drivers. -/
theorem assignedBy_greedy (settings : Settings) (alone : env.Alone) (answers : env.Answers db)
    (located : db.Located) (rowOrder : env.RowOrder place db.drivers.keys) :
    ∃ matched, Greedy (env.fits settings) (env.better place) (env.orders db) db.free matched ∧
      ((matched.map Prod.fst).map Order.id).Nodup ∧
      env.assignedBy settings db = ((matched.map Prod.fst).map Order.id).toFinset := by
  have waits : ∀ order ∈ env.orders db, order ∈ db.actionableOrders :=
    fun order member => (env.fetched db).mem_iff.mp member
  let tables (next : Database) : Prop := db.Consumed next ∧ next.drivers.keys = db.drivers.keys
  have continues : ∀ order next, tables next →
      tables (env.run (DispatchLoop.evaluate settings order) next).2 := fun order next held =>
    ⟨held.1.trans (evaluate_consumed alone order next),
      (evaluate_driverKeys alone order next).trans held.2⟩
  have steps : ∀ order ∈ env.orders db, ∀ next, tables next → env.GreedyStep settings
      (env.better place) order next (env.run (DispatchLoop.evaluate settings order) next).2 :=
    fun order member next held => evaluate_greedy alone
      (located.orders order (List.mem_filter.mp (waits order member)).1)
      (queried_quiet located answers held.1 (waits order member) _)
      (held.1.known (waits order member)) (rowOrder order.id _ next (by rw [held.2]))
  obtain ⟨matched,run,assigned⟩ := reached_matched tables ⟨.refl db,rfl⟩ (fetched_distinct env db)
    (fun order member => Database.unassigned_of_waits (waits order member)) continues steps
  exact ⟨matched,run,assignedBy_of_reached run assigned⟩

section Extra
variable {more : Database} {front back : List Driver} {extra : Driver}

theorem RowOrder.mono {keys fewer : List UUID} (rowOrder : env.RowOrder place keys)
    (sublist : fewer.Sublist keys) : env.RowOrder place fewer :=
  fun order staleCutoff db within => rowOrder order staleCutoff db (within.trans sublist)

/-- Queries that return their rows as the table keeps them. -/
theorem rowOrder_table {keys : List UUID} (distinct : keys.Nodup)
    (tables : ∀ order staleCutoff db, env.drivers order staleCutoff db = db.candidates staleCutoff) :
    env.RowOrder (fun _ driver => keys.idxOf driver) keys := by
  intro order staleCutoff db within
  have sublist : ((db.candidates staleCutoff).map Driver.id).Sublist keys :=
    (List.filter_sublist.map Driver.id).trans within
  have placed : ((db.candidates staleCutoff).map Driver.id).Pairwise
      (fun first second => keys.idxOf first < keys.idxOf second) :=
    (pairwise_idxOf distinct).sublist sublist
  rw [List.pairwise_map] at placed
  rw [tables]
  exact placed

theorem free_insert (rows : db.drivers.rows = front ++ back)
    (added : more.drivers.rows = front ++ extra::back) (available : extra.Available) :
    more.free = insert extra db.free ∧ extra ∉ db.free := by
  constructor
  · ext driver
    unfold Database.free
    rw [Set.mem_insert_iff,Set.mem_ofPred_eq,Set.mem_ofPred_eq,rows,added,List.mem_append,
      List.mem_append,List.mem_cons]
    constructor
    · rintro ⟨earlier | rfl | later,free⟩
      · exact Or.inr ⟨Or.inl earlier,free⟩
      · exact Or.inl rfl
      · exact Or.inr ⟨Or.inr later,free⟩
    · rintro (rfl | ⟨earlier | later,free⟩)
      · exact ⟨Or.inr (Or.inl rfl),available⟩
      · exact ⟨Or.inl earlier,free⟩
      · exact ⟨Or.inr (Or.inr later),free⟩
  · intro member
    have distinct := more.drivers.keyed.of_map
    rw [added,List.nodup_middle] at distinct
    exact (List.nodup_cons.mp distinct).1 (rows ▸ member.1)

/-- One driver more keeps every assignment, and adds at most one. -/
theorem extraDriver_keeps (alone : env.Alone) (answers : env.Answers more)
    (rows : db.drivers.rows = front ++ back) (added : more.drivers.rows = front ++ extra::back)
    (available : extra.Available) (sameOrders : more.orders = db.orders)
    (sameFetch : env.orders more = env.orders db) (located : more.Located)
    (rowOrder : env.RowOrder place more.drivers.keys) :
    env.assignedBy settings db ⊆ env.assignedBy settings more ∧
      (env.assignedBy settings more \ env.assignedBy settings db).card ≤ 1 := by
  have shorter : db.drivers.rows.Sublist more.drivers.rows := by
    rw [rows,added]
    exact (List.sublist_cons_self extra back).append_left front
  have locatedFewer : db.Located :=
    ⟨fun driver member => located.drivers driver (shorter.subset member),
      fun order member => located.orders order (sameOrders ▸ member)⟩
  have answersFewer : env.Answers db := by
    intro order waits driver member
    refine answers order ?_ driver (shorter.subset member)
    unfold Database.actionableOrders at waits ⊢
    rwa [sameOrders]
  obtain ⟨few,run,once,same⟩ := assignedBy_greedy settings alone answersFewer locatedFewer
    (rowOrder.mono (shorter.map Driver.id))
  obtain ⟨many,again,onceMore,sameMore⟩ :=
    assignedBy_greedy settings alone answers located rowOrder
  obtain ⟨inserted,new⟩ := free_insert rows added available
  rw [sameFetch,inserted] at again
  obtain ⟨kept,bound⟩ := run.insert better_asymm new again
  have contained : ((few.map Prod.fst).map Order.id).toFinset ⊆
      ((many.map Prod.fst).map Order.id).toFinset := by
    intro id member
    exact List.mem_toFinset.mpr ((kept.map _).subset (List.mem_toFinset.mp member))
  rw [same,sameMore]
  refine ⟨contained,?_⟩
  rw [Finset.card_sdiff_of_subset contained,List.toFinset_card_of_nodup onceMore,
    List.toFinset_card_of_nodup once]
  simp only [List.length_map]
  omega

/-- With a second driver the second order is assigned as well. -/
theorem secondDriver_keeps :
    everyRoute.assignedBy {} twoOrders ⊆ everyRoute.assignedBy {} twoDrivers ∧
      (everyRoute.assignedBy {} twoDrivers \ everyRoute.assignedBy {} twoOrders).card ≤ 1 := by
  have answers : everyRoute.Answers twoDrivers := by
    intro order _ driver _ _ _
    exact ⟨_,RouteETAResult.durationMinutes_success 1000 (by decide +kernel)⟩
  have rows : twoOrders.drivers.rows = [] ++ [Sample.driver 1 "1"] := by decide +kernel
  have added : twoDrivers.drivers.rows = [] ++ Sample.driver 2 "2" :: [Sample.driver 1 "1"] := by
    decide +kernel
  exact extraDriver_keeps (fun _ _ _ => rfl) answers rows added rfl (by decide +kernel)
    (by decide +kernel) (by decide +kernel)
    (rowOrder_table twoDrivers.drivers.keyed (fun _ _ _ => rfl))

/-- A driver whose route lasts too long for a float costs order 3 its assignment. -/
theorem endless_displaces :
    ¬∀ (env : Surroundings) (settings : Settings) (place : UUID → UUID → ℕ) (db more : Database)
      (front back : List Driver) (extra : Driver), env.Alone →
        db.drivers.rows = front ++ back → more.drivers.rows = front ++ extra::back →
          extra.Available → more.orders = db.orders → env.orders more = env.orders db →
            more.Located → env.RowOrder place more.drivers.keys →
              env.assignedBy settings db ⊆ env.assignedBy settings more ∧
                (env.assignedBy settings more \ env.assignedBy settings db).card ≤ 1 := by
  intro keeps
  let before : Database := Sample.database [Sample.driver 2 "2"] [Sample.order 3,Sample.order 4]
  have kept := (keeps endless {} _ before twoDrivers [Sample.driver 2 "2"] [] (Sample.driver 1 "1")
    (fun _ _ _ => rfl) (by decide +kernel) (by decide +kernel) rfl (by decide +kernel)
    (by decide +kernel) (by decide +kernel)
    (rowOrder_table twoDrivers.drivers.keyed (fun _ _ _ => rfl))).1
  have lost : ¬endless.assignedBy {} before ⊆ endless.assignedBy {} twoDrivers := by decide +kernel
  exact lost kept

end Extra

end Surroundings
end FoodDispatch
