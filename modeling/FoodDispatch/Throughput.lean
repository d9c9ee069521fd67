import FoodDispatch.ExtraDriver

/-! How many orders a tick assigns. In whatever order the queries return their rows,
it is at least half of what could be assigned at all. -/
namespace FoodDispatch
open Library
open ScoringEngine

/-- The orders that waited and the drivers that they have since been given, as the rows
of the orders name them. -/
def Database.handed (db next : Database) : Finset (Order × Driver) :=
  (db.actionableOrders ×ˢ db.drivers.rows).toFinset.filter
    (fun pair => next.IsAssignedTo pair.1.id (some pair.2.id))

namespace Surroundings
variable {env other : Surroundings} {settings : Settings} {order : Order} {db next : Database}

theorem placed_query (env : Surroundings) (order : UUID) (staleCutoff : ℤ) (db : Database) :
    (env.drivers order staleCutoff db).Pairwise (fun first second =>
      ((env.drivers order staleCutoff db).map Driver.id).idxOf first.id <
        ((env.drivers order staleCutoff db).map Driver.id).idxOf second.id) := by
  have increasing := pairwise_idxOf (queried_distinct env order staleCutoff db)
  rw [List.pairwise_map] at increasing
  exact increasing

/-- How ties are broken may change from query to query, so of the driver that is
chosen only this much is known: it is free, and it fits. -/
def Any (_ : Order) (_ _ : Driver) : Prop := True

theorem GreedyStep.any {better : Order → Driver → Driver → Prop}
    (step : env.GreedyStep settings better order db next) :
    env.GreedyStep settings Any order db next := by
  cases step with
  | skipped unfit free kept => exact .skipped unfit free kept
  | taken winner best free assigned =>
    exact .taken winner ⟨best.left,best.suits,fun _ _ _ _ => trivial⟩ free assigned

/-- A tick that runs alone is a greedy matching, however its queries order their rows. -/
theorem fetched_matched (settings : Settings) (alone : env.Alone) (answers : env.Answers db)
    (located : db.Located) :
    ∃ matched, Greedy (env.fits settings) Any (env.orders db) db.free matched ∧
      ∀ id driver, (env.reached settings (env.orders db) db).IsAssignedTo id driver ↔
        db.IsAssignedTo id driver ∨ ∃ pair ∈ matched, pair.1.id = id ∧ some pair.2.id = driver := by
  have waits : ∀ order ∈ env.orders db, order ∈ db.actionableOrders :=
    fun order member => (env.fetched db).mem_iff.mp member
  have steps : ∀ order ∈ env.orders db, ∀ next, db.Consumed next →
      env.GreedyStep settings Any order next
        (env.run (DispatchLoop.evaluate settings order) next).2 := by
    intro order member next consumed
    have step : env.GreedyStep settings (env.better fun _ driver => ((env.drivers order.id
        (env.staleCutoff settings order.id) next).map Driver.id).idxOf driver) order next
          (env.run (DispatchLoop.evaluate settings order) next).2 :=
      evaluate_greedy alone (located.orders order (List.mem_filter.mp (waits order member)).1)
        (queried_quiet located answers consumed (waits order member) _)
        (consumed.known (waits order member)) (placed_query env order.id _ next)
    exact step.any
  exact reached_matched db.Consumed (.refl db) (fetched_distinct env db)
    (fun order member => Database.unassigned_of_waits (waits order member))
    (fun order next consumed => consumed.trans (evaluate_consumed alone order next)) steps

/-- The pairs that one tick assigns. -/
def assignedPairs (env : Surroundings) (settings : Settings) (db : Database) :
    Finset (Order × Driver) :=
  db.handed (env.run (DispatchLoop.runDispatchTick settings) db).2

/-- The rows name the pairs of the matching. -/
theorem assignedPairs_of_reached {better : Order → Driver → Driver → Prop}
    {matched : List (Order × Driver)}
    (run : Greedy (env.fits settings) better (env.orders db) db.free matched)
    (assigned : ∀ id driver, (env.reached settings (env.orders db) db).IsAssignedTo id driver ↔
      db.IsAssignedTo id driver ∨ ∃ pair ∈ matched, pair.1.id = id ∧ some pair.2.id = driver)
    (pair : Order × Driver) : pair ∈ env.assignedPairs settings db ↔ pair ∈ matched := by
  have listed : ∀ found ∈ matched, found.1 ∈ db.actionableOrders := fun found member =>
    (env.fetched db).mem_iff.mp (run.sublist.subset (List.mem_map_of_mem member))
  have stored : ∀ {order}, order ∈ db.actionableOrders → order ∈ db.orders.rows :=
    fun waits => (List.mem_filter.mp waits).1
  unfold assignedPairs Database.handed
  rw [Finset.mem_filter,List.mem_toFinset,List.mem_product,run_runDispatchTick,assigned]
  constructor
  · rintro ⟨⟨waits,member⟩,before | ⟨found,present,same,given⟩⟩
    · exact absurd (Database.isAssigned_iff.mpr ⟨_,before⟩) (Database.unassigned_of_waits waits)
    · have first : found.1 = pair.1 :=
        db.orders.unique (stored (listed found present)) (stored waits) same
      have second : found.2 = pair.2 :=
        db.drivers.unique (run.left present).1 member (Option.some.inj given)
      have equal : found = pair := Prod.ext first second
      exact equal ▸ present
  · intro present
    exact ⟨⟨listed pair present,(run.left present).1⟩,Or.inr ⟨pair,present,rfl,rfl⟩⟩

/-- Each order that a tick assigns has one such pair. -/
theorem assignedPairs_length {better : Order → Driver → Driver → Prop}
    {matched : List (Order × Driver)}
    (run : Greedy (env.fits settings) better (env.orders db) db.free matched)
    (assigned : ∀ id driver, (env.reached settings (env.orders db) db).IsAssignedTo id driver ↔
      db.IsAssignedTo id driver ∨ ∃ pair ∈ matched, pair.1.id = id ∧ some pair.2.id = driver) :
    (env.assignedPairs settings db).image (fun pair => pair.1.id) = env.assignedBy settings db ∧
      (env.assignedPairs settings db).card = matched.length ∧
        (env.assignedBy settings db).card = matched.length := by
  obtain ⟨distinct,same⟩ := assignedBy_of_reached run assigned
  have pairs : env.assignedPairs settings db = matched.toFinset := by
    ext pair
    rw [assignedPairs_of_reached run assigned,List.mem_toFinset]
  refine ⟨?_,?_,?_⟩
  · rw [same,pairs]
    ext id
    simp
  · rw [pairs,List.toFinset_card_of_nodup distinct.of_map.of_map]
  · rw [same,List.toFinset_card_of_nodup distinct,List.length_map,List.length_map]

/-- A way to serve orders that wait: each with one driver that is available and can
be scored for it, and each driver with one order. -/
def Serves (env : Surroundings) (settings : Settings) (db : Database)
    (pairs : Finset (Order × Driver)) : Prop :=
  Feasible (env.fits settings) db.actionableOrders db.free pairs

/-- No way to serve the orders of a tick serves more than twice what the tick does. -/
theorem assignedPairs_half (alone : env.Alone) (answers : env.Answers db) (located : db.Located)
    {pairs : Finset (Order × Driver)} (serves : env.Serves settings db pairs) :
    pairs.card ≤ 2 * (env.assignedPairs settings db).card := by
  obtain ⟨matched,run,assigned⟩ := fetched_matched settings alone answers located
  obtain ⟨_,card,_⟩ := assignedPairs_length run assigned
  rw [card]
  apply run.half
  exact ⟨fun pair member => (env.fetched db).mem_iff.mpr (serves.listed pair member),
    serves.left,serves.suits,serves.oneTask,serves.oneResource⟩

/-- What a tick assigns is such a way. -/
theorem assignedPairs_serves (alone : env.Alone) (answers : env.Answers db) (located : db.Located) :
    env.Serves settings db (env.assignedPairs settings db) ∧
      (env.assignedPairs settings db).image (fun pair => pair.1.id) = env.assignedBy settings db ∧
        (env.assignedPairs settings db).card = (env.assignedBy settings db).card := by
  obtain ⟨matched,run,assigned⟩ := fetched_matched settings alone answers located
  obtain ⟨orders,card,card'⟩ := assignedPairs_length run assigned
  have feasible := Greedy.feasible (fetched_distinct env db).of_map run
    (assignedPairs_of_reached run assigned)
  refine ⟨?_,orders,card.trans card'.symm⟩
  exact ⟨fun pair member => (env.fetched db).mem_iff.mp (feasible.listed pair member),
    feasible.left,feasible.suits,feasible.oneTask,feasible.oneResource⟩

/-- The pairs that a tick assigns, with every order that it assigns among them, serve
the orders, and no other way serves more than twice as many. -/
theorem tick_serves_half (alone : env.Alone) (answers : env.Answers db) (located : db.Located) :
    env.Serves settings db (env.assignedPairs settings db) ∧
      (env.assignedPairs settings db).image (fun pair => pair.1.id) = env.assignedBy settings db ∧
        ∀ pairs, env.Serves settings db pairs →
          pairs.card ≤ 2 * (env.assignedPairs settings db).card := by
  obtain ⟨serves,orders,_⟩ := assignedPairs_serves alone answers located
  exact ⟨serves,orders,fun _ => assignedPairs_half alone answers located⟩

instance (db : Database) (driver : Driver) : Decidable (driver ∈ db.free) :=
  inferInstanceAs (Decidable (_ ∧ _))

instance (env : Surroundings) (settings : Settings) (order : Order) (driver : Driver) :
    Decidable (env.fits settings order driver) := inferInstanceAs (Decidable (_ ∧ _ ∧ _ ∧ _))

/-- Both drivers can reach order 3, driver 1 the sooner; order 4 only driver 1 can reach. -/
def narrow : Surroundings := Sample.surroundings (fun order driver =>
  if driver = Sample.id 1 then .success 60 1000
  else if order = Sample.id 3 then .success 120 2000
  else .failure (.text "ZERO_RESULTS"))

theorem narrow_answers : narrow.Answers twoDrivers := by
  intro order _ driver _ _ route
  by_cases near : driver.id = Sample.id 1
  · have told : narrow.maps order.id driver.id = .success 60 1000 := if_pos near
    rw [told]
    exact ⟨_,RouteETAResult.durationMinutes_success 1000 (by decide +kernel)⟩
  · by_cases third : order.id = Sample.id 3
    · have told : narrow.maps order.id driver.id = .success 120 2000 :=
        (if_neg near).trans (if_pos third)
      rw [told]
      exact ⟨_,RouteETAResult.durationMinutes_success 2000 (by decide +kernel)⟩
    · have told : narrow.maps order.id driver.id = .failure (.text "ZERO_RESULTS") :=
        (if_neg near).trans (if_neg third)
      rw [told] at route
      contradiction

/-- Half is what a tick can come down to: it gives driver 1 to order 3. -/
theorem narrow_serves_half :
    narrow.assignedPairs {} twoDrivers = {(Sample.order 3,Sample.driver 1 "1")} ∧
    narrow.Serves {} twoDrivers {(Sample.order 3,Sample.driver 2 "2"),
      (Sample.order 4,Sample.driver 1 "1")} ∧
    narrow.Serves {} twoDrivers (narrow.assignedPairs {} twoDrivers) ∧
    (narrow.assignedPairs {} twoDrivers).image (fun pair => pair.1.id) =
      narrow.assignedBy {} twoDrivers ∧
    ∀ pairs, narrow.Serves {} twoDrivers pairs →
      pairs.card ≤ 2 * (narrow.assignedPairs {} twoDrivers).card := by
  refine ⟨by decide +kernel,⟨by decide +kernel,by decide +kernel,by decide +kernel,
    by decide +kernel,by decide +kernel⟩,?_⟩
  exact tick_serves_half (fun _ _ _ => rfl) narrow_answers (by decide +kernel)

/-- The order in which queries return their rows costs at most half of the assignments. -/
theorem row_orders_half (alone : env.Alone) (alone' : other.Alone) (answers : env.Answers db)
    (located : db.Located) (clock : other.clock = env.clock) (maps : other.maps = env.maps) :
    (env.assignedBy settings db).card ≤ 2 * (other.assignedBy settings db).card := by
  obtain ⟨serves,_,card⟩ := assignedPairs_serves alone answers located
  have answers' : other.Answers db := by
    unfold Answers
    rw [maps]
    exact answers
  have same : other.fits settings = env.fits settings := by
    unfold fits Dated staleCutoff routed
    rw [clock,maps]
  obtain ⟨_,_,card'⟩ := assignedPairs_serves alone' answers' located
  rw [← card,← card']
  apply assignedPairs_half alone' answers' located
  unfold Serves
  rw [same]
  exact serves

/-- `narrow` with queries that return their rows the other way round. -/
def reversed : Surroundings where
  __ := narrow
  orders db := db.actionableOrders.reverse
  drivers _ staleCutoff db := (db.candidates staleCutoff).reverse
  fetched _ := List.reverse_perm _
  found _ _ _ := List.reverse_perm _

theorem reversed_half : (reversed.assignedBy {} twoDrivers).card = 2 ∧
    (reversed.assignedBy {} twoDrivers).card ≤ 2 * (narrow.assignedBy {} twoDrivers).card := by
  refine ⟨by decide +kernel,?_⟩
  have answers : reversed.Answers twoDrivers := narrow_answers
  exact row_orders_half (fun _ _ _ => rfl) (fun _ _ _ => rfl) answers (by decide +kernel) rfl rfl

/-- Where every driver can serve every order, orders or drivers run out. -/
theorem tick_serves_all (alone : env.Alone) (answers : env.Answers db) (located : db.Located)
    (every : ∀ order ∈ db.actionableOrders, ∀ driver ∈ db.free, env.fits settings order driver) :
    (env.assignedBy settings db).card = min db.actionableOrders.length db.free.ncard := by
  obtain ⟨matched,run,assigned⟩ := fetched_matched settings alone answers located
  obtain ⟨_,_,card⟩ := assignedPairs_length run assigned
  have finite : db.free.Finite := db.drivers.rows.finite_toSet.subset (fun _ member => member.1)
  rw [card,← (env.fetched db).length_eq]
  apply run.complete finite
  exact fun order member driver => every order ((env.fetched db).mem_iff.mp member) driver

theorem twoDrivers_all : (everyRoute.assignedBy {} twoDrivers).card =
    min twoDrivers.actionableOrders.length twoDrivers.free.ncard := by
  have answers : everyRoute.Answers twoDrivers := by
    intro order _ driver _ _ _
    exact ⟨_,RouteETAResult.durationMinutes_success 1000 (by decide +kernel)⟩
  apply tick_serves_all (fun _ _ _ => rfl) answers (by decide +kernel)
  intro order member driver free
  have every : ∀ order ∈ twoDrivers.actionableOrders, ∀ driver ∈ twoDrivers.drivers.rows,
      everyRoute.fits {} order driver := by decide +kernel
  exact every order member driver free.1

end Surroundings
end FoodDispatch
