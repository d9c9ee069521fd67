import FoodDispatch.Nearest

/-! A tick leaves nothing for the next one. When the clock stands still, an order
that is still open has met every driver that is still available, and one whose
window is closed is on hold already. -/
namespace FoodDispatch
open Library
open ScoringEngine
open PrepEstimator (WindowOpen)

namespace Database

/-- Restaurants have valid coordinates, and so has every driver whose position is known. -/
structure Located (db : Database) : Prop where
  drivers : ∀ driver ∈ db.drivers.rows, driver.currentLat.isSome → driver.currentLng.isSome →
    LatLng.accepts driver.currentLat driver.currentLng = true
  orders : ∀ order ∈ db.orders.rows,
    LatLng.accepts (some order.restaurantLat) (some order.restaurantLng) = true

instance (db : Database) : Decidable db.Located :=
  decidable_of_iff ((∀ driver ∈ db.drivers.rows, driver.currentLat.isSome → driver.currentLng.isSome →
      LatLng.accepts driver.currentLat driver.currentLng = true) ∧
    ∀ order ∈ db.orders.rows,
      LatLng.accepts (some order.restaurantLat) (some order.restaurantLng) = true)
    ⟨fun both => ⟨both.1,both.2⟩,fun located => ⟨located.drivers,located.orders⟩⟩

/-- An order that is not assigned is as it was, but for a hold. -/
def Waits (db next : Database) : Prop :=
  ∀ row ∈ next.orders.rows, row.dispatchStatus ≠ .assigned →
    row ∈ db.orders.rows ∨ ∃ old ∈ db.orders.rows, old.dispatchStatus = .pending ∧ row = old.hold

variable {db next last : Database} {order driver : UUID} {time : ℤ}

theorem Waits.refl (db : Database) : db.Waits db := fun _ member _ => Or.inl member

theorem Waits.trans (first : db.Waits next) (second : next.Waits last) : db.Waits last := by
  intro row member unassigned
  rcases second row member unassigned with kept | ⟨middle,present,pending,rfl⟩
  · exact first row kept unassigned
  · rcases first middle present (by simp [pending]) with old | ⟨old,_,_,rfl⟩
    · exact Or.inr ⟨middle,old,pending,rfl⟩
    · contradiction

theorem Held.waits (held : db.Held next order) : db.Waits next := by
  intro row member _
  rcases held.order_cases member with ⟨old,known,_,pending,rfl⟩ | known
  · exact Or.inr ⟨old,known,pending,rfl⟩
  · exact Or.inl known

theorem Assigned.waits (assigned : db.Assigned next order driver time) : db.Waits next := by
  intro row member unassigned
  rcases assigned.order_cases member with ⟨old,_,_,rfl⟩ | ⟨known,_⟩
  · exact absurd rfl unassigned
  · exact Or.inl known

/-- After a hold of the order its row is not pending. -/
theorem Held.waiting (held : db.Held next order) {row : Order} (member : row ∈ next.orders.rows)
    (named : row.id = order) : row.dispatchStatus ≠ .pending := by
  rw [held.orders] at member
  rcases Table.mem_update_cases member with ⟨old,_,_,rfl⟩ | ⟨_,skipped⟩
  · simp [Order.hold]
  · intro pending
    simp [named,pending] at skipped

/-- The copy of a waiting order that an earlier query has seen. -/
theorem Waits.copy (waits : db.Waits next) {row : Order} (member : row ∈ next.actionableOrders) :
    ∃ copy ∈ db.actionableOrders, copy.id = row.id ∧
      copy.predictedReadyAt = row.predictedReadyAt := by
  obtain ⟨present,actionable⟩ := List.mem_filter.mp member
  have waiting : row.Actionable := of_decide_eq_true actionable
  have unassigned : row.dispatchStatus ≠ .assigned := by
    rcases waiting with pending | holding
    · simp [pending]
    · simp [holding]
  rcases waits row present unassigned with kept | ⟨old,known,pending,rfl⟩
  · exact ⟨row,List.mem_filter.mpr ⟨kept,actionable⟩,rfl,rfl⟩
  · exact ⟨old,List.mem_filter.mpr ⟨known,decide_eq_true (Or.inl pending)⟩,rfl,rfl⟩

end Database

namespace Surroundings
variable {env : Surroundings} {settings : Settings} {order : Order} {db next : Database}

def Steady (env : Surroundings) (time : ℤ) : Prop := ∀ site, env.clock site = time

/-- Of the orders that wait and the drivers that are available, Maps reports a route
with a usable duration or a failure. -/
def Answers (env : Surroundings) (db : Database) : Prop :=
  ∀ order ∈ db.actionableOrders, ∀ driver ∈ db.drivers.rows, driver.Available →
    (env.maps order.id driver.id).ok = true →
      ∃ etaMinutes, (env.maps order.id driver.id).durationMinutes = .ok (some etaMinutes)

theorem evaluate_waits (alone : env.Alone) (order : Order) (db : Database) :
    db.Waits (env.run (DispatchLoop.evaluate settings order) db).2 := by
  rcases evaluate_cases alone order db with same | held | ⟨driver,time,assigned⟩
  · rw [same]
    exact .refl db
  · exact held.waits
  · exact assigned.waits

theorem reached_waits (alone : env.Alone) (orders : List Order) (db : Database) :
    db.Waits (env.reached settings orders db) := by
  induction orders generalizing db with
  | nil => exact .refl db
  | cons order rest ih =>
    unfold reached
    rw [processOrder_state]
    exact (evaluate_waits alone order db).trans (ih _)

theorem queried_quiet (located : db.Located) (answers : env.Answers db) (consumed : db.Consumed next)
    (waits : order ∈ db.actionableOrders) (staleCutoff : ℤ) :
    ∀ driver ∈ env.drivers order.id staleCutoff next, env.raises order.id driver = false := by
  intro driver member
  obtain ⟨present,eligible⟩ :=
    List.mem_filter.mp ((env.found order.id staleCutoff next).mem_iff.mp member)
  obtain ⟨available,_,lat,lng⟩ := of_decide_eq_true eligible
  have stored : driver ∈ db.drivers.rows := consumed.drivers driver present available
  have accepted := located.drivers driver stored lat lng
  unfold raises
  rw [accepted]
  cases route : (env.maps order.id driver.id).ok with
  | false => rfl
  | true =>
    obtain ⟨etaMinutes,told⟩ := answers order waits driver stored available route
    unfold duration
    rw [told]
    rfl

theorem evaluate_returns (alone : env.Alone)
    (valid : LatLng.accepts (some order.restaurantLat) (some order.restaurantLng) = true)
    (quiet : ∀ driver ∈ env.drivers order.id (env.staleCutoff settings order.id) db,
      env.raises order.id driver = false)
    (known : order.id ∈ db.orders.keys)
    (opened : WindowOpen settings order.predictedReadyAt (env.clock (.gate order.id)))
    (dated : env.Dated settings order.id) :
    ∃ value, (env.run (DispatchLoop.evaluate settings order) db).1 = .ok value := by
  have kept : env.Keeps order.id := fun driver db known => by rwa [alone order.id driver db]
  have tried := tryCandidates_tried kept (sorted
    ((env.drivers order.id (env.staleCutoff settings order.id) db).filterMap
      (env.scoreOf order))) known
  rw [run_evaluate_open opened dated,run_assignAmong_ok valid quiet]
  unfold tryScored
  rcases tried.cases with ⟨told,_⟩ | ⟨_,_,_,_,_,_,_,_,told,_⟩
  · rw [← Prod.eta (env.run _ _),told]
    exact ⟨(),rfl⟩
  · rw [told]
    exact ⟨(),rfl⟩

/-- An order whose window is closed is not pending any more once it was processed. -/
theorem reached_held (alone : env.Alone) {first rest : List Order}
    (located : env.orders db = first ++ order::rest)
    (closed : ¬WindowOpen settings order.predictedReadyAt (env.clock (.gate order.id)))
    {row : Order} (present : row ∈ (env.reached settings (env.orders db) db).orders.rows)
    (named : row.id = order.id) : row.dispatchStatus ≠ .pending := by
  intro pending
  have unheld (old : Order) : row ≠ old.hold := by
    rintro rfl
    contradiction
  have known : order ∈ db.orders.rows :=
    (List.mem_filter.mp ((env.fetched db).mem_iff.mp (by simp [located]))).1
  rw [located,reached_append] at present
  unfold reached at present
  rw [processOrder_state] at present
  -- the row was pending right after its own evaluation
  rcases reached_waits alone rest _ row present (by simp [pending]) with after | ⟨old,_,_,held⟩
  · rw [run_evaluate_closed closed] at after
    by_cases holding : order.dispatchStatus = .holding
    · rw [run_applyHold_holding holding] at after
      rcases reached_waits alone first db row after (by simp [pending]) with kept | ⟨old,_,_,held⟩
      · rw [db.orders.unique kept known named,holding] at pending
        contradiction
      · exact unheld old held
    · exact (run_applyHold_held holding).waiting after named pending
  · exact unheld old held

/-- Without a route there is nobody to try. -/
theorem assignAmong_routeless {candidates : List Driver}
    (failed : ∀ driver ∈ candidates, (env.maps order.id driver.id).ok = false) :
    (env.run (assignAmong order candidates) db).2 = db := by
  cases valid : LatLng.accepts (some order.restaurantLat) (some order.restaurantLng) with
  | false =>
    cases candidates with
    | nil => rfl
    | cons driver rest => rw [run_assignAmong_invalid valid]
  | true =>
    by_cases quiet : ∀ driver ∈ candidates, env.raises order.id driver = false
    · have unrouted : candidates.filter (env.routed order.id) = [] := by
        rw [List.filter_eq_nil_iff]
        intro driver member route
        have fails := failed driver member
        unfold routed at route
        rw [route] at fails
        contradiction
      rw [run_assignAmong_ok valid quiet]
      unfold tryScored
      rw [scoreOf_filterMap quiet,unrouted]
      rfl
    · have raised : ∃ driver ∈ candidates, env.raises order.id driver = true := by
        simpa using quiet
      obtain ⟨error,_,outcome⟩ := run_assignAmong_error db valid raised
      rw [outcome]

theorem reached_eq_self {orders : List Order}
    (unchanged : ∀ order ∈ orders, (env.run (DispatchLoop.evaluate settings order) db).2 = db) :
    env.reached settings orders db = db := by
  induction orders with
  | nil => rfl
  | cons order rest ih =>
    unfold reached
    rw [processOrder_state,unchanged order (by simp)]
    exact ih (fun other member => unchanged other (by simp [member]))

section Again
variable {first second : Surroundings} {time : ℤ}

theorem evaluate_again (sameMaps : second.maps = first.maps) (alone : first.Alone)
    (steady : first.Steady time) (steadyAgain : second.Steady time) (located : db.Located)
    (answers : first.Answers db)
    (member : order ∈ (first.reached settings (first.orders db) db).actionableOrders) :
    (second.run (DispatchLoop.evaluate settings order)
      (first.reached settings (first.orders db) db)).2 =
        first.reached settings (first.orders db) db := by
  obtain ⟨present,actionable⟩ := List.mem_filter.mp member
  have waiting : order.Actionable := of_decide_eq_true actionable
  obtain ⟨copy,seen,named,ready⟩ := (reached_waits alone (first.orders db) db).copy member
  obtain ⟨front,rest,split⟩ := List.append_of_mem ((first.fetched db).mem_iff.mpr seen)
  have known : copy ∈ db.orders.rows := (List.mem_filter.mp seen).1
  have before : db.Consumed (first.reached settings front db) := reached_consumed alone front db
  by_cases opened : WindowOpen settings order.predictedReadyAt time
  · have openedFirst : WindowOpen settings copy.predictedReadyAt (first.clock (.gate copy.id)) := by
      rw [steady,ready]
      exact opened
    have openedAgain : WindowOpen settings order.predictedReadyAt (second.clock (.gate order.id)) := by
      rw [steadyAgain]
      exact opened
    by_cases dated : second.Dated settings order.id
    swap
    · rw [run_evaluate_undated openedAgain dated]
    have datedFirst : first.Dated settings copy.id := by
      unfold Dated at dated ⊢
      rw [steady]
      rwa [steadyAgain] at dated
    have returned := evaluate_returns alone (located.orders copy known)
      (queried_quiet located answers before seen _) (by
        rw [before.keys]
        exact db.orders.key_mem known) openedFirst datedFirst
    rw [run_evaluate_state openedAgain dated]
    apply assignAmong_routeless
    intro driver candidate
    obtain ⟨stored,eligible⟩ := List.mem_filter.mp ((second.found _ _ _).mem_iff.mp candidate)
    have eligible := of_decide_eq_true eligible
    rw [sameMaps,← named]
    refine reached_missed alone split returned openedFirst present named.symm ?_ stored eligible.1 ?_
    · rcases waiting with pending | holding
      · simp [pending]
      · simp [holding]
    · have cutoff : first.staleCutoff settings copy.id = second.staleCutoff settings order.id := by
        unfold staleCutoff
        rw [steady,steadyAgain]
      rw [cutoff]
      exact eligible
  · have closedFirst : ¬WindowOpen settings copy.predictedReadyAt (first.clock (.gate copy.id)) := by
      rw [steady,ready]
      exact opened
    have notPending := reached_held alone split closedFirst present named.symm
    have holding : order.dispatchStatus = .holding := waiting.resolve_left notPending
    rw [run_evaluate_closed (by rw [steadyAgain]; exact opened),run_applyHold_holding holding]

/-- Whatever order the queries return their rows in, a second tick at the same time
leaves both tables as the first one left them. -/
theorem tick_settles (sameMaps : second.maps = first.maps) (alone : first.Alone)
    (steady : first.Steady time) (steadyAgain : second.Steady time) (located : db.Located)
    (answers : first.Answers db) :
    (second.run (DispatchLoop.runDispatchTick settings)
      (first.run (DispatchLoop.runDispatchTick settings) db).2).2 =
        (first.run (DispatchLoop.runDispatchTick settings) db).2 := by
  rw [run_runDispatchTick,run_runDispatchTick]
  apply reached_eq_self
  intro order member
  exact evaluate_again sameMaps alone steady steadyAgain located answers
    ((second.fetched _).mem_iff.mp member)

end Again

/-- One driver for two orders; the second tick finds the other order with nobody left. -/
theorem twoOrders_settle :
    (everyRoute.run (DispatchLoop.runDispatchTick {})
      (everyRoute.run (DispatchLoop.runDispatchTick {}) twoOrders).2).2 =
        (everyRoute.run (DispatchLoop.runDispatchTick {}) twoOrders).2 := by
  have fits : RouteETAResult.fitsDouble 60 = true := by decide +kernel
  have answers : everyRoute.Answers twoOrders :=
    fun _ _ _ _ _ _ => ⟨_,RouteETAResult.durationMinutes_success 1000 fits⟩
  exact tick_settles rfl (fun _ _ _ => rfl) (fun _ => rfl) (fun _ => rfl) (by decide +kernel) answers

/-- The route from driver 1 to order 3 lasts longer than a float can hold. -/
def endless : Surroundings := Sample.surroundings (fun order driver =>
  if driver = Sample.id 2 then .success 120 2000
  else if order = Sample.id 3 then .success (2 ^ 1024) 1000
  else .success 60 1000)

def twoDrivers : Database :=
  Sample.database [Sample.driver 2 "2",Sample.driver 1 "1"] [Sample.order 3,Sample.order 4]

/-- Such a route raises for order 3, until order 4 has taken that driver out of its way. -/
theorem endless_unsettled :
    ¬∀ (first second : Surroundings) (settings : Settings) (time : ℤ) (db : Database),
      second.maps = first.maps → first.Alone → second.Alone → first.Steady time →
        second.Steady time → db.Located →
          (second.run (DispatchLoop.runDispatchTick settings)
            (first.run (DispatchLoop.runDispatchTick settings) db).2).2 =
              (first.run (DispatchLoop.runDispatchTick settings) db).2 := by
  intro settled
  have same := settled endless endless {} 0 twoDrivers rfl (fun _ _ _ => rfl)
    (fun _ _ _ => rfl) (fun _ => rfl) (fun _ => rfl) (by decide +kernel)
  exact absurd same (by decide +kernel)

end Surroundings
end FoodDispatch
