import FoodDispatch.Candidates
import FoodDispatch.Effects

/-! A tick that runs alone misses no match. During the tick available drivers are
only used up, so a driver that is free at the end was free, and as it is now, when
each order was evaluated; and the first attempt of an evaluation succeeds. -/
namespace FoodDispatch
open Library
open Library.Program (run_bind run_bind_ok run_bind_error run_tryExcept)
open ScoringEngine
open PrepEstimator (WindowOpen)

namespace Database

/-- What a part of a tick may do: use up drivers, and assign orders. -/
structure Consumed (db next : Database) : Prop where
  drivers : ∀ row ∈ next.drivers.rows, row.Available → row ∈ db.drivers.rows
  keys : next.orders.keys = db.orders.keys
  orders : ∀ row ∈ next.orders.rows, row.dispatchStatus ≠ .assigned →
    ∃ old ∈ db.orders.rows, old.id = row.id ∧ old.dispatchStatus ≠ .assigned

variable {db next last : Database} {order driver : UUID} {time : ℤ}

theorem Consumed.refl (db : Database) : db.Consumed db :=
  ⟨fun _ member _ => member,rfl,fun row member open' => ⟨row,member,rfl,open'⟩⟩

theorem Consumed.trans (first : db.Consumed next) (second : next.Consumed last) :
    db.Consumed last where
  drivers row member available :=
    first.drivers row (second.drivers row member available) available
  keys := second.keys.trans first.keys
  orders row member unassigned := by
    obtain ⟨middle,present,same,still⟩ := second.orders row member unassigned
    obtain ⟨old,known,equal,before⟩ := first.orders middle present still
    exact ⟨old,known,equal.trans same,before⟩

theorem Held.consumed (held : db.Held next order) : db.Consumed next where
  drivers row member _ := held.drivers ▸ member
  keys := held.orderKeys
  orders row member unassigned := by
    rcases held.order_cases member with ⟨old,known,_,pending,rfl⟩ | known
    · exact ⟨old,known,rfl,by simp [pending]⟩
    · exact ⟨row,known,rfl,unassigned⟩

theorem Assigned.consumed (assigned : db.Assigned next order driver time) : db.Consumed next where
  drivers row member available := by
    rcases assigned.driver_cases member with ⟨old,_,_,_,rfl⟩ | ⟨known,_⟩
    · contradiction
    · exact known
  keys := assigned.orderKeys
  orders row member unassigned := by
    rcases assigned.order_cases member with ⟨old,_,_,rfl⟩ | ⟨known,_⟩
    · exact absurd rfl unassigned
    · exact ⟨row,known,rfl,unassigned⟩

end Database

namespace Surroundings
variable {env : Surroundings} {settings : Settings} {order : Order} {db : Database}

theorem tryCandidates_cases (alone : env.Alone) (scored : List ScoredCandidate) (db : Database) :
    (env.run (tryCandidates order scored) db).2 = db ∨
      ∃ driver time, db.Assigned (env.run (tryCandidates order scored) db).2 order.id driver time := by
  induction scored with
  | nil => exact Or.inl rfl
  | cons candidate rest ih =>
    rw [run_tryCandidates_cons]
    rcases handle_attempt alone order.id candidate.driver.id db with
      ⟨_,outcome⟩ | ⟨_,outcome⟩ | ⟨next,outcome,assigned⟩
    · rw [outcome]
      exact ih
    · rw [outcome]
      exact Or.inl rfl
    · rw [outcome]
      exact Or.inr ⟨_,_,assigned⟩

theorem tryCandidates_first (alone : env.Alone) (candidate : ScoredCandidate)
    (rest : List ScoredCandidate) (known : order.id ∈ db.orders.keys)
    (available : db.DriverAvailable candidate.driver.id) :
    db.Assigned (env.run (tryCandidates order (candidate::rest)) db).2 order.id
      candidate.driver.id (env.lockedAt order.id candidate.driver.id) := by
  rw [run_tryCandidates_cons]
  rcases handle_attempt alone order.id candidate.driver.id db with
    ⟨taken,_⟩ | ⟨unknown,_⟩ | ⟨next,outcome,assigned⟩
  · exact absurd available taken
  · exact absurd known unknown
  · rw [outcome]
    exact assigned

theorem run_assignAmong_invalid
    (invalid : LatLng.accepts (some order.restaurantLat) (some order.restaurantLng) = false)
    (driver : Driver) (rest : List Driver) :
    env.run (assignAmong order (driver::rest)) db = (.error .validationError,db) := by
  have scored : env.run (scoreCandidates order (driver::rest)) db =
      (.error .validationError,db) := by
    unfold scoreCandidates
    rw [LatLng.build_of_rejects invalid]
    rfl
  unfold run at scored
  unfold run assignAmong
  rw [List.isEmpty_cons,if_neg Bool.false_ne_true,run_bind_error _ scored]

theorem assignAmong_cases (alone : env.Alone) (candidates : List Driver) (db : Database) :
    (env.run (assignAmong order candidates) db).2 = db ∨
      ∃ driver time, db.Assigned (env.run (assignAmong order candidates) db).2 order.id driver time := by
  cases valid : LatLng.accepts (some order.restaurantLat) (some order.restaurantLng) with
  | false =>
    cases candidates with
    | nil => exact Or.inl rfl
    | cons driver rest => exact Or.inl (by rw [run_assignAmong_invalid valid])
  | true =>
    by_cases quiet : ∀ driver ∈ candidates, env.raises order.id driver = false
    · rw [run_assignAmong_ok valid quiet]
      exact tryCandidates_cases alone _ db
    · have raised : ∃ driver ∈ candidates, env.raises order.id driver = true := by
        simpa using quiet
      obtain ⟨error,_,outcome⟩ := run_assignAmong_error db valid raised
      rw [outcome]
      exact Or.inl rfl

theorem route_failed {driver : Driver} (quiet : env.raises order.id driver = false)
    (skipped : env.scoreOf order driver = none) : (env.maps order.id driver.id).ok = false := by
  by_contra route
  have route : (env.maps order.id driver.id).ok = true := by simpa using route
  unfold raises at quiet
  rw [route] at quiet
  simp only [Bool.true_and,Bool.or_eq_false_iff,Bool.not_eq_false',Option.isNone_eq_false_iff] at quiet
  obtain ⟨accepted,usable⟩ := quiet
  obtain ⟨minutes,told⟩ := Option.isSome_iff_exists.mp usable
  unfold scoreOf scorable at skipped
  rw [accepted,route,told] at skipped
  contradiction

/-- When an evaluation returns and leaves its order unassigned, it found no route
for any of its candidates. -/
theorem assignAmong_missed (alone : env.Alone) {candidates : List Driver}
    (available : ∀ driver ∈ candidates, db.DriverAvailable driver.id)
    (known : order.id ∈ db.orders.keys)
    (returned : ∃ assigned, (env.run (assignAmong order candidates) db).1 = .ok assigned)
    (missed : ∀ driver time,
      ¬db.Assigned (env.run (assignAmong order candidates) db).2 order.id driver time) :
    ∀ driver ∈ candidates, (env.maps order.id driver.id).ok = false := by
  obtain ⟨assigned,told⟩ := returned
  cases valid : LatLng.accepts (some order.restaurantLat) (some order.restaurantLng) with
  | false =>
    cases candidates with
    | nil => simp
    | cons driver rest =>
      rw [run_assignAmong_invalid valid] at told
      contradiction
  | true =>
    by_cases quiet : ∀ driver ∈ candidates, env.raises order.id driver = false
    · rw [run_assignAmong_ok valid quiet] at missed
      unfold tryScored at missed
      have permuted : (sorted (candidates.filterMap (env.scoreOf order))).Perm
          (candidates.filterMap (env.scoreOf order)) := List.perm_insertionSort _ _
      cases scored : sorted (candidates.filterMap (env.scoreOf order)) with
      | nil =>
        rw [scored] at permuted
        intro driver member
        exact route_failed (quiet driver member)
          (List.filterMap_eq_nil_iff.mp permuted.nil_eq.symm driver member)
      | cons candidate rest =>
        rw [scored] at permuted missed
        obtain ⟨driver,member,score⟩ :=
          List.mem_filterMap.mp (permuted.mem_iff.mp (List.mem_cons_self ..))
        have same : candidate.driver = driver := by
          unfold scoreOf at score
          split at score
          · obtain ⟨_,_,rfl⟩ := Option.map_eq_some_iff.mp score
            rfl
          · contradiction
        exact absurd (tryCandidates_first alone candidate rest known
          (same ▸ available driver member)) (missed _ _)
    · have raised : ∃ driver ∈ candidates, env.raises order.id driver = true := by
        simpa using quiet
      obtain ⟨error,_,outcome⟩ := run_assignAmong_error db valid raised
      rw [outcome] at told
      contradiction

def reached (env : Surroundings) (settings : Settings) : List Order → Database → Database
  | [], db => db
  | order::rest, db =>
    reached env settings rest (env.run (DispatchLoop.processOrder settings order) db).2

def staleCutoff (env : Surroundings) (settings : Settings) (order : UUID) : ℤ :=
  env.clock (.staleCutoff order) - minutes settings.driverStaleThresholdMinutes

/-- The stale cutoff of the order is a datetime. -/
abbrev Dated (env : Surroundings) (settings : Settings) (order : UUID) : Prop :=
  CutoffInRange settings (env.clock (.staleCutoff order))

theorem run_getCandidates (dated : env.Dated settings order.id) :
    env.run (getCandidates settings order.id) db =
      (.ok (env.drivers order.id (env.staleCutoff settings order.id) db),db) := by
  rw [getCandidates_at]
  change env.run (candidatesAt settings order.id (env.clock (.staleCutoff order.id))) db = _
  unfold candidatesAt
  rw [if_pos dated]
  rfl

theorem run_assignBestDriver (dated : env.Dated settings order.id) :
    env.run (assignBestDriver settings order) db = env.run (assignAmong order
      (env.drivers order.id (env.staleCutoff settings order.id) db)) db :=
  run_bind_ok env.handle (run_getCandidates dated)

theorem run_assignBestDriver_undated (undated : ¬env.Dated settings order.id) :
    env.run (assignBestDriver settings order) db = (.error .overflowError,db) := by
  have raised : env.run (getCandidates settings order.id) db = (.error .overflowError,db) := by
    rw [getCandidates_at]
    change env.run (candidatesAt settings order.id (env.clock (.staleCutoff order.id))) db = _
    unfold candidatesAt
    rw [if_neg undated]
    rfl
  exact run_bind_error env.handle raised

theorem run_evaluate_best
    (opened : WindowOpen settings order.predictedReadyAt (env.clock (.gate order.id))) :
    env.run (DispatchLoop.evaluate settings order) db =
      env.run (assignBestDriver settings order >>= fun _ => pure ()) db := by
  rw [DispatchLoop.evaluate_decided]
  change env.run (if decide (WindowOpen settings order.predictedReadyAt
    (env.clock (.gate order.id))) = true then _ else _) db = _
  rw [if_pos (decide_eq_true opened)]

theorem run_evaluate_open
    (opened : WindowOpen settings order.predictedReadyAt (env.clock (.gate order.id)))
    (dated : env.Dated settings order.id) :
    env.run (DispatchLoop.evaluate settings order) db =
      match env.run (assignAmong order
        (env.drivers order.id (env.staleCutoff settings order.id) db)) db with
      | (.ok _,next) => (.ok (),next)
      | (.error error,next) => (.error error,next) := by
  rw [run_evaluate_best opened,← run_assignBestDriver dated]
  unfold run
  rw [run_bind]
  rcases Library.Program.run env.handle (assignBestDriver settings order) db with
    ⟨error | assigned,next⟩ <;> rfl

theorem run_evaluate_state
    (opened : WindowOpen settings order.predictedReadyAt (env.clock (.gate order.id)))
    (dated : env.Dated settings order.id) :
    (env.run (DispatchLoop.evaluate settings order) db).2 =
      (env.run (assignAmong order
        (env.drivers order.id (env.staleCutoff settings order.id) db)) db).2 := by
  rw [run_evaluate_open opened dated]
  rcases env.run (assignAmong order
    (env.drivers order.id (env.staleCutoff settings order.id) db)) db with ⟨error | value,next⟩ <;> rfl

theorem run_evaluate_undated
    (opened : WindowOpen settings order.predictedReadyAt (env.clock (.gate order.id)))
    (undated : ¬env.Dated settings order.id) :
    env.run (DispatchLoop.evaluate settings order) db = (.error .overflowError,db) := by
  rw [run_evaluate_best opened]
  exact run_bind_error env.handle (run_assignBestDriver_undated undated)

theorem run_evaluate_closed
    (closed : ¬WindowOpen settings order.predictedReadyAt (env.clock (.gate order.id))) :
    env.run (DispatchLoop.evaluate settings order) db = env.run (DispatchLoop.applyHold order) db := by
  rw [DispatchLoop.evaluate_decided]
  change env.run (if decide (WindowOpen settings order.predictedReadyAt
    (env.clock (.gate order.id))) = true then _ else _) db = _
  rw [if_neg (by simpa using closed)]

theorem run_applyHold_holding (holding : order.dispatchStatus = .holding) :
    env.run (DispatchLoop.applyHold order) db = (.ok (),db) := by
  unfold DispatchLoop.applyHold
  rw [if_pos holding]
  rfl

theorem run_applyHold_held (fresh : order.dispatchStatus ≠ .holding) :
    db.Held (env.run (DispatchLoop.applyHold order) db).2 order.id := by
  obtain ⟨next,done,held⟩ := Transaction.applyHold_spec order.id db
  have committed : env.run (Library.Program.perform (Call.applyHold order.id)) db =
      Call.commit (Transaction.applyHold order.id) db := rfl
  unfold DispatchLoop.applyHold
  rw [if_neg fresh,committed]
  unfold Call.commit
  rw [done]
  exact held

/-- An evaluation writes nothing, or puts its order on hold, or assigns it. -/
theorem evaluate_cases (alone : env.Alone) (order : Order) (db : Database) :
    (env.run (DispatchLoop.evaluate settings order) db).2 = db ∨
    db.Held (env.run (DispatchLoop.evaluate settings order) db).2 order.id ∨
    ∃ driver time,
      db.Assigned (env.run (DispatchLoop.evaluate settings order) db).2 order.id driver time := by
  by_cases opened : WindowOpen settings order.predictedReadyAt (env.clock (.gate order.id))
  · by_cases dated : env.Dated settings order.id
    · rw [run_evaluate_state opened dated]
      rcases assignAmong_cases alone (env.drivers order.id (env.staleCutoff settings order.id) db) db
        with same | assigned
      · exact Or.inl same
      · exact Or.inr (Or.inr assigned)
    · rw [run_evaluate_undated opened dated]
      exact Or.inl rfl
  · rw [run_evaluate_closed opened]
    by_cases holding : order.dispatchStatus = .holding
    · exact Or.inl (by rw [run_applyHold_holding holding])
    · exact Or.inr (Or.inl (run_applyHold_held holding))

theorem evaluate_consumed (alone : env.Alone) (order : Order) (db : Database) :
    db.Consumed (env.run (DispatchLoop.evaluate settings order) db).2 := by
  rcases evaluate_cases alone order db with same | held | ⟨driver,time,assigned⟩
  · rw [same]
    exact .refl db
  · exact held.consumed
  · exact assigned.consumed

theorem evaluate_missed (alone : env.Alone)
    (opened : WindowOpen settings order.predictedReadyAt (env.clock (.gate order.id)))
    (known : order.id ∈ db.orders.keys)
    (returned : ∃ value, (env.run (DispatchLoop.evaluate settings order) db).1 = .ok value)
    (unassigned : ∀ row ∈ (env.run (DispatchLoop.evaluate settings order) db).2.orders.rows,
      row.id = order.id → row.dispatchStatus ≠ .assigned) :
    (env.run (DispatchLoop.evaluate settings order) db).2 = db ∧
      ∀ driver ∈ db.drivers.rows, driver.Eligible (env.staleCutoff settings order.id) →
        (env.maps order.id driver.id).ok = false := by
  have found := env.found order.id (env.staleCutoff settings order.id) db
  have dated : env.Dated settings order.id := by
    by_contra undated
    obtain ⟨value,told⟩ := returned
    rw [run_evaluate_undated opened undated] at told
    contradiction
  rw [run_evaluate_state opened dated] at unassigned ⊢
  have answered : ∃ assigned, (env.run (assignAmong order
      (env.drivers order.id (env.staleCutoff settings order.id) db)) db).1 = .ok assigned := by
    obtain ⟨value,told⟩ := returned
    rw [run_evaluate_open opened dated] at told
    rcases outcome : env.run (assignAmong order
      (env.drivers order.id (env.staleCutoff settings order.id) db)) db with ⟨error | assigned,next⟩
    · rw [outcome] at told
      contradiction
    · exact ⟨assigned,rfl⟩
  have never : ∀ driver time, ¬db.Assigned (env.run (assignAmong order
      (env.drivers order.id (env.staleCutoff settings order.id) db)) db).2 order.id driver time := by
    intro driver time assigned
    obtain ⟨old,member,same⟩ := Table.mem_keys.mp known
    exact unassigned _ (assigned.newOrder member same) same rfl
  constructor
  · rcases assignAmong_cases alone (env.drivers order.id (env.staleCutoff settings order.id) db) db
      with same | ⟨driver,time,assigned⟩
    · exact same
    · exact absurd assigned (never driver time)
  · have available : ∀ driver ∈ env.drivers order.id (env.staleCutoff settings order.id) db,
        db.DriverAvailable driver.id := by
      intro driver member
      obtain ⟨stored,eligible⟩ := List.mem_filter.mp (found.mem_iff.mp member)
      exact ⟨driver,stored,rfl,(of_decide_eq_true eligible).1⟩
    intro driver member eligible
    exact assignAmong_missed alone available known answered never driver
      (found.mem_iff.mpr (List.mem_filter.mpr ⟨member,decide_eq_true eligible⟩))

theorem processOrder_state (order : Order) (db : Database) :
    env.run (DispatchLoop.processOrder settings order) db =
      (.ok (),(env.run (DispatchLoop.evaluate settings order) db).2) :=
  DispatchLoop.run_processOrder env.handle settings order db

theorem reached_consumed (alone : env.Alone) (orders : List Order) (db : Database) :
    db.Consumed (env.reached settings orders db) := by
  induction orders generalizing db with
  | nil => exact .refl db
  | cons order rest ih =>
    unfold reached
    rw [processOrder_state]
    exact (evaluate_consumed alone order db).trans (ih _)

theorem reached_append (first second : List Order) (db : Database) :
    env.reached settings (first ++ second) db =
      env.reached settings second (env.reached settings first db) := by
  induction first generalizing db with
  | nil => rfl
  | cons order rest ih => exact ih _

theorem run_forEach (orders : List Order) (db : Database) :
    env.run (Library.Program.forEach orders (DispatchLoop.processOrder settings)) db =
      (.ok (),env.reached settings orders db) := by
  induction orders generalizing db with
  | nil => rfl
  | cons order rest ih =>
    unfold run reached
    rw [DispatchLoop.run_forEach_cons,processOrder_state]
    exact ih _

theorem run_runDispatchTick (db : Database) :
    env.run (DispatchLoop.runDispatchTick settings) db =
      (.ok (),env.reached settings (env.orders db) db) := by
  have fetched : env.handle .fetchActionableOrders db = (.ok (env.orders db),db) := rfl
  have processed : env.run (Library.Program.forEach (env.orders db)
      (DispatchLoop.processOrder settings)) db = (.ok (),env.reached settings (env.orders db) db) :=
    run_forEach (env.orders db) db
  unfold run at processed ⊢
  rw [DispatchLoop.run_runDispatchTick_ok settings fetched,processed]

/-- An order that is unassigned when all are processed was evaluated without a write,
and had no route from any driver that is still available. -/
theorem reached_missed (alone : env.Alone) {first rest : List Order}
    (located : env.orders db = first ++ order::rest)
    (returned : ∃ value, (env.run (DispatchLoop.evaluate settings order)
      (env.reached settings first db)).1 = .ok value)
    (opened : WindowOpen settings order.predictedReadyAt (env.clock (.gate order.id)))
    {row : Order} (present : row ∈ (env.reached settings (env.orders db) db).orders.rows)
    (named : row.id = order.id) (unassigned : row.dispatchStatus ≠ .assigned) {driver : Driver}
    (member : driver ∈ (env.reached settings (env.orders db) db).drivers.rows)
    (available : driver.Available)
    (eligible : driver.Eligible (env.staleCutoff settings order.id)) :
    (env.maps order.id driver.id).ok = false := by
  rw [located,reached_append] at present member
  have before : db.Consumed (env.reached settings first db) := reached_consumed alone first db
  have actionable : order ∈ db.actionableOrders :=
    (env.fetched db).mem_iff.mp (by simp [located])
  have known : order.id ∈ (env.reached settings first db).orders.keys := by
    rw [before.keys]
    exact db.orders.key_mem (List.mem_filter.mp actionable).1
  unfold reached at present member
  rw [processOrder_state] at present member
  let next := (env.run (DispatchLoop.evaluate settings order) (env.reached settings first db)).2
  have later : next.Consumed (env.reached settings rest next) := reached_consumed alone rest next
  obtain ⟨old,kept,same,still⟩ := later.orders row present unassigned
  obtain ⟨unchanged,missed⟩ := evaluate_missed alone opened known returned (by
    intro other stored equal
    rw [Table.unique _ stored kept (equal.trans (named.symm.trans same.symm))]
    exact still)
  have standing : driver ∈ (env.run (DispatchLoop.evaluate settings order)
    (env.reached settings first db)).2.drivers.rows := later.drivers driver member available
  rw [unchanged] at standing
  exact missed driver standing eligible

theorem tick_misses_nothing (alone : env.Alone) {first rest : List Order}
    (located : env.orders db = first ++ order::rest)
    (returned : ∃ value, (env.run (DispatchLoop.evaluate settings order)
      (env.reached settings first db)).1 = .ok value)
    (opened : WindowOpen settings order.predictedReadyAt (env.clock (.gate order.id)))
    {row : Order}
    (present : row ∈ (env.run (DispatchLoop.runDispatchTick settings) db).2.orders.rows)
    (named : row.id = order.id) (unassigned : row.dispatchStatus ≠ .assigned) {driver : Driver}
    (member : driver ∈ (env.run (DispatchLoop.runDispatchTick settings) db).2.drivers.rows)
    (available : driver.Available) :
    ¬driver.Eligible (env.staleCutoff settings order.id) ∨
      (env.maps order.id driver.id).ok = false := by
  rw [run_runDispatchTick] at present member
  by_cases eligible : driver.Eligible (env.staleCutoff settings order.id)
  · exact Or.inr (reached_missed alone located returned opened present named unassigned member
      available eligible)
  · exact Or.inl eligible

def unheard : Driver := {Sample.driver 2 "2" with lastLocationAt := none}

def idleTables : Database :=
  Sample.database [Sample.driver 1 "1",unheard] [Sample.order 3]

theorem idle_misses_nothing :
    ¬unheard.Eligible (oneRoute.staleCutoff {} (Sample.order 3).id) ∨
      (oneRoute.maps (Sample.order 3).id unheard.id).ok = false := by
  have returned : ∃ value, (oneRoute.run (DispatchLoop.evaluate {} (Sample.order 3))
      (oneRoute.reached {} [] idleTables)).1 = .ok value := by
    have quiet : (oneRoute.run (DispatchLoop.evaluate {} (Sample.order 3))
        (oneRoute.reached {} [] idleTables)).1.toBool = true := by
      decide +kernel
    cases outcome : (oneRoute.run (DispatchLoop.evaluate {} (Sample.order 3))
        (oneRoute.reached {} [] idleTables)).1 with
    | ok value => exact ⟨value,rfl⟩
    | error error =>
      rw [outcome] at quiet
      contradiction
  exact tick_misses_nothing (fun _ _ _ => rfl)
    (by decide +kernel : oneRoute.orders idleTables = [] ++ Sample.order 3::[]) returned
    (by decide +kernel)
    (by decide +kernel : Sample.order 3 ∈
      (oneRoute.run (DispatchLoop.runDispatchTick {}) idleTables).2.orders.rows)
    rfl (by decide +kernel)
    (by decide +kernel : unheard ∈
      (oneRoute.run (DispatchLoop.runDispatchTick {}) idleTables).2.drivers.rows)
    (by decide +kernel)

end Surroundings
end FoodDispatch
