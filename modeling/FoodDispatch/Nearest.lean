import FoodDispatch.Library.Ranking
import FoodDispatch.Isolation
import FoodDispatch.Tick

/-! The nearest driver that can still be had. Candidates are tried in the order of
their driving time, each once, until the first that is available at its own lock;
what other writers do between two locks is arbitrary. -/
namespace FoodDispatch
open Library
open Library.Program (exchanges exchanges_bind exchanges_perform exchanges_after exchanges_only
  run_foldl run_perform)
open ScoringEngine

abbrev Exchanged := Exchange Call Reply PyException Database

/-- The driver that the call tries to lock. -/
def attempted (exchange : Exchanged) : Option UUID :=
  match exchange.request with
  | .attemptAtomicAssignment _ driver => some driver
  | _ => none

theorem attempted_eq {order driver : UUID} {exchange : Exchanged}
    (attempt : exchange.request = .attemptAtomicAssignment order driver) :
    attempted exchange = some driver := by
  unfold attempted
  rw [attempt]

namespace Surroundings
variable (env : Surroundings)

/-- The tables that the call itself meets, after the other writers. -/
def met (exchange : Exchanged) : Database := env.before exchange.request exchange.before

def Silent (exchange : Exchanged) : Prop := exchange.after = env.met exchange

structure Missed (order driver : UUID) (exchange : Exchanged) : Prop where
  attempt : exchange.request = .attemptAtomicAssignment order driver
  unavailable : ¬(env.met exchange).DriverAvailable driver
  silent : env.Silent exchange

/-- The lock found the driver available. It wrote two columns of the driver's row and
three of the order's, and left every other column and row as it was. -/
structure Won (order driver : UUID) (exchange : Exchanged) : Prop where
  attempt : exchange.request = .attemptAtomicAssignment order driver
  available : (env.met exchange).DriverAvailable driver
  known : order ∈ (env.met exchange).orders.keys
  drivers : exchange.after.drivers.rows = (env.met exchange).drivers.rows.map (fun row =>
    if row.id = driver then {row with status := .onlineBusy,currentOrderId := some order} else row)
  orders : exchange.after.orders.rows = (env.met exchange).orders.rows.map (fun row =>
    if row.id = order then {row with
      dispatchStatus := .assigned
      assignedDriverId := some driver
      assignedAt := some (env.lockedAt order driver)} else row)

inductive Tried (order : UUID) :
    List Driver → List Exchanged → Except PyException Bool × Database → Prop
  | exhausted (db) : Tried order [] [] (.ok false,db)
  | won (driver rest exchange) (won : env.Won order driver.id exchange) :
      Tried order (driver::rest) [exchange] (.ok true,exchange.after)
  | missed {rest others outcome} (driver exchange) (missed : env.Missed order driver.id exchange)
      (later : Tried order rest others outcome) :
      Tried order (driver::rest) (exchange::others) outcome

/-- No other writer deletes the order. -/
def Keeps (order : UUID) : Prop :=
  ∀ driver db, order ∈ db.orders.keys → order ∈ (env.others order driver db).orders.keys

variable {env} {settings : Settings} {order : Order} {db : Database}

theorem Won.of_assigned {id driver : UUID} {exchange : Exchanged}
    (attempt : exchange.request = .attemptAtomicAssignment id driver)
    (assigned : (env.met exchange).Assigned exchange.after id driver (env.lockedAt id driver)) :
    env.Won id driver exchange where
  attempt := attempt
  available := assigned.available
  known := assigned.known
  drivers := by
    rw [assigned.drivers]
    simp [Table.update,Driver.assign]
  orders := by
    rw [assigned.orders]
    simp [Table.update,Order.assign]

theorem exchanges_tryCandidates_cons (candidate : ScoredCandidate) (rest : List ScoredCandidate)
    (db : Database) :
    exchanges env.handle (tryCandidates order (candidate::rest)) db =
      (⟨.attemptAtomicAssignment order.id candidate.driver.id,db,
        (env.handle (.attemptAtomicAssignment order.id candidate.driver.id) db).1,
        (env.handle (.attemptAtomicAssignment order.id candidate.driver.id) db).2⟩ : Exchanged) ::
        match env.handle (.attemptAtomicAssignment order.id candidate.driver.id) db with
        | (.ok false,next) => exchanges env.handle (tryCandidates order rest) next
        | _ => [] := by
  have split : exchanges env.handle (tryCandidates order (candidate::rest)) db =
      exchanges env.handle
        (Library.Program.perform
            (Call.attemptAtomicAssignment order.id candidate.driver.id) >>= fun assigned =>
          if assigned = true then pure true else tryCandidates order rest) db := rfl
  rw [split,exchanges_bind,exchanges_perform,run_perform]
  rcases env.handle (.attemptAtomicAssignment order.id candidate.driver.id) db with
    ⟨error | (_ | _),next⟩ <;> rfl

theorem tryCandidates_tried (kept : env.Keeps order.id) (scored : List ScoredCandidate)
    (known : order.id ∈ db.orders.keys) :
    env.Tried order.id (scored.map ScoredCandidate.driver)
      (exchanges env.handle (tryCandidates order scored) db)
      (env.run (tryCandidates order scored) db) := by
  induction scored generalizing db with
  | nil => exact .exhausted db
  | cons candidate rest ih =>
    have still : order.id ∈ (env.others order.id candidate.driver.id db).orders.keys :=
      kept candidate.driver.id db known
    rw [exchanges_tryCandidates_cons,run_tryCandidates_cons,List.map_cons]
    rcases env.handle_attempt_others order.id candidate.driver.id db with
      ⟨taken,outcome⟩ | ⟨unknown,_⟩ | ⟨next,outcome,assigned⟩
    · rw [outcome]
      exact .missed _ _ ⟨rfl,taken,rfl⟩ (ih still)
    · exact absurd still unknown
    · rw [outcome]
      exact .won _ _ _ (.of_assigned rfl assigned)

namespace Tried
variable {drivers : List Driver} {trace : List Exchanged} {id : UUID}
variable {outcome : Except PyException Bool × Database}

theorem cases (tried : env.Tried id drivers trace outcome) :
    (outcome.1 = .ok false ∧
      List.Forall₂ (fun driver exchange => env.Missed id driver.id exchange) drivers trace) ∨
    ∃ earlier winner later front last, drivers = earlier ++ winner::later ∧
      trace = front ++ [last] ∧ env.Won id winner.id last ∧ outcome = (.ok true,last.after) ∧
      List.Forall₂ (fun driver exchange => env.Missed id driver.id exchange) earlier front := by
  induction tried with
  | exhausted db => exact Or.inl ⟨rfl,.nil⟩
  | won driver rest exchange won => exact Or.inr ⟨[],driver,rest,[],exchange,rfl,rfl,won,rfl,.nil⟩
  | missed driver exchange missed later ih =>
    rcases ih with ⟨refused,all⟩ | ⟨earlier,winner,rest,front,last,split,traced,won,told,all⟩
    · exact Or.inl ⟨refused,.cons missed all⟩
    · exact Or.inr ⟨driver::earlier,winner,rest,exchange::front,last,by rw [split]; rfl,
        by rw [traced]; rfl,won,told,.cons missed all⟩

theorem attempted_sublist (tried : env.Tried id drivers trace outcome) :
    (trace.filterMap attempted).Sublist (drivers.map Driver.id) := by
  induction tried with
  | exhausted db => exact .slnil
  | won driver rest exchange won =>
    rw [List.filterMap_cons_some (attempted_eq won.attempt),List.map_cons]
    exact (List.nil_sublist _).cons_cons _
  | missed driver exchange missed later ih =>
    rw [List.filterMap_cons_some (attempted_eq missed.attempt),List.map_cons]
    exact ih.cons_cons _

theorem all_missed
    (all : List.Forall₂ (fun driver exchange => env.Missed id driver.id exchange) drivers trace) :
    trace.filterMap attempted = drivers.map Driver.id ∧
      (∀ driver ∈ drivers, ∃ exchange ∈ trace, env.Missed id driver.id exchange) ∧
      ∀ exchange ∈ trace, ∃ driver : Driver, env.Missed id driver.id exchange := by
  induction all with
  | nil => simp
  | @cons driver exchange rest others missed later ih =>
    obtain ⟨named,found,only⟩ := ih
    refine ⟨?_,?_,?_⟩
    · rw [List.filterMap_cons_some (attempted_eq missed.attempt),List.map_cons,named]
    · intro other member
      rcases List.mem_cons.mp member with rfl | later
      · exact ⟨exchange,by simp,missed⟩
      · obtain ⟨answer,present,fits⟩ := found other later
        exact ⟨answer,by simp [present],fits⟩
    · intro answer member
      rcases List.mem_cons.mp member with rfl | later
      · exact ⟨driver,missed⟩
      · exact only answer later

end Tried

section Ranking
variable (env)

def routed (order : UUID) (driver : Driver) : Bool := (env.maps order driver.id).ok

def seconds (order : UUID) (driver : Driver) : ℤ :=
  (env.maps order driver.id).durationSeconds.getD 0

def scoredAs (order : Order) (driver : Driver) : ScoredCandidate :=
  ⟨driver,env.seconds order.id driver / 60,computeScore (env.seconds order.id driver / 60)
    (env.clock (.score order.id)) order.predictedReadyAt⟩

variable {env} {candidates : List Driver}

theorem scoreOf_quiet {driver : Driver} (quiet : env.raises order.id driver = false) :
    env.scoreOf order driver =
      if env.routed order.id driver then some (env.scoredAs order driver) else none := by
  unfold raises at quiet
  simp only [Bool.or_eq_false_iff,Bool.not_eq_false',Bool.and_eq_false_iff] at quiet
  obtain ⟨accepted,usable⟩ := quiet
  unfold scoreOf scorable routed
  cases route : (env.maps order.id driver.id).ok with
  | false => simp
  | true =>
    have found : (env.duration order.id driver).isNone = false := by
      simpa [route] using usable
    unfold scoredAs seconds
    unfold duration RouteETAResult.durationMinutes at found ⊢
    cases stated : (env.maps order.id driver.id).durationSeconds with
    | none =>
      rw [stated] at found
      contradiction
    | some seconds =>
      rw [stated] at found
      cases fits : RouteETAResult.fitsDouble seconds with
      | false => simp [fits] at found
      | true => simp [fits,accepted]

theorem scoreOf_filterMap (quiet : ∀ driver ∈ candidates, env.raises order.id driver = false) :
    candidates.filterMap (env.scoreOf order) =
      (candidates.filter (env.routed order.id)).map (env.scoredAs order) := by
  induction candidates with
  | nil => rfl
  | cons driver rest ih =>
    have first := scoreOf_quiet (quiet driver (by simp))
    have later := ih (fun other member => quiet other (by simp [member]))
    cases route : env.routed order.id driver with
    | false =>
      rw [route,if_neg Bool.false_ne_true] at first
      rw [List.filterMap_cons_none first,List.filter_cons_of_neg (by simp [route]),later]
    | true =>
      rw [route,if_pos rfl] at first
      rw [List.filterMap_cons_some first,List.filter_cons_of_pos route,List.map_cons,later]

/-- Ranked by score is ranked by driving time. -/
theorem sorted_ranked (order : Order) (drivers : List Driver) :
    (sorted (drivers.map (env.scoredAs order))).map ScoredCandidate.driver =
      ranked (env.seconds order.id) drivers := by
  have rises : StrictMono (fun seconds : ℤ => computeScore (seconds / 60)
      (env.clock (.score order.id)) order.predictedReadyAt) :=
    fun _ _ shorter => computeScore_lt _ _ shorter
  have same : (ranked (env.seconds order.id) drivers).map (env.scoredAs order) =
      sorted (drivers.map (env.scoredAs order)) := by
    apply List.map_insertionSort
    intro first _ second _
    exact (rises.le_iff_le).symm
  rw [← same,List.map_map]
  exact List.map_id _

end Ranking

theorem exchanges_assignAmong (db : Database) {candidates : List Driver}
    (valid : LatLng.accepts (some order.restaurantLat) (some order.restaurantLng) = true)
    (quiet : ∀ driver ∈ candidates, env.raises order.id driver = false) :
    ∃ reads : List Exchanged, (∀ exchange ∈ reads, exchange.request.Reads) ∧
      exchanges env.handle (assignAmong order candidates) db = reads ++
        exchanges env.handle
          (tryCandidates order (sorted (candidates.filterMap (env.scoreOf order)))) db := by
  have routes : ∀ exchange ∈ exchanges env.handle (scoreCandidates order candidates) db,
      exchange.request.Reads :=
    exchanges_only (scoreCandidates_obeys (unmoved_only fun _ read => read).scores order candidates) _ _
  have scored : env.run (scoreCandidates order candidates) db =
      (.ok (candidates.filterMap (env.scoreOf order)),db) := run_scoreCandidates_ok valid quiet
  unfold run at scored
  unfold assignAmong
  cases candidates with
  | nil => exact ⟨[],by simp,rfl⟩
  | cons driver rest =>
    refine ⟨exchanges env.handle (scoreCandidates order (driver::rest)) db,routes,?_⟩
    rw [List.isEmpty_cons,if_neg Bool.false_ne_true,exchanges_bind,scored]
    cases (driver::rest).filterMap (env.scoreOf order) with
    | nil => rfl
    | cons candidate others =>
      dsimp only
      rw [List.isEmpty_cons,if_neg Bool.false_ne_true]

theorem exchanges_assignBestDriver (dated : env.Dated settings order.id)
    (valid : LatLng.accepts (some order.restaurantLat) (some order.restaurantLng) = true)
    (quiet : ∀ driver ∈ env.drivers order.id (env.staleCutoff settings order.id) db,
      env.raises order.id driver = false) :
    ∃ reads : List Exchanged, (∀ exchange ∈ reads, exchange.request.Reads) ∧
      exchanges env.handle (assignBestDriver settings order) db =
        reads ++ exchanges env.handle (tryCandidates order (sorted
          ((env.drivers order.id (env.staleCutoff settings order.id) db).filterMap
            (env.scoreOf order)))) db := by
  have split : exchanges env.handle (assignBestDriver settings order) db =
      exchanges env.handle (getCandidates settings order.id) db ++
        exchanges env.handle (assignAmong order
          (env.drivers order.id (env.staleCutoff settings order.id) db)) db := by
    have found : env.run (getCandidates settings order.id) db = _ := run_getCandidates dated
    unfold run at found
    unfold assignBestDriver
    rw [exchanges_bind,found]
  have queries : ∀ exchange ∈ exchanges env.handle (getCandidates settings order.id) db,
      exchange.request.Reads :=
    exchanges_only (getCandidates_obeys (unmoved_only fun _ read => read) settings order.id) _ _
  obtain ⟨reads,routes,rest⟩ := exchanges_assignAmong db valid quiet
  refine ⟨exchanges env.handle (getCandidates settings order.id) db ++ reads,?_,?_⟩
  · intro exchange member
    rcases List.mem_append.mp member with query | route
    · exact queries exchange query
    · exact routes exchange route
  · rw [split,rest,List.append_assoc]

theorem reads_silent {exchange : Exchanged} (read : exchange.request.Reads)
    (after : exchange.after = (env.handle exchange.request exchange.before).2) :
    env.Silent exchange ∧ attempted exchange = none := by
  rcases exchange with ⟨request,before,reply,after'⟩
  cases request with
  | now | selectCandidates | getDrivingEta => exact ⟨after,rfl⟩
  | _ => contradiction

theorem queried_distinct (env : Surroundings) (order : UUID) (staleCutoff : ℤ) (db : Database) :
    ((env.drivers order staleCutoff db).map Driver.id).Nodup := by
  have kept : ((db.candidates staleCutoff).map Driver.id).Nodup :=
    List.Nodup.sublist (List.filter_sublist.map _) db.drivers.keyed
  exact ((env.found order staleCutoff db).map Driver.id).nodup_iff.mpr kept

/-- An evaluation and its trace: the candidates with a route are tried in the order
of their driving time until one is available at its own lock, and the lock that
succeeds is the only write. -/
structure Nearest (env : Surroundings) (order : UUID) (queried : List Driver) (db : Database)
    (trace : List Exchanged) (outcome : Except PyException Bool × Database) : Prop where
  returns : ∃ assigned, outcome.1 = .ok assigned
  assigns : outcome.1 = .ok true ↔ ∃ driver ∈ queried.filter (env.routed order),
    ∃ exchange ∈ trace, exchange.request = .attemptAtomicAssignment order driver.id ∧
      (env.met exchange).DriverAvailable driver.id
  once : (trace.filterMap attempted).Nodup
  refused : outcome.1 = .ok false →
    (∀ driver ∈ queried.filter (env.routed order),
      ∃ exchange ∈ trace, env.Missed order driver.id exchange) ∧
    (∀ exchange ∈ trace, env.Silent exchange) ∧
      outcome.2 = trace.foldl (fun reached exchange => env.before exchange.request reached) db
  assigned : outcome.1 = .ok true → ∃ winner ∈ queried.filter (env.routed order), ∃ front last,
    trace = front ++ [last] ∧ env.Won order winner.id last ∧ outcome.2 = last.after ∧
      (∀ exchange ∈ front, env.Silent exchange) ∧
      ∀ other ∈ queried.filter (env.routed order),
        (∃ exchange ∈ front, env.Missed order other.id exchange) ↔
          Precedes (env.seconds order) queried other winner

namespace Tried
variable {id : UUID} {queried : List Driver} {reads tries : List Exchanged}
variable {outcome : Except PyException Bool × Database}

theorem ranked_distinct (distinct : (queried.map Driver.id).Nodup) :
    ((ranked (env.seconds id) (queried.filter (env.routed id))).map Driver.id).Nodup := by
  have filtered : ((queried.filter (env.routed id)).map Driver.id).Nodup :=
    distinct.sublist (List.filter_sublist.map _)
  exact ((ranked_perm _).map Driver.id).nodup_iff.mpr filtered

theorem attempted_once (distinct : (queried.map Driver.id).Nodup)
    (tried : env.Tried id (ranked (env.seconds id) (queried.filter (env.routed id))) tries outcome)
    (reading : ∀ exchange ∈ reads, env.Silent exchange ∧ attempted exchange = none) :
    ((reads ++ tries).filterMap attempted).Nodup := by
  have unread : reads.filterMap attempted = [] :=
    List.filterMap_eq_nil_iff.mpr (fun exchange member => (reading exchange member).2)
  rw [List.filterMap_append,unread,List.nil_append]
  exact (ranked_distinct distinct).sublist tried.attempted_sublist

theorem nearest_refused (distinct : (queried.map Driver.id).Nodup)
    (tried : env.Tried id (ranked (env.seconds id) (queried.filter (env.routed id))) tries outcome)
    (reading : ∀ exchange ∈ reads, env.Silent exchange ∧ attempted exchange = none)
    (ends : (∀ exchange ∈ reads ++ tries, env.Silent exchange) → outcome.2 =
      (reads ++ tries).foldl (fun reached exchange => env.before exchange.request reached) db)
    (told : outcome.1 = .ok false)
    (all : List.Forall₂ (fun driver exchange => env.Missed id driver.id exchange)
      (ranked (env.seconds id) (queried.filter (env.routed id))) tries) :
    env.Nearest id queried db (reads ++ tries) outcome := by
  obtain ⟨_,found,only⟩ := all_missed all
  have silent : ∀ exchange ∈ reads ++ tries, env.Silent exchange := by
    intro exchange member
    rcases List.mem_append.mp member with read | attempt
    · exact (reading exchange read).1
    · obtain ⟨driver,missed⟩ := only exchange attempt
      exact missed.silent
  refine ⟨⟨false,told⟩,⟨?_,?_⟩,attempted_once distinct tried reading,fun _ => ⟨?_,silent,ends silent⟩,?_⟩
  · intro assigned
    rw [told] at assigned
    cases assigned
  · rintro ⟨driver,_,exchange,member,attempt,available⟩
    rcases List.mem_append.mp member with read | tried
    · have none := (reading exchange read).2
      rw [attempted_eq attempt] at none
      contradiction
    · obtain ⟨other,missed⟩ := only exchange tried
      have same : other.id = driver.id :=
        (Call.attemptAtomicAssignment.inj (missed.attempt.symm.trans attempt)).2
      exact absurd (same ▸ available) missed.unavailable
  · intro driver member
    obtain ⟨exchange,present,missed⟩ := found driver (mem_ranked.mpr member)
    exact ⟨exchange,List.mem_append_right _ present,missed⟩
  · intro assigned
    rw [told] at assigned
    cases assigned

theorem nearest_won (distinct : (queried.map Driver.id).Nodup)
    (tried : env.Tried id (ranked (env.seconds id) (queried.filter (env.routed id))) tries outcome)
    (reading : ∀ exchange ∈ reads, env.Silent exchange ∧ attempted exchange = none)
    {earlier later : List Driver} {winner : Driver} {front : List Exchanged} {last : Exchanged}
    (split : ranked (env.seconds id) (queried.filter (env.routed id)) = earlier ++ winner::later)
    (traced : tries = front ++ [last]) (won : env.Won id winner.id last)
    (told : outcome = (.ok true,last.after))
    (all : List.Forall₂ (fun driver exchange => env.Missed id driver.id exchange) earlier front) :
    env.Nearest id queried db (reads ++ tries) outcome := by
  obtain ⟨named,found,only⟩ := all_missed all
  have member : winner ∈ queried.filter (env.routed id) := mem_ranked.mp (by rw [split]; simp)
  have single : ∀ first ∈ queried, ∀ second ∈ queried, first.id = second.id → first = second :=
    fun first left second right same => List.inj_on_of_nodup_map distinct left right same
  have silent : ∀ exchange ∈ reads ++ front, env.Silent exchange := by
    intro exchange member
    rcases List.mem_append.mp member with read | attempt
    · exact (reading exchange read).1
    · obtain ⟨driver,missed⟩ := only exchange attempt
      exact missed.silent
  have before : ∀ other ∈ queried.filter (env.routed id),
      (∃ exchange ∈ reads ++ front, env.Missed id other.id exchange) ↔ other ∈ earlier := by
    intro other routed
    constructor
    · rintro ⟨exchange,present,missed⟩
      have attempt := attempted_eq missed.attempt
      rcases List.mem_append.mp present with read | here
      · rw [(reading exchange read).2] at attempt
        contradiction
      · have listed : other.id ∈ earlier.map Driver.id := by
          rw [← named]
          exact List.mem_filterMap.mpr ⟨exchange,here,attempt⟩
        obtain ⟨driver,tried,same⟩ := List.mem_map.mp listed
        have scored : driver ∈ queried.filter (env.routed id) :=
          mem_ranked.mp (by rw [split]; exact List.mem_append_left _ tried)
        rw [← single driver (List.mem_filter.mp scored).1 other (List.mem_filter.mp routed).1 same]
        exact tried
    · intro tried
      obtain ⟨exchange,present,missed⟩ := found other tried
      exact ⟨exchange,List.mem_append_right _ present,missed⟩
  refine ⟨⟨true,by rw [told]⟩,⟨fun _ => ?_,fun _ => by rw [told]⟩,
    attempted_once distinct tried reading,?_,fun _ => ?_⟩
  · refine ⟨winner,member,last,?_,won.attempt,won.available⟩
    rw [traced]
    simp
  · intro refused
    rw [told] at refused
    cases refused
  · refine ⟨winner,member,reads ++ front,last,by rw [traced,List.append_assoc],won,by rw [told],
      silent,fun other routed => ?_⟩
    rw [before other routed,mem_before_iff (distinct.of_map _ |>.sublist List.filter_sublist) split routed]
    exact precedes_filter (List.mem_filter.mp routed).2 (List.mem_filter.mp member).2

end Tried

theorem assignBestDriver_nearest (dated : env.Dated settings order.id)
    (valid : LatLng.accepts (some order.restaurantLat) (some order.restaurantLng) = true)
    (quiet : ∀ driver ∈ env.drivers order.id (env.staleCutoff settings order.id) db,
      env.raises order.id driver = false)
    (kept : env.Keeps order.id) (known : order.id ∈ db.orders.keys) :
    env.Nearest order.id (env.drivers order.id (env.staleCutoff settings order.id) db) db
      (exchanges env.handle (assignBestDriver settings order) db)
      (env.run (assignBestDriver settings order) db) := by
  have distinct := queried_distinct env order.id (env.staleCutoff settings order.id) db
  obtain ⟨reads,reading,traced⟩ := exchanges_assignBestDriver dated valid quiet
  have genuine := exchanges_after env.handle (assignBestDriver settings order) db
  have ran : env.run (assignBestDriver settings order) db = env.run (tryCandidates order (sorted
      ((env.drivers order.id (env.staleCutoff settings order.id) db).filterMap
        (env.scoreOf order)))) db :=
    (run_assignBestDriver dated).trans (run_assignAmong_ok valid quiet)
  have ends (silent : ∀ exchange ∈ exchanges env.handle (assignBestDriver settings order) db,
      env.Silent exchange) : (env.run (assignBestDriver settings order) db).2 =
        (exchanges env.handle (assignBestDriver settings order) db).foldl
          (fun reached exchange => env.before exchange.request reached) db := run_foldl silent
  have tried := tryCandidates_tried kept (sorted
    ((env.drivers order.id (env.staleCutoff settings order.id) db).filterMap
      (env.scoreOf order))) known
  rw [← ran,scoreOf_filterMap quiet,sorted_ranked] at tried
  rw [traced] at genuine ends ⊢
  have silent : ∀ exchange ∈ reads, env.Silent exchange ∧ attempted exchange = none :=
    fun exchange member => reads_silent (reading exchange member)
      (genuine exchange (List.mem_append_left _ member))
  rw [scoreOf_filterMap quiet] at ends ⊢
  rcases tried.cases with ⟨told,all⟩ | ⟨earlier,winner,later,front,last,split,ending,won,told,all⟩
  · exact Tried.nearest_refused distinct tried silent ends told all
  · exact Tried.nearest_won distinct tried silent split ending won told all

def rivalTables : Database :=
  Sample.database [Sample.driver 1 "1",Sample.driver 2 "2"] [Sample.order 3]

/-- The nearer driver is taken by somebody else before its lock. -/
def rival : Surroundings :=
  {Sample.surroundings (fun _ driver =>
      if driver = Sample.id 1 then .success 60 1000 else .success 120 2000) with
    others := fun _ driver db => if driver = Sample.id 1 then
      Sample.database [{Sample.driver 1 "1" with status := .onlineBusy},Sample.driver 2 "2"]
        [Sample.order 3] else db}

theorem rival_nearest :
    rival.Nearest (Sample.order 3).id
      (rival.drivers (Sample.order 3).id (rival.staleCutoff {} (Sample.order 3).id) rivalTables)
      rivalTables
      (exchanges rival.handle (assignBestDriver {} (Sample.order 3)) rivalTables)
      (rival.run (assignBestDriver {} (Sample.order 3)) rivalTables) := by
  have kept : rival.Keeps (Sample.order 3).id := by
    intro driver db known
    change _ ∈ (if driver = Sample.id 1 then _ else db).orders.keys
    split
    · decide +kernel
    · exact known
  exact assignBestDriver_nearest (by decide +kernel) (by decide +kernel) (by decide +kernel) kept
    (by decide +kernel)

end Surroundings
end FoodDispatch
