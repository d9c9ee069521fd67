import FoodDispatch.Effects
import FoodDispatch.Footprints
import FoodDispatch.Library.Sequential
import FoodDispatch.Throughput

/-! Ticks that nobody interrupts. What a loop can do from the start of a tick to its end,
if its calls do not fail and no other thread moves, is what the sequential reading of
the tick does with some surroundings. -/
namespace FoodDispatch
open Library
open Library.Program

theorem Call.respond_quiet (request : Call) {note : Note} {shared : Shared}
    (quiet : note.fault = .none) :
    request.respond note shared =
      (request.answer note shared.db).map (fun done => (done.1,⟨done.2,note.now⟩)) := by
  unfold Call.respond
  rw [quiet]

abbrev Served := Exchange Call Reply PyException Shared

namespace Served

/-- The call was answered, and nothing failed. -/
def Faultless (served : Served) : Prop :=
  ∃ note, note.fault = .none ∧
    served.request.respond note served.before = some (served.reply,served.after)

def orders? (served : Served) : Option (List Order) :=
  match served with
  | ⟨.fetchActionableOrders,_,.ok orders,_⟩ => some orders
  | _ => none

def drivers? (served : Served) : Option (List Driver) :=
  match served with
  | ⟨.selectCandidates _ _,_,.ok drivers,_⟩ => some drivers
  | _ => none

def eta? (served : Served) : Option RouteETAResult :=
  match served with
  | ⟨.getDrivingEta _ _ _ _,_,.ok eta,_⟩ => some eta
  | _ => none

theorem Faultless.answer {served : Served} (faultless : served.Faultless) :
    ∃ note, note.now = served.after.clock ∧
      served.request.answer note served.before.db = some (served.reply,served.after.db) := by
  rcases served with ⟨request,before,reply,after⟩
  obtain ⟨note,fault,done⟩ := faultless
  refine ⟨note,(Call.respond_clock done).symm,?_⟩
  rw [Call.respond_quiet request fault] at done
  obtain ⟨⟨said,db⟩,answered,same⟩ := Option.map_eq_some_iff.mp done
  obtain ⟨told,shared⟩ := Prod.mk.inj same
  change said = reply at told
  rw [← told,← shared]
  exact answered

theorem Faultless.distinct {served : Served} (faultless : served.Faultless) :
    Call.Distinct served.request served.reply := by
  rcases served with ⟨request,before,reply,after⟩
  obtain ⟨note,_,done⟩ := faultless
  cases reply with
  | error error => cases request <;> exact trivial
  | ok value =>
    cases request with
    | fetchActionableOrders =>
      have permuted := (Call.respond_fetch done).2 value rfl
      exact (permuted.map Order.id).nodup_iff.mpr
        (before.db.orders.keyed.sublist (List.filter_sublist.map _))
    | selectCandidates order cutoff =>
      have permuted := (Call.respond_select done).1
      exact (permuted.map Driver.id).nodup_iff.mpr
        (before.db.drivers.keyed.sublist (List.filter_sublist.map _))
    | _ => exact trivial

end Served

/-- Rows in the order in which they were returned, if these are the rows. -/
def inOrder {Row : Type} [DecidableEq Row] (told : Option (List Row)) (rows : List Row) : List Row :=
  match told with
  | some order => if order.Perm rows then order else rows
  | none => rows

theorem inOrder_perm {Row : Type} [DecidableEq Row] (told : Option (List Row)) (rows : List Row) :
    (inOrder told rows).Perm rows := by
  unfold inOrder
  split
  · split
    next permuted => exact permuted
    next => exact .refl rows
  · exact .refl rows

theorem inOrder_told {Row : Type} [DecidableEq Row] {order rows : List Row}
    (permuted : order.Perm rows) : inOrder (some order) rows = order := if_pos permuted

/-- The exchange with this key. -/
def lookup (served : List Served) (key : Key) : Option Served :=
  served.find? (fun exchange => exchange.request.key = key)

theorem lookup_mem {served : List Served}
    (distinct : (served.map (fun exchange => exchange.request.key)).Nodup) {exchange : Served}
    (member : exchange ∈ served) : lookup served exchange.request.key = some exchange := by
  cases searched : lookup served exchange.request.key with
  | none => simpa using List.find?_eq_none.mp searched exchange member
  | some found =>
    have same : found.request.key = exchange.request.key := by
      simpa using List.find?_some searched
    rw [List.inj_on_of_nodup_map distinct (List.mem_of_find?_eq_some searched) member same]

namespace Surroundings

/-- Surroundings that answer as in these exchanges. A clock that was not read stands
where it stood at the beginning. -/
def replay (served : List Served) (begun : ℤ) (maps : UUID → UUID → RouteETAResult) :
    Surroundings where
  clock site := ((lookup served (.now site)).map (fun exchange => exchange.after.clock)).getD begun
  lockedAt order driver :=
    ((lookup served (.lock order driver)).map (fun exchange => exchange.after.clock)).getD begun
  maps := maps
  orders db := inOrder ((lookup served .fetch).bind Served.orders?) db.actionableOrders
  drivers order staleCutoff db :=
    inOrder ((lookup served (.select order)).bind Served.drivers?) (db.candidates staleCutoff)
  others _ _ db := db
  fetched _ := inOrder_perm _ _
  found _ _ _ := inOrder_perm _ _

/-- The clock as a call reads it. -/
def reading (env : Surroundings) : Call → Option ℤ
  | .now site => some (env.clock site)
  | .attemptAtomicAssignment order driver => some (env.lockedAt order driver)
  | _ => none

/-- The exchange is one with these surroundings. -/
structure Reads (env : Surroundings) (served : Served) : Prop where
  handled : env.handle served.request served.before.db = (served.reply,served.after.db)
  reading : ∀ time ∈ env.reading served.request, time = served.after.clock

/-- The routes that were asked for are these. -/
def Maps (maps : UUID → UUID → RouteETAResult) (served : Served) : Prop :=
  ∀ order driver origin destination before reply after,
    served = ⟨.getDrivingEta order driver origin destination,before,reply,after⟩ →
      reply = .ok (maps order driver)

/-- The routes as they were answered. -/
def answeredRoutes (served : List Served) (order driver : UUID) : RouteETAResult :=
  ((lookup served (.route order driver)).bind Served.eta?).getD (.failure (.text ""))

theorem answeredRoutes_told {served : List Served}
    (distinct : (served.map (fun exchange => exchange.request.key)).Nodup) {exchange : Served}
    (member : exchange ∈ served) (faultless : exchange.Faultless) :
    Maps (answeredRoutes served) exchange := by
  rintro order driver origin destination before reply after rfl
  have found := lookup_mem distinct member
  obtain ⟨note,_,answered⟩ := faultless.answer
  obtain ⟨told,_⟩ := Prod.mk.inj (Option.some.inj answered)
  change .ok note.eta = reply at told
  subst told
  unfold answeredRoutes
  rw [show lookup served (.route order driver) = _ from found]
  rfl

theorem replay_reads {served : List Served} {begun : ℤ} {maps : UUID → UUID → RouteETAResult}
    (distinct : (served.map (fun exchange => exchange.request.key)).Nodup) {exchange : Served}
    (member : exchange ∈ served) (faultless : exchange.Faultless) (told : Maps maps exchange) :
    (replay served begun maps).Reads exchange := by
  have found := lookup_mem distinct member
  obtain ⟨note,now,answered⟩ := faultless.answer
  rcases exchange with ⟨request,before,reply,after⟩
  cases request with
  | now site =>
    obtain ⟨rfl,same⟩ := Prod.mk.inj (Option.some.inj answered)
    have clock : (replay served begun maps).clock site = after.clock := by
      change ((lookup served (.now site)).map _).getD begun = _
      rw [show lookup served (.now site) = _ from found]
      rfl
    refine ⟨?_,?_⟩
    · change (Except.ok ((replay served begun maps).clock site),before.db) = _
      rw [clock,same,now]
    · rintro time ⟨⟩
      exact clock
  | fetchActionableOrders =>
    obtain ⟨rfl,permuted,same⟩ := Call.answer_fetch answered
    refine ⟨?_,fun time read => by contradiction⟩
    change (Except.ok (inOrder ((lookup served .fetch).bind Served.orders?) _),before.db) = _
    rw [show lookup served .fetch = _ from found]
    change (Except.ok (inOrder (some note.orders) _),_) = (Except.ok note.orders,after.db)
    rw [inOrder_told permuted,same]
  | selectCandidates order cutoff =>
    obtain ⟨rfl,permuted,same⟩ := Call.answer_select answered
    refine ⟨?_,fun time read => by contradiction⟩
    change (Except.ok (inOrder ((lookup served (.select order)).bind Served.drivers?) _),before.db) = _
    rw [show lookup served (.select order) = _ from found]
    change (Except.ok (inOrder (some note.drivers) _),_) = (Except.ok note.drivers,after.db)
    rw [inOrder_told permuted,same]
  | getDrivingEta order driver origin destination =>
    obtain ⟨_,same⟩ := Prod.mk.inj (Option.some.inj answered)
    refine ⟨?_,fun time read => by contradiction⟩
    rw [told order driver origin destination before reply after rfl,← same]
    rfl
  | attemptAtomicAssignment order driver =>
    have clock : (replay served begun maps).lockedAt order driver = after.clock := by
      change ((lookup served (.lock order driver)).map _).getD begun = _
      rw [show lookup served (.lock order driver) = _ from found]
      rfl
    refine ⟨?_,?_⟩
    · change Call.commit (Transaction.attemptAtomicAssignment order driver
        ((replay served begun maps).lockedAt order driver)) before.db = _
      rw [clock,← now]
      exact Option.some.inj answered
    · rintro time ⟨⟩
      exact clock
  | _ => exact ⟨Option.some.inj answered,fun time read => by contradiction⟩

/-- The answers with the clock that they leave. -/
def timed (env : Surroundings) (request : Call) (shared : Shared) :
    Except PyException (Reply request) × Shared :=
  ((env.handle request shared.db).1,
    ⟨(env.handle request shared.db).2,(env.reading request).getD shared.clock⟩)

variable {env : Surroundings} {settings : Settings} {shared : Shared}

theorem run_timed (env : Surroundings) (program : Program Unit) (shared : Shared) :
    env.run program shared.db = ((Library.Program.run env.timed program shared).1,
      (Library.Program.run env.timed program shared).2.db) := by
  have follows := follows_exchanges env.timed program shared
  obtain ⟨ended,reached,_⟩ := follows.simulated env.handle (fun timed db => timed.db = db)
    (fun _ => True) rfl (by
      rintro exchange member here rfl
      have handled := exchanges_handled env.timed program shared exchange member
      obtain ⟨said,reached⟩ := Prod.mk.inj handled
      exact ⟨said,(congrArg Shared.db reached).symm,trivial⟩)
  exact Prod.ext ended reached.symm

def timedNote (env : Surroundings) (request : Call) (shared : Shared) : Note :=
  {env.note shared.db request with now := (env.timed request shared).2.clock}

theorem timedNote_quiet (env : Surroundings) (request : Call) (shared : Shared) :
    (env.timedNote request shared).fault = .none := by
  cases request <;> rfl

theorem answer_timed (alone : env.Alone) (request : Call) (shared : Shared) :
    request.answer (env.timedNote request shared) shared.db =
      some (env.handle request shared.db) := by
  have answered := env.handle_answers request shared.db
  cases request with
  | fetchActionableOrders => exact if_pos (env.fetched shared.db)
  | selectCandidates order staleCutoff => exact if_pos (env.found order staleCutoff shared.db)
  | attemptAtomicAssignment order driver =>
    change _ = some (Call.commit _ (env.others order driver shared.db))
    rw [alone]
    rfl
  | _ => rfl

theorem respond_timed (alone : env.Alone) (request : Call) (shared : Shared) :
    ∃ note, note.fault = .none ∧ request.respond note shared = some (env.timed request shared) := by
  have quiet := env.timedNote_quiet request shared
  refine ⟨env.timedNote request shared,quiet,?_⟩
  rw [Call.respond_quiet request quiet,answer_timed alone]
  rfl

end Surroundings

section
variable {Thread Action : Type} [DecidableEq Thread]

/-- From `start` on the thread alone makes its calls, without a failure, until it has ended. -/
structure Uninterrupted (settings : Settings) (loops : Thread → Prop)
    (writes : Action → Database → Database → Prop) (thread : Thread)
    (start : System.State Call Reply PyException Shared Thread) (trace : List (Move Thread Action))
    (state : System.State Call Reply PyException Shared Thread) : Prop where
  run : Execution (deployment settings loops writes).Step start trace state
  alone : ∀ move ∈ trace, ∃ request note reply, note.fault = .none ∧
    move.label = .call thread request note reply
  ended : state.threads thread = .done (.ok ())

variable {settings : Settings} {loops : Thread → Prop} {thread : Thread}
variable {writes : Action → Database → Database → Prop} {trace : List (Move Thread Action)}
variable {start state : System.State Call Reply PyException Shared Thread}

namespace Uninterrupted

theorem served (stretch : Uninterrupted settings loops writes thread start trace state) :
    ∀ exchange ∈ trace.filterMap System.exchange?, Served.Faultless exchange ∧
      ∃ move ∈ trace, exchange.after = move.after.shared := by
  intro exchange member
  obtain ⟨move,inside,same⟩ := List.mem_filterMap.mp member
  obtain ⟨request,note,reply,quiet,label⟩ := stretch.alone move inside
  have done := move_call (stretch.run.step_of_mem inside) label
  rcases move with ⟨before,taken,after⟩
  change taken = _ at label
  subst label
  cases same
  exact ⟨⟨note,quiet,done⟩,_,inside,rfl⟩

theorem follows (stretch : Uninterrupted settings loops writes thread start trace state)
    (begins : start.threads thread = DispatchLoop.runDispatchTick settings) :
    Follows (DispatchLoop.runDispatchTick settings) start.shared (trace.filterMap System.exchange?)
      (.ok (),state.shared) := by
  rw [← begins]
  apply System.follows_uninterrupted stretch.run _ stretch.ended
  intro move member
  obtain ⟨request,note,reply,_,label⟩ := stretch.alone move member
  exact ⟨request,note,reply,label⟩

theorem distinct (stretch : Uninterrupted settings loops writes thread start trace state)
    (begins : start.threads thread = DispatchLoop.runDispatchTick settings) :
    ((trace.filterMap System.exchange?).map (fun served : Served => served.request.key)).Nodup :=
  ((stretch.follows begins).spends runDispatchTick_spends
    (fun exchange member => (stretch.served exchange member).1.distinct)).1

theorem maps (stretch : Uninterrupted settings loops writes thread start trace state)
    {maps : UUID → UUID → RouteETAResult}
    (told : ∀ move ∈ trace, ∀ order driver origin destination note reply,
      move.label = .call thread (.getDrivingEta order driver origin destination) note reply →
        reply = .ok (maps order driver)) :
    ∀ exchange ∈ trace.filterMap System.exchange?, Surroundings.Maps maps exchange := by
  rintro exchange member order driver origin destination before reply after rfl
  obtain ⟨move,inside,same⟩ := List.mem_filterMap.mp member
  obtain ⟨request,note,said,_,label⟩ := stretch.alone move inside
  have heard := told move inside order driver origin destination
  rcases move with ⟨earlier,taken,later⟩
  change taken = _ at label
  subst label
  cases same
  exact heard note _ rfl

/-- The tick is the sequential one, with surroundings that answer as it was answered. If
the clock went forward, each reading of it lies between the beginning and the end. -/
theorem replayed (stretch : Uninterrupted settings loops writes thread start trace state)
    (begins : start.threads thread = DispatchLoop.runDispatchTick settings)
    {maps : UUID → UUID → RouteETAResult}
    (told : ∀ exchange ∈ trace.filterMap System.exchange?, Surroundings.Maps maps exchange) :
    ∃ env : Surroundings, env.Alone ∧ env.maps = maps ∧
      (Forward trace → ∀ site,
        start.shared.clock ≤ env.clock site ∧ env.clock site ≤ state.shared.clock) ∧
        env.run (DispatchLoop.runDispatchTick settings) start.shared.db = (.ok (),state.shared.db) := by
  have distinct := stretch.distinct begins
  let env := Surroundings.replay (trace.filterMap System.exchange?) start.shared.clock maps
  have reads : ∀ exchange ∈ trace.filterMap System.exchange?, env.Reads exchange :=
    fun exchange member => Surroundings.replay_reads distinct member (stretch.served exchange member).1
      (told exchange member)
  obtain ⟨ended,same,_⟩ := (stretch.follows begins).simulated env.timed
    (fun shared timed => timed.db = shared.db) (fun _ => True) rfl (by
      rintro exchange member here same
      unfold Surroundings.timed
      rw [same,(reads exchange member).handled]
      exact ⟨rfl,rfl,trivial⟩)
  refine ⟨env,fun _ _ _ => rfl,rfl,fun forward site => ?_,?_⟩
  · change _ ≤ ((lookup _ _).map _).getD _ ∧ ((lookup _ _).map _).getD _ ≤ _
    obtain ⟨rises,between⟩ := stretch.run.between (fun reached => reached.shared.clock) forward
    cases searched : lookup (trace.filterMap System.exchange?) (.now site) with
    | none => exact ⟨le_rfl,rises⟩
    | some exchange =>
      obtain ⟨_,move,inside,same⟩ := stretch.served exchange (List.mem_of_find?_eq_some searched)
      change _ ≤ exchange.after.clock ∧ exchange.after.clock ≤ _
      rw [same]
      exact between move inside
  · rw [Surroundings.run_timed,ended,same]

end Uninterrupted

/-- Ticks that nobody interrupts, of a loop that has just been started on one, leave the
tables that the sequential reading leaves with some surroundings. -/
theorem uninterrupted_iff (settings : Settings) (loops : Thread → Prop)
    (writes : Action → Database → Database → Prop) (thread : Thread) (shared : Shared)
    (threads : Thread → Program Unit) (db : Database) :
    (∃ (trace : List (Move Thread Action)) (state : System.State Call Reply PyException Shared Thread),
      Uninterrupted settings loops writes thread
          ⟨shared,Function.update threads thread (DispatchLoop.runDispatchTick settings)⟩ trace state ∧
        state.shared.db = db) ↔
    ∃ env : Surroundings,
      env.Alone ∧ (env.run (DispatchLoop.runDispatchTick settings) shared.db).2 = db := by
  constructor
  · rintro ⟨trace,state,stretch,rfl⟩
    have begins : (Function.update threads thread (DispatchLoop.runDispatchTick settings)) thread =
        DispatchLoop.runDispatchTick settings := Function.update_self ..
    have told : ∀ exchange ∈ trace.filterMap System.exchange?,
        Surroundings.Maps (Surroundings.answeredRoutes (trace.filterMap System.exchange?)) exchange :=
      fun exchange member => Surroundings.answeredRoutes_told (stretch.distinct begins) member
        (stretch.served exchange member).1
    obtain ⟨env,alone,_,_,ran⟩ := stretch.replayed begins told
    exact ⟨env,alone,congrArg Prod.snd ran⟩
  · rintro ⟨env,alone,rfl⟩
    let tick := DispatchLoop.runDispatchTick settings
    have answered : ∀ exchange ∈ exchanges env.timed tick shared, ∃ note, note.fault = .none ∧
        (deployment settings loops writes).respond exchange.request note exchange.before =
          some (exchange.reply,exchange.after) := by
      intro exchange member
      rw [← exchanges_handled env.timed tick shared exchange member]
      exact Surroundings.respond_timed alone exchange.request exchange.before
    obtain ⟨trace,last,run,reached,ended,only⟩ := System.realises tick
      ⟨shared,Function.update threads thread tick⟩ (Function.update_self ..) answered
    have same := env.run_timed tick shared
    have fine : (env.run tick shared.db).1 = .ok () :=
      congrArg Prod.fst (DispatchLoop.run_runDispatchTick_ok settings rfl)
    refine ⟨trace,last,⟨run,?_,?_⟩,?_⟩
    · intro move member
      obtain ⟨request,note,reply,quiet,label⟩ := only move member
      exact ⟨request,note,reply,quiet,label⟩
    · rw [ended,← fine,same]
    · rw [reached,same]

/-- From the beginning of a tick to its end the window of the order is open, the stale
cutoff is a datetime and the driver's place is fresh, and there is a route. -/
def FitsThroughout (settings : Settings) (maps : UUID → UUID → RouteETAResult) (begun ended : ℤ)
    (order : Order) (driver : Driver) : Prop :=
  (∀ time, begun ≤ time → time ≤ ended →
    PrepEstimator.WindowOpen settings order.predictedReadyAt time ∧ CutoffInRange settings time) ∧
    driver.Eligible (ended - minutes settings.driverStaleThresholdMinutes) ∧
      (maps order.id driver.id).ok = true

theorem FitsThroughout.fits {env : Surroundings} {begun ended : ℤ} {order : Order} {driver : Driver}
    (fits : FitsThroughout settings env.maps begun ended order driver)
    (within : ∀ site, begun ≤ env.clock site ∧ env.clock site ≤ ended) :
    env.fits settings order driver := by
  obtain ⟨opened,⟨available,⟨seen,last,fresh⟩,placed⟩,route⟩ := fits
  obtain ⟨early,late⟩ := within (.gate order.id)
  obtain ⟨begins,ends⟩ := within (.staleCutoff order.id)
  refine ⟨(opened _ early late).1,(opened _ begins ends).2,⟨available,⟨seen,last,?_⟩,placed⟩,route⟩
  unfold Surroundings.staleCutoff
  omega

/-- However the orders that wait when such a tick begins might be given to drivers that
are free then and can serve them throughout, the tick assigns at least half as many. -/
theorem uninterrupted_half
    (stretch : Uninterrupted settings loops writes thread start trace state)
    (begins : start.threads thread = DispatchLoop.runDispatchTick settings)
    (forward : Forward trace) (located : start.shared.db.Located) {maps : UUID → UUID → RouteETAResult}
    (told : ∀ move ∈ trace, ∀ order driver origin destination note reply,
      move.label = .call thread (.getDrivingEta order driver origin destination) note reply →
        reply = .ok (maps order driver))
    (answers : ∀ order ∈ start.shared.db.actionableOrders, ∀ driver ∈ start.shared.db.drivers.rows,
      driver.Available → (maps order.id driver.id).ok = true →
        ∃ etaMinutes, (maps order.id driver.id).durationMinutes = .ok (some etaMinutes)) :
    ∀ pairs : Finset (Order × Driver),
      Feasible (FitsThroughout settings maps start.shared.clock state.shared.clock)
          start.shared.db.actionableOrders start.shared.db.free pairs →
        pairs.card ≤ 2 * (start.shared.db.handed state.shared.db).card := by
  intro pairs feasible
  obtain ⟨env,alone,rfl,within,ran⟩ := stretch.replayed begins (stretch.maps told)
  have serves : env.Serves settings start.shared.db pairs :=
    ⟨feasible.listed,feasible.left,fun pair member => (feasible.suits pair member).fits (within forward),
      feasible.oneTask,feasible.oneResource⟩
  have bound := Surroundings.assignedPairs_half alone answers located serves
  unfold Surroundings.assignedPairs at bound
  rwa [ran] at bound

end

namespace Sample

/-- The loop makes a call that does not fail, and if it asks for a route, it is 60 seconds. -/
def quietly (move : Move Bool Empty) : Bool :=
  match move.label with
  | .call true (.getDrivingEta _ _ _ _) note (.ok ⟨true,some 60,some 1000,none⟩) => note.fault = .none
  | .call true (.getDrivingEta _ _ _ _) _ _ => false
  | .call true _ note _ => note.fault = .none
  | _ => false

theorem quietly_alone {move : Move Bool Empty} (quiet : quietly move = true) :
    ∃ request note reply, note.fault = .none ∧ move.label = .call true request note reply := by
  unfold quietly at quiet
  split at quiet
  next label => exact ⟨_,_,_,of_decide_eq_true quiet,label⟩
  next => contradiction
  next label => exact ⟨_,_,_,of_decide_eq_true quiet,label⟩
  next => contradiction

theorem quietly_told {move : Move Bool Empty} (quiet : quietly move = true) {order driver : UUID}
    {origin destination : LatLng} {note : Note} {reply : Except PyException RouteETAResult}
    (label : move.label = .call true (.getDrivingEta order driver origin destination) note reply) :
    reply = .ok (.success 60 1000) := by
  unfold quietly at quiet
  rw [label] at quiet
  split at quiet
  next same => cases same; rfl
  next => contradiction
  next other same => cases same; exact absurd HEq.rfl (other _ _ _ _ _ rfl)
  next => contradiction

/-- A tick with one driver for two orders. -/
def uninterrupted : List (System.Move Shared Note Bool Job Empty) :=
  [.answer true {note 0 with orders := [order 3,order 4]}] ++
    evaluation true 0 [driver 1 "1"] (id 1) ++
  [.answer true (note 0),.answer true (note 0),.answer true (note 0)]

def ticking : System.State Call Reply PyException Shared Bool :=
  ⟨⟨Surroundings.twoOrders,0⟩,
    Function.update (fun _ => .done (.ok ())) true (DispatchLoop.runDispatchTick {})⟩

def isDone (program : Program Unit) : Bool :=
  match program with
  | .done (.ok ()) => true
  | _ => false

theorem uninterrupted_replayed :
    ((System.replay (deployment {} (· = true) nobody) uninterrupted ticking).map (fun done =>
      (done.1.all quietly,decide (Forward done.1),isDone (done.2.threads true),
        decide (Surroundings.twoOrders.handed done.2.shared.db = {(order 3,driver 1 "1")})))) =
      some (true,true,true,true) := by
  decide +kernel

theorem uninterrupted_serves :
    ∃ (trace : List (Move Bool Empty)) (state : System.State Call Reply PyException Shared Bool),
      Uninterrupted {} (· = true) nobody true ticking trace state ∧
      Surroundings.twoOrders.handed state.shared.db = {(order 3,driver 1 "1")} ∧
      ∀ pairs, Feasible (FitsThroughout {} (fun _ _ => .success 60 1000) 0 state.shared.clock)
          Surroundings.twoOrders.actionableOrders Surroundings.twoOrders.free pairs →
        pairs.card ≤ 2 * (Surroundings.twoOrders.handed state.shared.db).card := by
  obtain ⟨⟨trace,state⟩,replayed,said⟩ := Option.map_eq_some_iff.mp uninterrupted_replayed
  simp only [Prod.mk.injEq,List.all_eq_true,decide_eq_true_eq] at said
  obtain ⟨quiet,forward,done,handed⟩ := said
  have ended : state.threads true = .done (.ok ()) := by
    unfold isDone at done
    split at done
    next ended => exact ended
    next => contradiction
  have stretch : Uninterrupted {} (· = true) nobody true ticking trace state :=
    ⟨System.replay_execution replayed,fun move member => quietly_alone (quiet move member),ended⟩
  have answers : ∀ order ∈ Surroundings.twoOrders.actionableOrders,
      ∀ driver ∈ Surroundings.twoOrders.drivers.rows, driver.Available →
        (RouteETAResult.success 60 1000).ok = true →
          ∃ etaMinutes, (RouteETAResult.success 60 1000).durationMinutes = .ok (some etaMinutes) :=
    fun _ _ _ _ _ _ => ⟨_,RouteETAResult.durationMinutes_success 1000 (by decide +kernel)⟩
  refine ⟨trace,state,stretch,handed,?_⟩
  exact uninterrupted_half stretch rfl forward (by decide +kernel)
    (fun move member _ _ _ _ _ _ label => quietly_told (quiet move member) label) answers

end Sample
end FoodDispatch
