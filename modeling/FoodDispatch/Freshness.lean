import FoodDispatch.Heartbeats
import FoodDispatch.Walk

/-! How lately an assigned driver was seen. Heartbeats are compared with the clock by
the candidate query only; the lock that follows re-reads the status. So what holds at
the commit is that the query found the driver in time, and that its heartbeat is the
one found or was written since. -/
namespace FoodDispatch
open Library
open Library.Program

/-- What a thread last learned about the drivers near an order: the clock reading the
staleness is measured from, and then the candidates found. -/
inductive Sighting where
  | unread
  | read (order : UUID) (time : ℤ)
  | queried (order : UUID) (found : List Driver)

namespace Sighting
open ScoringEngine

/-- A call in between makes a reading of the clock too old for a query. -/
def passed : Sighting → Sighting
  | .read _ _ => .unread
  | sighting => sighting

def after : Sighting → (request : Call) → Except PyException (Reply request) → Sighting
  | _, .now (.staleCutoff order), .ok time => .read order time
  | _, .selectCandidates order _, .ok found => .queried order found
  | _, .selectCandidates _ _, .error _ => .unread
  | sighting, _, _ => sighting.passed

def monitor (settings : Settings) : Monitor Call Reply PyException Sighting where
  allows sighting
    | .selectCandidates order cutoff => ∃ time, sighting = .read order time ∧
        cutoff = time - minutes settings.driverStaleThresholdMinutes
    | .attemptAtomicAssignment order driver => ∃ found, sighting = .queried order found ∧
        driver ∈ found.map Driver.id
    | _ => True
  expects _ _ := True
  after := after

section Jobs
variable {settings : Settings} {sighting : Sighting} {order : Order} {found : List Driver}

theorem unmoved (id : UUID) : Unmoved Call.Scores (monitor settings) (.queried id found) := by
  intro request scores
  cases request with
  | now site => cases site <;> first | contradiction | exact ⟨trivial,fun reply => by cases reply <;> rfl⟩
  | getDrivingEta => exact ⟨trivial,fun reply => by cases reply <;> rfl⟩
  | _ => contradiction

/-- From the query on, what was found stands, and the drivers to try are among it. -/
def walk (order : Order) : Walk (monitor settings) settings order where
  enters _ := True
  evaluates _ := True
  holds _ := True
  finds found sighting := sighting = .queried order.id found
  tries scored sighting := ∃ found, sighting = .queried order.id found ∧
    ∀ candidate ∈ scored, candidate.driver ∈ found
  leaves _ := True
  gate _ _ := by
    refine ⟨trivial,fun reply _ => ?_⟩
    cases reply with
    | error error => exact trivial
    | ok now => exact of_eq_true (ite_self True)
  hold _ _ := ⟨trivial,fun _ _ => trivial⟩
  query _ _ := by
    apply getCandidates_rule settings order.id trivial (fun _ _ => trivial)
    refine fun now => ⟨⟨now,rfl,rfl⟩,fun reply _ => ?_⟩
    cases reply with
    | error error => exact trivial
    | ok found => exact rfl
  score := by
    rintro _ found rfl
    apply obeys_mono (obeys_yields (scoreCandidates_obeys (unmoved order.id) order found)
      (scoreCandidates_yields order found))
    rintro _ (error | scored) ⟨rfl,listed⟩
    · exact trivial
    · refine ⟨found,rfl,fun candidate member => (listed scored rfl).subset ?_⟩
      exact List.mem_map_of_mem ((List.perm_insertionSort _ scored).mem_iff.mp member)
  attempt := by
    rintro _ candidate rest ⟨found,rfl,among⟩
    refine ⟨⟨found,rfl,List.mem_map_of_mem (among candidate List.mem_cons_self)⟩,fun reply _ => ?_⟩
    rcases reply with error | (_ | _)
    · exact trivial
    · exact ⟨found,rfl,fun later member => among later (List.mem_cons_of_mem _ member)⟩
    · exact trivial
  unheld _ _ := trivial
  unfound _ _ _ := trivial
  untried _ _ _ := trivial

theorem body_obeys (job : Job) : (job.body settings).Obeys (monitor settings) (fun _ _ => True)
    sighting := by
  by_cases tick : job.isTick = true
  · cases job with
    | dispatchTick =>
      apply runDispatchTick_obeys (fun _ _ => True)
      · exact ⟨trivial,fun reply _ => by cases reply <;> exact trivial⟩
      · exact fun order _ _ _ => ⟨walk order,trivial,fun _ _ => trivial⟩
      · exact fun _ _ => trivial
    | _ => contradiction
  · apply Job.body_obeys (Bool.eq_false_of_not_eq_true tick)
    intro sighting request other
    cases request with
    | selectCandidates | attemptAtomicAssignment => exact absurd trivial other
    | _ => exact trivial

end Jobs
end Sighting

section
variable {Thread Action : Type} [DecidableEq Thread] {settings : Settings} {loops : Thread → Prop}

/-- The thread's last call was to read the clock for the candidates of the order. -/
def ReadLast (trace : List (Move Thread Action)) (thread : Thread) (order : UUID) (time : ℤ) : Prop :=
  ∃ first reading rest, trace = first ++ reading::rest ∧
    (∃ note, reading.label = .call thread (.now (.staleCutoff order)) note (.ok time)) ∧
      ∀ move ∈ rest, move.caller ≠ some thread

/-- The move takes the thread neither to another job nor to another query. -/
def Move.Continues (move : Move Thread Action) (thread : Thread) : Prop :=
  (∀ job, move.label ≠ .start thread job) ∧ ∀ order cutoff note reply,
    move.label ≠ .call thread (.selectCandidates order cutoff) note reply

/-- After these first moves the thread queried the candidates of the order, with the
cutoff that belongs to its reading of the clock, and has made no other query since. -/
structure QueriedLast (settings : Settings) (thread : Thread) (order : UUID) (time : ℤ)
    (found : List Driver) (first : List (Move Thread Action)) (query : Move Thread Action)
    (rest : List (Move Thread Action)) : Prop where
  reading : ReadLast first thread order time
  label : ∃ note, query.label = .call thread
    (.selectCandidates order (time - minutes settings.driverStaleThresholdMinutes)) note (.ok found)
  continues : ∀ move ∈ rest, move.Continues thread

namespace Sighting

def Justified (settings : Settings) (trace : List (Move Thread Action)) (thread : Thread) :
    Sighting → Prop
  | .unread => True
  | .read order time => ReadLast trace thread order time
  | .queried order found => ∃ time first query rest, trace = first ++ query::rest ∧
      QueriedLast settings thread order time found first query rest

variable {trace : List (Move Thread Action)} {thread : Thread} {move : Move Thread Action}
variable {sighting : Sighting} {order : UUID} {found : List Driver}

omit [DecidableEq Thread] in
theorem queried_later (justified : (queried order found).Justified settings trace thread)
    (continues : move.Continues thread) :
    (queried order found).Justified settings (trace ++ [move]) thread := by
  obtain ⟨time,first,query,rest,located,last⟩ := justified
  obtain ⟨extended,since⟩ := Execution.located_snoc located last.continues continues
  exact ⟨time,first,query,rest ++ [move],extended,last.reading,last.label,since⟩

omit [DecidableEq Thread] in
theorem Justified.later (justified : sighting.Justified settings trace thread)
    (silent : move.caller ≠ some thread) (going : ∀ job, move.label ≠ .start thread job) :
    sighting.Justified settings (trace ++ [move]) thread := by
  cases sighting with
  | unread => exact trivial
  | read order time =>
    obtain ⟨first,reading,rest,located,label,between⟩ := justified
    obtain ⟨extended,since⟩ := Execution.located_snoc located between silent
    exact ⟨first,reading,rest ++ [move],extended,label,since⟩
  | queried order found =>
    apply queried_later justified
    refine ⟨going,fun order cutoff note reply label => silent ?_⟩
    simp [Move.caller,label]

omit [DecidableEq Thread] in
theorem Justified.call {request : Call} {note : Note} {reply : Except PyException (Reply request)}
    (justified : sighting.Justified settings trace thread)
    (label : move.label = .call thread request note reply)
    (allowed : (monitor settings).allows sighting request) :
    (sighting.after request reply).Justified settings (trace ++ [move]) thread := by
  -- a call that tells nothing about the drivers
  have otherwise (quiet : ∀ order cutoff, request ≠ .selectCandidates order cutoff)
      (same : sighting.after request reply = sighting.passed) :
      (sighting.after request reply).Justified settings (trace ++ [move]) thread := by
    rw [same]
    cases sighting with
    | unread | read => exact trivial
    | queried order found =>
      apply queried_later justified
      refine ⟨by simp [label],fun order cutoff note reply select => ?_⟩
      rw [label] at select
      cases select
      exact quiet order cutoff rfl
  cases request with
  | now site =>
    cases site with
    | staleCutoff order =>
      cases reply with
      | error error => exact otherwise (by simp) (by cases sighting <;> rfl)
      | ok time => exact ⟨trace,move,[],rfl,⟨note,label⟩,by simp⟩
    | _ => exact otherwise (by simp) (by cases sighting <;> rfl)
  | selectCandidates order cutoff =>
    cases reply with
    | error error => exact trivial
    | ok found =>
      obtain ⟨time,rfl,rfl⟩ := allowed
      exact ⟨time,trace,move,[],rfl,justified,⟨note,label⟩,by simp⟩
  | _ => exact otherwise (by simp) (by cases sighting <;> rfl)

theorem invariant {writes : Action → Database → Database → Prop} :
    (deployment settings loops writes).Invariant (fun _ => monitor settings) unread
      (fun trace _ sightings => ∀ thread, (sightings thread).Justified settings trace thread) where
  body _ job _ := body_obeys job
  expected _ _ _ _ _ _ _ := trivial
  restart trace sightings thread move justified label _ := by
    rw [Function.forall_update_iff sightings
      (fun thread sighting => sighting.Justified settings (trace ++ [move]) thread)]
    refine ⟨trivial,fun other apart => ?_⟩
    obtain ⟨silent,going⟩ := restart_others label apart
    exact (justified other).later silent going
  call trace sightings thread request note reply move justified label allowed _ := by
    rw [Function.forall_update_iff sightings
      (fun thread sighting => sighting.Justified settings (trace ++ [move]) thread)]
    refine ⟨(justified thread).call label allowed,fun other apart => (justified other).later ?_ ?_⟩
    · simpa [Move.caller,label] using apart.symm
    · simp [label]
  outside trace sightings action move justified label _ thread :=
    (justified thread).later (by simp [Move.caller,label]) (by simp [label])

end Sighting

/-- The move may write this heartbeat. -/
def Move.Stamps (move : Move Thread Action) (driver : UUID) (time : ℤ) : Prop :=
  ∃ thread states note reply, move.label = .call thread (.pushPositions time states) note reply ∧
    driver ∈ states.map DriverState.dbId

variable {shared : Shared} {trace : List (Move Thread AppAction)}
variable {start state : System.State Call Reply PyException Shared Thread}

theorem move_heartbeats {move : Move Thread AppAction}
    (step : (deployment settings loops Database.ByApp).Step move.before move.label move.after) :
    move.before.shared.db.Heartbeats move.Stamps move.after.shared.db := by
  rcases move_cases step with ⟨same,_⟩ | ⟨thread,request,note,reply,label,answered⟩ | ⟨_,_,moved⟩
  · rw [same]
    exact .refl _ _
  · apply (Call.respond_heartbeats answered).mono
    rintro driver time ⟨states,rfl,listed⟩
    exact ⟨thread,states,note,reply,label,listed⟩
  · exact moved.heartbeats

theorem run_heartbeats
    (run : Execution (deployment settings loops Database.ByApp).Step start trace state) :
    start.shared.db.Heartbeats (fun driver time => ∃ move ∈ trace, move.Stamps driver time)
      state.shared.db := by
  induction run with
  | nil => exact .refl _ _
  | @snoc trace state label next run step ih =>
    have last : state.shared.db.Heartbeats (Move.Stamps ⟨state,label,next⟩) next.shared.db :=
      move_heartbeats step
    apply (ih.mono ?_).trans (last.mono ?_)
    · rintro driver time ⟨move,member,stamps⟩
      exact ⟨move,List.mem_append_left _ member,stamps⟩
    · exact fun driver time stamps => ⟨_,List.mem_append_right _ (List.mem_singleton_self _),stamps⟩

/-- An assigned driver was available until then. When its order's candidates were last
queried it had been seen within the threshold of that query, and it has since kept that
heartbeat or been given another. -/
theorem assigned_recently_seen
    (run : (deployment settings loops Database.ByApp).Run shared trace state) :
    ∀ first move rest, trace = first ++ move::rest → ∀ order driver, move.Assigns order driver →
      move.before.shared.db.DriverAvailable driver ∧
        ∃ thread time found earlier query later, move.caller = some thread ∧
          first = earlier ++ query::later ∧
            QueriedLast settings thread order time found earlier query later ∧
              ∃ candidate ∈ query.before.shared.db.drivers.rows, candidate ∈ found ∧
                candidate.id = driver ∧ candidate.Available ∧
                  ∃ seen, candidate.lastLocationAt = some seen ∧
                    time - minutes settings.driverStaleThresholdMinutes ≤ seen ∧
                      ∃ row ∈ move.after.shared.db.drivers.rows, row.id = driver ∧
                        (row.lastLocationAt = some seen ∨ ∃ stamp,
                          (∃ push ∈ later, push.Stamps driver stamp) ∧
                            row.lastLocationAt = some stamp) := by
  intro first move rest located order driver ⟨⟨thread,note,reply,label⟩,changed⟩
  have invariant : (deployment settings loops Database.ByApp).Invariant
      (fun _ : Thread => Sighting.monitor settings) .unread
        (fun trace _ sightings => ∀ thread, (sightings thread).Justified settings trace thread) :=
    Sighting.invariant
  obtain ⟨sightings,justified,⟨found,queried,listed⟩,answered⟩ :=
    invariant.at_call (fun _ => trivial) run located label
  have last := justified thread
  rw [queried] at last
  obtain ⟨time,earlier,query,later,placed,last⟩ := last
  obtain ⟨candidate,member,named⟩ := List.mem_map.mp listed
  obtain ⟨prefixed,_,_⟩ := run.split located
  obtain ⟨_,asked,following⟩ := prefixed.split placed
  obtain ⟨_,selected⟩ := last.label
  obtain ⟨permuted,kept⟩ := Call.respond_select (move_call asked selected)
  obtain ⟨present,eligible⟩ := List.mem_filter.mp (permuted.mem_iff.mp member)
  obtain ⟨available,⟨seen,heartbeat,recent⟩,_⟩ := of_decide_eq_true eligible
  rcases Call.respond_attempt answered with ⟨_,assigned,_⟩ | ⟨same,_⟩
  · have beats := (kept ▸ run_heartbeats following).trans assigned.heartbeats
    obtain ⟨row,final,same,written⟩ := beats candidate present
    refine ⟨assigned.available,thread,time,found,earlier,query,later,by simp [Move.caller,label],
      placed,last,candidate,present,member,named,available,seen,heartbeat,recent,row,final,
      same.trans named,?_⟩
    rw [← named,← same,← heartbeat]
    exact written
  · exact absurd same changed

/-- When the order was assigned, the driver had been seen within the threshold. -/
def Database.SeenLately (settings : Settings) (db : Database) (order driver : UUID) : Prop :=
  ∀ row ∈ db.orders.rows, row.id = order → ∀ assignedAt ∈ row.assignedAt,
    ∃ locked ∈ db.drivers.rows, locked.id = driver ∧ ∃ seen ∈ locked.lastLocationAt,
      assignedAt - minutes settings.driverStaleThresholdMinutes ≤ seen

instance (settings : Settings) (db : Database) (order driver : UUID) :
    Decidable (db.SeenLately settings order driver) :=
  inferInstanceAs (Decidable (∀ row ∈ db.orders.rows, _ → _))

def slowStart : Shared :=
  ⟨Sample.database [Sample.driver 1 "1"] [Sample.order 3],minutes 5⟩

/-- The driver was seen five minutes before the query, and the route takes a second
to arrive. -/
def slowMoves : List (System.Move Shared Note Unit Job AppAction) :=
  let now := minutes 5
  let later := now + 1000000
  [.start () .dispatchTick,.answer () {Sample.note now with orders := [Sample.order 3]}] ++
  (Sample.evaluation () now [Sample.driver 1 "1"] (Sample.id 1)).take 4 ++
  [.answer () (Sample.note later),.answer () (Sample.note later)]

theorem slow_replayed : ((System.replay (deployment {} (· = ()) Database.ByApp) slowMoves
    (System.State.idle slowStart)).map (fun done => done.1.filterMap (fun move =>
      (Move.committed move).map (fun driver => decide (∀ order ∈ move.before.shared.db.orders.keys,
        ¬move.after.shared.db.SeenLately {} order driver))))) = some [true] := by
  decide +kernel

theorem slow : ∃ (trace : List (Move Unit AppAction))
    (state : System.State Call Reply PyException Shared Unit),
      (deployment {} (· = ()) Database.ByApp).Run slowStart trace state ∧
        ∃ move ∈ trace, ∃ order driver, move.Assigns order driver ∧
          ¬move.after.shared.db.SeenLately {} order driver := by
  obtain ⟨trace,state,run,move,member,order,known,driver,assigns,stale⟩ :=
    committed_replayed slow_replayed (by simp)
  exact ⟨trace,state,run,move,member,order,driver,assigns,of_decide_eq_true stale order known⟩

/-- While routes are awaited a candidate can go stale, and is assigned all the same. -/
theorem seenLately_fails : ¬∀ (shared : Shared) (trace : List (Move Unit AppAction))
    (state : System.State Call Reply PyException Shared Unit),
      (deployment {} (· = ()) Database.ByApp).Run shared trace state →
        ∀ move ∈ trace, ∀ order driver, move.Assigns order driver →
          move.after.shared.db.SeenLately {} order driver ∧
            move.before.shared.db.DriverAvailable driver := by
  intro claimed
  obtain ⟨trace,state,run,move,member,order,driver,assigns,stale⟩ := slow
  exact stale (claimed slowStart trace state run move member order driver assigns).1

theorem slow_seen : ∃ (trace first rest : List (Move Unit AppAction))
    (state : System.State Call Reply PyException Shared Unit) (move : Move Unit AppAction)
    (order driver : UUID), (deployment {} (· = ()) Database.ByApp).Run slowStart trace state ∧
      trace = first ++ move::rest ∧ move.Assigns order driver ∧
        ∃ time found earlier query later, first = earlier ++ query::later ∧
          QueriedLast {} () order time found earlier query later ∧
            ∃ candidate ∈ found, candidate.id = driver ∧
              ∃ seen ∈ candidate.lastLocationAt, time - minutes 5 ≤ seen := by
  obtain ⟨trace,state,run,move,member,order,driver,assigns,_⟩ := slow
  obtain ⟨first,rest,located⟩ := List.append_of_mem member
  obtain ⟨_,_,time,found,earlier,query,later,_,placed,queried,candidate,_,listed,named,_,seen,
    heartbeat,recent,_⟩ := assigned_recently_seen run first move rest located order driver assigns
  exact ⟨trace,first,rest,state,move,order,driver,run,located,assigns,time,found,earlier,query,later,
    placed,queried,candidate,listed,named,seen,heartbeat,recent⟩

end
end FoodDispatch
