import FoodDispatch.Accounting
import FoodDispatch.Provenance
import FoodDispatch.Routes

/-! The Maps client in the deployment. Behind every assignment there is a reply of the
Maps service that reports a route of the driver; so while none is reported, because the
service is down or the client has no key, orders wait and no driver is taken. -/
namespace FoodDispatch
open Library

/-- With this outcome of its request the client is told of a route. -/
def MapsClient.Routed (client : MapsClient) (transport : Transport) (duration distance : ℤ) : Prop :=
  client.apiKey ≠ "" ∧ client.started = true ∧ ∃ json, transport = .response 200 (some json) ∧
    MapsReplies.Reports json duration distance

/-- The client reports a route exactly when it is told of one, and as it is told. -/
theorem MapsClient.getDrivingEta_routed {client : MapsClient} {transport : Transport}
    {eta : RouteETAResult} (answered : client.getDrivingEta transport = .ok eta)
    (route : eta.ok = true) : ∃ duration distance, client.Routed transport duration distance ∧
      eta.durationSeconds = some duration ∧ eta.distanceMeters = some distance := by
  unfold getDrivingEta at answered
  split at answered
  next => cases answered; contradiction
  next key =>
    split at answered
    next => cases answered; contradiction
    next started =>
      cases transport with
      | timeoutException => cases answered; contradiction
      | requestError text => cases answered; contradiction
      | response statusCode body =>
        dsimp only at answered
        split at answered
        next => cases answered; contradiction
        next success =>
          cases body with
          | none => cases answered; contradiction
          | some json =>
            rcases MapsReplies.parseResponse_cases answered with
              ⟨duration,distance,rfl,reports⟩ | ⟨reason,rfl⟩
            · have status : statusCode = 200 := not_not.mp success
              have opened : client.started = true := by simpa using started
              exact ⟨duration,distance,⟨key,opened,json,by rw [status],reports⟩,rfl,rfl⟩
            · contradiction

section
variable {Thread Action : Type} [DecidableEq Thread]

/-- What a Maps request returned. -/
def Move.told (move : Move Thread Action) : Option RouteETAResult :=
  match move.label with
  | .call _ (.getDrivingEta _ _ _ _) _ (.ok eta) => some eta
  | _ => none

/-- The client made it of one of these outcomes. -/
def Move.Through (move : Move Thread Action) (client : MapsClient) (outcomes : Transport → Prop) :
    Prop :=
  ∀ eta ∈ move.told, ∃ transport, outcomes transport ∧ client.getDrivingEta transport = .ok eta

variable {settings : Settings} {loops : Thread → Prop} {client : MapsClient}
variable {outcomes : Transport → Prop} {shared : Shared}
variable {state : System.State Call Reply PyException Shared Thread}

/-- The thread's evaluation of the order found the driver with its last query, and was
told since, in its own request about it, of a route that the Maps service reported. -/
def ReportedTo (client : MapsClient) (outcomes : Transport → Prop) (thread : Thread)
    (order driver : UUID) (first : List (Move Thread Action)) : Prop :=
  ∃ found begun query since, Evaluating thread order found first begun query since ∧
    ∃ next ∈ found, next.id = driver ∧ ∃ told ∈ since, ∃ origin destination note eta,
      told.label = .call thread (.getDrivingEta order driver origin destination) note (.ok eta) ∧
        LatLng.build next.currentLat next.currentLng = .ok origin ∧
          ∃ transport duration distance, outcomes transport ∧
            client.getDrivingEta transport = .ok eta ∧
              client.Routed transport duration distance ∧
                eta.durationSeconds = some duration ∧ eta.distanceMeters = some distance

theorem ReportedTo.routed {first : List (Move Thread Action)} {thread : Thread}
    {order driver : UUID} (reported : ReportedTo client outcomes thread order driver first) :
    ∃ transport duration distance, outcomes transport ∧ client.Routed transport duration distance := by
  obtain ⟨_,_,_,_,_,_,_,_,_,_,_,_,_,_,_,_,transport,duration,distance,outcome,_,routed,_⟩ := reported
  exact ⟨transport,duration,distance,outcome,routed⟩

section
variable {writes : Action → Database → Database → Prop} {trace first rest : List (Move Thread Action)}
variable {move : Move Thread Action} {order driver : UUID}

theorem attempt_reported (run : (deployment settings loops writes).Run shared trace state)
    (through : ∀ move ∈ trace, move.Through client outcomes)
    (located : trace = first ++ move::rest) {thread : Thread} {note : Note}
    {reply : Except PyException Bool}
    (label : move.label = .call thread (.attemptAtomicAssignment order driver) note reply) :
    ReportedTo client outcomes thread order driver first := by
  obtain ⟨evaluation,rfl,begun,query,since,evaluating,heard,nearer,chosen,farther,ranking,_,rfl⟩ :=
    attempt_evaluation run located label
  obtain ⟨listed,route⟩ : chosen ∈ evaluation.routes ∧ chosen.routed = true :=
    evaluation.listed (by simp [ranking])
  obtain ⟨told,member,destination,note,heard⟩ := evaluation.told heard listed
  have inside : told ∈ trace := by
    rw [located,evaluating.located]
    simp [member]
  obtain ⟨transport,outcome,answered⟩ := through told inside chosen.eta (by simp [Move.told,heard])
  obtain ⟨duration,distance,routed,numbers⟩ := MapsClient.getDrivingEta_routed answered route
  exact ⟨_,begun,query,since,evaluating,chosen.driver,List.mem_map_of_mem listed,rfl,told,
    member,chosen.origin,destination,note,chosen.eta,heard,chosen.placed,transport,duration,distance,
    outcome,answered,routed,numbers⟩

end

/-- Every assignment is of a driver whose route the Maps service reported to the loop
that assigned it, after its last query for the order. -/
theorem assigned_reported {writes : Action → Database → Database → Prop}
    {trace : List (Move Thread Action)}
    (run : (deployment settings loops writes).Run shared trace state)
    (through : ∀ move ∈ trace, move.Through client outcomes) :
    ∀ first move rest, trace = first ++ move::rest → ∀ order driver,
      move.assigned = some (order,driver) → ∃ thread note reply,
        move.label = .call thread (.attemptAtomicAssignment order driver) note reply ∧
          ReportedTo client outcomes thread order driver first := by
  intro first move rest located order driver assigned
  obtain ⟨thread,note,reply,label⟩ := assigned_label assigned
  exact ⟨thread,note,reply,label,attempt_reported run through located label⟩

/-- A reply that reports a route of one minute. -/
def oneMinute : Json :=
  .dict [("status",.str "OK"),("rows",.list [.dict [("elements",.list [.dict [("status",.str "OK"),
    ("duration",.dict [("value",.int 60)]),("distance",.dict [("value",.int 1000)])]])]])]

def tellsOneMinute (eta : RouteETAResult) : Bool :=
  match eta with
  | ⟨true,some 60,some 1000,none⟩ => true
  | _ => false

theorem life_told_replayed : ((System.replay (deployment {} (· = true) nobody)
    (Sample.life true false) (System.State.idle ⟨Database.empty,0⟩)).map (fun done =>
      (done.1.filterMap Move.assigned,(done.1.filterMap Move.told).map tellsOneMinute))) =
        some ([(Sample.id 3,Sample.id 1)],[true]) := by
  decide +kernel

theorem life_reported : ∃ (trace first rest : List (Move Bool Empty)) (move : Move Bool Empty)
    (state : System.State Call Reply PyException Shared Bool),
      (deployment {} (· = true) nobody).Run ⟨Database.empty,0⟩ trace state ∧
        trace = first ++ move::rest ∧ move.assigned = some (Sample.id 3,Sample.id 1) ∧
          ∃ (thread : Bool) (note : Note) (reply : Except PyException Bool),
            move.label = .call thread (.attemptAtomicAssignment (Sample.id 3) (Sample.id 1)) note reply ∧
              ReportedTo ⟨"key",true⟩ (fun _ => True) thread (Sample.id 3) (Sample.id 1) first := by
  obtain ⟨⟨trace,state⟩,replayed,same⟩ := Option.map_eq_some_iff.mp life_told_replayed
  obtain ⟨assigned,told⟩ := Prod.mk.inj same
  have run := System.replay_execution replayed
  have through : ∀ move : Move Bool Empty, move ∈ trace →
      move.Through ⟨"key",true⟩ (fun _ => True) := by
    intro move member eta heard
    have minute : tellsOneMinute eta = true := by
      have listed : tellsOneMinute eta ∈ (trace.filterMap Move.told).map tellsOneMinute :=
        List.mem_map_of_mem (List.mem_filterMap.mpr ⟨move,member,heard⟩)
      rw [told] at listed
      simpa using listed
    unfold tellsOneMinute at minute
    split at minute
    next => exact ⟨.response 200 (some oneMinute),trivial,rfl⟩
    next => contradiction
  obtain ⟨move,member,taken⟩ := List.mem_filterMap.mp
    (show (Sample.id 3,Sample.id 1) ∈ trace.filterMap Move.assigned by simp [assigned])
  obtain ⟨first,rest,located⟩ := List.append_of_mem member
  exact ⟨trace,first,rest,move,state,run,located,taken,
    assigned_reported run through first move rest located _ _ taken⟩

/-- An order that is assigned was assigned at the start already. -/
def Database.NoneAssignedSince (start db : Database) : Prop :=
  ∀ row ∈ db.orders.rows, row.dispatchStatus = .assigned → row ∈ start.orders.rows

/-- While no route is reported nobody is assigned: the drivers that are not available
are those that were not at the start, and no further order is assigned. -/
theorem outage_assigns_nobody {trace : List (Move Thread Empty)}
    (run : (deployment settings loops nobody).Run shared trace state)
    (through : ∀ move ∈ trace, move.Through client outcomes)
    (down : ∀ transport, outcomes transport → ∀ duration distance,
      ¬client.Routed transport duration distance) :
    trace.filterMap Move.assigned = [] ∧ state.shared.db.unavailable = shared.db.unavailable ∧
      shared.db.NoneAssignedSince state.shared.db := by
  have spared : ∀ move ∈ trace, Move.assigned move = none := by
    intro move member
    rw [Option.eq_none_iff_forall_not_mem]
    rintro ⟨order,driver⟩ assigned
    obtain ⟨first,rest,located⟩ := List.append_of_mem member
    obtain ⟨thread,note,reply,label⟩ := assigned_label assigned
    obtain ⟨transport,duration,distance,outcome,routed⟩ :=
      (attempt_reported run through located label).routed
    exact down transport outcome duration distance routed
  have none : trace.filterMap Move.assigned = [] := List.filterMap_eq_nil_iff.mpr spared
  refine ⟨none,?_,?_⟩
  · apply Finset.val_injective
    rw [unavailable_balance run,none]
    simp
  · have initial : shared.db.NoneAssignedSince shared.db := fun row member _ => member
    have kept (move : Move Thread Empty) (member : move ∈ trace)
        (before : shared.db.NoneAssignedSince move.before.shared.db) :
        shared.db.NoneAssignedSince move.after.shared.db := by
      intro row present assigned
      cases move_effect (run.step_of_mem member) with
      | grown _ _ grown =>
        rcases grown.order row present with known | ⟨_,pending,_⟩
        · exact before row known assigned
        · rw [assigned] at pending
          contradiction
      | held order _ _ _ held =>
        rcases held.order_cases present with ⟨old,_,_,_,rfl⟩ | known
        · contradiction
        · exact before row known assigned
      | assigned order driver time taken => exact absurd (spared move member) (by simp [taken])
    have since : Execution.Throughout (System.State.idle shared) trace
        (fun reached => shared.db.NoneAssignedSince reached.shared.db) :=
      run.throughout initial (fun move member before _ => kept move member before)
    exact since.final run

def timedOut (eta : RouteETAResult) : Bool :=
  match eta with
  | ⟨false,none,none,some (.text text)⟩ => text = "Request timed out"
  | _ => false

/-- The first order is evaluated while the Maps service is down. -/
def outageMoves : List (System.Move Shared Note Bool Job Empty) :=
  let drivers := [Sample.driver 1 "1",Sample.driver 2 "2"]
  let late := {Sample.note 0 with eta := .failure (.text "Request timed out")}
  [.start true .dispatchTick,
    .answer true {late with orders := [Sample.order 3,Sample.order 4]},.answer true late,
    .answer true late,.answer true {late with drivers := drivers},.answer true late,
    .answer true late,.answer true late,.answer true late]

theorem outage_replayed : ((System.replay (deployment {} (fun _ => True) nobody) outageMoves
    (System.State.idle beatenStart)).map (fun done => (done.1.filterMap Move.told).map timedOut)) =
      some [true,true] := by
  decide +kernel

theorem timeouts_assign_nobody : ∃ (trace : List (Move Bool Empty))
    (state : System.State Call Reply PyException Shared Bool),
      (deployment {} (fun _ => True) nobody).Run beatenStart trace state ∧
        (trace.filterMap Move.told).map timedOut = [true,true] ∧
          trace.filterMap Move.assigned = [] := by
  obtain ⟨⟨trace,state⟩,replayed,told⟩ := Option.map_eq_some_iff.mp outage_replayed
  have run := System.replay_execution replayed
  let client : MapsClient := ⟨"key",true⟩
  have through : ∀ move : Move Bool Empty, move ∈ trace →
      move.Through client (· = .timeoutException) := by
    intro move member eta heard
    have late : timedOut eta = true := by
      have listed : timedOut eta ∈ (trace.filterMap Move.told).map timedOut :=
        List.mem_map_of_mem (List.mem_filterMap.mpr ⟨move,member,heard⟩)
      rw [told] at listed
      simpa using listed
    unfold timedOut at late
    split at late
    next text =>
      rw [of_decide_eq_true late]
      exact ⟨.timeoutException,rfl,rfl⟩
    next => contradiction
  exact ⟨trace,state,run,told,(outage_assigns_nobody run through (by
    rintro _ rfl duration distance ⟨_,_,_,answered,_⟩
    contradiction)).1⟩

end
end FoodDispatch
