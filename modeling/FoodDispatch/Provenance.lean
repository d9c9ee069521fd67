import FoodDispatch.Accounting
import FoodDispatch.Evaluations

/-! What a lock rests on. With any number of loops, and whoever else writes, a driver is
tried only when all routes are known, and after every driver whose route is shorter was
found unavailable at a lock of its own; and no route is asked for twice. -/
namespace FoodDispatch
open Library

section
variable {Thread Action : Type} [DecidableEq Thread]

/-- The evaluation in which the thread makes its next call began with this query, the
last that it made. -/
structure Evaluating (thread : Thread) (order : UUID) (found : List Driver)
    (first begun : List (Move Thread Action)) (query : Move Thread Action)
    (since : List (Move Thread Action)) : Prop where
  located : first = begun ++ query::since
  queried : ∃ cutoff note,
    query.label = .call thread (.selectCandidates order cutoff) note (.ok found)
  going : ∀ later ∈ since, later.label.restarts thread = false
  last : ∀ later ∈ since, ∀ other cutoff note reply,
    later.label ≠ .call thread (.selectCandidates other cutoff) note reply

/-- The thread was told this route. -/
def Told (thread : Thread) (order : UUID) (since : List (Move Thread Action)) (asked : Asked) :
    Prop :=
  ∃ move ∈ since, ∃ destination note, move.label =
    .call thread (.getDrivingEta order asked.driver.id asked.origin destination) note (.ok asked.eta)

variable {settings : Settings} {loops : Thread → Prop}
variable {writes : Action → Database → Database → Prop} {shared : Shared}
variable {trace first rest : List (Move Thread Action)} {move : Move Thread Action} {thread : Thread}
variable {state : System.State Call Reply PyException Shared Thread}
variable {order driver : UUID} {note : Note}

theorem Evaluation.permitted (run : (deployment settings loops writes).Run shared trace state)
    (located : trace = first ++ move::rest) {request : Call} {reply : Except PyException (Reply request)}
    (label : move.label = .call thread request note reply) :
    Evaluation.permits (System.diary thread first) request := by
  have body (thread : Thread) (job : Job) (_ : (deployment settings loops writes).starts thread job) :
      (job.body settings).Obeys (Monitor.chronicle permits) (fun _ _ => True) [] := body_obeys job
  exact (System.permitted body run located label).1

theorem Evaluation.Ends.evaluating {evaluation : Evaluation}
    (ends : evaluation.Ends (System.diary thread first)) :
    ∃ begun query since, Evaluating thread evaluation.copy.id evaluation.found first begun query since ∧
      since.filterMap (fun later => later.label.said thread) = evaluation.entries.tail := by
  obtain ⟨earlier,written,_⟩ := ends
  obtain ⟨begun,query,since,located,_,said,heard,going⟩ := System.diary_located written
  obtain ⟨note,label⟩ := System.said_call said
  refine ⟨begun,query,since,⟨located,⟨_,note,label⟩,going,?_⟩,heard⟩
  intro later member other cutoff note reply again
  have told : (⟨.selectCandidates other cutoff,reply⟩ : Entry Call Reply PyException) ∈
      since.filterMap (fun later => later.label.said thread) :=
    List.mem_filterMap.mpr ⟨later,member,by simp [again,System.Label.said]⟩
  rw [heard] at told
  simp [Asked.entry,refusal] at told

theorem Evaluating.distinct {found : List Driver} {begun since : List (Move Thread Action)}
    {query : Move Thread Action} (run : (deployment settings loops writes).Run shared first state)
    (evaluating : Evaluating thread order found first begun query since) :
    (found.map Driver.id).Nodup := by
  obtain ⟨cutoff,note,label⟩ := evaluating.queried
  obtain ⟨_,step,_⟩ := run.split evaluating.located
  obtain ⟨permuted,_⟩ := Call.respond_select (move_call step label)
  exact (permuted.map Driver.id).nodup_iff.mpr
    (List.Nodup.sublist (List.filter_sublist.map _) query.before.shared.db.drivers.keyed)

theorem Evaluation.told {evaluation : Evaluation} {since : List (Move Thread Action)}
    (heard : since.filterMap (fun later => later.label.said thread) = evaluation.entries.tail)
    {asked : Asked} (member : asked ∈ evaluation.routes) :
    Told thread evaluation.copy.id since asked := by
  have entry : asked.entry evaluation.copy.id evaluation.destination ∈ evaluation.entries.tail := by
    simp only [Evaluation.entries,List.tail_cons,List.mem_cons,List.mem_append,List.mem_map]
    exact Or.inr (Or.inl ⟨asked,member,rfl⟩)
  rw [← heard,List.mem_filterMap] at entry
  obtain ⟨move,inside,said⟩ := entry
  obtain ⟨note,told⟩ := System.said_call said
  exact ⟨move,inside,_,note,told⟩

theorem Evaluation.listed {evaluation : Evaluation} {asked : Asked}
    (ranked : asked ∈ evaluation.ranking) : asked ∈ evaluation.routes ∧ asked.routed = true :=
  List.mem_filter.mp (mem_ranked.mp ranked)

/-- Behind every lock stands an evaluation that has been told all its routes, and has
tried the nearest drivers down to this one. -/
theorem attempt_evaluation (run : (deployment settings loops writes).Run shared trace state)
    (located : trace = first ++ move::rest) {reply : Except PyException Bool}
    (label : move.label = .call thread (.attemptAtomicAssignment order driver) note reply) :
    ∃ evaluation : Evaluation, evaluation.copy.id = order ∧ ∃ begun query since,
      Evaluating thread order (evaluation.routes.map Asked.driver) first begun query since ∧
        since.filterMap (fun later => later.label.said thread) = evaluation.entries.tail ∧
          ∃ nearer chosen farther, evaluation.ranking = nearer ++ chosen::farther ∧
            nearer.map (fun asked => asked.driver.id) = evaluation.refused ∧
              chosen.driver.id = driver := by
  obtain ⟨evaluation,ends,rfl,complete,remaining,next⟩ :=
    Evaluation.permitted run located label
  obtain ⟨begun,query,since,evaluating,heard⟩ := ends.evaluating
  obtain ⟨nearer,others,ranking,refused,left⟩ := List.map_eq_append_iff.mp next
  obtain ⟨chosen,farther,rfl,named,_⟩ := List.map_eq_cons_iff.mp left
  exact ⟨evaluation,rfl,begun,query,since,complete ▸ evaluating,heard,nearer,chosen,farther,ranking,
    refused,named⟩

def beatenStart : Shared :=
  ⟨Sample.database [Sample.driver 1 "1",Sample.driver 2 "2"] [Sample.order 3,Sample.order 4],0⟩

/-- Driver 1 is the nearer one to order 3. Before it is tried there, it is assigned to
order 4 by another loop. -/
def beatenMoves : List (System.Move Shared Note Bool Job Empty) :=
  let drivers := [Sample.driver 1 "1",Sample.driver 2 "2"]
  let fetched := {Sample.note 0 with orders := [Sample.order 3,Sample.order 4]}
  [.start true .dispatchTick,.start false .dispatchTick,.answer true fetched,
    .answer true (Sample.note 0),.answer true (Sample.note 0),
    .answer true {Sample.note 0 with drivers := drivers},.answer true (Sample.note 0),
    .answer true {Sample.note 0 with eta := .success 60 1000},
    .answer true {Sample.note 0 with eta := .success 120 2000},
    .answer false {fetched with orders := [Sample.order 4,Sample.order 3]}] ++
  Sample.evaluation false 0 drivers (Sample.id 1) ++
  [.answer true (Sample.note 0),.answer true (Sample.note 0)]

theorem beaten_replayed : ((System.replay (deployment {} (fun _ => True) nobody) beatenMoves
    (System.State.idle beatenStart)).map (fun done => done.1.filterMap Move.assigned)) =
      some [(Sample.id 4,Sample.id 1),(Sample.id 3,Sample.id 2)] := by
  decide +kernel

/-- How many drivers a thread with this diary may still ask the Maps service about. -/
def allowance (diary : Diary) : ℕ :=
  diary.foldl (fun left entry => match entry with
    | ⟨.selectCandidates _ _,.ok found⟩ => found.length
    | ⟨.getDrivingEta _ _ _ _,_⟩ => left - 1
    | _ => left) 0

def asksMaps (entry : Entry Call Reply PyException) : Bool :=
  match entry.request with
  | .getDrivingEta _ _ _ _ => true
  | _ => false

/-- How many drivers a query found. -/
def offered (entry : Entry Call Reply PyException) : ℕ :=
  match entry with
  | ⟨.selectCandidates _ _,.ok found⟩ => found.length
  | _ => 0

theorem allowance_routes (order : UUID) (destination : LatLng) (routes : List Asked) (diary : Diary) :
    allowance (diary ++ routes.map (Asked.entry order destination)) =
      allowance diary - routes.length := by
  induction routes generalizing diary with
  | nil => simp
  | cons asked routes ih =>
    rw [List.map_cons,List.append_cons,ih,List.length_cons]
    have one : allowance (diary ++ [asked.entry order destination]) = allowance diary - 1 := by
      simp [allowance,Asked.entry]
    omega

theorem allowance_pos {evaluation : Evaluation} {diary : Diary} {origin destination : LatLng}
    (ends : evaluation.Ends diary) (asks : evaluation.Asks driver origin destination) :
    0 < allowance diary := by
  obtain ⟨earlier,rfl,_⟩ := ends
  obtain ⟨next,rest,found,untried,_⟩ := asks
  have begun : allowance (earlier ++
      [⟨.selectCandidates evaluation.copy.id evaluation.cutoff,.ok evaluation.found⟩] ++
        [⟨.now (.score evaluation.copy.id),.ok evaluation.now⟩]) = evaluation.found.length := by
    simp [allowance]
  unfold Evaluation.entries
  rw [untried,List.map_nil,List.append_nil,List.append_cons,List.append_cons,allowance_routes,begun,
    found]
  simp

/-- A request is paid for out of the allowance, and a query grants a new one. -/
theorem allowance_snoc (diary : Diary) (entry : Entry Call Reply PyException)
    (granted : asksMaps entry = true → 0 < allowance diary) :
    allowance (diary ++ [entry]) + [entry].countP asksMaps ≤ allowance diary + offered entry := by
  rcases entry with ⟨request,reply⟩
  cases request with
  | getDrivingEta order driver origin destination =>
    have left : allowance (diary ++ [⟨.getDrivingEta order driver origin destination,reply⟩]) =
        allowance diary - 1 := by simp [allowance]
    have one : 0 < allowance diary := granted rfl
    have paid : [(⟨.getDrivingEta order driver origin destination,reply⟩ :
        Entry Call Reply PyException)].countP asksMaps = 1 := rfl
    omega
  | selectCandidates order cutoff => cases reply <;> simp [allowance,asksMaps,offered]
  | _ => simp [allowance,asksMaps,offered]

theorem asks_bounded (run : (deployment settings loops writes).Run shared trace state) :
    (trace.filterMap (fun move => move.label.said thread)).countP asksMaps +
        allowance (System.diary thread trace) ≤
      ((trace.filterMap (fun move => move.label.said thread)).map offered).sum := by
  induction run with
  | nil => simp [allowance,System.diary]
  | @snoc trace before label after run step ih =>
    rw [List.filterMap_append,System.diary_snoc,List.countP_append,List.map_append,List.sum_append]
    cases said : label.said thread with
    | none =>
      have fewer : allowance (label.record thread (System.diary thread trace)) ≤
          allowance (System.diary thread trace) := by
        unfold System.Label.record
        split
        · simp [allowance]
        · simp [said]
      simp only [List.filterMap_cons,said,List.filterMap_nil,List.countP_nil,List.map_nil,List.sum_nil]
      omega
    | some entry =>
      have granted : asksMaps entry = true → 0 < allowance (System.diary thread trace) := by
        intro asks
        have last : (⟨before,label,after⟩ : Move Thread Action).label.said thread = some entry := said
        obtain ⟨note,called⟩ := System.said_call last
        have permitted := Evaluation.permitted (run.snoc step) rfl called
        rcases entry with ⟨request,reply⟩
        cases request with
        | getDrivingEta order driver origin destination =>
          obtain ⟨evaluation,ends,_,next⟩ := permitted
          exact allowance_pos ends next
        | _ => contradiction
      have last := allowance_snoc (System.diary thread trace) entry granted
      rw [System.record_said said]
      simp only [List.filterMap_cons,said,List.filterMap_nil,List.map_cons,List.map_nil,List.sum_cons,
        List.sum_nil]
      omega

/-- No thread asks the Maps service about more drivers than its queries have found: each
request is about one of the drivers found last, at its place then, and the only one
about that driver since. -/
theorem maps_requests_bounded (run : (deployment settings loops writes).Run shared trace state) :
    (∀ thread, (trace.filterMap (fun move => move.label.said thread)).countP asksMaps ≤
      ((trace.filterMap (fun move => move.label.said thread)).map offered).sum) ∧
    ∀ first move rest, trace = first ++ move::rest → ∀ thread order driver origin destination note reply,
      move.label = .call thread (.getDrivingEta order driver origin destination) note reply →
        ∃ found begun query since, Evaluating thread order found first begun query since ∧
          (∃ next ∈ found, next.id = driver ∧
            LatLng.build next.currentLat next.currentLng = .ok origin) ∧
          ∀ earlier ∈ since, ∀ origin destination note reply, earlier.label ≠
            .call thread (.getDrivingEta order driver origin destination) note reply := by
  refine ⟨fun thread => ?_,?_⟩
  · have bounded : (trace.filterMap (fun move => move.label.said thread)).countP asksMaps +
        allowance (System.diary thread trace) ≤ _ := asks_bounded run
    omega
  · intro first move rest located thread order driver origin destination note reply label
    obtain ⟨evaluation,ends,rfl,next,others,found,untried,named,_,placed⟩ :=
      Evaluation.permitted run located label
    obtain ⟨begun,query,since,evaluating,heard⟩ := ends.evaluating
    obtain ⟨before,_,_⟩ := run.split located
    have distinct := evaluating.distinct before
    refine ⟨evaluation.found,begun,query,since,evaluating,⟨next,by simp [found],named,placed⟩,?_⟩
    intro earlier member origin destination note reply again
    have told : (⟨.getDrivingEta evaluation.copy.id driver origin destination,reply⟩ :
        Entry Call Reply PyException) ∈ evaluation.entries.tail := by
      rw [← heard,List.mem_filterMap]
      exact ⟨earlier,member,by simp [again,System.Label.said]⟩
    have asked : ∃ asked ∈ evaluation.routes, asked.driver.id = driver := by
      simp only [Evaluation.entries,untried,List.tail_cons,List.map_nil,List.append_nil,List.mem_cons,
        List.mem_map] at told
      rcases told with clock | ⟨asked,listed,same⟩
      · simp at clock
      · simp only [Asked.entry,Entry.mk.injEq,Call.getDrivingEta.injEq] at same
        exact ⟨asked,listed,same.1.2.1⟩
    obtain ⟨asked,listed,same⟩ := asked
    rw [found,List.map_append,List.map_cons,List.nodup_append] at distinct
    have known : driver ∈ (evaluation.routes.map Asked.driver).map Driver.id := by
      rw [List.map_map,← same]
      exact List.mem_map_of_mem listed
    exact distinct.2.2 driver known driver (by simp [named]) rfl

theorem beaten_requests : ∃ (trace : List (Move Bool Empty))
    (state : System.State Call Reply PyException Shared Bool),
      (deployment {} (fun _ => True) nobody).Run beatenStart trace state ∧
        trace.filterMap Move.assigned = [(Sample.id 4,Sample.id 1),(Sample.id 3,Sample.id 2)] ∧
          ∀ thread, (trace.filterMap (fun move => move.label.said thread)).countP asksMaps ≤
            ((trace.filterMap (fun move => move.label.said thread)).map offered).sum := by
  obtain ⟨⟨trace,state⟩,replayed,assigned⟩ := Option.map_eq_some_iff.mp beaten_replayed
  have run := System.replay_execution replayed
  exact ⟨trace,state,run,assigned,(maps_requests_bounded run).1⟩

end
end FoodDispatch
