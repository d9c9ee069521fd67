import FoodDispatch.Deployment
import FoodDispatch.Reading

/-! The rule for a tick. A monitor carries an evaluation when assertions can be given
for the places between its calls, and every call leads from its place to the next; it
carries the tick when an invariant of the orders still to come carries each evaluation. -/
namespace FoodDispatch
open Library
open Library.Program
open PrepEstimator (WindowOpen)
open ScoringEngine

variable {Ghost : Type} {monitor : Monitor Call Reply PyException Ghost} {ghost : Ghost}
variable {settings : Settings} {order : Order}

/-- The assertions at the places of one evaluation, and what its calls do to them. -/
structure Walk (monitor : Monitor Call Reply PyException Ghost) (settings : Settings)
    (order : Order) where
  enters : Ghost → Prop
  evaluates : Ghost → Prop
  holds : Ghost → Prop
  finds : List Driver → Ghost → Prop
  tries : List ScoredCandidate → Ghost → Prop
  leaves : Ghost → Prop
  gate : ∀ ghost, enters ghost → (perform (Call.now (.gate order.id))).Obeys monitor
    (outcome (fun next now => if WindowOpen settings order.predictedReadyAt now then
      evaluates next else holds next) leaves) ghost
  hold : ∀ ghost, holds ghost →
    (perform (Call.applyHold order.id)).Obeys monitor (fun next _ => leaves next) ghost
  query : ∀ ghost, evaluates ghost → (getCandidates settings order.id).Obeys monitor
    (outcome (fun next drivers => finds drivers next) leaves) ghost
  score : ∀ ghost drivers, finds drivers ghost → (scoreCandidates order drivers).Obeys monitor
    (outcome (fun next scored => tries (sorted scored) next) leaves) ghost
  attempt : ∀ ghost candidate rest, tries (candidate::rest) ghost →
    (perform (Call.attemptAtomicAssignment order.id candidate.driver.id)).Obeys monitor
      (outcome (fun next assigned => if assigned = true then leaves next else tries rest next)
        leaves) ghost
  unheld : ∀ ghost, holds ghost → leaves ghost
  unfound : ∀ ghost drivers, finds drivers ghost → leaves ghost
  untried : ∀ ghost scored, tries scored ghost → leaves ghost

namespace Walk
variable (walk : Walk monitor settings order)

theorem tryCandidates_obeys {scored : List ScoredCandidate} (tries : walk.tries scored ghost) :
    (tryCandidates order scored).Obeys monitor (fun next _ => walk.leaves next) ghost := by
  induction scored generalizing ghost with
  | nil => exact walk.untried ghost [] tries
  | cons candidate rest ih =>
    apply obeys_bind (walk.attempt ghost candidate rest tries)
    · intro next assigned reached
      cases assigned with
      | true => exact reached
      | false => exact ih reached
    · exact fun _ _ left => left

theorem assignAmong_obeys {drivers : List Driver} (finds : walk.finds drivers ghost) :
    (assignAmong order drivers).Obeys monitor (fun next _ => walk.leaves next) ghost := by
  unfold assignAmong
  split
  · exact walk.unfound ghost drivers finds
  · apply obeys_bind (walk.score ghost drivers finds)
    · intro next scored tries
      split
      · exact walk.untried next _ tries
      · exact walk.tryCandidates_obeys tries
    · exact fun _ _ left => left

theorem assignBestDriver_obeys (evaluates : walk.evaluates ghost) :
    (assignBestDriver settings order).Obeys monitor (fun next _ => walk.leaves next) ghost :=
  obeys_bind (walk.query ghost evaluates) (fun _ _ finds => walk.assignAmong_obeys finds)
    (fun _ _ left => left)

theorem decided_obeys {now : ℤ} (gated : if WindowOpen settings order.predictedReadyAt now then
    walk.evaluates ghost else walk.holds ghost) :
    (DispatchLoop.decided settings order now).Obeys monitor (fun next _ => walk.leaves next)
      ghost := by
  unfold DispatchLoop.decided
  by_cases opened : WindowOpen settings order.predictedReadyAt now
  · rw [if_pos opened] at gated
    rw [if_pos (decide_eq_true opened)]
    exact obeys_bind (walk.assignBestDriver_obeys gated) (fun _ _ left => left) (fun _ _ left => left)
  · rw [if_neg opened] at gated
    rw [if_neg (by simp [opened])]
    unfold DispatchLoop.applyHold
    split
    · exact walk.unheld ghost gated
    · exact walk.hold ghost gated

theorem evaluate_obeys (enters : walk.enters ghost) :
    (DispatchLoop.evaluate settings order).Obeys monitor (fun next _ => walk.leaves next) ghost := by
  rw [DispatchLoop.evaluate_decided]
  exact obeys_bind (walk.gate ghost enters) (fun _ _ gated => walk.decided_obeys gated)
    (fun _ _ left => left)

end Walk

theorem runDispatchTick_obeys {post : Ghost → Prop} (invariant : List Order → Ghost → Prop)
    (fetch : (perform Call.fetchActionableOrders).Obeys monitor
      (outcome (fun next orders => invariant orders next) post) ghost)
    (walks : ∀ order rest ghost, invariant (order::rest) ghost →
      ∃ walk : Walk monitor settings order,
        walk.enters ghost ∧ ∀ next, walk.leaves next → invariant rest next)
    (finish : ∀ ghost, invariant [] ghost → post ghost) :
    (DispatchLoop.runDispatchTick settings).Obeys monitor (fun next _ => post next) ghost := by
  have ticking : (DispatchLoop.tick settings).Obeys monitor (fun next _ => post next) ghost := by
    apply obeys_bind fetch
    · intro next orders fetched
      apply obeys_forEach invariant orders fetched
      · intro order rest ghost carried
        obtain ⟨walk,enters,leaves⟩ := walks order rest ghost carried
        exact obeys_tryExcept (walk.evaluate_obeys enters) (fun next _ left => leaves next left)
          (fun next _ left => leaves next left)
      · exact finish
    · exact fun _ _ raised => raised
  exact obeys_tryExcept ticking (fun _ _ done => done) (fun _ _ done => done)

/-- The calls a tick may make. -/
def Call.ByTick : Call → Prop
  | .now .creation | .now .positions => False
  | .commitOrder _ _ _ | .refreshOrder _ | .seedDrivers _ | .pushPositions _ _ => False
  | _ => True

/-- The calls that a client's request makes. -/
def Call.ByClient : Call → Prop
  | .now .creation | .commitOrder _ _ _ | .refreshOrder _ => True
  | _ => False

theorem createOrder_only (settings : Settings) (id : UUID) (payload : OrderCreateRequest) :
    (Job.body settings (.createOrder id payload)).Obeys (only Call.ByClient) (fun _ _ => True) () := by
  have creating : (createOrder settings id payload).Obeys (only Call.ByClient) (fun _ _ => True)
      () := by
    rw [createOrder_predicted]
    refine ⟨trivial,fun reply _ => ?_⟩
    cases reply with
    | error error => exact trivial
    | ok now =>
      change (predicted settings id payload now).Obeys _ _ _
      unfold predicted
      split
      · refine ⟨trivial,fun reply _ => ?_⟩
        cases reply with
        | error error => exact trivial
        | ok _ => exact ⟨trivial,fun _ _ => trivial⟩
      · exact trivial
  exact obeys_bind creating (fun _ _ _ => trivial) (fun _ _ _ => trivial)

theorem pushPositions_only (states : List DriverState) :
    (pushPositions states).Obeys (only fun request : Call => ¬request.ByTick) (fun _ _ => True) () := by
  refine ⟨id,fun reply _ => ?_⟩
  cases reply with
  | error error => exact trivial
  | ok now => exact ⟨id,fun _ _ => trivial⟩

/-- A job that is no tick, under a monitor that allows whatever is not a tick's. -/
theorem Job.body_obeys {job : Job} (other : job.isTick = false)
    (free : ∀ ghost (request : Call), ¬request.ByTick → monitor.allows ghost request) :
    (job.body settings).Obeys monitor (fun _ _ => True) ghost := by
  cases job with
  | dispatchTick => contradiction
  | createOrder id payload =>
    apply obeys_of_only (createOrder_only settings id payload)
    intro ghost request client
    apply free
    cases request with
    | now site => cases site <;> first | exact False.elim client | exact not_false
    | commitOrder | refreshOrder => exact not_false
    | _ => exact False.elim client
  | seedDrivers seeds => exact ⟨free ghost _ id,fun reply _ => by cases reply <;> exact trivial⟩
  | pushPositions states => exact obeys_of_only (pushPositions_only states) free ghost

theorem Unmoved.reads (unmoved : Unmoved Call.ByTick monitor ghost) :
    Unmoved Call.Reads monitor ghost := by
  intro request reads
  apply unmoved request
  cases request with
  | now site => cases site <;> first | exact trivial | exact False.elim reads
  | selectCandidates | getDrivingEta => exact trivial
  | _ => exact False.elim reads

theorem obeys_unmoved {calls : Call → Prop} (unmoved : Unmoved calls monitor ghost) (request : Call)
    (called : calls request) :
    (perform request).Obeys monitor (fun next _ => next = ghost) ghost :=
  ⟨(unmoved request called).1,fun reply _ => (unmoved request called).2 reply⟩

theorem obeys_outcome {α : Type} {program : Program α} {held : Ghost → Prop}
    (obeys : program.Obeys monitor (fun next _ => held next) ghost) :
    program.Obeys monitor (outcome (fun next _ => held next) held) ghost :=
  obeys_mono obeys (fun _ result reached => by cases result <;> exact reached)

/-- A monitor that does not notice the calls of a tick. -/
def Walk.unmoved (unmoved : Unmoved Call.ByTick monitor ghost) : Walk monitor settings order where
  enters next := next = ghost
  evaluates next := next = ghost
  holds next := next = ghost
  finds _ next := next = ghost
  tries _ next := next = ghost
  leaves next := next = ghost
  gate := by
    rintro _ rfl
    apply obeys_mono (obeys_unmoved unmoved (.now (.gate order.id)) trivial)
    rintro next (error | now) same
    · exact same
    · simpa [outcome] using same
  hold := by
    rintro _ rfl
    exact obeys_unmoved unmoved (.applyHold order.id) trivial
  query := by
    rintro _ rfl
    exact obeys_outcome (getCandidates_obeys unmoved.reads settings order.id)
  score := by
    rintro _ drivers rfl
    exact obeys_outcome (scoreCandidates_obeys unmoved.reads.scores order drivers)
  attempt := by
    rintro _ candidate rest rfl
    apply obeys_mono
      (obeys_unmoved unmoved (.attemptAtomicAssignment order.id candidate.driver.id) trivial)
    rintro next (error | assigned) same
    · exact same
    · cases assigned <;> exact same
  unheld _ same := same
  unfound _ _ same := same
  untried _ _ same := same

theorem runDispatchTick_unmoved (unmoved : Unmoved Call.ByTick monitor ghost) :
    (DispatchLoop.runDispatchTick settings).Obeys monitor (fun next _ => next = ghost) ghost := by
  apply runDispatchTick_obeys (fun _ next => next = ghost)
  · exact obeys_outcome (obeys_unmoved unmoved .fetchActionableOrders trivial)
  · rintro order rest next rfl
    exact ⟨.unmoved unmoved,rfl,fun _ same => same⟩
  · exact fun _ same => same

end FoodDispatch
