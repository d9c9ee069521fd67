import FoodDispatch.Effects
import FoodDispatch.Library.Diary
import FoodDispatch.Library.Ranking
import FoodDispatch.Walk

/-! What stands in the diary of a dispatch loop at each of its Maps requests and locks.
An evaluation asks for the routes of the drivers it found, one after the other, and
then tries those with a route in the order of their driving time. -/
namespace FoodDispatch
open Library
open Library.Program

abbrev Diary := List (Entry Call Reply PyException)

/-- A driver that a query found, its place then, and the answer about its route. -/
structure Asked where
  driver : Driver
  origin : LatLng
  eta : RouteETAResult
  placed : LatLng.build driver.currentLat driver.currentLng = .ok origin

namespace Asked

def routed (asked : Asked) : Bool := asked.eta.ok

def seconds (asked : Asked) : ℤ := asked.eta.durationSeconds.getD 0

def entry (order : UUID) (destination : LatLng) (asked : Asked) : Entry Call Reply PyException :=
  ⟨.getDrivingEta order asked.driver.id asked.origin destination,.ok asked.eta⟩

end Asked

def refusal (order driver : UUID) : Entry Call Reply PyException :=
  ⟨.attemptAtomicAssignment order driver,.ok false⟩

/-- The fetched copy that is evaluated, and what its evaluation has learned. -/
structure Evaluation where
  copy : Order
  destination : LatLng
  cutoff : ℤ
  found : List Driver
  now : ℤ
  routes : List Asked
  refused : List UUID
  placed : LatLng.build (some copy.restaurantLat) (some copy.restaurantLng) = .ok destination

namespace Evaluation

/-- The entries of the evaluation, from the query of its candidates on. -/
def entries (evaluation : Evaluation) : Diary :=
  ⟨.selectCandidates evaluation.copy.id evaluation.cutoff,.ok evaluation.found⟩ ::
    ⟨.now (.score evaluation.copy.id),.ok evaluation.now⟩ ::
      (evaluation.routes.map (Asked.entry evaluation.copy.id evaluation.destination) ++
        evaluation.refused.map (refusal evaluation.copy.id))

/-- The asked drivers that have a route, the nearest first. -/
def ranking (evaluation : Evaluation) : List Asked :=
  ranked Asked.seconds (evaluation.routes.filter Asked.routed)

/-- The next request asks about the next driver. -/
def Asks (evaluation : Evaluation) (driver : UUID) (origin destination : LatLng) : Prop :=
  ∃ next rest, evaluation.found = evaluation.routes.map Asked.driver ++ next::rest ∧
    evaluation.refused = [] ∧ next.id = driver ∧ destination = evaluation.destination ∧
      LatLng.build next.currentLat next.currentLng = .ok origin

/-- All drivers have been asked about, and the next lock tries the nearest that is left. -/
def Tries (evaluation : Evaluation) (driver : UUID) : Prop :=
  evaluation.found = evaluation.routes.map Asked.driver ∧
    ∃ rest, evaluation.ranking.map (fun asked => asked.driver.id) =
      evaluation.refused ++ driver::rest

/-- The copy was among the orders of a fetch in the diary. -/
def Fetched (diary : Diary) (copy : Order) : Prop :=
  ∃ orders, ⟨.fetchActionableOrders,.ok orders⟩ ∈ diary ∧ copy ∈ orders

/-- The diary ends in the entries of the evaluation, whose copy was fetched before. -/
def Ends (evaluation : Evaluation) (diary : Diary) : Prop :=
  ∃ earlier, diary = earlier ++ evaluation.entries ∧ Fetched earlier evaluation.copy

def permits (diary : Diary) : Call → Prop
  | .getDrivingEta order driver origin destination => ∃ evaluation : Evaluation,
      evaluation.Ends diary ∧ evaluation.copy.id = order ∧ evaluation.Asks driver origin destination
  | .attemptAtomicAssignment order driver => ∃ evaluation : Evaluation,
      evaluation.Ends diary ∧ evaluation.copy.id = order ∧ evaluation.Tries driver
  | _ => True

def monitor : Monitor Call Reply PyException Diary := .chronicle permits

def scoredAs (evaluation : Evaluation) (asked : Asked) : ScoringEngine.ScoredCandidate :=
  ⟨asked.driver,asked.seconds / 60,
    ScoringEngine.computeScore (asked.seconds / 60) evaluation.now evaluation.copy.predictedReadyAt⟩

def asking (evaluation : Evaluation) (more : List Asked) : Evaluation :=
  {evaluation with routes := evaluation.routes ++ more}

def refusing (evaluation : Evaluation) (driver : UUID) : Evaluation :=
  {evaluation with refused := evaluation.refused ++ [driver]}

section Jobs
open ScoringEngine
variable {settings : Settings} {diary : Diary} {evaluation : Evaluation} {order : Order}

theorem Fetched.later {final : Diary} (fetched : Fetched diary order) (longer : diary <+: final) :
    Fetched final order := by
  obtain ⟨orders,member,listed⟩ := fetched
  exact ⟨orders,longer.subset member,listed⟩

theorem Ends.ask (ends : evaluation.Ends diary) (untried : evaluation.refused = []) (asked : Asked) :
    (evaluation.asking [asked]).Ends
      (diary ++ [asked.entry evaluation.copy.id evaluation.destination]) := by
  obtain ⟨earlier,rfl,fetched⟩ := ends
  exact ⟨earlier,by simp [entries,asking,untried],fetched⟩

theorem Ends.refuse (ends : evaluation.Ends diary) (driver : UUID) :
    (evaluation.refusing driver).Ends (diary ++ [refusal evaluation.copy.id driver]) := by
  obtain ⟨earlier,rfl,fetched⟩ := ends
  exact ⟨earlier,by simp [entries,refusing],fetched⟩

/-- The score is that of the driving time, and there is one if there is a route. -/
theorem scoreDriver_obeys {driver : Driver} {rest : List Driver} (ends : evaluation.Ends diary)
    (untried : evaluation.refused = [])
    (coming : evaluation.found = evaluation.routes.map Asked.driver ++ driver::rest) :
    (scoreDriver evaluation.copy evaluation.now evaluation.destination driver).Obeys monitor
      (fun final result => match result with
        | .ok scored => ∃ asked : Asked, asked.driver = driver ∧
            (evaluation.asking [asked]).Ends final ∧
            scored.toList = ([asked].filter Asked.routed).map evaluation.scoredAs
        | .error _ => True) diary := by
  unfold scoreDriver
  cases placed : LatLng.build driver.currentLat driver.currentLng with
  | error error => exact trivial
  | ok origin =>
    refine ⟨⟨evaluation,ends,rfl,driver,rest,coming,untried,rfl,rfl,placed⟩,fun reply _ => ?_⟩
    cases reply with
    | error error => exact trivial
    | ok etaResult =>
      have asked := ends.ask untried ⟨driver,origin,etaResult,placed⟩
      change Obeys _ _ (if etaResult.ok = true then _ else _) _
      split
      next route =>
        cases found : etaResult.durationMinutes with
        | error error => exact trivial
        | ok duration =>
          cases duration with
          | none => exact trivial
          | some etaMinutes =>
            obtain ⟨seconds,stated,rfl⟩ := RouteETAResult.durationMinutes_ok found
            exact ⟨_,rfl,asked,by simp [route,stated,scoredAs,Asked.routed,Asked.seconds]⟩
      next none => exact ⟨_,rfl,asked,by simp [none,Asked.routed]⟩

theorem scoreEach_obeys {rest : List Driver} (ends : evaluation.Ends diary)
    (untried : evaluation.refused = [])
    (coming : evaluation.found = evaluation.routes.map Asked.driver ++ rest) :
    (scoreEach evaluation.copy evaluation.now evaluation.destination rest).Obeys monitor
      (fun final result => match result with
        | .ok scored => ∃ more : List Asked, more.map Asked.driver = rest ∧
            (evaluation.asking more).Ends final ∧
            scored = (more.filter Asked.routed).map evaluation.scoredAs
        | .error _ => True) diary := by
  induction rest generalizing evaluation diary with
  | nil =>
    refine ⟨[],rfl,?_,rfl⟩
    unfold asking
    rw [List.append_nil]
    exact ends
  | cons driver rest ih =>
    apply obeys_bind (scoreDriver_obeys ends untried coming)
    · rintro next scored ⟨asked,rfl,after,first⟩
      apply obeys_bind (ih after untried (by simp [coming,asking]))
      · rintro final others ⟨more,rfl,reached,later⟩
        refine ⟨asked::more,rfl,?_,?_⟩
        · simpa [asking] using reached
        · rw [first,later,← List.singleton_append (l := more),List.filter_append,List.map_append]
          rfl
      · exact fun _ _ _ => trivial
    · exact fun _ _ _ => trivial

/-- Ranked by score is ranked by driving time. -/
theorem sorted_ranking (evaluation : Evaluation) :
    sorted ((evaluation.routes.filter Asked.routed).map evaluation.scoredAs) =
      evaluation.ranking.map evaluation.scoredAs := by
  have rises : StrictMono (fun seconds : ℤ => computeScore (seconds / 60) evaluation.now
      evaluation.copy.predictedReadyAt) :=
    fun _ _ shorter => computeScore_lt _ _ shorter
  symm
  apply List.map_insertionSort
  intro first _ second _
  exact (rises.le_iff_le).symm

/-- The order was evaluated up to the scores of the drivers found. -/
def Scored (order : Order) (found : List Driver) (final : Diary)
    (result : Except PyException (List ScoredCandidate)) : Prop :=
  ∀ scored, result = .ok scored → ∃ evaluation : Evaluation, evaluation.copy = order ∧
    evaluation.Ends final ∧ evaluation.refused = [] ∧
      found = evaluation.routes.map Asked.driver ∧ evaluation.found = found ∧
        scored = (evaluation.routes.filter Asked.routed).map evaluation.scoredAs

theorem scoreCandidates_obeys {cutoff : ℤ} {found : List Driver} (fetched : Fetched diary order) :
    (scoreCandidates order found).Obeys monitor (Scored order found)
      (diary ++ [⟨.selectCandidates order.id cutoff,.ok found⟩]) := by
  refine ⟨trivial,fun reply _ => ?_⟩
  cases reply with
  | error error =>
    intro scored raised
    contradiction
  | ok now =>
    change Obeys _ _ (lift (LatLng.build _ _) >>= _) _
    cases placed : LatLng.build (some order.restaurantLat) (some order.restaurantLng) with
    | error error =>
      intro scored raised
      contradiction
    | ok destination =>
      have begun : (⟨order,destination,cutoff,found,now,[],[],placed⟩ : Evaluation).Ends
          (diary ++ [⟨.selectCandidates order.id cutoff,.ok found⟩] ++
            [⟨.now (.score order.id),.ok now⟩]) :=
        ⟨diary,by simp [entries],fetched⟩
      apply obeys_mono (scoreEach_obeys begun rfl rfl)
      rintro final result told scored rfl
      obtain ⟨more,drivers,ends,told⟩ := told
      exact ⟨_,rfl,ends,rfl,drivers.symm,rfl,told⟩

/-- What has been fetched stays in the diary, whatever an evaluation adds. -/
def walk (fetched : Fetched diary order) : Walk monitor settings order where
  enters next := next = diary
  evaluates next := diary <+: next
  holds next := diary <+: next
  finds found next := ∃ before cutoff, diary <+: before ∧
    next = before ++ [⟨.selectCandidates order.id cutoff,.ok found⟩]
  tries scored next := diary <+: next ∧ ∃ evaluation : Evaluation, evaluation.copy = order ∧
    evaluation.Ends next ∧ evaluation.found = evaluation.routes.map Asked.driver ∧
      evaluation.ranking.map (fun asked => asked.driver.id) =
        evaluation.refused ++ scored.map (fun candidate => candidate.driver.id)
  leaves next := diary <+: next
  gate := by
    rintro diary rfl
    refine ⟨trivial,fun reply _ => ?_⟩
    have longer := List.prefix_append diary [⟨.now (.gate order.id),reply⟩]
    cases reply with
    | error error => exact longer
    | ok now => exact of_eq_true ((ite_self _).trans (eq_true longer))
  hold next before := ⟨trivial,fun _ _ => before.trans (List.prefix_append _ _)⟩
  query next before := by
    have read (reply : Except PyException ℤ) :=
      before.trans (List.prefix_append next [⟨.now (.staleCutoff order.id),reply⟩])
    apply getCandidates_rule settings order.id trivial (fun reply _ => read reply)
    refine fun now => ⟨trivial,fun reply _ => ?_⟩
    cases reply with
    | error error => exact (read (.ok now)).trans (List.prefix_append _ _)
    | ok found => exact ⟨_,_,read (.ok now),rfl⟩
  score := by
    rintro _ found ⟨earlier,cutoff,before,rfl⟩
    have kept := before.trans (List.prefix_append earlier [⟨.selectCandidates order.id cutoff,.ok found⟩])
    apply obeys_mono (obeys_extends (scoreCandidates_obeys (fetched.later before)))
    rintro final (error | scored) ⟨told,longer⟩
    · exact kept.trans longer
    · obtain ⟨evaluation,rfl,ends,untried,drivers,all,rfl⟩ := told scored rfl
      refine ⟨kept.trans longer,evaluation,rfl,ends,all.trans drivers,?_⟩
      rw [sorted_ranking,untried,List.map_map]
      rfl
  attempt := by
    rintro next candidate rest ⟨before,evaluation,rfl,ends,complete,left⟩
    refine ⟨⟨evaluation,ends,rfl,complete,_,left⟩,fun reply _ => ?_⟩
    rcases reply with error | (_ | _)
    · exact before.trans (List.prefix_append _ _)
    · refine ⟨before.trans (List.prefix_append _ _),evaluation.refusing candidate.driver.id,rfl,
        ends.refuse _,complete,?_⟩
      change evaluation.ranking.map _ = _
      rw [left]
      simp [refusing]
    · exact before.trans (List.prefix_append _ _)
  unheld _ before := before
  unfound := by
    rintro _ drivers ⟨earlier,_,before,rfl⟩
    exact before.trans (List.prefix_append _ _)
  untried _ _ told := told.1

theorem body_obeys (job : Job) : (job.body settings).Obeys monitor (fun _ _ => True) diary := by
  by_cases tick : job.isTick = true
  · cases job with
    | dispatchTick =>
      apply runDispatchTick_obeys (fun rest next => ∀ order ∈ rest, Fetched next order)
      · refine ⟨trivial,fun reply _ => ?_⟩
        cases reply with
        | error error => exact trivial
        | ok orders =>
          intro order member
          exact ⟨orders,List.mem_append_right _ (List.mem_singleton_self _),member⟩
      · intro order rest next known
        refine ⟨walk (known order (by simp)),rfl,fun final longer other member => ?_⟩
        exact (known other (by simp [member])).later longer
      · exact fun _ _ => trivial
    | _ => contradiction
  · apply Job.body_obeys (Bool.eq_false_of_not_eq_true tick)
    intro diary request other
    cases request with
    | getDrivingEta | attemptAtomicAssignment => exact absurd trivial other
    | _ => exact trivial

end Jobs
end Evaluation
end FoodDispatch
