import FoodDispatch.DispatchLoop
import FoodDispatch.Library.Footprint
import FoodDispatch.Reading

/-! The footprint of a tick. Of each reading of the clock, query, Maps request and lock
a tick makes at most one for an order, or for an order and a driver. -/
namespace FoodDispatch
open Library
open Library.Program

/-- What tells the calls of one tick apart. -/
inductive Key where
  | now (site : Site)
  | fetch
  | select (order : UUID)
  | route (order driver : UUID)
  | hold (order : UUID)
  | lock (order driver : UUID)
  | request
  deriving DecidableEq

def Call.key : Call → Key
  | .now site => .now site
  | .fetchActionableOrders => .fetch
  | .selectCandidates order _ => .select order
  | .getDrivingEta order driver _ _ => .route order driver
  | .applyHold order => .hold order
  | .attemptAtomicAssignment order driver => .lock order driver
  | .commitOrder _ _ _ | .refreshOrder _ | .seedDrivers _ | .pushPositions _ _ => .request

def Site.order? : Site → Option UUID
  | .gate order | .staleCutoff order | .score order => some order
  | .creation | .positions => none

namespace Key

def order? : Key → Option UUID
  | .now site => site.order?
  | .select order | .route order _ | .hold order | .lock order _ => some order
  | .fetch | .request => none

/-- Where the call stands in the evaluation of an order. -/
def stage : Key → ℕ
  | .now (.gate _) => 0
  | .now (.staleCutoff _) => 1
  | .select _ => 2
  | .now (.score _) => 3
  | .route _ _ => 4
  | .lock _ _ | .hold _ => 5
  | .now .creation | .now .positions | .fetch | .request => 6

/-- The keys of what an evaluation of the order may still call. -/
def onward (order : UUID) (stage : ℕ) : Set Key :=
  {key | key.order? = some order ∧ stage ≤ key.stage}

def routes (order : UUID) (drivers : List UUID) : Set Key :=
  {key | ∃ driver ∈ drivers, key = .route order driver}

def locks (order : UUID) (drivers : List UUID) : Set Key :=
  {key | ∃ driver ∈ drivers, key = .lock order driver}

end Key

/-- A query returns no row twice. -/
def Call.Distinct : (request : Call) → Except PyException (Reply request) → Prop
  | .fetchActionableOrders, .ok orders => (orders.map Order.id).Nodup
  | .selectCandidates _ _, .ok drivers => (drivers.map Driver.id).Nodup
  | _, _ => True

section Programs
open ScoringEngine Key
variable {settings : Settings} {order : Order}

theorem scoreDriver_spends (order : Order) (now : ℤ) (destination : LatLng) (driver : Driver) :
    (scoreDriver order now destination driver).Spends Call.key Call.Distinct
      {.route order.id driver.id} := by
  unfold scoreDriver
  cases LatLng.build driver.currentLat driver.currentLng with
  | error error => exact trivial
  | ok origin =>
    refine ⟨rfl,fun reply _ => ?_⟩
    cases reply with
    | error error => exact trivial
    | ok etaResult =>
      change Spends _ _ (if etaResult.ok = true then _ else _) _
      split
      next =>
        cases etaResult.durationMinutes with
        | error error => exact trivial
        | ok duration => cases duration <;> exact trivial
      next => exact trivial

theorem scoreEach_spends (order : Order) (now : ℤ) (destination : LatLng) {drivers : List Driver}
    (distinct : (drivers.map Driver.id).Nodup) :
    (scoreEach order now destination drivers).Spends Call.key Call.Distinct
      (routes order.id (drivers.map Driver.id)) := by
  induction drivers with
  | nil => exact trivial
  | cons driver rest ih =>
    obtain ⟨fresh,others⟩ := List.nodup_cons.mp distinct
    have apart : ∀ spent ∈ ({.route order.id driver.id} : Set Key),
        spent ∉ routes order.id (rest.map Driver.id) := by
      rintro spent rfl ⟨other,member,same⟩
      cases same
      exact fresh member
    have later (scored : Option ScoredCandidate) :
        (scoreEach order now destination rest >>= fun more => pure (scored.toList ++ more)).Spends
          Call.key Call.Distinct (routes order.id (rest.map Driver.id)) :=
      (ih others).quietly (fun _ => ⟨_,rfl⟩)
    apply (spends_bind (scoreDriver_spends order now destination driver) (yields_true _)
      (fun scored _ => later scored) apart).mono
    rintro spent (rfl | ⟨other,member,rfl⟩)
    · exact ⟨driver.id,by simp,rfl⟩
    · exact ⟨other,by simp [member],rfl⟩

theorem tryCandidates_spends (order : Order) {scored : List ScoredCandidate}
    (distinct : (scored.map (fun one => one.driver.id)).Nodup) :
    (tryCandidates order scored).Spends Call.key Call.Distinct
      (locks order.id (scored.map (fun one => one.driver.id))) := by
  induction scored with
  | nil => exact trivial
  | cons candidate rest ih =>
    obtain ⟨fresh,others⟩ := List.nodup_cons.mp distinct
    refine ⟨⟨candidate.driver.id,by simp,rfl⟩,fun reply _ => ?_⟩
    rcases reply with error | (_ | _)
    · exact trivial
    · apply (ih others).leaving
      · rintro ⟨driver,member,same⟩
        cases same
        exact fresh member
      · rintro spent ⟨driver,member,rfl⟩
        exact ⟨driver,by simp [member],rfl⟩
    · exact trivial

/-- A call of this stage is not among those of later stages. -/
theorem spends_later {α : Type} {rest : Program α} {order : UUID} {spent : Key} {now later : ℕ}
    (spends : rest.Spends Call.key Call.Distinct (onward order later)) (past : spent.stage < later)
    (onwards : now ≤ later) : rest.Spends Call.key Call.Distinct (onward order now \ {spent}) := by
  apply spends.leaving
  · exact fun unspent => past.not_ge unspent.2
  · exact fun other further => ⟨further.1,onwards.trans further.2⟩

theorem sorted_distinct {drivers : List Driver} {scored : List ScoredCandidate}
    (distinct : (drivers.map Driver.id).Nodup)
    (listed : (scored.map (fun one => one.driver)).Sublist drivers) :
    ((sorted scored).map (fun one => one.driver.id)).Nodup := by
  have permuted : (sorted scored).Perm scored := List.perm_insertionSort _ scored
  rw [(permuted.map _).nodup_iff]
  have ids := distinct.sublist (listed.map Driver.id)
  rwa [List.map_map] at ids

theorem scoreCandidates_spends {drivers : List Driver} (distinct : (drivers.map Driver.id).Nodup) :
    (scoreCandidates order drivers).Spends Call.key Call.Distinct
      (insert (.now (.score order.id)) (routes order.id (drivers.map Driver.id))) := by
  refine ⟨Set.mem_insert _ _,fun reply _ => ?_⟩
  cases reply with
  | error error => exact trivial
  | ok now =>
    change Spends _ _ (lift (LatLng.build _ _) >>= _) _
    cases LatLng.build (some order.restaurantLat) (some order.restaurantLng) with
    | error error => exact trivial
    | ok destination =>
      apply (scoreEach_spends order now destination distinct).leaving
      · rintro ⟨driver,_,same⟩
        contradiction
      · exact Set.subset_insert _ _

theorem assignAmong_spends {drivers : List Driver} (distinct : (drivers.map Driver.id).Nodup) :
    (assignAmong order drivers).Spends Call.key Call.Distinct (onward order.id 3) := by
  unfold assignAmong
  split
  · exact trivial
  · have later (scored : List ScoredCandidate) (told : ∀ others,
        (.ok scored : Except PyException (List ScoredCandidate)) = .ok others →
          (others.map (fun one => one.driver)).Sublist drivers) :
        (if scored.isEmpty then pure false else tryCandidates order (sorted scored) :
          Program Bool).Spends Call.key Call.Distinct (onward order.id 5) := by
      split
      · exact trivial
      · apply (tryCandidates_spends order (sorted_distinct distinct (told scored rfl))).mono
        rintro spent ⟨driver,_,rfl⟩
        exact ⟨rfl,le_rfl⟩
    apply (spends_bind (scoreCandidates_spends distinct) (scoreCandidates_yields order drivers) later _).mono
    · rintro spent ((rfl | ⟨driver,_,rfl⟩) | further)
      · exact ⟨rfl,le_rfl⟩
      · exact ⟨rfl,Nat.le_succ _⟩
      · exact ⟨further.1,(by decide : 3 ≤ 5).trans further.2⟩
    · rintro spent (rfl | ⟨driver,_,rfl⟩) further
      · exact absurd (show 5 ≤ 3 from further.2) (by decide)
      · exact absurd (show 5 ≤ 4 from further.2) (by decide)

theorem assignBestDriver_spends :
    (assignBestDriver settings order).Spends Call.key Call.Distinct (onward order.id 1) := by
  unfold assignBestDriver
  rw [getCandidates_at]
  refine ⟨⟨rfl,le_rfl⟩,fun reply _ => spends_later ?_ (Nat.lt_succ_self 1) (by decide)⟩
  cases reply with
  | error error => exact trivial
  | ok time =>
    change ((candidatesAt settings order.id time).bind (assignAmong order)).Spends _ _ _
    unfold candidatesAt
    split
    · refine ⟨⟨rfl,le_rfl⟩,fun reply distinct => spends_later ?_ (Nat.lt_succ_self 2) (by decide)⟩
      cases reply with
      | error error => exact trivial
      | ok found => exact assignAmong_spends distinct
    · exact trivial

theorem evaluate_spends (settings : Settings) (order : Order) :
    (DispatchLoop.evaluate settings order).Spends Call.key Call.Distinct (onward order.id 0) := by
  rw [DispatchLoop.evaluate_decided]
  refine ⟨⟨rfl,le_rfl⟩,fun reply _ => spends_later ?_ (Nat.lt_succ_self 0) (by decide)⟩
  cases reply with
  | error error => exact trivial
  | ok now =>
    change (DispatchLoop.decided settings order now).Spends _ _ _
    unfold DispatchLoop.decided
    split
    · exact assignBestDriver_spends.quietly (fun _ => ⟨_,rfl⟩)
    · unfold DispatchLoop.applyHold
      split
      · exact trivial
      · exact ⟨⟨rfl,Nat.le_add_left 1 4⟩,fun _ _ => trivial⟩

/-- A tick makes no call twice. -/
theorem runDispatchTick_spends :
    (DispatchLoop.runDispatchTick settings).Spends Call.key Call.Distinct Set.univ := by
  apply spends_tryExcept _ (fun _ => ⟨_,rfl⟩)
  refine ⟨trivial,fun reply distinct => ?_⟩
  cases reply with
  | error error => exact trivial
  | ok orders =>
    have apart : orders.Pairwise (fun order other =>
        ∀ spent ∈ onward order.id 0, spent ∉ onward other.id 0) := by
      apply (List.pairwise_map.mp distinct).imp
      rintro order other different spent here there
      exact different (Option.some.inj (here.1.symm.trans there.1))
    apply (spends_forEach orders (fun order _ =>
      spends_tryExcept (evaluate_spends settings order) (fun _ => ⟨_,rfl⟩)) apart).leaving
    · rintro ⟨order,_,missing,_⟩
      contradiction
    · exact Set.subset_univ _

end Programs
end FoodDispatch
