import FoodDispatch.ScoringEngine
import FoodDispatch.Library.Exchanges

/-! The calls that only read. Up to its locks the scoring engine makes no others,
so no monitor that they leave alone can tell how far it has come. -/
namespace FoodDispatch
open Library
open Library.Program

def Call.Reads : Call → Prop
  | .now (.staleCutoff _) | .now (.score _) | .selectCandidates _ _ | .getDrivingEta _ _ _ _ => True
  | _ => False

/-- Those that scoring makes once the candidates are known. -/
def Call.Scores : Call → Prop
  | .now (.score _) | .getDrivingEta _ _ _ _ => True
  | _ => False

section
variable {Ghost : Type} {monitor : Monitor Call Reply PyException Ghost} {ghost : Ghost}
variable {calls : Call → Prop}

/-- These calls are allowed and leave the ghost as it is. -/
def Unmoved (calls : Call → Prop) (monitor : Monitor Call Reply PyException Ghost) (ghost : Ghost) :
    Prop :=
  ∀ request : Call, calls request →
    monitor.allows ghost request ∧ ∀ reply, monitor.after ghost request reply = ghost

theorem unmoved_only {allowed : Call → Prop}
    (reads : ∀ request : Call, request.Reads → allowed request) :
    Unmoved Call.Reads (only allowed : Monitor Call Reply PyException Unit) () :=
  fun request read => ⟨reads request read,fun _ => rfl⟩

theorem Unmoved.scores (unmoved : Unmoved Call.Reads monitor ghost) :
    Unmoved Call.Scores monitor ghost := by
  intro request scores
  apply unmoved request
  cases request with
  | now site => cases site <;> first | exact trivial | exact False.elim scores
  | getDrivingEta => exact trivial
  | _ => exact False.elim scores

theorem obeys_read {α : Type} (request : Call) (unmoved : Unmoved calls monitor ghost)
    (read : calls request) {next : Except PyException (Reply request) → Program α}
    (rest : ∀ reply, (next reply).Obeys monitor (fun final _ => final = ghost) ghost) :
    Obeys monitor (fun final _ => final = ghost) (.call request next) ghost := by
  obtain ⟨allowed,kept⟩ := unmoved request read
  refine ⟨allowed,fun reply _ => ?_⟩
  rw [kept reply]
  exact rest reply

/-- The clock is read, and unless that raises or there is no such cutoff, the drivers are
asked for that were seen since. -/
theorem getCandidates_rule {ends : Ghost → Except PyException (List Driver) → Prop}
    (settings : Settings) (order : UUID) (reads : monitor.allows ghost (.now (.staleCutoff order)))
    (raises : ∀ reply error, ends (monitor.after ghost (.now (.staleCutoff order)) reply) (.error error))
    (queries : ∀ now : ℤ, Obeys monitor ends
      (perform (Call.selectCandidates order (now - minutes settings.driverStaleThresholdMinutes)))
      (monitor.after ghost (.now (.staleCutoff order)) (.ok now))) :
    (getCandidates settings order).Obeys monitor ends ghost := by
  rw [getCandidates_at]
  refine ⟨reads,fun reply _ => ?_⟩
  cases reply with
  | error error => exact raises _ error
  | ok now =>
    change (candidatesAt settings order now).Obeys _ _ _
    unfold candidatesAt
    split
    · exact queries now
    · exact raises _ _

theorem getCandidates_obeys (unmoved : Unmoved Call.Reads monitor ghost) (settings : Settings)
    (order : UUID) :
    (getCandidates settings order).Obeys monitor (fun final _ => final = ghost) ghost := by
  obtain ⟨allowed,kept⟩ := unmoved (.now (.staleCutoff order)) trivial
  apply getCandidates_rule settings order allowed (fun reply _ => kept reply)
  intro now
  rw [kept]
  exact obeys_read (.selectCandidates order _) unmoved trivial (fun _ => rfl)

namespace ScoringEngine

theorem scoreDriver_obeys (unmoved : Unmoved Call.Scores monitor ghost) (order : Order) (now : ℤ)
    (destination : LatLng) (driver : Driver) :
    (scoreDriver order now destination driver).Obeys monitor (fun final _ => final = ghost) ghost := by
  unfold scoreDriver
  cases LatLng.build driver.currentLat driver.currentLng with
  | error error => exact rfl
  | ok origin =>
    apply obeys_read (.getDrivingEta order.id driver.id origin destination) unmoved trivial
    intro reply
    cases reply with
    | error error => exact rfl
    | ok etaResult =>
      change Obeys _ _ (if etaResult.ok = true then _ else _) _
      split
      · cases etaResult.durationMinutes with
        | error error => exact rfl
        | ok duration => cases duration <;> exact rfl
      · exact rfl

theorem scoreEach_obeys (unmoved : Unmoved Call.Scores monitor ghost) (order : Order) (now : ℤ)
    (destination : LatLng) (candidates : List Driver) :
    (scoreEach order now destination candidates).Obeys monitor (fun final _ => final = ghost)
      ghost := by
  induction candidates with
  | nil => exact rfl
  | cons driver rest ih =>
    apply obeys_bind (scoreDriver_obeys unmoved order now destination driver)
    · intro next scored same
      subst same
      exact obeys_bind ih (fun _ _ same => same) (fun _ _ same => same)
    · exact fun _ _ same => same

theorem scoreCandidates_obeys (unmoved : Unmoved Call.Scores monitor ghost) (order : Order)
    (candidates : List Driver) :
    (scoreCandidates order candidates).Obeys monitor (fun final _ => final = ghost) ghost := by
  apply obeys_read (.now (.score order.id)) unmoved trivial
  intro reply
  cases reply with
  | error error => exact rfl
  | ok now =>
    change Obeys _ _ (lift (LatLng.build _ _) >>= _) _
    cases LatLng.build (some order.restaurantLat) (some order.restaurantLng) with
    | error error => exact rfl
    | ok destination => exact scoreEach_obeys unmoved order now destination candidates

end ScoringEngine
end

namespace ScoringEngine

theorem scoreDriver_yields (order : Order) (now : ℤ) (destination : LatLng) (driver : Driver) :
    (scoreDriver order now destination driver).Yields (fun result =>
      ∀ scored, result = .ok scored → (scored.toList.map (fun one => one.driver)).Sublist [driver]) := by
  unfold scoreDriver
  cases LatLng.build driver.currentLat driver.currentLng with
  | error error =>
    intro scored raised
    contradiction
  | ok origin =>
    intro reply
    cases reply with
    | error error =>
      intro scored raised
      contradiction
    | ok etaResult =>
      change Yields _ (if etaResult.ok = true then _ else _)
      split
      next =>
        cases etaResult.durationMinutes with
        | error error =>
          intro scored raised
          contradiction
        | ok duration =>
          cases duration with
          | none =>
            intro scored raised
            contradiction
          | some etaMinutes =>
            rintro scored ⟨⟩
            exact List.Sublist.refl _
      next =>
        rintro scored ⟨⟩
        exact List.nil_sublist _

/-- The drivers scored are some of those found, in the order found. -/
theorem scoreEach_yields (order : Order) (now : ℤ) (destination : LatLng) (drivers : List Driver) :
    (scoreEach order now destination drivers).Yields (fun result =>
      ∀ scored, result = .ok scored → (scored.map (fun one => one.driver)).Sublist drivers) := by
  induction drivers with
  | nil =>
    rintro scored ⟨⟩
    exact List.Sublist.refl _
  | cons driver rest ih =>
    apply yields_bind (scoreDriver_yields order now destination driver)
    · intro first told
      apply yields_bind ih
      · rintro others later scored ⟨⟩
        rw [List.map_append]
        exact (told first rfl).append (later others rfl)
      · intro error _ scored raised
        contradiction
    · intro error _ scored raised
      contradiction

theorem scoreCandidates_yields (order : Order) (drivers : List Driver) :
    (scoreCandidates order drivers).Yields (fun result =>
      ∀ scored, result = .ok scored → (scored.map (fun one => one.driver)).Sublist drivers) := by
  intro reply
  cases reply with
  | error error =>
    intro scored raised
    contradiction
  | ok now =>
    change Yields _ (lift (LatLng.build _ _) >>= _)
    cases LatLng.build (some order.restaurantLat) (some order.restaurantLng) with
    | error error =>
      intro scored raised
      contradiction
    | ok destination => exact scoreEach_yields order now destination drivers

end ScoringEngine
end FoodDispatch
