import FoodDispatch.Surroundings

/-! Candidates that cannot be scored. A failed route is skipped; coordinates that
`LatLng` rejects, and a route without a usable duration, raise out of the scoring
loop and take the whole evaluation of the order with them. -/
namespace FoodDispatch
open Library
open Library.Program (run_bind run_bind_ok run_bind_error)
open ScoringEngine

namespace Surroundings
variable (env : Surroundings)

def duration (order : UUID) (driver : Driver) : Option ℚ :=
  match (env.maps order driver.id).durationMinutes with
  | .ok duration => duration
  | .error _ => none

def scorable (order : UUID) (driver : Driver) : Bool :=
  LatLng.accepts driver.currentLat driver.currentLng && (env.maps order driver.id).ok &&
    (env.duration order driver).isSome

def raises (order : UUID) (driver : Driver) : Bool :=
  !LatLng.accepts driver.currentLat driver.currentLng ||
    ((env.maps order driver.id).ok && (env.duration order driver).isNone)

def scoreOf (order : Order) (driver : Driver) : Option ScoredCandidate :=
  if env.scorable order.id driver then (env.duration order.id driver).map (fun etaMinutes =>
    ⟨driver,etaMinutes,computeScore etaMinutes (env.clock (.score order.id)) order.predictedReadyAt⟩)
  else none

def ScoringError (error : PyException) : Prop :=
  error = .validationError ∨ error = .typeError ∨ error = .overflowError

variable {env} {order : Order} {driver : Driver} {destination : LatLng} {db : Database}

theorem run_scoreDriver_ok (quiet : env.raises order.id driver = false) :
    env.run (scoreDriver order (env.clock (.score order.id)) destination driver) db =
      (.ok (env.scoreOf order driver),db) := by
  unfold raises at quiet
  simp only [Bool.or_eq_false_iff,Bool.not_eq_false',Bool.and_eq_false_iff] at quiet
  obtain ⟨accepted,usable⟩ := quiet
  obtain ⟨origin,built⟩ := LatLng.build_of_accepts accepted
  unfold scoreDriver scoreOf scorable run
  rw [built,accepted]
  change Library.Program.run env.handle (if (env.maps order.id driver.id).ok = true then _ else _) db = _
  cases route : (env.maps order.id driver.id).ok with
  | false => rfl
  | true =>
    rcases usable with failed | found
    · rw [route] at failed
      contradiction
    · unfold duration at found ⊢
      cases told : (env.maps order.id driver.id).durationMinutes with
      | error error =>
        rw [told] at found
        contradiction
      | ok minutes =>
        cases minutes with
        | none =>
          rw [told] at found
          contradiction
        | some etaMinutes => rfl

theorem run_scoreDriver_error (destination : LatLng) (db : Database)
    (raised : env.raises order.id driver = true) :
    ∃ error, ScoringError error ∧
      env.run (scoreDriver order (env.clock (.score order.id)) destination driver) db =
        (.error error,db) := by
  unfold scoreDriver run
  cases accepted : LatLng.accepts driver.currentLat driver.currentLng with
  | false =>
    rw [LatLng.build_of_rejects accepted]
    exact ⟨_,Or.inl rfl,rfl⟩
  | true =>
    obtain ⟨origin,built⟩ := LatLng.build_of_accepts accepted
    unfold raises at raised
    rw [accepted] at raised
    simp only [Bool.not_true,Bool.false_or,Bool.and_eq_true] at raised
    obtain ⟨route,unusable⟩ := raised
    rw [built]
    change ∃ error, ScoringError error ∧ Library.Program.run env.handle
      (if (env.maps order.id driver.id).ok = true then _ else _) db = _
    rw [if_pos route]
    unfold duration at unusable
    cases told : (env.maps order.id driver.id).durationMinutes with
    | error error =>
      exact ⟨error,Or.inr (Or.inr (RouteETAResult.durationMinutes_error told)),rfl⟩
    | ok minutes =>
      cases minutes with
      | none => exact ⟨_,Or.inr (Or.inl rfl),rfl⟩
      | some etaMinutes =>
        rw [told] at unusable
        contradiction

theorem run_scoreEach_ok {candidates : List Driver}
    (quiet : ∀ driver ∈ candidates, env.raises order.id driver = false) :
    env.run (scoreEach order (env.clock (.score order.id)) destination candidates) db =
      (.ok (candidates.filterMap (env.scoreOf order)),db) := by
  induction candidates with
  | nil => rfl
  | cons driver rest ih =>
    have head : env.run (scoreDriver order (env.clock (.score order.id)) destination driver) db =
        (.ok (env.scoreOf order driver),db) := run_scoreDriver_ok (quiet driver (by simp))
    have tail := ih (fun other member => quiet other (by simp [member]))
    unfold run at head tail ⊢
    unfold scoreEach
    rw [run_bind_ok _ head,run_bind_ok _ tail]
    cases scored : env.scoreOf order driver with
    | none =>
      rw [List.filterMap_cons_none scored]
      rfl
    | some candidate =>
      rw [List.filterMap_cons_some scored]
      rfl

theorem run_scoreEach_error (destination : LatLng) (db : Database) {candidates : List Driver}
    (raised : ∃ driver ∈ candidates, env.raises order.id driver = true) :
    ∃ error, ScoringError error ∧
      env.run (scoreEach order (env.clock (.score order.id)) destination candidates) db =
        (.error error,db) := by
  induction candidates with
  | nil =>
    obtain ⟨driver,member,_⟩ := raised
    contradiction
  | cons driver rest ih =>
    unfold run scoreEach
    cases first : env.raises order.id driver with
    | true =>
      obtain ⟨error,escapes,head⟩ := run_scoreDriver_error destination db first
      exact ⟨error,escapes,run_bind_error _ head⟩
    | false =>
      have later : ∃ driver ∈ rest, env.raises order.id driver = true := by
        obtain ⟨other,member,bad⟩ := raised
        rcases List.mem_cons.mp member with rfl | inside
        · rw [first] at bad
          contradiction
        · exact ⟨other,inside,bad⟩
      obtain ⟨error,escapes,tail⟩ := ih later
      refine ⟨error,escapes,?_⟩
      have head : env.run (scoreDriver order (env.clock (.score order.id)) destination driver) db =
          (.ok (env.scoreOf order driver),db) := run_scoreDriver_ok first
      unfold run at head tail
      rw [run_bind_ok _ head,run_bind_error _ tail]

theorem run_tryCandidates_cons (candidate : ScoredCandidate) (rest : List ScoredCandidate) :
    env.run (tryCandidates order (candidate::rest)) db =
      match env.handle (.attemptAtomicAssignment order.id candidate.driver.id) db with
      | (.ok true,next) => (.ok true,next)
      | (.ok false,next) => env.run (tryCandidates order rest) next
      | (.error error,next) => (.error error,next) := by
  unfold run
  rw [tryCandidates,run_bind,Program.run_perform]
  rcases env.handle (.attemptAtomicAssignment order.id candidate.driver.id) db with
    ⟨error | (_ | _),next⟩ <;> rfl

theorem handle_attempt_error {order driver : UUID} {after : Database} {error : PyException}
    (raised : env.handle (.attemptAtomicAssignment order driver) db = (.error error,after)) :
    error = .integrityError := by
  have committed : Call.commit (Transaction.attemptAtomicAssignment order driver
      (env.lockedAt order driver)) (env.others order driver db) = (.error error,after) := raised
  rcases Call.commit_cases committed with ⟨_,_,told⟩ | ⟨_,ran,told,_⟩
  · contradiction
  · cases told
    rcases Transaction.attemptAtomicAssignment_cases order driver (env.lockedAt order driver)
      (env.others order driver db) with ⟨_,outcome⟩ | ⟨_,_,outcome⟩ | ⟨next,outcome,_⟩
    · rw [outcome] at ran
      contradiction
    · rw [outcome] at ran
      cases ran
      rfl
    · rw [outcome] at ran
      contradiction

theorem run_tryCandidates_error {scored : List ScoredCandidate} {after : Database}
    {error : PyException} (raised : env.run (tryCandidates order scored) db = (.error error,after)) :
    error = .integrityError := by
  induction scored generalizing db with
  | nil =>
    have told : ((.ok false,db) : Except PyException Bool × Database) = (.error error,after) := raised
    cases told
  | cons candidate rest ih =>
    rw [run_tryCandidates_cons] at raised
    split at raised
    · simp at raised
    · exact ih raised
    next told =>
      cases raised
      exact handle_attempt_error told

section Among
variable {candidates : List Driver}

def tryScored (env : Surroundings) (order : Order) (candidates : List Driver) (db : Database) :
    Except PyException Bool × Database :=
  env.run (tryCandidates order (sorted (candidates.filterMap (env.scoreOf order)))) db

theorem run_scoreCandidates_ok
    (valid : LatLng.accepts (some order.restaurantLat) (some order.restaurantLng) = true)
    (quiet : ∀ driver ∈ candidates, env.raises order.id driver = false) :
    env.run (scoreCandidates order candidates) db =
      (.ok (candidates.filterMap (env.scoreOf order)),db) := by
  obtain ⟨destination,built⟩ := LatLng.build_of_accepts valid
  unfold scoreCandidates run
  rw [built]
  exact run_scoreEach_ok quiet

theorem run_assignAmong_ok
    (valid : LatLng.accepts (some order.restaurantLat) (some order.restaurantLng) = true)
    (quiet : ∀ driver ∈ candidates, env.raises order.id driver = false) :
    env.run (assignAmong order candidates) db = tryScored env order candidates db := by
  have scored : env.run (scoreCandidates order candidates) db =
      (.ok (candidates.filterMap (env.scoreOf order)),db) := run_scoreCandidates_ok valid quiet
  unfold run at scored
  unfold assignAmong tryScored
  cases candidates with
  | nil => rfl
  | cons driver rest =>
    unfold run
    rw [List.isEmpty_cons,if_neg Bool.false_ne_true,run_bind_ok _ scored]
    cases survivors : (driver::rest).filterMap (env.scoreOf order) with
    | nil => rfl
    | cons candidate others => rw [List.isEmpty_cons,if_neg Bool.false_ne_true]

theorem run_assignAmong_error (db : Database)
    (valid : LatLng.accepts (some order.restaurantLat) (some order.restaurantLng) = true)
    (raised : ∃ driver ∈ candidates, env.raises order.id driver = true) :
    ∃ error, ScoringError error ∧
      env.run (assignAmong order candidates) db = (.error error,db) := by
  obtain ⟨destination,built⟩ := LatLng.build_of_accepts valid
  obtain ⟨error,escapes,scoring⟩ := run_scoreEach_error destination db raised
  refine ⟨error,escapes,?_⟩
  have scored : env.run (scoreCandidates order candidates) db = (.error error,db) := by
    unfold scoreCandidates run
    rw [built]
    exact scoring
  unfold run at scored
  unfold assignAmong
  cases candidates with
  | nil =>
    obtain ⟨driver,member,_⟩ := raised
    contradiction
  | cons driver rest =>
    unfold run
    rw [List.isEmpty_cons,if_neg Bool.false_ne_true,run_bind_error _ scored]

end Among

/-- An evaluation equals the one without its unscorable candidates exactly when no
candidate raises. -/
theorem assignAmong_filter_iff (env : Surroundings) (order : Order) (candidates : List Driver)
    (db : Database)
    (valid : LatLng.accepts (some order.restaurantLat) (some order.restaurantLng) = true) :
    env.run (assignAmong order candidates) db =
        env.run (assignAmong order (candidates.filter (env.scorable order.id))) db ↔
      ∀ driver ∈ candidates, env.raises order.id driver = false := by
  have clean : ∀ driver ∈ candidates.filter (env.scorable order.id),
      env.raises order.id driver = false := by
    intro driver member
    have scorable := (List.mem_filter.mp member).2
    unfold Surroundings.scorable at scorable
    simp only [Bool.and_eq_true] at scorable
    obtain ⟨⟨accepted,route⟩,usable⟩ := scorable
    unfold raises
    rw [accepted,route]
    simpa using usable
  have survivors : (candidates.filter (env.scorable order.id)).filterMap (env.scoreOf order) =
      candidates.filterMap (env.scoreOf order) := by
    rw [List.filterMap_filter]
    apply List.filterMap_congr
    intro driver _
    unfold scoreOf
    split <;> rfl
  rw [run_assignAmong_ok valid clean]
  constructor
  · intro same driver member
    by_contra raising
    have raised : env.raises order.id driver = true := by simpa using raising
    obtain ⟨error,escapes,outcome⟩ := run_assignAmong_error db valid ⟨driver,member,raised⟩
    rw [outcome] at same
    have integrity := run_tryCandidates_error same.symm
    rw [integrity] at escapes
    simp [ScoringError] at escapes
  · intro quiet
    rw [run_assignAmong_ok valid quiet]
    unfold tryScored
    rw [survivors]

def strayDrivers : List Driver :=
  [{Sample.driver 1 "1" with currentLat := some (.finite 91)},Sample.driver 2 "2"]

def strayTables : Database :=
  Sample.database strayDrivers [Sample.order 3]

theorem stray_blocks : ¬∀ (env : Surroundings) (order : Order) (candidates : List Driver)
    (db : Database), LatLng.accepts (some order.restaurantLat) (some order.restaurantLng) = true →
      env.run (assignAmong order candidates) db =
        env.run (assignAmong order (candidates.filter (env.scorable order.id))) db := by
  intro claimed
  let env := Sample.surroundings (fun _ _ => .success 60 1000)
  have same := claimed env (Sample.order 3) strayDrivers strayTables (by decide +kernel)
  have blocked : (env.run (assignAmong (Sample.order 3) strayDrivers) strayTables).1.toBool =
      false := by
    decide +kernel
  rw [same] at blocked
  have assigned : (env.run (assignAmong (Sample.order 3)
      (strayDrivers.filter (env.scorable (Sample.order 3).id))) strayTables).1.toBool = true := by
    decide +kernel
  exact Bool.false_ne_true (blocked.symm.trans assigned)

def oneRoute : Surroundings := Sample.surroundings (fun _ driver =>
  if driver = Sample.id 1 then .failure (.text "ZERO_RESULTS") else .success 60 1000)

theorem failed_route_skipped :
    oneRoute.run (assignAmong (Sample.order 3) [Sample.driver 1 "1",Sample.driver 2 "2"]) strayTables =
      oneRoute.run (assignAmong (Sample.order 3)
        ([Sample.driver 1 "1",Sample.driver 2 "2"].filter
          (oneRoute.scorable (Sample.order 3).id))) strayTables := by
  have quiet : ∀ driver ∈ [Sample.driver 1 "1",Sample.driver 2 "2"],
      oneRoute.raises (Sample.order 3).id driver = false := by
    decide +kernel
  have valid : LatLng.accepts (some (Sample.order 3).restaurantLat)
      (some (Sample.order 3).restaurantLng) = true := by
    decide +kernel
  exact (assignAmong_filter_iff oneRoute (Sample.order 3) _ strayTables valid).mpr quiet

end Surroundings
end FoodDispatch
