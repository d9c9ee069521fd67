import FoodDispatch.Failures
import FoodDispatch.Walk

/-! A failing order is invisible to the others. An evaluation writes with its last
call or not at all, so one that raises has left nothing behind, and the orders after
it are processed as if it had not been in the list. -/
namespace FoodDispatch
open Library
open Library.Program

/-- The order whose gate the call reads the clock for. -/
def Call.gate : Call → Option UUID
  | .now (.gate order) => some order
  | _ => none

theorem reads_ungated (request : Call) (read : request.Reads) : request.gate = none := by
  cases request with
  | now site => cases site <;> first | rfl | contradiction
  | _ => rfl

namespace DispatchLoop

/-- What a tick does with the orders it has fetched. -/
def processAll (settings : Settings) (orders : List Order) : Program Unit :=
  (forEach orders (processOrder settings)).tryExcept (fun _ => return ())

/-- Past its gate an evaluation reads no gate. -/
def ungated (settings : Settings) (order : Order) :
    Walk (only fun request : Call => request.gate = none) settings order where
  enters _ := False
  evaluates _ := True
  holds _ := True
  finds _ _ := True
  tries _ _ := True
  leaves _ := True
  gate _ never := never.elim
  hold _ _ := ⟨rfl,fun _ _ => trivial⟩
  query _ _ := obeys_outcome (obeys_mono (getCandidates_obeys (unmoved_only reads_ungated) settings
    order.id) (fun _ _ _ => trivial))
  score _ drivers _ := obeys_outcome (obeys_mono (ScoringEngine.scoreCandidates_obeys
    (unmoved_only reads_ungated).scores order drivers) (fun _ _ _ => trivial))
  attempt _ _ _ _ := ⟨rfl,fun reply _ => by rcases reply with error | (_ | _) <;> exact trivial⟩
  unheld _ _ := trivial
  unfound _ _ _ := trivial
  untried _ _ _ := trivial

theorem decided_ungated (settings : Settings) (order : Order) (now : ℤ) :
    (decided settings order now).Obeys (only fun request => request.gate = none)
      (fun _ _ => True) () :=
  (ungated settings order).decided_obeys (of_eq_true (ite_self True))

section
variable {σ : Type} (handle : (request : Call) → σ → Except PyException (Reply request) × σ)
variable (settings : Settings)

def gates (program : Program Unit) (state : σ) : List UUID :=
  (exchanges handle program state).filterMap (·.request.gate)

/-- Every order is processed: its gate is read once, before anything else of it. -/
theorem gates_processOrder (order : Order) (state : σ) :
    gates handle (processOrder settings order) state = [order.id] := by
  have quiet (now : ℤ) (next : σ) :
      (exchanges handle (decided settings order now) next).filterMap (·.request.gate) = [] := by
    rw [List.filterMap_eq_nil_iff]
    exact exchanges_only (decided_ungated settings order now) handle next
  have evaluated : gates handle (evaluate settings order) state = [order.id] := by
    unfold gates
    rw [evaluate_decided,exchanges_bind,List.filterMap_append,exchanges_perform,run_perform]
    rcases handle (.now (.gate order.id)) state with ⟨error | now,next⟩
    · rfl
    · exact congrArg (order.id :: ·) (quiet now next)
  unfold gates at evaluated ⊢
  unfold processOrder
  rw [exchanges_tryExcept,List.filterMap_append,evaluated]
  rcases run handle (evaluate settings order) state with ⟨error | value,next⟩ <;> rfl

/-- The exchanges of each order's own processing, one order after the other. -/
def processing : List Order → σ → List (Exchange Call Reply PyException σ)
  | [], _ => []
  | order::rest, state => exchanges handle (processOrder settings order) state ++
      processing rest (run handle (processOrder settings order) state).2

theorem exchanges_forEach (orders : List Order) (state : σ) :
    exchanges handle (forEach orders (processOrder settings)) state =
      processing handle settings orders state := by
  induction orders generalizing state with
  | nil => rfl
  | cons order rest ih =>
    have split : exchanges handle (forEach (order::rest) (processOrder settings)) state =
        exchanges handle (processOrder settings order >>= fun _ =>
          forEach rest (processOrder settings)) state := rfl
    rw [split,exchanges_bind,run_processOrder]
    unfold processing
    rw [← ih,run_processOrder]

theorem gates_processing (orders : List Order) (state : σ) :
    (processing handle settings orders state).filterMap (·.request.gate) = orders.map Order.id := by
  induction orders generalizing state with
  | nil => rfl
  | cons order rest ih =>
    have first := gates_processOrder handle settings order state
    unfold gates at first
    unfold processing
    rw [List.filterMap_append,first,ih]
    rfl

/-- A tick makes the calls of its orders' processing, and the fetch before them. -/
theorem exchanges_runDispatchTick {orders : List Order} {state next : σ}
    (fetched : handle .fetchActionableOrders state = (.ok orders,next)) :
    exchanges handle (runDispatchTick settings) state =
      ⟨.fetchActionableOrders,state,.ok orders,next⟩ :: processing handle settings orders next := by
  have ticking : exchanges handle (tick settings) state =
      ⟨.fetchActionableOrders,state,.ok orders,next⟩ :: processing handle settings orders next := by
    unfold tick
    rw [exchanges_bind,exchanges_perform,run_perform,fetched,← exchanges_forEach]
    rfl
  unfold runDispatchTick
  rw [exchanges_tryExcept,ticking]
  rcases run handle (tick settings) state with ⟨error | value,last⟩ <;> exact List.append_nil _

theorem run_processAll (orders : List Order) (state : σ) :
    run handle (processAll settings orders) state =
      run handle (forEach orders (processOrder settings)) state := by
  unfold processAll
  rw [run_tryExcept,← Prod.eta (run handle (forEach orders (processOrder settings)) state),
    run_forEach_ok]

end
end DispatchLoop

namespace Surroundings
variable {env : Surroundings} {fails : Call → Option PyException} {settings : Settings}
variable {order : Order}

theorem tryCandidates_clean (alone : env.Alone) (scored : List ScoringEngine.ScoredCandidate) :
    (ScoringEngine.tryCandidates order scored).Clean (env.handleFailing fails) := by
  induction scored with
  | nil => exact Still.clean (fun _ => rfl)
  | cons candidate rest ih =>
    intro db error next raised
    unfold ScoringEngine.tryCandidates at raised
    rw [run_bind,run_perform] at raised
    rcases answered : env.handleFailing fails
      (.attemptAtomicAssignment order.id candidate.driver.id) db with ⟨failure | (_ | _),middle⟩
    · rw [answered] at raised
      cases raised
      exact handleFailing_error alone answered
    · rw [answered] at raised
      have same : middle = db := handleFailing_refused alone answered
      subst same
      exact ih middle error next raised
    · rw [answered] at raised
      cases raised

theorem assignBestDriver_clean (alone : env.Alone) :
    (ScoringEngine.assignBestDriver settings order).Clean (env.handleFailing fails) := by
  have quiet (request : Call) (read : request.Reads) (db : Database) :
      (env.handleFailing fails request db).2 = db := handleFailing_reads read db
  have found : (getCandidates settings order.id).Still (env.handleFailing fails) :=
    still_only (getCandidates_obeys (unmoved_only fun _ read => read) settings order.id) quiet
  apply found.bind_clean
  intro candidates
  unfold ScoringEngine.assignAmong
  split
  · exact Still.clean (fun _ => rfl)
  · have scoring : (ScoringEngine.scoreCandidates order candidates).Still (env.handleFailing fails) :=
      still_only (ScoringEngine.scoreCandidates_obeys (unmoved_only fun _ read => read).scores order
        candidates) quiet
    apply scoring.bind_clean
    intro scored
    split
    · exact Still.clean (fun _ => rfl)
    · exact tryCandidates_clean alone _

theorem evaluate_clean (alone : env.Alone) :
    (DispatchLoop.evaluate settings order).Clean (env.handleFailing fails) := by
  rw [DispatchLoop.evaluate_decided]
  have reading : (perform (Call.now (.gate order.id)) : Program ℤ).Still (env.handleFailing fails) := by
    intro db
    rw [run_perform]
    unfold handleFailing
    split <;> rfl
  apply reading.bind_clean
  intro now
  unfold DispatchLoop.decided
  split
  · exact (assignBestDriver_clean alone).bind_pure ()
  · unfold DispatchLoop.applyHold
    split
    · exact Still.clean (fun _ => rfl)
    · intro db error next raised
      have answered : env.handleFailing fails (.applyHold order.id) db = (.error error,next) := raised
      exact handleFailing_error alone answered

/-- Orders that raise at their turn may as well not have been in the list. -/
theorem processed_without (alone : env.Alone) (failing : Order → Bool) (orders : List Order)
    (db : Database)
    (raised : ∀ first order rest, orders = first ++ order::rest → failing order = true →
      ∃ error, (env.runFailing fails (DispatchLoop.evaluate settings order)
        (env.runFailing fails (DispatchLoop.processAll settings first) db).2).1 = .error error) :
    (env.runFailing fails (DispatchLoop.processAll settings orders) db).2 =
      (env.runFailing fails (DispatchLoop.processAll settings
        (orders.filter fun order => !failing order)) db).2 := by
  unfold runFailing at raised ⊢
  simp only [DispatchLoop.run_processAll] at raised ⊢
  induction orders generalizing db with
  | nil => rfl
  | cons order rest ih =>
    have later := ih (Library.Program.run (env.handleFailing fails)
        (DispatchLoop.evaluate settings order) db).2 (by
      intro first other after located fails
      have here := raised (order::first) other after (by rw [located]; rfl) fails
      rwa [DispatchLoop.run_forEach_cons] at here)
    rw [DispatchLoop.run_forEach_cons,later]
    cases skipped : failing order with
    | true =>
      obtain ⟨error,escaped⟩ := raised [] order rest rfl skipped
      have same : (Library.Program.run (env.handleFailing fails)
          (DispatchLoop.evaluate settings order) db).2 = db :=
        evaluate_clean alone db error _ (Prod.ext escaped rfl)
      rw [same,List.filter_cons_of_neg (by simp [skipped])]
    | false =>
      rw [List.filter_cons_of_pos (by simp [skipped]),DispatchLoop.run_forEach_cons]

/-- A tick returns, processes every order it has fetched once and in the order of
the list, does nothing else, and ends as if the orders that raised had not been there. -/
theorem tick_isolates (alone : env.Alone) (failing : Order → Bool) (db : Database)
    (fetched : fails .fetchActionableOrders = none)
    (raised : ∀ first order rest, env.orders db = first ++ order::rest → failing order = true →
      ∃ error, (env.runFailing fails (DispatchLoop.evaluate settings order)
        (env.runFailing fails (DispatchLoop.processAll settings first) db).2).1 = .error error) :
    (env.runFailing fails (DispatchLoop.runDispatchTick settings) db).1 = .ok () ∧
      DispatchLoop.gates (env.handleFailing fails) (DispatchLoop.runDispatchTick settings) db =
        (env.orders db).map Order.id ∧
      exchanges (env.handleFailing fails) (DispatchLoop.runDispatchTick settings) db =
        ⟨.fetchActionableOrders,db,.ok (env.orders db),db⟩ ::
          DispatchLoop.processing (env.handleFailing fails) settings (env.orders db) db ∧
      (env.runFailing fails (DispatchLoop.runDispatchTick settings) db).2 =
        (env.runFailing fails (DispatchLoop.processAll settings
          ((env.orders db).filter fun order => !failing order)) db).2 := by
  have answered : env.handleFailing fails .fetchActionableOrders db = (.ok (env.orders db),db) := by
    unfold handleFailing
    rw [fetched]
    rfl
  have ran : env.runFailing fails (DispatchLoop.runDispatchTick settings) db = (.ok (),
      (env.runFailing fails (DispatchLoop.processAll settings (env.orders db)) db).2) := by
    unfold runFailing
    rw [DispatchLoop.run_runDispatchTick_ok settings answered,DispatchLoop.run_processAll]
  have exchanged := DispatchLoop.exchanges_runDispatchTick (env.handleFailing fails) settings answered
  refine ⟨by rw [ran],?_,exchanged,?_⟩
  · unfold DispatchLoop.gates
    rw [exchanged,List.filterMap_cons_none rfl,DispatchLoop.gates_processing]
  · rw [ran]
    exact processed_without alone failing (env.orders db) db raised

def brokenRoute : Call → Option PyException
  | .getDrivingEta order _ _ _ => if order = Sample.id 3 then some (.other "RuntimeError") else none
  | _ => none

def twoOrders : Database :=
  Sample.database [Sample.driver 1 "1"] [Sample.order 3,Sample.order 4]

def everyRoute : Surroundings := Sample.surroundings (fun _ _ => .success 60 1000)

theorem brokenRoute_isolated :
    (everyRoute.runFailing brokenRoute (DispatchLoop.runDispatchTick {}) twoOrders).1 = .ok () ∧
      DispatchLoop.gates (everyRoute.handleFailing brokenRoute) (DispatchLoop.runDispatchTick {})
        twoOrders = (everyRoute.orders twoOrders).map Order.id ∧
      exchanges (everyRoute.handleFailing brokenRoute) (DispatchLoop.runDispatchTick {}) twoOrders =
        ⟨.fetchActionableOrders,twoOrders,.ok (everyRoute.orders twoOrders),twoOrders⟩ ::
          DispatchLoop.processing (everyRoute.handleFailing brokenRoute) {}
            (everyRoute.orders twoOrders) twoOrders ∧
      (everyRoute.runFailing brokenRoute (DispatchLoop.runDispatchTick {}) twoOrders).2 =
        (everyRoute.runFailing brokenRoute (DispatchLoop.processAll {}
          ((everyRoute.orders twoOrders).filter fun order => !decide (order.id = Sample.id 3)))
            twoOrders).2 := by
  apply tick_isolates (fun _ _ _ => rfl) (fun order => decide (order.id = Sample.id 3)) twoOrders rfl
  intro first order rest located failing
  have listed : everyRoute.orders twoOrders = [Sample.order 3,Sample.order 4] := by decide +kernel
  rw [listed] at located
  cases first with
  | nil =>
    cases located
    exact ⟨.other "RuntimeError",by decide +kernel⟩
  | cons one others =>
    cases others with
    | nil =>
      cases located
      exact absurd failing (by decide +kernel)
    | cons two more => simp at located

end Surroundings
end FoodDispatch
