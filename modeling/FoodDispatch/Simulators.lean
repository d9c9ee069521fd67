import FoodDispatch.Accounting
import FoodDispatch.Agreement
import FoodDispatch.Fleet
import FoodDispatch.Library.Playing

/-! The simulators as clients of the deployment. A simulation is a seeding and then any
number of pushes, so a run of the whole fleet is a run of the deployment with the same
calls, and what is known of the deployment holds of the fleet. -/
namespace FoodDispatch
open Library
open MockDrivers

namespace Fleet

abbrev Started (Thread : Type) (settings : Settings) (loops : Thread → Prop) (thread : Thread) :
    Program Unit → Program Unit → Prop :=
  Plays ((deployment settings loops nobody).starts thread) (Job.body settings)

variable {Thread : Type} {settings : Settings} {loops : Thread → Prop} {thread : Thread}

theorem simulate_plays (chance : Chance) (ticks tick : ℕ) (states : List Motion)
    (result : Except PyException Unit) :
    Started Thread settings loops thread (simulate chance ticks tick states) (.done result) := by
  induction ticks generalizing tick states result with
  | zero => exact .ended _ _
  | succ ticks ih =>
    let moved := states.mapIdx (fun place state => advance (chance.draws tick place) state)
    refine .start result (.pushPositions (moved.map Motion.toDriverState)) (by simp [deployment,Job.isTick])
      (.call fun reply => ?_)
    cases reply with
    | error error => exact .ended _ _
    | ok now =>
      refine .call fun reply => ?_
      cases reply with
      | error error => exact .ended _ _
      | ok pushed => exact ih _ _ _

theorem duty_plays (duty : Duty) (permitted : (fleet settings loops).starts thread duty) :
    Started Thread settings loops thread (duty.body settings) (.done (.ok ())) := by
  cases duty with
  | dispatchTick => exact .start _ .dispatchTick permitted (.refl _ _ _)
  | createOrder id payload =>
    exact .start _ (.createOrder id payload) (by simp [deployment,Job.isTick]) (.refl _ _ _)
  | runSimulation chance ticks =>
    refine .start _ (.seedDrivers (driverSeeds.map (fun seed => (seed,chance.inserted seed))))
      (by simp [deployment,Job.isTick]) (.call fun reply => ?_)
    cases reply with
    | error error => exact .ended _ _
    | ok states => exact simulate_plays chance ticks 1 _ _

theorem player : (fleet settings loops).Player (deployment settings loops nobody) where
  respond := rfl
  outside := by
    funext action
    exact action.elim
  plays _ duty permitted := duty_plays duty permitted

/-- The driver of an attempt that took effect. -/
def taken (shown : Shared × System.Event Call Reply PyException Note Thread Empty × Shared) :
    Option UUID :=
  match shown.2.1 with
  | .call _ (.attemptAtomicAssignment _ driver) _ _ =>
    if shown.2.2.db = shown.1.db then none else some driver
  | _ => none

theorem taken_seen (trace : List (Move Thread Empty)) :
    (System.seen trace).filterMap taken = (trace.filterMap Move.assigned).map Prod.snd := by
  unfold System.seen
  rw [List.filterMap_filterMap,List.map_filterMap]
  congr 1
  funext move
  rcases move with ⟨before,label,after⟩
  cases label with
  | call thread request note reply =>
    cases request with
    | attemptAtomicAssignment order driver =>
      simp only [System.Label.event,Option.map_some,Option.bind_some,taken,Move.assigned]
      split <;> rfl
    | _ => rfl
  | _ => rfl

variable [DecidableEq Thread] {loop : Thread} {shared : Shared}
variable {state : System.State Call Reply PyException Shared Thread}

/-- A run of one loop, clients and simulators shows the same calls and the same tables
as a run of the deployment; so it keeps the tables in agreement, and the drivers who
are not available are those it took, each once. -/
theorem single_loop_plays {trace : List (fleet settings (· = loop)).Moves}
    (start : shared.db = Database.empty)
    (run : (fleet settings (· = loop)).Run shared trace state) :
    (∃ (trace' : List (Move Thread Empty)) (other : System.State Call Reply PyException Shared Thread),
      (deployment settings (· = loop) nobody).Run shared trace' other ∧
        other.shared = state.shared ∧ System.seen trace' = System.seen trace) ∧
      Execution.Throughout (System.State.idle shared) trace (·.shared.db.Agrees) ∧
        state.shared.db.unavailable.val = ((System.seen trace).filterMap taken : List UUID) := by
  obtain ⟨trace',other,run',played,shows⟩ := player.run run
  refine ⟨⟨trace',other,run',played.shared,shows⟩,?_,?_⟩
  · apply player.throughout run (fun shared => shared.db.Agrees)
    intro earlier reached passing
    exact (ownedUnassigned.throughout (start ▸ Database.agrees_empty) passing).final passing
  · have none : shared.db.unavailable.val = 0 := by
      rw [start]
      rfl
    rw [← played.shared,← shows,taken_seen,unavailable_balance run',none,zero_add]

/-- An order is created at the epoch, and the drivers come ten minutes later. -/
def arrivals : List (System.Move Shared Note Bool Duty Empty) :=
  let later := minutes 10
  [.start true (.createOrder (Sample.id 9) Sample.payload),.answer true (Sample.note 0),
    .answer true (Sample.note 0),.answer true (Sample.note 0),.start true (.runSimulation chance 1),
    .answer true (Sample.note later),.answer true (Sample.note later),
    .answer true (Sample.note later)]

def arrived : List Driver :=
  match System.replay (fleet {} (· = false)) arrivals (System.State.idle ⟨Database.empty,0⟩) with
  | some done => done.2.shared.db.drivers.rows
  | none => []

/-- The loop then gives the order to the nearest of the simulated drivers. -/
def shift : List (System.Move Shared Note Bool Duty Empty) :=
  let later := minutes 10
  let order := Order.new (Sample.id 9) Sample.payload (minutes 18)
  arrivals ++ [.start false .dispatchTick,.answer false {Sample.note later with orders := [order]},
    .answer false (Sample.note later),.answer false (Sample.note later),
    .answer false {Sample.note later with drivers := arrived},.answer false (Sample.note later)] ++
  arrived.map (fun driver => .answer false {Sample.note later with
    eta := if driver.id = Sample.id 2 then .success 60 1000 else .success 120 2000}) ++
  [.answer false (Sample.note later)]

theorem shift_replayed : ((System.replay (fleet {} (· = false)) shift
    (System.State.idle ⟨Database.empty,0⟩)).map (fun done => (System.seen done.1).filterMap taken)) =
      some [Sample.id 2] := by
  decide +kernel

theorem shift_plays : ∃ (trace : List (fleet {} (· = false)).Moves)
    (state : System.State Call Reply PyException Shared Bool),
      (fleet {} (· = false)).Run ⟨Database.empty,0⟩ trace state ∧ state.shared.db.Agrees ∧
        state.shared.db.unavailable.val = {Sample.id 2} := by
  obtain ⟨⟨trace,state⟩,replayed,shown⟩ := Option.map_eq_some_iff.mp shift_replayed
  have run := System.replay_execution replayed
  obtain ⟨_,agrees,unavailable⟩ := single_loop_plays rfl run
  refine ⟨trace,state,run,agrees.final run,?_⟩
  rw [unavailable,shown]
  rfl

end Fleet
end FoodDispatch
