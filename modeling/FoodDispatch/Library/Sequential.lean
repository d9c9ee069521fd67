import FoodDispatch.Library.Exchanges
import FoodDispatch.Library.Footprint
import FoodDispatch.Library.Interleaving

/-! Threads that nobody interrupts. A stretch of a run in which one thread alone makes its
calls is a sequential run of its program, if every call is handled as it was answered;
and a sequential run can be taken by any thread whose calls may be answered so. -/
namespace FoodDispatch.Library

namespace Program
variable {Call : Type} {Reply : Call → Type} {Error α σ Key : Type}

/-- With these replies the program makes these calls, and comes to this outcome. -/
inductive Follows : Program Call Reply Error α → σ → List (Exchange Call Reply Error σ) →
    Except Error α × σ → Prop
  | done (result state) : Follows (.done result) state [] (result,state)
  | call {request next state reply after rest outcome}
      (later : Follows (next reply) after rest outcome) :
      Follows (.call request next) state (⟨request,state,reply,after⟩::rest) outcome

variable {program : Program Call Reply Error α} {state : σ}
variable {trace : List (Exchange Call Reply Error σ)} {outcome : Except Error α × σ}

theorem follows_exchanges (handle : (request : Call) → σ → Except Error (Reply request) × σ)
    (program : Program Call Reply Error α) (state : σ) :
    Follows program state (exchanges handle program state) (run handle program state) := by
  induction program generalizing state with
  | done result => exact .done result state
  | call request next ih => exact .call (ih _ _)

theorem exchanges_handled (handle : (request : Call) → σ → Except Error (Reply request) × σ)
    (program : Program Call Reply Error α) (state : σ) :
    ∀ exchange ∈ exchanges handle program state,
      handle exchange.request exchange.before = (exchange.reply,exchange.after) := by
  induction program generalizing state with
  | done result => simp [exchanges]
  | call request next ih =>
    intro exchange member
    rcases List.mem_cons.mp member with rfl | later
    · rfl
    · exact ih _ _ exchange later

/-- Whoever handles the calls as they were answered runs the program to the same end. -/
theorem Follows.simulated {τ : Type} (follows : Follows program state trace outcome)
    (handle : (request : Call) → τ → Except Error (Reply request) × τ) (Related : σ → τ → Prop)
    (Holds : Exchange Call Reply Error τ → Prop) {start : τ} (related : Related state start)
    (each : ∀ exchange ∈ trace, ∀ here, Related exchange.before here →
      (handle exchange.request here).1 = exchange.reply ∧
        Related exchange.after (handle exchange.request here).2 ∧
          Holds ⟨exchange.request,here,(handle exchange.request here).1,
            (handle exchange.request here).2⟩) :
    (Program.run handle program start).1 = outcome.1 ∧
      Related outcome.2 (Program.run handle program start).2 ∧
        ∀ exchange ∈ exchanges handle program start, Holds exchange := by
  induction follows generalizing start with
  | done result state => exact ⟨rfl,related,by simp [exchanges]⟩
  | @call request next state reply after rest outcome later ih =>
    obtain ⟨same,kept,holds⟩ := each ⟨request,state,reply,after⟩ (by simp) start related
    change (handle request start).1 = reply at same
    subst same
    obtain ⟨ended,reached,held⟩ :=
      ih kept (fun exchange member => each exchange (by simp [member]))
    refine ⟨ended,reached,fun exchange member => ?_⟩
    rcases List.mem_cons.mp member with rfl | other
    · exact holds
    · exact held exchange other

theorem Follows.spends {key : Call → Key} {keys : Set Key}
    {expects : (request : Call) → Except Error (Reply request) → Prop}
    (follows : Follows program state trace outcome) (spends : program.Spends key expects keys)
    (expected : ∀ exchange ∈ trace, expects exchange.request exchange.reply) :
    (trace.map (fun exchange => key exchange.request)).Nodup ∧
      ∀ exchange ∈ trace, key exchange.request ∈ keys := by
  induction follows generalizing keys with
  | done result state => simp
  | @call request next state reply after rest outcome later ih =>
    have heard : expects request reply := expected ⟨request,state,reply,after⟩ (by simp)
    obtain ⟨distinct,inside⟩ := ih (spends.2 reply heard)
      (fun exchange member => expected exchange (by simp [member]))
    refine ⟨List.nodup_cons.mpr ⟨?_,distinct⟩,?_⟩
    · intro listed
      obtain ⟨exchange,member,same⟩ := List.mem_map.mp listed
      exact (inside exchange member).2 same
    · intro exchange member
      rcases List.mem_cons.mp member with rfl | later
      · exact spends.1
      · exact (inside exchange later).1

end Program

namespace System
variable {Call : Type} {Reply : Call → Type} {Error Shared Note Thread Job Action : Type}
open Program

/-- The call that the transition is. -/
def exchange? (transition : Transition (State Call Reply Error Shared Thread)
    (Label Call Reply Error Note Thread Job Action)) : Option (Exchange Call Reply Error Shared) :=
  match transition.label with
  | .call _ request _ reply =>
    some ⟨request,transition.before.shared,reply,transition.after.shared⟩
  | _ => none

variable [DecidableEq Thread] {system : System Call Reply Error Shared Note Thread Job Action}

/-- What a thread does that nobody interrupts until it has ended. -/
theorem follows_uninterrupted {start state : State Call Reply Error Shared Thread}
    {trace : List system.Moves} {thread : Thread} (run : Execution system.Step start trace state)
    (alone : ∀ transition ∈ trace, ∃ request note reply,
      transition.label = .call thread request note reply)
    {result : Except Error Unit} (ended : state.threads thread = .done result) :
    Follows (start.threads thread) start.shared (trace.filterMap exchange?)
      (result,state.shared) := by
  induction trace generalizing start with
  | nil =>
    rw [run.eq_of_nil rfl] at ended ⊢
    rw [ended]
    exact .done result start.shared
  | cons transition rest ih =>
    obtain ⟨earlier,step,later⟩ := run.split (List.nil_append _).symm
    obtain ⟨request,note,reply,label⟩ := alone transition (by simp)
    have follows := ih later (fun other member => alone other (by simp [member]))
    rcases transition with ⟨before,taken,after⟩
    have same : before = start := earlier.eq_of_nil rfl
    change taken = _ at label
    subst same
    subst label
    change system.Step before (.call thread request note reply) after at step
    cases step with
    | call _ _ next _ _ shared waiting answered =>
      rw [waiting]
      have continued : (Function.update before.threads thread (next reply)) thread = next reply :=
        Function.update_self ..
      exact .call (continued ▸ follows)

/-- A sequential run is taken by a thread whose calls may all be answered as in it. -/
theorem realises {Fine : Note → Prop} {thread : Thread}
    {handle : (request : Call) → Shared → Except Error (Reply request) × Shared}
    (program : Program Call Reply Error Unit) (state : State Call Reply Error Shared Thread)
    (there : state.threads thread = program)
    (answered : ∀ exchange ∈ exchanges handle program state.shared, ∃ note, Fine note ∧
      system.respond exchange.request note exchange.before = some (exchange.reply,exchange.after)) :
    ∃ (trace : List system.Moves) (last : State Call Reply Error Shared Thread),
      Execution system.Step state trace last ∧
        last.shared = (run handle program state.shared).2 ∧
          last.threads thread = .done (run handle program state.shared).1 ∧
            ∀ transition ∈ trace, ∃ request note reply, Fine note ∧
              transition.label = .call thread request note reply := by
  induction program generalizing state with
  | done result => exact ⟨[],state,.nil,rfl,there,by simp⟩
  | call request next ih =>
    obtain ⟨note,fine,first⟩ := answered ⟨request,state.shared,_,_⟩ (List.mem_cons_self ..)
    let after : State Call Reply Error Shared Thread := ⟨(handle request state.shared).2,
      Function.update state.threads thread (next (handle request state.shared).1)⟩
    have step : system.Step state (.call thread request note (handle request state.shared).1) after :=
      .call thread request next note _ _ there first
    obtain ⟨trace,last,later,reached,ended,alone⟩ :=
      ih (handle request state.shared).1 after (Function.update_self ..)
        (fun exchange member => answered exchange (List.mem_cons_of_mem _ member))
    refine ⟨⟨state,_,after⟩::trace,last,later.cons step,reached,ended,?_⟩
    intro transition member
    rcases List.mem_cons.mp member with rfl | other
    · exact ⟨_,note,_,fine,rfl⟩
    · exact alone transition other

end System
end FoodDispatch.Library
