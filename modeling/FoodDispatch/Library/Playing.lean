import FoodDispatch.Library.Interleaving

/-! One system of threads played by another over the same surroundings. Where a thread
runs one long program, its player makes the same calls in a series of jobs of its own;
so whatever the first system does to the shared state, the second can do. -/
namespace FoodDispatch.Library
open Execution

section Plays
variable {Call : Type} {Reply : Call → Type} {Error Job : Type}

/-- The second program makes the calls of the first, and is started on further jobs
whenever it has ended and the first goes on. -/
inductive Plays (starts : Job → Prop) (body : Job → Program Call Reply Error Unit) :
    Program Call Reply Error Unit → Program Call Reply Error Unit → Prop
  | ended (result player) : Plays starts body (.done result) player
  | call {request next following} (each : ∀ reply, Plays starts body (next reply) (following reply)) :
      Plays starts body (.call request next) (.call request following)
  | start {program} (result job) (permitted : starts job) (plays : Plays starts body program (body job)) :
      Plays starts body program (.done result)

theorem Plays.refl (starts : Job → Prop) (body : Job → Program Call Reply Error Unit)
    (program : Program Call Reply Error Unit) : Plays starts body program program := by
  induction program with
  | done result => exact .ended result _
  | call request next ih => exact .call ih

end Plays

namespace System
variable {Call : Type} {Reply : Call → Type} {Error Shared Note Thread Job Job' Action : Type}

/-- What a transition shows of itself besides the jobs. -/
inductive Event (Call : Type) (Reply : Call → Type) (Error Note Thread Action : Type) where
  | call (thread : Thread) (request : Call) (note : Note) (reply : Except Error (Reply request))
  | outside (action : Action)

def Label.event : Label Call Reply Error Note Thread Job Action →
    Option (Event Call Reply Error Note Thread Action)
  | .call thread request note reply => some (.call thread request note reply)
  | .outside action => some (.outside action)
  | _ => none

/-- The events of a run, each between the shared states around it. -/
def seen (trace : List (Transition (State Call Reply Error Shared Thread)
    (Label Call Reply Error Note Thread Job Action))) :
    List (Shared × Event Call Reply Error Note Thread Action × Shared) :=
  trace.filterMap (fun transition => transition.label.event.map
    (fun event => (transition.before.shared,event,transition.after.shared)))

variable [DecidableEq Thread]

/-- Whatever the second system starts a thread on, it can play the first system's jobs. -/
structure Player (system : System Call Reply Error Shared Note Thread Job Action)
    (player : System Call Reply Error Shared Note Thread Job' Action) : Prop where
  respond : player.respond = system.respond
  outside : player.outside = system.outside
  plays : ∀ thread job, system.starts thread job →
    Plays (player.starts thread) player.body (system.body job) (.done (.ok ()))

/-- Every thread is played by its namesake. -/
structure Played (player : System Call Reply Error Shared Note Thread Job' Action)
    (state other : State Call Reply Error Shared Thread) : Prop where
  shared : other.shared = state.shared
  threads : ∀ thread, Plays (player.starts thread) player.body (state.threads thread)
    (other.threads thread)

variable {system : System Call Reply Error Shared Note Thread Job Action}
variable {player : System Call Reply Error Shared Note Thread Job' Action}
variable {shared next : Shared} {state other : State Call Reply Error Shared Thread}

theorem Played.update (played : player.Played state other) (thread : Thread)
    {program following : Program Call Reply Error Unit} (shared : Shared)
    (plays : Plays (player.starts thread) player.body program following) :
    player.Played ⟨shared,Function.update state.threads thread program⟩
      ⟨shared,Function.update other.threads thread following⟩ := by
  refine ⟨rfl,fun name => ?_⟩
  by_cases same : name = thread
  · subst name
    simpa using plays
  · simpa [Function.update_of_ne same] using played.threads name

/-- The player gets to the call by starting jobs, and then makes it. -/
theorem plays_call {thread : Thread} {request : Call} {note : Note}
    {reply : Except Error (Reply request)} {program following : Program Call Reply Error Unit}
    {rest : Except Error (Reply request) → Program Call Reply Error Unit}
    (plays : Plays (player.starts thread) player.body program following)
    (calls : program = .call request rest) (there : other.threads thread = following)
    (answered : player.respond request note other.shared = some (reply,next)) :
    ∃ trace : List player.Moves, ∃ later, Plays (player.starts thread) player.body (rest reply) later ∧
      Execution player.Step other trace ⟨next,Function.update other.threads thread later⟩ ∧
        seen trace = [(other.shared,.call thread request note reply,next)] := by
  induction plays generalizing other with
  | ended => contradiction
  | @call request' rest' following each ih =>
    cases calls
    exact ⟨_,following reply,each reply,
      Execution.nil.snoc (.call thread request following note reply next there answered),rfl⟩
  | @start program result job permitted plays ih =>
    let started : State Call Reply Error Shared Thread :=
      ⟨other.shared,Function.update other.threads thread (player.body job)⟩
    have step : player.Step other (.start thread job) started := .start thread job there permitted
    have there : started.threads thread = player.body job := by simp [started]
    obtain ⟨trace,later,plays,run,same⟩ := ih calls there answered
    refine ⟨⟨other,.start thread job,started⟩::trace,later,plays,?_,same⟩
    simpa [started] using run.cons step

/-- Each transition of the first system is played, and shows the same. -/
theorem Played.step (plays : system.Player player) (played : player.Played state other)
    {label : Label Call Reply Error Note Thread Job Action}
    {after : State Call Reply Error Shared Thread} (step : system.Step state label after) :
    ∃ trace : List player.Moves, ∃ later, Execution player.Step other trace later ∧
      player.Played after later ∧ seen trace = seen [⟨state,label,after⟩] := by
  cases step with
  | start thread job ended permitted =>
    -- the player may still be at work, and is stopped then
    refine ⟨_,_,Execution.nil.snoc (.kill thread),?_,rfl⟩
    have next := played.update thread state.shared (plays.plays thread job permitted)
    rwa [← played.shared] at next ⊢
  | call thread request rest note reply shared waiting answered =>
    rw [← played.shared,← plays.respond] at answered
    obtain ⟨trace,later,following,run,same⟩ :=
      plays_call (played.threads thread) waiting rfl answered
    refine ⟨trace,_,run,played.update thread shared following,?_⟩
    rw [same,played.shared]
    rfl
  | kill thread =>
    refine ⟨[],other,.nil,⟨played.shared,fun name => ?_⟩,rfl⟩
    by_cases same : name = thread
    · subst name
      simpa using Plays.ended _ _
    · simpa [Function.update_of_ne same] using played.threads name
  | outside action shared moved =>
    rw [← plays.outside,← played.shared] at moved
    refine ⟨_,_,Execution.nil.snoc (.outside action shared moved),⟨rfl,played.threads⟩,?_⟩
    unfold seen
    simp [Label.event,played.shared]

/-- Every run of the first system is played by a run of the second that shows the same. -/
theorem Player.run (plays : system.Player player) {trace : List system.Moves}
    (run : system.Run shared trace state) :
    ∃ trace' : List player.Moves, ∃ other, player.Run shared trace' other ∧
      player.Played state other ∧ seen trace' = seen trace := by
  induction run with
  | nil => exact ⟨[],_,.nil,⟨rfl,fun _ => .ended _ _⟩,rfl⟩
  | @snoc trace state label next run step ih =>
    obtain ⟨trace',other,run',played,same⟩ := ih
    obtain ⟨more,later,following,played,shows⟩ := played.step plays step
    refine ⟨trace' ++ more,later,run'.append following,played,?_⟩
    have split : seen (trace ++ [⟨state,label,next⟩]) =
        seen trace ++ seen [(⟨state,label,next⟩ : system.Moves)] := List.filterMap_append
    rw [split,← same,← shows]
    exact List.filterMap_append

/-- What holds in every state that the second system reaches holds throughout the
runs of the first. -/
theorem Player.throughout (plays : system.Player player) {trace : List system.Moves}
    (run : system.Run shared trace state) (Always : Shared → Prop)
    (always : ∀ (trace : List player.Moves) other, player.Run shared trace other → Always other.shared) :
    Execution.Throughout (State.idle shared) trace (fun reached => Always reached.shared) := by
  refine ⟨always [] _ .nil,fun transition member => ?_⟩
  obtain ⟨first,rest,located⟩ := List.append_of_mem member
  obtain ⟨earlier,step,_⟩ := run.split located
  obtain ⟨trace',other,run',played,_⟩ := plays.run (earlier.snoc step)
  rw [← played.shared]
  exact always trace' other run'

end System
end FoodDispatch.Library
