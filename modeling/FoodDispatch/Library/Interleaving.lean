import FoodDispatch.Library.Execution
import FoodDispatch.Library.Monitor
import Mathlib.Logic.Function.Basic

/-! Any number of threads that run programs over one shared state. A call takes
effect at once; between two calls of a thread every other thread, and writers
that are no threads, may move. A note records what the surroundings chose. -/
namespace FoodDispatch.Library

structure System (Call : Type) (Reply : Call → Type) (Error Shared Note Thread Job Action : Type)
    where
  body : Job → Program Call Reply Error Unit
  starts : Thread → Job → Prop
  respond : (request : Call) → Note → Shared → Option (Except Error (Reply request) × Shared)
  outside : Action → Shared → Shared → Prop

namespace System
variable {Call : Type} {Reply : Call → Type} {Error Shared Note Thread Job Action Ghost : Type}

structure State (Call : Type) (Reply : Call → Type) (Error Shared Thread : Type) where
  shared : Shared
  threads : Thread → Program Call Reply Error Unit

inductive Label (Call : Type) (Reply : Call → Type) (Error Note Thread Job Action : Type) where
  | start (thread : Thread) (job : Job)
  | call (thread : Thread) (request : Call) (note : Note) (reply : Except Error (Reply request))
  | kill (thread : Thread)
  | outside (action : Action)

def State.idle (shared : Shared) : State Call Reply Error Shared Thread :=
  ⟨shared,fun _ => .done (.ok ())⟩

variable [DecidableEq Thread]

/-- A thread that has ended may be started on a job; it may be killed anywhere. -/
inductive Step (system : System Call Reply Error Shared Note Thread Job Action) :
    State Call Reply Error Shared Thread → Label Call Reply Error Note Thread Job Action →
      State Call Reply Error Shared Thread → Prop
  | start {state result} (thread job) (ended : state.threads thread = .done result)
      (permitted : system.starts thread job) :
      Step system state (.start thread job)
        ⟨state.shared,Function.update state.threads thread (system.body job)⟩
  | call {state} (thread request next note reply shared)
      (waiting : state.threads thread = .call request next)
      (answered : system.respond request note state.shared = some (reply,shared)) :
      Step system state (.call thread request note reply)
        ⟨shared,Function.update state.threads thread (next reply)⟩
  | kill {state} (thread) :
      Step system state (.kill thread)
        ⟨state.shared,Function.update state.threads thread (.done (.ok ()))⟩
  | outside {state} (action shared) (moved : system.outside action state.shared shared) :
      Step system state (.outside action) ⟨shared,state.threads⟩

abbrev Run (system : System Call Reply Error Shared Note Thread Job Action) (shared : Shared) :=
  Execution system.Step (State.idle shared)

abbrev Moves (_ : System Call Reply Error Shared Note Thread Job Action) :=
  Transition (State Call Reply Error Shared Thread) (Label Call Reply Error Note Thread Job Action)

variable (system : System Call Reply Error Shared Note Thread Job Action)

/-- `Holds` relates the transitions so far, the shared state and the ghost of
every thread. Each field is one kind of step; a thread between two jobs has the
ghost `fresh`. -/
structure Invariant (monitor : Thread → Monitor Call Reply Error Ghost) (fresh : Ghost)
    (Holds : List system.Moves → Shared → (Thread → Ghost) → Prop) : Prop where
  body : ∀ thread job, system.starts thread job →
    (system.body job).Obeys (monitor thread) (fun _ _ => True) fresh
  expected : ∀ thread request note shared reply next,
    system.respond request note shared = some (reply,next) →
      (monitor thread).expects request reply
  restart : ∀ trace ghosts thread (transition : system.Moves),
    Holds trace transition.before.shared ghosts →
      (transition.label = .kill thread ∨ ∃ job, transition.label = .start thread job) →
      transition.after.shared = transition.before.shared →
        Holds (trace ++ [transition]) transition.after.shared (Function.update ghosts thread fresh)
  call : ∀ trace ghosts thread request note reply (transition : system.Moves),
    Holds trace transition.before.shared ghosts →
      transition.label = .call thread request note reply →
        (monitor thread).allows (ghosts thread) request →
          system.respond request note transition.before.shared =
            some (reply,transition.after.shared) →
          Holds (trace ++ [transition]) transition.after.shared
            (Function.update ghosts thread ((monitor thread).after (ghosts thread) request reply))
  outside : ∀ trace ghosts action (transition : system.Moves),
    Holds trace transition.before.shared ghosts → transition.label = .outside action →
      system.outside action transition.before.shared transition.after.shared →
        Holds (trace ++ [transition]) transition.after.shared ghosts

namespace Invariant
variable {system} {monitor : Thread → Monitor Call Reply Error Ghost} {fresh : Ghost}
variable {Holds : List system.Moves → Shared → (Thread → Ghost) → Prop}
variable {shared : Shared} {trace : List system.Moves}
variable {state : State Call Reply Error Shared Thread}

private theorem obeys_update (threads : Thread → Program Call Reply Error Unit)
    (ghosts : Thread → Ghost) (thread : Thread) (program : Program Call Reply Error Unit)
    (ghost : Ghost)
    (others : ∀ other, (threads other).Obeys (monitor other) (fun _ _ => True) (ghosts other))
    (new : program.Obeys (monitor thread) (fun _ _ => True) ghost) (other : Thread) :
    (Function.update threads thread program other).Obeys (monitor other) (fun _ _ => True)
      (Function.update ghosts thread ghost other) := by
  by_cases same : other = thread
  · subst other
    simpa using new
  · simpa [Function.update_of_ne same] using others other

theorem reached (invariant : system.Invariant monitor fresh Holds)
    (initial : Holds [] shared (fun _ => fresh)) (run : system.Run shared trace state) :
    ∃ ghosts, Holds trace state.shared ghosts ∧
      ∀ thread, (state.threads thread).Obeys (monitor thread) (fun _ _ => True) (ghosts thread) := by
  induction run with
  | nil => exact ⟨fun _ => fresh,initial,fun _ => trivial⟩
  | @snoc trace state label next _ step ih =>
    obtain ⟨ghosts,holds,obeys⟩ := ih
    cases step with
    | start thread job ended permitted =>
      exact ⟨_,invariant.restart trace ghosts thread ⟨state,_,_⟩ holds (Or.inr ⟨job,rfl⟩) rfl,
        obeys_update _ _ _ _ _ obeys (invariant.body thread job permitted)⟩
    | call thread request following note reply shared waiting answered =>
      have current := obeys thread
      rw [waiting] at current
      exact ⟨_,invariant.call trace ghosts thread request note reply ⟨state,_,_⟩ holds rfl current.1
          answered,
        obeys_update _ _ _ _ _ obeys
          (current.2 reply (invariant.expected _ _ _ _ _ _ answered))⟩
    | kill thread =>
      exact ⟨_,invariant.restart trace ghosts thread ⟨state,_,_⟩ holds (Or.inl rfl) rfl,
        obeys_update _ _ _ _ _ obeys trivial⟩
    | outside action shared moved =>
      exact ⟨ghosts,invariant.outside trace ghosts action ⟨state,_,_⟩ holds rfl moved,obeys⟩

theorem throughout (invariant : system.Invariant monitor fresh Holds)
    (initial : Holds [] shared (fun _ => fresh)) (run : system.Run shared trace state)
    (Always : Shared → Prop) (implies : ∀ trace shared ghosts, Holds trace shared ghosts → Always shared) :
    Execution.Throughout (State.idle shared) trace (fun reached => Always reached.shared) := by
  refine ⟨implies _ _ _ initial,fun transition member => ?_⟩
  obtain ⟨first,rest,located⟩ := List.append_of_mem member
  obtain ⟨earlier,step,_⟩ := run.split located
  obtain ⟨ghosts,holds,_⟩ := invariant.reached initial (earlier.snoc step)
  exact implies _ _ ghosts holds

theorem at_call (invariant : system.Invariant monitor fresh Holds)
    (initial : Holds [] shared (fun _ => fresh)) (run : system.Run shared trace state)
    {first rest : List system.Moves} {transition : system.Moves}
    (located : trace = first ++ transition::rest) {thread : Thread} {request : Call} {note : Note}
    {reply : Except Error (Reply request)}
    (label : transition.label = .call thread request note reply) :
    ∃ ghosts, Holds first transition.before.shared ghosts ∧
      (monitor thread).allows (ghosts thread) request ∧
      system.respond request note transition.before.shared =
        some (reply,transition.after.shared) := by
  obtain ⟨earlier,step,_⟩ := run.split located
  obtain ⟨ghosts,holds,obeys⟩ := invariant.reached initial earlier
  rcases transition with ⟨before,taken,after⟩
  change taken = _ at label
  change system.Step before taken after at step
  subst taken
  cases step with
  | call _ _ following _ _ shared waiting answered =>
    have current := obeys thread
    rw [waiting] at current
    exact ⟨ghosts,holds,current.1,answered⟩

end Invariant

/-- A schedule: who moves next, and what the surroundings choose for the move. -/
inductive Move (Shared Note Thread Job Action : Type) where
  | start (thread : Thread) (job : Job)
  | answer (thread : Thread) (note : Note)
  | outside (action : Action) (shared : Shared)

section Replay
variable {system}
variable [∀ thread job, Decidable (system.starts thread job)]
variable [∀ action shared next, Decidable (system.outside action shared next)]

variable (system) in
def advance (state : State Call Reply Error Shared Thread) :
    Move Shared Note Thread Job Action →
      Option (Label Call Reply Error Note Thread Job Action × State Call Reply Error Shared Thread)
  | .start thread job => match state.threads thread with
    | .done _ => if system.starts thread job then
        some (.start thread job,
          ⟨state.shared,Function.update state.threads thread (system.body job)⟩) else none
    | .call _ _ => none
  | .answer thread note => match state.threads thread with
    | .done _ => none
    | .call request next => match system.respond request note state.shared with
      | none => none
      | some (reply,shared) => some (.call thread request note reply,
          ⟨shared,Function.update state.threads thread (next reply)⟩)
  | .outside action shared => if system.outside action state.shared shared then
      some (.outside action,⟨shared,state.threads⟩) else none

variable (system) in
def replay (moves : List (Move Shared Note Thread Job Action))
    (state : State Call Reply Error Shared Thread) :
    Option (List system.Moves × State Call Reply Error Shared Thread) :=
  match moves with
  | [] => some ([],state)
  | move::rest => match advance system state move with
    | none => none
    | some (label,next) => (replay rest next).map (fun done => (⟨state,label,next⟩::done.1,done.2))

theorem advance_step {state next : State Call Reply Error Shared Thread}
    {move : Move Shared Note Thread Job Action}
    {label : Label Call Reply Error Note Thread Job Action}
    (advanced : advance system state move = some (label,next)) :
    system.Step state label next := by
  cases move with
  | start thread job =>
    simp only [advance] at advanced
    split at advanced
    next result ended =>
      split at advanced
      next permitted => cases advanced; exact .start thread job ended permitted
      next => contradiction
    next => contradiction
  | answer thread note =>
    simp only [advance] at advanced
    split at advanced
    next => contradiction
    next request following waiting =>
      split at advanced
      next => contradiction
      next reply shared answered =>
        cases advanced
        exact .call thread request following note reply shared waiting answered
  | outside action shared =>
    simp only [advance] at advanced
    split at advanced
    next moved => cases advanced; exact .outside action shared moved
    next => contradiction

theorem replay_execution {moves : List (Move Shared Note Thread Job Action)}
    {state final : State Call Reply Error Shared Thread} {trace : List system.Moves}
    (replayed : replay system moves state = some (trace,final)) :
    Execution system.Step state trace final := by
  induction moves generalizing state trace with
  | nil =>
    cases replayed
    exact .nil
  | cons move rest ih =>
    simp only [replay] at replayed
    split at replayed
    next => contradiction
    next label next advanced =>
      obtain ⟨⟨later,last⟩,done,same⟩ := Option.map_eq_some_iff.mp replayed
      cases same
      exact (ih done).cons (advance_step advanced)

end Replay
end System
end FoodDispatch.Library
