import FoodDispatch.Library.Simulation
import Mathlib.Data.List.Nodup
import Mathlib.Data.Set.Insert

/-! Tasks that are posted and workers that join, and a dispatcher that gives every
task at most one worker and every worker at most one task, for good. -/
namespace FoodDispatch.Library

@[ext] structure Matching (Task Worker : Type) where
  waiting : Set Task
  free : Set Worker
  pairs : Set (Task × Worker)

namespace Matching
variable {Task Worker : Type}

inductive Event (Task Worker : Type) where
  | posted (task : Task)
  | joined (worker : Worker)
  | matched (task : Task) (worker : Worker)
  deriving DecidableEq

def empty : Matching Task Worker := ⟨∅,∅,∅⟩

def Posted (state : Matching Task Worker) (task : Task) : Prop :=
  task ∈ state.waiting ∨ ∃ worker, (task,worker) ∈ state.pairs

def Joined (state : Matching Task Worker) (worker : Worker) : Prop :=
  worker ∈ state.free ∨ ∃ task, (task,worker) ∈ state.pairs

inductive Step : Matching Task Worker → Event Task Worker → Matching Task Worker → Prop
  | posted {state} (task) (fresh : ¬state.Posted task) :
      Step state (.posted task) ⟨insert task state.waiting,state.free,state.pairs⟩
  | joined {state} (worker) (fresh : ¬state.Joined worker) :
      Step state (.joined worker) ⟨state.waiting,insert worker state.free,state.pairs⟩
  | matched {state} (task worker) (waits : task ∈ state.waiting) (idle : worker ∈ state.free) :
      Step state (.matched task worker)
        ⟨state.waiting \ {task},state.free \ {worker},insert (task,worker) state.pairs⟩

/-- What a state is, told by the events that led to it. -/
structure Recorded (events : List (Event Task Worker)) (state : Matching Task Worker) : Prop where
  distinct : events.Nodup
  pairs : ∀ task worker, (task,worker) ∈ state.pairs ↔ .matched task worker ∈ events
  waiting : ∀ task, task ∈ state.waiting ↔
    .posted task ∈ events ∧ ∀ worker, .matched task worker ∉ events
  free : ∀ worker, worker ∈ state.free ↔
    .joined worker ∈ events ∧ ∀ task, .matched task worker ∉ events
  backed : ∀ task worker, .matched task worker ∈ events →
    .posted task ∈ events ∧ .joined worker ∈ events
  oneWorker : ∀ task first second, .matched task first ∈ events →
    .matched task second ∈ events → first = second
  oneTask : ∀ worker first second, .matched first worker ∈ events →
    .matched second worker ∈ events → first = second

namespace Recorded
variable {events : List (Event Task Worker)} {state next : Matching Task Worker}

theorem posted_iff (recorded : Recorded events state) {task : Task} :
    state.Posted task ↔ .posted task ∈ events := by
  unfold Posted
  simp only [recorded.waiting,recorded.pairs]
  constructor
  · rintro (⟨posted,_⟩ | ⟨worker,matched⟩)
    · exact posted
    · exact (recorded.backed task worker matched).1
  · intro posted
    by_cases matched : ∃ worker, .matched task worker ∈ events
    · exact Or.inr matched
    · exact Or.inl ⟨posted,fun worker member => matched ⟨worker,member⟩⟩

theorem joined_iff (recorded : Recorded events state) {worker : Worker} :
    state.Joined worker ↔ .joined worker ∈ events := by
  unfold Joined
  simp only [recorded.free,recorded.pairs]
  constructor
  · rintro (⟨joined,_⟩ | ⟨task,matched⟩)
    · exact joined
    · exact (recorded.backed task worker matched).2
  · intro joined
    by_cases matched : ∃ task, .matched task worker ∈ events
    · exact Or.inr matched
    · exact Or.inl ⟨joined,fun task member => matched ⟨task,member⟩⟩

theorem nil : Recorded [] (empty : Matching Task Worker) := by
  constructor <;> simp [empty]

theorem step {event : Event Task Worker} (recorded : Recorded events state)
    (taken : Step state event next) : Recorded (events ++ [event]) next := by
  cases taken with
  | posted task fresh =>
    rw [recorded.posted_iff] at fresh
    have unmatched : ∀ worker, .matched task worker ∉ events :=
      fun worker matched => fresh (recorded.backed task worker matched).1
    constructor
    · exact recorded.distinct.append (List.nodup_singleton _) (by simpa using fresh)
    · simpa using recorded.pairs
    · intro other
      by_cases same : other = task
      · subst same
        simpa using unmatched
      · simpa [same] using recorded.waiting other
    · simpa using recorded.free
    · intro other worker matched
      have before := recorded.backed other worker (by simpa using matched)
      simp [before]
    · simpa using recorded.oneWorker
    · simpa using recorded.oneTask
  | joined worker fresh =>
    rw [recorded.joined_iff] at fresh
    have unmatched : ∀ task, .matched task worker ∉ events :=
      fun task matched => fresh (recorded.backed task worker matched).2
    constructor
    · exact recorded.distinct.append (List.nodup_singleton _) (by simpa using fresh)
    · simpa using recorded.pairs
    · simpa using recorded.waiting
    · intro other
      by_cases same : other = worker
      · subst same
        simpa using unmatched
      · simpa [same] using recorded.free other
    · intro task other matched
      have before := recorded.backed task other (by simpa using matched)
      simp [before]
    · simpa using recorded.oneWorker
    · simpa using recorded.oneTask
  | matched task worker waits idle =>
    obtain ⟨posted,unserved⟩ := (recorded.waiting task).mp waits
    obtain ⟨joined,unused⟩ := (recorded.free worker).mp idle
    constructor
    · exact recorded.distinct.append (List.nodup_singleton _) (by simpa using unserved worker)
    · intro other another
      simp [recorded.pairs,or_comm]
    · intro other
      by_cases same : other = task
      · subst same
        exact iff_of_false (by simp) (fun never => never.2 worker (by simp))
      · simpa [same] using recorded.waiting other
    · intro other
      by_cases same : other = worker
      · subst same
        exact iff_of_false (by simp) (fun never => never.2 task (by simp))
      · simpa [same] using recorded.free other
    · intro other another matched
      simp only [List.mem_append,List.mem_singleton,Event.matched.injEq] at matched
      rcases matched with before | ⟨rfl,rfl⟩
      · simp [recorded.backed other another before]
      · simp [posted,joined]
    · intro other first second
      simp only [List.mem_append,List.mem_singleton,Event.matched.injEq]
      rintro (before | ⟨rfl,rfl⟩) (again | ⟨same,rfl⟩)
      · exact recorded.oneWorker other first second before again
      · exact absurd before (same ▸ unserved first)
      · exact absurd again (unserved second)
      · rfl
    · intro other first second
      simp only [List.mem_append,List.mem_singleton,Event.matched.injEq]
      rintro (before | ⟨rfl,rfl⟩) (again | ⟨rfl,same⟩)
      · exact recorded.oneTask other first second before again
      · exact absurd before (same ▸ unused first)
      · exact absurd again (unused second)
      · rfl

end Recorded

theorem recorded {events : List (Event Task Worker)} {state : Matching Task Worker}
    (run : Traced Step empty events state) : Recorded events state :=
  run.history .nil (fun _ _ _ _ step recorded => recorded.step step)

section Batches
variable {state next : Matching Task Worker}

theorem posts {tasks : List Task} (distinct : tasks.Nodup)
    (fresh : ∀ task ∈ tasks, ¬state.Posted task)
    (waiting : ∀ task, task ∈ next.waiting ↔ task ∈ tasks ∨ task ∈ state.waiting)
    (free : next.free = state.free) (pairs : next.pairs = state.pairs) :
    Traced Step state (tasks.map .posted) next := by
  induction tasks generalizing state with
  | nil =>
    have same : next = state := Matching.ext (by ext task; simp [waiting]) free pairs
    rw [same]
    exact .nil
  | cons task rest ih =>
    obtain ⟨alone,others⟩ := List.nodup_cons.mp distinct
    refine .cons (.posted task (fresh task (by simp))) (ih others ?_ ?_ free pairs)
    · intro other member
      have before : ¬state.Posted other := fresh other (by simp [member])
      have apart : other ≠ task := fun same => alone (same ▸ member)
      simpa [Posted,apart] using before
    · intro other
      simp [waiting,or_left_comm,or_assoc]

theorem joins {workers : List Worker} (distinct : workers.Nodup)
    (fresh : ∀ worker ∈ workers, ¬state.Joined worker)
    (waiting : next.waiting = state.waiting)
    (free : ∀ worker, worker ∈ next.free ↔ worker ∈ workers ∨ worker ∈ state.free)
    (pairs : next.pairs = state.pairs) : Traced Step state (workers.map .joined) next := by
  induction workers generalizing state with
  | nil =>
    have same : next = state := Matching.ext waiting (by ext worker; simp [free]) pairs
    rw [same]
    exact .nil
  | cons worker rest ih =>
    obtain ⟨alone,others⟩ := List.nodup_cons.mp distinct
    refine .cons (.joined worker (fresh worker (by simp))) (ih others ?_ waiting ?_ pairs)
    · intro other member
      have before : ¬state.Joined other := fresh other (by simp [member])
      have apart : other ≠ worker := fun same => alone (same ▸ member)
      simpa [Joined,apart] using before
    · intro other
      simp [free,or_left_comm,or_assoc]

end Batches
end Matching
end FoodDispatch.Library
