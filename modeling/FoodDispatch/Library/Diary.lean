import FoodDispatch.Library.Interleaving
import Mathlib.Data.List.Induction

/-! What a thread has called and been told since its job began. The diary is kept by
a monitor while the thread runs, and is there to be read off the transitions of the
run, where every entry can be located again. -/
namespace FoodDispatch.Library

structure Entry (Call : Type) (Reply : Call → Type) (Error : Type) where
  request : Call
  reply : Except Error (Reply request)

/-- The monitor that writes every call down, and may look at all of them. -/
def Monitor.chronicle {Call : Type} {Reply : Call → Type} {Error : Type}
    (permits : List (Entry Call Reply Error) → Call → Prop) :
    Monitor Call Reply Error (List (Entry Call Reply Error)) where
  allows := permits
  expects _ _ := True
  after entries request reply := entries ++ [⟨request,reply⟩]

/-- Nothing is struck out. -/
theorem Program.obeys_extends {Call : Type} {Reply : Call → Type} {Error α : Type}
    {permits : List (Entry Call Reply Error) → Call → Prop}
    {post : List (Entry Call Reply Error) → Except Error α → Prop}
    {program : Program Call Reply Error α} {entries : List (Entry Call Reply Error)}
    (obeys : program.Obeys (Monitor.chronicle permits) post entries) :
    program.Obeys (Monitor.chronicle permits)
      (fun final result => post final result ∧ entries <+: final) entries := by
  induction program generalizing entries with
  | done result => exact ⟨obeys,List.prefix_refl entries⟩
  | call request next ih =>
    refine ⟨obeys.1,fun reply expected => obeys_mono (ih reply (obeys.2 reply expected)) ?_⟩
    exact fun final result told => ⟨told.1,(List.prefix_append entries _).trans told.2⟩

namespace System
variable {Call : Type} {Reply : Call → Type} {Error Shared Note Thread Job Action : Type}
variable [DecidableEq Thread]

def Label.said (thread : Thread) :
    Label Call Reply Error Note Thread Job Action → Option (Entry Call Reply Error)
  | .call other request _ reply => if other = thread then some ⟨request,reply⟩ else none
  | _ => none

def Label.restarts (thread : Thread) : Label Call Reply Error Note Thread Job Action → Bool
  | .start other _ | .kill other => other = thread
  | _ => false

def Label.record (thread : Thread) (entries : List (Entry Call Reply Error))
    (label : Label Call Reply Error Note Thread Job Action) : List (Entry Call Reply Error) :=
  if label.restarts thread then [] else entries ++ (label.said thread).toList

def diary (thread : Thread)
    (trace : List (Transition (State Call Reply Error Shared Thread)
      (Label Call Reply Error Note Thread Job Action))) : List (Entry Call Reply Error) :=
  trace.foldl (fun entries transition => transition.label.record thread entries) []

section
variable {thread : Thread}
variable {transition : Transition (State Call Reply Error Shared Thread)
  (Label Call Reply Error Note Thread Job Action)}
variable {trace : List (Transition (State Call Reply Error Shared Thread)
  (Label Call Reply Error Note Thread Job Action))}

theorem diary_snoc :
    diary thread (trace ++ [transition]) = transition.label.record thread (diary thread trace) := by
  unfold diary
  rw [List.foldl_append,List.foldl_cons,List.foldl_nil]

theorem said_call {entry : Entry Call Reply Error}
    (said : transition.label.said thread = some entry) :
    ∃ note, transition.label = .call thread entry.request note entry.reply := by
  unfold Label.said at said
  split at said
  next label =>
    split at said
    next same =>
      cases said
      exact ⟨_,same ▸ label⟩
    next => contradiction
  next => contradiction

theorem record_said {label : Label Call Reply Error Note Thread Job Action}
    {entry : Entry Call Reply Error} (said : label.said thread = some entry)
    (entries : List (Entry Call Reply Error)) : label.record thread entries = entries ++ [entry] := by
  unfold Label.record
  rw [said]
  cases label with
  | call => rfl
  | _ => contradiction

/-- Every entry was written by a move, and the entries after it by the moves since. -/
theorem diary_located {front back : List (Entry Call Reply Error)} {entry : Entry Call Reply Error}
    (written : diary thread trace = front ++ entry::back) :
    ∃ first transition rest, trace = first ++ transition::rest ∧ diary thread first = front ∧
      transition.label.said thread = some entry ∧
      rest.filterMap (fun later => later.label.said thread) = back ∧
      ∀ later ∈ rest, later.label.restarts thread = false := by
  induction trace using List.reverseRecOn generalizing back with
  | nil => simp [diary] at written
  | append_singleton trace last ih =>
    rw [diary_snoc] at written
    unfold Label.record at written
    cases restart : last.label.restarts thread with
    | true => simp [restart] at written
    | false =>
      rw [if_neg (by simp [restart])] at written
      -- whatever the last move adds, it adds to what was written since the entry
      have extended {shorter : List (Entry Call Reply Error)}
          (earlier : diary thread trace = front ++ entry::shorter)
          (added : back = shorter ++ (last.label.said thread).toList) :
          ∃ first transition rest, trace ++ [last] = first ++ transition::rest ∧
            diary thread first = front ∧ transition.label.said thread = some entry ∧
            rest.filterMap (fun later => later.label.said thread) = back ∧
            ∀ later ∈ rest, later.label.restarts thread = false := by
        obtain ⟨first,transition,rest,located,before,said,since,going⟩ := ih earlier
        refine ⟨first,transition,rest ++ [last],by simp [located],before,said,?_,?_⟩
        · rw [List.filterMap_append,since,added]
          cases heard : last.label.said thread <;> simp [heard]
        · intro later member
          rcases List.mem_append.mp member with inside | final
          · exact going later inside
          · rw [List.mem_singleton.mp final]
            exact restart
      cases said : last.label.said thread with
      | none =>
        rw [said] at written
        exact extended (by simpa using written) (by simp [said])
      | some new =>
        rw [said] at written
        rcases List.eq_nil_or_concat back with rfl | ⟨shorter,final,rfl⟩
        · obtain ⟨before,same⟩ := List.append_inj' written rfl
          cases same
          exact ⟨trace,last,[],rfl,before,said,rfl,by simp⟩
        · rw [List.concat_eq_append,← List.cons_append,← List.append_assoc] at written
          obtain ⟨before,same⟩ := List.append_inj' written rfl
          cases same
          exact extended before (by simp [said])

end

section
variable {system : System Call Reply Error Shared Note Thread Job Action}
variable {permits : List (Entry Call Reply Error) → Call → Prop}
variable {shared : Shared} {trace : List system.Moves}
variable {state : State Call Reply Error Shared Thread}

theorem chronicled (body : ∀ thread job, system.starts thread job →
    (system.body job).Obeys (Monitor.chronicle permits) (fun _ _ => True) []) :
    system.Invariant (fun _ => Monitor.chronicle permits) []
      (fun trace _ diaries => ∀ thread, diaries thread = diary thread trace) where
  body := body
  expected _ _ _ _ _ _ _ := trivial
  restart trace diaries thread transition kept label _ := by
    rw [Function.forall_update_iff diaries
      (fun thread entries => entries = diary thread (trace ++ [transition]))]
    simp only [diary_snoc]
    constructor
    · rcases label with kill | ⟨job,start⟩
      · simp [kill,Label.record,Label.restarts]
      · simp [start,Label.record,Label.restarts]
    · intro other apart
      rw [kept other]
      rcases label with kill | ⟨job,start⟩
      · simp [kill,Label.record,Label.restarts,Label.said,apart.symm]
      · simp [start,Label.record,Label.restarts,Label.said,apart.symm]
  call trace diaries thread request note reply transition kept label _ _ := by
    rw [Function.forall_update_iff diaries
      (fun thread entries => entries = diary thread (trace ++ [transition]))]
    simp only [diary_snoc]
    constructor
    · rw [kept thread]
      simp [label,Label.record,Label.restarts,Label.said,Monitor.chronicle]
    · intro other apart
      rw [kept other]
      simp [label,Label.record,Label.restarts,Label.said,apart.symm]
  outside trace diaries action transition kept label _ thread := by
    rw [diary_snoc,kept thread]
    simp [label,Label.record,Label.restarts,Label.said]

/-- Every call of a run is one that its thread's diary permits. -/
theorem permitted {thread : Thread} (body : ∀ thread job, system.starts thread job →
    (system.body job).Obeys (Monitor.chronicle permits) (fun _ _ => True) [])
    (run : system.Run shared trace state) {first rest : List system.Moves}
    {transition : system.Moves} (located : trace = first ++ transition::rest) {request : Call}
    {note : Note} {reply : Except Error (Reply request)}
    (label : transition.label = .call thread request note reply) :
    permits (diary thread first) request ∧
      system.respond request note transition.before.shared =
        some (reply,transition.after.shared) := by
  obtain ⟨diaries,kept,allowed,answered⟩ :=
    (chronicled body).at_call (fun _ => rfl) run located label
  rw [kept thread] at allowed
  exact ⟨allowed,answered⟩

end
end System
end FoodDispatch.Library
