import FoodDispatch.Library.Execution
import Mathlib.Logic.Function.Basic
import Mathlib.Logic.Relation
import Mathlib.Order.Defs.PartialOrder

/-! Transactions that take locks one after another and give all of them back when
they end. Where every plan takes its locks along one order of the resources, no
transactions ever wait for each other in a circle. -/
namespace FoodDispatch.Library

structure Lock (Resource Mode : Type) where
  resource : Resource
  mode : Mode
  deriving DecidableEq

/-- The locks that a transaction holds, and those it still has to take. -/
structure Holder (Resource Mode : Type) where
  held : List (Lock Resource Mode)
  wanted : List (Lock Resource Mode)

namespace Locking
variable {Transaction Resource Mode Rank : Type} [Preorder Rank]
variable (conflict : Mode → Mode → Prop) (plans : List (Lock Resource Mode) → Prop)

def idle (_ : Transaction) : Holder Resource Mode := ⟨[],[]⟩

/-- A transaction may start on a plan, take its next lock when no other one holds a
lock against it, and end at any time. -/
inductive Step [DecidableEq Transaction] :
    (Transaction → Holder Resource Mode) → Transaction → (Transaction → Holder Resource Mode) → Prop
  | start {state} (transaction plan) (ended : state transaction = ⟨[],[]⟩) (permitted : plans plan) :
      Step state transaction (Function.update state transaction ⟨[],plan⟩)
  | acquire {state} (transaction lock rest) (next : (state transaction).wanted = lock::rest)
      (granted : ∀ other, other ≠ transaction → ∀ held ∈ (state other).held,
        held.resource = lock.resource → ¬conflict held.mode lock.mode) :
      Step state transaction
        (Function.update state transaction ⟨(state transaction).held ++ [lock],rest⟩)
  | finish {state} (transaction) :
      Step state transaction (Function.update state transaction ⟨[],[]⟩)

structure Waits (state : Transaction → Holder Resource Mode) (waiting holder : Transaction) :
    Prop where
  apart : holder ≠ waiting
  blocked : ∃ lock rest, (state waiting).wanted = lock::rest ∧ ∃ held ∈ (state holder).held,
    held.resource = lock.resource ∧ conflict held.mode lock.mode

def Covers (strong weak : Mode) : Prop := ∀ other, conflict other weak → conflict other strong

/-- A lock comes after all that its plan already holds and others may ask for, unless
one of those covers it. -/
def Ordered (rank : Resource → Rank) : Prop :=
  ∀ before lock after, plans (before ++ lock::after) →
    (∃ own ∈ before, own.resource = lock.resource ∧ Covers conflict own.mode lock.mode) ∨
    ∀ own ∈ before, (∃ plan, plans plan ∧ ∃ other ∈ plan, other.resource = own.resource ∧
      conflict own.mode other.mode) → rank own.resource < rank lock.resource

structure Sound (state : Transaction → Holder Resource Mode) : Prop where
  planned : ∀ transaction, (state transaction).held ++ (state transaction).wanted = [] ∨
    plans ((state transaction).held ++ (state transaction).wanted)
  compatible : ∀ first second, first ≠ second → ∀ one ∈ (state first).held,
    ∀ other ∈ (state second).held, one.resource = other.resource → ¬conflict one.mode other.mode

variable {conflict} {plans} {rank : Resource → Rank}
variable {state next : Transaction → Holder Resource Mode}

theorem sound_idle : Sound conflict plans (idle : Transaction → Holder Resource Mode) where
  planned _ := Or.inl rfl
  compatible _ _ _ one member := by simp [idle] at member

section Run
variable [DecidableEq Transaction] {label : Transaction}

/-- A transaction whose locks are compatible with those of all others may replace its own. -/
theorem Sound.update (symm : ∀ one other, conflict one other → conflict other one)
    (sound : Sound conflict plans state) {transaction : Transaction} {holder : Holder Resource Mode}
    (planned : holder.held ++ holder.wanted = [] ∨ plans (holder.held ++ holder.wanted))
    (granted : ∀ other, other ≠ transaction → ∀ held ∈ (state other).held, ∀ own ∈ holder.held,
      held.resource = own.resource → ¬conflict held.mode own.mode) :
    Sound conflict plans (Function.update state transaction holder) where
  planned other := by
    by_cases same : other = transaction
    · subst other
      rw [Function.update_self]
      exact planned
    · rw [Function.update_of_ne same]
      exact sound.planned other
  compatible first second apart one left other right same := by
    by_cases here : first = transaction
    · subst first
      rw [Function.update_self] at left
      rw [Function.update_of_ne (Ne.symm apart)] at right
      exact fun against => granted second (Ne.symm apart) other right one left same.symm
        (symm _ _ against)
    · rw [Function.update_of_ne here] at left
      by_cases there : second = transaction
      · subst second
        rw [Function.update_self] at right
        exact granted first here one left other right same
      · rw [Function.update_of_ne there] at right
        exact sound.compatible first second apart one left other right same

theorem Step.sound (symm : ∀ one other, conflict one other → conflict other one)
    (sound : Sound conflict plans state) (step : Step conflict plans state label next) :
    Sound conflict plans next := by
  cases step with
  | start plan ended permitted =>
    apply sound.update symm
    · exact Or.inr permitted
    · intro other _ held _ own member
      simp at member
  | acquire lock rest following granted =>
    have whole : (state label).held ++ [lock] ++ rest =
        (state label).held ++ (state label).wanted := by
      rw [following,List.append_assoc]
      rfl
    apply sound.update symm
    · rw [whole]
      exact sound.planned label
    · intro other apart held member own mine
      rcases List.mem_append.mp mine with before | now
      · exact sound.compatible other label apart held member own before
      · rw [List.mem_singleton.mp now]
        exact granted other apart held member
  | finish =>
    apply sound.update symm
    · exact Or.inl rfl
    · intro other _ held _ own member
      simp at member

theorem sound_reached (symm : ∀ one other, conflict one other → conflict other one)
    {trace : List (Transition (Transaction → Holder Resource Mode) Transaction)}
    (run : Execution (Step conflict plans) idle trace state) : Sound conflict plans state :=
  (run.induction sound_idle (fun _ _ sound step => step.sound symm sound)).1

end Run

/-- Whoever waits for a transaction that waits itself waits for a smaller resource. -/
theorem Waits.rank_lt (ordered : Ordered conflict plans rank) (sound : Sound conflict plans state)
    {first second third : Transaction} (left : Waits conflict state first second)
    (right : Waits conflict state second third) {lock lock' : Lock Resource Mode}
    {rest rest' : List (Lock Resource Mode)} (wanted : (state first).wanted = lock::rest)
    (wanted' : (state second).wanted = lock'::rest') : rank lock.resource < rank lock'.resource := by
  obtain ⟨one,_,same,held,member,named,against⟩ := left.blocked
  obtain ⟨other,_,same',taken,member',named',against'⟩ := right.blocked
  have here : one = lock := (List.cons.inj (same.symm.trans wanted)).1
  have there : other = lock' := (List.cons.inj (same'.symm.trans wanted')).1
  subst here
  subst there
  have planned : ∀ transaction (request : Lock Resource Mode) after,
      (state transaction).wanted = request::after →
        plans ((state transaction).held ++ request::after) := by
    intro transaction request after wants
    have either := sound.planned transaction
    rw [wants] at either
    exact either.resolve_left (by simp)
  rcases ordered _ other rest' (planned second other rest' wanted') with ⟨own,mine,equal,covers⟩ | above
  · -- a lock that covers the wanted one keeps its holder from waiting for it
    have clash := covers taken.mode against'
    exact absurd clash (sound.compatible third second right.apart taken member' own mine
      (named'.trans equal.symm))
  · rw [← named]
    apply above held member
    exact ⟨_,planned first one rest wanted,one,by simp,named.symm,against⟩

theorem transGen_rank_lt (ordered : Ordered conflict plans rank)
    (sound : Sound conflict plans state) {first last beyond : Transaction}
    (chain : Relation.TransGen (Waits conflict state) first last)
    (more : Waits conflict state last beyond) {lock lock' : Lock Resource Mode}
    {rest rest' : List (Lock Resource Mode)} (wanted : (state first).wanted = lock::rest)
    (wanted' : (state last).wanted = lock'::rest') : rank lock.resource < rank lock'.resource := by
  induction chain generalizing beyond lock' rest' with
  | single waits => exact waits.rank_lt ordered sound more wanted wanted'
  | tail _ waits ih =>
    obtain ⟨between,after,wants,_⟩ := waits.blocked
    exact lt_trans (ih waits wants) (waits.rank_lt ordered sound more wants wanted')

/-- Nobody waits for itself through others. -/
theorem no_deadlock (ordered : Ordered conflict plans rank) (sound : Sound conflict plans state)
    (transaction : Transaction) :
    ¬Relation.TransGen (Waits conflict state) transaction transaction := by
  intro cycle
  obtain ⟨beyond,waits,_⟩ := Relation.TransGen.head'_iff.mp cycle
  obtain ⟨lock,rest,wanted,_⟩ := waits.blocked
  exact lt_irrefl _ (transGen_rank_lt ordered sound cycle waits wanted wanted)

end Locking
end FoodDispatch.Library
