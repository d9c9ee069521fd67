import Mathlib.Data.Finset.Card
import Mathlib.Data.Set.Card
import Mathlib.Order.BooleanAlgebra.Set
import Mathlib.Tactic.Common

/-! Greedy matching. Tasks come one after another, and each takes the best of the
resources that are left and fit it. One resource more costs no task its match. -/
namespace FoodDispatch.Library

section
variable {Task Resource : Type} (fits : Task → Resource → Prop)
variable (better : Task → Resource → Resource → Prop)

/-- The resource is the best for the task of those that are free. -/
structure Best (task : Task) (free : Set Resource) (chosen : Resource) : Prop where
  left : chosen ∈ free
  suits : fits task chosen
  best : ∀ other ∈ free, fits task other → other ≠ chosen → better task chosen other

/-- A run over the tasks, from the free resources, with the pairs that it matches. -/
inductive Greedy : List Task → Set Resource → List (Task × Resource) → Prop
  | nil (free) : Greedy [] free []
  | skip {task rest free matched} (nothing : ∀ resource ∈ free, ¬fits task resource)
      (later : Greedy rest free matched) : Greedy (task::rest) free matched
  | take {task rest free matched} (chosen) (best : Best fits better task free chosen)
      (later : Greedy rest (free \ {chosen}) matched) :
      Greedy (task::rest) free ((task,chosen)::matched)

variable {fits} {better} {task : Task} {tasks : List Task} {matched matched' : List (Task × Resource)}
variable {free : Set Resource} {first second extra : Resource}

theorem Best.unique (asymm : ∀ task first second, better task first second →
    ¬better task second first) (one : Best fits better task free first)
    (other : Best fits better task free second) : first = second := by
  by_contra apart
  have forward := one.best second other.left other.suits (Ne.symm apart)
  have backward := other.best first one.left one.suits apart
  exact asymm task first second forward backward

theorem Greedy.sublist (run : Greedy fits better tasks free matched) :
    (matched.map Prod.fst).Sublist tasks := by
  induction run with
  | nil free => exact .slnil
  | skip nothing later ih => exact ih.cons _
  | take chosen best later ih => exact ih.cons_cons _

theorem Greedy.left (run : Greedy fits better tasks free matched) {pair : Task × Resource}
    (member : pair ∈ matched) : pair.2 ∈ free := by
  induction run with
  | nil free => contradiction
  | skip nothing later ih => exact ih member
  | take chosen best later ih =>
    rcases List.mem_cons.mp member with rfl | earlier
    · exact best.left
    · exact (ih earlier).1

theorem Greedy.suits (run : Greedy fits better tasks free matched) {pair : Task × Resource}
    (member : pair ∈ matched) : fits pair.1 pair.2 := by
  induction run with
  | nil free => contradiction
  | skip nothing later ih => exact ih member
  | take chosen best later ih =>
    rcases List.mem_cons.mp member with rfl | earlier
    · exact best.suits
    · exact ih earlier

/-- A resource is taken once. -/
theorem Greedy.once (run : Greedy fits better tasks free matched) :
    (matched.map Prod.snd).Nodup := by
  induction run with
  | nil free => exact List.nodup_nil
  | skip nothing later ih => exact ih
  | take chosen best later ih =>
    rw [List.map_cons,List.nodup_cons]
    refine ⟨fun again => ?_,ih⟩
    obtain ⟨pair,member,same⟩ := List.mem_map.mp again
    exact (later.left member).2 same

theorem Greedy.deterministic (asymm : ∀ task first second, better task first second →
    ¬better task second first) (run : Greedy fits better tasks free matched)
    (again : Greedy fits better tasks free matched') : matched = matched' := by
  induction run generalizing matched' with
  | nil free => cases again with | nil => rfl
  | skip nothing later ih =>
    cases again with
    | skip _ later' => exact ih later'
    | take chosen best _ => exact absurd best.suits (nothing chosen best.left)
  | take chosen best later ih =>
    cases again with
    | skip nothing _ => exact absurd best.suits (nothing chosen best.left)
    | take chosen' best' later' =>
      have same := best.unique asymm best'
      subst same
      rw [ih later']

/-- A best choice with one resource more is the additional one or the best without it. -/
theorem Best.of_insert (best : Best fits better task (insert extra free) first)
    (other : first ≠ extra) : Best fits better task free first :=
  ⟨best.left.resolve_left other,best.suits,
    fun resource member => best.best resource (Set.mem_insert_of_mem extra member)⟩

/-- The two runs differ in one free resource at every moment: the additional one, or
the one that the first run has used where the second has used the additional one. -/
theorem Greedy.insert (asymm : ∀ task first second, better task first second →
    ¬better task second first) (run : Greedy fits better tasks free matched)
    (new : extra ∉ free) (more : Greedy fits better tasks (insert extra free) matched') :
    (matched.map Prod.fst).Sublist (matched'.map Prod.fst) ∧
      matched'.length ≤ matched.length + 1 := by
  induction run generalizing extra matched' with
  | nil free => cases more with | nil => exact ⟨.slnil,by simp⟩
  | @skip task rest free matched nothing later ih =>
    cases more with
    | skip _ later' => exact ih new later'
    | @take _ _ _ rest' chosen best later' =>
      have same : chosen = extra := by
        by_contra other
        exact nothing chosen (best.of_insert other).left best.suits
      subst same
      have equal : insert chosen free \ {chosen} = free := Set.insert_sdiff_self_of_notMem new
      rw [equal] at later'
      rw [later.deterministic asymm later']
      exact ⟨(List.Sublist.refl (rest'.map Prod.fst)).cons _,le_of_eq (List.length_cons ..)⟩
  | @take task rest free matched chosen best later ih =>
    cases more with
    | skip nothing _ =>
      exact absurd best.suits (nothing chosen (Set.mem_insert_of_mem extra best.left))
    | @take _ _ _ rest' chosen' best' later' =>
      have following : (matched.map Prod.fst).Sublist (rest'.map Prod.fst) ∧
          rest'.length ≤ matched.length + 1 := by
        by_cases used : chosen' = extra
        · -- what the first run has used is now the resource more
          have equal : insert extra free \ {chosen'} = insert chosen (free \ {chosen}) := by
            rw [used,Set.insert_sdiff_self_of_notMem new,Set.insert_sdiff_singleton,
              Set.insert_eq_of_mem best.left]
          rw [equal] at later'
          exact ih (by simp) later'
        · have same := best.unique asymm (best'.of_insert used)
          subst same
          have equal : insert extra free \ {chosen} = insert extra (free \ {chosen}) := by
            apply Set.insert_sdiff_of_notMem
            exact fun member => used member.symm
          rw [equal] at later'
          exact ih (fun member => new member.1) later'
      obtain ⟨kept,bound⟩ := following
      refine ⟨kept.cons_cons task,?_⟩
      rw [List.length_cons,List.length_cons]
      omega

/-- A way to match some of the tasks, one to one, with free resources that fit. -/
structure Feasible (fits : Task → Resource → Prop) (tasks : List Task) (free : Set Resource)
    (pairs : Finset (Task × Resource)) : Prop where
  listed : ∀ pair ∈ pairs, pair.1 ∈ tasks
  left : ∀ pair ∈ pairs, pair.2 ∈ free
  suits : ∀ pair ∈ pairs, fits pair.1 pair.2
  oneTask : ∀ first ∈ pairs, ∀ second ∈ pairs, first.1 = second.1 → first = second
  oneResource : ∀ first ∈ pairs, ∀ second ∈ pairs, first.2 = second.2 → first = second

/-- The pairs of the greedy run are such a matching. -/
theorem Greedy.feasible {pairs : Finset (Task × Resource)} (distinct : tasks.Nodup)
    (run : Greedy fits better tasks free matched) (same : ∀ pair, pair ∈ pairs ↔ pair ∈ matched) :
    Feasible fits tasks free pairs := by
  have tasksOnce : (matched.map Prod.fst).Nodup := distinct.sublist run.sublist
  constructor
  · exact fun pair member => run.sublist.subset (List.mem_map_of_mem ((same pair).mp member))
  · exact fun pair member => run.left ((same pair).mp member)
  · exact fun pair member => run.suits ((same pair).mp member)
  · exact fun first one second other =>
      List.inj_on_of_nodup_map tasksOnce ((same first).mp one) ((same second).mp other)
  · exact fun first one second other =>
      List.inj_on_of_nodup_map run.once ((same first).mp one) ((same second).mp other)

section Feasible
open Classical
variable {pairs : Finset (Task × Resource)} {rest : List Task} {chosen : Resource}

/-- A choice of the greedy run spoils at most two pairs of another matching: the one
of its task and the one of its resource. -/
theorem Feasible.spoiled (feasible : Feasible fits (task::rest) free pairs) :
    ∃ fewer, Feasible fits rest (free \ {chosen}) fewer ∧ pairs.card ≤ fewer.card + 2 := by
  refine ⟨pairs.filter (fun pair => pair.1 ≠ task ∧ pair.2 ≠ chosen),?_,?_⟩
  · constructor
    · intro pair member
      obtain ⟨known,apart,_⟩ := Finset.mem_filter.mp member
      exact (List.mem_cons.mp (feasible.listed pair known)).resolve_left apart
    · intro pair member
      obtain ⟨known,_,apart⟩ := Finset.mem_filter.mp member
      exact ⟨feasible.left pair known,apart⟩
    · exact fun pair member => feasible.suits pair (Finset.mem_of_mem_filter pair member)
    · exact fun first one second other => feasible.oneTask first (Finset.mem_of_mem_filter first one)
        second (Finset.mem_of_mem_filter second other)
    · exact fun first one second other => feasible.oneResource first
        (Finset.mem_of_mem_filter first one) second (Finset.mem_of_mem_filter second other)
  · have ofTask : (pairs.filter (fun pair => pair.1 = task)).card ≤ 1 := by
      rw [Finset.card_le_one]
      intro first one second other
      obtain ⟨known,same⟩ := Finset.mem_filter.mp one
      obtain ⟨known',same'⟩ := Finset.mem_filter.mp other
      exact feasible.oneTask first known second known' (same.trans same'.symm)
    have ofResource : (pairs.filter (fun pair => pair.2 = chosen)).card ≤ 1 := by
      rw [Finset.card_le_one]
      intro first one second other
      obtain ⟨known,same⟩ := Finset.mem_filter.mp one
      obtain ⟨known',same'⟩ := Finset.mem_filter.mp other
      exact feasible.oneResource first known second known' (same.trans same'.symm)
    have covered : pairs ⊆ pairs.filter (fun pair => pair.1 ≠ task ∧ pair.2 ≠ chosen) ∪
        (pairs.filter (fun pair => pair.1 = task) ∪ pairs.filter (fun pair => pair.2 = chosen)) := by
      intro pair member
      by_cases first : pair.1 = task
      · simp [member,first]
      · by_cases second : pair.2 = chosen
        · simp [member,second]
        · simp [member,first,second]
    have total := (Finset.card_le_card covered).trans (Finset.card_union_le _ _)
    have spoiled := Finset.card_union_le (pairs.filter (fun pair => pair.1 = task))
      (pairs.filter (fun pair => pair.2 = chosen))
    omega

/-- A greedy run matches at least half as many tasks as can be matched. -/
theorem Greedy.half (run : Greedy fits better tasks free matched)
    (feasible : Feasible fits tasks free pairs) : pairs.card ≤ 2 * matched.length := by
  induction run generalizing pairs with
  | nil free =>
    have none : pairs = ∅ := by
      apply Finset.eq_empty_of_forall_notMem
      intro pair member
      simpa using feasible.listed pair member
    simp [none]
  | @skip task rest free matched nothing later ih =>
    apply ih
    refine ⟨fun pair member => ?_,feasible.left,feasible.suits,feasible.oneTask,feasible.oneResource⟩
    refine (List.mem_cons.mp (feasible.listed pair member)).resolve_left (fun same => ?_)
    exact nothing pair.2 (feasible.left pair member) (same ▸ feasible.suits pair member)
  | @take task rest free matched chosen best later ih =>
    obtain ⟨fewer,still,bound⟩ := feasible.spoiled
    have half := ih still
    rw [List.length_cons]
    omega

/-- Where every resource fits every task, tasks or resources run out. -/
theorem Greedy.complete (run : Greedy fits better tasks free matched) (finite : free.Finite)
    (every : ∀ task ∈ tasks, ∀ resource ∈ free, fits task resource) :
    matched.length = min tasks.length free.ncard := by
  induction run with
  | nil free => simp
  | @skip task rest free matched nothing later ih =>
    have none : free = ∅ := by
      apply Set.eq_empty_of_forall_notMem
      exact fun resource member => nothing resource member (every task (by simp) resource member)
    have following := ih finite (fun other member => every other (by simp [member]))
    simp [following,none]
  | @take task rest free matched chosen best later ih =>
    have following := ih (finite.subset Set.sdiff_subset) (fun other member resource left =>
      every other (by simp [member]) resource left.1)
    have fewer := Set.ncard_sdiff_singleton_add_one best.left finite
    rw [List.length_cons,List.length_cons,following]
    omega

end Feasible
end
end FoodDispatch.Library
