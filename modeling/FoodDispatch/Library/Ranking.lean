import Mathlib.Data.List.Sort

/-! Ranking the items of a list by a key, those with equal keys in the order of the
list. -/
namespace FoodDispatch.Library

section
variable {Item Key : Type} [LinearOrder Key] (key : Item → Key)

def ranked (items : List Item) : List Item :=
  items.insertionSort (fun first second => key first ≤ key second)

/-- `first` comes before `second` when `items` are ranked. -/
def Precedes (items : List Item) (first second : Item) : Prop :=
  key first < key second ∨ key first = key second ∧ [first,second].Sublist items

variable {key} {items : List Item} {first second : Item}

theorem ranked_perm (items : List Item) : (ranked key items).Perm items :=
  List.perm_insertionSort _ items

theorem mem_ranked : first ∈ ranked key items ↔ first ∈ items := (ranked_perm items).mem_iff

theorem pair_sublist (left : first ∈ items) (right : second ∈ items) (apart : first ≠ second) :
    [first,second].Sublist items ∨ [second,first].Sublist items := by
  obtain ⟨front,back,rfl⟩ := List.append_of_mem left
  have elsewhere : second ∈ front ∨ second ∈ back := by
    simpa [apart.symm] using right
  rcases elsewhere with before | after
  · have earlier : [second].Sublist front := List.singleton_sublist.mpr before
    have later : [first].Sublist (first::back) := List.singleton_sublist.mpr (by simp)
    exact Or.inr (earlier.append later)
  · have pair : [first,second].Sublist (first::back) :=
      (List.singleton_sublist.mpr after).cons_cons first
    exact Or.inl (pair.trans (List.sublist_append_right front _))

/-- In a list without repetitions the places increase. -/
theorem pairwise_idxOf [DecidableEq Item] (distinct : items.Nodup) :
    items.Pairwise (fun first second => items.idxOf first < items.idxOf second) := by
  rw [List.pairwise_iff_getElem]
  intro i j inside within before
  rw [distinct.idxOf_getElem,distinct.idxOf_getElem]
  exact before

theorem pair_sublist_asymm (distinct : items.Nodup) (forward : [first,second].Sublist items) :
    ¬[second,first].Sublist items := by
  intro backward
  obtain ⟨front,back,same,inFront,inBack⟩ := List.cons_sublist_iff.mp forward
  obtain ⟨front',back',same',inFront',inBack'⟩ := List.cons_sublist_iff.mp backward
  have later : second ∈ back := List.singleton_sublist.mp inBack
  have later' : first ∈ back' := List.singleton_sublist.mp inBack'
  have apart : List.Disjoint front back := List.disjoint_of_nodup_append (same ▸ distinct)
  have apart' : List.Disjoint front' back' := List.disjoint_of_nodup_append (same' ▸ distinct)
  rcases List.append_eq_append_iff.mp (same.symm.trans same') with ⟨middle,longer,_⟩ | ⟨middle,longer,_⟩
  · exact apart' (longer ▸ List.mem_append_left middle inFront) later'
  · exact apart (longer ▸ List.mem_append_left middle inFront') later

theorem precedes_asymm (distinct : items.Nodup) (forward : Precedes key items first second) :
    ¬Precedes key items second first := by
  intro backward
  rcases forward with less | ⟨same,ordered⟩
  · rcases backward with greater | ⟨same,_⟩
    · exact lt_asymm less greater
    · exact less.ne same.symm
  · rcases backward with greater | ⟨_,reversed⟩
    · exact greater.ne same.symm
    · exact pair_sublist_asymm distinct ordered reversed

theorem precedes_filter {wanted : Item → Bool} (left : wanted first = true)
    (right : wanted second = true) :
    Precedes key (items.filter wanted) first second ↔ Precedes key items first second := by
  have same : [first,second].Sublist (items.filter wanted) ↔ [first,second].Sublist items := by
    constructor
    · intro kept
      exact kept.trans List.filter_sublist
    · intro ordered
      have kept := ordered.filter wanted
      rwa [List.filter_cons_of_pos left,List.filter_cons_of_pos right,List.filter_nil] at kept
  unfold Precedes
  rw [same]

theorem ranked_pairwise (distinct : items.Nodup) :
    (ranked key items).Pairwise (Precedes key items) := by
  have again : (ranked key items).Nodup := (ranked_perm items).nodup_iff.mpr distinct
  rw [List.pairwise_iff_forall_sublist]
  intro first second pair
  have left : first ∈ items := mem_ranked.mp (pair.subset (by simp))
  have right : second ∈ items := mem_ranked.mp (pair.subset (by simp))
  have apart : first ≠ second := by
    have both := again.sublist pair
    simpa using both
  have le : key first ≤ key second :=
    List.pairwise_iff_forall_sublist.mp
      (List.pairwise_insertionSort (fun one other => key one ≤ key other) items) pair
  rcases le.lt_or_eq with less | same
  · exact Or.inl less
  · rcases pair_sublist left right apart with forward | backward
    · exact Or.inr ⟨same,forward⟩
    · -- sorting is stable, so the pair would be ranked the other way round
      have reversed : [second,first].Sublist (ranked key items) :=
        List.pair_sublist_insertionSort same.ge backward
      exact absurd reversed (pair_sublist_asymm again pair)

/-- What stands before an item in the ranking is what precedes it. -/
theorem mem_before_iff (distinct : items.Nodup) {before after : List Item} {item other : Item}
    (split : ranked key items = before ++ item::after) (member : other ∈ items) :
    other ∈ before ↔ Precedes key items other item := by
  have ordered : (ranked key items).Pairwise (Precedes key items) := ranked_pairwise distinct
  rw [split] at ordered
  obtain ⟨_,tail,across⟩ := List.pairwise_append.mp ordered
  constructor
  · intro earlier
    exact across other earlier item (by simp)
  · intro precedes
    have placed : other ∈ before ++ item::after := split ▸ mem_ranked.mpr member
    rcases List.mem_append.mp placed with earlier | rest
    · exact earlier
    · rcases List.mem_cons.mp rest with rfl | later
      · exact absurd precedes (precedes_asymm distinct precedes)
      · have reversed := (List.pairwise_cons.mp tail).1 other later
        exact absurd precedes (precedes_asymm distinct reversed)

end
end FoodDispatch.Library
