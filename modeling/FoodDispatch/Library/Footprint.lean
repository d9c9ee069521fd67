import FoodDispatch.Library.Monitor
import Mathlib.Data.Set.Lattice

/-! Footprints. A program spends a set of keys when each of its calls has a key of the
set and no two have the same. Parts with disjoint footprints compose. -/
namespace FoodDispatch.Library.Program
variable {Call : Type} {Reply : Call → Type} {Error α β Key : Type}

/-- `expects` restricts the replies that the program has to cope with. -/
def Spends (key : Call → Key) (expects : (request : Call) → Except Error (Reply request) → Prop) :
    Program Call Reply Error α → Set Key → Prop
  | .done _, _ => True
  | .call request next, keys => key request ∈ keys ∧
      ∀ reply, expects request reply → (next reply).Spends key expects (keys \ {key request})

variable {key : Call → Key} {expects : (request : Call) → Except Error (Reply request) → Prop}
variable {keys first second : Set Key}

theorem Spends.mono {program : Program Call Reply Error α} (spends : program.Spends key expects first)
    (more : first ⊆ second) : program.Spends key expects second := by
  induction program generalizing first second with
  | done result => exact trivial
  | call request next ih =>
    exact ⟨more spends.1,fun reply expected =>
      ih reply (spends.2 reply expected) (Set.sdiff_subset_sdiff_left more)⟩

/-- What has been spent was not needed. -/
theorem Spends.leaving {program : Program Call Reply Error α} {spent : Key}
    (spends : program.Spends key expects first) (fresh : spent ∉ first) (inside : first ⊆ keys) :
    program.Spends key expects (keys \ {spent}) :=
  spends.mono (Set.subset_sdiff_singleton inside fresh)

private theorem union_diff_subset {spent : Key} (unspent : spent ∉ second) :
    (first \ {spent}) ∪ second ⊆ (first ∪ second) \ {spent} := by
  rintro other (⟨inside,different⟩ | inside)
  · exact ⟨Or.inl inside,different⟩
  · refine ⟨Or.inr inside,?_⟩
    rintro rfl
    exact unspent inside

theorem spends_bind {told : Except Error α → Prop} {program : Program Call Reply Error α}
    {rest : α → Program Call Reply Error β} (spends : program.Spends key expects first)
    (yields : program.Yields told)
    (later : ∀ value, told (.ok value) → (rest value).Spends key expects second)
    (apart : ∀ spent ∈ first, spent ∉ second) : (program >>= rest).Spends key expects (first ∪ second) := by
  induction program generalizing first with
  | done result =>
    cases result with
    | ok value => exact (later value yields).mono Set.subset_union_right
    | error error => exact trivial
  | call request next ih =>
    refine ⟨Or.inl spends.1,fun reply expected => ?_⟩
    exact (ih reply (spends.2 reply expected) (yields reply)
      (fun spent inside => apart spent inside.1)).mono (union_diff_subset (apart _ spends.1))

/-- What makes no calls spends nothing. -/
theorem Spends.quietly {program : Program Call Reply Error α}
    {rest : α → Program Call Reply Error β} (spends : program.Spends key expects keys)
    (quiet : ∀ value, ∃ result, rest value = .done result) :
    (program >>= rest).Spends key expects keys := by
  induction program generalizing keys with
  | done result =>
    cases result with
    | ok value =>
      obtain ⟨result,same⟩ := quiet value
      change (rest value).Spends key expects keys
      rw [same]
      exact trivial
    | error error => exact trivial
  | call request next ih =>
    exact ⟨spends.1,fun reply expected => ih reply (spends.2 reply expected)⟩

theorem spends_tryExcept {program : Program Call Reply Error α}
    {handler : Error → Program Call Reply Error α} (spends : program.Spends key expects keys)
    (quiet : ∀ error, ∃ result, handler error = .done result) :
    (program.tryExcept handler).Spends key expects keys := by
  induction program generalizing keys with
  | done result =>
    cases result with
    | ok value => exact trivial
    | error error =>
      obtain ⟨result,same⟩ := quiet error
      change (handler error).Spends key expects keys
      rw [same]
      exact trivial
  | call request next ih =>
    exact ⟨spends.1,fun reply expected => ih reply (spends.2 reply expected)⟩

theorem yields_true (program : Program Call Reply Error α) : program.Yields (fun _ => True) := by
  induction program with
  | done result => exact trivial
  | call request next ih => exact fun reply => ih reply

/-- Turns of a loop whose footprints are apart. -/
theorem spends_forEach {Item : Type} {body : Item → Program Call Reply Error Unit}
    {region : Item → Set Key} (items : List Item)
    (each : ∀ item ∈ items, (body item).Spends key expects (region item))
    (apart : items.Pairwise (fun item other => ∀ spent ∈ region item, spent ∉ region other)) :
    (forEach items body).Spends key expects {spent | ∃ item ∈ items, spent ∈ region item} := by
  induction items with
  | nil => exact trivial
  | cons item rest ih =>
    obtain ⟨disjoint,others⟩ := List.pairwise_cons.mp apart
    have later := ih (fun other member => each other (by simp [member])) others
    have separate : ∀ spent ∈ region item, spent ∉ {spent | ∃ other ∈ rest, spent ∈ region other} := by
      rintro spent here ⟨other,member,there⟩
      exact disjoint other member spent here there
    have both : (body item >>= fun _ => forEach rest body).Spends key expects
        (region item ∪ {spent | ∃ other ∈ rest, spent ∈ region other}) :=
      spends_bind (each item (by simp)) (yields_true _) (fun _ _ => later) separate
    apply both.mono
    rintro spent (here | ⟨other,member,there⟩)
    · exact ⟨item,by simp,here⟩
    · exact ⟨other,by simp [member],there⟩

end FoodDispatch.Library.Program
