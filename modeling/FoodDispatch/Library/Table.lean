import Mathlib.Data.Finset.Card
import Mathlib.Data.List.Nodup
import Mathlib.Data.List.Perm.Basic
import Mathlib.Tactic.Common

/-! Tables of a relational store: rows in the order the store happens to keep
them, under a primary key that no two rows share. Updates carry the proof that
they leave the key alone, so every operation yields a table again. -/
namespace FoodDispatch.Library

structure Table {Key Row : Type} (key : Row → Key) where
  rows : List Row
  keyed : (rows.map key).Nodup

namespace Table
variable {Key Row : Type} {key : Row → Key}

@[ext] theorem ext {first second : Table key} (same : first.rows = second.rows) :
    first = second := by
  cases first
  cases second
  simpa using same

def empty : Table key := ⟨[],List.nodup_nil⟩

def keys (table : Table key) : List Key := table.rows.map key

instance [DecidableEq Row] : DecidableEq (Table key) := fun first second =>
  decidable_of_iff (first.rows = second.rows) ⟨ext,congrArg rows⟩

theorem unique (table : Table key) {first second : Row} (left : first ∈ table.rows)
    (right : second ∈ table.rows) (same : key first = key second) : first = second :=
  List.inj_on_of_nodup_map table.keyed left right same

theorem mem_keys {table : Table key} {wanted : Key} :
    wanted ∈ table.keys ↔ ∃ row ∈ table.rows, key row = wanted := List.mem_map

theorem key_mem (table : Table key) {row : Row} (member : row ∈ table.rows) :
    key row ∈ table.keys := List.mem_map_of_mem member

section Find
variable [DecidableEq Key]

theorem card_keys (table : Table key) : table.keys.toFinset.card = table.rows.length := by
  have distinct : table.keys.Nodup := table.keyed
  rw [List.toFinset_card_of_nodup distinct]
  exact List.length_map _

def find? (table : Table key) (wanted : Key) : Option Row :=
  table.rows.find? (fun row => key row = wanted)

end Find

/-- `UPDATE .. SET set WHERE selects`. -/
def update (table : Table key) (selects : Row → Bool) (set : Row → Row)
    (keeps : ∀ row, key (set row) = key row) : Table key :=
  ⟨table.rows.map (fun row => if selects row then set row else row),by
    have same : key ∘ (fun row => if selects row then set row else row) = key := by
      funext row
      dsimp only [Function.comp_apply]
      split
      · exact keeps row
      · rfl
    rw [List.map_map,same]
    exact table.keyed⟩

/-- `INSERT`, for a row whose key is not in the table yet. -/
def insert (table : Table key) (row : Row) (fresh : key row ∉ table.keys) : Table key :=
  ⟨table.rows ++ [row],by
    rw [List.map_append]
    exact table.keyed.append (List.nodup_singleton _)
      (by simpa [List.disjoint_singleton,mem_keys] using fresh)⟩

/-- `DELETE .. WHERE selects`. -/
def delete (table : Table key) (selects : Row → Bool) : Table key :=
  ⟨table.rows.filter (fun row => !selects row),
    List.Nodup.sublist ((List.filter_sublist).map _) table.keyed⟩

section Update
variable {table : Table key} {selects : Row → Bool} {set : Row → Row}
variable {keeps : ∀ row, key (set row) = key row}

theorem mem_update {row : Row} : row ∈ (table.update selects set keeps).rows ↔
    ∃ old ∈ table.rows, row = if selects old then set old else old := by
  simp only [update,List.mem_map]
  constructor
  · rintro ⟨old,member,rfl⟩
    exact ⟨old,member,rfl⟩
  · rintro ⟨old,member,rfl⟩
    exact ⟨old,member,rfl⟩

@[simp] theorem keys_update : (table.update selects set keeps).keys = table.keys := by
  simp only [update,keys,List.map_map]
  apply List.map_congr_left
  intro row _
  dsimp only [Function.comp_apply]
  split
  · exact keeps row
  · rfl

@[simp] theorem length_update :
    (table.update selects set keeps).rows.length = table.rows.length := List.length_map _

/-- What the update does not touch is read as before. -/
theorem map_update {Value : Type} (read : Row → Value) (same : ∀ row, read (set row) = read row) :
    (table.update selects set keeps).rows.map read = table.rows.map read := by
  simp only [update,List.map_map]
  apply List.map_congr_left
  intro row _
  dsimp only [Function.comp_apply]
  split
  · exact same row
  · rfl

theorem mem_update_cases {row : Row} (member : row ∈ (table.update selects set keeps).rows) :
    (∃ old ∈ table.rows, selects old = true ∧ row = set old) ∨
      (row ∈ table.rows ∧ selects row = false) := by
  obtain ⟨old,present,rfl⟩ := mem_update.mp member
  cases selected : selects old with
  | true => exact Or.inl ⟨old,present,selected,rfl⟩
  | false => exact Or.inr ⟨present,selected⟩

theorem mem_update_of_mem {row : Row} (member : row ∈ table.rows) :
    (if selects row then set row else row) ∈ (table.update selects set keeps).rows :=
  mem_update.mpr ⟨row,member,rfl⟩

theorem mem_update_of_not {row : Row} (member : row ∈ table.rows) (skipped : selects row = false) :
    row ∈ (table.update selects set keeps).rows :=
  mem_update.mpr ⟨row,member,by simp [skipped]⟩

theorem update_eq_self (nothing : ∀ row ∈ table.rows, selects row = false) :
    table.update selects set keeps = table := by
  apply ext
  conv_rhs => rw [← List.map_id table.rows]
  exact List.map_congr_left (fun row member => by simp [nothing row member])

end Update

@[simp] theorem mem_insert {table : Table key} {row other : Row}
    {fresh : key row ∉ table.keys} :
    other ∈ (table.insert row fresh).rows ↔ other ∈ table.rows ∨ other = row := by
  simp [insert]

@[simp] theorem mem_delete {table : Table key} {selects : Row → Bool} {row : Row} :
    row ∈ (table.delete selects).rows ↔ row ∈ table.rows ∧ selects row = false := by
  simp [delete]

end Table
end FoodDispatch.Library
