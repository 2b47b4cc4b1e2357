import Mathlib.Data.List.Nodup
import Mathlib.Tactic.Common

/-!
# Insertion-ordered tables

A list of rows with pairwise distinct keys. `put` replaces the row of a key in
place or appends a new row, which is how a hash map that remembers insertion
order behaves. The key is a projection of the row, so a row can never be filed
under a key that it does not carry.
-/

namespace KeyedTable

set_option autoImplicit false

structure Table {Key Row : Type*} (key : Row → Key) where
  rows : List Row
  distinct : (rows.map key).Nodup

namespace Table

variable {Key Row : Type*} {key : Row → Key}

def empty : Table key := ⟨[], List.nodup_nil⟩

instance : Inhabited (Table key) := ⟨empty⟩

variable [DecidableEq Key]

def find? (table : Table key) (target : Key) : Option Row :=
  table.rows.find? fun row => key row = target

/-- Replace the row filed under `key row`, or append it. -/
def putRows (key : Row → Key) (row : Row) : List Row → List Row
  | [] => [row]
  | head :: rest => if key head = key row then row :: rest else head :: putRows key row rest

theorem put_rows_keys (row : Row) (rows : List Row) :
    (putRows key row rows).map key =
      if key row ∈ rows.map key then rows.map key else rows.map key ++ [key row] := by
  induction rows with
  | nil => simp [putRows]
  | cons head rest ih =>
      by_cases same : key head = key row
      · simp [putRows, same]
      · have other : key row ≠ key head := fun equal => same equal.symm
        by_cases member : key row ∈ rest.map key
        · simp_all [putRows]
        · simp_all [putRows]

def put (table : Table key) (row : Row) : Table key where
  rows := putRows key row table.rows
  distinct := by
    rw [put_rows_keys]
    split
    · exact table.distinct
    · rename_i absent
      exact List.nodup_append.mpr ⟨table.distinct, by simp, by
        intro left leftMember right rightMember
        simp only [List.mem_singleton] at rightMember
        subst rightMember
        exact fun equal => absent (equal ▸ leftMember)⟩

def erase (table : Table key) (target : Key) : Table key where
  rows := table.rows.filter fun row => key row ≠ target
  distinct := table.distinct.sublist (List.filter_sublist.map key)

theorem find_put_rows (row : Row) (rows : List Row) (target : Key) :
    (putRows key row rows).find? (fun entry => key entry = target) =
      if key row = target then some row else rows.find? (fun entry => key entry = target) := by
  induction rows with
  | nil => by_cases hit : key row = target <;> simp [putRows, hit]
  | cons head rest ih =>
      by_cases same : key head = key row
      · by_cases hit : key row = target <;> simp [putRows, same, hit]
      · simp only [putRows, if_neg same, List.find?_cons, ih]
        by_cases first : key head = target
        · have miss : key row ≠ target := fun equal => same (first.trans equal.symm)
          simp [first, miss]
        · simp [first]

@[simp] theorem find_put (table : Table key) (row : Row) (target : Key) :
    (table.put row).find? target = if key row = target then some row else table.find? target :=
  find_put_rows row table.rows target

@[simp] theorem find_empty (target : Key) : (empty : Table key).find? target = none := rfl

theorem find_erase (table : Table key) (target other : Key) :
    (table.erase target).find? other = if other = target then none else table.find? other := by
  simp only [find?, erase, List.find?_filter]
  by_cases same : other = target
  · subst same
    simp
  · rw [if_neg same]
    congr 1
    funext row
    by_cases hit : key row = other
    · simp [hit, same]
    · simp [hit]

theorem find_key {table : Table key} {target : Key} {row : Row}
    (found : table.find? target = some row) : key row = target := by
  simpa using List.find?_some found

theorem find_mem {table : Table key} {target : Key} {row : Row}
    (found : table.find? target = some row) : row ∈ table.rows :=
  List.mem_of_find?_eq_some found

theorem find_of_mem_rows {rows : List Row} (distinct : (rows.map key).Nodup) {row : Row}
    (member : row ∈ rows) : rows.find? (fun entry => key entry = key row) = some row := by
  induction rows with
  | nil => simp at member
  | cons head rest ih =>
      simp only [List.map_cons, List.nodup_cons] at distinct
      rcases List.mem_cons.mp member with rfl | later
      · simp
      · have other : key head ≠ key row := fun equal =>
          distinct.1 (equal ▸ List.mem_map_of_mem later)
        simp [other, ih distinct.2 later]

theorem find_of_mem {table : Table key} {row : Row} (member : row ∈ table.rows) :
    table.find? (key row) = some row :=
  find_of_mem_rows table.distinct member

theorem find_none_iff {table : Table key} {target : Key} :
    table.find? target = none ↔ ∀ row ∈ table.rows, key row ≠ target := by
  simp [find?]

theorem length_put_known {table : Table key} {row : Row} (known : key row ∈ table.rows.map key) :
    (table.put row).rows.length = table.rows.length := by
  have keys : (table.put row).rows.map key = table.rows.map key := by
    rw [put, put_rows_keys, if_pos known]
  simpa only [List.length_map] using congrArg List.length keys

theorem mem_put_rows {row entry : Row} {rows : List Row} (member : entry ∈ putRows key row rows) :
    entry = row ∨ entry ∈ rows := by
  induction rows with
  | nil =>
      rw [putRows, List.mem_singleton] at member
      exact .inl member
  | cons head rest ih =>
      rw [putRows] at member
      split at member
      · rcases List.mem_cons.mp member with same | later
        · exact .inl same
        · exact .inr (List.mem_cons_of_mem head later)
      · rcases List.mem_cons.mp member with same | later
        · exact .inr (same ▸ List.mem_cons_self ..)
        · rcases ih later with same | old
          · exact .inl same
          · exact .inr (List.mem_cons_of_mem head old)

theorem put_rows_absent {row : Row} {rows : List Row}
    (absent : ∀ entry ∈ rows, key entry ≠ key row) : putRows key row rows = rows ++ [row] := by
  induction rows with
  | nil => rfl
  | cons head rest ih =>
      have first := absent head (by simp)
      simp [putRows, first, ih fun entry member => absent entry (by simp [member])]

theorem rows_put_absent {table : Table key} {row : Row} (absent : table.find? (key row) = none) :
    (table.put row).rows = table.rows ++ [row] :=
  put_rows_absent (find_none_iff.mp absent)

/-- Putting a row of a known key rewrites the rows of that key. -/
theorem put_rows_known {row : Row} {rows : List Row} (distinct : (rows.map key).Nodup)
    (known : key row ∈ rows.map key) :
    putRows key row rows = rows.map fun entry => if key entry = key row then row else entry := by
  induction rows with
  | nil => cases known
  | cons head rest ih =>
      rw [List.map_cons, List.nodup_cons] at distinct
      by_cases same : key head = key row
      · have others : ∀ entry ∈ rest, (if key entry = key row then row else entry) = entry := by
          intro entry member
          have apart : key entry ≠ key row := by
            intro equal
            exact distinct.1 (List.mem_map.mpr ⟨entry, member, equal.trans same.symm⟩)
          exact if_neg apart
        rw [putRows, if_pos same, List.map_cons, if_pos same]
        exact congrArg (row :: ·) ((List.map_congr_left others).trans (List.map_id _)).symm
      · have later : key row ∈ rest.map key := by
          rcases List.mem_cons.mp known with equal | later
          · exact absurd equal.symm same
          · exact later
        rw [putRows, if_neg same, List.map_cons, if_neg same, ih distinct.2 later]

theorem put_rows_at {before after : List Row} {old row : Row} (same : key old = key row)
    (absent : ∀ entry ∈ before, key entry ≠ key row) :
    putRows key row (before ++ old :: after) = before ++ row :: after := by
  induction before with
  | nil => simp [putRows, same]
  | cons head rest ih =>
      have first := absent head (by simp)
      simp [putRows, first, ih fun entry member => absent entry (by simp [member])]

theorem rows_put_at {table : Table key} {before after : List Row} {old row : Row}
    (shape : table.rows = before ++ old :: after) (same : key old = key row) :
    (table.put row).rows = before ++ row :: after := by
  have apart : ∀ entry ∈ before, key entry ≠ key row := by
    have distinct := table.distinct
    rw [shape, List.map_append, List.map_cons] at distinct
    intro entry member equal
    exact (List.nodup_append.mp distinct).2.2 _ (List.mem_map_of_mem member) _
      (List.mem_cons_self ..) (equal.trans same.symm)
  change putRows key row table.rows = _
  rw [shape, put_rows_at same apart]

def mapRows (table : Table key) (change : Row → Row) (keeps : ∀ row, key (change row) = key row) :
    Table key where
  rows := table.rows.map change
  distinct := by
    have same : key ∘ change = key := funext keeps
    rw [List.map_map, same]
    exact table.distinct

theorem find_map_rows (table : Table key) (change : Row → Row)
    (keeps : ∀ row, key (change row) = key row) (target : Key) :
    (table.mapRows change keeps).find? target = (table.find? target).map change := by
  simp only [find?, mapRows, List.find?_map, Function.comp_def, keeps]

/-- A filter on keys that drops the row's key does not see the row. -/
theorem filter_put_rows_other (keep : Key → Bool) {row : Row} (dropped : keep (key row) = false)
    (rows : List Row) :
    ((putRows key row rows).filter fun entry => keep (key entry)) =
      rows.filter fun entry => keep (key entry) := by
  induction rows with
  | nil => simp [putRows, dropped]
  | cons head rest ih =>
      rw [putRows]
      split
      · rename_i same
        have headDropped : keep (key head) = false := by
          rw [same]
          exact dropped
        simp [dropped, headDropped]
      · simp [List.filter_cons, ih]

end Table

end KeyedTable
