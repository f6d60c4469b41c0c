import Mathlib.Data.List.Nodup
import Mathlib.Tactic.Common

namespace Passwd

/-!
# Tables of rows with a unique key

A table keeps its rows in the order of insertion and carries the proof that no
key occurs twice, so a row is found by its key exactly when it is in the table.
-/

variable {Row Key : Type}

/-- Rows of which no two have the same key. -/
structure Table (key : Row → Key) where
  rows : List Row
  distinct : (rows.map key).Nodup

namespace Table

variable {key : Row → Key}

/-- The table without rows. -/
def empty : Table key where
  rows := []
  distinct := List.nodup_nil

/-- Remove the rows that are selected. -/
def delete (table : Table key) (selected : Row → Bool) : Table key where
  rows := table.rows.filter fun row => !selected row
  distinct := table.distinct.sublist (List.filter_sublist.map key)

/-- Rewrite the selected rows without touching their keys. -/
def update
    (table : Table key)
    (selected : Row → Bool)
    (change : Row → Row)
    (keepsKey : ∀ row, key (change row) = key row) :
    Table key where
  rows := table.rows.map fun row => if selected row then change row else row
  distinct := by
    have sameKeys :
        (table.rows.map fun row =>
            if selected row then change row else row).map key =
          table.rows.map key := by
      rw [List.map_map]
      apply List.map_congr_left
      intro row _
      by_cases isSelected : selected row = true
      · simp [isSelected, keepsKey]
      · simp [isSelected]
    rw [sameKeys]
    exact table.distinct

variable [DecidableEq Key]

/-- The row with a key. -/
def find? (table : Table key) (wanted : Key) : Option Row :=
  table.rows.find? fun row => key row = wanted

/-- Replace the row with the key of `row`, or append `row`. -/
def upsertRows (key : Row → Key) (row : Row) : List Row → List Row
  | [] => [row]
  | first :: rest =>
      if key first = key row then
        row :: rest
      else
        first :: upsertRows key row rest

/-- Only the key of the written row can be new. -/
private theorem mem_keys_upsertRows
    {row : Row}
    {rows : List Row}
    {wanted : Key}
    (member : wanted ∈ (upsertRows key row rows).map key) :
    wanted = key row ∨ wanted ∈ rows.map key := by
  induction rows with
  | nil =>
      simpa [upsertRows] using member
  | cons first rest inductionHypothesis =>
      unfold upsertRows at member
      split at member
      · rcases List.mem_cons.mp member with isWritten | inRest
        · exact Or.inl isWritten
        · exact Or.inr (List.mem_cons_of_mem _ inRest)
      · rcases List.mem_cons.mp member with isFirst | inRest
        · exact Or.inr (List.mem_cons.mpr (Or.inl isFirst))
        · rcases inductionHypothesis inRest with isWritten | later
          · exact Or.inl isWritten
          · exact Or.inr (List.mem_cons_of_mem _ later)

/-- Writing a row keeps the keys distinct. -/
private theorem nodup_upsertRows
    {rows : List Row}
    (distinct : (rows.map key).Nodup)
    (row : Row) :
    ((upsertRows key row rows).map key).Nodup := by
  induction rows with
  | nil =>
      simp [upsertRows]
  | cons first rest inductionHypothesis =>
      simp only [List.map_cons, List.nodup_cons] at distinct
      unfold upsertRows
      split
      · rename_i same
        simpa [← same] using distinct
      · rename_i different
        simp only [List.map_cons, List.nodup_cons]
        refine ⟨?_, inductionHypothesis distinct.2⟩
        intro repeated
        rcases mem_keys_upsertRows repeated with isWritten | inRest
        · exact different isWritten
        · exact distinct.1 inRest

/-- Write a row under its key. -/
def upsert (table : Table key) (row : Row) : Table key where
  rows := upsertRows key row table.rows
  distinct := nodup_upsertRows table.distinct row

/-!
## Finding rows after a change
-/

section Find

variable {table : Table key} {row : Row} {wanted : Key}

@[simp] theorem find?_empty (wanted : Key) :
    (empty : Table key).find? wanted = none :=
  rfl

/-- A row that is found has the key. -/
theorem key_of_find?
    (found : table.find? wanted = some row) :
    key row = wanted := by
  simpa using List.find?_some found

/-- A row that is found is in the table. -/
theorem mem_of_find?
    (found : table.find? wanted = some row) :
    row ∈ table.rows :=
  List.mem_of_find?_eq_some found

/-- A row of the table is found by its key. -/
theorem find?_of_mem
    (member : row ∈ table.rows) :
    table.find? (key row) = some row := by
  rcases table with ⟨rows, distinct⟩
  simp only [find?] at member ⊢
  induction rows with
  | nil =>
      cases member
  | cons first rest inductionHypothesis =>
      simp only [List.map_cons, List.nodup_cons] at distinct
      rcases List.mem_cons.mp member with isFirst | inRest
      · subst row
        simp
      · have different : key first ≠ key row := by
          intro same
          exact distinct.1 (same ▸ List.mem_map_of_mem inRest)
        simp only [List.find?_cons, different, decide_false]
        exact inductionHypothesis distinct.2 inRest

/-- Two rows of a table with the same key are the same row. -/
theorem eq_of_key_eq
    {other : Row}
    (member : row ∈ table.rows)
    (otherMember : other ∈ table.rows)
    (same : key row = key other) :
    row = other := by
  have found := find?_of_mem member
  rw [same, find?_of_mem otherMember] at found
  exact (Option.some.inj found).symm

/-- Being found by a key is being a row with that key. -/
theorem find?_eq_some_iff :
    table.find? wanted = some row ↔ row ∈ table.rows ∧ key row = wanted := by
  constructor
  · intro found
    exact ⟨mem_of_find? found, key_of_find? found⟩
  · rintro ⟨member, rfl⟩
    exact find?_of_mem member

/-- A deletion hides the selected rows and no other. -/
theorem find?_delete
    (table : Table key)
    (selected : Row → Bool)
    (wanted : Key) :
    (table.delete selected).find? wanted =
      (table.find? wanted).filter fun row => !selected row := by
  apply Option.ext
  intro row
  rw [find?_eq_some_iff, Option.filter_eq_some_iff, find?_eq_some_iff]
  simp only [delete, List.mem_filter]
  tauto

/-- An update rewrites what is found when it is selected. -/
theorem find?_update
    (table : Table key)
    (selected : Row → Bool)
    (change : Row → Row)
    (keepsKey : ∀ row, key (change row) = key row)
    (wanted : Key) :
    (table.update selected change keepsKey).find? wanted =
      (table.find? wanted).map fun row =>
        if selected row then change row else row := by
  have sameKey :
      ∀ row, key (if selected row then change row else row) = key row := by
    intro row
    by_cases isSelected : selected row = true
    · simp [isSelected, keepsKey]
    · simp [isSelected]
  simp only [find?, update, List.find?_map, Function.comp_def, sameKey]

/-- A written row is what is found under its key, and no other key changes. -/
theorem find?_upsert
    (table : Table key)
    (row : Row)
    (wanted : Key) :
    (table.upsert row).find? wanted =
      if key row = wanted then some row else table.find? wanted := by
  simp only [find?, upsert]
  induction table.rows with
  | nil =>
      by_cases isWanted : key row = wanted
      · simp [upsertRows, isWanted]
      · simp [upsertRows, isWanted]
  | cons first rest inductionHypothesis =>
      by_cases same : key first = key row
      · by_cases isWanted : key row = wanted
        · simp [upsertRows, same, isWanted]
        · simp [upsertRows, same, isWanted]
      · simp only [upsertRows, same, ↓reduceIte, List.find?_cons,
          inductionHypothesis]
        by_cases isWanted : key first = wanted
        · have other : key row ≠ wanted := by
            intro isRow
            exact same (isWanted.trans isRow.symm)
          simp [isWanted, other]
        · simp [isWanted]

/-- Writing a row under a new key appends it. -/
theorem rows_upsert_of_new
    (isNew : table.find? (key row) = none) :
    (table.upsert row).rows = table.rows ++ [row] := by
  rcases table with ⟨rows, distinct⟩
  simp only [upsert, find?] at isNew ⊢
  clear distinct
  induction rows with
  | nil =>
      rfl
  | cons first rest inductionHypothesis =>
      by_cases same : key first = key row
      · simp [same] at isNew
      · simp only [List.find?_cons, same, decide_false] at isNew
        simp only [upsertRows, same, ↓reduceIte, List.cons_append,
          inductionHypothesis isNew]

/-- The rows after writing one are that row and rows that were there. -/
theorem mem_upsert
    {other : Row}
    (member : other ∈ (table.upsert row).rows) :
    other = row ∨ other ∈ table.rows := by
  have found := find?_of_mem member
  rw [find?_upsert] at found
  split at found
  · cases found
    exact Or.inl rfl
  · exact Or.inr (mem_of_find? found)

/-- A row after a deletion was there before. -/
theorem mem_delete
    {selected : Row → Bool}
    (member : row ∈ (table.delete selected).rows) :
    row ∈ table.rows ∧ selected row = false := by
  obtain ⟨isRow, kept⟩ := List.mem_filter.mp member
  exact ⟨isRow, Bool.not_eq_true' _ |>.mp kept⟩

/-- A row after an update comes from a row that was there before. -/
theorem mem_update
    {selected : Row → Bool}
    {change : Row → Row}
    {keepsKey : ∀ row, key (change row) = key row}
    (member : row ∈ (table.update selected change keepsKey).rows) :
    ∃ old ∈ table.rows, row = old ∨ row = change old := by
  obtain ⟨old, isOld, isRow⟩ := List.mem_map.mp member
  refine ⟨old, isOld, ?_⟩
  rw [← isRow]
  split
  · exact Or.inr rfl
  · exact Or.inl rfl

/-- Whether a key leads to an accepted row depends on the accepted rows. -/
theorem any_find?
    (table : Table key)
    (accepted : Row → Bool)
    (wanted : Key) :
    (table.find? wanted).any accepted =
      (table.rows.filter accepted).any fun row => key row = wanted := by
  rw [Bool.eq_iff_iff, Option.any_eq_true, List.any_eq_true]
  constructor
  · intro ⟨row, found, isAccepted⟩
    exact ⟨row, List.mem_filter.mpr ⟨mem_of_find? found, isAccepted⟩,
      decide_eq_true (key_of_find? found)⟩
  · intro ⟨row, member, isWanted⟩
    obtain ⟨isRow, isAccepted⟩ := List.mem_filter.mp member
    exact ⟨row, find?_eq_some_iff.mpr ⟨isRow, of_decide_eq_true isWanted⟩,
      isAccepted⟩

end Find

end Table

end Passwd
