import Passwd.RowTable

namespace Passwd

/-!
# Images of tables

The image of a table rewrites every row without touching its key.  Two stores
that keep the same rows in different forms are compared through images: reading
and writing commute with them.
-/

variable {Row Key : Type} {key : Row → Key}

namespace Table

/-- Tables with the same rows are the same table. -/
theorem eq_of_rows {first second : Table key} (same : first.rows = second.rows) :
    first = second := by
  cases first
  cases second
  cases same
  rfl

/-- The table in which every row is rewritten. -/
def image
    (table : Table key)
    (form : Row → Row)
    (keepsKey : ∀ row, key (form row) = key row) :
    Table key where
  rows := table.rows.map form
  distinct := by
    have sameKeys : (table.rows.map form).map key = table.rows.map key := by
      rw [List.map_map]
      exact List.map_congr_left fun row _ => keepsKey row
    rw [sameKeys]
    exact table.distinct

section Image

variable {table : Table key} {form : Row → Row}
  {keepsKey : ∀ row, key (form row) = key row}

/-- The rows of an image. -/
@[simp] theorem rows_image :
    (table.image form keepsKey).rows = table.rows.map form :=
  rfl

/-- The image of the table without rows. -/
@[simp] theorem image_empty :
    (empty : Table key).image form keepsKey = empty :=
  rfl

/-- Whether some row is selected, asked of an image. -/
theorem any_image
    (keepsKey : ∀ row, key (form row) = key row)
    (selected : Row → Bool)
    (other : Row → Bool)
    (same : ∀ row ∈ table.rows, other (form row) = selected row) :
    (table.image form keepsKey).rows.any other = table.rows.any selected := by
  rw [rows_image, List.any_map, Bool.eq_iff_iff, List.any_eq_true,
    List.any_eq_true]
  exact exists_congr fun row =>
    and_congr_right fun member => by rw [Function.comp_apply, same row member]

/-- The selected rows of an image. -/
theorem filter_image
    (keepsKey : ∀ row, key (form row) = key row)
    (selected : Row → Bool)
    (other : Row → Bool)
    (same : ∀ row ∈ table.rows, other (form row) = selected row) :
    (table.image form keepsKey).rows.filter other =
      (table.rows.filter selected).map form := by
  rw [rows_image, List.filter_map]
  congr 1
  exact List.filter_congr same

/-- Deleting commutes with taking the image. -/
theorem image_delete
    (selected : Row → Bool)
    (other : Row → Bool)
    (same : ∀ row ∈ table.rows, other (form row) = selected row) :
    (table.image form keepsKey).delete other =
      (table.delete selected).image form keepsKey := by
  apply eq_of_rows
  simp only [delete, rows_image]
  rw [List.filter_map]
  congr 1
  apply List.filter_congr
  intro row member
  simp only [Function.comp_apply, same row member]

/-- Rewriting selected rows commutes with taking the image. -/
theorem image_update
    (selected : Row → Bool)
    (change : Row → Row)
    (changeKeeps : ∀ row, key (change row) = key row)
    (other : Row → Bool)
    (otherChange : Row → Row)
    (otherKeeps : ∀ row, key (otherChange row) = key row)
    (same : ∀ row ∈ table.rows, other (form row) = selected row)
    (changed :
      ∀ row ∈ table.rows, selected row = true →
        otherChange (form row) = form (change row)) :
    (table.image form keepsKey).update other otherChange otherKeeps =
      (table.update selected change changeKeeps).image form keepsKey := by
  apply eq_of_rows
  simp only [update, rows_image, List.map_map]
  apply List.map_congr_left
  intro row member
  simp only [Function.comp_apply, same row member]
  by_cases isSelected : selected row = true
  · simp only [isSelected, ↓reduceIte, changed row member isSelected]
  · simp only [isSelected, Bool.false_eq_true, ↓reduceIte]

variable [DecidableEq Key]

/-- The row with a key, looked up in an image. -/
@[simp] theorem find?_image
    (keepsKey : ∀ row, key (form row) = key row)
    (wanted : Key) :
    (table.image form keepsKey).find? wanted =
      (table.find? wanted).map form := by
  simp only [find?, rows_image, List.find?_map, Function.comp_def, keepsKey]

/-- Writing commutes with taking the image. -/
theorem image_upsert (row : Row) :
    (table.image form keepsKey).upsert (form row) =
      (table.upsert row).image form keepsKey := by
  apply eq_of_rows
  simp only [upsert, rows_image]
  induction table.rows with
  | nil =>
      rfl
  | cons first rest inductionHypothesis =>
      simp only [List.map_cons, upsertRows, keepsKey, inductionHypothesis]
      by_cases same : key first = key row
      · simp only [same, ↓reduceIte, List.map_cons]
      · simp only [same, ↓reduceIte, List.map_cons]

end Image

end Table

end Passwd
