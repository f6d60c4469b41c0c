import Passwd.RowTable

namespace Passwd

/-!
# Changes of a table

One step on a table deletes selected rows, rewrites selected rows without
changing their owner, or writes one row.  Two things follow from knowing only
which rows may be selected and which row may be written: where the rows
afterwards come from, and that the rows of everybody else are untouched.
-/

variable {Row Key Owner : Type} {key : Row → Key} [DecidableEq Key]

namespace Table

/--
A step on a table.  Rows that are deleted, rewritten or replaced satisfy `mine`,
and a row that is written satisfies `added`.
-/
inductive Change
    (owner : Row → Owner)
    (mine added : Row → Prop)
    (table : Table key) :
    Table key → Prop
  | same : Change owner mine added table table
  | delete
      {selected : Row → Bool}
      (isMine : ∀ row ∈ table.rows, selected row = true → mine row) :
      Change owner mine added table (table.delete selected)
  | update
      {selected : Row → Bool}
      {change : Row → Row}
      (keepsKey : ∀ row, key (change row) = key row)
      (keepsOwner : ∀ row, owner (change row) = owner row)
      (isMine : ∀ row ∈ table.rows, selected row = true → mine row) :
      Change owner mine added table (table.update selected change keepsKey)
  | write
      {row : Row}
      (isAdded : added row)
      (isMine : ∀ old ∈ table.rows, key old = key row → mine old) :
      Change owner mine added table (table.upsert row)

section Change

variable {owner : Row → Owner} {mine added : Row → Prop}
  {table after : Table key}

/-- A row has the owner of an earlier row, or it was written. -/
theorem Change.origin
    (change : Change owner mine added table after)
    {row : Row}
    (member : row ∈ after.rows) :
    (∃ old ∈ table.rows, owner old = owner row) ∨ added row := by
  cases change with
  | same =>
      exact Or.inl ⟨row, member, rfl⟩
  | delete isMine =>
      exact Or.inl ⟨row, (mem_delete member).1, rfl⟩
  | update keepsKey keepsOwner isMine =>
      obtain ⟨old, isOld, rfl | rfl⟩ := mem_update member
      · exact Or.inl ⟨row, isOld, rfl⟩
      · exact Or.inl ⟨old, isOld, (keepsOwner old).symm⟩
  | write isAdded isMine =>
      rcases mem_upsert member with rfl | isOld
      · exact Or.inr isAdded
      · exact Or.inl ⟨row, isOld, rfl⟩

/-- A filter that drops the written and the replaced rows sees no write. -/
theorem filter_upsertRows
    {visible : Row → Bool}
    {row : Row}
    {rows : List Row}
    (hidden : visible row = false)
    (replacedHidden : ∀ old ∈ rows, key old = key row → visible old = false) :
    (upsertRows key row rows).filter visible = rows.filter visible := by
  induction rows with
  | nil =>
      simp [upsertRows, hidden]
  | cons first rest inductionHypothesis =>
      have later := inductionHypothesis
        fun old member => replacedHidden old (List.mem_cons_of_mem _ member)
      by_cases same : key first = key row
      · have firstHidden := replacedHidden first List.mem_cons_self same
        simp [upsertRows, same, hidden, firstHidden]
      · simp only [upsertRows, if_neg same, List.filter_cons, later]

/-- A filter that drops the rewritten rows sees no update. -/
theorem filter_updated
    {visible selected : Row → Bool}
    {change : Row → Row}
    {rows : List Row}
    (hidden : ∀ row ∈ rows, selected row = true → visible row = false)
    (staysHidden :
      ∀ row ∈ rows, selected row = true → visible (change row) = false) :
    (rows.map fun row => if selected row then change row else row).filter
        visible =
      rows.filter visible := by
  induction rows with
  | nil =>
      rfl
  | cons first rest inductionHypothesis =>
      have later := inductionHypothesis
        (fun row member => hidden row (List.mem_cons_of_mem _ member))
        (fun row member => staysHidden row (List.mem_cons_of_mem _ member))
      by_cases isSelected : selected first = true
      · have firstHidden := hidden first List.mem_cons_self isSelected
        have changedHidden := staysHidden first List.mem_cons_self isSelected
        simp [isSelected, firstHidden, changedHidden, later]
      · simp only [List.map_cons, if_neg isSelected, List.filter_cons, later]

/-- The rows of owners who are not concerned stay as they are. -/
theorem Change.frame
    (change : Change owner mine added table after)
    (visible : Owner → Bool)
    (mineHidden : ∀ row ∈ table.rows, mine row → visible (owner row) = false)
    (addedHidden : ∀ row, added row → visible (owner row) = false) :
    (after.rows.filter fun row => visible (owner row)) =
      table.rows.filter fun row => visible (owner row) := by
  cases change with
  | same =>
      rfl
  | @delete selected isMine =>
      simp only [Table.delete, List.filter_filter]
      apply List.filter_congr
      intro row member
      cases isSelected : selected row with
      | false =>
          simp
      | true =>
          simp [mineHidden row member (isMine row member isSelected)]
  | update keepsKey keepsOwner isMine =>
      refine filter_updated ?_ ?_
      · intro row member isSelected
        exact mineHidden row member (isMine row member isSelected)
      · intro row member isSelected
        rw [keepsOwner]
        exact mineHidden row member (isMine row member isSelected)
  | write isAdded isMine =>
      refine filter_upsertRows (addedHidden _ isAdded) ?_
      intro old member same
      exact mineHidden old member (isMine old member same)

end Change

end Table

end Passwd
