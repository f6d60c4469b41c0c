import Passwd.ExportRoundTrip

namespace Passwd.VaultExport

/-!
# Tables as CSV text

Two ways to write a table as CSV, and what `csvRows` reads from it: the rows
that are not blank, with the line ends inside of their cells unified.
-/

/-!
## Writing
-/

/-- `/[",\r\n]/` -/
def needsQuotes (symbol : Char) : Bool :=
  symbol = '"' || symbol = ',' || symbol = '\r' || symbol = '\n'

/-- A character inside of quotation marks. -/
def doubled (symbol : Char) : List Char :=
  if symbol = '"' then ['"', '"'] else [symbol]

/-- A cell in quotation marks. -/
def quotedCell (v : String) : String :=
  "\"" ++ String.ofList (v.toList.flatMap doubled) ++ "\""

/-- `csvEscape` -/
def csvEscape (v : String) : String :=
  if v.toList.any needsQuotes then quotedCell v else v

/-- A way to write cells: in quotation marks, or as they are if they can be. -/
structure CellWriter where
  write : String → String
  spells :
    ∀ v, write v = quotedCell v ∨
      write v = v ∧ v.toList.any needsQuotes = false

/-- Cells that are quoted when they have to be. -/
def CellWriter.escaped : CellWriter where
  write := csvEscape
  spells := by
    intro v
    by_cases needed : v.toList.any needsQuotes = true
    · exact .inl (if_pos needed)
    · exact .inr ⟨if_neg needed, Bool.not_eq_true _ ▸ needed⟩

/-- Cells that are always quoted. -/
def CellWriter.everyQuoted : CellWriter where
  write := quotedCell
  spells _ := .inl rfl

section Tables

variable (writer : CellWriter)

/-- A row of a table. -/
def csvLine (cells : List String) : String :=
  ",".intercalate (cells.map writer.write)

/-- A table with its rows on lines of their own. -/
def csvText (lineEnd : String) (rows : List (List String)) : String :=
  lineEnd.intercalate (rows.map (csvLine writer))

end Tables

/-- A text spells a cell: in quotation marks, or as it is if it can be. -/
def SpellsCell (v text : String) : Prop :=
  text = quotedCell v ∨ text = v ∧ v.toList.any needsQuotes = false

/-- A text spells a row that is not empty, with commas between the cells. -/
inductive SpellsRow : List String → String → Prop
  | last
      {v text : String}
      (cell : SpellsCell v text) :
      SpellsRow [v] text
  | cons
      {v text rest : String}
      {cells : List String}
      (cell : SpellsCell v text)
      (later : SpellsRow cells rest) :
      SpellsRow (v :: cells) (text ++ "," ++ rest)

/--
A text spells a table: every row ends in a line feed, with or without a carriage
return before it, and the last one can do without.
-/
inductive SpellsTable : List (List String) → String → Prop
  | nil : SpellsTable [] ""
  | unterminated
      {cells : List String}
      {line : String}
      (row : SpellsRow cells line) :
      SpellsTable [cells] line
  | cons
      {cells : List String}
      {line lineEnd rest : String}
      {rows : List (List String)}
      (row : SpellsRow cells line)
      (isLineEnd : lineEnd = "\n" ∨ lineEnd = "\r\n")
      (later : SpellsTable rows rest) :
      SpellsTable (cells :: rows) (line ++ lineEnd ++ rest)

/-!
## Line ends
-/

/-- A text with its line ends unified. -/
def unified (v : String) : String :=
  String.ofList (unifyLineEnds v.toList)

@[simp] theorem unifyLineEnds_nil : unifyLineEnds [] = [] :=
  rfl

/-- A carriage return with its line feed is one line end. -/
theorem unifyLineEnds_pair (rest : List Char) :
    unifyLineEnds ('\r' :: '\n' :: rest) = '\n' :: unifyLineEnds rest :=
  rfl

/-- A carriage return alone is a line end. -/
theorem unifyLineEnds_return
    {rest : List Char}
    (alone : rest.head? ≠ some '\n') :
    unifyLineEnds ('\r' :: rest) = '\n' :: unifyLineEnds rest := by
  cases rest with
  | nil =>
      rfl
  | cons symbol tail =>
      have notFeed : symbol ≠ '\n' := by
        rintro rfl
        exact alone rfl
      rw [unifyLineEnds.eq_def]
      simp [notFeed]

/-- Other characters are left alone. -/
theorem unifyLineEnds_cons
    {symbol : Char}
    (other : symbol ≠ '\r')
    (rest : List Char) :
    unifyLineEnds (symbol :: rest) = symbol :: unifyLineEnds rest := by
  rw [unifyLineEnds.eq_def]
  simp [other]

/-- Text without carriage returns is left alone. -/
theorem unifyLineEnds_append
    {text : List Char}
    (none : '\r' ∉ text)
    (rest : List Char) :
    unifyLineEnds (text ++ rest) = text ++ unifyLineEnds rest := by
  induction text with
  | nil =>
      rfl
  | cons symbol tail inductionHypothesis =>
      rw [List.mem_cons, not_or] at none
      rw [List.cons_append, unifyLineEnds_cons (Ne.symm none.1),
        inductionHypothesis none.2, List.cons_append]

/-- Unified text has no carriage returns. -/
theorem not_mem_unifyLineEnds (text : List Char) :
    '\r' ∉ unifyLineEnds text := by
  induction text using unifyLineEnds.induct with
  | case1 =>
      exact List.not_mem_nil
  | case2 rest inductionHypothesis =>
      rw [unifyLineEnds_pair]
      simpa using inductionHypothesis
  | case3 rest notPair inductionHypothesis =>
      have alone : rest.head? ≠ some '\n' := by
        intro isFeed
        obtain ⟨tail, isCons⟩ := List.head?_eq_some_iff.mp isFeed
        exact notPair tail isCons
      rw [unifyLineEnds_return alone]
      simpa using inductionHypothesis
  | case4 symbol rest notPair notReturn inductionHypothesis =>
      rw [unifyLineEnds_cons (fun isReturn => notReturn isReturn)]
      grind

/-- Unifying the line ends of a text changes nothing without a return. -/
theorem unified_eq_iff {v : String} :
    unified v = v ↔ '\r' ∉ v.toList := by
  constructor
  · intro same
    rw [← same, unified, String.toList_ofList]
    exact not_mem_unifyLineEnds _
  · intro none
    have kept := unifyLineEnds_append none []
    rw [List.append_nil, unifyLineEnds_nil, List.append_nil] at kept
    rw [unified, kept, String.ofList_toList]

/-!
## Reading
-/

section Scan

variable (state : CsvRows)

@[simp] theorem scanCsv_nil (quoted : Bool) : scanCsv quoted state [] = state :=
  rfl

/-- A doubled mark inside of marks is one. -/
theorem scanCsv_pair (rest : List Char) :
    scanCsv true state ('"' :: '"' :: rest) =
      scanCsv true { state with cell := state.cell ++ ['"'] } rest :=
  rfl

/-- A single mark inside of marks ends them. -/
theorem scanCsv_close
    {rest : List Char}
    (single : rest.head? ≠ some '"') :
    scanCsv true state ('"' :: rest) = scanCsv false state rest := by
  rw [scanCsv.eq_def]
  simp only [↓reduceIte]
  split
  · exact absurd rfl single
  · rfl

/-- Another character inside of marks belongs to the cell. -/
theorem scanCsv_inside
    {symbol : Char}
    (notMark : symbol ≠ '"')
    (rest : List Char) :
    scanCsv true state (symbol :: rest) =
      scanCsv true { state with cell := state.cell ++ [symbol] } rest := by
  rw [scanCsv.eq_def]
  simp only [↓reduceIte, if_neg notMark]

/-- Outside of marks, a mark, a comma and a line end have a meaning. -/
theorem scanCsv_outside (symbol : Char) (rest : List Char) :
    scanCsv false state (symbol :: rest) =
      if symbol = '"' then scanCsv true state rest
      else if symbol = ',' then scanCsv false state.pushCell rest
      else if symbol = '\n' then scanCsv false state.pushCell.pushRow rest
      else scanCsv false { state with cell := state.cell ++ [symbol] } rest := by
  rw [scanCsv.eq_def]
  rfl

/-- A mark outside of marks opens them. -/
theorem scanCsv_open (rest : List Char) :
    scanCsv false state ('"' :: rest) = scanCsv true state rest :=
  scanCsv_outside state '"' rest

/-- A comma outside of marks ends the cell. -/
theorem scanCsv_comma (rest : List Char) :
    scanCsv false state (',' :: rest) =
      scanCsv false state.pushCell rest :=
  scanCsv_outside state ',' rest

/-- A line end outside of marks ends the row. -/
theorem scanCsv_lineEnd (rest : List Char) :
    scanCsv false state ('\n' :: rest) =
      scanCsv false state.pushCell.pushRow rest :=
  scanCsv_outside state '\n' rest

/-- Characters that need no marks are read as they are. -/
theorem scanCsv_plain
    {v : List Char}
    (plain : v.any needsQuotes = false)
    (rest : List Char) :
    scanCsv false state (v ++ rest) =
      scanCsv false { state with cell := state.cell ++ v } rest := by
  induction v generalizing state with
  | nil =>
      rw [List.append_nil, List.nil_append]
  | cons symbol tail inductionHypothesis =>
      rw [List.any_cons, Bool.or_eq_false_iff] at plain
      obtain ⟨isPlain, tailPlain⟩ := plain
      simp only [needsQuotes, Bool.or_eq_false_iff,
        decide_eq_false_iff_not] at isPlain
      obtain ⟨⟨⟨notMark, notComma⟩, _⟩, notLineEnd⟩ := isPlain
      rw [List.cons_append, scanCsv_outside, if_neg notMark, if_neg notComma,
        if_neg notLineEnd, inductionHypothesis _ tailPlain, List.append_assoc]
      rfl

/-- Doubling quotation marks puts no line feed in front. -/
private theorem head?_doubled_ne_feed
    {tail rest : List Char}
    (alone : tail.head? ≠ some '\n') :
    (tail.flatMap doubled ++ '"' :: rest).head? ≠ some '\n' := by
  cases tail with
  | nil =>
      simp
  | cons symbol later =>
      have notFeed : symbol ≠ '\n' := by
        rintro rfl
        exact alone rfl
      by_cases isMark : symbol = '"'
      · simp [doubled, isMark]
      · simp [doubled, isMark, notFeed]

/-- Characters in quotation marks are read as a piece of a cell. -/
theorem scanCsv_doubled
    (v : List Char)
    {rest : List Char}
    (ends : (unifyLineEnds rest).head? ≠ some '"') :
    scanCsv true state
        (unifyLineEnds (v.flatMap doubled ++ '"' :: rest)) =
      scanCsv false { state with cell := state.cell ++ unifyLineEnds v }
        (unifyLineEnds rest) := by
  induction v using unifyLineEnds.induct generalizing state with
  | case1 =>
      rw [List.flatMap_nil, List.nil_append,
        unifyLineEnds_cons (by decide), scanCsv_close state ends]
      simp
  | case2 tail inductionHypothesis =>
      have symbols :
          ('\r' :: '\n' :: tail).flatMap doubled ++ '"' :: rest =
            '\r' :: '\n' :: (tail.flatMap doubled ++ '"' :: rest) := rfl
      rw [symbols, unifyLineEnds_pair, unifyLineEnds_pair,
        scanCsv_inside state (by decide), inductionHypothesis]
      simp
  | case3 tail alone inductionHypothesis =>
      have tailAlone : tail.head? ≠ some '\n' := by
        intro isFeed
        obtain ⟨later, shape⟩ := List.head?_eq_some_iff.mp isFeed
        exact alone later shape
      have symbols :
          ('\r' :: tail).flatMap doubled ++ '"' :: rest =
            '\r' :: (tail.flatMap doubled ++ '"' :: rest) := rfl
      rw [symbols, unifyLineEnds_return tailAlone,
        unifyLineEnds_return (head?_doubled_ne_feed tailAlone),
        scanCsv_inside state (by decide), inductionHypothesis]
      simp
  | case4 symbol tail _ notReturn inductionHypothesis =>
      have other : symbol ≠ '\r' := fun isReturn => notReturn isReturn
      by_cases isMark : symbol = '"'
      · subst isMark
        have symbols :
            ('"' :: tail).flatMap doubled ++ '"' :: rest =
              '"' :: '"' :: (tail.flatMap doubled ++ '"' :: rest) := rfl
        rw [symbols, unifyLineEnds_cons other, unifyLineEnds_cons other,
          unifyLineEnds_cons other, scanCsv_pair, inductionHypothesis]
        simp
      · have symbols :
            (symbol :: tail).flatMap doubled ++ '"' :: rest =
              symbol :: (tail.flatMap doubled ++ '"' :: rest) := by
          simp [doubled, isMark]
        rw [symbols, unifyLineEnds_cons other, unifyLineEnds_cons other,
          scanCsv_inside state isMark, inductionHypothesis]
        simp

/-- A cell is read with its line ends unified. -/
theorem scanCsv_cell
    {v text : String}
    (spells : SpellsCell v text)
    {rest : List Char}
    (ends : (unifyLineEnds rest).head? ≠ some '"') :
    scanCsv false state (unifyLineEnds (text.toList ++ rest)) =
      scanCsv false
        { state with cell := state.cell ++ (unified v).toList }
        (unifyLineEnds rest) := by
  rw [unified, String.toList_ofList]
  rcases spells with isQuoted | ⟨isSame, plain⟩
  · have symbols :
        text.toList ++ rest =
          '"' :: (v.toList.flatMap doubled ++ '"' :: rest) := by
      simp [isQuoted, quotedCell]
    rw [symbols, unifyLineEnds_cons (by decide), scanCsv_open,
      scanCsv_doubled state _ ends]
  · have noReturn : '\r' ∉ v.toList := by
      intro member
      have needed := List.any_eq_false.mp plain _ member
      exact needed (by decide)
    have same : unifyLineEnds v.toList = v.toList := by
      have kept := unifyLineEnds_append noReturn []
      rwa [List.append_nil, show unifyLineEnds [] = [] from rfl,
        List.append_nil] at kept
    rw [isSame, unifyLineEnds_append noReturn, scanCsv_plain state plain, same]

end Scan

/-- What is left of a text behind a row: nothing, or a line end. -/
def EndsRow (rest : List Char) : Prop :=
  rest = [] ∨ ∃ later, rest = '\n' :: later

/-- A row is not followed by a mark. -/
theorem EndsRow.head?_ne
    {rest : List Char}
    (endsRow : EndsRow rest) :
    rest.head? ≠ some '"' := by
  rcases endsRow with isEmpty | ⟨later, isLineEnd⟩
  · simp [isEmpty]
  · simp [isLineEnd]

/-- A row is read with the line ends of its cells unified. -/
theorem scanCsv_line
    (rows : List (List String))
    {cells : List String}
    {line : String}
    (spells : SpellsRow cells line)
    {rest : List Char}
    (endsRow : EndsRow (unifyLineEnds rest))
    (row : List String) :
    ∃ state,
      scanCsv false { rows := rows, row := row, cell := [] }
          (unifyLineEnds (line.toList ++ rest)) =
        scanCsv false state (unifyLineEnds rest) ∧
      state.pushCell =
        { rows := rows, row := row ++ cells.map unified, cell := [] } := by
  induction spells generalizing row with
  | last cell =>
      rw [scanCsv_cell _ cell endsRow.head?_ne]
      refine ⟨_, rfl, ?_⟩
      simp [CsvRows.pushCell]
  | @cons v text later cells cell _ inductionHypothesis =>
      have symbols :
          (text ++ "," ++ later).toList ++ rest =
            text.toList ++ ',' :: (later.toList ++ rest) := by
        simp
      have comma (text : List Char) :
          unifyLineEnds (',' :: text) = ',' :: unifyLineEnds text :=
        unifyLineEnds_cons (by decide) text
      have isComma (text : List Char) :
          (unifyLineEnds (',' :: text)).head? ≠ some '"' := by
        simp [comma]
      obtain ⟨state, reads, pushed⟩ := inductionHypothesis (row ++ [unified v])
      refine ⟨state, ?_, ?_⟩
      · rw [symbols, scanCsv_cell _ cell (isComma _), comma,
          scanCsv_comma, ← reads]
        simp [CsvRows.pushCell]
      · rw [pushed]
        simp

/-- The rows once the last row is finished, if there is one. -/
def CsvRows.finish (state : CsvRows) : List (List String) :=
  if state.cell ≠ [] ∨ state.row ≠ [] then state.pushCell.pushRow.rows
  else state.rows

/-- A last row that holds nothing is blank. -/
theorem CsvRows.finish_eq (state : CsvRows) :
    state.finish = state.pushCell.pushRow.rows := by
  by_cases something : state.cell ≠ [] ∨ state.row ≠ []
  · exact if_pos something
  · have nothing := something
    rw [not_or, not_not, not_not] at nothing
    rw [finish, if_neg something]
    simp [CsvRows.pushCell, CsvRows.pushRow, nothing.1, nothing.2]

/-- A row is kept unless it is blank. -/
theorem CsvRows.pushRow_eq
    (rows : List (List String))
    (row : List String) :
    CsvRows.pushRow { rows := rows, row := row, cell := [] } =
      { rows :=
          rows ++ [row].filter fun row => row.any fun cell => cell ≠ ""
        row := []
        cell := [] } := by
  by_cases kept : row.any (fun cell => cell ≠ "") = true
  · simp only [CsvRows.pushRow, if_pos kept, List.filter_cons,
      List.filter_nil]
  · simp only [CsvRows.pushRow, if_neg kept, List.filter_cons,
      List.filter_nil, List.append_nil]

/-- Either line end is read as one line feed. -/
theorem unifyLineEnds_lineEnd
    {lineEnd : String}
    (isLineEnd : lineEnd = "\n" ∨ lineEnd = "\r\n")
    (rest : List Char) :
    unifyLineEnds (lineEnd.toList ++ rest) = '\n' :: unifyLineEnds rest := by
  rcases isLineEnd with isFeed | isPair
  · rw [isFeed]
    exact unifyLineEnds_cons (by decide) rest
  · rw [isPair]
    exact unifyLineEnds_pair rest

/-- A table is read row by row, without the rows that are blank. -/
theorem csvRows_of_spellsTable
    {rows : List (List String)}
    {text : String}
    (spells : SpellsTable rows text) :
    csvRows text =
      (rows.map (List.map unified)).filter fun row =>
        row.any fun cell => cell ≠ "" := by
  have reads (collected : List (List String)) :
      (scanCsv false { rows := collected, row := [], cell := [] }
          (unifyLineEnds text.toList)).finish =
        collected ++ (rows.map (List.map unified)).filter fun row =>
          row.any fun cell => cell ≠ "" := by
    induction spells generalizing collected with
    | nil =>
        simp [CsvRows.finish]
    | @unterminated cells line row =>
        obtain ⟨state, reads, pushed⟩ :=
          @scanCsv_line collected cells line row [] (.inl rfl) []
        rw [List.append_nil] at reads
        rw [reads, unifyLineEnds_nil, scanCsv_nil, CsvRows.finish_eq, pushed,
          List.nil_append, CsvRows.pushRow_eq]
        rfl
    | @cons cells line lineEnd rest rows row isLineEnd _ inductionHypothesis =>
        have symbols :
            (line ++ lineEnd ++ rest).toList =
              line.toList ++ (lineEnd.toList ++ rest.toList) := by
          simp
        have ends := unifyLineEnds_lineEnd isLineEnd rest.toList
        obtain ⟨state, reads, pushed⟩ :=
          scanCsv_line collected row (.inr ⟨_, ends⟩) []
        rw [symbols, reads, ends, scanCsv_lineEnd, pushed, List.nil_append,
          CsvRows.pushRow_eq, inductionHypothesis, List.append_assoc,
          ← List.filter_append]
        rfl
  exact reads []

/--
Every spelling of a table whose cells have no carriage returns is read as its
rows in order, without those all of whose cells are empty.
-/
theorem csv_rows_spelled
    {rows : List (List String)}
    {text : String}
    (noReturns : ∀ row ∈ rows, ∀ cell ∈ row, '\r' ∉ cell.toList)
    (spells : SpellsTable rows text) :
    csvRows text = rows.filter fun row => row.any fun cell => cell ≠ "" := by
  have same : rows.map (List.map unified) = rows := by
    refine (List.map_congr_left fun row isRow => ?_).trans (List.map_id rows)
    refine (List.map_congr_left fun cell isCell => ?_).trans (List.map_id row)
    exact unified_eq_iff.mpr (noReturns row isRow cell isCell)
  rw [csvRows_of_spellsTable spells, same]

/-- Two rows with a blank one between them, with both line ends. -/
theorem csv_rows_spelled_mixed :
    csvRows "a,\"b\"\"\"\r\n\nc" = [["a", "b\""], ["c"]] := by
  have cell (v : String) (plain : v.toList.any needsQuotes = false) :
      SpellsCell v v :=
    .inr ⟨rfl, plain⟩
  have spells :
      SpellsTable [["a", "b\""], [""], ["c"]] "a,\"b\"\"\"\r\n\nc" :=
    .cons (.cons (cell "a" (by decide)) (.last (.inl rfl))) (.inr rfl)
      (.cons (.last (cell "" (by decide))) (.inl rfl)
        (.unterminated (.last (cell "c" (by decide)))))
  exact csv_rows_spelled (by decide) spells

/-!
## Written tables
-/

/-- A written row spells its cells. -/
theorem spellsRow_csvLine
    (writer : CellWriter)
    {cells : List String}
    (nonempty : cells ≠ []) :
    SpellsRow cells (csvLine writer cells) := by
  induction cells with
  | nil =>
      exact absurd rfl nonempty
  | cons cell later inductionHypothesis =>
      cases later with
      | nil =>
          have line : csvLine writer [cell] = writer.write cell := by
            simp [csvLine]
          rw [line]
          exact .last (writer.spells cell)
      | cons second others =>
          have line :
              csvLine writer (cell :: second :: others) =
                writer.write cell ++ "," ++
                  csvLine writer (second :: others) := by
            simp [csvLine, String.intercalate_cons_cons]
          rw [line]
          exact .cons (writer.spells cell)
            (inductionHypothesis (List.cons_ne_nil _ _))

/-- A written table spells its rows. -/
theorem spellsTable_csvText
    (writer : CellWriter)
    {lineEnd : String}
    (isLineEnd : lineEnd = "\n" ∨ lineEnd = "\r\n")
    {rows : List (List String)}
    (nonempty : ∀ row ∈ rows, row ≠ []) :
    SpellsTable rows (csvText writer lineEnd rows) := by
  induction rows with
  | nil =>
      exact .nil
  | cons row later inductionHypothesis =>
      have spellsRow :=
        spellsRow_csvLine writer (nonempty row List.mem_cons_self)
      cases later with
      | nil =>
          have text : csvText writer lineEnd [row] = csvLine writer row := by
            simp [csvText]
          rw [text]
          exact .unterminated spellsRow
      | cons second others =>
          have text :
              csvText writer lineEnd (row :: second :: others) =
                csvLine writer row ++ lineEnd ++
                  csvText writer lineEnd (second :: others) := by
            simp [csvText, String.intercalate_cons_cons]
          rw [text]
          exact .cons spellsRow isLineEnd
            (inductionHypothesis fun row member =>
              nonempty row (List.mem_cons_of_mem _ member))

/-- A written table is read row by row. -/
theorem csvRows_csvText
    (writer : CellWriter)
    {lineEnd : String}
    (isLineEnd : lineEnd = "\n" ∨ lineEnd = "\r\n")
    {rows : List (List String)}
    (nonempty : ∀ row ∈ rows, row ≠ []) :
    csvRows (csvText writer lineEnd rows) =
      (rows.map (List.map unified)).filter fun row =>
        row.any fun cell => cell ≠ "" :=
  csvRows_of_spellsTable (spellsTable_csvText writer isLineEnd nonempty)

end Passwd.VaultExport
