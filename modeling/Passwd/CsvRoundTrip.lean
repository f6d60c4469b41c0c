import Passwd.CsvText

namespace Passwd.VaultExport

open Json JavaScript VaultItem

/-!
# A CSV export is read back

The CSV export carries the flat texts of an item and its favourite flag.  When
an export is imported, they come back as logins, except that every line end
inside of a text comes back as a line feed.
-/

/-- `it[f]`, for a field of text. -/
def ItemFields.flatField (it : ItemFields) (f : String) : Option String :=
  match lookup it.toMembers f with
  | some (.string text) => some text
  | _ => none

/-- `toCSV` -/
def toCSV (items : List ItemFields) : String :=
  let rows :=
    items.map fun it =>
      ",".intercalate
        ((FIELDS.map fun f => csvEscape ((it.flatField f).getD "")) ++
          [if it.favorite then "1" else ""])
  "\r\n".intercalate (",".intercalate (FIELDS ++ ["favorite"]) :: rows)

/-- The header of an export. -/
def header : List String :=
  FIELDS ++ ["favorite"]

/-- The cells of an item. -/
def ItemFields.cells (it : ItemFields) : List String :=
  [it.name, it.url, it.username, it.password, it.totp, it.notes, it.folder,
    if it.favorite then "1" else ""]

/-- One of the texts for which an import keeps a login is not empty. -/
def ItemFields.HasText (it : ItemFields) : Prop :=
  it.name ≠ "" ∨ it.username ≠ "" ∨ it.password ≠ "" ∨ it.url ≠ "" ∨
    it.notes ≠ "" ∨ it.totp ≠ ""

/-- The login with the flat texts of an item, each rewritten. -/
def ItemFields.login (rewrite : String → String) (it : ItemFields) :
    ItemFields :=
  { blankItem .login with
    name := rewrite it.name
    username := rewrite it.username
    password := rewrite it.password
    url := rewrite it.url
    totp := rewrite it.totp
    notes := rewrite it.notes
    folder := rewrite it.folder
    favorite := it.favorite }

/-!
## The text of an export
-/

/-- An export is the table of its items. -/
theorem toCSV_eq (items : List ItemFields) :
    toCSV items =
      csvText .escaped "\r\n" (header :: items.map ItemFields.cells) := by
  have isHeader :
      ",".intercalate (FIELDS ++ ["favorite"]) =
        csvLine .escaped header := by
    decide
  have isLine (it : ItemFields) :
      ",".intercalate
          ((FIELDS.map fun f => csvEscape ((it.flatField f).getD "")) ++
            [if it.favorite then "1" else ""]) =
        csvLine .escaped it.cells := by
    have isFlag :
        csvEscape (if it.favorite then "1" else "") =
          if it.favorite then "1" else "" := by
      split
      · decide
      · decide
    rw [csvLine, ItemFields.cells]
    simp only [List.map_cons, List.map_nil, CellWriter.escaped, isFlag]
    rfl
  simp only [toCSV, isHeader, isLine]
  rw [csvText, List.map_cons, List.map_map]
  rfl

/-- The last character of a row that ends with a flag is no space. -/
theorem getLast?_cells (it : ItemFields) :
    ∃ symbol,
      (csvLine .escaped it.cells).toList.getLast? = some symbol ∧
        Identifier.isJsSpace symbol = false := by
  have shape :
      it.cells =
        [it.name, it.url, it.username, it.password, it.totp, it.notes,
          it.folder] ++ [if it.favorite then "1" else ""] := rfl
  rw [csvLine, shape, List.map_append,
    String.intercalate_append_of_ne_nil (by simp) (by simp)]
  generalize ",".intercalate (List.map CellWriter.escaped.write [_, _, _, _, _,
    _, _]) = front
  cases it.favorite with
  | true =>
      refine ⟨'1', ?_, by decide⟩
      have isFlag : CellWriter.escaped.write "1" = "1" := by decide
      simp [isFlag]
  | false =>
      refine ⟨',', ?_, by decide⟩
      have isFlag : CellWriter.escaped.write "" = "" := by decide
      simp [isFlag]

/-- An export begins with the name of its first column. -/
theorem exists_toList_toCSV
    {items : List ItemFields}
    (nonempty : items ≠ []) :
    ∃ rest, (toCSV items).toList = 'n' :: rest := by
  obtain ⟨it, later, isItems⟩ := List.exists_cons_of_ne_nil nonempty
  have isHeader :
      csvLine .escaped header =
        "name,url,username,password,totp,notes,folder,favorite" := by
    decide
  rw [toCSV_eq, isItems, csvText, List.map_cons, List.map_cons, List.map_cons,
    String.intercalate_cons_cons, isHeader]
  simp

/-- An export has no space at its ends. -/
theorem trim_toCSV
    {items : List ItemFields}
    (nonempty : items ≠ []) :
    TextRuns.trim Identifier.isJsSpace (toCSV items).toList =
      (toCSV items).toList := by
  obtain ⟨earlier, last, shape⟩ :=
    List.eq_nil_or_concat items |>.resolve_left nonempty
  obtain ⟨symbol, isLast, notSpace⟩ := getLast?_cells last
  have text :
      (toCSV items).toList =
        (csvText .escaped "\r\n"
            (header :: earlier.map ItemFields.cells)).toList ++
          ('\r' :: '\n' :: (csvLine .escaped last.cells).toList) := by
    rw [toCSV_eq, shape, List.concat_eq_append, List.map_append,
      ← List.cons_append, csvText, csvText, List.map_append,
      String.intercalate_append_of_ne_nil (by simp) (by simp)]
    simp
  apply TextRuns.trim_of_bare
  constructor
  · intro first isFirst
    obtain ⟨rest, starts⟩ := exists_toList_toCSV nonempty
    rw [starts] at isFirst
    cases isFirst
    decide
  · intro element isElement
    rw [text, List.getLast?_append, List.getLast?_cons_cons,
      List.getLast?_cons, isLast] at isElement
    cases isElement
    exact notSpace

/-!
## What is read
-/

/-- Unifying line ends leaves only empty text empty. -/
theorem unified_eq_empty {v : String} :
    unified v = "" ↔ v = "" := by
  constructor
  · intro isEmpty
    have nothing : unifyLineEnds v.toList = [] := by
      have symbols := congrArg String.toList isEmpty
      rwa [unified, String.toList_ofList] at symbols
    cases symbols : v.toList with
    | nil =>
        exact String.toList_inj.mp symbols
    | cons symbol rest =>
        rw [symbols, unifyLineEnds.eq_def] at nothing
        grind
  · intro isEmpty
    rw [isEmpty]
    rfl

/-- The columns of an export. -/
theorem column_header :
    header.map column =
      ["name", "url", "username", "password", "totp", "notes", "folder",
        "favorite"].map some := by
  decide +kernel

/-- The row of an item is not blank. -/
theorem cells_not_blank
    {it : ItemFields}
    (hasText : it.HasText) :
    ((it.cells.map unified).any fun cell => cell ≠ "") = true := by
  simp only [ItemFields.cells, List.map_cons, List.map_nil, List.any_cons,
    ne_eq, unified_eq_empty, Bool.or_eq_true, decide_eq_true_eq]
  rcases hasText with name | username | password | url | notes | totp
  · exact .inl name
  · exact .inr (.inr (.inl username))
  · exact .inr (.inr (.inr (.inl password)))
  · exact .inr (.inl url)
  · exact .inr (.inr (.inr (.inr (.inr (.inl notes)))))
  · exact .inr (.inr (.inr (.inr (.inl totp))))

/-- The members of a row of an export. -/
def ItemFields.csvMembers (it : ItemFields) : Members :=
  [("name", .string it.name), ("url", .string it.url),
    ("username", .string it.username), ("password", .string it.password),
    ("totp", .string it.totp), ("notes", .string it.notes),
    ("folder", .string it.folder),
    ("favorite", .string (if it.favorite then "1" else ""))]

section Import

variable {numberText : String → String}

/-- The members of a row are imported as they are. -/
theorem importMembers_csvMembers (it : ItemFields) :
    importMembers numberText [] it.csvMembers = some it.csvMembers := by
  simp only [ItemFields.csvMembers, importMembers]
  rw [importMember_text (by decide) rfl, Option.bind_some,
    importMember_text (by decide) rfl, Option.bind_some,
    importMember_text (by decide) rfl, Option.bind_some,
    importMember_text (by decide) rfl, Option.bind_some,
    importMember_text (by decide) rfl, Option.bind_some,
    importMember_text (by decide) rfl, Option.bind_some,
    importMember_text (by decide) rfl, Option.bind_some,
    importMember_favorite]
  rfl

/-- A flag is read from its spelling in an export. -/
theorem favorite_csvMembers (it : ItemFields) :
    favorite numberText (.object it.csvMembers) = some it.favorite := by
  have spelled :
      property (.object it.csvMembers) "favorite" =
        some (.string (if it.favorite then "1" else "")) := rfl
  simp only [favorite, spelled, textOfProperty, text]
  cases it.favorite with
  | true =>
      decide +kernel
  | false =>
      decide +kernel

/-- A row of an export is normalized to a login. -/
theorem normalize_csvMembers (it : ItemFields) :
    normalize numberText (.object it.csvMembers) =
      some (it.login id).toMembers := by
  have start :
      carried (.object it.csvMembers) []
        ["type", "card", "identity", "fields"] = [] := rfl
  have overlaid :
      assignAll blankFields it.csvMembers =
        assign (it.login id).toMembers "favorite"
          (.string (if it.favorite then "1" else "")) := rfl
  have kind : itemType (.object it.csvMembers) = .string "login" := rfl
  have card :
      completed blankCard (property (.object it.csvMembers) "card") =
        .object blankCard := rfl
  have identity :
      completed blankIdentity (property (.object it.csvMembers) "identity") =
        .object blankIdentity := rfl
  have fields :
      customFields numberText (property (.object it.csvMembers) "fields") =
        some (.array []) := rfl
  simp only [normalize, spread, start, importMembers_csvMembers,
    Option.bind_some, normalizeItemFields, overlaid, kind, card, identity,
    fields, favorite_csvMembers]
  rfl

/-- A row of as many cells as columns with distinct fields holds them all. -/
theorem csvRow_of_fields
    {fields cells : List String}
    (sameLength : fields.length = cells.length)
    {row : Members}
    (distinct : (row.map Prod.fst ++ fields).Nodup) :
    csvRow (fields.map some) cells row =
      row ++ fields.zipWith (fun field cell => (field, .string cell)) cells := by
  induction fields generalizing cells row with
  | nil => simp [csvRow]
  | cons field rest inductionHypothesis =>
      cases cells with
      | nil => cases sameLength
      | cons cell others =>
          have fresh : field ∉ row.map Prod.fst := fun known =>
            (List.nodup_append.mp distinct).2.2 field known field
              List.mem_cons_self rfl
          have shifted :
              ((row ++ [(field, Value.string cell)]).map Prod.fst ++
                rest).Nodup := by
            simpa using distinct
          have tail := inductionHypothesis (Nat.succ.inj sameLength) shifted
          simp only [List.map_cons, csvRow, List.tail_cons, List.head?_cons,
            Option.getD_some, lookup_of_not_mem fresh, Option.isSome_none,
            Bool.false_eq_true, ↓reduceIte, assign_of_not_mem fresh, tail]
          simp

/-- The rows that are read from an export. -/
theorem csvRows_toCSV
    {items : List ItemFields}
    (haveText : ∀ it ∈ items, it.HasText) :
    csvRows (toCSV items) =
      header :: items.map fun it => (it.login unified).cells := by
  have rowsNonempty :
      ∀ row ∈ header :: items.map ItemFields.cells, row ≠ [] := by
    intro row member
    rcases List.mem_cons.mp member with isHeader | isItem
    · rw [isHeader]
      decide
    · obtain ⟨it, _, shape⟩ := List.mem_map.mp isItem
      rw [← shape]
      exact List.cons_ne_nil _ _
  have headerKept : header.map unified = header := by decide
  have cellsKept (it : ItemFields) :
      it.cells.map unified = (it.login unified).cells := by
    have flagKept :
        unified (if it.favorite then "1" else "") =
          if it.favorite then "1" else "" := by
      split
      · decide
      · decide
    simp only [ItemFields.cells, List.map_cons, List.map_nil, flagKept]
    rfl
  rw [toCSV_eq, csvRows_csvText _ (.inr rfl) rowsNonempty, List.map_cons,
    headerKept, List.map_map]
  have allKept :
      (header :: items.map (List.map unified ∘ ItemFields.cells)).filter
          (fun row => row.any fun cell => cell ≠ "") =
        header :: items.map (List.map unified ∘ ItemFields.cells) := by
    rw [List.filter_eq_self]
    intro row member
    rcases List.mem_cons.mp member with isHeader | isItem
    · rw [isHeader]
      decide
    · obtain ⟨it, isItem, shape⟩ := List.mem_map.mp isItem
      rw [← shape]
      exact cells_not_blank (haveText it isItem)
  rw [allKept]
  exact congrArg _ (List.map_congr_left fun it _ => cellsKept it)

/-- A login with a text is imported. -/
theorem isNonEmpty_login
    {it : ItemFields}
    (hasText : it.HasText) :
    (it.login unified).isNonEmpty = true := by
  simp only [ItemFields.isNonEmpty, ItemFields.login, ne_eq,
    unified_eq_empty, Bool.or_eq_true, decide_eq_true_eq]
  unfold ItemFields.HasText at hasText
  tauto

/-- What is imported from an export. -/
theorem parseVaultImport_toCSV
    {items : List ItemFields}
    (nonempty : items ≠ [])
    (haveText : ∀ it ∈ items, it.HasText) :
    parseVaultImport numberText (toCSV items) =
      some (items.map fun it => (it.login unified).toMembers) := by
  have imported :
      parseCSV numberText (toCSV items) =
        some (items.map fun it => (it.login unified).toMembers) := by
    have normalizes :
        ∀ it ∈ items,
          normalize numberText
              (.object
                (csvRow (header.map column) (it.login unified).cells [])) =
            some (it.login unified).toMembers := by
      intro it _
      have isRow :
          csvRow (header.map column) (it.login unified).cells [] =
            (it.login unified).csvMembers := by
        rw [column_header]
        refine (csvRow_of_fields ?_ ?_).trans ?_
        · simp only [ItemFields.cells, List.length_cons, List.length_nil]
        · decide
        · rfl
      rw [isRow]
      exact normalize_csvMembers (it.login unified)
    simp only [parseCSV, csvRows_toCSV haveText, List.map_map]
    refine (importRows_map normalizes).trans (congrArg some ?_)
    rw [List.filter_eq_self]
    intro member isMember
    obtain ⟨it, isItem, shape⟩ := List.mem_map.mp isMember
    rw [← shape, nonEmpty_toMembers]
    exact isNonEmpty_login (haveText it isItem)
  obtain ⟨rest, starts⟩ := exists_toList_toCSV nonempty
  simp only [parseVaultImport, trim_toCSV nonempty, String.ofList_toList,
    imported]
  rw [starts]
  simp [nonempty]

/-- The texts of an item that an export carries. -/
def ItemFields.flatTexts (it : ItemFields) : List String :=
  [it.name, it.url, it.username, it.password, it.totp, it.notes, it.folder]

/-- The texts of an item that an export carries hold no carriage return. -/
def ItemFields.FreeOfReturns (it : ItemFields) : Prop :=
  ∀ text ∈ it.flatTexts, '\r' ∉ text.toList

instance (it : ItemFields) : Decidable it.FreeOfReturns :=
  inferInstanceAs (Decidable (∀ text ∈ it.flatTexts, '\r' ∉ text.toList))

/-- A login keeps its texts exactly when they hold no carriage return. -/
theorem login_unified_eq_iff (it : ItemFields) :
    it.login unified = it.login id ↔ it.FreeOfReturns := by
  simp only [ItemFields.login, ItemFields.mk.injEq, unified_eq_iff, id_eq,
    and_true, true_and, ItemFields.FreeOfReturns, ItemFields.flatTexts,
    List.forall_mem_cons, List.not_mem_nil, false_implies, implies_true]
  tauto

/--
An export is read back exactly when no text that it carries holds a carriage
return.
-/
theorem csvRoundTrip_iff
    {items : List ItemFields}
    (nonempty : items ≠ [])
    (haveText : ∀ it ∈ items, it.HasText) :
    parseVaultImport numberText (toCSV items) =
        some (items.map fun it => (it.login id).toMembers) ↔
      ∀ it ∈ items, it.FreeOfReturns := by
  rw [parseVaultImport_toCSV nonempty haveText, Option.some.injEq,
    List.map_inj_left]
  apply forall₂_congr
  intro it _
  rw [ItemFields.toMembers_injective.eq_iff, login_unified_eq_iff]

/-- A login with commas, marks, spaces and a line feed in its texts. -/
def quotedLogin : ItemFields :=
  { blankItem .login with
    name := " Doe, \"Jo\" "
    notes := "first\nsecond"
    favorite := true }

/-- An export of that login is read back. -/
theorem quotedLogin_imported :
    parseVaultImport id (toCSV [quotedLogin]) =
      some ([quotedLogin].map fun it => (it.login id).toMembers) := by
  apply (csvRoundTrip_iff (by decide) _).mpr
  · intro it member
    rw [List.mem_singleton.mp member]
    decide
  · intro it member
    rw [List.mem_singleton.mp member]
    exact .inl (by decide)

/-- A login whose notes hold a carriage return. -/
def returnLogin : ItemFields :=
  { blankItem .login with
    name := "router"
    notes := "first\rsecond" }

/-- An export of that login is read back with other notes. -/
theorem returnLogin_changed :
    parseVaultImport id (toCSV [returnLogin]) =
        some [({ returnLogin with notes := "first\nsecond" }).toMembers] ∧
      parseVaultImport id (toCSV [returnLogin]) ≠
        some ([returnLogin].map fun it => (it.login id).toMembers) := by
  have rewritten :
      returnLogin.login unified =
        { returnLogin with notes := "first\nsecond" } := by
    decide
  have different :
      { returnLogin with notes := "first\nsecond" } ≠
        returnLogin.login id := by
    decide
  have imported :
      parseVaultImport id (toCSV [returnLogin]) =
        some [({ returnLogin with notes := "first\nsecond" }).toMembers] := by
    rw [parseVaultImport_toCSV (List.cons_ne_nil _ _)
      (by
        intro it member
        rw [List.mem_singleton.mp member]
        exact .inl (by decide)),
      List.map_singleton, rewritten]
  refine ⟨imported, ?_⟩
  rw [imported]
  intro same
  have members := List.cons.inj (Option.some.inj same)
  exact different (ItemFields.toMembers_injective members.1)

end Import

end Passwd.VaultExport
