import Passwd.CsvRoundTrip

namespace Passwd.VaultExport

open Json JavaScript VaultItem

/-!
# The same table as CSV and as JSON

A table whose columns have names that the import knows, once as CSV and once as
an array of objects.  Where several columns are of one field, the import of CSV
takes the first of them and the import of JSON the first that is not empty.
-/

/-!
## Tables
-/

/-- The names that the import maps to a field of text. -/
def fieldNames : List String :=
  (ALIASES.filter fun entry => entry.2 ∈ FIELDS).map Prod.fst

/-- A name that the import knows, in any letter case. -/
def Recognised (name : String) : Prop :=
  name.toLower ∈ fieldNames ++ FAVORITE_KEYS

instance (name : String) : Decidable (Recognised name) :=
  inferInstanceAs (Decidable (_ ∈ _))

/-- A table with known columns and one cell in every column of a row. -/
structure Table where
  header : List String
  rows : List (List String)
  recognised : ∀ name ∈ header, Recognised name
  distinct : header.Nodup
  oneFavorite :
    (header.filter fun name => column name = some "favorite").length ≤ 1
  complete : ∀ row ∈ rows, row.length = header.length
  noReturns : ∀ row ∈ rows, ∀ cell ∈ row, '\r' ∉ cell.toList

/-- The table as CSV, with every cell quoted. -/
def Table.csv (table : Table) (lineEnd : String) : String :=
  csvText .everyQuoted lineEnd (table.header :: table.rows)

/-- A row as an object that maps the name of each column to its cell. -/
def rowMembers (header row : List String) : Members :=
  (header.zip row).map fun entry => (entry.1, .string entry.2)

/-- The table as the text of an array with one object a row. -/
def Table.json (table : Table) (layout : Layout) : String :=
  String.ofList
    (writeLaidOut Crypto.stringifyEscapes layout 0
      (.array (table.rows.map fun row =>
        .object (rowMembers table.header row))))

/-- The cells of a row in the columns of a field, in their order. -/
def cellsOf (header row : List String) (field : String) : List String :=
  ((header.zip row).filter fun entry => column entry.1 = some field).map
    Prod.snd

/-- The first column of a field is filled in if any column of the field is. -/
def FirstFilled (header row : List String) (field : String) : Prop :=
  (cellsOf header row field).head?.getD "" = "" →
    ∀ cell ∈ cellsOf header row field, cell = ""

/-- The fields for which an import keeps a row. -/
def keptFields : List String :=
  ["name", "username", "password", "url", "notes", "totp"]

/-- Nothing in a row is kept, or each field has its first column filled in. -/
def RowAgrees (header row : List String) : Prop :=
  (∀ field ∈ keptFields, ∀ cell ∈ cellsOf header row field, cell = "") ∨
    ∀ field ∈ FIELDS, FirstFilled header row field

/-!
## Rows of text
-/

/-- The login with given texts in its fields. -/
def loginOf (texts : String → String) : ItemFields :=
  { blankItem .login with
    name := texts "name"
    username := texts "username"
    password := texts "password"
    url := texts "url"
    totp := texts "totp"
    notes := texts "notes"
    folder := texts "folder"
    favorite := (texts "favorite").toLower ∈ ["1", "true", "yes"] }

/-- The text of a member, if there is one. -/
def textAt (members : Members) (key : String) : String :=
  match lookup members key with
  | some (.string text) => text
  | _ => ""

/-- The members of an item that only has texts. -/
structure FlatTexts (members : Members) : Prop where
  distinct : (members.map Prod.fst).Nodup
  known : ∀ member ∈ members, member.1 ∈ FIELDS ++ ["favorite"]
  texts : ∀ member ∈ members, ∃ text, member.2 = .string text

/-- A member of flat texts is looked up as a text, or not at all. -/
theorem FlatTexts.lookup_eq
    {members : Members}
    (flat : FlatTexts members)
    (key : String) :
    lookup members key = some (.string (textAt members key)) ∨
      lookup members key = none ∧ textAt members key = "" := by
  cases found : lookup members key with
  | none =>
      right
      simp [textAt, found]
  | some value =>
      left
      obtain ⟨member, isMember, isValue⟩ := Option.map_eq_some_iff.mp found
      obtain ⟨text, isText⟩ :=
        flat.texts member (List.mem_of_find?_eq_some isMember)
      rw [isValue] at isText
      simp [textAt, found, isText]

/-- Other keys are not looked up in flat texts. -/
theorem FlatTexts.lookup_eq_none
    {members : Members}
    (flat : FlatTexts members)
    {key : String}
    (unknown : key ∉ FIELDS ++ ["favorite"]) :
    lookup members key = none := by
  rw [lookup, Option.map_eq_none_iff, List.find?_eq_none]
  intro member isMember isKey
  rw [decide_eq_true_eq] at isKey
  exact unknown (isKey ▸ flat.known member isMember)

/-- Writing a key that is there changes its value only. -/
theorem assign_eq_map
    {members : Members}
    {key : String}
    (distinct : (members.map Prod.fst).Nodup)
    (present : key ∈ members.map Prod.fst)
    (value : Value) :
    assign members key value =
      members.map fun member =>
        (member.1, if key = member.1 then value else member.2) := by
  induction members with
  | nil =>
      cases present
  | cons member rest inductionHypothesis =>
      obtain ⟨other, current⟩ := member
      rw [List.map_cons, List.nodup_cons] at distinct
      rw [List.map_cons, List.mem_cons] at present
      by_cases same : other = key
      · have restKept :
            (rest.map fun member =>
              (member.1, if key = member.1 then value else member.2)) =
              rest := by
          refine (List.map_congr_left (g := id) ?_).trans (List.map_id rest)
          intro member isMember
          have otherKey : key ≠ member.1 := by
            intro isKey
            have isOther : member.1 = other := isKey.symm.trans same.symm
            exact distinct.1 (isOther ▸ List.mem_map.mpr ⟨member, isMember, rfl⟩)
          rw [if_neg otherKey]
          rfl
        simp only [assign, same, ↓reduceIte, List.map_cons, restKept]
      · have later := present.resolve_left (Ne.symm same)
        simp only [assign, if_neg same, if_neg (Ne.symm same), List.map_cons,
          inductionHypothesis distinct.2 later]

/-- Writing distinct keys that are there changes their values only. -/
theorem assignAll_eq_map
    {members later : Members}
    (distinct : (members.map Prod.fst).Nodup)
    (laterDistinct : (later.map Prod.fst).Nodup)
    (present : ∀ member ∈ later, member.1 ∈ members.map Prod.fst) :
    assignAll members later =
      members.map fun member =>
        (member.1, (lookup later member.1).getD member.2) := by
  induction later generalizing members with
  | nil =>
      simp [assignAll]
  | cons written rest inductionHypothesis =>
      obtain ⟨key, value⟩ := written
      rw [List.map_cons, List.nodup_cons] at laterDistinct
      have isPresent := present (key, value) List.mem_cons_self
      have start : assignAll members ((key, value) :: rest) =
          assignAll (assign members key value) rest := rfl
      have sameKeys :
          (members.map fun member =>
              (member.1, if key = member.1 then value else member.2)).map
            Prod.fst = members.map Prod.fst := by
        rw [List.map_map]
        rfl
      rw [start, assign_eq_map distinct isPresent,
        inductionHypothesis (sameKeys ▸ distinct) laterDistinct.2
          (fun member isMember =>
            sameKeys ▸ present member (List.mem_cons_of_mem _ isMember)),
        List.map_map]
      apply List.map_congr_left
      intro member _
      by_cases isKey : key = member.1
      · have absent : lookup rest member.1 = none :=
          lookup_of_not_mem (isKey ▸ laterDistinct.1)
        simp [lookup_cons, isKey, absent]
      · simp [lookup_cons, isKey]

section Import

variable {numberText : String → String}

/-- Flat texts are normalized to a login with these texts. -/
theorem FlatTexts.normalizeItemFields_eq
    {members : Members}
    (flat : FlatTexts members) :
    normalizeItemFields numberText (.object members) =
      some (loginOf (textAt members)).toMembers := by
  have overlaid :
      assignAll blankFields members =
        blankFields.map fun member =>
          (member.1, (lookup members member.1).getD member.2) := by
    apply assignAll_eq_map (by decide) flat.distinct
    intro member isMember
    have known := flat.known member isMember
    revert known
    generalize member.1 = key
    revert key
    decide
  have absent {key : String} (unknown : key ∉ FIELDS ++ ["favorite"]) :
      property (.object members) key = none :=
    flat.lookup_eq_none unknown
  have kind : itemType (.object members) = .string "login" := by
    rw [itemType, absent (by decide)]
  have fields :
      customFields numberText (property (.object members) "fields") =
        some (.array []) := by
    rw [absent (by decide)]
    rfl
  have texts (key : String) :
      textOr numberText "" (property (.object members) key) =
        some (textAt members key) := by
    rcases flat.lookup_eq key with found | ⟨missing, isEmpty⟩
    · rw [property, found]
      rfl
    · rw [property, missing, isEmpty]
      rfl
  have flag :
      favorite numberText (.object members) =
        some (loginOf (textAt members)).favorite := by
    rcases flat.lookup_eq "favorite" with found | ⟨missing, isEmpty⟩
    · simp [favorite, property, found, textOfProperty, text, loginOf]
    · simp only [favorite, property, missing, textOfProperty, loginOf,
        isEmpty]
      decide +kernel
  simp only [normalizeItemFields, spread, overlaid, kind, fields, flag,
    absent (show "card" ∉ FIELDS ++ ["favorite"] by decide),
    absent (show "identity" ∉ FIELDS ++ ["favorite"] by decide),
    textMembers, textKeys, texts]
  rfl

end Import

/-- A member after an assignment is the written one or was there before. -/
theorem mem_assign
    {members : Members}
    {key : String}
    {value : Value}
    {member : String × Value}
    (isMember : member ∈ assign members key value) :
    member = (key, value) ∨ member ∈ members := by
  induction members with
  | nil =>
      exact .inl (List.mem_singleton.mp isMember)
  | cons other rest inductionHypothesis =>
      obtain ⟨otherKey, current⟩ := other
      by_cases same : otherKey = key
      · rw [assign, if_pos same, List.mem_cons] at isMember
        exact isMember.imp_right (List.mem_cons_of_mem _)
      · rw [assign, if_neg same, List.mem_cons] at isMember
        rcases isMember with isOther | isLater
        · exact .inr (isOther ▸ List.mem_cons_self)
        · exact (inductionHypothesis isLater).imp_right
            (List.mem_cons_of_mem _)

/-- No members are flat texts. -/
theorem FlatTexts.nil : FlatTexts [] where
  distinct := List.nodup_nil
  known := by
    rintro member ⟨⟩
  texts := by
    rintro member ⟨⟩

/-- Writing a text to a known key keeps the texts flat. -/
theorem FlatTexts.assign
    {members : Members}
    (flat : FlatTexts members)
    {key : String}
    (known : key ∈ FIELDS ++ ["favorite"])
    (text : String) :
    FlatTexts (Json.assign members key (.string text)) where
  distinct := nodup_keys_assign flat.distinct _ _
  known := by
    intro member isMember
    rcases mem_assign isMember with isWritten | wasMember
    · rw [isWritten]
      exact known
    · exact flat.known member wasMember
  texts := by
    intro member isMember
    rcases mem_assign isMember with isWritten | wasMember
    · rw [isWritten]
      exact ⟨text, rfl⟩
    · exact flat.texts member wasMember

/-!
## Names of columns
-/

/-- White space has no lower case. -/
theorem toLower_of_isJsSpace
    {symbol : Char}
    (space : Identifier.isJsSpace symbol = true) :
    symbol.toLower = symbol := by
  apply dif_neg
  rintro ⟨low, high⟩
  have atLeast : 65 ≤ symbol.toNat := UInt32.le_iff_toNat_le.mp low
  have atMost : symbol.toNat ≤ 90 := UInt32.le_iff_toNat_le.mp high
  simp only [Identifier.isJsSpace, List.mem_cons, List.not_mem_nil, or_false,
    Bool.or_eq_true, Bool.and_eq_true, decide_eq_true_eq] at space
  omega

/-- Lowering works on the characters one by one. -/
theorem toList_toLower (name : String) :
    name.toLower.toList = name.toList.map Char.toLower :=
  String.toList_map

/-- A known name has no carriage returns. -/
theorem Recognised.noReturn
    {name : String}
    (recognised : Recognised name) :
    '\r' ∉ name.toList := by
  have noReturn :
      ∀ key ∈ fieldNames ++ FAVORITE_KEYS, '\r' ∉ key.toList := by
    decide
  intro isReturn
  apply noReturn _ recognised
  rw [toList_toLower, List.mem_map]
  exact ⟨'\r', isReturn, by decide⟩

/-- A known name is compared as it is, in lower case. -/
theorem Recognised.lowered_eq
    {name : String}
    (recognised : Recognised name) :
    lowered name = name.toLower := by
  have bare :
      ∀ key ∈ fieldNames ++ FAVORITE_KEYS,
        (key.toList.head?.all fun symbol => !Identifier.isJsSpace symbol) ∧
          key.toList.getLast?.all fun symbol =>
            !Identifier.isJsSpace symbol := by
    decide
  obtain ⟨first, last⟩ := bare _ recognised
  rw [toList_toLower, List.head?_map, Option.all_map] at first
  rw [toList_toLower, List.getLast?_map, Option.all_map] at last
  have trimmed :
      TextRuns.trim Identifier.isJsSpace name.toList = name.toList := by
    apply TextRuns.trim_of_bare
    constructor
    · intro symbol isFirst
      rw [isFirst] at first
      by_contra space
      rw [Bool.not_eq_false] at space
      simp [toLower_of_isJsSpace space, space] at first
    · intro symbol isLast
      rw [isLast] at last
      by_contra space
      rw [Bool.not_eq_false] at space
      simp [toLower_of_isJsSpace space, space] at last
  rw [lowered, trimmed, String.ofList_toList]

/-- A known name is of a field, or a mark of favourites. -/
theorem Recognised.column_eq
    {name : String}
    (recognised : Recognised name) :
    (∃ field ∈ FIELDS,
      column name = some field ∧ aliased (lowered name) = some field ∧
        lowered name ∉ FAVORITE_KEYS) ∨
      column name = some "favorite" ∧ lowered name ∈ FAVORITE_KEYS := by
  have each :
      ∀ key ∈ fieldNames ++ FAVORITE_KEYS,
        ((aliased key).any (· ∈ FIELDS) ∧ key ∉ FAVORITE_KEYS) ∨
          aliased key = none ∧ key ∈ FAVORITE_KEYS := by
    decide
  rw [column, recognised.lowered_eq]
  rcases each _ recognised with ⟨isField, notFavorite⟩ | ⟨noField, favorite⟩
  · obtain ⟨field, isAlias, known⟩ := (Option.any_eq_true _ _).mp isField
    left
    exact ⟨field, of_decide_eq_true known, by rw [isAlias], isAlias,
      notFavorite⟩
  · right
    refine ⟨?_, favorite⟩
    rw [noField]
    exact if_pos favorite

/-- A name that is a field is the alias of itself. -/
theorem aliased_of_field
    {name : String}
    (isField : name ∈ FIELDS) :
    aliased (lowered name) = some name := by
  revert name
  decide +kernel

/-- A known name is no structured member. -/
theorem Recognised.not_structured
    {name : String}
    (recognised : Recognised name) :
    name ∉ ["type", "card", "identity", "fields"] := by
  have unknown :
      ∀ name ∈ ["type", "card", "identity", "fields"], ¬ Recognised name := by
    decide +kernel
  exact fun structured => unknown name structured recognised

/-!
## Rows of CSV
-/

/-- The cells of one more column. -/
theorem cellsOf_cons
    (name cell field : String)
    (header row : List String) :
    cellsOf (name :: header) (cell :: row) field =
      if column name = some field then cell :: cellsOf header row field
      else cellsOf header row field := by
  by_cases isField : column name = some field
  · simp [cellsOf, isField]
  · simp [cellsOf, isField]

/-- The first column of a field is the member of the field. -/
theorem csvRow_spec
    {header row : List String}
    (recognised : ∀ name ∈ header, Recognised name)
    (complete : row.length = header.length)
    {members : Members}
    (flat : FlatTexts members) :
    FlatTexts (csvRow (header.map column) row members) ∧
      ∀ field,
        lookup (csvRow (header.map column) row members) field =
          (lookup members field).or
            ((cellsOf header row field).head?.map .string) := by
  induction header generalizing row members with
  | nil =>
      refine ⟨flat, fun field => ?_⟩
      simp [csvRow, cellsOf]
  | cons name header inductionHypothesis =>
      cases row with
      | nil =>
          cases complete
      | cons cell row =>
          have isComplete : row.length = header.length :=
            Nat.succ.inj complete
          have known := recognised name List.mem_cons_self
          have laterKnown :=
            fun other member =>
              recognised other (List.mem_cons_of_mem name member)
          obtain ⟨field, isField, isColumn⟩ :
              ∃ field ∈ FIELDS ++ ["favorite"], column name = some field := by
            rcases known.column_eq with ⟨field, isField, isColumn, _⟩ |
              ⟨isColumn, _⟩
            · exact ⟨field, List.mem_append_left _ isField, isColumn⟩
            · exact ⟨"favorite", by decide, isColumn⟩
          simp only [List.map_cons, csvRow, isColumn, List.tail_cons,
            List.head?_cons, Option.getD_some]
          split
          · rename_i taken
            obtain ⟨value, isTaken⟩ := Option.isSome_iff_exists.mp taken
            obtain ⟨laterFlat, laterLookup⟩ :=
              inductionHypothesis laterKnown isComplete flat
            refine ⟨laterFlat, fun other => ?_⟩
            rw [laterLookup, cellsOf_cons, isColumn]
            by_cases same : field = other
            · rw [← same, isTaken]
              rfl
            · rw [if_neg (fun isSame => same (Option.some.inj isSame))]
          · rename_i free
            obtain ⟨laterFlat, laterLookup⟩ :=
              inductionHypothesis laterKnown isComplete
                (flat.assign isField cell)
            refine ⟨laterFlat, fun other => ?_⟩
            rw [laterLookup, cellsOf_cons, isColumn, lookup_assign]
            by_cases same : field = other
            · have isFree := Option.not_isSome_iff_eq_none.mp free
              rw [if_pos same, if_pos (congrArg some same), ← same, isFree]
              rfl
            · rw [if_neg same,
                if_neg (fun isSame => same (Option.some.inj isSame))]

/-!
## Rows of JSON
-/

/-- The first cell that is not empty, if there is one. -/
def firstFilled (cells : List String) : String :=
  (cells.find? fun cell => cell ≠ "").getD ""

/-- A cell in front counts unless it is empty. -/
theorem firstFilled_cons (cell : String) (cells : List String) :
    firstFilled (cell :: cells) =
      if cell = "" then firstFilled cells else cell := by
  by_cases isEmpty : cell = ""
  · simp [firstFilled, isEmpty]
  · simp [firstFilled, isEmpty]

/-- What is read at a key after an assignment. -/
theorem textAt_assign
    (members : Members)
    (written key text : String) :
    textAt (assign members written (.string text)) key =
      if written = key then text else textAt members key := by
  by_cases same : written = key
  · simp [textAt, same]
  · simp [textAt, same]

section Import

variable {numberText : String → String}

/-- A text counts as true unless it is empty. -/
theorem FlatTexts.any_truthy
    {members : Members}
    (flat : FlatTexts members)
    (key : String) :
    (lookup members key).any (truthy numberText) =
      decide (textAt members key ≠ "") := by
  rcases flat.lookup_eq key with found | ⟨missing, isEmpty⟩
  · rw [found]
    rfl
  · rw [missing, isEmpty]
    rfl

/-- A member of a field is taken unless the field has a text. -/
theorem importMember_field
    {members : Members}
    (flat : FlatTexts members)
    {name field : String}
    (isAlias : aliased (lowered name) = some field)
    (notFavorite : lowered name ∉ FAVORITE_KEYS)
    (cell : String) :
    importMember numberText members name (.string cell) =
      some
        (if textAt members field = "" then
          assign members field (.string cell)
        else members) := by
  have target :
      (if name ∈ FIELDS then some name else aliased (lowered name)) =
        some field := by
    by_cases isField : name ∈ FIELDS
    · rw [if_pos isField, ← aliased_of_field isField, isAlias]
    · rw [if_neg isField, isAlias]
  simp only [importMember, if_neg notFavorite, target, flat.any_truthy,
    decide_eq_true_eq, textOr, text, Option.map_some]
  by_cases isEmpty : textAt members field = ""
  · rw [if_pos isEmpty, if_neg (not_not_intro isEmpty)]
  · rw [if_neg isEmpty, if_pos isEmpty]

/-- A known column fills its field unless the field has a text. -/
theorem importMember_recognised
    {members : Members}
    (flat : FlatTexts members)
    {name : String}
    (recognised : Recognised name)
    (cell : String) :
    ∃ next,
      importMember numberText members name (.string cell) = some next ∧
        FlatTexts next ∧
        (∀ field ∈ FIELDS, ∀ cells,
          firstFilled (textAt next field :: cells) =
            firstFilled
              (textAt members field ::
                if column name = some field then cell :: cells else cells)) ∧
        textAt next "favorite" =
          if column name = some "favorite" then cell
          else textAt members "favorite" := by
  rcases recognised.column_eq with
    ⟨field, isField, isColumn, isAlias, notFavorite⟩ | ⟨isColumn, isFavorite⟩
  · have known : field ∈ FIELDS ++ ["favorite"] :=
      List.mem_append_left _ isField
    have notMark : field ≠ "favorite" := by
      rintro rfl
      revert isField
      decide
    rw [importMember_field flat isAlias notFavorite, isColumn]
    simp only [Option.some.injEq, if_neg notMark]
    by_cases isEmpty : textAt members field = ""
    · rw [if_pos isEmpty]
      refine ⟨_, rfl, flat.assign known cell, ?_, ?_⟩
      · intro other isOther cells
        rw [textAt_assign]
        by_cases same : field = other
        · rw [if_pos same, if_pos same, ← same,
            firstFilled_cons (textAt members field), if_pos isEmpty]
        · rw [if_neg same, if_neg same]
      · rw [textAt_assign, if_neg notMark]
    · rw [if_neg isEmpty]
      refine ⟨members, rfl, flat, ?_, rfl⟩
      intro other isOther cells
      by_cases same : field = other
      · rw [if_pos same, ← same, firstFilled_cons, firstFilled_cons,
          if_neg isEmpty, if_neg isEmpty]
      · rw [if_neg same]
  · have notField : ∀ field ∈ FIELDS, "favorite" ≠ field := by
      decide
    have known : "favorite" ∈ FIELDS ++ ["favorite"] := by
      decide
    rw [isColumn]
    simp only [Option.some.injEq, ↓reduceIte]
    refine ⟨_, if_pos isFavorite, flat.assign known cell, ?_, ?_⟩
    · intro other isOther cells
      rw [textAt_assign, if_neg (notField other isOther),
        if_neg (notField other isOther)]
    · rw [textAt_assign, if_pos rfl]

/-- The first filled column of a field is the text of the field. -/
theorem importMembers_rowMembers
    {header row : List String}
    (recognised : ∀ name ∈ header, Recognised name)
    (complete : row.length = header.length)
    {members : Members}
    (flat : FlatTexts members) :
    ∃ imported,
      importMembers numberText members (rowMembers header row) =
          some imported ∧
        FlatTexts imported ∧
        (∀ field ∈ FIELDS,
          textAt imported field =
            firstFilled
              (textAt members field :: cellsOf header row field)) ∧
        textAt imported "favorite" =
          (cellsOf header row "favorite").getLast?.getD
            (textAt members "favorite") := by
  induction header generalizing row members with
  | nil =>
      refine ⟨members, rfl, flat, fun field _ => ?_, rfl⟩
      have none : cellsOf [] row field = [] := rfl
      rw [none, firstFilled_cons]
      split
      · assumption
      · rfl
  | cons name header inductionHypothesis =>
      cases row with
      | nil =>
          cases complete
      | cons cell row =>
          have laterKnown :=
            fun other member =>
              recognised other (List.mem_cons_of_mem name member)
          have members_cons :
              rowMembers (name :: header) (cell :: row) =
                (name, .string cell) :: rowMembers header row := rfl
          obtain ⟨next, taken, nextFlat, nextFields, nextFavorite⟩ :=
            @importMember_recognised numberText _ flat _
              (recognised name List.mem_cons_self) cell
          obtain ⟨imported, isImported, importedFlat, fields, favorite⟩ :=
            inductionHypothesis laterKnown (Nat.succ.inj complete) nextFlat
          rw [members_cons, importMembers, taken, Option.bind_some]
          refine ⟨imported, isImported, importedFlat, ?_, ?_⟩
          · intro field isField
            rw [fields field isField, nextFields field isField,
              cellsOf_cons]
          · rw [favorite, nextFavorite, cellsOf_cons]
            split
            · rw [List.getLast?_cons]
              rfl
            · rfl

/-!
## What is imported
-/

/-- What the import of CSV makes of a row. -/
def csvItem (header row : List String) : ItemFields :=
  loginOf fun field => (cellsOf header row field).head?.getD ""

/-- What the import of JSON makes of a row. -/
def jsonItem (header row : List String) : ItemFields :=
  loginOf fun field =>
    if field = "favorite" then (cellsOf header row field).getLast?.getD ""
    else firstFilled (cellsOf header row field)

/-- Logins with the same texts are the same. -/
theorem loginOf_congr
    {texts others : String → String}
    (same : ∀ key ∈ FIELDS ++ ["favorite"], texts key = others key) :
    loginOf texts = loginOf others := by
  simp only [loginOf, same "name" (by decide), same "username" (by decide),
    same "password" (by decide), same "url" (by decide),
    same "totp" (by decide), same "notes" (by decide),
    same "folder" (by decide), same "favorite" (by decide)]

/-- The structured members are not carried over from flat texts. -/
theorem carried_eq_nil
    {members : Members}
    (absent :
      ∀ key ∈ ["type", "card", "identity", "fields"],
        lookup members key = none) :
    carried (.object members) [] ["type", "card", "identity", "fields"] =
      [] := by
  simp only [carried, property, absent "type" (by decide),
    absent "card" (by decide), absent "identity" (by decide),
    absent "fields" (by decide)]

/-- Flat texts are imported as they are. -/
theorem importMembers_flat
    {members imported : Members}
    (flat : FlatTexts (members ++ imported)) :
    importMembers numberText members imported = some (members ++ imported) := by
  induction imported generalizing members with
  | nil =>
      rw [List.append_nil]
      rfl
  | cons member rest inductionHypothesis =>
      obtain ⟨key, value⟩ := member
      have isMember : (key, value) ∈ members ++ (key, value) :: rest := by
        simp
      obtain ⟨text, isText⟩ := flat.texts _ isMember
      have known := flat.known _ isMember
      dsimp only at isText known
      have distinct := flat.distinct
      rw [List.map_append, List.map_cons, List.nodup_append] at distinct
      have fresh : key ∉ members.map Prod.fst := fun repeated =>
        distinct.2.2 key repeated key List.mem_cons_self rfl
      have taken :
          importMember numberText members key value =
            some (assign members key value) := by
        rw [isText]
        rcases List.mem_append.mp known with isField | isFavorite
        · apply importMember_text isField
          rw [lookup, Option.map_eq_none_iff, List.find?_eq_none]
          intro other isOther sameKey
          rw [decide_eq_true_eq] at sameKey
          exact fresh (sameKey ▸ List.mem_map_of_mem isOther)
        · rw [List.mem_singleton.mp isFavorite]
          exact importMember_favorite members _
      have split :
          members ++ (key, value) :: rest =
            (members ++ [(key, value)]) ++ rest := by
        simp
      rw [split] at flat ⊢
      rw [importMembers, taken, Option.bind_some, assign_of_not_mem fresh]
      exact inductionHypothesis flat

/-- The row of a CSV file is imported as its first columns. -/
theorem normalize_csvRow
    {header row : List String}
    (recognised : ∀ name ∈ header, Recognised name)
    (complete : row.length = header.length) :
    normalize numberText (.object (csvRow (header.map column) row [])) =
      some (csvItem header row).toMembers := by
  obtain ⟨flat, isLookup⟩ := csvRow_spec recognised complete FlatTexts.nil
  have absent :
      ∀ key ∈ ["type", "card", "identity", "fields"],
        lookup (csvRow (header.map column) row []) key = none := by
    intro key structured
    apply flat.lookup_eq_none
    revert key
    decide
  have texts :
      loginOf (textAt (csvRow (header.map column) row [])) =
        csvItem header row := by
    apply loginOf_congr
    intro key _
    rw [textAt, isLookup]
    cases (cellsOf header row key).head? with
    | none =>
        rfl
    | some cell =>
        rfl
  have isImported :
      importMembers numberText [] (csvRow (header.map column) row []) =
        some (csvRow (header.map column) row []) :=
    importMembers_flat flat
  simp only [normalize, spread, carried_eq_nil absent, isImported,
    Option.bind_some, flat.normalizeItemFields_eq, texts]

/-- A row of an array is imported as its first filled columns. -/
theorem normalize_rowMembers
    {header row : List String}
    (recognised : ∀ name ∈ header, Recognised name)
    (complete : row.length = header.length) :
    normalize numberText (.object (rowMembers header row)) =
      some (jsonItem header row).toMembers := by
  obtain ⟨imported, isImported, flat, fields, favorite⟩ :=
    @importMembers_rowMembers numberText _ _ recognised complete _
      FlatTexts.nil
  have absent :
      ∀ key ∈ ["type", "card", "identity", "fields"],
        lookup (rowMembers header row) key = none := by
    intro key structured
    rw [lookup, Option.map_eq_none_iff, List.find?_eq_none]
    intro member isMember isKey
    rw [decide_eq_true_eq] at isKey
    obtain ⟨⟨name, cell⟩, inRow, shape⟩ := List.mem_map.mp isMember
    subst shape
    subst isKey
    exact (recognised name (List.of_mem_zip inRow).1).not_structured structured
  have texts : loginOf (textAt imported) = jsonItem header row := by
    apply loginOf_congr
    intro key known
    by_cases isFavorite : key = "favorite"
    · rw [if_pos isFavorite, isFavorite, favorite]
      rfl
    · have isField : key ∈ FIELDS := by
        rcases List.mem_append.mp known with isField | isMark
        · exact isField
        · exact absurd (List.mem_singleton.mp isMark) isFavorite
      rw [if_neg isFavorite, fields key isField, firstFilled_cons]
      exact if_pos rfl
  simp only [normalize, spread, carried_eq_nil absent, isImported,
    Option.bind_some, flat.normalizeItemFields_eq, texts]

/-- A blank row is imported from CSV as nothing. -/
theorem isNonEmpty_csvItem_of_blank
    {header row : List String}
    (blank : ∀ cell ∈ row, cell = "") :
    (csvItem header row).isNonEmpty = false := by
  have texts (field : String) :
      (cellsOf header row field).head?.getD "" = "" := by
    cases shape : cellsOf header row field with
    | nil =>
        rfl
    | cons cell rest =>
        apply blank
        have isCell : cell ∈ cellsOf header row field := by
          rw [shape]
          exact List.mem_cons_self
        obtain ⟨⟨name, other⟩, inRow, isOther⟩ := List.mem_map.mp isCell
        rw [← isOther]
        exact (List.of_mem_zip (List.mem_of_mem_filter inRow)).2
  simp [csvItem, loginOf, blankItem, ItemFields.isNonEmpty, texts]

/-- The items that an import keeps. -/
def keptItems (items : List ItemFields) : List Members :=
  (items.filter ItemFields.isNonEmpty).map ItemFields.toMembers

/-- Kept items are the non-empty ones of all items. -/
theorem filter_nonEmpty (items : List ItemFields) :
    (items.map ItemFields.toMembers).filter (nonEmpty numberText) =
      keptItems items := by
  rw [keptItems, List.filter_map]
  congr 2
  funext item
  exact nonEmpty_toMembers item

variable (table : Table)

/-- With a column every line of a table has a cell. -/
theorem Table.rows_nonempty
    (nonempty : table.header ≠ []) :
    ∀ row ∈ table.header :: table.rows, row ≠ [] := by
  intro row member
  rcases List.mem_cons.mp member with isHeader | isRow
  · rw [isHeader]
    exact nonempty
  · intro isEmpty
    have length := table.complete row isRow
    rw [isEmpty] at length
    exact nonempty (List.length_eq_zero_iff.mp length.symm)

/-- The rows that are read from the CSV of a table. -/
theorem csvRows_csv
    {lineEnd : String}
    (isLineEnd : lineEnd = "\n" ∨ lineEnd = "\r\n")
    (nonempty : table.header ≠ []) :
    csvRows (table.csv lineEnd) =
      table.header ::
        table.rows.filter fun row => row.any fun cell => cell ≠ "" := by
  have rowsNonempty := table.rows_nonempty nonempty
  have unchanged {cells : List String}
      (noReturns : ∀ cell ∈ cells, '\r' ∉ cell.toList) :
      cells.map unified = cells := by
    refine (List.map_congr_left (g := id) ?_).trans (List.map_id cells)
    intro cell isCell
    exact unified_eq_iff.mpr (noReturns cell isCell)
  have rowsUnchanged : table.rows.map (List.map unified) = table.rows := by
    refine (List.map_congr_left (g := id) ?_).trans (List.map_id _)
    intro row isRow
    exact unchanged (table.noReturns row isRow)
  have headerUnchanged : table.header.map unified = table.header :=
    unchanged fun name isName => (table.recognised name isName).noReturn
  have headerKept :
      (table.header.any fun cell => cell ≠ "") = true := by
    obtain ⟨name, rest, shape⟩ := List.exists_cons_of_ne_nil nonempty
    rw [shape, List.any_cons, Bool.or_eq_true]
    left
    rw [decide_eq_true_eq]
    intro isEmpty
    have recognised :=
      table.recognised name (by rw [shape]; exact List.mem_cons_self)
    rw [isEmpty] at recognised
    revert recognised
    decide +kernel
  rw [Table.csv, csvRows_csvText _ isLineEnd rowsNonempty, List.map_cons,
    headerUnchanged, rowsUnchanged, List.filter_cons, if_pos headerKept]

/-- What `parseCSV` makes of a table. -/
theorem parseCSV_csv
    {lineEnd : String}
    (isLineEnd : lineEnd = "\n" ∨ lineEnd = "\r\n")
    (nonempty : table.header ≠ []) :
    parseCSV numberText (table.csv lineEnd) =
      some (keptItems (table.rows.map (csvItem table.header))) := by
  simp only [parseCSV, csvRows_csv table isLineEnd nonempty]
  have normalizes :
      ∀ row ∈ table.rows.filter (fun row => row.any fun cell => cell ≠ ""),
        normalize numberText
            (.object (csvRow (table.header.map column) row [])) =
          some (csvItem table.header row).toMembers := by
    intro row isRow
    exact normalize_csvRow table.recognised
      (table.complete row (List.mem_of_mem_filter isRow))
  rw [importRows_map normalizes]
  have toItems :
      (table.rows.filter (fun row => row.any fun cell => cell ≠ "")).map
          (fun row => (csvItem table.header row).toMembers) =
        ((table.rows.filter (fun row => row.any fun cell => cell ≠ "")).map
          (csvItem table.header)).map ItemFields.toMembers := by
    rw [List.map_map]
    rfl
  rw [toItems, filter_nonEmpty, keptItems, keptItems, List.filter_map,
    List.filter_map, List.filter_filter]
  congr 3
  apply List.filter_congr
  intro row _
  by_cases something : (row.any fun cell => cell ≠ "") = true
  · rw [something, Bool.and_true]
  · have blank : ∀ cell ∈ row, cell = "" := by
      intro cell isCell
      by_contra filled
      exact something
        (List.any_eq_true.mpr ⟨cell, isCell, decide_eq_true filled⟩)
    simp only [Function.comp, isNonEmpty_csvItem_of_blank blank,
      Bool.false_and]

/-- What `parseJSON` makes of a table. -/
theorem parseJSON_json (layout : Layout) :
    parseJSON numberText (table.json layout) =
      some (keptItems (table.rows.map (jsonItem table.header))) := by
  have wellFormed :
      WellFormed
        (.array (table.rows.map fun row =>
          .object (rowMembers table.header row))) := by
    rw [WellFormed, wellFormedItems_iff]
    intro value isRow
    obtain ⟨row, isRow, shape⟩ := List.mem_map.mp isRow
    rw [← shape, WellFormed]
    constructor
    · have keys : (rowMembers table.header row).map Prod.fst = table.header := by
        rw [rowMembers, List.map_map]
        exact List.map_fst_zip (table.complete row isRow).ge
      rw [keys]
      exact table.distinct
    · rw [wellFormedMembers_iff]
      intro member isMember
      obtain ⟨entry, _, shape⟩ := List.mem_map.mp isMember
      rw [← shape]
      trivial
  have normalizes :
      ∀ row ∈ table.rows,
        normalize numberText (.object (rowMembers table.header row)) =
          some (jsonItem table.header row).toMembers := by
    intro row isRow
    exact normalize_rowMembers table.recognised (table.complete row isRow)
  have toItems :
      (table.rows.map fun row => (jsonItem table.header row).toMembers) =
        (table.rows.map (jsonItem table.header)).map ItemFields.toMembers := by
    rw [List.map_map]
    rfl
  rw [Table.json, parseJSON, read_writeLaidOut _ _ _ wellFormed]
  dsimp only
  rw [importRows_map normalizes, toItems, filter_nonEmpty]

/-- The text of an array with items ends with its closing bracket. -/
theorem getLast?_writeItemsLaidOut
    (style : EscapeStyle)
    (layout : Layout)
    (depth : Nat)
    (items : List Value) :
    (writeItemsLaidOut style layout depth items).getLast? = some ']' := by
  induction items with
  | nil =>
      simp [writeItemsLaidOut]
  | cons item rest inductionHypothesis =>
      simp [writeItemsLaidOut, List.getLast?_cons, List.getLast?_append,
        inductionHypothesis]

/-- The JSON of a table has brackets at its ends. -/
theorem trim_json (layout : Layout) :
    TextRuns.trim Identifier.isJsSpace (table.json layout).toList =
        (table.json layout).toList ∧
      (table.json layout).toList.head? = some '[' := by
  have ends :
      (table.json layout).toList.head? = some '[' ∧
        (table.json layout).toList.getLast? = some ']' := by
    rw [Table.json, String.toList_ofList]
    cases table.rows with
    | nil =>
        exact ⟨rfl, rfl⟩
    | cons row rest =>
        simp [writeLaidOut, List.getLast?_cons, List.getLast?_append,
          getLast?_writeItemsLaidOut]
  refine ⟨TextRuns.trim_of_bare ⟨?_, ?_⟩, ends.1⟩
  · intro symbol isFirst
    rw [ends.1] at isFirst
    cases isFirst
    decide
  · intro symbol isLast
    rw [ends.2] at isLast
    cases isLast
    decide

/-- Joined texts end as all of them end. -/
theorem getLast?_intercalate
    (separator : String)
    {texts : List String}
    {symbol : Char}
    (nonempty : texts ≠ [])
    (ends : ∀ text ∈ texts, text.toList.getLast? = some symbol) :
    (separator.intercalate texts).toList.getLast? = some symbol := by
  induction texts with
  | nil =>
      exact absurd rfl nonempty
  | cons text rest inductionHypothesis =>
      cases rest with
      | nil =>
          rw [String.intercalate_singleton]
          exact ends text List.mem_cons_self
      | cons second others =>
          have later :=
            inductionHypothesis (List.cons_ne_nil _ _)
              fun other isOther => ends other (List.mem_cons_of_mem _ isOther)
          rw [String.intercalate_cons_cons, String.toList_append,
            List.getLast?_append, later]
          rfl

/-- Joined texts begin as all of them begin. -/
theorem head?_intercalate
    (separator : String)
    {texts : List String}
    {symbol : Char}
    (nonempty : texts ≠ [])
    (begins : ∀ text ∈ texts, text.toList.head? = some symbol) :
    (separator.intercalate texts).toList.head? = some symbol := by
  obtain ⟨text, rest, shape⟩ := List.exists_cons_of_ne_nil nonempty
  have first := begins text (shape ▸ List.mem_cons_self)
  rw [shape]
  cases rest with
  | nil =>
      rw [String.intercalate_singleton]
      exact first
  | cons second others =>
      rw [String.intercalate_cons_cons, String.append_assoc,
        String.toList_append, List.head?_append, first]
      rfl

/-- The CSV of a table has quotation marks at its ends. -/
theorem trim_csv
    (lineEnd : String)
    (nonempty : table.header ≠ []) :
    TextRuns.trim Identifier.isJsSpace (table.csv lineEnd).toList =
        (table.csv lineEnd).toList ∧
      (table.csv lineEnd).toList.head? = some '"' := by
  have rowsNonempty := table.rows_nonempty nonempty
  have cellEnds (cell : String) :
      (quotedCell cell).toList.head? = some '"' ∧
        (quotedCell cell).toList.getLast? = some '"' := by
    simp [quotedCell, List.getLast?_cons, List.getLast?_append]
  have lineEnds :
      ∀ line ∈ (table.header :: table.rows).map (csvLine .everyQuoted),
        line.toList.head? = some '"' ∧ line.toList.getLast? = some '"' := by
    intro line isLine
    obtain ⟨row, isRow, shape⟩ := List.mem_map.mp isLine
    have cells : row.map CellWriter.everyQuoted.write ≠ [] := by
      rw [ne_eq, List.map_eq_nil_iff]
      exact rowsNonempty row isRow
    rw [← shape, csvLine]
    constructor
    · apply head?_intercalate _ cells
      intro text isText
      obtain ⟨cell, _, shape⟩ := List.mem_map.mp isText
      rw [← shape]
      exact (cellEnds cell).1
    · apply getLast?_intercalate _ cells
      intro text isText
      obtain ⟨cell, _, shape⟩ := List.mem_map.mp isText
      rw [← shape]
      exact (cellEnds cell).2
  have lines : (table.header :: table.rows).map (csvLine .everyQuoted) ≠ [] :=
    List.cons_ne_nil _ _
  have ends :
      (table.csv lineEnd).toList.head? = some '"' ∧
        (table.csv lineEnd).toList.getLast? = some '"' :=
    ⟨head?_intercalate _ lines fun line isLine => (lineEnds line isLine).1,
      getLast?_intercalate _ lines fun line isLine => (lineEnds line isLine).2⟩
  refine ⟨TextRuns.trim_of_bare ⟨?_, ?_⟩, ends.1⟩
  · intro symbol isFirst
    rw [ends.1] at isFirst
    cases isFirst
    decide
  · intro symbol isLast
    rw [ends.2] at isLast
    cases isLast
    decide

/-- Without a column a table is only line ends. -/
theorem trim_csv_of_nil
    {lineEnd : String}
    (isLineEnd : lineEnd = "\n" ∨ lineEnd = "\r\n")
    (noColumns : table.header = []) :
    TextRuns.trim Identifier.isJsSpace (table.csv lineEnd).toList = [] := by
  have blankLines (rows : List (List String))
      (blank : ∀ row ∈ rows, row = []) :
      ∀ symbol ∈ (csvText .everyQuoted lineEnd rows).toList,
        Identifier.isJsSpace symbol = true := by
    induction rows with
    | nil =>
        rintro symbol ⟨⟩
    | cons row later inductionHypothesis =>
        have isBlank := blank row List.mem_cons_self
        have laterSpace :=
          inductionHypothesis fun other isOther =>
            blank other (List.mem_cons_of_mem _ isOther)
        subst isBlank
        cases later with
        | nil =>
            rintro symbol ⟨⟩
        | cons second others =>
            intro symbol isSymbol
            have text :
                (csvText .everyQuoted lineEnd ([] :: second :: others)).toList =
                  lineEnd.toList ++
                    (csvText .everyQuoted lineEnd (second :: others)).toList := by
              simp [csvText, csvLine, String.intercalate_cons_cons]
            rw [text, List.mem_append] at isSymbol
            rcases isSymbol with inLineEnd | isLater
            · rcases isLineEnd with isFeed | isPair
              · subst isFeed
                obtain rfl : symbol = '\n' := List.mem_singleton.mp inLineEnd
                rfl
              · subst isPair
                have isEither : symbol ∈ ['\r', '\n'] := inLineEnd
                rcases List.mem_pair.mp isEither with rfl | rfl
                · rfl
                · rfl
            · exact laterSpace symbol isLater
  have allSpace :
      ∀ symbol ∈ (table.csv lineEnd).toList,
        Identifier.isJsSpace symbol = true := by
    apply blankLines
    intro row isRow
    rcases List.mem_cons.mp isRow with isHeader | isRow
    · rw [isHeader, noColumns]
    · have length := table.complete row isRow
      rw [noColumns] at length
      exact List.length_eq_zero_iff.mp length
  rw [TextRuns.trim, List.dropWhile_eq_nil_iff.mpr allSpace]
  rfl

/-- What the import of a table as CSV gives. -/
theorem parseVaultImport_csv
    {lineEnd : String}
    (isLineEnd : lineEnd = "\n" ∨ lineEnd = "\r\n") :
    parseVaultImport numberText (table.csv lineEnd) =
      (some (keptItems (table.rows.map (csvItem table.header)))).filter
        fun items => items ≠ [] := by
  by_cases noColumns : table.header = []
  · have nothing :
        keptItems (table.rows.map (csvItem table.header)) = [] := by
      rw [keptItems, List.map_eq_nil_iff, List.filter_eq_nil_iff]
      intro item isItem
      obtain ⟨row, isRow, shape⟩ := List.mem_map.mp isItem
      have length := table.complete row isRow
      rw [noColumns] at length
      have noCells : row = [] := List.length_eq_zero_iff.mp length
      rw [← shape, isNonEmpty_csvItem_of_blank (by simp [noCells])]
      exact Bool.false_ne_true
    rw [nothing]
    simp only [parseVaultImport, trim_csv_of_nil table isLineEnd noColumns]
    rfl
  · obtain ⟨trimmed, begins⟩ := trim_csv table lineEnd noColumns
    obtain ⟨rest, isText⟩ := List.head?_eq_some_iff.mp begins
    simp only [parseVaultImport, trimmed, String.ofList_toList,
      parseCSV_csv table isLineEnd noColumns]
    rw [isText]
    rfl

/-- What the import of a table as JSON gives. -/
theorem parseVaultImport_json (layout : Layout) :
    parseVaultImport numberText (table.json layout) =
      (some (keptItems (table.rows.map (jsonItem table.header)))).filter
        fun items => items ≠ [] := by
  obtain ⟨trimmed, begins⟩ := trim_json table layout
  obtain ⟨rest, isText⟩ := List.head?_eq_some_iff.mp begins
  simp only [parseVaultImport, trimmed, String.ofList_toList,
    parseJSON_json]
  rw [isText]
  rfl

end Import

/-!
## When the two agree
-/

/--
Two maps give the same elements of a class exactly when they agree wherever the
second one gives an element of the class, if the first one gives such elements
only there.
-/
theorem filter_map_eq_iff
    {elements : List α}
    {first second : α → β}
    {kept : β → Bool}
    (fewer :
      ∀ element ∈ elements,
        kept (first element) = true → kept (second element) = true) :
    (elements.map first).filter kept = (elements.map second).filter kept ↔
      ∀ element ∈ elements,
        kept (second element) = true → first element = second element := by
  induction elements with
  | nil =>
      simp
  | cons element rest inductionHypothesis =>
      have restFewer :=
        fun other isOther => fewer other (List.mem_cons_of_mem element isOther)
      have restIff := inductionHypothesis restFewer
      have atElement := fewer element List.mem_cons_self
      have shorter :
          ((rest.map first).filter kept).length ≤
            ((rest.map second).filter kept).length := by
        rw [List.filter_map, List.filter_map, List.length_map,
          List.length_map, ← List.countP_eq_length_filter,
          ← List.countP_eq_length_filter]
        exact List.countP_mono_left restFewer
      rw [List.forall_mem_cons, List.map_cons, List.map_cons,
        List.filter_cons, List.filter_cons, ← restIff]
      by_cases keptSecond : kept (second element) = true
      · rw [if_pos keptSecond]
        by_cases keptFirst : kept (first element) = true
        · rw [if_pos keptFirst, List.cons_eq_cons]
          exact and_congr_left' ⟨fun same _ => same, fun same => same keptSecond⟩
        · rw [if_neg keptFirst]
          constructor
          · intro same
            have lengths := congrArg List.length same
            rw [List.length_cons] at lengths
            omega
          · rintro ⟨same, _⟩
            exact absurd ((same keptSecond).symm ▸ keptSecond) keptFirst
      · have notFirst : ¬ kept (first element) = true :=
          fun keptFirst => keptSecond (atElement keptFirst)
        rw [if_neg keptSecond, if_neg notFirst]
        exact ⟨fun same => ⟨fun isKept => absurd isKept keptSecond, same⟩,
          And.right⟩

/-- No cell is filled exactly when all of them are empty. -/
theorem firstFilled_eq_empty {cells : List String} :
    firstFilled cells = "" ↔ ∀ cell ∈ cells, cell = "" := by
  induction cells with
  | nil =>
      simp [firstFilled]
  | cons cell rest inductionHypothesis =>
      rw [firstFilled_cons, List.forall_mem_cons, ← inductionHypothesis]
      by_cases isEmpty : cell = ""
      · simp [isEmpty]
      · simp [isEmpty]

/-- The first column is the first filled one exactly when it is filled. -/
theorem firstFilled_iff {header row : List String} {field : String} :
    (cellsOf header row field).head?.getD "" =
        firstFilled (cellsOf header row field) ↔
      FirstFilled header row field := by
  rw [FirstFilled]
  cases cellsOf header row field with
  | nil =>
      simp [firstFilled]
  | cons cell rest =>
      rw [firstFilled_cons, List.head?_cons, Option.getD_some,
        List.forall_mem_cons]
      by_cases isEmpty : cell = ""
      · rw [if_pos isEmpty, isEmpty, eq_comm, firstFilled_eq_empty]
        simp
      · simp [isEmpty]

/-- A login is kept exactly when one of the kept fields has a text. -/
theorem isNonEmpty_loginOf (texts : String → String) :
    (loginOf texts).isNonEmpty = false ↔
      ∀ field ∈ keptFields, texts field = "" := by
  simp [loginOf, blankItem, ItemFields.isNonEmpty, keptFields]
  tauto

/-- A row is dropped exactly when every column of a kept field is empty. -/
theorem isNonEmpty_jsonItem (header row : List String) :
    (jsonItem header row).isNonEmpty = false ↔
      ∀ field ∈ keptFields, ∀ cell ∈ cellsOf header row field, cell = "" := by
  have notFavorite : ∀ field ∈ keptFields, field ≠ "favorite" := by
    decide
  rw [jsonItem, isNonEmpty_loginOf]
  apply forall₂_congr
  intro field isKept
  rw [if_neg (notFavorite field isKept), firstFilled_eq_empty]

/-- A row that the import of JSON drops is dropped from CSV too. -/
theorem isNonEmpty_of_csvItem
    {header row : List String}
    (kept : (csvItem header row).isNonEmpty = true) :
    (jsonItem header row).isNonEmpty = true := by
  rw [← Bool.not_eq_false] at kept ⊢
  intro dropped
  rw [isNonEmpty_jsonItem] at dropped
  apply kept
  rw [csvItem, isNonEmpty_loginOf]
  intro field isKept
  have empty := dropped field isKept
  cases shape : cellsOf header row field with
  | nil =>
      rfl
  | cons cell rest =>
      rw [shape] at empty
      exact empty cell List.mem_cons_self

/-- Logins have the same texts exactly when they are the same. -/
theorem loginOf_eq_iff
    {texts others : String → String}
    (sameFavorite : texts "favorite" = others "favorite") :
    loginOf texts = loginOf others ↔
      ∀ field ∈ FIELDS, texts field = others field := by
  constructor
  · intro same
    simp only [loginOf, ItemFields.mk.injEq, true_and] at same
    simp [FIELDS, same]
  · intro same
    apply loginOf_congr
    intro key known
    rcases List.mem_append.mp known with isField | isFavorite
    · exact same key isField
    · rw [List.mem_singleton.mp isFavorite]
      exact sameFavorite

/-- With one column of favourites its cell is the first and the last. -/
theorem head?_favorites
    {header row : List String}
    (complete : row.length = header.length)
    (oneFavorite :
      (header.filter fun name => column name = some "favorite").length ≤ 1) :
    (cellsOf header row "favorite").head? =
      (cellsOf header row "favorite").getLast? := by
  have names : (header.zip row).map Prod.fst = header :=
    List.map_fst_zip complete.ge
  have few : (cellsOf header row "favorite").length ≤ 1 := by
    rw [← names, List.filter_map, List.length_map] at oneFavorite
    rw [cellsOf, List.length_map]
    exact oneFavorite
  generalize cellsOf header row "favorite" = cells at few
  cases cells with
  | nil =>
      rfl
  | cons cell rest =>
      cases rest with
      | nil =>
          rfl
      | cons second others =>
          simp at few

/-- Where a row is kept, both imports agree on it. -/
theorem rowAgrees_iff
    {header row : List String}
    (complete : row.length = header.length)
    (oneFavorite :
      (header.filter fun name => column name = some "favorite").length ≤ 1) :
    ((jsonItem header row).isNonEmpty = true →
        csvItem header row = jsonItem header row) ↔
      RowAgrees header row := by
  have notFavorite : ∀ field ∈ FIELDS, field ≠ "favorite" := by
    decide
  have same :
      csvItem header row = jsonItem header row ↔
        ∀ field ∈ FIELDS, FirstFilled header row field := by
    rw [csvItem, jsonItem,
      loginOf_eq_iff (by rw [if_pos rfl, head?_favorites complete oneFavorite])]
    apply forall₂_congr
    intro field isField
    rw [if_neg (notFavorite field isField), firstFilled_iff]
  rw [RowAgrees, ← isNonEmpty_jsonItem, ← same, ← Bool.not_eq_true]
  tauto

/-- Imports are the same exactly when their lists of items are. -/
theorem someItems_eq_iff (items others : List Members) :
    ((some items).filter fun items => items ≠ []) =
        ((some others).filter fun items => items ≠ []) ↔
      items = others := by
  rw [Option.filter_some, Option.filter_some]
  by_cases noItems : items = []
  · by_cases noOthers : others = []
    · simp [noItems, noOthers]
    · simp [noItems, noOthers, Ne.symm noOthers]
  · by_cases noOthers : others = []
    · simp [noItems, noOthers]
    · simp [noItems, noOthers]

variable {numberText : String → String}

/--
The imports of a table as CSV and as JSON agree exactly when every row agrees:
nothing in it is kept, or each field has its first column filled in if any
column of the field is.
-/
theorem importsAgree_iff
    (table : Table)
    {lineEnd : String}
    (isLineEnd : lineEnd = "\n" ∨ lineEnd = "\r\n")
    (layout : Layout) :
    parseVaultImport numberText (table.csv lineEnd) =
        parseVaultImport numberText (table.json layout) ↔
      ∀ row ∈ table.rows, RowAgrees table.header row := by
  rw [parseVaultImport_csv table isLineEnd, parseVaultImport_json,
    someItems_eq_iff, keptItems, keptItems,
    (List.map_injective_iff.mpr ItemFields.toMembers_injective).eq_iff,
    filter_map_eq_iff fun row _ => isNonEmpty_of_csvItem]
  apply forall₂_congr
  intro row isRow
  exact rowAgrees_iff (table.complete row isRow) table.oneFavorite

/-- A table in which no field has two columns. -/
def singleColumns : Table where
  header := ["Title", "Login_URI", "FAV"]
  rows := [["Bank", "https://bank.example", "1"], ["", "", ""]]
  recognised := by decide +kernel
  distinct := by decide
  oneFavorite := by decide +kernel
  complete := by decide
  noReturns := by decide

/-- Both imports of that table agree. -/
theorem singleColumns_agree :
    parseVaultImport id (singleColumns.csv "\r\n") =
      parseVaultImport id (singleColumns.json compact) := by
  apply (importsAgree_iff singleColumns (.inr rfl) compact).mpr
  intro row isRow
  right
  unfold FirstFilled
  revert row
  decide +kernel

/-- A table whose first column of names is empty. -/
def emptyName : Table where
  header := ["name", "title", "username"]
  rows := [["", "Bank", "jo"]]
  recognised := by decide +kernel
  distinct := by decide
  oneFavorite := by decide +kernel
  complete := by decide
  noReturns := by decide

/-- The title is imported from JSON, and lost from CSV. -/
theorem emptyName_differs :
    parseVaultImport id (emptyName.csv "\r\n") =
        some [({ blankItem .login with username := "jo" }).toMembers] ∧
      parseVaultImport id (emptyName.json compact) =
        some
          [({ blankItem .login with
              name := "Bank"
              username := "jo" }).toMembers] ∧
      parseVaultImport id (emptyName.csv "\r\n") ≠
        parseVaultImport id (emptyName.json compact) := by
  have asCsv :
      emptyName.rows.map (csvItem emptyName.header) =
        [{ blankItem .login with username := "jo" }] := by
    decide +kernel
  have asJson :
      emptyName.rows.map (jsonItem emptyName.header) =
        [{ blankItem .login with name := "Bank", username := "jo" }] := by
    decide +kernel
  have different :
      { blankItem .login with username := "jo" } ≠
        { blankItem .login with name := "Bank", username := "jo" } := by
    decide
  have importedCsv :
      parseVaultImport id (emptyName.csv "\r\n") =
        some [({ blankItem .login with username := "jo" }).toMembers] := by
    rw [parseVaultImport_csv _ (.inr rfl), asCsv]
    rfl
  have importedJson :
      parseVaultImport id (emptyName.json compact) =
        some
          [({ blankItem .login with
              name := "Bank"
              username := "jo" }).toMembers] := by
    rw [parseVaultImport_json, asJson]
    rfl
  refine ⟨importedCsv, importedJson, ?_⟩
  rw [importedCsv, importedJson]
  intro same
  have items := List.cons.inj (Option.some.inj same)
  exact different (ItemFields.toMembers_injective items.1)

end Passwd.VaultExport
