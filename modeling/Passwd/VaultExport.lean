import Passwd.ItemRoundTrip

namespace Passwd.VaultExport

open Json JavaScript VaultItem

/-!
# Exporting and importing a vault

`portable.ts`: the JSON export, and the import of a file that is an export of this
client, some other JSON or CSV.  Column names of other managers are mapped to the
fields of an item.  A result of `none` is a thrown exception.

Column names are compared in lower case; only ASCII letters have the lower-case
forms that occur in the names.
-/

/-- `FIELDS` -/
def FIELDS : List String :=
  ["name", "url", "username", "password", "totp", "notes", "folder"]

/-- `EXPORT_FORMAT` -/
def EXPORT_FORMAT : String := "passwd-export"

/-- `EXPORT_VERSION` -/
def EXPORT_VERSION : String := "2"

/-- `ALIASES`, with the two members that every object inherits. -/
def ALIASES : List (String × String) :=
  [("name", "name"), ("title", "name"), ("item", "name"), ("url", "url"),
    ("uri", "url"), ("login_uri", "url"), ("website", "url"),
    ("site", "url"), ("username", "username"), ("user", "username"),
    ("user name", "username"), ("login", "username"),
    ("login_username", "username"), ("email", "username"),
    ("password", "password"), ("pass", "password"),
    ("login_password", "password"), ("notes", "notes"), ("note", "notes"),
    ("comment", "notes"), ("comments", "notes"), ("totp", "totp"),
    ("otp", "totp"), ("login_totp", "totp"), ("folder", "folder"),
    ("group", "folder"), ("grouping", "folder"),
    ("constructor", "function Object() \x7b [native code] \x7d"),
    ("__proto__", "[object Object]")]

/-- `FAVORITE_KEYS` -/
def FAVORITE_KEYS : List String := ["favorite", "favourite", "fav"]

/-- `key.trim().toLowerCase()` -/
def lowered (key : String) : String :=
  (String.ofList (TextRuns.trim Identifier.isJsSpace key.toList)).toLower

/-- `ALIASES[lower]` -/
def aliased (lower : String) : Option String :=
  (ALIASES.find? fun entry => entry.1 = lower).map Prod.snd

section Portable

variable (numberText : String → String)

/-!
## Export
-/

/-- `toPlaintextJSON` -/
def toPlaintextJSON (items : List Members) : Option String :=
  (items.mapM fun item => normalizeItemFields numberText (.object item)).map
    fun normalized =>
      String.ofList
        (writeLaidOut Crypto.stringifyEscapes indented 0
          (stringified numberText
            (.object
              [("format", .string EXPORT_FORMAT),
                ("version", .number EXPORT_VERSION),
                ("items", .array (normalized.map .object))])))

/-!
## Import
-/

/-- The structured members that an import carries over. -/
def carried (row : Value) (flat : Members) : List String → Members
  | [] => flat
  | key :: rest =>
      carried row
        (match property row key with
        | none => flat
        | some value => assign flat key value)
        rest

/-- One member of an imported row. -/
def importMember (flat : Members) (key : String) (value : Value) :
    Option Members :=
  let lower := lowered key
  if lower ∈ FAVORITE_KEYS then
    some (assign flat "favorite" value)
  else
    match if key ∈ FIELDS then some key else aliased lower with
    | none => some flat
    | some field =>
        if (lookup flat field).any (truthy numberText) then
          some flat
        else
          (textOr numberText "" (some value)).map fun text =>
            assign flat field (.string text)

/-- The members of an imported row, one after the other. -/
def importMembers (flat : Members) : Members → Option Members
  | [] => some flat
  | (key, value) :: rest =>
      (importMember numberText flat key value).bind fun flat =>
        importMembers flat rest

/-- `normalize`; `null` has no members to read. -/
def normalize (row : Value) : Option Members :=
  match row with
  | .null => none
  | row =>
      (importMembers numberText
        (carried row [] ["type", "card", "identity", "fields"])
        (spread row)).bind fun flat =>
          normalizeItemFields numberText (.object flat)

/-- `nonEmpty` -/
def nonEmpty (item : Members) : Bool :=
  (["name", "username", "password", "url", "notes", "totp"].any fun key =>
      (lookup item key).any (truthy numberText)) ||
    ((lookup item "card").bind fun card => property card "number").any
      (truthy numberText) ||
    (["fullName", "email"].any fun key =>
      ((lookup item "identity").bind fun identity =>
        property identity key).any (truthy numberText)) ||
    match lookup item "fields" with
    | some (.array entries) => entries ≠ []
    | _ => false

/-- The items of the rows of a file that are not empty. -/
def importRows (rows : List Value) : Option (List Members) :=
  (rows.mapM (normalize numberText)).map
    (List.filter (nonEmpty numberText))

/-- `parseJSON` -/
def parseJSON (text : String) : Option (List Members) :=
  match Json.read text with
  | some (.array rows) => importRows numberText rows
  | some data =>
      match property data "items" with
      | some (.array rows) => importRows numberText rows
      | _ => none
  | none => none

/-- What `csvRows` has collected. -/
structure CsvRows where
  rows : List (List String)
  row : List String
  cell : List Char

/-- The cell in progress is finished. -/
def CsvRows.pushCell (state : CsvRows) : CsvRows :=
  { state with
    row := state.row ++ [String.ofList state.cell]
    cell := [] }

/-- The row in progress is finished; a blank row is skipped. -/
def CsvRows.pushRow (state : CsvRows) : CsvRows where
  rows :=
    if state.row.any fun cell => cell ≠ "" then state.rows ++ [state.row]
    else state.rows
  row := []
  cell := []

/-- The characters of a file with its line ends unified. -/
def unifyLineEnds : List Char → List Char
  | [] => []
  | '\r' :: '\n' :: rest => '\n' :: unifyLineEnds rest
  | '\r' :: rest => '\n' :: unifyLineEnds rest
  | symbol :: rest => symbol :: unifyLineEnds rest

/-- The loop of `csvRows`, inside or outside of quotation marks. -/
def scanCsv (quoted : Bool) (state : CsvRows) : List Char → CsvRows
  | [] => state
  | symbol :: rest =>
      if quoted then
        if symbol = '"' then
          match rest with
          | '"' :: rest =>
              scanCsv true { state with cell := state.cell ++ ['"'] } rest
          | rest => scanCsv false state rest
        else
          scanCsv true { state with cell := state.cell ++ [symbol] } rest
      else if symbol = '"' then scanCsv true state rest
      else if symbol = ',' then scanCsv false state.pushCell rest
      else if symbol = '\n' then scanCsv false state.pushCell.pushRow rest
      else scanCsv false { state with cell := state.cell ++ [symbol] } rest

/-- `csvRows` -/
def csvRows (text : String) : List (List String) :=
  let state :=
    scanCsv false { rows := [], row := [], cell := [] }
      (unifyLineEnds text.toList)
  if state.cell ≠ [] ∨ state.row ≠ [] then state.pushCell.pushRow.rows
  else state.rows

/-- The field that a column of a CSV file holds, if any. -/
def column (header : String) : Option String :=
  let lower := lowered header
  match aliased lower with
  | some field => some field
  | none => if lower ∈ FAVORITE_KEYS then some "favorite" else none

/-- The row of a CSV file as an object. -/
def csvRow : List (Option String) → List String → Members → Members
  | [], _, row => row
  | field :: columns, cells, row =>
      csvRow columns cells.tail
        (match field with
        | none => row
        | some field =>
            if (lookup row field).isSome then row
            else assign row field (.string (cells.head?.getD "")))

/-- `parseCSV` -/
def parseCSV (text : String) : Option (List Members) :=
  match csvRows text with
  | [] => some []
  | header :: rows =>
      let columns := header.map column
      importRows numberText
        (rows.map fun cells => .object (csvRow columns cells []))

/-- `parseVaultImport` -/
def parseVaultImport (text : String) : Option (List Members) :=
  let trimmed :=
    String.ofList (TextRuns.trim Identifier.isJsSpace text.toList)
  match trimmed.toList with
  | [] => none
  | first :: _ =>
      let items :=
        if first = '{' ∨ first = '[' then parseJSON numberText trimmed
        else parseCSV numberText trimmed
      items.filter fun items => items ≠ []

end Portable

end Passwd.VaultExport
