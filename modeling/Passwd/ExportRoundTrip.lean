import Passwd.VaultExport
import Passwd.ItemNormalization

namespace Passwd.VaultExport

open Json JavaScript VaultItem

/-!
# A JSON export is read back

The declared types of an item, the objects that represent them, and the items that
an import of an export gives back.
-/

/-- `ItemType` -/
inductive ItemType where
  | login
  | note
  | card
  | identity
deriving DecidableEq

/-- The spelling of a type. -/
def ItemType.name : ItemType → String
  | .login => "login"
  | .note => "note"
  | .card => "card"
  | .identity => "identity"

/-- `CustomField` -/
structure CustomField where
  label : String
  value : String
  hidden : Option Bool
deriving DecidableEq

/-- `CardDetails` -/
structure CardDetails where
  cardholder : String
  number : String
  expMonth : String
  expYear : String
  cvv : String
deriving DecidableEq

/-- `IdentityDetails` -/
structure IdentityDetails where
  fullName : String
  email : String
  phone : String
  address : String
  company : String
deriving DecidableEq

/-- `ItemFields` -/
structure ItemFields where
  type : ItemType
  name : String
  username : String
  password : String
  url : String
  totp : String
  notes : String
  card : CardDetails
  identity : IdentityDetails
  fields : List CustomField
  favorite : Bool
  folder : String
deriving DecidableEq

/-- The object of a custom field. -/
def CustomField.toValue (field : CustomField) : Value :=
  .object
    ([("label", .string field.label), ("value", .string field.value)] ++
      match field.hidden with
      | none => []
      | some hidden => [("hidden", .bool hidden)])

/-- The object of a card. -/
def CardDetails.toValue (card : CardDetails) : Value :=
  .object
    [("cardholder", .string card.cardholder), ("number", .string card.number),
      ("expMonth", .string card.expMonth), ("expYear", .string card.expYear),
      ("cvv", .string card.cvv)]

/-- The object of an identity. -/
def IdentityDetails.toValue (identity : IdentityDetails) : Value :=
  .object
    [("fullName", .string identity.fullName),
      ("email", .string identity.email), ("phone", .string identity.phone),
      ("address", .string identity.address),
      ("company", .string identity.company)]

/-- The object of an item, with its keys in the order of `blankFields`. -/
def ItemFields.toMembers (item : ItemFields) : Members :=
  [("type", .string item.type.name), ("name", .string item.name),
    ("username", .string item.username), ("password", .string item.password),
    ("url", .string item.url), ("totp", .string item.totp),
    ("notes", .string item.notes), ("card", item.card.toValue),
    ("identity", item.identity.toValue),
    ("fields", .array (item.fields.map CustomField.toValue)),
    ("favorite", .bool item.favorite), ("folder", .string item.folder)]

/-- A custom field whose mark is present only when it is set. -/
def CustomField.marked (field : CustomField) : CustomField :=
  { field with hidden := if field.hidden = some true then some true else none }

/-- An item whose custom fields are marked that way. -/
def ItemFields.marked (item : ItemFields) : ItemFields :=
  { item with fields := item.fields.map CustomField.marked }

/-- Whether an item has a value that `nonEmpty` looks at. -/
def ItemFields.isNonEmpty (item : ItemFields) : Bool :=
  item.name ≠ "" || item.username ≠ "" || item.password ≠ "" ||
    item.url ≠ "" || item.notes ≠ "" || item.totp ≠ "" ||
    item.card.number ≠ "" || item.identity.fullName ≠ "" ||
    item.identity.email ≠ "" || item.fields ≠ []

section RoundTrip

variable {numberText : String → String}

/-- A custom field is normalized to its marked form. -/
theorem customField_toValue (field : CustomField) :
    customField numberText field.toValue = some field.marked.toValue := by
  obtain ⟨label, value, hidden⟩ := field
  rcases hidden with _ | _ | _
  all_goals simp [customField, CustomField.toValue, CustomField.marked,
    property, lookup_cons, textOr, text, truthy]

/-- Custom fields are normalized to their marked form. -/
theorem customFields_map (fields : List CustomField) :
    customFields numberText (some (.array (fields.map CustomField.toValue))) =
      some (.array
        ((fields.map CustomField.marked).map CustomField.toValue)) := by
  have structured :
      (fields.map CustomField.toValue).filter isObject =
        fields.map CustomField.toValue := by
    rw [List.filter_eq_self]
    intro entry member
    obtain ⟨field, -, rfl⟩ := List.mem_map.mp member
    rfl
  have traversed :
      (fields.map CustomField.toValue).mapM (customField numberText) =
        some ((fields.map CustomField.marked).map CustomField.toValue) := by
    induction fields with
    | nil =>
        rfl
    | cons field rest inductionHypothesis =>
        have later :
            (rest.map CustomField.toValue).filter isObject =
              rest.map CustomField.toValue :=
          (List.cons.inj structured).2
        simp only [List.map_cons, List.mapM_cons, customField_toValue,
          inductionHypothesis later]
        rfl
  simp only [customFields, structured, traversed, Option.map_some]

/-- Normalizing a well-typed item marks its custom fields. -/
theorem normalizeItemFields_toMembers (item : ItemFields) :
    normalizeItemFields numberText (.object item.toMembers) =
      some item.marked.toMembers := by
  have overlaid : assignAll blankFields item.toMembers = item.toMembers :=
    @assignAll_of_sameKeys [] blankFields item.toMembers rfl (by
      change (blankFields.map Prod.fst).Nodup
      decide)
  have kind : itemType (.object item.toMembers) = .string item.type.name := by
    obtain ⟨type, _⟩ := item
    cases type
    all_goals rfl
  have card :
      completed blankCard (property (.object item.toMembers) "card") =
        item.card.toValue := rfl
  have identity :
      completed blankIdentity (property (.object item.toMembers) "identity") =
        item.identity.toValue := rfl
  have fields :
      customFields numberText (property (.object item.toMembers) "fields") =
        some (.array
          ((item.fields.map CustomField.marked).map CustomField.toValue)) :=
    customFields_map item.fields
  have flag :
      favorite numberText (.object item.toMembers) = some item.favorite :=
    favorite_of_bool rfl
  simp only [normalizeItemFields, spread, overlaid, kind, card, identity,
    fields, flag]
  rfl

/-- What an import makes of the members of a well-typed item. -/
def ItemFields.flat (item : ItemFields) : Members :=
  [("type", .string item.type.name), ("card", item.card.toValue),
    ("identity", item.identity.toValue),
    ("fields", .array (item.fields.map CustomField.toValue)),
    ("name", .string item.name), ("username", .string item.username),
    ("password", .string item.password), ("url", .string item.url),
    ("totp", .string item.totp), ("notes", .string item.notes),
    ("favorite", .bool item.favorite), ("folder", .string item.folder)]

/-- The keys of an item are in lower case. -/
private theorem lowered_keys :
    ∀ key ∈ blankFields.map Prod.fst, lowered key = key := by
  decide +kernel

/-- The first text of a field is taken. -/
theorem importMember_text
    {flat : Members}
    {key : String}
    (isField : key ∈ FIELDS)
    (isNew : lookup flat key = none)
    (value : String) :
    importMember numberText flat key (.string value) =
      some (assign flat key (.string value)) := by
  have facts :
      key ∈ blankFields.map Prod.fst ∧ key ∉ FAVORITE_KEYS := by
    clear isNew
    revert key
    decide
  obtain ⟨declared, notFavorite⟩ := facts
  simp [importMember, lowered_keys key declared, notFavorite, isField, isNew,
    textOr, text]

/-- The structured members are not texts of an item. -/
theorem importMember_structured
    {key : String}
    (structured : key ∈ ["type", "card", "identity", "fields"])
    (flat : Members)
    (value : Value) :
    importMember numberText flat key value = some flat := by
  have facts :
      key ∈ blankFields.map Prod.fst ∧ key ∉ FAVORITE_KEYS ∧ key ∉ FIELDS ∧
        aliased key = none := by
    revert key
    decide
  obtain ⟨declared, notFavorite, notField, notAliased⟩ := facts
  simp [importMember, lowered_keys key declared, notFavorite, notField,
    notAliased]

/-- A mark of a favourite is taken as it is. -/
theorem importMember_favorite (flat : Members) (value : Value) :
    importMember numberText flat "favorite" value =
      some (assign flat "favorite" value) := by
  have isFavorite : "favorite" ∈ FAVORITE_KEYS := by decide
  simp [importMember, lowered_keys "favorite" (by decide), isFavorite]

/-- An import maps the members of a well-typed item to themselves. -/
theorem importMembers_toMembers (item : ItemFields) :
    importMembers numberText
        (carried (.object item.toMembers) []
          ["type", "card", "identity", "fields"])
        item.toMembers =
      some item.flat := by
  have start :
      carried (.object item.toMembers) []
          ["type", "card", "identity", "fields"] =
        [("type", .string item.type.name), ("card", item.card.toValue),
          ("identity", item.identity.toValue),
          ("fields", .array (item.fields.map CustomField.toValue))] := rfl
  rw [start]
  simp only [ItemFields.toMembers, importMembers]
  rw [importMember_structured (by decide), Option.bind_some,
    importMember_text (by decide) rfl, Option.bind_some,
    importMember_text (by decide) rfl, Option.bind_some,
    importMember_text (by decide) rfl, Option.bind_some,
    importMember_text (by decide) rfl, Option.bind_some,
    importMember_text (by decide) rfl, Option.bind_some,
    importMember_text (by decide) rfl, Option.bind_some,
    importMember_structured (by decide), Option.bind_some,
    importMember_structured (by decide), Option.bind_some,
    importMember_structured (by decide), Option.bind_some,
    importMember_favorite, Option.bind_some,
    importMember_text (by decide) rfl]
  rfl

/-- An import of a well-typed item normalizes the same members. -/
theorem normalizeItemFields_flat (item : ItemFields) :
    normalizeItemFields numberText (.object item.flat) =
      some item.marked.toMembers := by
  have kind : itemType (.object item.flat) = .string item.type.name := by
    obtain ⟨type, _⟩ := item
    cases type
    all_goals rfl
  have fields :
      customFields numberText (property (.object item.flat) "fields") =
        some (.array
          ((item.fields.map CustomField.marked).map CustomField.toValue)) :=
    customFields_map item.fields
  have flag :
      favorite numberText (.object item.flat) = some item.favorite :=
    favorite_of_bool rfl
  have overlaid : assignAll blankFields item.flat = item.toMembers := by
    simp only [assignAll, blankFields, ItemFields.flat, ItemFields.toMembers,
      List.foldl_cons, List.foldl_nil, assign, String.reduceEq, ↓reduceIte]
  have card :
      completed blankCard (property (.object item.flat) "card") =
        item.card.toValue := rfl
  have identity :
      completed blankIdentity (property (.object item.flat) "identity") =
        item.identity.toValue := rfl
  simp only [normalizeItemFields, spread, overlaid, kind, card, identity,
    fields, flag]
  rfl

/-- A well-typed item is imported with its custom fields marked. -/
theorem normalize_toMembers (item : ItemFields) :
    normalize numberText (.object item.toMembers) =
      some item.marked.toMembers := by
  simp only [normalize, spread, importMembers_toMembers, Option.bind_some,
    normalizeItemFields_flat]

/-- `nonEmpty` of a well-typed item. -/
theorem nonEmpty_toMembers (item : ItemFields) :
    nonEmpty numberText item.toMembers = item.isNonEmpty := by
  have mapped :
      item.fields.map CustomField.toValue = [] ↔ item.fields = [] :=
    List.map_eq_nil_iff
  simp [nonEmpty, ItemFields.isNonEmpty, ItemFields.toMembers, lookup_cons,
    CardDetails.toValue, IdentityDetails.toValue, property, truthy, mapped,
    Bool.or_assoc]

/-!
## The text of an export
-/

/-- The text of a nonempty object ends with its closing brace. -/
theorem getLast?_writeMembersLaidOut
    (style : EscapeStyle)
    (layout : Layout)
    (depth : Nat)
    (members : Members) :
    (writeMembersLaidOut style layout depth members).getLast? = some '}' := by
  induction members with
  | nil =>
      simp [writeMembersLaidOut]
  | cons member rest inductionHypothesis =>
      obtain ⟨key, value⟩ := member
      simp [writeMembersLaidOut, List.getLast?_cons, List.getLast?_append,
        inductionHypothesis]

/-- The text of a nonempty object has no space at its ends. -/
theorem trim_writeLaidOut
    (style : EscapeStyle)
    (layout : Layout)
    (depth : Nat)
    (member : String × Value)
    (rest : Members) :
    TextRuns.trim Identifier.isJsSpace
        (writeLaidOut style layout depth (.object (member :: rest))) =
      writeLaidOut style layout depth (.object (member :: rest)) := by
  obtain ⟨key, value⟩ := member
  have brace : Identifier.isJsSpace '{' = false := by decide
  have closing : Identifier.isJsSpace '}' = false := by decide
  apply TextRuns.trim_of_bare
  constructor
  · intro symbol first
    simp only [writeLaidOut, List.head?_cons, Option.some.injEq] at first
    rw [← first]
    exact brace
  · intro symbol last
    simp only [writeLaidOut, List.getLast?_cons, List.getLast?_append,
      getLast?_writeMembersLaidOut] at last
    simp at last
    rw [← last]
    exact closing

/-- A custom field is well formed and without numbers. -/
theorem CustomField.wellFormed (field : CustomField) :
    WellFormed field.toValue ∧ VaultItem.Finite numberText field.toValue := by
  obtain ⟨label, value, hidden⟩ := field
  rcases hidden with _ | hidden
  all_goals simp [CustomField.toValue, WellFormed, WellFormedMembers,
    VaultItem.Finite, FiniteMembers]

/-- A well-typed item is well formed and without numbers. -/
theorem ItemFields.wellFormed (item : ItemFields) :
    WellFormed (.object item.toMembers) ∧
      VaultItem.Finite numberText (.object item.toMembers) := by
  have fields :
      ∀ entry ∈ item.fields.map CustomField.toValue,
        WellFormed entry ∧ VaultItem.Finite numberText entry := by
    intro entry member
    obtain ⟨field, -, rfl⟩ := List.mem_map.mp member
    exact field.wellFormed
  have wellFormed : WellFormedItems (item.fields.map CustomField.toValue) :=
    wellFormedItems_iff.mpr fun entry member => (fields entry member).1
  have finite :
      FiniteItems numberText (item.fields.map CustomField.toValue) :=
    (finiteItems_iff numberText).mpr fun entry member =>
      (fields entry member).2
  constructor
  · simp [ItemFields.toMembers, CardDetails.toValue, IdentityDetails.toValue,
      WellFormed, WellFormedMembers, wellFormed]
  · simp [ItemFields.toMembers, CardDetails.toValue, IdentityDetails.toValue,
      VaultItem.Finite, FiniteMembers, finite]

/-- Marking custom fields twice is marking them once. -/
theorem ItemFields.marked_marked (item : ItemFields) :
    item.marked.marked = item.marked := by
  have twice :
      CustomField.marked ∘ CustomField.marked = CustomField.marked := by
    funext field
    obtain ⟨label, value, hidden⟩ := field
    rcases hidden with _ | _ | _
    all_goals rfl
  simp [ItemFields.marked, twice]

/-- Marking custom fields keeps an item empty or nonempty. -/
theorem ItemFields.isNonEmpty_marked (item : ItemFields) :
    item.marked.isNonEmpty = item.isNonEmpty := by
  obtain ⟨_, _, _, _, _, _, _, _, _, fields, _, _⟩ := item
  cases fields with
  | nil => rfl
  | cons field rest => rfl

/-- What an export holds, as its text says it. -/
def exported (items : List ItemFields) : Value :=
  .object
    [("format", .string EXPORT_FORMAT), ("version", .number EXPORT_VERSION),
      ("items",
        .array
          (items.map fun item => .object item.marked.toMembers))]

/-- The text of an export of well-typed items. -/
theorem toPlaintextJSON_toMembers (items : List ItemFields) :
    toPlaintextJSON numberText (items.map ItemFields.toMembers) =
      some
        (String.ofList
          (writeLaidOut Crypto.stringifyEscapes indented 0
            (stringified numberText (exported items)))) := by
  have normalized :
      (items.map ItemFields.toMembers).mapM
          (fun item => normalizeItemFields numberText (.object item)) =
        some (items.map fun item => item.marked.toMembers) := by
    induction items with
    | nil =>
        rfl
    | cons item rest inductionHypothesis =>
        simp only [List.map_cons, List.mapM_cons,
          normalizeItemFields_toMembers, inductionHypothesis]
        rfl
  simp only [toPlaintextJSON, normalized, Option.map_some, List.map_map]
  rfl

/-- Only the version of an export could be written in another way. -/
theorem stringified_exported (items : List ItemFields) :
    ∃ version,
      stringified numberText (exported items) =
          .object
            [("format", .string EXPORT_FORMAT), ("version", version),
              ("items",
                .array
                  (items.map fun item => .object item.marked.toMembers))] ∧
        WellFormed (stringified numberText (exported items)) := by
  have rows :
      ∀ row ∈ items.map fun item => Value.object item.marked.toMembers,
        WellFormed row ∧ VaultItem.Finite numberText row := by
    intro row member
    obtain ⟨item, -, rfl⟩ := List.mem_map.mp member
    exact item.marked.wellFormed
  have unchanged :
      stringifiedItems numberText
          (items.map fun item => .object item.marked.toMembers) =
        items.map fun item => .object item.marked.toMembers :=
    (stringifiedItems_eq numberText _).mpr
      ((finiteItems_iff numberText).mpr fun row member => (rows row member).2)
  refine ⟨stringified numberText (.number EXPORT_VERSION), ?_, ?_⟩
  · simp only [exported, stringified, stringifiedMembers, unchanged]
  · apply wellFormed_stringified
    have formed :
        WellFormedItems
          (items.map fun item => .object item.marked.toMembers) :=
      wellFormedItems_iff.mpr fun row member => (rows row member).1
    have version : WellFormed (.number EXPORT_VERSION) := by
      constructor
      · decide
      · decide
    exact ⟨by simp, trivial, version, formed, trivial⟩

/-- Rows that are all imported are imported in their order. -/
theorem importRows_map
    {items : List α}
    {row : α → Value}
    {imported : α → Members}
    (normalizes :
      ∀ item ∈ items,
        normalize numberText (row item) = some (imported item)) :
    importRows numberText (items.map row) =
      some ((items.map imported).filter (nonEmpty numberText)) := by
  have normalized :
      (items.map row).mapM (normalize numberText) =
        some (items.map imported) := by
    induction items with
    | nil =>
        rfl
    | cons item rest inductionHypothesis =>
        have first := normalizes item List.mem_cons_self
        have later :=
          inductionHypothesis fun other member =>
            normalizes other (List.mem_cons_of_mem _ member)
        simp only [List.map_cons, List.mapM_cons, first, later]
        rfl
  rw [importRows, normalized, Option.map_some]

/-- The rows of an export are imported with their custom fields marked. -/
theorem importRows_toMembers (items : List ItemFields) :
    importRows numberText
        (items.map fun item => .object item.marked.toMembers) =
      some
        ((items.filter ItemFields.isNonEmpty).map fun item =>
          item.marked.toMembers) := by
  have normalizes :
      ∀ item ∈ items,
        normalize numberText (.object item.marked.toMembers) =
          some item.marked.toMembers := by
    intro item _
    rw [normalize_toMembers, ItemFields.marked_marked]
  rw [importRows_map normalizes, List.filter_map]
  congr 3
  funext item
  simp only [Function.comp, nonEmpty_toMembers, ItemFields.isNonEmpty_marked]

/-- What the import of an export gives back. -/
theorem parseVaultImport_toPlaintextJSON (items : List ItemFields) :
    (toPlaintextJSON numberText (items.map ItemFields.toMembers)).bind
        (parseVaultImport numberText) =
      (some
        ((items.filter ItemFields.isNonEmpty).map fun item =>
          item.marked.toMembers)).filter fun items => items ≠ [] := by
  obtain ⟨version, shape, wellFormed⟩ :=
    @stringified_exported numberText items
  have parsed :=
    read_writeLaidOut Crypto.stringifyEscapes indented 0 wellFormed
  have trimmed :
      TextRuns.trim Identifier.isJsSpace
          (writeLaidOut Crypto.stringifyEscapes indented 0
            (stringified numberText (exported items))) =
        writeLaidOut Crypto.stringifyEscapes indented 0
          (stringified numberText (exported items)) := by
    rw [shape]
    exact trim_writeLaidOut _ _ _ _ _
  obtain ⟨tail, starts⟩ :
      ∃ tail,
        writeLaidOut Crypto.stringifyEscapes indented 0
            (stringified numberText (exported items)) = '{' :: tail := by
    rw [shape]
    exact ⟨_, rfl⟩
  have rows :
      property (stringified numberText (exported items)) "items" =
        some (.array
          (items.map fun item => .object item.marked.toMembers)) := by
    rw [shape]
    rfl
  have object :
      ∀ entries, stringified numberText (exported items) ≠ .array entries := by
    intro entries isArray
    rw [shape] at isArray
    cases isArray
  have items :
      parseJSON numberText
          (String.ofList
            (writeLaidOut Crypto.stringifyEscapes indented 0
              (stringified numberText (exported items)))) =
        some
          ((items.filter ItemFields.isNonEmpty).map fun item =>
            item.marked.toMembers) := by
    unfold parseJSON
    rw [parsed]
    split
    · rename_i entries isArray
      exact absurd (Option.some.inj isArray) (object entries)
    · rename_i data _ isData
      rw [← Option.some.inj isData, rows]
      exact importRows_toMembers items
    · rename_i failed
      cases failed
  rw [toPlaintextJSON_toMembers, Option.bind_some, parseVaultImport]
  simp only [String.toList_ofList, trimmed, items]
  rw [starts]
  rfl

/-- The name of a type determines it. -/
theorem ItemType.name_injective : Function.Injective ItemType.name := by
  intro first second same
  cases first
  all_goals
    cases second
    all_goals first
      | rfl
      | exact absurd same (by decide)

/-- The object of a custom field determines it. -/
theorem CustomField.toValue_injective :
    Function.Injective CustomField.toValue := by
  rintro ⟨label, value, hidden⟩ ⟨otherLabel, otherValue, otherHidden⟩ same
  rcases hidden with _ | hidden
  · rcases otherHidden with _ | otherHidden
    · simpa [CustomField.toValue] using same
    · simp [CustomField.toValue] at same
  · rcases otherHidden with _ | otherHidden
    · simp [CustomField.toValue] at same
    · simpa [CustomField.toValue, and_assoc] using same

/-- The members of an item determine it. -/
theorem ItemFields.toMembers_injective :
    Function.Injective ItemFields.toMembers := by
  rintro ⟨type, _, _, _, _, _, _, card, identity, fields, _, _⟩
    ⟨otherType, _, _, _, _, _, _, otherCard, otherIdentity, otherFields, _, _⟩
    same
  obtain ⟨_, _, _, _, _⟩ := card
  obtain ⟨_, _, _, _, _⟩ := otherCard
  obtain ⟨_, _, _, _, _⟩ := identity
  obtain ⟨_, _, _, _, _⟩ := otherIdentity
  simp only [ItemFields.toMembers, CardDetails.toValue,
    IdentityDetails.toValue, List.cons.injEq, Prod.mk.injEq, true_and,
    Value.string.injEq, Value.object.injEq, Value.array.injEq,
    Value.bool.injEq, and_true] at same
  obtain ⟨sameType, rfl, rfl, rfl, rfl, rfl, rfl, ⟨rfl, rfl, rfl, rfl, rfl⟩,
    ⟨rfl, rfl, rfl, rfl, rfl⟩, sameFields, rfl, rfl⟩ := same
  cases ItemType.name_injective sameType
  cases List.map_injective_iff.mpr CustomField.toValue_injective sameFields
  rfl

/-- An item without a mark that is written although it is not set. -/
def ItemFields.IsPlain (item : ItemFields) : Prop :=
  ∀ field ∈ item.fields, field.hidden ≠ some false

/-- Marking custom fields changes the items that are not plain. -/
theorem ItemFields.marked_eq_iff (item : ItemFields) :
    item.marked = item ↔ item.IsPlain := by
  have each (field : CustomField) :
      field.marked = field ↔ field.hidden ≠ some false := by
    obtain ⟨label, value, hidden⟩ := field
    rcases hidden with _ | _ | _
    all_goals simp [CustomField.marked]
  have all :
      item.fields.map CustomField.marked = item.fields ↔ item.IsPlain := by
    have unchanged :
        item.fields.map CustomField.marked = item.fields.map id ↔
          ∀ field ∈ item.fields, field.marked = field :=
      List.map_inj_left
    rw [List.map_id] at unchanged
    rw [unchanged]
    exact forall₂_congr fun field _ => each field
  rw [← all]
  constructor
  · intro same
    exact congrArg ItemFields.fields same
  · intro same
    unfold ItemFields.marked
    rw [same]

/--
An export is read back unchanged exactly when every item has a value at which
the import looks and no custom field spells out that it is not hidden.
-/
theorem importsExport_iff
    {items : List ItemFields}
    (nonempty : items ≠ []) :
    (toPlaintextJSON numberText (items.map ItemFields.toMembers)).bind
          (parseVaultImport numberText) =
        some (items.map ItemFields.toMembers) ↔
      ∀ item ∈ items, item.isNonEmpty = true ∧ item.IsPlain := by
  rw [parseVaultImport_toPlaintextJSON]
  constructor
  · intro imported
    have same := (Option.filter_eq_some_iff.mp imported).1
    have images := Option.some.inj same
    have lengths := congrArg List.length images
    rw [List.length_map, List.length_map] at lengths
    have nonEmpty := List.length_filter_eq_length_iff.mp lengths
    rw [List.filter_eq_self.mpr nonEmpty] at images
    intro item member
    refine ⟨nonEmpty item member, ?_⟩
    have isSame := List.map_inj_left.mp images item member
    exact item.marked_eq_iff.mp (ItemFields.toMembers_injective isSame)
  · intro carried
    have kept : items.filter ItemFields.isNonEmpty = items :=
      List.filter_eq_self.mpr fun item member => (carried item member).1
    have images :
        (items.map fun item => item.marked.toMembers) =
          items.map ItemFields.toMembers := by
      apply List.map_congr_left
      intro item member
      rw [item.marked_eq_iff.mpr (carried item member).2]
    rw [kept, images]
    simp [nonempty]

/-- `blankFields` -/
def blankItem (type : ItemType) : ItemFields where
  type := type
  name := ""
  username := ""
  password := ""
  url := ""
  totp := ""
  notes := ""
  card :=
    { cardholder := "", number := "", expMonth := "", expYear := "",
      cvv := "" }
  identity :=
    { fullName := "", email := "", phone := "", address := "", company := "" }
  fields := []
  favorite := false
  folder := ""

/-- A card of which only the holder and the date are filled in. -/
def numberlessCard : ItemFields :=
  { blankItem .card with
    card :=
      { cardholder := "A B", number := "", expMonth := "12",
        expYear := "2030", cvv := "123" } }

/-- An export of that card alone cannot be imported. -/
theorem numberlessCard_not_imported :
    (toPlaintextJSON id [numberlessCard.toMembers]).bind
        (parseVaultImport id) = none := by
  have imported := @parseVaultImport_toPlaintextJSON id [numberlessCard]
  rw [List.map_singleton] at imported
  rw [imported]
  rfl

/-- A login with a hidden custom field. -/
def loginWithPin : ItemFields :=
  { blankItem .login with
    name := "GitHub"
    fields := [{ label := "PIN", value := "9876", hidden := some true }] }

/-- An export of that login is read back unchanged. -/
theorem loginWithPin_imported :
    (toPlaintextJSON id ([loginWithPin].map ItemFields.toMembers)).bind
          (parseVaultImport id) =
        some ([loginWithPin].map ItemFields.toMembers) := by
  apply (importsExport_iff (by decide)).mpr
  intro item member
  rw [List.mem_singleton.mp member]
  refine ⟨by decide, ?_⟩
  intro field isField
  rw [List.mem_singleton.mp isField]
  decide

end RoundTrip

end Passwd.VaultExport
