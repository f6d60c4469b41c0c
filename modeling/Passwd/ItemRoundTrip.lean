import Passwd.ItemShape
import Passwd.KeyHierarchy
import Passwd.VaultListing

namespace Passwd.VaultItem

open Json JavaScript VaultListing

/-!
# Loading an item and saving it back

What an item that was only opened and saved again, without an edit, still says:
`loadVault` parses and normalizes the payload, `saveItem` takes the id off and
stringifies the rest.
-/

section Stringify

variable (numberText : String → String)

/-- A number that no finite value represents. -/
def overflows (literal : String) : Bool :=
  numberText literal = "Infinity" || numberText literal = "-Infinity"

mutual

/-- The value that `JSON.stringify` writes: an infinite number is `null`. -/
def stringified : Value → Value
  | .number literal => if overflows numberText literal then .null
      else .number literal
  | .array items => .array (stringifiedItems items)
  | .object members => .object (stringifiedMembers members)
  | value => value

/-- The same for every item. -/
def stringifiedItems : List Value → List Value
  | [] => []
  | item :: rest => stringified item :: stringifiedItems rest

/-- The same for the value of every member. -/
def stringifiedMembers : Members → Members
  | [] => []
  | (key, value) :: rest => (key, stringified value) :: stringifiedMembers rest

end

mutual

/-- No number of a value overflows. -/
def Finite : Value → Prop
  | .number literal => overflows numberText literal = false
  | .array items => FiniteItems items
  | .object members => FiniteMembers members
  | _ => True

/-- No number of an item overflows. -/
def FiniteItems : List Value → Prop
  | [] => True
  | item :: rest => Finite item ∧ FiniteItems rest

/-- No number of a member overflows. -/
def FiniteMembers : Members → Prop
  | [] => True
  | (_, value) :: rest => Finite value ∧ FiniteMembers rest

end

mutual

/-- A value is written as it is when none of its numbers overflows. -/
theorem stringified_eq :
    ∀ value : Value,
      stringified numberText value = value ↔ Finite numberText value
  | .null => by simp [stringified, Finite]
  | .bool flag => by simp [stringified, Finite]
  | .string text => by simp [stringified, Finite]
  | .number literal => by
      cases infinite : overflows numberText literal with
      | true => simp [stringified, Finite, infinite]
      | false => simp [stringified, Finite, infinite]
  | .array items => by
      simp only [stringified, Finite, Value.array.injEq]
      exact stringifiedItems_eq items
  | .object members => by
      simp only [stringified, Finite, Value.object.injEq]
      exact stringifiedMembers_eq members

/-- Items are written as they are when no number overflows. -/
theorem stringifiedItems_eq :
    ∀ items : List Value,
      stringifiedItems numberText items = items ↔ FiniteItems numberText items
  | [] => by simp [stringifiedItems, FiniteItems]
  | item :: rest => by
      simp only [stringifiedItems, FiniteItems, List.cons.injEq,
        stringified_eq item, stringifiedItems_eq rest]

/-- Members are written as they are when no number overflows. -/
theorem stringifiedMembers_eq :
    ∀ members : Members,
      stringifiedMembers numberText members = members ↔
        FiniteMembers numberText members
  | [] => by simp [stringifiedMembers, FiniteMembers]
  | (key, value) :: rest => by
      simp only [stringifiedMembers, FiniteMembers, List.cons.injEq,
        Prod.mk.injEq, true_and, stringified_eq value,
        stringifiedMembers_eq rest]

end

/-- The items of a list are finite when each of them is. -/
theorem finiteItems_iff {items : List Value} :
    FiniteItems numberText items ↔
      ∀ item ∈ items, Finite numberText item := by
  induction items with
  | nil =>
      simp [FiniteItems]
  | cons item rest inductionHypothesis =>
      simp [FiniteItems, inductionHypothesis]

/-- The members of an object are finite when each of them is. -/
theorem finiteMembers_iff {members : Members} :
    FiniteMembers numberText members ↔
      ∀ member ∈ members, Finite numberText member.2 := by
  induction members with
  | nil =>
      simp [FiniteMembers]
  | cons member rest inductionHypothesis =>
      simp [FiniteMembers, inductionHypothesis]

/-- Writing keeps the keys of an object. -/
theorem keys_stringifiedMembers (members : Members) :
    (stringifiedMembers numberText members).map Prod.fst =
      members.map Prod.fst := by
  induction members with
  | nil =>
      rfl
  | cons member rest inductionHypothesis =>
      simp [stringifiedMembers, inductionHypothesis]

/-- The value of a key is written where it was. -/
theorem lookup_stringifiedMembers (members : Members) (key : String) :
    lookup (stringifiedMembers numberText members) key =
      (lookup members key).map (stringified numberText) := by
  induction members with
  | nil =>
      rfl
  | cons member rest inductionHypothesis =>
      obtain ⟨other, value⟩ := member
      simp only [stringifiedMembers, lookup_cons, inductionHypothesis]
      split
      · rfl
      · rfl

mutual

/-- What is written is well formed. -/
theorem wellFormed_stringified :
    ∀ value : Value,
      WellFormed value → WellFormed (stringified numberText value)
  | .null, _ => trivial
  | .bool _, _ => trivial
  | .string _, _ => trivial
  | .number literal, wellFormed => by
      unfold stringified
      split
      · trivial
      · exact wellFormed
  | .array items, wellFormed =>
      wellFormed_stringifiedItems items wellFormed
  | .object members, wellFormed => by
      refine ⟨?_, wellFormed_stringifiedMembers members wellFormed.2⟩
      rw [keys_stringifiedMembers]
      exact wellFormed.1

/-- The items that are written are well formed. -/
theorem wellFormed_stringifiedItems :
    ∀ items : List Value,
      WellFormedItems items →
        WellFormedItems (stringifiedItems numberText items)
  | [], _ => trivial
  | item :: rest, wellFormed =>
      ⟨wellFormed_stringified item wellFormed.1,
        wellFormed_stringifiedItems rest wellFormed.2⟩

/-- The members that are written are well formed. -/
theorem wellFormed_stringifiedMembers :
    ∀ members : Members,
      WellFormedMembers members →
        WellFormedMembers (stringifiedMembers numberText members)
  | [], _ => trivial
  | (_, value) :: rest, wellFormed =>
      ⟨wellFormed_stringified value wellFormed.1,
        wellFormed_stringifiedMembers rest wellFormed.2⟩

end

end Stringify

/-!
## Well-formed items
-/

/-- The members that a well-formed value spreads are well formed. -/
theorem wellFormedMembers_spread
    {value : Value}
    (wellFormed : WellFormed value) :
    WellFormedMembers (spread value) := by
  cases value with
  | object members =>
      exact wellFormed.2
  | array items =>
      rw [wellFormedMembers_iff]
      intro member isMember
      obtain ⟨item, positioned, rfl⟩ := List.mem_map.mp isMember
      exact wellFormedItems_iff.mp wellFormed item.1
        (List.fst_mem_of_mem_zipIdx positioned)
  | string text =>
      rw [wellFormedMembers_iff]
      intro member isMember
      obtain ⟨symbol, -, rfl⟩ := List.mem_map.mp isMember
      trivial
  | null => trivial
  | bool flag => trivial
  | number literal => trivial

/-- A completed structure of a well-formed payload is well formed. -/
theorem wellFormed_completed
    {blank : Members}
    (blankFormed : WellFormed (.object blank))
    {nested : Option Value}
    (nestedFormed : ∀ value, nested = some value → WellFormed value) :
    WellFormed (completed blank nested) := by
  unfold completed
  split
  · rename_i value
    split
    · exact ⟨nodup_keys_assignAll blankFormed.1 _,
        wellFormedMembers_assignAll blankFormed.2
          (wellFormedMembers_spread (nestedFormed value rfl))⟩
    · exact blankFormed
  · exact blankFormed

section Payload

variable {numberText : String → String}

/-- A custom field of the declared shape is well formed. -/
theorem IsCustomField.wellFormed
    {entry : Value}
    (custom : IsCustomField entry) :
    WellFormed entry := by
  obtain ⟨label, value, plain | hidden⟩ := custom
  · rw [plain]
    simp [WellFormed, WellFormedMembers]
  · rw [hidden]
    simp [WellFormed, WellFormedMembers]

/-- A custom field of the declared shape is written as it is. -/
theorem IsCustomField.stringified_eq
    {entry : Value}
    (custom : IsCustomField entry) :
    stringified numberText entry = entry := by
  obtain ⟨label, value, plain | hidden⟩ := custom
  · rw [plain]
    simp [stringified, stringifiedMembers]
  · rw [hidden]
    simp [stringified, stringifiedMembers]

/-- Rewriting text members keeps an object well formed. -/
theorem wellFormedMembers_textMembers
    {raw : Value}
    {keys : List String}
    {out result : Members}
    (rewritten : textMembers numberText raw keys out = some result)
    (wellFormed : WellFormedMembers out) :
    WellFormedMembers result := by
  induction keys generalizing out with
  | nil =>
      cases rewritten
      exact wellFormed
  | cons first rest inductionHypothesis =>
      simp only [textMembers] at rewritten
      split at rewritten
      · exact inductionHypothesis rewritten
          (wellFormedMembers_assign wellFormed trivial)
      · cases rewritten

/-- Blank fields are well formed. -/
theorem wellFormed_blankFields : WellFormed (.object blankFields) := by
  simp [blankFields, blankCard, blankIdentity, WellFormed, WellFormedMembers,
    WellFormedItems]

/-- A normalized item of a well-formed payload is well formed. -/
theorem wellFormed_normalizeItemFields
    {members item : Members}
    (wellFormed : WellFormed (.object members))
    (normalizes :
      normalizeItemFields numberText (.object members) = some item) :
    WellFormed (.object item) := by
  refine ⟨nodup_keys_normalizeItemFields numberText normalizes, ?_⟩
  have card : WellFormed (.object blankCard) := by
    simp [blankCard, WellFormed, WellFormedMembers]
  have identity : WellFormed (.object blankIdentity) := by
    simp [blankIdentity, WellFormed, WellFormedMembers]
  have kind : WellFormed (itemType (.object members)) := by
    obtain ⟨name, -, isName⟩ := itemType_mem (.object members)
    rw [isName]
    trivial
  simp only [normalizeItemFields] at normalizes
  split at normalizes
  · cases normalizes
  · rename_i entries converted
    obtain ⟨items, shape, customs⟩ := isCustomField_of_customFields converted
    have fields : WellFormed entries := by
      rw [shape]
      exact wellFormedItems_iff.mpr fun entry member =>
        (customs entry member).wellFormed
    split at normalizes
    · cases normalizes
    · rename_i rewritten
      obtain ⟨flag, -, rfl⟩ := Option.map_eq_some_iff.mp normalizes
      have mark : WellFormed (.bool flag) := trivial
      apply wellFormedMembers_assign ?_ mark
      apply wellFormedMembers_textMembers rewritten
      apply wellFormedMembers_assign ?_ fields
      apply wellFormedMembers_assign ?_
        (wellFormed_completed identity
          (wellFormed_of_property wellFormed.2))
      apply wellFormedMembers_assign ?_
        (wellFormed_completed card (wellFormed_of_property wellFormed.2))
      apply wellFormedMembers_assign ?_ kind
      exact wellFormedMembers_assignAll wellFormed_blankFields.2 wellFormed.2

/-- A key that the client does not know keeps its value. -/
theorem lookup_of_unknown
    {members item : Members}
    (wellFormed : WellFormed (.object members))
    (normalizes :
      normalizeItemFields numberText (.object members) = some item)
    {key : String}
    (unknown : key ∉ blankFields.map Prod.fst) :
    lookup item key = lookup members key := by
  rw [lookup_normalizeItemFields numberText normalizes unknown]
  exact lookup_reverse wellFormed.1 key

/-!
## What survives
-/

variable (numberText) (decryptItemKeyed : String → Option String)

/-- What `saveItem` encrypts: the fields without the id. -/
def savedText (item : Members) : String :=
  Crypto.stringify
    (stringified numberText
      (.object (item.filter fun field => field.1 ≠ "id")))

/-- The plaintext of a cipher after it was loaded and saved without an edit. -/
def savedBack (c : CipherDto) : Option String :=
  (vaultItem numberText decryptItemKeyed c).map (savedText numberText)

/-- The keys that the client understands of a custom field. -/
def customKeys : List String := ["label", "value", "hidden"]

/-- A type that this client knows. -/
def KnownType (value : Value) : Prop :=
  ∃ kind ∈ ITEM_TYPES, value = .string kind

/-- A nested structure keeps the members that the client does not know. -/
def KeepsNested (blank : Members) (nested saved : Option Value) : Prop :=
  ∀ members, nested = some (.object members) →
    ∃ kept, saved = some (.object kept) ∧
      ∀ key ∉ blank.map Prod.fst, lookup kept key = lookup members key

/-- An item keeps everything that the client does not understand. -/
structure KeepsUnknown (members saved : Members) : Prop where
  topLevel :
    ∀ key ∉ blankFields.map Prod.fst, lookup saved key = lookup members key
  type :
    ∀ value, lookup members "type" = some value → ¬ KnownType value →
      lookup saved "type" = some value
  card :
    KeepsNested blankCard (lookup members "card") (lookup saved "card")
  identity :
    KeepsNested blankIdentity (lookup members "identity")
      (lookup saved "identity")
  fields :
    ∀ entries, lookup members "fields" = some (.array entries) →
      ∃ kept, lookup saved "fields" = some (.array kept) ∧
        List.Forall₂
          (fun entry shown =>
            ∀ key ∉ customKeys, property shown key = property entry key)
          (entries.filter isObject) kept

/-- Numbers that the client does not understand are finite. -/
def FiniteNested (blank : Members) (nested : Option Value) : Prop :=
  ∀ members, nested = some (.object members) →
    ∀ key ∉ blank.map Prod.fst, ∀ value, lookup members key = some value →
      Finite numberText value

/--
The payloads that survive: no member is named like the id, the type is one of the
four, and the custom fields have no further members.
-/
structure Survives (members : Members) : Prop where
  noID : lookup members "id" = none
  type : ∀ value, lookup members "type" = some value → KnownType value
  fields :
    ∀ entries, lookup members "fields" = some (.array entries) →
      ∀ entry ∈ entries, ∀ key ∉ customKeys, property entry key = none
  topLevel :
    ∀ key ∉ blankFields.map Prod.fst, ∀ value,
      lookup members key = some value → Finite numberText value
  card : FiniteNested numberText blankCard (lookup members "card")
  identity :
    FiniteNested numberText blankIdentity (lookup members "identity")

variable {numberText decryptItemKeyed}

/-- Leaving out a key hides it and no other. -/
theorem lookup_filter (members : Members) (left key : String) :
    lookup (members.filter fun field => field.1 ≠ left) key =
      if key = left then none else lookup members key := by
  induction members with
  | nil =>
      simp
  | cons member rest inductionHypothesis =>
      obtain ⟨other, value⟩ := member
      by_cases isLeft : other = left
      · subst other
        rw [List.filter_cons_of_neg (by simp), inductionHypothesis,
          lookup_cons]
        split
        · rfl
        · rename_i notLeft
          rw [if_neg (Ne.symm notLeft)]
      · rw [List.filter_cons_of_pos (by simpa using isLeft), lookup_cons,
          lookup_cons, inductionHypothesis]
        split
        · rename_i isKey
          subst key
          rw [if_neg isLeft]
        · rfl

/-- Leaving out a key keeps an object well formed. -/
theorem wellFormed_filter
    {members : Members}
    (wellFormed : WellFormed (.object members))
    (left : String) :
    WellFormed (.object (members.filter fun field => field.1 ≠ left)) := by
  refine ⟨wellFormed.1.sublist (List.filter_sublist.map _), ?_⟩
  rw [wellFormedMembers_iff]
  intro member kept
  exact wellFormedMembers_iff.mp wellFormed.2 member
    (List.mem_of_mem_filter kept)

/-- What is saved back is an object with the members that were loaded. -/
theorem exists_savedBack
    {c : CipherDto}
    {text saved : String}
    {members : Members}
    (opens : decryptItemKeyed c.data = some text)
    (parsed : read text = some (.object members))
    (returned : savedBack numberText decryptItemKeyed c = some saved) :
    ∃ normalized out,
      normalizeItemFields numberText (.object members) = some normalized ∧
        read saved = some (.object out) ∧
        ∀ key, lookup out key =
          if key = "id" then none
          else (lookup normalized key).map (stringified numberText) := by
  obtain ⟨item, loaded, isSaved⟩ := Option.map_eq_some_iff.mp returned
  obtain ⟨fields, isFields, assigned⟩ := Option.bind_eq_some_iff.mp loaded
  have sameFields : fields = .object members := by
    rw [vaultFields, opens] at isFields
    exact Option.some.inj (isFields.symm.trans parsed)
  subst sameFields
  obtain ⟨normalized, normalizes, isItem⟩ :=
    Option.map_eq_some_iff.mp assigned
  have wellFormed :=
    wellFormed_normalizeItemFields (wellFormed_of_read parsed) normalizes
  have idFormed : WellFormed (.object [("id", .string c.id)]) := by
    simp [WellFormed, WellFormedMembers]
  have itemFormed : WellFormed (.object item) := by
    rw [← isItem]
    exact ⟨nodup_keys_assignAll idFormed.1 _,
      wellFormedMembers_assignAll idFormed.2 wellFormed.2⟩
  have written :=
    wellFormed_stringified numberText _ (wellFormed_filter itemFormed "id")
  refine ⟨normalized,
    stringifiedMembers numberText (item.filter fun field => field.1 ≠ "id"),
    normalizes, ?_, ?_⟩
  · rw [← isSaved]
    exact read_write Crypto.stringifyEscapes written
  · intro key
    rw [lookup_stringifiedMembers, lookup_filter]
    split
    · rfl
    · rename_i notID
      rw [← isItem, lookup_assignAll, lookup_reverse wellFormed.1,
        lookup_cons, if_neg (Ne.symm notID)]
      simp

/-- An item that normalizes can be saved back. -/
theorem exists_savedBack_of_normalizes
    {c : CipherDto}
    {text : String}
    {members normalized : Members}
    (opens : decryptItemKeyed c.data = some text)
    (parsed : read text = some (.object members))
    (normalizes :
      normalizeItemFields numberText (.object members) = some normalized) :
    ∃ saved, savedBack numberText decryptItemKeyed c = some saved := by
  simp [savedBack, vaultItem, vaultFields, opens, parsed, normalizes]

/-- The unknown top-level members survive. -/
theorem topLevel_iff
    {members normalized out : Members}
    (unknown :
      ∀ key ∉ blankFields.map Prod.fst,
        lookup normalized key = lookup members key)
    (found :
      ∀ key, lookup out key =
        if key = "id" then none
        else (lookup normalized key).map (stringified numberText)) :
    (∀ key ∉ blankFields.map Prod.fst,
        lookup out key = lookup members key) ↔
      lookup members "id" = none ∧
        ∀ key ∉ blankFields.map Prod.fst, ∀ value,
          lookup members key = some value → Finite numberText value := by
  constructor
  · intro keeps
    have noID : lookup members "id" = none := by
      have kept := keeps "id" (by decide)
      rw [found, if_pos rfl] at kept
      exact kept.symm
    refine ⟨noID, ?_⟩
    intro key isUnknown value has
    have notID : key ≠ "id" := by
      rintro rfl
      rw [noID] at has
      cases has
    have kept := keeps key isUnknown
    rw [found, if_neg notID, unknown key isUnknown, has] at kept
    exact (stringified_eq numberText value).mp (Option.some.inj kept)
  · rintro ⟨noID, finite⟩ key isUnknown
    rw [found]
    split
    · rename_i isID
      rw [isID]
      exact noID.symm
    · rw [unknown key isUnknown]
      cases has : lookup members key with
      | none =>
          rfl
      | some value =>
          exact congrArg some
            ((stringified_eq numberText value).mpr
              (finite key isUnknown value has))

/-- The unknown members of a nested structure survive. -/
theorem keepsNested_iff
    {blank : Members}
    {nested : Option Value}
    (wellFormed : ∀ value, nested = some value → WellFormed value) :
    KeepsNested blank nested
        (some (stringified numberText (completed blank nested))) ↔
      FiniteNested numberText blank nested := by
  have found :
      ∀ members, nested = some (.object members) →
        stringified numberText (completed blank nested) =
            .object
              (stringifiedMembers numberText (assignAll blank members)) ∧
          ∀ key ∉ blank.map Prod.fst,
            lookup
                (stringifiedMembers numberText (assignAll blank members))
                key =
              (lookup members key).map (stringified numberText) := by
    rintro members rfl
    refine ⟨rfl, ?_⟩
    intro key isUnknown
    have absent : lookup blank key = none :=
      lookup_of_not_mem isUnknown
    rw [lookup_stringifiedMembers, lookup_assignAll,
      lookup_reverse (wellFormed _ rfl).1, absent, Option.or_none]
  constructor
  · intro keeps members isNested key isUnknown value has
    obtain ⟨kept, shape, same⟩ := keeps members isNested
    obtain ⟨written, looked⟩ := found members isNested
    rw [written] at shape
    cases shape
    have isKept := same key isUnknown
    rw [looked key isUnknown, has] at isKept
    exact (stringified_eq numberText value).mp (Option.some.inj isKept)
  · intro finite members isNested
    obtain ⟨written, looked⟩ := found members isNested
    refine ⟨_, congrArg some written, ?_⟩
    intro key isUnknown
    rw [looked key isUnknown]
    cases has : lookup members key with
    | none =>
        rfl
    | some value =>
        exact congrArg some
          ((stringified_eq numberText value).mpr
            (finite members isNested key isUnknown value has))

/-- The type survives when the client knows it. -/
theorem type_iff
    {members out : Members}
    (found :
      lookup out "type" = some (itemType (.object members))) :
    (∀ value, lookup members "type" = some value → ¬ KnownType value →
        lookup out "type" = some value) ↔
      ∀ value, lookup members "type" = some value → KnownType value := by
  constructor
  · intro keeps value has
    by_contra unknown
    have kept := keeps value has unknown
    rw [found] at kept
    obtain ⟨kind, known, isKind⟩ := itemType_mem (.object members)
    rw [isKind] at kept
    exact unknown ⟨kind, known, (Option.some.inj kept).symm⟩
  · intro known value has unknown
    exact absurd (known value has) unknown

/-- A custom field has no members that the client does not know. -/
theorem IsCustomField.property_eq_none
    {entry : Value}
    (custom : IsCustomField entry)
    {key : String}
    (unknown : key ∉ customKeys) :
    property entry key = none := by
  simp only [customKeys, List.mem_cons, List.not_mem_nil, or_false,
    not_or] at unknown
  obtain ⟨notLabel, notValue, notHidden⟩ := unknown
  obtain ⟨label, value, plain | hidden⟩ := custom
  · rw [plain]
    simp [property, lookup_cons, Ne.symm notLabel, Ne.symm notValue]
  · rw [hidden]
    simp [property, lookup_cons, Ne.symm notLabel, Ne.symm notValue,
      Ne.symm notHidden]

/-- Custom fields of the declared shape are written as they are. -/
theorem stringifiedItems_of_customs
    {items : List Value}
    (customs : ∀ item ∈ items, IsCustomField item) :
    stringifiedItems numberText items = items := by
  induction items with
  | nil =>
      rfl
  | cons item rest inductionHypothesis =>
      have first := customs item (by simp)
      have later := fun other member =>
        customs other (List.mem_cons_of_mem item member)
      rw [stringifiedItems, first.stringified_eq,
        inductionHypothesis later]

/-- The custom fields survive when they have no unknown members. -/
theorem fields_iff
    {members out : Members}
    {written : Value}
    (converted :
      customFields numberText (lookup members "fields") = some written)
    (found : lookup out "fields" = some (stringified numberText written)) :
    (∀ entries, lookup members "fields" = some (.array entries) →
        ∃ kept, lookup out "fields" = some (.array kept) ∧
          List.Forall₂
            (fun entry shown =>
              ∀ key ∉ customKeys, property shown key = property entry key)
            (entries.filter isObject) kept) ↔
      ∀ entries, lookup members "fields" = some (.array entries) →
        ∀ entry ∈ entries, ∀ key ∉ customKeys, property entry key = none := by
  obtain ⟨items, shape, customs⟩ := isCustomField_of_customFields converted
  have isWritten : lookup out "fields" = some (.array items) := by
    rw [found, shape, stringified, stringifiedItems_of_customs customs]
  constructor
  · intro keeps entries has entry member key unknown
    by_cases structured : isObject entry = true
    · obtain ⟨kept, isKept, related⟩ := keeps entries has
      rw [isWritten] at isKept
      cases isKept
      obtain ⟨sameLength, pairs⟩ := List.forall₂_iff_get.mp related
      have shown : entry ∈ entries.filter isObject :=
        List.mem_filter.mpr ⟨member, structured⟩
      obtain ⟨index, inside, isEntry⟩ := List.getElem_of_mem shown
      have inItems : index < items.length := by
        rw [← sameLength]
        exact inside
      have same := pairs index inside inItems key unknown
      have custom := customs _ (List.get_mem items ⟨index, inItems⟩)
      rw [custom.property_eq_none unknown] at same
      rw [← isEntry]
      exact same.symm
    · cases entry
      case object => exact absurd rfl structured
      all_goals rfl
  · intro plain entries has
    refine ⟨items, isWritten, ?_⟩
    rw [has] at converted
    obtain ⟨images, traversed, isArray⟩ := Option.map_eq_some_iff.mp converted
    have sameItems : images = items := by
      rw [shape] at isArray
      exact Value.array.inj isArray
    subst sameItems
    obtain ⟨sameLength, -⟩ :=
      List.forall₂_iff_get.mp (forall₂_of_mapM traversed)
    refine List.forall₂_iff_get.mpr ⟨sameLength, ?_⟩
    intro index inside inItems key unknown
    have custom := customs _ (List.get_mem images ⟨index, inItems⟩)
    have isEntry := List.mem_of_mem_filter (List.get_mem _ ⟨index, inside⟩)
    rw [custom.property_eq_none unknown, plain entries has _ isEntry key
      unknown]

/-- A payload of a later client: a type and a mark that this one lacks. -/
def laterPayload : Members :=
  [("type", .string "passkey"), ("name", .string "Bank"),
    ("fields",
      .array
        [.object
          [("label", .string "Since"), ("value", .string "2031"),
            ("kind", .string "date")]])]

/-- The cipher of that payload, whose encryption is left out. -/
def laterCipher : CipherDto where
  id := "1"
  data := Crypto.stringify (.object laterPayload)
  createdAt := ""
  updatedAt := ""

/-- A payload with a member that this client does not know. -/
def iconPayload : Members :=
  [("name", .string "Mail"), ("icon", .string "envelope")]

/-- The cipher of that payload, whose encryption is left out. -/
def iconCipher : CipherDto where
  id := "1"
  data := Crypto.stringify (.object iconPayload)
  createdAt := ""
  updatedAt := ""

end Payload

end Passwd.VaultItem
