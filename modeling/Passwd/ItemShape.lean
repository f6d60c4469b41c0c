import Passwd.VaultItem
import Passwd.JsonRoundTrip
import Passwd.IdentifierNormalization

namespace Passwd.VaultItem

open Json JavaScript

/-!
# The shape of a normalized item

What the declared types promise about the fields of an item, and the screens that
rely on it: the subtitle of an item in the list, and the text that a search looks
through.  A result of `none` is a thrown exception.
-/

/-- `ITEM_TYPES` -/
def ITEM_TYPES : List String := ["login", "note", "card", "identity"]

/-- The members of these names are text. -/
def HasTexts (keys : List String) (members : Members) : Prop :=
  ∀ key ∈ keys, ∃ value, lookup members key = some (.string value)

/-- The declared members of a nested structure are text. -/
def HasNestedTexts (blank : Members) (nested : Option Value) : Prop :=
  ∃ members, nested = some (.object members) ∧
    HasTexts (blank.map Prod.fst) members

/-- `CustomField`, whose mark is present only when it is set. -/
def IsCustomField (entry : Value) : Prop :=
  ∃ label value,
    entry = .object [("label", .string label), ("value", .string value)] ∨
      entry =
        .object
          [("label", .string label), ("value", .string value),
            ("hidden", .bool true)]

/-- `ItemFields` -/
structure WellTyped (item : Members) : Prop where
  type : ∃ kind ∈ ITEM_TYPES, lookup item "type" = some (.string kind)
  texts : HasTexts textKeys item
  card : HasNestedTexts blankCard (lookup item "card")
  identity : HasNestedTexts blankIdentity (lookup item "identity")
  fields :
    ∃ entries,
      lookup item "fields" = some (.array entries) ∧
        ∀ entry ∈ entries, IsCustomField entry
  favorite : ∃ flag, lookup item "favorite" = some (.bool flag)

/-!
## What the screens show
-/

section Screens

variable (numberText : String → String) (mapping : Identifier.CaseMapping)

/-- `first || second` -/
def orElse (first second : Option Value) : Option Value :=
  if first.any (truthy numberText) then first else second

/--
`itemSubtitle`.  `slice` counts characters here, which is code units inside the
basic plane.
-/
def itemSubtitle (item : Members) : Option (Option Value) :=
  match lookup item "type" with
  | some (.string "note") =>
      match lookup item "notes" with
      | some (.string notes) =>
          let line := (notes.toList.takeWhile fun symbol => symbol ≠ '\n').take 80
          some (some (.string
            (if line = [] then "secure note" else String.ofList line)))
      | _ => none
  | some (.string "card") =>
      match JavaScript.member (lookup item "card") "number" with
      | some (some (.string number)) =>
          let digits := number.toList.filter Json.isDigit
          some (some (.string
            (if digits = [] then "card"
            else
              "•••• " ++ String.ofList (digits.drop (digits.length - 4)))))
      | _ => none
  | some (.string "identity") =>
      match JavaScript.member (lookup item "identity") "email",
          JavaScript.member (lookup item "identity") "fullName" with
      | some email, some fullName =>
          some (orElse numberText email
            (orElse numberText fullName (some (.string "identity"))))
      | _, _ => none
  | _ =>
      some (orElse numberText (lookup item "username")
        (orElse numberText (lookup item "url")
          (some (.string "no details"))))

/-- `searchHaystack` -/
def searchHaystack (item : Members) : Option String :=
  match JavaScript.member (lookup item "identity") "fullName",
      JavaScript.member (lookup item "identity") "email",
      JavaScript.member (lookup item "card") "cardholder" with
  | some fullName, some email, some cardholder =>
      ([lookup item "name", lookup item "username", lookup item "url",
          lookup item "folder", fullName, email, cardholder].mapM
        (textOr numberText "")).map fun texts =>
          String.ofList
            (mapping.toLowerCase ("\n".intercalate texts).toList)
  | _, _, _ => none

/-- An item that the screens can show. -/
structure Displayable (item : Members) : Prop where
  wellTyped : WellTyped item
  subtitle :
    ∃ shown, itemSubtitle numberText item = some (some (.string shown))
  haystack : ∃ searched, searchHaystack numberText mapping item = some searched

end Screens

/-!
## When normalizing gives an item its shape
-/

/-- The declared members that a nested structure of a payload has are text. -/
def DeclaresTexts (blank : Members) (nested : Option Value) : Prop :=
  ∀ value, nested = some value →
    ∀ key ∈ blank.map Prod.fst, ∀ declared,
      property value key = some declared → ∃ text, declared = .string text

section Shape

variable {numberText : String → String} {mapping : Identifier.CaseMapping}

/-- A completed structure is well typed when the payload's members are text. -/
theorem hasNestedTexts_completed
    {blank : Members}
    (blankTexts : HasTexts (blank.map Prod.fst) blank)
    (letters :
      ((blank.map Prod.fst).all fun key =>
        key.toList.any fun symbol => !symbol.isDigit) = true)
    {nested : Option Value}
    (wellFormed : ∀ value, nested = some value → WellFormed value) :
    HasNestedTexts blank (some (completed blank nested)) ↔
      DeclaresTexts blank nested := by
  cases nested with
  | none =>
      constructor
      · rintro _ value ⟨⟩
      · intro _
        exact ⟨blank, rfl, blankTexts⟩
  | some value =>
      by_cases structured : isObject value = true
      · have found :
            ∀ key ∈ blank.map Prod.fst,
              lookup (assignAll blank (spread value)) key =
                (property value key).or (lookup blank key) := by
          intro key declared
          obtain ⟨symbol, inKey, notDigit⟩ :=
            List.any_eq_true.mp (List.all_eq_true.mp letters key declared)
          have isLetter : symbol.isDigit = false := by
            simpa using notDigit
          rw [lookup_assignAll, lookup_spread ?_ inKey isLetter]
          rintro members rfl
          exact (wellFormed _ rfl).1
        simp only [completed, structured, ↓reduceIte]
        constructor
        · rintro ⟨members, shape, texts⟩ other ⟨⟩ key isDeclared declared has
          cases shape
          obtain ⟨written, isWritten⟩ := texts key isDeclared
          rw [found key isDeclared, has] at isWritten
          exact ⟨written, Option.some.inj isWritten⟩
        · intro declares
          refine ⟨_, rfl, ?_⟩
          intro key isDeclared
          rw [found key isDeclared]
          cases has : property value key with
          | none =>
              exact blankTexts key isDeclared
          | some declared =>
              obtain ⟨written, isWritten⟩ :=
                declares value rfl key isDeclared declared has
              exact ⟨written, congrArg some isWritten⟩
      · have bare : ∀ key, property value key = none := by
          intro key
          cases value
          case object => exact absurd rfl structured
          all_goals rfl
        simp only [completed, structured, Bool.false_eq_true, ↓reduceIte]
        constructor
        · rintro _ other ⟨⟩ key _ declared has
          rw [bare key] at has
          cases has
        · intro _
          exact ⟨blank, rfl, blankTexts⟩

/-- The custom fields of a normalized item have the declared shape. -/
theorem isCustomField_of_customFields
    {fields : Option Value}
    {entries : Value}
    (converted : customFields numberText fields = some entries) :
    ∃ items, entries = .array items ∧ ∀ item ∈ items, IsCustomField item := by
  unfold customFields at converted
  split at converted
  · obtain ⟨items, traversed, shape⟩ := Option.map_eq_some_iff.mp converted
    refine ⟨items, shape.symm, ?_⟩
    intro item member
    obtain ⟨entry, -, isItem⟩ := exists_of_mem_mapM traversed member
    unfold customField at isItem
    split at isItem
    · rename_i label value _ _
      refine ⟨label, value, ?_⟩
      rw [← Option.some.inj isItem]
      split
      · exact Or.inr rfl
      · exact Or.inl rfl
    · cases isItem
  · cases converted
    exact ⟨[], rfl, by simp⟩

/-- The type of an item is one of the declared ones. -/
theorem itemType_mem (raw : Value) :
    ∃ kind ∈ ITEM_TYPES, itemType raw = .string kind := by
  unfold itemType
  split
  · split
    · rename_i kind _ known
      refine ⟨kind, ?_, rfl⟩
      rcases known with isNote | isCard | isIdentity
      · simp [ITEM_TYPES, isNote]
      · simp [ITEM_TYPES, isCard]
      · simp [ITEM_TYPES, isIdentity]
    · exact ⟨"login", by simp [ITEM_TYPES], rfl⟩
  · exact ⟨"login", by simp [ITEM_TYPES], rfl⟩

/-- The text members of a blank card are its members. -/
theorem hasTexts_blankCard :
    HasTexts (blankCard.map Prod.fst) blankCard := by
  simp [HasTexts, blankCard, lookup_cons]

/-- The text members of a blank identity are its members. -/
theorem hasTexts_blankIdentity :
    HasTexts (blankIdentity.map Prod.fst) blankIdentity := by
  simp [HasTexts, blankIdentity, lookup_cons]

/-- The value of a member of a well-formed object is well formed. -/
theorem wellFormed_of_property
    {members : Members}
    {key : String}
    (wellFormed : WellFormedMembers members) :
    ∀ value, property (.object members) key = some value →
      WellFormed value := by
  intro value has
  induction members with
  | nil =>
      cases has
  | cons first rest inductionHypothesis =>
      obtain ⟨other, current⟩ := first
      simp only [property, lookup_cons] at has
      split at has
      · cases has
        exact wellFormed.1
      · exact inductionHypothesis wellFormed.2 has

/-- Of two texts one is shown. -/
theorem orElse_text (numberText : String → String) (first second : String) :
    ∃ shown,
      orElse numberText (some (.string first)) (some (.string second)) =
        some (.string shown) := by
  unfold orElse
  split
  · exact ⟨first, rfl⟩
  · exact ⟨second, rfl⟩

/-- A well-typed item has a subtitle. -/
theorem itemSubtitle_of_wellTyped
    {item : Members}
    (wellTyped : WellTyped item) :
    ∃ shown, itemSubtitle numberText item = some (some (.string shown)) := by
  obtain ⟨kind, known, isKind⟩ := wellTyped.type
  simp only [ITEM_TYPES, List.mem_cons, List.not_mem_nil, or_false] at known
  rcases known with rfl | rfl | rfl | rfl
  · obtain ⟨username, isUsername⟩ := wellTyped.texts "username" (by decide)
    obtain ⟨url, isUrl⟩ := wellTyped.texts "url" (by decide)
    obtain ⟨later, isLater⟩ := orElse_text numberText url "no details"
    obtain ⟨shown, isShown⟩ := orElse_text numberText username later
    exact ⟨shown, by simp [itemSubtitle, isKind, isUsername, isUrl, isLater,
      isShown]⟩
  · obtain ⟨notes, isNotes⟩ := wellTyped.texts "notes" (by decide)
    simp [itemSubtitle, isKind, isNotes]
  · obtain ⟨card, isCard, cardTexts⟩ := wellTyped.card
    obtain ⟨number, isNumber⟩ := cardTexts "number" (by decide)
    simp [itemSubtitle, isKind, isCard, JavaScript.member, property, isNumber]
  · obtain ⟨identity, isIdentity, identityTexts⟩ := wellTyped.identity
    obtain ⟨email, isEmail⟩ := identityTexts "email" (by decide)
    obtain ⟨fullName, isFullName⟩ := identityTexts "fullName" (by decide)
    obtain ⟨later, isLater⟩ := orElse_text numberText fullName "identity"
    obtain ⟨shown, isShown⟩ := orElse_text numberText email later
    exact ⟨shown, by simp [itemSubtitle, isKind, isIdentity,
      JavaScript.member, property, isEmail, isFullName, isLater, isShown]⟩

/-- A search looks through a well-typed item. -/
theorem searchHaystack_of_wellTyped
    {item : Members}
    (wellTyped : WellTyped item) :
    ∃ searched, searchHaystack numberText mapping item = some searched := by
  obtain ⟨card, isCard, cardTexts⟩ := wellTyped.card
  obtain ⟨identity, isIdentity, identityTexts⟩ := wellTyped.identity
  obtain ⟨fullName, isFullName⟩ := identityTexts "fullName" (by decide)
  obtain ⟨email, isEmail⟩ := identityTexts "email" (by decide)
  obtain ⟨cardholder, isCardholder⟩ := cardTexts "cardholder" (by decide)
  obtain ⟨name, isName⟩ := wellTyped.texts "name" (by decide)
  obtain ⟨username, isUsername⟩ := wellTyped.texts "username" (by decide)
  obtain ⟨url, isUrl⟩ := wellTyped.texts "url" (by decide)
  obtain ⟨folder, isFolder⟩ := wellTyped.texts "folder" (by decide)
  simp [searchHaystack, isCard, isIdentity, JavaScript.member, property,
    isFullName, isEmail, isCardholder, isName, isUsername, isUrl, isFolder,
    textOr, text]

/--
Normalizing an object gives an item that the screens can show exactly when what it
converts to text is convertible and the declared members of its card and its
identity are text already: these two are merged without being converted.
-/
theorem displayable_iff
    {members : Members}
    (wellFormed : WellFormed (.object members)) :
    (∃ item,
      normalizeItemFields numberText (.object members) = some item ∧
        Displayable numberText mapping item) ↔
      Coerces (.object members) ∧
        DeclaresTexts blankCard (property (.object members) "card") ∧
        DeclaresTexts blankIdentity
          (property (.object members) "identity") := by
  have card :=
    hasNestedTexts_completed hasTexts_blankCard (by decide)
      (@wellFormed_of_property members "card" wellFormed.2)
  have identity :=
    hasNestedTexts_completed hasTexts_blankIdentity (by decide)
      (@wellFormed_of_property members "identity" wellFormed.2)
  constructor
  · rintro ⟨item, normalizes, displayable⟩
    have normalized := normalized_of_normalizeItemFields numberText normalizes
    have wellTyped := displayable.wellTyped
    refine ⟨?_, card.mp ?_, identity.mp ?_⟩
    · rw [← isSome_normalizeItemFields numberText, normalizes]
      rfl
    · rw [← normalized.card]
      exact wellTyped.card
    · rw [← normalized.identity]
      exact wellTyped.identity
  · rintro ⟨coerces, cardTexts, identityTexts⟩
    obtain ⟨item, normalizes⟩ :=
      Option.isSome_iff_exists.mp
        ((isSome_normalizeItemFields numberText).mpr coerces)
    have normalized := normalized_of_normalizeItemFields numberText normalizes
    obtain ⟨entries, converted, isFields⟩ := normalized.fields
    obtain ⟨items, shape, customs⟩ := isCustomField_of_customFields converted
    obtain ⟨kind, known, isKind⟩ := itemType_mem (.object members)
    obtain ⟨flag, -, isFlag⟩ := normalized.favorite
    have wellTyped : WellTyped item :=
      { type := ⟨kind, known, by rw [normalized.type, isKind]⟩
        texts := by
          intro key isText
          obtain ⟨value, -, isValue⟩ := normalized.texts key isText
          exact ⟨value, isValue⟩
        card := by
          rw [normalized.card]
          exact card.mpr cardTexts
        identity := by
          rw [normalized.identity]
          exact identity.mpr identityTexts
        fields := ⟨items, by rw [isFields, shape], customs⟩
        favorite := ⟨flag, isFlag⟩ }
    exact ⟨item, normalizes, wellTyped, itemSubtitle_of_wellTyped wellTyped,
      searchHaystack_of_wellTyped wellTyped⟩

/-- A card whose number is spelled without quotation marks. -/
def numericCard : Members :=
  [("type", .string "card"), ("name", .string "Visa"),
    ("card", .object [("number", .number "4111111111111111")])]

/-- Its number stays a number, and the list of items cannot show it. -/
theorem numericCard_not_displayable :
    (∃ item,
      normalizeItemFields id (.object numericCard) = some item ∧
        ((lookup item "card").bind fun card => property card "number") =
          some (.number "4111111111111111") ∧
        itemSubtitle id item = none) ∧
      ¬ ∃ item,
        normalizeItemFields id (.object numericCard) = some item ∧
          Displayable id Identifier.asciiCase item := by
  refine ⟨⟨_, rfl, rfl, rfl⟩, ?_⟩
  rintro ⟨item, normalizes, displayable⟩
  obtain ⟨shown, isShown⟩ := displayable.subtitle
  cases normalizes
  cases isShown

/-- An item of an early client, which has no type yet. -/
theorem untypedItem_displayable :
    ∃ item,
      normalizeItemFields id (.object [("name", .string "Mail")]) =
          some item ∧
        Displayable id Identifier.asciiCase item := by
  apply (displayable_iff ?_).mpr
  · refine ⟨⟨?_, ?_, ?_⟩, ?_, ?_⟩
    · intro key isText value has
      simp only [property, lookup_cons, lookup_nil] at has
      split at has
      · cases has
        trivial
      · cases has
    · rintro value ⟨⟩
    · rintro entries ⟨⟩
    · rintro value ⟨⟩
    · rintro value ⟨⟩
  · simp [WellFormed, WellFormedMembers]

end Shape

end Passwd.VaultItem
