import Passwd.JavaScriptValue
import Mathlib.Data.List.Forall2

namespace Passwd.VaultItem

open Json JavaScript

/-!
# Vault items

`normalizeItemFields` coerces decrypted or imported JSON of any shape into the
fields of a vault item.  It starts from blank fields, overlays every member of
the payload, and then rewrites the members it knows; members it does not know
survive as they are.
-/

/-- `blankCard` -/
def blankCard : Members :=
  [("cardholder", .string ""), ("number", .string ""),
    ("expMonth", .string ""), ("expYear", .string ""), ("cvv", .string "")]

/-- `blankIdentity` -/
def blankIdentity : Members :=
  [("fullName", .string ""), ("email", .string ""), ("phone", .string ""),
    ("address", .string ""), ("company", .string "")]

/-- `blankFields`, with its default type. -/
def blankFields : Members :=
  [("type", .string "login"), ("name", .string ""), ("username", .string ""),
    ("password", .string ""), ("url", .string ""), ("totp", .string ""),
    ("notes", .string ""), ("card", .object blankCard),
    ("identity", .object blankIdentity), ("fields", .array []),
    ("favorite", .bool false), ("folder", .string "")]

/-- The top-level members that are always text. -/
def textKeys : List String :=
  ["name", "username", "password", "url", "totp", "notes", "folder"]

/-- The type of an item; a type this client does not know is a login. -/
def itemType (raw : Value) : Value :=
  match property raw "type" with
  | some (.string kind) =>
      if kind = "note" ∨ kind = "card" ∨ kind = "identity" then
        .string kind
      else
        .string "login"
  | _ => .string "login"

/-- A nested structure: blanks overlaid with the members of the payload's. -/
def completed (blank : Members) (nested : Option Value) : Value :=
  match nested with
  | some value =>
      if isObject value then
        .object (assignAll blank (spread value))
      else
        .object blank
  | none => .object blank

section Normalize

variable (numberText : String → String)

/-- One entry of the custom fields. -/
def customField (entry : Value) : Option Value :=
  match textOr numberText "" (property entry "label"),
      textOr numberText "" (property entry "value") with
  | some label, some value =>
      let shown := [("label", Value.string label), ("value", .string value)]
      let hidden := (property entry "hidden").any (truthy numberText)
      some (.object
        (if hidden then shown ++ [("hidden", .bool true)] else shown))
  | _, _ => none

/-- The custom fields; entries that are no objects are left out. -/
def customFields (fields : Option Value) : Option Value :=
  match fields with
  | some (.array entries) =>
      ((entries.filter isObject).mapM (customField numberText)).map .array
  | _ => some (.array [])

/-- Rewrite the top-level members that are always text. -/
def textMembers (raw : Value) (keys : List String) (out : Members) :
    Option Members :=
  match keys with
  | [] => some out
  | key :: rest =>
      match textOr numberText "" (property raw key) with
      | some value => textMembers raw rest (assign out key (.string value))
      | none => none

/--
Whether the item is a favourite.  Only ASCII letters have the lower-case forms
that occur in the accepted spellings.
-/
def favorite (raw : Value) : Option Bool :=
  match property raw "favorite" with
  | some (.bool true) => some true
  | value =>
      (textOfProperty numberText value).map fun spelled =>
        spelled.toLower ∈ ["1", "true", "yes"]

/-- `normalizeItemFields`; `null` has no members to read. -/
def normalizeItemFields (raw : Value) : Option Members :=
  match raw with
  | .null => none
  | raw =>
      let out := assignAll blankFields (spread raw)
      let out := assign out "type" (itemType raw)
      let out := assign out "card" (completed blankCard (property raw "card"))
      let out :=
        assign out "identity"
          (completed blankIdentity (property raw "identity"))
      match customFields numberText (property raw "fields") with
      | none => none
      | some fields =>
          match textMembers numberText raw textKeys
              (assign out "fields" fields) with
          | none => none
          | some out =>
              (favorite numberText raw).map fun flag =>
                assign out "favorite" (.bool flag)

/-- Rewriting text members leaves every other key alone. -/
theorem lookup_textMembers
    {raw : Value}
    {keys : List String}
    {out result : Members}
    {key : String}
    (rewritten : textMembers numberText raw keys out = some result)
    (other : key ∉ keys) :
    lookup result key = lookup out key := by
  induction keys generalizing out with
  | nil =>
      cases rewritten
      rfl
  | cons first rest inductionHypothesis =>
      simp only [List.mem_cons, not_or] at other
      simp only [textMembers] at rewritten
      split at rewritten
      · have tail := inductionHypothesis rewritten other.2
        rw [tail, lookup_assign]
        simp [Ne.symm other.1]
      · cases rewritten

/-- Rewriting a text member writes the text of the payload's. -/
theorem lookup_textMembers_of_mem
    {raw : Value}
    {keys : List String}
    {out result : Members}
    {key : String}
    (rewritten : textMembers numberText raw keys out = some result)
    (member : key ∈ keys) :
    ∃ value,
      textOr numberText "" (property raw key) = some value ∧
        lookup result key = some (.string value) := by
  induction keys generalizing out with
  | nil =>
      cases member
  | cons first rest inductionHypothesis =>
      simp only [textMembers] at rewritten
      split at rewritten
      · rename_i value converted
        by_cases inRest : key ∈ rest
        · exact inductionHypothesis rewritten inRest
        · rcases List.mem_cons.mp member with isFirst | isLater
          · subst key
            refine ⟨value, converted, ?_⟩
            rw [lookup_textMembers numberText rewritten inRest]
            simp
          · exact absurd isLater inRest
      · cases rewritten

/-- Text members are rewritten when each of them is convertible. -/
theorem isSome_textMembers
    {raw : Value}
    {keys : List String}
    {out : Members} :
    (textMembers numberText raw keys out).isSome = true ↔
      ∀ key ∈ keys, ∀ value,
        property raw key = some value → Convertible value := by
  induction keys generalizing out with
  | nil =>
      simp [textMembers]
  | cons first rest inductionHypothesis =>
      have firstConverts :=
        @isSome_textOr numberText "" (property raw first)
      simp only [textMembers, List.forall_mem_cons, ← firstConverts]
      cases textOr numberText "" (property raw first) with
      | none => simp
      | some value => simp [inductionHypothesis]

/-- A custom field is converted when its label and its value are. -/
theorem isSome_customField {entry : Value} :
    (customField numberText entry).isSome = true ↔
      ∀ key ∈ ["label", "value"], ∀ value,
        property entry key = some value → Convertible value := by
  have label := @isSome_textOr numberText "" (property entry "label")
  have value := @isSome_textOr numberText "" (property entry "value")
  simp only [customField, List.forall_mem_cons, List.not_mem_nil,
    false_implies, implies_true, and_true, ← label, ← value]
  cases textOr numberText "" (property entry "label") with
  | none => simp
  | some isLabel =>
      cases textOr numberText "" (property entry "value") with
      | none => simp
      | some isValue => simp

/-- A traversal succeeds when it succeeds for every element. -/
theorem isSome_mapM
    {α β : Type}
    {function : α → Option β}
    {items : List α} :
    (items.mapM function).isSome = true ↔
      ∀ item ∈ items, (function item).isSome = true := by
  induction items with
  | nil =>
      simp
  | cons first rest inductionHypothesis =>
      simp only [List.mapM_cons, List.forall_mem_cons,
        ← inductionHypothesis]
      cases function first with
      | none => simp
      | some image => cases rest.mapM function <;> simp

/-- A traversal that succeeds maps the elements in their order. -/
theorem forall₂_of_mapM
    {α β : Type}
    {function : α → Option β}
    {items : List α}
    {images : List β}
    (traversed : items.mapM function = some images) :
    List.Forall₂ (fun item image => function item = some image) items
      images := by
  induction items generalizing images with
  | nil =>
      cases traversed
      exact .nil
  | cons first rest inductionHypothesis =>
      rw [List.mapM_cons] at traversed
      obtain ⟨image, isImage, remaining⟩ :=
        Option.bind_eq_some_iff.mp traversed
      obtain ⟨later, areLater, shape⟩ := Option.bind_eq_some_iff.mp remaining
      cases shape
      exact .cons isImage (inductionHypothesis areLater)

/-- Every image of a traversal comes from an element. -/
theorem exists_of_mem_mapM
    {α β : Type}
    {function : α → Option β}
    {items : List α}
    {images : List β}
    (traversed : items.mapM function = some images)
    {image : β}
    (member : image ∈ images) :
    ∃ item ∈ items, function item = some image := by
  obtain ⟨index, inside, isImage⟩ := List.getElem_of_mem member
  obtain ⟨sameLength, related⟩ :=
    List.forall₂_iff_get.mp (forall₂_of_mapM traversed)
  have inItems : index < items.length := by
    rw [sameLength]
    exact inside
  refine ⟨items[index], List.getElem_mem inItems, ?_⟩
  rw [← isImage]
  exact related index inItems inside

/-- What is converted to text in a payload is convertible. -/
structure Coerces (raw : Value) : Prop where
  texts :
    ∀ key ∈ textKeys, ∀ value,
      property raw key = some value → Convertible value
  favorite :
    ∀ value, property raw "favorite" = some value → Convertible value
  fields :
    ∀ entries, property raw "fields" = some (.array entries) →
      ∀ entry ∈ entries, isObject entry = true →
        ∀ key ∈ ["label", "value"], ∀ value,
          property entry key = some value → Convertible value

/-- What the fields of a normalized item are. -/
structure Normalized (raw : Value) (item : Members) : Prop where
  type : lookup item "type" = some (itemType raw)
  card :
    lookup item "card" =
      some (completed blankCard (property raw "card"))
  identity :
    lookup item "identity" =
      some (completed blankIdentity (property raw "identity"))
  fields :
    ∃ entries,
      customFields numberText (property raw "fields") = some entries ∧
        lookup item "fields" = some entries
  texts :
    ∀ key ∈ textKeys, ∃ value,
      textOr numberText "" (property raw key) = some value ∧
        lookup item key = some (.string value)
  favorite :
    ∃ flag,
      VaultItem.favorite numberText raw = some flag ∧
        lookup item "favorite" = some (.bool flag)

/-- The members that normalizing rewrites. -/
theorem normalized_of_normalizeItemFields
    {raw : Value}
    {item : Members}
    (succeeds : normalizeItemFields numberText raw = some item) :
    Normalized numberText raw item := by
  unfold normalizeItemFields at succeeds
  split at succeeds
  · cases succeeds
  · dsimp only at succeeds
    split at succeeds
    · cases succeeds
    · rename_i entries converted
      split at succeeds
      · cases succeeds
      · rename_i rewritten
        obtain ⟨flag, marked, shape⟩ := Option.map_eq_some_iff.mp succeeds
        have known :
            ∀ key, key ≠ "favorite" → key ∉ textKeys →
              lookup item key =
                lookup
                  (assign
                    (assign
                      (assign
                        (assign (assignAll blankFields (spread raw)) "type"
                          (itemType raw))
                        "card" (completed blankCard (property raw "card")))
                      "identity"
                      (completed blankIdentity (property raw "identity")))
                    "fields" entries)
                  key := by
          intro key notFavorite notText
          rw [← shape, lookup_assign, if_neg (Ne.symm notFavorite),
            lookup_textMembers numberText rewritten notText]
        exact
          { type := by
              rw [known "type" (by decide) (by decide)]
              simp
            card := by
              rw [known "card" (by decide) (by decide)]
              simp
            identity := by
              rw [known "identity" (by decide) (by decide)]
              simp
            fields := by
              refine ⟨entries, converted, ?_⟩
              rw [known "fields" (by decide) (by decide)]
              simp
            texts := by
              intro key isText
              obtain ⟨value, isValue, found⟩ :=
                lookup_textMembers_of_mem numberText rewritten isText
              refine ⟨value, isValue, ?_⟩
              have notFavorite : "favorite" ≠ key := by
                rintro rfl
                revert isText
                decide
              rw [← shape, lookup_assign, if_neg notFavorite]
              exact found
            favorite := by
              refine ⟨flag, marked, ?_⟩
              rw [← shape]
              simp }

/-- Normalizing an object succeeds when what it converts is convertible. -/
theorem isSome_normalizeItemFields {members : Members} :
    (normalizeItemFields numberText (.object members)).isSome = true ↔
      Coerces (.object members) := by
  have fieldsConvert :
      (customFields numberText
          (property (.object members) "fields")).isSome = true ↔
        ∀ entries,
          property (.object members) "fields" = some (.array entries) →
            ∀ entry ∈ entries, isObject entry = true →
              ∀ key ∈ ["label", "value"], ∀ value,
                property entry key = some value → Convertible value := by
    unfold customFields
    split
    · rename_i entries isFields
      rw [isFields]
      simp [isSome_mapM, isSome_customField]
    · rename_i notArray
      simp only [Option.isSome_some, true_iff]
      intro entries isFields
      exact absurd isFields (notArray entries)
  have favoriteConverts :
      (favorite numberText (.object members)).isSome = true ↔
        ∀ value, property (.object members) "favorite" = some value →
          Convertible value := by
    unfold favorite
    split
    · rename_i isFavorite
      rw [isFavorite]
      simp [Convertible]
    · cases property (.object members) "favorite" with
      | none => simp [textOfProperty]
      | some value => simp [textOfProperty, isSome_text]
  have textsConvert (out : Members) :=
    @isSome_textMembers numberText (.object members) textKeys out
  have parts :
      Coerces (.object members) ↔
        (∀ key ∈ textKeys, ∀ value,
          property (.object members) key = some value → Convertible value) ∧
        (∀ value, property (.object members) "favorite" = some value →
          Convertible value) ∧
        ∀ entries,
          property (.object members) "fields" = some (.array entries) →
            ∀ entry ∈ entries, isObject entry = true →
              ∀ key ∈ ["label", "value"], ∀ value,
                property entry key = some value → Convertible value :=
    ⟨fun coerces => ⟨coerces.texts, coerces.favorite, coerces.fields⟩,
      fun ⟨texts, favorite, fields⟩ => ⟨texts, favorite, fields⟩⟩
  rw [parts, ← fieldsConvert, ← favoriteConverts]
  simp only [normalizeItemFields]
  cases customFields numberText (property (.object members) "fields") with
  | none => simp
  | some entries =>
      dsimp only
      split
      · rename_i failed
        have refused := congrArg Option.isSome failed
        have notAll :=
          mt (textsConvert _).mpr (Bool.eq_false_iff.mp refused)
        simp [notAll]
      · rename_i rewritten
        have accepted := congrArg Option.isSome rewritten
        have all := (textsConvert _).mp accepted
        simp only [Option.isSome_map, Option.isSome_some, and_true]
        exact (and_iff_right all).symm

/-- The keys that the client knows. -/
theorem mem_blankFields_iff {key : String} :
    key ∈ blankFields.map Prod.fst ↔
      key = "type" ∨ key ∈ textKeys ∨ key = "card" ∨ key = "identity" ∨
        key = "fields" ∨ key = "favorite" := by
  simp only [blankFields, textKeys, List.map_cons, List.map_nil,
    List.mem_cons, List.not_mem_nil, or_false]
  tauto

/-- A key that the client does not know keeps the value the payload gave it. -/
theorem lookup_normalizeItemFields
    {raw : Value}
    {normalized : Members}
    {key : String}
    (succeeds : normalizeItemFields numberText raw = some normalized)
    (unknown : key ∉ blankFields.map Prod.fst) :
    lookup normalized key = lookup (spread raw).reverse key := by
  have keys : key ≠ "type" ∧ key ∉ textKeys ∧ key ≠ "card" ∧
      key ≠ "identity" ∧ key ≠ "fields" ∧ key ≠ "favorite" := by
    simpa only [mem_blankFields_iff, not_or] using unknown
  obtain ⟨notType, notText, notCard, notIdentity, notFields,
    notFavorite⟩ := keys
  have blank : lookup blankFields key = none :=
    lookup_of_not_mem unknown
  unfold normalizeItemFields at succeeds
  split at succeeds
  · cases succeeds
  · dsimp only at succeeds
    split at succeeds
    · cases succeeds
    · split at succeeds
      · cases succeeds
      · rename_i rewritten
        obtain ⟨flag, _, shape⟩ := Option.map_eq_some_iff.mp succeeds
        rw [← shape, lookup_assign, if_neg (Ne.symm notFavorite),
          lookup_textMembers numberText rewritten notText]
        simp only [lookup_assign, Ne.symm notType, Ne.symm notCard,
          Ne.symm notIdentity, Ne.symm notFields, ↓reduceIte,
          lookup_assignAll, blank, Option.or_none]

/-- Rewriting text members keeps the keys distinct. -/
theorem nodup_keys_textMembers
    {raw : Value}
    {keys : List String}
    {out result : Members}
    (rewritten : textMembers numberText raw keys out = some result)
    (distinct : (out.map Prod.fst).Nodup) :
    (result.map Prod.fst).Nodup := by
  induction keys generalizing out with
  | nil =>
      cases rewritten
      exact distinct
  | cons first rest inductionHypothesis =>
      simp only [textMembers] at rewritten
      split at rewritten
      · exact inductionHypothesis rewritten
          (nodup_keys_assign distinct first _)
      · cases rewritten

/-- A normalized item has every key once. -/
theorem nodup_keys_normalizeItemFields
    {raw : Value}
    {normalized : Members}
    (succeeds : normalizeItemFields numberText raw = some normalized) :
    (normalized.map Prod.fst).Nodup := by
  have blank : (blankFields.map Prod.fst).Nodup := by decide
  unfold normalizeItemFields at succeeds
  split at succeeds
  · cases succeeds
  · dsimp only at succeeds
    split at succeeds
    · cases succeeds
    · split at succeeds
      · cases succeeds
      · rename_i rewritten
        obtain ⟨flag, _, shape⟩ := Option.map_eq_some_iff.mp succeeds
        rw [← shape]
        refine nodup_keys_assign
          (nodup_keys_textMembers numberText rewritten ?_) _ _
        exact nodup_keys_assign (nodup_keys_assign (nodup_keys_assign
          (nodup_keys_assign (nodup_keys_assignAll blank _) _ _) _ _)
          _ _) _ _

end Normalize

end Passwd.VaultItem
