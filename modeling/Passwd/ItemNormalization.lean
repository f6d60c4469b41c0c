import Passwd.ItemRoundTrip
import Mathlib.Data.List.Nodup

namespace Passwd.VaultItem

open Json JavaScript

/-!
# Normalizing twice

Exports, imports, shares and every cycle of loading and saving normalize an item
that was normalized before.  A settled item is one that normalizing has nothing
left to do on: normalizing gives settled items, leaves settled items as they are,
and a settled item stays settled when it is written as JSON and read back.
-/

/-- The members of a structure begin with the declared ones, in their order. -/
structure Completes (blank members : Members) : Prop where
  ordered : blank.map Prod.fst <+: members.map Prod.fst
  distinct : (members.map Prod.fst).Nodup

/-- A nested structure with all declared members. -/
def CompletesNested (blank : Members) (nested : Option Value) : Prop :=
  ∃ members, nested = some (.object members) ∧ Completes blank members

/-- An item that normalizing has nothing left to do on. -/
structure Settled (item : Members) : Prop where
  completes : Completes blankFields item
  type : ∃ kind ∈ ITEM_TYPES, lookup item "type" = some (.string kind)
  texts : HasTexts textKeys item
  card : CompletesNested blankCard (lookup item "card")
  identity : CompletesNested blankIdentity (lookup item "identity")
  fields :
    ∃ entries,
      lookup item "fields" = some (.array entries) ∧
        ∀ entry ∈ entries, IsCustomField entry
  favorite : ∃ flag, lookup item "favorite" = some (.bool flag)

section Normalization

variable {numberText : String → String}

/-!
## Normalizing gives settled items
-/

/-- Overlaying the members of a payload completes a structure. -/
theorem completes_assignAll
    {blank : Members}
    (distinct : (blank.map Prod.fst).Nodup)
    (later : Members) :
    Completes blank (assignAll blank later) where
  ordered := keys_prefix_assignAll blank later
  distinct := nodup_keys_assignAll distinct later

/-- Writing a member keeps a structure complete. -/
theorem Completes.assign
    {blank members : Members}
    (completes : Completes blank members)
    (key : String)
    (value : Value) :
    Completes blank (Json.assign members key value) where
  ordered := completes.ordered.trans (keys_prefix_assign members key value)
  distinct := nodup_keys_assign completes.distinct key value

/-- Rewriting text members keeps a structure complete. -/
theorem Completes.textMembers
    {blank : Members}
    {raw : Value}
    {keys : List String}
    {out result : Members}
    (completes : Completes blank out)
    (rewritten :
      VaultItem.textMembers numberText raw keys out = some result) :
    Completes blank result := by
  induction keys generalizing out with
  | nil =>
      cases rewritten
      exact completes
  | cons first rest inductionHypothesis =>
      simp only [VaultItem.textMembers] at rewritten
      split at rewritten
      · exact inductionHypothesis (completes.assign first _) rewritten
      · cases rewritten

/-- A completed structure has all declared members. -/
theorem completesNested_completed
    {blank : Members}
    (distinct : (blank.map Prod.fst).Nodup)
    (nested : Option Value) :
    CompletesNested blank (some (completed blank nested)) := by
  have itself : Completes blank blank := completes_assignAll distinct []
  unfold completed
  split
  · rename_i value
    split
    · exact ⟨_, rfl, completes_assignAll distinct (spread value)⟩
    · exact ⟨blank, rfl, itself⟩
  · exact ⟨blank, rfl, itself⟩

/-- A normalized item has the blank fields, in their order. -/
theorem completes_normalizeItemFields
    {raw : Value}
    {item : Members}
    (returns : normalizeItemFields numberText raw = some item) :
    Completes blankFields item := by
  unfold normalizeItemFields at returns
  split at returns
  · cases returns
  · dsimp only at returns
    split at returns
    · cases returns
    · rename_i entries converted
      split at returns
      · cases returns
      · rename_i rewritten
        obtain ⟨flag, -, rfl⟩ := Option.map_eq_some_iff.mp returns
        have overlaid :=
          @completes_assignAll blankFields (by decide) (spread raw)
        have written :=
          (((overlaid.assign "type" (itemType raw)).assign "card"
            (completed blankCard (property raw "card"))).assign "identity"
            (completed blankIdentity (property raw "identity"))).assign
            "fields" entries
        exact (written.textMembers rewritten).assign "favorite" (.bool flag)

/-- A normalized item is settled. -/
theorem settled_of_normalizeItemFields
    {raw : Value}
    {item : Members}
    (returns : normalizeItemFields numberText raw = some item) :
    Settled item := by
  have normalized := normalized_of_normalizeItemFields numberText returns
  obtain ⟨kind, known, isKind⟩ := itemType_mem raw
  obtain ⟨entries, converted, isEntries⟩ := normalized.fields
  obtain ⟨items, shape, customs⟩ := isCustomField_of_customFields converted
  obtain ⟨flag, -, isFlag⟩ := normalized.favorite
  exact
    { completes := completes_normalizeItemFields returns
      type := ⟨kind, known, by rw [normalized.type, isKind]⟩
      texts := by
        intro key isText
        obtain ⟨value, -, isValue⟩ := normalized.texts key isText
        exact ⟨value, isValue⟩
      card := by
        rw [normalized.card]
        exact completesNested_completed (by decide) _
      identity := by
        rw [normalized.identity]
        exact completesNested_completed (by decide) _
      fields := ⟨items, by rw [isEntries, shape], customs⟩
      favorite := ⟨flag, isFlag⟩ }

/-!
## Normalizing leaves settled items as they are
-/

/-- Overlaying blanks with a complete structure gives the structure. -/
theorem Completes.assignAll_eq
    {blank members : Members}
    (completes : Completes blank members) :
    assignAll blank members = members :=
  assignAll_of_prefix completes.ordered completes.distinct

/-- A structure with all declared members is completed to itself. -/
theorem completed_of_completesNested
    {blank : Members}
    {nested : Option Value}
    (completes : CompletesNested blank nested) :
    nested = some (completed blank nested) := by
  obtain ⟨members, rfl, isComplete⟩ := completes
  simp [completed, isObject, spread, isComplete.assignAll_eq]

/-- A custom field of the declared shape is normalized to itself. -/
theorem IsCustomField.customField_eq
    {entry : Value}
    (custom : IsCustomField entry) :
    customField numberText entry = some entry := by
  obtain ⟨label, value, plain | hidden⟩ := custom
  · rw [plain]
    simp [customField, property, lookup_cons, textOr, text]
  · rw [hidden]
    simp [customField, property, lookup_cons, textOr, text, truthy]

/-- Custom fields of the declared shape are normalized to themselves. -/
theorem customFields_of_customs
    {entries : List Value}
    (customs : ∀ entry ∈ entries, IsCustomField entry) :
    customFields numberText (some (.array entries)) =
      some (.array entries) := by
  have structured : entries.filter isObject = entries := by
    rw [List.filter_eq_self]
    intro entry member
    obtain ⟨label, value, plain | hidden⟩ := customs entry member
    · rw [plain]
      rfl
    · rw [hidden]
      rfl
  have traversed : entries.mapM (customField numberText) = some entries := by
    clear structured
    induction entries with
    | nil =>
        rfl
    | cons entry rest inductionHypothesis =>
        have first := customs entry List.mem_cons_self
        have later :=
          inductionHypothesis fun other member =>
            customs other (List.mem_cons_of_mem entry member)
        simp [List.mapM_cons, first.customField_eq, later]
  simp only [customFields, structured, traversed, Option.map_some]

/-- A type that the client knows is kept. -/
theorem itemType_of_known
    {raw : Value}
    {kind : String}
    (known : kind ∈ ITEM_TYPES)
    (has : property raw "type" = some (.string kind)) :
    itemType raw = .string kind := by
  simp only [ITEM_TYPES, List.mem_cons, List.not_mem_nil, or_false] at known
  rcases known with rfl | rfl | rfl | rfl
  all_goals simp [itemType, has]

/-- Texts that are written over themselves change nothing. -/
theorem textMembers_of_texts
    {item : Members}
    {keys : List String}
    (texts : HasTexts keys item) :
    textMembers numberText (.object item) keys item = some item := by
  induction keys with
  | nil =>
      rfl
  | cons key rest inductionHypothesis =>
      obtain ⟨value, has⟩ := texts key List.mem_cons_self
      have later :=
        inductionHypothesis fun other member =>
          texts other (List.mem_cons_of_mem key member)
      simp only [textMembers, property, has, textOr, text,
        assign_of_lookup has, later]

/-- The spelling of false is in lower case. -/
private theorem toLower_false : "false".toLower = "false" := by
  decide +kernel

/-- A flag is itself the mark of a favourite. -/
theorem favorite_of_bool
    {raw : Value}
    {flag : Bool}
    (has : property raw "favorite" = some (.bool flag)) :
    favorite numberText raw = some flag := by
  cases flag with
  | false => simp [favorite, has, textOfProperty, text, toLower_false]
  | true => simp [favorite, has]

/-- Normalizing a settled item gives the item. -/
theorem normalizeItemFields_of_settled
    {item : Members}
    (settled : Settled item) :
    normalizeItemFields numberText (.object item) = some item := by
  obtain ⟨kind, known, isKind⟩ := settled.type
  obtain ⟨entries, isEntries, customs⟩ := settled.fields
  obtain ⟨flag, isFlag⟩ := settled.favorite
  have overlaid : assignAll blankFields item = item :=
    settled.completes.assignAll_eq
  have type : itemType (.object item) = .string kind :=
    itemType_of_known known isKind
  have card := completed_of_completesNested settled.card
  have identity := completed_of_completesNested settled.identity
  have fields :
      customFields numberText (lookup item "fields") =
        some (.array entries) := by
    rw [isEntries]
    exact customFields_of_customs customs
  have texts := @textMembers_of_texts numberText item textKeys settled.texts
  have marked : favorite numberText (.object item) = some flag :=
    favorite_of_bool isFlag
  simp only [normalizeItemFields, spread, overlaid, type, property,
    assign_of_lookup isKind, assign_of_lookup card, assign_of_lookup identity,
    fields, assign_of_lookup isEntries, texts, marked, Option.map_some,
    assign_of_lookup isFlag]

/-!
## Writing a settled item and reading it back
-/

variable (numberText)

/-- `JSON.parse(JSON.stringify(item, null, space))` -/
def reparsed (layout : Layout) (item : Members) : Option Value :=
  read
    (String.ofList
      (writeLaidOut Crypto.stringifyEscapes layout 0
        (stringified numberText (.object item))))

/--
The numbers that normalizing copies from a payload are finite: those of the
members that the client does not know, of the card and of the identity.
-/
structure CopiesFinite (members : Members) : Prop where
  topLevel :
    ∀ key ∉ blankFields.map Prod.fst, ∀ value,
      lookup members key = some value → Finite numberText value
  card :
    ∀ nested, lookup members "card" = some nested →
      isObject nested = true → Finite numberText nested
  identity :
    ∀ nested, lookup members "identity" = some nested →
      isObject nested = true → Finite numberText nested

variable {numberText}

/-- A payload with finite numbers has finite ones to copy. -/
theorem CopiesFinite.of_finite
    {members : Members}
    (finite : FiniteMembers numberText members) :
    CopiesFinite numberText members := by
  rw [finiteMembers_iff] at finite
  exact
    { topLevel := fun key _ value has => finite _ (mem_of_lookup has)
      card := fun nested has _ => finite _ (mem_of_lookup has)
      identity := fun nested has _ => finite _ (mem_of_lookup has) }

/-- A complete structure is complete when it was written. -/
theorem Completes.stringified
    {blank members : Members}
    (completes : Completes blank members) :
    Completes blank (stringifiedMembers numberText members) where
  ordered := by
    rw [keys_stringifiedMembers]
    exact completes.ordered
  distinct := by
    rw [keys_stringifiedMembers]
    exact completes.distinct

/-- A nested structure is complete when it was written. -/
theorem CompletesNested.stringified
    {blank : Members}
    {nested : Option Value}
    (completes : CompletesNested blank nested) :
    CompletesNested blank (nested.map (VaultItem.stringified numberText)) := by
  obtain ⟨members, rfl, isComplete⟩ := completes
  exact ⟨_, rfl, isComplete.stringified⟩

/-- A settled item is settled when it was written. -/
theorem Settled.stringified
    {item : Members}
    (settled : Settled item) :
    Settled (stringifiedMembers numberText item) where
  completes := settled.completes.stringified
  type := by
    obtain ⟨kind, known, isKind⟩ := settled.type
    refine ⟨kind, known, ?_⟩
    rw [lookup_stringifiedMembers, isKind]
    rfl
  texts := by
    intro key isText
    obtain ⟨value, has⟩ := settled.texts key isText
    refine ⟨value, ?_⟩
    rw [lookup_stringifiedMembers, has]
    rfl
  card := by
    rw [lookup_stringifiedMembers]
    exact settled.card.stringified
  identity := by
    rw [lookup_stringifiedMembers]
    exact settled.identity.stringified
  fields := by
    obtain ⟨entries, isEntries, customs⟩ := settled.fields
    refine ⟨entries, ?_, customs⟩
    rw [lookup_stringifiedMembers, isEntries, Option.map_some,
      VaultItem.stringified, stringifiedItems_of_customs customs]
  favorite := by
    obtain ⟨flag, isFlag⟩ := settled.favorite
    refine ⟨flag, ?_⟩
    rw [lookup_stringifiedMembers, isFlag]
    rfl

/-- Normalizing what was written and read back only sees the written numbers. -/
theorem normalizeItemFields_reparsed
    {item : Members}
    (settled : Settled item)
    (wellFormed : WellFormed (.object item))
    (layout : Layout) :
    (reparsed numberText layout item).bind (normalizeItemFields numberText) =
      some (stringifiedMembers numberText item) := by
  have written :
      reparsed numberText layout item =
        some (.object (stringifiedMembers numberText item)) :=
    read_writeLaidOut Crypto.stringifyEscapes layout 0
      (wellFormed_stringified numberText _ wellFormed)
  rw [written, Option.bind_some]
  exact normalizeItemFields_of_settled settled.stringified

/-!
## The numbers of a normalized item
-/

/-- The keys that an object or a list is spread to are distinct. -/
theorem nodup_keys_spread
    {value : Value}
    (structured : isObject value = true)
    (wellFormed : WellFormed value) :
    ((spread value).map Prod.fst).Nodup := by
  cases value
  case object members =>
    exact wellFormed.1
  case array items =>
    have keys :
        (spread (.array items)).map Prod.fst =
          (List.range' 0 items.length).map Nat.repr := by
      rw [← List.zipIdx_map_snd 0 items, List.map_map]
      simp [spread, List.map_map, Function.comp_def]
    have injective : Function.Injective Nat.repr := by
      intro first second same
      have digits := congrArg (fun text => text.toList) same
      simp only [Nat.toList_repr] at digits
      have values := congrArg (fun text => Nat.ofDigitChars 10 text 0) digits
      simp only [Nat.ofDigitChars_ten_toDigits] at values
      exact values
    rw [keys]
    exact List.Nodup.map injective List.nodup_range'
  all_goals cases structured

/-- What an object or a list is spread to has the numbers that it has. -/
theorem finite_spread
    {value : Value}
    (structured : isObject value = true) :
    FiniteMembers numberText (spread value) ↔ Finite numberText value := by
  cases value
  case object members =>
    exact Iff.rfl
  case array items =>
    rw [Finite, finiteMembers_iff, finiteItems_iff]
    constructor
    · intro finite item member
      obtain ⟨index, inside, isItem⟩ := List.getElem_of_mem member
      have positioned : (item, index) ∈ items.zipIdx := by
        rw [List.mem_zipIdx_iff_getElem?, ← isItem]
        exact List.getElem?_eq_getElem inside
      exact finite _
        (List.mem_map_of_mem positioned)
    · intro finite member isMember
      obtain ⟨item, positioned, rfl⟩ := List.mem_map.mp isMember
      exact finite item.1 (List.fst_mem_of_mem_zipIdx positioned)
  all_goals cases structured

/-- Overlaying blanks copies the numbers of the later members. -/
theorem finite_assignAll
    {blank later : Members}
    (blankFinite : FiniteMembers numberText blank)
    (distinct : (later.map Prod.fst).Nodup) :
    FiniteMembers numberText (assignAll blank later) ↔
      FiniteMembers numberText later := by
  rw [finiteMembers_iff, finiteMembers_iff]
  constructor
  · rintro finite ⟨key, value⟩ member
    have has : lookup (assignAll blank later) key = some value := by
      rw [lookup_assignAll, lookup_reverse distinct,
        lookup_of_mem distinct member, Option.some_or]
    exact finite _ (mem_of_lookup has)
  · intro finite member isMember
    rcases mem_of_mem_assignAll isMember with isBlank | isLater
    · exact (finiteMembers_iff numberText).mp blankFinite member isBlank
    · exact finite member isLater

/-- A completed structure has the numbers of the payload's. -/
theorem finite_completed
    {blank : Members}
    (blankFinite : FiniteMembers numberText blank)
    {nested : Option Value}
    (wellFormed : ∀ value, nested = some value → WellFormed value) :
    Finite numberText (completed blank nested) ↔
      ∀ value, nested = some value → isObject value = true →
        Finite numberText value := by
  cases nested with
  | none =>
      simp only [completed, Finite, blankFinite, true_iff]
      rintro value ⟨⟩
  | some value =>
      by_cases structured : isObject value = true
      · have copied :=
          finite_assignAll blankFinite
            (nodup_keys_spread structured (wellFormed value rfl))
        rw [finite_spread structured] at copied
        simp only [completed, structured, ↓reduceIte, Finite, copied]
        constructor
        · rintro finite other ⟨⟩ -
          exact finite
        · intro finite
          exact finite value rfl structured
      · simp only [completed, structured, Bool.false_eq_true, ↓reduceIte,
          Finite, blankFinite, true_iff]
        rintro other ⟨⟩ isStructured
        exact absurd isStructured structured

/-- The numbers of a normalized item are those that normalizing copies. -/
theorem finite_normalized
    {members item : Members}
    (wellFormed : WellFormed (.object members))
    (returns :
      normalizeItemFields numberText (.object members) = some item) :
    FiniteMembers numberText item ↔ CopiesFinite numberText members := by
  have normalized := normalized_of_normalizeItemFields numberText returns
  have distinct := nodup_keys_normalizeItemFields numberText returns
  have card :=
    @finite_completed numberText blankCard
      (by simp [blankCard, FiniteMembers, Finite]) _
      (@wellFormed_of_property members "card" wellFormed.2)
  have identity :=
    @finite_completed numberText blankIdentity
      (by simp [blankIdentity, FiniteMembers, Finite]) _
      (@wellFormed_of_property members "identity" wellFormed.2)
  rw [finiteMembers_iff]
  constructor
  · intro finite
    exact
      { topLevel := by
          intro key unknown value has
          rw [← lookup_of_unknown wellFormed returns unknown] at has
          exact finite _ (mem_of_lookup has)
        card := card.mp (finite _ (mem_of_lookup normalized.card))
        identity := identity.mp (finite _ (mem_of_lookup normalized.identity)) }
  · rintro copies ⟨key, value⟩ member
    have has := lookup_of_mem distinct member
    by_cases known : key ∈ blankFields.map Prod.fst
    · rcases mem_blankFields_iff.mp known with
        rfl | isText | rfl | rfl | rfl | rfl
      · obtain ⟨kind, -, isKind⟩ := itemType_mem (.object members)
        rw [normalized.type, isKind] at has
        cases has
        trivial
      · obtain ⟨text, -, isValue⟩ := normalized.texts key isText
        rw [isValue] at has
        cases has
        trivial
      · rw [normalized.card] at has
        cases has
        exact card.mpr copies.card
      · rw [normalized.identity] at has
        cases has
        exact identity.mpr copies.identity
      · obtain ⟨entries, converted, isEntries⟩ := normalized.fields
        obtain ⟨items, shape, customs⟩ :=
          isCustomField_of_customFields converted
        rw [isEntries, shape] at has
        cases has
        refine (finiteItems_iff numberText).mpr fun entry isEntry => ?_
        exact (stringified_eq numberText entry).mp
          (customs entry isEntry).stringified_eq
      · obtain ⟨flag, -, isFlag⟩ := normalized.favorite
        rw [isFlag] at has
        cases has
        trivial
    · rw [lookup_of_unknown wellFormed returns known] at has
      exact copies.topLevel key known value has

/-!
## Well-typed items in any order
-/

/-- Deep equality, for which the order of the members does not matter. -/
inductive SameValue : Value → Value → Prop where
  | refl (value : Value) : SameValue value value
  | array
      {items others : List Value}
      (same : List.Forall₂ SameValue items others) :
      SameValue (.array items) (.array others)
  | object
      {members others : Members}
      (same :
        ∀ key,
          Option.Rel SameValue (lookup members key) (lookup others key)) :
      SameValue (.object members) (.object others)

/-- `CustomField`, with its members in any order and any further ones. -/
structure TypedEntry (members : Members) : Prop where
  label : ∃ label, lookup members "label" = some (.string label)
  value : ∃ value, lookup members "value" = some (.string value)
  hidden :
    ∀ hidden, lookup members "hidden" = some hidden →
      ∃ flag, hidden = .bool flag

/-- `ItemFields`, with its members in any order and any further ones. -/
structure TypedItem (item : Members) : Prop where
  type : ∃ kind ∈ ITEM_TYPES, lookup item "type" = some (.string kind)
  texts : HasTexts textKeys item
  card : HasNestedTexts blankCard (lookup item "card")
  identity : HasNestedTexts blankIdentity (lookup item "identity")
  fields :
    ∃ entries,
      lookup item "fields" = some (.array entries) ∧
        ∀ entry ∈ entries, ∃ members,
          entry = .object members ∧ TypedEntry members
  favorite : ∃ flag, lookup item "favorite" = some (.bool flag)

/--
A custom field that says nothing more than the client understands: it is not
marked as shown, and it has no further members.
-/
def PlainEntry (entry : Value) : Prop :=
  property entry "hidden" ≠ some (.bool false) ∧
    ∀ key ∉ customKeys, property entry key = none

/-- A value that may be absent is the same as itself. -/
theorem SameValue.rel_refl (value : Option Value) :
    Option.Rel SameValue value value := by
  cases value with
  | none => exact .none
  | some present => exact .some (.refl present)

/-- Objects with the same values of all keys are the same. -/
theorem SameValue.of_lookup
    {members others : Members}
    (same : ∀ key, lookup members key = lookup others key) :
    SameValue (.object members) (.object others) := by
  apply SameValue.object
  intro key
  rw [same key]
  exact SameValue.rel_refl _

/-- Lists that are the same have the same items. -/
theorem SameValue.items
    {items others : List Value}
    (same : SameValue (.array items) (.array others)) :
    List.Forall₂ SameValue items others := by
  cases same with
  | refl =>
      exact List.forall₂_same.mpr fun item _ => .refl item
  | array items =>
      exact items

/-- Objects that are the same have the same values. -/
theorem SameValue.members
    {members others : Members}
    (same : SameValue (.object members) (.object others))
    (key : String) :
    Option.Rel SameValue (lookup members key) (lookup others key) := by
  cases same with
  | refl => exact SameValue.rel_refl _
  | object alike => exact alike key

/-- A custom field is normalized to the members that the client understands. -/
theorem customField_of_typed
    {members : Members}
    (typed : TypedEntry members) :
    ∃ shown,
      customField numberText (.object members) = some (.object shown) ∧
        lookup shown "label" = lookup members "label" ∧
        lookup shown "value" = lookup members "value" ∧
        (lookup members "hidden" ≠ some (.bool false) →
          lookup shown "hidden" = lookup members "hidden") ∧
        (lookup members "hidden" = some (.bool false) →
          lookup shown "hidden" = none) ∧
        ∀ key ∉ customKeys, lookup shown key = none := by
  obtain ⟨label, isLabel⟩ := typed.label
  obtain ⟨value, isValue⟩ := typed.value
  have plain : IsCustomField
      (.object [("label", .string label), ("value", .string value)]) :=
    ⟨label, value, Or.inl rfl⟩
  have marked : IsCustomField
      (.object
        [("label", .string label), ("value", .string value),
          ("hidden", .bool true)]) :=
    ⟨label, value, Or.inr rfl⟩
  rw [isLabel, isValue]
  cases isHidden : lookup members "hidden" with
  | none =>
      refine ⟨_, ?_, rfl, rfl, fun _ => rfl, fun _ => rfl,
        fun key unknown => plain.property_eq_none unknown⟩
      simp [customField, property, isLabel, isValue, isHidden, textOr, text]
  | some hidden =>
      obtain ⟨flag, rfl⟩ := typed.hidden hidden isHidden
      cases flag with
      | false =>
          refine ⟨_, ?_, rfl, rfl, fun shown => absurd rfl shown,
            fun _ => rfl, fun key unknown => plain.property_eq_none unknown⟩
          simp [customField, property, isLabel, isValue, isHidden, textOr,
            text, truthy]
      | true =>
          refine ⟨_, ?_, rfl, rfl, fun _ => rfl, fun notShown => ?_,
            fun key unknown => marked.property_eq_none unknown⟩
          · simp [customField, property, isLabel, isValue, isHidden, textOr,
              text, truthy]
          · cases notShown

/-- A custom field is unchanged when it says nothing more. -/
theorem sameValue_customField_iff
    {members : Members}
    (typed : TypedEntry members) :
    ∃ shown,
      customField numberText (.object members) = some shown ∧
        (SameValue shown (.object members) ↔
          PlainEntry (.object members)) := by
  obtain ⟨shown, converted, label, value, hidden, unmarked, others⟩ :=
    @customField_of_typed numberText members typed
  refine ⟨.object shown, converted, ?_⟩
  constructor
  · intro same
    constructor
    · intro isFalse
      have isFalse : lookup members "hidden" = some (.bool false) := isFalse
      have alike := same.members "hidden"
      rw [unmarked isFalse, isFalse] at alike
      cases alike
    · intro key unknown
      have alike := same.members key
      rw [others key unknown] at alike
      cases has : lookup members key with
      | none =>
          exact has
      | some value =>
          rw [has] at alike
          cases alike
  · rintro ⟨notFalse, unknown⟩
    apply SameValue.of_lookup
    intro key
    by_cases known : key ∈ customKeys
    · simp only [customKeys, List.mem_cons, List.not_mem_nil, or_false]
        at known
      rcases known with rfl | rfl | rfl
      · exact label
      · exact value
      · exact hidden notFalse
    · rw [others key known]
      exact (unknown key known).symm

/-- The custom fields are unchanged when none of them says anything more. -/
theorem sameValue_customFields_iff
    {entries : List Value}
    (typed :
      ∀ entry ∈ entries, ∃ members,
        entry = .object members ∧ TypedEntry members) :
    ∃ shown,
      customFields numberText (some (.array entries)) = some (.array shown) ∧
        (SameValue (.array shown) (.array entries) ↔
          ∀ entry ∈ entries, PlainEntry entry) := by
  have structured : entries.filter isObject = entries := by
    rw [List.filter_eq_self]
    intro entry member
    obtain ⟨members, rfl, -⟩ := typed entry member
    rfl
  have traversed :
      ∃ shown,
        entries.mapM (customField numberText) = some shown ∧
          (List.Forall₂ SameValue shown entries ↔
            ∀ entry ∈ entries, PlainEntry entry) := by
    clear structured
    induction entries with
    | nil =>
        exact ⟨[], rfl, by simp⟩
    | cons entry rest inductionHypothesis =>
        obtain ⟨members, rfl, isTyped⟩ := typed entry List.mem_cons_self
        obtain ⟨first, isFirst, firstSame⟩ :=
          @sameValue_customField_iff numberText members isTyped
        obtain ⟨later, areLater, laterSame⟩ :=
          inductionHypothesis fun other member =>
            typed other (List.mem_cons_of_mem _ member)
        refine ⟨first :: later, ?_, ?_⟩
        · simp [List.mapM_cons, isFirst, areLater]
        · rw [List.forall₂_cons, firstSame, laterSame, List.forall_mem_cons]
  obtain ⟨shown, converted, same⟩ := traversed
  refine ⟨shown, ?_, ?_⟩
  · simp only [customFields, structured, converted, Option.map_some]
  · rw [← same]
    exact ⟨SameValue.items, SameValue.array⟩

/-- A structure with all declared members is completed to the same one. -/
theorem sameValue_completed
    {blank : Members}
    {nested : Option Value}
    (texts : HasNestedTexts blank nested)
    (wellFormed : ∀ value, nested = some value → WellFormed value) :
    ∀ value, nested = some value →
      SameValue (completed blank nested) value := by
  obtain ⟨members, rfl, declared⟩ := texts
  rintro value ⟨⟩
  have distinct := (wellFormed _ rfl).1
  apply SameValue.of_lookup
  intro key
  rw [spread, lookup_assignAll, lookup_reverse distinct]
  cases has : lookup members key with
  | some value =>
      exact Option.some_or
  | none =>
      rw [Option.none_or]
      cases isBlank : lookup blank key with
      | none =>
          rfl
      | some default =>
          obtain ⟨text, isText⟩ :=
            declared key
              (List.mem_map_of_mem (mem_of_lookup isBlank))
          rw [has] at isText
          cases isText

/-- What a well-typed item converts to text is convertible. -/
theorem TypedItem.coerces
    {item : Members}
    (typed : TypedItem item) :
    Coerces (.object item) where
  texts := by
    intro key isText value has
    obtain ⟨text, isValue⟩ := typed.texts key isText
    rw [property, isValue] at has
    cases has
    trivial
  favorite := by
    intro value has
    obtain ⟨flag, isFlag⟩ := typed.favorite
    rw [property, isFlag] at has
    cases has
    trivial
  fields := by
    intro entries has entry member _ key declared value isValue
    obtain ⟨typedEntries, areEntries, areTyped⟩ := typed.fields
    rw [property, areEntries] at has
    cases has
    obtain ⟨members, rfl, isTyped⟩ := areTyped entry member
    simp only [List.mem_cons, List.not_mem_nil, or_false] at declared
    rcases declared with rfl | rfl
    · obtain ⟨text, isText⟩ := isTyped.label
      rw [property, isText] at isValue
      cases isValue
      trivial
    · obtain ⟨text, isText⟩ := isTyped.value
      rw [property, isText] at isValue
      cases isValue
      trivial

/-- Normalizing changes nothing of a well-typed item but its custom fields. -/
theorem sameValue_of_typed
    {item same : Members}
    (wellFormed : WellFormed (.object item))
    (typed : TypedItem item)
    (returns : normalizeItemFields numberText (.object item) = some same)
    {key : String}
    (other : key ≠ "fields") :
    Option.Rel SameValue (lookup same key) (lookup item key) := by
  have normalized := normalized_of_normalizeItemFields numberText returns
  have nested (key : String) :
      ∀ value, lookup item key = some value → WellFormed value :=
    wellFormed_of_property wellFormed.2
  by_cases known : key ∈ blankFields.map Prod.fst
  · rcases mem_blankFields_iff.mp known with
      rfl | isText | rfl | rfl | rfl | rfl
    · obtain ⟨kind, isKnown, isKind⟩ := typed.type
      have kept := @itemType_of_known (.object item) kind isKnown isKind
      rw [normalized.type, kept, isKind]
      exact .some (.refl _)
    · obtain ⟨given, has⟩ := typed.texts key isText
      obtain ⟨value, isValue, isWritten⟩ := normalized.texts key isText
      simp only [property, has, textOr, text, Option.some.injEq] at isValue
      rw [isWritten, has, isValue]
      exact .some (.refl _)
    · have card := sameValue_completed typed.card (nested "card")
      obtain ⟨members, isCard, -⟩ := typed.card
      rw [normalized.card, isCard]
      exact .some (card _ isCard)
    · have identity := sameValue_completed typed.identity (nested "identity")
      obtain ⟨members, isIdentity, -⟩ := typed.identity
      rw [normalized.identity, isIdentity]
      exact .some (identity _ isIdentity)
    · exact absurd rfl other
    · obtain ⟨flag, isFlag⟩ := typed.favorite
      obtain ⟨written, marked, isWritten⟩ := normalized.favorite
      have kept :=
        @favorite_of_bool numberText (.object item) flag isFlag
      rw [isWritten, isFlag, Option.some.inj (marked.symm.trans kept)]
      exact .some (.refl _)
  · rw [lookup_of_unknown wellFormed returns known]
    exact SameValue.rel_refl _

/-- A well-typed item is unchanged when its custom fields say nothing more. -/
theorem sameValue_normalizeItemFields_iff
    {item : Members}
    (wellFormed : WellFormed (.object item))
    (typed : TypedItem item) :
    ∃ same,
      normalizeItemFields numberText (.object item) = some same ∧
        (SameValue (.object same) (.object item) ↔
          ∀ entries, lookup item "fields" = some (.array entries) →
            ∀ entry ∈ entries, PlainEntry entry) := by
  obtain ⟨same, returns⟩ :=
    Option.isSome_iff_exists.mp
      ((isSome_normalizeItemFields numberText).mpr typed.coerces)
  obtain ⟨entries, areEntries, areTyped⟩ := typed.fields
  obtain ⟨shown, converted, sameFields⟩ :=
    @sameValue_customFields_iff numberText entries areTyped
  have isShown : lookup same "fields" = some (.array shown) := by
    have normalized := normalized_of_normalizeItemFields numberText returns
    obtain ⟨written, isWritten, found⟩ := normalized.fields
    rw [property, areEntries, converted] at isWritten
    rw [found, ← Option.some.inj isWritten]
  refine ⟨same, returns, ?_⟩
  constructor
  · intro unchanged others has
    have fields := unchanged.members "fields"
    rw [areEntries] at has
    cases has
    rw [isShown, areEntries] at fields
    cases fields with
    | some alike => exact sameFields.mp alike
  · intro plain
    apply SameValue.object
    intro key
    by_cases isFields : key = "fields"
    · rw [isFields, isShown, areEntries]
      exact .some (sameFields.mpr (plain entries areEntries))
    · exact sameValue_of_typed wellFormed typed returns isFields

end Normalization

/--
Normalizing twice is normalizing once, for every payload.  In between the item may
be written as JSON and read back exactly when the numbers that normalizing copies
are finite, and a well-typed item is returned unchanged exactly when its custom
fields say nothing more than the client understands.
-/
theorem item_normalization_projects (numberText : String → String) :
    (∀ members item,
      WellFormed (.object members) →
        normalizeItemFields numberText (.object members) = some item →
          normalizeItemFields numberText (.object item) = some item ∧
            ∀ layout,
              (reparsed numberText layout item).bind
                  (normalizeItemFields numberText) = some item ↔
                CopiesFinite numberText members) ∧
      ∀ item,
        WellFormed (.object item) →
          TypedItem item →
            ∃ same,
              normalizeItemFields numberText (.object item) = some same ∧
                (SameValue (.object same) (.object item) ↔
                  ∀ entries, lookup item "fields" = some (.array entries) →
                    ∀ entry ∈ entries, PlainEntry entry) := by
  constructor
  · intro members item wellFormed returns
    have settled := settled_of_normalizeItemFields returns
    have itemFormed := wellFormed_normalizeItemFields wellFormed returns
    refine ⟨normalizeItemFields_of_settled settled, ?_⟩
    intro layout
    rw [normalizeItemFields_reparsed settled itemFormed layout,
      Option.some.injEq, stringifiedMembers_eq,
      finite_normalized wellFormed returns]
  · intro item wellFormed typed
    exact sameValue_normalizeItemFields_iff wellFormed typed

/-- A well-typed note with its members in another order and a further one. -/
def reorderedNote : Members :=
  [("score", .number "7"), ("folder", .string ""), ("favorite", .bool true),
    ("fields",
      .array
        [.object
          [("hidden", .bool true), ("value", .string "0000"),
            ("label", .string "PIN")]]),
    ("identity", .object blankIdentity), ("card", .object blankCard),
    ("notes", .string "Basement"), ("totp", .string ""), ("url", .string ""),
    ("password", .string ""), ("username", .string ""),
    ("name", .string "Alarm"), ("type", .string "note")]

/-- The note is normalized to itself, and its normalization is settled. -/
theorem reorderedNote_projected :
    ∃ item,
      normalizeItemFields id (.object reorderedNote) = some item ∧
        normalizeItemFields id (.object item) = some item ∧
        (∀ layout,
          (reparsed id layout item).bind (normalizeItemFields id) =
            some item) ∧
        SameValue (.object item) (.object reorderedNote) := by
  have wellFormed : WellFormed (.object reorderedNote) := by
    simp [reorderedNote, blankIdentity, blankCard, WellFormed,
      WellFormedMembers, WellFormedItems]
    decide
  have typed : TypedItem reorderedNote :=
    { type := ⟨"note", by decide, rfl⟩
      texts := by
        simp [HasTexts, textKeys, reorderedNote, lookup_cons]
      card := ⟨blankCard, rfl, hasTexts_blankCard⟩
      identity := ⟨blankIdentity, rfl, hasTexts_blankIdentity⟩
      fields := by
        refine ⟨_, rfl, ?_⟩
        intro entry member
        rw [List.mem_singleton.mp member]
        refine ⟨_, rfl, ⟨"PIN", rfl⟩, ⟨"0000", rfl⟩, ?_⟩
        rintro hidden ⟨⟩
        exact ⟨true, rfl⟩
      favorite := ⟨true, rfl⟩ }
  have copies : CopiesFinite id reorderedNote := by
    apply CopiesFinite.of_finite
    simp [reorderedNote, blankIdentity, blankCard, FiniteMembers, Finite,
      FiniteItems, overflows]
  have plain :
      ∀ entries, lookup reorderedNote "fields" = some (.array entries) →
        ∀ entry ∈ entries, PlainEntry entry := by
    rintro entries ⟨⟩ entry member
    rw [List.mem_singleton.mp member]
    constructor
    · rintro ⟨⟩
    · intro key unknown
      simp only [customKeys, List.mem_cons, List.not_mem_nil, or_false,
        not_or] at unknown
      obtain ⟨notLabel, notValue, notHidden⟩ := unknown
      simp [property, lookup_cons, Ne.symm notLabel, Ne.symm notValue,
        Ne.symm notHidden]
  obtain ⟨item, returns, unchanged⟩ :=
    (item_normalization_projects id).2 reorderedNote wellFormed typed
  obtain ⟨again, reread⟩ :=
    (item_normalization_projects id).1 reorderedNote item wellFormed returns
  exact ⟨item, returns, again, fun layout => (reread layout).mpr copies,
    unchanged.mpr plain⟩

/-- The texts of numbers, of which one literal is beyond the largest. -/
def doubleText (literal : String) : String :=
  if literal = "1e999" then "Infinity" else literal

/-- A payload with a number beyond the largest. -/
def infiniteReading : Members :=
  [("name", .string "Boiler"), ("reading", .number "1e999")]

/-- The number is `null` after the item was written and read back. -/
theorem infiniteReading_changed :
    read "\x7b\"name\":\"Boiler\",\"reading\":1e999\x7d" =
        some (.object infiniteReading) ∧
      ∃ item changed,
        normalizeItemFields doubleText (.object infiniteReading) =
            some item ∧
          lookup item "reading" = some (.number "1e999") ∧
          (reparsed doubleText compact item).bind
              (normalizeItemFields doubleText) = some changed ∧
          lookup changed "reading" = some .null ∧
          changed ≠ item := by
  have wellFormed : WellFormed (.object infiniteReading) := by
    simp [infiniteReading, WellFormed, WellFormedMembers]
    decide
  have spelled :
      "\x7b\"name\":\"Boiler\",\"reading\":1e999\x7d" =
        Crypto.stringify (.object infiniteReading) := by
    decide
  have coerces : Coerces (.object infiniteReading) :=
    { texts := by
        simp [textKeys, infiniteReading, property, lookup_cons, Convertible]
      favorite := by
        simp [infiniteReading, property, lookup_cons]
      fields := by
        simp [infiniteReading, property, lookup_cons] }
  obtain ⟨item, returns⟩ :=
    Option.isSome_iff_exists.mp
      ((isSome_normalizeItemFields doubleText).mpr coerces)
  refine ⟨?_, ?_⟩
  · rw [spelled]
    exact read_write Crypto.stringifyEscapes wellFormed
  · have reading : lookup item "reading" = some (.number "1e999") :=
      lookup_of_unknown wellFormed returns (by decide)
    have lost :
        lookup (stringifiedMembers doubleText item) "reading" =
          some .null := by
      rw [lookup_stringifiedMembers, reading]
      rfl
    have reread :=
      @normalizeItemFields_reparsed doubleText item
        (settled_of_normalizeItemFields returns)
        (wellFormed_normalizeItemFields wellFormed returns) compact
    refine ⟨item, stringifiedMembers doubleText item, returns, reading, reread,
      lost, ?_⟩
    intro same
    rw [same, reading] at lost
    cases lost

end Passwd.VaultItem
