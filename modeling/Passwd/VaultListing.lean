import Passwd.VaultItem
import Passwd.JsonRoundTrip
import Mathlib.Data.List.Forall2

namespace Passwd.VaultListing

open Json JavaScript VaultItem

/-!
# Listing the vault and the items shared with an account

Both listings decrypt a row of the server, parse the plaintext as JSON and
spread the normalized fields into a fresh object that already carries the id of
the row.  Rows that do not decrypt, parse or normalize are skipped.

The spread comes last, so a payload member named like the id replaces it.
-/

/-- A share as the server lists it. -/
structure ShareDto where
  id : String
  wrappedKey : String
  data : String
  createdAt : String

/-- A cipher as the server synchronizes it. -/
structure CipherDto where
  id : String
  data : String
  createdAt : String
  updatedAt : String

/-- The method and path of a request. -/
structure Request where
  method : String
  path : String
deriving DecidableEq

section Listing

variable
  (numberText : String → String)
  (openShare : String → String → Option String)
  (decryptItemKeyed : String → Option String)

/-- The payload of a share, decrypted and parsed. -/
def sharedFields (sh : ShareDto) : Option Value :=
  (openShare sh.wrappedKey sh.data).bind read

/-- `{ id: sh.id, shareId: sh.id, ...normalizeItemFields(fields) }` -/
def sharedItem (sh : ShareDto) : Option Members :=
  (sharedFields openShare sh).bind fun fields =>
    (normalizeItemFields numberText fields).map
      (assignAll [("id", .string sh.id), ("shareId", .string sh.id)])

/-- `listSharedWithMe` -/
def listSharedWithMe (shares : List ShareDto) : List Members :=
  shares.filterMap (sharedItem numberText openShare)

/-- The payload of a cipher, decrypted and parsed. -/
def vaultFields (c : CipherDto) : Option Value :=
  (decryptItemKeyed c.data).bind read

/-- `{ id: c.id, ...normalizeItemFields(fields) }` -/
def vaultItem (c : CipherDto) : Option Members :=
  (vaultFields decryptItemKeyed c).bind fun fields =>
    (normalizeItemFields numberText fields).map
      (assignAll [("id", .string c.id)])

/-- `loadVault` -/
def loadVault (ciphers : List CipherDto) : List Members :=
  ciphers.filterMap (vaultItem numberText decryptItemKeyed)

/-- `api.deleteShare`, for an id that has been converted to a string. -/
def deleteShare (id : String) : Request where
  method := "DELETE"
  path := "/api/shares/" ++ id

/-- The request of `removeSharedItem(session, item.shareId)`. -/
def removeSharedItem (item : Members) : Option Request :=
  (textOfProperty numberText (lookup item "shareId")).map deleteShare

/-!
## Which item stands for which row
-/

/-- The displayed item carries the id of its share, and removing it removes it. -/
def AddressesShare (sh : ShareDto) (item : Members) : Prop :=
  lookup item "id" = some (.string sh.id) ∧
    lookup item "shareId" = some (.string sh.id) ∧
    removeSharedItem numberText item = some (deleteShare sh.id)

/-- The displayed item carries the id of its cipher. -/
def CarriesCipherId (c : CipherDto) (item : Members) : Prop :=
  lookup item "id" = some (.string c.id)

/--
Both listings show one item for each row that opens, in the order of the rows,
and every item addresses the row it came from.
-/
def ListingsAddressRows
    (shares : List ShareDto)
    (ciphers : List CipherDto) : Prop :=
  List.Forall₂ (AddressesShare numberText)
      (shares.filter fun sh => (sharedItem numberText openShare sh).isSome)
      (listSharedWithMe numberText openShare shares) ∧
    List.Forall₂ CarriesCipherId
      (ciphers.filter fun c =>
        (vaultItem numberText decryptItemKeyed c).isSome)
      (loadVault numberText decryptItemKeyed ciphers)

/-- A payload has no member `key`, or the member is `id` already. -/
def Agrees (fields : Value) (key id : String) : Prop :=
  ∀ value, property fields key = some value → value = .string id

/-- No payload that is displayed disagrees with the server about an id. -/
def PayloadsAgree
    (shares : List ShareDto)
    (ciphers : List CipherDto) : Prop :=
  (∀ sh ∈ shares, ∀ fields,
      sharedFields openShare sh = some fields →
      (normalizeItemFields numberText fields).isSome →
      Agrees fields "id" sh.id ∧ Agrees fields "shareId" sh.id) ∧
    ∀ c ∈ ciphers, ∀ fields,
      vaultFields decryptItemKeyed c = some fields →
      (normalizeItemFields numberText fields).isSome →
      Agrees fields "id" c.id

end Listing

/-!
## The members a payload can overwrite
-/

/-- A payload that was read has distinct keys, if it is an object. -/
private theorem distinct_of_read
    {text : String}
    {fields : Value}
    (parsed : read text = some fields) :
    ∀ members, fields = .object members →
      (members.map Prod.fst).Nodup := by
  rintro members rfl
  exact nodup_keys_of_read parsed

/-- After the spread a key has the payload's value, or else the earlier one. -/
private theorem lookup_spread_over
    {numberText : String → String}
    {text : String}
    {fields : Value}
    {normalized : Members}
    (key : String)
    (symbol : Char)
    (earlier : Members)
    (parsed : read text = some fields)
    (normalizes :
      normalizeItemFields numberText fields = some normalized)
    (member : symbol ∈ key.toList)
    (notDigit : symbol.isDigit = false)
    (unknown : key ∉ blankFields.map Prod.fst) :
    lookup (assignAll earlier normalized) key =
      (property fields key).or (lookup earlier key) := by
  rw [lookup_assignAll,
    lookup_reverse (nodup_keys_normalizeItemFields numberText normalizes),
    lookup_normalizeItemFields numberText normalizes unknown,
    lookup_spread (distinct_of_read parsed) member notDigit]

/-!
## When the listings address their rows
-/

section Listing

variable
  {numberText : String → String}
  {openShare : String → String → Option String}
  {decryptItemKeyed : String → Option String}

/--
Keeping the elements with an image beside their images, a relation holds
throughout exactly when it holds of every element and its image.
-/
private theorem forall₂_filter_filterMap
    {α β : Type}
    {relation : α → β → Prop}
    (image : α → Option β)
    (elements : List α) :
    List.Forall₂ relation
        (elements.filter fun element => (image element).isSome)
        (elements.filterMap image) ↔
      ∀ element ∈ elements, ∀ value,
        image element = some value → relation element value := by
  induction elements with
  | nil =>
      simp
  | cons first rest inductionHypothesis =>
      cases shape : image first with
      | none =>
          simp [shape, inductionHypothesis]
      | some value =>
          simp [shape, inductionHypothesis]

/-- A member written before the spread survives exactly when it agrees. -/
private theorem survives_iff_agrees
    {fields : Value}
    {key id : String} :
    (property fields key).or (some (.string id)) = some (.string id) ↔
      Agrees fields key id := by
  unfold Agrees
  cases property fields key with
  | none =>
      simp
  | some value =>
      simp

/--
A property of whatever a row displays, in terms of the payload, when the two
are equivalent for every payload that was read from a text.
-/
private theorem displayed_iff
    {decrypted : Option String}
    {earlier : Members}
    {shown : Members → Prop}
    {agreement : Value → Prop}
    (equivalent :
      ∀ text fields normalized,
        read text = some fields →
        normalizeItemFields numberText fields = some normalized →
        (shown (assignAll earlier normalized) ↔ agreement fields)) :
    (∀ item,
        ((decrypted.bind read).bind fun fields =>
          (normalizeItemFields numberText fields).map
            (assignAll earlier)) = some item →
        shown item) ↔
      ∀ fields,
        decrypted.bind read = some fields →
        (normalizeItemFields numberText fields).isSome →
        agreement fields := by
  constructor
  · intro everyItem fields opened normalizes
    obtain ⟨text, _, parsed⟩ := Option.bind_eq_some_iff.mp opened
    obtain ⟨normalized, shape⟩ := Option.isSome_iff_exists.mp normalizes
    refine (equivalent text fields normalized parsed shape).mp ?_
    apply everyItem
    rw [opened, Option.bind_some, shape, Option.map_some]
  · intro everyPayload item displayed
    obtain ⟨fields, opened, rest⟩ := Option.bind_eq_some_iff.mp displayed
    obtain ⟨normalized, shape, rfl⟩ := Option.map_eq_some_iff.mp rest
    obtain ⟨text, _, parsed⟩ := Option.bind_eq_some_iff.mp opened
    refine (equivalent text fields normalized parsed shape).mpr ?_
    exact everyPayload fields opened
      (Option.isSome_iff_exists.mpr ⟨normalized, shape⟩)

/-- A shared item addresses its share exactly when its payload agrees. -/
private theorem addressesShare_iff
    {sh : ShareDto}
    {text : String}
    {fields : Value}
    {normalized : Members}
    (parsed : read text = some fields)
    (normalizes :
      normalizeItemFields numberText fields = some normalized) :
    AddressesShare numberText sh
        (assignAll [("id", .string sh.id), ("shareId", .string sh.id)]
          normalized) ↔
      Agrees fields "id" sh.id ∧ Agrees fields "shareId" sh.id := by
  have displayedId :=
    lookup_spread_over "id" 'i'
      [("id", .string sh.id), ("shareId", .string sh.id)]
      parsed normalizes (by decide) (by decide) (by decide)
  have displayedShareId :=
    lookup_spread_over "shareId" 'I'
      [("id", .string sh.id), ("shareId", .string sh.id)]
      parsed normalizes (by decide) (by decide) (by decide)
  have earlierId :
      lookup [("id", .string sh.id), ("shareId", .string sh.id)] "id" =
        some (.string sh.id) := by
    simp [lookup_cons]
  have earlierShareId :
      lookup [("id", .string sh.id), ("shareId", .string sh.id)]
          "shareId" =
        some (.string sh.id) := by
    simp [lookup_cons]
  rw [earlierId] at displayedId
  rw [earlierShareId] at displayedShareId
  unfold AddressesShare removeSharedItem
  rw [displayedId, displayedShareId, ← survives_iff_agrees,
    ← survives_iff_agrees]
  constructor
  · rintro ⟨sameId, sameShareId, _⟩
    exact ⟨sameId, sameShareId⟩
  · rintro ⟨sameId, sameShareId⟩
    refine ⟨sameId, sameShareId, ?_⟩
    rw [sameShareId]
    rfl

/-- A vault item carries its cipher's id exactly when its payload agrees. -/
private theorem carriesCipherId_iff
    {c : CipherDto}
    {text : String}
    {fields : Value}
    {normalized : Members}
    (parsed : read text = some fields)
    (normalizes :
      normalizeItemFields numberText fields = some normalized) :
    CarriesCipherId c (assignAll [("id", .string c.id)] normalized) ↔
      Agrees fields "id" c.id := by
  have displayedId :=
    lookup_spread_over "id" 'i'
      [("id", .string c.id)]
      parsed normalizes (by decide) (by decide) (by decide)
  have earlierId :
      lookup [("id", .string c.id)] "id" = some (.string c.id) := by
    simp [lookup_cons]
  rw [earlierId] at displayedId
  unfold CarriesCipherId
  rw [displayedId, survives_iff_agrees]

/--
The listings address their rows exactly when no displayed payload has a member
`id` or `shareId` that disagrees with the server.
-/
theorem listingsAddressRows_iff
    (numberText : String → String)
    (openShare : String → String → Option String)
    (decryptItemKeyed : String → Option String)
    (shares : List ShareDto)
    (ciphers : List CipherDto) :
    ListingsAddressRows numberText openShare decryptItemKeyed shares
        ciphers ↔
      PayloadsAgree numberText openShare decryptItemKeyed shares
        ciphers := by
  unfold ListingsAddressRows PayloadsAgree listSharedWithMe loadVault
  rw [forall₂_filter_filterMap, forall₂_filter_filterMap]
  refine and_congr ?_ ?_
  · refine forall₂_congr fun sh _ => ?_
    exact displayed_iff fun _ _ _ parsed normalizes =>
      addressesShare_iff parsed normalizes
  · refine forall₂_congr fun c _ => ?_
    exact displayed_iff fun _ _ _ parsed normalizes =>
      carriesCipherId_iff parsed normalizes

end Listing

/-- A share whose payload names another path as its own id. -/
def hijackingShare : ShareDto where
  id := "4f1c"
  wrappedKey := ""
  data := "\x7b\"id\":\"../account\",\"shareId\":\"../account\"\x7d"
  createdAt := ""

/-- With that payload, removing the displayed item deletes the account. -/
theorem hijackingShare_removes_account :
    (sharedItem id (fun _ data => some data) hijackingShare).bind
        (removeSharedItem id) =
      some ⟨"DELETE", "/api/shares/../account"⟩ ∧
    ¬ ListingsAddressRows id (fun _ data => some data) some
        [hijackingShare] [] := by
  have removes :
      (sharedItem id (fun _ data => some data) hijackingShare).bind
          (removeSharedItem id) =
        some ⟨"DELETE", "/api/shares/../account"⟩ := by
    decide +kernel
  refine ⟨removes, ?_⟩
  intro listings
  obtain ⟨item, displayed, request⟩ := Option.bind_eq_some_iff.mp removes
  have addresses :=
    (forall₂_filter_filterMap _ _).mp listings.1 hijackingShare
      List.mem_cons_self item displayed
  have sameRequest := addresses.2.2
  rw [request] at sameRequest
  revert sameRequest
  decide

end Passwd.VaultListing
