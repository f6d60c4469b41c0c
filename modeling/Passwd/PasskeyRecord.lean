import Passwd.ServerStore
import Passwd.JsonRoundTrip

namespace Passwd.Server

open Base64

/-!
# Passkeys in the store

A passkey is enrolled as a credential of the WebAuthn library, kept as a row of
the store and turned into a credential again when an assertion is validated.
The two conversions list their fields separately, and the transports travel as
a JSON array in a text column.
-/

/-!
## JSON as Go writes it
-/

/-- The characters that `json.Marshal` escapes to keep a text safe in HTML. -/
def goEscapes : Json.EscapeStyle where
  extra symbol :=
    symbol = '<' || symbol = '>' || symbol = '&' ||
      symbol = Char.ofNat 0x2028 || symbol = Char.ofNat 0x2029
  extra_basic := by
    intro symbol escaped
    simp only [Bool.or_eq_true, decide_eq_true_eq, or_assoc] at escaped
    rcases escaped with rfl | rfl | rfl | rfl | rfl
    · decide
    · decide
    · decide
    · decide
    · decide

/-- `json.Marshal` of a slice of strings. -/
def marshalStrings (ts : List String) : String :=
  String.ofList (Json.write goEscapes (.array (ts.map .string)))

/-- One element of a slice of strings; `null` leaves the zero value. -/
def unmarshalString : Json.Value → Option String
  | .string t => some t
  | .null => some ""
  | _ => none

/-- `json.Unmarshal` into a slice of strings. -/
def unmarshalStrings (text : String) : Option (List String) :=
  match Json.read text with
  | some (.array items) => items.mapM unmarshalString
  | some .null => some []
  | _ => none

/-- Unmarshalling inverts marshalling. -/
theorem unmarshalStrings_marshalStrings (ts : List String) :
    unmarshalStrings (marshalStrings ts) = some ts := by
  have wellFormed : Json.WellFormed (.array (ts.map .string)) := by
    simp only [Json.WellFormed]
    induction ts with
    | nil =>
        exact True.intro
    | cons first rest inductionHypothesis =>
        exact ⟨True.intro, inductionHypothesis⟩
  have elements :
      (ts.map Json.Value.string).mapM unmarshalString = some ts := by
    induction ts with
    | nil =>
        rfl
    | cons first rest inductionHypothesis =>
        have tail : Json.WellFormed (.array (rest.map .string)) := by
          simp only [Json.WellFormed, List.map_cons,
            Json.WellFormedItems] at wellFormed ⊢
          exact wellFormed.2
        simp [unmarshalString, inductionHypothesis tail]
  unfold unmarshalStrings marshalStrings
  rw [Json.read_write goEscapes wellFormed]
  exact elements

/-!
## Credentials of the WebAuthn library
-/

/-- `webauthn.CredentialFlags` -/
structure CredentialFlags where
  userPresent : Bool
  userVerified : Bool
  backupEligible : Bool
  backupState : Bool
deriving DecidableEq

/-- The flags of a credential in which they were never set. -/
def CredentialFlags.zero : CredentialFlags where
  userPresent := false
  userVerified := false
  backupEligible := false
  backupState := false

/-- `webauthn.Authenticator` -/
structure Authenticator where
  aaguid : Bytes
  signCount : UInt32
  cloneWarning : Bool
  attachment : String
deriving DecidableEq

/-- `webauthn.Credential`, as far as the server or validation reads it. -/
structure Credential where
  id : Bytes
  publicKey : Bytes
  attestationType : String
  transport : List String
  flags : CredentialFlags
  authenticator : Authenticator
deriving DecidableEq

/-- `toWebAuthnCredential` -/
def toWebAuthnCredential (c : WebAuthnCredential) : Credential where
  id := c.credentialID
  publicKey := c.publicKey
  attestationType := c.attestationType
  transport :=
    if c.transports = "" then
      []
    else
      (unmarshalStrings c.transports).getD []
  flags := .zero
  authenticator :=
    { aaguid := c.aaguid
      signCount := c.signCount
      cloneWarning := false
      attachment := "" }

/-- `fromWebAuthnCredential`, with the new row id and the current time. -/
def fromWebAuthnCredential
    (rowID : String)
    (now : Time)
    (userID name : String)
    (wc : Credential) :
    WebAuthnCredential where
  id := rowID
  userID := userID
  credentialID := wc.id
  publicKey := wc.publicKey
  attestationType := wc.attestationType
  transports := marshalStrings wc.transport
  aaguid := wc.authenticator.aaguid
  signCount := wc.authenticator.signCount
  name := name
  createdAt := now
  updatedAt := now

/-!
## Storing a passkey and loading it back
-/

/-- Equality in the fields that validating an assertion consults. -/
structure SameForValidation (loaded enrolled : Credential) : Prop where
  id : loaded.id = enrolled.id
  publicKey : loaded.publicKey = enrolled.publicKey
  attestationType : loaded.attestationType = enrolled.attestationType
  transport : loaded.transport = enrolled.transport
  flags : loaded.flags = enrolled.flags
  aaguid : loaded.authenticator.aaguid = enrolled.authenticator.aaguid
  signCount :
    loaded.authenticator.signCount = enrolled.authenticator.signCount

/--
Store an enrolled credential, list the passkeys of the account, and convert the
row that holds the credential.
-/
def storeAndLoad
    (backend : Backend)
    (store : Store)
    (rowID : String)
    (now : Time)
    (userID name : String)
    (enrolled : Credential) :
    Option Credential :=
  let created :=
    store.createWebAuthnCredential backend
      (fromWebAuthnCredential rowID now userID name enrolled)
  match created.1, (created.2.listWebAuthnCredentials userID).1 with
  | .ok (), .ok rows =>
      (rows.find? fun c => c.credentialID = enrolled.id).map
        toWebAuthnCredential
  | _, _ => none

/-- The state after a passkey was stored, and why it could be. -/
private theorem createWebAuthnCredential_eq_ok
    {backend : Backend}
    {store : Store}
    {c : WebAuthnCredential}
    (created : (store.createWebAuthnCredential backend c).1 = .ok ()) :
    (∀ existing ∈ store.passkeys.rows,
        existing.credentialID ≠ c.credentialID) ∧
      (store.createWebAuthnCredential backend c).2 =
        { store with
          passkeys := store.passkeys.upsert { c with
            createdAt := backend.stamp c.createdAt
            updatedAt := backend.stamp c.updatedAt } } := by
  unfold Store.createWebAuthnCredential at created ⊢
  split at created
  · cases created
  · rename_i fresh
    split at created
    · cases created
    · rename_i newRow
      rw [if_neg fresh, if_neg newRow]
      refine ⟨?_, rfl⟩
      intro existing member same
      apply fresh
      exact List.any_eq_true.mpr ⟨existing, member, by simpa using same⟩

/-- The row that was stored is the one that is listed for its credential. -/
private theorem find?_listWebAuthnCredentials
    {store : Store}
    {row : WebAuthnCredential}
    (fresh :
      ∀ existing ∈ store.passkeys.rows,
        existing.credentialID ≠ row.credentialID) :
    ((((store.passkeys.upsert row).rows.filter fun c =>
        c.userID = row.userID).mergeSort fun first later =>
          first.createdAt ≤ later.createdAt).find? fun c =>
            c.credentialID = row.credentialID) = some row := by
  have stored : row ∈ (store.passkeys.upsert row).rows := by
    have found : (store.passkeys.upsert row).find? row.id = some row := by
      rw [Table.find?_upsert]
      simp
    exact Table.mem_of_find? found
  have listed :
      row ∈ ((store.passkeys.upsert row).rows.filter fun c =>
        c.userID = row.userID).mergeSort fun first later =>
          first.createdAt ≤ later.createdAt := by
    rw [List.mem_mergeSort, List.mem_filter]
    exact ⟨stored, by simp⟩
  cases found :
      (((store.passkeys.upsert row).rows.filter fun c =>
        c.userID = row.userID).mergeSort fun first later =>
          first.createdAt ≤ later.createdAt).find? fun c =>
            c.credentialID = row.credentialID with
  | none =>
      have absent := List.find?_eq_none.mp found row listed
      simp at absent
  | some other =>
      have sameCredential := List.find?_some found
      simp only [decide_eq_true_eq] at sameCredential
      have member := List.mem_of_find?_eq_some found
      rw [List.mem_mergeSort, List.mem_filter] at member
      rcases Table.mem_upsert member.1 with isRow | isOld
      · rw [isRow]
      · exact absurd sameCredential (fresh other isOld)

/-- What is loaded back is the enrolled credential without its flags. -/
theorem storeAndLoad_eq
    {backend : Backend}
    {store : Store}
    {rowID : String}
    {now : Time}
    {userID name : String}
    {enrolled : Credential}
    (created :
      (store.createWebAuthnCredential backend
        (fromWebAuthnCredential rowID now userID name enrolled)).1 =
          .ok ()) :
    storeAndLoad backend store rowID now userID name enrolled =
      some { enrolled with
        flags := .zero
        authenticator := { enrolled.authenticator with
          cloneWarning := false
          attachment := "" } } := by
  obtain ⟨fresh, after⟩ := createWebAuthnCredential_eq_ok created
  have listed :=
    @find?_listWebAuthnCredentials store
      { fromWebAuthnCredential rowID now userID name enrolled with
        createdAt := backend.stamp now
        updatedAt := backend.stamp now }
      fresh
  have written : marshalStrings enrolled.transport ≠ "" := by
    intro empty
    have text := congrArg String.toList empty
    cases transports : enrolled.transport with
    | nil =>
        rw [transports] at text
        revert text
        decide
    | cons first rest =>
        rw [transports] at text
        simp [marshalStrings, Json.write] at text
  unfold storeAndLoad
  simp only [created, after, Store.listWebAuthnCredentials]
  refine (congrArg (Option.map toWebAuthnCredential) listed).trans ?_
  simp [fromWebAuthnCredential, toWebAuthnCredential, written,
    unmarshalStrings_marshalStrings]

/--
A passkey survives storage, in the fields that validation consults, exactly when
none of its flags is set.
-/
theorem sameForValidation_storeAndLoad_iff
    {backend : Backend}
    {store : Store}
    {rowID : String}
    {now : Time}
    {userID name : String}
    {enrolled : Credential}
    (created :
      (store.createWebAuthnCredential backend
        (fromWebAuthnCredential rowID now userID name enrolled)).1 =
          .ok ()) :
    (∃ loaded,
        storeAndLoad backend store rowID now userID name enrolled =
          some loaded ∧
        SameForValidation loaded enrolled) ↔
      enrolled.flags = .zero := by
  rw [storeAndLoad_eq created]
  constructor
  · rintro ⟨loaded, shape, same⟩
    cases shape
    exact same.flags.symm
  · intro noFlags
    refine ⟨_, rfl, rfl, rfl, rfl, rfl, ?_, rfl, rfl⟩
    exact noFlags.symm

/-- A passkey that its provider synchronizes between devices. -/
def syncedPasskey : Credential where
  id := [1, 2, 3, 4]
  publicKey := [165, 1, 2]
  attestationType := "none"
  transport := ["internal", "hybrid"]
  flags :=
    { userPresent := true
      userVerified := true
      backupEligible := true
      backupState := true }
  authenticator :=
    { aaguid := List.replicate 16 0
      signCount := 0
      cloneWarning := false
      attachment := "platform" }

/-- The synchronized passkey can be stored. -/
private theorem syncedPasskey_created :
    (Store.empty.createWebAuthnCredential .sqlite
      (fromWebAuthnCredential "row" 0 "user" "Phone" syncedPasskey)).1 =
        .ok () :=
  rfl

/-- The criterion applies to a synchronized passkey in an empty database. -/
theorem syncedPasskey_storeAndLoad_iff :
    (Store.empty.createWebAuthnCredential .sqlite
        (fromWebAuthnCredential "row" 0 "user" "Phone" syncedPasskey)).1 =
          .ok () ∧
      ((∃ loaded,
          storeAndLoad .sqlite .empty "row" 0 "user" "Phone"
            syncedPasskey = some loaded ∧
          SameForValidation loaded syncedPasskey) ↔
        syncedPasskey.flags = .zero) :=
  ⟨syncedPasskey_created,
    sameForValidation_storeAndLoad_iff syncedPasskey_created⟩

/-- A synchronized passkey is loaded back as one that cannot be backed up. -/
theorem syncedPasskey_loses_flags :
    ∃ loaded,
      storeAndLoad .sqlite .empty "row" 0 "user" "Phone" syncedPasskey =
        some loaded ∧
      loaded.flags.backupEligible = false ∧
      ¬ SameForValidation loaded syncedPasskey := by
  refine ⟨_, storeAndLoad_eq syncedPasskey_created, rfl, ?_⟩
  intro same
  have flags := same.flags
  revert flags
  decide

end Passwd.Server
