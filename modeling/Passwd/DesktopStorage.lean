import Passwd.OfflineVault
import Passwd.InteractionProgram
import Mathlib.Logic.Function.Basic

namespace Passwd.Desktop

open Base64 Crypto Interaction Json OfflineVault

/-!
# The data layer of the desktop application

The items of an unlocked vault travel as one JSON payload inside the vault file.
An operation on the vault is a program over the calls that reach outside of it:
the vault that the screen shows, the file, and the replacement of the shown
vault.  The bytes that an operation draws at random are arguments.
-/

/-!
## Items and their payload
-/

/-- `VaultItem` -/
structure VaultItem where
  id : String
  name : String
  username : String
  password : String
  url : String
  notes : String
deriving DecidableEq

/-- An item as a JSON value. -/
def VaultItem.toValue (item : VaultItem) : Value :=
  .object
    [("id", .string item.id), ("name", .string item.name),
      ("username", .string item.username),
      ("password", .string item.password), ("url", .string item.url),
      ("notes", .string item.notes)]

/-- A text member of a value. -/
def textMember (value : Value) (key : String) : Option String :=
  match JavaScript.property value key with
  | some (.string text) => some text
  | _ => none

/-- A JSON value as an item. -/
def VaultItem.ofValue (value : Value) : Option VaultItem := do
  let id ← textMember value "id"
  let name ← textMember value "name"
  let username ← textMember value "username"
  let password ← textMember value "password"
  let url ← textMember value "url"
  let notes ← textMember value "notes"
  some
    { id := id
      name := name
      username := username
      password := password
      url := url
      notes := notes }

/-- `PAYLOAD_VERSION` -/
def PAYLOAD_VERSION : String := "1"

/-- The payload of a list of items. -/
def payloadValue (items : List VaultItem) : Value :=
  .object
    [("version", .number PAYLOAD_VERSION),
      ("items", .array (items.map VaultItem.toValue))]

/-- `encodePayload` -/
def encodePayload (items : List VaultItem) : String :=
  stringify (payloadValue items)

/-- `decodePayload`, for items that are of the type it promises. -/
def decodePayload (payload : String) : Except Failure (List VaultItem) :=
  match Json.read payload with
  | none => .error .thrown
  | some p =>
      match JavaScript.member (some p) "items" with
      | none => .error .thrown
      | some (some (.array items)) =>
          orThrow .thrown (items.mapM VaultItem.ofValue)
      | some _ => .ok []

/-- Reading an item inverts writing it. -/
theorem ofValue_toValue (item : VaultItem) :
    VaultItem.ofValue item.toValue = some item := by
  simp [VaultItem.ofValue, VaultItem.toValue, textMember, JavaScript.property,
    lookup]

/-- Reading items inverts writing them. -/
theorem mapM_ofValue (items : List VaultItem) :
    (items.map VaultItem.toValue).mapM VaultItem.ofValue = some items := by
  induction items with
  | nil =>
      rfl
  | cons item rest inductionHypothesis =>
      simp [ofValue_toValue, inductionHypothesis]

/-- The payload of items can be read. -/
theorem read_encodePayload (items : List VaultItem) :
    Json.read (encodePayload items) = some (payloadValue items) := by
  have wellFormed : WellFormed (payloadValue items) := by
    have version :
        validNumber PAYLOAD_VERSION.toList = true ∧
          PAYLOAD_VERSION.toList.all isNumberChar = true := by
      decide
    have each :
        WellFormedItems (items.map VaultItem.toValue) := by
      rw [wellFormedItems_iff]
      intro value member
      obtain ⟨item, _, shape⟩ := List.mem_map.mp member
      subst shape
      simp [VaultItem.toValue, WellFormed, WellFormedMembers]
    simp [payloadValue, WellFormed, WellFormedMembers, version, each]
  exact read_write stringifyEscapes wellFormed

/-- A payload is a JSON text. -/
theorem isJson_encodePayload (items : List VaultItem) :
    IsJson (encodePayload items) := by
  rw [IsJson, read_encodePayload]
  rfl

/-- Decoding inverts encoding. -/
theorem decodePayload_encodePayload (items : List VaultItem) :
    decodePayload (encodePayload items) = .ok items := by
  have isItems :
      JavaScript.member (some (payloadValue items)) "items" =
        some (some (.array (items.map VaultItem.toValue))) := by
    simp [payloadValue, JavaScript.member, JavaScript.property, lookup]
  simp only [decodePayload, read_encodePayload, isItems]
  exact orThrow_eq_ok.mpr (mapM_ofValue items)

/-!
## Vaults and what operations on them call
-/

/-- `DesktopVault` -/
structure DesktopVault where
  path : String
  state : VaultState
  items : List VaultItem

/-- The text of every file. -/
abbrev Files := String → Option String

/-- A call that reaches outside of an operation. -/
inductive Operation where
  | vault
  | writeFile (path contents : String)
  | setVault (next : DesktopVault)

/-- The answer to a call; the vault of a call is the one that is shown. -/
abbrev Answer : Operation → Type
  | .vault => DesktopVault
  | .writeFile _ _ => Except Failure Unit
  | .setVault _ => Unit

/-- The calls of the desktop application. -/
def appCalls : Interface where
  Operation := Operation
  Answer := Answer

/-- A program of the desktop application that may throw. -/
abbrev App := ExceptT Failure (Program appCalls)

/-- Make a call. -/
def ask (operation : Operation) : Program appCalls (Answer operation) :=
  @Program.call appCalls operation

/-- `writeFile`; a failure of the call is thrown. -/
def writeFile (path contents : String) : App Unit :=
  ExceptT.mk (ask (.writeFile path contents))

/-- The value of something that is computed without a call. -/
def computed (result : Except Failure α) : App α :=
  ExceptT.mk (pure result)

/-- The files and the vault in memory. -/
structure AppState where
  files : Files
  vault : DesktopVault

/-- How a write of the file ends; one that fails may leave anything. -/
inductive WriteResult where
  | written
  | refused (left : Option String)

/-- The effect of a call. -/
def execute (result : WriteResult) (state : AppState) :
    (operation : Operation) → Answer operation × AppState
  | .vault => (state.vault, state)
  | .writeFile path contents =>
      match result with
      | .written =>
          (.ok (),
            { state with
              files := Function.update state.files path (some contents) })
      | .refused left =>
          (.error .thrown,
            { state with files := Function.update state.files path left })
  | .setVault next => ((), { state with vault := next })

section Operations

variable (crypto : Primitives) (kdf : DerivationFunctions)

/-- `createNewVault` -/
def createNewVault
    (path masterPassword : String)
    (salt : Drawn 16)
    (userKey : Drawn 64)
    (keyNonce nonce : Drawn 12) :
    App DesktopVault := do
  let (file, state) ←
    computed
      (createVault crypto kdf masterPassword (encodePayload []) DEFAULT_KDF
        salt userKey keyNonce nonce)
  writeFile path file
  return { path := path, state := state, items := [] }

/-- `openExistingVault` -/
def openExistingVault (files : Files) (path masterPassword : String) :
    Except Failure DesktopVault := do
  let fileText ← orThrow .thrown (files path)
  let (state, payload) ← openVault crypto kdf fileText masterPassword
  let items ← decodePayload payload
  return { path := path, state := state, items := items }

/-- `persist` -/
def persist (v : DesktopVault) (nonce : Drawn 12) : App Unit := do
  let file ← computed (saveVault crypto v.state (encodePayload v.items) nonce)
  writeFile v.path file

/-- `rekey` -/
def rekey
    (v : DesktopVault)
    (newPassword : String)
    (salt : Drawn 16)
    (keyNonce nonce : Drawn 12) :
    App DesktopVault := do
  let (file, state) ←
    computed
      (changeMasterPassword crypto kdf v.state newPassword
        (encodePayload v.items) none salt keyNonce nonce)
  writeFile v.path file
  return { v with state := state }

end Operations

/-!
## Opening what was written
-/

section Opening

variable {crypto : Primitives} {kdf : DerivationFunctions} {files : Files}
  {masterPassword : String}

/-- A file that opens to a payload of items opens to a vault. -/
theorem openExistingVault_eq
    {vault : DesktopVault}
    {fileText : String}
    (found : files vault.path = some fileText)
    (opened :
      openVault crypto kdf fileText masterPassword =
        .ok (vault.state, encodePayload vault.items)) :
    openExistingVault crypto kdf files vault.path masterPassword =
      .ok vault := by
  unfold openExistingVault
  rw [found]
  change (openVault crypto kdf fileText masterPassword >>= _) = _
  rw [opened]
  change (decodePayload (encodePayload vault.items) >>= _) = _
  rw [decodePayload_encodePayload]
  rfl

/-- The vault of a file that opens can be spelled and opens with the password. -/
theorem opensWith_of_openExistingVault
    {path : String}
    {vault : DesktopVault}
    (opened :
      openExistingVault crypto kdf files path masterPassword = .ok vault) :
    vault.path = path ∧ vault.state.Spelled ∧
      vault.state.OpensWith crypto kdf masterPassword := by
  obtain ⟨fileText, _, opened⟩ := ok_of_bind opened
  obtain ⟨⟨state, payload⟩, isOpen, opened⟩ := ok_of_bind opened
  obtain ⟨items, _, opened⟩ := ok_of_bind opened
  cases opened
  exact ⟨rfl, opensWith_of_openVault isOpen⟩

/-- A file with a new vault opens to the vault without items. -/
theorem openExistingVault_of_createVault
    (authenticated : crypto.Authenticated)
    {path file : String}
    {salt : Drawn 16}
    {userKey : Drawn 64}
    {keyNonce nonce : Drawn 12}
    {state : VaultState}
    (found : files path = some file)
    (created :
      createVault crypto kdf masterPassword (encodePayload []) DEFAULT_KDF salt
        userKey keyNonce nonce = .ok (file, state)) :
    openExistingVault crypto kdf files path masterPassword =
      .ok { path := path, state := state, items := [] } := by
  have written := serializedUnder_of_serializeUnder created
  obtain ⟨_, serialized⟩ := written.serialized
  exact @openExistingVault_eq crypto kdf files masterPassword
    { path := path, state := state, items := [] } file found
    ((written.wrapped.opensWith authenticated).openVault_eq authenticated
      (written.spelled DEFAULT_KDF.wellFormed) (isJson_encodePayload [])
      serialized)

/-- A new vault is computed, then written to its file. -/
theorem createNewVault_eq
    (path : String)
    (salt : Drawn 16)
    (userKey : Drawn 64)
    (keyNonce nonce : Drawn 12) :
    (createNewVault crypto kdf path masterPassword salt userKey keyNonce
        nonce).run =
      match createVault crypto kdf masterPassword (encodePayload [])
          DEFAULT_KDF salt userKey keyNonce nonce with
      | .error failure => .done (.error failure)
      | .ok (file, state) =>
          @Program.perform appCalls _ (Operation.writeFile path file)
            fun (written : Except Failure Unit) =>
              .done (written.map fun _ =>
                { path := path, state := state, items := [] }) := by
  unfold createNewVault
  cases createVault crypto kdf masterPassword (encodePayload []) DEFAULT_KDF
      salt userKey keyNonce nonce with
  | error failure =>
      rfl
  | ok created =>
      apply congrArg (@Program.perform appCalls _ _)
      funext written
      cases written with
      | error failure =>
          rfl
      | ok _ =>
          rfl

/-- A vault that was created opens from the file that was written. -/
theorem openExistingVault_of_createNewVault
    (authenticated : crypto.Authenticated)
    {path : String}
    {salt : Drawn 16}
    {userKey : Drawn 64}
    {keyNonce nonce : Drawn 12}
    {results : Nat → WriteResult}
    {state final : AppState}
    {vault : DesktopVault}
    {history : History appCalls}
    (created :
      (createNewVault crypto kdf path masterPassword salt userKey keyNonce
        nonce).run.run execute results state =
          { value := .ok vault, state := final, history := history }) :
    openExistingVault crypto kdf final.files path masterPassword =
      .ok vault := by
  rw [createNewVault_eq] at created
  split at created
  · cases created
  · rename_i file vaultState isCreated
    cases ends : results 0 with
    | refused left =>
        simp only [Program.run, execute, ends] at created
        cases created
    | written =>
        simp only [Program.run, execute, ends] at created
        cases created
        exact openExistingVault_of_createVault authenticated
          (Function.update_self _ _ _) isCreated

end Opening

end Passwd.Desktop
