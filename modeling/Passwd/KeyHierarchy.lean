import Passwd.EncString
import Passwd.Utf8Text
import Passwd.JavaScriptValue
import Passwd.JsonRoundTrip

namespace Passwd.Crypto

open Base64 Utf8

/-!
# The account key hierarchy

What a client derives from a master password or a recovery code, and what it
encrypts under which key.  Bytes that the source draws at random are arguments.
The primitives of WebCrypto and of the Argon2 library are parameters; a result
of `none` is an exception.
-/

/-- The primitives and the parts of the JavaScript runtime that a client uses. -/
structure Primitives where
  caseMapping : Identifier.CaseMapping
  nfkc : String → String
  numberText : String → String
  wordlist : Nat → String
  pbkdf2 : Bytes → Bytes → Int → Nat → Option Bytes
  argon2id : Bytes → Bytes → Int → Int → Int → Option Bytes
  hmacSha256 : Bytes → Bytes → Bytes
  aesGcmEncrypt : Bytes → Bytes → Bytes → Option Bytes
  aesGcmDecrypt : Bytes → Bytes → Bytes → Option Bytes

/--
AES-GCM decryption inverts encryption under the same key and nonce, and a
ciphertext includes its tag.
-/
def Primitives.Authenticated (crypto : Primitives) : Prop :=
  ∀ key nonce plaintext data,
    crypto.aesGcmEncrypt key nonce plaintext = some data →
      crypto.aesGcmDecrypt key nonce data = some plaintext ∧ data ≠ []

/-- What a plain ciphertext starts with. -/
def plainHeader (key nonce : Bytes) : Bytes :=
  key ++ nonce ++ [1]

/--
Primitives that spell their inputs out, on which clients can be evaluated.  A
ciphertext is the plaintext behind its key and its nonce, which tells apart keys
of one length.  Of the compatibility mapping only the ångström sign is there.
-/
def plainPrimitives : Primitives where
  caseMapping := Identifier.asciiCase
  nfkc text :=
    String.ofList (text.toList.map fun symbol =>
      if symbol.toNat = 0x212B then Char.ofNat 0xC5 else symbol)
  numberText text := text
  wordlist index := if index = 0 then "a" else "b"
  pbkdf2 password salt _ _ := some (password ++ salt)
  argon2id password salt _ _ _ := some (password ++ salt)
  hmacSha256 key message := message ++ key
  aesGcmEncrypt key nonce plaintext :=
    some (plainHeader key nonce ++ plaintext)
  aesGcmDecrypt key nonce data :=
    if (plainHeader key nonce).isPrefixOf data then
      some (data.drop (plainHeader key nonce).length)
    else
      none

/-- Plain decryption inverts plain encryption. -/
theorem authenticated_plainPrimitives : plainPrimitives.Authenticated := by
  intro key nonce plaintext data encrypted
  cases encrypted
  have starts :
      (plainHeader key nonce).isPrefixOf
        (plainHeader key nonce ++ plaintext) = true :=
    List.isPrefixOf_iff_prefix.mpr (List.prefix_append _ _)
  refine ⟨?_, by simp [plainHeader]⟩
  simp only [plainPrimitives, starts, ↓reduceIte, List.drop_left]

/-- `KdfParams` -/
structure KdfParams where
  type : String
  iterations : Int
  memoryMiB : Option Int
  parallelism : Option Int
deriving DecidableEq

/-- `DEFAULT_KDF` -/
def DEFAULT_KDF : KdfParams where
  type := "argon2id"
  iterations := 3
  memoryMiB := some 64
  parallelism := some 4

/-- How `JSON.stringify` spells strings: only what it must escape. -/
def stringifyEscapes : Json.EscapeStyle where
  extra _ := false
  extra_basic := by
    rintro symbol ⟨⟩

/-- `JSON.stringify` -/
def stringify (value : Json.Value) : String :=
  String.ofList (Json.write stringifyEscapes value)

section Hierarchy

variable (crypto : Primitives)

/-!
## Deriving keys
-/

/-- `deriveKey` -/
def deriveKey (password salt : String) (params : KdfParams) : Option Bytes :=
  let pw := utf8 (crypto.nfkc password)
  let saltBytes := utf8 salt
  if params.type = "pbkdf2" then
    crypto.pbkdf2 pw saltBytes params.iterations 32
  else
    crypto.argon2id pw saltBytes params.iterations
      (params.memoryMiB.getD 64 * 1024) (params.parallelism.getD 4)

/-- The blocks of `hkdfExpand` after the first `done`. -/
def hkdfBlocks (prk infoBytes : Bytes) : Nat → Nat → Bytes → List Bytes
  | 0, _, _ => []
  | count + 1, done, prev =>
      let block :=
        crypto.hmacSha256 prk (prev ++ infoBytes ++ [UInt8.ofNat (done + 1)])
      block :: hkdfBlocks prk infoBytes count (done + 1) block

/-- `hkdfExpand`; every block is copied into 32 zero bytes. -/
def hkdfExpand (prk : Bytes) (info : String) (length : Nat) : Bytes :=
  let blocks := hkdfBlocks crypto prk (utf8 info) ((length + 31) / 32) 0 []
  (blocks.flatMap fun block =>
    (block ++ List.replicate 32 0).take 32).take length

/-- `StretchedKey` -/
structure StretchedKey where
  encKey : Bytes
  macKey : Bytes
deriving DecidableEq

/-- `deriveMasterKey` -/
def deriveMasterKey
    (masterPassword identifier : String)
    (params : KdfParams) :
    Option Bytes :=
  deriveKey crypto masterPassword
    (Identifier.normalizeIdentifier crypto.caseMapping identifier) params

/-- `MASTER_PASSWORD_HASH_DOMAIN` -/
def MASTER_PASSWORD_HASH_DOMAIN : String :=
  "passwd.master-password-hash.v1:"

/-- `deriveMasterPasswordHash` -/
def deriveMasterPasswordHash (masterKey : Bytes) (masterPassword : String) :
    Option String :=
  (crypto.pbkdf2 masterKey
    (utf8 (MASTER_PASSWORD_HASH_DOMAIN ++ crypto.nfkc masterPassword))
    1 32).map toBase64

/-- `stretchMasterKey` -/
def stretchMasterKey (masterKey : Bytes) : StretchedKey where
  encKey := hkdfExpand crypto masterKey "enc" 32
  macKey := hkdfExpand crypto masterKey "mac" 32

/-- `RecoveryKeys` -/
structure RecoveryKeys where
  recoveryEncKey : Bytes
  recoveryAuthHash : String
deriving DecidableEq

/-- `RECOVERY_KDF_SALT` -/
def RECOVERY_KDF_SALT : String := "passwd.recovery.salt.v1"

/-- `RECOVERY_KDF_ITERATIONS` -/
def RECOVERY_KDF_ITERATIONS : Int := 100000

/-- `deriveRecoveryKeys` -/
def deriveRecoveryKeys (recoveryCode : String) : Option RecoveryKeys :=
  (crypto.pbkdf2
    (utf8 (Identifier.normalizeIdentifier crypto.caseMapping recoveryCode))
    (utf8 RECOVERY_KDF_SALT) RECOVERY_KDF_ITERATIONS 32).map fun base =>
      { recoveryEncKey := hkdfExpand crypto base "recovery-enc" 32
        recoveryAuthHash :=
          toBase64 (hkdfExpand crypto base "recovery-auth" 32) }

/-!
## Encrypting
-/

/-- `aesGcmEncrypt`, serialized: what every encryption of a client does. -/
def sealEnvelope (key plaintext nonce : Bytes) : Option String :=
  (crypto.aesGcmEncrypt key nonce plaintext).map fun data =>
    serializeEncString { type := .aesGcm, nonce := nonce, data := data }

/-- `aesGcmDecrypt` of a parsed envelope. -/
def openEnvelope (key : Bytes) (envelope : String) : Option Bytes :=
  (parseEncString envelope).bind fun e => crypto.aesGcmDecrypt key e.nonce e.data

/-- `itemKey`, and `userEncKey` of the sharing module. -/
def itemKey (userKey : Bytes) : Bytes :=
  userKey.take 32

/-- `wrapUserKey` -/
def wrapUserKey (stretched : StretchedKey) (userKey nonce : Bytes) :
    Option String :=
  sealEnvelope crypto stretched.encKey userKey nonce

/-- `unwrapUserKey` -/
def unwrapUserKey (stretched : StretchedKey) (protectedUserKey : String) :
    Option Bytes :=
  openEnvelope crypto stretched.encKey protectedUserKey

/-- `wrapUserKeyWithRecovery` -/
def wrapUserKeyWithRecovery (recoveryEncKey userKey nonce : Bytes) :
    Option String :=
  sealEnvelope crypto recoveryEncKey userKey nonce

/-- `unwrapUserKeyWithRecovery` -/
def unwrapUserKeyWithRecovery
    (recoveryEncKey : Bytes)
    (recoveryProtectedUserKey : String) :
    Option Bytes :=
  openEnvelope crypto recoveryEncKey recoveryProtectedUserKey

/-- The private key that `generateUserKeypair` wraps. -/
def wrapPrivateKey (userKey pkcs8 nonce : Bytes) : Option String :=
  sealEnvelope crypto (itemKey userKey) pkcs8 nonce

/-- The private key that `importPrivateKey` unwraps. -/
def unwrapPrivateKey (userKey : Bytes) (protectedPrivateKey : String) :
    Option Bytes :=
  openEnvelope crypto (itemKey userKey) protectedPrivateKey

/-- `decryptItem` -/
def decryptItem (userKey : Bytes) (encString : String) : Option String :=
  (openEnvelope crypto (itemKey userKey) encString).map fromUtf8

/-- `wrapItemKey` -/
def wrapItemKey (userKey key nonce : Bytes) : Option String :=
  sealEnvelope crypto (itemKey userKey) key nonce

/-- `unwrapItemKey` -/
def unwrapItemKey (userKey : Bytes) (wrapped : String) : Option Bytes :=
  openEnvelope crypto (itemKey userKey) wrapped

/-- `ItemContainer`, with its version. -/
def itemContainer (key data : String) : Json.Value :=
  .object [("v", .number "2"), ("key", .string key), ("data", .string data)]

/-- `encryptItemKeyed`, with the item key and the two nonces it draws. -/
def encryptItemKeyed
    (userKey : Bytes)
    (plaintext : String)
    (key dataNonce keyNonce : Bytes) :
    Option String :=
  match sealEnvelope crypto key (utf8 plaintext) dataNonce,
      wrapItemKey crypto userKey key keyNonce with
  | some data, some wrapped => some (stringify (itemContainer wrapped data))
  | _, _ => none

/-- The value of a property that counts as true. -/
def truthyProperty (value : Json.Value) (key : String) : Option Json.Value :=
  (JavaScript.property value key).filter
    (JavaScript.truthy crypto.numberText)

/--
`decryptItemKeyed`.  A container whose parts are no strings is recognized, but
throws when it is parsed.
-/
def decryptItemKeyed (userKey : Bytes) (stored : String) : Option String :=
  let container :=
    (Json.read stored).bind fun parsed =>
      match truthyProperty crypto parsed "key",
          truthyProperty crypto parsed "data" with
      | some key, some data => some (key, data)
      | _, _ => none
  match container with
  | none => decryptItem crypto userKey stored
  | some (.string wrapped, .string data) =>
      (unwrapItemKey crypto userKey wrapped).bind fun key =>
        (openEnvelope crypto key data).map fromUtf8
  | some _ => none

/-!
## What is taken for a container
-/

/-- The parts of a text that `decryptItemKeyed` takes for a container. -/
def containerParts (stored : String) : Option (Json.Value × Json.Value) :=
  (Json.read stored).bind fun parsed =>
    match truthyProperty crypto parsed "key",
        truthyProperty crypto parsed "data" with
    | some key, some data => some (key, data)
    | _, _ => none

/-- `decryptItemKeyed` goes by the parts of a container. -/
theorem decryptItemKeyed_eq (userKey : Bytes) (stored : String) :
    decryptItemKeyed crypto userKey stored =
      match containerParts crypto stored with
      | none => decryptItem crypto userKey stored
      | some (.string wrapped, .string data) =>
          (unwrapItemKey crypto userKey wrapped).bind fun key =>
            (openEnvelope crypto key data).map fromUtf8
      | some _ => none :=
  rfl

/-- A container that is written is taken for one. -/
theorem containerParts_itemContainer
    {wrapped data : String}
    (hasKey : wrapped ≠ "")
    (hasContent : data ≠ "") :
    containerParts crypto (stringify (itemContainer wrapped data)) =
      some (.string wrapped, .string data) := by
  have wellFormed : Json.WellFormed (itemContainer wrapped data) := by
    simp [itemContainer, Json.WellFormed, Json.WellFormedMembers]
    decide
  have parsed :
      Json.read (stringify (itemContainer wrapped data)) =
        some (itemContainer wrapped data) :=
    Json.read_write stringifyEscapes wellFormed
  have keyPart :
      truthyProperty crypto (itemContainer wrapped data) "key" =
        some (.string wrapped) := by
    simp [truthyProperty, itemContainer, JavaScript.property,
      Json.lookup_cons, JavaScript.truthy, hasKey]
  have contentPart :
      truthyProperty crypto (itemContainer wrapped data) "data" =
        some (.string data) := by
    simp [truthyProperty, itemContainer, JavaScript.property,
      Json.lookup_cons, JavaScript.truthy, hasContent]
  simp [containerParts, parsed, keyPart, contentPart]

/-!
## Decrypting inverts encrypting
-/

variable {crypto} (authenticated : crypto.Authenticated)

include authenticated

/-- What is sealed under a key opens under that key. -/
theorem openEnvelope_of_sealEnvelope
    {key plaintext nonce : Bytes}
    {envelope : String}
    (hasNonce : nonce ≠ [])
    (sealed : sealEnvelope crypto key plaintext nonce = some envelope) :
    openEnvelope crypto key envelope = some plaintext := by
  obtain ⟨data, encrypted, serialized⟩ := Option.map_eq_some_iff.mp sealed
  obtain ⟨decrypted, hasData⟩ := authenticated _ _ _ _ encrypted
  rw [openEnvelope, ← serialized,
    parseEncString_serializeEncString hasNonce hasData]
  exact decrypted

/-- An envelope is not empty. -/
theorem sealEnvelope_ne_empty
    {key plaintext nonce : Bytes}
    {envelope : String}
    (hasNonce : nonce ≠ [])
    (sealed : sealEnvelope crypto key plaintext nonce = some envelope) :
    envelope ≠ "" := by
  rintro rfl
  have opened := openEnvelope_of_sealEnvelope authenticated hasNonce sealed
  cases opened

/-- What is encrypted under its own key decrypts with the User Key. -/
theorem decryptItemKeyed_of_encryptItemKeyed
    {userKey key dataNonce keyNonce : Bytes}
    {plaintext stored : String}
    (unmarked : plaintext.toList.head? ≠ some byteOrderMark)
    (hasDataNonce : dataNonce ≠ [])
    (hasKeyNonce : keyNonce ≠ [])
    (encrypted :
      encryptItemKeyed crypto userKey plaintext key dataNonce keyNonce =
        some stored) :
    decryptItemKeyed crypto userKey stored = some plaintext := by
  unfold encryptItemKeyed at encrypted
  split at encrypted
  · rename_i data wrapped sealed isWrapped
    cases encrypted
    have container :=
      containerParts_itemContainer crypto
        (sealEnvelope_ne_empty authenticated hasKeyNonce isWrapped)
        (sealEnvelope_ne_empty authenticated hasDataNonce sealed)
    have unwrapped :
        unwrapItemKey crypto userKey wrapped = some key :=
      openEnvelope_of_sealEnvelope authenticated hasKeyNonce isWrapped
    have opened :=
      openEnvelope_of_sealEnvelope authenticated hasDataNonce sealed
    rw [decryptItemKeyed_eq, container]
    simp [unwrapped, opened, fromUtf8_utf8 unmarked]
  · cases encrypted

end Hierarchy

end Passwd.Crypto
