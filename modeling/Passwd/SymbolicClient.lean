import Passwd.InteractionPool
import Passwd.MessageDeduction
import Passwd.ItemSharing

namespace Passwd.Symbolic

open Base64 Utf8 Interaction
open Crypto (KdfParams DEFAULT_KDF MASTER_PASSWORD_HASH_DOMAIN
  RECOVERY_KDF_SALT RECOVERY_KDF_ITERATIONS stringify)
open Client (USER_KEY_BYTES)

/-!
# Clients that exchange messages

The key hierarchy, the sharing module and the operations of `session.ts` once
more, with messages in place of byte strings: every primitive is a free
constructor, and decryption succeeds with the right key only.  Texts that are no
secrets stay texts.

An atom stands for something that only clients hold or draw.  It carries the
value that it stands for, so the random source is asked for bytes here too, and
the atom says what a client uses them for.
-/

/--
The atoms.  The first two stand for what is derived from: the password behind
NFKC and the recovery code behind `normalizeIdentifier`.
-/
inductive Name where
  | masterPassword (text : String)
  | recoveryCode (phrase : String)
  | userKeyHalf (bytes : Bytes)
  | userKeyReserve (bytes : Bytes)
  | itemKey (bytes : Bytes)
  | plaintext (text : String)
  | privateKey (keyPair : Bytes × Bytes)
  | nonce (bytes : Bytes)
  | seed (bytes : Bytes)
deriving DecidableEq

/-- The derivation functions, with their costs and lengths. -/
inductive Derivation where
  | argon2id (iterations memory parallelism : Int)
  | pbkdf2 (iterations : Int) (length : Nat)
  | hkdfExpand (length : Nat)
deriving DecidableEq

/-- The messages of this application. -/
abbrev Message := Deduction.Message Name Derivation Bytes

/-- A text that is no secret. -/
def text (s : String) : Message :=
  .constant (utf8 s)

/-- What is encrypted when an item is. -/
def itemPlaintext (fields : Json.Members) : Message :=
  .atom (.plaintext (stringify (.object fields)))

section Hierarchy

variable (caseMapping : Identifier.CaseMapping)

/-!
## Deriving keys
-/

/-- `deriveKey` -/
def deriveKey (password : Message) (salt : String) (params : KdfParams) :
    Message :=
  if params.type = "pbkdf2" then
    .digest (.pbkdf2 params.iterations 32) password (text salt)
  else
    .digest
      (.argon2id params.iterations (params.memoryMiB.getD 64 * 1024)
        (params.parallelism.getD 4))
      password (text salt)

/-- `hkdfExpand` -/
def hkdfExpand (prk : Message) (info : String) (length : Nat) : Message :=
  .digest (.hkdfExpand length) prk (text info)

/-- `StretchedKey` -/
structure StretchedKey where
  encKey : Message
  macKey : Message
deriving DecidableEq

/-- `deriveMasterKey` -/
def deriveMasterKey
    (masterPassword identifier : String)
    (params : KdfParams) :
    Message :=
  deriveKey (.atom (.masterPassword masterPassword))
    (Identifier.normalizeIdentifier caseMapping identifier) params

/-- `deriveMasterPasswordHash` -/
def deriveMasterPasswordHash (masterKey : Message) (masterPassword : String) :
    Message :=
  .digest (.pbkdf2 1 32) masterKey
    (.pair (text MASTER_PASSWORD_HASH_DOMAIN)
      (.atom (.masterPassword masterPassword)))

/-- `stretchMasterKey` -/
def stretchMasterKey (masterKey : Message) : StretchedKey where
  encKey := hkdfExpand masterKey "enc" 32
  macKey := hkdfExpand masterKey "mac" 32

/-- `RecoveryKeys` -/
structure RecoveryKeys where
  recoveryEncKey : Message
  recoveryAuthHash : Message
deriving DecidableEq

/-- What `deriveRecoveryKeys` expands. -/
def recoveryBase (recoveryCode : String) : Message :=
  .digest (.pbkdf2 RECOVERY_KDF_ITERATIONS 32)
    (.atom (.recoveryCode recoveryCode)) (text RECOVERY_KDF_SALT)

/-- `deriveRecoveryKeys` -/
def deriveRecoveryKeys (recoveryCode : String) : RecoveryKeys where
  recoveryEncKey := hkdfExpand (recoveryBase recoveryCode) "recovery-enc" 32
  recoveryAuthHash := hkdfExpand (recoveryBase recoveryCode) "recovery-auth" 32

/-!
## Encrypting
-/

/-- `EncString`, whose nonce is in the clear. -/
structure Envelope where
  nonce : Message
  data : Message
deriving DecidableEq

/-- Everything that an envelope shows. -/
def Envelope.messages (envelope : Envelope) : List Message :=
  [envelope.nonce, envelope.data]

/-- `aesGcmEncrypt`, serialized. -/
def sealEnvelope (key plaintext : Message) (nonce : Bytes) : Envelope where
  nonce := .atom (.nonce nonce)
  data := .encrypt key (.atom (.nonce nonce)) plaintext

/-- `aesGcmDecrypt` of a parsed envelope. -/
def openEnvelope (key : Message) (envelope : Envelope) : Option Message :=
  match envelope.data with
  | .encrypt used nonce plaintext =>
      if used = key ∧ nonce = envelope.nonce then some plaintext else none
  | _ => none

/-- `generateUserKey`: two halves of the bytes it draws. -/
def generatedUserKey (bytes : Bytes) : Message :=
  .pair (.atom (.userKeyHalf (bytes.take 32)))
    (.atom (.userKeyReserve (bytes.drop 32)))

/--
`itemKey`, and `userEncKey` of the sharing module.  A message that is no pair is
no longer than a half.
-/
def itemKey : Message → Message
  | .pair half _ => half
  | whole => whole

/-- `wrapUserKey` -/
def wrapUserKey (stretched : StretchedKey) (userKey : Message) (nonce : Bytes) :
    Envelope :=
  sealEnvelope stretched.encKey userKey nonce

/-- `unwrapUserKey` -/
def unwrapUserKey (stretched : StretchedKey) (protectedUserKey : Envelope) :
    Option Message :=
  openEnvelope stretched.encKey protectedUserKey

/-- `wrapUserKeyWithRecovery` -/
def wrapUserKeyWithRecovery
    (recoveryEncKey userKey : Message)
    (nonce : Bytes) :
    Envelope :=
  sealEnvelope recoveryEncKey userKey nonce

/-- `unwrapUserKeyWithRecovery` -/
def unwrapUserKeyWithRecovery
    (recoveryEncKey : Message)
    (recoveryProtectedUserKey : Envelope) :
    Option Message :=
  openEnvelope recoveryEncKey recoveryProtectedUserKey

/-- The private key that `generateUserKeypair` wraps. -/
def wrapPrivateKey
    (userKey : Message)
    (keyPair : Bytes × Bytes)
    (nonce : Bytes) :
    Envelope :=
  sealEnvelope (itemKey userKey) (.atom (.privateKey keyPair)) nonce

/-- `encryptItem` -/
def encryptItem (userKey plaintext : Message) (nonce : Bytes) : Envelope :=
  sealEnvelope (itemKey userKey) plaintext nonce

/-- `wrapItemKey` -/
def wrapItemKey (userKey key : Message) (nonce : Bytes) : Envelope :=
  sealEnvelope (itemKey userKey) key nonce

/-- `ItemContainer`, or the bare envelope of a legacy item. -/
inductive StoredItem where
  | container (key data : Envelope)
  | legacy (data : Envelope)
deriving DecidableEq

/-- Everything that a stored item shows. -/
def StoredItem.messages : StoredItem → List Message
  | .container key data => key.messages ++ data.messages
  | .legacy data => data.messages

/-- `encryptItemKeyed`, with the item key and the two nonces it draws. -/
def encryptItemKeyed
    (userKey plaintext : Message)
    (key dataNonce keyNonce : Bytes) :
    StoredItem :=
  .container
    (wrapItemKey userKey (.atom (.itemKey key)) keyNonce)
    (sealEnvelope (.atom (.itemKey key)) plaintext dataNonce)

/-- `ShareEnvelope` -/
structure ShareEnvelope where
  wrappedKey : Message
  data : Envelope
deriving DecidableEq

/-- What `createShare` computes from the bytes it draws. -/
def shareEnvelope
    (recipientPublicKey plaintext : Message)
    (key nonce seed : Bytes) :
    Option ShareEnvelope :=
  match recipientPublicKey with
  | .publicKey privateKey =>
      some
        { wrappedKey :=
            .wrap privateKey (.atom (.itemKey key)) (.atom (.seed seed))
          data := sealEnvelope (.atom (.itemKey key)) plaintext nonce }
  | _ => none

/-!
## The transport
-/

/-- The body that registers an account. -/
structure RegisterRequest where
  identifier : String
  kdf : KdfParams
  masterPasswordHash : Message
  protectedUserKey : Envelope
  publicKey : Message
  protectedPrivateKey : Envelope
deriving DecidableEq

/-- The body that completes a recovery. -/
structure RecoveryCompleteRequest where
  identifier : String
  recoveryAuthHash : Message
  masterPasswordHash : Message
  protectedUserKey : Envelope
  kdf : KdfParams
deriving DecidableEq

/-- What a client sends; an access token shows the account it is for. -/
inductive Request where
  | prelogin (identifier : String)
  | register (req : RegisterRequest)
  | login
      (identifier : String)
      (masterPasswordHash : Message)
      (totpCode : String)
  | webAuthnLoginBegin (identifier : String) (masterPasswordHash : Message)
  | webAuthnLoginFinish
      (identifier : String)
      (masterPasswordHash : Message)
      (sessionId credential : String)
  | recoveryEnable
      (userID : String)
      (recoveryProtectedUserKey : Envelope)
      (recoveryAuthHash : Message)
  | recoveryDisable (userID : String)
  | recoveryChallenge (identifier : String)
  | recoveryComplete (req : RecoveryCompleteRequest)
  | createCipher (userID : String) (data : StoredItem)
  | updateCipher (userID id : String) (data : StoredItem)
  | lookupPublicKey (userID identifier : String)
  | createShare
      (userID recipientIdentifier : String)
      (envelope : ShareEnvelope)
  | listShares (userID : String)
deriving DecidableEq

/-- Every message that a request shows to the server. -/
def Request.messages : Request → List Message
  | .prelogin identifier => [text identifier]
  | .register req =>
      [text req.identifier, req.masterPasswordHash, req.publicKey] ++
        req.protectedUserKey.messages ++ req.protectedPrivateKey.messages
  | .login identifier masterPasswordHash totpCode =>
      [text identifier, masterPasswordHash, text totpCode]
  | .webAuthnLoginBegin identifier masterPasswordHash =>
      [text identifier, masterPasswordHash]
  | .webAuthnLoginFinish identifier masterPasswordHash sessionId credential =>
      [text identifier, masterPasswordHash, text sessionId, text credential]
  | .recoveryEnable userID recoveryProtectedUserKey recoveryAuthHash =>
      [text userID, recoveryAuthHash] ++ recoveryProtectedUserKey.messages
  | .recoveryDisable userID => [text userID]
  | .recoveryChallenge identifier => [text identifier]
  | .recoveryComplete req =>
      [text req.identifier, req.recoveryAuthHash, req.masterPasswordHash] ++
        req.protectedUserKey.messages
  | .createCipher userID data => text userID :: data.messages
  | .updateCipher userID id data => [text userID, text id] ++ data.messages
  | .lookupPublicKey userID identifier => [text userID, text identifier]
  | .createShare userID recipientIdentifier envelope =>
      [text userID, text recipientIdentifier, envelope.wrappedKey] ++
        envelope.data.messages
  | .listShares userID => [text userID]

/-- The bodies that clients read; `other` is every body that they do not. -/
inductive Body where
  | other
  | kdf (kdf : KdfParams)
  | login
      (accessToken refreshToken : String)
      (protectedUserKey protectedPrivateKey : Envelope)
      (kdf : KdfParams)
  | recoveryChallenge (recoveryProtectedUserKey : Envelope) (kdf : KdfParams)
  | ceremony (sessionId options : String)
  | cipher (id : String)
  | publicKey (spki : Message)
  | shares (listed : List ShareEnvelope)
deriving DecidableEq

/-- Every message of a body; the rest are texts. -/
def Body.messages : Body → List Message
  | .login _ _ protectedUserKey protectedPrivateKey _ =>
      protectedUserKey.messages ++ protectedPrivateKey.messages
  | .recoveryChallenge recoveryProtectedUserKey _ =>
      recoveryProtectedUserKey.messages
  | .publicKey spki => [spki]
  | .shares listed =>
      listed.flatMap fun envelope =>
        envelope.wrappedKey :: envelope.data.messages
  | _ => []

/-- What a client asks its platform or the server for. -/
inductive Operation where
  | randomBytes (n : Nat)
  | generateKey
  | fetch (request : Request)

/-- What it is answered; a response that is not a success has no body. -/
abbrev Answer : Operation → Type
  | .randomBytes _ => Bytes
  | .generateKey => Bytes × Bytes
  | .fetch _ => Option Body

/-- The calls of a client as an interface. -/
abbrev clientCalls : Interface where
  Operation := Operation
  Answer := Answer

/-- An operation of a client. -/
abbrev Client (α : Type) := Program clientCalls α

/-- Make one call. -/
abbrev ask (operation : Operation) : Client (Answer operation) :=
  @Program.call clientCalls operation

/-- A client that begins with a call. -/
@[simp] theorem ask_bind
    {α : Type}
    (operation : Operation)
    (next : Answer operation → Client α) :
    @bind Client _ (no_index (Answer operation)) α (ask operation) next =
      .perform operation next :=
  rfl

/-- `call` -/
def call (request : Request) : Client (Option Body) :=
  ask (.fetch request)

/-- `LoginResult` -/
structure LoginResult where
  accessToken : String
  refreshToken : String
  protectedUserKey : Envelope
  protectedPrivateKey : Envelope
  kdf : KdfParams
deriving DecidableEq

/-- The body of a sign-in. -/
def loginResult : Body → Option LoginResult
  | .login accessToken refreshToken protectedUserKey protectedPrivateKey kdf =>
      some
        { accessToken := accessToken
          refreshToken := refreshToken
          protectedUserKey := protectedUserKey
          protectedPrivateKey := protectedPrivateKey
          kdf := kdf }
  | _ => none

/-- `api.login` and its callers. -/
def login
    (identifier : String)
    (masterPasswordHash : Message)
    (totpCode : String) :
    Client (Option LoginResult) := do
  let body ← call (.login identifier masterPasswordHash totpCode)
  return body.bind loginResult

/-- `api.prelogin` -/
def prelogin (identifier : String) : Client (Option KdfParams) := do
  let body ← call (.prelogin identifier)
  match body with
  | some (.kdf kdf) => return some kdf
  | _ => return none

/-!
## Sessions
-/

/-- `Session` -/
structure Session where
  identifier : String
  accessToken : String
  refreshToken : String
  userKey : Message
  protectedPrivateKey : Envelope
deriving DecidableEq

/-- What `buildRegistration` computes, with the User Key it protects. -/
structure RegistrationBundle where
  request : RegisterRequest
  userKey : Message
deriving DecidableEq

/-- What `buildRegistration` computes from the bytes and keys it draws. -/
def registrationBundle
    (identifier masterPassword : String)
    (params : KdfParams)
    (userKey keyNonce : Bytes)
    (keyPair : Bytes × Bytes)
    (privateNonce : Bytes) :
    RegistrationBundle :=
  let masterKey := deriveMasterKey caseMapping masterPassword identifier params
  { request :=
      { identifier := Identifier.normalizeIdentifier caseMapping identifier
        kdf := params
        masterPasswordHash := deriveMasterPasswordHash masterKey masterPassword
        protectedUserKey :=
          wrapUserKey (stretchMasterKey masterKey) (generatedUserKey userKey)
            keyNonce
        publicKey := .publicKey (.atom (.privateKey keyPair))
        protectedPrivateKey :=
          wrapPrivateKey (generatedUserKey userKey) keyPair privateNonce }
    userKey := generatedUserKey userKey }

/-- `buildRegistration` -/
def buildRegistration
    (identifier masterPassword : String)
    (params : KdfParams) :
    Client RegistrationBundle := do
  let userKey ← ask (.randomBytes USER_KEY_BYTES)
  let keyNonce ← ask (.randomBytes 12)
  let keyPair ← ask .generateKey
  let privateNonce ← ask (.randomBytes 12)
  return registrationBundle caseMapping identifier masterPassword params userKey
    keyNonce keyPair privateNonce

/-- `registerAccount` -/
def registerAccount (identifier masterPassword : String) :
    Client (Option Session) := do
  let bundle ←
    buildRegistration caseMapping identifier masterPassword DEFAULT_KDF
  let registered ← call (.register bundle.request)
  match registered with
  | none => return none
  | some _ =>
      let res ←
        login bundle.request.identifier bundle.request.masterPasswordHash ""
      return res.map fun res =>
        { identifier := bundle.request.identifier
          accessToken := res.accessToken
          refreshToken := res.refreshToken
          userKey := bundle.userKey
          protectedPrivateKey := bundle.request.protectedPrivateKey }

/-- The session that a sign-in opens. -/
def openSession
    (identifier : String)
    (masterKey : Message)
    (res : LoginResult) :
    Option Session :=
  (unwrapUserKey (stretchMasterKey masterKey) res.protectedUserKey).map
    fun userKey =>
      { identifier := identifier
        accessToken := res.accessToken
        refreshToken := res.refreshToken
        userKey := userKey
        protectedPrivateKey := res.protectedPrivateKey }

/-- `loginAccount` -/
def loginAccount (identifier masterPassword totpCode : String) :
    Client (Option Session) := do
  let kdf ← prelogin identifier
  match kdf with
  | none => return none
  | some kdf =>
      let masterKey := deriveMasterKey caseMapping masterPassword identifier kdf
      let res ←
        login identifier (deriveMasterPasswordHash masterKey masterPassword)
          totpCode
      return res.bind (openSession identifier masterKey)

/-- `api.webauthnLoginBegin` -/
def webauthnLoginBegin (identifier : String) (masterPasswordHash : Message) :
    Client (Option (String × String)) := do
  let body ← call (.webAuthnLoginBegin identifier masterPasswordHash)
  match body with
  | some (.ceremony sessionId options) => return some (sessionId, options)
  | _ => return none

/-- `loginWithPasskey` -/
def loginWithPasskey
    (startAuthentication : String → Option String)
    (identifier masterPassword : String) :
    Client (Option Session) := do
  let kdf ← prelogin identifier
  match kdf with
  | none => return none
  | some kdf =>
      let masterKey := deriveMasterKey caseMapping masterPassword identifier kdf
      let masterPasswordHash := deriveMasterPasswordHash masterKey masterPassword
      let begun ← webauthnLoginBegin identifier masterPasswordHash
      match begun with
      | none => return none
      | some (sessionId, options) =>
          match startAuthentication options with
          | none => return none
          | some assertion =>
              let body ← call (.webAuthnLoginFinish identifier
                masterPasswordHash sessionId assertion)
              return (body.bind loginResult).bind
                (openSession identifier masterKey)

end Hierarchy

/-!
## Account recovery
-/

/-- The words of `generateAccountId`. -/
def generateWords (wordlist : Nat → String) : Nat → Client (List String)
  | 0 => return []
  | words + 1 => do
      let buf ← ask (.randomBytes 4)
      let rest ← generateWords wordlist words
      return wordlist (Client.uint32 buf % 2048) :: rest

/-- `generateAccountId` -/
def generateAccountId (wordlist : Nat → String) (words : Nat) :
    Client String := do
  let out ← generateWords wordlist words
  return " ".intercalate out

/-- `RecoveryEnrollment` -/
structure RecoveryEnrollment where
  recoveryCode : String
  recoveryProtectedUserKey : Envelope
  recoveryAuthHash : Message
deriving DecidableEq

/-- `enrollRecovery` -/
def enrollRecovery (wordlist : Nat → String) (userKey : Message) :
    Client RecoveryEnrollment := do
  let recoveryCode ← generateAccountId wordlist 24
  let keys := deriveRecoveryKeys recoveryCode
  let nonce ← ask (.randomBytes 12)
  return {
    recoveryCode := recoveryCode
    recoveryProtectedUserKey :=
      wrapUserKeyWithRecovery keys.recoveryEncKey userKey nonce
    recoveryAuthHash := keys.recoveryAuthHash }

/-- `enableRecovery`: the code that is displayed. -/
def enableRecovery
    (wordlist : Nat → String)
    (userID : String)
    (s : Session) :
    Client (Option String) := do
  let enrollment ← enrollRecovery wordlist s.userKey
  let enabled ← call (.recoveryEnable userID
    enrollment.recoveryProtectedUserKey enrollment.recoveryAuthHash)
  return enabled.map fun _ => enrollment.recoveryCode

/-- `disableRecovery` -/
def disableRecovery (userID : String) : Client (Option Unit) := do
  let disabled ← call (.recoveryDisable userID)
  return disabled.map fun _ => ()

/-- `api.recoveryChallenge` -/
def recoveryChallenge (identifier : String) :
    Client (Option (Envelope × KdfParams)) := do
  let body ← call (.recoveryChallenge identifier)
  match body with
  | some (.recoveryChallenge recoveryProtectedUserKey kdf) =>
      return some (recoveryProtectedUserKey, kdf)
  | _ => return none

/-- `RecoveryReset`, as the body that completes the recovery. -/
structure RecoveryReset where
  request : RecoveryCompleteRequest
  userKey : Message
deriving DecidableEq

/-- `completeRecovery`, with the nonce it draws. -/
def completeRecovery
    (caseMapping : Identifier.CaseMapping)
    (recoveryCode : String)
    (recoveryProtectedUserKey : Envelope)
    (identifier newMasterPassword : String)
    (params : KdfParams)
    (nonce : Bytes) :
    Option RecoveryReset :=
  let keys := deriveRecoveryKeys recoveryCode
  (unwrapUserKeyWithRecovery keys.recoveryEncKey recoveryProtectedUserKey).map
    fun userKey =>
      let masterKey :=
        deriveMasterKey caseMapping newMasterPassword identifier params
      { request :=
          { identifier := identifier
            recoveryAuthHash := keys.recoveryAuthHash
            masterPasswordHash :=
              deriveMasterPasswordHash masterKey newMasterPassword
            protectedUserKey :=
              wrapUserKey (stretchMasterKey masterKey) userKey nonce
            kdf := params }
        userKey := userKey }

/-- `recoverAccount` -/
def recoverAccount
    (caseMapping : Identifier.CaseMapping)
    (identifier recoveryCode newMasterPassword : String) :
    Client (Option Session) := do
  let challenge ← recoveryChallenge identifier
  match challenge with
  | none => return none
  | some (recoveryProtectedUserKey, kdf) =>
      let nonce ← ask (.randomBytes 12)
      match completeRecovery caseMapping recoveryCode recoveryProtectedUserKey
          identifier newMasterPassword kdf nonce with
      | none => return none
      | some reset =>
          let body ← call (.recoveryComplete reset.request)
          return (body.bind loginResult).map fun res =>
            { identifier := identifier
              accessToken := res.accessToken
              refreshToken := res.refreshToken
              userKey := reset.userKey
              protectedPrivateKey := res.protectedPrivateKey }

/-!
## Items
-/

/-- `encryptItemKeyed`, with the bytes it draws. -/
def encryptFields (s : Session) (fields : Json.Members) :
    Client StoredItem := do
  let key ← ask (.randomBytes 32)
  let dataNonce ← ask (.randomBytes 12)
  let keyNonce ← ask (.randomBytes 12)
  return encryptItemKeyed s.userKey (itemPlaintext fields) key dataNonce keyNonce

/-- The id of a cipher that was created. -/
def createdId : Option Body → Option String
  | some (.cipher id) => some id
  | _ => none

/-- `addItem`: the id of the new item. -/
def addItem (userID : String) (s : Session) (fields : Json.Members) :
    Client (Option String) := do
  let data ← encryptFields s fields
  let body ← call (.createCipher userID data)
  return createdId body

/-- `saveItem` -/
def saveItem
    (userID : String)
    (s : Session)
    (id : String)
    (fields : Json.Members) :
    Client (Option Unit) := do
  let data ← encryptFields s fields
  let body ← call (.updateCipher userID id data)
  return body.map fun _ => ()

/-- The upload of an item under the User Key itself. -/
def addLegacyItem (userID : String) (s : Session) (fields : Json.Members) :
    Client (Option String) := do
  let nonce ← ask (.randomBytes 12)
  let data := encryptItem s.userKey (itemPlaintext fields) nonce
  let body ← call (.createCipher userID (.legacy data))
  return createdId body

/-- `createShare` -/
def createShare (recipientPublicKey plaintext : Message) :
    Client (Option ShareEnvelope) := do
  let key ← ask (.randomBytes 32)
  let nonce ← ask (.randomBytes 12)
  let seed ← ask (.randomBytes 32)
  return shareEnvelope recipientPublicKey plaintext key nonce seed

/-- `api.lookupPublicKey` -/
def lookupPublicKey (userID identifier : String) :
    Client (Option Message) := do
  let body ← call (.lookupPublicKey userID identifier)
  match body with
  | some (.publicKey publicKey) => return some publicKey
  | _ => return none

/-- `shareItem` -/
def shareItem
    (userID recipientIdentifier : String)
    (fields : Json.Members) :
    Client (Option Unit) := do
  let publicKey ← lookupPublicKey userID recipientIdentifier
  match publicKey with
  | none => return none
  | some publicKey =>
      let shared ← createShare publicKey (itemPlaintext fields)
      match shared with
      | none => return none
      | some envelope =>
          let created ←
            call (.createShare userID recipientIdentifier envelope)
          return created.map fun _ => ()

/-- `importPrivateKey` -/
def unwrapPrivateKey (userKey : Message) (protectedPrivateKey : Envelope) :
    Option Message :=
  openEnvelope (itemKey userKey) protectedPrivateKey

/-- `openShare` -/
def openShare
    (userKey : Message)
    (protectedPrivateKey : Envelope)
    (envelope : ShareEnvelope) :
    Option Message :=
  (unwrapPrivateKey userKey protectedPrivateKey).bind fun privateKey =>
    match envelope.wrappedKey with
    | .wrap used key _ =>
        if used = privateKey then openEnvelope key envelope.data else none
    | _ => none

/-- `listSharedWithMe`: the plaintexts of the shares that open. -/
def listSharedWithMe (userID : String) (s : Session) :
    Client (Option (List Message)) := do
  let body ← call (.listShares userID)
  match body with
  | some (.shares shares) =>
      return some (shares.filterMap fun envelope =>
        openShare s.userKey s.protectedPrivateKey envelope)
  | _ => return none

end Passwd.Symbolic
