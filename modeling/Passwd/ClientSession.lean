import Passwd.KeyHierarchy
import Passwd.ServerRuns

namespace Passwd.Client

open Base64 Utf8 Crypto Interaction Server

/-!
# The session of a client

The operations of `session.ts` as programs over the random source, the key pair
generator and the requests to the server.  A body travels as the record that the
server decodes it into.  An operation that throws returns `none`.

The requests that carry a bearer token name the account that `requireAuth` reads
from it.
-/

/-- What a client asks its platform or the server for. -/
inductive Operation where
  | randomBytes (n : Nat)
  | generateKey
  | fetch (request : Request)

/-- What it is answered; a key pair is its public and its private key. -/
abbrev Answer : Operation → Type
  | .randomBytes _ => Bytes
  | .generateKey => Bytes × Bytes
  | .fetch _ => Response

/-- The calls of a client as an interface. -/
abbrev clientCalls : Interface where
  Operation := Operation
  Answer := Answer

/-- An operation of a client. -/
abbrev Client (α : Type) := Program clientCalls α

/-- Make one call. -/
abbrev ask (operation : Operation) : Client (Answer operation) :=
  @Program.call clientCalls operation

/-- A client that begins with a call. -/
@[simp] theorem ask_bind
    {α : Type}
    (operation : Operation)
    (next : Answer operation → Client α) :
    @bind Client _ (no_index (Answer operation)) α (ask operation) next =
      .perform operation next :=
  rfl

/-- What decides the answers besides the state of the server. -/
structure Choice where
  entropy : Bytes
  keyPair : Bytes × Bytes
  server : Nat → Server.Choice

/-- `n` random bytes. -/
def Choice.bytes (choice : Choice) (n : Nat) : Bytes :=
  (choice.entropy ++ List.replicate n 0).take n

/-- The effect of a call; a request is served from start to end. -/
def execute
    (backend : Backend)
    (env : Environment)
    (choice : Choice)
    (state : State) :
    (operation : Operation) → Answer operation × State
  | .randomBytes n => (choice.bytes n, state)
  | .generateKey => (choice.keyPair, state)
  | .fetch request =>
      let completed := served backend env state request choice.server
      (completed.value, completed.state)

/-!
## The transport
-/

/-- `call` -/
def call (request : Request) : Client (Option Body) := do
  let res ← ask (.fetch request)
  return if res.isOk then some res.body else none

/-- The KDF parameters as the server decodes them. -/
def sentKdf (params : KdfParams) : KDFParams where
  type := params.type
  iterations := params.iterations
  memoryMiB := params.memoryMiB.getD 0
  parallelism := params.parallelism.getD 0

/-- The KDF parameters as a client decodes them: zeros are omitted. -/
def receivedKdf (kdf : KDFParams) : KdfParams where
  type := kdf.type
  iterations := kdf.iterations
  memoryMiB := if kdf.memoryMiB = 0 then none else some kdf.memoryMiB
  parallelism := if kdf.parallelism = 0 then none else some kdf.parallelism

/-- `LoginResult` -/
structure LoginResult where
  accessToken : String
  refreshToken : String
  protectedUserKey : String
  protectedPrivateKey : String
  kdf : KdfParams
deriving DecidableEq

/-- The body of a sign-in. -/
def loginResult : Body → Option LoginResult
  | .login accessToken refreshToken protectedUserKey protectedPrivateKey kdf =>
      some
        { accessToken := accessToken
          refreshToken := refreshToken
          protectedUserKey := protectedUserKey
          protectedPrivateKey := protectedPrivateKey
          kdf := receivedKdf kdf }
  | _ => none

/-- `api.login` and its callers: a request for a second factor is thrown. -/
def login (identifier masterPasswordHash totpCode : String) :
    Client (Option LoginResult) := do
  let res ← ask (.fetch (.login (some
    { identifier := identifier, masterPasswordHash := masterPasswordHash,
      totpCode := totpCode })))
  return if res.isOk then loginResult res.body else none

/-!
## Sessions
-/

/-- `Session` -/
structure Session where
  identifier : String
  accessToken : String
  refreshToken : String
  userKey : Bytes
  protectedPrivateKey : String
deriving DecidableEq

section Operations

variable (crypto : Primitives)

/-- `RegistrationBundle`, with the User Key it protects. -/
structure RegistrationBundle where
  identifier : String
  kdf : KdfParams
  masterPasswordHash : String
  protectedUserKey : String
  publicKey : String
  protectedPrivateKey : String
  userKey : Bytes
deriving DecidableEq

/-- The body that registers a bundle. -/
def RegistrationBundle.request (bundle : RegistrationBundle) :
    RegisterRequest where
  identifier := bundle.identifier
  kdf := sentKdf bundle.kdf
  masterPasswordHash := bundle.masterPasswordHash
  protectedUserKey := bundle.protectedUserKey
  publicKey := bundle.publicKey
  protectedPrivateKey := bundle.protectedPrivateKey

/-- `USER_KEY_BYTES` -/
def USER_KEY_BYTES : Nat := 64

/-- What `buildRegistration` computes from the bytes and keys it draws. -/
def registrationBundle
    (identifier masterPassword : String)
    (params : KdfParams)
    (userKey keyNonce : Bytes)
    (keyPair : Bytes × Bytes)
    (privateNonce : Bytes) :
    Option RegistrationBundle :=
  (deriveMasterKey crypto masterPassword identifier params).bind
    fun masterKey =>
      match
        wrapUserKey crypto (stretchMasterKey crypto masterKey) userKey keyNonce,
        deriveMasterPasswordHash crypto masterKey masterPassword,
        wrapPrivateKey crypto userKey keyPair.2 privateNonce with
      | some protectedUserKey, some masterPasswordHash,
          some protectedPrivateKey =>
          some
            { identifier :=
                Identifier.normalizeIdentifier crypto.caseMapping identifier
              kdf := params
              masterPasswordHash := masterPasswordHash
              protectedUserKey := protectedUserKey
              publicKey := toBase64 keyPair.1
              protectedPrivateKey := protectedPrivateKey
              userKey := userKey }
      | _, _, _ => none

/-- `buildRegistration` -/
def buildRegistration
    (identifier masterPassword : String)
    (params : KdfParams) :
    Client (Option RegistrationBundle) := do
  let userKey ← ask (.randomBytes USER_KEY_BYTES)
  let keyNonce ← ask (.randomBytes 12)
  let keyPair ← ask .generateKey
  let privateNonce ← ask (.randomBytes 12)
  return registrationBundle crypto identifier masterPassword params userKey
    keyNonce keyPair privateNonce

/-- `registerAccount` -/
def registerAccount (identifier masterPassword : String) :
    Client (Option Session) := do
  let built ← buildRegistration crypto identifier masterPassword DEFAULT_KDF
  match built with
  | none => return none
  | some bundle =>
      let registered ← call (.register (some bundle.request))
      match registered with
      | none => return none
      | some _ =>
          let res ← login bundle.identifier bundle.masterPasswordHash ""
          return res.map fun res =>
            { identifier := bundle.identifier
              accessToken := res.accessToken
              refreshToken := res.refreshToken
              userKey := bundle.userKey
              protectedPrivateKey := bundle.protectedPrivateKey }

/-- `api.prelogin` -/
def prelogin (identifier : String) : Client (Option KdfParams) := do
  let body ← call (.prelogin (some identifier))
  match body with
  | some (.kdf kdf) => return some (receivedKdf kdf)
  | _ => return none

/-- The session that a sign-in opens. -/
def openSession
    (identifier : String)
    (masterKey : Bytes)
    (res : LoginResult) :
    Option Session :=
  (unwrapUserKey crypto (stretchMasterKey crypto masterKey)
    res.protectedUserKey).map fun userKey =>
      { identifier := identifier
        accessToken := res.accessToken
        refreshToken := res.refreshToken
        userKey := userKey
        protectedPrivateKey := res.protectedPrivateKey }

/-- The master key and the hash that a client sends. -/
def loginKeys (identifier masterPassword : String) (kdf : KdfParams) :
    Option (Bytes × String) :=
  (deriveMasterKey crypto masterPassword identifier kdf).bind fun masterKey =>
    (deriveMasterPasswordHash crypto masterKey masterPassword).map
      fun masterPasswordHash => (masterKey, masterPasswordHash)

/-- `loginAccount` -/
def loginAccount (identifier masterPassword totpCode : String) :
    Client (Option Session) := do
  let kdf ← prelogin identifier
  match kdf.bind (loginKeys crypto identifier masterPassword) with
  | none => return none
  | some (masterKey, masterPasswordHash) =>
      let res ← login identifier masterPasswordHash totpCode
      return res.bind (openSession crypto identifier masterKey)

/-!
## Account recovery
-/

/-- The number that four random bytes make up, the least significant first. -/
def uint32 (buf : Bytes) : Nat :=
  buf.foldr (fun byte value => byte.toNat + 256 * value) 0

/--
The words of `generateAccountId`.  The list has 2048 of them, so the largest
multiple of its length is 2³² and no draw is rejected.
-/
def generateWords : Nat → Client (List String)
  | 0 => return []
  | words + 1 => do
      let buf ← ask (.randomBytes 4)
      let rest ← generateWords words
      return crypto.wordlist (uint32 buf % 2048) :: rest

/-- `generateAccountId` -/
def generateAccountId (words : Nat) : Client String := do
  let out ← generateWords crypto words
  return " ".intercalate out

/-- `RecoveryEnrollment` -/
structure RecoveryEnrollment where
  recoveryCode : String
  recoveryProtectedUserKey : String
  recoveryAuthHash : String
deriving DecidableEq

/-- `enrollRecovery` -/
def enrollRecovery (userKey : Bytes) : Client (Option RecoveryEnrollment) := do
  let recoveryCode ← generateAccountId crypto 24
  match deriveRecoveryKeys crypto recoveryCode with
  | none => return none
  | some keys =>
      let nonce ← ask (.randomBytes 12)
      return (wrapUserKeyWithRecovery crypto keys.recoveryEncKey userKey
        nonce).map fun recoveryProtectedUserKey =>
          { recoveryCode := recoveryCode
            recoveryProtectedUserKey := recoveryProtectedUserKey
            recoveryAuthHash := keys.recoveryAuthHash }

/-- `enableRecovery`: the code that is displayed. -/
def enableRecovery (userID : String) (s : Session) :
    Client (Option String) := do
  let enrolled ← enrollRecovery crypto s.userKey
  match enrolled with
  | none => return none
  | some enrollment =>
      let enabled ← call (.recoveryEnable userID (some
        { recoveryProtectedUserKey := enrollment.recoveryProtectedUserKey
          recoveryAuthHash := enrollment.recoveryAuthHash }))
      return enabled.map fun _ => enrollment.recoveryCode

/-- `disableRecovery` -/
def disableRecovery (userID : String) : Client (Option Unit) := do
  let disabled ← call (.recoveryDisable userID)
  return disabled.map fun _ => ()

/-- `RecoveryReset` -/
structure RecoveryReset where
  recoveryAuthHash : String
  masterPasswordHash : String
  protectedUserKey : String
  kdf : KdfParams
  userKey : Bytes
deriving DecidableEq

/-- `completeRecovery`, with the nonce it draws. -/
def completeRecovery
    (recoveryCode recoveryProtectedUserKey identifier newMasterPassword :
      String)
    (params : KdfParams)
    (nonce : Bytes) :
    Option RecoveryReset :=
  (deriveRecoveryKeys crypto recoveryCode).bind fun keys =>
    (unwrapUserKeyWithRecovery crypto keys.recoveryEncKey
      recoveryProtectedUserKey).bind fun userKey =>
        (loginKeys crypto identifier newMasterPassword params).bind fun derived =>
          (wrapUserKey crypto (stretchMasterKey crypto derived.1) userKey
            nonce).map fun protectedUserKey =>
              { recoveryAuthHash := keys.recoveryAuthHash
                masterPasswordHash := derived.2
                protectedUserKey := protectedUserKey
                kdf := params
                userKey := userKey }

/-- `api.recoveryChallenge` -/
def recoveryChallenge (identifier : String) :
    Client (Option (String × KdfParams)) := do
  let body ← call (.recoveryChallenge (some identifier))
  match body with
  | some (.recoveryChallenge recoveryProtectedUserKey kdf) =>
      return some (recoveryProtectedUserKey, receivedKdf kdf)
  | _ => return none

/-- `recoverAccount` -/
def recoverAccount (identifier recoveryCode newMasterPassword : String) :
    Client (Option Session) := do
  let challenge ← recoveryChallenge identifier
  match challenge with
  | none => return none
  | some (recoveryProtectedUserKey, kdf) =>
      let nonce ← ask (.randomBytes 12)
      match completeRecovery crypto recoveryCode recoveryProtectedUserKey
          identifier newMasterPassword kdf nonce with
      | none => return none
      | some reset =>
          let body ← call (.recoveryComplete (some
            { identifier := identifier
              recoveryAuthHash := reset.recoveryAuthHash
              masterPasswordHash := reset.masterPasswordHash
              protectedUserKey := reset.protectedUserKey
              kdf := sentKdf reset.kdf }))
          return (body.bind loginResult).map fun res =>
            { identifier := identifier
              accessToken := res.accessToken
              refreshToken := res.refreshToken
              userKey := reset.userKey
              protectedPrivateKey := res.protectedPrivateKey }

/-!
## Items
-/

/-- `encryptItemKeyed`, with the bytes it draws. -/
def encryptFields (s : Session) (fields : Json.Members) :
    Client (Option String) := do
  let key ← ask (.randomBytes 32)
  let dataNonce ← ask (.randomBytes 12)
  let keyNonce ← ask (.randomBytes 12)
  return encryptItemKeyed crypto s.userKey (stringify (.object fields)) key
    dataNonce keyNonce

/-- `addItem`: the id of the new item. -/
def addItem (userID : String) (s : Session) (fields : Json.Members) :
    Client (Option String) := do
  let encrypted ← encryptFields crypto s fields
  match encrypted with
  | none => return none
  | some data =>
      let body ← call (.createCipher userID (some data))
      match body with
      | some (.cipher id _ _ _) => return some id
      | _ => return none

/-- `saveItem` -/
def saveItem
    (userID : String)
    (s : Session)
    (id : String)
    (fields : Json.Members) :
    Client (Option Unit) := do
  let encrypted ← encryptFields crypto s fields
  match encrypted with
  | none => return none
  | some data =>
      let body ← call (.updateCipher userID id (some data))
      return body.map fun _ => ()

/-- `api.sync`: the ids and the contents of the stored items. -/
def sync (userID : String) : Client (Option (List (String × String))) := do
  let body ← call (.sync userID)
  match body with
  | some (.ciphers ciphers) =>
      return some (ciphers.map fun c => (c.1, c.2.1))
  | _ => return none

end Operations

end Passwd.Client
