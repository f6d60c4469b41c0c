import Passwd.ClientSession

namespace Passwd.Client

open Base64 Utf8 Crypto Interaction Server

/-!
# Sharing items and signing in with a passkey

The operations of `sharing.ts` and the remaining operations of `session.ts` that
send something to the server.  RSA-OAEP and the authenticator of the platform
are parameters.
-/

/-- RSA-OAEP; encryption takes the seed that it draws. -/
structure KeyWrapping where
  rsaOaepEncrypt : Bytes → Bytes → Bytes → Option Bytes
  rsaOaepDecrypt : Bytes → Bytes → Option Bytes

/-- Decryption with the private key of a pair inverts encryption. -/
def KeyWrapping.Inverts
    (rsa : KeyWrapping)
    (keyPair : Bytes × Bytes) :
    Prop :=
  ∀ plaintext seed wrapped,
    rsa.rsaOaepEncrypt keyPair.1 plaintext seed = some wrapped →
      rsa.rsaOaepDecrypt keyPair.2 wrapped = some plaintext

section Sharing

variable (crypto : Primitives) (rsa : KeyWrapping)

/-!
## Shares
-/

/-- `ShareEnvelope` -/
structure ShareEnvelope where
  wrappedKey : String
  data : String
deriving DecidableEq

/-- What `createShare` computes from the bytes it draws. -/
def shareEnvelope
    (recipientPublicKey plaintext : String)
    (key nonce seed : Bytes) :
    Option ShareEnvelope :=
  match sealEnvelope crypto key (utf8 plaintext) nonce,
      (fromBase64 recipientPublicKey).bind fun spki =>
        rsa.rsaOaepEncrypt spki key seed with
  | some data, some wrapped =>
      some { wrappedKey := toBase64 wrapped, data := data }
  | _, _ => none

/-- `createShare` -/
def createShare (recipientPublicKey plaintext : String) :
    Client (Option ShareEnvelope) := do
  let key ← ask (.randomBytes 32)
  let nonce ← ask (.randomBytes 12)
  let seed ← ask (.randomBytes 32)
  return shareEnvelope crypto rsa recipientPublicKey plaintext key nonce seed

/-- `openShare` -/
def openShare
    (userKey : Bytes)
    (protectedPrivateKey : String)
    (envelope : ShareEnvelope) :
    Option String :=
  (unwrapPrivateKey crypto userKey protectedPrivateKey).bind fun pkcs8 =>
    (fromBase64 envelope.wrappedKey).bind fun wrapped =>
      (rsa.rsaOaepDecrypt pkcs8 wrapped).bind fun key =>
        (openEnvelope crypto key envelope.data).map fromUtf8

/-- The holder of the private key opens what was shared for its public key. -/
theorem openShare_of_shareEnvelope
    (authenticated : crypto.Authenticated)
    {keyPair : Bytes × Bytes}
    (inverts : rsa.Inverts keyPair)
    {userKey key nonce seed : Bytes}
    {protectedPrivateKey plaintext : String}
    {envelope : ShareEnvelope}
    (unmarked : plaintext.toList.head? ≠ some byteOrderMark)
    (hasNonce : nonce ≠ [])
    (unwrapped :
      unwrapPrivateKey crypto userKey protectedPrivateKey = some keyPair.2)
    (shared :
      shareEnvelope crypto rsa (toBase64 keyPair.1) plaintext key nonce seed =
        some envelope) :
    openShare crypto rsa userKey protectedPrivateKey envelope =
      some plaintext := by
  rw [shareEnvelope, fromBase64_toBase64] at shared
  dsimp only [Option.bind_some] at shared
  split at shared
  · rename_i data wrapped sealed encrypted
    cases shared
    have opened :=
      openEnvelope_of_sealEnvelope authenticated hasNonce sealed
    simp [openShare, unwrapped, fromBase64_toBase64,
      inverts key seed wrapped encrypted, opened, fromUtf8_utf8 unmarked]
  · cases shared

/-- `api.lookupPublicKey` -/
def lookupPublicKey (userID identifier : String) :
    Client (Option String) := do
  let body ← call (.lookupPublicKey userID identifier)
  match body with
  | some (.publicKey publicKey) => return some publicKey
  | _ => return none

/-- `shareItem` -/
def shareItem
    (userID recipientIdentifier : String)
    (fields : Json.Members) :
    Client (Option Unit) := do
  let publicKey ← lookupPublicKey userID recipientIdentifier
  match publicKey with
  | none => return none
  | some publicKey =>
      let shared ← createShare crypto rsa publicKey (stringify (.object fields))
      match shared with
      | none => return none
      | some envelope =>
          let created ← call (.createShare userID (some
            { recipientIdentifier := recipientIdentifier
              wrappedKey := envelope.wrappedKey
              data := envelope.data }))
          return created.map fun _ => ()

/-!
## Passkeys
-/

/-- `api.webauthnLoginBegin`: the handle of the ceremony and its options. -/
def webauthnLoginBegin (identifier masterPasswordHash : String) :
    Client (Option (String × String)) := do
  let body ← call (.webAuthnLoginBegin (some
    { identifier := identifier, masterPasswordHash := masterPasswordHash }))
  match body with
  | some (.ceremony sessionId options) => return some (sessionId, options)
  | _ => return none

/-- `loginWithPasskey`; `startAuthentication` asks the authenticator. -/
def loginWithPasskey
    (startAuthentication : String → Option String)
    (identifier masterPassword : String) :
    Client (Option Session) := do
  let kdf ← prelogin identifier
  match kdf.bind (loginKeys crypto identifier masterPassword) with
  | none => return none
  | some (masterKey, masterPasswordHash) =>
      let begun ← webauthnLoginBegin identifier masterPasswordHash
      match begun with
      | none => return none
      | some (sessionId, options) =>
          match startAuthentication options with
          | none => return none
          | some assertion =>
              let body ← call (.webAuthnLoginFinish (some
                { identifier := identifier
                  masterPasswordHash := masterPasswordHash
                  sessionId := sessionId
                  credential := assertion }))
              return (body.bind loginResult).bind
                (openSession crypto identifier masterKey)

/-!
## Items of one key
-/

/-- `encryptItem`, with the nonce it draws. -/
def encryptItem (userKey : Bytes) (plaintext : String) (nonce : Bytes) :
    Option String :=
  sealEnvelope crypto (itemKey userKey) (utf8 plaintext) nonce

/--
The upload of an item under the User Key itself, as clients did before items had
keys of their own.
-/
def addLegacyItem (userID : String) (s : Session) (fields : Json.Members) :
    Client (Option String) := do
  let nonce ← ask (.randomBytes 12)
  match encryptItem crypto s.userKey (stringify (.object fields)) nonce with
  | none => return none
  | some data =>
      let body ← call (.createCipher userID (some data))
      match body with
      | some (.cipher id _ _ _) => return some id
      | _ => return none

end Sharing

end Passwd.Client
