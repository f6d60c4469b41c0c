import Passwd.ClientSession
import Passwd.HttpRefinement
import Passwd.OfflineVault
import Passwd.PlainPaths

namespace Passwd.Client

open Base64 Interaction Json Server
open Crypto (KdfParams)

/-!
# The calls of the client library as messages

Every function of the transport sends one message: a method, a path, the body
in JSON and the access token.  At the server the message reaches the handler that
the function is meant for, with the arguments that the function was called with.
-/

/-- The functions of the transport with their arguments. -/
inductive ApiCall where
  | prelogin (identifier : String)
  | register (bundle : RegistrationBundle)
  | deleteAccountReq (token : String)
  | listSessions (token : String)
  | logoutAll (token : String)
  | login (identifier masterPasswordHash : String) (totpCode : Option String)
  | twoFactorStatus (token : String)
  | twoFactorSetup (token : String)
  | twoFactorEnable (token code : String)
  | twoFactorDisable (token code : String)
  | recoveryStatus (token : String)
  | recoveryEnable (token recoveryProtectedUserKey recoveryAuthHash : String)
  | recoveryDisable (token : String)
  | recoveryChallenge (identifier : String)
  | recoveryComplete
      (identifier recoveryAuthHash masterPasswordHash protectedUserKey : String)
      (kdf : KdfParams)
  | webauthnCredentials (token : String)
  | webauthnDeleteCredential (token id : String)
  | webauthnRegisterBegin (token : String)
  | webauthnRegisterFinish (token sessionId name : String) (credential : Value)
  | webauthnLoginBegin (identifier masterPasswordHash : String)
  | webauthnLoginFinish
      (identifier masterPasswordHash sessionId : String)
      (credential : Value)
  | auditLog (token : String)
  | lookupPublicKey (token identifier : String)
  | createShare (token recipientIdentifier wrappedKey data : String)
  | listShares (token : String)
  | deleteShare (token id : String)
  | sync (token : String)
  | createCipher (token data : String)
  | updateCipher (token id data : String)
  | deleteCipher (token id : String)

/-- What is kept by `encodeURIComponent`. -/
def keptInComponent (byte : UInt8) : Bool :=
  isAlphanumeric byte || byte = 0x27 ||
    isOneOf ['-', '_', '.', '!', '~', '*', '(', ')'] byte

/-- `encodeURIComponent` -/
def encodeURIComponent (text : String) : Bytes :=
  Percent.encode keptInComponent (bytesOf text)

/-- What the query of a URL keeps when it is parsed. -/
def keptInQuery (byte : UInt8) : Bool :=
  0x21 ≤ byte && byte ≤ 0x7e && byte ≠ 0x27 && !isOneOf ['"', '#', '<', '>'] byte

/-- The arguments of `call`, with the path by its segments. -/
structure CallArguments where
  method : String
  path : List String
  query : Bytes
  body : Option Members
  token : String

/-- A call without a body. -/
def bare (method : String) (path : List String) (token : String) :
    CallArguments where
  method := method
  path := "api" :: path
  query := []
  body := none
  token := token

/-- A call with a body. -/
def withBody
    (method : String)
    (path : List String)
    (body : Members)
    (token : String) :
    CallArguments where
  method := method
  path := "api" :: path
  query := []
  body := some body
  token := token

/-- What every function of the transport hands to `call`. -/
def ApiCall.arguments : ApiCall → CallArguments
  | .prelogin identifier =>
      withBody "POST" ["accounts", "prelogin"]
        [("identifier", .string identifier)] ""
  | .register bundle =>
      withBody "POST" ["accounts", "register"]
        [("identifier", .string bundle.identifier),
          ("kdf", OfflineVault.spelled bundle.kdf),
          ("masterPasswordHash", .string bundle.masterPasswordHash),
          ("protectedUserKey", .string bundle.protectedUserKey),
          ("publicKey", .string bundle.publicKey),
          ("protectedPrivateKey", .string bundle.protectedPrivateKey)] ""
  | .deleteAccountReq token => bare "DELETE" ["account"] token
  | .listSessions token => bare "GET" ["sessions"] token
  | .logoutAll token => bare "POST" ["auth", "logout-all"] token
  | .login identifier masterPasswordHash totpCode =>
      withBody "POST" ["auth", "login"]
        ([("identifier", .string identifier),
            ("masterPasswordHash", .string masterPasswordHash)] ++
          (totpCode.map fun totpCode => ("totpCode", .string totpCode)).toList)
        ""
  | .twoFactorStatus token => bare "GET" ["2fa"] token
  | .twoFactorSetup token => withBody "POST" ["2fa", "setup"] [] token
  | .twoFactorEnable token code =>
      withBody "POST" ["2fa", "enable"] [("code", .string code)] token
  | .twoFactorDisable token code =>
      withBody "POST" ["2fa", "disable"] [("code", .string code)] token
  | .recoveryStatus token => bare "GET" ["recovery"] token
  | .recoveryEnable token recoveryProtectedUserKey recoveryAuthHash =>
      withBody "POST" ["recovery", "enable"]
        [("recoveryProtectedUserKey", .string recoveryProtectedUserKey),
          ("recoveryAuthHash", .string recoveryAuthHash)] token
  | .recoveryDisable token => bare "POST" ["recovery", "disable"] token
  | .recoveryChallenge identifier =>
      withBody "POST" ["auth", "recovery", "challenge"]
        [("identifier", .string identifier)] ""
  | .recoveryComplete identifier recoveryAuthHash masterPasswordHash
      protectedUserKey kdf =>
      withBody "POST" ["auth", "recovery", "complete"]
        [("identifier", .string identifier),
          ("recoveryAuthHash", .string recoveryAuthHash),
          ("masterPasswordHash", .string masterPasswordHash),
          ("protectedUserKey", .string protectedUserKey),
          ("kdf", OfflineVault.spelled kdf)] ""
  | .webauthnCredentials token =>
      bare "GET" ["2fa", "webauthn", "credentials"] token
  | .webauthnDeleteCredential token id =>
      bare "DELETE" ["2fa", "webauthn", "credentials", id] token
  | .webauthnRegisterBegin token =>
      withBody "POST" ["2fa", "webauthn", "register", "begin"] [] token
  | .webauthnRegisterFinish token sessionId name credential =>
      withBody "POST" ["2fa", "webauthn", "register", "finish"]
        [("sessionId", .string sessionId), ("name", .string name),
          ("credential", credential)] token
  | .webauthnLoginBegin identifier masterPasswordHash =>
      withBody "POST" ["auth", "webauthn", "begin"]
        [("identifier", .string identifier),
          ("masterPasswordHash", .string masterPasswordHash)] ""
  | .webauthnLoginFinish identifier masterPasswordHash sessionId credential =>
      withBody "POST" ["auth", "webauthn", "finish"]
        [("identifier", .string identifier),
          ("masterPasswordHash", .string masterPasswordHash),
          ("sessionId", .string sessionId), ("credential", credential)] ""
  | .auditLog token => bare "GET" ["audit"] token
  | .lookupPublicKey token identifier =>
      { bare "GET" ["users", "public-key"] token with
        query := bytesOf "identifier=" ++ encodeURIComponent identifier }
  | .createShare token recipientIdentifier wrappedKey data =>
      withBody "POST" ["shares"]
        [("recipientIdentifier", .string recipientIdentifier),
          ("wrappedKey", .string wrappedKey), ("data", .string data)] token
  | .listShares token => bare "GET" ["shares"] token
  | .deleteShare token id => bare "DELETE" ["shares", id] token
  | .sync token => bare "GET" ["sync"] token
  | .createCipher token data =>
      withBody "POST" ["ciphers"] [("data", .string data)] token
  | .updateCipher token id data =>
      withBody "PUT" ["ciphers", id] [("data", .string data)] token
  | .deleteCipher token id => bare "DELETE" ["ciphers", id] token

/-- The target that `fetch` sends. -/
def CallArguments.target (arguments : CallArguments) : Bytes :=
  (slash :: [slash].intercalate (arguments.path.map bytesOf)) ++
    if arguments.query = [] then
      []
    else
      0x3f :: Percent.encode keptInQuery arguments.query

/-- `call`: the message that is sent to a server at the root of its origin. -/
def CallArguments.message
    (arguments : CallArguments)
    (origin : Bytes)
    (peer : HttpRequest) :
    Message where
  Method := arguments.method
  RequestURI := arguments.target
  origin_form := rfl
  Authorization :=
    if arguments.token = "" then
      []
    else
      bytesOf ("Bearer " ++ arguments.token)
  Origin := origin
  Body := arguments.body.elim [] fun body =>
    bytesOf (Crypto.stringify (.object body))
  peer := peer

/-!
## What the calls stand for
-/

/-- The guard of the route that a function of the transport is for. -/
def ApiCall.guard : ApiCall → Guard
  | .prelogin _ | .register _ | .login _ _ _ => .rateLimit
  | .recoveryChallenge _ | .recoveryComplete _ _ _ _ _ => .rateLimit
  | .webauthnLoginBegin _ _ | .webauthnLoginFinish _ _ _ _ => .rateLimit
  | _ => .requireAuth

/-- The request that a function of the transport is for. -/
def ApiCall.request (userID : String) : ApiCall → Request
  | .prelogin identifier => .prelogin (some identifier)
  | .register bundle => .register (some bundle.request)
  | .deleteAccountReq _ => .deleteAccount userID
  | .listSessions _ => .listSessions userID
  | .logoutAll _ => .logoutAll userID
  | .login identifier masterPasswordHash totpCode =>
      .login (some
        { identifier := identifier
          masterPasswordHash := masterPasswordHash
          totpCode := totpCode.getD "" })
  | .twoFactorStatus _ => .totpStatus userID
  | .twoFactorSetup _ => .totpSetup userID
  | .twoFactorEnable _ code => .totpEnable userID (some code)
  | .twoFactorDisable _ code => .totpDisable userID (some code)
  | .recoveryStatus _ => .recoveryStatus userID
  | .recoveryEnable _ recoveryProtectedUserKey recoveryAuthHash =>
      .recoveryEnable userID (some
        { recoveryProtectedUserKey := recoveryProtectedUserKey
          recoveryAuthHash := recoveryAuthHash })
  | .recoveryDisable _ => .recoveryDisable userID
  | .recoveryChallenge identifier => .recoveryChallenge (some identifier)
  | .recoveryComplete identifier recoveryAuthHash masterPasswordHash
      protectedUserKey kdf =>
      .recoveryComplete (some
        { identifier := identifier
          recoveryAuthHash := recoveryAuthHash
          masterPasswordHash := masterPasswordHash
          protectedUserKey := protectedUserKey
          kdf := sentKdf kdf })
  | .webauthnCredentials _ => .webAuthnList userID
  | .webauthnDeleteCredential _ id => .webAuthnDelete userID id
  | .webauthnRegisterBegin _ => .webAuthnRegisterBegin userID
  | .webauthnRegisterFinish _ sessionId name credential =>
      .webAuthnRegisterFinish userID (some
        { sessionId := sessionId
          name := name
          credential := Crypto.stringify credential })
  | .webauthnLoginBegin identifier masterPasswordHash =>
      .webAuthnLoginBegin (some
        { identifier := identifier
          masterPasswordHash := masterPasswordHash })
  | .webauthnLoginFinish identifier masterPasswordHash sessionId credential =>
      .webAuthnLoginFinish (some
        { identifier := identifier
          masterPasswordHash := masterPasswordHash
          sessionId := sessionId
          credential := Crypto.stringify credential })
  | .auditLog _ => .auditLog userID
  | .lookupPublicKey _ identifier => .lookupPublicKey userID identifier
  | .createShare _ recipientIdentifier wrappedKey data =>
      .createShare userID (some
        { recipientIdentifier := recipientIdentifier
          wrappedKey := wrappedKey
          data := data })
  | .listShares _ => .listShares userID
  | .deleteShare _ id => .deleteShare userID id
  | .sync _ => .sync userID
  | .createCipher _ data => .createCipher userID (some data)
  | .updateCipher _ id data => .updateCipher userID id (some data)
  | .deleteCipher _ id => .deleteCipher userID id

/-- The parameters whose numbers the server can hold. -/
def FitsKdf (kdf : KdfParams) : Prop :=
  Decimal.Fits 64 kdf.iterations ∧
    (∀ memoryMiB ∈ kdf.memoryMiB, Decimal.Fits 64 memoryMiB) ∧
    ∀ parallelism ∈ kdf.parallelism, Decimal.Fits 64 parallelism

/-- The parameters that a call sends. -/
def ApiCall.kdf? : ApiCall → Option KdfParams
  | .register bundle => some bundle.kdf
  | .recoveryComplete _ _ _ _ kdf => some kdf
  | _ => none

/--
A call that the server can read: the segments of its path are plain, its body is
a value of JSON and not too long, and its numbers fit.
-/
structure ApiCall.Sendable (call : ApiCall) : Prop where
  path : ∀ segment ∈ call.arguments.path, PlainSegment segment
  values :
    ∀ body ∈ call.arguments.body, ∀ member ∈ body, WellFormed member.2
  length :
    ∀ body ∈ call.arguments.body,
      (bytesOf (Crypto.stringify (.object body))).length ≤ bodyLimit
  numbers : ∀ kdf ∈ call.kdf?, FitsKdf kdf

end Passwd.Client
