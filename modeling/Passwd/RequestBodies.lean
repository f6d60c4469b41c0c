import Passwd.ServerRequests
import Passwd.StructDecoding

namespace Passwd.Server

open Base64 Json

/-!
# The bodies of requests

Every handler that reads a body decodes it into a struct of its own.  A body
that does not decode is answered by `invalidBody`, so a decoder here returns
what the handlers of this development take.
-/

/-- A struct with one string. -/
def singleField (name : String) (body : Bytes) : Option String :=
  decodeJSON [stringField name fun _ text => text] "" body

/-- `preloginRequest` -/
def preloginRequest : Bytes → Option String :=
  singleField "identifier"

/-- `refreshRequest` -/
def refreshRequest : Bytes → Option String :=
  singleField "refreshToken"

/-- `totpCodeRequest` -/
def totpCodeRequest : Bytes → Option String :=
  singleField "code"

/-- `recoveryChallengeRequest` -/
def recoveryChallengeRequest : Bytes → Option String :=
  singleField "identifier"

/-- `cipherRequest` -/
def cipherRequest : Bytes → Option String :=
  singleField "data"

/-- The fields of `KDFParams`. -/
def kdfFields : List (Field KDFParams) :=
  [stringField "type" fun kdf type => { kdf with type := type },
    intField "iterations" (·.iterations) fun kdf iterations =>
      { kdf with iterations := iterations },
    intField "memoryMiB" (·.memoryMiB) fun kdf memoryMiB =>
      { kdf with memoryMiB := memoryMiB },
    intField "parallelism" (·.parallelism) fun kdf parallelism =>
      { kdf with parallelism := parallelism }]

/-- `KDFParams{}` -/
def KDFParams.zero : KDFParams where
  type := ""
  iterations := 0
  memoryMiB := 0
  parallelism := 0

/-- The fields of `registerRequest`. -/
def registerFields : List (Field RegisterRequest) :=
  [stringField "identifier" fun req identifier =>
      { req with identifier := identifier },
    structField "kdf" kdfFields (·.kdf) fun req kdf => { req with kdf := kdf },
    stringField "masterPasswordHash" fun req masterPasswordHash =>
      { req with masterPasswordHash := masterPasswordHash },
    stringField "protectedUserKey" fun req protectedUserKey =>
      { req with protectedUserKey := protectedUserKey },
    stringField "publicKey" fun req publicKey =>
      { req with publicKey := publicKey },
    stringField "protectedPrivateKey" fun req protectedPrivateKey =>
      { req with protectedPrivateKey := protectedPrivateKey }]

/-- `registerRequest` -/
def registerRequest : Bytes → Option RegisterRequest :=
  decodeJSON registerFields
    { identifier := "", kdf := .zero, masterPasswordHash := "",
      protectedUserKey := "", publicKey := "", protectedPrivateKey := "" }

/-- The fields of `loginRequest`. -/
def loginFields : List (Field LoginRequest) :=
  [stringField "identifier" fun req identifier =>
      { req with identifier := identifier },
    stringField "masterPasswordHash" fun req masterPasswordHash =>
      { req with masterPasswordHash := masterPasswordHash },
    stringField "totpCode" fun req totpCode => { req with totpCode := totpCode }]

/-- `loginRequest` -/
def loginRequest : Bytes → Option LoginRequest :=
  decodeJSON loginFields
    { identifier := "", masterPasswordHash := "", totpCode := "" }

/-- The fields of `recoveryEnableRequest`. -/
def recoveryEnableFields : List (Field RecoveryEnableRequest) :=
  [stringField "recoveryProtectedUserKey" fun req recoveryProtectedUserKey =>
      { req with recoveryProtectedUserKey := recoveryProtectedUserKey },
    stringField "recoveryAuthHash" fun req recoveryAuthHash =>
      { req with recoveryAuthHash := recoveryAuthHash }]

/-- `recoveryEnableRequest` -/
def recoveryEnableRequest : Bytes → Option RecoveryEnableRequest :=
  decodeJSON recoveryEnableFields
    { recoveryProtectedUserKey := "", recoveryAuthHash := "" }

/-- The fields of `recoveryCompleteRequest`. -/
def recoveryCompleteFields : List (Field RecoveryCompleteRequest) :=
  [stringField "identifier" fun req identifier =>
      { req with identifier := identifier },
    stringField "recoveryAuthHash" fun req recoveryAuthHash =>
      { req with recoveryAuthHash := recoveryAuthHash },
    stringField "masterPasswordHash" fun req masterPasswordHash =>
      { req with masterPasswordHash := masterPasswordHash },
    stringField "protectedUserKey" fun req protectedUserKey =>
      { req with protectedUserKey := protectedUserKey },
    structField "kdf" kdfFields (·.kdf) fun req kdf => { req with kdf := kdf }]

/-- `recoveryCompleteRequest` -/
def recoveryCompleteRequest : Bytes → Option RecoveryCompleteRequest :=
  decodeJSON recoveryCompleteFields
    { identifier := "", recoveryAuthHash := "", masterPasswordHash := "",
      protectedUserKey := "", kdf := .zero }

/-- The fields of the request that `handleWebAuthnRegisterFinish` reads. -/
def registerFinishFields : List (Field RegisterFinishRequest) :=
  [stringField "sessionId" fun req sessionId =>
      { req with sessionId := sessionId },
    stringField "name" fun req name => { req with name := name },
    rawField "credential" fun req credential =>
      { req with credential := credential }]

/-- The request that `handleWebAuthnRegisterFinish` reads. -/
def registerFinishRequest : Bytes → Option RegisterFinishRequest :=
  decodeJSON registerFinishFields
    { sessionId := "", name := "", credential := "" }

/-- The fields of the request that `handleWebAuthnLoginBegin` reads. -/
def loginBeginFields : List (Field LoginBeginRequest) :=
  [stringField "identifier" fun req identifier =>
      { req with identifier := identifier },
    stringField "masterPasswordHash" fun req masterPasswordHash =>
      { req with masterPasswordHash := masterPasswordHash }]

/-- The request that `handleWebAuthnLoginBegin` reads. -/
def loginBeginRequest : Bytes → Option LoginBeginRequest :=
  decodeJSON loginBeginFields { identifier := "", masterPasswordHash := "" }

/-- The fields of the request that `handleWebAuthnLoginFinish` reads. -/
def loginFinishFields : List (Field LoginFinishRequest) :=
  [stringField "identifier" fun req identifier =>
      { req with identifier := identifier },
    stringField "masterPasswordHash" fun req masterPasswordHash =>
      { req with masterPasswordHash := masterPasswordHash },
    stringField "sessionId" fun req sessionId =>
      { req with sessionId := sessionId },
    rawField "credential" fun req credential =>
      { req with credential := credential }]

/-- The request that `handleWebAuthnLoginFinish` reads. -/
def loginFinishRequest : Bytes → Option LoginFinishRequest :=
  decodeJSON loginFinishFields
    { identifier := "", masterPasswordHash := "", sessionId := "",
      credential := "" }

/-- The fields of `createShareRequest`. -/
def createShareFields : List (Field CreateShareRequest) :=
  [stringField "recipientIdentifier" fun req recipientIdentifier =>
      { req with recipientIdentifier := recipientIdentifier },
    stringField "wrappedKey" fun req wrappedKey =>
      { req with wrappedKey := wrappedKey },
    stringField "data" fun req data => { req with data := data }]

/-- `createShareRequest` -/
def createShareRequest : Bytes → Option CreateShareRequest :=
  decodeJSON createShareFields
    { recipientIdentifier := "", wrappedKey := "", data := "" }

end Passwd.Server
