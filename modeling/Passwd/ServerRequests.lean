import Passwd.ServerRecovery
import Passwd.ServerPasskeys

namespace Passwd.Server

open Base64 Interaction

/-!
# Sharing, the account's own listings, and the routes

The remaining handlers, and one type for the requests that the server routes to
a handler.  Rate limiting, which turns requests away before any handler runs,
and the health check are left out.
-/

/-!
## Sharing
-/

/-- The account that an identifier names, if it can receive shares. -/
def findRecipient (env : Environment) (identifier : String) :
    Handler (Option User) := do
  let found ← perform
    (.getUserByIdentifierHash (env.blindIdentifier identifier))
  match found with
  | .error _ => return none
  | .ok u => return if u.publicKey = "" then none else some u

/-- `handleLookupPublicKey` -/
def handleLookupPublicKey
    (env : Environment)
    (userID identifier : String) :
    Handler Response :=
  if userID = "" then
    return writeError 401 "unauthorized"
  else if identifier = "" then
    return writeError 400 "identifier is required"
  else do
    let recipient ← findRecipient env identifier
    match recipient with
    | none =>
        return writeError 404 "no such user, or they can't receive shares"
    | some u => return { status := 200, body := .publicKey u.publicKey }

/-- `createShareRequest` -/
structure CreateShareRequest where
  recipientIdentifier : String
  wrappedKey : String
  data : String
deriving DecidableEq

/-- `handleCreateShare` -/
def handleCreateShare
    (env : Environment)
    (userID : String)
    (req : Option CreateShareRequest) :
    Handler Response :=
  if userID = "" then
    return writeError 401 "unauthorized"
  else
    match req with
    | none => return invalidBody
    | some req =>
        if req.recipientIdentifier = "" ∨ req.wrappedKey = "" ∨
            req.data = "" then
          return writeError 400
            "recipientIdentifier, wrappedKey and data are required"
        else do
          let recipient ← findRecipient env req.recipientIdentifier
          match recipient with
          | none =>
              return writeError 404
                "no such recipient, or they can't receive shares"
          | some u =>
              let id ← newID
              let now ← perform .now
              let created ← perform (.createShare
                { id := id, ownerUserID := userID, recipientUserID := u.id,
                  wrappedKey := req.wrappedKey, data := req.data,
                  createdAt := now })
              match created with
              | .error _ => return writeError 500 "could not share item"
              | .ok _ =>
                  audit userID "share.create" ""
                  return { status := 201, body := .id id }

/-- `handleListShares` -/
def handleListShares (userID : String) : Handler Response :=
  if userID = "" then
    return writeError 401 "unauthorized"
  else do
    let listed ← perform (.listSharesForRecipient userID)
    match listed with
    | .error _ => return writeError 500 "could not load shares"
    | .ok shares =>
        return {
          status := 200
          body := .shares (shares.map fun sh =>
            (sh.id, sh.wrappedKey, sh.data, sh.createdAt)) }

/-- `handleDeleteShare` -/
def handleDeleteShare (userID id : String) : Handler Response :=
  if userID = "" then
    return writeError 401 "unauthorized"
  else do
    let deleted ← perform (.deleteShare userID id)
    match deleted with
    | .error .notFound => return writeError 404 "share not found"
    | .error _ => return writeError 500 "could not delete share"
    | .ok _ => return { status := 204, body := .none }

/-!
## Sessions and activity
-/

/-- `handleListSessions` -/
def handleListSessions (userID : String) : Handler Response :=
  if userID = "" then
    return writeError 401 "unauthorized"
  else do
    let listed ← perform (.listRefreshTokensForUser userID)
    match listed with
    | .error _ => return writeError 500 "could not load sessions"
    | .ok tokens =>
        return {
          status := 200
          body := .sessions (tokens.map fun t => (t.createdAt, t.expiresAt)) }

/-- `auditListLimit` -/
def auditListLimit : Nat := 100

/-- `handleAuditLog` -/
def handleAuditLog (userID : String) : Handler Response :=
  if userID = "" then
    return writeError 401 "unauthorized"
  else do
    let listed ← perform (.listAuditEvents userID auditListLimit)
    match listed with
    | .error _ => return writeError 500 "could not load activity"
    | .ok events =>
        return {
          status := 200
          body := .events (events.map fun e =>
            (e.event, e.detail, e.createdAt)) }

/-!
## Requests
-/

/--
A routed request.  `userID` is the subject of the access token of a request
behind `requireAuth`.
-/
inductive Request where
  | prelogin (req : Option String)
  | register (req : Option RegisterRequest)
  | login (req : Option LoginRequest)
  | refresh (req : Option String)
  | deleteAccount (userID : String)
  | listSessions (userID : String)
  | logoutAll (userID : String)
  | recoveryChallenge (req : Option String)
  | recoveryComplete (req : Option RecoveryCompleteRequest)
  | totpStatus (userID : String)
  | totpSetup (userID : String)
  | totpEnable (userID : String) (req : Option String)
  | totpDisable (userID : String) (req : Option String)
  | recoveryStatus (userID : String)
  | recoveryEnable (userID : String) (req : Option RecoveryEnableRequest)
  | recoveryDisable (userID : String)
  | webAuthnList (userID : String)
  | webAuthnDelete (userID id : String)
  | webAuthnRegisterBegin (userID : String)
  | webAuthnRegisterFinish
      (userID : String) (req : Option RegisterFinishRequest)
  | webAuthnLoginBegin (req : Option LoginBeginRequest)
  | webAuthnLoginFinish (req : Option LoginFinishRequest)
  | auditLog (userID : String)
  | lookupPublicKey (userID identifier : String)
  | createShare (userID : String) (req : Option CreateShareRequest)
  | listShares (userID : String)
  | deleteShare (userID id : String)
  | sync (userID : String)
  | createCipher (userID : String) (req : Option String)
  | updateCipher (userID id : String) (req : Option String)
  | deleteCipher (userID id : String)
deriving DecidableEq

/-- `Routes`: the handler of a request. -/
def serve (env : Environment) : Request → Handler Response
  | .prelogin req => handlePrelogin env req
  | .register req => handleRegister env req
  | .login req => handleLogin env req
  | .refresh req => handleRefresh env req
  | .deleteAccount userID => handleDeleteAccount userID
  | .listSessions userID => handleListSessions userID
  | .logoutAll userID => handleLogoutAll userID
  | .recoveryChallenge req => handleRecoveryChallenge env req
  | .recoveryComplete req => handleRecoveryComplete env req
  | .totpStatus userID => handleTOTPStatus userID
  | .totpSetup userID => handleTOTPSetup env userID
  | .totpEnable userID req => handleTOTPEnable env userID req
  | .totpDisable userID req => handleTOTPDisable env userID req
  | .recoveryStatus userID => handleRecoveryStatus userID
  | .recoveryEnable userID req => handleRecoveryEnable env userID req
  | .recoveryDisable userID => handleRecoveryDisable userID
  | .webAuthnList userID => handleWebAuthnList userID
  | .webAuthnDelete userID id => handleWebAuthnDelete userID id
  | .webAuthnRegisterBegin userID => handleWebAuthnRegisterBegin env userID
  | .webAuthnRegisterFinish userID req =>
      handleWebAuthnRegisterFinish env userID req
  | .webAuthnLoginBegin req => handleWebAuthnLoginBegin env req
  | .webAuthnLoginFinish req => handleWebAuthnLoginFinish env req
  | .auditLog userID => handleAuditLog userID
  | .lookupPublicKey userID identifier =>
      handleLookupPublicKey env userID identifier
  | .createShare userID req => handleCreateShare env userID req
  | .listShares userID => handleListShares userID
  | .deleteShare userID id => handleDeleteShare userID id
  | .sync userID => handleSync userID
  | .createCipher userID req => handleCreateCipher userID req
  | .updateCipher userID id req => handleUpdateCipher userID id req
  | .deleteCipher userID id => handleDeleteCipher userID id

end Passwd.Server
