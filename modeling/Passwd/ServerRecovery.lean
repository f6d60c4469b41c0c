import Passwd.ServerHandlers

namespace Passwd.Server

open Base64 Interaction

/-!
# Account recovery and the vault

The handlers with which a client stores a second wrapping of its User Key under
a recovery code and later trades the code for a new master password, and the
handlers that keep its encrypted items.
-/

/-!
## Enrolment
-/

/-- `handleRecoveryStatus` -/
def handleRecoveryStatus (userID : String) : Handler Response := do
  let found ← perform (.getUserByID userID)
  match found with
  | .error _ => return writeError 401 "unauthorized"
  | .ok u =>
      return { status := 200, body := .enabled (u.recoveryVerifier ≠ "") }

/-- `recoveryEnableRequest` -/
structure RecoveryEnableRequest where
  recoveryProtectedUserKey : String
  recoveryAuthHash : String
deriving DecidableEq

/-- `handleRecoveryEnable` -/
def handleRecoveryEnable
    (env : Environment)
    (userID : String)
    (req : Option RecoveryEnableRequest) :
    Handler Response :=
  match req with
  | none => return invalidBody
  | some req =>
      if req.recoveryProtectedUserKey = "" ∨ req.recoveryAuthHash = "" then
        return writeError 400
          "recoveryProtectedUserKey and recoveryAuthHash are required"
      else do
        let hashed ← hashVerifier env req.recoveryAuthHash
        match hashed with
        | none => return writeError 500 "could not enable recovery"
        | some verifier =>
            let written ← perform (.setUserRecovery userID
              req.recoveryProtectedUserKey verifier)
            match written with
            | .error _ => return writeError 500 "could not enable recovery"
            | .ok _ =>
                audit userID "recovery.enable" ""
                return { status := 204, body := .none }

/-- `handleRecoveryDisable` -/
def handleRecoveryDisable (userID : String) : Handler Response := do
  let cleared ← perform (.clearUserRecovery userID)
  match cleared with
  | .error _ => return writeError 500 "could not disable recovery"
  | .ok _ =>
      audit userID "recovery.disable" ""
      return { status := 204, body := .none }

/-!
## Recovery
-/

/-- `decoyRecoveryBlob`, which ignores an error of the random source. -/
def decoyRecoveryBlob : Handler String := do
  let nonce ← perform (.random 12)
  let data ← perform (.random 80)
  return "1." ++
    Base64.encode standard .padded (nonce.getD (List.replicate 12 0)) ++
    "|" ++
    Base64.encode standard .padded (data.getD (List.replicate 80 0))

/-- `handleRecoveryChallenge` -/
def handleRecoveryChallenge (env : Environment) (req : Option String) :
    Handler Response :=
  match req with
  | none => return invalidBody
  | some identifier => do
      let decoy ← decoyRecoveryBlob
      let found ← perform
        (.getUserByIdentifierHash (env.blindIdentifier identifier))
      match found with
      | .error _ =>
          return { status := 200, body := .recoveryChallenge decoy defaultKDF }
      | .ok u =>
          if u.recoveryVerifier = "" then
            return {
              status := 200
              body := .recoveryChallenge decoy defaultKDF }
          else
            return {
              status := 200
              body := .recoveryChallenge u.recoveryProtectedUserKey u.kdf }

/-- `recoveryCompleteRequest` -/
structure RecoveryCompleteRequest where
  identifier : String
  recoveryAuthHash : String
  masterPasswordHash : String
  protectedUserKey : String
  kdf : KDFParams
deriving DecidableEq

/-- The end of a recovery whose identifier or code is wrong. -/
def rejectRecovery (idHash : String) : Handler Response := do
  let _ ← perform (.recordFailure idHash)
  return writeError 401 "invalid recovery code"

/-- A recovery after its code was accepted. -/
def rotateAccount
    (env : Environment)
    (idHash : String)
    (u : User)
    (req : RecoveryCompleteRequest) :
    Handler Response := do
  let kdf := if req.kdf.type = "" then u.kdf else req.kdf
  let hashed ← hashVerifier env req.masterPasswordHash
  match hashed with
  | none => return writeError 500 "recovery failed"
  | some verifier =>
      let rotated ← perform
        (.rotateMasterPassword u.id verifier req.protectedUserKey kdf)
      match rotated with
      | .error _ => return writeError 500 "recovery failed"
      | .ok _ =>
          let _ ← perform (.deleteRefreshTokensForUser u.id)
          audit u.id "recovery.complete" ""
          let issued ← issueTokens env u.id
          match issued with
          | none => return writeError 500 "recovery failed"
          | some (access, refresh) =>
              let _ ← perform (.reset idHash)
              return {
                status := 200
                body := .login access refresh req.protectedUserKey
                  u.protectedPrivateKey kdf }

/-- `handleRecoveryComplete` -/
def handleRecoveryComplete
    (env : Environment)
    (req : Option RecoveryCompleteRequest) :
    Handler Response :=
  match req with
  | none => return invalidBody
  | some req =>
      if req.recoveryAuthHash = "" ∨ req.masterPasswordHash = "" ∨
          req.protectedUserKey = "" then
        return writeError 400
          "recoveryAuthHash, masterPasswordHash and protectedUserKey are required"
      else do
        let idHash := env.blindIdentifier req.identifier
        let isLocked ← perform (.locked idHash)
        if isLocked then
          return writeError 429 "too many attempts; try again later"
        else
          let found ← perform (.getUserByIdentifierHash idHash)
          match found with
          | .error _ => rejectRecovery idHash
          | .ok u =>
              if u.recoveryVerifier ≠ "" ∧
                  env.verifyVerifier u.recoveryVerifier
                    req.recoveryAuthHash = some true then
                rotateAccount env idHash u req
              else
                rejectRecovery idHash

/-!
## The vault
-/

/-- `handleSync` -/
def handleSync (userID : String) : Handler Response :=
  if userID = "" then
    return writeError 401 "unauthorized"
  else do
    let listed ← perform (.listCiphers userID)
    match listed with
    | .error _ => return writeError 500 "sync failed"
    | .ok ciphers =>
        return {
          status := 200
          body := .ciphers (ciphers.map fun c =>
            (c.id, c.data, c.createdAt, c.updatedAt)) }

/-- `handleCreateCipher` -/
def handleCreateCipher (userID : String) (req : Option String) :
    Handler Response :=
  if userID = "" then
    return writeError 401 "unauthorized"
  else
    match req with
    | none => return invalidBody
    | some data =>
        if data = "" then
          return writeError 400 "data is required"
        else do
          let now ← perform .now
          let id ← newID
          let created ← perform (.createCipher
            { id := id, userID := userID, data := data, createdAt := now,
              updatedAt := now })
          match created with
          | .error _ => return writeError 500 "could not create item"
          | .ok _ =>
              audit userID "cipher.create" id
              return { status := 201, body := .cipher id data now now }

/-- `handleUpdateCipher` -/
def handleUpdateCipher (userID id : String) (req : Option String) :
    Handler Response :=
  if userID = "" then
    return writeError 401 "unauthorized"
  else
    match req with
    | none => return invalidBody
    | some data =>
        if data = "" then
          return writeError 400 "data is required"
        else do
          let now ← perform .now
          let updated ← perform (.updateCipher
            { id := id, userID := userID, data := data,
              createdAt := zeroTime, updatedAt := now })
          match updated with
          | .error .notFound => return writeError 404 "item not found"
          | .error _ => return writeError 500 "could not update item"
          | .ok _ =>
              audit userID "cipher.update" id
              return { status := 200, body := .cipher id data zeroTime now }

/-- `handleDeleteCipher` -/
def handleDeleteCipher (userID id : String) : Handler Response :=
  if userID = "" then
    return writeError 401 "unauthorized"
  else do
    let deleted ← perform (.deleteCipher userID id)
    match deleted with
    | .error .notFound => return writeError 404 "item not found"
    | .error _ => return writeError 500 "could not delete item"
    | .ok _ =>
        audit userID "cipher.delete" id
        return { status := 204, body := .none }

end Passwd.Server
