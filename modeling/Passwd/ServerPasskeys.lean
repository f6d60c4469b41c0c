import Passwd.ServerHandlers

namespace Passwd.Server

open Base64 Interaction

/-!
# Passkey ceremonies

Enrolment and login with a passkey.  The WebAuthn library verifies attestations
and assertions; the server keeps its session data between the two requests of a
ceremony.
-/

/-- `webAuthnUserFor`, as far as the library reads the user. -/
def webAuthnUserFor (userID : String) :
    Handler (Option (List Credential)) := do
  let listed ← perform (.listWebAuthnCredentials userID)
  match listed with
  | .error _ => return none
  | .ok creds => return some (creds.map toWebAuthnCredential)

/-- `put`, which draws the handle of the new entry. -/
def putPending (userID data : String) : Handler String := do
  let handle ← newID
  let _ ← perform (.putChallenge handle userID data)
  return handle

/-- The response of every ceremony while passkeys are not configured. -/
def passkeysUnconfigured : Response :=
  writeError 503 "passkeys are not configured"

/-!
## Enrolment
-/

/-- `handleWebAuthnList` -/
def handleWebAuthnList (userID : String) : Handler Response := do
  let listed ← perform (.listWebAuthnCredentials userID)
  match listed with
  | .error _ => return writeError 500 "could not list passkeys"
  | .ok creds =>
      return {
        status := 200
        body := .passkeys (creds.map fun c => (c.id, c.name, c.createdAt)) }

/-- `handleWebAuthnDelete` -/
def handleWebAuthnDelete (userID id : String) : Handler Response := do
  let deleted ← perform (.deleteWebAuthnCredential userID id)
  match deleted with
  | .error .notFound => return writeError 404 "passkey not found"
  | .error _ => return writeError 500 "could not delete passkey"
  | .ok _ =>
      audit userID "passkey.remove" ""
      return { status := 200, body := .deleted true }

/-- `handleWebAuthnRegisterBegin` -/
def handleWebAuthnRegisterBegin (env : Environment) (userID : String) :
    Handler Response :=
  match env.webAuthn with
  | none => return passkeysUnconfigured
  | some webAuthn => do
      let waUser ← webAuthnUserFor userID
      match waUser with
      | none => return writeError 500 "could not start passkey enrollment"
      | some credentials =>
          let entropy ← perform (.random 32)
          match entropy.bind
              (webAuthn.beginRegistration userID credentials) with
          | none => return writeError 500 "could not start passkey enrollment"
          | some (options, session) =>
              let sid ← putPending userID session
              return { status := 200, body := .ceremony sid options }

/-- The request that finishes an enrolment. -/
structure RegisterFinishRequest where
  sessionId : String
  name : String
  credential : String
deriving DecidableEq

/-- The label of a passkey. -/
def passkeyName (name : String) : String :=
  if Environment.trimSpace name = "" then
    "Passkey"
  else
    Environment.trimSpace name

/-- `handleWebAuthnRegisterFinish` -/
def handleWebAuthnRegisterFinish
    (env : Environment)
    (userID : String)
    (req : Option RegisterFinishRequest) :
    Handler Response :=
  match env.webAuthn with
  | none => return passkeysUnconfigured
  | some webAuthn =>
      match req with
      | none => return invalidBody
      | some req => do
          let entry ← perform (.takeChallenge req.sessionId)
          match entry.filter fun entry => entry.userID = userID with
          | none =>
              return writeError 400 "passkey enrollment expired; start again"
          | some entry =>
              match webAuthn.parseCreation req.credential with
              | none => return writeError 400 "invalid passkey attestation"
              | some parsed =>
                  let waUser ← webAuthnUserFor userID
                  match waUser with
                  | none => return writeError 500 "could not save passkey"
                  | some credentials =>
                      match webAuthn.createCredential userID credentials
                          entry.data parsed with
                      | none =>
                          return writeError 400 "could not verify passkey"
                      | some cred =>
                          let now ← perform .now
                          let id ← newID
                          let row := fromWebAuthnCredential id now userID
                            (passkeyName req.name) cred
                          let created ← perform
                            (.createWebAuthnCredential row)
                          match created with
                          | .error .conflict =>
                              return writeError 409
                                "this passkey is already registered"
                          | .error _ =>
                              return writeError 500 "could not save passkey"
                          | .ok _ =>
                              audit userID "passkey.enroll" ""
                              return {
                                status := 200
                                body := .passkey row.id row.name }

/-!
## Login
-/

/-- The request that begins a login with a passkey. -/
structure LoginBeginRequest where
  identifier : String
  masterPasswordHash : String
deriving DecidableEq

/-- The end of a ceremony whose identifier, password or passkey is wrong. -/
def rejectPasskeyLogin (idHash : String) : Handler Response := do
  let _ ← perform (.recordFailure idHash)
  return writeError 401 "invalid credentials"

/-- `handleWebAuthnLoginBegin` -/
def handleWebAuthnLoginBegin
    (env : Environment)
    (req : Option LoginBeginRequest) :
    Handler Response :=
  match env.webAuthn with
  | none => return passkeysUnconfigured
  | some webAuthn =>
      match req with
      | none => return invalidBody
      | some req => do
          let idHash := env.blindIdentifier req.identifier
          let isLocked ← perform (.locked idHash)
          if isLocked then
            return writeError 429 "too many attempts; try again later"
          else
            let found ← perform (.getUserByIdentifierHash idHash)
            match found with
            | .error _ => rejectPasskeyLogin idHash
            | .ok u =>
                if env.verifyVerifier u.masterPasswordVerifier
                    req.masterPasswordHash = some true then
                  let waUser ← webAuthnUserFor u.id
                  match waUser with
                  | none =>
                      return writeError 500 "could not start passkey login"
                  | some [] => return writeError 400 "no passkeys enrolled"
                  | some credentials =>
                      let entropy ← perform (.random 32)
                      match entropy.bind
                          (webAuthn.beginLogin u.id credentials) with
                      | none =>
                          return writeError 500
                            "could not start passkey login"
                      | some (options, session) =>
                          let sid ← putPending u.id session
                          return {
                            status := 200
                            body := .ceremony sid options }
                else
                  rejectPasskeyLogin idHash

/-- The request that finishes a login with a passkey. -/
structure LoginFinishRequest where
  identifier : String
  masterPasswordHash : String
  sessionId : String
  credential : String
deriving DecidableEq

/-- A login after its assertion was validated. -/
def completePasskeyLogin
    (env : Environment)
    (idHash : String)
    (u : User)
    (cred : Credential) :
    Handler Response := do
  let _ ← perform
    (.updateWebAuthnSignCount cred.id cred.authenticator.signCount)
  let issued ← issueTokens env u.id
  match issued with
  | none => return writeError 500 "login failed"
  | some (access, refresh) =>
      let _ ← perform (.reset idHash)
      return {
        status := 200
        body := .login access refresh u.protectedUserKey
          u.protectedPrivateKey u.kdf }

/-- A login with a passkey after its password was accepted. -/
def checkAssertion
    (env : Environment)
    (webAuthn : WebAuthn)
    (idHash : String)
    (u : User)
    (req : LoginFinishRequest) :
    Handler Response := do
  let entry ← perform (.takeChallenge req.sessionId)
  match entry.filter fun entry => entry.userID = u.id with
  | none => return writeError 400 "passkey login expired; start again"
  | some entry =>
      match webAuthn.parseAssertion req.credential with
      | none => return writeError 400 "invalid passkey assertion"
      | some parsed =>
          let waUser ← webAuthnUserFor u.id
          match waUser with
          | none => return writeError 500 "login failed"
          | some credentials =>
              match webAuthn.validateLogin u.id credentials entry.data
                  parsed with
              | none => rejectPasskeyLogin idHash
              | some cred => completePasskeyLogin env idHash u cred

/-- `handleWebAuthnLoginFinish` -/
def handleWebAuthnLoginFinish
    (env : Environment)
    (req : Option LoginFinishRequest) :
    Handler Response :=
  match env.webAuthn with
  | none => return passkeysUnconfigured
  | some webAuthn =>
      match req with
      | none => return invalidBody
      | some req => do
          let idHash := env.blindIdentifier req.identifier
          let isLocked ← perform (.locked idHash)
          if isLocked then
            return writeError 429 "too many attempts; try again later"
          else
            let found ← perform (.getUserByIdentifierHash idHash)
            match found with
            | .error _ => rejectPasskeyLogin idHash
            | .ok u =>
                if env.verifyVerifier u.masterPasswordVerifier
                    req.masterPasswordHash = some true then
                  checkAssertion env webAuthn idHash u req
                else
                  rejectPasskeyLogin idHash

end Passwd.Server
