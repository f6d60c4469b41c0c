import Passwd.ServerAuth

namespace Passwd.Server

open Base64 Interaction

/-!
# The request handlers

Each handler of the `server` package as a program over the calls of
`ServerEffects`, in the order in which the source makes them.  A request whose
body does not decode is `none`.  Handlers behind `requireAuth` receive the user
id that the access token names.  Logging and the verification against a decoy,
which only takes time, have no effect here.
-/

/-- The body of a response, by the shape of its JSON. -/
inductive Body where
  | none
  | error (msg : String)
  | twoFactorRequired (methods : List String)
  | login
      (accessToken refreshToken protectedUserKey protectedPrivateKey : String)
      (kdf : KDFParams)
  | tokens (accessToken refreshToken : String)
  | kdf (kdf : KDFParams)
  | id (id : String)
  | secret (secret : String)
  | enabled (enabled : Bool)
  | deleted (deleted : Bool)
  | recoveryChallenge (recoveryProtectedUserKey : String) (kdf : KDFParams)
  | passkeys (credentials : List (String × String × Time))
  | ceremony (sessionId options : String)
  | passkey (id name : String)
  | cipher (id data : String) (createdAt updatedAt : Time)
  | ciphers (ciphers : List (String × String × Time × Time))
  | publicKey (publicKey : String)
  | shares (shares : List (String × String × String × Time))
  | sessions (sessions : List (Time × Time))
  | events (events : List (String × String × Time))
deriving DecidableEq

/-- A response: its status and its body. -/
structure Response where
  status : Nat
  body : Body
deriving DecidableEq

/-- `writeError` -/
def writeError (status : Nat) (msg : String) : Response :=
  { status := status, body := .error msg }

/-- The response to a body that does not decode. -/
def invalidBody : Response :=
  writeError 400 "invalid JSON body"

/-!
## Auditing and tokens
-/

/-- `audit`; a failure does not block the request. -/
def audit (userID event detail : String) : Handler Unit :=
  if userID = "" then
    return ()
  else do
    let id ← newID
    let now ← perform .now
    let _ ← perform (.appendAuditEvent
      { id := id, userID := userID, event := event, detail := detail,
        createdAt := now })
    return ()

/-- `issueTokens`: the access and the refresh token; `none` is an error. -/
def issueTokens (env : Environment) (userID : String) :
    Handler (Option (String × String)) := do
  let issuedAt ← perform .now
  let generated ← generateRefreshToken env
  match generated with
  | none => return none
  | some (refresh, refreshHash) =>
      let now ← perform .now
      let created ← perform (.createRefreshToken
        { tokenHash := refreshHash, userID := userID,
          expiresAt := now + refreshTokenTTL, createdAt := now,
          used := false })
      match created with
      | .error _ => return none
      | .ok _ => return some (env.issueAccessToken userID issuedAt, refresh)

section Only

variable {selected : Operation → Prop}

/-- What auditing calls. -/
theorem only_audit
    {userID event detail : String}
    (draws : selected (.random 16))
    (readsClock : selected .now)
    (appends : ∀ e, selected (.appendAuditEvent e)) :
    (audit userID event detail).Only selected := by
  unfold audit
  split
  · trivial
  · exact ⟨draws, fun bytes => ⟨readsClock, fun now => ⟨appends _,
      fun appended => trivial⟩⟩⟩

/-- What issuing tokens calls. -/
theorem only_issueTokens
    {env : Environment}
    {userID : String}
    (draws : selected (.random 32))
    (readsClock : selected .now)
    (creates :
      ∀ rt, rt.userID = userID → selected (.createRefreshToken rt)) :
    (issueTokens env userID).Only selected := by
  refine ⟨readsClock, fun issuedAt => ⟨draws, fun bytes => ?_⟩⟩
  cases bytes with
  | none =>
      trivial
  | some bytes =>
      refine ⟨readsClock, fun now => ⟨creates _ rfl, fun created => ?_⟩⟩
      cases created with
      | error e => trivial
      | ok done => trivial

end Only

/-!
## Prelogin and registration
-/

/-- `handlePrelogin` -/
def handlePrelogin (env : Environment) (req : Option String) :
    Handler Response :=
  match req with
  | none => return invalidBody
  | some identifier => do
      let found ← perform
        (.getUserByIdentifierHash (env.blindIdentifier identifier))
      match found with
      | .ok u => return { status := 200, body := .kdf u.kdf }
      | .error _ => return { status := 200, body := .kdf defaultKDF }

/-- `registerRequest` -/
structure RegisterRequest where
  identifier : String
  kdf : KDFParams
  masterPasswordHash : String
  protectedUserKey : String
  publicKey : String
  protectedPrivateKey : String
deriving DecidableEq

/-- `handleRegister` -/
def handleRegister (env : Environment) (req : Option RegisterRequest) :
    Handler Response :=
  match req with
  | none => return invalidBody
  | some req =>
      if req.identifier = "" ∨ req.masterPasswordHash = "" ∨
          req.protectedUserKey = "" then
        return writeError 400
          "identifier, masterPasswordHash and protectedUserKey are required"
      else do
        let kdf := if req.kdf.type = "" then defaultKDF else req.kdf
        let hashed ← hashVerifier env req.masterPasswordHash
        match hashed with
        | none => return writeError 500 "could not create account"
        | some verifier =>
            let now ← perform .now
            let id ← newID
            let created ← perform (.createUser
              { id := id
                identifierHash := env.blindIdentifier req.identifier
                kdf := kdf
                masterPasswordVerifier := verifier
                protectedUserKey := req.protectedUserKey
                publicKey := req.publicKey
                protectedPrivateKey := req.protectedPrivateKey
                recoveryProtectedUserKey := ""
                recoveryVerifier := ""
                totpSecret := ""
                totpEnabled := false
                totpLastCounter := 0
                createdAt := now
                updatedAt := now })
            match created with
            | .error .conflict =>
                return writeError 409 "account already exists"
            | .error _ => return writeError 500 "could not create account"
            | .ok _ =>
                audit id "account.register" ""
                return { status := 201, body := .id id }

/-!
## Login
-/

/-- `verifyLoginTOTP`: whether the code is accepted, and for which step. -/
def verifyLoginTOTP (env : Environment) (u : User) (code : String) :
    Handler (Option Nat) :=
  match env.decryptSecret u.totpSecret with
  | none => return none
  | some secret => do
      let now ← perform .now
      match env.verifyTOTPAt secret code now with
      | none => return none
      | some counter =>
          if counter ≤ u.totpLastCounter then
            return none
          else
            let written ← perform (.setUserTOTPCounter u.id counter)
            match written with
            | .error _ => return none
            | .ok _ => return some counter

/-- What checking a code calls. -/
theorem only_verifyLoginTOTP
    {selected : Operation → Prop}
    {env : Environment}
    {u : User}
    (readsClock : selected .now)
    (counts : ∀ counter, selected (.setUserTOTPCounter u.id counter))
    (code : String) :
    (verifyLoginTOTP env u code).Only selected := by
  unfold verifyLoginTOTP
  split
  · trivial
  · refine ⟨readsClock, fun now => ?_⟩
    dsimp only [Program.bind_done]
    split
    · trivial
    · split
      · trivial
      · refine ⟨counts _, fun written => ?_⟩
        cases written with
        | error e => trivial
        | ok done => trivial

/-- `loginRequest` -/
structure LoginRequest where
  identifier : String
  masterPasswordHash : String
  totpCode : String
deriving DecidableEq

/-- The end of a login whose identifier or password is wrong. -/
def rejectPassword (idHash : String) (account : Option String) :
    Handler Response := do
  let _ ← perform (.recordFailure idHash)
  match account with
  | none => return writeError 401 "invalid credentials"
  | some userID =>
      audit userID "login.failure" "password"
      return writeError 401 "invalid credentials"

/-- The end of a login whose code is not accepted. -/
def rejectSecondFactor (idHash userID : String) : Handler Response := do
  let _ ← perform (.recordFailure idHash)
  audit userID "login.failure" "second factor"
  return writeError 401 "invalid credentials"

/-- The end of a login whose factors are all accepted. -/
def completeLogin (env : Environment) (idHash : String) (u : User) :
    Handler Response := do
  let issued ← issueTokens env u.id
  match issued with
  | none => return writeError 500 "login failed"
  | some (access, refresh) =>
      let _ ← perform (.reset idHash)
      audit u.id "login.success" ""
      return {
        status := 200
        body := .login access refresh u.protectedUserKey
          u.protectedPrivateKey u.kdf }

/-- The second factors of an account, as the client is told. -/
def secondFactors (hasPasskey totpEnabled : Bool) : List String :=
  (if hasPasskey then ["webauthn"] else []) ++
    (if totpEnabled then ["totp"] else [])

/-- A login after its password was accepted. -/
def checkSecondFactor
    (env : Environment)
    (idHash : String)
    (u : User)
    (totpCode : String) :
    Handler Response := do
  let counted ← perform (.countWebAuthnCredentials u.id)
  let hasPasskey : Bool :=
    match counted with
    | .ok n => 0 < n
    | .error _ => false
  if u.totpEnabled || hasPasskey then
    if totpCode = "" then
      return {
        status := 401
        body := .twoFactorRequired (secondFactors hasPasskey u.totpEnabled) }
    else if u.totpEnabled then do
      let accepted ← verifyLoginTOTP env u totpCode
      match accepted with
      | none => rejectSecondFactor idHash u.id
      | some _ => completeLogin env idHash u
    else
      rejectSecondFactor idHash u.id
  else
    completeLogin env idHash u

/-- `handleLogin` -/
def handleLogin (env : Environment) (req : Option LoginRequest) :
    Handler Response :=
  match req with
  | none => return invalidBody
  | some req => do
      let idHash := env.blindIdentifier req.identifier
      let isLocked ← perform (.locked idHash)
      if isLocked then
        return writeError 429 "too many attempts; try again later"
      else
        let found ← perform (.getUserByIdentifierHash idHash)
        match found with
        | .error _ => rejectPassword idHash none
        | .ok u =>
            if env.verifyVerifier u.masterPasswordVerifier
                req.masterPasswordHash = some true then
              checkSecondFactor env idHash u req.totpCode
            else
              rejectPassword idHash (some u.id)

/-!
## Refresh and revocation
-/

/-- `handleRefresh` -/
def handleRefresh (env : Environment) (req : Option String) :
    Handler Response :=
  match req with
  | none => return invalidBody
  | some refreshToken =>
      if refreshToken = "" then
        return writeError 400 "refreshToken is required"
      else do
        let hash := env.hashRefreshToken refreshToken
        let found ← perform (.getRefreshToken hash)
        match found with
        | .error _ =>
            return writeError 401 "invalid or expired refresh token"
        | .ok rt =>
            let now ← perform .now
            if rt.expiresAt < now then
              let _ ← perform (.deleteRefreshToken hash)
              return writeError 401 "invalid or expired refresh token"
            else if rt.used then
              let _ ← perform (.deleteRefreshTokensForUser rt.userID)
              audit rt.userID "token.reuse_detected" ""
              return writeError 401 "invalid or expired refresh token"
            else
              let _ ← perform (.markRefreshTokenUsed hash)
              let issued ← issueTokens env rt.userID
              match issued with
              | none => return writeError 500 "refresh failed"
              | some (access, refresh) =>
                  return { status := 200, body := .tokens access refresh }

/-- `handleDeleteAccount` -/
def handleDeleteAccount (userID : String) : Handler Response :=
  if userID = "" then
    return writeError 401 "unauthorized"
  else do
    let deleted ← perform (.deleteAccount userID)
    match deleted with
    | .ok _ => return { status := 204, body := .none }
    | .error .notFound => return writeError 404 "account not found"
    | .error _ => return writeError 500 "could not delete account"

/-- `handleLogoutAll` -/
def handleLogoutAll (userID : String) : Handler Response :=
  if userID = "" then
    return writeError 401 "unauthorized"
  else do
    let deleted ← perform (.deleteRefreshTokensForUser userID)
    match deleted with
    | .error _ => return writeError 500 "could not sign out sessions"
    | .ok _ =>
        audit userID "session.revoke_all" ""
        return { status := 204, body := .none }

/-!
## Two-factor enrolment
-/

/-- `handleTOTPStatus` -/
def handleTOTPStatus (userID : String) : Handler Response := do
  let found ← perform (.getUserByID userID)
  match found with
  | .error _ => return writeError 401 "unauthorized"
  | .ok u => return { status := 200, body := .enabled u.totpEnabled }

/-- `handleTOTPSetup` -/
def handleTOTPSetup (env : Environment) (userID : String) :
    Handler Response := do
  let found ← perform (.getUserByID userID)
  match found with
  | .error _ => return writeError 401 "unauthorized"
  | .ok u =>
      if u.totpEnabled then
        return writeError 409
          "two-factor is already enabled; disable it first"
      else
        let generated ← generateTOTPSecret env
        match generated with
        | none => return writeError 500 "could not start setup"
        | some secret =>
            let encrypted ← encryptSecret env secret
            match encrypted with
            | none => return writeError 500 "could not start setup"
            | some enc =>
                let written ← perform (.setUserTOTP userID enc false)
                match written with
                | .error _ => return writeError 500 "could not start setup"
                | .ok _ => return { status := 200, body := .secret secret }

/-- `!ok || !auth.VerifyTOTP(secret, req.Code)`, for a stored secret. -/
def rejectsCode
    (env : Environment)
    (stored code : String)
    (now : Time) :
    Bool :=
  match env.decryptSecret stored with
  | none => true
  | some secret => !env.verifyTOTP secret code now

/-- `handleTOTPEnable` -/
def handleTOTPEnable
    (env : Environment)
    (userID : String)
    (req : Option String) :
    Handler Response :=
  match req with
  | none => return invalidBody
  | some code => do
      let found ← perform (.getUserByID userID)
      match found with
      | .error _ => return writeError 401 "unauthorized"
      | .ok u =>
          if u.totpSecret = "" then
            return writeError 400 "run setup first"
          else
            let now ← perform .now
            if rejectsCode env u.totpSecret code now then
              return writeError 400 "invalid code"
            else
              let written ← perform (.setUserTOTP userID u.totpSecret true)
              match written with
              | .error _ =>
                  return writeError 500 "could not enable two-factor"
              | .ok _ =>
                  audit userID "totp.enable" ""
                  return { status := 200, body := .enabled true }

/-- `handleTOTPDisable` -/
def handleTOTPDisable
    (env : Environment)
    (userID : String)
    (req : Option String) :
    Handler Response :=
  match req with
  | none => return invalidBody
  | some code => do
      let found ← perform (.getUserByID userID)
      match found with
      | .error _ => return writeError 401 "unauthorized"
      | .ok u =>
          if !u.totpEnabled then
            return { status := 200, body := .enabled false }
          else
            let now ← perform .now
            if rejectsCode env u.totpSecret code now then
              return writeError 400 "invalid code"
            else
              let written ← perform (.setUserTOTP userID "" false)
              match written with
              | .error _ =>
                  return writeError 500 "could not disable two-factor"
              | .ok _ =>
                  audit userID "totp.disable" ""
                  return { status := 200, body := .enabled false }

end Passwd.Server
