import Passwd.ServerRequests
import Passwd.ServerTransitions

namespace Passwd.Server

open Base64 Interaction

/-!
# What the handlers have established before they act

One assertion about every call of every handler: an account is written at most
once in a request, its second factor only after the checks of its handler, and
refresh tokens are created by four handlers only.  The concurrent and the
sequential results both start from these assertions and never unfold a handler
again.
-/

/-- The requests that may end with new tokens. -/
def Request.issuesTokens : Request → Bool
  | .login _ => true
  | .refresh _ => true
  | .recoveryComplete _ => true
  | .webAuthnLoginFinish _ => true
  | _ => false

/-- A request has read the record of an account. -/
def ReadUser (history : History calls) (u : User) : Prop :=
  (∃ idHash,
      answered (.getUserByIdentifierHash idHash) (.ok u) ∈ history) ∨
    answered (.getUserByID u.id) (.ok u) ∈ history

/-- A code was checked against a stored secret at a time the request read. -/
def CodeAccepted
    (env : Environment)
    (history : History calls)
    (stored code : String) :
    Prop :=
  ∃ now, answered .now now ∈ history ∧
    rejectsCode env stored code now = false

/-- What a request has established when it makes a call. -/
def Established
    (env : Environment)
    (request : Request)
    (history : History calls) :
    Operation → Prop
  | .createRefreshToken _ => request.issuesTokens = true
  | .createUser u =>
      (∃ req, request = .register req) ∧
        u.totpEnabled = false ∧ u.totpSecret = "" ∧ u.totpLastCounter = 0
  | .deleteAccount userID => request = .deleteAccount userID
  | .rotateMasterPassword _ _ _ _ => ∃ req, request = .recoveryComplete req
  | .setUserRecovery userID _ _ => ∃ req, request = .recoveryEnable userID req
  | .clearUserRecovery userID => request = .recoveryDisable userID
  | .setUserTOTPCounter userID counter =>
      ∃ req u secret now,
        request = .login (some req) ∧
        answered
          (.getUserByIdentifierHash (env.blindIdentifier req.identifier))
          (.ok u) ∈ history ∧
        u.id = userID ∧
        u.totpEnabled = true ∧
        env.decryptSecret u.totpSecret = some secret ∧
        answered .now now ∈ history ∧
        env.verifyTOTPAt secret req.totpCode now = some counter ∧
        u.totpLastCounter < counter
  | .setUserTOTP userID secret enabled =>
      ∃ u,
        answered (.getUserByID userID) (.ok u) ∈ history ∧
        match request with
        | .totpSetup id =>
            id = userID ∧ enabled = false ∧ u.totpEnabled = false
        | .totpEnable id (some code) =>
            id = userID ∧ enabled = true ∧ secret = u.totpSecret ∧
              secret ≠ "" ∧ CodeAccepted env history secret code
        | .totpDisable id (some code) =>
            id = userID ∧ enabled = false ∧ secret = "" ∧
              u.totpEnabled = true ∧
              CodeAccepted env history u.totpSecret code
        | _ => False
  | _ => True

/-- The assertion about a call: nothing of an account was written before it. -/
def Guarded
    (env : Environment)
    (request : Request)
    (history : History calls)
    (operation : Operation) :
    Prop :=
  (operation.touches .users = true →
    ∀ earlier ∈ history, earlier.operation.touches .users = false) ∧
  Established env request history operation

/-- The calls that neither write an account nor create a refresh token. -/
def Operation.isPlain : Operation → Bool
  | .createRefreshToken _ => false
  | operation => !operation.touches .users

/-- A plain call needs no justification. -/
theorem guarded_of_plain
    {env : Environment}
    {request : Request}
    {history : History calls}
    {operation : Operation}
    (plain : operation.isPlain = true) :
    Guarded env request history operation := by
  cases operation
  case createRefreshToken rt => cases plain
  case createUser u => cases plain
  case setUserTOTP userID secret enabled => cases plain
  case setUserTOTPCounter userID counter => cases plain
  case setUserRecovery userID key verifier => cases plain
  case clearUserRecovery userID => cases plain
  case rotateMasterPassword userID verifier key kdf => cases plain
  case deleteAccount userID => cases plain
  all_goals
    refine ⟨?_, trivial⟩
    intro touches
    cases touches

/-- Nothing of an account was written in a history. -/
def Unwritten (history : History calls) : Prop :=
  ∀ earlier ∈ history, earlier.operation.touches .users = false

@[simp] theorem unwritten_nil : Unwritten [] := by
  intro earlier member
  cases member

/-- A call that writes no account leaves the history without such a call. -/
theorem Unwritten.concat
    {history : History calls}
    (unwritten : Unwritten history)
    {exchange : Exchange calls}
    (untouched : exchange.operation.touches .users = false) :
    Unwritten (history ++ [exchange]) := by
  intro earlier member
  rcases List.mem_append.mp member with old | new
  · exact unwritten earlier old
  · rw [List.mem_singleton.mp new]
    exact untouched

/-- What the response of a request reports to have happened. -/
def Reported
    (env : Environment)
    (request : Request)
    (history : History calls)
    (response : Response) :
    Prop :=
  match request with
  | .refresh (some token) =>
      response.status = 200 →
        ∃ answer,
          answered (.markRefreshTokenUsed (env.hashRefreshToken token))
            answer ∈ history
  | .totpEnable userID (some _) =>
      response.status = 200 →
        ∃ secret,
          answered (.setUserTOTP userID secret true) (.ok ()) ∈ history
  | _ => True

/-- A handler keeps the assertions about its request. -/
abbrev Serves
    (env : Environment)
    (request : Request)
    (handler : Handler Response) :
    Prop :=
  handler.Obeys (Guarded env request) (Reported env request) []

/-- A handler makes plain calls only. -/
abbrev OnlyPlain {α : Type} (handler : Handler α) : Prop :=
  handler.Only fun operation : Operation => operation.isPlain = true

/-- A request whose handler makes plain calls only needs no justification. -/
theorem serves_of_onlyPlain
    {env : Environment}
    {request : Request}
    {handler : Handler Response}
    (onlyPlain : OnlyPlain handler)
    (reports : ∀ history response, Reported env request history response) :
    Serves env request handler :=
  onlyPlain.obeys (fun _ _ _ plain => guarded_of_plain plain)
    fun later response _ => reports later response

/-- Plain calls are guarded wherever they are made. -/
theorem OnlyPlain.guarded
    {α : Type}
    {env : Environment}
    {request : Request}
    {history : History calls}
    {handler : Handler α}
    {result : History calls → α → Prop}
    (onlyPlain : OnlyPlain handler)
    (afterwards : ∀ later value, history <+: later → result later value) :
    handler.Obeys (Guarded env request) result history :=
  onlyPlain.obeys (fun _ _ _ plain => guarded_of_plain plain) afterwards

/-!
## Parts that several handlers share
-/

/-- `newID` draws random bytes. -/
theorem onlyPlain_newID : OnlyPlain newID :=
  ⟨rfl, fun _ => trivial⟩

/-- `audit` appends to the log. -/
theorem onlyPlain_audit (userID event detail : String) :
    OnlyPlain (audit userID event detail) :=
  only_audit rfl rfl fun _ => rfl

/-- Recording an event and answering makes plain calls only. -/
theorem onlyPlain_audited
    (userID event detail : String)
    (response : Response) :
    OnlyPlain (audit userID event detail >>= fun _ => .done response) :=
  (onlyPlain_audit _ _ _).bind fun _ => trivial

/-- `issueTokens` is guarded in the requests that may end with tokens. -/
theorem issueTokens_guarded
    {env : Environment}
    {request : Request}
    {userID : String}
    {result : History calls → Option (String × String) → Prop}
    {history : History calls}
    (issues : request.issuesTokens = true)
    (afterwards :
      ∀ later issued, history <+: later → result later issued) :
    (issueTokens env userID).Obeys (Guarded env request) result history := by
  have only :
      (issueTokens env userID).Only fun operation : Operation =>
        ∀ later, Guarded env request later operation := by
    refine only_issueTokens ?_ ?_ ?_
    · exact fun _ => guarded_of_plain rfl
    · exact fun _ => guarded_of_plain rfl
    · intro rt _ later
      exact ⟨by rintro ⟨⟩, issues⟩
  exact only.obeys (fun later _ _ guarded => guarded later) afterwards

/-!
## Login and refresh
-/

/-- The end of a login whose password is wrong. -/
theorem onlyPlain_rejectPassword (idHash : String) (account : Option String) :
    OnlyPlain (rejectPassword idHash account) := by
  refine ⟨rfl, fun recorded => ?_⟩
  cases account with
  | none =>
      trivial
  | some userID =>
      apply (onlyPlain_audit _ _ _).bind
      intro audited
      trivial

/-- The end of a login whose code is not accepted. -/
theorem onlyPlain_rejectSecondFactor (idHash userID : String) :
    OnlyPlain (rejectSecondFactor idHash userID) := by
  refine ⟨rfl, fun recorded => ?_⟩
  apply (onlyPlain_audit _ _ _).bind
  intro audited
  trivial

section Login

variable {env : Environment} {req : LoginRequest} {u : User}
  {history : History calls}

/-- The end of a login whose factors are accepted. -/
theorem completeLogin_guarded (idHash : String) :
    (completeLogin env idHash u).Obeys (Guarded env (.login (some req)))
      (fun _ _ => True) history := by
  apply Program.obeys_bind.mpr
  apply issueTokens_guarded rfl
  intro later issued _
  cases issued with
  | none =>
      trivial
  | some tokens =>
      refine ⟨guarded_of_plain rfl, fun done => ?_⟩
      refine OnlyPlain.guarded ?_ fun _ _ _ => trivial
      apply (onlyPlain_audit _ _ _).bind
      intro audited
      trivial

/-- A login writes the counter of an account after it has checked the code. -/
theorem verifyLoginTOTP_guarded
    {result : History calls → Option Nat → Prop}
    (readUser :
      answered
        (.getUserByIdentifierHash (env.blindIdentifier req.identifier))
        (.ok u) ∈ history)
    (unwritten : Unwritten history)
    (enabled : u.totpEnabled = true)
    (afterwards : ∀ later accepted, result later accepted) :
    (verifyLoginTOTP env u req.totpCode).Obeys
      (Guarded env (.login (some req))) result history := by
  unfold verifyLoginTOTP
  split
  · exact afterwards _ _
  · rename_i secret opened
    refine ⟨guarded_of_plain rfl, fun now => ?_⟩
    dsimp only [Program.bind_done]
    cases matched : env.verifyTOTPAt secret req.totpCode now with
    | none =>
        exact afterwards _ _
    | some counter =>
        dsimp only [Program.bind_done]
        by_cases replayed : counter ≤ u.totpLastCounter
        · rw [if_pos replayed]
          exact afterwards _ _
        · rw [if_neg replayed]
          refine ⟨⟨fun _ => unwritten.concat rfl, ?_⟩, fun written => ?_⟩
          · refine ⟨req, u, secret, now, rfl, ?_, rfl, enabled, opened, ?_,
              matched, Nat.lt_of_not_le replayed⟩
            · exact List.mem_append_left _ readUser
            · exact List.mem_append_right _ (List.mem_singleton_self _)
          · cases written with
            | error e => exact afterwards _ _
            | ok done => exact afterwards _ _

/-- What a login does after its password was accepted. -/
theorem checkSecondFactor_guarded
    (readUser :
      answered
        (.getUserByIdentifierHash (env.blindIdentifier req.identifier))
        (.ok u) ∈ history)
    (unwritten : Unwritten history)
    (idHash : String) :
    (checkSecondFactor env idHash u req.totpCode).Obeys
      (Guarded env (.login (some req))) (fun _ _ => True) history := by
  refine ⟨guarded_of_plain rfl, fun counted => ?_⟩
  dsimp only [Program.bind_done]
  cases counted
  all_goals
    dsimp only
    split
    · split
      · trivial
      · split
        · rename_i enabled
          apply Program.obeys_bind.mpr
          refine verifyLoginTOTP_guarded (List.mem_append_left _ readUser)
            (unwritten.concat rfl) enabled ?_
          intro later accepted
          cases accepted with
          | none =>
              exact (onlyPlain_rejectSecondFactor _ _).guarded
                fun _ _ _ => trivial
          | some counter =>
              exact completeLogin_guarded idHash
        · exact (onlyPlain_rejectSecondFactor _ _).guarded
            fun _ _ _ => trivial
    · exact completeLogin_guarded idHash

end Login

/-- `handleLogin` -/
theorem serves_handleLogin
    (env : Environment)
    (req : Option LoginRequest) :
    Serves env (.login req) (handleLogin env req) := by
  cases req with
  | none =>
      trivial
  | some req =>
      refine ⟨guarded_of_plain rfl, fun isLocked => ?_⟩
      dsimp only [Program.bind_done]
      cases isLocked with
      | true =>
          trivial
      | false =>
          refine ⟨guarded_of_plain rfl, fun found => ?_⟩
          dsimp only [Program.bind_done]
          cases found with
          | error e =>
              exact (onlyPlain_rejectPassword _ _).guarded fun _ _ _ => trivial
          | ok u =>
              dsimp only [Program.bind_done]
              split
              · refine checkSecondFactor_guarded ?_ ?_ _
                · exact List.mem_append_right _ (List.mem_singleton_self _)
                · exact (unwritten_nil.concat rfl).concat rfl
              · exact (onlyPlain_rejectPassword _ _).guarded
                  fun _ _ _ => trivial

/-- `handleRefresh` -/
theorem serves_handleRefresh (env : Environment) (req : Option String) :
    Serves env (.refresh req) (handleRefresh env req) := by
  cases req with
  | none =>
      trivial
  | some token =>
      have refused :
          ∀ later status msg, status ≠ 200 →
            Reported env (.refresh (some token)) later
              (writeError status msg) := by
        intro later status msg isError succeeded
        exact absurd succeeded isError
      unfold handleRefresh
      dsimp only [Program.bind_done]
      split
      · exact refused _ _ _ (by decide)
      · refine ⟨guarded_of_plain rfl, fun found => ?_⟩
        dsimp only [Program.bind_done]
        cases found with
        | error e =>
            exact refused _ _ _ (by decide)
        | ok rt =>
            refine ⟨guarded_of_plain rfl, fun now => ?_⟩
            dsimp only [Program.bind_done]
            split
            · refine ⟨guarded_of_plain rfl, fun deleted => ?_⟩
              dsimp only [Program.bind_done]
              exact refused _ _ _ (by decide)
            · split
              · refine ⟨guarded_of_plain rfl, fun deleted => ?_⟩
                dsimp only [Program.bind_done]
                apply Program.obeys_bind.mpr
                refine (onlyPlain_audit _ _ _).guarded ?_
                intro later audited _
                exact refused _ _ _ (by decide)
              · refine ⟨guarded_of_plain rfl, fun marked => ?_⟩
                dsimp only [Program.bind_done]
                apply Program.obeys_bind.mpr
                apply issueTokens_guarded rfl
                intro later issued longer
                cases issued with
                | none =>
                    exact refused _ _ _ (by decide)
                | some tokens =>
                    intro _
                    refine ⟨marked, longer.subset ?_⟩
                    exact List.mem_append_right _ (List.mem_singleton_self _)

/-!
## Recovery and passkeys
-/

/-- The end of a recovery whose code is wrong. -/
theorem onlyPlain_rejectRecovery (idHash : String) :
    OnlyPlain (rejectRecovery idHash) :=
  ⟨rfl, fun _ => trivial⟩

/-- The end of a passkey login whose password or passkey is wrong. -/
theorem onlyPlain_rejectPasskeyLogin (idHash : String) :
    OnlyPlain (rejectPasskeyLogin idHash) :=
  ⟨rfl, fun _ => trivial⟩

/-- `webAuthnUserFor` lists the passkeys of an account. -/
theorem onlyPlain_webAuthnUserFor (userID : String) :
    OnlyPlain (webAuthnUserFor userID) := by
  refine ⟨rfl, fun listed => ?_⟩
  cases listed with
  | error e => trivial
  | ok creds => trivial

/-- `put` draws a handle and keeps the session data. -/
theorem onlyPlain_putPending (userID data : String) :
    OnlyPlain (putPending userID data) := by
  apply onlyPlain_newID.bind
  intro handle
  exact ⟨rfl, fun _ => trivial⟩

/-- A recovery writes the account once and then issues tokens. -/
theorem rotateAccount_guarded
    {env : Environment}
    {req : Option RecoveryCompleteRequest}
    {history : History calls}
    (unwritten : Unwritten history)
    (idHash : String)
    (u : User)
    (body : RecoveryCompleteRequest) :
    (rotateAccount env idHash u body).Obeys
      (Guarded env (.recoveryComplete req)) (fun _ _ => True) history := by
  refine ⟨guarded_of_plain rfl, fun salt => ?_⟩
  dsimp only [Program.bind_done]
  cases salt with
  | none =>
      trivial
  | some salt =>
      refine ⟨⟨fun _ => unwritten.concat rfl, ⟨_, rfl⟩⟩, fun rotated => ?_⟩
      dsimp only [Program.bind_done]
      cases rotated with
      | error e =>
          trivial
      | ok done =>
          refine ⟨guarded_of_plain rfl, fun deleted => ?_⟩
          dsimp only [Program.bind_done]
          apply Program.obeys_bind.mpr
          refine (onlyPlain_audit _ _ _).guarded ?_
          intro later audited _
          apply Program.obeys_bind.mpr
          apply issueTokens_guarded rfl
          intro last issued _
          cases issued with
          | none =>
              trivial
          | some tokens =>
              exact ⟨guarded_of_plain rfl, fun _ => trivial⟩

/-- `handleRecoveryComplete` -/
theorem serves_handleRecoveryComplete
    (env : Environment)
    (req : Option RecoveryCompleteRequest) :
    Serves env (.recoveryComplete req) (handleRecoveryComplete env req) := by
  cases req with
  | none =>
      trivial
  | some req =>
      unfold handleRecoveryComplete
      dsimp only [Program.bind_done]
      split
      · trivial
      · refine ⟨guarded_of_plain rfl, fun isLocked => ?_⟩
        dsimp only [Program.bind_done]
        cases isLocked with
        | true =>
            trivial
        | false =>
            refine ⟨guarded_of_plain rfl, fun found => ?_⟩
            dsimp only [Program.bind_done]
            cases found with
            | error e =>
                exact (onlyPlain_rejectRecovery _).guarded fun _ _ _ => trivial
            | ok u =>
                dsimp only [Program.bind_done]
                split
                · apply rotateAccount_guarded
                  exact (unwritten_nil.concat rfl).concat rfl
                · exact (onlyPlain_rejectRecovery _).guarded
                    fun _ _ _ => trivial

/-- `handleWebAuthnLoginFinish` -/
theorem serves_handleWebAuthnLoginFinish
    (env : Environment)
    (req : Option LoginFinishRequest) :
    Serves env (.webAuthnLoginFinish req)
      (handleWebAuthnLoginFinish env req) := by
  have rejected :
      ∀ idHash history,
        (rejectPasskeyLogin idHash).Obeys
          (Guarded env (.webAuthnLoginFinish req)) (fun _ _ => True)
          history := by
    intro idHash history
    exact (onlyPlain_rejectPasskeyLogin idHash).guarded fun _ _ _ => trivial
  unfold handleWebAuthnLoginFinish
  split
  · trivial
  · split
    · trivial
    · refine ⟨guarded_of_plain rfl, fun isLocked => ?_⟩
      dsimp only [Program.bind_done]
      cases isLocked with
      | true =>
          trivial
      | false =>
          refine ⟨guarded_of_plain rfl, fun found => ?_⟩
          dsimp only [Program.bind_done]
          cases found with
          | error e =>
              exact rejected _ _
          | ok u =>
              dsimp only [Program.bind_done]
              split
              · refine ⟨guarded_of_plain rfl, fun taken => ?_⟩
                dsimp only [Program.bind_done]
                split
                · trivial
                · split
                  · trivial
                  · apply Program.obeys_bind.mpr
                    refine (onlyPlain_webAuthnUserFor _).guarded ?_
                    intro later waUser _
                    cases waUser with
                    | none =>
                        trivial
                    | some credentials =>
                        dsimp only [Program.bind_done]
                        split
                        · exact rejected _ _
                        · refine ⟨guarded_of_plain rfl, fun updated => ?_⟩
                          dsimp only [Program.bind_done]
                          apply Program.obeys_bind.mpr
                          apply issueTokens_guarded rfl
                          intro last issued _
                          cases issued with
                          | none =>
                              trivial
                          | some tokens =>
                              exact ⟨guarded_of_plain rfl, fun _ => trivial⟩
              · exact rejected _ _

/-!
## The second factor
-/

/-- `handleTOTPSetup` -/
theorem serves_handleTOTPSetup (env : Environment) (userID : String) :
    Serves env (.totpSetup userID) (handleTOTPSetup env userID) := by
  refine ⟨guarded_of_plain rfl, fun found => ?_⟩
  dsimp only [Program.bind_done]
  cases found with
  | error e =>
      trivial
  | ok u =>
      dsimp only
      split
      · trivial
      · rename_i notEnabled
        refine ⟨guarded_of_plain rfl, fun bytes => ?_⟩
        cases bytes with
        | none =>
            trivial
        | some bytes =>
            refine ⟨guarded_of_plain rfl, fun nonce => ?_⟩
            cases nonce with
            | none =>
                trivial
            | some nonce =>
                refine ⟨⟨fun _ => ?_, u, ?_, ?_⟩, fun written => ?_⟩
                · exact ((unwritten_nil.concat rfl).concat rfl).concat rfl
                · simp
                · exact ⟨rfl, rfl, by simpa using notEnabled⟩
                · cases written with
                  | error e => trivial
                  | ok done => trivial

/-- `handleTOTPEnable` -/
theorem serves_handleTOTPEnable
    (env : Environment)
    (userID : String)
    (req : Option String) :
    Serves env (.totpEnable userID req) (handleTOTPEnable env userID req) := by
  cases req with
  | none =>
      trivial
  | some code =>
      have refused :
          ∀ later status msg, status ≠ 200 →
            Reported env (.totpEnable userID (some code)) later
              (writeError status msg) := by
        intro later status msg isError succeeded
        exact absurd succeeded isError
      refine ⟨guarded_of_plain rfl, fun found => ?_⟩
      dsimp only [Program.bind_done]
      cases found with
      | error e =>
          exact refused _ _ _ (by decide)
      | ok u =>
          dsimp only
          split
          · exact refused _ _ _ (by decide)
          · rename_i hasSecret
            refine ⟨guarded_of_plain rfl, fun now => ?_⟩
            dsimp only [Program.bind_done]
            split
            · exact refused _ _ _ (by decide)
            · rename_i notRejected
              refine ⟨⟨fun _ => ?_, u, ?_, ?_⟩, fun written => ?_⟩
              · exact (unwritten_nil.concat rfl).concat rfl
              · simp
              · refine ⟨rfl, rfl, rfl, hasSecret, now, ?_, ?_⟩
                · exact List.mem_append_right _ (List.mem_singleton_self _)
                · simpa using notRejected
              · dsimp only [Program.bind_done]
                cases written with
                | error e =>
                    exact refused _ _ _ (by decide)
                | ok done =>
                    apply Program.obeys_bind.mpr
                    refine (onlyPlain_audit _ _ _).guarded ?_
                    intro later audited longer _
                    refine ⟨u.totpSecret, longer.subset ?_⟩
                    exact List.mem_append_right _ (List.mem_singleton_self _)

/-- `handleTOTPDisable` -/
theorem serves_handleTOTPDisable
    (env : Environment)
    (userID : String)
    (req : Option String) :
    Serves env (.totpDisable userID req)
      (handleTOTPDisable env userID req) := by
  cases req with
  | none =>
      trivial
  | some code =>
      refine ⟨guarded_of_plain rfl, fun found => ?_⟩
      dsimp only [Program.bind_done]
      cases found with
      | error e =>
          trivial
      | ok u =>
          dsimp only
          split
          · trivial
          · rename_i isEnabled
            refine ⟨guarded_of_plain rfl, fun now => ?_⟩
            dsimp only [Program.bind_done]
            split
            · trivial
            · rename_i notRejected
              refine ⟨⟨fun _ => ?_, u, ?_, ?_⟩, fun written => ?_⟩
              · exact (unwritten_nil.concat rfl).concat rfl
              · simp
              · refine ⟨rfl, rfl, rfl, by simpa using isEnabled, now, ?_, ?_⟩
                · exact List.mem_append_right _ (List.mem_singleton_self _)
                · simpa using notRejected
              · cases written with
                | error e =>
                    trivial
                | ok done =>
                    exact (onlyPlain_audited _ _ _ _).guarded fun _ _ _ => trivial

/-!
## Accounts
-/

/-- `handleRegister` -/
theorem serves_handleRegister
    (env : Environment)
    (req : Option RegisterRequest) :
    Serves env (.register req) (handleRegister env req) := by
  cases req with
  | none =>
      trivial
  | some req =>
      unfold handleRegister
      dsimp only
      split
      · trivial
      · refine ⟨guarded_of_plain rfl, fun salt => ?_⟩
        cases salt with
        | none =>
            trivial
        | some salt =>
            refine ⟨guarded_of_plain rfl, fun now => ?_⟩
            refine ⟨guarded_of_plain rfl, fun drawn => ?_⟩
            refine ⟨⟨fun _ => ?_, ⟨_, rfl⟩, rfl, rfl, rfl⟩, fun created => ?_⟩
            · exact ((unwritten_nil.concat rfl).concat rfl).concat rfl
            · rcases created with (- | - | -) | -
              · trivial
              · trivial
              · trivial
              · exact (onlyPlain_audited _ _ _ _).guarded fun _ _ _ => trivial

/-- `handleDeleteAccount` -/
theorem serves_handleDeleteAccount (env : Environment) (userID : String) :
    Serves env (.deleteAccount userID) (handleDeleteAccount userID) := by
  unfold handleDeleteAccount
  split
  · trivial
  · refine ⟨⟨fun _ => unwritten_nil, rfl⟩, fun deleted => ?_⟩
    rcases deleted with (- | - | -) | -
    all_goals trivial

/-- `handleRecoveryEnable` -/
theorem serves_handleRecoveryEnable
    (env : Environment)
    (userID : String)
    (req : Option RecoveryEnableRequest) :
    Serves env (.recoveryEnable userID req)
      (handleRecoveryEnable env userID req) := by
  cases req with
  | none =>
      trivial
  | some req =>
      unfold handleRecoveryEnable
      dsimp only
      split
      · trivial
      · refine ⟨guarded_of_plain rfl, fun salt => ?_⟩
        cases salt with
        | none =>
            trivial
        | some salt =>
            refine ⟨⟨fun _ => unwritten_nil.concat rfl, ⟨_, rfl⟩⟩,
              fun written => ?_⟩
            cases written with
            | error e =>
                trivial
            | ok done =>
                exact (onlyPlain_audited _ _ _ _).guarded fun _ _ _ => trivial

/-- `handleRecoveryDisable` -/
theorem serves_handleRecoveryDisable (env : Environment) (userID : String) :
    Serves env (.recoveryDisable userID) (handleRecoveryDisable userID) := by
  refine ⟨⟨fun _ => unwritten_nil, rfl⟩, fun cleared => ?_⟩
  cases cleared with
  | error e =>
      trivial
  | ok done =>
      exact (onlyPlain_audited _ _ _ _).guarded fun _ _ _ => trivial

/-!
## Handlers that make plain calls only
-/

/-- `handlePrelogin` -/
theorem onlyPlain_handlePrelogin (env : Environment) (req : Option String) :
    OnlyPlain (handlePrelogin env req) := by
  cases req with
  | none =>
      trivial
  | some identifier =>
      refine ⟨rfl, fun found => ?_⟩
      cases found with
      | error e => trivial
      | ok u => trivial

/-- `handleListSessions` -/
theorem onlyPlain_handleListSessions (userID : String) :
    OnlyPlain (handleListSessions userID) := by
  unfold handleListSessions
  split
  · trivial
  · refine ⟨rfl, fun listed => ?_⟩
    cases listed with
    | error e => trivial
    | ok tokens => trivial

/-- `handleLogoutAll` -/
theorem onlyPlain_handleLogoutAll (userID : String) :
    OnlyPlain (handleLogoutAll userID) := by
  unfold handleLogoutAll
  split
  · trivial
  · refine ⟨rfl, fun deleted => ?_⟩
    cases deleted with
    | error e => trivial
    | ok done => exact onlyPlain_audited _ _ _ _

/-- `handleRecoveryChallenge` -/
theorem onlyPlain_handleRecoveryChallenge
    (env : Environment)
    (req : Option String) :
    OnlyPlain (handleRecoveryChallenge env req) := by
  cases req with
  | none =>
      trivial
  | some identifier =>
      refine ⟨rfl, fun nonce => ⟨rfl, fun data => ⟨rfl, fun found => ?_⟩⟩⟩
      cases found with
      | error e =>
          trivial
      | ok u =>
          dsimp only [Program.bind_done]
          split
          · trivial
          · trivial

/-- `handleTOTPStatus` -/
theorem onlyPlain_handleTOTPStatus (userID : String) :
    OnlyPlain (handleTOTPStatus userID) := by
  refine ⟨rfl, fun found => ?_⟩
  cases found with
  | error e => trivial
  | ok u => trivial

/-- `handleRecoveryStatus` -/
theorem onlyPlain_handleRecoveryStatus (userID : String) :
    OnlyPlain (handleRecoveryStatus userID) := by
  refine ⟨rfl, fun found => ?_⟩
  cases found with
  | error e => trivial
  | ok u => trivial

/-- `handleWebAuthnList` -/
theorem onlyPlain_handleWebAuthnList (userID : String) :
    OnlyPlain (handleWebAuthnList userID) := by
  refine ⟨rfl, fun listed => ?_⟩
  cases listed with
  | error e => trivial
  | ok creds => trivial

/-- `handleWebAuthnDelete` -/
theorem onlyPlain_handleWebAuthnDelete (userID id : String) :
    OnlyPlain (handleWebAuthnDelete userID id) := by
  refine ⟨rfl, fun deleted => ?_⟩
  rcases deleted with (- | - | -) | -
  · trivial
  · trivial
  · trivial
  · exact onlyPlain_audited _ _ _ _

/-- `handleWebAuthnRegisterBegin` -/
theorem onlyPlain_handleWebAuthnRegisterBegin
    (env : Environment)
    (userID : String) :
    OnlyPlain (handleWebAuthnRegisterBegin env userID) := by
  unfold handleWebAuthnRegisterBegin
  split
  · trivial
  · apply (onlyPlain_webAuthnUserFor userID).bind
    intro waUser
    cases waUser with
    | none =>
        trivial
    | some credentials =>
        refine ⟨rfl, fun entropy => ?_⟩
        dsimp only [Program.bind_done]
        split
        · trivial
        · exact (onlyPlain_putPending _ _).bind fun _ => trivial

/-- `handleWebAuthnRegisterFinish` -/
theorem onlyPlain_handleWebAuthnRegisterFinish
    (env : Environment)
    (userID : String)
    (req : Option RegisterFinishRequest) :
    OnlyPlain (handleWebAuthnRegisterFinish env userID req) := by
  unfold handleWebAuthnRegisterFinish
  split
  · trivial
  · cases req with
    | none =>
        trivial
    | some req =>
        refine ⟨rfl, fun taken => ?_⟩
        dsimp only [Program.bind_done]
        split
        · trivial
        · split
          · trivial
          · apply (onlyPlain_webAuthnUserFor userID).bind
            intro waUser
            cases waUser with
            | none =>
                trivial
            | some credentials =>
                dsimp only
                split
                · trivial
                · refine ⟨rfl, fun now => ⟨rfl, fun drawn => ⟨rfl, ?_⟩⟩⟩
                  rintro ((- | - | -) | -)
                  · trivial
                  · trivial
                  · trivial
                  · exact onlyPlain_audited _ _ _ _

/-- `handleWebAuthnLoginBegin` -/
theorem onlyPlain_handleWebAuthnLoginBegin
    (env : Environment)
    (req : Option LoginBeginRequest) :
    OnlyPlain (handleWebAuthnLoginBegin env req) := by
  unfold handleWebAuthnLoginBegin
  split
  · trivial
  · cases req with
    | none =>
        trivial
    | some req =>
        refine ⟨rfl, fun isLocked => ?_⟩
        cases isLocked with
        | true =>
            trivial
        | false =>
            refine ⟨rfl, fun found => ?_⟩
            cases found with
            | error e =>
                exact onlyPlain_rejectPasskeyLogin _
            | ok u =>
                dsimp only [Program.bind_done]
                split
                · apply (onlyPlain_webAuthnUserFor _).bind
                  intro waUser
                  rcases waUser with - | (- | ⟨first, rest⟩)
                  · trivial
                  · trivial
                  · refine ⟨rfl, fun entropy => ?_⟩
                    dsimp only [Program.bind_done]
                    split
                    · trivial
                    · exact (onlyPlain_putPending _ _).bind fun _ => trivial
                · exact onlyPlain_rejectPasskeyLogin _

/-- `handleAuditLog` -/
theorem onlyPlain_handleAuditLog (userID : String) :
    OnlyPlain (handleAuditLog userID) := by
  unfold handleAuditLog
  split
  · trivial
  · refine ⟨rfl, fun listed => ?_⟩
    cases listed with
    | error e => trivial
    | ok events => trivial

/-- The account that an identifier names is only looked up. -/
theorem onlyPlain_findRecipient (env : Environment) (identifier : String) :
    OnlyPlain (findRecipient env identifier) := by
  refine ⟨rfl, fun found => ?_⟩
  cases found with
  | error e => trivial
  | ok u => trivial

/-- `handleLookupPublicKey` -/
theorem onlyPlain_handleLookupPublicKey
    (env : Environment)
    (userID identifier : String) :
    OnlyPlain (handleLookupPublicKey env userID identifier) := by
  unfold handleLookupPublicKey
  split
  · trivial
  · split
    · trivial
    · apply (onlyPlain_findRecipient env identifier).bind
      intro recipient
      cases recipient with
      | none => trivial
      | some u => trivial

/-- `handleCreateShare` -/
theorem onlyPlain_handleCreateShare
    (env : Environment)
    (userID : String)
    (req : Option CreateShareRequest) :
    OnlyPlain (handleCreateShare env userID req) := by
  unfold handleCreateShare
  split
  · trivial
  · cases req with
    | none =>
        trivial
    | some req =>
        dsimp only
        split
        · trivial
        · apply (onlyPlain_findRecipient env _).bind
          intro recipient
          cases recipient with
          | none =>
              trivial
          | some u =>
              refine ⟨rfl, fun drawn => ⟨rfl, fun now => ⟨rfl, ?_⟩⟩⟩
              rintro (- | -)
              · trivial
              · exact onlyPlain_audited _ _ _ _

/-- `handleListShares` -/
theorem onlyPlain_handleListShares (userID : String) :
    OnlyPlain (handleListShares userID) := by
  unfold handleListShares
  split
  · trivial
  · refine ⟨rfl, fun listed => ?_⟩
    cases listed with
    | error e => trivial
    | ok shares => trivial

/-- `handleDeleteShare` -/
theorem onlyPlain_handleDeleteShare (userID id : String) :
    OnlyPlain (handleDeleteShare userID id) := by
  unfold handleDeleteShare
  split
  · trivial
  · refine ⟨rfl, ?_⟩
    rintro ((- | - | -) | -)
    all_goals trivial

/-- `handleSync` -/
theorem onlyPlain_handleSync (userID : String) :
    OnlyPlain (handleSync userID) := by
  unfold handleSync
  split
  · trivial
  · refine ⟨rfl, fun listed => ?_⟩
    cases listed with
    | error e => trivial
    | ok ciphers => trivial

/-- `handleCreateCipher` -/
theorem onlyPlain_handleCreateCipher
    (userID : String)
    (req : Option String) :
    OnlyPlain (handleCreateCipher userID req) := by
  unfold handleCreateCipher
  split
  · trivial
  · cases req with
    | none =>
        trivial
    | some data =>
        dsimp only
        split
        · trivial
        · refine ⟨rfl, fun now => ⟨rfl, fun drawn => ⟨rfl, ?_⟩⟩⟩
          rintro (- | -)
          · trivial
          · exact onlyPlain_audited _ _ _ _

/-- `handleUpdateCipher` -/
theorem onlyPlain_handleUpdateCipher
    (userID id : String)
    (req : Option String) :
    OnlyPlain (handleUpdateCipher userID id req) := by
  unfold handleUpdateCipher
  split
  · trivial
  · cases req with
    | none =>
        trivial
    | some data =>
        dsimp only
        split
        · trivial
        · refine ⟨rfl, fun now => ⟨rfl, ?_⟩⟩
          rintro ((- | - | -) | -)
          · trivial
          · trivial
          · trivial
          · exact onlyPlain_audited _ _ _ _

/-- `handleDeleteCipher` -/
theorem onlyPlain_handleDeleteCipher (userID id : String) :
    OnlyPlain (handleDeleteCipher userID id) := by
  unfold handleDeleteCipher
  split
  · trivial
  · refine ⟨rfl, ?_⟩
    rintro ((- | - | -) | -)
    · trivial
    · trivial
    · trivial
    · exact onlyPlain_audited _ _ _ _

/-!
## Every request
-/

/-- Every handler keeps the assertions about its request. -/
theorem serves_serve (env : Environment) (request : Request) :
    Serves env request (serve env request) := by
  cases request with
  | login req =>
      exact serves_handleLogin env req
  | refresh req =>
      exact serves_handleRefresh env req
  | recoveryComplete req =>
      exact serves_handleRecoveryComplete env req
  | webAuthnLoginFinish req =>
      exact serves_handleWebAuthnLoginFinish env req
  | totpSetup userID =>
      exact serves_handleTOTPSetup env userID
  | totpEnable userID req =>
      exact serves_handleTOTPEnable env userID req
  | totpDisable userID req =>
      exact serves_handleTOTPDisable env userID req
  | register req =>
      exact serves_handleRegister env req
  | deleteAccount userID =>
      exact serves_handleDeleteAccount env userID
  | recoveryEnable userID req =>
      exact serves_handleRecoveryEnable env userID req
  | recoveryDisable userID =>
      exact serves_handleRecoveryDisable env userID
  | prelogin req =>
      exact serves_of_onlyPlain (onlyPlain_handlePrelogin env req)
        fun _ _ => trivial
  | listSessions userID =>
      exact serves_of_onlyPlain (onlyPlain_handleListSessions userID)
        fun _ _ => trivial
  | logoutAll userID =>
      exact serves_of_onlyPlain (onlyPlain_handleLogoutAll userID)
        fun _ _ => trivial
  | recoveryChallenge req =>
      exact serves_of_onlyPlain (onlyPlain_handleRecoveryChallenge env req)
        fun _ _ => trivial
  | totpStatus userID =>
      exact serves_of_onlyPlain (onlyPlain_handleTOTPStatus userID)
        fun _ _ => trivial
  | recoveryStatus userID =>
      exact serves_of_onlyPlain (onlyPlain_handleRecoveryStatus userID)
        fun _ _ => trivial
  | webAuthnList userID =>
      exact serves_of_onlyPlain (onlyPlain_handleWebAuthnList userID)
        fun _ _ => trivial
  | webAuthnDelete userID id =>
      exact serves_of_onlyPlain (onlyPlain_handleWebAuthnDelete userID id)
        fun _ _ => trivial
  | webAuthnRegisterBegin userID =>
      exact serves_of_onlyPlain
        (onlyPlain_handleWebAuthnRegisterBegin env userID) fun _ _ => trivial
  | webAuthnRegisterFinish userID req =>
      exact serves_of_onlyPlain
        (onlyPlain_handleWebAuthnRegisterFinish env userID req)
        fun _ _ => trivial
  | webAuthnLoginBegin req =>
      exact serves_of_onlyPlain (onlyPlain_handleWebAuthnLoginBegin env req)
        fun _ _ => trivial
  | auditLog userID =>
      exact serves_of_onlyPlain (onlyPlain_handleAuditLog userID)
        fun _ _ => trivial
  | lookupPublicKey userID identifier =>
      exact serves_of_onlyPlain
        (onlyPlain_handleLookupPublicKey env userID identifier)
        fun _ _ => trivial
  | createShare userID req =>
      exact serves_of_onlyPlain (onlyPlain_handleCreateShare env userID req)
        fun _ _ => trivial
  | listShares userID =>
      exact serves_of_onlyPlain (onlyPlain_handleListShares userID)
        fun _ _ => trivial
  | deleteShare userID id =>
      exact serves_of_onlyPlain (onlyPlain_handleDeleteShare userID id)
        fun _ _ => trivial
  | sync userID =>
      exact serves_of_onlyPlain (onlyPlain_handleSync userID)
        fun _ _ => trivial
  | createCipher userID req =>
      exact serves_of_onlyPlain (onlyPlain_handleCreateCipher userID req)
        fun _ _ => trivial
  | updateCipher userID id req =>
      exact serves_of_onlyPlain (onlyPlain_handleUpdateCipher userID id req)
        fun _ _ => trivial
  | deleteCipher userID id =>
      exact serves_of_onlyPlain (onlyPlain_handleDeleteCipher userID id)
        fun _ _ => trivial

end Passwd.Server
