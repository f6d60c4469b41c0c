import Passwd.InteractionSummary
import Passwd.AccountRequests
import Passwd.OwnerIsolation
import Passwd.ServerRuns
import Passwd.UserIndex

namespace Passwd.Server

open Base64 Interaction

/-!
# The audit log of sign-ins

A sign-in is complete in the audit log when its one event names the account that
it signed in to or failed to sign in to.  What a request did is summed up in a
`Ledger`.  The login with a password is always complete; the login with a passkey
records its failures and its successes with the lockout tracker only, and the
recovery its failures, so these are complete just in the cases that end before
that.
-/

/-- The account look-ups, challenges, failures and events of one request. -/
structure Ledger where
  found : List (String × User)
  taken : List ChallengeEntry
  failures : List String
  events : List AuditEvent

/-- A request that has made no call. -/
def Ledger.empty : Ledger where
  found := []
  taken := []
  failures := []
  events := []

/-- What one call adds. -/
def Ledger.record (ledger : Ledger) : Exchange calls → Ledger
  | ⟨.getUserByIdentifierHash idHash, .ok u⟩ =>
      { ledger with found := ledger.found ++ [(idHash, u)] }
  | ⟨.takeChallenge _, some entry⟩ =>
      { ledger with taken := ledger.taken ++ [entry] }
  | ⟨.recordFailure idHash, _⟩ =>
      { ledger with failures := ledger.failures ++ [idHash] }
  | ⟨.appendAuditEvent e, .ok _⟩ =>
      { ledger with events := ledger.events ++ [e] }
  | _ => ledger

/-- The calls that add something. -/
def Operation.isListed : Operation → Bool
  | .getUserByIdentifierHash _ => true
  | .takeChallenge _ => true
  | .recordFailure _ => true
  | .appendAuditEvent _ => true
  | _ => false

/-- What a request has done so far. -/
def ledgerOf (history : History calls) : Ledger :=
  history.foldl Ledger.record .empty

/-- The requests that sign in. -/
def Request.isSignIn : Request → Bool
  | .login _ => true
  | .webAuthnLoginBegin _ => true
  | .webAuthnLoginFinish _ => true
  | .recoveryComplete _ => true
  | _ => false

/-- The event of a request that has signed in. -/
def Request.successEvent : Request → String
  | .recoveryComplete _ => "recovery.complete"
  | _ => "login.success"

/-- A response that signs in to an account. -/
def Response.SignsIn (env : Environment) (response : Response) (u : User) :
    Prop :=
  ∃ issuedAt refreshToken protectedUserKey protectedPrivateKey kdf,
    response.body =
      .login (env.issueAccessToken u.id issuedAt) refreshToken
        protectedUserKey protectedPrivateKey kdf

/-- A response that signs in. -/
def Response.isLogin (response : Response) : Bool :=
  match response.body with
  | .login _ _ _ _ _ => true
  | _ => false

/-- The one event of a request, for an account. -/
def OneEvent (ledger : Ledger) (u : User) (event : String) : Prop :=
  ∃ e, ledger.events = [e] ∧ e.userID = u.id ∧ e.event = event

/--
What a finished request owes the audit log: one success event if it signed in,
one failure event for each failure it recorded against an account it found, and
none if it found no account.
-/
structure Audited
    (env : Environment)
    (request : Request)
    (ledger : Ledger)
    (response : Response) :
    Prop where
  success :
    response.isLogin = true →
      ∃ idHash u, (idHash, u) ∈ ledger.found ∧ response.SignsIn env u ∧
        OneEvent ledger u request.successEvent
  failure :
    ∀ idHash u, (idHash, u) ∈ ledger.found → idHash ∈ ledger.failures →
      OneEvent ledger u "login.failure"
  unknown : ledger.found = [] → ledger.events = []

/-!
## Which answers the log survives
-/

/-- An account that a request may find. -/
def acceptsUser (env : Environment) (request : Request) (u : User) : Bool :=
  match request with
  | .webAuthnLoginBegin (some req) =>
      env.verifyVerifier u.masterPasswordVerifier req.masterPasswordHash =
        some true
  | .webAuthnLoginFinish (some req) =>
      env.verifyVerifier u.masterPasswordVerifier req.masterPasswordHash =
        some true
  | .recoveryComplete (some req) =>
      u.recoveryVerifier ≠ "" &&
        env.verifyVerifier u.recoveryVerifier req.recoveryAuthHash = some true
  | _ => true

/-- A challenge that a request may take after it has found accounts. -/
def acceptsEntry
    (env : Environment)
    (request : Request)
    (found : List (String × User))
    (entry : ChallengeEntry) :
    Bool :=
  match request with
  | .webAuthnLoginFinish (some req) =>
      found.all fun account =>
        entry.userID ≠ account.2.id ||
          env.webAuthn.all fun webAuthn =>
            (webAuthn.parseAssertion req.credential).isNone
  | _ => true

/-- An answer after which the request can still be complete. -/
def Expected
    (env : Environment)
    (request : Request)
    (ledger : Ledger) :
    (operation : Operation) → Answer operation → Prop
  | .getUserByIdentifierHash _, .ok u =>
      u.id ≠ "" ∧ acceptsUser env request u = true
  | .takeChallenge _, some entry =>
      acceptsEntry env request ledger.found entry = true
  | .appendAuditEvent _, appended => appended = .ok ()
  | _, _ => True

/-- A handler that ends complete when its answers are expected. -/
abbrev Completes
    {α : Type}
    (env : Environment)
    (request : Request)
    (result : Ledger → α → Prop)
    (ledger : Ledger)
    (handler : Handler α) :
    Prop :=
  handler.Ends Ledger.record (Expected env request) result ledger

section Handlers

variable {env : Environment} {request : Request} {ledger : Ledger}

/-- A call that adds nothing leaves the ledger alone. -/
theorem record_of_unlisted
    {operation : Operation}
    (unlisted : operation.isListed = false)
    (answer : Answer operation) :
    ledger.record ⟨operation, answer⟩ = ledger := by
  cases operation
  case getUserByIdentifierHash idHash => cases unlisted
  case takeChallenge handle => cases unlisted
  case recordFailure key => cases unlisted
  case appendAuditEvent e => cases unlisted
  all_goals rfl

/-- A handler that adds nothing to the ledger. -/
abbrev OnlyUnlisted {α : Type} (handler : Handler α) : Prop :=
  handler.Only fun operation : Operation => operation.isListed = false

/-- What such a handler ends with. -/
theorem OnlyUnlisted.completes
    {α : Type}
    {handler : Handler α}
    {result : Ledger → α → Prop}
    (only : OnlyUnlisted handler)
    (afterwards : ∀ value, result ledger value) :
    Completes env request result ledger handler :=
  only.ends (fun _ answer unlisted => record_of_unlisted unlisted answer)
    afterwards

/-- Recording an event for an account that has an id. -/
theorem completes_audit
    {userID event detail : String}
    {result : Ledger → Unit → Prop}
    (named : userID ≠ "")
    (afterwards :
      ∀ e : AuditEvent, e.userID = userID → e.event = event →
        result { ledger with events := ledger.events ++ [e] } ()) :
    Completes env request result ledger (audit userID event detail) := by
  unfold audit
  rw [if_neg named]
  intro bytes _ now _ appended isExpected
  cases isExpected
  exact afterwards _ rfl rfl

/-- Issuing tokens adds nothing. -/
theorem completes_issueTokens
    {userID : String}
    {result : Ledger → Option (String × String) → Prop}
    (notIssued : result ledger none)
    (issued :
      ∀ issuedAt refreshToken,
        result ledger
          (some (env.issueAccessToken userID issuedAt, refreshToken))) :
    Completes env request result ledger (issueTokens env userID) := by
  intro issuedAt _ bytes _
  cases bytes with
  | none =>
      exact notIssued
  | some bytes =>
      intro now _ created _
      cases created with
      | error e => exact notIssued
      | ok done => exact issued issuedAt _

/-!
## How a request ends complete
-/

/-- A request that has recorded no failure and does not sign in. -/
theorem audited_of_silent
    {response : Response}
    (noFailure : ledger.failures = [])
    (noEvent : ledger.found = [] → ledger.events = [])
    (notLogin : response.isLogin = false) :
    Audited env request ledger response where
  success := by
    intro isLogin
    rw [notLogin] at isLogin
    cases isLogin
  failure := by
    intro idHash u _ failed
    rw [noFailure] at failed
    cases failed
  unknown := noEvent

/-- A request that has found no account and appended no event. -/
theorem audited_of_unfound
    {response : Response}
    (notFound : ledger.found = [])
    (noEvent : ledger.events = [])
    (notLogin : response.isLogin = false) :
    Audited env request ledger response where
  success := by
    intro isLogin
    rw [notLogin] at isLogin
    cases isLogin
  failure := by
    intro idHash u found _
    rw [notFound] at found
    cases found
  unknown := fun _ => noEvent

/-- A request that has appended the failure of the account it found. -/
theorem audited_of_failure
    {response : Response}
    {idHash : String}
    {u : User}
    (found : ledger.found = [(idHash, u)])
    (event : OneEvent ledger u "login.failure")
    (notLogin : response.isLogin = false) :
    Audited env request ledger response where
  success := by
    intro isLogin
    rw [notLogin] at isLogin
    cases isLogin
  failure := by
    intro otherHash other isFound _
    rw [found] at isFound
    cases List.mem_singleton.mp isFound
    exact event
  unknown := by
    intro notFound
    rw [found] at notFound
    cases notFound

/-- A request that has appended the success of the account it signs in to. -/
theorem audited_of_success
    {response : Response}
    {idHash : String}
    {u : User}
    (found : ledger.found = [(idHash, u)])
    (noFailure : ledger.failures = [])
    (event : OneEvent ledger u request.successEvent)
    (signsIn : response.SignsIn env u) :
    Audited env request ledger response where
  success := by
    intro _
    refine ⟨idHash, u, ?_, signsIn, event⟩
    rw [found]
    exact List.mem_singleton_self _
  failure := by
    intro otherHash other _ failed
    rw [noFailure] at failed
    cases failed
  unknown := by
    intro notFound
    rw [found] at notFound
    cases notFound

/-- The ledger of a request that has found an account and done nothing else. -/
def Ledger.finding (idHash : String) (u : User) : Ledger :=
  { Ledger.empty with found := [(idHash, u)] }

/-- A handler that makes a request complete. -/
abbrev Audits
    (env : Environment)
    (request : Request)
    (ledger : Ledger)
    (handler : Handler Response) :
    Prop :=
  Completes env request (Audited env request) ledger handler

/-!
## The login with a password
-/

variable {idHash : String} {u : User}

/-- The end of a login whose password is wrong. -/
theorem audits_rejectPassword (named : u.id ≠ "") :
    Audits env request (.finding idHash u)
      (rejectPassword idHash (some u.id)) := by
  simp only [rejectPassword, perform_bind]
  intro recorded _
  apply Program.ends_bind.mpr
  apply completes_audit named
  intro e owner event
  exact audited_of_failure rfl ⟨e, rfl, owner, event⟩ rfl

/-- The end of a login whose code is wrong. -/
theorem audits_rejectSecondFactor (named : u.id ≠ "") :
    Audits env request (.finding idHash u)
      (rejectSecondFactor idHash u.id) := by
  simp only [rejectSecondFactor, perform_bind]
  intro recorded _
  apply Program.ends_bind.mpr
  apply completes_audit named
  intro e owner event
  exact audited_of_failure rfl ⟨e, rfl, owner, event⟩ rfl

/-- The end of a login whose factors are accepted. -/
theorem audits_completeLogin (named : u.id ≠ "") (req : Option LoginRequest) :
    Audits env (.login req) (.finding idHash u)
      (completeLogin env idHash u) := by
  apply Program.ends_bind.mpr
  apply completes_issueTokens
  · exact audited_of_silent rfl (fun _ => rfl) rfl
  · intro issuedAt refreshToken
    simp only [perform_bind]
    intro reset _
    apply Program.ends_bind.mpr
    apply completes_audit named
    intro e owner event
    exact audited_of_success rfl rfl ⟨e, rfl, owner, event⟩
      ⟨issuedAt, refreshToken, _, _, _, rfl⟩

/-- Verifying a code adds nothing. -/
theorem onlyUnlisted_verifyLoginTOTP (code : String) :
    OnlyUnlisted (verifyLoginTOTP env u code) := by
  apply only_verifyLoginTOTP
  · rfl
  · intro counter
    rfl

/-- A login after its password was accepted. -/
theorem audits_checkSecondFactor
    (named : u.id ≠ "")
    (req : Option LoginRequest)
    (code : String) :
    Audits env (.login req) (.finding idHash u)
      (checkSecondFactor env idHash u code) := by
  intro counted _
  dsimp only [Program.bind_done]
  cases counted
  all_goals
    dsimp only
    split
    · split
      · exact audited_of_silent rfl (fun _ => rfl) rfl
      · split
        · apply Program.ends_bind.mpr
          apply (onlyUnlisted_verifyLoginTOTP code).completes
          intro accepted
          cases accepted with
          | none => exact audits_rejectSecondFactor named
          | some counter => exact audits_completeLogin named req
        · exact audits_rejectSecondFactor named
    · exact audits_completeLogin named req

/-- `handleLogin` -/
theorem audits_handleLogin (req : Option LoginRequest) :
    Audits env (.login req) .empty (handleLogin env req) := by
  cases req with
  | none =>
      exact audited_of_silent rfl (fun _ => rfl) rfl
  | some req =>
      intro isLocked _
      dsimp only [Program.bind_done]
      cases isLocked with
      | true =>
          exact audited_of_silent rfl (fun _ => rfl) rfl
      | false =>
          intro found isExpected
          dsimp only [Program.bind_done]
          cases found with
          | error e =>
              intro recorded _
              exact audited_of_unfound rfl rfl rfl
          | ok u =>
              dsimp only [Program.bind_done]
              split
              · exact audits_checkSecondFactor isExpected.1 _ _
              · exact audits_rejectPassword isExpected.1

/-!
## The login with a passkey
-/

/-- Reading the passkeys of an account adds nothing. -/
theorem onlyUnlisted_webAuthnUserFor (userID : String) :
    OnlyUnlisted (webAuthnUserFor userID) := by
  refine ⟨rfl, fun listed => ?_⟩
  cases listed with
  | error e => trivial
  | ok creds => trivial

/-- `handleWebAuthnLoginBegin` -/
theorem audits_handleWebAuthnLoginBegin (req : Option LoginBeginRequest) :
    Audits env (.webAuthnLoginBegin req) .empty
      (handleWebAuthnLoginBegin env req) := by
  unfold handleWebAuthnLoginBegin
  split
  · exact audited_of_silent rfl (fun _ => rfl) rfl
  · cases req with
    | none =>
        exact audited_of_silent rfl (fun _ => rfl) rfl
    | some req =>
        intro isLocked _
        dsimp only [Program.bind_done]
        cases isLocked with
        | true =>
            exact audited_of_silent rfl (fun _ => rfl) rfl
        | false =>
            intro found isExpected
            dsimp only [Program.bind_done]
            cases found with
            | error e =>
                intro recorded _
                exact audited_of_unfound rfl rfl rfl
            | ok u =>
                have verifies := of_decide_eq_true isExpected.2
                dsimp only [Program.bind_done]
                rw [if_pos verifies]
                apply Program.ends_bind.mpr
                apply (onlyUnlisted_webAuthnUserFor u.id).completes
                intro waUser
                split
                · exact audited_of_silent rfl (fun _ => rfl) rfl
                · exact audited_of_silent rfl (fun _ => rfl) rfl
                · intro entropy _
                  dsimp only [Program.bind_done]
                  split
                  · exact audited_of_silent rfl (fun _ => rfl) rfl
                  · intro handle _ put _
                    exact audited_of_silent rfl (fun _ => rfl) rfl

/-- A passkey login whose assertion does not parse or is for another account. -/
theorem audits_checkAssertion
    {webAuthn : WebAuthn}
    (configured : env.webAuthn = some webAuthn)
    (req : LoginFinishRequest) :
    Audits env (.webAuthnLoginFinish (some req)) (.finding idHash u)
      (checkAssertion env webAuthn idHash u req) := by
  intro entry isExpected
  dsimp only [Program.bind_done]
  cases entry with
  | none =>
      exact audited_of_silent rfl (fun _ => rfl) rfl
  | some entry =>
      by_cases own : entry.userID = u.id
      · have unparsed : webAuthn.parseAssertion req.credential = none := by
          simpa [Expected, acceptsEntry, Ledger.finding, configured, own]
            using isExpected
        simp only [Option.filter, own, decide_true, ↓reduceIte, unparsed]
        exact audited_of_silent rfl (fun _ => rfl) rfl
      · simp only [Option.filter, own, decide_false, Bool.false_eq_true,
          ↓reduceIte]
        exact audited_of_silent rfl (fun _ => rfl) rfl

/-- `handleWebAuthnLoginFinish` -/
theorem audits_handleWebAuthnLoginFinish (req : Option LoginFinishRequest) :
    Audits env (.webAuthnLoginFinish req) .empty
      (handleWebAuthnLoginFinish env req) := by
  unfold handleWebAuthnLoginFinish
  split
  · exact audited_of_silent rfl (fun _ => rfl) rfl
  · rename_i webAuthn configured
    cases req with
    | none =>
        exact audited_of_silent rfl (fun _ => rfl) rfl
    | some req =>
        intro isLocked _
        dsimp only [Program.bind_done]
        cases isLocked with
        | true =>
            exact audited_of_silent rfl (fun _ => rfl) rfl
        | false =>
            intro found isExpected
            dsimp only [Program.bind_done]
            cases found with
            | error e =>
                intro recorded _
                exact audited_of_unfound rfl rfl rfl
            | ok u =>
                have verifies := of_decide_eq_true isExpected.2
                dsimp only [Program.bind_done]
                rw [if_pos verifies]
                exact audits_checkAssertion configured req

/-!
## Recovery
-/

/-- A recovery after its code was accepted. -/
theorem audits_rotateAccount
    (named : u.id ≠ "")
    (req : RecoveryCompleteRequest) :
    Audits env (.recoveryComplete (some req)) (.finding idHash u)
      (rotateAccount env idHash u req) := by
  intro salt _
  cases salt with
  | none =>
      exact audited_of_silent rfl (fun _ => rfl) rfl
  | some salt =>
      intro rotated _
      dsimp only [Program.bind_done]
      cases rotated with
      | error e =>
          exact audited_of_silent rfl (fun _ => rfl) rfl
      | ok done =>
          intro deleted _
          dsimp only [Program.bind_done]
          apply Program.ends_bind.mpr
          apply completes_audit named
          intro e owner event
          apply Program.ends_bind.mpr
          apply completes_issueTokens
          · refine audited_of_silent rfl ?_ rfl
            intro notFound
            cases notFound
          · intro issuedAt refreshToken reset _
            exact audited_of_success rfl rfl ⟨e, rfl, owner, event⟩
              ⟨issuedAt, refreshToken, _, _, _, rfl⟩

/-- `handleRecoveryComplete` -/
theorem audits_handleRecoveryComplete
    (req : Option RecoveryCompleteRequest) :
    Audits env (.recoveryComplete req) .empty
      (handleRecoveryComplete env req) := by
  cases req with
  | none =>
      exact audited_of_silent rfl (fun _ => rfl) rfl
  | some req =>
      dsimp only [handleRecoveryComplete]
      split
      · exact audited_of_silent rfl (fun _ => rfl) rfl
      · intro isLocked _
        dsimp only [Program.bind_done]
        cases isLocked with
        | true =>
            exact audited_of_silent rfl (fun _ => rfl) rfl
        | false =>
            intro found isExpected
            dsimp only [Program.bind_done]
            cases found with
            | error e =>
                intro recorded _
                exact audited_of_unfound rfl rfl rfl
            | ok u =>
                have verifies :
                    u.recoveryVerifier ≠ "" ∧
                      env.verifyVerifier u.recoveryVerifier
                        req.recoveryAuthHash = some true := by
                  simpa [acceptsUser] using isExpected.2
                dsimp only [Program.bind_done]
                rw [if_pos verifies]
                exact audits_rotateAccount isExpected.1 req

/-- Every request that signs in is complete when its answers are expected. -/
theorem audits_serve
    {request : Request}
    (isSignIn : request.isSignIn = true) :
    Audits env request .empty (serve env request) := by
  cases request with
  | login req => exact audits_handleLogin req
  | webAuthnLoginBegin req => exact audits_handleWebAuthnLoginBegin req
  | webAuthnLoginFinish req => exact audits_handleWebAuthnLoginFinish req
  | recoveryComplete req => exact audits_handleRecoveryComplete req
  | _ => cases isSignIn

end Handlers

/-!
## Accounts have ids
-/

/-- Every account has an id that is not empty. -/
def Named (state : State) : Prop :=
  ∀ u ∈ state.store.users.rows, u.id ≠ ""

/-- An account is created under an id that is not empty. -/
def CreatesNamed (operation : Operation) : Prop :=
  ∀ u, operation = .createUser u → u.id ≠ ""

/-- Random bytes are as many as were asked for. -/
def Drawn : (operation : Operation) → Answer operation → Prop
  | .random count, some bytes => bytes.length = count
  | _, _ => True

/-- Calls with named accounts keep the accounts named. -/
theorem Named.execute
    {backend : Backend}
    {choice : Choice}
    {state : State}
    {operation : Operation}
    (named : Named state)
    (creates : CreatesNamed operation) :
    Named (execute backend choice state operation).2 := by
  have step := @usersStep_execute backend choice state operation
  generalize (Server.execute backend choice state operation).2 = after at step
  intro u member
  generalize after.store.users = users at step member
  cases step with
  | same => exact named u member
  | created isCreate entry _ =>
      rcases Table.mem_upsert member with rfl | isOld
      · have sameID := congrArg HashEntry.userID entry
        intro isEmpty
        exact creates _ isCreate (sameID.symm.trans isEmpty)
      · exact named u isOld
  | rewritten keepsID _ =>
      obtain ⟨old, isOld, rfl | rfl⟩ := Table.mem_update member
      · exact named _ isOld
      · rw [keepsID]
        exact named old isOld
  | deleted _ => exact named u (Table.mem_delete member).1

/-- As many random bytes are drawn as are asked for. -/
theorem drawn_execute
    (backend : Backend)
    (choice : Choice)
    (state : State)
    (operation : Operation) :
    Drawn operation (execute backend choice state operation).1 := by
  cases operation
  case random count =>
    rw [execute_random]
    split
    · trivial
    · exact bytes_length choice count
  all_goals trivial

/-- Registration creates accounts under new ids. -/
theorem createsNamed_handleRegister
    (env : Environment)
    (req : Option RegisterRequest) :
    (handleRegister env req).Guarantees Drawn CreatesNamed fun _ => True := by
  have notCreate :
      ∀ operation : Operation, operation.isPlain = true →
        CreatesNamed operation := by
    intro operation plain u isCreate
    subst isCreate
    cases plain
  cases req with
  | none =>
      trivial
  | some req =>
      unfold handleRegister
      dsimp only
      split
      · trivial
      · refine ⟨notCreate _ rfl, fun salt _ => ?_⟩
        cases salt with
        | none =>
            trivial
        | some salt =>
            refine ⟨notCreate _ rfl, fun now _ => ?_⟩
            refine ⟨notCreate _ rfl, fun drawn isDrawn => ?_⟩
            refine ⟨?_, fun created _ => ?_⟩
            · intro u isCreate
              cases isCreate
              apply hexEncode_ne_empty
              cases drawn with
              | none => rfl
              | some bytes => exact isDrawn
            · rcases created with (- | - | -) | -
              · trivial
              · trivial
              · trivial
              · exact ((onlyPlain_audited _ _ _ _).mono notCreate).guarantees

/-- Every request creates named accounts only. -/
theorem createsNamed_serve (env : Environment) (request : Request) :
    (serve env request).Guarantees Drawn CreatesNamed fun _ => True := by
  by_cases registers : ∃ req, request = .register req
  · obtain ⟨req, rfl⟩ := registers
    exact createsNamed_handleRegister env req
  · refine (serves_serve env request).guarantees ?_
    intro history operation guarded u isCreate
    subst isCreate
    exact absurd guarded.2.1 registers

/-- In every run from the start, accounts have ids. -/
theorem named_of_reaches
    {backend : Backend}
    {env : Environment}
    {requests : Nat → Request}
    {allowed : Serving → Nat → Choice → Prop}
    {final : Serving}
    (reaches :
      Configuration.Reaches (execute backend) allowed
        (serving env State.empty requests) final) :
    Named final.state := by
  have start : Named State.empty := by
    intro u member
    cases member
  refine (reaches.guarantees Named start
    (fun process => createsNamed_serve env (requests process)) ?_).1
  intro configuration process operation next choice named creates _ _
  exact ⟨drawn_execute backend choice configuration.state operation,
    named.execute creates⟩

/-!
## Runs
-/

/-- A call whose event, if it appends one, is appended. -/
def appends
    (backend : Backend)
    (configuration : Serving)
    (_ : Nat)
    (choice : Choice) :
    Operation → Bool
  | .appendAuditEvent e =>
      (execute backend choice configuration.state (.appendAuditEvent e)).1 =
        .ok ()
  | _ => true

/-- An event that is appended is the last one of the log. -/
theorem audit_of_appended
    {backend : Backend}
    {choice : Choice}
    {state : State}
    {e : AuditEvent}
    (appended :
      (execute backend choice state (.appendAuditEvent e)).1 = .ok ()) :
    (execute backend choice state (.appendAuditEvent e)).2.store.audit =
      state.store.audit ++
        [{ e with createdAt := backend.stamp e.createdAt }] := by
  rcases attempt_cases choice state (.appendAuditEvent e)
      (state.store.appendAuditEvent backend e) with failed | done
  · cases (congrArg Prod.fst failed).symm.trans appended
  · have succeeded := (congrArg Prod.fst done).symm.trans appended
    refine (congrArg (fun after => after.2.store.audit) done).trans ?_
    unfold Store.appendAuditEvent at succeeded ⊢
    split
    · rename_i taken
      rw [if_pos taken] at succeeded
      cases succeeded
    · rfl

/--
A call that does not lead a request to leave out an event: a passkey login or a
recovery finds no account that it rejects, and a passkey login takes no challenge
of its account with an assertion that parses.
-/
def keepsLog
    (env : Environment)
    (requests : Nat → Request)
    (configuration : Serving)
    (process : Nat)
    (choice : Choice) :
    Operation → Bool
  | .getUserByIdentifierHash idHash =>
      match (configuration.state.store.getUserByIdentifierHash idHash).1 with
      | .ok u => acceptsUser env (requests process) u
      | .error _ => true
  | .takeChallenge handle =>
      (takeChallenge choice.now configuration.state.waPending handle).1.all
        (acceptsEntry env (requests process)
          (ledgerOf (configuration.trace.ofProcess process)).found)
  | _ => true

/-- A call that keeps the log gets an answer that its request expects. -/
theorem expected_of_keepsLog
    {backend : Backend}
    {env : Environment}
    {requests : Nat → Request}
    {configuration : Serving}
    {process : Nat}
    {choice : Choice}
    {operation : Operation}
    (named : Named configuration.state)
    (appended :
      appends backend configuration process choice operation = true)
    (kept :
      keepsLog env requests configuration process choice operation = true) :
    Expected env (requests process)
      (ledgerOf (configuration.trace.ofProcess process)) operation
      (execute backend choice configuration.state operation).1 := by
  cases operation with
  | getUserByIdentifierHash idHash =>
      rcases @lookUp_cases backend configuration.state choice idHash with
        ⟨e, failed⟩ | ⟨u, found, done⟩
      · rw [failed]
        trivial
      · have isUser : u ∈ configuration.state.store.users.rows := by
          rcases getUserByIdentifierHash_cases configuration.state.store idHash
            with missing | ⟨row, isFound, stored⟩
          · rw [missing] at found
            cases found
          · rw [isFound] at found
            cases found
            exact Table.mem_of_find? stored
        simp only [keepsLog, found] at kept
        rw [done]
        exact ⟨named u isUser, kept⟩
  | takeChallenge handle =>
      simp only [keepsLog] at kept
      have taken :
          (execute backend choice configuration.state
              (.takeChallenge handle)).1 =
            (takeChallenge choice.now configuration.state.waPending
              handle).1 :=
        rfl
      rw [taken]
      cases entry :
          (takeChallenge choice.now configuration.state.waPending
            handle).1 with
      | none => trivial
      | some entry =>
          rw [entry] at kept
          exact kept
  | appendAuditEvent e =>
      have succeeded :
          (execute backend choice configuration.state
              (.appendAuditEvent e)).1 = .ok () := by
        simpa [appends] using appended
      exact succeeded
  | _ => trivial

/--
In every run of the server whose events are appended and whose calls all keep the
log, every finished request that signs in is complete in the audit log.
-/
theorem signIns_audited
    {backend : Backend}
    {env : Environment}
    {requests : Nat → Request}
    {final : Serving}
    (reaches :
      Configuration.Reaches (execute backend)
        (beforeCall fun configuration process choice operation =>
          appends backend configuration process choice operation = true ∧
            keepsLog env requests configuration process choice operation = true)
        (serving env State.empty requests) final)
    {process : Nat}
    (isSignIn : (requests process).isSignIn = true)
    {response : Response}
    (finished : (final.pool process).outcome? = some response) :
    Audited env (requests process) (ledgerOf (final.trace.ofProcess process))
      response := by
  have ends := reaches.ends (audits_serve isSignIn) ?_
  · rw [Program.eq_done_of_outcome? finished] at ends
    exact ends
  · intro configuration operation next choice reached shape permitted
    obtain ⟨appended, kept⟩ := beforeCall_of_perform permitted shape
    exact expected_of_keepsLog (named_of_reaches reached) appended kept

/-- The id of an account that is registered with a zero source of random bytes. -/
def zeroID : String :=
  hexEncode (List.replicate 16 0)

/-- The handle of a challenge that is put with a source that begins with a byte. -/
def handleOf (byte : UInt8) : String :=
  hexEncode ((moment byte).bytes 16)

/-- A registration, a failed login, and an enrolled passkey that signs in. -/
def passkeySignIn (process : Nat) : Request :=
  match process with
  | 0 =>
      .register (some
        { identifier := "a"
          kdf := defaultKDF
          masterPasswordHash := "p"
          protectedUserKey := "k"
          publicKey := ""
          protectedPrivateKey := "" })
  | 1 =>
      .login (some
        { identifier := "a", masterPasswordHash := "wrong", totpCode := "" })
  | 2 => .webAuthnRegisterBegin zeroID
  | 3 =>
      .webAuthnRegisterFinish zeroID (some
        { sessionId := handleOf 2, name := "Passkey", credential := "c" })
  | 4 =>
      .webAuthnLoginBegin (some
        { identifier := "a", masterPasswordHash := "p" })
  | _ =>
      .webAuthnLoginFinish (some
        { identifier := "a", masterPasswordHash := "p"
          sessionId := handleOf 4, credential := "c" })

/-- The first requests, one after the other. -/
def firstRequests (count : Nat) : List (Nat × Choice) :=
  (List.range count).flatMap fun process =>
    List.replicate 10 (process, moment (UInt8.ofNat process))

/-- The failed login leaves one event in the log. -/
theorem failedLogin_audited :
    let final :=
      (serving passkeyEnvironment State.empty passkeySignIn).follow
        (execute .memory) (firstRequests 2)
    Audited passkeyEnvironment (passkeySignIn 1)
      (ledgerOf (final.trace.ofProcess 1))
      (writeError 401 "invalid credentials") := by
  intro final
  have reaches :
      Configuration.Reaches (execute .memory)
        (beforeCall fun configuration process choice operation =>
          appends .memory configuration process choice operation = true ∧
            keepsLog passkeyEnvironment passkeySignIn configuration process
              choice operation = true)
        (serving passkeyEnvironment State.empty passkeySignIn) final := by
    apply Configuration.Reaches.of_follow_allowed
    decide +kernel
  exact signIns_audited reaches rfl (by decide +kernel)

/-- The passkey signs in without an event. -/
theorem passkeySignIn_unaudited :
    ¬ ∀ (backend : Backend) (env : Environment) (requests : Nat → Request)
        (final : Serving) (process : Nat) (response : Response),
      Configuration.Reaches (execute backend)
          (beforeCall fun configuration process choice operation =>
            appends backend configuration process choice operation = true)
          (serving env State.empty requests) final →
        (requests process).isSignIn = true →
        (final.pool process).outcome? = some response →
        Audited env (requests process)
          (ledgerOf (final.trace.ofProcess process)) response := by
  intro audited
  let final :=
    (serving passkeyEnvironment State.empty passkeySignIn).follow
      (execute .memory) (firstRequests 6)
  have reaches :
      Configuration.Reaches (execute .memory)
        (beforeCall fun configuration process choice operation =>
          appends .memory configuration process choice operation = true)
        (serving passkeyEnvironment State.empty passkeySignIn) final := by
    apply Configuration.Reaches.of_follow_allowed
    decide +kernel
  have finished :
      ((final.pool 5).outcome?.any fun response => response.isLogin) =
        true := by
    decide +kernel
  obtain ⟨response, isResponse, isLogin⟩ := (Option.any_eq_true _ _).mp finished
  have complete :=
    audited .memory passkeyEnvironment passkeySignIn final 5 response reaches
      rfl isResponse
  obtain ⟨idHash, u, -, -, e, event, -⟩ := complete.success isLogin
  have noEvent : (ledgerOf (final.trace.ofProcess 5)).events = [] := by
    decide +kernel
  rw [noEvent] at event
  cases event

end Passwd.Server
