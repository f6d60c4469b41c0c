import Passwd.RefreshTokenRuns

namespace Passwd.Server

open Base64 Interaction

/-!
# On whose behalf a request acts

One more assertion about every call of every handler.  A request behind
`requireAuth` touches rows of the subject of its token only; a row that is
inserted names accounts that the request knows to exist, except in four handlers
that take the subject's word for it; a refresh token is created last, and by a
refresh only after the presented token was read and marked; and the lockout
tracker is written only under the identifier of the request, a failure only
after the identifier was found not to be locked.
-/

/-- The subject of the access token of a request behind `requireAuth`. -/
def Request.subject : Request → Option String
  | .deleteAccount userID => some userID
  | .listSessions userID => some userID
  | .logoutAll userID => some userID
  | .totpStatus userID => some userID
  | .totpSetup userID => some userID
  | .totpEnable userID _ => some userID
  | .totpDisable userID _ => some userID
  | .recoveryStatus userID => some userID
  | .recoveryEnable userID _ => some userID
  | .recoveryDisable userID => some userID
  | .webAuthnList userID => some userID
  | .webAuthnDelete userID _ => some userID
  | .webAuthnRegisterBegin userID => some userID
  | .webAuthnRegisterFinish userID _ => some userID
  | .auditLog userID => some userID
  | .lookupPublicKey userID _ => some userID
  | .createShare userID _ => some userID
  | .listShares userID => some userID
  | .deleteShare userID _ => some userID
  | .sync userID => some userID
  | .createCipher userID _ => some userID
  | .updateCipher userID _ _ => some userID
  | .deleteCipher userID _ => some userID
  | .prelogin _ | .register _ | .login _ | .refresh _ => none
  | .recoveryChallenge _ | .recoveryComplete _ => none
  | .webAuthnLoginBegin _ | .webAuthnLoginFinish _ => none

/-- A call concerns an account only, or no account's rows. -/
def Operation.IsFor (userID : String) : Operation → Prop
  | .getUserByID id => id = userID
  | .setUserTOTP id _ _ => id = userID
  | .setUserRecovery id _ _ => id = userID
  | .clearUserRecovery id => id = userID
  | .deleteAccount id => id = userID
  | .createWebAuthnCredential c => c.userID = userID
  | .listWebAuthnCredentials id => id = userID
  | .deleteWebAuthnCredential id _ => id = userID
  | .createCipher c => c.userID = userID
  | .updateCipher c => c.userID = userID
  | .deleteCipher id _ => id = userID
  | .listCiphers id => id = userID
  | .deleteRefreshTokensForUser id => id = userID
  | .listRefreshTokensForUser id => id = userID
  | .appendAuditEvent e => e.userID = userID
  | .listAuditEvents id _ => id = userID
  | .createShare sh => sh.ownerUserID = userID
  | .listSharesForRecipient id => id = userID
  | .deleteShare id _ => id = userID
  | .putChallenge _ id _ => id = userID
  | .getUserByIdentifierHash _ | .takeChallenge _ | .now | .random _ => True
  | _ => False

/-- The accounts that the row of an insertion names. -/
def Operation.refersTo : Operation → List String
  | .createWebAuthnCredential c => [c.userID]
  | .createCipher c => [c.userID]
  | .createRefreshToken rt => [rt.userID]
  | .appendAuditEvent e => [e.userID]
  | .createShare sh => [sh.ownerUserID, sh.recipientUserID]
  | _ => []

/-- A call writes to the lockout tracker. -/
def Operation.changesLockout : Operation → Bool
  | .recordFailure _ => true
  | .reset _ => true
  | _ => false

/-- The identifier hash that a sign-in attempt is counted under. -/
def Request.lockoutKey (env : Environment) : Request → Option String
  | .login (some req) => some (env.blindIdentifier req.identifier)
  | .recoveryComplete (some req) => some (env.blindIdentifier req.identifier)
  | .webAuthnLoginBegin (some req) => some (env.blindIdentifier req.identifier)
  | .webAuthnLoginFinish (some req) =>
      some (env.blindIdentifier req.identifier)
  | _ => none

/-!
## The assertion
-/

/-- An answer from which it follows that an account exists. -/
def shows (id : String) : Exchange calls → Prop
  | ⟨.getUserByIdentifierHash _, .ok u⟩ => u.id = id
  | ⟨.getUserByID userID, .ok _⟩ => userID = id
  | ⟨.getRefreshToken _, .ok rt⟩ => rt.userID = id
  | ⟨.createUser u, .ok _⟩ => u.id = id
  | ⟨.setUserRecovery userID _ _, .ok _⟩ => userID = id
  | ⟨.clearUserRecovery userID, .ok _⟩ => userID = id
  | ⟨.deleteWebAuthnCredential userID _, .ok _⟩ => userID = id
  | ⟨.updateCipher c, .ok _⟩ => c.userID = id
  | ⟨.deleteCipher userID _, .ok _⟩ => userID = id
  | _ => False

/-- The account that a handler inserts rows for without looking it up. -/
def Request.trusted : Request → Option String
  | .createCipher userID (some data) =>
      if userID = "" ∨ data = "" then none else some userID
  | .createShare userID (some req) =>
      if userID = "" ∨ req.recipientIdentifier = "" ∨ req.wrappedKey = "" ∨
          req.data = "" then
        none
      else
        some userID
  | .webAuthnRegisterFinish userID (some _) => some userID
  | .logoutAll userID => if userID = "" then none else some userID
  | _ => none

/-- A request knows that an account exists, or trusts its token to say so. -/
def Vouched
    (request : Request)
    (history : History calls)
    (id : String) :
    Prop :=
  request.trusted = some id ∨ ∃ exchange ∈ history, shows id exchange

/-- A refresh has read the presented token of an account and marked it. -/
def Redeemed
    (env : Environment)
    (history : History calls)
    (token userID : String) :
    Prop :=
  ∃ old answer,
    answered (.getRefreshToken (env.hashRefreshToken token)) (.ok old) ∈
        history ∧
      old.userID = userID ∧
      answered (.markRefreshTokenUsed (env.hashRefreshToken token)) answer ∈
        history

/-- What a request keeps to when it makes a call. -/
structure Scoped
    (env : Environment)
    (request : Request)
    (history : History calls)
    (operation : Operation) :
    Prop where
  subject : ∀ userID, request.subject = some userID → operation.IsFor userID
  vouched : ∀ id ∈ operation.refersTo, Vouched request history id
  tokenLast :
    operation.touches .refresh = true →
      request.issuesTokens = true →
        ∀ earlier ∈ history, earlier.operation.createdHash = none
  token :
    ∀ rt, operation = .createRefreshToken rt →
      rt.used = false ∧
        ∀ presented, request = .refresh (some presented) →
          Redeemed env history presented rt.userID
  marks :
    ∀ hash, operation = .markRefreshTokenUsed hash →
      ∃ presented rt,
        request = .refresh (some presented) ∧
          hash = env.hashRefreshToken presented ∧
          answered (.getRefreshToken hash) (.ok rt) ∈ history ∧
          rt.used = false
  failure :
    ∀ key, operation = .recordFailure key →
      request.lockoutKey env = some key ∧
        answered (.locked key) false ∈ history ∧
        ∀ earlier ∈ history, earlier.operation.changesLockout = false
  reset :
    ∀ key, operation = .reset key → request.lockoutKey env = some key
  enrolment :
    ∀ c, operation = .createWebAuthnCredential c →
      ∃ req, request = .webAuthnRegisterFinish c.userID (some req)

/-- A handler keeps to the scope of its request. -/
abbrev Acts
    {α : Type}
    (env : Environment)
    (request : Request)
    (history : History calls)
    (handler : Handler α) :
    Prop :=
  handler.Obeys (Scoped env request) (fun _ _ => True) history

/-- The calls that insert nothing and touch neither tokens nor the lockout. -/
def Operation.isIdle (operation : Operation) : Bool :=
  operation.refersTo.isEmpty && !operation.touches .refresh &&
    !operation.changesLockout

section Scoped

variable {env : Environment} {request : Request} {history : History calls}
  {operation : Operation} {userID : String}

/-- What was known stays known. -/
theorem Vouched.mono
    {later : History calls}
    (vouched : Vouched request history userID)
    (longer : history <+: later) :
    Vouched request later userID := by
  rcases vouched with trusted | ⟨exchange, member, isShown⟩
  · exact Or.inl trusted
  · exact Or.inr ⟨exchange, longer.subset member, isShown⟩

/-- What was known is known after one more exchange. -/
theorem Vouched.concat
    (vouched : Vouched request history userID)
    (exchange : Exchange calls) :
    Vouched request (history ++ [exchange]) userID :=
  vouched.mono (List.prefix_append _ _)

/-- The newest exchange may show that an account exists. -/
theorem vouched_of_newest
    {exchange : Exchange calls}
    (isShown : shows userID exchange) :
    Vouched request (history ++ [exchange]) userID :=
  Or.inr ⟨exchange, List.mem_append_right _ (List.mem_singleton_self _),
    isShown⟩

/-- A request behind `requireAuth` issues no tokens. -/
theorem issuesTokens_of_subject
    (isSubject : request.subject = some userID) :
    request.issuesTokens = false := by
  cases request
  all_goals first
    | rfl
    | cases isSubject

/-- An idle call needs to concern the subject, if there is one. -/
theorem scoped_of_idle
    (subject : ∀ userID, request.subject = some userID → operation.IsFor userID)
    (idle : operation.isIdle = true) :
    Scoped env request history operation := by
  simp only [Operation.isIdle, Bool.and_eq_true, Bool.not_eq_true',
    List.isEmpty_iff] at idle
  obtain ⟨⟨refersToNone, noToken⟩, noLockout⟩ := idle
  refine
    { subject := subject
      vouched := ?_
      tokenLast := ?_
      token := ?_
      marks := ?_
      failure := ?_
      reset := ?_
      enrolment := ?_ }
  · intro id member
    rw [refersToNone] at member
    cases member
  · intro touches
    rw [noToken] at touches
    cases touches
  · rintro rt rfl
    cases noToken
  · rintro hash rfl
    cases noToken
  · rintro key rfl
    cases noLockout
  · rintro key rfl
    cases noLockout
  · rintro c rfl
    cases refersToNone

/-- An idle call of a request without a subject. -/
theorem scoped_of_anonymous
    (anonymous : request.subject = none)
    (idle : operation.isIdle = true) :
    Scoped env request history operation := by
  refine scoped_of_idle ?_ idle
  intro userID isSubject
  rw [anonymous] at isSubject
  cases isSubject

/-- An idle call that concerns no account. -/
theorem scoped_of_free
    (isFree : ∀ userID, operation.IsFor userID)
    (idle : operation.isIdle = true) :
    Scoped env request history operation :=
  scoped_of_idle (fun userID _ => isFree userID) idle

/-- A call that concerns the subject of the request. -/
theorem scoped_of_isFor
    (isSubject : request.subject = some userID)
    (isFor : operation.IsFor userID)
    (vouched : ∀ id ∈ operation.refersTo, Vouched request history id)
    (enrolment :
      ∀ c, operation = .createWebAuthnCredential c →
        ∃ req, request = .webAuthnRegisterFinish c.userID (some req)) :
    Scoped env request history operation where
  subject := by
    intro other isOther
    rw [isSubject] at isOther
    cases isOther
    exact isFor
  vouched := vouched
  tokenLast := by
    intro _ issues
    rw [issuesTokens_of_subject isSubject] at issues
    cases issues
  token := by
    rintro rt rfl
    cases isFor
  marks := by
    rintro hash rfl
    cases isFor
  failure := by
    rintro key rfl
    cases isFor
  reset := by
    rintro key rfl
    cases isFor
  enrolment := enrolment

/-- A handler that concerns one account and inserts nothing. -/
abbrev OnlyFor {α : Type} (userID : String) (handler : Handler α) : Prop :=
  handler.Only fun operation : Operation =>
    operation.IsFor userID ∧ operation.refersTo = []

/-- Such a handler keeps to the scope of a request of that account. -/
theorem OnlyFor.acts
    {α : Type}
    {handler : Handler α}
    (onlyFor : OnlyFor userID handler)
    (isSubject : request.subject = some userID) :
    Acts env request history handler := by
  refine onlyFor.obeys ?_ fun _ _ _ => trivial
  rintro later operation - ⟨isFor, insertsNothing⟩
  refine scoped_of_isFor isSubject isFor ?_ ?_
  · intro id member
    rw [insertsNothing] at member
    cases member
  · rintro c rfl
    cases insertsNothing

/-- No refresh token was created in a history. -/
def Tokenless (history : History calls) : Prop :=
  ∀ earlier ∈ history, earlier.operation.createdHash = none

/-- A call that creates no token leaves the history without one. -/
theorem Tokenless.concat
    (tokenless : Tokenless history)
    {exchange : Exchange calls}
    (createsNone : exchange.operation.createdHash = none) :
    Tokenless (history ++ [exchange]) := by
  intro earlier member
  rcases List.mem_append.mp member with old | new
  · exact tokenless earlier old
  · rw [List.mem_singleton.mp new]
    exact createsNone

@[simp] theorem tokenless_nil : Tokenless [] := by
  intro earlier member
  cases member

/-- Auditing an account that is known to exist. -/
theorem audit_scoped
    {event detail : String}
    {result : History calls → Unit → Prop}
    (subject : ∀ id, request.subject = some id → userID = id)
    (vouched : Vouched request history userID)
    (afterwards :
      ∀ later done,
        history <+: later → (Tokenless history → Tokenless later) →
          result later done) :
    (audit userID event detail).Obeys (Scoped env request) result history := by
  unfold audit
  split
  · exact afterwards history () List.prefix_rfl id
  · refine ⟨scoped_of_free (fun _ => trivial) rfl, fun bytes => ?_⟩
    refine ⟨scoped_of_free (fun _ => trivial) rfl, fun now => ?_⟩
    have longer :=
      (List.prefix_append history
        [(⟨.random 16, bytes⟩ : Exchange calls)]).trans
          (List.prefix_append _ [(⟨.now, now⟩ : Exchange calls)])
    refine ⟨?_, fun appended => afterwards _ _ ?_ ?_⟩
    · refine
        { subject := subject
          vouched := ?_
          tokenLast := by rintro ⟨⟩
          token := by rintro rt ⟨⟩
          marks := by rintro hash ⟨⟩
          failure := by rintro key ⟨⟩
          reset := by rintro key ⟨⟩
          enrolment := by rintro c ⟨⟩ }
      intro id member
      rw [List.mem_singleton.mp member]
      exact vouched.mono longer
    · exact longer.trans (List.prefix_append _ _)
    · intro tokenless
      exact ((tokenless.concat rfl).concat rfl).concat rfl

/-- Auditing and then answering. -/
theorem audited_acts
    {event detail : String}
    {response : Response}
    (subject : ∀ id, request.subject = some id → userID = id)
    (vouched : Vouched request history userID) :
    Acts env request history
      (audit userID event detail >>= fun _ => .done response) :=
  Program.obeys_bind.mpr
    (audit_scoped subject vouched fun _ _ _ _ => trivial)

/-- Counting a failure of an identifier that was found not to be locked. -/
theorem scoped_recordFailure
    {key : String}
    (anonymous : request.subject = none)
    (isKey : request.lockoutKey env = some key)
    (notLocked : answered (.locked key) false ∈ history)
    (unchanged :
      ∀ earlier ∈ history, earlier.operation.changesLockout = false) :
    Scoped env request history (.recordFailure key) where
  subject := by
    intro id isSubject
    rw [anonymous] at isSubject
    cases isSubject
  vouched := by rintro id ⟨⟩
  tokenLast := by rintro ⟨⟩
  token := by rintro rt ⟨⟩
  marks := by rintro hash ⟨⟩
  failure := by
    rintro other ⟨⟩
    exact ⟨isKey, notLocked, unchanged⟩
  reset := by rintro other ⟨⟩
  enrolment := by rintro c ⟨⟩

/-- Forgetting the failures of the identifier of a request. -/
theorem scoped_reset
    {key : String}
    (anonymous : request.subject = none)
    (isKey : request.lockoutKey env = some key) :
    Scoped env request history (.reset key) where
  subject := by
    intro id isSubject
    rw [anonymous] at isSubject
    cases isSubject
  vouched := by rintro id ⟨⟩
  tokenLast := by rintro ⟨⟩
  token := by rintro rt ⟨⟩
  marks := by rintro hash ⟨⟩
  failure := by rintro other ⟨⟩
  reset := by
    rintro other ⟨⟩
    exact isKey
  enrolment := by rintro c ⟨⟩

/-- Deleting tokens before a token is created. -/
theorem scoped_deleteTokens
    (anonymous : request.subject = none)
    (tokenless :
      ∀ earlier ∈ history, earlier.operation.createdHash = none)
    (deletes :
      (∃ hash, operation = .deleteRefreshToken hash) ∨
        ∃ id, operation = .deleteRefreshTokensForUser id) :
    Scoped env request history operation := by
  refine
    { subject := ?_
      vouched := ?_
      tokenLast := fun _ _ => tokenless
      token := ?_
      marks := ?_
      failure := ?_
      reset := ?_
      enrolment := ?_ }
  · intro id isSubject
    rw [anonymous] at isSubject
    cases isSubject
  all_goals
    rcases deletes with ⟨hash, rfl⟩ | ⟨id, rfl⟩
    · rintro other ⟨⟩
    · rintro other ⟨⟩

/-- Issuing tokens to an account that is known to exist. -/
theorem issueTokens_scoped
    {result : History calls → Option (String × String) → Prop}
    (anonymous : request.subject = none)
    (vouched : Vouched request history userID)
    (tokenless : Tokenless history)
    (redeemed :
      ∀ presented, request = .refresh (some presented) →
        Redeemed env history presented userID)
    (afterwards : ∀ later issued, history <+: later → result later issued) :
    (issueTokens env userID).Obeys (Scoped env request) result history := by
  refine ⟨scoped_of_free (fun _ => trivial) rfl, fun issuedAt => ?_⟩
  refine ⟨scoped_of_free (fun _ => trivial) rfl, fun bytes => ?_⟩
  have drawn :=
    (List.prefix_append history
      [(⟨.now, issuedAt⟩ : Exchange calls)]).trans
        (List.prefix_append _ [(⟨.random 32, bytes⟩ : Exchange calls)])
  cases bytes with
  | none =>
      exact afterwards _ _ drawn
  | some bytes =>
      refine ⟨scoped_of_free (fun _ => trivial) rfl, fun now => ?_⟩
      have longer :=
        drawn.trans (List.prefix_append _ [(⟨.now, now⟩ : Exchange calls)])
      refine ⟨?_, fun created => ?_⟩
      · refine
          { subject := ?_
            vouched := ?_
            tokenLast := ?_
            token := ?_
            marks := by rintro hash ⟨⟩
            failure := by rintro key ⟨⟩
            reset := by rintro key ⟨⟩
            enrolment := by rintro c ⟨⟩ }
        · intro id isSubject
          rw [anonymous] at isSubject
          cases isSubject
        · intro id member
          rw [List.mem_singleton.mp member]
          exact vouched.mono longer
        · intro _ _
          exact ((tokenless.concat rfl).concat rfl).concat rfl
        · rintro rt ⟨⟩
          refine ⟨rfl, ?_⟩
          intro presented isRefresh
          obtain ⟨old, answer, read, sameAccount, marked⟩ :=
            redeemed presented isRefresh
          exact ⟨old, answer, longer.subset read, sameAccount,
            longer.subset marked⟩
      · cases created with
        | error e =>
            exact afterwards _ _ (longer.trans (List.prefix_append _ _))
        | ok done =>
            exact afterwards _ _ (longer.trans (List.prefix_append _ _))

end Scoped

/-!
## Sign-in attempts
-/

/--
A sign-in attempt that has found its identifier not to be locked, and has
neither counted anything nor created a token since.
-/
structure Attempting
    (env : Environment)
    (request : Request)
    (key : String)
    (history : History calls) :
    Prop where
  anonymous : request.subject = none
  notRefresh : ∀ req, request ≠ .refresh req
  isKey : request.lockoutKey env = some key
  notLocked : answered (.locked key) false ∈ history
  unchanged : ∀ earlier ∈ history, earlier.operation.changesLockout = false
  tokenless : Tokenless history

section Attempts

variable {env : Environment} {request : Request} {history : History calls}
  {key : String} {u : User}

/-- An attempt goes on after a call that neither counts nor creates a token. -/
theorem Attempting.concat
    (attempting : Attempting env request key history)
    {exchange : Exchange calls}
    (notCounted : exchange.operation.changesLockout = false)
    (noToken : exchange.operation.createdHash = none) :
    Attempting env request key (history ++ [exchange]) where
  anonymous := attempting.anonymous
  notRefresh := attempting.notRefresh
  isKey := attempting.isKey
  notLocked := List.mem_append_left _ attempting.notLocked
  unchanged := by
    intro earlier member
    rcases List.mem_append.mp member with old | new
    · exact attempting.unchanged earlier old
    · rw [List.mem_singleton.mp new]
      exact notCounted
  tokenless := attempting.tokenless.concat noToken

/-- An attempt begins when its identifier is found not to be locked. -/
theorem attempting_of_unlocked
    (anonymous : request.subject = none)
    (notRefresh : ∀ req, request ≠ .refresh req)
    (isKey : request.lockoutKey env = some key) :
    Attempting env request key [answered (.locked key) false] where
  anonymous := anonymous
  notRefresh := notRefresh
  isKey := isKey
  notLocked := List.mem_singleton_self _
  unchanged := by
    intro earlier member
    rw [List.mem_singleton.mp member]
    rfl
  tokenless := tokenless_nil.concat rfl

/-- An attempt has no subject. -/
theorem Attempting.no_subject
    (attempting : Attempting env request key history)
    {id userID : String}
    (isSubject : request.subject = some id) :
    userID = id := by
  rw [attempting.anonymous] at isSubject
  cases isSubject

/-- An attempt may count a failure. -/
theorem Attempting.recordFailure
    (attempting : Attempting env request key history) :
    Scoped env request history (.recordFailure key) :=
  scoped_recordFailure attempting.anonymous attempting.isKey
    attempting.notLocked attempting.unchanged

/-- An attempt may issue tokens to an account that it knows. -/
theorem Attempting.issueTokens
    {userID : String}
    {result : History calls → Option (String × String) → Prop}
    (attempting : Attempting env request key history)
    (vouched : Vouched request history userID)
    (afterwards : ∀ later issued, history <+: later → result later issued) :
    (issueTokens env userID).Obeys (Scoped env request) result history :=
  issueTokens_scoped attempting.anonymous vouched attempting.tokenless
    (fun _ isRefresh => absurd isRefresh (attempting.notRefresh _))
    afterwards

/-- The end of a login whose password is wrong. -/
theorem rejectPassword_acts
    (attempting : Attempting env request key history)
    (account : Option String)
    (vouched : ∀ userID ∈ account, Vouched request history userID) :
    Acts env request history (rejectPassword key account) := by
  refine ⟨attempting.recordFailure, fun recorded => ?_⟩
  cases account with
  | none =>
      trivial
  | some userID =>
      exact audited_acts (fun _ => attempting.no_subject)
        ((vouched userID rfl).mono (List.prefix_append _ _))

/-- The end of a login whose code is not accepted. -/
theorem rejectSecondFactor_acts
    (attempting : Attempting env request key history)
    (vouched : Vouched request history u.id) :
    Acts env request history (rejectSecondFactor key u.id) :=
  ⟨attempting.recordFailure, fun _ =>
    audited_acts (fun _ => attempting.no_subject)
      (vouched.mono (List.prefix_append _ _))⟩

/-- The end of a login whose factors are accepted. -/
theorem completeLogin_acts
    (attempting : Attempting env request key history)
    (vouched : Vouched request history u.id) :
    Acts env request history (completeLogin env key u) := by
  apply Program.obeys_bind.mpr
  apply attempting.issueTokens vouched
  intro later issued longer
  cases issued with
  | none =>
      trivial
  | some tokens =>
      refine ⟨scoped_reset attempting.anonymous attempting.isKey, fun _ => ?_⟩
      exact audited_acts (fun _ => attempting.no_subject)
        ((vouched.mono longer).mono (List.prefix_append _ _))

/-- Checking a code keeps an attempt going. -/
theorem verifyLoginTOTP_scoped
    {result : History calls → Option Nat → Prop}
    (attempting : Attempting env request key history)
    (code : String)
    (afterwards :
      ∀ later accepted,
        history <+: later → Attempting env request key later →
          result later accepted) :
    (verifyLoginTOTP env u code).Obeys (Scoped env request) result
      history := by
  unfold verifyLoginTOTP
  split
  · exact afterwards _ _ List.prefix_rfl attempting
  · refine ⟨scoped_of_free (fun _ => trivial) rfl, fun now => ?_⟩
    have going : Attempting env request key (history ++ [⟨.now, now⟩]) :=
      attempting.concat rfl rfl
    have longer := List.prefix_append history [(⟨.now, now⟩ : Exchange calls)]
    dsimp only [Program.bind_done]
    split
    · exact afterwards _ _ longer going
    · split
      · exact afterwards _ _ longer going
      · refine ⟨scoped_of_anonymous attempting.anonymous rfl, ?_⟩
        intro written
        cases written with
        | error e =>
            exact afterwards _ _ (longer.trans (List.prefix_append _ _))
              (going.concat rfl rfl)
        | ok done =>
            exact afterwards _ _ (longer.trans (List.prefix_append _ _))
              (going.concat rfl rfl)

/-- What a login does after its password was accepted. -/
theorem checkSecondFactor_acts
    (attempting : Attempting env request key history)
    (vouched : Vouched request history u.id)
    (totpCode : String) :
    Acts env request history (checkSecondFactor env key u totpCode) := by
  refine ⟨scoped_of_anonymous attempting.anonymous rfl, fun counted => ?_⟩
  have going :
      Attempting env request key
        (history ++ [⟨.countWebAuthnCredentials u.id, counted⟩]) :=
    attempting.concat rfl rfl
  have known := vouched.mono
    (List.prefix_append history
      [(⟨.countWebAuthnCredentials u.id, counted⟩ : Exchange calls)])
  dsimp only [Program.bind_done]
  cases counted
  all_goals
    dsimp only
    split
    · split
      · trivial
      · split
        · apply Program.obeys_bind.mpr
          apply verifyLoginTOTP_scoped going
          intro later accepted longer stillGoing
          cases accepted with
          | none =>
              exact rejectSecondFactor_acts stillGoing (known.mono longer)
          | some counter =>
              exact completeLogin_acts stillGoing (known.mono longer)
        · exact rejectSecondFactor_acts going known
    · exact completeLogin_acts going known

/-- `handleLogin` -/
theorem handleLogin_acts (req : Option LoginRequest) :
    Acts env (.login req) [] (handleLogin env req) := by
  cases req with
  | none =>
      trivial
  | some req =>
      refine ⟨scoped_of_anonymous rfl rfl, fun isLocked => ?_⟩
      dsimp only [Program.bind_done]
      cases isLocked with
      | true =>
          trivial
      | false =>
          have unlocked :=
            @attempting_of_unlocked env (.login (some req)) _ rfl
              (fun _ => Request.noConfusion) rfl
          refine ⟨scoped_of_anonymous rfl rfl, fun found => ?_⟩
          have going :
              Attempting env (.login (some req)) _
                (_ ++ [⟨.getUserByIdentifierHash
                  (env.blindIdentifier req.identifier), found⟩]) :=
            unlocked.concat rfl rfl
          dsimp only [Program.bind_done]
          cases found with
          | error e =>
              refine rejectPassword_acts going none ?_
              rintro userID ⟨⟩
          | ok u =>
              dsimp only [Program.bind_done]
              split
              · exact checkSecondFactor_acts going (vouched_of_newest rfl) _
              · refine rejectPassword_acts going (some u.id) ?_
                rintro userID ⟨⟩
                exact vouched_of_newest rfl

/-!
## Recovery and passkey logins
-/

/-- The end of a recovery whose code is wrong. -/
theorem rejectRecovery_acts
    (attempting : Attempting env request key history) :
    Acts env request history (rejectRecovery key) :=
  ⟨attempting.recordFailure, fun _ => trivial⟩

/-- The end of a passkey login whose password or passkey is wrong. -/
theorem rejectPasskeyLogin_acts
    (attempting : Attempting env request key history) :
    Acts env request history (rejectPasskeyLogin key) :=
  ⟨attempting.recordFailure, fun _ => trivial⟩

/-- A recovery whose code was accepted. -/
theorem rotateAccount_acts
    (attempting : Attempting env request key history)
    (vouched : Vouched request history u.id)
    (body : RecoveryCompleteRequest) :
    Acts env request history (rotateAccount env key u body) := by
  refine ⟨scoped_of_free (fun _ => trivial) rfl, fun salt => ?_⟩
  dsimp only [Program.bind_done]
  cases salt with
  | none =>
      trivial
  | some salt =>
      refine ⟨scoped_of_anonymous attempting.anonymous rfl, fun rotated => ?_⟩
      dsimp only [Program.bind_done]
      cases rotated with
      | error e =>
          trivial
      | ok done =>
          refine ⟨scoped_deleteTokens attempting.anonymous
            ((attempting.tokenless.concat rfl).concat rfl)
            (Or.inr ⟨_, rfl⟩), fun deleted => ?_⟩
          dsimp only [Program.bind_done]
          apply Program.obeys_bind.mpr
          refine audit_scoped (fun _ => attempting.no_subject)
            (((vouched.concat _).concat _).concat _) ?_
          intro later audited longer keepsTokenless
          apply Program.obeys_bind.mpr
          refine issueTokens_scoped attempting.anonymous
            ((((vouched.concat _).concat _).concat _).mono longer)
            (keepsTokenless ?_) ?_ ?_
          · exact
              ((attempting.tokenless.concat rfl).concat rfl).concat rfl
          · intro presented isRefresh
            exact absurd isRefresh (attempting.notRefresh _)
          · intro last issued _
            cases issued with
            | none =>
                trivial
            | some tokens =>
                exact ⟨scoped_reset attempting.anonymous attempting.isKey,
                  fun _ => trivial⟩

/-- `handleRecoveryComplete` -/
theorem handleRecoveryComplete_acts (req : Option RecoveryCompleteRequest) :
    Acts env (.recoveryComplete req) [] (handleRecoveryComplete env req) := by
  cases req with
  | none =>
      trivial
  | some req =>
      unfold handleRecoveryComplete
      dsimp only [Program.bind_done]
      split
      · trivial
      · refine ⟨scoped_of_anonymous rfl rfl, fun isLocked => ?_⟩
        dsimp only [Program.bind_done]
        cases isLocked with
        | true =>
            trivial
        | false =>
            have unlocked :=
              @attempting_of_unlocked env (.recoveryComplete (some req)) _ rfl
                (fun _ => Request.noConfusion) rfl
            refine ⟨scoped_of_anonymous rfl rfl, fun found => ?_⟩
            dsimp only [Program.bind_done]
            cases found with
            | error e =>
                exact rejectRecovery_acts (unlocked.concat rfl rfl)
            | ok u =>
                dsimp only [Program.bind_done]
                split
                · refine rotateAccount_acts (unlocked.concat rfl rfl) ?_ req
                  exact vouched_of_newest rfl
                · exact rejectRecovery_acts (unlocked.concat rfl rfl)

/-- Listing the passkeys of an account keeps an attempt going. -/
theorem webAuthnUserFor_scoped
    {userID : String}
    {result : History calls → Option (List Credential) → Prop}
    (attempting : Attempting env request key history)
    (afterwards :
      ∀ later credentials,
        history <+: later → Attempting env request key later →
          result later credentials) :
    (webAuthnUserFor userID).Obeys (Scoped env request) result history := by
  refine ⟨scoped_of_anonymous attempting.anonymous rfl, fun listed => ?_⟩
  cases listed with
  | error e =>
      exact afterwards _ _ (List.prefix_append _ _)
        (attempting.concat rfl rfl)
  | ok creds =>
      exact afterwards _ _ (List.prefix_append _ _)
        (attempting.concat rfl rfl)

/-- The end of a passkey login whose assertion is valid. -/
theorem completePasskeyLogin_acts
    (attempting : Attempting env request key history)
    (vouched : Vouched request history u.id)
    (cred : Credential) :
    Acts env request history (completePasskeyLogin env key u cred) := by
  refine ⟨scoped_of_anonymous attempting.anonymous rfl, fun updated => ?_⟩
  dsimp only [Program.bind_done]
  apply Program.obeys_bind.mpr
  refine (attempting.concat rfl rfl).issueTokens (vouched.concat _) ?_
  intro later issued _
  cases issued with
  | none =>
      trivial
  | some tokens =>
      exact ⟨scoped_reset attempting.anonymous attempting.isKey,
        fun _ => trivial⟩

/-- A passkey login whose password was accepted. -/
theorem checkAssertion_acts
    (webAuthn : WebAuthn)
    (attempting : Attempting env request key history)
    (vouched : Vouched request history u.id)
    (req : LoginFinishRequest) :
    Acts env request history (checkAssertion env webAuthn key u req) := by
  refine ⟨scoped_of_free (fun _ => trivial) rfl, fun taken => ?_⟩
  dsimp only [Program.bind_done]
  split
  · trivial
  · split
    · trivial
    · apply Program.obeys_bind.mpr
      apply webAuthnUserFor_scoped (attempting.concat rfl rfl)
      intro later credentials longer going
      cases credentials with
      | none =>
          trivial
      | some credentials =>
          dsimp only
          split
          · exact rejectPasskeyLogin_acts going
          · exact completePasskeyLogin_acts going
              ((vouched.concat _).mono longer) _

/-- `handleWebAuthnLoginFinish` -/
theorem handleWebAuthnLoginFinish_acts (req : Option LoginFinishRequest) :
    Acts env (.webAuthnLoginFinish req) []
      (handleWebAuthnLoginFinish env req) := by
  unfold handleWebAuthnLoginFinish
  split
  · trivial
  · cases req with
    | none =>
        trivial
    | some req =>
        refine ⟨scoped_of_anonymous rfl rfl, fun isLocked => ?_⟩
        dsimp only [Program.bind_done]
        cases isLocked with
        | true =>
            trivial
        | false =>
            have unlocked :=
              @attempting_of_unlocked env (.webAuthnLoginFinish (some req)) _
                rfl (fun _ => Request.noConfusion) rfl
            refine ⟨scoped_of_anonymous rfl rfl, fun found => ?_⟩
            dsimp only [Program.bind_done]
            cases found with
            | error e =>
                exact rejectPasskeyLogin_acts (unlocked.concat rfl rfl)
            | ok u =>
                dsimp only [Program.bind_done]
                split
                · refine checkAssertion_acts _ (unlocked.concat rfl rfl) ?_ req
                  exact vouched_of_newest rfl
                · exact rejectPasskeyLogin_acts (unlocked.concat rfl rfl)

/-- `handleWebAuthnLoginBegin` -/
theorem handleWebAuthnLoginBegin_acts (req : Option LoginBeginRequest) :
    Acts env (.webAuthnLoginBegin req) []
      (handleWebAuthnLoginBegin env req) := by
  unfold handleWebAuthnLoginBegin
  split
  · trivial
  · cases req with
    | none =>
        trivial
    | some req =>
        refine ⟨scoped_of_anonymous rfl rfl, fun isLocked => ?_⟩
        dsimp only [Program.bind_done]
        cases isLocked with
        | true =>
            trivial
        | false =>
            have unlocked :=
              @attempting_of_unlocked env (.webAuthnLoginBegin (some req)) _
                rfl (fun _ => Request.noConfusion) rfl
            refine ⟨scoped_of_anonymous rfl rfl, fun found => ?_⟩
            dsimp only [Program.bind_done]
            cases found with
            | error e =>
                exact rejectPasskeyLogin_acts (unlocked.concat rfl rfl)
            | ok u =>
                dsimp only [Program.bind_done]
                split
                · apply Program.obeys_bind.mpr
                  apply webAuthnUserFor_scoped (unlocked.concat rfl rfl)
                  intro later credentials _ _
                  rcases credentials with - | (- | ⟨first, rest⟩)
                  · trivial
                  · trivial
                  · refine ⟨scoped_of_free (fun _ => trivial) rfl, ?_⟩
                    intro entropy
                    dsimp only [Program.bind_done]
                    split
                    · trivial
                    · refine ⟨scoped_of_free (fun _ => trivial) rfl, ?_⟩
                      intro drawn
                      exact ⟨scoped_of_anonymous rfl rfl, fun _ => trivial⟩
                · exact rejectPasskeyLogin_acts (unlocked.concat rfl rfl)

end Attempts

/-!
## Refreshing, registering and reading without a token
-/

section Anonymous

variable {env : Environment}

/-- Marking the presented token after reading it unused. -/
theorem scoped_mark
    {presented : String}
    {history : History calls}
    {rt : RefreshToken}
    (tokenless : Tokenless history)
    (read :
      answered (.getRefreshToken (env.hashRefreshToken presented)) (.ok rt) ∈
        history)
    (unused : rt.used = false) :
    Scoped env (.refresh (some presented)) history
      (.markRefreshTokenUsed (env.hashRefreshToken presented)) where
  subject := by rintro id ⟨⟩
  vouched := by rintro id ⟨⟩
  tokenLast := fun _ _ => tokenless
  token := by rintro other ⟨⟩
  marks := by
    rintro hash ⟨⟩
    exact ⟨presented, rt, rfl, rfl, read, unused⟩
  failure := by rintro key ⟨⟩
  reset := by rintro key ⟨⟩
  enrolment := by rintro c ⟨⟩

/-- `handleRefresh` -/
theorem handleRefresh_acts (req : Option String) :
    Acts env (.refresh req) [] (handleRefresh env req) := by
  cases req with
  | none =>
      trivial
  | some token =>
      unfold handleRefresh
      dsimp only [Program.bind_done]
      split
      · trivial
      · refine ⟨scoped_of_idle (by rintro id ⟨⟩) rfl, fun found => ?_⟩
        dsimp only [Program.bind_done]
        cases found with
        | error e =>
            trivial
        | ok rt =>
            refine ⟨scoped_of_free (fun _ => trivial) rfl, fun now => ?_⟩
            have tokenless :
                Tokenless
                  ([] ++
                    [answered (.getRefreshToken (env.hashRefreshToken token))
                      (.ok rt)] ++ [answered .now now]) :=
              (tokenless_nil.concat rfl).concat rfl
            have read :
                answered (.getRefreshToken (env.hashRefreshToken token))
                    (.ok rt) ∈
                  [] ++
                    [answered (.getRefreshToken (env.hashRefreshToken token))
                      (.ok rt)] ++ [answered .now now] :=
              List.mem_append_left _ (List.mem_singleton_self _)
            have known : ∀ later : History calls,
                _ <+: later →
                  Vouched (.refresh (some token)) later rt.userID :=
              fun later longer => Or.inr ⟨_, longer.subset read, rfl⟩
            dsimp only [Program.bind_done]
            split
            · exact ⟨scoped_deleteTokens rfl tokenless (Or.inl ⟨_, rfl⟩),
                fun deleted => trivial⟩
            · split
              · refine ⟨scoped_deleteTokens rfl tokenless (Or.inr ⟨_, rfl⟩),
                  fun deleted => ?_⟩
                exact audited_acts (by rintro id ⟨⟩)
                  (known _ (List.prefix_append _ _))
              · rename_i unused
                refine ⟨scoped_mark tokenless read (by simpa using unused),
                  fun marked => ?_⟩
                dsimp only [Program.bind_done]
                apply Program.obeys_bind.mpr
                refine issueTokens_scoped rfl
                  (known _ (List.prefix_append _ _)) (tokenless.concat rfl)
                  ?_ ?_
                · rintro presented ⟨⟩
                  exact ⟨rt, marked, List.mem_append_left _ read, rfl,
                    List.mem_append_right _ (List.mem_singleton_self _)⟩
                · intro later issued _
                  cases issued with
                  | none => trivial
                  | some tokens => trivial

/-- `handleRegister` -/
theorem handleRegister_acts (req : Option RegisterRequest) :
    Acts env (.register req) [] (handleRegister env req) := by
  cases req with
  | none =>
      trivial
  | some req =>
      unfold handleRegister
      dsimp only
      split
      · trivial
      · refine ⟨scoped_of_free (fun _ => trivial) rfl, fun salt => ?_⟩
        cases salt with
        | none =>
            trivial
        | some salt =>
            refine ⟨scoped_of_free (fun _ => trivial) rfl, fun now => ?_⟩
            refine ⟨scoped_of_free (fun _ => trivial) rfl, fun drawn => ?_⟩
            refine ⟨scoped_of_anonymous rfl rfl, fun created => ?_⟩
            rcases created with (- | - | -) | -
            · trivial
            · trivial
            · trivial
            · exact audited_acts (by rintro id ⟨⟩) (vouched_of_newest rfl)

/-- `handlePrelogin` -/
theorem handlePrelogin_acts (req : Option String) :
    Acts env (.prelogin req) [] (handlePrelogin env req) := by
  cases req with
  | none =>
      trivial
  | some identifier =>
      refine ⟨scoped_of_free (fun _ => trivial) rfl, fun found => ?_⟩
      cases found with
      | error e => trivial
      | ok u => trivial

/-- `handleRecoveryChallenge` -/
theorem handleRecoveryChallenge_acts (req : Option String) :
    Acts env (.recoveryChallenge req) [] (handleRecoveryChallenge env req) := by
  cases req with
  | none =>
      trivial
  | some identifier =>
      refine ⟨scoped_of_free (fun _ => trivial) rfl, fun nonce => ?_⟩
      refine ⟨scoped_of_free (fun _ => trivial) rfl, fun data => ?_⟩
      refine ⟨scoped_of_free (fun _ => trivial) rfl, fun found => ?_⟩
      cases found with
      | error e =>
          trivial
      | ok u =>
          dsimp only [Program.bind_done]
          split
          · trivial
          · trivial

end Anonymous

/-!
## Requests of a subject that insert nothing
-/

/-- `handleDeleteAccount` -/
theorem onlyFor_handleDeleteAccount (userID : String) :
    OnlyFor userID (handleDeleteAccount userID) := by
  unfold handleDeleteAccount
  split
  · trivial
  · refine ⟨⟨rfl, rfl⟩, fun deleted => ?_⟩
    rcases deleted with (- | - | -) | -
    all_goals trivial

/-- `handleListSessions` -/
theorem onlyFor_handleListSessions (userID : String) :
    OnlyFor userID (handleListSessions userID) := by
  unfold handleListSessions
  split
  · trivial
  · refine ⟨⟨rfl, rfl⟩, fun listed => ?_⟩
    cases listed with
    | error e => trivial
    | ok tokens => trivial

/-- `handleTOTPStatus` -/
theorem onlyFor_handleTOTPStatus (userID : String) :
    OnlyFor userID (handleTOTPStatus userID) := by
  refine ⟨⟨rfl, rfl⟩, fun found => ?_⟩
  cases found with
  | error e => trivial
  | ok u => trivial

/-- `handleTOTPSetup` -/
theorem onlyFor_handleTOTPSetup (env : Environment) (userID : String) :
    OnlyFor userID (handleTOTPSetup env userID) := by
  refine ⟨⟨rfl, rfl⟩, fun found => ?_⟩
  cases found with
  | error e =>
      trivial
  | ok u =>
      dsimp only [Program.bind_done]
      split
      · trivial
      · refine ⟨⟨trivial, rfl⟩, fun bytes => ?_⟩
        cases bytes with
        | none =>
            trivial
        | some bytes =>
            refine ⟨⟨trivial, rfl⟩, fun nonce => ?_⟩
            cases nonce with
            | none =>
                trivial
            | some nonce =>
                refine ⟨⟨rfl, rfl⟩, fun written => ?_⟩
                cases written with
                | error e => trivial
                | ok done => trivial

/-- `handleRecoveryStatus` -/
theorem onlyFor_handleRecoveryStatus (userID : String) :
    OnlyFor userID (handleRecoveryStatus userID) := by
  refine ⟨⟨rfl, rfl⟩, fun found => ?_⟩
  cases found with
  | error e => trivial
  | ok u => trivial

/-- `handleWebAuthnList` -/
theorem onlyFor_handleWebAuthnList (userID : String) :
    OnlyFor userID (handleWebAuthnList userID) := by
  refine ⟨⟨rfl, rfl⟩, fun listed => ?_⟩
  cases listed with
  | error e => trivial
  | ok creds => trivial

/-- `webAuthnUserFor` -/
theorem onlyFor_webAuthnUserFor (userID : String) :
    OnlyFor userID (webAuthnUserFor userID) := by
  refine ⟨⟨rfl, rfl⟩, fun listed => ?_⟩
  cases listed with
  | error e => trivial
  | ok creds => trivial

/-- `handleWebAuthnRegisterBegin` -/
theorem onlyFor_handleWebAuthnRegisterBegin
    (env : Environment)
    (userID : String) :
    OnlyFor userID (handleWebAuthnRegisterBegin env userID) := by
  unfold handleWebAuthnRegisterBegin
  split
  · trivial
  · apply (onlyFor_webAuthnUserFor userID).bind
    intro waUser
    cases waUser with
    | none =>
        trivial
    | some credentials =>
        refine ⟨⟨trivial, rfl⟩, fun entropy => ?_⟩
        dsimp only [Program.bind_done]
        split
        · trivial
        · exact ⟨⟨trivial, rfl⟩, fun drawn => ⟨⟨rfl, rfl⟩, fun _ => trivial⟩⟩

/-- `handleAuditLog` -/
theorem onlyFor_handleAuditLog (userID : String) :
    OnlyFor userID (handleAuditLog userID) := by
  unfold handleAuditLog
  split
  · trivial
  · refine ⟨⟨rfl, rfl⟩, fun listed => ?_⟩
    cases listed with
    | error e => trivial
    | ok events => trivial

/-- The account that an identifier names is looked up for anyone. -/
theorem onlyFor_findRecipient
    (env : Environment)
    (userID identifier : String) :
    OnlyFor userID (findRecipient env identifier) := by
  refine ⟨⟨trivial, rfl⟩, fun found => ?_⟩
  cases found with
  | error e => trivial
  | ok u => trivial

/-- `handleLookupPublicKey` -/
theorem onlyFor_handleLookupPublicKey
    (env : Environment)
    (userID identifier : String) :
    OnlyFor userID (handleLookupPublicKey env userID identifier) := by
  unfold handleLookupPublicKey
  split
  · trivial
  · split
    · trivial
    · apply (onlyFor_findRecipient env userID identifier).bind
      intro recipient
      cases recipient with
      | none => trivial
      | some u => trivial

/-- `handleListShares` -/
theorem onlyFor_handleListShares (userID : String) :
    OnlyFor userID (handleListShares userID) := by
  unfold handleListShares
  split
  · trivial
  · refine ⟨⟨rfl, rfl⟩, fun listed => ?_⟩
    cases listed with
    | error e => trivial
    | ok shares => trivial

/-- `handleDeleteShare` -/
theorem onlyFor_handleDeleteShare (userID id : String) :
    OnlyFor userID (handleDeleteShare userID id) := by
  unfold handleDeleteShare
  split
  · trivial
  · refine ⟨⟨rfl, rfl⟩, fun deleted => ?_⟩
    rcases deleted with (- | - | -) | -
    all_goals trivial

/-- `handleSync` -/
theorem onlyFor_handleSync (userID : String) :
    OnlyFor userID (handleSync userID) := by
  unfold handleSync
  split
  · trivial
  · refine ⟨⟨rfl, rfl⟩, fun listed => ?_⟩
    cases listed with
    | error e => trivial
    | ok ciphers => trivial

/-!
## Requests of a subject that insert rows
-/

section Subjects

variable {env : Environment} {request : Request} {history : History calls}
  {userID : String}

/-- A call of the subject that inserts nothing. -/
theorem scoped_of_own
    {operation : Operation}
    (isSubject : request.subject = some userID)
    (isFor : operation.IsFor userID)
    (insertsNothing : operation.refersTo = []) :
    Scoped env request history operation := by
  refine scoped_of_isFor isSubject isFor ?_ ?_
  · intro id member
    rw [insertsNothing] at member
    cases member
  · rintro c rfl
    cases insertsNothing

/-- An insertion of a row of the subject alone. -/
theorem scoped_of_insertion
    {operation : Operation}
    (isSubject : request.subject = some userID)
    (isFor : operation.IsFor userID)
    (insertsOwn : operation.refersTo = [userID])
    (vouched : Vouched request history userID)
    (enrolment :
      ∀ c, operation = .createWebAuthnCredential c →
        ∃ req, request = .webAuthnRegisterFinish c.userID (some req)) :
    Scoped env request history operation := by
  refine scoped_of_isFor isSubject isFor ?_ enrolment
  intro id member
  rw [insertsOwn] at member
  rw [List.mem_singleton.mp member]
  exact vouched

/-- Auditing the subject and then answering. -/
theorem audited_subject_acts
    {event detail : String}
    {response : Response}
    (isSubject : request.subject = some userID)
    (vouched : Vouched request history userID) :
    Acts env request history
      (audit userID event detail >>= fun _ => .done response) := by
  refine audited_acts ?_ vouched
  intro id isOther
  rw [isSubject] at isOther
  exact Option.some.inj isOther

/-- `handleLogoutAll` -/
theorem handleLogoutAll_acts (userID : String) :
    Acts env (.logoutAll userID) [] (handleLogoutAll userID) := by
  unfold handleLogoutAll
  split
  · trivial
  · rename_i named
    refine ⟨scoped_of_own rfl rfl rfl, fun deleted => ?_⟩
    cases deleted with
    | error e =>
        trivial
    | ok done =>
        exact audited_subject_acts rfl (Or.inl (if_neg named))

/-- `handleTOTPEnable` -/
theorem handleTOTPEnable_acts (userID : String) (req : Option String) :
    Acts env (.totpEnable userID req) [] (handleTOTPEnable env userID req) := by
  cases req with
  | none =>
      trivial
  | some code =>
      refine ⟨scoped_of_own rfl rfl rfl, fun found => ?_⟩
      dsimp only [Program.bind_done]
      cases found with
      | error e =>
          trivial
      | ok u =>
          dsimp only [Program.bind_done]
          split
          · trivial
          · refine ⟨scoped_of_own rfl trivial rfl, fun now => ?_⟩
            dsimp only [Program.bind_done]
            split
            · trivial
            · refine ⟨scoped_of_own rfl rfl rfl, fun written => ?_⟩
              cases written with
              | error e =>
                  trivial
              | ok done =>
                  refine audited_subject_acts rfl
                    (Or.inr ⟨answered (.getUserByID userID) (.ok u), ?_, rfl⟩)
                  simp

/-- `handleTOTPDisable` -/
theorem handleTOTPDisable_acts (userID : String) (req : Option String) :
    Acts env (.totpDisable userID req) []
      (handleTOTPDisable env userID req) := by
  cases req with
  | none =>
      trivial
  | some code =>
      refine ⟨scoped_of_own rfl rfl rfl, fun found => ?_⟩
      dsimp only [Program.bind_done]
      cases found with
      | error e =>
          trivial
      | ok u =>
          dsimp only [Program.bind_done]
          split
          · trivial
          · refine ⟨scoped_of_own rfl trivial rfl, fun now => ?_⟩
            dsimp only [Program.bind_done]
            split
            · trivial
            · refine ⟨scoped_of_own rfl rfl rfl, fun written => ?_⟩
              cases written with
              | error e =>
                  trivial
              | ok done =>
                  refine audited_subject_acts rfl
                    (Or.inr ⟨answered (.getUserByID userID) (.ok u), ?_, rfl⟩)
                  simp

/-- `handleRecoveryEnable` -/
theorem handleRecoveryEnable_acts
    (userID : String)
    (req : Option RecoveryEnableRequest) :
    Acts env (.recoveryEnable userID req) []
      (handleRecoveryEnable env userID req) := by
  cases req with
  | none =>
      trivial
  | some req =>
      unfold handleRecoveryEnable
      dsimp only
      split
      · trivial
      · refine ⟨scoped_of_own rfl trivial rfl, fun salt => ?_⟩
        cases salt with
        | none =>
            trivial
        | some salt =>
            refine ⟨scoped_of_own rfl rfl rfl, fun written => ?_⟩
            cases written with
            | error e => trivial
            | ok done => exact audited_subject_acts rfl (vouched_of_newest rfl)

/-- `handleRecoveryDisable` -/
theorem handleRecoveryDisable_acts (userID : String) :
    Acts env (.recoveryDisable userID) [] (handleRecoveryDisable userID) := by
  refine ⟨scoped_of_own rfl rfl rfl, fun cleared => ?_⟩
  cases cleared with
  | error e => trivial
  | ok done => exact audited_subject_acts rfl (vouched_of_newest rfl)

/-- `handleWebAuthnDelete` -/
theorem handleWebAuthnDelete_acts (userID id : String) :
    Acts env (.webAuthnDelete userID id) []
      (handleWebAuthnDelete userID id) := by
  refine ⟨scoped_of_own rfl rfl rfl, fun deleted => ?_⟩
  rcases deleted with (- | - | -) | -
  · trivial
  · trivial
  · trivial
  · exact audited_subject_acts rfl (vouched_of_newest rfl)

/-- `handleWebAuthnRegisterFinish` -/
theorem handleWebAuthnRegisterFinish_acts
    (userID : String)
    (req : Option RegisterFinishRequest) :
    Acts env (.webAuthnRegisterFinish userID req) []
      (handleWebAuthnRegisterFinish env userID req) := by
  unfold handleWebAuthnRegisterFinish
  split
  · trivial
  · cases req with
    | none =>
        trivial
    | some req =>
        refine ⟨scoped_of_own rfl trivial rfl, fun taken => ?_⟩
        dsimp only [Program.bind_done]
        split
        · trivial
        · split
          · trivial
          · refine ⟨scoped_of_own rfl rfl rfl, fun listed => ?_⟩
            cases listed with
            | error e =>
                trivial
            | ok creds =>
                dsimp only [Program.pure_eq_done, Program.bind_done]
                split
                · trivial
                · refine ⟨scoped_of_own rfl trivial rfl, fun now => ?_⟩
                  refine ⟨scoped_of_own rfl trivial rfl, fun drawn => ?_⟩
                  refine ⟨scoped_of_insertion rfl rfl rfl (Or.inl rfl) ?_, ?_⟩
                  · rintro c ⟨⟩
                    exact ⟨req, rfl⟩
                  · rintro ((- | - | -) | -)
                    · trivial
                    · trivial
                    · trivial
                    · exact audited_subject_acts rfl (Or.inl rfl)

/-- `handleCreateShare` -/
theorem handleCreateShare_acts
    (userID : String)
    (req : Option CreateShareRequest) :
    Acts env (.createShare userID req) []
      (handleCreateShare env userID req) := by
  unfold handleCreateShare
  split
  · trivial
  · rename_i named
    cases req with
    | none =>
        trivial
    | some req =>
        dsimp only
        split
        · trivial
        · rename_i complete
          have trusted :
              (Request.createShare userID (some req)).trusted =
                some userID :=
            if_neg (not_or.mpr ⟨named, complete⟩)
          refine ⟨scoped_of_own rfl trivial rfl, fun found => ?_⟩
          cases found with
          | error e =>
              trivial
          | ok u =>
              dsimp only [Program.pure_eq_done, Program.bind_done]
              by_cases keyless : u.publicKey = ""
              · rw [if_pos keyless]
                trivial
              · rw [if_neg keyless]
                refine ⟨scoped_of_own rfl trivial rfl, fun drawn => ?_⟩
                refine ⟨scoped_of_own rfl trivial rfl, fun now => ?_⟩
                refine ⟨scoped_of_isFor rfl rfl ?_ (by rintro c ⟨⟩), ?_⟩
                · intro id member
                  rcases List.mem_cons.mp member with rfl | isRecipient
                  · exact Or.inl trusted
                  · rw [List.mem_singleton.mp isRecipient]
                    exact Or.inr ⟨_, List.mem_cons_self, rfl⟩
                · rintro (- | -)
                  · trivial
                  · exact audited_subject_acts rfl (Or.inl trusted)

/-- `handleCreateCipher` -/
theorem handleCreateCipher_acts
    (userID : String)
    (req : Option String) :
    Acts env (.createCipher userID req) [] (handleCreateCipher userID req) := by
  unfold handleCreateCipher
  split
  · trivial
  · rename_i named
    cases req with
    | none =>
        trivial
    | some data =>
        dsimp only
        split
        · trivial
        · rename_i given
          have trusted :
              (Request.createCipher userID (some data)).trusted =
                some userID :=
            if_neg (not_or.mpr ⟨named, given⟩)
          refine ⟨scoped_of_own rfl trivial rfl, fun now => ?_⟩
          refine ⟨scoped_of_own rfl trivial rfl, fun drawn => ?_⟩
          refine ⟨scoped_of_insertion rfl rfl rfl (Or.inl trusted)
            (by rintro c ⟨⟩), ?_⟩
          rintro (- | -)
          · trivial
          · exact audited_subject_acts rfl (Or.inl trusted)

/-- `handleUpdateCipher` -/
theorem handleUpdateCipher_acts
    (userID id : String)
    (req : Option String) :
    Acts env (.updateCipher userID id req) []
      (handleUpdateCipher userID id req) := by
  unfold handleUpdateCipher
  split
  · trivial
  · cases req with
    | none =>
        trivial
    | some data =>
        dsimp only
        split
        · trivial
        · refine ⟨scoped_of_own rfl trivial rfl, fun now => ?_⟩
          refine ⟨scoped_of_own rfl rfl rfl, ?_⟩
          rintro ((- | - | -) | -)
          · trivial
          · trivial
          · trivial
          · exact audited_subject_acts rfl (vouched_of_newest rfl)

/-- `handleDeleteCipher` -/
theorem handleDeleteCipher_acts (userID id : String) :
    Acts env (.deleteCipher userID id) [] (handleDeleteCipher userID id) := by
  unfold handleDeleteCipher
  split
  · trivial
  · refine ⟨scoped_of_own rfl rfl rfl, ?_⟩
    rintro ((- | - | -) | -)
    · trivial
    · trivial
    · trivial
    · exact audited_subject_acts rfl (vouched_of_newest rfl)

end Subjects

/-!
## Every request
-/

/-- Every handler keeps to the scope of its request. -/
theorem serve_acts (env : Environment) (request : Request) :
    Acts env request [] (serve env request) := by
  cases request with
  | prelogin req =>
      exact handlePrelogin_acts req
  | register req =>
      exact handleRegister_acts req
  | login req =>
      exact handleLogin_acts req
  | refresh req =>
      exact handleRefresh_acts req
  | deleteAccount userID =>
      exact (onlyFor_handleDeleteAccount userID).acts rfl
  | listSessions userID =>
      exact (onlyFor_handleListSessions userID).acts rfl
  | logoutAll userID =>
      exact handleLogoutAll_acts userID
  | recoveryChallenge req =>
      exact handleRecoveryChallenge_acts req
  | recoveryComplete req =>
      exact handleRecoveryComplete_acts req
  | totpStatus userID =>
      exact (onlyFor_handleTOTPStatus userID).acts rfl
  | totpSetup userID =>
      exact (onlyFor_handleTOTPSetup env userID).acts rfl
  | totpEnable userID req =>
      exact handleTOTPEnable_acts userID req
  | totpDisable userID req =>
      exact handleTOTPDisable_acts userID req
  | recoveryStatus userID =>
      exact (onlyFor_handleRecoveryStatus userID).acts rfl
  | recoveryEnable userID req =>
      exact handleRecoveryEnable_acts userID req
  | recoveryDisable userID =>
      exact handleRecoveryDisable_acts userID
  | webAuthnList userID =>
      exact (onlyFor_handleWebAuthnList userID).acts rfl
  | webAuthnDelete userID id =>
      exact handleWebAuthnDelete_acts userID id
  | webAuthnRegisterBegin userID =>
      exact (onlyFor_handleWebAuthnRegisterBegin env userID).acts rfl
  | webAuthnRegisterFinish userID req =>
      exact handleWebAuthnRegisterFinish_acts userID req
  | webAuthnLoginBegin req =>
      exact handleWebAuthnLoginBegin_acts req
  | webAuthnLoginFinish req =>
      exact handleWebAuthnLoginFinish_acts req
  | auditLog userID =>
      exact (onlyFor_handleAuditLog userID).acts rfl
  | lookupPublicKey userID identifier =>
      exact (onlyFor_handleLookupPublicKey env userID identifier).acts rfl
  | createShare userID req =>
      exact handleCreateShare_acts userID req
  | listShares userID =>
      exact (onlyFor_handleListShares userID).acts rfl
  | deleteShare userID id =>
      exact (onlyFor_handleDeleteShare userID id).acts rfl
  | sync userID =>
      exact (onlyFor_handleSync userID).acts rfl
  | createCipher userID req =>
      exact handleCreateCipher_acts userID req
  | updateCipher userID id req =>
      exact handleUpdateCipher_acts userID id req
  | deleteCipher userID id =>
      exact handleDeleteCipher_acts userID id

end Passwd.Server
