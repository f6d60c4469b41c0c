import Passwd.ServerRuns

namespace Passwd.Server

open Base64 Interaction

/-!
# Who is given tokens

Every request of a server is examined under every pattern of failing calls.
Tokens are issued for an account to a request that proved the factors which the
account asks for, with one exception: a login without a code goes through when
the passkeys of the account cannot be counted.
-/

/-- A call that issues a refresh token for an account. -/
def issues (userID : String) : Exchange calls → Bool
  | ⟨.createRefreshToken rt, .ok _⟩ => rt.userID = userID
  | _ => false

/-- Tokens were issued for an account. -/
def issued (userID : String) (history : History calls) : Bool :=
  history.any (issues userID)

/-- Whether an account has a passkey. -/
def Store.hasPasskey (store : Store) (userID : String) : Bool :=
  store.passkeys.rows.any fun c => c.userID = userID

/-- A login's code was fresh, and its time step is now used up. -/
def CodeConsumed
    (env : Environment)
    (history : History calls)
    (u : User)
    (code : String) :
    Prop :=
  ∃ secret now counter,
    env.decryptSecret u.totpSecret = some secret ∧
    answered .now now ∈ history ∧
    env.verifyTOTPAt secret code now = some counter ∧
    u.totpLastCounter < counter ∧
    answered (.setUserTOTPCounter u.id counter) (.ok ()) ∈ history

/-- A passkey assertion was validated against a pending challenge. -/
def AssertionAccepted
    (env : Environment)
    (history : History calls)
    (u : User)
    (req : LoginFinishRequest) :
    Prop :=
  ∃ webAuthn entry parsed creds cred,
    env.webAuthn = some webAuthn ∧
    answered (.takeChallenge req.sessionId) (some entry) ∈ history ∧
    entry.userID = u.id ∧
    webAuthn.parseAssertion req.credential = some parsed ∧
    answered (.listWebAuthnCredentials u.id) (.ok creds) ∈ history ∧
    webAuthn.validateLogin u.id (creds.map toWebAuthnCredential) entry.data
      parsed = some cred

/-- What entitles a request to tokens for an account. -/
def Entitled
    (env : Environment)
    (store : Store)
    (userID : String)
    (history : History calls) :
    Request → Prop
  | .login (some req) =>
      ∃ u,
        store.users.find? userID = some u ∧
        u.identifierHash = env.blindIdentifier req.identifier ∧
        env.verifyVerifier u.masterPasswordVerifier req.masterPasswordHash =
          some true ∧
        (u.totpEnabled = true ∨ store.hasPasskey userID = true →
          CodeConsumed env history u req.totpCode)
  | .webAuthnLoginFinish (some req) =>
      ∃ u,
        store.users.find? userID = some u ∧
        u.identifierHash = env.blindIdentifier req.identifier ∧
        env.verifyVerifier u.masterPasswordVerifier req.masterPasswordHash =
          some true ∧
        AssertionAccepted env history u req
  | .recoveryComplete (some req) =>
      ∃ u,
        store.users.find? userID = some u ∧
        u.identifierHash = env.blindIdentifier req.identifier ∧
        u.recoveryVerifier ≠ "" ∧
        env.verifyVerifier u.recoveryVerifier req.recoveryAuthHash = some true
  | .refresh (some token) =>
      ∃ rt now,
        store.refresh.find? (env.hashRefreshToken token) = some rt ∧
        rt.userID = userID ∧
        rt.used = false ∧
        answered .now now ∈ history ∧
        now ≤ rt.expiresAt
  | _ => False

/-- The row that `issueTokens` creates. -/
def newRefreshToken
    (env : Environment)
    (userID : String)
    (choices : Nat → Choice) :
    RefreshToken where
  tokenHash :=
    env.hashRefreshToken (Environment.jwtB64 ((choices 1).bytes 32))
  userID := userID
  expiresAt := (choices 2).now + refreshTokenTTL
  createdAt := (choices 2).now
  used := false

/-- The calls of `issueTokens` succeed. -/
def TokenStored
    (backend : Backend)
    (env : Environment)
    (state : State)
    (userID : String)
    (choices : Nat → Choice) :
    Prop :=
  (choices 1).fails (.random 32) = false ∧
    (execute backend (choices 3) state
      (.createRefreshToken (newRefreshToken env userID choices))).1 = .ok ()

/--
A login with the right password of an account that has passkeys but no codes,
in which counting the passkeys fails and the other calls succeed.
-/
def SkipsSecondFactor
    (backend : Backend)
    (env : Environment)
    (state : State)
    (request : Request)
    (choices : Nat → Choice) :
    Prop :=
  ∃ req u,
    request = .login (some req) ∧
    locked (choices 0).now state.lockout
      (env.blindIdentifier req.identifier) = false ∧
    (execute backend (choices 1) state
      (.getUserByIdentifierHash (env.blindIdentifier req.identifier))).1 =
        .ok u ∧
    env.verifyVerifier u.masterPasswordVerifier req.masterPasswordHash =
      some true ∧
    u.totpEnabled = false ∧
    state.store.hasPasskey u.id = true ∧
    (choices 2).fails (.countWebAuthnCredentials u.id) = true ∧
    TokenStored backend env state u.id fun index => choices (index + 3)

section Issuing

variable {backend : Backend} {env : Environment} {userID : String}
  {choices : Nat → Choice} {state : State}

/-- A sequence issues what its parts issue. -/
theorem issued_bind
    {α β : Type}
    (handler : Handler α)
    (next : α → Handler β) :
    issued userID
        ((handler >>= next).run (execute backend) choices state).history =
      let first := handler.run (execute backend) choices state
      (issued userID first.history ||
        issued userID
          ((next first.value).run (execute backend)
            (fun index => choices (first.history.length + index))
            first.state).history) := by
  rw [Program.run_bind]
  simp only [issued, List.any_append]

/-- A handler that creates no refresh token issues nothing. -/
theorem issued_of_only
    {α : Type}
    {selected : Operation → Prop}
    {handler : Handler α}
    (only : handler.Only selected)
    (silent : ∀ rt, ¬ selected (.createRefreshToken rt)) :
    issued userID (handler.run (execute backend) choices state).history =
      false := by
  apply List.any_eq_false.mpr
  intro exchange member isIssue
  have isSelected := only.run choices state exchange member
  unfold issues at isIssue
  split at isIssue
  · exact silent _ isSelected
  · cases isIssue

/-- Plain calls issue nothing. -/
theorem issued_of_onlyPlain
    {α : Type}
    {handler : Handler α}
    (onlyPlain : OnlyPlain handler) :
    issued userID (handler.run (execute backend) choices state).history =
      false := by
  apply issued_of_only onlyPlain
  intro rt plain
  cases plain

/-- When `issueTokens` issues tokens, and for whom. -/
theorem issued_issueTokens_iff (id : String) :
    issued userID
        ((issueTokens env id).run (execute backend) choices state).history =
          true ↔
      id = userID ∧ TokenStored backend env state id choices := by
  by_cases drawn : (choices 1).fails (.random 32) = true
  · simp [issueTokens, generateRefreshToken, drawn, issued, issues,
      TokenStored]
  · rcases created :
        (execute backend (choices 3) state
          (.createRefreshToken (newRefreshToken env id choices))).1 with
      e | done
    · simp only [newRefreshToken] at created
      simp [issueTokens, generateRefreshToken, drawn, issued, issues,
        TokenStored, newRefreshToken, created]
    · simp only [newRefreshToken] at created
      simp [issueTokens, generateRefreshToken, drawn, issued, issues,
        TokenStored, newRefreshToken, created]

/-- What follows `issueTokens` with plain calls issues nothing more. -/
theorem issued_issueTokens_bind
    {β : Type}
    {next : Option (String × String) → Handler β}
    (plain : ∀ tokens, OnlyPlain (next tokens))
    (id : String) :
    issued userID
        ((issueTokens env id >>= next).run (execute backend) choices
          state).history =
      issued userID
        ((issueTokens env id).run (execute backend) choices
          state).history := by
  rw [issued_bind]
  exact
    (congrArg (Bool.or _) (issued_of_onlyPlain (plain _))).trans
      (Bool.or_false _)

/-!
## Login
-/

/-- Completing a login issues what `issueTokens` issues. -/
theorem issued_completeLogin (idHash : String) (u : User) :
    issued userID
        ((completeLogin env idHash u).run (execute backend) choices
          state).history =
      issued userID
        ((issueTokens env u.id).run (execute backend) choices
          state).history := by
  apply issued_issueTokens_bind
  rintro (- | ⟨access, refresh⟩)
  · trivial
  · refine ⟨rfl, fun done => ?_⟩
    exact onlyPlain_audited _ _ _ _

/-- Checking a code issues nothing. -/
theorem issued_verifyLoginTOTP (u : User) (code : String) :
    issued userID
        ((verifyLoginTOTP env u code).run (execute backend) choices
          state).history = false := by
  have only :
      (verifyLoginTOTP env u code).Only fun operation : Operation =>
        ∀ rt, operation ≠ .createRefreshToken rt := by
    apply only_verifyLoginTOTP
    · rintro rt ⟨⟩
    · rintro counter rt ⟨⟩
  apply issued_of_only only
  intro rt notCreate
  exact notCreate rt rfl

/-- A code that a login accepts is used up. -/
theorem codeConsumed_of_verifyLoginTOTP
    {u : User}
    {code : String}
    {counter : Nat}
    (accepts :
      ((verifyLoginTOTP env u code).run (execute backend) choices
        state).value = some counter) :
    CodeConsumed env
      ((verifyLoginTOTP env u code).run (execute backend) choices
        state).history u code := by
  have obeys :
      (verifyLoginTOTP env u code).Obeys (fun _ _ => True)
        (fun history accepted =>
          ∀ counter, accepted = some counter →
            CodeConsumed env history u code) [] := by
    unfold verifyLoginTOTP
    split
    · rintro counter ⟨⟩
    · rename_i secret opened
      refine ⟨trivial, fun now => ?_⟩
      dsimp only [Program.bind_done]
      split
      · rintro counter ⟨⟩
      · rename_i counter matched
        split
        · rintro counter ⟨⟩
        · rename_i later
          refine ⟨trivial, fun written => ?_⟩
          cases written with
          | error e =>
              rintro counter ⟨⟩
          | ok done =>
              intro accepted _
              refine ⟨secret, now, counter, opened, ?_, matched,
                Nat.lt_of_not_le later, ?_⟩
              · simp
              · simp
  exact obeys.run choices state counter accepts

/-- Counting the passkeys of an account. -/
theorem execute_countWebAuthnCredentials (choice : Choice) (id : String) :
    execute backend choice state (.countWebAuthnCredentials id) =
      if choice.fails (.countWebAuthnCredentials id) then
        (.error .failure, state)
      else
        (.ok (state.store.passkeys.rows.filter fun c => c.userID = id).length,
          state) := by
  unfold execute attempt
  rfl

/-- An account has a passkey when the count is positive. -/
theorem decide_count_pos (store : Store) (id : String) :
    decide (0 < (store.passkeys.rows.filter fun c => c.userID = id).length) =
      store.hasPasskey id := by
  rw [Bool.eq_iff_iff, decide_eq_true_iff, List.length_pos_iff_exists_mem,
    Store.hasPasskey, List.any_eq_true]
  simp only [List.mem_filter]

/-- What a login does when it asks for no second factor. -/
theorem issued_checkSecondFactor_of_single
    {u : User}
    (noCodes : u.totpEnabled = false)
    (noPasskey :
      (choices 0).fails (.countWebAuthnCredentials u.id) = true ∨
        state.store.hasPasskey u.id = false)
    (idHash code : String) :
    issued userID
        ((checkSecondFactor env idHash u code).run (execute backend) choices
          state).history = true ↔
      u.id = userID ∧
        TokenStored backend env state u.id fun index =>
          choices (index + 1) := by
  rw [← issued_issueTokens_iff, ← issued_completeLogin idHash u]
  by_cases failed :
      (choices 0).fails (.countWebAuthnCredentials u.id) = true
  · simp [checkSecondFactor, execute_countWebAuthnCredentials, failed,
      noCodes, issued, issues]
  · have none := noPasskey.resolve_left failed
    simp only [checkSecondFactor, perform_bind, Program.run_perform,
      execute_countWebAuthnCredentials, if_neg failed, decide_count_pos, none,
      noCodes]
    simp only [issued, List.any_cons, issues]
    simp

/-- Counting passkeys leaves the state alone. -/
theorem exists_counted (choice : Choice) (id : String) :
    ∃ counted,
      execute backend choice state (.countWebAuthnCredentials id) =
        (counted, state) := by
  rw [execute_countWebAuthnCredentials]
  split
  · exact ⟨_, rfl⟩
  · exact ⟨_, rfl⟩

/-- A used code stays used as the history grows. -/
theorem CodeConsumed.mono
    {history later : History calls}
    {u : User}
    {code : String}
    (consumed : CodeConsumed env history u code)
    (longer : history ⊆ later) :
    CodeConsumed env later u code := by
  obtain ⟨secret, now, counter, opened, isRead, matched, isLater, written⟩ :=
    consumed
  exact ⟨secret, now, counter, opened, longer isRead, matched, isLater,
    longer written⟩

/-- An account with codes is issued tokens after a fresh code only. -/
theorem consumed_of_issued
    {u : User}
    {idHash code : String}
    (enabled : u.totpEnabled = true)
    (isIssued :
      issued userID
        ((checkSecondFactor env idHash u code).run (execute backend) choices
          state).history = true) :
    u.id = userID ∧
      CodeConsumed env
        ((checkSecondFactor env idHash u code).run (execute backend) choices
          state).history u code := by
  obtain ⟨counted, answer⟩ :=
    @exists_counted backend state (choices 0) u.id
  simp only [checkSecondFactor, perform_bind, Program.run_perform, answer,
    enabled, Bool.true_or, ↓reduceIte, issued, List.any_cons, issues,
    Bool.false_or] at isIssued ⊢
  by_cases noCode : code = ""
  · simp [noCode] at isIssued
  · simp only [noCode, ↓reduceIte] at isIssued ⊢
    rw [← issued, issued_bind] at isIssued
    dsimp only at isIssued
    rw [issued_verifyLoginTOTP, Bool.false_or] at isIssued
    rw [Program.run_bind]
    cases accepts :
        ((verifyLoginTOTP env u code).run (execute backend)
          (fun index => choices (index + 1)) state).value with
    | none =>
        rw [accepts, issued_of_onlyPlain (onlyPlain_rejectSecondFactor _ _)]
          at isIssued
        cases isIssued
    | some counter =>
        rw [accepts] at isIssued
        dsimp only at isIssued
        rw [issued_completeLogin, issued_issueTokens_iff] at isIssued
        refine ⟨isIssued.1, ?_⟩
        refine (codeConsumed_of_verifyLoginTOTP accepts).mono ?_
        intro exchange member
        exact List.mem_cons_of_mem _ (List.mem_append_left _ member)

/-- An account with passkeys and no codes is issued nothing by a login. -/
theorem not_issued_of_passkey
    {u : User}
    {idHash code : String}
    (noCodes : u.totpEnabled = false)
    (counts : (choices 0).fails (.countWebAuthnCredentials u.id) = false)
    (hasPasskey : state.store.hasPasskey u.id = true) :
    issued userID
      ((checkSecondFactor env idHash u code).run (execute backend) choices
        state).history = false := by
  simp only [checkSecondFactor, perform_bind, Program.run_perform,
    execute_countWebAuthnCredentials, counts, decide_count_pos, hasPasskey,
    noCodes, issued, List.any_cons, issues, Bool.false_or, ↓reduceIte,
    Bool.false_eq_true]
  by_cases noCode : code = ""
  · simp [noCode]
  · simp only [noCode, ↓reduceIte]
    exact issued_of_onlyPlain (onlyPlain_rejectSecondFactor _ _)

/-- What a login that issues tokens has checked as its second factor. -/
theorem checked_of_issued
    {u : User}
    {idHash code : String}
    (isIssued :
      issued userID
        ((checkSecondFactor env idHash u code).run (execute backend) choices
          state).history = true) :
    u.id = userID ∧
      (CodeConsumed env
          ((checkSecondFactor env idHash u code).run (execute backend) choices
            state).history u code ∨
        u.totpEnabled = false ∧
          ((choices 0).fails (.countWebAuthnCredentials u.id) = true ∨
            state.store.hasPasskey u.id = false) ∧
          TokenStored backend env state u.id fun index =>
            choices (index + 1)) := by
  by_cases enabled : u.totpEnabled = true
  · have consumed := consumed_of_issued enabled isIssued
    exact ⟨consumed.1, Or.inl consumed.2⟩
  · have noCodes : u.totpEnabled = false := by
      simpa using enabled
    by_cases noPasskey :
        (choices 0).fails (.countWebAuthnCredentials u.id) = true ∨
          state.store.hasPasskey u.id = false
    · obtain ⟨isAccount, stored⟩ :=
        (issued_checkSecondFactor_of_single noCodes noPasskey idHash
          code).mp isIssued
      exact ⟨isAccount, Or.inr ⟨noCodes, noPasskey, stored⟩⟩
    · simp only [not_or, Bool.not_eq_true, Bool.not_eq_false] at noPasskey
      rw [not_issued_of_passkey noCodes noPasskey.1 noPasskey.2] at isIssued
      cases isIssued

/-- What `handleLogin` has checked when it issues tokens. -/
theorem login_of_issued
    {req : LoginRequest}
    (isIssued :
      issued userID
        (served backend env state (.login (some req)) choices).history =
          true) :
    ∃ u,
      locked (choices 0).now state.lockout
        (env.blindIdentifier req.identifier) = false ∧
      (execute backend (choices 1) state
        (.getUserByIdentifierHash (env.blindIdentifier req.identifier))).1 =
          .ok u ∧
      u.identifierHash = env.blindIdentifier req.identifier ∧
      state.store.users.find? u.id = some u ∧
      env.verifyVerifier u.masterPasswordVerifier req.masterPasswordHash =
        some true ∧
      u.id = userID ∧
      (CodeConsumed env
          (served backend env state (.login (some req)) choices).history u
          req.totpCode ∨
        u.totpEnabled = false ∧
          ((choices 2).fails (.countWebAuthnCredentials u.id) = true ∨
            state.store.hasPasskey u.id = false) ∧
          TokenStored backend env state u.id fun index =>
            choices (index + 3)) := by
  simp only [served, serve, handleLogin, perform_bind, Program.run_perform,
    execute_locked] at isIssued ⊢
  by_cases isLocked :
      locked (choices 0).now state.lockout
        (env.blindIdentifier req.identifier) = true
  · simp [isLocked, issued, issues] at isIssued
  · have unlocked := (Bool.not_eq_true _).mp isLocked
    simp only [unlocked, Bool.false_eq_true, ↓reduceIte,
      Program.run_perform] at isIssued ⊢
    rcases @getUserByIdentifierHash_ends backend (choices 1) state
        (env.blindIdentifier req.identifier) with
      ⟨e, failed⟩ | ⟨u, found, sameHash, isStored⟩
    · simp only [failed, issued, List.any_cons, issues, Bool.false_or]
        at isIssued
      rw [← issued, issued_of_onlyPlain (onlyPlain_rejectPassword _ _)]
        at isIssued
      cases isIssued
    · simp only [found, issued, List.any_cons, issues, Bool.false_or]
        at isIssued ⊢
      rw [← issued] at isIssued
      by_cases password :
          env.verifyVerifier u.masterPasswordVerifier
            req.masterPasswordHash = some true
      · rw [if_pos password] at isIssued
        obtain ⟨isAccount, checked⟩ := checked_of_issued isIssued
        refine ⟨u, trivial, rfl, sameHash, isStored, password, isAccount, ?_⟩
        rcases checked with consumed | single
        · left
          rw [if_pos password]
          apply consumed.mono
          intro exchange member
          exact List.mem_cons_of_mem _ (List.mem_cons_of_mem _ member)
        · exact Or.inr single
      · rw [if_neg password,
          issued_of_onlyPlain (onlyPlain_rejectPassword _ _)] at isIssued
        cases isIssued

/-- A login that skips the second factor issues tokens. -/
theorem issued_of_skipsSecondFactor
    {req : LoginRequest}
    {u : User}
    (unlocked :
      locked (choices 0).now state.lockout
        (env.blindIdentifier req.identifier) = false)
    (found :
      (execute backend (choices 1) state
        (.getUserByIdentifierHash (env.blindIdentifier req.identifier))).1 =
          .ok u)
    (password :
      env.verifyVerifier u.masterPasswordVerifier req.masterPasswordHash =
        some true)
    (noCodes : u.totpEnabled = false)
    (uncounted :
      (choices 2).fails (.countWebAuthnCredentials u.id) = true)
    (stored :
      TokenStored backend env state u.id fun index => choices (index + 3)) :
    issued u.id
      (served backend env state (.login (some req)) choices).history =
        true := by
  have same :
      (execute backend (choices 1) state
        (.getUserByIdentifierHash (env.blindIdentifier req.identifier))) =
          (.ok u, state) := by
    rcases @getUserByIdentifierHash_ends backend (choices 1) state
        (env.blindIdentifier req.identifier) with
      ⟨e, failed⟩ | ⟨row, succeeded, -, -⟩
    · rw [failed] at found
      cases found
    · rw [succeeded] at found
      cases found
      exact succeeded
  have isIssued :=
    (@issued_checkSecondFactor_of_single backend env u.id
      (fun index => choices (index + 2)) state u noCodes (Or.inl uncounted)
      (env.blindIdentifier req.identifier) req.totpCode).mpr ⟨rfl, stored⟩
  simp only [served, serve, handleLogin, perform_bind, Program.run_perform,
    execute_locked, unlocked, Bool.false_eq_true, ↓reduceIte, same, password,
    issued, List.any_cons, issues, Bool.false_or]
  exact isIssued

/-!
## Refresh, recovery and passkeys
-/

/-- What `handleRefresh` has checked when it issues tokens. -/
theorem entitled_of_refresh
    {token : String}
    (isIssued :
      issued userID
        (served backend env state (.refresh (some token)) choices).history =
          true) :
    Entitled env state.store userID
      (served backend env state (.refresh (some token)) choices).history
      (.refresh (some token)) := by
  simp only [served, serve, handleRefresh] at isIssued ⊢
  by_cases noToken : token = ""
  · simp [noToken, issued] at isIssued
  · simp only [noToken, ↓reduceIte, perform_bind, Program.run_perform]
      at isIssued ⊢
    rcases @getRefreshToken_ends backend (choices 0) state
        (env.hashRefreshToken token) with ⟨e, failed⟩ | ⟨rt, found, isStored⟩
    · simp [failed, issued, issues] at isIssued
    · simp only [found, Program.run_perform, execute_now] at isIssued ⊢
      by_cases isExpired : rt.expiresAt < (choices 1).now
      · simp [isExpired, issued, issues] at isIssued
      · simp only [isExpired, ↓reduceIte] at isIssued ⊢
        by_cases isUsed : rt.used = true
        · simp only [isUsed, ↓reduceIte, Program.run_perform, issued,
            List.any_cons, issues, Bool.false_or, Program.pure_eq_done]
            at isIssued
          rw [← issued, issued_of_onlyPlain (onlyPlain_audited _ _ _ _)]
            at isIssued
          cases isIssued
        · simp only [isUsed, Bool.false_eq_true, ↓reduceIte,
            Program.run_perform, issued, List.any_cons, issues,
            Bool.false_or] at isIssued
          rw [← issued, issued_issueTokens_bind, issued_issueTokens_iff]
            at isIssued
          · refine ⟨rt, (choices 1).now, isStored, isIssued.1, ?_, ?_,
              Int.not_lt.mp isExpired⟩
            · exact (Bool.not_eq_true _).mp isUsed
            · exact List.mem_cons_of_mem _ List.mem_cons_self
          · rintro (- | ⟨access, refresh⟩)
            · trivial
            · trivial

/-- A handler creates refresh tokens for one account only. -/
abbrev IssuesFor {α : Type} (id : String) (handler : Handler α) : Prop :=
  handler.Only fun operation : Operation =>
    ∀ rt, operation = .createRefreshToken rt → rt.userID = id

/-- Plain calls create no refresh token for anyone. -/
theorem IssuesFor.of_onlyPlain
    {α : Type}
    {handler : Handler α}
    (onlyPlain : OnlyPlain handler)
    (id : String) :
    IssuesFor id handler := by
  apply onlyPlain.mono
  rintro operation plain rt rfl
  cases plain

/-- `issueTokens` issues tokens for its account. -/
theorem issuesFor_issueTokens (id : String) :
    IssuesFor id (issueTokens env id) := by
  refine only_issueTokens ?_ ?_ ?_
  · rintro rt ⟨⟩
  · rintro rt ⟨⟩
  · rintro rt isAccount _ ⟨⟩
    exact isAccount

/-- The account for which a handler issues tokens. -/
theorem IssuesFor.of_issued
    {α : Type}
    {id : String}
    {handler : Handler α}
    (issuesFor : IssuesFor id handler)
    (isIssued :
      issued userID (handler.run (execute backend) choices state).history =
        true) :
    id = userID := by
  obtain ⟨exchange, member, isIssue⟩ := List.any_eq_true.mp isIssued
  have named := issuesFor.run choices state exchange member
  unfold issues at isIssue
  split at isIssue
  · rw [← named _ rfl]
    simpa using isIssue
  · cases isIssue

/-- A recovery issues tokens for the recovered account. -/
theorem issuesFor_rotateAccount
    (idHash : String)
    (u : User)
    (req : RecoveryCompleteRequest) :
    IssuesFor u.id (rotateAccount env idHash u req) := by
  refine ⟨by rintro rt ⟨⟩, fun salt => ?_⟩
  dsimp only [Program.bind_done]
  cases salt with
  | none =>
      trivial
  | some salt =>
      refine ⟨by rintro rt ⟨⟩, fun rotated => ?_⟩
      dsimp only [Program.bind_done]
      cases rotated with
      | error e =>
          trivial
      | ok done =>
          refine ⟨by rintro rt ⟨⟩, fun deleted => ?_⟩
          apply (IssuesFor.of_onlyPlain (onlyPlain_audit _ _ _) _).bind
          intro audited
          apply (issuesFor_issueTokens _).bind
          intro tokens
          cases tokens with
          | none =>
              trivial
          | some pair =>
              exact ⟨by rintro rt ⟨⟩, fun _ => trivial⟩

/-- What `handleRecoveryComplete` has checked when it issues tokens. -/
theorem entitled_of_recoveryComplete
    {req : RecoveryCompleteRequest}
    (isIssued :
      issued userID
        (served backend env state (.recoveryComplete (some req))
          choices).history = true) :
    Entitled env state.store userID
      (served backend env state (.recoveryComplete (some req))
        choices).history
      (.recoveryComplete (some req)) := by
  simp only [served, serve, handleRecoveryComplete] at isIssued
  split at isIssued
  · cases isIssued
  · simp only [perform_bind, Program.run_perform, execute_locked]
      at isIssued
    by_cases isLocked :
        locked (choices 0).now state.lockout
          (env.blindIdentifier req.identifier) = true
    · simp [isLocked, issued, issues] at isIssued
    · simp only [isLocked, Bool.false_eq_true, ↓reduceIte,
        Program.run_perform] at isIssued
      rcases @getUserByIdentifierHash_ends backend (choices 1) state
          (env.blindIdentifier req.identifier) with
        ⟨e, failed⟩ | ⟨u, found, sameHash, isStored⟩
      · simp only [failed, issued, List.any_cons, issues, Bool.false_or]
          at isIssued
        rw [← issued, issued_of_onlyPlain (onlyPlain_rejectRecovery _)]
          at isIssued
        cases isIssued
      · simp only [found, issued, List.any_cons, issues, Bool.false_or]
          at isIssued
        rw [← issued] at isIssued
        split at isIssued
        · rename_i accepted
          have isAccount := (issuesFor_rotateAccount _ u _).of_issued isIssued
          subst isAccount
          exact ⟨u, isStored, sameHash, accepted.1, accepted.2⟩
        · rw [issued_of_onlyPlain (onlyPlain_rejectRecovery _)] at isIssued
          cases isIssued

/-- An accepted assertion stays accepted as the history grows. -/
theorem AssertionAccepted.mono
    {history later : History calls}
    {u : User}
    {req : LoginFinishRequest}
    (accepted : AssertionAccepted env history u req)
    (longer : history ⊆ later) :
    AssertionAccepted env later u req := by
  obtain ⟨webAuthn, entry, parsed, creds, cred, configured, taken, isOwner,
    wellFormed, listed, valid⟩ := accepted
  exact ⟨webAuthn, entry, parsed, creds, cred, configured, longer taken,
    isOwner, wellFormed, longer listed, valid⟩

/-- A login with a passkey issues tokens for its account. -/
theorem issuesFor_completePasskeyLogin
    (idHash : String)
    (u : User)
    (cred : Credential) :
    IssuesFor u.id (completePasskeyLogin env idHash u cred) := by
  refine ⟨by rintro rt ⟨⟩, fun updated => ?_⟩
  apply (issuesFor_issueTokens _).bind
  intro tokens
  cases tokens with
  | none =>
      trivial
  | some pair =>
      exact ⟨by rintro rt ⟨⟩, fun _ => trivial⟩

/-- A refresh token is created only after an accepted assertion. -/
theorem checkAssertion_accepts
    {webAuthn : WebAuthn}
    (configured : env.webAuthn = some webAuthn)
    (idHash : String)
    (u : User)
    (req : LoginFinishRequest) :
    (checkAssertion env webAuthn idHash u req).Obeys
      (fun history (operation : Operation) =>
        ∀ rt, operation = .createRefreshToken rt →
          rt.userID = u.id ∧ AssertionAccepted env history u req)
      (fun _ _ => True) [] := by
  refine ⟨by rintro rt ⟨⟩, fun taken => ?_⟩
  dsimp only [Program.bind_done]
  split
  · trivial
  · rename_i entry isPending
    obtain ⟨isTaken, isOwner⟩ := Option.filter_eq_some_iff.mp isPending
    subst isTaken
    split
    · trivial
    · rename_i parsed wellFormed
      refine ⟨by rintro rt ⟨⟩, fun listed => ?_⟩
      cases listed with
      | error e =>
          trivial
      | ok creds =>
          dsimp only [Program.bind_done, Program.pure_eq_done]
          split
          · exact ⟨by rintro rt ⟨⟩, fun _ => trivial⟩
          · rename_i cred valid
            refine (issuesFor_completePasskeyLogin idHash u cred).obeys ?_
              fun _ _ _ => trivial
            intro later operation longer named rt isCreate
            refine ⟨named rt isCreate, ?_⟩
            refine AssertionAccepted.mono
              ⟨webAuthn, entry, parsed, creds, cred, configured, ?_,
                by simpa using isOwner, wellFormed, ?_, valid⟩ longer.subset
            · simp
            · simp

/-- What `handleWebAuthnLoginFinish` has checked when it issues tokens. -/
theorem entitled_of_webAuthnLoginFinish
    {req : LoginFinishRequest}
    (isIssued :
      issued userID
        (served backend env state (.webAuthnLoginFinish (some req))
          choices).history = true) :
    Entitled env state.store userID
      (served backend env state (.webAuthnLoginFinish (some req))
        choices).history
      (.webAuthnLoginFinish (some req)) := by
  simp only [served, serve, handleWebAuthnLoginFinish] at isIssued ⊢
  cases configured : env.webAuthn with
  | none =>
      rw [configured] at isIssued
      cases isIssued
  | some webAuthn =>
      simp only [configured, perform_bind, Program.run_perform,
        execute_locked] at isIssued ⊢
      by_cases isLocked :
          locked (choices 0).now state.lockout
            (env.blindIdentifier req.identifier) = true
      · simp [isLocked, issued, issues] at isIssued
      · simp only [isLocked, Bool.false_eq_true, ↓reduceIte,
          Program.run_perform] at isIssued ⊢
        rcases @getUserByIdentifierHash_ends backend (choices 1) state
            (env.blindIdentifier req.identifier) with
          ⟨e, failed⟩ | ⟨u, found, sameHash, isStored⟩
        · simp only [failed, issued, List.any_cons, issues, Bool.false_or]
            at isIssued
          rw [← issued, issued_of_onlyPlain (onlyPlain_rejectPasskeyLogin _)]
            at isIssued
          cases isIssued
        · simp only [found, issued, List.any_cons, issues, Bool.false_or]
            at isIssued ⊢
          rw [← issued] at isIssued
          by_cases password :
              env.verifyVerifier u.masterPasswordVerifier
                req.masterPasswordHash = some true
          · rw [if_pos password] at isIssued
            obtain ⟨exchange, member, isIssue⟩ :=
              List.any_eq_true.mp isIssued
            obtain ⟨before, longer, accepts⟩ :=
              (checkAssertion_accepts configured _ u req).run_requests _ _
                exchange member
            unfold issues at isIssue
            split at isIssue
            · rename_i rt done
              obtain ⟨isAccount, accepted⟩ := accepts rt rfl
              have sameAccount : u.id = userID := by
                rw [← isAccount]
                simpa using isIssue
              subst sameAccount
              refine ⟨u, isStored, sameHash, password, ?_⟩
              rw [if_pos password]
              apply accepted.mono
              intro earlier isEarlier
              exact List.mem_cons_of_mem _
                (List.mem_cons_of_mem _ (longer.subset isEarlier))
            · cases isIssue
          · rw [if_neg password,
              issued_of_onlyPlain (onlyPlain_rejectPasskeyLogin _)]
              at isIssued
            cases isIssued

/-!
## Every request
-/

/-- The requests in which tokens can be issued at all. -/
theorem issuesTokens_of_issued
    {request : Request}
    (isIssued :
      issued userID (served backend env state request choices).history =
        true) :
    request.issuesTokens = true := by
  obtain ⟨exchange, member, isIssue⟩ := List.any_eq_true.mp isIssued
  obtain ⟨before, -, -, established⟩ :=
    (serves_serve env request).run_requests choices state exchange member
  unfold issues at isIssue
  split at isIssue
  · exact established
  · cases isIssue

/-- A login that asks for no code uses none up. -/
theorem not_codeConsumed_of_skipsSecondFactor
    {req : LoginRequest}
    {u : User}
    {code : String}
    (unlocked :
      locked (choices 0).now state.lockout
        (env.blindIdentifier req.identifier) = false)
    (found :
      (execute backend (choices 1) state
        (.getUserByIdentifierHash (env.blindIdentifier req.identifier))) =
          (.ok u, state))
    (password :
      env.verifyVerifier u.masterPasswordVerifier req.masterPasswordHash =
        some true)
    (noCodes : u.totpEnabled = false)
    (uncounted :
      (choices 2).fails (.countWebAuthnCredentials u.id) = true) :
    ¬ CodeConsumed env
      (served backend env state (.login (some req)) choices).history u
      code := by
  rintro ⟨secret, now, counter, -, -, -, -, written⟩
  have completes :
      (completeLogin env (env.blindIdentifier req.identifier) u).Only
        fun operation : Operation =>
          operation ≠ .setUserTOTPCounter u.id counter := by
    apply Program.Only.bind
    · refine only_issueTokens ?_ ?_ ?_
      · rintro ⟨⟩
      · rintro ⟨⟩
      · rintro rt - ⟨⟩
    · rintro (- | ⟨access, refresh⟩)
      · trivial
      · refine ⟨by rintro ⟨⟩, fun done => ?_⟩
        apply (onlyPlain_audited _ _ _ _).mono
        rintro operation plain rfl
        cases plain
  simp only [served, serve, handleLogin, perform_bind, Program.run_perform,
    execute_locked, unlocked, Bool.false_eq_true, ↓reduceIte, found, password,
    checkSecondFactor, execute_countWebAuthnCredentials, uncounted, noCodes,
    Bool.or_self, List.mem_cons] at written
  rcases written with isLocked | isFound | isCounted | later
  · cases isLocked
  · cases isFound
  · cases isCounted
  · exact completes.run _ _ _ later rfl

end Issuing

/--
Whatever calls fail, tokens are issued to the requests that are entitled to them,
unless a login skips the second factor because the passkeys of its account
cannot be counted; and such a login always breaks the rule.
-/
theorem entitled_iff_countsPasskeys
    (backend : Backend)
    (env : Environment)
    (state : State)
    (request : Request)
    (choices : Nat → Choice) :
    (∀ userID,
        issued userID (served backend env state request choices).history =
            true →
          Entitled env state.store userID
            (served backend env state request choices).history request) ↔
      ¬ SkipsSecondFactor backend env state request choices := by
  constructor
  · rintro entitled
      ⟨req, u, rfl, unlocked, found, password, noCodes, hasPasskey, uncounted,
        stored⟩
    have same :
        (execute backend (choices 1) state
          (.getUserByIdentifierHash (env.blindIdentifier req.identifier))) =
            (.ok u, state) ∧ state.store.users.find? u.id = some u := by
      rcases @getUserByIdentifierHash_ends backend (choices 1) state
          (env.blindIdentifier req.identifier) with
        ⟨e, failed⟩ | ⟨row, succeeded, -, isStored⟩
      · rw [failed] at found
        cases found
      · rw [succeeded] at found
        cases found
        exact ⟨succeeded, isStored⟩
    obtain ⟨row, isStored, -, -, needsCode⟩ :=
      entitled u.id
        (issued_of_skipsSecondFactor unlocked found password noCodes uncounted
          stored)
    rw [same.2] at isStored
    cases isStored
    exact not_codeConsumed_of_skipsSecondFactor unlocked same.1 password
      noCodes uncounted (needsCode (Or.inr hasPasskey))
  · intro counts userID isIssued
    have mayIssue := issuesTokens_of_issued isIssued
    cases request
    case login req =>
      cases req with
      | none =>
          cases isIssued
      | some req =>
          obtain ⟨u, unlocked, found, sameHash, isStored, password, isAccount,
            checked⟩ := login_of_issued isIssued
          subst isAccount
          refine ⟨u, isStored, sameHash, password, ?_⟩
          rcases checked with consumed | ⟨noCodes, noPasskey, stored⟩
          · exact fun _ => consumed
          · rintro (enabled | hasPasskey)
            · rw [noCodes] at enabled
              cases enabled
            · rcases noPasskey with uncounted | absent
              · exact absurd
                  ⟨req, u, rfl, unlocked, found, password, noCodes,
                    hasPasskey, uncounted, stored⟩
                  counts
              · rw [absent] at hasPasskey
                cases hasPasskey
    case refresh req =>
      cases req with
      | none => cases isIssued
      | some token => exact entitled_of_refresh isIssued
    case recoveryComplete req =>
      cases req with
      | none => cases isIssued
      | some req => exact entitled_of_recoveryComplete isIssued
    case webAuthnLoginFinish req =>
      cases req with
      | none =>
          simp only [served, serve, handleWebAuthnLoginFinish] at isIssued
          split at isIssued
          · cases isIssued
          · cases isIssued
      | some req =>
          exact entitled_of_webAuthnLoginFinish isIssued
    all_goals cases mayIssue

/-- An account with a passkey and no codes. -/
def onePasskey : State :=
  let state := oneAccount "" false
  { state with
    store := { state.store with
      passkeys := Table.empty.upsert
        { id := "c"
          userID := "u"
          credentialID := [1]
          publicKey := [2]
          attestationType := "none"
          transports := ""
          aaguid := []
          signCount := 0
          name := "Passkey"
          createdAt := 0
          updatedAt := 0 } } }

/-- A login with the right password and no code. -/
def loginWithPassword : Request :=
  .login (some
    { identifier := "a", masterPasswordHash := "p", totpCode := "" })

/-- Counting passkeys fails while the other calls succeed. -/
def countingFails (_ : Nat) : Choice :=
  { moment 1 with
    fails
      | .countWebAuthnCredentials _ => true
      | _ => false }

/-- The account of a passkey signs in by password alone. -/
theorem uncountedPasskey_signsIn :
    ¬ ∀ (backend : Backend) (env : Environment) (state : State)
        (request : Request) (choices : Nat → Choice) (userID : String),
      issued userID (served backend env state request choices).history =
          true →
        Entitled env state.store userID
          (served backend env state request choices).history request := by
  intro entitled
  have isIssued :
      issued "u"
        (served .memory plainEnvironment onePasskey loginWithPassword
          countingFails).history = true := by
    decide +kernel
  have untouched :
      (served .memory plainEnvironment onePasskey loginWithPassword
        countingFails).history.all
          (fun exchange => !exchange.operation.touches .users) = true := by
    decide +kernel
  obtain ⟨u, -, -, -, needsCode⟩ := entitled _ _ _ _ _ _ isIssued
  obtain ⟨secret, now, counter, -, -, -, -, written⟩ :=
    needsCode (Or.inr (by decide))
  have wrote := List.all_eq_true.mp untouched _ written
  cases wrote

end Passwd.Server
