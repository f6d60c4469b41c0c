import Passwd.AccountRequests
import Passwd.RefreshTokenRuns

namespace Passwd.Server

open Base64 Interaction

/-!
# What a failed call leaves behind

Completing a recovery and refreshing a session each write to the store several
times, without a transaction around the writes.  For every position at which a
call may fail, this module determines the accounts and the refresh tokens that
are stored afterwards, and compares them with the response.
-/

/-!
## Stages of a handler
-/

section Stages

variable {backend : Backend} {env : Environment} {choices : Nat → Choice}
  {state : State}

/-- The number of calls that auditing makes. -/
def auditCalls (userID : String) : Nat :=
  if userID = "" then 0 else 3

/-- A handler that writes no account and no token leaves them alone. -/
theorem accounts_and_tokens_run
    {α : Type}
    {handler : Handler α}
    (spares :
      handler.Only fun operation : Operation =>
        operation.touches .users = false ∧
          operation.touches .refresh = false) :
    let final := (handler.run (execute backend) choices state).state
    final.store.users = state.store.users ∧
      final.store.refresh = state.store.refresh := by
  exact ⟨@same_run backend state _ _ .users _
      (spares.mono fun _ spared => spared.1),
    @same_run backend state _ _ .refresh _
      (spares.mono fun _ spared => spared.2)⟩

/-- Auditing makes that many calls. -/
theorem audit_length (userID event detail : String) :
    ((audit userID event detail).run (execute backend) choices
      state).history.length = auditCalls userID := by
  unfold audit auditCalls
  split
  · rfl
  · rfl

/-- What runs after an audit finds the accounts and tokens as they were. -/
theorem audit_ends
    {α : Type}
    (userID event detail : String)
    (next : Handler α) :
    ∃ logged : State,
      logged.store.users = state.store.users ∧
      logged.store.refresh = state.store.refresh ∧
      let rest :=
        next.run (execute backend)
          (fun index => choices (auditCalls userID + index)) logged
      ((audit userID event detail >>= fun _ => next).run (execute backend)
          choices state).value = rest.value ∧
        ((audit userID event detail >>= fun _ => next).run (execute backend)
          choices state).state = rest.state := by
  have spares :
      (audit userID event detail).Only fun operation : Operation =>
        operation.touches .users = false ∧
          operation.touches .refresh = false :=
    only_audit ⟨rfl, rfl⟩ ⟨rfl, rfl⟩ fun _ => ⟨rfl, rfl⟩
  obtain ⟨users, refresh⟩ :=
    @accounts_and_tokens_run backend choices state _ _ spares
  rw [Program.run_bind]
  simp only [audit_length]
  exact ⟨_, users, refresh, rfl, rfl⟩

/-- Issuing tokens succeeds when these calls do. -/
structure StoresToken
    (backend : Backend)
    (env : Environment)
    (refresh : Table RefreshToken.tokenHash)
    (userID : String)
    (choices : Nat → Choice) :
    Prop where
  drawn : (choices 1).fails (.random 32) = false
  created :
    (choices 3).fails
      (.createRefreshToken (newRefreshToken env userID choices)) = false
  accepted :
    backend.isSql = true →
      refresh.find? (newRefreshToken env userID choices).tokenHash = none

/-- Only which hashes are taken matters. -/
theorem storesToken_congr
    {before after : Table RefreshToken.tokenHash}
    {userID : String}
    (same :
      ∀ tokenHash,
        after.find? tokenHash = none ↔ before.find? tokenHash = none) :
    StoresToken backend env after userID choices ↔
      StoresToken backend env before userID choices := by
  constructor
  · intro stores
    exact ⟨stores.drawn, stores.created,
      fun sql => (same _).mp (stores.accepted sql)⟩
  · intro stores
    exact ⟨stores.drawn, stores.created,
      fun sql => (same _).mpr (stores.accepted sql)⟩

/-- A refresh token is created when the call and the backend let it. -/
theorem createRefreshToken_run (choice : Choice) (rt : RefreshToken) :
    if choice.fails (.createRefreshToken rt) = false ∧
        (backend.isSql = true →
          state.store.refresh.find? rt.tokenHash = none) then
      execute backend choice state (.createRefreshToken rt) =
        (.ok (), { state with store := { state.store with
          refresh := state.store.refresh.upsert (backend.tokenRow rt) } })
    else
      ∃ e, execute backend choice state (.createRefreshToken rt) =
        (.error e, state) := by
  cases fails : choice.fails (.createRefreshToken rt) with
  | true =>
      refine ⟨.failure, ?_⟩
      simp [execute, attempt, fails]
  | false =>
      simp only [execute, attempt_of_succeeds fails, Store.createRefreshToken,
        Backend.tokenRow, true_and]
      cases backend.isSql with
      | false =>
          simp
      | true =>
          cases state.store.refresh.find? rt.tokenHash with
          | none => simp
          | some taken => simp

/-- What issuing tokens answers and leaves behind. -/
theorem issueTokens_run (userID : String) :
    let run := (issueTokens env userID).run (execute backend) choices state
    (StoresToken backend env state.store.refresh userID choices ∧
        (∃ access refresh, run.value = some (access, refresh)) ∧
        run.state.store.users = state.store.users ∧
        run.state.store.refresh =
          state.store.refresh.upsert
            (backend.tokenRow (newRefreshToken env userID choices))) ∨
      (¬ StoresToken backend env state.store.refresh userID choices ∧
        run.value = none ∧
        run.state = state) := by
  cases undrawn : (choices 1).fails (.random 32) with
  | true =>
      refine Or.inr ⟨fun stores => ?_, ?_, ?_⟩
      · exact absurd stores.drawn (by simp [undrawn])
      · simp [issueTokens, generateRefreshToken, undrawn]
      · simp [issueTokens, generateRefreshToken, undrawn]
  | false =>
      have create :=
        @createRefreshToken_run backend state (choices 3)
          (newRefreshToken env userID choices)
      split at create
      · rename_i permitted
        refine Or.inl ⟨⟨undrawn, permitted.1, permitted.2⟩, ?_⟩
        simp only [newRefreshToken] at create ⊢
        simp [issueTokens, generateRefreshToken, undrawn, create]
      · rename_i forbidden
        obtain ⟨e, refused⟩ := create
        refine Or.inr
          ⟨fun stores => forbidden ⟨stores.created, stores.accepted⟩, ?_⟩
        simp only [newRefreshToken] at refused
        simp [issueTokens, generateRefreshToken, undrawn, refused]

end Stages

/-!
## Completing a recovery
-/

/-- The same accounts and the same refresh tokens are stored. -/
structure SameAccountsAndTokens (before after : Store) : Prop where
  users : ∀ id, after.users.find? id = before.users.find? id
  refresh : ∀ tokenHash,
    after.refresh.find? tokenHash = before.refresh.find? tokenHash

/-- The key derivation that a recovered account is left with. -/
def recoveredKDF (u : User) (req : RecoveryCompleteRequest) : KDFParams :=
  if req.kdf.type = "" then u.kdf else req.kdf

/-- The verifier of a new password under a salt. -/
def recoveredVerifier
    (env : Environment)
    (req : RecoveryCompleteRequest)
    (salting : Choice) :
    String :=
  env.phcVerifier (salting.bytes 16) req.masterPasswordHash

/--
Completing a recovery is all or nothing.  Accepted, it leaves the account with
everything new and with none of the refresh tokens it had; refused, it leaves
the accounts and the tokens as they were.
-/
def RecoversOrKeeps
    (backend : Backend)
    (env : Environment)
    (state : State)
    (req : Option RecoveryCompleteRequest)
    (choices : Nat → Choice) :
    Prop :=
  let completed := served backend env state (.recoveryComplete req) choices
  if completed.value.status = 200 then
    ∃ body u row,
      req = some body ∧
      state.store.getUserByIdentifierHash
          (env.blindIdentifier body.identifier) = (.ok u, state.store) ∧
      completed.state.store.users.find? u.id = some row ∧
      row.masterPasswordVerifier = recoveredVerifier env body (choices 2) ∧
      row.protectedUserKey = body.protectedUserKey ∧
      row.kdf = recoveredKDF u body ∧
      ∀ rt ∈ state.store.refresh.rows,
        rt.userID = u.id →
          completed.state.store.refresh.find? rt.tokenHash = none
  else
    SameAccountsAndTokens state.store completed.state.store

/-- A request proves the recovery code of an account. -/
structure ProvesCode
    (env : Environment)
    (state : State)
    (req : RecoveryCompleteRequest)
    (u : User)
    (choices : Nat → Choice) :
    Prop where
  filled :
    ¬ (req.recoveryAuthHash = "" ∨ req.masterPasswordHash = "" ∨
      req.protectedUserKey = "")
  unlocked :
    locked (choices 0).now state.lockout
      (env.blindIdentifier req.identifier) = false
  read :
    (choices 1).fails
      (.getUserByIdentifierHash (env.blindIdentifier req.identifier)) = false
  found :
    state.store.getUserByIdentifierHash
      (env.blindIdentifier req.identifier) = (.ok u, state.store)
  enrolled : u.recoveryVerifier ≠ ""
  verified :
    env.verifyVerifier u.recoveryVerifier req.recoveryAuthHash = some true

/-- The new password of an account is written. -/
structure WritesPassword
    (backend : Backend)
    (env : Environment)
    (req : RecoveryCompleteRequest)
    (u : User)
    (choices : Nat → Choice) :
    Prop where
  salted : (choices 0).fails (.random 16) = false
  taken : backend.takesKDF (recoveredKDF u req) = true
  written :
    (choices 1).fails
      (.rotateMasterPassword u.id (recoveredVerifier env req (choices 0))
        req.protectedUserKey (recoveredKDF u req)) = false

/-- The tokens of an account are revoked after its password is written. -/
def Revokes (u : User) (choices : Nat → Choice) : Prop :=
  (choices 2).fails (.deleteRefreshTokensForUser u.id) = false

/-- The row of an account whose password is written. -/
def rotatedRow
    (backend : Backend)
    (env : Environment)
    (req : RecoveryCompleteRequest)
    (u : User)
    (choices : Nat → Choice) :
    User :=
  { u with
    masterPasswordVerifier := recoveredVerifier env req (choices 0)
    protectedUserKey := req.protectedUserKey
    kdf := recoveredKDF u req
    updatedAt := backend.stamp (choices 1).now }

/-- The choices for the token that ends a recovery. -/
def issuing (u : User) (choices : Nat → Choice) : Nat → Choice :=
  fun index => choices (3 + auditCalls u.id + index)

/-- The refresh tokens when a recovery issues a new one. -/
def revokedTokens
    (refresh : Table RefreshToken.tokenHash)
    (u : User)
    (choices : Nat → Choice) :
    Table RefreshToken.tokenHash :=
  if (choices 2).fails (.deleteRefreshTokensForUser u.id) then
    refresh
  else
    refresh.delete fun rt => rt.userID = u.id

section Recovery

variable {backend : Backend} {env : Environment} {choices : Nat → Choice}
  {state : State} {idHash : String} {u : User} {req : RecoveryCompleteRequest}

/-- Rewriting one row changes what is found under its key. -/
theorem find?_update_row
    {users : Table User.id}
    (stored : users.find? u.id = some u)
    (change : User → User)
    (keepsID : ∀ u, (change u).id = u.id)
    (id : String) :
    (users.update (fun row => row.id = u.id) change keepsID).find? id =
      if id = u.id then some (change u) else users.find? id := by
  rw [Table.find?_update]
  by_cases isTarget : id = u.id
  · simp [isTarget, stored]
  · rw [if_neg isTarget]
    cases found : users.find? id with
    | none => rfl
    | some row =>
        have sameID := Table.key_of_find? found
        simp [sameID, isTarget]

/-- Writing the new password changes one row. -/
theorem rotateMasterPassword_run
    (stored : state.store.users.find? u.id = some u)
    (choice : Choice)
    (verifier protectedUserKey : String)
    (kdf : KDFParams) :
    let operation :=
      Operation.rotateMasterPassword u.id verifier protectedUserKey kdf
    if backend.takesKDF kdf = true ∧ choice.fails operation = false then
      ∃ after : State,
        execute backend choice state operation = (.ok (), after) ∧
        after.store.refresh = state.store.refresh ∧
        ∀ id,
          after.store.users.find? id =
            if id = u.id then
              some { u with
                masterPasswordVerifier := verifier
                protectedUserKey := protectedUserKey
                kdf := kdf
                updatedAt := backend.stamp choice.now }
            else
              state.store.users.find? id
    else
      ∃ e, execute backend choice state operation = (.error e, state) := by
  intro operation
  cases fails : choice.fails operation with
  | true =>
      rw [if_neg (by simp)]
      refine ⟨.failure, ?_⟩
      simp only [operation, execute, attempt] at fails ⊢
      rw [if_pos fails]
  | false =>
      have outcome :
          execute backend choice state operation =
            ((state.store.rotateMasterPassword backend choice.now u.id verifier
              protectedUserKey kdf).1, { state with
                store := (state.store.rotateMasterPassword backend choice.now
                  u.id verifier protectedUserKey kdf).2 }) :=
        attempt_of_succeeds fails _
      by_cases taken : backend.takesKDF kdf = true
      · rw [if_pos ⟨taken, rfl⟩]
        simp only [Store.rotateMasterPassword, taken, Store.updateUser, stored,
          ↓reduceIte, Option.isSome_some] at outcome
        refine ⟨_, outcome, rfl, fun id => ?_⟩
        exact find?_update_row stored
          (fun u => { u with
            masterPasswordVerifier := verifier
            protectedUserKey := protectedUserKey
            kdf := kdf
            updatedAt := backend.stamp choice.now })
          (fun _ => rfl) id
      · rw [if_neg (fun both => taken both.1)]
        simp only [Store.rotateMasterPassword, if_neg taken] at outcome
        exact ⟨.failure, outcome⟩

/-- Revoking the tokens of an account leaves the accounts alone. -/
theorem revoke_run (choice : Choice) (userID : String) :
    let revoked :=
      (execute backend choice state (.deleteRefreshTokensForUser userID)).2
    revoked.store.users = state.store.users ∧
      revoked.store.refresh =
        if choice.fails (.deleteRefreshTokensForUser userID) then
          state.store.refresh
        else
          state.store.refresh.delete fun rt => rt.userID = userID := by
  simp only [execute, attempt]
  split
  · exact ⟨rfl, rfl⟩
  · exact ⟨rfl, rfl⟩

/-- The end of a recovery whose new password is written. -/
def finishRecovery
    (env : Environment)
    (idHash : String)
    (u : User)
    (req : RecoveryCompleteRequest) :
    Handler Response := do
  let _ ← perform (.deleteRefreshTokensForUser u.id)
  audit u.id "recovery.complete" ""
  let issued ← issueTokens env u.id
  match issued with
  | none => return writeError 500 "recovery failed"
  | some (access, refresh) =>
      let _ ← perform (.reset idHash)
      return {
        status := 200
        body := .login access refresh req.protectedUserKey
          u.protectedPrivateKey (recoveredKDF u req) }

/-- How a recovery ends whose new password is written. -/
theorem finishRecovery_ends :
    let run :=
      (finishRecovery env idHash u req).run (execute backend)
        (fun index => choices (index + 2)) state
    let revoked := revokedTokens state.store.refresh u choices
    (run.value.status = 200 ↔
        StoresToken backend env revoked u.id (issuing u choices)) ∧
      run.state.store.users = state.store.users ∧
      run.state.store.refresh =
        if run.value.status = 200 then
          revoked.upsert
            (backend.tokenRow (newRefreshToken env u.id (issuing u choices)))
        else
          revoked := by
  intro run revoked
  obtain ⟨sameUsers, isRevoked⟩ :=
    @revoke_run backend state (choices 2) u.id
  obtain ⟨logged, users, refresh, value, final⟩ :=
    @audit_ends backend (fun index => choices (index + 3))
      (execute backend (choices 2) state (.deleteRefreshTokensForUser u.id)).2
      _ u.id "recovery.complete" ""
      (issueTokens env u.id >>= fun issued =>
        match issued with
        | none => return writeError 500 "recovery failed"
        | some (access, refresh) => do
            let _ ← perform (.reset idHash)
            return {
              status := 200
              body := .login access refresh req.protectedUserKey
                u.protectedPrivateKey (recoveredKDF u req) })
  have runValue : run.value = _ := value
  have runState : run.state = _ := final
  have sameChoices :
      (fun index => choices (auditCalls u.id + index + 3)) =
        issuing u choices := by
    funext index
    exact congrArg choices (by omega)
  simp only [sameChoices] at runValue runState
  have isTable : logged.store.refresh = revoked := refresh.trans isRevoked
  rw [Program.run_bind] at runValue runState
  have issue :=
    @issueTokens_run backend env (issuing u choices) logged u.id
  rw [isTable] at issue
  rcases issue with
    ⟨stores, ⟨access, token, isIssued⟩, issuedUsers, issuedTokens⟩ |
      ⟨refused, isRefused, unchanged⟩
  · simp only [isIssued, perform_bind, Program.run_perform] at runValue runState
    have succeeds : run.value.status = 200 := by
      rw [runValue]
      rfl
    refine ⟨iff_of_true succeeds stores, ?_, ?_⟩
    · rw [runState]
      exact issuedUsers.trans (users.trans sameUsers)
    · rw [if_pos succeeds, runState]
      exact issuedTokens
  · simp only [isRefused] at runValue runState
    have fails : run.value.status ≠ 200 := by
      rw [runValue]
      simp [writeError]
    refine ⟨iff_of_false fails refused, ?_, ?_⟩
    · rw [runState]
      exact (congrArg (fun s : State => s.store.users) unchanged).trans
        (users.trans sameUsers)
    · rw [if_neg fails, runState]
      exact (congrArg (fun s : State => s.store.refresh) unchanged).trans
        isTable

/-- How a recovery ends whose code was accepted. -/
theorem rotateAccount_ends
    (stored : state.store.users.find? u.id = some u) :
    let run :=
      (rotateAccount env idHash u req).run (execute backend) choices state
    (¬ WritesPassword backend env req u choices ∧
        run.value.status ≠ 200 ∧
        run.state = state) ∨
      (WritesPassword backend env req u choices ∧
        (run.value.status = 200 ↔
          StoresToken backend env (revokedTokens state.store.refresh u choices)
            u.id (issuing u choices)) ∧
        (∀ id,
          run.state.store.users.find? id =
            if id = u.id then
              some (rotatedRow backend env req u choices)
            else
              state.store.users.find? id) ∧
        run.state.store.refresh =
          if run.value.status = 200 then
            (revokedTokens state.store.refresh u choices).upsert
              (backend.tokenRow
                (newRefreshToken env u.id (issuing u choices)))
          else
            revokedTokens state.store.refresh u choices) := by
  intro run
  have rotation :=
    @rotateMasterPassword_run backend state u stored (choices 1)
      (recoveredVerifier env req (choices 0)) req.protectedUserKey
      (recoveredKDF u req)
  by_cases salted : (choices 0).fails (.random 16) = true
  · refine Or.inl ⟨?_, ?_⟩
    · intro writes
      rw [writes.salted] at salted
      cases salted
    · simp [run, rotateAccount, hashVerifier, salted, writeError]
  · rw [Bool.not_eq_true] at salted
    dsimp only at rotation
    split at rotation
    · rename_i permitted
      obtain ⟨rotated, done, tokens, users⟩ := rotation
      have isRun :
          run.value =
              ((finishRecovery env idHash u req).run (execute backend)
                (fun index => choices (index + 2)) rotated).value ∧
            run.state =
              ((finishRecovery env idHash u req).run (execute backend)
                (fun index => choices (index + 2)) rotated).state := by
        simp only [recoveredVerifier, recoveredKDF] at done
        simp only [run, rotateAccount, hashVerifier, perform_bind,
          Program.perform_bind, Program.done_bind, Program.pure_eq_done,
          Program.run_perform, execute_random, salted, Bool.false_eq_true,
          ↓reduceIte, Option.map_some, Nat.zero_add, done]
        exact ⟨rfl, rfl⟩
      obtain ⟨status, sameUsers, finalTokens⟩ :=
        @finishRecovery_ends backend env choices rotated idHash u req
      rw [← isRun.1, tokens] at status finalTokens
      rw [← isRun.2] at sameUsers finalTokens
      refine Or.inr
        ⟨⟨salted, permitted.1, permitted.2⟩, status, ?_, finalTokens⟩
      intro id
      rw [sameUsers]
      exact users id
    · rename_i forbidden
      obtain ⟨e, refused⟩ := rotation
      simp only [recoveredVerifier, recoveredKDF] at refused
      refine Or.inl ⟨?_, ?_⟩
      · intro writes
        exact forbidden ⟨writes.taken, writes.written⟩
      · simp [run, rotateAccount, hashVerifier, salted, refused, writeError]

/--
A call by which a recovery issues its token fails, or the database already has
the token's hash in a row that stays.
-/
structure IssuesAfterRecovery
    (backend : Backend)
    (env : Environment)
    (state : State)
    (u : User)
    (choices : Nat → Choice) :
    Prop where
  drawn : (issuing u choices 1).fails (.random 32) = false
  created :
    (issuing u choices 3).fails
      (.createRefreshToken (newRefreshToken env u.id (issuing u choices))) =
        false
  accepted :
    backend.isSql = true →
      ∀ rt ∈ state.store.refresh.rows,
        rt.tokenHash = (newRefreshToken env u.id (issuing u choices)).tokenHash →
          Revokes u choices ∧ rt.userID = u.id

/-- What a hash leads to after the tokens of an account are revoked. -/
theorem find?_revokedTokens
    (refresh : Table RefreshToken.tokenHash)
    (tokenHash : String) :
    (revokedTokens refresh u choices).find? tokenHash =
      (refresh.find? tokenHash).filter fun rt =>
        (choices 2).fails (.deleteRefreshTokensForUser u.id) ||
          !decide (rt.userID = u.id) := by
  unfold revokedTokens
  split
  · rename_i fails
    cases refresh.find? tokenHash with
    | none => rfl
    | some rt => simp [fails, Option.filter]
  · rename_i succeeds
    rw [Table.find?_delete]
    simp [succeeds]

/-- In terms of the tokens before the recovery. -/
theorem issuesAfterRecovery_iff :
    IssuesAfterRecovery backend env state u choices ↔
      StoresToken backend env (revokedTokens state.store.refresh u choices)
        u.id (issuing u choices) := by
  have accepted_iff :
      ((revokedTokens state.store.refresh u choices).find?
          (newRefreshToken env u.id (issuing u choices)).tokenHash = none) ↔
        ∀ rt ∈ state.store.refresh.rows,
          rt.tokenHash =
              (newRefreshToken env u.id (issuing u choices)).tokenHash →
            Revokes u choices ∧ rt.userID = u.id := by
    rw [find?_revokedTokens, Option.filter_eq_none_iff]
    constructor
    · intro absent rt member sameHash
      have gone := absent rt (Table.find?_eq_some_iff.mpr ⟨member, sameHash⟩)
      simpa [Revokes] using gone
    · intro revokedOnly rt found
      obtain ⟨member, sameHash⟩ := Table.find?_eq_some_iff.mp found
      simpa [Revokes] using revokedOnly rt member sameHash
  constructor
  · intro issues
    exact ⟨issues.drawn, issues.created,
      fun sql => accepted_iff.mpr (issues.accepted sql)⟩
  · intro stores
    exact ⟨stores.drawn, stores.created,
      fun sql => accepted_iff.mp (stores.accepted sql)⟩

/-- A proved code is what a recovery acts on. -/
theorem recoveryComplete_of_proves
    (proves : ProvesCode env state req u choices) :
    let completed :=
      served backend env state (.recoveryComplete (some req)) choices
    let run :=
      (rotateAccount env (env.blindIdentifier req.identifier) u req).run
        (execute backend) (fun index => choices (index + 2)) state
    completed.value = run.value ∧ completed.state = run.state := by
  have isRead :
      execute backend (choices 1) state
          (.getUserByIdentifierHash (env.blindIdentifier req.identifier)) =
        (.ok u, state) := by
    refine (attempt_of_succeeds proves.read _).trans ?_
    rw [proves.found]
  simp only [served, serve, handleRecoveryComplete, if_neg proves.filled,
    perform_bind, Program.run_perform, execute_locked, proves.unlocked,
    Bool.false_eq_true, ↓reduceIte, Nat.zero_add, isRead,
    if_pos (And.intro proves.enrolled proves.verified)]
  exact ⟨trivial, trivial⟩

/-- Without a proved code a recovery is refused and writes nothing. -/
theorem recoveryComplete_of_unproved
    {req : Option RecoveryCompleteRequest}
    (unproved :
      ∀ body u, req = some body → ¬ ProvesCode env state body u choices) :
    let completed := served backend env state (.recoveryComplete req) choices
    completed.value.status ≠ 200 ∧ completed.state.store = state.store := by
  cases req with
  | none =>
      exact ⟨by simp [served, serve, handleRecoveryComplete, invalidBody,
        writeError], rfl⟩
  | some body =>
      by_cases empty :
          body.recoveryAuthHash = "" ∨ body.masterPasswordHash = "" ∨
            body.protectedUserKey = ""
      · simp [served, serve, handleRecoveryComplete, empty, writeError]
      by_cases isLocked :
          locked (choices 0).now state.lockout
            (env.blindIdentifier body.identifier) = true
      · simp [served, serve, handleRecoveryComplete, empty, isLocked,
          writeError]
      rw [Bool.not_eq_true] at isLocked
      simp only [served, serve, handleRecoveryComplete, if_neg empty,
        perform_bind, Program.run_perform, execute_locked, isLocked,
        Bool.false_eq_true, ↓reduceIte, Nat.zero_add]
      have rejected :
          ∀ choices : Nat → Choice,
            let run :=
              (rejectRecovery (env.blindIdentifier body.identifier)).run
                (execute backend) choices state
            run.value.status ≠ 200 ∧ run.state.store = state.store := by
        intro choices
        exact ⟨by simp [rejectRecovery, writeError], rfl⟩
      by_cases unread :
          (choices 1).fails
            (.getUserByIdentifierHash (env.blindIdentifier body.identifier)) =
              true
      · have failed :
            execute backend (choices 1) state
                (.getUserByIdentifierHash
                  (env.blindIdentifier body.identifier)) =
              (.error .failure, state) := by
          simp only [execute, attempt, unread, ↓reduceIte]
        rw [failed]
        exact rejected _
      rw [Bool.not_eq_true] at unread
      rcases getUserByIdentifierHash_cases state.store
          (env.blindIdentifier body.identifier) with
        missing | ⟨u, found, stored⟩
      · have absent :
            execute backend (choices 1) state
                (.getUserByIdentifierHash
                  (env.blindIdentifier body.identifier)) =
              (.error .notFound, state) := by
          refine (attempt_of_succeeds unread _).trans ?_
          rw [missing]
        rw [absent]
        exact rejected _
      · have isRead :
            execute backend (choices 1) state
                (.getUserByIdentifierHash
                  (env.blindIdentifier body.identifier)) =
              (.ok u, state) := by
          refine (attempt_of_succeeds unread _).trans ?_
          rw [found]
        rw [isRead]
        have unverified :
            ¬ (u.recoveryVerifier ≠ "" ∧
              env.verifyVerifier u.recoveryVerifier body.recoveryAuthHash =
                some true) := by
          intro verified
          exact unproved body u rfl
            { filled := empty
              unlocked := isLocked
              read := unread
              found := found
              enrolled := verified.1
              verified := verified.2 }
        simp only [if_neg unverified]
        exact rejected _

/-- At most one account is the one whose code a request proves. -/
theorem ProvesCode.unique
    {other : User}
    (proves : ProvesCode env state req u choices)
    (otherProves : ProvesCode env state req other choices) :
    other = u := by
  have same := proves.found.symm.trans otherProves.found
  simp only [Prod.mk.injEq, Except.ok.injEq] at same
  exact same.1.symm

/--
When a recovery with a written password is whole: it issues its token and has
revoked the tokens there were, the new one not being one of them; or it does not
issue a token, and neither the password nor the revocation changed anything.
-/
def EndsWhole
    (backend : Backend)
    (env : Environment)
    (state : State)
    (req : RecoveryCompleteRequest)
    (u : User)
    (choices : Nat → Choice) :
    Prop :=
  (IssuesAfterRecovery backend env state u choices ∧
      ∀ rt ∈ state.store.refresh.rows,
        rt.userID = u.id →
          Revokes u choices ∧
            rt.tokenHash ≠
              (newRefreshToken env u.id (issuing u choices)).tokenHash) ∨
    (¬ IssuesAfterRecovery backend env state u choices ∧
      rotatedRow backend env req u choices = u ∧
      ∀ rt ∈ state.store.refresh.rows,
        rt.userID = u.id → ¬ Revokes u choices)

/-- When an earlier token of an account is gone after a recovery. -/
theorem find?_issued_eq_none_iff
    {refresh : Table RefreshToken.tokenHash}
    {rt : RefreshToken}
    (member : rt ∈ refresh.rows)
    (owned : rt.userID = u.id)
    (row : RefreshToken) :
    ((revokedTokens refresh u choices).upsert row).find? rt.tokenHash = none ↔
      Revokes u choices ∧ rt.tokenHash ≠ row.tokenHash := by
  rw [Table.find?_upsert, find?_revokedTokens, Table.find?_of_mem member]
  by_cases sameHash : row.tokenHash = rt.tokenHash
  · simp [sameHash]
  · simp [Revokes, Option.filter, owned, Ne.symm sameHash, sameHash]

/-- When revoking the tokens of an account changes nothing. -/
theorem find?_revokedTokens_same_iff
    (refresh : Table RefreshToken.tokenHash) :
    (∀ tokenHash,
        (revokedTokens refresh u choices).find? tokenHash =
          refresh.find? tokenHash) ↔
      ∀ rt ∈ refresh.rows, rt.userID = u.id → ¬ Revokes u choices := by
  constructor
  · intro same rt member owned revokes
    have kept := same rt.tokenHash
    rw [find?_revokedTokens, Table.find?_of_mem member] at kept
    simp only [Revokes] at revokes
    simp [Option.filter, owned, revokes] at kept
  · intro unrevoked tokenHash
    rw [find?_revokedTokens]
    cases found : refresh.find? tokenHash with
    | none => rfl
    | some rt =>
        have kept := unrevoked rt (Table.mem_of_find? found)
        simp only [Revokes, Bool.not_eq_false] at kept
        by_cases owned : rt.userID = u.id
        · simp [Option.filter, kept owned]
        · simp [Option.filter, owned]

/-- An accepted recovery is whole when the earlier tokens are gone. -/
theorem recoversOrKeeps_of_issued
    {completed : Program.Completed calls State Response}
    {later : Nat → Choice}
    (isCompleted :
      completed = served backend env state (.recoveryComplete (some req)) choices)
    (isLater : later = fun index => choices (index + 2))
    (proves : ProvesCode env state req u choices)
    (issues : IssuesAfterRecovery backend env state u later)
    (succeeds : completed.value.status = 200)
    (users :
      ∀ id,
        completed.state.store.users.find? id =
          if id = u.id then
            some (rotatedRow backend env req u later)
          else
            state.store.users.find? id)
    (tokens :
      completed.state.store.refresh =
        (revokedTokens state.store.refresh u later).upsert
          (backend.tokenRow (newRefreshToken env u.id (issuing u later)))) :
    RecoversOrKeeps backend env state (some req) choices ↔
      EndsWhole backend env state req u later := by
  subst isCompleted isLater
  have gone_iff :
      ∀ rt ∈ state.store.refresh.rows, rt.userID = u.id →
        ((served backend env state (.recoveryComplete (some req))
            choices).state.store.refresh.find? rt.tokenHash = none ↔
          Revokes u (fun index => choices (index + 2)) ∧
            rt.tokenHash ≠
              (newRefreshToken env u.id
                (issuing u fun index => choices (index + 2))).tokenHash) := by
    intro rt member owned
    rw [tokens, find?_issued_eq_none_iff member owned, Backend.tokenRow_tokenHash]
  simp only [RecoversOrKeeps, if_pos succeeds]
  constructor
  · rintro ⟨body, v, row, isBody, found, -, -, -, -, gone⟩
    cases isBody
    rw [proves.found] at found
    simp only [Prod.mk.injEq, Except.ok.injEq, and_true] at found
    subst found
    refine Or.inl ⟨issues, fun rt member owned => ?_⟩
    exact (gone_iff rt member owned).mp (gone rt member owned)
  · rintro (⟨-, revoked⟩ | ⟨unissued, -, -⟩)
    · refine ⟨req, u, rotatedRow backend env req u
        fun index => choices (index + 2), rfl, proves.found, ?_, rfl, rfl, rfl,
        fun rt member owned => ?_⟩
      · rw [users, if_pos rfl]
      · exact (gone_iff rt member owned).mpr (revoked rt member owned)
    · exact absurd issues unissued

/-- A refused recovery is whole when its writes changed nothing. -/
theorem recoversOrKeeps_of_unissued
    {completed : Program.Completed calls State Response}
    {later : Nat → Choice}
    (isCompleted :
      completed = served backend env state (.recoveryComplete (some req)) choices)
    (stored : state.store.users.find? u.id = some u)
    (unissued : ¬ IssuesAfterRecovery backend env state u later)
    (refused : completed.value.status ≠ 200)
    (users :
      ∀ id,
        completed.state.store.users.find? id =
          if id = u.id then
            some (rotatedRow backend env req u later)
          else
            state.store.users.find? id)
    (tokens :
      completed.state.store.refresh =
        revokedTokens state.store.refresh u later) :
    RecoversOrKeeps backend env state (some req) choices ↔
      EndsWhole backend env state req u later := by
  subst isCompleted
  simp only [RecoversOrKeeps, if_neg refused]
  constructor
  · intro same
    refine Or.inr ⟨unissued, ?_, ?_⟩
    · have row := same.users u.id
      rw [users, if_pos rfl, stored] at row
      exact Option.some.inj row
    · refine (find?_revokedTokens_same_iff state.store.refresh).mp ?_
      rw [← tokens]
      exact same.refresh
  · rintro (⟨issues, -⟩ | ⟨-, sameRow, unrevoked⟩)
    · exact absurd issues unissued
    · refine ⟨fun id => ?_, ?_⟩
      · rw [users, sameRow]
        split
        · rename_i isID
          rw [isID, stored]
        · rfl
      · rw [tokens]
        exact (find?_revokedTokens_same_iff state.store.refresh).mpr unrevoked

/--
Completing a recovery is all or nothing exactly when every recovery whose
password is written ends whole.
-/
theorem recoversOrKeeps_iff
    (backend : Backend)
    (env : Environment)
    (state : State)
    (req : Option RecoveryCompleteRequest)
    (choices : Nat → Choice) :
    RecoversOrKeeps backend env state req choices ↔
      ∀ body u,
        req = some body →
          ProvesCode env state body u choices →
            WritesPassword backend env body u
                (fun index => choices (index + 2)) →
              EndsWhole backend env state body u
                fun index => choices (index + 2) := by
  by_cases proved :
      ∃ body u, req = some body ∧ ProvesCode env state body u choices
  · obtain ⟨body, u, rfl, proves⟩ := proved
    have stored : state.store.users.find? u.id = some u := by
      rcases getUserByIdentifierHash_cases state.store
          (env.blindIdentifier body.identifier) with
        missing | ⟨other, found, isStored⟩
      · rw [proves.found] at missing
        cases missing
      · rw [proves.found] at found
        simp only [Prod.mk.injEq, Except.ok.injEq, and_true] at found
        rw [found]
        exact isStored
    obtain ⟨sameValue, sameState⟩ :=
      @recoveryComplete_of_proves backend env choices state u body proves
    have condition_iff :
        ∀ whole : RecoveryCompleteRequest → User → Prop,
          (∀ other v, some body = some other →
            ProvesCode env state other v choices → whole other v) ↔
              whole body u := by
      intro whole
      constructor
      · intro all
        exact all body u rfl proves
      · intro holds other v isBody otherProves
        cases isBody
        rw [proves.unique otherProves]
        exact holds
    rw [condition_iff]
    rcases @rotateAccount_ends backend env
        (fun index => choices (index + 2)) state
        (env.blindIdentifier body.identifier) u body stored with
      ⟨unwritten, refused, same⟩ | ⟨writes, status, users, tokens⟩
    · refine iff_of_true ?_ (fun writes => absurd writes unwritten)
      rw [← sameValue] at refused
      simp only [RecoversOrKeeps, if_neg refused, sameState, same]
      exact ⟨fun id => rfl, fun tokenHash => rfl⟩
    · rw [← sameValue] at status tokens
      rw [← sameState] at users tokens
      rw [← issuesAfterRecovery_iff] at status
      have later_iff :
          RecoversOrKeeps backend env state (some body) choices ↔
            EndsWhole backend env state body u
              fun index => choices (index + 2) := by
        by_cases issues :
            IssuesAfterRecovery backend env state u
              fun index => choices (index + 2)
        · have succeeds := status.mpr issues
          rw [if_pos succeeds] at tokens
          exact recoversOrKeeps_of_issued rfl rfl proves issues succeeds users
            tokens
        · have refused := fun succeeds => issues (status.mp succeeds)
          rw [if_neg refused] at tokens
          exact recoversOrKeeps_of_unissued rfl stored issues refused users
            tokens
      exact later_iff.trans (imp_iff_right writes).symm
  · have unproved :
        ∀ body u, req = some body → ¬ ProvesCode env state body u choices := by
      intro body u isBody proves
      exact proved ⟨body, u, isBody, proves⟩
    obtain ⟨refused, same⟩ :=
      @recoveryComplete_of_unproved backend env choices state req unproved
    refine iff_of_true ?_ ?_
    · simp only [RecoversOrKeeps, if_neg refused, same]
      exact ⟨fun id => rfl, fun tokenHash => rfl⟩
    · intro body u isBody proves
      exact absurd proves (unproved body u isBody)

end Recovery

/-- The refresh token of an earlier session. -/
def stolenToken : RefreshToken where
  tokenHash := "stolen"
  userID := "u"
  expiresAt := 1
  createdAt := 0
  used := false

/-- An account with a recovery code and one session. -/
def recoverable : State :=
  { State.empty with
    store := { Store.empty with
      users := Table.empty.upsert
        { id := "u"
          identifierHash := plainEnvironment.blindIdentifier "a"
          kdf := defaultKDF
          masterPasswordVerifier := "$p"
          protectedUserKey := "k"
          publicKey := ""
          protectedPrivateKey := ""
          recoveryProtectedUserKey := "r"
          recoveryVerifier := "$c"
          totpSecret := ""
          totpEnabled := false
          totpLastCounter := 0
          createdAt := 0
          updatedAt := 0 }
      refresh := Table.empty.upsert stolenToken } }

/-- The recovery of that account with its code. -/
def recoverWithCode : RecoveryCompleteRequest where
  identifier := "a"
  recoveryAuthHash := "c"
  masterPasswordHash := "q"
  protectedUserKey := "l"
  kdf := defaultKDF

/-- A moment at which creating a refresh token fails. -/
def creationFails (_ : Nat) : Choice :=
  { moment 7 with
    fails := fun operation =>
      match operation with
      | .createRefreshToken _ => true
      | _ => false }

/-- A moment at which revoking the refresh tokens of an account fails. -/
def revocationFails (_ : Nat) : Choice :=
  { moment 7 with
    fails := fun operation =>
      match operation with
      | .deleteRefreshTokensForUser _ => true
      | _ => false }

/--
When the new token cannot be created, the recovery answers an error although the
password is the new one.  When the sessions cannot be revoked, it succeeds and
the earlier session stays.
-/
theorem recovery_halfDone :
    ¬ RecoversOrKeeps .sqlite plainEnvironment recoverable
        (some recoverWithCode) creationFails ∧
      ¬ RecoversOrKeeps .sqlite plainEnvironment recoverable
        (some recoverWithCode) revocationFails := by
  constructor
  · have refused :
        (served .sqlite plainEnvironment recoverable
          (.recoveryComplete (some recoverWithCode))
          creationFails).value.status ≠ 200 := by
      decide +kernel
    have changed :
        (served .sqlite plainEnvironment recoverable
            (.recoveryComplete (some recoverWithCode))
            creationFails).state.store.users.find? "u" ≠
          recoverable.store.users.find? "u" := by
      decide +kernel
    intro whole
    simp only [RecoversOrKeeps, if_neg refused] at whole
    exact changed (whole.users "u")
  · have succeeds :
        (served .sqlite plainEnvironment recoverable
          (.recoveryComplete (some recoverWithCode))
          revocationFails).value.status = 200 := by
      decide +kernel
    have kept :
        (served .sqlite plainEnvironment recoverable
            (.recoveryComplete (some recoverWithCode))
            revocationFails).state.store.refresh.find? "stolen" ≠ none := by
      decide +kernel
    have owner :
        ∀ u, recoverable.store.getUserByIdentifierHash
            (plainEnvironment.blindIdentifier "a") =
              (.ok u, recoverable.store) →
          u.id = "u" := by
      intro u found
      have isOwner :
          (recoverable.store.getUserByIdentifierHash
            (plainEnvironment.blindIdentifier "a")).1.toOption.map User.id =
              some "u" := by
        decide +kernel
      rw [found] at isOwner
      exact Option.some.inj isOwner
    intro whole
    simp only [RecoversOrKeeps, if_pos succeeds] at whole
    obtain ⟨body, u, row, isBody, found, -, -, -, -, gone⟩ := whole
    cases isBody
    exact kept
      (gone stolenToken (List.mem_singleton.mpr rfl) (owner u found).symm)

/-!
## Refreshing a session
-/

/--
Presenting a refresh token is atomic.  Accepted, it leaves the token used and
one new unused token of its owner; refused, it leaves the token as it was.
-/
def RefreshesOrKeeps
    (backend : Backend)
    (env : Environment)
    (state : State)
    (refreshToken : String)
    (rt : RefreshToken)
    (choices : Nat → Choice) :
    Prop :=
  let completed := served backend env state (.refresh (some refreshToken)) choices
  let hash := env.hashRefreshToken refreshToken
  (completed.value.status = 200 ∧
      ∃ created : RefreshToken,
        created.userID = rt.userID ∧
        created.used = false ∧
        state.store.refresh.find? created.tokenHash = none ∧
        ∀ tokenHash,
          completed.state.store.refresh.find? tokenHash =
            if tokenHash = created.tokenHash then
              some created
            else if tokenHash = hash then
              some { rt with used := true }
            else
              state.store.refresh.find? tokenHash) ∨
    (completed.value.status ≠ 200 ∧
      completed.state.store.refresh.find? hash = some rt)

section Refresh

variable {backend : Backend} {env : Environment} {choices : Nat → Choice}
  {state : State} {hash refreshToken : String} {rt : RefreshToken}

/-- The presented token is read. -/
def Reads (env : Environment) (refreshToken : String) (choices : Nat → Choice) :
    Prop :=
  refreshToken ≠ "" ∧
    (choices 0).fails
      (.getRefreshToken (env.hashRefreshToken refreshToken)) = false

/-- The use of the presented token is recorded. -/
def Marks (env : Environment) (refreshToken : String) (choices : Nat → Choice) :
    Prop :=
  (choices 2).fails
    (.markRefreshTokenUsed (env.hashRefreshToken refreshToken)) = false

/-- The calls that issue the new token succeed. -/
abbrev Renews
    (backend : Backend)
    (env : Environment)
    (state : State)
    (rt : RefreshToken)
    (choices : Nat → Choice) :
    Prop :=
  StoresToken backend env state.store.refresh rt.userID
    fun index => choices (index + 3)

/-- The hash of the new token. -/
def drawnHash
    (env : Environment)
    (rt : RefreshToken)
    (choices : Nat → Choice) :
    String :=
  (newRefreshToken env rt.userID fun index => choices (index + 3)).tokenHash

/-- The rows of the refresh tokens after a use may have been recorded. -/
theorem mark_run
    (found : state.store.refresh.find? hash = some rt)
    (choice : Choice)
    (tokenHash : String) :
    (execute backend choice state
        (.markRefreshTokenUsed hash)).2.store.refresh.find? tokenHash =
      if tokenHash = hash ∧ choice.fails (.markRefreshTokenUsed hash) = false then
        some { rt with used := true }
      else
        state.store.refresh.find? tokenHash := by
  cases fails : choice.fails (.markRefreshTokenUsed hash) with
  | true =>
      simp [execute, attempt, fails]
  | false =>
      simp only [execute, attempt_of_succeeds fails,
        Store.markRefreshTokenUsed, found, Option.isSome_some, ↓reduceIte,
        Table.find?_update, and_true]
      by_cases isHash : tokenHash = hash
      · have sameHash := Table.key_of_find? found
        simp [isHash, found, sameHash]
      · rw [if_neg isHash]
        cases other : state.store.refresh.find? tokenHash with
        | none => rfl
        | some row =>
            have sameHash := Table.key_of_find? other
            simp [sameHash, isHash]

/-- How presenting a token ends that is read, unused and not expired. -/
theorem refresh_ends
    (found :
      state.store.refresh.find? (env.hashRefreshToken refreshToken) = some rt)
    (unused : rt.used = false)
    (unexpired : ¬ rt.expiresAt < (choices 1).now)
    (reads : Reads env refreshToken choices) :
    let completed :=
      served backend env state (.refresh (some refreshToken)) choices
    let marked :=
      (execute backend (choices 2) state
        (.markRefreshTokenUsed (env.hashRefreshToken refreshToken))).2
    (completed.value.status = 200 ↔ Renews backend env state rt choices) ∧
      completed.state.store.refresh =
        if completed.value.status = 200 then
          marked.store.refresh.upsert
            (backend.tokenRow
              (newRefreshToken env rt.userID fun index => choices (index + 3)))
        else
          marked.store.refresh := by
  intro completed marked
  have isRead :
      execute backend (choices 0) state
          (.getRefreshToken (env.hashRefreshToken refreshToken)) =
        (.ok rt, state) := by
    refine (attempt_of_succeeds reads.2 _).trans ?_
    simp only [Store.getRefreshToken, found]
  let renewed :=
    (issueTokens env rt.userID).run (execute backend)
      (fun index => choices (index + 3)) marked
  have isServed :
      completed.value =
          (match renewed.value with
          | none => writeError 500 "refresh failed"
          | some (access, refresh) =>
              { status := 200, body := .tokens access refresh }) ∧
        completed.state = renewed.state := by
    have isHandled :
        completed =
          (handleRefresh env (some refreshToken)).run (execute backend) choices
            state := rfl
    simp only [handleRefresh, if_neg reads.1, perform_bind,
      Program.run_perform, isRead, execute_now, if_neg unexpired, unused,
      Nat.zero_add, Bool.false_eq_true, ↓reduceIte, Program.run_bind]
      at isHandled
    rw [isHandled]
    change (Program.run _ (match renewed.value with
      | none => _ | some (access, refresh) => _) _ renewed.state).value = _ ∧
      (Program.run _ (match renewed.value with
      | none => _ | some (access, refresh) => _) _ renewed.state).state = _
    cases renewed.value with
    | none => exact ⟨rfl, rfl⟩
    | some tokens => exact ⟨rfl, rfl⟩
  have renews_iff :
      StoresToken backend env marked.store.refresh rt.userID
          (fun index => choices (index + 3)) ↔
        Renews backend env state rt choices := by
    refine storesToken_congr fun tokenHash => ?_
    rw [mark_run found]
    split
    · rename_i isMarked
      simp [isMarked.1, found]
    · rfl
  have issue :=
    @issueTokens_run backend env (fun index => choices (index + 3)) marked
      rt.userID
  rcases issue with
    ⟨stores, ⟨access, token, isIssued⟩, -, issuedTokens⟩ |
      ⟨refused, isRefused, unchanged⟩
  · have succeeds : completed.value.status = 200 := by
      rw [isServed.1, isIssued]
    refine ⟨iff_of_true succeeds (renews_iff.mp stores), ?_⟩
    rw [if_pos succeeds, isServed.2]
    exact issuedTokens
  · have fails : completed.value.status ≠ 200 := by
      rw [isServed.1, isRefused]
      simp [writeError]
    refine ⟨iff_of_false fails fun renews => refused (renews_iff.mpr renews),
      ?_⟩
    rw [if_neg fails, isServed.2]
    exact congrArg (fun s : State => s.store.refresh) unchanged

/-- A token that is not read stays as it was. -/
theorem refresh_of_unread (unread : ¬ Reads env refreshToken choices) :
    let completed :=
      served backend env state (.refresh (some refreshToken)) choices
    completed.value.status ≠ 200 ∧ completed.state = state := by
  by_cases isEmpty : refreshToken = ""
  · simp [served, serve, handleRefresh, isEmpty, writeError]
  · have fails :
        (choices 0).fails
          (.getRefreshToken (env.hashRefreshToken refreshToken)) = true := by
      by_contra succeeds
      exact unread ⟨isEmpty, Bool.not_eq_true _ |>.mp succeeds⟩
    have failed :
        execute backend (choices 0) state
            (.getRefreshToken (env.hashRefreshToken refreshToken)) =
          (.error .failure, state) := by
      simp only [execute, attempt, fails, ↓reduceIte]
    simp [served, serve, handleRefresh, isEmpty, failed, writeError]

/-- A new token is unused and belongs to the owner of the presented one. -/
theorem tokenRow_newRefreshToken (userID : String) :
    (backend.tokenRow (newRefreshToken env userID choices)).userID = userID ∧
      (backend.tokenRow (newRefreshToken env userID choices)).used = false := by
  unfold Backend.tokenRow
  split
  · exact ⟨rfl, rfl⟩
  · exact ⟨rfl, rfl⟩

/-- An accepted refresh is whole when it marked and added. -/
theorem refreshesOrKeeps_of_renewed
    {completed : Program.Completed calls State Response}
    (isCompleted :
      completed = served backend env state (.refresh (some refreshToken)) choices)
    (found :
      state.store.refresh.find? (env.hashRefreshToken refreshToken) = some rt)
    (unused : rt.used = false)
    (succeeds : completed.value.status = 200)
    (tokens :
      completed.state.store.refresh =
        (execute backend (choices 2) state
          (.markRefreshTokenUsed
            (env.hashRefreshToken refreshToken))).2.store.refresh.upsert
              (backend.tokenRow (newRefreshToken env rt.userID
                fun index => choices (index + 3)))) :
    RefreshesOrKeeps backend env state refreshToken rt choices ↔
      Marks env refreshToken choices ∧
        state.store.refresh.find? (drawnHash env rt choices) = none := by
  subst isCompleted
  have afterwards :
      ∀ tokenHash,
        (served backend env state (.refresh (some refreshToken))
            choices).state.store.refresh.find? tokenHash =
          if drawnHash env rt choices = tokenHash then
            some (backend.tokenRow (newRefreshToken env rt.userID
              fun index => choices (index + 3)))
          else if tokenHash = env.hashRefreshToken refreshToken ∧
              (choices 2).fails (.markRefreshTokenUsed
                (env.hashRefreshToken refreshToken)) = false then
            some { rt with used := true }
          else
            state.store.refresh.find? tokenHash := by
    intro tokenHash
    rw [tokens, Table.find?_upsert, Backend.tokenRow_tokenHash, mark_run found]
    rfl
  obtain ⟨owner, notUsed⟩ :=
    @tokenRow_newRefreshToken backend env
      (fun index => choices (index + 3)) rt.userID
  simp only [RefreshesOrKeeps, succeeds, ne_eq, not_true_eq_false, false_and,
    or_false, true_and]
  constructor
  · rintro ⟨created, _, _, isNew, rows⟩
    have isDrawn : drawnHash env rt choices = created.tokenHash := by
      by_contra notDrawn
      have row := rows created.tokenHash
      rw [if_pos rfl, afterwards, if_neg notDrawn] at row
      split at row
      · rename_i presented
        rw [presented.1, found] at isNew
        cases isNew
      · rw [isNew] at row
        cases row
    rw [isDrawn]
    refine ⟨?_, isNew⟩
    by_contra unmarked
    have row := rows (env.hashRefreshToken refreshToken)
    have other :
        env.hashRefreshToken refreshToken ≠ created.tokenHash := by
      intro same
      rw [← same, found] at isNew
      cases isNew
    rw [if_neg other, if_pos rfl, afterwards, isDrawn, if_neg other.symm,
      if_neg (fun both => unmarked both.2), found, Option.some.injEq] at row
    rw [row] at unused
    cases unused
  · rintro ⟨marks, isNew⟩
    refine ⟨backend.tokenRow (newRefreshToken env rt.userID
      fun index => choices (index + 3)), owner, notUsed, ?_, ?_⟩
    · rw [Backend.tokenRow_tokenHash]
      exact isNew
    · intro tokenHash
      rw [afterwards, Backend.tokenRow_tokenHash]
      have marked :
          (choices 2).fails (.markRefreshTokenUsed
            (env.hashRefreshToken refreshToken)) = false := marks
      rw [marked]
      simp only [drawnHash, and_true, @eq_comm _ tokenHash
        (newRefreshToken env rt.userID fun index =>
          choices (index + 3)).tokenHash]

/--
Presenting an unused token that has not expired is atomic exactly when the token
is not read, or both writes succeed and the new token is not stored yet, or both
writes fail.
-/
theorem refreshesOrKeeps_iff
    (backend : Backend)
    (env : Environment)
    (state : State)
    (refreshToken : String)
    (rt : RefreshToken)
    (choices : Nat → Choice)
    (found :
      state.store.refresh.find? (env.hashRefreshToken refreshToken) = some rt)
    (unused : rt.used = false)
    (unexpired : ¬ rt.expiresAt < (choices 1).now) :
    RefreshesOrKeeps backend env state refreshToken rt choices ↔
      (Reads env refreshToken choices →
        (Marks env refreshToken choices ∧
            Renews backend env state rt choices ∧
            state.store.refresh.find? (drawnHash env rt choices) = none) ∨
          (¬ Marks env refreshToken choices ∧
            ¬ Renews backend env state rt choices)) := by
  by_cases reads : Reads env refreshToken choices
  · obtain ⟨status, tokens⟩ :=
      @refresh_ends backend env choices state refreshToken rt found unused
        unexpired reads
    rw [imp_iff_right reads]
    by_cases renews : Renews backend env state rt choices
    · have succeeds := status.mpr renews
      rw [if_pos succeeds] at tokens
      rw [refreshesOrKeeps_of_renewed rfl found unused succeeds tokens]
      simp only [renews, true_and, not_true_eq_false, and_false, or_false]
    · have refused :
          ¬ (served backend env state (.refresh (some refreshToken))
            choices).value.status = 200 :=
        fun succeeds => renews (status.mp succeeds)
      rw [if_neg refused] at tokens
      simp only [RefreshesOrKeeps, refused, false_and, false_or, ne_eq,
        not_false_eq_true, true_and, renews, and_false, and_true]
      rw [tokens, mark_run found]
      by_cases marks : Marks env refreshToken choices
      · rw [if_pos ⟨rfl, marks⟩, Option.some.injEq]
        refine iff_of_false (fun same => ?_) (fun unmarked => unmarked marks)
        rw [← same] at unused
        cases unused
      · rw [if_neg (fun both => marks both.2)]
        exact iff_of_true found marks
  · obtain ⟨refused, same⟩ :=
      @refresh_of_unread backend env choices state refreshToken reads
    refine iff_of_true (Or.inr ⟨refused, ?_⟩) (fun isRead => absurd isRead reads)
    rw [same]
    exact found

end Refresh

/-- When nothing fails the one session is refreshed as a whole. -/
theorem refresh_whole :
    RefreshesOrKeeps .sqlite plainEnvironment oneSession "t"
      { tokenHash := plainEnvironment.hashRefreshToken "t", userID := "u",
        expiresAt := refreshTokenTTL, createdAt := 0, used := false }
      fun _ => moment 7 := by
  apply (refreshesOrKeeps_iff .sqlite plainEnvironment oneSession "t" _ _
    (by decide +kernel) rfl (by decide +kernel)).mpr
  intro reads
  exact Or.inl
    ⟨rfl, ⟨rfl, rfl, fun sql => by decide +kernel⟩, by decide +kernel⟩

/-- A moment at which marking a refresh token fails. -/
def markingFails (_ : Nat) : Choice :=
  { moment 7 with
    fails := fun operation =>
      match operation with
      | .markRefreshTokenUsed _ => true
      | _ => false }

/--
When the use cannot be recorded, the refresh succeeds and the presented token
stays good.  When the new token cannot be created, the refresh fails and the
presented token is used up.
-/
theorem refresh_halfDone :
    (¬ RefreshesOrKeeps .sqlite plainEnvironment oneSession "t"
        { tokenHash := plainEnvironment.hashRefreshToken "t", userID := "u",
          expiresAt := refreshTokenTTL, createdAt := 0, used := false }
        markingFails) ∧
      ¬ RefreshesOrKeeps .sqlite plainEnvironment oneSession "t"
        { tokenHash := plainEnvironment.hashRefreshToken "t", userID := "u",
          expiresAt := refreshTokenTTL, createdAt := 0, used := false }
        creationFails := by
  constructor
  · have isUnused :
        ((served .sqlite plainEnvironment oneSession (.refresh (some "t"))
          markingFails).state.store.refresh.find?
            (plainEnvironment.hashRefreshToken "t")).map
              RefreshToken.used = some false := by
      decide +kernel
    have succeeds :
        (served .sqlite plainEnvironment oneSession (.refresh (some "t"))
          markingFails).value.status = 200 := by
      decide +kernel
    rintro (⟨-, created, -, -, isNew, rows⟩ | ⟨refused, -⟩)
    · have isOther :
          plainEnvironment.hashRefreshToken "t" ≠ created.tokenHash := by
        intro same
        rw [← same] at isNew
        exact absurd isNew (by decide +kernel)
      rw [rows, if_neg isOther, if_pos rfl] at isUnused
      cases isUnused
    · exact refused succeeds
  · have isUsed :
        ((served .sqlite plainEnvironment oneSession (.refresh (some "t"))
          creationFails).state.store.refresh.find?
            (plainEnvironment.hashRefreshToken "t")).map
              RefreshToken.used = some true := by
      decide +kernel
    have refused :
        (served .sqlite plainEnvironment oneSession (.refresh (some "t"))
          creationFails).value.status ≠ 200 := by
      decide +kernel
    rintro (⟨succeeds, -⟩ | ⟨-, kept⟩)
    · exact refused succeeds
    · rw [kept] at isUsed
      cases isUsed

end Passwd.Server
