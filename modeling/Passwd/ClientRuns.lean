import Passwd.ClientSession
import Passwd.AccountRequests

namespace Passwd.Client

open Base64 Utf8 Crypto Interaction Server

/-!
# Running the operations of a client

What an operation of a client has learned and what it has changed when it
returns, on an account that its password alone signs in to.
-/

/-- No call of the server fails. -/
abbrev Calm (choices : Nat → Choice) : Prop :=
  ∀ index, Server.Calm (choices index).server

section Runs

variable {crypto : Primitives} {backend : Backend} {env : Environment}
  {choices : Nat → Choice} {state : State} {identifier : String} {u : User}

/-- A request is served from start to end. -/
@[simp] theorem execute_fetch
    (choice : Choice)
    (request : Request) :
    execute backend env choice state (.fetch request) =
      ((served backend env state request choice.server).value,
        (served backend env state request choice.server).state) :=
  rfl

/-- Random bytes leave the server alone. -/
@[simp] theorem execute_randomBytes (choice : Choice) (n : Nat) :
    execute backend env choice state (.randomBytes n) =
      (choice.bytes n, state) :=
  rfl

/-- Generating a key pair leaves the server alone. -/
@[simp] theorem execute_generateKey (choice : Choice) :
    execute backend env choice state .generateKey = (choice.keyPair, state) :=
  rfl

/-- A nonce is not empty. -/
theorem Choice.nonce_ne_nil (choice : Choice) : choice.bytes 12 ≠ [] := by
  intro isEmpty
  have twelve : (choice.bytes 12).length = 12 := by
    simp [Choice.bytes]
  rw [isEmpty] at twelve
  cases twelve

/-- The standard parameters reach a client as they were. -/
theorem receivedKdf_defaultKDF : receivedKdf defaultKDF = DEFAULT_KDF :=
  rfl

/-- The standard parameters reach the server as they were. -/
theorem sentKdf_DEFAULT_KDF : sentKdf DEFAULT_KDF = defaultKDF :=
  rfl

/-!
## Signing in
-/

/-- A sign-in derives its keys with the standard parameters. -/
theorem loginAccount_run
    (holds : Holds state.kept (env.blindIdentifier identifier) u)
    (calm : Calm choices)
    (masterPassword totpCode : String) :
    let signedIn (masterPasswordHash : String) :=
      served backend env state
        (.login (some
          { identifier := identifier
            masterPasswordHash := masterPasswordHash
            totpCode := totpCode }))
        (choices 1).server
    let completed :=
      (loginAccount crypto identifier masterPassword totpCode).run
        (execute backend env) choices state
    match loginKeys crypto identifier masterPassword DEFAULT_KDF with
    | none => completed.value = none
    | some (masterKey, masterPasswordHash) =>
        completed.value =
            (if (signedIn masterPasswordHash).value.isOk then
              loginResult (signedIn masterPasswordHash).value.body
            else none).bind (openSession crypto identifier masterKey) ∧
          completed.state = (signedIn masterPasswordHash).state := by
  obtain ⟨told, unchanged⟩ :=
    @prelogin_value backend env _ state u identifier holds (calm 0)
  cases derived : loginKeys crypto identifier masterPassword DEFAULT_KDF with
  | none =>
      simp [loginAccount, prelogin, call, told, unchanged, Response.isOk,
        receivedKdf_defaultKDF, derived]
  | some keys =>
      simp [loginAccount, prelogin, call, login, told, unchanged,
        Response.isOk, receivedKdf_defaultKDF, derived]

/-- What a client that has signed in knows, and what it has changed. -/
theorem loginAccount_of_some
    (holds : Holds state.kept (env.blindIdentifier identifier) u)
    (calm : Calm choices)
    {masterPassword totpCode : String}
    {s : Session}
    (opened :
      ((loginAccount crypto identifier masterPassword totpCode).run
        (execute backend env) choices state).value = some s) :
    ∃ masterKey masterPasswordHash,
      loginKeys crypto identifier masterPassword DEFAULT_KDF =
          some (masterKey, masterPasswordHash) ∧
        env.verifyVerifier u.masterPasswordVerifier masterPasswordHash =
          some true ∧
        unwrapUserKey crypto (stretchMasterKey crypto masterKey)
          u.protectedUserKey = some s.userKey ∧
        s.protectedPrivateKey = u.protectedPrivateKey ∧
        ((loginAccount crypto identifier masterPassword totpCode).run
            (execute backend env) choices state).state.kept =
          state.kept.afterReset (env.blindIdentifier identifier) := by
  have ran :=
    @loginAccount_run crypto backend env choices state identifier u holds calm
      masterPassword totpCode
  dsimp only at ran
  cases derived : loginKeys crypto identifier masterPassword DEFAULT_KDF with
  | none =>
      rw [derived] at ran
      rw [ran] at opened
      cases opened
  | some keys =>
      obtain ⟨masterKey, masterPasswordHash⟩ := keys
      rw [derived] at ran
      obtain ⟨value, final⟩ := ran
      rw [value] at opened
      rw [final]
      split at opened
      · rename_i ok
        obtain ⟨password, -, ⟨access, refresh, body⟩, changed⟩ :=
          @login_of_ok backend env (choices 1).server state u
            { identifier := identifier
              masterPasswordHash := masterPasswordHash
              totpCode := totpCode }
            holds.toNames holds.noCodes (calm 1) ok
        rw [body] at opened
        obtain ⟨userKey, unwrapped, rfl⟩ := Option.map_eq_some_iff.mp opened
        exact ⟨masterKey, masterPasswordHash, rfl, password, unwrapped, rfl,
          changed⟩
      · cases opened

/-- Signing in succeeds with the password whose hash the account verifies. -/
theorem loginAccount_succeeds
    (holds : Holds state.kept (env.blindIdentifier identifier) u)
    (calm : Calm choices)
    (fresh : ∀ index, DrawsNewToken env state (choices index).server)
    {masterPassword masterPasswordHash : String}
    {masterKey userKey : Bytes}
    (derived :
      loginKeys crypto identifier masterPassword DEFAULT_KDF =
        some (masterKey, masterPasswordHash))
    (password :
      env.verifyVerifier u.masterPasswordVerifier masterPasswordHash =
        some true)
    (unwrapped :
      unwrapUserKey crypto (stretchMasterKey crypto masterKey)
        u.protectedUserKey = some userKey)
    (totpCode : String) :
    ∃ s,
      ((loginAccount crypto identifier masterPassword totpCode).run
          (execute backend env) choices state).value = some s ∧
        s.userKey = userKey ∧
        s.protectedPrivateKey = u.protectedPrivateKey := by
  have ran :=
    @loginAccount_run crypto backend env choices state identifier u holds calm
      masterPassword totpCode
  dsimp only at ran
  rw [derived] at ran
  have ok :=
    @login_succeeds backend env (choices 1).server state u
      { identifier := identifier
        masterPasswordHash := masterPasswordHash
        totpCode := totpCode }
      holds (calm 1) (fresh 1) password
  obtain ⟨-, -, ⟨access, refresh, body⟩, -⟩ :=
    @login_of_ok backend env (choices 1).server state u
      { identifier := identifier
        masterPasswordHash := masterPasswordHash
        totpCode := totpCode }
      holds.toNames holds.noCodes (calm 1) ok
  refine
    ⟨{ identifier := identifier
       accessToken := access
       refreshToken := refresh
       userKey := userKey
       protectedPrivateKey := u.protectedPrivateKey }, ?_, rfl, rfl⟩
  rw [ran.1, if_pos ok, body]
  simp [loginResult, openSession, unwrapped]

/-!
## Registering
-/

/-- What a registration protects can be unwrapped with its password. -/
theorem registrationBundle_of_some
    (authenticated : crypto.Authenticated)
    {masterPassword : String}
    {params : KdfParams}
    {userKey keyNonce privateNonce : Bytes}
    {keyPair : Bytes × Bytes}
    (hasKeyNonce : keyNonce ≠ [])
    (hasPrivateNonce : privateNonce ≠ [])
    {bundle : RegistrationBundle}
    (built :
      registrationBundle crypto identifier masterPassword params userKey
        keyNonce keyPair privateNonce = some bundle) :
    bundle.identifier =
        Identifier.normalizeIdentifier crypto.caseMapping identifier ∧
      bundle.kdf = params ∧
      bundle.userKey = userKey ∧
      (∃ masterKey,
        loginKeys crypto identifier masterPassword params =
            some (masterKey, bundle.masterPasswordHash) ∧
          unwrapUserKey crypto (stretchMasterKey crypto masterKey)
            bundle.protectedUserKey = some userKey) ∧
      unwrapPrivateKey crypto userKey bundle.protectedPrivateKey =
        some keyPair.2 := by
  obtain ⟨masterKey, derived, combined⟩ := Option.bind_eq_some_iff.mp built
  split at combined
  · rename_i wrapped hash privateKey isWrapped isHash isPrivateKey
    cases combined
    refine ⟨rfl, rfl, rfl, ⟨masterKey, ?_, ?_⟩, ?_⟩
    · simp [loginKeys, derived, isHash]
    · exact openEnvelope_of_sealEnvelope authenticated hasKeyNonce isWrapped
    · exact openEnvelope_of_sealEnvelope authenticated hasPrivateNonce
        isPrivateKey
  · cases combined

/-- Nothing is counted against a key right after its failures are forgotten. -/
theorem find?_resetLockout (lockout : Table LockEntry.key) (key : String) :
    (resetLockout lockout key).find? key = none := by
  rw [resetLockout, Table.find?_delete, Option.filter_eq_none_iff]
  intro entry found
  simp [Table.key_of_find? found]

/-- An account that its password has just signed in to. -/
theorem holds_afterReset
    {idHash : String}
    (names : Names state.store.users idHash u)
    (standard : u.kdf = defaultKDF)
    (noCodes : u.totpEnabled = false)
    (noPasskey : state.store.hasPasskey u.id = false) :
    Holds (state.kept.afterReset idHash) idHash u where
  toNames := names
  standard := standard
  noCodes := noCodes
  noPasskey := noPasskey
  unlocked := find?_resetLockout _ _

/-- An account that has just been registered, and the session on it. -/
theorem registerAccount_of_some
    (authenticated : crypto.Authenticated)
    (calm : Calm choices)
    {masterPassword : String}
    {s : Session}
    (registered :
      ((registerAccount crypto identifier masterPassword).run
        (execute backend env) choices state).value = some s) :
    ∃ u masterKey masterPasswordHash salt,
      u.id ≠ "" ∧
        Holds
          ((registerAccount crypto identifier masterPassword).run
            (execute backend env) choices state).state.kept
          (env.blindIdentifier
            (Identifier.normalizeIdentifier crypto.caseMapping identifier))
          u ∧
        loginKeys crypto identifier masterPassword DEFAULT_KDF =
          some (masterKey, masterPasswordHash) ∧
        u.masterPasswordVerifier = env.phcVerifier salt masterPasswordHash ∧
        unwrapUserKey crypto (stretchMasterKey crypto masterKey)
          u.protectedUserKey = some s.userKey ∧
        unwrapPrivateKey crypto s.userKey u.protectedPrivateKey =
          some (choices 2).keyPair.2 ∧
        s.protectedPrivateKey = u.protectedPrivateKey := by
  cases built :
      registrationBundle crypto identifier masterPassword DEFAULT_KDF
        ((choices 0).bytes USER_KEY_BYTES) ((choices 1).bytes 12)
        (choices 2).keyPair ((choices 3).bytes 12) with
  | none =>
      simp [registerAccount, buildRegistration, execute, built] at registered
  | some bundle =>
      obtain ⟨named, standard, sameKey, ⟨masterKey, derived, unwrapped⟩,
          isPrivateKey⟩ :=
        registrationBundle_of_some authenticated (Choice.nonce_ne_nil _)
          (Choice.nonce_ne_nil _) built
      simp only [registerAccount, buildRegistration, ask_bind,
        Program.perform_bind, Program.run_perform, execute_randomBytes,
        execute_generateKey, Nat.zero_add, Nat.reduceAdd, built, call,
        Program.pure_eq_done, Program.done_bind, execute_fetch]
        at registered ⊢
      split at registered
      · cases registered
      · rename_i accepted
        split at accepted
        · rename_i isRegistered
          simp only [login, ask_bind, Program.perform_bind,
            Program.run_perform, execute_fetch, Program.pure_eq_done,
            Program.done_bind, Program.run_done, Nat.zero_add,
            Nat.reduceAdd] at registered ⊢
          obtain ⟨res, signedIn, rfl⟩ := Option.map_eq_some_iff.mp registered
          split at signedIn
          · rename_i isSignedIn
            obtain ⟨id, salt, createdAt, updatedAt, hasID, names⟩ :=
              @register_of_ok backend env (choices 4).server state
                bundle.request (calm 4) isRegistered
            obtain ⟨-, noPasskey, -, changed⟩ :=
              @login_of_ok backend env (choices 5).server _ _
                { identifier := bundle.identifier
                  masterPasswordHash := bundle.masterPasswordHash
                  totpCode := "" }
                names rfl (calm 5) isSignedIn
            refine
              ⟨registeredUser env bundle.request id
                (env.phcVerifier salt bundle.masterPasswordHash) createdAt
                updatedAt,
                masterKey, bundle.masterPasswordHash, salt, hasID, ?_,
                derived, rfl, ?_, ?_, rfl⟩
            · rw [changed, ← named]
              refine holds_afterReset names ?_ rfl noPasskey
              simp [registeredUser, RegistrationBundle.request, standard,
                sentKdf_DEFAULT_KDF]
            · exact unwrapped.trans (congrArg some sameKey.symm)
            · rw [sameKey]
              exact isPrivateKey
          · cases signedIn
        · cases accepted

/-!
## Recovery
-/

/-- Drawing words leaves the server alone. -/
theorem generateWords_state (words : Nat) :
    ((generateWords crypto words).run (execute backend env) choices
      state).state = state := by
  induction words generalizing choices with
  | zero =>
      rfl
  | succ words inductionHypothesis =>
      simp only [generateWords, ask_bind, Program.run_perform,
        execute_randomBytes, Program.run_bind, inductionHypothesis]
      rfl

/-- Drawing a recovery code leaves the server alone. -/
theorem generateAccountId_ends
    {α : Type}
    (words : Nat)
    (next : String → Client α) :
    ∃ code count,
      let rest :=
        (next code).run (execute backend env)
          (fun index => choices (count + index)) state
      ((generateAccountId crypto words >>= next).run (execute backend env)
            choices state).value = rest.value ∧
        ((generateAccountId crypto words >>= next).run (execute backend env)
            choices state).state = rest.state := by
  simp only [generateAccountId, Program.bind_assoc, Program.pure_eq_done,
    Program.done_bind]
  rw [Program.run_bind]
  dsimp only
  rw [generateWords_state]
  exact ⟨_, _, rfl, rfl⟩

/-- What enabling recovery has done when it displays a code. -/
theorem enableRecovery_of_some
    (authenticated : crypto.Authenticated)
    {idHash : String}
    (holds : Holds state.kept idHash u)
    (calm : Calm choices)
    {s : Session}
    {recoveryCode : String}
    (enabled :
      ((enableRecovery crypto u.id s).run (execute backend env) choices
        state).value = some recoveryCode) :
    ∃ keys wrapped salt updatedAt,
      deriveRecoveryKeys crypto recoveryCode = some keys ∧
        unwrapUserKeyWithRecovery crypto keys.recoveryEncKey wrapped =
          some s.userKey ∧
        Holds
          ((enableRecovery crypto u.id s).run (execute backend env) choices
            state).state.kept
          idHash
          { u with
            recoveryProtectedUserKey := wrapped
            recoveryVerifier := env.phcVerifier salt keys.recoveryAuthHash
            updatedAt := updatedAt } ∧
        ((enableRecovery crypto u.id s).run (execute backend env) choices
          state).state.kept.ciphers = state.kept.ciphers := by
  simp only [enableRecovery, enrollRecovery, Program.bind_assoc] at enabled ⊢
  obtain ⟨code, count, value, final⟩ :=
    @generateAccountId_ends crypto backend env choices state _ 24 _
  rw [value] at enabled
  rw [final]
  clear value final
  cases derived : deriveRecoveryKeys crypto code with
  | none =>
      rw [derived] at enabled
      cases enabled
  | some keys =>
      simp only [derived, ask_bind, Program.perform_bind, Program.run_perform,
        execute_randomBytes, Program.pure_eq_done, Program.done_bind]
        at enabled ⊢
      cases isWrapped :
          wrapUserKeyWithRecovery crypto keys.recoveryEncKey s.userKey
            ((choices (count + 0)).bytes 12) with
      | none =>
          rw [isWrapped] at enabled
          cases enabled
      | some wrapped =>
          simp only [isWrapped, Option.map_some, call, ask_bind,
            Program.perform_bind, Program.run_perform, execute_fetch,
            Program.pure_eq_done, Program.done_bind, Program.run_done]
            at enabled ⊢
          obtain ⟨body, accepted, rfl⟩ := Option.map_eq_some_iff.mp enabled
          obtain ⟨ok, -⟩ := Option.ite_none_right_eq_some.mp accepted
          obtain ⟨salt, updatedAt, held, sameCiphers⟩ :=
            @recoveryEnable_of_ok backend env _ state idHash u
              { recoveryProtectedUserKey := wrapped
                recoveryAuthHash := keys.recoveryAuthHash }
              holds (calm _) ok
          have unwrapped :
              unwrapUserKeyWithRecovery crypto keys.recoveryEncKey wrapped =
                some s.userKey :=
            openEnvelope_of_sealEnvelope authenticated
              (Choice.nonce_ne_nil _) isWrapped
          exact ⟨keys, wrapped, salt, updatedAt, derived, unwrapped, held,
            sameCiphers⟩

/-- What disabling recovery has done. -/
theorem disableRecovery_holds
    {idHash : String}
    (holds : Holds state.kept idHash u)
    (calm : Calm choices) :
    ∃ updatedAt,
      Holds
          ((disableRecovery u.id).run (execute backend env) choices
            state).state.kept
          idHash
          { u with
            recoveryProtectedUserKey := ""
            recoveryVerifier := ""
            updatedAt := updatedAt } ∧
        ((disableRecovery u.id).run (execute backend env) choices
          state).state.kept.ciphers = state.kept.ciphers :=
  @recoveryDisable_holds backend env _ state idHash u holds (calm 0)

/-- What a client is told about the recovery of an account. -/
theorem recoveryChallenge_run
    (holds : Holds state.kept (env.blindIdentifier identifier) u)
    (enabled : u.recoveryVerifier ≠ "")
    (calm : Calm choices) :
    ((recoveryChallenge identifier).run (execute backend env) choices
          state).value =
        some (u.recoveryProtectedUserKey, DEFAULT_KDF) ∧
      ((recoveryChallenge identifier).run (execute backend env) choices
        state).state.kept = state.kept := by
  obtain ⟨told, unchanged⟩ :=
    @recoveryChallenge_value backend env _ state u identifier holds enabled
      (calm 0)
  simp [recoveryChallenge, call, told, unchanged, Response.isOk,
    receivedKdf_defaultKDF]

/-- What completing a recovery wraps, when it can. -/
theorem completeRecovery_of_some
    (authenticated : crypto.Authenticated)
    {recoveryCode recoveryProtectedUserKey newMasterPassword : String}
    {params : KdfParams}
    {nonce : Bytes}
    (hasNonce : nonce ≠ [])
    {reset : RecoveryReset}
    (completed :
      completeRecovery crypto recoveryCode recoveryProtectedUserKey identifier
        newMasterPassword params nonce = some reset) :
    ∃ keys masterKey,
      deriveRecoveryKeys crypto recoveryCode = some keys ∧
        reset.recoveryAuthHash = keys.recoveryAuthHash ∧
        reset.kdf = params ∧
        unwrapUserKeyWithRecovery crypto keys.recoveryEncKey
          recoveryProtectedUserKey = some reset.userKey ∧
        loginKeys crypto identifier newMasterPassword params =
          some (masterKey, reset.masterPasswordHash) ∧
        unwrapUserKey crypto (stretchMasterKey crypto masterKey)
          reset.protectedUserKey = some reset.userKey := by
  obtain ⟨keys, derived, unwrapping⟩ := Option.bind_eq_some_iff.mp completed
  obtain ⟨userKey, unwrapped, deriving'⟩ :=
    Option.bind_eq_some_iff.mp unwrapping
  obtain ⟨⟨masterKey, hash⟩, isDerived, wrapping⟩ :=
    Option.bind_eq_some_iff.mp deriving'
  obtain ⟨wrapped, isWrapped, rfl⟩ := Option.map_eq_some_iff.mp wrapping
  exact ⟨keys, masterKey, derived, rfl, rfl, unwrapped, isDerived,
    openEnvelope_of_sealEnvelope authenticated hasNonce isWrapped⟩

/-- A recovery resets the password with what the challenge wraps. -/
theorem recoverAccount_run
    (holds : Holds state.kept (env.blindIdentifier identifier) u)
    (enabled : u.recoveryVerifier ≠ "")
    (calm : Calm choices)
    (recoveryCode newMasterPassword : String) :
    let challenged :=
      ((recoveryChallenge identifier).run (execute backend env) choices
        state).state
    let answered (reset : RecoveryReset) :=
      served backend env challenged
        (.recoveryComplete (some
          { identifier := identifier
            recoveryAuthHash := reset.recoveryAuthHash
            masterPasswordHash := reset.masterPasswordHash
            protectedUserKey := reset.protectedUserKey
            kdf := sentKdf reset.kdf }))
        (choices 2).server
    let completed :=
      (recoverAccount crypto identifier recoveryCode newMasterPassword).run
        (execute backend env) choices state
    match completeRecovery crypto recoveryCode u.recoveryProtectedUserKey
        identifier newMasterPassword DEFAULT_KDF ((choices 1).bytes 12) with
    | none => completed.value = none
    | some reset =>
        completed.value =
            ((if (answered reset).value.isOk then
              some (answered reset).value.body
            else none).bind loginResult).map (fun res =>
              { identifier := identifier
                accessToken := res.accessToken
                refreshToken := res.refreshToken
                userKey := reset.userKey
                protectedPrivateKey := res.protectedPrivateKey }) ∧
          completed.state = (answered reset).state := by
  have told :=
    (@recoveryChallenge_run backend env choices state identifier u holds
      enabled calm).1
  have once :
      ((recoveryChallenge identifier).run (execute backend env) choices
        state).history.length = 1 := by
    simp only [recoveryChallenge, call, ask_bind, Program.perform_bind,
      Program.pure_eq_done, Program.done_bind, Program.run_perform]
    split
    · rfl
    · rfl
  simp only [recoverAccount]
  rw [Program.run_bind]
  dsimp only
  rw [told, once]
  cases completed :
      completeRecovery crypto recoveryCode u.recoveryProtectedUserKey
        identifier newMasterPassword DEFAULT_KDF ((choices 1).bytes 12) with
  | none =>
      simp [completed]
  | some reset =>
      simp only [ask_bind, Program.run_perform, execute_randomBytes,
        Nat.add_zero, completed]
      exact ⟨rfl, rfl⟩

/-- What a recovery has done when it returns a session. -/
theorem recoverAccount_of_some
    (authenticated : crypto.Authenticated)
    (holds : Holds state.kept (env.blindIdentifier identifier) u)
    (enabled : u.recoveryVerifier ≠ "")
    (calm : Calm choices)
    {recoveryCode newMasterPassword : String}
    {s : Session}
    (recovered :
      ((recoverAccount crypto identifier recoveryCode newMasterPassword).run
        (execute backend env) choices state).value = some s) :
    ∃ keys masterKey masterPasswordHash wrapped salt updatedAt,
      deriveRecoveryKeys crypto recoveryCode = some keys ∧
        unwrapUserKeyWithRecovery crypto keys.recoveryEncKey
          u.recoveryProtectedUserKey = some s.userKey ∧
        s.protectedPrivateKey = u.protectedPrivateKey ∧
        loginKeys crypto identifier newMasterPassword DEFAULT_KDF =
          some (masterKey, masterPasswordHash) ∧
        unwrapUserKey crypto (stretchMasterKey crypto masterKey) wrapped =
          some s.userKey ∧
        Holds
          ((recoverAccount crypto identifier recoveryCode
            newMasterPassword).run (execute backend env) choices
            state).state.kept
          (env.blindIdentifier identifier)
          { u with
            masterPasswordVerifier := env.phcVerifier salt masterPasswordHash
            protectedUserKey := wrapped
            kdf := defaultKDF
            updatedAt := updatedAt } ∧
        ((recoverAccount crypto identifier recoveryCode
          newMasterPassword).run (execute backend env) choices
          state).state.kept.ciphers = state.kept.ciphers := by
  have unchanged :=
    (@recoveryChallenge_run backend env choices state identifier u holds
      enabled calm).2
  have ran :=
    @recoverAccount_run crypto backend env choices state identifier u holds
      enabled calm recoveryCode newMasterPassword
  dsimp only at ran
  cases completed :
      completeRecovery crypto recoveryCode u.recoveryProtectedUserKey
        identifier newMasterPassword DEFAULT_KDF ((choices 1).bytes 12) with
  | none =>
      rw [completed] at ran
      rw [ran] at recovered
      cases recovered
  | some reset =>
      rw [completed] at ran
      obtain ⟨value, final⟩ := ran
      rw [value] at recovered
      rw [final]
      obtain ⟨res, answered, rfl⟩ := Option.map_eq_some_iff.mp recovered
      obtain ⟨body, accepted, isLogin⟩ := Option.bind_eq_some_iff.mp answered
      obtain ⟨ok, isBody⟩ := Option.ite_none_right_eq_some.mp accepted
      obtain ⟨keys, masterKey, derived, sameHash, sameKdf, unwrapped,
          isDerived, isUnwrapped⟩ :=
        completeRecovery_of_some authenticated (Choice.nonce_ne_nil _)
          completed
      have standard : sentKdf reset.kdf = defaultKDF := by
        rw [sameKdf]
        exact sentKdf_DEFAULT_KDF
      obtain ⟨⟨access, refresh, shape⟩, salt, updatedAt, held, sameCiphers⟩ :=
        @recoveryComplete_of_ok backend env (choices 2).server _ u
          { identifier := identifier
            recoveryAuthHash := reset.recoveryAuthHash
            masterPasswordHash := reset.masterPasswordHash
            protectedUserKey := reset.protectedUserKey
            kdf := sentKdf reset.kdf }
          (holds.congr unchanged) (calm _) standard ok
      rw [← Option.some.inj isBody, shape] at isLogin
      cases isLogin
      exact ⟨keys, masterKey, reset.masterPasswordHash,
        reset.protectedUserKey, salt, updatedAt, derived, unwrapped, rfl,
        isDerived, isUnwrapped, held,
        sameCiphers.trans (congrArg Kept.ciphers unchanged)⟩

/-!
## Items
-/

/-- The spelling of an object begins with a brace. -/
theorem stringify_object_unmarked (fields : Json.Members) :
    (stringify (.object fields)).toList.head? ≠ some byteOrderMark := by
  cases fields with
  | nil =>
      simp [stringify, Json.write]
      decide
  | cons first rest =>
      obtain ⟨key, value⟩ := first
      simp [stringify, Json.write]
      decide

/-- Encrypting an item leaves the server alone and can be undone. -/
theorem encryptFields_ends
    (authenticated : crypto.Authenticated)
    {α : Type}
    (s : Session)
    (fields : Json.Members)
    (next : Option String → Client α) :
    ∃ encrypted,
      (∀ data, encrypted = some data →
        decryptItemKeyed crypto s.userKey data =
          some (stringify (.object fields))) ∧
      let rest :=
        (next encrypted).run (execute backend env)
          (fun index => choices (index + 3)) state
      ((encryptFields crypto s fields >>= next).run (execute backend env)
            choices state).value = rest.value ∧
        ((encryptFields crypto s fields >>= next).run (execute backend env)
            choices state).state = rest.state := by
  refine ⟨_, ?_, rfl, rfl⟩
  intro data encrypted
  exact decryptItemKeyed_of_encryptItemKeyed authenticated
    (stringify_object_unmarked fields) (Choice.nonce_ne_nil _)
    (Choice.nonce_ne_nil _) encrypted

/-- What adding an item has done when it returns the id. -/
theorem addItem_of_some
    (authenticated : crypto.Authenticated)
    {userID id : String}
    {s : Session}
    {fields : Json.Members}
    (added :
      ((addItem crypto userID s fields).run (execute backend env) choices
        state).value = some id) :
    ∃ row : Cipher,
      row.id = id ∧ row.userID = userID ∧
        decryptItemKeyed crypto s.userKey row.data =
          some (stringify (.object fields)) ∧
        state.store.ciphers.find? id = none ∧
        ((addItem crypto userID s fields).run (execute backend env) choices
            state).state.kept =
          { state.kept with ciphers := state.store.ciphers.upsert row } := by
  unfold addItem at added ⊢
  obtain ⟨encrypted, decrypts, value, final⟩ :=
    @encryptFields_ends crypto backend env choices state authenticated _ s
      fields _
  rw [value] at added
  rw [final]
  clear value final
  cases encrypted with
  | none =>
      cases added
  | some data =>
      simp only [call, ask_bind, Program.perform_bind, Program.run_perform,
        execute_fetch, Program.pure_eq_done, Program.done_bind] at added ⊢
      split at added
      · rename_i stored accepted
        obtain ⟨ok, isBody⟩ := Option.ite_none_right_eq_some.mp accepted
        obtain ⟨stored, row, createdAt, updatedAt, shape, sameID, sameUser,
            sameData, isNew, written⟩ :=
          @createCipher_of_ok backend env _ state userID data ok
        have answered := isBody.symm.trans (congrArg some shape)
        cases answered
        cases added
        refine ⟨row, sameID, sameUser, ?_, isNew, written⟩
        rw [sameData]
        exact decrypts data rfl
      · cases added

/-- What saving an item has done when it returns. -/
theorem saveItem_of_some
    (authenticated : crypto.Authenticated)
    {userID id : String}
    {s : Session}
    {fields : Json.Members}
    (saved :
      ((saveItem crypto userID s id fields).run (execute backend env) choices
        state).value = some ()) :
    ∃ (row : Cipher) (ciphers : Table Cipher.id),
      row.userID = userID ∧
        decryptItemKeyed crypto s.userKey row.data =
          some (stringify (.object fields)) ∧
        (∀ other,
          ciphers.find? other =
            if other = id then some row
            else state.store.ciphers.find? other) ∧
        ((saveItem crypto userID s id fields).run (execute backend env)
            choices state).state.kept =
          { state.kept with ciphers := ciphers } := by
  unfold saveItem at saved ⊢
  obtain ⟨encrypted, decrypts, value, final⟩ :=
    @encryptFields_ends crypto backend env choices state authenticated _ s
      fields _
  rw [value] at saved
  rw [final]
  clear value final
  cases encrypted with
  | none =>
      cases saved
  | some data =>
      simp only [call, ask_bind, Program.perform_bind, Program.run_perform,
        execute_fetch, Program.pure_eq_done, Program.done_bind,
        Program.run_done] at saved ⊢
      obtain ⟨body, accepted, -⟩ := Option.map_eq_some_iff.mp saved
      obtain ⟨ok, -⟩ := Option.ite_none_right_eq_some.mp accepted
      obtain ⟨row, ciphers, sameUser, sameData, found, written⟩ :=
        @updateCipher_of_ok backend env _ state userID id data ok
      refine ⟨row, ciphers, sameUser, ?_, found, written⟩
      rw [sameData]
      exact decrypts data rfl

/-- The items that a client synchronizes. -/
theorem sync_run
    {userID : String}
    (hasID : userID ≠ "")
    (calm : Calm choices) :
    ∃ stored,
      ((sync userID).run (execute backend env) choices state).value =
          some stored ∧
        ∀ c ∈ state.store.ciphers.rows,
          c.userID = userID → (c.id, c.data) ∈ stored := by
  obtain ⟨ciphers, told, listed⟩ :=
    @sync_value backend env _ state userID hasID (calm 0)
  refine ⟨ciphers.map fun c => (c.1, c.2.1), ?_, ?_⟩
  · simp [sync, call, told, Response.isOk]
  · intro c member isOwner
    exact List.mem_map.mpr ⟨_, listed c member isOwner, rfl⟩

end Runs

end Passwd.Client
