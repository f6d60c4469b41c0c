import Passwd.ServerRuns
import Passwd.TokenIssuance

namespace Passwd.Server

open Base64 Interaction

/-!
# What the requests of one account do

For each request that an account's client makes, what an accepting response says
about the state before and after it.  Issuing tokens and auditing touch nothing
that a later login or the vault depends on, so the results are stated about the
rest of the state.
-/

/-- What a login and the vault depend on. -/
structure Kept where
  users : Table User.id
  ciphers : Table Cipher.id
  passkeys : Table WebAuthnCredential.id
  lockout : Table LockEntry.key

/-- The part of a state that a login and the vault depend on. -/
def State.kept (state : State) : Kept where
  users := state.store.users
  ciphers := state.store.ciphers
  passkeys := state.store.passkeys
  lockout := state.lockout

/-- The same after the failures of a key are forgotten. -/
def Kept.afterReset (kept : Kept) (idHash : String) : Kept :=
  { kept with lockout := resetLockout kept.lockout idHash }

/-- The calls that leave that part alone. -/
def Operation.isQuiet : Operation → Bool
  | .recordFailure _ => false
  | .reset _ => false
  | operation =>
      !operation.touches .users && !operation.touches .ciphers &&
        !operation.touches .passkeys

section Quiet

variable {backend : Backend} {env : Environment} {choices : Nat → Choice}
  {state : State}

/-- A store call leaves the lockout tracker alone. -/
theorem attempt_lockout
    {α : Type}
    (choice : Choice)
    (state : State)
    (operation : Operation)
    (outcome : Store.Outcome α) :
    (attempt choice state operation outcome).2.lockout = state.lockout := by
  rcases attempt_cases choice state operation outcome with failed | done
  · rw [failed]
  · rw [done]

/-- Quiet calls leave the lockout tracker alone. -/
theorem execute_lockout
    {operation : Operation}
    (quiet : operation.isQuiet = true)
    (choice : Choice) :
    (execute backend choice state operation).2.lockout = state.lockout := by
  cases operation
  case recordFailure key => cases quiet
  case reset key => cases quiet
  case random count =>
    simp only [execute_random]
    split
    · rfl
    · rfl
  all_goals first
    | rfl
    | exact attempt_lockout _ _ _ _

/-- Quiet calls leave alone what a login and the vault depend on. -/
theorem execute_kept
    {operation : Operation}
    (quiet : operation.isQuiet = true)
    (choice : Choice) :
    (execute backend choice state operation).2.kept = state.kept := by
  have untouched :
      operation.touches .users = false ∧
        operation.touches .ciphers = false ∧
        operation.touches .passkeys = false := by
    cases operation
    all_goals first
      | exact ⟨rfl, rfl, rfl⟩
      | cases quiet
  have users :
      (execute backend choice state operation).2.store.users =
        state.store.users :=
    @execute_same backend choice state operation .users untouched.1
  have ciphers :
      (execute backend choice state operation).2.store.ciphers =
        state.store.ciphers :=
    @execute_same backend choice state operation .ciphers untouched.2.1
  have passkeys :
      (execute backend choice state operation).2.store.passkeys =
        state.store.passkeys :=
    @execute_same backend choice state operation .passkeys untouched.2.2
  rw [State.kept, users, ciphers, passkeys, execute_lockout quiet]
  rfl

/-- A handler that makes quiet calls only. -/
abbrev OnlyQuiet {α : Type} (handler : Handler α) : Prop :=
  handler.Only fun operation : Operation => operation.isQuiet = true

/-- Quiet handlers leave alone what a login and the vault depend on. -/
theorem OnlyQuiet.kept
    {α : Type}
    {handler : Handler α}
    (quiet : OnlyQuiet handler) :
    (handler.run (execute backend) choices state).state.kept =
      state.kept := by
  induction handler generalizing choices state with
  | done value =>
      rfl
  | perform operation next inductionHypothesis =>
      exact (inductionHypothesis _ (quiet.2 _)).trans
        (execute_kept quiet.1 _)

/-- Auditing makes quiet calls. -/
theorem onlyQuiet_audit (userID event detail : String) :
    OnlyQuiet (audit userID event detail) :=
  only_audit rfl rfl fun _ => rfl

/-- Issuing tokens makes quiet calls. -/
theorem onlyQuiet_issueTokens (userID : String) :
    OnlyQuiet (issueTokens env userID) :=
  only_issueTokens rfl rfl fun _ _ => rfl

/-- After a quiet handler its successor runs from a state that keeps the same. -/
theorem OnlyQuiet.bind_ends
    {α β : Type}
    {handler : Handler α}
    (quiet : OnlyQuiet handler)
    (next : α → Handler β) :
    ∃ count middle,
      middle.kept = state.kept ∧
      let rest :=
        (next (handler.run (execute backend) choices state).value).run
          (execute backend) (fun index => choices (count + index)) middle
      ((handler >>= next).run (execute backend) choices state).value =
          rest.value ∧
        ((handler >>= next).run (execute backend) choices state).state =
          rest.state := by
  rw [Program.run_bind]
  exact ⟨_, _, quiet.kept, rfl, rfl⟩

/-- Auditing does not change the answer that follows. -/
theorem audited_value
    (userID event detail : String)
    (response : Response) :
    ((audit userID event detail >>= fun _ => Program.done response).run
      (execute backend) choices state).value = response := by
  rw [Program.run_bind]
  rfl

/-- Auditing leaves alone what a login and the vault depend on. -/
theorem audited_kept
    (userID event detail : String)
    (response : Response) :
    ((audit userID event detail >>= fun _ => Program.done response).run
      (execute backend) choices state).state.kept = state.kept := by
  rw [Program.run_bind]
  exact (onlyQuiet_audit userID event detail).kept

end Quiet

/-- No call fails. -/
abbrev Calm (choices : Nat → Choice) : Prop :=
  ∀ index operation, (choices index).fails operation = false

/-- A refresh token that is drawn at any of the moments is not stored yet. -/
def DrawsNewToken
    (env : Environment)
    (state : State)
    (choices : Nat → Choice) :
    Prop :=
  ∀ index,
    state.store.refresh.find?
      (env.hashRefreshToken (Environment.jwtB64 ((choices index).bytes 32))) =
        none

/-- A row is the only one of its identifier hash. -/
structure Names
    (users : Table User.id)
    (idHash : String)
    (u : User) :
    Prop where
  stored : users.find? u.id = some u
  named : u.identifierHash = idHash
  unrivalled :
    ∀ row ∈ users.rows, row.identifierHash = idHash → row = u

/-- An account that its identifier and its password alone sign in to. -/
structure Holds (kept : Kept) (idHash : String) (u : User) : Prop
    extends Names kept.users idHash u where
  standard : u.kdf = defaultKDF
  noCodes : u.totpEnabled = false
  noPasskey : kept.passkeys.rows.any (fun c => c.userID = u.id) = false
  unlocked : kept.lockout.find? idHash = none

section Requests

variable {backend : Backend} {env : Environment} {choices : Nat → Choice}
  {state : State} {idHash : String} {u : User}

/-- The same table names the same accounts. -/
theorem Names.congr
    {users other : Table User.id}
    (names : Names users idHash u)
    (same : other = users) :
    Names other idHash u := by
  rw [same]
  exact names

/-- The same kept part holds the same account. -/
theorem Holds.congr
    {kept other : Kept}
    (holds : Holds kept idHash u)
    (same : other = kept) :
    Holds other idHash u := by
  rw [same]
  exact holds

/-- Looking an account up answers a stored row or that there is none. -/
theorem getUserByIdentifierHash_cases (store : Store) (idHash : String) :
    store.getUserByIdentifierHash idHash = (.error .notFound, store) ∨
      ∃ u, store.getUserByIdentifierHash idHash = (.ok u, store) ∧
        store.users.find? u.id = some u := by
  unfold Store.getUserByIdentifierHash
  cases found : store.users.rows.find? fun u =>
      decide (u.identifierHash = idHash) with
  | none =>
      exact Or.inl rfl
  | some u =>
      exact Or.inr
        ⟨u, rfl, Table.find?_of_mem (List.mem_of_find?_eq_some found)⟩

/-- A look-up fails or finds the account behind the hash. -/
theorem lookUp_cases (choice : Choice) (idHash : String) :
    (∃ e, execute backend choice state (.getUserByIdentifierHash idHash) =
        (.error e, state)) ∨
      ∃ u, (state.store.getUserByIdentifierHash idHash).1 = .ok u ∧
        execute backend choice state (.getUserByIdentifierHash idHash) =
          (.ok u, state) := by
  rcases attempt_cases choice state (.getUserByIdentifierHash idHash)
      (state.store.getUserByIdentifierHash idHash) with failed | done
  · exact Or.inl ⟨.failure, failed⟩
  · rcases getUserByIdentifierHash_cases state.store idHash with
      missing | ⟨u, found, stored⟩
    · refine Or.inl ⟨.notFound, done.trans ?_⟩
      rw [missing]
    · refine Or.inr ⟨u, congrArg Prod.fst found, done.trans ?_⟩
      rw [found]

/-- The account of an identifier is read when the call does not fail. -/
theorem Names.read
    (names : Names state.store.users idHash u)
    {choice : Choice}
    (succeeds : choice.fails (.getUserByIdentifierHash idHash) = false) :
    execute backend choice state (.getUserByIdentifierHash idHash) =
      (.ok u, state) := by
  have found :
      (state.store.users.rows.find? fun row =>
        decide (row.identifierHash = idHash)) = some u := by
    cases search :
        state.store.users.rows.find? fun row =>
          decide (row.identifierHash = idHash) with
    | none =>
        have missing :=
          List.find?_eq_none.mp search u (Table.mem_of_find? names.stored)
        exact absurd (decide_eq_true names.named) missing
    | some row =>
        have sameHash : row.identifierHash = idHash := by
          simpa using List.find?_some search
        rw [names.unrivalled row (List.mem_of_find?_eq_some search) sameHash]
  refine (attempt_of_succeeds succeeds _).trans ?_
  simp only [Store.getUserByIdentifierHash, found]

/-!
## Signing in
-/

/-- Tokens are issued when nothing fails and the drawn token is new. -/
theorem issueTokens_succeeds
    (calm : Calm choices)
    (fresh : DrawsNewToken env state choices)
    (userID : String) :
    ∃ tokens,
      ((issueTokens env userID).run (execute backend) choices state).value =
        some tokens := by
  have created :
      (execute backend (choices 3) state
        (.createRefreshToken (newRefreshToken env userID choices))).1 =
          .ok () := by
    have isNew := fresh 1
    simp only [execute, attempt_of_succeeds (calm 3 _),
      Store.createRefreshToken, newRefreshToken, isNew]
    split
    · rfl
    · rfl
  simp only [newRefreshToken] at created
  simp [issueTokens, generateRefreshToken, calm 1, created]

/-- Completing a login answers with the account and clears its lockout. -/
theorem completeLogin_of_ok
    (ok :
      ((completeLogin env idHash u).run (execute backend) choices
        state).value.isOk = true) :
    (∃ access refresh,
      ((completeLogin env idHash u).run (execute backend) choices
        state).value.body =
          .login access refresh u.protectedUserKey u.protectedPrivateKey
            u.kdf) ∧
      ((completeLogin env idHash u).run (execute backend) choices
        state).state.kept = state.kept.afterReset idHash := by
  unfold completeLogin at ok ⊢
  obtain ⟨count, middle, same, value, final⟩ :=
    @OnlyQuiet.bind_ends backend choices state _ _ _
      (@onlyQuiet_issueTokens env u.id) _
  rw [value] at ok
  rw [value, final]
  cases issued :
      ((issueTokens env u.id).run (execute backend) choices state).value with
  | none =>
      rw [issued] at ok
      cases ok
  | some tokens =>
      obtain ⟨access, refresh⟩ := tokens
      simp only [perform_bind, Program.run_perform]
      refine ⟨⟨access, refresh, ?_⟩, ?_⟩
      · exact congrArg Response.body (audited_value _ _ _ _)
      · refine (audited_kept _ _ _ _).trans ?_
        rw [← same]
        rfl

/-- A login with a wrong password is refused. -/
theorem rejectPassword_value (account : Option String) :
    ((rejectPassword idHash account).run (execute backend) choices
      state).value = writeError 401 "invalid credentials" := by
  cases account with
  | none => rfl
  | some userID => exact audited_value _ _ _ _

/-- A login with a wrong code is refused. -/
theorem rejectSecondFactor_value (userID : String) :
    ((rejectSecondFactor idHash userID).run (execute backend) choices
      state).value = writeError 401 "invalid credentials" :=
  audited_value _ _ _ _

/-- What a login has checked and done when it accepts. -/
theorem login_of_ok
    {req : LoginRequest}
    (names :
      Names state.store.users (env.blindIdentifier req.identifier) u)
    (noCodes : u.totpEnabled = false)
    (calm : Calm choices)
    (ok :
      (served backend env state (.login (some req)) choices).value.isOk =
        true) :
    env.verifyVerifier u.masterPasswordVerifier req.masterPasswordHash =
        some true ∧
      state.store.hasPasskey u.id = false ∧
      (∃ access refresh,
        (served backend env state (.login (some req)) choices).value.body =
          .login access refresh u.protectedUserKey u.protectedPrivateKey
            u.kdf) ∧
      (served backend env state (.login (some req)) choices).state.kept =
        state.kept.afterReset (env.blindIdentifier req.identifier) := by
  simp only [served, serve, handleLogin, perform_bind, Program.run_perform,
    execute_locked] at ok ⊢
  by_cases isLocked :
      locked (choices 0).now state.lockout
        (env.blindIdentifier req.identifier) = true
  · simp [isLocked, Response.isOk, writeError] at ok
  · have unlocked := (Bool.not_eq_true _).mp isLocked
    simp only [unlocked, Bool.false_eq_true, ↓reduceIte, Program.run_perform,
      names.read (calm 1 _)] at ok ⊢
    by_cases password :
        env.verifyVerifier u.masterPasswordVerifier req.masterPasswordHash =
          some true
    · simp only [password, ↓reduceIte, checkSecondFactor, perform_bind,
        Program.run_perform, execute_countWebAuthnCredentials, calm 2 _,
        decide_count_pos, Bool.false_eq_true, noCodes, Bool.false_or]
        at ok ⊢
      by_cases passkey : state.store.hasPasskey u.id = true
      · simp only [passkey, ↓reduceIte] at ok
        by_cases noCode : req.totpCode = ""
        · simp [noCode, Response.isOk] at ok
        · simp only [noCode, ↓reduceIte, rejectSecondFactor_value] at ok
          cases ok
      · have noPasskey := (Bool.not_eq_true _).mp passkey
        simp only [noPasskey, Bool.false_eq_true, ↓reduceIte] at ok ⊢
        exact ⟨trivial, trivial, completeLogin_of_ok ok⟩
    · simp only [password, ↓reduceIte, rejectPassword_value] at ok
      cases ok

/-- Completing a login succeeds when nothing fails and the token is new. -/
theorem completeLogin_succeeds
    (calm : Calm choices)
    (fresh : DrawsNewToken env state choices) :
    ((completeLogin env idHash u).run (execute backend) choices
      state).value.isOk = true := by
  obtain ⟨tokens, issued⟩ :=
    @issueTokens_succeeds backend env choices state calm fresh u.id
  unfold completeLogin
  rw [Program.run_bind]
  dsimp only
  rw [issued]
  exact congrArg Response.isOk (audited_value _ _ _ _)

/-- A key without failures is not locked. -/
theorem not_locked
    {lockout : Table LockEntry.key}
    (unlocked : lockout.find? idHash = none)
    (now : Time) :
    locked now lockout idHash = false := by
  rw [locked, unlocked]
  rfl

/-- A login with the right password succeeds. -/
theorem login_succeeds
    {req : LoginRequest}
    (holds : Holds state.kept (env.blindIdentifier req.identifier) u)
    (calm : Calm choices)
    (fresh : DrawsNewToken env state choices)
    (password :
      env.verifyVerifier u.masterPasswordVerifier req.masterPasswordHash =
        some true) :
    (served backend env state (.login (some req)) choices).value.isOk =
      true := by
  have noPasskey : state.store.hasPasskey u.id = false := holds.noPasskey
  have names :
      Names state.store.users (env.blindIdentifier req.identifier) u :=
    holds.toNames
  have unlocked :
      locked (choices 0).now state.lockout
        (env.blindIdentifier req.identifier) = false :=
    not_locked holds.unlocked _
  simp only [served, serve, handleLogin, perform_bind, Program.run_perform,
    execute_locked, unlocked, Bool.false_eq_true, ↓reduceIte,
    names.read (calm 1 _), password, checkSecondFactor,
    execute_countWebAuthnCredentials, calm 2 _, decide_count_pos,
    holds.noCodes, noPasskey, Bool.or_self]
  apply completeLogin_succeeds
  · exact fun index => calm _
  · exact fun index => fresh _

/-- Forgetting failures keeps an account signed in to as before. -/
theorem Holds.afterReset
    {kept : Kept}
    (holds : Holds kept idHash u) :
    Holds (kept.afterReset idHash) idHash u where
  toNames := holds.toNames
  standard := holds.standard
  noCodes := holds.noCodes
  noPasskey := holds.noPasskey
  unlocked := by
    simp [Kept.afterReset, resetLockout, Table.find?_delete, holds.unlocked]

/-- The row that registering an account stores. -/
def registeredUser
    (env : Environment)
    (req : RegisterRequest)
    (id verifier : String)
    (createdAt updatedAt : Time) :
    User where
  id := id
  identifierHash := env.blindIdentifier req.identifier
  kdf := if req.kdf.type = "" then defaultKDF else req.kdf
  masterPasswordVerifier := verifier
  protectedUserKey := req.protectedUserKey
  publicKey := req.publicKey
  protectedPrivateKey := req.protectedPrivateKey
  recoveryProtectedUserKey := ""
  recoveryVerifier := ""
  totpSecret := ""
  totpEnabled := false
  totpLastCounter := 0
  createdAt := createdAt
  updatedAt := updatedAt

/-- A verifier is made under some salt when the random source works. -/
theorem hashVerifier_value
    (calm : Calm choices)
    (masterPasswordHash : String) :
    ∃ salt,
      ((hashVerifier env masterPasswordHash).run (execute backend) choices
        state).value = some (env.phcVerifier salt masterPasswordHash) := by
  refine ⟨(choices 0).bytes 16, ?_⟩
  simp [hashVerifier, calm 0]

/-- Making a verifier is quiet. -/
theorem onlyQuiet_hashVerifier (masterPasswordHash : String) :
    OnlyQuiet (hashVerifier env masterPasswordHash) :=
  ⟨rfl, fun _ => trivial⟩

/-- Drawing an id is quiet. -/
theorem onlyQuiet_newID : OnlyQuiet newID :=
  ⟨rfl, fun _ => trivial⟩

/-- As many bytes are drawn as are asked for. -/
theorem bytes_length (choice : Choice) (count : Nat) :
    (choice.bytes count).length = count := by
  simp [Choice.bytes]

/-- Bytes are spelled with symbols. -/
theorem hexEncode_ne_empty {bytes : Bytes} (sixteen : bytes.length = 16) :
    hexEncode bytes ≠ "" := by
  intro isEmpty
  cases bytes with
  | nil => cases sixteen
  | cons first rest =>
      have noSymbols := congrArg String.toList isEmpty
      simp [hexEncode] at noSymbols

/-- An id is not empty. -/
theorem newID_ne_empty :
    (newID.run (execute backend) choices state).value ≠ "" := by
  have drawn :
      (newID.run (execute backend) choices state).value =
        hexEncode
          ((execute backend (choices 0) state (.random 16)).1.getD
            (List.replicate 16 0)) := rfl
  rw [drawn, execute_random]
  apply hexEncode_ne_empty
  split
  · rfl
  · exact bytes_length _ _

/-- An account that `CreateUser` accepts is the only one of its identifier. -/
theorem createUser_names
    {choice : Choice}
    {row : User}
    (fresh : row.totpLastCounter = 0)
    (accepted :
      (execute backend choice state (.createUser row)).1 = .ok ()) :
    ∃ createdAt updatedAt,
      Names
        (execute backend choice state (.createUser row)).2.store.users
        row.identifierHash
        { row with createdAt := createdAt, updatedAt := updatedAt } := by
  have written :
      ∀ createdAt updatedAt,
        state.store.identifierTaken row.identifierHash = false →
        Names
          (state.store.users.upsert
            { row with createdAt := createdAt, updatedAt := updatedAt })
          row.identifierHash
          { row with createdAt := createdAt, updatedAt := updatedAt } := by
    intro createdAt updatedAt isNew
    refine ⟨?_, rfl, ?_⟩
    · simp [Table.find?_upsert]
    · intro other member sameHash
      rcases Table.mem_upsert member with isRow | isOld
      · exact isRow
      · have different := List.any_eq_false.mp isNew other isOld
        exact absurd (decide_eq_true sameHash) different
  rcases attempt_cases choice state (.createUser row)
      (state.store.createUser backend row) with failed | done
  · have refused : (Except.error .failure : Except StoreError Unit) = .ok () :=
      (congrArg Prod.fst failed).symm.trans accepted
    cases refused
  · have result :
        execute backend choice state (.createUser row) =
          ((state.store.createUser backend row).1,
            { state with store := (state.store.createUser backend row).2 }) :=
      done
    rw [result] at accepted ⊢
    dsimp only at accepted ⊢
    unfold Store.createUser at accepted ⊢
    split at accepted
    · rename_i fits
      rw [if_pos fits]
      split at accepted
      · cases accepted
      · rename_i notTaken
        have isNew := (Bool.not_eq_true _).mp notTaken
        split at accepted
        · split at accepted
          · cases accepted
          · rename_i sql unknown
            simp only [notTaken, sql, unknown, Bool.false_eq_true, ↓reduceIte]
            have names :=
              written (backend.stamp row.createdAt)
                (backend.stamp row.updatedAt) isNew
            exact ⟨backend.stamp row.createdAt, backend.stamp row.updatedAt,
              by simpa only [fresh] using names⟩
        · rename_i inMemory
          simp only [notTaken, inMemory, Bool.false_eq_true, ↓reduceIte]
          exact ⟨row.createdAt, row.updatedAt, written _ _ isNew⟩
    · cases accepted

/-- What a registration has done when it accepts. -/
theorem register_of_ok
    {req : RegisterRequest}
    (calm : Calm choices)
    (ok :
      (served backend env state (.register (some req)) choices).value.isOk =
        true) :
    ∃ id salt createdAt updatedAt,
      id ≠ "" ∧ Names
        (served backend env state (.register (some req))
          choices).state.store.users
        (env.blindIdentifier req.identifier)
        (registeredUser env req id
          (env.phcVerifier salt req.masterPasswordHash) createdAt
          updatedAt) := by
  simp only [served, serve, handleRegister] at ok ⊢
  split at ok
  · cases ok
  · rename_i filled
    rw [if_neg filled]
    obtain ⟨count, middle, same, value, final⟩ :=
      @OnlyQuiet.bind_ends backend choices state _ _ _
        (@onlyQuiet_hashVerifier env req.masterPasswordHash) _
    rw [value] at ok
    rw [final]
    obtain ⟨salt, hashed⟩ :=
      @hashVerifier_value backend env choices state calm
        req.masterPasswordHash
    simp only [hashed, perform_bind, Program.run_perform, execute_now]
      at ok ⊢
    obtain ⟨drawn, later, unchanged, value, final⟩ :=
      @OnlyQuiet.bind_ends backend
        (fun index => choices (count + (index + 1))) middle _ _ _
        onlyQuiet_newID _
    rw [value] at ok
    rw [final]
    have named :=
      @newID_ne_empty backend (fun index => choices (count + (index + 1)))
        middle
    generalize (newID.run (execute backend) _ middle).value = id
      at named ok ⊢
    simp only [Program.run_perform] at ok ⊢
    split at ok
    · cases ok
    · cases ok
    · rename_i accepted
      obtain ⟨createdAt, updatedAt, names⟩ := createUser_names rfl accepted
      refine ⟨id, salt, createdAt, updatedAt, named, ?_⟩
      exact names.congr (congrArg Kept.users (audited_kept _ _ _ _))

/-!
## Rewriting the account
-/

/-- An account is held as before when its other columns are rewritten. -/
theorem Holds.update
    {kept : Kept}
    (holds : Holds kept idHash u)
    {change : User → User}
    (keepsID : ∀ v, (change v).id = v.id)
    (keepsHash : ∀ v, (change v).identifierHash = v.identifierHash)
    (standard : (change u).kdf = defaultKDF)
    (noCodes : (change u).totpEnabled = false) :
    Holds
      { kept with
        users := kept.users.update (fun v => v.id = u.id) change keepsID }
      idHash (change u) where
  stored := by
    dsimp only
    rw [Table.find?_update, keepsID, holds.stored]
    simp
  named := (keepsHash u).trans holds.named
  unrivalled := by
    intro row member sameHash
    obtain ⟨old, isOld, rewritten⟩ := List.mem_map.mp member
    have oldHash : old.identifierHash = idHash := by
      rw [← sameHash, ← rewritten]
      split
      · exact (keepsHash old).symm
      · rfl
    have isAccount := holds.unrivalled old isOld oldHash
    rw [← rewritten, isAccount]
    simp
  standard := standard
  noCodes := noCodes
  noPasskey := by
    rw [keepsID]
    exact holds.noPasskey
  unlocked := holds.unlocked

/-- A call that rewrites the row of a held account. -/
theorem Holds.updateUser
    (holds : Holds state.kept idHash u)
    {choice : Choice}
    {operation : Operation}
    (succeeds : choice.fails operation = false)
    {change : User → User}
    (keepsID : ∀ v, (change v).id = v.id)
    (keepsHash : ∀ v, (change v).identifierHash = v.identifierHash)
    (standard : (change u).kdf = defaultKDF)
    (noCodes : (change u).totpEnabled = false) :
    ∃ after,
      attempt choice state operation
          (state.store.updateUser u.id change keepsID) = (.ok (), after) ∧
        Holds after.kept idHash (change u) ∧
        after.kept.ciphers = state.kept.ciphers := by
  have stored : state.store.users.find? u.id = some u := holds.stored
  rw [attempt_of_succeeds succeeds, Store.updateUser, stored]
  exact ⟨_, rfl, holds.update keepsID keepsHash standard noCodes, rfl⟩

/-- What enabling recovery has done when it accepts. -/
theorem recoveryEnable_of_ok
    {req : RecoveryEnableRequest}
    (holds : Holds state.kept idHash u)
    (calm : Calm choices)
    (ok :
      (served backend env state (.recoveryEnable u.id (some req))
        choices).value.isOk = true) :
    ∃ salt updatedAt,
      Holds
          (served backend env state (.recoveryEnable u.id (some req))
            choices).state.kept
          idHash
          { u with
            recoveryProtectedUserKey := req.recoveryProtectedUserKey
            recoveryVerifier := env.phcVerifier salt req.recoveryAuthHash
            updatedAt := updatedAt } ∧
        (served backend env state (.recoveryEnable u.id (some req))
          choices).state.kept.ciphers = state.kept.ciphers := by
  simp only [served, serve, handleRecoveryEnable] at ok ⊢
  split at ok
  · cases ok
  · rename_i filled
    rw [if_neg filled]
    obtain ⟨count, middle, same, value, final⟩ :=
      @OnlyQuiet.bind_ends backend choices state _ _ _
        (@onlyQuiet_hashVerifier env req.recoveryAuthHash) _
    rw [final]
    obtain ⟨salt, hashed⟩ :=
      @hashVerifier_value backend env choices state calm req.recoveryAuthHash
    rw [← same] at holds ⊢
    obtain ⟨after, succeeded, held, sameCiphers⟩ :=
      @Holds.updateUser middle idHash u holds (choices count)
        (.setUserRecovery u.id req.recoveryProtectedUserKey
          (env.phcVerifier salt req.recoveryAuthHash)) (calm _ _)
        (fun v => { v with
          recoveryProtectedUserKey := req.recoveryProtectedUserKey
          recoveryVerifier := env.phcVerifier salt req.recoveryAuthHash
          updatedAt :=
            if backend.isSql then backend.stamp (choices count).now
            else v.updatedAt })
        (fun _ => rfl) (fun _ => rfl) holds.standard holds.noCodes
    have written :
        execute backend (choices count) middle
          (.setUserRecovery u.id req.recoveryProtectedUserKey
            (env.phcVerifier salt req.recoveryAuthHash)) =
          (.ok (), after) := succeeded
    simp only [hashed, perform_bind, Program.run_perform, Nat.add_zero,
      written]
    exact ⟨salt, _, held.congr (audited_kept _ _ _ _),
      (congrArg Kept.ciphers (audited_kept _ _ _ _)).trans sameCiphers⟩

/-- What disabling recovery has done. -/
theorem recoveryDisable_holds
    (holds : Holds state.kept idHash u)
    (calm : Calm choices) :
    ∃ updatedAt,
      Holds
          (served backend env state (.recoveryDisable u.id)
            choices).state.kept
          idHash
          { u with
            recoveryProtectedUserKey := ""
            recoveryVerifier := ""
            updatedAt := updatedAt } ∧
        (served backend env state (.recoveryDisable u.id)
          choices).state.kept.ciphers = state.kept.ciphers := by
  obtain ⟨after, succeeded, held, sameCiphers⟩ :=
    @Holds.updateUser state idHash u holds (choices 0)
      (.clearUserRecovery u.id) (calm _ _)
      (fun v => { v with
        recoveryProtectedUserKey := ""
        recoveryVerifier := ""
        updatedAt :=
          if backend.isSql then backend.stamp (choices 0).now
          else v.updatedAt })
      (fun _ => rfl) (fun _ => rfl) holds.standard holds.noCodes
  have written :
      execute backend (choices 0) state (.clearUserRecovery u.id) =
        (.ok (), after) := succeeded
  simp only [served, serve, handleRecoveryDisable, perform_bind,
    Program.run_perform, written]
  exact ⟨_, held.congr (audited_kept _ _ _ _),
    (congrArg Kept.ciphers (audited_kept _ _ _ _)).trans sameCiphers⟩

/-- The end of a recovery whose code was accepted. -/
theorem rotateAccount_of_ok
    {req : RecoveryCompleteRequest}
    (holds : Holds state.kept idHash u)
    (calm : Calm choices)
    (standard : req.kdf = defaultKDF)
    (ok :
      ((rotateAccount env idHash u req).run (execute backend) choices
        state).value.isOk = true) :
    (∃ access refresh,
      ((rotateAccount env idHash u req).run (execute backend) choices
        state).value.body =
          .login access refresh req.protectedUserKey u.protectedPrivateKey
            defaultKDF) ∧
      ∃ salt updatedAt,
        Holds
            ((rotateAccount env idHash u req).run (execute backend) choices
              state).state.kept
            idHash
            { u with
              masterPasswordVerifier :=
                env.phcVerifier salt req.masterPasswordHash
              protectedUserKey := req.protectedUserKey
              kdf := defaultKDF
              updatedAt := updatedAt } ∧
          ((rotateAccount env idHash u req).run (execute backend) choices
            state).state.kept.ciphers = state.kept.ciphers := by
  have chosen :
      (if req.kdf.type = "" then u.kdf else req.kdf) = defaultKDF := by
    split
    · exact holds.standard
    · exact standard
  unfold rotateAccount at ok ⊢
  generalize (if req.kdf.type = "" then u.kdf else req.kdf) = kdf
    at chosen ok ⊢
  subst chosen
  obtain ⟨count, middle, same, value, final⟩ :=
    @OnlyQuiet.bind_ends backend choices state _ _ _
      (@onlyQuiet_hashVerifier env req.masterPasswordHash) _
  rw [value] at ok
  rw [value, final]
  clear value final
  obtain ⟨salt, hashed⟩ :=
    @hashVerifier_value backend env choices state calm req.masterPasswordHash
  rw [← same] at holds ⊢
  obtain ⟨after, succeeded, held, sameCiphers⟩ :=
    @Holds.updateUser middle idHash u holds (choices count)
      (.rotateMasterPassword u.id (env.phcVerifier salt req.masterPasswordHash)
        req.protectedUserKey defaultKDF) (calm _ _)
      (fun v => { v with
        masterPasswordVerifier := env.phcVerifier salt req.masterPasswordHash
        protectedUserKey := req.protectedUserKey
        kdf := defaultKDF
        updatedAt := backend.stamp (choices count).now })
      (fun _ => rfl) (fun _ => rfl) rfl holds.noCodes
  have written :
      execute backend (choices count) middle
        (.rotateMasterPassword u.id
          (env.phcVerifier salt req.masterPasswordHash) req.protectedUserKey
          defaultKDF) = (.ok (), after) := by
    have takes : backend.takesKDF defaultKDF = true := by
      cases backend
      all_goals rfl
    simp only [execute, Store.rotateMasterPassword, takes, ↓reduceIte]
    exact succeeded
  have revoked :
      ∀ choice : Choice,
        (execute backend choice after
          (.deleteRefreshTokensForUser u.id)).2.kept = after.kept :=
    execute_kept rfl
  simp only [hashed, perform_bind, Program.run_perform, Nat.add_zero, written]
    at ok ⊢
  obtain ⟨audited, logged, sameLogged, value, final⟩ :=
    @OnlyQuiet.bind_ends backend _ _ _ _ _
      (onlyQuiet_audit u.id "recovery.complete" "") _
  rw [value] at ok
  rw [value, final]
  clear value final
  obtain ⟨issuing, issuedState, sameIssued, value, final⟩ :=
    @OnlyQuiet.bind_ends backend _ _ _ _ _
      (@onlyQuiet_issueTokens env u.id) _
  rw [value] at ok
  rw [value, final]
  clear value final
  have unchanged : issuedState.kept = after.kept :=
    sameIssued.trans (sameLogged.trans (revoked _))
  split at ok
  · cases ok
  · rename_i access refresh issued
    exact ⟨⟨access, refresh, rfl⟩, salt, _,
      (held.congr unchanged).afterReset,
      (congrArg Kept.ciphers unchanged).trans sameCiphers⟩

/-- What completing a recovery has done when it accepts. -/
theorem recoveryComplete_of_ok
    {req : RecoveryCompleteRequest}
    (holds : Holds state.kept (env.blindIdentifier req.identifier) u)
    (calm : Calm choices)
    (standard : req.kdf = defaultKDF)
    (ok :
      (served backend env state (.recoveryComplete (some req))
        choices).value.isOk = true) :
    (∃ access refresh,
      (served backend env state (.recoveryComplete (some req))
        choices).value.body =
          .login access refresh req.protectedUserKey u.protectedPrivateKey
            defaultKDF) ∧
      ∃ salt updatedAt,
        Holds
            (served backend env state (.recoveryComplete (some req))
              choices).state.kept
            (env.blindIdentifier req.identifier)
            { u with
              masterPasswordVerifier :=
                env.phcVerifier salt req.masterPasswordHash
              protectedUserKey := req.protectedUserKey
              kdf := defaultKDF
              updatedAt := updatedAt } ∧
          (served backend env state (.recoveryComplete (some req))
            choices).state.kept.ciphers = state.kept.ciphers := by
  have names :
      Names state.store.users (env.blindIdentifier req.identifier) u :=
    holds.toNames
  have unlocked :
      locked (choices 0).now state.lockout
        (env.blindIdentifier req.identifier) = false :=
    not_locked holds.unlocked _
  simp only [served, serve, handleRecoveryComplete] at ok ⊢
  split at ok
  · cases ok
  · rename_i filled
    rw [if_neg filled]
    simp only [perform_bind, Program.run_perform, execute_locked, unlocked,
      Bool.false_eq_true, ↓reduceIte, names.read (calm 1 _)] at ok ⊢
    split at ok
    · rename_i accepted
      rw [if_pos accepted]
      exact rotateAccount_of_ok holds (fun index => calm _) standard ok
    · cases ok

/-!
## Reading the account
-/

/-- The parameters that a client is told before a login. -/
theorem prelogin_value
    {identifier : String}
    (holds : Holds state.kept (env.blindIdentifier identifier) u)
    (calm : Calm choices) :
    (served backend env state (.prelogin (some identifier)) choices).value =
        { status := 200, body := .kdf defaultKDF } ∧
      (served backend env state (.prelogin (some identifier))
        choices).state = state := by
  have names : Names state.store.users (env.blindIdentifier identifier) u :=
    holds.toNames
  simp only [served, serve, handlePrelogin, perform_bind, Program.run_perform,
    names.read (calm 0 _), holds.standard]
  exact ⟨rfl, rfl⟩

/-- Making up a blob is quiet. -/
theorem onlyQuiet_decoyRecoveryBlob : OnlyQuiet decoyRecoveryBlob :=
  ⟨rfl, fun _ => ⟨rfl, fun _ => trivial⟩⟩

/-- The wrapped key that a client is sent when recovery is enabled. -/
theorem recoveryChallenge_value
    {identifier : String}
    (holds : Holds state.kept (env.blindIdentifier identifier) u)
    (enabled : u.recoveryVerifier ≠ "")
    (calm : Calm choices) :
    (served backend env state (.recoveryChallenge (some identifier))
        choices).value =
      { status := 200
        body :=
          .recoveryChallenge u.recoveryProtectedUserKey defaultKDF } ∧
      (served backend env state (.recoveryChallenge (some identifier))
        choices).state.kept = state.kept := by
  simp only [served, serve, handleRecoveryChallenge]
  obtain ⟨count, middle, same, value, final⟩ :=
    @OnlyQuiet.bind_ends backend choices state _ _ _
      onlyQuiet_decoyRecoveryBlob _
  rw [value, final]
  have names : Names middle.store.users (env.blindIdentifier identifier) u :=
    holds.toNames.congr (congrArg Kept.users same)
  simp only [perform_bind, Program.run_perform, names.read (calm _ _),
    enabled, ↓reduceIte, holds.standard]
  exact ⟨rfl, same⟩

/-!
## The vault
-/

/-- An item that `CreateCipher` accepts is a new row. -/
theorem createCipher_row
    {choice : Choice}
    {c : Cipher}
    (accepted :
      (execute backend choice state (.createCipher c)).1 = .ok ()) :
    state.store.ciphers.find? c.id = none ∧
      ∃ row : Cipher,
        row.id = c.id ∧ row.userID = c.userID ∧ row.data = c.data ∧
        (execute backend choice state (.createCipher c)).2.kept =
          { state.kept with ciphers := state.store.ciphers.upsert row } := by
  rcases attempt_cases choice state (.createCipher c)
      (state.store.createCipher backend c) with failed | done
  · have refused :
        (Except.error .failure : Except StoreError Unit) = .ok () :=
      (congrArg Prod.fst failed).symm.trans accepted
    cases refused
  · have result :
        execute backend choice state (.createCipher c) =
          ((state.store.createCipher backend c).1,
            { state with store := (state.store.createCipher backend c).2 }) :=
      done
    rw [result] at accepted ⊢
    dsimp only at accepted ⊢
    unfold Store.createCipher at accepted ⊢
    split at accepted
    · cases accepted
    · rename_i isNew
      rw [if_neg isNew]
      exact ⟨by simpa using isNew,
        { c with
          createdAt := backend.stamp c.createdAt
          updatedAt := backend.stamp c.updatedAt },
        rfl, rfl, rfl, rfl⟩

/-- What storing an item has done when it accepts. -/
theorem createCipher_of_ok
    {userID data : String}
    (ok :
      (served backend env state (.createCipher userID (some data))
        choices).value.isOk = true) :
    ∃ id row createdAt updatedAt,
      (served backend env state (.createCipher userID (some data))
          choices).value.body = .cipher id data createdAt updatedAt ∧
        row.id = id ∧ row.userID = userID ∧ row.data = data ∧
        state.store.ciphers.find? id = none ∧
        (served backend env state (.createCipher userID (some data))
          choices).state.kept =
            { state.kept with ciphers := state.store.ciphers.upsert row } := by
  simp only [served, serve, handleCreateCipher] at ok ⊢
  split at ok
  · cases ok
  · rename_i authenticated
    split at ok
    · cases ok
    · rename_i filled
      rw [if_neg authenticated, if_neg filled]
      simp only [perform_bind, Program.run_perform, execute_now] at ok ⊢
      obtain ⟨drawn, later, same, value, final⟩ :=
        @OnlyQuiet.bind_ends backend _ state _ _ _ onlyQuiet_newID _
      rw [value] at ok
      rw [value, final]
      clear value final
      generalize (newID.run (execute backend) _ state).value = id at ok ⊢
      simp only [Program.run_perform] at ok ⊢
      split at ok
      · cases ok
      · rename_i accepted
        obtain ⟨isNew, row, sameID, sameUser, sameData, written⟩ :=
          createCipher_row accepted
        rw [same] at written
        have ciphers : later.store.ciphers = state.store.ciphers :=
          congrArg Kept.ciphers same
        rw [ciphers] at isNew written
        exact ⟨id, row, _, _, congrArg Response.body (audited_value _ _ _ _),
          sameID, sameUser, sameData, isNew,
          (audited_kept _ _ _ _).trans written⟩

/-- An item that `UpdateCipher` accepts is rewritten where it was. -/
theorem updateCipher_row
    {choice : Choice}
    {c : Cipher}
    (accepted :
      (execute backend choice state (.updateCipher c)).1 = .ok ()) :
    ∃ old row ciphers,
      state.store.ciphers.find? c.id = some old ∧ old.userID = c.userID ∧
        row.userID = c.userID ∧ row.data = c.data ∧
        (∀ id,
          Table.find? ciphers id =
            if id = c.id then some row else state.store.ciphers.find? id) ∧
        (execute backend choice state (.updateCipher c)).2.kept =
          { state.kept with ciphers := ciphers } := by
  rcases attempt_cases choice state (.updateCipher c)
      (state.store.updateCipher backend c) with failed | done
  · have refused :
        (Except.error .failure : Except StoreError Unit) = .ok () :=
      (congrArg Prod.fst failed).symm.trans accepted
    cases refused
  · have result :
        execute backend choice state (.updateCipher c) =
          ((state.store.updateCipher backend c).1,
            { state with store := (state.store.updateCipher backend c).2 }) :=
      done
    rw [result] at accepted ⊢
    dsimp only at accepted ⊢
    unfold Store.updateCipher at accepted ⊢
    split at accepted
    · rename_i owned
      obtain ⟨old, isStored, isOwner⟩ := (Option.any_eq_true _ _).mp owned
      have sameID := Table.key_of_find? isStored
      rw [if_pos owned]
      refine ⟨old,
        { old with
          data := c.data
          createdAt :=
            if backend.isSql then old.createdAt else c.createdAt
          updatedAt := backend.stamp c.updatedAt },
        _, isStored, by simpa using isOwner, by simpa using isOwner, rfl, ?_,
        rfl⟩
      intro id
      rw [Table.find?_update]
      by_cases isTarget : id = c.id
      · rw [if_pos isTarget, isTarget, isStored]
        simp [sameID]
      · rw [if_neg isTarget]
        cases found : state.store.ciphers.find? id with
        | none =>
            rfl
        | some other =>
            have otherID := Table.key_of_find? found
            simp [otherID, isTarget]
    · cases accepted

/-- What rewriting an item has done when it accepts. -/
theorem updateCipher_of_ok
    {userID id data : String}
    (ok :
      (served backend env state (.updateCipher userID id (some data))
        choices).value.isOk = true) :
    ∃ row ciphers,
      row.userID = userID ∧ row.data = data ∧
        (∀ other,
          Table.find? ciphers other =
            if other = id then some row
            else state.store.ciphers.find? other) ∧
        (served backend env state (.updateCipher userID id (some data))
          choices).state.kept = { state.kept with ciphers := ciphers } := by
  simp only [served, serve, handleUpdateCipher] at ok ⊢
  split at ok
  · cases ok
  · rename_i authenticated
    split at ok
    · cases ok
    · rename_i filled
      rw [if_neg authenticated, if_neg filled]
      simp only [perform_bind, Program.run_perform, execute_now] at ok ⊢
      split at ok
      · cases ok
      · cases ok
      · rename_i accepted
        obtain ⟨old, row, ciphers, -, -, sameUser, sameData, found, written⟩ :=
          updateCipher_row accepted
        exact ⟨row, ciphers, sameUser, sameData, found,
          (audited_kept _ _ _ _).trans written⟩

/-- What a client synchronizes. -/
theorem sync_value
    {userID : String}
    (authenticated : userID ≠ "")
    (calm : Calm choices) :
    ∃ ciphers,
      (served backend env state (.sync userID) choices).value =
          { status := 200, body := .ciphers ciphers } ∧
        ∀ c ∈ state.store.ciphers.rows,
          c.userID = userID →
            (c.id, c.data, c.createdAt, c.updatedAt) ∈ ciphers := by
  have listed :
      execute backend (choices 0) state (.listCiphers userID) =
        (.ok ((state.store.ciphers.rows.filter fun c =>
            c.userID = userID).mergeSort
              fun first later => first.createdAt ≤ later.createdAt),
          state) :=
    attempt_of_succeeds (calm 0 _) _
  simp only [served, serve, handleSync, authenticated, ↓reduceIte,
    perform_bind, Program.run_perform, listed]
  refine ⟨_, rfl, ?_⟩
  intro c member isOwner
  apply List.mem_map_of_mem
  rw [List.mem_mergeSort, List.mem_filter]
  exact ⟨member, decide_eq_true isOwner⟩

end Requests

end Passwd.Server
