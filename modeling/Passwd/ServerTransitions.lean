import Passwd.ServerEffects

namespace Passwd.Server

open Base64 Interaction

/-!
# What a call can do to the tables

For the refresh tokens and the users: the calls that leave the table alone, and
for every other call the ways in which it can end.  Invariants of concurrent
requests are derived from these cases and never unfold `execute`.
-/

variable {backend : Backend} {choice : Choice} {state : State}

/-- A call together with its answer. -/
abbrev answered (operation : Operation) (answer : Answer operation) :
    Exchange calls :=
  ⟨operation, answer⟩

/-- A call together with the answer it gets in a state. -/
abbrev exchanged
    (backend : Backend)
    (choice : Choice)
    (state : State)
    (operation : Operation) :
    Exchange calls :=
  answered operation (execute backend choice state operation).1

/-- Reading the clock. -/
@[simp] theorem execute_now :
    execute backend choice state .now = (choice.now, state) :=
  rfl

/-- Asking whether a key is locked. -/
@[simp] theorem execute_locked (key : String) :
    execute backend choice state (.locked key) =
      (locked choice.now state.lockout key, state) :=
  rfl

/-- Drawing random bytes. -/
@[simp] theorem execute_random (count : Nat) :
    execute backend choice state (.random count) =
      if choice.fails (.random count) then
        (none, state)
      else
        (some (choice.bytes count), state) :=
  rfl

/-- A store call fails and changes nothing, or it has its outcome. -/
theorem attempt_cases
    {α : Type}
    (choice : Choice)
    (state : State)
    (operation : Operation)
    (outcome : Store.Outcome α) :
    attempt choice state operation outcome = (.error .failure, state) ∨
      attempt choice state operation outcome =
        (outcome.1, { state with store := outcome.2 }) := by
  unfold attempt
  split
  · exact Or.inl rfl
  · exact Or.inr rfl

/-- A store call that succeeds has its outcome. -/
theorem attempt_of_ok
    {α : Type}
    {operation : Operation}
    {outcome : Store.Outcome α}
    {result : α}
    (succeeded : (attempt choice state operation outcome).1 = .ok result) :
    outcome.1 = .ok result ∧
      attempt choice state operation outcome =
        (outcome.1, { state with store := outcome.2 }) := by
  rcases attempt_cases choice state operation outcome with failed | done
  · rw [failed] at succeeded
    cases succeeded
  · rw [done] at succeeded
    exact ⟨succeeded, done⟩

/-- A store call that does not fail has its outcome. -/
theorem attempt_of_succeeds
    {α : Type}
    {operation : Operation}
    (succeeds : choice.fails operation = false)
    (outcome : Store.Outcome α) :
    attempt choice state operation outcome =
      (outcome.1, { state with store := outcome.2 }) := by
  simp [attempt, succeeds]

/-!
## Which tables a call can change
-/

/-- The tables of a store. -/
inductive Part where
  | users
  | ciphers
  | refresh
  | passkeys
  | audit
  | shares
deriving DecidableEq

/-- Two stores have the same table. -/
def Part.Same (part : Part) (before after : Store) : Prop :=
  match part with
  | .users => after.users = before.users
  | .ciphers => after.ciphers = before.ciphers
  | .refresh => after.refresh = before.refresh
  | .passkeys => after.passkeys = before.passkeys
  | .audit => after.audit = before.audit
  | .shares => after.shares = before.shares

/-- The table that a call may change; deleting an account may change them all. -/
def Operation.touches (operation : Operation) (part : Part) : Bool :=
  match operation with
  | .createUser _ => part = .users
  | .setUserTOTP _ _ _ => part = .users
  | .setUserTOTPCounter _ _ => part = .users
  | .setUserRecovery _ _ _ => part = .users
  | .clearUserRecovery _ => part = .users
  | .rotateMasterPassword _ _ _ _ => part = .users
  | .deleteAccount _ => true
  | .createWebAuthnCredential _ => part = .passkeys
  | .updateWebAuthnSignCount _ _ => part = .passkeys
  | .deleteWebAuthnCredential _ _ => part = .passkeys
  | .createCipher _ => part = .ciphers
  | .updateCipher _ => part = .ciphers
  | .deleteCipher _ _ => part = .ciphers
  | .createRefreshToken _ => part = .refresh
  | .deleteRefreshToken _ => part = .refresh
  | .markRefreshTokenUsed _ => part = .refresh
  | .deleteRefreshTokensForUser _ => part = .refresh
  | .appendAuditEvent _ => part = .audit
  | .createShare _ => part = .shares
  | .deleteShare _ _ => part = .shares
  | _ => false

/-- A store has the tables it has. -/
theorem Part.same_refl (part : Part) (store : Store) :
    part.Same store store := by
  cases part
  all_goals rfl

/-- Two changes that leave a table alone. -/
theorem Part.Same.trans
    {part : Part}
    {before middle after : Store}
    (first : part.Same before middle)
    (second : part.Same middle after) :
    part.Same before after := by
  cases part
  all_goals exact Eq.trans second first

/-- Rewriting a user touches no other table. -/
theorem Part.same_updateUser
    {part : Part}
    (otherTable : part ≠ .users)
    (store : Store)
    (userID : String)
    (change : User → User)
    (keepsID : ∀ u, (change u).id = u.id) :
    part.Same store (store.updateUser userID change keepsID).2 := by
  unfold Store.updateUser
  split
  · cases part with
    | users => exact absurd rfl otherTable
    | ciphers => rfl
    | refresh => rfl
    | passkeys => rfl
    | audit => rfl
    | shares => rfl
  · exact part.same_refl store

/-- A call leaves every table alone that it does not touch. -/
theorem execute_same
    {operation : Operation}
    {part : Part}
    (untouched : operation.touches part = false) :
    part.Same state.store
      (execute backend choice state operation).2.store := by
  have attempted :
      ∀ {α : Type} (outcome : Store.Outcome α),
        part.Same state.store outcome.2 →
          part.Same state.store
            (attempt choice state operation outcome).2.store := by
    intro α outcome unchanged
    rcases attempt_cases choice state operation outcome with failed | done
    · rw [failed]
      exact part.same_refl state.store
    · rw [done]
      exact unchanged
  cases operation
  case createUser | createWebAuthnCredential | updateWebAuthnSignCount |
      deleteWebAuthnCredential | createCipher | updateCipher | deleteCipher |
      createRefreshToken | markRefreshTokenUsed | deleteRefreshToken |
      deleteRefreshTokensForUser | appendAuditEvent | createShare |
      deleteShare =>
    apply attempted
    simp only [Store.createUser, Store.createWebAuthnCredential,
      Store.updateWebAuthnSignCount, Store.deleteWebAuthnCredential,
      Store.createCipher, Store.updateCipher, Store.deleteCipher,
      Store.createRefreshToken, Store.markRefreshTokenUsed,
      Store.deleteRefreshToken, Store.deleteRefreshTokensForUser,
      Store.appendAuditEvent, Store.createShare, Store.deleteShare]
    repeat' split
    all_goals first
      | exact part.same_refl state.store
      | (cases part <;> first | rfl | cases untouched)
  case setUserTOTP | setUserTOTPCounter | setUserRecovery |
      clearUserRecovery =>
    exact attempted _
      (Part.same_updateUser (of_decide_eq_false untouched) _ _ _ _)
  case rotateMasterPassword =>
    apply attempted
    simp only [Store.rotateMasterPassword]
    split
    · exact Part.same_updateUser (of_decide_eq_false untouched) _ _ _ _
    · exact part.same_refl state.store
  case deleteAccount => cases untouched
  case getUserByIdentifierHash | getUserByID | getRefreshToken =>
    apply attempted
    simp only [Store.getUserByIdentifierHash, Store.getUserByID,
      Store.getRefreshToken]
    split
    all_goals exact part.same_refl state.store
  case listWebAuthnCredentials | countWebAuthnCredentials | listCiphers |
      listRefreshTokensForUser | listAuditEvents | listSharesForRecipient =>
    exact attempted _ (part.same_refl state.store)
  case random =>
    simp only [execute]
    split
    all_goals exact part.same_refl state.store
  case locked | recordFailure | reset | putChallenge | takeChallenge | now =>
    exact part.same_refl state.store

/-- A program leaves every table alone that none of its calls touches. -/
theorem same_run
    {α : Type}
    {program : Handler α}
    {part : Part}
    {choices : Nat → Choice}
    (untouched :
      program.Only fun operation : Operation =>
        operation.touches part = false) :
    part.Same state.store
      (program.run (execute backend) choices state).state.store := by
  induction program generalizing choices state with
  | done value =>
      exact part.same_refl state.store
  | perform operation next inductionHypothesis =>
      exact (execute_same untouched.1).trans
        (inductionHypothesis _ (untouched.2 _))

/-!
## Refresh tokens
-/

/-- The row that a backend keeps for a new refresh token. -/
def Backend.tokenRow (backend : Backend) (rt : RefreshToken) :
    RefreshToken :=
  if backend.isSql then
    { rt with
      expiresAt := backend.stamp rt.expiresAt
      createdAt := backend.stamp rt.createdAt
      used := false }
  else
    rt

@[simp] theorem Backend.tokenRow_tokenHash
    (backend : Backend)
    (rt : RefreshToken) :
    (backend.tokenRow rt).tokenHash = rt.tokenHash := by
  unfold Backend.tokenRow
  split
  · rfl
  · rfl

@[simp] theorem Backend.tokenRow_userID
    (backend : Backend)
    (rt : RefreshToken) :
    (backend.tokenRow rt).userID = rt.userID := by
  unfold Backend.tokenRow
  split
  · rfl
  · rfl

/--
A call that either fails cleanly or succeeds with a known effect on the store
does so as a step of a handler.
-/
theorem attempt_ends
    {operation : Operation}
    {outcome : Store.Outcome Unit}
    (effect : Store → Prop)
    (ends :
      (∃ e, outcome = (.error e, state.store)) ∨
        ∃ after, outcome = (.ok (), after) ∧ effect after) :
    (∃ e, attempt choice state operation outcome = (.error e, state)) ∨
      ∃ after, attempt choice state operation outcome = (.ok (), after) ∧
        effect after.store := by
  rcases attempt_cases choice state operation outcome with failed | done
  · exact Or.inl ⟨.failure, failed⟩
  · rcases ends with ⟨e, refused⟩ | ⟨after, succeeded, changed⟩
    · exact Or.inl ⟨e, done.trans (by rw [refused])⟩
    · exact Or.inr
        ⟨{ state with store := after }, done.trans (by rw [succeeded]),
          changed⟩

/-- How `CreateRefreshToken` ends. -/
theorem createRefreshToken_ends (rt : RefreshToken) :
    (∃ e, execute backend choice state (.createRefreshToken rt) =
        (.error e, state)) ∨
      ∃ after, execute backend choice state (.createRefreshToken rt) =
          (.ok (), after) ∧
        after.store.refresh =
          state.store.refresh.upsert (backend.tokenRow rt) := by
  refine attempt_ends (fun after =>
    after.refresh = state.store.refresh.upsert (backend.tokenRow rt)) ?_
  unfold Store.createRefreshToken Backend.tokenRow
  by_cases sql : backend.isSql = true
  · rw [if_pos sql, if_pos sql]
    split
    · exact Or.inl ⟨.conflict, rfl⟩
    · exact Or.inr ⟨_, rfl, rfl⟩
  · rw [if_neg sql, if_neg sql]
    exact Or.inr ⟨_, rfl, rfl⟩

/-- How `MarkRefreshTokenUsed` ends. -/
theorem markRefreshTokenUsed_ends (tokenHash : String) :
    (∃ e, execute backend choice state (.markRefreshTokenUsed tokenHash) =
        (.error e, state)) ∨
      ∃ after, execute backend choice state
          (.markRefreshTokenUsed tokenHash) = (.ok (), after) ∧
        after.store.refresh =
          state.store.refresh.update (fun rt => rt.tokenHash = tokenHash)
            (fun rt => { rt with used := true }) fun _ => rfl := by
  refine attempt_ends (fun after =>
    after.refresh =
      state.store.refresh.update (fun rt => rt.tokenHash = tokenHash)
        (fun rt => { rt with used := true }) fun _ => rfl) ?_
  unfold Store.markRefreshTokenUsed
  split
  · exact Or.inr ⟨_, rfl, rfl⟩
  · exact Or.inl ⟨.notFound, rfl⟩

/-- How `DeleteRefreshToken` ends. -/
theorem deleteRefreshToken_ends (tokenHash : String) :
    (∃ e, execute backend choice state (.deleteRefreshToken tokenHash) =
        (.error e, state)) ∨
      ∃ after, execute backend choice state
          (.deleteRefreshToken tokenHash) = (.ok (), after) ∧
        after.store.refresh =
          state.store.refresh.delete fun rt => rt.tokenHash = tokenHash :=
  attempt_ends (fun after =>
    after.refresh =
      state.store.refresh.delete fun rt => rt.tokenHash = tokenHash)
    (Or.inr ⟨_, rfl, rfl⟩)

/-- How `DeleteRefreshTokensForUser` ends. -/
theorem deleteRefreshTokensForUser_ends (userID : String) :
    (∃ e, execute backend choice state
        (.deleteRefreshTokensForUser userID) = (.error e, state)) ∨
      ∃ after, execute backend choice state
          (.deleteRefreshTokensForUser userID) = (.ok (), after) ∧
        after.store.refresh =
          state.store.refresh.delete fun rt => rt.userID = userID :=
  attempt_ends (fun after =>
    after.refresh =
      state.store.refresh.delete fun rt => rt.userID = userID)
    (Or.inr ⟨_, rfl, rfl⟩)

/-- How `DeleteAccount` ends. -/
theorem deleteAccount_ends (userID : String) :
    (∃ e, execute backend choice state (.deleteAccount userID) =
        (.error e, state)) ∨
      ∃ after, execute backend choice state (.deleteAccount userID) =
          (.ok (), after) ∧
        after.store.users =
          state.store.users.delete (fun u => u.id = userID) ∧
        after.store.refresh =
          state.store.refresh.delete fun rt => rt.userID = userID := by
  refine attempt_ends (fun after =>
    after.users = state.store.users.delete (fun u => u.id = userID) ∧
      after.refresh =
        state.store.refresh.delete fun rt => rt.userID = userID) ?_
  unfold Store.deleteAccount
  split
  · exact Or.inr ⟨_, rfl, rfl, rfl⟩
  · exact Or.inl ⟨.notFound, rfl⟩

/-- A row after a deletion is a row from before that was not selected. -/
private theorem of_find?_delete
    {Row Key : Type}
    {key : Row → Key}
    [DecidableEq Key]
    {table : Table key}
    {selected : Row → Bool}
    {wanted : Key}
    {row : Row}
    (found : (table.delete selected).find? wanted = some row) :
    table.find? wanted = some row ∧ selected row = false := by
  rw [Table.find?_delete, Option.filter_eq_some_iff] at found
  exact ⟨found.1, by simpa using found.2⟩

/-- A row that is found after a deletion was there before. -/
private theorem refresh_row_of_delete
    {operation : Operation}
    {failure : StoreError → Answer operation}
    {answer : Answer operation}
    {gone : RefreshToken → Bool}
    {hash : String}
    {row : RefreshToken}
    (ends :
      (∃ e, execute backend choice state operation = (failure e, state)) ∨
        ∃ after, execute backend choice state operation = (answer, after) ∧
          after.store.refresh = state.store.refresh.delete gone)
    (found :
      (execute backend choice state operation).2.store.refresh.find? hash =
        some row) :
    state.store.refresh.find? hash = some row := by
  rcases ends with ⟨e, failed⟩ | ⟨after, done, written⟩
  · rwa [failed] at found
  · rw [done] at found
    simp only [written] at found
    exact (of_find?_delete found).1

/-- A row that is found after another call than a creation was there before. -/
theorem refresh_row_of_other
    {operation : Operation}
    {hash : String}
    {row : RefreshToken}
    (notCreate : ∀ rt, operation ≠ .createRefreshToken rt)
    (found :
      (execute backend choice state operation).2.store.refresh.find? hash =
        some row) :
    ∃ old,
      state.store.refresh.find? hash = some old ∧
      row.userID = old.userID ∧
      (old.used = true → row.used = true) := by
  by_cases untouched : operation.touches .refresh = false
  · have same := @execute_same backend choice state _ _ untouched
    simp only [Part.Same] at same
    rw [same] at found
    exact ⟨row, found, rfl, id⟩
  · cases operation with
    | createRefreshToken rt => exact absurd rfl (notCreate rt)
    | deleteRefreshToken tokenHash =>
        have ends := @deleteRefreshToken_ends backend choice state tokenHash
        exact ⟨row, refresh_row_of_delete ends found, rfl, id⟩
    | markRefreshTokenUsed tokenHash =>
        rcases @markRefreshTokenUsed_ends backend choice state tokenHash with
          ⟨e, failed⟩ | ⟨after, done, written⟩
        · rw [failed] at found
          exact ⟨row, found, rfl, id⟩
        · rw [done] at found
          simp only [written, Table.find?_update,
            Option.map_eq_some_iff] at found
          obtain ⟨old, wasFound, rfl⟩ := found
          refine ⟨old, wasFound, ?_, ?_⟩
          · split
            · rfl
            · rfl
          · intro wasUsed
            split
            · rfl
            · exact wasUsed
    | deleteRefreshTokensForUser userID =>
        have ends :=
          @deleteRefreshTokensForUser_ends backend choice state userID
        exact ⟨row, refresh_row_of_delete ends found, rfl, id⟩
    | deleteAccount userID =>
        have ends :=
          (@deleteAccount_ends backend choice state userID).imp_right
            (Exists.imp fun _ => And.imp_right And.right)
        exact ⟨row, refresh_row_of_delete ends found, rfl, id⟩
    | _ => exact absurd rfl untouched

/-- A row that is found after a creation is the new one, or was there before. -/
theorem refresh_row_of_create
    {rt row : RefreshToken}
    {hash : String}
    (found :
      (execute backend choice state
          (.createRefreshToken rt)).2.store.refresh.find? hash =
        some row) :
    (execute backend choice state (.createRefreshToken rt)).1 = .ok () ∧
        rt.tokenHash = hash ∧ row = backend.tokenRow rt ∨
      ((execute backend choice state (.createRefreshToken rt)).1 = .ok () →
          rt.tokenHash ≠ hash) ∧
        state.store.refresh.find? hash = some row := by
  rcases @createRefreshToken_ends backend choice state rt with
    ⟨e, failed⟩ | ⟨after, created, written⟩
  · rw [failed] at found ⊢
    exact Or.inr ⟨by rintro ⟨⟩, found⟩
  · rw [created] at found ⊢
    simp only [written, Table.find?_upsert,
      Backend.tokenRow_tokenHash] at found
    by_cases sameHash : rt.tokenHash = hash
    · rw [if_pos sameHash] at found
      exact Or.inl ⟨rfl, sameHash, (Option.some.inj found).symm⟩
    · rw [if_neg sameHash] at found
      exact Or.inr ⟨fun _ => sameHash, found⟩

/--
Where a refresh token comes from: the call has just created it, or it was there
before, with the same owner, and at most its use was recorded.
-/
theorem refresh_row_cases
    {operation : Operation}
    {hash : String}
    {row : RefreshToken}
    (found :
      (execute backend choice state operation).2.store.refresh.find? hash =
        some row) :
    (∃ rt,
        exchanged backend choice state operation =
          answered (.createRefreshToken rt) (.ok ()) ∧
        rt.tokenHash = hash ∧
        row = backend.tokenRow rt) ∨
      ((∀ rt,
          exchanged backend choice state operation =
            answered (.createRefreshToken rt) (.ok ()) →
          rt.tokenHash ≠ hash) ∧
        ∃ old,
          state.store.refresh.find? hash = some old ∧
          row.userID = old.userID ∧
          (old.used = true → row.used = true)) := by
  by_cases isCreate : ∃ rt, operation = .createRefreshToken rt
  · obtain ⟨rt, rfl⟩ := isCreate
    rcases refresh_row_of_create found with
      ⟨created, sameHash, isRow⟩ | ⟨otherHash, wasFound⟩
    · exact Or.inl ⟨rt, congrArg _ created, sameHash, isRow⟩
    · refine Or.inr ⟨?_, row, wasFound, rfl, id⟩
      intro other isCreate
      cases Exchange.operation_eq isCreate
      exact otherHash (Exchange.answer_eq isCreate)
  · have notCreate : ∀ rt, operation ≠ .createRefreshToken rt :=
      fun rt same => isCreate ⟨rt, same⟩
    refine Or.inr ⟨?_, refresh_row_of_other notCreate found⟩
    intro rt isCreate
    exact absurd (Exchange.operation_eq isCreate) (notCreate rt)

/-!
## Second factors
-/

/-- The fields of a user that decide about its codes. -/
structure Factor where
  secret : String
  enabled : Bool
  counter : Nat
deriving DecidableEq

/-- The second factor of a user record. -/
def User.factor (u : User) : Factor where
  secret := u.totpSecret
  enabled := u.totpEnabled
  counter := u.totpLastCounter

/-- The stored second factor of an account. -/
def Store.factor (store : Store) (userID : String) : Option Factor :=
  (store.users.find? userID).map User.factor

/-- Rewriting a user fails without it, and changes no other factor. -/
theorem updateUser_ends
    (store : Store)
    (userID : String)
    (change : User → User)
    (keepsID : ∀ u, (change u).id = u.id) :
    (∃ e, store.updateUser userID change keepsID = (.error e, store)) ∨
      ∃ after u,
        store.updateUser userID change keepsID = (.ok (), after) ∧
        store.users.find? userID = some u ∧
        ∀ other,
          after.factor other =
            if other = userID then
              some (change u).factor
            else
              store.factor other := by
  unfold Store.updateUser
  cases isStored : store.users.find? userID with
  | none =>
      exact Or.inl ⟨.notFound, rfl⟩
  | some u =>
      refine Or.inr ⟨_, u, rfl, rfl, ?_⟩
      intro other
      simp only [Store.factor, Table.find?_update]
      by_cases isTarget : other = userID
      · subst other
        have sameID := Table.key_of_find? isStored
        simp [isStored, sameID]
      · rw [if_neg isTarget]
        cases found : store.users.find? other with
        | none =>
            rfl
        | some row =>
            have sameID := Table.key_of_find? found
            simp [sameID, isTarget]

/-- How `SetUserTOTP` ends. -/
theorem setUserTOTP_ends (userID secret : String) (enabled : Bool) :
    (∃ e, execute backend choice state (.setUserTOTP userID secret enabled) =
        (.error e, state)) ∨
      ∃ after, execute backend choice state
          (.setUserTOTP userID secret enabled) = (.ok (), after) ∧
        (state.store.factor userID).isSome ∧
        ∀ other,
          after.store.factor other =
            if other = userID then
              some { secret := secret, enabled := enabled, counter := 0 }
            else
              state.store.factor other := by
  refine attempt_ends (fun after =>
    (state.store.factor userID).isSome ∧
      ∀ other,
        after.factor other =
          if other = userID then
            some { secret := secret, enabled := enabled, counter := 0 }
          else
            state.store.factor other) ?_
  rcases updateUser_ends state.store userID _ _ with
    refused | ⟨after, u, succeeded, isStored, changed⟩
  · exact Or.inl refused
  · refine Or.inr ⟨after, succeeded, ?_, changed⟩
    simp [Store.factor, isStored]

/-- How `SetUserTOTPCounter` ends. -/
theorem setUserTOTPCounter_ends (userID : String) (counter : Nat) :
    (∃ e, execute backend choice state (.setUserTOTPCounter userID counter) =
        (.error e, state)) ∨
      ∃ after factor, execute backend choice state
          (.setUserTOTPCounter userID counter) = (.ok (), after) ∧
        state.store.factor userID = some factor ∧
        ∀ other,
          after.store.factor other =
            if other = userID then
              some { factor with counter := counter }
            else
              state.store.factor other := by
  rcases updateUser_ends state.store userID
      (fun u => { u with totpLastCounter := counter }) (fun _ => rfl) with
    ⟨e, refused⟩ | ⟨after, u, succeeded, isStored, changed⟩
  · left
    rcases attempt_cases choice state (.setUserTOTPCounter userID counter)
        (state.store.setUserTOTPCounter userID counter) with failed | done
    · exact ⟨_, failed⟩
    · refine ⟨e, done.trans ?_⟩
      rw [Store.setUserTOTPCounter, refused]
  · rcases attempt_cases choice state (.setUserTOTPCounter userID counter)
        (state.store.setUserTOTPCounter userID counter) with failed | done
    · exact Or.inl ⟨_, failed⟩
    · right
      refine ⟨{ state with store := after }, u.factor, done.trans ?_, ?_,
        changed⟩
      · rw [Store.setUserTOTPCounter, succeeded]
      · simp [Store.factor, isStored]

/-- The calls that can change a second factor. -/
def Operation.changesFactor : Operation → Bool
  | .createUser _ => true
  | .setUserTOTP _ _ _ => true
  | .setUserTOTPCounter _ _ => true
  | .deleteAccount _ => true
  | _ => false

/-- Every other call leaves all second factors alone. -/
theorem factor_execute
    {operation : Operation}
    (unchanged : operation.changesFactor = false)
    (userID : String) :
    (execute backend choice state operation).2.store.factor userID =
      state.store.factor userID := by
  by_cases untouched : operation.touches .users = false
  · have same := @execute_same backend choice state _ _ untouched
    simp only [Part.Same] at same
    simp only [Store.factor, same]
  · have rewritten :
        ∀ (operation : Operation) (id : String) (change : User → User)
          (keepsID : ∀ u, (change u).id = u.id),
          (∀ u, (change u).factor = u.factor) →
          (attempt choice state operation
              (state.store.updateUser id change keepsID)).2.store.factor
                userID =
            state.store.factor userID := by
      intro operation id change keepsID keepsFactor
      rcases attempt_cases choice state operation
          (state.store.updateUser id change keepsID) with failed | done
      · rw [failed]
      · rw [done]
        rcases updateUser_ends state.store id change keepsID with
          ⟨e, refused⟩ | ⟨after, u, succeeded, isStored, changed⟩
        · rw [refused]
        · rw [succeeded]
          dsimp only
          rw [changed userID]
          split
          · rename_i isTarget
            rw [keepsFactor, isTarget]
            simp [Store.factor, isStored]
          · rfl
    cases operation with
    | setUserRecovery id key verifier =>
        exact rewritten _ _ _ _ fun _ => rfl
    | clearUserRecovery id =>
        exact rewritten _ _ _ _ fun _ => rfl
    | rotateMasterPassword id verifier key kdf =>
        simp only [execute, Store.rotateMasterPassword]
        split
        · exact rewritten _ _ _ _ fun _ => rfl
        · rcases attempt_cases choice state
              (.rotateMasterPassword id verifier key kdf)
              ((.error .failure, state.store) : Store.Outcome Unit) with
            failed | done
          · rw [failed]
          · rw [done]
    | createUser u => cases unchanged
    | setUserTOTP id secret enabled => cases unchanged
    | setUserTOTPCounter id counter => cases unchanged
    | deleteAccount id => cases unchanged
    | _ => exact absurd rfl untouched

/-- Deleting an account removes its second factor and no other. -/
theorem deleteAccount_factor (userID : String) :
    (∃ e, execute backend choice state (.deleteAccount userID) =
        (.error e, state)) ∨
      ∃ after, execute backend choice state (.deleteAccount userID) =
          (.ok (), after) ∧
        ∀ other,
          after.store.factor other =
            if other = userID then none else state.store.factor other := by
  rcases @deleteAccount_ends backend choice state userID with
    failed | ⟨after, done, users, -⟩
  · exact Or.inl failed
  · refine Or.inr ⟨after, done, ?_⟩
    intro other
    simp only [Store.factor, users, Table.find?_delete]
    cases found : state.store.users.find? other with
    | none =>
        simp
    | some u =>
        have sameID := Table.key_of_find? found
        by_cases isTarget : other = userID
        · simp [sameID, isTarget]
        · simp [sameID, isTarget]

/-- A new account has the second factor of its record, with a fresh counter. -/
theorem createUser_ends (u : User) (fresh : u.totpLastCounter = 0) :
    (∃ e, execute backend choice state (.createUser u) =
        (.error e, state)) ∨
      ∃ after, execute backend choice state (.createUser u) =
          (.ok (), after) ∧
        ∀ other,
          after.store.factor other =
            if other = u.id then
              some u.factor
            else
              state.store.factor other := by
  have written :
      ∀ row : User, row.id = u.id → row.factor = u.factor → ∀ other,
        ({ state.store with
            users := state.store.users.upsert row } : Store).factor other =
          if other = u.id then
            some u.factor
          else
            state.store.factor other := by
    intro row sameID sameFactor other
    simp only [Store.factor, Table.find?_upsert, sameID]
    by_cases isNew : other = u.id
    · simp [isNew, sameFactor]
    · simp [isNew, Ne.symm isNew]
  refine attempt_ends (fun after =>
    ∀ other,
      after.factor other =
        if other = u.id then
          some u.factor
        else
          state.store.factor other) ?_
  unfold Store.createUser
  split
  · split
    · exact Or.inl ⟨.conflict, rfl⟩
    · split
      · split
        · exact Or.inl ⟨.conflict, rfl⟩
        · refine Or.inr ⟨_, rfl, written _ rfl ?_⟩
          simp [User.factor, fresh]
      · exact Or.inr ⟨_, rfl, written u rfl rfl⟩
  · exact Or.inl ⟨.failure, rfl⟩

/-!
## Reading accounts
-/

/-- How `GetUserByIdentifierHash` ends. -/
theorem getUserByIdentifierHash_ends (identifierHash : String) :
    (∃ e, execute backend choice state
        (.getUserByIdentifierHash identifierHash) = (.error e, state)) ∨
      ∃ u, execute backend choice state
          (.getUserByIdentifierHash identifierHash) = (.ok u, state) ∧
        u.identifierHash = identifierHash ∧
        state.store.users.find? u.id = some u := by
  rcases attempt_cases choice state (.getUserByIdentifierHash identifierHash)
      (state.store.getUserByIdentifierHash identifierHash) with failed | done
  · exact Or.inl ⟨_, failed⟩
  · cases found : state.store.users.rows.find? fun u =>
        decide (u.identifierHash = identifierHash) with
    | none =>
        refine Or.inl ⟨.notFound, done.trans ?_⟩
        simp only [Store.getUserByIdentifierHash, found]
    | some u =>
        refine Or.inr ⟨u, done.trans ?_, ?_, ?_⟩
        · simp only [Store.getUserByIdentifierHash, found]
        · simpa using List.find?_some found
        · exact Table.find?_of_mem (List.mem_of_find?_eq_some found)

/-- How `GetUserByID` ends. -/
theorem getUserByID_ends (id : String) :
    (∃ e, execute backend choice state (.getUserByID id) =
        (.error e, state)) ∨
      ∃ u, execute backend choice state (.getUserByID id) = (.ok u, state) ∧
        u.id = id ∧
        state.store.users.find? u.id = some u := by
  rcases attempt_cases choice state (.getUserByID id)
      (state.store.getUserByID id) with failed | done
  · exact Or.inl ⟨_, failed⟩
  · cases found : state.store.users.find? id with
    | none =>
        refine Or.inl ⟨.notFound, done.trans ?_⟩
        simp only [Store.getUserByID, found]
    | some u =>
        have sameID := Table.key_of_find? found
        refine Or.inr ⟨u, done.trans ?_, sameID, ?_⟩
        · simp only [Store.getUserByID, found]
        · rw [sameID, found]

/-- How `GetRefreshToken` ends. -/
theorem getRefreshToken_ends (tokenHash : String) :
    (∃ e, execute backend choice state (.getRefreshToken tokenHash) =
        (.error e, state)) ∨
      ∃ rt, execute backend choice state (.getRefreshToken tokenHash) =
          (.ok rt, state) ∧
        state.store.refresh.find? tokenHash = some rt := by
  rcases attempt_cases choice state (.getRefreshToken tokenHash)
      (state.store.getRefreshToken tokenHash) with failed | done
  · exact Or.inl ⟨_, failed⟩
  · cases found : state.store.refresh.find? tokenHash with
    | none =>
        refine Or.inl ⟨.notFound, done.trans ?_⟩
        simp only [Store.getRefreshToken, found]
    | some rt =>
        refine Or.inr ⟨rt, done.trans ?_, rfl⟩
        simp only [Store.getRefreshToken, found]

/-- The record of an account that a call answers. -/
def readUser? : Exchange calls → Option User
  | ⟨.getUserByIdentifierHash _, .ok u⟩ => some u
  | ⟨.getUserByID _, .ok u⟩ => some u
  | _ => none

/-- The accounts that a history has read are those of a store. -/
structure ReadsStored (store : Store) (history : History calls) : Prop where
  byID :
    ∀ id u,
      answered (.getUserByID id) (.ok u) ∈ history →
        store.users.find? id = some u
  byIdentifierHash :
    ∀ identifierHash u,
      answered (.getUserByIdentifierHash identifierHash) (.ok u) ∈ history →
        store.users.find? u.id = some u

/-- Before anything is read, nothing is read that is not stored. -/
theorem readsStored_nil (store : Store) : ReadsStored store [] := by
  constructor
  · intro id u member
    cases member
  · intro identifierHash u member
    cases member

/-- A call that is made in the same users reads what is stored there. -/
theorem ReadsStored.concat
    {store : Store}
    {history : History calls}
    (reads : ReadsStored store history)
    (sameUsers : state.store.users = store.users)
    (operation : Operation) :
    ReadsStored store
      (history ++ [exchanged backend choice state operation]) := by
  constructor
  · intro id u member
    rcases List.mem_append.mp member with old | new
    · exact reads.byID id u old
    · have isNewest := List.mem_singleton.mp new
      obtain rfl := Exchange.operation_eq isNewest
      rcases @getUserByID_ends backend choice state id with
        ⟨e, failed⟩ | ⟨row, done, sameID, isStored⟩
      · rw [exchanged, failed] at isNewest
        cases isNewest
      · rw [exchanged, done] at isNewest
        cases isNewest
        rw [← sameUsers, ← sameID, isStored]
  · intro identifierHash u member
    rcases List.mem_append.mp member with old | new
    · exact reads.byIdentifierHash identifierHash u old
    · have isNewest := List.mem_singleton.mp new
      obtain rfl := Exchange.operation_eq isNewest
      rcases @getUserByIdentifierHash_ends backend choice state
          identifierHash with ⟨e, failed⟩ | ⟨row, done, -, isStored⟩
      · rw [exchanged, failed] at isNewest
        cases isNewest
      · rw [exchanged, done] at isNewest
        cases isNewest
        rw [← sameUsers, isStored]

end Passwd.Server
