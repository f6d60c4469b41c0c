import Passwd.StoreChanges
import Passwd.TokenIssuance

namespace Passwd.Server

open Base64 Interaction

/-!
# Rows and the accounts they name

Every row of the store names one account, a share names two.  No foreign key is
declared, so that the named accounts exist is an invariant that the handlers
have to keep: they insert rows for accounts they have just read, with four
exceptions, which rely on the access token alone.
-/

/-- An account with the id exists. -/
def Store.hasUser (store : Store) (id : String) : Bool :=
  (store.users.find? id).isSome

/-- Every row names accounts that exist. -/
structure Store.Intact (store : Store) : Prop where
  ciphers : ∀ c ∈ store.ciphers.rows, store.hasUser c.userID = true
  refresh : ∀ rt ∈ store.refresh.rows, store.hasUser rt.userID = true
  passkeys : ∀ c ∈ store.passkeys.rows, store.hasUser c.userID = true
  audit : ∀ e ∈ store.audit, store.hasUser e.userID = true
  shares :
    ∀ sh ∈ store.shares.rows,
      store.hasUser sh.ownerUserID = true ∧
        store.hasUser sh.recipientUserID = true

/-- The store without rows is intact. -/
theorem Store.intact_empty : Store.empty.Intact where
  ciphers := by
    intro c member
    cases member
  refresh := by
    intro rt member
    cases member
  passkeys := by
    intro c member
    cases member
  audit := by
    intro e member
    cases member
  shares := by
    intro sh member
    cases member

/-!
## What a call does to the rows
-/

section Calls

variable {backend : Backend} {choice : Choice} {state : State}
  {operation : Operation} {id : String}

/-- A rewritten user is still there. -/
theorem hasUser_updateUser
    {store : Store}
    {userID : String}
    {change : User → User}
    {keepsID : ∀ u, (change u).id = u.id}
    (isUser : store.hasUser id = true) :
    (store.updateUser userID change keepsID).2.hasUser id = true := by
  unfold Store.updateUser
  split
  · simpa [Store.hasUser, Table.find?_update] using isUser
  · exact isUser

/-- A store call keeps an account when its outcome does. -/
theorem hasUser_attempt
    {α : Type}
    {outcome : Store.Outcome α}
    (isUser : state.store.hasUser id = true)
    (kept : outcome.2.hasUser id = true) :
    (attempt choice state operation outcome).2.store.hasUser id = true := by
  rcases attempt_cases choice state operation outcome with failed | done
  · rw [failed]
    exact isUser
  · rw [done]
    exact kept

/-- Only deleting an account removes it. -/
theorem hasUser_execute
    (notDelete : ∀ userID, operation ≠ .deleteAccount userID)
    (isUser : state.store.hasUser id = true) :
    (execute backend choice state operation).2.store.hasUser id = true := by
  by_cases untouched : operation.touches .users = false
  · have same := @execute_same backend choice state _ _ untouched
    simp only [Part.Same] at same
    rw [Store.hasUser, same]
    exact isUser
  · cases operation with
    | createUser u =>
        refine hasUser_attempt isUser ?_
        unfold Store.createUser
        have written :
            ∀ row : User,
              (({ state.store with
                  users := state.store.users.upsert row } : Store).hasUser
                id) = true := by
          intro row
          unfold Store.hasUser at isUser ⊢
          rw [Table.find?_upsert]
          split
          · rfl
          · exact isUser
        split
        · split
          · exact isUser
          · split
            · split
              · exact isUser
              · exact written _
            · exact written _
        · exact isUser
    | setUserTOTP userID secret enabled =>
        exact hasUser_attempt isUser (hasUser_updateUser isUser)
    | setUserTOTPCounter userID counter =>
        exact hasUser_attempt isUser (hasUser_updateUser isUser)
    | setUserRecovery userID key verifier =>
        exact hasUser_attempt isUser (hasUser_updateUser isUser)
    | clearUserRecovery userID =>
        exact hasUser_attempt isUser (hasUser_updateUser isUser)
    | rotateMasterPassword userID verifier key kdf =>
        refine hasUser_attempt isUser ?_
        unfold Store.rotateMasterPassword
        split
        · exact hasUser_updateUser isUser
        · exact isUser
    | deleteAccount userID => exact absurd rfl (notDelete userID)
    | _ => exact absurd rfl untouched

/-- A call that refers to existing accounts keeps the store intact. -/
theorem Store.Intact.execute
    (intact : state.store.Intact)
    (notDelete : ∀ userID, operation ≠ .deleteAccount userID)
    (exist : ∀ id ∈ operation.refersTo, state.store.hasUser id = true) :
    (execute backend choice state operation).2.store.Intact where
  ciphers := by
    intro c member
    refine hasUser_execute notDelete ?_
    rcases ciphers_change.origin member with ⟨old, isOld, owner⟩ | ⟨refers, -⟩
    · exact owner ▸ intact.ciphers old isOld
    · exact exist _ (refers ▸ List.mem_singleton_self _)
  refresh := by
    intro rt member
    refine hasUser_execute notDelete ?_
    rcases refresh_change.origin member with ⟨old, isOld, owner⟩ | ⟨refers, -⟩
    · exact owner ▸ intact.refresh old isOld
    · exact exist _ (refers ▸ List.mem_singleton_self _)
  passkeys := by
    intro c member
    refine hasUser_execute notDelete ?_
    rcases passkeys_change.origin member with
      ⟨old, isOld, owner⟩ | ⟨refers, -⟩
    · exact owner ▸ intact.passkeys old isOld
    · exact exist _ (refers ▸ List.mem_singleton_self _)
  audit := by
    intro e member
    refine hasUser_execute notDelete ?_
    rcases @audit_change backend choice state operation with
      same | ⟨added, appended, refers, -⟩ | ⟨userID, isDelete, -⟩
    · exact intact.audit e (same ▸ member)
    · rw [appended] at member
      rcases List.mem_append.mp member with old | new
      · exact intact.audit e old
      · rw [List.mem_singleton.mp new]
        exact exist _ (refers ▸ List.mem_singleton_self _)
    · exact absurd isDelete (notDelete userID)
  shares := by
    intro sh member
    rcases shares_change.origin member with ⟨old, isOld, owner⟩ | ⟨refers, -⟩
    · obtain ⟨sameOwner, sameRecipient⟩ := Prod.mk.inj owner
      obtain ⟨ownerExists, recipientExists⟩ := intact.shares old isOld
      exact ⟨hasUser_execute notDelete (sameOwner ▸ ownerExists),
        hasUser_execute notDelete (sameRecipient ▸ recipientExists)⟩
    · refine ⟨hasUser_execute notDelete (exist _ ?_),
        hasUser_execute notDelete (exist _ ?_)⟩
      · exact refers ▸ List.mem_cons_self
      · exact refers ▸ List.mem_cons_of_mem _ (List.mem_singleton_self _)

/-- Every other account is still there after one was deleted. -/
theorem hasUser_delete
    {store : Store}
    {userID : String}
    (isUser : store.hasUser id = true)
    (other : id ≠ userID) :
    ((store.users.delete fun u => u.id = userID).find? id).isSome = true := by
  obtain ⟨u, found⟩ := Option.isSome_iff_exists.mp isUser
  have isID := Table.key_of_find? found
  have kept : u.id ≠ userID := isID ▸ other
  rw [Table.find?_delete, found]
  simp [Option.filter, kept]

/-- Deleting an account deletes the rows that name it. -/
theorem Store.Intact.deleteAccount
    {store : Store}
    (intact : store.Intact)
    (userID : String) :
    (store.deleteAccount userID).2.Intact := by
  unfold Store.deleteAccount
  split
  · refine
      { ciphers := ?_
        refresh := ?_
        passkeys := ?_
        audit := ?_
        shares := ?_ }
    · intro c member
      obtain ⟨isRow, kept⟩ := Table.mem_delete member
      exact hasUser_delete (intact.ciphers c isRow) (of_decide_eq_false kept)
    · intro rt member
      obtain ⟨isRow, kept⟩ := Table.mem_delete member
      exact hasUser_delete (intact.refresh rt isRow) (of_decide_eq_false kept)
    · intro c member
      obtain ⟨isRow, kept⟩ := Table.mem_delete member
      exact hasUser_delete (intact.passkeys c isRow) (of_decide_eq_false kept)
    · intro e member
      obtain ⟨isRow, kept⟩ := List.mem_filter.mp member
      refine hasUser_delete (intact.audit e isRow) ?_
      simpa using kept
    · intro sh member
      obtain ⟨isRow, kept⟩ := Table.mem_delete member
      obtain ⟨ownerExists, recipientExists⟩ := intact.shares sh isRow
      simp only [Bool.or_eq_false_iff, decide_eq_false_iff_not] at kept
      exact ⟨hasUser_delete ownerExists kept.1,
        hasUser_delete recipientExists kept.2⟩
  · exact intact

/-- An account that was created exists. -/
theorem hasUser_of_createUser
    {store : Store}
    {u : User}
    (isShown :
      shows id ⟨.createUser u, (store.createUser backend u).1⟩) :
    (store.createUser backend u).2.hasUser id = true := by
  have written :
      ∀ row : User, row.id = u.id → u.id = id →
        ({ store with users := store.users.upsert row } : Store).hasUser
          id = true := by
    intro row sameID isID
    unfold Store.hasUser
    rw [Table.find?_upsert, if_pos (sameID.trans isID)]
    rfl
  unfold Store.createUser at isShown ⊢
  split at isShown
  · rename_i takesKDF
    rw [if_pos takesKDF]
    split at isShown
    · cases isShown
    · rename_i notTaken
      rw [if_neg notTaken]
      split at isShown
      · rename_i isSql
        rw [if_pos isSql]
        split at isShown
        · cases isShown
        · rename_i notStored
          rw [if_neg notStored]
          exact written _ rfl isShown
      · rename_i notSql
        rw [if_neg notSql]
        exact written _ rfl isShown
  · cases isShown

/-- An account that was rewritten exists. -/
theorem hasUser_of_updateUser
    {change : User → User}
    {keepsID : ∀ u, (change u).id = u.id}
    {done : Unit}
    (succeeded :
      (attempt choice state operation
        (state.store.updateUser id change keepsID)).1 = .ok done) :
    (attempt choice state operation
      (state.store.updateUser id change keepsID)).2.store.hasUser id =
        true := by
  obtain ⟨written, isDone⟩ := attempt_of_ok succeeded
  rw [isDone]
  unfold Store.updateUser at written
  split at written
  · rename_i isUser
    exact hasUser_updateUser isUser
  · cases written

/-- A call that requires a row of an account and succeeds has found one. -/
theorem exists_of_required
    {Row Key : Type}
    [DecidableEq Key]
    {key : Row → Key}
    {table : Table key}
    {wanted : Key}
    {owner : Row → String}
    {changed : Store}
    {done : Unit}
    (succeeded :
      (attempt choice state operation
        (if (table.find? wanted).any fun row => owner row = id then
          (.ok (), changed)
        else
          (.error .notFound, state.store))).1 = .ok done) :
    ∃ row ∈ table.rows, owner row = id := by
  obtain ⟨written, -⟩ := attempt_of_ok succeeded
  split at written
  · rename_i found
    obtain ⟨row, isFound, owned⟩ := (Option.any_eq_true _ _).mp found
    exact ⟨row, Table.mem_of_find? isFound, of_decide_eq_true owned⟩
  · cases written

/-- Whatever a call shows to exist exists after it. -/
theorem hasUser_of_shows
    (intact : state.store.Intact)
    (isShown : shows id (exchanged backend choice state operation)) :
    (execute backend choice state operation).2.store.hasUser id = true := by
  cases operation
  case getUserByIdentifierHash idHash =>
    rcases @getUserByIdentifierHash_ends backend choice state idHash with
      ⟨e, failed⟩ | ⟨u, done, -, isStored⟩
    · rw [exchanged, failed] at isShown
      cases isShown
    · rw [exchanged, done] at isShown
      rw [done]
      cases isShown
      exact Option.isSome_of_eq_some isStored
  case getUserByID userID =>
    rcases @getUserByID_ends backend choice state userID with
      ⟨e, failed⟩ | ⟨u, done, sameID, isStored⟩
    · rw [exchanged, failed] at isShown
      cases isShown
    · rw [exchanged, done] at isShown
      rw [done]
      cases isShown
      exact Option.isSome_of_eq_some (sameID ▸ isStored)
  case getRefreshToken hash =>
    rcases @getRefreshToken_ends backend choice state hash with
      ⟨e, failed⟩ | ⟨rt, done, isStored⟩
    · rw [exchanged, failed] at isShown
      cases isShown
    · rw [exchanged, done] at isShown
      rw [done]
      cases isShown
      exact intact.refresh rt (Table.mem_of_find? isStored)
  case createUser u =>
    rcases attempt_cases choice state (.createUser u)
        (state.store.createUser backend u) with failed | done
    · simp only [exchanged, execute, failed] at isShown
      cases isShown
    · simp only [exchanged, execute, done] at isShown ⊢
      exact hasUser_of_createUser isShown
  case setUserRecovery userID key verifier =>
    cases answer :
        (execute backend choice state (.setUserRecovery userID key verifier)).1 with
    | error e =>
        rw [exchanged, answer] at isShown
        cases isShown
    | ok done =>
        rw [exchanged, answer] at isShown
        cases isShown
        exact hasUser_of_updateUser answer
  case clearUserRecovery userID =>
    cases answer :
        (execute backend choice state (.clearUserRecovery userID)).1 with
    | error e =>
        rw [exchanged, answer] at isShown
        cases isShown
    | ok done =>
        rw [exchanged, answer] at isShown
        cases isShown
        exact hasUser_of_updateUser answer
  case deleteWebAuthnCredential userID passkey =>
    cases answer :
        (execute backend choice state (.deleteWebAuthnCredential userID passkey)).1 with
    | error e =>
        rw [exchanged, answer] at isShown
        cases isShown
    | ok done =>
        rw [exchanged, answer] at isShown
        cases isShown
        obtain ⟨row, isRow, owner⟩ := exists_of_required answer
        refine hasUser_execute (fun _ => Operation.noConfusion) ?_
        exact owner ▸ intact.passkeys row isRow
  case updateCipher c =>
    cases answer : (execute backend choice state (.updateCipher c)).1 with
    | error e =>
        rw [exchanged, answer] at isShown
        cases isShown
    | ok done =>
        rw [exchanged, answer] at isShown
        cases isShown
        obtain ⟨row, isRow, owner⟩ := exists_of_required answer
        refine hasUser_execute (fun _ => Operation.noConfusion) ?_
        exact owner ▸ intact.ciphers row isRow
  case deleteCipher userID cipher =>
    cases answer :
        (execute backend choice state (.deleteCipher userID cipher)).1 with
    | error e =>
        rw [exchanged, answer] at isShown
        cases isShown
    | ok done =>
        rw [exchanged, answer] at isShown
        cases isShown
        obtain ⟨row, isRow, owner⟩ := exists_of_required answer
        refine hasUser_execute (fun _ => Operation.noConfusion) ?_
        exact owner ▸ intact.ciphers row isRow
  all_goals cases isShown

end Calls

/-!
## Requests
-/

section Requests

variable {backend : Backend} {env : Environment} {state : State}
  {request : Request} {choices : Nat → Choice}

/-- What a request that does not delete an account keeps about the store. -/
structure Knows
    (request : Request)
    (history : History calls)
    (later : State) :
    Prop where
  intact : later.store.Intact
  exist : ∀ id, Vouched request history id → later.store.hasUser id = true

/-- Every call of a request keeps the store intact. -/
theorem Knows.step
    {history : History calls}
    {later : State}
    {operation : Operation}
    (knows : Knows request history later)
    (notDelete : ∀ userID, operation ≠ .deleteAccount userID)
    (inScope : Scoped env request history operation)
    (choice : Choice) :
    Knows request
      (history ++ [exchanged backend choice later operation])
      (execute backend choice later operation).2 where
  intact := by
    refine knows.intact.execute notDelete ?_
    intro id member
    exact knows.exist id (inScope.vouched id member)
  exist := by
    intro id vouched
    rcases vouched with trusted | ⟨exchange, member, isShown⟩
    · exact hasUser_execute notDelete (knows.exist id (Or.inl trusted))
    · rcases List.mem_append.mp member with old | new
      · exact hasUser_execute notDelete
          (knows.exist id (Or.inr ⟨exchange, old, isShown⟩))
      · rw [List.mem_singleton.mp new] at isShown
        exact hasUser_of_shows knows.intact isShown

/-- A request whose subject exists keeps the store intact. -/
theorem intact_served_of_trusted
    (intact : state.store.Intact)
    (notDelete : ∀ userID, request ≠ .deleteAccount userID)
    (exist : ∀ id, request.trusted = some id → state.store.hasUser id = true) :
    (served backend env state request choices).state.store.Intact := by
  have start : Knows request [] state := by
    refine { intact := intact, exist := ?_ }
    rintro id (trusted | ⟨exchange, member, -⟩)
    · exact exist id trusted
    · cases member
  have knows :
      Knows request
        ([] ++ (served backend env state request choices).history)
        (served backend env state request choices).state := by
    refine ((serves_serve env request).and
      (serve_acts env request)).run_invariant (Knows request) start ?_
    intro history operation later index obeyed knows
    refine knows.step ?_ obeyed.2 (choices index)
    rintro userID rfl
    exact notDelete userID obeyed.1.2
  exact knows.intact

/-- Deleting an account keeps the store intact. -/
theorem intact_served_deleteAccount
    (intact : state.store.Intact)
    (userID : String) :
    (served backend env state (.deleteAccount userID)
      choices).state.store.Intact := by
  unfold served
  simp only [serve, handleDeleteAccount]
  split
  · exact intact
  · have deleted :
        (execute backend (choices 0) state
          (.deleteAccount userID)).2.store.Intact := by
      rcases attempt_cases (choices 0) state (.deleteAccount userID)
          (state.store.deleteAccount userID) with failed | done
      · rw [execute, failed]
        exact intact
      · rw [execute, done]
        exact intact.deleteAccount userID
    simp only [perform_bind, Program.run_perform]
    split
    · exact deleted
    · exact deleted
    · exact deleted

/-- A share without a recipient is not stored. -/
theorem served_createShare_of_none
    {userID : String}
    {req : CreateShareRequest}
    (noRecipient :
      ((state.store.users.rows.find? fun u =>
          u.identifierHash = env.blindIdentifier req.recipientIdentifier).any
        fun u => u.publicKey ≠ "") = false) :
    (served backend env state (.createShare userID (some req))
      choices).state = state := by
  unfold served
  simp only [serve, handleCreateShare]
  split
  · rfl
  · split
    · rfl
    · rcases attempt_cases (choices 0) state
          (.getUserByIdentifierHash
            (env.blindIdentifier req.recipientIdentifier))
          (state.store.getUserByIdentifierHash
            (env.blindIdentifier req.recipientIdentifier)) with failed | done
      · simp only [findRecipient, perform_bind, Program.perform_bind,
          Program.run_perform, execute, failed]
        rfl
      · simp only [findRecipient, perform_bind, Program.perform_bind,
          Program.run_perform, execute, done]
        unfold Store.getUserByIdentifierHash
        cases found : state.store.users.rows.find? fun u =>
            decide
              (u.identifierHash =
                env.blindIdentifier req.recipientIdentifier) with
        | none =>
            rfl
        | some u =>
            have noKey : u.publicKey = "" := by
              simpa [found] using noRecipient
            simp only [noKey, if_true]
            rfl

/-- An enrolment without a pending ceremony stores nothing. -/
theorem served_registerFinish_of_none
    {userID : String}
    {req : RegisterFinishRequest}
    (notPending :
      ((state.waPending.find? req.sessionId).any fun entry =>
        entry.userID = userID) = false) :
    (served backend env state (.webAuthnRegisterFinish userID (some req))
      choices).state.store = state.store := by
  unfold served
  simp only [serve, handleWebAuthnRegisterFinish]
  cases env.webAuthn with
  | none =>
      rfl
  | some webAuthn =>
      have noEntry :
          (takeChallenge (choices 0).now state.waPending
              req.sessionId).1.filter (fun entry =>
            decide (entry.userID = userID)) = none := by
        rw [takeChallenge, Option.filter_eq_none_iff]
        intro entry found
        obtain ⟨isStored, -⟩ := Option.filter_eq_some_iff.mp found
        rw [isStored] at notPending
        exact Bool.eq_false_iff.mp notPending
      simp only [perform_bind, Program.run_perform, execute, noEntry]
      rfl

/--
The account for which a request inserts rows on the word of its access token
alone, if it gets that far.
-/
def Request.insertsFor
    (env : Environment)
    (state : State)
    (request : Request) : Option String :=
  match request with
  | .createShare _ (some req) =>
      if (state.store.users.rows.find? fun u =>
            u.identifierHash =
              env.blindIdentifier req.recipientIdentifier).any
          fun u => u.publicKey ≠ "" then
        request.trusted
      else
        none
  | .webAuthnRegisterFinish userID (some req) =>
      if (state.waPending.find? req.sessionId).any fun entry =>
          entry.userID = userID then
        request.trusted
      else
        none
  | _ => request.trusted

/-- The account that a request inserts rows for exists. -/
def Accounted
    (env : Environment)
    (state : State)
    (request : Request) : Bool :=
  (request.insertsFor env state).all fun id => state.store.hasUser id

/-- A request keeps the store intact if its account exists. -/
theorem intact_served
    (intact : state.store.Intact)
    (accounted : Accounted env state request = true) :
    (served backend env state request choices).state.store.Intact := by
  have general :
      (∀ userID, request ≠ .deleteAccount userID) →
        request.insertsFor env state = request.trusted →
          (served backend env state request choices).state.store.Intact := by
    intro notDelete inserts
    refine intact_served_of_trusted intact notDelete ?_
    intro id trusted
    rw [Accounted, inserts, trusted] at accounted
    exact accounted
  cases request with
  | deleteAccount userID =>
      exact intact_served_deleteAccount intact userID
  | createShare userID req =>
      cases req with
      | none =>
          exact general (fun _ => Request.noConfusion) rfl
      | some req =>
          by_cases canReceive :
              ((state.store.users.rows.find? fun u =>
                  u.identifierHash =
                    env.blindIdentifier req.recipientIdentifier).any
                fun u => u.publicKey ≠ "") = true
          · exact general (fun _ => Request.noConfusion) (if_pos canReceive)
          · rw [served_createShare_of_none (Bool.eq_false_iff.mpr canReceive)]
            exact intact
  | webAuthnRegisterFinish userID req =>
      cases req with
      | none =>
          exact general (fun _ => Request.noConfusion) rfl
      | some req =>
          by_cases pending :
              ((state.waPending.find? req.sessionId).any fun entry =>
                entry.userID = userID) = true
          · exact general (fun _ => Request.noConfusion) (if_pos pending)
          · rw [served_registerFinish_of_none (Bool.eq_false_iff.mpr pending)]
            exact intact
  | _ =>
      exact general (fun _ => Request.noConfusion) rfl

/-- The state after requests that are served one after the other. -/
def servedAll
    (backend : Backend)
    (env : Environment)
    (state : State)
    (requests : List (Request × (Nat → Choice))) : State :=
  requests.foldl
    (fun state move => (served backend env state move.1 move.2).state)
    state

/-- Every request of a sequence inserts rows for existing accounts. -/
def AccountedAll
    (backend : Backend)
    (env : Environment) :
    State → List (Request × (Nat → Choice)) → Bool
  | _, [] => true
  | state, move :: rest =>
      Accounted env state move.1 &&
        AccountedAll backend env
          (served backend env state move.1 move.2).state rest

/--
After any requests that insert rows for existing accounts only, every row of the
store names accounts that exist.
-/
theorem intact_of_accounted
    {requests : List (Request × (Nat → Choice))}
    (intact : state.store.Intact)
    (accounted : AccountedAll backend env state requests = true) :
    (servedAll backend env state requests).store.Intact := by
  induction requests generalizing state with
  | nil =>
      exact intact
  | cons move rest inductionHypothesis =>
      obtain ⟨now, later⟩ := Bool.and_eq_true_iff.mp accounted
      exact inductionHypothesis (intact_served intact now) later

end Requests

/-!
## Access tokens outlive their accounts
-/

/--
The accounts that a request issued an access token for, and when; it is issued
together with a refresh token.
-/
def grantsOf (history : History calls) : List (String × Time) :=
  history.filterMap fun exchange =>
    match exchange with
    | ⟨.createRefreshToken rt, .ok _⟩ => some (rt.userID, rt.createdAt)
    | _ => none

/--
Every request of a sequence behind `requireAuth` carries an access token that an
earlier request issued and that is still valid.
-/
def AuthorizedAll
    (backend : Backend)
    (env : Environment) :
    List (String × Time) → State → List (Request × (Nat → Choice)) → Bool
  | _, _, [] => true
  | grants, state, move :: rest =>
      let completed := served backend env state move.1 move.2
      (move.1.subject.all fun id =>
        grants.any fun grant =>
          decide (grant.1 = id) && decide (grant.2 ≤ (move.2 0).now) &&
            decide ((move.2 0).now < grant.2 + accessTokenTTL)) &&
        AuthorizedAll backend env (grants ++ grantsOf completed.history)
          completed.state rest

/-- The request that registers the account `a`. -/
def registerAccount : Request :=
  .register (some
    { identifier := "a", kdf := defaultKDF, masterPasswordHash := "p"
      protectedUserKey := "k", publicKey := "", protectedPrivateKey := "" })

/-- The id that a registration draws. -/
def registeredID : String := "01000000000000000000000000000000"

/-- An account that is registered, signs in and stores a cipher. -/
def usedAccount : List (Request × (Nat → Choice)) :=
  [(registerAccount, fun _ => moment 1),
    (loginWithPassword, fun _ => moment 2),
    (.createCipher registeredID (some "data"), fun _ => moment 3),
    (.deleteAccount registeredID, fun _ => moment 4)]

/-- The account is used and deleted, and no row is left that names it. -/
theorem usedAccount_intact :
    (servedAll .memory plainEnvironment State.empty
        usedAccount).store.Intact ∧
      AuthorizedAll .memory plainEnvironment [] State.empty
        usedAccount = true := by
  constructor
  · refine intact_of_accounted Store.intact_empty ?_
    decide +kernel
  · decide +kernel

/-- After its deletion the account stores one more cipher. -/
def deletedAccount : List (Request × (Nat → Choice)) :=
  usedAccount ++
    [(.createCipher registeredID (some "data"), fun _ => moment 5)]

/-- The access token of a deleted account inserts a row that names it. -/
theorem deletedAccount_not_intact :
    ¬ ∀ (backend : Backend) (env : Environment)
        (requests : List (Request × (Nat → Choice))),
      AuthorizedAll backend env [] State.empty requests = true →
        (servedAll backend env State.empty requests).store.Intact := by
  intro always
  have authorized :
      AuthorizedAll .memory plainEnvironment [] State.empty
        deletedAccount = true := by
    decide +kernel
  have intact := always .memory plainEnvironment deletedAccount authorized
  have orphaned :
      ((servedAll .memory plainEnvironment State.empty
          deletedAccount).store.ciphers.rows.all fun c =>
        (servedAll .memory plainEnvironment State.empty
          deletedAccount).store.hasUser c.userID) = false := by
    decide +kernel
  refine Bool.eq_false_iff.mp orphaned (List.all_eq_true.mpr ?_)
  exact intact.ciphers

end Passwd.Server
