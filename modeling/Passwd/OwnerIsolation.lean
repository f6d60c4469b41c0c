import Passwd.StoreChanges

namespace Passwd.Server

open Base64 Interaction

/-!
# What a request can do to other accounts

Store operations are keyed by row id, by credential id or by owner, and handlers
pass the subject of the access token as the owner.  A request changes no row of
another account, and what it answers about the rows of its subject does not
depend on the rows of others.

The in-memory store has one gap: it does not refuse the id of a new passkey when
another passkey has it.
-/

/-!
## The rows of other accounts
-/

/-- The rows of every other account are the same. -/
structure SparesOthers (userID : String) (before after : Store) : Prop where
  users :
    (after.users.rows.filter fun u => u.id ≠ userID) =
      before.users.rows.filter fun u => u.id ≠ userID
  ciphers :
    (after.ciphers.rows.filter fun c => c.userID ≠ userID) =
      before.ciphers.rows.filter fun c => c.userID ≠ userID
  passkeys :
    (after.passkeys.rows.filter fun c => c.userID ≠ userID) =
      before.passkeys.rows.filter fun c => c.userID ≠ userID
  refresh :
    (after.refresh.rows.filter fun rt => rt.userID ≠ userID) =
      before.refresh.rows.filter fun rt => rt.userID ≠ userID
  audit :
    (after.audit.filter fun e => e.userID ≠ userID) =
      before.audit.filter fun e => e.userID ≠ userID
  shares :
    (after.shares.rows.filter fun sh =>
        sh.ownerUserID ≠ userID ∧ sh.recipientUserID ≠ userID) =
      before.shares.rows.filter fun sh =>
        sh.ownerUserID ≠ userID ∧ sh.recipientUserID ≠ userID

section Frame

variable {backend : Backend} {env : Environment} {choice : Choice}
  {state : State} {operation : Operation} {userID : String}
  {request : Request} {choices : Nat → Choice}

/-- A call for an account leaves other users alone. -/
theorem users_execute
    (isFor : operation.IsFor userID) :
    ((execute backend choice state operation).2.store.users.rows.filter
        fun u => u.id ≠ userID) =
      state.store.users.rows.filter fun u => u.id ≠ userID := by
  refine users_change.frame (fun id => decide (id ≠ userID)) ?_ ?_
  · intro u _ concerns
    simp [concerns userID isFor]
  · intro u concerns
    simp [concerns userID isFor]

/-- A call for an account leaves the ciphers of others alone. -/
theorem ciphers_execute
    (isFor : operation.IsFor userID) :
    ((execute backend choice state operation).2.store.ciphers.rows.filter
        fun c => c.userID ≠ userID) =
      state.store.ciphers.rows.filter fun c => c.userID ≠ userID := by
  refine ciphers_change.frame (fun id => decide (id ≠ userID)) ?_ ?_
  · intro c _ concerns
    simp [concerns userID isFor]
  · intro c concerns
    simp [concerns.2 userID isFor]

/-- A call for an account leaves the refresh tokens of others alone. -/
theorem refresh_execute
    (isFor : operation.IsFor userID) :
    ((execute backend choice state operation).2.store.refresh.rows.filter
        fun rt => rt.userID ≠ userID) =
      state.store.refresh.rows.filter fun rt => rt.userID ≠ userID := by
  refine refresh_change.frame (fun id => decide (id ≠ userID)) ?_ ?_
  · intro rt _ concerns
    simp [concerns userID isFor]
  · intro rt concerns
    simp [concerns.2 userID isFor]

/--
A call for an account leaves the passkeys of others alone, unless it stores a
passkey under the id of one of them.
-/
theorem passkeys_execute
    (isFor : operation.IsFor userID)
    (spares : SparesPasskeys backend state.store operation) :
    ((execute backend choice state operation).2.store.passkeys.rows.filter
        fun c => c.userID ≠ userID) =
      state.store.passkeys.rows.filter fun c => c.userID ≠ userID := by
  refine passkeys_change.frame (fun id => decide (id ≠ userID)) ?_ ?_
  · intro c _ concerns
    simp [concerns spares userID isFor]
  · intro c concerns
    simp [concerns.2 userID isFor]

/-- A call for an account leaves the shares between others alone. -/
theorem shares_execute
    (isFor : operation.IsFor userID) :
    ((execute backend choice state operation).2.store.shares.rows.filter
        fun sh =>
          sh.ownerUserID ≠ userID ∧ sh.recipientUserID ≠ userID) =
      state.store.shares.rows.filter fun sh =>
        sh.ownerUserID ≠ userID ∧ sh.recipientUserID ≠ userID := by
  refine shares_change.frame
    (fun ids => decide (ids.1 ≠ userID ∧ ids.2 ≠ userID)) ?_ ?_
  · intro sh _ concerns
    rcases concerns userID isFor with owner | recipient
    · simp [owner]
    · simp [recipient]
  · intro sh concerns
    simp [concerns.2 userID isFor]

/-- A call for an account leaves the audit events of others alone. -/
theorem audit_execute
    (isFor : operation.IsFor userID) :
    ((execute backend choice state operation).2.store.audit.filter
        fun e => e.userID ≠ userID) =
      state.store.audit.filter fun e => e.userID ≠ userID := by
  rcases @audit_change backend choice state operation with
    same | ⟨e, appended, -, concerns⟩ | ⟨deleted, rfl, removed⟩
  · rw [same]
  · rw [appended, List.filter_append]
    simp [concerns userID isFor]
  · rw [removed, List.filter_filter]
    apply List.filter_congr
    intro e _
    cases isFor
    simp

/-- A view of the store that every call of a request keeps, the request keeps. -/
theorem view_served
    {α : Type}
    (view : Store → α)
    (isSubject : request.subject = some userID)
    (keeps :
      ∀ (operation : Operation) (choice : Choice) (later : State),
        operation.IsFor userID →
          (∀ c, operation = .createWebAuthnCredential c →
            ∃ req, request = .webAuthnRegisterFinish c.userID (some req)) →
          view (execute backend choice later operation).2.store =
            view later.store) :
    view (served backend env state request choices).state.store =
      view state.store := by
  refine (serve_acts env request).run_invariant
    (fun _ (later : State) => view later.store = view state.store) rfl ?_
  intro history operation later index inScope same
  exact (keeps operation _ later (inScope.subject userID isSubject)
    inScope.enrolment).trans same

/-- A request that does not enrol a passkey spares those of others. -/
theorem passkeys_served
    (isSubject : request.subject = some userID)
    (noEnrolment : ∀ id req, request ≠ .webAuthnRegisterFinish id (some req)) :
    ((served backend env state request
        choices).state.store.passkeys.rows.filter
          fun c => c.userID ≠ userID) =
      state.store.passkeys.rows.filter fun c => c.userID ≠ userID := by
  refine view_served
    (fun store => store.passkeys.rows.filter fun c => c.userID ≠ userID)
    isSubject ?_
  intro operation choice later isFor enrolment
  refine passkeys_execute isFor ?_
  cases operation
  case createWebAuthnCredential c =>
    obtain ⟨req, isEnrolment⟩ := enrolment c rfl
    exact absurd isEnrolment (noEnrolment _ req)
  all_goals trivial

/-- A request spares the rows of others if it spares their passkeys. -/
theorem sparesOthers_served_iff
    (isSubject : request.subject = some userID) :
    SparesOthers userID state.store
        (served backend env state request choices).state.store ↔
      ((served backend env state request
          choices).state.store.passkeys.rows.filter
            fun c => c.userID ≠ userID) =
        state.store.passkeys.rows.filter fun c => c.userID ≠ userID := by
  constructor
  · intro spares
    exact spares.passkeys
  · intro passkeys
    exact
      { users := view_served
          (fun store => store.users.rows.filter fun u => u.id ≠ userID)
          isSubject fun _ _ _ isFor _ => users_execute isFor
        ciphers := view_served
          (fun store => store.ciphers.rows.filter fun c => c.userID ≠ userID)
          isSubject fun _ _ _ isFor _ => ciphers_execute isFor
        passkeys := passkeys
        refresh := view_served
          (fun store => store.refresh.rows.filter fun rt => rt.userID ≠ userID)
          isSubject fun _ _ _ isFor _ => refresh_execute isFor
        audit := view_served
          (fun store => store.audit.filter fun e => e.userID ≠ userID)
          isSubject fun _ _ _ isFor _ => audit_execute isFor
        shares := view_served
          (fun store => store.shares.rows.filter fun sh =>
            sh.ownerUserID ≠ userID ∧ sh.recipientUserID ≠ userID)
          isSubject fun _ _ _ isFor _ => shares_execute isFor }

end Frame

/-!
## Enrolling a passkey
-/

section Enrolment

variable {backend : Backend} {env : Environment} {state : State}
  {userID : String} {req : RegisterFinishRequest} {choices : Nat → Choice}

/-- The id that `newID` draws. -/
def Choice.drawnID (choice : Choice) : String :=
  hexEncode
    (if choice.fails (.random 16) then List.replicate 16 0
      else choice.bytes 16)

/-- The passkeys of an account, as the library reads them. -/
def Store.credentialsFor (store : Store) (userID : String) :
    List Credential :=
  ((store.passkeys.rows.filter fun c => c.userID = userID).mergeSort
    fun first later => first.createdAt ≤ later.createdAt).map
      toWebAuthnCredential

/-- The passkey that the end of an enrolment goes on to store. -/
def enrolledPasskey
    (env : Environment)
    (state : State)
    (userID : String)
    (req : RegisterFinishRequest)
    (choices : Nat → Choice) : Option WebAuthnCredential := do
  let webAuthn ← env.webAuthn
  let entry ←
    (takeChallenge (choices 0).now state.waPending req.sessionId).1.filter
      fun entry => entry.userID = userID
  let parsed ← webAuthn.parseCreation req.credential
  if (choices 1).fails (.listWebAuthnCredentials userID) then
    none
  else
    let cred ← webAuthn.createCredential userID
      (state.store.credentialsFor userID) entry.data parsed
    return fromWebAuthnCredential (choices 3).drawnID (choices 2).now userID
      (passkeyName req.name) cred

/-- An audited response leaves the passkeys alone. -/
theorem passkeys_audited
    (event detail : String)
    (response : Response) :
    ((audit userID event detail >>= fun _ => Program.done response).run
      (execute backend) choices state).state.store.passkeys =
        state.store.passkeys := by
  have untouched :
      (audit userID event detail >>= fun _ => Program.done response).Only
        fun operation : Operation => operation.touches .passkeys = false :=
    Program.Only.bind (only_audit rfl rfl fun _ => rfl) fun _ => trivial
  exact same_run untouched

/-- Storing a passkey depends on the store alone. -/
theorem passkeys_execute_congr
    {middle : State}
    {choice : Choice}
    (c : WebAuthnCredential)
    (same : middle.store = state.store) :
    (execute backend choice middle
        (.createWebAuthnCredential c)).2.store.passkeys =
      (execute backend choice state
        (.createWebAuthnCredential c)).2.store.passkeys := by
  simp only [execute, attempt, same]
  split
  · exact congrArg Store.passkeys same
  · rfl

/-- The passkeys after a passkey with a new id is stored. -/
theorem passkeys_stored
    {cred : Credential}
    {name : String}
    {middle : State} :
    ((do
        let now ← perform .now
        let id ← newID
        let row := fromWebAuthnCredential id now userID name cred
        let created ← perform (.createWebAuthnCredential row)
        match created with
        | .error .conflict =>
            return writeError 409 "this passkey is already registered"
        | .error _ => return writeError 500 "could not save passkey"
        | .ok _ =>
            audit userID "passkey.enroll" ""
            return {
              status := 200
              body := .passkey row.id row.name } :
        Handler Response).run (execute backend) choices
          middle).state.store.passkeys =
      (execute backend (choices 2) middle
        (.createWebAuthnCredential
          (fromWebAuthnCredential (choices 1).drawnID (choices 0).now userID
            name cred))).2.store.passkeys := by
  have drawn :
      (execute backend (choices (0 + 1)) middle (.random 16)).2 = middle ∧
        hexEncode
            ((execute backend (choices (0 + 1)) middle (.random 16)).1.getD
              (List.replicate 16 0)) =
          (choices 1).drawnID := by
    simp only [execute, Choice.drawnID]
    split
    · exact ⟨rfl, rfl⟩
    · exact ⟨rfl, rfl⟩
  rw [← drawn.2]
  simp only [newID, perform_bind, Program.perform_bind, Program.run_perform,
    execute_now, Program.pure_eq_done, Program.done_bind, drawn.1]
  split
  · rfl
  · rfl
  · exact passkeys_audited "passkey.enroll" "" _

/-- The passkeys after the end of an enrolment. -/
theorem passkeys_registerFinish :
    (served backend env state (.webAuthnRegisterFinish userID (some req))
        choices).state.store.passkeys =
      match enrolledPasskey env state userID req choices with
      | none => state.store.passkeys
      | some c =>
          (execute backend (choices 4) state
            (.createWebAuthnCredential c)).2.store.passkeys := by
  unfold served enrolledPasskey
  simp only [serve, handleWebAuthnRegisterFinish]
  cases env.webAuthn with
  | none =>
      rfl
  | some webAuthn =>
      simp only [perform_bind, Program.run_perform, execute]
      cases (takeChallenge (choices 0).now state.waPending
          req.sessionId).1.filter fun entry =>
            decide (entry.userID = userID) with
      | none =>
          rfl
      | some entry =>
          simp only [Option.bind_eq_bind, Option.bind_some]
          cases webAuthn.parseCreation req.credential with
          | none =>
              rfl
          | some parsed =>
              simp only [webAuthnUserFor, perform_bind, Program.perform_bind,
                Program.run_perform, Option.bind_some, execute]
              cases listFails :
                  (choices 1).fails (.listWebAuthnCredentials userID) with
              | true =>
                  simp only [attempt, listFails, if_true]
                  rfl
              | false =>
                  simp only [attempt, listFails, Bool.false_eq_true, if_false,
                    Store.listWebAuthnCredentials, Program.pure_eq_done,
                    Program.done_bind, Store.credentialsFor]
                  cases webAuthn.createCredential userID _ entry.data
                      parsed with
                  | none =>
                      rfl
                  | some cred =>
                      exact passkeys_stored.trans (passkeys_execute_congr _ rfl)

/-- An enrolment stores a passkey of its subject. -/
theorem userID_of_enrolledPasskey
    {c : WebAuthnCredential}
    (enrols : enrolledPasskey env state userID req choices = some c) :
    c.userID = userID := by
  simp only [enrolledPasskey, Option.bind_eq_bind, Option.bind_eq_some_iff]
    at enrols
  obtain ⟨webAuthn, -, entry, -, parsed, -, stored⟩ := enrols
  split at stored
  · cases stored
  · obtain ⟨cred, -, isRow⟩ := Option.bind_eq_some_iff.mp stored
    cases isRow
    rfl

/-- A new passkey replaces the passkey of another account. -/
def replacesPasskey
    (backend : Backend)
    (choice : Choice)
    (store : Store)
    (c : WebAuthnCredential) : Bool :=
  !backend.isSql && !choice.fails (.createWebAuthnCredential c) &&
    !(store.passkeys.rows.any fun existing =>
      existing.credentialID = c.credentialID) &&
    (store.passkeys.find? c.id).any fun old => old.userID ≠ c.userID

/-- The passkeys of others are spared exactly when none of them is replaced. -/
theorem passkeys_create_iff
    {choice : Choice}
    (c : WebAuthnCredential) :
    ((execute backend choice state
        (.createWebAuthnCredential c)).2.store.passkeys.rows.filter
          fun row => row.userID ≠ c.userID) =
        (state.store.passkeys.rows.filter fun row =>
          row.userID ≠ c.userID) ↔
      replacesPasskey backend choice state.store c = false := by
  constructor
  · intro same
    rw [Bool.eq_false_iff]
    intro replaces
    simp only [replacesPasskey, Bool.and_eq_true, Bool.not_eq_true']
      at replaces
    obtain ⟨⟨⟨notSql, succeeds⟩, newCredential⟩, taken⟩ := replaces
    obtain ⟨old, found, otherOwner⟩ := (Option.any_eq_true _ _).mp taken
    have written :
        (execute backend choice state
            (.createWebAuthnCredential c)).2.store.passkeys =
          state.store.passkeys.upsert { c with
            createdAt := backend.stamp c.createdAt
            updatedAt := backend.stamp c.updatedAt } := by
      simp only [execute, attempt_of_succeeds succeeds,
        Store.createWebAuthnCredential, newCredential, notSql,
        Bool.false_and, Bool.false_eq_true, if_false]
    rw [written] at same
    have isOld := Table.mem_of_find? found
    have wasVisible :
        old ∈ state.store.passkeys.rows.filter fun row =>
          row.userID ≠ c.userID :=
      List.mem_filter.mpr ⟨isOld, otherOwner⟩
    rw [← same] at wasVisible
    have stillThere :=
      Table.find?_of_mem (List.mem_filter.mp wasVisible).1
    rw [Table.find?_upsert, if_pos (Table.key_of_find? found).symm]
      at stillThere
    have sameOwner := congrArg WebAuthnCredential.userID
      (Option.some.inj stillThere)
    exact of_decide_eq_true otherOwner sameOwner.symm
  · intro spares
    by_cases replaced :
        SparesPasskeys backend state.store (.createWebAuthnCredential c)
    · exact passkeys_execute rfl replaced
    · have same :
          (execute backend choice state
            (.createWebAuthnCredential c)).2.store.passkeys =
              state.store.passkeys := by
        simp only [SparesPasskeys, Classical.not_imp, not_forall] at replaced
        obtain ⟨notSql, old, found, otherOwner⟩ := replaced
        have taken :
            ((state.store.passkeys.find? c.id).any fun old =>
              old.userID ≠ c.userID) = true :=
          (Option.any_eq_true _ _).mpr ⟨old, found, decide_eq_true otherOwner⟩
        cases fails : choice.fails (.createWebAuthnCredential c) with
        | true =>
            simp only [execute, attempt, fails, if_true]
        | false =>
            have duplicate :
                (state.store.passkeys.rows.any fun existing =>
                  existing.credentialID = c.credentialID) = true := by
              rw [replacesPasskey, taken, notSql, fails] at spares
              simpa only [Bool.not_false, Bool.true_and, Bool.and_true,
                Bool.not_eq_false'] using spares
            simp only [execute, attempt_of_succeeds fails,
              Store.createWebAuthnCredential, duplicate, if_true]
      rw [same]

/-- A request replaces the passkey of another account. -/
def overwritesPasskey
    (backend : Backend)
    (env : Environment)
    (state : State)
    (request : Request)
    (choices : Nat → Choice) : Bool :=
  match request with
  | .webAuthnRegisterFinish userID (some req) =>
      (enrolledPasskey env state userID req choices).any fun c =>
        replacesPasskey backend (choices 4) state.store c
  | _ => false

/-- The rows of others are spared exactly when none of their passkeys is replaced. -/
theorem sparesOthers_iff
    {request : Request}
    (isSubject : request.subject = some userID) :
    SparesOthers userID state.store
        (served backend env state request choices).state.store ↔
      overwritesPasskey backend env state request choices = false := by
  rw [sparesOthers_served_iff isSubject]
  by_cases isEnrolment :
      ∃ id req, request = .webAuthnRegisterFinish id (some req)
  · obtain ⟨_, req, rfl⟩ := isEnrolment
    cases isSubject
    rw [passkeys_registerFinish, overwritesPasskey]
    cases enrols : enrolledPasskey env state userID req choices with
    | none =>
        exact iff_of_true rfl rfl
    | some c =>
        have owner := userID_of_enrolledPasskey enrols
        subst owner
        exact passkeys_create_iff c
  · refine iff_of_true (passkeys_served isSubject ?_) ?_
    · intro id req isRequest
      exact isEnrolment ⟨id, req, isRequest⟩
    · unfold overwritesPasskey
      split
      · exact absurd ⟨_, _, rfl⟩ isEnrolment
      · rfl

end Enrolment

/-!
## What an account can observe
-/

/-- Two stores have the same rows of an account. -/
structure AgreesFor (userID : String) (first second : Store) : Prop where
  user : first.users.find? userID = second.users.find? userID
  ciphers :
    (first.ciphers.rows.filter fun c => c.userID = userID) =
      second.ciphers.rows.filter fun c => c.userID = userID
  passkeys :
    (first.passkeys.rows.filter fun c => c.userID = userID) =
      second.passkeys.rows.filter fun c => c.userID = userID
  refresh :
    (first.refresh.rows.filter fun rt => rt.userID = userID) =
      second.refresh.rows.filter fun rt => rt.userID = userID
  audit :
    (first.audit.filter fun e => e.userID = userID) =
      second.audit.filter fun e => e.userID = userID
  shares :
    (first.shares.rows.filter fun sh => sh.recipientUserID = userID) =
      second.shares.rows.filter fun sh => sh.recipientUserID = userID

section Observation

variable {backend : Backend} {env : Environment} {choice : Choice}
  {first second : State} {userID : String} {choices : Nat → Choice}

/-- A store call answers the same when its outcomes answer the same. -/
theorem attempt_answer
    {α : Type}
    {operation : Operation}
    {outcome other : Store.Outcome α}
    (same : outcome.1 = other.1) :
    (attempt choice first operation outcome).1 =
      (attempt choice second operation other).1 := by
  unfold attempt
  split
  · rfl
  · exact same

/-- Reading the record of an account. -/
theorem getUserByID_answer
    (agrees : AgreesFor userID first.store second.store) :
    (execute backend choice first (.getUserByID userID)).1 =
      (execute backend choice second (.getUserByID userID)).1 := by
  refine attempt_answer ?_
  unfold Store.getUserByID
  rw [agrees.user]
  split
  · rfl
  · rfl

/-- Listing the ciphers of an account. -/
theorem listCiphers_answer
    (agrees : AgreesFor userID first.store second.store) :
    (execute backend choice first (.listCiphers userID)).1 =
      (execute backend choice second (.listCiphers userID)).1 := by
  refine attempt_answer ?_
  simp only [Store.listCiphers, agrees.ciphers]

/-- Listing the passkeys of an account. -/
theorem listWebAuthnCredentials_answer
    (agrees : AgreesFor userID first.store second.store) :
    (execute backend choice first (.listWebAuthnCredentials userID)).1 =
      (execute backend choice second (.listWebAuthnCredentials userID)).1 := by
  refine attempt_answer ?_
  simp only [Store.listWebAuthnCredentials, agrees.passkeys]

/-- Listing the sessions of an account. -/
theorem listRefreshTokensForUser_answer
    (agrees : AgreesFor userID first.store second.store) :
    (execute backend choice first (.listRefreshTokensForUser userID)).1 =
      (execute backend choice second
        (.listRefreshTokensForUser userID)).1 := by
  have own :
      ∀ (store : Store) (live : RefreshToken → Bool),
        (store.refresh.rows.filter fun rt =>
            decide (rt.userID = userID) && !rt.used && live rt) =
          (store.refresh.rows.filter fun rt => rt.userID = userID).filter
            fun rt => !rt.used && live rt := by
    intro store live
    rw [List.filter_filter]
    apply List.filter_congr
    intro rt _
    rw [Bool.and_assoc, Bool.and_comm]
  refine attempt_answer ?_
  simp only [Store.listRefreshTokensForUser, own, agrees.refresh]

/-- Listing the audit events of an account. -/
theorem listAuditEvents_answer
    (agrees : AgreesFor userID first.store second.store)
    (limit : Nat) :
    (execute backend choice first (.listAuditEvents userID limit)).1 =
      (execute backend choice second (.listAuditEvents userID limit)).1 := by
  refine attempt_answer ?_
  simp only [Store.listAuditEvents, agrees.audit]

/-- Listing the shares addressed to an account. -/
theorem listSharesForRecipient_answer
    (agrees : AgreesFor userID first.store second.store) :
    (execute backend choice first (.listSharesForRecipient userID)).1 =
      (execute backend choice second (.listSharesForRecipient userID)).1 := by
  refine attempt_answer ?_
  simp only [Store.listSharesForRecipient, agrees.shares]

/-- Rewriting a cipher of an account. -/
theorem updateCipher_answer
    {c : Cipher}
    (owner : c.userID = userID)
    (agrees : AgreesFor userID first.store second.store) :
    (execute backend choice first (.updateCipher c)).1 =
      (execute backend choice second (.updateCipher c)).1 := by
  subst owner
  refine attempt_answer ?_
  simp only [Store.updateCipher, Table.any_find?, agrees.ciphers]
  split
  · rfl
  · rfl

/-- Deleting a cipher of an account. -/
theorem deleteCipher_answer
    (agrees : AgreesFor userID first.store second.store)
    (id : String) :
    (execute backend choice first (.deleteCipher userID id)).1 =
      (execute backend choice second (.deleteCipher userID id)).1 := by
  refine attempt_answer ?_
  simp only [Store.deleteCipher, Table.any_find?, agrees.ciphers]
  split
  · rfl
  · rfl

/-- Deleting a passkey of an account. -/
theorem deleteWebAuthnCredential_answer
    (agrees : AgreesFor userID first.store second.store)
    (id : String) :
    (execute backend choice first (.deleteWebAuthnCredential userID id)).1 =
      (execute backend choice second
        (.deleteWebAuthnCredential userID id)).1 := by
  refine attempt_answer ?_
  simp only [Store.deleteWebAuthnCredential, Table.any_find?, agrees.passkeys]
  split
  · rfl
  · rfl

/-- The value of a handler is settled, whatever its calls answer. -/
def Settled (handler : Handler Response) : Prop :=
  ∃ response,
    handler.Obeys (fun _ _ => True) (fun _ value => value = response) []

/-- An audited response is settled. -/
theorem settled_audited
    (event detail : String)
    (response : Response) :
    Settled (audit userID event detail >>= fun _ => .done response) := by
  refine ⟨response, Program.obeys_bind.mpr ?_⟩
  exact (onlyPlain_audit userID event detail).obeys (fun _ _ _ _ => trivial)
    fun _ _ _ => rfl

/-- A response is settled. -/
theorem settled_done (response : Response) :
    Settled (.done response : Handler Response) :=
  ⟨response, rfl⟩

/--
A handler that asks once and is settled by the answer has the same value when it
gets the same answer.
-/
theorem value_of_answer
    {operation : Operation}
    {next : Answer operation → Handler Response}
    (same :
      (execute backend (choices 0) first operation).1 =
        (execute backend (choices 0) second operation).1)
    (settled : ∀ answer, Settled (next answer)) :
    ((.perform operation next : Handler Response).run (execute backend)
        choices first).value =
      ((.perform operation next : Handler Response).run (execute backend)
        choices second).value := by
  obtain ⟨response, obeys⟩ :=
    settled (execute backend (choices 0) second operation).1
  simp only [Program.run_perform, same]
  exact (obeys.run _ _).trans (obeys.run _ _).symm

/-- Reading the clock first makes no difference. -/
theorem value_after_now
    {next : Time → Handler Response}
    (later :
      ((next (choices 0).now).run (execute backend)
          (fun index => choices (index + 1)) first).value =
        ((next (choices 0).now).run (execute backend)
          (fun index => choices (index + 1)) second).value) :
    ((.perform .now next : Handler Response).run (execute backend) choices
        first).value =
      ((.perform .now next : Handler Response).run (execute backend) choices
        second).value :=
  later

/-- The requests that answer from the rows of their subject. -/
def Request.readsOwn : Request → Bool
  | .sync _ => true
  | .listSessions _ => true
  | .auditLog _ => true
  | .webAuthnList _ => true
  | .listShares _ => true
  | .updateCipher _ _ _ => true
  | .deleteCipher _ _ => true
  | .webAuthnDelete _ _ => true
  | .totpStatus _ => true
  | .recoveryStatus _ => true
  | _ => false

/-- What a request reads of its own does not depend on the rows of others. -/
theorem value_of_agrees
    {request : Request}
    (isSubject : request.subject = some userID)
    (readsOwn : request.readsOwn = true)
    (agrees : AgreesFor userID first.store second.store) :
    (served backend env first request choices).value =
      (served backend env second request choices).value := by
  unfold served
  cases request
  case sync id =>
    cases isSubject
    simp only [serve, handleSync]
    split
    · rfl
    · refine value_of_answer (listCiphers_answer agrees) ?_
      rintro (e | ciphers)
      · exact settled_done _
      · exact settled_done _
  case listSessions id =>
    cases isSubject
    simp only [serve, handleListSessions]
    split
    · rfl
    · refine value_of_answer (listRefreshTokensForUser_answer agrees) ?_
      rintro (e | tokens)
      · exact settled_done _
      · exact settled_done _
  case auditLog id =>
    cases isSubject
    simp only [serve, handleAuditLog]
    split
    · rfl
    · refine value_of_answer (listAuditEvents_answer agrees _) ?_
      rintro (e | events)
      · exact settled_done _
      · exact settled_done _
  case webAuthnList id =>
    cases isSubject
    refine value_of_answer (listWebAuthnCredentials_answer agrees) ?_
    rintro (e | creds)
    · exact settled_done _
    · exact settled_done _
  case listShares id =>
    cases isSubject
    simp only [serve, handleListShares]
    split
    · rfl
    · refine value_of_answer (listSharesForRecipient_answer agrees) ?_
      rintro (e | shares)
      · exact settled_done _
      · exact settled_done _
  case updateCipher id cipher req =>
    cases isSubject
    simp only [serve, handleUpdateCipher]
    split
    · rfl
    · cases req with
      | none =>
          rfl
      | some data =>
          dsimp only
          split
          · rfl
          · refine value_after_now ?_
            refine value_of_answer ?_ ?_
            · exact updateCipher_answer rfl agrees
            · rintro ((- | - | -) | -)
              · exact settled_done _
              · exact settled_done _
              · exact settled_done _
              · exact settled_audited _ _ _
  case deleteCipher id cipher =>
    cases isSubject
    simp only [serve, handleDeleteCipher]
    split
    · rfl
    · refine value_of_answer (deleteCipher_answer agrees cipher) ?_
      rintro ((- | - | -) | -)
      · exact settled_done _
      · exact settled_done _
      · exact settled_done _
      · exact settled_audited _ _ _
  case webAuthnDelete id passkey =>
    cases isSubject
    refine value_of_answer
      (deleteWebAuthnCredential_answer agrees passkey) ?_
    rintro ((- | - | -) | -)
    · exact settled_done _
    · exact settled_done _
    · exact settled_done _
    · exact settled_audited _ _ _
  case totpStatus id =>
    cases isSubject
    refine value_of_answer (getUserByID_answer agrees) ?_
    rintro (e | u)
    · exact settled_done _
    · exact settled_done _
  case recoveryStatus id =>
    cases isSubject
    refine value_of_answer (getUserByID_answer agrees) ?_
    rintro (e | u)
    · exact settled_done _
    · exact settled_done _
  all_goals cases readsOwn

end Observation

/--
A request spares the rows of every other account exactly when it does not store
a new passkey under the id of one of theirs; and what it answers about the rows
of its subject depends on no other row.
-/
theorem ownerIsolation (backend : Backend) (env : Environment) :
    (∀ (state : State) (request : Request) (userID : String)
        (choices : Nat → Choice),
      request.subject = some userID →
        (SparesOthers userID state.store
            (served backend env state request choices).state.store ↔
          overwritesPasskey backend env state request choices = false)) ∧
    ∀ (first second : State) (request : Request) (userID : String)
        (choices : Nat → Choice),
      request.subject = some userID → request.readsOwn = true →
        AgreesFor userID first.store second.store →
          (served backend env first request choices).value =
            (served backend env second request choices).value := by
  constructor
  · intro state request userID choices isSubject
    exact sparesOthers_iff isSubject
  · intro first second request userID choices isSubject readsOwn agrees
    exact value_of_agrees isSubject readsOwn agrees

/-!
## Two passkeys under one id
-/

/-- A library that accepts every attestation, whose text names the credential. -/
def acceptingWebAuthn : WebAuthn where
  parseCreation := some
  parseAssertion := some
  beginRegistration _ _ _ := some ("options", "session")
  createCredential _ _ _ parsed :=
    some
      { id := bytesOf parsed
        publicKey := [1]
        attestationType := "none"
        transport := []
        flags := .zero
        authenticator :=
          { aaguid := [], signCount := 0, cloneWarning := false
            attachment := "" } }
  beginLogin _ _ _ := some ("options", "session")
  validateLogin _ credentials _ _ := credentials.head?

/-- A server with passkeys. -/
def passkeyEnvironment : Environment :=
  { plainEnvironment with webAuthn := some acceptingWebAuthn }

/-- The source of random bytes fails for ids. -/
def failingIDs (_ : Nat) : Choice :=
  { moment 0 with
    fails
      | .random count => count = 16
      | _ => false }

/-- An account begins to enrol a passkey. -/
def beganEnrolment (state : State) (userID : String) : State :=
  (served .memory passkeyEnvironment state (.webAuthnRegisterBegin userID)
    failingIDs).state

/-- The request that ends an enrolment under the handle of a failed draw. -/
def endEnrolment (userID : String) : Request :=
  .webAuthnRegisterFinish userID (some
    { sessionId := "00000000000000000000000000000000", name := "Passkey"
      credential := userID })

/-- One account has enrolled a passkey, another is about to. -/
def betweenEnrolments : State :=
  let enrolled :=
    (served .memory passkeyEnvironment (beganEnrolment State.empty "u")
      (endEnrolment "u") failingIDs).state
  beganEnrolment enrolled "v"

/-- The passkey of the other account is lost. -/
theorem endEnrolment_not_spares :
    ¬ ∀ (backend : Backend) (env : Environment) (state : State)
        (request : Request) (userID : String) (choices : Nat → Choice),
      request.subject = some userID →
        SparesOthers userID state.store
          (served backend env state request choices).state.store := by
  intro always
  have spares :=
    always .memory passkeyEnvironment betweenEnrolments (endEnrolment "v")
      "v" failingIDs rfl
  have overwrites :
      overwritesPasskey .memory passkeyEnvironment betweenEnrolments
        (endEnrolment "v") failingIDs = true := by
    decide +kernel
  rw [sparesOthers_iff rfl, overwrites] at spares
  cases spares

end Passwd.Server
