import Passwd.AccountRequests
import Passwd.StoreIntegrity

namespace Passwd.Server

open Base64 Interaction

/-!
# Failed sign-ins

A sign-in whose secret does not verify is answered from the lockout tracker
alone.  Its response and the tracker afterwards are functions of the tracker, the
clock and the request, so two servers that differ in their accounts answer a
sequence of such requests alike.
-/

/-- The response to a wrong secret under a key, and the tracker afterwards. -/
def refuse
    (now : Nat → Time)
    (lockout : Table LockEntry.key)
    (key msg : String) :
    Response × Table LockEntry.key :=
  if locked (now 0) lockout key then
    (writeError 429 "too many attempts; try again later", lockout)
  else
    (writeError 401 msg, recordFailure (now 2) lockout key)

/-- What a failed sign-in answers and leaves of the lockout tracker. -/
def refusal
    (env : Environment)
    (now : Nat → Time)
    (lockout : Table LockEntry.key) :
    Request → Response × Table LockEntry.key
  | .login (some req) =>
      refuse now lockout (env.blindIdentifier req.identifier)
        "invalid credentials"
  | .webAuthnLoginBegin req =>
      match env.webAuthn, req with
      | none, _ => (passkeysUnconfigured, lockout)
      | some _, none => (invalidBody, lockout)
      | some _, some req =>
          refuse now lockout (env.blindIdentifier req.identifier)
            "invalid credentials"
  | .webAuthnLoginFinish req =>
      match env.webAuthn, req with
      | none, _ => (passkeysUnconfigured, lockout)
      | some _, none => (invalidBody, lockout)
      | some _, some req =>
          refuse now lockout (env.blindIdentifier req.identifier)
            "invalid credentials"
  | .recoveryComplete (some req) =>
      if req.recoveryAuthHash = "" ∨ req.masterPasswordHash = "" ∨
          req.protectedUserKey = "" then
        (writeError 400
          "recoveryAuthHash, masterPasswordHash and protectedUserKey are required",
          lockout)
      else
        refuse now lockout (env.blindIdentifier req.identifier)
          "invalid recovery code"
  | _ => (invalidBody, lockout)

/-- No account behind a hash is signed in to by a master-password hash. -/
def WrongPassword
    (env : Environment)
    (store : Store)
    (idHash masterPasswordHash : String) :
    Prop :=
  ∀ u, (store.getUserByIdentifierHash idHash).1 = .ok u →
    env.verifyVerifier u.masterPasswordVerifier masterPasswordHash ≠ some true

/-- No account behind a hash is recovered by a recovery hash. -/
def WrongCode
    (env : Environment)
    (store : Store)
    (idHash recoveryAuthHash : String) :
    Prop :=
  ∀ u, (store.getUserByIdentifierHash idHash).1 = .ok u →
    ¬ (u.recoveryVerifier ≠ "" ∧
      env.verifyVerifier u.recoveryVerifier recoveryAuthHash = some true)

/-- A sign-in to one identifier whose secret does not verify. -/
def FailedSignIn
    (env : Environment)
    (store : Store)
    (idHash : String) :
    Request → Prop
  | .login req =>
      ∀ body ∈ req, env.blindIdentifier body.identifier = idHash ∧
        WrongPassword env store idHash body.masterPasswordHash
  | .webAuthnLoginBegin req =>
      ∀ body ∈ req, env.blindIdentifier body.identifier = idHash ∧
        WrongPassword env store idHash body.masterPasswordHash
  | .webAuthnLoginFinish req =>
      ∀ body ∈ req, env.blindIdentifier body.identifier = idHash ∧
        WrongPassword env store idHash body.masterPasswordHash
  | .recoveryComplete req =>
      ∀ body ∈ req, env.blindIdentifier body.identifier = idHash ∧
        WrongCode env store idHash body.recoveryAuthHash
  | _ => False

section FailedSignIns

variable {backend : Backend} {env : Environment} {choices : Nat → Choice}
  {state : State} {idHash : String}

/-- The account that a look-up finds depends on the accounts alone. -/
theorem getUserByIdentifierHash_congr
    {before after : Store}
    (same : after.users = before.users)
    (idHash : String) :
    (after.getUserByIdentifierHash idHash).1 =
      (before.getUserByIdentifierHash idHash).1 := by
  unfold Store.getUserByIdentifierHash
  rw [same]
  split
  · rfl
  · rfl

/-- What fails under some accounts fails under them later. -/
theorem FailedSignIn.congr
    {before after : Store}
    {request : Request}
    (fails : FailedSignIn env before idHash request)
    (same : after.users = before.users) :
    FailedSignIn env after idHash request := by
  have found := getUserByIdentifierHash_congr same
  cases request
  all_goals
    first
    | exact fails
    | simpa only [FailedSignIn, WrongPassword, WrongCode, found] using fails

/-- A handler that counts a failure, rejects, and leaves the accounts alone. -/
def Rejects
    (backend : Backend)
    (handler : Handler Response)
    (key msg : String) :
    Prop :=
  ∀ (choices : Nat → Choice) (state : State),
    let completed := handler.run (execute backend) choices state
    completed.value = writeError 401 msg ∧
      completed.state.lockout =
        recordFailure (choices 0).now state.lockout key ∧
      completed.state.store.users = state.store.users

/-- A wrong password is rejected, with or without an account to audit. -/
theorem rejects_rejectPassword (account : Option String) :
    Rejects backend (rejectPassword idHash account) idHash
      "invalid credentials" := by
  intro choices state
  cases account with
  | none =>
      exact ⟨rfl, rfl, rfl⟩
  | some userID =>
      have kept :=
        @audited_kept backend (fun index => choices (index + 1))
          (execute backend (choices 0) state (.recordFailure idHash)).2 userID
          "login.failure" "password" (writeError 401 "invalid credentials")
      exact ⟨rejectPassword_value _, congrArg Kept.lockout kept,
        congrArg Kept.users kept⟩

/-- A wrong password before a passkey is rejected. -/
theorem rejects_rejectPasskeyLogin :
    Rejects backend (rejectPasskeyLogin idHash) idHash
      "invalid credentials" := by
  intro choices state
  exact ⟨rfl, rfl, rfl⟩

/-- A wrong recovery code is rejected. -/
theorem rejects_rejectRecovery :
    Rejects backend (rejectRecovery idHash) idHash
      "invalid recovery code" := by
  intro choices state
  exact ⟨rfl, rfl, rfl⟩

/--
A handler that asks for the lockout, looks the account up and rejects whatever
it finds refuses as the tracker says.
-/
theorem refused_of_rejects
    {msg : String}
    {next : Except StoreError User → Handler Response}
    (missing : ∀ e, Rejects backend (next (.error e)) idHash msg)
    (wrong :
      ∀ u, (state.store.getUserByIdentifierHash idHash).1 = .ok u →
        Rejects backend (next (.ok u)) idHash msg) :
    let completed :=
      (do
        let isLocked ← perform (.locked idHash)
        if isLocked then
          return writeError 429 "too many attempts; try again later"
        else
          let found ← perform (.getUserByIdentifierHash idHash)
          next found : Handler Response).run (execute backend) choices state
    let refused :=
      refuse (fun index => (choices index).now) state.lockout idHash msg
    completed.value = refused.1 ∧
      completed.state.lockout = refused.2 ∧
      completed.state.store.users = state.store.users := by
  cases isLocked : locked (choices 0).now state.lockout idHash with
  | true =>
      simp [refuse, isLocked]
  | false =>
      simp only [perform_bind, Program.run_perform, execute_locked, isLocked,
        Bool.false_eq_true, ↓reduceIte, refuse, Nat.zero_add]
      rcases @lookUp_cases backend state (choices 1) idHash with
        ⟨e, failed⟩ | ⟨u, found, read⟩
      · rw [failed]
        exact missing e _ _
      · rw [read]
        exact wrong u found _ _

/-- A failed sign-in is answered from the tracker, the clock and the request. -/
theorem served_of_failedSignIn
    {request : Request}
    (fails : FailedSignIn env state.store idHash request) :
    let completed := served backend env state request choices
    let refused :=
      refusal env (fun index => (choices index).now) state.lockout request
    completed.value = refused.1 ∧
      completed.state.lockout = refused.2 ∧
      completed.state.store.users = state.store.users := by
  cases request with
  | login req =>
      cases req with
      | none =>
          exact ⟨rfl, rfl, rfl⟩
      | some body =>
          obtain ⟨rfl, wrongPassword⟩ := fails body rfl
          refine refused_of_rejects
            (fun e => rejects_rejectPassword none) (fun u found => ?_)
          simp only [if_neg (wrongPassword u found)]
          exact rejects_rejectPassword (some u.id)
  | webAuthnLoginBegin req =>
      simp only [served, serve, handleWebAuthnLoginBegin, refusal]
      cases env.webAuthn with
      | none =>
          exact ⟨rfl, rfl, rfl⟩
      | some webAuthn =>
          cases req with
          | none =>
              exact ⟨rfl, rfl, rfl⟩
          | some body =>
              obtain ⟨rfl, wrongPassword⟩ := fails body rfl
              refine refused_of_rejects
                (fun e => rejects_rejectPasskeyLogin) (fun u found => ?_)
              simp only [if_neg (wrongPassword u found)]
              exact rejects_rejectPasskeyLogin
  | webAuthnLoginFinish req =>
      simp only [served, serve, handleWebAuthnLoginFinish, refusal]
      cases env.webAuthn with
      | none =>
          exact ⟨rfl, rfl, rfl⟩
      | some webAuthn =>
          cases req with
          | none =>
              exact ⟨rfl, rfl, rfl⟩
          | some body =>
              obtain ⟨rfl, wrongPassword⟩ := fails body rfl
              refine refused_of_rejects
                (fun e => rejects_rejectPasskeyLogin) (fun u found => ?_)
              simp only [if_neg (wrongPassword u found)]
              exact rejects_rejectPasskeyLogin
  | recoveryComplete req =>
      cases req with
      | none =>
          exact ⟨rfl, rfl, rfl⟩
      | some body =>
          obtain ⟨rfl, wrongCode⟩ := fails body rfl
          simp only [served, serve, handleRecoveryComplete, refusal]
          split
          · exact ⟨rfl, rfl, rfl⟩
          · refine refused_of_rejects
              (fun e => rejects_rejectRecovery) (fun u found => ?_)
            simp only [if_neg (wrongCode u found)]
            exact rejects_rejectRecovery
  | _ =>
      exact fails.elim

/--
Failed sign-ins do not reveal accounts: two servers with the same lockout
tracker, whatever accounts they keep, answer every sequence of sign-ins to an
identifier that fail on both of them alike, and agree on the tracker afterwards.
-/
theorem failedSignIns_indistinguishable
    (backend : Backend)
    (env : Environment)
    (idHash : String)
    (first second : State)
    (moves : List (Request × (Nat → Choice) × (Nat → Choice)))
    (sameLockout : second.lockout = first.lockout)
    (sameClock :
      ∀ move ∈ moves, ∀ index,
        (move.2.2 index).now = (move.2.1 index).now)
    (fails :
      ∀ move ∈ moves,
        FailedSignIn env first.store idHash move.1 ∧
          FailedSignIn env second.store idHash move.1) :
    responses backend env second
        (moves.map fun move => (move.1, move.2.2)) =
      responses backend env first
        (moves.map fun move => (move.1, move.2.1)) ∧
    (servedAll backend env second
        (moves.map fun move => (move.1, move.2.2))).lockout =
      (servedAll backend env first
        (moves.map fun move => (move.1, move.2.1))).lockout := by
  induction moves generalizing first second with
  | nil =>
      exact ⟨rfl, sameLockout⟩
  | cons move rest inductionHypothesis =>
      obtain ⟨firstFails, secondFails⟩ := fails move List.mem_cons_self
      obtain ⟨firstValue, firstLockout, firstUsers⟩ :=
        @served_of_failedSignIn backend env move.2.1 first idHash move.1
          firstFails
      obtain ⟨secondValue, secondLockout, secondUsers⟩ :=
        @served_of_failedSignIn backend env move.2.2 second idHash move.1
          secondFails
      have sameRefusal :
          refusal env (fun index => (move.2.2 index).now) second.lockout
              move.1 =
            refusal env (fun index => (move.2.1 index).now) first.lockout
              move.1 := by
        rw [sameLockout]
        congr 1
        funext index
        exact sameClock move List.mem_cons_self index
      have later :=
        inductionHypothesis _ _
          (secondLockout.trans
            ((congrArg Prod.snd sameRefusal).trans firstLockout.symm))
          (fun other member =>
            sameClock other (List.mem_cons_of_mem _ member))
          (fun other member =>
            let both := fails other (List.mem_cons_of_mem _ member)
            ⟨both.1.congr firstUsers, both.2.congr secondUsers⟩)
      refine ⟨?_, later.2⟩
      simp only [List.map_cons, responses]
      rw [later.1, secondValue, firstValue, sameRefusal]

end FailedSignIns

/-- A login with a wrong password, at a moment of its own on either server. -/
def wrongLogin : Request × (Nat → Choice) × (Nat → Choice) :=
  (.login (some {
      identifier := "a"
      masterPasswordHash := "x"
      totpCode := "" }),
    fun _ => moment 1, fun _ => moment 2)

/--
Six logins with a wrong password are answered alike with an account that has a
second factor and without any account; the last one meets the lockout.
-/
theorem sixWrongLogins_indistinguishable :
    responses .memory plainEnvironment State.empty
        (List.replicate 6 (wrongLogin.1, wrongLogin.2.2)) =
      responses .memory plainEnvironment (oneAccount "s" true)
        (List.replicate 6 (wrongLogin.1, wrongLogin.2.1)) ∧
    (responses .memory plainEnvironment State.empty
        (List.replicate 6 (wrongLogin.1, wrongLogin.2.2))).map
          Response.status = [401, 401, 401, 401, 401, 429] := by
  have isVerifier :
      ∀ u, ((oneAccount "s" true).store.getUserByIdentifierHash
            (plainEnvironment.blindIdentifier "a")).1 = .ok u →
        u.masterPasswordVerifier = "$p" := by
    intro u found
    have stored :
        ((oneAccount "s" true).store.getUserByIdentifierHash
            (plainEnvironment.blindIdentifier "a")).1.toOption.map
              User.masterPasswordVerifier = some "$p" := by
      decide +kernel
    rw [found] at stored
    exact Option.some.inj stored
  have fails :
      ∀ move ∈ List.replicate 6 wrongLogin,
        FailedSignIn plainEnvironment (oneAccount "s" true).store
            (plainEnvironment.blindIdentifier "a") move.1 ∧
          FailedSignIn plainEnvironment State.empty.store
            (plainEnvironment.blindIdentifier "a") move.1 := by
    intro move member
    rw [List.eq_of_mem_replicate member]
    refine ⟨fun body isBody => ?_, fun body isBody => ?_⟩
    · cases isBody
      refine ⟨rfl, fun u found => ?_⟩
      rw [isVerifier u found]
      decide +kernel
    · cases isBody
      refine ⟨rfl, fun u found => ?_⟩
      cases found
  have same :=
    failedSignIns_indistinguishable .memory plainEnvironment
      (plainEnvironment.blindIdentifier "a") (oneAccount "s" true) State.empty
      (List.replicate 6 wrongLogin) rfl
      (fun move member => by
        rw [List.eq_of_mem_replicate member]
        intro index
        rfl)
      fails
  simp only [List.map_replicate] at same
  exact ⟨same.1, by decide +kernel⟩

end Passwd.Server
