import Passwd.OwnerIsolation
import Passwd.TokenIssuance

namespace Passwd.Server

open Base64 Interaction

/-!
# Signature counters of passkeys

A login with a passkey lists the enrolled credentials, lets the library compare
the counter of the assertion with the listed one, and writes the returned
counter back.  The calls of other logins can come in between, the write is
unconditional, and the library's clone warning is not read.

The counters are therefore kept, and cloned passkeys refused, exactly as far as
the requests allow: while every accepted assertion has a counter above the
listed one, or that one is zero, and no other login has stored a larger counter
in the meantime.
-/

/-- `UpdateCounter` of the library: a counter that does not grow is a warning. -/
def Authenticator.updateCounter
    (authenticator : Authenticator)
    (authDataCount : UInt32) :
    Authenticator :=
  if authenticator.signCount < authDataCount then
    { authenticator with signCount := authDataCount }
  else
    { authenticator with cloneWarning := true }

/--
The library: a parsed assertion names a credential and carries a counter, and an
accepted one returns that credential with its counter updated.
-/
structure CountingLibrary where
  webAuthn : WebAuthn
  credentialOf : String → Bytes
  counterOf : String → UInt32
  validates :
    ∀ {userID credentials session parsed cred},
      webAuthn.validateLogin userID credentials session parsed = some cred →
        ∃ enrolled ∈ credentials,
          enrolled.id = credentialOf parsed ∧
            cred.id = enrolled.id ∧
            cred.authenticator =
              enrolled.authenticator.updateCounter (counterOf parsed)

/-- The counter after an update is at least that of the assertion. -/
theorem Authenticator.le_updateCounter
    (authenticator : Authenticator)
    (authDataCount : UInt32) :
    authDataCount ≤ (authenticator.updateCounter authDataCount).signCount := by
  unfold Authenticator.updateCounter
  split
  · exact UInt32.le_refl _
  · rename_i notLarger
    exact UInt32.not_lt.mp notLarger

/-!
## What a login has done when it writes
-/

section Handler

variable {env : Environment} {library : CountingLibrary}

/-- What a login with a passkey has established when it makes a call. -/
def CountsAssertion
    (library : CountingLibrary)
    (req : Option LoginFinishRequest)
    (history : History calls) :
    Operation → Prop
  | .updateWebAuthnSignCount credentialID signCount =>
      ∃ body parsed,
        req = some body ∧
        library.webAuthn.parseAssertion body.credential = some parsed ∧
        credentialID = library.credentialOf parsed ∧
        library.counterOf parsed ≤ signCount
  | .createRefreshToken rt =>
      (∃ creds,
        answered (.listWebAuthnCredentials rt.userID) (.ok creds) ∈ history) ∧
      ∃ exchange ∈ history, exchange.operation.touches .passkeys = true
  | .listWebAuthnCredentials _ =>
      ∀ earlier ∈ history, earlier.operation.touches .passkeys = false
  | operation => operation.touches .passkeys = false

/-- A call that needs no justification in a login with a passkey. -/
def Operation.isUncounted : Operation → Bool
  | .listWebAuthnCredentials _ => false
  | .createRefreshToken _ => false
  | operation => !operation.touches .passkeys

/-- Most calls need no justification. -/
theorem countsAssertion_of_isUncounted
    {req : Option LoginFinishRequest}
    {history : History calls}
    {operation : Operation}
    (uncounted : operation.isUncounted = true) :
    CountsAssertion library req history operation := by
  cases operation
  case listWebAuthnCredentials userID => cases uncounted
  case createRefreshToken rt => cases uncounted
  case updateWebAuthnSignCount credentialID signCount => cases uncounted
  all_goals exact (Bool.not_eq_true' _).mp uncounted

/-- A program all of whose calls need no justification. -/
abbrev Uncounted {α : Type} (program : Handler α) : Prop :=
  program.Only fun operation : Operation => operation.isUncounted = true

/-- Such a program keeps every assertion. -/
theorem Uncounted.obeys
    {α : Type}
    {program : Handler α}
    (uncounted : Uncounted program)
    (req : Option LoginFinishRequest)
    (history : History calls) :
    Program.Obeys (CountsAssertion library req) (fun _ _ => True) history
      program :=
  Program.Only.obeys uncounted
    (fun _ _ _ => countsAssertion_of_isUncounted) fun _ _ _ => trivial

/-- The end of a passkey login whose password or passkey is wrong. -/
theorem uncounted_rejectPasskeyLogin (idHash : String) :
    Uncounted (rejectPasskeyLogin idHash) :=
  ⟨rfl, fun _ => trivial⟩

/-- A validated login writes the counter and then issues its tokens. -/
theorem countsAssertion_completePasskeyLogin
    {history : History calls}
    {body : LoginFinishRequest}
    {idHash parsed : String}
    {u : User}
    {creds : List WebAuthnCredential}
    {cred : Credential}
    (parses :
      library.webAuthn.parseAssertion body.credential = some parsed)
    (named : cred.id = library.credentialOf parsed)
    (counted :
      library.counterOf parsed ≤ cred.authenticator.signCount)
    (listed :
      answered (.listWebAuthnCredentials u.id) (.ok creds) ∈ history) :
    (completePasskeyLogin env idHash u cred).Obeys
      (CountsAssertion library (some body)) (fun _ _ => True) history := by
  refine ⟨⟨body, parsed, rfl, parses, named, counted⟩, fun updated => ?_⟩
  dsimp only [Program.bind_done]
  apply Program.obeys_bind.mpr
  refine ⟨countsAssertion_of_isUncounted rfl, fun issuedAt => ?_⟩
  refine ⟨countsAssertion_of_isUncounted rfl, fun bytes => ?_⟩
  cases bytes with
  | none =>
      trivial
  | some bytes =>
      refine ⟨countsAssertion_of_isUncounted rfl, fun now => ⟨?_, ?_⟩⟩
      · refine ⟨⟨creds, ?_⟩,
          answered (.updateWebAuthnSignCount cred.id
            cred.authenticator.signCount) updated, ?_, rfl⟩
        · simp [listed]
        · simp
      · intro created
        cases created with
        | error e =>
            trivial
        | ok done =>
            exact ⟨countsAssertion_of_isUncounted rfl, fun _ => trivial⟩

/-- `handleWebAuthnLoginFinish` -/
theorem countsAssertion_handleWebAuthnLoginFinish
    (configured : env.webAuthn = some library.webAuthn)
    (req : Option LoginFinishRequest) :
    (handleWebAuthnLoginFinish env req).Obeys (CountsAssertion library req)
      (fun _ _ => True) [] := by
  unfold handleWebAuthnLoginFinish
  rw [configured]
  cases req with
  | none =>
      trivial
  | some body =>
      refine ⟨countsAssertion_of_isUncounted rfl, fun isLocked => ?_⟩
      cases isLocked with
      | true =>
          trivial
      | false =>
          refine ⟨countsAssertion_of_isUncounted rfl, fun found => ?_⟩
          cases found with
          | error e =>
              exact (uncounted_rejectPasskeyLogin _).obeys _ _
          | ok u =>
              dsimp only [Program.bind_done]
              split
              · refine ⟨countsAssertion_of_isUncounted rfl, fun taken => ?_⟩
                dsimp only [Program.bind_done]
                split
                · trivial
                · split
                  · trivial
                  · rename_i parsed parses
                    apply Program.obeys_bind.mpr
                    refine ⟨?_, fun listed => ?_⟩
                    · simp [CountsAssertion, Operation.touches]
                    · cases listed with
                      | error e =>
                          trivial
                      | ok creds =>
                          apply Program.obeys_done.mpr
                          dsimp only
                          split
                          · exact (uncounted_rejectPasskeyLogin _).obeys _ _
                          · rename_i cred validated
                            obtain ⟨enrolled, -, named, sameID, counter⟩ :=
                              library.validates validated
                            refine countsAssertion_completePasskeyLogin parses
                              (sameID.trans named) ?_
                              (List.mem_append_right _
                                (List.mem_singleton_self _))
                            rw [counter]
                            exact Authenticator.le_updateCounter _ _
              · exact (uncounted_rejectPasskeyLogin _).obeys _ _

end Handler

/-!
## Interleaved logins
-/

section Runs

variable {backend : Backend} {env : Environment} {library : CountingLibrary}
  {state : State} {requests : Nat → Option LoginFinishRequest}
  {earlier final : Serving}

/-- A server that serves logins with passkeys. -/
def servingLogins
    (env : Environment)
    (state : State)
    (requests : Nat → Option LoginFinishRequest) :
    Serving :=
  serving env state fun process => .webAuthnLoginFinish (requests process)

/-- The counter that the request listed for its credential lets it through. -/
def listedBelow
    (library : CountingLibrary)
    (parsed : String) :
    Exchange calls → Bool
  | ⟨.listWebAuthnCredentials _, .ok creds⟩ =>
      creds.all fun c =>
        c.credentialID ≠ library.credentialOf parsed ||
          c.signCount = 0 || c.signCount < library.counterOf parsed
  | _ => true

/--
A login may write a counter: its assertion's counter is larger than the listed
one, or that one is zero, and the stored one is not larger than the assertion's.
-/
def mayCount
    (library : CountingLibrary)
    (requests : Nat → Option LoginFinishRequest)
    (configuration : Serving)
    (process : Nat)
    (choice : Choice) :
    Operation → Bool
  | .updateWebAuthnSignCount credentialID signCount =>
      ((requests process).bind fun req =>
        library.webAuthn.parseAssertion req.credential).all fun parsed =>
          (configuration.trace.ofProcess process).all
              (listedBelow library parsed) &&
            (choice.fails (.updateWebAuthnSignCount credentialID signCount) ||
              configuration.state.store.passkeys.rows.all fun c =>
                c.credentialID ≠ library.credentialOf parsed ||
                  c.signCount ≤ library.counterOf parsed)
  | _ => true

/-- Every step of a run meets the condition. -/
abbrev countsRightly
    (library : CountingLibrary)
    (requests : Nat → Option LoginFinishRequest) :
    Serving → Nat → Choice → Prop :=
  beforeCall fun configuration process choice operation =>
    mayCount library requests configuration process choice operation = true

/-- A passkey is stored, with a counter that is not smaller than it was. -/
def StillCounted (c : WebAuthnCredential) (configuration : Serving) : Prop :=
  ∃ later ∈ configuration.state.store.passkeys.rows,
    later.id = c.id ∧
      later.userID = c.userID ∧
      later.credentialID = c.credentialID ∧
      c.signCount ≤ later.signCount

/-- What a write of a counter does to the passkeys. -/
theorem passkeys_updateSignCount
    {choice : Choice}
    {state : State}
    (credentialID : Bytes)
    (signCount : UInt32) :
    (execute backend choice state
          (.updateWebAuthnSignCount credentialID signCount)).2.store.passkeys =
        state.store.passkeys ∨
      choice.fails (.updateWebAuthnSignCount credentialID signCount) =
          false ∧
        (execute backend choice state
            (.updateWebAuthnSignCount credentialID
              signCount)).2.store.passkeys =
          state.store.passkeys.update
            (fun c => c.credentialID = credentialID)
            (fun c => { c with
              signCount := signCount
              updatedAt := backend.stamp choice.now })
            fun _ => rfl := by
  by_cases fails :
      choice.fails (.updateWebAuthnSignCount credentialID signCount) = true
  · left
    simp only [execute, attempt, fails, ↓reduceIte]
  · rw [Bool.not_eq_true] at fails
    simp only [execute, attempt, fails, Bool.false_eq_true, ↓reduceIte,
      Store.updateWebAuthnSignCount]
    split
    · exact Or.inr ⟨trivial, rfl⟩
    · exact Or.inl rfl

/-- A call that touches no passkey keeps every counter. -/
theorem StillCounted.untouched
    {configuration : Serving}
    {process : Nat}
    {operation : Operation}
    {next : Answer operation → Handler Response}
    {choice : Choice}
    {c : WebAuthnCredential}
    (counted : StillCounted c configuration)
    (untouched : operation.touches .passkeys = false) :
    StillCounted c
      (configuration.answered process
        ⟨operation, (execute backend choice configuration.state operation).1⟩
        next (execute backend choice configuration.state operation).2) := by
  have same :=
    @execute_same backend choice configuration.state _ _ untouched
  unfold StillCounted Configuration.answered
  simp only [Part.Same] at same
  rw [same]
  exact counted

/-- A write of a counter that is not smaller keeps every counter. -/
theorem StillCounted.write
    {configuration : Serving}
    {process : Nat}
    {credentialID : Bytes}
    {signCount : UInt32}
    {next :
      Answer (.updateWebAuthnSignCount credentialID signCount) →
        Handler Response}
    {choice : Choice}
    {c : WebAuthnCredential}
    (counted : StillCounted c configuration)
    (notSmaller :
      choice.fails (.updateWebAuthnSignCount credentialID signCount) =
          false →
        ∀ stored ∈ configuration.state.store.passkeys.rows,
          stored.credentialID = credentialID → stored.signCount ≤ signCount) :
    StillCounted c
      (configuration.answered process
        ⟨.updateWebAuthnSignCount credentialID signCount,
          (execute backend choice configuration.state
            (.updateWebAuthnSignCount credentialID signCount)).1⟩
        next
        (execute backend choice configuration.state
          (.updateWebAuthnSignCount credentialID signCount)).2) := by
  obtain ⟨later, stored, sameRow, sameUser, sameCredential, atLeast⟩ := counted
  unfold StillCounted Configuration.answered
  rcases passkeys_updateSignCount credentialID signCount with
    unchanged | ⟨succeeds, changed⟩
  · rw [unchanged]
    exact ⟨later, stored, sameRow, sameUser, sameCredential, atLeast⟩
  · rw [changed]
    by_cases isWritten : later.credentialID = credentialID
    · refine ⟨{ later with
          signCount := signCount
          updatedAt := backend.stamp choice.now },
        List.mem_map.mpr ⟨later, stored, by simp [isWritten]⟩, sameRow,
        sameUser, sameCredential, ?_⟩
      exact UInt32.le_trans atLeast
        (notSmaller succeeds later stored isWritten)
    · exact ⟨later, List.mem_map.mpr ⟨later, stored, by simp [isWritten]⟩,
        sameRow, sameUser, sameCredential, atLeast⟩

/-- Every step of a login that meets the condition keeps every counter. -/
theorem StillCounted.step
    {configuration : Serving}
    {process : Nat}
    {operation : Operation}
    {next : Answer operation → Handler Response}
    {choice : Choice}
    {c : WebAuthnCredential}
    (counted : StillCounted c configuration)
    (establishes :
      CountsAssertion library (requests process)
        (configuration.trace.ofProcess process) operation)
    (permitted :
      mayCount library requests configuration process choice operation =
        true) :
    StillCounted c
      (configuration.answered process
        ⟨operation, (execute backend choice configuration.state operation).1⟩
        next (execute backend choice configuration.state operation).2) := by
  cases operation
  case updateWebAuthnSignCount credentialID signCount =>
    obtain ⟨body, parsed, isBody, parses, rfl, counter⟩ := establishes
    apply counted.write
    intro succeeds stored isStored named
    simp only [mayCount, isBody, Option.bind_some, parses, Option.all_some,
      Bool.and_eq_true, succeeds, Bool.false_or, List.all_eq_true,
      Bool.or_eq_true, decide_eq_true_eq] at permitted
    have notLarger := permitted.2 stored isStored
    simp only [named, ne_eq, not_true_eq_false, false_or] at notLarger
    exact UInt32.le_trans notLarger counter
  case createRefreshToken rt => exact counted.untouched rfl
  case listWebAuthnCredentials userID => exact counted.untouched rfl
  all_goals exact counted.untouched establishes

/-- A list of passkeys that is answered contains those of the account. -/
theorem mem_of_listed
    {choice : Choice}
    {state : State}
    {userID : String}
    {creds : List WebAuthnCredential}
    {c : WebAuthnCredential}
    (listed :
      (execute backend choice state (.listWebAuthnCredentials userID)).1 =
        .ok creds)
    (stored : c ∈ state.store.passkeys.rows)
    (owned : c.userID = userID) :
    c ∈ creds := by
  have answer :
      (execute backend choice state (.listWebAuthnCredentials userID)).1 =
        (attempt choice state (.listWebAuthnCredentials userID)
          (state.store.listWebAuthnCredentials userID)).1 :=
    rfl
  rw [answer] at listed
  rcases attempt_cases choice state (.listWebAuthnCredentials userID)
      (state.store.listWebAuthnCredentials userID) with failed | done
  · rw [failed] at listed
    cases listed
  · rw [done] at listed
    cases listed
    rw [List.mem_mergeSort, List.mem_filter]
    exact ⟨stored, decide_eq_true owned⟩

/-- Only creating a refresh token issues one. -/
theorem operation_of_issues
    {userID : String}
    {exchange : Exchange calls}
    (isIssued : issues userID exchange = true) :
    ∃ rt, exchange.operation = .createRefreshToken rt ∧
      rt.userID = userID := by
  unfold issues at isIssued
  split at isIssued
  · exact ⟨_, rfl, by simpa using isIssued⟩
  · cases isIssued

/--
A request whose assertion does not count beyond a stored passkey lists that
passkey, but neither writes a counter then nor issues tokens.
-/
structure Refused
    (process : Nat)
    (c : WebAuthnCredential)
    (configuration : Serving) :
    Prop where
  counted : StillCounted c configuration
  listed :
    ∀ creds,
      answered (.listWebAuthnCredentials c.userID) (.ok creds) ∈
          configuration.trace.ofProcess process →
        ∃ listed ∈ creds,
          listed.credentialID = c.credentialID ∧
            c.signCount ≤ listed.signCount
  unwritten :
    ∀ creds,
      answered (.listWebAuthnCredentials c.userID) (.ok creds) ∈
          configuration.trace.ofProcess process →
        ∀ exchange ∈ configuration.trace.ofProcess process,
          exchange.operation.touches .passkeys = false
  unissued : issued c.userID (configuration.trace.ofProcess process) = false

/-- An assertion that counts too little may not be written. -/
theorem Refused.not_write
    {configuration : Serving}
    {process : Nat}
    {credentialID : Bytes}
    {signCount : UInt32}
    {choice : Choice}
    {c : WebAuthnCredential}
    {req : LoginFinishRequest}
    {parsed : String}
    {creds : List WebAuthnCredential}
    (refused : Refused process c configuration)
    (isRequest : requests process = some req)
    (parses : library.webAuthn.parseAssertion req.credential = some parsed)
    (named : c.credentialID = library.credentialOf parsed)
    (nonzero : c.signCount ≠ 0)
    (notLarger : library.counterOf parsed ≤ c.signCount)
    (listed :
      answered (.listWebAuthnCredentials c.userID) (.ok creds) ∈
        configuration.trace.ofProcess process) :
    mayCount library requests configuration process choice
        (.updateWebAuthnSignCount credentialID signCount) =
      false := by
  obtain ⟨row, inList, sameCredential, atLeast⟩ := refused.listed creds listed
  have rowNonzero : row.signCount ≠ 0 :=
    UInt32.pos_iff_ne_zero.mp
      (UInt32.lt_of_lt_of_le (UInt32.pos_iff_ne_zero.mpr nonzero) atLeast)
  have notBelow : ¬ row.signCount < library.counterOf parsed :=
    UInt32.not_lt.mpr (UInt32.le_trans notLarger atLeast)
  have warned :
      listedBelow library parsed
          (answered (.listWebAuthnCredentials c.userID) (.ok creds)) =
        false := by
    simp only [listedBelow, List.all_eq_false, Bool.not_eq_true,
      Bool.or_eq_false_iff, decide_eq_false_iff_not]
    exact ⟨row, inList,
      ⟨not_not.mpr (sameCredential.trans named), rowNonzero⟩, notBelow⟩
  simp only [mayCount, isRequest, Option.bind_some, parses, Option.all_some,
    Bool.and_eq_false_iff]
  exact Or.inl (List.all_eq_false.mpr
    ⟨_, listed, Bool.not_eq_true _ |>.mpr warned⟩)

/-- A list that is in a history was there before, or is the newest answer. -/
theorem mem_concat_listed
    {choice : Choice}
    {state : State}
    {history : History calls}
    {operation : Operation}
    {userID : String}
    {creds : List WebAuthnCredential}
    (member :
      answered (.listWebAuthnCredentials userID) (.ok creds) ∈
        history ++ [exchanged backend choice state operation]) :
    answered (.listWebAuthnCredentials userID) (.ok creds) ∈ history ∨
      operation = .listWebAuthnCredentials userID ∧
        (execute backend choice state
            (.listWebAuthnCredentials userID)).1 = .ok creds := by
  rcases List.mem_append.mp member with old | new
  · exact Or.inl old
  · have isNewest := List.mem_singleton.mp new
    obtain rfl := Exchange.operation_eq isNewest
    exact Or.inr ⟨rfl, (Exchange.answer_eq isNewest).symm⟩

/-- A login touches the passkeys only when it writes a counter. -/
theorem CountsAssertion.untouched
    {req : Option LoginFinishRequest}
    {history : History calls}
    {operation : Operation}
    (establishes : CountsAssertion library req history operation)
    (notWrite :
      ∀ credentialID signCount,
        operation ≠ .updateWebAuthnSignCount credentialID signCount) :
    operation.touches .passkeys = false := by
  cases operation
  case updateWebAuthnSignCount credentialID signCount =>
    exact absurd rfl (notWrite credentialID signCount)
  case createRefreshToken rt => rfl
  case listWebAuthnCredentials userID => rfl
  all_goals exact establishes

section Step

variable {configuration : Serving} {process : Nat} {operation : Operation}
  {next : Answer operation → Handler Response} {choice : Choice}
  {c : WebAuthnCredential}

/-- A request that has not begun is refused so far. -/
theorem Refused.start
    (stored : c ∈ configuration.state.store.passkeys.rows)
    (notBegun : configuration.trace.ofProcess process = []) :
    Refused process c configuration := by
  constructor
  · exact ⟨c, stored, rfl, rfl, rfl, UInt32.le_refl _⟩
  · intro creds member
    rw [notBegun] at member
    cases member
  · intro creds member
    rw [notBegun] at member
    cases member
  · rw [notBegun]
    rfl

/-- A step of another request. -/
theorem Refused.other
    {exchange : Exchange calls}
    {next : Answer exchange.operation → Handler Response}
    {mover : Nat}
    {after : State}
    (refused : Refused process c configuration)
    (isOther : mover ≠ process)
    (counted :
      StillCounted c (configuration.answered mover exchange next after)) :
    Refused process c (configuration.answered mover exchange next after) := by
  have sameHistory :
      (configuration.answered mover exchange next
          after).trace.ofProcess process =
        configuration.trace.ofProcess process :=
    Trace.ofProcess_append_other _ _ isOther
  constructor
  · exact counted
  · rw [sameHistory]
    exact refused.listed
  · rw [sameHistory]
    exact refused.unwritten
  · rw [sameHistory]
    exact refused.unissued

/-- A step of the refused request itself. -/
theorem Refused.step
    {req : LoginFinishRequest}
    {parsed : String}
    (refused : Refused process c configuration)
    (isRequest : requests process = some req)
    (parses : library.webAuthn.parseAssertion req.credential = some parsed)
    (named : c.credentialID = library.credentialOf parsed)
    (nonzero : c.signCount ≠ 0)
    (notLarger : library.counterOf parsed ≤ c.signCount)
    (establishes :
      CountsAssertion library (requests process)
        (configuration.trace.ofProcess process) operation)
    (permitted :
      mayCount library requests configuration process choice operation =
        true) :
    Refused process c
      (configuration.answered process
        ⟨operation, (execute backend choice configuration.state operation).1⟩
        next (execute backend choice configuration.state operation).2) := by
  have history :
      (configuration.answered process
          (exchanged backend choice configuration.state operation)
          next (execute backend choice configuration.state
            operation).2).trace.ofProcess process =
        configuration.trace.ofProcess process ++
          [exchanged backend choice configuration.state operation] :=
    Trace.ofProcess_append_same _ _ _
  constructor
  · exact refused.counted.step establishes permitted
  · rw [history]
    intro creds member
    rcases mem_concat_listed member with old | ⟨-, listed⟩
    · exact refused.listed creds old
    · obtain ⟨later, stored, -, sameUser, sameCredential, atLeast⟩ :=
        refused.counted
      exact ⟨later, mem_of_listed listed stored sameUser, sameCredential,
        atLeast⟩
  · rw [history]
    intro creds member exchange inHistory
    rcases mem_concat_listed member with old | ⟨rfl, -⟩
    · rcases List.mem_append.mp inHistory with earlier | isNewest
      · exact refused.unwritten creds old exchange earlier
      · rw [List.mem_singleton.mp isNewest]
        refine establishes.untouched ?_
        rintro credentialID signCount rfl
        rw [refused.not_write isRequest parses named nonzero notLarger old]
          at permitted
        cases permitted
    · rcases List.mem_append.mp inHistory with earlier | isNewest
      · exact establishes exchange earlier
      · rw [List.mem_singleton.mp isNewest]
        rfl
  · rw [history, issued, List.any_append, ← issued, refused.unissued,
      Bool.false_or, List.any_cons, List.any_nil, Bool.or_false,
      ← Bool.not_eq_true]
    intro isIssued
    obtain ⟨rt, isCreate, isAccount⟩ := operation_of_issues isIssued
    dsimp only at isCreate
    subst isCreate
    obtain ⟨⟨creds, listed⟩, exchange, inHistory, touches⟩ := establishes
    rw [isAccount] at listed
    rw [refused.unwritten creds listed exchange inHistory] at touches
    cases touches

end Step

/--
In every run of logins with passkeys whose steps meet the condition, no stored
counter decreases, and an assertion whose counter is not larger than a non-zero
counter that was stored before its request began leads to no tokens.
-/
theorem counters_kept
    (configured : env.webAuthn = some library.webAuthn)
    (begun :
      Configuration.Reaches (execute backend) (countsRightly library requests)
        (servingLogins env state requests) earlier)
    (continued :
      Configuration.Reaches (execute backend) (countsRightly library requests)
        earlier final) :
    (∀ c ∈ earlier.state.store.passkeys.rows, StillCounted c final) ∧
      ∀ process req parsed c,
        requests process = some req →
        earlier.trace.ofProcess process = [] →
        library.webAuthn.parseAssertion req.credential = some parsed →
        c ∈ earlier.state.store.passkeys.rows →
        c.credentialID = library.credentialOf parsed →
        c.signCount ≠ 0 →
        library.counterOf parsed ≤ c.signCount →
        issued c.userID (final.trace.ofProcess process) = false := by
  have establishes :
      ∀ {configuration : Serving} {process operation next},
        Configuration.Reaches (execute backend)
            (countsRightly library requests) earlier configuration →
          configuration.pool process = .perform operation next →
          CountsAssertion library (requests process)
            (configuration.trace.ofProcess process) operation := by
    intro configuration process operation next reached shape
    exact (begun.trans reached).request_of_perform
      (countsAssertion_handleWebAuthnLoginFinish configured
        (requests process)) shape
  constructor
  · intro c stored
    refine continued.invariant (StillCounted c)
      ⟨c, stored, rfl, rfl, rfl, UInt32.le_refl _⟩ ?_
    intro configuration process operation next choice reached counted shape
      permitted
    exact counted.step (establishes reached shape)
      (beforeCall_of_perform permitted shape)
  · intro process req parsed c isRequest notBegun parses stored named nonzero
      notLarger
    have refused : Refused process c final := by
      refine continued.invariant (Refused process c)
        (.start stored notBegun) ?_
      intro configuration mover operation next choice reached refused shape
        permitted
      have establishesNow := establishes reached shape
      have permittedNow := beforeCall_of_perform permitted shape
      by_cases isMover : mover = process
      · subst isMover
        exact refused.step isRequest parses named nonzero notLarger
          establishesNow permittedNow
      · exact refused.other isMover
          (refused.counted.step establishesNow permittedNow)
    exact refused.unissued

end Runs

/-!
## A cloned passkey and two overlapping logins
-/

/-- The library on assertions whose text is as long as their counter. -/
def lengthLibrary : CountingLibrary where
  webAuthn :=
    { acceptingWebAuthn with
      validateLogin _ credentials _ parsed :=
        (credentials.find? fun enrolled => enrolled.id = [1]).map
          fun enrolled =>
            { enrolled with
              authenticator :=
                enrolled.authenticator.updateCounter
                  (UInt32.ofNat parsed.toList.length) } }
  credentialOf _ := [1]
  counterOf parsed := UInt32.ofNat parsed.toList.length
  validates := by
    intro userID credentials session parsed cred validated
    obtain ⟨enrolled, found, rfl⟩ := Option.map_eq_some_iff.mp validated
    refine ⟨enrolled, List.mem_of_find?_eq_some found, ?_, rfl, rfl⟩
    simpa using List.find?_some found

/-- A server that counts assertions. -/
def countingEnvironment : Environment :=
  { plainEnvironment with webAuthn := some lengthLibrary.webAuthn }

/-- An account whose passkey has counted to five, with two logins begun. -/
def countedToFive : State :=
  let state := onePasskey
  let pending := putChallenge 0 .empty "x" "u" "session"
  { state with
    store := { state.store with
      passkeys :=
        state.store.passkeys.update (fun _ => true)
          (fun c => { c with signCount := 5 }) fun _ => rfl }
    waPending := putChallenge 0 pending "y" "u" "session" }

/-- A login with the passkey under a handle, with an assertion. -/
def loginUnder (sessionId credential : String) : Option LoginFinishRequest :=
  some
    { identifier := "a", masterPasswordHash := "p"
      sessionId := sessionId, credential := credential }

/-- One login counts to six, the other, of a clone, to three. -/
def originalAndClone : Nat → Option LoginFinishRequest
  | 0 => loginUnder "x" "......"
  | _ => loginUnder "y" "..."

/-- Two logins count to seven and to six. -/
def sevenAndSix : Nat → Option LoginFinishRequest
  | 0 => loginUnder "x" "......."
  | _ => loginUnder "y" "......"

/-- A run from the state in which the passkey has counted to five. -/
def countingRun
    (requests : Nat → Option LoginFinishRequest)
    (processes : List Nat) :
    Serving :=
  (servingLogins countingEnvironment countedToFive requests).follow
    (execute .memory) (processes.map fun process => (process, moment 1))

/-- The passkey has counted to five. -/
theorem countedToFive_row :
    ∃ c ∈ countedToFive.store.passkeys.rows,
      c.userID = "u" ∧ c.credentialID = [1] ∧ c.signCount = 5 := by
  decide

/-- The original counts to six, and the clone is not let through. -/
theorem clone_refused :
    issued "u"
      ((countingRun originalAndClone
        (List.replicate 10 0 ++ List.replicate 4 1)).trace.ofProcess 1) =
      false := by
  have within :
      Configuration.Reaches (execute .memory)
        (countsRightly lengthLibrary originalAndClone)
        (servingLogins countingEnvironment countedToFive originalAndClone)
        (countingRun originalAndClone
          (List.replicate 10 0 ++ List.replicate 4 1)) := by
    apply Configuration.Reaches.of_follow_allowed
    decide +kernel
  obtain ⟨c, stored, isUser, isCredential, isFive⟩ := countedToFive_row
  have refused :=
    (counters_kept rfl .refl within).2 1 _ "..." c rfl rfl rfl stored
      isCredential (by rw [isFive]; decide) (by rw [isFive]; decide)
  rwa [isUser] at refused

/-- Overlapping logins decrease a counter, and a clone is given tokens. -/
theorem counters_notKept :
    (¬ ∀ (backend : Backend) (env : Environment) (library : CountingLibrary)
        (state : State) (requests : Nat → Option LoginFinishRequest)
        (earlier final : Serving),
      env.webAuthn = some library.webAuthn →
        Configuration.Reaches (execute backend) Configuration.anyStep
            (servingLogins env state requests) earlier →
        Configuration.Reaches (execute backend) Configuration.anyStep
            earlier final →
        ∀ c ∈ earlier.state.store.passkeys.rows, StillCounted c final) ∧
      ¬ ∀ (backend : Backend) (env : Environment) (library : CountingLibrary)
          (state : State) (requests : Nat → Option LoginFinishRequest)
          (final : Serving),
        env.webAuthn = some library.webAuthn →
          Configuration.Reaches (execute backend) Configuration.anyStep
              (servingLogins env state requests) final →
          ∀ process req parsed c,
            requests process = some req →
            library.webAuthn.parseAssertion req.credential = some parsed →
            c ∈ state.store.passkeys.rows →
            c.credentialID = library.credentialOf parsed →
            c.signCount ≠ 0 →
            library.counterOf parsed ≤ c.signCount →
            issued c.userID (final.trace.ofProcess process) = false := by
  constructor
  · intro always
    have seven :
        ∃ c ∈ (countingRun sevenAndSix
            ([0, 0, 0, 0, 1, 1, 1, 1] ++ [0])).state.store.passkeys.rows,
          c.signCount = 7 := by
      decide +kernel
    have six :
        ∀ c ∈ (countingRun sevenAndSix
            ([0, 0, 0, 0, 1, 1, 1, 1] ++ [0, 1])).state.store.passkeys.rows,
          ¬ 7 ≤ c.signCount := by
      decide +kernel
    obtain ⟨c, stored, isSeven⟩ := seven
    obtain ⟨later, isLater, -, -, -, atLeast⟩ :=
      always .memory countingEnvironment lengthLibrary countedToFive
        sevenAndSix _ _ rfl (.of_follow _ _)
        (.of_follow [(1, moment 1)] _) c stored
    rw [isSeven] at atLeast
    exact six later isLater atLeast
  · intro always
    obtain ⟨c, stored, isUser, isCredential, isFive⟩ := countedToFive_row
    have unissued :=
      always .memory countingEnvironment lengthLibrary countedToFive
        originalAndClone _ rfl
        (.of_follow (List.replicate 10 (1, moment 1)) _) 1 _ "..." c rfl rfl
        stored isCredential (by rw [isFive]; decide) (by rw [isFive]; decide)
    have isIssued :
        issued "u"
          ((countingRun originalAndClone
            (List.replicate 10 1)).trace.ofProcess 1) = true := by
      decide +kernel
    rw [isUser] at unissued
    exact Bool.false_ne_true (unissued.symm.trans isIssued)

end Passwd.Server
