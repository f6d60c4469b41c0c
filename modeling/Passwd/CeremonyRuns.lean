import Passwd.ChallengeStore
import Passwd.OwnerIsolation

namespace Passwd.Server

open Base64 Interaction

/-!
# Which ceremony an accepted challenge belongs to

Enrolment and login keep their challenges in one table, and an entry records the
account it was put for but not the ceremony.  In every interleaving of ceremony
requests, an entry that a finishing request accepts was put by a request that
began a ceremony for the same account.  It may have begun the other ceremony.
-/

/-- The two ceremonies. -/
inductive Ceremony where
  | enrolment
  | login
deriving DecidableEq

/-- A request of one of the ceremonies. -/
inductive CeremonyRequest where
  | registerBegin (userID : String)
  | registerFinish (userID : String) (req : Option RegisterFinishRequest)
  | loginBegin (req : Option LoginBeginRequest)
  | loginFinish (req : Option LoginFinishRequest)

/-- The request as the server receives it. -/
def CeremonyRequest.request : CeremonyRequest → Request
  | registerBegin userID => .webAuthnRegisterBegin userID
  | registerFinish userID req => .webAuthnRegisterFinish userID req
  | loginBegin req => .webAuthnLoginBegin req
  | loginFinish req => .webAuthnLoginFinish req

/-- A request begins a ceremony for an account. -/
def Begins
    (env : Environment)
    (request : Request)
    (history : History calls)
    (userID : String) :
    Ceremony → Prop
  | .enrolment => request = .webAuthnRegisterBegin userID
  | .login =>
      ∃ req u,
        request = .webAuthnLoginBegin (some req) ∧
        answered
          (.getUserByIdentifierHash (env.blindIdentifier req.identifier))
          (.ok u) ∈ history ∧
        env.verifyVerifier u.masterPasswordVerifier req.masterPasswordHash =
          some true ∧
        u.id = userID

/-- A request finishes a ceremony for an account. -/
def Finishes
    (env : Environment)
    (request : Request)
    (history : History calls)
    (userID : String) :
    Ceremony → Prop
  | .enrolment => ∃ req, request = .webAuthnRegisterFinish userID (some req)
  | .login =>
      ∃ req u,
        request = .webAuthnLoginFinish (some req) ∧
        answered
          (.getUserByIdentifierHash (env.blindIdentifier req.identifier))
          (.ok u) ∈ history ∧
        u.id = userID

/-!
## Who puts a challenge
-/

/-- A call that puts a challenge. -/
def Operation.putsChallenge : Operation → Bool
  | .putChallenge _ _ _ => true
  | _ => false

/-- A program that puts no challenge. -/
abbrev PutsNone {α : Type} (program : Handler α) : Prop :=
  program.Only fun operation : Operation => operation.putsChallenge = false

section Handlers

variable {env : Environment} {userID idHash : String}

/-- `audit` -/
theorem putsNone_audit (event detail : String) :
    PutsNone (audit userID event detail) :=
  only_audit rfl rfl fun _ => rfl

/-- `webAuthnUserFor` -/
theorem putsNone_webAuthnUserFor : PutsNone (webAuthnUserFor userID) := by
  refine ⟨rfl, fun listed => ?_⟩
  cases listed with
  | error e => trivial
  | ok creds => trivial

/-- The end of a passkey login whose password or passkey is wrong. -/
theorem putsNone_rejectPasskeyLogin : PutsNone (rejectPasskeyLogin idHash) :=
  ⟨rfl, fun _ => trivial⟩

/-- `issueTokens` -/
theorem putsNone_issueTokens : PutsNone (issueTokens env userID) :=
  only_issueTokens rfl rfl fun _ _ => rfl

/-- A login after its assertion was validated. -/
theorem putsNone_completePasskeyLogin (u : User) (cred : Credential) :
    PutsNone (completePasskeyLogin env idHash u cred) := by
  refine ⟨rfl, fun updated => ?_⟩
  apply putsNone_issueTokens.bind
  intro issued
  cases issued with
  | none => trivial
  | some tokens => exact ⟨rfl, fun _ => trivial⟩

/-- A login with a passkey after its password was accepted. -/
theorem putsNone_checkAssertion
    (webAuthn : WebAuthn)
    (u : User)
    (req : LoginFinishRequest) :
    PutsNone (checkAssertion env webAuthn idHash u req) := by
  refine ⟨rfl, fun taken => ?_⟩
  dsimp only [Program.bind_done]
  split
  · trivial
  · split
    · trivial
    · apply putsNone_webAuthnUserFor.bind
      intro waUser
      cases waUser with
      | none =>
          trivial
      | some credentials =>
          dsimp only [Program.bind_done]
          split
          · exact putsNone_rejectPasskeyLogin
          · exact putsNone_completePasskeyLogin _ _

/-- `handleWebAuthnLoginFinish` -/
theorem putsNone_handleWebAuthnLoginFinish (req : Option LoginFinishRequest) :
    PutsNone (handleWebAuthnLoginFinish env req) := by
  unfold handleWebAuthnLoginFinish
  split
  · trivial
  · cases req with
    | none =>
        trivial
    | some req =>
        refine ⟨rfl, fun isLocked => ?_⟩
        cases isLocked with
        | true =>
            trivial
        | false =>
            refine ⟨rfl, fun found => ?_⟩
            cases found with
            | error e =>
                exact putsNone_rejectPasskeyLogin
            | ok u =>
                dsimp only [Program.bind_done]
                split
                · exact putsNone_checkAssertion _ _ _
                · exact putsNone_rejectPasskeyLogin

/-- `handleWebAuthnRegisterFinish` -/
theorem putsNone_handleWebAuthnRegisterFinish
    (req : Option RegisterFinishRequest) :
    PutsNone (handleWebAuthnRegisterFinish env userID req) := by
  unfold handleWebAuthnRegisterFinish
  split
  · trivial
  · cases req with
    | none =>
        trivial
    | some req =>
        refine ⟨rfl, fun taken => ?_⟩
        dsimp only [Program.bind_done]
        split
        · trivial
        · split
          · trivial
          · apply putsNone_webAuthnUserFor.bind
            intro waUser
            cases waUser with
            | none =>
                trivial
            | some credentials =>
                dsimp only
                split
                · trivial
                · refine ⟨rfl, fun now => ⟨rfl, fun drawn => ⟨rfl, ?_⟩⟩⟩
                  rintro ((- | - | -) | -)
                  · trivial
                  · trivial
                  · trivial
                  · exact (putsNone_audit _ _).bind fun _ => trivial

/-- What a request has established when it puts a challenge. -/
def PutsOwn
    (env : Environment)
    (request : Request)
    (history : History calls)
    (operation : Operation) :
    Prop :=
  ∀ handle userID data, operation = .putChallenge handle userID data →
    ∃ ceremony, Begins env request history userID ceremony

/-- Calls that put no challenge need no justification. -/
theorem putsOwn_of_putsNone
    {request : Request}
    {history : History calls}
    {operation : Operation}
    (putsNone : operation.putsChallenge = false) :
    PutsOwn env request history operation := by
  rintro handle userID data rfl
  cases putsNone

/-- A program that puts no challenge keeps every assertion about putting. -/
theorem obeys_of_putsNone
    {α : Type}
    {request : Request}
    {program : Handler α}
    (putsNone : PutsNone program)
    (history : History calls) :
    program.Obeys (PutsOwn env request) (fun _ _ => True) history :=
  putsNone.obeys (fun _ _ _ => putsOwn_of_putsNone) fun _ _ _ => trivial

/-- `handleWebAuthnRegisterBegin` puts a challenge for its own account. -/
theorem putsOwn_handleWebAuthnRegisterBegin :
    (handleWebAuthnRegisterBegin env userID).Obeys
      (PutsOwn env (.webAuthnRegisterBegin userID)) (fun _ _ => True) [] := by
  unfold handleWebAuthnRegisterBegin
  split
  · trivial
  · apply Program.obeys_bind.mpr
    refine putsNone_webAuthnUserFor.obeys
      (fun _ _ _ => putsOwn_of_putsNone) ?_
    intro later waUser _
    cases waUser with
    | none =>
        trivial
    | some credentials =>
        refine ⟨putsOwn_of_putsNone rfl, fun entropy => ?_⟩
        dsimp only [Program.bind_done]
        split
        · trivial
        · refine ⟨putsOwn_of_putsNone rfl, fun drawn => ⟨?_, fun done => ?_⟩⟩
          · intro handle owner data isPut
            cases isPut
            exact ⟨.enrolment, rfl⟩
          · trivial

/-- `handleWebAuthnLoginBegin` puts a challenge for the account it verified. -/
theorem putsOwn_handleWebAuthnLoginBegin (req : Option LoginBeginRequest) :
    (handleWebAuthnLoginBegin env req).Obeys
      (PutsOwn env (.webAuthnLoginBegin req)) (fun _ _ => True) [] := by
  unfold handleWebAuthnLoginBegin
  split
  · trivial
  · cases req with
    | none =>
        trivial
    | some req =>
        refine ⟨putsOwn_of_putsNone rfl, fun isLocked => ?_⟩
        cases isLocked with
        | true =>
            trivial
        | false =>
            refine ⟨putsOwn_of_putsNone rfl, fun found => ?_⟩
            cases found with
            | error e =>
                exact obeys_of_putsNone putsNone_rejectPasskeyLogin _
            | ok u =>
                dsimp only [Program.bind_done]
                split
                · rename_i verified
                  apply Program.obeys_bind.mpr
                  refine putsNone_webAuthnUserFor.obeys
                    (fun _ _ _ => putsOwn_of_putsNone) ?_
                  intro later waUser longer
                  rcases waUser with - | (- | ⟨first, rest⟩)
                  · trivial
                  · trivial
                  · refine ⟨putsOwn_of_putsNone rfl, fun entropy => ?_⟩
                    dsimp only [Program.bind_done]
                    split
                    · trivial
                    · refine ⟨putsOwn_of_putsNone rfl,
                        fun drawn => ⟨?_, fun done => ?_⟩⟩
                      · intro handle owner data isPut
                        cases isPut
                        refine ⟨.login, req, u, rfl, ?_, verified, rfl⟩
                        exact List.mem_append_left _
                          (List.mem_append_left _ (longer.subset (by simp)))
                      · trivial
                · exact obeys_of_putsNone putsNone_rejectPasskeyLogin _

/-- A ceremony request puts challenges for the account it begins with. -/
theorem putsOwn_serve (request : CeremonyRequest) :
    (serve env request.request).Obeys (PutsOwn env request.request)
      (fun _ _ => True) [] := by
  cases request with
  | registerBegin userID =>
      exact putsOwn_handleWebAuthnRegisterBegin
  | registerFinish userID req =>
      exact obeys_of_putsNone (putsNone_handleWebAuthnRegisterFinish req) []
  | loginBegin req =>
      exact putsOwn_handleWebAuthnLoginBegin req
  | loginFinish req =>
      exact obeys_of_putsNone (putsNone_handleWebAuthnLoginFinish req) []

end Handlers

/-!
## Who put an entry
-/

section Runs

variable {backend : Backend} {env : Environment} {state : State}
  {requests : Nat → CeremonyRequest} {final : Serving}

/-- A request of a trace put an entry for the account it began a ceremony for. -/
def PutBy
    (env : Environment)
    (requests : Nat → CeremonyRequest)
    (trace : Trace calls)
    (entry : ChallengeEntry) :
    Prop :=
  ∃ process ceremony,
    ⟨process,
        answered (.putChallenge entry.handle entry.userID entry.data) ()⟩ ∈
      trace ∧
      Begins env (requests process).request (trace.ofProcess process)
        entry.userID ceremony

/-- What a request began, it has begun in every longer history. -/
theorem Begins.mono
    {request : Request}
    {history later : History calls}
    {userID : String}
    {ceremony : Ceremony}
    (begins : Begins env request history userID ceremony)
    (longer : history ⊆ later) :
    Begins env request later userID ceremony := by
  cases ceremony with
  | enrolment =>
      exact begins
  | login =>
      obtain ⟨req, u, isRequest, found, verified⟩ := begins
      exact ⟨req, u, isRequest, longer found, verified⟩

/-- Who put an entry stays in the trace. -/
theorem PutBy.concat
    {trace : Trace calls}
    {entry : ChallengeEntry}
    (putBy : PutBy env requests trace entry)
    (event : Event calls) :
    PutBy env requests (trace ++ [event]) entry := by
  obtain ⟨process, ceremony, member, begins⟩ := putBy
  refine ⟨process, ceremony, List.mem_append_left _ member, begins.mono ?_⟩
  intro exchange inHistory
  rw [Trace.mem_ofProcess] at inHistory ⊢
  exact List.mem_append_left _ inHistory

/-- Every entry that is kept, and every entry that was taken, was put. -/
structure EntriesExplained
    (env : Environment)
    (requests : Nat → CeremonyRequest)
    (configuration : Serving) :
    Prop where
  kept :
    ∀ entry ∈ configuration.state.waPending.rows,
      PutBy env requests configuration.trace entry
  taken :
    ∀ {before after process handle entry},
      configuration.trace =
          before ++ ⟨process, answered (.takeChallenge handle) (some entry)⟩ ::
            after →
        entry.handle = handle ∧ PutBy env requests before entry

/-- An entry after an operation was there before, or the operation put it. -/
theorem mem_pendingAfter
    {waPending : Table ChallengeEntry.handle}
    {now : Time}
    {operation : Operation}
    {entry : ChallengeEntry}
    (member : entry ∈ (pendingAfter waPending (now, operation)).rows) :
    entry ∈ waPending.rows ∨
      operation = .putChallenge entry.handle entry.userID entry.data := by
  cases operation
  case putChallenge handle userID data =>
    rcases Table.mem_upsert member with rfl | old
    · exact Or.inr rfl
    · exact Or.inl (Table.mem_delete old).1
  case takeChallenge handle =>
    exact Or.inl (Table.mem_delete member).1
  all_goals exact Or.inl member

/-- An entry that is taken was kept under its handle. -/
theorem mem_of_takeChallenge
    {waPending : Table ChallengeEntry.handle}
    {now : Time}
    {handle : String}
    {entry : ChallengeEntry}
    (taken : (takeChallenge now waPending handle).1 = some entry) :
    entry ∈ waPending.rows ∧ entry.handle = handle := by
  have found := (Option.filter_eq_some_iff.mp taken).1
  exact ⟨Table.mem_of_find? found, Table.key_of_find? found⟩

/-- In every reached configuration, all entries are explained. -/
theorem entriesExplained
    (reaches :
      Configuration.Reaches (execute backend) Configuration.anyStep
        (serving env state fun process => (requests process).request) final)
    (started : state.waPending = .empty) :
    EntriesExplained env requests final := by
  refine reaches.invariant (EntriesExplained env requests) ?_ ?_
  · constructor
    · intro entry member
      have noEntry : (serving env state fun process =>
          (requests process).request).state.waPending.rows = [] := by
        exact congrArg Table.rows started
      rw [noEntry] at member
      cases member
    · intro before after process handle entry split
      have noEvent := congrArg List.length split
      simp [serving, Configuration.initial] at noEvent
  · intro configuration process operation next choice reached explained
      shape _
    have establishes :=
      reached.request_of_perform (putsOwn_serve (requests process)) shape
    have isKept := explained.kept
    constructor
    · intro entry member
      rw [Configuration.answered, execute_waPending] at member
      rcases mem_pendingAfter member with old | rfl
      · exact (isKept entry old).concat _
      · obtain ⟨ceremony, begins⟩ := establishes _ _ _ rfl
        refine ⟨process, ceremony,
          List.mem_append_right _ (List.mem_singleton_self _),
          begins.mono ?_⟩
        intro exchange inHistory
        rw [Trace.mem_ofProcess] at inHistory ⊢
        exact List.mem_append_left _ inHistory
    · intro before after taker handle entry split
      rcases List.eq_nil_or_concat after with rfl | ⟨rest, last, rfl⟩
      · obtain ⟨rfl, isLast⟩ := List.append_inj' split rfl
        have sameExchange :=
          congrArg Event.exchange (List.singleton_inj.mp isLast)
        obtain rfl := Exchange.operation_eq sameExchange
        have isTaken :
            (takeChallenge choice.now configuration.state.waPending
              handle).1 = some entry :=
          Exchange.answer_eq sameExchange
        obtain ⟨member, isHandle⟩ := mem_of_takeChallenge isTaken
        exact ⟨isHandle, isKept entry member⟩
      · rw [List.concat_eq_append, ← List.cons_append,
          ← List.append_assoc] at split
        have sameTrace := (List.append_inj' split rfl).1
        exact explained.taken sameTrace

/--
A request that finishes a ceremony takes an entry of its own account, which it
goes on to verify the passkey with.
-/
def Accepts
    (env : Environment)
    (requests : Nat → CeremonyRequest)
    (trace before : Trace calls)
    (ceremony : Ceremony)
    (handle : String)
    (entry : ChallengeEntry) :
    Prop :=
  ∃ process after,
    trace =
        before ++ ⟨process, answered (.takeChallenge handle) (some entry)⟩ ::
          after ∧
      Finishes env (requests process).request (before.ofProcess process)
        entry.userID ceremony

/--
An entry that a finishing request accepts was put earlier, under its handle, by
a request that began a ceremony for the same account.
-/
theorem accepted_of_begun
    (reaches :
      Configuration.Reaches (execute backend) Configuration.anyStep
        (serving env state fun process => (requests process).request) final)
    (started : state.waPending = .empty)
    {before : Trace calls}
    {ceremony : Ceremony}
    {handle : String}
    {entry : ChallengeEntry}
    (accepts :
      Accepts env requests final.trace before ceremony handle entry) :
    ∃ starter begun,
      ⟨starter,
          answered (.putChallenge handle entry.userID entry.data) ()⟩ ∈
        before ∧
      Begins env (requests starter).request (before.ofProcess starter)
        entry.userID begun := by
  obtain ⟨process, after, taken, -⟩ := accepts
  obtain ⟨rfl, putBy⟩ := (entriesExplained reaches started).taken taken
  exact putBy

end Runs

/-!
## A login that is finished with the challenge of an enrolment
-/

/-- The handle that is drawn for the enrolment. -/
def crossedHandle : String := "07000000000000000000000000000000"

/-- An enrolment is begun, and a login is finished under its handle. -/
def crossedCeremonies : Nat → CeremonyRequest
  | 0 => .registerBegin "u"
  | _ =>
      .loginFinish (some
        { identifier := "a", masterPasswordHash := "p"
          sessionId := crossedHandle, credential := "" })

/-- The login follows the enrolment. -/
def crossedRun : Serving :=
  (serving passkeyEnvironment (oneAccount "" false)
      fun process => (crossedCeremonies process).request).follow
    (execute .memory)
    (List.replicate 4 (0, moment 7) ++ List.replicate 3 (1, moment 7))

/-- It is a run of the server. -/
theorem crossedRun_reaches :
    Configuration.Reaches (execute .memory) Configuration.anyStep
      (serving passkeyEnvironment (oneAccount "" false)
        fun process => (crossedCeremonies process).request)
      crossedRun :=
  .of_follow _ _

/-- The entry that the enrolment put. -/
def crossedEntry : ChallengeEntry where
  handle := crossedHandle
  data := "session"
  userID := "u"
  expires := challengeTTL

/-- The process, the handle and the entry of a successful take. -/
def takeOf : Event calls → Option (Nat × String × ChallengeEntry)
  | ⟨process, ⟨.takeChallenge handle, some entry⟩⟩ =>
      some (process, handle, entry)
  | _ => none

/-- The process, the identifier hash and the id of an account that was found. -/
def foundAccount? : Event calls → Option (Nat × String × String)
  | ⟨process, ⟨.getUserByIdentifierHash idHash, .ok u⟩⟩ =>
      some (process, idHash, u.id)
  | _ => none

/-- The event of a successful take. -/
theorem eq_of_takeOf
    {event : Event calls}
    {process : Nat}
    {handle : String}
    {entry : ChallengeEntry}
    (taken : takeOf event = some (process, handle, entry)) :
    event = ⟨process, answered (.takeChallenge handle) (some entry)⟩ := by
  unfold takeOf at taken
  split at taken
  · cases taken
    rfl
  · cases taken

/-- The event of an account that was found. -/
theorem eq_of_foundAccount?
    {event : Event calls}
    {process : Nat}
    {idHash userID : String}
    (found : foundAccount? event = some (process, idHash, userID)) :
    ∃ u : User,
      event =
          ⟨process, answered (.getUserByIdentifierHash idHash) (.ok u)⟩ ∧
        u.id = userID := by
  unfold foundAccount? at found
  split at found
  · cases found
    exact ⟨_, rfl, rfl⟩
  · cases found

/-- The login accepts the challenge of the enrolment. -/
theorem crossed_accepts :
    Accepts passkeyEnvironment crossedCeremonies crossedRun.trace
      (crossedRun.trace.take 6) .login crossedHandle crossedEntry := by
  have taken :
      crossedRun.trace[6]?.bind takeOf =
        some (1, crossedHandle, crossedEntry) := by
    decide +kernel
  have found :
      crossedRun.trace[5]?.bind foundAccount? =
        some (1, passkeyEnvironment.blindIdentifier "a", "u") := by
    decide +kernel
  obtain ⟨event, isEvent, isTake⟩ := Option.bind_eq_some_iff.mp taken
  obtain ⟨lookUp, isLookUp, isFound⟩ := Option.bind_eq_some_iff.mp found
  obtain ⟨u, rfl, isAccount⟩ := eq_of_foundAccount? isFound
  rw [eq_of_takeOf isTake] at isEvent
  refine ⟨1, crossedRun.trace.drop 7, ?_, _, u, rfl, ?_, isAccount⟩
  · obtain ⟨within, isElement⟩ := List.getElem?_eq_some_iff.mp isEvent
    rw [← isElement, ← List.drop_eq_getElem_cons within,
      List.take_append_drop]
  · rw [Trace.mem_ofProcess]
    apply List.mem_of_getElem? (i := 5)
    rw [List.getElem?_take_of_lt (by decide)]
    exact isLookUp

/-- An accepted entry need not belong to the ceremony that it finishes. -/
theorem crossed_not_begun :
    ¬ ∀ (backend : Backend) (env : Environment) (state : State)
        (requests : Nat → CeremonyRequest) (final : Serving)
        (before : Trace calls) (ceremony : Ceremony) (handle : String)
        (entry : ChallengeEntry),
      Configuration.Reaches (execute backend) Configuration.anyStep
          (serving env state fun process => (requests process).request)
          final →
        state.waPending = .empty →
        Accepts env requests final.trace before ceremony handle entry →
        ∃ starter,
          Begins env (requests starter).request (before.ofProcess starter)
            entry.userID ceremony := by
  intro always
  obtain ⟨starter, req, u, isLoginBegin, -⟩ :=
    always .memory passkeyEnvironment (oneAccount "" false) crossedCeremonies
      crossedRun _ .login crossedHandle crossedEntry crossedRun_reaches rfl
      crossed_accepts
  cases starter with
  | zero =>
      cases isLoginBegin
  | succ starter =>
      cases isLoginBegin

/-- The login takes an entry that was put for its own account. -/
theorem crossed_accepted_of_begun :
    ∃ starter begun,
      ⟨starter, answered (.putChallenge crossedHandle "u" "session") ()⟩ ∈
        crossedRun.trace.take 6 ∧
      Begins passkeyEnvironment (crossedCeremonies starter).request
        (Trace.ofProcess (crossedRun.trace.take 6) starter) "u" begun :=
  accepted_of_begun crossedRun_reaches rfl crossed_accepts

end Passwd.Server
