import Passwd.ServerRuns

namespace Passwd.Server

open Base64 Interaction

/-!
# Refresh tokens under concurrency

Two properties of refresh tokens, over every interleaving of a pool of requests:
a token is redeemed by at most one request, and a revocation is final against
the requests that were in flight when it took effect.
-/

/-!
## A refresh token is redeemed once
-/

/-- The hash of the refresh token that a call creates. -/
def Operation.createdHash : Operation → Option String
  | .createRefreshToken rt => some rt.tokenHash
  | _ => none

/--
Marking the token acts on an unused row and does not fail, and no new token has
the hash of the presented one.
-/
def marksUnused (tokenHash : String) : Serving → Nat → Choice → Prop :=
  beforeCall fun configuration _ choice operation =>
    (operation = .markRefreshTokenUsed tokenHash →
      choice.fails operation = false ∧
        (configuration.state.store.refresh.find? tokenHash).any
          fun rt => !rt.used) ∧
    operation.createdHash ≠ some tokenHash

instance (tokenHash : String) (configuration : Serving) (process : Nat)
    (choice : Choice) :
    Decidable (marksUnused tokenHash configuration process choice) :=
  inferInstanceAs (Decidable (beforeCall _ configuration process choice))

/-- The requests that have marked a token: one at most, and the row shows it. -/
def MarkedOnce (tokenHash : String) (configuration : Serving) : Prop :=
  (∀ event ∈ configuration.trace,
      event.exchange.operation = .markRefreshTokenUsed tokenHash →
        ∀ rt,
          configuration.state.store.refresh.find? tokenHash = some rt →
            rt.used = true) ∧
  ∀ first ∈ configuration.trace, ∀ later ∈ configuration.trace,
    first.exchange.operation = .markRefreshTokenUsed tokenHash →
      later.exchange.operation = .markRefreshTokenUsed tokenHash →
        first.process = later.process

/-- A used token stays used unless a token with its hash is created. -/
theorem used_of_execute
    {backend : Backend}
    {choice : Choice}
    {state : State}
    {operation : Operation}
    {tokenHash : String}
    (usedBefore :
      ∀ rt, state.store.refresh.find? tokenHash = some rt → rt.used = true)
    (otherHash : operation.createdHash ≠ some tokenHash)
    {rt : RefreshToken}
    (found :
      (execute backend choice state operation).2.store.refresh.find?
        tokenHash = some rt) :
    rt.used = true := by
  rcases refresh_row_cases found with
    ⟨created, isCreate, sameHash, -⟩ | ⟨-, old, wasFound, -, keptUsed⟩
  · obtain rfl := Exchange.operation_eq isCreate
    exact absurd (congrArg some sameHash) otherHash
  · exact keptUsed (usedBefore old wasFound)

/-- Marking a stored token leaves it used. -/
theorem used_of_mark
    {backend : Backend}
    {choice : Choice}
    {state : State}
    {tokenHash : String}
    {stored rt : RefreshToken}
    (succeeds : choice.fails (.markRefreshTokenUsed tokenHash) = false)
    (isStored : state.store.refresh.find? tokenHash = some stored)
    (found :
      (execute backend choice state
          (.markRefreshTokenUsed tokenHash)).2.store.refresh.find?
        tokenHash = some rt) :
    rt.used = true := by
  simp only [execute, attempt_of_succeeds succeeds,
    Store.markRefreshTokenUsed, isStored, Option.isSome_some, ↓reduceIte,
    Table.find?_update, Option.map_some, Option.some.injEq] at found
  rw [Table.key_of_find? isStored] at found
  rw [← found]
  simp

section SingleUse

variable {backend : Backend} {env : Environment} {state : State}
  {requests : Nat → Request} {final : Serving}

/-- In every run that marks unused rows only, a token is marked once. -/
theorem markedOnce_of_reaches
    {tokenHash : String}
    (reaches :
      Configuration.Reaches (execute backend) (marksUnused tokenHash)
        (serving env state requests) final) :
    MarkedOnce tokenHash final := by
  refine reaches.invariant (MarkedOnce tokenHash) ?_ ?_
  · constructor
    · intro event member
      cases member
    · intro first member
      cases member
  · intro configuration process operation next choice _ marked shape permitted
    obtain ⟨marksRow, otherHash⟩ := beforeCall_of_perform permitted shape
    rcases marked with ⟨usedAfter, sameProcess⟩
    have notTwice :
        operation = .markRefreshTokenUsed tokenHash →
          ∀ event ∈ configuration.trace,
            event.exchange.operation ≠ .markRefreshTokenUsed tokenHash := by
      intro isMark event member earlier
      obtain ⟨-, unused⟩ := marksRow isMark
      obtain ⟨rt, found, unused⟩ := (Option.any_eq_true _ _).mp unused
      have used := usedAfter event member earlier rt found
      rw [used] at unused
      cases unused
    constructor
    · intro event member isMark rt found
      rcases List.mem_append.mp member with old | new
      · exact used_of_execute (usedAfter event old isMark) otherHash found
      · rw [List.mem_singleton.mp new] at isMark
        obtain ⟨succeeds, unused⟩ := marksRow isMark
        obtain ⟨stored, isStored, -⟩ := (Option.any_eq_true _ _).mp unused
        dsimp only at isMark
        subst isMark
        exact used_of_mark succeeds isStored found
    · intro first firstMember later laterMember firstMark laterMark
      rcases List.mem_append.mp firstMember with oldFirst | newFirst
      · rcases List.mem_append.mp laterMember with oldLater | newLater
        · exact sameProcess first oldFirst later oldLater firstMark laterMark
        · rw [List.mem_singleton.mp newLater] at laterMark
          exact absurd firstMark (notTwice laterMark first oldFirst)
      · rcases List.mem_append.mp laterMember with oldLater | newLater
        · rw [List.mem_singleton.mp newFirst] at firstMark
          exact absurd laterMark (notTwice firstMark later oldLater)
        · rw [List.mem_singleton.mp newFirst, List.mem_singleton.mp newLater]

/-- A request that redeemed a token has marked it. -/
theorem marked_of_redeemed
    {allowed : Serving → Nat → Choice → Prop}
    {token : String}
    {process : Nat}
    (reaches :
      Configuration.Reaches (execute backend) allowed
        (serving env state requests) final)
    (presents : requests process = .refresh (some token))
    (isRedeemed : succeeded final process = true) :
    ∃ event ∈ final.trace,
      event.process = process ∧
        event.exchange.operation =
          .markRefreshTokenUsed (env.hashRefreshToken token) := by
  obtain ⟨response, finished, status⟩ := (Option.any_eq_true _ _).mp isRedeemed
  have reported := reported_of_outcome? reaches finished
  rw [presents] at reported
  obtain ⟨answer, member⟩ := reported (of_decide_eq_true status)
  exact ⟨_, Trace.mem_ofProcess.mp member, rfl, rfl⟩

/--
However the requests of a pool interleave, a refresh token is redeemed by at
most one of those that present it, as long as marking it acts on an unused row.
-/
theorem redeemed_once
    {token : String}
    (reaches :
      Configuration.Reaches (execute backend)
        (marksUnused (env.hashRefreshToken token))
        (serving env state requests) final)
    {first later : Nat}
    (firstPresents : requests first = .refresh (some token))
    (laterPresents : requests later = .refresh (some token))
    (firstRedeemed : succeeded final first = true)
    (laterRedeemed : succeeded final later = true) :
    first = later := by
  have once := markedOnce_of_reaches reaches
  obtain ⟨firstMark, firstMember, rfl, isFirst⟩ :=
    marked_of_redeemed reaches firstPresents firstRedeemed
  obtain ⟨laterMark, laterMember, rfl, isLater⟩ :=
    marked_of_redeemed reaches laterPresents laterRedeemed
  exact once.2 firstMark firstMember laterMark laterMember isFirst isLater

end SingleUse

/-- A server with one session, whose refresh token is `t`. -/
def oneSession : State :=
  { State.empty with
    store := { Store.empty with
      refresh := Table.empty.upsert
        { tokenHash := plainEnvironment.hashRefreshToken "t",
          userID := "u", expiresAt := refreshTokenTTL, createdAt := 0,
          used := false } } }

/-- Two requests one after the other: the first redeems the token. -/
def oneAfterTheOther : List (Nat × Choice) :=
  List.replicate 7 (0, moment 1) ++ List.replicate 6 (1, moment 2)

/-- Of two requests in sequence the first redeems the token, and only it. -/
theorem sequential_redeemed_once :
    let final :=
      (serving plainEnvironment oneSession
          fun _ => .refresh (some "t")).follow
        (execute .memory) oneAfterTheOther
    succeeded final 0 = true ∧ succeeded final 1 = false ∧ (0 : Nat) = 0 := by
  intro final
  have reaches :
      Configuration.Reaches (execute .memory)
        (marksUnused (plainEnvironment.hashRefreshToken "t"))
        (serving plainEnvironment oneSession fun _ => .refresh (some "t"))
        final := by
    apply Configuration.Reaches.of_follow_allowed
    decide +kernel
  have firstRedeemed : succeeded final 0 = true := by
    decide +kernel
  have laterRefused : succeeded final 1 = false := by
    decide +kernel
  exact ⟨firstRedeemed, laterRefused,
    redeemed_once reaches rfl rfl firstRedeemed firstRedeemed⟩

/-- Two requests that both read the token before either marks it. -/
def bothReadFirst : List (Nat × Choice) :=
  List.replicate 2 (0, moment 1) ++ List.replicate 2 (1, moment 2) ++
    List.replicate 5 (0, moment 1) ++ List.replicate 5 (1, moment 2)

/-- Both of them redeem it. -/
theorem refreshToken_redeemed_twice :
    ¬ ∀ (backend : Backend) (env : Environment) (state : State)
        (requests : Nat → Request) (final : Serving) (token : String)
        (first later : Nat),
      Configuration.Reaches (execute backend) Configuration.anyStep
        (serving env state requests) final →
      requests first = .refresh (some token) →
      requests later = .refresh (some token) →
      succeeded final first = true →
      succeeded final later = true →
      first = later := by
  intro once
  have same :=
    once .memory plainEnvironment oneSession (fun _ => .refresh (some "t"))
      _ "t" 0 1 (Configuration.Reaches.of_follow bothReadFirst _) rfl rfl
      (by decide +kernel) (by decide +kernel)
  cases same

/-!
## A revocation is final
-/

/-- A call that revokes the refresh tokens of an account. -/
def Operation.revokes (userID : String) : Operation → Bool
  | .deleteRefreshTokensForUser id => id = userID
  | .deleteAccount id => id = userID
  | _ => false

/-- A revoking call that took effect. -/
def revoked (userID : String) : Exchange calls → Bool
  | ⟨.deleteRefreshTokensForUser id, .ok _⟩ => id = userID
  | ⟨.deleteAccount id, .ok _⟩ => id = userID
  | _ => false

/--
The exchange with which a request authenticates for an account: it reads its
refresh token, or the account whose verifier it then matches.
-/
def authenticates
    (env : Environment)
    (userID : String) :
    Request → Exchange calls → Bool
  | .refresh _, ⟨.getRefreshToken _, .ok rt⟩ => rt.userID = userID
  | .login (some req), ⟨.getUserByIdentifierHash _, .ok u⟩ =>
      u.id = userID &&
        env.verifyVerifier u.masterPasswordVerifier req.masterPasswordHash =
          some true
  | .webAuthnLoginFinish (some req), ⟨.getUserByIdentifierHash _, .ok u⟩ =>
      u.id = userID &&
        env.verifyVerifier u.masterPasswordVerifier req.masterPasswordHash =
          some true
  | .recoveryComplete (some req), ⟨.getUserByIdentifierHash _, .ok u⟩ =>
      u.id = userID && u.recoveryVerifier ≠ "" &&
        env.verifyVerifier u.recoveryVerifier req.recoveryAuthHash = some true
  | _, _ => false

/-- A process of a pool has authenticated for an account. -/
def authenticated
    (env : Environment)
    (requests : Nat → Request)
    (userID : String)
    (trace : Trace calls)
    (process : Nat) :
    Bool :=
  (trace.ofProcess process).any (authenticates env userID (requests process))

/-- The creation of the refresh token with a hash. -/
def created (tokenHash : String) : Exchange calls → Bool
  | ⟨.createRefreshToken rt, .ok _⟩ => rt.tokenHash = tokenHash
  | _ => false

/-- The process that last created the refresh token with a hash. -/
def issuer (trace : Trace calls) (tokenHash : String) : Option Nat :=
  (trace.reverse.find? fun event => created tokenHash event.exchange).map
    fun event => event.process

/--
After every revocation of the tokens of an account, each live token of it was
issued by a request that had not authenticated before that revocation, or by
the revoking request itself.
-/
def RevocationsFinal
    (env : Environment)
    (requests : Nat → Request)
    (userID : String)
    (configuration : Serving) :
    Prop :=
  ∀ index revocation,
    configuration.trace[index]? = some revocation →
    revoked userID revocation.exchange = true →
    ∀ rt ∈ configuration.state.store.refresh.rows,
      rt.userID = userID →
      rt.used = false →
      ∃ process,
        issuer configuration.trace rt.tokenHash = some process ∧
          (process = revocation.process ∨
            authenticated env requests userID
              (configuration.trace.take index) process = false)

/-- A call that creates a refresh token for an account. -/
def CreatesFor (userID : String) (operation : Operation) : Prop :=
  ∃ rt, operation = .createRefreshToken rt ∧ rt.userID = userID

/--
When a request revokes the tokens of an account, no other request that has
authenticated for it can still create one.
-/
def revokesUnrivalled
    (env : Environment)
    (requests : Nat → Request)
    (userID : String) :
    Serving → Nat → Choice → Prop :=
  beforeCall fun configuration process _ operation =>
    operation.revokes userID = true →
      ∀ other, other ≠ process →
        authenticated env requests userID configuration.trace other = true →
          ¬ Program.MayPerform (CreatesFor userID) (configuration.pool other)

/-- What a run keeps for every revocation of its past. -/
structure Revoked
    (env : Environment)
    (requests : Nat → Request)
    (userID : String)
    (configuration : Serving)
    (before : Trace calls)
    (revocation : Event calls) :
    Prop where
  silenced :
    ∀ other, other ≠ revocation.process →
      authenticated env requests userID before other = true →
        ¬ Program.MayPerform (CreatesFor userID) (configuration.pool other)
  reissued :
    ∀ rt ∈ configuration.state.store.refresh.rows,
      rt.userID = userID →
        ∃ process,
          issuer configuration.trace rt.tokenHash = some process ∧
            (process = revocation.process ∨
              authenticated env requests userID before process = false)

/-- The newest creation decides who issued a token. -/
theorem issuer_concat
    (trace : Trace calls)
    (event : Event calls)
    (tokenHash : String) :
    issuer (trace ++ [event]) tokenHash =
      if created tokenHash event.exchange then
        some event.process
      else
        issuer trace tokenHash := by
  by_cases isCreation : created tokenHash event.exchange = true
  · simp [issuer, isCreation]
  · simp [issuer, isCreation]

/-- A successful revocation is a revoking call, which leaves no token. -/
theorem no_token_of_revoked
    {backend : Backend}
    {choice : Choice}
    {state : State}
    {operation : Operation}
    {userID : String}
    (isRevoked : revoked userID (exchanged backend choice state operation) = true) :
    operation.revokes userID = true ∧
      ∀ rt ∈ (execute backend choice state operation).2.store.refresh.rows,
        rt.userID ≠ userID := by
  cases operation with
  | deleteRefreshTokensForUser id =>
      rcases @deleteRefreshTokensForUser_ends backend choice state id with
        ⟨e, failed⟩ | ⟨after, done, written⟩
      · rw [exchanged, failed] at isRevoked
        cases isRevoked
      · rw [exchanged, done] at isRevoked
        refine ⟨isRevoked, ?_⟩
        intro rt member isOwner
        rw [done] at member
        simp only [written, Table.delete, List.mem_filter] at member
        simp [of_decide_eq_true isRevoked, isOwner] at member
  | deleteAccount id =>
      rcases @deleteAccount_ends backend choice state id with
        ⟨e, failed⟩ | ⟨after, done, -, written⟩
      · rw [exchanged, failed] at isRevoked
        cases isRevoked
      · rw [exchanged, done] at isRevoked
        refine ⟨isRevoked, ?_⟩
        intro rt member isOwner
        rw [done] at member
        simp only [written, Table.delete, List.mem_filter] at member
        simp [of_decide_eq_true isRevoked, isOwner] at member
  | _ =>
      cases isRevoked

/-- A creation is a successful call with a token of that hash. -/
theorem exists_of_created
    {tokenHash : String}
    {exchange : Exchange calls}
    (isCreation : created tokenHash exchange = true) :
    ∃ rt,
      exchange = answered (.createRefreshToken rt) (.ok ()) ∧
        rt.tokenHash = tokenHash := by
  unfold created at isCreation
  split at isCreation
  · exact ⟨_, rfl, of_decide_eq_true isCreation⟩
  · cases isCreation

section Revocation

variable {backend : Backend} {env : Environment} {state : State}
  {requests : Nat → Request} {userID : String} {final : Serving}

/-- One call keeps what a run keeps for an earlier revocation. -/
theorem Revoked.step
    {configuration : Serving}
    {process : Nat}
    {operation : Operation}
    {next : Answer operation → Handler Response}
    {choice : Choice}
    {before : Trace calls}
    {revocation : Event calls}
    (shape : configuration.pool process = .perform operation next)
    (kept : Revoked env requests userID configuration before revocation) :
    Revoked env requests userID
      (configuration.answered process
        (exchanged backend choice configuration.state operation) next
        (execute backend choice configuration.state operation).2)
      before revocation := by
  constructor
  · intro other notRevoking wasAuthenticated
    have silent := kept.silenced other notRevoking wasAuthenticated
    by_cases isMoving : other = process
    · subst other
      rw [shape] at silent
      simp only [Configuration.answered, Function.update_self]
      intro may
      exact silent (Program.mayPerform_of_next may)
    · simpa only [Configuration.answered, Function.update_of_ne isMoving]
        using silent
  · intro rt member isOwner
    simp only [Configuration.answered, issuer_concat] at member ⊢
    rcases refresh_row_cases (Table.find?_of_mem member) with
      ⟨newest, isCreate, sameHash, rfl⟩ | ⟨notCreate, old, wasFound, sameOwner, -⟩
    · have isCreation :
          created (backend.tokenRow newest).tokenHash
            (exchanged backend choice configuration.state operation) =
              true := by
        rw [isCreate, Backend.tokenRow_tokenHash]
        exact decide_eq_true rfl
      rw [if_pos isCreation]
      refine ⟨process, rfl, ?_⟩
      by_cases isRevoking : process = revocation.process
      · exact Or.inl isRevoking
      · right
        by_contra wasAuthenticated
        have silent :=
          kept.silenced process isRevoking (by simpa using wasAuthenticated)
        obtain rfl := Exchange.operation_eq isCreate
        rw [shape] at silent
        apply silent
        exact Or.inl ⟨newest, rfl, by simpa using isOwner⟩
    · have isOther :
          ¬ created rt.tokenHash
              (exchanged backend choice configuration.state operation) =
            true := by
        intro isCreation
        obtain ⟨newest, isCreate, sameHash⟩ := exists_of_created isCreation
        exact notCreate newest isCreate sameHash
      rw [if_neg isOther]
      have sameHash := Table.key_of_find? wasFound
      have issued :=
        kept.reissued old (Table.mem_of_find? wasFound)
          (sameOwner.symm.trans isOwner)
      rwa [sameHash] at issued

/-- A revocation establishes what the run keeps from then on. -/
theorem revoked_start
    {configuration : Serving}
    {process : Nat}
    {operation : Operation}
    {next : Answer operation → Handler Response}
    {choice : Choice}
    (shape : configuration.pool process = .perform operation next)
    (permitted :
      revokesUnrivalled env requests userID configuration process choice)
    (isRevoked :
      revoked userID
        (exchanged backend choice configuration.state operation) = true) :
    Revoked env requests userID
      (configuration.answered process
        (exchanged backend choice configuration.state operation) next
        (execute backend choice configuration.state operation).2)
      configuration.trace
      ⟨process, exchanged backend choice configuration.state operation⟩ := by
  obtain ⟨revokes, noToken⟩ := no_token_of_revoked isRevoked
  constructor
  · intro other notRevoking wasAuthenticated
    simp only [Configuration.answered, Function.update_of_ne notRevoking]
    exact beforeCall_of_perform permitted shape revokes other notRevoking
      wasAuthenticated
  · intro rt member isOwner
    exact absurd isOwner (noToken rt member)

/-- In every run of unrivalled revocations, each of them is kept. -/
theorem revoked_of_reaches
    (reaches :
      Configuration.Reaches (execute backend)
        (revokesUnrivalled env requests userID)
        (serving env state requests) final) :
    ∀ index revocation,
      final.trace[index]? = some revocation →
      revoked userID revocation.exchange = true →
      Revoked env requests userID final (final.trace.take index)
        revocation := by
  refine reaches.invariant
    (fun configuration =>
      ∀ index revocation,
        configuration.trace[index]? = some revocation →
        revoked userID revocation.exchange = true →
        Revoked env requests userID configuration
          (configuration.trace.take index) revocation) ?_ ?_
  · intro index revocation found
    cases found
  · intro configuration process operation next choice _ kept shape permitted
      index revocation found isRevoked
    rcases Trace.getElem?_concat found with ⟨old, sameBefore⟩ | ⟨rfl, sameBefore⟩
    · simp only [Configuration.answered] at sameBefore ⊢
      rw [sameBefore]
      exact Revoked.step shape (kept index revocation old isRevoked)
    · simp only [Configuration.answered] at sameBefore ⊢
      rw [sameBefore]
      exact revoked_start shape permitted isRevoked

/--
However the requests of a pool interleave, every revocation is final as long as
no other authenticated request could still create a token when it took effect.
-/
theorem revocationsFinal_of_unrivalled
    (reaches :
      Configuration.Reaches (execute backend)
        (revokesUnrivalled env requests userID)
        (serving env state requests) final) :
    RevocationsFinal env requests userID final := by
  intro index revocation found isRevoked rt member isOwner _
  exact (revoked_of_reaches reaches index revocation found isRevoked).reissued
    rt member isOwner

end Revocation

/-- A revocation is unrivalled when the other requests are finished. -/
theorem revokesUnrivalled_of_finished
    {env : Environment}
    {requests : Nat → Request}
    {userID : String}
    {configuration : Serving}
    {process : Nat}
    {choice : Choice}
    (finished :
      ((configuration.pool process).operation?.all fun operation =>
          !operation.revokes userID) = true ∨
        (configuration.trace.all fun event =>
          event.process = process ||
            (configuration.pool event.process).outcome?.isSome) = true) :
    revokesUnrivalled env requests userID configuration process choice := by
  intro operation isNext revokes other isOther wasAuthenticated may
  rcases finished with quiet | finished
  · have quietNext := (Option.all_eq_true _ _).mp quiet operation isNext
    rw [revokes] at quietNext
    cases quietNext
  · obtain ⟨exchange, member, -⟩ := List.any_eq_true.mp wasAuthenticated
    have isFinished :=
      List.all_eq_true.mp finished _ (Trace.mem_ofProcess.mp member)
    rw [decide_eq_false isOther, Bool.false_or] at isFinished
    obtain ⟨value, isDone⟩ := Option.isSome_iff_exists.mp isFinished
    rw [Program.eq_done_of_outcome? isDone] at may
    exact Program.mayPerform_done may

/-- A refresh request of one account beside requests that revoke its sessions. -/
def refreshAndLogout (process : Nat) : Request :=
  if process = 0 then .refresh (some "t") else .logoutAll "u"

/-- A refresh request that is finished before the sessions are revoked. -/
def revokedAfterwards : List (Nat × Choice) :=
  List.replicate 7 (0, moment 1) ++ List.replicate 4 (1, moment 2)

/-- The sessions are revoked while no other request is in flight. -/
theorem revokedAfterwards_final :
    RevocationsFinal plainEnvironment refreshAndLogout "u"
      ((serving plainEnvironment oneSession refreshAndLogout).follow
        (execute .memory) revokedAfterwards) := by
  apply revocationsFinal_of_unrivalled
  apply Configuration.Reaches.of_follow_allowed
  intro index inRange
  apply revokesUnrivalled_of_finished
  revert index
  decide +kernel

/-- The refresh request has read its token when the sessions are revoked. -/
def revokedBetween : List (Nat × Choice) :=
  List.replicate 2 (0, moment 1) ++ List.replicate 4 (1, moment 2) ++
    List.replicate 5 (0, moment 1)

/-- A session outlives the revocation of all sessions. -/
theorem refresh_survives_logoutAll :
    ¬ ∀ (backend : Backend) (env : Environment) (state : State)
        (requests : Nat → Request) (userID : String) (final : Serving),
      Configuration.Reaches (execute backend) Configuration.anyStep
        (serving env state requests) final →
      quiescent final = true →
      RevocationsFinal env requests userID final := by
  intro revocationsFinal
  have isFinal :=
    revocationsFinal .memory plainEnvironment oneSession refreshAndLogout "u"
      _ (Configuration.Reaches.of_follow revokedBetween _)
      (by decide +kernel)
  generalize reached :
    (serving plainEnvironment oneSession refreshAndLogout).follow
      (execute .memory) revokedBetween = final at isFinal
  have isRevoked :
      (final.trace[2]?.any fun event =>
        event.process = 1 && revoked "u" event.exchange) = true := by
    rw [← reached]
    decide +kernel
  have isLive :
      (final.state.store.refresh.rows.any fun rt =>
        rt.userID = "u" && !rt.used &&
          issuer final.trace rt.tokenHash = some 0) = true := by
    rw [← reached]
    decide +kernel
  have wasAuthenticated :
      authenticated plainEnvironment refreshAndLogout "u"
        (final.trace.take 2) 0 = true := by
    rw [← reached]
    decide +kernel
  obtain ⟨revocation, found, isRevoked⟩ :=
    (Option.any_eq_true _ _).mp isRevoked
  obtain ⟨rt, member, isLive⟩ := List.any_eq_true.mp isLive
  simp only [Bool.and_eq_true, decide_eq_true_eq, Bool.not_eq_true'] at isRevoked isLive
  obtain ⟨process, issued, isRevoking | isLate⟩ :=
    isFinal 2 revocation found isRevoked.2 rt member isLive.1.1 isLive.1.2
  · rw [isLive.2, isRevoking, isRevoked.1] at issued
    cases issued
  · rw [isLive.2] at issued
    cases issued
    rw [wasAuthenticated] at isLate
    cases isLate

end Passwd.Server
