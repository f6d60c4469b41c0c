import Passwd.StoreMirror
import Passwd.ServerTransitions

namespace Passwd.Server

open Base64 Interaction

/-!
# The implementations of the store agree

Run side by side, the three implementations answer every call of a sequence
alike as long as no call meets one of their differences.  `Agreeable` says call
by call what these are.
-/

/-!
## The same answer
-/

/-- Two results of one error class, or with related values. -/
def SameResult {α : Type} (related : α → α → Prop) :
    Except StoreError α → Except StoreError α → Prop
  | .ok first, .ok second => related first second
  | .error first, .error second => first = second
  | _, _ => False

/-- Two lists with the same rows, to the second and in the same order. -/
def SameList {Row : Type} (toSeconds : Row → Row) (first second : List Row) :
    Prop :=
  first.map toSeconds = second.map toSeconds

/-- Two lists with the same rows, to the second and in any order. -/
def SameRows {Row : Type} (toSeconds : Row → Row) (first second : List Row) :
    Prop :=
  (first.map toSeconds).Perm (second.map toSeconds)

/--
Two implementations answer a call alike.  Tokens, events and shares are
documented to be listed newest first; the other lists have no documented order.
-/
def SameAnswer :
    (operation : Operation) → Answer operation → Answer operation → Prop
  | .getUserByIdentifierHash _ =>
      SameResult fun first second => first.toSeconds = second.toSeconds
  | .getUserByID _ =>
      SameResult fun first second => first.toSeconds = second.toSeconds
  | .listWebAuthnCredentials _ =>
      SameResult (SameRows WebAuthnCredential.toSeconds)
  | .listCiphers _ => SameResult (SameRows Cipher.toSeconds)
  | .getRefreshToken _ =>
      SameResult fun first second => first.toSeconds = second.toSeconds
  | .listRefreshTokensForUser _ => SameResult (SameList RefreshToken.toSeconds)
  | .listAuditEvents _ _ => SameResult (SameList AuditEvent.toSeconds)
  | .listSharesForRecipient _ => SameResult (SameList Share.toSeconds)
  | _ => Eq

/-- Two implementations answer every call of a sequence alike. -/
def Agree (first second : Backend) :
    State → State → List (Choice × Operation) → Prop
  | _, _, [] => True
  | firstState, secondState, (choice, operation) :: rest =>
      SameAnswer operation
          (execute first choice firstState operation).1
          (execute second choice secondState operation).1 ∧
        Agree first second (execute first choice firstState operation).2
          (execute second choice secondState operation).2 rest

/-!
## When the implementations agree
-/

/--
What handlers rely on when they create rows: ids and hashes are new, a new
account has no code counter and a new token is unused.
-/
def Issued (store : Store) : Operation → Prop
  | .createUser u =>
      store.users.find? u.id = none ∧ u.totpLastCounter = 0
  | .createWebAuthnCredential c => store.passkeys.find? c.id = none
  | .createRefreshToken rt =>
      store.refresh.find? rt.tokenHash = none ∧ rt.used = false
  | .appendAuditEvent e => ∀ existing ∈ store.audit, existing.id ≠ e.id
  | _ => True

/-- The tokens that the in-memory store lists, in the order of their rows. -/
def Store.liveTokens (store : Store) (now : Time) (userID : String) :
    List RefreshToken :=
  store.refresh.rows.filter fun rt =>
    rt.userID = userID && !rt.used && decide (now < rt.expiresAt)

/-- Appended in the order in which the databases list events, backwards. -/
def AppendedInOrder (events : List AuditEvent) : Prop :=
  events.Pairwise fun older newer =>
    unix older.createdAt < unix newer.createdAt ∨
      (unix older.createdAt = unix newer.createdAt ∧ older.id < newer.id)

/--
A call that the implementations answer alike: key derivation parameters fit the
columns of Postgres; changing the recovery of an account happens in the second of
its last update; a cipher that is updated was created in the second that the call
names; listed tokens were created in different seconds and none expires in this
second; and events were appended, and shares of one second created, in the order
in which the databases list them.
-/
def Agreeable (now : Time) (store : Store) : Operation → Prop
  | .createUser u => Backend.postgres.takesKDF u.kdf = true
  | .rotateMasterPassword _ _ _ kdf => Backend.postgres.takesKDF kdf = true
  | .setUserRecovery userID _ _ =>
      ∀ u ∈ store.users.rows, u.id = userID → unix u.updatedAt = unix now
  | .clearUserRecovery userID =>
      ∀ u ∈ store.users.rows, u.id = userID → unix u.updatedAt = unix now
  | .updateCipher c =>
      ∀ existing ∈ store.ciphers.rows,
        existing.id = c.id → existing.userID = c.userID →
          unix existing.createdAt = unix c.createdAt
  | .listRefreshTokensForUser userID =>
      (∀ rt ∈ store.liveTokens now userID, unix now < unix rt.expiresAt) ∧
        ∀ first ∈ store.liveTokens now userID,
          ∀ later ∈ store.liveTokens now userID,
            unix first.createdAt = unix later.createdAt → first = later
  | .listAuditEvents userID _ =>
      AppendedInOrder (store.audit.filter fun e => e.userID = userID)
  | .listSharesForRecipient recipientUserID =>
      ∀ first ∈ store.shares.rows, first.recipientUserID = recipientUserID →
        ∀ later ∈ store.shares.rows, later.recipientUserID = recipientUserID →
          unix first.createdAt = unix later.createdAt →
            (first.createdAt ≤ later.createdAt ↔ first.id ≤ later.id)
  | _ => True

/-- What holds of every call of a sequence, on the in-memory store. -/
def Throughout (condition : Time → Store → Operation → Prop) :
    State → List (Choice × Operation) → Prop
  | _, [] => True
  | state, (choice, operation) :: rest =>
      condition choice.now state.store operation ∧
        Throughout condition (execute .memory choice state operation).2 rest

section Calls

variable {backend : Backend} {store : Store}

/-!
## Reading
-/

/-- Looking an account up by its identifier changes nothing. -/
theorem Store.getUserByIdentifierHash_snd
    (store : Store)
    (identifierHash : String) :
    (store.getUserByIdentifierHash identifierHash).2 = store := by
  unfold Store.getUserByIdentifierHash
  split
  · rfl
  · rfl

/-- Looking an account up by its id changes nothing. -/
theorem Store.getUserByID_snd (store : Store) (id : String) :
    (store.getUserByID id).2 = store := by
  unfold Store.getUserByID
  split
  · rfl
  · rfl

/-- Looking a refresh token up changes nothing. -/
theorem Store.getRefreshToken_snd (store : Store) (tokenHash : String) :
    (store.getRefreshToken tokenHash).2 = store := by
  unfold Store.getRefreshToken
  split
  · rfl
  · rfl

/-- Looking an account up by its identifier. -/
theorem getUserByIdentifierHash_toSeconds (identifierHash : String) :
    SameResult (fun first second => first.toSeconds = second.toSeconds)
      (store.getUserByIdentifierHash identifierHash).1
      (store.toSeconds.getUserByIdentifierHash identifierHash).1 := by
  have found :
      (store.toSeconds.users.rows.find? fun u =>
          u.identifierHash = identifierHash) =
        (store.users.rows.find? fun u =>
          u.identifierHash = identifierHash).map User.toSeconds :=
    List.find?_map
  unfold Store.getUserByIdentifierHash
  rw [found]
  cases store.users.rows.find? fun u => u.identifierHash = identifierHash with
  | none => rfl
  | some u =>
      simp only [Option.map_some, SameResult, User.toSeconds,
        toSecond_toSecond]

/-- Looking an account up by its id. -/
theorem getUserByID_toSeconds (id : String) :
    SameResult (fun first second => first.toSeconds = second.toSeconds)
      (store.getUserByID id).1 (store.toSeconds.getUserByID id).1 := by
  unfold Store.getUserByID
  rw [find?_users_toSeconds]
  cases store.users.find? id with
  | none => rfl
  | some u =>
      simp only [Option.map_some, SameResult, User.toSeconds,
        toSecond_toSecond]

/-- Looking a refresh token up. -/
theorem getRefreshToken_toSeconds (tokenHash : String) :
    SameResult (fun first second => first.toSeconds = second.toSeconds)
      (store.getRefreshToken tokenHash).1
      (store.toSeconds.getRefreshToken tokenHash).1 := by
  unfold Store.getRefreshToken
  rw [find?_refresh_toSeconds]
  cases store.refresh.find? tokenHash with
  | none => rfl
  | some rt =>
      simp only [Option.map_some, SameResult, RefreshToken.toSeconds,
        toSecond_toSecond]

/-- Rows that are kept to the second and sorted anew are the same rows. -/
theorem sameRows_mergeSort
    {Row : Type}
    {toSeconds : Row → Row}
    (again : ∀ row, toSeconds (toSeconds row) = toSeconds row)
    (rows : List Row)
    (ordered other : Row → Row → Bool) :
    SameRows toSeconds (rows.mergeSort ordered)
      ((rows.map toSeconds).mergeSort other) := by
  have forms :
      (rows.map toSeconds).map toSeconds = rows.map toSeconds := by
    rw [List.map_map]
    exact List.map_congr_left fun row _ => again row
  have second := (List.mergeSort_perm (rows.map toSeconds) other).map toSeconds
  rw [forms] at second
  exact ((List.mergeSort_perm rows ordered).map toSeconds).trans second.symm

/-- Rows that both stores order alike are listed alike. -/
theorem sameList_mergeSort
    {Row : Type}
    {toSeconds : Row → Row}
    (again : ∀ row, toSeconds (toSeconds row) = toSeconds row)
    {rows : List Row}
    {ordered other : Row → Row → Bool}
    (alike :
      ∀ first ∈ rows, ∀ later ∈ rows,
        ordered first later = other (toSeconds first) (toSeconds later)) :
    SameList toSeconds (rows.mergeSort ordered)
      ((rows.map toSeconds).mergeSort other) := by
  rw [SameList, ← List.map_mergeSort alike, List.map_map]
  exact List.map_congr_left fun row _ => (again row).symm

/-- An account's ciphers. -/
theorem listCiphers_toSeconds (userID : String) :
    SameResult (SameRows Cipher.toSeconds) (store.listCiphers userID).1
      (store.toSeconds.listCiphers userID).1 := by
  have rows :
      (store.toSeconds.ciphers.rows.filter fun c => c.userID = userID) =
        (store.ciphers.rows.filter fun c => c.userID = userID).map
          Cipher.toSeconds :=
    List.filter_map
  unfold Store.listCiphers
  rw [rows]
  apply sameRows_mergeSort
  intro c
  simp only [Cipher.toSeconds, toSecond_toSecond]

/-- The rows of an account's passkeys. -/
theorem passkeys_toSeconds (userID : String) :
    (store.toSeconds.passkeys.rows.filter fun c => c.userID = userID) =
      (store.passkeys.rows.filter fun c => c.userID = userID).map
        WebAuthnCredential.toSeconds :=
  List.filter_map

/-- An account's passkeys. -/
theorem listWebAuthnCredentials_toSeconds (userID : String) :
    SameResult (SameRows WebAuthnCredential.toSeconds)
      (store.listWebAuthnCredentials userID).1
      (store.toSeconds.listWebAuthnCredentials userID).1 := by
  unfold Store.listWebAuthnCredentials
  rw [passkeys_toSeconds]
  apply sameRows_mergeSort
  intro c
  simp only [WebAuthnCredential.toSeconds, toSecond_toSecond]

/-- How many passkeys an account has. -/
theorem countWebAuthnCredentials_toSeconds (userID : String) :
    (store.countWebAuthnCredentials userID).1 =
      (store.toSeconds.countWebAuthnCredentials userID).1 := by
  unfold Store.countWebAuthnCredentials
  rw [passkeys_toSeconds, List.length_map]

/-- An account's live tokens. -/
theorem listRefreshTokensForUser_toSeconds
    (sql : backend.isSql = true)
    {now : Time}
    {userID : String}
    (agreeable : Agreeable now store (.listRefreshTokensForUser userID)) :
    SameResult (SameList RefreshToken.toSeconds)
      (store.listRefreshTokensForUser .memory now userID).1
      (store.toSeconds.listRefreshTokensForUser backend now userID).1 := by
  have listed :
      (store.toSeconds.refresh.rows.filter fun rt =>
          rt.userID = userID && !rt.used &&
            decide (unix now < unix rt.expiresAt)) =
        (store.liveTokens now userID).map RefreshToken.toSeconds := by
    refine Table.filter_image RefreshToken.tokenHash_toSeconds _ _ ?_
    intro rt member
    rw [Bool.eq_iff_iff]
    simp only [Bool.and_eq_true, decide_eq_true_iff]
    simp only [RefreshToken.toSeconds, unix_toSecond]
    refine and_congr_right fun isUser => ⟨lt_of_unix_lt, fun live => ?_⟩
    apply agreeable.1 rt
    refine List.mem_filter.mpr ⟨member, ?_⟩
    simp only [isUser, live, Bool.and_true, decide_true]
  have alike :
      ∀ first ∈ store.liveTokens now userID,
        ∀ later ∈ store.liveTokens now userID,
          decide (later.createdAt ≤ first.createdAt) =
            decide (later.toSeconds.createdAt ≤ first.toSeconds.createdAt) := by
    intro first isFirst later isLater
    rw [Bool.eq_iff_iff, decide_eq_true_iff, decide_eq_true_iff]
    simp only [RefreshToken.toSeconds]
    rw [toSecond_le_iff]
    by_cases second : unix first.createdAt = unix later.createdAt
    · rw [agreeable.2 first isFirst later isLater second]
      exact iff_of_true (Int.le_refl _) (Int.le_refl _)
    · exact unix_le_iff fun same => second same.symm
  simp only [Store.listRefreshTokensForUser, sql, ↓reduceIte, listed]
  apply sameList_mergeSort
  · intro rt
    simp only [RefreshToken.toSeconds, toSecond_toSecond]
  · exact alike

/-- The recipient's shares. -/
theorem listSharesForRecipient_toSeconds
    (sql : backend.isSql = true)
    {now : Time}
    {userID : String}
    (agreeable : Agreeable now store (.listSharesForRecipient userID)) :
    SameResult (SameList Share.toSeconds)
      (store.listSharesForRecipient .memory userID).1
      (store.toSeconds.listSharesForRecipient backend userID).1 := by
  have inMemory : Backend.memory.isSql = false := rfl
  have listed :
      (store.toSeconds.shares.rows.filter fun sh =>
          sh.recipientUserID = userID) =
        (store.shares.rows.filter fun sh => sh.recipientUserID = userID).map
          Share.toSeconds :=
    List.filter_map
  simp only [Store.listSharesForRecipient, sql, inMemory, listed,
    Bool.not_true, Bool.not_false, Bool.or_false, Bool.or_true]
  apply sameList_mergeSort
  · intro sh
    simp only [Share.toSeconds, toSecond_toSecond]
  · intro first isFirst later isLater
    obtain ⟨firstRow, firstRecipient⟩ := List.mem_filter.mp isFirst
    obtain ⟨laterRow, laterRecipient⟩ := List.mem_filter.mp isLater
    have sameOrder :=
      agreeable later laterRow (of_decide_eq_true laterRecipient) first
        firstRow (of_decide_eq_true firstRecipient)
    rw [Bool.eq_iff_iff]
    simp only [Bool.or_eq_true, Bool.and_eq_true, decide_eq_true_iff,
      and_true]
    simp only [Share.toSeconds, toSecond_eq_iff, toSecond_lt_iff]
    by_cases second : unix later.createdAt = unix first.createdAt
    · rw [← Int.le_iff_lt_or_eq, sameOrder second]
      simp only [second, Int.lt_irrefl, false_or, true_and]
    · rw [← Int.le_iff_lt_or_eq, unix_le_iff second]
      simp only [second, false_and, or_false]
      exact Int.le_iff_lt_or_eq.trans (or_iff_left second)

/-- Whether the databases list one event of the in-memory store before another. -/
theorem listedBefore_toSeconds (first later : AuditEvent) :
    Store.listedBefore first.toSeconds later.toSeconds = true ↔
      unix later.createdAt < unix first.createdAt ∨
        (unix later.createdAt = unix first.createdAt ∧ later.id ≤ first.id) := by
  simp only [Store.listedBefore, Bool.or_eq_true, Bool.and_eq_true,
    decide_eq_true_iff]
  simp only [AuditEvent.toSeconds, toSecond_eq_iff, toSecond_lt_iff]

/-- The order in which the databases list events is transitive. -/
theorem listedBefore_trans
    (first second third : AuditEvent)
    (before : Store.listedBefore first second = true)
    (after : Store.listedBefore second third = true) :
    Store.listedBefore first third = true := by
  simp only [Store.listedBefore, Bool.or_eq_true, Bool.and_eq_true,
    decide_eq_true_iff] at before after ⊢
  rcases before with newer | ⟨sameTime, ordered⟩
  · rcases after with newerStill | ⟨sameTime, _⟩
    · exact Or.inl (Int.lt_trans newerStill newer)
    · exact Or.inl (sameTime ▸ newer)
  · rcases after with newer | ⟨sameAgain, orderedAgain⟩
    · exact Or.inl (sameTime ▸ newer)
    · exact Or.inr
        ⟨sameAgain.trans sameTime, String.le_trans orderedAgain ordered⟩

/-- The order in which the databases list events compares any two. -/
theorem listedBefore_total (first second : AuditEvent) :
    (Store.listedBefore first second || Store.listedBefore second first) =
      true := by
  simp only [Store.listedBefore, Bool.or_eq_true, Bool.and_eq_true,
    decide_eq_true_iff]
  rcases Int.lt_trichotomy first.createdAt second.createdAt with
    older | same | newer
  · exact Or.inr (Or.inl older)
  · rcases String.le_total first.id second.id with ordered | ordered
    · exact Or.inr (Or.inr ⟨same, ordered⟩)
    · exact Or.inl (Or.inr ⟨same.symm, ordered⟩)
  · exact Or.inl (Or.inl newer)

/-- The later of two such events is listed first. -/
theorem AppendedInOrder.newestFirst
    {events : List AuditEvent}
    (appended : AppendedInOrder events) :
    (events.reverse.map AuditEvent.toSeconds).Pairwise fun first later =>
      Store.listedBefore first later = true := by
  rw [List.pairwise_map, List.pairwise_reverse]
  refine appended.imp fun {older newer} inOrder => ?_
  rw [listedBefore_toSeconds]
  rcases inOrder with earlier | ⟨sameTime, smaller⟩
  · exact Or.inl earlier
  · exact Or.inr ⟨sameTime, String.lt_asymm smaller⟩

/-- The earlier of two such events is not listed first. -/
theorem AppendedInOrder.notOldestFirst
    {events : List AuditEvent}
    (appended : AppendedInOrder events) :
    events.Pairwise fun older newer =>
      ¬ Store.listedBefore older.toSeconds newer.toSeconds = true := by
  refine appended.imp fun {older newer} inOrder => ?_
  rw [listedBefore_toSeconds, not_or, not_and]
  rcases inOrder with earlier | ⟨sameTime, smaller⟩
  · exact ⟨Int.lt_asymm earlier,
      fun sameTime => absurd earlier (sameTime ▸ Int.lt_irrefl _)⟩
  · exact ⟨sameTime ▸ Int.lt_irrefl _, fun _ ordered => ordered smaller⟩

/-- No such event is listed both before and after another one. -/
theorem AppendedInOrder.eq_of_listedBefore
    {events : List AuditEvent}
    (appended : AppendedInOrder events)
    {first later : AuditEvent}
    (isFirst : first ∈ events)
    (isLater : later ∈ events)
    (before : Store.listedBefore first.toSeconds later.toSeconds = true)
    (after : Store.listedBefore later.toSeconds first.toSeconds = true) :
    first = later := by
  have alike :=
    @List.Pairwise.forall_of_forall_of_flip _ events
      fun first later =>
        Store.listedBefore first.toSeconds later.toSeconds = true →
          Store.listedBefore later.toSeconds first.toSeconds = true →
            first = later
  refine alike ?_ ?_ ?_ isFirst isLater before after
  · intro e _ _ _
    rfl
  · exact appended.notOldestFirst.imp fun notBefore before _ =>
      absurd before notBefore
  · exact appended.notOldestFirst.imp fun notBefore _ before =>
      absurd before notBefore

/-- The databases list such events in the reverse order. -/
theorem AppendedInOrder.mergeSort_eq
    {events : List AuditEvent}
    (appended : AppendedInOrder events) :
    (events.map AuditEvent.toSeconds).mergeSort Store.listedBefore =
      events.reverse.map AuditEvent.toSeconds := by
  have permuted :
      ((events.map AuditEvent.toSeconds).mergeSort Store.listedBefore).Perm
        (events.reverse.map AuditEvent.toSeconds) :=
    (List.mergeSort_perm _ _).trans ((List.reverse_perm events).symm.map _)
  have ordered :=
    List.pairwise_mergeSort listedBefore_trans listedBefore_total
      (events.map AuditEvent.toSeconds)
  refine List.Perm.eq_of_pairwise ?_ ordered appended.newestFirst permuted
  intro first later isFirst isLater before after
  obtain ⟨e, isEvent, rfl⟩ := List.mem_map.mp (List.mem_mergeSort.mp isFirst)
  obtain ⟨other, isOther, rfl⟩ := List.mem_map.mp isLater
  rw [appended.eq_of_listedBefore isEvent (List.mem_reverse.mp isOther) before
    after]

/-- An account's events. -/
theorem listAuditEvents_toSeconds
    (sql : backend.isSql = true)
    {now : Time}
    {userID : String}
    {limit : Nat}
    (agreeable : Agreeable now store (.listAuditEvents userID limit)) :
    SameResult (SameList AuditEvent.toSeconds)
      (store.listAuditEvents .memory userID limit).1
      (store.toSeconds.listAuditEvents backend userID limit).1 := by
  have inMemory : ¬ Backend.memory.isSql = true := Bool.false_ne_true
  have listed :
      (store.toSeconds.audit.filter fun e => e.userID = userID) =
        (store.audit.filter fun e => e.userID = userID).map
          AuditEvent.toSeconds :=
    List.filter_map
  have appended :
      AppendedInOrder (store.audit.filter fun e => e.userID = userID) :=
    agreeable
  simp only [Store.listAuditEvents, sql, ↓reduceIte, inMemory, listed,
    SameResult, SameList, appended.mergeSort_eq]
  rw [← List.map_take, List.map_map]
  apply List.map_congr_left
  intro e _
  simp only [AuditEvent.toSeconds, Function.comp_apply, toSecond_toSecond]

/-!
## Every call
-/

/-- A call that writes, on either store. -/
theorem attempt_mirrors
    {choice : Choice}
    {state : State}
    {operation : Operation}
    {memory sql : Store.Outcome Unit}
    (mirrors : Mirrors memory sql) :
    (attempt choice state operation memory).1 =
        (attempt choice state.toSeconds operation sql).1 ∧
      (attempt choice state.toSeconds operation sql).2 =
        (attempt choice state operation memory).2.toSeconds := by
  rw [mirrors]
  unfold attempt
  split
  · exact ⟨rfl, rfl⟩
  · exact ⟨rfl, rfl⟩

/-- A call that reads, on either store. -/
theorem attempt_reads
    {α : Type}
    {choice : Choice}
    {state : State}
    {operation : Operation}
    {memory sql : Store.Outcome α}
    {related : Except StoreError α → Except StoreError α → Prop}
    (failsAlike : related (.error .failure) (.error .failure))
    (memoryReads : memory.2 = state.store)
    (sqlReads : sql.2 = state.store.toSeconds)
    (same : related memory.1 sql.1) :
    related (attempt choice state operation memory).1
        (attempt choice state.toSeconds operation sql).1 ∧
      (attempt choice state.toSeconds operation sql).2 =
        (attempt choice state operation memory).2.toSeconds := by
  unfold attempt
  rw [memoryReads, sqlReads]
  split
  · exact ⟨failsAlike, rfl⟩
  · exact ⟨same, rfl⟩

/-- A database answers a call as the in-memory store does, and stays in step. -/
theorem execute_toSeconds
    (sql : backend.isSql = true)
    {choice : Choice}
    {state : State}
    {operation : Operation}
    (issued : Issued state.store operation)
    (agreeable : Agreeable choice.now state.store operation) :
    SameAnswer operation (execute .memory choice state operation).1
        (execute backend choice state.toSeconds operation).1 ∧
      (execute backend choice state.toSeconds operation).2 =
        (execute .memory choice state operation).2.toSeconds := by
  cases operation with
  | createUser u =>
      exact attempt_mirrors
        (createUser_mirrors sql issued.1 issued.2 agreeable)
  | setUserTOTP userID secret enabled =>
      exact attempt_mirrors (setUserTOTP_mirrors userID secret enabled)
  | setUserTOTPCounter userID counter =>
      exact attempt_mirrors (setUserTOTPCounter_mirrors userID counter)
  | setUserRecovery userID key verifier =>
      exact attempt_mirrors
        (setUserRecovery_mirrors sql agreeable key verifier)
  | clearUserRecovery userID =>
      exact attempt_mirrors
        (setUserRecovery_mirrors sql agreeable "" "")
  | rotateMasterPassword userID verifier key kdf =>
      exact attempt_mirrors
        (rotateMasterPassword_mirrors sql agreeable userID verifier key)
  | deleteAccount userID =>
      exact attempt_mirrors (deleteAccount_mirrors userID)
  | createWebAuthnCredential c =>
      exact attempt_mirrors
        (createWebAuthnCredential_mirrors sql issued)
  | updateWebAuthnSignCount credentialID signCount =>
      exact attempt_mirrors
        (updateWebAuthnSignCount_mirrors sql choice.now credentialID signCount)
  | deleteWebAuthnCredential userID id =>
      exact attempt_mirrors
        (deleteWebAuthnCredential_mirrors userID id)
  | createCipher c =>
      exact attempt_mirrors (createCipher_mirrors sql c)
  | updateCipher c =>
      exact attempt_mirrors (updateCipher_mirrors sql agreeable)
  | deleteCipher userID id =>
      exact attempt_mirrors (deleteCipher_mirrors userID id)
  | createRefreshToken rt =>
      exact attempt_mirrors
        (createRefreshToken_mirrors sql issued.1 issued.2)
  | deleteRefreshToken tokenHash =>
      exact attempt_mirrors (deleteRefreshToken_mirrors tokenHash)
  | markRefreshTokenUsed tokenHash =>
      exact attempt_mirrors (markRefreshTokenUsed_mirrors tokenHash)
  | deleteRefreshTokensForUser userID =>
      exact attempt_mirrors (deleteRefreshTokensForUser_mirrors userID)
  | appendAuditEvent e =>
      exact attempt_mirrors (appendAuditEvent_mirrors sql issued)
  | createShare sh =>
      exact attempt_mirrors (createShare_mirrors sql sh)
  | deleteShare userID id =>
      exact attempt_mirrors (deleteShare_mirrors userID id)
  | getUserByIdentifierHash identifierHash =>
      exact attempt_reads rfl (Store.getUserByIdentifierHash_snd _ _)
        (Store.getUserByIdentifierHash_snd _ _) (getUserByIdentifierHash_toSeconds identifierHash)
  | getUserByID id =>
      exact attempt_reads rfl (Store.getUserByID_snd _ _)
        (Store.getUserByID_snd _ _) (getUserByID_toSeconds id)
  | listWebAuthnCredentials userID =>
      exact attempt_reads rfl rfl rfl (listWebAuthnCredentials_toSeconds userID)
  | countWebAuthnCredentials userID =>
      exact attempt_reads rfl rfl rfl (countWebAuthnCredentials_toSeconds userID)
  | listCiphers userID =>
      exact attempt_reads rfl rfl rfl (listCiphers_toSeconds userID)
  | getRefreshToken tokenHash =>
      exact attempt_reads rfl (Store.getRefreshToken_snd _ _)
        (Store.getRefreshToken_snd _ _) (getRefreshToken_toSeconds tokenHash)
  | listRefreshTokensForUser userID =>
      exact attempt_reads rfl rfl rfl
        (listRefreshTokensForUser_toSeconds sql agreeable)
  | listAuditEvents userID limit =>
      exact attempt_reads rfl rfl rfl (listAuditEvents_toSeconds sql agreeable)
  | listSharesForRecipient recipientUserID =>
      exact attempt_reads rfl rfl rfl
        (listSharesForRecipient_toSeconds sql agreeable)
  | locked key =>
      exact ⟨rfl, rfl⟩
  | recordFailure key =>
      exact ⟨rfl, rfl⟩
  | reset key =>
      exact ⟨rfl, rfl⟩
  | putChallenge handle userID data =>
      exact ⟨rfl, rfl⟩
  | takeChallenge handle =>
      exact ⟨rfl, rfl⟩
  | now =>
      exact ⟨rfl, rfl⟩
  | random count =>
      simp only [execute_random]
      split
      · exact ⟨rfl, rfl⟩
      · exact ⟨rfl, rfl⟩

end Calls

/-!
## Sequences of calls
-/

section Sequences

/-- Having the same image is an equivalence. -/
theorem sameImage_equivalence {α β : Type} (image : α → β) :
    Equivalence fun first second : α => image first = image second :=
  ⟨fun _ => rfl, Eq.symm, Eq.trans⟩

/-- Having the same rows is an equivalence. -/
theorem sameRows_equivalence {Row : Type} (toSeconds : Row → Row) :
    Equivalence (SameRows toSeconds) :=
  ⟨fun _ => List.Perm.refl _, List.Perm.symm, List.Perm.trans⟩

/-- Results are compared as their values are. -/
theorem sameResult_equivalence
    {α : Type}
    {related : α → α → Prop}
    (values : Equivalence related) :
    Equivalence (SameResult related) where
  refl
    | .ok value => values.refl value
    | .error _ => rfl
  symm {first second} same := by
    cases first with
    | ok _ =>
        cases second with
        | ok _ => exact values.symm same
        | error _ => exact same
    | error _ =>
        cases second with
        | ok _ => exact same
        | error _ => exact same.symm
  trans {first second third} same again := by
    cases first with
    | ok _ =>
        cases second with
        | ok _ =>
            cases third with
            | ok _ => exact values.trans same again
            | error _ => exact again
        | error _ => exact same.elim
    | error _ =>
        cases second with
        | ok _ => exact same.elim
        | error _ =>
            cases third with
            | ok _ => exact again
            | error _ => exact same.trans again

/-- Answering alike is an equivalence. -/
theorem sameAnswer_equivalence (operation : Operation) :
    Equivalence (SameAnswer operation) := by
  cases operation with
  | getUserByIdentifierHash _ =>
      exact sameResult_equivalence (sameImage_equivalence _)
  | getUserByID _ =>
      exact sameResult_equivalence (sameImage_equivalence _)
  | getRefreshToken _ =>
      exact sameResult_equivalence (sameImage_equivalence _)
  | listWebAuthnCredentials _ =>
      exact sameResult_equivalence (sameRows_equivalence _)
  | listCiphers _ =>
      exact sameResult_equivalence (sameRows_equivalence _)
  | listRefreshTokensForUser _ =>
      exact sameResult_equivalence (sameImage_equivalence _)
  | listAuditEvents _ _ =>
      exact sameResult_equivalence (sameImage_equivalence _)
  | listSharesForRecipient _ =>
      exact sameResult_equivalence (sameImage_equivalence _)
  | _ => exact eq_equivalence

/-- The state of an implementation that is in step with the in-memory store. -/
def State.keptBy (backend : Backend) (state : State) : State :=
  if backend.isSql then state.toSeconds else state

/-- Every implementation answers a call as the in-memory store does. -/
theorem execute_keptBy
    (backend : Backend)
    {choice : Choice}
    {state : State}
    {operation : Operation}
    (issued : Issued state.store operation)
    (agreeable : Agreeable choice.now state.store operation) :
    SameAnswer operation (execute .memory choice state operation).1
        (execute backend choice (state.keptBy backend) operation).1 ∧
      (execute backend choice (state.keptBy backend) operation).2 =
        (execute .memory choice state operation).2.keptBy backend := by
  cases backend with
  | memory => exact ⟨(sameAnswer_equivalence operation).refl _, rfl⟩
  | sqlite => exact execute_toSeconds rfl issued agreeable
  | postgres => exact execute_toSeconds rfl issued agreeable

/-- Implementations that are in step answer a sequence alike. -/
theorem agree_keptBy
    (first second : Backend)
    (steps : List (Choice × Operation))
    (state : State)
    (issued : Throughout (fun _ => Issued) state steps)
    (agreeable : Throughout Agreeable state steps) :
    Agree first second (state.keptBy first) (state.keptBy second) steps := by
  induction steps generalizing state with
  | nil =>
      trivial
  | cons step rest inductionHypothesis =>
      obtain ⟨choice, operation⟩ := step
      obtain ⟨firstAlike, firstState⟩ :=
        execute_keptBy first issued.1 agreeable.1
      obtain ⟨secondAlike, secondState⟩ :=
        execute_keptBy second issued.1 agreeable.1
      have alike :=
        (sameAnswer_equivalence operation).trans
          ((sameAnswer_equivalence operation).symm firstAlike) secondAlike
      refine ⟨alike, ?_⟩
      rw [firstState, secondState]
      exact inductionHypothesis _ issued.2 agreeable.2

/-- A call at a time, with nothing that fails. -/
def calledAt (now : Time) (operation : Operation) : Choice × Operation :=
  (⟨now, [], fun _ => false⟩, operation)

/-- An account that is registered half a second after noon. -/
def timedAccount : User where
  id := "u"
  identifierHash := "h"
  kdf := ⟨"argon2id", 3, 64, 4⟩
  masterPasswordVerifier := "v"
  protectedUserKey := "k"
  publicKey := ""
  protectedPrivateKey := ""
  recoveryProtectedUserKey := ""
  recoveryVerifier := ""
  totpSecret := ""
  totpEnabled := false
  totpLastCounter := 0
  createdAt := 43200500000000
  updatedAt := 43200500000000

/-- A cipher of that account, created at noon. -/
def timedCipher : Cipher where
  id := "c"
  userID := "u"
  data := "first"
  createdAt := 43200000000000
  updatedAt := 43200000000000

end Sequences

end Passwd.Server
