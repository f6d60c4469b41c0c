import Passwd.Transaction
import Passwd.UserIndex

namespace Passwd.Server

open Base64 Interaction

/-!
# Deleting an account

The in-memory store deletes an account from six maps and its index under one
lock.  The databases run six statements in a transaction with a deferred
rollback, and every one of them may fail.  Either way the account disappears
with everything that mentions it and nothing else, or nothing changes.
-/

/-!
## The transaction of the databases
-/

/-- The points at which the deletion in a database can fail. -/
inductive DeletionStep where
  | beginTx
  | ciphers
  | refreshTokens
  | webauthnCredentials
  | auditEvents
  | shares
  | users
  | rowsAffected
  | commit
deriving DecidableEq

/-- The error of a step, if it fails. -/
def stepResult (fails : DeletionStep → Bool) (step : DeletionStep) :
    Except StoreError Unit :=
  if fails step then .error .failure else .ok ()

/-- `tx.ExecContext` -/
def execContext
    (fails : DeletionStep → Bool)
    (step : DeletionStep)
    (change : Store → Store) :
    Statement Store StoreError :=
  fun tx => if fails step then (.error .failure, tx) else (.ok (), change tx)

/-- The deletion of the user, checked by `notFoundIfNoRows`. -/
def deleteUserRow (fails : DeletionStep → Bool) (userID : String) :
    Statement Store StoreError :=
  fun tx =>
    let after := { tx with users := tx.users.delete fun u => u.id = userID }
    if fails .users then
      (.error .failure, tx)
    else if fails .rowsAffected then
      (.error .failure, after)
    else if (tx.users.find? userID).isSome then
      (.ok (), after)
    else
      (.error .notFound, after)

/-- The statements of the transaction. -/
def deletions (fails : DeletionStep → Bool) (userID : String) :
    List (Statement Store StoreError) :=
  [execContext fails .ciphers fun tx =>
      { tx with ciphers := tx.ciphers.delete fun c => c.userID = userID },
    execContext fails .refreshTokens fun tx =>
      { tx with refresh := tx.refresh.delete fun rt => rt.userID = userID },
    execContext fails .webauthnCredentials fun tx =>
      { tx with passkeys := tx.passkeys.delete fun c => c.userID = userID },
    execContext fails .auditEvents fun tx =>
      { tx with audit := tx.audit.filter fun e => !(e.userID = userID) },
    execContext fails .shares fun tx =>
      { tx with
        shares := tx.shares.delete fun sh =>
          sh.ownerUserID = userID || sh.recipientUserID = userID },
    deleteUserRow fails userID]

namespace Sql

/-- `DeleteAccount` of SQLite and Postgres. -/
def deleteAccount
    (fails : DeletionStep → Bool)
    (db : Database Store)
    (userID : String) :
    Except StoreError Unit × Database Store :=
  db.transaction (stepResult fails .beginTx) (stepResult fails .commit)
    (deletions fails userID)

/-- The database after a call; calls but this one are single statements. -/
def execute
    (backend : Backend)
    (choice : Choice)
    (fails : DeletionStep → Bool)
    (db : Database Store) :
    Operation → Database Store
  | .deleteAccount userID => (deleteAccount fails db userID).2
  | operation =>
      { db with
        committed :=
          (Server.execute backend choice
            { State.empty with store := db.committed } operation).2.store }

/-- A database after any calls, any of which may have failed. -/
inductive Reachable (backend : Backend) : Database Store → Prop
  | empty : Reachable backend { committed := .empty, working := none }
  | step
      {db : Database Store}
      (reachable : Reachable backend db)
      (choice : Choice)
      (fails : DeletionStep → Bool)
      (operation : Operation) :
      Reachable backend (execute backend choice fails db operation)

end Sql

/-- A statement fails, or the statements after it run. -/
theorem execAll_execContext
    (fails : DeletionStep → Bool)
    (step : DeletionStep)
    (change : Store → Store)
    (rest : List (Statement Store StoreError))
    (tx : Store) :
    execAll (execContext fails step change :: rest) tx =
      if fails step then (.error .failure, tx) else execAll rest (change tx) := by
  by_cases failing : fails step = true
  · simp only [execAll, execContext, failing, ↓reduceIte]
  · simp only [execAll, execContext, failing, Bool.false_eq_true, ↓reduceIte]

/-- The last statement fails, or decides whether there was such a user. -/
theorem execAll_deleteUserRow
    (fails : DeletionStep → Bool)
    (userID : String)
    (tx : Store) :
    ((execAll [deleteUserRow fails userID] tx).1 = .error .failure ∧
        ∃ step, fails step = true) ∨
      execAll [deleteUserRow fails userID] tx =
        (if (tx.users.find? userID).isSome then .ok () else .error .notFound,
          { tx with users := tx.users.delete fun u => u.id = userID }) := by
  unfold execAll deleteUserRow
  by_cases failing : fails .users = true
  · refine Or.inl ⟨?_, .users, failing⟩
    simp only [failing, ↓reduceIte]
  · by_cases counting : fails .rowsAffected = true
    · refine Or.inl ⟨?_, .rowsAffected, counting⟩
      simp only [failing, counting, Bool.false_eq_true, ↓reduceIte]
    · right
      by_cases isStored : (tx.users.find? userID).isSome = true
      · simp only [failing, counting, isStored, Bool.false_eq_true, ↓reduceIte,
          execAll]
      · simp only [failing, counting, isStored, Bool.false_eq_true, ↓reduceIte]

/-- The statements fail, or have the effect of the operation of the store. -/
theorem execAll_deletions
    (fails : DeletionStep → Bool)
    (userID : String)
    (store : Store) :
    ((execAll (deletions fails userID) store).1 = .error .failure ∧
        ∃ step, fails step = true) ∨
      ((execAll (deletions fails userID) store).1 =
          (store.deleteAccount userID).1 ∧
        ((store.deleteAccount userID).1 = .ok () →
          execAll (deletions fails userID) store =
            store.deleteAccount userID)) := by
  simp only [deletions, execAll_execContext]
  split
  · rename_i failing
    exact Or.inl ⟨rfl, _, failing⟩
  split
  · rename_i failing
    exact Or.inl ⟨rfl, _, failing⟩
  split
  · rename_i failing
    exact Or.inl ⟨rfl, _, failing⟩
  split
  · rename_i failing
    exact Or.inl ⟨rfl, _, failing⟩
  split
  · rename_i failing
    exact Or.inl ⟨rfl, _, failing⟩
  rcases execAll_deleteUserRow fails userID _ with failed | done
  · exact Or.inl failed
  · right
    rw [done, Store.deleteAccount]
    by_cases isStored : (store.users.find? userID).isSome = true
    · simp only [isStored, ↓reduceIte]
      exact ⟨trivial, fun _ => trivial⟩
    · simp only [isStored, Bool.false_eq_true, ↓reduceIte]
      exact ⟨trivial, fun same => absurd same (by simp)⟩

/-- A step that reports an error fails. -/
theorem stepResult_error
    {fails : DeletionStep → Bool}
    {step : DeletionStep}
    {e : StoreError}
    (failed : stepResult fails step = .error e) :
    e = .failure ∧ fails step = true := by
  unfold stepResult at failed
  split at failed
  · rename_i failing
    cases failed
    exact ⟨rfl, failing⟩
  · cases failed

/-- A deletion that reports an error changes nothing. -/
theorem Store.deleteAccount_error
    {store : Store}
    {userID : String}
    {e : StoreError}
    (failed : (store.deleteAccount userID).1 = .error e) :
    store.deleteAccount userID = (.error .notFound, store) ∧ e = .notFound ∧
      store.users.find? userID = none := by
  unfold Store.deleteAccount at failed ⊢
  by_cases isStored : (store.users.find? userID).isSome = true
  · rw [if_pos isStored] at failed
    cases failed
  · rw [if_neg isStored] at failed ⊢
    cases failed
    exact ⟨rfl, rfl, Option.not_isSome_iff_eq_none.mp isStored⟩

/--
The transaction fails and changes nothing, or has the effect of the operation of
the store.
-/
theorem Sql.deleteAccount_cases
    {db : Database Store}
    (idle : db.working = none)
    (fails : DeletionStep → Bool)
    (userID : String) :
    (Sql.deleteAccount fails db userID = (.error .failure, db) ∧
        ∃ step, fails step = true) ∨
      Sql.deleteAccount fails db userID =
        ((db.committed.deleteAccount userID).1,
          { db with committed := (db.committed.deleteAccount userID).2 }) := by
  have ran := execAll_deletions fails userID db.committed
  rcases Database.transaction_cases idle (stepResult fails .beginTx)
      (stepResult fails .commit) (deletions fails userID) with
    ⟨e, failed, reason⟩ | ⟨-, -, data, done, committed⟩
  · rcases reason with opens | statements | commits
    · obtain ⟨rfl, failing⟩ := stepResult_error opens
      exact Or.inl ⟨failed, _, failing⟩
    · rcases ran with ⟨failure, failing⟩ | ⟨same, -⟩
      · have isFailure := Except.error.inj (statements.symm.trans failure)
        exact Or.inl ⟨isFailure ▸ failed, failing⟩
      · obtain ⟨unchanged, isNotFound, -⟩ :=
          Store.deleteAccount_error (same.symm.trans statements)
        right
        rw [unchanged]
        exact isNotFound ▸ failed
    · obtain ⟨rfl, failing⟩ := stepResult_error commits
      exact Or.inl ⟨failed, _, failing⟩
  · right
    have succeeded := congrArg Prod.fst done
    rcases ran with ⟨failure, -⟩ | ⟨same, effect⟩
    · cases failure.symm.trans succeeded
    · have deleted := (effect (same.symm.trans succeeded)).symm.trans done
      rw [deleted, idle]
      exact committed

/-!
## Identifier hashes are unique
-/

/-- No two users have the same identifier hash. -/
def HashesDistinct (users : Table User.id) : Prop :=
  ∀ u ∈ users.rows, ∀ other ∈ users.rows,
    u.identifierHash = other.identifierHash → u = other

/-- A call keeps the identifier hashes unique. -/
theorem HashesDistinct.step
    {operation : Operation}
    {before after : Table User.id}
    (distinct : HashesDistinct before)
    (step : UsersStep operation before after) :
    HashesDistinct after := by
  cases step with
  | same => exact distinct
  | created _ entry isNew =>
      rename_i u row
      have hasHash := congrArg HashEntry.identifierHash entry
      intro first isFirst second isSecond same
      rcases Table.mem_upsert isFirst with rfl | isOld
      · rcases Table.mem_upsert isSecond with rfl | isOld
        · rfl
        · exact absurd (same.symm.trans hasHash) (isNew second isOld)
      · rcases Table.mem_upsert isSecond with rfl | alsoOld
        · exact absurd (same.trans hasHash) (isNew first isOld)
        · exact distinct first isOld second alsoOld same
  | rewritten keepsID keepsEntry =>
      rename_i selected change
      have keepsHash :
          ∀ u, (if selected u then change u else u).identifierHash =
            u.identifierHash := by
        intro u
        split
        · exact congrArg HashEntry.identifierHash (keepsEntry u)
        · rfl
      intro first isFirst second isSecond same
      obtain ⟨u, isUser, rfl⟩ := List.mem_map.mp isFirst
      obtain ⟨other, isOther, rfl⟩ := List.mem_map.mp isSecond
      have sameHash := (keepsHash u).symm.trans (same.trans (keepsHash other))
      rw [distinct u isUser other isOther sameHash]
  | deleted _ =>
      intro first isFirst second isSecond same
      exact distinct first (Table.mem_delete isFirst).1 second
        (Table.mem_delete isSecond).1 same

/-- In a reachable database no transaction is open and hashes are unique. -/
theorem Sql.distinct_of_reachable
    {backend : Backend}
    {db : Database Store}
    (reachable : Sql.Reachable backend db) :
    db.working = none ∧ HashesDistinct db.committed.users := by
  induction reachable with
  | empty =>
      refine ⟨rfl, ?_⟩
      intro u member
      cases member
  | step _ choice fails operation inductionHypothesis =>
      rename_i db _
      obtain ⟨idle, distinct⟩ := inductionHypothesis
      have effect :=
        @usersStep_execute backend choice
          { State.empty with store := db.committed } operation
      cases operation with
      | deleteAccount userID =>
          rcases Sql.deleteAccount_cases idle fails userID with
            ⟨failed, -⟩ | done
          · rw [Sql.execute, failed]
            exact ⟨idle, distinct⟩
          · rw [Sql.execute, done]
            exact ⟨idle,
              distinct.step (usersStep_deleteAccount db.committed userID)⟩
      | _ => exact ⟨idle, distinct.step effect⟩

/-!
## Complete, exact and atomic
-/

/--
The account of an id is gone with everything that mentions the id and nothing
else; `found` is the lookup by identifier hash afterwards.
-/
structure AccountDeleted
    (userID : String)
    (before after : Store)
    (found : String → Except StoreError User) :
    Prop where
  existed : ∃ u ∈ before.users.rows, u.id = userID
  users :
    ∀ u, u ∈ after.users.rows ↔ u ∈ before.users.rows ∧ u.id ≠ userID
  ciphers :
    ∀ c, c ∈ after.ciphers.rows ↔ c ∈ before.ciphers.rows ∧ c.userID ≠ userID
  refresh :
    ∀ rt, rt ∈ after.refresh.rows ↔
      rt ∈ before.refresh.rows ∧ rt.userID ≠ userID
  passkeys :
    ∀ c, c ∈ after.passkeys.rows ↔
      c ∈ before.passkeys.rows ∧ c.userID ≠ userID
  shares :
    ∀ sh, sh ∈ after.shares.rows ↔
      sh ∈ before.shares.rows ∧
        sh.ownerUserID ≠ userID ∧ sh.recipientUserID ≠ userID
  audit : after.audit = before.audit.filter fun e => e.userID ≠ userID
  byID : (after.getUserByID userID).1 = .error .notFound
  byIdentifierHash :
    ∀ identifierHash u, found identifierHash = .ok u ↔
      u ∈ before.users.rows ∧ u.id ≠ userID ∧
        u.identifierHash = identifierHash

/-- A lookup by identifier hash finds the one user that has it. -/
theorem getUserByIdentifierHash_iff
    {store : Store}
    (distinct : HashesDistinct store.users)
    (identifierHash : String)
    (u : User) :
    (store.getUserByIdentifierHash identifierHash).1 = .ok u ↔
      u ∈ store.users.rows ∧ u.identifierHash = identifierHash := by
  unfold Store.getUserByIdentifierHash
  split
  · rename_i other found
    have isOther := List.mem_of_find?_eq_some found
    have hasHash : other.identifierHash = identifierHash := by
      simpa using List.find?_some found
    constructor
    · intro same
      cases same
      exact ⟨isOther, hasHash⟩
    · rintro ⟨isUser, alsoHasHash⟩
      rw [distinct other isOther u isUser (hasHash.trans alsoHasHash.symm)]
  · rename_i absent
    constructor
    · intro same
      cases same
    · rintro ⟨isUser, hasHash⟩
      exact absurd (decide_eq_true hasHash) (List.find?_eq_none.mp absent u isUser)

/-- What a deletion leaves of a table. -/
theorem mem_delete_iff
    {Row Key : Type}
    {key : Row → Key}
    {table : Table key}
    {selected : Row → Bool}
    {row : Row} :
    row ∈ (table.delete selected).rows ↔
      row ∈ table.rows ∧ ¬ selected row = true := by
  simp only [Table.delete, List.mem_filter, Bool.not_eq_true',
    Bool.not_eq_true]

/-- The operation of the store deletes an account completely and exactly. -/
theorem Store.accountDeleted
    {store after : Store}
    {userID : String}
    (distinct : HashesDistinct store.users)
    (deleted : store.deleteAccount userID = (.ok (), after)) :
    AccountDeleted userID store after fun identifierHash =>
      (after.getUserByIdentifierHash identifierHash).1 := by
  have step := usersStep_deleteAccount store userID
  rw [deleted] at step
  have distinctAfter := distinct.step step
  unfold Store.deleteAccount at deleted
  split at deleted
  · rename_i isStored
    cases deleted
    have users :
        ∀ u, u ∈ (store.users.delete fun u => u.id = userID).rows ↔
          u ∈ store.users.rows ∧ u.id ≠ userID := by
      intro u
      rw [mem_delete_iff, decide_eq_true_iff]
    refine
      { existed := ?_
        users := users
        ciphers := ?_
        refresh := ?_
        passkeys := ?_
        shares := ?_
        audit := ?_
        byID := ?_
        byIdentifierHash := ?_ }
    · obtain ⟨u, found⟩ := Option.isSome_iff_exists.mp isStored
      exact ⟨u, Table.mem_of_find? found, Table.key_of_find? found⟩
    · intro c
      rw [mem_delete_iff, decide_eq_true_iff]
    · intro rt
      rw [mem_delete_iff, decide_eq_true_iff]
    · intro c
      rw [mem_delete_iff, decide_eq_true_iff]
    · intro sh
      rw [mem_delete_iff, Bool.or_eq_true, decide_eq_true_iff,
        decide_eq_true_iff, not_or]
    · simp only [ne_eq, decide_not]
    · unfold Store.getUserByID
      split
      · rename_i u found
        exact absurd (Table.key_of_find? found)
          ((users u).mp (Table.mem_of_find? found)).2
      · rfl
    · intro identifierHash u
      rw [getUserByIdentifierHash_iff distinctAfter, users, and_assoc]
  · cases deleted

/-- The in-memory store deletes an account completely, or has no such account. -/
theorem Memory.deleteAccount_completeOrAbsent
    {memory : Memory}
    (reachable : memory.Reachable)
    (userID : String) :
    ((memory.deleteAccount userID).1 = .ok () ∧
        AccountDeleted userID memory.state.store
          (memory.deleteAccount userID).2.state.store fun identifierHash =>
            ((memory.deleteAccount userID).2.getUserByIdentifierHash
              identifierHash).1) ∨
      (memory.deleteAccount userID = (.error .notFound, memory) ∧
        memory.users.find? userID = none) := by
  have indexed := Memory.indexed_of_reachable reachable
  have indexedAfter := indexed.deleteAccount userID
  obtain ⟨sameResult, sameState⟩ :=
    Prod.mk.inj (memory.deleteAccount_eq userID)
  cases found : memory.users.find? userID with
  | none =>
      refine Or.inr ⟨?_, rfl⟩
      rw [Memory.deleteAccount, found]
  | some u =>
      have succeeds : (memory.deleteAccount userID).1 = .ok () := by
        rw [Memory.deleteAccount, found]
      have deleted :
          memory.state.store.deleteAccount userID =
            (.ok (), (memory.deleteAccount userID).2.state.store) := by
        rw [sameState]
        exact Prod.ext (sameResult.symm.trans succeeds) rfl
      refine Or.inl ⟨succeeds, ?_⟩
      simp only [indexedAfter.getUserByIdentifierHash_eq]
      refine Store.accountDeleted ?_ deleted
      intro first isFirst second isSecond same
      exact indexed.eq_of_hash isFirst isSecond same

/-- A database deletes an account completely, or reports an error. -/
theorem Sql.deleteAccount_completeOrError
    {backend : Backend}
    {db : Database Store}
    (reachable : Sql.Reachable backend db)
    (fails : DeletionStep → Bool)
    (userID : String) :
    ((Sql.deleteAccount fails db userID).1 = .ok () ∧
        AccountDeleted userID db.committed
          (Sql.deleteAccount fails db userID).2.committed
            fun identifierHash =>
              ((Sql.deleteAccount fails db
                userID).2.committed.getUserByIdentifierHash
                  identifierHash).1) ∨
      (Sql.deleteAccount fails db userID = (.error .notFound, db) ∧
        db.committed.users.find? userID = none) ∨
      (Sql.deleteAccount fails db userID = (.error .failure, db) ∧
        ∃ step, fails step = true) := by
  obtain ⟨idle, distinct⟩ := Sql.distinct_of_reachable reachable
  rcases Sql.deleteAccount_cases idle fails userID with failed | done
  · exact Or.inr (Or.inr failed)
  · rw [done]
    cases result : (db.committed.deleteAccount userID).1 with
    | ok _ =>
        refine Or.inl ⟨rfl, Store.accountDeleted distinct ?_⟩
        exact Prod.ext result rfl
    | error e =>
        obtain ⟨unchanged, isNotFound, absent⟩ :=
          Store.deleteAccount_error result
        refine Or.inr (Or.inl ⟨?_, absent⟩)
        rw [unchanged, isNotFound]

/--
In every reachable state of every implementation, and whichever of its statements
fail, a deletion removes the account completely and exactly, or reports an error
and changes nothing.
-/
theorem deleteAccount_allOrNothing
    {memory : Memory}
    (inMemory : memory.Reachable)
    {backend : Backend}
    {db : Database Store}
    (inDatabase : Sql.Reachable backend db)
    (fails : DeletionStep → Bool)
    (userID : String) :
    (((memory.deleteAccount userID).1 = .ok () ∧
          AccountDeleted userID memory.state.store
            (memory.deleteAccount userID).2.state.store fun identifierHash =>
              ((memory.deleteAccount userID).2.getUserByIdentifierHash
                identifierHash).1) ∨
        (memory.deleteAccount userID = (.error .notFound, memory) ∧
          memory.users.find? userID = none)) ∧
      (((Sql.deleteAccount fails db userID).1 = .ok () ∧
          AccountDeleted userID db.committed
            (Sql.deleteAccount fails db userID).2.committed
              fun identifierHash =>
                ((Sql.deleteAccount fails db
                  userID).2.committed.getUserByIdentifierHash
                    identifierHash).1) ∨
        (Sql.deleteAccount fails db userID = (.error .notFound, db) ∧
          db.committed.users.find? userID = none) ∨
        (Sql.deleteAccount fails db userID = (.error .failure, db) ∧
          ∃ step, fails step = true)) := by
  exact ⟨Memory.deleteAccount_completeOrAbsent inMemory userID,
    Sql.deleteAccount_completeOrError inDatabase fails userID⟩

/-- An account that is all a store contains. -/
def onlyAccount : User :=
  { User.zero with id := "u", identifierHash := "h" }

/-- The call that creates it. -/
def createOnly : Operation :=
  .createUser onlyAccount

/-- A choice under which nothing fails. -/
def atZero : Choice where
  now := 0
  entropy := []
  fails := fun _ => false

/-- The only account, deleted from both kinds of store while a commit fails. -/
theorem deleteOnly_allOrNothing :
    ((Memory.empty.execute atZero createOnly).2.deleteAccount "u").1 = .ok () ∧
      (Sql.deleteAccount (fun step => step = .commit)
        (Sql.execute .sqlite atZero (fun _ => false)
          { committed := .empty, working := none } createOnly) "u").1 =
        .error .failure := by
  have fresh : Fresh Memory.empty.state.store createOnly := by
    intro u _
    rfl
  have inMemory := Memory.Reachable.step .empty atZero createOnly fresh
  have inDatabase :=
    @Sql.Reachable.step .sqlite _ .empty atZero (fun _ => false) createOnly
  obtain ⟨memoryCase, databaseCase⟩ :=
    deleteAccount_allOrNothing inMemory inDatabase
      (fun step => step = .commit) "u"
  constructor
  · rcases memoryCase with ⟨succeeded, -⟩ | ⟨-, absent⟩
    · exact succeeded
    · cases absent
  · rcases databaseCase with ⟨succeeded, -⟩ | ⟨notFound, -⟩ | ⟨failed, -⟩
    · cases succeeded
    · cases congrArg Prod.fst notFound
    · exact congrArg Prod.fst failed

end Passwd.Server
