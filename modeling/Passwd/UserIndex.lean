import Passwd.ServerTransitions

namespace Passwd.Server

open Base64 Interaction

/-!
# The two maps of the in-memory store

The in-memory store finds users through two maps: `users` by id and `byIDHash`,
which leads from identifier hashes to ids.  As long as account ids are new the
two are inverse to each other, and the store behaves as one that searches its
users for the hash.
-/

/-- One entry of `byIDHash`. -/
structure HashEntry where
  identifierHash : String
  userID : String
deriving DecidableEq

/-- The entry that leads to a user. -/
def User.hashEntry (u : User) : HashEntry where
  identifierHash := u.identifierHash
  userID := u.id

/-- `User{}` -/
def User.zero : User where
  id := ""
  identifierHash := ""
  kdf := ⟨"", 0, 0, 0⟩
  masterPasswordVerifier := ""
  protectedUserKey := ""
  publicKey := ""
  protectedPrivateKey := ""
  recoveryProtectedUserKey := ""
  recoveryVerifier := ""
  totpSecret := ""
  totpEnabled := false
  totpLastCounter := 0
  createdAt := zeroTime
  updatedAt := zeroTime

/-- `Memory`: the server's state, with the second map of the store. -/
structure Memory where
  state : State
  byIDHash : Table HashEntry.identifierHash

namespace Memory

/-- `NewMemory` -/
def empty : Memory where
  state := .empty
  byIDHash := .empty

variable (memory : Memory)

/-- The users by id. -/
abbrev users : Table User.id :=
  memory.state.store.users

/-- `CreateUser` -/
def createUser (u : User) : Except StoreError Unit × Memory :=
  if (memory.byIDHash.find? u.identifierHash).isSome then
    (.error .conflict, memory)
  else
    (.ok (),
      { state := { memory.state with
          store := { memory.state.store with
            users := memory.users.upsert u } }
        byIDHash := memory.byIDHash.upsert u.hashEntry })

/-- `GetUserByIdentifierHash` -/
def getUserByIdentifierHash (identifierHash : String) :
    Except StoreError User × Memory :=
  match memory.byIDHash.find? identifierHash with
  | none => (.error .notFound, memory)
  | some e => (.ok ((memory.users.find? e.userID).getD .zero), memory)

/-- `DeleteAccount` -/
def deleteAccount (userID : String) : Except StoreError Unit × Memory :=
  match memory.users.find? userID with
  | none => (.error .notFound, memory)
  | some u =>
      (.ok (),
        { state := { memory.state with
            store :=
              { users := memory.users.delete fun u => u.id = userID
                ciphers :=
                  memory.state.store.ciphers.delete fun c => c.userID = userID
                refresh :=
                  memory.state.store.refresh.delete fun rt =>
                    rt.userID = userID
                passkeys :=
                  memory.state.store.passkeys.delete fun c =>
                    c.userID = userID
                shares :=
                  memory.state.store.shares.delete fun sh =>
                    sh.ownerUserID = userID || sh.recipientUserID = userID
                audit :=
                  memory.state.store.audit.filter fun e =>
                    !(e.userID = userID) } }
          byIDHash :=
            memory.byIDHash.delete fun e =>
              e.identifierHash = u.identifierHash })

/-- A call; all but three of them leave `byIDHash` alone. -/
def execute
    (choice : Choice)
    (operation : Operation) :
    Answer operation × Memory :=
  match operation with
  | .createUser u => memory.createUser u
  | .getUserByIdentifierHash identifierHash =>
      memory.getUserByIdentifierHash identifierHash
  | .deleteAccount userID => memory.deleteAccount userID
  | operation =>
      let outcome := Server.execute .memory choice memory.state operation
      (outcome.1, { memory with state := outcome.2 })

end Memory

/-- A new account has a new id. -/
def Fresh (store : Store) (operation : Operation) : Prop :=
  ∀ u, operation = .createUser u → store.users.find? u.id = none

/-- The in-memory store after any calls that use new account ids. -/
inductive Memory.Reachable : Memory → Prop
  | empty : Memory.Reachable .empty
  | step
      {memory : Memory}
      (reachable : memory.Reachable)
      (choice : Choice)
      (operation : Operation)
      (fresh : Fresh memory.state.store operation) :
      Memory.Reachable (memory.execute choice operation).2

/-!
## What a call does to the users
-/

/-- The ways in which a call can change the users. -/
inductive UsersStep (operation : Operation) (before : Table User.id) :
    Table User.id → Prop
  | same : UsersStep operation before before
  | created
      {u row : User}
      (creates : operation = .createUser u)
      (entry : row.hashEntry = u.hashEntry)
      (isNew : ∀ v ∈ before.rows, v.identifierHash ≠ u.identifierHash) :
      UsersStep operation before (before.upsert row)
  | rewritten
      {selected : User → Bool}
      {change : User → User}
      (keepsID : ∀ u, (change u).id = u.id)
      (keepsEntry : ∀ u, (change u).hashEntry = u.hashEntry) :
      UsersStep operation before (before.update selected change keepsID)
  | deleted
      {userID : String}
      (deletes : operation = .deleteAccount userID) :
      UsersStep operation before (before.delete fun u => u.id = userID)

section Calls

variable {backend : Backend} {choice : Choice} {state : State}
  {operation : Operation}

/-- A store call changes the users as its outcome does. -/
theorem usersStep_attempt
    {α : Type}
    {outcome : Store.Outcome α}
    (changed : UsersStep operation state.store.users outcome.2.users) :
    UsersStep operation state.store.users
      (attempt choice state operation outcome).2.store.users := by
  rcases attempt_cases choice state operation outcome with failed | done
  · rw [failed]
    exact .same
  · rw [done]
    exact changed

/-- Rewriting one user. -/
theorem usersStep_updateUser
    {store : Store}
    {userID : String}
    {change : User → User}
    {keepsID : ∀ u, (change u).id = u.id}
    (keepsEntry : ∀ u, (change u).hashEntry = u.hashEntry) :
    UsersStep operation store.users
      (store.updateUser userID change keepsID).2.users := by
  unfold Store.updateUser
  split
  · exact .rewritten keepsID keepsEntry
  · exact .same

/-- Creating a user. -/
theorem usersStep_createUser (store : Store) (u : User) :
    UsersStep (.createUser u) store.users
      (store.createUser backend u).2.users := by
  unfold Store.createUser
  split
  · by_cases taken : store.identifierTaken u.identifierHash = true
    · rw [if_pos taken]
      exact .same
    · have isNew :
          ∀ v ∈ store.users.rows, v.identifierHash ≠ u.identifierHash := by
        intro v member same
        exact taken (List.any_eq_true.mpr ⟨v, member, decide_eq_true same⟩)
      rw [if_neg taken]
      split
      · split
        · exact .same
        · exact .created rfl rfl isNew
      · exact .created rfl rfl isNew
  · exact .same

/-- Deleting an account. -/
theorem usersStep_deleteAccount (store : Store) (userID : String) :
    UsersStep (.deleteAccount userID) store.users
      (store.deleteAccount userID).2.users := by
  unfold Store.deleteAccount
  split
  · exact .deleted rfl
  · exact .same

/-- What a call does to the users. -/
theorem usersStep_execute :
    UsersStep operation state.store.users
      (execute backend choice state operation).2.store.users := by
  by_cases untouched : operation.touches .users = false
  · have same := @execute_same backend choice state _ _ untouched
    simp only [Part.Same] at same
    rw [same]
    exact .same
  · cases operation with
    | createUser u =>
        exact usersStep_attempt (usersStep_createUser _ u)
    | setUserTOTP userID secret enabled =>
        exact usersStep_attempt (usersStep_updateUser fun _ => rfl)
    | setUserTOTPCounter userID counter =>
        exact usersStep_attempt (usersStep_updateUser fun _ => rfl)
    | setUserRecovery userID key verifier =>
        exact usersStep_attempt (usersStep_updateUser fun _ => rfl)
    | clearUserRecovery userID =>
        exact usersStep_attempt (usersStep_updateUser fun _ => rfl)
    | rotateMasterPassword userID verifier key kdf =>
        refine usersStep_attempt ?_
        unfold Store.rotateMasterPassword
        split
        · exact usersStep_updateUser fun _ => rfl
        · exact .same
    | deleteAccount userID =>
        exact usersStep_attempt (usersStep_deleteAccount _ userID)
    | _ => exact absurd rfl untouched

end Calls

/-!
## The two maps are inverse to each other
-/

/-- `byIDHash` leads to exactly the users there are. -/
def Memory.Indexed (memory : Memory) : Prop :=
  ∀ e, e ∈ memory.byIDHash.rows ↔ ∃ u ∈ memory.users.rows, u.hashEntry = e

section Indexed

variable {memory : Memory}

/-- Users with the same identifier hash are the same user. -/
theorem Memory.Indexed.eq_of_hash
    (indexed : memory.Indexed)
    {u other : User}
    (isUser : u ∈ memory.users.rows)
    (isOther : other ∈ memory.users.rows)
    (same : u.identifierHash = other.identifierHash) :
    u = other := by
  have entry := (indexed _).mpr ⟨u, isUser, rfl⟩
  have otherEntry := (indexed _).mpr ⟨other, isOther, rfl⟩
  have sameEntry := Table.eq_of_key_eq entry otherEntry same
  exact Table.eq_of_key_eq isUser isOther (congrArg HashEntry.userID sameEntry)

/-- What `byIDHash` leads to is what a search of the users finds. -/
theorem Memory.Indexed.find?_byIDHash
    (indexed : memory.Indexed)
    (identifierHash : String) :
    memory.byIDHash.find? identifierHash =
      (memory.users.rows.find? fun u =>
        u.identifierHash = identifierHash).map User.hashEntry := by
  cases found :
      memory.users.rows.find? fun u => u.identifierHash = identifierHash with
  | none =>
      rw [Option.map_none]
      apply Option.eq_none_iff_forall_ne_some.mpr
      intro e isEntry
      obtain ⟨member, hasHash⟩ := Table.find?_eq_some_iff.mp isEntry
      obtain ⟨u, isUser, rfl⟩ := (indexed e).mp member
      have absent := List.find?_eq_none.mp found u isUser
      exact absent (decide_eq_true hasHash)
  | some u =>
      have hasHash : u.identifierHash = identifierHash := by
        simpa using List.find?_some found
      rw [Option.map_some, Table.find?_eq_some_iff]
      exact ⟨(indexed _).mpr ⟨u, List.mem_of_find?_eq_some found, rfl⟩,
        hasHash⟩

/-- An identifier hash leads somewhere when a user has it. -/
theorem Memory.Indexed.isSome_byIDHash
    (indexed : memory.Indexed)
    (identifierHash : String) :
    (memory.byIDHash.find? identifierHash).isSome =
      memory.state.store.identifierTaken identifierHash := by
  rw [indexed.find?_byIDHash, Option.isSome_map, Bool.eq_iff_iff,
    List.find?_isSome, Store.identifierTaken, List.any_eq_true]

/-- Creating a user with a new id. -/
theorem Memory.Indexed.createUser
    (indexed : memory.Indexed)
    {u : User}
    (isNew : memory.users.find? u.id = none) :
    (memory.createUser u).2.Indexed := by
  unfold Memory.createUser
  split
  · exact indexed
  · rename_i free
    have newEntry : memory.byIDHash.find? u.hashEntry.identifierHash = none :=
      Option.not_isSome_iff_eq_none.mp free
    intro e
    simp only [Memory.users, Table.rows_upsert_of_new newEntry,
      Table.rows_upsert_of_new isNew, List.mem_append, List.mem_singleton]
    rw [indexed e]
    constructor
    · rintro (⟨old, isOld, rfl⟩ | rfl)
      · exact ⟨old, Or.inl isOld, rfl⟩
      · exact ⟨u, Or.inr rfl, rfl⟩
    · rintro ⟨row, isOld | rfl, rfl⟩
      · exact Or.inl ⟨row, isOld, rfl⟩
      · exact Or.inr rfl

/-- Deleting a user removes its entry and no other. -/
theorem Memory.Indexed.deleteAccount
    (indexed : memory.Indexed)
    (userID : String) :
    (memory.deleteAccount userID).2.Indexed := by
  unfold Memory.deleteAccount
  split
  · exact indexed
  · rename_i u found
    have isUser := Table.mem_of_find? found
    have hasID := Table.key_of_find? found
    intro e
    simp only [Memory.users, Table.delete, List.mem_filter,
      Bool.not_eq_true', decide_eq_false_iff_not]
    rw [indexed e]
    constructor
    · rintro ⟨⟨row, isRow, rfl⟩, otherHash⟩
      refine ⟨row, ⟨isRow, ?_⟩, rfl⟩
      intro sameID
      have sameRow := Table.eq_of_key_eq isRow isUser (sameID.trans hasID.symm)
      exact otherHash (congrArg User.identifierHash sameRow)
    · rintro ⟨row, ⟨isRow, otherID⟩, rfl⟩
      refine ⟨⟨row, isRow, rfl⟩, ?_⟩
      intro sameHash
      have sameRow := indexed.eq_of_hash isRow isUser sameHash
      exact otherID ((congrArg User.id sameRow).trans hasID)

/-- Rewriting users without touching their entries. -/
theorem Memory.Indexed.of_update
    (indexed : memory.Indexed)
    {state : State}
    {selected : User → Bool}
    {change : User → User}
    {keepsID : ∀ u, (change u).id = u.id}
    (keepsEntry : ∀ u, (change u).hashEntry = u.hashEntry)
    (rewritten :
      state.store.users = memory.users.update selected change keepsID) :
    Memory.Indexed { memory with state := state } := by
  have entries :
      ∀ u, (if selected u then change u else u).hashEntry = u.hashEntry := by
    intro u
    split
    · exact keepsEntry u
    · rfl
  intro e
  rw [indexed e]
  simp only [Memory.users] at rewritten ⊢
  simp only [rewritten, Table.update, List.mem_map]
  constructor
  · rintro ⟨u, isUser, rfl⟩
    exact ⟨_, ⟨u, isUser, rfl⟩, entries u⟩
  · rintro ⟨row, ⟨u, isUser, rfl⟩, rfl⟩
    exact ⟨u, isUser, (entries u).symm⟩

/-- A call that leaves `byIDHash` alone rewrites users at most. -/
theorem Memory.Indexed.of_execute
    (indexed : memory.Indexed)
    {choice : Choice}
    {operation : Operation}
    (notCreate : ∀ u, operation ≠ .createUser u)
    (notDelete : ∀ userID, operation ≠ .deleteAccount userID) :
    Memory.Indexed
      { memory with
        state := (Server.execute .memory choice memory.state operation).2 } := by
  have step :=
    @usersStep_execute .memory choice memory.state operation
  generalize (Server.execute .memory choice memory.state operation).2 = after
    at step
  generalize rewritten : after.store.users = users at step
  cases step with
  | same =>
      intro e
      rw [indexed e]
      simp only [Memory.users, rewritten]
  | created creates _ _ => exact absurd creates (notCreate _)
  | rewritten keepsID keepsEntry => exact indexed.of_update keepsEntry rewritten
  | deleted deletes => exact absurd deletes (notDelete _)

/-- A call with new account ids keeps the two maps inverse. -/
theorem Memory.Indexed.execute
    (indexed : memory.Indexed)
    {choice : Choice}
    {operation : Operation}
    (fresh : Fresh memory.state.store operation) :
    (memory.execute choice operation).2.Indexed := by
  cases operation with
  | createUser u => exact indexed.createUser (fresh u rfl)
  | getUserByIdentifierHash identifierHash =>
      change (memory.getUserByIdentifierHash identifierHash).2.Indexed
      unfold Memory.getUserByIdentifierHash
      split
      · exact indexed
      · exact indexed
  | deleteAccount userID => exact indexed.deleteAccount userID
  | _ =>
      apply indexed.of_execute
      · intro u same
        cases same
      · intro userID same
        cases same

/-- In every reachable state the two maps are inverse to each other. -/
theorem Memory.indexed_of_reachable (reachable : memory.Reachable) :
    memory.Indexed := by
  induction reachable with
  | empty =>
      intro e
      constructor
      · intro member
        cases member
      · rintro ⟨u, member, -⟩
        cases member
  | step _ choice operation fresh inductionHypothesis =>
      exact inductionHypothesis.execute fresh

/-!
## One table of users is enough
-/

/-- Creating a user, as if there were one table. -/
theorem Memory.Indexed.createUser_eq (indexed : memory.Indexed) (u : User) :
    ((memory.createUser u).1, (memory.createUser u).2.state) =
      ((memory.state.store.createUser .memory u).1,
        { memory.state with
          store := (memory.state.store.createUser .memory u).2 }) := by
  have takes : Backend.memory.takesKDF u.kdf = true := rfl
  have inMemory : ¬ Backend.memory.isSql = true := Bool.false_ne_true
  unfold Memory.createUser Store.createUser
  rw [indexed.isSome_byIDHash, if_pos takes, if_neg inMemory]
  split
  · rfl
  · rfl

/-- Deleting an account, as if there were one table. -/
theorem Memory.deleteAccount_eq (userID : String) :
    ((memory.deleteAccount userID).1, (memory.deleteAccount userID).2.state) =
      ((memory.state.store.deleteAccount userID).1,
        { memory.state with
          store := (memory.state.store.deleteAccount userID).2 }) := by
  unfold Memory.deleteAccount Store.deleteAccount
  split
  · rename_i absent
    rw [if_neg (by rw [absent]; exact Bool.false_ne_true)]
  · rename_i u found
    rw [if_pos (by rw [found]; rfl)]

/-- Looking a user up by the hash, as if there were one table. -/
theorem Memory.Indexed.getUserByIdentifierHash_eq
    (indexed : memory.Indexed)
    (identifierHash : String) :
    (memory.getUserByIdentifierHash identifierHash).1 =
      (memory.state.store.getUserByIdentifierHash identifierHash).1 := by
  unfold Memory.getUserByIdentifierHash Store.getUserByIdentifierHash
  rw [indexed.find?_byIDHash]
  cases found :
      memory.users.rows.find? fun u => u.identifierHash = identifierHash with
  | none =>
      simp only [Memory.users] at found
      simp only [Option.map_none]
  | some u =>
      have isUser := Table.find?_of_mem (List.mem_of_find?_eq_some found)
      simp only [Memory.users] at found isUser
      simp only [Option.map_some, User.hashEntry, Memory.users, isUser,
        Option.getD_some]

/-- The in-memory store with both maps answers as the store with one table. -/
theorem Memory.Indexed.refines
    (indexed : memory.Indexed)
    {choice : Choice}
    {operation : Operation}
    (succeeds : choice.fails operation = false) :
    (memory.execute choice operation).1 =
        (Server.execute .memory choice memory.state operation).1 ∧
      (memory.execute choice operation).2.state =
        (Server.execute .memory choice memory.state operation).2 := by
  cases operation with
  | createUser u =>
      change _ = (attempt choice memory.state _ _).1 ∧
        _ = (attempt choice memory.state _ _).2
      rw [attempt_of_succeeds succeeds]
      exact Prod.mk.inj (indexed.createUser_eq u)
  | getUserByIdentifierHash identifierHash =>
      change _ = (attempt choice memory.state _ _).1 ∧
        _ = (attempt choice memory.state _ _).2
      rw [attempt_of_succeeds succeeds]
      refine ⟨indexed.getUserByIdentifierHash_eq identifierHash, ?_⟩
      change (memory.getUserByIdentifierHash identifierHash).2.state = _
      unfold Memory.getUserByIdentifierHash Store.getUserByIdentifierHash
      split
      · split
        · rfl
        · rfl
      · split
        · rfl
        · rfl
  | deleteAccount userID =>
      change _ = (attempt choice memory.state _ _).1 ∧
        _ = (attempt choice memory.state _ _).2
      rw [attempt_of_succeeds succeeds]
      exact Prod.mk.inj (memory.deleteAccount_eq userID)
  | _ => exact ⟨rfl, rfl⟩

end Indexed

end Passwd.Server
