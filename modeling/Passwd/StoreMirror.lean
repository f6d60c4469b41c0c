import Passwd.TableImage
import Passwd.ServerEffects

namespace Passwd.Server

open Base64

/-!
# Stores to the second

The databases keep whole seconds and the in-memory store keeps whole times.  A
database is in step with the in-memory store when it holds its rows with every
time cut to the second; each operation that writes keeps the two in step.
-/

/-!
## To the second
-/

/-- A time without the fraction of its second. -/
def toSecond (t : Time) : Time :=
  fromUnix (unix t)

/-- The second of a time that is cut to the second. -/
@[simp] theorem unix_toSecond (t : Time) : unix (toSecond t) = unix t := by
  simp only [toSecond, fromUnix, unix, second]
  exact Int.mul_ediv_cancel _ (by decide)

@[simp] theorem toSecond_toSecond (t : Time) :
    toSecond (toSecond t) = toSecond t := by
  rw [toSecond, unix_toSecond, toSecond]

/-- Times in the order of their seconds. -/
theorem toSecond_le_iff (first later : Time) :
    toSecond first ≤ toSecond later ↔ unix first ≤ unix later := by
  simp only [toSecond, fromUnix, second]
  exact Int.mul_le_mul_right (by decide)

/-- The same second is the same time to the second. -/
theorem toSecond_eq_iff (first later : Time) :
    toSecond first = toSecond later ↔ unix first = unix later := by
  constructor
  · intro same
    rw [← unix_toSecond first, same, unix_toSecond]
  · intro same
    rw [toSecond, same, toSecond]

theorem toSecond_lt_iff (first later : Time) :
    toSecond first < toSecond later ↔ unix first < unix later := by
  rw [← Int.not_le, toSecond_le_iff, Int.not_le]

/-- An earlier time is in no later second. -/
theorem unix_mono {first later : Time} (ordered : first ≤ later) :
    unix first ≤ unix later :=
  Int.ediv_le_ediv (by decide) ordered

/-- A time in a later second is later. -/
theorem lt_of_unix_lt {first later : Time} (ordered : unix first < unix later) :
    first < later := by
  by_contra notBefore
  exact Int.not_le.mpr ordered (unix_mono (Int.not_lt.mp notBefore))

/-- Times of different seconds are in the order of their seconds. -/
theorem unix_le_iff {first later : Time} (differ : unix first ≠ unix later) :
    first ≤ later ↔ unix first ≤ unix later := by
  constructor
  · exact unix_mono
  · intro ordered
    by_contra reversed
    exact differ
      (Int.le_antisymm ordered (unix_mono (Int.le_of_lt (Int.not_le.mp reversed))))

/-- The in-memory store keeps a time as it is. -/
@[simp] theorem stamp_memory (t : Time) : Backend.memory.stamp t = t :=
  rfl

/-- A database keeps a time to the second. -/
theorem stamp_sql {backend : Backend} (sql : backend.isSql = true) (t : Time) :
    backend.stamp t = toSecond t := by
  rw [Backend.stamp, if_pos sql, toSecond]

/-- An account to the second. -/
def User.toSeconds (u : User) : User :=
  { u with createdAt := toSecond u.createdAt, updatedAt := toSecond u.updatedAt }

/-- A cipher to the second. -/
def Cipher.toSeconds (c : Cipher) : Cipher :=
  { c with createdAt := toSecond c.createdAt, updatedAt := toSecond c.updatedAt }

/-- A passkey to the second. -/
def WebAuthnCredential.toSeconds (c : WebAuthnCredential) :
    WebAuthnCredential :=
  { c with createdAt := toSecond c.createdAt, updatedAt := toSecond c.updatedAt }

/-- An audit event to the second. -/
def AuditEvent.toSeconds (e : AuditEvent) : AuditEvent :=
  { e with createdAt := toSecond e.createdAt }

/-- A share to the second. -/
def Share.toSeconds (sh : Share) : Share :=
  { sh with createdAt := toSecond sh.createdAt }

/-- A refresh token to the second. -/
def RefreshToken.toSeconds (rt : RefreshToken) : RefreshToken :=
  { rt with expiresAt := toSecond rt.expiresAt, createdAt := toSecond rt.createdAt }

@[simp] theorem User.id_toSeconds (u : User) : u.toSeconds.id = u.id :=
  rfl

@[simp] theorem Cipher.id_toSeconds (c : Cipher) : c.toSeconds.id = c.id :=
  rfl

@[simp] theorem WebAuthnCredential.id_toSeconds (c : WebAuthnCredential) :
    c.toSeconds.id = c.id :=
  rfl

@[simp] theorem Share.id_toSeconds (sh : Share) : sh.toSeconds.id = sh.id :=
  rfl

@[simp] theorem RefreshToken.tokenHash_toSeconds (rt : RefreshToken) :
    rt.toSeconds.tokenHash = rt.tokenHash :=
  rfl

/-- A store to the second. -/
def Store.toSeconds (store : Store) : Store where
  users := store.users.image User.toSeconds User.id_toSeconds
  ciphers := store.ciphers.image Cipher.toSeconds Cipher.id_toSeconds
  refresh :=
    store.refresh.image RefreshToken.toSeconds RefreshToken.tokenHash_toSeconds
  passkeys :=
    store.passkeys.image WebAuthnCredential.toSeconds
      WebAuthnCredential.id_toSeconds
  audit := store.audit.map AuditEvent.toSeconds
  shares := store.shares.image Share.toSeconds Share.id_toSeconds

/-- A server whose store is to the second. -/
def State.toSeconds (state : State) : State :=
  { state with store := state.store.toSeconds }

/-!
## Writing
-/

section Writing

variable {backend : Backend} {store : Store}

/-- A database does to its store what the in-memory store does to its own. -/
abbrev Mirrors (memory sql : Store.Outcome Unit) : Prop :=
  sql = (memory.1, memory.2.toSeconds)

/-- The account with an id, to the second. -/
@[simp] theorem find?_users_toSeconds (id : String) :
    store.toSeconds.users.find? id =
      (store.users.find? id).map User.toSeconds :=
  Table.find?_image User.id_toSeconds id

/-- The cipher with an id, to the second. -/
@[simp] theorem find?_ciphers_toSeconds (id : String) :
    store.toSeconds.ciphers.find? id =
      (store.ciphers.find? id).map Cipher.toSeconds :=
  Table.find?_image Cipher.id_toSeconds id

/-- The refresh token with a hash, to the second. -/
@[simp] theorem find?_refresh_toSeconds (tokenHash : String) :
    store.toSeconds.refresh.find? tokenHash =
      (store.refresh.find? tokenHash).map RefreshToken.toSeconds :=
  Table.find?_image RefreshToken.tokenHash_toSeconds tokenHash

/-- The passkey with a row id, to the second. -/
@[simp] theorem find?_passkeys_toSeconds (id : String) :
    store.toSeconds.passkeys.find? id =
      (store.passkeys.find? id).map WebAuthnCredential.toSeconds :=
  Table.find?_image WebAuthnCredential.id_toSeconds id

/-- The share with an id, to the second. -/
@[simp] theorem find?_shares_toSeconds (id : String) :
    store.toSeconds.shares.find? id =
      (store.shares.find? id).map Share.toSeconds :=
  Table.find?_image Share.id_toSeconds id

/-- The same identifiers are taken. -/
theorem identifierTaken_toSeconds (identifierHash : String) :
    store.toSeconds.identifierTaken identifierHash =
      store.identifierTaken identifierHash :=
  Table.any_image User.id_toSeconds _ _ fun _ _ => rfl

/-- Creating an account. -/
theorem createUser_mirrors
    (sql : backend.isSql = true)
    {u : User}
    (isNew : store.users.find? u.id = none)
    (noCounter : u.totpLastCounter = 0)
    (fits : Backend.postgres.takesKDF u.kdf = true) :
    Mirrors (store.createUser .memory u)
      (store.toSeconds.createUser backend u) := by
  have takes : backend.takesKDF u.kdf = true := by
    cases backend with
    | memory => rfl
    | sqlite => rfl
    | postgres => exact fits
  have row :
      ({ u with
        totpLastCounter := 0
        createdAt := backend.stamp u.createdAt
        updatedAt := backend.stamp u.updatedAt } : User) = u.toSeconds := by
    rw [stamp_sql sql, stamp_sql sql, User.toSeconds, noCounter]
  have takesInMemory : Backend.memory.takesKDF u.kdf = true := rfl
  unfold Store.createUser
  rw [if_pos takes, if_pos takesInMemory, identifierTaken_toSeconds]
  by_cases taken : store.identifierTaken u.identifierHash = true
  · rw [if_pos taken, if_pos taken]
  · rw [if_neg taken, if_neg taken, if_pos sql, row,
      find?_users_toSeconds, isNew]
    exact congrArg
      (fun users => (Except.ok (), { store.toSeconds with users := users }))
      (Table.image_upsert u)

/-- Rewriting the row of one account. -/
theorem updateUser_mirrors
    {userID : String}
    {change other : User → User}
    (keepsID : ∀ u, (change u).id = u.id)
    (otherKeeps : ∀ u, (other u).id = u.id)
    (changed :
      ∀ u ∈ store.users.rows, u.id = userID →
        other u.toSeconds = (change u).toSeconds) :
    Mirrors (store.updateUser userID change keepsID)
      (store.toSeconds.updateUser userID other otherKeeps) := by
  unfold Store.updateUser
  rw [find?_users_toSeconds, Option.isSome_map]
  by_cases isStored : (store.users.find? userID).isSome = true
  · rw [if_pos isStored, if_pos isStored]
    have users :
        store.toSeconds.users.update (fun u => u.id = userID) other otherKeeps =
          (store.users.update (fun u => u.id = userID) change keepsID).image
            User.toSeconds User.id_toSeconds := by
      refine Table.image_update _ _ _ _ _ _ (fun _ _ => rfl) ?_
      intro u member isSelected
      exact changed u member (of_decide_eq_true isSelected)
    rw [Mirrors, users]
    rfl
  · rw [if_neg isStored, if_neg isStored]

/-- Rewriting the recovery of an account, in the second of its last update. -/
theorem setUserRecovery_mirrors
    (sql : backend.isSql = true)
    {now : Time}
    {userID : String}
    (sameSecond :
      ∀ u ∈ store.users.rows, u.id = userID → unix u.updatedAt = unix now)
    (key verifier : String) :
    Mirrors (store.setUserRecovery .memory now userID key verifier)
      (store.toSeconds.setUserRecovery backend now userID key verifier) := by
  apply updateUser_mirrors
  intro u member isUser
  have second := (toSecond_eq_iff _ _).mpr (sameSecond u member isUser)
  have inMemory : Backend.memory.isSql = false := rfl
  simp only [User.toSeconds, sql, inMemory, Bool.false_eq_true, ↓reduceIte,
    stamp_sql sql, second]

/-- Setting the TOTP secret of an account. -/
theorem setUserTOTP_mirrors (userID secret : String) (enabled : Bool) :
    Mirrors (store.setUserTOTP userID secret enabled)
      (store.toSeconds.setUserTOTP userID secret enabled) :=
  updateUser_mirrors _ _ fun _ _ _ => rfl

/-- Recording the TOTP counter of an account. -/
theorem setUserTOTPCounter_mirrors (userID : String) (counter : Nat) :
    Mirrors (store.setUserTOTPCounter userID counter)
      (store.toSeconds.setUserTOTPCounter userID counter) :=
  updateUser_mirrors _ _ fun _ _ _ => rfl

/-- Rewriting the password of an account. -/
theorem rotateMasterPassword_mirrors
    (sql : backend.isSql = true)
    {now : Time}
    {kdf : KDFParams}
    (fits : Backend.postgres.takesKDF kdf = true)
    (userID verifier key : String) :
    Mirrors (store.rotateMasterPassword .memory now userID verifier key kdf)
      (store.toSeconds.rotateMasterPassword backend now userID verifier key
        kdf) := by
  have takes : backend.takesKDF kdf = true := by
    cases backend with
    | memory => rfl
    | sqlite => rfl
    | postgres => exact fits
  have takesInMemory : Backend.memory.takesKDF kdf = true := rfl
  unfold Store.rotateMasterPassword
  rw [if_pos takes, if_pos takesInMemory]
  apply updateUser_mirrors
  intro u member isUser
  simp only [User.toSeconds, stamp_sql sql, stamp_memory]

/-- Deleting an account. -/
theorem deleteAccount_mirrors (userID : String) :
    Mirrors (store.deleteAccount userID)
      (store.toSeconds.deleteAccount userID) := by
  unfold Store.deleteAccount
  rw [find?_users_toSeconds, Option.isSome_map]
  by_cases isStored : (store.users.find? userID).isSome = true
  · rw [if_pos isStored, if_pos isStored]
    have users :
        store.toSeconds.users.delete (fun u => u.id = userID) =
          (store.users.delete fun u => u.id = userID).image User.toSeconds
            User.id_toSeconds :=
      Table.image_delete _ _ fun _ _ => rfl
    have ciphers :
        store.toSeconds.ciphers.delete (fun c => c.userID = userID) =
          (store.ciphers.delete fun c => c.userID = userID).image
            Cipher.toSeconds Cipher.id_toSeconds :=
      Table.image_delete _ _ fun _ _ => rfl
    have refresh :
        store.toSeconds.refresh.delete (fun rt => rt.userID = userID) =
          (store.refresh.delete fun rt => rt.userID = userID).image
            RefreshToken.toSeconds RefreshToken.tokenHash_toSeconds :=
      Table.image_delete _ _ fun _ _ => rfl
    have passkeys :
        store.toSeconds.passkeys.delete (fun c => c.userID = userID) =
          (store.passkeys.delete fun c => c.userID = userID).image
            WebAuthnCredential.toSeconds WebAuthnCredential.id_toSeconds :=
      Table.image_delete _ _ fun _ _ => rfl
    have shares :
        store.toSeconds.shares.delete (fun sh =>
            sh.ownerUserID = userID || sh.recipientUserID = userID) =
          (store.shares.delete fun sh =>
            sh.ownerUserID = userID || sh.recipientUserID = userID).image
              Share.toSeconds Share.id_toSeconds :=
      Table.image_delete _ _ fun _ _ => rfl
    have audit :
        (store.toSeconds.audit.filter fun e => !(e.userID = userID)) =
          (store.audit.filter fun e => !(e.userID = userID)).map
            AuditEvent.toSeconds :=
      List.filter_map
    rw [Mirrors, users, ciphers, refresh, passkeys, shares, audit]
    rfl
  · rw [if_neg isStored, if_neg isStored]

/-- Creating a passkey. -/
theorem createWebAuthnCredential_mirrors
    (sql : backend.isSql = true)
    {c : WebAuthnCredential}
    (isNew : store.passkeys.find? c.id = none) :
    Mirrors (store.createWebAuthnCredential .memory c)
      (store.toSeconds.createWebAuthnCredential backend c) := by
  have taken :
      (store.toSeconds.passkeys.rows.any fun existing =>
          existing.credentialID = c.credentialID) =
        store.passkeys.rows.any fun existing =>
          existing.credentialID = c.credentialID :=
    Table.any_image WebAuthnCredential.id_toSeconds _ _ fun _ _ => rfl
  have absent : store.toSeconds.passkeys.find? c.id = none := by
    rw [find?_passkeys_toSeconds, isNew]
    rfl
  have passkeys :
      store.toSeconds.passkeys.upsert
          { c with
            createdAt := backend.stamp c.createdAt
            updatedAt := backend.stamp c.updatedAt } =
        (store.passkeys.upsert c).image WebAuthnCredential.toSeconds
          WebAuthnCredential.id_toSeconds := by
    rw [stamp_sql sql, stamp_sql sql]
    exact Table.image_upsert c
  unfold Store.createWebAuthnCredential
  rw [taken, absent, isNew]
  by_cases isTaken :
      (store.passkeys.rows.any fun existing =>
        existing.credentialID = c.credentialID) = true
  · rw [if_pos isTaken, if_pos isTaken]
  · rw [if_neg isTaken, if_neg isTaken, passkeys]
    simp only [Option.isSome_none, Bool.and_false, Bool.false_eq_true,
      ↓reduceIte, stamp_memory]
    rfl

/-- Recording the signature counter of a passkey. -/
theorem updateWebAuthnSignCount_mirrors
    (sql : backend.isSql = true)
    (now : Time)
    (credentialID : Bytes)
    (signCount : UInt32) :
    Mirrors (store.updateWebAuthnSignCount .memory now credentialID signCount)
      (store.toSeconds.updateWebAuthnSignCount backend now credentialID
        signCount) := by
  have isStored :
      (store.toSeconds.passkeys.rows.any fun c =>
          c.credentialID = credentialID) =
        store.passkeys.rows.any fun c => c.credentialID = credentialID :=
    Table.any_image WebAuthnCredential.id_toSeconds _ _ fun _ _ => rfl
  unfold Store.updateWebAuthnSignCount
  rw [isStored]
  by_cases known :
      (store.passkeys.rows.any fun c => c.credentialID = credentialID) = true
  · rw [if_pos known, if_pos known]
    have passkeys :
        store.toSeconds.passkeys.update
            (fun c => c.credentialID = credentialID)
            (fun c => { c with
              signCount := signCount
              updatedAt := backend.stamp now })
            (fun _ => rfl) =
          (store.passkeys.update (fun c => c.credentialID = credentialID)
            (fun c => { c with
              signCount := signCount
              updatedAt := now })
            (fun _ => rfl)).image WebAuthnCredential.toSeconds
              WebAuthnCredential.id_toSeconds := by
      rw [stamp_sql sql]
      exact Table.image_update _ _ _ _ _ _ (fun _ _ => rfl)
        fun _ _ _ => rfl
    rw [Mirrors, passkeys]
    rfl
  · rw [if_neg known, if_neg known]

/-- Deleting a passkey. -/
theorem deleteWebAuthnCredential_mirrors (userID id : String) :
    Mirrors (store.deleteWebAuthnCredential userID id)
      (store.toSeconds.deleteWebAuthnCredential userID id) := by
  have owned :
      ((store.toSeconds.passkeys.find? id).any fun c => c.userID = userID) =
        (store.passkeys.find? id).any fun c => c.userID = userID := by
    rw [find?_passkeys_toSeconds, Option.any_map]
    rfl
  have passkeys :
      store.toSeconds.passkeys.delete (fun c => c.id = id) =
        (store.passkeys.delete fun c => c.id = id).image
          WebAuthnCredential.toSeconds WebAuthnCredential.id_toSeconds :=
    Table.image_delete _ _ fun _ _ => rfl
  unfold Store.deleteWebAuthnCredential
  rw [owned]
  split
  · rw [Mirrors, passkeys]
    rfl
  · rfl

/-- Creating a cipher. -/
theorem createCipher_mirrors
    (sql : backend.isSql = true)
    (c : Cipher) :
    Mirrors (store.createCipher .memory c)
      (store.toSeconds.createCipher backend c) := by
  have ciphers :
      store.toSeconds.ciphers.upsert
          { c with
            createdAt := backend.stamp c.createdAt
            updatedAt := backend.stamp c.updatedAt } =
        (store.ciphers.upsert c).image Cipher.toSeconds Cipher.id_toSeconds := by
    rw [stamp_sql sql, stamp_sql sql]
    exact Table.image_upsert c
  unfold Store.createCipher
  rw [find?_ciphers_toSeconds, Option.isSome_map]
  split
  · rfl
  · rw [Mirrors, ciphers]
    rfl

/-- Updating a cipher that was created in the second that the call names. -/
theorem updateCipher_mirrors
    (sql : backend.isSql = true)
    {c : Cipher}
    (sameSecond :
      ∀ existing ∈ store.ciphers.rows,
        existing.id = c.id → existing.userID = c.userID →
          unix existing.createdAt = unix c.createdAt) :
    Mirrors (store.updateCipher .memory c)
      (store.toSeconds.updateCipher backend c) := by
  have owned :
      ((store.toSeconds.ciphers.find? c.id).any fun existing =>
          existing.userID = c.userID) =
        (store.ciphers.find? c.id).any fun existing =>
          existing.userID = c.userID := by
    rw [find?_ciphers_toSeconds, Option.any_map]
    rfl
  unfold Store.updateCipher
  rw [owned]
  by_cases isOwned :
      ((store.ciphers.find? c.id).any fun existing =>
        existing.userID = c.userID) = true
  · rw [if_pos isOwned, if_pos isOwned]
    obtain ⟨row, found, owner⟩ := (Option.any_eq_true _ _).mp isOwned
    have inMemory : Backend.memory.isSql = false := rfl
    have ciphers :
        store.toSeconds.ciphers.update (fun existing => existing.id = c.id)
            (fun existing => { existing with
              data := c.data
              createdAt :=
                if backend.isSql then existing.createdAt else c.createdAt
              updatedAt := backend.stamp c.updatedAt })
            (fun _ => rfl) =
          (store.ciphers.update (fun existing => existing.id = c.id)
            (fun existing => { existing with
              data := c.data
              createdAt :=
                if Backend.memory.isSql then existing.createdAt
                else c.createdAt
              updatedAt := Backend.memory.stamp c.updatedAt })
            (fun _ => rfl)).image Cipher.toSeconds Cipher.id_toSeconds := by
      refine Table.image_update _ _ _ _ _ _ (fun _ _ => rfl) ?_
      intro existing member isSelected
      have isRow : existing = row := by
        have sameID := of_decide_eq_true isSelected
        exact Table.eq_of_key_eq member (Table.mem_of_find? found)
          (sameID.trans (Table.key_of_find? found).symm)
      have second :=
        (toSecond_eq_iff _ _).mpr
          (sameSecond existing member (of_decide_eq_true isSelected)
            (by rw [isRow]; exact of_decide_eq_true owner))
      simp only [Cipher.toSeconds, sql, inMemory, Bool.false_eq_true,
        ↓reduceIte, stamp_sql sql, stamp_memory, second]
    rw [Mirrors, ciphers]
    rfl
  · rw [if_neg isOwned, if_neg isOwned]

/-- Deleting a cipher. -/
theorem deleteCipher_mirrors (userID id : String) :
    Mirrors (store.deleteCipher userID id)
      (store.toSeconds.deleteCipher userID id) := by
  have owned :
      ((store.toSeconds.ciphers.find? id).any fun c => c.userID = userID) =
        (store.ciphers.find? id).any fun c => c.userID = userID := by
    rw [find?_ciphers_toSeconds, Option.any_map]
    rfl
  have ciphers :
      store.toSeconds.ciphers.delete (fun c => c.id = id) =
        (store.ciphers.delete fun c => c.id = id).image
          Cipher.toSeconds Cipher.id_toSeconds :=
    Table.image_delete _ _ fun _ _ => rfl
  unfold Store.deleteCipher
  rw [owned]
  split
  · rw [Mirrors, ciphers]
    rfl
  · rfl

/-- Creating a refresh token under a new hash. -/
theorem createRefreshToken_mirrors
    (sql : backend.isSql = true)
    {rt : RefreshToken}
    (isNew : store.refresh.find? rt.tokenHash = none)
    (unused : rt.used = false) :
    Mirrors (store.createRefreshToken .memory rt)
      (store.toSeconds.createRefreshToken backend rt) := by
  have inMemory : ¬ Backend.memory.isSql = true := Bool.false_ne_true
  have refresh :
      store.toSeconds.refresh.upsert
          { rt with
            expiresAt := backend.stamp rt.expiresAt
            createdAt := backend.stamp rt.createdAt
            used := false } =
        (store.refresh.upsert rt).image RefreshToken.toSeconds
          RefreshToken.tokenHash_toSeconds := by
    have row :
        ({ rt with
          expiresAt := backend.stamp rt.expiresAt
          createdAt := backend.stamp rt.createdAt
          used := false } : RefreshToken) = rt.toSeconds := by
      rw [stamp_sql sql, stamp_sql sql, RefreshToken.toSeconds, unused]
    rw [row]
    exact Table.image_upsert rt
  unfold Store.createRefreshToken
  rw [if_pos sql, if_neg inMemory, find?_refresh_toSeconds, isNew, refresh]
  rfl

/-- Deleting a refresh token. -/
theorem deleteRefreshToken_mirrors (tokenHash : String) :
    Mirrors (store.deleteRefreshToken tokenHash)
      (store.toSeconds.deleteRefreshToken tokenHash) := by
  have refresh :
      store.toSeconds.refresh.delete (fun rt => rt.tokenHash = tokenHash) =
        (store.refresh.delete fun rt => rt.tokenHash = tokenHash).image
          RefreshToken.toSeconds RefreshToken.tokenHash_toSeconds :=
    Table.image_delete _ _ fun _ _ => rfl
  rw [Mirrors, Store.deleteRefreshToken, refresh]
  rfl

/-- Marking a refresh token. -/
theorem markRefreshTokenUsed_mirrors (tokenHash : String) :
    Mirrors (store.markRefreshTokenUsed tokenHash)
      (store.toSeconds.markRefreshTokenUsed tokenHash) := by
  have refresh :
      store.toSeconds.refresh.update (fun rt => rt.tokenHash = tokenHash)
          (fun rt => { rt with used := true }) (fun _ => rfl) =
        (store.refresh.update (fun rt => rt.tokenHash = tokenHash)
          (fun rt => { rt with used := true }) (fun _ => rfl)).image
            RefreshToken.toSeconds RefreshToken.tokenHash_toSeconds :=
    Table.image_update _ _ _ _ _ _ (fun _ _ => rfl) fun _ _ _ => rfl
  unfold Store.markRefreshTokenUsed
  rw [find?_refresh_toSeconds, Option.isSome_map]
  split
  · rw [Mirrors, refresh]
    rfl
  · rfl

/-- Revoking the refresh tokens of an account. -/
theorem deleteRefreshTokensForUser_mirrors (userID : String) :
    Mirrors (store.deleteRefreshTokensForUser userID)
      (store.toSeconds.deleteRefreshTokensForUser userID) := by
  have refresh :
      store.toSeconds.refresh.delete (fun rt => rt.userID = userID) =
        (store.refresh.delete fun rt => rt.userID = userID).image
          RefreshToken.toSeconds RefreshToken.tokenHash_toSeconds :=
    Table.image_delete _ _ fun _ _ => rfl
  rw [Mirrors, Store.deleteRefreshTokensForUser, refresh]
  rfl

/-- Appending an event under a new id. -/
theorem appendAuditEvent_mirrors
    (sql : backend.isSql = true)
    {e : AuditEvent}
    (isNew : ∀ existing ∈ store.audit, existing.id ≠ e.id) :
    Mirrors (store.appendAuditEvent .memory e)
      (store.toSeconds.appendAuditEvent backend e) := by
  have absent :
      (store.toSeconds.audit.any fun existing => existing.id = e.id) =
        false := by
    rw [List.any_eq_false]
    intro row member sameID
    obtain ⟨existing, isOld, rfl⟩ := List.mem_map.mp member
    exact isNew existing isOld (of_decide_eq_true sameID)
  have audit :
      store.toSeconds.audit ++ [e.toSeconds] =
        (store.audit ++ [e]).map AuditEvent.toSeconds := by
    rw [List.map_append]
    rfl
  have row :
      ({ e with createdAt := backend.stamp e.createdAt } : AuditEvent) =
        e.toSeconds := by
    rw [stamp_sql sql, AuditEvent.toSeconds]
  unfold Store.appendAuditEvent
  rw [absent, Bool.and_false, if_neg Bool.false_ne_true, row, audit]
  rfl

/-- Creating a share. -/
theorem createShare_mirrors
    (sql : backend.isSql = true)
    (sh : Share) :
    Mirrors (store.createShare .memory sh)
      (store.toSeconds.createShare backend sh) := by
  have shares :
      store.toSeconds.shares.upsert
          { sh with createdAt := backend.stamp sh.createdAt } =
        (store.shares.upsert sh).image Share.toSeconds Share.id_toSeconds := by
    rw [stamp_sql sql]
    exact Table.image_upsert sh
  unfold Store.createShare
  rw [find?_shares_toSeconds, Option.isSome_map]
  split
  · rfl
  · rw [Mirrors, shares]
    rfl

/-- Deleting a share. -/
theorem deleteShare_mirrors (userID id : String) :
    Mirrors (store.deleteShare userID id)
      (store.toSeconds.deleteShare userID id) := by
  have concerned :
      ((store.toSeconds.shares.find? id).any fun sh =>
          sh.recipientUserID = userID || sh.ownerUserID = userID) =
        (store.shares.find? id).any fun sh =>
          sh.recipientUserID = userID || sh.ownerUserID = userID := by
    rw [find?_shares_toSeconds, Option.any_map]
    rfl
  have shares :
      store.toSeconds.shares.delete (fun sh => sh.id = id) =
        (store.shares.delete fun sh => sh.id = id).image Share.toSeconds
          Share.id_toSeconds :=
    Table.image_delete _ _ fun _ _ => rfl
  unfold Store.deleteShare
  rw [concerned]
  split
  · rw [Mirrors, shares]
    rfl
  · rfl

end Writing

end Passwd.Server
