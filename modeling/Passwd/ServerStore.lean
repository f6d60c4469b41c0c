import Passwd.RowTable
import Passwd.Base64Text

namespace Passwd.Server

open Base64

/-!
# The persistence boundary

The records of the `storage` package and the operations of its `Store`
interface, each of them atomic.  The three implementations share the tables;
where they behave differently the operation asks which backend it runs on.

Two maps of the in-memory implementation, from ids to users and from identifier
hashes to ids, are one table here: they can differ only after a random account
id has repeated.
-/

/-- Nanoseconds since the beginning of 1970. -/
abbrev Time := Int

/-- One second, in nanoseconds. -/
def second : Time := 1000000000

/-- The zero value of `time.Time`, the beginning of the year 1. -/
def zeroTime : Time := -62135596800 * second

/-- `t.UTC().Unix()` -/
def unix (t : Time) : Int := t / second

/-- `time.Unix(n, 0).UTC()` -/
def fromUnix (n : Int) : Time := n * second

/-- The `KDFParams` an account was derived with. -/
structure KDFParams where
  type : String
  iterations : Int
  memoryMiB : Int
  parallelism : Int
deriving DecidableEq

/-- `User` -/
structure User where
  id : String
  identifierHash : String
  kdf : KDFParams
  masterPasswordVerifier : String
  protectedUserKey : String
  publicKey : String
  protectedPrivateKey : String
  recoveryProtectedUserKey : String
  recoveryVerifier : String
  totpSecret : String
  totpEnabled : Bool
  totpLastCounter : Nat
  createdAt : Time
  updatedAt : Time
deriving DecidableEq

/-- `Cipher` -/
structure Cipher where
  id : String
  userID : String
  data : String
  createdAt : Time
  updatedAt : Time
deriving DecidableEq

/-- `WebAuthnCredential` -/
structure WebAuthnCredential where
  id : String
  userID : String
  credentialID : Bytes
  publicKey : Bytes
  attestationType : String
  transports : String
  aaguid : Bytes
  signCount : UInt32
  name : String
  createdAt : Time
  updatedAt : Time
deriving DecidableEq

/-- `AuditEvent` -/
structure AuditEvent where
  id : String
  userID : String
  event : String
  detail : String
  createdAt : Time
deriving DecidableEq

/-- `Share` -/
structure Share where
  id : String
  ownerUserID : String
  recipientUserID : String
  wrappedKey : String
  data : String
  createdAt : Time
deriving DecidableEq

/-- `RefreshToken` -/
structure RefreshToken where
  tokenHash : String
  userID : String
  expiresAt : Time
  createdAt : Time
  used : Bool
deriving DecidableEq

/-- `ErrNotFound`, `ErrConflict` and every other error of a store. -/
inductive StoreError where
  | notFound
  | conflict
  | failure
deriving DecidableEq

/-- The three implementations of the `Store` interface. -/
inductive Backend where
  | memory
  | sqlite
  | postgres
deriving DecidableEq

/-- Whether an implementation keeps its rows in a database. -/
def Backend.isSql : Backend → Bool
  | .memory => false
  | .sqlite => true
  | .postgres => true

/-- A timestamp as it is read back: databases keep whole seconds. -/
def Backend.stamp (backend : Backend) (t : Time) : Time :=
  if backend.isSql then fromUnix (unix t) else t

/-- Whether a number fits the `INTEGER` columns of Postgres. -/
def fitsInt32 (number : Int) : Bool :=
  -2147483648 ≤ number && number ≤ 2147483647

/-- Whether the KDF columns take the parameters. -/
def Backend.takesKDF (backend : Backend) (kdf : KDFParams) : Bool :=
  backend ≠ .postgres ||
    (fitsInt32 kdf.iterations && fitsInt32 kdf.memoryMiB &&
      fitsInt32 kdf.parallelism)

/-- The tables of a store. -/
structure Store where
  users : Table User.id
  ciphers : Table Cipher.id
  refresh : Table RefreshToken.tokenHash
  passkeys : Table WebAuthnCredential.id
  audit : List AuditEvent
  shares : Table Share.id

namespace Store

/-- The store before anything is written. -/
def empty : Store where
  users := .empty
  ciphers := .empty
  refresh := .empty
  passkeys := .empty
  audit := []
  shares := .empty

/-- The result of a store call and the store after it. -/
abbrev Outcome (α : Type) := Except StoreError α × Store

variable (backend : Backend) (now : Time) (store : Store)

/-!
## Users
-/

/-- Whether an account with the identifier hash exists. -/
def identifierTaken (identifierHash : String) : Bool :=
  store.users.rows.any fun u => u.identifierHash = identifierHash

/--
`CreateUser`; the databases leave the TOTP counter to its default, and refuse
parameters that do not fit before they look for a conflict.
-/
def createUser (u : User) : Outcome Unit :=
  if backend.takesKDF u.kdf then
    if store.identifierTaken u.identifierHash then
      (.error .conflict, store)
    else if backend.isSql then
      if (store.users.find? u.id).isSome then
        (.error .conflict, store)
      else
        (.ok (), { store with
          users := store.users.upsert { u with
            totpLastCounter := 0
            createdAt := backend.stamp u.createdAt
            updatedAt := backend.stamp u.updatedAt } })
    else
      (.ok (), { store with users := store.users.upsert u })
  else
    (.error .failure, store)

/-- `GetUserByIdentifierHash` -/
def getUserByIdentifierHash (identifierHash : String) : Outcome User :=
  match store.users.rows.find? fun u =>
      u.identifierHash = identifierHash with
  | some u => (.ok u, store)
  | none => (.error .notFound, store)

/-- `GetUserByID` -/
def getUserByID (id : String) : Outcome User :=
  match store.users.find? id with
  | some u => (.ok u, store)
  | none => (.error .notFound, store)

/-- Rewrite the row of one user, if there is one. -/
def updateUser
    (userID : String)
    (change : User → User)
    (keepsID : ∀ u, (change u).id = u.id) :
    Outcome Unit :=
  if (store.users.find? userID).isSome then
    (.ok (), { store with
      users :=
        store.users.update (fun u => u.id = userID) change keepsID })
  else
    (.error .notFound, store)

/-- `SetUserTOTP` also resets the replay baseline. -/
def setUserTOTP (userID secret : String) (enabled : Bool) : Outcome Unit :=
  store.updateUser userID
    (fun u => { u with
      totpSecret := secret
      totpEnabled := enabled
      totpLastCounter := 0 })
    fun _ => rfl

/-- `SetUserTOTPCounter` -/
def setUserTOTPCounter (userID : String) (counter : Nat) : Outcome Unit :=
  store.updateUser userID (fun u => { u with totpLastCounter := counter })
    fun _ => rfl

/-- `SetUserRecovery`; the in-memory store leaves the update time alone. -/
def setUserRecovery
    (userID recoveryProtectedUserKey recoveryVerifier : String) :
    Outcome Unit :=
  store.updateUser userID
    (fun u => { u with
      recoveryProtectedUserKey := recoveryProtectedUserKey
      recoveryVerifier := recoveryVerifier
      updatedAt := if backend.isSql then backend.stamp now else u.updatedAt })
    fun _ => rfl

/-- `ClearUserRecovery` -/
def clearUserRecovery (userID : String) : Outcome Unit :=
  store.setUserRecovery backend now userID "" ""

/-- `RotateMasterPassword` -/
def rotateMasterPassword
    (userID verifier protectedUserKey : String)
    (kdf : KDFParams) :
    Outcome Unit :=
  if backend.takesKDF kdf then
    store.updateUser userID
      (fun u => { u with
        masterPasswordVerifier := verifier
        protectedUserKey := protectedUserKey
        kdf := kdf
        updatedAt := backend.stamp now })
      fun _ => rfl
  else
    (.error .failure, store)

/-- `DeleteAccount`, in one transaction. -/
def deleteAccount (userID : String) : Outcome Unit :=
  if (store.users.find? userID).isSome then
    (.ok (),
      { users := store.users.delete fun u => u.id = userID
        ciphers := store.ciphers.delete fun c => c.userID = userID
        refresh := store.refresh.delete fun rt => rt.userID = userID
        passkeys := store.passkeys.delete fun c => c.userID = userID
        audit := store.audit.filter fun e => !(e.userID = userID)
        shares := store.shares.delete fun sh =>
          sh.ownerUserID = userID || sh.recipientUserID = userID })
  else
    (.error .notFound, store)

/-!
## Passkeys
-/

/-- `CreateWebAuthnCredential` -/
def createWebAuthnCredential (c : WebAuthnCredential) : Outcome Unit :=
  if store.passkeys.rows.any fun existing =>
      existing.credentialID = c.credentialID then
    (.error .conflict, store)
  else if backend.isSql && (store.passkeys.find? c.id).isSome then
    (.error .conflict, store)
  else
    (.ok (), { store with
      passkeys := store.passkeys.upsert { c with
        createdAt := backend.stamp c.createdAt
        updatedAt := backend.stamp c.updatedAt } })

/-- `ListWebAuthnCredentials`, oldest first. -/
def listWebAuthnCredentials (userID : String) :
    Outcome (List WebAuthnCredential) :=
  (.ok ((store.passkeys.rows.filter fun c => c.userID = userID).mergeSort
      fun first later => first.createdAt ≤ later.createdAt), store)

/-- `CountWebAuthnCredentials` -/
def countWebAuthnCredentials (userID : String) : Outcome Nat :=
  (.ok (store.passkeys.rows.filter fun c => c.userID = userID).length, store)

/-- `UpdateWebAuthnSignCount` -/
def updateWebAuthnSignCount
    (credentialID : Bytes)
    (signCount : UInt32) :
    Outcome Unit :=
  if store.passkeys.rows.any fun c => c.credentialID = credentialID then
    (.ok (), { store with
      passkeys :=
        store.passkeys.update (fun c => c.credentialID = credentialID)
          (fun c => { c with
            signCount := signCount
            updatedAt := backend.stamp now })
          fun _ => rfl })
  else
    (.error .notFound, store)

/-- `DeleteWebAuthnCredential` -/
def deleteWebAuthnCredential (userID id : String) : Outcome Unit :=
  if (store.passkeys.find? id).any fun c => c.userID = userID then
    (.ok (), { store with
      passkeys := store.passkeys.delete fun c => c.id = id })
  else
    (.error .notFound, store)

/-!
## Ciphers
-/

/-- `CreateCipher` -/
def createCipher (c : Cipher) : Outcome Unit :=
  if (store.ciphers.find? c.id).isSome then
    (.error .conflict, store)
  else
    (.ok (), { store with
      ciphers := store.ciphers.upsert { c with
        createdAt := backend.stamp c.createdAt
        updatedAt := backend.stamp c.updatedAt } })

/--
`UpdateCipher`; the in-memory store replaces the whole row, the creation time
included.
-/
def updateCipher (c : Cipher) : Outcome Unit :=
  if (store.ciphers.find? c.id).any fun existing =>
      existing.userID = c.userID then
    (.ok (), { store with
      ciphers :=
        store.ciphers.update (fun existing => existing.id = c.id)
          (fun existing => { existing with
            data := c.data
            createdAt :=
              if backend.isSql then existing.createdAt else c.createdAt
            updatedAt := backend.stamp c.updatedAt })
          fun _ => rfl })
  else
    (.error .notFound, store)

/-- `DeleteCipher` -/
def deleteCipher (userID id : String) : Outcome Unit :=
  if (store.ciphers.find? id).any fun c => c.userID = userID then
    (.ok (), { store with
      ciphers := store.ciphers.delete fun c => c.id = id })
  else
    (.error .notFound, store)

/-- `ListCiphers`, oldest first. -/
def listCiphers (userID : String) : Outcome (List Cipher) :=
  (.ok ((store.ciphers.rows.filter fun c => c.userID = userID).mergeSort
      fun first later => first.createdAt ≤ later.createdAt), store)

/-!
## Refresh tokens
-/

/--
`CreateRefreshToken`; the databases leave `used` to its default and refuse a
hash that is taken, the in-memory store overwrites it.
-/
def createRefreshToken (rt : RefreshToken) : Outcome Unit :=
  if backend.isSql then
    if (store.refresh.find? rt.tokenHash).isSome then
      (.error .conflict, store)
    else
      (.ok (), { store with
        refresh := store.refresh.upsert { rt with
          expiresAt := backend.stamp rt.expiresAt
          createdAt := backend.stamp rt.createdAt
          used := false } })
  else
    (.ok (), { store with refresh := store.refresh.upsert rt })

/-- `GetRefreshToken` -/
def getRefreshToken (tokenHash : String) : Outcome RefreshToken :=
  match store.refresh.find? tokenHash with
  | some rt => (.ok rt, store)
  | none => (.error .notFound, store)

/-- `DeleteRefreshToken`, which does not mind a missing row. -/
def deleteRefreshToken (tokenHash : String) : Outcome Unit :=
  (.ok (), { store with
    refresh := store.refresh.delete fun rt => rt.tokenHash = tokenHash })

/-- `MarkRefreshTokenUsed` -/
def markRefreshTokenUsed (tokenHash : String) : Outcome Unit :=
  if (store.refresh.find? tokenHash).isSome then
    (.ok (), { store with
      refresh :=
        store.refresh.update (fun rt => rt.tokenHash = tokenHash)
          (fun rt => { rt with used := true })
          fun _ => rfl })
  else
    (.error .notFound, store)

/-- `DeleteRefreshTokensForUser` -/
def deleteRefreshTokensForUser (userID : String) : Outcome Unit :=
  (.ok (), { store with
    refresh := store.refresh.delete fun rt => rt.userID = userID })

/-- `ListRefreshTokensForUser`: the live tokens, newest first. -/
def listRefreshTokensForUser (userID : String) :
    Outcome (List RefreshToken) :=
  let live := store.refresh.rows.filter fun rt =>
    rt.userID = userID && !rt.used &&
      (if backend.isSql then unix now < unix rt.expiresAt
        else now < rt.expiresAt)
  (.ok (live.mergeSort fun first later =>
      later.createdAt ≤ first.createdAt), store)

/-!
## Audit log and shares
-/

/-- `AppendAuditEvent`; the databases refuse an id that is taken. -/
def appendAuditEvent (e : AuditEvent) : Outcome Unit :=
  if backend.isSql && store.audit.any fun existing => existing.id = e.id then
    (.error .failure, store)
  else
    (.ok (), { store with
      audit :=
        store.audit ++ [{ e with createdAt := backend.stamp e.createdAt }] })

/-- Whether the databases list one event before another. -/
def listedBefore (first later : AuditEvent) : Bool :=
  later.createdAt < first.createdAt ||
    (later.createdAt = first.createdAt && later.id ≤ first.id)

/-- `ListAuditEvents`, newest first and at most `limit`. -/
def listAuditEvents (userID : String) (limit : Nat) :
    Outcome (List AuditEvent) :=
  let events := store.audit.filter fun e => e.userID = userID
  let ordered :=
    if backend.isSql then events.mergeSort listedBefore else events.reverse
  (.ok (ordered.take limit), store)

/-- `CreateShare` -/
def createShare (sh : Share) : Outcome Unit :=
  if (store.shares.find? sh.id).isSome then
    (.error .conflict, store)
  else
    (.ok (), { store with
      shares := store.shares.upsert { sh with
        createdAt := backend.stamp sh.createdAt } })

/-- `ListSharesForRecipient`, newest first. -/
def listSharesForRecipient (recipientUserID : String) :
    Outcome (List Share) :=
  let shares := store.shares.rows.filter fun sh =>
    sh.recipientUserID = recipientUserID
  (.ok (shares.mergeSort fun first later =>
      later.createdAt < first.createdAt ||
        (later.createdAt = first.createdAt &&
          (later.id ≤ first.id || !backend.isSql))), store)

/-- `DeleteShare`, for the recipient or the owner. -/
def deleteShare (userID id : String) : Outcome Unit :=
  if (store.shares.find? id).any fun sh =>
      sh.recipientUserID = userID || sh.ownerUserID = userID then
    (.ok (), { store with
      shares := store.shares.delete fun sh => sh.id = id })
  else
    (.error .notFound, store)

end Store

end Passwd.Server
