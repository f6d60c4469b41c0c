import Passwd.ServerStore
import Passwd.InteractionProgram

namespace Passwd.Server

open Base64 Interaction

/-!
# What a request handler does to the world

A handler is a program over the calls below: the methods of the store, the
lockout tracker, the passkey challenges, the clock and the random source.  Every
call is atomic.  What a call may depend on besides the state is its `Choice`:
the time, the random bytes, and whether the call fails.
-/

/-- A `lockEntry` of the lockout tracker, with its key. -/
structure LockEntry where
  key : String
  fails : Nat
  lockedTill : Time
deriving DecidableEq

/-- A `challengeEntry` with its handle; the session data are opaque text. -/
structure ChallengeEntry where
  handle : String
  data : String
  userID : String
  expires : Time
deriving DecidableEq

/-- The state that requests share. -/
structure State where
  store : Store
  lockout : Table LockEntry.key
  waPending : Table ChallengeEntry.handle

/-- A server that has not served a request. -/
def State.empty : State where
  store := .empty
  lockout := .empty
  waPending := .empty

/-!
## The lockout tracker
-/

/-- How many failures lock an account. -/
def maxFails : Nat := 5

/-- How long an account stays locked. -/
def lockFor : Time := 15 * 60 * second

/-- `locked` -/
def locked (now : Time) (lockout : Table LockEntry.key) (key : String) :
    Bool :=
  (lockout.find? key).any fun e => now < e.lockedTill

/-- `recordFailure` -/
def recordFailure
    (now : Time)
    (lockout : Table LockEntry.key)
    (key : String) :
    Table LockEntry.key :=
  let e :=
    (lockout.find? key).getD { key := key, fails := 0, lockedTill := zeroTime }
  lockout.upsert
    (if maxFails ≤ e.fails + 1 then
      { key := key, fails := 0, lockedTill := now + lockFor }
    else
      { key := key, fails := e.fails + 1, lockedTill := e.lockedTill })

/-- `reset` -/
def resetLockout (lockout : Table LockEntry.key) (key : String) :
    Table LockEntry.key :=
  lockout.delete fun e => e.key = key

/-!
## Passkey challenges
-/

/-- How long a challenge can be answered. -/
def challengeTTL : Time := 2 * 60 * second

/-- `put`, with the handle already drawn; expired entries are dropped first. -/
def putChallenge
    (now : Time)
    (waPending : Table ChallengeEntry.handle)
    (handle userID data : String) :
    Table ChallengeEntry.handle :=
  (waPending.delete fun e => e.expires < now).upsert
    { handle := handle, data := data, userID := userID,
      expires := now + challengeTTL }

/-- `take`: the entry, unless it is unknown or expired, is used up. -/
def takeChallenge
    (now : Time)
    (waPending : Table ChallengeEntry.handle)
    (handle : String) :
    Option ChallengeEntry × Table ChallengeEntry.handle :=
  ((waPending.find? handle).filter fun e => !(e.expires < now),
    waPending.delete fun e => e.handle = handle)

/-!
## Calls
-/

/-- One atomic call of a handler. -/
inductive Operation where
  | createUser (u : User)
  | getUserByIdentifierHash (identifierHash : String)
  | getUserByID (id : String)
  | setUserTOTP (userID secret : String) (enabled : Bool)
  | setUserTOTPCounter (userID : String) (counter : Nat)
  | setUserRecovery
      (userID recoveryProtectedUserKey recoveryVerifier : String)
  | clearUserRecovery (userID : String)
  | rotateMasterPassword
      (userID verifier protectedUserKey : String) (kdf : KDFParams)
  | deleteAccount (userID : String)
  | createWebAuthnCredential (c : WebAuthnCredential)
  | listWebAuthnCredentials (userID : String)
  | countWebAuthnCredentials (userID : String)
  | updateWebAuthnSignCount (credentialID : Bytes) (signCount : UInt32)
  | deleteWebAuthnCredential (userID id : String)
  | createCipher (c : Cipher)
  | updateCipher (c : Cipher)
  | deleteCipher (userID id : String)
  | listCiphers (userID : String)
  | createRefreshToken (rt : RefreshToken)
  | getRefreshToken (tokenHash : String)
  | deleteRefreshToken (tokenHash : String)
  | markRefreshTokenUsed (tokenHash : String)
  | deleteRefreshTokensForUser (userID : String)
  | listRefreshTokensForUser (userID : String)
  | appendAuditEvent (e : AuditEvent)
  | listAuditEvents (userID : String) (limit : Nat)
  | createShare (sh : Share)
  | listSharesForRecipient (recipientUserID : String)
  | deleteShare (userID id : String)
  | locked (key : String)
  | recordFailure (key : String)
  | reset (key : String)
  | putChallenge (handle userID data : String)
  | takeChallenge (handle : String)
  | now
  | random (count : Nat)
deriving DecidableEq

/-- What a call answers; `none` from `random` is an error of the source. -/
abbrev Answer : Operation → Type
  | .getUserByIdentifierHash _ => Except StoreError User
  | .getUserByID _ => Except StoreError User
  | .listWebAuthnCredentials _ => Except StoreError (List WebAuthnCredential)
  | .countWebAuthnCredentials _ => Except StoreError Nat
  | .listCiphers _ => Except StoreError (List Cipher)
  | .getRefreshToken _ => Except StoreError RefreshToken
  | .listRefreshTokensForUser _ => Except StoreError (List RefreshToken)
  | .listAuditEvents _ _ => Except StoreError (List AuditEvent)
  | .listSharesForRecipient _ => Except StoreError (List Share)
  | .locked _ => Bool
  | .recordFailure _ => Unit
  | .reset _ => Unit
  | .putChallenge _ _ _ => Unit
  | .takeChallenge _ => Option ChallengeEntry
  | .now => Time
  | .random _ => Option Bytes
  | _ => Except StoreError Unit

/-- The calls of a handler as an interface. -/
abbrev calls : Interface where
  Operation := Operation
  Answer := Answer

/-- A handler that returns a value. -/
abbrev Handler (α : Type) := Program calls α

/-- Make one call. -/
abbrev perform (operation : Operation) : Handler (Answer operation) :=
  @Program.call calls operation

/-- A handler that begins with a call. -/
@[simp] theorem perform_bind
    {α : Type}
    (operation : Operation)
    (next : Answer operation → Handler α) :
    @bind Handler _ (no_index (Answer operation)) α (perform operation) next =
      .perform operation next :=
  rfl

/-- What decides the outcome of a call besides the state. -/
structure Choice where
  now : Time
  entropy : Bytes
  fails : Operation → Bool

/-- `count` random bytes. -/
def Choice.bytes (choice : Choice) (count : Nat) : Bytes :=
  (choice.entropy ++ List.replicate count 0).take count

/-- A store call, which leaves the store alone when it fails. -/
def attempt
    {α : Type}
    (choice : Choice)
    (state : State)
    (operation : Operation)
    (outcome : Store.Outcome α) :
    Except StoreError α × State :=
  if choice.fails operation then
    (.error .failure, state)
  else
    (outcome.1, { state with store := outcome.2 })

/-- The effect of a call on one of the backends. -/
def execute
    (backend : Backend)
    (choice : Choice)
    (state : State)
    (operation : Operation) :
    Answer operation × State :=
  let store := state.store
  match operation with
  | .createUser u =>
      attempt choice state (.createUser u) (store.createUser backend u)
  | .getUserByIdentifierHash identifierHash =>
      attempt choice state (.getUserByIdentifierHash identifierHash)
        (store.getUserByIdentifierHash identifierHash)
  | .getUserByID id =>
      attempt choice state (.getUserByID id) (store.getUserByID id)
  | .setUserTOTP userID secret enabled =>
      attempt choice state (.setUserTOTP userID secret enabled)
        (store.setUserTOTP userID secret enabled)
  | .setUserTOTPCounter userID counter =>
      attempt choice state (.setUserTOTPCounter userID counter)
        (store.setUserTOTPCounter userID counter)
  | .setUserRecovery userID key verifier =>
      attempt choice state (.setUserRecovery userID key verifier)
        (store.setUserRecovery backend choice.now userID key verifier)
  | .clearUserRecovery userID =>
      attempt choice state (.clearUserRecovery userID)
        (store.clearUserRecovery backend choice.now userID)
  | .rotateMasterPassword userID verifier key kdf =>
      attempt choice state (.rotateMasterPassword userID verifier key kdf)
        (store.rotateMasterPassword backend choice.now userID verifier key kdf)
  | .deleteAccount userID =>
      attempt choice state (.deleteAccount userID)
        (store.deleteAccount userID)
  | .createWebAuthnCredential c =>
      attempt choice state (.createWebAuthnCredential c)
        (store.createWebAuthnCredential backend c)
  | .listWebAuthnCredentials userID =>
      attempt choice state (.listWebAuthnCredentials userID)
        (store.listWebAuthnCredentials userID)
  | .countWebAuthnCredentials userID =>
      attempt choice state (.countWebAuthnCredentials userID)
        (store.countWebAuthnCredentials userID)
  | .updateWebAuthnSignCount credentialID signCount =>
      attempt choice state (.updateWebAuthnSignCount credentialID signCount)
        (store.updateWebAuthnSignCount backend choice.now credentialID
          signCount)
  | .deleteWebAuthnCredential userID id =>
      attempt choice state (.deleteWebAuthnCredential userID id)
        (store.deleteWebAuthnCredential userID id)
  | .createCipher c =>
      attempt choice state (.createCipher c) (store.createCipher backend c)
  | .updateCipher c =>
      attempt choice state (.updateCipher c) (store.updateCipher backend c)
  | .deleteCipher userID id =>
      attempt choice state (.deleteCipher userID id)
        (store.deleteCipher userID id)
  | .listCiphers userID =>
      attempt choice state (.listCiphers userID) (store.listCiphers userID)
  | .createRefreshToken rt =>
      attempt choice state (.createRefreshToken rt)
        (store.createRefreshToken backend rt)
  | .getRefreshToken tokenHash =>
      attempt choice state (.getRefreshToken tokenHash)
        (store.getRefreshToken tokenHash)
  | .deleteRefreshToken tokenHash =>
      attempt choice state (.deleteRefreshToken tokenHash)
        (store.deleteRefreshToken tokenHash)
  | .markRefreshTokenUsed tokenHash =>
      attempt choice state (.markRefreshTokenUsed tokenHash)
        (store.markRefreshTokenUsed tokenHash)
  | .deleteRefreshTokensForUser userID =>
      attempt choice state (.deleteRefreshTokensForUser userID)
        (store.deleteRefreshTokensForUser userID)
  | .listRefreshTokensForUser userID =>
      attempt choice state (.listRefreshTokensForUser userID)
        (store.listRefreshTokensForUser backend choice.now userID)
  | .appendAuditEvent e =>
      attempt choice state (.appendAuditEvent e)
        (store.appendAuditEvent backend e)
  | .listAuditEvents userID limit =>
      attempt choice state (.listAuditEvents userID limit)
        (store.listAuditEvents backend userID limit)
  | .createShare sh =>
      attempt choice state (.createShare sh) (store.createShare backend sh)
  | .listSharesForRecipient recipientUserID =>
      attempt choice state (.listSharesForRecipient recipientUserID)
        (store.listSharesForRecipient backend recipientUserID)
  | .deleteShare userID id =>
      attempt choice state (.deleteShare userID id)
        (store.deleteShare userID id)
  | .locked key => (locked choice.now state.lockout key, state)
  | .recordFailure key =>
      ((), { state with
        lockout := recordFailure choice.now state.lockout key })
  | .reset key =>
      ((), { state with lockout := resetLockout state.lockout key })
  | .putChallenge handle userID data =>
      ((), { state with
        waPending :=
          putChallenge choice.now state.waPending handle userID data })
  | .takeChallenge handle =>
      let taken := takeChallenge choice.now state.waPending handle
      (taken.1, { state with waPending := taken.2 })
  | .now => (choice.now, state)
  | .random count =>
      if choice.fails (.random count) then
        (none, state)
      else
        (some (choice.bytes count), state)

end Passwd.Server
