import Passwd.ClientSession
import Passwd.InteractionPool

namespace Passwd.Extension

open Base64 Interaction Client

/-!
# The background worker of the extension

The worker keeps the unlocked session in `chrome.storage.session` and answers
the messages of the popup and the content scripts.  A handler is a program over
the calls that it awaits: the session storage, the alarm, the clock and the
operations of `session.ts`, whose outcome is left open.  Calls on the storage
and the alarm succeed.

The alarm is a trigger like a message; that it fires no sooner than it was set
for is not assumed.
-/

/-- How long an unlocked session may stay idle. -/
def IDLE_MS : Int := 15 * 60 * 1000

/-- How long a captured login is offered. -/
def PENDING_TTL_MS : Int := 5 * 60 * 1000

/-- `StoredSession` -/
structure StoredSession where
  identifier : String
  accessToken : String
  refreshToken : String
  userKeyB64 : String
  lockAt : Int
deriving DecidableEq

/-- `PendingSave` -/
structure PendingSave where
  url : String
  username : String
  password : String
deriving DecidableEq

/-- `StoredPending` -/
structure StoredPending extends PendingSave where
  capturedAt : Int
deriving DecidableEq

/-- `BgRequest` -/
inductive BgRequest where
  | getState
  | unlock (identifier masterPassword totpCode : String)
  | lock
  | getItems
  | addItem (fields : Json.Members)
  | updateItem (item : Json.Members)
  | deleteItem (id : String)
  | getPending
  | dismissPending
  | captureLogin (url username password : String)

/-- What starts a handler: a message, or the alarm `passwd-lock`. -/
inductive Trigger where
  | message (msg : BgRequest)
  | lockAlarm

/-- What `loginAccount` throws; an `Error` carries a message. -/
inductive LoginFailure where
  | twoFactorRequired (methods : List String)
  | other (message : Option String)

/-- What a handler answers. -/
inductive Response where
  | locked
  | unlocked (identifier : String)
  | ok
  | items (items : List Json.Members)
  | item (item : Json.Members)
  | twoFactorRequired (methods : List String)
  | error (message : String)
  | pending (pending : Option PendingSave)
  | nothing

/-!
## Calls
-/

/-- One awaited call, the arrival of the trigger, or a look at the clock. -/
inductive Operation where
  | begin
  | now
  | getSession
  | setSession (session : StoredSession)
  | removeSession
  | createAlarm (when : Int)
  | clearAlarm
  | getPending
  | setPending (pending : StoredPending)
  | removePending
  | loginAccount (identifier masterPassword totpCode : String)
  | loadVault (session : Session)
  | addItem (session : Session) (fields : Json.Members)
  | saveItem (session : Session) (item : Json.Members)
  | removeItem (session : Session) (id : String)

/-- What a call is answered; a failure may carry the message of an `Error`. -/
abbrev Answer : Operation → Type
  | .now => Int
  | .getSession => Option StoredSession
  | .getPending => Option StoredPending
  | .loginAccount _ _ _ => Except LoginFailure Session
  | .loadVault _ => Except (Option String) (List Json.Members)
  | .addItem _ _ => Except (Option String) Json.Members
  | .saveItem _ _ | .removeItem _ _ => Except (Option String) Unit
  | _ => Unit

/-- The calls of the worker as an interface. -/
abbrev workerCalls : Interface where
  Operation := Operation
  Answer := Answer

/-- A handler of the worker. -/
abbrev Worker (α : Type) := Program workerCalls α

/-- Make one call. -/
abbrev await (operation : Operation) : Worker (Answer operation) :=
  @Program.call workerCalls operation

/-- A handler that begins with a call. -/
@[simp] theorem await_bind
    {α : Type}
    (operation : Operation)
    (next : Answer operation → Worker α) :
    @bind Worker _ (no_index (Answer operation)) α (await operation) next =
      .perform operation next :=
  rfl

/-- What the worker stores in memory, and the alarm that is set. -/
structure State where
  session : Option StoredSession
  pending : Option StoredPending
  alarm : Option Int

/-- What decides the answers besides the state. -/
structure Choice where
  now : Int
  login : Except LoginFailure Session
  loaded : Except (Option String) (List Json.Members)
  added : Except (Option String) Json.Members
  saved : Except (Option String) Unit

/-- The effect of a call. -/
def execute
    (choice : Choice)
    (state : State) :
    (operation : Operation) → Answer operation × State
  | .begin => ((), state)
  | .now => (choice.now, state)
  | .getSession => (state.session, state)
  | .setSession session => ((), { state with session := some session })
  | .removeSession => ((), { state with session := none })
  | .createAlarm when => ((), { state with alarm := some when })
  | .clearAlarm => ((), { state with alarm := none })
  | .getPending => (state.pending, state)
  | .setPending pending => ((), { state with pending := some pending })
  | .removePending => ((), { state with pending := none })
  | .loginAccount _ _ _ => (choice.login, state)
  | .loadVault _ => (choice.loaded, state)
  | .addItem _ _ => (choice.added, state)
  | .saveItem _ _ => (choice.saved, state)
  | .removeItem _ _ => (choice.saved, state)

/-!
## The stored session
-/

/-- `b64encode` -/
def b64encode (u : Bytes) : String :=
  Base64.encode standard .padded u

/-- `b64decode`, or nothing where `atob` throws. -/
def b64decode (s : String) : Option Bytes :=
  decodeForgiving standard Crypto.isAtobSpace s.toList

/-- `writeStored` -/
def writeStored (s : StoredSession) : Worker Unit := do
  await (.setSession s)
  await (.createAlarm s.lockAt)

/-- `clearStored` -/
def clearStored : Worker Unit := do
  await .removeSession
  await .clearAlarm

/-- `readStored`: a session past its deadline is dropped. -/
def readStored : Worker (Option StoredSession) := do
  match ← await .getSession with
  | none => return none
  | some s =>
      let now ← await .now
      if s.lockAt < now then
        clearStored
        return none
      else
        return some s

/-- `toSession` -/
def toSession (s : StoredSession) : Option Session := do
  let userKey ← b64decode s.userKeyB64
  return {
    identifier := s.identifier
    accessToken := s.accessToken
    refreshToken := s.refreshToken
    userKey := userKey
    protectedPrivateKey := "" }

/-- `touch`: extend the idle deadline on activity. -/
def touch (s : StoredSession) : Worker Unit := do
  let now ← await .now
  writeStored { s with lockAt := now + IDLE_MS }

/-- `readPending` -/
def readPending : Worker (Option PendingSave) := do
  match ← await .getPending with
  | none => return none
  | some p =>
      let now ← await .now
      if PENDING_TTL_MS < now - p.capturedAt then
        await .removePending
        return none
      else
        return some p.toPendingSave

/-!
## The handlers
-/

/-- What `atob` throws on text that is not Base64. -/
def atobMessage : String :=
  "The string to be decoded is not correctly encoded."

/--
The common text of the vault handlers: read the session, extend its deadline,
and do one thing with it.
-/
def withSession
    {α : Type}
    (action : Session → Worker (Except (Option String) α))
    (answer : α → Response)
    (fallback : String) : Worker Response := do
  match ← readStored with
  | none => return .locked
  | some s =>
      touch s
      match toSession s with
      | none => return .error atobMessage
      | some session =>
          match ← action session with
          | .ok value => return answer value
          | .error message => return .error (message.getD fallback)

/-- The handler of `getState`. -/
def getState : Worker Response := do
  match ← readStored with
  | none => return .locked
  | some s => return .unlocked s.identifier

/-- The handler of `unlock`. -/
def unlock (identifier masterPassword totpCode : String) : Worker Response := do
  match ← await (.loginAccount identifier masterPassword totpCode) with
  | .ok sess =>
      let now ← await .now
      writeStored
        { identifier := sess.identifier
          accessToken := sess.accessToken
          refreshToken := sess.refreshToken
          userKeyB64 := b64encode sess.userKey
          lockAt := now + IDLE_MS }
      return .ok
  | .error (.twoFactorRequired methods) => return .twoFactorRequired methods
  | .error (.other message) =>
      return .error (message.getD "unlock failed")

/-- The handler of `captureLogin`. -/
def captureLogin (url username password : String) : Worker Response := do
  if password ≠ "" then
    let now ← await .now
    await (.setPending
      { url := url, username := username, password := password,
        capturedAt := now })
  return .ok

/-- The `onMessage` listener. -/
def onMessage : BgRequest → Worker Response
  | .getState => getState
  | .unlock identifier masterPassword totpCode =>
      unlock identifier masterPassword totpCode
  | .lock => do
      clearStored
      return .ok
  | .getItems =>
      withSession (fun s => await (.loadVault s)) .items
        "failed to load vault"
  | .addItem fields =>
      withSession (fun s => await (.addItem s fields)) .item
        "failed to add item"
  | .updateItem item =>
      withSession (fun s => await (.saveItem s item)) (fun _ => .ok)
        "failed to save item"
  | .deleteItem id =>
      withSession (fun s => await (.removeItem s id)) (fun _ => .ok)
        "failed to delete item"
  | .getPending => do
      let pending ← readPending
      return .pending pending
  | .dismissPending => do
      await .removePending
      return .ok
  | .captureLogin url username password => captureLogin url username password

/-- A handler from the arrival of its trigger on. -/
def handle : Trigger → Worker Response
  | .message msg => do
      await .begin
      onMessage msg
  | .lockAlarm => do
      await .begin
      clearStored
      return .nothing

end Passwd.Extension
