import Passwd.ExtensionSession
import Mathlib.Data.List.DropRight

namespace Passwd.Extension

open Interaction

/-!
# Locking the extension

Handlers interleave at every awaited call.  Two properties of the stored
session are stated over the events of a run: a lock is final until an unlock
that began afterwards, and an unlock holds until the next lock or unlock.  Locks
and unlocks are ordered by the call that removes or stores the session.

Every vault handler reads the session and later writes the whole record back,
and a read that finds the deadline passed later removes whatever is stored.  In
between the session may have been removed or replaced, so both properties need
that the storage has not moved on.
-/

/-- A run of the worker; a process handles the trigger of its number. -/
abbrev Running := Configuration workerCalls State Response

/-- The events of a run. -/
abbrev Events := Trace workerCalls

/-- All triggers wait to be handled. -/
def running (triggers : Nat → Trigger) (state : State) : Running :=
  .initial state fun process => handle (triggers process)

/-!
## Locks and unlocks
-/

/-- A lock message or the idle alarm. -/
def Trigger.locks : Trigger → Bool
  | .message .lock => true
  | .lockAlarm => true
  | _ => false

/-- An unlock message. -/
def Trigger.unlocks : Trigger → Bool
  | .message (.unlock _ _ _) => true
  | _ => false

/-- The call that marks the arrival of a trigger. -/
def Operation.begins : Operation → Bool
  | .begin => true
  | _ => false

/-- The call that reads the session. -/
def Operation.readsSession : Operation → Bool
  | .getSession => true
  | _ => false

/-- The session that a call stores. -/
def Operation.storedSession : Operation → Option StoredSession
  | .setSession session => some session
  | _ => none

/-- The call that removes the session. -/
def Operation.removesSession : Operation → Bool
  | .removeSession => true
  | _ => false

/-- The last call of a removal. -/
def Operation.endsRemoval : Operation → Bool
  | .clearAlarm => true
  | _ => false

section Events

variable (triggers : Nat → Trigger)

/-- The session that an unlock stores with an event. -/
def unlocked (event : Event workerCalls) : Option StoredSession :=
  if (triggers event.process).unlocks then
    event.exchange.operation.storedSession
  else none

/-- A lock removes the session with an event. -/
def lockRemoves (event : Event workerCalls) : Bool :=
  (triggers event.process).locks && event.exchange.operation.removesSession

/-- A lock completes with an event. -/
def lockCompletes (event : Event workerCalls) : Bool :=
  (triggers event.process).locks && event.exchange.operation.endsRemoval

/-- The request `later` began after the removal by `earlier` was complete. -/
def beganAfter (trace : Events) (later earlier : Nat) : Bool :=
  (trace.dropWhile fun event =>
      !(event.process = earlier && event.exchange.operation.endsRemoval)).any
    fun event =>
      event.process = later && event.exchange.operation.begins

/-- The session that the last unlock stored. -/
def lastUnlocked (trace : Events) : Option StoredSession :=
  trace.reverse.findSome? (unlocked triggers)

/-- What happened since the last unlock stored its session. -/
def sinceUnlocked (trace : Events) : Events :=
  trace.rtakeWhile fun event => (unlocked triggers event).isNone

/-- A process has read the session since the last unlock stored it. -/
def readSinceUnlocked (trace : Events) (process : Nat) : Bool :=
  (sinceUnlocked triggers trace).any fun event =>
    event.process = process && event.exchange.operation.readsSession

/--
The session was locked since the last unlock: by a lock, or by a read that
found the deadline of that session passed.
-/
def lockedSince (trace : Events) : Bool :=
  (sinceUnlocked triggers trace).any fun event =>
    event.exchange.operation.removesSession &&
      ((triggers event.process).locks ||
        readSinceUnlocked triggers trace event.process)

/--
After a lock is complete, no session is stored until an unlock that began
afterwards has stored one.
-/
def LockFinal (configuration : Running) : Prop :=
  ∀ lock ∈ configuration.trace, lockCompletes triggers lock = true →
    configuration.state.session = none ∨
      ∃ write ∈ configuration.trace,
        (unlocked triggers write).isSome = true ∧
          beganAfter configuration.trace write.process lock.process = true

instance (configuration : Running) :
    Decidable (LockFinal triggers configuration) :=
  inferInstanceAs
    (Decidable (∀ lock ∈ configuration.trace, _ = true → (_ ∨ _)))

/--
From the moment an unlock stores its session, the stored session is of its
account until the next lock or unlock.
-/
def UnlockHolds (configuration : Running) : Prop :=
  ∀ session,
    lastUnlocked triggers configuration.trace = some session →
      lockedSince triggers configuration.trace = false →
        ∃ stored,
          configuration.state.session = some stored ∧
            stored.identifier = session.identifier

/-!
## Steps that find the storage as they left it
-/

/--
A call on the session is undisturbed:

* an unlock stores its session when every lock that has removed the session
  was complete before the unlock began;
* a vault request writes the session back while one of that account is stored;
* a read that found the deadline passed removes nothing that an unlock has
  stored since.
-/
def undisturbedCall (configuration : Running) (process : Nat) :
    Operation → Bool
  | .setSession session =>
      if (triggers process).unlocks then
        configuration.trace.all fun event =>
          !lockRemoves triggers event ||
            beganAfter configuration.trace process event.process
      else
        configuration.state.session.any fun stored =>
          stored.identifier = session.identifier
  | .removeSession =>
      (triggers process).locks || configuration.state.session.isNone ||
        readSinceUnlocked triggers configuration.trace process
  | _ => true

/-- The next call of a process is undisturbed. -/
def undisturbed : Running → Nat → Choice → Prop :=
  fun configuration process _ =>
    ((configuration.pool process).operation?.all
      (undisturbedCall triggers configuration process)) = true

instance (configuration : Running) (process : Nat) (choice : Choice) :
    Decidable (undisturbed triggers configuration process choice) :=
  inferInstanceAs (Decidable (_ = true))

end Events

/-!
## One more event
-/

/-- What a call leaves stored. -/
theorem session_execute
    (choice : Choice)
    (state : State)
    (operation : Operation) :
    (∃ session,
        operation = .setSession session ∧
          (execute choice state operation).2.session = some session) ∨
      (operation = .removeSession ∧
        (execute choice state operation).2.session = none) ∨
      (operation.storedSession = none ∧ operation.removesSession = false ∧
        (execute choice state operation).2.session = state.session) := by
  cases operation with
  | setSession session =>
      exact Or.inl ⟨session, rfl, rfl⟩
  | removeSession =>
      exact Or.inr (Or.inl ⟨rfl, rfl⟩)
  | _ =>
      exact Or.inr (Or.inr ⟨rfl, rfl, rfl⟩)

/-- The call that stores a session. -/
theorem eq_setSession_of_storedSession
    {operation : Operation}
    {session : StoredSession}
    (stores : operation.storedSession = some session) :
    operation = .setSession session := by
  cases operation with
  | setSession other =>
      cases stores
      rfl
  | _ =>
      cases stores

/-- Later events do not change what began after what. -/
theorem beganAfter_append
    {trace : Events}
    {later earlier : Nat}
    (began : beganAfter trace later earlier = true)
    (event : Event workerCalls) :
    beganAfter (trace ++ [event]) later earlier = true := by
  unfold beganAfter at began ⊢
  rw [List.dropWhile_append]
  split
  · rename_i vanishes
    rw [List.isEmpty_iff.mp vanishes] at began
    cases began
  · rw [List.any_append, began, Bool.true_or]

section Append

variable {triggers : Nat → Trigger} {trace : Events}
  {event : Event workerCalls}

/-- An unlock's write becomes the last one. -/
theorem lastUnlocked_append_of_unlocked
    {session : StoredSession}
    (stores : unlocked triggers event = some session) :
    lastUnlocked triggers (trace ++ [event]) = some session := by
  rw [lastUnlocked, List.reverse_append, List.reverse_singleton,
    List.singleton_append, List.findSome?_cons, stores]

/-- Any other event leaves the last unlock as it was. -/
theorem lastUnlocked_append_of_other
    (other : unlocked triggers event = none) :
    lastUnlocked triggers (trace ++ [event]) =
      lastUnlocked triggers trace := by
  rw [lastUnlocked, List.reverse_append, List.reverse_singleton,
    List.singleton_append, List.findSome?_cons, other]
  rfl

/-- Any other event is one more since the last unlock. -/
theorem sinceUnlocked_append_of_other
    (other : unlocked triggers event = none) :
    sinceUnlocked triggers (trace ++ [event]) =
      sinceUnlocked triggers trace ++ [event] := by
  rw [sinceUnlocked, List.rtakeWhile_concat, other]
  rfl

/-- What a process has read since the last unlock stays read. -/
theorem readSinceUnlocked_append
    {process : Nat}
    (other : unlocked triggers event = none)
    (read : readSinceUnlocked triggers trace process = true) :
    readSinceUnlocked triggers (trace ++ [event]) process = true := by
  unfold readSinceUnlocked at read ⊢
  rw [sinceUnlocked_append_of_other other, List.any_append, read,
    Bool.true_or]

/-- What is not locked after an event was not locked before. -/
theorem lockedSince_of_append
    (other : unlocked triggers event = none)
    (notLocked : lockedSince triggers (trace ++ [event]) = false) :
    lockedSince triggers trace = false := by
  rw [Bool.eq_false_iff] at notLocked ⊢
  intro isLocked
  apply notLocked
  obtain ⟨removal, member, ends⟩ := List.any_eq_true.mp isLocked
  obtain ⟨removes, isLock⟩ := (Bool.and_eq_true _ _).mp ends
  refine List.any_eq_true.mpr ⟨removal, ?_, ?_⟩
  · rw [sinceUnlocked_append_of_other other]
    exact List.mem_append_left _ member
  · rw [removes, Bool.true_and]
    rcases (Bool.or_eq_true _ _).mp isLock with locks | read
    · rw [locks, Bool.true_or]
    · rw [readSinceUnlocked_append other read, Bool.or_true]

/-- A removal by a lock, or after a read of the session, locks it. -/
theorem lockedSince_of_removal
    (other : unlocked triggers event = none)
    (removes : event.exchange.operation.removesSession = true)
    (ends :
      (triggers event.process).locks = true ∨
        readSinceUnlocked triggers trace event.process = true) :
    lockedSince triggers (trace ++ [event]) = true := by
  refine List.any_eq_true.mpr ⟨event, ?_, ?_⟩
  · rw [sinceUnlocked_append_of_other other]
    exact List.mem_append_right _ (List.mem_singleton_self event)
  · rw [removes, Bool.true_and]
    rcases ends with locks | read
    · rw [locks, Bool.true_or]
    · rw [readSinceUnlocked_append other read, Bool.or_true]

end Append

/-!
## What a run preserves
-/

section Runs

variable {triggers : Nat → Trigger} {state : State} {final : Running}

/-- The undisturbed call of a process. -/
theorem undisturbedCall_of_perform
    {configuration : Running}
    {process : Nat}
    {choice : Choice}
    {operation : Operation}
    {next : Answer operation → Worker Response}
    (permitted : undisturbed triggers configuration process choice)
    (shape : configuration.pool process = .perform operation next) :
    undisturbedCall triggers configuration process operation = true := by
  rw [undisturbed, shape] at permitted
  exact permitted

/--
While a session is stored, every lock that has removed one is followed by an
unlock that began after the lock was complete.
-/
def RemovalsAnswered
    (triggers : Nat → Trigger)
    (configuration : Running) : Prop :=
  configuration.state.session ≠ none →
    ∀ removal ∈ configuration.trace, lockRemoves triggers removal = true →
      ∃ write ∈ configuration.trace,
        (unlocked triggers write).isSome = true ∧
          beganAfter configuration.trace write.process removal.process = true

/-- One more event that is no removal by a lock leaves the removals answered. -/
theorem RemovalsAnswered.append
    {configuration : Running}
    (answered : RemovalsAnswered triggers configuration)
    (stored : configuration.state.session ≠ none)
    {event : Event workerCalls}
    (other : lockRemoves triggers event = false) :
    ∀ removal ∈ configuration.trace ++ [event],
      lockRemoves triggers removal = true →
        ∃ write ∈ configuration.trace ++ [event],
          (unlocked triggers write).isSome = true ∧
            beganAfter (configuration.trace ++ [event]) write.process
              removal.process = true := by
  intro removal member removes
  rcases List.mem_append.mp member with old | new
  · obtain ⟨write, isEvent, isUnlock, began⟩ :=
      answered stored removal old removes
    exact ⟨write, List.mem_append_left _ isEvent, isUnlock,
      beganAfter_append began event⟩
  · rw [List.mem_singleton.mp new, other] at removes
    cases removes

/-- In an undisturbed run the removals by locks are answered. -/
theorem removalsAnswered_of_reaches
    (reaches :
      Configuration.Reaches execute (undisturbed triggers)
        (running triggers state) final) :
    RemovalsAnswered triggers final := by
  refine reaches.invariant (RemovalsAnswered triggers) ?_ ?_
  · intro _ removal member
    cases member
  · intro configuration process operation next choice _ answered shape permitted
    have calm := undisturbedCall_of_perform permitted shape
    intro stored
    rcases session_execute choice configuration.state operation with
      ⟨session, rfl, -⟩ | ⟨-, removed⟩ | ⟨-, notRemoval, unchanged⟩
    · have other :
          lockRemoves triggers
            ⟨process, ⟨.setSession session, ()⟩⟩ = false :=
        Bool.and_false _
      cases isUnlock : (triggers process).unlocks with
      | false =>
          simp only [undisturbedCall, isUnlock, Bool.false_eq_true,
            ↓reduceIte] at calm
          obtain ⟨before, isStored, -⟩ := (Option.any_eq_true _ _).mp calm
          have storedBefore : configuration.state.session ≠ none := by
            rw [isStored]
            exact Option.some_ne_none before
          exact answered.append storedBefore other
      | true =>
          simp only [undisturbedCall, isUnlock, ↓reduceIte] at calm
          intro removal member removes
          rcases List.mem_append.mp member with old | new
          · have began := List.all_eq_true.mp calm removal old
            rw [removes, Bool.not_true, Bool.false_or] at began
            refine ⟨⟨process, ⟨.setSession session, ()⟩⟩,
              List.mem_append_right _ (List.mem_singleton_self _), ?_,
              beganAfter_append began _⟩
            rw [unlocked, isUnlock]
            rfl
          · rw [List.mem_singleton.mp new] at removes
            exact absurd removes (Bool.eq_false_iff.mp other)
    · exact absurd removed stored
    · have other :
          lockRemoves triggers
            ⟨process, ⟨operation,
              (execute choice configuration.state operation).1⟩⟩ = false := by
        rw [lockRemoves, notRemoval, Bool.and_false]
      have storedBefore : configuration.state.session ≠ none := by
        rw [← unchanged]
        exact stored
      exact answered.append storedBefore other

/-- In an undisturbed run every unlock holds. -/
theorem unlockHolds_of_reaches
    (reaches :
      Configuration.Reaches execute (undisturbed triggers)
        (running triggers state) final) :
    UnlockHolds triggers final := by
  refine reaches.invariant (UnlockHolds triggers) ?_ ?_
  · intro session isLast
    cases isLast
  · intro configuration process operation next choice _ holds shape permitted
    have calm := undisturbedCall_of_perform permitted shape
    intro session isLast notLocked
    cases isUnlock :
        unlocked triggers
          ⟨process, ⟨operation,
            (execute choice configuration.state operation).1⟩⟩ with
    | some written =>
        have same := @lastUnlocked_append_of_unlocked triggers
          configuration.trace _ _ isUnlock
        obtain ⟨-, stores⟩ := Option.ite_none_right_eq_some.mp isUnlock
        have isWrite := eq_setSession_of_storedSession stores
        rw [Configuration.answered, same] at isLast
        refine ⟨written, ?_, congrArg _ (Option.some.inj isLast)⟩
        subst isWrite
        rfl
    | none =>
        rw [Configuration.answered,
          lastUnlocked_append_of_other isUnlock] at isLast
        obtain ⟨stored, isStored, sameAccount⟩ :=
          holds session isLast (lockedSince_of_append isUnlock notLocked)
        rcases session_execute choice configuration.state operation with
          ⟨written, rfl, after⟩ | ⟨rfl, -⟩ | ⟨-, -, unchanged⟩
        · have isVault : (triggers process).unlocks = false := by
            cases unlocks : (triggers process).unlocks with
            | false =>
                rfl
            | true =>
                rw [unlocked, unlocks] at isUnlock
                cases isUnlock
          simp only [undisturbedCall, isVault, Bool.false_eq_true,
            ↓reduceIte, isStored, Option.any_some, decide_eq_true_eq] at calm
          exact ⟨written, after, calm.symm.trans sameAccount⟩
        · have isLocked :
              (triggers process).locks = true ∨
                readSinceUnlocked triggers configuration.trace process =
                  true := by
            simpa [undisturbedCall, isStored] using calm
          have wasLocked := lockedSince_of_removal isUnlock rfl isLocked
          rw [Configuration.answered, wasLocked] at notLocked
          cases notLocked
        · exact ⟨stored, unchanged.trans isStored, sameAccount⟩

/-!
## The order of the calls of a removal
-/

/-- A removal is complete only after the session was removed. -/
def endsAfterRemoval
    (history : History workerCalls)
    (operation : Operation) : Prop :=
  operation.endsRemoval = true →
    ∃ exchange ∈ history, exchange.operation.removesSession = true

/-- A call that ends no removal may come at any time. -/
theorem endsAfterRemoval_of_not_ends
    {history : History workerCalls}
    {operation : Operation}
    (other : operation.endsRemoval = false) :
    endsAfterRemoval history operation := by
  intro ends
  rw [other] at ends
  cases ends

/-- A program makes the calls of its removals in order. -/
def Ordered {α : Type} (program : Worker α) : Prop :=
  ∀ history, program.Obeys endsAfterRemoval (fun _ _ => True) history

namespace Ordered

variable {α β : Type}

/-- A finished program makes no calls. -/
theorem done (value : α) : Ordered (.done value) :=
  fun _ => trivial

/-- A call that ends no removal. -/
theorem perform
    {operation : Operation}
    {next : Answer operation → Worker α}
    (other : operation.endsRemoval = false)
    (rest : ∀ answer, Ordered (next answer)) :
    Ordered (.perform operation next) :=
  fun _ => ⟨endsAfterRemoval_of_not_ends other, fun answer => rest answer _⟩

/-- A sequence of programs. -/
theorem bind
    {program : Worker α}
    {continuation : α → Worker β}
    (first : Ordered program)
    (rest : ∀ value, Ordered (continuation value)) :
    Ordered (program >>= continuation) := by
  intro history
  refine Program.obeys_bind.mpr ((first history).mono ?_ ?_)
  · intro _ _ requested
    exact requested
  · intro later value _
    exact rest value later

/-- A single call. -/
theorem await
    {operation : Operation}
    (other : operation.endsRemoval = false) :
    Ordered (Extension.await operation) :=
  perform other fun answer => done answer

end Ordered

/-- Removing the session. -/
theorem clearStored_ordered : Ordered clearStored := by
  intro history
  refine ⟨endsAfterRemoval_of_not_ends rfl, fun answer => ⟨?_, ?_⟩⟩
  · intro _
    exact ⟨⟨.removeSession, answer⟩,
      List.mem_append_right _ (List.mem_singleton_self _), rfl⟩
  · intro _
    trivial

/-- Reading the session. -/
theorem readStored_ordered : Ordered readStored := by
  refine .perform rfl ?_
  intro session
  cases session with
  | none =>
      exact .done _
  | some s =>
      refine .perform rfl ?_
      intro now
      simp only [Program.bind_done]
      split
      · exact clearStored_ordered.bind fun _ => .done _
      · exact .done _

/-- Storing the session. -/
theorem writeStored_ordered (s : StoredSession) : Ordered (writeStored s) :=
  .perform rfl fun _ => .await rfl

/-- The vault handlers. -/
theorem withSession_ordered
    {α : Type}
    {action : Client.Session → Worker (Except (Option String) α)}
    (answer : α → Response)
    (fallback : String)
    (acts : ∀ session, Ordered (action session)) :
    Ordered (withSession action answer fallback) := by
  refine readStored_ordered.bind ?_
  intro session
  cases session with
  | none =>
      exact .done _
  | some s =>
      have touches : Ordered (touch s) :=
        .perform rfl fun now => writeStored_ordered _
      refine touches.bind ?_
      intro _
      cases toSession s with
      | none =>
          exact .done _
      | some session =>
          refine (acts session).bind ?_
          intro outcome
          cases outcome with
          | ok value =>
              exact .done _
          | error message =>
              exact .done _

/-- The handler of `unlock`. -/
theorem unlock_ordered (identifier masterPassword totpCode : String) :
    Ordered (unlock identifier masterPassword totpCode) := by
  refine .perform rfl ?_
  intro outcome
  rcases outcome with (methods | message) | sess
  · exact .done _
  · exact .done _
  · refine .perform rfl ?_
    intro now
    exact (writeStored_ordered _).bind fun _ => .done _

/-- The listener. -/
theorem onMessage_ordered (msg : BgRequest) : Ordered (onMessage msg) := by
  cases msg with
  | getState =>
      refine readStored_ordered.bind ?_
      intro session
      cases session with
      | none =>
          exact .done _
      | some s =>
          exact .done _
  | unlock identifier masterPassword totpCode =>
      exact unlock_ordered identifier masterPassword totpCode
  | lock =>
      exact clearStored_ordered.bind fun _ => .done _
  | getItems =>
      exact withSession_ordered _ _ fun _ => .await rfl
  | addItem fields =>
      exact withSession_ordered _ _ fun _ => .await rfl
  | updateItem item =>
      exact withSession_ordered _ _ fun _ => .await rfl
  | deleteItem id =>
      exact withSession_ordered _ _ fun _ => .await rfl
  | getPending =>
      refine .perform rfl ?_
      intro pending
      cases pending with
      | none =>
          exact .done _
      | some p =>
          refine .perform rfl ?_
          intro now
          simp only [Program.bind_done]
          split
          · exact .perform rfl fun _ => .done _
          · exact .done _
  | dismissPending =>
      exact .perform rfl fun _ => .done _
  | captureLogin url username password =>
      change Ordered (captureLogin url username password)
      unfold captureLogin
      split
      · exact .perform rfl fun now => .perform rfl fun _ => .done _
      · exact .done _

/-- Every handler removes the session before it clears the alarm. -/
theorem handle_ordered (trigger : Trigger) : Ordered (handle trigger) := by
  cases trigger with
  | message msg =>
      exact .perform rfl fun _ => onMessage_ordered msg
  | lockAlarm =>
      exact .perform rfl fun _ =>
        clearStored_ordered.bind fun _ => .done _

/-- A complete lock has removed the session. -/
theorem exists_lockRemoves
    (reaches :
      Configuration.Reaches execute (undisturbed triggers)
        (running triggers state) final)
    {lock : Event workerCalls}
    (member : lock ∈ final.trace)
    (completes : lockCompletes triggers lock = true) :
    ∃ removal ∈ final.trace,
      removal.process = lock.process ∧
        lockRemoves triggers removal = true := by
  obtain ⟨locks, ends⟩ := (Bool.and_eq_true _ _).mp completes
  have ordered := handle_ordered (triggers lock.process) []
  obtain ⟨earlier, isPrefix, removedBefore⟩ :=
    (reaches.path lock.process).request_of_mem ordered
      (Trace.mem_ofProcess.mpr member)
  obtain ⟨exchange, isEarlier, removes⟩ := removedBefore ends
  refine ⟨⟨lock.process, exchange⟩,
    Trace.mem_ofProcess.mp (isPrefix.subset isEarlier), rfl, ?_⟩
  rw [lockRemoves, locks, removes]
  rfl

/--
However the handlers interleave, as long as every call on the session is
undisturbed, locks are final and unlocks hold.
-/
theorem lockFinal_of_undisturbed
    (reaches :
      Configuration.Reaches execute (undisturbed triggers)
        (running triggers state) final) :
    LockFinal triggers final ∧ UnlockHolds triggers final := by
  constructor
  · intro lock member completes
    by_cases stored : final.state.session = none
    · exact Or.inl stored
    · right
      obtain ⟨removal, isEvent, sameProcess, removes⟩ :=
        exists_lockRemoves reaches member completes
      rw [← sameProcess]
      exact removalsAnswered_of_reaches reaches stored removal isEvent removes
  · exact unlockHolds_of_reaches reaches

end Runs

/-!
## Disturbed runs
-/

/-- The session of an account at a server that accepts everything. -/
def someSession (identifier : String) : Client.Session where
  identifier := identifier
  accessToken := "access"
  refreshToken := "refresh"
  userKey := [1, 2, 3]
  protectedPrivateKey := ""

/-- A moment at which every remote call succeeds. -/
def moment (identifier : String) (now : Int) : Choice where
  now := now
  login := .ok (someSession identifier)
  loaded := .ok []
  added := .ok []
  saved := .ok ()

/-- Alice has unlocked the extension. -/
def aliceUnlocked : State where
  session := some
    { identifier := "alice", accessToken := "access",
      refreshToken := "refresh", userKeyB64 := "AQID", lockAt := IDLE_MS }
  pending := none
  alarm := some IDLE_MS

/-- A listing, a lock and an unlock. -/
def listLockUnlock : Nat → Trigger
  | 0 => .message .getItems
  | 1 => .message .lock
  | _ => .message (.unlock "bob" "password" "")

/-- The listing, the lock and the unlock one after the other. -/
def inOrder : List (Nat × Choice) :=
  List.replicate 7 (0, moment "alice" 1) ++
    List.replicate 3 (1, moment "alice" 2) ++
      List.replicate 5 (2, moment "bob" 3)

/-- One after the other, the requests leave the lock final. -/
theorem inOrder_final :
    LockFinal listLockUnlock
        ((running listLockUnlock aliceUnlocked).follow execute inOrder) ∧
      UnlockHolds listLockUnlock
        ((running listLockUnlock aliceUnlocked).follow execute inOrder) := by
  apply lockFinal_of_undisturbed
  apply Configuration.Reaches.of_follow_allowed
  intro index inRange
  revert index
  decide

/-- The listing has read the session when the lock removes it. -/
def lockedBetween : List (Nat × Choice) :=
  List.replicate 3 (0, moment "alice" 1) ++
    List.replicate 3 (1, moment "alice" 2) ++
      List.replicate 3 (0, moment "alice" 3)

/-- The listing has read the session when another account is unlocked. -/
def unlockedBetween : List (Nat × Choice) :=
  List.replicate 3 (0, moment "alice" 1) ++
    List.replicate 5 (2, moment "bob" 2) ++
      List.replicate 3 (0, moment "alice" 3)

/--
A listing in flight stores the session again that a lock has removed, and
replaces the session that an unlock has stored.
-/
theorem staleSession_rewritten :
    (¬ ∀ (triggers : Nat → Trigger) (state : State) (final : Running),
      Configuration.Reaches execute Configuration.anyStep
        (running triggers state) final →
      LockFinal triggers final) ∧
    ¬ ∀ (triggers : Nat → Trigger) (state : State) (final : Running),
      Configuration.Reaches execute Configuration.anyStep
        (running triggers state) final →
      UnlockHolds triggers final := by
  constructor
  · intro locksFinal
    have isFinal :=
      locksFinal listLockUnlock aliceUnlocked _
        (Configuration.Reaches.of_follow lockedBetween _)
    revert isFinal
    decide
  · intro unlocksHold
    have holds :=
      unlocksHold listLockUnlock aliceUnlocked _
        (Configuration.Reaches.of_follow unlockedBetween _)
    obtain ⟨stored, isStored, sameAccount⟩ :=
      holds
        { identifier := "bob", accessToken := "access",
          refreshToken := "refresh", userKeyB64 := "AQID",
          lockAt := 2 + IDLE_MS }
        (by decide) (by decide)
    have isAlice :
        ((running listLockUnlock aliceUnlocked).follow execute
          unlockedBetween).state.session.map StoredSession.identifier =
            some "alice" := by
      decide
    rw [isStored, Option.map_some, sameAccount] at isAlice
    exact absurd (Option.some.inj isAlice) (by decide)

/-- The unlock is at the server when the lock removes the session. -/
def lockedWhileUnlocking : List (Nat × Choice) :=
  List.replicate 3 (2, moment "bob" 1) ++
    List.replicate 3 (1, moment "bob" 2) ++
      List.replicate 2 (2, moment "bob" 3)

/-- An unlock that is under way when the worker is locked undoes the lock. -/
theorem unlock_undoes_lock :
    ¬ LockFinal listLockUnlock
      ((running listLockUnlock aliceUnlocked).follow execute
        lockedWhileUnlocking) := by
  decide

/-- The listing has found the session idle when another account is unlocked. -/
def unlockedOverIdle : List (Nat × Choice) :=
  List.replicate 3 (0, moment "alice" (1 + IDLE_MS)) ++
    List.replicate 5 (2, moment "bob" (2 + IDLE_MS)) ++
      List.replicate 2 (0, moment "alice" (3 + IDLE_MS))

/-- A read that found an older session idle removes the newer one. -/
theorem idleRead_removes_unlock :
    ¬ UnlockHolds listLockUnlock
      ((running listLockUnlock aliceUnlocked).follow execute
        unlockedOverIdle) := by
  intro holds
  obtain ⟨stored, isStored, -⟩ :=
    holds
      { identifier := "bob", accessToken := "access",
        refreshToken := "refresh", userKeyB64 := "AQID",
        lockAt := 2 + IDLE_MS + IDLE_MS }
      (by decide) (by decide)
  have nothing :
      ((running listLockUnlock aliceUnlocked).follow execute
        unlockedOverIdle).state.session = none := by
    decide
  rw [nothing] at isStored
  cases isStored

end Passwd.Extension
