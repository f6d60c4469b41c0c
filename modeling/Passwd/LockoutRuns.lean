import Passwd.AccountRequests
import Passwd.InteractionLog
import Passwd.RequestScope

namespace Passwd.Server

open Base64 Interaction

/-!
# The lockout over sequences of requests

The tracker keeps one counter for each identifier, which a lock resets and which
never ages.  Still, every window of the length of a lock that contains no
successful sign-in contains at most `maxFails` failures: a failure is recorded
only while its identifier is not locked, and the failure that completes the
counter locks the identifier for longer than the rest of the window.

A run is recorded with the time of every call.  A failed attempt is recorded by
the call `recordFailure`, and a successful sign-in makes the call `reset`.
-/

/-- A server together with the calls made so far and their times. -/
abbrev Recording := Recorded calls State Time

/-- A recording after one more request. -/
def Recording.serve
    (backend : Backend)
    (env : Environment)
    (recording : Recording)
    (request : Request)
    (choices : Nat → Choice) :
    Recording :=
  ((Server.serve env request).run (Recorded.execute Choice.now (execute backend))
    choices recording).state

/-- A recording after requests that are served one after the other. -/
def Recording.serveAll
    (backend : Backend)
    (env : Environment)
    (recording : Recording)
    (requests : List (Request × (Nat → Choice))) :
    Recording :=
  requests.foldl
    (fun recording move => recording.serve backend env move.1 move.2)
    recording

/-- The recording of a state begins without a call. -/
def Recording.start (state : State) : Recording where
  state := state
  calls := []

/-- The clock never goes back. -/
def Timely (calls : List (Time × Operation)) : Prop :=
  calls.Pairwise fun earlier later => earlier.1 ≤ later.1

/-!
## The tracker
-/

section Tracker

variable {now later : Time} {lockout : Table LockEntry.key}
  {key other : String}

/-- The entry of a key after one more failure. -/
def LockEntry.failed (now : Time) (e : LockEntry) (key : String) : LockEntry :=
  if maxFails ≤ e.fails + 1 then
    { key := key, fails := 0, lockedTill := now + lockFor }
  else
    { key := key, fails := e.fails + 1, lockedTill := e.lockedTill }

/-- A failure is counted under its key. -/
theorem LockEntry.key_failed (e : LockEntry) :
    (e.failed now key).key = key := by
  unfold LockEntry.failed
  split
  · rfl
  · rfl

/-- A failure rewrites the entry of its key and no other. -/
theorem find?_recordFailure (now : Time) (lockout : Table LockEntry.key) :
    (recordFailure now lockout other).find? key =
      if other = key then
        some (((lockout.find? other).getD
          { key := other, fails := 0, lockedTill := zeroTime }).failed
            now other)
      else lockout.find? key := by
  refine (Table.find?_upsert _ _ _).trans ?_
  rw [← LockEntry.failed, LockEntry.key_failed]

/-- Forgetting the failures of a key leaves every other entry alone. -/
theorem find?_resetLockout_of_ne (different : other ≠ key) :
    (resetLockout lockout other).find? key = lockout.find? key := by
  rw [resetLockout, Table.find?_delete]
  cases found : lockout.find? key with
  | none =>
      rfl
  | some e =>
      have isKey := Table.key_of_find? found
      have kept : e.key ≠ other := isKey ▸ Ne.symm different
      simp [Option.filter, kept]

/-- What is not locked is not locked later. -/
theorem locked_mono
    (notLocked : locked now lockout key = false)
    (afterwards : now ≤ later) :
    locked later lockout key = false := by
  unfold locked at notLocked ⊢
  cases found : lockout.find? key with
  | none =>
      rfl
  | some e =>
      rw [found] at notLocked
      simp only [Option.any_some, decide_eq_false_iff_not, Int.not_lt]
        at notLocked ⊢
      exact Int.le_trans notLocked afterwards

end Tracker

/-!
## Sequences of calls
-/

/-- The effect of a call at a time on the tracker. -/
def trackerAfter
    (lockout : Table LockEntry.key)
    (call : Time × Operation) :
    Table LockEntry.key :=
  match call.2 with
  | .recordFailure key => recordFailure call.1 lockout key
  | .reset key => resetLockout lockout key
  | _ => lockout

/-- Every failure is recorded while its key is not locked. -/
def FailsUnlocked
    (lockout : Table LockEntry.key) :
    List (Time × Operation) → Prop
  | [] => True
  | call :: rest =>
      (∀ key, call.2 = .recordFailure key →
          locked call.1 lockout key = false) ∧
        FailsUnlocked (trackerAfter lockout call) rest

/-- A failure of a key in the window of the length of a lock from a time on. -/
def failsWithin (key : String) (t : Time) (call : Time × Operation) : Bool :=
  call.2 = .recordFailure key && (t ≤ call.1 && call.1 < t + lockFor)

/-- A window in which the failures of a key are not forgotten. -/
def NoResetWithin
    (key : String)
    (t : Time)
    (calls : List (Time × Operation)) :
    Prop :=
  ∀ call ∈ calls, t ≤ call.1 → call.1 < t + lockFor → call.2 ≠ .reset key

/-- How many failures a window can still contain before it ends. -/
def allowance
    (lockout : Table LockEntry.key)
    (key : String)
    (ends : Time) : Nat :=
  match lockout.find? key with
  | none => maxFails
  | some e => if ends ≤ e.lockedTill then 0 else max 1 (maxFails - e.fails)

section Calls

variable {lockout : Table LockEntry.key} {key : String} {t : Time}
  {calls : List (Time × Operation)}

/-- A window never has room for more than `maxFails` failures. -/
theorem allowance_le (lockout : Table LockEntry.key) (ends : Time) :
    allowance lockout key ends ≤ maxFails := by
  unfold allowance maxFails
  split
  · exact le_rfl
  · split
    · exact Nat.zero_le 5
    · omega

/-- One more call extends a sequence of guarded failures. -/
theorem failsUnlocked_append
    (call : Time × Operation) :
    FailsUnlocked lockout (calls ++ [call]) ↔
      FailsUnlocked lockout calls ∧
        ∀ key, call.2 = .recordFailure key →
          locked call.1 (calls.foldl trackerAfter lockout) key = false := by
  induction calls generalizing lockout with
  | nil =>
      simp [FailsUnlocked]
  | cons first rest inductionHypothesis =>
      simp only [List.cons_append, FailsUnlocked, inductionHypothesis,
        List.foldl_cons, and_assoc]

/-- Other calls leave the entry of a key alone. -/
theorem find?_trackerAfter_of_other
    {call : Time × Operation}
    (notFailure : call.2 ≠ .recordFailure key)
    (notReset : call.2 ≠ .reset key) :
    (trackerAfter lockout call).find? key = lockout.find? key := by
  obtain ⟨time, operation⟩ := call
  cases operation
  case recordFailure other =>
    have different : other ≠ key := by
      rintro rfl
      exact notFailure rfl
    exact (find?_recordFailure time lockout).trans (if_neg different)
  case reset other =>
    have different : other ≠ key := by
      rintro rfl
      exact notReset rfl
    exact find?_resetLockout_of_ne different
  all_goals rfl

/-- A failure within a window uses up part of its allowance. -/
theorem allowance_recordFailure
    {now ends : Time}
    (notLocked : locked now lockout key = false)
    (within : now < ends)
    (lockOutlasts : ends ≤ now + lockFor) :
    allowance (recordFailure now lockout key) key ends + 1 ≤
      allowance lockout key ends := by
  have written :
      (recordFailure now lockout key).find? key =
        some (((lockout.find? key).getD
          { key := key, fails := 0, lockedTill := zeroTime }).failed
            now key) :=
    (find?_recordFailure now lockout).trans (if_pos rfl)
  unfold allowance
  rw [written]
  cases found : lockout.find? key with
  | none =>
      have notYet : ¬ maxFails ≤ 0 + 1 := by decide
      simp only [Option.getD_none, LockEntry.failed, if_neg notYet]
      split
      · decide
      · decide
  | some e =>
      have expired : e.lockedTill ≤ now := by
        simpa [locked, found] using notLocked
      have notBeyond : ¬ ends ≤ e.lockedTill :=
        Int.not_le.mpr (Int.lt_of_le_of_lt expired within)
      simp only [Option.getD_some, LockEntry.failed, if_neg notBeyond]
      by_cases completes : maxFails ≤ e.fails + 1
      · simp only [if_pos completes, if_pos lockOutlasts]
        exact Nat.le_max_left 1 _
      · simp only [if_neg completes, if_neg notBeyond]
        unfold maxFails at completes ⊢
        omega

/-- No failure lies within a window that has ended. -/
theorem countP_eq_zero_of_ended
    (ended : ∀ call ∈ calls, t + lockFor ≤ call.1) :
    calls.countP (failsWithin key t) = 0 := by
  rw [List.countP_eq_zero]
  intro call member isWithin
  simp only [failsWithin, Bool.and_eq_true, decide_eq_true_eq] at isWithin
  exact absurd isWithin.2.2 (Int.not_lt.mpr (ended call member))

/--
From the beginning of a window on, it contains at most as many failures as its
allowance.
-/
theorem countP_le_allowance
    (begun : ∀ call ∈ calls, t ≤ call.1)
    (timely : Timely calls)
    (guarded : FailsUnlocked lockout calls)
    (noReset : NoResetWithin key t calls) :
    calls.countP (failsWithin key t) ≤
      allowance lockout key (t + lockFor) := by
  induction calls generalizing lockout with
  | nil =>
      exact Nat.zero_le _
  | cons call rest inductionHypothesis =>
      have laterBegun : ∀ later ∈ rest, t ≤ later.1 :=
        fun later member => begun later (List.mem_cons_of_mem _ member)
      have laterNoReset : NoResetWithin key t rest :=
        fun later member => noReset later (List.mem_cons_of_mem _ member)
      obtain ⟨callFirst, laterTimely⟩ := List.pairwise_cons.mp timely
      obtain ⟨callGuarded, laterGuarded⟩ := guarded
      have later :=
        inductionHypothesis laterBegun laterTimely laterGuarded laterNoReset
      have callBegun := begun call List.mem_cons_self
      by_cases within : call.1 < t + lockFor
      · by_cases isFailure : call.2 = .recordFailure key
        · have counted : failsWithin key t call = true := by
            simp [failsWithin, isFailure, callBegun, within]
          have tracker :
              trackerAfter lockout call =
                recordFailure call.1 lockout key := by
            rw [trackerAfter, isFailure]
          rw [List.countP_cons_of_pos counted]
          rw [tracker] at later
          refine (Nat.succ_le_succ later).trans ?_
          exact allowance_recordFailure (callGuarded key isFailure) within
            (Int.add_le_add_right callBegun lockFor)
        · have notCounted : ¬ failsWithin key t call = true := by
            simp [failsWithin, isFailure]
          have sameEntry :
              (trackerAfter lockout call).find? key = lockout.find? key :=
            find?_trackerAfter_of_other isFailure
              (noReset call List.mem_cons_self callBegun within)
          rw [List.countP_cons_of_neg notCounted]
          refine later.trans (le_of_eq ?_)
          rw [allowance, sameEntry, allowance]
      · have ended : ∀ other ∈ call :: rest, t + lockFor ≤ other.1 := by
          intro other member
          rcases List.mem_cons.mp member with rfl | isLater
          · exact Int.not_lt.mp within
          · exact Int.le_trans (Int.not_lt.mp within) (callFirst other isLater)
        rw [countP_eq_zero_of_ended ended]
        exact Nat.zero_le _

/-- Every window without a successful sign-in contains few failures. -/
theorem countP_le_maxFails
    (timely : Timely calls)
    (guarded : FailsUnlocked lockout calls)
    (noReset : NoResetWithin key t calls) :
    calls.countP (failsWithin key t) ≤ maxFails := by
  induction calls generalizing lockout with
  | nil =>
      exact Nat.zero_le _
  | cons call rest inductionHypothesis =>
      obtain ⟨callFirst, laterTimely⟩ := List.pairwise_cons.mp timely
      by_cases early : call.1 < t
      · have notCounted : ¬ failsWithin key t call = true := by
          simp [failsWithin, Int.not_le.mpr early]
        rw [List.countP_cons_of_neg notCounted]
        exact inductionHypothesis laterTimely guarded.2
          fun later member => noReset later (List.mem_cons_of_mem _ member)
      · have begun : ∀ other ∈ call :: rest, t ≤ other.1 := by
          intro other member
          rcases List.mem_cons.mp member with rfl | isLater
          · exact Int.not_lt.mp early
          · exact Int.le_trans (Int.not_lt.mp early) (callFirst other isLater)
        exact (countP_le_allowance begun timely guarded noReset).trans
          (allowance_le lockout _)

end Calls

/-!
## What a request does to the tracker
-/

section Requests

variable {backend : Backend} {env : Environment} {choice : Choice}
  {state : State} {lockout : Table LockEntry.key}

/-- A call changes the tracker as its time and operation say. -/
theorem execute_tracker (operation : Operation) :
    (execute backend choice state operation).2.lockout =
      trackerAfter state.lockout (choice.now, operation) := by
  cases operation
  case random count =>
    simp only [execute_random]
    split
    · rfl
    · rfl
  all_goals first
    | rfl
    | exact attempt_lockout _ _ _ _

/-- Other calls leave the tracker alone. -/
theorem trackerAfter_of_unchanged
    {call : Time × Operation}
    (unchanged : call.2.changesLockout = false) :
    trackerAfter lockout call = lockout := by
  obtain ⟨time, operation⟩ := call
  cases operation
  case recordFailure key => cases unchanged
  case reset key => cases unchanged
  all_goals rfl

/--
The tracker of a recording follows from its calls, and its failures were
recorded while their keys were not locked.
-/
structure Tracked
    (lockout : Table LockEntry.key)
    (recording : Recording) :
    Prop where
  tracker :
    recording.state.lockout = recording.calls.foldl trackerAfter lockout
  guarded : Timely recording.calls → FailsUnlocked lockout recording.calls

/-- What holds of a recording in the middle of a request. -/
structure TrackedWithin
    (lockout : Table LockEntry.key)
    (before : Recording)
    (history : History calls)
    (recording : Recording) :
    Prop extends Tracked lockout recording where
  unchanged :
    (∀ earlier ∈ history, earlier.operation.changesLockout = false) →
      recording.state.lockout = before.state.lockout
  checked :
    (∀ earlier ∈ history, earlier.operation.changesLockout = false) →
      ∀ key, answered (.locked key) false ∈ history →
        ∃ call ∈ recording.calls,
          locked call.1 before.state.lockout key = false

/-- Every call of a request keeps the tracker of a recording explained. -/
theorem TrackedWithin.step
    {request : Request}
    {before recording : Recording}
    {history : History calls}
    {operation : Operation}
    (tracked : TrackedWithin lockout before history recording)
    (inScope : Scoped env request history operation) :
    TrackedWithin lockout before
      (history ++
        [⟨operation, (Recorded.execute Choice.now (execute backend) choice
          recording operation).1⟩])
      (Recorded.execute Choice.now (execute backend) choice recording
        operation).2 := by
  have earlierUnchanged :
      ∀ {exchange : Exchange calls},
        (∀ earlier ∈ history ++ [exchange],
          earlier.operation.changesLockout = false) →
        (∀ earlier ∈ history, earlier.operation.changesLockout = false) ∧
          exchange.operation.changesLockout = false := by
    intro exchange unchanged
    constructor
    · intro earlier member
      exact unchanged earlier (List.mem_append_left _ member)
    · exact unchanged exchange
        (List.mem_append_right _ (List.mem_singleton_self _))
  have tracker := @execute_tracker backend choice recording.state operation
  refine
    { tracker := ?_
      guarded := ?_
      unchanged := ?_
      checked := ?_ }
  · rw [Recorded.execute, List.foldl_append, ← tracked.tracker]
    exact tracker
  · intro timely
    obtain ⟨earlierTimely, -, newest⟩ := List.pairwise_append.mp timely
    refine (failsUnlocked_append _).mpr ⟨tracked.guarded earlierTimely, ?_⟩
    rintro key rfl
    obtain ⟨-, notLocked, unchanged⟩ := inScope.failure key rfl
    obtain ⟨call, isCall, wasUnlocked⟩ :=
      tracked.checked unchanged key notLocked
    rw [← tracked.tracker, tracked.unchanged unchanged]
    exact locked_mono wasUnlocked
      (newest call isCall _ (List.mem_singleton_self _))
  · intro unchanged
    obtain ⟨before, newest⟩ := earlierUnchanged unchanged
    refine tracker.trans ?_
    rw [trackerAfter_of_unchanged newest]
    exact tracked.unchanged before
  · intro unchanged key member
    obtain ⟨before, newest⟩ := earlierUnchanged unchanged
    rcases List.mem_append.mp member with old | new
    · obtain ⟨call, isCall, wasUnlocked⟩ := tracked.checked before key old
      exact ⟨call, List.mem_append_left _ isCall, wasUnlocked⟩
    · have isNewest := List.mem_singleton.mp new
      obtain rfl := Exchange.operation_eq isNewest
      refine ⟨(choice.now, .locked key),
        List.mem_append_right _ (List.mem_singleton_self _), ?_⟩
      rw [← tracked.unchanged before]
      exact (Exchange.answer_eq isNewest).symm

/-- A request keeps the tracker of a recording explained. -/
theorem Tracked.serve
    {recording : Recording}
    (tracked : Tracked lockout recording)
    (request : Request)
    (choices : Nat → Choice) :
    Tracked lockout (recording.serve backend env request choices) := by
  have within :
      TrackedWithin lockout recording
        ([] ++ ((Server.serve env request).run
          (Recorded.execute Choice.now (execute backend)) choices
          recording).history)
        (recording.serve backend env request choices) := by
    refine (serve_acts env request).run_invariant
      (TrackedWithin lockout recording) ?_ ?_
    · refine { tracked with unchanged := fun _ => rfl, checked := ?_ }
      intro _ key member
      cases member
    · intro history operation recording index inScope tracked
      exact tracked.step inScope
  exact within.toTracked

/-- Requests in turn keep the tracker of a recording explained. -/
theorem Tracked.serveAll
    {recording : Recording}
    (tracked : Tracked lockout recording)
    (requests : List (Request × (Nat → Choice))) :
    Tracked lockout (recording.serveAll backend env requests) := by
  induction requests generalizing recording with
  | nil =>
      exact tracked
  | cons move rest inductionHypothesis =>
      exact inductionHypothesis (tracked.serve move.1 move.2)

/-- The recording of a state is explained by the tracker of that state. -/
theorem tracked_start (state : State) :
    Tracked state.lockout (Recording.start state) where
  tracker := rfl
  guarded := fun _ => trivial

/-- A request under another identifier leaves the entry of a key alone. -/
theorem lockout_find?_served
    {request : Request}
    {key : String}
    (otherKey : request.lockoutKey env ≠ some key)
    (choices : Nat → Choice) :
    (served backend env state request choices).state.lockout.find? key =
      state.lockout.find? key := by
  refine (serve_acts env request).run_invariant
    (fun _ (later : State) =>
      later.lockout.find? key = state.lockout.find? key) rfl ?_
  intro history operation later index inScope same
  rw [execute_tracker]
  refine (find?_trackerAfter_of_other ?_ ?_).trans same
  · rintro rfl
    exact otherKey (inScope.failure key rfl).1
  · rintro rfl
    exact otherKey (inScope.reset key rfl)

/-!
## While an identifier is locked
-/

/--
A request was turned away after no more than a look at the lockout tracker, and
nothing has changed.
-/
structure TurnedAway
    (state : State)
    (completed : Program.Completed calls State Response) :
    Prop where
  refused : completed.value.isOk = false
  unchanged : completed.state = state
  noReading : ∀ exchange ∈ completed.history, ∃ key,
    exchange.operation = .locked key

/-- A request that is answered at once is turned away if it is refused. -/
theorem turnedAway_done
    {response : Response}
    {choices : Nat → Choice}
    (refused : response.isOk = false) :
    TurnedAway state
      ((Program.done response : Handler Response).run (execute backend)
        choices state) where
  refused := refused
  unchanged := rfl
  noReading := by
    intro exchange member
    cases member

/-- A handler that first looks at the tracker turns a locked key away. -/
theorem turnedAway_perform
    {key : String}
    {next : Handler Response}
    {choices : Nat → Choice}
    (isLocked : locked (choices 0).now state.lockout key = true) :
    TurnedAway state
      ((do
        let isLocked ← perform (.locked key)
        if isLocked then
          return writeError 429 "too many attempts; try again later"
        else
          next : Handler Response).run (execute backend) choices state) := by
  simp only [perform_bind, Program.run_perform, execute_locked, isLocked,
    ↓reduceIte]
  refine { refused := rfl, unchanged := rfl, noReading := ?_ }
  intro exchange member
  exact ⟨key, congrArg Exchange.operation (List.mem_singleton.mp member)⟩

/-- While its identifier is locked, every attempt is turned away. -/
theorem turnedAway_of_locked
    {request : Request}
    {key : String}
    {choices : Nat → Choice}
    (isKey : request.lockoutKey env = some key)
    (isLocked : locked (choices 0).now state.lockout key = true) :
    TurnedAway state (served backend env state request choices) := by
  unfold served serve
  cases request with
  | login req =>
      cases req with
      | none =>
          cases isKey
      | some req =>
          cases isKey
          exact turnedAway_perform isLocked
  | recoveryComplete req =>
      cases req with
      | none =>
          cases isKey
      | some req =>
          cases isKey
          dsimp only [handleRecoveryComplete]
          split
          · exact turnedAway_done rfl
          · exact turnedAway_perform isLocked
  | webAuthnLoginBegin req =>
      cases req with
      | none =>
          cases isKey
      | some req =>
          cases isKey
          dsimp only [handleWebAuthnLoginBegin]
          cases env.webAuthn with
          | none =>
              exact turnedAway_done rfl
          | some webAuthn =>
              exact turnedAway_perform isLocked
  | webAuthnLoginFinish req =>
      cases req with
      | none =>
          cases isKey
      | some req =>
          cases isKey
          dsimp only [handleWebAuthnLoginFinish]
          cases env.webAuthn with
          | none =>
              exact turnedAway_done rfl
          | some webAuthn =>
              exact turnedAway_perform isLocked
  | _ =>
      cases isKey

/-!
## Only a successful sign-in forgets failures
-/

/-- A call that forgets the failures of a key. -/
def Operation.forgets : Operation → Bool
  | .reset _ => true
  | _ => false

/-- A handler that answers with success once it has forgotten failures. -/
abbrev ForgetsOnSuccess (handler : Handler Response) : Prop :=
  handler.Commits (fun operation : Operation => operation.forgets = true)
    fun response => response.isOk = true

/-- A handler that forgets nothing. -/
abbrev Remembers {α : Type} (handler : Handler α) : Prop :=
  handler.Only fun operation : Operation => ¬ operation.forgets = true

/-- A quiet handler forgets nothing. -/
theorem OnlyQuiet.remembers
    {α : Type}
    {handler : Handler α}
    (quiet : OnlyQuiet handler) :
    Remembers handler := by
  refine quiet.mono ?_
  intro operation isQuiet forgets
  cases operation
  case reset key => cases isQuiet
  all_goals cases forgets

/-- Auditing before an answer forgets nothing. -/
theorem remembers_audited
    (userID event detail : String)
    (response : Response) :
    Remembers (audit userID event detail >>= fun _ => .done response) :=
  (onlyQuiet_audit userID event detail).remembers.bind fun _ => trivial

/-- Checking a code forgets nothing. -/
theorem remembers_verifyLoginTOTP (u : User) (code : String) :
    Remembers (verifyLoginTOTP env u code) := by
  apply only_verifyLoginTOTP
  · exact Bool.false_ne_true
  · intro counter
    exact Bool.false_ne_true

/-- Rejecting a password forgets nothing. -/
theorem remembers_rejectPassword (idHash : String) (account : Option String) :
    Remembers (rejectPassword idHash account) := by
  refine ⟨Bool.false_ne_true, fun recorded => ?_⟩
  cases account with
  | none =>
      trivial
  | some userID =>
      exact remembers_audited userID _ _ _

/-- Rejecting a second factor forgets nothing. -/
theorem remembers_rejectSecondFactor (idHash userID : String) :
    Remembers (rejectSecondFactor idHash userID) :=
  ⟨Bool.false_ne_true, fun _ => remembers_audited userID _ _ _⟩

/-- `completeLogin` -/
theorem forgetsOnSuccess_completeLogin (idHash : String) (u : User) :
    ForgetsOnSuccess (completeLogin env idHash u) := by
  refine (onlyQuiet_issueTokens u.id).remembers.commits_bind fun issued => ?_
  cases issued with
  | none =>
      trivial
  | some tokens =>
      intro done
      refine ⟨(remembers_audited u.id _ _ _).commits, fun _ => ?_⟩
      refine Program.obeys_bind.mpr (Program.obeys_bind.mpr ?_)
      exact (onlyQuiet_audit u.id _ _).obeys (fun _ _ _ _ => trivial)
        fun _ _ _ => rfl

/-- `checkSecondFactor` -/
theorem forgetsOnSuccess_checkSecondFactor
    (idHash : String)
    (u : User)
    (totpCode : String) :
    ForgetsOnSuccess (checkSecondFactor env idHash u totpCode) := by
  refine Program.commits_perform Bool.false_ne_true fun counted => ?_
  dsimp only [Program.bind_done]
  cases counted
  all_goals
    dsimp only
    split
    · split
      · trivial
      · split
        · refine (remembers_verifyLoginTOTP u totpCode).commits_bind
            fun accepted => ?_
          cases accepted with
          | none =>
              exact (remembers_rejectSecondFactor idHash u.id).commits
          | some counter =>
              exact forgetsOnSuccess_completeLogin idHash u
        · exact (remembers_rejectSecondFactor idHash u.id).commits
    · exact forgetsOnSuccess_completeLogin idHash u

/-- `handleLogin` -/
theorem forgetsOnSuccess_handleLogin (req : Option LoginRequest) :
    ForgetsOnSuccess (handleLogin env req) := by
  cases req with
  | none =>
      trivial
  | some req =>
      refine Program.commits_perform Bool.false_ne_true fun isLocked => ?_
      dsimp only [Program.bind_done]
      cases isLocked with
      | true =>
          trivial
      | false =>
          refine Program.commits_perform Bool.false_ne_true fun found => ?_
          dsimp only [Program.bind_done]
          cases found with
          | error e =>
              exact (remembers_rejectPassword _ none).commits
          | ok u =>
              dsimp only [Program.bind_done]
              split
              · exact forgetsOnSuccess_checkSecondFactor _ u req.totpCode
              · exact (remembers_rejectPassword _ (some u.id)).commits

/-- `rotateAccount` -/
theorem forgetsOnSuccess_rotateAccount
    (idHash : String)
    (u : User)
    (req : RecoveryCompleteRequest) :
    ForgetsOnSuccess (rotateAccount env idHash u req) := by
  refine (onlyQuiet_hashVerifier req.masterPasswordHash).remembers.commits_bind
    fun hashed => ?_
  cases hashed with
  | none =>
      trivial
  | some verifier =>
      refine Program.commits_perform Bool.false_ne_true fun rotated => ?_
      dsimp only [Program.bind_done]
      cases rotated with
      | error e =>
          trivial
      | ok done =>
          refine Program.commits_perform Bool.false_ne_true fun deleted => ?_
          refine (onlyQuiet_audit u.id _ _).remembers.commits_bind
            fun audited => ?_
          refine (onlyQuiet_issueTokens u.id).remembers.commits_bind
            fun issued => ?_
          cases issued with
          | none =>
              trivial
          | some tokens =>
              exact fun _ => ⟨trivial, fun _ => rfl⟩

/-- `handleRecoveryComplete` -/
theorem forgetsOnSuccess_handleRecoveryComplete
    (req : Option RecoveryCompleteRequest) :
    ForgetsOnSuccess (handleRecoveryComplete env req) := by
  cases req with
  | none =>
      trivial
  | some req =>
      dsimp only [handleRecoveryComplete]
      split
      · trivial
      · refine Program.commits_perform Bool.false_ne_true fun isLocked => ?_
        dsimp only [Program.bind_done]
        cases isLocked with
        | true =>
            trivial
        | false =>
            refine Program.commits_perform Bool.false_ne_true fun found => ?_
            dsimp only [Program.bind_done]
            cases found with
            | error e =>
                exact Program.commits_perform Bool.false_ne_true
                  fun _ => trivial
            | ok u =>
                dsimp only [Program.bind_done]
                split
                · exact forgetsOnSuccess_rotateAccount _ u req
                · exact Program.commits_perform Bool.false_ne_true
                    fun _ => trivial

/-- Reading the passkeys of an account forgets nothing. -/
theorem remembers_webAuthnUserFor (userID : String) :
    Remembers (webAuthnUserFor userID) := by
  refine ⟨Bool.false_ne_true, fun listed => ?_⟩
  cases listed with
  | error e => trivial
  | ok rows => trivial

/-- `completePasskeyLogin` -/
theorem forgetsOnSuccess_completePasskeyLogin
    (idHash : String)
    (u : User)
    (cred : Credential) :
    ForgetsOnSuccess (completePasskeyLogin env idHash u cred) := by
  refine Program.commits_perform Bool.false_ne_true fun written => ?_
  refine (onlyQuiet_issueTokens u.id).remembers.commits_bind fun issued => ?_
  cases issued with
  | none =>
      trivial
  | some tokens =>
      exact fun _ => ⟨trivial, fun _ => rfl⟩

/-- `checkAssertion` -/
theorem forgetsOnSuccess_checkAssertion
    (webAuthn : WebAuthn)
    (idHash : String)
    (u : User)
    (req : LoginFinishRequest) :
    ForgetsOnSuccess (checkAssertion env webAuthn idHash u req) := by
  refine Program.commits_perform Bool.false_ne_true fun entry => ?_
  dsimp only [Program.bind_done]
  split
  · trivial
  · split
    · trivial
    · refine (remembers_webAuthnUserFor u.id).commits_bind fun waUser => ?_
      cases waUser with
      | none =>
          trivial
      | some credentials =>
          dsimp only
          split
          · exact Program.commits_perform Bool.false_ne_true fun _ => trivial
          · exact forgetsOnSuccess_completePasskeyLogin idHash u _

/-- `handleWebAuthnLoginFinish` -/
theorem forgetsOnSuccess_handleWebAuthnLoginFinish
    (req : Option LoginFinishRequest) :
    ForgetsOnSuccess (handleWebAuthnLoginFinish env req) := by
  unfold handleWebAuthnLoginFinish
  split
  · trivial
  · cases req with
    | none =>
        trivial
    | some req =>
        refine Program.commits_perform Bool.false_ne_true fun isLocked => ?_
        dsimp only [Program.bind_done]
        cases isLocked with
        | true =>
            trivial
        | false =>
            refine Program.commits_perform Bool.false_ne_true fun found => ?_
            dsimp only [Program.bind_done]
            cases found with
            | error e =>
                exact Program.commits_perform Bool.false_ne_true
                  fun _ => trivial
            | ok u =>
                dsimp only [Program.bind_done]
                split
                · exact forgetsOnSuccess_checkAssertion _ _ u req
                · exact Program.commits_perform Bool.false_ne_true
                    fun _ => trivial

/-- `handleWebAuthnLoginBegin` -/
theorem remembers_handleWebAuthnLoginBegin (req : Option LoginBeginRequest) :
    Remembers (handleWebAuthnLoginBegin env req) := by
  unfold handleWebAuthnLoginBegin
  split
  · trivial
  · cases req with
    | none =>
        trivial
    | some req =>
        refine ⟨Bool.false_ne_true, fun isLocked => ?_⟩
        dsimp only [Program.bind_done]
        cases isLocked with
        | true =>
            trivial
        | false =>
            refine ⟨Bool.false_ne_true, fun found => ?_⟩
            dsimp only [Program.bind_done]
            cases found with
            | error e =>
                exact ⟨Bool.false_ne_true, fun _ => trivial⟩
            | ok u =>
                dsimp only [Program.bind_done]
                split
                · refine (remembers_webAuthnUserFor u.id).bind fun waUser => ?_
                  split
                  · trivial
                  · trivial
                  · refine ⟨Bool.false_ne_true, fun entropy => ?_⟩
                    dsimp only [Program.bind_done]
                    split
                    · trivial
                    · exact ⟨Bool.false_ne_true, fun _ =>
                        ⟨Bool.false_ne_true, fun _ => trivial⟩⟩
                · exact ⟨Bool.false_ne_true, fun _ => trivial⟩

/-- The endpoints that sign an account in. -/
def Request.signsIn : Request → Bool
  | .login _ => true
  | .recoveryComplete _ => true
  | .webAuthnLoginFinish _ => true
  | _ => false

/-- The failures of a key are forgotten only when it signs in successfully. -/
theorem signsIn_of_reset
    {request : Request}
    {key : String}
    {choices : Nat → Choice}
    (performed :
      ∃ exchange ∈
          (served backend env state request choices).history,
        exchange.operation = .reset key) :
    request.signsIn = true ∧
      request.lockoutKey env = some key ∧
      (served backend env state request choices).value.isOk = true := by
  obtain ⟨exchange, member, isReset⟩ := performed
  have isKey : request.lockoutKey env = some key := by
    obtain ⟨before, -, inScope⟩ :=
      (serve_acts env request).run_requests choices state exchange member
    exact inScope.reset key isReset
  have forgets : exchange.operation.forgets = true := by
    rw [isReset]
    rfl
  have performed :
      ∃ exchange ∈
          (served backend env state request choices).history,
        exchange.operation.forgets = true :=
    ⟨exchange, member, forgets⟩
  cases request with
  | login req =>
      refine ⟨rfl, isKey, ?_⟩
      exact (forgetsOnSuccess_handleLogin req).run choices state performed
  | recoveryComplete req =>
      refine ⟨rfl, isKey, ?_⟩
      exact (forgetsOnSuccess_handleRecoveryComplete req).run choices state
        performed
  | webAuthnLoginFinish req =>
      refine ⟨rfl, isKey, ?_⟩
      exact (forgetsOnSuccess_handleWebAuthnLoginFinish req).run choices state
        performed
  | webAuthnLoginBegin req =>
      exact absurd forgets
        ((remembers_handleWebAuthnLoginBegin req).run choices state exchange
          member)
  | _ =>
      cases isKey

/--
A sign-in of a key succeeds with a call in the window of the length of a lock
from a time on, while requests are served one after the other.
-/
def SignsInWithin
    (backend : Backend)
    (env : Environment)
    (key : String)
    (t : Time) :
    Recording → List (Request × (Nat → Choice)) → Prop
  | _, [] => False
  | recording, move :: rest =>
      (move.1.signsIn = true ∧
        move.1.lockoutKey env = some key ∧
        (served backend env recording.state move.1 move.2).value.isOk = true ∧
        ∃ call ∈ ((Recording.start recording.state).serve backend env move.1
            move.2).calls,
          t ≤ call.1 ∧ call.1 < t + lockFor) ∨
        SignsInWithin backend env key t
          (recording.serve backend env move.1 move.2) rest

instance SignsInWithin.decidable
    (key : String)
    (t : Time) :
    (recording : Recording) →
      (requests : List (Request × (Nat → Choice))) →
        Decidable (SignsInWithin backend env key t recording requests)
  | _, [] => isFalse id
  | recording, move :: rest =>
      have : Decidable
          (SignsInWithin backend env key t
            (recording.serve backend env move.1 move.2) rest) :=
        SignsInWithin.decidable key t _ rest
      inferInstanceAs (Decidable (_ ∨ _))

/-- A window without a successful sign-in keeps the failures of its key. -/
theorem noResetWithin_of_not_signsInWithin
    {recording : Recording}
    {requests : List (Request × (Nat → Choice))}
    {key : String}
    {t : Time}
    (noSignIn : ¬ SignsInWithin backend env key t recording requests)
    (earlier : NoResetWithin key t recording.calls) :
    NoResetWithin key t (recording.serveAll backend env requests).calls := by
  induction requests generalizing recording with
  | nil =>
      exact earlier
  | cons move rest inductionHypothesis =>
      obtain ⟨notNow, notLater⟩ := not_or.mp noSignIn
      refine inductionHypothesis notLater ?_
      intro call member begun within isReset
      have added :
          (recording.serve backend env move.1 move.2).calls =
            recording.calls ++
              ((Recording.start recording.state).serve backend env move.1
                move.2).calls :=
        Recorded.run_calls (Server.serve env move.1) move.2 recording
      rw [added] at member
      rcases List.mem_append.mp member with old | new
      · exact earlier call old begun within isReset
      · obtain ⟨-, -, -, operations⟩ :=
          @Recorded.run_execute calls State Choice Time Response Choice.now
            (execute backend) (Server.serve env move.1) move.2
            (Recording.start recording.state)
        have isCall : call.2 ∈
            (served backend env recording.state move.1 move.2).history.map
              Exchange.operation := by
          refine (congrArg (call.2 ∈ ·) operations).mp ?_
          exact List.mem_map_of_mem new
        obtain ⟨exchange, performed, same⟩ := List.mem_map.mp isCall
        obtain ⟨signsIn, isKey, isOk⟩ :=
          signsIn_of_reset ⟨exchange, performed, same.trans isReset⟩
        exact notNow ⟨signsIn, isKey, isOk, call, new, begun, within⟩

/--
Whatever requests are served one after the other, a window of the length of a
lock without a successful sign-in of a key contains at most `maxFails` failures
of it; while the key is locked every attempt on it is turned away; and requests
on other keys leave its entry alone.
-/
theorem lockout_bound (backend : Backend) (env : Environment) :
    (∀ (state : State) (requests : List (Request × (Nat → Choice)))
        (key : String) (t : Time),
      let recording := (Recording.start state).serveAll backend env requests
      Timely recording.calls →
        ¬ SignsInWithin backend env key t (Recording.start state) requests →
        recording.calls.countP (failsWithin key t) ≤ maxFails) ∧
    (∀ (state : State) (request : Request) (key : String)
        (choices : Nat → Choice),
      request.lockoutKey env = some key →
        locked (choices 0).now state.lockout key = true →
        TurnedAway state (served backend env state request choices)) ∧
    ∀ (state : State) (request : Request) (key : String)
        (choices : Nat → Choice),
      request.lockoutKey env ≠ some key →
        (served backend env state request choices).state.lockout.find? key =
          state.lockout.find? key := by
  refine ⟨?_, ?_, ?_⟩
  · intro state requests key t recording timely noSignIn
    have tracked : Tracked state.lockout recording :=
      (tracked_start state).serveAll requests
    refine countP_le_maxFails timely (tracked.guarded timely) ?_
    refine noResetWithin_of_not_signsInWithin noSignIn ?_
    intro call member
    cases member
  · intro state request key choices isKey isLocked
    exact turnedAway_of_locked isKey isLocked
  · intro state request key choices otherKey
    exact lockout_find?_served otherKey choices

end Requests

/-- Six logins with a wrong password, a second apart. -/
def wrongLogins : List (Request × (Nat → Choice)) :=
  (List.range 6).map fun count =>
    (.login (some
      { identifier := "a", masterPasswordHash := "wrong", totpCode := "" }),
      fun _ => { moment 0 with now := count * second })

/-- Five of them are counted, and the sixth meets the lock. -/
theorem wrongLogins_reach_bound :
    let recording :=
      (Recording.start (oneAccount "" false)).serveAll .memory
        plainEnvironment wrongLogins
    let counted := recording.calls.countP
      (failsWithin (plainEnvironment.blindIdentifier "a") 0)
    counted = maxFails ∧ counted ≤ maxFails := by
  intro recording counted
  have timely : Timely recording.calls := by
    unfold Timely
    decide +kernel
  have noSignIn :
      ¬ SignsInWithin .memory plainEnvironment
        (plainEnvironment.blindIdentifier "a") 0
        (Recording.start (oneAccount "" false)) wrongLogins := by
    decide +kernel
  have five : counted = maxFails := by
    decide +kernel
  exact ⟨five,
    (lockout_bound .memory plainEnvironment).1 _ wrongLogins _ 0 timely
      noSignIn⟩

end Passwd.Server
