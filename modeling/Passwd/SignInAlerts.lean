import Passwd.MarkedLog
import Passwd.ServerRequests
import Passwd.StoreAgreement

namespace Passwd.SignInAlerts

open Server Interaction MarkedLog

/-!
# Sign-in alerts

When a device opens a vault it gets the newest hundred security events of the
account and counts the failed sign-ins and token reuses among them that are
later than its mark, the second of the newest event at its previous opening.
The server writes times to the second, and the mark is compared strictly.
-/

/-!
## The effect of an opening
-/

/-- `ActivityEvent`, with what `new Date(e.createdAt).getTime()` reads. -/
structure ActivityEvent where
  event : String
  detail : String
  createdAt : Int
deriving DecidableEq

/-- The milliseconds of a time that is written to the second. -/
def milliseconds (createdAt : Time) : Int :=
  unix createdAt * 1000

/-- `getActivity`, which throws on an error status. -/
def getActivity : Response → Option (List ActivityEvent)
  | ⟨200, .events events⟩ =>
      some (events.map fun (event, detail, createdAt) =>
        ⟨event, detail, milliseconds createdAt⟩)
  | _ => none

/-- An event that an alert is about. -/
def isAlarming (event : String) : Bool :=
  event = "login.failure" || event = "token.reuse_detected"

/-- `since` -/
def since (events : List ActivityEvent) (lastSeen : Int) :
    List ActivityEvent :=
  events.filter fun e => decide (lastSeen < e.createdAt) && isAlarming e.event

/-- `buildLoginAlert` -/
def buildLoginAlert (failures : Nat) (reuse : Bool) : String :=
  let parts :=
    (if failures > 0 then
      [toString failures ++ " failed sign-in attempt" ++
        (if failures = 1 then "" else "s")]
    else []) ++
    (if reuse then ["session token reuse"] else [])
  "Since your last visit: " ++ " and ".intercalate parts ++
    ". If that wasn't you, review your activity."

/-- The alert about the counted events. -/
def alertFor (since : List ActivityEvent) : Option String :=
  let failures := (since.filter fun e => e.event = "login.failure").length
  let reuse := since.any fun e => e.event = "token.reuse_detected"
  if failures > 0 || reuse then
    some (buildLoginAlert failures reuse)
  else
    none

/-- `newest` -/
def newest (events : List ActivityEvent) (dateNow : Int) : Int :=
  match events with
  | [] => dateNow
  | first :: _ => first.createdAt

/-!
## Openings of a vault
-/

/-- The events of an account, in the order in which they were appended. -/
def accountEvents (userID : String) (store : Store) : List AuditEvent :=
  store.audit.filter fun e => e.userID = userID

/-- The events of an account, in the order in which `ListAuditEvents` lists them. -/
def activity (backend : Backend) (userID : String) (store : Store) :
    List AuditEvent :=
  if backend.isSql then
    (accountEvents userID store).mergeSort Store.listedBefore
  else
    (accountEvents userID store).reverse

/-- The time of an event as the device reads it. -/
def readTime (e : AuditEvent) : Int :=
  milliseconds e.createdAt

/-- Whether an alert is about an event. -/
def alarming (e : AuditEvent) : Bool :=
  isAlarming e.event

/-- An event as the device reads it. -/
def activityEvent (e : AuditEvent) : ActivityEvent where
  event := e.event
  detail := e.detail
  createdAt := readTime e

/--
An opening after the first one: the mark it found, the events that were appended
since the previous opening looked at the log, all events of the account in list
order, and the alert it computed.
-/
structure Opening where
  lastSeen : Int
  unseen : List AuditEvent
  activity : List AuditEvent
  alert : Option String

/-- The events that an opening counts. -/
def Opening.counted (opening : Opening) : List AuditEvent :=
  later readTime alarming opening.lastSeen
    (opening.activity.take auditListLimit)

/--
No unseen alarming event is as old as the mark, and none has a hundred of the
account's events before it.
-/
def Opening.InReach (opening : Opening) : Prop :=
  (∀ e ∈ opening.unseen, alarming e = true → opening.lastSeen < readTime e) ∧
    ∀ e ∈ opening.activity.drop auditListLimit,
      alarming e = true → ¬ opening.lastSeen < readTime e

/--
The server and one device: the mark in the local storage of the device, how many
events of the account there were when it last looked, and its openings.
-/
structure World where
  state : State
  lastSeen : Option Int
  seen : Nat
  openings : List Opening

namespace World

/-- Nothing has happened. -/
def empty : World where
  state := .empty
  lastSeen := none
  seen := 0
  openings := []

/-- The events of the account. -/
def events (world : World) (userID : String) : List AuditEvent :=
  accountEvents userID world.state.store

/-- The events that were appended since the device last looked. -/
def unseen (world : World) (userID : String) : List AuditEvent :=
  (world.events userID).drop world.seen

/-- What the server does in one call. -/
def called
    (world : World)
    (backend : Backend)
    (choice : Choice)
    (operation : Operation) : World :=
  { world with state := (execute backend choice world.state operation).2 }

/--
The login alert effect.  An opening that gets no events, or that is cancelled
before it does, leaves the device as it is.
-/
def opened
    (world : World)
    (backend : Backend)
    (userID : String)
    (choice : Choice)
    (dateNow : Int) : World :=
  let served :=
    (handleAuditLog userID).run (execute backend) (fun _ => choice) world.state
  match getActivity served.value with
  | none => { world with state := served.state }
  | some events =>
      { state := served.state
        lastSeen := some (newest events dateNow)
        seen := (world.events userID).length
        openings :=
          match world.lastSeen with
          | none => world.openings
          | some lastSeen =>
              world.openings ++
                [{ lastSeen := lastSeen
                   unseen := world.unseen userID
                   activity := activity backend userID world.state.store
                   alert := alertFor (since events lastSeen) }] }

/--
A call that keeps the log of the account append-only and its times from
decreasing.
-/
def Permits (world : World) (userID : String) : Operation → Prop
  | .deleteAccount id => id ≠ userID
  | .appendAuditEvent e =>
      e.userID = userID →
        ∀ earlier ∈ world.events userID, earlier.createdAt ≤ e.createdAt
  | _ => True

/-- The worlds that calls and openings lead to, in any order. -/
inductive Reached (backend : Backend) (userID : String) : World → Prop
  | empty : Reached backend userID World.empty
  | called
      {world : World}
      (reached : Reached backend userID world)
      (choice : Choice)
      {operation : Operation}
      (permitted : world.Permits userID operation) :
      Reached backend userID (world.called backend choice operation)
  | opened
      {world : World}
      (reached : Reached backend userID world)
      (choice : Choice)
      (dateNow : Int) :
      Reached backend userID (world.opened backend userID choice dateNow)

end World

/-!
## What the server does to the log
-/

/-- The databases and the memory keep the second of a time. -/
theorem unix_stamp (backend : Backend) (t : Time) :
    unix (backend.stamp t) = unix t := by
  unfold Backend.stamp
  split
  · exact unix_toSecond t
  · rfl

/-- The seconds of the account's events do not decrease. -/
def Ordered (events : List AuditEvent) : Prop :=
  events.Pairwise fun older newer => readTime older ≤ readTime newer

/-- The log is appended to, and its times do not decrease. -/
def Extends (before after : List AuditEvent) : Prop :=
  ∃ added,
    after = before ++ added ∧ (Ordered before → Ordered (before ++ added))

theorem extends_refl (events : List AuditEvent) :
    Extends events events := by
  refine ⟨[], (List.append_nil events).symm, fun ordered => ?_⟩
  rwa [List.append_nil]

/-- Appending an event extends the log of its account. -/
theorem extends_appendAuditEvent
    {store : Store}
    {userID : String}
    {e : AuditEvent}
    (inOrder :
      e.userID = userID →
        ∀ earlier ∈ accountEvents userID store,
          earlier.createdAt ≤ e.createdAt)
    (backend : Backend) :
    Extends (accountEvents userID store)
      (accountEvents userID (store.appendAuditEvent backend e).2) := by
  unfold Store.appendAuditEvent
  split
  · exact extends_refl _
  · by_cases own : e.userID = userID
    · refine ⟨[{ e with createdAt := backend.stamp e.createdAt }],
        by simp [accountEvents, own], fun ordered => ?_⟩
      refine List.pairwise_append.mpr
        ⟨ordered, List.pairwise_singleton .., ?_⟩
      intro earlier member newer isNewer
      rw [List.mem_singleton.mp isNewer]
      have before := unix_mono (inOrder own earlier member)
      simp only [readTime, milliseconds, unix_stamp]
      exact Int.mul_le_mul_of_nonneg_right before (by decide)
    · refine ⟨[], by simp [accountEvents, own], fun ordered => ?_⟩
      rwa [List.append_nil]

/-- Deleting another account leaves the log of this one alone. -/
theorem accountEvents_deleteAccount
    {userID id : String}
    (other : id ≠ userID)
    (store : Store) :
    accountEvents userID (store.deleteAccount id).2 =
      accountEvents userID store := by
  unfold Store.deleteAccount
  split
  · simp only [accountEvents, List.filter_filter]
    apply List.filter_congr
    intro e _
    by_cases own : e.userID = userID
    · simp [own, other.symm]
    · simp [own]
  · rfl

/-- Only two calls can change the audit log. -/
theorem touches_audit
    {operation : Operation}
    (touched : operation.touches .audit = true) :
    (∃ e, operation = .appendAuditEvent e) ∨
      ∃ id, operation = .deleteAccount id := by
  cases operation
  case appendAuditEvent e => exact Or.inl ⟨e, rfl⟩
  case deleteAccount id => exact Or.inr ⟨id, rfl⟩
  all_goals cases touched

namespace World

/-- A permitted call extends the log of the account. -/
theorem extends_called
    {world : World}
    {userID : String}
    {operation : Operation}
    (permitted : world.Permits userID operation)
    (backend : Backend)
    (choice : Choice) :
    Extends (world.events userID)
      ((world.called backend choice operation).events userID) := by
  cases touched : operation.touches .audit with
  | false =>
      have same : (execute backend choice world.state operation).2.store.audit =
          world.state.store.audit :=
        execute_same touched
      have kept :
          (world.called backend choice operation).events userID =
            world.events userID := by
        simp only [events, called, accountEvents, same]
      rw [kept]
      exact extends_refl _
  | true =>
      rcases touches_audit touched with ⟨e, rfl⟩ | ⟨id, rfl⟩
      · rcases attempt_cases choice world.state (.appendAuditEvent e)
          (world.state.store.appendAuditEvent backend e) with failed | done
        · simp only [events, called, execute, failed]
          exact extends_refl _
        · simp only [events, called, execute, done]
          exact extends_appendAuditEvent permitted backend
      · rcases attempt_cases choice world.state (.deleteAccount id)
          (world.state.store.deleteAccount id) with failed | done
        · simp only [events, called, execute, failed]
          exact extends_refl _
        · simp only [events, called, execute, done,
            accountEvents_deleteAccount permitted]
          exact extends_refl _

end World

/-!
## What an opening is given
-/

/-- The list order has the events of the account. -/
theorem activity_perm
    (backend : Backend)
    (userID : String)
    (store : Store) :
    (activity backend userID store).Perm (accountEvents userID store) := by
  unfold activity
  split
  · exact List.mergeSort_perm _ _
  · exact List.reverse_perm _

/-- The list order is newest first, to the second. -/
theorem activity_newestFirst
    {userID : String}
    {store : Store}
    (ordered : Ordered (accountEvents userID store))
    (backend : Backend) :
    (activity backend userID store).Pairwise fun first later =>
      readTime later ≤ readTime first := by
  unfold activity
  split
  · have sorted :=
      List.pairwise_mergeSort listedBefore_trans listedBefore_total
        (accountEvents userID store)
    refine sorted.imp fun {first later} before => ?_
    have notOlder : later.createdAt ≤ first.createdAt := by
      simp only [Store.listedBefore, Bool.or_eq_true, Bool.and_eq_true,
        decide_eq_true_iff] at before
      rcases before with newer | ⟨same, _⟩
      · exact Int.le_of_lt newer
      · exact Int.le_of_eq same
    exact Int.mul_le_mul_of_nonneg_right (unix_mono notOlder) (by decide)
  · exact List.pairwise_reverse.mpr ordered

/-- The log is not answered, or its newest hundred events are. -/
theorem getActivity_handleAuditLog
    (backend : Backend)
    (userID : String)
    (choice : Choice)
    (state : State) :
    let served :=
      (handleAuditLog userID).run (execute backend) (fun _ => choice) state
    served.state = state ∧
      (getActivity served.value = none ∨
        getActivity served.value =
          some (((activity backend userID state.store).take
            auditListLimit).map activityEvent)) := by
  dsimp only
  by_cases anonymous : userID = ""
  · rw [handleAuditLog, if_pos anonymous]
    exact ⟨rfl, Or.inl rfl⟩
  · rw [handleAuditLog, if_neg anonymous, perform_bind,
      Program.run_perform]
    rcases attempt_cases choice state (.listAuditEvents userID auditListLimit)
      (state.store.listAuditEvents backend userID auditListLimit) with
      failed | done
    · simp only [execute, failed]
      exact ⟨rfl, Or.inl rfl⟩
    · simp only [execute, done]
      refine ⟨rfl, Or.inr ?_⟩
      simp only [Store.listAuditEvents, Program.pure_eq_done, Program.run_done,
        getActivity, List.map_map]
      rfl

/-- What is counted among the answered events, as events of the log. -/
theorem since_map_activityEvent
    (entries : List AuditEvent)
    (lastSeen : Int) :
    since (entries.map activityEvent) lastSeen =
      (later readTime alarming lastSeen entries).map activityEvent :=
  List.filter_map

/-- The mark that an opening leaves is not older than any event of the log. -/
theorem readTime_le_newest
    {backend : Backend}
    {userID : String}
    {store : Store}
    (ordered : Ordered (accountEvents userID store))
    (dateNow : Int) :
    ∀ e ∈ accountEvents userID store,
      readTime e ≤
        newest (((activity backend userID store).take
          auditListLimit).map activityEvent) dateNow := by
  intro e member
  have newestFirst := activity_newestFirst ordered backend
  have listed : e ∈ activity backend userID store :=
    (activity_perm backend userID store).mem_iff.mpr member
  cases shape : activity backend userID store with
  | nil =>
      rw [shape] at listed
      cases listed
  | cons first rest =>
      rw [shape] at listed newestFirst
      exact time_le_newest newestFirst e listed

/-!
## Every run
-/

/--
An alert is about the counted events.  They are unseen alarming ones, and all of
these exactly when they are in reach.
-/
structure Opening.Counts (opening : Opening) : Prop where
  alert : opening.alert = alertFor (opening.counted.map activityEvent)
  unseenOnly :
    opening.counted.Subperm (opening.unseen.filter alarming)
  complete :
    opening.counted.Perm (opening.unseen.filter alarming) ↔ opening.InReach

/-- What holds of the log and of the device at every time. -/
structure World.Tracked (userID : String) (world : World) : Prop where
  ordered : Ordered (world.events userID)
  fresh : world.lastSeen = none → world.openings = []
  bounded : world.seen ≤ (world.events userID).length
  marked :
    ∀ mark, world.lastSeen = some mark →
      ∀ e ∈ (world.events userID).take world.seen, readTime e ≤ mark
  counts : ∀ opening ∈ world.openings, opening.Counts
  segments :
    ∃ before,
      (world.events userID).take world.seen =
        before ++ world.openings.flatMap Opening.unseen

namespace World

/-- An opening counts what its mark and the bound let it. -/
theorem Tracked.counts_opening
    {world : World}
    {userID : String}
    (tracked : world.Tracked userID)
    {lastSeen : Int}
    (mark : world.lastSeen = some lastSeen)
    (backend : Backend) :
    Opening.Counts
      { lastSeen := lastSeen
        unseen := world.unseen userID
        activity := activity backend userID world.state.store
        alert :=
          alertFor (since (((activity backend userID world.state.store).take
            auditListLimit).map activityEvent) lastSeen) } := by
  have lists :
      (activity backend userID world.state.store).Perm
        ((world.events userID).take world.seen ++ world.unseen userID) := by
    rw [unseen, List.take_append_drop]
    exact activity_perm backend userID world.state.store
  have marked := tracked.marked lastSeen mark
  exact {
    alert := by rw [since_map_activityEvent]; rfl
    unseenOnly := later_take_subperm lists marked auditListLimit
    complete := later_take_perm_iff lists marked auditListLimit }

/-- Nothing has been appended or seen at the start. -/
theorem tracked_empty (userID : String) :
    World.empty.Tracked userID where
  ordered := List.Pairwise.nil
  fresh := fun _ => rfl
  bounded := Nat.le_refl 0
  marked := fun _ unmarked => nomatch unmarked
  counts := fun _ member => nomatch member
  segments := ⟨[], rfl⟩

/-- A call of the server changes what is unseen only. -/
theorem Tracked.called
    {world : World}
    {userID : String}
    (tracked : world.Tracked userID)
    {operation : Operation}
    (permitted : world.Permits userID operation)
    (backend : Backend)
    (choice : Choice) :
    (world.called backend choice operation).Tracked userID := by
  obtain ⟨added, grown, ordered⟩ :=
    extends_called permitted backend choice
  have seenSame :
      ((world.called backend choice operation).events userID).take
          world.seen =
        (world.events userID).take world.seen := by
    rw [grown, List.take_append_of_le_length tracked.bounded]
  exact {
    ordered := by
      rw [grown]
      exact ordered tracked.ordered
    fresh := tracked.fresh
    bounded := by
      rw [grown, List.length_append]
      exact Nat.le_add_right_of_le tracked.bounded
    marked := fun mark isMark => by
      change ∀ e ∈
        ((world.called backend choice operation).events userID).take
          world.seen, readTime e ≤ mark
      rw [seenSame]
      exact tracked.marked mark isMark
    counts := tracked.counts
    segments := by
      obtain ⟨before, split⟩ := tracked.segments
      exact ⟨before, seenSame.trans split⟩ }

/-- An opening sees everything that was unseen. -/
theorem Tracked.opened
    {world : World}
    {userID : String}
    (tracked : world.Tracked userID)
    (backend : Backend)
    (choice : Choice)
    (dateNow : Int) :
    (world.opened backend userID choice dateNow).Tracked userID := by
  obtain ⟨sameState, unanswered | answered⟩ :=
    getActivity_handleAuditLog backend userID choice world.state
  · simp only [World.opened, unanswered, sameState]
    exact tracked
  · simp only [World.opened, answered, sameState]
    obtain ⟨before, split⟩ := tracked.segments
    have all :
        (world.events userID).take (world.events userID).length =
          world.events userID :=
      List.take_length
    have marked :
        ∀ e ∈ world.events userID,
          readTime e ≤
            newest (((activity backend userID world.state.store).take
              auditListLimit).map activityEvent) dateNow :=
      readTime_le_newest tracked.ordered dateNow
    cases mark : world.lastSeen with
    | none =>
        exact {
          ordered := tracked.ordered
          fresh := fun _ => tracked.fresh mark
          bounded := Nat.le_refl _
          marked := fun _ isMark e member => by
            cases isMark
            exact marked e (List.mem_of_mem_take member)
          counts := tracked.counts
          segments := by
            refine ⟨world.events userID, ?_⟩
            rw [tracked.fresh mark, List.flatMap_nil, List.append_nil]
            exact all }
    | some lastSeen =>
        exact {
          ordered := tracked.ordered
          fresh := fun unmarked => nomatch unmarked
          bounded := Nat.le_refl _
          marked := fun _ isMark e member => by
            cases isMark
            exact marked e (List.mem_of_mem_take member)
          counts := fun opening member => by
            rcases List.mem_append.mp member with earlier | latest
            · exact tracked.counts opening earlier
            · rw [List.mem_singleton.mp latest]
              exact tracked.counts_opening mark backend
          segments := by
            refine ⟨before, ?_⟩
            rw [List.flatMap_append, List.flatMap_singleton,
              ← List.append_assoc, ← split]
            exact all.trans (List.take_append_drop ..).symm }

/-- Every world that is reached is tracked. -/
theorem Reached.tracked
    {backend : Backend}
    {userID : String}
    {world : World}
    (reached : Reached backend userID world) :
    world.Tracked userID := by
  induction reached with
  | empty =>
      exact tracked_empty userID
  | called reached choice permitted inductionHypothesis =>
      exact inductionHypothesis.called permitted backend choice
  | opened reached choice dateNow inductionHypothesis =>
      exact inductionHypothesis.opened backend choice dateNow

/-- The openings together count no more than what they had not seen. -/
theorem counted_subperm_unseen
    {openings : List Opening}
    (counts : ∀ opening ∈ openings, opening.Counts) :
    (openings.flatMap Opening.counted).Subperm
      (openings.flatMap Opening.unseen) := by
  induction openings with
  | nil =>
      exact List.Subperm.refl _
  | cons opening rest inductionHypothesis =>
      have first := counts opening List.mem_cons_self
      have others := inductionHypothesis fun later member =>
        counts later (List.mem_cons_of_mem opening member)
      have unseenOnly :
          opening.counted.Subperm opening.unseen :=
        first.unseenOnly.trans List.filter_sublist.subperm
      rw [List.flatMap_cons, List.flatMap_cons]
      exact unseenOnly.append others

/-- Calls that succeed. -/
def succeeding : Choice where
  now := 0
  entropy := []
  fails := fun _ => false

/-- An event of the account "u" is appended. -/
def appended (world : World) (id event : String) (t : Time) : World :=
  world.called .memory succeeding
    (.appendAuditEvent
      { id := id, userID := "u", event := event, detail := ""
        createdAt := t })

/-- A registration and the first opening. -/
def baseline : World :=
  (World.empty.appended "1" "account.register" 0).opened .memory "u"
    succeeding 0

/-- Then a failed sign-in at a time, and the second opening. -/
def failureAt (t : Time) : World :=
  (baseline.appended "2" "login.failure" t).opened .memory "u" succeeding 0

theorem reached_failureAt
    {t : Time}
    (notEarlier : (0 : Int) ≤ t) :
    Reached .memory "u" (failureAt t) := by
  have registered :
      Reached .memory "u" (World.empty.appended "1" "account.register" 0) := by
    refine .called .empty succeeding fun _ earlier member => ?_
    cases member
  have failed :
      Reached .memory "u" (baseline.appended "2" "login.failure" t) := by
    refine .called (.opened registered succeeding 0) succeeding
      fun _ earlier member => ?_
    cases member with
    | head => exact notEarlier
    | tail _ none => cases none
  exact .opened failed succeeding 0

end World

end Passwd.SignInAlerts
