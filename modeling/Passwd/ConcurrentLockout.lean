import Passwd.LockoutRuns
import Mathlib.Data.Finset.Card

namespace Passwd.Server

open Base64 Interaction

/-!
# The lockout under concurrent requests

The check of the tracker and the recording of a failure are separate calls, with
the verification of a credential between them.  Requests that pass the check
together may therefore find more wrong credentials than the tracker counts
before it locks.

The bound holds of the runs in which a credential is found wrong only while the
failures counted so far and the wrong credentials not yet recorded leave room
for one more.
-/

/-- How many failures the tracker has counted under a key. -/
def failures (lockout : Table LockEntry.key) (key : String) : Nat :=
  (lockout.find? key).elim 0 LockEntry.fails

/-- The requests that have made a call. -/
def begun (configuration : Serving) : Finset Nat :=
  (configuration.trace.map Event.process).toFinset

/-- A request has found a credential wrong and has yet to record that. -/
def findsWrong
    (key : String)
    (configuration : Serving)
    (process : Nat) :
    Bool :=
  (configuration.pool process).operation? = some (.recordFailure key)

/-- A request has found a credential wrong, whether it has recorded that or not. -/
def rejected
    (key : String)
    (configuration : Serving)
    (process : Nat) :
    Bool :=
  findsWrong key configuration process ||
    (configuration.trace.ofProcess process).any fun exchange =>
      exchange.operation = .recordFailure key

/-- The wrong credentials that are found and not recorded. -/
def unrecorded (key : String) (configuration : Serving) : Finset Nat :=
  (begun configuration).filter fun process =>
    findsWrong key configuration process = true

/-- The requests that find a credential wrong between two configurations. -/
def wrongGuesses (key : String) (earlier later : Serving) : Finset Nat :=
  (begun later).filter fun process =>
    rejected key later process = true ∧ rejected key earlier process = false

/-- A step that does not clear the counter of a key, by a lock or a sign-in. -/
def keepsCounter (key : String) : Serving → Nat → Choice → Prop :=
  beforeCall fun configuration _ _ operation =>
    operation ≠ .reset key ∧
      (operation = .recordFailure key →
        failures configuration.state.lockout key + 1 < maxFails)

/--
A step finds a credential wrong only while the failures counted and the wrong
credentials not yet recorded are fewer than it takes to lock.
-/
def withinLimit
    (backend : Backend)
    (key : String)
    (configuration : Serving)
    (process : Nat)
    (choice : Choice) :
    Prop :=
  rejected key configuration process = false →
    rejected key (configuration.advance (execute backend) process choice)
        process = true →
      failures configuration.state.lockout key +
          (unrecorded key configuration).card < maxFails

/-- A step within the limit that does not clear the counter. -/
def keepsLimit (backend : Backend) (key : String) :
    Serving → Nat → Choice → Prop :=
  fun configuration process choice =>
    withinLimit backend key configuration process choice ∧
      keepsCounter key configuration process choice

instance
    (key : String)
    (configuration : Serving)
    (process : Nat)
    (choice : Choice) :
    Decidable (keepsCounter key configuration process choice) :=
  inferInstanceAs
    (Decidable (beforeCall _ configuration process choice))

instance
    (backend : Backend)
    (key : String)
    (configuration : Serving)
    (process : Nat)
    (choice : Choice) :
    Decidable (withinLimit backend key configuration process choice) :=
  inferInstanceAs (Decidable (_ = false → _ = true → _ < _))

instance
    (backend : Backend)
    (key : String)
    (configuration : Serving)
    (process : Nat)
    (choice : Choice) :
    Decidable (keepsLimit backend key configuration process choice) :=
  inferInstanceAs (Decidable (_ ∧ _))

section Steps

variable {backend : Backend} {env : Environment} {choice : Choice}
  {state : State} {key : String} {configuration earlier : Serving}
  {process other : Nat} {operation : Operation}
  {next : Answer operation → Handler Response}

/-!
## The counter
-/

/-- A failure that does not lock is counted. -/
theorem failures_recordFailure
    (now : Time)
    (lockout : Table LockEntry.key)
    (notYet : failures lockout key + 1 < maxFails) :
    failures (recordFailure now lockout key) key = failures lockout key + 1 := by
  have written :
      (recordFailure now lockout key).find? key =
        some (((lockout.find? key).getD
          { key := key, fails := 0, lockedTill := zeroTime }).failed
            now key) :=
    (find?_recordFailure now lockout).trans (if_pos rfl)
  have counted :
      ((lockout.find? key).getD
        { key := key, fails := 0, lockedTill := zeroTime }).fails =
          failures lockout key := by
    cases found : lockout.find? key with
    | none =>
        simp [failures, found]
    | some e =>
        simp [failures, found]
  have staysOpen : ¬ maxFails ≤ failures lockout key + 1 :=
    Nat.not_le.mpr notYet
  rw [failures, written, LockEntry.failed, counted, if_neg staysOpen]
  rfl

/-- Calls that neither count a failure of a key nor forget it keep its counter. -/
theorem failures_execute_of_other
    (notFailure : operation ≠ .recordFailure key)
    (notReset : operation ≠ .reset key) :
    failures (execute backend choice state operation).2.lockout key =
      failures state.lockout key := by
  rw [execute_tracker, failures, find?_trackerAfter_of_other notFailure notReset,
    failures]

/-!
## One step
-/

/-- A step of one process does not change what another one has found. -/
theorem findsWrong_answered_of_ne
    (answer : Answer operation)
    (different : other ≠ process) :
    findsWrong key
        (configuration.answered process ⟨operation, answer⟩ next state) other =
      findsWrong key configuration other := by
  simp [findsWrong, Configuration.answered, Function.update_of_ne different]

/-- A step of one process does not reject another one. -/
theorem rejected_answered_of_ne
    (answer : Answer operation)
    (different : other ≠ process) :
    rejected key
        (configuration.answered process ⟨operation, answer⟩ next state) other =
      rejected key configuration other := by
  have sameHistory :
      (configuration.answered process ⟨operation, answer⟩ next
          state).trace.ofProcess other =
        configuration.trace.ofProcess other :=
    Trace.ofProcess_append_other _ _ (Ne.symm different)
  rw [rejected, findsWrong_answered_of_ne answer different, sameHistory,
    rejected]

/-- A process that records a failure has found a credential wrong. -/
theorem findsWrong_of_perform
    {next : Answer (.recordFailure key) → Handler Response}
    (shape :
      configuration.pool process = .perform (.recordFailure key) next) :
    findsWrong key configuration process = true := by
  simp [findsWrong, shape]

/-- What a process has found before it performs some other call. -/
theorem findsWrong_of_perform_other
    (shape : configuration.pool process = .perform operation next)
    (notFailure : operation ≠ .recordFailure key) :
    findsWrong key configuration process = false := by
  simp [findsWrong, shape, notFailure]

/-- A process that has just recorded a failure stays rejected. -/
theorem rejected_answered_recordFailure
    {next : Answer (.recordFailure key) → Handler Response}
    (answer : Answer (.recordFailure key)) :
    rejected key
      (configuration.answered process ⟨.recordFailure key, answer⟩ next state)
        process = true := by
  have extended :
      (configuration.answered process ⟨.recordFailure key, answer⟩ next
          state).trace.ofProcess process =
        configuration.trace.ofProcess process ++
          [⟨.recordFailure key, answer⟩] :=
    Trace.ofProcess_append_same _ _ _
  simp [rejected, extended]

/-- No request begins by recording a failure. -/
theorem operation?_serve_ne
    (env : Environment)
    (request : Request)
    (key : String) :
    (serve env request).operation? ≠ some (.recordFailure key) := by
  intro first
  have acts := serve_acts env request
  cases shape : serve env request with
  | done value =>
      rw [shape] at first
      cases first
  | perform operation next =>
      rw [shape] at first acts
      obtain ⟨-, checked, -⟩ :=
        acts.1.failure key (Option.some.inj first)
      cases checked

/-- A request that has found a credential wrong has begun. -/
theorem mem_begun_of_findsWrong
    {requests : Nat → Request}
    {allowed : Serving → Nat → Choice → Prop}
    (reaches :
      Configuration.Reaches (execute backend) allowed
        (serving env state requests) configuration)
    (found : findsWrong key configuration process = true) :
    process ∈ begun configuration := by
  have path := reaches.path process
  by_contra notBegun
  have noHistory : configuration.trace.ofProcess process = [] := by
    rw [List.eq_nil_iff_forall_not_mem]
    intro exchange member
    apply notBegun
    rw [begun, List.mem_toFinset]
    exact List.mem_map_of_mem (Trace.mem_ofProcess.mp member)
  rw [noHistory] at path
  apply operation?_serve_ne env (requests process) key
  rw [← of_decide_eq_true found, path.eq_of_nil]

/-- A request that is rejected has begun. -/
theorem mem_begun_of_rejected
    {requests : Nat → Request}
    {allowed : Serving → Nat → Choice → Prop}
    (reaches :
      Configuration.Reaches (execute backend) allowed
        (serving env state requests) configuration)
    (isRejected : rejected key configuration process = true) :
    process ∈ begun configuration := by
  rcases Bool.or_eq_true_iff.mp isRejected with found | recorded
  · exact mem_begun_of_findsWrong reaches found
  · obtain ⟨exchange, member, -⟩ := List.any_eq_true.mp recorded
    rw [begun, List.mem_toFinset]
    exact List.mem_map_of_mem (Trace.mem_ofProcess.mp member)

/-- A process that performs some other call is rejected by what it does next. -/
theorem rejected_answered_of_other
    (answer : Answer operation)
    (notFailure : operation ≠ .recordFailure key)
    (shape : configuration.pool process = .perform operation next) :
    rejected key
        (configuration.answered process ⟨operation, answer⟩ next state)
        process =
      (findsWrong key
          (configuration.answered process ⟨operation, answer⟩ next state)
          process ||
        rejected key configuration process) := by
  have extended :
      (configuration.answered process ⟨operation, answer⟩ next
          state).trace.ofProcess process =
        configuration.trace.ofProcess process ++ [⟨operation, answer⟩] :=
    Trace.ofProcess_append_same _ _ _
  simp only [rejected, extended, List.any_append, List.any_cons, List.any_nil,
    notFailure, decide_false, Bool.or_false,
    findsWrong_of_perform_other shape notFailure, Bool.false_or]

/-!
## The bound
-/

/-- The requests whose wrong credentials were found and recorded in between. -/
def recordedGuesses (key : String) (earlier later : Serving) : Finset Nat :=
  (wrongGuesses key earlier later).filter fun process =>
    findsWrong key later process = false

/--
Since the counter was zero, it has counted every wrong credential that was found
and recorded, and no more were found than it takes to lock.
-/
structure Limited (key : String) (cleared later : Serving) : Prop where
  recorded :
    (recordedGuesses key cleared later).card ≤
      failures later.state.lockout key
  found : (wrongGuesses key cleared later).card ≤ maxFails

/-- Every wrong credential is recorded or is still to be recorded. -/
theorem card_wrongGuesses_le :
    (wrongGuesses key earlier configuration).card ≤
      (recordedGuesses key earlier configuration).card +
        (unrecorded key configuration).card := by
  refine (Finset.card_le_card ?_).trans (Finset.card_union_le _ _)
  intro process member
  rw [Finset.mem_union]
  cases found : findsWrong key configuration process with
  | false =>
      exact Or.inl (Finset.mem_filter.mpr ⟨member, found⟩)
  | true =>
      exact Or.inr (Finset.mem_filter.mpr
        ⟨(Finset.mem_filter.mp member).1, found⟩)

/-- A wrong credential stays found, and the requests that do not move stay put. -/
theorem mem_wrongGuesses_answered
    {answer : Answer operation}
    {requests : Nat → Request}
    {allowed : Serving → Nat → Choice → Prop}
    (reaches :
      Configuration.Reaches (execute backend) allowed
        (serving env state requests) configuration)
    {final : State}
    (member :
      other ∈ wrongGuesses key earlier
        (configuration.answered process ⟨operation, answer⟩ next final))
    (alreadyRejected :
      other = process → rejected key configuration process = true) :
    other ∈ wrongGuesses key earlier configuration := by
  obtain ⟨-, isRejected, notEarlier⟩ := Finset.mem_filter.mp member
  have before : rejected key configuration other = true := by
    by_cases same : other = process
    · rw [same]
      exact alreadyRejected same
    · rw [← rejected_answered_of_ne answer same]
      exact isRejected
  exact Finset.mem_filter.mpr
    ⟨mem_begun_of_rejected reaches before, before, notEarlier⟩

/-- Recording a wrong credential keeps the bound. -/
theorem Limited.recordFailure
    {requests : Nat → Request}
    {allowed : Serving → Nat → Choice → Prop}
    (reaches :
      Configuration.Reaches (execute backend) allowed
        (serving env state requests) configuration)
    (limited : Limited key earlier configuration)
    {next : Answer (.recordFailure key) → Handler Response}
    (shape :
      configuration.pool process = .perform (.recordFailure key) next)
    (notYet : failures configuration.state.lockout key + 1 < maxFails) :
    Limited key earlier
      (configuration.answered process
        ⟨.recordFailure key,
          (execute backend choice configuration.state (.recordFailure key)).1⟩
        next
        (execute backend choice configuration.state (.recordFailure key)).2) := by
  have found := findsWrong_of_perform shape
  have isRejected : rejected key configuration process = true := by
    rw [rejected, found, Bool.true_or]
  constructor
  · have counted :
        failures (execute backend choice configuration.state
            (.recordFailure key)).2.lockout key =
          failures configuration.state.lockout key + 1 :=
      failures_recordFailure choice.now _ notYet
    refine le_trans ?_ (le_of_eq counted.symm)
    refine le_trans ?_ (Nat.succ_le_succ limited.recorded)
    refine le_trans (Finset.card_le_card ?_)
      (Finset.card_insert_le process _)
    intro other member
    obtain ⟨guess, recorded⟩ := Finset.mem_filter.mp member
    by_cases same : other = process
    · rw [same]
      exact Finset.mem_insert_self _ _
    · refine Finset.mem_insert_of_mem (Finset.mem_filter.mpr ⟨?_, ?_⟩)
      · exact mem_wrongGuesses_answered reaches guess fun isSame =>
          absurd isSame same
      · rw [← findsWrong_answered_of_ne _ same]
        exact recorded
  · refine le_trans (Finset.card_le_card ?_) limited.found
    intro other member
    exact mem_wrongGuesses_answered reaches member fun _ => isRejected

/-- A call that finds no further credential wrong keeps the bound. -/
theorem Limited.of_unfound
    {requests : Nat → Request}
    {allowed : Serving → Nat → Choice → Prop}
    (reaches :
      Configuration.Reaches (execute backend) allowed
        (serving env state requests) configuration)
    (limited : Limited key earlier configuration)
    (shape : configuration.pool process = .perform operation next)
    (notFailure : operation ≠ .recordFailure key)
    (notReset : operation ≠ .reset key)
    (unfound :
      rejected key
          (configuration.answered process
            ⟨operation,
              (execute backend choice configuration.state operation).1⟩ next
            (execute backend choice configuration.state operation).2)
          process = true →
        rejected key configuration process = true) :
    Limited key earlier
      (configuration.answered process
        ⟨operation, (execute backend choice configuration.state operation).1⟩
        next (execute backend choice configuration.state operation).2) := by
  have stays :
      wrongGuesses key earlier
          (configuration.answered process
            ⟨operation,
              (execute backend choice configuration.state operation).1⟩ next
            (execute backend choice configuration.state operation).2) ⊆
        wrongGuesses key earlier configuration := by
    intro other member
    refine mem_wrongGuesses_answered reaches member ?_
    rintro rfl
    exact unfound (Finset.mem_filter.mp member).2.1
  constructor
  · refine le_trans (Finset.card_le_card ?_)
      (limited.recorded.trans
        (le_of_eq (failures_execute_of_other notFailure notReset).symm))
    intro other member
    obtain ⟨guess, recorded⟩ := Finset.mem_filter.mp member
    refine Finset.mem_filter.mpr ⟨stays guess, ?_⟩
    by_cases same : other = process
    · rw [same]
      exact findsWrong_of_perform_other shape notFailure
    · rw [← findsWrong_answered_of_ne _ same]
      exact recorded
  · exact (Finset.card_le_card stays).trans limited.found

/-- A call that finds a credential wrong within the limit keeps the bound. -/
theorem Limited.of_found
    {requests : Nat → Request}
    {allowed : Serving → Nat → Choice → Prop}
    (reaches :
      Configuration.Reaches (execute backend) allowed
        (serving env state requests) configuration)
    (limited : Limited key earlier configuration)
    (notFailure : operation ≠ .recordFailure key)
    (notReset : operation ≠ .reset key)
    (found :
      findsWrong key
        (configuration.answered process
          ⟨operation, (execute backend choice configuration.state operation).1⟩
          next (execute backend choice configuration.state operation).2)
        process = true)
    (room :
      failures configuration.state.lockout key +
        (unrecorded key configuration).card < maxFails) :
    Limited key earlier
      (configuration.answered process
        ⟨operation, (execute backend choice configuration.state operation).1⟩
        next (execute backend choice configuration.state operation).2) := by
  constructor
  · refine le_trans (Finset.card_le_card ?_)
      (limited.recorded.trans
        (le_of_eq (failures_execute_of_other notFailure notReset).symm))
    intro other member
    obtain ⟨guess, recorded⟩ := Finset.mem_filter.mp member
    have different : other ≠ process := by
      rintro rfl
      rw [found] at recorded
      cases recorded
    refine Finset.mem_filter.mpr ⟨?_, ?_⟩
    · exact mem_wrongGuesses_answered reaches guess fun same =>
        absurd same different
    · rw [← findsWrong_answered_of_ne _ different]
      exact recorded
  · have earlierGuesses :
        (wrongGuesses key earlier configuration).card < maxFails :=
      lt_of_le_of_lt
        (card_wrongGuesses_le.trans
          (Nat.add_le_add_right limited.recorded _)) room
    refine le_trans (Finset.card_le_card ?_)
      ((Finset.card_insert_le process _).trans earlierGuesses)
    intro other member
    by_cases same : other = process
    · rw [same]
      exact Finset.mem_insert_self _ _
    · exact Finset.mem_insert_of_mem
        (mem_wrongGuesses_answered reaches member fun isSame =>
          absurd isSame same)

/-- Every step within the limit that does not clear the counter keeps the bound. -/
theorem Limited.step
    {requests : Nat → Request}
    {allowed : Serving → Nat → Choice → Prop}
    (reaches :
      Configuration.Reaches (execute backend) allowed
        (serving env state requests) configuration)
    (limited : Limited key earlier configuration)
    (shape : configuration.pool process = .perform operation next)
    (within : withinLimit backend key configuration process choice)
    (keeps : keepsCounter key configuration process choice) :
    Limited key earlier
      (configuration.answered process
        ⟨operation, (execute backend choice configuration.state operation).1⟩
        next (execute backend choice configuration.state operation).2) := by
  obtain ⟨notReset, notLocking⟩ := beforeCall_of_perform keeps shape
  by_cases isFailure : operation = .recordFailure key
  · subst isFailure
    exact limited.recordFailure reaches shape (notLocking rfl)
  · rw [withinLimit, Configuration.advance_of_perform shape] at within
    cases isRejected : rejected key configuration process with
    | true =>
        exact limited.of_unfound reaches shape isFailure notReset
          fun _ => isRejected
    | false =>
        have nextRejected :=
          @rejected_answered_of_other
            (execute backend choice configuration.state operation).2 key
            configuration process operation next
            (execute backend choice configuration.state operation).1 isFailure
            shape
        rw [isRejected, Bool.or_false] at nextRejected
        cases found :
            findsWrong key
              (configuration.answered process
                ⟨operation,
                  (execute backend choice configuration.state operation).1⟩
                next
                (execute backend choice configuration.state operation).2)
              process with
        | true =>
            exact limited.of_found reaches isFailure notReset found
              (within isRejected (nextRejected.trans found))
        | false =>
            refine limited.of_unfound reaches shape isFailure notReset ?_
            intro nowRejected
            rw [nextRejected, found] at nowRejected
            cases nowRejected

/-- A rejected request stays rejected. -/
theorem rejected_of_reaches
    {allowed : Serving → Nat → Choice → Prop}
    (reaches :
      Configuration.Reaches (execute backend) allowed earlier configuration)
    (isRejected : rejected key earlier other = true) :
    rejected key configuration other = true := by
  refine reaches.invariant
    (fun later => rejected key later other = true) isRejected ?_
  intro later process operation next choice _ before shape _
  by_cases same : other = process
  · subst same
    by_cases isFailure : operation = .recordFailure key
    · subst isFailure
      exact rejected_answered_recordFailure _
    · rw [rejected_answered_of_other _ isFailure shape, before, Bool.or_true]
  · rw [rejected_answered_of_ne _ same]
    exact before

end Steps

/-- Requests that sign in to one account with a wrong password. -/
def wrongPasswords (count : Nat) (process : Nat) : Request :=
  if process < count then
    .login (some
      { identifier := "a", masterPasswordHash := "wrong", totpCode := "" })
  else
    .prelogin none

/-- `count` requests pass the check, and then all of them verify. -/
def allVerifyFirst (count : Nat) : List (Nat × Choice) :=
  (List.range count).map (fun process => (process, moment 1)) ++
    (List.range count).map fun process => (process, moment 1)

end Passwd.Server
