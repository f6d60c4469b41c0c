import Passwd.ServerRuns

namespace Passwd.Server

open Base64 Interaction

/-!
# Time-based codes over runs

Three properties of the second factor of an account.  Over every interleaving of
requests: a time step is accepted by one login, and an enabled secret stays
until a code for it disables it.  Over every sequence of requests: a time step
is accepted once while the secret is unchanged.
-/

/-- The time step that a login accepts for an account. -/
def acceptedStep (userID : String) : Exchange calls → Option Nat
  | ⟨.setUserTOTPCounter id counter, .ok _⟩ =>
      if id = userID then some counter else none
  | _ => none

/-- The time steps accepted for an account, oldest first. -/
def acceptedSteps (userID : String) (history : History calls) : List Nat :=
  history.filterMap (acceptedStep userID)

/-- The exchanges of all processes in their order. -/
abbrev allExchanges (configuration : Serving) : History calls :=
  configuration.trace.map fun event => event.exchange

/-- The newest exchange may accept one more step. -/
theorem acceptedSteps_concat
    (userID : String)
    (history : History calls)
    (exchange : Exchange calls) :
    acceptedSteps userID (history ++ [exchange]) =
      acceptedSteps userID history ++
        (acceptedStep userID exchange).toList := by
  cases accepts : acceptedStep userID exchange with
  | none => simp [acceptedSteps, accepts]
  | some counter => simp [acceptedSteps, accepts]

/-- Only writing the counter accepts a step. -/
theorem acceptedStep_of_other
    {userID : String}
    {exchange : Exchange calls}
    (other :
      ∀ counter,
        exchange ≠ answered (.setUserTOTPCounter userID counter) (.ok ())) :
    acceptedStep userID exchange = none := by
  unfold acceptedStep
  split
  · rename_i id counter done
    by_cases isAccount : id = userID
    · subst id
      exact absurd rfl (other counter)
    · rw [if_neg isAccount]
  · rfl

/-!
## Concurrent logins
-/

/-- The requests that create, remove or replace a second factor. -/
def Request.resetsFactor : Request → Bool
  | .register _ => true
  | .deleteAccount _ => true
  | .totpSetup _ => true
  | .totpEnable _ _ => true
  | .totpDisable _ _ => true
  | _ => false

/-- The other requests change a factor only by writing its counter. -/
theorem exists_counter_of_guarded
    {env : Environment}
    {request : Request}
    {history : History calls}
    {operation : Operation}
    (guarded : Guarded env request history operation)
    (keepsFactor : request.resetsFactor = false)
    (changes : operation.changesFactor = true) :
    ∃ userID counter, operation = .setUserTOTPCounter userID counter := by
  have established := guarded.2
  cases operation with
  | setUserTOTPCounter userID counter =>
      exact ⟨userID, counter, rfl⟩
  | createUser u =>
      obtain ⟨⟨req, rfl⟩, -⟩ := established
      cases keepsFactor
  | deleteAccount userID =>
      simp only [Established] at established
      subst established
      cases keepsFactor
  | setUserTOTP userID secret enabled =>
      obtain ⟨u, -, checks⟩ := established
      split at checks
      · cases keepsFactor
      · cases keepsFactor
      · cases keepsFactor
      · exact checks.elim
  | _ => cases changes

/-- A call that writes the counter of an account. -/
def Operation.countsFor (userID : String) : Operation → Bool
  | .setUserTOTPCounter id _ => id = userID
  | _ => false

/--
When a login writes the counter, the stored counter has not passed the one in
the record that the login has read.
-/
def writesCurrentCounter (userID : String) : Serving → Nat → Choice → Prop :=
  beforeCall fun configuration process _ operation =>
    operation.countsFor userID = true →
      ∀ exchange ∈ configuration.trace.ofProcess process,
        ∀ u ∈ readUser? exchange,
          ∀ factor ∈ configuration.state.store.factor userID,
            factor.counter ≤ u.totpLastCounter

instance (userID : String) (configuration : Serving) (process : Nat)
    (choice : Choice) :
    Decidable (writesCurrentCounter userID configuration process choice) :=
  inferInstanceAs (Decidable (beforeCall _ configuration process choice))

section ConcurrentLogins

variable {backend : Backend} {env : Environment} {state : State}
  {requests : Nat → Request} {userID : String} {choice : Choice}
  {configuration middle final : Serving}

/--
What one call does to the counter of an account: nothing, or a login accepts a
step that is later than the stored one and stores it.
-/
theorem counter_cases
    {process : Nat}
    {operation : Operation}
    {next : Answer operation → Handler Response}
    (keepFactors : ∀ process, (requests process).resetsFactor = false)
    (reaches :
      Configuration.Reaches (execute backend) (writesCurrentCounter userID)
        (serving env state requests) configuration)
    (shape : configuration.pool process = .perform operation next)
    (permitted :
      writesCurrentCounter userID configuration process choice) :
    ((execute backend choice configuration.state operation).2.store.factor
          userID = configuration.state.store.factor userID ∧
        acceptedStep userID
          (exchanged backend choice configuration.state operation) = none) ∨
      ∃ factor counter,
        configuration.state.store.factor userID = some factor ∧
        factor.counter < counter ∧
        (execute backend choice configuration.state operation).2.store.factor
          userID = some { factor with counter := counter } ∧
        acceptedStep userID
          (exchanged backend choice configuration.state operation) =
            some counter := by
  have guarded := guarded_of_perform reaches shape
  by_cases unchanged : operation.changesFactor = false
  · refine Or.inl ⟨factor_execute unchanged userID, ?_⟩
    apply acceptedStep_of_other
    intro counter isCount
    obtain rfl := Exchange.operation_eq isCount
    cases unchanged
  · obtain ⟨id, counter, rfl⟩ :=
      exists_counter_of_guarded guarded (keepFactors process)
        (by simpa using unchanged)
    rcases @setUserTOTPCounter_ends backend choice configuration.state id
        counter with
      ⟨e, failed⟩ | ⟨after, factor, written, isStored, changed⟩
    · left
      rw [exchanged, failed]
      exact ⟨rfl, rfl⟩
    · rw [exchanged, written]
      by_cases isAccount : id = userID
      · subst id
        right
        refine ⟨factor, counter, isStored, ?_, ?_, ?_⟩
        · obtain ⟨req, u, secret, now, -, isRead, -, -, -, -, -, later⟩ :=
            guarded.2
          have current :=
            beforeCall_of_perform permitted shape (decide_eq_true rfl) _ isRead
              u rfl factor isStored
          exact Nat.lt_of_le_of_lt current later
        · simpa using changed userID
        · simp [acceptedStep]
      · left
        refine ⟨?_, ?_⟩
        · rw [changed userID, if_neg (Ne.symm isAccount)]
        · simp [acceptedStep, isAccount]

/-- The accepted steps are distinct and none is later than the counter. -/
structure Counted (userID : String) (configuration : Serving) : Prop where
  distinct : (acceptedSteps userID (allExchanges configuration)).Nodup
  bounded :
    ∀ step ∈ acceptedSteps userID (allExchanges configuration),
      ∃ factor,
        configuration.state.store.factor userID = some factor ∧
          step ≤ factor.counter

/-- In every run that writes current counters, the accepted steps count up. -/
theorem counted_of_reaches
    (keepFactors : ∀ process, (requests process).resetsFactor = false)
    (reaches :
      Configuration.Reaches (execute backend) (writesCurrentCounter userID)
        (serving env state requests) final) :
    Counted userID final := by
  refine reaches.invariant (Counted userID) ?_ ?_
  · constructor
    · exact List.nodup_nil
    · intro step member
      cases member
  · intro configuration process operation next choice reached counted shape
      permitted
    have newest :
        acceptedSteps userID
            (allExchanges
              (configuration.answered process
                (exchanged backend choice configuration.state operation) next
                (execute backend choice configuration.state operation).2)) =
          acceptedSteps userID (allExchanges configuration) ++
            (acceptedStep userID
              (exchanged backend choice configuration.state
                operation)).toList := by
      rw [← acceptedSteps_concat]
      simp [allExchanges, Configuration.answered]
    rcases counter_cases keepFactors reached shape permitted with
      ⟨sameFactor, noStep⟩ | ⟨factor, counter, isStored, later, written, accepts⟩
    · rw [noStep, Option.toList_none, List.append_nil] at newest
      constructor
      · rw [newest]
        exact counted.distinct
      · intro step member
        rw [newest] at member
        obtain ⟨factor, isStored, notLater⟩ := counted.bounded step member
        exact ⟨factor, sameFactor.trans isStored, notLater⟩
    · rw [accepts, Option.toList_some] at newest
      have earlier :
          ∀ step ∈ acceptedSteps userID (allExchanges configuration),
            step < counter := by
        intro step member
        obtain ⟨stored, isStored', notLater⟩ := counted.bounded step member
        rw [isStored] at isStored'
        cases isStored'
        exact Nat.lt_of_le_of_lt notLater later
      constructor
      · rw [newest]
        refine List.Nodup.append counted.distinct (List.nodup_singleton _) ?_
        intro step member isNewest
        rw [List.mem_singleton.mp isNewest] at member
        exact Nat.lt_irrefl _ (earlier counter member)
      · intro step member
        rw [newest] at member
        refine ⟨_, written, ?_⟩
        rcases List.mem_append.mp member with old | new
        · exact Nat.le_of_lt (earlier step old)
        · exact Nat.le_of_eq (List.mem_singleton.mp new)

/--
However logins and requests that keep the second factors interleave, a time step
is accepted at most once and the stored counter never decreases, as long as no
login writes over a counter that it has not read.
-/
theorem concurrent_stepsAcceptedOnce
    (keepFactors : ∀ process, (requests process).resetsFactor = false)
    (early :
      Configuration.Reaches (execute backend) (writesCurrentCounter userID)
        (serving env state requests) middle)
    (late :
      Configuration.Reaches (execute backend) (writesCurrentCounter userID)
        middle final) :
    (acceptedSteps userID (allExchanges final)).Nodup ∧
      ∀ before ∈ middle.state.store.factor userID,
        ∃ after ∈ final.state.store.factor userID,
          before.counter ≤ after.counter := by
  refine ⟨(counted_of_reaches keepFactors (early.trans late)).distinct, ?_⟩
  intro before isBefore
  refine late.invariant
    (fun configuration =>
      ∃ after ∈ configuration.state.store.factor userID,
        before.counter ≤ after.counter)
    ⟨before, isBefore, Nat.le_refl _⟩ ?_
  rintro configuration process operation next choice reached
    ⟨after, isAfter, notLess⟩ shape permitted
  rcases counter_cases keepFactors (early.trans reached) shape permitted with
    ⟨sameFactor, -⟩ | ⟨factor, counter, isStored, later, written, -⟩
  · exact ⟨after, sameFactor.trans isAfter, notLess⟩
  · refine ⟨_, written, ?_⟩
    rw [Option.mem_def, isStored] at isAfter
    cases isAfter
    exact Nat.le_trans notLess (Nat.le_of_lt later)

end ConcurrentLogins

/-- A login with the code of the first time step. -/
def loginWithCode : Request :=
  .login (some
    { identifier := "a", masterPasswordHash := "p", totpCode := "000001" })

/-- A moment in the first time step at which nothing fails. -/
def inFirstStep : Choice where
  now := 30 * second
  entropy := [1]
  fails _ := false

/-- Of two logins in sequence with one code, the second is refused. -/
theorem sequentialLogins_stepsAcceptedOnce :
    let initial :=
      serving plainEnvironment (oneAccount "1|s" true) fun _ => loginWithCode
    let final :=
      initial.follow (execute .memory)
        (List.replicate 13 (0, inFirstStep) ++
          List.replicate 8 (1, inFirstStep))
    succeeded final 0 = true ∧ succeeded final 1 = false ∧
      (acceptedSteps "u" (allExchanges final)).Nodup ∧
      ∀ before ∈ initial.state.store.factor "u",
        ∃ after ∈ final.state.store.factor "u",
          before.counter ≤ after.counter := by
  intro initial final
  have reaches :
      Configuration.Reaches (execute .memory) (writesCurrentCounter "u")
        initial final := by
    apply Configuration.Reaches.of_follow_allowed
    decide +kernel
  refine ⟨by decide +kernel, by decide +kernel, ?_⟩
  exact concurrent_stepsAcceptedOnce (fun _ => rfl) .refl reaches

/-- Two logins that both check the code before either stores its step. -/
def bothCheckFirst : List (Nat × Choice) :=
  List.replicate 4 (0, inFirstStep) ++ List.replicate 4 (1, inFirstStep) ++
    List.replicate 9 (0, inFirstStep) ++ List.replicate 9 (1, inFirstStep)

/-- Both of them are let in with the same code. -/
theorem concurrentLogins_acceptStepTwice :
    ¬ ∀ (backend : Backend) (env : Environment) (state : State)
        (requests : Nat → Request) (userID : String)
        (middle final : Serving),
      (∀ process, (requests process).resetsFactor = false) →
      Configuration.Reaches (execute backend) Configuration.anyStep
        (serving env state requests) middle →
      Configuration.Reaches (execute backend) Configuration.anyStep
        middle final →
      (acceptedSteps userID (allExchanges final)).Nodup ∧
        ∀ before ∈ middle.state.store.factor userID,
          ∃ after ∈ final.state.store.factor userID,
            before.counter ≤ after.counter := by
  intro acceptedOnce
  have distinct :=
    (acceptedOnce .memory plainEnvironment (oneAccount "1|s" true)
      (fun _ => loginWithCode) "u" _ _ (fun _ => rfl) .refl
      (Configuration.Reaches.of_follow bothCheckFirst _)).1
  exact absurd distinct (by decide +kernel)

/-!
## Concurrent enrolment
-/

/-- The requests that create an account. -/
def Request.registers : Request → Bool
  | .register _ => true
  | _ => false

/-- A call that writes the second factor of an account. -/
def Operation.writesFactor (userID : String) : Operation → Bool
  | .setUserTOTP id _ _ => id = userID
  | _ => false

/--
When a request writes secret and flag over an enabled second factor, that factor
is the one in the record that the request has read.
-/
def writesCurrentFactor (userID : String) : Serving → Nat → Choice → Prop :=
  beforeCall fun configuration process _ operation =>
    operation.writesFactor userID = true →
      ∀ exchange ∈ configuration.trace.ofProcess process,
        ∀ u ∈ readUser? exchange,
          ∀ factor ∈ configuration.state.store.factor userID,
            factor.enabled = true →
              (u.totpSecret, u.totpEnabled) = (factor.secret, true)

instance (userID : String) (configuration : Serving) (process : Nat)
    (choice : Choice) :
    Decidable (writesCurrentFactor userID configuration process choice) :=
  inferInstanceAs
    (Decidable (∀ operation ∈ (configuration.pool process).operation?, _))

/--
The events that may end an enabled secret: a disable request with a code for
that secret writes, or the account is deleted.
-/
def EndsFactor
    (env : Environment)
    (requests : Nat → Request)
    (userID secret : String)
    (events : Trace calls)
    (event : Event calls) :
    Prop :=
  event.exchange = answered (.deleteAccount userID) (.ok ()) ∨
    ∃ code,
      requests event.process = .totpDisable userID (some code) ∧
      event.exchange = answered (.setUserTOTP userID "" false) (.ok ()) ∧
      CodeAccepted env (events.ofProcess event.process) secret code

/-- An account has a secret enabled. -/
def HasEnabled (store : Store) (userID secret : String) : Prop :=
  ∃ factor,
    store.factor userID = some factor ∧
      factor.secret = secret ∧ factor.enabled = true

/-- A secret that was enabled at an event is enabled until it is ended. -/
def KeptSince
    (env : Environment)
    (requests : Nat → Request)
    (userID secret : String)
    (configuration : Serving)
    (index : Nat) :
    Prop :=
  (∃ event ∈ configuration.trace.drop (index + 1),
      EndsFactor env requests userID secret configuration.trace event) ∨
    HasEnabled configuration.state.store userID secret

/--
Every enable request that has reported success wrote a secret whose code it had
accepted, and that secret is kept since.
-/
def EnabledKept
    (env : Environment)
    (requests : Nat → Request)
    (userID : String)
    (configuration : Serving) :
    Prop :=
  ∀ process code,
    requests process = .totpEnable userID (some code) →
    succeeded configuration process = true →
    ∃ index secret,
      configuration.trace[index]? =
        some ⟨process, answered (.setUserTOTP userID secret true) (.ok ())⟩ ∧
      CodeAccepted env (configuration.trace.ofProcess process) secret code ∧
      KeptSince env requests userID secret configuration index

/-- An accepted code stays accepted as the history grows. -/
theorem CodeAccepted.mono
    {env : Environment}
    {history later : History calls}
    {stored code : String}
    (accepted : CodeAccepted env history stored code)
    (longer : history <+: later) :
    CodeAccepted env later stored code := by
  obtain ⟨now, isRead, notRejected⟩ := accepted
  exact ⟨now, longer.subset isRead, notRejected⟩

section ConcurrentEnrolment

variable {backend : Backend} {env : Environment} {state : State}
  {requests : Nat → Request} {userID secret : String} {choice : Choice}
  {configuration final : Serving}

/-- What ends a factor in a trace ends it in every longer trace. -/
theorem EndsFactor.concat
    {events : Trace calls}
    {event : Event calls}
    (ends : EndsFactor env requests userID secret events event)
    (newest : Event calls) :
    EndsFactor env requests userID secret (events ++ [newest]) event := by
  rcases ends with deleted | ⟨code, isDisable, isWrite, accepted⟩
  · exact Or.inl deleted
  · refine Or.inr ⟨code, isDisable, isWrite, accepted.mono ?_⟩
    unfold Trace.ofProcess
    rw [List.filterMap_append]
    exact List.prefix_append _ _

/--
What one call does to an enabled secret: it stays, or the call is one of those
that may end it.
-/
theorem hasEnabled_cases
    {process : Nat}
    {operation : Operation}
    {next : Answer operation → Handler Response}
    (noRegistration : ∀ process, (requests process).registers = false)
    (reaches :
      Configuration.Reaches (execute backend) (writesCurrentFactor userID)
        (serving env state requests) configuration)
    (shape : configuration.pool process = .perform operation next)
    (permitted :
      writesCurrentFactor userID configuration process choice)
    (enabled : HasEnabled configuration.state.store userID secret) :
    HasEnabled
        (execute backend choice configuration.state operation).2.store
        userID secret ∨
      EndsFactor env requests userID secret
        (configuration.trace ++
          [⟨process,
            exchanged backend choice configuration.state operation⟩])
        ⟨process, exchanged backend choice configuration.state operation⟩ := by
  have guarded := guarded_of_perform reaches shape
  obtain ⟨factor, isStored, sameSecret, isEnabled⟩ := enabled
  have unchanged :
      ∀ after : State,
        after.store.factor userID = configuration.state.store.factor userID →
          HasEnabled after.store userID secret := by
    intro after same
    exact ⟨factor, same.trans isStored, sameSecret, isEnabled⟩
  by_cases quiet : operation.changesFactor = false
  · exact Or.inl (unchanged _ (factor_execute quiet userID))
  · cases operation with
    | createUser u =>
        obtain ⟨-, ⟨req, isRegister⟩, -⟩ := guarded
        have registers := noRegistration process
        rw [isRegister] at registers
        cases registers
    | setUserTOTPCounter id counter =>
        left
        rcases @setUserTOTPCounter_ends backend choice configuration.state id
            counter with
          ⟨e, failed⟩ | ⟨after, stored, written, isStored', changed⟩
        · rw [failed]
          exact unchanged _ rfl
        · rw [written]
          by_cases isAccount : userID = id
          · subst id
            rw [isStored] at isStored'
            cases isStored'
            refine ⟨_, (changed userID).trans (if_pos rfl), sameSecret,
              isEnabled⟩
          · exact unchanged _ ((changed userID).trans (if_neg isAccount))
    | deleteAccount id =>
        rcases @deleteAccount_factor backend choice configuration.state id with
          ⟨e, failed⟩ | ⟨after, deleted, changed⟩
        · rw [failed]
          exact Or.inl (unchanged _ rfl)
        · by_cases isAccount : userID = id
          · subst id
            right
            left
            rw [exchanged, deleted]
          · rw [deleted]
            exact Or.inl
              (unchanged _ ((changed userID).trans (if_neg isAccount)))
    | setUserTOTP id newSecret newEnabled =>
        rcases @setUserTOTP_ends backend choice configuration.state id
            newSecret newEnabled with
          ⟨e, failed⟩ | ⟨after, written, -, changed⟩
        · rw [failed]
          exact Or.inl (unchanged _ rfl)
        · by_cases isAccount : userID = id
          · subst id
            have newFactor := (changed userID).trans (if_pos rfl)
            obtain ⟨-, u, isRead, checks⟩ := guarded
            obtain ⟨readSecret, readEnabled⟩ :=
              Prod.mk.inj
                (beforeCall_of_perform permitted shape (decide_eq_true rfl) _
                  isRead u rfl factor isStored isEnabled)
            split at checks
            · obtain ⟨-, -, notEnabled⟩ := checks
              rw [notEnabled] at readEnabled
              cases readEnabled
            · obtain ⟨-, rfl, rfl, -⟩ := checks
              left
              rw [written]
              exact ⟨_, newFactor, readSecret.trans sameSecret, rfl⟩
            · rename_i id code isDisable
              obtain ⟨rfl, rfl, rfl, -, accepted⟩ := checks
              right
              right
              refine ⟨code, isDisable, ?_, ?_⟩
              · rw [exchanged, written]
              · rw [readSecret, sameSecret] at accepted
                rw [Trace.ofProcess_append_same]
                exact accepted.mono (List.prefix_append _ _)
            · exact checks.elim
          · rw [written]
            exact Or.inl
              (unchanged _ ((changed userID).trans (if_neg isAccount)))
    | _ => exact absurd rfl quiet

/-- In every run of current writes, a secret is kept since it was enabled. -/
theorem keptSince_of_reaches
    (noRegistration : ∀ process, (requests process).registers = false)
    (reaches :
      Configuration.Reaches (execute backend) (writesCurrentFactor userID)
        (serving env state requests) final) :
    ∀ index process secret,
      final.trace[index]? =
        some ⟨process, answered (.setUserTOTP userID secret true) (.ok ())⟩ →
      KeptSince env requests userID secret final index := by
  refine reaches.invariant
    (fun configuration =>
      ∀ index process secret,
        configuration.trace[index]? =
          some
            ⟨process, answered (.setUserTOTP userID secret true) (.ok ())⟩ →
        KeptSince env requests userID secret configuration index) ?_ ?_
  · intro index process secret found
    cases found
  · intro configuration moved operation next choice reached kept shape
      permitted index process secret found
    rcases Trace.getElem?_concat found with ⟨old, -⟩ | ⟨newest, sameBefore⟩
    · have inRange : index + 1 ≤ configuration.trace.length :=
        (List.getElem?_eq_some_iff.mp old).1
      have longer :=
        @List.drop_append_of_le_length _ _
          [⟨moved, exchanged backend choice configuration.state operation⟩]
          _ inRange
      rcases kept index process secret old with
        ⟨event, member, ends⟩ | enabled
      · left
        refine ⟨event, ?_, ends.concat _⟩
        simp only [Configuration.answered, longer]
        exact List.mem_append_left _ member
      · rcases hasEnabled_cases noRegistration reached shape permitted
            enabled with stays | ends
        · exact Or.inr stays
        · left
          refine ⟨_, ?_, ends⟩
          simp only [Configuration.answered, longer]
          exact List.mem_append_right _ (List.mem_singleton_self _)
    · right
      have exchanges := congrArg Event.exchange newest
      dsimp only at exchanges
      obtain rfl := Exchange.operation_eq exchanges
      rcases @setUserTOTP_ends backend choice configuration.state userID secret
          true with ⟨e, failed⟩ | ⟨after, written, -, changed⟩
      · rw [failed] at exchanges
        cases exchanges
      · simp only [Configuration.answered, written]
        exact ⟨_, (changed userID).trans (if_pos rfl), rfl, rfl⟩

/--
However requests other than registrations interleave, a secret stays enabled
from the moment an enable request wrote it until a code for it disables it or
the account is deleted, as long as an enabled factor is overwritten only by a
request that has read it.
-/
theorem enabledKept_of_currentWrites
    (noRegistration : ∀ process, (requests process).registers = false)
    (reaches :
      Configuration.Reaches (execute backend) (writesCurrentFactor userID)
        (serving env state requests) final) :
    EnabledKept env requests userID final := by
  intro process code isEnable hasSucceeded
  obtain ⟨response, finished, status⟩ :=
    (Option.any_eq_true _ _).mp hasSucceeded
  have reported := reported_of_outcome? reaches finished
  rw [isEnable] at reported
  obtain ⟨secret, written⟩ := reported (of_decide_eq_true status)
  have inTrace := Trace.mem_ofProcess.mp written
  obtain ⟨earlier, longer, guarded⟩ := guarded_of_mem reaches inTrace
  obtain ⟨-, u, -, checks⟩ := guarded
  dsimp only at checks
  rw [isEnable] at checks
  obtain ⟨-, -, -, -, accepted⟩ := checks
  obtain ⟨index, found⟩ := List.getElem?_of_mem inTrace
  exact ⟨index, secret, found, accepted.mono longer,
    keptSince_of_reaches noRegistration reaches index process secret found⟩

end ConcurrentEnrolment

/-- An enable request of one account beside requests that set it up again. -/
def enableAndSetup (process : Nat) : Request :=
  if process = 0 then .totpEnable "u" (some "000001") else .totpSetup "u"

/-- None of these requests is a registration. -/
theorem enableAndSetup_registers (process : Nat) :
    (enableAndSetup process).registers = false := by
  unfold enableAndSetup
  split
  · rfl
  · rfl

/-- A setup that comes after the enabling is refused. -/
theorem setupAfterwards_enabledKept :
    let final :=
      (serving plainEnvironment (oneAccount "1|s" false)
          enableAndSetup).follow (execute .memory)
        (List.replicate 6 (0, inFirstStep) ++ [(1, inFirstStep)])
    succeeded final 0 = true ∧ quiescent final = true ∧
      EnabledKept plainEnvironment enableAndSetup "u" final := by
  intro final
  have reaches :
      Configuration.Reaches (execute .memory) (writesCurrentFactor "u")
        (serving plainEnvironment (oneAccount "1|s" false) enableAndSetup)
        final := by
    apply Configuration.Reaches.of_follow_allowed
    decide +kernel
  refine ⟨by decide +kernel, by decide +kernel, ?_⟩
  exact enabledKept_of_currentWrites enableAndSetup_registers reaches

/-- The setup has read the account before the enabling. -/
def setupAround : List (Nat × Choice) :=
  [(1, inFirstStep)] ++ List.replicate 6 (0, inFirstStep) ++
    List.replicate 3 (1, inFirstStep)

/-- The enabled second factor is silently replaced and switched off. -/
theorem concurrentSetup_disables :
    ¬ ∀ (backend : Backend) (env : Environment) (state : State)
        (requests : Nat → Request) (userID : String) (final : Serving),
      (∀ process, (requests process).registers = false) →
      Configuration.Reaches (execute backend) Configuration.anyStep
        (serving env state requests) final →
      EnabledKept env requests userID final := by
  intro enabledKept
  have isKept :=
    enabledKept .memory plainEnvironment (oneAccount "1|s" false)
      enableAndSetup "u" _ enableAndSetup_registers
      (Configuration.Reaches.of_follow setupAround _)
  generalize reached :
    (serving plainEnvironment (oneAccount "1|s" false)
      enableAndSetup).follow (execute .memory) setupAround = final at isKept
  have hasSucceeded : succeeded final 0 = true := by
    rw [← reached]
    decide +kernel
  have notDeleted :
      (final.trace.all fun event =>
        event.exchange.operation ≠ .deleteAccount "u") = true := by
    rw [← reached]
    decide +kernel
  have isDisabled :
      ((final.state.store.factor "u").all fun factor =>
        !factor.enabled) = true := by
    rw [← reached]
    decide +kernel
  obtain ⟨index, secret, -, -, ended | enabled⟩ :=
    isKept 0 "000001" rfl hasSucceeded
  · obtain ⟨event, member, deleted | ⟨code, isDisable, -⟩⟩ := ended
    · have notDelete :=
        List.all_eq_true.mp notDeleted event (List.mem_of_mem_drop member)
      rw [deleted] at notDelete
      cases notDelete
    · unfold enableAndSetup at isDisable
      split at isDisable
      · cases isDisable
      · cases isDisable
  · obtain ⟨factor, isStored, -, isEnabled⟩ := enabled
    have notEnabled := (Option.all_eq_true _ _).mp isDisabled factor isStored
    rw [isEnabled] at notEnabled
    cases notEnabled

/-!
## Sequences of requests
-/

/--
A server between two requests, with the steps accepted for an account since its
secret last changed.
-/
structure StepLog where
  state : State
  accepted : List Nat

/-- The stored secret of an account. -/
def Store.secret (store : Store) (userID : String) : Option String :=
  (store.factor userID).map fun factor => factor.secret

/-- The log after a history of exchanges that led to a state. -/
def StepLog.after
    (userID : String)
    (log : StepLog)
    (state : State)
    (history : History calls) :
    StepLog where
  state := state
  accepted :=
    if state.store.secret userID = log.state.store.secret userID then
      log.accepted ++ acceptedSteps userID history
    else
      []

/-- The log after serving one more request. -/
def StepLog.serve
    (backend : Backend)
    (env : Environment)
    (userID : String)
    (log : StepLog)
    (request : Request)
    (choices : Nat → Choice) :
    StepLog :=
  let completed := served backend env log.state request choices
  log.after userID completed.state completed.history

/--
The logs of an account on a server that starts empty and serves requests one
after the other, each of them under a condition on the state before it.
-/
inductive Logged
    (backend : Backend)
    (env : Environment)
    (userID : String)
    (allowed : State → Request → (Nat → Choice) → Prop) :
    StepLog → Prop where
  | start : Logged backend env userID allowed ⟨State.empty, []⟩
  | serve
      {log : StepLog}
      (request : Request)
      (choices : Nat → Choice) :
      Logged backend env userID allowed log →
      allowed log.state request choices →
      Logged backend env userID allowed
        (log.serve backend env userID request choices)

/-- While its secret is unchanged, the counter of an account does not decrease. -/
def CounterKept (userID : String) (before after : State) : Prop :=
  ∀ old ∈ before.store.factor userID, ∀ new ∈ after.store.factor userID,
    new.secret = old.secret → old.counter ≤ new.counter

/--
No enable request arrives with a code of the stored secret while that secret is
enabled already.
-/
def enablesOnce
    (env : Environment)
    (userID : String)
    (state : State)
    (request : Request)
    (choices : Nat → Choice) :
    Prop :=
  ∀ code,
    request = .totpEnable userID (some code) →
    ∀ factor ∈ state.store.factor userID,
      factor.enabled = true →
        ∀ index, rejectsCode env factor.secret code (choices index).now = true

/-- What every request keeps: the replay baseline covers the accepted steps. -/
structure StepLog.Sound (userID : String) (log : StepLog) : Prop where
  distinct : log.accepted.Nodup
  absent : log.state.store.factor userID = none → log.accepted = []
  disabled :
    ∀ factor ∈ log.state.store.factor userID,
      factor.enabled = false → factor.counter = 0 ∧ log.accepted = []
  enabled :
    ∀ factor ∈ log.state.store.factor userID,
      factor.enabled = true →
        factor.secret ≠ "" ∧ ∀ step ∈ log.accepted, step ≤ factor.counter

section Sequential

variable {backend : Backend} {env : Environment} {userID : String}
  {log : StepLog} {state : State} {history : History calls}

/-- Soundness depends on the factor and the accepted steps only. -/
theorem StepLog.Sound.congr
    {other : StepLog}
    (sound : log.Sound userID)
    (sameFactor :
      other.state.store.factor userID = log.state.store.factor userID)
    (sameAccepted : other.accepted = log.accepted) :
    other.Sound userID := by
  constructor
  · rw [sameAccepted]
    exact sound.distinct
  · rw [sameAccepted, sameFactor]
    exact sound.absent
  · rw [sameAccepted, sameFactor]
    exact sound.disabled
  · rw [sameAccepted, sameFactor]
    exact sound.enabled

/-- What a request leaves when it does not change the factor. -/
theorem StepLog.Sound.of_same
    (sound : log.Sound userID)
    (same :
      state.store.factor userID = log.state.store.factor userID)
    (noStep : acceptedSteps userID history = []) :
    (log.after userID state history).Sound userID ∧
      CounterKept userID log.state state := by
  have sameSecret :
      state.store.secret userID = log.state.store.secret userID := by
    rw [Store.secret, same, Store.secret]
  refine ⟨sound.congr same ?_, ?_⟩
  · rw [StepLog.after, if_pos sameSecret, noStep, List.append_nil]
  · intro old isOld new isNew _
    rw [same, isOld] at isNew
    cases isNew
    exact Nat.le_refl _

/-- What a request leaves when it writes a secret with a fresh counter. -/
theorem StepLog.Sound.of_write
    {secret : String}
    {isEnabled : Bool}
    (sound : log.Sound userID)
    (written :
      state.store.factor userID =
        some { secret := secret, enabled := isEnabled, counter := 0 })
    (noStep : acceptedSteps userID history = [])
    (named : isEnabled = true → secret ≠ "")
    (replaces :
      ∀ factor ∈ log.state.store.factor userID,
        factor.secret = secret → factor.enabled = false) :
    (log.after userID state history).Sound userID ∧
      CounterKept userID log.state state := by
  have noneAccepted : (log.after userID state history).accepted = [] := by
    simp only [StepLog.after, noStep, List.append_nil]
    split
    · rename_i sameSecret
      rw [Store.secret, written, Store.secret] at sameSecret
      obtain ⟨factor, isStored, isSecret⟩ :=
        Option.map_eq_some_iff.mp sameSecret.symm
      exact
        (sound.disabled factor isStored (replaces factor isStored isSecret)).2
    · rfl
  refine ⟨⟨?_, ?_, ?_, ?_⟩, ?_⟩
  · rw [noneAccepted]
    exact List.nodup_nil
  · exact fun _ => noneAccepted
  · intro factor isStored _
    rw [StepLog.after, written] at isStored
    cases isStored
    exact ⟨rfl, noneAccepted⟩
  · intro factor isStored enabled
    rw [StepLog.after, written] at isStored
    cases isStored
    refine ⟨named enabled, ?_⟩
    rw [noneAccepted]
    intro step member
    cases member
  · intro old isOld new isNew sameSecret
    rw [written] at isNew
    cases isNew
    have unused := sound.disabled old isOld (replaces old isOld sameSecret.symm)
    exact Nat.le_of_eq unused.1

/-- What a login leaves when it accepts a later step. -/
theorem StepLog.Sound.of_step
    {factor : Factor}
    {counter : Nat}
    (sound : log.Sound userID)
    (isStored : log.state.store.factor userID = some factor)
    (isEnabled : factor.enabled = true)
    (later : factor.counter < counter)
    (written :
      state.store.factor userID = some { factor with counter := counter })
    (oneStep : acceptedSteps userID history = [counter]) :
    (log.after userID state history).Sound userID ∧
      CounterKept userID log.state state := by
  have sameSecret :
      state.store.secret userID = log.state.store.secret userID := by
    rw [Store.secret, written, Store.secret, isStored]
    rfl
  have newAccepted :
      (log.after userID state history).accepted =
        log.accepted ++ [counter] := by
    rw [StepLog.after, if_pos sameSecret, oneStep]
  obtain ⟨named, covered⟩ := sound.enabled factor isStored isEnabled
  refine ⟨⟨?_, ?_, ?_, ?_⟩, ?_⟩
  · rw [newAccepted]
    refine List.Nodup.append sound.distinct (List.nodup_singleton _) ?_
    intro step member isNewest
    rw [List.mem_singleton.mp isNewest] at member
    exact Nat.lt_irrefl _ (Nat.lt_of_le_of_lt (covered counter member) later)
  · intro isAbsent
    rw [StepLog.after, written] at isAbsent
    cases isAbsent
  · intro new isNew disabled
    rw [StepLog.after, written] at isNew
    cases isNew
    rw [isEnabled] at disabled
    cases disabled
  · intro new isNew _
    rw [StepLog.after, written] at isNew
    cases isNew
    refine ⟨named, ?_⟩
    rw [newAccepted]
    intro step member
    rcases List.mem_append.mp member with old | newest
    · exact Nat.le_of_lt (Nat.lt_of_le_of_lt (covered step old) later)
    · exact Nat.le_of_eq (List.mem_singleton.mp newest)
  · intro old isOld new isNew _
    rw [isStored] at isOld
    cases isOld
    rw [written] at isNew
    cases isNew
    exact Nat.le_of_lt later

/-- What a request leaves when it deletes the account. -/
theorem StepLog.Sound.of_delete
    (sound : log.Sound userID)
    (deleted : state.store.factor userID = none)
    (noStep : acceptedSteps userID history = []) :
    (log.after userID state history).Sound userID ∧
      CounterKept userID log.state state := by
  have noneAccepted : (log.after userID state history).accepted = [] := by
    simp only [StepLog.after, noStep, List.append_nil]
    split
    · rename_i sameSecret
      rw [Store.secret, deleted, Store.secret] at sameSecret
      exact sound.absent (Option.map_eq_none_iff.mp sameSecret.symm)
    · rfl
  refine ⟨⟨?_, ?_, ?_, ?_⟩, ?_⟩
  · rw [noneAccepted]
    exact List.nodup_nil
  · exact fun _ => noneAccepted
  · intro factor isStored
    rw [StepLog.after, deleted] at isStored
    cases isStored
  · intro factor isStored
    rw [StepLog.after, deleted] at isStored
    cases isStored
  · intro old _ new isNew
    rw [deleted] at isNew
    cases isNew

section Call

variable {choice : Choice}

/-- The call that a request makes next leaves a sound log. -/
abbrev StepLog.CallSound
    (log : StepLog)
    (userID : String)
    (history : History calls)
    (backend : Backend)
    (choice : Choice)
    (state : State)
    (operation : Operation) :
    Prop :=
  (log.after userID (execute backend choice state operation).2
      (history ++ [exchanged backend choice state operation])).Sound userID ∧
    CounterKept userID log.state (execute backend choice state operation).2

/-- The steps accepted up to a call are those of the call. -/
theorem acceptedSteps_call
    (noStep : acceptedSteps userID history = [])
    (operation : Operation) :
    acceptedSteps userID
        (history ++ [exchanged backend choice state operation]) =
      (acceptedStep userID
        (exchanged backend choice state operation)).toList := by
  rw [acceptedSteps_concat, noStep, List.nil_append]

/-- Creating a user leaves a sound log. -/
theorem StepLog.Sound.createUser
    {u : User}
    (sound : log.Sound userID)
    (sameFactor : state.store.factor userID = log.state.store.factor userID)
    (noStep : acceptedSteps userID history = [])
    (notEnabled : u.totpEnabled = false)
    (noSecret : u.totpSecret = "")
    (fresh : u.totpLastCounter = 0) :
    log.CallSound userID history backend choice state (.createUser u) := by
  have newSteps :=
    @acceptedSteps_call backend userID state _ choice noStep (.createUser u)
  rcases @createUser_ends backend choice state u fresh with
    ⟨e, failed⟩ | ⟨after, created, changed⟩
  · rw [StepLog.CallSound, failed]
    exact sound.of_same sameFactor newSteps
  · rw [StepLog.CallSound, created]
    by_cases isAccount : userID = u.id
    · have newFactor :
          after.store.factor userID =
            some { secret := "", enabled := false, counter := 0 } := by
        rw [changed userID, if_pos isAccount, User.factor, notEnabled,
          noSecret, fresh]
      refine sound.of_write newFactor newSteps ?_ ?_
      · intro enabled
        cases enabled
      · intro factor isStored isEmpty
        by_contra isEnabled
        exact (sound.enabled factor isStored
          (by simpa using isEnabled)).1 isEmpty
    · exact sound.of_same
        (((changed userID).trans (if_neg isAccount)).trans sameFactor)
        newSteps

/-- Writing the counter of a later step leaves a sound log. -/
theorem StepLog.Sound.setUserTOTPCounter
    {u : User}
    {counter : Nat}
    (sound : log.Sound userID)
    (sameUsers : state.store.users = log.state.store.users)
    (noStep : acceptedSteps userID history = [])
    (isRead : log.state.store.users.find? u.id = some u)
    (isEnabled : u.totpEnabled = true)
    (later : u.totpLastCounter < counter) :
    log.CallSound userID history backend choice state
      (.setUserTOTPCounter u.id counter) := by
  have sameFactor :
      ∀ id, state.store.factor id = log.state.store.factor id := by
    intro id
    rw [Store.factor, sameUsers, Store.factor]
  have newSteps :=
    @acceptedSteps_call backend userID state _ choice noStep
      (.setUserTOTPCounter u.id counter)
  rcases @setUserTOTPCounter_ends backend choice state u.id counter with
    ⟨e, failed⟩ | ⟨after, factor, written, isStored, changed⟩
  · rw [exchanged, failed] at newSteps
    rw [StepLog.CallSound, exchanged, failed]
    exact sound.of_same (sameFactor userID) newSteps
  · rw [exchanged, written] at newSteps
    rw [StepLog.CallSound, exchanged, written]
    by_cases isAccount : userID = u.id
    · have isFactor : factor = u.factor := by
        rw [sameFactor, Store.factor, isRead] at isStored
        exact (Option.some.inj isStored).symm
      subst isFactor isAccount
      refine sound.of_step ((sameFactor u.id).symm.trans isStored)
        isEnabled later ((changed u.id).trans (if_pos rfl)) ?_
      rw [newSteps]
      simp [acceptedStep]
    · refine sound.of_same
        (((changed userID).trans (if_neg isAccount)).trans
          (sameFactor userID)) ?_
      rw [newSteps]
      simp [acceptedStep, Ne.symm isAccount]

/-- Deleting an account leaves a sound log. -/
theorem StepLog.Sound.deleteAccount
    (sound : log.Sound userID)
    (sameFactor : state.store.factor userID = log.state.store.factor userID)
    (noStep : acceptedSteps userID history = [])
    (id : String) :
    log.CallSound userID history backend choice state (.deleteAccount id) := by
  have newSteps :=
    @acceptedSteps_call backend userID state _ choice noStep
      (.deleteAccount id)
  rcases @deleteAccount_factor backend choice state id with
    ⟨e, failed⟩ | ⟨after, deleted, changed⟩
  · rw [StepLog.CallSound, failed]
    exact sound.of_same sameFactor newSteps
  · rw [StepLog.CallSound, deleted]
    by_cases isAccount : userID = id
    · exact sound.of_delete ((changed userID).trans (if_pos isAccount))
        newSteps
    · exact sound.of_same
        (((changed userID).trans (if_neg isAccount)).trans sameFactor)
        newSteps

/-- Writing a secret that replaces no enabled one leaves a sound log. -/
theorem StepLog.Sound.setUserTOTP
    {id secret : String}
    {isEnabled : Bool}
    (sound : log.Sound userID)
    (sameFactor : state.store.factor userID = log.state.store.factor userID)
    (noStep : acceptedSteps userID history = [])
    (named : isEnabled = true → secret ≠ "")
    (replaces :
      userID = id →
        ∀ factor ∈ log.state.store.factor userID,
          factor.secret = secret → factor.enabled = false) :
    log.CallSound userID history backend choice state
      (.setUserTOTP id secret isEnabled) := by
  have newSteps :=
    @acceptedSteps_call backend userID state _ choice noStep
      (.setUserTOTP id secret isEnabled)
  rcases @setUserTOTP_ends backend choice state id secret isEnabled with
    ⟨e, failed⟩ | ⟨after, written, -, changed⟩
  · rw [StepLog.CallSound, failed]
    exact sound.of_same sameFactor newSteps
  · rw [StepLog.CallSound, written]
    by_cases isAccount : userID = id
    · exact sound.of_write ((changed userID).trans (if_pos isAccount))
        newSteps named (replaces isAccount)
    · exact sound.of_same
        (((changed userID).trans (if_neg isAccount)).trans sameFactor)
        newSteps

end Call

/-- The one call of a request that writes an account leaves a sound log. -/
theorem StepLog.Sound.of_call
    {request : Request}
    {choices : Nat → Choice}
    {choice : Choice}
    {operation : Operation}
    (sound : log.Sound userID)
    (permitted : enablesOnce env userID log.state request choices)
    (guarded : Guarded env request history operation)
    (times :
      ∀ time, answered .now time ∈ history →
        ∃ index, (choices index).now = time)
    (sameUsers : state.store.users = log.state.store.users)
    (reads : ReadsStored log.state.store history)
    (noStep : acceptedSteps userID history = []) :
    log.CallSound userID history backend choice state operation := by
  have sameFactor :
      state.store.factor userID = log.state.store.factor userID := by
    rw [Store.factor, sameUsers, Store.factor]
  by_cases quiet : operation.changesFactor = false
  · refine sound.of_same ((factor_execute quiet userID).trans sameFactor) ?_
    rw [acceptedSteps_call noStep, acceptedStep_of_other, Option.toList_none]
    intro counter isCount
    obtain rfl := Exchange.operation_eq isCount
    cases quiet
  · have established := guarded.2
    cases operation with
    | createUser u =>
        obtain ⟨-, notEnabled, noSecret, fresh⟩ := established
        exact sound.createUser sameFactor noStep notEnabled noSecret fresh
    | setUserTOTPCounter id counter =>
        obtain ⟨req, u, secret, now, -, isRead, rfl, isEnabled, -, -, -, later⟩ :=
          established
        exact sound.setUserTOTPCounter sameUsers noStep
          (reads.byIdentifierHash _ _ isRead) isEnabled later
    | deleteAccount id =>
        exact sound.deleteAccount sameFactor noStep id
    | setUserTOTP id newSecret newEnabled =>
        obtain ⟨u, isRead, checks⟩ := established
        have isStored : log.state.store.factor id = some u.factor := by
          rw [Store.factor, reads.byID _ _ isRead]
          rfl
        refine sound.setUserTOTP sameFactor noStep ?_ ?_
        · split at checks
          · obtain ⟨-, rfl, -⟩ := checks
            intro enabled
            cases enabled
          · obtain ⟨-, -, -, named, -⟩ := checks
            exact fun _ => named
          · obtain ⟨-, rfl, -⟩ := checks
            intro enabled
            cases enabled
          · exact checks.elim
        · rintro rfl factor isFactor sameSecret
          rw [isStored] at isFactor
          cases isFactor
          split at checks
          · exact checks.2.2
          · rename_i code
            obtain ⟨rfl, -, rfl, -, now, isNow, notRejected⟩ := checks
            by_contra isEnabled
            obtain ⟨index, rfl⟩ := times now isNow
            have rejected :=
              permitted code rfl u.factor isStored
                (by simpa using isEnabled) index
            rw [User.factor, notRejected] at rejected
            cases rejected
          · obtain ⟨-, -, rfl, isEnabled, -⟩ := checks
            exact absurd sameSecret
              (sound.enabled u.factor isStored isEnabled).1
          · exact checks.elim
    | _ => exact absurd rfl quiet

/--
What has become of an account in the course of one request: nothing yet, or its
one write has left a sound log.
-/
def Progress
    (userID : String)
    (log : StepLog)
    (choices : Nat → Choice)
    (history : History calls)
    (state : State) :
    Prop :=
  (∀ time, answered .now time ∈ history →
      ∃ index, (choices index).now = time) ∧
    ((Unwritten history ∧
        state.store.users = log.state.store.users ∧
        ReadsStored log.state.store history ∧
        acceptedSteps userID history = []) ∨
      (¬ Unwritten history ∧
        (log.after userID state history).Sound userID ∧
        CounterKept userID log.state state))

/-- Every call of a request keeps what has become of an account. -/
theorem Progress.step
    {request : Request}
    {choices : Nat → Choice}
    {operation : Operation}
    {index : Nat}
    (progress : Progress userID log choices history state)
    (sound : log.Sound userID)
    (permitted : enablesOnce env userID log.state request choices)
    (guarded : Guarded env request history operation) :
    Progress userID log choices
      (history ++ [exchanged backend (choices index) state operation])
      (execute backend (choices index) state operation).2 := by
  obtain ⟨times, course⟩ := progress
  constructor
  · intro time member
    rcases List.mem_append.mp member with old | new
    · exact times time old
    · have isNewest := List.mem_singleton.mp new
      obtain rfl := Exchange.operation_eq isNewest
      cases isNewest
      exact ⟨index, rfl⟩
  · by_cases untouched : operation.touches .users = false
    · have sameUsers :
          (execute backend (choices index) state operation).2.store.users =
            state.store.users :=
        execute_same untouched
      have noStep :
          acceptedStep userID
            (exchanged backend (choices index) state operation) = none := by
        apply acceptedStep_of_other
        intro counter isCount
        obtain rfl := Exchange.operation_eq isCount
        cases untouched
      have sameSteps :
          acceptedSteps userID
              (history ++
                [exchanged backend (choices index) state operation]) =
            acceptedSteps userID history := by
        rw [acceptedSteps_concat, noStep, Option.toList_none, List.append_nil]
      rcases course with
        ⟨unwritten, users, reads, noSteps⟩ | ⟨written, newSound, kept⟩
      · left
        exact ⟨unwritten.concat untouched, sameUsers.trans users,
          reads.concat users operation, sameSteps.trans noSteps⟩
      · right
        have sameFactor :
            (execute backend (choices index) state operation).2.store.factor
                userID =
              state.store.factor userID := by
          rw [Store.factor, sameUsers, Store.factor]
        refine ⟨?_, newSound.congr sameFactor ?_, ?_⟩
        · intro unwritten
          apply written
          intro earlier member
          exact unwritten earlier (List.mem_append_left _ member)
        · dsimp only [StepLog.after]
          rw [Store.secret, sameFactor, ← Store.secret, sameSteps]
        · unfold CounterKept
          rw [sameFactor]
          exact kept
    · have isWrite : operation.touches .users = true := by
        simpa using untouched
      have unwritten := guarded.1 isWrite
      rcases course with ⟨-, users, reads, noSteps⟩ | ⟨written, -, -⟩
      · right
        refine ⟨?_, sound.of_call permitted guarded times users reads noSteps⟩
        intro stillUnwritten
        have untouched :=
          stillUnwritten _
            (List.mem_append_right _ (List.mem_singleton_self _))
        rw [isWrite] at untouched
        cases untouched
      · exact absurd unwritten written

/-- Serving one request keeps a log sound and the counter of a kept secret. -/
theorem StepLog.Sound.serve
    {request : Request}
    {choices : Nat → Choice}
    (sound : log.Sound userID)
    (permitted : enablesOnce env userID log.state request choices) :
    (log.serve backend env userID request choices).Sound userID ∧
      CounterKept userID log.state
        (log.serve backend env userID request choices).state := by
  have progress :
      Progress userID log choices
        ([] ++ (served backend env log.state request choices).history)
        (served backend env log.state request choices).state := by
    refine (serves_serve env request).run_invariant
      (Progress userID log choices) ?_ ?_
    · refine ⟨?_, Or.inl ⟨unwritten_nil, rfl, readsStored_nil _, rfl⟩⟩
      intro time member
      cases member
    · intro history operation state index guarded progress
      exact progress.step sound permitted guarded
  rw [List.nil_append] at progress
  rcases progress.2 with ⟨-, users, -, noSteps⟩ | ⟨-, newSound, kept⟩
  · refine sound.of_same ?_ noSteps
    rw [Store.factor, users, Store.factor]
  · exact ⟨newSound, kept⟩

/--
Whatever requests a server serves one after the other, no login accepts a time
step twice while the secret is unchanged, and the stored counter of a kept
secret does not decrease, as long as an enabled secret is not enabled again.
-/
theorem sequential_stepsAcceptedOnce
    (logged :
      Logged backend env userID (enablesOnce env userID) log) :
    log.accepted.Nodup ∧
      ∀ request choices,
        enablesOnce env userID log.state request choices →
          CounterKept userID log.state
            (log.serve backend env userID request choices).state := by
  have sound : log.Sound userID := by
    induction logged with
    | start =>
        constructor
        · exact List.nodup_nil
        · exact fun _ => rfl
        · intro factor isStored
          cases isStored
        · intro factor isStored
          cases isStored
    | serve request choices _ permitted inductionHypothesis =>
        exact (inductionHypothesis.serve permitted).1
  refine ⟨sound.distinct, ?_⟩
  intro request choices permitted
  exact (sound.serve permitted).2

end Sequential

/-- The id of an account that is registered in the first time step. -/
def newAccount : String :=
  hexEncode (inFirstStep.bytes 16)

/-- The registration of that account. -/
def registration : Request :=
  .register (some
    { identifier := "a", kdf := defaultKDF, masterPasswordHash := "p",
      protectedUserKey := "k", publicKey := "", protectedPrivateKey := "" })

/-- The log of the account after requests in the first time step. -/
def logOf (requests : List Request) : StepLog :=
  requests.foldl
    (fun log request =>
      log.serve .memory plainEnvironment newAccount request
        fun _ => inFirstStep)
    ⟨State.empty, []⟩

/-- The requests with which the account enrols its second factor. -/
def enrolment : List Request :=
  [registration, .totpSetup newAccount,
    .totpEnable newAccount (some "000001")]

/-- After enrolment the account logs in once with a code, not twice. -/
theorem enrolment_stepsAcceptedOnce :
    let log := logOf (enrolment ++ [loginWithCode, loginWithCode])
    log.accepted = [1] ∧ log.accepted.Nodup ∧
      ∀ request choices,
        enablesOnce plainEnvironment newAccount log.state request choices →
          CounterKept newAccount log.state
            (log.serve .memory plainEnvironment newAccount request
              choices).state := by
  intro log
  have anyOther :
      ∀ state request,
        (∀ code, request ≠ .totpEnable newAccount (some code)) →
          enablesOnce plainEnvironment newAccount state request
            fun _ => inFirstStep := by
    intro state request other code isEnable
    exact absurd isEnable (other code)
  have notEnabled :
      (((logOf (enrolment.take 2)).state.store.factor newAccount).all
        fun factor => !factor.enabled) = true := by
    decide
  have enrolled :
      Logged .memory plainEnvironment newAccount
        (enablesOnce plainEnvironment newAccount) (logOf enrolment) := by
    refine (((Logged.start.serve _ _ (anyOther _ _ ?_)).serve _ _
      (anyOther _ _ ?_)).serve _ _ ?_)
    · rintro code ⟨⟩
    · rintro code ⟨⟩
    · intro code _ factor isStored isEnabled
      have disabled := (Option.all_eq_true _ _).mp notEnabled factor isStored
      rw [isEnabled] at disabled
      cases disabled
  have logged :
      Logged .memory plainEnvironment newAccount
        (enablesOnce plainEnvironment newAccount) log := by
    refine (enrolled.serve _ _ (anyOther _ _ ?_)).serve _ _ (anyOther _ _ ?_)
    · rintro code ⟨⟩
    · rintro code ⟨⟩
  exact ⟨by decide +kernel, sequential_stepsAcceptedOnce logged⟩

/-- Enabling once more with the same secret lets a used code in again. -/
theorem enablingAgain_acceptsStepTwice :
    ¬ ∀ (backend : Backend) (env : Environment) (userID : String)
        (log : StepLog),
      Logged backend env userID (fun _ _ _ => True) log →
      log.accepted.Nodup ∧
        ∀ request choices,
          CounterKept userID log.state
            (log.serve backend env userID request choices).state := by
  intro acceptedOnce
  have logged :
      ∀ requests,
        Logged .memory plainEnvironment newAccount (fun _ _ _ => True)
          (logOf requests) := by
    intro requests
    induction requests using List.reverseRecOn with
    | nil =>
        exact .start
    | append_singleton earlier request inductionHypothesis =>
        rw [logOf, List.foldl_concat]
        exact inductionHypothesis.serve request _ trivial
  have distinct :=
    (acceptedOnce _ _ _ _
      (logged
        (enrolment ++
          [loginWithCode, .totpEnable newAccount (some "000001"),
            loginWithCode]))).1
  exact absurd distinct (by decide +kernel)

end Passwd.Server
