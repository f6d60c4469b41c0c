import Passwd.InteractionLayers
import Passwd.InteractionRefinement

namespace Passwd.Interaction

/-!
# Programs behind a gate

A program over two interfaces may first ask the first one whether it goes on, and
how, and go on with calls of the second one only.  What is behind the gate is
then a program over the second interface that was admitted by the answers of the
first one.

A run of gated programs, seen at the second interface, is a run of programs that
were admitted.  What holds of every run of those holds of the gated ones.
-/

section Runs

variable {interface : Interface} {State Choice α : Type}
  {execute :
    Choice → State → (operation : interface.Operation) →
      interface.Answer operation × State}
  {allowed : Configuration interface State α → Nat → Choice → Prop}
  {initial final : Configuration interface State α}

/-- The configuration with another program in the place of a process. -/
def Configuration.replace
    (configuration : Configuration interface State α)
    (process : Nat)
    (program : Program interface α) :
    Configuration interface State α where
  state := configuration.state
  pool := Function.update configuration.pool process program
  trace := configuration.trace

/-- A process without exchanges may as well have been another one. -/
theorem Configuration.Reaches.replace
    {process : Nat}
    (reaches : Configuration.Reaches execute allowed initial final)
    (idle : final.trace.ofProcess process = [])
    (program : Program interface α) :
    Configuration.Reaches execute Configuration.anyStep
      (initial.replace process program) (final.replace process program) := by
  induction reaches with
  | refl =>
      exact .refl
  | @step configuration moved choice _ _ inductionHypothesis =>
      cases shape : configuration.pool moved with
      | done value =>
          rw [Configuration.advance_of_done shape] at idle ⊢
          exact inductionHypothesis idle
      | perform operation next =>
          rw [Configuration.advance_of_perform shape] at idle ⊢
          by_cases same : moved = process
          · subst moved
            simp [Configuration.answered,
              Trace.ofProcess_append_same] at idle
          · have other : process ≠ moved := Ne.symm same
            simp only [Configuration.answered,
              Trace.ofProcess_append_other _ _ same] at idle
            have before := inductionHypothesis idle
            have stillThere :
                (configuration.replace process program).pool moved =
                  .perform operation next := by
              simp only [Configuration.replace, Function.update_of_ne same,
                shape]
            have step := before.step moved choice trivial
            rw [Configuration.advance_of_perform stillThere] at step
            simp only [Configuration.answered, Configuration.replace,
              Function.update_comm other] at step ⊢
            exact step

end Runs

variable {first lower : Interface} {α β ρ : Type}

/-- What a trace shows of the second of two interfaces. -/
def secondTrace (first : Interface) (trace : Trace (first.sum lower)) :
    Trace lower :=
  trace.filterMap fun event =>
    (Program.secondExchange? first event.exchange).map fun exchange =>
      ⟨event.process, exchange⟩

/-- The history of a process at the second interface. -/
theorem ofProcess_secondTrace
    (trace : Trace (first.sum lower))
    (process : Nat) :
    (secondTrace first trace).ofProcess process =
      (trace.ofProcess process).filterMap (Program.secondExchange? first) := by
  simp only [secondTrace, Trace.ofProcess, List.filterMap_filterMap]
  apply List.filterMap_congr
  intro event _
  by_cases same : event.process = process
  · cases seen : Program.secondExchange? first event.exchange with
    | none => simp [same, seen]
    | some exchange => simp [same, seen]
  · cases seen : Program.secondExchange? first event.exchange with
    | none => simp [same]
    | some exchange => simp [same]

/-- What is observed of the second interface is observed through it. -/
theorem observed_secondTrace
    {Event : Type}
    (observe : Exchange lower → Option Event)
    (trace : Trace (first.sum lower)) :
    (secondTrace first trace).observed observe =
      trace.observed fun exchange =>
        (Program.secondExchange? first exchange).bind observe := by
  simp only [secondTrace, Trace.observed, List.filterMap_filterMap]
  apply List.filterMap_congr
  intro event _
  cases seen : Program.secondExchange? first event.exchange with
  | none => rfl
  | some exchange => rfl

namespace Program

/-- A program behind a gate, whose value is finished. -/
def beyond
    (first : Interface)
    (finish : α → β)
    (program : Program lower α) :
    Program (first.sum lower) β :=
  program.onSecond first >>= fun value => .done (finish value)

@[simp] theorem beyond_done (finish : α → β) (value : α) :
    (.done value : Program lower α).beyond first finish =
      .done (finish value) :=
  rfl

@[simp] theorem beyond_perform
    (finish : α → β)
    (operation : lower.Operation)
    (next : lower.Answer operation → Program lower α) :
    (Program.perform operation next).beyond first finish =
      .perform (.inr operation) fun answer =>
        (next answer).beyond first finish :=
  rfl

variable (serve : ρ → Program lower α) (finish : α → β)
  (admits : History (first.sum lower) → ρ → Prop)

/--
A program that asks the first interface and then ends, or goes on as a program
that its answers admit.
-/
def Gated : History (first.sum lower) → Program (first.sum lower) β → Prop
  | _, .done _ => True
  | history, .perform (.inl operation) next =>
      ∀ answer,
        (∃ request,
          admits (history ++ [⟨.inl operation, answer⟩]) request ∧
            next answer = (serve request).beyond first finish) ∨
          Gated (history ++ [⟨.inl operation, answer⟩]) (next answer)
  | _, .perform (.inr _) _ => False

/--
How far a program behind a gate is: it has not been admitted, or it is what is
left of the admitted program.
-/
inductive Stage (history : History (first.sum lower)) :
    ρ → Program (first.sum lower) β → Program lower α → Prop where
  | outside
      {request : ρ}
      {program : Program (first.sum lower) β} :
      Gated serve finish admits history program →
      history.filterMap (secondExchange? first) = [] →
      Stage history request program (serve request)
  | admitted
      {request : ρ}
      {asked own : History (first.sum lower)}
      {rest : Program lower α} :
      history = asked ++ own →
      asked.filterMap (secondExchange? first) = [] →
      admits asked request →
      Stage history request (rest.beyond first finish) rest

section Stage

variable {serve finish admits}
  {history : History (first.sum lower)}
  {request : ρ}
  {remaining : Program lower α}

/-- A process that asks the first interface has not been admitted. -/
theorem Stage.of_asking
    {operation : first.Operation}
    {next : first.Answer operation → Program (first.sum lower) β}
    (stage :
      Stage serve finish admits history request
        (.perform (.inl operation) next) remaining) :
    Gated serve finish admits history (.perform (.inl operation) next) ∧
      history.filterMap (secondExchange? first) = [] ∧
      remaining = serve request := by
  generalize shape :
    (Program.perform (.inl operation) next : Program (first.sum lower) β) =
      program at stage
  cases stage with
  | outside gated quiet =>
      subst shape
      exact ⟨gated, quiet, rfl⟩
  | admitted split quiet admission =>
      cases remaining with
      | done value => cases shape
      | perform operation next => cases shape

/-- A process that calls the second interface was admitted. -/
theorem Stage.of_calling
    {operation : lower.Operation}
    {next : lower.Answer operation → Program (first.sum lower) β}
    (stage :
      Stage serve finish admits history request
        (.perform (.inr operation) next) remaining) :
    ∃ (asked own : History (first.sum lower))
        (later : lower.Answer operation → Program lower α),
      history = asked ++ own ∧
        asked.filterMap (secondExchange? first) = [] ∧
        admits asked request ∧
        remaining = .perform operation later ∧
        next = fun answer => (later answer).beyond first finish := by
  generalize shape :
    (Program.perform (.inr operation) next : Program (first.sum lower) β) =
      program at stage
  cases stage with
  | outside gated quiet =>
      subst shape
      exact gated.elim
  | @admitted asked own _ split quiet admission =>
      cases remaining with
      | done value => cases shape
      | perform called later =>
          cases shape
          exact ⟨asked, own, later, split, quiet, admission, rfl, rfl⟩

/-- A process that has called the second interface was admitted before. -/
theorem Stage.of_called
    {program : Program (first.sum lower) β}
    (stage : Stage serve finish admits history request program remaining)
    (called : history.filterMap (secondExchange? first) ≠ []) :
    ∃ asked own, history = asked ++ own ∧ admits asked request := by
  cases stage with
  | outside gated quiet => exact absurd quiet called
  | @admitted asked own _ split quiet admission =>
      exact ⟨asked, own, split, admission⟩

/--
A process that has ended was not admitted, or the admitted program has ended
with the value that it finished.
-/
theorem Stage.of_outcome
    {program : Program (first.sum lower) β}
    {value : β}
    (stage : Stage serve finish admits history request program remaining)
    (ended : program.outcome? = some value) :
    history.filterMap (secondExchange? first) = [] ∨
      ∃ asked answer,
        admits asked request ∧ remaining = .done answer ∧
          value = finish answer := by
  cases stage with
  | outside gated quiet => exact .inl quiet
  | @admitted asked own _ split quiet admission =>
      cases remaining with
      | done answer =>
          cases ended
          exact .inr ⟨asked, answer, admission, rfl, rfl⟩
      | perform operation next => cases ended

/-- What is left of an admitted program is admitted after more exchanges. -/
theorem Stage.of_admitted
    {asked own : History (first.sum lower)}
    (quiet : asked.filterMap (secondExchange? first) = [])
    (admission : admits asked request)
    (rest : Program lower α) :
    Stage serve finish admits (asked ++ own) request
      (rest.beyond first finish) rest :=
  .admitted rfl quiet admission

end Stage

end Program

section Refinement

variable {State Choice State' Choice' : Type}
  {execute :
    Choice → State → (operation : (first.sum lower).Operation) →
      (first.sum lower).Answer operation × State}
  {execute' :
    Choice' → State' → (operation : lower.Operation) →
      lower.Answer operation × State'}
  {project : State → State'}
  {choose : Choice → Choice'}
  {serve : ρ → Program lower α}
  {finish : Nat → α → β}
  {admits : Nat → History (first.sum lower) → ρ → Prop}
  {allowed :
    Configuration (first.sum lower) State β → Nat → Choice → Prop}

/-- A run of gated programs beside a run of the programs that were admitted. -/
structure Follows
    (execute' :
      Choice' → State' → (operation : lower.Operation) →
        lower.Answer operation × State')
    (project : State → State')
    (serve : ρ → Program lower α)
    (finish : Nat → α → β)
    (admits : Nat → History (first.sum lower) → ρ → Prop)
    (start : State')
    (gated : Configuration (first.sum lower) State β)
    (requests : Nat → ρ)
    (served : Configuration lower State' α) :
    Prop where
  reaches :
    Configuration.Reaches execute' Configuration.anyStep
      (.initial start fun process => serve (requests process)) served
  state : served.state = project gated.state
  trace : served.trace = secondTrace first gated.trace
  stage :
    ∀ process,
      Program.Stage serve (finish process) (admits process)
        (gated.trace.ofProcess process) (requests process)
        (gated.pool process) (served.pool process)

/-- A process that has not been admitted may be any request. -/
theorem Follows.readmitted
    {start : State'}
    {configuration : Configuration (first.sum lower) State β}
    {requests : Nat → ρ}
    {served : Configuration lower State' α}
    (follows :
      Follows execute' project serve finish admits start configuration requests
        served)
    {process : Nat}
    (quiet :
      (configuration.trace.ofProcess process).filterMap
        (Program.secondExchange? first) = [])
    (request : ρ) :
    Configuration.Reaches execute' Configuration.anyStep
      (.initial start fun other =>
        serve (Function.update requests process request other))
      (served.replace process (serve request)) := by
  have idle : served.trace.ofProcess process = [] := by
    rw [follows.trace, ofProcess_secondTrace, quiet]
  have replaced := follows.reaches.replace idle (serve request)
  have pools :
      (Configuration.initial start fun other =>
          serve (requests other)).replace process (serve request) =
        .initial start fun other =>
          serve (Function.update requests process request other) := by
    simp only [Configuration.replace, Configuration.initial]
    congr 1
    funext other
    by_cases same : other = process
    · subst other
      simp
    · simp [same]
  rw [pools] at replaced
  exact replaced

/-- A process asks the first interface. -/
theorem Follows.asked
    {start : State'}
    {configuration : Configuration (first.sum lower) State β}
    {requests : Nat → ρ}
    {served : Configuration lower State' α}
    (follows :
      Follows execute' project serve finish admits start configuration requests
        served)
    {process : Nat}
    {operation : first.Operation}
    {answer : first.Answer operation}
    {next : first.Answer operation → Program (first.sum lower) β}
    {state : State}
    (frame : project state = project configuration.state)
    (quiet :
      (configuration.trace.ofProcess process).filterMap
        (Program.secondExchange? first) = [])
    (request : ρ)
    (stage :
      Program.Stage serve (finish process) (admits process)
        (configuration.trace.ofProcess process ++ [⟨.inl operation, answer⟩])
        request (next answer) (serve request)) :
    Follows execute' project serve finish admits start
      (configuration.answered process ⟨.inl operation, answer⟩ next state)
      (Function.update requests process request)
      (served.replace process (serve request)) where
  reaches := follows.readmitted quiet request
  state := follows.state.trans frame.symm
  trace := by
    simp [Configuration.replace, Configuration.answered, secondTrace,
      Program.secondExchange?, follows.trace]
  stage := by
    intro other
    by_cases same : other = process
    · subst other
      simpa [Configuration.replace, Configuration.answered,
        Trace.ofProcess_append_same] using stage
    · have different : process ≠ other := Ne.symm same
      simpa [Configuration.replace, Configuration.answered, same,
        Trace.ofProcess_append_other _ _ different] using follows.stage other

/-- A process calls the second interface. -/
theorem Follows.called
    {start : State'}
    {configuration : Configuration (first.sum lower) State β}
    {requests : Nat → ρ}
    {served : Configuration lower State' α}
    (follows :
      Follows execute' project serve finish admits start configuration requests
        served)
    {process : Nat}
    {operation : lower.Operation}
    {next : lower.Answer operation → Program (first.sum lower) β}
    (shape : configuration.pool process = .perform (.inr operation) next)
    {choice : Choice}
    (carries :
      execute' (choose choice) (project configuration.state) operation =
        ((execute choice configuration.state (.inr operation)).1,
          project (execute choice configuration.state (.inr operation)).2)) :
    Follows execute' project serve finish admits start
      (configuration.answered process
        ⟨.inr operation, (execute choice configuration.state (.inr operation)).1⟩
        next (execute choice configuration.state (.inr operation)).2)
      requests (served.advance execute' process (choose choice)) := by
  have stage := follows.stage process
  rw [shape] at stage
  obtain ⟨asked, own, later, split, quiet, admission, isServed, rfl⟩ :=
    stage.of_calling
  have moves :
      served.advance execute' process (choose choice) = _ :=
    Configuration.advance_of_perform isServed (choose choice)
  rw [follows.state, carries] at moves
  refine
    { reaches := follows.reaches.step process (choose choice) trivial
      state := by rw [moves]; rfl
      trace := ?_
      stage := ?_ }
  · rw [moves]
    simp [Configuration.answered, secondTrace, Program.secondExchange?,
      follows.trace]
  · intro other
    rw [moves]
    by_cases same : other = process
    · subst other
      have stays :
          Program.Stage serve (finish process) (admits process)
            (asked ++ (own ++
              [⟨.inr operation,
                (execute choice configuration.state (.inr operation)).1⟩]))
            (requests process) _ _ :=
        .of_admitted quiet admission
          (later (execute choice configuration.state (.inr operation)).1)
      rw [← List.append_assoc, ← split] at stays
      simpa [Configuration.answered, Trace.ofProcess_append_same] using stays
    · have different : process ≠ other := Ne.symm same
      simpa [Configuration.answered, same,
        Trace.ofProcess_append_other _ _ different] using follows.stage other

/--
Every run of gated programs, seen at the second interface, is a run of programs
that were admitted.
-/
theorem Configuration.Reaches.gated
    {state : State}
    {pool : Nat → Program (first.sum lower) β}
    {final : Configuration (first.sum lower) State β}
    (frames :
      ∀ choice state operation,
        project (execute choice state (.inl operation)).2 = project state)
    (carries :
      ∀ choice state operation,
        execute' (choose choice) (project state) operation =
          ((execute choice state (.inr operation)).1,
            project (execute choice state (.inr operation)).2))
    (gates :
      ∀ process,
        Program.Gated serve (finish process) (admits process) []
          (pool process))
    (default : ρ)
    (reaches :
      Configuration.Reaches execute allowed (.initial state pool) final) :
    ∃ requests served,
      Follows execute' project serve finish admits (project state) final
        requests served := by
  refine reaches.invariant
    (fun configuration =>
      ∃ requests served,
        Follows execute' project serve finish admits (project state)
          configuration requests served)
    ⟨fun _ => default, .initial (project state) fun _ => serve default,
      { reaches := .refl
        state := rfl
        trace := rfl
        stage := fun process => .outside (gates process) rfl }⟩ ?_
  rintro configuration process operation next choice -
    ⟨requests, served, follows⟩ shape -
  cases operation with
  | inr operation =>
      exact ⟨requests, _, follows.called shape (carries _ _ _)⟩
  | inl operation =>
      have stage := follows.stage process
      rw [shape] at stage
      obtain ⟨gated, quiet, isServed⟩ := stage.of_asking
      have frame := frames choice configuration.state operation
      rcases gated (execute choice configuration.state (.inl operation)).1 with
        ⟨request, admission, goesOn⟩ | stillGated
      · refine ⟨_, _, follows.asked frame quiet request ?_⟩
        rw [goesOn]
        exact .admitted (List.append_nil _).symm
          (by simp [quiet, Program.secondExchange?]) admission
      · exact ⟨_, _, follows.asked frame quiet (requests process)
          (.outside stillGated (by simp [quiet, Program.secondExchange?]))⟩

end Refinement

end Passwd.Interaction
