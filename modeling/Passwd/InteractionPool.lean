import Passwd.InteractionProgram
import Mathlib.Logic.Function.Basic

namespace Passwd.Interaction

/-!
# Interleaved runs of a pool of programs

A configuration holds one shared state, the remainder of every program of the
pool and the events so far.  One step lets one program perform its next
operation, so a run is any interleaving of the programs at the granularity of
their operations.

The projection of the events to one program is a history of that program.
Facts about a single program therefore come from `Program.Obeys`, and facts
about the shared state from an induction over the run.
-/

/-- One exchange together with the program of the pool that made it. -/
structure Event (interface : Interface) where
  process : Nat
  exchange : Exchange interface

/-- The events of a run, oldest first. -/
abbrev Trace (interface : Interface) := List (Event interface)

/-- The exchanges of one process, in their order in the trace. -/
def Trace.ofProcess
    {interface : Interface}
    (trace : Trace interface)
    (process : Nat) : History interface :=
  trace.filterMap fun event =>
    if event.process = process then some event.exchange else none

section Trace

variable {interface : Interface}

@[simp] theorem Trace.ofProcess_nil (process : Nat) :
    Trace.ofProcess ([] : Trace interface) process = [] :=
  rfl

/-- The newest event extends the history of its own process. -/
theorem Trace.ofProcess_append_same
    (trace : Trace interface)
    (process : Nat)
    (exchange : Exchange interface) :
    Trace.ofProcess (trace ++ [⟨process, exchange⟩]) process =
      Trace.ofProcess trace process ++ [exchange] := by
  simp [Trace.ofProcess]

/-- The newest event leaves the history of every other process alone. -/
theorem Trace.ofProcess_append_other
    (trace : Trace interface)
    {process other : Nat}
    (exchange : Exchange interface)
    (different : process ≠ other) :
    Trace.ofProcess (trace ++ [⟨process, exchange⟩]) other =
      Trace.ofProcess trace other := by
  simp [Trace.ofProcess, different]

/-- Membership in a projected history is membership in the trace. -/
theorem Trace.mem_ofProcess
    {trace : Trace interface}
    {process : Nat}
    {exchange : Exchange interface} :
    exchange ∈ Trace.ofProcess trace process ↔
      ⟨process, exchange⟩ ∈ trace := by
  constructor
  · intro member
    obtain ⟨event, inTrace, selected⟩ := List.mem_filterMap.mp member
    split at selected
    · rename_i sameProcess
      cases selected
      cases sameProcess
      exact inTrace
    · cases selected
  · intro member
    exact List.mem_filterMap.mpr ⟨_, member, by simp⟩

/-- An event of an extended trace is an earlier one or the newest one. -/
theorem Trace.getElem?_concat
    {events : Trace interface}
    {newest event : Event interface}
    {index : Nat}
    (found : (events ++ [newest])[index]? = some event) :
    (events[index]? = some event ∧
        (events ++ [newest]).take index = events.take index) ∨
      (event = newest ∧ (events ++ [newest]).take index = events) := by
  rcases Nat.lt_trichotomy index events.length with earlier | last | beyond
  · left
    rw [List.getElem?_append_left earlier] at found
    exact ⟨found, List.take_append_of_le_length (Nat.le_of_lt earlier)⟩
  · right
    subst last
    rw [List.getElem?_concat_length] at found
    cases found
    exact ⟨rfl, List.take_left⟩
  · rw [List.getElem?_eq_none (by simpa using Nat.succ_le_of_lt beyond)] at found
    cases found

end Trace

/-- The shared state, the remaining programs and the events so far. -/
structure Configuration (interface : Interface) (State α : Type) where
  state : State
  pool : Nat → Program interface α
  trace : Trace interface

variable {interface : Interface} {State Choice α : Type}

namespace Configuration

/-- No program of the pool has taken a step yet. -/
def initial
    (state : State)
    (pool : Nat → Program interface α) :
    Configuration interface State α where
  state := state
  pool := pool
  trace := []

/-- The configuration after `process` received `answer` in `state`. -/
def answered
    (configuration : Configuration interface State α)
    (process : Nat)
    (exchange : Exchange interface)
    (next : interface.Answer exchange.operation → Program interface α)
    (state : State) :
    Configuration interface State α where
  state := state
  pool :=
    Function.update configuration.pool process (next exchange.answer)
  trace := configuration.trace ++ [⟨process, exchange⟩]

variable
  (execute :
    Choice → State → (operation : interface.Operation) →
      interface.Answer operation × State)

/-- Let one process perform its next operation; a finished one stays put. -/
def advance
    (configuration : Configuration interface State α)
    (process : Nat)
    (choice : Choice) :
    Configuration interface State α :=
  match configuration.pool process with
  | .done _ => configuration
  | .perform operation next =>
      let outcome := execute choice configuration.state operation
      configuration.answered process ⟨operation, outcome.1⟩ next outcome.2

/-- Follow a schedule of processes and choices. -/
def follow
    (configuration : Configuration interface State α) :
    List (Nat × Choice) → Configuration interface State α
  | [] => configuration
  | (process, choice) :: rest =>
      (configuration.advance execute process choice).follow rest

/--
`final` is reached from `initial` by steps that all meet `allowed`, a condition
on the configuration before the step, the process that moves and its choice.
-/
inductive Reaches
    (allowed : Configuration interface State α → Nat → Choice → Prop)
    (initial : Configuration interface State α) :
    Configuration interface State α → Prop where
  | refl : Reaches allowed initial initial
  | step
      {configuration : Configuration interface State α}
      (process : Nat)
      (choice : Choice) :
      Reaches allowed initial configuration →
      allowed configuration process choice →
      Reaches allowed initial
        (configuration.advance execute process choice)

/-- The condition that allows every step. -/
def anyStep : Configuration interface State α → Nat → Choice → Prop :=
  fun _ _ _ => True

variable {execute}
  {allowed : Configuration interface State α → Nat → Choice → Prop}
  {initial configuration final : Configuration interface State α}

/-- A step of a process that still has an operation to perform. -/
theorem advance_of_perform
    {process : Nat}
    {operation : interface.Operation}
    {next : interface.Answer operation → Program interface α}
    (shape : configuration.pool process = .perform operation next)
    (choice : Choice) :
    configuration.advance execute process choice =
      configuration.answered process
        ⟨operation, (execute choice configuration.state operation).1⟩ next
        (execute choice configuration.state operation).2 := by
  simp [advance, shape]

/-- A step of a finished process changes nothing. -/
theorem advance_of_done
    {process : Nat}
    {value : α}
    (shape : configuration.pool process = .done value)
    (choice : Choice) :
    configuration.advance execute process choice = configuration := by
  simp [advance, shape]

namespace Reaches

/-- Runs compose. -/
theorem trans
    (first : Reaches execute allowed initial configuration)
    (later : Reaches execute allowed configuration final) :
    Reaches execute allowed initial final := by
  induction later with
  | refl =>
      exact first
  | step process choice _ permitted inductionHypothesis =>
      exact inductionHypothesis.step process choice permitted

/-- A run under a condition is a run under every weaker condition. -/
theorem mono
    {weaker : Configuration interface State α → Nat → Choice → Prop}
    (reaches : Reaches execute allowed initial final)
    (weakens :
      ∀ configuration process choice,
        allowed configuration process choice →
          weaker configuration process choice) :
    Reaches execute weaker initial final := by
  induction reaches with
  | refl =>
      exact .refl
  | step process choice _ permitted inductionHypothesis =>
      exact inductionHypothesis.step process choice
        (weakens _ process choice permitted)

/-- Following a schedule is a run when every step is allowed. -/
theorem of_follow
    (schedule : List (Nat × Choice))
    (configuration : Configuration interface State α) :
    Reaches execute anyStep configuration
      (configuration.follow execute schedule) := by
  induction schedule generalizing configuration with
  | nil =>
      exact .refl
  | cons move rest inductionHypothesis =>
      exact
        (Reaches.step move.1 move.2 .refl trivial).trans
          (inductionHypothesis (configuration.advance execute move.1 move.2))

/-- Following a schedule whose steps are all allowed is a run. -/
theorem of_follow_allowed
    (schedule : List (Nat × Choice))
    (configuration : Configuration interface State α)
    (permitted :
      ∀ index, (inRange : index < schedule.length) →
        allowed (configuration.follow execute (schedule.take index))
          schedule[index].1 schedule[index].2) :
    Reaches execute allowed configuration
      (configuration.follow execute schedule) := by
  induction schedule generalizing configuration with
  | nil =>
      exact .refl
  | cons move rest inductionHypothesis =>
      have start := permitted 0 (Nat.zero_lt_succ _)
      refine
        (Reaches.step move.1 move.2 .refl start).trans
          (inductionHypothesis (configuration.advance execute move.1 move.2) ?_)
      intro index inRange
      exact permitted (index + 1) (Nat.succ_lt_succ inRange)

/--
The invariant rule: a property of configurations that holds at the start and
that every performed operation preserves holds in every reached configuration.
-/
theorem invariant
    (reaches : Reaches execute allowed initial final)
    (property : Configuration interface State α → Prop)
    (start : property initial)
    (preserve :
      ∀ configuration process operation
        (next : interface.Answer operation → Program interface α) choice,
        Reaches execute allowed initial configuration →
        property configuration →
        configuration.pool process = .perform operation next →
        allowed configuration process choice →
        property
          (configuration.answered process
            ⟨operation, (execute choice configuration.state operation).1⟩
            next (execute choice configuration.state operation).2)) :
    property final := by
  induction reaches with
  | refl =>
      exact start
  | @step configuration process choice reached permitted
      inductionHypothesis =>
      cases shape : configuration.pool process with
      | done value =>
          rw [advance_of_done shape]
          exact inductionHypothesis
      | perform operation next =>
          rw [advance_of_perform shape]
          exact preserve configuration process operation next choice
            reached inductionHypothesis shape permitted

/-- The events of one process are a history of its program. -/
theorem path
    {pool : Nat → Program interface α}
    {state : State}
    (reaches :
      Reaches execute allowed (.initial state pool) final)
    (process : Nat) :
    Program.Path (pool process)
      (final.trace.ofProcess process) (final.pool process) := by
  refine reaches.invariant
    (fun configuration =>
      Program.Path (pool process)
        (configuration.trace.ofProcess process)
        (configuration.pool process))
    .start ?_
  intro configuration moved operation next choice _ history shape _
  by_cases sameProcess : moved = process
  · subst moved
    rw [shape] at history
    simpa [answered, Trace.ofProcess_append_same] using
      history.exchange (execute choice configuration.state operation).1
  · have unchanged : process ≠ moved := Ne.symm sameProcess
    simpa [answered, Trace.ofProcess_append_other _ _ sameProcess,
      Function.update_of_ne unchanged] using history

/-- Every process of a run keeps the assertions its program obeys. -/
theorem obeys
    {pool : Nat → Program interface α}
    {state : State}
    (reaches :
      Reaches execute allowed (.initial state pool) final)
    {process : Nat}
    {request : History interface → interface.Operation → Prop}
    {result : History interface → α → Prop}
    (program : (pool process).Obeys request result []) :
    (final.pool process).Obeys request result
      (final.trace.ofProcess process) :=
  (reaches.path process).obeys program

/-- The assertion about the operation a process is about to perform. -/
theorem request_of_perform
    {pool : Nat → Program interface α}
    {state : State}
    (reaches :
      Reaches execute allowed (.initial state pool) final)
    {process : Nat}
    {request : History interface → interface.Operation → Prop}
    {result : History interface → α → Prop}
    (program : (pool process).Obeys request result [])
    {operation : interface.Operation}
    {next : interface.Answer operation → Program interface α}
    (shape : final.pool process = .perform operation next) :
    request (final.trace.ofProcess process) operation := by
  have remainder := reaches.obeys program
  rw [shape] at remainder
  exact remainder.1

/-- The assertion about the value a finished process returned. -/
theorem result_of_done
    {pool : Nat → Program interface α}
    {state : State}
    (reaches :
      Reaches execute allowed (.initial state pool) final)
    {process : Nat}
    {request : History interface → interface.Operation → Prop}
    {result : History interface → α → Prop}
    (program : (pool process).Obeys request result [])
    {value : α}
    (shape : final.pool process = .done value) :
    result (final.trace.ofProcess process) value := by
  have remainder := reaches.obeys program
  rw [shape] at remainder
  exact remainder

/--
The rely-guarantee rule: if every operation that the programs guarantee keeps
a property of the state and is given an answer that they trust, then the
property holds throughout, and what remains of each program still guarantees
what the program did.
-/
theorem guarantees
    (property : State → Prop)
    {trusted :
      (operation : interface.Operation) → interface.Answer operation → Prop}
    {request : interface.Operation → Prop}
    {result : α → Prop}
    (reaches : Reaches execute allowed initial final)
    (start : property initial.state)
    (programs :
      ∀ process,
        (initial.pool process).Guarantees trusted request result)
    (preserve :
      ∀ configuration process operation
        (next : interface.Answer operation → Program interface α) choice,
        property configuration.state →
        request operation →
        configuration.pool process = .perform operation next →
        allowed configuration process choice →
        trusted operation
            (execute choice configuration.state operation).1 ∧
          property (execute choice configuration.state operation).2) :
    property final.state ∧
      ∀ process, (final.pool process).Guarantees trusted request result := by
  refine reaches.invariant
    (fun configuration =>
      property configuration.state ∧
        ∀ process,
          (configuration.pool process).Guarantees trusted request result)
    ⟨start, programs⟩ ?_
  intro configuration moved operation next choice _ holds shape permitted
  have guaranteed := holds.2 moved
  rw [shape] at guaranteed
  obtain ⟨isTrusted, kept⟩ :=
    preserve configuration moved operation next choice holds.1 guaranteed.1
      shape permitted
  refine ⟨kept, ?_⟩
  intro process
  by_cases same : process = moved
  · subst same
    simpa [answered] using guaranteed.2 _ isTrusted
  · simpa [answered, Function.update_of_ne same] using holds.2 process

end Reaches

end Configuration

end Passwd.Interaction
