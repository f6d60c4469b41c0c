import Passwd.InteractionPool

namespace Passwd.Interaction

/-!
# Summaries of histories

A summary is what a history comes to when its exchanges are recorded one after
another.  `Ends` says of a program what its summary and value will be together,
provided that every answer is one that is expected in view of the summary so far.
-/

variable {interface : Interface} {α β State Choice Summary : Type}

namespace Program

variable
  (record : Summary → Exchange interface → Summary)
  (expected :
    Summary → (operation : interface.Operation) →
      interface.Answer operation → Prop)

/-- How a program ends when every answer is expected. -/
def Ends (result : Summary → α → Prop) :
    Summary → Program interface α → Prop
  | summary, .done value => result summary value
  | summary, .perform operation next =>
      ∀ answer, expected summary operation answer →
        Ends result (record summary ⟨operation, answer⟩) (next answer)

variable
  {record : Summary → Exchange interface → Summary}
  {expected :
    Summary → (operation : interface.Operation) →
      interface.Answer operation → Prop}

/-- A sequence ends as its second part does after its first part. -/
theorem ends_bind
    {result : Summary → β → Prop}
    {summary : Summary}
    {program : Program interface α}
    {continuation : α → Program interface β} :
    Ends record expected result summary (program >>= continuation) ↔
      Ends record expected
        (fun later value =>
          Ends record expected result later (continuation value))
        summary program := by
  induction program generalizing summary with
  | done value =>
      rfl
  | perform operation next inductionHypothesis =>
      simp only [perform_bind, Ends, inductionHypothesis]

/-- Operations that are not recorded do not count. -/
theorem Only.ends
    {selected : interface.Operation → Prop}
    {result : Summary → α → Prop}
    {summary : Summary}
    {program : Program interface α}
    (only : Only selected program)
    (unrecorded :
      ∀ operation answer, selected operation →
        record summary ⟨operation, answer⟩ = summary)
    (afterwards : ∀ value, result summary value) :
    Ends record expected result summary program := by
  induction program with
  | done value =>
      exact afterwards value
  | perform operation next inductionHypothesis =>
      intro answer _
      rw [unrecorded operation answer only.1]
      exact inductionHypothesis answer (only.2 answer)

end Program

namespace Configuration.Reaches

variable
  {record : Summary → Exchange interface → Summary}
  {expected :
    Summary → (operation : interface.Operation) →
      interface.Answer operation → Prop}
  {execute :
    Choice → State → (operation : interface.Operation) →
      interface.Answer operation × State}
  {allowed : Configuration interface State α → Nat → Choice → Prop}
  {final : Configuration interface State α}

/--
In a run in which one process is given expected answers, what remains of it ends
as its program does.
-/
theorem ends
    {pool : Nat → Program interface α}
    {state : State}
    {process : Nat}
    {start : Summary}
    {result : Summary → α → Prop}
    (reaches : Reaches execute allowed (.initial state pool) final)
    (program : Program.Ends record expected result start (pool process))
    (answers :
      ∀ configuration operation
        (next : interface.Answer operation → Program interface α) choice,
        Reaches execute allowed (.initial state pool) configuration →
        configuration.pool process = .perform operation next →
        allowed configuration process choice →
        expected ((configuration.trace.ofProcess process).foldl record start)
          operation (execute choice configuration.state operation).1) :
    Program.Ends record expected result
      ((final.trace.ofProcess process).foldl record start)
      (final.pool process) := by
  refine reaches.invariant
    (fun configuration =>
      Program.Ends record expected result
        ((configuration.trace.ofProcess process).foldl record start)
        (configuration.pool process))
    program ?_
  intro configuration moved operation next choice reached ends shape permitted
  by_cases sameProcess : moved = process
  · subst moved
    have answer := answers configuration operation next choice reached shape
      permitted
    rw [shape] at ends
    simpa [answered, Trace.ofProcess_append_same] using ends _ answer
  · have unchanged : process ≠ moved := Ne.symm sameProcess
    simpa [answered, Trace.ofProcess_append_other _ _ sameProcess,
      Function.update_of_ne unchanged] using ends

end Configuration.Reaches

end Passwd.Interaction
