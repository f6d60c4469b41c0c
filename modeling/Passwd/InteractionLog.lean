import Passwd.InteractionProgram

namespace Passwd.Interaction

/-!
# Runs that keep a record of their calls

The record lists every operation that was performed together with a stamp of its
choice, for instance the time.  Recording changes neither the answers nor the
state, so statements about the calls of a run and statements about its outcome
are about the same run.
-/

/-- A state and the operations performed so far, oldest first. -/
structure Recorded (interface : Interface) (State Stamp : Type) where
  state : State
  calls : List (Stamp × interface.Operation)

variable {interface : Interface} {State Choice Stamp α : Type}

namespace Recorded

/-- Perform an operation and record it. -/
def execute
    (stamp : Choice → Stamp)
    (perform :
      Choice → State → (operation : interface.Operation) →
        interface.Answer operation × State)
    (choice : Choice)
    (recorded : Recorded interface State Stamp)
    (operation : interface.Operation) :
    interface.Answer operation × Recorded interface State Stamp :=
  let outcome := perform choice recorded.state operation
  (outcome.1,
    { state := outcome.2
      calls := recorded.calls ++ [(stamp choice, operation)] })

variable {stamp : Choice → Stamp}
  {perform :
    Choice → State → (operation : interface.Operation) →
      interface.Answer operation × State}

/-- A recorded run is the run, with its operations added to the record. -/
theorem run_execute
    (program : Program interface α)
    (choices : Nat → Choice)
    (recorded : Recorded interface State Stamp) :
    (program.run (execute stamp perform) choices recorded).value =
        (program.run perform choices recorded.state).value ∧
      (program.run (execute stamp perform) choices recorded).state.state =
        (program.run perform choices recorded.state).state ∧
      (program.run (execute stamp perform) choices recorded).history =
        (program.run perform choices recorded.state).history ∧
      (program.run (execute stamp perform) choices recorded).state.calls.map
          Prod.snd =
        recorded.calls.map Prod.snd ++
          (program.run perform choices recorded.state).history.map
            Exchange.operation := by
  induction program generalizing choices recorded with
  | done value =>
      exact ⟨rfl, rfl, rfl, (List.append_nil _).symm⟩
  | perform operation next inductionHypothesis =>
      obtain ⟨value, state, history, calls⟩ :=
        inductionHypothesis
          (perform (choices 0) recorded.state operation).1
          (fun index => choices (index + 1))
          (execute stamp perform (choices 0) recorded operation).2
      refine ⟨value, state, congrArg (List.cons _) history, ?_⟩
      refine calls.trans ?_
      simp [execute]

/-- What a run adds to the record does not depend on the record. -/
theorem run_calls
    (program : Program interface α)
    (choices : Nat → Choice)
    (recorded : Recorded interface State Stamp) :
    (program.run (execute stamp perform) choices recorded).state.calls =
      recorded.calls ++
        (program.run (execute stamp perform) choices
          { state := recorded.state, calls := [] }).state.calls := by
  induction program generalizing choices recorded with
  | done value =>
      exact (List.append_nil _).symm
  | perform operation next inductionHypothesis =>
      have first := inductionHypothesis
        (perform (choices 0) recorded.state operation).1
        (fun index => choices (index + 1))
        (execute stamp perform (choices 0) recorded operation).2
      have second := inductionHypothesis
        (perform (choices 0) recorded.state operation).1
        (fun index => choices (index + 1))
        (execute stamp perform (choices 0)
          { state := recorded.state, calls := [] } operation).2
      refine first.trans ?_
      refine Eq.trans ?_ (congrArg (recorded.calls ++ ·) second.symm)
      exact List.append_assoc _ _ _

end Recorded

end Passwd.Interaction
