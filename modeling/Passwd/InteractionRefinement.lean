import Passwd.InteractionPool
import Mathlib.Data.List.Induction

namespace Passwd.Interaction

/-!
# Runs seen as sequential histories

Some exchanges of a run are events of an abstract object, the others are not
observed.  When every exchange either is not observed and leaves the abstract
object alone, or is an event that the abstract object can take, the observed
events of a run form a sequential history of the abstract object, in the order
in which they happened and whatever the interleaving was.
-/

variable {Abstract Event : Type}

/-- The abstract object takes an event, or stays as it is without one. -/
def Takes
    (step : Abstract → Event → Abstract → Prop)
    (before : Abstract) :
    Option Event → Abstract → Prop
  | none, after => after = before
  | some event, after => step before event after

/-- The events lead the abstract object from `first` to the last object. -/
inductive Plays
    (step : Abstract → Event → Abstract → Prop)
    (first : Abstract) :
    List Event → Abstract → Prop where
  | start : Plays step first [] first
  | event
      {events : List Event}
      {middle last : Abstract}
      (event : Event) :
      Plays step first events middle →
      step middle event last →
      Plays step first (events ++ [event]) last

namespace Plays

variable {step : Abstract → Event → Abstract → Prop}
  {first middle last : Abstract} {events later : List Event}

/-- One event is a history. -/
theorem single
    {event : Event}
    (stepped : step first event last) :
    Plays step first [event] last :=
  .event event .start stepped

/-- Histories compose. -/
theorem trans
    (plays : Plays step first events middle)
    (rest : Plays step middle later last) :
    Plays step first (events ++ later) last := by
  induction rest with
  | start =>
      rw [List.append_nil]
      exact plays
  | event event _ stepped inductionHypothesis =>
      rw [← List.append_assoc]
      exact .event event inductionHypothesis stepped

/-- A history without events leads nowhere. -/
theorem eq_of_nil (plays : Plays step first [] last) : last = first := by
  generalize none : ([] : List Event) = history at plays
  cases plays with
  | start =>
      rfl
  | event event _ _ =>
      exact absurd none.symm (List.append_ne_nil_of_right_ne_nil _ (by simp))

/-- The last event of a history is a step. -/
theorem of_concat
    {event : Event}
    (plays : Plays step first (events ++ [event]) last) :
    ∃ middle, Plays step first events middle ∧ step middle event last := by
  generalize isHistory : events ++ [event] = history at plays
  cases plays with
  | start =>
      exact absurd isHistory (List.append_ne_nil_of_right_ne_nil _ (by simp))
  | @event earlier middle _ newest played stepped =>
      obtain ⟨same, isNewest⟩ := List.append_inj' isHistory rfl
      cases isNewest
      subst same
      exact ⟨middle, played, stepped⟩

/-- A history can be cut anywhere. -/
theorem split
    (plays : Plays step first (events ++ later) last) :
    ∃ middle,
      Plays step first events middle ∧ Plays step middle later last := by
  induction later using List.reverseRecOn generalizing last with
  | nil =>
      rw [List.append_nil] at plays
      exact ⟨last, plays, .start⟩
  | append_singleton later event inductionHypothesis =>
      rw [← List.append_assoc] at plays
      obtain ⟨before, played, stepped⟩ := plays.of_concat
      obtain ⟨middle, earlier, rest⟩ := inductionHypothesis played
      exact ⟨middle, earlier, .event event rest stepped⟩

/-- What every event of a history keeps, the history keeps. -/
theorem invariant
    (plays : Plays step first events last)
    (property : Abstract → Prop)
    (start : property first)
    (preserve :
      ∀ before event after, event ∈ events → property before →
        step before event after → property after) :
    property last := by
  induction plays with
  | start =>
      exact start
  | @event earlier middle after event _ stepped inductionHypothesis =>
      refine preserve middle event after (by simp)
        (inductionHypothesis ?_) stepped
      intro before other later member
      exact preserve before other later (List.mem_append_left _ member)

end Plays

/-!
## The observed events of a run
-/

section Observed

variable {interface : Interface} {State Choice α : Type}
  (observe : Exchange interface → Option Event)

/-- The observed events of a trace, each with the process that made it. -/
def Trace.observed (trace : Trace interface) : List (Nat × Event) :=
  trace.filterMap fun event =>
    (observe event.exchange).map fun seen => (event.process, seen)

/-- The events of one process. -/
def eventsOf (process : Nat) (events : List (Nat × Event)) : List Event :=
  events.filterMap fun event =>
    if event.1 = process then some event.2 else none

/-- What is observed of one process is observed of its own history. -/
theorem Trace.eventsOf_observed
    (trace : Trace interface)
    (process : Nat) :
    eventsOf process (trace.observed observe) =
      (trace.ofProcess process).filterMap observe := by
  simp only [eventsOf, Trace.observed, Trace.ofProcess,
    List.filterMap_filterMap]
  congr 1
  funext event
  by_cases same : event.process = process
  · cases seen : observe event.exchange <;> simp [same, seen]
  · cases seen : observe event.exchange <;> simp [same]

/-- Traces are observed piece by piece. -/
theorem Trace.observed_append (trace later : Trace interface) :
    Trace.observed observe (trace ++ later) =
      trace.observed observe ++ Trace.observed observe later :=
  List.filterMap_append

/-- The events of one process, piece by piece. -/
theorem eventsOf_append
    (process : Nat)
    (events later : List (Nat × Event)) :
    eventsOf process (events ++ later) =
      eventsOf process events ++ eventsOf process later :=
  List.filterMap_append

/-- The events of one process are its events among those of all. -/
theorem mem_eventsOf
    {process : Nat}
    {events : List (Nat × Event)}
    {event : Event} :
    event ∈ eventsOf process events ↔ (process, event) ∈ events := by
  simp only [eventsOf, List.mem_filterMap]
  constructor
  · rintro ⟨tagged, inEvents, selected⟩
    split at selected
    · rename_i same
      cases selected
      cases same
      exact inEvents
    · cases selected
  · intro member
    exact ⟨_, member, by simp⟩

/-- The only event of one process stands somewhere in the events of all. -/
theorem exists_split_of_eventsOf
    {process : Nat}
    {event : Event}
    {events : List (Nat × Event)}
    (own : eventsOf process events = [event]) :
    ∃ earlier rest, events = earlier ++ (process, event) :: rest := by
  apply List.append_of_mem
  rw [← mem_eventsOf, own]
  exact List.mem_singleton_self event

variable {observe}
  {execute :
    Choice → State → (operation : interface.Operation) →
      interface.Answer operation × State}
  {allowed : Configuration interface State α → Nat → Choice → Prop}
  {initial final : Configuration interface State α}

/-- Later configurations of a run have seen more. -/
theorem Configuration.Reaches.exists_trace
    (reaches : Configuration.Reaches execute allowed initial final) :
    ∃ later, final.trace = initial.trace ++ later := by
  refine reaches.invariant
    (fun configuration =>
      ∃ later, configuration.trace = initial.trace ++ later)
    ⟨[], (List.append_nil _).symm⟩ ?_
  rintro configuration process operation next choice _ ⟨later, same⟩ _ _
  refine
    ⟨later ++ [⟨process, ⟨operation,
      (execute choice configuration.state operation).1⟩⟩], ?_⟩
  rw [← List.append_assoc, ← same]
  rfl

/-- A finished process makes no more exchanges. -/
theorem Configuration.Reaches.done_stays
    {process : Nat}
    {value : α}
    (reaches : Configuration.Reaches execute allowed initial final)
    (finished : initial.pool process = .done value) :
    final.pool process = .done value ∧
      final.trace.ofProcess process = initial.trace.ofProcess process := by
  refine reaches.invariant
    (fun configuration =>
      configuration.pool process = .done value ∧
        configuration.trace.ofProcess process =
          initial.trace.ofProcess process)
    ⟨finished, rfl⟩ ?_
  rintro configuration moved operation next choice _ ⟨isDone, same⟩ shape _
  have different : moved ≠ process := by
    rintro rfl
    rw [isDone] at shape
    cases shape
  refine ⟨?_, ?_⟩
  · simpa [Configuration.answered, Function.update_of_ne (Ne.symm different)]
      using isDone
  · rw [← same]
    exact Trace.ofProcess_append_other _ _ different

/--
The simulation rule: the observed events of a run are a sequential history of
the abstract object.
-/
theorem Configuration.Reaches.plays
    {pool : Nat → Program interface α}
    {state : State}
    (reaches :
      Configuration.Reaches execute allowed (.initial state pool) final)
    (abstraction : State → Abstract)
    (step : Abstract → Event → Abstract → Prop)
    (simulates :
      ∀ choice state operation,
        Takes step (abstraction state)
          (observe ⟨operation, (execute choice state operation).1⟩)
          (abstraction (execute choice state operation).2)) :
    Plays (fun before event after => step before event.2 after)
      (abstraction state) (final.trace.observed observe)
      (abstraction final.state) := by
  refine reaches.invariant
    (fun configuration =>
      Plays (fun before event after => step before event.2 after)
        (abstraction state) (configuration.trace.observed observe)
        (abstraction configuration.state))
    .start ?_
  intro configuration process operation next choice _ plays _ _
  have simulated := simulates choice configuration.state operation
  have extended :
      ((configuration.trace ++
          [⟨process, ⟨operation,
            (execute choice configuration.state operation).1⟩⟩] :
          Trace interface)).observed observe =
        configuration.trace.observed observe ++
          ((observe ⟨operation,
            (execute choice configuration.state operation).1⟩).map
              fun seen => (process, seen)).toList := by
    simp only [Trace.observed, List.filterMap_append, List.filterMap_cons,
      List.filterMap_nil]
    cases observe ⟨operation,
      (execute choice configuration.state operation).1⟩ <;> rfl
  simp only [Configuration.answered, extended]
  cases seen : observe ⟨operation,
      (execute choice configuration.state operation).1⟩ with
  | none =>
      rw [seen] at simulated
      have same :
          abstraction (execute choice configuration.state operation).2 =
            abstraction configuration.state :=
        simulated
      rw [same]
      simpa using plays
  | some event =>
      rw [seen] at simulated
      exact .event (process, event) plays simulated

/-!
## Programs that are observed at most once
-/

/--
A program makes at most one observed exchange, and what was observed fits the
value that it returns.
-/
def Program.ObservedOnce
    (observe : Exchange interface → Option Event)
    (result : List Event → α → Prop)
    (history : History interface)
    (program : Program interface α) :
    Prop :=
  program.Obeys (fun earlier _ => (earlier.filterMap observe).length ≤ 1)
    (fun whole value => result (whole.filterMap observe) value) history

/-- Exchanges that are not observed add nothing, whatever is still to come. -/
theorem Program.Only.unobserved_after
    {selected : interface.Operation → Prop}
    {result : History interface → α → Prop}
    {program : Program interface α}
    {history : History interface}
    (only : program.Only selected)
    (unseen :
      ∀ operation answer, selected operation →
        observe ⟨operation, answer⟩ = none)
    (short : (history.filterMap observe).length ≤ 1)
    (afterwards :
      ∀ later value, later.filterMap observe = [] →
        result (history ++ later) value) :
    program.Obeys (fun earlier _ => (earlier.filterMap observe).length ≤ 1)
      result history := by
  induction program generalizing history with
  | done value =>
      have ends := afterwards [] value rfl
      rw [List.append_nil] at ends
      exact ends
  | perform operation next inductionHypothesis =>
      have nothing (answer : interface.Answer operation) :
          List.filterMap observe [⟨operation, answer⟩] = [] := by
        simp [unseen operation answer only.1]
      refine ⟨short, fun answer => ?_⟩
      apply inductionHypothesis answer (only.2 answer)
      · rw [List.filterMap_append, nothing, List.append_nil]
        exact short
      · intro later value none
        rw [List.append_assoc]
        apply afterwards
        rw [List.filterMap_append, nothing, none]
        rfl

/-- A program without observed exchanges makes no event. -/
theorem Program.Only.unobserved
    {selected : interface.Operation → Prop}
    {events : List Event}
    {result : List Event → α → Prop}
    {program : Program interface α}
    {history : History interface}
    (only : program.Only selected)
    (unseen :
      ∀ operation answer, selected operation →
        observe ⟨operation, answer⟩ = none)
    (seen : history.filterMap observe = events)
    (short : events.length ≤ 1)
    (afterwards : ∀ value, result events value) :
    program.ObservedOnce observe result history := by
  refine only.unobserved_after unseen (by rw [seen]; exact short) ?_
  intro later value none
  rw [List.filterMap_append, seen, none, List.append_nil]
  exact afterwards value

/-- What remains of a program has been observed at most once. -/
theorem Program.ObservedOnce.length_le
    {result : List Event → α → Prop}
    {program : Program interface α}
    {history : History interface}
    (once : program.ObservedOnce observe result history)
    (short :
      ∀ value, program.outcome? = some value →
        result (history.filterMap observe) value →
          (history.filterMap observe).length ≤ 1) :
    (history.filterMap observe).length ≤ 1 := by
  cases program with
  | done value =>
      exact short value rfl once
  | perform operation next =>
      exact once.1

end Observed

end Passwd.Interaction
