import Mathlib.Data.List.Basic

namespace Passwd.Interaction

/-!
# Programs over an interface of operations

A program either finishes with a value or performs one operation and continues
with the answer.  The operations are atomic and their meaning is left open, so
one program text serves a run from start to end and a run that is interleaved
with other programs.

Two things are recorded about a program without giving its operations a
meaning: the histories of exchanges it can go through (`Path`), and the
assertions it keeps along every history (`Obeys`).
-/

/-- Operations together with the type of the answer to each of them. -/
structure Interface where
  Operation : Type
  Answer : Operation → Type

/-- A finite program that performs operations of an interface. -/
inductive Program (interface : Interface) (α : Type) : Type where
  | done (value : α)
  | perform
      (operation : interface.Operation)
      (next : interface.Answer operation → Program interface α)

/-- One performed operation together with the answer it received. -/
structure Exchange (interface : Interface) where
  operation : interface.Operation
  answer : interface.Answer operation

/-- Equal exchanges are of one operation. -/
theorem Exchange.operation_eq
    {interface : Interface}
    {operation other : interface.Operation}
    {answer : interface.Answer operation}
    {otherAnswer : interface.Answer other}
    (same :
      (⟨operation, answer⟩ : Exchange interface) = ⟨other, otherAnswer⟩) :
    operation = other :=
  congrArg Exchange.operation same

/-- Equal exchanges of an operation have one answer. -/
theorem Exchange.answer_eq
    {interface : Interface}
    {operation : interface.Operation}
    {answer otherAnswer : interface.Answer operation}
    (same :
      (⟨operation, answer⟩ : Exchange interface) = ⟨operation, otherAnswer⟩) :
    answer = otherAnswer :=
  eq_of_heq (Exchange.mk.inj same).2

/-- The exchanges of one program, oldest first. -/
abbrev History (interface : Interface) := List (Exchange interface)

variable {interface : Interface} {α β γ State Choice : Type}

namespace Program

/-- Continue a program with a second program that depends on its value. -/
def bind
    (program : Program interface α)
    (continuation : α → Program interface β) :
    Program interface β :=
  match program with
  | .done value => continuation value
  | .perform operation next =>
      .perform operation fun answer => (next answer).bind continuation

instance : Monad (Program interface) where
  pure := .done
  bind := bind

@[simp] theorem pure_eq_done (value : α) :
    (pure value : Program interface α) = .done value :=
  rfl

@[simp] theorem done_bind
    (value : α)
    (continuation : α → Program interface β) :
    (Program.done value : Program interface α) >>= continuation =
      continuation value :=
  rfl

@[simp] theorem bind_done
    (value : α)
    (continuation : α → Program interface β) :
    (Program.done value : Program interface α).bind continuation =
      continuation value :=
  rfl

@[simp] theorem perform_bind
    (operation : interface.Operation)
    (next : interface.Answer operation → Program interface α)
    (continuation : α → Program interface β) :
    Program.perform operation next >>= continuation =
      .perform operation fun answer => next answer >>= continuation :=
  rfl

/-- Perform one operation and return its answer. -/
def call (operation : interface.Operation) :
    Program interface (interface.Answer operation) :=
  .perform operation .done

@[simp] theorem call_bind
    (operation : interface.Operation)
    (continuation : interface.Answer operation → Program interface β) :
    call operation >>= continuation = .perform operation continuation :=
  rfl

/-- Sequencing of programs is associative. -/
theorem bind_assoc
    (program : Program interface α)
    (first : α → Program interface β)
    (second : β → Program interface γ) :
    program >>= first >>= second =
      program >>= fun value => first value >>= second := by
  induction program with
  | done value =>
      rfl
  | perform operation next inductionHypothesis =>
      simp only [perform_bind, inductionHypothesis]

/-!
## Histories
-/

/-- `program` can go through `history` and be left as the last program. -/
inductive Path (program : Program interface α) :
    History interface → Program interface α → Prop where
  | start : Path program [] program
  | exchange
      {history : History interface}
      {operation : interface.Operation}
      {next : interface.Answer operation → Program interface α}
      (answer : interface.Answer operation) :
      Path program history (.perform operation next) →
      Path program (history ++ [⟨operation, answer⟩]) (next answer)

/-- A program that has made no exchange is as it was. -/
theorem Path.eq_of_nil
    {program remainder : Program interface α}
    (path : Path program [] remainder) :
    remainder = program := by
  generalize noneYet : ([] : History interface) = history at path
  cases path with
  | start =>
      rfl
  | exchange answer path =>
      exact absurd noneYet.symm (List.append_ne_nil_of_right_ne_nil _ (by simp))

/--
Assertions kept along every history.

Before the program performs an operation, `request` holds of the history so far
and the operation; when it finishes, `result` holds of the whole history and
the value.
-/
def Obeys
    (request : History interface → interface.Operation → Prop)
    (result : History interface → α → Prop) :
    History interface → Program interface α → Prop
  | history, .done value => result history value
  | history, .perform operation next =>
      request history operation ∧
        ∀ answer, Obeys request result
          (history ++ [⟨operation, answer⟩]) (next answer)

section Obeys

variable {request : History interface → interface.Operation → Prop}
  {result : History interface → α → Prop}

@[simp] theorem obeys_done
    {history : History interface}
    {value : α} :
    Obeys request result history (.done value) ↔ result history value :=
  Iff.rfl

@[simp] theorem obeys_perform
    {history : History interface}
    {operation : interface.Operation}
    {next : interface.Answer operation → Program interface α} :
    Obeys request result history (.perform operation next) ↔
      request history operation ∧
        ∀ answer, Obeys request result
          (history ++ [⟨operation, answer⟩]) (next answer) :=
  Iff.rfl

/-- A sequence obeys its assertions when its two parts do. -/
theorem obeys_bind
    {result : History interface → β → Prop}
    {history : History interface}
    {program : Program interface α}
    {continuation : α → Program interface β} :
    Obeys request result history (program >>= continuation) ↔
      Obeys request
        (fun later value =>
          Obeys request result later (continuation value))
        history program := by
  induction program generalizing history with
  | done value =>
      rfl
  | perform operation next inductionHypothesis =>
      simp only [perform_bind, obeys_perform, inductionHypothesis]

/-- Weaker assertions are obeyed by the same programs. -/
theorem Obeys.mono
    {weakRequest : History interface → interface.Operation → Prop}
    {weakResult : History interface → α → Prop}
    {history : History interface}
    {program : Program interface α}
    (obeys : Obeys request result history program)
    (requestWeakens :
      ∀ history operation,
        request history operation → weakRequest history operation)
    (resultWeakens :
      ∀ history value,
        result history value → weakResult history value) :
    Obeys weakRequest weakResult history program := by
  induction program generalizing history with
  | done value =>
      exact resultWeakens history value obeys
  | perform operation next inductionHypothesis =>
      exact ⟨requestWeakens history operation obeys.1,
        fun answer => inductionHypothesis answer (obeys.2 answer)⟩

/-- Assertions that a program obeys separately, it obeys together. -/
theorem Obeys.and
    {otherRequest : History interface → interface.Operation → Prop}
    {otherResult : History interface → α → Prop}
    {history : History interface}
    {program : Program interface α}
    (obeys : Obeys request result history program)
    (otherwise : Obeys otherRequest otherResult history program) :
    Obeys
      (fun history operation =>
        request history operation ∧ otherRequest history operation)
      (fun history value => result history value ∧ otherResult history value)
      history program := by
  induction program generalizing history with
  | done value =>
      exact ⟨obeys, otherwise⟩
  | perform operation next inductionHypothesis =>
      exact ⟨⟨obeys.1, otherwise.1⟩,
        fun answer => inductionHypothesis answer (obeys.2 answer)
          (otherwise.2 answer)⟩

/-- What a program obeys from the start, every remainder of it still obeys. -/
theorem Path.obeys
    {program remainder : Program interface α}
    {history : History interface}
    (path : Path program history remainder)
    (obeys : Obeys request result [] program) :
    Obeys request result history remainder := by
  induction path with
  | start =>
      exact obeys
  | exchange answer _ inductionHypothesis =>
      exact inductionHypothesis.2 answer

/-- Every exchange of a history was requested as the program asserts. -/
theorem Path.request_of_mem
    {program remainder : Program interface α}
    {history : History interface}
    (path : Path program history remainder)
    (obeys : Obeys request result [] program)
    {exchange : Exchange interface}
    (member : exchange ∈ history) :
    ∃ earlier,
      earlier <+: history ∧ request earlier exchange.operation := by
  induction path with
  | start =>
      cases member
  | @exchange earlier operation next answer path inductionHypothesis =>
      rcases List.mem_append.mp member with old | new
      · obtain ⟨before, prefixed, requested⟩ := inductionHypothesis old
        exact ⟨before, prefixed.trans (List.prefix_append _ _), requested⟩
      · rw [List.mem_singleton.mp new]
        exact ⟨earlier, List.prefix_append _ _, (path.obeys obeys).1⟩

end Obeys

/-- Every operation that the program can perform is selected. -/
def Only (selected : interface.Operation → Prop) :
    Program interface α → Prop
  | .done _ => True
  | .perform operation next =>
      selected operation ∧ ∀ answer, Only selected (next answer)

section Only

variable {selected : interface.Operation → Prop}

/-- A sequence performs only what its parts perform. -/
theorem Only.bind
    {program : Program interface α}
    {continuation : α → Program interface β}
    (first : Only selected program)
    (rest : ∀ value, Only selected (continuation value)) :
    Only selected (program >>= continuation) := by
  induction program with
  | done value =>
      exact rest value
  | perform operation next inductionHypothesis =>
      exact ⟨first.1, fun answer => inductionHypothesis answer (first.2 answer)⟩

/-- A program performs what a wider selection allows. -/
theorem Only.mono
    {wider : interface.Operation → Prop}
    {program : Program interface α}
    (only : Only selected program)
    (widens : ∀ operation, selected operation → wider operation) :
    Only wider program := by
  induction program with
  | done value =>
      trivial
  | perform operation next inductionHypothesis =>
      exact ⟨widens operation only.1,
        fun answer => inductionHypothesis answer (only.2 answer)⟩

/-- A program keeps an assertion that holds whenever it performs something. -/
theorem Only.obeys
    {request : History interface → interface.Operation → Prop}
    {result : History interface → α → Prop}
    {history : History interface}
    {program : Program interface α}
    (only : Only selected program)
    (permits :
      ∀ later operation,
        history <+: later → selected operation → request later operation)
    (afterwards : ∀ later value, history <+: later → result later value) :
    Obeys request result history program := by
  induction program generalizing history with
  | done value =>
      exact afterwards history value List.prefix_rfl
  | perform operation next inductionHypothesis =>
      refine ⟨permits history operation List.prefix_rfl only.1, ?_⟩
      intro answer
      refine inductionHypothesis answer (only.2 answer) ?_ ?_
      · intro later operation longer
        exact permits later operation ((List.prefix_append _ _).trans longer)
      · intro later value longer
        exact afterwards later value ((List.prefix_append _ _).trans longer)

end Only

/--
A program that finishes with an accepted value once it has performed a selected
operation.
-/
def Commits
    (selected : interface.Operation → Prop)
    (accepted : α → Prop) :
    Program interface α → Prop
  | .done _ => True
  | .perform operation next =>
      ∀ answer,
        Commits selected accepted (next answer) ∧
          (selected operation →
            Obeys (fun _ _ => True) (fun _ value => accepted value) []
              (next answer))

section Commits

variable {selected : interface.Operation → Prop} {accepted : α → Prop}

/-- An operation that is not selected commits to nothing. -/
theorem commits_perform
    {operation : interface.Operation}
    {next : interface.Answer operation → Program interface α}
    (notSelected : ¬ selected operation)
    (rest : ∀ answer, Commits selected accepted (next answer)) :
    Commits selected accepted (.perform operation next) :=
  fun answer => ⟨rest answer, fun isSelected => absurd isSelected notSelected⟩

/-- A program that selects nothing commits to nothing. -/
theorem Only.commits
    {program : Program interface α}
    (only : Only (fun operation => ¬ selected operation) program) :
    Commits selected accepted program := by
  induction program with
  | done value =>
      trivial
  | perform operation next inductionHypothesis =>
      exact commits_perform only.1
        fun answer => inductionHypothesis answer (only.2 answer)

/-- A program may first do what commits to nothing. -/
theorem Only.commits_bind
    {accepted : β → Prop}
    {program : Program interface α}
    {continuation : α → Program interface β}
    (only : Only (fun operation => ¬ selected operation) program)
    (rest : ∀ value, Commits selected accepted (continuation value)) :
    Commits selected accepted (program >>= continuation) := by
  induction program with
  | done value =>
      exact rest value
  | perform operation next inductionHypothesis =>
      exact commits_perform only.1
        fun answer => inductionHypothesis answer (only.2 answer)

end Commits

/--
What a program guarantees as long as its answers can be trusted: it requests
only what `request` allows and finishes only with what `result` allows.
-/
def Guarantees
    (trusted :
      (operation : interface.Operation) → interface.Answer operation → Prop)
    (request : interface.Operation → Prop)
    (result : α → Prop) :
    Program interface α → Prop
  | .done value => result value
  | .perform operation next =>
      request operation ∧
        ∀ answer, trusted operation answer →
          Guarantees trusted request result (next answer)

section Guarantees

variable
  {trusted :
    (operation : interface.Operation) → interface.Answer operation → Prop}
  {request : interface.Operation → Prop}

@[simp] theorem guarantees_done {result : α → Prop} {value : α} :
    Guarantees trusted request result
        (.done value : Program interface α) ↔
      result value :=
  Iff.rfl

@[simp] theorem guarantees_perform
    {result : α → Prop}
    {operation : interface.Operation}
    {next : interface.Answer operation → Program interface α} :
    Guarantees trusted request result (.perform operation next) ↔
      request operation ∧
        ∀ answer, trusted operation answer →
          Guarantees trusted request result (next answer) :=
  Iff.rfl

/-- A sequence guarantees what its parts guarantee in turn. -/
theorem Guarantees.bind
    {middle : α → Prop}
    {result : β → Prop}
    {program : Program interface α}
    {continuation : α → Program interface β}
    (first : Guarantees trusted request middle program)
    (rest :
      ∀ value, middle value →
        Guarantees trusted request result (continuation value)) :
    Guarantees trusted request result (program >>= continuation) := by
  induction program with
  | done value =>
      exact rest value first
  | perform operation next inductionHypothesis =>
      exact ⟨first.1, fun answer isTrusted =>
        inductionHypothesis answer (first.2 answer isTrusted)⟩

/-- What a program asserts before each operation, it guarantees. -/
theorem Obeys.guarantees
    {asserted : History interface → interface.Operation → Prop}
    {result : History interface → α → Prop}
    {history : History interface}
    {program : Program interface α}
    (obeys : Obeys asserted result history program)
    (permits :
      ∀ history operation, asserted history operation → request operation) :
    Guarantees trusted request (fun _ => True) program := by
  induction program generalizing history with
  | done value =>
      trivial
  | perform operation next inductionHypothesis =>
      exact ⟨permits history operation obeys.1, fun answer _ =>
        inductionHypothesis answer (obeys.2 answer)⟩

/-- What a program performs only, it guarantees. -/
theorem Only.guarantees
    {program : Program interface α}
    (only : Only request program) :
    Guarantees trusted request (fun _ => True) program := by
  induction program with
  | done value =>
      trivial
  | perform operation next inductionHypothesis =>
      exact ⟨only.1, fun answer _ =>
        inductionHypothesis answer (only.2 answer)⟩

end Guarantees

/-- The value of a finished program. -/
def outcome? : Program interface α → Option α
  | .done value => some value
  | .perform _ _ => none

/-- The operation that a program performs next. -/
def operation? : Program interface α → Option interface.Operation
  | .done _ => none
  | .perform operation _ => some operation

@[simp] theorem operation?_perform
    (operation : interface.Operation)
    (next : interface.Answer operation → Program interface α) :
    (Program.perform operation next).operation? = some operation :=
  rfl

/-- A program with a value is finished. -/
theorem eq_done_of_outcome?
    {program : Program interface α}
    {value : α}
    (finished : program.outcome? = some value) :
    program = .done value := by
  cases program with
  | done other =>
      cases finished
      rfl
  | perform operation next =>
      cases finished

/-!
## Which operations a program may still perform
-/

/-- Some history leads the program to an operation in `selected`. -/
def MayPerform (selected : interface.Operation → Prop) :
    Program interface α → Prop
  | .done _ => False
  | .perform operation next =>
      selected operation ∨ ∃ answer, MayPerform selected (next answer)

section MayPerform

variable {selected : interface.Operation → Prop}

@[simp] theorem mayPerform_done {value : α} :
    ¬ MayPerform selected (.done value : Program interface α) :=
  id

/-- A program that may perform after an answer may perform before it. -/
theorem mayPerform_of_next
    {operation : interface.Operation}
    {next : interface.Answer operation → Program interface α}
    {answer : interface.Answer operation}
    (may : MayPerform selected (next answer)) :
    MayPerform selected (.perform operation next) :=
  Or.inr ⟨answer, may⟩

end MayPerform

/-!
## Running from start to end
-/

/-- What a complete run leaves behind. -/
structure Completed (interface : Interface) (State α : Type) where
  value : α
  state : State
  history : History interface

/--
Run a program to its end without interruption.

`execute` gives an operation its meaning; the nondeterminism of the `n`-th
operation is resolved by `choices n`.
-/
def run
    (execute :
      Choice → State → (operation : interface.Operation) →
        interface.Answer operation × State) :
    Program interface α → (Nat → Choice) → State →
      Completed interface State α
  | .done value, _, state =>
      { value := value, state := state, history := [] }
  | .perform operation next, choices, state =>
      let outcome := execute (choices 0) state operation
      let rest :=
        (next outcome.1).run execute
          (fun index => choices (index + 1)) outcome.2
      { value := rest.value
        state := rest.state
        history := ⟨operation, outcome.1⟩ :: rest.history }

section Run

variable
  {execute :
    Choice → State → (operation : interface.Operation) →
      interface.Answer operation × State}

@[simp] theorem run_done
    (value : α)
    (choices : Nat → Choice)
    (state : State) :
    (Program.done value : Program interface α).run execute choices state =
      { value := value, state := state, history := [] } :=
  rfl

@[simp] theorem run_perform
    (operation : interface.Operation)
    (next : interface.Answer operation → Program interface α)
    (choices : Nat → Choice)
    (state : State) :
    (Program.perform operation next).run execute choices state =
      let outcome := execute (choices 0) state operation
      let rest :=
        (next outcome.1).run execute
          (fun index => choices (index + 1)) outcome.2
      { value := rest.value
        state := rest.state
        history := ⟨operation, outcome.1⟩ :: rest.history } :=
  rfl

/-- A sequence runs its parts one after the other. -/
theorem run_bind
    (program : Program interface α)
    (continuation : α → Program interface β)
    (choices : Nat → Choice)
    (state : State) :
    (program >>= continuation).run execute choices state =
      let first := program.run execute choices state
      let rest :=
        (continuation first.value).run execute
          (fun index => choices (first.history.length + index)) first.state
      { value := rest.value
        state := rest.state
        history := first.history ++ rest.history } := by
  induction program generalizing choices state with
  | done value =>
      simp
  | perform operation next inductionHypothesis =>
      simp only [perform_bind, run_perform, inductionHypothesis,
        List.length_cons, List.cons_append]
      simp only [Nat.add_right_comm _ _ 1]

/--
The invariant rule of a complete run: a relation between the exchanges so far
and the state that holds at the start, and that every operation which the
program may request preserves, holds at the end.
-/
theorem Obeys.run_invariant
    {request : History interface → interface.Operation → Prop}
    {result : History interface → α → Prop}
    (property : History interface → State → Prop)
    {earlier : History interface}
    {program : Program interface α}
    {choices : Nat → Choice}
    {state : State}
    (obeys : Obeys request result earlier program)
    (start : property earlier state)
    (preserve :
      ∀ history operation state index,
        request history operation →
        property history state →
        property
          (history ++
            [⟨operation, (execute (choices index) state operation).1⟩])
          (execute (choices index) state operation).2) :
    let completed := program.run execute choices state
    property (earlier ++ completed.history) completed.state := by
  induction program generalizing earlier choices state with
  | done value =>
      simpa using start
  | perform operation next inductionHypothesis =>
      have later :=
        inductionHypothesis _ (obeys.2 (execute (choices 0) state operation).1)
          (preserve earlier operation state 0 obeys.1 start)
          (fun history operation state index =>
            preserve history operation state (index + 1))
      simpa using later

/-- A complete run satisfies the result assertion of its program. -/
theorem Obeys.run
    {request : History interface → interface.Operation → Prop}
    {result : History interface → α → Prop}
    {earlier : History interface}
    {program : Program interface α}
    (obeys : Obeys request result earlier program)
    (choices : Nat → Choice)
    (state : State) :
    let completed := program.run execute choices state
    result (earlier ++ completed.history) completed.value := by
  induction program generalizing earlier choices state with
  | done value =>
      simpa using obeys
  | perform operation next inductionHypothesis =>
      have later :=
        inductionHypothesis _ (obeys.2 (execute (choices 0) state operation).1)
          (fun index => choices (index + 1))
          (execute (choices 0) state operation).2
      simpa using later

/-- Whatever a complete run performed was requested after a part of it. -/
theorem Obeys.run_requests
    {request : History interface → interface.Operation → Prop}
    {result : History interface → α → Prop}
    {program : Program interface α}
    (obeys : Obeys request result [] program)
    (choices : Nat → Choice)
    (state : State) :
    let completed := program.run execute choices state
    ∀ exchange ∈ completed.history,
      ∃ before, before <+: completed.history ∧
        request before exchange.operation := by
  have requested :=
    @Obeys.run_invariant interface α State Choice execute request result
      (fun history _ =>
        ∀ exchange ∈ history,
          ∃ before, before <+: history ∧ request before exchange.operation)
      [] program choices state obeys
  apply requested
  · intro exchange member
    cases member
  · intro history operation state index permitted inductionHypothesis exchange
      member
    rcases List.mem_append.mp member with old | new
    · obtain ⟨before, longer, earlier⟩ := inductionHypothesis exchange old
      exact ⟨before, longer.trans (List.prefix_append _ _), earlier⟩
    · rw [List.mem_singleton.mp new]
      exact ⟨history, List.prefix_append _ _, permitted⟩

/-- A complete run that performed a selected operation ends as committed. -/
theorem Commits.run
    {selected : interface.Operation → Prop}
    {accepted : α → Prop}
    {program : Program interface α}
    (commits : Commits selected accepted program)
    (choices : Nat → Choice)
    (state : State)
    (performed :
      ∃ exchange ∈ (program.run execute choices state).history,
        selected exchange.operation) :
    accepted (program.run execute choices state).value := by
  induction program generalizing choices state with
  | done value =>
      obtain ⟨exchange, member, -⟩ := performed
      cases member
  | perform operation next inductionHypothesis =>
      obtain ⟨exchange, member, isSelected⟩ := performed
      obtain ⟨later, accepting⟩ := commits (execute (choices 0) state operation).1
      rcases List.mem_cons.mp member with rfl | inRest
      · exact (accepting isSelected).run _ _
      · exact inductionHypothesis _ later _ _ ⟨exchange, inRest, isSelected⟩

/-- A complete run performs selected operations only. -/
theorem Only.run
    {selected : interface.Operation → Prop}
    {program : Program interface α}
    (only : Only selected program)
    (choices : Nat → Choice)
    (state : State) :
    ∀ exchange ∈ (program.run execute choices state).history,
      selected exchange.operation := by
  induction program generalizing choices state with
  | done value =>
      intro exchange member
      cases member
  | perform operation next inductionHypothesis =>
      intro exchange member
      rcases List.mem_cons.mp member with isFirst | inRest
      · rw [isFirst]
        exact only.1
      · exact inductionHypothesis _ (only.2 _) _ _ exchange inRest

end Run

end Program

end Passwd.Interaction
