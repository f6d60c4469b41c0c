import Passwd.InteractionProgram

namespace Passwd.Interaction

/-!
# Programs carried out over another interface

An operation of an upper interface may itself be a program over a lower one.
Carrying out a program replaces each of its operations by such a program, so
that other programs can interleave at the granularity of the lower operations.

The history of the carried out program is cut into one segment for each exchange
of the upper one.  What the segments say of the exchanges and what the program
asserts about its exchanges then hold together.
-/

/-- The operations of two interfaces side by side. -/
abbrev Interface.sum (first second : Interface) : Interface where
  Operation := first.Operation ⊕ second.Operation
  Answer
    | .inl operation => first.Answer operation
    | .inr operation => second.Answer operation

variable {upper lower : Interface} {α β : Type}

namespace Program

/-- Carry out each operation of a program by a program over `lower`. -/
def through
    (carry :
      (operation : upper.Operation) →
        Program lower (upper.Answer operation)) :
    Program upper α → Program lower α
  | .done value => .done value
  | .perform operation next =>
      carry operation >>= fun answer => (next answer).through carry

section Through

variable
  {carry :
    (operation : upper.Operation) → Program lower (upper.Answer operation)}

@[simp] theorem through_done (value : α) :
    (.done value : Program upper α).through carry = .done value :=
  rfl

@[simp] theorem through_perform
    (operation : upper.Operation)
    (next : upper.Answer operation → Program upper α) :
    (Program.perform operation next).through carry =
      carry operation >>= fun answer => (next answer).through carry :=
  rfl

/-- A sequence is carried out part by part. -/
theorem through_bind
    (program : Program upper α)
    (continuation : α → Program upper β) :
    (program >>= continuation).through carry =
      program.through carry >>= fun value =>
        (continuation value).through carry := by
  induction program with
  | done value =>
      rfl
  | perform operation next inductionHypothesis =>
      simp only [perform_bind, through_perform, inductionHypothesis]
      exact (bind_assoc _ _ _).symm

end Through

/-!
## Segments
-/

/--
The lower history is cut into segments, one for each exchange of the upper
history, and each segment relates to its exchange.
-/
inductive Carried
    (relates :
      (operation : upper.Operation) → History lower →
        upper.Answer operation → Prop) :
    History upper → History lower → Prop where
  | nil : Carried relates [] []
  | exchange
      {above : History upper}
      {below segment : History lower}
      {operation : upper.Operation}
      {answer : upper.Answer operation} :
      Carried relates above below →
      relates operation segment answer →
      Carried relates (above ++ [⟨operation, answer⟩]) (below ++ segment)

/--
What is observed of the lower history is observed of the upper one, when every
segment shows what its exchange shows.
-/
theorem Carried.observed
    {Event : Type}
    {relates :
      (operation : upper.Operation) → History lower →
        upper.Answer operation → Prop}
    {observe : Exchange lower → Option Event}
    {shows : Exchange upper → List Event}
    {above : History upper}
    {below : History lower}
    (carried : Carried relates above below)
    (agrees :
      ∀ operation segment answer,
        relates operation segment answer →
          segment.filterMap observe = shows ⟨operation, answer⟩) :
    below.filterMap observe = above.flatMap shows := by
  induction carried with
  | nil =>
      rfl
  | exchange _ related inductionHypothesis =>
      simp [inductionHypothesis, agrees _ _ _ related]

/-- What every carried out exchange has, each exchange of the history has. -/
theorem Carried.forall_exchanges
    {relates :
      (operation : upper.Operation) → History lower →
        upper.Answer operation → Prop}
    {holds : Exchange upper → Prop}
    {above : History upper}
    {below : History lower}
    (carried : Carried relates above below)
    (each :
      ∀ operation segment answer,
        relates operation segment answer → holds ⟨operation, answer⟩) :
    ∀ exchange ∈ above, holds exchange := by
  induction carried with
  | nil =>
      intro exchange member
      cases member
  | exchange _ related inductionHypothesis =>
      intro exchange member
      rcases List.mem_append.mp member with old | new
      · exact inductionHypothesis exchange old
      · cases List.mem_singleton.mp new
        exact each _ _ _ related

/-- The last exchange is carried out by the last segment. -/
theorem Carried.of_concat
    {relates :
      (operation : upper.Operation) → History lower →
        upper.Answer operation → Prop}
    {above : History upper}
    {below : History lower}
    {operation : upper.Operation}
    {answer : upper.Answer operation}
    (carried : Carried relates (above ++ [⟨operation, answer⟩]) below) :
    ∃ earlier segment,
      below = earlier ++ segment ∧ Carried relates above earlier ∧
        relates operation segment answer := by
  generalize isHistory : above ++ [⟨operation, answer⟩] = history at carried
  cases carried with
  | nil =>
      exact absurd isHistory (List.append_ne_nil_of_right_ne_nil _ (by simp))
  | @exchange earlier below segment last result before related =>
      obtain ⟨same, isLast⟩ := List.append_inj' isHistory rfl
      cases isLast
      subst same
      exact ⟨below, segment, rfl, before, related⟩

/-- No exchange is carried out without a call. -/
theorem Carried.eq_nil
    {relates :
      (operation : upper.Operation) → History lower →
        upper.Answer operation → Prop}
    {below : History lower}
    (carried : Carried relates [] below) :
    below = [] := by
  generalize isHistory : ([] : History upper) = history at carried
  cases carried with
  | nil =>
      rfl
  | exchange before related =>
      exact absurd isHistory.symm
        (List.append_ne_nil_of_right_ne_nil _ (by simp))

/-- An assertion about a history of its own holds after any other history. -/
theorem Obeys.after
    {result : History lower → α → Prop}
    {program : Program lower α}
    {history : History lower}
    (earlier : History lower)
    (obeys : Obeys (fun _ _ => True) result history program) :
    Obeys (fun _ _ => True)
      (fun whole value =>
        ∃ own, whole = earlier ++ own ∧ result own value)
      (earlier ++ history) program := by
  induction program generalizing history with
  | done value =>
      exact ⟨history, rfl, obeys⟩
  | perform operation next inductionHypothesis =>
      refine ⟨trivial, fun answer => ?_⟩
      rw [List.append_assoc]
      exact inductionHypothesis answer (obeys.2 answer)

/--
What a program asserts about its exchanges, the carried out program asserts
about the exchanges that its history is cut into.
-/
theorem Obeys.through
    {relates :
      (operation : upper.Operation) → History lower →
        upper.Answer operation → Prop}
    {carry :
      (operation : upper.Operation) → Program lower (upper.Answer operation)}
    {request : History upper → upper.Operation → Prop}
    {result : History upper → α → Prop}
    {program : Program upper α}
    {above : History upper}
    {below : History lower}
    (carries :
      ∀ operation,
        Obeys (fun _ _ => True) (relates operation) [] (carry operation))
    (obeys : Obeys request result above program)
    (carried : Carried relates above below) :
    Obeys (fun _ _ => True)
      (fun whole value =>
        ∃ exchanges, Carried relates exchanges whole ∧ result exchanges value)
      below (program.through carry) := by
  induction program generalizing above below with
  | done value =>
      exact ⟨above, carried, obeys⟩
  | perform operation next inductionHypothesis =>
      rw [through_perform, obeys_bind]
      have segment := (carries operation).after below
      rw [List.append_nil] at segment
      refine segment.mono (fun _ _ => id) ?_
      rintro whole answer ⟨own, rfl, related⟩
      exact inductionHypothesis answer (obeys.2 answer)
        (carried.exchange related)

/-!
## One of two interfaces
-/

/-- A program over the second of two interfaces. -/
def onSecond
    (first : Interface)
    (program : Program lower α) :
    Program (first.sum lower) α :=
  program.through fun operation =>
    (.perform (.inr operation) .done : Program (first.sum lower) _)

/-- The exchanges of the second of two interfaces. -/
def secondExchange? (first : Interface) :
    Exchange (first.sum lower) → Option (Exchange lower)
  | ⟨.inl _, _⟩ => none
  | ⟨.inr operation, answer⟩ => some ⟨operation, answer⟩

/-- An operation of the second interface is carried out as itself. -/
def Relayed
    (first : Interface)
    (operation : lower.Operation)
    (segment : History (first.sum lower))
    (answer : lower.Answer operation) :
    Prop :=
  segment = [⟨.inr operation, answer⟩]

/-- A program over the second interface keeps its assertions. -/
theorem Obeys.onSecond
    {first : Interface}
    {request : History lower → lower.Operation → Prop}
    {result : History lower → α → Prop}
    {program : Program lower α}
    (obeys : Obeys request result [] program) :
    Obeys (fun _ _ => True)
      (fun history value =>
        result (history.filterMap (secondExchange? first)) value)
      [] (program.onSecond first) := by
  have carries :
      ∀ operation : lower.Operation,
        Obeys (fun _ _ => True) (Relayed first operation) []
          (.perform (.inr operation) .done :
            Program (first.sum lower) (lower.Answer operation)) :=
    fun operation => ⟨trivial, fun answer => rfl⟩
  refine (Obeys.through carries obeys .nil).mono (fun _ _ => id) ?_
  rintro history value ⟨exchanges, carried, holds⟩
  have same :
      history.filterMap (secondExchange? first) =
        exchanges.flatMap fun exchange => [exchange] := by
    apply carried.observed
    rintro operation segment answer rfl
    rfl
  rw [same, List.flatMap_singleton']
  exact holds

end Program

end Passwd.Interaction
