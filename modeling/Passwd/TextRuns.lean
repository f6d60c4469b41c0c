import Mathlib.Data.List.DropRight

namespace Passwd.TextRuns

/-!
# Trimming a list, collapsing its runs and cutting it into pieces

`trim` removes the elements of a class from both ends of a list, and `collapse`
replaces every maximal run of them by one separator.  Text normalization is a
composition of the two, for classes of white space that differ from one
language to another, so the lemmas relate the results for different classes.
The last section compares two texts by the pieces between their separators.
-/

variable {α : Type} {selected wider : α → Bool} {separator : α}

/-- Remove the selected elements from both ends. -/
def trim (selected : α → Bool) (elements : List α) : List α :=
  (elements.dropWhile selected).rdropWhile selected

/-- Neither end of the list is selected. -/
def Bare (selected : α → Bool) (elements : List α) : Prop :=
  (∀ element, elements.head? = some element → selected element = false) ∧
    ∀ element, elements.getLast? = some element → selected element = false

/-- Replace every maximal run of selected elements by one separator. -/
def collapse
    (selected : α → Bool)
    (separator : α) : List α → List α
  | [] => []
  | element :: rest =>
      if selected element then
        if rest.head?.any selected then
          collapse selected separator rest
        else
          separator :: collapse selected separator rest
      else
        element :: collapse selected separator rest

/-!
## Trimming
-/

/-- A list is its trimmed middle between two selected ends. -/
theorem exists_ends (selected : α → Bool) (elements : List α) :
    ∃ front back : List α,
      (∀ element ∈ front, selected element = true) ∧
      (∀ element ∈ back, selected element = true) ∧
      elements = front ++ (trim selected elements ++ back) := by
  refine ⟨elements.takeWhile selected,
    (elements.dropWhile selected).rtakeWhile selected, ?_, ?_, ?_⟩
  · intro element member
    exact List.mem_takeWhile_imp member
  · intro element member
    exact List.mem_rtakeWhile_imp member
  · rw [trim, List.rdropWhile_append_rtakeWhile,
      List.takeWhile_append_dropWhile]

/-- Selected ends do not survive trimming. -/
theorem trim_ends
    {front middle back : List α}
    (frontSelected : ∀ element ∈ front, selected element = true)
    (backSelected : ∀ element ∈ back, selected element = true) :
    trim selected (front ++ (middle ++ back)) = trim selected middle := by
  have backReversed :
      ∀ element ∈ back.reverse, selected element = true := by
    intro element member
    exact backSelected element (List.mem_reverse.mp member)
  unfold trim
  rw [List.dropWhile_append_of_pos frontSelected, List.dropWhile_append]
  by_cases vanishes : (middle.dropWhile selected).isEmpty
  · have nothing : middle.dropWhile selected = [] :=
      List.isEmpty_iff.mp vanishes
    have nothingBack : back.dropWhile selected = [] :=
      List.dropWhile_eq_nil_iff.mpr backSelected
    simp [nothing, nothingBack]
  · simp only [vanishes, Bool.false_eq_true, ↓reduceIte]
    rw [List.rdropWhile, List.reverse_append,
      List.dropWhile_append_of_pos backReversed, List.rdropWhile]

/-- A narrower trim beforehand makes no difference. -/
theorem trim_trim
    (narrower : ∀ element, selected element = true → wider element = true)
    (elements : List α) :
    trim wider (trim selected elements) = trim wider elements := by
  obtain ⟨front, back, frontSelected, backSelected, shape⟩ :=
    exists_ends selected elements
  have outer :
      trim wider (front ++ (trim selected elements ++ back)) =
        trim wider (trim selected elements) :=
    trim_ends
      (fun element member => narrower element (frontSelected element member))
      (fun element member => narrower element (backSelected element member))
  rw [← outer, ← shape]

/-- Ends that are bare of a class are bare of every smaller class. -/
theorem Bare.mono
    {elements : List α}
    (bare : Bare wider elements)
    (narrower :
      ∀ element, selected element = true → wider element = true) :
    Bare selected elements := by
  have unselected :
      ∀ element, wider element = false → selected element = false := by
    intro element outside
    by_contra inside
    rw [Bool.not_eq_false] at inside
    rw [narrower element inside] at outside
    cases outside
  exact ⟨fun element first => unselected element (bare.1 element first),
    fun element last => unselected element (bare.2 element last)⟩

/-- Trimming leaves a list with bare ends alone. -/
theorem trim_of_bare
    {elements : List α}
    (bare : Bare selected elements) :
    trim selected elements = elements := by
  have front : elements.dropWhile selected = elements := by
    cases elements with
    | nil =>
        rfl
    | cons first rest =>
        have unselected := bare.1 first rfl
        simp [unselected]
  unfold trim
  rw [front, List.rdropWhile_eq_self_iff]
  intro nonempty isSelected
  have unselected :=
    bare.2 (elements.getLast nonempty) (List.getLast?_eq_getLast_of_ne_nil nonempty)
  rw [unselected] at isSelected
  cases isSelected

/-- The result of trimming has bare ends. -/
theorem bare_trim (selected : α → Bool) (elements : List α) :
    Bare selected (trim selected elements) := by
  constructor
  · intro element first
    obtain ⟨tail, shape⟩ :=
      List.rdropWhile_prefix selected (l := elements.dropWhile selected)
    have first' : (elements.dropWhile selected).head? = some element := by
      rw [← shape, List.head?_append]
      unfold trim at first
      simp [first]
    have stops := List.head?_dropWhile_not selected elements
    simpa [first'] using stops
  · intro element last
    have nonempty :
        (elements.dropWhile selected).rdropWhile selected ≠ [] := by
      intro empty
      unfold trim at last
      rw [empty] at last
      cases last
    have stops := List.rdropWhile_last_not selected _ nonempty
    unfold trim at last
    rw [List.getLast?_eq_getLast_of_ne_nil nonempty] at last
    cases last
    simpa using stops

/-!
## Collapsing
-/

/-- A collapsed list holds separators and unselected elements. -/
theorem mem_collapse
    {elements : List α}
    {element : α}
    (member : element ∈ collapse selected separator elements) :
    element = separator ∨
      (element ∈ elements ∧ selected element = false) := by
  induction elements with
  | nil =>
      cases member
  | cons first rest inductionHypothesis =>
      have later :
          element ∈ collapse selected separator rest →
            element = separator ∨
              (element ∈ first :: rest ∧ selected element = false) := by
        intro inRest
        rcases inductionHypothesis inRest with isSeparator | ⟨inside, bare⟩
        · exact Or.inl isSeparator
        · exact Or.inr ⟨List.mem_cons_of_mem first inside, bare⟩
      unfold collapse at member
      split at member
      · split at member
        · exact later member
        · rcases List.mem_cons.mp member with isSeparator | inRest
          · exact Or.inl isSeparator
          · exact later inRest
      · rename_i unselected
        rcases List.mem_cons.mp member with isFirst | inRest
        · subst element
          exact Or.inr ⟨List.mem_cons_self, by simpa using unselected⟩
        · exact later inRest

/-- Unselected elements survive. -/
theorem mem_collapse_of_unselected
    {elements : List α}
    {element : α}
    (member : element ∈ elements)
    (unselected : selected element = false) :
    element ∈ collapse selected separator elements := by
  induction elements with
  | nil =>
      cases member
  | cons first rest inductionHypothesis =>
      unfold collapse
      rcases List.mem_cons.mp member with isFirst | inRest
      · subst element
        simp [unselected]
      · have survives := inductionHypothesis inRest
        split
        · split
          · exact survives
          · exact List.mem_cons_of_mem separator survives
        · exact List.mem_cons_of_mem first survives

/-- Classes that agree on a list collapse it in the same way. -/
theorem collapse_congr
    {elements : List α}
    (agree : ∀ element ∈ elements, selected element = wider element) :
    collapse selected separator elements =
      collapse wider separator elements := by
  induction elements with
  | nil =>
      rfl
  | cons first rest inductionHypothesis =>
      have tail :=
        inductionHypothesis fun element member =>
          agree element (List.mem_cons_of_mem first member)
      have next : rest.head?.any selected = rest.head?.any wider := by
        cases rest with
        | nil =>
            rfl
        | cons second others =>
            simpa using agree second (by simp)
      unfold collapse
      rw [agree first List.mem_cons_self, next, tail]

/-- Collapsing does not change how often an unselected element occurs. -/
theorem count_collapse
    [DecidableEq α]
    {element : α}
    (unselected : selected element = false)
    (different : element ≠ separator)
    (elements : List α) :
    (collapse selected separator elements).count element =
      elements.count element := by
  induction elements with
  | nil =>
      rfl
  | cons first rest inductionHypothesis =>
      unfold collapse
      split
      · rename_i isSelected
        have other : first ≠ element := by
          rintro rfl
          rw [unselected] at isSelected
          cases isSelected
        split
        · simp [inductionHypothesis, other]
        · simp [inductionHypothesis, other, Ne.symm different]
      · simp [List.count_cons, inductionHypothesis]

/-- A list that starts with an unselected element still does. -/
theorem head?_collapse
    {elements : List α}
    (bare :
      ∀ element, elements.head? = some element → selected element = false) :
    (collapse selected separator elements).head? = elements.head? := by
  cases elements with
  | nil =>
      rfl
  | cons first rest =>
      have unselected := bare first rfl
      simp [collapse, unselected]

/-- Collapsing treats an unselected last element on its own. -/
theorem collapse_concat
    {element : α}
    (unselected : selected element = false)
    (elements : List α) :
    collapse selected separator (elements ++ [element]) =
      collapse selected separator elements ++ [element] := by
  induction elements with
  | nil =>
      simp [collapse, unselected]
  | cons first rest inductionHypothesis =>
      have next :
          (rest ++ [element]).head?.any selected =
            rest.head?.any selected := by
        cases rest with
        | nil =>
            simp [unselected]
        | cons second others =>
            simp
      simp only [List.cons_append, collapse, next, inductionHypothesis]
      split
      · split
        · rfl
        · rfl
      · rfl

/-- A list that ends with an unselected element still does. -/
theorem getLast?_collapse
    {elements : List α}
    (bare :
      ∀ element, elements.getLast? = some element →
        selected element = false) :
    (collapse selected separator elements).getLast? =
      elements.getLast? := by
  induction elements using List.reverseRecOn with
  | nil =>
      rfl
  | append_singleton front last _ =>
      have unselected := bare last (by simp)
      rw [collapse_concat unselected]
      simp

/-- Collapsing a list with bare ends leaves its ends alone. -/
theorem bare_collapse
    {elements : List α}
    (bare : Bare selected elements)
    (outer : Bare wider elements) :
    Bare wider (collapse selected separator elements) := by
  constructor
  · intro element first
    rw [head?_collapse bare.1] at first
    exact outer.1 element first
  · intro element last
    rw [getLast?_collapse bare.2] at last
    exact outer.2 element last

/-- Collapsing to a selected separator is idempotent. -/
theorem collapse_collapse
    (separates : selected separator = true)
    (elements : List α) :
    collapse selected separator (collapse selected separator elements) =
      collapse selected separator elements := by
  induction elements with
  | nil =>
      rfl
  | cons first rest inductionHypothesis =>
      by_cases isSelected : selected first = true
      · by_cases more : rest.head?.any selected = true
        · simp only [collapse, isSelected, more, ↓reduceIte,
            inductionHypothesis]
        · have kept :
              (collapse selected separator rest).head? = rest.head? := by
            apply head?_collapse
            intro element isHead
            simpa [isHead] using more
          have once :
              collapse selected separator (first :: rest) =
                separator :: collapse selected separator rest := by
            simp [collapse, isSelected, more]
          rw [once]
          simp only [collapse, separates, kept, more, ↓reduceIte,
            inductionHypothesis]
          rfl
      · simp [collapse, isSelected, inductionHypothesis]

/-!
## Pieces between separators
-/

section Pieces

variable [DecidableEq α] {inner outer : List α}

/-- Cutting at a separator keeps everything: equal pieces come of equal lists. -/
theorem splitOn_injective (same : inner.splitOn separator = outer.splitOn separator) :
    inner = outer := by
  have joined := congrArg (List.intercalate [separator]) same
  rwa [List.intercalate_splitOn, List.intercalate_splitOn] at joined

/-- Pieces put before a list are set off from it by a separator. -/
theorem intercalate_append_splitOn
    (piece : List α)
    (pieces : List (List α)) :
    List.intercalate [separator] (piece :: pieces ++ outer.splitOn separator) =
      List.intercalate [separator] (piece :: pieces) ++ separator :: outer := by
  induction pieces generalizing piece with
  | nil =>
      rw [List.singleton_append,
        List.intercalate_cons_of_ne_nil (List.splitOn_ne_nil separator outer),
        List.intercalate_splitOn, List.intercalate_singleton,
        List.append_assoc, List.singleton_append]
  | cons next rest inductionHypothesis =>
      rw [List.cons_append, List.cons_append,
        List.intercalate_cons_cons, List.intercalate_cons_cons,
        ← List.cons_append, inductionHypothesis next]
      simp only [List.append_assoc]

/--
The pieces of one list end with those of another when the lists are equal or
the first ends with a separator and the second.
-/
theorem splitOn_isSuffix_iff :
    outer.splitOn separator <:+ inner.splitOn separator ↔
      inner = outer ∨ separator :: outer <:+ inner := by
  constructor
  · rintro ⟨leading, pieces⟩
    cases leading with
    | nil =>
        exact Or.inl (splitOn_injective pieces.symm)
    | cons piece rest =>
        right
        refine ⟨List.intercalate [separator] (piece :: rest), ?_⟩
        rw [← intercalate_append_splitOn, pieces, List.intercalate_splitOn]
  · rintro (same | ⟨front, rfl⟩)
    · exact same ▸ List.suffix_refl _
    · rw [List.splitOn_append_cons_self]
      exact List.suffix_append _ _

end Pieces

end Passwd.TextRuns
