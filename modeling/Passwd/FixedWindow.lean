import Mathlib.Tactic.Common
import Mathlib.Data.List.Count

namespace Passwd.FixedWindow

/-!
# Counting in fixed windows

A counter admits a bounded number of calls in each window.  A call later than
the end of the window opens the next one and is admitted; the window ends with
an instant that still belongs to it.  Two windows touch every closed interval of
the length of one, so twice the bound is admitted within it.
-/

/-- An open window: when it began, and how many calls it has admitted. -/
structure Window where
  start : Int
  used : Int
deriving Repr, DecidableEq

/-- A window that begins with a call. -/
def Window.opened (now : Int) : Window where
  start := now
  used := 1

/-- A window with one more call. -/
def Window.admit (w : Window) : Window where
  start := w.start
  used := w.used + 1

variable (limit width : Int)

/-- One call: whether it is admitted, and the window after it. -/
def step (window : Option Window) (now : Int) : Bool × Window :=
  match window with
  | none => (true, .opened now)
  | some w =>
      if w.start + width < now then
        (true, .opened now)
      else if limit ≤ w.used then
        (false, w)
      else
        (true, w.admit)

/-- The answers to calls, from a window on. -/
def answers : Option Window → List Int → List Bool
  | _, [] => []
  | window, now :: later =>
      (step limit width window now).1 ::
        answers (some (step limit width window now).2) later

/-- The window after calls. -/
def after (window : Option Window) (times : List Int) : Option Window :=
  times.foldl (fun window now => some (step limit width window now).2) window

/-- How many calls of an interval are admitted. -/
def admitted (low high : Int) : Option Window → List Int → Nat
  | _, [] => 0
  | window, now :: later =>
      (if (step limit width window now).1 && low ≤ now && now ≤ high then 1
        else 0) +
        admitted low high (some (step limit width window now).2) later

/-- When the last window begins, by the times of the calls alone. -/
def lastStart (width : Int) (times : List Int) : Option Int :=
  times.foldl
    (fun start now =>
      match start with
      | none => some now
      | some start => if start + width < now then some now else some start)
    none

/-- A call opens a window, is refused, or is admitted to the window. -/
theorem step_cases (w : Window) (now : Int) :
    (w.start + width < now ∧
        step limit width (some w) now = (true, .opened now)) ∨
      (¬ w.start + width < now ∧ limit ≤ w.used ∧
        step limit width (some w) now = (false, w)) ∨
      (¬ w.start + width < now ∧ w.used < limit ∧
        step limit width (some w) now = (true, w.admit)) := by
  unfold step
  by_cases ended : w.start + width < now
  · exact Or.inl ⟨ended, if_pos ended⟩
  · by_cases usedUp : limit ≤ w.used
    · exact Or.inr (Or.inl ⟨ended, usedUp, by simp [ended, usedUp]⟩)
    · exact Or.inr (Or.inr ⟨ended, Int.not_le.mp usedUp,
        by simp [ended, usedUp]⟩)

variable {limit width}

/-- A window has admitted a number of calls that is within the limit. -/
def Within (limit : Int) (w : Window) : Prop :=
  0 ≤ w.used ∧ w.used ≤ limit

/-- A call keeps the window within the limit. -/
theorem within_step
    {window : Option Window}
    (atLeastOne : 1 ≤ limit)
    (within : ∀ w, window = some w → Within limit w)
    (now : Int) :
    Within limit (step limit width window now).2 := by
  have opened : Within limit (.opened now) :=
    ⟨Int.zero_le_ofNat 1, atLeastOne⟩
  cases window with
  | none =>
      exact opened
  | some w =>
      obtain ⟨notNegative, bounded⟩ := within w rfl
      rcases step_cases limit width w now with
        ⟨_, same⟩ | ⟨_, _, same⟩ | ⟨_, room, same⟩
      · rw [same]
        exact opened
      · rw [same]
        exact ⟨notNegative, bounded⟩
      · rw [same]
        exact ⟨Int.add_nonneg notNegative (by decide), room⟩

/-!
## Every interval of the length of a window
-/

section Interval

variable {low high : Int} {window : Option Window} {now : Int} {later : List Int}

/-- One call adds at most one. -/
theorem admitted_cons_le
    {w : Window}
    (next : (step limit width window now).2 = w) :
    admitted limit width low high window (now :: later) ≤
      1 + admitted limit width low high (some w) later := by
  rw [admitted, next]
  split
  · exact Nat.le_refl _
  · exact Nat.add_le_add_right (Nat.zero_le 1) _

/-- A call that is refused or outside of the interval adds nothing. -/
theorem admitted_cons_of_not
    (uncounted :
      ¬ ((step limit width window now).1 = true ∧ low ≤ now ∧ now ≤ high)) :
    admitted limit width low high window (now :: later) =
      admitted limit width low high
        (some (step limit width window now).2) later := by
  have notBoth :
      ((step limit width window now).1 && low ≤ now && now ≤ high) =
        false := by
    rw [← Bool.not_eq_true]
    simpa [and_assoc] using uncounted
  rw [admitted, notBoth]
  exact Nat.zero_add _

/-- Nothing is admitted in an interval that has passed. -/
theorem admitted_eq_zero
    {times : List Int}
    (passed : ∀ now ∈ times, high < now)
    (window : Option Window) :
    admitted limit width low high window times = 0 := by
  induction times generalizing window with
  | nil =>
      rfl
  | cons now later inductionHypothesis =>
      have outside := Int.not_le.mpr (passed now List.mem_cons_self)
      rw [admitted_cons_of_not fun counted => outside counted.2.2]
      exact inductionHypothesis
        (fun next member => passed next (List.mem_cons_of_mem now member)) _

/-- Until its end, a window admits no more than it has room for. -/
theorem admitted_le_room
    {w : Window}
    {times : List Int}
    (ordered : times.Pairwise (· ≤ ·))
    (bounded : w.used ≤ limit)
    (untilEnd : high ≤ w.start + width) :
    (admitted limit width low high (some w) times : Int) ≤
      limit - w.used := by
  induction times generalizing w with
  | nil =>
      exact Int.sub_nonneg_of_le bounded
  | cons now later inductionHypothesis =>
      have rest := ordered.of_cons
      rcases step_cases limit width w now with
        ⟨ended, _⟩ | ⟨_, _, refused⟩ | ⟨_, room, same⟩
      · have passed : ∀ next ∈ now :: later, high < next := by
          intro next member
          rcases List.mem_cons.mp member with isNow | isLater
          · omega
          · have notEarlier : now ≤ next :=
              List.rel_of_pairwise_cons ordered isLater
            omega
        rw [admitted_eq_zero passed]
        exact Int.sub_nonneg_of_le bounded
      · rw [admitted_cons_of_not (by simp [refused]), refused]
        exact inductionHypothesis rest bounded untilEnd
      · have others :
            (admitted limit width low high (some w.admit) later : Int) ≤
              limit - (w.used + 1) :=
          inductionHypothesis rest room untilEnd
        have one :
            admitted limit width low high (some w) (now :: later) ≤
              1 + admitted limit width low high (some w.admit) later :=
          admitted_cons_le (congrArg Prod.snd same)
        omega

/-- From an instant on, a window and the next one admit the calls. -/
theorem admitted_le_from
    {w : Window}
    {times : List Int}
    (ordered : times.Pairwise (· ≤ ·))
    (fromLow : ∀ now ∈ times, low ≤ now)
    (atLeastOne : 1 ≤ limit)
    (within : Within limit w) :
    (admitted limit width low (low + width) (some w) times : Int) ≤
      limit - w.used + limit := by
  induction times generalizing w with
  | nil =>
      have room := Int.sub_nonneg_of_le within.2
      simp only [admitted]
      omega
  | cons now later inductionHypothesis =>
      have rest := ordered.of_cons
      have laterFrom : ∀ next ∈ later, low ≤ next := fun next member =>
        fromLow next (List.mem_cons_of_mem now member)
      have notBefore := fromLow now List.mem_cons_self
      rcases step_cases limit width w now with
        ⟨_, opened⟩ | ⟨_, _, refused⟩ | ⟨_, room, same⟩
      · have others :
            (admitted limit width low (low + width) (some (.opened now))
              later : Int) ≤ limit - 1 :=
          admitted_le_room rest atLeastOne
            (Int.add_le_add_right notBefore width)
        have one :
            admitted limit width low (low + width) (some w) (now :: later) ≤
              1 + admitted limit width low (low + width) (some (.opened now))
                later :=
          admitted_cons_le (congrArg Prod.snd opened)
        have bounded := within.2
        omega
      · rw [admitted_cons_of_not (by simp [refused]), refused]
        exact inductionHypothesis rest laterFrom within
      · have others :
            (admitted limit width low (low + width) (some w.admit) later :
              Int) ≤ limit - (w.used + 1) + limit :=
          inductionHypothesis rest laterFrom
            ⟨Int.add_nonneg within.1 (by decide), room⟩
        have one :
            admitted limit width low (low + width) (some w) (now :: later) ≤
              1 + admitted limit width low (low + width) (some w.admit)
                later :=
          admitted_cons_le (congrArg Prod.snd same)
        omega

/-- In a closed interval of one length, twice the limit is admitted at most. -/
theorem admitted_le_twice
    {times : List Int}
    (ordered : times.Pairwise (· ≤ ·))
    (atLeastOne : 1 ≤ limit)
    (within : ∀ w, window = some w → Within limit w)
    (low : Int) :
    (admitted limit width low (low + width) window times : Int) ≤
      2 * limit := by
  induction times generalizing window with
  | nil =>
      simp only [admitted]
      omega
  | cons now later inductionHypothesis =>
      by_cases before : now < low
      · have outside := Int.not_le.mpr before
        rw [admitted_cons_of_not fun counted => outside counted.2.1]
        apply inductionHypothesis ordered.of_cons
        intro w same
        rw [← Option.some.inj same]
        exact within_step atLeastOne within now
      · have notBefore := Int.not_lt.mp before
        cases window with
        | none =>
            have one :
                admitted limit width low (low + width) none (now :: later) ≤
                  1 + admitted limit width low (low + width)
                    (some (.opened now)) later :=
              admitted_cons_le rfl
            have others :
                (admitted limit width low (low + width) (some (.opened now))
                  later : Int) ≤ limit - 1 :=
              admitted_le_room ordered.of_cons atLeastOne
                (Int.add_le_add_right notBefore width)
            omega
        | some w =>
            have fromLow : ∀ next ∈ now :: later, low ≤ next := by
              intro next member
              rcases List.mem_cons.mp member with isNow | isLater
              · rwa [isNow]
              · exact Int.le_trans notBefore
                  (List.rel_of_pairwise_cons ordered isLater)
            have bound :
                (admitted limit width low (low + width) (some w)
                  (now :: later) : Int) ≤ limit - w.used + limit :=
              admitted_le_from ordered fromLow atLeastOne (within w rfl)
            have notNegative := (within w rfl).1
            omega

end Interval

/-!
## The beginning of the last window
-/

/-- The window after calls begins when their times say. -/
theorem start_after (times : List Int) :
    (after limit width none times).map Window.start =
      lastStart width times := by
  have begun :
      ∀ window : Option Window,
        (after limit width window times).map Window.start =
          times.foldl
            (fun start now =>
              match start with
              | none => some now
              | some start =>
                  if start + width < now then some now else some start)
            (window.map Window.start) := by
    induction times with
    | nil =>
        intro window
        rfl
    | cons now later inductionHypothesis =>
        intro window
        refine (inductionHypothesis _).trans ?_
        rw [List.foldl_cons]
        congr 1
        cases window with
        | none =>
            rfl
        | some w =>
            rcases step_cases limit width w now with
              ⟨ended, same⟩ | ⟨running, _, same⟩ | ⟨running, _, same⟩
            · simp [same, ended, Window.opened]
            · simp [same, running]
            · simp [same, running, Window.admit]
  exact begun none

/-- A call after the end of the last window is admitted. -/
theorem admits_after_end
    {times : List Int}
    {start now : Int}
    (last : lastStart width times = some start)
    (ended : start + width < now) :
    (step limit width (after limit width none times) now).1 = true := by
  have same : (after limit width none times).map Window.start = some start :=
    (start_after times).trans last
  obtain ⟨w, isLast, begins⟩ := Option.map_eq_some_iff.mp same
  rw [isLast]
  rcases step_cases limit width w now with
    ⟨_, opened⟩ | ⟨running, _⟩ | ⟨running, _⟩
  · rw [opened]
  · rw [begins] at running
    exact absurd ended running
  · rw [begins] at running
    exact absurd ended running

end Passwd.FixedWindow
