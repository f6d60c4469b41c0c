import Mathlib.Data.List.Perm.Subperm

namespace Passwd.MarkedLog

/-!
# Reading a log by a mark

A reader of a growing log keeps one mark, the time of the newest entry it has
seen.  At its next look it gets a bounded number of entries, newest first, and
takes the wanted ones that are later than the mark.  What it takes is among the
entries it has not seen, and it is all of the wanted ones exactly when none of
them is as old as the mark or behind the bound.
-/

variable {Entry : Type} (time : Entry → Int) (wanted : Entry → Bool)

/-- The wanted entries that are later than a mark. -/
def later (mark : Int) (entries : List Entry) : List Entry :=
  entries.filter fun e => decide (mark < time e) && wanted e

variable {time wanted} {mark : Int}

theorem later_append (first second : List Entry) :
    later time wanted mark (first ++ second) =
      later time wanted mark first ++ later time wanted mark second :=
  List.filter_append ..

/-- An entry that is taken is wanted and later than the mark. -/
theorem mem_later
    {entries : List Entry}
    {e : Entry} :
    e ∈ later time wanted mark entries ↔
      e ∈ entries ∧ mark < time e ∧ wanted e = true := by
  simp [later]

/-- Nothing is later than a mark that no wanted entry exceeds. -/
theorem later_eq_nil_iff {entries : List Entry} :
    later time wanted mark entries = [] ↔
      ∀ e ∈ entries, wanted e = true → ¬ mark < time e := by
  rw [List.eq_nil_iff_forall_not_mem]
  constructor
  · intro none e member isWanted isLater
    exact none e (mem_later.mpr ⟨member, isLater, isWanted⟩)
  · intro none e taken
    obtain ⟨member, isLater, isWanted⟩ := mem_later.mp taken
    exact none e member isWanted isLater

/-- What is taken is wanted. -/
theorem later_sublist (entries : List Entry) :
    (later time wanted mark entries).Sublist (entries.filter wanted) := by
  induction entries with
  | nil =>
      exact List.Sublist.slnil
  | cons e rest inductionHypothesis =>
      unfold later at inductionHypothesis ⊢
      by_cases isWanted : wanted e = true
      · by_cases isLater : mark < time e
        · simpa [isWanted, isLater] using inductionHypothesis
        · simpa [isWanted, isLater] using inductionHypothesis.cons e
      · simpa [isWanted] using inductionHypothesis

/-- Everything wanted is taken if all of it is later than the mark. -/
theorem later_eq_filter_iff {entries : List Entry} :
    later time wanted mark entries = entries.filter wanted ↔
      ∀ e ∈ entries, wanted e = true → mark < time e := by
  constructor
  · intro all e member isWanted
    have taken : e ∈ later time wanted mark entries := by
      rw [all]
      exact List.mem_filter.mpr ⟨member, isWanted⟩
    exact (mem_later.mp taken).2.1
  · intro all
    apply List.filter_congr
    intro e member
    cases isWanted : wanted e with
    | false =>
        exact Bool.and_false _
    | true =>
        rw [decide_eq_true (all e member isWanted), Bool.true_and]

section Look

variable
  {listed seen unseen : List Entry}
  (lists : listed.Perm (seen ++ unseen))
  (marked : ∀ e ∈ seen, time e ≤ mark)

include lists marked

/-- Without the bound, what is taken is among the entries not seen before. -/
theorem later_perm :
    (later time wanted mark listed).Perm (later time wanted mark unseen) := by
  have nothingSeen : later time wanted mark seen = [] :=
    later_eq_nil_iff.mpr fun e member _ => Int.not_lt.mpr (marked e member)
  have permuted := lists.filter fun e => decide (mark < time e) && wanted e
  change (later time wanted mark listed).Perm
    (later time wanted mark (seen ++ unseen)) at permuted
  rwa [later_append, nothingSeen, List.nil_append] at permuted

/-- What a look takes is among the wanted entries not seen before. -/
theorem later_take_subperm (limit : Nat) :
    (later time wanted mark (listed.take limit)).Subperm
      (unseen.filter wanted) := by
  have bounded :
      (later time wanted mark (listed.take limit)).Sublist
        (later time wanted mark listed) :=
    (List.take_sublist limit listed).filter _
  exact bounded.subperm.trans
    ((later_perm lists marked).subperm.trans (later_sublist unseen).subperm)

/--
A look takes every wanted entry not seen before exactly when each of them is
later than the mark and none is behind the bound.
-/
theorem later_take_perm_iff (limit : Nat) :
    (later time wanted mark (listed.take limit)).Perm
        (unseen.filter wanted) ↔
      (∀ e ∈ unseen, wanted e = true → mark < time e) ∧
        ∀ e ∈ listed.drop limit, wanted e = true → ¬ mark < time e := by
  have parts :
      later time wanted mark (listed.take limit) ++
          later time wanted mark (listed.drop limit) =
        later time wanted mark listed := by
    rw [← later_append, List.take_append_drop]
  have permuted :
      (later time wanted mark listed).Perm (later time wanted mark unseen) :=
    later_perm lists marked
  have wantedOnly :
      (later time wanted mark unseen).Sublist (unseen.filter wanted) :=
    later_sublist unseen
  rw [← later_eq_filter_iff, ← later_eq_nil_iff]
  constructor
  · intro complete
    have total := congrArg List.length parts
    rw [List.length_append, complete.length_eq, permuted.length_eq] at total
    have atMost := wantedOnly.length_le
    exact ⟨wantedOnly.eq_of_length (by omega),
      List.eq_nil_of_length_eq_zero (by omega)⟩
  · rintro ⟨allLater, noneBehind⟩
    rw [noneBehind, List.append_nil] at parts
    rw [parts, ← allLater]
    exact permuted

end Look

/-- In a log listed newest first, nothing is later than the first entry. -/
theorem time_le_newest
    {newest : Entry}
    {rest : List Entry}
    (newestFirst :
      (newest :: rest).Pairwise fun first later => time later ≤ time first) :
    ∀ e ∈ newest :: rest, time e ≤ time newest := by
  intro e member
  rcases List.mem_cons.mp member with isNewest | older
  · exact Int.le_of_eq (congrArg time isNewest)
  · exact List.rel_of_pairwise_cons newestFirst older

end Passwd.MarkedLog
