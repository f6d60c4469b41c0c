import Passwd.RowTable
import Passwd.InteractionRefinement

namespace Passwd

open Interaction

/-!
# Maps whose entries have owners

What a table of owned rows is for: every key has at most one entry, an entry
belongs to an owner, and a user creates, replaces, removes and lists the entries
that an access rule grants.  An event of the map is possible only if the rule
grants it, and a listing shows exactly what the user may read.

A table whose rows are read as entries takes these events, one for each change.
-/

/-- Who may read and who may change what an owner has. -/
structure Access (User Owner : Type) where
  reads : User → Owner → Prop
  writes : User → Owner → Prop

/-- The entries of a map and their owners. -/
abbrev OwnedMap (Key Owner Value : Type) := Key → Option (Owner × Value)

namespace OwnedMap

/-- What happens to a map. -/
inductive Event (User Key Owner Value : Type) where
  | created (key : Key) (owner : Owner) (value : Value)
  | replaced (user : User) (key : Key) (value : Value)
  | removed (user : User) (key : Key)
  | erased (user : User)
  | listed (user : User) (items : List (Key × Value))

variable {User Key Owner Value : Type} [DecidableEq Key]
  (access : Access User Owner)

/-- One event of a map. -/
def Step (before : OwnedMap Key Owner Value) :
    Event User Key Owner Value → OwnedMap Key Owner Value → Prop
  | .created key owner value, after =>
      before key = none ∧
        after = Function.update before key (some (owner, value))
  | .replaced user key value, after =>
      ∃ owner old,
        before key = some (owner, old) ∧ access.writes user owner ∧
          after = Function.update before key (some (owner, value))
  | .removed user key, after =>
      ∃ owner old,
        before key = some (owner, old) ∧ access.writes user owner ∧
          after = Function.update before key none
  | .erased user, after =>
      ∀ key entry,
        after key = some entry ↔
          before key = some entry ∧ ¬ access.writes user entry.1
  | .listed user items, after =>
      (items.map Prod.fst).Nodup ∧
        (∀ key value,
          (key, value) ∈ items ↔
            ∃ owner,
              before key = some (owner, value) ∧ access.reads user owner) ∧
        after = before

/-- A history of a map whose events several processes make. -/
abbrev Shared :
    OwnedMap Key Owner Value → List (Nat × Event User Key Owner Value) →
      OwnedMap Key Owner Value → Prop :=
  Plays fun before event after => Step access before event.2 after

/-- An event that leaves the entry of a key alone, whose owner is `owner`. -/
def Event.Spares (key : Key) (owner : Owner) :
    Event User Key Owner Value → Prop
  | .created other _ _ => other ≠ key
  | .replaced _ other _ => other ≠ key
  | .removed _ other => other ≠ key
  | .erased user => ¬ access.writes user owner
  | .listed _ _ => True

/-- An event of a user who may write to the entry of a key and does. -/
def Event.Touches (key : Key) (owner : Owner) :
    Event User Key Owner Value → Prop
  | .replaced user other _ => other = key ∧ access.writes user owner
  | .removed user other => other = key ∧ access.writes user owner
  | .erased user => access.writes user owner
  | _ => False

/-- The entries that a user may read. -/
def Readable
    (user : User)
    (entries : OwnedMap Key Owner Value)
    (key : Key)
    (value : Value) :
    Prop :=
  ∃ owner, entries key = some (owner, value) ∧ access.reads user owner

/-- The creation of an entry that a user may read. -/
def Event.Creates (user : User) (key : Key) :
    Event User Key Owner Value → Prop
  | .created added owner _ => added = key ∧ access.reads user owner
  | _ => False

/-- An event that may change what a user can read. -/
def Event.Concerns (user : User) : Event User Key Owner Value → Prop
  | .created _ owner _ => access.reads user owner
  | .replaced other _ _ =>
      ∃ owner, access.writes other owner ∧ access.reads user owner
  | .removed other _ =>
      ∃ owner, access.writes other owner ∧ access.reads user owner
  | .erased other =>
      ∃ owner, access.writes other owner ∧ access.reads user owner
  | .listed _ _ => False

section History

variable {access} {before after : OwnedMap Key Owner Value}
  {key : Key} {owner : Owner}

/-- An entry that an event spares stays as it is, and so does its absence. -/
theorem Step.spared
    {event : Event User Key Owner Value}
    (step : Step access before event after)
    (spares : event.Spares access key owner)
    (owned : ∀ entry, before key = some entry → entry.1 = owner) :
    after key = before key := by
  cases event with
  | created other _ _ =>
      rw [step.2, Function.update_of_ne (Ne.symm spares)]
  | replaced _ other _ =>
      obtain ⟨_, _, _, _, rfl⟩ := step
      rw [Function.update_of_ne (Ne.symm spares)]
  | removed _ other =>
      obtain ⟨_, _, _, _, rfl⟩ := step
      rw [Function.update_of_ne (Ne.symm spares)]
  | erased user =>
      apply Option.ext
      intro entry
      rw [step key entry]
      constructor
      · exact And.left
      · intro held
        refine ⟨held, ?_⟩
        rw [owned entry held]
        exact spares
  | listed _ _ =>
      rw [step.2.2]

/-- An entry that a history spares stays as it is, and so does its absence. -/
theorem Shared.spared
    {events : List (Nat × Event User Key Owner Value)}
    (shared : Shared access before events after)
    (spares : ∀ event ∈ events, event.2.Spares access key owner)
    (owned : ∀ entry, before key = some entry → entry.1 = owner) :
    after key = before key := by
  refine shared.invariant (fun now => now key = before key) rfl ?_
  intro now event next member same step
  rw [← same]
  refine Step.spared step (spares event member) ?_
  intro entry held
  exact owned entry (same.symm.trans held)

/-- A listing shows the value of an entry that the user may read. -/
theorem Step.listed_entry
    {user : User}
    {items : List (Key × Value)}
    {value : Value}
    (step : Step access before (.listed user items) after)
    (held : before key = some (owner, value))
    (reads : access.reads user owner)
    (shown : Value) :
    (key, shown) ∈ items ↔ shown = value := by
  rw [step.2.1, held]
  constructor
  · rintro ⟨_, same, _⟩
    cases same
    rfl
  · rintro rfl
    exact ⟨owner, rfl, reads⟩

/-- A listing shows nothing under a key without an entry. -/
theorem Step.listed_absent
    {user : User}
    {items : List (Key × Value)}
    (step : Step access before (.listed user items) after)
    (absent : before key = none)
    (shown : Value) :
    (key, shown) ∉ items := by
  rw [step.2.1, absent]
  rintro ⟨_, same, _⟩
  cases same

/-- An event that does not concern a user changes nothing that the user sees. -/
theorem Step.readable_of_other
    {user : User}
    {event : Event User Key Owner Value}
    (step : Step access before event after)
    (other : ¬ event.Concerns access user)
    (value : Value) :
    Readable access user after key value ↔
      Readable access user before key value := by
  have spared :
      ∀ owner, access.reads user owner →
        (after key = some (owner, value) ↔ before key = some (owner, value)) := by
    intro owner reads
    cases event with
    | created changed newOwner newValue =>
        obtain ⟨absent, rfl⟩ := step
        by_cases same : key = changed
        · subst same
          rw [Function.update_self, absent]
          constructor
          · intro isNew
            cases isNew
            exact absurd reads other
          · intro impossible
            cases impossible
        · rw [Function.update_of_ne same]
    | replaced writer changed newValue =>
        obtain ⟨holder, old, held, writes, rfl⟩ := step
        by_cases same : key = changed
        · subst same
          have unreadable : owner ≠ holder := by
            rintro rfl
            exact other ⟨owner, writes, reads⟩
          simp [held, Ne.symm unreadable]
        · rw [Function.update_of_ne same]
    | removed writer changed =>
        obtain ⟨holder, old, held, writes, rfl⟩ := step
        by_cases same : key = changed
        · subst same
          have unreadable : owner ≠ holder := by
            rintro rfl
            exact other ⟨owner, writes, reads⟩
          simp [held, Ne.symm unreadable]
        · rw [Function.update_of_ne same]
    | erased writer =>
        rw [step key (owner, value)]
        constructor
        · exact And.left
        · intro held
          exact ⟨held, fun writes => other ⟨owner, writes, reads⟩⟩
    | listed reader items =>
        rw [step.2.2]
  constructor
  · rintro ⟨owner, held, reads⟩
    exact ⟨owner, (spared owner reads).mp held, reads⟩
  · rintro ⟨owner, held, reads⟩
    exact ⟨owner, (spared owner reads).mpr held, reads⟩

/-- A created entry is all that its user sees in addition. -/
theorem Step.readable_of_created
    {user : User}
    {created : Key}
    {value : Value}
    (step : Step access before (.created created owner value) after)
    (reads : access.reads user owner)
    (shown : Value) :
    Readable access user after key shown ↔
      Readable access user before key shown ∨
        (key, shown) = (created, value) := by
  obtain ⟨absent, rfl⟩ := step
  by_cases same : key = created
  · subst same
    simp only [Readable, Function.update_self, absent]
    constructor
    · rintro ⟨_, isNew, _⟩
      cases isNew
      exact Or.inr rfl
    · rintro (⟨_, impossible, _⟩ | isNew)
      · cases impossible
      · cases isNew
        exact ⟨owner, rfl, reads⟩
  · simp [Readable, same]

/--
When all that concerns a user is the creation of entries, the user sees these in
addition and nothing else changes.
-/
theorem Shared.readable
    {user : User}
    {events : List (Nat × Event User Key Owner Value)}
    (shared : Shared access before events after)
    (creates :
      ∀ event ∈ events, event.2.Concerns access user →
        ∃ key owner value, event.2 = .created key owner value)
    (value : Value) :
    Readable access user after key value ↔
      Readable access user before key value ∨
        ∃ process owner,
          (process, Event.created key owner value) ∈ events ∧
            access.reads user owner := by
  induction shared with
  | start =>
      simp
  | @event earlier middle last newest _ step inductionHypothesis =>
      have soFar := inductionHypothesis fun event member =>
        creates event (List.mem_append_left _ member)
      by_cases concerns : newest.2.Concerns access user
      · obtain ⟨created, owner, newValue, isCreated⟩ :=
          creates newest (List.mem_append_right _ List.mem_cons_self) concerns
        obtain ⟨process, event⟩ := newest
        dsimp only at isCreated
        subst isCreated
        rw [Step.readable_of_created step concerns, soFar, or_assoc]
        refine or_congr_right ?_
        simp only [List.mem_append, List.mem_singleton, Prod.mk.injEq,
          Event.created.injEq]
        constructor
        · rintro (⟨other, holder, member, reads⟩ | ⟨rfl, rfl⟩)
          · exact ⟨other, holder, Or.inl member, reads⟩
          · exact ⟨process, owner, Or.inr ⟨rfl, rfl, rfl, rfl⟩, concerns⟩
        · rintro ⟨other, holder, member | ⟨-, rfl, -, rfl⟩, reads⟩
          · exact Or.inl ⟨other, holder, member, reads⟩
          · exact Or.inr ⟨rfl, rfl⟩
      · rw [Step.readable_of_other step concerns, soFar]
        refine or_congr_right ?_
        constructor
        · rintro ⟨process, holder, member, reads⟩
          exact ⟨process, holder, List.mem_append_left _ member, reads⟩
        · rintro ⟨process, holder, member, reads⟩
          rcases List.mem_append.mp member with old | new
          · exact ⟨process, holder, old, reads⟩
          · rw [List.mem_singleton.mp new |>.symm] at concerns
            exact absurd reads concerns

/-- Created keys had no entry. -/
theorem Step.absent_of_creates
    {user : User}
    {event : Event User Key Owner Value}
    (step : Step access before event after)
    (creates : event.Creates access user key) :
    before key = none := by
  cases event with
  | created created owner value =>
      obtain ⟨rfl, -⟩ := creates
      exact step.1
  | replaced user created value => cases creates
  | removed user created => cases creates
  | erased user => cases creates
  | listed user items => cases creates

/--
When all that concerns a user is the creation of entries, every one of them gets
a key of its own, which had no entry before.
-/
theorem Shared.creates_fresh
    {user : User}
    {events : List (Nat × Event User Key Owner Value)}
    (shared : Shared access before events after)
    (creates :
      ∀ event ∈ events, event.2.Concerns access user →
        ∃ key owner value, event.2 = .created key owner value) :
    (events.Pairwise fun first second =>
        ∀ key, first.2.Creates access user key →
          ¬ second.2.Creates access user key) ∧
      ∀ event ∈ events, ∀ key, event.2.Creates access user key →
        ∀ value, ¬ Readable access user before key value := by
  induction shared with
  | start => exact ⟨List.Pairwise.nil, nofun⟩
  | @event earlier middle last newest plays step inductionHypothesis =>
      have earlierCreates := fun event member =>
        creates event (List.mem_append_left _ member)
      obtain ⟨apart, fresh⟩ := inductionHypothesis earlierCreates
      have unreadable :
          ∀ key, newest.2.Creates access user key →
            ∀ value, ¬ Readable access user middle key value := by
        rintro key isNew value ⟨owner, held, -⟩
        rw [Step.absent_of_creates step isNew] at held
        cases held
      refine ⟨List.pairwise_append.mpr
        ⟨apart, List.pairwise_singleton _ _, ?_⟩, ?_⟩
      · intro older olderMember other isNewest key isOld isNew
        cases List.mem_singleton.mp isNewest
        obtain ⟨process, event⟩ := older
        cases event with
        | created created owner value =>
            obtain ⟨rfl, reads⟩ := isOld
            apply unreadable created isNew value
            rw [Shared.readable plays earlierCreates]
            exact Or.inr ⟨process, owner, olderMember, reads⟩
        | replaced user created value => cases isOld
        | removed user created => cases isOld
        | erased user => cases isOld
        | listed user items => cases isOld
      · intro event member key isCreated value wasReadable
        rcases List.mem_append.mp member with old | new
        · exact fresh event old key isCreated value wasReadable
        · cases List.mem_singleton.mp new
          apply unreadable key isCreated value
          rw [Shared.readable plays earlierCreates]
          exact Or.inl wasReadable

/-- An entry stays as it is unless somebody touches it who may. -/
theorem Step.untouched
    {event : Event User Key Owner Value}
    {value : Value}
    (step : Step access before event after)
    (held : before key = some (owner, value))
    (untouched : ¬ event.Touches access key owner) :
    after key = some (owner, value) := by
  have elsewhere
      {user : User}
      {other : Key}
      {holder : Owner × Value}
      (found : before other = some holder)
      (writes : access.writes user holder.1)
      (spared : ¬ (other = key ∧ access.writes user owner)) :
      key ≠ other := by
    rintro rfl
    rw [held] at found
    cases found
    exact spared ⟨rfl, writes⟩
  cases event with
  | created other _ _ =>
      obtain ⟨absent, rfl⟩ := step
      have different : key ≠ other := by
        rintro rfl
        rw [absent] at held
        cases held
      rw [Function.update_of_ne different]
      exact held
  | replaced user other _ =>
      obtain ⟨_, _, found, writes, rfl⟩ := step
      rw [Function.update_of_ne (elsewhere found writes untouched)]
      exact held
  | removed user other =>
      obtain ⟨_, _, found, writes, rfl⟩ := step
      rw [Function.update_of_ne (elsewhere found writes untouched)]
      exact held
  | erased user =>
      exact (step key _).mpr ⟨held, untouched⟩
  | listed _ _ =>
      rw [step.2.2]
      exact held

/-- An entry that nobody touches who may stays throughout a history. -/
theorem Shared.untouched
    {events : List (Nat × Event User Key Owner Value)}
    {value : Value}
    (shared : Shared access before events after)
    (held : before key = some (owner, value))
    (untouched : ∀ event ∈ events, ¬ event.2.Touches access key owner) :
    after key = some (owner, value) := by
  refine shared.invariant (fun now => now key = some (owner, value)) held ?_
  intro now event next member still step
  exact Step.untouched step still (untouched event member)

/-- A key stays without an entry until one is created under it. -/
theorem Step.absent
    {event : Event User Key Owner Value}
    (step : Step access before event after)
    (absent : before key = none)
    (notCreated : ∀ owner value, event ≠ .created key owner value) :
    after key = none := by
  have elsewhere
      {other : Key}
      {holder : Owner × Value}
      (found : before other = some holder) :
      key ≠ other := by
    rintro rfl
    rw [absent] at found
    cases found
  cases event with
  | created other holder value =>
      have different : key ≠ other := by
        rintro rfl
        exact notCreated holder value rfl
      rw [step.2, Function.update_of_ne different]
      exact absent
  | replaced user other _ =>
      obtain ⟨_, _, found, -, rfl⟩ := step
      rw [Function.update_of_ne (elsewhere found)]
      exact absent
  | removed user other =>
      obtain ⟨_, _, found, -, rfl⟩ := step
      rw [Function.update_of_ne (elsewhere found)]
      exact absent
  | erased user =>
      apply Option.eq_none_iff_forall_ne_some.mpr
      intro entry held
      have was := ((step key entry).mp held).1
      rw [absent] at was
      cases was
  | listed _ _ =>
      rw [step.2.2]
      exact absent

/-- A key stays without an entry throughout a history that creates none. -/
theorem Shared.absent
    {events : List (Nat × Event User Key Owner Value)}
    (shared : Shared access before events after)
    (absent : before key = none)
    (notCreated :
      ∀ event ∈ events, ∀ owner value, event.2 ≠ .created key owner value) :
    after key = none := by
  refine shared.invariant (fun now => now key = none) absent ?_
  intro now event next member still step
  exact Step.absent step still (notCreated event member)

/-- What happens between an event and a listing that comes later. -/
theorem Shared.exists_between
    {first last : OwnedMap Key Owner Value}
    {earlier between rest : List (Nat × Event User Key Owner Value)}
    {written : Nat × Event User Key Owner Value}
    {reader : Nat}
    {user : User}
    {items : List (Key × Value)}
    (shared :
      Shared access first
        (earlier ++
          written :: (between ++ (reader, .listed user items) :: rest)) last) :
    ∃ before middle now,
      Step access before written.2 middle ∧
        Shared access middle between now ∧
        Step access now (.listed user items) now := by
  rw [List.append_cons, ← List.append_assoc, List.append_cons] at shared
  obtain ⟨listed, untilListed, -⟩ := Plays.split shared
  obtain ⟨now, untilNow, step⟩ := Plays.of_concat untilListed
  obtain ⟨middle, untilWritten, meanwhile⟩ := Plays.split untilNow
  obtain ⟨before, -, wrote⟩ := Plays.of_concat untilWritten
  have same : listed = now := step.2.2
  rw [same] at step
  exact ⟨before, middle, now, wrote, meanwhile, step⟩

/--
A listing that comes after an event, with only sparing events in between, finds
the key as the event left it.
-/
theorem Shared.listed_kept
    {first last : OwnedMap Key Owner Value}
    {earlier between rest : List (Nat × Event User Key Owner Value)}
    {written : Nat × Event User Key Owner Value}
    {reader : Nat}
    {user : User}
    {items : List (Key × Value)}
    {entry : Option (Owner × Value)}
    (shared :
      Shared access first
        (earlier ++
          written :: (between ++ (reader, .listed user items) :: rest)) last)
    (spares : ∀ event ∈ between, event.2.Spares access key owner)
    (leaves :
      ∀ before after, Step access before written.2 after → after key = entry)
    (owned : ∀ held, entry = some held → held.1 = owner) :
    ∃ now, now key = entry ∧ Step access now (.listed user items) now := by
  obtain ⟨before, middle, now, wrote, meanwhile, step⟩ :=
    Shared.exists_between shared
  have left := leaves before middle wrote
  have kept : now key = middle key := by
    apply Shared.spared meanwhile spares
    intro held isHeld
    exact owned held (left.symm.trans isHeld)
  exact ⟨now, kept.trans left, step⟩

/--
A listing that comes after the creation of an entry finds the entry, when nobody
touched it in between who may.
-/
theorem Shared.listed_untouched
    {first last : OwnedMap Key Owner Value}
    {earlier between rest : List (Nat × Event User Key Owner Value)}
    {creator reader : Nat}
    {user : User}
    {items : List (Key × Value)}
    {value : Value}
    (shared :
      Shared access first
        (earlier ++
          (creator, .created key owner value) ::
            (between ++ (reader, .listed user items) :: rest)) last)
    (untouched : ∀ event ∈ between, ¬ event.2.Touches access key owner) :
    ∃ now,
      now key = some (owner, value) ∧
        Step access now (.listed user items) now := by
  obtain ⟨before, middle, now, ⟨-, rfl⟩, meanwhile, step⟩ :=
    Shared.exists_between shared
  have created :
      Function.update before key (some (owner, value)) key =
        some (owner, value) :=
    Function.update_self _ _ _
  exact ⟨now, Shared.untouched meanwhile created untouched, step⟩

end History

end OwnedMap

/-!
## Tables read as maps
-/

namespace Table

open OwnedMap

variable {User Row Key Owner Value : Type} {key : Row → Key} [DecidableEq Key]
  {access : Access User Owner}

/-- The entries of a table whose rows are read with `entry`. -/
def entries (entry : Row → Owner × Value) (table : Table key) :
    OwnedMap Key Owner Value :=
  fun wanted => (table.find? wanted).map entry

variable {entry : Row → Owner × Value} {table : Table key}

/-- Writing a row under a new key creates its entry. -/
theorem step_upsert
    {row : Row}
    (isNew : table.find? (key row) = none) :
    Step access (table.entries entry)
      (.created (key row) (entry row).1 (entry row).2)
      ((table.upsert row).entries entry) := by
  refine ⟨by simp [entries, isNew], ?_⟩
  funext wanted
  by_cases same : key row = wanted
  · subst same
    simp [entries, find?_upsert]
  · simp [entries, find?_upsert, same, Function.update_of_ne (Ne.symm same)]

/-- Rewriting the row of a key replaces its entry. -/
theorem step_update
    {user : User}
    {wanted : Key}
    {row : Row}
    {change : Row → Row}
    {keepsKey : ∀ row, key (change row) = key row}
    (found : table.find? wanted = some row)
    (writes : access.writes user (entry row).1)
    (keepsOwner : (entry (change row)).1 = (entry row).1) :
    Step access (table.entries entry)
      (.replaced user wanted (entry (change row)).2)
      ((table.update (fun row => key row = wanted) change
        keepsKey).entries entry) := by
  refine ⟨(entry row).1, (entry row).2, by simp [entries, found], writes, ?_⟩
  funext other
  simp only [entries, find?_update, Function.update_apply]
  split
  · rename_i same
    rw [same, found]
    simp [key_of_find? found, ← keepsOwner]
  · rename_i different
    cases foundOther : table.find? other with
    | none =>
        rfl
    | some otherRow =>
        simp [key_of_find? foundOther, different]

/-- Deleting the row of a key removes its entry. -/
theorem step_delete
    {user : User}
    {wanted : Key}
    {row : Row}
    (found : table.find? wanted = some row)
    (writes : access.writes user (entry row).1) :
    Step access (table.entries entry) (.removed user wanted)
      ((table.delete fun row => key row = wanted).entries entry) := by
  refine ⟨(entry row).1, (entry row).2, by simp [entries, found], writes, ?_⟩
  funext other
  simp only [entries, find?_delete, Function.update_apply]
  split
  · rename_i same
    rw [same, found]
    simp [key_of_find? found]
  · rename_i different
    cases foundOther : table.find? other with
    | none =>
        rfl
    | some otherRow =>
        simp [key_of_find? foundOther, different]

/-- Deleting the rows that a user may change erases them. -/
theorem step_erase
    {user : User}
    {selected : Row → Bool}
    (mine : ∀ row, selected row = true ↔ access.writes user (entry row).1) :
    Step access (table.entries entry) (.erased user)
      ((table.delete selected).entries entry) := by
  intro wanted shown
  simp only [entries, find?_delete, Option.map_eq_some_iff,
    Option.filter_eq_some_iff, Bool.not_eq_true', ← Bool.not_eq_true, mine]
  constructor
  · rintro ⟨row, ⟨found, spared⟩, rfl⟩
    exact ⟨⟨row, found, rfl⟩, spared⟩
  · rintro ⟨⟨row, found, rfl⟩, spared⟩
    exact ⟨row, ⟨found, spared⟩, rfl⟩

/-- Listing the rows that a user may read lists their entries. -/
theorem step_list
    {user : User}
    {selected : Row → Bool}
    {rows : List Row}
    (mine : ∀ row, selected row = true ↔ access.reads user (entry row).1)
    (sorted : rows.Perm (table.rows.filter selected)) :
    Step access (table.entries entry)
      (.listed user (rows.map fun row => (key row, (entry row).2)))
      (table.entries entry) := by
  refine ⟨?_, ?_, rfl⟩
  · have distinct : ((table.rows.filter selected).map key).Nodup :=
      table.distinct.sublist (List.filter_sublist.map key)
    rw [List.map_map]
    exact ((sorted.map key).nodup_iff).mpr distinct
  · intro wanted value
    simp only [entries, List.mem_map, Prod.mk.injEq, sorted.mem_iff,
      List.mem_filter, mine, Option.map_eq_some_iff, find?_eq_some_iff]
    constructor
    · rintro ⟨row, ⟨member, reads⟩, isKey, isValue⟩
      exact ⟨(entry row).1, ⟨row, ⟨member, isKey⟩, by rw [← isValue]⟩, reads⟩
    · rintro ⟨owner, ⟨row, ⟨member, isKey⟩, same⟩, reads⟩
      exact ⟨row, ⟨member, by rw [same]; exact reads⟩, isKey, by rw [same]⟩

end Table

end Passwd
