import Passwd.OnlineVault

namespace Passwd.Client

open Base64 Json Crypto Interaction Server VaultItem

/-!
# What a later load shows

Devices see each other's work.  A device that loads its vault after another one
was told that a write is done is shown what the write left, and after an import
it is shown what was there before and the items that were added.
-/

section Runs

variable {crypto : Primitives} {keys : String → Bytes} {env : Environment}
  {backend : Backend} {state : State} {work : Nat → Work VaultAction}
  {allowed : Working → Nat → SystemChoice → Prop} {middle final : Working}

/-!
## Reading what was written last
-/

/-- The item that a finished action wrote, and what it left of it. -/
def VaultAction.left : VaultAction → VaultResult → Option (String × Option Members)
  | .add fields, .added id => some (id, some fields)
  | .save id fields, .saved => some (id, some fields)
  | .remove id, .removed => some (id, none)
  | _, _ => none

/-- The event of a finished write, and what it leaves under its id. -/
theorem exists_written
    {userID id : String}
    {action : VaultAction}
    {result : VaultResult}
    {fields : Option Members}
    {events : List (VaultEvent (Option Members))}
    (fits : action.Fits userID result events)
    (wrote : action.left result = some (id, fields)) :
    ∃ event,
      events = [event] ∧
        ∀ before after : OwnedMap String String (Option Members),
          OwnedMap.Step vaultAccess before event after →
            after id = fields.map fun fields => (userID, some fields) := by
  cases action <;> cases result <;> cases wrote
  · refine ⟨_, fits, ?_⟩
    rintro before after ⟨-, rfl⟩
    exact Function.update_self _ _ _
  · refine ⟨_, fits, ?_⟩
    rintro before after ⟨owner, old, -, isOwner, rfl⟩
    have same : owner = userID := isOwner
    subst same
    exact Function.update_self _ _ _
  · refine ⟨_, fits, ?_⟩
    rintro before after ⟨owner, old, -, -, rfl⟩
    exact Function.update_self _ _ _

/-- The listing of a device that began to load after a moment of the run. -/
theorem exists_later_listing
    (authenticated : crypto.Authenticated)
    {reader : Nat}
    {userID : String}
    {s : Session}
    {shown : List Members}
    (legitimate : ∀ process, (work process).Legitimate crypto keys)
    (reaches :
      Configuration.Reaches (executeSystem backend) allowed
        (working crypto env state work) middle)
    (continues :
      Configuration.Reaches (executeSystem backend) allowed middle final)
    (reads : work reader = .device userID s .load)
    (notBegun : middle.trace.ofProcess reader = [])
    (loaded : (final.pool reader).outcome? = some (.device (.loaded shown))) :
    ∃ (entries : List (String × Option Members))
        (between rest : List (Nat × VaultEvent (Option Members))),
      shown = entries.filterMap shownItem ∧
        final.trace.observed (systemEvent? crypto keys) =
          middle.trace.observed (systemEvent? crypto keys) ++
            (between ++ (reader, .listed userID entries) :: rest) := by
  have fitsReader :=
    fits_of_reaches authenticated legitimate (reaches.trans continues) loaded
  rw [reads] at fitsReader
  obtain ⟨entries, isListing, isShown⟩ := fitsReader
  obtain ⟨later, extended⟩ := continues.exists_trace
  have noneYet :
      eventsOf reader (middle.trace.observed (systemEvent? crypto keys)) =
        [] := by
    rw [Trace.eventsOf_observed, notBegun]
    rfl
  rw [extended, Trace.observed_append, eventsOf_append, noneYet,
    List.nil_append] at isListing
  obtain ⟨between, rest, split⟩ := exists_split_of_eventsOf isListing
  refine ⟨entries, between, rest, isShown, ?_⟩
  rw [extended, Trace.observed_append, split]

/--
A device that loads after another one was told that its write is done is shown
what that write left, as long as nobody wrote to the item since.
-/
theorem load_shows_lastWrite
    (authenticated : crypto.Authenticated)
    {writer reader : Nat}
    {userID id : String}
    {s other : Session}
    {action : VaultAction}
    {result : VaultResult}
    {fields : Option Members}
    {items : List Members}
    (legitimate : ∀ process, (work process).Legitimate crypto keys)
    (reaches :
      Configuration.Reaches (executeSystem backend) allowed
        (working crypto env state work) middle)
    (continues :
      Configuration.Reaches (executeSystem backend) allowed middle final)
    (writes : work writer = .device userID s action)
    (written : (middle.pool writer).outcome? = some (.device result))
    (wrote : action.left result = some (id, fields))
    (reads : work reader = .device userID other .load)
    (notBegun : middle.trace.ofProcess reader = [])
    (loaded : (final.pool reader).outcome? = some (.device (.loaded items)))
    (undisturbed :
      ∀ earlier rest event,
        final.trace.observed (systemEvent? crypto keys) =
            earlier ++ (writer, event) :: rest →
          ∀ later ∈ rest, later.2.Spares vaultAccess id userID) :
    ∃ entries : List (String × Option Members),
      items = entries.filterMap shownItem ∧
        (entries.map Prod.fst).Nodup ∧
        ∀ contents,
          (id, contents) ∈ entries ↔
            ∃ saved, fields = some saved ∧ contents = some saved := by
  have shared :=
    @shared_of_reaches crypto keys env _ _ _ _ _ (reaches.trans continues)
  have fitsWriter := fits_of_reaches authenticated legitimate reaches written
  rw [writes] at fitsWriter
  obtain ⟨event, isEvent, leaves⟩ := exists_written fitsWriter wrote
  obtain ⟨earlier, since, splitMiddle⟩ := exists_split_of_eventsOf isEvent
  obtain ⟨entries, between, rest, isShown, splitFinal⟩ :=
    exists_later_listing authenticated legitimate reaches continues reads
      notBegun loaded
  have events :
      final.trace.observed (systemEvent? crypto keys) =
        earlier ++ (writer, event) ::
          ((since ++ between) ++ (reader, .listed userID entries) :: rest) := by
    rw [splitFinal, splitMiddle]
    simp
  have spares := undisturbed earlier _ event events
  rw [events] at shared
  obtain ⟨now, found, step⟩ := OwnedMap.Shared.listed_kept shared
    (fun other member => spares other (List.mem_append_left _ member)) leaves
    (by
      intro held isHeld
      obtain ⟨saved, -, isEntry⟩ := Option.map_eq_some_iff.mp isHeld
      rw [← isEntry])
  refine ⟨entries, isShown, step.1, ?_⟩
  intro contents
  cases fields with
  | none =>
      simpa using OwnedMap.Step.listed_absent step found contents
  | some saved =>
      simpa using OwnedMap.Step.listed_entry step found rfl contents

/-!
## Reading what was imported
-/

/--
A listing of what an account had before and of the items that got an id, each
once and under an id of its own that nothing had before.
-/
structure ListsAdded
    (userID : String)
    (before : OwnedMap String String (Option Members))
    (ids : List (Option String))
    (items : List Members)
    (entries : List (String × Option Members)) :
    Prop where
  distinct : ids.reduceOption.Nodup
  fresh :
    ∀ id, some id ∈ ids → ∀ contents,
      ¬ OwnedMap.Readable vaultAccess userID before id contents
  keys : (entries.map Prod.fst).Nodup
  entries :
    ∀ id contents,
      (id, contents) ∈ entries ↔
        OwnedMap.Readable vaultAccess userID before id contents ∨
          ∃ fields,
            (some id, fields) ∈ ids.zip items ∧ contents = some fields

section Added

variable {importer : Nat} {userID : String} {ids : List (Option String)}
  {items : List Members} {events : List (Nat × VaultEvent (Option Members))}

/-- The ids of added items are distinct when their creations are. -/
theorem nodup_of_addedEvents
    (sameLength : ids.length = items.length)
    (apart :
      ((ids.zip items).filterMap (addedEvent userID)).Pairwise
        fun first second =>
          ∀ key, first.Creates vaultAccess userID key →
            ¬ second.Creates vaultAccess userID key) :
    ids.reduceOption.Nodup := by
  have zipped :
      ids.reduceOption = (ids.zip items).filterMap Prod.fst := by
    have fsts := List.map_fst_zip (Nat.le_of_eq sameLength)
    change ids.filterMap id = _
    rw [← fsts, List.filterMap_map, fsts]
    rfl
  rw [zipped, List.Nodup, List.pairwise_filterMap]
  refine (List.pairwise_filterMap.mp apart).imp ?_
  intro first second differ id isFirst other isSecond same
  subst same
  have added :
      ∀ item : Option String × Members,
        item.1 = some id →
          addedEvent userID item = some (.created id userID (some item.2)) := by
    intro item isItem
    rw [addedEvent, isItem]
    rfl
  exact differ _ (added first isFirst) _ (added second isSecond) id
    ⟨rfl, rfl⟩ ⟨rfl, rfl⟩

/-- What an importer does to the vault is to add its items. -/
theorem mem_events_iff
    (adds :
      eventsOf importer events =
        (ids.zip items).filterMap (addedEvent userID))
    (event : VaultEvent (Option Members)) :
    (importer, event) ∈ events ↔
      ∃ id fields,
        (some id, fields) ∈ ids.zip items ∧
          event = .created id userID (some fields) := by
  rw [← mem_eventsOf, adds, List.mem_filterMap]
  constructor
  · rintro ⟨⟨id?, fields⟩, inZip, added⟩
    obtain ⟨id, isID, isEvent⟩ := Option.map_eq_some_iff.mp added
    dsimp only at isID
    subst isID
    exact ⟨id, fields, inZip, isEvent.symm⟩
  · rintro ⟨id, fields, inZip, rfl⟩
    exact ⟨_, inZip, rfl⟩

/-- A listing at the end of a history in which only the importer writes. -/
theorem listsAdded_of_shared
    {before now listed : OwnedMap String String (Option Members)}
    {entries : List (String × Option Members)}
    (sameLength : ids.length = items.length)
    (adds :
      eventsOf importer events =
        (ids.zip items).filterMap (addedEvent userID))
    (alone :
      ∀ event ∈ events, event.2.Concerns vaultAccess userID →
        event.1 = importer)
    (shared : OwnedMap.Shared vaultAccess before events now)
    (step : OwnedMap.Step vaultAccess now (.listed userID entries) listed) :
    ListsAdded userID before ids items entries := by
  have isAdded :
      ∀ process event,
        (process, event) ∈ events → event.Concerns vaultAccess userID →
          ∃ id fields,
            (some id, fields) ∈ ids.zip items ∧
              event = .created id userID (some fields) := by
    intro process event member concerns
    have isImporter : process = importer := alone _ member concerns
    subst isImporter
    exact (mem_events_iff adds event).mp member
  have creates :
      ∀ event ∈ events, event.2.Concerns vaultAccess userID →
        ∃ key owner value, event.2 = .created key owner value := by
    rintro ⟨process, event⟩ member concerns
    obtain ⟨id, fields, -, same⟩ := isAdded process event member concerns
    exact ⟨id, userID, some fields, same⟩
  obtain ⟨apart, fresh⟩ := OwnedMap.Shared.creates_fresh shared creates
  constructor
  · apply @nodup_of_addedEvents userID _ _ sameLength
    rw [← adds]
    refine apart.filterMap _ ?_
    intro first second differ event isFirst other isSecond
    cases (Option.ite_none_right_eq_some.mp isFirst).2
    cases (Option.ite_none_right_eq_some.mp isSecond).2
    exact differ
  · intro id member
    have fsts := List.map_fst_zip (Nat.le_of_eq sameLength)
    rw [← fsts] at member
    obtain ⟨⟨id?, fields⟩, inZip, isID⟩ := List.mem_map.mp member
    dsimp only at isID
    subst isID
    have isEvent := (mem_events_iff adds _).mpr ⟨id, _, inZip, rfl⟩
    exact fresh _ isEvent id ⟨rfl, rfl⟩
  · exact step.1
  · intro id contents
    have listedIff :
        (id, contents) ∈ entries ↔
          OwnedMap.Readable vaultAccess userID now id contents :=
      step.2.1 id contents
    rw [listedIff, OwnedMap.Shared.readable shared creates]
    refine or_congr_right ⟨?_, ?_⟩
    · rintro ⟨process, owner, member, reads⟩
      obtain ⟨added, fields, inZip, same⟩ := isAdded _ _ member reads
      cases same
      exact ⟨fields, inZip, rfl⟩
    · rintro ⟨fields, inZip, rfl⟩
      exact ⟨importer, userID,
        (mem_events_iff adds _).mpr ⟨id, fields, inZip, rfl⟩, rfl⟩

/-- When nothing got an id, the listing is what the account had before. -/
theorem ListsAdded.mem_of_noneAdded
    {before : OwnedMap String String (Option Members)}
    {entries : List (String × Option Members)}
    (lists : ListsAdded userID before ids items entries)
    (noneAdded : ids.countP Option.isSome = 0)
    (id : String)
    (contents : Option Members) :
    (id, contents) ∈ entries ↔
      OwnedMap.Readable vaultAccess userID before id contents := by
  rw [lists.entries]
  constructor
  · rintro (was | ⟨fields, added, -⟩)
    · exact was
    · have isSome := List.countP_eq_zero.mp noneAdded _ (List.of_mem_zip added).1
      exact absurd rfl isSome
  · exact Or.inl

end Added

/-- What a later listing of the account holds after an import. -/
theorem listing_after_import
    (authenticated : crypto.Authenticated)
    {importer reader : Nat}
    {userID : String}
    {s other : Session}
    {items shown : List Members}
    {imported : Imported}
    (legitimate : ∀ process, (work process).Legitimate crypto keys)
    (reaches :
      Configuration.Reaches (executeSystem backend) allowed
        (working crypto env state work) middle)
    (continues :
      Configuration.Reaches (executeSystem backend) allowed middle final)
    (imports : work importer = .device userID s (.importAll items))
    (done :
      (middle.pool importer).outcome? = some (.device (.imported imported)))
    (reads : work reader = .device userID other .load)
    (notBegun : middle.trace.ofProcess reader = [])
    (loaded : (final.pool reader).outcome? = some (.device (.loaded shown)))
    (alone :
      ∀ event ∈ final.trace.observed (systemEvent? crypto keys),
        event.2.Concerns vaultAccess userID → event.1 = importer) :
    ∃ (ids : List (Option String)) (entries : List (String × Option Members)),
      ids.length = items.length ∧ imported = .ofIds ids ∧
        shown = entries.filterMap shownItem ∧
        ListsAdded userID (state.vault (itemContents crypto keys)) ids items
          entries := by
  have shared :=
    @shared_of_reaches crypto keys env _ _ _ _ _ (reaches.trans continues)
  have fitsImport := fits_of_reaches authenticated legitimate reaches done
  rw [imports] at fitsImport
  obtain ⟨ids, sameLength, isImported, adds⟩ := fitsImport
  obtain ⟨entries, between, rest, isShown, splitFinal⟩ :=
    exists_later_listing authenticated legitimate reaches continues reads
      notBegun loaded
  have noMore : eventsOf importer between = [] := by
    have stays :=
      (continues.done_stays (Program.eq_done_of_outcome? done)).2
    have same := congrArg
      (fun history => history.filterMap (systemEvent? crypto keys)) stays
    simp only [← Trace.eventsOf_observed, splitFinal, eventsOf_append] at same
    exact (List.append_eq_nil_iff.mp (List.append_right_eq_self.mp same)).1
  have imported :
      eventsOf importer
          (middle.trace.observed (systemEvent? crypto keys) ++ between) =
        (ids.zip items).filterMap (addedEvent userID) := by
    rw [eventsOf_append, adds, noMore, List.append_nil]
  rw [splitFinal, ← List.append_assoc] at alone
  rw [splitFinal, ← List.append_assoc, List.append_cons] at shared
  obtain ⟨listed, untilListed, -⟩ := Plays.split shared
  obtain ⟨now, untilNow, step⟩ := Plays.of_concat untilListed
  refine ⟨ids, entries, sameLength, isImported, isShown, ?_⟩
  exact listsAdded_of_shared sameLength imported
    (fun event member => alone event (List.mem_append_left _ member)) untilNow
    step

end Runs

/-- The other device has loaded. -/
def loadedAfterwards : Working :=
  removedItem.follow (executeSystem .memory) (moments [1])

/-- Nothing but the listing comes after the removal. -/
theorem loadedAfterwards_undisturbed
    (earlier rest : List (Nat × VaultEvent (Option Members)))
    (event : VaultEvent (Option Members))
    (same :
      loadedAfterwards.trace.observed
          (systemEvent? plainPrimitives fun _ => []) =
        earlier ++ (0, event) :: rest) :
    ∀ later ∈ rest, later.2.Spares vaultAccess "i" "u" := by
  have observed :
      ∃ entries,
        loadedAfterwards.trace.observed
            (systemEvent? plainPrimitives fun _ => []) =
          [(0, .removed "u" "i"), (1, .listed "u" entries)] :=
    ⟨_, rfl⟩
  obtain ⟨entries, observed⟩ := observed
  rw [observed] at same
  cases earlier with
  | nil =>
      cases same
      intro later member
      cases List.mem_singleton.mp member
      trivial
  | cons first earlier =>
      cases earlier with
      | nil => cases same
      | cons second earlier =>
          have lengths := congrArg List.length same
          simp at lengths

/-- The removed item is not shown to the device that loads afterwards. -/
theorem removeAndLoad_shown :
    ∃ (items : List Members) (entries : List (String × Option Members)),
      (loadedAfterwards.pool 1).outcome? = some (.device (.loaded items)) ∧
        items = entries.filterMap shownItem ∧
        ∀ contents, ("i", contents) ∉ entries := by
  have shown :=
    @load_shows_lastWrite plainPrimitives (fun _ => []) plainEnvironment
      .memory oneItem removeAndLoad Configuration.anyStep removedItem
      loadedAfterwards authenticated_plainPrimitives 0 1 "u" "i"
      plainSession plainSession (.remove "i") .removed none _
      removeAndLoad_legitimate (.of_follow _ _) (.of_follow _ _) rfl rfl rfl
      rfl rfl rfl loadedAfterwards_undisturbed
  obtain ⟨entries, isShown, -, left⟩ := shown
  refine ⟨_, entries, rfl, isShown, ?_⟩
  intro contents member
  obtain ⟨saved, isSaved, -⟩ := (left contents).mp member
  cases isSaved

/-- Primitives whose encryption takes keys of 256 bits only. -/
def strictPrimitives : Primitives :=
  { plainPrimitives with
    aesGcmEncrypt := fun key nonce plaintext =>
      if key.length = 32 then
        plainPrimitives.aesGcmEncrypt key nonce plaintext
      else
        none }

/-- Their decryption inverts what they encrypt. -/
theorem authenticated_strictPrimitives : strictPrimitives.Authenticated := by
  intro key nonce plaintext data encrypted
  exact authenticated_plainPrimitives key nonce plaintext data
    (Option.ite_none_right_eq_some.mp encrypted).2

/-- One device imports an item and another one loads the vault. -/
def importAndLoad : Nat → Work VaultAction
  | 0 => .device "u" plainSession (.importAll [blankFields])
  | _ => .device "u" plainSession .load

/-- The item could not be encrypted, since the session's key is too short. -/
def importedNothing : Working :=
  (working strictPrimitives plainEnvironment oneItem importAndLoad).follow
    (executeSystem .memory) (moments [0, 0, 0])

/-- The other device has loaded. -/
def loadedUnchanged : Working :=
  importedNothing.follow (executeSystem .memory) (moments [1])

end Passwd.Client
