import Passwd.OnlineShares

namespace Passwd.Client

open Base64 Json Crypto Interaction Server VaultItem

/-!
# What a later listing of shares shows

A device that lists what was shared with its account, after another one was told
that an item is shared or that a share is removed, is shown the item or is not
shown it any more.
-/

section Runs

variable {crypto : Primitives} {rsa : KeyWrapping} {holders : String → Holder}
  {env : Environment} {backend : Backend} {state : State}
  {work : Nat → Work ShareAction}
  {allowed : Sharing → Nat → SystemChoice → Prop} {middle final : Sharing}

/-- A call that spares an account, or is no call to the server. -/
def sparesAccount (id : String) (exchange : Exchange systemCalls) : Bool :=
  match exchange.operation with
  | .inl _ => true
  | .inr operation => operation.sparesAccount id

/-- All lookups of an identifier find its account while that is spared. -/
theorem found_of_reaches
    {identifierHash id publicKey : String}
    (reaches :
      Configuration.Reaches (executeSystem backend) allowed
        (sharing crypto rsa env state work) final)
    (named :
      identified state.store.users identifierHash = some (id, publicKey))
    (spared :
      ∀ event ∈ final.trace, sparesAccount id event.exchange = true)
    {process : Nat}
    {u : User}
    (lookup :
      foundUser identifierHash u ∈
        servedCalls (final.trace.ofProcess process)) :
    u.id = id ∧ u.publicKey = publicKey := by
  have lookups := reaches.invariant
    (fun configuration =>
      (∀ event ∈ configuration.trace,
          sparesAccount id event.exchange = true) →
        identified configuration.state.store.users identifierHash =
            some (id, publicKey) ∧
          ∀ event ∈ configuration.trace, ∀ u,
            Program.secondExchange? deviceCalls event.exchange =
                some (foundUser identifierHash u) →
              u.id = id ∧ u.publicKey = publicKey)
    (fun _ => ⟨named, by simp [sharing, Configuration.initial]⟩) ?_ spared
  · obtain ⟨exchange, made, isLookup⟩ := List.mem_filterMap.mp lookup
    exact lookups.2 _ (Trace.mem_ofProcess.mp made) u isLookup
  · intro configuration moved operation next choice _ holds _ _ allSpared
    have before := holds fun event member =>
      allSpared event (List.mem_append_left _ member)
    have spares := allSpared _ (List.mem_append_right _ List.mem_cons_self)
    refine ⟨?_, ?_⟩
    · cases operation with
      | inl operation =>
          cases operation with
          | randomBytes n => exact before.1
          | generateKey => exact before.1
      | inr operation => exact identified_execute spares before.1
    · intro event member u isLookup
      rcases List.mem_append.mp member with old | new
      · exact before.2 event old u isLookup
      · cases List.mem_singleton.mp new
        cases operation with
        | inl operation => cases isLookup
        | inr operation =>
            obtain ⟨rfl, answered⟩ :=
              Exchange.mk.inj (Option.some.inj isLookup)
            have leads := @identified_of_lookup backend _ _ _ _
              (eq_of_heq answered)
            rw [before.1] at leads
            cases leads
            exact ⟨rfl, rfl⟩

/-- The listing of a device that began to list after a moment of the run. -/
theorem exists_later_sharedListing
    (authenticated : crypto.Authenticated)
    {reader : Nat}
    {userID : String}
    {s : Session}
    {shown : List Members}
    (sharesItems : ∀ process, (work process).SharesItems crypto holders)
    (reaches :
      Configuration.Reaches (executeSystem backend) allowed
        (sharing crypto rsa env state work) middle)
    (continues :
      Configuration.Reaches (executeSystem backend) allowed middle final)
    (reads : work reader = .device userID s .listShared)
    (notBegun : middle.trace.ofProcess reader = [])
    (listed : (final.pool reader).outcome? = some (.device (.listed shown))) :
    ∃ (entries : List (String × Option Members))
        (between rest : List (Nat × ShareEvent (Option Members))),
      shown = entries.filterMap shownShare ∧
        final.trace.observed (systemShareEvent? crypto rsa holders) =
          middle.trace.observed (systemShareEvent? crypto rsa holders) ++
            (between ++ (reader, .listed userID entries) :: rest) := by
  have fitsReader :=
    fitsShares_of_reaches authenticated sharesItems (reaches.trans continues)
      listed
  rw [reads] at fitsReader
  obtain ⟨entries, isListing, isShown⟩ := fitsReader
  obtain ⟨later, extended⟩ := continues.exists_trace
  have noneYet :
      eventsOf reader
        (middle.trace.observed (systemShareEvent? crypto rsa holders)) =
          [] := by
    rw [Trace.eventsOf_observed, notBegun]
    rfl
  rw [extended, Trace.observed_append, eventsOf_append, noneYet,
    List.nil_append] at isListing
  obtain ⟨between, rest, split⟩ := exists_split_of_eventsOf isListing
  refine ⟨entries, between, rest, isShown, ?_⟩
  rw [extended, Trace.observed_append, split]

/--
An item that was shared under an identifier is listed for the account behind it,
and for nobody else, once the sender was told so.  It does not matter what other
accounts do, as long as neither of the two deletes the share or itself.
-/
theorem shared_item_arrives
    (authenticated : crypto.Authenticated)
    {sender reader : Nat}
    {userID readerID identifier recipientID publicKey : String}
    {s other : Session}
    {fields : Members}
    {items : List Members}
    (sharesItems : ∀ process, (work process).SharesItems crypto holders)
    (named :
      identified state.store.users (env.blindIdentifier identifier) =
        some (recipientID, publicKey))
    (sound : (holders recipientID).Sound crypto rsa publicKey)
    (reaches :
      Configuration.Reaches (executeSystem backend) allowed
        (sharing crypto rsa env state work) middle)
    (continues :
      Configuration.Reaches (executeSystem backend) allowed middle final)
    (spared :
      ∀ event ∈ middle.trace, sparesAccount recipientID event.exchange = true)
    (shares : work sender = .device userID s (.share identifier fields))
    (shared : (middle.pool sender).outcome? = some (.device .shared))
    (reads : work reader = .device readerID other .listShared)
    (notBegun : middle.trace.ofProcess reader = [])
    (listed : (final.pool reader).outcome? = some (.device (.listed items)))
    (untouched :
      ∀ earlier rest id owner contents,
        final.trace.observed (systemShareEvent? crypto rsa holders) =
            earlier ++ (sender, .created id owner contents) :: rest →
          ∀ later ∈ rest, ¬ later.2.Touches shareAccess id owner) :
    ∃ (id : String) (entries : List (String × Option Members)),
      items = entries.filterMap shownShare ∧
        (entries.map Prod.fst).Nodup ∧
        ∀ contents,
          (id, contents) ∈ entries ↔
            readerID = recipientID ∧ contents = some fields := by
  have fitsSender :=
    fitsShares_of_reaches authenticated sharesItems reaches shared
  rw [shares] at fitsSender
  obtain ⟨id, looked, found, contents, lookup, second, isEvent, reading⟩ :=
    fitsSender
  obtain ⟨-, isKey⟩ := found_of_reaches reaches named spared lookup
  obtain ⟨isRecipient, -⟩ := found_of_reaches reaches named spared second
  rw [isRecipient, isKey] at reading
  rw [isRecipient, reading sound] at isEvent
  obtain ⟨earlier, since, splitMiddle⟩ := exists_split_of_eventsOf isEvent
  obtain ⟨entries, between, rest, isShown, splitFinal⟩ :=
    exists_later_sharedListing authenticated sharesItems reaches continues reads
      notBegun listed
  have events :
      final.trace.observed (systemShareEvent? crypto rsa holders) =
        earlier ++ (sender, .created id (userID, recipientID) (some fields)) ::
          ((since ++ between) ++
            (reader, .listed readerID entries) :: rest) := by
    rw [splitFinal, splitMiddle]
    simp
  have left := untouched earlier _ id _ _ events
  have history :=
    @sharesShared_of_reaches crypto rsa holders env _ _ _ _ _
      (reaches.trans continues)
  rw [events] at history
  obtain ⟨now, held, step⟩ := OwnedMap.Shared.listed_untouched history
    fun other member => left other (List.mem_append_left _ member)
  refine ⟨id, entries, isShown, step.1, ?_⟩
  intro contents
  rw [step.2.1, held]
  constructor
  · rintro ⟨owner, same, reads⟩
    cases same
    exact ⟨reads.symm, rfl⟩
  · rintro ⟨rfl, rfl⟩
    exact ⟨_, rfl, rfl⟩

/--
A share that its sender or its recipient was told is removed is listed for
nobody who begins to list later, as long as no other share gets its id.
-/
theorem removed_share_gone
    (authenticated : crypto.Authenticated)
    {remover reader : Nat}
    {userID readerID shareId : String}
    {s other : Session}
    {items : List Members}
    (sharesItems : ∀ process, (work process).SharesItems crypto holders)
    (reaches :
      Configuration.Reaches (executeSystem backend) allowed
        (sharing crypto rsa env state work) middle)
    (continues :
      Configuration.Reaches (executeSystem backend) allowed middle final)
    (removes : work remover = .device userID s (.remove shareId))
    (removed : (middle.pool remover).outcome? = some (.device .removed))
    (reads : work reader = .device readerID other .listShared)
    (notBegun : middle.trace.ofProcess reader = [])
    (listed : (final.pool reader).outcome? = some (.device (.listed items)))
    (notReused :
      ∀ earlier rest,
        final.trace.observed (systemShareEvent? crypto rsa holders) =
            earlier ++ (remover, .removed userID shareId) :: rest →
          ∀ later ∈ rest, ∀ owner contents,
            later.2 ≠ .created shareId owner contents) :
    ∃ entries : List (String × Option Members),
      items = entries.filterMap shownShare ∧
        ∀ contents, (shareId, contents) ∉ entries := by
  have fitsRemover :=
    fitsShares_of_reaches authenticated sharesItems reaches removed
  rw [removes] at fitsRemover
  obtain ⟨earlier, since, splitMiddle⟩ := exists_split_of_eventsOf fitsRemover
  obtain ⟨entries, between, rest, isShown, splitFinal⟩ :=
    exists_later_sharedListing authenticated sharesItems reaches continues reads
      notBegun listed
  have events :
      final.trace.observed (systemShareEvent? crypto rsa holders) =
        earlier ++ (remover, .removed userID shareId) ::
          ((since ++ between) ++
            (reader, .listed readerID entries) :: rest) := by
    rw [splitFinal, splitMiddle]
    simp
  have fresh := notReused earlier _ events
  have history :=
    @sharesShared_of_reaches crypto rsa holders env _ _ _ _ _
      (reaches.trans continues)
  rw [events] at history
  obtain ⟨before, gone, now, ⟨_, _, -, -, rfl⟩, meanwhile, step⟩ :=
    OwnedMap.Shared.exists_between history
  have absent :=
    OwnedMap.Shared.absent meanwhile (Function.update_self shareId none before)
      fun event member => fresh event (List.mem_append_left _ member)
  exact ⟨entries, isShown, OwnedMap.Step.listed_absent step absent⟩

end Runs

/-- It has been listed. -/
def receivedItem : Sharing :=
  sentItem.follow (executeSystem .memory) (moments [1])

/-- What a device was shown, if it listed. -/
def Done.listed? : Done ShareResult → Option (List Members)
  | .device (.listed items) => some items
  | _ => none

/-- A device that listed was shown something. -/
theorem exists_listed
    {result : Option (Done ShareResult)}
    (isListed : (result.bind Done.listed?).isSome = true) :
    ∃ items, result = some (.device (.listed items)) := by
  obtain ⟨items, isItems⟩ := Option.isSome_iff_exists.mp isListed
  obtain ⟨done, rfl, shown⟩ := Option.bind_eq_some_iff.mp isItems
  refine ⟨items, ?_⟩
  unfold Done.listed? at shown
  split at shown
  · cases shown
    rfl
  · cases shown

/-- An event that leaves all shares alone that there were before. -/
def leavesShares : ShareEvent (Option Members) → Bool
  | .created _ _ _ => true
  | .listed _ _ => true
  | _ => false

/-- The account behind the identifier finds the item in its listing. -/
theorem receivedItem_arrived :
    ∃ (items : List Members) (id : String)
        (entries : List (String × Option Members)),
      (receivedItem.pool 1).outcome? = some (.device (.listed items)) ∧
        items = entries.filterMap shownShare ∧
        (id, some blankFields) ∈ entries := by
  obtain ⟨items, listed⟩ :=
    @exists_listed (receivedItem.pool 1).outcome? (by decide +kernel)
  have spared :
      sentItem.trace.all (fun event => sparesAccount "v" event.exchange) =
        true := by
    decide +kernel
  have left :
      (receivedItem.trace.observed
        (systemShareEvent? plainPrimitives plainWrapping
          fun _ => plainHolder)).all (fun event => leavesShares event.2) =
            true := by
    decide +kernel
  have named :
      identified receivingAccount.store.users
          (plainEnvironment.blindIdentifier "b") = some ("v", "AA==") := by
    decide +kernel
  have notBegun : (sentItem.trace.ofProcess 1).isEmpty = true := by
    decide +kernel
  obtain ⟨id, entries, isShown, -, arrives⟩ :=
    @shared_item_arrives plainPrimitives plainWrapping (fun _ => plainHolder)
      plainEnvironment .memory receivingAccount sendAndReceive
      Configuration.anyStep sentItem receivedItem authenticated_plainPrimitives
      0 1 "u" "v" "b" "v" "AA==" _ _ blankFields items
      sendAndReceive_sharesItems named sound_plainHolder (.of_follow _ _)
      (.of_follow _ _) (List.all_eq_true.mp spared) rfl sentItem_shared rfl
      (List.isEmpty_iff.mp notBegun) listed (by
        intro earlier rest id owner contents split later member touches
        have leaves := List.all_eq_true.mp left later
          (split ▸ List.mem_append_right _ (List.mem_cons_of_mem _ member))
        obtain ⟨process, event⟩ := later
        cases event with
        | created _ _ _ => exact touches
        | listed _ _ => exact touches
        | _ => cases leaves)
  exact ⟨items, id, entries, listed, isShown, (arrives _).mpr ⟨rfl, rfl⟩⟩

/-- The creation of a share. -/
def createsShare : ShareEvent (Option Members) → Bool
  | .created _ _ _ => true
  | _ => false

/-- A server that keeps one share. -/
def oneShare : State :=
  { State.empty with
    store := { Store.empty with
      shares := Table.empty.upsert
        { id := "i", ownerUserID := "u", recipientUserID := "v",
          wrappedKey := "w", data := "d", createdAt := 0 } } }

/-- One device removes the share and another one lists what was shared. -/
def removeAndReceive : Nat → Work ShareAction
  | 0 => .device "u" plainSession (.remove "i")
  | _ => .device "v" receivingSession .listShared

/-- The share has been removed, and nobody has listed yet. -/
def removedShare : Sharing :=
  (sharing plainPrimitives plainWrapping plainEnvironment oneShare
    removeAndReceive).follow (executeSystem .memory) (moments [0, 0, 0, 0])

/-- It has been listed what is left. -/
def listedNone : Sharing :=
  removedShare.follow (executeSystem .memory) (moments [1])

/-- The share is not listed any more. -/
theorem listedNone_gone :
    ∃ (items : List Members) (entries : List (String × Option Members)),
      (listedNone.pool 1).outcome? = some (.device (.listed items)) ∧
        items = entries.filterMap shownShare ∧
        ∀ contents, ("i", contents) ∉ entries := by
  have sharesItems (process : Nat) :
      (removeAndReceive process).SharesItems plainPrimitives
        fun _ => plainHolder := by
    cases process with
    | zero => exact trivial
    | succ process => exact ⟨rfl, rfl⟩
  have noneCreated :
      (listedNone.trace.observed
        (systemShareEvent? plainPrimitives plainWrapping
          fun _ => plainHolder)).all (fun event => !createsShare event.2) =
            true := by
    decide +kernel
  obtain ⟨items, listed⟩ :=
    @exists_listed (listedNone.pool 1).outcome? (by decide +kernel)
  obtain ⟨entries, isShown, gone⟩ :=
    @removed_share_gone plainPrimitives plainWrapping (fun _ => plainHolder)
      plainEnvironment .memory oneShare removeAndReceive Configuration.anyStep
      removedShare listedNone authenticated_plainPrimitives 0 1 "u" "v" "i" _ _
      items sharesItems (.of_follow _ _) (.of_follow _ _) rfl rfl rfl rfl
      listed (by
        intro earlier rest split later member owner contents isCreated
        have creates := List.all_eq_true.mp noneCreated later
          (split ▸ List.mem_append_right _ (List.mem_cons_of_mem _ member))
        rw [isCreated] at creates
        cases creates)
  exact ⟨items, entries, listed, isShown, gone⟩

end Passwd.Client
