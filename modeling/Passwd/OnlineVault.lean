import Passwd.DeviceSystem
import Passwd.ItemNormalization
import Passwd.VaultHistory

namespace Passwd.Client

open Base64 Json Crypto Interaction Server VaultItem

/-!
# Devices that share an online vault

Any number of devices, each signed in to an account, load, add, save and remove
items while the server serves every other request.  Everything that an account
stores is encrypted under its User Key.

What the devices see is a map from ids to items for each account.  The contents
of an entry are the item that its ciphertext decrypts, parses and normalizes to.
-/

/-!
## The remaining operations of the vault
-/

/-- `removeItem` -/
def removeItem (userID id : String) : Client (Option Unit) := do
  let deleted ← call (.deleteCipher userID id)
  return deleted.map fun _ => ()

/-- A synchronized item without its times, which no listing reads. -/
def cipherDto (stored : String × String) : VaultListing.CipherDto where
  id := stored.1
  data := stored.2
  createdAt := ""
  updatedAt := ""

variable (crypto : Primitives)

/-- `loadVault` -/
def loadVault (userID : String) (s : Session) : Client (Option (List Members)) := do
  let stored ← sync userID
  return stored.map fun stored =>
    VaultListing.loadVault crypto.numberText
      (decryptItemKeyed crypto s.userKey) (stored.map cipherDto)

/-- What an import comes to, and the calls of its `onProgress`. -/
structure Imported where
  added : Nat
  failed : Nat
  progress : List (Nat × Nat)
deriving DecidableEq

/-- The iterations of `importItems` from one index on. -/
def importFrom (userID : String) (s : Session) (total : Nat) :
    List Members → Nat → Imported → Client Imported
  | [], _, imported => return imported
  | fields :: rest, i, imported => do
      let added ← addItem crypto userID s fields
      let progress := imported.progress ++ [(i + 1, total)]
      match added with
      | some _ =>
          importFrom userID s total rest (i + 1)
            { imported with
              added := imported.added + 1
              progress := progress }
      | none =>
          importFrom userID s total rest (i + 1)
            { imported with
              failed := imported.failed + 1
              progress := progress }

/-- `importItems` -/
def importItems (userID : String) (s : Session) (items : List Members) :
    Client Imported :=
  importFrom crypto userID s items.length items 0
    { added := 0, failed := 0, progress := [] }

/-!
## Actions
-/

/-- What a device does with its vault. -/
inductive VaultAction where
  | load
  | add (fields : Members)
  | save (id : String) (fields : Members)
  | remove (id : String)
  | importAll (items : List Members)

/-- What comes of it; every exception is a failure. -/
inductive VaultResult where
  | loaded (items : List Members)
  | added (id : String)
  | saved
  | removed
  | imported (imported : Imported)
  | failed

/-- The program of an action. -/
def VaultAction.run (userID : String) (s : Session) :
    VaultAction → Client VaultResult
  | .load => do
      let items ← loadVault crypto userID s
      return (items.map .loaded).getD .failed
  | .add fields => do
      let id ← addItem crypto userID s fields
      return (id.map .added).getD .failed
  | .save id fields => do
      let saved ← saveItem crypto userID s id fields
      return (saved.map fun _ => .saved).getD .failed
  | .remove id => do
      let removed ← removeItem userID id
      return (removed.map fun _ => .removed).getD .failed
  | .importAll items => do
      let imported ← importItems crypto userID s items
      return .imported imported

/-- A system in the middle of its work. -/
abbrev Working := Configuration systemCalls State (Done VaultResult)

/-- A system that has not begun. -/
def working
    (env : Environment)
    (state : State)
    (work : Nat → Work VaultAction) :
    Working :=
  .initial state fun process =>
    (work process).program (fun userID s action => action.run crypto userID s)
      env

/-!
## What the devices see
-/

/-- The item that an account's key finds in a ciphertext. -/
def itemContents (keys : String → Bytes) (userID data : String) :
    Option Members :=
  ((decryptItemKeyed crypto (keys userID) data).bind Json.read).bind
    (normalizeItemFields crypto.numberText)

/-- An entry as a listing shows it. -/
def shownItem (entry : String × Option Members) : Option Members :=
  entry.2.map (assignAll [("id", .string entry.1)])

/-- The event of the vault that a call of the system is. -/
def systemEvent? (keys : String → Bytes) :
    Exchange systemCalls → Option (VaultEvent (Option Members)) :=
  observeSystem (vaultEvent? (itemContents crypto keys))

/-- The event of an item that was added, if it was. -/
def addedEvent (userID : String) (item : Option String × Members) :
    Option (VaultEvent (Option Members)) :=
  item.1.map fun id => .created id userID (some item.2)

/-- What an import comes to whose items got the given ids, or none. -/
def Imported.ofIds (ids : List (Option String)) : Imported where
  added := ids.countP Option.isSome
  failed := ids.countP Option.isNone
  progress := (List.range' 1 ids.length).map fun done => (done, ids.length)

/-- The events that fit the result of an action. -/
def VaultAction.Fits (userID : String) :
    VaultAction → VaultResult → List (VaultEvent (Option Members)) → Prop
  | .load, .loaded items, events =>
      ∃ entries,
        events = [.listed userID entries] ∧ items = entries.filterMap shownItem
  | .add fields, .added id, events => events = [.created id userID (some fields)]
  | .save id fields, .saved, events =>
      events = [.replaced userID id (some fields)]
  | .remove id, .removed, events => events = [.removed userID id]
  | .importAll items, .imported imported, events =>
      ∃ ids : List (Option String),
        ids.length = items.length ∧ imported = .ofIds ids ∧
          events = (ids.zip items).filterMap (addedEvent userID)
  | _, .failed, events => events = []
  | _, _, _ => False

/-- The events that fit what a process ended with. -/
def Work.Fits (keys : String → Bytes) :
    Work VaultAction → Done VaultResult →
      List (VaultEvent (Option Members)) → Prop
  | .device userID _ action, .device result, events =>
      action.Fits userID result events
  | .other request, .response response, events =>
      events = vaultEvents (itemContents crypto keys) request response
  | _, _, _ => False

/-- An item as the client keeps it: complete, and with finite numbers only. -/
structure IsItem (fields : Members) : Prop where
  settled : Settled fields
  wellFormed : WellFormed (.object fields)
  finite : Finite crypto.numberText (.object fields)

/-- A device holds its account's key and stores items only. -/
def Work.Legitimate (keys : String → Bytes) : Work VaultAction → Prop
  | .device userID s action =>
      s.userKey = keys userID ∧
        match action with
        | .add fields => IsItem crypto fields
        | .save _ fields => IsItem crypto fields
        | .importAll items => ∀ fields ∈ items, IsItem crypto fields
        | _ => True
  | .other _ => True

section Runs

variable {crypto} {keys : String → Bytes} {env : Environment}

/-!
## Actions over the requests of a client
-/

/-- The events of the vault that a client's exchange stands for. -/
def clientEvents (crypto : Primitives) (keys : String → Bytes) :
    Exchange clientCalls → List (VaultEvent (Option Members))
  | ⟨.fetch request, response⟩ =>
      vaultEvents (itemContents crypto keys) request response
  | _ => []

/-- What an item's ciphertext is read back as. -/
theorem itemContents_of_encrypt
    (authenticated : crypto.Authenticated)
    {userID data : String}
    {fields : Members}
    {key dataNonce keyNonce : Bytes}
    (isItem : IsItem crypto fields)
    (hasDataNonce : dataNonce.length = 12)
    (hasKeyNonce : keyNonce.length = 12)
    (encrypted :
      encryptItemKeyed crypto (keys userID) (stringify (.object fields)) key
        dataNonce keyNonce = some data) :
    itemContents crypto keys userID data = some fields := by
  have decrypted := decryptItemKeyed_of_encryptItemKeyed authenticated
    (stringify_object_unmarked fields)
    (List.ne_nil_of_length_eq_add_one hasDataNonce)
    (List.ne_nil_of_length_eq_add_one hasKeyNonce) encrypted
  have parsed :
      Json.read (stringify (.object fields)) = some (.object fields) :=
    read_write stringifyEscapes isItem.wellFormed
  rw [itemContents, decrypted, Option.bind_some, parsed, Option.bind_some]
  exact normalizeItemFields_of_settled isItem.settled

/-- A program that ends with a result fitting the events of its requests. -/
abbrev Acts
    (crypto : Primitives)
    (keys : String → Bytes)
    (userID : String)
    (action : VaultAction) :
    Client VaultResult → Prop :=
  Program.Obeys (fun _ _ => True)
    (fun history result =>
      Drawn history →
        action.Fits userID result (history.flatMap (clientEvents crypto keys)))
    []

/-- What a listing shows of synchronized items. -/
theorem loadVault_eq
    {userID : String}
    (ciphers : List (String × String × Time × Time)) :
    VaultListing.loadVault crypto.numberText
        (decryptItemKeyed crypto (keys userID))
        ((ciphers.map fun c => (c.1, c.2.1)).map cipherDto) =
      (ciphers.map fun c =>
        (c.1, itemContents crypto keys userID c.2.1)).filterMap shownItem := by
  rw [VaultListing.loadVault, List.filterMap_map, List.filterMap_map,
    List.filterMap_map]
  exact congrArg (fun shown => ciphers.filterMap shown)
    (funext fun _ => (Option.map_bind ..).symm)

/-- Loading shows what the server lists. -/
theorem acts_load
    {userID : String}
    {s : Session}
    (sameKey : s.userKey = keys userID) :
    Acts crypto keys userID .load (VaultAction.load.run crypto userID s) := by
  simp only [VaultAction.run, loadVault, sync, call, ask_bind,
    Program.perform_bind, Program.pure_eq_done, Program.done_bind, Acts,
    Program.obeys_perform, true_and]
  intro res
  by_cases ok : res.isOk = true
  · simp only [ok, ↓reduceIte]
    cases isBody : res.body with
    | ciphers ciphers =>
        intro _
        refine ⟨ciphers.map fun c =>
          (c.1, itemContents crypto keys userID c.2.1), ?_, ?_⟩
        · simp [clientEvents, vaultEvents, ok, isBody, acceptedEvents]
        · rw [sameKey]
          exact loadVault_eq ciphers
    | _ =>
        intro _
        simp [VaultAction.Fits, clientEvents, vaultEvents, isBody,
          acceptedEvents]
  · simp only [ok]
    intro _
    simp [VaultAction.Fits, clientEvents, vaultEvents, ok]

/-- Encrypting makes no event, and the ciphertext is read back as the item. -/
theorem encryptFields_shows
    (authenticated : crypto.Authenticated)
    {userID : String}
    {s : Session}
    {fields : Members}
    (sameKey : s.userKey = keys userID)
    (isItem : IsItem crypto fields) :
    (encryptFields crypto s fields).Obeys (fun _ _ => True)
      (fun history encrypted =>
        history.flatMap (clientEvents crypto keys) = [] ∧
          ∀ data, encrypted = some data → Drawn history →
            itemContents crypto keys userID data = some fields)
      [] := by
  simp only [encryptFields, ask_bind, Program.pure_eq_done,
    Program.obeys_perform, true_and]
  intro key dataNonce keyNonce
  refine ⟨rfl, ?_⟩
  intro data encrypted drawn
  have hasDataNonce : dataNonce.length = 12 := drawn 12 dataNonce (by simp)
  have hasKeyNonce : keyNonce.length = 12 := drawn 12 keyNonce (by simp)
  exact itemContents_of_encrypt authenticated isItem hasDataNonce hasKeyNonce
    (sameKey ▸ encrypted)

/-- `addItem` creates the item whose id it returns, or makes no event. -/
theorem addItem_shows
    (authenticated : crypto.Authenticated)
    {userID : String}
    {s : Session}
    {fields : Members}
    (sameKey : s.userKey = keys userID)
    (isItem : IsItem crypto fields) :
    (addItem crypto userID s fields).Obeys (fun _ _ => True)
      (fun history id =>
        Drawn history →
          history.flatMap (clientEvents crypto keys) =
            (addedEvent userID (id, fields)).toList) [] := by
  apply Program.obeys_bind.mpr
  refine (encryptFields_shows authenticated sameKey isItem).mono
    (fun _ _ => id) ?_
  rintro history encrypted ⟨unseen, readBack⟩
  cases encrypted with
  | none =>
      intro _
      exact unseen
  | some data =>
      refine ⟨trivial, fun res => ?_⟩
      dsimp only [call, Program.bind_done, Program.pure_eq_done]
      by_cases ok : res.isOk = true
      · simp only [ok, ↓reduceIte]
        cases isBody : res.body with
        | cipher id stored createdAt updatedAt =>
            intro drawn
            simp [addedEvent, unseen, clientEvents, vaultEvents, ok, isBody,
              acceptedEvents, readBack data rfl drawn.parts.1]
        | _ =>
            intro _
            simp [addedEvent, unseen, clientEvents, vaultEvents, isBody,
              acceptedEvents]
      · simp only [ok]
        intro _
        simp [addedEvent, unseen, clientEvents, vaultEvents, ok]

/-- Adding creates the item on the server, or fails without an event. -/
theorem acts_add
    (authenticated : crypto.Authenticated)
    {userID : String}
    {s : Session}
    {fields : Members}
    (sameKey : s.userKey = keys userID)
    (isItem : IsItem crypto fields) :
    Acts crypto keys userID (.add fields)
      ((VaultAction.add fields).run crypto userID s) := by
  apply Program.obeys_bind.mpr
  refine (addItem_shows authenticated sameKey isItem).mono (fun _ _ => id) ?_
  intro history id shows drawn
  cases id with
  | none => exact shows drawn
  | some id => exact shows drawn

/-- An import that has come some way, when the rest gets the given ids. -/
def Imported.continued
    (imported : Imported)
    (total i : Nat)
    (ids : List (Option String)) :
    Imported where
  added := imported.added + ids.countP Option.isSome
  failed := imported.failed + ids.countP Option.isNone
  progress := imported.progress ++
    (List.range' (i + 1) ids.length).map fun done => (done, total)

/-- Every iteration of an import adds its item or counts a failure. -/
theorem importFrom_shows
    (authenticated : crypto.Authenticated)
    {userID : String}
    {s : Session}
    (sameKey : s.userKey = keys userID)
    (total : Nat)
    (items : List Members)
    (areItems : ∀ fields ∈ items, IsItem crypto fields)
    (i : Nat)
    (imported : Imported) :
    (importFrom crypto userID s total items i imported).Obeys (fun _ _ => True)
      (fun history final =>
        Drawn history →
          ∃ ids : List (Option String),
            ids.length = items.length ∧ final = imported.continued total i ids ∧
              history.flatMap (clientEvents crypto keys) =
                (ids.zip items).filterMap (addedEvent userID))
      [] := by
  induction items generalizing i imported with
  | nil =>
      intro _
      exact ⟨[], rfl, by simp [Imported.continued], rfl⟩
  | cons fields rest inductionHypothesis =>
      have continues := inductionHypothesis
        (fun item member => areItems item (List.mem_cons_of_mem _ member))
        (i + 1)
      apply Program.obeys_bind.mpr
      refine (addItem_shows authenticated sameKey
        (areItems fields List.mem_cons_self)).mono (fun _ _ => id) ?_
      intro own id shows
      cases id with
      | none =>
          have later := (continues
            { imported with
              failed := imported.failed + 1
              progress := imported.progress ++ [(i + 1, total)] }).after own
          rw [List.append_nil] at later
          refine later.mono (fun _ _ => id) ?_
          rintro whole final ⟨others, rfl, ends⟩ drawn
          obtain ⟨ids, sameLength, isFinal, shown⟩ := ends drawn.parts.2
          refine ⟨none :: ids, by simp [sameLength], ?_, ?_⟩
          · rw [isFinal]
            simp [Imported.continued, List.range'_succ, Nat.add_comm 1,
              Nat.add_assoc]
          · rw [List.flatMap_append, shows drawn.parts.1, shown]
            rfl
      | some added =>
          have later := (continues
            { imported with
              added := imported.added + 1
              progress := imported.progress ++ [(i + 1, total)] }).after own
          rw [List.append_nil] at later
          refine later.mono (fun _ _ => id) ?_
          rintro whole final ⟨others, rfl, ends⟩ drawn
          obtain ⟨ids, sameLength, isFinal, shown⟩ := ends drawn.parts.2
          refine ⟨some added :: ids, by simp [sameLength], ?_, ?_⟩
          · rw [isFinal]
            simp [Imported.continued, List.range'_succ, Nat.add_comm 1,
              Nat.add_assoc]
          · rw [List.flatMap_append, shows drawn.parts.1, shown]
            rfl

/-- Importing adds the items that it counts as added. -/
theorem acts_import
    (authenticated : crypto.Authenticated)
    {userID : String}
    {s : Session}
    {items : List Members}
    (sameKey : s.userKey = keys userID)
    (areItems : ∀ fields ∈ items, IsItem crypto fields) :
    Acts crypto keys userID (.importAll items)
      ((VaultAction.importAll items).run crypto userID s) := by
  apply Program.obeys_bind.mpr
  refine (importFrom_shows authenticated sameKey items.length items areItems 0
    { added := 0, failed := 0, progress := [] }).mono (fun _ _ => id) ?_
  intro history final shows drawn
  obtain ⟨ids, sameLength, isFinal, shown⟩ := shows drawn
  refine ⟨ids, sameLength, ?_, shown⟩
  rw [isFinal, ← sameLength]
  simp [Imported.continued, Imported.ofIds]

/-- Saving replaces the item on the server, or fails without an event. -/
theorem acts_save
    (authenticated : crypto.Authenticated)
    {userID id : String}
    {s : Session}
    {fields : Members}
    (sameKey : s.userKey = keys userID)
    (isItem : IsItem crypto fields) :
    Acts crypto keys userID (.save id fields)
      ((VaultAction.save id fields).run crypto userID s) := by
  apply Program.obeys_bind.mpr
  apply Program.obeys_bind.mpr
  refine (encryptFields_shows authenticated sameKey isItem).mono
    (fun _ _ _ => trivial) ?_
  rintro history encrypted ⟨unseen, readBack⟩
  cases encrypted with
  | none =>
      intro _
      exact unseen
  | some data =>
      refine ⟨trivial, fun res => ?_⟩
      dsimp only [call, Program.bind_done, Program.pure_eq_done]
      by_cases ok : res.isOk = true
      · simp only [ok, ↓reduceIte]
        intro drawn
        simp [VaultAction.Fits, unseen, clientEvents, vaultEvents, ok,
          acceptedEvents, readBack data rfl drawn.parts.1]
      · simp only [ok]
        intro _
        simp [VaultAction.Fits, unseen, clientEvents, vaultEvents, ok]

/-- Removing removes the item on the server, or fails without an event. -/
theorem acts_remove (userID id : String) (s : Session) :
    Acts crypto keys userID (.remove id)
      ((VaultAction.remove id).run crypto userID s) := by
  simp only [VaultAction.run, removeItem, call, ask_bind,
    Program.perform_bind, Program.pure_eq_done, Program.done_bind, Acts,
    Program.obeys_perform, true_and]
  intro res
  by_cases ok : res.isOk = true
  · simp only [ok, ↓reduceIte]
    intro _
    simp [VaultAction.Fits, clientEvents, vaultEvents, ok, acceptedEvents]
  · simp only [ok]
    intro _
    simp [VaultAction.Fits, clientEvents, vaultEvents, ok]

/-- Every action of a device that holds its account's key. -/
theorem acts_run
    (authenticated : crypto.Authenticated)
    {userID : String}
    {s : Session}
    {action : VaultAction}
    (legitimate : (Work.device userID s action).Legitimate crypto keys) :
    Acts crypto keys userID action (action.run crypto userID s) := by
  obtain ⟨sameKey, items⟩ := legitimate
  cases action with
  | load => exact acts_load sameKey
  | add fields => exact acts_add authenticated sameKey items
  | save id fields => exact acts_save authenticated sameKey items
  | remove id => exact acts_remove userID id s
  | importAll items => exact acts_import authenticated sameKey items

/-!
## Actions over the calls of the system
-/

/-- The calls that serve a request, as the vault sees them. -/
def ServesVault
    (crypto : Primitives)
    (keys : String → Bytes)
    (request : Request)
    (history : History calls)
    (response : Response) :
    Prop :=
  history.filterMap (vaultEvent? (itemContents crypto keys)) =
    vaultEvents (itemContents crypto keys) request response

/-- What a carried out history shows is what its exchanges stand for. -/
theorem shown_of_carried
    {above : History clientCalls}
    {below : History systemCalls}
    (carried :
      Program.Carried (Carries (ServesVault crypto keys)) above below) :
    below.filterMap (systemEvent? crypto keys) =
      above.flatMap (clientEvents crypto keys) := by
  apply carried.observed
  intro operation segment answer carries
  rw [systemEvent?, filterMap_observeSystem]
  cases operation with
  | randomBytes n =>
      rw [carries.1]
      rfl
  | generateKey =>
      have none : servedCalls segment = [] := carries
      rw [none]
      rfl
  | fetch request => exact carries

/-- Every process ends with a result that fits what it did. -/
theorem fits_program
    (authenticated : crypto.Authenticated)
    {work : Work VaultAction}
    (legitimate : work.Legitimate crypto keys) :
    (work.program (fun userID s action => action.run crypto userID s)
      env).Obeys (fun _ _ => True)
      (fun history result =>
        work.Fits crypto keys result
          (history.filterMap (systemEvent? crypto keys))) [] := by
  have served (request : Request) :
      (serve env request).Obeys (fun _ _ => True)
        (ServesVault crypto keys request) [] :=
    (@vault_serve (Option Members) (itemContents crypto keys) env
      request).mono (fun _ _ _ => trivial) fun _ _ => id
  have ended := Work.program_ended served work fun userID s action isDevice =>
    acts_run authenticated (isDevice ▸ legitimate)
  refine ended.mono (fun _ _ => id) ?_
  intro history result ended
  cases work with
  | device userID s action =>
      cases result with
      | device result =>
          obtain ⟨exchanges, carried, fits⟩ := ended
          show action.Fits userID result _
          rw [shown_of_carried carried]
          exact fits (drawn_of_carried carried)
      | response response => cases ended
  | other request =>
      cases result with
      | device result => cases ended
      | response response =>
          show history.filterMap _ = _
          rw [systemEvent?, filterMap_observeSystem]
          exact ended

/-!
## Interleaved devices
-/

/-- The vault goes through a sequential history of a map of items. -/
theorem shared_of_reaches
    {backend : Backend}
    {state : State}
    {work : Nat → Work VaultAction}
    {allowed : Working → Nat → SystemChoice → Prop}
    {final : Working}
    (reaches :
      Configuration.Reaches (executeSystem backend) allowed
        (working crypto env state work) final) :
    OwnedMap.Shared vaultAccess (state.vault (itemContents crypto keys))
      (final.trace.observed (systemEvent? crypto keys))
      (final.state.vault (itemContents crypto keys)) :=
  reaches.plays (fun state => state.vault (itemContents crypto keys))
    (OwnedMap.Step vaultAccess)
    (takes_executeSystem fun _ _ operation => vault_execute operation)

/-- A process that has finished was told what it did in that history. -/
theorem fits_of_reaches
    (authenticated : crypto.Authenticated)
    {backend : Backend}
    {state : State}
    {work : Nat → Work VaultAction}
    {allowed : Working → Nat → SystemChoice → Prop}
    {final : Working}
    (legitimate : ∀ process, (work process).Legitimate crypto keys)
    (reaches :
      Configuration.Reaches (executeSystem backend) allowed
        (working crypto env state work) final)
    {process : Nat}
    {result : Done VaultResult}
    (finished : (final.pool process).outcome? = some result) :
    (work process).Fits crypto keys result
      (eventsOf process
        (final.trace.observed (systemEvent? crypto keys))) := by
  have ended := reaches.obeys (fits_program authenticated (legitimate process))
  rw [Program.eq_done_of_outcome? finished] at ended
  have fits : (work process).Fits crypto keys result _ := ended
  rw [← Trace.eventsOf_observed] at fits
  exact fits

end Runs

/-- A blank item is an item of the client. -/
theorem isItem_blankFields (crypto : Primitives) :
    IsItem crypto blankFields where
  settled :=
    { completes := ⟨List.prefix_refl _, by decide⟩
      type := ⟨"login", by decide, rfl⟩
      texts := by
        intro key isText
        refine ⟨"", ?_⟩
        simp only [textKeys, List.mem_cons, List.not_mem_nil, or_false]
          at isText
        rcases isText with rfl | rfl | rfl | rfl | rfl | rfl | rfl
        all_goals rfl
      card := ⟨blankCard, rfl, List.prefix_refl _, by decide⟩
      identity := ⟨blankIdentity, rfl, List.prefix_refl _, by decide⟩
      fields := ⟨[], rfl, by simp⟩
      favorite := ⟨false, rfl⟩ }
  wellFormed := by
    simp [blankFields, blankCard, blankIdentity, WellFormed, WellFormedMembers,
      WellFormedItems]
  finite := by
    simp [blankFields, blankCard, blankIdentity, VaultItem.Finite,
      FiniteMembers, FiniteItems]

/-- A server that keeps one item. -/
def oneItem : State :=
  { State.empty with
    store := { Store.empty with
      ciphers := Table.empty.upsert
        { id := "i", userID := "u", data := "d", createdAt := 0,
          updatedAt := 0 } } }

/-- One device removes the item and another one loads the vault. -/
def removeAndLoad : Nat → Work VaultAction
  | 0 => .device "u" plainSession (.remove "i")
  | _ => .device "u" plainSession .load

/-- The item has been removed, and nobody has loaded yet. -/
def removedItem : Working :=
  (working plainPrimitives plainEnvironment oneItem removeAndLoad).follow
    (executeSystem .memory) (moments [0, 0, 0, 0])

/-- Devices of one account hold its key. -/
theorem removeAndLoad_legitimate (process : Nat) :
    (removeAndLoad process).Legitimate plainPrimitives fun _ => [] := by
  cases process with
  | zero => exact ⟨rfl, trivial⟩
  | succ process => exact ⟨rfl, trivial⟩

end Passwd.Client
