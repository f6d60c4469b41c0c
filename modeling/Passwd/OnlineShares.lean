import Passwd.ItemSharing
import Passwd.OnlineVault
import Passwd.ShareHistory

namespace Passwd.Client

open Base64 Json Crypto Interaction Server VaultItem

/-!
# Devices that share items

Devices look each other up, encrypt items for each other, list what was shared
with their account and delete shares, while the server serves every other
request.

What the devices see is a map from ids to shares, each with a sender and a
recipient.  The contents of a share are the item that the recipient's private
key finds in it.
-/

/-!
## The operations on shares
-/

/-- A listed share without its time, which no listing reads. -/
def shareDto (sh : String × String × String × Time) : VaultListing.ShareDto where
  id := sh.1
  wrappedKey := sh.2.1
  data := sh.2.2.1
  createdAt := ""

/-- `api.listShares` -/
def listShares (userID : String) :
    Client (Option (List VaultListing.ShareDto)) := do
  let body ← call (.listShares userID)
  match body with
  | some (.shares shares) => return some (shares.map shareDto)
  | _ => return none

/-- `removeSharedItem` -/
def removeSharedItem (userID shareId : String) : Client (Option Unit) := do
  let deleted ← call (.deleteShare userID shareId)
  return deleted.map fun _ => ()

section Operations

variable (crypto : Primitives) (rsa : KeyWrapping)

/-- `listSharedWithMe` -/
def listSharedWithMe (userID : String) (s : Session) :
    Client (Option (List Members)) := do
  let shares ← listShares userID
  return shares.map
    (VaultListing.listSharedWithMe crypto.numberText fun wrappedKey data =>
      openShare crypto rsa s.userKey s.protectedPrivateKey
        { wrappedKey := wrappedKey, data := data })

/-- What a device does with shares. -/
inductive ShareAction where
  | share (recipientIdentifier : String) (fields : Members)
  | listShared
  | remove (shareId : String)

/-- What comes of it; every exception is a failure. -/
inductive ShareResult where
  | shared
  | listed (items : List Members)
  | removed
  | failed

/-- The program of an action. -/
def ShareAction.run (userID : String) (s : Session) :
    ShareAction → Client ShareResult
  | .share recipientIdentifier fields => do
      let shared ← shareItem crypto rsa userID recipientIdentifier fields
      return (shared.map fun _ => .shared).getD .failed
  | .listShared => do
      let items ← listSharedWithMe crypto rsa userID s
      return (items.map .listed).getD .failed
  | .remove shareId => do
      let removed ← removeSharedItem userID shareId
      return (removed.map fun _ => .removed).getD .failed

/-- A system in the middle of its work on shares. -/
abbrev Sharing := Configuration systemCalls State (Done ShareResult)

/-- A system that has not begun. -/
def sharing
    (env : Environment)
    (state : State)
    (work : Nat → Work ShareAction) :
    Sharing :=
  .initial state fun process =>
    (work process).program
      (fun userID s action => action.run crypto rsa userID s) env

/-!
## What the devices see
-/

/-- What an account keeps its shares with. -/
structure Holder where
  userKey : Bytes
  protectedPrivateKey : String
  keyPair : Bytes × Bytes

/-- The public key is that of an account, whose private key unlocks. -/
structure Holder.Sound (holder : Holder) (publicKey : String) : Prop where
  publicKey : publicKey = toBase64 holder.keyPair.1
  unwraps :
    unwrapPrivateKey crypto holder.userKey holder.protectedPrivateKey =
      some holder.keyPair.2
  inverts : rsa.Inverts holder.keyPair

/-- The item that the recipient finds in a share. -/
def sharedContents
    (holders : String → Holder)
    (recipient wrappedKey data : String) :
    Option Members :=
  ((openShare crypto rsa (holders recipient).userKey
      (holders recipient).protectedPrivateKey
      { wrappedKey := wrappedKey, data := data }).bind Json.read).bind
    (normalizeItemFields crypto.numberText)

/-- A share as a listing shows it. -/
def shownShare (entry : String × Option Members) : Option Members :=
  entry.2.map
    (assignAll [("id", .string entry.1), ("shareId", .string entry.1)])

/-- The event of the shares that a call of the system is. -/
def systemShareEvent? (holders : String → Holder) :
    Exchange systemCalls → Option (ShareEvent (Option Members)) :=
  observeSystem (shareEvent? (sharedContents crypto rsa holders))

/--
The events that fit the result of an action, which made the given calls to the
server.  Both lookups of a shared item are made under the identifier.
-/
def ShareAction.Fits
    (holders : String → Holder)
    (env : Environment)
    (history : History calls)
    (userID : String) :
    ShareAction → ShareResult → List (ShareEvent (Option Members)) → Prop
  | .share identifier fields, .shared, events =>
      ∃ id looked found contents,
        foundUser (env.blindIdentifier identifier) looked ∈ history ∧
          foundUser (env.blindIdentifier identifier) found ∈ history ∧
          events = [.created id (userID, found.id) contents] ∧
          ((holders found.id).Sound crypto rsa looked.publicKey →
            contents = some fields)
  | .listShared, .listed items, events =>
      ∃ entries,
        events = [.listed userID entries] ∧
          items = entries.filterMap shownShare
  | .remove shareId, .removed, events => events = [.removed userID shareId]
  | _, .failed, events => events = []
  | _, _, _ => False

/-- The events that fit what a process ended with. -/
def Work.FitsShares
    (holders : String → Holder)
    (env : Environment)
    (history : History calls) :
    Work ShareAction → Done ShareResult →
      List (ShareEvent (Option Members)) → Prop
  | .device userID _ action, .device result, events =>
      action.Fits crypto rsa holders env history userID result events
  | .other request, .response response, events =>
      Server.FitsShares (sharedContents crypto rsa holders) env history request
        response events
  | _, _, _ => False

/-- A device shares items only, and lists shares with its account's keys. -/
def Work.SharesItems (holders : String → Holder) : Work ShareAction → Prop
  | .device _ _ (.share _ fields) => IsItem crypto fields
  | .device userID s .listShared =>
      s.userKey = (holders userID).userKey ∧
        s.protectedPrivateKey = (holders userID).protectedPrivateKey
  | _ => True

end Operations

section Runs

variable {crypto : Primitives} {rsa : KeyWrapping} {holders : String → Holder}
  {env : Environment}

/-!
## Actions over the requests of a client
-/

/-- The requests of a client and the calls that serve them. -/
abbrev Served
    (crypto : Primitives)
    (rsa : KeyWrapping)
    (holders : String → Holder)
    (env : Environment) :
    History clientCalls → History systemCalls → Prop :=
  Program.Carried
    (Carries (ServesShares (sharedContents crypto rsa holders) env))

/-- A client that ends with a result fitting the calls that served it. -/
abbrev ActsOnShares
    (crypto : Primitives)
    (rsa : KeyWrapping)
    (holders : String → Holder)
    (env : Environment)
    (userID : String)
    (action : ShareAction)
    (history : History clientCalls)
    (result : ShareResult) :
    Prop :=
  ∀ below,
    Served crypto rsa holders env history below →
      action.Fits crypto rsa holders env (servedCalls below) userID result
        ((servedCalls below).filterMap
          (shareEvent? (sharedContents crypto rsa holders)))

/-- What a request adds to the calls that the server served. -/
theorem Served.of_fetch
    {history : History clientCalls}
    {below : History systemCalls}
    {request : Request}
    {response : Response}
    (served :
      Served crypto rsa holders env (history ++ [⟨.fetch request, response⟩])
        below) :
    ∃ earlier segment,
      Served crypto rsa holders env history earlier ∧
        servedCalls below = servedCalls earlier ++ segment ∧
        Server.FitsShares (sharedContents crypto rsa holders) env segment
          request response
          (segment.filterMap
            (shareEvent? (sharedContents crypto rsa holders))) := by
  obtain ⟨earlier, segment, rfl, before, fits⟩ := Program.Carried.of_concat served
  exact ⟨earlier, servedCalls segment, before, List.filterMap_append, fits⟩

/-- What a single request does on the server. -/
theorem Served.of_fetch_only
    {below : History systemCalls}
    {request : Request}
    {response : Response}
    (served :
      Served crypto rsa holders env ([] ++ [⟨.fetch request, response⟩])
        below) :
    Server.FitsShares (sharedContents crypto rsa holders) env
      (servedCalls below) request response
      ((servedCalls below).filterMap
        (shareEvent? (sharedContents crypto rsa holders))) := by
  obtain ⟨earlier, segment, before, whole, fits⟩ := Served.of_fetch served
  rw [Program.Carried.eq_nil before] at whole
  rw [whole]
  exact fits

/-- Random bytes come from no server. -/
theorem Served.of_randomBytes
    {history : History clientCalls}
    {below : History systemCalls}
    {n : Nat}
    {bytes : Bytes}
    (served :
      Served crypto rsa holders env (history ++ [⟨.randomBytes n, bytes⟩])
        below) :
    bytes.length = n ∧
      ∃ earlier,
        Served crypto rsa holders env history earlier ∧
          servedCalls below = servedCalls earlier := by
  obtain ⟨earlier, segment, rfl, before, unserved, drawn⟩ :=
    Program.Carried.of_concat served
  refine ⟨drawn, earlier, before, ?_⟩
  rw [servedCalls, List.filterMap_append]
  exact (congrArg _ unserved).trans (List.append_nil _)

/-- What an envelope is made of is drawn without a server. -/
theorem Served.of_createShare
    {history : History clientCalls}
    {below : History systemCalls}
    {key nonce seed : Bytes}
    (served :
      Served crypto rsa holders env
        (history ++ [⟨.randomBytes 32, key⟩] ++ [⟨.randomBytes 12, nonce⟩] ++
          [⟨.randomBytes 32, seed⟩])
        below) :
    nonce.length = 12 ∧
      ∃ earlier,
        Served crypto rsa holders env history earlier ∧
          servedCalls below = servedCalls earlier := by
  obtain ⟨-, third, served, isThird⟩ := Served.of_randomBytes served
  obtain ⟨hasNonce, second, served, isSecond⟩ := Served.of_randomBytes served
  obtain ⟨-, first, served, isFirst⟩ := Served.of_randomBytes served
  exact ⟨hasNonce, first, served, isThird.trans (isSecond.trans isFirst)⟩

/-- What the recipient reads of an envelope made with the public key. -/
theorem sharedContents_of_shareEnvelope
    (authenticated : crypto.Authenticated)
    {recipient publicKey : String}
    {fields : Members}
    {key nonce seed : Bytes}
    {envelope : ShareEnvelope}
    (sound : (holders recipient).Sound crypto rsa publicKey)
    (isItem : IsItem crypto fields)
    (hasNonce : nonce.length = 12)
    (enveloped :
      shareEnvelope crypto rsa publicKey (stringify (.object fields)) key nonce
        seed = some envelope) :
    sharedContents crypto rsa holders recipient envelope.wrappedKey
      envelope.data = some fields := by
  rw [sound.publicKey] at enveloped
  have opened := openShare_of_shareEnvelope crypto rsa authenticated
    sound.inverts (stringify_object_unmarked fields)
    (List.ne_nil_of_length_eq_add_one hasNonce) sound.unwraps enveloped
  have parsed :
      Json.read (stringify (.object fields)) = some (.object fields) :=
    read_write stringifyEscapes isItem.wellFormed
  rw [sharedContents, opened, Option.bind_some, parsed, Option.bind_some]
  exact normalizeItemFields_of_settled isItem.settled

/-- What a listing shows of the shares that the server lists. -/
theorem listSharedWithMe_eq
    {userID : String}
    (shares : List (String × String × String × Time)) :
    VaultListing.listSharedWithMe crypto.numberText
        (fun wrappedKey data =>
          openShare crypto rsa (holders userID).userKey
            (holders userID).protectedPrivateKey
            { wrappedKey := wrappedKey, data := data })
        (shares.map shareDto) =
      (shares.map fun sh =>
        (sh.1, sharedContents crypto rsa holders userID sh.2.1
          sh.2.2.1)).filterMap shownShare := by
  rw [VaultListing.listSharedWithMe, List.filterMap_map, List.filterMap_map]
  exact congrArg (fun shown => shares.filterMap shown)
    (funext fun _ => (Option.map_bind ..).symm)

/-- Listing shows what the server lists. -/
theorem acts_listShared
    {userID : String}
    {s : Session}
    (sameKey : s.userKey = (holders userID).userKey)
    (samePair : s.protectedPrivateKey = (holders userID).protectedPrivateKey) :
    (ShareAction.listShared.run crypto rsa userID s).Obeys (fun _ _ => True)
      (ActsOnShares crypto rsa holders env userID .listShared) [] := by
  simp only [ShareAction.run, listSharedWithMe, listShares, call, ask_bind,
    Program.perform_bind, Program.pure_eq_done, Program.done_bind,
    Program.obeys_perform, true_and]
  intro res
  by_cases ok : res.isOk = true
  · simp only [ok, ↓reduceIte]
    cases isBody : res.body with
    | shares shares =>
        intro below served
        have fits := (fitsShares_of_ok ok).mp (Served.of_fetch_only served)
        simp only [isBody, AcceptedShares] at fits
        refine ⟨_, fits, ?_⟩
        rw [sameKey, samePair]
        exact listSharedWithMe_eq shares
    | _ =>
        intro below served
        have fits := (fitsShares_of_ok ok).mp (Served.of_fetch_only served)
        rw [isBody] at fits
        exact fits
  · simp only [ok]
    intro below served
    exact (fitsShares_of_refused ok).mp (Served.of_fetch_only served)

/-- Removing removes the share on the server, or fails without an event. -/
theorem acts_removeShared (userID shareId : String) (s : Session) :
    ((ShareAction.remove shareId).run crypto rsa userID s).Obeys
      (fun _ _ => True)
      (ActsOnShares crypto rsa holders env userID (.remove shareId)) [] := by
  simp only [ShareAction.run, removeSharedItem, call, ask_bind,
    Program.perform_bind, Program.pure_eq_done, Program.done_bind,
    Program.obeys_perform, true_and]
  intro res
  by_cases ok : res.isOk = true
  · simp only [ok, ↓reduceIte]
    intro below served
    exact (fitsShares_of_ok ok).mp (Served.of_fetch_only served)
  · simp only [ok]
    intro below served
    exact (fitsShares_of_refused ok).mp (Served.of_fetch_only served)

/-- Sharing creates the share on the server, or fails without an event. -/
theorem acts_share
    (authenticated : crypto.Authenticated)
    {identifier : String}
    {fields : Members}
    (isItem : IsItem crypto fields)
    (userID : String)
    (s : Session) :
    ((ShareAction.share identifier fields).run crypto rsa userID s).Obeys
      (fun _ _ => True)
      (ActsOnShares crypto rsa holders env userID (.share identifier fields))
      [] := by
  simp only [ShareAction.run, shareItem, lookupPublicKey, createShare, call,
    ask_bind, Program.perform_bind, Program.pure_eq_done, Program.done_bind,
    Program.obeys_perform, true_and]
  intro answer
  by_cases known : answer.isOk = true
  · simp only [known, ↓reduceIte]
    cases isKey : answer.body with
    | publicKey publicKey =>
        refine ⟨trivial, fun key => ⟨trivial, fun nonce =>
          ⟨trivial, fun seed => ?_⟩⟩⟩
        cases enveloped :
            shareEnvelope crypto rsa publicKey (stringify (.object fields)) key
              nonce seed with
        | none =>
            simp only [enveloped]
            intro below served
            obtain ⟨-, earlier, served, same⟩ := Served.of_createShare served
            have fits := (fitsShares_of_ok known).mp
              (Served.of_fetch_only served)
            rw [isKey] at fits
            rw [same]
            exact fits.1
        | some envelope =>
            simp only [enveloped]
            refine ⟨trivial, fun res => ?_⟩
            intro below served
            obtain ⟨whole, segment, served, split, fits⟩ :=
              Served.of_fetch served
            obtain ⟨hasNonce, earlier, served, same⟩ :=
              Served.of_createShare served
            have looks := (fitsShares_of_ok known).mp
              (Served.of_fetch_only served)
            rw [isKey] at looks
            obtain ⟨unseen, looked, lookup, isLooked⟩ := looks
            rw [split, same, List.filterMap_append, unseen, List.nil_append]
            by_cases ok : res.isOk = true
            · simp only [ok, ↓reduceIte]
              have creates := (fitsShares_of_ok ok).mp fits
              cases isID : res.body with
              | id id =>
                  rw [isID] at creates
                  obtain ⟨found, second, isCreated⟩ := creates
                  refine ⟨id, looked, found, _, ?_, ?_, isCreated, ?_⟩
                  · exact List.mem_append_left _ lookup
                  · exact List.mem_append_right _ second
                  · rw [← isLooked]
                    exact fun sound => sharedContents_of_shareEnvelope
                      authenticated sound isItem hasNonce enveloped
              | _ =>
                  rw [isID] at creates
                  exact creates.elim
            · simp only [ok]
              exact (fitsShares_of_refused ok).mp fits
    | _ =>
        intro below served
        have fits := (fitsShares_of_ok known).mp (Served.of_fetch_only served)
        rw [isKey] at fits
        exact fits
  · simp only [known]
    intro below served
    exact (fitsShares_of_refused known).mp (Served.of_fetch_only served)

/-- Every action of a device. -/
theorem acts_onShares
    (authenticated : crypto.Authenticated)
    {userID : String}
    {s : Session}
    {action : ShareAction}
    (sharesItems : (Work.device userID s action).SharesItems crypto holders) :
    (action.run crypto rsa userID s).Obeys (fun _ _ => True)
      (ActsOnShares crypto rsa holders env userID action) [] := by
  cases action with
  | share identifier fields =>
      exact acts_share authenticated sharesItems userID s
  | listShared => exact acts_listShared sharesItems.1 sharesItems.2
  | remove shareId => exact acts_removeShared userID shareId s

/-- Every process ends with a result that fits what it did. -/
theorem fitsShares_program
    (authenticated : crypto.Authenticated)
    {work : Work ShareAction}
    (sharesItems : work.SharesItems crypto holders) :
    (work.program (fun userID s action => action.run crypto rsa userID s)
      env).Obeys (fun _ _ => True)
      (fun history result =>
        work.FitsShares crypto rsa holders env (servedCalls history) result
          (history.filterMap (systemShareEvent? crypto rsa holders))) [] := by
  have served (request : Request) :
      (serve env request).Obeys (fun _ _ => True)
        (ServesShares (sharedContents crypto rsa holders) env request) [] :=
    (shares_serve request).mono (fun _ _ _ => trivial) fun _ _ => id
  have acts (userID : String) (s : Session) (action : ShareAction)
      (isDevice : work = .device userID s action) :
      (action.run crypto rsa userID s).Obeys (fun _ _ => True)
        (ActsOnShares crypto rsa holders env userID action) [] :=
    acts_onShares authenticated (isDevice ▸ sharesItems)
  refine (Work.program_ended served work acts).mono (fun _ _ => id) ?_
  intro history result ended
  rw [systemShareEvent?, filterMap_observeSystem]
  cases work with
  | device userID s action =>
      cases result with
      | device result =>
          obtain ⟨exchanges, carried, acted⟩ := ended
          exact acted history carried
      | response response => cases ended
  | other request =>
      cases result with
      | device result => cases ended
      | response response => exact ended

/-!
## Interleaved devices
-/

section Interleaved

variable {backend : Backend} {state : State} {work : Nat → Work ShareAction}
  {allowed : Sharing → Nat → SystemChoice → Prop} {middle final : Sharing}

/-- The shares go through a sequential history of a map. -/
theorem sharesShared_of_reaches
    (reaches :
      Configuration.Reaches (executeSystem backend) allowed
        (sharing crypto rsa env state work) final) :
    OwnedMap.Shared shareAccess
      (state.sharesMap (sharedContents crypto rsa holders))
      (final.trace.observed (systemShareEvent? crypto rsa holders))
      (final.state.sharesMap (sharedContents crypto rsa holders)) :=
  reaches.plays
    (fun state => state.sharesMap (sharedContents crypto rsa holders))
    (OwnedMap.Step shareAccess)
    (takes_executeSystem fun _ _ operation => sharesMap_execute operation)

/-- A process that has finished was told what it did in that history. -/
theorem fitsShares_of_reaches
    (authenticated : crypto.Authenticated)
    (sharesItems : ∀ process, (work process).SharesItems crypto holders)
    (reaches :
      Configuration.Reaches (executeSystem backend) allowed
        (sharing crypto rsa env state work) final)
    {process : Nat}
    {result : Done ShareResult}
    (finished : (final.pool process).outcome? = some result) :
    (work process).FitsShares crypto rsa holders env
      (servedCalls (final.trace.ofProcess process)) result
      (eventsOf process
        (final.trace.observed (systemShareEvent? crypto rsa holders))) := by
  have ended :=
    reaches.obeys (fitsShares_program authenticated (sharesItems process))
  rw [Program.eq_done_of_outcome? finished] at ended
  have fits : (work process).FitsShares crypto rsa holders env _ result _ :=
    ended
  rw [← Trace.eventsOf_observed] at fits
  exact fits

end Interleaved

end Runs

/-- Key wrapping that wraps nothing. -/
def plainWrapping : KeyWrapping where
  rsaOaepEncrypt _ key _ := some key
  rsaOaepDecrypt _ wrapped := some wrapped

/-- Accounts that all have the same keys. -/
def plainHolder : Holder where
  userKey := []
  protectedPrivateKey := (sealEnvelope plainPrimitives [] [7] [1]).getD ""
  keyPair := ([0], [7])

theorem sound_plainHolder : plainHolder.Sound plainPrimitives plainWrapping "AA==" where
  publicKey := by decide
  unwraps := by
    exact @openEnvelope_of_sealEnvelope plainPrimitives
      authenticated_plainPrimitives [] [7] [1] _ (List.cons_ne_nil 1 []) rfl
  inverts := fun plaintext seed wrapped encrypted => encrypted.symm

/-- A server with one account that can receive shares. -/
def receivingAccount : State :=
  { State.empty with
    store := { Store.empty with
      users := Table.empty.upsert
        { User.zero with
          id := "v"
          identifierHash := plainEnvironment.blindIdentifier "b"
          publicKey := "AA==" } } }

/-- A session of an account with the keys of `plainHolder`. -/
def receivingSession : Session :=
  { plainSession with
    userKey := plainHolder.userKey
    protectedPrivateKey := plainHolder.protectedPrivateKey }

/-- One device shares an item with the account of another one. -/
def sendAndReceive : Nat → Work ShareAction
  | 0 => .device "u" plainSession (.share "b" blankFields)
  | _ => .device "v" receivingSession .listShared

/-- The item has been shared, and nobody has listed it yet. -/
def sentItem : Sharing :=
  (sharing plainPrimitives plainWrapping plainEnvironment receivingAccount
    sendAndReceive).follow (executeSystem .memory)
    (moments (List.replicate 11 0))

/-- Whether a device was told that its item is shared. -/
def Done.isShared : Done ShareResult → Bool
  | .device .shared => true
  | _ => false

/-- The devices share items and list them with their account's keys. -/
theorem sendAndReceive_sharesItems (process : Nat) :
    (sendAndReceive process).SharesItems plainPrimitives
      fun _ => plainHolder := by
  cases process with
  | zero => exact isItem_blankFields plainPrimitives
  | succ process => exact ⟨rfl, rfl⟩

/-- The sender has been told so. -/
theorem sentItem_shared :
    (sentItem.pool 0).outcome? = some (.device .shared) := by
  have isShared : (sentItem.pool 0).outcome?.any Done.isShared = true := by
    decide +kernel
  obtain ⟨result, isResult, told⟩ := (Option.any_eq_true _ _).mp isShared
  rw [isResult]
  unfold Done.isShared at told
  split at told
  · rfl
  · cases told

end Passwd.Client
