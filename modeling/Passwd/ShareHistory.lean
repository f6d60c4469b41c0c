import Passwd.InteractionLayers
import Passwd.UserIndex
import Passwd.VaultHistory

namespace Passwd.Server

open Base64 Interaction

/-!
# The shares as a shared map

The rows of the share table are the entries of a map as well.  A share belongs
to its sender and its recipient: only the recipient lists it, and either of the
two may delete it.

The recipient of a share is the account that the request found under the
identifier that it was given.
-/

/-- A share is listed for its recipient, and deleted by both of its owners. -/
def shareAccess : Access String (String × String) where
  reads userID owner := owner.2 = userID
  writes userID owner := owner.1 = userID ∨ owner.2 = userID

/-- Events of shares whose entries have contents in `γ`. -/
abbrev ShareEvent (γ : Type) := OwnedMap.Event String String (String × String) γ

/-- A lookup of an identifier hash that found a user. -/
def foundUser (identifierHash : String) (u : User) : Exchange calls where
  operation := .getUserByIdentifierHash identifierHash
  answer := .ok u

section Shares

variable {γ : Type} (contents : String → String → String → γ)

/-- A row of the share table as an entry; contents depend on the recipient. -/
def shareEntry (sh : Share) : (String × String) × γ :=
  ((sh.ownerUserID, sh.recipientUserID),
    contents sh.recipientUserID sh.wrappedKey sh.data)

/-- The shares that a server keeps. -/
def State.sharesMap (state : State) : OwnedMap String (String × String) γ :=
  state.store.shares.entries (shareEntry contents)

/-- The event of the shares that a call with its answer is. -/
def shareEvent? : Exchange calls → Option (ShareEvent γ)
  | ⟨.createShare sh, .ok _⟩ =>
      some (.created sh.id (sh.ownerUserID, sh.recipientUserID)
        (contents sh.recipientUserID sh.wrappedKey sh.data))
  | ⟨.deleteShare userID id, .ok _⟩ => some (.removed userID id)
  | ⟨.deleteAccount userID, .ok _⟩ => some (.erased userID)
  | ⟨.listSharesForRecipient userID, .ok shares⟩ =>
      some (.listed userID (shares.map fun sh =>
        (sh.id, contents userID sh.wrappedKey sh.data)))
  | _ => none

/--
The events of the shares that fit an accepted request, which made the given
calls.
-/
def AcceptedShares (env : Environment) (history : History calls) :
    Request → Body → List (ShareEvent γ) → Prop
  | .lookupPublicKey _ identifier, .publicKey publicKey, events =>
      events = [] ∧
        ∃ u,
          foundUser (env.blindIdentifier identifier) u ∈ history ∧
            publicKey = u.publicKey
  | .createShare userID (some req), .id id, events =>
      ∃ u,
        foundUser (env.blindIdentifier req.recipientIdentifier) u ∈ history ∧
          events =
            [.created id (userID, u.id) (contents u.id req.wrappedKey req.data)]
  | .createShare _ _, _, _ => False
  | .deleteShare userID id, _, events => events = [.removed userID id]
  | .deleteAccount userID, _, events => events = [.erased userID]
  | .listShares userID, .shares shares, events =>
      events = [.listed userID (shares.map fun sh =>
        (sh.1, contents userID sh.2.1 sh.2.2.1))]
  | _, _, events => events = []

/-- The events of the shares that fit a request and its response. -/
def FitsShares
    (env : Environment)
    (history : History calls)
    (request : Request)
    (response : Response)
    (events : List (ShareEvent γ)) :
    Prop :=
  if response.isOk then
    AcceptedShares contents env history request response.body events
  else
    events = []

variable {contents}

section Fits

variable {env : Environment} {history : History calls} {request : Request}
  {response : Response} {events : List (ShareEvent γ)}

/-- An accepted request makes the events that fit its answer. -/
theorem fitsShares_of_ok (ok : response.isOk = true) :
    FitsShares contents env history request response events ↔
      AcceptedShares contents env history request response.body events := by
  rw [FitsShares, if_pos ok]

/-- A refused request makes no events. -/
theorem fitsShares_of_refused (refused : ¬ response.isOk = true) :
    FitsShares contents env history request response events ↔ events = [] := by
  rw [FitsShares, if_neg refused]

end Fits

/-- A call about no share is no event of the shares. -/
theorem shareEvent?_away
    (operation : Operation)
    (answer : Answer operation)
    (away : operation.isAway .shares = true) :
    shareEvent? contents ⟨operation, answer⟩ = none := by
  cases operation
  all_goals first
    | rfl
    | cases away

section Execution

variable {backend : Backend} {choice : Choice} {state : State}

/-- A call leaves the shares alone, or it is an event that they can take. -/
theorem sharesMap_execute (operation : Operation) :
    Takes (OwnedMap.Step shareAccess) (state.sharesMap contents)
      (shareEvent? contents
        ⟨operation, (execute backend choice state operation).1⟩)
      ((execute backend choice state operation).2.sharesMap contents) := by
  let entries := fun store : Store => store.shares.entries (shareEntry contents)
  cases operation with
  | createShare sh =>
      refine attempt_takes entries
        (fun answer => shareEvent? contents ⟨.createShare sh, answer⟩) _ rfl ?_
      unfold Store.createShare
      split
      · rfl
      · rename_i isNew
        exact @Table.step_upsert String Share String (String × String) γ
          Share.id _ shareAccess (shareEntry contents) state.store.shares
          { sh with createdAt := backend.stamp sh.createdAt }
          (Option.not_isSome_iff_eq_none.mp isNew)
  | deleteShare userID id =>
      refine attempt_takes entries
        (fun answer => shareEvent? contents ⟨.deleteShare userID id, answer⟩)
        _ rfl ?_
      unfold Store.deleteShare
      split
      · rename_i owned
        obtain ⟨old, isStored, isOwner⟩ := (Option.any_eq_true _ _).mp owned
        refine Table.step_delete isStored ?_
        rcases (Bool.or_eq_true _ _).mp isOwner with received | sent
        · exact Or.inr (of_decide_eq_true received)
        · exact Or.inl (of_decide_eq_true sent)
      · rfl
  | deleteAccount userID =>
      refine attempt_takes entries
        (fun answer => shareEvent? contents ⟨.deleteAccount userID, answer⟩)
        _ rfl ?_
      unfold Store.deleteAccount
      split
      · refine Table.step_erase fun row => ?_
        rw [Bool.or_eq_true, decide_eq_true_iff, decide_eq_true_iff]
        exact Iff.rfl
      · rfl
  | listSharesForRecipient userID =>
      refine attempt_takes entries
        (fun answer =>
          shareEvent? contents ⟨.listSharesForRecipient userID, answer⟩)
        _ rfl ?_
      let mine := state.store.shares.rows.filter fun sh =>
        sh.recipientUserID = userID
      let newer := fun first later : Share =>
        decide (later.createdAt < first.createdAt) ||
          (decide (later.createdAt = first.createdAt) &&
            (decide (later.id ≤ first.id) || !backend.isSql))
      have sorted := List.mergeSort_perm mine newer
      have readable :
          ∀ row : Share,
            decide (row.recipientUserID = userID) = true ↔
              shareAccess.reads userID (shareEntry contents row).1 :=
        fun row => (decide_eq_true_iff : _ ↔ row.recipientUserID = userID)
      have step := Table.step_list readable sorted
      have sameContents :
          ∀ row ∈ mine.mergeSort newer,
            (row.id, (shareEntry contents row).2) =
              (row.id, contents userID row.wrappedKey row.data) := by
        intro row member
        have isRecipient := (List.mem_filter.mp (sorted.mem_iff.mp member)).2
        rw [shareEntry, of_decide_eq_true isRecipient]
      rw [List.map_congr_left sameContents] at step
      exact step
  | _ =>
      exact congrArg (Table.entries (shareEntry contents))
        (@execute_same backend choice state _ .shares rfl)

end Execution

/-!
## The handlers
-/

section Handlers

variable {env : Environment}

/-- The calls of a request show events that fit the request. -/
def ServesShares
    (contents : String → String → String → γ)
    (env : Environment)
    (request : Request)
    (history : History calls)
    (response : Response) :
    Prop :=
  FitsShares contents env history request response
    (history.filterMap (shareEvent? contents))

/-- A program that makes at most one event, which fits its request. -/
abbrev ServesOnce
    (contents : String → String → String → γ)
    (env : Environment)
    (request : Request)
    (program : Handler Response) :
    Prop :=
  program.Obeys
    (fun earlier _ => (earlier.filterMap (shareEvent? contents)).length ≤ 1)
    (ServesShares contents env request) []

/-- Looking for a recipient finds an account with a public key, or none. -/
theorem obeys_findRecipient
    {identifier : String}
    {next : Option User → Handler Response}
    {asked : History calls → Operation → Prop}
    {result : History calls → Response → Prop}
    {history : History calls}
    (asks :
      asked history
        (.getUserByIdentifierHash (env.blindIdentifier identifier)))
    (unknown :
      ∀ found,
        (next none).Obeys asked result
          (history ++
            [⟨.getUserByIdentifierHash (env.blindIdentifier identifier),
              found⟩]))
    (known :
      ∀ u,
        (next (some u)).Obeys asked result
          (history ++ [foundUser (env.blindIdentifier identifier) u])) :
    (findRecipient env identifier >>= next).Obeys asked result history := by
  refine ⟨asks, fun found => ?_⟩
  cases found with
  | error e => exact unknown (.error e)
  | ok u =>
      by_cases keyless : u.publicKey = ""
      · simpa [keyless] using unknown (.ok u)
      · simpa [keyless, foundUser] using known u

/-- `handleCreateShare` creates the share for whom it found. -/
theorem shares_handleCreateShare
    (userID : String)
    (req : Option CreateShareRequest) :
    ServesOnce contents env (.createShare userID req)
      (handleCreateShare env userID req) := by
  unfold handleCreateShare
  split
  · rfl
  · cases req with
    | none => rfl
    | some req =>
        dsimp only
        split
        · rfl
        · refine obeys_findRecipient (Nat.zero_le 1) ?_ ?_
          · intro found
            cases found with
            | error e => rfl
            | ok u => rfl
          · intro u
            refine ⟨Nat.zero_le 1, fun drawn => ⟨Nat.zero_le 1, fun now =>
              ⟨Nat.zero_le 1, fun created => ?_⟩⟩⟩
            cases created with
            | error e => rfl
            | ok done =>
                show Program.Obeys _ _ _ (audit _ _ _ >>= fun _ => pure _)
                apply Program.obeys_bind.mpr
                refine (away_audit _ _ _).unobserved_after shareEvent?_away ?_
                  ?_
                · exact Nat.le_refl 1
                intro later value none
                refine ⟨u, ?_, ?_⟩
                · exact List.mem_append_left _ List.mem_cons_self
                · rw [List.filterMap_append, none]
                  rfl

/-- `handleLookupPublicKey` answers with the key of whom it found. -/
theorem shares_handleLookupPublicKey (userID identifier : String) :
    ServesOnce contents env (.lookupPublicKey userID identifier)
      (handleLookupPublicKey env userID identifier) := by
  unfold handleLookupPublicKey
  split
  · rfl
  · split
    · rfl
    · refine obeys_findRecipient (Nat.zero_le 1) ?_ ?_
      · intro found
        cases found with
        | error e => rfl
        | ok u => rfl
      · intro u
        exact ⟨rfl, u, List.mem_cons_self, rfl⟩

/-- `handleDeleteShare` removes its share, or makes no event. -/
theorem shares_handleDeleteShare (userID id : String) :
    ServesOnce contents env (.deleteShare userID id)
      (handleDeleteShare userID id) := by
  unfold handleDeleteShare
  split
  · rfl
  · refine ⟨Nat.zero_le _, fun deleted => ?_⟩
    rcases deleted with (- | - | -) | -
    · rfl
    · rfl
    · rfl
    · rfl

/-- `handleDeleteAccount` erases the account's shares, or makes no event. -/
theorem shares_handleDeleteAccount (userID : String) :
    ServesOnce contents env (.deleteAccount userID)
      (handleDeleteAccount userID) := by
  unfold handleDeleteAccount
  split
  · rfl
  · refine ⟨Nat.zero_le _, fun deleted => ?_⟩
    rcases deleted with (- | - | -) | -
    · rfl
    · rfl
    · rfl
    · rfl

/-- `handleListShares` lists the account's shares, or makes no event. -/
theorem shares_handleListShares (userID : String) :
    ServesOnce contents env (.listShares userID) (handleListShares userID) := by
  unfold handleListShares
  split
  · rfl
  · refine ⟨Nat.zero_le _, fun listed => ?_⟩
    cases listed with
    | error e => rfl
    | ok shares =>
        simp [shareEvent?, ServesShares, FitsShares, AcceptedShares,
          Response.isOk]

/-- Every request makes at most one event, which fits the request. -/
theorem shares_serve (request : Request) :
    ServesOnce contents env request (serve env request) := by
  cases request with
  | createShare userID req => exact shares_handleCreateShare userID req
  | lookupPublicKey userID identifier =>
      exact shares_handleLookupPublicKey userID identifier
  | deleteShare userID id => exact shares_handleDeleteShare userID id
  | deleteAccount userID => exact shares_handleDeleteAccount userID
  | listShares userID => exact shares_handleListShares userID
  | _ =>
      refine (away_serve env _ rfl).unobserved_after shareEvent?_away
        (Nat.zero_le 1) ?_
      intro later response none
      rw [ServesShares, FitsShares, List.nil_append, none]
      split
      · rfl
      · rfl

/-- At most one event fits a request. -/
theorem FitsShares.length_le
    {history : History calls}
    {request : Request}
    {response : Response}
    {events : List (ShareEvent γ)}
    (fits : FitsShares contents env history request response events) :
    events.length ≤ 1 := by
  unfold FitsShares at fits
  split at fits
  · unfold AcceptedShares at fits
    split at fits
    · rw [fits.1]
      exact Nat.zero_le 1
    · obtain ⟨u, -, same⟩ := fits
      rw [same]
      exact Nat.le_refl 1
    · cases fits
    all_goals rw [fits]; exact Nat.le_of_ble_eq_true rfl
  · rw [fits]
    exact Nat.zero_le 1

end Handlers

/-!
## Concurrent requests
-/

/--
Whatever the interleaving of the calls of any requests, the events of the shares
form a sequential history of a map whose entries have a sender and a recipient;
each request makes at most one event.  One that has been answered has made the
event that its response stands for: a new share belongs to the account that the
request itself found under the identifier.
-/
theorem shares_linearizable
    {backend : Backend}
    {env : Environment}
    {state : State}
    {requests : Nat → Request}
    {allowed : Serving → Nat → Choice → Prop}
    {final : Serving}
    (reaches :
      Configuration.Reaches (execute backend) allowed
        (serving env state requests) final) :
    let events := final.trace.observed (shareEvent? contents)
    OwnedMap.Shared shareAccess (state.sharesMap contents) events
        (final.state.sharesMap contents) ∧
      (∀ process, (eventsOf process events).length ≤ 1) ∧
      ∀ process response,
        (final.pool process).outcome? = some response →
          FitsShares contents env (final.trace.ofProcess process)
            (requests process) response (eventsOf process events) := by
  intro events
  have seen :
      ∀ process,
        eventsOf process events =
          (final.trace.ofProcess process).filterMap (shareEvent? contents) :=
    fun process => Trace.eventsOf_observed _ final.trace process
  have once (process : Nat) :
      (final.pool process).Obeys
        (fun earlier _ => (earlier.filterMap (shareEvent? contents)).length ≤ 1)
        (ServesShares contents env (requests process))
        (final.trace.ofProcess process) :=
    reaches.obeys (shares_serve (requests process))
  refine ⟨?_, ?_, ?_⟩
  · exact reaches.plays (fun state => state.sharesMap contents)
      (OwnedMap.Step shareAccess) fun _ _ operation => sharesMap_execute operation
  · intro process
    rw [seen]
    have obeys := once process
    cases shape : final.pool process with
    | done response =>
        rw [shape] at obeys
        exact FitsShares.length_le obeys
    | perform operation next =>
        rw [shape] at obeys
        exact obeys.1
  · intro process response finished
    rw [seen]
    have obeys := once process
    rw [Program.eq_done_of_outcome? finished] at obeys
    exact obeys

end Shares

/-!
## Who is behind an identifier
-/

/-- The account and the public key that an identifier hash leads to. -/
def identified (users : Table User.id) (identifierHash : String) :
    Option (String × String) :=
  (users.rows.find? fun u => u.identifierHash = identifierHash).map
    fun u => (u.id, u.publicKey)

/-- A call that neither deletes an account nor creates one under its id. -/
def Operation.sparesAccount (id : String) : Operation → Bool
  | .createUser u => u.id ≠ id
  | .deleteAccount userID => userID ≠ id
  | _ => true

/-- Rewriting users keeps what identifiers lead to. -/
theorem identified_update
    {users : Table User.id}
    {selected : User → Bool}
    {change : User → User}
    (keepsID : ∀ u, (change u).id = u.id)
    (keepsHash : ∀ u, (change u).identifierHash = u.identifierHash)
    (keepsKey : ∀ u, (change u).publicKey = u.publicKey)
    (identifierHash : String) :
    identified (users.update selected change keepsID) identifierHash =
      identified users identifierHash := by
  have sameHash :
      ((fun u : User => decide (u.identifierHash = identifierHash)) ∘
          fun u => if selected u then change u else u) =
        fun u => decide (u.identifierHash = identifierHash) := by
    funext u
    dsimp only [Function.comp]
    split
    · rw [keepsHash]
    · rfl
  have sameFound :
      ((fun u : User => (u.id, u.publicKey)) ∘
          fun u => if selected u then change u else u) =
        fun u => (u.id, u.publicKey) := by
    funext u
    dsimp only [Function.comp]
    split
    · rw [keepsID, keepsKey]
    · rfl
  rw [identified, Table.update, List.find?_map, sameHash, Option.map_map,
    sameFound]
  rfl

/-- The row that a search finds is found when other rows are left out. -/
theorem find?_filter_of_found
    {α : Type}
    {rows : List α}
    {wanted kept : α → Bool}
    {row : α}
    (found : rows.find? wanted = some row)
    (keeps : kept row = true) :
    (rows.filter kept).find? wanted = some row := by
  obtain ⟨isWanted, before, after, rfl, unwanted⟩ :=
    List.find?_eq_some_iff_append.mp found
  rw [List.filter_append, List.filter_cons_of_pos keeps,
    List.find?_eq_some_iff_append]
  exact ⟨isWanted, _, _, rfl, fun other member =>
    unwanted other (List.mem_of_mem_filter member)⟩

/-- The row that a search finds is found when an unwanted row is written. -/
theorem find?_upsertRows_of_found
    {Row Key : Type}
    [DecidableEq Key]
    {key : Row → Key}
    {rows : List Row}
    {wanted : Row → Bool}
    {row other : Row}
    (found : rows.find? wanted = some row)
    (unwanted : wanted other = false)
    (different : key row ≠ key other) :
    (Table.upsertRows key other rows).find? wanted = some row := by
  induction rows with
  | nil => cases found
  | cons first rest inductionHypothesis =>
      rw [Table.upsertRows]
      cases isWanted : wanted first with
      | true =>
          rw [List.find?_cons_of_pos isWanted] at found
          cases found
          rw [if_neg different, List.find?_cons_of_pos isWanted]
      | false =>
          rw [List.find?_cons_of_neg (by simp [isWanted])] at found
          split
          · rw [List.find?_cons_of_neg (by simp [unwanted])]
            exact found
          · rw [List.find?_cons_of_neg (by simp [isWanted])]
            exact inductionHypothesis found

section Identified

variable {backend : Backend} {choice : Choice} {state : State}
  {identifierHash id publicKey : String}

/-- Rewriting one user keeps what identifiers lead to. -/
theorem identified_updateUser
    {store : Store}
    {userID : String}
    {change : User → User}
    {keepsID : ∀ u, (change u).id = u.id}
    (keepsHash : ∀ u, (change u).identifierHash = u.identifierHash)
    (keepsKey : ∀ u, (change u).publicKey = u.publicKey)
    (named : identified store.users identifierHash = some (id, publicKey)) :
    identified (store.updateUser userID change keepsID).2.users
      identifierHash = some (id, publicKey) := by
  unfold Store.updateUser
  split
  · exact (identified_update keepsID keepsHash keepsKey _).trans named
  · exact named

/-- A row with another id and a free identifier changes nothing. -/
theorem identified_upsert
    {users : Table User.id}
    {row : User}
    (different : row.id ≠ id)
    (isNew : ∀ u ∈ users.rows, u.identifierHash ≠ row.identifierHash)
    (named : identified users identifierHash = some (id, publicKey)) :
    identified (users.upsert row) identifierHash = some (id, publicKey) := by
  obtain ⟨u, found, same⟩ := Option.map_eq_some_iff.mp named
  cases same
  have hasHash : u.identifierHash = identifierHash := by
    simpa using List.find?_some found
  have otherHash : row.identifierHash ≠ identifierHash := by
    intro same
    exact isNew u (List.mem_of_find?_eq_some found) (hasHash.trans same.symm)
  refine Option.map_eq_some_iff.mpr ⟨u, ?_, rfl⟩
  exact find?_upsertRows_of_found found (decide_eq_false otherHash)
    (Ne.symm different)

/-- A new user does not take the identifier of another account. -/
theorem identified_createUser
    {store : Store}
    {u : User}
    (different : u.id ≠ id)
    (named : identified store.users identifierHash = some (id, publicKey)) :
    identified (store.createUser backend u).2.users identifierHash =
      some (id, publicKey) := by
  unfold Store.createUser
  split
  · by_cases taken : store.identifierTaken u.identifierHash = true
    · rw [if_pos taken]
      exact named
    · have isNew :
          ∀ v ∈ store.users.rows, v.identifierHash ≠ u.identifierHash := by
        intro v member same
        exact taken (List.any_eq_true.mpr ⟨v, member, decide_eq_true same⟩)
      rw [if_neg taken]
      split
      · split
        · exact named
        · exact identified_upsert different isNew named
      · exact identified_upsert different isNew named
  · exact named

/-- Deleting another account keeps what an identifier leads to. -/
theorem identified_deleteAccount
    {store : Store}
    {userID : String}
    (different : userID ≠ id)
    (named : identified store.users identifierHash = some (id, publicKey)) :
    identified (store.deleteAccount userID).2.users identifierHash =
      some (id, publicKey) := by
  unfold Store.deleteAccount
  split
  · obtain ⟨u, found, same⟩ := Option.map_eq_some_iff.mp named
    cases same
    refine Option.map_eq_some_iff.mpr ⟨u, ?_, rfl⟩
    exact find?_filter_of_found found (by simp [Ne.symm different])
  · exact named

/-- An identifier leads where it led as long as its account is spared. -/
theorem identified_execute
    {operation : Operation}
    (spares : operation.sparesAccount id = true)
    (named :
      identified state.store.users identifierHash = some (id, publicKey)) :
    identified (execute backend choice state operation).2.store.users
      identifierHash = some (id, publicKey) := by
  have attempted
      {α : Type}
      {outcome : Store.Outcome α}
      (same :
        identified outcome.2.users identifierHash = some (id, publicKey)) :
      identified (attempt choice state operation outcome).2.store.users
        identifierHash = some (id, publicKey) := by
    rcases attempt_cases choice state operation outcome with failed | done
    · rw [failed]
      exact named
    · rw [done]
      exact same
  cases operation with
  | createUser u =>
      exact attempted (identified_createUser (of_decide_eq_true spares) named)
  | deleteAccount userID =>
      exact attempted
        (identified_deleteAccount (of_decide_eq_true spares) named)
  | setUserTOTP userID secret enabled =>
      exact attempted
        (identified_updateUser (fun _ => rfl) (fun _ => rfl) named)
  | setUserTOTPCounter userID counter =>
      exact attempted
        (identified_updateUser (fun _ => rfl) (fun _ => rfl) named)
  | setUserRecovery userID key verifier =>
      exact attempted
        (identified_updateUser (fun _ => rfl) (fun _ => rfl) named)
  | clearUserRecovery userID =>
      exact attempted
        (identified_updateUser (fun _ => rfl) (fun _ => rfl) named)
  | rotateMasterPassword userID verifier key kdf =>
      refine attempted ?_
      unfold Store.rotateMasterPassword
      split
      · exact identified_updateUser (fun _ => rfl) (fun _ => rfl) named
      · exact named
  | _ =>
      refine Eq.trans ?_ named
      exact congrArg (identified · identifierHash)
        (@execute_same backend choice state _ .users rfl)

/-- A lookup answers what the identifier leads to. -/
theorem identified_of_lookup
    {u : User}
    (answered :
      (execute backend choice state
        (.getUserByIdentifierHash identifierHash)).1 = .ok u) :
    identified state.store.users identifierHash =
      some (u.id, u.publicKey) := by
  rcases attempt_cases choice state (.getUserByIdentifierHash identifierHash)
      (state.store.getUserByIdentifierHash identifierHash) with failed | done
  · rw [execute, failed] at answered
    cases answered
  · rw [execute, done] at answered
    unfold Store.getUserByIdentifierHash at answered
    split at answered
    · rename_i found
      cases answered
      rw [identified, found]
      rfl
    · cases answered

end Identified

/-- An account that can receive shares. -/
def recipientAccount : State :=
  { State.empty with
    store := { Store.empty with
      users := Table.empty.upsert
        { User.zero with
          id := "v"
          identifierHash := plainEnvironment.blindIdentifier "b"
          publicKey := "k" } } }

/-- One request shares an item and another one lists what was shared. -/
def shareAndList : Nat → Request
  | 0 => .createShare "u" (some
      { recipientIdentifier := "b", wrappedKey := "w", data := "d" })
  | _ => .listShares "v"

/-- The share is listed before the request that created it is answered. -/
def listedEarly : Serving :=
  (serving plainEnvironment recipientAccount shareAndList).follow
    (execute .memory)
    ([0, 0, 0, 0, 1, 0, 0, 0].map fun process => (process, moment 1))

/-- The share comes before the listing, although it is answered later. -/
theorem shareAndList_linearized :
    let contents := fun _ wrappedKey data : String => (wrappedKey, data)
    let events := listedEarly.trace.observed (shareEvent? contents)
    OwnedMap.Shared shareAccess (recipientAccount.sharesMap contents) events
        (listedEarly.state.sharesMap contents) ∧
      ∃ recipientID,
        eventsOf 0 events =
          [.created firstID ("u", recipientID) ("w", "d")] := by
  intro contents events
  have linearized := @shares_linearizable (String × String) contents .memory
    plainEnvironment recipientAccount shareAndList Configuration.anyStep
    listedEarly (.of_follow _ _)
  have answered :
      (listedEarly.pool 0).outcome? = some ⟨201, .id firstID⟩ := by
    decide +kernel
  obtain ⟨u, -, created⟩ := linearized.2.2 0 _ answered
  exact ⟨linearized.1, u.id, created⟩

end Passwd.Server
