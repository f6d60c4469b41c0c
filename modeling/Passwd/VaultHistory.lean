import Passwd.ServerRuns
import Passwd.OwnedMap

namespace Passwd.Server

open Base64 Interaction

/-!
# The vault as a shared map

The rows of the cipher table are the entries of a map from ids to contents, each
owned by one account.  Five calls are events of the map, and the handlers of five
requests make one of them each, in the middle of other calls.

Requests that are served concurrently therefore act on the map as if each of them
had acted at one moment, in the order in which their calls reached the store.
-/

/-!
## Requests that are not about items
-/

/-- What accounts keep on the server and list. -/
inductive Items where
  | ciphers
  | shares
deriving DecidableEq

/-- A call that neither reads nor changes the items. -/
def Operation.isAway (items : Items) : Operation → Bool
  | .deleteAccount _ => false
  | .createCipher _ => items ≠ .ciphers
  | .updateCipher _ => items ≠ .ciphers
  | .deleteCipher _ _ => items ≠ .ciphers
  | .listCiphers _ => items ≠ .ciphers
  | .createShare _ => items ≠ .shares
  | .listSharesForRecipient _ => items ≠ .shares
  | .deleteShare _ _ => items ≠ .shares
  | _ => true

/-- A request that neither reads nor changes the items. -/
def Request.isAway (items : Items) : Request → Bool
  | .deleteAccount _ => false
  | .createCipher _ _ => items ≠ .ciphers
  | .updateCipher _ _ _ => items ≠ .ciphers
  | .deleteCipher _ _ => items ≠ .ciphers
  | .sync _ => items ≠ .ciphers
  | .createShare _ _ => items ≠ .shares
  | .listShares _ => items ≠ .shares
  | .deleteShare _ _ => items ≠ .shares
  | _ => true

/-- A handler that neither reads nor changes the items. -/
abbrev Away (items : Items) {α : Type} (handler : Handler α) : Prop :=
  handler.Only fun operation : Operation => operation.isAway items = true

section Away

variable {items : Items} {α β : Type}

/-- A value makes no call. -/
theorem away_pure (value : α) : Away items (pure value) :=
  trivial

/-- One call. -/
theorem away_perform
    (operation : Operation)
    (away : operation.isAway items = true) :
    Away items (perform operation) :=
  ⟨away, fun _ => trivial⟩

/-- A sequence makes the calls of its parts. -/
theorem Away.bind
    {first : Handler α}
    {next : α → Handler β}
    (away : Away items first)
    (afterwards : ∀ value, Away items (next value)) :
    Away items (first >>= next) :=
  Program.Only.bind away afterwards

/-- An audit event is not an item. -/
theorem away_audit (userID event detail : String) :
    Away items (audit userID event detail) :=
  only_audit rfl rfl fun _ => rfl

/-- Tokens are not items. -/
theorem away_issueTokens (env : Environment) (userID : String) :
    Away items (issueTokens env userID) :=
  only_issueTokens rfl rfl fun _ _ => rfl

/-- The handlers of the other requests, call by call. -/
theorem away_serve
    (env : Environment)
    (request : Request)
    (away : request.isAway items = true) :
    Away items (serve env request) := by
  cases items <;> cases request
  all_goals first
    | cases away
      done
    | simp only [serve, newID, hashVerifier, generateTOTPSecret, encryptSecret,
        rejectPassword, rejectSecondFactor, completeLogin, verifyLoginTOTP,
        checkSecondFactor, handlePrelogin, handleRegister, handleLogin,
        handleRefresh, handleListSessions, handleLogoutAll, decoyRecoveryBlob,
        handleRecoveryChallenge, rejectRecovery, rotateAccount,
        handleRecoveryComplete, handleTOTPStatus, handleTOTPSetup,
        handleTOTPEnable, handleTOTPDisable, handleRecoveryStatus,
        handleRecoveryEnable, handleRecoveryDisable, webAuthnUserFor,
        putPending, handleWebAuthnList, handleWebAuthnDelete,
        handleWebAuthnRegisterBegin, handleWebAuthnRegisterFinish,
        rejectPasskeyLogin, handleWebAuthnLoginBegin, completePasskeyLogin,
        checkAssertion, handleWebAuthnLoginFinish, handleAuditLog,
        findRecipient, handleLookupPublicKey, handleSync, handleCreateCipher,
        handleUpdateCipher, handleDeleteCipher, handleCreateShare,
        handleListShares, handleDeleteShare]
      repeat' first
        | with_reducible exact away_pure _
        | with_reducible exact away_perform _ rfl
        | with_reducible exact away_audit _ _ _
        | with_reducible exact away_issueTokens _ _
        | with_reducible refine Away.bind ?_ fun _ => ?_
        | split

end Away

/-!
## The events of the vault
-/

/-- An account reads and changes what it owns. -/
def vaultAccess : Access String String where
  reads userID owner := owner = userID
  writes userID owner := owner = userID

/-- Events of a vault whose entries have contents in `γ`. -/
abbrev VaultEvent (γ : Type) := OwnedMap.Event String String String γ

section Vault

variable {γ : Type} (contents : String → String → γ)

/-- A row of the cipher table as an entry; contents depend on the account. -/
def vaultEntry (c : Cipher) : String × γ :=
  (c.userID, contents c.userID c.data)

/-- The vault that a server keeps. -/
def State.vault (state : State) : OwnedMap String String γ :=
  state.store.ciphers.entries (vaultEntry contents)

/-- The event of the vault that a call with its answer is. -/
def vaultEvent? : Exchange calls → Option (VaultEvent γ)
  | ⟨.createCipher c, .ok _⟩ =>
      some (.created c.id c.userID (contents c.userID c.data))
  | ⟨.updateCipher c, .ok _⟩ =>
      some (.replaced c.userID c.id (contents c.userID c.data))
  | ⟨.deleteCipher userID id, .ok _⟩ => some (.removed userID id)
  | ⟨.deleteAccount userID, .ok _⟩ => some (.erased userID)
  | ⟨.listCiphers userID, .ok ciphers⟩ =>
      some (.listed userID (ciphers.map fun c =>
        (c.id, contents userID c.data)))
  | _ => none

/-- The events of the vault that a request stands for once it is accepted. -/
def acceptedEvents : Request → Body → List (VaultEvent γ)
  | .createCipher userID (some data), .cipher id _ _ _ =>
      [.created id userID (contents userID data)]
  | .updateCipher userID id (some data), _ =>
      [.replaced userID id (contents userID data)]
  | .deleteCipher userID id, _ => [.removed userID id]
  | .deleteAccount userID, _ => [.erased userID]
  | .sync userID, .ciphers ciphers =>
      [.listed userID (ciphers.map fun c => (c.1, contents userID c.2.1))]
  | _, _ => []

/-- The events of the vault that a request with its response stands for. -/
def vaultEvents (request : Request) (response : Response) :
    List (VaultEvent γ) :=
  if response.isOk then acceptedEvents contents request response.body else []

variable {contents}

/-- A call about no item is no event of the vault. -/
theorem vaultEvent?_away
    (operation : Operation)
    (answer : Answer operation)
    (away : operation.isAway .ciphers = true) :
    vaultEvent? contents ⟨operation, answer⟩ = none := by
  cases operation
  all_goals first
    | rfl
    | cases away

section Execution

variable {backend : Backend} {choice : Choice} {state : State}

/-- A store call is the event of its outcome, or it failed. -/
theorem attempt_takes
    {α Abstract Event : Type}
    {operation : Operation}
    {outcome : Store.Outcome α}
    (abstraction : Store → Abstract)
    (observe : Except StoreError α → Option Event)
    (step : Abstract → Event → Abstract → Prop)
    (failureUnseen : observe (.error .failure) = none)
    (takes :
      Takes step (abstraction state.store) (observe outcome.1)
        (abstraction outcome.2)) :
    Takes step (abstraction state.store)
      (observe (attempt choice state operation outcome).1)
      (abstraction (attempt choice state operation outcome).2.store) := by
  rcases attempt_cases choice state operation outcome with failed | done
  · rw [failed, failureUnseen]
    rfl
  · rw [done]
    exact takes

/-- A call leaves the vault alone, or it is an event that the vault can take. -/
theorem vault_execute (operation : Operation) :
    Takes (OwnedMap.Step vaultAccess) (state.vault contents)
      (vaultEvent? contents
        ⟨operation, (execute backend choice state operation).1⟩)
      ((execute backend choice state operation).2.vault contents) := by
  let entries := fun store : Store => store.ciphers.entries (vaultEntry contents)
  cases operation with
  | createCipher c =>
      refine attempt_takes entries
        (fun answer => vaultEvent? contents ⟨.createCipher c, answer⟩) _ rfl ?_
      unfold Store.createCipher
      split
      · rfl
      · rename_i isNew
        exact @Table.step_upsert String Cipher String String γ Cipher.id _
          vaultAccess (vaultEntry contents) state.store.ciphers
          { c with
            createdAt := backend.stamp c.createdAt
            updatedAt := backend.stamp c.updatedAt }
          (Option.not_isSome_iff_eq_none.mp isNew)
  | updateCipher c =>
      refine attempt_takes entries
        (fun answer => vaultEvent? contents ⟨.updateCipher c, answer⟩) _ rfl ?_
      unfold Store.updateCipher
      split
      · rename_i owned
        obtain ⟨old, isStored, isOwner⟩ := (Option.any_eq_true _ _).mp owned
        have sameOwner : old.userID = c.userID := of_decide_eq_true isOwner
        have step := @Table.step_update String Cipher String String γ
          Cipher.id _ vaultAccess (vaultEntry contents) state.store.ciphers
          c.userID c.id old
          (fun existing => { existing with
            data := c.data
            createdAt :=
              if backend.isSql then existing.createdAt else c.createdAt
            updatedAt := backend.stamp c.updatedAt })
          (fun _ => rfl) isStored sameOwner rfl
        simp only [vaultEntry, sameOwner] at step
        exact step
      · rfl
  | deleteCipher userID id =>
      refine attempt_takes entries
        (fun answer => vaultEvent? contents ⟨.deleteCipher userID id, answer⟩)
        _ rfl ?_
      unfold Store.deleteCipher
      split
      · rename_i owned
        obtain ⟨old, isStored, isOwner⟩ := (Option.any_eq_true _ _).mp owned
        have sameOwner : old.userID = userID := of_decide_eq_true isOwner
        exact Table.step_delete isStored sameOwner
      · rfl
  | deleteAccount userID =>
      refine attempt_takes entries
        (fun answer => vaultEvent? contents ⟨.deleteAccount userID, answer⟩)
        _ rfl ?_
      unfold Store.deleteAccount
      split
      · refine Table.step_erase fun row => ?_
        exact (decide_eq_true_iff : _ ↔ row.userID = userID)
      · rfl
  | listCiphers userID =>
      refine attempt_takes entries
        (fun answer => vaultEvent? contents ⟨.listCiphers userID, answer⟩)
        _ rfl ?_
      have sorted := List.mergeSort_perm
        (state.store.ciphers.rows.filter fun c => c.userID = userID)
        fun first later => decide (first.createdAt ≤ later.createdAt)
      have mine :
          ∀ row : Cipher,
            decide (row.userID = userID) = true ↔
              vaultAccess.reads userID (vaultEntry contents row).1 :=
        fun row => (decide_eq_true_iff : _ ↔ row.userID = userID)
      have step := Table.step_list mine sorted
      have sameContents :
          ∀ row ∈ (state.store.ciphers.rows.filter fun c =>
              c.userID = userID).mergeSort fun first later =>
                decide (first.createdAt ≤ later.createdAt),
            (row.id, (vaultEntry contents row).2) =
              (row.id, contents userID row.data) := by
        intro row member
        have isOwner := (List.mem_filter.mp (sorted.mem_iff.mp member)).2
        rw [vaultEntry, of_decide_eq_true isOwner]
      rw [List.map_congr_left sameContents] at step
      exact step
  | _ =>
      exact congrArg (Table.entries (vaultEntry contents))
        (@execute_same backend choice state _ .ciphers rfl)

end Execution

/-!
## The handlers
-/

/-- A response after an audit event shows what was seen before. -/
theorem audited_observedOnce
    {items : Items}
    {Event : Type}
    {observe : Exchange calls → Option Event}
    {events : List Event}
    {history : History calls}
    {result : List Event → Response → Prop}
    {userID event detail : String}
    {response : Response}
    (unseen :
      ∀ operation answer, operation.isAway items = true →
        observe ⟨operation, answer⟩ = none)
    (seen : history.filterMap observe = events)
    (short : events.length ≤ 1)
    (fits : result events response) :
    (audit userID event detail >>= fun _ => pure response).ObservedOnce observe
      result history := by
  apply Program.obeys_bind.mpr
  have once :
      (audit userID event detail).ObservedOnce observe
        (fun events _ => result events response) history :=
    Program.Only.unobserved (away_audit _ _ _) unseen seen short
      fun _ => fits
  exact once

/-- A response stands for at most one event. -/
theorem length_vaultEvents_le (request : Request) (response : Response) :
    (vaultEvents contents request response).length ≤ 1 := by
  unfold vaultEvents
  split
  · unfold acceptedEvents
    split
    all_goals exact Nat.le_of_ble_eq_true rfl
  · exact Nat.zero_le 1

/-- A response after an audit event, when its event has been made. -/
theorem vault_audited
    {history : History calls}
    {request : Request}
    {userID event detail : String}
    {response : Response}
    (made :
      history.filterMap (vaultEvent? contents) =
        vaultEvents contents request response) :
    (audit userID event detail >>= fun _ => pure response).ObservedOnce
      (vaultEvent? contents)
      (fun events response => events = vaultEvents contents request response)
      history :=
  audited_observedOnce vaultEvent?_away made (length_vaultEvents_le _ _) rfl

/-- `handleCreateCipher` creates its item, or makes no event. -/
theorem vault_handleCreateCipher
    (userID : String)
    (req : Option String) :
    (handleCreateCipher userID req).ObservedOnce (vaultEvent? contents)
      (fun events response =>
        events = vaultEvents contents (.createCipher userID req) response)
      [] := by
  unfold handleCreateCipher
  cases req with
  | none =>
      split
      · rfl
      · rfl
  | some data =>
      split
      · rfl
      · dsimp only
        split
        · rfl
        · refine ⟨Nat.zero_le _, fun now => ⟨Nat.zero_le _, fun drawn =>
            ⟨Nat.zero_le _, fun created => ?_⟩⟩⟩
          cases created with
          | error e =>
              rfl
          | ok done =>
              exact vault_audited rfl

/-- `handleUpdateCipher` replaces its item, or makes no event. -/
theorem vault_handleUpdateCipher
    (userID id : String)
    (req : Option String) :
    (handleUpdateCipher userID id req).ObservedOnce (vaultEvent? contents)
      (fun events response =>
        events = vaultEvents contents (.updateCipher userID id req) response)
      [] := by
  unfold handleUpdateCipher
  cases req with
  | none =>
      split
      · rfl
      · rfl
  | some data =>
      split
      · rfl
      · dsimp only
        split
        · rfl
        · refine ⟨Nat.zero_le _, fun now =>
            ⟨Nat.zero_le _, fun updated => ?_⟩⟩
          rcases updated with (- | - | -) | -
          · rfl
          · rfl
          · rfl
          · exact vault_audited rfl

/-- `handleDeleteCipher` removes its item, or makes no event. -/
theorem vault_handleDeleteCipher (userID id : String) :
    (handleDeleteCipher userID id).ObservedOnce (vaultEvent? contents)
      (fun events response =>
        events = vaultEvents contents (.deleteCipher userID id) response)
      [] := by
  unfold handleDeleteCipher
  split
  · rfl
  · refine ⟨Nat.zero_le _, fun deleted => ?_⟩
    rcases deleted with (- | - | -) | -
    · rfl
    · rfl
    · rfl
    · exact vault_audited rfl

/-- `handleDeleteAccount` erases the account's items, or makes no event. -/
theorem vault_handleDeleteAccount (userID : String) :
    (handleDeleteAccount userID).ObservedOnce (vaultEvent? contents)
      (fun events response =>
        events = vaultEvents contents (.deleteAccount userID) response)
      [] := by
  unfold handleDeleteAccount
  split
  · rfl
  · refine ⟨Nat.zero_le _, fun deleted => ?_⟩
    rcases deleted with (- | - | -) | -
    · rfl
    · rfl
    · rfl
    · rfl

/-- `handleSync` lists the account's items, or makes no event. -/
theorem vault_handleSync (userID : String) :
    (handleSync userID).ObservedOnce (vaultEvent? contents)
      (fun events response =>
        events = vaultEvents contents (.sync userID) response)
      [] := by
  unfold handleSync
  split
  · rfl
  · refine ⟨Nat.zero_le _, fun listed => ?_⟩
    cases listed with
    | error e =>
        rfl
    | ok ciphers =>
        simp [vaultEvent?, vaultEvents, acceptedEvents, Response.isOk]

/-- What a request shows of the vault is what its response stands for. -/
theorem vault_serve (env : Environment) (request : Request) :
    (serve env request).ObservedOnce (vaultEvent? contents)
      (fun events response => events = vaultEvents contents request response)
      [] := by
  cases request with
  | createCipher userID req => exact vault_handleCreateCipher userID req
  | updateCipher userID id req => exact vault_handleUpdateCipher userID id req
  | deleteCipher userID id => exact vault_handleDeleteCipher userID id
  | deleteAccount userID => exact vault_handleDeleteAccount userID
  | sync userID => exact vault_handleSync userID
  | _ =>
      exact Program.Only.unobserved (away_serve env _ rfl) vaultEvent?_away rfl
        (Nat.zero_le _) fun response => (ite_self (c := response.isOk) []).symm

/-!
## Concurrent requests
-/

/--
Whatever the interleaving of the calls of any requests, the events of the vault
form a sequential history of an owned map; each request makes at most one event,
and one that has been answered has made the event that its response stands for.
-/
theorem vault_linearizable
    {backend : Backend}
    {env : Environment}
    {state : State}
    {requests : Nat → Request}
    {allowed : Serving → Nat → Choice → Prop}
    {final : Serving}
    (reaches :
      Configuration.Reaches (execute backend) allowed
        (serving env state requests) final) :
    let events := final.trace.observed (vaultEvent? contents)
    OwnedMap.Shared vaultAccess (state.vault contents) events
        (final.state.vault contents) ∧
      (∀ process, (eventsOf process events).length ≤ 1) ∧
      ∀ process response,
        (final.pool process).outcome? = some response →
          eventsOf process events =
            vaultEvents contents (requests process) response := by
  intro events
  have seen :
      ∀ process,
        eventsOf process events =
          (final.trace.ofProcess process).filterMap (vaultEvent? contents) :=
    fun process => Trace.eventsOf_observed _ final.trace process
  have once :
      ∀ process,
        (final.pool process).ObservedOnce (vaultEvent? contents)
          (fun events response =>
            events = vaultEvents contents (requests process) response)
          (final.trace.ofProcess process) :=
    fun process => reaches.obeys (vault_serve env (requests process))
  refine ⟨?_, ?_, ?_⟩
  · exact reaches.plays (fun state => state.vault contents)
      (OwnedMap.Step vaultAccess) fun _ _ operation => vault_execute operation
  · intro process
    rw [seen]
    refine (once process).length_le ?_
    intro response _ same
    rw [same]
    exact length_vaultEvents_le _ _
  · intro process response finished
    rw [seen]
    have ended := once process
    rw [Program.eq_done_of_outcome? finished] at ended
    exact ended

end Vault

/-- The id that is drawn from the bytes of `moment 1`. -/
def firstID : String := "01000000000000000000000000000000"

/-- One device stores an item and another one deletes it. -/
def storeAndDelete : Nat → Request
  | 0 => .createCipher "u" (some "d")
  | _ => .deleteCipher "u" firstID

/-- The item is deleted before the request that stored it is answered. -/
def deletedEarly : Serving :=
  (serving plainEnvironment State.empty storeAndDelete).follow (execute .memory)
    ([0, 0, 0, 1, 1, 1, 1, 0, 0, 0].map fun process => (process, moment 1))

/-- Storing comes before deleting, although it is answered later. -/
theorem storeAndDelete_linearized :
    let events := deletedEarly.trace.observed (vaultEvent? fun _ data => data)
    OwnedMap.Shared vaultAccess (State.empty.vault fun _ data => data) events
        (deletedEarly.state.vault fun _ data => data) ∧
      eventsOf 0 events = [.created firstID "u" "d"] ∧
      eventsOf 1 events = [.removed "u" firstID] := by
  have linearized := @vault_linearizable String (fun _ data => data) .memory
    plainEnvironment State.empty storeAndDelete Configuration.anyStep
    deletedEarly (.of_follow _ _)
  refine ⟨linearized.1, ?_, ?_⟩
  · exact linearized.2.2 0 ⟨201, .cipher firstID "d" 0 0⟩ rfl
  · exact linearized.2.2 1 ⟨204, .none⟩ rfl

end Passwd.Server
