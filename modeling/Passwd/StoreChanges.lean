import Passwd.RequestScope
import Passwd.TableChange

namespace Passwd.Server

open Base64 Interaction

/-!
# What a call does to the rows of each table

One lemma for each table of the store.  A call that is made for one account
deletes and rewrites rows of that account only, and writes a row that names it;
the row that a call writes names the accounts that the call refers to.

The in-memory store has one exception.  It replaces the row of a passkey when a
new passkey happens to get its id, whoever the old one belongs to.
-/

section Changes

variable {backend : Backend} {choice : Choice} {state : State}
  {operation : Operation}

/-- A row concerns every account that a call is made for. -/
def Operation.Concerns (operation : Operation) (names : String → Prop) : Prop :=
  ∀ userID, operation.IsFor userID → names userID

/-- A store call changes a table as its outcome does, or not at all. -/
theorem change_attempt
    {α Row Key Owner : Type}
    [DecidableEq Key]
    {key : Row → Key}
    {owner : Row → Owner}
    {mine added : Row → Prop}
    (table : Store → Table key)
    {outcome : Store.Outcome α}
    (change :
      Table.Change owner mine added (table state.store) (table outcome.2)) :
    Table.Change owner mine added (table state.store)
      (table (attempt choice state operation outcome).2.store) := by
  rcases attempt_cases choice state operation outcome with failed | done
  · rw [failed]
    exact Table.Change.same
  · rw [done]
    exact change

/-- A row found by its key is the row of the table with that key. -/
theorem any_of_find?
    {Row Key : Type}
    [DecidableEq Key]
    {key : Row → Key}
    {table : Table key}
    {wanted : Key}
    {accepted : Row → Bool}
    (found : (table.find? wanted).any accepted = true)
    {row : Row}
    (member : row ∈ table.rows)
    (isWanted : key row = wanted) :
    accepted row = true := by
  rw [← isWanted, Table.find?_of_mem member] at found
  exact found

/-- The ciphers after a call. -/
theorem ciphers_change :
    Table.Change Cipher.userID
      (fun c => operation.Concerns fun userID => c.userID = userID)
      (fun c => operation.refersTo = [c.userID] ∧
        operation.Concerns fun userID => c.userID = userID)
      state.store.ciphers
      (execute backend choice state operation).2.store.ciphers := by
  by_cases untouched : operation.touches .ciphers = false
  · have same := @execute_same backend choice state _ _ untouched
    simp only [Part.Same] at same
    rw [same]
    exact Table.Change.same
  · cases operation with
    | createCipher c =>
        refine change_attempt Store.ciphers ?_
        unfold Store.createCipher
        cases found : state.store.ciphers.find? c.id with
        | some old =>
            exact Table.Change.same
        | none =>
            refine Table.Change.write ⟨rfl, fun _ => id⟩ ?_
            intro old member same
            rw [← same, Table.find?_of_mem member] at found
            cases found
    | updateCipher c =>
        refine change_attempt Store.ciphers ?_
        unfold Store.updateCipher
        split
        · rename_i found
          apply Table.Change.update
          · exact fun _ => rfl
          · exact fun _ => rfl
          · intro row member isSelected userID isFor
            have owned := any_of_find? found member (of_decide_eq_true isSelected)
            exact (of_decide_eq_true owned).trans isFor
        · exact Table.Change.same
    | deleteCipher userID id =>
        refine change_attempt Store.ciphers ?_
        unfold Store.deleteCipher
        split
        · rename_i found
          refine Table.Change.delete ?_
          intro row member isSelected other isFor
          have owned := any_of_find? found member (of_decide_eq_true isSelected)
          exact (of_decide_eq_true owned).trans isFor
        · exact Table.Change.same
    | deleteAccount userID =>
        refine change_attempt Store.ciphers ?_
        unfold Store.deleteAccount
        split
        · refine Table.Change.delete ?_
          intro row member isSelected other isFor
          exact (of_decide_eq_true isSelected).trans isFor
        · exact Table.Change.same
    | _ => exact absurd rfl untouched

/-- The refresh tokens after a call. -/
theorem refresh_change :
    Table.Change RefreshToken.userID
      (fun rt => operation.Concerns fun userID => rt.userID = userID)
      (fun rt => operation.refersTo = [rt.userID] ∧
        operation.Concerns fun userID => rt.userID = userID)
      state.store.refresh
      (execute backend choice state operation).2.store.refresh := by
  by_cases untouched : operation.touches .refresh = false
  · have same := @execute_same backend choice state _ _ untouched
    simp only [Part.Same] at same
    rw [same]
    exact Table.Change.same
  · cases operation with
    | createRefreshToken rt =>
        have notFor :
            ∀ {names : String → Prop},
              (Operation.createRefreshToken rt).Concerns names := by
          intro names userID isFor
          cases isFor
        refine change_attempt Store.refresh ?_
        unfold Store.createRefreshToken
        split
        · split
          · exact Table.Change.same
          · exact Table.Change.write ⟨rfl, notFor⟩ fun _ _ _ => notFor
        · exact Table.Change.write ⟨rfl, notFor⟩ fun _ _ _ => notFor
    | deleteRefreshToken tokenHash =>
        refine change_attempt Store.refresh (Table.Change.delete ?_)
        intro row member isSelected userID isFor
        cases isFor
    | markRefreshTokenUsed tokenHash =>
        refine change_attempt Store.refresh ?_
        unfold Store.markRefreshTokenUsed
        split
        · apply Table.Change.update
          · exact fun _ => rfl
          · exact fun _ => rfl
          · intro row member isSelected userID isFor
            cases isFor
        · exact Table.Change.same
    | deleteRefreshTokensForUser userID =>
        refine change_attempt Store.refresh (Table.Change.delete ?_)
        intro row member isSelected other isFor
        exact (of_decide_eq_true isSelected).trans isFor
    | deleteAccount userID =>
        refine change_attempt Store.refresh ?_
        unfold Store.deleteAccount
        split
        · refine Table.Change.delete ?_
          intro row member isSelected other isFor
          exact (of_decide_eq_true isSelected).trans isFor
        · exact Table.Change.same
    | _ => exact absurd rfl untouched

/--
A new passkey does not replace a passkey of another account: the databases
refuse a taken id, the in-memory store does not.
-/
def SparesPasskeys
    (backend : Backend)
    (store : Store) :
    Operation → Prop
  | .createWebAuthnCredential c =>
      backend.isSql = false →
        ∀ old, store.passkeys.find? c.id = some old → old.userID = c.userID
  | _ => True

/-- The passkeys after a call. -/
theorem passkeys_change :
    Table.Change WebAuthnCredential.userID
      (fun c => SparesPasskeys backend state.store operation →
        operation.Concerns fun userID => c.userID = userID)
      (fun c => operation.refersTo = [c.userID] ∧
        operation.Concerns fun userID => c.userID = userID)
      state.store.passkeys
      (execute backend choice state operation).2.store.passkeys := by
  by_cases untouched : operation.touches .passkeys = false
  · have same := @execute_same backend choice state _ _ untouched
    simp only [Part.Same] at same
    rw [same]
    exact Table.Change.same
  · cases operation with
    | createWebAuthnCredential c =>
        refine change_attempt Store.passkeys ?_
        unfold Store.createWebAuthnCredential
        split
        · exact Table.Change.same
        · split
          · exact Table.Change.same
          · rename_i notTaken
            refine Table.Change.write ⟨rfl, fun _ => id⟩ ?_
            intro old member same spares userID isFor
            have found := Table.find?_of_mem member
            rw [same] at found
            cases isSql : backend.isSql with
            | true =>
                rw [isSql, found] at notTaken
                exact absurd rfl notTaken
            | false =>
                exact (spares isSql old found).trans isFor
    | updateWebAuthnSignCount credentialID signCount =>
        refine change_attempt Store.passkeys ?_
        unfold Store.updateWebAuthnSignCount
        split
        · apply Table.Change.update
          · exact fun _ => rfl
          · exact fun _ => rfl
          · intro row member isSelected _ userID isFor
            cases isFor
        · exact Table.Change.same
    | deleteWebAuthnCredential userID id =>
        refine change_attempt Store.passkeys ?_
        unfold Store.deleteWebAuthnCredential
        split
        · rename_i found
          refine Table.Change.delete ?_
          intro row member isSelected _ other isFor
          have owned := any_of_find? found member (of_decide_eq_true isSelected)
          exact (of_decide_eq_true owned).trans isFor
        · exact Table.Change.same
    | deleteAccount userID =>
        refine change_attempt Store.passkeys ?_
        unfold Store.deleteAccount
        split
        · refine Table.Change.delete ?_
          intro row member isSelected _ other isFor
          exact (of_decide_eq_true isSelected).trans isFor
        · exact Table.Change.same
    | _ => exact absurd rfl untouched

/-- The shares after a call. -/
theorem shares_change :
    Table.Change (fun sh : Share => (sh.ownerUserID, sh.recipientUserID))
      (fun sh => operation.Concerns fun userID =>
        sh.ownerUserID = userID ∨ sh.recipientUserID = userID)
      (fun sh => operation.refersTo = [sh.ownerUserID, sh.recipientUserID] ∧
        operation.Concerns fun userID => sh.ownerUserID = userID)
      state.store.shares
      (execute backend choice state operation).2.store.shares := by
  by_cases untouched : operation.touches .shares = false
  · have same := @execute_same backend choice state _ _ untouched
    simp only [Part.Same] at same
    rw [same]
    exact Table.Change.same
  · cases operation with
    | createShare sh =>
        refine change_attempt Store.shares ?_
        unfold Store.createShare
        cases found : state.store.shares.find? sh.id with
        | some old =>
            exact Table.Change.same
        | none =>
            refine Table.Change.write ⟨rfl, fun _ => id⟩ ?_
            intro old member same
            rw [← same, Table.find?_of_mem member] at found
            cases found
    | deleteShare userID id =>
        refine change_attempt Store.shares ?_
        unfold Store.deleteShare
        split
        · rename_i found
          refine Table.Change.delete ?_
          intro row member isSelected other isFor
          have owned := any_of_find? found member (of_decide_eq_true isSelected)
          simp only [Bool.or_eq_true, decide_eq_true_eq] at owned
          rcases owned with recipient | owner
          · exact Or.inr (recipient.trans isFor)
          · exact Or.inl (owner.trans isFor)
        · exact Table.Change.same
    | deleteAccount userID =>
        refine change_attempt Store.shares ?_
        unfold Store.deleteAccount
        split
        · refine Table.Change.delete ?_
          intro row member isSelected other isFor
          simp only [Bool.or_eq_true, decide_eq_true_eq] at isSelected
          rcases isSelected with owner | recipient
          · exact Or.inl (owner.trans isFor)
          · exact Or.inr (recipient.trans isFor)
        · exact Table.Change.same
    | _ => exact absurd rfl untouched

/-- Rewriting one user concerns that user. -/
theorem users_updateUser
    {store : Store}
    {id : String}
    {change : User → User}
    {keepsID : ∀ u, (change u).id = u.id}
    {added : User → Prop}
    (names : ∀ userID, operation.IsFor userID → id = userID) :
    Table.Change User.id
      (fun u => operation.Concerns fun userID => u.id = userID) added
      store.users (store.updateUser id change keepsID).2.users := by
  unfold Store.updateUser
  split
  · refine Table.Change.update keepsID keepsID ?_
    intro row member isSelected userID isFor
    exact (of_decide_eq_true isSelected).trans (names userID isFor)
  · exact Table.Change.same

/-- The users after a call. -/
theorem users_change :
    Table.Change User.id
      (fun u => operation.Concerns fun userID => u.id = userID)
      (fun u => operation.Concerns fun userID => u.id = userID)
      state.store.users
      (execute backend choice state operation).2.store.users := by
  by_cases untouched : operation.touches .users = false
  · have same := @execute_same backend choice state _ _ untouched
    simp only [Part.Same] at same
    rw [same]
    exact Table.Change.same
  · cases operation with
    | createUser u =>
        have notFor :
            ∀ {names : String → Prop},
              (Operation.createUser u).Concerns names := by
          intro names userID isFor
          cases isFor
        refine change_attempt Store.users ?_
        unfold Store.createUser
        split
        · split
          · exact Table.Change.same
          · split
            · split
              · exact Table.Change.same
              · exact Table.Change.write notFor fun _ _ _ => notFor
            · exact Table.Change.write notFor fun _ _ _ => notFor
        · exact Table.Change.same
    | setUserTOTP userID secret enabled =>
        exact change_attempt Store.users (users_updateUser fun _ => id)
    | setUserTOTPCounter userID counter =>
        refine change_attempt Store.users (users_updateUser ?_)
        intro other isFor
        cases isFor
    | setUserRecovery userID key verifier =>
        exact change_attempt Store.users (users_updateUser fun _ => id)
    | clearUserRecovery userID =>
        exact change_attempt Store.users (users_updateUser fun _ => id)
    | rotateMasterPassword userID verifier key kdf =>
        refine change_attempt Store.users ?_
        unfold Store.rotateMasterPassword
        split
        · refine users_updateUser ?_
          intro other isFor
          cases isFor
        · exact Table.Change.same
    | deleteAccount userID =>
        refine change_attempt Store.users ?_
        unfold Store.deleteAccount
        split
        · refine Table.Change.delete ?_
          intro row member isSelected other isFor
          exact (of_decide_eq_true isSelected).trans isFor
        · exact Table.Change.same
    | _ => exact absurd rfl untouched

/-- The audit log after a call. -/
theorem audit_change :
    (execute backend choice state operation).2.store.audit =
        state.store.audit ∨
      (∃ e : AuditEvent,
        (execute backend choice state operation).2.store.audit =
            state.store.audit ++ [e] ∧
          operation.refersTo = [e.userID] ∧
          operation.Concerns fun userID => e.userID = userID) ∨
      ∃ userID,
        operation = .deleteAccount userID ∧
          (execute backend choice state operation).2.store.audit =
            state.store.audit.filter fun e => !(e.userID = userID) := by
  by_cases untouched : operation.touches .audit = false
  · have same := @execute_same backend choice state _ _ untouched
    simp only [Part.Same] at same
    exact Or.inl same
  · cases operation with
    | appendAuditEvent e =>
        rcases attempt_cases choice state (.appendAuditEvent e)
            (state.store.appendAuditEvent backend e) with failed | done
        · exact Or.inl (congrArg (fun after => after.2.store.audit) failed)
        · simp only [execute, done]
          unfold Store.appendAuditEvent
          split
          · exact Or.inl rfl
          · exact Or.inr (Or.inl ⟨_, rfl, rfl, fun _ => id⟩)
    | deleteAccount userID =>
        rcases attempt_cases choice state (.deleteAccount userID)
            (state.store.deleteAccount userID) with failed | done
        · exact Or.inl (congrArg (fun after => after.2.store.audit) failed)
        · simp only [execute, done]
          unfold Store.deleteAccount
          split
          · exact Or.inr (Or.inr ⟨userID, rfl, rfl⟩)
          · exact Or.inl rfl
    | _ => exact absurd rfl untouched

end Changes

end Passwd.Server
