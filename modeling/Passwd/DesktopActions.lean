import Passwd.DesktopStorage
import Passwd.InteractionPool

namespace Passwd.Desktop

open Base64 Crypto Interaction Json OfflineVault

/-!
# Saves, deletions and password changes on one vault

An action of the vault screen works on the vault that was shown when it started.
It writes the whole file and then replaces the whole shown vault, and nothing
keeps another action from doing the same in between.
-/

/-!
## Actions
-/

/-- The number of UTF-16 code units of a text. -/
def unitLength (text : String) : Nat :=
  text.toList.foldl
    (fun length symbol =>
      if symbol.toNat < 0x10000 then length + 1 else length + 2)
    0

/-- `MIN_MASTER_PASSWORD_LENGTH` -/
def MIN_MASTER_PASSWORD_LENGTH : Nat := 12

/-- `masterPasswordIssue` -/
def masterPasswordIssue (password : String) : Option String :=
  let classes : List (Char → Bool) :=
    [fun symbol => symbol.isLower, fun symbol => symbol.isUpper,
      fun symbol => symbol.isDigit, fun symbol => !symbol.isAlphanum]
  if unitLength password < MIN_MASTER_PASSWORD_LENGTH then
    some
      ("Use at least " ++ toString MIN_MASTER_PASSWORD_LENGTH ++
        " characters (a short passphrase works well).")
  else if 16 ≤ unitLength password then
    none
  else if (classes.filter fun re => password.toList.any re).length < 2 then
    some "Mix in another character type, or use a longer passphrase."
  else
    none

/-- `newItemId`, from the bytes it draws. -/
def newItemId (b : Drawn 16) : String :=
  String.ofList
    (b.1.flatMap fun x =>
      [hexDigit (x.toNat / 16), hexDigit (x.toNat % 16)])

/-- `text.trim()` is empty. -/
def isBlank (text : String) : Bool :=
  text.toList.all Identifier.isJsSpace

/-- The item that `saveItem` saves: a new one gets an id. -/
def withId (item : VaultItem) (id : Drawn 16) : VaultItem :=
  if item.id = "" then { item with id := newItemId id } else item

/-- The items after `saveItem`. -/
def savedItems (items : List VaultItem) (item : VaultItem) (id : Drawn 16) :
    List VaultItem :=
  let withId := withId item id
  if items.any fun i => i.id = withId.id then
    items.map fun i => if i.id = withId.id then withId else i
  else
    items ++ [withId]

/-- The items after `deleteItem`. -/
def remainingItems (items : List VaultItem) (item : VaultItem) :
    List VaultItem :=
  items.filter fun i => i.id ≠ item.id

/-- The vault that the screen shows when an action starts. -/
def shownVault : App DesktopVault :=
  ExceptT.lift (ask .vault)

/-- `props.onChange` -/
def setVault (next : DesktopVault) : App Unit :=
  ExceptT.lift (ask (.setVault next))

section Programs

variable (crypto : Primitives) (kdf : DerivationFunctions)

/-- `commit` -/
def commit (vault : DesktopVault) (items : List VaultItem) (nonce : Drawn 12) :
    App Unit := do
  let next := { vault with items := items }
  persist crypto next nonce
  setVault next

/-- The button of `ItemEditor`, with `saveItem`. -/
def saveItem (item : VaultItem) (id : Drawn 16) (nonce : Drawn 12) :
    App Unit := do
  if isBlank item.name && isBlank item.username && isBlank item.url then
    throw (.message "Give the item a name, username, or URL.")
  let vault ← shownVault
  commit crypto vault (savedItems vault.items item id) nonce

/-- `deleteItem`, once it is confirmed. -/
def deleteItem (item : VaultItem) (nonce : Drawn 12) : App Unit := do
  let vault ← shownVault
  commit crypto vault (remainingItems vault.items item) nonce

/-- The button of `ChangePassword`. -/
def changePassword
    (pw confirm : String)
    (salt : Drawn 16)
    (keyNonce nonce : Drawn 12) :
    App Unit := do
  if let some weak := masterPasswordIssue pw then
    throw (.message weak)
  if pw ≠ confirm then
    throw (.message "The passwords don't match.")
  let vault ← shownVault
  let next ← rekey crypto kdf vault pw salt keyNonce nonce
  setVault next

/-- What a user starts on the vault screen, with the bytes that it draws. -/
inductive Action where
  | saveItem (item : VaultItem) (id : Drawn 16) (nonce : Drawn 12)
  | deleteItem (item : VaultItem) (nonce : Drawn 12)
  | changePassword
      (pw confirm : String)
      (salt : Drawn 16)
      (keyNonce nonce : Drawn 12)

/-- The program of an action. -/
def Action.perform : Action → App Unit
  | .saveItem item id nonce => Desktop.saveItem crypto item id nonce
  | .deleteItem item nonce => Desktop.deleteItem crypto item nonce
  | .changePassword pw confirm salt keyNonce nonce =>
      Desktop.changePassword crypto kdf pw confirm salt keyNonce nonce

/-!
## The common shape of the actions
-/

/-- What an action checks before it looks at the vault. -/
def Action.check : Action → Except Failure Unit
  | .saveItem item _ _ =>
      if isBlank item.name && isBlank item.username && isBlank item.url then
        .error (.message "Give the item a name, username, or URL.")
      else
        .ok ()
  | .deleteItem _ _ => .ok ()
  | .changePassword pw confirm _ _ _ =>
      match masterPasswordIssue pw with
      | some weak => .error (.message weak)
      | none =>
          if pw ≠ confirm then
            .error (.message "The passwords don't match.")
          else
            .ok ()

/-- What an action does to the items. -/
def Action.apply (items : List VaultItem) : Action → List VaultItem
  | .saveItem item id _ => savedItems items item id
  | .deleteItem item _ => remainingItems items item
  | .changePassword _ _ _ _ _ => items

/-- The master password after an action. -/
def Action.passwordAfter (current : String) : Action → String
  | .changePassword pw _ _ _ _ => pw
  | _ => current

/-- The file that an action writes and the vault that it then shows. -/
def Action.prepare (shown : DesktopVault) (action : Action) :
    Except Failure (String × DesktopVault) :=
  match action with
  | .changePassword pw _ salt keyNonce nonce =>
      (changeMasterPassword crypto kdf shown.state pw
        (encodePayload shown.items) none salt keyNonce nonce).map
          fun changed => (changed.1, { shown with state := changed.2 })
  | .saveItem _ _ nonce | .deleteItem _ nonce =>
      let next := { shown with items := action.apply shown.items }
      (saveVault crypto shown.state (encodePayload next.items) nonce).map
        fun file => (file, next)

/-- Show the result of an action once its file is written. -/
def showResult (next : DesktopVault) :
    Except Failure Unit → Program appCalls (Except Failure Unit)
  | .error failure => .done (.error failure)
  | .ok _ =>
      @Program.perform appCalls _ (Operation.setVault next)
        fun _ => .done (.ok ())

/-- Write the file of an action, then show its result. -/
def writeResult (shown : DesktopVault) :
    Except Failure (String × DesktopVault) →
      Program appCalls (Except Failure Unit)
  | .error failure => .done (.error failure)
  | .ok (contents, next) =>
      @Program.perform appCalls _
        (Operation.writeFile shown.path contents) (showResult next)

/-- A commit writes the items and shows them. -/
theorem commit_eq
    (vault : DesktopVault)
    (items : List VaultItem)
    (nonce : Drawn 12) :
    (commit crypto vault items nonce).run =
      writeResult vault
        ((saveVault crypto vault.state (encodePayload items) nonce).map
          fun file => (file, { vault with items := items })) := by
  dsimp only [commit, persist]
  cases saveVault crypto vault.state (encodePayload items) nonce with
  | error failure =>
      rfl
  | ok file =>
      apply congrArg (@Program.perform appCalls _ _)
      funext written
      cases written with
      | error failure =>
          rfl
      | ok _ =>
          rfl

/-- A change of the password writes the file and shows the new state. -/
theorem rekey_eq
    (vault : DesktopVault)
    (pw : String)
    (salt : Drawn 16)
    (keyNonce nonce : Drawn 12) :
    (rekey crypto kdf vault pw salt keyNonce nonce >>= setVault).run =
      writeResult vault
        ((changeMasterPassword crypto kdf vault.state pw
          (encodePayload vault.items) none salt keyNonce nonce).map
            fun changed => (changed.1, { vault with state := changed.2 })) := by
  dsimp only [rekey]
  cases changeMasterPassword crypto kdf vault.state pw
      (encodePayload vault.items) none salt keyNonce nonce with
  | error failure =>
      rfl
  | ok changed =>
      apply congrArg (@Program.perform appCalls _ _)
      funext written
      cases written with
      | error failure =>
          rfl
      | ok _ =>
          rfl

/-- Every action reads the shown vault, writes one file and shows one result. -/
theorem perform_eq (action : Action) :
    (action.perform crypto kdf).run =
      match action.check with
      | .error failure => .done (.error failure)
      | .ok _ =>
          @Program.perform appCalls _ Operation.vault fun shown =>
            writeResult shown (action.prepare crypto kdf shown) := by
  cases action with
  | saveItem item id nonce =>
      simp only [Action.perform, Action.check, saveItem]
      by_cases blank :
          (isBlank item.name && isBlank item.username && isBlank item.url) =
            true
      · simp only [if_pos blank]
        rfl
      · simp only [if_neg blank]
        apply congrArg (@Program.perform appCalls _ _)
        funext shown
        exact commit_eq crypto shown _ nonce
  | deleteItem item nonce =>
      apply congrArg (@Program.perform appCalls _ _)
      funext shown
      exact commit_eq crypto shown _ nonce
  | changePassword pw confirm salt keyNonce nonce =>
      simp only [Action.perform, Action.check, changePassword]
      cases masterPasswordIssue pw with
      | some weak =>
          rfl
      | none =>
          by_cases different : pw ≠ confirm
          · simp only [if_pos different]
            rfl
          · simp only [if_neg different]
            apply congrArg (@Program.perform appCalls _ _)
            funext shown
            exact rekey_eq crypto kdf shown pw salt keyNonce nonce

end Programs

/-!
## Runs
-/

/-- The exchange that reads the shown vault. -/
def reads (shown : DesktopVault) : Exchange appCalls where
  operation := Operation.vault
  answer := shown

/-- The exchange that writes a file. -/
def writes (path contents : String) (answer : Except Failure Unit) :
    Exchange appCalls where
  operation := Operation.writeFile path contents
  answer := answer

/-- The exchange that shows a result. -/
def shows (next : DesktopVault) : Exchange appCalls where
  operation := Operation.setVault next
  answer := ()

/-- The vault that an action started from. -/
def startedFrom (history : History appCalls) : Option DesktopVault :=
  match history.head? with
  | some ⟨.vault, shown⟩ => some shown
  | _ => none

/-- An action has written the file and has yet to show its result. -/
def awaitsResult (history : History appCalls) : Bool :=
  match history.getLast? with
  | some ⟨.writeFile _ _, .ok _⟩ => true
  | _ => false

/-- An event is the showing of a result, with which an action succeeds. -/
def Operation.isResult : Operation → Bool
  | .setVault _ => true
  | _ => false

/-- The actions that succeeded, in the order in which they did. -/
def succeeded (trace : Trace appCalls) : List Nat :=
  trace.filterMap fun event =>
    if Operation.isResult event.exchange.operation then
      some event.process
    else
      none

/-- Runs of actions of the vault screen. -/
abbrev Acting := Configuration appCalls AppState (Except Failure Unit)

/-- No action has taken a step yet. -/
def acting
    (crypto : Primitives)
    (kdf : DerivationFunctions)
    (state : AppState)
    (actions : Nat → Action) :
    Acting :=
  .initial state fun process => ((actions process).perform crypto kdf).run

/-- Every action that has started has finished. -/
def Settled (configuration : Acting) : Prop :=
  ∀ process,
    (∃ result, configuration.pool process = .done result) ∨
      configuration.trace.ofProcess process = []

/--
A write goes through only while the vault that its action started from is the
shown one and no other action has a result to show, and a write that fails
leaves the file as it was.
-/
def keepsUpdates
    (configuration : Acting)
    (process : Nat)
    (result : WriteResult) :
    Prop :=
  ∀ path contents,
    (configuration.pool process).operation? =
        some (Operation.writeFile path contents) →
      match result with
      | .written =>
          startedFrom (configuration.trace.ofProcess process) =
              some configuration.state.vault ∧
            ∀ other, other ≠ process →
              awaitsResult (configuration.trace.ofProcess other) = false
      | .refused left => left = configuration.state.files path

/-- The items after some actions, one after another. -/
def itemsAfter
    (actions : Nat → Action)
    (items : List VaultItem)
    (processes : List Nat) :
    List VaultItem :=
  processes.foldl (fun items process => (actions process).apply items) items

/-- The master password after some actions, one after another. -/
def passwordAfter
    (actions : Nat → Action)
    (password : String)
    (processes : List Nat) :
    String :=
  processes.foldl
    (fun current process => (actions process).passwordAfter current) password

/-!
## What an action does along its history
-/

section Histories

variable (crypto : Primitives) (kdf : DerivationFunctions)

/-- What an action has done before each of its calls. -/
def Action.requests (action : Action) (history : History appCalls) :
    Operation → Prop
  | .vault => history = []
  | .writeFile path contents =>
      ∃ shown next,
        history = [reads shown] ∧
          action.prepare crypto kdf shown = .ok (contents, next) ∧
            path = shown.path
  | .setVault next =>
      ∃ shown contents,
        history = [reads shown, writes shown.path contents (.ok ())] ∧
          action.prepare crypto kdf shown = .ok (contents, next)

/-- What an action has done when it finishes. -/
def results (history : History appCalls) (result : Except Failure Unit) : Prop :=
  awaitsResult history = false ∧
    (result = .ok () → ∃ next, shows next ∈ history)

/-- Every action calls as described. -/
theorem perform_obeys (action : Action) :
    (action.perform crypto kdf).run.Obeys
      (action.requests crypto kdf) results [] := by
  rw [perform_eq]
  cases action.check with
  | error failure =>
      exact ⟨rfl, fun isOk => by cases isOk⟩
  | ok _ =>
      refine ⟨rfl, ?_⟩
      intro shown
      change (writeResult shown _).Obeys _ _ [reads shown]
      cases prepared : action.prepare crypto kdf shown with
      | error failure =>
          exact ⟨rfl, fun isOk => by cases isOk⟩
      | ok result =>
          obtain ⟨contents, next⟩ := result
          refine ⟨⟨shown, next, rfl, prepared, rfl⟩, ?_⟩
          intro written
          cases written with
          | error failure =>
              exact ⟨rfl, fun isOk => by cases isOk⟩
          | ok _ =>
              refine ⟨⟨shown, contents, rfl, prepared⟩, ?_⟩
              intro _
              exact ⟨rfl, fun _ =>
                ⟨next, List.mem_append_right _ (List.mem_singleton.mpr rfl)⟩⟩

end Histories

section Runs

variable {crypto : Primitives} {kdf : DerivationFunctions}
  {actions : Nat → Action} {configuration : Acting} {password : String}

/-- What saved items open to. -/
theorem openExistingVault_of_saved
    (authenticated : crypto.Authenticated)
    {vault : DesktopVault}
    {nonce : Drawn 12}
    {file : String}
    {files : Files}
    (spelled : vault.state.Spelled)
    (opens : vault.state.OpensWith crypto kdf password)
    (saved :
      saveVault crypto vault.state (encodePayload vault.items) nonce =
        .ok file)
    (found : files vault.path = some file) :
    openExistingVault crypto kdf files vault.path password = .ok vault :=
  openExistingVault_eq found
    (opens.openVault_eq authenticated spelled (isJson_encodePayload _) saved)

/-- What an action writes opens to what it shows. -/
theorem openExistingVault_of_prepare
    (authenticated : crypto.Authenticated)
    {action : Action}
    {shown next : DesktopVault}
    {contents : String}
    {files : Files}
    (spelled : shown.state.Spelled)
    (opens : shown.state.OpensWith crypto kdf password)
    (prepared : action.prepare crypto kdf shown = .ok (contents, next))
    (found : files shown.path = some contents) :
    next.items = action.apply shown.items ∧
      openExistingVault crypto kdf files next.path
        (action.passwordAfter password) = .ok next := by
  cases action with
  | saveItem item id nonce =>
      obtain ⟨file, saved, result⟩ := ok_of_map prepared
      cases result
      exact ⟨rfl,
        openExistingVault_of_saved authenticated spelled opens saved found⟩
  | deleteItem item nonce =>
      obtain ⟨file, saved, result⟩ := ok_of_map prepared
      cases result
      exact ⟨rfl,
        openExistingVault_of_saved authenticated spelled opens saved found⟩
  | changePassword pw confirm salt keyNonce nonce =>
      obtain ⟨⟨file, state⟩, changed, result⟩ := ok_of_map prepared
      cases result
      have written := serializedUnder_of_serializeUnder changed
      obtain ⟨_, serialized⟩ := written.serialized
      exact ⟨rfl,
        openExistingVault_of_saved authenticated
          (written.spelled spelled.kdf)
          (written.wrapped.opensWith authenticated) serialized found⟩

end Runs

end Passwd.Desktop
