import Passwd.ImportScreen
import Passwd.VaultReads

namespace Passwd.Client

open Base64 Crypto Interaction Server VaultItem VaultExport EncryptedBackup

/-!
# Restoring a backup into another account

What one account exports, another one imports: the export is written, picked on
the screen of the other account, decrypted if it is a backup, and imported item
by item while other requests are served.  A device of that account that loads
afterwards is shown the exported items.
-/

/-- The items of a backup are items of a client. -/
theorem isItem_marked (crypto : Primitives) (item : ItemFields) :
    IsItem crypto item.marked.toMembers where
  settled :=
    settled_of_normalizeItemFields
      (@normalizeItemFields_toMembers crypto.numberText item)
  wellFormed := (@ItemFields.wellFormed crypto.numberText item.marked).1
  finite := (@ItemFields.wellFormed crypto.numberText item.marked).2

/-- An import without failures got an id for every item. -/
theorem exists_id_of_noneFailed
    {ids : List (Option String)}
    {items : List Json.Members}
    {item : Json.Members}
    (sameLength : ids.length = items.length)
    (noneFailed : (Imported.ofIds ids).failed = 0)
    (member : item ∈ items) :
    ∃ id, (some id, item) ∈ ids.zip items := by
  have snds := List.map_snd_zip (Nat.le_of_eq sameLength.symm)
  rw [← snds] at member
  obtain ⟨⟨id?, fields⟩, inZip, isItem⟩ := List.mem_map.mp member
  dsimp only at isItem
  subst isItem
  have added := List.countP_eq_zero.mp noneFailed _ (List.of_mem_zip inZip).1
  cases id? with
  | none => exact absurd rfl added
  | some id => exact ⟨id, inZip⟩

section Runs

variable {crypto : Primitives} {kdf : OfflineVault.DerivationFunctions}
  {keys : String → Bytes} {env : Environment} {backend : Backend}
  {state : State} {work : Nat → Work VaultAction}
  {allowed : Working → Nat → SystemChoice → Prop} {middle final : Working}

/-- What is chosen from an exported file is what the export restores. -/
theorem restored_of_imports
    (exclusive : OfflineVault.Exclusive crypto)
    (authenticated : crypto.Authenticated)
    (derivesKeys : DerivesKeys crypto kdf)
    {file : String}
    {items : List ItemFields}
    {happenings : List ImportScreen.Happening}
    {chosen : List Json.Members}
    (exported : ImportScreen.Exported crypto kdf file items)
    (onlyFile : ∀ text ∈ ImportScreen.picked happenings, text = file)
    (starts :
      chosen ∈ (ImportScreen.Screen.run crypto kdf happenings).imports) :
    chosen = ImportScreen.restored items := by
  obtain ⟨-, origins⟩ :=
    @ImportScreen.run_concerned crypto kdf (ImportScreen.picked happenings)
      happenings fun _ => ImportScreen.within_picked
  obtain ⟨text, -, same, -⟩ :=
    @ImportScreen.Origin.restores _ _ _ exclusive authenticated derivesKeys
      chosen (fun _ => items) (origins chosen starts) (by
        intro text isPicked
        rw [onlyFile text isPicked]
        exact exported)
  exact same

end Runs

/-- Decryption under strict primitives refuses other keys too. -/
theorem exclusive_strictPrimitives :
    OfflineVault.Exclusive strictPrimitives := by
  intro key other nonce plaintext data encrypted
  exact OfflineVault.exclusive_plainPrimitives key other nonce plaintext data
    (Option.ite_none_right_eq_some.mp encrypted).2

/-- One device imports what a screen has chosen and another one loads. -/
def restoreAndLoad (chosen : List Json.Members) : Nat → Work VaultAction
  | 0 => .device "u" plainSession (.importAll chosen)
  | _ => .device "u" plainSession .load

/-- The import is over. -/
def restoredNothing (chosen : List Json.Members) : Working :=
  (working strictPrimitives plainEnvironment oneItem
    (restoreAndLoad chosen)).follow (executeSystem .memory) (moments [0, 0, 0])

/-- The other device has loaded. -/
def loadedAfterRestore (chosen : List Json.Members) : Working :=
  (restoredNothing chosen).follow (executeSystem .memory) (moments [1])

/-- Nothing but the listing reaches the vault. -/
theorem loadedAfterRestore_observed :
    ∃ entries,
      (loadedAfterRestore
        (ImportScreen.restored [loginWithPin])).trace.observed
          (systemEvent? strictPrimitives fun _ => []) =
        [(1, .listed "u" entries)] :=
  ⟨_, rfl⟩

end Passwd.Client
