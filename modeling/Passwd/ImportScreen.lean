import Passwd.CsvRoundTrip
import Passwd.DesktopActions
import Passwd.EncryptedBackup
import Mathlib.Data.List.Induction

namespace Passwd.ImportScreen

open Crypto Json OfflineVault VaultExport EncryptedBackup

/-!
# The import and export screen

Files are read, backups decrypted and items imported while the screen stays
usable, so a file can be picked before an earlier one has been read or
decrypted.  What arrives late replaces what the screen shows.
-/

section Export

variable (crypto : Primitives) (kdf : DerivationFunctions)

/-- `exportPlain`, of JSON: the text that is downloaded. -/
def exportPlain (items : List ItemFields) : Option String :=
  toPlaintextJSON crypto.numberText (items.map ItemFields.toMembers)

/-- `exportEncrypted`, with the bytes it draws: the text that is downloaded. -/
def exportEncrypted
    (items : List ItemFields)
    (exportPass : String)
    (salt : Drawn 16)
    (nonce : Drawn 12) :
    Except Failure String :=
  if Desktop.unitLength exportPass < 8 then
    .error (.message "Use a backup passphrase of at least 8 characters.")
  else do
    let text ← orThrow .thrown (exportPlain crypto items)
    encryptBackup crypto kdf text exportPass OfflineVault.DEFAULT_KDF salt nonce

end Export

/-!
## Importing
-/

/-- What the screen is waiting for. -/
inductive Task where
  | reading (text : String)
  | decrypting (envelope passphrase : String)
  | importing (items : List Members) (outcomes : List Bool)

/--
The state of the import half, what it waits for, and the items of the imports
that it has started.
-/
structure Screen where
  encrypted : Option String
  importPass : String
  parsed : Option (List Members)
  importErr : Option Failure
  result : Option (Nat × Nat)
  progress : Option (Nat × Nat)
  tasks : List Task
  imports : List (List Members)

/-- The screen when it is opened. -/
def opened : Screen where
  encrypted := none
  importPass := ""
  parsed := none
  importErr := none
  result := none
  progress := none
  tasks := []
  imports := []

/-- What happens to the screen. -/
inductive Happening where
  | onFile (file : Option String)
  | setImportPass (passphrase : String)
  | decrypt
  | runImport
  | cancel
  | proceed (task : Nat) (succeeds : Bool)

namespace Screen

/-- `resetImport` -/
def resetImport (screen : Screen) : Screen :=
  { screen with
    encrypted := none
    importPass := ""
    parsed := none
    importErr := none
    result := none
    progress := none }

/-- Wait for one more task. -/
def await (screen : Screen) (task : Task) : Screen :=
  { screen with tasks := screen.tasks ++ [task] }

section Handlers

variable (crypto : Primitives) (kdf : DerivationFunctions)

/-- `tryParse` -/
def tryParse (screen : Screen) (text : String) : Screen :=
  match parseVaultImport crypto.numberText text with
  | some items => { screen with parsed := some items, importErr := none }
  | none => { screen with parsed := none, importErr := some .thrown }

/-- `onFile`, once the text of the file is there. -/
def fileRead (screen : Screen) (text : String) : Screen :=
  if isBackupEnvelope text then { screen with encrypted := some text }
  else screen.tryParse crypto text

/-- `decrypt`, once `decryptBackup` is done. -/
def decrypted (screen : Screen) : Except Failure String → Screen
  | .ok text => screen.tryParse crypto text
  | .error failure => { screen with importErr := some failure }

/-- The next item of an import has been added or not, or all have been. -/
def imported
    (screen : Screen)
    (items : List Members)
    (outcomes : List Bool)
    (succeeds : Bool) :
    Screen :=
  if outcomes.length < items.length then
    ({ screen with progress := some (outcomes.length + 1, items.length) }).await
      (.importing items (outcomes ++ [succeeds]))
  else
    { screen with
      progress := none
      parsed := none
      result := some (outcomes.count true, outcomes.count false) }

/-- A task of the screen goes on. -/
def proceed (screen : Screen) (succeeds : Bool) : Task → Screen
  | .reading text => screen.fileRead crypto text
  | .decrypting envelope passphrase =>
      screen.decrypted crypto (decryptBackup crypto kdf envelope passphrase)
  | .importing items outcomes => screen.imported items outcomes succeeds

/-- What the screen makes of what happens. -/
def step (screen : Screen) : Happening → Screen
  | .onFile none => screen.resetImport
  | .onFile (some text) => screen.resetImport.await (.reading text)
  | .setImportPass passphrase => { screen with importPass := passphrase }
  | .decrypt =>
      match screen.encrypted with
      | none => screen
      | some envelope =>
          if envelope = "" then screen
          else
            ({ screen with importErr := none }).await
              (.decrypting envelope screen.importPass)
  | .runImport =>
      match screen.parsed with
      | none => screen
      | some items =>
          ({ screen with
            progress := some (0, items.length)
            imports := screen.imports ++ [items] }).await (.importing items [])
  | .cancel => screen.resetImport
  | .proceed task succeeds =>
      match screen.tasks[task]? with
      | none => screen
      | some proceeding =>
          ({ screen with tasks := screen.tasks.eraseIdx task }).proceed crypto
            kdf succeeds proceeding

/-- The screen after all that happened to it, from when it was opened. -/
def run (happenings : List Happening) : Screen :=
  happenings.foldl (step crypto kdf) opened

end Handlers

end Screen

/-!
## Where the shown items come from
-/

section Origins

variable (crypto : Primitives) (kdf : DerivationFunctions)

/-- The items of a file, or of a backup that some passphrase decrypts. -/
inductive Origin (files : Set String) (items : List Members) : Prop where
  | plain
      {text : String} :
      text ∈ files →
      isBackupEnvelope text = false →
      parseVaultImport crypto.numberText text = some items →
      Origin files items
  | backup
      {text passphrase plaintext : String} :
      text ∈ files →
      decryptBackup crypto kdf text passphrase = .ok plaintext →
      parseVaultImport crypto.numberText plaintext = some items →
      Origin files items

/-- A task that reads or decrypts one of these files, or imports. -/
def Task.Concerns (files : Set String) : Task → Prop
  | .reading text => text ∈ files
  | .decrypting envelope _ => envelope ∈ files
  | .importing _ _ => True

/-- Everything that the screen shows or waits for is about these files. -/
structure Concerned (files : Set String) (screen : Screen) : Prop where
  encrypted : ∀ text, screen.encrypted = some text → text ∈ files
  parsed :
    ∀ items, screen.parsed = some items → Origin crypto kdf files items
  tasks : ∀ task ∈ screen.tasks, task.Concerns files

/-- What happens does not bring in another file. -/
def Happening.Within (files : Set String) : Happening → Prop
  | .onFile (some text) => text ∈ files
  | _ => True

variable {crypto kdf} {files : Set String} {screen : Screen}

namespace Concerned

/-- What else a screen shows does not matter. -/
theorem of_same
    {other : Screen}
    (concerned : Concerned crypto kdf files screen)
    (encrypted : other.encrypted = screen.encrypted)
    (parsed : other.parsed = screen.parsed)
    (tasks : other.tasks ⊆ screen.tasks) :
    Concerned crypto kdf files other where
  encrypted := by
    rw [encrypted]
    exact concerned.encrypted
  parsed := by
    rw [parsed]
    exact concerned.parsed
  tasks := fun task member => concerned.tasks task (tasks member)

/-- Waiting for a task about the files. -/
theorem await
    {task : Task}
    (concerned : Concerned crypto kdf files screen)
    (concerns : task.Concerns files) :
    Concerned crypto kdf files (screen.await task) where
  encrypted := concerned.encrypted
  parsed := concerned.parsed
  tasks := by
    intro other member
    rcases List.mem_append.mp member with old | new
    · exact concerned.tasks other old
    · cases List.mem_singleton.mp new
      exact concerns

/-- Nothing is shown after a reset. -/
theorem resetImport
    (tasks : ∀ task ∈ screen.tasks, task.Concerns files) :
    Concerned crypto kdf files screen.resetImport where
  encrypted := nofun
  parsed := nofun
  tasks := tasks

/-- The text of a file, or what a file decrypts to, is parsed. -/
theorem tryParse
    {text : String}
    (concerned : Concerned crypto kdf files screen)
    (origin :
      ∀ items,
        parseVaultImport crypto.numberText text = some items →
          Origin crypto kdf files items) :
    Concerned crypto kdf files (screen.tryParse crypto text) := by
  unfold Screen.tryParse
  cases parsed : parseVaultImport crypto.numberText text with
  | none => exact { concerned with parsed := nofun }
  | some items =>
      refine { concerned with parsed := ?_ }
      intro shown isShown
      cases isShown
      exact origin items parsed

/-- A task that goes on shows what comes of its file. -/
theorem proceed
    {task : Task}
    (concerned : Concerned crypto kdf files screen)
    (concerns : task.Concerns files)
    (succeeds : Bool) :
    Concerned crypto kdf files (screen.proceed crypto kdf succeeds task) := by
  cases task with
  | reading text =>
      dsimp only [Screen.proceed, Screen.fileRead]
      cases isBackup : isBackupEnvelope text with
      | true =>
          refine { concerned with encrypted := ?_ }
          intro shown isShown
          cases isShown
          exact concerns
      | false =>
          exact concerned.tryParse fun _ parsed =>
            .plain concerns isBackup parsed
  | decrypting envelope passphrase =>
      dsimp only [Screen.proceed, Screen.decrypted]
      cases decrypted : decryptBackup crypto kdf envelope passphrase with
      | error failure =>
          exact concerned.of_same rfl rfl (List.Subset.refl _)
      | ok text =>
          exact concerned.tryParse fun _ parsed =>
            .backup concerns decrypted parsed
  | importing items outcomes =>
      dsimp only [Screen.proceed, Screen.imported]
      by_cases left : outcomes.length < items.length
      · rw [if_pos left]
        refine Concerned.await ?_ trivial
        exact concerned.of_same rfl rfl (List.Subset.refl _)
      · rw [if_neg left]
        exact { concerned with parsed := nofun }

/-- Whatever happens, the screen stays with the files. -/
theorem step
    {happening : Happening}
    (concerned : Concerned crypto kdf files screen)
    (within : happening.Within files) :
    Concerned crypto kdf files (screen.step crypto kdf happening) := by
  cases happening with
  | onFile file =>
      cases file with
      | none => exact resetImport concerned.tasks
      | some text => exact (resetImport concerned.tasks).await within
  | setImportPass passphrase =>
      exact concerned.of_same rfl rfl (List.Subset.refl _)
  | decrypt =>
      dsimp only [Screen.step]
      cases isEncrypted : screen.encrypted with
      | none => exact concerned
      | some envelope =>
          dsimp only
          by_cases isEmpty : envelope = ""
          · rw [if_pos isEmpty]
            exact concerned
          · rw [if_neg isEmpty]
            refine Concerned.await ?_ (concerned.encrypted _ isEncrypted)
            exact concerned.of_same isEncrypted.symm rfl (List.Subset.refl _)
  | runImport =>
      dsimp only [Screen.step]
      cases isParsed : screen.parsed with
      | none => exact concerned
      | some items =>
          refine Concerned.await ?_ trivial
          exact concerned.of_same rfl isParsed.symm (List.Subset.refl _)
  | cancel => exact resetImport concerned.tasks
  | proceed task succeeds =>
      dsimp only [Screen.step]
      cases found : screen.tasks[task]? with
      | none => exact concerned
      | some proceeding =>
          refine Concerned.proceed ?_
            (concerned.tasks _ (List.mem_of_getElem? found)) succeeds
          exact concerned.of_same rfl rfl List.eraseIdx_subset

end Concerned

/-- Nothing is imported but what the screen shows. -/
theorem imports_step (screen : Screen) (happening : Happening) :
    (screen.step crypto kdf happening).imports = screen.imports ∨
      ∃ items,
        screen.parsed = some items ∧
          (screen.step crypto kdf happening).imports =
            screen.imports ++ [items] := by
  cases happening with
  | onFile file =>
      cases file with
      | none => exact Or.inl rfl
      | some text => exact Or.inl rfl
  | setImportPass passphrase => exact Or.inl rfl
  | decrypt =>
      left
      dsimp only [Screen.step]
      split
      · rfl
      · split
        · rfl
        · rfl
  | runImport =>
      cases isParsed : screen.parsed with
      | none =>
          left
          rw [Screen.step, isParsed]
      | some items =>
          right
          refine ⟨items, rfl, ?_⟩
          rw [Screen.step, isParsed]
          rfl
  | cancel => exact Or.inl rfl
  | proceed task succeeds =>
      left
      dsimp only [Screen.step]
      split
      · rfl
      · rename_i proceeding _
        cases proceeding with
        | reading text =>
            dsimp only [Screen.proceed, Screen.fileRead, Screen.tryParse]
            split
            · rfl
            · split
              · rfl
              · rfl
        | decrypting envelope passphrase =>
            dsimp only [Screen.proceed]
            cases decryptBackup crypto kdf envelope passphrase with
            | error failure => rfl
            | ok text =>
                dsimp only [Screen.decrypted, Screen.tryParse]
                split
                · rfl
                · rfl
        | importing items outcomes =>
            dsimp only [Screen.proceed, Screen.imported]
            split
            · rfl
            · rfl

/-- The last thing that happened. -/
theorem run_concat (happenings : List Happening) (last : Happening) :
    Screen.run crypto kdf (happenings ++ [last]) =
      (Screen.run crypto kdf happenings).step crypto kdf last :=
  List.foldl_append

/-- Nothing is about any file before anything has happened. -/
theorem concerned_opened : Concerned crypto kdf files opened where
  encrypted := nofun
  parsed := nofun
  tasks := nofun

/-- The screen shows and imports what is in the files that were picked. -/
theorem run_concerned
    {happenings : List Happening}
    (within : ∀ happening ∈ happenings, happening.Within files) :
    Concerned crypto kdf files (Screen.run crypto kdf happenings) ∧
      ∀ items ∈ (Screen.run crypto kdf happenings).imports,
        Origin crypto kdf files items := by
  induction happenings using List.reverseRecOn with
  | nil => exact ⟨concerned_opened, nofun⟩
  | append_singleton happenings last inductionHypothesis =>
      obtain ⟨concerned, imported⟩ :=
        inductionHypothesis fun happening member =>
          within happening (List.mem_append_left _ member)
      rw [run_concat]
      refine ⟨concerned.step (within last (by simp)), ?_⟩
      rcases imports_step (Screen.run crypto kdf happenings) last with
        same | ⟨items, shown, more⟩
      · rw [same]
        exact imported
      · rw [more]
        intro started member
        rcases List.mem_append.mp member with old | new
        · exact imported started old
        · cases List.mem_singleton.mp new
          exact concerned.parsed items shown

/-!
## Importing what was exported
-/

/-- A text that was downloaded as an export or as a backup of the items. -/
def Exported
    (crypto : Primitives)
    (kdf : DerivationFunctions)
    (text : String)
    (items : List ItemFields) :
    Prop :=
  exportPlain crypto items = some text ∨
    ∃ (exportPass : String) (salt : Drawn 16) (nonce : Drawn 12),
      exportEncrypted crypto kdf items exportPass salt nonce = .ok text

/-- What an import makes of the items of an export. -/
def restored (items : List ItemFields) : List Members :=
  (items.filter ItemFields.isNonEmpty).map fun item => item.marked.toMembers

/-- An export is JSON of another format than that of backups. -/
theorem read_exportPlain
    {items : List ItemFields}
    {text : String}
    (isExport : exportPlain crypto items = some text) :
    ∃ value,
      Json.read text = some value ∧
        JavaScript.property value "format" = some (.string EXPORT_FORMAT) := by
  obtain ⟨version, shape, wellFormed⟩ :=
    @stringified_exported crypto.numberText items
  rw [exportPlain, toPlaintextJSON_toMembers] at isExport
  cases isExport
  refine ⟨_, read_writeLaidOut stringifyEscapes indented 0 wellFormed, ?_⟩
  rw [shape]
  rfl

/-- What is parsed of an export is what it restores. -/
theorem parse_exportPlain
    {items : List ItemFields}
    {parsed : List Members}
    {text : String}
    (isExport : exportPlain crypto items = some text)
    (isParsed : parseVaultImport crypto.numberText text = some parsed) :
    parsed = restored items ∧ parsed ≠ [] := by
  have imported := @parseVaultImport_toPlaintextJSON crypto.numberText items
  rw [exportPlain] at isExport
  rw [isExport, Option.bind_some, isParsed] at imported
  obtain ⟨same, notEmpty⟩ := Option.filter_eq_some_iff.mp imported.symm
  cases same
  exact ⟨rfl, of_decide_eq_true notEmpty⟩

/-- An export is not taken for a backup. -/
theorem isBackupEnvelope_exportPlain
    {items : List ItemFields}
    {text : String}
    (isExport : exportPlain crypto items = some text) :
    isBackupEnvelope text = false := by
  obtain ⟨value, parsed, format⟩ := read_exportPlain isExport
  rw [isBackupEnvelope, parsed]
  show isText BACKUP_FORMAT (JavaScript.property value "format") = false
  rw [format]
  decide

/-- A backup that was downloaded was written of an export. -/
theorem written_exportEncrypted
    {items : List ItemFields}
    {exportPass file : String}
    {salt : Drawn 16}
    {nonce : Drawn 12}
    (encrypted :
      exportEncrypted crypto kdf items exportPass salt nonce = .ok file) :
    ∃ text,
      exportPlain crypto items = some text ∧
        Written crypto kdf text exportPass OfflineVault.DEFAULT_KDF.value
          (Crypto.toBase64 salt.1) (Crypto.toBase64 nonce.1) file := by
  unfold exportEncrypted at encrypted
  split at encrypted
  · cases encrypted
  · obtain ⟨text, isExport, encrypted⟩ := ok_of_bind encrypted
    exact ⟨text, orThrow_eq_ok.mp isExport,
      written_of_encryptBackup encrypted⟩

/-- A downloaded backup decrypts to nothing but the export. -/
theorem decryptBackup_exportEncrypted
    (exclusive : Exclusive crypto)
    (authenticated : crypto.Authenticated)
    (derivesKeys : DerivesKeys crypto kdf)
    {items : List ItemFields}
    {exportPass file passphrase plaintext : String}
    {salt : Drawn 16}
    {nonce : Drawn 12}
    (encrypted :
      exportEncrypted crypto kdf items exportPass salt nonce = .ok file)
    (decrypted :
      decryptBackup crypto kdf file passphrase = .ok plaintext) :
    exportPlain crypto items = some plaintext := by
  obtain ⟨text, isExport, written⟩ := written_exportEncrypted encrypted
  obtain ⟨value, parsed, -⟩ := read_exportPlain isExport
  have isJson : IsJson text := by
    rw [IsJson, parsed]
    rfl
  obtain ⟨key, -, opens⟩ :=
    written.decryptBackup_eq exclusive authenticated derivesKeys
      isJson.unmarked
  rw [opens] at decrypted
  split at decrypted
  · cases decrypted
  · split at decrypted
    · cases decrypted
      exact isExport
    · cases decrypted

/-- What comes out of an exported file is what the export restores. -/
theorem Origin.restores
    (exclusive : Exclusive crypto)
    (authenticated : crypto.Authenticated)
    (derivesKeys : DerivesKeys crypto kdf)
    {parsed : List Members}
    {items : String → List ItemFields}
    (origin : Origin crypto kdf files parsed)
    (exported : ∀ text ∈ files, Exported crypto kdf text (items text)) :
    ∃ text ∈ files, parsed = restored (items text) ∧ parsed ≠ [] := by
  cases origin with
  | @plain text member notBackup isParsed =>
      refine ⟨text, member, ?_⟩
      rcases exported text member with
        isExport | ⟨exportPass, salt, nonce, encrypted⟩
      · exact parse_exportPlain isExport isParsed
      · obtain ⟨_, -, written⟩ := written_exportEncrypted encrypted
        rw [written.isBackupEnvelope] at notBackup
        cases notBackup
  | @backup text passphrase plaintext member decrypted isParsed =>
      refine ⟨text, member, ?_⟩
      rcases exported text member with
        isExport | ⟨exportPass, salt, nonce, encrypted⟩
      · have isBackup := isBackupEnvelope_of_decryptBackup decrypted
        rw [isBackupEnvelope_exportPlain isExport] at isBackup
        cases isBackup
      · have isExport :=
          decryptBackup_exportEncrypted exclusive authenticated derivesKeys
            encrypted decrypted
        exact parse_exportPlain isExport isParsed

/-- The files that a user picks. -/
def picked (happenings : List Happening) : Set String :=
  fun text => .onFile (some text) ∈ happenings

/-- Only files that were picked are brought in. -/
theorem within_picked
    {happenings : List Happening}
    {happening : Happening}
    (member : happening ∈ happenings) :
    happening.Within (picked happenings) := by
  cases happening with
  | onFile file =>
      cases file with
      | none => trivial
      | some text => exact member
  | setImportPass passphrase => trivial
  | decrypt => trivial
  | runImport => trivial
  | cancel => trivial
  | proceed task succeeds => trivial

/--
When only exports and backups of this client are picked, then whatever the
passphrases that are tried and however reading, decrypting and importing
overlap, every import that is started is of what one of these files restores.
-/
theorem imports_exported
    (exclusive : Exclusive crypto)
    (authenticated : crypto.Authenticated)
    (derivesKeys : DerivesKeys crypto kdf)
    {happenings : List Happening}
    (exported :
      ∀ text ∈ picked happenings, ∃ items, Exported crypto kdf text items) :
    ∀ imported ∈ (Screen.run crypto kdf happenings).imports,
      ∃ text ∈ picked happenings, ∃ items,
        Exported crypto kdf text items ∧ imported = restored items ∧
          imported ≠ [] := by
  choose! items exported using exported
  intro imported member
  obtain ⟨-, origins⟩ :=
    @run_concerned crypto kdf (picked happenings) happenings
      fun _ => within_picked
  obtain ⟨text, isPicked, same, notEmpty⟩ :=
    (origins imported member).restores exclusive authenticated derivesKeys
      exported
  exact ⟨text, isPicked, items text, exported text isPicked, same, notEmpty⟩

/-!
## The file that was picked last
-/

/-- The file that was picked last, unless the choice was given up. -/
def lastPicked (happenings : List Happening) : Option String :=
  happenings.foldl
    (fun last happening =>
      match happening with
      | .onFile file => file
      | _ => last)
    none

/-- Whether a task will show what is in a file. -/
def Task.isImport : Task → Bool
  | .importing _ _ => true
  | _ => false

/-- Files are picked only while none is being read or decrypted. -/
def Unhurried
    (crypto : Primitives)
    (kdf : DerivationFunctions)
    (happenings : List Happening) :
    Prop :=
  ∀ earlier later file,
    happenings = earlier ++ .onFile file :: later →
      ∀ task ∈ (Screen.run crypto kdf earlier).tasks, task.isImport = true

/--
Files that are picked only while none is being read or decrypted are shown
until the next one is picked: the preview and the backup that waits for its
passphrase are those of the file that was picked last.
-/
theorem concerned_lastPicked
    {happenings : List Happening}
    (unhurried : Unhurried crypto kdf happenings) :
    Concerned crypto kdf (fun text => lastPicked happenings = some text)
      (Screen.run crypto kdf happenings) := by
  induction happenings using List.reverseRecOn with
  | nil => exact concerned_opened
  | append_singleton happenings last inductionHypothesis =>
      have earlier : Unhurried crypto kdf happenings := by
        intro before after file split
        apply unhurried before (after ++ [last]) file
        rw [split, List.append_assoc, List.cons_append]
      have concerned := inductionHypothesis earlier
      have newest :
          lastPicked (happenings ++ [last]) =
            match last with
            | .onFile file => file
            | _ => lastPicked happenings := by
        rw [lastPicked, List.foldl_append]
        cases last with
        | onFile file => rfl
        | setImportPass passphrase => rfl
        | decrypt => rfl
        | runImport => rfl
        | cancel => rfl
        | proceed task succeeds => rfl
      rw [run_concat, newest]
      cases last with
      | onFile file =>
          have idle :
              ∀ task ∈ (Screen.run crypto kdf happenings).tasks,
                task.Concerns fun text => file = some text := by
            intro task member
            have isImport := unhurried happenings [] file rfl task member
            cases task with
            | reading text => cases isImport
            | decrypting envelope passphrase => cases isImport
            | importing items outcomes => trivial
          cases file with
          | none => exact Concerned.resetImport idle
          | some text => exact (Concerned.resetImport idle).await rfl
      | setImportPass passphrase => exact concerned.step trivial
      | decrypt => exact concerned.step trivial
      | runImport => exact concerned.step trivial
      | cancel => exact concerned.step trivial
      | proceed task succeeds => exact concerned.step trivial

end Origins

/-!
## Picking and importing an export
-/

/-- A file is picked and read. -/
def pickAndRead (text : String) : List Happening :=
  [.onFile (some text), .proceed 0 true]

/-- The export of a login restores it. -/
theorem exists_loginWithPin_exported (crypto : Primitives) :
    ∃ text,
      exportPlain crypto [loginWithPin] = some text ∧
        parseVaultImport crypto.numberText text =
          some (restored [loginWithPin]) := by
  have imported :=
    @parseVaultImport_toPlaintextJSON crypto.numberText [loginWithPin]
  rw [toPlaintextJSON_toMembers, Option.bind_some] at imported
  exact ⟨_, toPlaintextJSON_toMembers [loginWithPin], imported⟩

section Picked

variable {crypto : Primitives} {kdf : DerivationFunctions} {text : String}
  {items : List ItemFields} {parsed : List Members}
  (isExport : exportPlain crypto items = some text)
  (isParsed : parseVaultImport crypto.numberText text = some parsed)

include isExport isParsed

/-- The items of an export that is picked are shown. -/
theorem parsed_pickAndRead :
    (Screen.run crypto kdf (pickAndRead text)).parsed = some parsed := by
  show (Screen.fileRead crypto _ text).parsed = some parsed
  rw [Screen.fileRead, isBackupEnvelope_exportPlain isExport]
  show (Screen.tryParse crypto _ text).parsed = some parsed
  rw [Screen.tryParse, isParsed]

/-- They are all that is imported then. -/
theorem imports_pickAndRead :
    (Screen.run crypto kdf (pickAndRead text ++ [.runImport])).imports =
      [parsed] := by
  rw [run_concat]
  have shown := @parsed_pickAndRead crypto kdf text items parsed isExport
    isParsed
  have none : (Screen.run crypto kdf (pickAndRead text)).imports = [] := by
    show (Screen.fileRead crypto _ text).imports = []
    rw [Screen.fileRead, isBackupEnvelope_exportPlain isExport]
    show (Screen.tryParse crypto _ text).imports = []
    rw [Screen.tryParse, isParsed]
    rfl
  simp only [Screen.step, shown, Screen.await, none, List.nil_append]

end Picked

/-- Only the picked file is there to be picked. -/
theorem picked_pickAndRead
    {text file : String}
    {rest : List Happening}
    (noFile : ∀ other, .onFile other ∉ rest)
    (isPicked : file ∈ picked (pickAndRead text ++ rest)) :
    file = text := by
  rcases List.mem_append.mp isPicked with isFirst | isRest
  · rcases List.mem_cons.mp isFirst with same | isSecond
    · cases same
      rfl
    · cases List.mem_singleton.mp isSecond
  · exact absurd isRest (noFile _)

/-- An export that is picked and imported is imported as it was exported. -/
theorem loginWithPin_restored :
    ∃ text items,
      exportPlain plainPrimitives [loginWithPin] = some text ∧
        restored [loginWithPin] = restored items ∧
        (Screen.run plainPrimitives paddedFunctions
          (pickAndRead text ++ [.runImport])).imports = [restored items] := by
  obtain ⟨text, isExport, isParsed⟩ :=
    exists_loginWithPin_exported plainPrimitives
  have imports :=
    @imports_pickAndRead plainPrimitives paddedFunctions text [loginWithPin] _
      isExport isParsed
  have exported :
      ∀ file ∈ picked (pickAndRead text ++ [.runImport]),
        ∃ items, Exported plainPrimitives paddedFunctions file items := by
    intro file isPicked
    rw [picked_pickAndRead (by simp) isPicked]
    exact ⟨_, Or.inl isExport⟩
  obtain ⟨-, -, items, -, same, -⟩ :=
    imports_exported exclusive_plainPrimitives authenticated_plainPrimitives
      (derivesKeys_padded _) exported (restored [loginWithPin]) (by simp [imports])
  refine ⟨text, items, isExport, same, ?_⟩
  rw [imports, same]

/-- The preview of an export that was picked last. -/
theorem loginWithPin_previewed :
    ∃ text,
      exportPlain plainPrimitives [loginWithPin] = some text ∧
        Origin plainPrimitives paddedFunctions
          (fun file => some text = some file) (restored [loginWithPin]) := by
  obtain ⟨text, isExport, isParsed⟩ :=
    exists_loginWithPin_exported plainPrimitives
  have unhurried :
      Unhurried plainPrimitives paddedFunctions (pickAndRead text) := by
    intro earlier later file split
    cases earlier with
    | nil => nofun
    | cons first earlier =>
        cases earlier with
        | nil => cases split
        | cons second earlier =>
            have lengths := congrArg List.length split
            simp [pickAndRead] at lengths
  exact ⟨text, isExport,
    (concerned_lastPicked unhurried).parsed _
      (parsed_pickAndRead isExport isParsed)⟩

end Passwd.ImportScreen
