import Passwd.DesktopUpdates
import Passwd.JsonPrefix

namespace Passwd.Desktop

open Base64 Crypto Interaction Json OfflineVault Utf8

/-!
# Saves that are cut short

A vault file is written in place: the file is emptied, then its bytes are
written in chunks.  A write that stops in between leaves a beginning of the new
file, and no beginning but the whole opens.
-/

/-!
## Files of bytes
-/

/-- The bytes of every file. -/
abbrev Disk := String → Option Bytes

/-- `String::from_utf8` -/
def fromValidUtf8 (bytes : Bytes) : Option String :=
  let text := String.ofList (decodeFrom .idle bytes)
  if utf8 text = bytes then some text else none

/-- `read_vault` -/
def readVault (disk : Disk) : Files :=
  fun path => (disk path).bind fromValidUtf8

/-- What `std::fs::write` does to a file at one time. -/
inductive WriteStep where
  | truncate
  | append (chunk : Bytes)

/-- The files after a step of a write. -/
def WriteStep.apply (path : String) (disk : Disk) : WriteStep → Disk
  | .truncate => Function.update disk path (some [])
  | .append chunk =>
      Function.update disk path ((disk path).map fun bytes => bytes ++ chunk)

/--
How a write goes: the chunks that its bytes are written in, and the number of
steps that are taken before it fails.
-/
structure WriteAttempt (contents : Bytes) where
  chunks : List Bytes
  complete : chunks.flatten = contents
  stop : Nat

namespace WriteAttempt

variable {contents : Bytes} (attempt : WriteAttempt contents)

/-- The steps of a write that does not fail. -/
def steps : List WriteStep :=
  .truncate :: attempt.chunks.map .append

/-- The files after the steps that are taken. -/
def after (path : String) (disk : Disk) : Disk :=
  (attempt.steps.take attempt.stop).foldl (WriteStep.apply path) disk

/-- A write that is cut short throws. -/
def result : Except Failure Unit :=
  if attempt.stop < attempt.steps.length then .error .thrown else .ok ()

/-- The bytes that are still to be written once the file was emptied. -/
def pending : Bytes :=
  (attempt.chunks.drop (attempt.stop - 1)).flatten

/-- The write stops when the file is emptied but not yet complete. -/
def CutShort : Prop :=
  0 < attempt.stop ∧ attempt.pending ≠ []

instance : Decidable attempt.CutShort :=
  inferInstanceAs (Decidable (_ ∧ _))

end WriteAttempt

/-- The files and the vault in memory. -/
structure DiskState where
  disk : Disk
  vault : DesktopVault

/-- The effect of a call, where writes go as they are attempted. -/
def executeOnDisk
    (attempts : (contents : Bytes) → WriteAttempt contents)
    (state : DiskState) :
    (operation : Operation) → Answer operation × DiskState
  | .vault => (state.vault, state)
  | .writeFile path contents =>
      let attempt := attempts (utf8 contents)
      (attempt.result, { state with disk := attempt.after path state.disk })
  | .setVault next => ((), { state with vault := next })

/-- An operation that writes an open vault to its file. -/
inductive Save where
  | persist (nonce : Drawn 12)
  | rekey (newPassword : String) (salt : Drawn 16) (keyNonce nonce : Drawn 12)

section Saves

variable (crypto : Primitives) (kdf : DerivationFunctions)

/-- The program of a save, and the vault that it gives. -/
def Save.perform (v : DesktopVault) : Save → App DesktopVault
  | .persist nonce => do
      Desktop.persist crypto v nonce
      return v
  | .rekey newPassword salt keyNonce nonce =>
      Desktop.rekey crypto kdf v newPassword salt keyNonce nonce

/-- The new file of a save and the vault that it is of. -/
def Save.prepare (v : DesktopVault) :
    Save → Except Failure (String × DesktopVault)
  | .persist nonce =>
      (saveVault crypto v.state (encodePayload v.items) nonce).map
        fun file => (file, v)
  | .rekey newPassword salt keyNonce nonce =>
      (changeMasterPassword crypto kdf v.state newPassword
        (encodePayload v.items) none salt keyNonce nonce).map
          fun changed => (changed.1, { v with state := changed.2 })

/-- The master password after a save. -/
def Save.passwordAfter (password : String) : Save → String
  | .persist _ => password
  | .rekey newPassword _ _ _ => newPassword

/-- `openExistingVault`, from the bytes of its file. -/
def openFromDisk (disk : Disk) (path masterPassword : String) :
    Except Failure DesktopVault :=
  openExistingVault crypto kdf (readVault disk) path masterPassword

/--
A save loses nothing: the file is the previous one or the complete new one, and
opens with the master password that belongs to it.
-/
def KeepsVault
    (save : Save)
    (v : DesktopVault)
    (previous : List VaultItem)
    (password : String)
    (before after : Disk) :
    Prop :=
  (after v.path = before v.path ∧
    openFromDisk crypto kdf after v.path password =
      .ok { v with items := previous }) ∨
  ∃ file next,
    save.prepare crypto kdf v = .ok (file, next) ∧
      after v.path = some (utf8 file) ∧
      openFromDisk crypto kdf after v.path (save.passwordAfter password) =
        .ok next

/-- The file is a proper beginning of the new one, and nothing opens it. -/
def TornFile (file path : String) (after : Disk) : Prop :=
  ∃ written rest,
    after path = some written ∧ rest ≠ [] ∧ utf8 file = written ++ rest ∧
      ∀ password, ∃ failure,
        openFromDisk crypto kdf after path password = .error failure

end Saves

/-!
## What a write leaves
-/

/-- Valid UTF-8 is read as the text that it encodes. -/
theorem fromValidUtf8_eq_some
    {bytes : Bytes}
    {text : String} :
    fromValidUtf8 bytes = some text ↔ utf8 text = bytes := by
  constructor
  · intro valid
    simp only [fromValidUtf8] at valid
    split at valid
    · rename_i encodes
      rw [← Option.some.inj valid]
      exact encodes
    · cases valid
  · intro encodes
    have decoded : String.ofList (decodeFrom .idle bytes) = text := by
      rw [← encodes, utf8, decodeFrom_flatMap, String.ofList_toList]
    simp only [fromValidUtf8, decoded, if_pos encodes]

/-- A text that encodes a beginning of the bytes of a text is its beginning. -/
theorem toList_append_of_utf8
    {file text : String}
    {rest : Bytes}
    (split : utf8 file = utf8 text ++ rest)
    (remaining : rest ≠ []) :
    ∃ later, later ≠ [] ∧ file.toList = text.toList ++ later := by
  have decoded := congrArg (decodeFrom .idle) split
  rw [utf8, utf8, decodeFrom_flatMap, decodeFrom_flatMap_append] at decoded
  refine ⟨_, ?_, decoded⟩
  intro nothing
  rw [nothing, List.append_nil] at decoded
  rw [String.toList_inj.mp decoded] at split
  exact remaining (List.append_cancel_left (split.symm.trans
    (List.append_nil _).symm))

namespace WriteAttempt

variable {contents : Bytes} {attempt : WriteAttempt contents}

/-- Chunks are appended to the file one behind the other. -/
theorem foldl_append
    (path : String)
    (disk : Disk)
    (chunks : List Bytes)
    {bytes : Bytes}
    (found : disk path = some bytes) :
    ((chunks.map WriteStep.append).foldl (WriteStep.apply path) disk) path =
      some (bytes ++ chunks.flatten) := by
  induction chunks generalizing disk bytes with
  | nil =>
      simp [found]
  | cons chunk rest inductionHypothesis =>
      rw [List.map_cons, List.foldl_cons]
      have appended :
          (WriteStep.append chunk).apply path disk path =
            some (bytes ++ chunk) := by
        simp [WriteStep.apply, found]
      rw [inductionHypothesis _ appended, List.flatten_cons, List.append_assoc]

/-- A write that takes no step leaves the files as they are. -/
theorem after_eq
    (notStarted : attempt.stop = 0)
    (path : String)
    (disk : Disk) :
    attempt.after path disk = disk := by
  rw [after, notStarted, List.take_zero, List.foldl_nil]

/-- A write that was started leaves all bytes that are not pending. -/
theorem after_started
    (started : 0 < attempt.stop)
    (path : String)
    (disk : Disk) :
    ∃ written,
      attempt.after path disk path = some written ∧
        contents = written ++ attempt.pending := by
  obtain ⟨count, isCount⟩ := Nat.exists_eq_succ_of_ne_zero started.ne'
  refine ⟨(attempt.chunks.take count).flatten, ?_, ?_⟩
  · rw [after, isCount, steps, List.take_succ_cons, List.foldl_cons,
      ← List.map_take]
    exact foldl_append path _ _ (Function.update_self _ _ _)
  · rw [pending, isCount, Nat.succ_sub_one, ← List.flatten_append,
      List.take_append_drop, attempt.complete]

end WriteAttempt

/-!
## What a save leaves
-/

section Outcomes

variable {crypto : Primitives} {kdf : DerivationFunctions} {disk : Disk}
  {path password : String}

/-- A file of a text is read as the text. -/
theorem readVault_utf8
    {file : String}
    (found : disk path = some (utf8 file)) :
    readVault disk path = some file := by
  rw [readVault, found, Option.bind_some]
  exact fromValidUtf8_eq_some.mpr rfl

/-- A file that cannot be read as JSON does not open. -/
theorem openFromDisk_unread
    (unread :
      ∀ text, readVault disk path = some text → Json.read text = none) :
    ∃ failure, openFromDisk crypto kdf disk path password = .error failure := by
  unfold openFromDisk openExistingVault
  cases found : readVault disk path with
  | none =>
      exact ⟨.thrown, rfl⟩
  | some text =>
      have refused :
          openVault crypto kdf text password =
            .error (.message "not a valid passwd vault file") := by
        simp only [openVault, unread text found]
      refine ⟨.message "not a valid passwd vault file", ?_⟩
      change (openVault crypto kdf text password >>= _) = _
      rw [refused]
      rfl

/-- A file of an object that is torn does not open. -/
theorem tornFile_of_pending
    {members : Members}
    {file : String}
    {written rest : Bytes}
    (wellFormed : WellFormed (.object members))
    (isFile : file = stringifyIndented (.object members))
    (found : disk path = some written)
    (remaining : rest ≠ [])
    (split : utf8 file = written ++ rest) :
    TornFile crypto kdf file path disk := by
  refine ⟨written, rest, found, remaining, split, ?_⟩
  intro password
  apply openFromDisk_unread
  intro text isText
  rw [readVault, found, Option.bind_some] at isText
  rw [← fromValidUtf8_eq_some.mp isText] at split
  obtain ⟨later, more, isLater⟩ := toList_append_of_utf8 split remaining
  rw [isFile, stringifyIndented, String.toList_ofList] at isLater
  rw [← String.ofList_toList (s := text)]
  exact read_beginning wellFormed isLater more

/-- A serialized state is the text of an object. -/
theorem serialize_object
    {state : VaultState}
    {payload file : String}
    {nonce : Drawn 12}
    (spelled : state.Spelled)
    (serialized : serialize crypto state payload nonce = .ok file) :
    ∃ members,
      WellFormed (.object members) ∧
        file = stringifyIndented (.object members) := by
  obtain ⟨vault, _, isFile⟩ := ok_of_map serialized
  exact ⟨_, spelled.wellFormed vault, isFile.symm⟩

/-- What a save writes is the text of an object, and opens. -/
theorem prepared_file
    (authenticated : crypto.Authenticated)
    {save : Save}
    {v next : DesktopVault}
    {file : String}
    (spelled : v.state.Spelled)
    (opens : v.state.OpensWith crypto kdf password)
    (prepared : save.prepare crypto kdf v = .ok (file, next)) :
    (∃ members,
      WellFormed (.object members) ∧
        file = stringifyIndented (.object members)) ∧
      next.path = v.path ∧
      ∀ files : Files, files v.path = some file →
        openExistingVault crypto kdf files v.path
          (save.passwordAfter password) = .ok next := by
  cases save with
  | persist nonce =>
      obtain ⟨text, saved, result⟩ := ok_of_map prepared
      cases result
      exact ⟨serialize_object spelled saved, rfl,
        fun files found =>
          openExistingVault_of_saved authenticated spelled opens saved found⟩
  | rekey newPassword salt keyNonce nonce =>
      obtain ⟨⟨text, state⟩, changed, result⟩ := ok_of_map prepared
      cases result
      have written := serializedUnder_of_serializeUnder changed
      obtain ⟨_, serialized⟩ := written.serialized
      have nextSpelled := written.spelled spelled.kdf
      exact ⟨serialize_object nextSpelled serialized, rfl,
        fun files found =>
          @openExistingVault_of_saved _ _ _ authenticated
            { v with state := state } _ _ files nextSpelled
            (written.wrapped.opensWith authenticated) serialized found⟩

/-- The text of an object has bytes. -/
theorem utf8_ne_nil
    {members : Members}
    {file : String}
    (wellFormed : WellFormed (.object members))
    (isFile : file = stringifyIndented (.object members)) :
    utf8 file ≠ [] := by
  intro nothing
  have readable : Json.read file = some (.object members) := by
    rw [isFile]
    exact read_writeLaidOut _ _ _ wellFormed
  have noText : file = "" := by
    have isFile : fromValidUtf8 [] = some file :=
      fromValidUtf8_eq_some.mpr nothing
    have isEmpty : fromValidUtf8 [] = some "" := rfl
    rw [isFile] at isEmpty
    exact Option.some.inj isEmpty
  rw [noText] at readable
  cases readable

/-- A save writes its file once and gives its vault. -/
theorem perform_save_eq
    (save : Save)
    (v : DesktopVault) :
    (save.perform crypto kdf v).run =
      match save.prepare crypto kdf v with
      | .error failure => .done (.error failure)
      | .ok (file, next) =>
          @Program.perform appCalls _ (Operation.writeFile v.path file)
            fun (written : Except Failure Unit) =>
              .done (written.map fun _ => next) := by
  cases save with
  | persist nonce =>
      dsimp only [Save.perform, Save.prepare, persist]
      cases saveVault crypto v.state (encodePayload v.items) nonce with
      | error failure =>
          rfl
      | ok file =>
          apply congrArg (@Program.perform appCalls _ _)
          funext written
          cases written with
          | error failure =>
              rfl
          | ok _ =>
              rfl
  | rekey newPassword salt keyNonce nonce =>
      dsimp only [Save.perform, Save.prepare, rekey]
      cases changeMasterPassword crypto kdf v.state newPassword
          (encodePayload v.items) none salt keyNonce nonce with
      | error failure =>
          rfl
      | ok changed =>
          apply congrArg (@Program.perform appCalls _ _)
          funext written
          cases written with
          | error failure =>
              rfl
          | ok _ =>
              rfl

/-- The files after a save that was interrupted. -/
theorem disk_after_save
    (save : Save)
    (v : DesktopVault)
    (attempts : Nat → (contents : Bytes) → WriteAttempt contents)
    (state : DiskState) :
    ((save.perform crypto kdf v).run.run executeOnDisk attempts
        state).state.disk =
      match save.prepare crypto kdf v with
      | .error _ => state.disk
      | .ok (file, _) =>
          (attempts 0 (utf8 file)).after v.path state.disk := by
  rw [perform_save_eq]
  cases save.prepare crypto kdf v with
  | error failure =>
      rfl
  | ok prepared =>
      rfl

/-- A save that is cut short leaves a torn file. -/
theorem tornFile_of_cutShort
    (authenticated : crypto.Authenticated)
    {state : DiskState}
    {v next : DesktopVault}
    {save : Save}
    {file : String}
    {attempts : Nat → (contents : Bytes) → WriteAttempt contents}
    (spelled : v.state.Spelled)
    (opens : v.state.OpensWith crypto kdf password)
    (prepared : save.prepare crypto kdf v = .ok (file, next))
    (cut : (attempts 0 (utf8 file)).CutShort) :
    TornFile crypto kdf file v.path
      ((save.perform crypto kdf v).run.run executeOnDisk attempts
        state).state.disk := by
  obtain ⟨⟨members, wellFormed, isFile⟩, _⟩ :=
    prepared_file authenticated spelled opens prepared
  obtain ⟨written, found, split⟩ :=
    WriteAttempt.after_started cut.1 v.path state.disk
  rw [disk_after_save, prepared]
  exact tornFile_of_pending wellFormed isFile found cut.2 split

/-- A torn file is no vault that was kept. -/
theorem TornFile.not_keepsVault
    {file : String}
    {save : Save}
    {v : DesktopVault}
    {previous : List VaultItem}
    {before after : Disk}
    (torn : TornFile crypto kdf file v.path after) :
    ¬ KeepsVault crypto kdf save v previous password before after := by
  obtain ⟨_, _, _, _, _, unopened⟩ := torn
  rintro (⟨_, isOpen⟩ | ⟨_, _, _, _, isOpen⟩)
  · obtain ⟨failure, refused⟩ := unopened password
    rw [refused] at isOpen
    cases isOpen
  · obtain ⟨failure, refused⟩ := unopened (save.passwordAfter password)
    rw [refused] at isOpen
    cases isOpen

/-- A save that is not cut short keeps the vault. -/
theorem keepsVault_of_not_cutShort
    (authenticated : crypto.Authenticated)
    {state : DiskState}
    {v next : DesktopVault}
    {previous : List VaultItem}
    {save : Save}
    {file : String}
    {attempts : Nat → (contents : Bytes) → WriteAttempt contents}
    (opened :
      openFromDisk crypto kdf state.disk v.path password =
        .ok { v with items := previous })
    (spelled : v.state.Spelled)
    (opens : v.state.OpensWith crypto kdf password)
    (prepared : save.prepare crypto kdf v = .ok (file, next))
    (notCut : ¬ (attempts 0 (utf8 file)).CutShort) :
    KeepsVault crypto kdf save v previous password state.disk
      ((save.perform crypto kdf v).run.run executeOnDisk attempts
        state).state.disk := by
  obtain ⟨_, _, nextOpens⟩ :=
    prepared_file authenticated spelled opens prepared
  rw [disk_after_save, prepared]
  dsimp only
  rcases Nat.eq_zero_or_pos (attempts 0 (utf8 file)).stop with
    notStarted | started
  · rw [WriteAttempt.after_eq notStarted]
    exact .inl ⟨rfl, opened⟩
  · have nothing : (attempts 0 (utf8 file)).pending = [] :=
      Decidable.not_not.mp fun more => notCut ⟨started, more⟩
    obtain ⟨written, found, split⟩ :=
      WriteAttempt.after_started started v.path state.disk
    rw [nothing, List.append_nil] at split
    rw [← split] at found
    exact .inr ⟨file, next, prepared, found,
      nextOpens _ (readVault_utf8 found)⟩

end Outcomes

/--
A save keeps the vault exactly when its write is not cut short between the
truncation and the last byte.  One that is cut short leaves a file that no
password opens.
-/
theorem keepsVault_iff_not_cutShort
    {crypto : Primitives}
    {kdf : DerivationFunctions}
    (authenticated : crypto.Authenticated)
    {state : DiskState}
    {v : DesktopVault}
    {previous : List VaultItem}
    {password : String}
    (opened :
      openFromDisk crypto kdf state.disk v.path password =
        .ok { v with items := previous })
    (save : Save)
    (attempts : Nat → (contents : Bytes) → WriteAttempt contents) :
    let after :=
      ((save.perform crypto kdf v).run.run executeOnDisk attempts
        state).state.disk
    match save.prepare crypto kdf v with
    | .error _ =>
        KeepsVault crypto kdf save v previous password state.disk after
    | .ok (file, _) =>
        (KeepsVault crypto kdf save v previous password state.disk after ↔
            ¬ (attempts 0 (utf8 file)).CutShort) ∧
          ((attempts 0 (utf8 file)).CutShort →
            TornFile crypto kdf file v.path after) := by
  intro after
  have opensWith :
      v.state.Spelled ∧ v.state.OpensWith crypto kdf password :=
    (opensWith_of_openExistingVault opened).2
  cases prepared : save.prepare crypto kdf v with
  | error failure =>
      have unchanged : after = state.disk := by
        dsimp only [after]
        rw [disk_after_save, prepared]
      rw [unchanged]
      exact .inl ⟨rfl, opened⟩
  | ok result =>
      obtain ⟨file, next⟩ := result
      have torn (cut : (attempts 0 (utf8 file)).CutShort) :
          TornFile crypto kdf file v.path after :=
        tornFile_of_cutShort authenticated opensWith.1 opensWith.2 prepared
          cut
      exact ⟨⟨fun kept cut => (torn cut).not_keepsVault kept,
        keepsVault_of_not_cutShort authenticated opened opensWith.1
          opensWith.2 prepared⟩, torn⟩

/-!
## An interrupted save
-/

/-- A write in one piece that fails after some number of steps. -/
def inOnePiece (stop : Nat) (contents : Bytes) : WriteAttempt contents where
  chunks := [contents]
  complete := List.flatten_singleton
  stop := stop

/-- Some vault on a disk is open under the password `a`. -/
theorem exists_openDisk :
    ∃ state : DiskState,
      openFromDisk plainPrimitives plainFunctions state.disk state.vault.path
          "a" = .ok state.vault ∧
        state.vault.items = [] := by
  obtain ⟨state, opened, noItems⟩ := exists_openVault
  refine
    ⟨{ disk := fun path => (state.files path).map utf8
       vault := state.vault }, ?_, noItems⟩
  have sameFiles :
      readVault (fun path => (state.files path).map utf8) = state.files := by
    funext path
    cases found : state.files path with
    | none =>
        rw [readVault, found, Option.map_none, Option.bind_none]
    | some file =>
        apply readVault_utf8
        rw [found, Option.map_some]
  unfold openFromDisk
  rw [sameFiles]
  exact opened

/-- Plain primitives persist every vault. -/
theorem prepare_persist (v : DesktopVault) (nonce : Drawn 12) :
    ∃ file, (Save.persist nonce).prepare plainPrimitives plainFunctions v =
      .ok (file, v) :=
  ⟨_, rfl⟩

/-- A save whose write is complete keeps the vault. -/
theorem complete_persist_keeps :
    ∃ (state : DiskState) (previous : List VaultItem),
      KeepsVault plainPrimitives plainFunctions (.persist (drawn 12))
        { state.vault with items := [loginNamed "new"] } previous "a"
        state.disk
        (((Save.persist (drawn 12)).perform plainPrimitives plainFunctions
            { state.vault with items := [loginNamed "new"] }).run.run
          executeOnDisk (fun _ => inOnePiece 2) state).state.disk := by
  obtain ⟨state, opened, _⟩ := exists_openDisk
  have outcome :=
    @keepsVault_iff_not_cutShort plainPrimitives plainFunctions
      authenticated_plainPrimitives state
      { state.vault with items := [loginNamed "new"] } state.vault.items "a"
      opened (.persist (drawn 12)) (fun _ => inOnePiece 2)
  obtain ⟨file, prepared⟩ :=
    prepare_persist { state.vault with items := [loginNamed "new"] } (drawn 12)
  rw [prepared] at outcome
  refine ⟨state, state.vault.items, outcome.1.mpr ?_⟩
  rintro ⟨_, remaining⟩
  exact remaining rfl

/--
A write that fails right after the truncation loses the vault: the file is
neither the previous nor the new one, and no password opens it.
-/
theorem truncated_persist_loses :
    ∃ (state : DiskState) (previous : List VaultItem),
      let v := { state.vault with items := [loginNamed "new"] }
      let save := Save.persist (drawn 12)
      let after :=
        ((save.perform plainPrimitives plainFunctions v).run.run executeOnDisk
          (fun _ => inOnePiece 1) state).state.disk
      openFromDisk plainPrimitives plainFunctions state.disk v.path "a" =
          .ok { v with items := previous } ∧
        ¬ KeepsVault plainPrimitives plainFunctions save v previous "a"
          state.disk after ∧
        ∀ password, ∃ failure,
          openFromDisk plainPrimitives plainFunctions after v.path password =
            .error failure := by
  obtain ⟨state, opened, _⟩ := exists_openDisk
  obtain ⟨file, prepared⟩ :=
    prepare_persist { state.vault with items := [loginNamed "new"] } (drawn 12)
  obtain ⟨_, opensWith⟩ := opensWith_of_openExistingVault opened
  obtain ⟨⟨members, wellFormed, isFile⟩, _⟩ :=
    @prepared_file plainPrimitives plainFunctions "a"
      authenticated_plainPrimitives (.persist (drawn 12))
      { state.vault with items := [loginNamed "new"] } _ file opensWith.1
      opensWith.2 prepared
  have cut : (inOnePiece 1 (utf8 file)).CutShort := by
    refine ⟨Nat.one_pos, ?_⟩
    have isPending : (inOnePiece 1 (utf8 file)).pending = utf8 file :=
      List.flatten_singleton
    rw [isPending]
    exact utf8_ne_nil wellFormed isFile
  have torn :=
    @tornFile_of_cutShort plainPrimitives plainFunctions "a"
      authenticated_plainPrimitives state
      { state.vault with items := [loginNamed "new"] } _
      (.persist (drawn 12)) file (fun _ => inOnePiece 1) opensWith.1
      opensWith.2 prepared cut
  refine ⟨state, state.vault.items, opened, torn.not_keepsVault, ?_⟩
  obtain ⟨_, _, _, _, _, unopened⟩ := torn
  exact unopened

end Passwd.Desktop
