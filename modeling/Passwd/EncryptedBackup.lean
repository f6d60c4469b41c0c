import Passwd.VaultSessions
import Passwd.ExportRoundTrip

namespace Passwd.EncryptedBackup

open Base64 Crypto Json Utf8 OfflineVault VaultExport

/-!
# Encrypted backups

A backup is one JSON document: the parameters and the salt of a derivation, and
a text encrypted under what a passphrase derives from them.  Reading one back
looks at nothing but that document.
-/

/-- `BACKUP_FORMAT` -/
def BACKUP_FORMAT : String := "passwd-backup"

/-- `BACKUP_VERSION` -/
def BACKUP_VERSION : String := "1"

/-- `env.version === BACKUP_VERSION`, which is the version of vault files. -/
def hasBackupVersion (env : Value) : Bool :=
  hasVaultVersion env

/-- `BackupEnvelope` -/
def backupEnvelope (params : Value) (salt nonce data : String) : Value :=
  .object
    [("format", .string BACKUP_FORMAT), ("version", .number BACKUP_VERSION),
      ("kdf", params), ("salt", .string salt), ("nonce", .string nonce),
      ("data", .string data)]

/-- The message of a backup that does not open under a passphrase. -/
def wrongPassphrase : Failure :=
  .message "wrong passphrase or corrupted backup"

section Functions

variable (crypto : Primitives) (kdf : DerivationFunctions)

/-- `encryptBackup`, with the bytes it draws. -/
def encryptBackup
    (plaintext passphrase : String)
    (params : OfflineVault.KdfParams)
    (salt : Drawn 16)
    (nonce : Drawn 12) :
    Except Failure String :=
  if passphrase = "" then
    .error (.message "a backup passphrase is required")
  else do
    let salt := toBase64 salt.1
    let key ←
      orThrow .thrown
        (OfflineVault.deriveKey crypto kdf passphrase (some (.string salt))
          (some params.value))
    let ciphertext ←
      orThrow .thrown (crypto.aesGcmEncrypt key nonce.1 (utf8 plaintext))
    return stringifyIndented
      (backupEnvelope params.value salt (toBase64 nonce.1)
        (toBase64 ciphertext))

/-- The bytes of a member that is decoded as Base64. -/
def bytesOf (env : Value) (key : String) : Option Bytes :=
  (JavaScript.textOfProperty crypto.numberText
    (JavaScript.property env key)).bind fromBase64

/-- `decryptBackup` -/
def decryptBackup (envelope passphrase : String) : Except Failure String :=
  match Json.read envelope with
  | none => .error (.message "not a valid passwd backup file")
  | some env =>
      if isText BACKUP_FORMAT (JavaScript.property env "format") = false then
        .error (.message "not a passwd backup file")
      else if hasBackupVersion env = false then
        match JavaScript.textOfProperty crypto.numberText
            (JavaScript.property env "version") with
        | none => .error .thrown
        | some version =>
            .error (.message ("unsupported backup version " ++ version))
      else
        match OfflineVault.deriveKey crypto kdf passphrase
            (JavaScript.property env "salt") (JavaScript.property env "kdf")
        with
        | none => .error .thrown
        | some key =>
            orThrow wrongPassphrase
              ((bytesOf crypto env "nonce").bind fun nonce =>
                (bytesOf crypto env "data").bind fun data =>
                  (crypto.aesGcmDecrypt key nonce data).map fromUtf8)

end Functions

/-- `isBackupEnvelope` -/
def isBackupEnvelope (text : String) : Bool :=
  (Json.read text).any fun env =>
    isText BACKUP_FORMAT (JavaScript.property env "format")

/-- Every file that decrypts is recognized as a backup. -/
theorem isBackupEnvelope_of_decryptBackup
    {crypto : Primitives}
    {kdf : DerivationFunctions}
    {envelope passphrase plaintext : String}
    (decrypted :
      decryptBackup crypto kdf envelope passphrase = .ok plaintext) :
    isBackupEnvelope envelope = true := by
  unfold decryptBackup at decrypted
  split at decrypted
  · cases decrypted
  · rename_i env parsed
    by_cases isFormat :
        isText BACKUP_FORMAT (JavaScript.property env "format") = true
    · rw [isBackupEnvelope, parsed]
      exact isFormat
    · rw [if_pos (Bool.eq_false_iff.mpr isFormat)] at decrypted
      cases decrypted

/-- No text is both of one format and of another. -/
theorem isText_of_isText
    {format other : String}
    {value : Option Value}
    (isFormat : isText format value = true)
    (different : format ≠ other) :
    isText other value = false := by
  cases value with
  | none => cases isFormat
  | some value =>
      cases value with
      | string text =>
          have same : text = format := of_decide_eq_true isFormat
          subst same
          exact decide_eq_false different
      | null => cases isFormat
      | bool flag => cases isFormat
      | number literal => cases isFormat
      | array items => cases isFormat
      | object members => cases isFormat

/-- A backup is not taken for a vault file. -/
theorem isVaultFile_of_isBackupEnvelope
    {text : String}
    (isBackup : isBackupEnvelope text = true) :
    isVaultFile text = false := by
  unfold isBackupEnvelope at isBackup
  unfold isVaultFile
  cases parsed : Json.read text with
  | none => rfl
  | some env =>
      rw [parsed] at isBackup
      exact isText_of_isText isBackup (by decide)

/-!
## Reading a backup back
-/

/-- The derivation functions return keys of 256 bits. -/
def DerivesKeys (crypto : Primitives) (kdf : DerivationFunctions) : Prop :=
  ∀ password salt params key,
    OfflineVault.deriveKey crypto kdf password salt params = some key →
      key.length = 32

/-- What is written as a backup can be read. -/
theorem wellFormed_backupEnvelope
    {params : Value}
    (wellFormed : WellFormed params)
    (salt nonce data : String) :
    WellFormed (backupEnvelope params salt nonce data) := by
  have version :
      validNumber BACKUP_VERSION.toList = true ∧
        BACKUP_VERSION.toList.all isNumberChar = true := by
    decide
  simp [backupEnvelope, WellFormed, WellFormedMembers, wellFormed, version]

/-- The parts of a backup that was written. -/
structure Written
    (crypto : Primitives)
    (kdf : DerivationFunctions)
    (plaintext passphrase : String)
    (params : Value)
    (salt nonce : String)
    (file : String) :
    Prop where
  hasPassphrase : passphrase ≠ ""
  encrypted :
    ∃ key nonceBytes data,
      OfflineVault.deriveKey crypto kdf passphrase (some (.string salt))
          (some params) = some key ∧
        crypto.aesGcmEncrypt key nonceBytes (utf8 plaintext) = some data ∧
        nonce = toBase64 nonceBytes ∧
        Json.read file =
          some (backupEnvelope params salt nonce (toBase64 data))

section Reading

variable {crypto : Primitives} {kdf : DerivationFunctions}
  {plaintext passphrase file : String}
  {params : OfflineVault.KdfParams} {salt : Drawn 16} {nonce : Drawn 12}

/-- Encrypting writes a backup under the passphrase. -/
theorem written_of_encryptBackup
    (encrypted :
      encryptBackup crypto kdf plaintext passphrase params salt nonce =
        .ok file) :
    Written crypto kdf plaintext passphrase params.value (toBase64 salt.1)
      (toBase64 nonce.1) file := by
  unfold encryptBackup at encrypted
  by_cases isEmpty : passphrase = ""
  · rw [if_pos isEmpty] at encrypted
    cases encrypted
  · rw [if_neg isEmpty] at encrypted
    obtain ⟨key, derived, encrypted⟩ := ok_of_bind encrypted
    obtain ⟨data, isData, encrypted⟩ := ok_of_bind encrypted
    cases encrypted
    refine ⟨isEmpty, key, nonce.1, data, orThrow_eq_ok.mp derived,
      orThrow_eq_ok.mp isData, rfl, ?_⟩
    exact read_writeLaidOut _ _ _
      (wellFormed_backupEnvelope params.wellFormed _ _ _)

/-- The members of a backup. -/
theorem property_backupEnvelope (params : Value) (salt nonce data : String) :
    let env := backupEnvelope params salt nonce data
    JavaScript.property env "format" = some (.string BACKUP_FORMAT) ∧
      JavaScript.property env "version" = some (.number BACKUP_VERSION) ∧
      JavaScript.property env "kdf" = some params ∧
      JavaScript.property env "salt" = some (.string salt) ∧
      JavaScript.property env "nonce" = some (.string nonce) ∧
      JavaScript.property env "data" = some (.string data) := by
  simp [backupEnvelope, JavaScript.property, lookup]

/-- A written member decodes to the bytes it was written from. -/
theorem bytesOf_written
    {env : Value}
    {key : String}
    {bytes : Bytes}
    (found : JavaScript.property env key = some (.string (toBase64 bytes))) :
    bytesOf crypto env key = some bytes := by
  rw [bytesOf, found]
  exact fromBase64_toBase64 bytes

/--
A backup that was written opens to its plaintext under what derives its key, and
throws under everything else.
-/
theorem Written.decryptBackup_eq
    (exclusive : Exclusive crypto)
    (authenticated : crypto.Authenticated)
    (derivesKeys : DerivesKeys crypto kdf)
    {params : Value}
    {salt nonce : String}
    (unmarked : plaintext.toList.head? ≠ some byteOrderMark)
    (written :
      Written crypto kdf plaintext passphrase params salt nonce file) :
    ∃ key,
      OfflineVault.deriveKey crypto kdf passphrase (some (.string salt))
          (some params) = some key ∧
        ∀ attempt,
          decryptBackup crypto kdf file attempt =
            match OfflineVault.deriveKey crypto kdf attempt
                (some (.string salt)) (some params) with
            | none => .error .thrown
            | some other =>
                if other = key then .ok plaintext
                else .error wrongPassphrase := by
  obtain ⟨-, key, nonceBytes, data, derived, encrypted, isNonce, parsed⟩ :=
    written
  subst isNonce
  refine ⟨key, derived, ?_⟩
  intro attempt
  obtain ⟨format, version, isParams, isSalt, isNonce, isData⟩ :=
    property_backupEnvelope params salt (toBase64 nonceBytes) (toBase64 data)
  have isVersion :
      hasBackupVersion
        (backupEnvelope params salt (toBase64 nonceBytes) (toBase64 data)) =
          true := by
    rw [hasBackupVersion, hasVaultVersion, version]
    decide
  have isFormat :
      isText BACKUP_FORMAT (some (.string BACKUP_FORMAT)) = true := by
    decide
  simp only [decryptBackup, parsed, format, isFormat, isVersion, isParams,
    isSalt, bytesOf_written isNonce, bytesOf_written isData,
    Bool.true_eq_false, ↓reduceIte, Option.bind_some]
  cases other :
      OfflineVault.deriveKey crypto kdf attempt (some (.string salt))
        (some params) with
  | none => rfl
  | some otherKey =>
      dsimp only
      by_cases same : otherKey = key
      · subst same
        rw [if_pos rfl, (authenticated _ _ _ _ encrypted).1, Option.map_some,
          fromUtf8_utf8 unmarked]
        rfl
      · have sameLength : otherKey.length = key.length := by
          rw [derivesKeys _ _ _ _ other, derivesKeys _ _ _ _ derived]
        rw [if_neg same,
          exclusive key otherKey nonceBytes _ data encrypted sameLength same]
        rfl

/-- A backup that was written is recognized. -/
theorem Written.isBackupEnvelope
    {params : Value}
    {salt nonce : String}
    (written :
      Written crypto kdf plaintext passphrase params salt nonce file) :
    isBackupEnvelope file = true := by
  obtain ⟨-, key, nonceBytes, data, -, -, -, parsed⟩ := written
  rw [EncryptedBackup.isBackupEnvelope, parsed]
  rfl

end Reading

/-!
## A backup with primitives that spell their inputs out
-/

/-- The first 32 bytes of the password and the salt. -/
def paddedKey (password salt : Bytes) : Bytes :=
  (password ++ salt ++ List.replicate 32 0).take 32

/-- Derivation functions that return keys of 32 bytes. -/
def paddedFunctions : DerivationFunctions where
  pbkdf2 password salt _ := some (paddedKey password salt)
  argon2id password salt _ _ _ := some (paddedKey password salt)

/-- A padded key has 32 bytes. -/
theorem length_paddedKey (password salt : Bytes) :
    (paddedKey password salt).length = 32 := by
  rw [paddedKey, List.length_take, List.length_append, List.length_replicate]
  exact Nat.min_eq_left (Nat.le_add_left 32 _)

/-- They return keys of 256 bits. -/
theorem derivesKeys_padded (crypto : Primitives) :
    DerivesKeys crypto paddedFunctions := by
  intro password salt params key derived
  unfold OfflineVault.deriveKey at derived
  split at derived
  · dsimp only at derived
    split at derived
    · rw [← Option.some.inj derived]
      exact length_paddedKey _ _
    · rw [← Option.some.inj derived]
      exact length_paddedKey _ _
  · cases derived

/-- What they derive with the default parameters. -/
theorem deriveKey_padded (password salt : String) :
    OfflineVault.deriveKey plainPrimitives paddedFunctions password
        (some (.string salt)) (some OfflineVault.DEFAULT_KDF.value) =
      some (paddedKey (utf8 (plainPrimitives.nfkc password)) (utf8 salt)) := by
  simp [OfflineVault.deriveKey, saltText, JavaScript.text, JavaScript.member,
    JavaScript.property, lookup, OfflineVault.DEFAULT_KDF, isText,
    paddedFunctions]

/-- Passphrases that start with other letters derive other padded keys. -/
theorem paddedKey_ne (salt : Bytes) :
    paddedKey (utf8 (plainPrimitives.nfkc "wrong")) salt ≠
      paddedKey (utf8 (plainPrimitives.nfkc "right")) salt := by
  intro same
  have wrong :
      utf8 (plainPrimitives.nfkc "wrong") = [119, 114, 111, 110, 103] := by
    decide
  have right :
      utf8 (plainPrimitives.nfkc "right") = [114, 105, 103, 104, 116] := by
    decide
  rw [wrong, right] at same
  have firsts := congrArg List.head? same
  exact absurd firsts (by simp [paddedKey])

/-- They encrypt everything under every passphrase. -/
theorem encryptBackup_padded
    {plaintext passphrase : String}
    {salt : Drawn 16}
    {nonce : Drawn 12}
    (hasPassphrase : passphrase ≠ "") :
    ∃ file,
      encryptBackup plainPrimitives paddedFunctions plaintext passphrase
        OfflineVault.DEFAULT_KDF salt nonce = .ok file := by
  obtain ⟨key, derived⟩ :
      ∃ key,
        OfflineVault.deriveKey plainPrimitives paddedFunctions passphrase
          (some (.string (toBase64 salt.1)))
          (some OfflineVault.DEFAULT_KDF.value) = some key :=
    ⟨_, deriveKey_padded _ _⟩
  rw [encryptBackup, if_neg hasPassphrase]
  simp only [derived]
  exact ⟨_, rfl⟩

end Passwd.EncryptedBackup
