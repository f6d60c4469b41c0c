import Passwd.KeyHierarchy
import Mathlib.Logic.Relation
import Mathlib.Data.Set.Defs

namespace Passwd.OfflineVault

open Base64 Crypto Json Utf8

/-!
# The offline vault file

The desktop application keeps a whole vault in one JSON document.  The document
holds the parameters and the salt of the derivation, the User Key wrapped under
what the master password derives, and the payload encrypted under the User Key.
Opening, saving and re-keying each rewrite another part of it.

A parsed file is not checked to have the type of a vault file, so the parts that
stand for the derivation keep whatever values the file holds.
-/

/-!
## Failures
-/

/-- An `Error` with its message, or an exception of something the code calls. -/
inductive Failure where
  | message (text : String)
  | thrown
deriving DecidableEq

/-- The value of a computation that may throw. -/
def orThrow (failure : Failure) : Option α → Except Failure α
  | none => .error failure
  | some value => .ok value

/-- A computation that throws has no value. -/
theorem orThrow_eq_ok
    {failure : Failure}
    {result : Option α}
    {value : α} :
    orThrow failure result = .ok value ↔ result = some value := by
  cases result with
  | none =>
      simp [orThrow]
  | some actual =>
      simp [orThrow]

/-- Both steps of a sequence that does not throw do not throw. -/
theorem ok_of_bind
    {first : Except Failure α}
    {next : α → Except Failure β}
    {value : β}
    (succeeds : first >>= next = .ok value) :
    ∃ middle, first = .ok middle ∧ next middle = .ok value := by
  cases first with
  | error failure =>
      cases succeeds
  | ok middle =>
      exact ⟨middle, rfl, succeeds⟩

/-- A value that was computed from another one. -/
theorem ok_of_map
    {result : Except Failure α}
    {function : α → β}
    {value : β}
    (succeeds : result.map function = .ok value) :
    ∃ earlier, result = .ok earlier ∧ function earlier = value := by
  cases result with
  | error failure =>
      cases succeeds
  | ok earlier =>
      cases succeeds
      exact ⟨earlier, rfl, rfl⟩

/-- The message of a file that does not open under a password. -/
def wrongPassword : Failure :=
  .message "wrong master password or corrupted vault"

/-- The message of an empty master password. -/
def passwordRequired : Failure :=
  .message "a master password is required"

/-!
## Deriving a key from the values of a file
-/

/--
The derivation functions, as they take the values of a file: the password and
the salt, the iterations, and for Argon2 the memory in MiB and the parallelism.
They convert the values to numbers or refuse them.
-/
structure DerivationFunctions where
  pbkdf2 : Bytes → Bytes → Option Value → Option Bytes
  argon2id : Bytes → Bytes → Option Value → Value → Value → Option Bytes

/-- `KdfParams`: what JSON can spell. -/
structure KdfParams where
  value : Value
  wellFormed : WellFormed value

/-- `DEFAULT_KDF` -/
def DEFAULT_KDF : KdfParams where
  value :=
    .object
      [("type", .string "argon2id"), ("iterations", .number "3"),
        ("memoryMiB", .number "64"), ("parallelism", .number "4")]
  wellFormed := by
    simp [WellFormed, WellFormedMembers]
    decide

/-- `value ?? fallback` -/
def orElse (fallback : Value) : Option Value → Value
  | none => fallback
  | some .null => fallback
  | some value => value

/-- `value === text` -/
def isText (text : String) : Option Value → Bool
  | some (.string actual) => actual = text
  | _ => false

/-- The text that `TextEncoder` makes of the salt of a file. -/
def saltText (numberText : String → String) : Option Value → Option String
  | none => some ""
  | some salt => JavaScript.text numberText salt

section Functions

variable (crypto : Primitives) (kdf : DerivationFunctions)

/-- `deriveKey`, for the salt and the parameters of a file. -/
def deriveKey (password : String) (salt params : Option Value) : Option Bytes :=
  match saltText crypto.numberText salt, JavaScript.member params "type" with
  | some salt, some type =>
      let pw := utf8 (crypto.nfkc password)
      let saltBytes := utf8 salt
      let param := fun key => params.bind fun params =>
        JavaScript.property params key
      if isText "pbkdf2" type then
        kdf.pbkdf2 pw saltBytes (param "iterations")
      else
        kdf.argon2id pw saltBytes (param "iterations")
          (orElse (.number "64") (param "memoryMiB"))
          (orElse (.number "4") (param "parallelism"))
  | _, _ => none

/-!
## Vault files
-/

/-- `VAULT_FORMAT` -/
def VAULT_FORMAT : String := "passwd-vault"

/-- `VAULT_VERSION` -/
def VAULT_VERSION : String := "1"

/-- Whether a number literal has the value of `VAULT_VERSION`. -/
def isVaultVersion (literal : List Char) : Bool :=
  let isExponentMark := fun symbol => symbol = 'e' || symbol = 'E'
  let significand := literal.takeWhile fun symbol => !isExponentMark symbol
  let whole := significand.takeWhile fun symbol => symbol ≠ '.'
  let fraction := (significand.dropWhile fun symbol => symbol ≠ '.').drop 1
  let exponent :=
    match literal.dropWhile fun symbol => !isExponentMark symbol with
    | [] => some 0
    | _ :: digits => exponentValue digits
  match digitsValue 10 (whole ++ fraction), exponent with
  | some mantissa, some exponent =>
      roundsToOne mantissa (exponent - fraction.length)
  | _, _ => false

example : isVaultVersion "10.0e-1".toList = true := by decide
example : isVaultVersion "-1".toList = false := by decide

/-- `file.version === VAULT_VERSION` -/
def hasVaultVersion (file : Value) : Bool :=
  match JavaScript.property file "version" with
  | some (.number literal) => isVaultVersion literal.toList
  | _ => false

/-- `VaultState` -/
structure VaultState where
  kdf : Value
  salt : Option Value
  protectedUserKey : String
  userKey : Bytes

/-- `VaultFile`; a salt that is undefined is not written. -/
def vaultFile (state : VaultState) (vault : String) : Value :=
  .object
    ([("format", .string VAULT_FORMAT), ("version", .number VAULT_VERSION),
        ("kdf", state.kdf)] ++
      (state.salt.map fun salt => ("salt", salt)).toList ++
      [("protectedUserKey", .string state.protectedUserKey),
        ("vault", .string vault)])

/-- `JSON.stringify(value, null, 2)` -/
def stringifyIndented (value : Value) : String :=
  String.ofList (writeLaidOut stringifyEscapes indented 0 value)

/-- The bytes that one call of `randomBytes` draws. -/
abbrev Drawn (count : Nat) := { bytes : Bytes // bytes.length = count }

/-- Drawn bytes are some bytes. -/
theorem Drawn.ne_nil {count : Nat} (drawn : Drawn (count + 1)) :
    drawn.1 ≠ [] := by
  intro isEmpty
  have length := drawn.2
  rw [isEmpty] at length
  cases length

/-- `encryptItem` -/
def encryptItem (userKey : Bytes) (plaintext : String) (nonce : Bytes) :
    Option String :=
  sealEnvelope crypto (itemKey userKey) (utf8 plaintext) nonce

/-- `serialize` -/
def serialize (state : VaultState) (payload : String) (nonce : Drawn 12) :
    Except Failure String :=
  (orThrow .thrown (encryptItem crypto state.userKey payload nonce.1)).map
    fun vault => stringifyIndented (vaultFile state vault)

/-- What creating and re-keying share: a User Key under a password. -/
def serializeUnder
    (masterPassword payload : String)
    (params : Value)
    (salt : Drawn 16)
    (userKey : Bytes)
    (keyNonce nonce : Drawn 12) :
    Except Failure (String × VaultState) :=
  if masterPassword = "" then
    .error passwordRequired
  else do
    let saltValue := Value.string (toBase64 salt.1)
    let masterKey ←
      orThrow .thrown
        (deriveKey crypto kdf masterPassword (some saltValue) (some params))
    let protectedUserKey ←
      orThrow .thrown
        (wrapUserKey crypto (stretchMasterKey crypto masterKey) userKey
          keyNonce.1)
    let state : VaultState :=
      { kdf := params
        salt := some saltValue
        protectedUserKey := protectedUserKey
        userKey := userKey }
    let file ← serialize crypto state payload nonce
    return (file, state)

/-- `createVault`, with the bytes it draws. -/
def createVault
    (masterPassword payload : String)
    (params : KdfParams)
    (salt : Drawn 16)
    (userKey : Drawn 64)
    (keyNonce nonce : Drawn 12) :
    Except Failure (String × VaultState) :=
  serializeUnder crypto kdf masterPassword payload params.value salt userKey.1
    keyNonce nonce

/-- `openVault` -/
def openVault (fileText masterPassword : String) :
    Except Failure (VaultState × String) :=
  match Json.read fileText with
  | none => .error (.message "not a valid passwd vault file")
  | some file =>
      if isText VAULT_FORMAT (JavaScript.property file "format") = false then
        .error (.message "not a passwd vault file")
      else if hasVaultVersion file = false then
        match JavaScript.textOfProperty crypto.numberText
            (JavaScript.property file "version") with
        | none => .error .thrown
        | some version =>
            .error (.message ("unsupported vault version " ++ version))
      else
        let salt := JavaScript.property file "salt"
        let params := JavaScript.property file "kdf"
        match deriveKey crypto kdf masterPassword salt params with
        | none => .error .thrown
        | some masterKey =>
            match params, JavaScript.property file "protectedUserKey",
                JavaScript.property file "vault" with
            | some params, some (.string protectedUserKey),
                some (.string vault) =>
                orThrow wrongPassword
                  ((unwrapUserKey crypto (stretchMasterKey crypto masterKey)
                    protectedUserKey).bind fun userKey =>
                      (decryptItem crypto userKey vault).map fun payload =>
                        ({ kdf := params
                           salt := salt
                           protectedUserKey := protectedUserKey
                           userKey := userKey }, payload))
            | _, _, _ => .error wrongPassword

/-- `saveVault` -/
def saveVault (state : VaultState) (payload : String) (nonce : Drawn 12) :
    Except Failure String :=
  serialize crypto state payload nonce

/-- `changeMasterPassword`; without parameters it keeps those of the state. -/
def changeMasterPassword
    (state : VaultState)
    (newPassword payload : String)
    (params : Option KdfParams)
    (salt : Drawn 16)
    (keyNonce nonce : Drawn 12) :
    Except Failure (String × VaultState) :=
  serializeUnder crypto kdf newPassword payload
    (params.elim state.kdf KdfParams.value) salt state.userKey keyNonce nonce

/-!
## The derivation of the account
-/

/-- The derivation functions of the account behind a reading of numbers. -/
def derivationFunctions (number : Value → Option Int) :
    DerivationFunctions where
  pbkdf2 password salt iterations :=
    (iterations.bind number).bind fun iterations =>
      crypto.pbkdf2 password salt iterations 32
  argon2id password salt iterations memoryMiB parallelism :=
    match iterations.bind number, number memoryMiB, number parallelism with
    | some iterations, some memoryMiB, some parallelism =>
        crypto.argon2id password salt iterations (memoryMiB * 1024) parallelism
    | _, _, _ => none

/-- A number as the value that a file holds. -/
def numeral (number : Int) : Value :=
  .number (toString number)

/-- The parameters of an account as the value that a file holds. -/
def spelled (params : Crypto.KdfParams) : Value :=
  .object
    ([("type", .string params.type),
        ("iterations", numeral params.iterations)] ++
      (params.memoryMiB.map fun memoryMiB =>
        ("memoryMiB", numeral memoryMiB)).toList ++
      (params.parallelism.map fun parallelism =>
        ("parallelism", numeral parallelism)).toList)

/-- The members of spelled parameters are the parameters. -/
theorem property_spelled (params : Crypto.KdfParams) :
    JavaScript.property (spelled params) "type" =
        some (.string params.type) ∧
      JavaScript.property (spelled params) "iterations" =
        some (numeral params.iterations) ∧
      JavaScript.property (spelled params) "memoryMiB" =
        params.memoryMiB.map numeral ∧
      JavaScript.property (spelled params) "parallelism" =
        params.parallelism.map numeral := by
  obtain ⟨type, iterations, memoryMiB, parallelism⟩ := params
  cases memoryMiB with
  | none =>
      cases parallelism with
      | none =>
          simp [spelled, JavaScript.property, lookup]
      | some parallelism =>
          simp [spelled, JavaScript.property, lookup]
  | some memoryMiB =>
      cases parallelism with
      | none =>
          simp [spelled, JavaScript.property, lookup]
      | some parallelism =>
          simp [spelled, JavaScript.property, lookup]

/-- A number or its default is read as that. -/
theorem reads_orElse
    {number : Value → Option Int}
    (reads : ∀ value, number (numeral value) = some value)
    (fallback : Int)
    (param : Option Int) :
    number (orElse (numeral fallback) (param.map numeral)) =
      some (param.getD fallback) := by
  cases param with
  | none =>
      exact reads fallback
  | some value =>
      exact reads value

/--
A vault derives what an account derives, from the spelled parameters and the
salt as a text.
-/
theorem deriveKey_spelled
    {number : Value → Option Int}
    (reads : ∀ value, number (numeral value) = some value)
    (password salt : String)
    (params : Crypto.KdfParams) :
    deriveKey crypto (derivationFunctions crypto number) password
        (some (.string salt)) (some (spelled params)) =
      Crypto.deriveKey crypto password salt params := by
  obtain ⟨type, iterations, memoryMiB, parallelism⟩ := property_spelled params
  have isMember :
      JavaScript.member (some (spelled params)) "type" =
        some (some (.string params.type)) :=
    congrArg some type
  have memoryRead := reads_orElse reads 64 params.memoryMiB
  have parallelismRead := reads_orElse reads 4 params.parallelism
  rw [← memoryMiB] at memoryRead
  rw [← parallelism] at parallelismRead
  change number (orElse (.number "64") _) = _ at memoryRead
  change number (orElse (.number "4") _) = _ at parallelismRead
  simp only [deriveKey, saltText, JavaScript.text, isMember, isText,
    decide_eq_true_eq, derivationFunctions, Option.bind_some, iterations,
    reads, memoryRead, parallelismRead, Crypto.deriveKey]

end Functions

/-- `isVaultFile` -/
def isVaultFile (text : String) : Bool :=
  (Json.read text).any fun file =>
    isText VAULT_FORMAT (JavaScript.property file "format")

/-- Every file that opens is recognized as a vault file. -/
theorem isVaultFile_of_openVault
    {crypto : Primitives}
    {kdf : DerivationFunctions}
    {fileText masterPassword : String}
    {opened : VaultState × String}
    (opens : openVault crypto kdf fileText masterPassword = .ok opened) :
    isVaultFile fileText = true := by
  unfold openVault at opens
  split at opens
  · cases opens
  · rename_i file parsed
    by_cases isFormat :
        isText VAULT_FORMAT (JavaScript.property file "format") = true
    · rw [isVaultFile, parsed]
      exact isFormat
    · rw [if_pos (Bool.eq_false_iff.mpr isFormat)] at opens
      cases opens

/-!
## Reading what was written
-/

/-- A text that `JSON.parse` accepts. -/
def IsJson (text : String) : Prop :=
  (Json.read text).isSome = true

instance (text : String) : Decidable (IsJson text) :=
  inferInstanceAs (Decidable (_ = true))

/-- A JSON text does not start with a byte order mark. -/
theorem IsJson.unmarked {text : String} (isJson : IsJson text) :
    text.toList.head? ≠ some byteOrderMark := by
  intro marked
  obtain ⟨rest, shape⟩ : ∃ rest, text.toList = byteOrderMark :: rest := by
    cases shape : text.toList with
    | nil =>
        rw [shape] at marked
        cases marked
    | cons symbol rest =>
        rw [shape] at marked
        cases marked
        exact ⟨rest, rfl⟩
  have notSpace :
      skipSpace (byteOrderMark :: rest) = byteOrderMark :: rest :=
    List.dropWhile_cons_of_neg (by decide)
  have notNumber : readNumber (byteOrderMark :: rest) = none := by
    have literal : (byteOrderMark :: rest).takeWhile isNumberChar = [] :=
      List.takeWhile_cons_of_neg (by decide)
    simp only [readNumber, literal]
    rfl
  have unread :
      readValue ((byteOrderMark :: rest).length + 1) (byteOrderMark :: rest) =
        none := by
    rw [readValue, notSpace]
    simp only [notNumber, Option.map_none]
    rfl
  rw [IsJson, Json.read, shape, unread] at isJson
  cases isJson

/-- A state whose values JSON can spell. -/
structure VaultState.Spelled (state : VaultState) : Prop where
  kdf : WellFormed state.kdf
  salt : ∀ salt, state.salt = some salt → WellFormed salt

/-- What is written of such a state can be read. -/
theorem VaultState.Spelled.wellFormed
    {state : VaultState}
    (isSpelled : state.Spelled)
    (vault : String) :
    WellFormed (vaultFile state vault) := by
  have version :
      validNumber VAULT_VERSION.toList = true ∧
        VAULT_VERSION.toList.all isNumberChar = true := by
    decide
  cases isSalt : state.salt with
  | none =>
      simp [vaultFile, isSalt, WellFormed, WellFormedMembers, isSpelled.kdf,
        version]
  | some salt =>
      simp [vaultFile, isSalt, WellFormed, WellFormedMembers, isSpelled.kdf,
        isSpelled.salt salt isSalt, version]

/-- The members of a vault file. -/
theorem property_vaultFile (state : VaultState) (vault : String) :
    JavaScript.property (vaultFile state vault) "format" =
        some (.string VAULT_FORMAT) ∧
      JavaScript.property (vaultFile state vault) "version" =
        some (.number VAULT_VERSION) ∧
      JavaScript.property (vaultFile state vault) "kdf" = some state.kdf ∧
      JavaScript.property (vaultFile state vault) "salt" = state.salt ∧
      JavaScript.property (vaultFile state vault) "protectedUserKey" =
        some (.string state.protectedUserKey) ∧
      JavaScript.property (vaultFile state vault) "vault" =
        some (.string vault) := by
  cases isSalt : state.salt with
  | none =>
      simp [vaultFile, isSalt, JavaScript.property, lookup]
  | some salt =>
      simp [vaultFile, isSalt, JavaScript.property, lookup]

section Opening

variable {crypto : Primitives} {kdf : DerivationFunctions}
  {state : VaultState} {payload file password : String}

/-- Opening a file that was serialized from a state. -/
theorem openVault_serialize
    (kdf : DerivationFunctions)
    {nonce : Drawn 12}
    (isSpelled : state.Spelled)
    (serialized : serialize crypto state payload nonce = .ok file)
    (password : String) :
    ∃ vault,
      encryptItem crypto state.userKey payload nonce.1 = some vault ∧
        openVault crypto kdf file password =
          match deriveKey crypto kdf password state.salt (some state.kdf) with
          | none => .error .thrown
          | some masterKey =>
              orThrow wrongPassword
                ((unwrapUserKey crypto (stretchMasterKey crypto masterKey)
                  state.protectedUserKey).bind fun userKey =>
                    (decryptItem crypto userKey vault).map fun payload =>
                      ({ state with userKey := userKey }, payload)) := by
  cases encrypted : encryptItem crypto state.userKey payload nonce.1 with
  | none =>
      rw [serialize, encrypted] at serialized
      cases serialized
  | some vault =>
      refine ⟨vault, rfl, ?_⟩
      have isFile : file = stringifyIndented (vaultFile state vault) := by
        rw [serialize, encrypted] at serialized
        cases serialized
        rfl
      have parsed : Json.read file = some (vaultFile state vault) := by
        rw [isFile]
        exact read_writeLaidOut _ _ _ (isSpelled.wellFormed vault)
      obtain ⟨format, version, params, salt, protectedKey, isVault⟩ :=
        property_vaultFile state vault
      have isVersion : hasVaultVersion (vaultFile state vault) = true := by
        rw [hasVaultVersion, version]
        decide
      simp only [openVault, parsed, format, isVersion, params, salt,
        protectedKey, isVault]
      rfl

/-- What is encrypted under a User Key decrypts under it. -/
theorem decryptItem_of_encryptItem
    (authenticated : crypto.Authenticated)
    {userKey : Bytes}
    {plaintext encString : String}
    {nonce : Drawn 12}
    (isJson : IsJson plaintext)
    (encrypted :
      encryptItem crypto userKey plaintext nonce.1 = some encString) :
    decryptItem crypto userKey encString = some plaintext := by
  rw [decryptItem,
    openEnvelope_of_sealEnvelope authenticated nonce.ne_nil encrypted,
    Option.map_some, fromUtf8_utf8 isJson.unmarked]

/-- A password from which the wrapping key of a state derives. -/
def VaultState.OpensWith
    (crypto : Primitives)
    (kdf : DerivationFunctions)
    (state : VaultState)
    (password : String) :
    Prop :=
  ∃ masterKey,
    deriveKey crypto kdf password state.salt (some state.kdf) =
        some masterKey ∧
      unwrapUserKey crypto (stretchMasterKey crypto masterKey)
        state.protectedUserKey = some state.userKey

/-- A serialized state opens to itself and to the payload. -/
theorem VaultState.OpensWith.openVault_eq
    (authenticated : crypto.Authenticated)
    {nonce : Drawn 12}
    (opens : state.OpensWith crypto kdf password)
    (isSpelled : state.Spelled)
    (isJson : IsJson payload)
    (serialized : serialize crypto state payload nonce = .ok file) :
    openVault crypto kdf file password = .ok (state, payload) := by
  obtain ⟨masterKey, derived, unwrapped⟩ := opens
  obtain ⟨vault, encrypted, opened⟩ :=
    openVault_serialize kdf isSpelled serialized password
  have decrypted := decryptItem_of_encryptItem authenticated isJson encrypted
  simp only [opened, derived, unwrapped, Option.bind_some, decrypted]
  rfl

/-- A state whose User Key was wrapped under what a password derives. -/
def VaultState.WrappedUnder
    (crypto : Primitives)
    (kdf : DerivationFunctions)
    (state : VaultState)
    (password : String) :
    Prop :=
  ∃ masterKey, ∃ nonce : Drawn 12,
    deriveKey crypto kdf password state.salt (some state.kdf) =
        some masterKey ∧
      wrapUserKey crypto (stretchMasterKey crypto masterKey) state.userKey
        nonce.1 = some state.protectedUserKey

/-- The password under which the User Key was wrapped opens the state. -/
theorem VaultState.WrappedUnder.opensWith
    (authenticated : crypto.Authenticated)
    (wrapped : state.WrappedUnder crypto kdf password) :
    state.OpensWith crypto kdf password := by
  obtain ⟨masterKey, nonce, derived, isWrapped⟩ := wrapped
  exact ⟨masterKey, derived,
    openEnvelope_of_sealEnvelope authenticated nonce.ne_nil isWrapped⟩

/-- What a state is that was serialized under a password. -/
structure SerializedUnder
    (crypto : Primitives)
    (kdf : DerivationFunctions)
    (password payload : String)
    (params : Value)
    (userKey : Bytes)
    (file : String)
    (state : VaultState) :
    Prop where
  hasPassword : password ≠ ""
  params : state.kdf = params
  salt : ∃ salt, state.salt = some (.string salt)
  userKey : state.userKey = userKey
  wrapped : state.WrappedUnder crypto kdf password
  serialized : ∃ nonce, serialize crypto state payload nonce = .ok file

/-- Creating and re-keying serialize a state under the password. -/
theorem serializedUnder_of_serializeUnder
    {params : Value}
    {salt : Drawn 16}
    {userKey : Bytes}
    {keyNonce nonce : Drawn 12}
    (written :
      serializeUnder crypto kdf password payload params salt userKey keyNonce
        nonce = .ok (file, state)) :
    SerializedUnder crypto kdf password payload params userKey file state := by
  unfold serializeUnder at written
  by_cases isEmpty : password = ""
  · rw [if_pos isEmpty] at written
    cases written
  · rw [if_neg isEmpty] at written
    obtain ⟨masterKey, derived, written⟩ := ok_of_bind written
    obtain ⟨protectedUserKey, wrapped, written⟩ := ok_of_bind written
    obtain ⟨text, serialized, written⟩ := ok_of_bind written
    cases written
    exact
      { hasPassword := isEmpty
        params := rfl
        salt := ⟨_, rfl⟩
        userKey := rfl
        wrapped :=
          ⟨masterKey, keyNonce, orThrow_eq_ok.mp derived,
            orThrow_eq_ok.mp wrapped⟩
        serialized := ⟨nonce, serialized⟩ }

/-- Parameters that can be spelled and the new salt can be spelled. -/
theorem SerializedUnder.spelled
    {params : Value}
    {userKey : Bytes}
    (written :
      SerializedUnder crypto kdf password payload params userKey file state)
    (wellFormed : WellFormed params) :
    state.Spelled := by
  obtain ⟨salt, isSalt⟩ := written.salt
  constructor
  · rw [written.params]
    exact wellFormed
  · intro actual isActual
    rw [isSalt] at isActual
    cases isActual
    trivial

/-- The members of a value that can be spelled can be spelled. -/
theorem wellFormed_property
    {value member : Value}
    {key : String}
    (wellFormed : WellFormed value)
    (found : JavaScript.property value key = some member) :
    WellFormed member := by
  cases value with
  | object members =>
      obtain ⟨entry, isEntry, isMember⟩ := Option.map_eq_some_iff.mp found
      cases isMember
      exact wellFormedMembers_iff.mp wellFormed.2 entry
        (List.mem_of_find?_eq_some isEntry)
  | null =>
      cases found
  | bool value =>
      cases found
  | number literal =>
      cases found
  | string text =>
      cases found
  | array items =>
      cases found

/-- The state of a file that opens can be spelled and opens with the password. -/
theorem opensWith_of_openVault
    (opened : openVault crypto kdf file password = .ok (state, payload)) :
    state.Spelled ∧ state.OpensWith crypto kdf password := by
  unfold openVault at opened
  split at opened
  · cases opened
  · rename_i value parsed
    have wellFormed := wellFormed_of_read parsed
    split at opened
    · cases opened
    · split at opened
      · split at opened
        · cases opened
        · cases opened
      · dsimp only at opened
        split at opened
        · cases opened
        · rename_i masterKey derived
          split at opened
          · rename_i params protectedUserKey vault isParams _ _
            obtain ⟨userKey, unwrapped, rest⟩ :=
              Option.bind_eq_some_iff.mp (orThrow_eq_ok.mp opened)
            obtain ⟨payload, _, isState⟩ := Option.map_eq_some_iff.mp rest
            cases isState
            rw [isParams] at derived
            refine ⟨?_, masterKey, derived, unwrapped⟩
            exact
              { kdf := wellFormed_property wellFormed isParams
                salt := fun salt isSalt =>
                  wellFormed_property wellFormed isSalt }
          · cases opened

end Opening

end Passwd.OfflineVault
