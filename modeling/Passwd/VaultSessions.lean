import Passwd.OfflineVault

namespace Passwd.OfflineVault

open Base64 Crypto Json

/-!
# Sessions on an offline vault file

A session starts with a new vault and continues with saves, changes of the
master password and openings, each on the latest file and the latest unlocked
state.  The file always opens under the current password to the current payload
and to the current state, and under no other password.
-/

/-- AES-GCM decryption refuses every other key of the same length. -/
def Exclusive (crypto : Primitives) : Prop :=
  ∀ key other nonce plaintext data,
    crypto.aesGcmEncrypt key nonce plaintext = some data →
      other.length = key.length →
        other ≠ key →
          crypto.aesGcmDecrypt other nonce data = none

/--
Among these passwords, one wrapping key derives from passwords of one normal
form only, whatever the salt and the parameters.
-/
def Separates
    (crypto : Primitives)
    (kdf : DerivationFunctions)
    (passwords : Set String) :
    Prop :=
  ∀ first ∈ passwords, ∀ second ∈ passwords,
    ∀ salt params firstKey secondKey,
    deriveKey crypto kdf first salt params = some firstKey →
      deriveKey crypto kdf second salt params = some secondKey →
        (stretchMasterKey crypto firstKey).encKey =
            (stretchMasterKey crypto secondKey).encKey →
          crypto.nfkc first = crypto.nfkc second

/-- The latest file and unlocked state, with what they stand for. -/
structure Session where
  file : String
  state : VaultState
  password : String
  payload : String

section Sessions

variable (crypto : Primitives) (kdf : DerivationFunctions)

/-- A session on a vault that has just been created. -/
inductive Created : Session → Prop where
  | createVault
      {password payload file : String}
      {params : KdfParams}
      {salt : Drawn 16}
      {userKey : Drawn 64}
      {keyNonce nonce : Drawn 12}
      {state : VaultState} :
      IsJson payload →
      createVault crypto kdf password payload params salt userKey keyNonce
        nonce = .ok (file, state) →
      Created
        { file := file
          state := state
          password := password
          payload := payload }

/-- One operation on the latest file and state that does not throw. -/
inductive Step (session : Session) : Session → Prop where
  | saveVault
      {payload file : String}
      {nonce : Drawn 12} :
      IsJson payload →
      saveVault crypto session.state payload nonce = .ok file →
      Step session { session with file := file, payload := payload }
  | changeMasterPassword
      {newPassword payload file : String}
      {params : Option KdfParams}
      {salt : Drawn 16}
      {keyNonce nonce : Drawn 12}
      {state : VaultState} :
      IsJson payload →
      changeMasterPassword crypto kdf session.state newPassword payload params
        salt keyNonce nonce = .ok (file, state) →
      Step session
        { file := file
          state := state
          password := newPassword
          payload := payload }
  | openVault
      {masterPassword payload : String}
      {state : VaultState} :
      openVault crypto kdf session.file masterPassword =
        .ok (state, payload) →
      Step session { session with state := state }

/-- The file, the state, the password and the payload belong together. -/
structure Coherent (userKey : Bytes) (session : Session) : Prop where
  spelled : session.state.Spelled
  isJson : IsJson session.payload
  userKey : session.state.userKey = userKey
  wrapped : session.state.WrappedUnder crypto kdf session.password
  serialized :
    ∃ nonce,
      serialize crypto session.state session.payload nonce = .ok session.file

variable {crypto kdf} {session later : Session}

/-!
## Keys
-/

/-- A wrapping key has 32 bytes. -/
theorem length_encKey (masterKey : Bytes) :
    (stretchMasterKey crypto masterKey).encKey.length = 32 := by
  simp [stretchMasterKey, hkdfExpand, hkdfBlocks]

/-- What is sealed does not open under another key of the same length. -/
theorem openEnvelope_of_ne
    (exclusive : Exclusive crypto)
    (authenticated : crypto.Authenticated)
    {key other plaintext nonce : Bytes}
    {envelope : String}
    (hasNonce : nonce ≠ [])
    (isSealed : sealEnvelope crypto key plaintext nonce = some envelope)
    (sameLength : other.length = key.length)
    (different : other ≠ key) :
    openEnvelope crypto other envelope = none := by
  obtain ⟨data, encrypted, serialized⟩ := Option.map_eq_some_iff.mp isSealed
  rw [openEnvelope, ← serialized,
    parseEncString_serializeEncString hasNonce
      (authenticated _ _ _ _ encrypted).2]
  exact exclusive _ other _ _ _ encrypted sameLength different

/-- A User Key unwraps under the key that wrapped it, to what was wrapped. -/
theorem unwrapUserKey_of_ne
    (exclusive : Exclusive crypto)
    (authenticated : crypto.Authenticated)
    {masterKey other userKey : Bytes}
    {nonce : Drawn 12}
    {protectedUserKey : String}
    (wrapped :
      wrapUserKey crypto (stretchMasterKey crypto masterKey) userKey nonce.1 =
        some protectedUserKey)
    (different :
      (stretchMasterKey crypto other).encKey ≠
        (stretchMasterKey crypto masterKey).encKey) :
    unwrapUserKey crypto (stretchMasterKey crypto other) protectedUserKey =
      none :=
  openEnvelope_of_ne exclusive authenticated nonce.ne_nil wrapped
    (by rw [length_encKey, length_encKey]) different

/-!
## The law of a session
-/

namespace Coherent

variable {userKey : Bytes}

/-- The file opens under the current password to the state and the payload. -/
theorem openVault_eq
    (authenticated : crypto.Authenticated)
    (coherent : Coherent crypto kdf userKey session) :
    openVault crypto kdf session.file session.password =
      .ok (session.state, session.payload) := by
  obtain ⟨nonce, serialized⟩ := coherent.serialized
  exact (coherent.wrapped.opensWith authenticated).openVault_eq authenticated
    coherent.spelled coherent.isJson serialized

/--
A password opens the file to the state and the payload when it derives the
wrapping key of the current password, and throws otherwise.
-/
theorem opens_or_throws
    (exclusive : Exclusive crypto)
    (authenticated : crypto.Authenticated)
    (coherent : Coherent crypto kdf userKey session)
    (password : String) :
    (∃ masterKey wrappingKey,
      deriveKey crypto kdf password session.state.salt
          (some session.state.kdf) = some masterKey ∧
        deriveKey crypto kdf session.password session.state.salt
            (some session.state.kdf) = some wrappingKey ∧
          (stretchMasterKey crypto masterKey).encKey =
              (stretchMasterKey crypto wrappingKey).encKey ∧
            openVault crypto kdf session.file password =
              .ok (session.state, session.payload)) ∨
      ∃ failure, openVault crypto kdf session.file password =
        .error failure := by
  obtain ⟨nonce, serialized⟩ := coherent.serialized
  obtain ⟨vault, encrypted, opened⟩ :=
    openVault_serialize kdf coherent.spelled serialized password
  obtain ⟨wrappingKey, keyNonce, isWrapping, wrapped⟩ := coherent.wrapped
  cases derived :
      deriveKey crypto kdf password session.state.salt
        (some session.state.kdf) with
  | none =>
      right
      exact ⟨.thrown, by simp only [opened, derived]⟩
  | some masterKey =>
      by_cases same :
          (stretchMasterKey crypto masterKey).encKey =
            (stretchMasterKey crypto wrappingKey).encKey
      · left
        refine ⟨masterKey, wrappingKey, rfl, isWrapping, same, ?_⟩
        have opens : session.state.OpensWith crypto kdf password := by
          refine ⟨masterKey, derived, ?_⟩
          rw [unwrapUserKey, same]
          exact openEnvelope_of_sealEnvelope authenticated keyNonce.ne_nil
            wrapped
        exact opens.openVault_eq authenticated coherent.spelled
          coherent.isJson serialized
      · right
        have refused :=
          unwrapUserKey_of_ne exclusive authenticated wrapped same
        exact ⟨wrongPassword, by
          simp only [opened, derived, refused, Option.bind_none, orThrow]⟩

/-- Under whatever password the file opens, it opens to the state. -/
theorem state_eq
    (exclusive : Exclusive crypto)
    (authenticated : crypto.Authenticated)
    (coherent : Coherent crypto kdf userKey session)
    {password payload : String}
    {state : VaultState}
    (opened :
      openVault crypto kdf session.file password = .ok (state, payload)) :
    state = session.state := by
  rcases coherent.opens_or_throws exclusive authenticated password with
    ⟨_, _, _, _, _, opens⟩ | ⟨failure, throws⟩
  · rw [opens] at opened
    cases opened
    rfl
  · rw [throws] at opened
    cases opened

/-- Another password that is told apart from the current one throws. -/
theorem openVault_throws
    (exclusive : Exclusive crypto)
    (authenticated : crypto.Authenticated)
    (coherent : Coherent crypto kdf userKey session)
    {passwords : Set String}
    (separates : Separates crypto kdf passwords)
    (isMember : session.password ∈ passwords)
    {other : String}
    (otherMember : other ∈ passwords)
    (different : crypto.nfkc other ≠ crypto.nfkc session.password) :
    ∃ failure,
      openVault crypto kdf session.file other = .error failure := by
  rcases coherent.opens_or_throws exclusive authenticated other with
    ⟨masterKey, wrappingKey, derived, isWrapping, same, _⟩ | throws
  · exact absurd
      (separates other otherMember session.password isMember _ _ _ _ derived
        isWrapping same) different
  · exact throws

/-- A state that is serialized under a password coheres with its file. -/
theorem of_serializedUnder
    {params : Value}
    {file payload password : String}
    {state : VaultState}
    (isJson : IsJson payload)
    (wellFormed : WellFormed params)
    (written :
      SerializedUnder crypto kdf password payload params userKey file state) :
    Coherent crypto kdf userKey
      { file := file
        state := state
        password := password
        payload := payload } where
  spelled := written.spelled wellFormed
  isJson := isJson
  userKey := written.userKey
  wrapped := written.wrapped
  serialized := written.serialized

/-- A vault that has just been created is coherent. -/
theorem of_created (created : Created crypto kdf session) :
    Coherent crypto kdf session.state.userKey session := by
  cases created with
  | @createVault password payload file params salt userKey keyNonce nonce state
      isJson written =>
      have serialized := serializedUnder_of_serializeUnder written
      have coherent := of_serializedUnder isJson params.wellFormed serialized
      rw [← serialized.userKey] at coherent
      exact coherent

/-- Every operation keeps the parts of a session together. -/
theorem step
    (exclusive : Exclusive crypto)
    (authenticated : crypto.Authenticated)
    (coherent : Coherent crypto kdf userKey session)
    (moved : Step crypto kdf session later) :
    Coherent crypto kdf userKey later := by
  cases moved with
  | @saveVault payload file nonce isJson saved =>
      exact
        { spelled := coherent.spelled
          isJson := isJson
          userKey := coherent.userKey
          wrapped := coherent.wrapped
          serialized := ⟨nonce, saved⟩ }
  | @changeMasterPassword newPassword payload file params salt keyNonce nonce
      state isJson changed =>
      have written := serializedUnder_of_serializeUnder changed
      rw [coherent.userKey] at written
      refine of_serializedUnder isJson ?_ written
      cases params with
      | none =>
          exact coherent.spelled.kdf
      | some params =>
          exact params.wellFormed
  | openVault opened =>
      have same := coherent.state_eq exclusive authenticated opened
      subst same
      exact coherent

/-- Every run of operations keeps the parts of a session together. -/
theorem run
    (exclusive : Exclusive crypto)
    (authenticated : crypto.Authenticated)
    (coherent : Coherent crypto kdf userKey session)
    (reached : Relation.ReflTransGen (Step crypto kdf) session later) :
    Coherent crypto kdf userKey later := by
  induction reached with
  | refl =>
      exact coherent
  | tail _ moved inductionHypothesis =>
      exact inductionHypothesis.step exclusive authenticated moved

end Coherent

/--
After any run of operations on a new vault, the file opens under the current
password to exactly the current state and the last payload, the User Key is the
one the vault was created with, and every password that is told apart from the
current one throws.
-/
theorem openVault_of_session
    (exclusive : Exclusive crypto)
    (authenticated : crypto.Authenticated)
    (created : Created crypto kdf session)
    (reached : Relation.ReflTransGen (Step crypto kdf) session later) :
    openVault crypto kdf later.file later.password =
        .ok (later.state, later.payload) ∧
      later.state.userKey = session.state.userKey ∧
      ∀ passwords : Set String,
        Separates crypto kdf passwords →
          later.password ∈ passwords →
            ∀ other ∈ passwords,
              crypto.nfkc other ≠ crypto.nfkc later.password →
                ∃ failure,
                  openVault crypto kdf later.file other = .error failure := by
  have coherent :=
    (Coherent.of_created created).run exclusive authenticated reached
  refine ⟨coherent.openVault_eq authenticated, coherent.userKey, ?_⟩
  intro passwords separates isMember other otherMember different
  exact coherent.openVault_throws exclusive authenticated separates isMember
    otherMember different

end Sessions

/-!
## A session with primitives that spell their inputs out
-/

/-- Plain decryption refuses every other key of the same length. -/
theorem exclusive_plainPrimitives : Exclusive plainPrimitives := by
  intro key other nonce plaintext data encrypted length different
  cases encrypted
  apply if_neg
  intro starts
  obtain ⟨rest, shape⟩ := List.isPrefixOf_iff_prefix.mp starts
  simp only [plainHeader, List.append_assoc] at shape
  exact different (List.append_inj_left shape length)

/-- Numerals of digits only, which spell what the derivation functions take. -/
def readNumeral : Value → Option Int
  | .number literal => (digitsValue 10 literal.toList).map Int.ofNat
  | _ => none

/-- Plain derivation functions. -/
def plainFunctions : DerivationFunctions :=
  derivationFunctions plainPrimitives readNumeral

/-- What derives plainly from a password starts with the password. -/
theorem deriveKey_plain
    {password : String}
    {salt params : Option Value}
    {masterKey : Bytes}
    (derived :
      deriveKey plainPrimitives plainFunctions password salt params =
        some masterKey) :
    ∃ rest, masterKey = Utf8.utf8 (plainPrimitives.nfkc password) ++ rest := by
  unfold deriveKey at derived
  split at derived
  · rename_i salt type _ _
    dsimp only at derived
    split at derived
    · obtain ⟨iterations, _, isKey⟩ := Option.bind_eq_some_iff.mp derived
      exact ⟨Utf8.utf8 salt, (Option.some.inj isKey).symm⟩
    · simp only [plainFunctions, derivationFunctions] at derived
      split at derived
      · exact ⟨Utf8.utf8 salt, (Option.some.inj derived).symm⟩
      · cases derived
  · cases derived

/-- The first byte of a plain master key shows in the plain wrapping key. -/
theorem encKey_plain (first : UInt8) (rest : Bytes) :
    (stretchMasterKey plainPrimitives (first :: rest)).encKey[4]? =
      some first := by
  have info : Utf8.utf8 "enc" = [101, 110, 99] := by
    decide
  simp [stretchMasterKey, hkdfExpand, hkdfBlocks, plainPrimitives, info]

/-- Plain primitives tell two passwords of one letter apart. -/
theorem separates_plain :
    Separates plainPrimitives plainFunctions {"a", "b"} := by
  intro first firstMember second secondMember salt params firstKey secondKey
    firstDerived secondDerived same
  obtain ⟨firstRest, isFirst⟩ := deriveKey_plain firstDerived
  obtain ⟨secondRest, isSecond⟩ := deriveKey_plain secondDerived
  rw [isFirst, isSecond] at same
  have bytes := congrArg (fun key : Bytes => key[4]?) same
  have letterA : Utf8.utf8 (plainPrimitives.nfkc "a") = [97] := by
    decide
  have letterB : Utf8.utf8 (plainPrimitives.nfkc "b") = [98] := by
    decide
  rcases firstMember with rfl | rfl
  · rcases secondMember with rfl | rfl
    · rfl
    · simp only [letterA, letterB, List.cons_append, encKey_plain] at bytes
      exact absurd bytes (by decide)
  · rcases secondMember with rfl | rfl
    · simp only [letterA, letterB, List.cons_append, encKey_plain] at bytes
      exact absurd bytes (by decide)
    · rfl

/-- The default parameters derive a plain key from every password. -/
theorem deriveKey_default (password salt : String) :
    ∃ masterKey,
      deriveKey plainPrimitives plainFunctions password (some (.string salt))
        (some DEFAULT_KDF.value) = some masterKey := by
  have three : readNumeral (.number "3") = some 3 := by
    decide
  have memory : readNumeral (.number "64") = some 64 := by
    decide
  have parallelism : readNumeral (.number "4") = some 4 := by
    decide
  refine ⟨Utf8.utf8 (plainPrimitives.nfkc password) ++ Utf8.utf8 salt, ?_⟩
  simp [deriveKey, saltText, JavaScript.text, JavaScript.member,
    JavaScript.property, lookup, DEFAULT_KDF, isText, orElse, plainFunctions,
    derivationFunctions, three, memory, parallelism]
  rfl

/-- Plain primitives serialize every state under every password. -/
theorem serializeUnder_plain
    {password payload : String}
    {salt : Drawn 16}
    {userKey : Bytes}
    {keyNonce nonce : Drawn 12}
    (hasPassword : password ≠ "") :
    ∃ file state,
      serializeUnder plainPrimitives plainFunctions password payload
        DEFAULT_KDF.value salt userKey keyNonce nonce = .ok (file, state) := by
  obtain ⟨masterKey, derived⟩ := deriveKey_default password (toBase64 salt.1)
  rw [serializeUnder, if_neg hasPassword]
  simp only [derived]
  exact ⟨_, _, rfl⟩

/-- Some bytes that `randomBytes` may draw. -/
def drawn (count : Nat) : Drawn count :=
  ⟨List.replicate count 7, List.length_replicate⟩

/--
A vault is created under one password, saved and changed to another one; the
file then opens under the second password and not under the first.
-/
theorem openVault_afterChange :
    ∃ session : Session,
      openVault plainPrimitives plainFunctions session.file "b" =
          .ok (session.state, "[2]") ∧
        ∃ failure,
          openVault plainPrimitives plainFunctions session.file "a" =
            .error failure := by
  obtain ⟨newFile, newState, created⟩ :=
    @serializeUnder_plain "a" "[]" (drawn 16) (drawn 64).1 (drawn 12)
      (drawn 12) (by decide)
  obtain ⟨savedFile, saved⟩ :
      ∃ file, saveVault plainPrimitives newState "[1]" (drawn 12) = .ok file :=
    ⟨_, rfl⟩
  obtain ⟨file, state, changed⟩ :=
    @serializeUnder_plain "b" "[2]" (drawn 16) newState.userKey (drawn 12)
      (drawn 12) (by decide)
  have isChanged :
      changeMasterPassword plainPrimitives plainFunctions newState "b" "[2]"
        (some DEFAULT_KDF) (drawn 16) (drawn 12) (drawn 12) =
          .ok (file, state) :=
    changed
  have isCreated :
      Created plainPrimitives plainFunctions
        { file := newFile
          state := newState
          password := "a"
          payload := "[]" } :=
    .createVault (by decide) created
  have isSaved :
      Step plainPrimitives plainFunctions
        { file := newFile
          state := newState
          password := "a"
          payload := "[]" }
        { file := savedFile
          state := newState
          password := "a"
          payload := "[1]" } :=
    .saveVault (by decide) saved
  have law :=
    openVault_of_session exclusive_plainPrimitives
      authenticated_plainPrimitives isCreated
      ((Relation.ReflTransGen.single isSaved).tail
        (.changeMasterPassword (by decide) isChanged))
  have different : plainPrimitives.nfkc "a" ≠ plainPrimitives.nfkc "b" := by
    decide
  exact ⟨_, law.1,
    law.2.2 {"a", "b"} separates_plain (Or.inr rfl) "a" (Or.inl rfl)
      different⟩

end Passwd.OfflineVault
