import Passwd.AccessTokens

namespace Passwd.Server

open Base64 Utf8

/-!
# Sealed secrets

A TOTP secret is stored as the nonce and the ciphertext of AES-GCM, each in
Base64, with a bar between them.  Strings are byte sequences here.  The cipher
panics on a nonce of another length than its own, and nothing checks the length
of the nonce in a stored string before the cipher gets it.
-/

/-- `gcm.NonceSize()` -/
def nonceSize : Nat := 12

/-- A key that `aes.NewCipher` takes. -/
def isAesKey (key : Bytes) : Bool :=
  key.length = 16 || key.length = 24 || key.length = 32

/-- AES-GCM: what was encrypted under a key and a nonce is decrypted with them. -/
structure AesGcm where
  encrypt : Bytes → Bytes → Bytes → Bytes
  decrypt : Bytes → Bytes → Bytes → Option Bytes
  decrypt_encrypt :
    ∀ key nonce plaintext,
      isAesKey key = true →
      nonce.length = nonceSize →
      decrypt key nonce (encrypt key nonce plaintext) = some plaintext

/-- A cipher that puts the key in front of the plaintext and looks for it there. -/
def plainAesGcm : AesGcm where
  encrypt key _ plaintext := key ++ plaintext
  decrypt key _ ciphertext :=
    if key.isPrefixOf ciphertext then some (ciphertext.drop key.length)
    else none
  decrypt_encrypt := by
    intro key nonce plaintext _ _
    rw [if_pos (List.isPrefixOf_iff_prefix.mpr (List.prefix_append _ _)),
      List.drop_left]

/-- `newGCM` -/
def newGCM (key : Bytes) : Outcome Bytes :=
  if isAesKey key then .returned key else .failed .library

/-- `base64.StdEncoding.EncodeToString` -/
def stdEncode (b : Bytes) : Bytes :=
  bytesOf (encode standard .padded b)

/-- `base64.StdEncoding.DecodeString` -/
def stdDecode (text : Bytes) : Option Bytes :=
  decodePadded standard isLineEnd (text.map octetChar)

/-- The byte between the nonce and the ciphertext. -/
def bar : UInt8 := 0x7c

/-- `blob[:i]` -/
def beforeBar (blob : Bytes) : Bytes :=
  blob.takeWhile fun byte => byte ≠ bar

/-- `blob[i+1:]` -/
def afterBar (blob : Bytes) : Bytes :=
  (blob.dropWhile fun byte => byte ≠ bar).drop 1

/-- `SecretBoxKey` -/
def secretBoxKey (sha256 : Bytes → Bytes) (serverSecret : Bytes) : Bytes :=
  sha256 (bytesOf "passwd.secretbox.v1:" ++ serverSecret)

namespace AesGcm

variable (gcm : AesGcm)

/-- `gcm.Seal`, which panics on a nonce of another length. -/
def gcmSeal (key nonce plaintext : Bytes) : Outcome Bytes :=
  if nonce.length ≠ nonceSize then
    .panicked
  else
    .returned (gcm.encrypt key nonce plaintext)

/-- `gcm.Open`, which panics on a nonce of another length. -/
def gcmOpen (key nonce ct : Bytes) : Outcome Bytes :=
  if nonce.length ≠ nonceSize then
    .panicked
  else
    .ofOption (gcm.decrypt key nonce ct)

/-- `EncryptSecret` with what the random source returned. -/
def encryptSecret
    (key : Bytes)
    (nonce : Option Bytes)
    (plaintext : Bytes) : Outcome Bytes := do
  let cipher ← newGCM key
  let nonce ← .ofOption nonce
  let ct ← gcm.gcmSeal cipher nonce plaintext
  return stdEncode nonce ++ bar :: stdEncode ct

/-- `DecryptSecret` -/
def decryptSecret (key blob : Bytes) : Outcome Bytes :=
  if bar ∈ blob then do
    let nonce ← .ofOption (stdDecode (beforeBar blob))
    let ct ← .ofOption (stdDecode (afterBar blob))
    let cipher ← newGCM key
    gcm.gcmOpen cipher nonce ct
  else
    .failed (.text "auth: malformed sealed secret")

/-- `totpSecret`: the secret, and whether there is one. -/
def totpSecret (totpKey stored : Bytes) : Outcome (Bytes × Bool) :=
  match gcm.decryptSecret totpKey stored with
  | .returned pt => .returned (pt, true)
  | .failed _ => .returned ([], false)
  | .panicked => .panicked

/-- `verifyLoginTOTP`, with what it does once it has the secret. -/
def verifyLoginTOTP
    (totpKey stored : Bytes)
    (accepts : Bytes → Bool) : Outcome Bool := do
  let (secret, ok) ← gcm.totpSecret totpKey stored
  return ok && accepts secret

end AesGcm

/--
A string that is well formed up to the length of its nonce, for a key that the
cipher takes.
-/
def WrongNonce (key blob : Bytes) : Prop :=
  bar ∈ blob ∧ isAesKey key = true ∧
    ∃ nonce ct,
      stdDecode (beforeBar blob) = some nonce ∧
      stdDecode (afterBar blob) = some ct ∧
      nonce.length ≠ nonceSize

/-!
## What was encrypted
-/

/-- The characters of an encoding, from its bytes. -/
theorem map_octetChar_stdEncode (b : Bytes) :
    (stdEncode b).map octetChar = (encode standard .padded b).toList :=
  map_octetChar_encode (by decide) .padded b

/-- What was encoded is decoded. -/
theorem stdDecode_stdEncode (b : Bytes) :
    stdDecode (stdEncode b) = some b := by
  have keepsSymbols :
      ∀ sextet, sextet < 64 → isLineEnd (standard.symbol sextet) = false := by
    decide
  rw [stdDecode, map_octetChar_stdEncode, encode, String.toList_ofList,
    decodePadded_encodeChars (by decide) keepsSymbols]

/-- No encoding holds the bar. -/
theorem bar_not_mem_stdEncode (b : Bytes) :
    bar ∉ stdEncode b :=
  byte_not_mem_encode (by decide) (by decide) (by decide) .padded b

/-- A string is cut at its first bar. -/
theorem cut_at_bar
    {first : Bytes}
    (noBar : bar ∉ first)
    (second : Bytes) :
    beforeBar (first ++ bar :: second) = first ∧
      afterBar (first ++ bar :: second) = second := by
  have kept : ∀ byte ∈ first, decide (byte ≠ bar) = true := by
    intro byte member
    apply decide_eq_true
    intro same
    rw [same] at member
    exact noBar member
  unfold beforeBar afterBar
  rw [List.takeWhile_append_of_pos kept, List.dropWhile_append_of_pos kept,
    List.takeWhile_cons_of_neg (by simp), List.dropWhile_cons_of_neg (by simp)]
  simp

namespace AesGcm

variable (gcm : AesGcm)

/-- A secret that was encrypted is decrypted. -/
theorem decryptSecret_encryptSecret
    {key nonce : Bytes}
    (valid : isAesKey key = true)
    (length : nonce.length = nonceSize)
    (plaintext : Bytes) :
    ∃ blob,
      gcm.encryptSecret key (some nonce) plaintext = .returned blob ∧
      gcm.decryptSecret key blob = .returned plaintext := by
  have cipher : newGCM key = .returned key :=
    if_pos valid
  have sealed :
      gcm.gcmSeal key nonce plaintext =
        .returned (gcm.encrypt key nonce plaintext) :=
    if_neg (not_not_intro length)
  have opened :
      gcm.gcmOpen key nonce (gcm.encrypt key nonce plaintext) =
        .returned plaintext := by
    rw [gcmOpen, if_neg (not_not_intro length),
      gcm.decrypt_encrypt key nonce plaintext valid length,
      Outcome.ofOption_some]
  obtain ⟨before, after⟩ :=
    cut_at_bar (bar_not_mem_stdEncode nonce)
      (stdEncode (gcm.encrypt key nonce plaintext))
  refine ⟨stdEncode nonce ++
    bar :: stdEncode (gcm.encrypt key nonce plaintext), ?_, ?_⟩
  · simp only [encryptSecret, cipher, sealed, Outcome.returned_bind,
      Outcome.ofOption_some, Outcome.pure_eq]
  · rw [decryptSecret, if_pos (by simp), before, after, stdDecode_stdEncode,
      stdDecode_stdEncode, cipher]
    simpa using opened

/-- The cipher opens with the key that `aes.NewCipher` took. -/
theorem newGCM_eq_returned
    (key cipher : Bytes) :
    newGCM key = .returned cipher ↔ isAesKey key = true ∧ cipher = key := by
  unfold newGCM
  cases isAesKey key with
  | false =>
      simp
  | true =>
      simp [eq_comm]

/-- Making the cipher does not panic. -/
theorem newGCM_ne_panicked (key : Bytes) :
    newGCM key ≠ .panicked := by
  unfold newGCM
  cases isAesKey key with
  | false =>
      simp
  | true =>
      simp

/-- Opening panics exactly on a nonce of another length. -/
theorem gcmOpen_eq_panicked
    (key nonce ct : Bytes) :
    gcm.gcmOpen key nonce ct = .panicked ↔ nonce.length ≠ nonceSize := by
  unfold gcmOpen
  by_cases length : nonce.length = nonceSize
  · simp [length, Outcome.ofOption_ne_panicked]
  · simp [length]

/-- Decrypting panics exactly on a nonce of another length. -/
theorem decryptSecret_eq_panicked (key blob : Bytes) :
    gcm.decryptSecret key blob = .panicked ↔ WrongNonce key blob := by
  unfold WrongNonce decryptSecret
  by_cases hasBar : bar ∈ blob
  · simp only [if_pos hasBar, Outcome.bind_eq_panicked,
      Outcome.ofOption_ne_panicked, Outcome.ofOption_eq_returned, false_or,
      newGCM_ne_panicked, newGCM_eq_returned, gcmOpen_eq_panicked]
    constructor
    · rintro ⟨nonce, first, ct, second, cipher, ⟨valid, _⟩, length⟩
      exact ⟨hasBar, valid, nonce, ct, first, second, length⟩
    · rintro ⟨_, valid, nonce, ct, first, second, length⟩
      exact ⟨nonce, first, ct, second, key, ⟨valid, rfl⟩, length⟩
  · simp [hasBar]

/-- Checking a code panics exactly when decrypting its secret does. -/
theorem verifyLoginTOTP_eq_panicked
    (totpKey stored : Bytes)
    (accepts : Bytes → Bool) :
    gcm.verifyLoginTOTP totpKey stored accepts = .panicked ↔
      WrongNonce totpKey stored := by
  rw [← decryptSecret_eq_panicked gcm]
  unfold verifyLoginTOTP totpSecret
  cases gcm.decryptSecret totpKey stored with
  | returned secret =>
      simp
  | failed error =>
      simp
  | panicked =>
      simp

/-- A check whose secret cannot be decrypted fails. -/
theorem verifyLoginTOTP_of_failed
    {totpKey stored : Bytes}
    {error : Failure}
    (failed : gcm.decryptSecret totpKey stored = .failed error)
    (accepts : Bytes → Bool) :
    gcm.verifyLoginTOTP totpKey stored accepts = .returned false := by
  simp [verifyLoginTOTP, totpSecret, failed]

/--
Under a key of 32 bytes a secret comes back from what it was sealed to.  Under
every key, decrypting a stored string ends in a plaintext or an error, and a
check of a code in an answer, exactly when the string is not well formed up to
a nonce of another length; and the check fails where decrypting does.
-/
theorem sealed_secrets :
    (∀ key nonce plaintext : Bytes,
      key.length = 32 →
      nonce.length = nonceSize →
        ∃ blob,
          gcm.encryptSecret key (some nonce) plaintext = .returned blob ∧
          gcm.decryptSecret key blob = .returned plaintext) ∧
    (∀ key blob : Bytes,
      gcm.decryptSecret key blob ≠ .panicked ↔ ¬ WrongNonce key blob) ∧
    (∀ (totpKey stored : Bytes) (accepts : Bytes → Bool),
      gcm.verifyLoginTOTP totpKey stored accepts ≠ .panicked ↔
        ¬ WrongNonce totpKey stored) ∧
    (∀ (totpKey stored : Bytes) (error : Failure) (accepts : Bytes → Bool),
      gcm.decryptSecret totpKey stored = .failed error →
        gcm.verifyLoginTOTP totpKey stored accepts = .returned false) := by
  refine ⟨?_, ?_, ?_, ?_⟩
  · intro key nonce plaintext length nonceLength
    have valid : isAesKey key = true := by
      simp [isAesKey, length]
    exact gcm.decryptSecret_encryptSecret valid nonceLength plaintext
  · intro key blob
    exact not_congr (gcm.decryptSecret_eq_panicked key blob)
  · intro totpKey stored accepts
    exact not_congr (gcm.verifyLoginTOTP_eq_panicked totpKey stored accepts)
  · intro totpKey stored error accepts failed
    exact gcm.verifyLoginTOTP_of_failed failed accepts

/-- A secret under a key of zeros, and what becomes of an empty string. -/
theorem sealed_secrets_of_zeros :
    (∃ blob,
      plainAesGcm.encryptSecret (List.replicate 32 0)
        (some (List.replicate 12 0)) [0x41] = .returned blob ∧
      plainAesGcm.decryptSecret (List.replicate 32 0) blob =
        .returned [0x41]) ∧
    plainAesGcm.verifyLoginTOTP (List.replicate 32 0) [] (fun _ => true) =
      .returned false :=
  ⟨plainAesGcm.sealed_secrets.1 _ _ _ (by decide) (by decide),
    plainAesGcm.sealed_secrets.2.2.2 _ _
      (.text "auth: malformed sealed secret") _ (by decide)⟩

/-- A bar alone makes decrypting and the check of a code panic. -/
theorem bar_alone_panics :
    plainAesGcm.decryptSecret (List.replicate 32 0) [bar] = .panicked ∧
    plainAesGcm.verifyLoginTOTP (List.replicate 32 0) [bar] (fun _ => true) =
      .panicked := by
  decide

end AesGcm

/-!
## The secrets of the server
-/

/-- `string(pt)`, for bytes that are the UTF-8 of a text. -/
def textOf (bytes : Bytes) : Option String :=
  String.fromUTF8? bytes.toByteArray

/-- A text comes back from its bytes. -/
theorem textOf_bytesOf (text : String) :
    textOf (bytesOf text) = some text := by
  have encoded : (utf8 text).toByteArray = text.toByteArray :=
    String.utf8Encode_toList
  rw [textOf, bytesOf_eq_utf8, encoded, String.fromUTF8?,
    dif_pos text.isValidUTF8]
  rfl

/-- The primitives of a server that seals its secrets with AES-GCM. -/
def Environment.withAesGcm
    (env : Environment)
    (gcm : AesGcm)
    (totpKey : Bytes) : Environment :=
  { env with
    sealSecret := fun nonce secret =>
      encode standard .padded nonce ++ "|" ++
        encode standard .padded (gcm.encrypt totpKey nonce (bytesOf secret))
    decryptSecret := fun stored =>
      (gcm.decryptSecret totpKey (bytesOf stored)).result.bind textOf }

/-- The handlers read the secret that they sealed. -/
theorem decryptSecret_sealSecret
    {totpKey nonce : Bytes}
    (keyLength : totpKey.length = 32)
    (length : nonce.length = nonceSize)
    (env : Environment)
    (gcm : AesGcm)
    (secret : String) :
    (env.withAesGcm gcm totpKey).decryptSecret
        ((env.withAesGcm gcm totpKey).sealSecret nonce secret) =
      some secret := by
  have mark : bytesOf "|" = [bar] := by
    rw [bytesOf_eq_utf8]
    decide
  have valid : isAesKey totpKey = true := by
    simp [isAesKey, keyLength]
  obtain ⟨blob, encrypted, decrypted⟩ :=
    gcm.decryptSecret_encryptSecret valid length (bytesOf secret)
  have stored :
      bytesOf ((env.withAesGcm gcm totpKey).sealSecret nonce secret) = blob := by
    have cipher : newGCM totpKey = .returned totpKey :=
      if_pos valid
    have blocks :
        gcm.gcmSeal totpKey nonce (bytesOf secret) =
          .returned (gcm.encrypt totpKey nonce (bytesOf secret)) :=
      if_neg (not_not_intro length)
    simp only [AesGcm.encryptSecret, cipher, blocks, Outcome.returned_bind,
      Outcome.ofOption_some, Outcome.pure_eq, Outcome.returned.injEq]
      at encrypted
    simp only [Environment.withAesGcm, bytesOf_append, mark, ← encrypted,
      stdEncode, List.append_assoc, List.cons_append, List.nil_append]
  change (gcm.decryptSecret totpKey
    (bytesOf ((env.withAesGcm gcm totpKey).sealSecret nonce secret))
    ).result.bind textOf = some secret
  rw [stored, decrypted]
  exact textOf_bytesOf secret

end Passwd.Server
