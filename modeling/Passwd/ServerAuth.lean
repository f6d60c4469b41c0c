import Passwd.PasskeyRecord
import Passwd.IdentifierNormalization
import Passwd.ServerEffects

namespace Passwd.Server

open Base64 Interaction

/-!
# Authentication policy

The default KDF parameters, identifier blinding, access and refresh tokens, and
time-based codes.  Hashes, ciphers and the WebAuthn library are parameters
without any assumption; a theorem that needs one names it.
-/

/-- `DefaultKDF` -/
def defaultKDF : KDFParams where
  type := "argon2id"
  iterations := 3
  memoryMiB := 64
  parallelism := 4

/-- The lifetime of an access token. -/
def accessTokenTTL : Time := 15 * 60 * second

/-- The lifetime of a refresh token. -/
def refreshTokenTTL : Time := 30 * 24 * 60 * 60 * second

/-- The relying-party engine of the WebAuthn library. -/
structure WebAuthn where
  parseCreation : String → Option String
  parseAssertion : String → Option String
  beginRegistration : String → List Credential → Bytes → Option (String × String)
  createCredential :
    String → List Credential → String → String → Option Credential
  beginLogin : String → List Credential → Bytes → Option (String × String)
  validateLogin :
    String → List Credential → String → String → Option Credential

/-- The configuration of a server and the primitives it uses. -/
structure Environment where
  identifierPepper : String
  jwtSecret : String
  caseMapping : Identifier.CaseMapping
  hmacSha256 : String → String → Bytes
  sha256 : String → Bytes
  hmacSha1 : Bytes → Bytes → Bytes
  base32NoPad : Bytes → String
  base32Key : String → Option Bytes
  phcVerifier : Bytes → String → String
  verifyVerifier : String → String → Option Bool
  sealSecret : Bytes → String → String
  decryptSecret : String → Option String
  webAuthn : Option WebAuthn

/-- `[]byte(text)` -/
def bytesOf (text : String) : Bytes :=
  text.toUTF8.toList

/-- `hex.EncodeToString` -/
def hexEncode (bytes : Bytes) : String :=
  String.ofList (bytes.flatMap fun byte =>
    [Json.hexDigit (byte.toNat / 16), Json.hexDigit (byte.toNat % 16)])

/--
Primitives that spell their inputs out, on which handlers can be evaluated.  A
hash is the hashed text, a verifier is the verified value behind a mark, and the
code of a time step is its counter.
-/
def plainEnvironment : Environment where
  identifierPepper := "pepper"
  jwtSecret := "secret"
  caseMapping := Identifier.asciiCase
  hmacSha256 key message := bytesOf (key ++ "|" ++ message)
  sha256 := bytesOf
  hmacSha1 _ counter := counter.drop 4 ++ List.replicate 16 0
  base32NoPad := hexEncode
  base32Key text := if text = "" then none else some (bytesOf text)
  phcVerifier _ text := "$" ++ text
  verifyVerifier stored text :=
    if stored.startsWith "$" then some (stored = "$" ++ text) else none
  sealSecret _ text := "1|" ++ text
  decryptSecret stored :=
    if stored.startsWith "1|" then
      some (String.ofList (stored.toList.drop 2))
    else
      none
  webAuthn := none

namespace Environment

variable (env : Environment)

/-- `BlindIdentifier` -/
def blindIdentifier (identifier : String) : String :=
  hexEncode
    (env.hmacSha256 env.identifierPepper
      (Identifier.serverNormalizeIdentifier env.caseMapping identifier))

/--
The client's form of an identifier, which it registers, is the server's form,
and blinds to the value that the identifier as typed blinds to.
-/
def FindsAccount (identifier : String) : Prop :=
  Identifier.normalizeIdentifier env.caseMapping identifier =
      Identifier.serverNormalizeIdentifier env.caseMapping identifier ∧
    env.blindIdentifier
        (Identifier.normalizeIdentifier env.caseMapping identifier) =
      env.blindIdentifier identifier

/-- An account is found by the identifiers that normalize portably. -/
theorem findsAccount_iff (identifier : String) :
    env.FindsAccount identifier ↔
      Identifier.Portable env.caseMapping identifier := by
  unfold FindsAccount
  rw [Identifier.normalizeIdentifier_eq_iff]
  refine and_iff_left_of_imp ?_
  intro portable
  have same := (Identifier.normalizeIdentifier_eq_iff _ _).mpr portable
  unfold blindIdentifier
  rw [same, Identifier.serverNormalizeIdentifier_idempotent]

/-- Two words with a no-break space between them. -/
def noBreakSpaceIdentifier : String :=
  String.ofList ['a', 'c', 'e', Char.ofNat 0xA0, 'o', 'w', 'l']

/-- An account that is registered under these two words is never found. -/
theorem noBreakSpace_not_findsAccount :
    ¬ plainEnvironment.FindsAccount noBreakSpaceIdentifier ∧
      plainEnvironment.blindIdentifier
          (Identifier.normalizeIdentifier plainEnvironment.caseMapping
            noBreakSpaceIdentifier) ≠
        plainEnvironment.blindIdentifier noBreakSpaceIdentifier := by
  have different :
      plainEnvironment.blindIdentifier
          (Identifier.normalizeIdentifier plainEnvironment.caseMapping
            noBreakSpaceIdentifier) ≠
        plainEnvironment.blindIdentifier noBreakSpaceIdentifier := by
    decide +kernel
  refine ⟨?_, different⟩
  intro found
  exact different found.2

/-!
## Tokens
-/

/-- `jwtB64.EncodeToString` -/
def jwtB64 (bytes : Bytes) : String :=
  Base64.encode urlSafe .raw bytes

/-- `signJWT` -/
def signJWT (msg : String) : String :=
  jwtB64 (env.hmacSha256 env.jwtSecret msg)

/-- `IssueAccessToken` at a time, with the lifetime the server uses. -/
def issueAccessToken (userID : String) (now : Time) : String :=
  let header := jwtB64 (bytesOf "\x7b\"alg\":\"HS256\",\"typ\":\"JWT\"\x7d")
  let claims :=
    String.ofList (Json.write goEscapes (.object
      [("sub", .string userID), ("iat", .number (toString (unix now))),
        ("exp", .number (toString (unix (now + accessTokenTTL))))]))
  let signing := header ++ "." ++ jwtB64 (bytesOf claims)
  signing ++ "." ++ env.signJWT signing

/-- `HashRefreshToken` -/
def hashRefreshToken (token : String) : String :=
  hexEncode (env.sha256 token)

/-!
## Time-based codes
-/

/-- The number of bytes of a code. -/
def totpDigits : Nat := 6

/-- The length of a time step. -/
def totpPeriod : Time := 30 * second

/-- `uint64(t.Unix()) / uint64(totpPeriod.Seconds())` -/
def totpCounter (t : Time) : Nat :=
  (unix t % 18446744073709551616).toNat / 30

/-- The eight bytes of a counter, the most significant one first. -/
def counterBytes (counter : Nat) : Bytes :=
  (List.range 8).map fun index =>
    UInt8.ofNat (counter >>> (8 * (7 - index)))

/-- The value that a code spells, out of an HMAC. -/
def truncated (sum : Bytes) : Nat :=
  let offset := (sum.getLastD 0).toNat % 16
  let byte := fun index => (sum.getD (offset + index) 0).toNat
  ((byte 0 &&& 0x7f) <<< 24 ||| byte 1 <<< 16 ||| byte 2 <<< 8 ||| byte 3) %
    1000000

/-- `fmt.Sprintf("%06d", value)` -/
def sixDigits (value : Nat) : String :=
  let digits := Nat.toDigits 10 value
  String.ofList (List.replicate (6 - digits.length) '0' ++ digits)

/-- `totpAt`; `none` is an error. -/
def totpAt (secret : String) (t : Time) : Option String :=
  (env.base32Key secret).map fun key =>
    sixDigits (truncated (env.hmacSha1 key (counterBytes (totpCounter t))))

/-- The first of several times whose code is `code`. -/
def matchingStep (secret code : String) : List Time → Option Nat
  | [] => none
  | t :: rest =>
      match env.totpAt secret t with
      | none => none
      | some want =>
          if want = code then
            some (totpCounter t)
          else
            matchingStep secret code rest

/-- `strings.TrimSpace` -/
def trimSpace (text : String) : String :=
  String.ofList (TextRuns.trim Identifier.isGoSpace text.toList)

/-- `VerifyTOTPAt`: the counter of the time step that a code belongs to. -/
def verifyTOTPAt (secret code : String) (now : Time) : Option Nat :=
  let code := trimSpace code
  if code.utf8ByteSize = totpDigits then
    env.matchingStep secret code [now, now - totpPeriod, now + totpPeriod]
  else
    none

/-- `VerifyTOTP` -/
def verifyTOTP (secret code : String) (now : Time) : Bool :=
  (env.verifyTOTPAt secret code now).isSome

end Environment

/-!
## What needs the clock or the random source
-/

/-- `newID`, which ignores an error of the random source. -/
def newID : Handler String := do
  let bytes ← perform (.random 16)
  return hexEncode (bytes.getD (List.replicate 16 0))

/-- `HashVerifier`; `none` is an error. -/
def hashVerifier (env : Environment) (masterPasswordHash : String) :
    Handler (Option String) := do
  let salt ← perform (.random 16)
  return salt.map fun salt => env.phcVerifier salt masterPasswordHash

/-- `GenerateTOTPSecret`; `none` is an error. -/
def generateTOTPSecret (env : Environment) : Handler (Option String) := do
  let bytes ← perform (.random 20)
  return bytes.map env.base32NoPad

/-- `EncryptSecret` under the server's key; `none` is an error. -/
def encryptSecret (env : Environment) (plaintext : String) :
    Handler (Option String) := do
  let nonce ← perform (.random 12)
  return nonce.map fun nonce => env.sealSecret nonce plaintext

/-- `GenerateRefreshToken`: the token and its hash; `none` is an error. -/
def generateRefreshToken (env : Environment) :
    Handler (Option (String × String)) := do
  let bytes ← perform (.random 32)
  return bytes.map fun bytes =>
    (Environment.jwtB64 bytes,
      env.hashRefreshToken (Environment.jwtB64 bytes))

end Passwd.Server
