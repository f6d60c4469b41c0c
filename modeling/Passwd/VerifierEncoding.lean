import Passwd.DecimalText
import Passwd.GoOutcome
import Passwd.ServerAuth

namespace Passwd.Server

open Base64

/-!
# The encoding of a verifier

A verifier is stored as one string that holds the costs of Argon2id, the salt and
the hash.  Reading the string gives all of them back, so that a verifier accepts
exactly the values with the same hash.
-/

/-- `verifierParams` -/
structure VerifierParams where
  timeCost : UInt32
  memKiB : UInt32
  threads : UInt8
deriving Repr, DecidableEq

/-- `defaultVerifier` -/
def defaultVerifier : VerifierParams where
  timeCost := 2
  memKiB := 19 * 1024
  threads := 1

/-- `argon2.Version` -/
def argon2Version : Nat := 0x13

/-- Argon2id: a key of the length that is asked for. -/
structure Argon2id where
  key : Bytes → Bytes → UInt32 → UInt32 → UInt8 → UInt32 → Bytes
  length_key :
    ∀ password salt time memory threads keyLen,
      (key password salt time memory threads keyLen).length = keyLen.toNat

/-- `argon2.IDKey`, which panics if there is nothing to do. -/
def Argon2id.idKey
    (argon2 : Argon2id)
    (password salt : Bytes)
    (time memory : UInt32)
    (threads : UInt8)
    (keyLen : UInt32) : Outcome Bytes :=
  if time < 1 ∨ threads < 1 then
    .panicked
  else
    .returned (argon2.key password salt time memory threads keyLen)

/-- A key that spells its password out, as far as its length allows. -/
def plainArgon2id : Argon2id where
  key password _ _ _ _ keyLen :=
    password.take keyLen.toNat ++
      List.replicate (keyLen.toNat - password.length) 0
  length_key := by
    intro password _ _ _ _ keyLen
    rw [List.length_append, List.length_take, List.length_replicate]
    omega

/-- `phcB64.EncodeToString` -/
def phcB64 (b : Bytes) : String :=
  Base64.encode standard .raw b

/-- A line end, which the decoders of `encoding/base64` skip. -/
def isLineEnd (symbol : Char) : Bool :=
  symbol = '\r' || symbol = '\n'

/-- `phcB64.DecodeString` -/
def phcB64Decode (text : List Char) : Outcome Bytes :=
  .ofOption (decodeRaw standard isLineEnd text)

/-- The string that `HashVerifier` formats. -/
def formatPHC (p : VerifierParams) (salt h : Bytes) : String :=
  "$argon2id$v=" ++ toString argon2Version ++
    "$m=" ++ toString p.memKiB.toNat ++ ",t=" ++ toString p.timeCost.toNat ++
    ",p=" ++ toString p.threads.toNat ++
    "$" ++ phcB64 salt ++ "$" ++ phcB64 h

/-- `HashVerifier` with what the random source returned. -/
def Argon2id.hashVerifier
    (argon2 : Argon2id)
    (salt : Option Bytes)
    (masterPasswordHash : String) : Outcome String := do
  let salt ← .ofOption salt
  let p := defaultVerifier
  let h ← argon2.idKey (bytesOf masterPasswordHash) salt p.timeCost p.memKiB
    p.threads 32
  return formatPHC p salt h

/-- `fmt.Sscanf` with a format of integers and fixed characters. -/
def sscanf (text : List Char) (format : String) : Outcome (List Int) :=
  .ofOption
    (Decimal.scan Identifier.isGoSpace (Decimal.directives format.toList) text)

/-- `errors.New("auth: malformed verifier")` -/
def malformedVerifier : Failure :=
  .text "auth: malformed verifier"

/-- `decodePHC` -/
def decodePHC (s : String) : Outcome (VerifierParams × Bytes × Bytes) :=
  match s.toList.splitOn '$' with
  | [_, name, version, costs, salt, hash] => do
      if name ≠ "argon2id".toList then
        .failed malformedVerifier
      else
        let _ ← sscanf version "v=%d"
        let costs ← sscanf costs "m=%d,t=%d,p=%d"
        let mem := costs.getD 0 0
        let t := costs.getD 1 0
        let p := costs.getD 2 0
        let salt ← phcB64Decode salt
        let hash ← phcB64Decode hash
        return (
          { timeCost := .ofInt t, memKiB := .ofInt mem, threads := .ofInt p },
          salt, hash)
  | _ => .failed malformedVerifier

/-- `VerifyVerifier` -/
def Argon2id.verifyVerifier
    (argon2 : Argon2id)
    (encoded masterPasswordHash : String) : Outcome Bool := do
  let (p, salt, hash) ← decodePHC encoded
  let computed ← argon2.idKey (bytesOf masterPasswordHash) salt p.timeCost
    p.memKiB p.threads (.ofNat hash.length)
  return computed = hash

/-!
## Cutting a stored string
-/

/-- The part of a stored string that holds the costs. -/
def costsPart (p : VerifierParams) : List Char :=
  'm' :: '=' :: (Nat.toDigits 10 p.memKiB.toNat ++
    ',' :: 't' :: '=' :: (Nat.toDigits 10 p.timeCost.toNat ++
      ',' :: 'p' :: '=' :: (Nat.toDigits 10 p.threads.toNat ++ [])))

/-- The part of a stored string that holds the version. -/
def versionPart : List Char :=
  'v' :: '=' :: (Nat.toDigits 10 argon2Version ++ [])

/-- The symbols of the encoding are not the separator of the parts. -/
theorem dollar_not_mem_phcB64 (b : Bytes) :
    '$' ∉ (phcB64 b).toList :=
  not_mem_encode (by decide) (by decide) .raw b

/-- Digits are not the separator of the parts. -/
theorem dollar_not_mem_toDigits (value : Nat) :
    '$' ∉ Nat.toDigits 10 value := by
  intro member
  have digit := Decimal.isDigit_of_mem_toDigits member
  exact absurd digit (by decide)

/-- No cost is written with the separator of the parts. -/
theorem dollar_not_mem_costsPart (p : VerifierParams) :
    '$' ∉ costsPart p := by
  simp [costsPart, dollar_not_mem_toDigits]

/-- The characters of a stored string, part by part. -/
theorem toList_formatPHC (p : VerifierParams) (salt h : Bytes) :
    (formatPHC p salt h).toList =
      ['$'].intercalate
        [[], "argon2id".toList, versionPart, costsPart p,
          (phcB64 salt).toList, (phcB64 h).toList] := by
  have digits (value : Nat) :
      Nat.toDigits 10 value = (toString value).toList := by
    rw [Nat.toString_eq_repr, Nat.toList_repr]
  unfold formatPHC versionPart costsPart
  rw [digits argon2Version, digits p.memKiB.toNat, digits p.timeCost.toNat,
    digits p.threads.toNat]
  generalize toString argon2Version = version
  generalize toString p.memKiB.toNat = memory
  generalize toString p.timeCost.toNat = time
  generalize toString p.threads.toNat = threads
  simp

/-- Cutting a stored string gives the six parts. -/
theorem splitOn_formatPHC (p : VerifierParams) (salt h : Bytes) :
    (formatPHC p salt h).toList.splitOn '$' =
      [[], "argon2id".toList, versionPart, costsPart p,
        (phcB64 salt).toList, (phcB64 h).toList] := by
  rw [toList_formatPHC]
  apply List.splitOn_intercalate
  · intro part member
    simp only [List.mem_cons, List.not_mem_nil, or_false] at member
    rcases member with rfl | rfl | rfl | rfl | rfl | rfl
    · exact List.not_mem_nil
    · decide
    · simp [versionPart, dollar_not_mem_toDigits]
    · exact dollar_not_mem_costsPart p
    · exact dollar_not_mem_phcB64 salt
    · exact dollar_not_mem_phcB64 h
  · exact List.cons_ne_nil _ _

/-!
## Reading the parts
-/

/-- No digit is white space. -/
theorem isGoSpace_of_isDigit
    (symbol : Char)
    (digit : symbol.isDigit = true) :
    Identifier.isGoSpace symbol = false := by
  have bounds : 48 ≤ symbol.toNat ∧ symbol.toNat ≤ 57 := by
    simpa [Char.isDigit, UInt32.le_iff_toNat_le] using digit
  simp only [Identifier.isGoSpace, List.mem_cons, List.not_mem_nil, or_false,
    Bool.or_eq_false_iff, decide_eq_false_iff_not, Bool.and_eq_false_iff]
  omega

/-- The version is read back. -/
theorem sscanf_versionPart :
    sscanf versionPart "v=%d" = .returned [(argon2Version : Int)] := by
  have format :
      Decimal.directives "v=%d".toList =
        [.literal 'v', .literal '=', .integer] := by
    rfl
  rw [sscanf, versionPart, format, Decimal.scan_literal, Decimal.scan_literal,
    Decimal.scan_integer isGoSpace_of_isDigit (by decide) (by simp)]
  rfl

/-- The costs are read back, memory first. -/
theorem sscanf_costsPart (p : VerifierParams) :
    sscanf (costsPart p) "m=%d,t=%d,p=%d" =
      .returned
        [(p.memKiB.toNat : Int), p.timeCost.toNat, p.threads.toNat] := by
  have format :
      Decimal.directives "m=%d,t=%d,p=%d".toList =
        [.literal 'm', .literal '=', .integer, .literal ',', .literal 't',
          .literal '=', .integer, .literal ',', .literal 'p', .literal '=',
          .integer] := by
    rfl
  have fits {value : Nat} (bounded : value < 4294967296) :
      Decimal.Fits 64 value := by
    unfold Decimal.Fits
    omega
  have comma :
      ∀ (rest : List Char) (symbol : Char),
        (',' :: rest).head? = some symbol → symbol.isDigit = false := by
    intro rest symbol first
    cases first
    rfl
  have memory := fits p.memKiB.toNat_lt
  have time := fits p.timeCost.toNat_lt
  have threads := fits (Nat.lt_trans p.threads.toNat_lt (by omega))
  rw [sscanf, costsPart, format, Decimal.scan_literal, Decimal.scan_literal,
    Decimal.scan_integer isGoSpace_of_isDigit memory (comma _),
    Decimal.scan_literal, Decimal.scan_literal, Decimal.scan_literal,
    Decimal.scan_integer isGoSpace_of_isDigit time (comma _),
    Decimal.scan_literal, Decimal.scan_literal, Decimal.scan_literal,
    Decimal.scan_integer isGoSpace_of_isDigit threads (by simp)]
  rfl

/-- A salt or a hash is read back. -/
theorem phcB64Decode_phcB64 (b : Bytes) :
    phcB64Decode (phcB64 b).toList = .returned b := by
  have keepsSymbols :
      ∀ sextet, sextet < 64 → isLineEnd (standard.symbol sextet) = false := by
    decide
  rw [phcB64Decode, phcB64, encode, String.toList_ofList,
    decodeRaw_encodeChars (by decide) keepsSymbols, Outcome.ofOption_some]

/-- Reading a stored string gives the costs, the salt and the hash back. -/
theorem decodePHC_formatPHC (p : VerifierParams) (salt h : Bytes) :
    decodePHC (formatPHC p salt h) = .returned (p, salt, h) := by
  have word (value : UInt32) : UInt32.ofInt (value.toNat : Int) = value := by
    have bounded := value.toNat_lt
    apply UInt32.toNat_inj.mp
    simp only [UInt32.ofInt, UInt32.toNat_ofNat']
    omega
  have octet (value : UInt8) : UInt8.ofInt (value.toNat : Int) = value := by
    have bounded := value.toNat_lt
    apply UInt8.toNat_inj.mp
    simp only [UInt8.ofInt, UInt8.toNat_ofNat']
    omega
  unfold decodePHC
  rw [splitOn_formatPHC]
  simp only [ne_eq, not_true, if_false, sscanf_versionPart, sscanf_costsPart,
    phcB64Decode_phcB64, Outcome.returned_bind, Outcome.pure_eq]
  simp [word, octet]

example : decodePHC "$argon2id$v=19$m=64,t=1$AA$AA" = .failed .library := by
  decide

example : decodePHC "$argon2i$v=19$m=64,t=1,p=1$AA$AA" =
    .failed malformedVerifier := by
  decide

/-!
## Verifying
-/

namespace Argon2id

variable (argon2 : Argon2id)

/-- The hash behind a verifier. -/
def defaultKey (salt : Bytes) (masterPasswordHash : String) : Bytes :=
  argon2.key (bytesOf masterPasswordHash) salt defaultVerifier.timeCost
    defaultVerifier.memKiB defaultVerifier.threads 32

/-- A verifier is the encoding of the hash under the default costs. -/
theorem hashVerifier_some (salt : Bytes) (masterPasswordHash : String) :
    argon2.hashVerifier (some salt) masterPasswordHash =
      .returned
        (formatPHC defaultVerifier salt
          (argon2.defaultKey salt masterPasswordHash)) := by
  simp [hashVerifier, idKey, defaultKey, defaultVerifier]

/-- Verifying a value compares its hash with the stored one. -/
theorem verifyVerifier_formatPHC
    (salt : Bytes)
    (masterPasswordHash other : String) :
    argon2.verifyVerifier
        (formatPHC defaultVerifier salt
          (argon2.defaultKey salt masterPasswordHash))
        other =
      .returned
        (argon2.defaultKey salt other =
          argon2.defaultKey salt masterPasswordHash) := by
  have keyLen :
      (argon2.defaultKey salt masterPasswordHash).length = 32 :=
    argon2.length_key _ _ _ _ _ _
  have computed :
      argon2.idKey (bytesOf other) salt defaultVerifier.timeCost
          defaultVerifier.memKiB defaultVerifier.threads 32 =
        .returned (argon2.defaultKey salt other) :=
    if_neg (by decide)
  have given :
      UInt32.ofNat (argon2.defaultKey salt masterPasswordHash).length = 32 := by
    rw [keyLen]
    rfl
  rw [verifyVerifier, decodePHC_formatPHC, Outcome.returned_bind]
  simp only [given, computed, Outcome.returned_bind, Outcome.pure_eq]

/--
Reading the encoding of a verifier gives its costs, salt and hash back.  So the
verifier that is made of a value under any salt accepts exactly the values with
the same hash.
-/
theorem verifier_encoding :
    (∀ (p : VerifierParams) (salt h : Bytes),
      decodePHC (formatPHC p salt h) = .returned (p, salt, h)) ∧
    ∀ (salt : Bytes) (masterPasswordHash : String),
      ∃ stored,
        argon2.hashVerifier (some salt) masterPasswordHash =
          .returned stored ∧
        ∀ other,
          ∃ accepted,
            argon2.verifyVerifier stored other = .returned accepted ∧
            (accepted = true ↔
              argon2.defaultKey salt other =
                argon2.defaultKey salt masterPasswordHash) := by
  refine ⟨decodePHC_formatPHC, ?_⟩
  intro salt masterPasswordHash
  refine ⟨_, argon2.hashVerifier_some salt masterPasswordHash, ?_⟩
  intro other
  refine ⟨_, argon2.verifyVerifier_formatPHC salt masterPasswordHash other, ?_⟩
  exact decide_eq_true_iff

end Argon2id

/-- The primitives of a server whose verifiers are Argon2id hashes. -/
def Environment.withArgon2id (env : Environment) (argon2 : Argon2id) :
    Environment :=
  { env with
    phcVerifier := fun salt masterPasswordHash =>
      formatPHC defaultVerifier salt (argon2.defaultKey salt masterPasswordHash)
    verifyVerifier := fun encoded masterPasswordHash =>
      (argon2.verifyVerifier encoded masterPasswordHash).result }

/-- Such a server accepts the values with the hash that a verifier holds. -/
theorem verifyVerifier_withArgon2id
    (env : Environment)
    (argon2 : Argon2id)
    (salt : Bytes)
    (masterPasswordHash other : String) :
    (env.withArgon2id argon2).verifyVerifier
        ((env.withArgon2id argon2).phcVerifier salt masterPasswordHash) other =
      some
        (decide
          (argon2.defaultKey salt other =
            argon2.defaultKey salt masterPasswordHash)) := by
  have verified :=
    argon2.verifyVerifier_formatPHC salt masterPasswordHash other
  simp only [Environment.withArgon2id, verified, Outcome.result]

end Passwd.Server
