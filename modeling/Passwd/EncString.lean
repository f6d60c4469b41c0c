import Passwd.Base64Text
import Passwd.IdentifierNormalization

namespace Passwd.Crypto

open Base64

/-!
# The ciphertext envelope

A ciphertext travels as `<type>.<base64(nonce)>|<base64(data)>`.  The parser
reads the type as JavaScript reads a number, so the prefix has more spellings
than the one that the serializer writes.
-/

/-!
## Base64 as browsers have it
-/

/-- The ASCII white space that `atob` skips. -/
def isAtobSpace (symbol : Char) : Bool :=
  symbol.toNat ∈ [0x09, 0x0a, 0x0c, 0x0d, 0x20]

/-- `toBase64` -/
def toBase64 (b : Bytes) : String :=
  Base64.encode standard .padded b

/-- `fromBase64`; `none` is an exception of `atob`. -/
def fromBase64 (s : String) : Option Bytes :=
  Base64.decodeForgiving standard isAtobSpace s.toList

/-- Reading inverts writing. -/
theorem fromBase64_toBase64 (b : Bytes) :
    fromBase64 (toBase64 b) = some b := by
  rw [fromBase64, toBase64, Base64.encode, String.toList_ofList]
  exact decodeForgiving_encodeChars rfl (by decide) b

/-- The characters that separate the parts of an envelope are not in Base64. -/
theorem not_mem_toBase64
    {separator : Char}
    (isSeparator : separator = '.' ∨ separator = '|')
    (b : Bytes) :
    separator ∉ (toBase64 b).toList := by
  rcases isSeparator with rfl | rfl
  · exact not_mem_encode (by decide) (by decide) .padded b
  · exact not_mem_encode (by decide) (by decide) .padded b

/-- Only the empty sequence is written as the empty text. -/
theorem toBase64_ne_empty
    {b : Bytes}
    (nonempty : b ≠ []) :
    toBase64 b ≠ "" := by
  intro isEmpty
  have read := fromBase64_toBase64 b
  rw [isEmpty] at read
  cases read
  exact nonempty rfl

/-!
## The type of an envelope
-/

/-- `EncType` -/
inductive EncType where
  | aesGcm
  | aesCbcHmac
deriving DecidableEq

/-- The value of a type. -/
def EncType.number : EncType → Nat
  | .aesGcm => 1
  | .aesCbcHmac => 2

/-- The value of a character as a digit, letters counting on from nine. -/
def digitValue (symbol : Char) : Nat :=
  if symbol.isDigit then
    symbol.toNat - 0x30
  else
    symbol.toLower.toNat - 0x61 + 10

/-- What digits of a base spell, unless one of them is no such digit. -/
def digitsValue (base : Nat) (digits : List Char) : Option Nat :=
  if digits ≠ [] ∧
      digits.all fun symbol =>
        symbol.isAlphanum && digitValue symbol < base then
    some (digits.foldl (fun value symbol => value * base + digitValue symbol) 0)
  else
    none

/-- Whether a number with a power of ten rounds to one as a double. -/
def roundsToOne (mantissa : Nat) : Int → Bool
  | .ofNat exponent => mantissa * Nat.pow 10 exponent = 1
  | .negSucc exponent =>
      let unit := Nat.pow 10 (exponent + 1)
      18014398509481983 * unit ≤ 18014398509481984 * mantissa &&
        9007199254740992 * mantissa ≤ 9007199254740993 * unit

/-- The exponent of a decimal literal, after its `e`. -/
def exponentValue : List Char → Option Int
  | '-' :: digits => (digitsValue 10 digits).map fun value => -(value : Int)
  | '+' :: digits => (digitsValue 10 digits).map fun value => (value : Int)
  | digits => (digitsValue 10 digits).map fun value => (value : Int)

/-- Whether a decimal literal without sign and dot is one. -/
def isDecimalOne (literal : List Char) : Bool :=
  let isExponentMark := fun symbol => symbol = 'e' || symbol = 'E'
  let mantissa := literal.takeWhile fun symbol => !isExponentMark symbol
  let exponent :=
    match literal.dropWhile fun symbol => !isExponentMark symbol with
    | [] => some 0
    | _ :: digits => exponentValue digits
  match digitsValue 10 mantissa, exponent with
  | some mantissa, some exponent => roundsToOne mantissa exponent
  | _, _ => false

/-- `Number(s) === 1`, for a text without a dot. -/
def isNumberOne (s : List Char) : Bool :=
  match TextRuns.trim Identifier.isJsSpace s with
  | '0' :: 'x' :: digits => digitsValue 16 digits = some 1
  | '0' :: 'X' :: digits => digitsValue 16 digits = some 1
  | '0' :: 'o' :: digits => digitsValue 8 digits = some 1
  | '0' :: 'O' :: digits => digitsValue 8 digits = some 1
  | '0' :: 'b' :: digits => digitsValue 2 digits = some 1
  | '0' :: 'B' :: digits => digitsValue 2 digits = some 1
  | '+' :: literal => isDecimalOne literal
  | literal => isDecimalOne literal

/-- The prefix that the serializer writes is one of the spellings of one. -/
theorem isNumberOne_one : isNumberOne ['1'] = true := by
  decide

example : isNumberOne " 0x01\n".toList = true := by decide
example : isNumberOne "10e-1".toList = true := by decide
example : isNumberOne "2".toList = false := by decide

/-!
## Envelopes
-/

/-- `EncString` -/
structure EncString where
  type : EncType
  nonce : Bytes
  data : Bytes
deriving DecidableEq

/-- `serializeEncString` -/
def serializeEncString (e : EncString) : String :=
  toString e.type.number ++ "." ++ toBase64 e.nonce ++ "|" ++ toBase64 e.data

/-- `parseEncString`; `none` is an exception. -/
def parseEncString (s : String) : Option EncString :=
  if '.' ∈ s.toList then
    if isNumberOne (s.toList.takeWhile fun symbol => symbol ≠ '.') then
      match ((s.toList.dropWhile fun symbol => symbol ≠ '.').drop 1).splitOn
          '|' with
      | [first, second] =>
          if first = [] ∨ second = [] then
            none
          else
            match fromBase64 (String.ofList first),
                fromBase64 (String.ofList second) with
            | some nonce, some data =>
                some { type := .aesGcm, nonce := nonce, data := data }
            | _, _ => none
      | _ => none
    else
      none
  else
    none

/-- Parsing inverts serializing. -/
theorem parseEncString_serializeEncString
    {nonce data : Bytes}
    (hasNonce : nonce ≠ [])
    (hasData : data ≠ []) :
    parseEncString
        (serializeEncString
          { type := .aesGcm, nonce := nonce, data := data }) =
      some { type := .aesGcm, nonce := nonce, data := data } := by
  have spelled :
      (serializeEncString
          { type := .aesGcm, nonce := nonce, data := data }).toList =
        '1' :: '.' ::
          ((toBase64 nonce).toList ++ '|' :: (toBase64 data).toList) := by
    have one : Nat.toDigits 10 EncType.aesGcm.number = ['1'] := by
      decide
    simp [serializeEncString, one]
  have parts :
      ((toBase64 nonce).toList ++ '|' :: (toBase64 data).toList).splitOn '|' =
        [(toBase64 nonce).toList, (toBase64 data).toList] := by
    have joined :
        (toBase64 nonce).toList ++ '|' :: (toBase64 data).toList =
          ['|'].intercalate
            [(toBase64 nonce).toList, (toBase64 data).toList] := by
      simp
    rw [joined]
    apply List.splitOn_intercalate
    · intro part member
      simp only [List.mem_cons, List.not_mem_nil, or_false] at member
      rcases member with rfl | rfl
      · exact not_mem_toBase64 (Or.inr rfl) nonce
      · exact not_mem_toBase64 (Or.inr rfl) data
    · simp
  have spelledNonce : (toBase64 nonce).toList ≠ [] := by
    simpa using toBase64_ne_empty hasNonce
  have spelledData : (toBase64 data).toList ≠ [] := by
    simpa using toBase64_ne_empty hasData
  simp [parseEncString, spelled, isNumberOne_one, parts, spelledNonce,
    spelledData, fromBase64_toBase64]

end Passwd.Crypto
