import Mathlib.Data.Nat.Bitwise
import Passwd.EncString

namespace Passwd.Crypto

open Base64

/-!
# The envelope in the clients and in the server

The clients build Base64 from `btoa` and `atob`, which work on strings with one
character for each octet.  The server has the encoder of the Go library, which
packs three octets into a word and looks the sextets of the word up in a text.
Both write an envelope alike, and reading one inverts writing it.
-/

/-!
## Binary strings
-/

/-- The string that `toBase64` builds, one character for each octet. -/
def binaryString (b : Bytes) : String :=
  b.foldl (fun s byte => s.push (Char.ofNat byte.toNat)) ""

/-- The octets that `fromBase64` reads off a string. -/
def charCodes (bin : String) : Bytes :=
  bin.toList.map fun symbol => UInt8.ofNat symbol.toNat

/-- `btoa`; `none` is the exception for a character beyond one octet. -/
def btoa (data : String) : Option String :=
  if data.toList.all fun symbol => symbol.toNat ≤ 0xff then
    some (Base64.encode standard .padded (charCodes data))
  else
    none

/-- `atob`; `none` is the exception for a text that is not Base64. -/
def atob (data : String) : Option String :=
  (Base64.decodeForgiving standard isAtobSpace data.toList).map binaryString

/-- A loop that appends a character for each octet. -/
private theorem toList_foldl_push (b : Bytes) (s : String) :
    (b.foldl (fun s byte => s.push (Char.ofNat byte.toNat)) s).toList =
      s.toList ++ b.map fun byte => Char.ofNat byte.toNat := by
  induction b generalizing s with
  | nil => simp
  | cons byte rest inductionHypothesis =>
      simp [inductionHypothesis]

/-- The characters of a binary string are the octets. -/
theorem toList_binaryString (b : Bytes) :
    (binaryString b).toList = b.map fun byte => Char.ofNat byte.toNat := by
  rw [binaryString, toList_foldl_push]
  simp

/-- The code of an octet's character. -/
theorem toNat_ofNat_octet (byte : UInt8) :
    (Char.ofNat byte.toNat).toNat = byte.toNat := by
  have small := byte.toNat_lt
  have isValid : byte.toNat.isValidChar :=
    Or.inl (by omega)
  rw [Char.ofNat, dif_pos isValid]
  rfl

/-- A binary string keeps every octet. -/
theorem charCodes_binaryString (b : Bytes) :
    charCodes (binaryString b) = b := by
  have kept :
      (fun symbol : Char => UInt8.ofNat symbol.toNat) ∘
          (fun byte : UInt8 => Char.ofNat byte.toNat) =
        id := by
    funext byte
    simp only [Function.comp_apply, toNat_ofNat_octet, UInt8.ofNat_toNat, id]
  rw [charCodes, toList_binaryString, List.map_map, kept, List.map_id]

/-- `toBase64` never meets the exception of `btoa`. -/
theorem btoa_binaryString (b : Bytes) :
    btoa (binaryString b) = some (toBase64 b) := by
  have small :
      (binaryString b).toList.all (fun symbol => symbol.toNat ≤ 0xff) =
        true := by
    simp only [toList_binaryString, List.all_map, List.all_eq_true]
    intro byte _
    have bound := byte.toNat_lt
    simp [toNat_ofNat_octet]
    omega
  rw [btoa, if_pos small, charCodes_binaryString, toBase64]

/-- `fromBase64` fails where `atob` does. -/
theorem map_charCodes_atob (s : String) :
    (atob s).map charCodes = fromBase64 s := by
  rw [atob, Option.map_map, fromBase64]
  have same : charCodes ∘ binaryString = id :=
    funext charCodes_binaryString
  rw [same, Option.map_id_fun, id]

/-!
## Base64 as Go has it
-/

namespace Backend

/-- `encodeStd` -/
def encodeStd : List Char :=
  "ABCDEFGHIJKLMNOPQRSTUVWXYZabcdefghijklmnopqrstuvwxyz0123456789+/".toList

/-- `enc.encode[val>>shift&0x3F]` -/
def lookup (val shift : Nat) : Char :=
  encodeStd.getD (val >>> shift &&& 0x3f) '='

/-- `StdEncoding.EncodeToString`, three octets a turn and then what is left. -/
def encodeQuanta : Bytes → List Char
  | [] => []
  | [first] =>
      let val := first.toNat <<< 16
      [lookup val 18, lookup val 12, '=', '=']
  | [first, second] =>
      let val := first.toNat <<< 16 ||| second.toNat <<< 8
      [lookup val 18, lookup val 12, lookup val 6, '=']
  | first :: second :: third :: rest =>
      let val :=
        first.toNat <<< 16 ||| second.toNat <<< 8 ||| third.toNat
      lookup val 18 :: lookup val 12 :: lookup val 6 :: lookup val 0 ::
        encodeQuanta rest

/-- `base64.StdEncoding.EncodeToString` -/
def encodeToString (src : Bytes) : String :=
  String.ofList (encodeQuanta src)

/-- `SerializeEncString` -/
def serializeEncString (encType : Int) (nonce data : Bytes) : String :=
  toString encType ++ "." ++ encodeToString nonce ++ "|" ++
    encodeToString data

/-- The text and the arithmetic of the alphabet spell the sextets alike. -/
theorem getD_encodeStd :
    ∀ sextet, sextet < 64 →
      encodeStd.getD sextet '=' = standard.symbol sextet := by
  decide

/-- The value of a word of three octets. -/
def word (first second third : UInt8) : Nat :=
  first.toNat * 65536 + second.toNat * 256 + third.toNat

/-- Shifting octets into place adds them up. -/
theorem shifted_eq_word (first second third : UInt8) :
    first.toNat <<< 16 ||| second.toNat <<< 8 ||| third.toNat =
      word first second third := by
  have low := third.toNat_lt
  have middle := second.toNat_lt
  have upper :
      first.toNat <<< 16 ||| second.toNat <<< 8 =
        (first.toNat * 256 + second.toNat) <<< 8 := by
    have split : first.toNat <<< 16 = (first.toNat <<< 8) <<< 8 := by
      rw [← Nat.shiftLeft_add]
    rw [split, ← Nat.shiftLeft_or_distrib,
      ← Nat.shiftLeft_add_eq_or_of_lt middle, Nat.shiftLeft_eq first.toNat]
  rw [upper, ← Nat.shiftLeft_add_eq_or_of_lt low, Nat.shiftLeft_eq, word]
  omega

/-- Two octets are a word whose last octet is zero. -/
theorem shifted_eq_word_two (first second : UInt8) :
    first.toNat <<< 16 ||| second.toNat <<< 8 = word first second 0 := by
  simpa using shifted_eq_word first second 0

/-- One octet is a word whose other octets are zero. -/
theorem shifted_eq_word_one (first : UInt8) :
    first.toNat <<< 16 = word first 0 0 := by
  simpa using shifted_eq_word first 0 0

/-- Looking a sextet of a word up is spelling it. -/
theorem lookup_eq
    {val shift sextet : Nat}
    (spelled : val / 2 ^ shift % 64 = sextet) :
    lookup val shift = standard.symbol sextet := by
  have mask : val >>> shift &&& 0x3f = val / 2 ^ shift % 64 := by
    rw [Nat.shiftRight_eq_div_pow]
    exact Nat.and_two_pow_sub_one_eq_mod _ 6
  rw [lookup, mask, spelled]
  exact getD_encodeStd _ (spelled ▸ Nat.mod_lt _ (by decide))

section Word

variable (first second third : UInt8)

/-- The first sextet of a word. -/
theorem lookup_word_18 :
    lookup (word first second third) 18 =
      standard.symbol (first.toNat / 4) := by
  have small := first.toNat_lt
  have smallSecond := second.toNat_lt
  have smallThird := third.toNat_lt
  apply lookup_eq
  rw [word]
  omega

/-- The second sextet of a word. -/
theorem lookup_word_12 :
    lookup (word first second third) 12 =
      standard.symbol (first.toNat % 4 * 16 + second.toNat / 16) := by
  have smallSecond := second.toNat_lt
  have smallThird := third.toNat_lt
  apply lookup_eq
  rw [word]
  omega

/-- The third sextet of a word. -/
theorem lookup_word_6 :
    lookup (word first second third) 6 =
      standard.symbol (second.toNat % 16 * 4 + third.toNat / 64) := by
  have smallThird := third.toNat_lt
  apply lookup_eq
  rw [word]
  omega

/-- The last sextet of a word. -/
theorem lookup_word_0 :
    lookup (word first second third) 0 =
      standard.symbol (third.toNat % 64) := by
  apply lookup_eq
  rw [word]
  omega

end Word

/-- Go's encoder writes what the clients write. -/
theorem encodeQuanta_eq (src : Bytes) :
    encodeQuanta src = encodeChars standard .padded src := by
  induction src using encodeQuanta.induct with
  | case1 => rfl
  | case2 first =>
      simp [encodeQuanta, encodeChars, toSextets, shifted_eq_word_one,
        lookup_word_18, lookup_word_12, List.replicate]
  | case3 first second =>
      simp [encodeQuanta, encodeChars, toSextets, shifted_eq_word_two,
        lookup_word_18, lookup_word_12, lookup_word_6]
  | case4 first second third rest inductionHypothesis =>
      simp [encodeQuanta, encodeChars, toSextets, shifted_eq_word,
        lookup_word_18, lookup_word_12, lookup_word_6, lookup_word_0,
        inductionHypothesis]
      omega

/-- The encoders of the server and of the clients agree. -/
theorem encodeToString_eq (src : Bytes) :
    encodeToString src = toBase64 src := by
  rw [encodeToString, encodeQuanta_eq, toBase64, Base64.encode]

/-- The server writes an envelope of a type as the clients do. -/
theorem serializeEncString_eq (e : EncString) :
    serializeEncString e.type.number e.nonce e.data =
      Crypto.serializeEncString e := by
  rw [serializeEncString, Crypto.serializeEncString, encodeToString_eq,
    encodeToString_eq]
  rfl

end Backend

/-!
## Parsing what was serialized
-/

/-- The parser accepts one type. -/
theorem type_of_parseEncString
    {s : String}
    {e : EncString}
    (parsed : parseEncString s = some e) :
    e.type = .aesGcm := by
  unfold parseEncString at parsed
  split at parsed
  · split at parsed
    · split at parsed
      · split at parsed
        · cases parsed
        · split at parsed
          · cases parsed
            rfl
          · cases parsed
      · cases parsed
    · cases parsed
  · cases parsed

/-- An accepted envelope with both parts survives being written again. -/
theorem parseEncString_serialize_parsed
    {s : String}
    {e : EncString}
    (parsed : parseEncString s = some e)
    (hasNonce : e.nonce ≠ [])
    (hasData : e.data ≠ []) :
    parseEncString (serializeEncString e) = some e := by
  obtain ⟨type, nonce, data⟩ := e
  obtain rfl : type = .aesGcm := type_of_parseEncString parsed
  exact parseEncString_serializeEncString hasNonce hasData

/--
Reading an envelope inverts writing it, the server writes the same text, and
what the parser accepts with both parts can be written and read again.
-/
theorem encString_codec :
    (∀ b, btoa (binaryString b) = some (toBase64 b)) ∧
      (∀ s, fromBase64 s = (atob s).map charCodes) ∧
      (∀ nonce data, nonce ≠ [] → data ≠ [] →
        parseEncString
            (serializeEncString
              { type := .aesGcm, nonce := nonce, data := data }) =
          some { type := .aesGcm, nonce := nonce, data := data }) ∧
      (∀ nonce data,
        Backend.serializeEncString 1 nonce data =
          serializeEncString
            { type := .aesGcm, nonce := nonce, data := data }) ∧
      ∀ s e, parseEncString s = some e → e.nonce ≠ [] → e.data ≠ [] →
        e.type = .aesGcm ∧
          parseEncString (serializeEncString e) = some e := by
  refine ⟨btoa_binaryString, ?_, ?_, ?_, ?_⟩
  · intro s
    exact (map_charCodes_atob s).symm
  · intro nonce data hasNonce hasData
    exact parseEncString_serializeEncString hasNonce hasData
  · intro nonce data
    exact Backend.serializeEncString_eq
      { type := .aesGcm, nonce := nonce, data := data }
  · intro s e parsed hasNonce hasData
    exact ⟨type_of_parseEncString parsed,
      parseEncString_serialize_parsed parsed hasNonce hasData⟩

/-- An envelope that was written, and one that was spelled otherwise. -/
theorem spelledOtherwise_codec :
    parseEncString
        (serializeEncString
          { type := .aesGcm, nonce := [0, 1, 2, 3], data := [255, 0] }) =
      some { type := .aesGcm, nonce := [0, 1, 2, 3], data := [255, 0] } ∧
      parseEncString " 01.A A|/x==" =
        some { type := .aesGcm, nonce := [0], data := [255] } ∧
      parseEncString
          (serializeEncString
            { type := .aesGcm, nonce := [0], data := [255] }) =
        some { type := .aesGcm, nonce := [0], data := [255] } := by
  have accepted :
      parseEncString " 01.A A|/x==" =
        some { type := .aesGcm, nonce := [0], data := [255] } := by
    decide +kernel
  exact ⟨encString_codec.2.2.1 [0, 1, 2, 3] [255, 0] (by decide) (by decide),
    accepted,
    (encString_codec.2.2.2.2 _ _ accepted (by decide) (by decide)).2⟩

/-- A part of white space is read as empty and cannot be read again. -/
example :
    parseEncString "1. |/w==" =
        some { type := .aesGcm, nonce := [], data := [255] } ∧
      parseEncString
          (serializeEncString
            { type := .aesGcm, nonce := [], data := [255] }) =
        none := by
  decide +kernel

end Passwd.Crypto
