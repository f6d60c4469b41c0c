import Passwd.Base64Text

namespace Passwd.Utf8

open Base64

/-!
# UTF-8 as browsers encode and decode it

`TextEncoder` and `TextDecoder` over text without lone surrogates.  The decoder
never fails: what is not UTF-8 is replaced, one mark for each piece that cannot
be continued, and a byte order mark at the beginning is dropped.
-/

/-- `new TextEncoder().encode(s)` -/
def utf8 (s : String) : Bytes :=
  s.toList.flatMap String.utf8EncodeChar

/-- The mark in the place of what cannot be decoded. -/
def replacement : Char := Char.ofNat 0xfffd

/-- The byte order mark. -/
def byteOrderMark : Char := Char.ofNat 0xfeff

/--
A decoder in the middle of a character: how many bytes are missing, what the
earlier ones spell, and between which bounds the next one lies.
-/
structure Decoder where
  needed : Nat
  point : Nat
  lower : Nat
  upper : Nat
deriving DecidableEq

/-- A decoder between two characters. -/
def Decoder.idle : Decoder where
  needed := 0
  point := 0
  lower := 0x80
  upper := 0xbf

/-- Read the first byte of a character. -/
def begin (byte : Nat) : List Char × Decoder :=
  if byte ≤ 0x7f then
    ([Char.ofNat byte], .idle)
  else if 0xc2 ≤ byte ∧ byte ≤ 0xdf then
    ([], { Decoder.idle with needed := 1, point := byte % 32 })
  else if 0xe0 ≤ byte ∧ byte ≤ 0xef then
    ([], {
      needed := 2
      point := byte % 16
      lower := if byte = 0xe0 then 0xa0 else 0x80
      upper := if byte = 0xed then 0x9f else 0xbf })
  else if 0xf0 ≤ byte ∧ byte ≤ 0xf4 then
    ([], {
      needed := 3
      point := byte % 8
      lower := if byte = 0xf0 then 0x90 else 0x80
      upper := if byte = 0xf4 then 0x8f else 0xbf })
  else
    ([replacement], .idle)

/-- Read one byte; one that does not continue a character begins the next. -/
def step (decoder : Decoder) (byte : Nat) : List Char × Decoder :=
  if decoder.needed = 0 then
    begin byte
  else if byte < decoder.lower ∨ decoder.upper < byte then
    (replacement :: (begin byte).1, (begin byte).2)
  else if decoder.needed = 1 then
    ([Char.ofNat (decoder.point * 64 + byte % 64)], .idle)
  else
    ([], { Decoder.idle with
      needed := decoder.needed - 1
      point := decoder.point * 64 + byte % 64 })

/-- Read the remaining bytes. -/
def decodeFrom (decoder : Decoder) : Bytes → List Char
  | [] => if decoder.needed = 0 then [] else [replacement]
  | byte :: rest =>
      let read := step decoder byte.toNat
      read.1 ++ decodeFrom read.2 rest

/-- Drop one byte order mark from the beginning. -/
def dropMark : List Char → List Char
  | [] => []
  | symbol :: rest => if symbol = byteOrderMark then rest else symbol :: rest

/-- `new TextDecoder().decode(b)` -/
def fromUtf8 (b : Bytes) : String :=
  String.ofList (dropMark (decodeFrom .idle b))

/-!
## Decoding inverts encoding
-/

/-- A small number is the value of its byte. -/
theorem toNat_ofNat_byte
    {value : Nat}
    (small : value < 256) :
    (UInt8.ofNat value).toNat = value := by
  rw [UInt8.toNat_ofNat']
  exact Nat.mod_eq_of_lt small

/-- A byte within the bounds continues a character. -/
theorem decodeFrom_continue
    {decoder : Decoder}
    {byte : Nat}
    (more : 1 < decoder.needed)
    (notBelow : decoder.lower ≤ byte)
    (notAbove : byte ≤ decoder.upper)
    (small : byte < 256)
    (rest : Bytes) :
    decodeFrom decoder (UInt8.ofNat byte :: rest) =
      decodeFrom { Decoder.idle with
        needed := decoder.needed - 1
        point := decoder.point * 64 + byte % 64 } rest := by
  have missing : decoder.needed ≠ 0 := by omega
  have notLast : decoder.needed ≠ 1 := by omega
  have inBounds : ¬ (byte < decoder.lower ∨ decoder.upper < byte) := by omega
  simp only [decodeFrom, step, toNat_ofNat_byte small, if_neg missing,
    if_neg inBounds, if_neg notLast, List.nil_append]

/-- The last byte of a character completes it. -/
theorem decodeFrom_complete
    {decoder : Decoder}
    {byte : Nat}
    (last : decoder.needed = 1)
    (notBelow : decoder.lower ≤ byte)
    (notAbove : byte ≤ decoder.upper)
    (small : byte < 256)
    (rest : Bytes) :
    decodeFrom decoder (UInt8.ofNat byte :: rest) =
      Char.ofNat (decoder.point * 64 + byte % 64) ::
        decodeFrom .idle rest := by
  have missing : decoder.needed ≠ 0 := by omega
  have inBounds : ¬ (byte < decoder.lower ∨ decoder.upper < byte) := by omega
  simp only [decodeFrom, step, toNat_ofNat_byte small, if_neg missing,
    if_neg inBounds, if_pos last, List.cons_append, List.nil_append]

/-- The first byte of a character. -/
theorem decodeFrom_begin
    {byte : Nat}
    (small : byte < 256)
    (rest : Bytes) :
    decodeFrom .idle (UInt8.ofNat byte :: rest) =
      (begin byte).1 ++ decodeFrom (begin byte).2 rest := by
  simp only [decodeFrom, step, toNat_ofNat_byte small, Decoder.idle,
    ↓reduceIte]

/-- The bytes of a code point. -/
def encodePoint (v : Nat) : Bytes :=
  if v ≤ 127 then
    [UInt8.ofNat v]
  else if v ≤ 2047 then
    [UInt8.ofNat (v / 64 % 32 + 192), UInt8.ofNat (v % 64 + 128)]
  else if v ≤ 65535 then
    [UInt8.ofNat (v / 4096 % 16 + 224), UInt8.ofNat (v / 64 % 64 + 128),
      UInt8.ofNat (v % 64 + 128)]
  else
    [UInt8.ofNat (v / 262144 % 8 + 240), UInt8.ofNat (v / 4096 % 64 + 128),
      UInt8.ofNat (v / 64 % 64 + 128), UInt8.ofNat (v % 64 + 128)]

/-- A code point of two bytes is read back. -/
theorem decodeFrom_two
    {v : Nat}
    (notOne : 127 < v)
    (isTwo : v ≤ 2047)
    (rest : Bytes) :
    decodeFrom .idle
        (UInt8.ofNat (v / 64 % 32 + 192) :: UInt8.ofNat (v % 64 + 128) ::
          rest) =
      Char.ofNat v :: decodeFrom .idle rest := by
  have first :
      begin (v / 64 % 32 + 192) =
        ([], { Decoder.idle with needed := 1, point := v / 64 }) := by
    have point : (v / 64 % 32 + 192) % 32 = v / 64 := by omega
    simp only [begin]
    rw [if_neg (by omega), if_pos (by omega), point]
  have spelled : v / 64 * 64 + (v % 64 + 128) % 64 = v := by omega
  rw [decodeFrom_begin (by omega), first, List.nil_append,
    decodeFrom_complete rfl (by dsimp only [Decoder.idle]; omega)
      (by dsimp only [Decoder.idle]; omega) (by omega), spelled]

/-- A code point of three bytes is read back. -/
theorem decodeFrom_three
    {v : Nat}
    (notTwo : 2047 < v)
    (isThree : v ≤ 65535)
    (valid : v < 0xd800 ∨ 0xdfff < v)
    (rest : Bytes) :
    decodeFrom .idle
        (UInt8.ofNat (v / 4096 % 16 + 224) ::
          UInt8.ofNat (v / 64 % 64 + 128) :: UInt8.ofNat (v % 64 + 128) ::
          rest) =
      Char.ofNat v :: decodeFrom .idle rest := by
  have first :
      begin (v / 4096 % 16 + 224) =
        ([], {
          needed := 2
          point := v / 4096
          lower := if v / 4096 = 0 then 0xa0 else 0x80
          upper := if v / 4096 = 13 then 0x9f else 0xbf }) := by
    have point : (v / 4096 % 16 + 224) % 16 = v / 4096 := by omega
    have least : v / 4096 % 16 + 224 = 0xe0 ↔ v / 4096 = 0 := by omega
    have most : v / 4096 % 16 + 224 = 0xed ↔ v / 4096 = 13 := by omega
    simp only [begin, least, most]
    rw [if_neg (by omega), if_neg (by omega), if_pos (by omega), point]
  have spelled :
      (v / 4096 * 64 + (v / 64 % 64 + 128) % 64) * 64 +
        (v % 64 + 128) % 64 = v := by
    omega
  rw [decodeFrom_begin (by omega), first, List.nil_append,
    decodeFrom_continue (Nat.lt_succ_self 1) (by dsimp only; split <;> omega)
      (by dsimp only; split <;> omega) (by omega),
    decodeFrom_complete rfl (by dsimp only [Decoder.idle]; omega)
      (by dsimp only [Decoder.idle]; omega) (by omega), spelled]

/-- A code point of four bytes is read back. -/
theorem decodeFrom_four
    {v : Nat}
    (notThree : 65535 < v)
    (valid : v < 0x110000)
    (rest : Bytes) :
    decodeFrom .idle
        (UInt8.ofNat (v / 262144 % 8 + 240) ::
          UInt8.ofNat (v / 4096 % 64 + 128) ::
          UInt8.ofNat (v / 64 % 64 + 128) :: UInt8.ofNat (v % 64 + 128) ::
          rest) =
      Char.ofNat v :: decodeFrom .idle rest := by
  have first :
      begin (v / 262144 % 8 + 240) =
        ([], {
          needed := 3
          point := v / 262144
          lower := if v / 262144 = 0 then 0x90 else 0x80
          upper := if v / 262144 = 4 then 0x8f else 0xbf }) := by
    have point : (v / 262144 % 8 + 240) % 8 = v / 262144 := by omega
    have least : v / 262144 % 8 + 240 = 0xf0 ↔ v / 262144 = 0 := by omega
    have most : v / 262144 % 8 + 240 = 0xf4 ↔ v / 262144 = 4 := by omega
    simp only [begin, least, most]
    rw [if_neg (by omega), if_neg (by omega), if_neg (by omega),
      if_pos (by omega), point]
  have spelled :
      ((v / 262144 * 64 + (v / 4096 % 64 + 128) % 64) * 64 +
        (v / 64 % 64 + 128) % 64) * 64 + (v % 64 + 128) % 64 = v := by
    omega
  rw [decodeFrom_begin (by omega), first, List.nil_append,
    decodeFrom_continue (by dsimp only; omega) (by dsimp only; split <;> omega)
      (by dsimp only; split <;> omega) (by omega),
    decodeFrom_continue (by dsimp only; omega)
      (by dsimp only [Decoder.idle]; omega)
      (by dsimp only [Decoder.idle]; omega) (by omega),
    decodeFrom_complete rfl (by dsimp only [Decoder.idle]; omega)
      (by dsimp only [Decoder.idle]; omega) (by omega), spelled]

/-- A code point is read back from its bytes. -/
theorem decodeFrom_encodePoint
    {v : Nat}
    (valid : v < 0xd800 ∨ 0xdfff < v ∧ v < 0x110000)
    (rest : Bytes) :
    decodeFrom .idle (encodePoint v ++ rest) =
      Char.ofNat v :: decodeFrom .idle rest := by
  unfold encodePoint
  by_cases one : v ≤ 127
  · rw [if_pos one, List.singleton_append, decodeFrom_begin (by omega)]
    simp only [begin, if_pos one, List.singleton_append]
  · rw [if_neg one]
    by_cases two : v ≤ 2047
    · rw [if_pos two]
      exact decodeFrom_two (Nat.lt_of_not_le one) two rest
    · rw [if_neg two]
      by_cases three : v ≤ 65535
      · rw [if_pos three]
        exact decodeFrom_three (Nat.lt_of_not_le two) three
          (valid.imp_right And.left) rest
      · rw [if_neg three]
        exact decodeFrom_four (Nat.lt_of_not_le three) (by omega) rest

/-- Text is read back from its bytes, whatever follows them. -/
theorem decodeFrom_flatMap_append (text : List Char) (rest : Bytes) :
    decodeFrom .idle (text.flatMap String.utf8EncodeChar ++ rest) =
      text ++ decodeFrom .idle rest := by
  induction text with
  | nil =>
      rfl
  | cons symbol later inductionHypothesis =>
      have first :
          decodeFrom .idle (encodePoint symbol.toNat ++
              (later.flatMap String.utf8EncodeChar ++ rest)) =
            Char.ofNat symbol.toNat ::
              decodeFrom .idle
                (later.flatMap String.utf8EncodeChar ++ rest) :=
        decodeFrom_encodePoint symbol.valid _
      rw [inductionHypothesis, Char.ofNat_toNat] at first
      rw [List.flatMap_cons, List.append_assoc]
      exact first

/-- Text is read back from its bytes. -/
theorem decodeFrom_flatMap (text : List Char) :
    decodeFrom .idle (text.flatMap String.utf8EncodeChar) = text := by
  have whole := decodeFrom_flatMap_append text []
  rwa [List.append_nil, show decodeFrom .idle [] = [] from rfl,
    List.append_nil] at whole

/-- Decoding inverts encoding, a byte order mark at the beginning aside. -/
theorem fromUtf8_utf8
    {s : String}
    (unmarked : s.toList.head? ≠ some byteOrderMark) :
    fromUtf8 (utf8 s) = s := by
  have kept : dropMark s.toList = s.toList := by
    cases shape : s.toList with
    | nil =>
        rfl
    | cons symbol rest =>
        rw [shape] at unmarked
        apply if_neg
        rintro rfl
        exact unmarked rfl
  rw [fromUtf8, utf8, decodeFrom_flatMap, kept, String.ofList_toList]

end Passwd.Utf8
