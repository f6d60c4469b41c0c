import Passwd.BitText

namespace Passwd.Percent

open Base64

/-!
# Percent-encoded bytes

An encoder keeps some bytes and spells the others as a mark and two hexadecimal
digits.  A decoder reads such escapes back and has its own reading of the bytes
outside them, such as a space for a plus sign.  Decoding inverts encoding when
the decoder reads every kept byte as itself.
-/

/-- The byte that begins an escape. -/
def mark : UInt8 := 0x25

/-- The digit of a value below 16. -/
def digit (value : Nat) : UInt8 :=
  if value < 10 then UInt8.ofNat (value + 48) else UInt8.ofNat (value + 55)

/-- The value of a digit, in either letter case. -/
def digitValue (byte : UInt8) : Option Nat :=
  if 48 ≤ byte.toNat ∧ byte.toNat ≤ 57 then some (byte.toNat - 48)
  else if 65 ≤ byte.toNat ∧ byte.toNat ≤ 70 then some (byte.toNat - 55)
  else if 97 ≤ byte.toNat ∧ byte.toNat ≤ 102 then some (byte.toNat - 87)
  else none

/-- The escape of a byte. -/
def escaped (byte : UInt8) : Bytes :=
  [mark, digit (byte.toNat / 16), digit (byte.toNat % 16)]

/-- Spell one byte. -/
def encodeByte (kept : UInt8 → Bool) (byte : UInt8) : Bytes :=
  if kept byte then [byte] else escaped byte

/-- Spell a byte sequence. -/
def encode (kept : UInt8 → Bool) (b : Bytes) : Bytes :=
  b.flatMap (encodeByte kept)

/-- Read a byte sequence; `none` when an escape lacks its digits. -/
def decode (plain : UInt8 → UInt8) : Bytes → Option Bytes
  | [] => some []
  | byte :: rest =>
      if byte = mark then
        match rest with
        | first :: second :: rest =>
            match digitValue first, digitValue second with
            | some high, some low =>
                (decode plain rest).map (UInt8.ofNat (high * 16 + low) :: ·)
            | _, _ => none
        | _ => none
      else
        (decode plain rest).map (plain byte :: ·)

section Bytes

/-- A byte outside escapes is read on its own. -/
theorem decode_cons
    {byte : UInt8}
    (notMark : byte ≠ mark)
    (plain : UInt8 → UInt8)
    (rest : Bytes) :
    decode plain (byte :: rest) = (decode plain rest).map (plain byte :: ·) := by
  rw [decode.eq_def]
  simp only [if_neg notMark]

/-- The digit of a value spells it. -/
theorem digitValue_digit :
    ∀ value, value < 16 → digitValue (digit value) = some value := by
  decide

/-- An escape is read back. -/
theorem decode_escaped
    (plain : UInt8 → UInt8)
    (byte : UInt8)
    (rest : Bytes) :
    decode plain (escaped byte ++ rest) = (decode plain rest).map (byte :: ·) := by
  have bounded : byte.toNat < 256 := byte.toNat_lt
  have high := digitValue_digit (byte.toNat / 16) (by omega)
  have low := digitValue_digit (byte.toNat % 16) (by omega)
  have joined : byte.toNat / 16 * 16 + byte.toNat % 16 = byte.toNat := by
    omega
  rw [decode.eq_def]
  simp only [escaped, List.cons_append, List.nil_append, if_true, high, low,
    joined, UInt8.ofNat_toNat]

/-- A spelled byte is read back. -/
theorem decode_encodeByte
    {kept : UInt8 → Bool}
    {plain : UInt8 → UInt8}
    (reads : ∀ byte, kept byte = true → byte ≠ mark ∧ plain byte = byte)
    (byte : UInt8)
    (rest : Bytes) :
    decode plain (encodeByte kept byte ++ rest) =
      (decode plain rest).map (byte :: ·) := by
  by_cases isKept : kept byte = true
  · obtain ⟨notMark, same⟩ := reads byte isKept
    rw [encodeByte, if_pos isKept, List.singleton_append,
      decode_cons notMark, same]
  · rw [encodeByte, if_neg isKept, decode_escaped]

/-- What was spelled is read back, and what follows it after it. -/
theorem decode_encode_append
    {kept : UInt8 → Bool}
    {plain : UInt8 → UInt8}
    (reads : ∀ byte, kept byte = true → byte ≠ mark ∧ plain byte = byte)
    (b rest : Bytes) :
    decode plain (encode kept b ++ rest) = (decode plain rest).map (b ++ ·) := by
  induction b with
  | nil =>
      cases decoded : decode plain rest with
      | none => simp [encode, decoded]
      | some bytes => simp [encode, decoded]
  | cons byte later inductionHypothesis =>
      have step :=
        decode_encodeByte reads byte (encode kept later ++ rest)
      rw [encode, List.flatMap_cons, List.append_assoc, ← encode, step,
        inductionHypothesis, Option.map_map]
      rfl

/-- What was spelled is read back. -/
theorem decode_encode
    {kept : UInt8 → Bool}
    {plain : UInt8 → UInt8}
    (reads : ∀ byte, kept byte = true → byte ≠ mark ∧ plain byte = byte)
    (b : Bytes) :
    decode plain (encode kept b) = some b := by
  have read := decode_encode_append reads b []
  simpa [decode] using read

/-- A digit is a figure or one of six capital letters. -/
theorem digit_range :
    ∀ value, value < 16 →
      48 ≤ (digit value).toNat ∧ (digit value).toNat ≤ 57 ∨
        65 ≤ (digit value).toNat ∧ (digit value).toNat ≤ 70 := by
  decide

/-- An encoding consists of kept bytes, marks and digits. -/
theorem mem_encode
    {kept : UInt8 → Bool}
    {b : Bytes}
    {byte : UInt8}
    (member : byte ∈ encode kept b) :
    kept byte = true ∨ byte = mark ∨
      48 ≤ byte.toNat ∧ byte.toNat ≤ 57 ∨
        65 ≤ byte.toNat ∧ byte.toNat ≤ 70 := by
  obtain ⟨source, -, spells⟩ := List.mem_flatMap.mp member
  have bounded : source.toNat < 256 := source.toNat_lt
  unfold encodeByte at spells
  split at spells
  · rename_i isKept
    rw [List.mem_singleton.mp spells]
    exact .inl isKept
  · simp only [escaped, List.mem_cons, List.not_mem_nil, or_false] at spells
    rcases spells with rfl | rfl | rfl
    · exact .inr (.inl rfl)
    · exact .inr (.inr (digit_range _ (by omega)))
    · exact .inr (.inr (digit_range _ (by omega)))

/-- Spelling what was spelled keeps the escapes when it keeps their bytes. -/
theorem encode_encode
    {kept outer : UInt8 → Bool}
    (keepsMark : outer mark = true)
    (keepsDigits : ∀ value, value < 16 → outer (digit value) = true)
    (b : Bytes) :
    encode outer (encode kept b) =
      encode (fun byte => kept byte && outer byte) b := by
  induction b with
  | nil => rfl
  | cons byte rest inductionHypothesis =>
      have bounded : byte.toNat < 256 := byte.toNat_lt
      have first :
          encode outer (encodeByte kept byte) =
            encodeByte (fun byte => kept byte && outer byte) byte := by
        by_cases isKept : kept byte = true
        · simp [encode, encodeByte, isKept]
        · have high := keepsDigits (byte.toNat / 16) (by omega)
          have low := keepsDigits (byte.toNat % 16) (by omega)
          simp [encode, encodeByte, isKept, escaped, keepsMark, high, low]
      calc
        encode outer (encode kept (byte :: rest))
            = encode outer (encodeByte kept byte) ++
                encode outer (encode kept rest) := by
          simp only [encode, List.flatMap_cons, List.flatMap_append]
        _ = encode (fun byte => kept byte && outer byte) (byte :: rest) := by
          rw [first, inductionHypothesis]
          rfl

/-- Every byte is spelled by at least one. -/
theorem encode_eq_nil
    {kept : UInt8 → Bool}
    {b : Bytes} :
    encode kept b = [] ↔ b = [] := by
  cases b with
  | nil => simp [encode]
  | cons byte rest =>
      simp only [encode, List.flatMap_cons, List.append_eq_nil_iff,
        reduceCtorEq, iff_false, not_and]
      intro none
      unfold encodeByte at none
      split at none
      · cases none
      · cases none

/-- A text of bytes that read as themselves is read as itself. -/
theorem decode_of_plain
    {plain : UInt8 → UInt8}
    {b : Bytes}
    (reads : ∀ byte ∈ b, byte ≠ mark ∧ plain byte = byte) :
    decode plain b = some b := by
  induction b with
  | nil => rfl
  | cons byte rest inductionHypothesis =>
      obtain ⟨notMark, same⟩ := reads byte List.mem_cons_self
      rw [decode_cons notMark, same,
        inductionHypothesis fun later member =>
          reads later (List.mem_cons_of_mem _ member)]
      rfl

/-- A text of kept bytes is spelled as itself. -/
theorem encode_of_kept
    {kept : UInt8 → Bool}
    {b : Bytes}
    (all : ∀ byte ∈ b, kept byte = true) :
    encode kept b = b := by
  induction b with
  | nil => rfl
  | cons byte rest inductionHypothesis =>
      rw [encode, List.flatMap_cons, ← encode,
        inductionHypothesis fun later member =>
          all later (List.mem_cons_of_mem _ member),
        encodeByte, if_pos (all byte List.mem_cons_self)]
      rfl

end Bytes

end Passwd.Percent
