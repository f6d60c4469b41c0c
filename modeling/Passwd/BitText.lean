import Mathlib.Algebra.Group.Int.Defs
import Mathlib.Algebra.Group.Nat.Defs
import Passwd.Base64Text

namespace Passwd.Bits

open Base64

/-!
# Bits of numbers and of octet sequences

The bits of a number from the highest to the lowest, the bits of an octet
sequence one octet after the other, and the operators of JavaScript that work on
words of 32 bits.
-/

/-- The lowest bits of a number, the highest of them first. -/
def lowBits : Nat → Nat → List Bool
  | 0, _ => []
  | width + 1, value => value.testBit width :: lowBits width value

/-- The bits of an octet sequence. -/
def ofBytes (bytes : Bytes) : List Bool :=
  bytes.flatMap fun byte => lowBits 8 byte.toNat

@[simp] theorem length_lowBits (width value : Nat) :
    (lowBits width value).length = width := by
  induction width with
  | zero =>
      rfl
  | succ width inductionHypothesis =>
      rw [lowBits, List.length_cons, inductionHypothesis]

/-- Only the lowest bits count. -/
theorem lowBits_congr
    {width first second : Nat}
    (agree :
      ∀ index, index < width → first.testBit index = second.testBit index) :
    lowBits width first = lowBits width second := by
  induction width with
  | zero =>
      rfl
  | succ width inductionHypothesis =>
      rw [lowBits, lowBits, agree width (Nat.lt_succ_self width),
        inductionHypothesis fun index below =>
          agree index (Nat.lt_succ_of_lt below)]

/-- Numbers with the same bits agree in each of them. -/
theorem agree_of_lowBits
    {width first second : Nat}
    (same : lowBits width first = lowBits width second) :
    ∀ index, index < width → first.testBit index = second.testBit index := by
  induction width with
  | zero =>
      intro index below
      exact absurd below (Nat.not_lt_zero index)
  | succ width inductionHypothesis =>
      obtain ⟨highest, rest⟩ := List.cons.inj same
      intro index below
      rcases Nat.lt_succ_iff_lt_or_eq.mp below with lower | rfl
      · exact inductionHypothesis rest index lower
      · exact highest

/-- A number that fits is known by its bits. -/
theorem eq_of_lowBits
    {width first second : Nat}
    (fitsFirst : first < 2 ^ width)
    (fitsSecond : second < 2 ^ width)
    (same : lowBits width first = lowBits width second) :
    first = second := by
  apply Nat.eq_of_testBit_eq
  intro index
  by_cases below : index < width
  · exact agree_of_lowBits same index below
  · have wide : 2 ^ width ≤ 2 ^ index :=
      Nat.pow_le_pow_right (by omega) (Nat.le_of_not_lt below)
    rw [Nat.testBit_lt_two_pow (Nat.lt_of_lt_of_le fitsFirst wide),
      Nat.testBit_lt_two_pow (Nat.lt_of_lt_of_le fitsSecond wide)]

/-- The bits of a number are the higher ones and the lower ones. -/
theorem lowBits_add (high low value : Nat) :
    lowBits (high + low) value =
      lowBits high (value >>> low) ++ lowBits low value := by
  induction high with
  | zero =>
      rw [Nat.zero_add, lowBits, List.nil_append]
  | succ high inductionHypothesis =>
      rw [Nat.succ_add, lowBits, lowBits, inductionHypothesis,
        Nat.testBit_shiftRight, Nat.add_comm low high, List.cons_append]

/-- Bits that are shifted in from the right come last. -/
theorem lowBits_push
    {count digit : Nat}
    (fits : digit < 2 ^ count)
    (width value : Nat) :
    lowBits (width + count) (value <<< count ||| digit) =
      lowBits width value ++ lowBits count digit := by
  rw [lowBits_add]
  congr 1
  · apply lowBits_congr
    intro index _
    have none : digit.testBit (count + index) = false :=
      Nat.testBit_lt_two_pow
        (Nat.lt_of_lt_of_le fits
          (Nat.pow_le_pow_right (by omega) (Nat.le_add_right _ _)))
    rw [Nat.testBit_shiftRight, Nat.testBit_or, none, Bool.or_false,
      Nat.testBit_shiftLeft]
    simp
  · apply lowBits_congr
    intro index below
    rw [Nat.testBit_or, Nat.testBit_shiftLeft]
    simp [Nat.not_le.mpr below]

/-- Only the remainder counts. -/
theorem lowBits_mod
    {width count : Nat}
    (within : width ≤ count)
    (value : Nat) :
    lowBits width (value % 2 ^ count) = lowBits width value := by
  apply lowBits_congr
  intro index below
  rw [Nat.testBit_mod_two_pow]
  simp [Nat.lt_of_lt_of_le below within]

/-!
## Octet sequences
-/

@[simp] theorem ofBytes_nil : ofBytes [] = [] :=
  rfl

@[simp] theorem ofBytes_cons (byte : UInt8) (rest : Bytes) :
    ofBytes (byte :: rest) = lowBits 8 byte.toNat ++ ofBytes rest :=
  List.flatMap_cons

@[simp] theorem ofBytes_append (first second : Bytes) :
    ofBytes (first ++ second) = ofBytes first ++ ofBytes second :=
  List.flatMap_append

@[simp] theorem length_ofBytes (bytes : Bytes) :
    (ofBytes bytes).length = 8 * bytes.length := by
  induction bytes with
  | nil =>
      rfl
  | cons byte rest inductionHypothesis =>
      rw [ofBytes_cons, List.length_append, length_lowBits,
        inductionHypothesis, List.length_cons]
      omega

/-- An octet is known by its bits. -/
theorem byte_eq_of_lowBits
    {first second : UInt8}
    (same : lowBits 8 first.toNat = lowBits 8 second.toNat) :
    first = second :=
  UInt8.toNat_inj.mp (eq_of_lowBits first.toNat_lt second.toNat_lt same)

/--
Two octet sequences of one length are equal if their bits, and something else
behind them, are.
-/
theorem eq_of_ofBytes_append
    {first second : Bytes}
    {behind behind' : List Bool}
    (length : first.length = second.length)
    (same : ofBytes first ++ behind = ofBytes second ++ behind') :
    first = second := by
  induction first generalizing second with
  | nil =>
      exact (List.eq_nil_of_length_eq_zero length.symm).symm
  | cons byte rest inductionHypothesis =>
      cases second with
      | nil =>
          cases length
      | cons byte' rest' =>
          rw [ofBytes_cons, ofBytes_cons, List.append_assoc,
            List.append_assoc] at same
          obtain ⟨head, tail⟩ :=
            List.append_inj same (by simp only [length_lowBits])
          rw [byte_eq_of_lowBits head,
            inductionHypothesis (Nat.succ.inj length) tail]

/-- An octet made of a number has the lowest bits of the number. -/
theorem lowBits_ofNat (value : Nat) :
    lowBits 8 (UInt8.ofNat value).toNat = lowBits 8 value := by
  rw [UInt8.toNat_ofNat']
  exact lowBits_mod (Nat.le_refl 8) value

/-!
## Words of 32 bits in JavaScript

The operands of the operators are converted to words; a result is a signed
number, except for that of `>>>`.
-/

/-- `ToInt32` and `ToUint32`, which differ in how the word is read only. -/
def toWord (number : Int) : BitVec 32 :=
  BitVec.ofInt 32 number

/-- `number << count` -/
def shiftLeft (number : Int) (count : Nat) : Int :=
  (toWord number <<< (count % 32)).toInt

/-- `number >>> count` -/
def unsignedShiftRight (number : Int) (count : Nat) : Int :=
  (toWord number >>> (count % 32)).toNat

/-- `first | second` -/
def bitOr (first second : Int) : Int :=
  (toWord first ||| toWord second).toInt

/-- `first & second` -/
def bitAnd (first second : Int) : Int :=
  (toWord first &&& toWord second).toInt

@[simp] theorem toWord_shiftLeft (number : Int) (count : Nat) :
    toWord (shiftLeft number count) = toWord number <<< (count % 32) :=
  BitVec.ofInt_toInt

@[simp] theorem toWord_bitOr (first second : Int) :
    toWord (bitOr first second) = toWord first ||| toWord second :=
  BitVec.ofInt_toInt

@[simp] theorem toWord_bitAnd (first second : Int) :
    toWord (bitAnd first second) = toWord first &&& toWord second :=
  BitVec.ofInt_toInt

/-- The word of a natural number is its remainder. -/
theorem toNat_toWord (number : Nat) :
    (toWord number).toNat = number % 2 ^ 32 := by
  simp [toWord]

/-- A number is shifted into a word from the right. -/
theorem lowBits_shiftIn
    {count digit width : Nat}
    (fits : digit < 2 ^ count)
    (room : width + count ≤ 32)
    (small : count < 32)
    (number : Int) :
    lowBits (width + count)
        (toWord (bitOr (shiftLeft number count) digit)).toNat =
      lowBits width (toWord number).toNat ++ lowBits count digit := by
  rw [← lowBits_push fits]
  apply lowBits_congr
  intro index below
  have inside : index < 32 := Nat.lt_of_lt_of_le below room
  have whole : digit < 2 ^ 32 :=
    Nat.lt_of_lt_of_le fits (Nat.pow_le_pow_right (by omega) (by omega))
  rw [toWord_bitOr, toWord_shiftLeft, BitVec.toNat_or, Nat.testBit_or,
    Nat.testBit_or, toNat_toWord, Nat.mod_eq_of_lt whole,
    Nat.mod_eq_of_lt small, BitVec.toNat_shiftLeft,
    Nat.testBit_mod_two_pow]
  simp [inside]

/-- An octet is read out of a word. -/
theorem bitAnd_unsignedShiftRight
    {count : Nat}
    (small : count < 32)
    (number : Int) :
    bitAnd (unsignedShiftRight number count) 0xff =
      (((toWord number).toNat >>> count) % 256 : Nat) := by
  have shifted :
      (toWord (unsignedShiftRight number count)).toNat =
        (toWord number).toNat >>> count := by
    rw [unsignedShiftRight, toNat_toWord, Nat.mod_eq_of_lt (BitVec.isLt _),
      Nat.mod_eq_of_lt small, BitVec.toNat_ushiftRight]
  have mask : (toWord 0xff).toNat = 2 ^ 8 - 1 := by
    decide
  have word :
      (toWord (unsignedShiftRight number count) &&& toWord 0xff).toNat =
        ((toWord number).toNat >>> count) % 256 := by
    rw [BitVec.toNat_and, shifted, mask, Nat.and_two_pow_sub_one_eq_mod]
  have octet := Nat.mod_lt ((toWord number).toNat >>> count) (y := 256)
    (by omega)
  rw [bitAnd, BitVec.toInt_eq_toNat_of_lt (by rw [word]; omega), word]

/-!
## Small numbers

On numbers below `2 ^ 31` the operators are those of natural numbers.
-/

/-- A word below `2 ^ 31` is a signed number of the same value. -/
theorem toInt_eq_of_toNat
    {word : BitVec 32}
    {number : Nat}
    (value : word.toNat = number)
    (small : number < 2 ^ 31) :
    word.toInt = number := by
  rw [BitVec.toInt_eq_toNat_of_lt (by omega), value]

/-- A number below `2 ^ 31` is its word. -/
theorem toNat_toWord_of_lt
    {number : Nat}
    (small : number < 2 ^ 31) :
    (toWord number).toNat = number := by
  rw [toNat_toWord, Nat.mod_eq_of_lt (by omega)]

theorem shiftLeft_natCast
    {number count : Nat}
    (room : count < 32)
    (small : number <<< count < 2 ^ 31) :
    shiftLeft number count = (number <<< count : Nat) := by
  have number_small : number < 2 ^ 31 :=
    Nat.lt_of_le_of_lt (Nat.le_shiftLeft) small
  apply toInt_eq_of_toNat _ small
  rw [BitVec.toNat_shiftLeft, toNat_toWord_of_lt number_small,
    Nat.mod_eq_of_lt room, Nat.mod_eq_of_lt (by omega)]

theorem bitOr_natCast
    {first second : Nat}
    (smallFirst : first < 2 ^ 31)
    (smallSecond : second < 2 ^ 31) :
    bitOr first second = (first ||| second : Nat) := by
  apply toInt_eq_of_toNat _ (Nat.or_lt_two_pow smallFirst smallSecond)
  rw [BitVec.toNat_or, toNat_toWord_of_lt smallFirst,
    toNat_toWord_of_lt smallSecond]

theorem bitAnd_natCast
    {first second : Nat}
    (smallFirst : first < 2 ^ 31)
    (smallSecond : second < 2 ^ 31) :
    bitAnd first second = (first &&& second : Nat) := by
  apply toInt_eq_of_toNat _ (Nat.and_lt_two_pow first smallSecond)
  rw [BitVec.toNat_and, toNat_toWord_of_lt smallFirst,
    toNat_toWord_of_lt smallSecond]

end Passwd.Bits
