import Mathlib.Algebra.Group.Int.Defs
import Mathlib.Algebra.Group.Nat.Defs
import Mathlib.Data.List.DropRight

namespace Passwd.Decimal

/-!
# Integers as decimal text

Writing an integer in decimal, reading one of a fixed width back, and reading a
text by a format in which integers stand between fixed characters.  A reader that
skips spaces before an integer is told which characters are spaces.
-/

/-- The decimal digits of an integer, after a minus sign if it is negative. -/
def write : Int → List Char
  | .ofNat value => Nat.toDigits 10 value
  | .negSucc value => '-' :: Nat.toDigits 10 (value + 1)

/-- An integer that a signed word of a width can hold. -/
def Fits (bits : Nat) (value : Int) : Prop :=
  -(2 ^ (bits - 1)) ≤ value ∧ value < 2 ^ (bits - 1)

instance (bits : Nat) (value : Int) : Decidable (Fits bits value) :=
  inferInstanceAs (Decidable (_ ∧ _))

/-- An integer, unless it does not fit. -/
def checked (bits : Nat) (value : Int) : Option Int :=
  if Fits bits value then some value else none

/-- What digits spell, if there are any and nothing else is there. -/
def magnitude (digits : List Char) : Option Nat :=
  if digits ≠ [] ∧ digits.all Char.isDigit then
    some (Nat.ofDigitChars 10 digits 0)
  else
    none

/-- Read an integer of a width, which may carry a sign. -/
def parse (bits : Nat) : List Char → Option Int
  | '-' :: digits =>
      (magnitude digits).bind fun value => checked bits (-(value : Int))
  | '+' :: digits => (magnitude digits).bind fun value => checked bits value
  | digits => (magnitude digits).bind fun value => checked bits value

/-!
## Formats
-/

/-- One step of a format. -/
inductive Directive where
  | literal (symbol : Char)
  | integer
deriving Repr, DecidableEq

/-- The directives of a format, in which `%d` stands for an integer. -/
def directives : List Char → List Directive
  | '%' :: 'd' :: rest => .integer :: directives rest
  | symbol :: rest => .literal symbol :: directives rest
  | [] => []

section Scanning

variable (isSpace : Char → Bool)

/-- What follows the spaces at the front; a line end is not skipped. -/
def skipSpace : List Char → Option (List Char)
  | [] => some []
  | symbol :: rest =>
      if symbol = '\n' then none
      else if isSpace symbol then skipSpace rest
      else some (symbol :: rest)

/-- The sign in front of a text. -/
def signOf : List Char → List Char
  | '-' :: _ => ['-']
  | '+' :: _ => ['+']
  | _ => []

/-- Read an integer of 64 bits from the front, and what follows it. -/
def scanInt (text : List Char) : Option (Int × List Char) :=
  (skipSpace isSpace text).bind fun text =>
    let sign := signOf text
    let unsigned := text.drop sign.length
    (parse 64 (sign ++ unsigned.takeWhile Char.isDigit)).map fun value =>
      (value, unsigned.dropWhile Char.isDigit)

/-- Read a text by a format; what is left of it is ignored. -/
def scan : List Directive → List Char → Option (List Int)
  | [], _ => some []
  | .literal _ :: _, [] => none
  | .literal expected :: format, symbol :: text =>
      if expected = symbol then scan format text else none
  | .integer :: format, text =>
      (scanInt isSpace text).bind fun read =>
        (scan format read.2).map fun values => read.1 :: values

end Scanning

/-!
## Reading what was written
-/

/-- A digit is no sign. -/
theorem ne_sign_of_isDigit
    {symbol : Char}
    (digit : symbol.isDigit = true) :
    symbol ≠ '-' ∧ symbol ≠ '+' ∧ symbol ≠ '\n' := by
  refine ⟨?_, ?_, ?_⟩
  all_goals
    intro same
    rw [same] at digit
    revert digit
    decide

/-- Every decimal digit is one. -/
theorem isDigit_of_mem_toDigits
    {value : Nat}
    {symbol : Char}
    (member : symbol ∈ Nat.toDigits 10 value) :
    symbol.isDigit = true :=
  Nat.isDigit_of_mem_toDigits (by omega) (by omega) member

/-- The digits of a number spell it. -/
theorem magnitude_toDigits (value : Nat) :
    magnitude (Nat.toDigits 10 value) = some value := by
  have allDigits : (Nat.toDigits 10 value).all Char.isDigit = true := by
    rw [List.all_eq_true]
    intro symbol member
    exact isDigit_of_mem_toDigits member
  unfold magnitude
  rw [if_pos ⟨Nat.toDigits_ne_nil, allDigits⟩,
    Nat.ofDigitChars_toDigits (by omega) (by omega)]

/-- A number begins with a digit. -/
theorem toDigits_head (value : Nat) :
    ∃ first rest,
      Nat.toDigits 10 value = first :: rest ∧ first.isDigit = true := by
  cases digits : Nat.toDigits 10 value with
  | nil =>
      exact absurd digits Nat.toDigits_ne_nil
  | cons first rest =>
      refine ⟨first, rest, rfl, ?_⟩
      apply @isDigit_of_mem_toDigits value
      rw [digits]
      exact List.mem_cons_self

/-- Reading an integer that fits gives it back. -/
theorem parse_write
    {bits : Nat}
    {value : Int}
    (fits : Fits bits value) :
    parse bits (write value) = some value := by
  cases value with
  | ofNat value =>
      obtain ⟨first, rest, spelled, digit⟩ := toDigits_head value
      have read := magnitude_toDigits value
      obtain ⟨noMinus, noPlus, -⟩ := ne_sign_of_isDigit digit
      simp only [write, spelled] at read ⊢
      unfold parse
      split
      · rename_i same
        cases same
        exact absurd rfl noMinus
      · rename_i same
        cases same
        exact absurd rfl noPlus
      · rw [read, Option.bind_some, checked, Int.ofNat_eq_natCast]
        exact if_pos fits
  | negSucc value =>
      have read := magnitude_toDigits (value + 1)
      have negated : -((value + 1 : Nat) : Int) = Int.negSucc value := rfl
      simp only [write, parse]
      rw [read, Option.bind_some, negated, checked]
      exact if_pos fits

/-- The text that a number is converted to. -/
theorem toList_toString (value : Int) :
    (toString value).toList = write value := by
  cases value with
  | ofNat value =>
      exact Nat.toList_repr
  | negSucc value =>
      change ("-" ++ Nat.repr (value + 1)).toList = _
      rw [String.toList_append, Nat.toList_repr]
      rfl

section Scan

variable {isSpace : Char → Bool}

/-- A literal character is read away. -/
theorem scan_literal
    (symbol : Char)
    (format : List Directive)
    (text : List Char) :
    scan isSpace (.literal symbol :: format) (symbol :: text) =
      scan isSpace format text := by
  simp only [scan, if_true]

/-- Digits in front of something else are read up to it. -/
theorem takeWhile_digits
    {digits rest : List Char}
    (allDigits : ∀ symbol ∈ digits, symbol.isDigit = true)
    (ends : ∀ symbol, rest.head? = some symbol → symbol.isDigit = false) :
    (digits ++ rest).takeWhile Char.isDigit = digits ∧
      (digits ++ rest).dropWhile Char.isDigit = rest := by
  have nothing :
      rest.takeWhile Char.isDigit = [] ∧ rest.dropWhile Char.isDigit = rest := by
    cases rest with
    | nil =>
        exact ⟨rfl, rfl⟩
    | cons symbol rest =>
        have other := ends symbol rfl
        rw [List.takeWhile_cons_of_neg (by simp [other]),
          List.dropWhile_cons_of_neg (by simp [other])]
        exact ⟨rfl, rfl⟩
  rw [List.takeWhile_append_of_pos allDigits,
    List.dropWhile_append_of_pos allDigits, nothing.1, nothing.2,
    List.append_nil]
  exact ⟨rfl, rfl⟩

/-- A number without sign is read back from in front of another character. -/
theorem scanInt_toDigits
    {value : Nat}
    {rest : List Char}
    (noSpace : ∀ symbol : Char, symbol.isDigit = true → isSpace symbol = false)
    (fits : Fits 64 value)
    (ends : ∀ symbol, rest.head? = some symbol → symbol.isDigit = false) :
    scanInt isSpace (Nat.toDigits 10 value ++ rest) =
      some ((value : Int), rest) := by
  have read := @parse_write 64 value fits
  obtain ⟨taken, dropped⟩ :=
    takeWhile_digits
      (fun symbol (member : symbol ∈ Nat.toDigits 10 value) =>
        isDigit_of_mem_toDigits member) ends
  obtain ⟨first, digits, spelled, digit⟩ := toDigits_head value
  obtain ⟨noMinus, noPlus, noEnd⟩ := ne_sign_of_isDigit digit
  have unspaced :
      skipSpace isSpace (first :: digits ++ rest) =
        some (first :: digits ++ rest) := by
    rw [List.cons_append, skipSpace, if_neg noEnd, noSpace first digit]
    rfl
  have unsigned : signOf (first :: digits ++ rest) = [] := by
    rw [List.cons_append]
    unfold signOf
    split
    · rename_i same
      cases same
      exact absurd rfl noMinus
    · rename_i same
      cases same
      exact absurd rfl noPlus
    · rfl
  rw [spelled] at taken dropped ⊢
  simp only [scanInt]
  rw [unspaced, Option.bind_some, unsigned]
  simp only [List.length_nil, List.drop_zero, List.nil_append]
  rw [taken, dropped, ← spelled]
  change Option.map _ (parse 64 (write (value : Int))) = _
  rw [read]
  rfl

/-- An integer directive reads a number without sign. -/
theorem scan_integer
    {value : Nat}
    {rest : List Char}
    (noSpace : ∀ symbol : Char, symbol.isDigit = true → isSpace symbol = false)
    (fits : Fits 64 value)
    (ends : ∀ symbol, rest.head? = some symbol → symbol.isDigit = false)
    (format : List Directive) :
    scan isSpace (.integer :: format) (Nat.toDigits 10 value ++ rest) =
      (scan isSpace format rest).map fun values => (value : Int) :: values := by
  rw [scan, scanInt_toDigits noSpace fits ends, Option.bind_some]

end Scan

end Passwd.Decimal
