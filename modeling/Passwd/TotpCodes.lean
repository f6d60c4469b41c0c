import Passwd.Base32Text
import Passwd.IdentifierNormalization
import Passwd.DecimalText

namespace Passwd.Totp

open Base64 Bits

/-!
# Time-based codes on the client

The codes of vault items for other sites.  The upper-case mapping of characters,
the URL parser and HMAC are parameters.  Numbers are exact integers, except for
the operators that work on 32 bits.
-/

/-- What `toUpperCase` makes of each character. -/
structure UpperCase where
  upper : Char → List Char
  ascii : ∀ symbol : Char, symbol.toNat < 128 → upper symbol = [symbol.toUpper]

/-- The upper-case mapping of a text without other letters than ASCII ones. -/
def asciiUpperCase : UpperCase where
  upper symbol := [symbol.toUpper]
  ascii _ _ := rfl

/-- `algorithm` -/
inductive Algorithm where
  | sha1
  | sha256
  | sha512
deriving Repr, DecidableEq

/-- `TotpConfig` -/
structure TotpConfig where
  secret : Bytes
  algorithm : Algorithm
  digits : Nat
  period : Nat
deriving Repr, DecidableEq

/-- The bytes of a hash. -/
def Algorithm.hashLength : Algorithm → Nat
  | .sha1 => 20
  | .sha256 => 32
  | .sha512 => 64

/-- HMAC as WebCrypto computes it, with the length of the hash. -/
structure WebCrypto where
  sign : Algorithm → Bytes → Bytes → Bytes
  length_sign :
    ∀ algorithm key message,
      (sign algorithm key message).length = algorithm.hashLength

/-- An HMAC that spells its message out, so that a code is its counter. -/
def plainWebCrypto : WebCrypto where
  sign algorithm _ message :=
    (message.drop 4).take 4 ++
      List.replicate (algorithm.hashLength - ((message.drop 4).take 4).length) 0
  length_sign := by
    intro algorithm _ message
    have short : ((message.drop 4).take 4).length ≤ 4 :=
      List.length_take_le 4 _
    have long : 4 ≤ algorithm.hashLength := by
      cases algorithm <;> decide
    rw [List.length_append, List.length_replicate]
    omega

/-- The URL parser: the search parameters of a text, unless it is no URL. -/
abbrev UrlParser := String → Option (String → Option String)

/-!
## Decoding a secret
-/

/-- The variables of the loop of `base32Decode`. -/
structure DecodeState where
  bits : Nat
  value : Int
  out : Bytes

/-- The variables before the loop. -/
def DecodeState.initial : DecodeState where
  bits := 0
  value := 0
  out := []

/-- The body of the loop. -/
def decodeStep (state : DecodeState) (idx : Nat) : DecodeState :=
  let value := bitOr (shiftLeft state.value 5) idx
  let bits := state.bits + 5
  if bits ≥ 8 then
    { bits := bits - 8
      value := value
      out :=
        state.out ++
          [.ofInt (bitAnd (unsignedShiftRight value (bits - 8)) 0xff)] }
  else
    { bits := bits, value := value, out := state.out }

/-- The loop, which gives up at a character that is no symbol. -/
def decodeSymbols (state : DecodeState) : List Char → Option Bytes
  | [] => some state.out
  | ch :: rest =>
      match Base32.value ch with
      | none => none
      | some idx => decodeSymbols (decodeStep state idx) rest

/-- The text that is decoded: `[\s-]` and the padding are removed. -/
def cleanSecret (letters : UpperCase) (s : String) : List Char :=
  let upper := s.toList.flatMap letters.upper
  let clean := upper.filter fun ch => !(Identifier.isJsSpace ch || ch = '-')
  clean.rdropWhile fun ch => ch = '='

/-- `base32Decode`; `none` is `null`. -/
def base32Decode (letters : UpperCase) (s : String) : Option Bytes :=
  let clean := cleanSecret letters s
  if clean = [] then none else decodeSymbols .initial clean

/-!
## Reading a stored secret
-/

/-- `parseInt(text, 10)`; `none` is `NaN`. -/
def parseInt (text : String) : Option Int :=
  let trimmed := text.toList.dropWhile Identifier.isJsSpace
  let sign := Decimal.signOf trimmed
  let digits := (trimmed.drop sign.length).takeWhile Char.isDigit
  (Decimal.magnitude digits).map fun magnitude =>
    if sign = ['-'] then -(magnitude : Int) else magnitude

/-- `text.replace(pattern, replacement)`, which replaces one occurrence. -/
def replaceFirst (pattern replacement : List Char) : List Char → List Char
  | [] => if pattern = [] then replacement else []
  | symbol :: rest =>
      if pattern.isPrefixOf (symbol :: rest) then
        replacement ++ (symbol :: rest).drop pattern.length
      else
        symbol :: replaceFirst pattern replacement rest

/-- The algorithm that a search parameter names. -/
def namedAlgorithm (letters : UpperCase) (name : String) : Algorithm :=
  let alg :=
    replaceFirst "SHA".toList "SHA-".toList (name.toList.flatMap letters.upper)
  if alg = "SHA-256".toList then .sha256
  else if alg = "SHA-512".toList then .sha512
  else .sha1

/-- A number between bounds, or else a default. -/
def within (lowest highest default : Nat) (number : Option Int) : Nat :=
  match number with
  | some number =>
      if (lowest : Int) ≤ number ∧ number ≤ highest then
        number.toNat
      else
        default
  | none => default

/-- `/^otpauth:\/\//i` -/
def isOtpauth (raw : List Char) : Bool :=
  (raw.take 10).map Char.toLower = "otpauth://".toList

/-- `parseTotpSecret`; `none` is `null`. -/
def parseTotpSecret
    (letters : UpperCase)
    (url : UrlParser)
    (input : String) : Option TotpConfig :=
  let raw := TextRuns.trim Identifier.isJsSpace input.toList
  if raw = [] then
    none
  else if isOtpauth raw then
    match url (String.ofList raw) with
    | none => none
    | some get =>
        match base32Decode letters ((get "secret").getD "") with
        | none => none
        | some secret =>
            let digits := parseInt ((get "digits").getD "6")
            let period := parseInt ((get "period").getD "30")
            some
              { secret := secret
                algorithm :=
                  namedAlgorithm letters ((get "algorithm").getD "SHA1")
                digits := within 6 10 6 digits
                period := within 1 300 30 period }
  else
    match base32Decode letters (String.ofList raw) with
    | none => none
    | some secret =>
        some { secret := secret, algorithm := .sha1, digits := 6, period := 30 }

/-!
## Codes
-/

/-- `view.setUint32(offset, number)`: the bytes that are written. -/
def setUint32 (number : Nat) : Bytes :=
  [.ofNat (number % 2 ^ 32 / 2 ^ 24), .ofNat (number % 2 ^ 32 / 2 ^ 16),
    .ofNat (number % 2 ^ 32 / 2 ^ 8), .ofNat (number % 2 ^ 32)]

/-- The message of a counter. -/
def counterMessage (counter : Nat) : Bytes :=
  setUint32 (counter / 0x100000000) ++
    setUint32 (unsignedShiftRight counter 0).toNat

/-- `bin`: a missing byte counts as zero. -/
def truncate (mac : Bytes) : Int :=
  let byte := fun index : Nat => ((mac.getD index 0).toNat : Int)
  let offset := (bitAnd (byte (mac.length - 1)) 0x0f).toNat
  bitOr
    (bitOr
      (bitOr (shiftLeft (bitAnd (byte offset) 0x7f) 24)
        (shiftLeft (byte (offset + 1)) 16))
      (shiftLeft (byte (offset + 2)) 8))
    (byte (offset + 3))

/-- `text.padStart(length, "0")` -/
def padStart (length : Nat) (text : List Char) : List Char :=
  List.replicate (length - text.length) '0' ++ text

/-- `String(bin % 10 ** digits).padStart(digits, "0")` -/
def codeText (digits : Nat) (bin : Int) : String :=
  String.ofList
    (padStart digits (Decimal.write (bin.tmod ((10 ^ digits : Nat) : Int))))

namespace WebCrypto

variable (crypto : WebCrypto)

/-- `hotp`; `none` is an exception, as a key must not be empty. -/
def hotp (cfg : TotpConfig) (counter : Nat) : Option String :=
  if cfg.secret = [] then
    none
  else
    some
      (codeText cfg.digits
        (truncate
          (crypto.sign cfg.algorithm cfg.secret (counterMessage counter))))

/-- `totpCode`: the code and the seconds that are left. -/
def totpCode (cfg : TotpConfig) (nowMs : Nat) : Option (String × Nat) :=
  let step := nowMs / 1000 / cfg.period
  (crypto.hotp cfg step).map fun code =>
    (code, cfg.period - nowMs / 1000 % cfg.period)

/-- `totpFromString`: an exception, `null`, or the code, seconds and period. -/
def totpFromString
    (letters : UpperCase)
    (url : UrlParser)
    (stored : String)
    (nowMs : Nat) : Option (Option (String × Nat × Nat)) :=
  match parseTotpSecret letters url stored with
  | none => some none
  | some cfg =>
      (crypto.totpCode cfg nowMs).map fun shown =>
        some (shown.1, shown.2, cfg.period)

end WebCrypto

/-!
## What the loop of the decoder holds
-/

/--
The bits that the loop has read: those of the octets it has put out, and the
lowest bits of its accumulator.
-/
def DecodeState.read (state : DecodeState) : List Bool :=
  ofBytes state.out ++ lowBits state.bits (toWord state.value).toNat

/--
One symbol adds its five bits to those that were read, although the accumulator
has long dropped the first ones.
-/
theorem decodeStep_read
    {state : DecodeState}
    {idx : Nat}
    (pending : state.bits < 8)
    (group : idx < 32) :
    (decodeStep state idx).bits < 8 ∧
      (decodeStep state idx).read = state.read ++ lowBits 5 idx := by
  have pushed :
      lowBits (state.bits + 5)
          (toWord (bitOr (shiftLeft state.value 5) idx)).toNat =
        lowBits state.bits (toWord state.value).toNat ++ lowBits 5 idx :=
    lowBits_shiftIn group (by omega) (by omega) state.value
  unfold decodeStep
  simp only []
  split
  · rename_i enough
    refine ⟨by simp only []; omega, ?_⟩
    have split := lowBits_add 8 (state.bits + 5 - 8)
      (toWord (bitOr (shiftLeft state.value 5) idx)).toNat
    rw [Nat.add_sub_cancel' enough, pushed] at split
    have octet :
        UInt8.ofInt
            (bitAnd
              (unsignedShiftRight (bitOr (shiftLeft state.value 5) idx)
                (state.bits + 5 - 8)) 0xff) =
          UInt8.ofNat
            ((toWord (bitOr (shiftLeft state.value 5) idx)).toNat >>>
              (state.bits + 5 - 8)) := by
      rw [bitAnd_unsignedShiftRight (by omega)]
      apply UInt8.toNat_inj.mp
      simp only [UInt8.ofInt, UInt8.toNat_ofNat']
      omega
    simp only [DecodeState.read, ofBytes_append, ofBytes_cons, ofBytes_nil,
      octet, lowBits_ofNat, List.append_nil, List.append_assoc]
    rw [split]
  · refine ⟨by simp only []; omega, ?_⟩
    simp only [DecodeState.read, pushed, List.append_assoc]

/-- The octets after the loop, and less than one octet more, are what was read. -/
theorem decodeSymbols_read
    {state : DecodeState}
    {text : List Char}
    {quintets : List Nat}
    (pending : state.bits < 8)
    (symbols : text.mapM Base32.value = some quintets)
    (groups : ∀ quintet ∈ quintets, quintet < 32) :
    ∃ out rest,
      decodeSymbols state text = some out ∧
      rest.length < 8 ∧
      ofBytes out ++ rest = state.read ++ Base32.ofGroups quintets := by
  induction text generalizing state quintets with
  | nil =>
      cases symbols
      exact ⟨state.out, lowBits state.bits (toWord state.value).toNat, rfl,
        by rw [length_lowBits]; exact pending, by simp [DecodeState.read]⟩
  | cons ch rest inductionHypothesis =>
      rw [List.mapM_cons] at symbols
      cases first : Base32.value ch with
      | none =>
          rw [first] at symbols
          cases symbols
      | some idx =>
          cases later : rest.mapM Base32.value with
          | none =>
              rw [first, later] at symbols
              cases symbols
          | some others =>
              rw [first, later] at symbols
              cases symbols
              obtain ⟨still, read⟩ :=
                decodeStep_read pending (groups idx List.mem_cons_self)
              obtain ⟨out, unread, decoded, few, bits⟩ :=
                inductionHypothesis still later fun quintet member =>
                  groups quintet (List.mem_cons_of_mem _ member)
              refine ⟨out, unread, ?_, few, ?_⟩
              · rw [decodeSymbols, first]
                exact decoded
              · rw [bits, read, Base32.ofGroups_cons, List.append_assoc]

/-- Only symbols are decoded. -/
theorem decodeSymbols_eq_none
    {state : DecodeState}
    {text : List Char}
    (other : text.mapM Base32.value = none) :
    decodeSymbols state text = none := by
  induction text generalizing state with
  | nil =>
      cases other
  | cons ch rest inductionHypothesis =>
      rw [List.mapM_cons] at other
      rw [decodeSymbols]
      cases first : Base32.value ch with
      | none =>
          rfl
      | some idx =>
          cases later : rest.mapM Base32.value with
          | none =>
              exact inductionHypothesis later
          | some others =>
              rw [first, later] at other
              cases other

/-- What `base32Decode` returns for a text of symbols. -/
theorem base32Decode_symbols
    {letters : UpperCase}
    {s : String}
    {quintets : List Nat}
    (nonempty : quintets ≠ [])
    (symbols :
      (cleanSecret letters s).mapM Base32.value = some quintets) :
    ∃ out rest,
      base32Decode letters s = some out ∧
      rest.length < 8 ∧
      ofBytes out ++ rest = Base32.ofGroups quintets := by
  obtain ⟨out, rest, decoded, few, bits⟩ :=
    @decodeSymbols_read .initial _ _ (by decide) symbols
      (Base32.lt_of_mapM_value symbols)
  refine ⟨out, rest, ?_, few, bits⟩
  have some : cleanSecret letters s ≠ [] := by
    intro empty
    rw [empty] at symbols
    cases symbols
    exact nonempty rfl
  rw [base32Decode, if_neg some]
  exact decoded

/-- A text with another character is refused. -/
theorem base32Decode_eq_none
    {letters : UpperCase}
    {s : String}
    (other : (cleanSecret letters s).mapM Base32.value = none) :
    base32Decode letters s = none := by
  unfold base32Decode
  simp only [decodeSymbols_eq_none other, ite_self]

/-- Octets are decoded from the symbols that spell them. -/
theorem base32Decode_encodeChars
    {letters : UpperCase}
    {s : String}
    {bytes : Bytes}
    (nonempty : bytes ≠ [])
    (spelled : cleanSecret letters s = Base32.encodeChars bytes) :
    base32Decode letters s = some bytes := by
  obtain ⟨small, -⟩ := Base32.ofGroups_groups (ofBytes bytes)
  obtain ⟨zeros, few, filled⟩ := Base32.ofGroups_groups_ofBytes bytes
  have positive := List.length_pos_iff.mpr nonempty
  have lengths := congrArg List.length filled
  simp only [Base32.length_ofGroups, List.length_append, length_ofBytes,
    List.length_replicate] at lengths
  have some : Base32.groups (ofBytes bytes) ≠ [] := by
    intro empty
    rw [empty, List.length_nil] at lengths
    omega
  have symbols :
      (cleanSecret letters s).mapM Base32.value =
        Option.some (Base32.groups (ofBytes bytes)) := by
    rw [spelled, Base32.encodeChars, Base32.mapM_value_symbol small]
  obtain ⟨out, rest, decoded, less, bits⟩ := base32Decode_symbols some symbols
  rw [filled] at bits
  have sizes := congrArg List.length bits
  simp only [List.length_append, length_ofBytes,
    List.length_replicate] at sizes
  rw [decoded, eq_of_ofBytes_append (by omega) bits]

/-!
## Spellings of a secret
-/

/-- `[\s-]` -/
def isSeparator (ch : Char) : Bool :=
  Identifier.isJsSpace ch || ch = '-'

/-- A character that a secret is spelled with in either letter case. -/
structure Plain (symbol : Char) : Prop where
  ascii : symbol.toNat < 128
  upper : symbol.toUpper = symbol
  asciiLower : symbol.toLower.toNat < 128
  upperLower : symbol.toLower.toUpper = symbol
  kept : isSeparator symbol = false

/-- The symbols are plain. -/
theorem plain_symbol {group : Nat} (bounded : group < 32) :
    Plain (Base32.symbol group) := by
  have checked :
      ∀ group, group < 32 →
        (Base32.symbol group).toNat < 128 ∧
          (Base32.symbol group).toUpper = Base32.symbol group ∧
          (Base32.symbol group).toLower.toNat < 128 ∧
          (Base32.symbol group).toLower.toUpper = Base32.symbol group ∧
          isSeparator (Base32.symbol group) = false := by
    decide
  obtain ⟨ascii, upper, asciiLower, upperLower, kept⟩ := checked group bounded
  exact ⟨ascii, upper, asciiLower, upperLower, kept⟩

/-- The padding is plain. -/
theorem plain_padding : Plain '=' :=
  ⟨by decide, by decide, by decide, by decide, by decide⟩

/-- Upper-casing and removing the separators leaves the symbols of a text. -/
theorem filter_of_spells
    {separator : Char → Bool}
    {letters : UpperCase}
    (removed :
      ∀ ch, separator ch = true →
        letters.upper ch = [ch] ∧ isSeparator ch = true)
    {text symbols : List Char}
    (spelled : Base32.Spells separator text symbols)
    (plain : ∀ symbol ∈ symbols, Plain symbol) :
    (text.flatMap letters.upper).filter (fun ch => !isSeparator ch) =
      symbols := by
  induction spelled with
  | nil =>
      rfl
  | separator separates rest inductionHypothesis =>
      obtain ⟨single, isRemoved⟩ := removed _ separates
      rw [List.flatMap_cons, single, List.filter_append,
        inductionHypothesis plain]
      simp [isRemoved]
  | @symbol character symbol text symbols cased rest inductionHypothesis =>
      have isPlain := plain symbol List.mem_cons_self
      have upper : letters.upper character = [symbol] := by
        rcases cased with same | lower
        · rw [same, letters.ascii _ isPlain.ascii, isPlain.upper]
        · rw [lower, letters.ascii _ isPlain.asciiLower, isPlain.upperLower]
      rw [List.flatMap_cons, upper, List.filter_append,
        inductionHypothesis fun later member =>
          plain later (List.mem_cons_of_mem _ member)]
      simp [isPlain.kept]

/-- Padding is taken off a text that does not end in it. -/
theorem rdropWhile_padding (bytes : Bytes) (count : Nat) :
    (Base32.encodeChars bytes ++ List.replicate count '=').rdropWhile
        (fun ch => ch = '=') =
      Base32.encodeChars bytes := by
  induction count with
  | zero =>
      rw [List.replicate_zero, List.append_nil, List.rdropWhile_eq_self_iff]
      intro nonempty
      obtain ⟨group, bounded, spelled⟩ :=
        Base32.mem_encodeChars (List.getLast_mem nonempty)
      have noPadding :
          ∀ group, group < 32 → Base32.symbol group ≠ '=' := by
        decide
      simp [← spelled, noPadding group bounded]
  | succ count inductionHypothesis =>
      rw [List.replicate_succ', ← List.append_assoc,
        List.rdropWhile_concat_pos _ _ _ (by simp)]
      exact inductionHypothesis

/-- What is decoded of a spelled secret is the encoding itself. -/
theorem cleanSecret_of_spells
    {separator : Char → Bool}
    {letters : UpperCase}
    (removed :
      ∀ ch, separator ch = true →
        letters.upper ch = [ch] ∧ isSeparator ch = true)
    {bytes : Bytes}
    {count : Nat}
    {s : String}
    (spelled :
      Base32.Spells separator s.toList
        (Base32.encodeChars bytes ++ List.replicate count '=')) :
    cleanSecret letters s = Base32.encodeChars bytes := by
  have plain :
      ∀ symbol ∈ Base32.encodeChars bytes ++ List.replicate count '=',
        Plain symbol := by
    intro symbol member
    rcases List.mem_append.mp member with inEncoding | inPadding
    · obtain ⟨group, bounded, rfl⟩ := Base32.mem_encodeChars inEncoding
      exact plain_symbol bounded
    · rw [List.eq_of_mem_replicate inPadding]
      exact plain_padding
  have clean := filter_of_spells removed spelled plain
  unfold isSeparator at clean
  rw [cleanSecret, clean, rdropWhile_padding]

/-- An upper-case mapping for which white space has no letter case. -/
structure SpacedUpperCase extends UpperCase where
  space :
    ∀ symbol : Char, Identifier.isJsSpace symbol = true →
      upper symbol = [symbol]

/-- The mapping of the ASCII letters leaves white space alone. -/
def asciiSpacedUpperCase : SpacedUpperCase where
  toUpperCase := asciiUpperCase
  space symbol isSpace := by
    have noLetter : symbol.toNat < 97 ∨ 122 < symbol.toNat := by
      simp only [Identifier.isJsSpace, List.mem_cons, List.not_mem_nil,
        or_false, Bool.or_eq_true, decide_eq_true_eq, Bool.and_eq_true]
        at isSpace
      omega
    have outside : ¬ ('a'.val ≤ symbol.val ∧ symbol.val ≤ 'z'.val) := by
      rw [UInt32.le_iff_toNat_le, UInt32.le_iff_toNat_le]
      change ¬ (97 ≤ symbol.toNat ∧ symbol.toNat ≤ 122)
      omega
    have same : symbol.toUpper = symbol :=
      dif_neg outside
    exact congrArg (fun upper => [upper]) same

/--
Every spelling of an encoding is decoded to the octets that were encoded: with
the standard padding or without it, in either case of each letter, and with white
space and dashes anywhere.
-/
theorem base32_decode_inverts
    (letters : SpacedUpperCase)
    {bytes : Bytes}
    (nonempty : bytes ≠ [])
    {encoded : List Char}
    (standard :
      encoded = Base32.encodeChars bytes ∨
        encoded = Base32.paddedChars bytes)
    {s : String}
    (spelled : Base32.Spells isSeparator s.toList encoded) :
    base32Decode letters.toUpperCase s = some bytes := by
  have removed :
      ∀ ch, isSeparator ch = true →
        letters.upper ch = [ch] ∧ isSeparator ch = true := by
    intro ch separates
    refine ⟨?_, separates⟩
    rcases Bool.or_eq_true_iff.mp separates with isSpace | isDash
    · exact letters.space ch isSpace
    · rw [of_decide_eq_true isDash]
      exact letters.ascii '-' (by decide)
  have padded :
      ∃ count,
        encoded = Base32.encodeChars bytes ++ List.replicate count '=' := by
    rcases standard with bare | withPadding
    · exact ⟨0, by rw [bare, List.replicate_zero, List.append_nil]⟩
    · exact ⟨_, withPadding⟩
  obtain ⟨count, shape⟩ := padded
  rw [shape] at spelled
  exact base32Decode_encodeChars nonempty (cleanSecret_of_spells removed spelled)

/-- Two spellings of the same octets. -/
theorem base32_decode_inverts_spellings :
    base32Decode asciiUpperCase "mzxw 6YTB-oi" =
        some [102, 111, 111, 98, 97, 114] ∧
      base32Decode asciiUpperCase "MZxw-6ytboi= =====" =
        some [102, 111, 111, 98, 97, 114] := by
  have bare :
      Base32.Spells isSeparator "mzxw 6YTB-oi".toList
        (Base32.encodeChars [102, 111, 111, 98, 97, 114]) := by
    have encoded :
        Base32.encodeChars [102, 111, 111, 98, 97, 114] =
          ['M', 'Z', 'X', 'W', '6', 'Y', 'T', 'B', 'O', 'I'] := by
      decide
    rw [encoded]
    repeat first
      | exact .nil
      | apply Base32.Spells.symbol (by decide)
      | apply Base32.Spells.separator (by decide)
  have padded :
      Base32.Spells isSeparator "MZxw-6ytboi= =====".toList
        (Base32.paddedChars [102, 111, 111, 98, 97, 114]) := by
    have encoded :
        Base32.paddedChars [102, 111, 111, 98, 97, 114] =
          ['M', 'Z', 'X', 'W', '6', 'Y', 'T', 'B', 'O', 'I', '=', '=', '=',
            '=', '=', '='] := by
      decide
    rw [encoded]
    repeat first
      | exact .nil
      | apply Base32.Spells.symbol (by decide)
      | apply Base32.Spells.separator (by decide)
  exact
    ⟨base32_decode_inverts asciiSpacedUpperCase (by decide) (Or.inl rfl) bare,
      base32_decode_inverts asciiSpacedUpperCase (by decide) (Or.inr rfl)
        padded⟩

end Passwd.Totp
