import Mathlib.Data.List.Basic

namespace Passwd.Base64

/-!
# Base64 text

Octets are regrouped into sextets, sextets are spelled by an alphabet, and the
text may be padded to whole quanta of four characters.  The decoders differ
only in the characters they skip and in the padding they ask for; the octet
regrouping and the alphabets are shared.
-/

/-- An octet sequence. -/
abbrev Bytes := List UInt8

/-!
## Regrouping octets
-/

/-- Sextets of an octet sequence; a partial last sextet is filled with zeros. -/
def toSextets : Bytes → List Nat
  | [] => []
  | [first] => [first.toNat / 4, first.toNat % 4 * 16]
  | [first, second] =>
      [first.toNat / 4, first.toNat % 4 * 16 + second.toNat / 16,
        second.toNat % 16 * 4]
  | first :: second :: third :: rest =>
      first.toNat / 4 :: (first.toNat % 4 * 16 + second.toNat / 16) ::
        (second.toNat % 16 * 4 + third.toNat / 64) :: third.toNat % 64 ::
          toSextets rest

/--
Octets of a sextet sequence.  Bits left over in the last sextet are dropped; a
single left-over sextet holds no octet and is refused.
-/
def ofSextets : List Nat → Option Bytes
  | [] => some []
  | [_] => none
  | [first, second] => some [UInt8.ofNat (first * 4 + second / 16)]
  | [first, second, third] =>
      some [UInt8.ofNat (first * 4 + second / 16),
        UInt8.ofNat (second % 16 * 16 + third / 4)]
  | first :: second :: third :: fourth :: rest =>
      (ofSextets rest).map fun bytes =>
        UInt8.ofNat (first * 4 + second / 16) ::
          UInt8.ofNat (second % 16 * 16 + third / 4) ::
            UInt8.ofNat (third % 4 * 64 + fourth) :: bytes

/-- An octet is determined by its value. -/
private theorem ofNat_eq_of_toNat
    {byte : UInt8}
    {value : Nat}
    (same : value = byte.toNat) :
    UInt8.ofNat value = byte := by
  rw [same]
  exact UInt8.ofNat_toNat

/-- Regrouping into sextets loses nothing. -/
theorem ofSextets_toSextets (bytes : Bytes) :
    ofSextets (toSextets bytes) = some bytes := by
  induction bytes using toSextets.induct with
  | case1 =>
      rfl
  | case2 first =>
      have head :
          UInt8.ofNat (first.toNat / 4 * 4 + first.toNat % 4 * 16 / 16) =
            first :=
        ofNat_eq_of_toNat (by omega)
      simp only [toSextets, ofSextets, head]
  | case3 first second =>
      have bound := second.toNat_lt
      have head :
          UInt8.ofNat
              (first.toNat / 4 * 4 +
                (first.toNat % 4 * 16 + second.toNat / 16) / 16) =
            first :=
        ofNat_eq_of_toNat (by omega)
      have last :
          UInt8.ofNat
              ((first.toNat % 4 * 16 + second.toNat / 16) % 16 * 16 +
                second.toNat % 16 * 4 / 4) =
            second :=
        ofNat_eq_of_toNat (by omega)
      simp only [toSextets, ofSextets, head, last]
  | case4 first second third rest inductionHypothesis =>
      have secondBound := second.toNat_lt
      have thirdBound := third.toNat_lt
      have head :
          UInt8.ofNat
              (first.toNat / 4 * 4 +
                (first.toNat % 4 * 16 + second.toNat / 16) / 16) =
            first :=
        ofNat_eq_of_toNat (by omega)
      have middle :
          UInt8.ofNat
              ((first.toNat % 4 * 16 + second.toNat / 16) % 16 * 16 +
                (second.toNat % 16 * 4 + third.toNat / 64) / 4) =
            second :=
        ofNat_eq_of_toNat (by omega)
      have last :
          UInt8.ofNat
              ((second.toNat % 16 * 4 + third.toNat / 64) % 4 * 64 +
                third.toNat % 64) =
            third :=
        ofNat_eq_of_toNat (by omega)
      simp only [toSextets, ofSextets, inductionHypothesis, Option.map_some,
        head, middle, last]

/-- Every sextet of an octet sequence is below 64. -/
theorem toSextets_lt
    {bytes : Bytes}
    {sextet : Nat}
    (member : sextet ∈ toSextets bytes) :
    sextet < 64 := by
  induction bytes using toSextets.induct with
  | case1 =>
      simp [toSextets] at member
  | case2 first =>
      have bound := first.toNat_lt
      simp only [toSextets, List.mem_cons, List.not_mem_nil, or_false]
        at member
      omega
  | case3 first second =>
      have firstBound := first.toNat_lt
      have secondBound := second.toNat_lt
      simp only [toSextets, List.mem_cons, List.not_mem_nil, or_false]
        at member
      omega
  | case4 first second third rest inductionHypothesis =>
      have firstBound := first.toNat_lt
      have secondBound := second.toNat_lt
      have thirdBound := third.toNat_lt
      simp only [toSextets, List.mem_cons] at member
      rcases member with isFirst | isSecond | isThird | isFourth | inRest
      · omega
      · omega
      · omega
      · omega
      · exact inductionHypothesis inRest

/-- A sextet sequence never ends in a quantum of one sextet. -/
theorem toSextets_length_mod (bytes : Bytes) :
    (toSextets bytes).length % 4 ≠ 1 := by
  induction bytes using toSextets.induct with
  | case1 => simp [toSextets]
  | case2 first => simp [toSextets]
  | case3 first second => simp [toSextets]
  | case4 first second third rest inductionHypothesis =>
      simp only [toSextets, List.length_cons]
      omega

/-- Three octets are four sextets, and what is left over is rounded up. -/
theorem toSextets_length (bytes : Bytes) :
    (toSextets bytes).length = bytes.length + (bytes.length + 2) / 3 := by
  induction bytes using toSextets.induct with
  | case1 => simp [toSextets]
  | case2 first => simp [toSextets]
  | case3 first second => simp [toSextets]
  | case4 first second third rest inductionHypothesis =>
      simp only [toSextets, List.length_cons, inductionHypothesis]
      omega

/-!
## Alphabets
-/

/-- A spelling of the sextets; the padding character spells none of them. -/
structure Alphabet where
  symbol : Nat → Char
  value : Char → Option Nat
  value_symbol : ∀ sextet, sextet < 64 → value (symbol sextet) = some sextet
  value_padding : value '=' = none

/-- The symbols shared by the two alphabets, and the last two of each. -/
def symbolWith (plus slash : Char) (sextet : Nat) : Char :=
  if sextet < 26 then Char.ofNat (sextet + 65)
  else if sextet < 52 then Char.ofNat (sextet + 71)
  else if sextet < 62 then Char.ofNat (sextet - 4)
  else if sextet = 62 then plus
  else slash

/-- The sextet a character spells, given the last two symbols. -/
def valueWith (plus slash : Char) (symbol : Char) : Option Nat :=
  if 65 ≤ symbol.toNat ∧ symbol.toNat ≤ 90 then some (symbol.toNat - 65)
  else if 97 ≤ symbol.toNat ∧ symbol.toNat ≤ 122 then
    some (symbol.toNat - 71)
  else if 48 ≤ symbol.toNat ∧ symbol.toNat ≤ 57 then
    some (symbol.toNat + 4)
  else if symbol = plus then some 62
  else if symbol = slash then some 63
  else none

/-- The alphabet with `+` and `/`. -/
def standard : Alphabet where
  symbol := symbolWith '+' '/'
  value := valueWith '+' '/'
  value_symbol := by decide
  value_padding := by decide

/-- The alphabet with `-` and `_`, for use in addresses. -/
def urlSafe : Alphabet where
  symbol := symbolWith '-' '_'
  value := valueWith '-' '_'
  value_symbol := by decide
  value_padding := by decide

/-!
## Encoding and decoding
-/

/-- Whether a text is padded to whole quanta. -/
inductive Padding where
  | padded
  | raw
  deriving Repr, DecidableEq

/-- Spell an octet sequence. -/
def encodeChars
    (alphabet : Alphabet)
    (padding : Padding)
    (bytes : Bytes) : List Char :=
  let body := (toSextets bytes).map alphabet.symbol
  match padding with
  | .raw => body
  | .padded => body ++ List.replicate ((4 - body.length % 4) % 4) '='

/-- Spell an octet sequence as a string. -/
def encode
    (alphabet : Alphabet)
    (padding : Padding)
    (bytes : Bytes) : String :=
  String.ofList (encodeChars alphabet padding bytes)

/-- Read the sextets of a text without padding. -/
def decodeBody (alphabet : Alphabet) (text : List Char) : Option Bytes :=
  (text.mapM alphabet.value).bind ofSextets

/-- Remove up to two padding characters from the end. -/
def dropPadding (text : List Char) : List Char :=
  match text.reverse with
  | '=' :: '=' :: rest => rest.reverse
  | '=' :: rest => rest.reverse
  | _ => text

/-- Decode a text in which every quantum must be complete. -/
def decodePadded
    (alphabet : Alphabet)
    (skipped : Char → Bool)
    (text : List Char) : Option Bytes :=
  let kept := text.filter fun symbol => !skipped symbol
  if kept.length % 4 = 0 then
    decodeBody alphabet (dropPadding kept)
  else
    none

/-- Decode a text in which no padding may occur. -/
def decodeRaw
    (alphabet : Alphabet)
    (skipped : Char → Bool)
    (text : List Char) : Option Bytes :=
  decodeBody alphabet (text.filter fun symbol => !skipped symbol)

/-- Decode a text whose last quantum may be padded or left incomplete. -/
def decodeForgiving
    (alphabet : Alphabet)
    (skipped : Char → Bool)
    (text : List Char) : Option Bytes :=
  let kept := text.filter fun symbol => !skipped symbol
  if kept.length % 4 = 0 then
    decodeBody alphabet (dropPadding kept)
  else
    decodeBody alphabet kept

section RoundTrip

variable {alphabet : Alphabet} {skipped : Char → Bool}

/-- The characters of an encoding: spelled sextets and padding. -/
theorem mem_encodeChars
    {padding : Padding}
    {bytes : Bytes}
    {symbol : Char}
    (member : symbol ∈ encodeChars alphabet padding bytes) :
    symbol = '=' ∨ ∃ sextet, sextet < 64 ∧ alphabet.symbol sextet = symbol := by
  have body
      (inBody : symbol ∈ (toSextets bytes).map alphabet.symbol) :
      ∃ sextet, sextet < 64 ∧ alphabet.symbol sextet = symbol := by
    obtain ⟨sextet, inSextets, spelled⟩ := List.mem_map.mp inBody
    exact ⟨sextet, toSextets_lt inSextets, spelled⟩
  cases padding with
  | raw =>
      exact Or.inr (body member)
  | padded =>
      rcases List.mem_append.mp member with inBody | inPadding
      · exact Or.inr (body inBody)
      · exact Or.inl (List.eq_of_mem_replicate inPadding)

/-- What is neither the padding nor a symbol is in no encoding. -/
theorem not_mem_encode
    {mark : Char}
    (notPadding : mark ≠ '=')
    (notSymbol : ∀ sextet, sextet < 64 → alphabet.symbol sextet ≠ mark)
    (padding : Padding)
    (bytes : Bytes) :
    mark ∉ (encode alphabet padding bytes).toList := by
  intro member
  rw [encode, String.toList_ofList] at member
  rcases mem_encodeChars member with isPadding | ⟨sextet, bounded, spelled⟩
  · exact notPadding isPadding
  · exact notSymbol sextet bounded spelled

/-- Reading spelled sextets gives the sextets back. -/
private theorem mapM_value_symbol
    {sextets : List Nat}
    (bounded : ∀ sextet ∈ sextets, sextet < 64) :
    (sextets.map alphabet.symbol).mapM alphabet.value = some sextets := by
  induction sextets with
  | nil =>
      rfl
  | cons sextet rest inductionHypothesis =>
      have head := alphabet.value_symbol sextet (bounded sextet (by simp))
      have tail := inductionHypothesis
        (fun later member => bounded later (by simp [member]))
      simp [List.mapM_cons, head, tail]

/-- Decoding spelled sextets gives the octets back. -/
theorem decodeBody_symbols (bytes : Bytes) :
    decodeBody alphabet ((toSextets bytes).map alphabet.symbol) =
      some bytes := by
  unfold decodeBody
  rw [mapM_value_symbol fun sextet member => toSextets_lt member]
  exact ofSextets_toSextets bytes

/-- A spelled sextet is not the padding character. -/
private theorem symbol_ne_padding
    {sextet : Nat}
    (bounded : sextet < 64) :
    alphabet.symbol sextet ≠ '=' := by
  intro isPadding
  have read := alphabet.value_symbol sextet bounded
  rw [isPadding, alphabet.value_padding] at read
  cases read

/-- Removing the padding of an encoding leaves its spelled sextets. -/
private theorem dropPadding_append
    {body : List Char}
    {count : Nat}
    (plain : ∀ symbol ∈ body, symbol ≠ '=')
    (few : count ≤ 2) :
    dropPadding (body ++ List.replicate count '=') = body := by
  have unpadded : dropPadding body = body := by
    unfold dropPadding
    cases shape : body.reverse with
    | nil => rfl
    | cons last rest =>
        have lastPlain : last ≠ '=' :=
          plain last (by
            rw [← List.mem_reverse, shape]
            simp)
        split
        · rename_i same
          cases same
          exact (lastPlain rfl).elim
        · rename_i same
          cases same
          exact (lastPlain rfl).elim
        · rfl
  match count, few with
  | 0, _ => simpa using unpadded
  | 1, _ =>
      unfold dropPadding
      cases shape : body.reverse with
      | nil =>
          have isNil := List.reverse_eq_nil_iff.mp shape
          subst body
          rfl
      | cons last rest =>
          have lastPlain : last ≠ '=' :=
            plain last (by
              rw [← List.mem_reverse, shape]
              simp)
          have bodyShape : body = rest.reverse ++ [last] := by
            rw [← List.reverse_reverse body, shape]
            simp
          subst body
          simp only [List.replicate, List.append_assoc, List.reverse_append,
            List.reverse_cons, List.reverse_nil, List.nil_append,
            List.cons_append, List.reverse_reverse]
          split
          · rename_i same
            cases same
            exact (lastPlain rfl).elim
          · rename_i _ same
            cases same
            simp
          · rename_i _ notOne
            exact (notOne (last :: rest) rfl).elim
  | 2, _ =>
      simp [dropPadding, List.replicate]

/-- Skipping touches no character of an encoding that it must not touch. -/
private theorem filter_encodeChars
    {padding : Padding}
    {bytes : Bytes}
    (keepsPadding : skipped '=' = false)
    (keepsSymbols :
      ∀ sextet, sextet < 64 → skipped (alphabet.symbol sextet) = false) :
    (encodeChars alphabet padding bytes).filter
        (fun symbol => !skipped symbol) =
      encodeChars alphabet padding bytes := by
  apply List.filter_eq_self.mpr
  intro symbol member
  rcases mem_encodeChars member with isPadding | ⟨sextet, bounded, spelled⟩
  · simp [isPadding, keepsPadding]
  · simp [← spelled, keepsSymbols sextet bounded]

/-- A padded encoding has whole quanta only. -/
private theorem encodeChars_padded_length (bytes : Bytes) :
    (encodeChars alphabet .padded bytes).length % 4 = 0 := by
  simp only [encodeChars, List.length_append, List.length_map,
    List.length_replicate]
  omega

/-- The length of a padded encoding depends on that of the octets. -/
theorem length_encode_padded (alphabet : Alphabet) (bytes : Bytes) :
    (encode alphabet .padded bytes).length = (bytes.length + 2) / 3 * 4 := by
  simp only [encode, encodeChars, String.length_ofList, List.length_append,
    List.length_map, List.length_replicate, toSextets_length]
  omega

/-- The padding of a padded encoding can be removed. -/
private theorem dropPadding_encodeChars (bytes : Bytes) :
    dropPadding (encodeChars alphabet .padded bytes) =
      (toSextets bytes).map alphabet.symbol := by
  have few :
      (4 - ((toSextets bytes).map alphabet.symbol).length % 4) % 4 ≤ 2 := by
    have notOne := toSextets_length_mod bytes
    rw [List.length_map]
    omega
  refine dropPadding_append ?_ few
  intro symbol member
  obtain ⟨sextet, inSextets, spelled⟩ := List.mem_map.mp member
  rw [← spelled]
  exact symbol_ne_padding (toSextets_lt inSextets)

/-- Decoding whole quanta inverts padded encoding. -/
theorem decodePadded_encodeChars
    (keepsPadding : skipped '=' = false)
    (keepsSymbols :
      ∀ sextet, sextet < 64 → skipped (alphabet.symbol sextet) = false)
    (bytes : Bytes) :
    decodePadded alphabet skipped (encodeChars alphabet .padded bytes) =
      some bytes := by
  unfold decodePadded
  simp only [filter_encodeChars keepsPadding keepsSymbols,
    encodeChars_padded_length, ↓reduceIte, dropPadding_encodeChars,
    decodeBody_symbols]

/-- Decoding without padding inverts raw encoding. -/
theorem decodeRaw_encodeChars
    (keepsPadding : skipped '=' = false)
    (keepsSymbols :
      ∀ sextet, sextet < 64 → skipped (alphabet.symbol sextet) = false)
    (bytes : Bytes) :
    decodeRaw alphabet skipped (encodeChars alphabet .raw bytes) =
      some bytes := by
  unfold decodeRaw
  rw [filter_encodeChars keepsPadding keepsSymbols]
  exact decodeBody_symbols bytes

/-- Forgiving decoding inverts padded encoding. -/
theorem decodeForgiving_encodeChars
    (keepsPadding : skipped '=' = false)
    (keepsSymbols :
      ∀ sextet, sextet < 64 → skipped (alphabet.symbol sextet) = false)
    (bytes : Bytes) :
    decodeForgiving alphabet skipped (encodeChars alphabet .padded bytes) =
      some bytes := by
  unfold decodeForgiving
  simp only [filter_encodeChars keepsPadding keepsSymbols,
    encodeChars_padded_length, ↓reduceIte, dropPadding_encodeChars,
    decodeBody_symbols]

end RoundTrip

end Passwd.Base64
