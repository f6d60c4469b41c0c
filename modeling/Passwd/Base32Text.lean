import Passwd.BitText

namespace Passwd.Base32

open Base64 Bits

/-!
# Base32 text

The bits of an octet sequence are cut into groups of five, the last of which is
filled up with zeros, and every group is spelled by one symbol.
-/

/-- The symbols, each of which spells its index. -/
def alphabet : List Char :=
  ['A', 'B', 'C', 'D', 'E', 'F', 'G', 'H', 'I', 'J', 'K', 'L', 'M', 'N', 'O',
    'P', 'Q', 'R', 'S', 'T', 'U', 'V', 'W', 'X', 'Y', 'Z', '2', '3', '4', '5',
    '6', '7']

/-- The symbol of a group. -/
def symbol (group : Nat) : Char :=
  alphabet.getD group '='

/-- The group that a symbol spells. -/
def value (symbol : Char) : Option Nat :=
  alphabet.idxOf? symbol

/-- The number that five bits spell. -/
def ofFive (first second third fourth fifth : Bool) : Nat :=
  16 * first.toNat + 8 * second.toNat + 4 * third.toNat + 2 * fourth.toNat +
    fifth.toNat

/-- The groups of a bit sequence. -/
def groups : List Bool → List Nat
  | first :: second :: third :: fourth :: fifth :: rest =>
      ofFive first second third fourth fifth :: groups rest
  | [] => []
  | [first] => [ofFive first false false false false]
  | [first, second] => [ofFive first second false false false]
  | [first, second, third] => [ofFive first second third false false]
  | [first, second, third, fourth] => [ofFive first second third fourth false]

/-- Spell an octet sequence without padding. -/
def encodeChars (bytes : Bytes) : List Char :=
  (groups (ofBytes bytes)).map symbol

/-- Spell an octet sequence as a string without padding. -/
def encode (bytes : Bytes) : String :=
  String.ofList (encodeChars bytes)

/-- The padding that fills the last eight symbols of an encoding up. -/
def padding (bytes : Bytes) : List Char :=
  List.replicate ((8 - (encodeChars bytes).length % 8) % 8) '='

/-- Spell an octet sequence with padding. -/
def paddedChars (bytes : Bytes) : List Char :=
  encodeChars bytes ++ padding bytes

/--
A text that spells another one: each of its symbols in either letter case, with
separators before, between and behind them.
-/
inductive Spells (separator : Char → Bool) : List Char → List Char → Prop where
  | nil : Spells separator [] []
  | separator
      {character : Char}
      {text symbols : List Char}
      (separates : separator character = true)
      (rest : Spells separator text symbols) :
      Spells separator (character :: text) symbols
  | symbol
      {character symbol : Char}
      {text symbols : List Char}
      (cased : character = symbol ∨ character = symbol.toLower)
      (rest : Spells separator text symbols) :
      Spells separator (character :: text) (symbol :: symbols)

/-- A text spells itself. -/
theorem Spells.refl (separator : Char → Bool) (text : List Char) :
    Spells separator text text := by
  induction text with
  | nil =>
      exact .nil
  | cons character rest inductionHypothesis =>
      exact .symbol (Or.inl rfl) inductionHypothesis

/-!
## Decoding eight symbols at a time
-/

/-- The octets of groups, eight groups at a time. -/
def decodeQuanta : List Nat → Bytes
  | d0 :: d1 :: d2 :: d3 :: d4 :: d5 :: d6 :: d7 :: rest =>
      .ofNat (d0 <<< 3 ||| d1 >>> 2) ::
        .ofNat (d1 <<< 6 ||| d2 <<< 1 ||| d3 >>> 4) ::
        .ofNat (d3 <<< 4 ||| d4 >>> 1) ::
        .ofNat (d4 <<< 7 ||| d5 <<< 2 ||| d6 >>> 3) ::
        .ofNat (d6 <<< 5 ||| d7) :: decodeQuanta rest
  | [d0, d1, d2, d3, d4, d5, d6] =>
      [.ofNat (d0 <<< 3 ||| d1 >>> 2),
        .ofNat (d1 <<< 6 ||| d2 <<< 1 ||| d3 >>> 4),
        .ofNat (d3 <<< 4 ||| d4 >>> 1),
        .ofNat (d4 <<< 7 ||| d5 <<< 2 ||| d6 >>> 3)]
  | [d0, d1, d2, d3, d4] =>
      [.ofNat (d0 <<< 3 ||| d1 >>> 2),
        .ofNat (d1 <<< 6 ||| d2 <<< 1 ||| d3 >>> 4),
        .ofNat (d3 <<< 4 ||| d4 >>> 1)]
  | [d0, d1, d2, d3] =>
      [.ofNat (d0 <<< 3 ||| d1 >>> 2),
        .ofNat (d1 <<< 6 ||| d2 <<< 1 ||| d3 >>> 4)]
  | [d0, d1] => [.ofNat (d0 <<< 3 ||| d1 >>> 2)]
  | _ => []

/-- Decode a text in which no padding may occur. -/
def decodeRaw (skipped : Char → Bool) (text : List Char) : Option Bytes :=
  ((text.filter fun symbol => !skipped symbol).mapM value).map decodeQuanta

/-!
## The bits of groups
-/

/-- The bits of groups of five. -/
def ofGroups (quintets : List Nat) : List Bool :=
  quintets.flatMap fun quintet => lowBits 5 quintet

@[simp] theorem ofGroups_nil : ofGroups [] = [] :=
  rfl

@[simp] theorem ofGroups_cons (quintet : Nat) (rest : List Nat) :
    ofGroups (quintet :: rest) = lowBits 5 quintet ++ ofGroups rest :=
  List.flatMap_cons

@[simp] theorem length_ofGroups (quintets : List Nat) :
    (ofGroups quintets).length = 5 * quintets.length := by
  induction quintets with
  | nil =>
      rfl
  | cons quintet rest inductionHypothesis =>
      rw [ofGroups_cons, List.length_append, length_lowBits,
        inductionHypothesis, List.length_cons]
      omega

/-- Five bits spell a number below 32 with these bits. -/
theorem lowBits_ofFive (first second third fourth fifth : Bool) :
    ofFive first second third fourth fifth < 32 ∧
      lowBits 5 (ofFive first second third fourth fifth) =
        [first, second, third, fourth, fifth] := by
  revert first second third fourth fifth
  decide

/-- The groups of a bit sequence spell it, and up to four zeros behind it. -/
theorem ofGroups_groups (bits : List Bool) :
    (∀ quintet ∈ groups bits, quintet < 32) ∧
      ∃ zeros,
        zeros < 5 ∧
        ofGroups (groups bits) = bits ++ List.replicate zeros false := by
  have bounded := fun first second third fourth fifth =>
    (lowBits_ofFive first second third fourth fifth).1
  have bitsOf := fun first second third fourth fifth =>
    (lowBits_ofFive first second third fourth fifth).2
  fun_induction groups bits with
  | case1 first second third fourth fifth rest inductionHypothesis =>
      obtain ⟨small, zeros, few, spelled⟩ := inductionHypothesis
      constructor
      · intro quintet member
        rcases List.mem_cons.mp member with rfl | later
        · exact bounded _ _ _ _ _
        · exact small quintet later
      · refine ⟨zeros, few, ?_⟩
        rw [ofGroups_cons, bitsOf, spelled]
        rfl
  | case2 =>
      exact ⟨by simp, 0, by omega, rfl⟩
  | case3 first =>
      exact ⟨by simp [bounded], 4, by omega, by simp [bitsOf]⟩
  | case4 first second =>
      exact ⟨by simp [bounded], 3, by omega, by simp [bitsOf]⟩
  | case5 first second third =>
      exact ⟨by simp [bounded], 2, by omega, by simp [bitsOf]⟩
  | case6 first second third fourth =>
      exact ⟨by simp [bounded], 1, by omega, by simp [bitsOf]⟩

/-- The groups of an octet sequence fill less than one more group. -/
theorem ofGroups_groups_ofBytes (bytes : Bytes) :
    ∃ zeros,
      zeros < 5 ∧
      ofGroups (groups (ofBytes bytes)) =
        ofBytes bytes ++ List.replicate zeros false :=
  (ofGroups_groups (ofBytes bytes)).2

/-!
## Octets of groups
-/

/-- An octet of the end of one group and the beginning of another. -/
theorem lowBits_pair
    {width count : Nat}
    (whole : width + count = 8)
    {low : Nat}
    (fits : low < 2 ^ count)
    (high : Nat) :
    lowBits 8 (UInt8.ofNat (high <<< count ||| low)).toNat =
      lowBits width high ++ lowBits count low := by
  rw [lowBits_ofNat, ← whole]
  exact lowBits_push fits width high

/-- An octet of a whole group between two others. -/
theorem lowBits_triple
    {width count : Nat}
    (whole : width + 5 + count = 8)
    {middle low : Nat}
    (group : middle < 32)
    (fits : low < 2 ^ count)
    (high : Nat) :
    lowBits 8
        (UInt8.ofNat (high <<< (5 + count) ||| middle <<< count ||| low)).toNat =
      lowBits width high ++ (lowBits 5 middle ++ lowBits count low) := by
  have joined :
      high <<< (5 + count) ||| middle <<< count =
        (high <<< 5 ||| middle) <<< count := by
    rw [Nat.shiftLeft_or_distrib, ← Nat.shiftLeft_add]
  rw [joined, lowBits_pair whole fits, lowBits_push group, List.append_assoc]

/-- Eight groups have the bits of five octets. -/
theorem ofBytes_quantum
    {d0 d1 d2 d3 d4 d5 d6 d7 : Nat}
    (small :
      d1 < 32 ∧ d2 < 32 ∧ d3 < 32 ∧ d4 < 32 ∧ d5 < 32 ∧ d6 < 32 ∧ d7 < 32) :
    ofBytes
        [.ofNat (d0 <<< 3 ||| d1 >>> 2),
          .ofNat (d1 <<< 6 ||| d2 <<< 1 ||| d3 >>> 4),
          .ofNat (d3 <<< 4 ||| d4 >>> 1),
          .ofNat (d4 <<< 7 ||| d5 <<< 2 ||| d6 >>> 3),
          .ofNat (d6 <<< 5 ||| d7)] =
      ofGroups [d0, d1, d2, d3, d4, d5, d6, d7] := by
  obtain ⟨small1, small2, small3, small4, small5, small6, small7⟩ := small
  have shifted {digit : Nat} (bounded : digit < 32) (high low : Nat)
      (whole : high + low = 5) : digit >>> low < 2 ^ high := by
    rw [Nat.shiftRight_eq_div_pow, Nat.div_lt_iff_lt_mul (Nat.two_pow_pos low),
      ← Nat.pow_add, whole]
    exact bounded
  have cut (digit high low : Nat) (whole : high + low = 5) :
      lowBits 5 digit = lowBits high (digit >>> low) ++ lowBits low digit := by
    rw [← whole]
    exact lowBits_add high low digit
  have octet0 :=
    @lowBits_pair 5 3 rfl _ (shifted small1 3 2 rfl) d0
  have octet1 :=
    @lowBits_triple 2 1 rfl _ _ small2
      (shifted small3 1 4 rfl) d1
  have octet2 :=
    @lowBits_pair 4 4 rfl _ (shifted small4 4 1 rfl) d3
  have octet3 :=
    @lowBits_triple 1 2 rfl _ _ small5
      (shifted small6 2 3 rfl) d4
  have octet4 := @lowBits_pair 3 5 rfl _ small7 d6
  simp only [ofBytes_cons, ofBytes_nil, ofGroups_cons, ofGroups_nil,
    octet0, octet1, octet2, octet3, octet4, cut d1 3 2 rfl, cut d3 1 4 rfl,
    cut d4 4 1 rfl, cut d6 2 3 rfl, List.append_assoc, List.append_nil]

/-- Whole quanta are decoded to octets with the same bits. -/
theorem ofBytes_decodeQuanta
    {quanta : Nat}
    {quintets : List Nat}
    (whole : quintets.length = 8 * quanta)
    (small : ∀ quintet ∈ quintets, quintet < 32) :
    ofBytes (decodeQuanta quintets) = ofGroups quintets := by
  induction quanta generalizing quintets with
  | zero =>
      rw [List.eq_nil_of_length_eq_zero whole]
      rfl
  | succ quanta inductionHypothesis =>
      match quintets, whole with
      | d0 :: d1 :: d2 :: d3 :: d4 :: d5 :: d6 :: d7 :: rest, whole =>
          have later :=
            @inductionHypothesis rest
              (by simp only [List.length_cons] at whole; omega)
              (fun quintet member => small quintet (by simp [member]))
          have first :=
            @ofBytes_quantum d0 d1 d2 d3 d4 d5 d6 d7
              ⟨small _ (by simp), small _ (by simp), small _ (by simp),
                small _ (by simp), small _ (by simp), small _ (by simp),
                small _ (by simp)⟩
          simp only [ofBytes_cons, ofGroups_cons, ofBytes_nil, ofGroups_nil,
            List.append_nil] at first
          simp only [decodeQuanta, ofBytes_cons, ofGroups_cons, later]
          simp only [← List.append_assoc] at first ⊢
          rw [first]

/-!
## Decoding what was encoded
-/

/-- A symbol is read back. -/
theorem value_symbol : ∀ group, group < 32 → value (symbol group) = some group := by
  decide

/-- A symbol spells less than 32. -/
theorem value_lt
    {character : Char}
    {group : Nat}
    (spelled : value character = some group) :
    group < 32 := by
  obtain ⟨inside, -⟩ := List.idxOf?_eq_some_iff.mp spelled
  exact inside

/-- Symbols spell groups. -/
theorem lt_of_mapM_value
    {text : List Char}
    {quintets : List Nat}
    (symbols : text.mapM value = some quintets) :
    ∀ quintet ∈ quintets, quintet < 32 := by
  induction text generalizing quintets with
  | nil =>
      cases symbols
      simp
  | cons character rest inductionHypothesis =>
      rw [List.mapM_cons] at symbols
      cases first : value character with
      | none =>
          rw [first] at symbols
          cases symbols
      | some group =>
          cases later : rest.mapM value with
          | none =>
              rw [first, later] at symbols
              cases symbols
          | some others =>
              rw [first, later] at symbols
              cases symbols
              intro quintet member
              rcases List.mem_cons.mp member with rfl | inOthers
              · exact value_lt first
              · exact inductionHypothesis later quintet inOthers

/-- The symbols of groups are read back. -/
theorem mapM_value_symbol
    {quintets : List Nat}
    (small : ∀ quintet ∈ quintets, quintet < 32) :
    (quintets.map symbol).mapM value = some quintets := by
  induction quintets with
  | nil =>
      rfl
  | cons quintet rest inductionHypothesis =>
      have head := value_symbol quintet (small quintet List.mem_cons_self)
      have tail :=
        inductionHypothesis fun later member =>
          small later (List.mem_cons_of_mem _ member)
      rw [List.map_cons, List.mapM_cons, head, tail]
      rfl

/-- The characters of an encoding are symbols. -/
theorem mem_encodeChars
    {bytes : Bytes}
    {character : Char}
    (member : character ∈ encodeChars bytes) :
    ∃ group, group < 32 ∧ symbol group = character := by
  obtain ⟨group, inGroups, spelled⟩ := List.mem_map.mp member
  exact ⟨group, (ofGroups_groups (ofBytes bytes)).1 group inGroups, spelled⟩

/-- Decoding inverts encoding when no group is incomplete. -/
theorem decodeRaw_encodeChars
    {skipped : Char → Bool}
    (keepsSymbols : ∀ group, group < 32 → skipped (symbol group) = false)
    {bytes : Bytes}
    (whole : bytes.length % 5 = 0) :
    decodeRaw skipped (encodeChars bytes) = some bytes := by
  obtain ⟨small, -⟩ := ofGroups_groups (ofBytes bytes)
  obtain ⟨zeros, few, spelled⟩ := ofGroups_groups_ofBytes bytes
  have kept :
      (encodeChars bytes).filter (fun symbol => !skipped symbol) =
        encodeChars bytes := by
    rw [List.filter_eq_self]
    intro character member
    obtain ⟨group, bounded, rfl⟩ := mem_encodeChars member
    rw [keepsSymbols group bounded]
    rfl
  have lengths := congrArg List.length spelled
  simp only [length_ofGroups, List.length_append, length_ofBytes,
    List.length_replicate] at lengths
  have bits :=
    @ofBytes_decodeQuanta (bytes.length / 5) _ (by omega) small
  have sizes := congrArg List.length bits
  simp only [length_ofBytes, length_ofGroups] at sizes
  rw [spelled] at bits
  have same : decodeQuanta (groups (ofBytes bytes)) = bytes := by
    rw [← List.append_nil (ofBytes (decodeQuanta _))] at bits
    exact eq_of_ofBytes_append (by omega) bits
  rw [decodeRaw, kept, encodeChars, mapM_value_symbol small, Option.map_some,
    same]

end Passwd.Base32
