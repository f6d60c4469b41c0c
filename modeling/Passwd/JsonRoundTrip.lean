import Passwd.JsonText

namespace Passwd.Json

/-!
# Reading inverts writing

For every escape style, a well-formed value is read back from its text.  Well
formed means what a program can hold: number literals that follow the grammar
and objects whose keys are distinct.
-/

mutual

/-- Values whose number literals and objects are well formed. -/
def WellFormed : Value → Prop
  | .number literal =>
      validNumber literal.toList = true ∧
        literal.toList.all isNumberChar = true
  | .array items => WellFormedItems items
  | .object members =>
      (members.map Prod.fst).Nodup ∧ WellFormedMembers members
  | _ => True

/-- Every item is well formed. -/
def WellFormedItems : List Value → Prop
  | [] => True
  | item :: rest => WellFormed item ∧ WellFormedItems rest

/-- The value of every member is well formed. -/
def WellFormedMembers : Members → Prop
  | [] => True
  | (_, value) :: rest => WellFormed value ∧ WellFormedMembers rest

end

mutual

/-- The fuel that reading a written value takes. -/
def size : Value → Nat
  | .array (item :: rest) => 1 + size item + sizeItems rest
  | .object ((_, value) :: rest) => 2 + size value + sizeMembers rest
  | _ => 1

/-- The fuel that reading the remaining items takes. -/
def sizeItems : List Value → Nat
  | [] => 1
  | item :: rest => 1 + size item + sizeItems rest

/-- The fuel that reading the remaining members takes. -/
def sizeMembers : Members → Nat
  | [] => 1
  | (_, value) :: rest => 2 + size value + sizeMembers rest

end

/-!
## String literals
-/

/-- Reading a hexadecimal digit gives its value back. -/
private theorem hexValue_hexDigit :
    ∀ value, value < 16 → hexValue (hexDigit value) = some value := by
  decide

/-- Reading a hexadecimal escape gives its code unit back. -/
private theorem hexUnit_digits
    {unit : Nat}
    (basic : unit < 0x10000) :
    hexUnit (hexDigit (unit / 4096 % 16)) (hexDigit (unit / 256 % 16))
        (hexDigit (unit / 16 % 16)) (hexDigit (unit % 16)) =
      some unit := by
  have digit (value : Nat) := hexValue_hexDigit (value % 16) (by omega)
  simp only [hexUnit, digit, Option.some.injEq]
  omega

/-- How a character is read back: as itself or as its escaped code unit. -/
private def Reads (piece : Piece) (symbol : Char) : Prop :=
  piece = .char symbol ∨ piece = .unit symbol.toNat

/-- A two-character escape is read as its character. -/
theorem readPieces_short
    {escape symbol : Char}
    (named : shortEscape escape = some symbol)
    (rest : List Char) :
    readPieces ('\\' :: escape :: rest) =
      (readPieces rest).map fun read => (.char symbol :: read.1, read.2) := by
  have notUnit : escape ≠ 'u' := by
    intro isUnit
    subst escape
    simp [shortEscape] at named
  rw [readPieces.eq_def]
  simp [notUnit, named]

/-- A hexadecimal escape is read as its code unit. -/
private theorem readPieces_hexEscape
    {unit : Nat}
    (basic : unit < 0x10000)
    (rest : List Char) :
    readPieces (hexEscape unit ++ rest) =
      (readPieces rest).map fun read => (.unit unit :: read.1, read.2) := by
  rw [readPieces.eq_def]
  simp [hexEscape, hexUnit_digits basic]

/-- A character that needs no escape is read as itself. -/
theorem readPieces_plain
    {symbol : Char}
    (notQuote : symbol ≠ '"')
    (notBackslash : symbol ≠ '\\')
    (notControl : ¬ symbol.toNat < 32)
    (rest : List Char) :
    readPieces (symbol :: rest) =
      (readPieces rest).map fun read => (.char symbol :: read.1, read.2) := by
  rw [readPieces.eq_def]
  simp [notQuote, notBackslash, notControl]

/-- An escaped character is read as one piece. -/
private theorem readPieces_escapeChar
    (style : EscapeStyle)
    (symbol : Char) :
    ∃ piece, Reads piece symbol ∧
      ∀ rest, readPieces (escapeChar style symbol ++ rest) =
        (readPieces rest).map fun read => (piece :: read.1, read.2) := by
  unfold escapeChar
  split
  · subst symbol
    exact ⟨_, Or.inl rfl, readPieces_short (by decide)⟩
  split
  · subst symbol
    exact ⟨_, Or.inl rfl, readPieces_short (by decide)⟩
  split
  · subst symbol
    exact ⟨_, Or.inl rfl, readPieces_short (by decide)⟩
  split
  · subst symbol
    exact ⟨_, Or.inl rfl, readPieces_short (by decide)⟩
  split
  · subst symbol
    exact ⟨_, Or.inl rfl, readPieces_short (by decide)⟩
  split
  · subst symbol
    exact ⟨_, Or.inl rfl, readPieces_short (by decide)⟩
  split
  · subst symbol
    exact ⟨_, Or.inl rfl, readPieces_short (by decide)⟩
  split
  · rename_i escaped
    have basic : symbol.toNat < 0x10000 := by
      rcases escaped with control | extra
      · omega
      · exact style.extra_basic symbol extra
    exact ⟨_, Or.inr rfl, readPieces_hexEscape basic⟩
  · rename_i notQuote notBackslash _ _ _ _ _ notEscaped
    exact ⟨_, Or.inl rfl,
      readPieces_plain notQuote notBackslash fun control =>
        notEscaped (Or.inl control)⟩

/-- Code units of characters are never surrogates. -/
private theorem unitChar_toNat (symbol : Char) :
    unitChar symbol.toNat = symbol := by
  have valid : symbol.toNat < 0xD800 ∨
      0xDFFF < symbol.toNat ∧ symbol.toNat < 0x110000 :=
    symbol.valid
  have notSurrogate :
      (isHighSurrogate symbol.toNat || isLowSurrogate symbol.toNat) =
        false := by
    simp only [isHighSurrogate, isLowSurrogate, Bool.or_eq_false_iff,
      Bool.and_eq_false_iff, decide_eq_false_iff_not]
    omega
  unfold unitChar
  rw [notSurrogate]
  simp

/-- The code unit of a character starts no surrogate pair. -/
private theorem isHighSurrogate_toNat (symbol : Char) :
    isHighSurrogate symbol.toNat = false := by
  have valid : symbol.toNat < 0xD800 ∨
      0xDFFF < symbol.toNat ∧ symbol.toNat < 0x110000 :=
    symbol.valid
  simp only [isHighSurrogate, Bool.and_eq_false_iff,
    decide_eq_false_iff_not]
  omega

/-- A piece that is read as a character joins to it. -/
private theorem joinPieces_cons
    {piece : Piece}
    {symbol : Char}
    (reads : Reads piece symbol)
    (rest : List Piece) :
    joinPieces (piece :: rest) = symbol :: joinPieces rest := by
  rcases reads with isChar | isUnit
  · subst piece
    rfl
  · subst piece
    cases rest with
    | nil =>
        simp [joinPieces, unitChar_toNat]
    | cons next rest =>
        cases next with
        | char later =>
            simp [joinPieces, unitChar_toNat]
        | unit low =>
            simp [joinPieces, unitChar_toNat, isHighSurrogate_toNat]

/-- The escaped characters of a literal are read back. -/
private theorem readPieces_flatMap
    (style : EscapeStyle)
    (symbols rest : List Char) :
    ∃ pieces,
      readPieces
          (symbols.flatMap (escapeChar style) ++ '"' :: rest) =
        some (pieces, rest) ∧
      joinPieces pieces = symbols := by
  induction symbols with
  | nil =>
      refine ⟨[], ?_, rfl⟩
      rw [readPieces.eq_def]
      simp
  | cons symbol later inductionHypothesis =>
      obtain ⟨pieces, read, joined⟩ := inductionHypothesis
      obtain ⟨piece, reads, step⟩ := readPieces_escapeChar style symbol
      refine ⟨piece :: pieces, ?_, ?_⟩
      · rw [List.flatMap_cons, List.append_assoc, step, read]
        rfl
      · rw [joinPieces_cons reads, joined]

/-- A written string literal is read back. -/
theorem readString_writeString
    (style : EscapeStyle)
    (text : String)
    (rest : List Char) :
    readString
        (text.toList.flatMap (escapeChar style) ++ '"' :: rest) =
      some (text, rest) := by
  obtain ⟨pieces, read, joined⟩ :=
    readPieces_flatMap style text.toList rest
  unfold readString
  rw [read]
  simp [joined]

/-!
## Number literals
-/

/-- What follows a value does not continue a number literal. -/
private def Separated (rest : List Char) : Prop :=
  ∀ symbol tail, rest = symbol :: tail → isNumberChar symbol = false

/-- A valid number literal starts with a character of a number literal. -/
private theorem validNumber_ne_nil
    {text : List Char}
    (valid : validNumber text = true) :
    text ≠ [] := by
  rintro rfl
  revert valid
  decide

/-- A valid number literal is read back. -/
private theorem readNumber_append
    {literal : String}
    {rest : List Char}
    (valid : validNumber literal.toList = true)
    (plain : literal.toList.all isNumberChar = true)
    (separated : Separated rest) :
    readNumber (literal.toList ++ rest) = some (literal, rest) := by
  have everyPlain := List.all_eq_true.mp plain
  have restTaken : rest.takeWhile isNumberChar = [] := by
    cases rest with
    | nil => rfl
    | cons symbol tail => simp [separated symbol tail rfl]
  have restKept : rest.dropWhile isNumberChar = rest := by
    cases rest with
    | nil => rfl
    | cons symbol tail => simp [separated symbol tail rfl]
  unfold readNumber
  simp only [List.takeWhile_append_of_pos everyPlain,
    List.dropWhile_append_of_pos everyPlain, restTaken, restKept,
    List.append_nil, valid, ↓reduceIte, String.ofList_toList]

/-- A character of a number literal starts no other kind of value. -/
private theorem ne_of_isNumberChar
    {symbol other : Char}
    (numeric : isNumberChar symbol = true)
    (notNumeric : isNumberChar other = false) :
    symbol ≠ other := by
  rintro rfl
  rw [numeric] at notNumeric
  cases notNumeric

/-- A character of a number literal is no space. -/
private theorem isSpace_of_isNumberChar
    {symbol : Char}
    (numeric : isNumberChar symbol = true) :
    isSpace symbol = false := by
  simp only [isSpace, Bool.or_eq_false_iff, decide_eq_false_iff_not]
  exact ⟨⟨⟨ne_of_isNumberChar numeric (by decide),
    ne_of_isNumberChar numeric (by decide)⟩,
    ne_of_isNumberChar numeric (by decide)⟩,
    ne_of_isNumberChar numeric (by decide)⟩

/-!
## Values
-/

/-- Nothing is skipped in front of a character that is no space. -/
private theorem skipSpace_cons
    {symbol : Char}
    (notSpace : isSpace symbol = false)
    (rest : List Char) :
    skipSpace (symbol :: rest) = symbol :: rest := by
  simp [skipSpace, notSpace]

/-- Spaces are skipped. -/
private theorem skipSpace_append
    {spaces : List Char}
    (blank : ∀ symbol ∈ spaces, isSpace symbol = true)
    (rest : List Char) :
    skipSpace (spaces ++ rest) = skipSpace rest :=
  List.dropWhile_append_of_pos blank

/-- Spaces in front of a value are skipped. -/
private theorem readValue_append
    {spaces : List Char}
    (blank : ∀ symbol ∈ spaces, isSpace symbol = true)
    (fuel : Nat)
    (rest : List Char) :
    readValue fuel (spaces ++ rest) = readValue fuel rest := by
  cases fuel with
  | zero => simp [readValue]
  | succ fuel => simp only [readValue, skipSpace_append blank]

/-- The text of a value starts with neither space nor a closing bracket. -/
private theorem writeLaidOut_head
    (style : EscapeStyle)
    (layout : Layout)
    (depth : Nat)
    {value : Value}
    (wellFormed : WellFormed value) :
    ∃ symbol tail,
      writeLaidOut style layout depth value = symbol :: tail ∧
        isSpace symbol = false ∧ symbol ≠ ']' := by
  cases value with
  | null => exact ⟨_, _, rfl, by decide, by decide⟩
  | bool flag =>
      cases flag
      · exact ⟨_, _, rfl, by decide, by decide⟩
      · exact ⟨_, _, rfl, by decide, by decide⟩
  | number literal =>
      obtain ⟨valid, plain⟩ := wellFormed
      cases shape : literal.toList with
      | nil => exact (validNumber_ne_nil valid shape).elim
      | cons symbol tail =>
          have numeric : isNumberChar symbol = true := by
            rw [shape] at plain
            exact List.all_eq_true.mp plain symbol (by simp)
          exact ⟨symbol, tail, shape, isSpace_of_isNumberChar numeric,
            ne_of_isNumberChar numeric (by decide)⟩
  | string text => exact ⟨_, _, rfl, by decide, by decide⟩
  | array items =>
      cases items with
      | nil => exact ⟨_, _, rfl, by decide, by decide⟩
      | cons item rest =>
          exact ⟨'[', _, by simp only [writeLaidOut]; rfl, by decide,
            by decide⟩
  | object members =>
      cases members with
      | nil => exact ⟨_, _, rfl, by decide, by decide⟩
      | cons member rest =>
          rcases member with ⟨key, value⟩
          exact ⟨'{', _, by simp only [writeLaidOut]; rfl, by decide,
            by decide⟩

/-- Space and a mark that no number continues with separate a number. -/
private theorem separated_append
    {spaces : List Char}
    (blank : ∀ symbol ∈ spaces, isSpace symbol = true)
    {mark : Char}
    (notNumeric : isNumberChar mark = false)
    (rest : List Char) :
    Separated (spaces ++ mark :: rest) := by
  intro symbol tail shape
  cases spaces with
  | nil =>
      rw [← (List.cons.inj shape).1]
      exact notNumeric
  | cons space later =>
      have isBlank := blank space (by simp)
      rw [(List.cons.inj shape).1] at isBlank
      by_contra numeric
      rw [Bool.not_eq_false] at numeric
      rw [isSpace_of_isNumberChar numeric] at isBlank
      cases isBlank

/-- The items that follow, and the closing bracket, separate a number. -/
private theorem separated_writeItems
    (style : EscapeStyle)
    (layout : Layout)
    (depth : Nat)
    (items : List Value)
    (rest : List Char) :
    Separated (writeItemsLaidOut style layout depth items ++ rest) := by
  cases items with
  | nil =>
      simp only [writeItemsLaidOut, List.append_assoc, List.cons_append]
      exact separated_append (layout.gap_space depth) (by decide) _
  | cons item later =>
      simp only [writeItemsLaidOut, List.cons_append]
      exact separated_append (by simp : ∀ symbol ∈ [], _) (by decide) _

/-- The members that follow, and the closing brace, separate a number. -/
private theorem separated_writeMembers
    (style : EscapeStyle)
    (layout : Layout)
    (depth : Nat)
    (members : Members)
    (rest : List Char) :
    Separated (writeMembersLaidOut style layout depth members ++ rest) := by
  cases members with
  | nil =>
      simp only [writeMembersLaidOut, List.append_assoc, List.cons_append]
      exact separated_append (layout.gap_space depth) (by decide) _
  | cons member later =>
      simp only [writeMembersLaidOut, List.cons_append]
      exact separated_append (by simp : ∀ symbol ∈ [], _) (by decide) _

/-- A separated number is read as its literal. -/
private theorem readValue_number
    {literal : String}
    {fuel : Nat}
    {rest : List Char}
    (wellFormed : WellFormed (.number literal))
    (separated : Separated rest) :
    readValue (fuel + 1) (literal.toList ++ rest) =
      some (.number literal, rest) := by
  obtain ⟨valid, plain⟩ := wellFormed
  have read := readNumber_append valid plain separated
  cases shape : literal.toList with
  | nil => exact (validNumber_ne_nil valid shape).elim
  | cons symbol tail =>
      have numeric : isNumberChar symbol = true := by
        rw [shape] at plain
        exact List.all_eq_true.mp plain symbol (by simp)
      have other (mark : Char)
          (notNumeric : isNumberChar mark = false) :
          symbol ≠ mark :=
        ne_of_isNumberChar numeric notNumeric
      rw [shape] at read
      simp only [List.cons_append] at read
      simp only [List.cons_append, readValue,
        skipSpace_cons (isSpace_of_isNumberChar numeric),
        other '"' (by decide), other '[' (by decide),
        other '{' (by decide), other 'n' (by decide),
        other 't' (by decide), other 'f' (by decide), ↓reduceIte,
        read, Option.map_some]

mutual

/-- A written value is read back, whatever follows it. -/
theorem readValue_write (style : EscapeStyle) (layout : Layout) :
    ∀ (value : Value) (depth fuel : Nat) (rest : List Char),
      size value ≤ fuel →
      WellFormed value →
      Separated rest →
      readValue fuel (writeLaidOut style layout depth value ++ rest) =
        some (value, rest)
  | value, depth, 0, _, enough, _, _ => by
      have positive : 1 ≤ size value := by
        cases value with
        | array items => cases items <;> simp [size]; omega
        | object members => cases members <;> simp [size]; omega
        | _ => simp [size]
      omega
  | .null, depth, fuel + 1, rest, _, _, _ => by
      simp [writeLaidOut, write, readValue, skipSpace, isSpace, expect]
  | .bool true, depth, fuel + 1, rest, _, _, _ => by
      simp [writeLaidOut, write, readValue, skipSpace, isSpace, expect]
  | .bool false, depth, fuel + 1, rest, _, _, _ => by
      simp [writeLaidOut, write, readValue, skipSpace, isSpace, expect]
  | .number literal, depth, fuel + 1, rest, _, wellFormed, separated => by
      simpa only [writeLaidOut, write] using readValue_number wellFormed separated
  | .string text, depth, fuel + 1, rest, _, _, _ => by
      have read := readString_writeString style text rest
      simp [writeLaidOut, write, writeString, readValue, skipSpace, isSpace,
        read]
  | .array [], depth, fuel + 1, rest, _, _, _ => by
      simp [writeLaidOut, write, readValue, skipSpace, isSpace]
  | .array (item :: later), depth, fuel + 1, rest, enough, wellFormed, _ => by
      simp only [size] at enough
      simp only [WellFormed, WellFormedItems] at wellFormed
      have first :=
        readValue_write style layout item (depth + 1) fuel
          (writeItemsLaidOut style layout depth later ++ rest)
          (by omega) wellFormed.1
          (separated_writeItems style layout depth later rest)
      have remaining :=
        readItems_write style layout later depth fuel rest (by omega)
          wellFormed.2
      obtain ⟨symbol, tail, shape, notSpace, notClosing⟩ :=
        writeLaidOut_head style layout (depth + 1) wellFormed.1
      rw [shape] at first
      simp only [List.cons_append] at first
      simp only [writeLaidOut, shape, List.cons_append, List.append_assoc,
        readValue, skipSpace_append (layout.gap_space _),
        skipSpace_cons notSpace,
        skipSpace_cons (show isSpace '[' = false by decide),
        readValue_append (layout.gap_space _)]
      simp [notClosing, first, remaining]
  | .object [], depth, fuel + 1, rest, _, _, _ => by
      simp [writeLaidOut, write, readValue, skipSpace, isSpace]
  | .object ((key, value) :: later), depth, fuel + 1, rest, enough,
      wellFormed, _ => by
      simp only [size] at enough
      simp only [WellFormed, WellFormedMembers] at wellFormed
      have first :=
        readMember_write style layout key value (depth + 1) fuel
          (writeMembersLaidOut style layout depth later ++ rest) (by omega)
          wellFormed.2.1
          (separated_writeMembers style layout depth later rest)
      have remaining :=
        readMembers_write style layout later depth fuel rest (by omega)
          wellFormed.2.2
      have ordered :
          assignAll [] ((key, value) :: later) = (key, value) :: later := by
        exact @assignAll_of_nodup [] ((key, value) :: later) wellFormed.1
      simp only [writeString, List.cons_append, List.append_assoc,
        List.nil_append] at first
      simp only [writeLaidOut, writeString, List.cons_append,
        List.append_assoc, List.nil_append, readValue,
        skipSpace_cons (show isSpace '{' = false by decide),
        skipSpace_append (layout.gap_space _),
        skipSpace_cons (show isSpace '"' = false by decide)]
      simp [first, remaining, ordered]
termination_by _ _ fuel => fuel

/-- Written items are read back up to the closing bracket. -/
theorem readItems_write (style : EscapeStyle) (layout : Layout) :
    ∀ (items : List Value) (depth fuel : Nat) (rest : List Char),
      sizeItems items ≤ fuel →
      WellFormedItems items →
      readItems fuel (writeItemsLaidOut style layout depth items ++ rest) =
        some (items, rest)
  | items, depth, 0, _, enough, _ => by
      cases items <;> simp [sizeItems] at enough
  | [], depth, fuel + 1, rest, _, _ => by
      simp only [writeItemsLaidOut, readItems, List.append_assoc,
        List.cons_append, List.nil_append,
        skipSpace_append (layout.gap_space _),
        skipSpace_cons (show isSpace ']' = false by decide), ↓reduceIte]
  | item :: later, depth, fuel + 1, rest, enough, wellFormed => by
      simp only [sizeItems] at enough
      simp only [WellFormedItems] at wellFormed
      have first :=
        readValue_write style layout item (depth + 1) fuel
          (writeItemsLaidOut style layout depth later ++ rest)
          (by omega) wellFormed.1
          (separated_writeItems style layout depth later rest)
      have remaining :=
        readItems_write style layout later depth fuel rest (by omega)
          wellFormed.2
      simp only [writeItemsLaidOut, readItems, List.cons_append,
        List.append_assoc, skipSpace_cons (show isSpace ',' = false by decide),
        readValue_append (layout.gap_space _), first, remaining]
      simp
termination_by _ _ fuel => fuel

/-- A written member is read back, whatever follows it. -/
theorem readMember_write (style : EscapeStyle) (layout : Layout) :
    ∀ (key : String) (value : Value) (depth fuel : Nat) (rest : List Char),
      1 + size value ≤ fuel →
      WellFormed value →
      Separated rest →
      readMember fuel
          (writeString style key ++
            ':' :: (layout.afterColon ++
              (writeLaidOut style layout depth value ++ rest))) =
        some ((key, value), rest)
  | _, _, _, 0, _, enough, _, _ => by
      omega
  | key, value, depth, fuel + 1, rest, enough, wellFormed, separated => by
      have read :=
        readString_writeString style key
          (':' :: (layout.afterColon ++
            (writeLaidOut style layout depth value ++ rest)))
      have content :=
        readValue_write style layout value depth fuel rest (by omega)
          wellFormed separated
      rw [← readValue_append layout.afterColon_space] at content
      simp [writeString, readMember, read, skipSpace, isSpace, content]
termination_by _ _ _ fuel => fuel

/-- Written members are read back up to the closing brace. -/
theorem readMembers_write (style : EscapeStyle) (layout : Layout) :
    ∀ (members : Members) (depth fuel : Nat) (rest : List Char),
      sizeMembers members ≤ fuel →
      WellFormedMembers members →
      readMembers fuel
          (writeMembersLaidOut style layout depth members ++ rest) =
        some (members, rest)
  | members, depth, 0, _, enough, _ => by
      cases members <;> simp [sizeMembers] at enough
  | [], depth, fuel + 1, rest, _, _ => by
      simp only [writeMembersLaidOut, readMembers, List.append_assoc,
        List.cons_append, List.nil_append,
        skipSpace_append (layout.gap_space _),
        skipSpace_cons (show isSpace '}' = false by decide), ↓reduceIte]
  | (key, value) :: later, depth, fuel + 1, rest, enough, wellFormed => by
      simp only [sizeMembers] at enough
      simp only [WellFormedMembers] at wellFormed
      have first :=
        readMember_write style layout key value (depth + 1) fuel
          (writeMembersLaidOut style layout depth later ++ rest) (by omega)
          wellFormed.1
          (separated_writeMembers style layout depth later rest)
      have remaining :=
        readMembers_write style layout later depth fuel rest (by omega)
          wellFormed.2
      simp only [writeString, List.cons_append, List.append_assoc,
        List.nil_append] at first
      simp only [writeMembersLaidOut, writeString, List.cons_append,
        List.append_assoc, List.nil_append, readMembers,
        skipSpace_cons (show isSpace ',' = false by decide),
        skipSpace_append (layout.gap_space _),
        skipSpace_cons (show isSpace '"' = false by decide)]
      simp [first, remaining]
termination_by _ _ fuel => fuel

end

mutual

/-- The text of a value is at least as long as the fuel it takes. -/
private theorem size_le_length (style : EscapeStyle) (layout : Layout) :
    ∀ (value : Value) (depth : Nat),
      WellFormed value →
        size value ≤ (writeLaidOut style layout depth value).length
  | .null, _, _ => by simp [size, writeLaidOut, write]
  | .bool true, _, _ => by simp [size, writeLaidOut, write]
  | .bool false, _, _ => by simp [size, writeLaidOut, write]
  | .number literal, _, wellFormed => by
      have nonempty := validNumber_ne_nil wellFormed.1
      have positive := List.length_pos_iff.mpr nonempty
      simp only [size, writeLaidOut, write]
      omega
  | .string text, _, _ => by
      simp [size, writeLaidOut, write, writeString]
  | .array [], _, _ => by simp [size, writeLaidOut, write]
  | .array (item :: rest), depth, wellFormed => by
      simp only [WellFormed, WellFormedItems] at wellFormed
      have first :=
        size_le_length style layout item (depth + 1) wellFormed.1
      have remaining :=
        sizeItems_le_length style layout rest depth wellFormed.2
      simp only [size, writeLaidOut, List.length_cons, List.length_append]
      omega
  | .object [], _, _ => by simp [size, writeLaidOut, write]
  | .object ((key, value) :: rest), depth, wellFormed => by
      simp only [WellFormed, WellFormedMembers] at wellFormed
      have first :=
        size_le_length style layout value (depth + 1) wellFormed.2.1
      have remaining :=
        sizeMembers_le_length style layout rest depth wellFormed.2.2
      simp only [size, writeLaidOut, List.length_cons, List.length_append]
      omega

/-- The remaining items are at least as long as the fuel they take. -/
private theorem sizeItems_le_length (style : EscapeStyle) (layout : Layout) :
    ∀ (items : List Value) (depth : Nat),
      WellFormedItems items →
        sizeItems items ≤ (writeItemsLaidOut style layout depth items).length
  | [], _, _ => by simp [sizeItems, writeItemsLaidOut]
  | item :: rest, depth, wellFormed => by
      simp only [WellFormedItems] at wellFormed
      have first :=
        size_le_length style layout item (depth + 1) wellFormed.1
      have remaining :=
        sizeItems_le_length style layout rest depth wellFormed.2
      simp only [sizeItems, writeItemsLaidOut, List.length_cons,
        List.length_append]
      omega

/-- The remaining members are at least as long as the fuel they take. -/
private theorem sizeMembers_le_length (style : EscapeStyle) (layout : Layout) :
    ∀ (members : Members) (depth : Nat),
      WellFormedMembers members →
        sizeMembers members ≤
          (writeMembersLaidOut style layout depth members).length
  | [], _, _ => by simp [sizeMembers, writeMembersLaidOut]
  | (key, value) :: rest, depth, wellFormed => by
      simp only [WellFormedMembers] at wellFormed
      have first :=
        size_le_length style layout value (depth + 1) wellFormed.1
      have remaining :=
        sizeMembers_le_length style layout rest depth wellFormed.2
      simp only [sizeMembers, writeMembersLaidOut, List.length_cons,
        List.length_append]
      omega

end

/-- Reading inverts writing, for every escape style and every layout. -/
theorem read_writeLaidOut
    (style : EscapeStyle)
    (layout : Layout)
    (depth : Nat)
    {value : Value}
    (wellFormed : WellFormed value) :
    read (String.ofList (writeLaidOut style layout depth value)) =
      some value := by
  have ends : Separated [] := by
    intro symbol tail shape
    cases shape
  have enough := size_le_length style layout value depth wellFormed
  have parsed :=
    readValue_write style layout value depth
      ((writeLaidOut style layout depth value).length + 1) []
      (Nat.le_succ_of_le enough) wellFormed ends
  rw [List.append_nil] at parsed
  simp [read, parsed, skipSpace]

mutual

/-- Without space a value is written as before. -/
theorem writeLaidOut_compact (style : EscapeStyle) :
    ∀ (value : Value) (depth : Nat),
      writeLaidOut style compact depth value = write style value
  | .null, _ => rfl
  | .bool _, _ => rfl
  | .number _, _ => rfl
  | .string _, _ => rfl
  | .array [], _ => rfl
  | .array (item :: rest), depth => by
      simp only [writeLaidOut, write, compact, List.nil_append]
      exact congrArg _ (congrArg₂ _ (writeLaidOut_compact style item _)
        (writeItemsLaidOut_compact style rest _))
  | .object [], _ => rfl
  | .object ((key, value) :: rest), depth => by
      simp only [writeLaidOut, write, compact, List.nil_append]
      exact congrArg _ (congrArg _ (congrArg _
        (congrArg₂ _ (writeLaidOut_compact style value _)
          (writeMembersLaidOut_compact style rest _))))

/-- Without space the remaining items are written as before. -/
theorem writeItemsLaidOut_compact (style : EscapeStyle) :
    ∀ (items : List Value) (depth : Nat),
      writeItemsLaidOut style compact depth items = writeItems style items
  | [], _ => rfl
  | item :: rest, depth => by
      simp only [writeItemsLaidOut, writeItems, compact, List.nil_append]
      exact congrArg _ (congrArg₂ _ (writeLaidOut_compact style item _)
        (writeItemsLaidOut_compact style rest _))

/-- Without space the remaining members are written as before. -/
theorem writeMembersLaidOut_compact (style : EscapeStyle) :
    ∀ (members : Members) (depth : Nat),
      writeMembersLaidOut style compact depth members =
        writeMembers style members
  | [], _ => rfl
  | (key, value) :: rest, depth => by
      simp only [writeMembersLaidOut, writeMembers, compact,
        List.nil_append]
      exact congrArg _ (congrArg _ (congrArg _
        (congrArg₂ _ (writeLaidOut_compact style value _)
          (writeMembersLaidOut_compact style rest _))))

end

/-- Reading inverts writing, for every escape style. -/
theorem read_write
    (style : EscapeStyle)
    {value : Value}
    (wellFormed : WellFormed value) :
    read (String.ofList (write style value)) = some value := by
  rw [← writeLaidOut_compact style value 0]
  exact read_writeLaidOut style compact 0 wellFormed

/-- Nothing is skipped in front of a written value. -/
theorem skipSpace_write
    (style : EscapeStyle)
    {value : Value}
    (wellFormed : WellFormed value)
    (rest : List Char) :
    skipSpace (write style value ++ rest) = write style value ++ rest := by
  obtain ⟨symbol, tail, shape, notSpace, -⟩ :=
    writeLaidOut_head style compact 0 wellFormed
  rw [← writeLaidOut_compact style value 0, shape, List.cons_append,
    skipSpace_cons notSpace]

/-- A written value is read back in front of a mark. -/
theorem readValue_write_before
    (style : EscapeStyle)
    {value : Value}
    (wellFormed : WellFormed value)
    {mark : Char}
    (notNumeric : isNumberChar mark = false)
    (rest : List Char)
    {fuel : Nat}
    (enough : (write style value).length ≤ fuel) :
    readValue fuel (write style value ++ mark :: rest) =
      some (value, mark :: rest) := by
  rw [← writeLaidOut_compact style value 0] at enough ⊢
  have separated : Separated (mark :: rest) := by
    intro symbol tail shape
    cases shape
    exact notNumeric
  exact
    readValue_write style compact value 0 fuel (mark :: rest)
      (Nat.le_trans (size_le_length style compact value 0 wellFormed) enough)
      wellFormed separated

/-!
## Members as they are written
-/

/-- The members of the object in a text, in order and with repeated keys. -/
def writtenMembers (text : List Char) : Option Members :=
  let fuel := text.length + 1
  match skipSpace text with
  | '{' :: rest =>
      match skipSpace rest with
      | '}' :: _ => some []
      | rest =>
          (readMember fuel rest).bind fun first =>
            (readMembers fuel first.2).map fun later => first.1 :: later.1
  | _ => none

/-- The members of an object that was written are its members. -/
theorem writtenMembers_write
    (style : EscapeStyle)
    {members : Members}
    (wellFormed : WellFormedMembers members) :
    writtenMembers (write style (.object members)) = some members := by
  cases members with
  | nil =>
      rfl
  | cons member later =>
      obtain ⟨key, value⟩ := member
      simp only [WellFormedMembers] at wellFormed
      rw [← writeLaidOut_compact style (.object ((key, value) :: later)) 0]
      have enough :=
        size_le_length style compact value 1 wellFormed.1
      have enoughLater :=
        sizeMembers_le_length style compact later 0 wellFormed.2
      generalize budget :
        (writeLaidOut style compact 0
          (.object ((key, value) :: later))).length + 1 = fuel
      have bounds :
          1 + size value ≤ fuel ∧ sizeMembers later ≤ fuel := by
        simp only [writeLaidOut, List.length_cons, List.length_append,
          Nat.zero_add] at budget
        omega
      have first :=
        readMember_write style compact key value 1 fuel
          (writeMembersLaidOut style compact 0 later) bounds.1
          wellFormed.1
          (by
            simpa using separated_writeMembers style compact 0 later [])
      have remaining :=
        readMembers_write style compact later 0 fuel [] bounds.2 wellFormed.2
      simp only [writeString, compact, List.cons_append, List.append_assoc,
        List.nil_append, List.append_nil] at first remaining
      unfold writtenMembers
      simp only [budget]
      simp only [writeLaidOut, writeString, compact, List.cons_append,
        List.append_assoc, List.nil_append,
        skipSpace_cons (show isSpace '{' = false by decide),
        skipSpace_cons (show isSpace '"' = false by decide)]
      simp [first, remaining]

/-!
## What is read is well formed
-/

/-- The members of an object are well formed when each of them is. -/
theorem wellFormedMembers_iff {members : Members} :
    WellFormedMembers members ↔
      ∀ member ∈ members, WellFormed member.2 := by
  induction members with
  | nil =>
      simp [WellFormedMembers]
  | cons member rest inductionHypothesis =>
      simp [WellFormedMembers, inductionHypothesis]

/-- The items of a list are well formed when each of them is. -/
theorem wellFormedItems_iff {items : List Value} :
    WellFormedItems items ↔ ∀ item ∈ items, WellFormed item := by
  induction items with
  | nil =>
      simp [WellFormedItems]
  | cons item rest inductionHypothesis =>
      simp [WellFormedItems, inductionHypothesis]

/-- Writing a well-formed member keeps an object well formed. -/
theorem wellFormedMembers_assign
    {members : Members}
    {key : String}
    {value : Value}
    (wellFormed : WellFormedMembers members)
    (valueFormed : WellFormed value) :
    WellFormedMembers (assign members key value) := by
  rw [wellFormedMembers_iff] at wellFormed ⊢
  intro member isMember
  rcases mem_of_mem_assign isMember with isWritten | wasThere
  · rw [isWritten]
    exact valueFormed
  · exact wellFormed member wasThere

/-- Writing well-formed members keeps an object well formed. -/
theorem wellFormedMembers_assignAll
    {members later : Members}
    (wellFormed : WellFormedMembers members)
    (laterFormed : WellFormedMembers later) :
    WellFormedMembers (assignAll members later) := by
  rw [wellFormedMembers_iff] at wellFormed laterFormed ⊢
  intro member isMember
  rcases mem_of_mem_assignAll isMember with wasThere | isWritten
  · exact wellFormed member wasThere
  · exact laterFormed member isWritten

/-- A number literal that is read is well formed. -/
private theorem wellFormed_of_readNumber
    {text rest : List Char}
    {literal : String}
    (parsed : readNumber text = some (literal, rest)) :
    WellFormed (.number literal) := by
  unfold readNumber at parsed
  dsimp only at parsed
  split at parsed
  · rename_i valid
    cases parsed
    refine ⟨by simpa using valid, ?_⟩
    simp
  · cases parsed

/-- What the readers read with some fuel is well formed. -/
private structure ReadWellFormed (fuel : Nat) : Prop where
  value :
    ∀ {text value rest},
      readValue fuel text = some (value, rest) → WellFormed value
  items :
    ∀ {text items rest},
      readItems fuel text = some (items, rest) → WellFormedItems items
  member :
    ∀ {text member rest},
      readMember fuel text = some (member, rest) → WellFormed member.2
  members :
    ∀ {text members rest},
      readMembers fuel text = some (members, rest) →
        WellFormedMembers members

section ReadStep

variable {fuel : Nat} {text rest : List Char}
  (readers : ReadWellFormed fuel)

include readers

/-- A value is well formed when its parts are. -/
private theorem wellFormed_of_readValue
    {value : Value}
    (parsed : readValue (fuel + 1) text = some (value, rest)) :
    WellFormed value := by
  simp only [readValue] at parsed
  split at parsed
  · cases parsed
  split at parsed
  · obtain ⟨read, -, shape⟩ := Option.map_eq_some_iff.mp parsed
    cases shape
    trivial
  split at parsed
  · split at parsed
    · cases parsed
      trivial
    · split at parsed
      · cases parsed
      · rename_i first
        obtain ⟨read, later, shape⟩ := Option.map_eq_some_iff.mp parsed
        cases shape
        exact ⟨readers.value first, readers.items later⟩
  split at parsed
  · split at parsed
    · cases parsed
      exact ⟨List.nodup_nil, trivial⟩
    · split at parsed
      · cases parsed
      · rename_i first
        obtain ⟨read, later, shape⟩ := Option.map_eq_some_iff.mp parsed
        cases shape
        have distinct : (([] : Members).map Prod.fst).Nodup :=
          List.nodup_nil
        have empty : WellFormedMembers [] := trivial
        exact ⟨nodup_keys_assignAll distinct _,
          wellFormedMembers_assignAll empty
            ⟨readers.member first, readers.members later⟩⟩
  split at parsed
  · obtain ⟨read, -, shape⟩ := Option.map_eq_some_iff.mp parsed
    cases shape
    trivial
  split at parsed
  · obtain ⟨read, -, shape⟩ := Option.map_eq_some_iff.mp parsed
    cases shape
    trivial
  split at parsed
  · obtain ⟨read, -, shape⟩ := Option.map_eq_some_iff.mp parsed
    cases shape
    trivial
  · obtain ⟨read, literal, shape⟩ := Option.map_eq_some_iff.mp parsed
    cases shape
    exact wellFormed_of_readNumber literal

/-- Items are well formed when the readers of their parts are. -/
private theorem wellFormed_of_readItems
    {items : List Value}
    (parsed : readItems (fuel + 1) text = some (items, rest)) :
    WellFormedItems items := by
  simp only [readItems] at parsed
  split at parsed
  · cases parsed
  split at parsed
  · cases parsed
    trivial
  split at parsed
  · split at parsed
    · cases parsed
    · rename_i first
      obtain ⟨remaining, later, shape⟩ := Option.map_eq_some_iff.mp parsed
      cases shape
      exact ⟨readers.value first, readers.items later⟩
  · cases parsed

/-- The value of a member is well formed. -/
private theorem wellFormed_of_readMember
    {member : String × Value}
    (parsed : readMember (fuel + 1) text = some (member, rest)) :
    WellFormed member.2 := by
  simp only [readMember] at parsed
  split at parsed
  · cases parsed
  split at parsed
  · split at parsed
    · cases parsed
    · split at parsed
      · cases parsed
      · split at parsed
        · obtain ⟨remaining, value, shape⟩ :=
            Option.map_eq_some_iff.mp parsed
          cases shape
          exact readers.value value
        · cases parsed
  · cases parsed

/-- Members are well formed when the readers of their parts are. -/
private theorem wellFormed_of_readMembers
    {members : Members}
    (parsed : readMembers (fuel + 1) text = some (members, rest)) :
    WellFormedMembers members := by
  simp only [readMembers] at parsed
  split at parsed
  · cases parsed
  split at parsed
  · cases parsed
    trivial
  split at parsed
  · split at parsed
    · cases parsed
    · rename_i first
      obtain ⟨remaining, later, shape⟩ := Option.map_eq_some_iff.mp parsed
      cases shape
      exact ⟨readers.member first, readers.members later⟩
  · cases parsed

end ReadStep

/-- Whatever the readers read is well formed. -/
private theorem readWellFormed (fuel : Nat) : ReadWellFormed fuel := by
  induction fuel with
  | zero =>
      constructor
      all_goals rintro _ _ _ ⟨⟩
  | succ fuel inductionHypothesis =>
      exact
        { value := wellFormed_of_readValue inductionHypothesis
          items := wellFormed_of_readItems inductionHypothesis
          member := wellFormed_of_readMember inductionHypothesis
          members := wellFormed_of_readMembers inductionHypothesis }

/-- A value that is the whole of a text is well formed. -/
theorem wellFormed_of_read
    {text : String}
    {value : Value}
    (parsed : read text = some value) :
    WellFormed value := by
  unfold read at parsed
  split at parsed
  · cases parsed
  · rename_i isValue
    split at parsed
    · cases parsed
      exact (readWellFormed _).value isValue
    · cases parsed

end Passwd.Json
