import Mathlib.Data.List.Basic
import Mathlib.Tactic.Common

namespace Passwd.Json

/-!
# JSON values and their text

A number is kept as the literal that spells it, because no operation of this
development computes with numbers.  Members of an object keep the order in
which they were first written; a repeated key overwrites the earlier value, as
both `JSON.parse` and `encoding/json` do.

The reader follows RFC 8259.  The writer is parametrised by the characters that
an encoder prefers to spell in hexadecimal, so that the two encoders of the
repository are instances of it, and reading inverts writing for all of them.
-/

/-- A JSON value. -/
inductive Value where
  | null
  | bool (value : Bool)
  | number (literal : String)
  | string (text : String)
  | array (items : List Value)
  | object (members : List (String × Value))

/-- The members of an object, in the order in which they were first written. -/
abbrev Members := List (String × Value)

/-- The value of a key, if the object has it. -/
def lookup (members : Members) (key : String) : Option Value :=
  (members.find? fun member => member.1 = key).map Prod.snd

/-- Write a member: overwrite the value of its key, or append a new member. -/
def assign (members : Members) (key : String) (value : Value) : Members :=
  match members with
  | [] => [(key, value)]
  | (other, current) :: rest =>
      if other = key then
        (key, value) :: rest
      else
        (other, current) :: assign rest key value

/-- Write several members, one after the other. -/
def assignAll (members later : Members) : Members :=
  later.foldl (fun written member => assign written member.1 member.2) members

section Members

@[simp] theorem lookup_nil (key : String) :
    lookup [] key = none :=
  rfl

/-- Looking a key up in a nonempty object. -/
theorem lookup_cons
    (other key : String)
    (value : Value)
    (rest : Members) :
    lookup ((other, value) :: rest) key =
      if other = key then some value else lookup rest key := by
  by_cases same : other = key
  · simp [lookup, List.find?, same]
  · simp [lookup, List.find?, same]

/-- A written member is the one that is read, and no other key is touched. -/
@[simp] theorem lookup_assign
    (members : Members)
    (written key : String)
    (value : Value) :
    lookup (assign members written value) key =
      if written = key then some value else lookup members key := by
  induction members with
  | nil =>
      simp [assign, lookup_cons]
  | cons member rest inductionHypothesis =>
      rcases member with ⟨other, current⟩
      by_cases same : other = written
      · subst other
        by_cases isKey : written = key
        · simp [assign, lookup_cons, isKey]
        · simp [assign, lookup_cons, isKey]
      · simp only [assign, same, ↓reduceIte, lookup_cons,
          inductionHypothesis]
        by_cases isKey : written = key
        · subst key
          simp [same]
        · simp [isKey]

/-- Among later members the last one with the key wins. -/
theorem lookup_assignAll
    (members later : Members)
    (key : String) :
    lookup (assignAll members later) key =
      (lookup later.reverse key).or (lookup members key) := by
  induction later generalizing members with
  | nil =>
      simp [assignAll]
  | cons member rest inductionHypothesis =>
      rcases member with ⟨other, value⟩
      have tail := inductionHypothesis (assign members other value)
      rw [lookup_assign] at tail
      simp only [assignAll, List.foldl_cons] at tail ⊢
      rw [tail]
      simp only [lookup, List.reverse_cons, List.find?_append]
      cases found :
          List.find? (fun member => decide (member.1 = key)) rest.reverse with
      | some last =>
          simp
      | none =>
          by_cases same : other = key
          · simp [List.find?, same]
          · simp [List.find?, same]

end Members

/-!
## Writing
-/

/-- Characters that an encoder spells in hexadecimal although it need not. -/
structure EscapeStyle where
  extra : Char → Bool
  extra_basic : ∀ symbol, extra symbol = true → symbol.toNat < 0x10000

/-- The hexadecimal digit of a value below 16. -/
def hexDigit (value : Nat) : Char :=
  if value < 10 then Char.ofNat (value + 48) else Char.ofNat (value + 87)

/-- The escape `\uXXXX` of a code unit. -/
def hexEscape (unit : Nat) : List Char :=
  ['\\', 'u', hexDigit (unit / 4096 % 16), hexDigit (unit / 256 % 16),
    hexDigit (unit / 16 % 16), hexDigit (unit % 16)]

/-- One character of a string literal. -/
def escapeChar (style : EscapeStyle) (symbol : Char) : List Char :=
  if symbol = '"' then ['\\', '"']
  else if symbol = '\\' then ['\\', '\\']
  else if symbol = '\n' then ['\\', 'n']
  else if symbol = '\r' then ['\\', 'r']
  else if symbol = '\t' then ['\\', 't']
  else if symbol = Char.ofNat 8 then ['\\', 'b']
  else if symbol = Char.ofNat 12 then ['\\', 'f']
  else if symbol.toNat < 32 ∨ style.extra symbol = true then
    hexEscape symbol.toNat
  else [symbol]

/-- A string literal with its quotation marks. -/
def writeString (style : EscapeStyle) (text : String) : List Char :=
  '"' :: (text.toList.flatMap (escapeChar style) ++ ['"'])

mutual

/-- The text of a value, without insignificant space. -/
def write (style : EscapeStyle) : Value → List Char
  | .null => ['n', 'u', 'l', 'l']
  | .bool true => ['t', 'r', 'u', 'e']
  | .bool false => ['f', 'a', 'l', 's', 'e']
  | .number literal => literal.toList
  | .string text => writeString style text
  | .array [] => ['[', ']']
  | .array (item :: rest) =>
      '[' :: (write style item ++ writeItems style rest)
  | .object [] => ['{', '}']
  | .object ((key, value) :: rest) =>
      '{' :: (writeString style key ++
        ':' :: (write style value ++ writeMembers style rest))

/-- The items after the first one, and the closing bracket. -/
def writeItems (style : EscapeStyle) : List Value → List Char
  | [] => [']']
  | item :: rest => ',' :: (write style item ++ writeItems style rest)

/-- The members after the first one, and the closing brace. -/
def writeMembers (style : EscapeStyle) : Members → List Char
  | [] => ['}']
  | (key, value) :: rest =>
      ',' :: (writeString style key ++
        ':' :: (write style value ++ writeMembers style rest))

end

/-!
## Reading
-/

/-- Insignificant space. -/
def isSpace (symbol : Char) : Bool :=
  symbol = ' ' || symbol = '\t' || symbol = '\n' || symbol = '\r'

/-- Skip insignificant space. -/
def skipSpace (text : List Char) : List Char :=
  text.dropWhile isSpace

/-- The value of a hexadecimal digit. -/
def hexValue (symbol : Char) : Option Nat :=
  if 48 ≤ symbol.toNat ∧ symbol.toNat ≤ 57 then some (symbol.toNat - 48)
  else if 97 ≤ symbol.toNat ∧ symbol.toNat ≤ 102 then
    some (symbol.toNat - 87)
  else if 65 ≤ symbol.toNat ∧ symbol.toNat ≤ 70 then
    some (symbol.toNat - 55)
  else none

/-- The code unit of four hexadecimal digits. -/
def hexUnit (first second third fourth : Char) : Option Nat :=
  match hexValue first, hexValue second, hexValue third, hexValue fourth with
  | some first, some second, some third, some fourth =>
      some (first * 4096 + second * 256 + third * 16 + fourth)
  | _, _, _, _ => none

/-- The character of a two-character escape other than `\u`. -/
def shortEscape (symbol : Char) : Option Char :=
  if symbol = '"' then some '"'
  else if symbol = '\\' then some '\\'
  else if symbol = '/' then some '/'
  else if symbol = 'n' then some '\n'
  else if symbol = 'r' then some '\r'
  else if symbol = 't' then some '\t'
  else if symbol = 'b' then some (Char.ofNat 8)
  else if symbol = 'f' then some (Char.ofNat 12)
  else none

/-- A piece of a string literal: a character or an escaped code unit. -/
inductive Piece where
  | char (symbol : Char)
  | unit (code : Nat)

/-- The pieces of a string literal up to its closing mark, and what follows. -/
def readPieces : List Char → Option (List Piece × List Char)
  | [] => none
  | symbol :: rest =>
      if symbol = '"' then some ([], rest)
      else if symbol = '\\' then
        match rest with
        | [] => none
        | escape :: rest =>
            if escape = 'u' then
              match rest with
              | first :: second :: third :: fourth :: rest =>
                  match hexUnit first second third fourth with
                  | none => none
                  | some code =>
                      (readPieces rest).map fun read =>
                        (.unit code :: read.1, read.2)
              | _ => none
            else
              match shortEscape escape with
              | none => none
              | some symbol =>
                  (readPieces rest).map fun read =>
                    (.char symbol :: read.1, read.2)
      else if symbol.toNat < 32 then none
      else
        (readPieces rest).map fun read => (.char symbol :: read.1, read.2)

/-- A code unit that starts a surrogate pair. -/
def isHighSurrogate (code : Nat) : Bool :=
  0xD800 ≤ code && code < 0xDC00

/-- A code unit that ends a surrogate pair. -/
def isLowSurrogate (code : Nat) : Bool :=
  0xDC00 ≤ code && code < 0xE000

/-- The character of one code unit; a lone surrogate is replaced. -/
def unitChar (code : Nat) : Char :=
  if isHighSurrogate code || isLowSurrogate code then
    Char.ofNat 0xFFFD
  else
    Char.ofNat code

/-- The characters of the pieces of a literal, surrogate pairs joined. -/
def joinPieces : List Piece → List Char
  | [] => []
  | .char symbol :: rest => symbol :: joinPieces rest
  | .unit code :: .unit low :: rest =>
      if isHighSurrogate code && isLowSurrogate low then
        Char.ofNat (0x10000 + (code - 0xD800) * 0x400 + (low - 0xDC00)) ::
          joinPieces rest
      else
        unitChar code :: joinPieces (.unit low :: rest)
  | .unit code :: rest => unitChar code :: joinPieces rest

/-- Read a string literal after its opening mark. -/
def readString (text : List Char) : Option (String × List Char) :=
  (readPieces text).map fun read =>
    (String.ofList (joinPieces read.1), read.2)

/-- A decimal digit. -/
def isDigit (symbol : Char) : Bool :=
  48 ≤ symbol.toNat && symbol.toNat ≤ 57

/-- A character that can occur in a number literal. -/
def isNumberChar (symbol : Char) : Bool :=
  isDigit symbol || symbol = '-' || symbol = '+' || symbol = '.' ||
    symbol = 'e' || symbol = 'E'

/-- One or more digits and nothing else. -/
def validDigits (text : List Char) : Bool :=
  !text.isEmpty && text.all isDigit

/-- The exponent of a number literal, if there is one. -/
def validExponent : List Char → Bool
  | [] => true
  | mark :: rest =>
      (mark = 'e' || mark = 'E') &&
        match rest with
        | '+' :: digits => validDigits digits
        | '-' :: digits => validDigits digits
        | digits => validDigits digits

/-- The fraction and exponent of a number literal, if there are any. -/
def validFraction : List Char → Bool
  | '.' :: rest =>
      !(rest.takeWhile isDigit).isEmpty &&
        validExponent (rest.dropWhile isDigit)
  | rest => validExponent rest

/-- The grammar of number literals. -/
def validNumber (text : List Char) : Bool :=
  let unsigned := match text with
    | '-' :: rest => rest
    | rest => rest
  let whole := unsigned.takeWhile isDigit
  (whole = ['0'] || (!whole.isEmpty && whole.head? ≠ some '0')) &&
    validFraction (unsigned.dropWhile isDigit)

/-- Read a number literal. -/
def readNumber (text : List Char) : Option (String × List Char) :=
  let literal := text.takeWhile isNumberChar
  if validNumber literal then
    some (String.ofList literal, text.dropWhile isNumberChar)
  else
    none

/-- What follows an expected beginning. -/
def expect : List Char → List Char → Option (List Char)
  | [], text => some text
  | _ :: _, [] => none
  | symbol :: rest, actual :: text =>
      if symbol = actual then expect rest text else none

mutual

/-- Read a value; `fuel` bounds the nesting and the number of members. -/
def readValue : Nat → List Char → Option (Value × List Char)
  | 0, _ => none
  | fuel + 1, text =>
      match skipSpace text with
      | [] => none
      | symbol :: rest =>
          if symbol = '"' then
            (readString rest).map fun read => (.string read.1, read.2)
          else if symbol = '[' then
            match skipSpace rest with
            | ']' :: rest => some (.array [], rest)
            | _ =>
                match readValue fuel rest with
                | none => none
                | some (item, rest) =>
                    (readItems fuel rest).map fun read =>
                      (.array (item :: read.1), read.2)
          else if symbol = '{' then
            match skipSpace rest with
            | '}' :: rest => some (.object [], rest)
            | rest =>
                match readMember fuel rest with
                | none => none
                | some (member, rest) =>
                    (readMembers fuel rest).map fun read =>
                      (.object (assignAll [] (member :: read.1)), read.2)
          else if symbol = 'n' then
            (expect ['u', 'l', 'l'] rest).map fun rest => (.null, rest)
          else if symbol = 't' then
            (expect ['r', 'u', 'e'] rest).map fun rest => (.bool true, rest)
          else if symbol = 'f' then
            (expect ['a', 'l', 's', 'e'] rest).map fun rest =>
              (.bool false, rest)
          else
            (readNumber (symbol :: rest)).map fun read =>
              (.number read.1, read.2)

/-- Read the items after the first one, up to the closing bracket. -/
def readItems : Nat → List Char → Option (List Value × List Char)
  | 0, _ => none
  | fuel + 1, text =>
      match skipSpace text with
      | [] => none
      | symbol :: rest =>
          if symbol = ']' then some ([], rest)
          else if symbol = ',' then
            match readValue fuel rest with
            | none => none
            | some (item, rest) =>
                (readItems fuel rest).map fun read =>
                  (item :: read.1, read.2)
          else none

/-- Read one member of an object, starting at the mark of its key. -/
def readMember : Nat → List Char → Option ((String × Value) × List Char)
  | 0, _ => none
  | fuel + 1, text =>
      match text with
      | [] => none
      | symbol :: rest =>
          if symbol = '"' then
            match readString rest with
            | none => none
            | some (key, rest) =>
                match skipSpace rest with
                | [] => none
                | symbol :: rest =>
                    if symbol = ':' then
                      (readValue fuel rest).map fun read =>
                        ((key, read.1), read.2)
                    else none
          else none

/-- Read the members after the first one, up to the closing brace. -/
def readMembers : Nat → List Char → Option (Members × List Char)
  | 0, _ => none
  | fuel + 1, text =>
      match skipSpace text with
      | [] => none
      | symbol :: rest =>
          if symbol = '}' then some ([], rest)
          else if symbol = ',' then
            match readMember fuel (skipSpace rest) with
            | none => none
            | some (member, rest) =>
                (readMembers fuel rest).map fun read =>
                  (member :: read.1, read.2)
          else none

end

/-- Read a text that holds one value and nothing else but space. -/
def read (text : String) : Option Value :=
  match readValue (text.toList.length + 1) text.toList with
  | none => none
  | some (value, rest) => if skipSpace rest = [] then some value else none

/-!
## Laying out
-/

/-- The space that a writer puts in front of an item and after a colon. -/
structure Layout where
  gap : Nat → List Char
  afterColon : List Char
  gap_space : ∀ depth, ∀ symbol ∈ gap depth, isSpace symbol = true
  afterColon_space : ∀ symbol ∈ afterColon, isSpace symbol = true

/-- No space at all. -/
def compact : Layout where
  gap _ := []
  afterColon := []
  gap_space := by
    intro depth symbol member
    cases member
  afterColon_space := by
    intro symbol member
    cases member

/-- Every item on a line of its own, indented by two spaces a level. -/
def indented : Layout where
  gap depth := '\n' :: List.replicate (2 * depth) ' '
  afterColon := [' ']
  gap_space := by
    intro depth symbol member
    rcases List.mem_cons.mp member with isBreak | isIndent
    · rw [isBreak]
      decide
    · rw [List.eq_of_mem_replicate isIndent]
      decide
  afterColon_space := by
    intro symbol member
    rw [List.mem_singleton.mp member]
    decide

mutual

/-- The text of a value at a depth of nesting. -/
def writeLaidOut (style : EscapeStyle) (layout : Layout) (depth : Nat) :
    Value → List Char
  | .array (item :: rest) =>
      '[' :: (layout.gap (depth + 1) ++
        (writeLaidOut style layout (depth + 1) item ++
          writeItemsLaidOut style layout depth rest))
  | .object ((key, value) :: rest) =>
      '{' :: (layout.gap (depth + 1) ++ (writeString style key ++
        ':' :: (layout.afterColon ++
          (writeLaidOut style layout (depth + 1) value ++
            writeMembersLaidOut style layout depth rest))))
  | value => write style value

/-- The items after the first one, and the closing bracket. -/
def writeItemsLaidOut (style : EscapeStyle) (layout : Layout) (depth : Nat) :
    List Value → List Char
  | [] => layout.gap depth ++ [']']
  | item :: rest =>
      ',' :: (layout.gap (depth + 1) ++
        (writeLaidOut style layout (depth + 1) item ++
          writeItemsLaidOut style layout depth rest))

/-- The members after the first one, and the closing brace. -/
def writeMembersLaidOut (style : EscapeStyle) (layout : Layout) (depth : Nat) :
    Members → List Char
  | [] => layout.gap depth ++ ['}']
  | (key, value) :: rest =>
      ',' :: (layout.gap (depth + 1) ++ (writeString style key ++
        ':' :: (layout.afterColon ++
          (writeLaidOut style layout (depth + 1) value ++
            writeMembersLaidOut style layout depth rest))))

end

/-!
## Distinct keys
-/

/-- Writing a member adds its key only when the key is new. -/
theorem mem_keys_assign
    {members : Members}
    {written key : String}
    {value : Value} :
    key ∈ (assign members written value).map Prod.fst ↔
      key = written ∨ key ∈ members.map Prod.fst := by
  induction members with
  | nil =>
      simp [assign]
  | cons member rest inductionHypothesis =>
      by_cases same : member.1 = written
      · simp [assign, same]
      · simp only [assign, same, ↓reduceIte, List.map_cons, List.mem_cons,
          inductionHypothesis]
        tauto

/-- Writing a member keeps the keys of an object distinct. -/
theorem nodup_keys_assign
    {members : Members}
    (distinct : (members.map Prod.fst).Nodup)
    (written : String)
    (value : Value) :
    ((assign members written value).map Prod.fst).Nodup := by
  induction members with
  | nil =>
      simp [assign]
  | cons member rest inductionHypothesis =>
      simp only [List.map_cons, List.nodup_cons] at distinct
      by_cases same : member.1 = written
      · simpa [assign, same] using distinct
      · have tail := inductionHypothesis distinct.2
        simp only [assign, same, ↓reduceIte, List.map_cons, List.nodup_cons]
        refine ⟨?_, tail⟩
        intro repeated
        rcases mem_keys_assign.mp repeated with isWritten | inRest
        · exact same isWritten
        · exact distinct.1 inRest

/-- Writing members one after the other keeps the keys distinct. -/
theorem nodup_keys_assignAll
    {members : Members}
    (distinct : (members.map Prod.fst).Nodup)
    (later : Members) :
    ((assignAll members later).map Prod.fst).Nodup := by
  induction later generalizing members with
  | nil =>
      exact distinct
  | cons member rest inductionHypothesis =>
      exact inductionHypothesis
        (nodup_keys_assign distinct member.1 member.2)

/-- An object that was read has distinct keys. -/
theorem nodup_keys_of_readValue
    {fuel : Nat}
    {text rest : List Char}
    {members : Members}
    (parsed : readValue fuel text = some (.object members, rest)) :
    (members.map Prod.fst).Nodup := by
  cases fuel with
  | zero =>
      cases parsed
  | succ fuel =>
      have written :
          members = [] ∨ ∃ later, members = assignAll [] later := by
        simp only [readValue] at parsed
        repeat' split at parsed
        all_goals simp only [Option.map_eq_some_iff, Prod.mk.injEq,
          reduceCtorEq, false_and, and_false, exists_false, Option.some.injEq,
          Value.object.injEq] at parsed
        · exact Or.inl parsed.1.symm
        · obtain ⟨read, _, shape, _⟩ := parsed
          exact Or.inr ⟨_, shape.symm⟩
      rcases written with empty | ⟨later, shape⟩
      · subst members
        simp
      · subst members
        exact nodup_keys_assignAll (by simp) later

/-- An object that is the whole of a text has distinct keys. -/
theorem nodup_keys_of_read
    {text : String}
    {members : Members}
    (parsed : read text = some (.object members)) :
    (members.map Prod.fst).Nodup := by
  unfold read at parsed
  split at parsed
  · cases parsed
  · rename_i value rest shape
    split at parsed
    · cases parsed
      exact nodup_keys_of_readValue shape
    · cases parsed

/-- A key that no member has is not found. -/
theorem lookup_of_not_mem
    {members : Members}
    {key : String}
    (absent : key ∉ members.map Prod.fst) :
    lookup members key = none := by
  simp only [lookup, Option.map_eq_none_iff, List.find?_eq_none,
    decide_eq_true_eq]
  rintro member inMembers rfl
  exact absent (List.mem_map_of_mem inMembers)

/-- With distinct keys the order of the members does not matter. -/
theorem lookup_reverse
    {members : Members}
    (distinct : (members.map Prod.fst).Nodup)
    (key : String) :
    lookup members.reverse key = lookup members key := by
  induction members with
  | nil =>
      rfl
  | cons member rest inductionHypothesis =>
      rcases member with ⟨other, value⟩
      simp only [List.map_cons, List.nodup_cons] at distinct
      have tail := inductionHypothesis distinct.2
      have split :
          lookup ((other, value) :: rest).reverse key =
            (lookup rest.reverse key).or
              (if other = key then some value else none) := by
        have written := lookup_assignAll [] ((other, value) :: rest) key
        have remaining :=
          lookup_assignAll [(other, value)] rest key
        simp only [assignAll, List.foldl_cons, assign, lookup_nil,
          Option.or_none] at written
        rw [← written]
        simpa [assignAll, lookup_cons] using remaining
      rw [split, tail, lookup_cons]
      by_cases same : other = key
      · subst other
        simp [lookup_of_not_mem distinct.1]
      · simp [same]

/-- A member that is found is one of the members. -/
theorem mem_of_lookup
    {members : Members}
    {key : String}
    {value : Value}
    (has : lookup members key = some value) :
    (key, value) ∈ members := by
  obtain ⟨member, found, isValue⟩ := Option.map_eq_some_iff.mp has
  have isKey : member.1 = key := by
    simpa using List.find?_some found
  have inMembers := List.mem_of_find?_eq_some found
  rw [← isKey, ← isValue]
  exact inMembers

/-- With distinct keys every member is found. -/
theorem lookup_of_mem
    {members : Members}
    (distinct : (members.map Prod.fst).Nodup)
    {key : String}
    {value : Value}
    (member : (key, value) ∈ members) :
    lookup members key = some value := by
  induction members with
  | nil =>
      cases member
  | cons first rest inductionHypothesis =>
      rcases first with ⟨other, current⟩
      simp only [List.map_cons, List.nodup_cons] at distinct
      rw [lookup_cons]
      rcases List.mem_cons.mp member with isFirst | isLater
      · cases isFirst
        exact if_pos rfl
      · have different : other ≠ key := by
          rintro rfl
          exact distinct.1 (List.mem_map_of_mem isLater)
        rw [if_neg different]
        exact inductionHypothesis distinct.2 isLater

/-- A member of a written object was written or was there. -/
theorem mem_of_mem_assign
    {members : Members}
    {key : String}
    {value : Value}
    {member : String × Value}
    (isMember : member ∈ assign members key value) :
    member = (key, value) ∨ member ∈ members := by
  induction members with
  | nil =>
      exact Or.inl (List.mem_singleton.mp isMember)
  | cons first rest inductionHypothesis =>
      rcases first with ⟨other, current⟩
      unfold assign at isMember
      split at isMember
      · rcases List.mem_cons.mp isMember with isWritten | isLater
        · exact Or.inl isWritten
        · exact Or.inr (List.mem_cons_of_mem _ isLater)
      · rcases List.mem_cons.mp isMember with isFirst | isLater
        · rw [isFirst]
          exact Or.inr List.mem_cons_self
        · exact (inductionHypothesis isLater).imp id (List.mem_cons_of_mem _)

/-- A member after several were written is one of them or was there. -/
theorem mem_of_mem_assignAll
    {members later : Members}
    {member : String × Value}
    (isMember : member ∈ assignAll members later) :
    member ∈ members ∨ member ∈ later := by
  induction later generalizing members with
  | nil =>
      exact Or.inl isMember
  | cons first rest inductionHypothesis =>
      rcases inductionHypothesis isMember with written | isLater
      · rcases mem_of_mem_assign written with isFirst | wasThere
        · rw [isFirst]
          exact Or.inr List.mem_cons_self
        · exact Or.inl wasThere
      · exact Or.inr (List.mem_cons_of_mem _ isLater)

/-!
## The order of members
-/

/-- Writing passes over members with other keys. -/
theorem assign_append
    {front : Members}
    {key : String}
    (fresh : key ∉ front.map Prod.fst)
    (back : Members)
    (value : Value) :
    assign (front ++ back) key value = front ++ assign back key value := by
  induction front with
  | nil =>
      rfl
  | cons member rest inductionHypothesis =>
      rcases member with ⟨other, current⟩
      simp only [List.map_cons, List.mem_cons, not_or] at fresh
      simp [assign, Ne.symm fresh.1, inductionHypothesis fresh.2]

/-- Writing a new key appends its member. -/
theorem assign_of_not_mem
    {members : Members}
    {key : String}
    (fresh : key ∉ members.map Prod.fst)
    (value : Value) :
    assign members key value = members ++ [(key, value)] := by
  have appended := assign_append fresh [] value
  rw [List.append_nil] at appended
  exact appended

/-- Writing the value that a key has changes nothing. -/
theorem assign_of_lookup
    {members : Members}
    {key : String}
    {value : Value}
    (has : lookup members key = some value) :
    assign members key value = members := by
  induction members with
  | nil =>
      cases has
  | cons member rest inductionHypothesis =>
      rcases member with ⟨other, current⟩
      rw [lookup_cons] at has
      unfold assign
      split
      · rename_i same
        rw [if_pos same] at has
        rw [same, Option.some.inj has]
      · rename_i different
        rw [if_neg different] at has
        rw [inductionHypothesis has]

/-- With distinct keys the next member is new to the members before it. -/
theorem nodup_keys_shift
    {front rest : Members}
    {key : String}
    {value : Value}
    (distinct : ((front ++ (key, value) :: rest).map Prod.fst).Nodup) :
    key ∉ front.map Prod.fst ∧
      (((front ++ [(key, value)]) ++ rest).map Prod.fst).Nodup := by
  constructor
  · intro member
    simp only [List.map_append, List.map_cons] at distinct
    exact (List.nodup_append.mp distinct).2.2 key member key (by simp) rfl
  · simpa using distinct

/-- Writing members with new and distinct keys appends them in order. -/
theorem assignAll_of_nodup
    {members later : Members}
    (distinct : ((members ++ later).map Prod.fst).Nodup) :
    assignAll members later = members ++ later := by
  induction later generalizing members with
  | nil => simp [assignAll]
  | cons member rest inductionHypothesis =>
      rcases member with ⟨key, value⟩
      obtain ⟨fresh, shifted⟩ := nodup_keys_shift distinct
      have tail := inductionHypothesis shifted
      simp only [assignAll, List.foldl_cons] at tail ⊢
      rw [assign_of_not_mem fresh, tail]
      simp

/-- Writing members with the keys of an object replaces its values in order. -/
theorem assignAll_of_sameKeys
    {front members later : Members}
    (sameKeys : members.map Prod.fst = later.map Prod.fst)
    (distinct : ((front ++ later).map Prod.fst).Nodup) :
    assignAll (front ++ members) later = front ++ later := by
  induction later generalizing front members with
  | nil =>
      rw [List.map_eq_nil_iff.mp sameKeys]
      rfl
  | cons member rest inductionHypothesis =>
      rcases member with ⟨key, value⟩
      obtain ⟨⟨other, current⟩, others, rfl, same, sameRest⟩ :=
        List.map_eq_cons_iff.mp sameKeys
      dsimp only at same
      subst other
      obtain ⟨fresh, shifted⟩ := nodup_keys_shift distinct
      have replaced :
          assign (front ++ (key, current) :: others) key value =
            (front ++ [(key, value)]) ++ others := by
        rw [assign_append fresh]
        simp [assign]
      have tail := inductionHypothesis sameRest shifted
      simp only [assignAll, List.foldl_cons] at tail ⊢
      rw [replaced, tail, List.append_assoc]
      rfl

/-- Writing an object over the beginning of its keys gives the object. -/
theorem assignAll_of_prefix
    {members later : Members}
    (ordered : members.map Prod.fst <+: later.map Prod.fst)
    (distinct : (later.map Prod.fst).Nodup) :
    assignAll members later = later := by
  obtain ⟨keys, split⟩ := ordered
  obtain ⟨front, back, rfl, isFront, -⟩ := List.map_eq_append_iff.mp split.symm
  have replaced : assignAll members front = front := by
    rw [List.map_append] at distinct
    exact @assignAll_of_sameKeys [] members front isFront.symm
      (List.nodup_append.mp distinct).1
  have both :
      assignAll members (front ++ back) =
        assignAll (assignAll members front) back :=
    List.foldl_append
  rw [both, replaced]
  exact assignAll_of_nodup distinct

/-- Writing a member keeps the keys in their order. -/
theorem keys_prefix_assign (members : Members) (key : String) (value : Value) :
    members.map Prod.fst <+: (assign members key value).map Prod.fst := by
  induction members with
  | nil =>
      exact List.nil_prefix
  | cons member rest inductionHypothesis =>
      rcases member with ⟨other, current⟩
      unfold assign
      split
      · rename_i same
        rw [same]
        exact List.prefix_rfl
      · exact List.prefix_cons_inj other |>.mpr inductionHypothesis

/-- Writing members one after the other keeps the keys in their order. -/
theorem keys_prefix_assignAll (members later : Members) :
    members.map Prod.fst <+: (assignAll members later).map Prod.fst := by
  induction later generalizing members with
  | nil =>
      exact List.prefix_rfl
  | cons member rest inductionHypothesis =>
      exact (keys_prefix_assign members member.1 member.2).trans
        (inductionHypothesis (assign members member.1 member.2))

end Passwd.Json
