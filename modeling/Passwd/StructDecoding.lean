import Passwd.AccessTokens

namespace Passwd.Server

open Base64 Json

/-!
# JSON decoded into structs

`encoding/json` decodes an object into a struct member by member: a key picks
the field that it names, whatever the letter case, and the value is stored into
what the field held before, so a repeated key is stored twice and `null` leaves
a field alone.  With unknown fields disallowed, a key that names no field fails.
-/

/-- A value with the text that spells it. -/
structure Written where
  text : List Char
  value : Value

/-- Read one member of an object, starting at the mark of its key. -/
def readWritten (fuel : Nat) (text : List Char) :
    Option ((String × Written) × List Char) :=
  match text with
  | '"' :: rest =>
      (readString rest).bind fun key =>
        match skipSpace key.2 with
        | ':' :: rest =>
            let spelled := skipSpace rest
            (readValue fuel spelled).map fun read =>
              ((key.1,
                { text := spelled.take (spelled.length - read.2.length)
                  value := read.1 }),
                read.2)
        | _ => none
  | _ => none

/-- Read the members after the first one, up to the closing brace. -/
def readLaterWritten : Nat → List Char → Option (List (String × Written))
  | 0, _ => none
  | fuel + 1, text =>
      match skipSpace text with
      | '}' :: _ => some []
      | ',' :: rest =>
          (readWritten fuel (skipSpace rest)).bind fun first =>
            (readLaterWritten fuel first.2).map (first.1 :: ·)
      | _ => none

/--
The members of the object at the beginning of a text, with repeated keys;
nothing behind the closing brace is read.
-/
def writtenObject (text : List Char) : Option (List (String × Written)) :=
  let fuel := text.length + 1
  match skipSpace text with
  | '{' :: rest =>
      match skipSpace rest with
      | '}' :: _ => some []
      | rest =>
          (readWritten fuel rest).bind fun first =>
            (readLaterWritten fuel first.2).map (first.1 :: ·)
  | _ => none

/-- A field of a struct: its name, and what a value leaves in the struct. -/
structure Field (α : Type) where
  name : String
  store : α → Written → Option α

section Struct

variable {α β : Type}

/-- Decode one member into a struct that has no other fields. -/
def decodeMember
    (fields : List (Field α))
    (current : α)
    (member : String × Written) :
    Option α :=
  (fields.find? fun field => namesField field.name member.1).bind fun field =>
    field.store current member.2

/-- A struct has no field for the other keys. -/
@[simp] theorem decodeMember_nil (current : α) (member : String × Written) :
    decodeMember [] current member = none :=
  rfl

/-- A key names the first field, or one of the others. -/
theorem decodeMember_cons
    (field : Field α)
    (fields : List (Field α))
    (current : α)
    (member : String × Written) :
    decodeMember (field :: fields) current member =
      if namesField field.name member.1 = true then
        field.store current member.2
      else
        decodeMember fields current member := by
  by_cases named : namesField field.name member.1 = true
  · simp [decodeMember, named]
  · simp [decodeMember, named]

/-- Decode the object at the beginning of a text into a struct. -/
def decodeObject
    (fields : List (Field α))
    (current : α)
    (text : List Char) :
    Option α :=
  (writtenObject text).bind fun members =>
    members.foldlM (decodeMember fields) current

/-- A field that holds a string. -/
def stringField (name : String) (set : α → String → α) : Field α where
  name := name
  store current written :=
    match written.value with
    | .string text => some (set current text)
    | .null => some current
    | _ => none

/-- A field that holds an `int`. -/
def intField (name : String) (get : α → Int) (set : α → Int → α) :
    Field α where
  name := name
  store current written :=
    (integerField (get current) written.value).map (set current)

/-- A field that holds a struct. -/
def structField
    (name : String)
    (fields : List (Field β))
    (get : α → β)
    (set : α → β → α) :
    Field α where
  name := name
  store current written :=
    match written.value with
    | .object _ =>
        (decodeObject fields (get current) written.text).map (set current)
    | .null => some current
    | _ => none

/-- A field that holds a `json.RawMessage`. -/
def rawField (name : String) (set : α → String → α) : Field α where
  name := name
  store current written := some (set current (String.ofList written.text))

/-- How much of a body is read. -/
def bodyLimit : Nat := 2 ^ 20

/--
`decodeJSON`.  The first value of a body is decoded and what follows it is not
read; `null` leaves the struct alone, but whether it ends is only known from the
next byte or from the end of the body.
-/
def decodeJSON (fields : List (Field α)) (zero : α) (body : Bytes) :
    Option α :=
  let text := (goText (body.take bodyLimit)).toList
  match skipSpace text with
  | '{' :: _ => decodeObject fields zero text
  | 'n' :: 'u' :: 'l' :: 'l' :: rest =>
      if rest = [] ∧ bodyLimit < body.length then none else some zero
  | _ => none

end Struct

/-!
## Objects that were written
-/

/-- A member as a writer spells it. -/
def asWritten (style : EscapeStyle) (member : String × Value) :
    String × Written :=
  (member.1, { text := write style member.2, value := member.2 })

/-- Nothing is skipped in front of a character that is no space. -/
private theorem skipSpace_mark
    {symbol : Char}
    (notSpace : isSpace symbol = false)
    (rest : List Char) :
    skipSpace (symbol :: rest) = symbol :: rest := by
  simp [skipSpace, notSpace]

/-- A written member is read back in front of a mark. -/
theorem readWritten_write
    (style : EscapeStyle)
    (member : String × Value)
    (wellFormed : WellFormed member.2)
    {mark : Char}
    (notNumeric : isNumberChar mark = false)
    (rest : List Char)
    {fuel : Nat}
    (enough : (write style member.2).length ≤ fuel) :
    readWritten fuel
        (writeString style member.1 ++
          ':' :: (write style member.2 ++ mark :: rest)) =
      some (asWritten style member, mark :: rest) := by
  have key :=
    readString_writeString style member.1
      (':' :: (write style member.2 ++ mark :: rest))
  have content :=
    readValue_write_before style wellFormed notNumeric rest enough
  have begins := skipSpace_write style wellFormed (mark :: rest)
  have spelled :
      (write style member.2 ++ mark :: rest).take
          ((write style member.2 ++ mark :: rest).length -
            (mark :: rest).length) =
        write style member.2 := by
    simp
  simp only [writeString, List.cons_append, List.append_assoc,
    List.nil_append, readWritten, key, Option.bind_some,
    skipSpace_mark (show isSpace ':' = false by decide), begins, content,
    Option.map_some, spelled]
  rfl

/-- The members that follow are read back up to the closing brace. -/
theorem readLaterWritten_write
    (style : EscapeStyle)
    {members : Members}
    (wellFormed : ∀ member ∈ members, WellFormed member.2)
    (rest : List Char)
    {fuel : Nat}
    (enough : (writeMembers style members).length ≤ fuel) :
    readLaterWritten fuel (writeMembers style members ++ rest) =
      some (members.map (asWritten style)) := by
  induction members generalizing fuel with
  | nil =>
      cases fuel with
      | zero => simp [writeMembers] at enough
      | succ fuel =>
          simp [readLaterWritten, writeMembers, skipSpace, isSpace]
  | cons member later inductionHypothesis =>
      obtain ⟨key, value⟩ := member
      have own := wellFormed (key, value) List.mem_cons_self
      have others :=
        fun other member => wellFormed other (List.mem_cons_of_mem _ member)
      obtain ⟨mark, tail, shape, notNumeric⟩ :
          ∃ mark tail,
            writeMembers style later ++ rest = mark :: tail ∧
              isNumberChar mark = false := by
        cases later with
        | nil => exact ⟨_, _, rfl, by decide⟩
        | cons => exact ⟨_, _, rfl, by decide⟩
      cases fuel with
      | zero => simp [writeMembers] at enough
      | succ fuel =>
          simp only [writeMembers, List.length_cons, List.length_append]
            at enough
          have shorter : (write style value).length ≤ fuel := by omega
          have first :=
            readWritten_write style (key, value) own notNumeric tail shorter
          have shorterLater : (writeMembers style later).length ≤ fuel := by
            omega
          have remaining := inductionHypothesis others shorterLater
          rw [shape] at remaining
          have begins (after : List Char) :
              skipSpace (writeString style key ++ after) =
                writeString style key ++ after := by
            simp only [writeString, List.cons_append]
            exact skipSpace_mark (by decide) _
          simp only [writeMembers, List.cons_append, List.append_assoc, shape,
            readLaterWritten,
            skipSpace_mark (show isSpace ',' = false by decide), begins, first,
            Option.bind_some, remaining, Option.map_some, List.map_cons]

/-- The members of an object that was written are read back. -/
theorem writtenObject_write
    (style : EscapeStyle)
    {members : Members}
    (wellFormed : ∀ member ∈ members, WellFormed member.2)
    (rest : List Char) :
    writtenObject (write style (.object members) ++ rest) =
      some (members.map (asWritten style)) := by
  cases members with
  | nil => simp [writtenObject, write, skipSpace, isSpace]
  | cons member later =>
      obtain ⟨key, value⟩ := member
      have own := wellFormed (key, value) List.mem_cons_self
      have others :=
        fun other member => wellFormed other (List.mem_cons_of_mem _ member)
      obtain ⟨mark, tail, shape, notNumeric⟩ :
          ∃ mark tail,
            writeMembers style later ++ rest = mark :: tail ∧
              isNumberChar mark = false := by
        cases later with
        | nil => exact ⟨_, _, rfl, by decide⟩
        | cons => exact ⟨_, _, rfl, by decide⟩
      have sized := congrArg List.length shape
      simp only [List.length_append, List.length_cons] at sized
      have first (fuel : Nat) (enough : (write style value).length ≤ fuel) :=
        readWritten_write style (key, value) own notNumeric tail enough
      have remaining
          (fuel : Nat)
          (enough : (writeMembers style later).length ≤ fuel) :=
        readLaterWritten_write style others rest enough
      simp only [writeString, List.cons_append, List.append_assoc,
        List.nil_append] at first
      rw [shape] at remaining
      simp only [writtenObject, write, writeString, List.cons_append,
        List.append_assoc, List.nil_append, shape,
        skipSpace_mark (show isSpace '{' = false by decide),
        skipSpace_mark (show isSpace '"' = false by decide)]
      split
      · rename_i closes
        exact absurd (List.cons.inj closes).1 (by decide)
      · rw [first _ (by simp only [List.length_cons, List.length_append]; omega),
          Option.bind_some,
          remaining _
            (by simp only [List.length_cons, List.length_append]; omega)]
        rfl

/-- An object that was written is decoded member by member. -/
theorem decodeObject_write
    {α : Type}
    (style : EscapeStyle)
    (fields : List (Field α))
    (current : α)
    {members : Members}
    (wellFormed : ∀ member ∈ members, WellFormed member.2)
    (rest : List Char) :
    decodeObject fields current (write style (.object members) ++ rest) =
      (members.map (asWritten style)).foldlM (decodeMember fields) current := by
  rw [decodeObject, writtenObject_write style wellFormed, Option.bind_some]

/-- A body that holds an object is decoded member by member. -/
theorem decodeJSON_write
    {α : Type}
    (style : EscapeStyle)
    (fields : List (Field α))
    (zero : α)
    {members : Members}
    (wellFormed : ∀ member ∈ members, WellFormed member.2)
    (fits :
      (bytesOf (String.ofList (write style (.object members)))).length ≤
        bodyLimit) :
    decodeJSON fields zero
        (bytesOf (String.ofList (write style (.object members)))) =
      (members.map (asWritten style)).foldlM (decodeMember fields) zero := by
  have decoded := decodeObject_write style fields zero wellFormed []
  rw [List.append_nil] at decoded
  rw [decodeJSON, List.take_of_length_le fits, goText_bytesOf,
    String.toList_ofList]
  have begins :
      ∃ rest,
        skipSpace (write style (.object members)) = '{' :: rest := by
    cases members with
    | nil => exact ⟨_, rfl⟩
    | cons => exact ⟨_, rfl⟩
  obtain ⟨rest, begins⟩ := begins
  simp only [begins, decoded]

end Passwd.Server
