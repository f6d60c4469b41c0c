import Passwd.JsonRoundTrip
import Mathlib.Data.List.TakeWhile

namespace Passwd.Json

/-!
# JSON texts that are cut short

The readers look no further than the end of what they read, except behind a
number.  A text of any other kind of value therefore reads the same in front of
more text, and no proper beginning of it holds a value of its own.
-/

/-- Space that ends is skipped in front of more text. -/
theorem skipSpace_append_of_ne_nil
    {text : List Char}
    (ends : skipSpace text ≠ [])
    (more : List Char) :
    skipSpace (text ++ more) = skipSpace text ++ more := by
  induction text with
  | nil =>
      exact absurd rfl ends
  | cons symbol rest inductionHypothesis =>
      by_cases space : isSpace symbol = true
      · simp only [skipSpace, List.cons_append, List.dropWhile_cons, space,
          ↓reduceIte] at ends ⊢
        exact inductionHypothesis ends
      · simp only [skipSpace, List.cons_append, List.dropWhile_cons, space,
          Bool.false_eq_true, ↓reduceIte]

/-- Behind a text of only space there is only space. -/
private theorem skipSpace_of_append
    {text more : List Char}
    (blank : skipSpace (text ++ more) = []) :
    skipSpace more = [] := by
  rw [skipSpace, List.dropWhile_eq_nil_iff] at blank ⊢
  intro symbol member
  exact blank symbol (List.mem_append_right text member)

/-- Behind one piece a literal ends where it ended before. -/
private theorem readPieces_piece_more
    {leading tail rest more : List Char}
    {piece : Piece}
    {pieces : List Piece}
    (reads :
      ∀ rest, readPieces (leading ++ rest) =
        (readPieces rest).map fun read => (piece :: read.1, read.2))
    (parsed : readPieces (leading ++ tail) = some (pieces, rest))
    (later :
      ∀ {pieces}, readPieces tail = some (pieces, rest) →
        readPieces (tail ++ more) = some (pieces, rest ++ more)) :
    readPieces (leading ++ (tail ++ more)) = some (pieces, rest ++ more) := by
  rw [reads] at parsed
  obtain ⟨read, isTail, shape⟩ := Option.map_eq_some_iff.mp parsed
  cases shape
  rw [reads, later isTail]
  rfl

/-- A literal ends where it ended before. -/
private theorem readPieces_more
    {text rest : List Char}
    {pieces : List Piece}
    (parsed : readPieces text = some (pieces, rest))
    (more : List Char) :
    readPieces (text ++ more) = some (pieces, rest ++ more) := by
  induction text using readPieces.induct generalizing pieces with
  | case1 =>
      cases parsed
  | case2 =>
      rw [readPieces.eq_def] at parsed
      cases parsed
      rw [List.cons_append, readPieces.eq_def]
      rfl
  | case3 =>
      simp [readPieces] at parsed
  | case4 first second third fourth tail noUnit =>
      simp [readPieces, noUnit] at parsed
  | case5 first second third fourth tail code isUnit _ inductionHypothesis =>
      have reads (rest : List Char) :
          readPieces (['\\', 'u', first, second, third, fourth] ++ rest) =
            (readPieces rest).map fun read =>
              (.unit code :: read.1, read.2) := by
        simp [readPieces, isUnit]
      exact readPieces_piece_more reads parsed inductionHypothesis
  | case6 tail short =>
      have refused : readPieces ('\\' :: 'u' :: tail) = none := by
        rw [readPieces.eq_def]
        grind
      rw [refused] at parsed
      cases parsed
  | case7 escape tail notUnit noEscape =>
      rw [readPieces.eq_def] at parsed
      simp [notUnit, noEscape] at parsed
  | case8 escape tail _ symbol isEscape _ inductionHypothesis =>
      have reads (rest : List Char) :
          readPieces (['\\', escape] ++ rest) =
            (readPieces rest).map fun read =>
              (.char symbol :: read.1, read.2) :=
        readPieces_short isEscape rest
      exact readPieces_piece_more reads parsed inductionHypothesis
  | case9 symbol tail notMark notEscape control =>
      rw [readPieces.eq_def] at parsed
      simp [notMark, notEscape, control] at parsed
  | case10 symbol tail notMark notEscape plain inductionHypothesis =>
      have reads (rest : List Char) :
          readPieces ([symbol] ++ rest) =
            (readPieces rest).map fun read =>
              (.char symbol :: read.1, read.2) :=
        readPieces_plain notMark notEscape plain rest
      exact readPieces_piece_more reads parsed inductionHypothesis

/-- A string ends where it ended before. -/
private theorem readString_more
    {text rest : List Char}
    {value : String}
    (parsed : readString text = some (value, rest))
    (more : List Char) :
    readString (text ++ more) = some (value, rest ++ more) := by
  obtain ⟨⟨pieces, tail⟩, literal, shape⟩ := Option.map_eq_some_iff.mp parsed
  cases shape
  rw [readString, readPieces_more literal]
  rfl

/-- An expected beginning is found in front of more text. -/
private theorem expect_more
    {expected text rest : List Char}
    (found : expect expected text = some rest)
    (more : List Char) :
    expect expected (text ++ more) = some (rest ++ more) := by
  induction expected generalizing text with
  | nil =>
      cases found
      rfl
  | cons symbol later inductionHypothesis =>
      cases text with
      | nil =>
          cases found
      | cons actual tail =>
          simp only [expect, List.cons_append] at found ⊢
          by_cases same : symbol = actual
          · rw [if_pos same] at found ⊢
            exact inductionHypothesis found
          · rw [if_neg same] at found
            cases found

/-- A constant is read the same in front of more text. -/
private theorem constant_more
    {expected text rest : List Char}
    {constant value : Value}
    (parsed :
      (expect expected text).map (fun rest => (constant, rest)) =
        some (value, rest))
    (more : List Char) :
    (expect expected (text ++ more)).map (fun rest => (constant, rest)) =
      some (value, rest ++ more) := by
  obtain ⟨read, word, shape⟩ := Option.map_eq_some_iff.mp parsed
  cases shape
  rw [expect_more word]
  rfl

/-- A number that something follows ends where it ended before. -/
private theorem readNumber_more
    {text rest : List Char}
    {literal : String}
    (parsed : readNumber text = some (literal, rest))
    (followed : rest ≠ [])
    (more : List Char) :
    readNumber (text ++ more) = some (literal, rest ++ more) := by
  simp only [readNumber] at parsed
  split at parsed
  · rename_i valid
    cases parsed
    obtain ⟨symbol, tail, shape⟩ := List.exists_cons_of_ne_nil followed
    have split :
        text ++ more =
          text.takeWhile isNumberChar ++
            (text.dropWhile isNumberChar ++ more) := by
      rw [← List.append_assoc, List.takeWhile_append_dropWhile]
    have stops : isNumberChar symbol = false := by
      have head := List.head?_dropWhile_not isNumberChar text
      rw [shape] at head
      simpa using head
    have taken :
        (text ++ more).takeWhile isNumberChar =
          text.takeWhile isNumberChar := by
      rw [split, List.takeWhile_append_of_pos
        (fun _ member => List.mem_takeWhile_imp member), shape]
      simp [stops]
    have dropped :
        (text ++ more).dropWhile isNumberChar =
          text.dropWhile isNumberChar ++ more := by
      rw [split, List.dropWhile_append_of_pos
        (fun _ member => List.mem_takeWhile_imp member), shape]
      simp [stops]
    simp only [readNumber, taken, dropped, valid, ↓reduceIte]
  · cases parsed

/-!
## Values
-/

/-- The readers say the same in front of more text, with no less fuel. -/
private structure ReadMore (more : List Char) (fuel later : Nat) : Prop where
  value :
    ∀ {text value rest}, readValue fuel text = some (value, rest) →
      (rest ≠ [] ∨ ∀ literal, value ≠ .number literal) →
        readValue later (text ++ more) = some (value, rest ++ more)
  items :
    ∀ {text items rest}, readItems fuel text = some (items, rest) →
      readItems later (text ++ more) = some (items, rest ++ more)
  member :
    ∀ {text member rest}, readMember fuel text = some (member, rest) →
      rest ≠ [] →
        readMember later (text ++ more) = some (member, rest ++ more)
  members :
    ∀ {text members rest}, readMembers fuel text = some (members, rest) →
      readMembers later (text ++ more) = some (members, rest ++ more)

/-- A text with a value is not only space. -/
private theorem skipSpace_of_readValue
    {fuel : Nat}
    {text : List Char}
    {read : Value × List Char}
    (parsed : readValue fuel text = some read) :
    skipSpace text ≠ [] := by
  intro blank
  cases fuel with
  | zero =>
      cases parsed
  | succ fuel =>
      simp only [readValue, blank] at parsed
      cases parsed

/-- Something follows the items that remain to be read. -/
private theorem ne_nil_of_readItems
    {fuel : Nat}
    {text : List Char}
    {read : List Value × List Char}
    (parsed : readItems fuel text = some read) :
    text ≠ [] := by
  rintro rfl
  cases fuel with
  | zero =>
      cases parsed
  | succ fuel =>
      cases parsed

/-- Something follows the members that remain to be read. -/
private theorem ne_nil_of_readMembers
    {fuel : Nat}
    {text : List Char}
    {read : Members × List Char}
    (parsed : readMembers fuel text = some read) :
    text ≠ [] := by
  rintro rfl
  cases fuel with
  | zero =>
      cases parsed
  | succ fuel =>
      cases parsed

/-- A text with a member is not empty. -/
private theorem ne_nil_of_readMember
    {fuel : Nat}
    {text : List Char}
    {read : (String × Value) × List Char}
    (parsed : readMember fuel text = some read) :
    text ≠ [] := by
  rintro rfl
  cases fuel with
  | zero =>
      cases parsed
  | succ fuel =>
      cases parsed

section Step

variable {more : List Char} {fuel later : Nat}
  (readMore : ReadMore more fuel later)

include readMore

/-- The items after the first one read the same. -/
private theorem readItems_more
    {text rest : List Char}
    {items : List Value}
    (parsed : readItems (fuel + 1) text = some (items, rest)) :
    readItems (later + 1) (text ++ more) = some (items, rest ++ more) := by
  simp only [readItems] at parsed ⊢
  cases spaced : skipSpace text with
  | nil =>
      simp [spaced] at parsed
  | cons symbol tail =>
      rw [skipSpace_append_of_ne_nil (by simp [spaced]), spaced]
      simp only [spaced, List.cons_append] at parsed ⊢
      split at parsed
      · rename_i closes
        cases parsed
        rw [if_pos closes]
      · rename_i notClosed
        rw [if_neg notClosed]
        split at parsed
        · rename_i continues
          rw [if_pos continues]
          split at parsed
          · cases parsed
          · rename_i item tail first
            obtain ⟨read, others, shape⟩ := Option.map_eq_some_iff.mp parsed
            cases shape
            rw [readMore.value first (.inl (ne_nil_of_readItems others))]
            simp only [readMore.items others, Option.map_some]
        · cases parsed

/-- A member that something follows reads the same. -/
private theorem readMember_more
    {text rest : List Char}
    {member : String × Value}
    (parsed : readMember (fuel + 1) text = some (member, rest))
    (followed : rest ≠ []) :
    readMember (later + 1) (text ++ more) = some (member, rest ++ more) := by
  cases text with
  | nil =>
      cases parsed
  | cons mark tail =>
      simp only [readMember, List.cons_append] at parsed ⊢
      split at parsed
      · rename_i quoted
        rw [if_pos quoted]
        split at parsed
        · cases parsed
        · rename_i key tail isKey
          rw [readString_more isKey]
          dsimp only
          cases spaced : skipSpace tail with
          | nil =>
              simp [spaced] at parsed
          | cons symbol value =>
              rw [skipSpace_append_of_ne_nil (by simp [spaced]), spaced]
              simp only [spaced, List.cons_append] at parsed ⊢
              split at parsed
              · rename_i colon
                rw [if_pos colon]
                obtain ⟨read, isValue, shape⟩ :=
                  Option.map_eq_some_iff.mp parsed
                cases shape
                rw [readMore.value isValue (.inl followed)]
                rfl
              · cases parsed
      · cases parsed

/-- The members after the first one read the same. -/
private theorem readMembers_more
    {text rest : List Char}
    {members : Members}
    (parsed : readMembers (fuel + 1) text = some (members, rest)) :
    readMembers (later + 1) (text ++ more) = some (members, rest ++ more) := by
  simp only [readMembers] at parsed ⊢
  cases spaced : skipSpace text with
  | nil =>
      simp [spaced] at parsed
  | cons symbol tail =>
      rw [skipSpace_append_of_ne_nil (by simp [spaced]), spaced]
      simp only [spaced, List.cons_append] at parsed ⊢
      split at parsed
      · rename_i closes
        cases parsed
        rw [if_pos closes]
      · rename_i notClosed
        rw [if_neg notClosed]
        split at parsed
        · rename_i continues
          rw [if_pos continues]
          split at parsed
          · cases parsed
          · rename_i member tail first
            obtain ⟨read, others, shape⟩ := Option.map_eq_some_iff.mp parsed
            cases shape
            rw [skipSpace_append_of_ne_nil (ne_nil_of_readMember first),
              readMore.member first (ne_nil_of_readMembers others)]
            simp only [readMore.members others, Option.map_some]
        · cases parsed

/-- What follows the opening bracket of an array reads the same. -/
private theorem readArray_more
    {text rest : List Char}
    {value : Value}
    (parsed :
      (match skipSpace text with
        | ']' :: rest => some (.array [], rest)
        | _ =>
            match readValue fuel text with
            | none => none
            | some (item, rest) =>
                (readItems fuel rest).map fun read =>
                  (.array (item :: read.1), read.2)) =
        some (value, rest)) :
    (match skipSpace (text ++ more) with
      | ']' :: rest => some (.array [], rest)
      | _ =>
          match readValue later (text ++ more) with
          | none => none
          | some (item, rest) =>
              (readItems later rest).map fun read =>
                (.array (item :: read.1), read.2)) =
      some (value, rest ++ more) := by
  split at parsed
  · rename_i closes
    cases parsed
    rw [skipSpace_append_of_ne_nil (by simp [closes]), closes]
    rfl
  · rename_i notClosed
    split at parsed
    · cases parsed
    · rename_i item tail first
      obtain ⟨read, others, shape⟩ := Option.map_eq_some_iff.mp parsed
      cases shape
      have spaced := skipSpace_of_readValue first
      rw [skipSpace_append_of_ne_nil spaced,
        readMore.value first (.inl (ne_nil_of_readItems others))]
      simp only [readMore.items others, Option.map_some]
      split
      · rename_i closes
        obtain ⟨symbol, symbols, shape⟩ := List.exists_cons_of_ne_nil spaced
        rw [shape, List.cons_append] at closes
        cases closes
        exact absurd shape (notClosed _)
      · rfl

/-- What follows the opening brace of an object reads the same. -/
private theorem readObject_more
    {text rest : List Char}
    {value : Value}
    (parsed :
      (match skipSpace text with
        | '}' :: rest => some (.object [], rest)
        | rest =>
            match readMember fuel rest with
            | none => none
            | some (member, rest) =>
                (readMembers fuel rest).map fun read =>
                  (.object (assignAll [] (member :: read.1)), read.2)) =
        some (value, rest)) :
    (match skipSpace (text ++ more) with
      | '}' :: rest => some (.object [], rest)
      | rest =>
          match readMember later rest with
          | none => none
          | some (member, rest) =>
              (readMembers later rest).map fun read =>
                (.object (assignAll [] (member :: read.1)), read.2)) =
      some (value, rest ++ more) := by
  split at parsed
  · rename_i closes
    cases parsed
    rw [skipSpace_append_of_ne_nil (by simp [closes]), closes]
    rfl
  · rename_i notClosed
    split at parsed
    · cases parsed
    · rename_i member tail first
      obtain ⟨read, others, shape⟩ := Option.map_eq_some_iff.mp parsed
      cases shape
      have spaced := ne_nil_of_readMember first
      rw [skipSpace_append_of_ne_nil spaced]
      split
      · rename_i closes
        obtain ⟨symbol, symbols, shape⟩ := List.exists_cons_of_ne_nil spaced
        rw [shape, List.cons_append] at closes
        cases closes
        exact absurd shape (notClosed _)
      · rw [readMore.member first (ne_nil_of_readMembers others)]
        simp only [readMore.members others, Option.map_some]

/-- A value that is no number, or that something follows, reads the same. -/
private theorem readValue_more
    {text rest : List Char}
    {value : Value}
    (parsed : readValue (fuel + 1) text = some (value, rest))
    (apart : rest ≠ [] ∨ ∀ literal, value ≠ .number literal) :
    readValue (later + 1) (text ++ more) = some (value, rest ++ more) := by
  cases spaced : skipSpace text with
  | nil =>
      exact absurd spaced (skipSpace_of_readValue parsed)
  | cons symbol tail =>
      have spacedMore : skipSpace (text ++ more) = symbol :: (tail ++ more) := by
        rw [skipSpace_append_of_ne_nil (by simp [spaced]), spaced]
        rfl
      simp only [readValue, spaced, spacedMore] at parsed ⊢
      split at parsed
      · rename_i isString
        rw [if_pos isString]
        obtain ⟨read, literal, shape⟩ := Option.map_eq_some_iff.mp parsed
        cases shape
        rw [readString_more literal]
        rfl
      rename_i notString
      rw [if_neg notString]
      split at parsed
      · rename_i isArray
        rw [if_pos isArray]
        exact readArray_more readMore parsed
      rename_i notArray
      rw [if_neg notArray]
      split at parsed
      · rename_i isObject
        rw [if_pos isObject]
        exact readObject_more readMore parsed
      rename_i notObject
      rw [if_neg notObject]
      split at parsed
      · rename_i isNull
        rw [if_pos isNull]
        exact constant_more parsed more
      rename_i notNull
      rw [if_neg notNull]
      split at parsed
      · rename_i isTrue
        rw [if_pos isTrue]
        exact constant_more parsed more
      rename_i notTrue
      rw [if_neg notTrue]
      split at parsed
      · rename_i isFalse
        rw [if_pos isFalse]
        exact constant_more parsed more
      rename_i notFalse
      rw [if_neg notFalse]
      obtain ⟨read, literal, shape⟩ := Option.map_eq_some_iff.mp parsed
      cases shape
      have followed : read.2 ≠ [] :=
        apart.resolve_right fun noNumber => noNumber _ rfl
      rw [← List.cons_append, readNumber_more literal followed]
      rfl

end Step

/-- The readers say the same in front of more text. -/
private theorem readMore
    (more : List Char)
    (fuel extra : Nat) :
    ReadMore more fuel (fuel + extra) := by
  induction fuel with
  | zero =>
      refine ⟨?_, ?_, ?_, ?_⟩
      all_goals rintro _ _ _ ⟨⟩
  | succ fuel inductionHypothesis =>
      rw [Nat.succ_add]
      exact
        { value := readValue_more inductionHypothesis
          items := readItems_more inductionHypothesis
          member := readMember_more inductionHypothesis
          members := readMembers_more inductionHypothesis }

/-!
## Beginnings of a text
-/

/-- A text that begins with a brace holds an object. -/
private theorem object_of_readValue
    {fuel : Nat}
    {tail rest : List Char}
    {value : Value}
    (parsed : readValue fuel ('{' :: tail) = some (value, rest)) :
    ∃ members, value = .object members := by
  cases fuel with
  | zero =>
      cases parsed
  | succ fuel =>
      have notSpace : skipSpace ('{' :: tail) = '{' :: tail := rfl
      simp only [readValue, notSpace, ↓reduceIte, Char.reduceEq] at parsed
      split at parsed
      · cases parsed
        exact ⟨_, rfl⟩
      · split at parsed
        · cases parsed
        · obtain ⟨read, _, shape⟩ := Option.map_eq_some_iff.mp parsed
          cases shape
          exact ⟨_, rfl⟩

/-- Behind a beginning that can be read an object has nothing but space. -/
theorem skipSpace_of_read_beginning
    {beginning rest tail : List Char}
    {value whole : Value}
    (shape : beginning ++ rest = '{' :: tail)
    (parsed : read (String.ofList beginning) = some value)
    (parsedWhole : read (String.ofList ('{' :: tail)) = some whole) :
    skipSpace rest = [] := by
  simp only [read, String.toList_ofList] at parsed parsedWhole
  cases readBeginning : readValue (beginning.length + 1) beginning with
  | none =>
      simp [readBeginning] at parsed
  | some parts =>
      obtain ⟨first, behind⟩ := parts
      have isObject : ∀ literal, first ≠ .number literal := by
        cases beginning with
        | nil =>
            exact absurd rfl (skipSpace_of_readValue readBeginning)
        | cons symbol later =>
            obtain ⟨isBrace, _⟩ := List.cons.inj shape
            subst isBrace
            obtain ⟨members, isObject⟩ := object_of_readValue readBeginning
            subst isObject
            rintro literal ⟨⟩
      have enough :
          ('{' :: tail).length + 1 = beginning.length + 1 + rest.length := by
        rw [← shape, List.length_append]
        omega
      have again :=
        (readMore rest (beginning.length + 1) rest.length).value readBeginning
          (.inr isObject)
      rw [enough, ← shape, again] at parsedWhole
      simp only at parsedWhole
      split at parsedWhole
      · rename_i blank
        exact skipSpace_of_append blank
      · cases parsedWhole

/-- The members that are written end with a brace. -/
private theorem writeMembersLaidOut_ends
    (style : EscapeStyle)
    (layout : Layout)
    (depth : Nat)
    (members : Members) :
    ∃ body,
      writeMembersLaidOut style layout depth members = body ++ ['}'] := by
  induction members with
  | nil =>
      exact ⟨layout.gap depth, rfl⟩
  | cons member rest inductionHypothesis =>
      obtain ⟨body, isBody⟩ := inductionHypothesis
      refine ⟨',' :: (layout.gap (depth + 1) ++ (writeString style member.1 ++
        ':' :: (layout.afterColon ++
          (writeLaidOut style layout (depth + 1) member.2 ++ body)))), ?_⟩
      simp only [writeMembersLaidOut, isBody, List.append_assoc,
        List.cons_append]

/-- An object is written between braces. -/
private theorem writeLaidOut_object
    (style : EscapeStyle)
    (layout : Layout)
    (depth : Nat)
    (members : Members) :
    ∃ body,
      writeLaidOut style layout depth (.object members) =
        '{' :: (body ++ ['}']) := by
  cases members with
  | nil =>
      exact ⟨[], rfl⟩
  | cons member rest =>
      obtain ⟨body, isBody⟩ :=
        writeMembersLaidOut_ends style layout depth rest
      refine ⟨layout.gap (depth + 1) ++ (writeString style member.1 ++
        ':' :: (layout.afterColon ++
          (writeLaidOut style layout (depth + 1) member.2 ++ body))), ?_⟩
      simp only [writeLaidOut, isBody, List.append_assoc, List.cons_append]

/-- No proper beginning of a written object can be read. -/
theorem read_beginning
    {style : EscapeStyle}
    {layout : Layout}
    {depth : Nat}
    {members : Members}
    {beginning rest : List Char}
    (wellFormed : WellFormed (.object members))
    (written :
      writeLaidOut style layout depth (.object members) = beginning ++ rest)
    (cut : rest ≠ []) :
    read (String.ofList beginning) = none := by
  obtain ⟨body, isObject⟩ := writeLaidOut_object style layout depth members
  have readable :=
    read_writeLaidOut style layout depth wellFormed
  rw [isObject] at written readable
  rw [Option.eq_none_iff_forall_ne_some]
  intro value parsed
  have blank := skipSpace_of_read_beginning written.symm parsed readable
  have last : rest.getLast cut = '}' := by
    have ends :=
      List.getLast_append_of_ne_nil
        (List.append_ne_nil_of_right_ne_nil beginning cut) cut
    simp only [← written] at ends
    rw [← ends]
    simp
  have isSpace := List.dropWhile_eq_nil_iff.mp blank _ (List.getLast_mem cut)
  rw [last] at isSpace
  cases isSpace

end Passwd.Json
