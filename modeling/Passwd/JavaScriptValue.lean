import Passwd.JsonText

namespace Passwd.JavaScript

open Json

/-!
# JavaScript operations on parsed JSON

The operators that client code applies to values of unknown shape: property
access, spreading, truthiness and conversion to a string.  A result of `none`
is a thrown exception.

How a number prints is left to a parameter, because it is the only place where
the value of a number literal matters.
-/

/-- `value[key]` for a key that no prototype of a parsed value defines. -/
def property (value : Value) (key : String) : Option Value :=
  match value with
  | .object members => lookup members key
  | _ => none

/--
The own enumerable members that `...value` copies.  A string is taken apart
into its characters, those outside the basic plane aside.
-/
def spread : Value → Members
  | .object members => members
  | .array items =>
      items.zipIdx.map fun item => (item.2.repr, item.1)
  | .string text =>
      text.toList.zipIdx.map fun symbol =>
        (symbol.2.repr, .string (String.ofList [symbol.1]))
  | _ => []

/-- Members taken from positions have decimal keys. -/
theorem lookup_positions
    {α : Type}
    (value : α → Value)
    (items : List α)
    {key : String}
    {symbol : Char}
    (member : symbol ∈ key.toList)
    (notDigit : symbol.isDigit = false) :
    lookup
      (items.zipIdx.map fun item => (item.2.repr, value item.1)).reverse
      key = none := by
  simp only [lookup, Option.map_eq_none_iff, List.find?_eq_none,
    List.mem_reverse, List.mem_map, decide_eq_true_eq]
  rintro entry ⟨item, _, shape⟩ isKey
  subst entry
  have digits : symbol ∈ Nat.toDigits 10 item.2 := by
    rw [← Nat.toList_repr]
    simpa [← isKey] using member
  have isDigit := Nat.isDigit_of_mem_toDigits (by omega) (by omega) digits
  rw [notDigit] at isDigit
  cases isDigit

/-- The spread of a value has the member that the value has. -/
theorem lookup_spread
    {key : String}
    {fields : Value}
    {symbol : Char}
    (distinct :
      ∀ members, fields = .object members → (members.map Prod.fst).Nodup)
    (member : symbol ∈ key.toList)
    (notDigit : symbol.isDigit = false) :
    lookup (spread fields).reverse key = property fields key := by
  cases fields with
  | object members =>
      exact lookup_reverse (distinct members rfl) key
  | array items =>
      exact lookup_positions id items member notDigit
  | string value =>
      exact lookup_positions
        (fun symbol => Value.string (String.ofList [symbol]))
        value.toList member notDigit
  | null =>
      rfl
  | bool value =>
      rfl
  | number literal =>
      rfl

/-- `typeof value === "object"`, for a value other than `null`. -/
def isObject : Value → Bool
  | .object _ => true
  | .array _ => true
  | _ => false

/-- `value[key]` of a value that may be absent; `null` has no members either. -/
def member (value : Option Value) (key : String) : Option (Option Value) :=
  match value with
  | none => none
  | some .null => none
  | some value => some (property value key)

section Text

variable (numberText : String → String)

/-- Whether a value counts as true in a condition. -/
def truthy : Value → Bool
  | .null => false
  | .bool value => value
  | .number literal => numberText literal ≠ "0"
  | .string text => text ≠ ""
  | .array _ => true
  | .object _ => true

mutual

/--
`String(value)`.  An object with an own member `toString` cannot be converted,
because the member is data and the inherited `valueOf` returns the object.
-/
def text : Value → Option String
  | .null => some "null"
  | .bool true => some "true"
  | .bool false => some "false"
  | .number literal => some (numberText literal)
  | .string value => some value
  | .array items => (itemTexts items).map (String.intercalate ",")
  | .object members =>
      if (lookup members "toString").isSome then
        none
      else
        some "[object Object]"

/-- The texts that `Array.prototype.join` puts together. -/
def itemTexts : List Value → Option (List String)
  | [] => some []
  | .null :: rest => (itemTexts rest).map ("" :: ·)
  | item :: rest =>
      match text item, itemTexts rest with
      | some first, some later => some (first :: later)
      | _, _ => none

end

mutual

/-- A value that `String` converts: no object in it has a member `toString`. -/
def Convertible : Value → Prop
  | .array items => ConvertibleItems items
  | .object members => lookup members "toString" = none
  | _ => True

/-- Every item is convertible. -/
def ConvertibleItems : List Value → Prop
  | [] => True
  | item :: rest => Convertible item ∧ ConvertibleItems rest

end

mutual

/-- The convertible values are the ones that have a text. -/
theorem isSome_text :
    ∀ value : Value, (text numberText value).isSome = true ↔ Convertible value
  | .null => by simp [text, Convertible]
  | .bool true => by simp [text, Convertible]
  | .bool false => by simp [text, Convertible]
  | .number literal => by simp [text, Convertible]
  | .string value => by simp [text, Convertible]
  | .array items => by
      simp only [text, Convertible, Option.isSome_map]
      exact isSome_itemTexts items
  | .object members => by
      simp only [text, Convertible]
      cases lookup members "toString" with
      | none => simp
      | some own => simp

/-- The convertible items are the ones that have texts. -/
theorem isSome_itemTexts :
    ∀ items : List Value,
      (itemTexts numberText items).isSome = true ↔ ConvertibleItems items
  | [] => by simp [itemTexts, ConvertibleItems]
  | item :: rest => by
      have first := isSome_text item
      have later := isSome_itemTexts rest
      simp only [ConvertibleItems, ← first, ← later]
      cases item with
      | null => simp [itemTexts, text]
      | _ =>
          simp only [itemTexts]
          split
          · rename_i isText isTexts
            simp [isText, isTexts]
          · rename_i notBoth
            constructor
            · rintro ⟨⟩
            · rintro ⟨hasText, haveTexts⟩
              obtain ⟨isText, found⟩ := Option.isSome_iff_exists.mp hasText
              obtain ⟨areTexts, listed⟩ :=
                Option.isSome_iff_exists.mp haveTexts
              exact (notBoth isText areTexts found listed).elim

end

/-- `value == null ? fallback : String(value)`, for a value that may be absent. -/
def textOr (fallback : String) : Option Value → Option String
  | none => some fallback
  | some .null => some fallback
  | some value => text numberText value

/-- A value that may be absent is converted when it is convertible. -/
theorem isSome_textOr {fallback : String} {value : Option Value} :
    (textOr numberText fallback value).isSome = true ↔
      ∀ present, value = some present → Convertible present := by
  cases value with
  | none => simp [textOr]
  | some present =>
      cases present with
      | null => simp [textOr, Convertible]
      | _ => simp [textOr, isSome_text]

/-- `String(value)` of a value that may be absent. -/
def textOfProperty : Option Value → Option String
  | none => some "undefined"
  | some value => text numberText value

end Text

end Passwd.JavaScript
