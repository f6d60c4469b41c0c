import Passwd.RowTable
import Mathlib.Data.List.Count

namespace Passwd.InsertionMap

/-!
# Maps in order of insertion

A map is a table of keys and values.  Setting a key that is there keeps its
place.  Elements are grouped by pushing each one to the list under its key.
-/

variable {Key Value Element : Type}

/-- A map that lists its keys in the order in which they were first set. -/
abbrev Map (Key Value : Type) :=
  Table (Prod.fst : Key × Value → Key)

variable [DecidableEq Key]

/-- The value under a key. -/
def get (map : Map Key Value) (key : Key) : Option Value :=
  (map.find? key).map Prod.snd

/-- Set the value under a key. -/
def set (map : Map Key Value) (key : Key) (value : Value) : Map Key Value :=
  map.upsert (key, value)

@[simp] theorem get_empty (key : Key) :
    get (.empty : Map Key Value) key = none :=
  rfl

@[simp] theorem get_set
    (map : Map Key Value)
    (key : Key)
    (value : Value)
    (wanted : Key) :
    get (set map key value) wanted =
      if key = wanted then some value else get map wanted := by
  unfold get set
  rw [Table.find?_upsert]
  split
  · rfl
  · rfl

/-- The entries of a map are what is found in it. -/
theorem mem_rows_iff
    {map : Map Key Value}
    {key : Key}
    {value : Value} :
    (key, value) ∈ map.rows ↔ get map key = some value := by
  unfold get
  constructor
  · intro member
    have found : map.find? key = some (key, value) :=
      Table.find?_of_mem member
    rw [found]
    rfl
  · intro found
    obtain ⟨row, isRow, sameValue⟩ := Option.map_eq_some_iff.mp found
    have sameKey : row.1 = key := Table.key_of_find? isRow
    rw [← sameKey, ← sameValue]
    exact Table.mem_of_find? isRow

/-- Set several keys to one value. -/
def setAll (map : Map Key Value) (keys : List Key) (value : Value) :
    Map Key Value :=
  keys.foldl (fun map key => set map key value) map

/-- The keys have the value, and nothing else changes. -/
theorem get_setAll
    (map : Map Key Value)
    (keys : List Key)
    (value : Value)
    (wanted : Key) :
    get (setAll map keys value) wanted =
      if wanted ∈ keys then some value else get map wanted := by
  unfold setAll
  induction keys generalizing map with
  | nil =>
      rfl
  | cons key rest inductionHypothesis =>
      rw [List.foldl_cons, inductionHypothesis, get_set]
      by_cases later : wanted ∈ rest
      · simp [later]
      · by_cases same : key = wanted
        · simp [same]
        · simp [later, same, Ne.symm same]

/-- Append a value to the list under a key. -/
def push (map : Map Key (List Value)) (key : Key) (value : Value) :
    Map Key (List Value) :=
  set map key ((get map key).getD [] ++ [value])

/-- Push the value of each element that has a key under its key. -/
def pushAll
    (keyOf : Element → Option Key)
    (valueOf : Element → Value)
    (map : Map Key (List Value))
    (elements : List Element) : Map Key (List Value) :=
  elements.foldl
    (fun map element =>
      match keyOf element with
      | none => map
      | some key => push map key (valueOf element)) map

/-- Group the values of elements by key. -/
def group
    (keyOf : Element → Option Key)
    (valueOf : Element → Value)
    (elements : List Element) : Map Key (List Value) :=
  pushAll keyOf valueOf .empty elements

/-- The values of the elements with a key. -/
def valuesUnder
    (keyOf : Element → Option Key)
    (valueOf : Element → Value)
    (elements : List Element)
    (key : Key) : List Value :=
  (elements.filter fun element => keyOf element = some key).map valueOf

section Group

variable {keyOf : Element → Option Key} {valueOf : Element → Value}

/-- Pushing elements appends their values in order. -/
theorem get_pushAll
    (map : Map Key (List Value))
    (elements : List Element)
    (key : Key) :
    get (pushAll keyOf valueOf map elements) key =
      if valuesUnder keyOf valueOf elements key = [] then
        get map key
      else
        some ((get map key).getD [] ++
          valuesUnder keyOf valueOf elements key) := by
  unfold pushAll
  induction elements generalizing map with
  | nil =>
      rfl
  | cons element rest inductionHypothesis =>
      rw [List.foldl_cons, inductionHypothesis]
      cases found : keyOf element with
      | none =>
          simp [valuesUnder, found]
      | some other =>
          by_cases same : other = key
          · by_cases last :
                rest.filter (fun element => keyOf element = some key) = []
            · simp [valuesUnder, found, same, last, push]
            · simp [valuesUnder, found, same, last, push]
          · simp [valuesUnder, found, same, push]

/-- A group has the values of the elements with its key, and is not empty. -/
theorem get_group
    (elements : List Element)
    (key : Key)
    (values : List Value) :
    get (group keyOf valueOf elements) key = some values ↔
      values = valuesUnder keyOf valueOf elements key ∧ values ≠ [] := by
  unfold group
  rw [get_pushAll, get_empty]
  by_cases none : valuesUnder keyOf valueOf elements key = []
  · rw [if_pos none, none]
    simp
  · rw [if_neg none]
    constructor
    · intro same
      rw [← Option.some.inj same]
      exact ⟨rfl, none⟩
    · rintro ⟨same, _⟩
      rw [same]
      rfl

/-- The values of the groups are those of the elements that have keys. -/
theorem mem_group_iff
    {elements : List Element}
    {key : Key}
    {value : Value} :
    (∃ values, (key, values) ∈ (group keyOf valueOf elements).rows ∧
      value ∈ values) ↔
      ∃ element ∈ elements,
        keyOf element = some key ∧ valueOf element = value := by
  have underKey :
      value ∈ valuesUnder keyOf valueOf elements key ↔
        ∃ element ∈ elements,
          keyOf element = some key ∧ valueOf element = value := by
    simp [valuesUnder, and_assoc]
  rw [← underKey]
  constructor
  · rintro ⟨values, isGroup, member⟩
    rw [mem_rows_iff, get_group] at isGroup
    rwa [← isGroup.1]
  · intro member
    refine ⟨_, ?_, member⟩
    rw [mem_rows_iff, get_group]
    exact ⟨rfl, List.ne_nil_of_mem member⟩

/-- No group has two values exactly when no two elements have the same key. -/
theorem groups_single_iff (elements : List Element) :
    (∀ row ∈ (group keyOf valueOf elements).rows, row.2.length ≤ 1) ↔
      (elements.filterMap keyOf).Nodup := by
  have counted :
      ∀ key,
        (valuesUnder keyOf valueOf elements key).length =
          (elements.filterMap keyOf).count key := by
    intro key
    rw [valuesUnder, List.length_map]
    induction elements with
    | nil =>
        rfl
    | cons element rest inductionHypothesis =>
        cases found : keyOf element with
        | none =>
            simp [found, inductionHypothesis]
        | some other =>
            by_cases same : other = key
            · simp [found, same, inductionHypothesis]
            · simp [found, same, inductionHypothesis]
  rw [List.nodup_iff_count_le_one]
  constructor
  · intro single key
    rw [← counted key]
    by_cases none : valuesUnder keyOf valueOf elements key = []
    · rw [none]
      exact Nat.zero_le 1
    · exact single (key, _)
        (mem_rows_iff.mpr ((get_group ..).mpr ⟨rfl, none⟩))
  · rintro atMostOne ⟨key, values⟩ isGroup
    rw [mem_rows_iff, get_group] at isGroup
    rw [isGroup.1, counted key]
    exact atMostOne key

end Group

end Passwd.InsertionMap
