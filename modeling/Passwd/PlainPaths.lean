import Passwd.HttpRoutes

namespace Passwd.Server

open Base64

/-!
# Paths of plain segments

A path whose segments are letters, digits and hyphens reads as it is written: no
byte of it is escaped or decoded, it is clean, and the mux matches its segments
as texts.
-/

/-- A byte that stands for itself in a segment. -/
def isPlain (byte : UInt8) : Bool :=
  isAlphanumeric byte || byte = 0x2d

/-- A segment that neither browsers nor servers spell in another way. -/
def PlainSegment (text : String) : Prop :=
  text ≠ "" ∧ ∀ byte ∈ bytesOf text, isPlain byte = true

/-- The path of some segments. -/
def pathOf (path : List String) : Bytes :=
  slash :: [slash].intercalate (path.map bytesOf)

/-- What holds of every byte by inspection holds of a byte. -/
theorem forall_byte
    (holds : UInt8 → Bool)
    (inspected : ∀ number, number < 256 → holds (UInt8.ofNat number) = true)
    (byte : UInt8) :
    holds byte = true := by
  have held := inspected byte.toNat byte.toNat_lt
  rwa [UInt8.ofNat_toNat] at held

/-- What a plain byte is not. -/
theorem of_isPlain
    {byte : UInt8}
    (plain : isPlain byte = true) :
    byte ≠ slash ∧ byte ≠ Percent.mark ∧ octetChar byte ≠ '?' ∧
      octetChar byte ≠ '.' ∧ ¬ (byte < 0x20 || byte = 0x7f) = true ∧
      keptInPath byte = true := by
  have inspected :=
    forall_byte
      (fun byte =>
        !isPlain byte ||
          (byte ≠ slash && byte ≠ Percent.mark && octetChar byte ≠ '?' &&
            octetChar byte ≠ '.' && !(byte < 0x20 || byte = 0x7f) &&
            keptInPath byte))
      (by decide +kernel) byte
  simpa [plain, and_assoc] using inspected

/-- A byte of a path is a slash or plain. -/
theorem mem_pathOf
    {path : List String}
    (plain : ∀ segment ∈ path, PlainSegment segment)
    {byte : UInt8}
    (member : byte ∈ pathOf path) :
    byte = slash ∨ isPlain byte = true := by
  have inside :
      ∀ path : List String,
        (∀ segment ∈ path, PlainSegment segment) →
          byte ∈ [slash].intercalate (path.map bytesOf) →
            byte = slash ∨ isPlain byte = true := by
    intro path
    induction path with
    | nil => simp
    | cons segment rest inductionHypothesis =>
        intro plain member
        have own := (plain segment List.mem_cons_self).2 byte
        have others :=
          inductionHypothesis fun other member =>
            plain other (List.mem_cons_of_mem _ member)
        cases rest with
        | nil =>
            simp only [List.map_cons, List.map_nil, List.intercalate_singleton]
              at member
            exact .inr (own member)
        | cons next later =>
            simp only [List.map_cons, List.intercalate_cons_cons,
              List.mem_append, List.mem_singleton] at member others
            rcases member with (first | isSlash) | tail
            · exact .inr (own first)
            · exact .inl isSlash
            · exact others tail
  rcases List.mem_cons.mp member with isSlash | member
  · exact .inl isSlash
  · exact inside path plain member

/-- What a byte of a path is not. -/
theorem of_mem_pathOf
    {path : List String}
    (plain : ∀ segment ∈ path, PlainSegment segment)
    {byte : UInt8}
    (member : byte ∈ pathOf path) :
    byte ≠ Percent.mark ∧ octetChar byte ≠ '?' ∧
      ¬ (byte < 0x20 || byte = 0x7f) = true ∧ keptInPath byte = true := by
  rcases mem_pathOf plain member with rfl | isPlain
  · decide
  · obtain ⟨-, notMark, notQuery, -, printed, kept⟩ := of_isPlain isPlain
    exact ⟨notMark, notQuery, printed, kept⟩

/-- The target of a path and a query is taken apart again. -/
theorem parseRequestURI_pathOf
    {path : List String}
    (plain : ∀ segment ∈ path, PlainSegment segment)
    {query : Bytes}
    (printed : ∀ byte ∈ query, ¬ (byte < 0x20 || byte = 0x7f) = true) :
    parseRequestURI
        (pathOf path ++ if query = [] then [] else 0x3f :: query) =
      some { EscapedPath := pathOf path, RawQuery := query } := by
  have bytes (byte : UInt8) (member : byte ∈ pathOf path) :=
    of_mem_pathOf plain member
  have noControl :
      (pathOf path ++ if query = [] then [] else 0x3f :: query).any
          (fun byte => byte < 0x20 || byte = 0x7f) =
        false := by
    rw [List.any_eq_false]
    intro byte member
    rcases List.mem_append.mp member with inPath | inQuery
    · exact (bytes byte inPath).2.2.1
    · split at inQuery
      · cases inQuery
      · rcases List.mem_cons.mp inQuery with rfl | inQuery
        · decide
        · exact printed byte inQuery
  have inPath (byte : UInt8) (member : byte ∈ pathOf path) :
      decide (octetChar byte ≠ '?') = true :=
    decide_eq_true (bytes byte member).2.1
  have isMark : octetChar 0x3f = '?' := by
    decide
  have taken :
      (pathOf path ++ if query = [] then [] else 0x3f :: query).takeWhile
          (octetChar · ≠ '?') =
        pathOf path := by
    rw [List.takeWhile_append_of_pos inPath]
    split
    · simp
    · simp [isMark]
  have dropped :
      ((pathOf path ++ if query = [] then [] else 0x3f :: query).dropWhile
          (octetChar · ≠ '?')).drop 1 =
        query := by
    rw [List.dropWhile_append_of_pos inPath]
    split
    · rename_i empty
      simp [empty]
    · simp [isMark]
  have decoded : Percent.decode id (pathOf path) = some (pathOf path) :=
    Percent.decode_of_plain fun byte member => ⟨(bytes byte member).1, rfl⟩
  have valid : validEncoded (pathOf path) = true := by
    rw [validEncoded, List.all_eq_true]
    intro byte member
    rw [(bytes byte member).2.2.2]
    rfl
  simp only [parseRequestURI, noControl, taken, dropped, decoded, valid,
    Bool.false_eq_true, if_false, Option.map_some, if_true]

/-- The segments of a path. -/
theorem segments_pathOf
    {path : List String}
    (plain : ∀ segment ∈ path, PlainSegment segment)
    (nonempty : path ≠ []) :
    segments (pathOf path) = path.map bytesOf := by
  rw [segments, pathOf, List.drop_succ_cons, List.drop_zero]
  apply List.splitOn_intercalate
  · intro segment member slashed
    obtain ⟨text, inPath, rfl⟩ := List.mem_map.mp member
    exact (of_isPlain ((plain text inPath).2 _ slashed)).1 rfl
  · simpa using nonempty

/-- Bytes spell one text. -/
theorem bytesOf_inj {text other : String} :
    bytesOf text = bytesOf other ↔ text = other := by
  constructor
  · intro same
    rw [← goText_bytesOf text, same, goText_bytesOf]
  · rintro rfl
    rfl

/-- A plain segment is no step of a path. -/
theorem bytesOf_plain
    {text : String}
    (plain : PlainSegment text) :
    bytesOf text ≠ [] ∧ bytesOf text ≠ [slash] ∧ bytesOf text ≠ bytesOf "." ∧
      bytesOf text ≠ bytesOf ".." ∧
      Percent.decode id (bytesOf text) = some (bytesOf text) := by
  obtain ⟨nonempty, bytes⟩ := plain
  refine ⟨?_, ?_, ?_, ?_, ?_⟩
  · intro empty
    have none : bytesOf "" = [] := by
      rw [bytesOf_eq_utf8]
      rfl
    exact nonempty (bytesOf_inj.mp (empty.trans none.symm))
  · intro same
    exact (of_isPlain (bytes slash (by simp [same]))).1 rfl
  · intro same
    have member : 0x2e ∈ bytesOf text := by
      rw [same, bytesOf_eq_utf8]
      decide
    exact absurd (bytes 0x2e member) (by decide)
  · intro same
    have member : 0x2e ∈ bytesOf text := by
      rw [same, bytesOf_eq_utf8]
      decide
    exact absurd (bytes 0x2e member) (by decide)
  · exact Percent.decode_of_plain fun byte member =>
      ⟨(of_isPlain (bytes byte member)).2.1, rfl⟩

/-- A path ends with its last segment. -/
theorem exists_last_segment :
    ∀ {path : List String},
      path ≠ [] →
        ∃ before last,
          last ∈ path ∧
            [slash].intercalate (path.map bytesOf) = before ++ bytesOf last
  | [], nonempty => absurd rfl nonempty
  | [last], _ => ⟨[], last, List.mem_singleton_self _, by simp⟩
  | first :: next :: rest, _ => by
      obtain ⟨before, last, member, ends⟩ :=
        exists_last_segment (List.cons_ne_nil next rest)
      refine
        ⟨bytesOf first ++ slash :: before, last,
          List.mem_cons_of_mem _ member, ?_⟩
      simp only [List.map_cons, List.intercalate_cons_cons] at ends ⊢
      rw [ends]
      simp

/-- A path of plain segments is clean. -/
theorem cleanPath_pathOf
    {path : List String}
    (plain : ∀ segment ∈ path, PlainSegment segment)
    (nonempty : path ≠ []) :
    cleanPath (pathOf path) = pathOf path := by
  have keeps :
      ∀ path : List String,
        (∀ segment ∈ path, PlainSegment segment) →
          ∀ kept,
            (path.map bytesOf).foldl cleanStep kept =
              kept ++ path.map bytesOf := by
    intro path
    induction path with
    | nil => simp
    | cons segment rest inductionHypothesis =>
        intro plain kept
        obtain ⟨notEmpty, -, notDot, notDots, -⟩ :=
          bytesOf_plain (plain segment List.mem_cons_self)
        have step :
            cleanStep kept (bytesOf segment) = kept ++ [bytesOf segment] := by
          simp [cleanStep, notEmpty, notDot, notDots]
        rw [List.map_cons, List.foldl_cons, step,
          inductionHypothesis fun other member =>
            plain other (List.mem_cons_of_mem _ member)]
        simp
  have noSlash : (pathOf path).getLast? ≠ some slash := by
    obtain ⟨before, last, member, ends⟩ := exists_last_segment nonempty
    have isPlain := plain last member
    intro isSlash
    rw [pathOf, ends, ← List.cons_append,
      List.getLast?_append_of_ne_nil _ (bytesOf_plain isPlain).1] at isSlash
    exact (of_isPlain (isPlain.2 _ (List.mem_of_getLast? isSlash))).1 rfl
  rw [cleanPath, segments_pathOf plain nonempty, keeps path plain,
    List.nil_append]
  simp only [noSlash, false_and, if_false]
  rfl

/-- The wildcards of a path of texts that matches a pattern. -/
def matchTexts : List Segment → List String → Option (List String)
  | [], [] => some []
  | .literal text :: pattern, segment :: path =>
      if segment = text then matchTexts pattern path else none
  | .id :: pattern, segment :: path =>
      (matchTexts pattern path).map (segment :: ·)
  | _, _ => none

/-- Plain segments are matched as texts. -/
theorem matchPath_plain :
    ∀ (pattern : List Segment) {path : List String},
      (∀ segment ∈ path, PlainSegment segment) →
        matchPath pattern (path.map bytesOf) =
          (matchTexts pattern path).map (·.map bytesOf)
  | [], [], _ => rfl
  | [], _ :: _, _ => rfl
  | .literal _ :: _, [], _ => rfl
  | .id :: _, [], _ => rfl
  | .literal text :: pattern, segment :: path, plain => by
      have own := bytesOf_plain (plain segment List.mem_cons_self)
      have rest :=
        matchPath_plain pattern fun other member =>
          plain other (List.mem_cons_of_mem segment member)
      rw [List.map_cons, matchPath, matchTexts, own.2.2.2.2,
        Option.getD_some]
      simp only [bytesOf_inj, rest]
      split
      · rfl
      · rfl
  | .id :: pattern, segment :: path, plain => by
      have own := bytesOf_plain (plain segment List.mem_cons_self)
      have rest :=
        matchPath_plain pattern fun other member =>
          plain other (List.mem_cons_of_mem segment member)
      rw [List.map_cons, matchPath, matchTexts, own.2.2.2.2,
        Option.getD_some, if_neg (not_or.mpr ⟨own.1, own.2.1⟩), rest,
        Option.map_map, Option.map_map]
      rfl

/-- The route of a method and a path of texts, with its wildcards. -/
def pickRoute (method : String) (path : List String) :
    Option (Route × List String) :=
  (routes.filterMap fun route =>
    (matchTexts route.pattern path).map fun values => (route, values)).find?
    fun candidate => candidate.1.serves method

/-- The mux finds the route of the texts of a plain path. -/
theorem findHandler_pathOf
    {method : String}
    {path : List String}
    (plain : ∀ segment ∈ path, PlainSegment segment)
    (nonempty : path ≠ [])
    {route : Route}
    {values : List String}
    (picked : pickRoute method path = some (route, values)) :
    findHandler method (pathOf path) = .route route (values.map bytesOf) := by
  have clean := cleanPath_pathOf plain nonempty
  have matching :
      (routes.filterMap fun route =>
          (matchPath route.pattern (segments (pathOf path))).map fun values =>
            (route, values)) =
        (routes.filterMap fun route =>
          (matchTexts route.pattern path).map fun values =>
            (route, values)).map
              (Prod.map id (List.map bytesOf)) := by
    rw [List.map_filterMap]
    apply List.filterMap_congr
    intro route _
    rw [segments_pathOf plain nonempty, matchPath_plain route.pattern plain,
      Option.map_map, Option.map_map]
    rfl
  have found :
      ((routes.filterMap fun route =>
          (matchTexts route.pattern path).map fun values =>
            (route, values)).map
              (Prod.map id (List.map bytesOf))).find?
          (fun candidate => candidate.1.serves method) =
        some (route, values.map bytesOf) := by
    rw [List.find?_map]
    have same := congrArg (Option.map (Prod.map id (List.map bytesOf))) picked
    exact same
  rw [findHandler, if_neg (fun dirty => dirty.2 clean)]
  simp only [matching, found]

end Passwd.Server
