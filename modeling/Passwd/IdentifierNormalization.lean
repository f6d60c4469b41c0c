import Passwd.TextRuns
import Mathlib.Tactic.Common

namespace Passwd.Identifier

open TextRuns

/-!
# The two identifier normalizers

The client (TypeScript) and the server (Go) each trim an identifier, lower its
case and collapse its runs of white space.  The languages disagree about which
characters are white space and about two case mappings: JavaScript lowers `İ` to
two characters and a capital sigma at the end of a word to `ς`, while Go maps
every character on its own.

The Unicode character database is a parameter: the simple lower-case mapping
and the two properties that decide the final sigma, with the facts about them
that the normalizers rely on.
-/

/-!
## White space
-/

/-- What JavaScript's `trim` removes and its `\s` matches. -/
def isJsSpace (symbol : Char) : Bool :=
  symbol.toNat ∈ [0x09, 0x0A, 0x0B, 0x0C, 0x0D, 0x20, 0xA0, 0x1680, 0x2028,
    0x2029, 0x202F, 0x205F, 0x3000, 0xFEFF] ||
      (0x2000 ≤ symbol.toNat && symbol.toNat ≤ 0x200A)

/-- `unicode.IsSpace`, which `strings.TrimSpace` removes. -/
def isGoSpace (symbol : Char) : Bool :=
  symbol.toNat ∈ [0x09, 0x0A, 0x0B, 0x0C, 0x0D, 0x20, 0x85, 0xA0, 0x1680,
    0x2028, 0x2029, 0x202F, 0x205F, 0x3000] ||
      (0x2000 ≤ symbol.toNat && symbol.toNat ≤ 0x200A)

/-- What `\s` matches in RE2. -/
def isRe2Space (symbol : Char) : Bool :=
  symbol.toNat ∈ [0x09, 0x0A, 0x0C, 0x0D, 0x20]

/-- White space to both languages when they trim. -/
def isCommonSpace (symbol : Char) : Bool :=
  isJsSpace symbol && isGoSpace symbol

/-- The control character NEL, white space to Go only. -/
def nextLine : Char := Char.ofNat 0x85

/-- The combining dot above, which JavaScript appends when it lowers `İ`. -/
def dotAbove : Char := Char.ofNat 0x307

/-- The small letter sigma in its final form. -/
def finalSigma : Char := 'ς'

/-- White space to RE2 is white space to JavaScript. -/
theorem isJsSpace_of_isRe2Space
    {symbol : Char}
    (space : isRe2Space symbol = true) :
    isJsSpace symbol = true := by
  simp only [isRe2Space, isJsSpace, List.mem_cons, List.not_mem_nil,
    or_false, Bool.or_eq_true, decide_eq_true_eq] at space ⊢
  omega

/-- White space to RE2 is trimmed by Go. -/
theorem isGoSpace_of_isRe2Space
    {symbol : Char}
    (space : isRe2Space symbol = true) :
    isGoSpace symbol = true := by
  simp only [isRe2Space, isGoSpace, List.mem_cons, List.not_mem_nil,
    or_false, Bool.or_eq_true, decide_eq_true_eq] at space ⊢
  omega

/-- The only character that Go trims and JavaScript does not. -/
theorem isJsSpace_or_nextLine_of_isGoSpace
    {symbol : Char}
    (space : isGoSpace symbol = true) :
    isJsSpace symbol = true ∨ symbol = nextLine := by
  have code : isJsSpace symbol = true ∨ symbol.toNat = nextLine.toNat := by
    have nextLineCode : nextLine.toNat = 0x85 := by decide
    rw [nextLineCode]
    simp only [isGoSpace, isJsSpace, List.mem_cons, List.not_mem_nil,
      or_false, Bool.or_eq_true, decide_eq_true_eq, Bool.and_eq_true]
      at space ⊢
    omega
  exact code.imp_right Char.toNat_inj.mp

/-!
## Case
-/

/--
The part of the Unicode character database that lower-casing consults, with
facts that hold of every version of it: lower-casing is idempotent, neither
moves nor makes white space, and makes no combining dot and no final sigma.
-/
structure CaseMapping where
  lower : Char → Char
  cased : Char → Bool
  caseIgnorable : Char → Bool
  lower_lower : ∀ symbol, lower (lower symbol) = lower symbol
  lower_space :
    ∀ symbol, isJsSpace symbol = true ∨ isGoSpace symbol = true →
      lower symbol = symbol
  space_of_lower :
    ∀ symbol, isJsSpace (lower symbol) = true ∨
      isGoSpace (lower symbol) = true → lower symbol = symbol
  lower_eq_dotAbove :
    ∀ symbol, lower symbol = dotAbove ↔ symbol = dotAbove
  lower_eq_finalSigma :
    ∀ symbol, lower symbol = finalSigma ↔ symbol = finalSigma

namespace CaseMapping

variable (mapping : CaseMapping)

/-- Whether case-ignorable characters, possibly none, lead to a cased one. -/
def reachesCased : List Char → Bool
  | [] => false
  | symbol :: rest =>
      mapping.cased symbol ||
        (mapping.caseIgnorable symbol && reachesCased rest)

/--
The condition `Final_Sigma` between the characters before, in reverse order,
and the characters after.
-/
def endsWord (before after : List Char) : Bool :=
  mapping.reachesCased before && !mapping.reachesCased after

/-- How many capital sigmas of a text stand at the end of a word. -/
def finalSigmas (before : List Char) : List Char → Nat
  | [] => 0
  | symbol :: after =>
      (if symbol = 'Σ' ∧ mapping.endsWord before after = true then 1 else 0) +
        finalSigmas (symbol :: before) after

/-- What JavaScript lowers one character to, in its context. -/
def lowerInContext (before : List Char) (symbol : Char) (after : List Char) :
    List Char :=
  if symbol = 'İ' then ['i', dotAbove]
  else if symbol = 'Σ' ∧ mapping.endsWord before after = true then
    [finalSigma]
  else [mapping.lower symbol]

/-- JavaScript's `toLowerCase`, after the characters `before`. -/
def toLowerCaseAfter (before : List Char) : List Char → List Char
  | [] => []
  | symbol :: after =>
      mapping.lowerInContext before symbol after ++
        toLowerCaseAfter (symbol :: before) after

/-- JavaScript's `toLowerCase`. -/
def toLowerCase (text : List Char) : List Char :=
  mapping.toLowerCaseAfter [] text

/-- Go's `strings.ToLower`. -/
def toLower (text : List Char) : List Char :=
  text.map mapping.lower

end CaseMapping

/-- Lower-casing of the ASCII letters. -/
private def asciiLower (symbol : Char) : Char :=
  if 65 ≤ symbol.toNat ∧ symbol.toNat ≤ 90 then
    Char.ofNat (symbol.toNat + 32)
  else
    symbol

/-- The code of a lowered ASCII letter. -/
private theorem toNat_asciiLower (symbol : Char) :
    (asciiLower symbol).toNat =
      if 65 ≤ symbol.toNat ∧ symbol.toNat ≤ 90 then
        symbol.toNat + 32
      else
        symbol.toNat := by
  have codes :
      ∀ code, code < 91 → (Char.ofNat (code + 32)).toNat = code + 32 := by
    decide
  unfold asciiLower
  split
  · rename_i capital
    exact codes symbol.toNat (by omega)
  · rfl

/-- Only a capital is changed, and into a letter. -/
private theorem asciiLower_eq_or (symbol : Char) :
    asciiLower symbol = symbol ∨
      (65 ≤ symbol.toNat ∧ symbol.toNat ≤ 90 ∧
        (asciiLower symbol).toNat = symbol.toNat + 32) := by
  by_cases capital : 65 ≤ symbol.toNat ∧ symbol.toNat ≤ 90
  · have code := toNat_asciiLower symbol
    rw [if_pos capital] at code
    exact Or.inr ⟨capital.1, capital.2, code⟩
  · exact Or.inl (if_neg capital)

/-- The case mapping of a text that has no letters outside ASCII. -/
def asciiCase : CaseMapping where
  lower := asciiLower
  cased symbol :=
    (65 ≤ symbol.toNat && symbol.toNat ≤ 90) ||
      (97 ≤ symbol.toNat && symbol.toNat ≤ 122)
  caseIgnorable symbol := symbol ∈ ['.', ':', '^', Char.ofNat 39, Char.ofNat 96]
  lower_lower symbol := by
    rcases asciiLower_eq_or symbol with same | ⟨low, high, code⟩
    · rw [same, same]
    · refine if_neg ?_
      omega
  lower_space symbol space := by
    rcases asciiLower_eq_or symbol with same | ⟨low, high, code⟩
    · exact same
    · simp [isJsSpace, isGoSpace] at space
      omega
  space_of_lower symbol space := by
    rcases asciiLower_eq_or symbol with same | ⟨low, high, code⟩
    · exact same
    · simp [isJsSpace, isGoSpace, code] at space
      omega
  lower_eq_dotAbove symbol := by
    have dot : dotAbove.toNat = 775 := by decide
    rcases asciiLower_eq_or symbol with same | ⟨low, high, code⟩
    · rw [same]
    · rw [← Char.toNat_inj, ← Char.toNat_inj, code, dot]
      omega
  lower_eq_finalSigma symbol := by
    have sigma : finalSigma.toNat = 962 := by decide
    rcases asciiLower_eq_or symbol with same | ⟨low, high, code⟩
    · rw [same]
    · rw [← Char.toNat_inj, ← Char.toNat_inj, code, sigma]
      omega

/-!
## The normalizers
-/

section Normalizers

variable (mapping : CaseMapping)

/-- `normalizeIdentifier` of the client. -/
def normalizeIdentifier (identifier : String) : String :=
  String.ofList
    (collapse isJsSpace ' '
      (mapping.toLowerCase (trim isJsSpace identifier.toList)))

/-- `NormalizeIdentifier` of the server. -/
def serverNormalizeIdentifier (identifier : String) : String :=
  String.ofList
    (collapse isRe2Space ' '
      (mapping.toLower (trim isGoSpace identifier.toList)))

/-- An identifier without the white space that both languages trim. -/
def core (identifier : String) : List Char :=
  trim isCommonSpace identifier.toList

/-- The identifiers that both languages normalize in the same way. -/
structure Portable (identifier : String) : Prop where
  spaces :
    ∀ symbol ∈ core identifier,
      isJsSpace symbol = true → isRe2Space symbol = true
  front : (core identifier).head? ≠ some nextLine
  back : (core identifier).getLast? ≠ some nextLine
  dottedI : 'İ' ∉ core identifier
  sigmas : mapping.finalSigmas [] (core identifier) = 0

end Normalizers

namespace CaseMapping

variable {mapping : CaseMapping}

/-- Without the two special characters JavaScript lowers like Go. -/
theorem toLowerCaseAfter_eq_toLower
    {before text : List Char}
    (dottedI : 'İ' ∉ text)
    (sigmas : mapping.finalSigmas before text = 0) :
    mapping.toLowerCaseAfter before text = mapping.toLower text := by
  induction text generalizing before with
  | nil =>
      rfl
  | cons symbol after inductionHypothesis =>
      simp only [List.mem_cons, not_or] at dottedI
      simp only [finalSigmas, Nat.add_eq_zero_iff] at sigmas
      have tail := inductionHypothesis dottedI.2 sigmas.2
      have notFinal :
          ¬ (symbol = 'Σ' ∧ mapping.endsWord before after = true) := by
        intro isFinal
        have one := sigmas.1
        rw [if_pos isFinal] at one
        cases one
      simp only [toLowerCaseAfter, lowerInContext, tail, toLower,
        Ne.symm dottedI.1, notFinal, ↓reduceIte]
      rfl

/-- JavaScript adds one combining dot for every `İ`. -/
theorem count_dotAbove_toLowerCaseAfter (before text : List Char) :
    (mapping.toLowerCaseAfter before text).count dotAbove =
      (mapping.toLower text).count dotAbove + text.count 'İ' := by
  induction text generalizing before with
  | nil =>
      rfl
  | cons symbol after inductionHypothesis =>
      have tail := inductionHypothesis (symbol :: before)
      simp only [toLowerCaseAfter, List.count_append, tail, toLower,
        List.map_cons, List.count_cons]
      have notDot : ('İ' : Char) ≠ dotAbove := by decide
      by_cases dotted : symbol = 'İ'
      · have lowered : mapping.lower 'İ' ≠ dotAbove := by
          intro isDot
          exact notDot ((mapping.lower_eq_dotAbove 'İ').mp isDot)
        have added : List.count dotAbove ['i', dotAbove] = 1 := by decide
        simp only [lowerInContext, dotted, ↓reduceIte, added, beq_iff_eq,
          lowered, Nat.add_zero]
        omega
      · by_cases isFinal :
          symbol = 'Σ' ∧ mapping.endsWord before after = true
        · have sigma : List.count dotAbove [finalSigma] = 0 := by decide
          have lowered : mapping.lower 'Σ' ≠ dotAbove := by
            intro isDot
            have same := (mapping.lower_eq_dotAbove 'Σ').mp isDot
            revert same
            decide
          have notDotted : ('Σ' : Char) ≠ 'İ' := by decide
          obtain ⟨isCapital, ends⟩ := isFinal
          subst symbol
          simp only [lowerInContext, notDotted, ends, and_self, ↓reduceIte,
            sigma, beq_iff_eq, lowered]
          omega
        · simp only [lowerInContext, dotted, isFinal, ↓reduceIte,
            List.count_singleton, beq_iff_eq]
          omega

/-- JavaScript adds one final sigma for every capital one that ends a word. -/
theorem count_finalSigma_toLowerCaseAfter (before text : List Char) :
    (mapping.toLowerCaseAfter before text).count finalSigma =
      (mapping.toLower text).count finalSigma +
        mapping.finalSigmas before text := by
  induction text generalizing before with
  | nil =>
      rfl
  | cons symbol after inductionHypothesis =>
      have tail := inductionHypothesis (symbol :: before)
      simp only [toLowerCaseAfter, List.count_append, tail, toLower,
        List.map_cons, List.count_cons, finalSigmas]
      have lowered :
          ∀ {capital : Char}, capital ≠ finalSigma →
            mapping.lower capital ≠ finalSigma := by
        intro capital different isSigma
        exact different ((mapping.lower_eq_finalSigma capital).mp isSigma)
      by_cases dotted : symbol = 'İ'
      · subst symbol
        have none : List.count finalSigma ['i', dotAbove] = 0 := by decide
        have notCapital : ('İ' : Char) ≠ 'Σ' := by decide
        have other : mapping.lower 'İ' ≠ finalSigma := lowered (by decide)
        simp only [lowerInContext, ↓reduceIte, none, beq_iff_eq, other,
          notCapital, false_and]
        omega
      · by_cases isFinal :
          symbol = 'Σ' ∧ mapping.endsWord before after = true
        · have sigma : List.count finalSigma [finalSigma] = 1 := by decide
          have other : mapping.lower 'Σ' ≠ finalSigma := lowered (by decide)
          have notDotted : ('Σ' : Char) ≠ 'İ' := by decide
          obtain ⟨isCapital, ends⟩ := isFinal
          subst symbol
          simp only [lowerInContext, notDotted, ends, and_self, ↓reduceIte,
            sigma, beq_iff_eq, other]
          omega
        · simp only [lowerInContext, dotted, isFinal, ↓reduceIte,
            List.count_singleton, beq_iff_eq]
          omega

/-- Lower-casing leaves the white space of Go where it is. -/
theorem isGoSpace_lower (mapping : CaseMapping) (symbol : Char) :
    isGoSpace (mapping.lower symbol) = isGoSpace symbol := by
  by_cases space : isGoSpace symbol = true
  · rw [mapping.lower_space symbol (Or.inr space)]
  · by_cases lowered : isGoSpace (mapping.lower symbol) = true
    · rw [mapping.space_of_lower symbol (Or.inr lowered)]
    · rw [Bool.not_eq_true] at space lowered
      rw [space, lowered]

/-- Lower-casing leaves the white space of JavaScript where it is. -/
theorem isJsSpace_lower (mapping : CaseMapping) (symbol : Char) :
    isJsSpace (mapping.lower symbol) = isJsSpace symbol := by
  by_cases space : isJsSpace symbol = true
  · rw [mapping.lower_space symbol (Or.inl space)]
  · by_cases lowered : isJsSpace (mapping.lower symbol) = true
    · rw [mapping.space_of_lower symbol (Or.inl lowered)]
    · rw [Bool.not_eq_true] at space lowered
      rw [space, lowered]

/-- Lower-casing keeps the ends of a text bare of white space. -/
theorem bare_toLower
    {text : List Char}
    (bare : Bare isGoSpace text) :
    Bare isGoSpace (mapping.toLower text) := by
  constructor
  · intro symbol first
    rw [toLower, List.head?_map, Option.map_eq_some_iff] at first
    obtain ⟨original, isFirst, rfl⟩ := first
    rw [isGoSpace_lower]
    exact bare.1 original isFirst
  · intro symbol last
    rw [toLower, List.getLast?_map, Option.map_eq_some_iff] at last
    obtain ⟨original, isLast, rfl⟩ := last
    rw [isGoSpace_lower]
    exact bare.2 original isLast

/-- A last character without a special case is lowered to the last one. -/
theorem getLast?_toLowerCaseAfter
    {before text : List Char}
    {symbol : Char}
    (last : text.getLast? = some symbol)
    (notDotted : symbol ≠ 'İ')
    (notSigma : symbol ≠ 'Σ') :
    (mapping.toLowerCaseAfter before text).getLast? =
      some (mapping.lower symbol) := by
  induction text generalizing before with
  | nil =>
      cases last
  | cons first rest inductionHypothesis =>
      cases rest with
      | nil =>
          simp only [List.getLast?_singleton, Option.some.injEq] at last
          subst first
          simp [toLowerCaseAfter, lowerInContext, notDotted, notSigma]
      | cons second others =>
          rw [List.getLast?_cons_cons] at last
          have tail := @inductionHypothesis (first :: before) last
          rw [toLowerCaseAfter, List.getLast?_append, tail]
          rfl

end CaseMapping

/-!
## When the normalizers agree
-/

section Agreement

variable {mapping : CaseMapping} {text : List Char}

/-- `normalizeIdentifier` on the characters of an identifier. -/
private def clientForm (mapping : CaseMapping) (text : List Char) :
    List Char :=
  collapse isJsSpace ' ' (mapping.toLowerCase (trim isJsSpace text))

/-- `NormalizeIdentifier` on the characters of an identifier. -/
private def serverForm (mapping : CaseMapping) (text : List Char) :
    List Char :=
  collapse isRe2Space ' ' (mapping.toLower (trim isGoSpace text))

/-- Both normalizers ignore white space that both languages trim. -/
private theorem forms_trim (mapping : CaseMapping) (text : List Char) :
    clientForm mapping (trim isCommonSpace text) = clientForm mapping text ∧
      serverForm mapping (trim isCommonSpace text) =
        serverForm mapping text := by
  have jsWider :
      ∀ symbol, isCommonSpace symbol = true → isJsSpace symbol = true := by
    intro symbol space
    exact (Bool.and_eq_true _ _ ▸ space).1
  have goWider :
      ∀ symbol, isCommonSpace symbol = true → isGoSpace symbol = true := by
    intro symbol space
    exact (Bool.and_eq_true _ _ ▸ space).2
  unfold clientForm serverForm
  rw [trim_trim jsWider, trim_trim goWider]
  exact ⟨rfl, rfl⟩

/-- The client's form holds no white space but spaces. -/
private theorem mem_clientForm
    {symbol : Char}
    (member : symbol ∈ clientForm mapping text)
    (space : isJsSpace symbol = true) :
    symbol = ' ' := by
  rcases mem_collapse member with isSpace | ⟨_, unselected⟩
  · exact isSpace
  · rw [unselected] at space
    cases space

/-- The server's form neither begins nor ends with white space. -/
private theorem bare_serverForm (mapping : CaseMapping) (text : List Char) :
    Bare isGoSpace (serverForm mapping text) := by
  have lowered : Bare isGoSpace (mapping.toLower (trim isGoSpace text)) :=
    CaseMapping.bare_toLower (bare_trim isGoSpace text)
  have inner : Bare isRe2Space (mapping.toLower (trim isGoSpace text)) :=
    lowered.mono fun _ space => isGoSpace_of_isRe2Space space
  exact bare_collapse inner lowered

/-- White space that RE2 does not match survives in the server's form. -/
private theorem mem_serverForm
    {symbol : Char}
    (member : symbol ∈ trim isGoSpace text)
    (space : isJsSpace symbol = true)
    (notRe2 : isRe2Space symbol = false) :
    symbol ∈ serverForm mapping text := by
  apply mem_collapse_of_unselected
  · have fixed := mapping.lower_space symbol (Or.inl space)
    rw [← fixed]
    exact List.mem_map_of_mem member
  · exact notRe2

/-- Characters that Go does not trim are still there after trimming. -/
private theorem mem_trim_isGoSpace
    {symbol : Char}
    (member : symbol ∈ text)
    (notSpace : isGoSpace symbol = false) :
    symbol ∈ trim isGoSpace text := by
  obtain ⟨front, back, frontSpace, backSpace, shape⟩ :=
    exists_ends isGoSpace text
  rw [shape] at member
  simp only [List.mem_append] at member
  rcases member with inFront | inMiddle | inBack
  · rw [frontSpace symbol inFront] at notSpace
    cases notSpace
  · exact inMiddle
  · rw [backSpace symbol inBack] at notSpace
    cases notSpace

/-- Where JavaScript's white space is common, bare ends are bare for it. -/
private theorem bare_isJsSpace
    (bare : Bare isCommonSpace text)
    (common :
      ∀ symbol ∈ text, isJsSpace symbol = true → isGoSpace symbol = true) :
    Bare isJsSpace text := by
  have unselected :
      ∀ symbol ∈ text, isCommonSpace symbol = false →
        isJsSpace symbol = false := by
    intro symbol member outside
    by_contra inside
    rw [Bool.not_eq_false] at inside
    simp [isCommonSpace, inside, common symbol member inside] at outside
  constructor
  · intro symbol first
    exact unselected symbol (List.mem_of_head? first)
      (bare.1 symbol first)
  · intro symbol last
    exact unselected symbol (List.mem_of_getLast? last)
      (bare.2 symbol last)

/-- Without a next line at its ends, bare ends are bare for Go. -/
private theorem bare_isGoSpace
    (bare : Bare isCommonSpace text)
    (front : text.head? ≠ some nextLine)
    (back : text.getLast? ≠ some nextLine) :
    Bare isGoSpace text := by
  have unselected :
      ∀ symbol, symbol ≠ nextLine → isCommonSpace symbol = false →
        isGoSpace symbol = false := by
    intro symbol notNextLine outside
    by_contra inside
    rw [Bool.not_eq_false] at inside
    rcases isJsSpace_or_nextLine_of_isGoSpace inside with space | same
    · simp [isCommonSpace, inside, space] at outside
    · exact notNextLine same
  constructor
  · intro symbol first
    refine unselected symbol ?_ (bare.1 symbol first)
    rintro rfl
    exact front first
  · intro symbol last
    refine unselected symbol ?_ (bare.2 symbol last)
    rintro rfl
    exact back last

/-- White space of JavaScript that RE2 does not match tells the forms apart. -/
private theorem spaces_of_agree
    (agree : clientForm mapping text = serverForm mapping text)
    {symbol : Char}
    (member : symbol ∈ trim isGoSpace text)
    (space : isJsSpace symbol = true) :
    isRe2Space symbol = true := by
  by_contra notRe2
  rw [Bool.not_eq_true] at notRe2
  have survives : symbol ∈ serverForm mapping text :=
    mem_serverForm member space notRe2
  rw [← agree] at survives
  have isBlank := mem_clientForm survives space
  subst symbol
  revert notRe2
  decide

/-- A next line at an end tells the forms apart. -/
private theorem ends_of_agree
    (agree : clientForm mapping text = serverForm mapping text)
    (bare : Bare isJsSpace text) :
    text.head? ≠ some nextLine ∧ text.getLast? ≠ some nextLine := by
  have clientShape :
      clientForm mapping text =
        collapse isJsSpace ' ' (mapping.toLowerCase text) := by
    rw [clientForm, trim_of_bare bare]
  have nextLineSpace : isGoSpace nextLine = true := by decide
  have fixed : mapping.lower nextLine = nextLine :=
    mapping.lower_space nextLine (Or.inr nextLineSpace)
  have serverBare := bare_serverForm mapping text
  rw [← agree, clientShape] at serverBare
  constructor
  · intro first
    cases text with
    | nil =>
        cases first
    | cons symbol rest =>
        cases first
        have starts :
            collapse isJsSpace ' '
                (mapping.toLowerCase (nextLine :: rest)) =
              nextLine ::
                collapse isJsSpace ' '
                  (mapping.toLowerCaseAfter [nextLine] rest) := by
          have plain :
              mapping.lowerInContext [] nextLine rest = [nextLine] := by
            have notDotted : nextLine ≠ 'İ' := by decide
            have notSigma : nextLine ≠ 'Σ' := by decide
            simp [CaseMapping.lowerInContext, notDotted, notSigma, fixed]
          have notSelected : isJsSpace nextLine = false := by decide
          simp [CaseMapping.toLowerCase, CaseMapping.toLowerCaseAfter,
            plain, collapse, notSelected]
        have notSpace := serverBare.1 nextLine (by rw [starts]; rfl)
        rw [nextLineSpace] at notSpace
        cases notSpace
  · intro last
    have lowered :
        (mapping.toLowerCase text).getLast? = some nextLine := by
      have ends :=
        @CaseMapping.getLast?_toLowerCaseAfter mapping [] text nextLine
          last (by decide) (by decide)
      rwa [fixed] at ends
    have ends :
        (collapse isJsSpace ' ' (mapping.toLowerCase text)).getLast? =
          some nextLine := by
      rw [getLast?_collapse, lowered]
      intro symbol isLast
      rw [lowered] at isLast
      cases isLast
      decide
    have notSpace := serverBare.2 nextLine ends
    rw [nextLineSpace] at notSpace
    cases notSpace

/-- Once trimming agrees, only the two special characters can disagree. -/
private theorem special_of_agree
    (agree : clientForm mapping text = serverForm mapping text)
    (bareJs : Bare isJsSpace text)
    (bareGo : Bare isGoSpace text) :
    'İ' ∉ text ∧ mapping.finalSigmas [] text = 0 := by
  have same :
      collapse isJsSpace ' ' (mapping.toLowerCase text) =
        collapse isRe2Space ' ' (mapping.toLower text) := by
    have forms := agree
    unfold clientForm serverForm at forms
    rwa [trim_of_bare bareJs, trim_of_bare bareGo] at forms
  constructor
  · have counts := congrArg (List.count dotAbove) same
    rw [count_collapse (by decide) (by decide),
      count_collapse (by decide) (by decide),
      CaseMapping.toLowerCase,
      CaseMapping.count_dotAbove_toLowerCaseAfter] at counts
    apply List.count_eq_zero.mp
    omega
  · have counts := congrArg (List.count finalSigma) same
    rw [count_collapse (by decide) (by decide),
      count_collapse (by decide) (by decide),
      CaseMapping.toLowerCase,
      CaseMapping.count_finalSigma_toLowerCaseAfter] at counts
    omega

/-- The two forms of a portable text are equal. -/
private theorem agree_of_portable
    (bareJs : Bare isJsSpace text)
    (bareGo : Bare isGoSpace text)
    (spaces :
      ∀ symbol ∈ text, isJsSpace symbol = true → isRe2Space symbol = true)
    (dottedI : 'İ' ∉ text)
    (sigmas : mapping.finalSigmas [] text = 0) :
    clientForm mapping text = serverForm mapping text := by
  unfold clientForm serverForm
  rw [trim_of_bare bareJs, trim_of_bare bareGo, CaseMapping.toLowerCase,
    CaseMapping.toLowerCaseAfter_eq_toLower dottedI sigmas]
  apply collapse_congr
  intro lowered member
  obtain ⟨symbol, inText, rfl⟩ := List.mem_map.mp member
  by_cases space : isJsSpace symbol = true
  · rw [mapping.lower_space symbol (Or.inl space), space,
      spaces symbol inText space]
  · have stays := CaseMapping.isJsSpace_lower mapping symbol
    rw [Bool.not_eq_true] at space
    rw [stays, space]
    by_contra different
    have re2 : isRe2Space (mapping.lower symbol) = true := by
      rw [← Bool.not_eq_false]
      exact Ne.symm different
    have js := isJsSpace_of_isRe2Space re2
    rw [stays, space] at js
    cases js

/-- The two normalizers agree exactly on the portable identifiers. -/
theorem normalizeIdentifier_eq_iff
    (mapping : CaseMapping)
    (identifier : String) :
    normalizeIdentifier mapping identifier =
        serverNormalizeIdentifier mapping identifier ↔
      Portable mapping identifier := by
  have bare : Bare isCommonSpace (core identifier) :=
    bare_trim isCommonSpace identifier.toList
  have forms :
      normalizeIdentifier mapping identifier =
          serverNormalizeIdentifier mapping identifier ↔
        clientForm mapping (core identifier) =
          serverForm mapping (core identifier) := by
    obtain ⟨client, server⟩ := forms_trim mapping identifier.toList
    unfold core
    rw [client, server]
    exact String.ofList_inj
  rw [forms]
  constructor
  · intro agree
    have common :
        ∀ symbol ∈ core identifier,
          isJsSpace symbol = true → isGoSpace symbol = true := by
      intro symbol member space
      by_contra notGo
      rw [Bool.not_eq_true] at notGo
      have inTrim := mem_trim_isGoSpace member notGo
      have re2 := spaces_of_agree agree inTrim space
      rw [isGoSpace_of_isRe2Space re2] at notGo
      cases notGo
    have bareJs := bare_isJsSpace bare common
    obtain ⟨front, back⟩ := ends_of_agree agree bareJs
    have bareGo := bare_isGoSpace bare front back
    obtain ⟨dottedI, sigmas⟩ := special_of_agree agree bareJs bareGo
    refine ⟨?_, front, back, dottedI, sigmas⟩
    intro symbol member space
    apply spaces_of_agree agree ?_ space
    rw [trim_of_bare bareGo]
    exact member
  · intro portable
    have common :
        ∀ symbol ∈ core identifier,
          isJsSpace symbol = true → isGoSpace symbol = true := by
      intro symbol member space
      exact isGoSpace_of_isRe2Space (portable.spaces symbol member space)
    exact agree_of_portable (bare_isJsSpace bare common)
      (bare_isGoSpace bare portable.front portable.back)
      portable.spaces portable.dottedI portable.sigmas

/-- Normalizing on the server once more changes nothing. -/
theorem serverNormalizeIdentifier_idempotent
    (mapping : CaseMapping)
    (identifier : String) :
    serverNormalizeIdentifier mapping
        (serverNormalizeIdentifier mapping identifier) =
      serverNormalizeIdentifier mapping identifier := by
  have bare := bare_serverForm mapping identifier.toList
  have lowered :
      mapping.toLower (serverForm mapping identifier.toList) =
        serverForm mapping identifier.toList := by
    have fixed :
        ∀ symbol ∈ serverForm mapping identifier.toList,
          mapping.lower symbol = symbol := by
      intro symbol member
      rcases mem_collapse member with isBlank | ⟨inLowered, _⟩
      · subst symbol
        exact mapping.lower_space ' ' (Or.inl (by decide))
      · obtain ⟨original, _, rfl⟩ := List.mem_map.mp inLowered
        exact mapping.lower_lower original
    unfold CaseMapping.toLower
    exact (List.map_congr_left fixed).trans (List.map_id _)
  have stable :
      serverForm mapping (serverForm mapping identifier.toList) =
        serverForm mapping identifier.toList := by
    rw [serverForm, trim_of_bare bare, lowered]
    exact collapse_collapse (by decide) _
  have outer :
      serverNormalizeIdentifier mapping
          (serverNormalizeIdentifier mapping identifier) =
        String.ofList
          (serverForm mapping (serverForm mapping identifier.toList)) := by
    simp [serverNormalizeIdentifier, serverForm]
  rw [outer, stable]
  rfl

end Agreement

end Passwd.Identifier
