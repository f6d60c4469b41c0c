import Passwd.TotpAgreement

namespace Passwd.Totp

open Base64 Bits

/-!
# Stored secrets that yield no code

A stored text is read as a bare secret or as a URI, and every default and bound of
its parameters is one that a code can be shown for.  The decoder gives up at a
character that is no symbol, but not on a single symbol, whose five bits are too
few for an octet: the secret is then empty, and WebCrypto throws on it.
-/

/-- A configuration that a code can be shown for. -/
structure TotpConfig.Usable (cfg : TotpConfig) : Prop where
  secret : cfg.secret ≠ []
  digits : 6 ≤ cfg.digits ∧ cfg.digits ≤ 10
  period : 1 ≤ cfg.period ∧ cfg.period ≤ 300

/-- A code of a configuration, the seconds that are left, and the period. -/
def TotpConfig.Shows (cfg : TotpConfig) (shown : String × Nat × Nat) : Prop :=
  shown.1.toList.length = cfg.digits ∧
    (∀ symbol ∈ shown.1.toList, symbol.isDigit = true) ∧
    1 ≤ shown.2.1 ∧ shown.2.1 ≤ cfg.period ∧ shown.2.2 = cfg.period

/-- The text in a stored string that is decoded as a secret, if there is one. -/
def secretText (url : UrlParser) (input : String) : Option String :=
  let raw := TextRuns.trim Identifier.isJsSpace input.toList
  if raw = [] then
    none
  else if isOtpauth raw then
    (url (String.ofList raw)).map fun get => (get "secret").getD ""
  else
    some (String.ofList raw)

/-- The secret in a stored string is a single symbol. -/
def SingleSymbol
    (letters : UpperCase)
    (url : UrlParser)
    (input : String) : Prop :=
  ∃ text symbol,
    secretText url input = some text ∧
    cleanSecret letters text = [symbol] ∧
    symbol ∈ Base32.alphabet

section Stored

variable
  (letters : UpperCase)
  (url : UrlParser)
  (crypto : WebCrypto)

/-- `null`, or a code of the configuration that was read. -/
def ReturnsCode (input : String) (nowMs : Nat) : Prop :=
  crypto.totpFromString letters url input nowMs = some none ∨
    ∃ cfg shown,
      parseTotpSecret letters url input = some cfg ∧
      crypto.totpFromString letters url input nowMs = some (some shown) ∧
      cfg.Shows shown

/-- What is read is a configuration that a code can be shown for. -/
def ReadsUsable (input : String) : Prop :=
  ∀ cfg, parseTotpSecret letters url input = some cfg → cfg.Usable

/-- A parsed number is within its bounds, as the default is. -/
theorem within_bounds
    {lowest highest default : Nat}
    (valid : lowest ≤ default ∧ default ≤ highest)
    (number : Option Int) :
    lowest ≤ within lowest highest default number ∧
      within lowest highest default number ≤ highest := by
  cases number with
  | none =>
      exact valid
  | some number =>
      unfold within
      simp only []
      split
      · omega
      · exact valid

/-- What is read of a stored string. -/
theorem parseTotpSecret_spec (input : String) :
    match (secretText url input).bind (base32Decode letters) with
    | none => parseTotpSecret letters url input = none
    | some secret =>
        ∃ cfg,
          parseTotpSecret letters url input = some cfg ∧
          cfg.secret = secret ∧
          (6 ≤ cfg.digits ∧ cfg.digits ≤ 10) ∧
          (1 ≤ cfg.period ∧ cfg.period ≤ 300) := by
  unfold secretText parseTotpSecret
  simp only []
  by_cases empty : TextRuns.trim Identifier.isJsSpace input.toList = []
  · simp [empty]
  · simp only [if_neg empty]
    by_cases uri :
        isOtpauth (TextRuns.trim Identifier.isJsSpace input.toList) = true
    · simp only [uri, if_true]
      cases parsed :
          url (String.ofList (TextRuns.trim Identifier.isJsSpace input.toList))
        with
      | none =>
          rfl
      | some get =>
          simp only [Option.map_some, Option.bind_some]
          cases base32Decode letters ((get "secret").getD "") with
          | none =>
              rfl
          | some secret =>
              exact ⟨_, rfl, rfl, within_bounds (by omega) _,
                within_bounds (by omega) _⟩
    · simp only [uri, Bool.false_eq_true, if_false, Option.bind_some]
      cases base32Decode letters
          (String.ofList
            (TextRuns.trim Identifier.isJsSpace input.toList)) with
      | none =>
          rfl
      | some secret =>
          exact ⟨_, rfl, rfl, by simp, by simp⟩

/-- As many groups are read as there are symbols. -/
theorem length_of_mapM_value
    {text : List Char}
    {quintets : List Nat}
    (symbols : text.mapM Base32.value = some quintets) :
    quintets.length = text.length := by
  induction text generalizing quintets with
  | nil =>
      cases symbols
      rfl
  | cons symbol rest inductionHypothesis =>
      rw [List.mapM_cons] at symbols
      cases first : Base32.value symbol with
      | none =>
          rw [first] at symbols
          cases symbols
      | some group =>
          cases later : rest.mapM Base32.value with
          | none =>
              rw [first, later] at symbols
              cases symbols
          | some others =>
              rw [first, later] at symbols
              cases symbols
              rw [List.length_cons, List.length_cons,
                inductionHypothesis later]

/-- A text is decoded to no octet exactly if it is a single symbol. -/
theorem base32Decode_eq_nil (text : String) :
    base32Decode letters text = some [] ↔
      ∃ symbol,
        cleanSecret letters text = [symbol] ∧ symbol ∈ Base32.alphabet := by
  constructor
  · intro decoded
    cases symbols : (cleanSecret letters text).mapM Base32.value with
    | none =>
        rw [base32Decode_eq_none symbols] at decoded
        cases decoded
    | some quintets =>
        have nonempty : quintets ≠ [] := by
          intro empty
          have length := length_of_mapM_value symbols
          rw [empty] at length
          have clean := List.eq_nil_of_length_eq_zero length.symm
          rw [base32Decode, if_pos clean] at decoded
          cases decoded
        obtain ⟨out, rest, read, few, bits⟩ :=
          base32Decode_symbols nonempty symbols
        rw [decoded] at read
        cases read
        have sizes := congrArg List.length bits
        simp only [ofBytes_nil, List.nil_append,
          Base32.length_ofGroups] at sizes
        have positive := List.length_pos_iff.mpr nonempty
        have length := length_of_mapM_value symbols
        obtain ⟨symbol, single⟩ :=
          List.length_eq_one_iff.mp
            (show (cleanSecret letters text).length = 1 by omega)
        refine ⟨symbol, single, ?_⟩
        rw [single, List.mapM_cons] at symbols
        cases spelled : Base32.value symbol with
        | none =>
            rw [spelled] at symbols
            cases symbols
        | some group =>
            exact List.isSome_idxOf?.mp (Option.isSome_of_eq_some spelled)
  · rintro ⟨symbol, single, inside⟩
    obtain ⟨group, spelled⟩ :=
      Option.isSome_iff_exists.mp (List.isSome_idxOf?.mpr inside)
    have symbols :
        (cleanSecret letters text).mapM Base32.value = some [group] := by
      rw [single, List.mapM_cons, Base32.value, spelled]
      rfl
    obtain ⟨out, rest, read, few, bits⟩ :=
      base32Decode_symbols (List.cons_ne_nil _ _) symbols
    have sizes := congrArg List.length bits
    simp only [List.length_append, length_ofBytes,
      Base32.length_ofGroups, List.length_singleton] at sizes
    rw [read, List.eq_nil_of_length_eq_zero (show out.length = 0 by omega)]

/-- A single symbol is read as a configuration with an empty secret. -/
theorem singleSymbol_iff (input : String) :
    SingleSymbol letters url input ↔
      ∃ cfg,
        parseTotpSecret letters url input = some cfg ∧ cfg.secret = [] := by
  have parsed := parseTotpSecret_spec letters url input
  cases secret : (secretText url input).bind (base32Decode letters) with
  | none =>
      rw [secret] at parsed
      simp only [] at parsed
      rw [parsed]
      constructor
      · rintro ⟨text, symbol, found, clean, inside⟩
        have decoded :=
          (base32Decode_eq_nil letters text).mpr ⟨symbol, clean, inside⟩
        rw [found, Option.bind_some, decoded] at secret
        cases secret
      · rintro ⟨cfg, read, -⟩
        cases read
  | some bytes =>
      rw [secret] at parsed
      obtain ⟨cfg, read, rfl, -⟩ := parsed
      obtain ⟨text, found, decoded⟩ := Option.bind_eq_some_iff.mp secret
      constructor
      · rintro ⟨text', symbol, found', clean, inside⟩
        rw [found] at found'
        cases found'
        have empty :=
          (base32Decode_eq_nil letters text).mpr ⟨symbol, clean, inside⟩
        rw [decoded] at empty
        exact ⟨cfg, read, Option.some.inj empty⟩
      · rintro ⟨cfg', read', empty⟩
        rw [read] at read'
        cases read'
        rw [empty] at decoded
        obtain ⟨symbol, clean, inside⟩ :=
          (base32Decode_eq_nil letters text).mp decoded
        exact ⟨text, symbol, found, clean, inside⟩

/-- A usable configuration shows a code; an empty secret is an exception. -/
theorem totpCode_spec
    {cfg : TotpConfig}
    (digits : 6 ≤ cfg.digits ∧ cfg.digits ≤ 10)
    (period : 1 ≤ cfg.period ∧ cfg.period ≤ 300)
    (nowMs : Nat) :
    if cfg.secret = [] then
      crypto.totpCode cfg nowMs = none
    else
      ∃ code secondsLeft,
        crypto.totpCode cfg nowMs = some (code, secondsLeft) ∧
        cfg.Shows (code, secondsLeft, cfg.period) := by
  unfold WebCrypto.totpCode WebCrypto.hotp
  split
  · simp
  · simp only [Option.map_some]
    refine ⟨_, _, rfl, ?_⟩
    rw [(truncate_eq _).1]
    obtain ⟨exact, allDigits⟩ :=
      @codeText_digits cfg.digits (by omega)
        (truncatedWord
          (crypto.sign cfg.algorithm cfg.secret
            (counterMessage (nowMs / 1000 / cfg.period))))
    have elapsed := Nat.mod_lt (nowMs / 1000) (y := cfg.period) (by omega)
    exact ⟨exact, allDigits, by simp only []; omega, by simp only []; omega,
      rfl⟩

/--
For every stored string, a code with the configured digits or `null` comes back
exactly if the secret in the string is not a single symbol; and exactly then every
configuration that is read has a secret, six to ten digits and a period of one to
three hundred seconds.
-/
theorem returnsCode_iff (input : String) (nowMs : Nat) :
    (ReturnsCode letters url crypto input nowMs ↔
      ¬ SingleSymbol letters url input) ∧
    (ReadsUsable letters url input ↔ ¬ SingleSymbol letters url input) := by
  have parsed := parseTotpSecret_spec letters url input
  rw [singleSymbol_iff]
  unfold ReturnsCode ReadsUsable WebCrypto.totpFromString
  cases secret : (secretText url input).bind (base32Decode letters) with
  | none =>
      rw [secret] at parsed
      simp only [] at parsed
      simp [parsed]
  | some bytes =>
      rw [secret] at parsed
      obtain ⟨cfg, read, -, digits, period⟩ := parsed
      have code := totpCode_spec crypto digits period nowMs
      simp only [read, Option.some.injEq, exists_eq_left', forall_eq']
      by_cases empty : cfg.secret = []
      · rw [if_pos empty] at code
        have unusable : ¬ cfg.Usable := fun usable => usable.secret empty
        simp [code, empty, unusable]
      · rw [if_neg empty] at code
        obtain ⟨text, secondsLeft, shown, shows⟩ := code
        have usable : cfg.Usable := ⟨empty, digits, period⟩
        simp [shown, empty, usable, shows]

end Stored

/-- A stored `A` is read as a configuration, and showing its code throws. -/
theorem singleSymbol_throws :
    ¬ ReturnsCode asciiUpperCase (fun _ => none) plainWebCrypto "A" 0 ∧
      ¬ ReadsUsable asciiUpperCase (fun _ => none) "A" := by
  have read :
      parseTotpSecret asciiUpperCase (fun _ => none) "A" =
        some { secret := [], algorithm := .sha1, digits := 6, period := 30 } := by
    decide
  have thrown :
      plainWebCrypto.totpFromString asciiUpperCase (fun _ => none) "A" 0 =
        none := by
    decide
  constructor
  · rintro (isNull | ⟨cfg, shown, -, returned, -⟩)
    · rw [thrown] at isNull
      cases isNull
    · rw [thrown] at returned
      cases returned
  · intro usable
    exact (usable _ read).secret rfl

end Passwd.Totp
