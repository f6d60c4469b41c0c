import Passwd.VaultSessions

namespace Passwd.Crypto

open Base64 Json Utf8 OfflineVault

/-!
# The two formats of an encrypted item

An item is stored as a container, a JSON object with a wrapped key and a content,
or as a bare envelope that older clients wrote.  A reader takes a text for a
container if it parses as JSON with two such parts, and for an envelope
otherwise.  No text is both: an envelope has a bar outside of any string, and a
container starts with a brace, which no number does.
-/

section Formats

variable {crypto : Primitives}

/-!
## Envelopes are not JSON
-/

/-- What a number literal leaves behind begins before the first bar. -/
theorem bar_mem_dropWhile
    {text : List Char}
    (bar : '|' ∈ text) :
    '|' ∈ text.dropWhile isNumberChar := by
  rw [← List.takeWhile_append_dropWhile (p := isNumberChar) (l := text)] at bar
  rcases List.mem_append.mp bar with inLiteral | behind
  · exact absurd (List.mem_takeWhile_imp inLiteral) (by decide)
  · exact behind

/-- A bar behind a digit keeps a text from being JSON. -/
theorem read_eq_none_of_bar
    {digit : Char}
    {rest : List Char}
    (isDigit : Json.isDigit digit = true)
    (bar : '|' ∈ rest) :
    Json.read (String.ofList (digit :: rest)) = none := by
  have different :
      ∀ symbol, Json.isDigit symbol = false → digit ≠ symbol := by
    rintro symbol notDigit rfl
    rw [isDigit] at notDigit
    cases notDigit
  have notSpace : skipSpace (digit :: rest) = digit :: rest := by
    apply List.dropWhile_cons_of_neg
    simp [isSpace, different ' ' (by decide), different '\t' (by decide),
      different '\n' (by decide), different '\r' (by decide)]
  have asNumber :
      readValue ((digit :: rest).length + 1) (digit :: rest) =
        (readNumber (digit :: rest)).map fun read =>
          (.number read.1, read.2) := by
    rw [readValue, notSpace]
    simp only [different '"' (by decide), different '[' (by decide),
      different '{' (by decide), different 'n' (by decide),
      different 't' (by decide), different 'f' (by decide), ↓reduceIte]
  rw [Json.read, String.toList_ofList, asNumber, readNumber]
  split
  · rfl
  · rename_i value behind parsed
    split at parsed
    · cases parsed
      rw [if_neg]
      intro blank
      have allSpace := List.dropWhile_eq_nil_iff.mp blank
      have isBlank :=
        allSpace '|' (bar_mem_dropWhile (List.mem_cons_of_mem digit bar))
      exact absurd isBlank (by decide)
    · cases parsed

/-- An envelope begins with a digit and contains a bar. -/
theorem toList_serializeEncString (e : EncString) :
    ∃ digit rest,
      serializeEncString e = String.ofList (digit :: rest) ∧
        Json.isDigit digit = true ∧ '|' ∈ rest := by
  have digits :
      Nat.toDigits 10 1 = ['1'] ∧ Nat.toDigits 10 2 = ['2'] := by
    decide
  have spelled :
      ∀ digit, Nat.toDigits 10 e.type.number = [digit] →
        serializeEncString e =
          String.ofList (digit ::
            ('.' :: ((toBase64 e.nonce).toList ++
              '|' :: (toBase64 e.data).toList))) := by
    intro digit isDigit
    rw [← String.toList_inj, String.toList_ofList]
    simp [serializeEncString, isDigit]
  cases type : e.type with
  | aesGcm =>
      refine ⟨'1', _, spelled '1' (by rw [type]; exact digits.1), by decide, ?_⟩
      simp
  | aesCbcHmac =>
      refine ⟨'2', _, spelled '2' (by rw [type]; exact digits.2), by decide, ?_⟩
      simp

/-- No envelope is taken for a container. -/
theorem containerParts_serializeEncString (e : EncString) :
    containerParts crypto (serializeEncString e) = none := by
  obtain ⟨digit, rest, spelled, isDigit, bar⟩ := toList_serializeEncString e
  rw [containerParts, spelled, read_eq_none_of_bar isDigit bar]
  rfl

/-!
## Containers are not envelopes
-/

/-- A text whose value is an object starts with a brace. -/
theorem skipSpace_of_read_object
    {stored : String}
    {members : Members}
    (parsed : Json.read stored = some (.object members)) :
    ∃ tail, skipSpace stored.toList = '{' :: tail := by
  have noObject :
      ∀ {α : Type} {read : Option α} {value : α → Value × List Char}
        {rest : List Char},
        (∀ result, (value result).1 ≠ .object members) →
          read.map value ≠ some (.object members, rest) := by
    intro α read value rest other isObject
    obtain ⟨result, -, shape⟩ := Option.map_eq_some_iff.mp isObject
    exact other result (congrArg Prod.fst shape)
  rw [Json.read] at parsed
  split at parsed
  · cases parsed
  · rename_i value rest readAll
    split at parsed
    · cases parsed
      rw [readValue] at readAll
      split at readAll
      · cases readAll
      · rename_i symbol tail shape
        by_cases brace : symbol = '{'
        · exact ⟨tail, by rw [shape, brace]⟩
        · exfalso
          simp only [brace, ↓reduceIte] at readAll
          split at readAll
          · exact noObject (by simp) readAll
          · split at readAll
            · split at readAll
              · cases readAll
              · split at readAll
                · cases readAll
                · exact noObject (by simp) readAll
            · split at readAll
              · exact noObject (by simp) readAll
              · split at readAll
                · exact noObject (by simp) readAll
                · split at readAll
                  · exact noObject (by simp) readAll
                  · exact noObject (by simp) readAll
    · cases parsed

/-- No number starts with a brace. -/
theorem isNumberOne_brace
    {blank : List Char}
    (isBlank : ∀ symbol ∈ blank, isSpace symbol = true)
    (tail : List Char) :
    isNumberOne (blank ++ '{' :: tail) = false := by
  have jsSpace :
      ∀ symbol ∈ blank, Identifier.isJsSpace symbol = true := by
    intro symbol member
    have space := isBlank symbol member
    simp only [isSpace, Bool.or_eq_true, decide_eq_true_eq] at space
    rcases space with ((rfl | rfl) | rfl) | rfl
    · decide
    · decide
    · decide
    · decide
  have front :
      (blank ++ '{' :: tail).dropWhile Identifier.isJsSpace =
        '{' :: tail := by
    rw [List.dropWhile_append_of_pos jsSpace]
    exact List.dropWhile_cons_of_neg (by decide)
  obtain ⟨rest, trimmed⟩ :
      ∃ rest, TextRuns.trim Identifier.isJsSpace (blank ++ '{' :: tail) =
        '{' :: rest := by
    rw [TextRuns.trim, front]
    cases kept : ('{' :: tail).rdropWhile Identifier.isJsSpace with
    | nil =>
        have allSpace := List.rdropWhile_eq_nil_iff.mp kept
        exact absurd (allSpace '{' List.mem_cons_self) (by decide)
    | cons symbol rest =>
        obtain ⟨behind, shape⟩ :=
          List.rdropWhile_prefix Identifier.isJsSpace (l := '{' :: tail)
        rw [kept, List.cons_append, List.cons.injEq] at shape
        exact ⟨rest, by rw [shape.1]⟩
  have noDigits :
      digitsValue 10
        (('{' :: rest).takeWhile fun symbol =>
          !(symbol = 'e' || symbol = 'E')) = none := by
    rw [List.takeWhile_cons_of_pos (by decide), digitsValue, if_neg]
    rintro ⟨-, allDigits⟩
    rw [List.all_cons, Bool.and_eq_true] at allDigits
    exact absurd allDigits.1 (by decide)
  have notDecimal : isDecimalOne ('{' :: rest) = false := by
    simp only [isDecimalOne, noDigits]
  rw [isNumberOne, trimmed]
  exact notDecimal

/-- A text that starts with a brace is no envelope. -/
theorem parseEncString_of_brace
    {stored : String}
    {tail : List Char}
    (brace : skipSpace stored.toList = '{' :: tail) :
    parseEncString stored = none := by
  have shape :
      stored.toList = stored.toList.takeWhile isSpace ++ '{' :: tail := by
    rw [← brace, skipSpace, List.takeWhile_append_dropWhile]
  have isBlank :
      ∀ symbol ∈ stored.toList.takeWhile isSpace, isSpace symbol = true :=
    fun symbol member => List.mem_takeWhile_imp member
  have noDot :
      ∀ symbol ∈ stored.toList.takeWhile isSpace,
        decide (symbol ≠ '.') = true := by
    intro symbol member
    have blank := isBlank symbol member
    by_cases dot : symbol = '.'
    · rw [dot] at blank
      exact absurd blank (by decide)
    · simp [dot]
  have beforeDot :
      stored.toList.takeWhile (fun symbol => symbol ≠ '.') =
        stored.toList.takeWhile isSpace ++
          '{' :: tail.takeWhile (fun symbol => symbol ≠ '.') := by
    conv_lhs => rw [shape]
    rw [List.takeWhile_append_of_pos noDot,
      List.takeWhile_cons_of_pos (by decide)]
  unfold parseEncString
  rw [beforeDot, isNumberOne_brace isBlank]
  simp

/-- A text that is taken for a container is no envelope. -/
theorem parseEncString_of_container
    {stored : String}
    {parts : Value × Value}
    (container : containerParts crypto stored = some parts) :
    parseEncString stored = none := by
  obtain ⟨parsed, isParsed, isContainer⟩ := Option.bind_eq_some_iff.mp container
  cases parsed with
  | object members =>
      obtain ⟨tail, brace⟩ := skipSpace_of_read_object isParsed
      exact parseEncString_of_brace brace
  | null => cases isContainer
  | bool value => cases isContainer
  | number literal => cases isContainer
  | string text => cases isContainer
  | array items => cases isContainer

/-!
## Decrypting both formats
-/

/--
AES-GCM encrypts under keys of 32 bytes with nonces of 12, and its decryption
inverts encryption under the same key and fails under every other one.
-/
structure AesGcm (crypto : Primitives) : Prop where
  encrypts :
    ∀ key nonce plaintext : Bytes, key.length = 32 → nonce.length = 12 →
      ∃ data, crypto.aesGcmEncrypt key nonce plaintext = some data
  decrypts : crypto.Authenticated
  refuses : Exclusive crypto

/--
A stored text decrypts to its plaintext, and throws under a User Key with another
encryption half.
-/
structure DecryptsOnly
    (crypto : Primitives)
    (userKey : Bytes)
    (plaintext stored : String) :
    Prop where
  decrypts : decryptItemKeyed crypto userKey stored = some plaintext
  throws :
    ∀ other : Bytes, other.length = 64 → itemKey other ≠ itemKey userKey →
      decryptItemKeyed crypto other stored = none

variable {userKey : Bytes} {plaintext stored : String}

/-- The encryption half of a User Key. -/
theorem length_itemKey (full : userKey.length = 64) :
    (itemKey userKey).length = 32 := by
  simp [itemKey, full]

/-- Sealing under a key of 32 bytes does not fail. -/
theorem AesGcm.sealEnvelope
    (aesGcm : AesGcm crypto)
    {key : Bytes}
    (length : key.length = 32)
    (content : Bytes)
    (nonce : Drawn 12) :
    ∃ envelope, Crypto.sealEnvelope crypto key content nonce.1 = some envelope := by
  obtain ⟨data, encrypted⟩ := aesGcm.encrypts key nonce.1 content length nonce.2
  exact ⟨_, Option.map_eq_some_iff.mpr ⟨data, encrypted, rfl⟩⟩

/-- An item under its own key decrypts with the User Key only. -/
theorem decryptsOnly_encryptItemKeyed
    (aesGcm : AesGcm crypto)
    (full : userKey.length = 64)
    (isJson : IsJson plaintext)
    {key : Bytes}
    {dataNonce keyNonce : Drawn 12}
    (encrypted :
      encryptItemKeyed crypto userKey plaintext key dataNonce.1 keyNonce.1 =
        some stored) :
    DecryptsOnly crypto userKey plaintext stored := by
  refine ⟨decryptItemKeyed_of_encryptItemKeyed aesGcm.decrypts
    isJson.unmarked dataNonce.ne_nil keyNonce.ne_nil encrypted, ?_⟩
  intro other otherFull different
  unfold encryptItemKeyed at encrypted
  split at encrypted
  · rename_i data wrapped isSealed isWrapped
    cases encrypted
    have container :=
      containerParts_itemContainer crypto
        (sealEnvelope_ne_empty aesGcm.decrypts keyNonce.ne_nil isWrapped)
        (sealEnvelope_ne_empty aesGcm.decrypts dataNonce.ne_nil isSealed)
    have refused : unwrapItemKey crypto other wrapped = none :=
      openEnvelope_of_ne aesGcm.refuses aesGcm.decrypts keyNonce.ne_nil
        isWrapped
        ((length_itemKey otherFull).trans (length_itemKey full).symm)
        different
    rw [decryptItemKeyed_eq, container]
    simp [refused]
  · cases encrypted

/-- An item in the old format decrypts with the User Key only. -/
theorem decryptsOnly_encryptItem
    (aesGcm : AesGcm crypto)
    (full : userKey.length = 64)
    (isJson : IsJson plaintext)
    {nonce : Drawn 12}
    (encrypted :
      encryptItem crypto userKey plaintext nonce.1 = some stored) :
    DecryptsOnly crypto userKey plaintext stored := by
  have noContainer : containerParts crypto stored = none := by
    obtain ⟨data, -, serialized⟩ := Option.map_eq_some_iff.mp encrypted
    rw [← serialized]
    exact containerParts_serializeEncString _
  constructor
  · rw [decryptItemKeyed_eq, noContainer]
    exact decryptItem_of_encryptItem aesGcm.decrypts isJson encrypted
  · intro other otherFull different
    have refused : openEnvelope crypto (itemKey other) stored = none :=
      openEnvelope_of_ne aesGcm.refuses aesGcm.decrypts nonce.ne_nil encrypted
        ((length_itemKey otherFull).trans (length_itemKey full).symm)
        different
    rw [decryptItemKeyed_eq, noContainer]
    simp [decryptItem, refused]

/--
Both formats decrypt with the User Key only, no envelope is taken for a
container, and no container for an envelope.
-/
theorem itemFormats_separate
    (aesGcm : AesGcm crypto)
    (full : userKey.length = 64)
    (isJson : IsJson plaintext)
    (key : Drawn 32)
    (dataNonce keyNonce : Drawn 12) :
    (∃ stored,
      encryptItemKeyed crypto userKey plaintext key.1 dataNonce.1
          keyNonce.1 = some stored ∧
        DecryptsOnly crypto userKey plaintext stored) ∧
      (∃ stored,
        encryptItem crypto userKey plaintext dataNonce.1 = some stored ∧
          DecryptsOnly crypto userKey plaintext stored) ∧
      (∀ e : EncString,
        containerParts crypto (serializeEncString e) = none) ∧
      (∀ wrapped data, wrapped ≠ "" → data ≠ "" →
        containerParts crypto (stringify (itemContainer wrapped data)) =
          some (.string wrapped, .string data)) ∧
      ∀ stored parts, containerParts crypto stored = some parts →
        parseEncString stored = none := by
  refine ⟨?_, ?_, containerParts_serializeEncString, ?_, ?_⟩
  · obtain ⟨data, isSealed⟩ :=
      aesGcm.sealEnvelope key.2 (utf8 plaintext) dataNonce
    obtain ⟨wrapped, isWrapped⟩ :=
      aesGcm.sealEnvelope (length_itemKey full) key.1 keyNonce
    have encrypted :
        encryptItemKeyed crypto userKey plaintext key.1 dataNonce.1
            keyNonce.1 =
          some (stringify (itemContainer wrapped data)) := by
      simp only [encryptItemKeyed, wrapItemKey, isSealed, isWrapped]
    exact ⟨_, encrypted,
      decryptsOnly_encryptItemKeyed aesGcm full isJson encrypted⟩
  · obtain ⟨envelope, isSealed⟩ :=
      aesGcm.sealEnvelope (length_itemKey full) (utf8 plaintext) dataNonce
    exact ⟨envelope, isSealed,
      decryptsOnly_encryptItem aesGcm full isJson isSealed⟩
  · intro wrapped data hasKey hasContent
    exact containerParts_itemContainer crypto hasKey hasContent
  · intro stored parts container
    exact parseEncString_of_container container

end Formats

/-- Plain encryption behaves as AES-GCM does. -/
theorem aesGcm_plainPrimitives : AesGcm plainPrimitives where
  encrypts _ _ _ _ _ := ⟨_, rfl⟩
  decrypts := authenticated_plainPrimitives
  refuses := exclusive_plainPrimitives

/-- An empty object under a key of ones. -/
theorem emptyObject_decrypts :
    ∃ stored,
      encryptItemKeyed plainPrimitives (List.replicate 64 1) "\x7b\x7d"
          (List.replicate 32 2) (List.replicate 12 3) (List.replicate 12 4) =
        some stored ∧
        DecryptsOnly plainPrimitives (List.replicate 64 1) "\x7b\x7d"
          stored :=
  (itemFormats_separate aesGcm_plainPrimitives (by simp) (by decide)
    ⟨List.replicate 32 2, by simp⟩ ⟨List.replicate 12 3, by simp⟩
    ⟨List.replicate 12 4, by simp⟩).1

end Passwd.Crypto
