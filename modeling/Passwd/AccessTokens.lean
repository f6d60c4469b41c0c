import Passwd.JsonRoundTrip
import Passwd.VerifierEncoding
import Passwd.Utf8Text

namespace Passwd.Server

open Base64 Utf8

/-!
# Access tokens

An access token is three segments between dots: a header, the claims in JSON and
the HMAC of the first two, each in Base64.  The strings here are byte sequences,
as a request can carry any of them.  HMAC-SHA256 is a parameter, and so is the
JSON codec of the claims, which has to read back what it wrote.
-/

/-- `accessClaims` -/
structure AccessClaims where
  sub : String
  iat : Int
  exp : Int
deriving Repr, DecidableEq

/-- HMAC-SHA256, and `json.Marshal` and `json.Unmarshal` of the claims. -/
structure TokenPrimitives where
  hmacSha256 : Bytes → Bytes → Bytes
  marshal : AccessClaims → Bytes
  unmarshal : Bytes → Option AccessClaims
  unmarshal_marshal :
    ∀ claims : AccessClaims,
      Decimal.Fits 64 claims.iat →
      Decimal.Fits 64 claims.exp →
      unmarshal (marshal claims) = some claims

/-- The byte between two segments. -/
def dot : UInt8 := 0x2e

/-- A byte as the character with its number. -/
def octetChar (byte : UInt8) : Char :=
  Char.ofNat byte.toNat

/-- `jwtB64.DecodeString` -/
def jwtB64Decode (segment : Bytes) : Option Bytes :=
  decodeRaw urlSafe isLineEnd (segment.map octetChar)

/-- `ErrInvalidToken` -/
def errInvalidToken : Failure :=
  .text "auth: invalid token"

namespace TokenPrimitives

variable (primitives : TokenPrimitives)

/-- `signJWT` -/
def signJWT (msg secret : Bytes) : Bytes :=
  bytesOf (Environment.jwtB64 (primitives.hmacSha256 secret msg))

/-- `IssueAccessToken` at a time. -/
def issueAccessToken
    (userID : String)
    (secret : Bytes)
    (ttl now : Time) : Bytes :=
  let header :=
    bytesOf (Environment.jwtB64
      (bytesOf "\x7b\"alg\":\"HS256\",\"typ\":\"JWT\"\x7d"))
  let cb :=
    primitives.marshal
      { sub := userID, iat := unix now, exp := unix (now + ttl) }
  let signing := header ++ dot :: bytesOf (Environment.jwtB64 cb)
  signing ++ dot :: primitives.signJWT signing secret

/-- `ParseAccessToken` at a time. -/
def parseAccessToken (token secret : Bytes) (now : Time) : Outcome String :=
  match token.splitOn dot with
  | [first, second, third] =>
      if primitives.signJWT (first ++ dot :: second) secret = third then
        match (jwtB64Decode second).bind primitives.unmarshal with
        | none => .failed errInvalidToken
        | some claims =>
            if claims.sub = "" ∨ unix now ≥ claims.exp then
              .failed errInvalidToken
            else
              .returned claims.sub
      else
        .failed errInvalidToken
  | _ => .failed errInvalidToken

/-- `requireAuth`: the user ID of a request, or the status and error of the answer. -/
def requireAuth
    (secret : Bytes)
    (now : Time)
    (authorization : Bytes) : Except (Nat × String) String :=
  let bearer := bytesOf "Bearer "
  if bearer.isPrefixOf authorization then
    match
        primitives.parseAccessToken (authorization.drop bearer.length) secret
          now with
    | .returned userID => .ok userID
    | _ => .error (401, "invalid or expired token")
  else
    .error (401, "missing bearer token")

end TokenPrimitives

/-!
## Segments
-/

/-- The loop of `ByteArray.toList` goes on with the bytes from its index on. -/
theorem toList_loop (bytes : ByteArray) (taken : List UInt8) (index : Nat) :
    ByteArray.toList.loop bytes index taken =
      taken.reverse ++ bytes.data.toList.drop index := by
  fun_induction ByteArray.toList.loop bytes index taken with
  | case1 index taken inside inductionHypothesis =>
      have bounded : index < bytes.data.toList.length := by
        simpa using inside
      have here : bytes.get! index = bytes.data.toList[index] :=
        getElem!_pos bytes.data index bounded
      rw [inductionHypothesis, List.drop_eq_getElem_cons bounded, here]
      simp
  | case2 index taken outside =>
      have done : bytes.data.toList.length ≤ index := by
        simpa using outside
      rw [List.drop_eq_nil_of_le done, List.append_nil]

/-- The bytes of a text are those of its characters. -/
theorem bytesOf_eq_utf8 (text : String) :
    bytesOf text = utf8 text := by
  have encoded := String.utf8Encode_toList (b := text)
  unfold bytesOf utf8
  rw [ByteArray.toList, toList_loop, String.toUTF8, ← encoded,
    List.utf8Encode]
  simp

/-- The bytes of ASCII characters are their numbers. -/
theorem map_octetChar_utf8
    {symbols : List Char}
    (ascii : ∀ symbol ∈ symbols, symbol.toNat < 128) :
    (symbols.flatMap String.utf8EncodeChar).map octetChar = symbols := by
  induction symbols with
  | nil =>
      rfl
  | cons symbol rest inductionHypothesis =>
      have small := ascii symbol List.mem_cons_self
      have single :
          String.utf8EncodeChar symbol = [UInt8.ofNat symbol.toNat] := by
        have oneByte : symbol.val.toNat ≤ 127 :=
          Nat.le_of_lt_succ small
        unfold String.utf8EncodeChar
        simp only [oneByte, if_true]
        rfl
      have same : octetChar (UInt8.ofNat symbol.toNat) = symbol := by
        unfold octetChar
        rw [UInt8.toNat_ofNat', Nat.mod_eq_of_lt (by omega),
          Char.ofNat_toNat]
      rw [List.flatMap_cons, List.map_append, single,
        inductionHypothesis fun later member =>
          ascii later (List.mem_cons_of_mem _ member)]
      simp [same]

/-- The characters of an encoding, from its bytes. -/
theorem map_octetChar_encode
    {alphabet : Alphabet}
    (ascii : ∀ sextet, sextet < 64 → (alphabet.symbol sextet).toNat < 128)
    (padding : Padding)
    (b : Bytes) :
    (bytesOf (encode alphabet padding b)).map octetChar =
      (encode alphabet padding b).toList := by
  rw [bytesOf_eq_utf8]
  apply map_octetChar_utf8
  intro symbol member
  rw [encode, String.toList_ofList] at member
  rcases mem_encodeChars member with rfl | ⟨sextet, bounded, rfl⟩
  · decide
  · exact ascii sextet bounded

/-- The bytes of an encoding are those of its symbols and of the padding. -/
theorem byte_not_mem_encode
    {alphabet : Alphabet}
    (ascii : ∀ sextet, sextet < 64 → (alphabet.symbol sextet).toNat < 128)
    {mark : UInt8}
    (notPadding : octetChar mark ≠ '=')
    (notSymbol :
      ∀ sextet, sextet < 64 → alphabet.symbol sextet ≠ octetChar mark)
    (padding : Padding)
    (b : Bytes) :
    mark ∉ bytesOf (encode alphabet padding b) := by
  intro member
  have symbol := List.mem_map_of_mem (f := octetChar) member
  rw [map_octetChar_encode ascii] at symbol
  exact not_mem_encode notPadding notSymbol padding b symbol

/-- The characters of a segment, from its bytes. -/
theorem map_octetChar_jwtB64 (b : Bytes) :
    (bytesOf (Environment.jwtB64 b)).map octetChar =
      (Environment.jwtB64 b).toList :=
  map_octetChar_encode (by decide) .raw b

/-- A segment that was encoded is decoded. -/
theorem jwtB64Decode_jwtB64 (b : Bytes) :
    jwtB64Decode (bytesOf (Environment.jwtB64 b)) = some b := by
  have keepsSymbols :
      ∀ sextet, sextet < 64 → isLineEnd (urlSafe.symbol sextet) = false := by
    decide
  rw [jwtB64Decode, map_octetChar_jwtB64, Environment.jwtB64, encode,
    String.toList_ofList, decodeRaw_encodeChars (by decide) keepsSymbols]

/-- Segments are equal when what they encode is. -/
theorem jwtB64_injective
    {first second : Bytes}
    (same :
      bytesOf (Environment.jwtB64 first) =
        bytesOf (Environment.jwtB64 second)) :
    first = second := by
  have decoded := congrArg jwtB64Decode same
  rw [jwtB64Decode_jwtB64, jwtB64Decode_jwtB64] at decoded
  exact Option.some.inj decoded

/-- No segment holds a dot. -/
theorem dot_not_mem_jwtB64 (b : Bytes) :
    dot ∉ bytesOf (Environment.jwtB64 b) :=
  byte_not_mem_encode (by decide) (by decide) (by decide) .raw b

/-- Three segments without dots are cut apart at the dots. -/
theorem splitOn_segments
    {first second third : Bytes}
    (noFirst : dot ∉ first)
    (noSecond : dot ∉ second)
    (noThird : dot ∉ third) :
    (first ++ dot :: second ++ dot :: third).splitOn dot =
      [first, second, third] := by
  have joined :
      first ++ dot :: second ++ dot :: third =
        [dot].intercalate [first, second, third] := by
    simp
  rw [joined]
  apply List.splitOn_intercalate
  · intro part member
    simp only [List.mem_cons, List.not_mem_nil, or_false] at member
    rcases member with rfl | rfl | rfl
    · exact noFirst
    · exact noSecond
    · exact noThird
  · exact List.cons_ne_nil _ _

namespace TokenPrimitives

variable (primitives : TokenPrimitives)

/-- A signature holds no dot. -/
theorem dot_not_mem_signJWT (msg secret : Bytes) :
    dot ∉ primitives.signJWT msg secret :=
  dot_not_mem_jwtB64 _

/--
A token is accepted exactly if it has three segments, the third one is the HMAC
of the others, and the claims of the second one name a subject and have not
expired.
-/
theorem parseAccessToken_eq_returned
    (token secret : Bytes)
    (now : Time)
    (userID : String) :
    primitives.parseAccessToken token secret now = .returned userID ↔
      ∃ first second claims,
        token.splitOn dot =
          [first, second,
            primitives.signJWT (first ++ dot :: second) secret] ∧
        (jwtB64Decode second).bind primitives.unmarshal = some claims ∧
        claims.sub = userID ∧ userID ≠ "" ∧ unix now < claims.exp := by
  unfold parseAccessToken
  constructor
  · intro accepted
    split at accepted
    · rename_i first second third segments
      split at accepted
      · rename_i signed
        cases read : (jwtB64Decode second).bind primitives.unmarshal with
        | none =>
            simp [read] at accepted
        | some claims =>
            simp only [read] at accepted
            split at accepted
            · cases accepted
            · rename_i valid
              cases accepted
              rw [not_or] at valid
              refine ⟨first, second, claims, ?_, read, rfl, valid.1,
                Int.not_le.mp valid.2⟩
              rw [segments, signed]
      · cases accepted
    · cases accepted
  · rintro ⟨first, second, claims, segments, read, rfl, named, fresh⟩
    have valid : ¬ (claims.sub = "" ∨ unix now ≥ claims.exp) := by
      rw [not_or]
      exact ⟨named, Int.not_le.mpr fresh⟩
    rw [segments]
    simp only [if_true, read, if_neg valid]

/-- A token that is not accepted is refused with one error. -/
theorem parseAccessToken_refuses
    (token secret : Bytes)
    (now : Time) :
    (∃ userID,
      primitives.parseAccessToken token secret now = .returned userID) ∨
      primitives.parseAccessToken token secret now =
        .failed errInvalidToken := by
  unfold parseAccessToken
  split
  · split
    · split
      · exact .inr rfl
      · split
        · exact .inr rfl
        · exact .inl ⟨_, rfl⟩
    · exact .inr rfl
  · exact .inr rfl

/-- Parsing a token that was issued reads the claims it was issued with. -/
theorem parseAccessToken_issueAccessToken
    {userID : String}
    {issued ttl : Time}
    (fits : Decimal.Fits 64 (unix issued))
    (fitsExpiry : Decimal.Fits 64 (unix (issued + ttl)))
    (secret : Bytes)
    (now : Time) :
    primitives.parseAccessToken
        (primitives.issueAccessToken userID secret ttl issued) secret now =
      if userID = "" ∨ unix now ≥ unix (issued + ttl) then
        .failed errInvalidToken
      else
        .returned userID := by
  have read :=
    primitives.unmarshal_marshal
      { sub := userID, iat := unix issued, exp := unix (issued + ttl) }
      fits fitsExpiry
  unfold parseAccessToken issueAccessToken
  simp only []
  rw [splitOn_segments (dot_not_mem_jwtB64 _) (dot_not_mem_jwtB64 _)
    (primitives.dot_not_mem_signJWT _ _)]
  simp only [if_true, jwtB64Decode_jwtB64, Option.bind_some, read]

/-- A request is let in exactly if it carries an accepted token. -/
theorem requireAuth_eq_ok
    (secret : Bytes)
    (now : Time)
    (authorization : Bytes)
    (userID : String) :
    primitives.requireAuth secret now authorization = .ok userID ↔
      ∃ token,
        authorization = bytesOf "Bearer " ++ token ∧
        primitives.parseAccessToken token secret now = .returned userID := by
  unfold requireAuth
  simp only []
  split
  · rename_i begins
    obtain ⟨token, joined⟩ := List.isPrefixOf_iff_prefix.mp begins
    have cut (other : Bytes) :
        authorization = bytesOf "Bearer " ++ other ↔ token = other := by
      rw [← joined, List.append_cancel_left_eq]
    simp only [cut, exists_eq_left']
    rw [← joined, List.drop_left]
    split
    · rename_i parsed
      rw [parsed]
      simp
    · rename_i other
      constructor
      · intro accepted
        cases accepted
      · intro accepted
        exact absurd accepted (other userID)
  · rename_i begins
    constructor
    · intro accepted
      cases accepted
    · rintro ⟨token, rfl, -⟩
      exact absurd (List.isPrefixOf_iff_prefix.mpr (List.prefix_append _ _))
        begins

end TokenPrimitives

/-!
## Claims in JSON
-/

/--
The characters of a byte sequence, as `utf8.DecodeRune` reads them one by one: a
byte that begins no character is replaced.
-/
def goRunes : Nat → Bytes → List Char
  | 0, _ => []
  | _ + 1, [] => []
  | fuel + 1, byte :: rest =>
      match (byte :: rest).toByteArray.utf8DecodeChar? 0 with
      | some symbol =>
          symbol :: goRunes fuel ((byte :: rest).drop symbol.utf8Size)
      | none => replacement :: goRunes fuel rest

/-- The text in a byte sequence. -/
def goText (b : Bytes) : String :=
  String.ofList (goRunes b.length b)

/-- A symbol as the keys of members are compared. -/
def foldedSymbol (symbol : Char) : Char :=
  if symbol = Char.ofNat 0x17f then 's'
  else if symbol = Char.ofNat 0x212a then 'k'
  else symbol.toLower

/-- Whether a key names a field. -/
def namesField (field key : String) : Bool :=
  key.toList.map foldedSymbol = field.toList.map foldedSymbol

/-- An integer field, which `null` leaves alone. -/
def integerField (current : Int) : Json.Value → Option Int
  | .number literal => Decimal.parse 64 literal.toList
  | .null => some current
  | _ => none

/-- Decode one member into the claims. -/
def decodeClaim (claims : AccessClaims) (member : String × Json.Value) :
    Option AccessClaims :=
  if namesField "sub" member.1 then
    match member.2 with
    | .string text => some { claims with sub := text }
    | .null => some claims
    | _ => none
  else if namesField "iat" member.1 then
    (integerField claims.iat member.2).map fun iat => { claims with iat := iat }
  else if namesField "exp" member.1 then
    (integerField claims.exp member.2).map fun exp => { claims with exp := exp }
  else
    some claims

/-- The claims before anything is decoded. -/
def AccessClaims.zero : AccessClaims where
  sub := ""
  iat := 0
  exp := 0

/-- `json.Unmarshal` into the claims. -/
def unmarshalClaims (b : Bytes) : Option AccessClaims :=
  let text := goText b
  match Json.read text with
  | some (.object _) =>
      (Json.writtenMembers text.toList).bind fun members =>
        members.foldlM decodeClaim .zero
  | some .null => some .zero
  | _ => none

/-- The members of the claims. -/
def AccessClaims.members (claims : AccessClaims) : Json.Members :=
  [("sub", .string claims.sub), ("iat", .number (toString claims.iat)),
    ("exp", .number (toString claims.exp))]

/-- `json.Marshal` of the claims. -/
def marshalClaims (claims : AccessClaims) : Bytes :=
  bytesOf (String.ofList (Json.write goEscapes (.object claims.members)))

/-- The characters of an encoded text are read back. -/
theorem goRunes_utf8 (symbols : List Char) :
    ∀ fuel,
      (symbols.flatMap String.utf8EncodeChar).length ≤ fuel →
        goRunes fuel (symbols.flatMap String.utf8EncodeChar) = symbols := by
  induction symbols with
  | nil =>
      intro fuel _
      cases fuel with
      | zero =>
          rfl
      | succ fuel =>
          rfl
  | cons symbol rest inductionHypothesis =>
      intro fuel enough
      have positive := symbol.utf8Size_pos
      have size := String.length_utf8EncodeChar symbol
      rw [List.flatMap_cons, List.length_append] at enough
      cases fuel with
      | zero =>
          omega
      | succ fuel =>
          rw [List.flatMap_cons]
          cases spelled : String.utf8EncodeChar symbol with
          | nil =>
              rw [spelled] at size
              simp at size
              omega
          | cons byte bytes =>
              have decoded :=
                ByteArray.utf8DecodeChar?_utf8EncodeChar_append
                  (b := (rest.flatMap String.utf8EncodeChar).toByteArray)
                  (c := symbol)
              rw [← List.toByteArray_append, spelled] at decoded
              rw [List.cons_append, goRunes]
              rw [List.cons_append] at decoded
              rw [decoded]
              simp only []
              rw [← List.cons_append, ← spelled, ← size, List.drop_left,
                inductionHypothesis fuel (by omega)]

/-- The text of an encoded text is that text. -/
theorem goText_bytesOf (text : String) :
    goText (bytesOf text) = text := by
  rw [goText, bytesOf_eq_utf8, utf8,
    goRunes_utf8 text.toList _ (Nat.le_refl _), String.ofList_toList]

/-- Only zero begins with the digit zero. -/
theorem toDigits_head_zero (value : Nat) :
    (Nat.toDigits 10 value).head? = some '0' → value = 0 := by
  induction value using Nat.strongRecOn with
  | _ value inductionHypothesis =>
      intro leading
      by_cases small : value < 10
      · rw [Nat.toDigits_of_lt_base small] at leading
        have digit : ∀ value, value < 10 → value.digitChar = '0' → value = 0 := by
          decide
        exact digit value small (Option.some.inj leading)
      · have large : 10 ≤ value := Nat.le_of_not_lt small
        rw [Nat.toDigits_of_base_le (by omega) large,
          List.head?_append_of_ne_nil _ Nat.toDigits_ne_nil] at leading
        have shorter :=
          inductionHypothesis (value / 10) (by omega) leading
        omega

/-- A decimal digit is a digit of number literals. -/
theorem isDigit_of_mem_toDigits
    {value : Nat}
    {symbol : Char}
    (member : symbol ∈ Nat.toDigits 10 value) :
    Json.isDigit symbol = true := by
  have digit := Decimal.isDigit_of_mem_toDigits member
  simpa [Char.isDigit, Json.isDigit, UInt32.le_iff_toNat_le] using digit

/-- The digits of a number are the whole part of a literal, and all of it. -/
theorem validNumber_toDigits (value : Nat) :
    let whole := (Nat.toDigits 10 value).takeWhile Json.isDigit
    ((whole = ['0'] || (!whole.isEmpty && whole.head? ≠ some '0')) &&
      Json.validFraction ((Nat.toDigits 10 value).dropWhile Json.isDigit)) =
        true := by
  have taken :
      (Nat.toDigits 10 value).takeWhile Json.isDigit = Nat.toDigits 10 value :=
    List.takeWhile_eq_self_iff.mpr fun _ => isDigit_of_mem_toDigits
  have dropped : (Nat.toDigits 10 value).dropWhile Json.isDigit = [] :=
    List.dropWhile_eq_nil_iff.mpr fun _ => isDigit_of_mem_toDigits
  rw [taken, dropped]
  by_cases leading : (Nat.toDigits 10 value).head? = some '0'
  · rw [toDigits_head_zero value leading]
    rfl
  · simp [leading, Nat.toDigits_ne_nil, Json.validFraction,
      Json.validExponent]

/-- An integer in decimal is a number literal. -/
theorem wellFormed_integer (value : Int) :
    Json.WellFormed (.number (toString value)) := by
  have numeric :
      ∀ (value : Nat) (symbol : Char),
        symbol ∈ Nat.toDigits 10 value → Json.isNumberChar symbol = true := by
    intro value symbol member
    simp [Json.isNumberChar, isDigit_of_mem_toDigits member]
  rw [Json.WellFormed, Decimal.toList_toString]
  cases value with
  | ofNat value =>
      obtain ⟨first, rest, spelled, digit⟩ := Decimal.toDigits_head value
      have unsigned : first ≠ '-' := (Decimal.ne_sign_of_isDigit digit).1
      have valid := validNumber_toDigits value
      refine ⟨?_, List.all_eq_true.mpr (numeric value)⟩
      rw [Decimal.write]
      rw [spelled] at valid ⊢
      unfold Json.validNumber
      split
      · rename_i same
        exact absurd (List.cons.inj same).1 unsigned
      · exact valid
  | negSucc value =>
      have digits :
          ('-' :: Nat.toDigits 10 (value + 1)).all Json.isNumberChar = true := by
        rw [List.all_cons, List.all_eq_true.mpr (numeric (value + 1))]
        rfl
      exact ⟨validNumber_toDigits (value + 1), digits⟩

/-- An integer that was written is read back. -/
theorem integerField_toString
    {value : Int}
    (fits : Decimal.Fits 64 value)
    (current : Int) :
    integerField current (.number (toString value)) = some value := by
  rw [integerField, Decimal.toList_toString, Decimal.parse_write fits]

/-- Decoding the members of claims gives the claims. -/
theorem foldlM_members
    {claims : AccessClaims}
    (fitsIssued : Decimal.Fits 64 claims.iat)
    (fitsExpiry : Decimal.Fits 64 claims.exp) :
    claims.members.foldlM decodeClaim .zero = some claims := by
  have named :
      namesField "sub" "sub" = true ∧
        namesField "sub" "iat" = false ∧ namesField "iat" "iat" = true ∧
        namesField "sub" "exp" = false ∧ namesField "iat" "exp" = false ∧
        namesField "exp" "exp" = true := by
    decide
  obtain ⟨sub, notIat, iat, notExp, neither, exp⟩ := named
  have issued (current : Int) := integerField_toString fitsIssued current
  have expiry (current : Int) := integerField_toString fitsExpiry current
  simp only [AccessClaims.members, List.foldlM_cons, List.foldlM_nil,
    decodeClaim, sub, notIat, iat, notExp, neither, exp, issued, expiry,
    if_true, Bool.false_eq_true, if_false, Option.map_some]
  rfl

/-- The claims that are written are read back. -/
theorem unmarshalClaims_marshalClaims
    (claims : AccessClaims)
    (fitsIssued : Decimal.Fits 64 claims.iat)
    (fitsExpiry : Decimal.Fits 64 claims.exp) :
    unmarshalClaims (marshalClaims claims) = some claims := by
  have members : Json.WellFormedMembers claims.members := by
    simp only [AccessClaims.members, Json.WellFormedMembers, and_true]
    exact ⟨True.intro, wellFormed_integer _, wellFormed_integer _⟩
  have object : Json.WellFormed (.object claims.members) := by
    refine ⟨?_, members⟩
    simp [AccessClaims.members]
  unfold unmarshalClaims marshalClaims
  rw [goText_bytesOf]
  simp only []
  rw [Json.read_write goEscapes object, String.toList_ofList]
  simp only []
  rw [Json.writtenMembers_write goEscapes members, Option.bind_some,
    foldlM_members fitsIssued fitsExpiry]

/-- The primitives of tokens whose claims are in JSON as the library codes it. -/
def jsonTokens (hmacSha256 : Bytes → Bytes → Bytes) : TokenPrimitives where
  hmacSha256 := hmacSha256
  marshal := marshalClaims
  unmarshal := unmarshalClaims
  unmarshal_marshal := unmarshalClaims_marshalClaims

/-!
## Tokens over their lifetime
-/

/-- A whole number of seconds later. -/
theorem unix_add_seconds (issued : Time) (lifetime : Int) :
    unix (issued + lifetime * second) = unix issued + lifetime := by
  unfold unix second
  omega

namespace TokenPrimitives

variable (primitives : TokenPrimitives)

/-- A changed token that is accepted under the same signature shares its HMAC. -/
theorem hmac_of_same_signature
    {first second third first' second' secret : Bytes}
    {now now' : Time}
    {userID userID' : String}
    (parts : dot ∉ first ∧ dot ∉ second ∧ dot ∉ third)
    (parts' : dot ∉ first' ∧ dot ∉ second')
    (accepted :
      primitives.parseAccessToken (first ++ dot :: second ++ dot :: third)
          secret now =
        .returned userID)
    (accepted' :
      primitives.parseAccessToken (first' ++ dot :: second' ++ dot :: third)
          secret now' =
        .returned userID') :
    primitives.hmacSha256 secret (first' ++ dot :: second') =
      primitives.hmacSha256 secret (first ++ dot :: second) := by
  obtain ⟨_, _, _, segments, -⟩ :=
    (primitives.parseAccessToken_eq_returned _ _ _ _).mp accepted
  obtain ⟨_, _, _, segments', -⟩ :=
    (primitives.parseAccessToken_eq_returned _ _ _ _).mp accepted'
  rw [splitOn_segments parts.1 parts.2.1 parts.2.2] at segments
  rw [splitOn_segments parts'.1 parts'.2 parts.2.2] at segments'
  simp only [List.cons.injEq, and_true] at segments segments'
  obtain ⟨rfl, rfl, signed⟩ := segments
  obtain ⟨rfl, rfl, signed'⟩ := segments'
  exact jwtB64_injective (signed'.symm.trans signed)

/--
An issued token is read back as its user ID in every second before its expiry and
refused from then on, as long as both times fit the integers of the claims.  A
token is accepted exactly if it has three segments of which the third is the HMAC
of the others, and the claims of the second one name the returned user and have
not expired.  So two tokens with one signature are both accepted only if what was
signed has one HMAC.
-/
theorem access_tokens :
    (∀ (userID : String) (secret : Bytes) (issued : Time) (lifetime : Int),
      userID ≠ "" →
      Decimal.Fits 64 (unix issued) →
      Decimal.Fits 64 (unix issued + lifetime) →
      ∀ now,
        primitives.parseAccessToken
            (primitives.issueAccessToken userID secret (lifetime * second)
              issued)
            secret now =
          if unix now < unix issued + lifetime then
            .returned userID
          else
            .failed errInvalidToken) ∧
    (∀ (token secret : Bytes) (now : Time) (userID : String),
      primitives.parseAccessToken token secret now = .returned userID ↔
        ∃ first second claims,
          token.splitOn dot =
            [first, second,
              bytesOf (Environment.jwtB64
                (primitives.hmacSha256 secret (first ++ dot :: second)))] ∧
          (jwtB64Decode second).bind primitives.unmarshal = some claims ∧
          claims.sub = userID ∧ userID ≠ "" ∧ unix now < claims.exp) ∧
    ∀ (first second third first' second' secret : Bytes) (now now' : Time)
      (userID userID' : String),
      (dot ∉ first ∧ dot ∉ second ∧ dot ∉ third) →
      (dot ∉ first' ∧ dot ∉ second') →
      primitives.parseAccessToken (first ++ dot :: second ++ dot :: third)
          secret now =
        .returned userID →
      primitives.parseAccessToken (first' ++ dot :: second' ++ dot :: third)
          secret now' =
        .returned userID' →
      primitives.hmacSha256 secret (first' ++ dot :: second') =
        primitives.hmacSha256 secret (first ++ dot :: second) := by
  refine ⟨?_, primitives.parseAccessToken_eq_returned, ?_⟩
  · intro userID secret issued lifetime named fits fitsExpiry now
    have expiry := unix_add_seconds issued lifetime
    rw [← expiry] at fitsExpiry
    rw [primitives.parseAccessToken_issueAccessToken fits fitsExpiry, expiry]
    by_cases fresh : unix now < unix issued + lifetime
    · rw [if_pos fresh, if_neg]
      rw [not_or]
      exact ⟨named, Int.not_le.mpr fresh⟩
    · rw [if_neg fresh, if_pos (.inr (Int.not_lt.mp fresh))]
  · intro first second third first' second' secret now now' userID userID'
      parts parts' accepted accepted'
    exact primitives.hmac_of_same_signature parts parts' accepted accepted'

end TokenPrimitives

/-- A token of one second, in that second and in the next one. -/
theorem access_tokens_one_second :
    let primitives := jsonTokens fun key message => key ++ message
    let token :=
      primitives.issueAccessToken "a<b" (bytesOf "secret") (1 * second) 0
    primitives.parseAccessToken token (bytesOf "secret") 999999999 =
        .returned "a<b" ∧
      primitives.parseAccessToken token (bytesOf "secret") 1000000000 =
        .failed errInvalidToken :=
  have lifetime :=
    (jsonTokens fun key message => key ++ message).access_tokens.1 "a<b"
      (bytesOf "secret") 0 1 (by decide) (by decide) (by decide)
  ⟨lifetime 999999999, lifetime 1000000000⟩

/-!
## The tokens of the server
-/

/-- The bytes of two texts, one after the other. -/
theorem bytesOf_append (first second : String) :
    bytesOf (first ++ second) = bytesOf first ++ bytesOf second := by
  simp only [bytesOf_eq_utf8, utf8, String.toList_append,
    List.flatMap_append]

/-- The tokens that the handlers issue are these tokens. -/
theorem bytesOf_issueAccessToken
    {env : Environment}
    {hmacSha256 : Bytes → Bytes → Bytes}
    (same :
      ∀ key message,
        env.hmacSha256 key message =
          hmacSha256 (bytesOf key) (bytesOf message))
    (userID : String)
    (now : Time) :
    bytesOf (env.issueAccessToken userID now) =
      (jsonTokens hmacSha256).issueAccessToken userID (bytesOf env.jwtSecret)
        accessTokenTTL now := by
  have separator : bytesOf "." = [dot] := by
    rw [bytesOf_eq_utf8]
    decide
  simp only [Environment.issueAccessToken, Environment.signJWT,
    TokenPrimitives.issueAccessToken, TokenPrimitives.signJWT, jsonTokens,
    marshalClaims, AccessClaims.members, same, bytesOf_append, separator,
    List.append_assoc, List.cons_append, List.nil_append]

/-- A token that the handlers issue lets its user in for fifteen minutes. -/
theorem requireAuth_issueAccessToken
    {env : Environment}
    {hmacSha256 : Bytes → Bytes → Bytes}
    (same :
      ∀ key message,
        env.hmacSha256 key message =
          hmacSha256 (bytesOf key) (bytesOf message))
    {userID : String}
    (named : userID ≠ "")
    {issued now : Time}
    (fits : Decimal.Fits 64 (unix issued))
    (fitsExpiry : Decimal.Fits 64 (unix issued + 900)) :
    (jsonTokens hmacSha256).requireAuth (bytesOf env.jwtSecret) now
        (bytesOf ("Bearer " ++ env.issueAccessToken userID issued)) =
      if unix now < unix issued + 900 then
        .ok userID
      else
        .error (401, "invalid or expired token") := by
  have lifetime : accessTokenTTL = 900 * second := by
    rfl
  have expiry := unix_add_seconds issued 900
  rw [← expiry, ← lifetime] at fitsExpiry
  have parsed :=
    @TokenPrimitives.parseAccessToken_issueAccessToken (jsonTokens hmacSha256)
      userID issued accessTokenTTL fits fitsExpiry (bytesOf env.jwtSecret) now
  have begins :
      (bytesOf "Bearer ").isPrefixOf
          (bytesOf ("Bearer " ++ env.issueAccessToken userID issued)) =
        true := by
    rw [bytesOf_append]
    exact List.isPrefixOf_iff_prefix.mpr (List.prefix_append _ _)
  unfold TokenPrimitives.requireAuth
  simp only [begins, if_true]
  rw [bytesOf_append, List.drop_left, bytesOf_issueAccessToken same, parsed,
    lifetime, expiry]
  by_cases fresh : unix now < unix issued + 900
  · have valid : ¬ (userID = "" ∨ unix now ≥ unix issued + 900) := by
      rw [not_or]
      exact ⟨named, Int.not_le.mpr fresh⟩
    rw [if_neg valid, if_pos fresh]
  · have expired : userID = "" ∨ unix now ≥ unix issued + 900 :=
      .inr (Int.not_lt.mp fresh)
    rw [if_pos expired, if_neg fresh]

end Passwd.Server
