import Passwd.TotpCodes
import Passwd.AccessTokens

namespace Passwd.Totp

open Base64 Bits Server

/-!
# The codes of the client and of the server

Both sides decode the secret, count the time steps and truncate the HMAC in their
own way.  For the secrets that the server generates they show the same code at
the same time, and the server accepts the code of a clock that is thirty seconds
away from its own.
-/

/-- `unicode.ToUpper`, which maps every character on its own. -/
structure SimpleUpperCase where
  upper : Char → Char
  ascii : ∀ symbol : Char, symbol.toNat < 128 → upper symbol = symbol.toUpper

/-- The upper-case mapping of the ASCII letters. -/
def asciiSimpleUpperCase : SimpleUpperCase where
  upper := Char.toUpper
  ascii _ _ := rfl

/-- `base32NoPad.DecodeString(strings.ToUpper(strings.TrimSpace(secret)))` -/
def base32Key (letters : SimpleUpperCase) (secret : String) : Option Bytes :=
  Base32.decodeRaw isLineEnd
    ((Environment.trimSpace secret).toList.map letters.upper)

/-- A server whose codes rest on Base32 and on the HMAC of the client. -/
def withCodes
    (env : Environment)
    (letters : SimpleUpperCase)
    (crypto : WebCrypto) : Environment :=
  { env with
    base32NoPad := Base32.encode
    base32Key := base32Key letters
    hmacSha1 := crypto.sign .sha1 }

/-- The configuration of a client for a secret of the server. -/
def serverConfig (secret : Bytes) : TotpConfig where
  secret := secret
  algorithm := .sha1
  digits := 6
  period := 30

/-- `Date.now()` at a time that is not before the epoch. -/
def dateNow (t : Time) : Nat :=
  (t / 1000000).toNat

/-!
## Secrets
-/

/-- The symbols of a secret are no white space to the server. -/
theorem unspaced_symbols :
    ∀ group, group < 32 →
      Identifier.isGoSpace (Base32.symbol group) = false ∧
        isLineEnd (Base32.symbol group) = false := by
  decide

/-- What the client decodes of an encoded secret is the encoding itself. -/
theorem cleanSecret_encode (letters : UpperCase) (bytes : Bytes) :
    cleanSecret letters (Base32.encode bytes) = Base32.encodeChars bytes := by
  have spelled :
      Base32.Spells (fun _ => false) (Base32.encode bytes).toList
        (Base32.encodeChars bytes ++ List.replicate 0 '=') := by
    rw [Base32.encode, String.toList_ofList, List.replicate_zero,
      List.append_nil]
    exact .refl _ _
  apply cleanSecret_of_spells ?_ spelled
  intro ch separates
  cases separates

/-- The client decodes an encoded secret. -/
theorem base32Decode_encode
    (letters : UpperCase)
    {bytes : Bytes}
    (nonempty : bytes ≠ []) :
    base32Decode letters (Base32.encode bytes) = some bytes :=
  base32Decode_encodeChars nonempty (cleanSecret_encode letters bytes)

/-- The server decodes an encoded secret whose groups are complete. -/
theorem base32Key_encode
    (letters : SimpleUpperCase)
    {bytes : Bytes}
    (whole : bytes.length % 5 = 0) :
    base32Key letters (Base32.encode bytes) = some bytes := by
  have untrimmed :
      TextRuns.trim Identifier.isGoSpace (Base32.encodeChars bytes) =
        Base32.encodeChars bytes := by
    have noSpace :
        ∀ symbol ∈ Base32.encodeChars bytes,
          Identifier.isGoSpace symbol = false := by
      intro symbol member
      obtain ⟨group, bounded, rfl⟩ := Base32.mem_encodeChars member
      exact (unspaced_symbols group bounded).1
    apply TextRuns.trim_of_bare
    constructor
    · intro symbol first
      exact noSpace symbol (List.mem_of_mem_head? first)
    · intro symbol last
      exact noSpace symbol (List.mem_of_getLast? last)
  have upper :
      (Base32.encodeChars bytes).map letters.upper =
        Base32.encodeChars bytes := by
    have same :
        ∀ symbol ∈ Base32.encodeChars bytes, letters.upper symbol = symbol := by
      intro symbol member
      obtain ⟨group, bounded, rfl⟩ := Base32.mem_encodeChars member
      have plain := plain_symbol bounded
      rw [letters.ascii _ plain.ascii, plain.upper]
    rw [List.map_congr_left same]
    exact List.map_id _
  have keepsSymbols :
      ∀ group, group < 32 → isLineEnd (Base32.symbol group) = false := by
    intro group bounded
    exact (unspaced_symbols group bounded).2
  rw [base32Key, Environment.trimSpace, Base32.encode, String.toList_ofList,
    String.toList_ofList, untrimmed, upper,
    Base32.decodeRaw_encodeChars keepsSymbols whole]

/-!
## Truncation
-/

/-- The number that four bytes of an HMAC spell, without the highest bit. -/
def truncatedWord (mac : Bytes) : Nat :=
  let offset := (mac.getLastD 0).toNat % 16
  let byte := fun index => (mac.getD (offset + index) 0).toNat
  (byte 0 &&& 0x7f) <<< 24 ||| byte 1 <<< 16 ||| byte 2 <<< 8 ||| byte 3

/-- Shifting a number of a width stays below the sum of both. -/
theorem shiftLeft_lt
    {number width count bound : Nat}
    (small : number < 2 ^ width)
    (within : width + count ≤ bound) :
    number <<< count < 2 ^ bound := by
  have product : number * 2 ^ count < 2 ^ width * 2 ^ count :=
    Nat.mul_lt_mul_of_pos_right small (Nat.two_pow_pos count)
  rw [Nat.shiftLeft_eq]
  rw [← Nat.pow_add] at product
  exact Nat.lt_of_lt_of_le product (Nat.pow_le_pow_right (by omega) within)

/-- Four bytes are joined by the operators of JavaScript as by those of Go. -/
theorem join_bytes
    {first second third fourth : Nat}
    (bounded : first < 256 ∧ second < 256 ∧ third < 256 ∧ fourth < 256) :
    bitOr
        (bitOr
          (bitOr (shiftLeft (bitAnd first 0x7f) 24) (shiftLeft second 16))
          (shiftLeft third 8))
        fourth =
      ((first &&& 0x7f) <<< 24 ||| second <<< 16 ||| third <<< 8 ||| fourth :
        Nat) ∧
      (first &&& 0x7f) <<< 24 ||| second <<< 16 ||| third <<< 8 ||| fourth <
        2 ^ 31 := by
  obtain ⟨bounded1, bounded2, bounded3, bounded4⟩ := bounded
  have masked : first &&& 0x7f < 2 ^ 7 :=
    Nat.and_lt_two_pow first (by omega)
  have small1 : (first &&& 0x7f) <<< 24 < 2 ^ 31 :=
    shiftLeft_lt masked (by omega)
  have small2 : second <<< 16 < 2 ^ 31 :=
    @shiftLeft_lt second 8 16 31 bounded2 (by omega)
  have small3 : third <<< 8 < 2 ^ 31 :=
    @shiftLeft_lt third 8 8 31 bounded3 (by omega)
  have small4 : fourth < 2 ^ 31 := by
    omega
  have joined2 := Nat.or_lt_two_pow small1 small2
  have joined3 := Nat.or_lt_two_pow joined2 small3
  have mask : bitAnd first 0x7f = (first &&& 0x7f : Nat) :=
    @bitAnd_natCast first 0x7f (by omega) (by omega)
  refine ⟨?_, Nat.or_lt_two_pow joined3 small4⟩
  rw [mask, shiftLeft_natCast (by omega) small1,
    shiftLeft_natCast (by omega) small2, bitOr_natCast small1 small2,
    shiftLeft_natCast (by omega) small3, bitOr_natCast joined2 small3,
    bitOr_natCast joined3 small4]

/-- The client truncates an HMAC to the same number, which is not negative. -/
theorem truncate_eq (mac : Bytes) :
    truncate mac = truncatedWord mac ∧ truncatedWord mac < 2 ^ 31 := by
  have octet (index : Nat) : (mac.getD index 0).toNat < 256 :=
    UInt8.toNat_lt _
  have last : mac.getD (mac.length - 1) 0 = mac.getLastD 0 := by
    cases mac with
    | nil =>
        rfl
    | cons byte rest =>
        rw [List.getLastD_eq_getLast?, List.getLast?_eq_getElem?,
          List.getD_eq_getElem?_getD]
  have offset :
      (bitAnd ((mac.getD (mac.length - 1) 0).toNat : Int) 0x0f).toNat =
        (mac.getLastD 0).toNat % 16 := by
    have bounded := UInt8.toNat_lt (mac.getLastD 0)
    have mask :=
      @bitAnd_natCast (mac.getLastD 0).toNat 0x0f
        (by omega) (by omega)
    rw [last]
    rw [show ((0x0f : Nat) : Int) = 0x0f from rfl] at mask
    rw [mask, Int.toNat_natCast]
    exact Nat.and_two_pow_sub_one_eq_mod _ 4
  have joined :=
    join_bytes
      ⟨octet ((mac.getLastD 0).toNat % 16 + 0),
        octet ((mac.getLastD 0).toNat % 16 + 1),
        octet ((mac.getLastD 0).toNat % 16 + 2),
        octet ((mac.getLastD 0).toNat % 16 + 3)⟩
  refine ⟨?_, joined.2⟩
  unfold truncate truncatedWord
  simp only [offset]
  exact joined.1

/-- The server reduces this number to six digits. -/
theorem truncated_eq (mac : Bytes) :
    Environment.truncated mac = truncatedWord mac % 1000000 :=
  rfl

/-- The digits of a remainder, filled up with zeros. -/
theorem codeText_natCast (digits value : Nat) :
    codeText digits value =
      String.ofList
        (padStart digits (Nat.toDigits 10 (value % 10 ^ digits))) := by
  rfl

/-- A code has exactly the digits that it is configured to have. -/
theorem codeText_digits
    {digits : Nat}
    (positive : 0 < digits)
    (value : Nat) :
    (codeText digits value).toList.length = digits ∧
      ∀ symbol ∈ (codeText digits value).toList, symbol.isDigit = true := by
  have room :
      (Nat.toDigits 10 (value % 10 ^ digits)).length ≤ digits := by
    rw [Nat.length_toDigits_le_iff (by omega) positive]
    exact Nat.mod_lt _ (Nat.pow_pos (by omega))
  rw [codeText_natCast, String.toList_ofList, padStart]
  constructor
  · rw [List.length_append, List.length_replicate]
    omega
  · intro symbol member
    rcases List.mem_append.mp member with zero | digit
    · rw [List.eq_of_mem_replicate zero]
      rfl
    · exact Decimal.isDigit_of_mem_toDigits digit

/-- The client spells the number in the six digits of the server. -/
theorem codeText_six (mac : Bytes) :
    codeText 6 (truncate mac) =
      Environment.sixDigits (Environment.truncated mac) := by
  rw [(truncate_eq mac).1, codeText_natCast, truncated_eq]
  rfl

/-!
## Counters
-/

/-- The two halves of a counter are the eight bytes of the server. -/
theorem counterMessage_eq
    {counter : Nat}
    (bounded : counter < 2 ^ 64) :
    counterMessage counter = Environment.counterBytes counter := by
  have low : (unsignedShiftRight counter 0).toNat = counter % 2 ^ 32 := by
    rw [unsignedShiftRight, Int.toNat_natCast, BitVec.toNat_ushiftRight,
      toNat_toWord]
    rfl
  have bytes :
      Environment.counterBytes counter =
        [.ofNat (counter >>> 56), .ofNat (counter >>> 48),
          .ofNat (counter >>> 40), .ofNat (counter >>> 32),
          .ofNat (counter >>> 24), .ofNat (counter >>> 16),
          .ofNat (counter >>> 8), .ofNat (counter >>> 0)] :=
    rfl
  have same {first second : Nat} (remainder : first % 256 = second % 256) :
      UInt8.ofNat first = UInt8.ofNat second := by
    apply UInt8.toNat_inj.mp
    rw [UInt8.toNat_ofNat', UInt8.toNat_ofNat']
    exact remainder
  rw [counterMessage, low, bytes]
  simp only [setUint32, List.cons_append, List.nil_append,
    Nat.shiftRight_eq_div_pow, List.cons.injEq, and_true]
  exact ⟨same (by omega), same (by omega), same (by omega), same (by omega),
    same (by omega), same (by omega), same (by omega), same (by omega)⟩

/-- The second of the clock of a client is that of the server. -/
theorem dateNow_seconds
    {t : Time}
    (notBefore : 0 ≤ t) :
    ((dateNow t / 1000 : Nat) : Int) = unix t := by
  have nonnegative : (0 : Int) ≤ t := notBefore
  unfold dateNow unix second
  omega

/-- From the epoch on the time step is the second divided by thirty. -/
theorem totpCounter_of_seconds
    {t : Time}
    {seconds : Nat}
    (same : unix t = seconds)
    (bounded : seconds < 2 ^ 64) :
    Environment.totpCounter t = seconds / 30 := by
  rw [Environment.totpCounter, same]
  omega

/-- The time step of a client is that of the server. -/
theorem totpCounter_dateNow
    {t : Time}
    (notBefore : 0 ≤ t)
    (bounded : dateNow t / 1000 / 30 < 2 ^ 53) :
    Environment.totpCounter t = dateNow t / 1000 / 30 :=
  totpCounter_of_seconds (dateNow_seconds notBefore).symm (by omega)

/-- Times within thirty seconds lie in seconds within thirty. -/
theorem seconds_near
    {first later : Int}
    (near : first - later ≤ 30000000000) :
    first / 1000000000 ≤ later / 1000000000 + 30 := by
  omega

/--
Within thirty seconds the time step of one clock is that of the other, the one
before or the one after.
-/
theorem totpCounter_near
    {shown now : Time}
    (notBefore : 0 ≤ shown)
    (bounded : dateNow shown / 1000 / 30 < 2 ^ 53)
    (near : shown - now ≤ 30 * second ∧ now - shown ≤ 30 * second) :
    ∃ t ∈
        [now, now - Environment.totpPeriod, now + Environment.totpPeriod],
      Environment.totpCounter t = dateNow shown / 1000 / 30 := by
  have seconds := dateNow_seconds notBefore
  generalize dateNow shown / 1000 = s at seconds bounded ⊢
  have before : unix (now - Environment.totpPeriod) = unix now - 30 := by
    have shifted := unix_add_seconds now (-30)
    rw [Int.neg_mul, ← Int.sub_eq_add_neg, ← Int.sub_eq_add_neg] at shifted
    exact shifted
  have after : unix (now + Environment.totpPeriod) = unix now + 30 :=
    unix_add_seconds now 30
  have close : (s : Int) ≤ unix now + 30 ∧ unix now ≤ s + 30 := by
    rw [seconds]
    exact ⟨seconds_near near.1, seconds_near near.2⟩
  clear seconds near
  by_cases negative : unix now < 0
  · refine ⟨now + Environment.totpPeriod, by simp, ?_⟩
    rw [@totpCounter_of_seconds _ (unix now + 30).toNat
      (by omega) (by omega)]
    omega
  · by_cases earlier : s / 30 + 1 = (unix now).toNat / 30
    · refine ⟨now - Environment.totpPeriod, by simp, ?_⟩
      rw [@totpCounter_of_seconds _ (unix now - 30).toNat
        (by omega) (by omega)]
      omega
    · by_cases later : s / 30 = (unix now).toNat / 30 + 1
      · refine ⟨now + Environment.totpPeriod, by simp, ?_⟩
        rw [@totpCounter_of_seconds _ (unix now + 30).toNat
          (by omega) (by omega)]
        omega
      · refine ⟨now, by simp, ?_⟩
        rw [@totpCounter_of_seconds _ (unix now).toNat
          (by omega) (by omega)]
        omega

/-!
## Agreement
-/

section Agreement

variable
  (env : Environment)
  (clientLetters : UpperCase)
  (serverLetters : SimpleUpperCase)
  (crypto : WebCrypto)

/-- The code of a time step. -/
def stepCode (secret : Bytes) (counter : Nat) : String :=
  Environment.sixDigits
    (Environment.truncated
      (crypto.sign .sha1 secret (Environment.counterBytes counter)))

/-- The server's code is that of the time step. -/
theorem totpAt_encode
    {secret : Bytes}
    (whole : secret.length % 5 = 0)
    (t : Time) :
    (withCodes env serverLetters crypto).totpAt (Base32.encode secret) t =
      some (stepCode crypto secret (Environment.totpCounter t)) := by
  have key := base32Key_encode serverLetters whole
  simp only [Environment.totpAt, withCodes, key, Option.map_some, stepCode]

/-- The client's code is that of the time step. -/
theorem totpCode_serverConfig
    {secret : Bytes}
    (nonempty : secret ≠ [])
    {nowMs : Nat}
    (bounded : nowMs / 1000 / 30 < 2 ^ 53) :
    crypto.totpCode (serverConfig secret) nowMs =
      some
        (stepCode crypto secret (nowMs / 1000 / 30),
          30 - nowMs / 1000 % 30) := by
  have message :
      counterMessage (nowMs / 1000 / 30) =
        Environment.counterBytes (nowMs / 1000 / 30) :=
    counterMessage_eq (by omega)
  simp only [WebCrypto.totpCode, WebCrypto.hotp, serverConfig, if_neg nonempty,
    message, codeText_six, Option.map_some, stepCode]

/-- One of the times that the server tries has the code. -/
theorem matchingStep_isSome
    {secret : Bytes}
    (whole : secret.length % 5 = 0)
    {counter : Nat}
    {times : List Time}
    (tried : ∃ t ∈ times, Environment.totpCounter t = counter) :
    ((withCodes env serverLetters crypto).matchingStep (Base32.encode secret)
        (stepCode crypto secret counter) times).isSome = true := by
  induction times with
  | nil =>
      obtain ⟨t, member, -⟩ := tried
      cases member
  | cons t rest inductionHypothesis =>
      have code := totpAt_encode env serverLetters crypto whole t
      simp only [Environment.matchingStep, code]
      split
      · rfl
      · rename_i other
        apply inductionHypothesis
        obtain ⟨t', member, same⟩ := tried
        rcases List.mem_cons.mp member with rfl | later
        · rw [same] at other
          exact absurd rfl other
        · exact ⟨t', later, same⟩

/-- A text of ASCII characters has as many bytes as characters. -/
theorem utf8ByteSize_ascii
    {text : String}
    (ascii : ∀ symbol ∈ text.toList, symbol.toNat < 128) :
    text.utf8ByteSize = text.toList.length := by
  have encoded := String.utf8Encode_toList (b := text)
  have bytes := congrArg List.length (map_octetChar_utf8 ascii)
  rw [List.length_map] at bytes
  rw [← bytes, String.utf8ByteSize, ← encoded, List.utf8Encode]
  simp

/-- A code is a text of six digits, without space at the ends. -/
theorem stepCode_plain (secret : Bytes) (counter : Nat) :
    Environment.trimSpace (stepCode crypto secret counter) =
        stepCode crypto secret counter ∧
      (stepCode crypto secret counter).utf8ByteSize =
        Environment.totpDigits := by
  have text :
      stepCode crypto secret counter =
        codeText 6
          (truncatedWord
            (crypto.sign .sha1 secret
              (Environment.counterBytes counter)) : Nat) := by
    rw [stepCode, ← codeText_six, (truncate_eq _).1]
  obtain ⟨six, digits⟩ :=
    @codeText_digits 6 (by omega)
      (truncatedWord
        (crypto.sign .sha1 secret (Environment.counterBytes counter)))
  rw [← text] at six digits
  constructor
  · have untrimmed :
        TextRuns.trim Identifier.isGoSpace
            (stepCode crypto secret counter).toList =
          (stepCode crypto secret counter).toList := by
      apply TextRuns.trim_of_bare
      constructor
      · intro symbol first
        exact isGoSpace_of_isDigit symbol
          (digits symbol (List.mem_of_mem_head? first))
      · intro symbol last
        exact isGoSpace_of_isDigit symbol
          (digits symbol (List.mem_of_getLast? last))
    rw [Environment.trimSpace, untrimmed, String.ofList_toList]
  · rw [utf8ByteSize_ascii, six]
    · rfl
    intro symbol member
    have digit := digits symbol member
    have bounds : 48 ≤ symbol.toNat ∧ symbol.toNat ≤ 57 := by
      simpa [Char.isDigit, UInt32.le_iff_toNat_le] using digit
    omega

/-- The server accepts a code of a clock within thirty seconds of its own. -/
theorem verifyTOTPAt_near
    {secret : Bytes}
    (whole : secret.length % 5 = 0)
    {shown now : Time}
    (notBefore : 0 ≤ shown)
    (bounded : dateNow shown / 1000 / 30 < 2 ^ 53)
    (near : shown - now ≤ 30 * second ∧ now - shown ≤ 30 * second) :
    ((withCodes env serverLetters crypto).verifyTOTPAt (Base32.encode secret)
        (stepCode crypto secret (dateNow shown / 1000 / 30)) now).isSome =
      true := by
  obtain ⟨plain, six⟩ :=
    stepCode_plain crypto secret (dateNow shown / 1000 / 30)
  have tried := totpCounter_near notBefore bounded near
  rw [Environment.verifyTOTPAt]
  simp only [plain]
  rw [if_pos six]
  exact matchingStep_isSome env serverLetters crypto whole tried

/--
The codes of the two implementations.  The client's truncation of an HMAC of at
least twenty bytes has exactly the configured digits.  For a secret of twenty
bytes, as the server generates and encodes it, the client decodes the secret and
shows at every time the code that the server has at that time; and the server
accepts it at every time of its own clock within thirty seconds.
-/
theorem totp_agreement :
    (∀ (mac : Bytes) (digits : Nat),
      20 ≤ mac.length →
      6 ≤ digits →
      digits ≤ 10 →
      (codeText digits (truncate mac)).toList.length = digits ∧
        ∀ symbol ∈ (codeText digits (truncate mac)).toList,
          symbol.isDigit = true) ∧
    ∀ secret : Bytes,
      secret.length = 20 →
      let server := withCodes env serverLetters crypto
      base32Decode clientLetters (server.base32NoPad secret) = some secret ∧
        ∀ shown : Time,
          0 ≤ shown →
          dateNow shown / 1000 / 30 < 2 ^ 53 →
          ∃ code secondsLeft,
            crypto.totpCode (serverConfig secret) (dateNow shown) =
              some (code, secondsLeft) ∧
            server.totpAt (server.base32NoPad secret) shown = some code ∧
            ∀ now : Time,
              shown - now ≤ 30 * second →
              now - shown ≤ 30 * second →
              (server.verifyTOTPAt (server.base32NoPad secret) code
                now).isSome = true := by
  constructor
  · intro mac digits _ atLeast _
    rw [(truncate_eq mac).1]
    exact codeText_digits (by omega) _
  · intro secret length server
    have whole : secret.length % 5 = 0 := by
      omega
    have nonempty : secret ≠ [] := by
      intro empty
      rw [empty] at length
      cases length
    refine ⟨base32Decode_encode clientLetters nonempty, ?_⟩
    intro shown notBefore bounded
    refine ⟨_, _, totpCode_serverConfig crypto nonempty bounded, ?_, ?_⟩
    · rw [← totpCounter_dateNow notBefore bounded]
      exact totpAt_encode env serverLetters crypto whole shown
    · intro now above below
      exact verifyTOTPAt_near env serverLetters crypto whole notBefore bounded
        ⟨above, below⟩

end Agreement

/-- The code at the end of the first minute, half a minute later. -/
theorem totp_agreement_minute :
    let server := withCodes plainEnvironment asciiSimpleUpperCase plainWebCrypto
    let secret := List.replicate 20 1
    ∃ code secondsLeft,
      plainWebCrypto.totpCode (serverConfig secret) (dateNow (59 * second)) =
        some (code, secondsLeft) ∧
      (server.verifyTOTPAt (server.base32NoPad secret) code
        (89 * second)).isSome = true := by
  have agreement :=
    (totp_agreement plainEnvironment asciiUpperCase asciiSimpleUpperCase
      plainWebCrypto).2 (List.replicate 20 1) (by decide)
  obtain ⟨code, secondsLeft, shown, -, accepted⟩ :=
    agreement.2 (59 * second) (by decide) (by decide)
  exact ⟨code, secondsLeft, shown,
    accepted (89 * second) (by decide) (by decide)⟩

end Passwd.Totp
