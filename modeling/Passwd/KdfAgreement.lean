import Mathlib.Algebra.Group.Int.Defs
import Mathlib.Algebra.Group.Nat.Defs
import Passwd.AccountRequests
import Passwd.ClientSession

namespace Passwd.Client

open Base64 Utf8 Crypto Server

/-!
# The key derivation of the client and of the reference

Which primitive the client and the reference implementation of the server call
for the KDF parameters of an account, after the parameters went through the JSON
of the server: there a zero is omitted, the client puts its own default in its
place, and the reference narrows the numbers.
-/

/-- A call of a key derivation primitive. -/
inductive KdfCall where
  | pbkdf2 (salt : Bytes) (iterations : Int) (length : Nat)
  | argon2id
      (salt : Bytes) (iterations memoryKiB parallelism : Int) (length : Nat)
deriving Repr, DecidableEq

/-!
## Numbers of JSON in JavaScript
-/

/-- The double next to a number, the even one of two. -/
def nearestDouble (number : Nat) : Nat :=
  let unit := 2 ^ (number.log2 - 52)
  let below := number / unit
  let rest := number % unit
  if unit < 2 * rest ∨ (unit = 2 * rest ∧ below % 2 = 1) then
    (below + 1) * unit
  else
    below * unit

/-- An integer of JSON as JavaScript reads it. -/
def readNumber (number : Int) : Int :=
  match number with
  | .ofNat magnitude => nearestDouble magnitude
  | .negSucc magnitude => -(nearestDouble (magnitude + 1))

/-- The KDF parameters as a client reads them from the JSON of the server. -/
def readKdf (kdf : KDFParams) : KdfParams :=
  let received := receivedKdf kdf
  { type := received.type
    iterations := readNumber received.iterations
    memoryMiB := received.memoryMiB.map readNumber
    parallelism := received.parallelism.map readNumber }

/-!
## The two implementations
-/

/-- The call that `deriveKey` of the client makes. -/
def deriveKeyCall (salt : String) (params : KdfParams) : KdfCall :=
  let saltBytes := utf8 salt
  if params.type = "pbkdf2" then
    .pbkdf2 saltBytes params.iterations 32
  else
    .argon2id saltBytes params.iterations (params.memoryMiB.getD 64 * 1024)
      (params.parallelism.getD 4) 32

/-- The call that `DeriveKey` of the reference makes; `none` is an error. -/
def Reference.deriveKeyCall (salt : Bytes) (p : KDFParams) : Option KdfCall :=
  if p.type = "pbkdf2" then
    some (.pbkdf2 salt p.iterations 32)
  else if p.type = "argon2id" then
    let mem := UInt32.ofInt p.memoryMiB * 1024
    some
      (.argon2id salt (UInt32.ofInt p.iterations).toNat mem.toNat
        (UInt8.ofInt p.parallelism).toNat 32)
  else
    none

/-- What a primitive returns for a password. -/
def KdfCall.perform (crypto : Primitives) (password : Bytes) :
    KdfCall → Option Bytes
  | .pbkdf2 salt iterations length =>
      crypto.pbkdf2 password salt iterations length
  | .argon2id salt iterations memoryKiB parallelism _ =>
      crypto.argon2id password salt iterations memoryKiB parallelism

/-- The client's key is what the primitive of its call returns. -/
theorem deriveKey_eq_perform
    (crypto : Primitives)
    (password salt : String)
    (params : KdfParams) :
    deriveKey crypto password salt params =
      (deriveKeyCall salt params).perform crypto
        (utf8 (crypto.nfkc password)) := by
  unfold deriveKey deriveKeyCall
  simp only []
  split
  · rfl
  · rfl

/-- The parameters that `handleRegister` stores for the ones it is sent. -/
def registeredKdf (params : KdfParams) : KDFParams :=
  let kdf := sentKdf params
  if kdf.type = "" then defaultKDF else kdf

/-- The row of a registered account has these parameters. -/
theorem registeredUser_kdf
    {env : Environment}
    {req : RegisterRequest}
    {params : KdfParams}
    (sent : req.kdf = sentKdf params)
    (id verifier : String)
    (createdAt updatedAt : Time) :
    (registeredUser env req id verifier createdAt updatedAt).kdf =
      registeredKdf params := by
  simp only [registeredUser, registeredKdf, sent]

/--
For the stored parameters of a sent object both implementations call the same
primitive with the same arguments.  That both reject the object is no case, as
the client always makes a call.
-/
def SameCall (salt : String) (params : KdfParams) : Prop :=
  Reference.deriveKeyCall (utf8 salt) (registeredKdf params) =
    some (deriveKeyCall salt (readKdf (registeredKdf params)))

instance (salt : String) (params : KdfParams) :
    Decidable (SameCall salt params) :=
  inferInstanceAs (Decidable (_ = _))

/-!
## Numbers that are kept
-/

/-- A number of at most 53 bits is a double. -/
theorem nearestDouble_of_small
    {number : Nat}
    (small : number < 2 ^ 53) :
    nearestDouble number = number := by
  have short : number.log2 ≤ 52 := by
    by_cases zero : number = 0
    · rw [zero]
      decide
    · have bits := (Nat.log2_lt zero).mpr small
      omega
  have unit : number.log2 - 52 = 0 := by
    omega
  simp only [nearestDouble, unit, Nat.pow_zero, Nat.mod_one, Nat.div_one]
  rw [if_neg (by omega), Nat.mul_one]

/-- A larger number stays as large. -/
theorem le_nearestDouble
    {number : Nat}
    (large : 2 ^ 53 ≤ number) :
    2 ^ 53 ≤ nearestDouble number := by
  have nonzero : number ≠ 0 := by
    omega
  have bits : 53 ≤ number.log2 := (Nat.le_log2 nonzero).mpr large
  have below : 2 ^ 52 ≤ number / 2 ^ (number.log2 - 52) := by
    rw [Nat.le_div_iff_mul_le (Nat.two_pow_pos _), ← Nat.pow_add,
      Nat.add_sub_cancel' (by omega)]
    exact Nat.log2_self_le nonzero
  have unit : 2 ^ 1 ≤ 2 ^ (number.log2 - 52) :=
    Nat.pow_le_pow_right (by omega) (by omega)
  have product :
      2 ^ 53 ≤ number / 2 ^ (number.log2 - 52) * 2 ^ (number.log2 - 52) :=
    Nat.mul_le_mul below unit
  unfold nearestDouble
  simp only []
  split
  · rw [Nat.add_mul]
    omega
  · exact product

/-- A natural number is read as the double next to it. -/
theorem readNumber_natCast (number : Nat) :
    readNumber number = nearestDouble number :=
  rfl

/-- Small numbers are read as they are, and large ones as large ones. -/
theorem readNumber_spec (number : Int) :
    (-(2 ^ 53) < number ∧ number < 2 ^ 53 → readNumber number = number) ∧
      (2 ^ 53 ≤ number → 2 ^ 53 ≤ readNumber number) ∧
      (number ≤ -(2 ^ 53) → readNumber number ≤ -(2 ^ 53)) := by
  cases number with
  | ofNat magnitude =>
      rw [Int.ofNat_eq_natCast]
      refine ⟨?_, ?_, ?_⟩
      · intro bounds
        have small : magnitude < 2 ^ 53 := by
          omega
        rw [readNumber_natCast, nearestDouble_of_small small]
      · intro bound
        have large : 2 ^ 53 ≤ magnitude := by
          omega
        have kept := le_nearestDouble large
        rw [readNumber_natCast]
        omega
      · intro bound
        omega
  | negSucc magnitude =>
      refine ⟨?_, ?_, ?_⟩
      · intro bounds
        have small : magnitude + 1 < 2 ^ 53 := by
          omega
        simp only [readNumber, nearestDouble_of_small small]
        rfl
      · intro bound
        omega
      · intro bound
        have large : 2 ^ 53 ≤ magnitude + 1 := by
          omega
        have kept := le_nearestDouble large
        simp only [readNumber]
        omega

/-- A remainder is the number that is read exactly below the divisor. -/
theorem emod_eq_readNumber
    {bound : Int}
    (positive : 0 < bound)
    (small : bound ≤ 2 ^ 53)
    (number : Int) :
    number % bound = readNumber number ↔ 0 ≤ number ∧ number < bound := by
  obtain ⟨exact, large, negative⟩ := readNumber_spec number
  have nonnegative := Int.emod_nonneg number (Int.ne_of_gt positive)
  have below := Int.emod_lt_of_pos number positive
  constructor
  · intro read
    by_cases above : 2 ^ 53 ≤ number
    · have := large above
      omega
    · by_cases under : number ≤ -(2 ^ 53)
      · have := negative under
        omega
      · rw [exact (by omega)] at read
        omega
  · intro bounds
    rw [exact (by omega), Int.emod_eq_of_lt bounds.1 bounds.2]

/--
The remainder of an optional number is the number that is read behind an omitted
zero exactly if the number is there, and between one and the divisor.
-/
theorem emod_eq_read
    {bound default : Int}
    (positive : 0 < bound)
    (small : bound ≤ 2 ^ 53)
    (defaulted : default ≠ 0)
    (number : Option Int) :
    number.getD 0 % bound =
        ((if number.getD 0 = 0 then none else some (number.getD 0)).map
          readNumber).getD default ↔
      ∃ value, number = some value ∧ 1 ≤ value ∧ value < bound := by
  have read := emod_eq_readNumber positive small (number.getD 0)
  by_cases zero : number.getD 0 = 0
  · rw [if_pos zero, zero, Int.zero_emod, Option.map_none, Option.getD_none]
    constructor
    · intro same
      exact absurd same.symm defaulted
    · rintro ⟨value, rfl, atLeast, -⟩
      rw [Option.getD_some] at zero
      omega
  · rw [if_neg zero, Option.map_some, Option.getD_some, read]
    cases number with
    | none =>
        exact absurd rfl zero
    | some value =>
        simp only [Option.getD_some, Option.some.injEq,
          exists_eq_left'] at zero ⊢
        omega

/-!
## When the calls agree
-/

/-- The objects for which both implementations make the same call. -/
def CalledAlike (params : KdfParams) : Prop :=
  params.type = "" ∨
    (params.type = "pbkdf2" ∧
      readNumber params.iterations = params.iterations) ∨
    (params.type = "argon2id" ∧
      (0 ≤ params.iterations ∧ params.iterations < 2 ^ 32) ∧
      (∃ memoryMiB,
        params.memoryMiB = some memoryMiB ∧
        1 ≤ memoryMiB ∧ memoryMiB < 2 ^ 22) ∧
      ∃ parallelism,
        params.parallelism = some parallelism ∧
        1 ≤ parallelism ∧ parallelism < 2 ^ 8)

/-- The arguments of Argon2id in the reference are remainders. -/
theorem narrowed (number : Int) :
    ((UInt32.ofInt number).toNat : Int) = number % 2 ^ 32 ∧
      ((UInt32.ofInt number * 1024).toNat : Int) = number % 2 ^ 22 * 1024 ∧
      ((UInt8.ofInt number).toNat : Int) = number % 2 ^ 8 := by
  have word : ((UInt32.ofInt number).toNat : Int) = number % 2 ^ 32 := by
    simp only [UInt32.ofInt, UInt32.toNat_ofNat']
    omega
  refine ⟨word, ?_, ?_⟩
  · rw [UInt32.toNat_mul]
    have factor : (1024 : UInt32).toNat = 1024 := rfl
    rw [factor]
    omega
  · simp only [UInt8.ofInt, UInt8.toNat_ofNat']
    omega

/--
For every object of KDF parameters the two implementations make the same call on
the stored parameters exactly if the type is empty; or is `pbkdf2` and the
iterations are a double; or is `argon2id` and memory and parallelism are there,
not zero, and none of the three numbers is narrowed.
-/
theorem sameCall_iff (salt : String) (params : KdfParams) :
    SameCall salt params ↔ CalledAlike params := by
  by_cases empty : params.type = ""
  · have standard : registeredKdf params = defaultKDF :=
      if_pos empty
    have same : SameCall salt params := by
      rw [SameCall, standard]
      rfl
    exact ⟨fun _ => .inl empty, fun _ => same⟩
  · have stored : registeredKdf params = sentKdf params :=
      if_neg empty
    unfold SameCall CalledAlike
    rw [stored]
    by_cases rounds : params.type = "pbkdf2"
    · have reference :
          Reference.deriveKeyCall (utf8 salt) (sentKdf params) =
            some (.pbkdf2 (utf8 salt) params.iterations 32) :=
        if_pos rounds
      have client :
          deriveKeyCall salt (readKdf (sentKdf params)) =
            .pbkdf2 (utf8 salt) (readNumber params.iterations) 32 :=
        if_pos rounds
      have other : params.type ≠ "argon2id" := by
        rw [rounds]
        decide
      rw [reference, client, Option.some.injEq, KdfCall.pbkdf2.injEq]
      constructor
      · rintro ⟨-, same, -⟩
        exact .inr (.inl ⟨rounds, same.symm⟩)
      · rintro (isEmpty | ⟨-, exact⟩ | ⟨argon, -⟩)
        · exact absurd isEmpty empty
        · exact ⟨rfl, exact.symm, rfl⟩
        · exact absurd argon other
    · have client :
          deriveKeyCall salt (readKdf (sentKdf params)) =
            .argon2id (utf8 salt) (readNumber params.iterations)
              (((if params.memoryMiB.getD 0 = 0 then none
                else some (params.memoryMiB.getD 0)).map readNumber).getD 64 *
                1024)
              (((if params.parallelism.getD 0 = 0 then none
                else some (params.parallelism.getD 0)).map readNumber).getD 4)
              32 :=
        if_neg rounds
      by_cases argon : params.type = "argon2id"
      · obtain ⟨time, -, -⟩ := narrowed params.iterations
        obtain ⟨-, memory, -⟩ := narrowed (params.memoryMiB.getD 0)
        obtain ⟨-, -, threads⟩ := narrowed (params.parallelism.getD 0)
        have reference :
            Reference.deriveKeyCall (utf8 salt) (sentKdf params) =
              some
                (.argon2id (utf8 salt) (params.iterations % 2 ^ 32)
                  (params.memoryMiB.getD 0 % 2 ^ 22 * 1024)
                  (params.parallelism.getD 0 % 2 ^ 8) 32) := by
          rw [← time, ← memory, ← threads]
          exact (if_neg rounds).trans (if_pos argon)
        have memoryRead :=
          @emod_eq_read (2 ^ 22) 64 (by omega) (by omega)
            (by omega) params.memoryMiB
        have threadsRead :=
          @emod_eq_read (2 ^ 8) 4 (by omega) (by omega)
            (by omega) params.parallelism
        have timeRead :=
          @emod_eq_readNumber (2 ^ 32) (by omega) (by omega)
            params.iterations
        have scaled (first second : Int) :
            first * 1024 = second * 1024 ↔ first = second := by
          omega
        rw [reference, client, Option.some.injEq, KdfCall.argon2id.injEq,
          scaled, timeRead, memoryRead, threadsRead]
        constructor
        · rintro ⟨-, time, memory, threads, -⟩
          exact .inr (.inr ⟨argon, time, memory, threads⟩)
        · rintro (isEmpty | ⟨isRounds, -⟩ | ⟨-, time, memory, threads⟩)
          · exact absurd isEmpty empty
          · exact absurd isRounds rounds
          · exact ⟨rfl, time, memory, threads, rfl⟩
      · have reference :
            Reference.deriveKeyCall (utf8 salt) (sentKdf params) = none :=
          (if_neg rounds).trans (if_neg argon)
        rw [reference]
        simp [empty, rounds, argon]

/--
An Argon2id object without memory and parallelism, as the type of the client
allows it: the client fills in its defaults, and the reference zeros.
-/
theorem omittedMemory_not_sameCall :
    ¬ SameCall "salt"
      { type := "argon2id"
        iterations := 3
        memoryMiB := none
        parallelism := none } := by
  decide

end Passwd.Client
