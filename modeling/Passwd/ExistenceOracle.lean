import Passwd.EncString
import Passwd.FailedSignIns

namespace Passwd.Server

open Base64 Interaction

/-!
# What a client learns without signing in

Prelogin and the recovery challenge answer for any identifier.  This module
relates the answers of two servers that differ in one account only, as a client
sees them: statuses, key derivation parameters, the shapes of recovery blobs, and
which of the blobs are equal.
-/

/-!
## What a client sees
-/

/-- The shape of a blob: its length, and those of its parts if it has any. -/
structure BlobShape where
  length : Nat
  parts : Option (Nat × Nat)
deriving DecidableEq

/-- The shape of a blob. -/
def blobShape (blob : String) : BlobShape where
  length := blob.length
  parts :=
    (Crypto.parseEncString blob).map fun e => (e.nonce.length, e.data.length)

/-- The shape of a decoy. -/
def decoyShape : BlobShape where
  length := 127
  parts := some (12, 80)

/-- The recovery blob of a response. -/
def Response.blob? (res : Response) : Option String :=
  match res.body with
  | .recoveryChallenge blob _ => some blob
  | _ => none

/-- The key derivation parameters of a response. -/
def Response.kdf? (res : Response) : Option KDFParams :=
  match res.body with
  | .kdf kdf => some kdf
  | .recoveryChallenge _ kdf => some kdf
  | _ => none

/-- What a client sees of one response, the bytes of a blob apart. -/
def Response.outline (res : Response) :
    Nat × Option KDFParams × Option BlobShape :=
  (res.status, res.kdf?, res.blob?.map blobShape)

/--
A client cannot tell two sequences of responses apart: they have the same
outlines, and the same of their blobs are equal.
-/
structure Indistinguishable (first second : List Response) : Prop where
  outlines :
    second.map Response.outline = first.map Response.outline
  pattern :
    ∀ i j : Nat,
      (second.map Response.blob?)[i]? = (second.map Response.blob?)[j]? ↔
        (first.map Response.blob?)[i]? = (first.map Response.blob?)[j]?

/-!
## Two servers
-/

/-- The account behind an identifier hash. -/
def Store.account (store : Store) (idHash : String) : Option User :=
  (store.getUserByIdentifierHash idHash).1.toOption

/-- An account, if its recovery is enabled. -/
def enrolled (account : Option User) : Option User :=
  account.filter fun u => u.recoveryVerifier ≠ ""

/--
An account that exists on the first server only, or whose recovery is enabled on
the first server only.
-/
inductive DiffersIn : Option User → Option User → Prop where
  | existence (u : User) : DiffersIn (some u) none
  | recovery
      (u : User)
      (recoveryProtectedUserKey : String)
      (updatedAt : Time)
      (enabled : u.recoveryVerifier ≠ "") :
      DiffersIn (some u) (some { u with
        recoveryProtectedUserKey := recoveryProtectedUserKey
        recoveryVerifier := ""
        updatedAt := updatedAt })

/-- Two servers differ only in the account behind an identifier hash. -/
structure Apart (idHash : String) (first second : Store) : Prop where
  differs : DiffersIn (first.account idHash) (second.account idHash)
  elsewhere :
    ∀ other, other ≠ idHash → second.account other = first.account other

/-!
## Requests
-/

/-- A request with the choices of its calls. -/
abbrev Move := Request × (Nat → Choice)

/-- A prelogin or a request for a recovery challenge. -/
def Request.isInquiry : Request → Bool
  | .prelogin _ => true
  | .recoveryChallenge _ => true
  | _ => false

/-- A prelogin that reads the account behind a hash. -/
def ReadsParameters (env : Environment) (idHash : String) (move : Move) :
    Prop :=
  ∃ identifier,
    move.1 = .prelogin (some identifier) ∧
    env.blindIdentifier identifier = idHash ∧
    (move.2 0).fails (.getUserByIdentifierHash idHash) = false

/-- A request for a challenge that reads the account behind a hash. -/
def ReadsChallenge (env : Environment) (idHash : String) (move : Move) :
    Prop :=
  ∃ identifier,
    move.1 = .recoveryChallenge (some identifier) ∧
    env.blindIdentifier identifier = idHash ∧
    (move.2 2).fails (.getUserByIdentifierHash idHash) = false

/-- A request that is answered with a challenge. -/
def IsChallenge (move : Move) : Prop :=
  ∃ identifier, move.1 = .recoveryChallenge (some identifier)

/-- The decoy that a request for a challenge draws. -/
def drawnDecoy (choices : Nat → Choice) : String :=
  "1." ++ Base64.encode standard .padded ((choices 0).bytes 12) ++ "|" ++
    Base64.encode standard .padded ((choices 1).bytes 80)

/-- Random bytes are drawn, and what is drawn is new. -/
structure DrawsFreshDecoys (first second : Store) (moves : List Move) :
    Prop where
  drawn :
    ∀ move ∈ moves,
      (move.2 0).fails (.random 12) = false ∧
        (move.2 1).fails (.random 80) = false
  distinct :
    moves.Pairwise fun earlier later =>
      IsChallenge earlier → IsChallenge later →
        drawnDecoy earlier.2 ≠ drawnDecoy later.2
  unstored :
    ∀ move ∈ moves, IsChallenge move →
      ∀ idHash u,
        first.account idHash = some u ∨ second.account idHash = some u →
          u.recoveryProtectedUserKey ≠ drawnDecoy move.2

/-!
## Answers
-/

section Answers

variable {backend : Backend} {env : Environment} {choices : Nat → Choice}
  {state : State} {idHash : String}

/-- The account that a request reads. -/
def readAccount
    (store : Store)
    (idHash : String)
    (choice : Choice) :
    Option User :=
  if choice.fails (.getUserByIdentifierHash idHash) then
    none
  else
    store.account idHash

/-- The answer to a request for parameters or for a challenge. -/
def answer (env : Environment) (store : Store) (move : Move) : Response :=
  match move.1 with
  | .prelogin (some identifier) =>
      { status := 200
        body := .kdf
          ((readAccount store (env.blindIdentifier identifier)
            (move.2 0)).elim defaultKDF User.kdf) }
  | .recoveryChallenge (some identifier) =>
      match enrolled
          (readAccount store (env.blindIdentifier identifier) (move.2 2)) with
      | none =>
          { status := 200
            body := .recoveryChallenge (drawnDecoy move.2) defaultKDF }
      | some u =>
          { status := 200
            body := .recoveryChallenge u.recoveryProtectedUserKey u.kdf }
  | _ => invalidBody

/-- What a look-up finds is the account that is read. -/
theorem lookUp_readAccount (choice : Choice) (idHash : String) :
    (match (execute backend choice state
          (.getUserByIdentifierHash idHash)).1 with
      | .error _ => none
      | .ok u => some u) = readAccount state.store idHash choice ∧
      (execute backend choice state (.getUserByIdentifierHash idHash)).2 =
        state := by
  cases fails : choice.fails (.getUserByIdentifierHash idHash) with
  | true =>
      simp [execute, attempt, readAccount, fails]
  | false =>
      simp only [execute, attempt_of_succeeds fails, readAccount, fails,
        Bool.false_eq_true, ↓reduceIte, Store.account]
      rcases getUserByIdentifierHash_cases state.store idHash with
        missing | ⟨u, found, stored⟩
      · rw [missing]
        exact ⟨rfl, rfl⟩
      · rw [found]
        exact ⟨rfl, rfl⟩

/-- An inquiry is answered so, and changes nothing. -/
theorem served_inquiry
    {move : Move}
    (isInquiry : move.1.isInquiry = true)
    (drawn :
      (move.2 0).fails (.random 12) = false ∧
        (move.2 1).fails (.random 80) = false) :
    (served backend env state move.1 move.2).value =
        answer env state.store move ∧
      (served backend env state move.1 move.2).state = state := by
  obtain ⟨request, choices⟩ := move
  cases request with
  | prelogin req =>
      cases req with
      | none =>
          exact ⟨rfl, rfl⟩
      | some identifier =>
          obtain ⟨found, same⟩ :=
            @lookUp_readAccount backend state (choices 0)
              (env.blindIdentifier identifier)
          simp only [served, serve, handlePrelogin, perform_bind,
            Program.run_perform, answer, ← found]
          split
          · rename_i u isFound
            rw [isFound]
            exact ⟨rfl, same⟩
          · rename_i e isFound
            rw [isFound]
            exact ⟨rfl, same⟩
  | recoveryChallenge req =>
      cases req with
      | none =>
          exact ⟨rfl, rfl⟩
      | some identifier =>
          obtain ⟨found, same⟩ :=
            @lookUp_readAccount backend state (choices 2)
              (env.blindIdentifier identifier)
          have decoy :
              (choices 0).fails (.random 12) = false ∧
                (choices 1).fails (.random 80) = false := drawn
          simp only [served, serve, handleRecoveryChallenge,
            decoyRecoveryBlob, perform_bind, Program.perform_bind,
            Program.pure_eq_done, Program.done_bind, Program.run_perform,
            execute_random, Nat.zero_add, decoy, Bool.false_eq_true, ↓reduceIte,
            Option.getD_some, answer, ← found]
          rw [show choices (1 + 1) = choices 2 from rfl, same]
          cases isFound :
              (execute backend (choices 2) state (.getUserByIdentifierHash
                (env.blindIdentifier identifier))).1 with
          | error e =>
              exact ⟨rfl, rfl⟩
          | ok u =>
              by_cases disabled : u.recoveryVerifier = ""
              · simp [enrolled, disabled, drawnDecoy, Option.filter]
              · simp [enrolled, disabled, Option.filter]
  | _ =>
      cases isInquiry

/-- The responses to inquiries. -/
theorem responses_inquiries
    {moves : List Move}
    (areInquiries : ∀ move ∈ moves, move.1.isInquiry = true)
    (drawn :
      ∀ move ∈ moves,
        (move.2 0).fails (.random 12) = false ∧
          (move.2 1).fails (.random 80) = false) :
    responses backend env state moves =
      moves.map (answer env state.store) := by
  induction moves with
  | nil =>
      rfl
  | cons move rest inductionHypothesis =>
      obtain ⟨value, same⟩ :=
        @served_inquiry backend env state move
          (areInquiries move List.mem_cons_self)
          (drawn move List.mem_cons_self)
      have later :=
        inductionHypothesis
          (fun other member =>
            areInquiries other (List.mem_cons_of_mem _ member))
          (fun other member => drawn other (List.mem_cons_of_mem _ member))
      simp only [responses, List.map_cons]
      rw [value, same, later]

/-- Every decoy has the shape of a decoy. -/
theorem blobShape_drawnDecoy (choices : Nat → Choice) :
    blobShape (drawnDecoy choices) = decoyShape := by
  have lengths :
      ((choices 0).bytes 12).length = 12 ∧
        ((choices 1).bytes 80).length = 80 :=
    ⟨bytes_length _ _, bytes_length _ _⟩
  have isSerialized :
      drawnDecoy choices =
        Crypto.serializeEncString
          { type := .aesGcm
            nonce := (choices 0).bytes 12
            data := (choices 1).bytes 80 } := by
    have mark : toString Crypto.EncType.aesGcm.number ++ "." = "1." := by
      decide
    simp only [Crypto.serializeEncString, mark]
    rfl
  have parsed :=
    @Crypto.parseEncString_serializeEncString ((choices 0).bytes 12)
      ((choices 1).bytes 80)
      (List.ne_nil_of_length_eq_add_one lengths.1)
      (List.ne_nil_of_length_eq_add_one lengths.2)
  rw [← isSerialized] at parsed
  have long : (drawnDecoy choices).length = 127 := by
    have marks : "1.".length = 2 ∧ "|".length = 1 := by
      decide
    simp [drawnDecoy, String.length_append, length_encode_padded, lengths,
      marks]
  simp only [blobShape, parsed, long, lengths, decoyShape, Option.map_some]

end Answers

/-!
## When nothing is told
-/

/--
What keeps two servers alike: parameters that are asked for are the same, and if
recovery is enabled on the first server, at most one challenge is asked for, its
parameters are the default ones, and its blob is shaped like a decoy and is not
the blob of another account whose challenge is asked for.
-/
structure TellsNothing
    (env : Environment)
    (idHash : String)
    (first second : Store)
    (moves : List Move) :
    Prop where
  parameters :
    ∀ move ∈ moves, ReadsParameters env idHash move →
      (second.account idHash).elim defaultKDF User.kdf =
        (first.account idHash).elim defaultKDF User.kdf
  once :
    (enrolled (first.account idHash)).isSome = true →
      moves.Pairwise fun earlier later =>
        ¬ (ReadsChallenge env idHash earlier ∧
          ReadsChallenge env idHash later)
  alike :
    ∀ u, enrolled (first.account idHash) = some u →
      ∀ move ∈ moves, ReadsChallenge env idHash move →
        u.kdf = defaultKDF ∧
          blobShape u.recoveryProtectedUserKey = decoyShape ∧
          ∀ other ∈ moves, ∀ identifier w,
            other.1 = .recoveryChallenge (some identifier) →
              env.blindIdentifier identifier ≠ idHash →
                enrolled (readAccount first (env.blindIdentifier identifier)
                  (other.2 2)) = some w →
                  w.recoveryProtectedUserKey ≠ u.recoveryProtectedUserKey

section TellsNothing

variable {env : Environment} {idHash : String} {first second : Store}
  {moves : List Move} {move : Move}

/-- On the second server recovery is not enabled. -/
theorem Apart.not_enrolled (apart : Apart idHash first second) :
    enrolled (second.account idHash) = none := by
  have differs := apart.differs
  generalize first.account idHash = left at differs
  generalize second.account idHash = right at differs
  cases differs with
  | existence u => rfl
  | recovery u key updatedAt isEnabled => simp [enrolled, Option.filter]

/-- The answer to a prelogin that reads the account. -/
theorem answer_of_readsParameters
    (reads : ReadsParameters env idHash move)
    (store : Store) :
    answer env store move =
      { status := 200
        body := .kdf ((store.account idHash).elim defaultKDF User.kdf) } := by
  obtain ⟨identifier, isRequest, rfl, succeeds⟩ := reads
  simp [answer, isRequest, readAccount, succeeds]

/-- The answer to a request for a challenge that reads the account. -/
theorem answer_of_readsChallenge
    (reads : ReadsChallenge env idHash move)
    (store : Store) :
    answer env store move =
      match enrolled (store.account idHash) with
      | none =>
          { status := 200
            body := .recoveryChallenge (drawnDecoy move.2) defaultKDF }
      | some u =>
          { status := 200
            body := .recoveryChallenge u.recoveryProtectedUserKey u.kdf } := by
  obtain ⟨identifier, isRequest, rfl, succeeds⟩ := reads
  simp [answer, isRequest, readAccount, succeeds]

/-- Another account is read alike. -/
theorem Apart.readAccount_eq
    (apart : Apart idHash first second)
    {other : String}
    {choice : Choice}
    (unread :
      ¬ (other = idHash ∧
        choice.fails (.getUserByIdentifierHash idHash) = false)) :
    readAccount second other choice = readAccount first other choice := by
  unfold readAccount
  split
  · rfl
  · rename_i succeeds
    refine apart.elsewhere other fun isHash => unread ⟨isHash, ?_⟩
    rw [← isHash]
    exact Bool.not_eq_true _ |>.mp succeeds

/-- A request that does not read the account is answered alike. -/
theorem Apart.answer_eq
    (apart : Apart idHash first second)
    (noParameters : ¬ ReadsParameters env idHash move)
    (noChallenge : ¬ ReadsChallenge env idHash move) :
    answer env second move = answer env first move := by
  obtain ⟨request, choices⟩ := move
  cases request with
  | prelogin req =>
      cases req with
      | none => rfl
      | some identifier =>
          have same := @Apart.readAccount_eq idHash first second apart
            (env.blindIdentifier identifier) (choices 0)
            fun read => noParameters ⟨identifier, rfl, read⟩
          simp only [answer, same]
  | recoveryChallenge req =>
      cases req with
      | none => rfl
      | some identifier =>
          have same := @Apart.readAccount_eq idHash first second apart
            (env.blindIdentifier identifier) (choices 2)
            fun read => noChallenge ⟨identifier, rfl, read⟩
          simp only [answer, same]
  | _ => rfl

/-- The blob of an answer that does not read the account is the same. -/
theorem Apart.blob_eq
    (apart : Apart idHash first second)
    (noChallenge : ¬ ReadsChallenge env idHash move) :
    (answer env second move).blob? = (answer env first move).blob? := by
  by_cases reads : ReadsParameters env idHash move
  · rw [answer_of_readsParameters reads, answer_of_readsParameters reads]
    rfl
  · rw [apart.answer_eq reads noChallenge]

/-- Where the blob of an answer comes from. -/
theorem blob_cases {blob : String}
    (returned : (answer env first move).blob? = some blob) :
    ∃ identifier,
      move.1 = .recoveryChallenge (some identifier) ∧
      (blob = drawnDecoy move.2 ∨
        ∃ w, enrolled (readAccount first (env.blindIdentifier identifier)
            (move.2 2)) = some w ∧
          blob = w.recoveryProtectedUserKey) := by
  obtain ⟨request, choices⟩ := move
  cases request with
  | prelogin req =>
      cases req with
      | none => cases returned
      | some identifier => cases returned
  | recoveryChallenge req =>
      cases req with
      | none => cases returned
      | some identifier =>
          refine ⟨identifier, rfl, ?_⟩
          simp only [answer] at returned
          split at returned
          · exact Or.inl (Option.some.inj returned).symm
          · rename_i w isEnrolled
            exact Or.inr ⟨w, isEnrolled, (Option.some.inj returned).symm⟩
  | _ => cases returned

/-- An enrolled account that is read is an account of the store. -/
theorem account_of_enrolled
    {u : User}
    {identifierHash : String}
    {choice : Choice}
    (isEnrolled :
      enrolled (readAccount first identifierHash choice) = some u) :
    first.account identifierHash = some u ∧
      choice.fails (.getUserByIdentifierHash identifierHash) = false := by
  have read := (Option.filter_eq_some_iff.mp isEnrolled).1
  unfold readAccount at read
  split at read
  · cases read
  · rename_i succeeds
    exact ⟨read, Bool.not_eq_true _ |>.mp succeeds⟩

/-- A stored blob of the first server is no decoy that is drawn. -/
theorem DrawsFreshDecoys.blob_ne
    (fresh : DrawsFreshDecoys first second moves)
    {u : User}
    {identifierHash : String}
    (member : move ∈ moves)
    (isChallenge : IsChallenge move)
    (stored : first.account identifierHash = some u) :
    u.recoveryProtectedUserKey ≠ drawnDecoy move.2 :=
  fresh.unstored move member isChallenge identifierHash u (Or.inl stored)

/-- Fewer requests draw fresh decoys too. -/
theorem DrawsFreshDecoys.of_sublist
    {fewer : List Move}
    (fresh : DrawsFreshDecoys first second moves)
    (sublist : fewer.Sublist moves) :
    DrawsFreshDecoys first second fewer where
  drawn := fun move member => fresh.drawn move (sublist.subset member)
  distinct := fresh.distinct.sublist sublist
  unstored := fun move member =>
    fresh.unstored move (sublist.subset member)

/-- The decoys of two positions differ. -/
theorem DrawsFreshDecoys.decoy_ne
    (fresh : DrawsFreshDecoys first second moves)
    {i j : Nat}
    {other : Move}
    (different : i ≠ j)
    (atFirst : moves[i]? = some move)
    (atSecond : moves[j]? = some other)
    (isChallenge : IsChallenge move)
    (otherChallenge : IsChallenge other) :
    drawnDecoy move.2 ≠ drawnDecoy other.2 := by
  have pairs := List.pairwise_iff_getElem.mp fresh.distinct
  obtain ⟨firstBound, isFirst⟩ := List.getElem?_eq_some_iff.mp atFirst
  obtain ⟨secondBound, isSecond⟩ := List.getElem?_eq_some_iff.mp atSecond
  subst isFirst isSecond
  rcases Nat.lt_or_gt_of_ne different with before | after
  · exact pairs i j firstBound secondBound before isChallenge otherChallenge
  · exact (pairs j i secondBound firstBound after otherChallenge
      isChallenge).symm

/-- The blob of a position. -/
theorem getElem?_blobs
    (store : Store)
    (i : Nat) :
    ((moves.map (answer env store)).map Response.blob?)[i]? =
      moves[i]?.map fun move => (answer env store move).blob? := by
  rw [List.map_map, List.getElem?_map]
  rfl

/-- The answer of another position is neither blob that a challenge returns. -/
theorem TellsNothing.separate
    (tells : TellsNothing env idHash first second moves)
    (fresh : DrawsFreshDecoys first second moves)
    {u : User}
    (isEnrolled : enrolled (first.account idHash) = some u)
    {i j : Nat}
    {other : Move}
    (different : i ≠ j)
    (atFirst : moves[i]? = some move)
    (atSecond : moves[j]? = some other)
    (reads : ReadsChallenge env idHash move)
    (unread : ¬ ReadsChallenge env idHash other) :
    (answer env first other).blob? ≠ some u.recoveryProtectedUserKey ∧
      (answer env first other).blob? ≠ some (drawnDecoy move.2) := by
  have member := List.mem_of_getElem? atFirst
  have otherMember := List.mem_of_getElem? atSecond
  have isChallenge : IsChallenge move := reads.imp fun _ reads => reads.1
  have stored := (Option.filter_eq_some_iff.mp isEnrolled).1
  constructor
  · intro returned
    obtain ⟨identifier, isRequest, isDecoy | ⟨w, isOther, sameBlob⟩⟩ :=
      blob_cases returned
    · exact fresh.blob_ne otherMember ⟨identifier, isRequest⟩ stored isDecoy
    · refine (tells.alike u isEnrolled move member reads).2.2 other otherMember
        identifier w isRequest ?_ isOther sameBlob.symm
      intro isHash
      have succeeds := (account_of_enrolled isOther).2
      rw [isHash] at succeeds
      exact unread ⟨identifier, isRequest, isHash, succeeds⟩
  · intro returned
    obtain ⟨identifier, isRequest, isDecoy | ⟨w, isOther, sameBlob⟩⟩ :=
      blob_cases returned
    · exact fresh.decoy_ne different atFirst atSecond isChallenge
        ⟨identifier, isRequest⟩ isDecoy
    · exact fresh.blob_ne member isChallenge (account_of_enrolled isOther).1
        sameBlob.symm

/-- When nothing is told the outlines are the same. -/
theorem TellsNothing.outlines
    (tells : TellsNothing env idHash first second moves)
    (apart : Apart idHash first second) :
    (moves.map (answer env second)).map Response.outline =
      (moves.map (answer env first)).map Response.outline := by
  rw [List.map_map, List.map_map]
  apply List.map_congr_left
  intro move member
  simp only [Function.comp_apply]
  by_cases readsParameters : ReadsParameters env idHash move
  · rw [answer_of_readsParameters readsParameters,
      answer_of_readsParameters readsParameters,
      tells.parameters move member readsParameters]
  by_cases readsChallenge : ReadsChallenge env idHash move
  · rw [answer_of_readsChallenge readsChallenge,
      answer_of_readsChallenge readsChallenge, apart.not_enrolled]
    cases isEnrolled : enrolled (first.account idHash) with
    | none => rfl
    | some u =>
        obtain ⟨standard, shape, -⟩ :=
          tells.alike u isEnrolled move member readsChallenge
        simp [Response.outline, Response.kdf?, Response.blob?, standard, shape,
          blobShape_drawnDecoy]
  · rw [apart.answer_eq readsParameters readsChallenge]

/-- A position at which the account's challenge is read. -/
def HitAt (env : Environment) (idHash : String) (moves : List Move) (i : Nat) :
    Prop :=
  ∃ move, moves[i]? = some move ∧ ReadsChallenge env idHash move

/-- The blobs of a position that reads no challenge are the same. -/
theorem Apart.getElem?_blobs_eq
    (apart : Apart idHash first second)
    {i : Nat}
    (noHit : ¬ HitAt env idHash moves i) :
    (moves[i]?.map fun move => (answer env second move).blob?) =
      moves[i]?.map fun move => (answer env first move).blob? := by
  cases isMove : moves[i]? with
  | none => rfl
  | some move =>
      exact congrArg some
        (apart.blob_eq fun reads => noHit ⟨move, isMove, reads⟩)

/-- The blob of a challenge differs from that of any other position. -/
theorem TellsNothing.getElem?_blobs_ne
    (tells : TellsNothing env idHash first second moves)
    (apart : Apart idHash first second)
    (fresh : DrawsFreshDecoys first second moves)
    {u : User}
    (isEnrolled : enrolled (first.account idHash) = some u)
    {i j : Nat}
    (different : i ≠ j)
    (hit : HitAt env idHash moves i)
    (noHit : ¬ HitAt env idHash moves j) :
    (moves[i]?.map fun move => (answer env second move).blob?) ≠
        (moves[j]?.map fun move => (answer env second move).blob?) ∧
      (moves[i]?.map fun move => (answer env first move).blob?) ≠
        moves[j]?.map fun move => (answer env first move).blob? := by
  obtain ⟨move, isMove, reads⟩ := hit
  rw [apart.getElem?_blobs_eq noHit, isMove]
  simp only [Option.map_some, answer_of_readsChallenge reads,
    apart.not_enrolled, isEnrolled, Response.blob?]
  cases isOther : moves[j]? with
  | none =>
      exact ⟨Option.some_ne_none _, Option.some_ne_none _⟩
  | some other =>
      obtain ⟨notStored, notDecoy⟩ :=
        tells.separate fresh isEnrolled different isMove isOther reads
          fun otherReads => noHit ⟨other, isOther, otherReads⟩
      constructor
      · intro same
        exact notDecoy (Option.some.inj same).symm
      · intro same
        exact notStored (Option.some.inj same).symm

/-- When nothing is told the same blobs are equal. -/
theorem TellsNothing.pattern
    (tells : TellsNothing env idHash first second moves)
    (apart : Apart idHash first second)
    (fresh : DrawsFreshDecoys first second moves)
    (i j : Nat) :
    ((moves.map (answer env second)).map Response.blob?)[i]? =
        ((moves.map (answer env second)).map Response.blob?)[j]? ↔
      ((moves.map (answer env first)).map Response.blob?)[i]? =
        ((moves.map (answer env first)).map Response.blob?)[j]? := by
  simp only [getElem?_blobs]
  cases isEnrolled : enrolled (first.account idHash) with
  | none =>
      have same :
          ∀ move : Move,
            (answer env second move).blob? = (answer env first move).blob? := by
        intro move
        by_cases reads : ReadsChallenge env idHash move
        · rw [answer_of_readsChallenge reads, answer_of_readsChallenge reads,
            apart.not_enrolled, isEnrolled]
        · exact apart.blob_eq reads
      simp only [same]
  | some u =>
      by_cases same : i = j
      · rw [same]
        simp only
      by_cases hit : HitAt env idHash moves i
      · by_cases otherHit : HitAt env idHash moves j
        · obtain ⟨move, isMove, reads⟩ := hit
          obtain ⟨other, isOther, otherReads⟩ := otherHit
          obtain ⟨bound, rfl⟩ := List.getElem?_eq_some_iff.mp isMove
          obtain ⟨otherBound, rfl⟩ := List.getElem?_eq_some_iff.mp isOther
          have pairs :=
            List.pairwise_iff_getElem.mp
              (tells.once (by rw [isEnrolled]; rfl))
          rcases Nat.lt_or_gt_of_ne same with before | after
          · exact absurd ⟨reads, otherReads⟩
              (pairs i j bound otherBound before)
          · exact absurd ⟨otherReads, reads⟩
              (pairs j i otherBound bound after)
        · obtain ⟨secondDiffers, firstDiffers⟩ :=
            tells.getElem?_blobs_ne apart fresh isEnrolled same hit otherHit
          exact iff_of_false secondDiffers firstDiffers
      · by_cases otherHit : HitAt env idHash moves j
        · obtain ⟨secondDiffers, firstDiffers⟩ :=
            tells.getElem?_blobs_ne apart fresh isEnrolled (Ne.symm same)
              otherHit hit
          exact iff_of_false secondDiffers.symm firstDiffers.symm
        · rw [apart.getElem?_blobs_eq hit, apart.getElem?_blobs_eq otherHit]

/-- Servers that cannot be told apart tell nothing. -/
theorem tellsNothing_of_indistinguishable
    (apart : Apart idHash first second)
    (fresh : DrawsFreshDecoys first second moves)
    (same :
      Indistinguishable (moves.map (answer env first))
        (moves.map (answer env second))) :
    TellsNothing env idHash first second moves := by
  have outline_eq :
      ∀ move ∈ moves,
        (answer env second move).outline = (answer env first move).outline := by
    have outlines := same.outlines
    rw [List.map_map, List.map_map] at outlines
    exact List.map_inj_left.mp outlines
  have pattern :
      ∀ i j : Nat,
        (moves[i]?.map fun move => (answer env second move).blob?) =
            (moves[j]?.map fun move => (answer env second move).blob?) ↔
          (moves[i]?.map fun move => (answer env first move).blob?) =
            moves[j]?.map fun move => (answer env first move).blob? := by
    intro i j
    simpa only [getElem?_blobs] using same.pattern i j
  refine ⟨?_, ?_, ?_⟩
  · intro move member reads
    have outline := outline_eq move member
    rw [answer_of_readsParameters reads, answer_of_readsParameters reads]
      at outline
    simpa [Response.outline, Response.kdf?, Response.blob?] using outline
  · intro isEnrolled
    obtain ⟨u, isEnrolled⟩ := Option.isSome_iff_exists.mp isEnrolled
    rw [List.pairwise_iff_getElem]
    intro i j bound otherBound before reads
    have isMove := List.getElem?_eq_getElem bound
    have isOther := List.getElem?_eq_getElem otherBound
    have equal := (pattern i j).mpr
    rw [isMove, isOther] at equal
    simp only [Option.map_some, answer_of_readsChallenge reads.1,
      answer_of_readsChallenge reads.2, apart.not_enrolled, isEnrolled,
      Response.blob?, Option.some.injEq, true_implies] at equal
    exact fresh.decoy_ne (Nat.ne_of_lt before) isMove isOther
      (reads.1.imp fun _ reads => reads.1)
      (reads.2.imp fun _ reads => reads.1) equal
  · intro u isEnrolled move member reads
    have outline := outline_eq move member
    rw [answer_of_readsChallenge reads, answer_of_readsChallenge reads,
      apart.not_enrolled, isEnrolled] at outline
    simp only [Response.outline, Response.kdf?, Response.blob?,
      Option.map_some, Prod.mk.injEq, Option.some.injEq, true_and,
      blobShape_drawnDecoy] at outline
    refine ⟨outline.1.symm, outline.2.symm, ?_⟩
    intro other otherMember identifier w isRequest elsewhere isOther sameBlob
    obtain ⟨i, bound, isMove⟩ := List.getElem_of_mem member
    obtain ⟨j, otherBound, isOtherMove⟩ := List.getElem_of_mem otherMember
    have atFirst : moves[i]? = some move := by
      rw [List.getElem?_eq_getElem bound, isMove]
    have atSecond : moves[j]? = some other := by
      rw [List.getElem?_eq_getElem otherBound, isOtherMove]
    have returned :
        (answer env first other).blob? = some w.recoveryProtectedUserKey := by
      simp only [answer, isRequest, isOther, Response.blob?]
    have unread : ¬ ReadsChallenge env idHash other := by
      intro ⟨otherIdentifier, isOtherRequest, isHash, _⟩
      rw [isRequest] at isOtherRequest
      cases isOtherRequest
      exact elsewhere isHash
    have equal := (pattern i j).mpr
    rw [atFirst, atSecond] at equal
    simp only [Option.map_some, apart.blob_eq unread, returned] at equal
    simp only [answer_of_readsChallenge reads, apart.not_enrolled, isEnrolled,
      Response.blob?, Option.some.injEq] at equal
    exact fresh.blob_ne member (reads.imp fun _ reads => reads.1)
      (account_of_enrolled isOther).1 (equal sameBlob.symm).symm

/--
Prelogin and the recovery challenge do not tell two servers apart that differ
only in whether an account exists, or only in whether its recovery is enabled,
exactly when a sequence of such requests tells nothing in this sense.
-/
theorem indistinguishable_iff
    (backend : Backend)
    (env : Environment)
    (idHash : String)
    (first second : State)
    (moves : List Move)
    (apart : Apart idHash first.store second.store)
    (areInquiries : ∀ move ∈ moves, move.1.isInquiry = true)
    (fresh : DrawsFreshDecoys first.store second.store moves) :
    Indistinguishable (responses backend env first moves)
        (responses backend env second moves) ↔
      TellsNothing env idHash first.store second.store moves := by
  rw [responses_inquiries areInquiries fresh.drawn,
    responses_inquiries areInquiries fresh.drawn]
  constructor
  · exact tellsNothing_of_indistinguishable apart fresh
  · intro tells
    exact ⟨tells.outlines apart, tells.pattern apart fresh⟩

end TellsNothing

/-!
## An account that is told apart
-/

/-- A recovery blob in the shape of a decoy. -/
def shapedBlob : String :=
  drawnDecoy fun _ => moment 3

/-- An account with default parameters and a shaped blob. -/
def enrolledUser : User where
  id := "u"
  identifierHash := plainEnvironment.blindIdentifier "a"
  kdf := defaultKDF
  masterPasswordVerifier := "$p"
  protectedUserKey := "k"
  publicKey := ""
  protectedPrivateKey := ""
  recoveryProtectedUserKey := shapedBlob
  recoveryVerifier := "$c"
  totpSecret := ""
  totpEnabled := false
  totpLastCounter := 0
  createdAt := 0
  updatedAt := 0

/-- A server with that account and no other. -/
def enrolledServer : State :=
  { State.empty with
    store := { Store.empty with users := Table.empty.upsert enrolledUser } }

/-- A request for the challenge of its account. -/
def askChallenge (byte : UInt8) : Move :=
  (.recoveryChallenge (some "a"), fun _ => moment byte)

/-- The one account of the server. -/
theorem account_enrolledServer (idHash : String) :
    enrolledServer.store.account idHash =
      if enrolledUser.identifierHash = idHash then some enrolledUser
      else none := by
  have rows : enrolledServer.store.users.rows = [enrolledUser] := rfl
  unfold Store.account Store.getUserByIdentifierHash
  rw [rows]
  by_cases isHash : enrolledUser.identifierHash = idHash
  · simp [isHash, Except.toOption]
  · simp [isHash, Except.toOption]

/-- The server and an empty one differ only in the account. -/
theorem apart_enrolledServer :
    Apart (plainEnvironment.blindIdentifier "a") enrolledServer.store
      Store.empty := by
  refine ⟨?_, ?_⟩
  · have stored :=
      account_enrolledServer (plainEnvironment.blindIdentifier "a")
    have isHash :
        enrolledUser.identifierHash = plainEnvironment.blindIdentifier "a" :=
      rfl
    rw [stored, if_pos isHash]
    exact .existence enrolledUser
  · intro other isOther
    rw [account_enrolledServer, if_neg fun same => isOther same.symm]
    rfl

/-- The decoys of two requests for its challenge are fresh. -/
theorem drawsFreshDecoys_askChallenge :
    DrawsFreshDecoys enrolledServer.store Store.empty
      [askChallenge 1, askChallenge 2] := by
  refine ⟨?_, ?_, ?_⟩
  · intro move member
    rcases List.mem_pair.mp member with rfl | rfl
    · exact ⟨rfl, rfl⟩
    · exact ⟨rfl, rfl⟩
  · rw [List.pairwise_pair]
    intro _ _
    decide
  · intro move member _ idHash u stored
    rw [account_enrolledServer] at stored
    have isUser : u = enrolledUser := by
      rcases stored with stored | stored
      · split at stored
        · exact (Option.some.inj stored).symm
        · cases stored
      · cases stored
    rw [isUser]
    rcases List.mem_pair.mp member with rfl | rfl
    · decide
    · decide

/-- One challenge does not tell the account from no account. -/
theorem oneChallenge_indistinguishable :
    Indistinguishable
      (responses .memory plainEnvironment enrolledServer [askChallenge 1])
      (responses .memory plainEnvironment State.empty [askChallenge 1]) := by
  have apart := apart_enrolledServer
  have fresh :=
    drawsFreshDecoys_askChallenge.of_sublist
      (List.sublist_append_left [askChallenge 1] [askChallenge 2])
  refine (indistinguishable_iff .memory plainEnvironment
    (plainEnvironment.blindIdentifier "a") enrolledServer State.empty
    [askChallenge 1] apart ?_ fresh).mpr ⟨?_, ?_, ?_⟩
  · intro move member
    rw [List.mem_singleton.mp member]
    rfl
  · intro move member reads
    rw [List.mem_singleton.mp member] at reads
    obtain ⟨identifier, isPrelogin, -, -⟩ := reads
    cases isPrelogin
  · intro _
    exact List.pairwise_singleton _ _
  · intro u isEnrolled move member reads
    have isUser : u = enrolledUser := by
      have stored := (Option.filter_eq_some_iff.mp isEnrolled).1
      rw [account_enrolledServer] at stored
      split at stored
      · exact (Option.some.inj stored).symm
      · cases stored
    have shape : blobShape enrolledUser.recoveryProtectedUserKey = decoyShape :=
      blobShape_drawnDecoy fun _ => moment 3
    rw [isUser]
    refine ⟨rfl, shape, ?_⟩
    intro other otherMember identifier w isRequest elsewhere
    rw [List.mem_singleton.mp otherMember] at isRequest
    cases isRequest
    exact absurd rfl elsewhere

/--
Two challenges do: a decoy is drawn anew for every request, and the blob of an
account stays the same.
-/
theorem twoChallenges_distinguish :
    Apart (plainEnvironment.blindIdentifier "a") enrolledServer.store
        Store.empty ∧
      DrawsFreshDecoys enrolledServer.store Store.empty
        [askChallenge 1, askChallenge 2] ∧
      ¬ Indistinguishable
        (responses .memory plainEnvironment enrolledServer
          [askChallenge 1, askChallenge 2])
        (responses .memory plainEnvironment State.empty
          [askChallenge 1, askChallenge 2]) := by
  refine ⟨apart_enrolledServer, drawsFreshDecoys_askChallenge, ?_⟩
  intro same
  exact absurd ((same.pattern 0 1).mpr (by decide +kernel))
    (by decide)

end Passwd.Server
