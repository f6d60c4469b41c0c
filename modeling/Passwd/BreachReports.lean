import Passwd.InsertionMap
import Passwd.KdfAgreement
import Passwd.TotpCodes

namespace Passwd.Health

open Base64 InsertionMap

/-!
# Weak, reused and breached passwords

The security check groups the items by password, asks the range service once for
each password, and marks the items whose password is listed in the answer.  A
look-up that fails leaves its items unmarked.  SHA-1 and the replies of the
service are parameters.
-/

/-- What is read of a `VaultItem`. -/
structure Item where
  id : String
  name : String
  password : String
deriving Repr, DecidableEq

/-!
## Weak and reused passwords
-/

/-- `pw.length`, in 16-bit units. -/
def unitCount (pw : String) : Nat :=
  pw.toList.foldl
    (fun length symbol => length + if symbol.toNat < 0x10000 then 1 else 2) 0

/-- The classes of characters. -/
def characterClasses : List (Char → Bool) :=
  [Char.isLower, Char.isUpper, Char.isDigit, fun symbol => !symbol.isAlphanum]

/-- `passwordWeakness`; `none` is `null`. -/
def passwordWeakness (pw : String) : Option String :=
  if pw = "" then
    none
  else if unitCount pw < 10 then
    some "Short (under 10 characters)"
  else
    let classes := (characterClasses.filter fun test => pw.toList.any test).length
    if unitCount pw < 14 && classes < 3 then
      some "Low complexity"
    else
      none

/-- The password of an item, if it has one. -/
def passwordOf (it : Item) : Option String :=
  if it.password = "" then none else some it.password

/-- `byPassword` and `unique`: the ids of the items with each password. -/
def byPassword (items : List Item) : Map String (List String) :=
  group passwordOf Item.id items

/-- `reusedItemIds`, as a list of the members of the set. -/
def reusedItemIds (items : List Item) : List String :=
  ((byPassword items).rows.filter fun row => 1 < row.2.length).flatMap Prod.snd

/-- `weakById` -/
def weakById (items : List Item) : Map String String :=
  items.foldl
    (fun m it =>
      match passwordWeakness it.password with
      | none => m
      | some w => set m it.id w) .empty

/-!
## The range service
-/

/-- A request of the range service. -/
structure RangeRequest where
  url : String
  addPadding : Bool
deriving Repr, DecidableEq

/-- What `fetch` comes to: a rejection, or a status and the reading of the body. -/
inductive Reply where
  | rejected (error : String)
  | response (status : Nat) (text : Except String String)

/-- `res.ok` -/
def isOk (status : Nat) : Bool :=
  200 ≤ status && status ≤ 299

/-- `sha1Hex` -/
def sha1Hex (sha1 : Bytes → Bytes) (s : String) : List Char :=
  ((sha1 (Utf8.utf8 s)).flatMap fun b =>
    [Json.hexDigit (b.toNat / 16), Json.hexDigit (b.toNat % 16)]).map
      Char.toUpper

/-- `prefix` -/
def hashPrefix (sha1 : Bytes → Bytes) (pw : String) : List Char :=
  (sha1Hex sha1 pw).take 5

/-- `suffix` -/
def hashSuffix (sha1 : Bytes → Bytes) (pw : String) : List Char :=
  (sha1Hex sha1 pw).drop 5

/-- `url` -/
def rangeUrl (sha1 : Bytes → Bytes) (pw : String) : String :=
  "https://api.pwnedpasswords.com/range/" ++ String.ofList (hashPrefix sha1 pw)

/--
`parseInt(text, 10) || 0`.  A number past the doubles stands for infinity.
-/
def parseCount (text : List Char) : Int :=
  ((Totp.parseInt (String.ofList text)).map Client.readNumber).getD 0

/-- The loop over the lines of an answer. -/
def countIn (suffix : List Char) : List (List Char) → Int
  | [] => 0
  | line :: rest =>
      if ':' ∈ line then
        if line.takeWhile (fun symbol => symbol ≠ ':') = suffix then
          parseCount ((line.dropWhile fun symbol => symbol ≠ ':').drop 1)
        else
          countIn suffix rest
      else
        countIn suffix rest

/-- `res`: a padded request, and a plain one if the first is rejected. -/
def fetchRange (fetch : RangeRequest → Reply) (url : String) : Reply :=
  match fetch { url := url, addPadding := true } with
  | .rejected _ => fetch { url := url, addPadding := false }
  | .response status text => .response status text

/-- The count in a reply, or the error that is thrown. -/
def countOfReply (suffix : List Char) : Reply → Except String Int
  | .rejected error => .error error
  | .response status text =>
      if isOk status then
        match text with
        | .error error => .error error
        | .ok text => .ok (countIn suffix (text.toList.splitOn '\n'))
      else
        .error ("breach service returned " ++ toString status)

/-- `breachCount`, with what the service replies. -/
def breachCount
    (sha1 : Bytes → Bytes)
    (fetch : RangeRequest → Reply)
    (pw : String) : Except String Int :=
  countOfReply (hashSuffix sha1 pw) (fetchRange fetch (rangeUrl sha1 pw))

/--
A pattern of replies.  Every password is looked up once, so that the replies are
told apart by the password that is being looked up.
-/
abbrev Service := String → RangeRequest → Reply

/-- What the look-up of one password does to the report. -/
def markBreached
    (sha1 : Bytes → Bytes)
    (service : Service)
    (out : Map String Int)
    (row : String × List String) : Map String Int :=
  match breachCount sha1 (service row.1) row.1 with
  | .error _ => out
  | .ok n => if n > 0 then setAll out row.2 n else out

/-- `breachedItemIds` -/
def breachedItemIds
    (sha1 : Bytes → Bytes)
    (service : Service)
    (items : List Item) : Map String Int :=
  (byPassword items).rows.foldl (markBreached sha1 service) .empty

/-!
## The security check
-/

/-- Whether an item is listed. -/
def isFlagged
    (items : List Item)
    (breaches : Option (Map String Int))
    (it : Item) : Bool :=
  (get (weakById items) it.id).isSome || it.id ∈ reusedItemIds items ||
    ((breaches.bind fun breaches => get breaches it.id).getD 0 > 0)

/-- What is shown: the listed items, or a message of two sentences. -/
inductive Shown where
  | flagged (items : List Item)
  | message (found breached : String)
deriving Repr, DecidableEq

/-- `SecurityCheck`; before the first breach check there are no breaches. -/
def securityCheck
    (items : List Item)
    (breaches : Option (Map String Int)) : Shown :=
  let withPasswords := (items.filter fun it => it.password ≠ "").length
  let flagged := items.filter (isFlagged items breaches)
  if flagged.length = 0 then
    .message
      (if withPasswords = 0 then "No stored passwords to check yet."
        else "No weak or reused passwords found.")
      (if breaches.isSome && withPasswords > 0 then
        " No breached passwords either." else "")
  else
    .flagged flagged

/-- The security check states that there are no breached passwords. -/
def Vouches (shown : Shown) : Prop :=
  ∃ sentence, shown = .message sentence " No breached passwords either."

/-!
## What an answer says
-/

/-- The service answers a look-up with a text, without padding if it must. -/
def Answers
    (fetch : RangeRequest → Reply)
    (url text : String) : Prop :=
  ∃ status, isOk status = true ∧
    (fetch { url := url, addPadding := true } = .response status (.ok text) ∨
      (∃ error,
        fetch { url := url, addPadding := true } = .rejected error) ∧
        fetch { url := url, addPadding := false } =
          .response status (.ok text))

/-- The suffix and the count of a line. -/
def entryOf (line : List Char) : Option (List Char × Int) :=
  if ':' ∈ line then
    some (line.takeWhile fun symbol => symbol ≠ ':',
      parseCount ((line.dropWhile fun symbol => symbol ≠ ':').drop 1))
  else
    none

/-- The suffixes and the counts that an answer lists. -/
def listing (text : String) : List (List Char × Int) :=
  (text.toList.splitOn '\n').filterMap entryOf

/-- A password was looked up, and its count is the one that was answered. -/
def LookedUp
    (sha1 : Bytes → Bytes)
    (service : Service)
    (pw : String)
    (n : Int) : Prop :=
  ∃ text,
    Answers (service pw) (rangeUrl sha1 pw) text ∧
      ((listing text).lookup (hashSuffix sha1 pw)).getD 0 = n

/-- The loop finds the count that the lines list. -/
theorem countIn_eq (suffix : List Char) (lines : List (List Char)) :
    countIn suffix lines =
      ((lines.filterMap entryOf).lookup suffix).getD 0 := by
  induction lines with
  | nil =>
      rfl
  | cons line rest inductionHypothesis =>
      unfold countIn
      by_cases listed : ':' ∈ line
      · have entry :
            entryOf line =
              some (line.takeWhile fun symbol => symbol ≠ ':',
                parseCount
                  ((line.dropWhile fun symbol => symbol ≠ ':').drop 1)) :=
          if_pos listed
        rw [if_pos listed, List.filterMap_cons_some entry, List.lookup_cons]
        by_cases same : line.takeWhile (fun symbol => symbol ≠ ':') = suffix
        · rw [if_pos same, same, beq_self_eq_true]
          rfl
        · have other :
              (suffix == line.takeWhile fun symbol => symbol ≠ ':') = false :=
            beq_false_of_ne (Ne.symm same)
          rw [if_neg same, other, inductionHypothesis]
      · have entry : entryOf line = none :=
          if_neg listed
        rw [if_neg listed, List.filterMap_cons_none entry, inductionHypothesis]

variable {sha1 : Bytes → Bytes} {service : Service}

/-- The request that is answered is the padded one or the plain one. -/
theorem answers_iff
    (fetch : RangeRequest → Reply)
    (url text : String) :
    Answers fetch url text ↔
      ∃ status, isOk status = true ∧
        fetchRange fetch url = .response status (.ok text) := by
  unfold Answers fetchRange
  cases fetch { url := url, addPadding := true } with
  | rejected error =>
      simp
  | response status text =>
      simp

/-- Only a reply with a text has a count. -/
theorem countOfReply_eq_ok_iff
    (suffix : List Char)
    (res : Reply)
    (n : Int) :
    countOfReply suffix res = .ok n ↔
      ∃ status text, isOk status = true ∧ res = .response status (.ok text) ∧
        ((listing text).lookup suffix).getD 0 = n := by
  cases res with
  | rejected error =>
      simp [countOfReply]
  | response status text =>
      cases ok : isOk status with
      | false =>
          simp only [countOfReply, ok, Bool.false_eq_true, ↓reduceIte,
            reduceCtorEq, false_iff]
          rintro ⟨other, answered, isOther, same, _⟩
          cases same
          cases ok.symm.trans isOther
      | true =>
          cases text with
          | error error =>
              simp [countOfReply, ok]
          | ok text =>
              simp [countOfReply, ok, countIn_eq, listing]

/-- The count of a password is the one that was answered. -/
theorem breachCount_eq_ok_iff
    (pw : String)
    (n : Int) :
    breachCount sha1 (service pw) pw = .ok n ↔
      LookedUp sha1 service pw n := by
  unfold breachCount LookedUp
  rw [countOfReply_eq_ok_iff]
  simp only [answers_iff]
  constructor
  · rintro ⟨status, text, ok, replied, same⟩
    exact ⟨text, ⟨status, ok, replied⟩, same⟩
  · rintro ⟨text, ⟨status, ok, replied⟩, same⟩
    exact ⟨status, text, ok, replied, same⟩

/-- The count of a password that is looked up is one count. -/
theorem LookedUp.unique
    {pw : String}
    {first second : Int}
    (isFirst : LookedUp sha1 service pw first)
    (isSecond : LookedUp sha1 service pw second) :
    first = second := by
  rw [← breachCount_eq_ok_iff] at isFirst isSecond
  exact Except.ok.inj (isFirst.symm.trans isSecond)

/-!
## The marked items
-/

/-- An id belongs to an item with a password. -/
def Holds (items : List Item) (id pw : String) : Prop :=
  ∃ it ∈ items, it.id = id ∧ it.password = pw ∧ pw ≠ ""

/-- The groups of the items. -/
theorem mem_byPassword_iff
    {items : List Item}
    {id pw : String} :
    (∃ ids, (pw, ids) ∈ (byPassword items).rows ∧ id ∈ ids) ↔
      Holds items id pw := by
  have password :
      ∀ it : Item, passwordOf it = some pw ↔ it.password = pw ∧ pw ≠ "" := by
    intro it
    unfold passwordOf
    by_cases empty : it.password = ""
    · rw [if_pos empty, empty]
      constructor
      · intro none
        cases none
      · rintro ⟨same, notEmpty⟩
        exact absurd same.symm notEmpty
    · rw [if_neg empty, Option.some.injEq]
      constructor
      · intro same
        exact ⟨same, same ▸ empty⟩
      · exact And.left
  unfold byPassword Holds
  rw [mem_group_iff]
  constructor
  · rintro ⟨it, member, isPassword, isId⟩
    obtain ⟨same, notEmpty⟩ := (password it).mp isPassword
    exact ⟨it, member, isId, same, notEmpty⟩
  · rintro ⟨it, member, isId, same, notEmpty⟩
    exact ⟨it, member, (password it).mpr ⟨same, notEmpty⟩, isId⟩

/-- The positive count of a password. -/
def Breached
    (sha1 : Bytes → Bytes)
    (service : Service)
    (pw : String)
    (n : Int) : Prop :=
  LookedUp sha1 service pw n ∧ 0 < n

/-- What one look-up does: it marks its ids, or it changes nothing. -/
theorem markBreached_cases
    (sha1 : Bytes → Bytes)
    (service : Service)
    (out : Map String Int)
    (row : String × List String) :
    (∃ n, Breached sha1 service row.1 n ∧
      markBreached sha1 service out row = setAll out row.2 n) ∨
      (∀ n, ¬ Breached sha1 service row.1 n) ∧
        markBreached sha1 service out row = out := by
  unfold markBreached Breached
  simp only [← breachCount_eq_ok_iff]
  cases breachCount sha1 (service row.1) row.1 with
  | error error =>
      exact Or.inr ⟨by simp, rfl⟩
  | ok n =>
      by_cases positive : n > 0
      · exact Or.inl ⟨n, ⟨rfl, positive⟩, if_pos positive⟩
      · refine Or.inr ⟨?_, if_neg positive⟩
        rintro m ⟨same, isPositive⟩
        cases same
        exact positive isPositive

/-- A mark was there before, or a look-up made it. -/
theorem get_markAll
    {rows : List (String × List String)}
    {out : Map String Int}
    {id : String}
    {n : Int}
    (marked :
      get (rows.foldl (markBreached sha1 service) out) id = some n) :
    get out id = some n ∨
      ∃ row ∈ rows, id ∈ row.2 ∧ Breached sha1 service row.1 n := by
  induction rows generalizing out with
  | nil =>
      exact Or.inl marked
  | cons row rest inductionHypothesis =>
      rcases inductionHypothesis marked with before | ⟨later, member, isMarked⟩
      · rcases markBreached_cases sha1 service out row with
          ⟨m, breached, set⟩ | ⟨_, same⟩
        · rw [set, get_setAll] at before
          split at before
          · rename_i own
            cases before
            exact Or.inr ⟨row, List.mem_cons_self, own, breached⟩
          · exact Or.inl before
        · rw [same] at before
          exact Or.inl before
      · exact Or.inr ⟨later, List.mem_cons_of_mem row member, isMarked⟩

/-- A mark stays, with its count or another one. -/
theorem markAll_keeps
    {rows : List (String × List String)}
    {out : Map String Int}
    {id : String}
    (marked : ∃ n, get out id = some n) :
    ∃ n, get (rows.foldl (markBreached sha1 service) out) id = some n := by
  induction rows generalizing out with
  | nil =>
      exact marked
  | cons row rest inductionHypothesis =>
      apply inductionHypothesis
      rcases markBreached_cases sha1 service out row with
        ⟨m, _, set⟩ | ⟨_, same⟩
      · rw [set, get_setAll]
        split
        · exact ⟨m, rfl⟩
        · exact marked
      · rw [same]
        exact marked

/-- A look-up with a positive count leaves its ids marked. -/
theorem markAll_marks
    {rows : List (String × List String)}
    {row : String × List String}
    (member : row ∈ rows)
    {id : String}
    (own : id ∈ row.2)
    {m : Int}
    (breached : Breached sha1 service row.1 m)
    (out : Map String Int) :
    ∃ n, get (rows.foldl (markBreached sha1 service) out) id = some n := by
  induction rows generalizing out with
  | nil =>
      cases member
  | cons first rest inductionHypothesis =>
      rw [List.foldl_cons]
      rcases List.mem_cons.mp member with isFirst | later
      · subst first
        apply markAll_keeps
        rcases markBreached_cases sha1 service out row with
          ⟨n, _, set⟩ | ⟨unlisted, _⟩
        · rw [set, get_setAll, if_pos own]
          exact ⟨n, rfl⟩
        · exact absurd breached (unlisted m)
      · exact inductionHypothesis later _

/-- A mark of the report is a positive count of a password of the item. -/
theorem holds_of_marked
    {items : List Item}
    {id : String}
    {n : Int}
    (marked : get (breachedItemIds sha1 service items) id = some n) :
    ∃ pw, Holds items id pw ∧ Breached sha1 service pw n := by
  rcases get_markAll marked with before | ⟨⟨pw, ids⟩, isGroup, own, breached⟩
  · cases before
  · exact ⟨pw, mem_byPassword_iff.mp ⟨ids, isGroup, own⟩, breached⟩

/-- An item with a breached password is marked in the report. -/
theorem marked_of_holds
    {items : List Item}
    {id pw : String}
    (holds : Holds items id pw)
    {m : Int}
    (breached : Breached sha1 service pw m) :
    ∃ n, get (breachedItemIds sha1 service items) id = some n := by
  obtain ⟨ids, isGroup, own⟩ := mem_byPassword_iff.mpr holds
  exact markAll_marks isGroup own breached .empty

/-!
## What the security check states
-/

/-- A weak item is found by its id. -/
theorem weakById_isSome_iff (items : List Item) (id : String) :
    (get (weakById items) id).isSome = true ↔
      ∃ it ∈ items, it.id = id ∧ (passwordWeakness it.password).isSome := by
  have added :
      ∀ m : Map String String,
        (get (items.foldl
          (fun m it =>
            match passwordWeakness it.password with
            | none => m
            | some w => set m it.id w) m) id).isSome = true ↔
          (get m id).isSome = true ∨
            ∃ it ∈ items,
              it.id = id ∧ (passwordWeakness it.password).isSome := by
    induction items with
    | nil =>
        simp
    | cons it rest inductionHypothesis =>
        intro m
        rw [List.foldl_cons, inductionHypothesis]
        cases weak : passwordWeakness it.password with
        | none =>
            simp [weak]
        | some w =>
            by_cases same : it.id = id
            · simp [same, weak]
            · simp [same, weak]
  have fromEmpty := added .empty
  simpa [weakById] using fromEmpty

/-- An id is reused if one of its passwords has several items. -/
theorem mem_reusedItemIds_iff (items : List Item) (id : String) :
    id ∈ reusedItemIds items ↔
      ∃ row ∈ (byPassword items).rows, 1 < row.2.length ∧ id ∈ row.2 := by
  simp only [reusedItemIds, List.mem_flatMap, List.mem_filter,
    decide_eq_true_iff, and_assoc]

/-- Nothing is reused exactly when no two items share a password. -/
theorem reusedItemIds_eq_nil_iff (items : List Item) :
    reusedItemIds items = [] ↔ (items.filterMap passwordOf).Nodup := by
  have single :
      (∀ row ∈ (byPassword items).rows, row.2.length ≤ 1) ↔
        (items.filterMap passwordOf).Nodup :=
    groups_single_iff items
  rw [← single, List.eq_nil_iff_forall_not_mem]
  simp only [mem_reusedItemIds_iff]
  constructor
  · intro none row isGroup
    apply Nat.not_lt.mp
    intro several
    obtain ⟨id, own⟩ := List.exists_mem_of_length_pos (Nat.zero_lt_of_lt several)
    exact none id ⟨row, isGroup, several, own⟩
  · rintro single id ⟨row, isGroup, several, _⟩
    exact Nat.not_lt.mpr (single row isGroup) several

/-- The check states that nothing is breached when it lists nothing. -/
theorem vouches_iff (items : List Item) (breaches : Option (Map String Int)) :
    Vouches (securityCheck items breaches) ↔
      breaches.isSome = true ∧ (∃ it ∈ items, it.password ≠ "") ∧
        ∀ it ∈ items, isFlagged items breaches it = false := by
  have nothingListed :
      (items.filter (isFlagged items breaches)).length = 0 ↔
        ∀ it ∈ items, isFlagged items breaches it = false := by
    simp
  have somePassword :
      0 < (items.filter fun it => it.password ≠ "").length ↔
        ∃ it ∈ items, it.password ≠ "" := by
    simp [List.length_pos_iff_exists_mem]
  unfold Vouches securityCheck
  by_cases listed : (items.filter (isFlagged items breaches)).length = 0
  · rw [← nothingListed, ← somePassword]
    simp [listed]
  · rw [← nothingListed]
    simp [listed]

/-- What the report marks is listed. -/
theorem isFlagged_eq_false_iff
    (items : List Item)
    (it : Item) :
    isFlagged items (some (breachedItemIds sha1 service items)) it = false ↔
      (∀ other ∈ items, other.id = it.id →
        passwordWeakness other.password = none) ∧
      it.id ∉ reusedItemIds items ∧
      get (breachedItemIds sha1 service items) it.id = none := by
  have unweak :
      (get (weakById items) it.id).isSome = false ↔
        ∀ other ∈ items, other.id = it.id →
          passwordWeakness other.password = none := by
    rw [← Bool.not_eq_true, weakById_isSome_iff]
    simp
  have unmarked :
      ¬ (get (breachedItemIds sha1 service items) it.id).getD 0 > 0 ↔
        get (breachedItemIds sha1 service items) it.id = none := by
    cases marked : get (breachedItemIds sha1 service items) it.id with
    | none =>
        simp
    | some n =>
        obtain ⟨pw, _, _, positive⟩ := holds_of_marked marked
        simp [positive]
  rw [← unweak, ← unmarked]
  simp [isFlagged, and_assoc]

/-- No item is weak, shares its password or has a positive count. -/
def NothingFound
    (sha1 : Bytes → Bytes)
    (service : Service)
    (items : List Item) : Prop :=
  (∀ it ∈ items, passwordWeakness it.password = none) ∧
    (items.filterMap passwordOf).Nodup ∧
    ∀ it ∈ items, it.password ≠ "" →
      ∀ n, ¬ Breached sha1 service it.password n

/-- The check lists nothing exactly when it finds nothing. -/
theorem forall_isFlagged_iff (items : List Item) :
    (∀ it ∈ items,
      isFlagged items (some (breachedItemIds sha1 service items)) it =
        false) ↔
      NothingFound sha1 service items := by
  simp only [isFlagged_eq_false_iff]
  unfold NothingFound
  rw [← reusedItemIds_eq_nil_iff]
  constructor
  · intro unflagged
    refine ⟨fun it member => (unflagged it member).1 it member rfl, ?_, ?_⟩
    · rw [List.eq_nil_iff_forall_not_mem]
      intro id reused
      obtain ⟨⟨pw, ids⟩, isGroup, _, own⟩ :=
        (mem_reusedItemIds_iff items id).mp reused
      obtain ⟨it, member, isId, _⟩ := mem_byPassword_iff.mp ⟨ids, isGroup, own⟩
      rw [← isId] at reused
      exact (unflagged it member).2.1 reused
    · intro it member notEmpty n breached
      obtain ⟨m, marked⟩ :=
        marked_of_holds ⟨it, member, rfl, rfl, notEmpty⟩ breached
      rw [(unflagged it member).2.2] at marked
      cases marked
  · rintro ⟨unweak, notReused, unlisted⟩ it member
    refine ⟨fun other isItem _ => unweak other isItem, ?_, ?_⟩
    · rw [notReused]
      exact List.not_mem_nil
    · rw [Option.eq_none_iff_forall_ne_some]
      intro n marked
      obtain ⟨pw, ⟨other, isItem, _, same, notEmpty⟩, breached⟩ :=
        holds_of_marked marked
      rw [← same] at notEmpty breached
      exact unlisted other isItem notEmpty n breached

/--
The check lists an item, or every password was looked up and answered with a
count that is not negative.
-/
def Vouchable
    (sha1 : Bytes → Bytes)
    (service : Service)
    (items : List Item) : Prop :=
  ¬ NothingFound sha1 service items ∨
    ∀ it ∈ items, it.password ≠ "" →
      ∃ n, LookedUp sha1 service it.password n ∧ 0 ≤ n

/-- The id of an item belongs to no item with another password. -/
def OwnsId (items : List Item) (it : Item) : Prop :=
  ∀ other ∈ items, other.id = it.id → other.password = it.password

/--
The check states that nothing is breached only if every password was looked up
and is listed with the count zero, exactly when it lists an item or every
look-up was answered with a count that is not negative.  It states nothing
before the look-ups.  An item is marked with a positive count exactly when the
answer for its password lists its suffix with that count.
-/
theorem breach_reports
    (sha1 : Bytes → Bytes)
    (service : Service)
    (items : List Item) :
    ((Vouches
        (securityCheck items (some (breachedItemIds sha1 service items))) →
      ∀ it ∈ items, it.password ≠ "" →
        LookedUp sha1 service it.password 0) ↔
      Vouchable sha1 service items) ∧
    ¬ Vouches (securityCheck items none) ∧
    ∀ it ∈ items, it.password ≠ "" → OwnsId items it → ∀ n : Int, 0 < n →
      (get (breachedItemIds sha1 service items) it.id = some n ↔
        ∃ text,
          Answers (service it.password) (rangeUrl sha1 it.password) text ∧
          (listing text).lookup (hashSuffix sha1 it.password) = some n) := by
  refine ⟨?_, ?_, ?_⟩
  · rw [vouches_iff, forall_isFlagged_iff]
    constructor
    · intro vouchesChecked
      by_cases found : NothingFound sha1 service items
      · refine Or.inr fun it member notEmpty => ?_
        exact ⟨0, vouchesChecked ⟨rfl, ⟨it, member, notEmpty⟩, found⟩ it member
          notEmpty, Int.le_refl 0⟩
      · exact Or.inl found
    · rintro (found | answered) ⟨_, _, nothing⟩ it member notEmpty
      · exact absurd nothing found
      · obtain ⟨n, isCount, notNegative⟩ := answered it member notEmpty
        have notPositive : ¬ 0 < n := fun positive =>
          nothing.2.2 it member notEmpty n ⟨isCount, positive⟩
        have zero : n = 0 := by
          omega
        rwa [zero] at isCount
  · rw [vouches_iff]
    rintro ⟨unchecked, _⟩
    cases unchecked
  · intro it member notEmpty owns n positive
    have listed :
        (∃ text,
          Answers (service it.password) (rangeUrl sha1 it.password) text ∧
          (listing text).lookup (hashSuffix sha1 it.password) = some n) ↔
          Breached sha1 service it.password n := by
      unfold Breached LookedUp
      constructor
      · rintro ⟨text, answered, found⟩
        exact ⟨⟨text, answered, by rw [found]; rfl⟩, positive⟩
      · rintro ⟨⟨text, answered, found⟩, _⟩
        refine ⟨text, answered, ?_⟩
        cases entry : (listing text).lookup (hashSuffix sha1 it.password) with
        | none =>
            rw [entry] at found
            exact absurd positive (by simp [← found])
        | some m =>
            rw [entry] at found
            exact congrArg some found
    rw [listed]
    constructor
    · intro marked
      obtain ⟨pw, ⟨other, isItem, isId, same, _⟩, breached⟩ :=
        holds_of_marked marked
      rwa [← same, owns other isItem isId] at breached
    · intro breached
      obtain ⟨m, marked⟩ :=
        marked_of_holds ⟨it, member, rfl, rfl, notEmpty⟩ breached
      obtain ⟨pw, ⟨other, isItem, isId, same, _⟩, isCount, _⟩ :=
        holds_of_marked marked
      rw [← same, owns other isItem isId] at isCount
      rw [marked, isCount.unique breached.1]

/-- One item with a long password. -/
def longPassword : List Item :=
  [{ id := "1", name := "mail", password := "correct horse battery" }]

/-- A hash of zeros. -/
def zeroHash (_ : Bytes) : Bytes :=
  List.replicate 20 0

/-- An item whose hash is listed three times is marked with this count. -/
theorem listed_marked :
    get (breachedItemIds zeroHash
      (fun _ _ => .response 200
        (.ok (String.ofList (List.replicate 35 '0') ++ ":3\r\n"))) longPassword)
      "1" = some 3 :=
  ((breach_reports zeroHash _ longPassword).2.2 _ List.mem_cons_self (by decide)
    (by
      intro other member _
      cases member with
      | head => rfl
      | tail _ none => cases none) 3 (by decide)).mpr
    ⟨_, ⟨200, rfl, Or.inl rfl⟩, by decide⟩

/-- Without the service the check states that nothing is breached. -/
theorem offline_vouches :
    Vouches (securityCheck longPassword
      (some (breachedItemIds zeroHash (fun _ _ => .rejected "offline")
        longPassword))) ∧
    ∀ n, ¬ LookedUp zeroHash (fun _ _ => .rejected "offline")
      "correct horse battery" n := by
  refine ⟨⟨"No weak or reused passwords found.", by decide⟩, ?_⟩
  rintro n ⟨text, ⟨status, _, padded | ⟨_, plain⟩⟩, _⟩
  · cases padded
  · cases plain

end Passwd.Health
