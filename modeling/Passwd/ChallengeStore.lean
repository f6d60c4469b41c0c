import Passwd.ServerTransitions
import Mathlib.Data.List.Induction

namespace Passwd.Server

/-!
# The challenge store

The store keeps the session data of a passkey ceremony under a handle that can
be taken once and for a limited time.  `put` draws a handle and drops expired
entries first; `take` removes the entry whether or not it is still valid.

What `take` answers is a fact about the history of the store: the handle was
put, it was not taken, and its time is not over.  Dropping expired entries is
invisible, because an entry that `gc` drops is one that no later `take` accepts.
-/

/-- `challengeEntry`, with the handle it is kept under. -/
structure PendingEntry (Data : Type) where
  id : String
  data : Data
  userID : String
  expires : Time

/-- `challengeStore` -/
structure ChallengeStore (Data : Type) where
  ttl : Time
  m : Table (@PendingEntry.id Data)

variable {Data : Type}

/-- `newChallengeStore` -/
def newChallengeStore (ttl : Time) : ChallengeStore Data where
  ttl := ttl
  m := .empty

/-- A call of the store, with what it reads from the clock. -/
inductive StoreCall (Data : Type) where
  | put (collected now : Time) (id userID : String) (data : Data)
  | take (now : Time) (id : String)

namespace ChallengeStore

/-- `gc` -/
def gc (c : ChallengeStore Data) (now : Time) : ChallengeStore Data :=
  { c with m := c.m.delete fun e => e.expires < now }

/-- Keep an entry from now on. -/
def keep
    (c : ChallengeStore Data)
    (now : Time)
    (id userID : String)
    (data : Data) :
    ChallengeStore Data :=
  { c with
    m := c.m.upsert
      { id := id, data := data, userID := userID, expires := now + c.ttl } }

/-- `put`, with the handle it draws. -/
def put
    (c : ChallengeStore Data)
    (collected now : Time)
    (id userID : String)
    (data : Data) :
    ChallengeStore Data :=
  (c.gc collected).keep now id userID data

/-- `take` -/
def take (c : ChallengeStore Data) (now : Time) (id : String) :
    Option (PendingEntry Data) × ChallengeStore Data :=
  match c.m.find? id with
  | none => (none, c)
  | some e =>
      let c := { c with m := c.m.delete fun e => e.id = id }
      if e.expires < now then
        (none, c)
      else
        (some e, c)

/-- The store after a call. -/
def after (c : ChallengeStore Data) : StoreCall Data → ChallengeStore Data
  | .put collected now id userID data => c.put collected now id userID data
  | .take now id => (c.take now id).2

/-- The store after a sequence of calls. -/
def run (c : ChallengeStore Data) (calls : List (StoreCall Data)) :
    ChallengeStore Data :=
  calls.foldl after c

/-- The handle that a call takes successfully. -/
def takenBy (c : ChallengeStore Data) : StoreCall Data → List String
  | .put _ _ _ _ _ => []
  | .take now id => if (c.take now id).1.isSome then [id] else []

/-- The handles that are taken successfully in a sequence of calls. -/
def taken : ChallengeStore Data → List (StoreCall Data) → List String
  | _, [] => []
  | c, call :: later => c.takenBy call ++ (c.after call).taken later

/-- The store after a call that, when marked, leaves out the collection. -/
def afterMarked (c : ChallengeStore Data) :
    Bool × StoreCall Data → ChallengeStore Data
  | (true, .put _ now id userID data) => c.keep now id userID data
  | (_, call) => c.after call

/-- The store after calls of which the marked ones do not collect. -/
def runMarked
    (c : ChallengeStore Data)
    (calls : List (Bool × StoreCall Data)) :
    ChallengeStore Data :=
  calls.foldl afterMarked c

end ChallengeStore

namespace StoreCall

/-- What a call reads from the clock, in order. -/
def readings : StoreCall Data → List Time
  | put collected now _ _ _ => [collected, now]
  | take now _ => [now]

/-- The handle that a call returns. -/
def issued? : StoreCall Data → Option String
  | put _ _ id _ _ => some id
  | take _ _ => none

end StoreCall

/-- The clock never goes back while these calls are made. -/
def Ticking (calls : List (StoreCall Data)) : Prop :=
  (calls.flatMap StoreCall.readings).Pairwise (· ≤ ·)

/-- No handle is drawn twice. -/
def FreshHandles (calls : List (StoreCall Data)) : Prop :=
  (calls.filterMap StoreCall.issued?).Nodup

instance (calls : List (StoreCall Data)) : Decidable (Ticking calls) :=
  inferInstanceAs (Decidable (List.Pairwise _ _))

instance (calls : List (StoreCall Data)) : Decidable (FreshHandles calls) :=
  inferInstanceAs (Decidable (List.Nodup _))

/-!
## What can still be taken
-/

namespace ChallengeStore

variable {c d : ChallengeStore Data} {now later : Time} {id other : String}

/-- The entry of a handle, unless it has expired. -/
def live (c : ChallengeStore Data) (now : Time) (id : String) :
    Option (PendingEntry Data) :=
  (c.m.find? id).filter fun e => !(e.expires < now)

/-- `take` answers what is live. -/
theorem take_fst : (c.take now id).1 = c.live now id := by
  unfold take live
  cases c.m.find? id with
  | none =>
      rfl
  | some e =>
      by_cases expired : e.expires < now
      · simp [expired, Option.filter_some]
      · simp [expired, Option.filter_some]

/-- Collecting removes nothing that is live then or later. -/
theorem live_gc (passes : now ≤ later) :
    (c.gc now).live later id = c.live later id := by
  unfold live gc
  rw [Table.find?_delete, Option.filter_filter]
  congr 1
  funext e
  by_cases expired : e.expires < now
  · simp [expired, Int.lt_of_lt_of_le expired passes]
  · simp [expired]

/-- What is live after a collection was live before. -/
theorem live_of_live_gc
    {e : PendingEntry Data}
    (isLive : (c.gc now).live later id = some e) :
    c.live later id = some e := by
  unfold live gc at isLive
  rw [Table.find?_delete, Option.filter_filter] at isLive
  obtain ⟨found, kept⟩ := Option.filter_eq_some_iff.mp isLive
  rw [Bool.and_eq_true] at kept
  exact Option.filter_eq_some_iff.mpr ⟨found, kept.2⟩

/-- A kept entry is live until its time is over. -/
theorem live_keep (userID : String) (data : Data) :
    (c.keep now id userID data).live later other =
      if id = other then
        if now + c.ttl < later then
          none
        else
          some { id := id, data := data, userID := userID,
                 expires := now + c.ttl }
      else
        c.live later other := by
  unfold live keep
  rw [Table.find?_upsert]
  by_cases same : id = other
  · by_cases expired : now + c.ttl < later
    · simp [same, expired]
    · simp [same, expired]
  · simp [same]

/-- Taking a handle leaves the others alone. -/
theorem find?_take :
    (c.take now id).2.m.find? other =
      if id = other then none else c.m.find? other := by
  unfold take
  cases found : c.m.find? id with
  | none =>
      by_cases same : id = other
      · simp [← same, found]
      · simp [same]
  | some e =>
      have deleted :
          (c.m.delete fun e => e.id = id).find? other =
            if id = other then none else c.m.find? other := by
        rw [Table.find?_delete]
        cases foundOther : c.m.find? other with
        | none =>
            simp
        | some row =>
            have isOther := Table.key_of_find? foundOther
            by_cases same : id = other
            · simp [same, isOther]
            · simp [same, isOther, Ne.symm same]
      by_cases expired : e.expires < now
      · simpa [expired] using deleted
      · simpa [expired] using deleted

/-- A handle that was taken is no longer live. -/
theorem live_take :
    (c.take now id).2.live later other =
      if id = other then none else c.live later other := by
  unfold live
  rw [find?_take]
  by_cases same : id = other
  · simp [same]
  · simp [same]

/-- Only the handle of a successful take is taken. -/
theorem mem_takenBy_take :
    other ∈ c.takenBy (.take now id) ↔
      id = other ∧ (c.live now id).isSome := by
  simp only [takenBy, take_fst]
  by_cases succeeds : (c.live now id).isSome
  · simp [succeeds, eq_comm]
  · simp [succeeds]

/-- The time to live of a new store. -/
@[simp] theorem ttl_newChallengeStore (ttl : Time) :
    (newChallengeStore ttl : ChallengeStore Data).ttl = ttl :=
  rfl

/-- Collecting keeps the time to live. -/
@[simp] theorem ttl_gc : (c.gc now).ttl = c.ttl :=
  rfl

/-- No call changes the time to live. -/
@[simp] theorem ttl_after (call : StoreCall Data) :
    (c.after call).ttl = c.ttl := by
  cases call with
  | put =>
      rfl
  | take now id =>
      simp only [after, take]
      split
      · rfl
      · split
        · rfl
        · rfl

/-- The store after one more call. -/
@[simp] theorem run_concat
    (calls : List (StoreCall Data))
    (call : StoreCall Data) :
    c.run (calls ++ [call]) = (c.run calls).after call := by
  simp [run]

/-- The store after one more call that may be marked. -/
@[simp] theorem runMarked_concat
    (marked : List (Bool × StoreCall Data))
    (call : Bool × StoreCall Data) :
    c.runMarked (marked ++ [call]) = (c.runMarked marked).afterMarked call := by
  simp [runMarked]

/-- The time to live of a store that ran. -/
@[simp] theorem ttl_run (calls : List (StoreCall Data)) :
    (c.run calls).ttl = c.ttl := by
  induction calls using List.reverseRecOn with
  | nil =>
      rfl
  | append_singleton calls call inductionHypothesis =>
      rw [run_concat, ttl_after, inductionHypothesis]

/-- The handles taken with one more call. -/
theorem taken_concat
    (calls : List (StoreCall Data))
    (call : StoreCall Data) :
    c.taken (calls ++ [call]) =
      c.taken calls ++ (c.run calls).takenBy call := by
  induction calls generalizing c with
  | nil =>
      simp [taken, run]
  | cons first rest inductionHypothesis =>
      simp only [List.cons_append, taken, inductionHypothesis, run,
        List.foldl_cons, List.append_assoc]

/-!
## What the history says
-/

section History

variable {calls : List (StoreCall Data)} {call : StoreCall Data}
  {userID : String} {data : Data}

/-- A handle was put with an entry whose time is not over. -/
def PutUntil
    (ttl : Time)
    (calls : List (StoreCall Data))
    (now : Time)
    (e : PendingEntry Data) :
    Prop :=
  ∃ collected putAt,
    .put collected putAt e.id e.userID e.data ∈ calls ∧
      e.expires = putAt + ttl ∧ now ≤ putAt + ttl

/-- Taking puts nothing. -/
theorem putUntil_concat_take
    {ttl takenAt : Time}
    {e : PendingEntry Data} :
    PutUntil ttl (calls ++ [.take takenAt id]) now e ↔
      PutUntil ttl calls now e := by
  simp [PutUntil]

/-- What was put before a call was put. -/
theorem PutUntil.concat
    {ttl : Time}
    {e : PendingEntry Data}
    (wasPut : PutUntil ttl calls now e)
    (call : StoreCall Data) :
    PutUntil ttl (calls ++ [call]) now e := by
  obtain ⟨collected, putAt, member, times⟩ := wasPut
  exact ⟨collected, putAt, List.mem_append_left _ member, times⟩

/-- What is in time now was in time before. -/
theorem PutUntil.earlier
    {ttl earlier : Time}
    {e : PendingEntry Data}
    (wasPut : PutUntil ttl calls now e)
    (passes : earlier ≤ now) :
    PutUntil ttl calls earlier e := by
  obtain ⟨collected, putAt, member, expires, inTime⟩ := wasPut
  exact ⟨collected, putAt, member, expires, Int.le_trans passes inTime⟩

/-- Putting one handle says nothing about the others. -/
theorem putUntil_concat_put_of_ne
    {ttl collected putAt : Time}
    {e : PendingEntry Data}
    (different : id ≠ e.id) :
    PutUntil ttl (calls ++ [.put collected putAt id userID data]) now e ↔
      PutUntil ttl calls now e := by
  constructor
  · rintro ⟨earlier, at_, member, times⟩
    rcases List.mem_append.mp member with before | isLast
    · exact ⟨earlier, at_, before, times⟩
    · simp only [List.mem_singleton, StoreCall.put.injEq] at isLast
      exact absurd isLast.2.2.1.symm different
  · exact fun wasPut => wasPut.concat _

/-- A handle that was put is one that was drawn. -/
theorem PutUntil.issued
    {ttl : Time}
    {e : PendingEntry Data}
    (wasPut : PutUntil ttl calls now e) :
    e.id ∈ calls.filterMap StoreCall.issued? := by
  obtain ⟨collected, putAt, member, -⟩ := wasPut
  exact List.mem_filterMap.mpr ⟨_, member, rfl⟩

/-- A handle that is drawn for the first time has the entry it is put with. -/
theorem putUntil_concat_put_of_new
    {ttl collected putAt : Time}
    {e : PendingEntry Data}
    (unknown : id ∉ calls.filterMap StoreCall.issued?) :
    (PutUntil ttl (calls ++ [.put collected putAt id userID data]) now e ∧
        e.id = id) ↔
      { id := id, data := data, userID := userID, expires := putAt + ttl } =
          e ∧
        now ≤ putAt + ttl := by
  constructor
  · rintro ⟨⟨earlier, keptAt, member, expires, inTime⟩, isEntry⟩
    rcases List.mem_append.mp member with before | isLast
    · have wasPut : PutUntil ttl calls now e :=
        ⟨earlier, keptAt, before, expires, inTime⟩
      exact absurd (isEntry ▸ wasPut.issued) unknown
    · simp only [List.mem_singleton, StoreCall.put.injEq] at isLast
      obtain ⟨rfl, rfl, sameId, sameUser, sameData⟩ := isLast
      cases e
      cases isEntry
      cases expires
      cases sameUser
      cases sameData
      exact ⟨rfl, inTime⟩
  · rintro ⟨rfl, inTime⟩
    exact ⟨⟨collected, putAt, by simp, rfl, inTime⟩, rfl⟩

/-- What is live of the handle that was put last. -/
theorem live_keep_self (userID : String) (data : Data) {e : PendingEntry Data} :
    (c.keep now id userID data).live later id = some e ↔
      { id := id, data := data, userID := userID, expires := now + c.ttl } =
          e ∧
        later ≤ now + c.ttl := by
  rw [live_keep, if_pos rfl]
  by_cases expired : now + c.ttl < later
  · have isOver : ¬ later ≤ now + c.ttl :=
      Int.not_le.mpr expired
    simp [expired, isOver]
  · simp [expired, Int.not_lt.mp expired]

/-- An entry that is live was put in time under its handle. -/
theorem putUntil_of_live
    {ttl : Time}
    {e : PendingEntry Data}
    (isLive : ((newChallengeStore ttl).run calls).live now id = some e) :
    PutUntil ttl calls now e ∧ e.id = id := by
  induction calls using List.reverseRecOn with
  | nil =>
      cases isLive
  | append_singleton calls call inductionHypothesis =>
      have earlier :
          ((newChallengeStore ttl).run calls).live now id = some e →
            PutUntil ttl (calls ++ [call]) now e ∧ e.id = id :=
        fun wasLive =>
          (inductionHypothesis wasLive).imp_left fun wasPut =>
            wasPut.concat call
      rw [run_concat] at isLive
      cases call with
      | put collected putAt drawn userID data =>
          rw [after, put] at isLive
          by_cases isId : drawn = id
          · subst isId
            rw [live_keep_self, ttl_gc, ttl_run, ttl_newChallengeStore]
              at isLive
            obtain ⟨rfl, inTime⟩ := isLive
            exact ⟨⟨collected, putAt, by simp, rfl, inTime⟩, rfl⟩
          · rw [live_keep, if_neg isId] at isLive
            exact earlier (live_of_live_gc isLive)
      | take takenAt wanted =>
          rw [after, live_take] at isLive
          split at isLive
          · cases isLive
          · exact earlier isLive

/-- A handle that was taken is one that was drawn. -/
theorem issued_of_mem_taken
    {ttl : Time}
    (member : id ∈ (newChallengeStore ttl).taken calls) :
    id ∈ calls.filterMap StoreCall.issued? := by
  induction calls using List.reverseRecOn with
  | nil =>
      cases member
  | append_singleton calls call inductionHypothesis =>
      rw [List.filterMap_append]
      apply List.mem_append_left
      rw [taken_concat] at member
      rcases List.mem_append.mp member with before | isLast
      · exact inductionHypothesis before
      · cases call with
        | put =>
            cases isLast
        | take takenAt wanted =>
            obtain ⟨rfl, succeeded⟩ := mem_takenBy_take.mp isLast
            obtain ⟨e, isLive⟩ := Option.isSome_iff_exists.mp succeeded
            obtain ⟨wasPut, isWanted⟩ := putUntil_of_live isLive
            exact isWanted ▸ wasPut.issued

/-- An entry is live exactly when it was put in time and was not taken. -/
theorem live_run_iff
    {ttl : Time}
    {e : PendingEntry Data}
    (ticking : Ticking calls)
    (passes : ∀ reading ∈ calls.flatMap StoreCall.readings, reading ≤ now)
    (fresh : FreshHandles calls) :
    ((newChallengeStore ttl).run calls).live now id = some e ↔
      (PutUntil ttl calls now e ∧ e.id = id) ∧
        id ∉ (newChallengeStore ttl).taken calls := by
  induction calls using List.reverseRecOn generalizing now id with
  | nil =>
      simp [run, newChallengeStore, live, PutUntil, Table.empty, Table.find?]
  | append_singleton calls call inductionHypothesis =>
      rw [Ticking, List.flatMap_append, List.flatMap_singleton,
        List.pairwise_append] at ticking
      obtain ⟨tickingBefore, -, callLast⟩ := ticking
      rw [FreshHandles, List.filterMap_append, List.nodup_append] at fresh
      obtain ⟨freshBefore, -, drawnAnew⟩ := fresh
      have passesBefore :
          ∀ reading ∈ calls.flatMap StoreCall.readings, reading ≤ now := by
        intro reading member
        apply passes
        rw [List.flatMap_append]
        exact List.mem_append_left _ member
      have passesCall : ∀ reading ∈ call.readings, reading ≤ now := by
        intro reading member
        apply passes
        simp [member]
      have before :=
        fun {id} => @inductionHypothesis now id tickingBefore passesBefore
          freshBefore
      rw [run_concat, taken_concat]
      cases call with
      | put collected putAt drawn userID data =>
          rw [after, put, takenBy, List.append_nil]
          by_cases isId : drawn = id
          · subst isId
            have unknown :
                drawn ∉ calls.filterMap StoreCall.issued? := by
              intro member
              exact drawnAnew drawn member drawn (by simp [StoreCall.issued?])
                rfl
            have untaken :
                drawn ∉ (newChallengeStore ttl).taken calls :=
              fun member => unknown (issued_of_mem_taken member)
            rw [live_keep_self, ttl_gc, ttl_run, ttl_newChallengeStore,
              putUntil_concat_put_of_new unknown, and_iff_left untaken]
          · have collectedNow : collected ≤ now :=
              passesCall collected (by simp [StoreCall.readings])
            rw [live_keep, if_neg isId, live_gc collectedNow, before]
            refine and_congr_left fun _ => and_congr_left fun isEntry => ?_
            exact (putUntil_concat_put_of_ne (isEntry ▸ isId)).symm
      | take takenAt wanted =>
          rw [after, live_take, putUntil_concat_take]
          by_cases isId : wanted = id
          · subst isId
            have takenNow : takenAt ≤ now :=
              passesCall takenAt (by simp [StoreCall.readings])
            rw [if_pos rfl]
            constructor
            · intro nothing
              cases nothing
            · rintro ⟨⟨wasPut, isEntry⟩, untaken⟩
              rw [List.mem_append, not_or] at untaken
              have wasLive :
                  ((newChallengeStore ttl).run calls).live takenAt wanted =
                    some e := by
                rw [inductionHypothesis tickingBefore
                  (fun reading member =>
                    callLast reading member takenAt
                      (by simp [StoreCall.readings]))
                  freshBefore]
                exact ⟨⟨wasPut.earlier takenNow, isEntry⟩, untaken.1⟩
              refine absurd (mem_takenBy_take.mpr ⟨rfl, ?_⟩) untaken.2
              rw [wasLive, Option.isSome_some]
          · have notTaken :
                id ∉ ((newChallengeStore ttl).run calls).takenBy
                  (.take takenAt wanted) :=
              fun member => isId (mem_takenBy_take.mp member).1
            rw [if_neg isId, before, List.mem_append, not_or]
            simp [notTaken]

/-- The time to live of a store that ran without some collections. -/
@[simp] theorem ttl_runMarked (marked : List (Bool × StoreCall Data)) :
    (c.runMarked marked).ttl = c.ttl := by
  induction marked using List.reverseRecOn with
  | nil =>
      rfl
  | append_singleton marked call inductionHypothesis =>
      rw [runMarked_concat]
      refine Eq.trans ?_ inductionHypothesis
      obtain ⟨leavesOut, call⟩ := call
      cases leavesOut with
      | false =>
          exact ttl_after call
      | true =>
          cases call with
          | put =>
              rfl
          | take takenAt wanted =>
              exact ttl_after (.take takenAt wanted)

/-- Leaving out collections does not change what is live. -/
theorem live_runMarked
    {marked : List (Bool × StoreCall Data)}
    (passes :
      ∀ reading ∈ (marked.map Prod.snd).flatMap StoreCall.readings,
        reading ≤ now) :
    (c.runMarked marked).live now id =
      (c.run (marked.map Prod.snd)).live now id := by
  induction marked using List.reverseRecOn generalizing id with
  | nil =>
      rfl
  | append_singleton marked call inductionHypothesis =>
      obtain ⟨leavesOut, call⟩ := call
      have before := fun {id} =>
        @inductionHypothesis id fun reading member =>
          passes reading (by
            rw [List.map_append, List.flatMap_append]
            exact List.mem_append_left _ member)
      have passesCall : ∀ reading ∈ call.readings, reading ≤ now := by
        intro reading member
        apply passes
        simp [member]
      rw [List.map_append, List.map_singleton, run_concat, runMarked_concat]
      cases call with
      | put collected putAt drawn userID data =>
          have collectedNow : collected ≤ now :=
            passesCall collected (by simp [StoreCall.readings])
          cases leavesOut with
          | false =>
              simp only [afterMarked, after, put, live_keep,
                live_gc collectedNow, ttl_gc, ttl_run, ttl_runMarked, before]
          | true =>
              simp only [afterMarked, after, put, live_keep,
                live_gc collectedNow, ttl_gc, ttl_run, ttl_runMarked, before]
      | take takenAt wanted =>
          cases leavesOut with
          | false =>
              simp only [afterMarked, after, live_take, before]
          | true =>
              simp only [afterMarked, after, live_take, before]

end History

end ChallengeStore

/--
`take` succeeds exactly when its handle was put, was not taken and at most the
time to live has passed, with the user and the data of that `put`; and leaving
out any collections does not change its answer.
-/
theorem take_singleUse
    {ttl now : Time}
    {id : String}
    {calls : List (StoreCall Data)}
    (ticking : Ticking (calls ++ [.take now id]))
    (fresh : FreshHandles calls) :
    (∀ userID data,
      (((newChallengeStore ttl).run calls).take now id).1.map
          (fun e => (e.userID, e.data)) = some (userID, data) ↔
        (∃ collected putAt,
          .put collected putAt id userID data ∈ calls ∧
            now ≤ putAt + ttl) ∧
          id ∉ (newChallengeStore ttl).taken calls) ∧
      ∀ marked : List (Bool × StoreCall Data),
        marked.map Prod.snd = calls →
          (((newChallengeStore ttl).runMarked marked).take now id).1 =
            (((newChallengeStore ttl).run calls).take now id).1 := by
  rw [Ticking, List.flatMap_append, List.flatMap_singleton,
    List.pairwise_append] at ticking
  obtain ⟨tickingBefore, -, callLast⟩ := ticking
  have passes :
      ∀ reading ∈ calls.flatMap StoreCall.readings, reading ≤ now :=
    fun reading member =>
      callLast reading member now (by simp [StoreCall.readings])
  constructor
  · intro userID data
    rw [ChallengeStore.take_fst, Option.map_eq_some_iff]
    constructor
    · rintro ⟨e, isLive, contents⟩
      obtain ⟨⟨wasPut, isId⟩, untaken⟩ :=
        (ChallengeStore.live_run_iff tickingBefore passes fresh).mp isLive
      obtain ⟨collected, putAt, member, -, inTime⟩ := wasPut
      cases contents
      exact ⟨⟨collected, putAt, isId ▸ member, inTime⟩, untaken⟩
    · rintro ⟨⟨collected, putAt, member, inTime⟩, untaken⟩
      refine ⟨⟨id, data, userID, putAt + ttl⟩, ?_, rfl⟩
      rw [ChallengeStore.live_run_iff tickingBefore passes fresh]
      exact ⟨⟨⟨collected, putAt, member, rfl, inTime⟩, rfl⟩, untaken⟩
  · rintro marked rfl
    rw [ChallengeStore.take_fst, ChallengeStore.take_fst,
      ChallengeStore.live_runMarked passes]

/-- A challenge that is taken at the last moment. -/
theorem take_atLastMoment :
    (((newChallengeStore 120).run
        [.put 0 0 "a" "alice" "session", .put 100 110 "b" "bob" "other"]).take
          120 "a").1.map (fun e => (e.userID, e.data)) =
      some ("alice", "session") := by
  refine ((@take_singleUse String 120 120 "a"
    [.put 0 0 "a" "alice" "session", .put 100 110 "b" "bob" "other"]
    (by decide) (by decide)).1 "alice" "session").mpr ?_
  exact ⟨⟨0, 0, by simp, by decide⟩, by decide⟩

/-!
## The challenges of the server
-/

/-- The entry as the server keeps it. -/
def PendingEntry.onServer (e : PendingEntry String) : ChallengeEntry where
  handle := e.id
  data := e.data
  userID := e.userID
  expires := e.expires

/-- The server's table holds the entries of a store. -/
structure Represents
    (waPending : Table ChallengeEntry.handle)
    (c : ChallengeStore String) :
    Prop where
  ttl : c.ttl = challengeTTL
  entries :
    ∀ id, waPending.find? id = (c.m.find? id).map PendingEntry.onServer

/-- The call of the store that an operation of the server makes. -/
def storeCall? : Time × Operation → Option (StoreCall String)
  | (now, .putChallenge handle userID data) =>
      some (.put now now handle userID data)
  | (now, .takeChallenge handle) => some (.take now handle)
  | _ => none

/-- The server's table after an operation. -/
def pendingAfter
    (waPending : Table ChallengeEntry.handle) :
    Time × Operation → Table ChallengeEntry.handle
  | (now, .putChallenge handle userID data) =>
      putChallenge now waPending handle userID data
  | (now, .takeChallenge handle) => (takeChallenge now waPending handle).2
  | _ => waPending

section Server

variable {backend : Backend} {choice : Choice} {state : State}
  {waPending : Table ChallengeEntry.handle} {c : ChallengeStore String}

/-- A store call leaves the challenges alone. -/
theorem attempt_waPending
    {α : Type}
    (operation : Operation)
    (outcome : Store.Outcome α) :
    (attempt choice state operation outcome).2.waPending =
      state.waPending := by
  unfold attempt
  split
  · rfl
  · rfl

/-- An operation changes the challenges as its time and name say. -/
theorem execute_waPending (operation : Operation) :
    (execute backend choice state operation).2.waPending =
      pendingAfter state.waPending (choice.now, operation) := by
  cases operation
  case random count =>
    simp only [execute_random]
    split
    · rfl
    · rfl
  all_goals first
    | rfl
    | exact attempt_waPending _ _

/-- Putting a challenge is putting it into the store. -/
theorem Represents.put
    (represents : Represents waPending c)
    (now : Time)
    (handle userID data : String) :
    Represents (putChallenge now waPending handle userID data)
      (c.put now now handle userID data) := by
  constructor
  · exact represents.ttl
  · intro id
    rw [putChallenge, ChallengeStore.put, ChallengeStore.keep,
      Table.find?_upsert, Table.find?_upsert, ChallengeStore.gc,
      Table.find?_delete, Table.find?_delete, represents.entries]
    by_cases isHandle : handle = id
    · simp [isHandle, PendingEntry.onServer, represents.ttl]
    · simp only [isHandle, ↓reduceIte, Option.filter_map]
      rfl

/-- Taking a challenge is taking it from the store. -/
theorem Represents.take
    (represents : Represents waPending c)
    (now : Time)
    (handle : String) :
    (takeChallenge now waPending handle).1 =
        (c.take now handle).1.map PendingEntry.onServer ∧
      Represents (takeChallenge now waPending handle).2
        (c.take now handle).2 := by
  constructor
  · rw [takeChallenge, represents.entries, ChallengeStore.take_fst,
      ChallengeStore.live, Option.filter_map]
    rfl
  · constructor
    · exact (ChallengeStore.ttl_after (.take now handle)).trans
        represents.ttl
    · intro id
      rw [takeChallenge, Table.find?_delete, represents.entries,
        ChallengeStore.find?_take]
      cases found : c.m.find? id with
      | none =>
          simp
      | some e =>
          have isId := Table.key_of_find? found
          by_cases isHandle : handle = id
          · simp [isHandle, isId, PendingEntry.onServer]
          · simp [isHandle, isId, PendingEntry.onServer, Ne.symm isHandle]

/-- What the server's table holds follows from the calls of the store. -/
theorem Represents.run
    (represents : Represents waPending c)
    (operations : List (Time × Operation)) :
    Represents (operations.foldl pendingAfter waPending)
      (c.run (operations.filterMap storeCall?)) := by
  induction operations using List.reverseRecOn with
  | nil =>
      exact represents
  | append_singleton operations call inductionHypothesis =>
      obtain ⟨now, operation⟩ := call
      rw [List.foldl_append, List.filterMap_append]
      cases operation
      case putChallenge handle userID data =>
        simp only [storeCall?, List.filterMap_cons, List.filterMap_nil,
          ChallengeStore.run_concat]
        exact inductionHypothesis.put now handle userID data
      case takeChallenge handle =>
        simp only [storeCall?, List.filterMap_cons, List.filterMap_nil,
          ChallengeStore.run_concat]
        exact (inductionHypothesis.take now handle).2
      all_goals
        simp only [storeCall?, List.filterMap_cons, List.filterMap_nil,
          List.append_nil]
        exact inductionHypothesis

/-- A server that has kept no challenge represents the new store. -/
theorem represents_empty :
    Represents .empty (newChallengeStore challengeTTL) where
  ttl := rfl
  entries := fun _ => rfl

/-- An entry that the server accepts was put under its handle, in time. -/
theorem put_of_takeChallenge
    {operations : List (Time × Operation)}
    {now : Time}
    {handle : String}
    {entry : ChallengeEntry}
    (taken :
      (takeChallenge now (operations.foldl pendingAfter .empty) handle).1 =
        some entry) :
    ∃ putAt,
      (putAt, .putChallenge handle entry.userID entry.data) ∈ operations ∧
        now ≤ putAt + challengeTTL := by
  rw [((represents_empty.run operations).take now handle).1,
    ChallengeStore.take_fst, Option.map_eq_some_iff] at taken
  obtain ⟨e, isLive, rfl⟩ := taken
  obtain ⟨⟨collected, putAt, member, -, inTime⟩, isHandle⟩ :=
    ChallengeStore.putUntil_of_live isLive
  obtain ⟨call, isCall, named⟩ := List.mem_filterMap.mp member
  obtain ⟨calledAt, operation⟩ := call
  cases operation
  case putChallenge other userID data =>
    cases named
    exact ⟨_, isHandle ▸ isCall, inTime⟩
  all_goals cases named

end Server

end Passwd.Server
