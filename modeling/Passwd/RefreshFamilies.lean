import Passwd.AccountRequests
import Passwd.RequestScope

namespace Passwd.Server

open Base64 Interaction

/-!
# Families of refresh tokens

A refresh token that a sign-in issues begins a family, and a token that a
refresh issues belongs to the family of the token that was presented.  The
server stores no families: they are a record of the run, and what is shown here
is how far the stored rows agree with that record.

Requests are served one after the other, no store call fails, and the hashes of
the issued tokens are distinct.
-/

/-- An issued refresh token with its account and its family. -/
structure Issue where
  tokenHash : String
  userID : String
  family : Nat
deriving DecidableEq

/--
A server together with the refresh tokens that it has issued and the hashes that
it has exchanged, oldest first.
-/
structure Families where
  state : State
  issued : List Issue
  exchanged : List String

/-- The refresh token that an exchange has stored. -/
def storedToken : Exchange calls → Option RefreshToken
  | ⟨.createRefreshToken rt, .ok _⟩ => some rt
  | _ => none

namespace Families

/-- A state in which nothing was issued yet. -/
def start (state : State) : Families where
  state := state
  issued := []
  exchanged := []

/-- The family of a token hash. -/
def familyOf (families : Families) (tokenHash : String) : Option Nat :=
  (families.issued.find? fun issue => issue.tokenHash = tokenHash).map
    Issue.family

/--
The family of the token that a request issues: that of the presented token, and
a new one if there is none.
-/
def familyFor (env : Environment) (families : Families) : Request → Nat
  | .refresh (some token) =>
      (families.familyOf (env.hashRefreshToken token)).getD
        families.issued.length
  | _ => families.issued.length

/-- The hash that a request has exchanged for new tokens. -/
def exchangedBy
    (env : Environment)
    (request : Request)
    (response : Response) : List String :=
  match request with
  | .refresh (some token) =>
      if response.status = 200 then [env.hashRefreshToken token] else []
  | _ => []

/-- Serve one more request. -/
def serve
    (backend : Backend)
    (env : Environment)
    (families : Families)
    (request : Request)
    (choices : Nat → Choice) : Families :=
  let completed := served backend env families.state request choices
  { state := completed.state
    issued :=
      families.issued ++
        (completed.history.filterMap storedToken).map fun rt =>
          { tokenHash := rt.tokenHash
            userID := rt.userID
            family := families.familyFor env request }
    exchanged :=
      families.exchanged ++ exchangedBy env request completed.value }

/-- Serve requests one after the other. -/
def serveAll
    (backend : Backend)
    (env : Environment)
    (families : Families)
    (requests : List (Request × (Nat → Choice))) : Families :=
  requests.foldl
    (fun families move => families.serve backend env move.1 move.2)
    families

/-- The issued tokens have distinct hashes. -/
def Distinct (families : Families) : Prop :=
  (families.issued.map Issue.tokenHash).Nodup

end Families

/-!
## What one request does to the stored tokens
-/

section Request

variable {backend : Backend} {env : Environment} {request : Request}
  {before after : State} {history : History calls} {choice : Choice}
  {operation : Operation}

/-- A request created a token in a history. -/
abbrev Creates (history : History calls) (rt : RefreshToken) : Prop :=
  answered (.createRefreshToken rt) (.ok ()) ∈ history

/-- How the stored tokens have changed in the middle of a request. -/
structure Renewal
    (env : Environment)
    (request : Request)
    (before : State)
    (history : History calls)
    (after : State) :
    Prop where
  origin :
    ∀ hash row, after.store.refresh.find? hash = some row →
      (∃ rt, Creates history rt ∧ rt.tokenHash = hash ∧
          rt.userID = row.userID) ∨
        ∃ old, before.store.refresh.find? hash = some old ∧
          old.userID = row.userID ∧ (old.used = true → row.used = true)
  single : (history.filterMap storedToken).length ≤ 1
  read :
    Tokenless history →
      ∀ hash rt, answered (.getRefreshToken hash) (.ok rt) ∈ history →
        ∃ old, before.store.refresh.find? hash = some old ∧
          old.userID = rt.userID ∧ (old.used = true → rt.used = true)
  marked :
    ∀ hash answer, answered (.markRefreshTokenUsed hash) answer ∈ history →
      (∃ old, before.store.refresh.find? hash = some old ∧
          old.used = false) ∧
        ((∀ rt, Creates history rt → rt.tokenHash ≠ hash) →
          ∀ row, after.store.refresh.find? hash = some row →
            row.used = true)
  renewed :
    ∀ rt, Creates history rt →
      ∀ presented, request = .refresh (some presented) →
        (∃ old,
          before.store.refresh.find? (env.hashRefreshToken presented) =
              some old ∧
            old.userID = rt.userID) ∧
          ∃ answer,
            answered (.markRefreshTokenUsed (env.hashRefreshToken presented))
              answer ∈ history

/-- At the start of a request nothing has changed. -/
theorem renewal_start : Renewal env request before [] before where
  origin := by
    intro hash row found
    exact Or.inr ⟨row, found, rfl, id⟩
  single := Nat.zero_le 1
  read := by
    intro _ hash rt member
    cases member
  marked := by
    intro hash answer member
    cases member
  renewed := by
    intro rt member
    cases member

/-- A stored token was created. -/
theorem eq_of_storedToken
    {exchange : Exchange calls}
    {rt : RefreshToken}
    (isStored : storedToken exchange = some rt) :
    exchange = answered (.createRefreshToken rt) (.ok ()) := by
  obtain ⟨performed, answer⟩ := exchange
  cases performed
  case createRefreshToken created =>
    cases answer with
    | error e =>
        cases isStored
    | ok done =>
        cases isStored
        rfl
  all_goals cases isStored

/-- The stored tokens of a history are the created ones. -/
theorem mem_storedTokens
    {rt : RefreshToken} :
    rt ∈ history.filterMap storedToken ↔ Creates history rt := by
  rw [List.mem_filterMap]
  constructor
  · intro ⟨exchange, member, isStored⟩
    rw [Creates, ← eq_of_storedToken isStored]
    exact member
  · intro creates
    exact ⟨_, creates, rfl⟩

/-- Without a creation nothing is stored. -/
theorem Tokenless.not_creates
    (tokenless : Tokenless history)
    (rt : RefreshToken) :
    ¬ Creates history rt := by
  intro creates
  cases tokenless _ creates

/-- What was created before stays created. -/
theorem Creates.concat
    {rt : RefreshToken}
    (creates : Creates history rt)
    (exchange : Exchange calls) :
    Creates (history ++ [exchange]) rt :=
  List.mem_append_left _ creates

/-- Before a token is created none was. -/
theorem tokenless_of_create
    {rt : RefreshToken}
    (guarded : Guarded env request history (.createRefreshToken rt))
    (inScope : Scoped env request history (.createRefreshToken rt)) :
    Tokenless history :=
  inScope.tokenLast rfl guarded.2

/-- A token of the middle of a request was created or there at its start. -/
theorem Renewal.origin_step
    (renewal : Renewal env request before history after)
    {hash : String}
    {row : RefreshToken}
    (found :
      (execute backend choice after operation).2.store.refresh.find? hash =
        some row) :
    (∃ rt,
        Creates (history ++ [exchanged backend choice after operation]) rt ∧
          rt.tokenHash = hash ∧ rt.userID = row.userID) ∨
      ∃ old, before.store.refresh.find? hash = some old ∧
        old.userID = row.userID ∧ (old.used = true → row.used = true) := by
  rcases refresh_row_cases found with
    ⟨rt, isCreate, sameHash, isRow⟩ | ⟨-, middle, wasFound, sameUser, use⟩
  · refine Or.inl ⟨rt, ?_, sameHash, ?_⟩
    · rw [Creates, isCreate]
      exact List.mem_append_right _ (List.mem_singleton_self _)
    · rw [isRow, Backend.tokenRow_userID]
  · rcases renewal.origin hash middle wasFound with
      ⟨rt, creates, sameHash, user⟩ | ⟨old, wasStored, user, earlierUse⟩
    · exact Or.inl ⟨rt, creates.concat _, sameHash, user.trans sameUser.symm⟩
    · exact Or.inr ⟨old, wasStored, user.trans sameUser.symm,
        fun wasUsed => use (earlierUse wasUsed)⟩

/-- At most one token is created. -/
theorem Renewal.single_step
    (renewal : Renewal env request before history after)
    (guarded : Guarded env request history operation)
    (inScope : Scoped env request history operation)
    (answer : Answer operation) :
    ((history ++ [(⟨operation, answer⟩ : Exchange calls)]).filterMap
      storedToken).length ≤ 1 := by
  rw [List.filterMap_append, List.length_append]
  cases isStored : storedToken ⟨operation, answer⟩ with
  | none =>
      simpa [isStored] using renewal.single
  | some rt =>
      obtain rfl := Exchange.operation_eq (eq_of_storedToken isStored)
      have tokenless := tokenless_of_create guarded inScope
      have nothing : history.filterMap storedToken = [] := by
        rw [List.eq_nil_iff_forall_not_mem]
        intro created member
        exact tokenless.not_creates created (mem_storedTokens.mp member)
      simp [nothing, isStored]

/-- A token that is read before any is created was there at the start. -/
theorem Renewal.read_step
    (renewal : Renewal env request before history after)
    (tokenless : Tokenless history)
    {hash : String}
    {rt : RefreshToken}
    (member :
      answered (.getRefreshToken hash) (.ok rt) ∈
        history ++ [exchanged backend choice after operation]) :
    ∃ old, before.store.refresh.find? hash = some old ∧
      old.userID = rt.userID ∧ (old.used = true → rt.used = true) := by
  rcases List.mem_append.mp member with earlier | newest
  · exact renewal.read tokenless hash rt earlier
  · have isNewest := List.mem_singleton.mp newest
    obtain rfl := Exchange.operation_eq isNewest
    rcases @getRefreshToken_ends backend choice after hash with
      ⟨e, failed⟩ | ⟨row, done, isStored⟩
    · rw [exchanged, failed] at isNewest
      cases isNewest
    · rw [exchanged, done] at isNewest
      cases isNewest
      rcases renewal.origin hash rt isStored with
        ⟨created, creates, -⟩ | wasStored
      · exact absurd creates (tokenless.not_creates created)
      · exact wasStored

/-- A token that is marked was not used before, and is used afterwards. -/
theorem Renewal.marked_step
    (renewal : Renewal env request before history after)
    (inScope : Scoped env request history operation)
    (succeeds : choice.fails operation = false)
    {hash : String}
    {answer : Answer (.markRefreshTokenUsed hash)}
    (member :
      answered (.markRefreshTokenUsed hash) answer ∈
        history ++ [exchanged backend choice after operation]) :
    (∃ old, before.store.refresh.find? hash = some old ∧ old.used = false) ∧
      ((∀ rt,
          Creates (history ++ [exchanged backend choice after operation]) rt →
            rt.tokenHash ≠ hash) →
        ∀ row,
          (execute backend choice after operation).2.store.refresh.find?
              hash = some row →
            row.used = true) := by
  rcases List.mem_append.mp member with earlier | newest
  · obtain ⟨wasUnused, isUsed⟩ := renewal.marked hash answer earlier
    refine ⟨wasUnused, fun otherHashes row found => ?_⟩
    rcases refresh_row_cases found with
      ⟨rt, isCreate, sameHash, -⟩ | ⟨-, old, wasFound, -, use⟩
    · refine absurd sameHash (otherHashes rt ?_)
      rw [Creates, isCreate]
      exact List.mem_append_right _ (List.mem_singleton_self _)
    · exact use (isUsed (fun rt creates => otherHashes rt (creates.concat _))
        old wasFound)
  · obtain rfl := Exchange.operation_eq (List.mem_singleton.mp newest)
    obtain ⟨presented, rt, isRefresh, -, wasRead, unused⟩ :=
      inScope.marks hash rfl
    have tokenless : Tokenless history :=
      inScope.tokenLast rfl (by rw [isRefresh]; rfl)
    obtain ⟨old, wasStored, -, use⟩ :=
      renewal.read tokenless hash rt wasRead
    refine ⟨⟨old, wasStored, ?_⟩, fun _ row found => ?_⟩
    · cases wasUsed : old.used with
      | false => rfl
      | true => exact absurd (unused.symm.trans (use wasUsed)) Bool.false_ne_true
    · rcases refresh_row_cases found with
        ⟨created, isCreate, -⟩ | ⟨-, stored, isStored, -⟩
      · cases congrArg Exchange.operation isCreate
      · exact used_of_mark succeeds isStored found

/-- A token that a refresh creates continues the presented token. -/
theorem Renewal.renewed_step
    (renewal : Renewal env request before history after)
    (guarded : Guarded env request history operation)
    (inScope : Scoped env request history operation)
    {rt : RefreshToken}
    {presented : String}
    (creates :
      Creates (history ++ [exchanged backend choice after operation]) rt)
    (isRefresh : request = .refresh (some presented)) :
    (∃ old,
        before.store.refresh.find? (env.hashRefreshToken presented) =
            some old ∧
          old.userID = rt.userID) ∧
      ∃ answer,
        answered (.markRefreshTokenUsed (env.hashRefreshToken presented))
            answer ∈
          history ++ [exchanged backend choice after operation] := by
  rcases List.mem_append.mp creates with earlier | newest
  · obtain ⟨wasStored, answer, isMarked⟩ :=
      renewal.renewed rt earlier presented isRefresh
    exact ⟨wasStored, answer, List.mem_append_left _ isMarked⟩
  · obtain rfl := Exchange.operation_eq (List.mem_singleton.mp newest)
    obtain ⟨-, redeems⟩ := inScope.token rt rfl
    obtain ⟨old, answer, wasRead, sameUser, isMarked⟩ :=
      redeems presented isRefresh
    obtain ⟨first, wasStored, firstUser, -⟩ :=
      renewal.read (tokenless_of_create guarded inScope) _ old wasRead
    exact ⟨⟨first, wasStored, firstUser.trans sameUser⟩, answer,
      List.mem_append_left _ isMarked⟩

/-- Every call of a request keeps its renewal explained. -/
theorem Renewal.step
    (renewal : Renewal env request before history after)
    (guarded : Guarded env request history operation)
    (inScope : Scoped env request history operation)
    (succeeds : choice.fails operation = false) :
    Renewal env request before
      (history ++ [exchanged backend choice after operation])
      (execute backend choice after operation).2 where
  origin := fun _ _ found => renewal.origin_step found
  single := renewal.single_step guarded inScope _
  read := by
    intro tokenless hash rt member
    refine renewal.read_step ?_ member
    exact fun earlier isEarlier =>
      tokenless earlier (List.mem_append_left _ isEarlier)
  marked := fun _ _ member => renewal.marked_step inScope succeeds member
  renewed := fun _ creates _ isRefresh =>
    renewal.renewed_step guarded inScope creates isRefresh

/-- A request renews what is stored. -/
theorem renewal_served
    {choices : Nat → Choice}
    (calm : Calm choices) :
    let completed := served backend env before request choices
    Renewal env request before completed.history completed.state := by
  refine ((serves_serve env request).and
    (serve_acts env request)).run_invariant
      (Renewal env request before) renewal_start ?_
  intro history operation state index inScope renewal
  exact renewal.step inScope.1 inScope.2 (calm index operation)

end Request

/-!
## Families over sequences of requests
-/

namespace Families

variable {backend : Backend} {env : Environment} {families : Families}
  {request : Request} {choices : Nat → Choice}

/-- A token is stored and was not used yet. -/
def Unused (families : Families) (tokenHash : String) : Prop :=
  ∃ row, families.state.store.refresh.find? tokenHash = some row ∧
    row.used = false

/-- What is recorded about a server agrees with what it stores. -/
structure Sound (families : Families) : Prop where
  stored :
    ∀ hash row, families.state.store.refresh.find? hash = some row →
      ∃ issue ∈ families.issued,
        issue.tokenHash = hash ∧ issue.userID = row.userID
  exchangedIssued :
    ∀ hash ∈ families.exchanged, hash ∈ families.issued.map Issue.tokenHash
  exchangedUsed : ∀ hash ∈ families.exchanged, ¬ families.Unused hash
  once : families.exchanged.Nodup
  below : ∀ issue ∈ families.issued, issue.family < families.issued.length
  single :
    ∀ issue ∈ families.issued, ∀ other ∈ families.issued,
      issue.family = other.family →
        families.Unused issue.tokenHash → families.Unused other.tokenHash →
          issue = other

/-- A server that stores no tokens agrees with the empty record. -/
theorem sound_start
    {state : State}
    (noTokens : state.store.refresh.rows = []) :
    (start state).Sound where
  stored := by
    intro hash row found
    have member := Table.mem_of_find? found
    rw [start, noTokens] at member
    cases member
  exchangedIssued := by
    intro hash member
    cases member
  exchangedUsed := by
    intro hash member
    cases member
  once := List.nodup_nil
  below := by
    intro issue member
    cases member
  single := by
    intro issue member
    cases member

/-- What is issued stays recorded. -/
theorem issued_serve_extends :
    families.issued <+: (families.serve backend env request choices).issued :=
  List.prefix_append _ _

/-- Issued tokens were distinct before the last request as well. -/
theorem Distinct.of_serve
    (distinct : (families.serve backend env request choices).Distinct) :
    families.Distinct :=
  (List.nodup_append.mp (by
    rw [← List.map_append]
    exact distinct)).1

/-- A token that a request has created was not issued before. -/
theorem Distinct.not_issued
    (distinct : (families.serve backend env request choices).Distinct)
    {rt : RefreshToken}
    (creates :
      Creates (served backend env families.state request choices).history rt) :
    rt.tokenHash ∉ families.issued.map Issue.tokenHash := by
  intro member
  have disjoint :=
    (List.nodup_append.mp (by
      rw [← List.map_append]
      exact distinct)).2.2
  refine disjoint _ member rt.tokenHash ?_ rfl
  rw [List.map_map]
  exact List.mem_map_of_mem (f := Issue.tokenHash ∘ _) (mem_storedTokens.mpr creates)

/-- An issued token is an earlier one or was created by the last request. -/
theorem mem_issued_serve
    {issue : Issue}
    (member :
      issue ∈ (families.serve backend env request choices).issued) :
    issue ∈ families.issued ∨
      ∃ rt,
        Creates (served backend env families.state request choices).history
            rt ∧
          issue =
            { tokenHash := rt.tokenHash
              userID := rt.userID
              family := families.familyFor env request } := by
  rcases List.mem_append.mp member with earlier | newest
  · exact Or.inl earlier
  · obtain ⟨rt, isStored, isIssue⟩ := List.mem_map.mp newest
    exact Or.inr ⟨rt, mem_storedTokens.mp isStored, isIssue.symm⟩

/-- An earlier token that is unused was unused before. -/
theorem unused_of_serve
    (calm : Calm choices)
    (distinct : (families.serve backend env request choices).Distinct)
    {hash : String}
    (isIssued : hash ∈ families.issued.map Issue.tokenHash)
    (unused : (families.serve backend env request choices).Unused hash) :
    families.Unused hash := by
  obtain ⟨row, found, rowUnused⟩ := unused
  rcases (renewal_served calm).origin hash row found with
    ⟨rt, creates, rfl, -⟩ | ⟨old, wasStored, -, use⟩
  · exact absurd isIssued (distinct.not_issued creates)
  · refine ⟨old, wasStored, ?_⟩
    cases wasUsed : old.used with
    | false => rfl
    | true => exact absurd (rowUnused.symm.trans (use wasUsed)) Bool.false_ne_true

/-- A marked token was unused before and is not unused afterwards. -/
theorem unused_of_marked
    (sound : families.Sound)
    (calm : Calm choices)
    (distinct : (families.serve backend env request choices).Distinct)
    {hash : String}
    {answer : Answer (.markRefreshTokenUsed hash)}
    (isMarked :
      answered (.markRefreshTokenUsed hash) answer ∈
        (served backend env families.state request choices).history) :
    families.Unused hash ∧
      ¬ (families.serve backend env request choices).Unused hash := by
  obtain ⟨⟨old, wasStored, wasUnused⟩, isUsed⟩ :=
    (renewal_served calm).marked hash answer isMarked
  refine ⟨⟨old, wasStored, wasUnused⟩, ?_⟩
  intro ⟨row, found, rowUnused⟩
  refine Bool.false_ne_true (rowUnused.symm.trans (isUsed ?_ row found))
  rintro rt creates rfl
  obtain ⟨issue, isIssue, sameHash, -⟩ := sound.stored _ old wasStored
  refine distinct.not_issued creates ?_
  exact sameHash ▸ List.mem_map_of_mem isIssue

/-- The hash that a request exchanges was marked by it. -/
theorem marked_of_exchangedBy
    {hash : String}
    (isExchanged :
      hash ∈ exchangedBy env request
        (served backend env families.state request choices).value) :
    ∃ answer,
      answered (.markRefreshTokenUsed hash) answer ∈
        (served backend env families.state request choices).history := by
  cases request with
  | refresh req =>
      cases req with
      | none =>
          cases isExchanged
      | some token =>
          obtain ⟨succeeded, member⟩ :=
            List.mem_ite_nil_right.mp isExchanged
          rw [List.mem_singleton.mp member]
          exact (serves_serve env (.refresh (some token))).run choices
            families.state succeeded
  | _ =>
      cases isExchanged

/-- No request exchanges two hashes. -/
theorem exchangedBy_nodup (response : Response) :
    (exchangedBy env request response).Nodup := by
  unfold exchangedBy
  split
  · split
    · exact List.nodup_singleton _
    · exact List.nodup_nil
  · exact List.nodup_nil

/-- The family of a hash is that of an issued token with the hash. -/
theorem exists_of_familyOf
    {hash : String}
    (isIssued : hash ∈ families.issued.map Issue.tokenHash) :
    ∃ issue ∈ families.issued, issue.tokenHash = hash ∧
      families.familyOf hash = some issue.family := by
  obtain ⟨member, isMember, rfl⟩ := List.mem_map.mp isIssued
  have found :
      (families.issued.find? fun issue =>
        issue.tokenHash = member.tokenHash).isSome = true :=
    List.find?_isSome.mpr ⟨member, isMember, by simp⟩
  obtain ⟨issue, isFirst⟩ := Option.isSome_iff_exists.mp found
  refine ⟨issue, List.mem_of_find?_eq_some isFirst, ?_, ?_⟩
  · simpa using List.find?_some isFirst
  · rw [familyOf, isFirst]
    rfl

/--
An earlier token of the family that a request issues a token for is not unused
afterwards: it is the presented one, or it was used before.
-/
theorem Sound.not_unused_of_familyFor
    (sound : families.Sound)
    (calm : Calm choices)
    (distinct : (families.serve backend env request choices).Distinct)
    {rt : RefreshToken}
    (creates :
      Creates (served backend env families.state request choices).history rt)
    {issue : Issue}
    (isIssue : issue ∈ families.issued)
    (sameFamily : issue.family = families.familyFor env request) :
    ¬ (families.serve backend env request choices).Unused
      issue.tokenHash := by
  have notNew : issue.family ≠ families.issued.length :=
    Nat.ne_of_lt (sound.below issue isIssue)
  cases request with
  | refresh req =>
      cases req with
      | none =>
          exact absurd sameFamily notNew
      | some token =>
          intro unused
          obtain ⟨⟨old, wasStored, -⟩, answer, isMarked⟩ :=
            (renewal_served calm).renewed rt creates token rfl
          obtain ⟨presentedUnused, notUnused⟩ :=
            unused_of_marked sound calm distinct isMarked
          obtain ⟨row, isRow, sameHash, -⟩ := sound.stored _ old wasStored
          have isIssued := List.mem_map_of_mem (f := Issue.tokenHash) isRow
          rw [sameHash] at isIssued
          obtain ⟨presented, isPresented, presentedHash, itsFamily⟩ :=
            exists_of_familyOf isIssued
          have family : issue.family = presented.family := by
            rw [sameFamily, familyFor, itsFamily]
            rfl
          have wasUnused :=
            unused_of_serve calm distinct (List.mem_map_of_mem isIssue) unused
          have same :=
            sound.single issue isIssue presented isPresented family wasUnused
              (presentedHash ▸ presentedUnused)
          rw [same, presentedHash] at unused
          exact notUnused unused
  | _ =>
      exact absurd sameFamily notNew

/-- The family of the next token is an earlier one or the next new one. -/
theorem Sound.familyFor_le (sound : families.Sound) :
    families.familyFor env request ≤ families.issued.length := by
  unfold familyFor
  split
  · rename_i token
    cases isFamily : families.familyOf (env.hashRefreshToken token) with
    | none =>
        exact le_rfl
    | some family =>
        obtain ⟨issue, isFirst, rfl⟩ := Option.map_eq_some_iff.mp isFamily
        exact (sound.below issue (List.mem_of_find?_eq_some isFirst)).le
  · exact le_rfl

/-- A request that creates a token issues more than was issued before. -/
theorem length_lt_of_creates
    {rt : RefreshToken}
    (creates :
      Creates (served backend env families.state request choices).history
        rt) :
    families.issued.length <
      (families.serve backend env request choices).issued.length := by
  have stored := List.length_pos_of_mem (mem_storedTokens.mpr creates)
  simp only [serve, List.length_append, List.length_map]
  exact Nat.lt_add_of_pos_right stored

/-- Two tokens that one request has created are the same token. -/
theorem eq_of_creates
    (calm : Calm choices)
    {rt other : RefreshToken}
    (creates :
      Creates (served backend env families.state request choices).history rt)
    (createsOther :
      Creates (served backend env families.state request choices).history
        other) :
    rt = other := by
  have single :=
    (@renewal_served backend env request families.state choices calm).single
  have first := mem_storedTokens.mpr creates
  have second := mem_storedTokens.mpr createsOther
  match shape :
      (served backend env families.state request choices).history.filterMap
        storedToken with
  | [] =>
      rw [shape] at first
      cases first
  | [only] =>
      rw [shape] at first second
      exact (List.mem_singleton.mp first).trans
        (List.mem_singleton.mp second).symm
  | _ :: _ :: _ =>
      rw [shape] at single
      exact absurd single (by simp)

/-- A request keeps the record and the store in agreement. -/
theorem Sound.serve
    (sound : families.Sound)
    (calm : Calm choices)
    (distinct : (families.serve backend env request choices).Distinct) :
    (families.serve backend env request choices).Sound where
  stored := by
    intro hash row found
    rcases (renewal_served calm).origin hash row found with
      ⟨rt, creates, sameHash, sameUser⟩ | ⟨old, wasStored, sameUser, -⟩
    · refine ⟨_, List.mem_append_right _ (List.mem_map_of_mem
        (mem_storedTokens.mpr creates)), sameHash, sameUser⟩
    · obtain ⟨issue, isIssue, sameHash, itsUser⟩ :=
        sound.stored hash old wasStored
      exact ⟨issue, issued_serve_extends.subset isIssue, sameHash,
        itsUser.trans sameUser⟩
  exchangedIssued := by
    intro hash member
    rcases List.mem_append.mp member with earlier | newest
    · exact (issued_serve_extends.map _).subset
        (sound.exchangedIssued hash earlier)
    · obtain ⟨answer, isMarked⟩ := marked_of_exchangedBy newest
      obtain ⟨⟨old, wasStored, -⟩, -⟩ :=
        (renewal_served calm).marked hash answer isMarked
      obtain ⟨issue, isIssue, sameHash, -⟩ := sound.stored hash old wasStored
      exact (issued_serve_extends.map _).subset
        (sameHash ▸ List.mem_map_of_mem isIssue)
  exchangedUsed := by
    intro hash member
    rcases List.mem_append.mp member with earlier | newest
    · intro unused
      exact sound.exchangedUsed hash earlier
        (unused_of_serve calm distinct (sound.exchangedIssued hash earlier)
          unused)
    · obtain ⟨answer, isMarked⟩ := marked_of_exchangedBy newest
      exact (unused_of_marked sound calm distinct isMarked).2
  once := by
    refine List.nodup_append.mpr
      ⟨sound.once, exchangedBy_nodup _, ?_⟩
    rintro hash earlier other newest rfl
    obtain ⟨answer, isMarked⟩ := marked_of_exchangedBy newest
    exact sound.exchangedUsed hash earlier
      (unused_of_marked sound calm distinct isMarked).1
  below := by
    intro issue member
    rcases mem_issued_serve member with earlier | ⟨rt, creates, isIssue⟩
    · exact (sound.below issue earlier).trans_le
        issued_serve_extends.length_le
    · rw [isIssue]
      exact sound.familyFor_le.trans_lt (length_lt_of_creates creates)
  single := by
    intro issue isIssue other isOther sameFamily unused otherUnused
    rcases mem_issued_serve isIssue with earlier | ⟨rt, creates, rfl⟩
    · rcases mem_issued_serve isOther with otherEarlier | ⟨_, creates, rfl⟩
      · refine sound.single issue earlier other otherEarlier sameFamily ?_ ?_
        · exact unused_of_serve calm distinct (List.mem_map_of_mem earlier)
            unused
        · exact unused_of_serve calm distinct
            (List.mem_map_of_mem otherEarlier) otherUnused
      · exact absurd unused
          (sound.not_unused_of_familyFor calm distinct creates earlier
            sameFamily)
    · rcases mem_issued_serve isOther with
        otherEarlier | ⟨_, createsOther, rfl⟩
      · exact absurd otherUnused
          (sound.not_unused_of_familyFor calm distinct creates otherEarlier
            sameFamily.symm)
      · rw [eq_of_creates calm creates createsOther]

/-- What is issued stays recorded over sequences of requests. -/
theorem issued_serveAll_extends
    (requests : List (Request × (Nat → Choice))) :
    families.issued <+: (families.serveAll backend env requests).issued := by
  induction requests generalizing families with
  | nil =>
      exact List.prefix_rfl
  | cons move rest inductionHypothesis =>
      exact issued_serve_extends.trans inductionHypothesis

/-- Issued tokens were distinct at every earlier time. -/
theorem Distinct.of_serveAll
    {requests : List (Request × (Nat → Choice))}
    (distinct : (families.serveAll backend env requests).Distinct) :
    families.Distinct :=
  distinct.sublist ((issued_serveAll_extends requests).sublist.map _)

/-- Requests in turn keep the record and the store in agreement. -/
theorem Sound.serveAll
    (sound : families.Sound)
    {requests : List (Request × (Nat → Choice))}
    (calm : ∀ move ∈ requests, Calm move.2)
    (distinct : (families.serveAll backend env requests).Distinct) :
    (families.serveAll backend env requests).Sound := by
  induction requests generalizing families with
  | nil =>
      exact sound
  | cons move rest inductionHypothesis =>
      have first : (families.serve backend env move.1 move.2).Distinct :=
        Distinct.of_serveAll distinct
      exact inductionHypothesis
        (sound.serve (calm move List.mem_cons_self) first)
        (fun later isLater => calm later (List.mem_cons_of_mem _ isLater))
        distinct

/-- A stored token was issued. -/
theorem Sound.isIssued
    (sound : families.Sound)
    {row : RefreshToken}
    (isStored : row ∈ families.state.store.refresh.rows) :
    row.tokenHash ∈ families.issued.map Issue.tokenHash := by
  obtain ⟨issue, isIssue, sameHash, -⟩ :=
    sound.stored row.tokenHash row (Table.find?_of_mem isStored)
  exact sameHash ▸ List.mem_map_of_mem isIssue

/-- A list of active sessions shows a family at most once. -/
theorem Sound.sessions_nodup
    (sound : families.Sound)
    {now : Time}
    {userID : String}
    {tokens : List RefreshToken}
    (listed :
      families.state.store.listRefreshTokensForUser backend now userID =
        (.ok tokens, families.state.store)) :
    (tokens.map fun t => families.familyOf t.tokenHash).Nodup := by
  have isSorted := Except.ok.inj (congrArg Prod.fst listed)
  rw [← isSorted]
  refine ((List.mergeSort_perm _ _).map _).nodup_iff.mpr ?_
  have rows : families.state.store.refresh.rows.Nodup :=
    List.Nodup.of_map _ families.state.store.refresh.distinct
  refine List.Nodup.map_on ?_ (rows.filter _)
  intro row isRow other isOther sameFamily
  obtain ⟨isStored, isLive⟩ := List.mem_filter.mp isRow
  obtain ⟨otherStored, otherLive⟩ := List.mem_filter.mp isOther
  obtain ⟨issue, isIssue, sameHash, itsFamily⟩ :=
    exists_of_familyOf (sound.isIssued isStored)
  obtain ⟨otherIssue, isOtherIssue, otherHash, otherFamily⟩ :=
    exists_of_familyOf (sound.isIssued otherStored)
  have families : issue.family = otherIssue.family := by
    rw [itsFamily, otherFamily] at sameFamily
    exact Option.some.inj sameFamily
  have unused : row.used = false := by
    simp only [Bool.and_eq_true, Bool.not_eq_true'] at isLive
    exact isLive.1.2
  have otherUnused : other.used = false := by
    simp only [Bool.and_eq_true, Bool.not_eq_true'] at otherLive
    exact otherLive.1.2
  have same :=
    sound.single issue isIssue otherIssue isOtherIssue families
      ⟨row, sameHash ▸ Table.find?_of_mem isStored, unused⟩
      ⟨other, otherHash ▸ Table.find?_of_mem otherStored, otherUnused⟩
  refine Table.eq_of_key_eq isStored otherStored ?_
  rw [← sameHash, ← otherHash, same]

/-- A hash that was issued and is not stored is not stored again. -/
theorem find?_eq_none_serve
    (calm : Calm choices)
    (distinct : (families.serve backend env request choices).Distinct)
    {hash : String}
    (isIssued : hash ∈ families.issued.map Issue.tokenHash)
    (absent : families.state.store.refresh.find? hash = none) :
    (families.serve backend env request choices).state.store.refresh.find?
      hash = none := by
  rw [Option.eq_none_iff_forall_not_mem]
  intro row found
  rcases (renewal_served calm).origin hash row found with
    ⟨rt, creates, rfl, -⟩ | ⟨old, wasStored, -⟩
  · exact distinct.not_issued creates isIssued
  · cases absent.symm.trans wasStored

/-- Nor is it stored again by requests in turn. -/
theorem find?_eq_none_serveAll
    {requests : List (Request × (Nat → Choice))}
    (calm : ∀ move ∈ requests, Calm move.2)
    (distinct : (families.serveAll backend env requests).Distinct)
    {hash : String}
    (isIssued : hash ∈ families.issued.map Issue.tokenHash)
    (absent : families.state.store.refresh.find? hash = none) :
    (families.serveAll backend env requests).state.store.refresh.find?
      hash = none := by
  induction requests generalizing families with
  | nil =>
      exact absent
  | cons move rest inductionHypothesis =>
      have first : (families.serve backend env move.1 move.2).Distinct :=
        Distinct.of_serveAll distinct
      exact inductionHypothesis
        (fun later isLater => calm later (List.mem_cons_of_mem _ isLater))
        distinct
        ((issued_serve_extends.map _).subset isIssued)
        (find?_eq_none_serve (calm move List.mem_cons_self) first isIssued
          absent)

/-- A token that is not stored is not exchanged. -/
theorem refused_of_absent
    {state : State}
    {presented : String}
    (absent :
      state.store.refresh.find? (env.hashRefreshToken presented) = none) :
    (served backend env state (.refresh (some presented))
      choices).value.status ≠ 200 := by
  unfold served
  simp only [Server.serve, handleRefresh]
  split
  · intro isOk
    cases isOk
  · rcases @getRefreshToken_ends backend (choices 0) state
        (env.hashRefreshToken presented) with
      ⟨e, failed⟩ | ⟨rt, -, isStored⟩
    · simp only [perform_bind, Program.run_perform, failed]
      intro isOk
      cases isOk
    · cases absent.symm.trans isStored

/-- An audited response leaves the refresh tokens alone. -/
theorem refresh_audited
    {state : State}
    (userID event detail : String)
    (response : Response) :
    ((audit userID event detail >>= fun _ => Program.done response).run
      (execute backend) choices state).state.store.refresh =
        state.store.refresh := by
  have untouched :
      (audit userID event detail >>= fun _ => Program.done response).Only
        fun operation : Operation => operation.touches .refresh = false :=
    Program.Only.bind (only_audit rfl rfl fun _ => rfl) fun _ => trivial
  exact same_run untouched

/-- A used token that is presented again revokes the tokens of its account. -/
theorem refresh_served_of_reuse
    {state : State}
    {token : String}
    {rt : RefreshToken}
    (calm : Calm choices)
    (notEmpty : token ≠ "")
    (isStored :
      state.store.refresh.find? (env.hashRefreshToken token) = some rt)
    (used : rt.used = true)
    (live : ¬ rt.expiresAt < (choices 1).now) :
    (served backend env state (.refresh (some token))
        choices).state.store.refresh =
      state.store.refresh.delete fun row => row.userID = rt.userID := by
  have read :
      execute backend (choices 0) state
          (.getRefreshToken (env.hashRefreshToken token)) =
        (.ok rt, state) := by
    simp only [execute, attempt_of_succeeds (calm _ _), Store.getRefreshToken,
      isStored]
  have notExpired :
      ¬ rt.expiresAt < (execute backend (choices (0 + 1)) state .now).1 :=
    live
  have deleted :
      ∀ index,
        (execute backend (choices index) state
            (.deleteRefreshTokensForUser rt.userID)).2.store.refresh =
          state.store.refresh.delete fun row => row.userID = rt.userID := by
    intro index
    simp only [execute, attempt_of_succeeds (calm _ _),
      Store.deleteRefreshTokensForUser]
  simp only [served, Server.serve, handleRefresh, if_neg notEmpty,
    perform_bind, Program.run_perform, read, if_neg notExpired, used, if_true]
  refine Eq.trans ?_ (deleted (0 + 1 + 1))
  exact refresh_audited rt.userID "token.reuse_detected" "" _

/-- A token whose account was revoked is stored no more. -/
theorem Sound.find?_revoked
    (sound : families.Sound)
    (distinct : families.Distinct)
    {userID : String}
    {issue : Issue}
    (isIssue : issue ∈ families.issued)
    (itsUser : issue.userID = userID) :
    (families.state.store.refresh.delete fun row =>
      row.userID = userID).find? issue.tokenHash = none := by
  rw [Table.find?_delete, Option.filter_eq_none_iff]
  intro row found
  obtain ⟨other, isOther, sameHash, otherUser⟩ := sound.stored _ row found
  have same : other = issue :=
    List.inj_on_of_nodup_map distinct isOther isIssue sameHash
  simp [← otherUser, same, itsUser]

end Families

/--
While store calls succeed and the hashes of issued tokens are distinct, no token
is exchanged twice, a family has at most one unused stored token and appears at
most once among the active sessions of an account; and once a stored token that
is used and not expired is presented again, no token that its account was issued
before is ever exchanged, while the tokens of other accounts stay as they are.
-/
theorem refreshFamilies (backend : Backend) (env : Environment) :
    (∀ (state : State) (requests : List (Request × (Nat → Choice))),
      state.store.refresh.rows = [] →
      (∀ move ∈ requests, Calm move.2) →
      let families := (Families.start state).serveAll backend env requests
      families.Distinct →
        families.exchanged.Nodup ∧
        (∀ issue ∈ families.issued, ∀ other ∈ families.issued,
          issue.family = other.family →
            families.Unused issue.tokenHash →
              families.Unused other.tokenHash → issue = other) ∧
        ∀ now userID tokens,
          families.state.store.listRefreshTokensForUser backend now userID =
              (.ok tokens, families.state.store) →
            (tokens.map fun t => families.familyOf t.tokenHash).Nodup) ∧
    ∀ (state : State) (earlier later : List (Request × (Nat → Choice)))
        (token : String) (choices : Nat → Choice) (rt : RefreshToken),
      state.store.refresh.rows = [] →
      (∀ move ∈ earlier, Calm move.2) → Calm choices →
      (∀ move ∈ later, Calm move.2) →
      let families := (Families.start state).serveAll backend env earlier
      let detected :=
        families.serve backend env (.refresh (some token)) choices
      let final := detected.serveAll backend env later
      final.Distinct →
      token ≠ "" →
      families.state.store.refresh.find? (env.hashRefreshToken token) =
        some rt →
      rt.used = true → ¬ rt.expiresAt < (choices 1).now →
        (∀ issue ∈ families.issued, issue.userID = rt.userID →
          ∀ presented, env.hashRefreshToken presented = issue.tokenHash →
            ∀ whenPresented,
              (served backend env final.state (.refresh (some presented))
                whenPresented).value.status ≠ 200) ∧
        ∀ hash row, row.userID ≠ rt.userID →
          (detected.state.store.refresh.find? hash = some row ↔
            families.state.store.refresh.find? hash = some row) := by
  constructor
  · intro state requests noTokens calm families distinct
    have sound : families.Sound :=
      (Families.sound_start noTokens).serveAll calm distinct
    refine ⟨sound.once, sound.single, ?_⟩
    intro now userID tokens listed
    exact sound.sessions_nodup listed
  · intro state earlier later token choices rt noTokens earlierCalm calm
      laterCalm families detected final distinct notEmpty isStored used live
    have detectedDistinct : detected.Distinct := distinct.of_serveAll
    have familiesDistinct : families.Distinct := detectedDistinct.of_serve
    have sound : families.Sound :=
      (Families.sound_start noTokens).serveAll earlierCalm familiesDistinct
    have revoked :
        detected.state.store.refresh =
          families.state.store.refresh.delete fun row =>
            row.userID = rt.userID :=
      Families.refresh_served_of_reuse calm notEmpty isStored used live
    constructor
    · intro issue isIssue itsUser presented itsHash whenPresented
      have absent :
          detected.state.store.refresh.find? issue.tokenHash = none := by
        rw [revoked]
        exact sound.find?_revoked familiesDistinct isIssue itsUser
      have isIssued :
          issue.tokenHash ∈ detected.issued.map Issue.tokenHash :=
        List.mem_map_of_mem (Families.issued_serve_extends.subset isIssue)
      refine Families.refused_of_absent ?_
      rw [itsHash]
      exact Families.find?_eq_none_serveAll laterCalm distinct isIssued absent
    · intro hash row otherUser
      rw [revoked, Table.find?_delete, Option.filter_eq_some_iff]
      simp [otherUser]

/-- The refresh token that is drawn at a moment. -/
def drawnToken (byte : UInt8) : String :=
  Environment.jwtB64 ((moment byte).bytes 32)

/-- A login whose token is refreshed. -/
def refreshedLogin : Families :=
  (Families.start (oneAccount "" false)).serveAll .memory plainEnvironment
    [(loginWithPassword, fun _ => moment 1),
      (.refresh (some (drawnToken 1)), fun _ => moment 2)]

/-- The first token of the family is presented again. -/
def reusedLogin : Families :=
  refreshedLogin.serve .memory plainEnvironment
    (.refresh (some (drawnToken 1))) fun _ => moment 3

/-- Neither token of a family is exchanged after the first was reused. -/
theorem reusedLogin_refused :
    refreshedLogin.issued.map Issue.family = [0, 0] ∧
      ∀ issue ∈ refreshedLogin.issued, ∀ presented,
        plainEnvironment.hashRefreshToken presented = issue.tokenHash →
          ∀ whenPresented,
            (served .memory plainEnvironment reusedLogin.state
              (.refresh (some presented)) whenPresented).value.status ≠
                200 := by
  have calm : ∀ byte, Calm fun _ => moment byte := fun _ _ _ => rfl
  have reused :
      (refreshedLogin.state.store.refresh.find?
          (plainEnvironment.hashRefreshToken (drawnToken 1))).any
        (fun rt =>
          rt.used && decide (0 ≤ rt.expiresAt) &&
            refreshedLogin.issued.all fun issue =>
              issue.userID = rt.userID) = true := by
    decide +kernel
  obtain ⟨rt, isStored, isReused⟩ :=
    (Option.any_eq_true _ _).mp reused
  simp only [Bool.and_eq_true, decide_eq_true_eq, List.all_eq_true]
    at isReused
  obtain ⟨⟨used, live⟩, sameUser⟩ := isReused
  have distinct : reusedLogin.Distinct := by
    unfold Families.Distinct
    decide +kernel
  have notEmpty : drawnToken 1 ≠ "" := by
    decide
  constructor
  · decide +kernel
  · intro issue isIssue
    refine ((refreshFamilies .memory plainEnvironment).2 _ _ [] (drawnToken 1)
      (fun _ => moment 3) rt rfl ?_ (calm 3) ?_ distinct notEmpty isStored
      used (Int.not_lt.mpr live)).1 issue isIssue (sameUser issue isIssue)
    · intro move member
      rcases List.mem_cons.mp member with rfl | later
      · exact calm 1
      · rw [List.mem_singleton.mp later]
        exact calm 2
    · intro move member
      cases member

end Passwd.Server
