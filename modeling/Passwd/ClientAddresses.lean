import Passwd.ServerHandlers

namespace Passwd.Server

open TextRuns Identifier

/-!
# The key of the rate limit

The limiter counts requests by the address of the peer.  Behind a trusted proxy
it counts them by the first entry of `X-Forwarded-For`, taken to be the address
that the proxy recorded.  A proxy that appends to the header keeps what the
client sent in front, so the first entry is the client's own text: the key is
the client's address exactly when the client's header begins with it.
-/

/-- The parts of a request that the rate limit reads. -/
structure HttpRequest where
  RemoteAddr : String
  xForwardedFor : Option String

/-!
## The address of a request
-/

/-- `net.SplitHostPort`; `none` is an error. -/
def splitHostPort (hostport : List Char) :
    Option (List Char × List Char) :=
  if ':' ∈ hostport then
    let port := hostport.rtakeWhile (· ≠ ':')
    let before := hostport.take (hostport.length - port.length - 1)
    match hostport with
    | '[' :: rest =>
        let host := rest.takeWhile (· ≠ ']')
        if before = '[' :: (host ++ [']']) ∧ '[' ∉ rest ∧ ']' ∉ port then
          some (host, port)
        else
          none
    | _ =>
        if ':' ∈ before ∨ '[' ∈ hostport ∨ ']' ∈ hostport then
          none
        else
          some (before, port)
  else
    none

/-- `remoteHost` -/
def remoteHost (r : HttpRequest) : String :=
  match splitHostPort r.RemoteAddr.toList with
  | none => r.RemoteAddr
  | some (host, _) => String.ofList host

/-- `clientIP` -/
def clientIP (trustedProxies : List String) (r : HttpRequest) : String :=
  let host := remoteHost r
  if host ∈ trustedProxies then
    let xff := r.xForwardedFor.getD ""
    if xff ≠ "" then
      match xff.toList.idxOf? ',' with
      | some i => Environment.trimSpace (String.ofList (xff.toList.take i))
      | none => Environment.trimSpace xff
    else
      host
  else
    host

/-!
## The limiter
-/

/-- `rlEntry`, with the key it is counted under. -/
structure RateEntry where
  key : String
  count : Int
  resetAt : Time

/-- `rateLimiter` -/
structure RateLimiter where
  limit : Int
  window : Time
  counters : Table RateEntry.key

/-- The limiter with a new window for a key. -/
def RateLimiter.restart
    (rl : RateLimiter)
    (now : Time)
    (key : String) :
    RateLimiter :=
  { rl with
    counters := rl.counters.upsert
      { key := key, count := 1, resetAt := now + rl.window } }

/-- `allow`, with the limiter after it. -/
def RateLimiter.allow (rl : RateLimiter) (now : Time) (key : String) :
    Bool × RateLimiter :=
  match rl.counters.find? key with
  | none => (true, rl.restart now key)
  | some e =>
      if e.resetAt < now then
        (true, rl.restart now key)
      else if rl.limit ≤ e.count then
        (false, rl)
      else
        (true, { rl with
          counters := rl.counters.upsert { e with count := e.count + 1 } })

/-- `rateLimit`: the response of a refusal, nothing when the request goes on. -/
def rateLimit
    (trustedProxies : List String)
    (rl : RateLimiter)
    (now : Time)
    (r : HttpRequest) :
    Option Response × RateLimiter :=
  let (allowed, rl) := rl.allow now (clientIP trustedProxies r)
  if allowed then
    (none, rl)
  else
    (some (writeError 429 "rate limit exceeded; slow down"), rl)

/-- How many of the arriving requests go on. -/
def passed
    (trustedProxies : List String) :
    RateLimiter → List (Time × HttpRequest) → Nat
  | _, [] => 0
  | rl, (now, r) :: later =>
      let (refusal, rl) := rateLimit trustedProxies rl now r
      (if refusal = none then 1 else 0) + passed trustedProxies rl later

/-- Requests with the same keys at the same times fare alike. -/
theorem passed_congr
    {trustedProxies : List String}
    {arrivals others : List (Time × HttpRequest)}
    (same :
      List.Forall₂
        (fun arrival other =>
          arrival.1 = other.1 ∧
            clientIP trustedProxies arrival.2 =
              clientIP trustedProxies other.2)
        arrivals others)
    (rl : RateLimiter) :
    passed trustedProxies rl arrivals = passed trustedProxies rl others := by
  induction same generalizing rl with
  | nil =>
      rfl
  | @cons arrival other _ _ agree _ inductionHypothesis =>
      obtain ⟨now, r⟩ := arrival
      obtain ⟨_, s⟩ := other
      obtain ⟨rfl, sameKey⟩ := agree
      have sameStep :
          rateLimit trustedProxies rl now r =
            rateLimit trustedProxies rl now s := by
        unfold rateLimit
        rw [sameKey]
      simp only [passed, sameStep, inductionHypothesis]

/-- A key without a counter is let through. -/
theorem rateLimit_of_fresh
    {trustedProxies : List String}
    {rl : RateLimiter}
    {r : HttpRequest}
    (fresh : rl.counters.find? (clientIP trustedProxies r) = none)
    (now : Time) :
    rateLimit trustedProxies rl now r =
      (none, rl.restart now (clientIP trustedProxies r)) := by
  simp [rateLimit, RateLimiter.allow, fresh]

/-- A key whose running window is used up is refused. -/
theorem rateLimit_of_usedUp
    {trustedProxies : List String}
    {rl : RateLimiter}
    {r : HttpRequest}
    {e : RateEntry}
    {now : Time}
    (found : rl.counters.find? (clientIP trustedProxies r) = some e)
    (running : now ≤ e.resetAt)
    (usedUp : rl.limit ≤ e.count) :
    rateLimit trustedProxies rl now r =
      (some (writeError 429 "rate limit exceeded; slow down"), rl) := by
  simp [rateLimit, RateLimiter.allow, found, Int.not_lt.mpr running, usedUp]

/-- Requests under keys that are all different are let through by any limit. -/
theorem passed_of_distinctKeys
    {trustedProxies : List String}
    {arrivals : List (Time × HttpRequest)}
    {rl : RateLimiter}
    (distinct :
      (arrivals.map fun arrival =>
        clientIP trustedProxies arrival.2).Nodup)
    (fresh :
      ∀ arrival ∈ arrivals,
        rl.counters.find? (clientIP trustedProxies arrival.2) = none) :
    passed trustedProxies rl arrivals = arrivals.length := by
  induction arrivals generalizing rl with
  | nil =>
      rfl
  | cons arrival later inductionHypothesis =>
      obtain ⟨now, r⟩ := arrival
      rw [List.map_cons, List.nodup_cons] at distinct
      have stillFresh :
          ∀ arrival ∈ later,
            (rl.restart now (clientIP trustedProxies r)).counters.find?
              (clientIP trustedProxies arrival.2) = none := by
        intro arrival member
        have different :
            clientIP trustedProxies r ≠
              clientIP trustedProxies arrival.2 := by
          intro same
          exact distinct.1 (List.mem_map.mpr ⟨arrival, member, same.symm⟩)
        unfold RateLimiter.restart
        rw [Table.find?_upsert, if_neg different]
        exact fresh arrival (List.mem_cons_of_mem _ member)
      have letThrough :=
        rateLimit_of_fresh (fresh (now, r) List.mem_cons_self) now
      simp only [passed, letThrough, ↓reduceIte, List.length_cons,
        inductionHypothesis distinct.2 stillFresh]
      exact Nat.add_comm 1 later.length

/-!
## The first entry of the header
-/

/-- The text up to the first comma, without the white space around it. -/
def firstEntry (value : List Char) : List Char :=
  trim isGoSpace (value.takeWhile (· ≠ ','))

/-- The header begins, white space apart, with the address as an entry. -/
def NamesAddress (address value : List Char) : Prop :=
  ∃ before after rest : List Char,
    (∀ symbol ∈ before, isGoSpace symbol = true) ∧
    (∀ symbol ∈ after, isGoSpace symbol = true) ∧
    value = before ++ (address ++ after) ++ rest ∧
    (rest = [] ∨ ∃ others, rest = ',' :: others)

/-- An index of the first comma cuts the text where `takeWhile` does. -/
theorem take_of_idxOf?
    {value : List Char}
    {i : Nat}
    (found : value.idxOf? ',' = some i) :
    value.take i = value.takeWhile (· ≠ ',') := by
  induction value generalizing i with
  | nil =>
      cases found
  | cons first rest inductionHypothesis =>
      rw [List.idxOf?_cons] at found
      by_cases comma : first = ','
      · simp only [comma, beq_self_eq_true, ↓reduceIte,
          Option.some.injEq] at found
        simp [comma, ← found]
      · simp only [beq_iff_eq, comma, ↓reduceIte, Option.map_eq_some_iff]
          at found
        obtain ⟨j, later, rfl⟩ := found
        simp [comma, inductionHypothesis later]

/-- What follows a comma does not reach the first entry. -/
theorem firstEntry_append_comma (value rest : List Char) :
    firstEntry (value ++ ',' :: rest) = firstEntry value := by
  have sameEntry :
      (value ++ ',' :: rest).takeWhile (· ≠ ',') =
        value.takeWhile (· ≠ ',') := by
    induction value with
    | nil =>
        simp
    | cons first others inductionHypothesis =>
        rw [List.cons_append, List.takeWhile_cons, List.takeWhile_cons,
          inductionHypothesis]
  rw [firstEntry, sameEntry, ← firstEntry]

/-- Behind a trusted proxy the key is the first entry of the header. -/
theorem clientIP_of_trusted
    {trustedProxies : List String}
    {r : HttpRequest}
    {value : String}
    (trusted : remoteHost r ∈ trustedProxies)
    (header : r.xForwardedFor = some value)
    (nonempty : value ≠ "") :
    clientIP trustedProxies r = String.ofList (firstEntry value.toList) := by
  simp only [clientIP, trusted, ↓reduceIte, header, Option.getD_some, ne_eq,
    nonempty, not_false_eq_true, Environment.trimSpace]
  cases comma : value.toList.idxOf? ',' with
  | none =>
      have whole : value.toList.takeWhile (· ≠ ',') = value.toList := by
        rw [List.takeWhile_eq_self_iff]
        intro symbol member
        rw [List.idxOf?_eq_none_iff] at comma
        have different : symbol ≠ ',' := by
          rintro rfl
          exact comma member
        simpa using different
      simp only [firstEntry, whole]
  | some i =>
      simp only [firstEntry, ← take_of_idxOf? comma, String.toList_ofList]

/-- The first entry is the address exactly when the header names it first. -/
theorem firstEntry_eq_iff
    {address value : List Char}
    (noComma : ',' ∉ address)
    (bare : Bare isGoSpace address) :
    firstEntry value = address ↔ NamesAddress address value := by
  constructor
  · intro same
    obtain ⟨front, back, frontBlank, backBlank, shape⟩ :=
      exists_ends isGoSpace (value.takeWhile (· ≠ ','))
    refine ⟨front, back, value.dropWhile (· ≠ ','), frontBlank, backBlank,
      ?_, ?_⟩
    · rw [← same, firstEntry, ← shape, List.takeWhile_append_dropWhile]
    · cases remaining : value.dropWhile (· ≠ ',') with
      | nil =>
          exact Or.inl rfl
      | cons symbol others =>
          have stops := List.head?_dropWhile_not (· ≠ ',') value
          rw [remaining] at stops
          have isComma : symbol = ',' := by
            simpa using stops
          exact Or.inr ⟨others, by rw [isComma]⟩
  · rintro ⟨before, after, rest, beforeBlank, afterBlank, rfl, ending⟩
    have blankNotComma :
        ∀ symbol, isGoSpace symbol = true → symbol ≠ ',' := by
      rintro symbol blank rfl
      exact absurd blank (by decide)
    have entry :
        ∀ symbol ∈ before ++ (address ++ after), symbol ≠ ',' := by
      intro symbol member
      rcases List.mem_append.mp member with inBefore | member
      · exact blankNotComma symbol (beforeBlank symbol inBefore)
      · rcases List.mem_append.mp member with inAddress | inAfter
        · rintro rfl
          exact noComma inAddress
        · exact blankNotComma symbol (afterBlank symbol inAfter)
    have cut :
        (before ++ (address ++ after) ++ rest).takeWhile (· ≠ ',') =
          before ++ (address ++ after) := by
      rw [List.takeWhile_append_of_pos (by simpa using entry)]
      rcases ending with rfl | ⟨others, rfl⟩
      · simp
      · simp
    rw [firstEntry, cut, trim_ends beforeBlank afterBlank,
      trim_of_bare bare]

/-!
## Behind a trusted proxy
-/

/-- The connection of a proxy that is trusted. -/
structure TrustedProxy (trustedProxies : List String) where
  RemoteAddr : String
  trusted :
    remoteHost { RemoteAddr := RemoteAddr, xForwardedFor := none } ∈
      trustedProxies

/-- An address as a proxy writes it: without a comma or white space around. -/
structure PeerAddress where
  text : String
  ne_empty : text ≠ ""
  noComma : ',' ∉ text.toList
  bare : Bare isGoSpace text.toList

variable {trustedProxies : List String}

/-- The proxy appends the address to the header that the client sent. -/
def TrustedProxy.forward
    (proxy : TrustedProxy trustedProxies)
    (address : PeerAddress)
    (header : Option String) :
    HttpRequest where
  RemoteAddr := proxy.RemoteAddr
  xForwardedFor :=
    match header with
    | none => some address.text
    | some value => some (value ++ ", " ++ address.text)

/-- A forwarded request comes from the proxy. -/
theorem TrustedProxy.forward_trusted
    (proxy : TrustedProxy trustedProxies)
    (address : PeerAddress)
    (header : Option String) :
    remoteHost (proxy.forward address header) ∈ trustedProxies :=
  proxy.trusted

/-- What arrives when the client sends headers at some times. -/
def TrustedProxy.forwardAll
    (proxy : TrustedProxy trustedProxies)
    (address : PeerAddress)
    (headers : List (Time × Option String)) :
    List (Time × HttpRequest) :=
  headers.map fun sent => (sent.1, proxy.forward address sent.2)

/-- What arrives when the client sends no header at these times. -/
def TrustedProxy.forwardBare
    (proxy : TrustedProxy trustedProxies)
    (address : PeerAddress)
    (headers : List (Time × Option String)) :
    List (Time × HttpRequest) :=
  headers.map fun sent => (sent.1, proxy.forward address none)

section Forwarded

variable (proxy : TrustedProxy trustedProxies) (address : PeerAddress)

/-- A client without a header is counted under its address. -/
theorem clientIP_forward_none :
    clientIP trustedProxies (proxy.forward address none) = address.text := by
  have names : NamesAddress address.text.toList address.text.toList :=
    ⟨[], [], [], by simp, by simp, by simp, Or.inl rfl⟩
  rw [clientIP_of_trusted (proxy.forward_trusted address _) rfl address.ne_empty,
    (firstEntry_eq_iff address.noComma address.bare).mpr names,
    String.ofList_toList]

/-- A client with a header is counted under the first entry of its own. -/
theorem clientIP_forward_some (value : String) :
    clientIP trustedProxies (proxy.forward address (some value)) =
      String.ofList (firstEntry value.toList) := by
  have nonempty : value ++ ", " ++ address.text ≠ "" := by
    intro empty
    have letters := congrArg String.toList empty
    simp at letters
  have shape :
      (value ++ ", " ++ address.text).toList =
        value.toList ++ ',' :: ' ' :: address.text.toList := by
    simp
  rw [clientIP_of_trusted (proxy.forward_trusted address _) rfl nonempty,
    shape, firstEntry_append_comma]

/-- The key is the address exactly when the header names it first. -/
theorem clientIP_forward_iff (header : Option String) :
    clientIP trustedProxies (proxy.forward address header) = address.text ↔
      ∀ value, header = some value →
        NamesAddress address.text.toList value.toList := by
  cases header with
  | none =>
      simp [clientIP_forward_none]
  | some value =>
      rw [clientIP_forward_some, ← String.toList_inj,
        String.toList_ofList,
        firstEntry_eq_iff address.noComma address.bare]
      simp

/-- A different entry in front of every header passes any limit. -/
theorem distinctEntries_pass
    {headers : List (Time × String)}
    {rl : RateLimiter}
    (distinct :
      (headers.map fun sent =>
        String.ofList (firstEntry sent.2.toList)).Nodup)
    (fresh :
      ∀ sent ∈ headers,
        rl.counters.find? (String.ofList (firstEntry sent.2.toList)) =
          none) :
    passed trustedProxies rl
        (proxy.forwardAll address
          (headers.map fun sent => (sent.1, some sent.2))) =
      headers.length := by
  rw [passed_of_distinctKeys]
  · simp [TrustedProxy.forwardAll]
  · simpa [TrustedProxy.forwardAll, Function.comp_def,
      clientIP_forward_some] using distinct
  · intro arrival member
    simp only [TrustedProxy.forwardAll, List.map_map, List.mem_map,
      Function.comp_apply] at member
    obtain ⟨sent, inHeaders, rfl⟩ := member
    rw [clientIP_forward_some]
    exact fresh sent inHeaders

/--
The client's headers all have one key, and none of its sequences gets more
requests through than sending no header, exactly when every header that it sends
begins with its own address.
-/
theorem keyIsFixed_iff
    (limit : Int)
    (window : Time)
    (values : Set (Option String)) :
    ((∀ value ∈ values, ∀ other ∈ values,
        clientIP trustedProxies (proxy.forward address value) =
          clientIP trustedProxies (proxy.forward address other)) ∧
      ∀ (counters : Table RateEntry.key)
        (headers : List (Time × Option String)),
        (∀ sent ∈ headers, sent.2 ∈ values) →
        passed trustedProxies ⟨limit, window, counters⟩
            (proxy.forwardAll address headers) ≤
          passed trustedProxies ⟨limit, window, counters⟩
            (proxy.forwardBare address headers)) ↔
      ∀ header ∈ values, ∀ value, header = some value →
        NamesAddress address.text.toList value.toList := by
  constructor
  · rintro ⟨-, noMore⟩ header member
    rw [← clientIP_forward_iff proxy]
    by_contra otherKey
    let exhausted : Table RateEntry.key :=
      Table.empty.upsert
        { key := address.text, count := limit, resetAt := 0 }
    have letThrough :
        rateLimit trustedProxies ⟨limit, window, exhausted⟩ 0
            (proxy.forward address header) =
          (none, RateLimiter.restart ⟨limit, window, exhausted⟩ 0
            (clientIP trustedProxies (proxy.forward address header))) := by
      apply rateLimit_of_fresh
      rw [Table.find?_upsert, if_neg (Ne.symm otherKey)]
      rfl
    have refused :
        rateLimit trustedProxies ⟨limit, window, exhausted⟩ 0
            (proxy.forward address none) =
          (some (writeError 429 "rate limit exceeded; slow down"),
            ⟨limit, window, exhausted⟩) := by
      apply rateLimit_of_usedUp
      · rw [clientIP_forward_none, Table.find?_upsert, if_pos rfl]
      · exact Int.le_refl 0
      · exact Int.le_refl limit
    have atMost :=
      noMore exhausted [(0, header)] (by simpa using member)
    simp [TrustedProxy.forwardAll, TrustedProxy.forwardBare, passed,
      letThrough, refused] at atMost
  · intro names
    have sameKey :
        ∀ header ∈ values,
          clientIP trustedProxies (proxy.forward address header) =
            address.text := by
      intro header member
      exact (clientIP_forward_iff proxy address header).mpr
        (names header member)
    constructor
    · intro value member other otherMember
      rw [sameKey value member, sameKey other otherMember]
    · intro counters headers allowed
      apply le_of_eq
      apply passed_congr
      unfold TrustedProxy.forwardAll TrustedProxy.forwardBare
      rw [List.forall₂_map_left_iff, List.forall₂_map_right_iff,
        List.forall₂_same]
      intro sent member
      exact ⟨rfl, by
        rw [sameKey sent.2 (allowed sent member), clientIP_forward_none]⟩

end Forwarded

/-!
## One client with two addresses
-/

/-- The proxy of the unit test. -/
def testProxy : TrustedProxy ["10.0.0.1"] where
  RemoteAddr := "10.0.0.1:5000"
  trusted := by decide

/-- The client of the unit test. -/
def testClient : PeerAddress where
  text := "203.0.113.9"
  ne_empty := by decide
  noComma := by decide
  bare := by
    change Bare isGoSpace
      ['2', '0', '3', '.', '0', '.', '1', '1', '3', '.', '9']
    constructor
    · rintro symbol ⟨⟩
      rfl
    · rintro symbol ⟨⟩
      rfl

/-- Two forged headers have two keys, and both pass a limit of one. -/
theorem forgedHeaders_pass :
    clientIP ["10.0.0.1"] (testProxy.forward testClient (some "1.1.1.1")) ≠
        clientIP ["10.0.0.1"]
          (testProxy.forward testClient (some "2.2.2.2")) ∧
      passed ["10.0.0.1"] ⟨1, 60 * second, Table.empty⟩
          (testProxy.forwardAll testClient
            [(0, some "1.1.1.1"), (0, some "2.2.2.2")]) = 2 ∧
      passed ["10.0.0.1"] ⟨1, 60 * second, Table.empty⟩
          (testProxy.forwardBare testClient
            [(0, some "1.1.1.1"), (0, some "2.2.2.2")]) = 1 := by
  decide

end Passwd.Server
