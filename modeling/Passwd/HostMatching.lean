import Passwd.TextRuns
import Mathlib.Data.List.DropRight
import Mathlib.Data.List.Infix
import Mathlib.Tactic.Common

namespace Passwd.Autofill

/-!
# Which saved logins a page is offered

The extension compares the host of a saved URL with the host of the page in the
active tab: after a leading `www.` is removed from either, the hosts are equal
or one is a subdomain of the other.  Removing the prefix happens before the
comparison, so a host that is `www.` and a single label is compared as that
label alone, and every host under the same top-level domain matches it.

The URL parser is a parameter.  Its hosts are ASCII, so lower-casing them is a
matter of single characters.
-/

/-- `new URL(url).hostname`, or nothing where the constructor throws. -/
structure UrlParser where
  hostname : String → Option String
  ascii :
    ∀ url host, hostname url = some host →
      ∀ symbol ∈ host.toList, symbol.toNat < 128

/-!
## The comparison
-/

/-- `safeHost`: the host of a URL, whose scheme may be left out. -/
def safeHost (parser : UrlParser) (url : String) : String :=
  let address :=
    if "://".toList <:+: url.toList then url else "https://" ++ url
  match parser.hostname address with
  | some host => host.toLower
  | none => ""

/-- `host.replace(/^www\./, "")`. -/
def withoutPrefix (host : List Char) : List Char :=
  if "www.".toList <+: host then host.drop 4 else host

/-- `longer.endsWith("." + shorter)`. -/
def endsWithDomain (longer shorter : List Char) : Bool :=
  decide ('.' :: shorter <:+ longer)

/-- `hostMatches`, for the host of the saved URL. -/
def hostsMatch (itemHost pageHost : String) : Bool :=
  if itemHost = "" ∨ pageHost = "" then false
  else
    let a := withoutPrefix itemHost.toList
    let b := withoutPrefix pageHost.toList
    decide (a = b) || endsWithDomain a b || endsWithDomain b a

/-- `hostMatches`. -/
def hostMatches
    (parser : UrlParser)
    (itemUrl pageHost : String) : Bool :=
  hostsMatch (safeHost parser itemUrl) pageHost

/-!
## Domains as lists of labels
-/

/-- The labels of a host, the top-level domain last. -/
def labels (host : String) : List (List Char) :=
  host.toList.splitOn '.'

/-- The label that names a web server. -/
def wwwLabel : List Char := "www".toList

/-- A domain without a single leading `www` label, if more follows it. -/
def withoutWww : List (List Char) → List (List Char)
  | first :: next :: rest =>
      if first = wwwLabel then next :: rest else first :: next :: rest
  | short => short

/-- One of two domains is the other or a subdomain of it. -/
def Nested (inner outer : List (List Char)) : Prop :=
  inner <:+ outer ∨ outer <:+ inner

/--
The hosts share their last two labels, and one is the other or a subdomain of
it, up to a leading `www` label.
-/
structure SameDomain (itemHost pageHost : String) : Prop where
  lastTwo : (labels itemHost).rtake 2 = (labels pageHost).rtake 2
  nested : Nested (withoutWww (labels itemHost)) (withoutWww (labels pageHost))

/-- Hosts of at least two labels match only within one domain. -/
def MatchesWithinDomain
    (parser : UrlParser)
    (itemUrl pageHost : String) : Prop :=
  hostMatches parser itemUrl pageHost = true →
    2 ≤ (labels (safeHost parser itemUrl)).length →
      2 ≤ (labels pageHost).length →
        SameDomain (safeHost parser itemUrl) pageHost

/--
The first host is `www` and a top-level domain, the second a host under that
domain whose last two labels are others.
-/
def Exposes (bare other : String) : Prop :=
  ∃ top next : List Char,
    labels bare = [wwwLabel, top] ∧ next ≠ wwwLabel ∧
      [next, top] <:+ labels other

/-- Only the empty text has one empty label. -/
theorem ne_empty_of_labels
    {host : String}
    (several : 2 ≤ (labels host).length) :
    host ≠ "" := by
  rintro rfl
  revert several
  decide

/-- A leading `www` label goes when another follows. -/
theorem withoutWww_cons
    (next : List Char)
    (rest : List (List Char)) :
    withoutWww (wwwLabel :: next :: rest) = next :: rest := by
  simp [withoutWww]

/-- A leading `www` label comes of the prefix `www.`. -/
theorem prefix_of_labels
    {host : String}
    {next : List Char}
    {rest : List (List Char)}
    (shape : labels host = wwwLabel :: next :: rest) :
    "www.".toList <+: host.toList := by
  have whole : host.toList = ['.'].intercalate (labels host) :=
    (List.intercalate_splitOn '.').symm
  rw [whole, shape, List.intercalate_cons_cons]
  exact List.prefix_append (wwwLabel ++ ['.']) _

/-- A list that does not begin with `www` and more loses no label. -/
theorem withoutWww_of_not_www
    {domain : List (List Char)}
    (other : ∀ next rest, domain ≠ wwwLabel :: next :: rest) :
    withoutWww domain = domain := by
  rcases domain with _ | ⟨first, _ | ⟨next, rest⟩⟩
  · rfl
  · rfl
  · have different : first ≠ wwwLabel := by
      rintro rfl
      exact other next rest rfl
    exact if_neg different

/-- Removing the prefix `www.` removes the leading `www` label. -/
theorem labels_withoutPrefix (host : String) :
    (withoutPrefix host.toList).splitOn '.' = withoutWww (labels host) := by
  unfold withoutPrefix
  by_cases starts : "www.".toList <+: host.toList
  · obtain ⟨rest, shape⟩ := starts
    have cut : labels host = wwwLabel :: rest.splitOn '.' := by
      have noDot : '.' ∉ wwwLabel := by decide
      have pieces :
          (wwwLabel ++ '.' :: rest).splitOn '.' = wwwLabel :: rest.splitOn '.' :=
        List.splitOn_append_cons_self_of_not_mem noDot rest
      rw [labels, ← shape]
      exact pieces
    obtain ⟨next, others, more⟩ :=
      List.exists_cons_of_ne_nil (List.splitOn_ne_nil '.' rest)
    have remainder : host.toList.drop 4 = rest := by
      rw [← shape]
      rfl
    rw [if_pos ⟨rest, shape⟩, remainder, cut, more, withoutWww_cons]
  · rw [if_neg starts, withoutWww_of_not_www]
    · rfl
    · intro next rest shape
      exact starts (prefix_of_labels shape)

/-- Without its leading label a domain is a suffix of what it was. -/
theorem withoutWww_isSuffix (domain : List (List Char)) :
    withoutWww domain <:+ domain := by
  rcases domain with _ | ⟨first, _ | ⟨next, rest⟩⟩
  · exact List.suffix_refl _
  · exact List.suffix_refl _
  · by_cases www : first = wwwLabel
    · simp [withoutWww, www]
    · simp [withoutWww, www]

/-- A domain of several labels is cut to one only when it is `www` and that. -/
theorem eq_www_of_withoutWww
    {domain : List (List Char)}
    (several : 2 ≤ domain.length)
    (cut : ¬ 2 ≤ (withoutWww domain).length) :
    ∃ top : List Char, domain = [wwwLabel, top] := by
  rcases domain with _ | ⟨first, _ | ⟨next, rest⟩⟩
  · cases several
  · cases several with
    | step impossible =>
        cases impossible
  · by_cases www : first = wwwLabel
    · have single : rest = [] := by
        simpa [withoutWww, www] using cut
      exact ⟨next, by rw [www, single]⟩
    · simp [withoutWww, www] at cut

/-- The last elements of a list are those of a long enough suffix. -/
theorem rtake_of_isSuffix
    {α : Type}
    {count : Nat}
    {inner outer : List α}
    (suffix : inner <:+ outer)
    (enough : count ≤ inner.length) :
    outer.rtake count = inner.rtake count := by
  obtain ⟨front, rfl⟩ := suffix
  have position :
      (front ++ inner).length - count =
        front.length + (inner.length - count) := by
    rw [List.length_append]
    omega
  rw [List.rtake, List.rtake, position, List.drop_length_add_append]

/-!
## What the comparison decides
-/

/-- The comparison accepts two hosts exactly when their domains are nested. -/
theorem hostsMatch_iff (itemHost pageHost : String) :
    hostsMatch itemHost pageHost = true ↔
      itemHost ≠ "" ∧ pageHost ≠ "" ∧
        Nested (withoutWww (labels itemHost)) (withoutWww (labels pageHost)) := by
  unfold hostsMatch
  by_cases nothing : itemHost = "" ∨ pageHost = ""
  · rw [if_pos nothing]
    constructor
    · intro impossible
      cases impossible
    · rintro ⟨itemGiven, pageGiven, -⟩
      exact absurd nothing (not_or.mpr ⟨itemGiven, pageGiven⟩)
  · obtain ⟨itemGiven, pageGiven⟩ := not_or.mp nothing
    rw [if_neg nothing, Nested, ← labels_withoutPrefix,
      ← labels_withoutPrefix, TextRuns.splitOn_isSuffix_iff,
      TextRuns.splitOn_isSuffix_iff]
    simp only [endsWithDomain, Bool.or_eq_true, decide_eq_true_eq]
    constructor
    · rintro ((same | below) | above)
      · exact ⟨itemGiven, pageGiven, Or.inl (Or.inl same.symm)⟩
      · exact ⟨itemGiven, pageGiven, Or.inr (Or.inr below)⟩
      · exact ⟨itemGiven, pageGiven, Or.inl (Or.inr above)⟩
    · rintro ⟨-, -, (same | above) | (same | below)⟩
      · exact Or.inl (Or.inl same.symm)
      · exact Or.inr above
      · exact Or.inl (Or.inl same)
      · exact Or.inl (Or.inr below)

/-- The two hosts may change places. -/
theorem SameDomain.symm
    {itemHost pageHost : String}
    (same : SameDomain itemHost pageHost) :
    SameDomain pageHost itemHost where
  lastTwo := same.lastTwo.symm
  nested := same.nested.symm

/-- Two domains that keep two labels each, once nested, share the last two. -/
theorem rtake_eq_of_nested
    {inner outer : List (List Char)}
    (nested : Nested (withoutWww inner) (withoutWww outer))
    (innerKeeps : 2 ≤ (withoutWww inner).length)
    (outerKeeps : 2 ≤ (withoutWww outer).length) :
    inner.rtake 2 = outer.rtake 2 := by
  have between :
      (withoutWww inner).rtake 2 = (withoutWww outer).rtake 2 := by
    rcases nested with below | above
    · exact (rtake_of_isSuffix below innerKeeps).symm
    · exact rtake_of_isSuffix above outerKeeps
  calc
    inner.rtake 2 = (withoutWww inner).rtake 2 :=
      rtake_of_isSuffix (withoutWww_isSuffix inner) innerKeeps
    _ = (withoutWww outer).rtake 2 := between
    _ = outer.rtake 2 :=
      (rtake_of_isSuffix (withoutWww_isSuffix outer) outerKeeps).symm

/-- The two labels at the end of a domain that ends with a given one. -/
theorem exists_lastTwo
    {domain : List (List Char)}
    {top : List Char}
    (ends : [top] <:+ domain)
    (several : 2 ≤ domain.length) :
    ∃ next : List Char, [next, top] <:+ domain := by
  obtain ⟨front, rfl⟩ := ends
  rcases List.eq_nil_or_concat front with rfl | ⟨earlier, next, rfl⟩
  · exact absurd several (Nat.lt_irrefl 1)
  · exact ⟨next, earlier, by simp⟩

/--
Where the first host is `www` and a top-level domain, nested domains end in the
same two labels or the second host is exposed.
-/
theorem lastTwo_or_exposes
    {bare other : String}
    {top : List Char}
    (shape : labels bare = [wwwLabel, top])
    (several : 2 ≤ (labels other).length)
    (nested : Nested (withoutWww (labels bare)) (withoutWww (labels other))) :
    (labels bare).rtake 2 = (labels other).rtake 2 ∨ Exposes bare other := by
  have cut : withoutWww (labels bare) = [top] := by
    rw [shape, withoutWww_cons]
  rw [cut] at nested
  have nonempty : withoutWww (labels other) ≠ [] := by
    rw [← labels_withoutPrefix]
    exact List.splitOn_ne_nil '.' _
  have ends : [top] <:+ withoutWww (labels other) := by
    rcases nested with below | above
    · exact below
    · rcases List.suffix_cons_iff.mp above with whole | rest
      · exact whole ▸ List.suffix_refl _
      · exact absurd (List.suffix_nil.mp rest) nonempty
  obtain ⟨next, lastTwo⟩ :=
    exists_lastTwo (ends.trans (withoutWww_isSuffix _)) several
  by_cases www : next = wwwLabel
  · left
    rw [shape, rtake_of_isSuffix lastTwo (Nat.le_refl 2), www]
  · exact Or.inr ⟨top, next, shape, www, lastTwo⟩

/-- Nested domains of several labels are one, unless a host is exposed. -/
theorem sameDomain_or_exposes
    {itemHost pageHost : String}
    (itemSeveral : 2 ≤ (labels itemHost).length)
    (pageSeveral : 2 ≤ (labels pageHost).length)
    (nested :
      Nested (withoutWww (labels itemHost)) (withoutWww (labels pageHost))) :
    SameDomain itemHost pageHost ∨
      Exposes itemHost pageHost ∨ Exposes pageHost itemHost := by
  by_cases itemKeeps : 2 ≤ (withoutWww (labels itemHost)).length
  · by_cases pageKeeps : 2 ≤ (withoutWww (labels pageHost)).length
    · exact Or.inl ⟨rtake_eq_of_nested nested itemKeeps pageKeeps, nested⟩
    · obtain ⟨top, shape⟩ := eq_www_of_withoutWww pageSeveral pageKeeps
      rcases lastTwo_or_exposes shape itemSeveral nested.symm with same | exposed
      · exact Or.inl ⟨same.symm, nested⟩
      · exact Or.inr (Or.inr exposed)
  · obtain ⟨top, shape⟩ := eq_www_of_withoutWww itemSeveral itemKeeps
    rcases lastTwo_or_exposes shape pageSeveral nested with same | exposed
    · exact Or.inl ⟨same, nested⟩
    · exact Or.inr (Or.inl exposed)

/-- Two labels that `www` does not lead survive its removal. -/
theorem lastTwo_withoutWww
    {domain : List (List Char)}
    {next top : List Char}
    (notWww : next ≠ wwwLabel)
    (lastTwo : [next, top] <:+ domain) :
    [next, top] <:+ withoutWww domain := by
  by_cases www : ∃ following rest, domain = wwwLabel :: following :: rest
  · obtain ⟨following, rest, rfl⟩ := www
    rw [withoutWww_cons]
    rcases List.suffix_cons_iff.mp lastTwo with whole | within
    · exact absurd (List.cons.inj whole).1 notWww
    · exact within
  · have unchanged : withoutWww domain = domain :=
      withoutWww_of_not_www fun following rest shape =>
        www ⟨following, rest, shape⟩
    rw [unchanged]
    exact lastTwo

/-- An exposed host matches. -/
theorem Exposes.nested
    {bare other : String}
    (exposed : Exposes bare other) :
    Nested (withoutWww (labels bare)) (withoutWww (labels other)) := by
  obtain ⟨top, next, shape, notWww, lastTwo⟩ := exposed
  have cut : withoutWww (labels bare) = [top] := by
    rw [shape, withoutWww_cons]
  have kept : [next, top] <:+ withoutWww (labels other) :=
    lastTwo_withoutWww notWww lastTwo
  left
  rw [cut]
  exact (List.suffix_cons next [top]).trans kept

/-- An exposed host and the one that exposes it have several labels. -/
theorem Exposes.several
    {bare other : String}
    (exposed : Exposes bare other) :
    2 ≤ (labels bare).length ∧ 2 ≤ (labels other).length := by
  obtain ⟨top, next, shape, -, lastTwo⟩ := exposed
  constructor
  · rw [shape]
    exact Nat.le_refl 2
  · exact lastTwo.length_le

/-- An exposed host lies in another domain. -/
theorem Exposes.not_sameDomain
    {bare other : String}
    (exposed : Exposes bare other) :
    ¬ SameDomain bare other := by
  obtain ⟨top, next, shape, notWww, lastTwo⟩ := exposed
  intro same
  have ends := same.lastTwo
  rw [shape, rtake_of_isSuffix lastTwo (Nat.le_refl 2)] at ends
  exact notWww (List.cons.inj ends).1.symm

/-- Nested hosts of several labels match. -/
theorem hostsMatch_of_nested
    {itemHost pageHost : String}
    (itemSeveral : 2 ≤ (labels itemHost).length)
    (pageSeveral : 2 ≤ (labels pageHost).length)
    (nested :
      Nested (withoutWww (labels itemHost)) (withoutWww (labels pageHost))) :
    hostsMatch itemHost pageHost = true :=
  (hostsMatch_iff itemHost pageHost).mpr
    ⟨ne_empty_of_labels itemSeveral, ne_empty_of_labels pageSeveral, nested⟩

/--
A saved URL matches pages within its own domain only, except where either host
is `www` and a top-level domain and the other host lies under that domain
without ending in these two labels.
-/
theorem matchesWithinDomain_iff
    (parser : UrlParser)
    (itemUrl pageHost : String) :
    MatchesWithinDomain parser itemUrl pageHost ↔
      ¬ Exposes (safeHost parser itemUrl) pageHost ∧
        ¬ Exposes pageHost (safeHost parser itemUrl) := by
  constructor
  · intro within
    constructor
    · intro exposed
      obtain ⟨itemSeveral, pageSeveral⟩ := exposed.several
      have matched :=
        hostsMatch_of_nested itemSeveral pageSeveral exposed.nested
      exact exposed.not_sameDomain (within matched itemSeveral pageSeveral)
    · intro exposed
      obtain ⟨pageSeveral, itemSeveral⟩ := exposed.several
      have matched :=
        hostsMatch_of_nested itemSeveral pageSeveral exposed.nested.symm
      exact exposed.not_sameDomain
        (within matched itemSeveral pageSeveral).symm
  · rintro ⟨pageSafe, itemSafe⟩ matched itemSeveral pageSeveral
    obtain ⟨-, -, nested⟩ := (hostsMatch_iff _ _).mp matched
    rcases sameDomain_or_exposes itemSeveral pageSeveral nested with
      same | exposed | exposed
    · exact same
    · exact absurd exposed pageSafe
    · exact absurd exposed itemSafe

/-- A parser for `https` URLs without a port, user or query. -/
def httpsParser : UrlParser where
  hostname := fun url =>
    let rest := url.toList.drop 8
    if "https://".toList.isPrefixOf url.toList &&
        rest.all fun symbol => symbol.toNat < 128 then
      some (String.ofList (rest.takeWhile (· ≠ '/')))
    else none
  ascii := by
    intro url host parsed symbol member
    obtain ⟨isAscii, same⟩ := Option.ite_none_right_eq_some.mp parsed
    have ascii := List.all_eq_true.mp (Bool.and_eq_true_iff.mp isAscii).2
    rw [← Option.some.inj same, String.toList_ofList] at member
    exact of_decide_eq_true (ascii symbol (List.takeWhile_subset _ member))

/--
A login saved for `bank.com` is offered to a page on `www.com`, and one saved
for `www.com` to a page on `phish.com`.
-/
theorem bareWww_matches :
    hostMatches httpsParser "https://bank.com/login" "www.com" = true ∧
      ¬ MatchesWithinDomain httpsParser "https://bank.com/login" "www.com" ∧
      ¬ MatchesWithinDomain httpsParser "https://www.com/" "phish.com" := by
  have bankMatches :
      hostMatches httpsParser "https://bank.com/login" "www.com" = true := by
    decide +kernel
  refine ⟨bankMatches, ?_, ?_⟩
  · intro within
    have same := within bankMatches (by decide +kernel) (by decide +kernel)
    have ends := same.lastTwo
    revert ends
    decide +kernel
  · intro within
    have same :=
      within (by decide +kernel) (by decide +kernel) (by decide +kernel)
    have ends := same.lastTwo
    revert ends
    decide +kernel

end Passwd.Autofill
