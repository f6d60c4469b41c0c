import Passwd.ClientAddresses
import Passwd.FixedWindow

namespace Passwd.Server

open FixedWindow

/-!
# Rate limits

The limiter keeps one fixed window for each key.  Whatever the order of the keys
in a sequence of calls, the calls of one key are answered as a window of its own
answers them.
-/

/-- `newRateLimiter` -/
def newRateLimiter (limit : Int) (window : Time) : RateLimiter where
  limit := limit
  window := window
  counters := .empty

/-- The limiter of `New`, for the rate of the configuration. -/
def serverLimiter (authRateLimitPerMin : Int) : RateLimiter :=
  let rate := if authRateLimitPerMin ≤ 0 then 60 else authRateLimitPerMin
  newRateLimiter rate (60 * second)

/-- A call of `allow`: when, and with which key. -/
abbrev Call := Time × String

namespace RateLimiter

/-- The answers to calls. -/
def answers : RateLimiter → List Call → List Bool
  | _, [] => []
  | rl, (now, key) :: later =>
      (rl.allow now key).1 :: (rl.allow now key).2.answers later

/-- The limiter after calls. -/
def afterCalls (rl : RateLimiter) (calls : List Call) : RateLimiter :=
  calls.foldl (fun rl call => (rl.allow call.1 call.2).2) rl

/-- The calls with their answers. -/
def answered (rl : RateLimiter) (calls : List Call) : List (Call × Bool) :=
  calls.zip (rl.answers calls)

/-- The answers to the calls of one key. -/
def answersOf (rl : RateLimiter) (key : String) (calls : List Call) :
    List Bool :=
  ((rl.answered calls).filter fun entry => entry.1.2 = key).map Prod.snd

/-- How many calls of one key are allowed in a closed interval. -/
def allowedWithin
    (rl : RateLimiter)
    (key : String)
    (low high : Time)
    (calls : List Call) : Nat :=
  ((rl.answered calls).filter fun entry =>
    entry.2 && entry.1.2 = key && low ≤ entry.1.1 && entry.1.1 ≤ high).length

/-- The times of the calls of one key. -/
def timesOf (key : String) (calls : List Call) : List Int :=
  (calls.filter fun call => call.2 = key).map Prod.fst

/-- The counter of a key is a window. -/
def Tracks
    (rl : RateLimiter)
    (key : String)
    (window : Option Window) : Prop :=
  rl.counters.find? key =
    window.map fun w =>
      { key := key, count := w.used, resetAt := w.start + rl.window }

/-- A call keeps the limit and the length of the windows. -/
theorem allow_keeps (rl : RateLimiter) (now : Time) (key : String) :
    (rl.allow now key).2.limit = rl.limit ∧
      (rl.allow now key).2.window = rl.window := by
  unfold allow
  split
  · exact ⟨rfl, rfl⟩
  · split
    · exact ⟨rfl, rfl⟩
    · split
      · exact ⟨rfl, rfl⟩
      · exact ⟨rfl, rfl⟩

/-- A call of the key is a step of its window. -/
theorem allow_of_tracks
    {rl : RateLimiter}
    {key : String}
    {window : Option Window}
    (tracks : rl.Tracks key window)
    (now : Time) :
    (rl.allow now key).1 = (step rl.limit rl.window window now).1 ∧
      (rl.allow now key).2.Tracks key
        (some (step rl.limit rl.window window now).2) := by
  unfold Tracks at tracks ⊢
  cases window with
  | none =>
      simp only [Option.map_none] at tracks
      simp [allow, tracks, step, restart, Table.find?_upsert, Window.opened]
  | some w =>
      simp only [Option.map_some] at tracks
      rcases step_cases rl.limit rl.window w now with
        ⟨ended, same⟩ | ⟨running, usedUp, same⟩ | ⟨running, room, same⟩
      · simp [allow, tracks, same, ended, restart, Table.find?_upsert,
          Window.opened]
      · simp [allow, tracks, same, running, usedUp]
      · simp [allow, tracks, same, running, Int.not_le.mpr room,
          Table.find?_upsert, Window.admit]

/-- A call of another key leaves a window alone. -/
theorem tracks_of_other
    {rl : RateLimiter}
    {key other : String}
    {window : Option Window}
    (tracks : rl.Tracks key window)
    (different : other ≠ key)
    (now : Time) :
    (rl.allow now other).2.Tracks key window := by
  unfold Tracks at tracks ⊢
  rw [(rl.allow_keeps now other).2, ← tracks]
  unfold allow
  cases found : rl.counters.find? other with
  | none =>
      simp [restart, Table.find?_upsert, different]
  | some e =>
      have own : e.key = other :=
        Table.key_of_find? found
      simp only
      split
      · simp [restart, Table.find?_upsert, different]
      · split
        · rfl
        · simp [Table.find?_upsert, own, different]

/-- Every call has an answer. -/
theorem length_answers (rl : RateLimiter) (calls : List Call) :
    (rl.answers calls).length = calls.length := by
  induction calls generalizing rl with
  | nil =>
      rfl
  | cons call later inductionHypothesis =>
      exact congrArg Nat.succ (inductionHypothesis _)

/-- Where all calls have one key, the answers are those of the key. -/
theorem answersOf_of_own
    {key : String}
    {calls : List Call}
    (own : ∀ call ∈ calls, call.2 = key)
    (rl : RateLimiter) :
    rl.answersOf key calls = rl.answers calls := by
  have all :
      ((rl.answered calls).filter fun entry => entry.1.2 = key) =
        rl.answered calls := by
    apply List.filter_eq_self.mpr
    intro entry member
    exact decide_eq_true (own entry.1 (List.of_mem_zip member).1)
  rw [answersOf, all, answered]
  exact List.map_snd_zip (Nat.le_of_eq (rl.length_answers calls))

/-- The answers to the calls of a key are those of its window alone. -/
theorem answersOf_eq
    {rl : RateLimiter}
    {key : String}
    {window : Option Window}
    (tracks : rl.Tracks key window)
    (calls : List Call) :
    rl.answersOf key calls =
      FixedWindow.answers rl.limit rl.window window (timesOf key calls) := by
  unfold answersOf answered timesOf
  induction calls generalizing rl window with
  | nil =>
      rfl
  | cons call later inductionHypothesis =>
      obtain ⟨now, called⟩ := call
      obtain ⟨sameLimit, sameWindow⟩ := rl.allow_keeps now called
      by_cases same : called = key
      · subst called
        obtain ⟨sameAnswer, next⟩ := allow_of_tracks tracks now
        have others := inductionHypothesis next
        rw [sameLimit, sameWindow] at others
        simp only [answers, List.zip_cons_cons, List.filter_cons, decide_true,
          ↓reduceIte, List.map_cons, FixedWindow.answers, others, sameAnswer]
      · have others :=
          inductionHypothesis (tracks_of_other tracks same now)
        rw [sameLimit, sameWindow] at others
        simp only [answers, List.zip_cons_cons, List.filter_cons, same,
          decide_false, Bool.false_eq_true, ↓reduceIte, others]

/-- The calls of a key that are allowed are those that its window admits. -/
theorem allowedWithin_eq
    {rl : RateLimiter}
    {key : String}
    {window : Option Window}
    (tracks : rl.Tracks key window)
    (low high : Time)
    (calls : List Call) :
    rl.allowedWithin key low high calls =
      admitted rl.limit rl.window low high window (timesOf key calls) := by
  unfold allowedWithin answered timesOf
  induction calls generalizing rl window with
  | nil =>
      rfl
  | cons call later inductionHypothesis =>
      obtain ⟨now, called⟩ := call
      obtain ⟨sameLimit, sameWindow⟩ := rl.allow_keeps now called
      by_cases same : called = key
      · subst called
        obtain ⟨sameAnswer, next⟩ := allow_of_tracks tracks now
        have others := inductionHypothesis next
        rw [sameLimit, sameWindow] at others
        simp only [answers, List.zip_cons_cons, List.filter_cons, decide_true,
          Bool.and_true, ↓reduceIte, List.map_cons, admitted, ← others,
          sameAnswer]
        split
        · exact Nat.add_comm _ 1
        · exact (Nat.zero_add _).symm
      · have others :=
          inductionHypothesis (tracks_of_other tracks same now)
        rw [sameLimit, sameWindow] at others
        simp only [answers, List.zip_cons_cons, List.filter_cons, same,
          decide_false, Bool.and_false, Bool.false_and, Bool.false_eq_true,
          ↓reduceIte, others]

/-- The counter of a key after calls is its window after their times. -/
theorem tracks_afterCalls
    {rl : RateLimiter}
    {key : String}
    {window : Option Window}
    (tracks : rl.Tracks key window)
    (calls : List Call) :
    (rl.afterCalls calls).Tracks key
        (after rl.limit rl.window window (timesOf key calls)) ∧
      (rl.afterCalls calls).limit = rl.limit ∧
      (rl.afterCalls calls).window = rl.window := by
  unfold afterCalls timesOf
  induction calls generalizing rl window with
  | nil =>
      exact ⟨tracks, rfl, rfl⟩
  | cons call later inductionHypothesis =>
      obtain ⟨now, called⟩ := call
      obtain ⟨sameLimit, sameWindow⟩ := rl.allow_keeps now called
      by_cases same : called = key
      · subst called
        have others := inductionHypothesis (allow_of_tracks tracks now).2
        rw [sameLimit, sameWindow] at others
        simpa [after] using others
      · have others :=
          inductionHypothesis (tracks_of_other tracks same now)
        rw [sameLimit, sameWindow] at others
        simpa [same] using others

/-- A new limiter has no window. -/
theorem tracks_newRateLimiter
    (limit : Int)
    (window : Time)
    (key : String) :
    (newRateLimiter limit window).Tracks key none :=
  rfl

/-- Within an interval of one window, twice the limit is allowed at most. -/
theorem allowedWithin_le_twice
    {limit : Int}
    {window : Time}
    {calls : List Call}
    (atLeastOne : 1 ≤ limit)
    (ordered : calls.Pairwise fun earlier later => earlier.1 ≤ later.1)
    (key : String)
    (low : Time) :
    ((newRateLimiter limit window).allowedWithin key low (low + window)
      calls : Int) ≤ 2 * limit := by
  have times : (timesOf key calls).Pairwise (· ≤ ·) :=
    List.pairwise_map.mpr (ordered.filter _)
  rw [allowedWithin_eq (tracks_newRateLimiter limit window key)]
  refine admitted_le_twice times atLeastOne (fun w opened => ?_) low
  cases opened

/-- A request goes on exactly when its call is allowed. -/
theorem rateLimit_eq_none_iff
    (trustedProxies : List String)
    (rl : RateLimiter)
    (now : Time)
    (r : HttpRequest) :
    (rateLimit trustedProxies rl now r).1 = none ↔
      (rl.allow now (clientIP trustedProxies r)).1 = true := by
  unfold rateLimit
  cases allowed : (rl.allow now (clientIP trustedProxies r)).1 with
  | false =>
      simp [allowed]
  | true =>
      simp [allowed]

/--
Of the requests that a server counts under one address, whatever its
configuration, twice the rate at most are let through within a minute.
-/
theorem serverLimiter_bound
    (authRateLimitPerMin : Int)
    (trustedProxies : List String)
    {arrivals : List (Time × HttpRequest)}
    (ordered : arrivals.Pairwise fun earlier later => earlier.1 ≤ later.1)
    (address : String)
    (low : Time) :
    ((serverLimiter authRateLimitPerMin).allowedWithin address low
      (low + 60 * second)
      (arrivals.map fun arrival =>
        (arrival.1, clientIP trustedProxies arrival.2)) : Int) ≤
      2 * (if authRateLimitPerMin ≤ 0 then 60 else authRateLimitPerMin) := by
  have atLeastOne :
      1 ≤ (if authRateLimitPerMin ≤ 0 then 60 else authRateLimitPerMin) := by
    split
    · decide
    · omega
  exact allowedWithin_le_twice atLeastOne (List.pairwise_map.mpr ordered)
    address low

/--
In every sequence of calls, at most twice the limit of the calls of a key are
allowed within any closed interval of one window length; the answers to the calls
of a key are those that it gets without the calls of other keys; and a call more
than one window after the key's last window began is allowed.
-/
theorem rate_limiter_bounds
    {limit : Int}
    {window : Time}
    {calls : List Call}
    (atLeastOne : 1 ≤ limit)
    (ordered : calls.Pairwise fun earlier later => earlier.1 ≤ later.1) :
    (∀ (key : String) (low : Time),
      ((newRateLimiter limit window).allowedWithin key low (low + window)
        calls : Int) ≤ 2 * limit) ∧
    (∀ key : String,
      (newRateLimiter limit window).answersOf key calls =
        (newRateLimiter limit window).answers
          (calls.filter fun call => call.2 = key)) ∧
    ∀ (key : String) (start now : Time),
      lastStart window (timesOf key calls) = some start →
        start + window < now →
          (((newRateLimiter limit window).afterCalls calls).allow
            now key).1 = true := by
  have fresh := tracks_newRateLimiter limit window
  refine ⟨?_, ?_, ?_⟩
  · intro key low
    exact allowedWithin_le_twice atLeastOne ordered key low
  · intro key
    have ownCalls :
        ∀ call ∈ calls.filter fun call => call.2 = key, call.2 = key :=
      fun call member => of_decide_eq_true (List.mem_filter.mp member).2
    have own :
        timesOf key (calls.filter fun call => call.2 = key) =
          timesOf key calls := by
      simp [timesOf, List.filter_filter]
    rw [← answersOf_of_own ownCalls, answersOf_eq (fresh key), answersOf_eq (fresh key), own]
  · intro key start now last ended
    obtain ⟨tracks, sameLimit, sameWindow⟩ :=
      tracks_afterCalls (fresh key) calls
    rw [(allow_of_tracks tracks now).1, sameLimit, sameWindow]
    exact admits_after_end last ended

/-- Two calls of one key and one of another, with a limit of one. -/
theorem rate_limiter_bounds_of_three :
    ((newRateLimiter 1 10).allowedWithin "a" 0 (0 + 10)
        [(0, "a"), (4, "b"), (10, "a")] : Int) ≤ 2 * 1 ∧
      (((newRateLimiter 1 10).afterCalls
        [(0, "a"), (4, "b"), (10, "a")]).allow 11 "a").1 = true := by
  have ordered :
      [((0 : Time), "a"), (4, "b"), (10, "a")].Pairwise
        fun earlier later => earlier.1 ≤ later.1 := by
    decide
  have bounds := @rate_limiter_bounds 1 10 _ (by decide) ordered
  exact ⟨bounds.1 "a" 0, bounds.2.2 "a" 0 11 (by decide) (by decide)⟩

end RateLimiter

end Passwd.Server
