import Passwd.HttpRoutes
import Passwd.InteractionGates
import Passwd.RequestScope

namespace Passwd.Server

open Base64 Interaction

/-!
# Messages as requests

A server that serves messages is a server that serves requests behind a gate.
In every run of it, whatever arrives and however the calls interleave, each
message either makes no call of a handler, or is served as one request that its
route reads from it, after the limiter has let it through or its access token
has been accepted; the user ID of the request is the subject of that token.
-/

/-- The state that messages share. -/
structure FrontState where
  limiter : RateLimiter
  state : State

/-- What decides the answers besides the state. -/
structure FrontChoice where
  now : Time
  server : Choice

/-- The effect of one call of a server that serves messages. -/
def executeHTTP
    (backend : Backend)
    (choice : FrontChoice)
    (shared : FrontState) :
    (operation : httpCalls.Operation) →
      httpCalls.Answer operation × FrontState
  | .inl (.allow key) =>
      let answered := shared.limiter.allow choice.now key
      (answered.1, { shared with limiter := answered.2 })
  | .inl .now => (choice.now, shared)
  | .inr operation =>
      let answered := execute backend choice.server shared.state operation
      (answered.1, { shared with state := answered.2 })

/-!
## Routes and their requests
-/

/-- A guarded route makes requests of the user that its guard names. -/
def Route.Guards (route : Route) : Prop :=
  ∀ arrived,
    match route.guard with
    | .unguarded => route.request arrived = none
    | .rateLimit =>
        ∃ request,
          route.request arrived = some request ∧ request.subject = none
    | .requireAuth =>
        ∃ request,
          route.request arrived = some request ∧
            request.subject = some arrived.userID

/-- A route behind `rateLimit`. -/
theorem guards_limited
    {method : String}
    {path : List String}
    {request : Bytes → Request}
    (anonymous : ∀ body, (request body).subject = none) :
    (limited method path request).Guards :=
  fun arrived => ⟨_, rfl, anonymous arrived.body⟩

/-- A route behind `requireAuth`. -/
theorem guards_authorized
    {method : String}
    {pattern : List Segment}
    {request : Arrived → Request}
    (owned : ∀ arrived, (request arrived).subject = some arrived.userID) :
    (authorized method pattern request).Guards :=
  fun arrived => ⟨_, rfl, owned arrived⟩

/-- Every route makes requests of the user that its guard names. -/
theorem guards_routes : ∀ route ∈ routes, route.Guards := by
  simp only [routes, List.forall_mem_cons]
  refine ⟨fun _ => rfl, ?_⟩
  repeat' first
    | exact guards_limited fun _ => rfl
    | exact guards_authorized fun _ => rfl
    | refine ⟨?_, ?_⟩
    | exact fun _ member => absurd member List.not_mem_nil

/-- The mux finds routes of the table. -/
theorem mem_routes_of_findHandler
    {method : String}
    {path : Bytes}
    {route : Route}
    {values : List Bytes}
    (found : findHandler method path = .route route values) :
    route ∈ routes := by
  unfold findHandler at found
  split at found
  · cases found
  · simp only [] at found
    split at found
    · rename_i isFound
      cases found
      have member := List.mem_of_find?_eq_some isFound
      obtain ⟨source, isRoute, matched⟩ := List.mem_filterMap.mp member
      obtain ⟨_, _, same⟩ := Option.map_eq_some_iff.mp matched
      cases same
      exact isRoute
    · split at found
      · cases found
      · cases found

/-!
## The gate
-/

/-- A message reaches a route. -/
structure Message.Reaches
    (m : Message)
    (url : Url)
    (route : Route)
    (values : List Bytes) :
    Prop where
  target : parseRequestURI m.RequestURI = some url
  method : m.Method ≠ "OPTIONS"
  found : findHandler m.Method url.EscapedPath = .route route values

namespace Front

variable (front : Front) (env : Environment)

/-- What a guard has asked when it lets a message in, and for whom. -/
inductive LetsIn (m : Message) :
    Guard → String → History httpCalls → Prop where
  | allowed :
      LetsIn m .rateLimit ""
        [⟨.inl (.allow (clientIP front.trustedProxies m.peer)), true⟩]
  | subject {now : Time} {userID : String} :
      front.tokens.requireAuth front.jwtSecret now m.Authorization =
        .ok userID →
      LetsIn m .requireAuth userID [⟨.inl .now, now⟩]

/-- A message is admitted as a request. -/
def Admits
    (m : Message)
    (asked : History httpCalls)
    (request : Request) :
    Prop :=
  ∃ url route values userID,
    m.Reaches url route values ∧
      route.request (m.arrived url.RawQuery values userID) = some request ∧
      front.LetsIn m route.guard userID asked

/-- The response to a message whose request was answered. -/
def finish (m : Message) (response : Response) : HttpResponse where
  status := response.status
  headers := front.corsHeaders m.Origin ++ front.securityHeaders
  content := .json response.body

/-- The handler of a request, with what the middleware does afterwards. -/
theorem handle_bind
    {route : Route}
    {arrived : Arrived}
    {request : Request}
    (isRequest : route.request arrived = some request)
    (m : Message) :
    (handle env route arrived >>= fun answer =>
        .done
          { status := answer.1
            headers := front.corsHeaders m.Origin ++ front.securityHeaders
            content := answer.2 }) =
      (serve env request).beyond frontCalls (front.finish m) := by
  rw [handle, isRequest]
  exact Program.bind_assoc _ _ _

/-- A message is served behind a gate. -/
theorem gated_serveHTTP (m : Message) :
    Program.Gated (serve env) (front.finish m) (front.Admits m) []
      (front.serveHTTP env m) := by
  unfold serveHTTP
  cases target : parseRequestURI m.RequestURI with
  | none => trivial
  | some url =>
      by_cases preflight : m.Method = "OPTIONS"
      · simp only [preflight, if_true]
        trivial
      · simp only [preflight, if_false]
        unfold serveMux
        cases found : findHandler m.Method url.EscapedPath with
        | moved => trivial
        | notFound => trivial
        | methodNotAllowed => trivial
        | route route values =>
            have reached : m.Reaches url route values :=
              ⟨target, preflight, found⟩
            have guards :=
              guards_routes route (mem_routes_of_findHandler found)
            simp only []
            unfold serveRoute
            cases isGuard : route.guard with
            | unguarded =>
                have health := guards (m.arrived url.RawQuery values "")
                simp only [isGuard] at health
                simp only [handle, health]
                trivial
            | rateLimit =>
                have read := guards (m.arrived url.RawQuery values "")
                simp only [isGuard] at read
                obtain ⟨request, isRequest, -⟩ := read
                intro allowed
                cases allowed with
                | false => exact .inr trivial
                | true =>
                    refine .inl ⟨request, ?_,
                      front.handle_bind env isRequest m⟩
                    refine ⟨url, route, values, "", reached, isRequest, ?_⟩
                    rw [isGuard]
                    exact .allowed
            | requireAuth =>
                intro now
                simp only []
                cases accepted :
                    front.tokens.requireAuth front.jwtSecret now
                      m.Authorization with
                | error refusal => exact .inr trivial
                | ok userID =>
                    have read := guards (m.arrived url.RawQuery values userID)
                    simp only [isGuard] at read
                    obtain ⟨request, isRequest, -⟩ := read
                    refine .inl ⟨request, ?_,
                      front.handle_bind env isRequest m⟩
                    refine ⟨url, route, values, userID, reached, isRequest, ?_⟩
                    rw [isGuard]
                    exact .subject accepted

/-- A request that was admitted is one of the user it was admitted for. -/
theorem subject_of_admits
    {m : Message}
    {asked : History httpCalls}
    {request : Request}
    (admits : front.Admits m asked request) :
    (request.subject = none ∧
        asked =
          [⟨.inl (.allow (clientIP front.trustedProxies m.peer)), true⟩]) ∨
      ∃ now userID,
        request.subject = some userID ∧ asked = [⟨.inl .now, now⟩] ∧
          front.tokens.requireAuth front.jwtSecret now m.Authorization =
            .ok userID := by
  obtain ⟨url, route, values, userID, reached, isRequest, letsIn⟩ := admits
  have guards :=
    guards_routes route (mem_routes_of_findHandler reached.found)
      (m.arrived url.RawQuery values userID)
  generalize isGuard : route.guard = guard at letsIn guards
  cases letsIn with
  | allowed =>
      obtain ⟨read, isRead, anonymous⟩ := guards
      rw [isRequest] at isRead
      cases isRead
      exact .inl ⟨anonymous, rfl⟩
  | @subject now _ accepted =>
      obtain ⟨read, isRead, owned⟩ := guards
      rw [isRequest] at isRead
      cases isRead
      exact .inr ⟨now, userID, owned, rfl, accepted⟩

end Front

/-!
## Runs
-/

/-- A server that serves messages and has not begun. -/
def listening
    (front : Front)
    (env : Environment)
    (shared : FrontState)
    (messages : Nat → Message) :
    Configuration httpCalls FrontState HttpResponse :=
  .initial shared fun process => front.serveHTTP env (messages process)

section Runs

variable {backend : Backend} {front : Front} {env : Environment}
  {shared : FrontState} {messages : Nat → Message}
  {allowed :
    Configuration httpCalls FrontState HttpResponse → Nat → FrontChoice → Prop}
  {final : Configuration httpCalls FrontState HttpResponse}

/-- A run of messages beside a run of the requests that were admitted. -/
theorem follows_of_reaches
    (reaches :
      Configuration.Reaches (executeHTTP backend) allowed
        (listening front env shared messages) final) :
    ∃ requests served,
      Follows (execute backend) FrontState.state (serve env)
        (fun process => front.finish (messages process))
        (fun process => front.Admits (messages process)) shared.state final
        requests served := by
  have frames (choice : FrontChoice) (shared : FrontState) operation :
      (executeHTTP backend choice shared (.inl operation)).2.state =
        shared.state := by
    cases operation with
    | allow key => rfl
    | now => rfl
  have carries (choice : FrontChoice) (shared : FrontState) operation :
      execute backend choice.server shared.state operation =
        ((executeHTTP backend choice shared (.inr operation)).1,
          (executeHTTP backend choice shared (.inr operation)).2.state) :=
    rfl
  exact reaches.gated frames carries
    (fun process => front.gated_serveHTTP env (messages process))
    (.prelogin none)

/--
Every run of messages, whatever they are and however their calls interleave, is
a run of requests: the handlers make the same calls in the same order, are
answered alike and leave the same state.  A message that is not admitted makes
none of these calls, and one that is admitted has first been let in by the guard
of its route and then is at every moment what is left of its request, whose
response it finishes with its headers.
-/
theorem messages_refine
    (reaches :
      Configuration.Reaches (executeHTTP backend) allowed
        (listening front env shared messages) final) :
    ∃ requests served,
      Configuration.Reaches (execute backend) Configuration.anyStep
          (serving env shared.state requests) served ∧
        served.state = final.state.state ∧
        served.trace = secondTrace frontCalls final.trace ∧
        ∀ process,
          (final.trace.ofProcess process).filterMap
              (Program.secondExchange? frontCalls) = [] ∧
            served.pool process = serve env (requests process) ∨
          ∃ asked own,
            final.trace.ofProcess process = asked ++ own ∧
              front.Admits (messages process) asked (requests process) ∧
              final.pool process =
                (served.pool process).beyond frontCalls
                  (front.finish (messages process)) := by
  obtain ⟨requests, served, follows⟩ := follows_of_reaches reaches
  refine ⟨requests, served, follows.reaches, follows.state, follows.trace, ?_⟩
  intro process
  have stage := follows.stage process
  generalize final.pool process = program at stage
  generalize served.pool process = remaining at stage
  cases stage with
  | outside gated quiet => exact .inl ⟨quiet, rfl⟩
  | @admitted asked own _ split quiet admission =>
      exact .inr ⟨asked, own, split, admission, rfl⟩

end Runs

/-- A front whose tokens are signed with the texts themselves. -/
def plainFront : Front where
  allowedOrigins := []
  trustedProxies := []
  isProduction := false
  jwtSecret := bytesOf plainEnvironment.jwtSecret
  tokens := jsonTokens fun key message => key ++ bytesOf "|" ++ message

/-- A peer without a proxy. -/
def localPeer : HttpRequest where
  RemoteAddr := "127.0.0.1:4000"
  xForwardedFor := none

/-- One message stores a cipher, and the others carry no token. -/
def storingMessages : Nat → Message
  | 0 =>
      { Method := "POST"
        RequestURI := slash :: bytesOf "api/ciphers"
        origin_form := rfl
        Authorization :=
          bytesOf ("Bearer " ++ plainEnvironment.issueAccessToken "u" 0)
        Origin := []
        Body := bytesOf "\x7b\"data\":\"d\"\x7d"
        peer := localPeer }
  | _ =>
      { Method := "GET"
        RequestURI := slash :: bytesOf "api/sync"
        origin_form := rfl
        Authorization := []
        Origin := []
        Body := []
        peer := localPeer }

/-- An empty store behind a limiter. -/
def emptyFront : FrontState where
  limiter := { limit := 60, window := 60 * second, counters := .empty }
  state := .empty

/-- The messages are served, the second one while the first one is. -/
def storedOverHTTP : Configuration httpCalls FrontState HttpResponse :=
  (listening plainFront plainEnvironment emptyFront storingMessages).follow
    (executeHTTP .memory)
    ([0, 0, 0, 1, 0, 0, 0, 0].map fun process =>
      (process, { now := 1, server := moment 1 }))

/-- The message that stores a cipher was admitted before it did. -/
theorem storedOverHTTP_refines :
    ∃ requests served,
      Configuration.Reaches (execute .memory) Configuration.anyStep
          (serving plainEnvironment .empty requests) served ∧
        served.state = storedOverHTTP.state.state ∧
        ∃ asked,
          plainFront.Admits (storingMessages 0) asked (requests 0) := by
  obtain ⟨requests, served, reaches, state, -, stages⟩ :=
    @messages_refine .memory plainFront plainEnvironment emptyFront
      storingMessages Configuration.anyStep storedOverHTTP (.of_follow _ _)
  refine ⟨requests, served, reaches, state, ?_⟩
  have stored :
      ((storedOverHTTP.trace.ofProcess 0).filterMap
          (Program.secondExchange? frontCalls)).isEmpty =
        false := by
    decide +kernel
  rcases stages 0 with ⟨quiet, -⟩ | ⟨asked, _, -, admits, -⟩
  · rw [quiet] at stored
    cases stored
  · exact ⟨asked, admits⟩

end Passwd.Server
