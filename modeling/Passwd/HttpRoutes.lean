import Passwd.ClientAddresses
import Passwd.InteractionLayers
import Passwd.PercentText
import Passwd.RequestBodies

namespace Passwd.Server

open Base64 Interaction

/-!
# Messages and routes

What happens to an HTTP request before a handler serves it: `net/http` takes the
target apart, the middleware answers preflights and sets headers, and the mux
picks the route whose method and path match.  A route behind `requireAuth` goes
on with the subject of the access token, one behind `rateLimit` when the limiter
allows the address of the peer.

Targets are in origin form.  Panics, which `recoverer` answers, the log, and the
headers and pages that the mux adds to a redirect or a refusal are left out.
-/

/-!
## Targets
-/

/-- The byte between two segments of a path. -/
def slash : UInt8 := 0x2f

/--
A request as `net/http` hands it over; a header that is not sent is empty.
-/
structure Message where
  Method : String
  RequestURI : Bytes
  origin_form : RequestURI.head? = some slash
  Authorization : Bytes
  Origin : Bytes
  Body : Bytes
  peer : HttpRequest

/-- A letter or a digit of ASCII. -/
def isAlphanumeric (byte : UInt8) : Bool :=
  (0x30 ≤ byte && byte ≤ 0x39) || (0x41 ≤ byte && byte ≤ 0x5a) ||
    (0x61 ≤ byte && byte ≤ 0x7a)

/-- One of the characters of a list. -/
def isOneOf (symbols : List Char) (byte : UInt8) : Bool :=
  octetChar byte ∈ symbols

/-- What `escape` leaves alone in a path. -/
def keptInPath (byte : UInt8) : Bool :=
  isAlphanumeric byte ||
    isOneOf ['-', '_', '.', '~', '$', '&', '+', ',', '/', ':', ';', '=', '@']
      byte

/-- `validEncoded`, of a path. -/
def validEncoded (path : Bytes) : Bool :=
  path.all fun byte =>
    keptInPath byte || byte = 0x27 ||
      isOneOf ['!', '(', ')', '*', '[', ']', '%'] byte

/-- The parts of a `url.URL` that are read. -/
structure Url where
  EscapedPath : Bytes
  RawQuery : Bytes

/-- `url.ParseRequestURI` of a target in origin form. -/
def parseRequestURI (rawURL : Bytes) : Option Url :=
  if rawURL.any fun byte => byte < 0x20 || byte = 0x7f then
    none
  else
    let path := rawURL.takeWhile (octetChar · ≠ '?')
    (Percent.decode id path).map fun decoded =>
      { EscapedPath :=
          if validEncoded path then
            path
          else
            Percent.encode keptInPath decoded
        RawQuery := (rawURL.dropWhile (octetChar · ≠ '?')).drop 1 }

/-- `url.QueryUnescape` -/
def queryUnescape : Bytes → Option Bytes :=
  Percent.decode fun byte => if octetChar byte = '+' then 0x20 else byte

/-- One pair of a query, unless it is malformed. -/
def queryPair (pair : Bytes) : Option (Bytes × Bytes) :=
  if pair = [] ∨ pair.any (isOneOf [';']) then
    none
  else
    (queryUnescape (pair.takeWhile (octetChar · ≠ '='))).bind fun key =>
      (queryUnescape ((pair.dropWhile (octetChar · ≠ '=')).drop 1)).map
        fun value => (key, value)

/-- `url.ParseQuery` -/
def parseQuery (query : Bytes) : List (Bytes × Bytes) :=
  (query.splitOn 0x26).filterMap queryPair

/-- `Get` of the values in a query. -/
def queryGet (query : Bytes) (key : String) : String :=
  match (parseQuery query).find? fun pair => pair.1 = bytesOf key with
  | none => ""
  | some pair => goText pair.2

/-!
## Paths
-/

/-- The segments of a path that begins with a slash. -/
def segments (path : Bytes) : List Bytes :=
  (path.drop 1).splitOn slash

/-- What `path.Clean` keeps after one more segment. -/
def cleanStep (kept : List Bytes) (segment : Bytes) : List Bytes :=
  if segment = [] ∨ segment = bytesOf "." then
    kept
  else if segment = bytesOf ".." then
    kept.dropLast
  else
    kept ++ [segment]

/-- `cleanPath` -/
def cleanPath (p : Bytes) : Bytes :=
  let np := slash :: [slash].intercalate ((segments p).foldl cleanStep [])
  if p.getLast? = some slash ∧ np ≠ [slash] then np ++ [slash] else np

/-- A segment of a pattern: itself, or the wildcard `id`. -/
inductive Segment where
  | literal (text : String)
  | id

/--
The wildcards of a path that matches a pattern.  A wildcard matches neither an
empty segment nor a slash, for which a trailing slash would be taken.
-/
def matchPath : List Segment → List Bytes → Option (List Bytes)
  | [], [] => some []
  | .literal text :: pattern, segment :: path =>
      if (Percent.decode id segment).getD segment = bytesOf text then
        matchPath pattern path
      else
        none
  | .id :: pattern, segment :: path =>
      let value := (Percent.decode id segment).getD segment
      if value = [] ∨ value = [slash] then
        none
      else
        (matchPath pattern path).map (value :: ·)
  | _, _ => none

/-!
## Routes
-/

/-- What stands before a handler. -/
inductive Guard where
  | unguarded
  | rateLimit
  | requireAuth
deriving DecidableEq

/-- What a handler reads of a message that reached it. -/
structure Arrived where
  userID : String
  id : String
  query : Bytes
  body : Bytes

/-- What arrives of a message of a user. -/
def Message.arrived
    (m : Message)
    (query : Bytes)
    (values : List Bytes)
    (userID : String) :
    Arrived where
  userID := userID
  id := goText (values.headD [])
  query := query
  body := m.Body

/-- A route; without a request it is that of `handleHealth`. -/
structure Route where
  method : String
  pattern : List Segment
  guard : Guard
  request : Arrived → Option Request

/-- The pattern of a path below `/api`. -/
def api (path : List String) : List Segment :=
  (("api" :: path).map .literal)

/-- A route behind `rateLimit`. -/
def limited
    (method : String)
    (path : List String)
    (request : Bytes → Request) :
    Route where
  method := method
  pattern := api path
  guard := .rateLimit
  request arrived := some (request arrived.body)

/-- A route behind `requireAuth`. -/
def authorized
    (method : String)
    (pattern : List Segment)
    (request : Arrived → Request) :
    Route where
  method := method
  pattern := pattern
  guard := .requireAuth
  request arrived := some (request arrived)

/-- `Routes` -/
def routes : List Route :=
  [{ method := "GET"
     pattern := [.literal "healthz"]
     guard := .unguarded
     request := fun _ => none },
    limited "POST" ["accounts", "prelogin"] fun body =>
      .prelogin (preloginRequest body),
    limited "POST" ["accounts", "register"] fun body =>
      .register (registerRequest body),
    limited "POST" ["auth", "login"] fun body => .login (loginRequest body),
    limited "POST" ["auth", "refresh"] fun body =>
      .refresh (refreshRequest body),
    authorized "DELETE" (api ["account"]) fun r => .deleteAccount r.userID,
    authorized "GET" (api ["sessions"]) fun r => .listSessions r.userID,
    authorized "POST" (api ["auth", "logout-all"]) fun r =>
      .logoutAll r.userID,
    limited "POST" ["auth", "recovery", "challenge"] fun body =>
      .recoveryChallenge (recoveryChallengeRequest body),
    limited "POST" ["auth", "recovery", "complete"] fun body =>
      .recoveryComplete (recoveryCompleteRequest body),
    authorized "GET" (api ["2fa"]) fun r => .totpStatus r.userID,
    authorized "POST" (api ["2fa", "setup"]) fun r => .totpSetup r.userID,
    authorized "POST" (api ["2fa", "enable"]) fun r =>
      .totpEnable r.userID (totpCodeRequest r.body),
    authorized "POST" (api ["2fa", "disable"]) fun r =>
      .totpDisable r.userID (totpCodeRequest r.body),
    authorized "GET" (api ["recovery"]) fun r => .recoveryStatus r.userID,
    authorized "POST" (api ["recovery", "enable"]) fun r =>
      .recoveryEnable r.userID (recoveryEnableRequest r.body),
    authorized "POST" (api ["recovery", "disable"]) fun r =>
      .recoveryDisable r.userID,
    authorized "GET" (api ["2fa", "webauthn", "credentials"]) fun r =>
      .webAuthnList r.userID,
    authorized "DELETE" (api ["2fa", "webauthn", "credentials"] ++ [.id])
      fun r => .webAuthnDelete r.userID r.id,
    authorized "POST" (api ["2fa", "webauthn", "register", "begin"]) fun r =>
      .webAuthnRegisterBegin r.userID,
    authorized "POST" (api ["2fa", "webauthn", "register", "finish"]) fun r =>
      .webAuthnRegisterFinish r.userID (registerFinishRequest r.body),
    limited "POST" ["auth", "webauthn", "begin"] fun body =>
      .webAuthnLoginBegin (loginBeginRequest body),
    limited "POST" ["auth", "webauthn", "finish"] fun body =>
      .webAuthnLoginFinish (loginFinishRequest body),
    authorized "GET" (api ["audit"]) fun r => .auditLog r.userID,
    authorized "GET" (api ["users", "public-key"]) fun r =>
      .lookupPublicKey r.userID (queryGet r.query "identifier"),
    authorized "POST" (api ["shares"]) fun r =>
      .createShare r.userID (createShareRequest r.body),
    authorized "GET" (api ["shares"]) fun r => .listShares r.userID,
    authorized "DELETE" (api ["shares"] ++ [.id]) fun r =>
      .deleteShare r.userID r.id,
    authorized "GET" (api ["sync"]) fun r => .sync r.userID,
    authorized "POST" (api ["ciphers"]) fun r =>
      .createCipher r.userID (cipherRequest r.body),
    authorized "PUT" (api ["ciphers"] ++ [.id]) fun r =>
      .updateCipher r.userID r.id (cipherRequest r.body),
    authorized "DELETE" (api ["ciphers"] ++ [.id]) fun r =>
      .deleteCipher r.userID r.id]

/-- Whether a route serves a method; those of `GET` serve `HEAD`. -/
def Route.serves (route : Route) (method : String) : Bool :=
  route.method = method || route.method = "GET" && method = "HEAD"

/-- What the mux does with a request. -/
inductive Found where
  | moved
  | notFound
  | methodNotAllowed
  | route (route : Route) (values : List Bytes)

/-- `findHandler` -/
def findHandler (method : String) (path : Bytes) : Found :=
  if method ≠ "CONNECT" ∧ cleanPath path ≠ path then
    .moved
  else
    let matching := routes.filterMap fun route =>
      (matchPath route.pattern (segments path)).map fun values =>
        (route, values)
    match matching.find? fun candidate => candidate.1.serves method with
    | some (route, values) => .route route values
    | none => if matching.isEmpty then .notFound else .methodNotAllowed

/-!
## Serving a message
-/

/-- What the middleware asks before it goes on. -/
inductive FrontOperation where
  | allow (key : String)
  | now

/-- Whether the limiter allows a request, and the time. -/
abbrev FrontAnswer : FrontOperation → Type
  | .allow _ => Bool
  | .now => Time

/-- The calls of the middleware as an interface. -/
abbrev frontCalls : Interface where
  Operation := FrontOperation
  Answer := FrontAnswer

/-- The calls of a server that serves messages. -/
abbrev httpCalls : Interface := frontCalls.sum calls

/-- The configuration that the middleware reads. -/
structure Front where
  allowedOrigins : List Bytes
  trustedProxies : List String
  isProduction : Bool
  jwtSecret : Bytes
  tokens : TokenPrimitives

/-- What a response holds behind its headers. -/
inductive Content where
  | empty
  | text (message : String)
  | health
  | json (body : Body)

/-- A response with its headers. -/
structure HttpResponse where
  status : Nat
  headers : List (String × Bytes)
  content : Content

/-- `isExtensionOrigin` -/
def isExtensionOrigin (origin : Bytes) : Bool :=
  (bytesOf "moz-extension://").isPrefixOf origin ||
    (bytesOf "chrome-extension://").isPrefixOf origin

namespace Front

variable (front : Front)

/-- The headers that `cors` sets. -/
def corsHeaders (origin : Bytes) : List (String × Bytes) :=
  if origin ≠ [] ∧
      (origin ∈ front.allowedOrigins ∨ isExtensionOrigin origin = true) then
    [("Access-Control-Allow-Origin", origin),
      ("Vary", bytesOf "Origin"),
      ("Access-Control-Allow-Methods",
        bytesOf "GET, POST, PUT, DELETE, OPTIONS"),
      ("Access-Control-Allow-Headers", bytesOf "Authorization, Content-Type"),
      ("Access-Control-Max-Age", bytesOf "600")]
  else
    []

/-- The headers that `securityHeaders` sets. -/
def securityHeaders : List (String × Bytes) :=
  [("X-Content-Type-Options", bytesOf "nosniff"),
    ("X-Frame-Options", bytesOf "DENY"),
    ("Referrer-Policy", bytesOf "no-referrer"),
    ("Cache-Control", bytesOf "no-store"),
    ("Content-Security-Policy",
      bytesOf "default-src 'none'; frame-ancestors 'none'")] ++
    if front.isProduction then
      [("Strict-Transport-Security",
        bytesOf "max-age=63072000; includeSubDomains")]
    else
      []

/-- The handler of a route, for what arrived. -/
def handle (env : Environment) (route : Route) (arrived : Arrived) :
    Program httpCalls (Nat × Content) :=
  match route.request arrived with
  | none => .done (200, .health)
  | some request =>
      (serve env request).onSecond frontCalls >>= fun response =>
        .done (response.status, .json response.body)

/-- The response of a middleware that refuses. -/
def refuse (response : Response) : Program httpCalls (Nat × Content) :=
  .done (response.status, .json response.body)

/-- A route behind its guard. -/
def serveRoute
    (env : Environment)
    (m : Message)
    (query : Bytes)
    (route : Route)
    (values : List Bytes) :
    Program httpCalls (Nat × Content) :=
  match route.guard with
  | .unguarded => handle env route (m.arrived query values "")
  | .rateLimit =>
      .perform (.inl (.allow (clientIP front.trustedProxies m.peer)))
        fun allowed =>
          if allowed then
            handle env route (m.arrived query values "")
          else
            refuse (writeError 429 "rate limit exceeded; slow down")
  | .requireAuth =>
      .perform (.inl .now) fun now =>
        match
            front.tokens.requireAuth front.jwtSecret now m.Authorization with
        | .error (status, msg) => refuse (writeError status msg)
        | .ok userID => handle env route (m.arrived query values userID)

/-- `ServeHTTP` of the mux. -/
def serveMux (env : Environment) (m : Message) (url : Url) :
    Program httpCalls (Nat × Content) :=
  match findHandler m.Method url.EscapedPath with
  | .moved => .done (301, .empty)
  | .notFound => .done (404, .text "404 page not found")
  | .methodNotAllowed => .done (405, .text "Method Not Allowed")
  | .route route values => front.serveRoute env m url.RawQuery route values

/-- `withMiddleware`, behind the part of `net/http` that reads the target. -/
def serveHTTP (env : Environment) (m : Message) :
    Program httpCalls HttpResponse :=
  match parseRequestURI m.RequestURI with
  | none =>
      .done { status := 400, headers := [], content := .text "400 Bad Request" }
  | some url =>
      if m.Method = "OPTIONS" then
        .done
          { status := 204
            headers := front.corsHeaders m.Origin
            content := .empty }
      else
        front.serveMux env m url >>= fun answer =>
          .done
            { status := answer.1
              headers := front.corsHeaders m.Origin ++ front.securityHeaders
              content := answer.2 }

end Front

end Passwd.Server
