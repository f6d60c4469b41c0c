import Passwd.ApiCalls

namespace Passwd.Client

open Base64 Interaction Json Server
open Crypto (KdfParams stringify stringifyEscapes)

/-!
# Calls arrive

A message that a function of the transport sends is taken apart by the server
into the arguments of the function: the path leads to the route that is meant,
the query and the ids are decoded, and the body is decoded field by field.
-/

/-!
## The parameters of a key derivation
-/

/-- The members of spelled parameters. -/
def kdfMembers (kdf : KdfParams) : Members :=
  [("type", .string kdf.type),
      ("iterations", OfflineVault.numeral kdf.iterations)] ++
    (kdf.memoryMiB.map fun memoryMiB =>
      ("memoryMiB", OfflineVault.numeral memoryMiB)).toList ++
    (kdf.parallelism.map fun parallelism =>
      ("parallelism", OfflineVault.numeral parallelism)).toList

/-- The members of spelled parameters are values of JSON. -/
theorem wellFormed_kdfMembers (kdf : KdfParams) :
    ∀ member ∈ kdfMembers kdf, WellFormed member.2 := by
  have number (value : Int) : WellFormed (OfflineVault.numeral value) :=
    wellFormed_integer value
  intro member isMember
  simp only [kdfMembers, List.mem_append, List.mem_cons, List.not_mem_nil,
    or_false, Option.mem_toList, Option.map_eq_some_iff] at isMember
  rcases isMember with ((rfl | rfl) | ⟨memoryMiB, -, rfl⟩) |
    ⟨parallelism, -, rfl⟩
  · trivial
  · exact number _
  · exact number _
  · exact number _

/-- A field that holds an `int` takes a numeral that fits. -/
theorem store_numeral
    {α : Type}
    {name : String}
    {get : α → Int}
    {set : α → Int → α}
    {value : Int}
    (fits : Decimal.Fits 64 value)
    (current : α)
    (text : List Char) :
    (intField name get set).store current
        { text := text, value := OfflineVault.numeral value } =
      some (set current value) :=
  congrArg (Option.map _) (integerField_toString fits (get current))

/-- The parameters that were spelled are decoded. -/
theorem decodeObject_spelled
    {kdf : KdfParams}
    (fits : FitsKdf kdf) :
    decodeObject kdfFields .zero
        (write stringifyEscapes (OfflineVault.spelled kdf)) =
      some (sentKdf kdf) := by
  have decoded :=
    decodeObject_write stringifyEscapes kdfFields .zero
      (wellFormed_kdfMembers kdf) []
  rw [List.append_nil] at decoded
  refine decoded.trans ?_
  obtain ⟨type, iterations, memoryMiB, parallelism⟩ := kdf
  obtain ⟨fitsIterations, fitsMemory, fitsParallelism⟩ := fits
  have first (current : KDFParams) :
      decodeMember kdfFields current
          (asWritten stringifyEscapes ("type", .string type)) =
        some { current with type := type } := by
    simp +decide [asWritten, decodeMember_cons, kdfFields, stringField]
  have second (current : KDFParams) :
      decodeMember kdfFields current
          (asWritten stringifyEscapes
            ("iterations", OfflineVault.numeral iterations)) =
        some { current with iterations := iterations } := by
    simp +decide [asWritten, decodeMember_cons, kdfFields,
      store_numeral fitsIterations]
  have third (current : KDFParams) (memory : Int)
      (fits : Decimal.Fits 64 memory) :
      decodeMember kdfFields current
          (asWritten stringifyEscapes
            ("memoryMiB", OfflineVault.numeral memory)) =
        some { current with memoryMiB := memory } := by
    simp +decide [asWritten, decodeMember_cons, kdfFields, store_numeral fits]
  have fourth (current : KDFParams) (lanes : Int)
      (fits : Decimal.Fits 64 lanes) :
      decodeMember kdfFields current
          (asWritten stringifyEscapes
            ("parallelism", OfflineVault.numeral lanes)) =
        some { current with parallelism := lanes } := by
    simp +decide [asWritten, decodeMember_cons, kdfFields, store_numeral fits]
  cases memoryMiB with
  | none =>
      cases parallelism with
      | none => simp [kdfMembers, first, second, sentKdf, KDFParams.zero]
      | some lanes =>
          simp [kdfMembers, first, second, fourth _ _ (fitsParallelism _ rfl),
            sentKdf, KDFParams.zero]
  | some memory =>
      cases parallelism with
      | none =>
          simp [kdfMembers, first, second, third _ _ (fitsMemory _ rfl),
            sentKdf, KDFParams.zero]
      | some lanes =>
          simp [kdfMembers, first, second, third _ _ (fitsMemory _ rfl),
            fourth _ _ (fitsParallelism _ rfl), sentKdf, KDFParams.zero]

/-!
## Bodies
-/

section Bodies

variable {α : Type}

/-- A body that a function sends is decoded member by member. -/
theorem decodeJSON_sent
    {call : ApiCall}
    (sendable : call.Sendable)
    {body : Members}
    (isBody : call.arguments.body = some body)
    (fields : List (Server.Field α))
    (zero : α)
    (origin : Bytes)
    (peer : HttpRequest) :
    decodeJSON fields zero (call.arguments.message origin peer).Body =
      (body.map (asWritten stringifyEscapes)).foldlM (decodeMember fields)
        zero := by
  have sent :
      (call.arguments.message origin peer).Body =
        bytesOf (stringify (.object body)) := by
    rw [CallArguments.message, isBody]
    rfl
  rw [sent]
  exact decodeJSON_write stringifyEscapes fields zero
    (sendable.values body isBody) (sendable.length body isBody)

/-- A body with one string is decoded. -/
theorem singleField_sent
    {call : ApiCall}
    (sendable : call.Sendable)
    {name text : String}
    (isBody : call.arguments.body = some [(name, .string text)])
    (named : namesField name name = true)
    (origin : Bytes)
    (peer : HttpRequest) :
    singleField name (call.arguments.message origin peer).Body =
      some text := by
  refine (decodeJSON_sent sendable isBody _ "" origin peer).trans ?_
  simp [asWritten, decodeMember_cons, stringField, named]

/-- The parameters in a body are decoded into the field of a struct. -/
theorem store_spelled
    {kdf : KdfParams}
    (fits : FitsKdf kdf)
    {name : String}
    {get : α → KDFParams}
    {set : α → KDFParams → α}
    {current : α}
    (fresh : get current = .zero) :
    (structField name kdfFields get set).store current
        { text := write stringifyEscapes (OfflineVault.spelled kdf)
          value := OfflineVault.spelled kdf } =
      some (set current (sentKdf kdf)) := by
  have decoded := decodeObject_spelled fits
  rw [← fresh] at decoded
  exact congrArg (Option.map _) decoded

end Bodies

section Calls

variable (origin : Bytes) (peer : HttpRequest)

/-- A registration is decoded. -/
theorem registerRequest_sent
    {bundle : RegistrationBundle}
    (sendable : (ApiCall.register bundle).Sendable) :
    registerRequest
        ((ApiCall.register bundle).arguments.message origin peer).Body =
      some bundle.request := by
  have fits : FitsKdf bundle.kdf := sendable.numbers _ rfl
  refine (decodeJSON_sent sendable rfl _ _ origin peer).trans ?_
  simp +decide [asWritten, decodeMember_cons, registerFields, stringField,
    store_spelled fits]
  rfl

/-- A sign-in is decoded. -/
theorem loginRequest_sent
    {identifier masterPasswordHash : String}
    {totpCode : Option String}
    (sendable :
      (ApiCall.login identifier masterPasswordHash totpCode).Sendable) :
    loginRequest
        ((ApiCall.login identifier masterPasswordHash totpCode).arguments.message
          origin peer).Body =
      some
        { identifier := identifier
          masterPasswordHash := masterPasswordHash
          totpCode := totpCode.getD "" } := by
  refine (decodeJSON_sent sendable rfl _ _ origin peer).trans ?_
  cases totpCode with
  | none =>
      simp +decide [asWritten, decodeMember_cons, loginFields, stringField]
  | some totpCode =>
      simp +decide [asWritten, decodeMember_cons, loginFields, stringField]

/-- The request of a recovery code is decoded. -/
theorem recoveryEnableRequest_sent
    {token recoveryProtectedUserKey recoveryAuthHash : String}
    (sendable :
      (ApiCall.recoveryEnable token recoveryProtectedUserKey
        recoveryAuthHash).Sendable) :
    recoveryEnableRequest
        ((ApiCall.recoveryEnable token recoveryProtectedUserKey
          recoveryAuthHash).arguments.message origin peer).Body =
      some
        { recoveryProtectedUserKey := recoveryProtectedUserKey
          recoveryAuthHash := recoveryAuthHash } := by
  refine (decodeJSON_sent sendable rfl _ _ origin peer).trans ?_
  simp +decide [asWritten, decodeMember_cons, recoveryEnableFields, stringField]

/-- The completion of a recovery is decoded. -/
theorem recoveryCompleteRequest_sent
    {identifier recoveryAuthHash masterPasswordHash protectedUserKey : String}
    {kdf : KdfParams}
    (sendable :
      (ApiCall.recoveryComplete identifier recoveryAuthHash masterPasswordHash
        protectedUserKey kdf).Sendable) :
    recoveryCompleteRequest
        ((ApiCall.recoveryComplete identifier recoveryAuthHash
          masterPasswordHash protectedUserKey kdf).arguments.message origin
            peer).Body =
      some
        { identifier := identifier
          recoveryAuthHash := recoveryAuthHash
          masterPasswordHash := masterPasswordHash
          protectedUserKey := protectedUserKey
          kdf := sentKdf kdf } := by
  have fits : FitsKdf kdf := sendable.numbers _ rfl
  refine (decodeJSON_sent sendable rfl _ _ origin peer).trans ?_
  simp +decide [asWritten, decodeMember_cons, recoveryCompleteFields,
    stringField, store_spelled fits]

/-- The end of a registration of a credential is decoded. -/
theorem registerFinishRequest_sent
    {token sessionId name : String}
    {credential : Value}
    (sendable :
      (ApiCall.webauthnRegisterFinish token sessionId name
        credential).Sendable) :
    registerFinishRequest
        ((ApiCall.webauthnRegisterFinish token sessionId name
          credential).arguments.message origin peer).Body =
      some
        { sessionId := sessionId
          name := name
          credential := stringify credential } := by
  refine (decodeJSON_sent sendable rfl _ _ origin peer).trans ?_
  simp +decide [asWritten, decodeMember_cons, registerFinishFields, stringField,
    rawField, stringify]

/-- The begin of a sign-in with a credential is decoded. -/
theorem loginBeginRequest_sent
    {identifier masterPasswordHash : String}
    (sendable :
      (ApiCall.webauthnLoginBegin identifier masterPasswordHash).Sendable) :
    loginBeginRequest
        ((ApiCall.webauthnLoginBegin identifier
          masterPasswordHash).arguments.message origin peer).Body =
      some
        { identifier := identifier
          masterPasswordHash := masterPasswordHash } := by
  refine (decodeJSON_sent sendable rfl _ _ origin peer).trans ?_
  simp +decide [asWritten, decodeMember_cons, loginBeginFields, stringField]

/-- The end of a sign-in with a credential is decoded. -/
theorem loginFinishRequest_sent
    {identifier masterPasswordHash sessionId : String}
    {credential : Value}
    (sendable :
      (ApiCall.webauthnLoginFinish identifier masterPasswordHash sessionId
        credential).Sendable) :
    loginFinishRequest
        ((ApiCall.webauthnLoginFinish identifier masterPasswordHash sessionId
          credential).arguments.message origin peer).Body =
      some
        { identifier := identifier
          masterPasswordHash := masterPasswordHash
          sessionId := sessionId
          credential := stringify credential } := by
  refine (decodeJSON_sent sendable rfl _ _ origin peer).trans ?_
  simp +decide [asWritten, decodeMember_cons, loginFinishFields, stringField,
    rawField, stringify]

/-- A new share is decoded. -/
theorem createShareRequest_sent
    {token recipientIdentifier wrappedKey data : String}
    (sendable :
      (ApiCall.createShare token recipientIdentifier wrappedKey
        data).Sendable) :
    createShareRequest
        ((ApiCall.createShare token recipientIdentifier wrappedKey
          data).arguments.message origin peer).Body =
      some
        { recipientIdentifier := recipientIdentifier
          wrappedKey := wrappedKey
          data := data } := by
  refine (decodeJSON_sent sendable rfl _ _ origin peer).trans ?_
  simp +decide [asWritten, decodeMember_cons, createShareFields, stringField]

end Calls

/-!
## Queries
-/

/-- What is spelled as itself in the query of a call. -/
def keptInArgument (byte : UInt8) : Bool :=
  keptInComponent byte && keptInQuery byte

/-- What a byte that is spelled as itself in a query is not. -/
theorem of_keptInArgument
    {byte : UInt8}
    (kept : keptInArgument byte = true) :
    byte ≠ Percent.mark ∧ byte ≠ 0x26 ∧ octetChar byte ≠ '+' ∧
      isOneOf [';'] byte = false := by
  have inspected :=
    forall_byte
      (fun byte =>
        !keptInArgument byte ||
          (byte ≠ Percent.mark && byte ≠ 0x26 && octetChar byte ≠ '+' &&
            !isOneOf [';'] byte))
      (by decide +kernel) byte
  simpa [kept, and_assoc] using inspected

/-- The query of a call with an identifier. -/
theorem encode_identifier (identifier : String) :
    Percent.encode keptInQuery
        (bytesOf "identifier=" ++ encodeURIComponent identifier) =
      bytesOf "identifier" ++
        0x3d :: Percent.encode keptInArgument (bytesOf identifier) := by
  have name :
      Percent.encode keptInQuery (bytesOf "identifier=") =
        bytesOf "identifier" ++ [0x3d] := by
    rw [bytesOf_eq_utf8, bytesOf_eq_utf8]
    decide
  have argument :
      Percent.encode keptInQuery (encodeURIComponent identifier) =
        Percent.encode keptInArgument (bytesOf identifier) :=
    Percent.encode_encode (by decide) (by decide) (bytesOf identifier)
  calc
    Percent.encode keptInQuery
          (bytesOf "identifier=" ++ encodeURIComponent identifier)
        = Percent.encode keptInQuery (bytesOf "identifier=") ++
            Percent.encode keptInQuery (encodeURIComponent identifier) :=
      List.flatMap_append
    _ = bytesOf "identifier" ++
          0x3d :: Percent.encode keptInArgument (bytesOf identifier) := by
      rw [name, argument, List.append_assoc, List.singleton_append]

/-- The identifier in the query of a call is read back. -/
theorem queryGet_identifier (identifier : String) :
    queryGet
        (Percent.encode keptInQuery
          (bytesOf "identifier=" ++ encodeURIComponent identifier))
        "identifier" =
      identifier := by
  have argument :
      queryUnescape (Percent.encode keptInArgument (bytesOf identifier)) =
        some (bytesOf identifier) :=
    Percent.decode_encode
      (fun byte kept =>
        ⟨(of_keptInArgument kept).1, if_neg (of_keptInArgument kept).2.2.1⟩)
      (bytesOf identifier)
  have separated :
      ∀ byte ∈ Percent.encode keptInArgument (bytesOf identifier),
        byte ≠ 0x26 ∧ isOneOf [';'] byte = false := by
    intro byte member
    have inspected :=
      forall_byte
        (fun byte =>
          !(48 ≤ byte.toNat && byte.toNat ≤ 57 ||
              65 ≤ byte.toNat && byte.toNat ≤ 70) ||
            (byte ≠ 0x26 && !isOneOf [';'] byte))
        (by decide +kernel) byte
    rcases Percent.mem_encode member with kept | rfl | digit | letter
    · exact ⟨(of_keptInArgument kept).2.1, (of_keptInArgument kept).2.2.2⟩
    · decide
    · simpa [digit] using inspected
    · simpa [letter] using inspected
  have name :
      ∀ byte ∈ bytesOf "identifier",
        (byte ≠ 0x26 ∧ isOneOf [';'] byte = false) ∧
          decide (octetChar byte ≠ '=') = true ∧
            byte ≠ Percent.mark ∧ octetChar byte ≠ '+' := by
    rw [bytesOf_eq_utf8]
    decide +kernel
  have ends : octetChar 0x3d = '=' := by
    decide
  rw [encode_identifier]
  generalize Percent.encode keptInArgument (bytesOf identifier) = spelled
    at argument separated
  have alone :
      (bytesOf "identifier" ++ 0x3d :: spelled).splitOn 0x26 =
        [bytesOf "identifier" ++ 0x3d :: spelled] := by
    apply List.splitOn_eq_singleton
    intro member
    rcases List.mem_append.mp member with inName | inArgument
    · exact (name _ inName).1.1 rfl
    · rcases List.mem_cons.mp inArgument with same | inArgument
      · exact absurd same (by decide)
      · exact (separated _ inArgument).1 rfl
  have noSemicolon :
      (bytesOf "identifier" ++ 0x3d :: spelled).any (isOneOf [';']) =
        false := by
    rw [List.any_eq_false]
    intro byte member
    rw [Bool.not_eq_true]
    rcases List.mem_append.mp member with inName | inArgument
    · exact (name byte inName).1.2
    · rcases List.mem_cons.mp inArgument with rfl | inArgument
      · decide
      · exact (separated byte inArgument).2
  have named :
      queryUnescape (bytesOf "identifier") = some (bytesOf "identifier") :=
    Percent.decode_of_plain fun byte member =>
      ⟨(name byte member).2.2.1, if_neg (name byte member).2.2.2⟩
  have pair :
      queryPair (bytesOf "identifier" ++ 0x3d :: spelled) =
        some (bytesOf "identifier", bytesOf identifier) := by
    rw [queryPair, noSemicolon, if_neg (by simp),
      List.takeWhile_append_of_pos fun byte member => (name byte member).2.1,
      List.dropWhile_append_of_pos fun byte member => (name byte member).2.1]
    simp [ends, named, argument]
  rw [queryGet, parseQuery, alone]
  simp [pair, goText_bytesOf]

/-!
## Routes
-/

/-- A message reaches the handler of its request. -/
def Arrives (call : ApiCall) (m : Message) : Prop :=
  ∃ url route values,
    m.Reaches url route values ∧ route.guard = call.guard ∧
      ∀ userID,
        route.request (m.arrived url.RawQuery values userID) =
          some (call.request userID)

/-- No byte of a query is a control character. -/
theorem printed_query (query : Bytes) :
    ∀ byte ∈ Percent.encode keptInQuery query,
      ¬ (byte < 0x20 || byte = 0x7f) = true := by
  intro byte member
  have inspected :=
    forall_byte
      (fun byte =>
        !(keptInQuery byte || byte = Percent.mark ||
            48 ≤ byte.toNat && byte.toNat ≤ 57 ||
            65 ≤ byte.toNat && byte.toNat ≤ 70) ||
          !(byte < 0x20 || byte = 0x7f))
      (by decide +kernel) byte
  rcases Percent.mem_encode member with kept | isMark | digit | letter
  · simpa [kept] using inspected
  · simpa [isMark] using inspected
  · simpa [digit] using inspected
  · simpa [letter] using inspected

/-- No call is a preflight, and every one has a path. -/
theorem arguments_shape (call : ApiCall) :
    call.arguments.method ≠ "OPTIONS" ∧ call.arguments.path ≠ [] := by
  cases call with
  | _ => simp [ApiCall.arguments, bare, withBody]

/-- A call whose route and request are known arrives. -/
theorem arrives_of_route
    {call : ApiCall}
    (sendable : call.Sendable)
    {origin : Bytes}
    {peer : HttpRequest}
    {route : Route}
    {values : List String}
    (picked :
      pickRoute call.arguments.method call.arguments.path =
        some (route, values))
    (guarded : route.guard = call.guard)
    (requested :
      ∀ userID,
        route.request
            { userID := userID
              id := values.headD ""
              query := Percent.encode keptInQuery call.arguments.query
              body := (call.arguments.message origin peer).Body } =
          some (call.request userID)) :
    Arrives call (call.arguments.message origin peer) := by
  obtain ⟨notOptions, nonempty⟩ := arguments_shape call
  have escaped :
      (if call.arguments.query = [] then
          []
        else
          0x3f :: Percent.encode keptInQuery call.arguments.query) =
        if Percent.encode keptInQuery call.arguments.query = [] then
          []
        else
          0x3f :: Percent.encode keptInQuery call.arguments.query := by
    simp only [Percent.encode_eq_nil]
  have target :
      parseRequestURI (call.arguments.message origin peer).RequestURI =
        some
          { EscapedPath := pathOf call.arguments.path
            RawQuery := Percent.encode keptInQuery call.arguments.query } := by
    have parsed :=
      parseRequestURI_pathOf sendable.path (printed_query call.arguments.query)
    rw [← escaped] at parsed
    exact parsed
  refine
    ⟨_, route, values.map bytesOf,
      { target := target
        method := notOptions
        found := findHandler_pathOf sendable.path nonempty picked },
      guarded, ?_⟩
  intro userID
  have sameID : goText ((values.map bytesOf).headD []) = values.headD "" := by
    cases values with
    | nil => rfl
    | cons value rest => exact goText_bytesOf value
  have arrived := requested userID
  rw [← sameID] at arrived
  exact arrived

/-- Every call that the server can read arrives. -/
theorem arrives_message
    {call : ApiCall}
    (sendable : call.Sendable)
    (origin : Bytes)
    (peer : HttpRequest) :
    Arrives call (call.arguments.message origin peer) := by
  cases call with
  | prelogin _ =>
      exact arrives_of_route sendable rfl rfl fun _ =>
        congrArg (fun read => some (Request.prelogin read))
          (singleField_sent sendable rfl (by decide) origin peer)
  | register _ =>
      exact arrives_of_route sendable rfl rfl fun _ =>
        congrArg (fun read => some (Request.register read))
          (registerRequest_sent origin peer sendable)
  | deleteAccountReq _ =>
      exact arrives_of_route sendable rfl rfl fun _ => rfl
  | listSessions _ =>
      exact arrives_of_route sendable rfl rfl fun _ => rfl
  | logoutAll _ =>
      exact arrives_of_route sendable rfl rfl fun _ => rfl
  | login _ _ _ =>
      exact arrives_of_route sendable rfl rfl fun _ =>
        congrArg (fun read => some (Request.login read))
          (loginRequest_sent origin peer sendable)
  | twoFactorStatus _ =>
      exact arrives_of_route sendable rfl rfl fun _ => rfl
  | twoFactorSetup _ =>
      exact arrives_of_route sendable rfl rfl fun _ => rfl
  | twoFactorEnable _ _ =>
      exact arrives_of_route sendable rfl rfl fun _ =>
        congrArg (fun read => some (Request.totpEnable _ read))
          (singleField_sent sendable rfl (by decide) origin peer)
  | twoFactorDisable _ _ =>
      exact arrives_of_route sendable rfl rfl fun _ =>
        congrArg (fun read => some (Request.totpDisable _ read))
          (singleField_sent sendable rfl (by decide) origin peer)
  | recoveryStatus _ =>
      exact arrives_of_route sendable rfl rfl fun _ => rfl
  | recoveryEnable _ _ _ =>
      exact arrives_of_route sendable rfl rfl fun _ =>
        congrArg (fun read => some (Request.recoveryEnable _ read))
          (recoveryEnableRequest_sent origin peer sendable)
  | recoveryDisable _ =>
      exact arrives_of_route sendable rfl rfl fun _ => rfl
  | recoveryChallenge _ =>
      exact arrives_of_route sendable rfl rfl fun _ =>
        congrArg (fun read => some (Request.recoveryChallenge read))
          (singleField_sent sendable rfl (by decide) origin peer)
  | recoveryComplete _ _ _ _ _ =>
      exact arrives_of_route sendable rfl rfl fun _ =>
        congrArg (fun read => some (Request.recoveryComplete read))
          (recoveryCompleteRequest_sent origin peer sendable)
  | webauthnCredentials _ =>
      exact arrives_of_route sendable rfl rfl fun _ => rfl
  | webauthnDeleteCredential _ _ =>
      exact arrives_of_route sendable rfl rfl fun _ => rfl
  | webauthnRegisterBegin _ =>
      exact arrives_of_route sendable rfl rfl fun _ => rfl
  | webauthnRegisterFinish _ _ _ _ =>
      exact arrives_of_route sendable rfl rfl fun _ =>
        congrArg (fun read => some (Request.webAuthnRegisterFinish _ read))
          (registerFinishRequest_sent origin peer sendable)
  | webauthnLoginBegin _ _ =>
      exact arrives_of_route sendable rfl rfl fun _ =>
        congrArg (fun read => some (Request.webAuthnLoginBegin read))
          (loginBeginRequest_sent origin peer sendable)
  | webauthnLoginFinish _ _ _ _ =>
      exact arrives_of_route sendable rfl rfl fun _ =>
        congrArg (fun read => some (Request.webAuthnLoginFinish read))
          (loginFinishRequest_sent origin peer sendable)
  | auditLog _ =>
      exact arrives_of_route sendable rfl rfl fun _ => rfl
  | lookupPublicKey _ identifier =>
      exact arrives_of_route sendable rfl rfl fun _ =>
        congrArg (fun read => some (Request.lookupPublicKey _ read))
          (queryGet_identifier identifier)
  | createShare _ _ _ _ =>
      exact arrives_of_route sendable rfl rfl fun _ =>
        congrArg (fun read => some (Request.createShare _ read))
          (createShareRequest_sent origin peer sendable)
  | listShares _ =>
      exact arrives_of_route sendable rfl rfl fun _ => rfl
  | deleteShare _ _ =>
      exact arrives_of_route sendable rfl rfl fun _ => rfl
  | sync _ =>
      exact arrives_of_route sendable rfl rfl fun _ => rfl
  | createCipher _ _ =>
      exact arrives_of_route sendable rfl rfl fun _ =>
        congrArg (fun read => some (Request.createCipher _ read))
          (singleField_sent sendable rfl (by decide) origin peer)
  | updateCipher _ _ _ =>
      exact arrives_of_route sendable rfl rfl fun _ =>
        congrArg (fun read => some (Request.updateCipher _ _ read))
          (singleField_sent sendable rfl (by decide) origin peer)
  | deleteCipher _ _ =>
      exact arrives_of_route sendable rfl rfl fun _ => rfl

/-!
## What is served
-/

/-- What a server does with a message whose route stands behind a guard. -/
def behind
    (front : Front)
    (m : Message)
    (serving : String → Program httpCalls HttpResponse) :
    Guard → Program httpCalls HttpResponse
  | .unguarded => serving ""
  | .rateLimit =>
      .perform (.inl (.allow (clientIP front.trustedProxies m.peer)))
        fun allowed =>
          if allowed then
            serving ""
          else
            .done (front.finish m
              (writeError 429 "rate limit exceeded; slow down"))
  | .requireAuth =>
      .perform (.inl .now) fun now =>
        match
            front.tokens.requireAuth front.jwtSecret now m.Authorization with
        | .error (status, msg) => .done (front.finish m (writeError status msg))
        | .ok userID => serving userID

/-- A message that arrives is served as its request behind its guard. -/
theorem serveHTTP_of_arrives
    {call : ApiCall}
    {m : Message}
    (arrives : Arrives call m)
    (front : Front)
    (env : Environment) :
    front.serveHTTP env m =
      behind front m
        (fun userID =>
          (serve env (call.request userID)).beyond frontCalls (front.finish m))
        call.guard := by
  obtain ⟨url, route, values, reached, guarded, requested⟩ := arrives
  have served (userID : String) :=
    front.handle_bind env (requested userID) m
  unfold Front.serveHTTP Front.serveMux Front.serveRoute
  simp only [reached.target, if_neg reached.method, reached.found, guarded]
  cases call.guard with
  | unguarded => exact served ""
  | rateLimit =>
      refine congrArg (Program.perform _) (funext fun allowed => ?_)
      cases allowed with
      | false => rfl
      | true => exact served ""
  | requireAuth =>
      refine congrArg (Program.perform _) (funext fun now => ?_)
      simp only []
      cases front.tokens.requireAuth front.jwtSecret now m.Authorization with
      | error refusal => rfl
      | ok userID => exact served userID

/-- Tokens are no empty texts. -/
theorem issueAccessToken_ne_empty
    (env : Environment)
    (userID : String)
    (issued : Time) :
    env.issueAccessToken userID issued ≠ "" := by
  intro empty
  have sized := congrArg String.length empty
  simp [Environment.issueAccessToken] at sized

/--
A call that the server can read is served as the request that the function of the
transport is for, with the arguments it was called with, behind the guard of the
route it is meant for.  A call behind `requireAuth` that carries an access token
of the server is served for the user of that token in the fifteen minutes after
it was issued, and refused from then on before a handler makes a call.
-/
theorem calls_arrive
    {call : ApiCall}
    (sendable : call.Sendable)
    (front : Front)
    (env : Environment)
    (origin : Bytes)
    (peer : HttpRequest) :
    let m := call.arguments.message origin peer
    let serving := fun userID =>
      (serve env (call.request userID)).beyond frontCalls (front.finish m)
    front.serveHTTP env m = behind front m serving call.guard ∧
      ∀ (hmacSha256 : Bytes → Bytes → Bytes) (userID : String) (issued : Time),
        (∀ key message,
          env.hmacSha256 key message =
            hmacSha256 (bytesOf key) (bytesOf message)) →
        front.tokens = jsonTokens hmacSha256 →
        front.jwtSecret = bytesOf env.jwtSecret →
        call.guard = .requireAuth →
        call.arguments.token = env.issueAccessToken userID issued →
        userID ≠ "" →
        Decimal.Fits 64 (unix issued) →
        Decimal.Fits 64 (unix issued + 900) →
        front.serveHTTP env m =
          .perform (.inl .now) fun now =>
            if unix now < unix issued + 900 then
              serving userID
            else
              .done (front.finish m
                (writeError 401 "invalid or expired token")) := by
  have served :=
    serveHTTP_of_arrives (arrives_message sendable origin peer) front env
  refine ⟨served, ?_⟩
  intro hmacSha256 userID issued same tokens secret guarded carries named fits
    fitsExpiry
  have authorization :
      (call.arguments.message origin peer).Authorization =
        bytesOf ("Bearer " ++ env.issueAccessToken userID issued) := by
    rw [CallArguments.message, carries,
      if_neg (issueAccessToken_ne_empty env userID issued)]
  rw [served, guarded]
  refine congrArg (Program.perform _) (funext fun now => ?_)
  have accepted :=
    @requireAuth_issueAccessToken env hmacSha256 same userID named issued now
      fits fitsExpiry
  rw [tokens, secret, authorization, accepted]
  by_cases fresh : unix now < unix issued + 900
  · simp only [if_pos fresh]
  · simp only [if_neg fresh]

/-- A call with a token that replaces a cipher. -/
def replacingCall : ApiCall :=
  .updateCipher (plainEnvironment.issueAccessToken "u" 0) "0a" "d"

/-- The server can read the call. -/
theorem sendable_replacingCall : replacingCall.Sendable where
  path := by
    have plain :
        ["api", "ciphers", "0a"].all (fun segment =>
            segment ≠ "" && (bytesOf segment).all isPlain) =
          true := by
      decide +kernel
    intro segment member
    have own := List.all_eq_true.mp plain segment member
    simpa [PlainSegment] using own
  values := by
    rintro _ ⟨⟩ member isMember
    rw [List.mem_singleton.mp isMember]
    trivial
  length := by
    rintro _ ⟨⟩
    decide +kernel
  numbers := by
    rintro _ ⟨⟩

/-- The call is served as its request while its token is valid. -/
theorem replacingCall_arrives :
    let m := replacingCall.arguments.message [] localPeer
    plainFront.serveHTTP plainEnvironment m =
      .perform (.inl .now) fun now =>
        if unix now < 900 then
          (serve plainEnvironment (.updateCipher "u" "0a" (some "d"))).beyond
            frontCalls (plainFront.finish m)
        else
          .done (plainFront.finish m
            (writeError 401 "invalid or expired token")) := by
  have arrives :=
    (calls_arrive sendable_replacingCall plainFront plainEnvironment []
      localPeer).2
      (fun key message => key ++ bytesOf "|" ++ message) "u" 0
  refine arrives ?_ rfl rfl rfl rfl (by decide) (by decide) (by decide)
  intro key message
  simp [plainEnvironment, bytesOf_append]

end Passwd.Client
