import Passwd.InteractionPool
import Passwd.ServerAssertions

namespace Passwd.Server

open Base64 Interaction

/-!
# Runs of a server

A server that serves a pool of requests concurrently is any interleaving of
their calls.  Whatever the interleaving, each request keeps the assertions of
its handler.
-/

/-- A server in the middle of serving a pool of requests. -/
abbrev Serving := Configuration calls State Response

/-- A server that has not yet made a call for any request of the pool. -/
def serving
    (env : Environment)
    (state : State)
    (requests : Nat → Request) :
    Serving :=
  .initial state fun process => serve env (requests process)

/-- A condition on the call that a process is about to make. -/
def beforeCall
    (condition : Serving → Nat → Choice → Operation → Prop) :
    Serving → Nat → Choice → Prop :=
  fun configuration process choice =>
    ∀ operation ∈ (configuration.pool process).operation?,
      condition configuration process choice operation

instance
    (condition : Serving → Nat → Choice → Operation → Prop)
    [∀ configuration process choice operation,
      Decidable (condition configuration process choice operation)]
    (configuration : Serving)
    (process : Nat)
    (choice : Choice) :
    Decidable (beforeCall condition configuration process choice) :=
  inferInstanceAs
    (Decidable (∀ operation ∈ (configuration.pool process).operation?, _))

/-- The condition of the call that a process makes. -/
theorem beforeCall_of_perform
    {condition : Serving → Nat → Choice → Operation → Prop}
    {configuration : Serving}
    {process : Nat}
    {choice : Choice}
    {operation : Operation}
    {next : Answer operation → Handler Response}
    (permitted : beforeCall condition configuration process choice)
    (shape : configuration.pool process = .perform operation next) :
    condition configuration process choice operation := by
  apply permitted
  rw [shape]
  rfl

/-- A request has succeeded; a refresh has then returned new tokens. -/
def succeeded (configuration : Serving) (process : Nat) : Bool :=
  (configuration.pool process).outcome?.any fun response =>
    response.status = 200

/-- Every request that has begun is finished. -/
def quiescent (configuration : Serving) : Bool :=
  configuration.trace.all fun event =>
    (configuration.pool event.process).outcome?.isSome

/-- A moment at which nothing fails. -/
def moment (byte : UInt8) : Choice where
  now := 0
  entropy := [byte]
  fails _ := false

/-- An account whose codes count time steps, with or without its second factor. -/
def oneAccount (secret : String) (enabled : Bool) : State :=
  { State.empty with
    store := { Store.empty with
      users := Table.empty.upsert
        { id := "u"
          identifierHash := plainEnvironment.blindIdentifier "a"
          kdf := defaultKDF
          masterPasswordVerifier := "$p"
          protectedUserKey := "k"
          publicKey := ""
          protectedPrivateKey := ""
          recoveryProtectedUserKey := ""
          recoveryVerifier := ""
          totpSecret := secret
          totpEnabled := enabled
          totpLastCounter := 0
          createdAt := 0
          updatedAt := 0 } } }

section Runs

variable {backend : Backend} {env : Environment} {state : State}
  {requests : Nat → Request}
  {allowed : Serving → Nat → Choice → Prop} {final : Serving}

/-- A process has established what its handler asserts about its next call. -/
theorem guarded_of_perform
    (reaches :
      Configuration.Reaches (execute backend) allowed
        (serving env state requests) final)
    {process : Nat}
    {operation : Operation}
    {next : Answer operation → Handler Response}
    (shape : final.pool process = .perform operation next) :
    Guarded env (requests process) (final.trace.ofProcess process)
      operation :=
  reaches.request_of_perform (serves_serve env (requests process)) shape

/-- A finished process has done what its response reports. -/
theorem reported_of_outcome?
    (reaches :
      Configuration.Reaches (execute backend) allowed
        (serving env state requests) final)
    {process : Nat}
    {response : Response}
    (finished : (final.pool process).outcome? = some response) :
    Reported env (requests process) (final.trace.ofProcess process)
      response :=
  reaches.result_of_done (serves_serve env (requests process))
    (Program.eq_done_of_outcome? finished)

/-- A call of the past was made with what its handler asserts about it. -/
theorem guarded_of_mem
    (reaches :
      Configuration.Reaches (execute backend) allowed
        (serving env state requests) final)
    {event : Event calls}
    (member : event ∈ final.trace) :
    ∃ earlier,
      earlier <+: final.trace.ofProcess event.process ∧
        Guarded env (requests event.process) earlier
          event.exchange.operation :=
  (reaches.path event.process).request_of_mem
    (serves_serve env (requests event.process))
    (Trace.mem_ofProcess.mpr member)

end Runs

/-!
## One request after the other
-/

/-- A request that is served from start to end without interruption. -/
def served
    (backend : Backend)
    (env : Environment)
    (state : State)
    (request : Request)
    (choices : Nat → Choice) :
    Program.Completed calls State Response :=
  (serve env request).run (execute backend) choices state

/-- The responses to requests that are served one after the other. -/
def responses (backend : Backend) (env : Environment) :
    State → List (Request × (Nat → Choice)) → List Response
  | _, [] => []
  | state, move :: rest =>
      let completed := served backend env state move.1 move.2
      completed.value :: responses backend env completed.state rest

/-- `res.ok`, as a client sees a response. -/
def Response.isOk (res : Response) : Bool :=
  200 ≤ res.status && res.status ≤ 299

end Passwd.Server
