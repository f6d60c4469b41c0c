import Passwd.ClientRuns
import Passwd.InteractionLayers
import Passwd.InteractionRefinement
import Passwd.ServerRuns

namespace Passwd.Client

open Base64 Crypto Interaction Server

/-!
# Devices and the server side by side

Any number of devices act while the server serves requests.  An operation of a
device that sends a request is carried out by the calls of the handler, so that
devices and requests interleave at the granularity of the calls that reach the
store.
-/

/-- What a device asks of its own platform. -/
inductive DeviceOperation where
  | randomBytes (n : Nat)
  | generateKey

/-- The platform answers with as many bytes as were asked for. -/
abbrev DeviceAnswer : DeviceOperation → Type
  | .randomBytes n => { bytes : Bytes // bytes.length = n }
  | .generateKey => Bytes × Bytes

/-- The calls of a device to its platform as an interface. -/
abbrev deviceCalls : Interface where
  Operation := DeviceOperation
  Answer := DeviceAnswer

/-- The calls of devices and of request handlers. -/
abbrev systemCalls : Interface := deviceCalls.sum calls

/-- A program of the whole system. -/
abbrev System (α : Type) := Program systemCalls α

/-- What decides the answers besides the state of the server. -/
structure SystemChoice where
  entropy : Bytes
  keyPair : Bytes × Bytes
  server : Server.Choice

/-- `n` random bytes. -/
def SystemChoice.bytes (choice : SystemChoice) (n : Nat) :
    { bytes : Bytes // bytes.length = n } :=
  ⟨(choice.entropy ++ List.replicate n 0).take n, by simp⟩

/-- The effect of one call of the system. -/
def executeSystem
    (backend : Backend)
    (choice : SystemChoice)
    (state : State) :
    (operation : systemCalls.Operation) →
      systemCalls.Answer operation × State
  | .inl (.randomBytes n) => (choice.bytes n, state)
  | .inl .generateKey => (choice.keyPair, state)
  | .inr operation => Server.execute backend choice.server state operation

/-- An operation of a client, call by call. -/
def carry (env : Environment) :
    (operation : Operation) → System (Answer operation)
  | .randomBytes n =>
      .perform (.inl (.randomBytes n)) fun bytes => .done bytes.val
  | .generateKey => .perform (.inl .generateKey) .done
  | .fetch request => (serve env request).onSecond deviceCalls

/-- What a process of the system works on. -/
inductive Work (Action : Type) where
  | device (userID : String) (s : Session) (action : Action)
  | other (request : Request)

/-- What it ends with. -/
inductive Done (Result : Type) where
  | device (result : Result)
  | response (response : Response)

section Work

variable {Action Result : Type}

/-- The program of a process, when devices run actions with `run`. -/
def Work.program
    (run : String → Session → Action → Client Result)
    (env : Environment) :
    Work Action → System (Done Result)
  | .device userID s action =>
      ((run userID s action).through (carry env)) >>= fun result =>
        return .device result
  | .other request =>
      ((serve env request).onSecond deviceCalls) >>= fun response =>
        return .response response

/-- The calls to the server in a history of the system. -/
def servedCalls (history : History systemCalls) : History calls :=
  history.filterMap (Program.secondExchange? deviceCalls)

/-- What is observed of the calls to the server. -/
def observeSystem {Event : Type} (observe : Exchange calls → Option Event) :
    Exchange systemCalls → Option Event :=
  fun exchange =>
    (Program.secondExchange? deviceCalls exchange).bind observe

/-- Observing the system is observing its calls to the server. -/
theorem filterMap_observeSystem
    {Event : Type}
    (observe : Exchange calls → Option Event)
    (history : History systemCalls) :
    history.filterMap (observeSystem observe) =
      (servedCalls history).filterMap observe := by
  rw [servedCalls, List.filterMap_filterMap]
  rfl

/-- A call of the system is observed as its call to the server is. -/
theorem takes_executeSystem
    {Abstract Event : Type}
    {backend : Backend}
    {observe : Exchange calls → Option Event}
    {abstraction : State → Abstract}
    {step : Abstract → Event → Abstract → Prop}
    (takes :
      ∀ choice state operation,
        Takes step (abstraction state)
          (observe
            ⟨operation, (Server.execute backend choice state operation).1⟩)
          (abstraction (Server.execute backend choice state operation).2))
    (choice : SystemChoice)
    (state : State)
    (operation : systemCalls.Operation) :
    Takes step (abstraction state)
      (observeSystem observe
        ⟨operation, (executeSystem backend choice state operation).1⟩)
      (abstraction (executeSystem backend choice state operation).2) := by
  cases operation with
  | inl operation =>
      cases operation with
      | randomBytes n => rfl
      | generateKey => rfl
  | inr operation => exact takes choice.server state operation

/-!
## Programs of devices over the calls of the system
-/

/-- As many bytes were drawn as were asked for. -/
def Drawn (history : History clientCalls) : Prop :=
  ∀ n bytes, ⟨.randomBytes n, bytes⟩ ∈ history → bytes.length = n

/-- What was drawn in two parts was drawn in each. -/
theorem Drawn.parts
    {earlier later : History clientCalls}
    (drawn : Drawn (earlier ++ later)) :
    Drawn earlier ∧ Drawn later :=
  ⟨fun n bytes member => drawn n bytes (List.mem_append_left _ member),
    fun n bytes member => drawn n bytes (List.mem_append_right _ member)⟩

section Carried

variable {env : Environment}
  {stands : Request → History calls → Response → Prop}

/-- The calls that carry out an operation, when requests stand for their calls. -/
def Carries (stands : Request → History calls → Response → Prop) :
    (operation : Operation) → History systemCalls → Answer operation → Prop
  | .randomBytes n, segment, answer =>
      servedCalls segment = [] ∧ answer.length = n
  | .generateKey, segment, _ => servedCalls segment = []
  | .fetch request, segment, response =>
      stands request (servedCalls segment) response

/-- Every operation of a client is carried out as it should be. -/
theorem carries_carry
    (served :
      ∀ request,
        (serve env request).Obeys (fun _ _ => True) (stands request) [])
    (operation : Operation) :
    (carry env operation).Obeys (fun _ _ => True) (Carries stands operation)
      [] := by
  cases operation with
  | randomBytes n => exact ⟨trivial, fun bytes => ⟨rfl, bytes.property⟩⟩
  | generateKey => exact ⟨trivial, fun keyPair => rfl⟩
  | fetch request => exact Program.Obeys.onSecond (served request)

/-- Devices draw as many bytes as they ask for. -/
theorem drawn_of_carried
    {above : History clientCalls}
    {below : History systemCalls}
    (carried : Program.Carried (Carries stands) above below) :
    Drawn above := by
  intro n bytes member
  let drawn : Exchange clientCalls → Prop
    | ⟨.randomBytes n, bytes⟩ => bytes.length = n
    | _ => True
  refine @Program.Carried.forall_exchanges _ _ _ drawn _ _ carried ?_ _ member
  intro operation segment answer carries
  cases operation with
  | randomBytes n => exact carries.2
  | _ => trivial

/-- What a process has done when it ends with a result. -/
def Work.Ended
    (acted : String → Session → Action → History clientCalls → Result → Prop)
    (stands : Request → History calls → Response → Prop)
    (history : History systemCalls) :
    Work Action → Done Result → Prop
  | .device userID s action, .device result =>
      ∃ exchanges,
        Program.Carried (Carries stands) exchanges history ∧
          acted userID s action exchanges result
  | .other request, .response response =>
      stands request (servedCalls history) response
  | _, _ => False

/-- Every process ends as its action or its request does. -/
theorem Work.program_ended
    {run : String → Session → Action → Client Result}
    {acted : String → Session → Action → History clientCalls → Result → Prop}
    (served :
      ∀ request,
        (serve env request).Obeys (fun _ _ => True) (stands request) [])
    (work : Work Action)
    (acts :
      ∀ userID s action, work = .device userID s action →
        (run userID s action).Obeys (fun _ _ => True) (acted userID s action)
          []) :
    (work.program run env).Obeys (fun _ _ => True)
      (fun history result => work.Ended acted stands history result) [] := by
  cases work with
  | device userID s action =>
      apply Program.obeys_bind.mpr
      exact (Program.Obeys.through (carries_carry served)
        (acts userID s action rfl) .nil).mono (fun _ _ => id) fun _ _ => id
  | other request =>
      apply Program.obeys_bind.mpr
      exact (Program.Obeys.onSecond (served request)).mono (fun _ _ => id)
        fun _ _ => id

end Carried

end Work

/-- A session of an account. -/
def plainSession : Session where
  identifier := "a"
  accessToken := "t"
  refreshToken := "r"
  userKey := []
  protectedPrivateKey := ""

/-- A moment at which nothing fails, for every process in turn. -/
def moments (processes : List Nat) : List (Nat × SystemChoice) :=
  processes.map fun process =>
    (process, { entropy := [], keyPair := ([], []), server := moment 1 })

end Passwd.Client
