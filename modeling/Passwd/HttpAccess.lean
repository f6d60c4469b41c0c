import Passwd.HttpRefinement
import Passwd.VaultHistory

namespace Passwd.Server

open Base64 Interaction

/-!
# The vault behind the routes

Whatever messages arrive and however their calls interleave, the vault goes
through a sequential history, and each of its events is one of the user whose
access token the message carried: nothing that arrives without an accepted token
reads or changes an item.
-/

section Vault

variable {γ : Type} {contents : String → String → γ}

/-- The user of an event of the vault. -/
def vaultUser : VaultEvent γ → String
  | .created _ owner _ => owner
  | .replaced user _ _ => user
  | .removed user _ => user
  | .erased user => user
  | .listed user _ => user

/-- A call that concerns one user is an event of that user. -/
theorem vaultUser_of_isFor
    {exchange : Exchange calls}
    {event : VaultEvent γ}
    {userID : String}
    (seen : vaultEvent? contents exchange = some event)
    (isFor : exchange.operation.IsFor userID) :
    vaultUser event = userID := by
  unfold vaultEvent? at seen
  split at seen
  all_goals first
    | cases seen
      exact isFor
    | cases seen

/-- A request without a subject is not about items. -/
theorem isAway_of_anonymous
    {request : Request}
    (anonymous : request.subject = none)
    (items : Items) :
    request.isAway items = true := by
  cases request
  all_goals first
    | rfl
    | cases anonymous

/-- An event of the vault that a request makes is one of its subject. -/
theorem subject_of_vaultEvent
    {backend : Backend}
    {env : Environment}
    {state : State}
    {requests : Nat → Request}
    {allowed : Serving → Nat → Choice → Prop}
    {final : Serving}
    (reaches :
      Configuration.Reaches (execute backend) allowed
        (serving env state requests) final)
    {process : Nat}
    {exchange : Exchange calls}
    {event : VaultEvent γ}
    (member : exchange ∈ final.trace.ofProcess process)
    (seen : vaultEvent? contents exchange = some event) :
    (requests process).subject = some (vaultUser event) := by
  have path := reaches.path process
  cases isSubject : (requests process).subject with
  | none =>
      have away :=
        away_serve env (requests process)
          (isAway_of_anonymous isSubject .ciphers)
      have obeys :
          (serve env (requests process)).Obeys
            (fun _ (operation : Operation) =>
              operation.isAway .ciphers = true)
            (fun _ _ => True) [] :=
        away.obeys (fun _ _ _ isAway => isAway) fun _ _ _ => trivial
      obtain ⟨_, -, isAway⟩ := path.request_of_mem obeys member
      have unseen : vaultEvent? contents exchange = none :=
        vaultEvent?_away exchange.operation exchange.answer isAway
      rw [unseen] at seen
      cases seen
  | some userID =>
      obtain ⟨_, -, inScope⟩ :=
        path.request_of_mem (serve_acts env (requests process)) member
      rw [vaultUser_of_isFor seen (inScope.subject userID isSubject)]

/-- What is observed of the calls of the handlers. -/
def observeHTTP
    {Event : Type}
    (observe : Exchange calls → Option Event) :
    Exchange httpCalls → Option Event :=
  fun exchange => (Program.secondExchange? frontCalls exchange).bind observe

/-- The events of a process are those of its exchanges. -/
theorem exchange_of_mem_eventsOf
    {interface : Interface}
    {Event : Type}
    {observe : Exchange interface → Option Event}
    {trace : Trace interface}
    {process : Nat}
    {event : Event}
    (member : event ∈ eventsOf process (trace.observed observe)) :
    ∃ exchange ∈ trace.ofProcess process, observe exchange = some event := by
  rw [Trace.eventsOf_observed] at member
  exact List.mem_filterMap.mp member

/--
Whatever messages arrive and however their calls interleave, the events of the
vault form a sequential history of an owned map.  Each message makes at most one
event, of the user that `requireAuth` found in its access token before it went
on; and a message that has been answered either made no event, or was admitted
as a request and made the event that the answer to the request stands for.
-/
theorem messages_linearizable
    {backend : Backend}
    {front : Front}
    {env : Environment}
    {shared : FrontState}
    {messages : Nat → Message}
    {allowed :
      Configuration httpCalls FrontState HttpResponse → Nat → FrontChoice →
        Prop}
    {final : Configuration httpCalls FrontState HttpResponse}
    (reaches :
      Configuration.Reaches (executeHTTP backend) allowed
        (listening front env shared messages) final) :
    let events := final.trace.observed (observeHTTP (vaultEvent? contents))
    OwnedMap.Shared vaultAccess (shared.state.vault contents) events
        (final.state.state.vault contents) ∧
      (∀ process, (eventsOf process events).length ≤ 1) ∧
      (∀ process, ∀ event ∈ eventsOf process events,
        ∃ now,
          (final.trace.ofProcess process).head? =
              some ⟨.inl .now, now⟩ ∧
            front.tokens.requireAuth front.jwtSecret now
                (messages process).Authorization =
              .ok (vaultUser event)) ∧
      ∀ process response,
        (final.pool process).outcome? = some response →
          eventsOf process events = [] ∨
            ∃ asked request answer,
              front.Admits (messages process) asked request ∧
                response = front.finish (messages process) answer ∧
                eventsOf process events =
                  vaultEvents contents request answer := by
  intro events
  obtain ⟨requests, served, follows⟩ := follows_of_reaches reaches
  have sameEvents : events = served.trace.observed (vaultEvent? contents) := by
    rw [follows.trace, observed_secondTrace]
    rfl
  have own (process : Nat) :
      eventsOf process events =
        (served.trace.ofProcess process).filterMap (vaultEvent? contents) := by
    rw [sameEvents, Trace.eventsOf_observed]
  have once (process : Nat) :
      (served.pool process).ObservedOnce (vaultEvent? contents)
        (fun events response =>
          events = vaultEvents contents (requests process) response)
        (served.trace.ofProcess process) :=
    follows.reaches.obeys (vault_serve env (requests process))
  refine ⟨?_, ?_, ?_, ?_⟩
  · have plays :=
      follows.reaches.plays (fun state => state.vault contents)
        (OwnedMap.Step vaultAccess) fun _ _ operation =>
          vault_execute operation
    rw [← follows.state, sameEvents]
    exact plays
  · intro process
    rw [own]
    refine (once process).length_le ?_
    intro response _ same
    rw [same]
    exact length_vaultEvents_le _ _
  · intro process event member
    rw [sameEvents] at member
    obtain ⟨exchange, inTrace, seen⟩ := exchange_of_mem_eventsOf member
    have isSubject := subject_of_vaultEvent follows.reaches inTrace seen
    rw [follows.trace, ofProcess_secondTrace] at inTrace
    obtain ⟨asked, own, split, admission⟩ :=
      (follows.stage process).of_called (List.ne_nil_of_mem inTrace)
    rcases front.subject_of_admits admission with
      ⟨anonymous, -⟩ | ⟨now, userID, owned, rfl, accepted⟩
    · rw [anonymous] at isSubject
      cases isSubject
    · rw [owned] at isSubject
      cases isSubject
      exact ⟨now, by rw [split]; rfl, accepted⟩
  · intro process response ended
    rcases (follows.stage process).of_outcome ended with
      quiet | ⟨asked, answer, admission, isDone, rfl⟩
    · left
      rw [own, follows.trace, ofProcess_secondTrace, quiet]
      rfl
    · refine .inr ⟨asked, requests process, answer, admission, rfl, ?_⟩
      have ended := once process
      rw [isDone] at ended
      rw [own]
      exact ended

end Vault

/-- The cipher that a message stored belongs to the user of its token. -/
theorem storedOverHTTP_linearized :
    let events :=
      storedOverHTTP.trace.observed
        (observeHTTP (vaultEvent? fun _ data => data))
    OwnedMap.Shared vaultAccess (State.empty.vault fun _ data => data) events
        (storedOverHTTP.state.state.vault fun _ data => data) ∧
      ∃ asked request answer,
        plainFront.Admits (storingMessages 0) asked request ∧
          eventsOf 0 events =
            vaultEvents (fun _ data => data) request answer := by
  intro events
  have linearized :=
    @messages_linearizable String (fun _ data => data) .memory plainFront
      plainEnvironment emptyFront storingMessages Configuration.anyStep
      storedOverHTTP (.of_follow _ _)
  have answered :
      (storedOverHTTP.pool 0).outcome?.isSome = true := by
    decide +kernel
  have written : (eventsOf 0 events).isEmpty = false := by
    decide +kernel
  obtain ⟨response, ended⟩ := Option.isSome_iff_exists.mp answered
  refine ⟨linearized.1, ?_⟩
  rcases linearized.2.2.2 0 response ended with
    quiet | ⟨asked, request, answer, admits, -, made⟩
  · rw [quiet] at written
    cases written
  · exact ⟨asked, request, answer, admits, made⟩

end Passwd.Server
