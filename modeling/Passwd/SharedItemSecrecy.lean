import Passwd.ZeroKnowledge

namespace Passwd.Symbolic

open Base64 Utf8 Interaction Deduction
open Crypto (KdfParams)
open Client (USER_KEY_BYTES)

/-!
# Shared items and the server

The devices are those of users who share items and of users who receive them.
Everybody else is one with the server: what they hold are constants, from which
it deduces whatever they could.  The server answers any request with anything
that it can deduce.

Nothing tells a device whose key it is given when it looks one up, so a shared
item is as secret as the answers to lookups are genuine.
-/

/-!
## Sharing between clients
-/

/-- The recipient opens what was shared for its own public key. -/
theorem openShare_of_shareEnvelope
    {userKey plaintext : Message}
    {keyPair : Bytes × Bytes}
    {privateNonce key nonce seed : Bytes}
    {envelope : ShareEnvelope}
    (shared :
      shareEnvelope (.publicKey (.atom (.privateKey keyPair))) plaintext key
        nonce seed = some envelope) :
    openShare userKey (wrapPrivateKey userKey keyPair privateNonce) envelope =
      some plaintext := by
  cases shared
  simp [openShare, unwrapPrivateKey, wrapPrivateKey, sealEnvelope,
    openEnvelope]

/-- Whoever has the private key and sees a share has its plaintext. -/
theorem derivable_of_shareEnvelope
    {known : Set Message}
    {privateKey plaintext : Message}
    {key nonce seed : Bytes}
    {envelope : ShareEnvelope}
    (shared :
      shareEnvelope (.publicKey privateKey) plaintext key nonce seed =
        some envelope)
    (hasPrivateKey : Derivable known privateKey)
    (seesKey : envelope.wrappedKey ∈ known)
    (seesData : envelope.data.data ∈ known) :
    Derivable known plaintext := by
  cases shared
  have itemKey : Derivable known (.atom (.itemKey key)) :=
    .unwrap (.seen seesKey) hasPrivateKey
  exact .decrypt (.seen seesData) itemKey

/-- A share that the server received for a key of its own reveals the item. -/
theorem derivable_of_createShare
    {received : List Request}
    {userID recipientIdentifier : String}
    {privateKey plaintext : Message}
    {key nonce seed : Bytes}
    {envelope : ShareEnvelope}
    (sent : .createShare userID recipientIdentifier envelope ∈ received)
    (shared :
      shareEnvelope (.publicKey privateKey) plaintext key nonce seed =
        some envelope)
    (hasPrivateKey : Derivable (known received) privateKey) :
    Derivable (known received) plaintext := by
  refine derivable_of_shareEnvelope shared hasPrivateKey ?_ ?_
  · exact ⟨_, sent, by simp [Request.messages]⟩
  · exact ⟨_, sent, by simp [Request.messages, Envelope.messages]⟩

/-!
## The active server
-/

/-- The server answers every request with anything that it can deduce. -/
def activeServer : Serving → Nat → Choice → Prop :=
  fun configuration process choice =>
    ∀ request,
      (configuration.pool process).operation? = some (.fetch request) →
        Deducible (configuration.state ++ [request]) choice.body

/--
A lookup is answered with a public key that a client has generated, or with no
public key.
-/
def genuineLookup : Serving → Nat → Choice → Prop :=
  fun configuration process choice =>
    ∀ userID identifier,
      (configuration.pool process).operation? =
          some (.fetch (.lookupPublicKey userID identifier)) →
        Genuine choice.body

/-- What a platform draws on a device, and a body. -/
def drawing (process : Nat) (body : Option Body) : Choice where
  entropy := [UInt8.ofNat process]
  keyPair := ([UInt8.ofNat process], [UInt8.ofNat process])
  body := body

/-- The item that is shared. -/
def sharedFields : Json.Members :=
  [("name", .string "n"), ("password", .string "secret")]

/-- A sender who shares one item, and a recipient who lists what is shared. -/
def senderAndRecipient : Nat → List Activity
  | 0 => [.registerAccount "a" "p", .shareItem "u" "b" sharedFields]
  | 1 => [.registerAccount "b" "q", .listSharedWithMe "v"]
  | _ => []

/-- What a device registers. -/
def registeredOn (process : Nat) (identifier password : String) :
    RegisterRequest :=
  let choice := drawing process none
  (registrationBundle plainPlatform.caseMapping identifier password
    Crypto.DEFAULT_KDF (choice.bytes USER_KEY_BYTES) (choice.bytes 12)
    choice.keyPair (choice.bytes 12)).request

/-- A device registers and signs in. -/
def registering (process : Nat) (req : RegisterRequest) :
    List (Nat × Choice) :=
  List.replicate 4 (process, drawing process none) ++
    [(process, drawing process (some .other)),
      (process, drawing process (some (.login "t" "r" req.protectedUserKey
        req.protectedPrivateKey req.kdf)))]

/-- Both devices register, then the sender is given a key and shares its item. -/
def sharingFor (spki : Message) : List (Nat × Choice) :=
  registering 1 (registeredOn 1 "b" "q") ++
    registering 0 (registeredOn 0 "a" "p") ++
    [(0, drawing 0 (some (.publicKey spki)))] ++
    List.replicate 3 (0, drawing 0 none) ++
    [(0, drawing 0 (some .other))]

/-- The share that the sender uploads for a key. -/
def uploadedFor (privateKey : Message) : ShareEnvelope where
  wrappedKey :=
    .wrap privateKey (.atom (.itemKey ((drawing 0 none).bytes 32)))
      (.atom (.seed ((drawing 0 none).bytes 32)))
  data :=
    sealEnvelope (.atom (.itemKey ((drawing 0 none).bytes 32)))
      (itemPlaintext sharedFields) ((drawing 0 none).bytes 12)

/-- The recipient's own key is answered, and the recipient is given the share. -/
def genuineAnswers : List (Nat × Choice) :=
  sharingFor (registeredOn 1 "b" "q").publicKey ++
    [(1, drawing 1 (some
      (.shares [uploadedFor (.atom (.privateKey (drawing 1 none).keyPair))])))]

/-- The private key of the server's own. -/
def forgedPrivateKey : Message :=
  .constant [7]

/-- A body that consists of what was received and of keys of the server's own. -/
def isForgeable (received : List Request) (body : Option Body) : Bool :=
  body.all fun sent =>
    sent.messages.all fun message =>
      received.any (fun request => request.messages.contains message) ||
        message = .publicKey forgedPrivateKey

/-- Whether a step is no request or is answered with such a body. -/
def answersForgeable
    (configuration : Serving)
    (process : Nat)
    (choice : Choice) :
    Bool :=
  match (configuration.pool process).operation? with
  | some (.fetch request) =>
      isForgeable (configuration.state ++ [request]) choice.body
  | _ => true

/-- The server deduces what it received and keys of its own. -/
theorem activeServer_of_answersForgeable
    {configuration : Serving}
    {process : Nat}
    {choice : Choice}
    (forgeable : answersForgeable configuration process choice = true) :
    activeServer configuration process choice := by
  intro request isNext sent isBody message isMessage
  rw [answersForgeable, isNext] at forgeable
  have isSent := (Option.all_eq_true _ _).mp forgeable sent isBody
  have each := List.all_eq_true.mp isSent message isMessage
  rcases Bool.or_eq_true_iff.mp each with wasReceived | isForged
  · obtain ⟨other, isReceived, shown⟩ := List.any_eq_true.mp wasReceived
    exact .seen ⟨other, isReceived, List.contains_iff_mem.mp shown⟩
  · rw [of_decide_eq_true isForged]
    exact .publicKey (.constant _)

/-- A server that hands out genuine keys only answers lookups with them. -/
theorem active_and_genuine_of_honestKeys
    {configuration : Serving}
    {process : Nat}
    {choice : Choice}
    (honest : honestKeys configuration process choice) :
    activeServer configuration process choice ∧
      genuineLookup configuration process choice :=
  ⟨fun request isNext => (honest request isNext).1,
    fun _ _ isNext => (honest _ isNext).2⟩

end Passwd.Symbolic
