import Passwd.SymbolicClient

namespace Passwd.Symbolic

open Base64 Utf8 Interaction Deduction
open Crypto (KdfParams MASTER_PASSWORD_HASH_DOMAIN)
open Client (USER_KEY_BYTES)

/-!
# What a server learns

Any number of devices run any operations of their users against one server,
interleaved call by call.  The server records everything that it receives.  It
may answer with whatever it can deduce from its record, which covers every
stored field, every decoy and everything else that a server following the
protocol computes; only the public keys that it hands out are taken to be
genuine.

The invariant behind secrecy is a policy.  It keeps every password, key and
plaintext secret, gives away the two authentication hashes, and lets a derived
key protect nothing but a User Key.
-/

/-!
## Devices
-/

/-- What a platform provides besides randomness. -/
structure Platform where
  caseMapping : Identifier.CaseMapping
  wordlist : Nat → String

/-- One thing that a user does on a device. -/
inductive Activity where
  | registerAccount (identifier masterPassword : String)
  | loginAccount (identifier masterPassword totpCode : String)
  | loginWithPasskey
      (startAuthentication : String → Option String)
      (identifier masterPassword : String)
  | enableRecovery (userID : String)
  | disableRecovery (userID : String)
  | recoverAccount (identifier recoveryCode newMasterPassword : String)
  | addItem (userID : String) (fields : Json.Members)
  | saveItem (userID id : String) (fields : Json.Members)
  | addLegacyItem (userID : String) (fields : Json.Members)
  | shareItem (userID recipientIdentifier : String) (fields : Json.Members)
  | listSharedWithMe (userID : String)

/-- An operation for which a session must be open; it leaves it open. -/
def unlocked
    {α : Type}
    (session : Option Session)
    (operation : Session → Client α) :
    Client (Option Session) :=
  match session with
  | none => return none
  | some s => do
      let _ ← operation s
      return some s

/-- Perform an activity in a session; what is left is the session after it. -/
def Activity.program (platform : Platform) (session : Option Session) :
    Activity → Client (Option Session)
  | .registerAccount identifier masterPassword =>
      Symbolic.registerAccount platform.caseMapping identifier masterPassword
  | .loginAccount identifier masterPassword totpCode =>
      Symbolic.loginAccount platform.caseMapping identifier masterPassword
        totpCode
  | .loginWithPasskey startAuthentication identifier masterPassword =>
      Symbolic.loginWithPasskey platform.caseMapping startAuthentication
        identifier masterPassword
  | .enableRecovery userID =>
      unlocked session (Symbolic.enableRecovery platform.wordlist userID)
  | .disableRecovery userID =>
      unlocked session fun _ => Symbolic.disableRecovery userID
  | .recoverAccount identifier recoveryCode newMasterPassword =>
      Symbolic.recoverAccount platform.caseMapping identifier recoveryCode
        newMasterPassword
  | .addItem userID fields =>
      unlocked session fun s => Symbolic.addItem userID s fields
  | .saveItem userID id fields =>
      unlocked session fun s => Symbolic.saveItem userID s id fields
  | .addLegacyItem userID fields =>
      unlocked session fun s => Symbolic.addLegacyItem userID s fields
  | .shareItem userID recipientIdentifier fields =>
      unlocked session fun _ =>
        Symbolic.shareItem userID recipientIdentifier fields
  | .listSharedWithMe userID =>
      unlocked session (Symbolic.listSharedWithMe userID)

/-- A device on which activities are performed one after the other. -/
def device (platform : Platform) :
    Option Session → List Activity → Client (Option Session)
  | session, [] => return session
  | session, activity :: rest => do
      let later ← activity.program platform session
      device platform later rest

/-!
## The server
-/

/-- What decides the answers; the body is the server's choice. -/
structure Choice where
  entropy : Bytes
  keyPair : Bytes × Bytes
  body : Option Body

/-- `n` random bytes. -/
def Choice.bytes (choice : Choice) (n : Nat) : Bytes :=
  (choice.entropy ++ List.replicate n 0).take n

/-- The effect of a call; the state is what the server has received. -/
def execute (choice : Choice) (received : List Request) :
    (operation : Operation) → Answer operation × List Request
  | .randomBytes n => (choice.bytes n, received)
  | .generateKey => (choice.keyPair, received)
  | .fetch request => (choice.body, received ++ [request])

/-- The messages in a record. -/
def known (received : List Request) : Set Message :=
  { message | ∃ request ∈ received, message ∈ request.messages }

/-- A body that can be deduced from a record. -/
def Deducible (received : List Request) (body : Option Body) : Prop :=
  ∀ sent ∈ body, ∀ message ∈ sent.messages, Derivable (known received) message

/-- A body hands out no public key but one that a client has generated. -/
def Genuine (body : Option Body) : Prop :=
  ∀ spki, body = some (.publicKey spki) →
    ∃ keyPair, spki = .publicKey (.atom (.privateKey keyPair))

/-- The devices and what the server has received from them. -/
abbrev Serving := Configuration clientCalls (List Request) (Option Session)

/-- The devices before anything has been sent. -/
def devices (platform : Platform) (activities : Nat → List Activity) :
    Serving :=
  .initial [] fun process => device platform none (activities process)

/-- The server deduces its answers and hands out genuine public keys. -/
def honestKeys : Serving → Nat → Choice → Prop :=
  fun configuration process choice =>
    ∀ request,
      (configuration.pool process).operation? = some (.fetch request) →
        Deducible (configuration.state ++ [request]) choice.body ∧
          Genuine choice.body

/-!
## Secrets
-/

/-- What only the clients of an account ever know. -/
inductive Secret (caseMapping : Identifier.CaseMapping) : Message → Prop where
  | masterPassword (masterPassword : String) :
      Secret caseMapping (.atom (.masterPassword masterPassword))
  | masterKey (masterPassword identifier : String) (params : KdfParams) :
      Secret caseMapping
        (deriveMasterKey caseMapping masterPassword identifier params)
  | encKey (masterPassword identifier : String) (params : KdfParams) :
      Secret caseMapping
        (stretchMasterKey
          (deriveMasterKey caseMapping masterPassword identifier params)).encKey
  | macKey (masterPassword identifier : String) (params : KdfParams) :
      Secret caseMapping
        (stretchMasterKey
          (deriveMasterKey caseMapping masterPassword identifier params)).macKey
  | userKey (bytes : Bytes) : Secret caseMapping (generatedUserKey bytes)
  | userKeyHalf (bytes : Bytes) :
      Secret caseMapping (Symbolic.itemKey (generatedUserKey bytes))
  | itemKey (bytes : Bytes) : Secret caseMapping (.atom (.itemKey bytes))
  | plaintext (fields : Json.Members) :
      Secret caseMapping (itemPlaintext fields)
  | privateKey (keyPair : Bytes × Bytes) :
      Secret caseMapping (.atom (.privateKey keyPair))
  | recoveryCode (recoveryCode : String) :
      Secret caseMapping (.atom (.recoveryCode recoveryCode))
  | recoveryEncKey (recoveryCode : String) :
      Secret caseMapping (deriveRecoveryKeys recoveryCode).recoveryEncKey

/-!
## The policy
-/

/-- Nonces and seeds are the only atoms that are no secrets. -/
def Name.Secret : Name → Prop
  | .nonce _ => False
  | .seed _ => False
  | _ => True

/-- The two hashes that authenticate a client. -/
def Released : Derivation → Message → Message → Prop
  | .pbkdf2 _ _, _, .pair domain _ => domain = text MASTER_PASSWORD_HASH_DOMAIN
  | .hkdfExpand _, _, info => info = text "recovery-auth"
  | _, _, _ => False

/-- A User Key that a client has drawn. -/
def IsUserKey (userKey : Message) : Prop :=
  ∃ half reserve,
    userKey = .pair (.atom (.userKeyHalf half)) (.atom (.userKeyReserve reserve))

/-- Derived keys protect User Keys only; drawn keys protect anything. -/
def Protects : Message → Message → Prop
  | .digest _ _ _, plaintext => IsUserKey plaintext
  | _, _ => True

/-- What clients let the server see. -/
def clientPolicy : Policy Name Derivation Bytes where
  secret := Name.Secret
  released := Released
  protects := Protects

/-- A message that the server may see. -/
abbrev Permits : Message → Prop := clientPolicy.Permits

section Policy

variable {caseMapping : Identifier.CaseMapping}

/-- No constructor of a text is a pair. -/
@[simp] theorem permits_text (s : String) : Permits (text s) :=
  trivial

/-- Nonces are permitted. -/
@[simp] theorem permits_nonce (bytes : Bytes) : Permits (.atom (.nonce bytes)) :=
  id

/-- A User Key is forbidden, and so is the half of it that encrypts. -/
theorem IsUserKey.forbidden
    {userKey : Message}
    (isUserKey : IsUserKey userKey) :
    ¬ Permits userKey ∧ ¬ Permits (itemKey userKey) := by
  obtain ⟨half, reserve, rfl⟩ := isUserKey
  exact ⟨fun permitted => permitted.1 trivial, fun permitted => permitted trivial⟩

/-- A drawn User Key is one. -/
theorem isUserKey_generatedUserKey (bytes : Bytes) :
    IsUserKey (generatedUserKey bytes) :=
  ⟨_, _, rfl⟩

/-- Whatever its parameters, a key derived from a password is forbidden. -/
theorem not_permits_deriveMasterKey
    (masterPassword identifier : String)
    (params : KdfParams) :
    ¬ Permits (deriveMasterKey caseMapping masterPassword identifier params) := by
  have password : ¬ Permits (.atom (.masterPassword masterPassword)) :=
    fun permitted => permitted trivial
  rw [deriveMasterKey, deriveKey]
  split
  · rintro (released | parts)
    · exact released
    · exact password parts.1
  · rintro (released | parts)
    · exact released
    · exact password parts.1

/-- Expanding a forbidden key gives a forbidden key but for one label. -/
theorem not_permits_hkdfExpand
    {prk : Message}
    {info : String}
    (forbidden : ¬ Permits prk)
    (label : utf8 info ≠ utf8 "recovery-auth")
    (length : Nat) :
    ¬ Permits (hkdfExpand prk info length) := by
  rintro (released | parts)
  · exact label (Message.constant.inj released)
  · exact forbidden parts.1

/-- What recovery keys are expanded from is forbidden. -/
theorem not_permits_recoveryBase (recoveryCode : String) :
    ¬ Permits (recoveryBase recoveryCode) := by
  rintro (released | parts)
  · exact released
  · exact parts.1 trivial

/-- The key that wraps a User Key for its password is forbidden. -/
theorem not_permits_encKey
    (masterPassword identifier : String)
    (params : KdfParams) :
    ¬ Permits
      (stretchMasterKey
        (deriveMasterKey caseMapping masterPassword identifier params)).encKey :=
  not_permits_hkdfExpand (not_permits_deriveMasterKey _ _ _) (by decide) 32

/-- The key that wraps a User Key for its recovery code is forbidden. -/
theorem not_permits_recoveryEncKey (recoveryCode : String) :
    ¬ Permits (deriveRecoveryKeys recoveryCode).recoveryEncKey :=
  not_permits_hkdfExpand (not_permits_recoveryBase _) (by decide) 32

/-- Every secret is forbidden. -/
theorem Secret.forbidden
    {message : Message}
    (secret : Secret caseMapping message) :
    ¬ Permits message := by
  cases secret with
  | masterPassword masterPassword =>
      exact fun permitted => permitted trivial
  | masterKey masterPassword identifier params =>
      exact not_permits_deriveMasterKey _ _ _
  | encKey masterPassword identifier params =>
      exact not_permits_encKey _ _ _
  | macKey masterPassword identifier params =>
      exact not_permits_hkdfExpand (not_permits_deriveMasterKey _ _ _)
        (by decide) 32
  | userKey bytes =>
      exact (isUserKey_generatedUserKey bytes).forbidden.1
  | userKeyHalf bytes =>
      exact (isUserKey_generatedUserKey bytes).forbidden.2
  | itemKey bytes =>
      exact fun permitted => permitted trivial
  | plaintext fields =>
      exact fun permitted => permitted trivial
  | privateKey keyPair =>
      exact fun permitted => permitted trivial
  | recoveryCode recoveryCode =>
      exact fun permitted => permitted trivial
  | recoveryEncKey recoveryCode =>
      exact not_permits_recoveryEncKey _

/-!
## What clients send
-/

/-- Every message of a list is permitted. -/
abbrev PermitsAll (messages : List Message) : Prop :=
  ∀ message ∈ messages, Permits message

/-- The hash of a password may be sent, whatever key it is salted with. -/
theorem permits_deriveMasterPasswordHash
    (masterKey : Message)
    (masterPassword : String) :
    Permits (deriveMasterPasswordHash masterKey masterPassword) :=
  Or.inl rfl

/-- The hash of a recovery code may be sent. -/
theorem permits_recoveryAuthHash (recoveryCode : String) :
    Permits (deriveRecoveryKeys recoveryCode).recoveryAuthHash :=
  Or.inl rfl

/-- An envelope under a forbidden key shows what that key may protect. -/
theorem permits_sealEnvelope
    {key plaintext : Message}
    (forbidden : ¬ Permits key)
    (protects : Protects key plaintext)
    (nonce : Bytes) :
    PermitsAll (sealEnvelope key plaintext nonce).messages := by
  have ciphertext :
      Permits (.encrypt key (.atom (.nonce nonce)) plaintext) :=
    Policy.permits_encrypt _ forbidden protects
  simpa [PermitsAll, Envelope.messages, sealEnvelope] using ciphertext

/-- What the half of a User Key encrypts may be sent. -/
theorem permits_sealed_itemKey
    {userKey : Message}
    (isUserKey : IsUserKey userKey)
    (plaintext : Message)
    (nonce : Bytes) :
    PermitsAll (sealEnvelope (itemKey userKey) plaintext nonce).messages := by
  refine permits_sealEnvelope isUserKey.forbidden.2 ?_ nonce
  obtain ⟨half, reserve, rfl⟩ := isUserKey
  trivial

/-- A stored item with a key of its own may be sent. -/
theorem permits_encryptItemKeyed
    {userKey : Message}
    (isUserKey : IsUserKey userKey)
    (plaintext : Message)
    (key dataNonce keyNonce : Bytes) :
    PermitsAll
      (encryptItemKeyed userKey plaintext key dataNonce keyNonce).messages := by
  have forbidden : ¬ Permits (.atom (.itemKey key)) :=
    fun permitted => permitted trivial
  have wrapped := permits_sealed_itemKey isUserKey (.atom (.itemKey key)) keyNonce
  have encrypted :=
    @permits_sealEnvelope (.atom (.itemKey key)) plaintext forbidden trivial
      dataNonce
  intro message member
  rcases List.mem_append.mp member with inKey | inData
  · exact wrapped message inKey
  · exact encrypted message inData

/-- What opens under a derived key is a User Key. -/
theorem isUserKey_of_openEnvelope
    {function : Derivation}
    {key input userKey : Message}
    {envelope : Envelope}
    (permitted : PermitsAll envelope.messages)
    (forbidden : ¬ Permits (.digest function key input))
    (opened : openEnvelope (.digest function key input) envelope = some userKey) :
    IsUserKey userKey := by
  have ciphertext : Permits envelope.data :=
    permitted _ (by simp [Envelope.messages])
  unfold openEnvelope at opened
  split at opened
  · rename_i used nonce plaintext shape
    split at opened
    · rename_i matching
      cases opened
      rw [shape, matching.1] at ciphertext
      exact Policy.protects_of_permits ciphertext forbidden
    · cases opened
  · cases opened

/-!
## What an operation guarantees
-/

/-- A request for the public key of a user. -/
def Request.isLookup : Request → Bool
  | .lookupPublicKey _ _ => true
  | _ => false

/-- An answer that keeps to the policy; a lookup is given no forged key. -/
def Trusted : (operation : Operation) → Answer operation → Prop
  | .fetch request, body =>
      (∀ sent ∈ body, PermitsAll sent.messages) ∧
        (request.isLookup = true → Genuine body)
  | .randomBytes _, _ => True
  | .generateKey, _ => True

/-- A call that shows the server permitted messages only. -/
def Discreet : Operation → Prop
  | .fetch request => PermitsAll request.messages
  | _ => True

/-- A client that sends permitted messages as long as its answers are trusted. -/
abbrev Safe {α : Type} (result : α → Prop) (client : Client α) : Prop :=
  client.Guarantees Trusted Discreet result

/-- An open session holds a User Key. -/
def Keyed (session : Option Session) : Prop :=
  ∀ s ∈ session, IsUserKey s.userKey

/-- A session that did not open holds nothing. -/
@[simp] theorem keyed_none : Keyed none := by
  intro s member
  cases member

/-- A request that shows permitted messages is safe to send. -/
theorem safe_call
    {request : Request}
    (permitted : PermitsAll request.messages) :
    Safe
      (fun body =>
        (∀ sent ∈ body, PermitsAll sent.messages) ∧
          (request.isLookup = true → Genuine body))
      (call request) :=
  ⟨permitted, fun _ trusted => trusted⟩

/-- Drawing bytes shows the server nothing. -/
theorem safe_randomBytes
    {α : Type}
    {result : α → Prop}
    (n : Nat)
    {next : Bytes → Client α}
    (rest : ∀ bytes, Safe result (next bytes)) :
    Safe result (ask (.randomBytes n) >>= next) :=
  ⟨trivial, fun bytes _ => rest bytes⟩

/-- What a sign-in returns was permitted. -/
theorem permits_of_loginResult
    {body : Option Body}
    (permitted : ∀ sent ∈ body, PermitsAll sent.messages)
    {res : LoginResult}
    (decoded : body.bind loginResult = some res) :
    PermitsAll res.protectedUserKey.messages := by
  obtain ⟨sent, isBody, isLogin⟩ := Option.bind_eq_some_iff.mp decoded
  cases sent with
  | login accessToken refreshToken protectedUserKey protectedPrivateKey kdf =>
      cases isLogin
      intro message member
      exact permitted _ isBody message (List.mem_append_left _ member)
  | _ =>
      cases isLogin

/-- Signing in sends the hash of a password. -/
theorem safe_login
    {masterPasswordHash : Message}
    (permitted : Permits masterPasswordHash)
    (identifier totpCode : String) :
    Safe (fun res => ∀ r ∈ res, PermitsAll r.protectedUserKey.messages)
      (login identifier masterPasswordHash totpCode) := by
  refine Program.Guarantees.bind (safe_call ?_) ?_
  · simpa [PermitsAll, Request.messages] using permitted
  · intro body trusted r isResult
    exact permits_of_loginResult trusted.1 isResult

/-- Asking for KDF parameters shows an identifier. -/
theorem safe_prelogin (identifier : String) :
    Safe (fun _ => True) (prelogin identifier) := by
  refine Program.Guarantees.bind (safe_call ?_) ?_
  · simp [PermitsAll, Request.messages]
  · intro body _
    split <;> trivial

/-- Signing in opens sessions of User Keys. -/
theorem keyed_openSession
    (masterPassword identifier : String)
    (params : KdfParams)
    {res : LoginResult}
    (permitted : PermitsAll res.protectedUserKey.messages) :
    Keyed
      (openSession identifier
        (deriveMasterKey caseMapping masterPassword identifier params) res) := by
  intro s opened
  obtain ⟨userKey, unwrapped, rfl⟩ := Option.map_eq_some_iff.mp opened
  exact isUserKey_of_openEnvelope permitted (not_permits_encKey _ _ _) unwrapped

/-- A registration may be sent. -/
theorem permits_registrationBundle
    (identifier masterPassword : String)
    (params : KdfParams)
    (userKey keyNonce : Bytes)
    (keyPair : Bytes × Bytes)
    (privateNonce : Bytes) :
    PermitsAll
      (Request.messages (.register
        (registrationBundle caseMapping identifier masterPassword params userKey
          keyNonce keyPair privateNonce).request)) := by
  have isUserKey := isUserKey_generatedUserKey userKey
  have wrapped :=
    permits_sealEnvelope
      (@not_permits_encKey caseMapping masterPassword identifier params)
      isUserKey keyNonce
  have privateWrapped :=
    permits_sealed_itemKey isUserKey (.atom (.privateKey keyPair)) privateNonce
  have hash :=
    permits_deriveMasterPasswordHash
      (deriveMasterKey caseMapping masterPassword identifier params)
      masterPassword
  have spki : Permits (.publicKey (.atom (.privateKey keyPair))) :=
    trivial
  intro message member
  simp only [Request.messages, registrationBundle, List.mem_append,
    List.mem_cons, List.not_mem_nil, or_false] at member
  rcases member with ((rfl | rfl | rfl) | inUserKey) | inPrivateKey
  · exact permits_text _
  · exact hash
  · exact spki
  · exact wrapped message inUserKey
  · exact privateWrapped message inPrivateKey

/-- Building a registration gives what may be sent and a User Key. -/
theorem safe_buildRegistration
    (identifier masterPassword : String)
    (params : KdfParams) :
    Safe
      (fun bundle =>
        PermitsAll (Request.messages (.register bundle.request)) ∧
          IsUserKey bundle.userKey)
      (buildRegistration caseMapping identifier masterPassword params) := by
  refine safe_randomBytes _ fun userKey => safe_randomBytes _ fun keyNonce => ?_
  refine ⟨trivial, fun keyPair _ => safe_randomBytes _ fun privateNonce => ?_⟩
  exact ⟨permits_registrationBundle _ _ _ _ _ _ _,
    isUserKey_generatedUserKey userKey⟩

/-- Registering guarantees the policy. -/
theorem safe_registerAccount (identifier masterPassword : String) :
    Safe Keyed (registerAccount caseMapping identifier masterPassword) := by
  refine Program.Guarantees.bind (safe_buildRegistration _ _ _) ?_
  rintro bundle ⟨mayBeSent, isUserKey⟩
  refine Program.Guarantees.bind (safe_call mayBeSent) ?_
  intro registered _
  cases registered with
  | none =>
      exact keyed_none
  | some _ =>
      refine Program.Guarantees.bind
        (safe_login (mayBeSent _ (by simp [Request.messages])) _ _) ?_
      intro res _ s opened
      obtain ⟨r, -, rfl⟩ := Option.map_eq_some_iff.mp opened
      exact isUserKey

/-- Signing in with a password guarantees the policy. -/
theorem safe_loginAccount (identifier masterPassword totpCode : String) :
    Safe Keyed
      (loginAccount caseMapping identifier masterPassword totpCode) := by
  refine Program.Guarantees.bind (safe_prelogin identifier) ?_
  intro kdf _
  cases kdf with
  | none =>
      exact keyed_none
  | some kdf =>
      refine Program.Guarantees.bind
        (safe_login (permits_deriveMasterPasswordHash _ _) _ _) ?_
      intro res permitted s opened
      obtain ⟨r, isResult, isOpened⟩ := Option.bind_eq_some_iff.mp opened
      exact keyed_openSession _ _ _ (permitted r isResult) s isOpened

/-- Beginning a passkey sign-in shows the hash of a password. -/
theorem safe_webauthnLoginBegin
    {masterPasswordHash : Message}
    (permitted : Permits masterPasswordHash)
    (identifier : String) :
    Safe (fun _ => True)
      (webauthnLoginBegin identifier masterPasswordHash) := by
  refine Program.Guarantees.bind (safe_call ?_) ?_
  · simpa [PermitsAll, Request.messages] using permitted
  · intro body _
    split <;> trivial

/-- Signing in with a passkey guarantees the policy. -/
theorem safe_loginWithPasskey
    (startAuthentication : String → Option String)
    (identifier masterPassword : String) :
    Safe Keyed
      (loginWithPasskey caseMapping startAuthentication identifier
        masterPassword) := by
  refine Program.Guarantees.bind (safe_prelogin identifier) ?_
  intro kdf _
  cases kdf with
  | none =>
      exact keyed_none
  | some kdf =>
      have hash :=
        permits_deriveMasterPasswordHash
          (deriveMasterKey caseMapping masterPassword identifier kdf)
          masterPassword
      refine Program.Guarantees.bind (safe_webauthnLoginBegin hash identifier) ?_
      intro begun _
      cases begun with
      | none =>
          exact keyed_none
      | some ceremony =>
          cases signed : startAuthentication ceremony.2 with
          | none =>
              simp only [signed]
              exact keyed_none
          | some assertion =>
              simp only [signed]
              refine Program.Guarantees.bind (safe_call ?_) ?_
              · simpa [PermitsAll, Request.messages] using hash
              · intro body trusted s opened
                obtain ⟨r, isResult, isOpened⟩ :=
                  Option.bind_eq_some_iff.mp opened
                exact keyed_openSession _ _ _
                  (permits_of_loginResult trusted.1 isResult) s isOpened

/-- Drawing words shows the server nothing. -/
theorem safe_generateWords (wordlist : Nat → String) (words : Nat) :
    Safe (fun _ => True) (generateWords wordlist words) := by
  induction words with
  | zero =>
      trivial
  | succ words inductionHypothesis =>
      exact safe_randomBytes 4 fun _ =>
        Program.Guarantees.bind inductionHypothesis fun _ _ => trivial

/-- Drawing a recovery code shows the server nothing. -/
theorem safe_generateAccountId (wordlist : Nat → String) (words : Nat) :
    Safe (fun _ => True) (generateAccountId wordlist words) :=
  Program.Guarantees.bind (safe_generateWords wordlist words)
    fun _ _ => trivial

/-- Enabling recovery guarantees the policy. -/
theorem safe_enableRecovery
    (wordlist : Nat → String)
    (userID : String)
    {s : Session}
    (isUserKey : IsUserKey s.userKey) :
    Safe (fun _ => True) (enableRecovery wordlist userID s) := by
  have enrolled :
      Safe
        (fun enrollment =>
          Permits enrollment.recoveryAuthHash ∧
            PermitsAll enrollment.recoveryProtectedUserKey.messages)
        (enrollRecovery wordlist s.userKey) := by
    refine Program.Guarantees.bind (safe_generateAccountId wordlist 24) ?_
    intro recoveryCode _
    refine safe_randomBytes _ fun nonce => ?_
    exact ⟨permits_recoveryAuthHash recoveryCode,
      permits_sealEnvelope (not_permits_recoveryEncKey recoveryCode) isUserKey
        nonce⟩
  refine Program.Guarantees.bind enrolled ?_
  intro enrollment permitted
  refine Program.Guarantees.bind (safe_call ?_) fun _ _ => trivial
  intro message member
  simp only [Request.messages, List.mem_append, List.mem_cons,
    List.not_mem_nil, or_false] at member
  rcases member with (rfl | rfl) | inEnvelope
  · exact permits_text _
  · exact permitted.1
  · exact permitted.2 message inEnvelope

/-- Disabling recovery guarantees the policy. -/
theorem safe_disableRecovery (userID : String) :
    Safe (fun _ => True) (disableRecovery userID) := by
  refine Program.Guarantees.bind (safe_call ?_) fun _ _ => trivial
  simp [PermitsAll, Request.messages]

/-- Asking for a recovery challenge returns a permitted envelope. -/
theorem safe_recoveryChallenge (identifier : String) :
    Safe (fun challenge => ∀ c ∈ challenge, PermitsAll c.1.messages)
      (recoveryChallenge identifier) := by
  refine Program.Guarantees.bind (safe_call ?_) ?_
  · simp [PermitsAll, Request.messages]
  · intro body trusted
    split
    · intro c isChallenge
      cases isChallenge
      exact trusted.1 _ rfl
    · intro c isChallenge
      cases isChallenge

/-- A recovery rewraps a User Key, and what it sends is permitted. -/
theorem completeRecovery_of_some
    {recoveryCode identifier newMasterPassword : String}
    {recoveryProtectedUserKey : Envelope}
    {params : KdfParams}
    {nonce : Bytes}
    {reset : RecoveryReset}
    (permitted : PermitsAll recoveryProtectedUserKey.messages)
    (completed :
      completeRecovery caseMapping recoveryCode recoveryProtectedUserKey
        identifier newMasterPassword params nonce = some reset) :
    IsUserKey reset.userKey ∧
      PermitsAll (Request.messages (.recoveryComplete reset.request)) := by
  obtain ⟨userKey, unwrapped, rfl⟩ := Option.map_eq_some_iff.mp completed
  have isUserKey : IsUserKey userKey :=
    isUserKey_of_openEnvelope permitted (not_permits_recoveryEncKey _) unwrapped
  have wrapped :=
    permits_sealEnvelope
      (@not_permits_encKey caseMapping newMasterPassword identifier params)
      isUserKey nonce
  refine ⟨isUserKey, ?_⟩
  intro message member
  simp only [Request.messages, List.mem_append, List.mem_cons,
    List.not_mem_nil, or_false] at member
  rcases member with (rfl | rfl | rfl) | inUserKey
  · exact permits_text _
  · exact permits_recoveryAuthHash _
  · exact permits_deriveMasterPasswordHash _ _
  · exact wrapped message inUserKey

/-- Recovering an account guarantees the policy. -/
theorem safe_recoverAccount
    (identifier recoveryCode newMasterPassword : String) :
    Safe Keyed
      (recoverAccount caseMapping identifier recoveryCode
        newMasterPassword) := by
  refine Program.Guarantees.bind (safe_recoveryChallenge identifier) ?_
  intro challenge permitted
  cases challenge with
  | none =>
      exact keyed_none
  | some challenge =>
      refine safe_randomBytes _ fun nonce => ?_
      cases completed : completeRecovery caseMapping recoveryCode challenge.1
          identifier newMasterPassword challenge.2 nonce with
      | none =>
          exact keyed_none
      | some reset =>
          obtain ⟨isUserKey, mayBeSent⟩ :=
            completeRecovery_of_some (permitted challenge rfl) completed
          refine Program.Guarantees.bind (safe_call mayBeSent) ?_
          intro body _ s opened
          obtain ⟨r, -, rfl⟩ := Option.map_eq_some_iff.mp opened
          exact isUserKey

/-- Encrypting an item gives what may be sent. -/
theorem safe_encryptFields
    {s : Session}
    (isUserKey : IsUserKey s.userKey)
    (fields : Json.Members) :
    Safe (fun data => PermitsAll data.messages) (encryptFields s fields) :=
  safe_randomBytes _ fun _ => safe_randomBytes _ fun _ =>
    safe_randomBytes _ fun _ => permits_encryptItemKeyed isUserKey _ _ _ _

/-- Adding an item guarantees the policy. -/
theorem safe_addItem
    (userID : String)
    {s : Session}
    (isUserKey : IsUserKey s.userKey)
    (fields : Json.Members) :
    Safe (fun _ => True) (addItem userID s fields) := by
  refine Program.Guarantees.bind (safe_encryptFields isUserKey fields) ?_
  intro data permitted
  refine Program.Guarantees.bind (safe_call ?_) fun _ _ => trivial
  intro message member
  rcases List.mem_cons.mp member with rfl | inItem
  · exact permits_text _
  · exact permitted message inItem

/-- Saving an item guarantees the policy. -/
theorem safe_saveItem
    (userID id : String)
    {s : Session}
    (isUserKey : IsUserKey s.userKey)
    (fields : Json.Members) :
    Safe (fun _ => True) (saveItem userID s id fields) := by
  refine Program.Guarantees.bind (safe_encryptFields isUserKey fields) ?_
  intro data permitted
  refine Program.Guarantees.bind (safe_call ?_) fun _ _ => trivial
  intro message member
  simp only [Request.messages, List.mem_append, List.mem_cons,
    List.not_mem_nil, or_false] at member
  rcases member with (rfl | rfl) | inItem
  · exact permits_text _
  · exact permits_text _
  · exact permitted message inItem

/-- Adding an item without a key of its own guarantees the policy. -/
theorem safe_addLegacyItem
    (userID : String)
    {s : Session}
    (isUserKey : IsUserKey s.userKey)
    (fields : Json.Members) :
    Safe (fun _ => True) (addLegacyItem userID s fields) := by
  refine safe_randomBytes _ fun nonce => ?_
  refine Program.Guarantees.bind (safe_call ?_) fun _ _ => trivial
  intro message member
  rcases List.mem_cons.mp member with rfl | inItem
  · exact permits_text _
  · exact permits_sealed_itemKey isUserKey _ nonce message inItem

/-- Looking up a public key returns a genuine one. -/
theorem safe_lookupPublicKey (userID identifier : String) :
    Safe
      (fun publicKey => ∀ spki ∈ publicKey,
        ∃ keyPair, spki = .publicKey (.atom (.privateKey keyPair)))
      (lookupPublicKey userID identifier) := by
  refine Program.Guarantees.bind (safe_call ?_) ?_
  · simp [PermitsAll, Request.messages]
  · intro body trusted
    split
    · intro spki isKey
      cases isKey
      exact trusted.2 rfl _ rfl
    · intro spki isKey
      cases isKey

/-- What is shared to a genuine public key may be sent. -/
theorem permits_shareEnvelope
    {keyPair : Bytes × Bytes}
    {plaintext : Message}
    {key nonce seed : Bytes}
    {envelope : ShareEnvelope}
    (shared :
      shareEnvelope (.publicKey (.atom (.privateKey keyPair))) plaintext key
        nonce seed = some envelope) :
    Permits envelope.wrappedKey ∧ PermitsAll envelope.data.messages := by
  have keyForbidden : ¬ Permits (.atom (.itemKey key)) :=
    fun permitted => permitted trivial
  have privateForbidden : ¬ Permits (.atom (.privateKey keyPair)) :=
    fun permitted => permitted trivial
  cases shared
  exact ⟨Policy.permits_wrap _ _ privateForbidden,
    permits_sealEnvelope keyForbidden trivial nonce⟩

/-- A share for a genuine public key gives what may be sent. -/
theorem safe_createShare
    (keyPair : Bytes × Bytes)
    (plaintext : Message) :
    Safe
      (fun shared => ∀ envelope ∈ shared,
        Permits envelope.wrappedKey ∧ PermitsAll envelope.data.messages)
      (createShare (.publicKey (.atom (.privateKey keyPair))) plaintext) :=
  safe_randomBytes _ fun _ => safe_randomBytes _ fun _ =>
    safe_randomBytes _ fun _ _ => permits_shareEnvelope

/-- Sharing an item guarantees the policy. -/
theorem safe_shareItem
    (userID recipientIdentifier : String)
    (fields : Json.Members) :
    Safe (fun _ => True) (shareItem userID recipientIdentifier fields) := by
  refine Program.Guarantees.bind
    (safe_lookupPublicKey userID recipientIdentifier) ?_
  intro publicKey genuine
  cases publicKey with
  | none =>
      trivial
  | some spki =>
      obtain ⟨keyPair, rfl⟩ := genuine spki rfl
      refine Program.Guarantees.bind (safe_createShare keyPair _) ?_
      intro shared permitted
      cases shared with
      | none =>
          trivial
      | some envelope =>
          obtain ⟨wrapped, encrypted⟩ := permitted envelope rfl
          refine Program.Guarantees.bind (safe_call ?_) fun _ _ => trivial
          intro message member
          simp only [Request.messages, List.mem_append, List.mem_cons,
            List.not_mem_nil, or_false] at member
          rcases member with (rfl | rfl | rfl) | inData
          · exact permits_text _
          · exact permits_text _
          · exact wrapped
          · exact encrypted message inData

/-- Listing shares shows the server an id; what opens stays on the device. -/
theorem safe_listSharedWithMe (userID : String) (s : Session) :
    Safe (fun _ => True) (listSharedWithMe userID s) := by
  refine Program.Guarantees.bind (safe_call ?_) ?_
  · simp [PermitsAll, Request.messages]
  · intro body _
    split
    · trivial
    · trivial

/-!
## Runs
-/

/-- An operation in an open session guarantees the policy. -/
theorem safe_unlocked
    {α : Type}
    {session : Option Session}
    (keyed : Keyed session)
    {operation : Session → Client α}
    (safe :
      ∀ s, IsUserKey s.userKey → Safe (fun _ => True) (operation s)) :
    Safe Keyed (unlocked session operation) := by
  cases session with
  | none =>
      exact keyed_none
  | some s =>
      exact (safe s (keyed s rfl)).bind fun _ _ => keyed

/-- Whatever a user does on a device, the device guarantees the policy. -/
theorem safe_activity
    (platform : Platform)
    {session : Option Session}
    (keyed : Keyed session)
    (activity : Activity) :
    Safe Keyed (activity.program platform session) := by
  cases activity with
  | registerAccount identifier masterPassword =>
      exact safe_registerAccount _ _
  | loginAccount identifier masterPassword totpCode =>
      exact safe_loginAccount _ _ _
  | loginWithPasskey startAuthentication identifier masterPassword =>
      exact safe_loginWithPasskey _ _ _
  | enableRecovery userID =>
      exact safe_unlocked keyed fun _ => safe_enableRecovery _ userID
  | disableRecovery userID =>
      exact safe_unlocked keyed fun _ _ => safe_disableRecovery userID
  | recoverAccount identifier recoveryCode newMasterPassword =>
      exact safe_recoverAccount _ _ _
  | addItem userID fields =>
      exact safe_unlocked keyed fun _ isUserKey =>
        safe_addItem userID isUserKey fields
  | saveItem userID id fields =>
      exact safe_unlocked keyed fun _ isUserKey =>
        safe_saveItem userID id isUserKey fields
  | addLegacyItem userID fields =>
      exact safe_unlocked keyed fun _ isUserKey =>
        safe_addLegacyItem userID isUserKey fields
  | shareItem userID recipientIdentifier fields =>
      exact safe_unlocked keyed fun _ _ =>
        safe_shareItem userID recipientIdentifier fields
  | listSharedWithMe userID =>
      exact safe_unlocked keyed fun s _ => safe_listSharedWithMe userID s

/-- A device guarantees the policy whatever is done on it. -/
theorem safe_device
    (platform : Platform)
    {session : Option Session}
    (keyed : Keyed session)
    (activities : List Activity) :
    Safe Keyed (device platform session activities) := by
  induction activities generalizing session with
  | nil =>
      exact keyed
  | cons activity rest inductionHypothesis =>
      exact (safe_activity platform keyed activity).bind
        fun _ keyedLater => inductionHypothesis keyedLater

/-- What can be deduced from a permitted record may be trusted. -/
theorem permits_of_deducible
    {received : List Request}
    {body : Option Body}
    (permitted : ∀ request ∈ received, PermitsAll request.messages)
    (deducible : Deducible received body) :
    ∀ sent ∈ body, PermitsAll sent.messages := by
  intro sent isBody message member
  refine Policy.permits_of_derivable ?_ (deducible sent isBody message member)
  rintro seen ⟨request, isReceived, shown⟩
  exact permitted request isReceived seen shown

/-- The server deduces its answers, and its answers to lookups are genuine. -/
def genuineLookups : Serving → Nat → Choice → Prop :=
  fun configuration process choice =>
    ∀ request,
      (configuration.pool process).operation? = some (.fetch request) →
        Deducible (configuration.state ++ [request]) choice.body ∧
          (request.isLookup = true → Genuine choice.body)

/-- Every run shows the server permitted messages only. -/
theorem permits_received
    {platform : Platform}
    {activities : Nat → List Activity}
    {final : Serving}
    (reaches :
      Configuration.Reaches execute genuineLookups (devices platform activities)
        final) :
    ∀ request ∈ final.state, PermitsAll request.messages := by
  refine (reaches.guarantees
    (fun received => ∀ request ∈ received, PermitsAll request.messages)
    ?_ (fun process => safe_device platform keyed_none (activities process))
    ?_).1
  · intro request member
    cases member
  · intro configuration process operation next choice permitted discreet shape
      answered
    cases operation with
    | randomBytes n =>
        exact ⟨trivial, permitted⟩
    | generateKey =>
        exact ⟨trivial, permitted⟩
    | fetch request =>
        obtain ⟨deducible, genuine⟩ := answered request (by rw [shape]; rfl)
        have allPermitted :
            ∀ other ∈ configuration.state ++ [request],
              PermitsAll other.messages := by
          intro other member
          rcases List.mem_append.mp member with old | new
          · exact permitted other old
          · rw [List.mem_singleton.mp new]
            exact discreet
        exact ⟨⟨permits_of_deducible allPermitted deducible, genuine⟩,
          allPermitted⟩

/--
Zero knowledge: in every run, no secret can be deduced from all that the server
has received.
-/
theorem zeroKnowledge
    {platform : Platform}
    {activities : Nat → List Activity}
    {final : Serving}
    (reaches :
      Configuration.Reaches execute honestKeys (devices platform activities)
        final)
    {message : Message}
    (secret : Secret platform.caseMapping message) :
    ¬ Derivable (known final.state) message := by
  refine Policy.not_derivable ?_ secret.forbidden
  rintro seen ⟨request, isReceived, shown⟩
  have genuine :
      Configuration.Reaches execute genuineLookups
        (devices platform activities) final := by
    refine reaches.mono ?_
    intro configuration process choice honest request isNext
    obtain ⟨deducible, isGenuine⟩ := honest request isNext
    exact ⟨deducible, fun _ => isGenuine⟩
  exact permits_received genuine request isReceived seen shown

end Policy

/-!
## A run
-/

/-- A body of stored messages that hands out no public key but a client's. -/
def isStored (received : List Request) (body : Option Body) : Bool :=
  body.all fun sent =>
    (sent.messages.all fun message =>
      received.any fun request => request.messages.contains message) &&
    match sent with
    | .publicKey (.publicKey (.atom (.privateKey _))) => true
    | .publicKey _ => false
    | _ => true

/-- A server that answers with stored messages deduces its answers. -/
theorem honest_of_isStored
    {received : List Request}
    {body : Option Body}
    (stored : isStored received body = true) :
    Deducible received body ∧ Genuine body := by
  cases body with
  | none =>
      refine ⟨?_, ?_⟩
      · intro sent isBody
        cases isBody
      · intro spki isKey
        cases isKey
  | some sent =>
      obtain ⟨allStored, genuine⟩ := Bool.and_eq_true_iff.mp stored
      refine ⟨?_, ?_⟩
      · intro decoded isBody message member
        cases isBody
        obtain ⟨request, isReceived, shown⟩ :=
          List.any_eq_true.mp (List.all_eq_true.mp allStored message member)
        exact .seen ⟨request, isReceived, List.contains_iff_mem.mp shown⟩
      · intro spki isKey
        cases isKey
        split at genuine
        · rename_i keyPair isPublicKey
          cases isPublicKey
          exact ⟨keyPair, rfl⟩
        · cases genuine
        · rename_i isNoKey
          exact absurd rfl (isNoKey spki)

/-- Whether a step is no request or is answered with stored messages. -/
def answersStored
    (configuration : Serving)
    (process : Nat)
    (choice : Choice) :
    Bool :=
  match (configuration.pool process).operation? with
  | some (.fetch request) =>
      isStored (configuration.state ++ [request]) choice.body
  | _ => true

/-- Stored answers keep to what the server may do. -/
theorem honestKeys_of_answersStored
    {configuration : Serving}
    {process : Nat}
    {choice : Choice}
    (stored : answersStored configuration process choice = true) :
    honestKeys configuration process choice := by
  intro request isNext
  rw [answersStored, isNext] at stored
  exact honest_of_isStored stored

/-- Platform calls and a body. -/
def answering (body : Option Body) : Choice where
  entropy := [1]
  keyPair := ([2], [3])
  body := body

/-- A platform without special letters. -/
def plainPlatform : Platform where
  caseMapping := Identifier.asciiCase
  wordlist _ := "a"

/-- One device registers and shares an item; another signs in and adds one. -/
def twoDevices : Nat → List Activity
  | 0 =>
      [.registerAccount "a" "p",
        .shareItem "u" "a" [("name", .string "n")]]
  | 1 =>
      [.loginAccount "a" "p" "", .addItem "u" [("name", .string "n")]]
  | _ => []

/-- What the first of the devices registers. -/
def registered : RegisterRequest :=
  let choice := answering none
  (registrationBundle plainPlatform.caseMapping "a" "p" Crypto.DEFAULT_KDF
    (choice.bytes USER_KEY_BYTES) (choice.bytes 12) choice.keyPair
    (choice.bytes 12)).request

/-- What a sign-in returns to the devices. -/
def signedIn : Option Body :=
  some (.login "t" "r" registered.protectedUserKey
    registered.protectedPrivateKey registered.kdf)

/-- The devices in turn, with stored answers. -/
def storedAnswers : List (Nat × Choice) :=
  List.replicate 4 (0, answering none) ++
    [(0, answering (some .other)), (0, answering signedIn),
      (1, answering (some (.kdf registered.kdf))),
      (0, answering (some (.publicKey registered.publicKey))),
      (1, answering signedIn)] ++
    List.replicate 3 (1, answering none) ++
    List.replicate 3 (0, answering none) ++
    [(1, answering (some (.cipher "c"))), (0, answering (some .other))]

/-- Seven requests were received, and an added and shared item stays secret. -/
theorem zeroKnowledge_twoDevices :
    let final := (devices plainPlatform twoDevices).follow execute storedAnswers
    final.state.length = 7 ∧
      ¬ Derivable (known final.state) (itemPlaintext [("name", .string "n")]) := by
  intro final
  have reaches :
      Configuration.Reaches execute honestKeys (devices plainPlatform twoDevices)
        final := by
    apply Configuration.Reaches.of_follow_allowed
    intro index inRange
    apply honestKeys_of_answersStored
    revert index
    decide
  refine ⟨by decide, zeroKnowledge reaches (.plaintext _)⟩

end Passwd.Symbolic
