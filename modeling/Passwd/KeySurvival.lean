import Passwd.ClientRuns

namespace Passwd.Client

open Base64 Utf8 Crypto Interaction Server

/-!
# The User Key survives every key operation

The runs of a client and a server on one account: a registration followed by any
sequence of sign-ins, enabling and disabling recovery, recoveries with the
displayed code, and items added or saved.  No store call fails, and every listed
operation is one that returned a result.

After every such run the password and the recovery code still unwrap the User Key
of the registration, and everything that was encrypted under it can be read.
-/

/-- A verifier accepts the hash that it was made of and no other. -/
structure Verifies (env : Environment) : Prop where
  exact :
    ∀ salt hash other,
      env.verifyVerifier (env.phcVerifier salt hash) other =
        some (decide (other = hash))
  nonempty : ∀ salt hash, env.phcVerifier salt hash ≠ ""

/-- What stays fixed about an account. -/
structure Account where
  identifier : String
  userID : String
  userKey : Bytes
  privateKey : Bytes

/-- The server, and what the owner of the account knows. -/
structure World where
  state : State
  masterPassword : String
  older : List String
  recoveryCode : Option String
  items : List (String × Json.Members)
  sessions : List Session

section Survival

variable (crypto : Primitives) (backend : Backend) (env : Environment)

/-- The id of the account that an identifier names. -/
def accountID (state : State) (identifier : String) : Option String :=
  (state.store.users.rows.find? fun row =>
    row.identifierHash = env.blindIdentifier identifier).map User.id

/-- One operation of the owner, run from start to end. -/
inductive Step (account : Account) : World → World → Prop where
  | login
      {world : World}
      (totpCode : String)
      (choices : Nat → Choice)
      (calm : Calm choices)
      {s : Session}
      (returned :
        ((loginAccount crypto account.identifier world.masterPassword
          totpCode).run (execute backend env) choices world.state).value =
            some s) :
      Step account world
        { world with
          state :=
            ((loginAccount crypto account.identifier world.masterPassword
              totpCode).run (execute backend env) choices world.state).state
          sessions := s :: world.sessions }
  | enableRecovery
      {world : World}
      {s : Session}
      (member : s ∈ world.sessions)
      (choices : Nat → Choice)
      (calm : Calm choices)
      {recoveryCode : String}
      (returned :
        ((enableRecovery crypto account.userID s).run (execute backend env)
          choices world.state).value = some recoveryCode) :
      Step account world
        { world with
          state :=
            ((enableRecovery crypto account.userID s).run
              (execute backend env) choices world.state).state
          recoveryCode := some recoveryCode }
  | disableRecovery
      {world : World}
      (choices : Nat → Choice)
      (calm : Calm choices)
      (returned :
        ((disableRecovery account.userID).run (execute backend env) choices
          world.state).value = some ()) :
      Step account world
        { world with
          state :=
            ((disableRecovery account.userID).run (execute backend env)
              choices world.state).state
          recoveryCode := none }
  | recover
      {world : World}
      {recoveryCode : String}
      (displayed : world.recoveryCode = some recoveryCode)
      (newMasterPassword : String)
      (choices : Nat → Choice)
      (calm : Calm choices)
      {s : Session}
      (returned :
        ((recoverAccount crypto account.identifier recoveryCode
          newMasterPassword).run (execute backend env) choices
          world.state).value = some s) :
      Step account world
        { world with
          state :=
            ((recoverAccount crypto account.identifier recoveryCode
              newMasterPassword).run (execute backend env) choices
              world.state).state
          masterPassword := newMasterPassword
          older := world.masterPassword :: world.older
          sessions := s :: world.sessions }
  | addItem
      {world : World}
      {s : Session}
      (member : s ∈ world.sessions)
      (fields : Json.Members)
      (choices : Nat → Choice)
      (calm : Calm choices)
      {id : String}
      (returned :
        ((addItem crypto account.userID s fields).run (execute backend env)
          choices world.state).value = some id) :
      Step account world
        { world with
          state :=
            ((addItem crypto account.userID s fields).run
              (execute backend env) choices world.state).state
          items := (id, fields) :: world.items }
  | saveItem
      {world : World}
      {s : Session}
      (member : s ∈ world.sessions)
      (id : String)
      (fields : Json.Members)
      (choices : Nat → Choice)
      (calm : Calm choices)
      (returned :
        ((saveItem crypto account.userID s id fields).run
          (execute backend env) choices world.state).value = some ()) :
      Step account world
        { world with
          state :=
            ((saveItem crypto account.userID s id fields).run
              (execute backend env) choices world.state).state
          items :=
            (id, fields) :: world.items.filter fun item => item.1 ≠ id }

/-- What a registration and any number of operations lead to. -/
inductive Reachable : Account → World → Prop where
  | register
      (identifier masterPassword : String)
      (state : State)
      (choices : Nat → Choice)
      (calm : Calm choices)
      {s : Session}
      (returned :
        ((registerAccount crypto identifier masterPassword).run
          (execute backend env) choices state).value = some s)
      {userID : String}
      (named :
        accountID env
          ((registerAccount crypto identifier masterPassword).run
            (execute backend env) choices state).state
          identifier = some userID) :
      Reachable
        { identifier := identifier
          userID := userID
          userKey := s.userKey
          privateKey := (choices 2).keyPair.2 }
        { state :=
            ((registerAccount crypto identifier masterPassword).run
              (execute backend env) choices state).state
          masterPassword := masterPassword
          older := []
          recoveryCode := none
          items := []
          sessions := [s] }
  | step
      {account : Account}
      {world next : World}
      (reachable : Reachable account world)
      (step : Step crypto backend env account world next) :
      Reachable account next

/-!
## What survives
-/

/-- The hash that a client sends for a password. -/
def passwordHash (identifier masterPassword : String) : Option String :=
  (loginKeys crypto identifier masterPassword DEFAULT_KDF).map Prod.snd

/-- Everything that the owner of an account can still do. -/
structure Intact (account : Account) (world : World) : Prop where
  /-- The current password opens the User Key and the private key. -/
  signsIn :
    ∀ choices totpCode, Calm choices →
      (∀ index, DrawsNewToken env world.state (choices index).server) →
        ∃ s,
          ((loginAccount crypto account.identifier world.masterPassword
              totpCode).run (execute backend env) choices world.state).value =
              some s ∧
            s.userKey = account.userKey ∧
            unwrapPrivateKey crypto s.userKey s.protectedPrivateKey =
              some account.privateKey
  /-- The current recovery code opens the User Key of the challenge. -/
  recovers :
    ∀ recoveryCode ∈ world.recoveryCode, ∀ choices, Calm choices →
      ∃ wrapped kdf keys,
        ((recoveryChallenge account.identifier).run (execute backend env)
            choices world.state).value = some (wrapped, kdf) ∧
          deriveRecoveryKeys crypto recoveryCode = some keys ∧
          unwrapUserKeyWithRecovery crypto keys.recoveryEncKey wrapped =
            some account.userKey
  /-- Every item is synchronized and decrypts to what was saved last. -/
  keepsItems :
    ∀ choices, Calm choices →
      ∃ stored,
        ((sync account.userID).run (execute backend env) choices
            world.state).value = some stored ∧
          ∀ item ∈ world.items, ∃ data,
            (item.1, data) ∈ stored ∧
              decryptItemKeyed crypto account.userKey data =
                some (stringify (.object item.2))
  /-- No other password signs in, unless its hash is the same. -/
  refuses :
    ∀ masterPassword,
      passwordHash crypto account.identifier masterPassword ≠
        passwordHash crypto account.identifier world.masterPassword →
      ∀ choices totpCode, Calm choices →
        ((loginAccount crypto account.identifier masterPassword totpCode).run
          (execute backend env) choices world.state).value = none

/-!
## The invariant
-/

/-- What the row of the account holds about its recovery code. -/
def Recovers (account : Account) (u : User) : Option String → Prop
  | none => True
  | some recoveryCode =>
      ∃ keys salt,
        deriveRecoveryKeys crypto recoveryCode = some keys ∧
          u.recoveryVerifier = env.phcVerifier salt keys.recoveryAuthHash ∧
          unwrapUserKeyWithRecovery crypto keys.recoveryEncKey
            u.recoveryProtectedUserKey = some account.userKey

/-- What the row of the account holds about its password. -/
def Unlocks (account : Account) (u : User) (masterPassword : String) : Prop :=
  ∃ masterKey hash salt,
    loginKeys crypto account.identifier masterPassword DEFAULT_KDF =
        some (masterKey, hash) ∧
      u.masterPasswordVerifier = env.phcVerifier salt hash ∧
      unwrapUserKey crypto (stretchMasterKey crypto masterKey)
        u.protectedUserKey = some account.userKey

/-- A stored item that decrypts to the given fields. -/
def Readable
    (account : Account)
    (ciphers : Table Cipher.id)
    (item : String × Json.Members) :
    Prop :=
  ∃ row,
    ciphers.find? item.1 = some row ∧ row.userID = account.userID ∧
      decryptItemKeyed crypto account.userKey row.data =
        some (stringify (.object item.2))

/-- The row of the account is sound for what its owner knows. -/
structure Sound (account : Account) (world : World) (u : User) : Prop where
  holds :
    Holds world.state.kept (env.blindIdentifier account.identifier) u
  owner : u.id = account.userID
  hasID : account.userID ≠ ""
  unlocks : Unlocks crypto env account u world.masterPassword
  recovers : Recovers crypto env account u world.recoveryCode
  privateKey :
    unwrapPrivateKey crypto account.userKey u.protectedPrivateKey =
      some account.privateKey
  items :
    ∀ item ∈ world.items,
      Readable crypto account world.state.kept.ciphers item
  sessions : ∀ s ∈ world.sessions, s.userKey = account.userKey

variable {crypto backend env} {account : Account} {world next : World}
  {u : User}

/-- Extend a list of sessions by one with the User Key. -/
theorem sessions_cons
    {sessions : List Session}
    (known : ∀ s ∈ sessions, s.userKey = account.userKey)
    {opened : Session}
    (sameKey : opened.userKey = account.userKey) :
    ∀ s ∈ opened :: sessions, s.userKey = account.userKey := by
  intro s member
  rcases List.mem_cons.mp member with isOpened | isKnown
  · rw [isOpened]
    exact sameKey
  · exact known s isKnown

/-- The password whose hash the account verifies is the current one. -/
theorem Sound.passwordHash_eq
    (verifies : Verifies env)
    (sound : Sound crypto env account world u)
    {masterPassword masterPasswordHash : String}
    {masterKey : Bytes}
    (derived :
      loginKeys crypto account.identifier masterPassword DEFAULT_KDF =
        some (masterKey, masterPasswordHash))
    (password :
      env.verifyVerifier u.masterPasswordVerifier masterPasswordHash =
        some true) :
    passwordHash crypto account.identifier masterPassword =
      passwordHash crypto account.identifier world.masterPassword := by
  obtain ⟨currentKey, hash, salt, isCurrent, verifier, -⟩ := sound.unlocks
  rw [verifier, verifies.exact] at password
  have same : masterPasswordHash = hash := by
    simpa using password
  simp [passwordHash, derived, isCurrent, same]

/-- Signing in opens the User Key and keeps the account sound. -/
theorem Sound.login
    (sound : Sound crypto env account world u)
    {totpCode : String}
    {choices : Nat → Choice}
    (calm : Calm choices)
    {s : Session}
    (returned :
      ((loginAccount crypto account.identifier world.masterPassword
        totpCode).run (execute backend env) choices world.state).value =
          some s) :
    Sound crypto env account
      { world with
        state :=
          ((loginAccount crypto account.identifier world.masterPassword
            totpCode).run (execute backend env) choices world.state).state
        sessions := s :: world.sessions }
      u := by
  obtain ⟨masterKey, hash, derived, password, unwrapped, -, changed⟩ :=
    loginAccount_of_some sound.holds calm returned
  obtain ⟨currentKey, current, salt, isCurrent, -, opens⟩ := sound.unlocks
  have sameKey : s.userKey = account.userKey := by
    rw [derived] at isCurrent
    cases isCurrent
    exact Option.some.inj (unwrapped.symm.trans opens)
  exact
    { holds := by
        rw [changed]
        exact sound.holds.afterReset
      owner := sound.owner
      hasID := sound.hasID
      unlocks := sound.unlocks
      recovers := sound.recovers
      privateKey := sound.privateKey
      items := by
        rw [changed]
        exact sound.items
      sessions := sessions_cons sound.sessions sameKey }

/-- Enabling recovery wraps the User Key under the displayed code. -/
theorem Sound.enableRecovery
    (authenticated : crypto.Authenticated)
    (sound : Sound crypto env account world u)
    {s : Session}
    (member : s ∈ world.sessions)
    {choices : Nat → Choice}
    (calm : Calm choices)
    {recoveryCode : String}
    (returned :
      ((enableRecovery crypto account.userID s).run (execute backend env)
        choices world.state).value = some recoveryCode) :
    ∃ v,
      Sound crypto env account
        { world with
          state :=
            ((enableRecovery crypto account.userID s).run
              (execute backend env) choices world.state).state
          recoveryCode := some recoveryCode }
        v := by
  rw [← sound.owner] at returned ⊢
  obtain ⟨keys, wrapped, salt, updatedAt, derived, unwrapped, held,
      sameCiphers⟩ :=
    enableRecovery_of_some authenticated sound.holds calm returned
  generalize
    ((Client.enableRecovery crypto u.id s).run (execute backend env) choices
      world.state).state = after at held sameCiphers ⊢
  refine ⟨_, held, sound.owner, sound.hasID, sound.unlocks, ?_,
    sound.privateKey, ?_, sound.sessions⟩
  · rw [sound.sessions s member] at unwrapped
    exact ⟨keys, salt, derived, rfl, unwrapped⟩
  · dsimp only
    rw [sameCiphers]
    exact sound.items

/-- Disabling recovery changes nothing else. -/
theorem Sound.disableRecovery
    (sound : Sound crypto env account world u)
    {choices : Nat → Choice}
    (calm : Calm choices) :
    ∃ v,
      Sound crypto env account
        { world with
          state :=
            ((disableRecovery account.userID).run (execute backend env)
              choices world.state).state
          recoveryCode := none }
        v := by
  rw [← sound.owner]
  obtain ⟨updatedAt, held, sameCiphers⟩ :=
    @disableRecovery_holds backend env choices world.state u _ sound.holds calm
  refine ⟨_, held, sound.owner, sound.hasID, sound.unlocks, trivial,
    sound.privateKey, ?_, sound.sessions⟩
  dsimp only
  rw [sameCiphers]
  exact sound.items

/-- A recovery wraps the same User Key under the new password. -/
theorem Sound.recover
    (authenticated : crypto.Authenticated)
    (verifies : Verifies env)
    (sound : Sound crypto env account world u)
    {recoveryCode newMasterPassword : String}
    (displayed : world.recoveryCode = some recoveryCode)
    {choices : Nat → Choice}
    (calm : Calm choices)
    {s : Session}
    (returned :
      ((recoverAccount crypto account.identifier recoveryCode
        newMasterPassword).run (execute backend env) choices
        world.state).value = some s) :
    ∃ v,
      Sound crypto env account
        { world with
          state :=
            ((recoverAccount crypto account.identifier recoveryCode
              newMasterPassword).run (execute backend env) choices
              world.state).state
          masterPassword := newMasterPassword
          older := world.masterPassword :: world.older
          sessions := s :: world.sessions }
        v := by
  have recovers := sound.recovers
  rw [displayed] at recovers
  obtain ⟨keys, salt, derived, verifier, opens⟩ := recovers
  have enabled : u.recoveryVerifier ≠ "" := by
    rw [verifier]
    exact verifies.nonempty _ _
  obtain ⟨usedKeys, masterKey, hash, wrapped, newSalt, updatedAt, isUsed,
      unwrapped, -, newKeys, newUnwraps, held, sameCiphers⟩ :=
    recoverAccount_of_some authenticated sound.holds enabled calm returned
  have sameKey : s.userKey = account.userKey := by
    rw [derived] at isUsed
    cases isUsed
    exact Option.some.inj (unwrapped.symm.trans opens)
  rw [sameKey] at newUnwraps
  refine ⟨_, held, sound.owner, sound.hasID, ?_, sound.recovers,
    sound.privateKey, ?_, sessions_cons sound.sessions sameKey⟩
  · exact ⟨masterKey, hash, newSalt, newKeys, rfl, newUnwraps⟩
  · dsimp only
    rw [sameCiphers]
    exact sound.items

/-- A recovery with the displayed code wraps the User Key again. -/
theorem Sound.recoverAccount_run
    (verifies : Verifies env)
    (sound : Sound crypto env account world u)
    {recoveryCode newMasterPassword masterPasswordHash protectedUserKey :
      String}
    (displayed : world.recoveryCode = some recoveryCode)
    {choices : Nat → Choice}
    (calm : Calm choices)
    {keys : RecoveryKeys}
    (hasKeys : deriveRecoveryKeys crypto recoveryCode = some keys)
    {masterKey : Bytes}
    (derived :
      loginKeys crypto account.identifier newMasterPassword DEFAULT_KDF =
        some (masterKey, masterPasswordHash))
    (wrapped :
      wrapUserKey crypto (stretchMasterKey crypto masterKey) account.userKey
        ((choices 1).bytes 12) = some protectedUserKey) :
    let answered :=
      served backend env
        ((recoveryChallenge account.identifier).run (execute backend env)
          choices world.state).state
        (.recoveryComplete (some
          { identifier := account.identifier
            recoveryAuthHash := keys.recoveryAuthHash
            masterPasswordHash := masterPasswordHash
            protectedUserKey := protectedUserKey
            kdf := sentKdf DEFAULT_KDF }))
        (choices 2).server
    let completed :=
      (recoverAccount crypto account.identifier recoveryCode
        newMasterPassword).run (execute backend env) choices world.state
    completed.value =
        ((if answered.value.isOk then some answered.value.body
          else none).bind loginResult).map (fun res =>
            { identifier := account.identifier
              accessToken := res.accessToken
              refreshToken := res.refreshToken
              userKey := account.userKey
              protectedPrivateKey := res.protectedPrivateKey }) ∧
      completed.state = answered.state := by
  have recovers := sound.recovers
  rw [displayed] at recovers
  obtain ⟨usedKeys, salt, isUsed, verifier, unwrapped⟩ := recovers
  rw [Option.some.inj (isUsed.symm.trans hasKeys)] at unwrapped
  have enabled : u.recoveryVerifier ≠ "" := by
    rw [verifier]
    exact verifies.nonempty _ _
  have completed :
      completeRecovery crypto recoveryCode u.recoveryProtectedUserKey
          account.identifier newMasterPassword DEFAULT_KDF
          ((choices 1).bytes 12) =
        some
          { recoveryAuthHash := keys.recoveryAuthHash
            masterPasswordHash := masterPasswordHash
            protectedUserKey := protectedUserKey
            kdf := DEFAULT_KDF
            userKey := account.userKey } := by
    simp only [completeRecovery, hasKeys, unwrapped, derived, wrapped,
      Option.bind_some, Option.map_some]
  have ran :=
    @Client.recoverAccount_run crypto backend env choices world.state
      account.identifier u sound.holds enabled calm recoveryCode
      newMasterPassword
  dsimp only at ran
  rw [completed] at ran
  exact ran

/-- Adding an item keeps the other items readable. -/
theorem Sound.addItem
    (authenticated : crypto.Authenticated)
    (sound : Sound crypto env account world u)
    {s : Session}
    (member : s ∈ world.sessions)
    {fields : Json.Members}
    {choices : Nat → Choice}
    {id : String}
    (returned :
      ((addItem crypto account.userID s fields).run (execute backend env)
        choices world.state).value = some id) :
    Sound crypto env account
      { world with
        state :=
          ((addItem crypto account.userID s fields).run
            (execute backend env) choices world.state).state
        items := (id, fields) :: world.items }
      u := by
  obtain ⟨row, sameID, sameUser, decrypts, isNew, written⟩ :=
    addItem_of_some authenticated returned
  rw [sound.sessions s member] at decrypts
  refine ⟨?_, sound.owner, sound.hasID, sound.unlocks, sound.recovers,
    sound.privateKey, ?_, sound.sessions⟩
  · dsimp only
    rw [written]
    exact { sound.holds with }
  · dsimp only
    rw [written]
    intro item isItem
    rcases List.mem_cons.mp isItem with isAdded | isOld
    · rw [isAdded]
      exact ⟨row, by simp [Table.find?_upsert, sameID], sameUser, decrypts⟩
    · obtain ⟨old, found, oldUser, oldDecrypts⟩ := sound.items item isOld
      refine ⟨old, ?_, oldUser, oldDecrypts⟩
      have different : row.id ≠ item.1 := by
        intro same
        have missing := isNew
        rw [← sameID, same] at missing
        exact absurd (found.symm.trans missing) (Option.some_ne_none old)
      rw [Table.find?_upsert, if_neg different]
      exact found

/-- Saving an item keeps the other items readable. -/
theorem Sound.saveItem
    (authenticated : crypto.Authenticated)
    (sound : Sound crypto env account world u)
    {s : Session}
    (member : s ∈ world.sessions)
    {id : String}
    {fields : Json.Members}
    {choices : Nat → Choice}
    (returned :
      ((saveItem crypto account.userID s id fields).run (execute backend env)
        choices world.state).value = some ()) :
    Sound crypto env account
      { world with
        state :=
          ((saveItem crypto account.userID s id fields).run
            (execute backend env) choices world.state).state
        items :=
          (id, fields) :: world.items.filter fun item => item.1 ≠ id }
      u := by
  obtain ⟨row, ciphers, sameUser, decrypts, found, written⟩ :=
    saveItem_of_some authenticated returned
  rw [sound.sessions s member] at decrypts
  refine ⟨?_, sound.owner, sound.hasID, sound.unlocks, sound.recovers,
    sound.privateKey, ?_, sound.sessions⟩
  · dsimp only
    rw [written]
    exact { sound.holds with }
  · dsimp only
    rw [written]
    intro item isItem
    rcases List.mem_cons.mp isItem with isSaved | isOther
    · rw [isSaved]
      exact ⟨row, (found id).trans (if_pos rfl), sameUser, decrypts⟩
    · obtain ⟨isOld, different⟩ := List.mem_filter.mp isOther
      obtain ⟨old, isStored, oldUser, oldDecrypts⟩ := sound.items item isOld
      refine ⟨old, ?_, oldUser, oldDecrypts⟩
      exact (found item.1).trans
        ((if_neg (of_decide_eq_true different)).trans isStored)

/-- Every operation keeps the account sound. -/
theorem Sound.step
    (authenticated : crypto.Authenticated)
    (verifies : Verifies env)
    (sound : Sound crypto env account world u)
    (step : Step crypto backend env account world next) :
    ∃ v, Sound crypto env account next v := by
  cases step with
  | login totpCode choices calm returned =>
      exact ⟨u, sound.login calm returned⟩
  | enableRecovery member choices calm returned =>
      exact sound.enableRecovery authenticated member calm returned
  | disableRecovery choices calm returned =>
      exact sound.disableRecovery calm
  | recover displayed newMasterPassword choices calm returned =>
      exact sound.recover authenticated verifies displayed calm returned
  | addItem member fields choices calm returned =>
      exact ⟨u, sound.addItem authenticated member returned⟩
  | saveItem member id fields choices calm returned =>
      exact ⟨u, sound.saveItem authenticated member returned⟩

/-- An identifier that both normalizers treat alike names one account. -/
theorem blindIdentifier_normalizeIdentifier
    {identifier : String}
    (alike :
      Identifier.normalizeIdentifier crypto.caseMapping identifier =
        Identifier.serverNormalizeIdentifier env.caseMapping identifier) :
    env.blindIdentifier
        (Identifier.normalizeIdentifier crypto.caseMapping identifier) =
      env.blindIdentifier identifier := by
  unfold Environment.blindIdentifier
  rw [alike, Identifier.serverNormalizeIdentifier_idempotent]

/-- A registration is sound. -/
theorem sound_of_register
    (authenticated : crypto.Authenticated)
    {identifier masterPassword : String}
    (alike :
      Identifier.normalizeIdentifier crypto.caseMapping identifier =
        Identifier.serverNormalizeIdentifier env.caseMapping identifier)
    {state : State}
    {choices : Nat → Choice}
    (calm : Calm choices)
    {s : Session}
    (returned :
      ((registerAccount crypto identifier masterPassword).run
        (execute backend env) choices state).value = some s)
    {userID : String}
    (named :
      accountID env
        ((registerAccount crypto identifier masterPassword).run
          (execute backend env) choices state).state
        identifier = some userID) :
    ∃ u,
      Sound crypto env
        { identifier := identifier
          userID := userID
          userKey := s.userKey
          privateKey := (choices 2).keyPair.2 }
        { state :=
            ((registerAccount crypto identifier masterPassword).run
              (execute backend env) choices state).state
          masterPassword := masterPassword
          older := []
          recoveryCode := none
          items := []
          sessions := [s] }
        u := by
  obtain ⟨u, masterKey, hash, salt, hasID, holds, derived, verifier,
      unwrapped, privateKey, -⟩ :=
    registerAccount_of_some authenticated calm returned
  rw [blindIdentifier_normalizeIdentifier alike] at holds
  generalize
    ((registerAccount crypto identifier masterPassword).run
      (execute backend env) choices state).state = after at holds named ⊢
  have owner : u.id = userID := by
    obtain ⟨row, found, sameID⟩ := Option.map_eq_some_iff.mp named
    have sameHash : row.identifierHash = env.blindIdentifier identifier := by
      simpa using List.find?_some found
    rw [← sameID,
      holds.unrivalled row (List.mem_of_find?_eq_some found) sameHash]
  refine ⟨u, holds, owner, ?_, ⟨masterKey, hash, salt, derived, verifier,
    unwrapped⟩, trivial, privateKey, ?_, ?_⟩
  · rw [← owner]
    exact hasID
  · rintro item ⟨⟩
  · intro opened member
    rw [List.mem_singleton.mp member]

/-- After every run the account is sound. -/
theorem Reachable.sound
    (authenticated : crypto.Authenticated)
    (verifies : Verifies env)
    (alike :
      Identifier.normalizeIdentifier crypto.caseMapping account.identifier =
        Identifier.serverNormalizeIdentifier env.caseMapping
          account.identifier)
    (reachable : Reachable crypto backend env account world) :
    ∃ u, Sound crypto env account world u := by
  induction reachable with
  | register identifier masterPassword state choices calm returned named =>
      exact sound_of_register authenticated alike calm returned named
  | step reachable step inductionHypothesis =>
      obtain ⟨u, sound⟩ := inductionHypothesis alike
      exact sound.step authenticated verifies step

/-- The owner of a sound account can still do everything. -/
theorem Sound.keepsIntact
    (verifies : Verifies env)
    (sound : Sound crypto env account world u) :
    Intact crypto backend env account world where
  signsIn choices totpCode calm fresh := by
    obtain ⟨masterKey, hash, salt, derived, verifier, unwrapped⟩ :=
      sound.unlocks
    have password :
        env.verifyVerifier u.masterPasswordVerifier hash = some true := by
      rw [verifier, verifies.exact]
      simp
    obtain ⟨s, opened, sameKey, samePrivateKey⟩ :=
      loginAccount_succeeds sound.holds calm fresh derived password unwrapped
        totpCode
    refine ⟨s, opened, sameKey, ?_⟩
    rw [sameKey, samePrivateKey]
    exact sound.privateKey
  recovers recoveryCode displayed choices calm := by
    have recovers := sound.recovers
    rw [displayed] at recovers
    obtain ⟨keys, salt, derived, verifier, unwrapped⟩ := recovers
    have enabled : u.recoveryVerifier ≠ "" := by
      rw [verifier]
      exact verifies.nonempty _ _
    exact ⟨u.recoveryProtectedUserKey, DEFAULT_KDF, keys,
      (recoveryChallenge_run sound.holds enabled calm).1, derived, unwrapped⟩
  keepsItems choices calm := by
    obtain ⟨stored, told, listed⟩ := sync_run sound.hasID calm
    refine ⟨stored, told, ?_⟩
    intro item member
    obtain ⟨row, found, isOwner, decrypts⟩ := sound.items item member
    have sameID := Table.key_of_find? found
    have isListed := listed row (Table.mem_of_find? found) isOwner
    rw [sameID] at isListed
    exact ⟨row.data, isListed, decrypts⟩
  refuses masterPassword different choices totpCode calm := by
    cases opened :
        ((loginAccount crypto account.identifier masterPassword totpCode).run
          (execute backend env) choices world.state).value with
    | none =>
        rfl
    | some s =>
        obtain ⟨masterKey, hash, derived, password, -, -, -⟩ :=
          loginAccount_of_some sound.holds calm opened
        exact absurd (sound.passwordHash_eq verifies derived password)
          different

/--
After every run the current password and the current recovery code unwrap the
User Key of the registration, the items and the private key decrypt, and no
password with another hash signs in.
-/
theorem intact_of_reachable
    (authenticated : crypto.Authenticated)
    (verifies : Verifies env)
    (alike :
      Identifier.normalizeIdentifier crypto.caseMapping account.identifier =
        Identifier.serverNormalizeIdentifier env.caseMapping
          account.identifier)
    (reachable : Reachable crypto backend env account world) :
    Intact crypto backend env account world := by
  obtain ⟨u, sound⟩ := reachable.sound authenticated verifies alike
  exact sound.keepsIntact verifies

end Survival

/-!
## Runs on plain primitives
-/

/-- The verifiers that spell their inputs out are exact. -/
theorem verifies_plainEnvironment : Verifies plainEnvironment where
  exact salt hash other := by
    have marked : ("$" ++ hash).startsWith "$" = true := by
      simp
    simp only [plainEnvironment, marked, ↓reduceIte, String.append_right_inj]
    exact congrArg some (decide_eq_decide.mpr eq_comm)
  nonempty salt hash := by
    intro isEmpty
    have length := congrArg String.length isEmpty
    simp [plainEnvironment] at length

/-- The answers to one operation, in which nothing fails. -/
def turn (byte : UInt8) (_ : Nat) : Choice where
  entropy := [byte]
  keyPair := ([byte], [byte, byte])
  server _ := moment byte

/-- Register, enable recovery and recover with a second password. -/
def recovered
    (crypto : Primitives)
    (env : Environment)
    (first second : String) :
    Option (Account × World) :=
  let registration :=
    (registerAccount crypto "a" first).run (execute .memory env) (turn 1)
      State.empty
  registration.value.bind fun s =>
    (accountID env registration.state "a").bind fun userID =>
      let enrollment :=
        (enableRecovery crypto userID s).run (execute .memory env) (turn 2)
          registration.state
      enrollment.value.bind fun recoveryCode =>
        let recovery :=
          (recoverAccount crypto "a" recoveryCode second).run
            (execute .memory env) (turn 3) enrollment.state
        recovery.value.map fun opened =>
          ({ identifier := "a"
             userID := userID
             userKey := s.userKey
             privateKey := (turn 1 2).keyPair.2 },
            { state := recovery.state
              masterPassword := second
              older := [first]
              recoveryCode := some recoveryCode
              items := []
              sessions := [opened, s] })

/-- The worlds of these runs are reachable. -/
theorem reachable_of_recovered
    {crypto : Primitives}
    {env : Environment}
    {first second : String}
    {account : Account}
    {world : World}
    (ran : recovered crypto env first second = some (account, world)) :
    account.identifier = "a" ∧
      Reachable crypto .memory env account world := by
  have calm : ∀ byte, Calm (turn byte) := fun _ _ _ _ => rfl
  unfold recovered at ran
  obtain ⟨s, registered, ran⟩ := Option.bind_eq_some_iff.mp ran
  obtain ⟨userID, named, ran⟩ := Option.bind_eq_some_iff.mp ran
  obtain ⟨recoveryCode, enrolled, ran⟩ := Option.bind_eq_some_iff.mp ran
  obtain ⟨opened, hasRecovered, same⟩ := Option.map_eq_some_iff.mp ran
  obtain ⟨rfl, rfl⟩ := Prod.mk.inj same
  refine ⟨rfl, ?_⟩
  have start :=
    Reachable.register "a" first State.empty (turn 1) (calm 1) registered named
  generalize
    (registerAccount crypto "a" first).run (execute .memory env) (turn 1)
      State.empty = registration at start enrolled hasRecovered ⊢
  have enabled :=
    start.step
      (.enableRecovery (List.mem_singleton.mpr rfl) (turn 2) (calm 2)
        enrolled)
  generalize
    (enableRecovery crypto userID s).run (execute .memory env) (turn 2)
      registration.state = enrollment at enabled hasRecovered ⊢
  exact enabled.step
    (.recover rfl second (turn 3) (calm 3) hasRecovered)

/-- Passwords with one normal form sign in alike. -/
theorem loginAccount_congr
    {crypto : Primitives}
    {first second : String}
    (alike : crypto.nfkc first = crypto.nfkc second)
    (identifier totpCode : String) :
    loginAccount crypto identifier first totpCode =
      loginAccount crypto identifier second totpCode := by
  have sameKeys :
      loginKeys crypto identifier first = loginKeys crypto identifier second := by
    funext kdf
    simp only [loginKeys, deriveMasterKey, deriveKey, deriveMasterPasswordHash,
      alike]
  simp only [loginAccount, sameKeys]

/-- The runs of `recovered`, with the User Key at hand. -/
def recoveredWithKey
    (crypto : Primitives)
    (env : Environment)
    (first second : String) :
    Option (Account × World) :=
  let registration :=
    (registerAccount crypto "a" first).run (execute .memory env) (turn 1)
      State.empty
  registration.value.bind fun s =>
    (accountID env registration.state "a").bind fun userID =>
      let enrollment :=
        (enableRecovery crypto userID s).run (execute .memory env) (turn 2)
          registration.state
      enrollment.value.bind fun recoveryCode =>
        (deriveRecoveryKeys crypto recoveryCode).bind fun keys =>
          (loginKeys crypto "a" second DEFAULT_KDF).bind fun derived =>
            (wrapUserKey crypto (stretchMasterKey crypto derived.1) s.userKey
              ((turn 3 1).bytes 12)).bind fun protectedUserKey =>
                let answered :=
                  served .memory env
                    ((recoveryChallenge "a").run (execute .memory env) (turn 3)
                      enrollment.state).state
                    (.recoveryComplete (some
                      { identifier := "a"
                        recoveryAuthHash := keys.recoveryAuthHash
                        masterPasswordHash := derived.2
                        protectedUserKey := protectedUserKey
                        kdf := sentKdf DEFAULT_KDF }))
                    (turn 3 2).server
                ((if answered.value.isOk then some answered.value.body
                  else none).bind loginResult).map fun res =>
                  ({ identifier := "a"
                     userID := userID
                     userKey := s.userKey
                     privateKey := (turn 1 2).keyPair.2 },
                    { state := answered.state
                      masterPassword := second
                      older := [first]
                      recoveryCode := some recoveryCode
                      items := []
                      sessions :=
                        [{ identifier := "a"
                           accessToken := res.accessToken
                           refreshToken := res.refreshToken
                           userKey := s.userKey
                           protectedPrivateKey := res.protectedPrivateKey },
                         s] })

/-- The displayed code unwraps the User Key that the recovery wraps again. -/
theorem recovered_of_recoveredWithKey
    {crypto : Primitives}
    {env : Environment}
    (authenticated : crypto.Authenticated)
    (verifies : Verifies env)
    (alike :
      Identifier.normalizeIdentifier crypto.caseMapping "a" =
        Identifier.serverNormalizeIdentifier env.caseMapping "a")
    {first second : String}
    {account : Account}
    {world : World}
    (ran : recoveredWithKey crypto env first second = some (account, world)) :
    recovered crypto env first second = some (account, world) := by
  have calm : ∀ byte, Calm (turn byte) := fun _ _ _ _ => rfl
  unfold recoveredWithKey at ran
  obtain ⟨s, registered, ran⟩ := Option.bind_eq_some_iff.mp ran
  obtain ⟨userID, named, ran⟩ := Option.bind_eq_some_iff.mp ran
  obtain ⟨recoveryCode, enrolled, ran⟩ := Option.bind_eq_some_iff.mp ran
  obtain ⟨keys, hasKeys, ran⟩ := Option.bind_eq_some_iff.mp ran
  obtain ⟨⟨masterKey, hash⟩, derived, ran⟩ := Option.bind_eq_some_iff.mp ran
  obtain ⟨wrapped, isWrapped, ran⟩ := Option.bind_eq_some_iff.mp ran
  obtain ⟨res, answered, same⟩ := Option.map_eq_some_iff.mp ran
  obtain ⟨sameAccount, sameWorld⟩ := Prod.mk.inj same
  have isNamed : account.identifier = "a" := by
    rw [← sameAccount]
  have isAlike :
      Identifier.normalizeIdentifier crypto.caseMapping account.identifier =
        Identifier.serverNormalizeIdentifier env.caseMapping
          account.identifier := by
    rw [isNamed]
    exact alike
  have start :=
    Reachable.register "a" first State.empty (turn 1) (calm 1) registered named
  simp only [recovered, registered, named, enrolled, Option.bind_some]
  generalize
    (registerAccount crypto "a" first).run (execute .memory env) (turn 1)
      State.empty = registration at start enrolled answered sameWorld ⊢
  generalize isEnrollment :
    (enableRecovery crypto userID s).run (execute .memory env) (turn 2)
      registration.state = enrollment at enrolled answered sameWorld ⊢
  have enabled :
      Reachable crypto .memory env account
        { state := enrollment.state
          masterPassword := first
          older := []
          recoveryCode := some recoveryCode
          items := []
          sessions := [s] } := by
    rw [← isEnrollment] at enrolled ⊢
    rw [← sameAccount]
    exact start.step
      (.enableRecovery (List.mem_singleton.mpr rfl) (turn 2) (calm 2)
        enrolled)
  obtain ⟨u, sound⟩ := enabled.sound authenticated verifies isAlike
  have userKey : account.userKey = s.userKey := by
    rw [← sameAccount]
  rw [← isNamed] at derived answered
  rw [← userKey] at isWrapped
  obtain ⟨value, final⟩ :=
    sound.recoverAccount_run verifies rfl (calm 3) hasKeys derived isWrapped
  dsimp only at value final
  rw [sameAccount, ← isNamed, value, answered, final, ← sameWorld, isNamed,
    userKey]
  rfl

/-- The ångström sign, a password. -/
def angstromSign : String := String.ofList [Char.ofNat 0x212B]

/-- The letter A with a ring, which the sign is equivalent to. -/
def letterWithRing : String := String.ofList [Char.ofNat 0xC5]

/-- An older password, different from the current one, signs in. -/
def olderSignsIn (account : Account) (world : World) : Bool :=
  world.older.any fun older =>
    older ≠ world.masterPassword &&
      ((loginAccount plainPrimitives account.identifier older "").run
        (execute .memory plainEnvironment) (turn 4) world.state).value.isSome

/-- After a recovery to the other spelling the next token is still new. -/
private theorem recoveredWithKey_angstromSign :
    (recoveredWithKey plainPrimitives plainEnvironment angstromSign
      letterWithRing).any (fun run =>
        run.2.masterPassword = letterWithRing ∧
          run.2.older = [angstromSign] ∧
          run.2.state.store.refresh.find?
            (plainEnvironment.hashRefreshToken
              (Environment.jwtB64 ((moment 4).bytes 32))) = none) = true := by
  decide +kernel

/-- A recovery to an equivalent spelling of the same password. -/
private theorem recovered_angstromSign :
    ∃ account world,
      recovered plainPrimitives plainEnvironment angstromSign letterWithRing =
          some (account, world) ∧
        olderSignsIn account world = true := by
  have alike :
      Identifier.normalizeIdentifier plainPrimitives.caseMapping "a" =
        Identifier.serverNormalizeIdentifier plainEnvironment.caseMapping
          "a" := by
    decide
  obtain ⟨⟨account, world⟩, ran, checked⟩ :=
    (Option.any_eq_true _ _).mp recoveredWithKey_angstromSign
  obtain ⟨current, older, fresh⟩ := of_decide_eq_true checked
  dsimp only at current older fresh
  have recovers :=
    recovered_of_recoveredWithKey authenticated_plainPrimitives
      verifies_plainEnvironment alike ran
  refine ⟨account, world, recovers, ?_⟩
  obtain ⟨named, reachable⟩ := reachable_of_recovered recovers
  rw [← named] at alike
  have intact :=
    intact_of_reachable authenticated_plainPrimitives
      verifies_plainEnvironment alike reachable
  obtain ⟨s, opened, -⟩ :=
    intact.signsIn (turn 4) "" (fun _ _ _ => rfl) (fun _ _ => fresh)
  have sameForm :
      plainPrimitives.nfkc angstromSign =
        plainPrimitives.nfkc letterWithRing := by
    decide
  rw [current, ← loginAccount_congr sameForm] at opened
  have different : angstromSign ≠ letterWithRing := by
    decide
  simp [olderSignsIn, older, current, opened, different]

/-- Two spellings of a password that the compatibility mapping identifies. -/
theorem olderSignsIn_of_equivalent :
    ∃ account world,
      account.identifier = "a" ∧
        Reachable plainPrimitives .memory plainEnvironment account world ∧
        ∃ older ∈ world.older,
          older ≠ world.masterPassword ∧
            ∃ s,
              ((loginAccount plainPrimitives account.identifier older "").run
                (execute .memory plainEnvironment) (turn 4)
                world.state).value = some s := by
  obtain ⟨account, world, ran, signsIn⟩ := recovered_angstromSign
  obtain ⟨sameIdentifier, reachable⟩ := reachable_of_recovered ran
  obtain ⟨older, member, different⟩ := List.any_eq_true.mp signsIn
  simp only [Bool.and_eq_true, decide_eq_true_eq] at different
  exact ⟨account, world, sameIdentifier, reachable, older, member,
    different.1, Option.isSome_iff_exists.mp different.2⟩

/-- The run that recovers to the equivalent spelling keeps everything. -/
theorem intact_of_angstromSign :
    ∃ account world,
      Reachable plainPrimitives .memory plainEnvironment account world ∧
        Intact plainPrimitives .memory plainEnvironment account world := by
  obtain ⟨account, world, ran, -⟩ := recovered_angstromSign
  obtain ⟨named, reachable⟩ := reachable_of_recovered ran
  refine ⟨account, world, reachable, ?_⟩
  apply intact_of_reachable authenticated_plainPrimitives
    verifies_plainEnvironment ?_ reachable
  rw [named]
  decide

end Passwd.Client
