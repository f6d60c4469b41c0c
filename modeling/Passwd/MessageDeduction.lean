import Mathlib.Data.Set.Basic

namespace Passwd.Deduction

/-!
# Messages and what can be deduced from them

Messages are terms over free constructors, so two messages are equal only when
they were built in the same way.  An observer deduces messages from those it
has seen: it builds whatever it has the parts of and takes apart whatever it has
the key for.

A policy names what an observer may learn.  A set of messages that a policy
permits stays permitted under deduction, so a secret that a policy forbids is
not deduced from any set of permitted messages.
-/

/--
A message.  A digest is a one-way function of a key and an input; what is
encrypted opens with its key only, and what is wrapped for a public key opens
with the private key only.
-/
inductive Message (Atom Function Constant : Type) where
  | atom (name : Atom)
  | constant (value : Constant)
  | pair (first second : Message Atom Function Constant)
  | digest
      (function : Function)
      (key input : Message Atom Function Constant)
  | encrypt (key nonce plaintext : Message Atom Function Constant)
  | publicKey (privateKey : Message Atom Function Constant)
  | wrap (privateKey plaintext seed : Message Atom Function Constant)
deriving DecidableEq

variable {Atom Function Constant : Type}

/-- What can be deduced from the known messages. -/
inductive Derivable (known : Set (Message Atom Function Constant)) :
    Message Atom Function Constant → Prop where
  | seen {message : Message Atom Function Constant} :
      message ∈ known → Derivable known message
  | constant (value : Constant) : Derivable known (.constant value)
  | pair {first second : Message Atom Function Constant} :
      Derivable known first →
      Derivable known second →
      Derivable known (.pair first second)
  | first {first second : Message Atom Function Constant} :
      Derivable known (.pair first second) → Derivable known first
  | second {first second : Message Atom Function Constant} :
      Derivable known (.pair first second) → Derivable known second
  | digest
      (function : Function)
      {key input : Message Atom Function Constant} :
      Derivable known key →
      Derivable known input →
      Derivable known (.digest function key input)
  | encrypt {key nonce plaintext : Message Atom Function Constant} :
      Derivable known key →
      Derivable known nonce →
      Derivable known plaintext →
      Derivable known (.encrypt key nonce plaintext)
  | decrypt {key nonce plaintext : Message Atom Function Constant} :
      Derivable known (.encrypt key nonce plaintext) →
      Derivable known key →
      Derivable known plaintext
  | publicKey {privateKey : Message Atom Function Constant} :
      Derivable known privateKey →
      Derivable known (.publicKey privateKey)
  | wrap {privateKey plaintext seed : Message Atom Function Constant} :
      Derivable known (.publicKey privateKey) →
      Derivable known plaintext →
      Derivable known seed →
      Derivable known (.wrap privateKey plaintext seed)
  | unwrap {privateKey plaintext seed : Message Atom Function Constant} :
      Derivable known (.wrap privateKey plaintext seed) →
      Derivable known privateKey →
      Derivable known plaintext

/-!
## Policies
-/

/--
What an observer may learn: the atoms that stay secret, the digests that are
given away although their parts are secret, and the plaintexts that a secret key
may protect.
-/
structure Policy (Atom Function Constant : Type) where
  secret : Atom → Prop
  released :
    Function →
      Message Atom Function Constant → Message Atom Function Constant → Prop
  protects :
    Message Atom Function Constant → Message Atom Function Constant → Prop

namespace Policy

/--
What an observer may see under a policy.  Under a key that it may have, it may
see what it could have encrypted itself; under any other key, what the policy
lets that key protect.
-/
def Permits (policy : Policy Atom Function Constant) :
    Message Atom Function Constant → Prop
  | .atom name => ¬ policy.secret name
  | .constant _ => True
  | .pair first second => policy.Permits first ∧ policy.Permits second
  | .digest function key input =>
      policy.released function key input ∨
        (policy.Permits key ∧ policy.Permits input)
  | .encrypt key _ plaintext =>
      (policy.Permits key → policy.Permits plaintext) ∧
        (¬ policy.Permits key → policy.protects key plaintext)
  | .publicKey _ => True
  | .wrap privateKey plaintext _ =>
      policy.Permits privateKey → policy.Permits plaintext

variable {policy : Policy Atom Function Constant}
  {known : Set (Message Atom Function Constant)}

/-- Deduction does not lead out of what a policy permits. -/
theorem permits_of_derivable
    (permitted : ∀ message ∈ known, policy.Permits message)
    {message : Message Atom Function Constant}
    (derivable : Derivable known message) :
    policy.Permits message := by
  induction derivable with
  | seen member =>
      exact permitted _ member
  | constant value =>
      trivial
  | pair _ _ first second =>
      exact ⟨first, second⟩
  | first _ both =>
      exact both.1
  | second _ both =>
      exact both.2
  | digest function _ _ key input =>
      exact Or.inr ⟨key, input⟩
  | encrypt _ _ _ key _ plaintext =>
      exact ⟨fun _ => plaintext, fun forbidden => absurd key forbidden⟩
  | decrypt _ _ ciphertext key =>
      exact ciphertext.1 key
  | publicKey _ _ =>
      trivial
  | wrap _ _ _ _ plaintext _ =>
      exact fun _ => plaintext
  | unwrap _ _ wrapped privateKey =>
      exact wrapped privateKey

/-- What a policy forbids is not deduced from what it permits. -/
theorem not_derivable
    (permitted : ∀ message ∈ known, policy.Permits message)
    {message : Message Atom Function Constant}
    (forbidden : ¬ policy.Permits message) :
    ¬ Derivable known message :=
  fun derivable => forbidden (permits_of_derivable permitted derivable)

/-- A ciphertext under a forbidden key holds what that key may protect. -/
theorem protects_of_permits
    {key nonce plaintext : Message Atom Function Constant}
    (ciphertext : policy.Permits (.encrypt key nonce plaintext))
    (forbidden : ¬ policy.Permits key) :
    policy.protects key plaintext :=
  ciphertext.2 forbidden

/-- A forbidden key hides what it may protect. -/
theorem permits_encrypt
    {key plaintext : Message Atom Function Constant}
    (nonce : Message Atom Function Constant)
    (forbidden : ¬ policy.Permits key)
    (protects : policy.protects key plaintext) :
    policy.Permits (.encrypt key nonce plaintext) :=
  ⟨fun permitted => absurd permitted forbidden, fun _ => protects⟩

/-- A forbidden private key hides whatever is wrapped for it. -/
theorem permits_wrap
    {privateKey : Message Atom Function Constant}
    (plaintext seed : Message Atom Function Constant)
    (forbidden : ¬ policy.Permits privateKey) :
    policy.Permits (.wrap privateKey plaintext seed) :=
  fun permitted => absurd permitted forbidden

end Policy

end Passwd.Deduction
