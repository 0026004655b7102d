import Mathlib.Data.Nat.Notation

set_option autoImplicit false

/-!
# Password hashers

A credential is a string that begins with the prefix of the scheme that made it. A registry hashes
with its default scheme and verifies with the scheme that owns the prefix.

## Main definitions

* `PasswordHasher`, `HasherRegistry`, `HasherRegistry.Correct`.

## Design

* The methods are asynchronous in the source. Here they are the values of their promises; where a
  caller awaits one, the caller's model is suspended.
* A call of `hash` draws random bytes, which are an argument here.
-/

namespace NodeOpcua

/-- The random bytes that a call of `hash` draws. -/
abbrev Salt := ℕ

/-- A password-hashing scheme. -/
structure PasswordHasher where
  id : String
  prefixes : List String
  hash : String → Salt → String
  verify : String → String → Bool
  needsRehash : Option (String → Bool) := none

/-- Some prefix of the scheme starts the credential. -/
def PasswordHasher.owns (hasher : PasswordHasher) (phc : String) : Bool :=
  hasher.prefixes.any fun p => p.toList.isPrefixOf phc.toList

/-- The default scheme and the other ones. -/
structure HasherRegistry where
  _default : PasswordHasher
  others : List PasswordHasher := []

namespace HasherRegistry

/-- `_all`. -/
def _all (registry : HasherRegistry) : List PasswordHasher :=
  registry._default :: registry.others

/-- `_find`: the first scheme that owns the prefix of the credential. -/
def _find (registry : HasherRegistry) (phc : String) : Option PasswordHasher :=
  registry._all.find? fun hasher => hasher.owns phc

/-- `hash`, with the default scheme. -/
def hash (registry : HasherRegistry) (password : String) (salt : Salt) : String :=
  registry._default.hash password salt

/-- `verify`, with the scheme of the credential. -/
def verify (registry : HasherRegistry) (password phc : String) : Bool :=
  match registry._find phc with
  | some hasher => hasher.verify password phc
  | none => false

/-- `needsRehash`: the credential is of another scheme, or the default scheme says so. The scheme
that was found is the default one exactly when that owns the prefix, being the first of all. -/
def needsRehash (registry : HasherRegistry) (phc : String) : Bool :=
  match registry._find phc with
  | none => false
  | some hasher =>
    if ¬ registry._default.owns phc then true
    else
      match hasher.needsRehash with
      | some needsRehash => needsRehash phc
      | none => false

/-- **A correct hasher**: a credential is that of one password, verification accepts exactly the
hashed password, and what has just been hashed is up to date. -/
structure Correct (registry : HasherRegistry) : Prop where
  verify_hash : ∀ password password' salt,
    registry.verify password' (registry.hash password salt) = true ↔ password' = password
  verify_unique : ∀ phc password password', registry.verify password phc = true →
    registry.verify password' phc = true → password = password'
  needsRehash_hash : ∀ password salt,
    registry.needsRehash (registry.hash password salt) = false

end HasherRegistry

end NodeOpcua
