import Mathlib.Algebra.GroupWithZero.Nat
import Mathlib.Data.List.AList
import NodeOpcua.Library.Mealy
import NodeOpcua.RoleSet.PasswordHasher
import NodeOpcua.StatusCode

set_option autoImplicit false

/-!
# The store of the users

`InMemoryUserManagementStore` keeps the users of a server with their credentials. Its operations
are asynchronous: a call runs until it awaits the hasher, other calls may run in the meantime, and
then it goes on with the record it has looked up before.

## Main definitions

* `InMemoryUserManagementStore`.
* `UserOperation`.
* `Continuation`.
* `UserSystem` — the store and the suspended calls; `UserSystem.step` starts a
  call or resumes one.

## Design

* The map holds references to mutable records: a suspended call keeps its reference even when the
  name has been removed or given a new record. A reference is a position in the list of all the
  records that were ever made.
* An operation that does not await runs at once, as `modifyUser` does when it leaves the password.
* Promises are never rejected.
-/

namespace NodeOpcua

/-- Password requirements; a length of 0 means no limit. -/
structure PasswordPolicy where
  minLength : ℕ := 0
  maxLength : ℕ := 0
  requireUpperCase : Bool := false
  requireLowerCase : Bool := false
  requireDigit : Bool := false
  requireSpecial : Bool := false

/-- The `length` of a string, in UTF-16 units. -/
def utf16Length (s : String) : ℕ := (s.toList.map fun c => if c.toNat < 0x10000 then 1 else 2).sum

/-- `isPasswordValid`: the candidate meets the policy. -/
def PasswordPolicy.isPasswordValid (p : PasswordPolicy) (password : String) : Bool :=
  if p.minLength ≠ 0 ∧ utf16Length password < p.minLength then false
  else if p.maxLength ≠ 0 ∧ p.maxLength < utf16Length password then false
  else if p.requireUpperCase ∧ ¬ password.toList.any Char.isUpper then false
  else if p.requireLowerCase ∧ ¬ password.toList.any Char.isLower then false
  else if p.requireDigit ∧ ¬ password.toList.any Char.isDigit then false
  else if p.requireSpecial ∧ ¬ password.toList.any (fun c => !c.isAlphanum) then false
  else true

/-- A set of `UserConfigurationMask` bits. -/
abbrev UserConfigurationMask := UInt32

namespace UserConfigurationMask

def None : UserConfigurationMask := 0
def NoDelete : UserConfigurationMask := 1
def Disabled : UserConfigurationMask := 2
def NoChangeByUser : UserConfigurationMask := 4
def MustChangePassword : UserConfigurationMask := 8

/-- `has`: the bits are set. -/
def has (mask bit : UserConfigurationMask) : Bool := mask &&& bit = bit

end UserConfigurationMask

open UserConfigurationMask (has)

/-- `validateUserConfiguration`: the error of an invalid combination. -/
def validateUserConfiguration (mask : UserConfigurationMask) : Option StatusCode :=
  if has mask .MustChangePassword ∧ has mask .NoChangeByUser then
    some .BadConfigurationError
  else none

/-- The record of a user. -/
structure InternalUser where
  userName : String
  credential : String
  userConfiguration : UserConfigurationMask
  description : String
  deriving DecidableEq, Repr

/-- The users: the record of each name, by reference. Two names never share a record. -/
structure InMemoryUserManagementStore where
  _users : AList fun _ : String => ℕ
  records : List InternalUser
  bounded : ∀ userName user, _users.lookup userName = some user → user < records.length
  injective : ∀ userName userName' user, _users.lookup userName = some user →
    _users.lookup userName' = some user → userName = userName'

namespace InMemoryUserManagementStore

/-- The store before any user is added. -/
def empty : InMemoryUserManagementStore where
  _users := ∅
  records := []
  bounded := fun _ _ h => by simp at h
  injective := fun _ _ _ h => by simp at h

variable (store : InMemoryUserManagementStore)

/-- `_users.get`. -/
def get (userName : String) : Option ℕ :=
  store._users.lookup userName

/-- The record behind a reference. -/
def record (user : ℕ) : InternalUser :=
  store.records.getD user
    { userName := "", credential := "", userConfiguration := .None, description := "" }

/-- `hasUser`. -/
def hasUser (userName : String) : Bool :=
  (store.get userName).isSome

/-- `_users.set`, with a new record. -/
def set (user : InternalUser) :
    InMemoryUserManagementStore where
  _users := store._users.insert user.userName store.records.length
  records := store.records ++ [user]
  bounded := by
    intro userName ref h
    rw [List.length_append, List.length_singleton]
    by_cases heq : userName = user.userName
    · rw [heq, AList.lookup_insert] at h
      have := Option.some.inj h
      omega
    · rw [AList.lookup_insert_ne heq] at h
      have := store.bounded userName ref h
      omega
  injective := by
    intro userName userName' ref h h'
    by_cases heq : userName = user.userName <;> by_cases heq' : userName' = user.userName
    · exact heq.trans heq'.symm
    · rw [heq, AList.lookup_insert] at h
      rw [AList.lookup_insert_ne heq'] at h'
      have := store.bounded userName' ref h'
      have := Option.some.inj h
      omega
    · rw [AList.lookup_insert_ne heq] at h
      rw [heq', AList.lookup_insert] at h'
      have := store.bounded userName ref h
      have := Option.some.inj h'
      omega
    · rw [AList.lookup_insert_ne heq] at h
      rw [AList.lookup_insert_ne heq'] at h'
      exact store.injective userName userName' ref h h'

/-- `_users.delete`. -/
def delete (userName : String) :
    InMemoryUserManagementStore where
  _users := store._users.erase userName
  records := store.records
  bounded := by
    intro other ref h
    by_cases heq : other = userName
    · rw [heq, AList.lookup_erase] at h
      cases h
    · rw [AList.lookup_erase_ne heq] at h
      exact store.bounded other ref h
  injective := by
    intro other other' ref h h'
    by_cases heq : other = userName
    · rw [heq, AList.lookup_erase] at h
      cases h
    by_cases heq' : other' = userName
    · rw [heq', AList.lookup_erase] at h'
      cases h'
    rw [AList.lookup_erase_ne heq] at h
    rw [AList.lookup_erase_ne heq'] at h'
    exact store.injective other other' ref h h'

/-- The fields of the record behind a reference are assigned. -/
def assign (user : ℕ) (fields : InternalUser) :
    InMemoryUserManagementStore where
  _users := store._users
  records := store.records.set user fields
  bounded := by
    intro userName ref h
    rw [List.length_set]
    exact store.bounded userName ref h
  injective := store.injective

end InMemoryUserManagementStore

/-! ### Calls -/

/-- The `options` of `modifyUser`. -/
structure ModifyUserOptions where
  modifyPassword : Bool := false
  password : Option String := none
  modifyUserConfiguration : Bool := false
  userConfiguration : Option UserConfigurationMask := none
  modifyDescription : Bool := false
  description : Option String := none
  deriving DecidableEq, Repr

/-- A call of an operation; the salt is what the hasher draws when the call hashes a password. -/
inductive UserOperation
  | addUser (userName password : String) (userConfiguration : UserConfigurationMask)
      (description : String) (salt : Salt)
  | modifyUser (userName : String) (options : ModifyUserOptions) (callerUserName : Option String)
      (salt : Salt)
  | removeUser (userName : String) (callerUserName : Option String)
  | changePassword (userName oldPassword newPassword : String) (salt : Salt)
  | authenticate (userName password : String) (salt : Salt)
  deriving DecidableEq, Repr

/-- What a call returns: a status code, and for `authenticate` whether the password must be
changed. -/
structure AuthenticationResult where
  statusCode : StatusCode
  mustChangePassword : Bool := false
  deriving DecidableEq, Repr

/-- A call that awaits the hasher, with its arguments and what it has looked up: the reference of
the record, and the value of the promise it awaits. -/
inductive Continuation
  | addUserHash (userName password : String) (userConfiguration : UserConfigurationMask)
      (description : String) (salt : Salt)
  | modifyUserHash (userName : String) (options : ModifyUserOptions)
      (callerUserName : Option String) (salt : Salt) (user : ℕ)
      (nextConfig : UserConfigurationMask)
  | changePasswordVerify (userName oldPassword newPassword : String) (salt : Salt) (user : ℕ)
      (verified : Bool)
  | changePasswordHash (userName oldPassword newPassword : String) (salt : Salt) (user : ℕ)
  | authenticateVerify (userName password : String) (salt : Salt) (user : ℕ) (verified : Bool)
  | authenticateHash (userName password : String) (salt : Salt) (user : ℕ)
  deriving DecidableEq, Repr

/-- The call that is suspended. -/
def Continuation.operation : Continuation → UserOperation
  | .addUserHash userName password userConfiguration description salt =>
    .addUser userName password userConfiguration description salt
  | .modifyUserHash userName options callerUserName salt _ _ =>
    .modifyUser userName options callerUserName salt
  | .changePasswordVerify userName oldPassword newPassword salt _ _
  | .changePasswordHash userName oldPassword newPassword salt _ =>
    .changePassword userName oldPassword newPassword salt
  | .authenticateVerify userName password salt _ _
  | .authenticateHash userName password salt _ => .authenticate userName password salt

/-- A call has returned, or it awaits the hasher. -/
inductive CallOutcome
  | returned (result : AuthenticationResult) (store : InMemoryUserManagementStore)
  | awaits (continuation : Continuation) (store : InMemoryUserManagementStore)

/-- The call returns a status code. -/
def CallOutcome.status (statusCode : StatusCode) (store : InMemoryUserManagementStore) :
    CallOutcome :=
  .returned { statusCode } store

namespace InMemoryUserManagementStore

variable (registry : HasherRegistry) (policy : PasswordPolicy)

section

variable (store : InMemoryUserManagementStore) (userName password : String)
  (userConfiguration : UserConfigurationMask) (description : String) (salt : Salt)

/-- `addUser`, until it awaits the hash. -/
def addUser :
    CallOutcome :=
  if store.hasUser userName then .status .BadAlreadyExists store
  else
    match validateUserConfiguration userConfiguration with
    | some configError => .status configError store
    | none =>
      if ¬ policy.isPasswordValid password then .status .BadOutOfRange store
      else .awaits (.addUserHash userName password userConfiguration description salt) store

/-- `addUser` after the hash: the name is set, whatever it holds. -/
def addUserHash :
    CallOutcome :=
  let credential := registry.hash password salt
  .status .Good (store.set { userName, credential, userConfiguration, description })

end

/-- The method may not disable the user that calls it. -/
def selfDisables (callerUserName : Option String) (userName : String)
    (nextConfig userConfiguration : UserConfigurationMask) : Bool :=
  callerUserName = some userName && has nextConfig .Disabled && !has userConfiguration .Disabled

/-- The assignments of `modifyUser` that follow that of the password. -/
def modifyFields (options : ModifyUserOptions) (nextConfig : UserConfigurationMask)
    (user : InternalUser) : InternalUser :=
  { user with
    userConfiguration :=
      if options.modifyUserConfiguration then nextConfig else user.userConfiguration
    description :=
      if options.modifyDescription then options.description.getD "" else user.description }

section

variable (store : InMemoryUserManagementStore)

/-- `modifyUser`, until it awaits the hash of a new password. -/
def modifyUser (userName : String)
    (options : ModifyUserOptions) (callerUserName : Option String) (salt : Salt) : CallOutcome :=
  match store.get userName with
  | none => .status .BadNotFound store
  | some user =>
    if options.modifyPassword ∧ ¬ policy.isPasswordValid (options.password.getD "") then
      .status .BadOutOfRange store
    else
      let userConfiguration := (store.record user).userConfiguration
      let nextConfig :=
        if options.modifyUserConfiguration then options.userConfiguration.getD .None
        else userConfiguration
      match if options.modifyUserConfiguration then validateUserConfiguration nextConfig
        else none with
      | some configError => .status configError store
      | none =>
        if options.modifyUserConfiguration ∧
            selfDisables callerUserName userName nextConfig userConfiguration then
          .status .BadInvalidSelfReference store
        else if options.modifyPassword then
          .awaits (.modifyUserHash userName options callerUserName salt user nextConfig) store
        else
          .status .Good (store.assign user (modifyFields options nextConfig (store.record user)))

/-- `modifyUser` after the hash. -/
def modifyUserHash (options : ModifyUserOptions)
    (salt : Salt) (user : ℕ) (nextConfig : UserConfigurationMask) : CallOutcome :=
  let credential := registry.hash (options.password.getD "") salt
  .status .Good
    (store.assign user (modifyFields options nextConfig { store.record user with credential }))

/-- `removeUser`. -/
def removeUser (userName : String) (callerUserName : Option String) : CallOutcome :=
  match store.get userName with
  | none => .status .BadNotFound store
  | some user =>
    if callerUserName = some userName then .status .BadInvalidSelfReference store
    else if has (store.record user).userConfiguration .NoDelete then
      .status .BadNotSupported store
    else .status .Good (store.delete userName)

section

variable (userName oldPassword newPassword : String) (salt : Salt)

/-- `changePassword`, until it awaits the verification of the old password. -/
def changePassword : CallOutcome :=
  match store.get userName with
  | none => .status .BadIdentityTokenInvalid store
  | some user =>
    if has (store.record user).userConfiguration .NoChangeByUser then
      .status .BadNotSupported store
    else
      .awaits (.changePasswordVerify userName oldPassword newPassword salt user
        (registry.verify oldPassword (store.record user).credential)) store

/-- `changePassword` after the verification, until it awaits the hash. -/
def changePasswordVerify
    (user : ℕ) (verified : Bool) :
    CallOutcome :=
  if ¬ verified then .status .BadIdentityTokenInvalid store
  else if oldPassword = newPassword then .status .BadAlreadyExists store
  else if ¬ policy.isPasswordValid newPassword then .status .BadOutOfRange store
  else .awaits (.changePasswordHash userName oldPassword newPassword salt user) store

end

/-- `changePassword` after the hash; a successful change clears the `MustChangePassword` flag. -/
def changePasswordHash (newPassword : String) (salt : Salt) (user : ℕ) : CallOutcome :=
  let fields := store.record user
  .status .Good
    (store.assign user
      { fields with
        credential := registry.hash newPassword salt
        userConfiguration := fields.userConfiguration &&& ~~~ .MustChangePassword })

end

/-- What `authenticate` returns at its end. -/
def authenticated (userConfiguration : UserConfigurationMask) : AuthenticationResult :=
  if has userConfiguration .MustChangePassword then
    { statusCode := .GoodPasswordChangeRequired, mustChangePassword := true }
  else { statusCode := .Good }

variable (store : InMemoryUserManagementStore)

/-- `authenticate`, until it awaits the verification of the password. -/
def authenticate (userName password : String) (salt : Salt) : CallOutcome :=
  match store.get userName with
  | none => .status .BadUserAccessDenied store
  | some user =>
    if has (store.record user).userConfiguration .Disabled then
      .status .BadUserAccessDenied store
    else
      .awaits (.authenticateVerify userName password salt user
        (registry.verify password (store.record user).credential)) store

/-- `authenticate` after the verification: a credential of another scheme is hashed again. -/
def authenticateVerify (userName password : String)
    (salt : Salt) (user : ℕ) (verified : Bool) : CallOutcome :=
  if ¬ verified then .status .BadUserAccessDenied store
  else if registry.needsRehash (store.record user).credential then
    .awaits (.authenticateHash userName password salt user) store
  else .returned (authenticated (store.record user).userConfiguration) store

/-- `authenticate` after the hash. -/
def authenticateHash (password : String) (salt : Salt) (user : ℕ) : CallOutcome :=
  let fields := store.record user
  .returned (authenticated fields.userConfiguration)
    (store.assign user { fields with credential := registry.hash password salt })

/-- A call runs until it returns or awaits. -/
def start : UserOperation → CallOutcome
  | .addUser userName password userConfiguration description salt =>
    store.addUser policy userName password userConfiguration description salt
  | .modifyUser userName options callerUserName salt =>
    store.modifyUser policy userName options callerUserName salt
  | .removeUser userName callerUserName => store.removeUser userName callerUserName
  | .changePassword userName oldPassword newPassword salt =>
    store.changePassword registry userName oldPassword newPassword salt
  | .authenticate userName password salt => store.authenticate registry userName password salt

/-- A suspended call goes on until it returns or awaits again. -/
def resume : Continuation → CallOutcome
  | .addUserHash userName password userConfiguration description salt =>
    store.addUserHash registry userName password userConfiguration description salt
  | .modifyUserHash _ options _ salt user nextConfig =>
    store.modifyUserHash registry options salt user nextConfig
  | .changePasswordVerify userName oldPassword newPassword salt user verified =>
    store.changePasswordVerify policy userName oldPassword newPassword salt user verified
  | .changePasswordHash _ _ newPassword salt user =>
    store.changePasswordHash registry newPassword salt user
  | .authenticateVerify userName password salt user verified =>
    store.authenticateVerify registry userName password salt user verified
  | .authenticateHash _ password salt user =>
    store.authenticateHash registry password salt user

end InMemoryUserManagementStore

/-! ### Interleavings -/

/-- The store, and the calls that are suspended. -/
structure UserSystem where
  store : InMemoryUserManagementStore
  suspended : List Continuation := []

/-- What runs next: a new call, or one that is suspended. -/
inductive UserAction
  | call (operation : UserOperation)
  | resume (index : ℕ)
  deriving DecidableEq, Repr

namespace UserSystem

variable (registry : HasherRegistry) (policy : PasswordPolicy)

/-- The system after a piece of a call; the event is the call that returned, with its result. -/
def settle (rest : List Continuation) (operation : UserOperation) :
    CallOutcome → UserSystem × List (UserOperation × AuthenticationResult)
  | .returned result store => ({ store, suspended := rest }, [(operation, result)])
  | .awaits continuation store => ({ store, suspended := rest ++ [continuation] }, [])

/-- **One step**: a call starts, or a suspended one resumes, and runs until it returns or awaits. -/
def step (s : UserSystem) :
    UserAction → UserSystem × List (UserOperation × AuthenticationResult)
  | .call operation => settle s.suspended operation (s.store.start registry policy operation)
  | .resume index =>
    match s.suspended[index]? with
    | none => (s, [])
    | some continuation =>
      settle (s.suspended.eraseIdx index) continuation.operation
        (s.store.resume registry policy continuation)

end UserSystem

end NodeOpcua
