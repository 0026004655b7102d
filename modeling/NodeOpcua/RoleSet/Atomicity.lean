import NodeOpcua.Library.Serialization
import NodeOpcua.RoleSet.UserManagementStore

set_option autoImplicit false

/-!
# Interleaved calls on the store of the users

The calls of the store look at it before they await the hasher and write to it afterwards. When
what a call has checked still holds at the time it writes, the interleaved calls are serializable;
otherwise they need not be.

## Main definitions

* `Account` — what can be told of a record from outside: which password its credential
  accepts and whether it is out of date, instead of the credential itself.
* `atomically`, `Continuation.Current`.

## Main results

* `runsAlone_atomically`.
* `userStore_serializable`.

## Design

* The atomic functions say what the operations are for; they are compared with the steps of the
  calls, which are translated from the source.
-/

namespace NodeOpcua

open UserConfigurationMask (has)
open Function (update update_self update_of_ne)

open InMemoryUserManagementStore (selfDisables modifyFields)

/-! ### Accounts -/

/-- What can be told of the record of a user from outside. -/
structure Account where
  accepts : String → Prop
  outdated : Prop
  userConfiguration : UserConfigurationMask
  description : String

/-- The account of a record. -/
def InternalUser.account (registry : HasherRegistry) (user : InternalUser) : Account where
  accepts := fun password => registry.verify password user.credential = true
  outdated := registry.needsRehash user.credential = true
  userConfiguration := user.userConfiguration
  description := user.description

/-- The accounts of the users, by name. -/
abbrev Accounts := String → Option Account

/-- The accounts in a store. -/
def InMemoryUserManagementStore.accounts (registry : HasherRegistry)
    (store : InMemoryUserManagementStore) : Accounts :=
  fun userName => (store.get userName).map fun user => (store.record user).account registry

/-- The account has a new password. -/
def Account.setPassword (account : Account) (password : String) : Account :=
  { account with accepts := fun p => p = password, outdated := False }

/-! ### Atomic operations -/

open Classical in
/-- The operations as atomic functions of the accounts: the result, and the accounts after it. -/
noncomputable def atomically (policy : PasswordPolicy) (operation : UserOperation)
    (accounts : Accounts) : AuthenticationResult × Accounts :=
  match operation with
  | .addUser userName password userConfiguration description _ =>
    if (accounts userName).isSome then ({ statusCode := .BadAlreadyExists }, accounts)
    else
      match validateUserConfiguration userConfiguration with
      | some configError => ({ statusCode := configError }, accounts)
      | none =>
        if ¬ policy.isPasswordValid password then ({ statusCode := .BadOutOfRange }, accounts)
        else ({ statusCode := .Good }, update accounts userName
          (some { accepts := fun p => p = password, outdated := False, userConfiguration,
                  description }))
  | .modifyUser userName options callerUserName _ =>
    match accounts userName with
    | none => ({ statusCode := .BadNotFound }, accounts)
    | some account =>
      if options.modifyPassword ∧ ¬ policy.isPasswordValid (options.password.getD "") then
        ({ statusCode := .BadOutOfRange }, accounts)
      else
        let nextConfig := options.userConfiguration.getD .None
        match if options.modifyUserConfiguration then validateUserConfiguration nextConfig
          else none with
        | some configError => ({ statusCode := configError }, accounts)
        | none =>
          if options.modifyUserConfiguration ∧ selfDisables
              callerUserName userName nextConfig account.userConfiguration then
            ({ statusCode := .BadInvalidSelfReference }, accounts)
          else
            let account :=
              if options.modifyPassword then account.setPassword (options.password.getD "")
              else account
            ({ statusCode := .Good }, update accounts userName
              (some { account with
                userConfiguration :=
                  if options.modifyUserConfiguration then nextConfig
                  else account.userConfiguration
                description :=
                  if options.modifyDescription then options.description.getD ""
                  else account.description }))
  | .removeUser userName callerUserName =>
    match accounts userName with
    | none => ({ statusCode := .BadNotFound }, accounts)
    | some account =>
      if callerUserName = some userName then ({ statusCode := .BadInvalidSelfReference }, accounts)
      else if has account.userConfiguration .NoDelete then
        ({ statusCode := .BadNotSupported }, accounts)
      else ({ statusCode := .Good }, update accounts userName none)
  | .changePassword userName oldPassword newPassword _ =>
    match accounts userName with
    | none => ({ statusCode := .BadIdentityTokenInvalid }, accounts)
    | some account =>
      if has account.userConfiguration .NoChangeByUser then
        ({ statusCode := .BadNotSupported }, accounts)
      else if ¬ account.accepts oldPassword then
        ({ statusCode := .BadIdentityTokenInvalid }, accounts)
      else if oldPassword = newPassword then ({ statusCode := .BadAlreadyExists }, accounts)
      else if ¬ policy.isPasswordValid newPassword then
        ({ statusCode := .BadOutOfRange }, accounts)
      else ({ statusCode := .Good }, update accounts userName
        (some { account.setPassword newPassword with
          userConfiguration := account.userConfiguration &&& ~~~ .MustChangePassword }))
  | .authenticate userName password _ =>
    match accounts userName with
    | none => ({ statusCode := .BadUserAccessDenied }, accounts)
    | some account =>
      if has account.userConfiguration .Disabled ∨ ¬ account.accepts password then
        ({ statusCode := .BadUserAccessDenied }, accounts)
      else (InMemoryUserManagementStore.authenticated account.userConfiguration,
        if account.outdated then
          update accounts userName (some (account.setPassword password))
        else accounts)

/-! ### Steps of the calls -/

/-- **What a suspended call has checked still holds**: the name is still free, or the name still
has the record that was looked up, and that would still pass the checks. A call that is still to
be refused, or that awaits another time, has nothing to lose. -/
def Continuation.Current (registry : HasherRegistry) (store : InMemoryUserManagementStore) :
    Continuation → Prop
  | .addUserHash userName _ _ _ _ => store.hasUser userName = false
  | .modifyUserHash userName options callerUserName _ user nextConfig =>
    store.get userName = some user ∧
      ¬ (options.modifyUserConfiguration ∧ selfDisables callerUserName
        userName nextConfig (store.record user).userConfiguration)
  | .changePasswordVerify _ _ _ _ _ _ => True
  | .changePasswordHash userName oldPassword _ _ user =>
    store.get userName = some user ∧
      ¬ has (store.record user).userConfiguration .NoChangeByUser ∧
      registry.verify oldPassword (store.record user).credential
  | .authenticateVerify userName password _ user verified =>
    verified → ¬ registry.needsRehash (store.record user).credential →
      store.get userName = some user ∧
        ¬ has (store.record user).userConfiguration .Disabled ∧
        registry.verify password (store.record user).credential
  | .authenticateHash userName password _ user =>
    store.get userName = some user ∧
      ¬ has (store.record user).userConfiguration .Disabled ∧
      registry.verify password (store.record user).credential

instance (registry : HasherRegistry) (store : InMemoryUserManagementStore)
    (continuation : Continuation) : Decidable (continuation.Current registry store) :=
  match continuation with
  | .addUserHash _ _ _ _ _ => inferInstanceAs (Decidable (_ = _))
  | .modifyUserHash _ _ _ _ _ _ => inferInstanceAs (Decidable (_ ∧ ¬ (_ ∧ _)))
  | .changePasswordVerify _ _ _ _ _ _ => inferInstanceAs (Decidable True)
  | .changePasswordHash _ _ _ _ _ => inferInstanceAs (Decidable (_ ∧ ¬ _ ∧ _))
  | .authenticateVerify _ _ _ _ _ => inferInstanceAs (Decidable (_ → ¬ _ → _ ∧ ¬ _ ∧ _))
  | .authenticateHash _ _ _ _ => inferInstanceAs (Decidable (_ ∧ ¬ _ ∧ _))

/-- What a suspended call has checked still holds when it resumes. -/
def UserSystem.Current (registry : HasherRegistry) (s : UserSystem) : UserAction → Prop
  | .call _ => True
  | .resume index =>
    match s.suspended[index]? with
    | none => True
    | some continuation => continuation.Current registry s.store

instance (registry : HasherRegistry) (s : UserSystem) (action : UserAction) :
    Decidable (s.Current registry action) :=
  match action with
  | .call _ => inferInstanceAs (Decidable True)
  | .resume index =>
    match h : s.suspended[index]? with
    | none => .isTrue (by simp [UserSystem.Current, h])
    | some continuation =>
      decidable_of_iff (continuation.Current registry s.store) (by simp [UserSystem.Current, h])

/-! ### Writes to the store -/

namespace InMemoryUserManagementStore

variable (registry : HasherRegistry) (store : InMemoryUserManagementStore) {userName : String}

lemma accounts_assign {user : ℕ} (h : store.get userName = some user) (fields : InternalUser) :
    (store.assign user fields).accounts registry =
      update (store.accounts registry) userName (some (fields.account registry)) := by
  have hlt := store.bounded userName user h
  funext other
  by_cases heq : other = userName
  · subst heq
    have hget : (store.assign user fields).get other = some user := h
    rw [update_self, accounts, hget, Option.map_some]
    simp [record, assign, List.getD, hlt]
  · rw [update_of_ne heq, accounts, accounts]
    have hget : (store.assign user fields).get other = store.get other := rfl
    rw [hget]
    cases hother : store.get other with
    | none => rfl
    | some user' =>
      have hne : user ≠ user' := by
        rintro rfl
        exact heq (store.injective other userName user hother h)
      simp [record, assign, List.getD, List.getElem?_set_ne hne]

lemma accounts_set (user : InternalUser) :
    (store.set user).accounts registry =
      update (store.accounts registry) user.userName (some (user.account registry)) := by
  funext other
  by_cases heq : other = user.userName
  · have hget : (store.set user).get other = some store.records.length := by
      rw [heq]
      exact AList.lookup_insert _
    rw [heq, update_self, accounts, ← heq, hget, Option.map_some]
    simp [record, set, List.getD]
  · have hget : (store.set user).get other = store.get other := AList.lookup_insert_ne heq
    rw [update_of_ne heq, accounts, accounts, hget]
    cases hother : store.get other with
    | none => rfl
    | some user' =>
      have hlt := store.bounded other user' hother
      simp [record, set, List.getD, List.getElem?_append_left hlt]

lemma accounts_delete (userName : String) :
    (store.delete userName).accounts registry =
      update (store.accounts registry) userName none := by
  funext other
  by_cases heq : other = userName
  · subst heq
    have hget : (store.delete other).get other = none := AList.lookup_erase _ _
    rw [update_self, accounts, hget, Option.map_none]
  · have hget : (store.delete userName).get other = store.get other := AList.lookup_erase_ne heq
    rw [update_of_ne heq, accounts, accounts, hget]
    rfl

variable {registry store}

lemma accounts_of_none (h : store.get userName = none) :
    store.accounts registry userName = none := by
  rw [accounts, h, Option.map_none]

lemma accounts_of_some {user : ℕ} (h : store.get userName = some user) :
    store.accounts registry userName = some ((store.record user).account registry) := by
  rw [accounts, h, Option.map_some]

end InMemoryUserManagementStore

open InMemoryUserManagementStore (accounts_of_none accounts_of_some)

namespace HasherRegistry.Correct

variable {registry : HasherRegistry} (hregistry : registry.Correct)
include hregistry

lemma account_hash (user : InternalUser) (password : String) (salt : Salt) :
    { user with credential := registry.hash password salt }.account registry =
      (user.account registry).setPassword password := by
  have haccepts : (fun p => registry.verify p (registry.hash password salt) = true) =
      fun p => p = password := by
    funext p
    exact propext (hregistry.verify_hash password p salt)
  have hout : (registry.needsRehash (registry.hash password salt) = true) = False := by
    rw [hregistry.needsRehash_hash]
    simp
  simp only [InternalUser.account, Account.setPassword, haccepts, hout]

lemma setPassword_eq_self {user : InternalUser} {password : String}
    (haccepts : (user.account registry).accepts password)
    (hout : ¬ (user.account registry).outdated) :
    (user.account registry).setPassword password = user.account registry := by
  have hp : (fun p => p = password) = (user.account registry).accepts := by
    funext p
    refine propext ⟨?_, fun h => ?_⟩
    · rintro rfl
      exact haccepts
    · exact hregistry.verify_unique user.credential p password h haccepts
  simp only [Account.setPassword, hp, ← eq_false hout]

end HasherRegistry.Correct

/-! ### Calls that are not interrupted -/

section

variable (registry : HasherRegistry) (policy : PasswordPolicy)

/-- What a call has just found out when it is suspended. -/
def Continuation.JustChecked (store : InMemoryUserManagementStore) : Continuation → Prop
  | .addUserHash userName password userConfiguration _ _ =>
    store.get userName = none ∧ validateUserConfiguration userConfiguration = none ∧
      policy.isPasswordValid password
  | .modifyUserHash userName options callerUserName _ user nextConfig =>
    store.get userName = some user ∧ options.modifyPassword ∧
      policy.isPasswordValid (options.password.getD "") ∧
      (options.modifyUserConfiguration → nextConfig = options.userConfiguration.getD .None ∧
        validateUserConfiguration nextConfig = none ∧
        ¬ selfDisables callerUserName userName nextConfig
          (store.record user).userConfiguration)
  | .changePasswordVerify userName oldPassword _ _ user verified =>
    store.get userName = some user ∧
      ¬ has (store.record user).userConfiguration .NoChangeByUser ∧
      verified = registry.verify oldPassword (store.record user).credential
  | .changePasswordHash userName oldPassword newPassword _ user =>
    store.get userName = some user ∧
      ¬ has (store.record user).userConfiguration .NoChangeByUser ∧
      registry.verify oldPassword (store.record user).credential ∧ oldPassword ≠ newPassword ∧
      policy.isPasswordValid newPassword
  | .authenticateVerify userName password _ user verified =>
    store.get userName = some user ∧ ¬ has (store.record user).userConfiguration .Disabled ∧
      verified = registry.verify password (store.record user).credential
  | .authenticateHash userName password _ user =>
    store.get userName = some user ∧ ¬ has (store.record user).userConfiguration .Disabled ∧
      registry.verify password (store.record user).credential

/-- What a call does until it returns or awaits: it returns what the atomic operation returns, or
it awaits with the store unchanged. -/
def CallOutcome.Starts
    (operation : UserOperation) (store : InMemoryUserManagementStore) : CallOutcome → Prop
  | .returned result store' =>
    atomically policy operation (store.accounts registry) = (result, store'.accounts registry)
  | .awaits continuation store' =>
    store' = store ∧ continuation.operation = operation ∧
      continuation.JustChecked registry policy store

end

section Start

variable (registry : HasherRegistry) (policy : PasswordPolicy)
  (store : InMemoryUserManagementStore)

lemma addUser_starts (userName password : String) (userConfiguration : UserConfigurationMask)
    (description : String) (salt : Salt) :
    (store.addUser policy userName password userConfiguration description salt).Starts registry
      policy (.addUser userName password userConfiguration description salt) store := by
  unfold InMemoryUserManagementStore.addUser InMemoryUserManagementStore.hasUser
  cases hget : store.get userName with
  | some user =>
    show atomically _ _ _ = _
    simp [atomically, accounts_of_some hget]
  | none =>
    have haccounts : store.accounts registry userName = none :=
      accounts_of_none hget
    rw [if_neg (by simp)]
    cases hconf : validateUserConfiguration userConfiguration with
    | some configError =>
      show atomically _ _ _ = _
      simp [atomically, haccounts, hconf]
    | none =>
      by_cases hvalid : policy.isPasswordValid password = true
      · rw [if_neg (by simp [hvalid])]
        exact ⟨rfl, rfl, hget, hconf, hvalid⟩
      · rw [if_pos (by simp [hvalid])]
        show atomically _ _ _ = _
        simp [atomically, haccounts, hconf, hvalid]

lemma modifyUser_starts (userName : String) (opts : ModifyUserOptions)
    (caller : Option String) (salt : Salt) :
    (store.modifyUser policy userName opts caller salt).Starts registry policy
      (.modifyUser userName opts caller salt) store := by
  unfold InMemoryUserManagementStore.modifyUser
  cases hget : store.get userName with
  | none =>
    show atomically _ _ _ = _
    simp [atomically, accounts_of_none hget]
  | some user =>
    have haccounts : store.accounts registry userName =
        some ((store.record user).account registry) :=
      accounts_of_some hget
    dsimp only
    by_cases hvalid : opts.modifyPassword = true ∧
        ¬ policy.isPasswordValid (opts.password.getD "") = true
    · rw [if_pos hvalid]
      show atomically _ _ _ = _
      simp [atomically, haccounts, hvalid]
    rw [if_neg hvalid]
    generalize hnext : (if opts.modifyUserConfiguration = true then
      opts.userConfiguration.getD .None else (store.record user).userConfiguration) = nextConfig
    have hnext' : opts.modifyUserConfiguration = true →
        opts.userConfiguration.getD .None = nextConfig := by
      intro hmod
      rw [← hnext, if_pos hmod]
    have hconfig_eq : (if opts.modifyUserConfiguration = true then
        validateUserConfiguration (opts.userConfiguration.getD .None) else none) =
        if opts.modifyUserConfiguration = true then validateUserConfiguration nextConfig
        else none := by
      by_cases hmod : opts.modifyUserConfiguration = true
      · rw [hnext' hmod]
      · rw [if_neg hmod, if_neg hmod]
    cases hconf : (if opts.modifyUserConfiguration = true then
        validateUserConfiguration nextConfig else none) with
    | some configError =>
      show atomically _ _ _ = _
      simp only [atomically, haccounts, if_neg hvalid, hconfig_eq, hconf]
    | none =>
      by_cases hself : opts.modifyUserConfiguration = true ∧
          selfDisables caller userName nextConfig
            (store.record user).userConfiguration = true
      · rw [if_pos hself]
        show atomically _ _ _ = _
        have hself' := hself
        rw [← hnext' hself.1] at hself'
        simp only [atomically, haccounts, if_neg hvalid, hconfig_eq, hconf]
        rw [if_pos (by exact hself')]
      rw [if_neg hself]
      by_cases hpwd : opts.modifyPassword = true
      · rw [if_pos hpwd]
        refine ⟨rfl, rfl, hget, hpwd, by simpa [hpwd] using hvalid, fun hmod => ?_⟩
        rw [if_pos hmod] at hconf
        exact ⟨(hnext' hmod).symm, hconf, fun h => hself ⟨hmod, h⟩⟩
      · rw [if_neg hpwd]
        show atomically _ _ _ = _
        rw [store.accounts_assign registry hget]
        have hself' : ¬ (opts.modifyUserConfiguration = true ∧
            selfDisables caller userName
              (opts.userConfiguration.getD .None)
              ((store.record user).account registry).userConfiguration = true) := by
          rintro ⟨hmod, h⟩
          rw [hnext' hmod] at h
          exact hself ⟨hmod, h⟩
        simp only [atomically, haccounts, if_neg hvalid, hconfig_eq, hconf, if_neg hself',
          if_neg hpwd]
        by_cases hmod : opts.modifyUserConfiguration = true
        · simp [modifyFields, InternalUser.account, hmod,
            hnext' hmod]
        · simp [modifyFields, InternalUser.account, hmod]

lemma removeUser_starts (userName : String) (caller : Option String) :
    (store.removeUser userName caller).Starts registry policy
      (.removeUser userName caller) store := by
  unfold InMemoryUserManagementStore.removeUser
  cases hget : store.get userName with
  | none =>
    show atomically _ _ _ = _
    simp [atomically, accounts_of_none hget]
  | some user =>
    have haccounts : store.accounts registry userName =
        some ((store.record user).account registry) :=
      accounts_of_some hget
    dsimp only
    split_ifs with hself hnodelete
    · show atomically _ _ _ = _
      simp [atomically, haccounts, hself]
    · show atomically _ _ _ = _
      simp [atomically, haccounts, hself, InternalUser.account, hnodelete]
    · show atomically _ _ _ = _
      rw [InMemoryUserManagementStore.accounts_delete]
      simp [atomically, haccounts, hself, InternalUser.account, hnodelete]

lemma changePassword_starts (userName oldPassword newPassword : String) (salt : Salt) :
    (store.changePassword registry userName oldPassword newPassword salt).Starts registry policy
      (.changePassword userName oldPassword newPassword salt) store := by
  unfold InMemoryUserManagementStore.changePassword
  cases hget : store.get userName with
  | none =>
    show atomically _ _ _ = _
    simp [atomically, accounts_of_none hget]
  | some user =>
    have haccounts : store.accounts registry userName =
        some ((store.record user).account registry) :=
      accounts_of_some hget
    dsimp only
    split_ifs with hnoch
    · show atomically _ _ _ = _
      simp [atomically, haccounts, InternalUser.account, hnoch]
    · exact ⟨rfl, rfl, hget, hnoch, rfl⟩

lemma authenticate_starts (userName password : String) (salt : Salt) :
    (store.authenticate registry userName password salt).Starts registry policy
      (.authenticate userName password salt) store := by
  unfold InMemoryUserManagementStore.authenticate
  cases hget : store.get userName with
  | none =>
    show atomically _ _ _ = _
    simp [atomically, accounts_of_none hget]
  | some user =>
    have haccounts : store.accounts registry userName =
        some ((store.record user).account registry) :=
      accounts_of_some hget
    dsimp only
    split_ifs with hdis
    · show atomically _ _ _ = _
      simp [atomically, haccounts, InternalUser.account, hdis]
    · exact ⟨rfl, rfl, hget, hdis, rfl⟩

end Start

/-- **A call starts.** -/
lemma start_starts (registry : HasherRegistry) (policy : PasswordPolicy)
    (store : InMemoryUserManagementStore) (operation : UserOperation) :
    (store.start registry policy operation).Starts registry policy operation store := by
  cases operation with
  | addUser userName password userConfiguration description salt =>
    exact addUser_starts registry policy store userName password userConfiguration description salt
  | modifyUser userName opts caller salt =>
    exact modifyUser_starts registry policy store userName opts caller salt
  | removeUser userName caller =>
    exact removeUser_starts registry policy store userName caller
  | changePassword userName oldPassword newPassword salt =>
    exact changePassword_starts registry policy store userName oldPassword newPassword salt
  | authenticate userName password salt =>
    exact authenticate_starts registry policy store userName password salt

/-! ### Resumed calls -/

/-- The call is refused. -/
def AuthenticationResult.Refused (result : AuthenticationResult) : Prop :=
  result.statusCode ≠ .Good ∧ result.statusCode ≠ .GoodPasswordChangeRequired

/-- What is known of a suspended call, however long it has been suspended: the verdict of the
hasher was right for accounts that there were at some time. -/
def Continuation.Checked (policy : PasswordPolicy) (visited : Accounts → Prop) :
    Continuation → Prop
  | .addUserHash _ password userConfiguration _ _ =>
    validateUserConfiguration userConfiguration = none ∧ policy.isPasswordValid password
  | .modifyUserHash _ options _ _ _ nextConfig =>
    options.modifyPassword ∧ policy.isPasswordValid (options.password.getD "") ∧
      (options.modifyUserConfiguration → nextConfig = options.userConfiguration.getD .None ∧
        validateUserConfiguration nextConfig = none)
  | .changePasswordVerify userName oldPassword _ _ _ verified =>
    ∃ accounts, visited accounts ∧ ∃ account, accounts userName = some account ∧
      ¬ has account.userConfiguration .NoChangeByUser ∧
      (verified = true ↔ account.accepts oldPassword)
  | .changePasswordHash _ oldPassword newPassword _ _ =>
    oldPassword ≠ newPassword ∧ policy.isPasswordValid newPassword
  | .authenticateVerify userName password _ _ verified =>
    ∃ accounts, visited accounts ∧ ∃ account, accounts userName = some account ∧
      ¬ has account.userConfiguration .Disabled ∧ (verified = true ↔ account.accepts password)
  | .authenticateHash _ _ _ _ => True

variable {policy : PasswordPolicy} {continuation : Continuation}

lemma Continuation.Checked.mono {visited visited' : Accounts → Prop}
    (hvis : ∀ accounts, visited accounts → visited' accounts)
    (h : continuation.Checked policy visited) : continuation.Checked policy visited' := by
  cases continuation with
  | changePasswordVerify | authenticateVerify =>
    exact h.imp fun accounts h => ⟨hvis accounts h.1, h.2⟩
  | addUserHash | modifyUserHash | changePasswordHash | authenticateHash => exact h

variable {store : InMemoryUserManagementStore} {registry : HasherRegistry}

lemma Continuation.JustChecked.checked {visited : Accounts → Prop}
    (hvis : visited (store.accounts registry))
    (h : continuation.JustChecked registry policy store) :
    continuation.Checked policy visited := by
  cases continuation with
  | addUserHash => exact h.2
  | modifyUserHash =>
    obtain ⟨-, hpwd, hvalid, hconf⟩ := h
    exact ⟨hpwd, hvalid, fun hmod => ⟨(hconf hmod).1, (hconf hmod).2.1⟩⟩
  | changePasswordVerify userName oldPassword newPassword salt user verified =>
    obtain ⟨hget, hnoch, rfl⟩ := h
    exact ⟨_, hvis, _, accounts_of_some hget, hnoch, Iff.rfl⟩
  | changePasswordHash => exact h.2.2.2
  | authenticateVerify userName password salt user verified =>
    obtain ⟨hget, hdis, rfl⟩ := h
    exact ⟨_, hvis, _, accounts_of_some hget, hdis, Iff.rfl⟩
  | authenticateHash => trivial

lemma Continuation.JustChecked.current (h : continuation.JustChecked registry policy store) :
    continuation.Current registry store := by
  cases continuation with
  | addUserHash =>
    show Option.isSome _ = false
    rw [h.1]
    rfl
  | modifyUserHash => exact ⟨h.1, fun hself => (h.2.2.2 hself.1).2.2 hself.2⟩
  | changePasswordVerify => trivial
  | changePasswordHash => exact ⟨h.1, h.2.1, h.2.2.1⟩
  | authenticateVerify userName password salt user verified =>
    obtain ⟨hget, hdis, rfl⟩ := h
    exact fun hver _ => ⟨hget, hdis, hver⟩
  | authenticateHash => exact h

/-- What a resumed call does until it returns or awaits again: it returns what the atomic operation
returns now; or it is refused as the atomic operation was at some time; or it awaits with the store
unchanged. -/
def CallOutcome.Resumes (registry : HasherRegistry) (policy : PasswordPolicy)
    (visited : Accounts → Prop) (operation : UserOperation)
    (store : InMemoryUserManagementStore) : CallOutcome → Prop
  | .returned result store' =>
    atomically policy operation (store.accounts registry) = (result, store'.accounts registry) ∨
      store' = store ∧ result.Refused ∧
        ∃ accounts, visited accounts ∧ atomically policy operation accounts = (result, accounts)
  | .awaits continuation store' =>
    store' = store ∧ continuation.operation = operation ∧ continuation.Checked policy visited

section Resume

variable {registry : HasherRegistry} (hregistry : registry.Correct) {policy : PasswordPolicy}
  {visited : Accounts → Prop} {store : InMemoryUserManagementStore}
include hregistry

variable {salt : Salt} {userName password : String}

lemma addUserHash_resumes {userConfiguration : UserConfigurationMask} {description : String}
    (hchk : (Continuation.addUserHash userName password userConfiguration description
      salt).Checked policy visited)
    (hcur : (Continuation.addUserHash userName password userConfiguration description
      salt).Current registry store) :
    (store.addUserHash registry userName password userConfiguration description salt).Resumes
      registry policy visited
      (.addUser userName password userConfiguration description salt) store := by
  obtain ⟨hconf, hvalid⟩ := hchk
  have hget : store.get userName = none := by
    simpa [Continuation.Current, InMemoryUserManagementStore.hasUser] using hcur
  left
  rw [InMemoryUserManagementStore.accounts_set]
  simp only [atomically, accounts_of_none hget, hconf]
  have hacct := hregistry.account_hash
    { userName, credential := "", userConfiguration, description } password salt
  rw [hacct]
  simp [hvalid, Account.setPassword, InternalUser.account]

variable {user : ℕ}

lemma modifyUserHash_resumes {userName : String} {opts : ModifyUserOptions}
    {caller : Option String} {nextConfig : UserConfigurationMask}
    (hchk : (Continuation.modifyUserHash userName opts caller salt user
      nextConfig).Checked policy visited)
    (hcur : (Continuation.modifyUserHash userName opts caller salt user
      nextConfig).Current registry store) :
    (store.modifyUserHash registry opts salt user nextConfig).Resumes registry policy visited
      (.modifyUser userName opts caller salt) store := by
  obtain ⟨hpwd, hvalid, hconf⟩ := hchk
  obtain ⟨hget, hself⟩ := hcur
  left
  rw [store.accounts_assign registry hget]
  have hconfig_eq : (if opts.modifyUserConfiguration = true then
      validateUserConfiguration (opts.userConfiguration.getD .None) else none) = none := by
    split_ifs with hmod
    · rw [← (hconf hmod).1, (hconf hmod).2]
    · rfl
  have hself' : ¬ (opts.modifyUserConfiguration = true ∧
      selfDisables caller userName
        (opts.userConfiguration.getD .None)
        ((store.record user).account registry).userConfiguration = true) := by
    rintro ⟨hmod, h⟩
    rw [← (hconf hmod).1] at h
    exact hself ⟨hmod, h⟩
  have hacct := hregistry.account_hash (store.record user) (opts.password.getD "") salt
  simp only [atomically, accounts_of_some hget, hconfig_eq,
    if_neg hself', ← hacct]
  rw [if_neg fun h => h.2 hvalid]
  by_cases hmod : opts.modifyUserConfiguration = true
  · simp [modifyFields, InternalUser.account, hpwd, hmod,
      (hconf hmod).1]
  · simp [modifyFields, InternalUser.account, hpwd, hmod]

variable {userName oldPassword newPassword : String}

lemma changePasswordHash_resumes
    (hchk : (Continuation.changePasswordHash userName oldPassword newPassword salt
      user).Checked policy visited)
    (hcur : (Continuation.changePasswordHash userName oldPassword newPassword salt
      user).Current registry store) :
    (store.changePasswordHash registry newPassword salt user).Resumes registry policy visited
      (.changePassword userName oldPassword newPassword salt) store := by
  obtain ⟨hne, hvalid⟩ := hchk
  obtain ⟨hget, hnoch, hverify⟩ := hcur
  left
  rw [store.accounts_assign registry hget]
  have hacct := hregistry.account_hash (store.record user) newPassword salt
  have haccepts : ((store.record user).account registry).accepts oldPassword := hverify
  have hnoch' : ¬ has ((store.record user).account registry).userConfiguration
      .NoChangeByUser = true := hnoch
  simp only [atomically, accounts_of_some hget, if_neg hnoch',
    if_neg hne, ← hacct]
  rw [if_neg fun h => h haccepts, if_neg fun h => h hvalid]
  rfl

lemma authenticateHash_resumes
    (hcur : (Continuation.authenticateHash userName password salt user).Current registry
      store) :
    (store.authenticateHash registry password salt user).Resumes registry policy visited
      (.authenticate userName password salt) store := by
  obtain ⟨hget, hdis, hverify⟩ := hcur
  left
  rw [store.accounts_assign registry hget]
  have haccepts : ((store.record user).account registry).accepts password := hverify
  have hdis' : ¬ has ((store.record user).account registry).userConfiguration
      .Disabled = true := hdis
  have hpass : ¬ (has ((store.record user).account registry).userConfiguration .Disabled = true ∨
      ¬ ((store.record user).account registry).accepts password) := by
    simp [hdis', haccepts]
  simp only [atomically, accounts_of_some hget, if_neg hpass]
  rw [hregistry.account_hash (store.record user) password salt]
  by_cases hout : ((store.record user).account registry).outdated
  · rw [if_pos hout]
    rfl
  · -- another login has hashed the password again in the meantime
    rw [if_neg hout, hregistry.setPassword_eq_self haccepts hout,
      ← accounts_of_some hget, Function.update_eq_self]
    rfl

omit hregistry in
lemma changePasswordVerify_resumes {verified : Bool}
    (hchk : (Continuation.changePasswordVerify userName oldPassword newPassword salt user
      verified).Checked policy visited) :
    (store.changePasswordVerify policy userName oldPassword newPassword salt user
      verified).Resumes registry policy visited
      (.changePassword userName oldPassword newPassword salt) store := by
  obtain ⟨accounts, hvis, account, hacct, hnoch, hver⟩ := hchk
  have href : ∀ statusCode : StatusCode, statusCode ≠ .Good →
      statusCode ≠ .GoodPasswordChangeRequired →
      atomically policy (.changePassword userName oldPassword newPassword salt) accounts =
        ({ statusCode }, accounts) →
      (CallOutcome.status statusCode store).Resumes registry policy visited
        (.changePassword userName oldPassword newPassword salt) store :=
    fun statusCode h1 h2 h => .inr ⟨rfl, ⟨h1, h2⟩, accounts, hvis, h⟩
  unfold InMemoryUserManagementStore.changePasswordVerify
  by_cases hv : verified = true
  · have haccepts := hver.mp hv
    rw [if_neg fun h => h hv]
    by_cases hsame : oldPassword = newPassword
    · rw [if_pos hsame]
      apply href _ (by decide) (by decide)
      simp only [atomically, hacct, if_neg hnoch, if_pos hsame]
      rw [if_neg fun h => h haccepts]
    rw [if_neg hsame]
    by_cases hvalid : policy.isPasswordValid newPassword = true
    · rw [if_neg fun h => h hvalid]
      exact ⟨rfl, rfl, hsame, hvalid⟩
    · rw [if_pos hvalid]
      apply href _ (by decide) (by decide)
      simp only [atomically, hacct, if_neg hnoch, if_neg hsame]
      rw [if_neg fun h => h haccepts, if_pos hvalid]
  · rw [if_pos hv]
    apply href _ (by decide) (by decide)
    simp only [atomically, hacct, if_neg hnoch]
    rw [if_pos fun h => hv (hver.mpr h)]

omit hregistry in
lemma authenticateVerify_resumes {verified : Bool}
    (hchk : (Continuation.authenticateVerify userName password salt user
      verified).Checked policy visited)
    (hcur : (Continuation.authenticateVerify userName password salt user
      verified).Current registry store) :
    (store.authenticateVerify registry userName password salt user verified).Resumes registry
      policy visited (.authenticate userName password salt) store := by
  obtain ⟨accounts, hvis, account, hacct, hdis, hver⟩ := hchk
  unfold InMemoryUserManagementStore.authenticateVerify
  by_cases hv : verified = true
  · rw [if_neg fun h => h hv]
    by_cases hrehash : registry.needsRehash (store.record user).credential = true
    · rw [if_pos hrehash]
      exact ⟨rfl, rfl, trivial⟩
    · rw [if_neg hrehash]
      obtain ⟨hget, hdis', hverify⟩ := hcur hv hrehash
      have hpass : ¬ (has ((store.record user).account registry).userConfiguration
          .Disabled = true ∨ ¬ ((store.record user).account registry).accepts password) :=
        fun h => h.elim hdis' fun h => h hverify
      left
      simp only [atomically, accounts_of_some hget, if_neg hpass]
      rw [if_neg (by exact hrehash)]
      rfl
  · rw [if_pos hv]
    refine .inr ⟨rfl, ⟨by decide, by decide⟩, accounts, hvis, ?_⟩
    have hdenied : has account.userConfiguration .Disabled = true ∨ ¬ account.accepts password :=
      .inr fun h => hv (hver.mpr h)
    simp only [atomically, hacct, if_pos hdenied]

/-- **A call resumes** with what it has checked before still holding. -/
lemma resume_resumes {continuation : Continuation}
    (hchk : continuation.Checked policy visited)
    (hcur : continuation.Current registry store) :
    (store.resume registry policy continuation).Resumes registry policy visited
      continuation.operation store := by
  cases continuation with
  | addUserHash => exact addUserHash_resumes hregistry hchk hcur
  | modifyUserHash => exact modifyUserHash_resumes hregistry hchk hcur
  | changePasswordVerify => exact changePasswordVerify_resumes hchk
  | changePasswordHash => exact changePasswordHash_resumes hregistry hchk hcur
  | authenticateVerify => exact authenticateVerify_resumes hchk hcur
  | authenticateHash => exact authenticateHash_resumes hregistry hcur

end Resume

/-! ### Calls one after the other -/

/-- A call that is resumed at once whenever it awaits returns the result. -/
inductive RunsAlone (registry : HasherRegistry) (policy : PasswordPolicy) :
    CallOutcome → AuthenticationResult → InMemoryUserManagementStore → Prop
  | returned (result : AuthenticationResult) (store : InMemoryUserManagementStore) :
    RunsAlone registry policy (.returned result store) result store
  | awaits {continuation : Continuation} {result : AuthenticationResult}
      {store store' : InMemoryUserManagementStore}
      (h : RunsAlone registry policy (store.resume registry policy continuation) result store') :
    RunsAlone registry policy (.awaits continuation store) result store'

/-- **The calls run one after the other**, each to its end, with their results. -/
inductive OneAfterTheOther (registry : HasherRegistry) (policy : PasswordPolicy) :
    InMemoryUserManagementStore → List (UserOperation × AuthenticationResult) →
      InMemoryUserManagementStore → Prop
  | nil (store : InMemoryUserManagementStore) : OneAfterTheOther registry policy store [] store
  | cons {store store' store'' : InMemoryUserManagementStore} {operation : UserOperation}
      {result : AuthenticationResult} {rest : List (UserOperation × AuthenticationResult)}
      (h : RunsAlone registry policy (store.start registry policy operation) result store')
      (hrest : OneAfterTheOther registry policy store' rest store'') :
    OneAfterTheOther registry policy store ((operation, result) :: rest) store''

section Alone

variable {registry : HasherRegistry} {policy : PasswordPolicy}
  {store store' : InMemoryUserManagementStore}

lemma Continuation.JustChecked.resume {continuation continuation' : Continuation}
    (h : continuation.JustChecked registry policy store)
    (hresume : store.resume registry policy continuation = .awaits continuation' store') :
    store' = store ∧ continuation'.operation = continuation.operation ∧
      continuation'.JustChecked registry policy store ∧
      ∃ result store'', store.resume registry policy continuation' = .returned result store'' := by
  cases continuation with
  | addUserHash | modifyUserHash | changePasswordHash | authenticateHash => cases hresume
  | changePasswordVerify userName oldPassword newPassword salt user verified =>
    obtain ⟨hget, hnoch, hver⟩ := h
    simp only [InMemoryUserManagementStore.resume,
      InMemoryUserManagementStore.changePasswordVerify] at hresume
    split_ifs at hresume with hv hsame hvalid
    · cases hresume
    · obtain ⟨rfl, rfl⟩ := CallOutcome.awaits.inj hresume
      exact ⟨rfl, rfl, ⟨hget, hnoch, hver ▸ hv, hsame, hvalid⟩, _, _, rfl⟩
    · cases hresume
    · cases hresume
  | authenticateVerify userName password salt user verified =>
    obtain ⟨hget, hdis, hver⟩ := h
    simp only [InMemoryUserManagementStore.resume,
      InMemoryUserManagementStore.authenticateVerify] at hresume
    split_ifs at hresume with hv hrehash
    · obtain ⟨rfl, rfl⟩ := CallOutcome.awaits.inj hresume
      exact ⟨rfl, rfl, ⟨hget, hdis, hver ▸ hv⟩, _, _, rfl⟩
    · cases hresume

lemma resume_returned (hregistry : registry.Correct) {continuation : Continuation}
    {res : AuthenticationResult} (h : continuation.JustChecked registry policy store)
    (hresume : store.resume registry policy continuation = .returned res store') :
    atomically policy continuation.operation (store.accounts registry) =
      (res, store'.accounts registry) := by
  have hresumes := resume_resumes hregistry
    (h.checked (show (fun accounts => accounts = store.accounts registry) _ from rfl)) h.current
  rw [hresume] at hresumes
  rcases hresumes with hatomic | ⟨rfl, -, accounts, rfl, hatomic⟩
  · exact hatomic
  · exact hatomic

/-- **A call that nothing interrupts is atomic.** -/
theorem runsAlone_atomically (policy : PasswordPolicy) (store : InMemoryUserManagementStore)
    (hregistry : registry.Correct) (operation : UserOperation) :
    ∃ store', RunsAlone registry policy (store.start registry policy operation)
        (atomically policy operation (store.accounts registry)).1 store' ∧
      store'.accounts registry = (atomically policy operation (store.accounts registry)).2 := by
  have hstarts := start_starts registry policy store operation
  cases hstart : store.start registry policy operation with
  | returned res store' =>
    rw [hstart] at hstarts
    have hatomic : atomically policy operation (store.accounts registry) =
        (res, store'.accounts registry) := hstarts
    rw [hatomic]
    exact ⟨store', .returned res store', rfl⟩
  | awaits continuation store' =>
    rw [hstart] at hstarts
    obtain ⟨rfl, rfl, hchk⟩ := hstarts
    cases hresume : store'.resume registry policy continuation with
    | returned res store'' =>
      rw [resume_returned hregistry hchk hresume]
      exact ⟨store'', .awaits (hresume ▸ .returned res store''), rfl⟩
    | awaits continuation' store'' =>
      obtain ⟨rfl, hop, hchk', res, last, hresume'⟩ := hchk.resume hresume
      rw [← hop, resume_returned hregistry hchk' hresume']
      exact ⟨last, .awaits (hresume ▸ .awaits (hresume' ▸ .returned res last)), rfl⟩

variable {history : List (UserOperation × AuthenticationResult)}

lemma oneAfterTheOther_of_serial (hregistry : registry.Correct) {accounts accounts' : Accounts}
    (h : Serialization.Serial (atomically policy) accounts history accounts')
    (haccounts : store.accounts registry = accounts) :
    ∃ store', OneAfterTheOther registry policy store history store' ∧
      store'.accounts registry = accounts' := by
  induction h generalizing store with
  | nil => exact ⟨store, .nil store, haccounts⟩
  | cons hop _ ih =>
    obtain ⟨store', halone, heq⟩ := runsAlone_atomically policy store hregistry _
    rw [haccounts, hop] at halone heq
    obtain ⟨store'', hrest, heq'⟩ := ih heq
    exact ⟨store'', .cons halone hrest, heq'⟩

lemma RunsAlone.unique {out : CallOutcome} {res res' : AuthenticationResult}
    {store' store'' : InMemoryUserManagementStore}
    (h : RunsAlone registry policy out res store')
    (h' : RunsAlone registry policy out res' store'') :
    res = res' ∧ store' = store'' := by
  induction h with
  | returned =>
    cases h'
    exact ⟨rfl, rfl⟩
  | awaits _ ih =>
    cases h' with
    | awaits h' => exact ih h'

lemma OneAfterTheOther.serial (hregistry : registry.Correct)
    (h : OneAfterTheOther registry policy store history store') :
    Serialization.Serial (atomically policy) (store.accounts registry) history
      (store'.accounts registry) := by
  induction h with
  | nil => exact .nil _
  | @cons store _ _ operation _ _ halone _ ih =>
    obtain ⟨last, halone', haccounts⟩ :=
      runsAlone_atomically policy store hregistry operation
    obtain ⟨hres, rfl⟩ := halone.unique halone'
    refine .cons ?_ ih
    rw [hres, haccounts]

end Alone

/-! ### What an atomic operation does -/

/-- **What an operation can do** to the accounts, with its result. -/
inductive Effect (accounts : Accounts) :
    UserOperation → AuthenticationResult → Accounts → Prop
  | refused (operation : UserOperation) {result : AuthenticationResult} (h : result.Refused) :
    Effect accounts operation result accounts
  | added {userName password : String} {userConfiguration : UserConfigurationMask}
      {description : String} {salt : Salt} {account : Account}
      (hfree : accounts userName = none) (haccepts : account.accepts = fun p => p = password) :
    Effect accounts (.addUser userName password userConfiguration description salt)
      { statusCode := .Good } (update accounts userName (some account))
  | modified {userName : String} {options : ModifyUserOptions} {callerUserName : Option String}
      {salt : Salt} {account account' : Account} (h : accounts userName = some account)
      (haccepts : account'.accepts = if options.modifyPassword then
        fun p => p = options.password.getD "" else account.accepts) :
    Effect accounts (.modifyUser userName options callerUserName salt)
      { statusCode := .Good } (update accounts userName (some account'))
  | removed {userName : String} {callerUserName : Option String} :
    Effect accounts (.removeUser userName callerUserName)
      { statusCode := .Good } (update accounts userName none)
  | changed {userName oldPassword newPassword : String} {salt : Salt} {account' : Account}
      (hne : oldPassword ≠ newPassword)
      (haccepts : account'.accepts = fun p => p = newPassword) :
    Effect accounts (.changePassword userName oldPassword newPassword salt)
      { statusCode := .Good } (update accounts userName (some account'))
  | authenticated {userName password : String} {salt : Salt} {account : Account}
      {accounts' : Accounts} (result : AuthenticationResult)
      (h : accounts userName = some account) (haccepts : account.accepts password)
      (haccounts : accounts' = accounts ∨
        accounts' = update accounts userName (some (account.setPassword password))) :
    Effect accounts (.authenticate userName password salt) result accounts'

/-- **Every atomic operation** has one of the effects. -/
lemma atomically_effect (policy : PasswordPolicy) (operation : UserOperation)
    (accounts : Accounts) :
    Effect accounts operation (atomically policy operation accounts).1
      (atomically policy operation accounts).2 := by
  have href : ∀ statusCode : StatusCode, statusCode ≠ .Good →
      statusCode ≠ .GoodPasswordChangeRequired →
      Effect accounts operation { statusCode } accounts :=
    fun statusCode h1 h2 => .refused operation ⟨h1, h2⟩
  have hconf : ∀ mask error, validateUserConfiguration mask = some error →
      Effect accounts operation { statusCode := error } accounts := by
    intro mask error h
    unfold validateUserConfiguration at h
    split_ifs at h
    obtain rfl := Option.some.inj h
    exact href _ (by decide) (by decide)
  cases operation with
  | addUser userName password userConfiguration description salt =>
    unfold atomically
    dsimp only
    split
    · exact href _ (by decide) (by decide)
    next hfree =>
      split
      next error h => exact hconf _ error h
      · split
        · exact href _ (by decide) (by decide)
        · exact .added (Option.not_isSome_iff_eq_none.mp hfree) rfl
  | modifyUser userName opts caller salt =>
    unfold atomically
    dsimp only
    split
    · exact href _ (by decide) (by decide)
    next account hacct =>
      split
      · exact href _ (by decide) (by decide)
      · split
        next error h =>
          split_ifs at h with hmod
          exact hconf _ error h
        · split
          · exact href _ (by decide) (by decide)
          · refine .modified hacct ?_
            split_ifs <;> rfl
  | removeUser userName caller =>
    unfold atomically
    dsimp only
    split
    · exact href _ (by decide) (by decide)
    · split
      · exact href _ (by decide) (by decide)
      · split
        · exact href _ (by decide) (by decide)
        · exact .removed
  | changePassword userName oldPassword newPassword salt =>
    unfold atomically
    dsimp only
    split
    · exact href _ (by decide) (by decide)
    · split_ifs with _ _ hne
      · exact href _ (by decide) (by decide)
      · exact href _ (by decide) (by decide)
      · exact .changed hne rfl
      · exact href _ (by decide) (by decide)
      · exact href _ (by decide) (by decide)
  | authenticate userName password salt =>
    unfold atomically
    dsimp only
    split
    · exact href _ (by decide) (by decide)
    next account hacct =>
      split
      · exact href _ (by decide) (by decide)
      next hpass =>
        rw [not_or, not_not] at hpass
        refine .authenticated _ hacct hpass.2 ?_
        split_ifs
        · exact .inr rfl
        · exact .inl rfl

variable {result : AuthenticationResult} {operation : UserOperation}

lemma effect_of_eq {accounts accounts' : Accounts}
    (h : atomically policy operation accounts = (result, accounts')) :
    Effect accounts operation result accounts' := by
  have heff := atomically_effect policy operation accounts
  rwa [h] at heff

/-! ### What the events of a run tell -/

/-- The event of a call that returned. -/
abbrev UserEvent := UserOperation × AuthenticationResult

/-- A user of the name was added. -/
def Adds (userName : String) : UserEvent → Prop
  | (.addUser userName' _ _ _ _, result) => userName' = userName ∧ result.statusCode = .Good
  | _ => False

/-- The user of the name was removed. -/
def Removes (userName : String) : UserEvent → Prop
  | (.removeUser userName' _, result) => userName' = userName ∧ result.statusCode = .Good
  | _ => False

/-- The password of the user was changed by its owner, who knew the old one. -/
def Replaces (userName oldPassword : String) : UserEvent → Prop
  | (.changePassword userName' oldPassword' _ _, result) =>
    userName' = userName ∧ oldPassword' = oldPassword ∧ result.statusCode = .Good
  | _ => False

/-- The user was given the password. -/
def Gives (userName password : String) : UserEvent → Prop
  | (.addUser userName' password' _ _ _, result) =>
    userName' = userName ∧ password' = password ∧ result.statusCode = .Good
  | (.modifyUser userName' options _ _, result) =>
    userName' = userName ∧ options.modifyPassword ∧ options.password.getD "" = password ∧
      result.statusCode = .Good
  | (.changePassword userName' _ newPassword _, result) =>
    userName' = userName ∧ newPassword = password ∧ result.statusCode = .Good
  | _ => False

/-- The user was authenticated with the password. -/
def Authenticates (userName password : String) : UserEvent → Prop
  | (.authenticate userName' password' _, result) =>
    userName' = userName ∧ password' = password ∧ ¬ result.Refused
  | _ => False

lemma not_of_refused (h : result.Refused) (userName password : String) :
    ¬ Adds userName (operation, result) ∧ ¬ Replaces userName password (operation, result) ∧
      ¬ Authenticates userName password (operation, result) := by
  have hgood := h.1
  cases operation <;> simp [Adds, Replaces, Authenticates, hgood, h]

/-- The user is there. -/
def Accounts.Present (accounts : Accounts) (userName : String) : Prop :=
  accounts userName ≠ none

/-- The user, if there is one, does not have the password. -/
def Accounts.Rejects (accounts : Accounts) (userName password : String) : Prop :=
  ∀ account, accounts userName = some account → ¬ account.accepts password

section Effect

variable {accounts accounts' : Accounts} {operation : UserOperation}
  {result : AuthenticationResult} (h : Effect accounts operation result accounts')
include h

lemma Effect.present {userName : String}
    (hbefore : Adds userName (operation, result) ∨
      accounts.Present userName ∧ ¬ Removes userName (operation, result)) :
    accounts'.Present userName := by
  unfold Accounts.Present at *
  have hupdate : ∀ (name : String) (account : Account),
      accounts userName ≠ none ∨ name = userName →
      update accounts name (some account) userName ≠ none := by
    intro name account hname
    by_cases heq : userName = name
    · rw [heq, update_self]
      exact Option.some_ne_none account
    · rw [update_of_ne heq]
      exact hname.resolve_right fun h => heq h.symm
  cases h with
  | refused _ href =>
    exact hbefore.elim (fun h => absurd h (not_of_refused href userName "").1) And.left
  | added => exact hupdate _ _ (hbefore.symm.imp And.left And.left)
  | @removed name caller =>
    obtain ⟨hpres, hremoves⟩ := hbefore.resolve_left fun h => h
    have hne : userName ≠ name := fun heq => hremoves ⟨heq.symm, rfl⟩
    rwa [update_of_ne hne]
  | modified | changed => exact hupdate _ _ (hbefore.elim False.elim fun h => .inl h.1)
  | authenticated _ _ _ haccounts =>
    have hpres := (hbefore.resolve_left fun h => h).1
    rcases haccounts with rfl | rfl
    · exact hpres
    · exact hupdate _ _ (.inl hpres)

lemma Effect.not_adds {userName : String} (hpres : accounts.Present userName) :
    ¬ Adds userName (operation, result) := by
  intro hadds
  cases h with
  | refused _ href => exact (not_of_refused href userName "").1 hadds
  | added hfree =>
    obtain ⟨rfl, -⟩ := hadds
    exact hpres hfree
  | modified | removed | changed | authenticated => exact hadds

variable {userName password : String}

lemma Effect.rejects (hbefore : Replaces userName password (operation, result) ∨
      accounts.Rejects userName password ∧ ¬ Gives userName password (operation, result)) :
    accounts'.Rejects userName password := by
  have hupdate : ∀ (name : String) (account : Account),
      (name = userName → ¬ account.accepts password) →
      (name ≠ userName → accounts.Rejects userName password) →
      Accounts.Rejects (update accounts name (some account)) userName password := by
    intro name account hacct hother account' hacct'
    by_cases heq : userName = name
    · subst heq
      rw [update_self] at hacct'
      obtain rfl := Option.some.inj hacct'
      exact hacct rfl
    · rw [update_of_ne heq] at hacct'
      exact hother (fun h => heq h.symm) account' hacct'
  cases h with
  | refused _ href =>
    exact hbefore.elim (fun h => absurd h (not_of_refused href userName password).2.1) And.left
  | added _ haccepts =>
    obtain ⟨hrej, hgives⟩ := hbefore.resolve_left fun h => h
    refine hupdate _ _ (fun heq => ?_) fun _ => hrej
    rw [haccepts]
    exact fun hpwd => hgives ⟨heq, hpwd.symm, rfl⟩
  | @modified name options caller salt account account' hacct haccepts =>
    obtain ⟨hrej, hgives⟩ := hbefore.resolve_left fun h => h
    refine hupdate _ _ (fun heq => ?_) fun _ => hrej
    rw [haccepts]
    split_ifs with hmod
    · exact fun hpwd => hgives ⟨heq, hmod, hpwd.symm, rfl⟩
    · exact hrej account (heq ▸ hacct)
  | @removed name caller =>
    obtain ⟨hrej, -⟩ := hbefore.resolve_left fun h => h
    intro account hacct
    by_cases heq : userName = name
    · rw [heq, update_self] at hacct
      cases hacct
    · rw [update_of_ne heq] at hacct
      exact hrej account hacct
  | changed hne haccepts =>
    refine hupdate _ _ (fun heq => ?_) fun hother => ?_
    · rw [haccepts]
      rcases hbefore with ⟨-, rfl, -⟩ | ⟨-, hgives⟩
      · exact hne
      · exact fun hpwd => hgives ⟨heq, hpwd.symm, rfl⟩
    · exact hbefore.elim (fun h => absurd h.1 hother) And.left
  | @authenticated name password' salt account _ _ hacct haccepts haccounts =>
    obtain ⟨hrej, -⟩ := hbefore.resolve_left fun h => h
    rcases haccounts with rfl | rfl
    · exact hrej
    · refine hupdate _ _ (fun heq hpwd => ?_) fun _ => hrej
      exact hrej account (heq ▸ hacct) (hpwd ▸ haccepts)

lemma Effect.not_authenticates (hrej : accounts.Rejects userName password) :
    ¬ Authenticates userName password (operation, result) := by
  intro hauth
  cases h with
  | refused _ href => exact (not_of_refused href userName password).2.2 hauth
  | authenticated _ hacct haccepts _ =>
    obtain ⟨rfl, rfl, -⟩ := hauth
    exact hrej _ hacct haccepts
  | added | modified | removed | changed => exact hauth

end Effect

/-! ### Runs -/

open Serialization

/-- The events so far are those of a serial history that leaves the accounts of the store and has
passed through what the suspended calls have seen; and they tell what the accounts are. -/
structure RunInvariant (registry : HasherRegistry) (policy : PasswordPolicy) (initial : Accounts)
    (events : List UserEvent) (s : UserSystem) : Prop where
  serial : ∃ history, history.Perm events ∧
    Serial (atomically policy) initial history (s.store.accounts registry) ∧
    ∀ continuation ∈ s.suspended,
      continuation.Checked policy (Visits (atomically policy) initial history)
  present : ∀ userName, Since (Adds userName) (Removes userName) events →
    (s.store.accounts registry).Present userName
  rejects : ∀ userName password,
    Since (Replaces userName password) (Gives userName password) events →
      (s.store.accounts registry).Rejects userName password
  adds : ∀ userName, Barred (Adds userName) (Removes userName) (Adds userName) events
  authenticates : ∀ userName password,
    Barred (Replaces userName password) (Gives userName password)
      (Authenticates userName password) events

section Run

variable {registry : HasherRegistry} {policy : PasswordPolicy} {initial : Accounts}
  {events : List UserEvent} {s : UserSystem} {operation : UserOperation}

lemma RunInvariant.event (h : RunInvariant registry policy initial events s)
    {res : AuthenticationResult} {s' : UserSystem}
    (heff : Effect (s.store.accounts registry) operation res (s'.store.accounts registry))
    (hserial : ∃ history, history.Perm (events ++ [(operation, res)]) ∧
      Serial (atomically policy) initial history (s'.store.accounts registry) ∧
      ∀ continuation ∈ s'.suspended,
        continuation.Checked policy (Visits (atomically policy) initial history)) :
    RunInvariant registry policy initial (events ++ [(operation, res)]) s' where
  serial := hserial
  present := by
    intro userName hsince
    apply heff.present
    exact (since_append_singleton.mp hsince).imp_right fun ⟨hsince, hends⟩ =>
      ⟨h.present userName hsince, hends⟩
  rejects := by
    intro userName password hsince
    apply heff.rejects
    exact (since_append_singleton.mp hsince).imp_right fun ⟨hsince, hends⟩ =>
      ⟨h.rejects userName password hsince, hends⟩
  adds := by
    intro userName
    refine (h.adds userName).append_singleton fun hadds hsince => ?_
    exact heff.not_adds (h.present userName hsince) hadds
  authenticates := by
    intro userName password
    refine (h.authenticates userName password).append_singleton fun hauth hsince => ?_
    exact heff.not_authenticates (h.rejects userName password hsince) hauth

/-- **A piece of a call** keeps the invariant. -/
lemma RunInvariant.settle (h : RunInvariant registry policy initial events s)
    {rest : List Continuation} (hrest : ∀ continuation ∈ rest, continuation ∈ s.suspended)
    {out : CallOutcome}
    (houtcome : ∀ visited : Accounts → Prop, visited (s.store.accounts registry) →
      (∀ continuation ∈ s.suspended, continuation.Checked policy visited) →
      out.Resumes registry policy visited operation s.store) :
    RunInvariant registry policy initial (events ++ (UserSystem.settle rest operation out).2)
      (UserSystem.settle rest operation out).1 := by
  obtain ⟨history, hperm, hserial, hchk⟩ := h.serial
  have hresumes := houtcome (Visits (atomically policy) initial history) hserial.visits hchk
  cases out with
  | returned res store =>
    rcases hresumes with hatomic | ⟨rfl, href, accounts, hvisits, hatomic⟩
    · -- the call takes effect now, at the end of the history
      obtain ⟨hserial', hvisits'⟩ := hserial.append hatomic
      refine h.event (effect_of_eq hatomic)
        ⟨_, hperm.append_right _, hserial', fun continuation hmem => ?_⟩
      exact (hchk continuation (hrest continuation hmem)).mono hvisits'
    · -- the call is refused, and goes back to where it has read
      obtain ⟨history', hperm', hserial', hvisits'⟩ := hserial.insert hvisits hatomic
      refine h.event (.refused operation href)
        ⟨history', hperm'.trans (hperm.append_right _), hserial', fun continuation hmem => ?_⟩
      exact (hchk continuation (hrest continuation hmem)).mono hvisits'
  | awaits continuation store =>
    obtain ⟨rfl, -, hnew⟩ := hresumes
    simp only [UserSystem.settle, List.append_nil]
    refine { h with serial := ⟨history, hperm, hserial, fun c hc => ?_⟩ }
    rcases List.mem_append.mp hc with hc | hc
    · exact hchk c (hrest c hc)
    · rwa [List.mem_singleton.mp hc]

/-- **One step** whose call finds what it has checked still holding keeps the invariant. -/
lemma RunInvariant.step (hregistry : registry.Correct)
    (h : RunInvariant registry policy initial events s) {action : UserAction}
    (hcur : s.Current registry action) :
    RunInvariant registry policy initial (events ++ (s.step registry policy action).2)
      (s.step registry policy action).1 := by
  cases action with
  | call operation =>
    refine h.settle (fun _ hmem => hmem) fun visited hvis _ => ?_
    have hstarts := start_starts registry policy s.store operation
    cases hstart : s.store.start registry policy operation with
    | returned res store =>
      rw [hstart] at hstarts
      exact .inl hstarts
    | awaits continuation store =>
      rw [hstart] at hstarts
      obtain ⟨rfl, hop, hchk⟩ := hstarts
      exact ⟨rfl, hop, hchk.checked hvis⟩
  | resume index =>
    cases hcont : s.suspended[index]? with
    | none =>
      have hstep : s.step registry policy (.resume index) = (s, []) := by
        simp only [UserSystem.step, hcont]
      rwa [hstep, List.append_nil]
    | some continuation =>
      have hstep : s.step registry policy (.resume index) =
          UserSystem.settle (s.suspended.eraseIdx index) continuation.operation
            (s.store.resume registry policy continuation) := by
        simp only [UserSystem.step, hcont]
      have hcur' : continuation.Current registry s.store := by
        simpa only [UserSystem.Current, hcont] using hcur
      rw [hstep]
      refine h.settle (fun _ hmem => List.mem_of_mem_eraseIdx hmem) fun visited _ hchk => ?_
      exact resume_resumes hregistry
        (hchk continuation (List.mem_of_getElem? hcont)) hcur'

end Run

/-- **Interleaved calls whose checks still hold are serializable.** In every run of calls on a
store in which each suspended call finds, when it resumes, that what it has checked still holds:

* the calls that returned have the results, and the store the accounts, of some order of the same
  calls one after the other;
* a name for which a call of `addUser` returned `Good` is not added again before it is removed;
* a password that was replaced by a call of `changePassword` that returned `Good` does not
  authenticate any more, unless the user is given it again.

**Proof sketch.** A call that takes effect does so when it returns, and goes to the end of the
serial history; one that is refused goes back to the accounts it has seen. The rest is read off
what each event does to the accounts. -/
theorem userStore_serializable (registry : HasherRegistry) (hregistry : registry.Correct)
    (policy : PasswordPolicy) (store : InMemoryUserManagementStore) (actions : List UserAction)
    (hcurrent : Mealy.Along (UserSystem.step registry policy) (UserSystem.Current registry)
      { store } actions) :
    let run := Mealy.run (UserSystem.step registry policy) { store } actions
    (∃ order store', order.Perm run.2 ∧ OneAfterTheOther registry policy store order store' ∧
      store'.accounts registry = run.1.store.accounts registry) ∧
    (∀ userName, Barred (Adds userName) (Removes userName) (Adds userName) run.2) ∧
    ∀ userName password, Barred (Replaces userName password) (Gives userName password)
      (Authenticates userName password) run.2 := by
  intro run
  have hinv : RunInvariant registry policy (store.accounts registry) ([] ++ run.2) run.1 := by
    refine Mealy.run_log (fun L s action h hcurrent => h.step hregistry hcurrent) ?_ hcurrent
    exact {
      serial := ⟨[], .nil, .nil _, fun _ hmem => absurd hmem List.not_mem_nil⟩
      present := fun _ hsince => absurd hsince not_since_nil
      rejects := fun _ _ hsince => absurd hsince not_since_nil
      adds := fun _ before e after heq => by simp at heq
      authenticates := fun _ _ before e after heq => by simp at heq }
  refine ⟨?_, hinv.adds, hinv.authenticates⟩
  obtain ⟨history, hperm, hserial, -⟩ := hinv.serial
  obtain ⟨store', horder, haccounts⟩ := oneAfterTheOther_of_serial hregistry hserial rfl
  exact ⟨history, store', hperm, horder, haccounts⟩

/-! ### A registry with two schemes -/

/-- A scheme that keeps the password after its prefix. -/
def plainHasher (id mark : String) : PasswordHasher where
  id := id
  prefixes := [mark]
  hash := fun password _ => mark ++ password
  verify := fun password phc => phc = mark ++ password

/-- A default scheme, and one for the credentials of before. -/
def plainRegistry : HasherRegistry where
  _default := plainHasher "scrypt" "$scrypt$"
  others := [plainHasher "bcrypt" "$2b$"]

lemma plainHasher_owns (id mark password : String) :
    (plainHasher id mark).owns (mark ++ password) = true := by
  simp [plainHasher, PasswordHasher.owns, String.toList_append]

lemma plainRegistry_correct : plainRegistry.Correct := by
  have hverify : ∀ password phc, plainRegistry.verify password phc = true →
      ∃ mark, phc = mark ++ password ∧
        ((plainHasher "scrypt" "$scrypt$").owns phc = true ∧ mark = "$scrypt$" ∨
          (plainHasher "scrypt" "$scrypt$").owns phc = false ∧ mark = "$2b$") := by
    intro password phc h
    simp only [plainRegistry, HasherRegistry.verify, HasherRegistry._find, HasherRegistry._all,
      List.find?] at h
    cases hdefault : (plainHasher "scrypt" "$scrypt$").owns phc with
    | true =>
      rw [hdefault] at h
      exact ⟨_, by simpa [plainHasher] using h, .inl ⟨rfl, rfl⟩⟩
    | false =>
      rw [hdefault] at h
      cases hother : (plainHasher "bcrypt" "$2b$").owns phc with
      | true =>
        rw [hother] at h
        exact ⟨_, by simpa [plainHasher] using h, .inr ⟨rfl, rfl⟩⟩
      | false =>
        rw [hother] at h
        cases h
  have hfind : ∀ password, plainRegistry._find ("$scrypt$" ++ password) =
      some (plainHasher "scrypt" "$scrypt$") := by
    intro password
    simp [plainRegistry, HasherRegistry._find, HasherRegistry._all, plainHasher_owns]
  refine ⟨fun password password' salt => ?_, fun phc password password' h h' => ?_,
    fun password salt => ?_⟩
  · show plainRegistry.verify password' ("$scrypt$" ++ password) = true ↔ _
    rw [HasherRegistry.verify, hfind]
    simp [plainHasher, eq_comm]
  · obtain ⟨mark, rfl, hmark⟩ := hverify password phc h
    obtain ⟨mark', heq, hmark'⟩ := hverify password' _ h'
    have : mark = mark' := by
      rcases hmark with ⟨howns, rfl⟩ | ⟨howns, rfl⟩ <;>
        rcases hmark' with ⟨howns', rfl⟩ | ⟨howns', rfl⟩
      · rfl
      · exact absurd (howns.symm.trans howns') (by decide)
      · exact absurd (howns.symm.trans howns') (by decide)
      · rfl
    subst this
    simpa using heq
  · show plainRegistry.needsRehash ("$scrypt$" ++ password) = false
    rw [HasherRegistry.needsRehash, hfind]
    simp [plainRegistry, plainHasher, PasswordHasher.owns, String.toList_append]

/-- A user is added and logs in. -/
def addAndLogin : List UserAction :=
  [.call (.addUser "joe" "old" .None "" 0), .resume 0, .call (.authenticate "joe" "old" 1),
    .resume 0]

/-- Two users are added under the same name at the same time. -/
def addTwice : List UserAction :=
  [.call (.addUser "joe" "first" .None "" 0), .call (.addUser "joe" "second" .None "" 1),
    .resume 0, .resume 0]

/-- A user whose credential is of the other scheme logs in; while the password is being hashed
again, the user changes it. -/
def loginDuringChange : List UserAction :=
  [.call (.authenticate "joe" "old" 0), .resume 0, .call (.changePassword "joe" "old" "new" 1),
    .resume 1, .resume 1, .resume 0, .call (.authenticate "joe" "old" 2), .resume 0]

/-- The store with that user. -/
def legacyStore : InMemoryUserManagementStore :=
  InMemoryUserManagementStore.empty.set
    { userName := "joe", credential := "$2b$old", userConfiguration := .None, description := "" }

/-- The user that was added logs in, and the calls are serializable. -/
theorem userStore_serializable_login :
    let run := Mealy.run (UserSystem.step plainRegistry {}) { store := .empty } addAndLogin
    (∃ order store', order.Perm run.2 ∧
      OneAfterTheOther plainRegistry {} .empty order store' ∧
      store'.accounts plainRegistry = run.1.store.accounts plainRegistry) ∧
    (∀ userName, Barred (Adds userName) (Removes userName) (Adds userName) run.2) ∧
    ∀ userName password, Barred (Replaces userName password) (Gives userName password)
      (Authenticates userName password) run.2 :=
  userStore_serializable plainRegistry plainRegistry_correct {} .empty addAndLogin
    ⟨by decide +kernel, by decide +kernel, by decide +kernel, by decide +kernel, trivial⟩

/-- **Two calls for one name both return `Good`**, which no order of the two does; and **the old
password authenticates** after a change of password returned `Good`, because the login that was in
progress has written its hash over that of the new one. -/
theorem userStore_lostUpdates :
    (∃ run, Mealy.run (UserSystem.step plainRegistry {}) { store := .empty } addTwice = run ∧
      run.2 = [(.addUser "joe" "first" .None "" 0, { statusCode := .Good }),
        (.addUser "joe" "second" .None "" 1, { statusCode := .Good })] ∧
      ¬ ∃ order store', order.Perm run.2 ∧
        OneAfterTheOther plainRegistry {} .empty order store') ∧
    (Mealy.run (UserSystem.step plainRegistry {}) { store := legacyStore } loginDuringChange).2 =
      [(.changePassword "joe" "old" "new" 1, { statusCode := .Good }),
        (.authenticate "joe" "old" 0, { statusCode := .Good }),
        (.authenticate "joe" "old" 2, { statusCode := .Good })] := by
  have hevents : (Mealy.run (UserSystem.step plainRegistry {}) { store := .empty } addTwice).2 =
      [(.addUser "joe" "first" .None "" 0, { statusCode := .Good }),
        (.addUser "joe" "second" .None "" 1, { statusCode := .Good })] := by
    decide +kernel
  refine ⟨⟨_, rfl, hevents, ?_⟩, by decide +kernel⟩
  rintro ⟨order, store', hperm, horder⟩
  rw [hevents] at hperm
  have hadds : ∀ e ∈ order, Adds "joe" e := by
    intro e he
    have he := hperm.mem_iff.mp he
    simp only [List.mem_cons, List.not_mem_nil, or_false] at he
    rcases he with rfl | rfl
    · exact ⟨rfl, rfl⟩
    · exact ⟨rfl, rfl⟩
  obtain ⟨e, e', rfl⟩ := List.length_eq_two.mp hperm.length_eq
  cases horder.serial plainRegistry_correct with
  | cons hop hrest =>
    cases hrest with
    | cons hop' _ =>
      have hpres := (effect_of_eq hop).present (.inl (hadds _ (by simp)))
      exact (effect_of_eq hop').not_adds hpres (hadds _ (by simp))

end NodeOpcua
