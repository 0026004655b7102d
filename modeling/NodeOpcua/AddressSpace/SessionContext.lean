import Mathlib.Data.List.Infix
import NodeOpcua.Library.Mealy
import NodeOpcua.NodeId.Basic
import NodeOpcua.SecurityMode

set_option autoImplicit false

/-!
# The roles of a session

`SessionContext` computes the roles of the user of a session and the permissions that they give. The
roles come from the table of the user manager, from the resolvers, which look at the token and the
channel of the session, and `AuthenticatedUser` is added. The list of the table is not copied before
roles are added to it.

## Main definitions

* `ServerBase`.
* `SessionContext.getCurrentUserRoles`, `SessionContext.getPermissions`.
* `RoleEvaluation.step`, `Granted`.

## Main results

* `mem_grantRoles`, `roles_memoryless_iff`.

## Design

* The table of the user manager holds references to lists, which two users may share. The lists are
  the state.
* The resolvers, the override and the reading of a certificate are functions.
-/

namespace NodeOpcua

variable {U : CaseMapping}

/-! ### Sessions and servers -/

/-- `AnyUserIdentityToken`. -/
inductive AnyUserIdentityToken
  | anonymous
  | x509 (certificateData : Buffer)
  | userName (policyId : Option String) (userName : Option String)
  deriving DecidableEq, Repr

/-- `IRoleResolutionContext`. -/
structure RoleResolutionContext where
  applicationUri : Option String := none
  securityMode : Option MessageSecurityMode := none
  securityPolicyUri : Option String := none
  endpointUrl : Option String := none
  deriving DecidableEq, Repr

/-- What a session tells about itself. -/
structure RoleSession where
  userIdentityToken : Option AnyUserIdentityToken
  resolutionContext : RoleResolutionContext := {}
  deriving DecidableEq, Repr

/-- `SessionContext`. A caller in the process has no session. -/
structure SessionContext where
  session : Option RoleSession
  deriving DecidableEq, Repr

/-- `IServerBase`. The user manager gives the reference of the list of a user. -/
structure ServerBase (U : CaseMapping) where
  commonName : Buffer → String
  userManager : Option (String → Option ℕ)
  rolePolicyOverride : Option (String → Option (List (NodeId U)))
  roleResolvers : Option (List (AnyUserIdentityToken → RoleResolutionContext → List (NodeId U)))
  denyUnresolved : Bool

/-- The roles that each user is stored with, by reference. -/
abbrev RoleLists (U : CaseMapping) := ℕ → List (NodeId U)

/-- `WellKnownRoles.Anonymous`. -/
def anonymousRole : NodeId U := ⟨0, .numeric 15644⟩

/-- `WellKnownRoles.AuthenticatedUser`. -/
def authenticatedUser : NodeId U := ⟨0, .numeric 15656⟩

/-- `getUserName`, when the name of a certificate is known. -/
def getUserName (commonName : Buffer → String) : AnyUserIdentityToken → String
  | .anonymous => "anonymous"
  | .x509 certificateData => commonName certificateData
  | .userName policyId userName => if policyId = some "anonymous" then "anonymous" else userName.getD ""

/-! ### Roles -/

/-- `roles.find((e) => sameNodeId(e, role))`: whether a role is there. -/
def findRole (role : NodeId U) : List (NodeId U) → Except String Bool
  | [] => .ok false
  | e :: roles => do if ← sameNodeId e role then return true else findRole role roles

/-- The loop over the roles of the resolvers: the list it leaves, and whether it threw. -/
def addRoles (roles : List (NodeId U)) : List (NodeId U) → List (NodeId U) × Except String Unit
  | [] => (roles, .ok ())
  | r :: extra =>
    match findRole r roles with
    | .error e => (roles, .error e)
    | .ok true => addRoles roles extra
    | .ok false => addRoles (roles ++ [r]) extra

/-- Roles are added to the list of a user: the answer, and the list it leaves. -/
def grantRoles (rolesNodeId extra : List (NodeId U)) :
    Except String (List (NodeId U)) × List (NodeId U) :=
  match addRoles rolesNodeId extra with
  | (roles, .error e) => (.error e, roles)
  | (roles, .ok ()) =>
    let roles := if authenticatedUser ∈ roles then roles else roles ++ [authenticatedUser]
    (.ok roles, roles)

/-- What the resolvers give, one after the other. -/
def ServerBase.resolveRoles (server : ServerBase U) (token : AnyUserIdentityToken)
    (context : RoleResolutionContext) : List (NodeId U) :=
  (server.roleResolvers.getD []).flatMap fun resolver => resolver token context

namespace SessionContext

/-- `getCurrentUserRoles`: the answer, and the lists of the table. -/
def getCurrentUserRoles (context : SessionContext) (server : ServerBase U) (lists : RoleLists U) :
    Except String (List (NodeId U)) × RoleLists U :=
  match context.session with
  | none => (.ok [], lists)
  | some session =>
    match session.userIdentityToken with
    | none => (.ok [], lists)
    | some token =>
      let username := getUserName server.commonName token
      match server.rolePolicyOverride.bind fun getUserRoles => getUserRoles username with
      | some overriddenRoles => (.ok overriddenRoles, lists)
      | none =>
        if username = "anonymous" then (.ok [anonymousRole], lists)
        else
          match server.userManager with
          | none => (.ok [anonymousRole], lists)
          | some getUserRoles =>
            let extra := server.resolveRoles token session.resolutionContext
            match getUserRoles username with
            | none => ((grantRoles [] extra).1, lists)
            | some stored =>
              -- the roles are pushed to the list of the table
              let granted := grantRoles (lists stored) extra
              (granted.1, Function.update lists stored granted.2)

/-- `isInProcessCaller`. -/
def isInProcessCaller (context : SessionContext) : Bool := context.session.isNone

end SessionContext

/-- A `PermissionFlag`. -/
abbrev PermissionFlag := ℕ

/-- `allPermissions`. -/
def allPermissions : PermissionFlag := 0x1ffff

/-- `RolePermissionType`. -/
structure RolePermissionType (U : CaseMapping) where
  roleId : Option (NodeId U)
  permissions : PermissionFlag

/-- The first entry for a role. -/
def findPermission (role : NodeId U) :
    List (RolePermissionType U) → Except String (Option (RolePermissionType U))
  | [] => .ok none
  | r :: rest =>
    match r.roleId with
    | none => findPermission role rest
    | some roleId => do if ← sameNodeId roleId role then return some r else findPermission role rest

/-- `getPermissionForRole`. -/
def getPermissionForRole (rolePermissions : Option (List (RolePermissionType U)))
    (role : NodeId U) (unresolved : PermissionFlag) : Except String PermissionFlag :=
  match rolePermissions with
  | none => .ok unresolved
  | some rolePermissions => do
    match ← findPermission role rolePermissions with
    | some a => return a.permissions
    | none => return 0

namespace SessionContext

/-- `unresolvedPermissions`. -/
def unresolvedPermissions (context : SessionContext) (server : ServerBase U) : PermissionFlag :=
  if context.isInProcessCaller then allPermissions
  else if server.denyUnresolved then 0 else allPermissions

/-- `getRolesForPermissionEvaluation`. -/
def getRolesForPermissionEvaluation (roles : List (NodeId U)) :
    Except String (List (NodeId U)) := do
  if ← findRole anonymousRole roles then return roles else return roles ++ [anonymousRole]

variable (context : SessionContext) (server : ServerBase U)
  (rolePermissions : Option (List (RolePermissionType U)))

/-- The permissions that roles give. -/
def permissionsOfRoles (roles : List (NodeId U)) :
    Except String PermissionFlag :=
  if roles.length = 0 then .ok (context.unresolvedPermissions server)
  else do
    let roles ← getRolesForPermissionEvaluation roles
    roles.foldlM (fun orFlags role => do
      let flags ← getPermissionForRole rolePermissions role (context.unresolvedPermissions server)
      return orFlags ||| flags) 0

/-- `getPermissions`, for a node to which the permissions apply. -/
def getPermissions (lists : RoleLists U) :
    Except String PermissionFlag × RoleLists U :=
  let r := context.getCurrentUserRoles server lists
  (r.1 >>= context.permissionsOfRoles server rolePermissions, r.2)

end SessionContext

/-! ### Evaluations -/

/-- An evaluation. -/
inductive RoleEvaluation (U : CaseMapping)
  | currentUserRoles (context : SessionContext)
  | permissions (context : SessionContext)
      (rolePermissions : Option (List (RolePermissionType U)))

/-- What is answered. -/
inductive RoleAnswer (U : CaseMapping)
  | roles (roles : Except String (List (NodeId U)))
  | permissions (flags : Except String PermissionFlag)
  deriving DecidableEq

namespace RoleEvaluation

/-- The context of an evaluation. -/
def context : RoleEvaluation U → SessionContext
  | .currentUserRoles context => context
  | .permissions context _ => context

/-- The answer of an evaluation, and the lists it leaves. -/
def evaluate (server : ServerBase U) (lists : RoleLists U) :
    RoleEvaluation U → RoleAnswer U × RoleLists U
  | .currentUserRoles context =>
    let r := context.getCurrentUserRoles server lists
    (.roles r.1, r.2)
  | .permissions context rolePermissions =>
    let r := context.getPermissions server rolePermissions lists
    (.permissions r.1, r.2)

/-- **An evaluation** changes the lists of the table and is answered. -/
def step (server : ServerBase U) (lists : RoleLists U) (e : RoleEvaluation U) :
    RoleLists U × List (RoleEvaluation U × RoleAnswer U) :=
  let r := e.evaluate server lists
  (r.2, [(e, r.1)])

end RoleEvaluation

/-! ### The roles that are added -/

lemma mem_of_findRole {role : NodeId U} {roles : List (NodeId U)}
    (h : findRole role roles = .ok true) : role ∈ roles := by
  induction roles with
  | nil => cases h
  | cons e roles ih =>
    rw [findRole] at h
    cases hsame : sameNodeId e role with
    | error msg =>
      rw [hsame] at h
      cases h
    | ok same =>
      rw [hsame] at h
      cases same with
      | true =>
        have he : e = role := ((sameNodeId_eq_true_iff e role).mp hsame).1
        rw [he]
        exact List.mem_cons_self
      | false => exact List.mem_cons_of_mem e (ih h)

lemma grantRoles_cons (roles : List (NodeId U)) (r : NodeId U) (extra : List (NodeId U)) :
    grantRoles roles (r :: extra) =
      match findRole r roles with
      | .error e => (.error e, roles)
      | .ok true => grantRoles roles extra
      | .ok false => grantRoles (roles ++ [r]) extra := by
  unfold grantRoles
  rw [addRoles]
  cases findRole r roles with
  | error e => rfl
  | ok found => cases found <;> rfl

lemma isPrefix_grantRoles (roles extra : List (NodeId U)) :
    roles <+: (grantRoles roles extra).2 := by
  induction extra generalizing roles with
  | nil =>
    unfold grantRoles addRoles
    dsimp only
    split_ifs
    · exact List.prefix_rfl
    · exact List.prefix_append _ _
  | cons r extra ih =>
    rw [grantRoles_cons]
    cases findRole r roles with
    | error e => exact List.prefix_rfl
    | ok found =>
      cases found with
      | true => exact ih roles
      | false => exact (List.prefix_append _ _).trans (ih (roles ++ [r]))

/-- **The roles of a session**: those that its user is stored with, those of the resolvers, and
`AuthenticatedUser`. -/
theorem mem_grantRoles {stored extra roles : List (NodeId U)}
    (h : (grantRoles stored extra).1 = .ok roles) (r : NodeId U) :
    r ∈ roles ↔ r ∈ stored ∨ r ∈ extra ∨ r = authenticatedUser := by
  induction extra generalizing stored with
  | nil =>
    obtain rfl := Except.ok.inj h
    split_ifs with hauth
    · simp only [List.not_mem_nil, false_or]
      refine ⟨Or.inl, ?_⟩
      rintro (hr | rfl)
      · exact hr
      · exact hauth
    · simp
  | cons e extra ih =>
    rw [grantRoles_cons] at h
    cases hfound : findRole e stored with
    | error msg =>
      rw [hfound] at h
      cases h
    | ok found =>
      rw [hfound] at h
      rw [List.mem_cons]
      cases found with
      | true =>
        have he := mem_of_findRole hfound
        rw [ih h]
        constructor
        · rintro (hr | hr | hr)
          · exact Or.inl hr
          · exact Or.inr (Or.inl (Or.inr hr))
          · exact Or.inr (Or.inr hr)
        · rintro (hr | (rfl | hr) | hr)
          · exact Or.inl hr
          · exact Or.inl he
          · exact Or.inr (Or.inl hr)
          · exact Or.inr (Or.inr hr)
      | false =>
        rw [ih h, List.mem_append, List.mem_singleton, or_assoc, or_assoc]

/-- **All the roles of a session are in the list of its user.** When a comparison throws, the roles
after it are not looked at. -/
def Granted (roles : List (NodeId U)) : List (NodeId U) → Prop
  | [] => authenticatedUser ∈ roles
  | r :: extra =>
    match findRole r roles with
    | .ok found => found = true ∧ Granted roles extra
    | .error _ => True

/-- **The list of a user is left as it is** when it has all the roles of the session. -/
lemma grantRoles_snd_eq_iff (roles extra : List (NodeId U)) :
    (grantRoles roles extra).2 = roles ↔ Granted roles extra := by
  induction extra with
  | nil =>
    unfold grantRoles addRoles Granted
    dsimp only
    split_ifs with hauth
    · exact iff_of_true rfl hauth
    · refine iff_of_false ?_ hauth
      simp
  | cons r extra ih =>
    rw [grantRoles_cons, Granted]
    cases findRole r roles with
    | error e => exact iff_of_true rfl trivial
    | ok found =>
      cases found with
      | true =>
        rw [ih]
        simp
      | false =>
        refine iff_of_false ?_ (fun h => Bool.false_ne_true h.1)
        intro h
        have hlen := (isPrefix_grantRoles (roles ++ [r]) extra).length_le
        rw [h, List.length_append, List.length_singleton] at hlen
        omega

/-! ### Evaluations that come to the table -/

/-- **An evaluation that comes to the table**: the reference of the list of its user, if there is
one, and the roles of the resolvers. -/
def SessionContext.lookup (context : SessionContext) (server : ServerBase U) :
    Option (Option ℕ × List (NodeId U)) := do
  let session ← context.session
  let token ← session.userIdentityToken
  let username := getUserName server.commonName token
  let overridden := (server.rolePolicyOverride.bind fun getUserRoles => getUserRoles username).isSome
  if overridden || username = "anonymous" then none
  else
    let getUserRoles ← server.userManager
    return (getUserRoles username, server.resolveRoles token session.resolutionContext)

/-- The roles that a user is stored with. -/
def storedRoles (lists : RoleLists U) : Option ℕ → List (NodeId U)
  | none => []
  | some stored => lists stored

/-- **The roles of a context**: it is answered without the table, for a user that is not in it, or
for a user with a list. -/
lemma getCurrentUserRoles_eq (ctx : SessionContext) (server : ServerBase U) :
    (ctx.lookup server = none ∧ ∃ roles, ∀ lists,
      ctx.getCurrentUserRoles server lists = (.ok roles, lists)) ∨
    (∃ extra, ctx.lookup server = some (none, extra) ∧ ∀ lists,
      ctx.getCurrentUserRoles server lists = ((grantRoles [] extra).1, lists)) ∨
    ∃ stored extra, ctx.lookup server = some (some stored, extra) ∧ ∀ lists,
      ctx.getCurrentUserRoles server lists =
        ((grantRoles (lists stored) extra).1,
          Function.update lists stored (grantRoles (lists stored) extra).2) := by
  unfold SessionContext.lookup SessionContext.getCurrentUserRoles
  cases ctx.session with
  | none => exact Or.inl ⟨rfl, [], fun _ => rfl⟩
  | some sess =>
    dsimp only [Option.bind_eq_bind, Option.bind_some]
    cases sess.userIdentityToken with
    | none => exact Or.inl ⟨rfl, [], fun _ => rfl⟩
    | some token =>
      dsimp only [Option.bind_some]
      cases server.rolePolicyOverride.bind fun getUserRoles =>
          getUserRoles (getUserName server.commonName token) with
      | some overriddenRoles => exact Or.inl ⟨rfl, overriddenRoles, fun _ => rfl⟩
      | none =>
        by_cases hanonymous : getUserName server.commonName token = "anonymous"
        · simp only [hanonymous, if_true]
          exact Or.inl ⟨by simp, _, fun _ => rfl⟩
        · simp only [hanonymous, if_false]
          cases server.userManager with
          | none => exact Or.inl ⟨by simp, _, fun _ => rfl⟩
          | some getUserRoles =>
            dsimp only
            cases hstored : getUserRoles (getUserName server.commonName token) with
            | none => exact Or.inr (Or.inl ⟨_, by simp [hstored], fun _ => rfl⟩)
            | some stored => exact Or.inr (Or.inr ⟨stored, _, by simp [hstored], fun _ => rfl⟩)

section

variable (server : ServerBase U) (lists : RoleLists U) (e : RoleEvaluation U)

/-- The lists that an evaluation leaves are those of `getCurrentUserRoles`. -/
lemma evaluate_snd :
    (e.evaluate server lists).2 = (e.context.getCurrentUserRoles server lists).2 := by
  cases e <;> rfl

/-- An evaluation that finds all its roles in the list of its user. -/
def RoleEvaluation.Grants :
    Prop :=
  ∀ stored extra, e.context.lookup server = some (some stored, extra) →
    Granted (lists stored) extra

/-- **An evaluation leaves the table as it is** when it finds all its roles in the list of its
user. -/
lemma evaluate_snd_eq_iff :
    (e.evaluate server lists).2 = lists ↔ e.Grants server lists := by
  rw [evaluate_snd]
  obtain ⟨hlook, roles, h⟩ | ⟨extra, hlook, h⟩ | ⟨stored, extra, hlook, h⟩ :=
    getCurrentUserRoles_eq e.context server
  · refine iff_of_true (by rw [h]) fun stored extra hstored => ?_
    rw [hlook] at hstored
    cases hstored
  · refine iff_of_true (by rw [h]) fun stored extra hstored => ?_
    rw [hlook] at hstored
    cases hstored
  · rw [h, Function.update_eq_self_iff, grantRoles_snd_eq_iff, RoleEvaluation.Grants, hlook]
    constructor
    · intro hgranted stored' extra' heq
      cases heq
      exact hgranted
    · intro hgranted
      exact hgranted stored extra rfl

end

lemma mem_roles_of_evaluate {server : ServerBase U} {lists : RoleLists U} {e : RoleEvaluation U}
    {roles extra : List (NodeId U)} {stored : Option ℕ}
    (hans : (e.evaluate server lists).1 = .roles (.ok roles))
    (hlook : e.context.lookup server = some (stored, extra)) (r : NodeId U) :
    r ∈ roles ↔ r ∈ storedRoles lists stored ∨ r ∈ extra ∨ r = authenticatedUser := by
  cases e with
  | permissions ctx rolePermissions => cases hans
  | currentUserRoles ctx =>
    replace hans : (ctx.getCurrentUserRoles server lists).1 = .ok roles :=
      RoleAnswer.roles.inj hans
    replace hlook : ctx.lookup server = some (stored, extra) := hlook
    obtain ⟨hnone, -⟩ | ⟨extra', hsome, h⟩ | ⟨stored', extra', hsome, h⟩ :=
      getCurrentUserRoles_eq ctx server
    · rw [hlook] at hnone
      cases hnone
    · rw [hlook] at hsome
      cases hsome
      rw [h] at hans
      exact mem_grantRoles hans r
    · rw [hlook] at hsome
      cases hsome
      rw [h] at hans
      exact mem_grantRoles hans r

/-! ### Runs -/

/-- **Role resolution has no memory** along a run: no evaluation modifies the table, every answer is
the answer from the original table, and the roles that are computed through the table are the
original ones of the user, those of the resolvers for this session, and `AuthenticatedUser`. -/
structure Memoryless (server : ServerBase U) (lists : RoleLists U)
    (evaluations : List (RoleEvaluation U)) : Prop where
  table : ∀ q ∈ Mealy.trace (RoleEvaluation.step server) lists evaluations,
    (q.2.evaluate server q.1).2 = q.1
  answers : ∀ q ∈ (Mealy.run (RoleEvaluation.step server) lists evaluations).2,
    q.2 = (q.1.evaluate server lists).1
  roles : ∀ q ∈ (Mealy.run (RoleEvaluation.step server) lists evaluations).2,
    ∀ roles stored extra, q.2 = .roles (.ok roles) →
      q.1.context.lookup server = some (stored, extra) →
      ∀ r, r ∈ roles ↔ r ∈ storedRoles lists stored ∨ r ∈ extra ∨ r = authenticatedUser

lemma grants_of_table {server : ServerBase U} {lists : RoleLists U}
    {evaluations : List (RoleEvaluation U)}
    (h : ∀ q ∈ Mealy.trace (RoleEvaluation.step server) lists evaluations,
      (q.2.evaluate server q.1).2 = q.1) : ∀ e ∈ evaluations, e.Grants server lists := by
  induction evaluations with
  | nil => exact fun e he => absurd he List.not_mem_nil
  | cons e evaluations ih =>
    rw [Mealy.trace_cons, List.forall_mem_cons] at h
    obtain ⟨hleft, hrest⟩ := h
    replace hrest : ∀ q ∈ Mealy.trace (RoleEvaluation.step server) (e.evaluate server lists).2
      evaluations, (q.2.evaluate server q.1).2 = q.1 := hrest
    rw [hleft] at hrest
    rw [List.forall_mem_cons]
    exact ⟨(evaluate_snd_eq_iff server lists e).mp hleft, ih hrest⟩

/-- **When evaluations do not depend on earlier ones**: exactly when every evaluation that comes to
a list of the table finds there all the roles of its session and `AuthenticatedUser`. -/
theorem roles_memoryless_iff (server : ServerBase U) (lists : RoleLists U)
    (evaluations : List (RoleEvaluation U)) :
    Memoryless server lists evaluations ↔ ∀ e ∈ evaluations, e.Grants server lists := by
  refine ⟨fun h => grants_of_table h.table, fun h => ?_⟩
  have hstep : ∀ (s : RoleLists U) (e : RoleEvaluation U), s = lists → e.Grants server lists →
      (RoleEvaluation.step server s e).1 = lists := by
    rintro s e rfl he
    exact (evaluate_snd_eq_iff server s e).mpr he
  have halong : Mealy.Along (RoleEvaluation.step server) (fun _ e => e.Grants server lists) lists
      evaluations := Mealy.along_of_forall _ fun _ => h
  have hans : ∀ q ∈ (Mealy.run (RoleEvaluation.step server) lists evaluations).2,
      q.2 = (q.1.evaluate server lists).1 := by
    refine Mealy.run_output (RoleEvaluation.step server) hstep ?_ rfl halong
    rintro s e rfl - q hq
    obtain rfl := List.mem_singleton.mp hq
    rfl
  refine ⟨?_, hans, ?_⟩
  · refine Mealy.trace_forall (RoleEvaluation.step server) hstep
      (P := fun s e => (e.evaluate server s).2 = s) ?_ rfl halong
    rintro s e rfl he
    exact (evaluate_snd_eq_iff server s e).mpr he
  · intro q hq roles stored extra hroles hlook
    rw [hans q hq] at hroles
    exact mem_roles_of_evaluate hroles hlook

/-! ### A role that stays -/

/-- A server with one user, where `SecurityAdmin` is given on an encrypted channel. -/
def secureAdmins (U : CaseMapping) : ServerBase U where
  commonName := fun _ => ""
  userManager := some fun username => if username = "joe" then some 0 else none
  rolePolicyOverride := none
  roleResolvers := some [fun _ context =>
    if context.securityMode = some .SignAndEncrypt then [⟨0, .numeric 15704⟩] else []]
  denyUnresolved := false

/-- A session of the user, on a channel in a mode. -/
def joe (U : CaseMapping) (securityMode : MessageSecurityMode) : RoleEvaluation U :=
  .currentUserRoles
    ⟨some ⟨some (.userName none (some "joe")), { securityMode := some securityMode }⟩⟩

/-- **The role of an encrypted session stays**: a later session of the user without security has
it. -/
theorem secureAdmins_not_memoryless :
    ¬ ∀ (U : CaseMapping) (server : ServerBase U) (lists : RoleLists U)
      (evaluations : List (RoleEvaluation U)), Memoryless server lists evaluations := by
  intro h
  have hans := (h .ascii (secureAdmins .ascii) (fun _ => [⟨0, .numeric 15668⟩])
    [joe .ascii .SignAndEncrypt, joe .ascii .None]).answers
  have hadmin := hans _ (List.mem_append_right _ List.mem_cons_self)
  revert hadmin
  decide +kernel

end NodeOpcua
