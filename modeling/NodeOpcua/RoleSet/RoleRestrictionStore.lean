import Mathlib.Data.List.Nodup
import NodeOpcua.Library.Bisimulation
import NodeOpcua.NodeId.Text
import NodeOpcua.SecurityMode

set_option autoImplicit false

/-!
# The restrictions of the roles

`InMemoryRoleRestrictionStore` keeps for each role the applications and the endpoints that are let
in or kept out. A flag says which of the two; while it is not set, it is read off the list.

## Main definitions

* `RestrictionList`, `InMemoryRoleRestrictionStore`, `RestrictionMutation`, `serializeRestrictions`,
  `deserializeRestrictions`.

## Design

* The lists of applications and of endpoints are kept alike, so they are one structure with the key
  by which its values are compared.
* The `Map` is a list of its entries in the order of insertion.
-/

namespace NodeOpcua

/-! ### Criteria -/

/-- `EndpointCriteria`. -/
structure EndpointCriteria where
  endpointUrl : Option String := none
  securityMode : Option MessageSecurityMode := none
  securityPolicyUri : Option String := none
  transportProfileUri : Option String := none
  deriving DecidableEq, Repr

/-- `ResolutionContext`. -/
structure ResolutionContext where
  applicationUri : Option String := none
  securityMode : Option MessageSecurityMode := none
  endpointUrl : Option String := none
  securityPolicyUri : Option String := none
  transportProfileUri : Option String := none
  deriving DecidableEq, Repr

/-- `isSigned`. -/
def isSigned (mode : Option MessageSecurityMode) : Bool :=
  mode = some .Sign || mode = some .SignAndEncrypt

/-- The fields of an endpoint with their defaults. -/
def EndpointCriteria.key (e : EndpointCriteria) :
    String × MessageSecurityMode × String × String :=
  (e.endpointUrl.getD "", e.securityMode.getD .Invalid, e.securityPolicyUri.getD "",
    e.transportProfileUri.getD "")

/-- `sameEndpoint`. -/
def sameEndpoint (a b : EndpointCriteria) : Bool := a.key = b.key

/-- A text of an entry matches: the empty one is ignored, like a missing one. -/
def textMatches (entry context : Option String) : Bool :=
  entry.getD "" = "" || entry = context

/-- `endpointEntryMatches`. -/
def endpointEntryMatches (entry : EndpointCriteria) (context : ResolutionContext) : Bool :=
  textMatches entry.endpointUrl context.endpointUrl &&
    (entry.securityMode.getD .Invalid = .Invalid || entry.securityMode = context.securityMode) &&
    textMatches entry.securityPolicyUri context.securityPolicyUri &&
    textMatches entry.transportProfileUri context.transportProfileUri

/-- `applicationComplies`. -/
def applicationComplies (applications : List String) (exclude : Bool)
    (context : ResolutionContext) : Bool :=
  if applications.isEmpty then true
  else if !isSigned context.securityMode then false
  else
    let inList := match context.applicationUri with
      | none => false
      | some uri => applications.contains uri
    if exclude then !inList else inList

/-- `endpointComplies`. -/
def endpointComplies (endpoints : List EndpointCriteria) (exclude : Bool)
    (context : ResolutionContext) : Bool :=
  if endpoints.isEmpty then true
  else
    let anyMatch := endpoints.any (endpointEntryMatches · context)
    if exclude then !anyMatch else anyMatch

/-! ### Lists with a flag -/

/-- **A list without duplicates, with its exclude flag**, which may be missing. -/
structure RestrictionList {α κ : Type} (key : α → κ) where
  entries : List α := []
  exclude : Option Bool := none
  nodup : (entries.map key).Nodup := by exact List.nodup_nil

namespace RestrictionList

variable {α κ : Type} [DecidableEq κ] {key : α → κ}

/-- `addApplication` and `addEndpoint`, on the list. -/
def add (l : RestrictionList key) (value : α) : RestrictionList key :=
  if h : key value ∈ l.entries.map key then l
  else
    { l with
      entries := l.entries ++ [value]
      nodup := by
        rw [List.map_append, List.nodup_append]
        refine ⟨l.nodup, List.nodup_singleton _, ?_⟩
        rintro k hk k' hk' rfl
        rw [List.map_singleton, List.mem_singleton] at hk'
        exact h (hk' ▸ hk) }

/-- `removeApplication` and `removeEndpoint`, on the list. -/
def remove (l : RestrictionList key) (value : α) : RestrictionList key :=
  { l with
    entries := l.entries.eraseP fun e => key e = key value
    nodup := (List.eraseP_sublist.map key).nodup l.nodup }

/-- `setApplicationsExclude` and `setEndpointsExclude`, on the list. -/
def setExclude (l : RestrictionList key) (exclude : Bool) : RestrictionList key :=
  { l with exclude := some exclude }

/-- `getApplicationsExclude` and `getEndpointsExclude`: without a flag, whether the list is
empty. -/
def getExclude (l : RestrictionList key) : Bool := l.exclude.getD l.entries.isEmpty

end RestrictionList

/-! ### The store -/

/-- `RoleRestriction`. -/
structure RoleRestriction where
  applications : RestrictionList (id : String → String) := {}
  endpoints : RestrictionList EndpointCriteria.key := {}

instance : Inhabited RoleRestriction := ⟨{}⟩

/-- **The store**: the restrictions by the text of the role. -/
structure InMemoryRoleRestrictionStore where
  _map : List (List Char × RoleRestriction) := []
  nodup : (_map.map Prod.fst).Nodup := by exact List.nodup_nil

namespace InMemoryRoleRestrictionStore

variable {U : CaseMapping}

/-- `peek`. -/
def peek (store : InMemoryRoleRestrictionStore) (roleId : NodeId U) : Option RoleRestriction :=
  store._map.lookup (roleId.toString none)

section

variable (key : List Char) (change : RoleRestriction → RoleRestriction)
  (entries : List (List Char × RoleRestriction))

/-- The entries with the one of a key changed, if there is one. -/
def replace : List (List Char × RoleRestriction) :=
  entries.map fun e => if e.1 = key then (e.1, change e.2) else e

lemma replace_keys :
    (replace key change entries).map Prod.fst = entries.map Prod.fst := by
  rw [replace, List.map_map]
  apply List.map_congr_left
  intro e _
  rw [Function.comp_apply]
  split_ifs <;> rfl

end

section

variable (store : InMemoryRoleRestrictionStore) (roleId : NodeId U)

/-- The restriction of a role is changed, if there is one. -/
def modify (change : RoleRestriction → RoleRestriction) : InMemoryRoleRestrictionStore where
  _map := replace (roleId.toString none) change store._map
  nodup := by
    rw [replace_keys]
    exact store.nodup

lemma lawfulBEq_text : LawfulBEq (List Char) := inferInstance

/-- `getOrCreate`. -/
def getOrCreate : InMemoryRoleRestrictionStore :=
  haveI := lawfulBEq_text
  if h : roleId.toString none ∈ store._map.map Prod.fst then store
  else
    { _map := store._map ++ [(roleId.toString none, {})]
      nodup := by
        rw [List.map_append, List.nodup_append]
        refine ⟨store.nodup, List.nodup_singleton _, ?_⟩
        rintro k hk k' hk' rfl
        rw [List.map_singleton, List.mem_singleton] at hk'
        rw [hk'] at hk
        exact h hk }

/-- `addApplication`. -/
def addApplication (applicationUri : String) : InMemoryRoleRestrictionStore :=
  (store.getOrCreate roleId).modify roleId fun r =>
    { r with applications := r.applications.add applicationUri }

/-- `removeApplication`. -/
def removeApplication (applicationUri : String) : InMemoryRoleRestrictionStore :=
  store.modify roleId fun r => { r with applications := r.applications.remove applicationUri }

/-- `setApplicationsExclude`. -/
def setApplicationsExclude (exclude : Bool) : InMemoryRoleRestrictionStore :=
  (store.getOrCreate roleId).modify roleId fun r =>
    { r with applications := r.applications.setExclude exclude }

/-- `addEndpoint`. -/
def addEndpoint (endpoint : EndpointCriteria) : InMemoryRoleRestrictionStore :=
  (store.getOrCreate roleId).modify roleId fun r =>
    { r with endpoints := r.endpoints.add endpoint }

/-- `removeEndpoint`. -/
def removeEndpoint (endpoint : EndpointCriteria) : InMemoryRoleRestrictionStore :=
  store.modify roleId fun r => { r with endpoints := r.endpoints.remove endpoint }

/-- `setEndpointsExclude`. -/
def setEndpointsExclude (exclude : Bool) : InMemoryRoleRestrictionStore :=
  (store.getOrCreate roleId).modify roleId fun r =>
    { r with endpoints := r.endpoints.setExclude exclude }

/-- The restriction that is read for a role: without one, nothing is restricted. -/
def restriction : RoleRestriction :=
  (store.peek roleId).getD {}

/-- `getApplications`. -/
def getApplications : List String :=
  (store.restriction roleId).applications.entries

/-- `getApplicationsExclude`. -/
def getApplicationsExclude : Bool :=
  (store.restriction roleId).applications.getExclude

/-- `getEndpoints`. -/
def getEndpoints :
    List EndpointCriteria :=
  (store.restriction roleId).endpoints.entries

/-- `getEndpointsExclude`. -/
def getEndpointsExclude : Bool :=
  (store.restriction roleId).endpoints.getExclude

end

/-- `getRestrictedRoleIds`. -/
def getRestrictedRoleIds (names : NameIndex U) (store : InMemoryRoleRestrictionStore) :
    Except NodeIdError (List (NodeId U)) :=
  (store._map.map Prod.fst).mapM fun key => resolveNodeId names key 0 none

/-- `complies`. -/
def complies (store : InMemoryRoleRestrictionStore) (roleId : NodeId U)
    (context : ResolutionContext) : Bool :=
  match store.peek roleId with
  | none => true
  | some r =>
    applicationComplies r.applications.entries (store.getApplicationsExclude roleId) context &&
      endpointComplies r.endpoints.entries (store.getEndpointsExclude roleId) context

end InMemoryRoleRestrictionStore

/-- A call of a method that changes the store. -/
inductive RestrictionMutation (U : CaseMapping)
  | addApplication (roleId : NodeId U) (applicationUri : String)
  | removeApplication (roleId : NodeId U) (applicationUri : String)
  | setApplicationsExclude (roleId : NodeId U) (exclude : Bool)
  | addEndpoint (roleId : NodeId U) (endpoint : EndpointCriteria)
  | removeEndpoint (roleId : NodeId U) (endpoint : EndpointCriteria)
  | setEndpointsExclude (roleId : NodeId U) (exclude : Bool)

/-- The store after a call. -/
def InMemoryRoleRestrictionStore.apply {U : CaseMapping} (store : InMemoryRoleRestrictionStore) :
    RestrictionMutation U → InMemoryRoleRestrictionStore
  | .addApplication roleId applicationUri => store.addApplication roleId applicationUri
  | .removeApplication roleId applicationUri => store.removeApplication roleId applicationUri
  | .setApplicationsExclude roleId exclude => store.setApplicationsExclude roleId exclude
  | .addEndpoint roleId endpoint => store.addEndpoint roleId endpoint
  | .removeEndpoint roleId endpoint => store.removeEndpoint roleId endpoint
  | .setEndpointsExclude roleId exclude => store.setEndpointsExclude roleId exclude

/-! ### Saving and loading -/

/-- `SerializedRoleRestriction`. -/
structure SerializedRoleRestriction where
  nodeId : List Char
  applications : List String
  applicationsExclude : Bool
  endpoints : List EndpointCriteria
  endpointsExclude : Bool

section

variable {U : CaseMapping} (names : NameIndex U) (store : InMemoryRoleRestrictionStore)

/-- `serializeRestrictions`. -/
def serializeRestrictions :
    Except NodeIdError (List SerializedRoleRestriction) := do
  let roleIds ← store.getRestrictedRoleIds names
  return roleIds.map fun roleId =>
    { nodeId := roleId.toString none
      applications := store.getApplications roleId
      applicationsExclude := store.getApplicationsExclude roleId
      endpoints := store.getEndpoints roleId
      endpointsExclude := store.getEndpointsExclude roleId }

/-- One step of the loop of `deserializeRestrictions`. -/
def loadRestriction (r : SerializedRoleRestriction) :
    Except NodeIdError InMemoryRoleRestrictionStore := do
  let roleId ← resolveNodeId names r.nodeId 0 none
  let store := r.applications.foldl (·.addApplication roleId ·) store
  let store := store.setApplicationsExclude roleId r.applicationsExclude
  let store := r.endpoints.foldl (·.addEndpoint roleId ·) store
  return store.setEndpointsExclude roleId r.endpointsExclude

/-- `deserializeRestrictions`. -/
def deserializeRestrictions
    (data : List SerializedRoleRestriction) : Except NodeIdError InMemoryRoleRestrictionStore :=
  data.foldlM (loadRestriction names) store

/-- A store is saved and loaded into an empty one. -/
def restore :
    Except NodeIdError InMemoryRoleRestrictionStore := do
  let data ← serializeRestrictions names store
  deserializeRestrictions names {} data

end

end NodeOpcua
