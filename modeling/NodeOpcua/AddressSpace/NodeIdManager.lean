import NodeOpcua.NodeClass
import NodeOpcua.Variant.Basic
import Mathlib.Data.List.Sort

set_option autoImplicit false

/-!
# The allocation of node identifiers

A node that is created without an identifier gets one from the manager of its namespace: a number
that counts, the number that is kept for the symbolic name of the node, or, below a node with a
string, a string.

## Main definitions

* `BaseNode`, `findNode`, `SymbolCache`, `NodeIdManager`, `NodeIdManager.step`.

## Design

* A node has the nodes above it in a list, from its parent upwards. This is what following
  `parentNodeId` gives, since a node is registered after its parent.
* An explicit identifier is not given as a text here. A reference has the kind of its type in place
  of the type.
-/

namespace NodeOpcua

open BuiltIn

/-! ### The nodes -/

section

variable (U : CaseMapping)

/-- **A node**, with the nodes above it. -/
structure BaseNode where
  nodeId : NodeId U
  browseName : QualifiedName
  parents : List (NodeId U × QualifiedName)

/-- The nodes of an address space. -/
abbrev AddressSpace := List (BaseNode U)

/-- What a reference type is: a subtype of `Aggregates`, `HasEncoding` or a subtype of it, or
another type. -/
inductive ReferenceKind
  | aggregates
  | hasEncoding
  | hasEncodingSubtype
  | other
  deriving DecidableEq, Repr

/-- `UAReference`. -/
structure NodeReference where
  kind : ReferenceKind
  isForward : Bool
  nodeId : NodeId U

end

variable {U : CaseMapping}

/-- The node above a node. -/
def BaseNode.parentNodeId (node : BaseNode U) : Option (NodeId U) := node.parents.head?.map Prod.fst

/-- The key of a node in the map of its namespace, a text or a number. -/
inductive HashKey
  | text (value : String)
  | number (value : UInt32)
  deriving DecidableEq, Repr

/-- `_makeHashKey`. -/
def _makeHashKey (nodeId : NodeId U) : HashKey :=
  match nodeId.value with
  | .string value => .text value
  | .guid value => .text (String.ofList value.text)
  | .numeric value => .number value
  | .byteString (some value) => .text (BinaryStream.toUtf8String value)
  | .byteString none => .text "OPAQUE:0"

/-- `findNode`. -/
def findNode (space : AddressSpace U) (nodeId : NodeId U) : Option (BaseNode U) :=
  space.find? fun node =>
    node.nodeId.namespaceIndex = nodeId.namespaceIndex &&
      _makeHashKey node.nodeId = _makeHashKey nodeId

/-! ### The object of the symbolic names -/

/-- A number that is kept for a name, and the class of the node. -/
abbrev SymbolEntry := UInt32 × Option NodeClass

/-- **The object of the symbolic names**: its own properties, in the order in which they were added,
and its prototype when it was replaced by an entry. -/
structure SymbolCache where
  own : List (String × SymbolEntry) := []
  prototype : Option SymbolEntry := none

/-- **A property that is read**: there is none, or it is false; it is an entry; or it is something
else, which has no property `0`. -/
inductive CachedSymbol
  | missing
  | entry (value : SymbolEntry)
  | inherited
  deriving DecidableEq, Repr

namespace CachedSymbol

/-- The property is true as a condition. -/
def isSet : CachedSymbol → Bool
  | missing => false
  | _ => true

/-- `cached[0]`. -/
def value : CachedSymbol → Option UInt32
  | entry value => some value.1
  | _ => none

end CachedSymbol

namespace SymbolCache

/-- The members of `Object.prototype`. -/
def objectMembers : List String :=
  ["constructor", "__defineGetter__", "__defineSetter__", "hasOwnProperty", "__lookupGetter__",
    "__lookupSetter__", "isPrototypeOf", "propertyIsEnumerable", "toString", "valueOf",
    "toLocaleString"]

/-- The members of `Array.prototype`, and the length of an array. -/
def arrayMembers : List String :=
  ["length", "at", "concat", "copyWithin", "fill", "find", "findIndex", "findLast", "findLastIndex",
    "lastIndexOf", "pop", "push", "reverse", "shift", "unshift", "slice", "sort", "splice",
    "includes", "indexOf", "join", "keys", "entries", "values", "forEach", "filter", "flat",
    "flatMap", "map", "every", "some", "reduce", "reduceRight", "toReversed", "toSorted",
    "toSpliced", "with"]

/-- A property of the prototype is true as a condition. -/
def isInherited (prototype : Option SymbolEntry) (key : String) : Bool :=
  key ∈ objectMembers ||
    match prototype with
    | none => false
    | some (value, nodeClass) =>
      key ∈ arrayMembers || (key = "0" && value ≠ 0) || (key = "1" && nodeClass.isSome)

/-- `cache[key]`. -/
def get (cache : SymbolCache) (key : String) : CachedSymbol :=
  if key = "__proto__" then
    match cache.prototype with
    | none => .inherited
    | some entry => .entry entry
  else
    match cache.own.lookup key with
    | some entry => .entry entry
    | none => if isInherited cache.prototype key then .inherited else .missing

/-- An own property is set. -/
def setOwn (key : String) (entry : SymbolEntry) :
    List (String × SymbolEntry) → List (String × SymbolEntry)
  | [] => [(key, entry)]
  | (key', entry') :: own =>
    if key' = key then (key, entry) :: own else (key', entry') :: setOwn key entry own

/-- `cache[key] = entry`, which replaces the prototype for one key. -/
def set (cache : SymbolCache) (key : String) (entry : SymbolEntry) : SymbolCache :=
  if key = "__proto__" then { cache with prototype := some entry }
  else { cache with own := setOwn key entry cache.own }

/-- The number of a key that is an index of arrays. -/
def arrayIndex (key : String) : Option ℕ :=
  let n := ofDecimal key.toList
  if n < 2 ^ 32 - 1 ∧ key.toList = decimal n then some n else none

/-- `Object.entries(cache)`: the indices come first, in their order. -/
def entries (cache : SymbolCache) : List (String × SymbolEntry) :=
  ((cache.own.filter fun e => (arrayIndex e.1).isSome).insertionSort fun e e' =>
      (arrayIndex e.1).getD 0 ≤ (arrayIndex e'.1).getD 0) ++
    cache.own.filter fun e => (arrayIndex e.1).isNone

end SymbolCache

/-! ### The manager -/

/-- `NodeEntry1`. -/
abbrev NodeEntry := String × UInt32 × Option NodeClass

/-- **The manager of a namespace**. -/
structure NodeIdManager where
  _cacheSymbolicName : SymbolCache := {}
  _cacheSymbolicNameRev : List UInt32 := []
  _internal_id_counter : ℕ := 1000
  namespaceIndex : UInt16

/-- `ConstructNodeIdOptions`. -/
structure ConstructNodeIdOptions (U : CaseMapping) where
  nodeId : Option (NodeId U)
  browseName : QualifiedName
  nodeClass : Option NodeClass
  references : List (NodeReference U)
  registerSymbolicNames : Bool

namespace NodeIdManager

/-- The message of a failed assertion that has none. -/
def assertionFailed : String := ""

/-- `makeNodeId` of a number, 0 when it is missing. -/
def makeNodeId (value : Option UInt32) (namespaceIndex : UInt16) : NodeId U :=
  ⟨namespaceIndex, .numeric (value.getD 0)⟩

/-- `_filterAggregates`: the parent, and the suffix of the names above. -/
def _filterAggregates (references : List (NodeReference U)) :
    Except String (Option (NodeId U × String)) :=
  match references.filter fun reference => !reference.isForward && reference.kind ≠ .other with
  | [] => .ok none
  | [reference] =>
    .ok (some (reference.nodeId, if reference.kind = .hasEncoding then "_Encoding" else ""))
  | _ => .error ("a node shall not have more than one parent " ++
      "(link to a parent with a reference derived from 'Aggregates')")

/-- `findParentNodeId`. -/
def findParentNodeId (options : ConstructNodeIdOptions U) :
    Except String (Option (NodeId U × String)) := _filterAggregates options.references

/-- `prepareName`. -/
def prepareName (browseName : QualifiedName) : String :=
  match browseName.name with
  | some name => String.ofList (name.toList.filter fun c => c ≠ ' ' && c ≠ '<' && c ≠ '>')
  | none => ""

/-- `compose`. -/
def compose (left right : String) : String :=
  if right ≠ "" then if left ≠ "" then left ++ "_" ++ right else right else left

/-- The loop of `buildUpName2`, over a node and the nodes above it. -/
def buildUpNames (namespaceIndex : UInt16) (suffix : String) :
    List (NodeId U × QualifiedName) → String → String
  | [], name => name
  | (nodeId, browseName) :: above, name =>
    if nodeId.namespaceIndex = namespaceIndex then
      buildUpNames namespaceIndex suffix above (compose (prepareName browseName ++ suffix) name)
    else name

/-- `buildUpName2`. -/
def buildUpName2 (space : AddressSpace U) (nodeId : NodeId U) (suffix : String) : String :=
  match findNode space nodeId with
  | none => ""
  | some node =>
    buildUpNames nodeId.namespaceIndex suffix ((node.nodeId, node.browseName) :: node.parents) ""

/-- **The symbolic name of a node**: the names above it and its own one. -/
def fullName (space : AddressSpace U) (parentInfo : Option (NodeId U × String))
    (browseName : QualifiedName) : String :=
  let fullParentName :=
    match parentInfo with
    | none => ""
    | some (parentNodeId, suffix) => buildUpName2 space parentNodeId suffix
  compose fullParentName (prepareName browseName)

/-- `_isInCache`. -/
def _isInCache (manager : NodeIdManager) (nodeId : NodeId U) : Bool :=
  if nodeId.namespaceIndex ≠ manager.namespaceIndex then false
  else
    match nodeId.value with
    | .numeric value => value ∈ manager._cacheSymbolicNameRev
    | _ => false

/-- The loop of `buildNewNodeId`. A number that does not fit into an identifier cannot be made one;
the fuel lasts until then. -/
def buildNewNodeIdLoop (manager : NodeIdManager) (space : AddressSpace U) :
    ℕ → ℕ → Except String (NodeId U × NodeIdManager)
  | 0, _ => .error assertionFailed
  | fuel + 1, counter =>
    let nodeId : NodeId U := makeNodeId (some (UInt32.ofNat counter)) manager.namespaceIndex
    if (findNode space nodeId).isSome || manager._isInCache nodeId then
      buildNewNodeIdLoop manager space fuel (counter + 1)
    else .ok (nodeId, { manager with _internal_id_counter := counter + 1 })

/-- **`buildNewNodeId`**. -/
def buildNewNodeId (manager : NodeIdManager) (space : AddressSpace U) :
    Except String (NodeId U × NodeIdManager) :=
  buildNewNodeIdLoop manager space (2 ^ 32 - manager._internal_id_counter)
    manager._internal_id_counter

/-- The identifier of a node below a node with a string. -/
def childNodeId (parentNodeId : NodeId U) (value : String) (browseName : QualifiedName) : NodeId U :=
  ⟨parentNodeId.namespaceIndex, .string (value ++ "-" ++ prepareName browseName)⟩

section

variable (manager : NodeIdManager)

/-- `_constructNodeId`. -/
def _constructNodeId (space : AddressSpace U)
    (options : ConstructNodeIdOptions U) : Except String (NodeId U × NodeIdManager) :=
  match options.nodeId with
  | some nodeId =>
    if nodeId.namespaceIndex = manager.namespaceIndex then .ok (nodeId, manager)
    else .error assertionFailed
  | none =>
    match findParentNodeId options with
    | .error e => .error e
    | .ok none => manager.buildNewNodeId space
    | .ok (some (parentNodeId, _)) =>
      match parentNodeId.value with
      | .string value => .ok (childNodeId parentNodeId value options.browseName, manager)
      | _ => manager.buildNewNodeId space

/-- `_isCacheHitReusable`. -/
def _isCacheHitReusable (space : AddressSpace U) (value : Option UInt32)
    (options : ConstructNodeIdOptions U) (parentInfo : Option (NodeId U × String)) :
    Except String Bool :=
  match findNode space (makeNodeId value manager.namespaceIndex) with
  | none => .ok true
  | some occupant =>
    let sameBrowseName := occupant.browseName = options.browseName
    match parentInfo, occupant.parentNodeId with
    | none, parentNodeId => .ok (sameBrowseName && parentNodeId.isNone)
    | some _, none => .ok false
    | some (expectedParentNodeId, _), some parentNodeId =>
      (sameNodeId parentNodeId expectedParentNodeId).map fun sameParent =>
        sameBrowseName && sameParent

/-- A number is kept for a name that has none. -/
def register (name : String) (nodeClass : Option NodeClass) (nodeId : NodeId U) : NodeIdManager :=
  match nodeId.value with
  | .numeric value =>
    if (manager._cacheSymbolicName.get name).isSet then manager
    else
      { manager with
        _cacheSymbolicName := manager._cacheSymbolicName.set name (value, nodeClass)
        _cacheSymbolicNameRev := value :: manager._cacheSymbolicNameRev }
  | _ => manager

/-- **`constructNodeId`**. -/
def constructNodeId (space : AddressSpace U)
    (options : ConstructNodeIdOptions U) : Except String (NodeId U × NodeIdManager) :=
  if options.nodeId.isNone && options.registerSymbolicNames then do
    let parentInfo ← findParentNodeId options
    let name := fullName space parentInfo options.browseName
    let cached := manager._cacheSymbolicName.get name
    let reused ←
      if cached.isSet then manager._isCacheHitReusable space cached.value options parentInfo
      else .ok false
    if reused then return (makeNodeId cached.value manager.namespaceIndex, manager)
    let (nodeId, manager) ← manager._constructNodeId space options
    return (nodeId, manager.register name options.nodeClass nodeId)
  else do
    let (nodeId, manager) ← manager._constructNodeId space options
    if options.registerSymbolicNames then
      match nodeId.value with
      | .numeric _ =>
        let parentInfo ← findParentNodeId options
        let name := fullName space parentInfo options.browseName
        return (nodeId, manager.register name options.nodeClass nodeId)
      | _ => return (nodeId, manager)
    else return (nodeId, manager)

end

/-- `setSymbols`. -/
def setSymbols (manager : NodeIdManager) : List NodeEntry → NodeIdManager
  | [] => manager
  | (name, value, nodeClass) :: symbols =>
    setSymbols
      { manager with
        _cacheSymbolicName := manager._cacheSymbolicName.set name (value, nodeClass)
        _cacheSymbolicNameRev := value :: manager._cacheSymbolicNameRev } symbols

/-- `getSymbols`. -/
def getSymbols (manager : NodeIdManager) : List NodeEntry :=
  manager._cacheSymbolicName.entries.map fun (key, value, nodeClass) => (key, value, nodeClass)

/-! ### Nodes that are created -/

/-- The node of the options: its parent is that of the first reference of the kind `Aggregates`. -/
def newNode (space : AddressSpace U) (options : ConstructNodeIdOptions U) (nodeId : NodeId U) :
    BaseNode U where
  nodeId := nodeId
  browseName := options.browseName
  parents :=
    match options.references.find? fun reference =>
        !reference.isForward && reference.kind = .aggregates with
    | none => []
    | some reference =>
      match findNode space reference.nodeId with
      | none => []
      | some parent => (parent.nodeId, parent.browseName) :: parent.parents

/-- `_register`. -/
def _register (manager : NodeIdManager) (space : AddressSpace U) (node : BaseNode U) :
    Except String (AddressSpace U) :=
  if node.nodeId.namespaceIndex ≠ manager.namespaceIndex then
    .error "node must belong to this namespace"
  else if (findNode space node.nodeId).isSome then .error "already registered"
  else .ok (node :: space)

/-- A manager, and the address space. -/
structure State (U : CaseMapping) where
  manager : NodeIdManager
  space : AddressSpace U

/-- **`internalCreateNode`**: the identifier is constructed, and the node is registered. -/
def createNode (s : State U) (options : ConstructNodeIdOptions U) :
    State U × Except String (NodeId U) :=
  match s.manager.constructNodeId s.space options with
  | .error e => (s, .error e)
  | .ok (nodeId, manager) =>
    match manager._register s.space (newNode s.space options nodeId) with
    | .error e => (⟨manager, s.space⟩, .error e)
    | .ok space => (⟨manager, space⟩, .ok nodeId)

/-- What may be done in a namespace. -/
inductive Operation (U : CaseMapping)
  | setSymbols (symbols : List NodeEntry)
  | createNode (options : ConstructNodeIdOptions U)

/-- **One operation**, whose output is the identifier of the node that is created. -/
def step (s : State U) : Operation U → State U × List (Except String (NodeId U))
  | .setSymbols symbols => (⟨s.manager.setSymbols symbols, s.space⟩, [])
  | .createNode options => ((createNode s options).1, [(createNode s options).2])

end NodeIdManager

end NodeOpcua
