import NodeOpcua.AddressSpace.Navigation
import NodeOpcua.Library.MemoTable

set_option autoImplicit false

/-!
# The subtype tests

A type has an inverse `HasSubtype` reference to its supertype. There are three tests: the walk from the
type to its supertypes, the same walk with a memory on the type it begins at, and for reference types
an index of all subtypes, which is kept on the supertype with a version.

## Main definitions

* `NodeGraph._slow_isSubtypeOf`, `TypeCaches`, `TypeSpace`, `TypeSpace.isSubtypeOf`,
  `TypeSpace.checkHasSubtype`, `TypeSpace.perform`.

## Design

* A recursion of the source is bounded by the depth of the call stack.
* Of the lists of `findReferences` those of the forward `HasSubtype` references are kept here. A query
  that a mutation makes itself is a query of the run after it.
* Which caches a deletion empties is an argument of it, like what it looks up.
-/

namespace NodeOpcua

open NodeGraph

/-- `HasSubTypeNodeId`. -/
def HasSubTypeNodeId : NodeIdText := "ns=0;i=45"

/-- What the tests throw. -/
inductive SubtypeError
  /-- expecting baseType to be -/
  | wrongClass
  /-- should have zero or one subtype no more -/
  | severalSupertypes
  /-- Cannot find object with nodeId -/
  | supertypeNotFound
  /-- cannot find HasSubtype reference type -/
  | hasSubtypeNotFound
  /-- cannot find subtype reference type -/
  | subtypeNotFound
  /-- Maximum call stack size exceeded -/
  | callStackSize
  deriving DecidableEq, Repr

namespace NodeGraph

/-- The class of a node. -/
def nodeClass (g : NodeGraph) (nodeId : NodeIdText) : Option NodeClass :=
  (g.findNode nodeId).map BaseNodeImpl.nodeClass

/-- The references that `_filterSubType` keeps. -/
def subTypes (g : NodeGraph) (nodeId : NodeIdText) : List ReferenceImpl :=
  (g.allReferences nodeId).filter fun reference =>
    reference.referenceType = HasSubTypeNodeId ∧ reference.isForward = false

/-- `_slow_isSubtypeOf`. -/
def _slow_isSubtypeOf (g : NodeGraph) (Class : NodeClass) :
    ℕ → NodeIdText → NodeIdText → Except SubtypeError Bool
  | 0, _, _ => .error .callStackSize
  | depth + 1, nodeId, baseType =>
    if g.nodeClass nodeId ≠ some Class ∨ g.nodeClass baseType ≠ some Class then .error .wrongClass
    else if nodeId = baseType then .ok true
    else
      match g.subTypes nodeId with
      | [] => .ok false
      | [subType] =>
        if (g.findNode subType.nodeId).isNone then .error .supertypeNotFound
        else if subType.nodeId = baseType then .ok true
        else g._slow_isSubtypeOf Class depth subType.nodeId baseType
      | _ :: _ :: _ => .error .severalSupertypes

end NodeGraph

/-- **What a type keeps.** A version that is not defined is zero. -/
structure TypeCaches where
  memoMap : MemoTable NodeIdText Bool := fun _ => none
  _ref : Option (List ReferenceImpl) := none
  _allSubTypes : Option (List NodeIdText) := none
  _allSubTypesVersion : ℕ := 0
  _subtype_idx : Option (List NodeIdText) := none
  _subtype_idxVersion : ℕ := 0

/-- **The types with what they keep.** -/
structure TypeSpace where
  graph : NodeGraph
  caches : NodeIdText → TypeCaches
  ReferenceTypeCounter : ℕ

namespace TypeSpace

/-- The address space without nodes. -/
def empty : TypeSpace := ⟨.empty, fun _ => {}, 0⟩

/-- What a type keeps is replaced. -/
def setCaches (s : TypeSpace) (nodeId : NodeIdText) (caches : TypeCaches) : TypeSpace :=
  { s with caches := Function.update s.caches nodeId caches }

/-! ### The tests -/

/-- The function that `construct_isSubtypeOf` memoises, for the class of the node. -/
def isSubtypeOfClass (depth : ℕ) (g : NodeGraph) (Class : NodeClass) (nodeId baseType : NodeIdText) :
    Except SubtypeError Bool :=
  if g.nodeClass baseType ≠ some Class then .error .wrongClass
  else if g.nodeClass nodeId ≠ some Class then .error .wrongClass
  else g._slow_isSubtypeOf Class depth nodeId baseType

/-- `isSubtypeOf` of a node that is in the address space. -/
def isSubtypeOf (depth : ℕ) (s : TypeSpace) (nodeId baseType : NodeIdText) :
    Except SubtypeError Bool × TypeSpace :=
  match s.graph.nodeClass nodeId with
  | none => (.error .wrongClass, s)
  | some Class =>
    let result := MemoTable.ask (isSubtypeOfClass depth s.graph Class nodeId)
      (s.caches nodeId).memoMap baseType
    (result.1, s.setCaches nodeId { s.caches nodeId with memoMap := result.2 })

/-- `findReferences`, of the forward `HasSubtype` references. -/
def findReferences (s : TypeSpace) (nodeId : NodeIdText) : List ReferenceImpl × TypeSpace :=
  match (s.caches nodeId)._ref with
  | some references => (references, s)
  | none =>
    let references := s.graph.findReferences_no_cache nodeId HasSubTypeNodeId true
    (references, s.setCaches nodeId { s.caches nodeId with _ref := some references })

/-- The loop of `_findAllSubType`. -/
def _findAllSubTypes
    (_findAllSubType : TypeSpace → NodeIdText → Except SubtypeError (List NodeIdText) × TypeSpace) :
    TypeSpace → List ReferenceImpl → Except SubtypeError (List NodeIdText) × TypeSpace
  | s, [] => (.ok [], s)
  | s, reference :: references =>
    if s.graph.isReferenceType reference.nodeId then
      match _findAllSubType s reference.nodeId with
      | (.error error, s) => (.error error, s)
      | (.ok types, s) =>
        let rest := _findAllSubTypes _findAllSubType s references
        (rest.1.map fun more => types ++ more, rest.2)
    else (.error .subtypeNotFound, s)

/-- `_findAllSubType`: the types that it pushes. -/
def _findAllSubType : ℕ → TypeSpace → NodeIdText →
    Except SubtypeError (List NodeIdText) × TypeSpace
  | 0, s, _ => (.error .callStackSize, s)
  | depth + 1, s, referenceType =>
    if s.graph.isReferenceType HasSubTypeNodeId = false then (.error .hasSubtypeNotFound, s)
    else if s.graph.nodeClass referenceType ≠ some .ReferenceType then (.error .wrongClass, s)
    else
      let result := s.findReferences referenceType
      let rest := _findAllSubTypes (_findAllSubType depth) result.2 result.1
      (rest.1.map fun types => referenceType :: types, rest.2)

/-- The subtypes are kept, with a version that is defined and not behind. -/
def keptSubTypes (count : ℕ) (cache : TypeCaches) : Option (List NodeIdText) :=
  if cache._allSubTypesVersion = 0 ∨ cache._allSubTypesVersion < count then none
  else cache._allSubTypes

/-- `_getAllSubtypes`. -/
def _getAllSubtypes (depth : ℕ) (s : TypeSpace) (referenceType : NodeIdText) :
    Except SubtypeError (List NodeIdText) × TypeSpace :=
  let kept := keptSubTypes s.ReferenceTypeCounter (s.caches referenceType)
  let s := s.setCaches referenceType { s.caches referenceType with _allSubTypes := kept }
  match kept with
  | some types => (.ok types, s)
  | none =>
    match s._findAllSubType depth referenceType with
    | (.error error, s) => (.error error, s)
    | (.ok types, s) =>
      (.ok types, s.setCaches referenceType { s.caches referenceType with
        _allSubTypes := some types, _allSubTypesVersion := s.ReferenceTypeCounter })

/-- The index is kept, with a version that is not defined or not behind. -/
def keptIndex (count : ℕ) (cache : TypeCaches) : Option (List NodeIdText) :=
  if cache._subtype_idxVersion ≠ 0 ∧ cache._subtype_idxVersion < count then none
  else cache._subtype_idx

/-- `_getSubtypeIndex`: the keys of the index. -/
def _getSubtypeIndex (depth : ℕ) (s : TypeSpace) (referenceType : NodeIdText) :
    Except SubtypeError (List NodeIdText) × TypeSpace :=
  let kept := keptIndex s.ReferenceTypeCounter (s.caches referenceType)
  let s := s.setCaches referenceType { s.caches referenceType with _subtype_idx := kept }
  match kept with
  | some keys => (.ok keys, s)
  | none =>
    match s._getAllSubtypes depth referenceType with
    | (.error error, s) => (.error error, s)
    | (.ok keys, s) =>
      (.ok keys, s.setCaches referenceType { s.caches referenceType with
        _subtype_idx := some keys, _subtype_idxVersion := s.ReferenceTypeCounter })

/-- `checkHasSubtype`, of an identifier. -/
def checkHasSubtype (depth : ℕ) (s : TypeSpace) (referenceType ref : NodeIdText) :
    Except SubtypeError Bool × TypeSpace :=
  let result := s._getSubtypeIndex depth referenceType
  (result.1.map fun keys => decide (ref ∈ keys), result.2)

end TypeSpace

/-! ### The subtypes, as they are found without lists that are kept -/

namespace NodeGraph

/-- The forward `HasSubtype` references. -/
def superTypeOf (g : NodeGraph) (nodeId : NodeIdText) : List ReferenceImpl :=
  g.findReferences_no_cache nodeId HasSubTypeNodeId true

/-- The subtypes along references. -/
def subtypesAlong (g : NodeGraph) (allSubtypes : NodeIdText → Except SubtypeError (List NodeIdText)) :
    List ReferenceImpl → Except SubtypeError (List NodeIdText)
  | [] => .ok []
  | reference :: references =>
    if g.isReferenceType reference.nodeId then
      match allSubtypes reference.nodeId with
      | .error error => .error error
      | .ok types => (g.subtypesAlong allSubtypes references).map fun more => types ++ more
    else .error .subtypeNotFound

/-- The type and all its subtypes. -/
def allSubtypes (g : NodeGraph) : ℕ → NodeIdText → Except SubtypeError (List NodeIdText)
  | 0, _ => .error .callStackSize
  | depth + 1, referenceType =>
    if g.isReferenceType HasSubTypeNodeId = false then .error .hasSubtypeNotFound
    else if g.nodeClass referenceType ≠ some .ReferenceType then .error .wrongClass
    else
      (g.subtypesAlong (g.allSubtypes depth) (g.superTypeOf referenceType)).map fun types =>
        referenceType :: types

end NodeGraph

namespace TypeSpace

/-- The lists that are kept are right. -/
def ReferencesRight (s : TypeSpace) : Prop :=
  ∀ nodeId l, (s.caches nodeId)._ref = some l → l = s.graph.superTypeOf nodeId

/-- Nothing is changed but lists that are kept. -/
structure SameButReferences (s t : TypeSpace) : Prop where
  graph : t.graph = s.graph
  count : t.ReferenceTypeCounter = s.ReferenceTypeCounter
  caches : ∀ nodeId, t.caches nodeId = { s.caches nodeId with _ref := (t.caches nodeId)._ref }

lemma SameButReferences.refl (s : TypeSpace) : s.SameButReferences s := ⟨rfl, rfl, fun _ => rfl⟩

lemma SameButReferences.trans {s t u : TypeSpace} (hst : s.SameButReferences t)
    (htu : t.SameButReferences u) : s.SameButReferences u := by
  refine ⟨htu.graph.trans hst.graph, htu.count.trans hst.count, fun nodeId => ?_⟩
  rw [htu.caches nodeId, hst.caches nodeId]

@[simp] lemma caches_setCaches_self (s : TypeSpace) (nodeId : NodeIdText) (caches : TypeCaches) :
    (s.setCaches nodeId caches).caches nodeId = caches := Function.update_self ..

@[simp] lemma caches_setCaches_of_ne (s : TypeSpace) {nodeId other : NodeIdText}
    (caches : TypeCaches) (h : other ≠ nodeId) :
    (s.setCaches nodeId caches).caches other = s.caches other := Function.update_of_ne h ..

variable {s : TypeSpace}

lemma findReferences_eq (h : s.ReferencesRight) (nodeId : NodeIdText) :
    (s.findReferences nodeId).1 = s.graph.superTypeOf nodeId ∧
      (s.findReferences nodeId).2.ReferencesRight ∧
      s.SameButReferences (s.findReferences nodeId).2 := by
  unfold findReferences
  cases hkept : (s.caches nodeId)._ref with
  | some l => exact ⟨h nodeId l hkept, h, .refl s⟩
  | none =>
    refine ⟨rfl, fun other l hl => ?_, rfl, rfl, fun other => ?_⟩
    · by_cases hother : other = nodeId
      · subst hother
        rw [caches_setCaches_self] at hl
        exact (Option.some.inj hl).symm
      · rw [caches_setCaches_of_ne _ _ hother] at hl
        exact h other l hl
    · by_cases hother : other = nodeId
      · subst hother
        rw [caches_setCaches_self]
      · rw [caches_setCaches_of_ne _ _ hother]

lemma _findAllSubTypes_eq {f : TypeSpace → NodeIdText → Except SubtypeError (List NodeIdText) × TypeSpace}
    {g : NodeGraph} {subtypes : NodeIdText → Except SubtypeError (List NodeIdText)}
    (hf : ∀ s nodeId, s.graph = g → s.ReferencesRight → (f s nodeId).1 = subtypes nodeId ∧
      (f s nodeId).2.ReferencesRight ∧ s.SameButReferences (f s nodeId).2)
    (hg : s.graph = g) (h : s.ReferencesRight) (refs : List ReferenceImpl) :
    (_findAllSubTypes f s refs).1 = g.subtypesAlong subtypes refs ∧
      (_findAllSubTypes f s refs).2.ReferencesRight ∧
      s.SameButReferences (_findAllSubTypes f s refs).2 := by
  induction refs generalizing s with
  | nil => exact ⟨rfl, h, .refl s⟩
  | cons ref refs ih =>
    unfold _findAllSubTypes subtypesAlong
    rw [hg]
    split_ifs
    · obtain ⟨hfst, hright, hsame⟩ := hf s ref.nodeId hg h
      rw [← hfst]
      rcases hcall : f s ref.nodeId with ⟨error | types, t⟩ <;> rw [hcall] at hright hsame
      · exact ⟨rfl, hright, hsame⟩
      · obtain ⟨hrest, hright', hsame'⟩ := ih (hsame.graph.trans hg) hright
        dsimp only
        exact ⟨by rw [hrest], hright', hsame.trans hsame'⟩
    · exact ⟨rfl, h, .refl s⟩

/-- **From right lists** the subtypes are found as without them. -/
theorem _findAllSubType_eq (depth : ℕ) (h : s.ReferencesRight) (refType : NodeIdText) :
    (s._findAllSubType depth refType).1 = s.graph.allSubtypes depth refType ∧
      (s._findAllSubType depth refType).2.ReferencesRight ∧
      s.SameButReferences (s._findAllSubType depth refType).2 := by
  induction depth generalizing s refType with
  | zero => exact ⟨rfl, h, .refl s⟩
  | succ depth ih =>
    unfold _findAllSubType allSubtypes
    split_ifs with hfound hclass
    · exact ⟨rfl, h, .refl s⟩
    · exact ⟨rfl, h, .refl s⟩
    · obtain ⟨hfst, hright, hsame⟩ := findReferences_eq h refType
      obtain ⟨hrest, hright', hsame'⟩ := _findAllSubTypes_eq (f := _findAllSubType depth)
        (fun t nodeId hg ht => hg ▸ ih ht nodeId) hsame.graph hright (s.findReferences refType).1
      dsimp only
      rw [hrest, hfst]
      exact ⟨rfl, hfst ▸ hright', hsame.trans (hfst ▸ hsame')⟩

end TypeSpace

/-! ### The caches that the mutations empty -/

namespace NodeGraph

section

variable (g : NodeGraph) (nodeId : NodeIdText) (reference : ReferenceImpl)

/-- The target whose cache `_propagate_ref` empties. -/
def propagateRefClears :
    List NodeIdText :=
  match g.findReferenceType reference.referenceType with
  | none => []
  | some referenceType =>
    if _is_massively_used_reference referenceType then []
    else
      match g.findNode reference.nodeId with
      | none => []
      | some relatedNode =>
        if relatedNode.hasReference (reference.backward nodeId).hash then []
        else if relatedNode.hasBackReference (reference.backward nodeId).hash then []
        else [reference.nodeId]

/-- Those of `addReference`: the node that declares the reference, and its target. -/
def addReferenceClears :
    List NodeIdText :=
  match g.findNode nodeId with
  | none => []
  | some node =>
    match node.__addReference reference with
    | .error _ => []
    | .ok node => nodeId :: (g.setNode nodeId (some node)).propagateRefClears nodeId reference

end

/-- Those of the targets of a new node, up to the first one for which something is thrown. -/
def propagateBackReferencesClears (nodeId : NodeIdText) :
    List ReferenceImpl → NodeGraph → List NodeIdText
  | [], _ => []
  | reference :: references, g =>
    g.propagateRefClears nodeId reference ++
      match (g._propagate_ref nodeId reference).thrown with
      | some _ => []
      | none =>
        propagateBackReferencesClears nodeId references (g._propagate_ref nodeId reference).graph

/-- Those of `createNode`, where the new node has none. -/
def createNodeClears (g : NodeGraph) (nodeId : NodeIdText) (browseName : BuiltIn.QualifiedName)
    (nodeClass : NodeClass) (references : List ReferenceImpl) : List NodeIdText :=
  match references.foldlM BaseNodeImpl.__addReference { browseName, nodeClass } with
  | .error _ => []
  | .ok node =>
    if (g.findNode nodeId).isSome then []
    else
      nodeId :: propagateBackReferencesClears nodeId node._referenceIdx
        (g.setNode nodeId (some node))

/-- That of `removeReference`: the node that declares the reference, but not the other one. -/
def removeReferenceClears (g : NodeGraph) (nodeId : NodeIdText) (reference : ReferenceImpl) :
    List NodeIdText :=
  match g.findNode nodeId, g.findNode reference.nodeId with
  | none, _ => []
  | some _, none => []
  | some node, some relatedNode =>
    if node.hasReference reference.hash then [nodeId]
    else if node.hasBackReference reference.hash then
      if relatedNode.hasReference (reference.backward nodeId).hash then [reference.nodeId] else []
    else []

end NodeGraph

/-! ### The operations -/

/-- An operation on the types: a mutation or a query. -/
inductive TypeOperation
  | createNode (nodeId : NodeIdText) (browseName : BuiltIn.QualifiedName) (nodeClass : NodeClass)
    (references : List ReferenceImpl)
  | addReference (nodeId : NodeIdText) (reference : ReferenceImpl)
  | removeReference (nodeId : NodeIdText) (reference : ReferenceImpl)
  | deleteNode (nodeId : NodeIdText) (lookups : Lookups) (depth : ℕ) (clears : List NodeIdText)
  | isSubtypeOf (nodeId baseType : NodeIdText)
  | checkHasSubtype (referenceType ref : NodeIdText)
  | findReferences (nodeId : NodeIdText)

namespace TypeSpace

/-- The references after an operation. -/
def graphAfter (g : NodeGraph) : TypeOperation → NodeGraph
  | .createNode nodeId browseName nodeClass references =>
    (g.createNode nodeId browseName nodeClass references).graph
  | .addReference nodeId reference => (g.addReference nodeId reference).graph
  | .removeReference nodeId reference => (g.removeReference nodeId reference).graph
  | .deleteNode nodeId lookups depth _ => (NodeGraph.deleteNode lookups depth g nodeId).graph
  | _ => g

/-- The nodes whose caches a mutation empties. -/
def clears (g : NodeGraph) : TypeOperation → List NodeIdText
  | .createNode nodeId browseName nodeClass references =>
    g.createNodeClears nodeId browseName nodeClass references
  | .addReference nodeId reference => g.addReferenceClears nodeId reference
  | .removeReference nodeId reference => g.removeReferenceClears nodeId reference
  | .deleteNode _ _ _ clears => clears
  | _ => []

/-- `ReferenceTypeCounter`, which the constructor of a reference type counts up. -/
def countAfter (count : ℕ) : TypeOperation → ℕ
  | .createNode _ browseName nodeClass references =>
    match references.foldlM BaseNodeImpl.__addReference { browseName, nodeClass } with
    | .error _ => count
    | .ok _ => if nodeClass = .ReferenceType then count + 1 else count
  | _ => count

/-- A mutation. -/
def mutate (s : TypeSpace) (operation : TypeOperation) : TypeSpace where
  graph := graphAfter s.graph operation
  caches nodeId := if nodeId ∈ clears s.graph operation then {} else s.caches nodeId
  ReferenceTypeCounter := countAfter s.ReferenceTypeCounter operation

/-- What an operation leaves. -/
def perform (depth : ℕ) (s : TypeSpace) : TypeOperation → TypeSpace
  | .isSubtypeOf nodeId baseType => (s.isSubtypeOf depth nodeId baseType).2
  | .checkHasSubtype referenceType ref => (s.checkHasSubtype depth referenceType ref).2
  | .findReferences nodeId => (s.findReferences nodeId).2
  | mutation => s.mutate mutation

/-- The step of a run. -/
def step (depth : ℕ) (s : TypeSpace) (operation : TypeOperation) : TypeSpace × List Unit :=
  (s.perform depth operation, [])

end TypeSpace

end NodeOpcua
