import Mathlib.Data.List.Nodup
import Mathlib.Logic.Function.Basic
import NodeOpcua.NodeClass
import NodeOpcua.Variant.Basic

set_option autoImplicit false

/-!
# The references of the nodes

A reference is declared on a node, which may be its source or its target, and is propagated to the
other node. So each node has two maps: its own references, and the back references that others have
propagated to it. This file has the nodes with their maps, and what changes them.

## Main definitions

* `ReferenceImpl`, `BaseNodeImpl`, `NodeGraph`, `NodeGraph.addReference`,
  `NodeGraph.removeReference`, `NodeGraph.createNode`, `NodeGraph.deleteNode`.

## Main results

* `NodeGraph.removeReference_of_own`, `NodeGraph.removeReference_of_back` —
  which of the two nodes forgets what.

## Design

* A node identifier is its text, under which the address space has the node. The references of the
  operations are normalized: a type by its identifier, and a direction.
* A map from hashes to references is the list of its references in the order of their insertion. The
  text of the hash begins with an exclamation mark when the reference is an inverse one, and the text
  of an identifier does not; here the mark is a flag.
* The caches of the nodes, the properties of the JavaScript objects and the events of a change are left
  out. What a deletion looks up in caches is an argument of it (`Lookups`).
-/

namespace NodeOpcua

open BuiltIn

/-- The text of a node identifier. -/
abbrev NodeIdText := String

/-- `ReferenceImpl`: a reference, as the node has it whose map it is in. -/
@[ext] structure ReferenceImpl where
  referenceType : NodeIdText
  isForward : Bool
  nodeId : NodeIdText
  deriving DecidableEq, Repr

namespace ReferenceImpl

/-- `hash`. -/
def hash (reference : ReferenceImpl) : Bool × String :=
  (reference.isForward, reference.referenceType ++ "-" ++ reference.nodeId)

/-- The reference as the node at its other end has it. -/
def backward (reference : ReferenceImpl) (nodeId : NodeIdText) : ReferenceImpl :=
  { isForward := !reference.isForward, nodeId, referenceType := reference.referenceType }

section

variable (reference : ReferenceImpl) (nodeId : NodeIdText)
include reference nodeId

@[simp] lemma backward_referenceType :
    (reference.backward nodeId).referenceType = reference.referenceType := rfl

@[simp] lemma backward_isForward :
    (reference.backward nodeId).isForward = !reference.isForward := rfl

@[simp] lemma backward_nodeId :
    (reference.backward nodeId).nodeId = nodeId := rfl

@[simp] lemma backward_backward :
    (reference.backward nodeId).backward reference.nodeId = reference := by
  ext <;> simp [backward]

end

variable {reference other : ReferenceImpl}

lemma backward_inj (hnodeId : reference.nodeId = other.nodeId)
    {nodeId nodeId' : NodeIdText} (h : reference.backward nodeId = other.backward nodeId') :
    nodeId = nodeId' ∧ reference = other := by
  refine ⟨congrArg ReferenceImpl.nodeId h, ?_⟩
  rw [← backward_backward reference nodeId, h, hnodeId, backward_backward]

lemma hash_backward_ne (ref : ReferenceImpl) (nodeId : NodeIdText) :
    (ref.backward nodeId).hash ≠ ref.hash := by
  intro h
  have hfwd := congrArg Prod.fst h
  simp [hash] at hfwd

lemma hash_backward_inj (hnodeId : reference.nodeId = other.nodeId)
    {nodeId : NodeIdText} (h : (reference.backward nodeId).hash = (other.backward nodeId).hash) :
    reference.hash = other.hash := by
  simp only [hash, backward, Prod.mk.injEq, String.append_left_inj, Bool.not_inj_iff] at h ⊢
  exact ⟨h.1, by rw [h.2, hnodeId]⟩

end ReferenceImpl

/-- `BaseNodeImpl`, with its two maps. -/
structure BaseNodeImpl where
  browseName : QualifiedName
  nodeClass : NodeClass
  _referenceIdx : List ReferenceImpl := []
  _back_referenceIdx : List ReferenceImpl := []
  deriving DecidableEq, Repr

/-- What the operations throw. -/
inductive AddressSpaceError
  /-- reference exists already in _back_references -/
  | existsInBackReferences
  /-- reference exists already in _references -/
  | existsInReferences
  /-- BaseNode#addReference : invalid reference -/
  | invalidReference (reference : ReferenceImpl)
  /-- already registered -/
  | alreadyRegistered
  /-- Cannot coerce reference with name -/
  | unknownReferenceType
  /-- deleteNode : cannot find node -/
  | nodeNotFound
  /-- The assertion that a parent exists. -/
  | parentNotFound
  /-- The assertion that a reference does not point to its own node. -/
  | pointsToItself
  /-- Invalid class name specified -/
  | invalidClassName
  /-- Cannot read properties of null -/
  | nullReference
  /-- Maximum call stack size exceeded -/
  | callStackSize
  deriving DecidableEq, Repr

namespace BaseNodeImpl

/-- `_referenceIdx.has`. -/
def hasReference (node : BaseNodeImpl) (hash : Bool × String) : Bool :=
  node._referenceIdx.any fun reference => reference.hash = hash

/-- `_back_referenceIdx.has`. -/
def hasBackReference (node : BaseNodeImpl) (hash : Bool × String) : Bool :=
  node._back_referenceIdx.any fun reference => reference.hash = hash

set_option linter.style.nameCheck false in
/-- `__addReference`. -/
def __addReference (node : BaseNodeImpl) (reference : ReferenceImpl) : Except AddressSpaceError BaseNodeImpl :=
  if node.hasBackReference reference.hash then .error .existsInBackReferences
  else if node.hasReference reference.hash then .error .existsInReferences
  else .ok { node with _referenceIdx := node._referenceIdx ++ [reference] }

end BaseNodeImpl

/-- **The address space**: `findNode`, which gives the node under an identifier. -/
structure NodeGraph where
  findNode : NodeIdText → Option BaseNodeImpl

namespace NodeGraph

/-- The address space without nodes. -/
def empty : NodeGraph := ⟨fun _ => none⟩

section

variable (s : NodeGraph) (nodeId : NodeIdText)

/-- The node is put under the identifier, or is removed. -/
def setNode (node : Option BaseNodeImpl) : NodeGraph :=
  ⟨Function.update s.findNode nodeId node⟩

/-- `_referenceIdx` of a node. -/
def own : List ReferenceImpl :=
  ((s.findNode nodeId).map BaseNodeImpl._referenceIdx).getD []

/-- `_back_referenceIdx` of a node. -/
def back : List ReferenceImpl :=
  ((s.findNode nodeId).map BaseNodeImpl._back_referenceIdx).getD []

/-- `allReferences`. -/
def allReferences : List ReferenceImpl :=
  s.own nodeId ++ s.back nodeId

end

/-- `findReferenceType`, of an identifier. -/
def findReferenceType (s : NodeGraph) (referenceType : NodeIdText) : Option BaseNodeImpl :=
  (s.findNode referenceType).filter fun node => node.nodeClass = .ReferenceType

/-- `_is_massively_used_reference`. -/
def _is_massively_used_reference (referenceType : BaseNodeImpl) : Bool :=
  referenceType.browseName = ⟨0, some "HasTypeDefinition"⟩ ∨
    referenceType.browseName = ⟨0, some "HasModellingRule"⟩

/-- The type is one whose references are not propagated. -/
def isMassivelyUsed (s : NodeGraph) (referenceType : NodeIdText) : Bool :=
  (s.findReferenceType referenceType).any _is_massively_used_reference

/-- What a call leaves, and what it throws. -/
structure Call where
  graph : NodeGraph
  thrown : Option AddressSpaceError

/-- The next call, unless something is thrown. -/
def Call.andThen (call : Call) (next : NodeGraph → Call) : Call :=
  match call.thrown with
  | none => next call.graph
  | some _ => call

/-- A loop. -/
def callAll {α : Type} (f : NodeGraph → α → Call) : List α → NodeGraph → Call
  | [], s => ⟨s, none⟩
  | a :: as, s => (f s a).andThen (callAll f as)

/-! ### Adding -/

section

variable (s : NodeGraph) (nodeId : NodeIdText)

/-- `BaseNode_add_backward_reference`, on the node under the identifier. -/
def _add_backward_reference (node : BaseNodeImpl) (reference : ReferenceImpl) : Call :=
  -- the reference may be declared on both of its nodes
  if node.hasReference reference.hash then ⟨s, none⟩
  else if node.hasBackReference reference.hash then ⟨s, some .existsInBackReferences⟩
  else
    ⟨s.setNode nodeId (some { node with
      _back_referenceIdx := node._back_referenceIdx ++ [reference] }), none⟩

/-- `_propagate_ref`. -/
def _propagate_ref (reference : ReferenceImpl) : Call :=
  match s.findReferenceType reference.referenceType with
  | none => ⟨s, none⟩
  | some referenceType =>
    if _is_massively_used_reference referenceType then ⟨s, none⟩
    else
      match s.findNode reference.nodeId with
      | none => ⟨s, none⟩
      | some relatedNode =>
        s._add_backward_reference reference.nodeId relatedNode (reference.backward nodeId)

/-- `addReference` of the node under the identifier. -/
def addReference (reference : ReferenceImpl) : Call :=
  match s.findNode nodeId with
  | none => ⟨s, some .nullReference⟩
  | some node =>
    match node.__addReference reference with
    | .error error => ⟨s, some error⟩
    | .ok node =>
      let s := s.setNode nodeId (some node)
      match s.findReferenceType reference.referenceType with
      | none => ⟨s, some (.invalidReference reference)⟩
      | some _ => s._propagate_ref nodeId reference

/-- `propagate_back_references`. -/
def propagate_back_references : Call :=
  callAll (fun s reference => s._propagate_ref nodeId reference) (s.own nodeId) s

/-- `createNode`: the constructor declares the references, then the node is registered, and then its
references are propagated. -/
def createNode (browseName : QualifiedName)
    (nodeClass : NodeClass) (references : List ReferenceImpl) : Call :=
  match references.foldlM BaseNodeImpl.__addReference { browseName, nodeClass } with
  | .error error => ⟨s, some error⟩
  | .ok node =>
    if (s.findNode nodeId).isSome then ⟨s, some .alreadyRegistered⟩
    else (s.setNode nodeId (some node)).propagate_back_references nodeId

/-! ### Removing -/

/-- `_referenceIdx.delete`. -/
def eraseOwn (hash : Bool × String) : NodeGraph :=
  match s.findNode nodeId with
  | none => s
  | some node => s.setNode nodeId (some { node with
      _referenceIdx := node._referenceIdx.filter fun reference => reference.hash ≠ hash })

/-- `BaseNode_remove_backward_reference`. -/
def eraseBack (hash : Bool × String) : NodeGraph :=
  match s.findNode nodeId with
  | none => s
  | some node => s.setNode nodeId (some { node with
      _back_referenceIdx := node._back_referenceIdx.filter fun reference => reference.hash ≠ hash })

/-- A reference that the node declares is removed from both of its nodes. -/
def removeOwnReference (reference : ReferenceImpl) :
    NodeGraph :=
  (s.eraseOwn nodeId reference.hash).eraseBack reference.nodeId (reference.backward nodeId).hash

/-- `removeReference` of the node under the identifier. -/
def removeReference (reference : ReferenceImpl) : Call :=
  match s.findNode nodeId, s.findNode reference.nodeId with
  | none, _ => ⟨s, some .nullReference⟩
  | some _, none => ⟨s, none⟩
  | some node, some relatedNode =>
    if node.hasReference reference.hash then ⟨s.removeOwnReference nodeId reference, none⟩
    else if node.hasBackReference reference.hash then
      -- the other node is called, and it calls back when it does not declare the reference either
      if relatedNode.hasReference (reference.backward nodeId).hash then
        ⟨s.removeOwnReference reference.nodeId (reference.backward nodeId), none⟩
      else if relatedNode.hasBackReference (reference.backward nodeId).hash then
        ⟨s, some .callStackSize⟩
      else ⟨s, none⟩
    else ⟨s, none⟩

end

/-! ### Deleting -/

/-- The standard types that are asked about. -/
inductive StandardReferenceType
  | HierarchicalReferences
  | NonHierarchicalReferences
  | HasChild
  | Aggregates
  | HasComponent
  | HasProperty
  | Organizes
  deriving DecidableEq, Repr

/-- The identifier under which the standard type is. -/
def StandardReferenceType.nodeId : StandardReferenceType → NodeIdText
  | HierarchicalReferences => "ns=0;i=33"
  | NonHierarchicalReferences => "ns=0;i=32"
  | HasChild => "ns=0;i=34"
  | Aggregates => "ns=0;i=44"
  | HasComponent => "ns=0;i=47"
  | HasProperty => "ns=0;i=46"
  | Organizes => "ns=0;i=35"

/-- Those that a deletion asks about. -/
def StandardReferenceType.deletion : List StandardReferenceType :=
  [.HierarchicalReferences, .NonHierarchicalReferences, .HasComponent, .HasProperty, .Organizes]

/-- What `node` is in a reference whose type is massively used: it is set when the reference is
resolved, and is kept when that node is deleted. The other references are resolved when they are
propagated. -/
inductive ResolvedNode
  | undefined
  | registered
  | disposed
  deriving DecidableEq, Repr

/-- What a deletion looks up: the answers of `checkHasSubtype`, and which references of massively used
types are resolved. -/
structure Lookups where
  checkHasSubtype : StandardReferenceType → NodeIdText → Bool
  node : NodeIdText → ReferenceImpl → ResolvedNode

/-- `findReferencesEx`. -/
def findReferencesEx (s : NodeGraph) (lookups : Lookups) (nodeId : NodeIdText)
    (referenceType : StandardReferenceType) (isForward : Bool) : List ReferenceImpl :=
  (s.allReferences nodeId).filter fun reference =>
    reference.isForward = isForward ∧ lookups.checkHasSubtype referenceType reference.referenceType

/-- `ref.node?.removeReference`. -/
def detachNonHierarchical (lookups : Lookups) (nodeId : NodeIdText) (s : NodeGraph)
    (reference : ReferenceImpl) : Call :=
  if s.isMassivelyUsed reference.referenceType ∧ lookups.node nodeId reference = .undefined then
    ⟨s, none⟩
  else if s.isMassivelyUsed reference.referenceType ∧ lookups.node nodeId reference = .disposed then
    ⟨s, some .nullReference⟩
  else
    match s.findNode reference.nodeId with
    | none => ⟨s, none⟩
    | some _ => s.removeReference reference.nodeId (reference.backward nodeId)

section

variable (nodeId : NodeIdText) (s : NodeGraph) (reference : ReferenceImpl)

/-- `parent.removeReference`. -/
def detachHierarchical : Call :=
  match s.findNode reference.nodeId with
  | none => ⟨s, some .nullReference⟩
  | some _ => s.removeReference reference.nodeId (reference.backward nodeId)

/-- The step of `unpropagate_back_references`. -/
def unpropagate : Call :=
  match s.findNode reference.nodeId with
  | none => ⟨s, none⟩
  | some _ =>
    if reference.nodeId = nodeId then ⟨s, some .pointsToItself⟩
    else ⟨s.eraseBack reference.nodeId (reference.backward nodeId).hash, none⟩

end

/-- `unpropagate_back_references`. -/
def unpropagate_back_references (s : NodeGraph) (nodeId : NodeIdText) : Call :=
  callAll (unpropagate nodeId) (s.own nodeId) s

section

variable (lookups : Lookups) (s : NodeGraph) (nodeId : NodeIdText)

/-- The removals of `detachNode`: of the references that are not hierarchical, then of those to the
parents. -/
def removeReferences : Call :=
  (callAll (detachNonHierarchical lookups nodeId)
      (s.findReferencesEx lookups nodeId .NonHierarchicalReferences false) s).andThen fun s =>
  (callAll (detachNonHierarchical lookups nodeId)
      (s.findReferencesEx lookups nodeId .NonHierarchicalReferences true) s).andThen fun s =>
  callAll (detachHierarchical nodeId)
    (s.findReferencesEx lookups nodeId .HierarchicalReferences false) s

/-- `detachNode`. -/
def detachNode : Call :=
  (s.removeReferences lookups nodeId).andThen fun s => s.unpropagate_back_references nodeId

end

/-- `_deleteNode`: the nodes of two classes are not deleted. -/
def _deleteNode (s : NodeGraph) (nodeId : NodeIdText) : Call :=
  match s.findNode nodeId with
  | none => ⟨s, some .nodeNotFound⟩
  | some node =>
    if node.nodeClass = .ReferenceType ∨ node.nodeClass = .DataType then
      ⟨s, some .invalidClassName⟩
    else ⟨s.setNode nodeId none, none⟩

section

variable (lookups : Lookups) (s : NodeGraph) (nodeId : NodeIdText)

/-- A parent that is not in the address space. -/
def parentMissing : Bool :=
  (s.findReferencesEx lookups nodeId .HierarchicalReferences false).any fun reference =>
    (s.findNode reference.nodeId).isNone

/-- The nodes that are deleted before the node: its components, properties and organized nodes. -/
def deletedChildren :
    List ReferenceImpl :=
  s.findReferencesEx lookups nodeId .HasComponent true ++
    s.findReferencesEx lookups nodeId .HasProperty true ++
    s.findReferencesEx lookups nodeId .Organizes true

end

/-- `deleteNodePointedByReference`, on the deletion of a node. -/
def deleteNodePointedByReference (deleteNode : NodeGraph → NodeIdText → Call) (s : NodeGraph)
    (reference : ReferenceImpl) : Call :=
  match s.findNode reference.nodeId with
  | none => ⟨s, some .nullReference⟩
  | some _ => deleteNode s reference.nodeId

/-- The end of `deleteNode`, when the children are deleted. -/
def deleteDetached (lookups : Lookups) (s : NodeGraph) (nodeId : NodeIdText) : Call :=
  if (s.findNode nodeId).isNone ∨ s.parentMissing lookups nodeId then ⟨s, some .nullReference⟩
  else (s.detachNode lookups nodeId).andThen fun s => s._deleteNode nodeId

section

variable (s : NodeGraph) (nodeId other : NodeIdText) (node : Option BaseNodeImpl)
include s nodeId other node

/-- `deleteNode`, with the depth that the call stack has room for. A standard type that is missing is
noticed before anything is changed. -/
def deleteNode (lookups : Lookups) : ℕ → NodeGraph → NodeIdText → Call
  | 0, s, _ => ⟨s, some .callStackSize⟩
  | depth + 1, s, nodeId =>
    match s.findNode nodeId with
    | none => ⟨s, some .nodeNotFound⟩
    | some _ =>
      if StandardReferenceType.deletion.any fun T => (s.findReferenceType T.nodeId).isNone then
        ⟨s, some .unknownReferenceType⟩
      else if s.parentMissing lookups nodeId then ⟨s, some .parentNotFound⟩
      else
        (callAll (deleteNodePointedByReference (deleteNode lookups depth))
          (s.deletedChildren lookups nodeId) s).andThen fun s => s.deleteDetached lookups nodeId

/-! ### The lists after an operation -/

lemma findNode_setNode :
    (s.setNode nodeId node).findNode other = if other = nodeId then node else s.findNode other :=
  Function.update_apply _ _ _ _

lemma own_setNode :
    (s.setNode nodeId node).own other =
      if other = nodeId then (node.map BaseNodeImpl._referenceIdx).getD [] else s.own other := by
  unfold own
  rw [findNode_setNode]
  split_ifs <;> rfl

lemma back_setNode :
    (s.setNode nodeId node).back other =
      if other = nodeId then (node.map BaseNodeImpl._back_referenceIdx).getD [] else s.back other := by
  unfold back
  rw [findNode_setNode]
  split_ifs <;> rfl

end

variable {nodeId : NodeIdText} {s : NodeGraph} {node : BaseNodeImpl}

lemma own_eq
    (h : s.findNode nodeId = some node) : s.own nodeId = node._referenceIdx := by simp [own, h]

lemma back_eq (h : s.findNode nodeId = some node) : s.back nodeId = node._back_referenceIdx := by
  simp [back, h]

lemma own_of_none (h : s.findNode nodeId = none) :
    s.own nodeId = [] := by simp [own, h]

lemma back_of_none (h : s.findNode nodeId = none) :
    s.back nodeId = [] := by simp [back, h]

section

variable (s : NodeGraph) (nodeId other : NodeIdText) (hash : Bool × String)
include hash

lemma own_eraseOwn :
    (s.eraseOwn nodeId hash).own other =
      if other = nodeId then (s.own nodeId).filter fun ref => ref.hash ≠ hash
      else s.own other := by
  unfold eraseOwn
  split
  · next h =>
    split_ifs with heq
    · rw [heq, own_of_none h, List.filter_nil]
    · rfl
  · next node h => rw [own_setNode, own_eq h]; rfl

lemma back_eraseOwn :
    (s.eraseOwn nodeId hash).back other = s.back other := by
  unfold eraseOwn
  split
  · rfl
  · next node h =>
    rw [back_setNode]
    split_ifs with heq
    · rw [heq, back_eq h]; rfl
    · rfl

lemma back_eraseBack :
    (s.eraseBack nodeId hash).back other =
      if other = nodeId then (s.back nodeId).filter fun ref => ref.hash ≠ hash
      else s.back other := by
  unfold eraseBack
  split
  · next h =>
    split_ifs with heq
    · rw [heq, back_of_none h, List.filter_nil]
    · rfl
  · next node h => rw [back_setNode, back_eq h]; rfl

lemma own_eraseBack :
    (s.eraseBack nodeId hash).own other = s.own other := by
  unfold eraseBack
  split
  · rfl
  · next node h =>
    rw [own_setNode]
    split_ifs with heq
    · rw [heq, own_eq h]; rfl
    · rfl

end

variable {hash : Bool × String}

lemma eraseBack_of_not_mem
    (h : hash ∉ (s.back nodeId).map ReferenceImpl.hash) : s.eraseBack nodeId hash = s := by
  unfold eraseBack
  split
  · rfl
  · next node hnode =>
    rw [back_eq hnode] at h
    have hfilt : (node._back_referenceIdx.filter fun ref => ref.hash ≠ hash) =
        node._back_referenceIdx := by
      rw [List.filter_eq_self]
      intro q hq
      rw [decide_eq_true_eq]
      rintro rfl
      exact h (List.mem_map_of_mem hq)
    rw [hfilt, setNode, Function.update_eq_self_iff.mpr hnode.symm]

section

variable (s : NodeGraph)

section

variable (nodeId other : NodeIdText) (reference : ReferenceImpl)

lemma own_removeOwnReference :
    (s.removeOwnReference nodeId reference).own other =
      if other = nodeId then (s.own nodeId).filter fun q => q.hash ≠ reference.hash
      else s.own other := by
  rw [removeOwnReference, own_eraseBack, own_eraseOwn]

lemma back_removeOwnReference :
    (s.removeOwnReference nodeId reference).back other =
      if other = reference.nodeId then
        (s.back reference.nodeId).filter fun q => q.hash ≠ (reference.backward nodeId).hash
      else s.back other := by
  rw [removeOwnReference, back_eraseBack, back_eraseOwn, back_eraseOwn]

end

/-! ### The attributes of the nodes -/

/-- The name and the class of a node, which no operation on its references changes. -/
def attributes (nodeId : NodeIdText) : Option (QualifiedName × NodeClass) :=
  (s.findNode nodeId).map fun node => (node.browseName, node.nodeClass)

section

variable (referenceType : NodeIdText)

/-- The type is in the address space. -/
def isReferenceType : Bool :=
  (s.findReferenceType referenceType).isSome

lemma isReferenceType_eq :
    s.isReferenceType referenceType =
      (s.attributes referenceType).any fun attributes => attributes.2 = .ReferenceType := by
  unfold isReferenceType findReferenceType attributes
  cases s.findNode referenceType with
  | none => rfl
  | some node => by_cases h : node.nodeClass = .ReferenceType <;> simp [Option.filter, h]

lemma isMassivelyUsed_eq :
    s.isMassivelyUsed referenceType =
      (s.attributes referenceType).any fun attributes => attributes.2 = .ReferenceType ∧
        (attributes.1 = ⟨0, some "HasTypeDefinition"⟩ ∨
          attributes.1 = ⟨0, some "HasModellingRule"⟩) := by
  unfold isMassivelyUsed findReferenceType attributes
  cases s.findNode referenceType with
  | none => rfl
  | some node =>
    by_cases h : node.nodeClass = .ReferenceType <;>
      simp [Option.filter, h, _is_massively_used_reference]

end

lemma attributes_isSome (nodeId : NodeIdText) :
    (s.attributes nodeId).isSome = (s.findNode nodeId).isSome := Option.isSome_map

end

lemma attributes_setNode (h : s.findNode nodeId = some node) {other : BaseNodeImpl}
    (hname : other.browseName = node.browseName) (hclass : other.nodeClass = node.nodeClass) :
    (s.setNode nodeId (some other)).attributes = s.attributes := by
  funext nodeId'
  unfold attributes
  rw [findNode_setNode]
  split_ifs with heq
  · rw [heq, h, Option.map_some, Option.map_some, hname, hclass]
  · rfl

section

variable (s : NodeGraph) (nodeId : NodeIdText)

lemma attributes_eraseOwn (hash : Bool × String) :
    (s.eraseOwn nodeId hash).attributes = s.attributes := by
  unfold eraseOwn
  split
  · rfl
  · next node h => exact attributes_setNode h rfl rfl

lemma attributes_eraseBack (hash : Bool × String) :
    (s.eraseBack nodeId hash).attributes = s.attributes := by
  unfold eraseBack
  split
  · rfl
  · next node h => exact attributes_setNode h rfl rfl

variable (reference : ReferenceImpl)

lemma attributes_removeOwnReference :
    (s.removeOwnReference nodeId reference).attributes = s.attributes := by
  rw [removeOwnReference, attributes_eraseBack, attributes_eraseOwn]

lemma attributes_propagate_ref :
    (s._propagate_ref nodeId reference).graph.attributes = s.attributes := by
  unfold _propagate_ref
  split
  · rfl
  · split_ifs
    · rfl
    · split
      · rfl
      · next relatedNode hrel =>
        unfold _add_backward_reference
        split_ifs
        · rfl
        · rfl
        · exact attributes_setNode hrel rfl rfl

lemma attributes_addReference :
    (s.addReference nodeId reference).graph.attributes = s.attributes := by
  unfold addReference
  split
  · rfl
  · next node hnode =>
    unfold BaseNodeImpl.__addReference
    split_ifs
    · rfl
    · rfl
    · dsimp only
      split
      · exact attributes_setNode hnode rfl rfl
      · rw [attributes_propagate_ref]
        exact attributes_setNode hnode rfl rfl

end

/-! ### Loops -/

section Loops

variable {α : Type} {f : NodeGraph → α → Call} {I : NodeGraph → Prop}

lemma callAll_cons (f : NodeGraph → α → Call) (a : α) (as : List α) (s : NodeGraph) :
    callAll f (a :: as) s = (f s a).andThen (callAll f as) := rfl

lemma Call.andThen_eq (call : Call) (next : NodeGraph → Call) :
    (call.thrown = none ∧ call.andThen next = next call.graph) ∨
      (call.thrown ≠ none ∧ call.andThen next = call) := by
  unfold Call.andThen
  cases call.thrown with
  | none => exact Or.inl ⟨rfl, rfl⟩
  | some error => exact Or.inr ⟨nofun, rfl⟩

variable {as : List α}

/-- What the calls of a loop preserve. -/
theorem callAll_invariant (hstep : ∀ s, ∀ a ∈ as, I s → I (f s a).graph)
    {s : NodeGraph} (hs : I s) : I (callAll f as s).graph := by
  induction as generalizing s with
  | nil => exact hs
  | cons a as ih =>
    have ha := hstep s a List.mem_cons_self hs
    rcases (f s a).andThen_eq (callAll f as) with ⟨-, heq⟩ | ⟨-, heq⟩ <;> rw [callAll_cons, heq]
    · exact ih (fun t b hb => hstep t b (List.mem_cons_of_mem _ hb)) ha
    · exact ha

lemma callAll_thrown (h : ∀ s, ∀ a ∈ as, (f s a).thrown = none) (s : NodeGraph) :
    (callAll f as s).thrown = none := by
  induction as generalizing s with
  | nil => rfl
  | cons a as ih =>
    rcases (f s a).andThen_eq (callAll f as) with ⟨-, heq⟩ | ⟨hsome, -⟩
    · rw [callAll_cons, heq]
      exact ih (fun t b hb => h t b (List.mem_cons_of_mem _ hb)) _
    · exact absurd (h s a List.mem_cons_self) hsome

/-- **What a loop does**: what every call does for its element, and no other call undoes, is done for
all the elements when nothing is thrown. -/
theorem callAll_forall {P : α → NodeGraph → Prop} (hstep : ∀ s, ∀ a ∈ as, I s → I (f s a).graph)
    (hdo : ∀ s, ∀ a ∈ as, I s → (f s a).thrown = none → P a (f s a).graph)
    (hkeep : ∀ s, ∀ a ∈ as, ∀ b, I s → P b s → P b (f s a).graph)
    {s : NodeGraph} (hs : I s) (hthrow : (callAll f as s).thrown = none) :
    ∀ a ∈ as, P a (callAll f as s).graph := by
  induction as generalizing s with
  | nil => exact fun a ha => absurd ha List.not_mem_nil
  | cons a as ih =>
    have hmem : ∀ b ∈ as, b ∈ a :: as := fun b hb => List.mem_cons_of_mem _ hb
    have ha := hstep s a List.mem_cons_self hs
    rw [callAll_cons] at hthrow ⊢
    rcases (f s a).andThen_eq (callAll f as) with ⟨hnone, heq⟩ | ⟨hsome, heq⟩
    · rw [heq] at hthrow ⊢
      intro b hb
      rcases List.mem_cons.mp hb with rfl | hb
      · -- the later calls keep what the first one has done
        have hboth := callAll_invariant (I := fun t => I t ∧ P b t)
          (fun t c hc ht => ⟨hstep t c (hmem c hc) ht.1, hkeep t c (hmem c hc) b ht.1 ht.2⟩)
          ⟨ha, hdo s b List.mem_cons_self hs hnone⟩
        exact hboth.2
      · exact ih (fun t c hc => hstep t c (hmem c hc)) (fun t c hc => hdo t c (hmem c hc))
          (fun t c hc => hkeep t c (hmem c hc)) ha hthrow b hb
    · rw [heq] at hthrow
      exact absurd hthrow hsome

end Loops

/-! ### Which node forgets what -/

lemma hasReference_iff (h : s.findNode nodeId = some node) (hash : Bool × String) :
    node.hasReference hash = true ↔ hash ∈ (s.own nodeId).map ReferenceImpl.hash := by
  rw [own_eq h]
  simp [BaseNodeImpl.hasReference]

lemma hasBackReference_iff (h : s.findNode nodeId = some node) (hash : Bool × String) :
    node.hasBackReference hash = true ↔ hash ∈ (s.back nodeId).map ReferenceImpl.hash := by
  rw [back_eq h]
  simp [BaseNodeImpl.hasBackReference]

lemma exists_node_of_own
    (h : hash ∈ (s.own nodeId).map ReferenceImpl.hash) : ∃ node, s.findNode nodeId = some node := by
  cases hnode : s.findNode nodeId with
  | none => rw [own_of_none hnode] at h; cases h
  | some node => exact ⟨node, rfl⟩

lemma exists_node_of_back
    (h : hash ∈ (s.back nodeId).map ReferenceImpl.hash) : ∃ node, s.findNode nodeId = some node := by
  cases hnode : s.findNode nodeId with
  | none => rw [back_of_none hnode] at h; cases h
  | some node => exact ⟨node, rfl⟩

variable {reference : ReferenceImpl}

/-- **A reference that the node declares** is removed from it and from the other node's back
references. -/
theorem removeReference_of_own
    (h : reference.hash ∈ (s.own nodeId).map ReferenceImpl.hash) {relatedNode : BaseNodeImpl}
    (hrel : s.findNode reference.nodeId = some relatedNode) :
    s.removeReference nodeId reference = ⟨s.removeOwnReference nodeId reference, none⟩ := by
  obtain ⟨node, hnode⟩ := exists_node_of_own h
  unfold removeReference
  rw [hnode, hrel]
  dsimp only
  rw [if_pos ((hasReference_iff hnode _).mpr h)]

/-- **A reference that the other node declares** is removed from it and from the node's back
references. -/
theorem removeReference_of_back (hown : reference.hash ∉ (s.own nodeId).map ReferenceImpl.hash)
    (hback : reference.hash ∈ (s.back nodeId).map ReferenceImpl.hash)
    (hrel : (reference.backward nodeId).hash ∈ (s.own reference.nodeId).map ReferenceImpl.hash) :
    s.removeReference nodeId reference =
      ⟨s.removeOwnReference reference.nodeId (reference.backward nodeId), none⟩ := by
  obtain ⟨node, hnode⟩ := exists_node_of_back hback
  obtain ⟨relatedNode, hrelatedNode⟩ := exists_node_of_own hrel
  unfold removeReference
  rw [hnode, hrelatedNode]
  dsimp only
  rw [if_neg (mt (hasReference_iff hnode _).mp hown), if_pos ((hasBackReference_iff hnode _).mpr hback),
    if_pos ((hasReference_iff hrelatedNode _).mpr hrel)]

lemma removeReference_of_not_mem
    (h : reference.hash ∉ (s.allReferences nodeId).map ReferenceImpl.hash) :
    (s.removeReference nodeId reference).graph = s := by
  rw [allReferences, List.map_append, List.mem_append, not_or] at h
  unfold removeReference
  split
  · rfl
  · rfl
  · next node relatedNode hnode _ =>
    rw [if_neg (mt (hasReference_iff hnode _).mp h.1), if_neg (mt (hasBackReference_iff hnode _).mp h.2)]

end NodeGraph

end NodeOpcua
